import RgbppIndexer.Chain.Serve
import RgbppIndexer.Scan.Forks

/-!
# Facts of two forks in one index

The scanner's one safety check (docs/reorg.md:25-29; crates/indexer/src/scanner.rs:559-594)
asks whether the node still reports the checkpoint block, "because writing more
facts on top of a fork is the one outcome worth avoiding". It looks at one
block only, the checkpoint, and leaves a checkpoint at block 0 out. Both are
sound as long as the checkpoint stands above everything that is indexed. The
end of a range is `target.min(from + batch_blocks - 1)` (line 148); in a release
build the sum wraps, and the checkpoint moves back below the rows, down to
block 0.

Counterexample: `batch_blocks = u64::MAX - 2`. The second round starts at block
4, so its range ends at block 0 and the checkpoint is the genesis block. The
chain is then reorganised from block 1 on, and the third round indexes the fork
beside the rows of the chain it replaced (`both_forks_indexed`).

* `derived_of_run`: **over any chains the node follows from round to round, if
  every round that reaches its range has one whose end fits, the tables are
  those of the one chain that ends in the checkpoint block**, and a round that
  does not find that block on the node's chain changes nothing.

Fix: compute the end of the range with `saturating_add`.
-/
namespace RgbppIndexer.Bugs.MixedChains

open RgbppIndexer.Core

/-- If the round gets as far as its range, the end of the range fits its integer. -/
def EndFits (cfg : Config) (st : Store) (env : ScanEnv) : Prop :=
  ∀ chainTip target, env.replies.syncedTip = .ok chainTip → cfg.safeCkbTarget chainTip = some target →
    ¬ target.toInt64 ≤ (st.checkpoint cfg).number → RangeFits cfg st

/-- Whenever a checkpoint block is stored, every row is a fact of one of the chains, the one that ends in that block. -/
def Derived [Sha2] (cfg : Config) (chains : Set Chain) (st : Store) : Prop :=
  ∀ hash, (st.checkpoint cfg).hash = some hash → ∃ ch ∈ chains, DerivedFrom cfg ch st

/-- **Runs whose ranges fit never mix chains.** -/
theorem derived_of_run [Sha2] {cfg : Config} {chains : Set Chain} {errorText : IndexerError → String}
    {envs : List ScanEnv} {st : Store} (hvalid : cfg.Valid) (hancestry : SharedAncestry chains)
    (hserves : ∀ env ∈ envs, ∃ ch ∈ chains, Serves ch env.replies)
    (hrun : ((scanner cfg errorText).restrict (EndFits cfg)).Run .empty envs st) :
    Derived cfg chains st ∧ ∀ (env : ScanEnv) (ch : Chain), Serves ch env.replies → ¬ CheckpointOn cfg ch st →
      Noted cfg st (scannerStep cfg env errorText st) := by
  have hanchored : Anchored cfg chains st := by
    have hrun' := Lts.run_restrict_iff.mpr ⟨hrun, hserves⟩
    refine hrun'.keeps (fun s env s' hs hstep => ?_) Anchored.init
    obtain ⟨⟨rfl, hfits⟩, ch, hch, hserves⟩ := hstep
    exact hs.step hancestry hch hserves hvalid.batchBlocks fun reads batch hc => hfits _ _ hc.tip hc.target hc.above
  exact ⟨fun hash hhash => (hanchored.derived hash hhash).2, fun env ch => hanchored.refuses⟩

/-! ## The counterexample -/

section
open Sample

local instance : Sha2 := .standard

/-- The chain the first two rounds meet. -/
def original : Chain := .ofBlocks [block 0 [], block 1 [], block 2 [issuance], block 3 [], block 4 []] (by decide +kernel)

/-- A block of the fork, on top of the one with hash `parent`. -/
def forked (number : UInt64) (parent : UInt8) (txs : List RpcTransaction) : Block where
  header := { hash := hash (number.toUInt8 + 150), number, parentHash := hash parent, timestamp := 1700000000000 }
  txs := txs

/-- What the fork issues instead. -/
def otherIssuance : RpcTransaction := { issuance with hash := hash 2 }

def otherCell : CkbOutPoint := ⟨hash 2, 0⟩

/-- The chain the node follows later: only the genesis block is left. -/
def fork : Chain := .ofBlocks [block 0 [], forked 1 100 [], forked 2 151 [otherIssuance], forked 3 152 []] (by decide +kernel)

theorem agreesUpTo_of_hash {n : Nat} {b b' : Block} (hb : original.blocks[n]? = some b) (hb' : fork.blocks[n]? = some b')
    (hhash : b.header.hash = b'.header.hash) : original.AgreesUpTo fork n := by
  have hlt : n < 4 := (List.getElem?_eq_some_iff.mp hb').1
  have hdiffer : ∀ n < 4, 0 < n → (original.blocks[n]?).map (fun b => b.header.hash) ≠
      (fork.blocks[n]?).map fun b => b.header.hash := by decide +kernel
  by_cases hn : 0 < n
  · have hno := hdiffer n hlt hn
    rw [hb, hb', Option.map_some, Option.map_some, hhash] at hno
    exact absurd rfl hno
  · intro k hk
    obtain rfl : k = 0 := by omega
    rfl

theorem sharedAncestry : SharedAncestry {original, fork} := by
  intro ch hch ch' hch' n b b' hb hb' hhash
  rcases hch with rfl | rfl <;> rcases hch' with rfl | rfl
  · exact fun _ _ => rfl
  · exact agreesUpTo_of_hash hb hb' hhash
  · exact (agreesUpTo_of_hash hb' hb hhash.symm).symm
  · exact fun _ _ => rfl

theorem served : ∀ e ∈ [env (original.serve 3), env (original.serve 4), env (fork.serve 3)],
    ∃ ch ∈ ({original, fork} : Set Chain), Serves ch e.replies := by
  have h3 : (3 : UInt64).toNat < original.blocks.length := by decide +kernel
  have h4 : (4 : UInt64).toNat < original.blocks.length := by decide +kernel
  have hfork : (3 : UInt64).toNat < fork.blocks.length := by decide +kernel
  simp only [List.mem_cons, List.not_mem_nil, or_false, forall_eq_or_imp, forall_eq]
  exact ⟨⟨original, .inl rfl, Chain.serve_serves h3⟩, ⟨original, .inl rfl, Chain.serve_serves h4⟩,
    fork, .inr rfl, Chain.serve_serves hfork⟩

def cfg : Config := .testnet 18446744073709551613

/-- What the first round leaves: blocks 1 to 3 are indexed. -/
def indexed : Store := scannerStep cfg (env (original.serve 3)) (fun _ => "") .empty

/-- What the second round leaves: the checkpoint is the genesis block. -/
def movedBack : Store := scannerStep cfg (env (original.serve 4)) (fun _ => "") indexed

/-- What the third round leaves. -/
def mixed : Store := scannerStep cfg (env (fork.serve 3)) (fun _ => "") movedBack

/-- The cell is of the chain the node has left. -/
theorem not_derived {ch : Chain} (hch : ch ∈ ({original, fork} : Set Chain)) : ¬ DerivedFrom cfg ch mixed := by
  intro h
  obtain ⟨b, hb, hhash⟩ := h.checkpoint (Sample.hash 153).toVec (by decide +kernel)
  obtain ⟨entries, hmatch, -⟩ := h.indexed
  rcases hch with rfl | rfl
  · have hother : (original.blocks[mixed.indexedTo cfg]?).map (fun b => b.header.hash.toVec) ≠ some (Sample.hash 153).toVec := by
      decide +kernel
    rw [hb, Option.map_some, hhash] at hother
    exact hother rfl
  · have hrow : mixed.rgbppCells.get? cell.key ≠ none := by decide +kernel
    obtain ⟨row, hrow⟩ := Option.ne_none_iff_exists'.mp hrow
    obtain ⟨op, c, hkey, hcell, -⟩ := hmatch.cells.row _ _ hrow
    obtain rfl := CkbOutPoint.key_injective hkey
    have hnone : ∀ l ∈ fork.located, l.tx.hash ≠ cell.txHash := by decide +kernel
    exact hnone _ (Chain.mem_located.mpr hcell.hasOutput.holds) hcell.hasOutput.txHash.symm

/-- **The index holds the cells of two forks**, under the checkpoint of one of them. -/
theorem both_forks_indexed :
    cfg.Valid ∧ SharedAncestry {original, fork} ∧
      (∀ e ∈ [env (original.serve 3), env (original.serve 4), env (fork.serve 3)],
        ∃ ch ∈ ({original, fork} : Set Chain), Serves ch e.replies) ∧
      (scanner cfg fun _ => "").Run .empty [env (original.serve 3), env (original.serve 4), env (fork.serve 3)] mixed ∧
      (movedBack.checkpoint cfg).number = 0 ∧
      mixed.rgbppCells.get? cell.key ≠ none ∧ mixed.rgbppCells.get? otherCell.key ≠ none ∧
      ¬ Derived cfg {original, fork} mixed := by
  refine ⟨Config.testnet_valid (by decide), sharedAncestry, served, ?_, by decide +kernel,
    by decide +kernel, by decide +kernel, fun h => ?_⟩
  · exact Lts.Run.cons (t := indexed) rfl (Lts.Run.cons (t := movedBack) rfl (Lts.Run.single rfl))
  · obtain ⟨ch, hch, hderived⟩ := h (Sample.hash 153).toVec (by decide +kernel)
    exact not_derived hch hderived

/-- A round with batches that fit. -/
def fittingRound (st : Store) (replies : Replies) : Store := scannerStep (.testnet 64) (env replies) (fun _ => "") st

/-- The fork has come and gone. -/
def returned : Store :=
  fittingRound (fittingRound (fittingRound .empty (original.serve 3)) (fork.serve 3)) (original.serve 4)

theorem returned_run : ((scanner (.testnet 64) fun _ => "").restrict (EndFits (.testnet 64))).Run .empty
    [env (original.serve 3), env (fork.serve 3), env (original.serve 4)] returned := by
  have hfits : RangeFits (.testnet 64) .empty ∧ RangeFits (.testnet 64) (fittingRound .empty (original.serve 3)) ∧
      RangeFits (.testnet 64) (fittingRound (fittingRound .empty (original.serve 3)) (fork.serve 3)) := by decide +kernel
  exact Lts.Run.cons (t := fittingRound .empty (original.serve 3)) ⟨rfl, fun _ _ _ _ _ => hfits.1⟩
    (Lts.Run.cons (t := fittingRound (fittingRound .empty (original.serve 3)) (fork.serve 3))
      ⟨rfl, fun _ _ _ _ _ => hfits.2.1⟩ (Lts.Run.single ⟨rfl, fun _ _ _ _ _ => hfits.2.2⟩))

/-- The round that met the fork changed nothing, and the chain was picked up again. -/
theorem derived_of_run_returned : (returned.checkpoint (.testnet 64)).number = 4 ∧ Derived (.testnet 64) {original, fork} returned ∧
    ∀ (e : ScanEnv) (ch : Chain), Serves ch e.replies → ¬ CheckpointOn (.testnet 64) ch returned →
      Noted (.testnet 64) returned (scannerStep (.testnet 64) e (fun _ => "") returned) := by
  have hserved : ∀ e ∈ [env (original.serve 3), env (fork.serve 3), env (original.serve 4)],
      ∃ ch ∈ ({original, fork} : Set Chain), Serves ch e.replies := by
    intro e he
    refine served e ?_
    simp only [List.mem_cons] at he ⊢
    tauto
  exact ⟨by decide +kernel, derived_of_run (Config.testnet_valid (by decide)) sharedAncestry
    hserved returned_run⟩

end
end RgbppIndexer.Bugs.MixedChains
