import RgbppIndexer.Chain.Serve
import RgbppIndexer.Scan.Runs

/-!
# An indexer without a tip is taken to be complete

`CkbClient::synced_tip` (`crates/ckb/src/client.rs`) is "the highest block it
is safe to read from both endpoints", because a range the rich indexer has not
populated is answered with "no transactions" rather than "not yet" — "a silent
data loss". But when the rich indexer reports no tip yet, it returns the node's
tip: a rich indexer that has populated nothing is read up to that tip, the
checkpoint moves there, and the range is never read again.

* `populatedTo_iff`: a committed round stays below what the rich indexer has
  populated exactly when a tip was reported to it.
* `populated_of_run`: **in runs in which the rich indexer always reports a tip,
  no checkpoint is above it, and every block up to the checkpoint was read
  from an indexer that had populated it.**
-/
namespace RgbppIndexer.Bugs.UnreachedRange

open RgbppIndexer.Core

/-- The rich indexer has populated the blocks up to `n`. -/
def PopulatedTo (r : Replies) (n : Nat) : Prop := ∃ t, r.getIndexerTip = .ok (some t) ∧ n ≤ t.blockNumber.toNat

section
variable [Sha2] {cfg : Config} {ch : Chain} {env : ScanEnv} {errorText : IndexerError → String} {envs : List ScanEnv}
  {st : Store} {reads : RoundReads} {n : Nat}

variable (cfg errorText) in
/-- A round of the run that committed, from the database `st`. -/
def Commits (envs : List ScanEnv) (env : ScanEnv) (st : Store) (reads : RoundReads) : Prop :=
  ∃ before after batch, envs = before ++ env :: after ∧ (scanner cfg errorText).Run .empty before st ∧
    Committed cfg env st (scannerStep cfg env errorText st) reads batch

variable (cfg errorText) in
/-- The block was in the range of such a round, and populated when the round read it. -/
def Searched (envs : List ScanEnv) (n : Nat) : Prop :=
  ∃ env st reads, Commits cfg errorText envs env st reads ∧ (st.nextBlock cfg).toNat ≤ n ∧
    n ≤ (reads.toBlock cfg st).toNat ∧ PopulatedTo env.replies n

theorem Commits.mem (h : Commits cfg errorText envs env st reads) : env ∈ envs := by
  obtain ⟨before, after, -, rfl, -⟩ := h
  simp

theorem Commits.snoc (h : Commits cfg errorText envs env st reads) (later : ScanEnv) :
    Commits cfg errorText (envs ++ [later]) env st reads := by
  obtain ⟨before, after, batch, rfl, hrest⟩ := h
  exact ⟨before, after ++ [later], batch, by simp, hrest⟩

theorem Searched.snoc (h : Searched cfg errorText envs n) (later : ScanEnv) : Searched cfg errorText (envs ++ [later]) n := by
  obtain ⟨env, st, reads, hcommits, hrest⟩ := h
  exact ⟨env, st, reads, hcommits.snoc later, hrest⟩

/-- **When a round stays below what is populated.** -/
theorem populatedTo_iff {st' : Store} {batch : IndexBatch} (hc : Committed cfg env st st' reads batch) :
    PopulatedTo env.replies (reads.toBlock cfg st).toNat ↔ env.replies.getIndexerTip ≠ .ok none := by
  constructor
  · intro hpopulated hnone
    obtain ⟨t, ht, -⟩ := hpopulated
    rw [hnone] at ht
    cases ht
  · intro htip
    obtain ⟨t, ht⟩ := hc.reported htip
    exact ⟨t, ht, UInt64.le_iff_toNat_le.mp (hc.toBlock_le_reported ht)⟩

/-! ## The range of a round -/

omit [Sha2] in
/-- It starts above the checkpoint of a fresh stream. -/
theorem checkpoint_lt_nextBlock (cfg : Config) :
    (Store.empty.checkpoint cfg).number.toUInt64.toNat < (Store.empty.nextBlock cfg).toNat := by
  rw [nextBlock_empty, checkpoint_empty]
  dsimp only
  rw [UInt64.toUInt64_toInt64]
  by_cases h : cfg.ckb.startBlock = 0
  · rw [if_pos h, if_pos h]
    decide
  · have hone : (1 : UInt64).toNat = 1 := rfl
    have hpos : 0 < cfg.ckb.startBlock.toNat := Nat.pos_of_ne_zero fun hzero => h (UInt64.toNat_inj.mp hzero)
    have hlt := cfg.ckb.startBlock.toNat_lt
    rw [if_neg h, if_neg h, UInt64.toNat_sub, hone]
    omega

omit [Sha2] in
/-- A block before the next range is not above the checkpoint, or before the first block. -/
theorem le_checkpoint_of_lt (hfirst : (Store.empty.nextBlock cfg).toNat ≤ n) (hn : n < (st.nextBlock cfg).toNat) :
    n ≤ (st.checkpoint cfg).number.toUInt64.toNat := by
  have hstart : cfg.ckb.startBlock.toNat ≤ (Store.empty.nextBlock cfg).toNat := by
    rw [nextBlock_empty]
    by_cases h : cfg.ckb.startBlock = 0
    · simp [h]
    · rw [if_neg h]
  have hone : (1 : Int64).toUInt64 = 1 := rfl
  have hnext : st.nextBlock cfg = (st.checkpoint cfg).number.toUInt64 + 1 ∨ st.nextBlock cfg = cfg.ckb.startBlock := by
    unfold Store.nextBlock rangeFrom
    show (if _ ≤ _ then _ else _ : Int64).toUInt64 = _ ∨ (if _ ≤ _ then _ else _ : Int64).toUInt64 = _
    by_cases hle : (st.checkpoint cfg).number + 1 ≤ cfg.ckb.startBlock.toInt64
    · right
      rw [if_pos hle, UInt64.toUInt64_toInt64]
    · left
      rw [if_neg hle, Int64.toUInt64_add, hone]
  rcases hnext with hnext | hnext
  · rw [hnext, UInt64.toNat_add] at hn
    have honeNat : (1 : UInt64).toNat = 1 := rfl
    rw [honeNat] at hn
    have hmod := Nat.mod_le ((st.checkpoint cfg).number.toUInt64.toNat + 1) (2 ^ 64)
    omega
  · rw [hnext] at hn
    omega

/-! ## Runs -/

/-- A round that reads a reported tip extends what is searched up to its checkpoint. -/
theorem searched_step {before : List ScanEnv} (hrun : (scanner cfg errorText).Run .empty before st)
    (htip : env.replies.getIndexerTip ≠ .ok none)
    (h : ∀ n, (Store.empty.nextBlock cfg).toNat ≤ n → n ≤ (st.checkpoint cfg).number.toUInt64.toNat →
      Searched cfg errorText before n) (hfirst : (Store.empty.nextBlock cfg).toNat ≤ n)
    (hn : n ≤ ((scannerStep cfg env errorText st).checkpoint cfg).number.toUInt64.toNat) :
    Searched cfg errorText (before ++ [env]) n := by
  rcases scannerStep_cases cfg env errorText st with hnoted | ⟨reads, batch, hc⟩
  · rw [hnoted.checkpoint] at hn
    exact (h n hfirst hn).snoc env
  · rw [hc.checkpoint] at hn
    dsimp only at hn
    rw [UInt64.toUInt64_toInt64] at hn
    by_cases hnext : n < (st.nextBlock cfg).toNat
    · exact (h n hfirst (le_checkpoint_of_lt hfirst hnext)).snoc env
    · obtain ⟨t, ht, hle⟩ := (populatedTo_iff hc).mpr htip
      exact ⟨env, st, reads, ⟨before, [], batch, rfl, hrun, hc⟩, Nat.not_lt.mp hnext, hn, t, ht, hn.trans hle⟩

/-- What a round reads of a populated block is every transaction that touches a protocol lock. -/
theorem Searched.read (h : Searched cfg errorText envs n)
    (hserves : ∀ env ∈ envs, Serves ch env.replies ∧ IndexerComplete ch env.replies) {l : Located} (hl : ch.Holds l)
    (hheight : l.height = n) {kind : LockKind} {c : MatchedCell} (hmatch : TrueMatch ch (lockSearchScript cfg.protocol kind) l c) :
    ∃ env st reads, Commits cfg errorText envs env st reads ∧
      ∃ record ∈ reads.records, record.txHash = l.tx.hash ∧ c ∈ record.cells := by
  obtain ⟨env, st, reads, hcommits, hfrom, hto, t, ht, hle⟩ := h
  obtain ⟨hindexer, hcomplete⟩ := hserves env hcommits.mem
  have hcommits' := hcommits
  obtain ⟨before, after, batch, -, -, hc⟩ := hcommits'
  obtain ⟨record, hmem, hmerged, hcell⟩ := collectRange_complete hindexer.indexer hcomplete ht
    (hc.toBlock_le_reported ht) hc.records hl (by omega) (by omega) hmatch
  exact ⟨env, st, reads, hcommits, record, hmem, hmerged.txHash, hcell⟩

/-- **No checkpoint passes what the rich indexer has populated**, in runs in which it always reports a tip: so every
block from the first to the checkpoint was read once it was populated, and with it whatever touches a protocol lock. -/
theorem populated_of_run
    (hrun : ((scanner cfg errorText).restrict fun _ env => env.replies.getIndexerTip ≠ .ok none).Run .empty envs st) :
    (∀ env s reads, Commits cfg errorText envs env s reads → PopulatedTo env.replies (reads.toBlock cfg s).toNat) ∧
      (∀ n, (Store.empty.nextBlock cfg).toNat ≤ n → n ≤ (st.checkpoint cfg).number.toUInt64.toNat →
        Searched cfg errorText envs n) ∧
      ∀ ch, (∀ env ∈ envs, Serves ch env.replies ∧ IndexerComplete ch env.replies) → ∀ l kind c, ch.Holds l →
        (Store.empty.nextBlock cfg).toNat ≤ l.height → l.height ≤ (st.checkpoint cfg).number.toUInt64.toNat →
        TrueMatch ch (lockSearchScript cfg.protocol kind) l c →
        ∃ env s reads, Commits cfg errorText envs env s reads ∧
          ∃ record ∈ reads.records, record.txHash = l.tx.hash ∧ c ∈ record.cells := by
  obtain ⟨hplain, htips⟩ := Lts.run_restrict_iff.mp hrun
  have hsearched : ∀ n, (Store.empty.nextBlock cfg).toNat ≤ n → n ≤ (st.checkpoint cfg).number.toUInt64.toNat →
      Searched cfg errorText envs n := by
    refine (hrun.keeps_history (I := fun ls t => (scanner cfg errorText).Run .empty ls t ∧
      ∀ n, (Store.empty.nextBlock cfg).toNat ≤ n → n ≤ (t.checkpoint cfg).number.toUInt64.toNat →
        Searched cfg errorText ls n) ?_ ⟨.nil, ?_⟩).2
    · intro ls s env t ih hstep
      obtain ⟨hls, ih⟩ := ih
      obtain ⟨heq, htip⟩ := hstep
      refine ⟨hls.snoc heq, fun n hfirst hn => ?_⟩
      rw [show t = _ from heq] at hn
      exact searched_step hls htip ih hfirst hn
    · -- the first range starts above the checkpoint of a fresh stream
      intro n hfirst hn
      exact absurd hn (Nat.not_le.mpr (Nat.lt_of_lt_of_le (checkpoint_lt_nextBlock cfg) hfirst))
  refine ⟨?_, hsearched, ?_⟩
  · intro env s reads hcommits
    have htip := htips env hcommits.mem
    obtain ⟨before, after, batch, -, -, hc⟩ := hcommits
    exact (populatedTo_iff hc).mpr htip
  · intro ch hserves l kind c hl hlo hhi hmatch
    exact (hsearched l.height hlo hhi).read hserves hl rfl hmatch

end

/-! ## The counterexample -/

section
open Sample

local instance : Sha2 := .standard

/-- The node is at block 2, and the rich indexer has populated nothing yet. -/
def starting : Replies :=
  { chain.serve 2 with
    getIndexerTip := .ok none
    getTransactionsPage := fun _ _ _ _ => .ok { objects := [], lastCursor := [] } }

theorem starting_serves : Serves chain starting ∧ IndexerComplete chain starting := by
  have hserves : Serves chain (chain.serve 2) := Chain.serve_serves (by decide +kernel)
  refine ⟨⟨⟨hserves.node.tip_lt, hserves.node.header_sound, hserves.node.header_complete, hserves.node.transaction⟩, ?_⟩, ?_⟩
  · intro script fromBlock toBlock limit cursor page hpage record hmem
    cases hpage
    cases hmem
  · intro t ht
    cases ht

/-- The rich indexer has caught up in the second round. -/
def rounds : List ScanEnv := [env starting, env (chain.serve 3)]

/-- What the first round leaves, and then the second. -/
def passed : Store := scannerStep (.testnet 64) (env starting) (fun _ => "") .empty

def caughtUp : Store := scannerStep (.testnet 64) (env (chain.serve 3)) (fun _ => "") passed

/-- **The issuance is lost**: the first round commits a checkpoint above its block, and the second does not read it. -/
theorem issuance_lost :
    (∀ e ∈ rounds, Serves chain e.replies ∧ IndexerComplete chain e.replies) ∧
      (scanner (.testnet 64) fun _ => "").Run .empty rounds caughtUp ∧
      (∃ reads, Commits (.testnet 64) (fun _ => "") rounds (env starting) .empty reads ∧
        ¬ PopulatedTo starting (reads.toBlock (.testnet 64) .empty).toNat) ∧
      (passed.checkpoint (.testnet 64)).number = 2 ∧ (caughtUp.checkpoint (.testnet 64)).number = 3 ∧
      (∃ output, chain.outputAt cell = some output) ∧ caughtUp.rgbppCells.get? cell.key = none := by
  have hruns : (passed.checkpoint (.testnet 64)).number = 2 ∧ (caughtUp.checkpoint (.testnet 64)).number = 3 ∧
      (chain.outputAt cell).isSome = true ∧ caughtUp.rgbppCells.get? cell.key = none := by decide +kernel
  obtain ⟨hpassed, hcaughtUp, houtput, hnone⟩ := hruns
  have hserves : ∀ e ∈ rounds, Serves chain e.replies ∧ IndexerComplete chain e.replies := by
    have htip : (3 : UInt64).toNat < chain.blocks.length := by decide +kernel
    simp only [rounds, List.mem_cons, List.not_mem_nil, or_false, forall_eq_or_imp, forall_eq]
    exact ⟨starting_serves, Chain.serve_serves htip, Chain.serve_complete htip⟩
  refine ⟨hserves, .cons rfl (.single rfl), ?_, hpassed, hcaughtUp, Option.isSome_iff_exists.mp houtput, hnone⟩
  rcases scannerStep_cases (.testnet 64) (env starting) (fun _ => "") .empty with hnoted | ⟨reads, batch, hc⟩
  · have hfresh : (Store.empty.checkpoint (.testnet 64)).number = 0 := by decide +kernel
    have hsame := congrArg Checkpoint.number hnoted.checkpoint
    rw [hfresh] at hsame
    exact absurd (hpassed.symm.trans hsame) (by decide)
  · refine ⟨reads, ⟨[], [env (chain.serve 3)], batch, rfl, .nil, hc⟩, fun hpopulated => ?_⟩
    exact (populatedTo_iff hc).mp hpopulated rfl

/-- Once the round reads a tip, block 2 is read when it was populated. -/
theorem populated_of_run_rounds : Searched (.testnet 64) (fun _ => "") [env (chain.serve 2)] 2 := by
  have hrun : ((scanner (.testnet 64) fun _ => "").restrict fun _ env => env.replies.getIndexerTip ≠ .ok none).Run .empty
      [env (chain.serve 2)] (scannerStep (.testnet 64) (env (chain.serve 2)) (fun _ => "") .empty) :=
    .single ⟨rfl, fun h => by cases h⟩
  exact (populated_of_run hrun).2.1 2 (by decide +kernel) (by decide +kernel)

end
end RgbppIndexer.Bugs.UnreachedRange
