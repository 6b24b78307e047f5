import RgbppIndexer.Chain.Serve
import RgbppIndexer.Scan.Progress

/-!
# Consuming a malformed cell stalls the scanner

Anybody can create an output under a protocol lock with args that cannot be
parsed. `classify_outputs` skips it, and `process_transaction` skips a
transaction it cannot extract: "one unreadable transaction must not stall the
whole range" (`crates/indexer/src/scanner.rs`). But the search by code hash
matches the output again as an input when it is consumed; it is in no batch and
no table, so `backfill_input` fetches it from the node, and there the same args
are parsed with `?`. The round fails, and so does every later one over the
range.

* `advances_iff`: **a round whose calls all succeed returns `Ok` and publishes
  the end of its range exactly when no transaction of the range consumes an
  output under a protocol lock with unreadable args.**
-/
namespace RgbppIndexer.Bugs.MalformedInput

open RgbppIndexer.Core

/-- The out point names an output under a protocol lock whose args cannot be parsed. -/
def Malformed (ch : Chain) (p : ProtocolScripts) (op : CkbOutPoint) : Prop :=
  ∃ creator output kind, ch.HasOutput op creator output ∧ p.classify output.lock = some kind ∧
    ∀ binding, LockBinding.parse kind output.lock.args ≠ .ok binding

/-- The round returns `Ok`, and if there is a range to read, publishes its end. -/
def Advances [Sha2] (cfg : Config) (env : ScanEnv) (st : Store) : Prop :=
  (∃ round, (scanOnce cfg env st).1 = .ok round) ∧ ∀ fromBlock toBlock, roundRange cfg env st = some (fromBlock, toBlock) →
    ((scanOnce cfg env st).2.checkpoint cfg).number = toBlock.toInt64

section
variable {cfg : Config} {ch : Chain} {env : ScanEnv} {st : Store} {fromBlock toBlock : UInt64}

/-- An output under a protocol lock is readable, or malformed. -/
theorem not_malformed_iff {p : ProtocolScripts} {op : CkbOutPoint} {creator : Located} {output : CellOutput}
    (hout : ch.HasOutput op creator output) {kind : LockKind} (hkind : p.classify output.lock = some kind) :
    ¬ Malformed ch p op ↔ ∃ cell, ch.HasCell p op cell := by
  constructor
  · intro hnot
    cases hparse : LockBinding.parse kind output.lock.args with
    | error e =>
      refine absurd ⟨creator, output, kind, hout, hkind, fun binding h => ?_⟩ hnot
      rw [hparse] at h
      cases h
    | ok binding =>
      have hsame : binding.kind = kind := (LockBinding.encode_parse hparse).2
      exact ⟨⟨creator, output, binding, creator.tx.outputsData.getD op.index.toNat []⟩, hout, rfl,
        by rw [hsame]; exact hkind, by rw [hsame]; exact hparse⟩
  · intro hcell hmalformed
    obtain ⟨cell, hcell⟩ := hcell
    obtain ⟨creator', output', kind', hout', hkind', hparse⟩ := hmalformed
    obtain ⟨rfl, rfl⟩ := hout'.unique hcell.hasOutput
    obtain rfl := Option.some.inj (hkind'.symm.trans hcell.readable.1)
    exact hparse _ hcell.readable.2

/-- What the committed round has read consumes nothing malformed. -/
theorem not_malformed_of_committed [Sha2] {indexed : List Entry} (hmatch : IndexMatch cfg ch indexed st)
    (hserves : Serves ch env.replies) (hcomplete : IndexerComplete ch env.replies) {t : IndexerTip}
    (ht : env.replies.getIndexerTip = .ok (some t)) {st' : Store} {reads : RoundReads} {batch : IndexBatch}
    (hc : Committed cfg env st st' reads batch) {l : Located} {j : Nat} {op : CkbOutPoint} (hspends : ch.Spends l j op)
    (hfrom : (st.nextBlock cfg).toNat ≤ l.height) (hto : l.height ≤ (reads.toBlock cfg st).toNat) :
    ¬ Malformed ch cfg.protocol op := by
  intro hmalformed
  have hmalformed' := hmalformed
  obtain ⟨creator, output, kind, hout, hkind, -⟩ := hmalformed'
  obtain ⟨done, hentries, hmatch'⟩ := hmatch.commit hserves hc
  have htrue := trueMatch_input hspends.spender hspends.input hout hkind
  obtain ⟨record, -, -, hlisted, he⟩ := hc.mem_entries hserves hcomplete ht hentries hspends.spender hfrom hto htrue
  have hj := TxRecord.mem_entry_inputs hspends.spender (List.getElem?_eq_some_iff.mp hspends.input).1 hlisted
  obtain ⟨-, resolved, hres⟩ := hmatch'.good _ (List.mem_append_right _ he)
  obtain ⟨-, -, op', cell, hin, hcell, -⟩ := hres.mem_left hj
  have hop := hin.symm.trans hspends.input
  simp only [Option.some.injEq, RpcCellInput.mk.injEq] at hop
  subst hop
  exact (not_malformed_iff hout hkind).mpr ⟨cell, hcell⟩ hmalformed

variable (env) in
/-- The two readings of a round that collects its range. -/
theorem advances_iff_of_collected [Sha2] {indexed : List Entry} (hmatch : IndexMatch cfg ch indexed st)
    (honChain : ∀ hash, (st.checkpoint cfg).hash = some hash →
      ∃ b, ch.blocks[st.indexedTo cfg]? = some b ∧ b.header.hash.toVec = hash)
    (hserves : Serves ch env.replies) (hcomplete : IndexerComplete ch env.replies) {t : IndexerTip}
    (ht : env.replies.getIndexerTip = .ok (some t)) (hanswers : Answers env)
    (hrange : roundRange cfg env st = some (fromBlock, toBlock)) {records : List TxRecord}
    (hrecords : collectRange cfg env fromBlock toBlock = .ok records) :
    Advances cfg env st ↔ ∀ l j op, ch.Spends l j op → fromBlock.toNat ≤ l.height → l.height ≤ toBlock.toNat →
      ¬ Malformed ch cfg.protocol op := by
  obtain ⟨tip, htip⟩ := hanswers.tip
  obtain ⟨st₀, state, chainTip, target, hnoted, hcp, hchainTip, htarget, habove, rfl, rfl, hround⟩ :=
    scanOnce_active hanswers hrange
  have hnumber : state.lastBlockNumber = (st.checkpoint cfg).number := congrArg Checkpoint.number hcp
  have hhash : state.lastBlockHash = (st.checkpoint cfg).hash := congrArg Checkpoint.hash hcp
  constructor
  · intro hadvances l j op hspends hfrom hto
    obtain ⟨⟨round, hok⟩, -⟩ := hadvances
    rcases hround with ⟨e, -, herror⟩ | ⟨-, -, reads, batch, hc, hsame⟩
    · rw [hok] at herror
      cases herror
    · refine not_malformed_of_committed hmatch hserves hcomplete ht hc hspends ?_ ?_
      · rw [Store.nextBlock, ← hnumber]
        exact hfrom
      · rw [hsame]
        exact hto
  · intro hnone
    have hreadable : ∀ record ∈ records, ∀ l, MergedRecord ch cfg.protocol l record → InputsReadable cfg ch l record := by
      intro record hmem l hl m hm op hin
      obtain ⟨op', creator, output, kind, hin', hout, -, hkind⟩ := hl.input hm
      have hop := hin.symm.trans hin'
      simp only [Option.some.injEq, RpcCellInput.mk.injEq] at hop
      subst hop
      have hinRange := (collectRange_collected hserves.indexer hrecords).inRange record hmem
      rw [hl.blockNumber, UInt64.le_iff_toNat_le, UInt64.le_iff_toNat_le] at hinRange
      exact (not_malformed_iff hout hkind).mp (hnone l _ op ⟨hl.holds, hin⟩ hinRange.1 hinRange.2)
    rw [← hhash, Store.indexedTo, ← hnumber] at honChain
    obtain ⟨built, hbuilt⟩ := buildRound_succeeds hanswers hserves htip (hmatch.noted hnoted) honChain
      (target_le_tip htip hchainTip htarget) habove hrecords hreadable chainTip
    rcases hround with ⟨e, herror, -⟩ | ⟨-, hok, reads, batch, hc, hsame⟩
    · rw [hbuilt] at herror
      cases herror
    · refine ⟨hok, fun fromBlock toBlock heq => ?_⟩
      rw [hrange] at heq
      cases heq
      rw [hc.checkpoint, hsame]

/-- **When a round advances.** -/
theorem advances_iff [Sha2] {errorText : IndexerError → String} {envs : List ScanEnv}
    (hrun : (scanner cfg errorText).Run .empty envs st) (hpast : ∀ e ∈ envs, Serves ch e.replies)
    (hserves : Serves ch env.replies) (hcomplete : IndexerComplete ch env.replies)
    (hreported : env.replies.getIndexerTip ≠ .ok none) (hanswers : Answers env) :
    ∃ fuel, ∀ pageFuel, fuel ≤ pageFuel →
      (Advances cfg { env with pageFuel } st ↔
        ∀ fromBlock toBlock, roundRange cfg env st = some (fromBlock, toBlock) → ∀ l j op, ch.Spends l j op →
          fromBlock.toNat ≤ l.height → l.height ≤ toBlock.toNat → ¬ Malformed ch cfg.protocol op) := by
  have hanswers' : ∀ pageFuel, Answers { env with pageFuel } := fun _ =>
    ⟨hanswers.faults, hanswers.tip, hanswers.indexerTip, hanswers.header, hanswers.transaction, hanswers.page⟩
  obtain ⟨⟨indexed, hmatch⟩, honChain⟩ := OnChain.run hrun hpast
  obtain ⟨tip, htip⟩ := hanswers.tip
  obtain ⟨reported, ht⟩ := hanswers.indexerTip
  cases reported with
  | none => exact absurd ht hreported
  | some t =>
    cases hrange : roundRange cfg env st with
    | none =>
      refine ⟨0, fun pageFuel _ => iff_of_true ⟨scanOnce_idle (hanswers' pageFuel) hrange, fun fromBlock toBlock h => ?_⟩
        fun fromBlock toBlock h => ?_⟩
      · rw [show roundRange cfg { env with pageFuel } st = none from hrange] at h
        cases h
      · cases h
    | some range =>
      obtain ⟨fromBlock, toBlock⟩ := range
      obtain ⟨fuel, hfuel⟩ := collectRange_succeeds hanswers hcomplete ht
        (roundRange_le hrange htip ht).2
      refine ⟨fuel, fun pageFuel hpageFuel => ?_⟩
      obtain ⟨records, hrecords⟩ := hfuel pageFuel hpageFuel
      rw [advances_iff_of_collected { env with pageFuel } hmatch honChain hserves hcomplete ht (hanswers' pageFuel) hrange hrecords]
      simp only [Option.some.injEq, Prod.mk.injEq]
      constructor
      · intro h from' to' heq
        obtain ⟨rfl, rfl⟩ := heq
        exact h
      · intro h
        exact h fromBlock toBlock ⟨rfl, rfl⟩

end

/-! ## The counterexample -/

section
open Sample

local instance : Sha2 := .standard

/-- An output under the RGB++ lock with no args. -/
def unreadable : CellOutput :=
  { (boundOutput 142 btcTxid).cell with lock := { (boundOutput 142 btcTxid).cell.lock with args := [] } }

def creates : RpcTransaction where
  hash := hash 1
  inputs := []
  outputs := [unreadable]
  outputsData := [[]]

def consumes : RpcTransaction where
  hash := hash 2
  inputs := [⟨⟨hash 1, 0⟩⟩]
  outputs := []
  outputsData := []

/-- The output is created in block 2 and consumed in block 3. -/
def stallingChain : Chain := .ofBlocks [block 0 [], block 1 [], block 2 [creates], block 3 [consumes]] (by decide +kernel)

theorem env_answers (ch : Chain) (tip : UInt64) : Answers (env (ch.serve tip)) where
  faults := rfl
  tip := ⟨_, rfl⟩
  indexerTip := ⟨_, rfl⟩
  header _ := ⟨_, rfl⟩
  transaction _ := ⟨_, rfl⟩
  page key limit cursor := by
    unfold env Chain.serve
    dsimp only
    cases key.blockRange with
    | none => exact ⟨_, rfl⟩
    | some range => exact ⟨_, rfl⟩

/-- The round ends in an error of the lock parser. -/
def ParseFails (result : Except IndexerError ScanRound × Store) : Bool :=
  match result.1 with
  | .error (.types _) => true
  | _ => false

theorem not_advances {env : ScanEnv} {st : Store} (h : ParseFails (scanOnce (.testnet 64) env st) = true) :
    ¬ Advances (.testnet 64) env st := by
  intro hadvances
  obtain ⟨⟨round, hok⟩, -⟩ := hadvances
  unfold ParseFails at h
  rw [hok] at h
  cases h

/-- **The round fails**, from the start and again from where it left the database. -/
theorem round_fails :
    Answers (env (stallingChain.serve 3)) ∧ Serves stallingChain (stallingChain.serve 3) ∧
      IndexerComplete stallingChain (stallingChain.serve 3) ∧
      ¬ Advances (.testnet 64) (env (stallingChain.serve 3)) .empty ∧
      ¬ Advances (.testnet 64) (env (stallingChain.serve 3))
        (scannerStep (.testnet 64) (env (stallingChain.serve 3)) (fun _ => "") .empty) := by
  have htip : (3 : UInt64).toNat < stallingChain.blocks.length := by decide +kernel
  have hruns : ParseFails (scanOnce (.testnet 64) (env (stallingChain.serve 3)) .empty) = true ∧
      ParseFails (scanOnce (.testnet 64) (env (stallingChain.serve 3))
        (scannerStep (.testnet 64) (env (stallingChain.serve 3)) (fun _ => "") .empty)) = true := by decide +kernel
  exact ⟨env_answers _ 3, Chain.serve_serves htip, Chain.serve_complete htip, not_advances hruns.1, not_advances hruns.2⟩

/-- The same condition, read on a chain without malformed outputs. -/
theorem advances_iff_first : ∃ fuel, ∀ pageFuel, fuel ≤ pageFuel →
    (Advances (.testnet 64) { env (chain.serve 3) with pageFuel } .empty ↔
      ∀ fromBlock toBlock, roundRange (.testnet 64) (env (chain.serve 3)) .empty = some (fromBlock, toBlock) → ∀ l j op,
        chain.Spends l j op → fromBlock.toNat ≤ l.height → l.height ≤ toBlock.toNat →
        ¬ Malformed chain (Config.testnet 64).protocol op) := by
  have htip : (3 : UInt64).toNat < chain.blocks.length := by decide +kernel
  have hrun : (scanner (.testnet 64) fun _ => "").Run .empty [] .empty := .nil
  exact advances_iff hrun (fun _ hmem => absurd hmem List.not_mem_nil) (Chain.serve_serves htip) (Chain.serve_complete htip)
    (fun h => by cases h) (env_answers chain 3)

end
end RgbppIndexer.Bugs.MalformedInput
