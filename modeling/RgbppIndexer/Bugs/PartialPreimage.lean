import RgbppIndexer.Chain.Serve
import RgbppIndexer.Indexer.Preimage
import RgbppIndexer.Indexer.Scanner

/-!
# A digest over what could be read

`expected_commitment` "returns `None` if any output's args cannot be rewritten,
since a partially placeholdered pre-image would produce a confident-looking
wrong answer" (crates/indexer/src/extract.rs:156-157). It never sees such an
output: `classify_outputs` has skipped it (extract.rs:66-78), as the input loop
has skipped the inputs it cannot resolve
(crates/indexer/src/scanner.rs:332-343). The digest is taken over the rest.

Counterexample: a transaction with one readable output under the RGB++ lock
and one whose lock args are empty. Its transition records a digest
(`partial_hashed`).

* `unhashed_iff`: **a digest over a part is recorded exactly when something was
  dropped and something was left.**
-/
namespace RgbppIndexer.Bugs.PartialPreimage

open RgbppIndexer.Core

/-- What `process_transaction` is called with. -/
structure Call where
  cfg : Config
  env : ScanEnv
  st : Store
  record : TxRecord
  block : BlockContext
  tx : RpcTransaction
  status : TxStatus
  batch : IndexBatch
  round : ScanRound

namespace Call

def withStatus (c : Call) : TransactionWithStatus where
  transaction := some c.tx
  txStatus := c.status

def run [Sha2] (c : Call) : Except IndexerError (IndexBatch × ScanRound) :=
  processTransaction c.cfg c.env c.st c.record c.block c.withStatus c.batch c.round

/-- A matched input is resolved to `res` when its turn comes; to `none` if it cannot be. -/
def Resolves (c : Call) (state : InputLoop) (m : MatchedCell) (res : Option ResolvedInput) : Prop :=
  ∃ input batch round, c.tx.inputs[m.ioIndex.toNat]? = some input ∧
    resolveInput c.cfg c.env c.st input.previousOutput m.ioIndex state.2.1 state.2.2 = .ok (res, batch, round)

/-- One of the matches `ms` is resolved to `res`, in the loop that starts in `state`. -/
def ResolvesFrom (c : Call) : InputLoop → List MatchedCell → Option ResolvedInput → Prop
  | _, [], _ => False
  | state, m :: ms, res => c.Resolves state m res ∨
    ∃ state', resolveMatched c.cfg c.env c.st c.record c.tx state m = .ok state' ∧ c.ResolvesFrom state' ms res

/-- Some matched input of the transaction is resolved to `res`. -/
def ResolvesTo (c : Call) : Option ResolvedInput → Prop := c.ResolvesFrom ([], c.batch, c.round) (matchedInputs c.record)

/-- An output under a protocol lock with args that do not parse, or a matched input that cannot be resolved. -/
def Dropped (c : Call) : Prop :=
  (∃ output ∈ c.tx.outputs, ∃ kind e, c.cfg.protocol.classify output.lock = some kind ∧
    LockBinding.parse kind output.lock.args = .error e) ∨ c.ResolvesTo none

/-- A readable output, or a matched input that is resolved. -/
def Left (c : Call) : Prop :=
  (∃ output ∈ c.tx.outputs, ∃ binding, Readable c.cfg.protocol output binding) ∨ ∃ input, c.ResolvesTo (some input)

/-- No digest is recorded for a transaction something of which was dropped. -/
def Unhashed [Sha2] (c : Call) : Prop :=
  c.Dropped → ∀ batch round recorded, c.run = .ok (batch, round) → batch.transitions = c.batch.transitions ++ recorded →
    ∀ t ∈ recorded, t.expectedCommitment = none

end Call

section
variable {c : Call} {state state' : InputLoop} {m : MatchedCell} {ms : List MatchedCell}

/-- One pass of the input loop. -/
theorem resolveMatched_eq_ok (h : resolveMatched c.cfg c.env c.st c.record c.tx state m = .ok state') :
    ∃ res, state'.1 = state.1 ++ res.toList ∧ ∀ res', c.Resolves state m res' ↔ res' = res := by
  unfold resolveMatched at h
  unfold Call.Resolves
  cases hin : c.tx.inputs[m.ioIndex.toNat]? with
  | none =>
    rw [hin] at h
    cases h
  | some input =>
    rw [hin] at h
    dsimp only at h
    rw [bind_eq_ok] at h
    obtain ⟨⟨res, batch, round⟩, hres, hstate⟩ := h
    refine ⟨res, ?_, fun res' => ⟨?_, ?_⟩⟩
    · cases res with
      | none =>
        rw [← pure_eq_ok.mp hstate, Option.toList_none, List.append_nil]
      | some r =>
        rw [← pure_eq_ok.mp hstate, Option.toList_some]
    · rintro ⟨_, batch', round', hsome, hres'⟩
      obtain rfl := Option.some.inj hsome
      rw [hres] at hres'
      cases hres'
      rfl
    · rintro rfl
      exact ⟨input, batch, round, rfl, hres⟩

/-- What a loop that succeeds has resolved. -/
theorem mem_resolved (h : ms.foldlM (resolveMatched c.cfg c.env c.st c.record c.tx) state = .ok state')
    (x : ResolvedInput) : x ∈ state'.1 ↔ x ∈ state.1 ∨ c.ResolvesFrom state ms (some x) := by
  induction ms generalizing state with
  | nil =>
    rw [List.foldlM_nil, pure_eq_ok] at h
    subst h
    simp [Call.ResolvesFrom]
  | cons m ms ih =>
    rw [List.foldlM_cons, bind_eq_ok] at h
    obtain ⟨middle, hm, hrest⟩ := h
    obtain ⟨res, hmiddle, hres⟩ := resolveMatched_eq_ok hm
    have hhere : x ∈ res.toList ↔ c.Resolves state m (some x) := by
      rw [hres, Option.mem_toList]
      exact eq_comm
    have hlater : (∃ next, resolveMatched c.cfg c.env c.st c.record c.tx state m = .ok next ∧
        c.ResolvesFrom next ms (some x)) ↔ c.ResolvesFrom middle ms (some x) := by
      constructor
      · rintro ⟨next, hnext, hx⟩
        rw [hm] at hnext
        cases hnext
        exact hx
      · intro hx
        exact ⟨middle, hm, hx⟩
    rw [ih hrest, hmiddle, List.mem_append, hhere, Call.ResolvesFrom, hlater]
    exact or_assoc

theorem length_resolved_le (h : ms.foldlM (resolveMatched c.cfg c.env c.st c.record c.tx) state = .ok state') :
    state'.1.length ≤ state.1.length + ms.length := by
  induction ms generalizing state with
  | nil =>
    rw [List.foldlM_nil, pure_eq_ok] at h
    subst h
    simp
  | cons m ms ih =>
    rw [List.foldlM_cons, bind_eq_ok] at h
    obtain ⟨middle, hm, hrest⟩ := h
    obtain ⟨res, hmiddle, -⟩ := resolveMatched_eq_ok hm
    have hlater := ih hrest
    have hone : res.toList.length ≤ 1 := by cases res <;> simp
    rw [hmiddle, List.length_append] at hlater
    rw [List.length_cons]
    omega

/-- A loop that resolves as many as it is given leaves none. -/
theorem all_resolved (h : ms.foldlM (resolveMatched c.cfg c.env c.st c.record c.tx) state = .ok state')
    (hlen : state'.1.length = state.1.length + ms.length) : ¬ c.ResolvesFrom state ms none := by
  induction ms generalizing state with
  | nil => exact id
  | cons m ms ih =>
    rw [List.foldlM_cons, bind_eq_ok] at h
    obtain ⟨middle, hm, hrest⟩ := h
    obtain ⟨res, hmiddle, hres⟩ := resolveMatched_eq_ok hm
    have hlater := length_resolved_le hrest
    rw [List.length_cons] at hlen
    cases res with
    | none =>
      rw [hmiddle, Option.toList_none, List.append_nil] at hlater
      omega
    | some r =>
      rintro (hhere | ⟨next, hnext, hnone⟩)
      · cases (hres none).mp hhere
      · rw [hm] at hnext
        cases hnext
        refine ih hrest ?_ hnone
        rw [hmiddle, Option.toList_some, List.length_append, List.length_singleton]
        omega

theorem classifyOutputs_ne_nil_iff {p : ProtocolScripts} {outputs : List CellOutput} (datas : List Bytes) :
    classifyOutputs p outputs datas ≠ [] ↔ ∃ output ∈ outputs, ∃ binding, Readable p output binding := by
  unfold classifyOutputs
  constructor
  · intro h
    obtain ⟨o, ho⟩ := List.exists_mem_of_ne_nil _ h
    obtain ⟨⟨output, i⟩, hmem, hsome⟩ := List.mem_filterMap.mp ho
    exact ⟨output, List.mem_of_getElem? (List.mk_mem_zipIdx_iff_getElem?.mp hmem), o.binding, (classifyOutput_eq_some.mp hsome).1⟩
  · rintro ⟨output, hmem, binding, hread⟩
    obtain ⟨i, hi⟩ := List.mem_iff_getElem?.mp hmem
    have hsome : classifyOutput p datas i output = some ⟨UInt32.ofNat i, binding, output, datas.getD i []⟩ :=
      classifyOutput_eq_some.mpr ⟨hread, rfl, rfl, rfl⟩
    exact List.ne_nil_of_mem (List.mem_filterMap.mpr ⟨(output, i), List.mk_mem_zipIdx_iff_getElem?.mpr hi, hsome⟩)

theorem classified_of_mem {p : ProtocolScripts} {outputs : List CellOutput} {datas : List Bytes} {o : RgbppOutput}
    (ho : o ∈ classifyOutputs p outputs datas) : Classified p o := by
  obtain ⟨⟨output, i⟩, -, hsome⟩ := List.mem_filterMap.mp ho
  obtain ⟨hread, -, hcell, -⟩ := classifyOutput_eq_some.mp hsome
  unfold Classified
  rw [hcell]
  exact hread

/-- What is left is hashed: a transition that is recorded has a digest. -/
theorem expectedCommitment_isSome [Sha2] {p : ProtocolScripts} {inputs : List ResolvedInput} {outputs : List CellOutput}
    {datas : List Bytes} (h : ¬ (inputs = [] ∧ classifyOutputs p outputs datas = [])) :
    (expectedCommitment inputs (classifyOutputs p outputs datas)).isSome = true := by
  unfold expectedCommitment
  rw [expectedPreimage_eq fun o ho => classified_of_mem ho, if_neg h]
  rfl

/-- What is recorded for a transaction that is accepted: nothing if nothing is left of it, else one transition. -/
theorem recorded_eq [Sha2] {after : IndexBatch × ScanRound} (h : c.run = .ok after) :
    ∃ inputs batch round,
      (matchedInputs c.record).foldlM (resolveMatched c.cfg c.env c.st c.record c.tx) ([], c.batch, c.round) =
        .ok (inputs, batch, round) ∧
      after.1.transitions = c.batch.transitions ++
        if classifyOutputs c.cfg.protocol c.tx.outputs c.tx.outputsData = [] ∧ inputs = [] then []
        else [transitionOf c.record.txHash c.block inputs (classifyOutputs c.cfg.protocol c.tx.outputs c.tx.outputsData)] := by
  unfold Call.run processTransaction Call.withStatus at h
  dsimp only at h
  rw [bind_eq_ok] at h
  obtain ⟨⟨inputs, batch, round⟩, hloop, hafter⟩ := h
  refine ⟨inputs, batch, round, hloop, ?_⟩
  have hframe : batch.transitions = c.batch.transitions := (inputLoop_cellsAdded hloop).cells.transitions
  unfold extract at hafter
  simp only [List.isEmpty_iff] at hafter
  split at hafter
  · next extracted hextract =>
    rw [pure_eq_ok] at hafter
    subst hafter
    split at hextract
    · cases hextract
    · next hne =>
      cases hextract
      rw [if_neg hne, hframe]
      rfl
  · next e hextract =>
    rw [pure_eq_ok] at hafter
    subst hafter
    split at hextract
    · next hnil => rw [if_pos hnil, hframe, List.append_nil]
    · cases hextract

theorem left_iff {inputs : List ResolvedInput} {batch : IndexBatch} {round : ScanRound}
    (hloop : (matchedInputs c.record).foldlM (resolveMatched c.cfg c.env c.st c.record c.tx) ([], c.batch, c.round) =
      .ok (inputs, batch, round)) :
    c.Left ↔ ¬ (classifyOutputs c.cfg.protocol c.tx.outputs c.tx.outputsData = [] ∧ inputs = []) := by
  have hmem : ∀ x, x ∈ inputs ↔ c.ResolvesTo (some x) := fun x =>
    (mem_resolved hloop x).trans (or_iff_right List.not_mem_nil)
  have hinputs : inputs ≠ [] ↔ ∃ input, c.ResolvesTo (some input) := by
    rw [List.ne_nil_iff_exists_cons]
    constructor
    · rintro ⟨x, rest, rfl⟩
      exact ⟨x, (hmem x).mp List.mem_cons_self⟩
    · rintro ⟨x, hx⟩
      exact List.ne_nil_iff_exists_cons.mp (List.ne_nil_of_mem ((hmem x).mpr hx))
  unfold Call.Left
  rw [← classifyOutputs_ne_nil_iff c.tx.outputsData, ← hinputs]
  tauto

/-- Of something that is left, a digest is recorded. -/
theorem recorded_of_left [Sha2] {after : IndexBatch × ScanRound} (h : c.run = .ok after) (hleft : c.Left) :
    ∃ t, after.1.transitions = c.batch.transitions ++ [t] ∧ t.expectedCommitment ≠ none := by
  obtain ⟨inputs, batch, round, hloop, hrecorded⟩ := recorded_eq h
  rw [left_iff hloop] at hleft
  rw [if_neg hleft] at hrecorded
  refine ⟨_, hrecorded, fun hnone => ?_⟩
  have hne : ¬ (inputs = [] ∧ classifyOutputs c.cfg.protocol c.tx.outputs c.tx.outputsData = []) := fun hnil =>
    hleft ⟨hnil.2, hnil.1⟩
  have hdigest := expectedCommitment_isSome hne
  unfold transitionOf at hnone
  rw [Option.map_eq_none_iff] at hnone
  rw [hnone] at hdigest
  cases hdigest

/-- Of nothing, no transition is. -/
theorem recorded_of_nothing [Sha2] {after : IndexBatch × ScanRound} (h : c.run = .ok after) (hleft : ¬ c.Left) :
    after.1.transitions = c.batch.transitions := by
  obtain ⟨inputs, batch, round, hloop, hrecorded⟩ := recorded_eq h
  rw [left_iff hloop, not_not] at hleft
  rw [hrecorded, if_pos hleft, List.append_nil]

/-- A digest over a part contradicts the property. -/
theorem not_unhashed [Sha2] {after : IndexBatch × ScanRound} (h : c.run = .ok after) (hdropped : c.Dropped)
    (hleft : c.Left) : ¬ c.Unhashed := by
  intro hunhashed
  obtain ⟨t, hrecorded, hdigest⟩ := recorded_of_left h hleft
  exact hdigest (hunhashed hdropped after.1 after.2 [t] h hrecorded t (List.mem_singleton_self t))

/-- **When no digest over a part is recorded.** -/
theorem unhashed_iff [Sha2] {after : IndexBatch × ScanRound} (h : c.run = .ok after) :
    c.Unhashed ↔ ¬ (c.Dropped ∧ c.Left) := by
  constructor
  · rintro hunhashed ⟨hdropped, hleft⟩
    exact not_unhashed h hdropped hleft hunhashed
  · intro hno hdropped batch round recorded hrun hadded t ht
    rw [h] at hrun
    cases hrun
    have hnothing := recorded_of_nothing h fun hleft => hno ⟨hdropped, hleft⟩
    rw [hnothing] at hadded
    rw [List.self_eq_append_right.mp hadded] at ht
    cases ht

end

/-! ## The counterexample -/

section
open Sample

local instance partialHash : Sha2 := .standard

/-- An output under the RGB++ lock whose args are empty. -/
def unreadable : CellOutput where
  capacity := 142
  lock := { (boundOutput 142 btcTxid).cell.lock with args := [] }
  type_ := none

/-- The transaction of a record without matched inputs, with the outputs `outputs`. -/
def call (outputs : List CellOutput) : Call where
  cfg := .testnet 64
  env := env (chain.serve 3)
  st := .empty
  record := { txHash := hash 4, blockNumber := 2, txIndex := 0, cells := [] }
  block := { number := 2, hash := hash 102, timestamp := 0, txIndex := 0 }
  tx := { hash := hash 4, inputs := [], outputs, outputsData := [[], []] }
  status := { status := .committed, blockNumber := some 2, blockHash := some (hash 102) }
  batch := {}
  round := {}

/-- One readable output, and the unreadable one. -/
def half : Call := call [(boundOutput 142 btcTxid).cell, unreadable]

theorem half_accepted : ∃ after, half.run = .ok after := exists_ok_of_isOk (by decide +kernel)

theorem half_dropped : half.Dropped :=
  .inl ⟨unreadable, by simp [half, call], .rgbpp, _, by decide +kernel, rfl⟩

theorem half_left : half.Left :=
  .inl ⟨(boundOutput 142 btcTxid).cell, by simp [half, call], (boundOutput 142 btcTxid).binding, by decide +kernel,
    by decide +kernel⟩

/-- **The readable output alone is hashed.** -/
theorem partial_hashed : (∃ after, half.run = .ok after) ∧ half.Dropped ∧ ¬ half.Unhashed := by
  obtain ⟨after, hrun⟩ := half_accepted
  exact ⟨⟨after, hrun⟩, half_dropped, not_unhashed hrun half_dropped half_left⟩

theorem unhashed_iff_half : half.Unhashed ↔ ¬ (half.Dropped ∧ half.Left) := by
  obtain ⟨after, hrun⟩ := half_accepted
  exact unhashed_iff hrun

end
end RgbppIndexer.Bugs.PartialPreimage
