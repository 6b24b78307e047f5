import RgbppIndexer.Indexer.Extract

/-!
# What a commitment pre-image binds

`expected_commitment` (`crates/indexer/src/extract.rs:158-177`) hashes the
RGB++ inputs and outputs of a transaction with the Bitcoin txid of each
output's lock args zeroed: the commitment is published in the transaction
whose txid that is, so the txid cannot be part of it.

* `placeheld`: the committed form of an output, and `committedOutput_eq`:
  the rewrite never fails on a classified output.
* `placeheld_eq_iff`: two outputs have the same committed form exactly when
  they agree except for the txid.
* `preimage_eq_iff`: **two pre-images are the same bytes exactly when the
  inputs are the same and the outputs agree except for the txid.** So the
  pre-image is blind to the txid and to nothing else.
-/
namespace RgbppIndexer

open RgbppIndexer.Core

/-- Two classified outputs that differ at most in the Bitcoin txid their
lock args end with. -/
structure AgreeExceptTxid (o o' : RgbppOutput) : Prop where
  capacity : o.cell.capacity = o'.cell.capacity
  codeHash : o.cell.lock.codeHash = o'.cell.lock.codeHash
  hashType : o.cell.lock.hashType = o'.cell.lock.hashType
  type_ : o.cell.type_ = o'.cell.type_
  data : o.data = o'.data
  args : ∃ rest, o.cell.lock.args = rest ++ o.binding.txid.toInternalBytes ∧
    o'.cell.lock.args = rest ++ o'.binding.txid.toInternalBytes

/-- An output as `classify_outputs` finds it under a protocol configuration. -/
def Classified (p : ProtocolScripts) (o : RgbppOutput) : Prop := Readable p o.cell o.binding

/-- The committed form of an output: placeholder instead of the txid. -/
def placeheld (o : RgbppOutput) : CellOutput × Bytes :=
  ({ o.cell with
    lock := { o.cell.lock with args := o.binding.argsBeforeTxid ++ BtcTxid.placeholder.toInternalBytes } }, o.data)

section
variable {p : ProtocolScripts} {o o' : RgbppOutput}

theorem Classified.args_eq (h : Classified p o) :
    o.cell.lock.args = o.binding.argsBeforeTxid ++ o.binding.txid.toInternalBytes := by
  rw [← LockBinding.encode_eq, (LockBinding.encode_parse h.2).1]

theorem committedOutput_eq (h : Classified p o) : committedOutput o = .ok (placeheld o) := by
  rw [committedOutput, argsWithPlaceholderTxid_eq h.2]; rfl

theorem committedOutputs_eq {os : List RgbppOutput} (h : ∀ o ∈ os, Classified p o) :
    os.mapM committedOutput = .ok (os.map placeheld) := by
  rw [mapM_eq_ok, List.forall₂_map_right_iff, List.forall₂_same]
  exact fun o ho => committedOutput_eq (h o ho)

theorem placeheld_eq_iff (h : Classified p o) (h' : Classified p o') :
    placeheld o = placeheld o' ↔ AgreeExceptTxid o o' := by
  constructor
  · intro he
    simp only [placeheld, Prod.mk.injEq, CellOutput.mk.injEq, Script.mk.injEq] at he
    obtain ⟨⟨hcap, ⟨hcode, hhash, hargs⟩, htype⟩, hdata⟩ := he
    have hbefore := (List.append_inj' hargs rfl).1
    exact ⟨hcap, hcode, hhash, htype, hdata, o.binding.argsBeforeTxid, h.args_eq, by rw [hbefore]; exact h'.args_eq⟩
  · rintro ⟨hcap, hcode, hhash, htype, hdata, rest, hrest, hrest'⟩
    have hb := (List.append_inj' (h.args_eq.symm.trans hrest) (by simp)).1
    have hb' := (List.append_inj' (h'.args_eq.symm.trans hrest') (by simp)).1
    simp only [placeheld, hcap, hcode, hhash, htype, hdata, hb, hb']

/-- The rewrite keeps every length, so the size headers fit before and after. -/
theorem committedFits_placeheld (h : Classified p o) : CommittedFits (placeheld o) ↔ CommittedFits (o.cell, o.data) := by
  have hlen : (encodeCellOutput (placeheld o).1).length = (encodeCellOutput o.cell).length := by
    rw [encodeCellOutput_length, encodeCellOutput_length, encodeScript_length, encodeScript_length, h.args_eq]
    simp [placeheld]
  rw [CommittedFits, CommittedFits, hlen]; rfl

end

/-- The committed part of classified outputs. -/
def committedPart (inputs : List ResolvedInput) (outputs : List RgbppOutput) : CommitmentPreimage :=
  .new (inputs.map ResolvedInput.outPoint) (outputs.map placeheld)

theorem expectedPreimage_eq {p : ProtocolScripts} {inputs : List ResolvedInput} {outputs : List RgbppOutput}
    (hout : ∀ o ∈ outputs, Classified p o) :
    expectedPreimage inputs outputs =
      if inputs = [] ∧ outputs = [] then none else some (committedPart inputs outputs) := by
  simp only [expectedPreimage, List.isEmpty_iff, committedOutputs_eq hout]; rfl

theorem committedPart_encode_inj {p : ProtocolScripts} {inputs inputs' : List ResolvedInput}
    {outputs outputs' : List RgbppOutput}
    (hout : ∀ o ∈ outputs, Classified p o ∧ CommittedFits (o.cell, o.data))
    (hout' : ∀ o ∈ outputs', Classified p o ∧ CommittedFits (o.cell, o.data))
    (hin : inputs.length ≤ 255) (hin' : inputs'.length ≤ 255)
    (hlen : outputs.length ≤ 255) (hlen' : outputs'.length ≤ 255) :
    (committedPart inputs outputs).encode = (committedPart inputs' outputs').encode ↔
      committedPart inputs outputs = committedPart inputs' outputs' := by
  have hfits : ∀ os : List RgbppOutput, (∀ o ∈ os, Classified p o ∧ CommittedFits (o.cell, o.data)) →
      ∀ c ∈ os.map placeheld, CommittedFits c := by
    intro os hos c hc
    obtain ⟨o, ho, rfl⟩ := List.mem_map.mp hc
    exact (committedFits_placeheld (hos o ho).1).mpr (hos o ho).2
  constructor
  · exact CommitmentPreimage.encode_inj rfl (by simpa [committedPart, CommitmentPreimage.new] using hin)
      (by simpa [committedPart, CommitmentPreimage.new] using hin')
      (by simpa [committedPart, CommitmentPreimage.new] using hlen)
      (by simpa [committedPart, CommitmentPreimage.new] using hlen') (hfits _ hout) (hfits _ hout')
  · exact congrArg CommitmentPreimage.encode

theorem placeheld_map_eq_iff {p : ProtocolScripts} {outputs outputs' : List RgbppOutput}
    (hout : ∀ o ∈ outputs, Classified p o) (hout' : ∀ o ∈ outputs', Classified p o) :
    outputs.map placeheld = outputs'.map placeheld ↔ List.Forall₂ AgreeExceptTxid outputs outputs' := by
  induction outputs generalizing outputs' with
  | nil => cases outputs' <;> simp
  | cons o os ih =>
    cases outputs' with
    | nil => simp
    | cons o' os' =>
      obtain ⟨ho, hos⟩ := List.forall_mem_cons.mp hout
      obtain ⟨ho', hos'⟩ := List.forall_mem_cons.mp hout'
      rw [List.map_cons, List.map_cons, List.cons.injEq, List.forall₂_cons, placeheld_eq_iff ho ho', ih hos hos']

/-- **Two pre-images are equal exactly when the inputs are equal and the
outputs agree pointwise except for the embedded Bitcoin txid.** -/
theorem preimage_eq_iff (p : ProtocolScripts) (inputs inputs' : List ResolvedInput) (outputs outputs' : List RgbppOutput)
    (hout : ∀ o ∈ outputs, Classified p o) (hout' : ∀ o ∈ outputs', Classified p o)
    (hin : inputs.length ≤ 255) (hin' : inputs'.length ≤ 255)
    (hlen : outputs.length ≤ 255) (hlen' : outputs'.length ≤ 255)
    (hfit : ∀ o ∈ outputs, CommittedFits (o.cell, o.data)) (hfit' : ∀ o ∈ outputs', CommittedFits (o.cell, o.data)) :
    (expectedPreimage inputs outputs).map CommitmentPreimage.encode =
        (expectedPreimage inputs' outputs').map CommitmentPreimage.encode ↔
      inputs.map ResolvedInput.outPoint = inputs'.map ResolvedInput.outPoint ∧
        List.Forall₂ AgreeExceptTxid outputs outputs' := by
  rw [expectedPreimage_eq hout, expectedPreimage_eq hout', ← placeheld_map_eq_iff hout hout']
  have hinj := committedPart_encode_inj (fun o ho => ⟨hout o ho, hfit o ho⟩)
    (fun o ho => ⟨hout' o ho, hfit' o ho⟩) hin hin' hlen hlen'
  have hparts : committedPart inputs outputs = committedPart inputs' outputs' ↔
      inputs.map ResolvedInput.outPoint = inputs'.map ResolvedInput.outPoint ∧
        outputs.map placeheld = outputs'.map placeheld := by
    simp only [committedPart, CommitmentPreimage.new, CommitmentPreimage.mk.injEq, true_and]
  by_cases he : inputs = [] ∧ outputs = [] <;> by_cases he' : inputs' = [] ∧ outputs' = []
  · simp only [he, he', and_self, if_true]
  -- Only one side hashes anything: one of its lists is non-empty, the other side's are both empty.
  · rw [if_pos he, if_neg he', he.1, he.2]
    simp only [Option.map_none, Option.map_some, reduceCtorEq, List.map_nil, false_iff]
    rintro ⟨h₁, h₂⟩
    exact he' ⟨List.map_eq_nil_iff.mp h₁.symm, List.map_eq_nil_iff.mp h₂.symm⟩
  · rw [if_neg he, if_pos he', he'.1, he'.2]
    simp only [Option.map_none, Option.map_some, reduceCtorEq, List.map_nil, false_iff]
    rintro ⟨h₁, h₂⟩
    exact he ⟨List.map_eq_nil_iff.mp h₁, List.map_eq_nil_iff.mp h₂⟩
  · rw [if_neg he, if_neg he', Option.map_some, Option.map_some, Option.some.injEq, hinj, hparts]

/-- A cell of the sample deployment bound to output 0 of a Bitcoin transaction. -/
def boundOutput (capacity : UInt64) (txid : BtcTxid) : RgbppOutput where
  index := 0
  binding := .rgbpp ⟨0, txid⟩
  cell :=
    { capacity
      lock :=
        { codeHash := ProtocolScripts.testnet.rgbppLock.codeHash, hashType := .type,
          args := (RgbppLockArgs.mk 0 txid).encode }
      type_ := none }
  data := []

theorem boundOutput_classified (capacity : UInt64) (txid : BtcTxid) : Classified .testnet (boundOutput capacity txid) :=
  ⟨rfl, by rw [boundOutput, LockBinding.kind, LockBinding.parse, RgbppLockArgs.parse_encode]; rfl⟩

theorem boundOutput_fits (capacity : UInt64) (txid : BtcTxid) :
    CommittedFits ((boundOutput capacity txid).cell, (boundOutput capacity txid).data) := by
  have hargs : (RgbppLockArgs.mk 0 txid).encode.length = 36 := by simp [RgbppLockArgs.encode]
  refine ⟨?_, by simp [boundOutput]⟩
  rw [encodeCellOutput_length, encodeScript_length]
  simp [boundOutput, encodeScriptOpt, hargs]

/-- An input of the sample deployment. -/
def boundInput (index : UInt32) : ResolvedInput where
  inputIndex := index
  outPoint := ⟨⟨.filled 32 1⟩, index⟩
  binding := (boundOutput 142 .placeholder).binding
  cell := (boundOutput 142 .placeholder).cell
  data := []

/-- With two inputs and two outputs: rebinding both outputs to another transaction leaves the pre-image as it is;
exchanging the inputs, or the outputs, does not. -/
theorem preimage_eq_iff_rebound :
    let encoded := fun inputs outputs => (expectedPreimage inputs outputs).map CommitmentPreimage.encode
    let txid : BtcTxid := ⟨.filled 32 7⟩
    let outputs := [boundOutput 142 .placeholder, boundOutput 200 .placeholder]
    encoded [boundInput 0, boundInput 1] [boundOutput 142 txid, boundOutput 200 txid] =
        encoded [boundInput 0, boundInput 1] outputs ∧
      encoded [boundInput 1, boundInput 0] outputs ≠ encoded [boundInput 0, boundInput 1] outputs ∧
      encoded [boundInput 0, boundInput 1] outputs.reverse ≠ encoded [boundInput 0, boundInput 1] outputs := by
  intro encoded txid outputs
  have hclassified : ∀ (a b : UInt64) (t : BtcTxid), ∀ o ∈ [boundOutput a t, boundOutput b t], Classified .testnet o := by
    simp [boundOutput_classified]
  have hfits : ∀ (a b : UInt64) (t : BtcTxid), ∀ o ∈ [boundOutput a t, boundOutput b t],
      CommittedFits (o.cell, o.data) := by
    simp [boundOutput_fits]
  refine ⟨?_, fun h => ?_, fun h => ?_⟩
  · refine (preimage_eq_iff .testnet [boundInput 0, boundInput 1] [boundInput 0, boundInput 1]
      [boundOutput 142 txid, boundOutput 200 txid] outputs (hclassified _ _ _) (hclassified _ _ _) (by decide) (by decide)
      (by simp) (by simp [outputs]) (hfits _ _ _) (hfits _ _ _)).mpr ⟨rfl, ?_⟩
    exact .cons ⟨rfl, rfl, rfl, rfl, rfl, _, rfl, rfl⟩ (.cons ⟨rfl, rfl, rfl, rfl, rfl, _, rfl, rfl⟩ .nil)
  · have hinputs := ((preimage_eq_iff .testnet [boundInput 1, boundInput 0] [boundInput 0, boundInput 1] outputs outputs
      (hclassified _ _ _) (hclassified _ _ _) (by decide) (by decide) (by simp [outputs]) (by simp [outputs])
      (hfits _ _ _) (hfits _ _ _)).mp h).1
    exact absurd hinputs (by decide)
  · have hagree := ((preimage_eq_iff .testnet [boundInput 0, boundInput 1] [boundInput 0, boundInput 1] outputs.reverse
      outputs (hclassified _ _ _) (hclassified _ _ _) (by decide) (by decide) (by simp [outputs]) (by simp [outputs])
      (hfits _ _ _) (hfits _ _ _)).mp h).2
    exact absurd (List.forall₂_cons.mp hagree).1.capacity (by decide)

end RgbppIndexer
