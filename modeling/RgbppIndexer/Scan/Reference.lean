import Mathlib.Data.List.Perm.Basic
import RgbppIndexer.Scan.Index

/-!
# One reference pass over the chain

What the tables should hold after blocks `lo..hi`, computed from the chain
alone: no rounds, no batches, no database.

* `referenceCell`: the row of an out point. A readable cell has one if it was
  created in the range, or if it was created before it and consumed in it.
* `referenceTransition`: the row of a transaction, but for its commitment.
* `EqualsReference`: a database whose two tables are these.
-/
namespace RgbppIndexer

open RgbppIndexer.Core

namespace Chain

variable (ch : Chain)

/-- The readable cell under an out point. -/
def cellAt (p : ProtocolScripts) (op : CkbOutPoint) : Option ChainCell :=
  match ch.located.find? fun l => l.tx.hash = op.txHash with
  | none => none
  | some creator =>
    match creator.tx.outputs[op.index.toNat]? with
    | none => none
    | some output => (classifyOutput p creator.tx.outputsData op.index.toNat output).map creator.cellOf

/-- The transactions of blocks `lo..hi`. -/
def between (lo hi : Nat) : List Located := ch.located.filter fun l => lo ≤ l.height ∧ l.height ≤ hi

/-- Input `j`, if it consumes a readable cell. -/
def readableInput (p : ProtocolScripts) (l : Located) (j : Nat) : Option ResolvedInput :=
  match l.tx.inputs[j]? with
  | none => none
  | some input => (ch.cellAt p input.previousOutput).map fun cell => resolvedOf input.previousOutput cell (UInt32.ofNat j)

/-- The inputs that consume readable cells, in input order. -/
def readableInputs (p : ProtocolScripts) (l : Located) : List ResolvedInput :=
  (List.range l.tx.inputs.length).filterMap (ch.readableInput p l)

/-- Who consumes the out point, in blocks `lo..hi`. -/
def consumptionIn (lo hi : Nat) (op : CkbOutPoint) : Option Consumption :=
  (ch.between lo hi).findSome? fun l => (l.tx.inputs.findIdx? fun i => i.previousOutput = op).map l.consumption

/-- The row of an out point after blocks `lo..hi`. -/
def referenceCell (cfg : Config) (lo hi : Nat) (op : CkbOutPoint) : Option CellRecord :=
  match ch.cellAt cfg.protocol op with
  | none => none
  | some cell =>
    let consumed := ch.consumptionIn lo hi op
    if lo ≤ cell.creator.height ∧ cell.creator.height ≤ hi then
      some { (cell.newCell cfg.assets op cell.created).record with consumed }
    else if consumed.isSome then some { (cell.newCell cfg.assets op cell.backfilled).record with consumed }
    else none

/-- The row of a transaction after blocks `lo..hi`, without its commitment. -/
def referenceTransition [Sha2] (p : ProtocolScripts) (lo hi : Nat) (txHash : H256) : Option TransitionRecord :=
  match (ch.between lo hi).find? fun l => l.tx.hash = txHash with
  | none => none
  | some l =>
    if (l.outputs p).isEmpty ∧ (ch.readableInputs p l).isEmpty then none
    else
      some { (transitionOf l.tx.hash l.context (ch.readableInputs p l) (l.outputs p)).record with
        expectedCommitment := none }

/-- The two tables are those of the reference pass; the commitment the code expects is left aside. -/
structure EqualsReference [Sha2] (cfg : Config) (lo hi : Nat) (st : Store) : Prop where
  cells : ∀ op : CkbOutPoint, st.rgbppCells.get? op.key = ch.referenceCell cfg lo hi op
  cellKeys : ∀ key row, st.rgbppCells.get? key = some row → ∃ op : CkbOutPoint, key = op.key
  transitions : ∀ txHash : H256, ((st.rgbppTransitions.get? txHash.toVec).map fun r => { r with expectedCommitment := none }) =
    ch.referenceTransition cfg.protocol lo hi txHash
  transitionKeys : ∀ key row, st.rgbppTransitions.get? key = some row → ∃ txHash : H256, key = txHash.toVec

/-! ## The reference pass reads the chain -/

variable {ch} {p : ProtocolScripts} {l : Located} {op : CkbOutPoint}

theorem mem_between {lo hi : Nat} : l ∈ ch.between lo hi ↔ ch.Holds l ∧ lo ≤ l.height ∧ l.height ≤ hi := by
  unfold between
  rw [List.mem_filter, mem_located, decide_eq_true_eq]

theorem cellAt_eq_some {cell : ChainCell} : ch.cellAt p op = some cell ↔ ch.HasCell p op cell := by
  unfold cellAt
  constructor
  · intro h
    cases hfind : ch.located.find? fun l => l.tx.hash = op.txHash with
    | none => rw [hfind] at h; cases h
    | some creator =>
      rw [hfind] at h
      dsimp only at h
      have hheld := mem_located.mp (List.mem_of_find?_eq_some hfind)
      have hhash := List.find?_some hfind
      simp only [decide_eq_true_eq] at hhash
      cases hout : creator.tx.outputs[op.index.toNat]? with
      | none => rw [hout] at h; cases h
      | some output =>
        rw [hout] at h
        dsimp only at h
        rw [Option.map_eq_some_iff] at h
        obtain ⟨o, ho, rfl⟩ := h
        obtain ⟨hread, hindex, hcell, hdata⟩ := classifyOutput_eq_some.mp ho
        have hop : op = ⟨creator.tx.hash, o.index⟩ := by
          rw [hindex, hhash, UInt32.ofNat_toNat]
        rw [hop]
        exact hasCell_of_mem_outputs hheld (mem_outputs.mpr ⟨_, output, hout, ho⟩)
  · intro h
    have hfind := find?_located h.hasOutput.holds
    rw [h.hasOutput.txHash, hfind]
    dsimp only
    rw [h.hasOutput.output]
    dsimp only
    have hclass : classifyOutput p cell.creator.tx.outputsData op.index.toNat cell.output =
        some { index := op.index, binding := cell.binding, cell := cell.output, data := cell.data } :=
      classifyOutput_eq_some.mpr ⟨h.readable, UInt32.ofNat_toNat.symm, rfl, h.data⟩
    rw [hclass]
    rfl

theorem readableInput_eq_some {j : Nat} {r : ResolvedInput} : ch.readableInput p l j = some r ↔
    ∃ op cell, l.tx.inputs[j]? = some ⟨op⟩ ∧ ch.HasCell p op cell ∧ r = resolvedOf op cell (UInt32.ofNat j) := by
  unfold readableInput
  cases hin : l.tx.inputs[j]? with
  | none => simp
  | some input =>
    obtain ⟨op⟩ := input
    dsimp only
    rw [Option.map_eq_some_iff]
    constructor
    · rintro ⟨cell, hcell, rfl⟩
      exact ⟨op, cell, rfl, cellAt_eq_some.mp hcell, rfl⟩
    · rintro ⟨op', cell, hop, hcell, rfl⟩
      simp only [Option.some.injEq, RpcCellInput.mk.injEq] at hop
      subst hop
      exact ⟨cell, cellAt_eq_some.mpr hcell, rfl⟩

/-- The input indices the reference pass resolves. -/
def readableIndices (ch : Chain) (p : ProtocolScripts) (l : Located) : List Nat :=
  (List.range l.tx.inputs.length).filter fun j => (ch.readableInput p l j).isSome

theorem nodup_readableIndices : (ch.readableIndices p l).Nodup := List.nodup_range.filter _

theorem mem_readableIndices {j : Nat} : j ∈ ch.readableIndices p l ↔
    ∃ op cell, l.tx.inputs[j]? = some ⟨op⟩ ∧ ch.HasCell p op cell := by
  unfold readableIndices
  rw [List.mem_filter, List.mem_range, Option.isSome_iff_exists]
  constructor
  · rintro ⟨-, r, hr⟩
    obtain ⟨op, cell, hin, hcell, -⟩ := readableInput_eq_some.mp hr
    exact ⟨op, cell, hin, hcell⟩
  · rintro ⟨op, cell, hin, hcell⟩
    exact ⟨(List.getElem?_eq_some_iff.mp hin).1, _, readableInput_eq_some.mpr ⟨op, cell, hin, hcell, rfl⟩⟩

theorem resolves_readableInputs : Resolves ch p l (ch.readableIndices p l) (ch.readableInputs p l) := by
  have hgeneral : ∀ js : List Nat, List.Forall₂ (fun j r => ch.readableInput p l j = some r)
      (js.filter fun j => (ch.readableInput p l j).isSome) (js.filterMap (ch.readableInput p l)) := by
    intro js
    induction js with
    | nil => exact .nil
    | cons j js ih =>
      cases hj : ch.readableInput p l j with
      | none =>
        rw [List.filter_cons_of_neg (by simp [hj]), List.filterMap_cons_none hj]
        exact ih
      | some r =>
        rw [List.filter_cons_of_pos (by simp [hj]), List.filterMap_cons_some hj]
        exact .cons hj ih
  exact (hgeneral _).imp fun _ _ h => readableInput_eq_some.mp h

/-! ## An index that covers a range -/

end Chain

/-- The entry has every readable input of its transaction, once. -/
structure Entry.Full (ch : Chain) (p : ProtocolScripts) (e : Entry) : Prop where
  nodup : e.inputs.Nodup
  complete : ∀ (j : Nat) (op : CkbOutPoint) (cell : ChainCell), e.place.tx.inputs[j]? = some ⟨op⟩ → ch.HasCell p op cell → j ∈ e.inputs

/-- The transaction has something readable to index. -/
def Relevant (ch : Chain) (p : ProtocolScripts) (l : Located) : Prop :=
  l.outputs p ≠ [] ∨ ∃ (j : Nat) (op : CkbOutPoint) (cell : ChainCell), l.tx.inputs[j]? = some ⟨op⟩ ∧ ch.HasCell p op cell

/-- The entries are the transactions of blocks `lo..hi`, in full; none is missing. -/
structure Covers (ch : Chain) (p : ProtocolScripts) (lo hi : Nat) (entries : List Entry) : Prop where
  range : ∀ e ∈ entries, lo ≤ e.place.height ∧ e.place.height ≤ hi
  full : ∀ e ∈ entries, e.Full ch p
  complete : ∀ l, ch.Holds l → lo ≤ l.height → l.height ≤ hi → Relevant ch p l → ∃ e ∈ entries, e.place = l

section
variable {ch : Chain} {p : ProtocolScripts} {entries done : List Entry} {first top lo hi : Nat}

/-- Before the first block there is nothing to cover. -/
theorem Covers.nil (hlt : top < first) : Covers ch p first top [] where
  range := nofun
  full := nofun
  complete := by
    intro l _ hlo hhi
    omega

/-- Coverage grows when the next range leaves no gap. -/
theorem Covers.append (h : Covers ch p first top entries) (hdone : Covers ch p lo hi done) (hfirst : first ≤ lo)
    (hgap : lo ≤ max first (top + 1)) : Covers ch p first (max top hi) (entries ++ done) where
  range := by
    intro e he
    rcases List.mem_append.mp he with he | he
    · obtain ⟨hlo, hle⟩ := h.range e he
      omega
    · obtain ⟨hlo, hle⟩ := hdone.range e he
      omega
  full := by
    intro e he
    rcases List.mem_append.mp he with he | he
    · exact h.full e he
    · exact hdone.full e he
  complete := by
    intro l hl hlo hle hrelevant
    by_cases hindexed : l.height ≤ top
    · obtain ⟨e, he, hplace⟩ := h.complete l hl hlo hindexed hrelevant
      exact ⟨e, List.mem_append_left _ he, hplace⟩
    · obtain ⟨e, he, hplace⟩ := hdone.complete l hl (by omega) (by omega) hrelevant
      exact ⟨e, List.mem_append_right _ he, hplace⟩

end

namespace Chain

variable {ch : Chain} {p : ProtocolScripts} {op : CkbOutPoint} {entries : List Entry} {lo hi : Nat}

/-- A full entry resolves to the inputs of the reference pass, in some order. -/
theorem perm_readableInputs {e : Entry} (hfull : e.Full ch p) {rs : List ResolvedInput}
    (hres : Resolves ch p e.place e.inputs rs) : rs.Perm (ch.readableInputs p e.place) := by
  have hindices : e.inputs.Perm (ch.readableIndices p e.place) := by
    rw [List.perm_ext_iff_of_nodup hfull.nodup nodup_readableIndices]
    intro j
    rw [mem_readableIndices]
    constructor
    · intro hj
      obtain ⟨r, -, op, cell, hin, hcell, -⟩ := hres.mem_left hj
      exact ⟨op, cell, hin, hcell⟩
    · rintro ⟨op, cell, hin, hcell⟩
      exact hfull.complete j op cell hin hcell
  obtain ⟨rs', hres', hperm⟩ := List.perm_comp_forall₂ hindices resolves_readableInputs
  rw [hres.unique hres']
  exact hperm

/-- Who consumes a readable cell is decided by the entries that cover the range. -/
theorem consumedBy_iff (hgood : ∀ e ∈ entries, e.Good ch p) (hcovers : Covers ch p lo hi entries) {cell : ChainCell}
    (hcell : ch.HasCell p op cell) (c : Consumption) : ConsumedBy entries op c ↔ ch.consumptionIn lo hi op = some c := by
  have hfound : ∀ l ∈ ch.between lo hi, ∀ j, (l.tx.inputs.findIdx? fun i => i.previousOutput = op) = some j →
      l.tx.inputs[j]? = some ⟨op⟩ := by
    intro l _ j hj
    rw [List.findIdx?_eq_some_iff_getElem] at hj
    obtain ⟨hlt, hprev, -⟩ := hj
    rw [List.getElem?_eq_getElem hlt]
    simp only [decide_eq_true_eq] at hprev
    rw [← hprev]
  constructor
  · rintro ⟨e, he, j, hj, hin, rfl⟩
    have hmem : e.place ∈ ch.between lo hi := mem_between.mpr ⟨(hgood e he).holds, hcovers.range e he⟩
    unfold consumptionIn
    cases hfind : (ch.between lo hi).findSome? fun l =>
        (l.tx.inputs.findIdx? fun i => i.previousOutput = op).map l.consumption with
    | none =>
      have hno := List.findSome?_eq_none_iff.mp hfind e.place hmem
      rw [Option.map_eq_none_iff, List.findIdx?_eq_none_iff] at hno
      have hno' := hno _ (List.mem_of_getElem? hin)
      simp at hno'
    | some c =>
      obtain ⟨l, hl, hc⟩ := List.exists_of_findSome?_eq_some hfind
      rw [Option.map_eq_some_iff] at hc
      obtain ⟨j', hj', rfl⟩ := hc
      obtain ⟨rfl, rfl⟩ := spends_unique hcell.hasOutput ⟨(mem_between.mp hl).1, hfound l hl j' hj'⟩
        ⟨(hgood e he).holds, hin⟩
      rfl
  · intro h
    obtain ⟨l, hl, hc⟩ := List.exists_of_findSome?_eq_some h
    rw [Option.map_eq_some_iff] at hc
    obtain ⟨j, hj, rfl⟩ := hc
    obtain ⟨hholds, hlo, hhi⟩ := mem_between.mp hl
    have hin := hfound l hl j hj
    obtain ⟨e, he, rfl⟩ := hcovers.complete l hholds hlo hhi (.inr ⟨j, op, cell, hin, hcell⟩)
    exact ⟨e, he, j, (hcovers.full e he).complete j op cell hin hcell, hin, rfl⟩

/-- Which readable cells were created in the range is decided by the entries that cover it. -/
theorem createdBy_iff (hgood : ∀ e ∈ entries, e.Good ch p) (hcovers : Covers ch p lo hi entries) {cell : ChainCell}
    (hcell : ch.HasCell p op cell) : CreatedBy entries op ↔ lo ≤ cell.creator.height ∧ cell.creator.height ≤ hi := by
  constructor
  · rintro ⟨e, he, hhash⟩
    have hsame : cell.creator = e.place :=
      ch.hash_injective _ _ hcell.hasOutput.holds (hgood e he).holds (hcell.hasOutput.txHash.symm.trans hhash)
    rw [hsame]
    exact hcovers.range e he
  · rintro ⟨hlo, hhi⟩
    have hholds := hcell.hasOutput.holds
    obtain ⟨o, ho, -⟩ := mem_outputs_of_hasCell hholds hcell hcell.hasOutput.txHash
    obtain ⟨e, he, hplace⟩ := hcovers.complete _ hholds hlo hhi (.inl (List.ne_nil_of_mem ho))
    exact ⟨e, he, by rw [hplace, hcell.hasOutput.txHash]⟩

/-- A row is its body, its anchor and its consumption. -/
theorem row_eq {assets : AssetScripts} {cell : ChainCell} {anchor : Anchor} {row : CellRecord}
    (hbody : row.toCellBody = cell.body assets) (hanchor : row.anchor = anchor) :
    row = { (cell.newCell assets op anchor).record with consumed := row.consumed } := by
  obtain ⟨body, number, hash, index, consumed⟩ := row
  dsimp only at hbody
  subst hbody hanchor
  rfl

/-- But for the commitment, a transition does not depend on the order of the inputs. -/
theorem transitionOf_perm [Sha2] {rs rs' : List ResolvedInput} (h : rs.Perm rs') (txHash : H256) (block : BlockContext)
    (outputs : List RgbppOutput) :
    ({ (transitionOf txHash block rs outputs).record with expectedCommitment := none } : TransitionRecord) =
      { (transitionOf txHash block rs' outputs).record with expectedCommitment := none } := by
  have hlength := h.length_eq
  have hbtcTime := (h.filter fun i => i.binding.kind = .btcTime).length_eq
  unfold transitionOf NewTransition.record classifyTransition
  dsimp only
  rw [hlength, hbtcTime]

theorem consumptionIn_isSome_iff (hgood : ∀ e ∈ entries, e.Good ch p) (hcovers : Covers ch p lo hi entries)
    {cell : ChainCell} (hcell : ch.HasCell p op cell) :
    TouchedBy entries op ↔ (ch.consumptionIn lo hi op).isSome = true := by
  rw [Option.isSome_iff_exists]
  constructor
  · rintro ⟨e, he, j, hj, hin⟩
    exact ⟨_, (consumedBy_iff hgood hcovers hcell _).mp ⟨e, he, j, hj, hin, rfl⟩⟩
  · rintro ⟨c, hc⟩
    exact ((consumedBy_iff hgood hcovers hcell c).mpr hc).touched

/-- The row of a readable cell is the one the reference pass computes. -/
theorem referenceCell_eq [Sha2] {cfg : Config} {st : Store} (h : IndexMatch cfg ch entries st)
    (hcovers : Covers ch cfg.protocol lo hi entries) (op : CkbOutPoint) :
    st.rgbppCells.get? op.key = ch.referenceCell cfg lo hi op := by
  unfold referenceCell
  cases hat : ch.cellAt cfg.protocol op with
  | none =>
    dsimp only
    cases hrow : st.rgbppCells.get? op.key with
    | none => rfl
    | some row =>
      obtain ⟨op', cell, hkey, hcell, -⟩ := h.cells.row _ _ hrow
      obtain rfl := CkbOutPoint.key_injective hkey
      rw [cellAt_eq_some.mpr hcell] at hat
      cases hat
  | some cell =>
    have hcell := cellAt_eq_some.mp hat
    have hcreated := createdBy_iff h.good hcovers hcell
    have htouched := consumptionIn_isSome_iff h.good hcovers hcell
    dsimp only
    cases hrow : st.rgbppCells.get? op.key with
    | none =>
      obtain ⟨hnocreated, hnotouched⟩ := h.cells.absent op cell hcell hrow
      rw [if_neg fun hc => hnocreated (hcreated.mpr hc), if_neg fun ht => hnotouched (htouched.mpr ht)]
    | some row =>
      obtain ⟨hseen, hfor⟩ := h.cells.row_at hcell hrow
      have hconsumed : row.consumed = ch.consumptionIn lo hi op := by
        ext c
        rw [← consumedBy_iff h.good hcovers hcell c]
        exact hfor.consumed c
      by_cases hin : CreatedBy entries op
      · rw [if_pos (hcreated.mp hin), ← hconsumed]
        exact congrArg some (row_eq hfor.body (hfor.anchor_created hin))
      · rw [if_neg fun hc => hin (hcreated.mpr hc), if_pos (htouched.mp (hseen.resolve_left hin)), ← hconsumed]
        exact congrArg some (row_eq hfor.body (hfor.anchor_backfilled hin))

/-- The row of a transaction is the one the reference pass computes. -/
theorem referenceTransition_eq [Sha2] {cfg : Config} {st : Store} (h : IndexMatch cfg ch entries st)
    (hcovers : Covers ch cfg.protocol lo hi entries) (txHash : H256) :
    ((st.rgbppTransitions.get? txHash.toVec).map fun r => { r with expectedCommitment := none }) =
      ch.referenceTransition cfg.protocol lo hi txHash := by
  unfold referenceTransition
  cases hfind : (ch.between lo hi).find? fun l => l.tx.hash = txHash with
  | none =>
    dsimp only
    cases hrow : st.rgbppTransitions.get? txHash.toVec with
    | none => rfl
    | some row =>
      obtain ⟨t, ⟨e, he, rs, -, -, rfl⟩, hkey, -⟩ := h.transitions.row _ _ hrow
      have hno := List.find?_eq_none.mp hfind e.place (mem_between.mpr ⟨(h.good e he).holds, hcovers.range e he⟩)
      simp only [decide_eq_true_eq] at hno
      exact absurd (H256.toVec_injective hkey).symm hno
  | some l =>
    obtain ⟨hholds, hlo, hhi⟩ := mem_between.mp (List.mem_of_find?_eq_some hfind)
    have hhash := List.find?_some hfind
    simp only [decide_eq_true_eq] at hhash
    subst hhash
    dsimp only
    cases hrow : st.rgbppTransitions.get? l.tx.hash.toVec with
    | some row =>
      obtain ⟨t, ⟨e, he, rs, hres, hne, rfl⟩, hkey, hrec⟩ := h.transitions.row _ _ hrow
      have hsame : l = e.place := ch.hash_injective _ _ hholds (h.good e he).holds (H256.toVec_injective hkey)
      subst hsame
      have hperm := perm_readableInputs (hcovers.full e he) hres
      rw [if_neg, hrec]
      · exact congrArg some (transitionOf_perm hperm _ _ _)
      · rw [List.isEmpty_iff, List.isEmpty_iff]
        rintro ⟨hout, hin⟩
        rw [hin] at hperm
        exact hne ⟨hout, List.perm_nil.mp hperm⟩
    | none =>
      by_cases hempty : (l.outputs cfg.protocol).isEmpty ∧ (ch.readableInputs cfg.protocol l).isEmpty
      · rw [if_pos hempty]
        rfl
      · exfalso
        rw [List.isEmpty_iff, List.isEmpty_iff] at hempty
        have hrelevant : Relevant ch cfg.protocol l := by
          by_cases hout : l.outputs cfg.protocol = []
          · right
            have hin : ch.readableInputs cfg.protocol l ≠ [] := fun hin => hempty ⟨hout, hin⟩
            obtain ⟨r, hr⟩ := List.exists_mem_of_ne_nil _ hin
            obtain ⟨j, -, hj⟩ := List.mem_filterMap.mp hr
            obtain ⟨op, cell, hinput, hcell, -⟩ := readableInput_eq_some.mp hj
            exact ⟨j, op, cell, hinput, hcell⟩
          · exact .inl hout
        obtain ⟨e, he, rfl⟩ := hcovers.complete l hholds hlo hhi hrelevant
        obtain ⟨-, rs, hres⟩ := h.good e he
        have hperm := perm_readableInputs (hcovers.full e he) hres
        refine h.transitions.present _ ⟨e, he, rs, hres, ?_, rfl⟩ hrow
        rintro ⟨hout, hin⟩
        rw [hin] at hperm
        exact hempty ⟨hout, List.nil_perm.mp hperm⟩

/-- **An index that covers a range equals the reference pass over it.** -/
theorem equalsReference [Sha2] {cfg : Config} {st : Store} (h : IndexMatch cfg ch entries st)
    (hcovers : Covers ch cfg.protocol lo hi entries) : ch.EqualsReference cfg lo hi st where
  cells := referenceCell_eq h hcovers
  cellKeys := by
    intro key row hrow
    obtain ⟨op, -, hkey, -⟩ := h.cells.row key row hrow
    exact ⟨op, hkey⟩
  transitions := referenceTransition_eq h hcovers
  transitionKeys := by
    intro key row hrow
    obtain ⟨t, ⟨e, -, rs, -, -, rfl⟩, hkey, -⟩ := h.transitions.row key row hrow
    exact ⟨e.place.tx.hash, hkey⟩

end Chain
end RgbppIndexer
