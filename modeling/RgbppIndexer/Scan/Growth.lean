import Mathlib.Logic.Relation
import RgbppIndexer.Scan.Runs
import RgbppIndexer.Store.Activity

/-!
# An index only grows

What one index and a later one of the same chain have in common: a round may
index a transaction again, but it finds it at the same place with the same
cells. Nothing here needs the rounds to be complete.

* `exists_indexMatch`: what scan rounds reach is an index of the chain.
* `IndexMatch.transition_place`, `Chain.place_injective`: transitions stand at
  different positions.
* `IndexMatch.consumer_present`, `IndexMatch.backfilled`,
  `IndexMatch.no_transition`: the transition that consumed a cell is there, and
  the one that created it unless the cell is backfilled.
* `IndexMatch.cell_kept`, `IndexMatch.transition_kept`: a cell keeps its
  binding and its consumption, a transition its position.
-/
namespace RgbppIndexer

open RgbppIndexer.Core

/-- A scan round, or a write of another task: neither a cell nor a transition. -/
inductive IndexStep [Sha2] (cfg : Config) (ch : Chain) (errorText : IndexerError → String) : Store → Store → Prop
  | round {st : Store} (env : ScanEnv) (h : Serves ch env.replies) :
      IndexStep cfg ch errorText st (scannerStep cfg env errorText st)
  | elsewhere {st st' : Store} (hcells : st'.rgbppCells = st.rgbppCells)
      (htransitions : st'.rgbppTransitions = st.rgbppTransitions) : IndexStep cfg ch errorText st st'

section
variable [Sha2] {cfg : Config} {ch : Chain} {errorText : IndexerError → String} {st st' : Store}
  {entries done : List Entry}

/-! ## Steps -/

theorem IndexMatch.indexStep (h : IndexMatch cfg ch entries st) (hstep : IndexStep cfg ch errorText st st') :
    ∃ done, IndexMatch cfg ch (entries ++ done) st' := by
  cases hstep with
  | round env hserves =>
    rcases scannerStep_cases cfg env errorText st with hnoted | ⟨reads, batch, hc⟩
    · exact ⟨[], by rw [List.append_nil]; exact h.noted hnoted⟩
    · obtain ⟨done, -, hmatch⟩ := h.commit hserves hc
      exact ⟨done, hmatch⟩
  | elsewhere hcells htransitions => exact ⟨[], by rw [List.append_nil]; exact h.of_eq hcells htransitions⟩

theorem IndexMatch.indexSteps (h : IndexMatch cfg ch entries st)
    (hsteps : Relation.ReflTransGen (IndexStep cfg ch errorText) st st') : ∃ done, IndexMatch cfg ch (entries ++ done) st' := by
  induction hsteps with
  | refl => exact ⟨[], by rw [List.append_nil]; exact h⟩
  | tail _ hstep ih =>
    obtain ⟨done, hdone⟩ := ih
    obtain ⟨more, hmore⟩ := hdone.indexStep hstep
    exact ⟨done ++ more, by rw [← List.append_assoc]; exact hmore⟩

theorem exists_indexMatch (h : Relation.ReflTransGen (IndexStep cfg ch errorText) .empty st) :
    ∃ entries, IndexMatch cfg ch entries st := by
  have hstart : IndexMatch cfg ch [] .empty := .empty
  obtain ⟨done, hdone⟩ := hstart.indexSteps h
  exact ⟨[] ++ done, hdone⟩

/-! ## Places -/

/-- Where a transaction stands, as it is stored. -/
def Located.position (l : Located) : ChainPosition := (l.header.number.toInt64, (UInt32.ofNat l.index).toInt32)

omit [Sha2] in
theorem Chain.place_injective {l l' : Located} (hl : ch.Holds l) (hl' : ch.Holds l') (h : l.position = l'.position) :
    l = l' := by
  obtain ⟨hnumber, hindex⟩ := Prod.mk.inj h
  have hnumber : l.header.number = l'.header.number := congrArg Int64.toUInt64 hnumber
  have hindex : UInt32.ofNat l.index = UInt32.ofNat l'.index := congrArg Int32.toUInt32 hindex
  have hfits := (ch.fits l hl).1
  have hfits' := (ch.fits l' hl').1
  have hsame : l.index = l'.index := by
    have htoNat := congrArg UInt32.toNat hindex
    rwa [UInt32.toNat_ofNat_of_lt' hfits, UInt32.toNat_ofNat_of_lt' hfits'] at htoNat
  obtain ⟨b, hb, hheader, htx⟩ := hl
  obtain ⟨b', hb', hheader', htx'⟩ := hl'
  have hblock : b = b' := by
    unfold Located.height at hb hb'
    rw [hnumber] at hb
    exact Option.some.inj (hb.symm.trans hb')
  subst hblock
  rw [hsame] at htx
  cases l
  cases l'
  simp only at hheader hheader' hsame htx htx'
  rw [Located.mk.injEq]
  exact ⟨hheader.symm.trans hheader', hsame, Option.some.inj (htx.symm.trans htx')⟩

theorem IndexMatch.transition_place (h : IndexMatch cfg ch entries st) {e : Bytes × TransitionRecord}
    (hrow : st.rgbppTransitions.get? e.1 = some e.2) :
    ∃ l, ch.Holds l ∧ e.1 = l.tx.hash.toVec ∧ Store.positionOf e = l.position := by
  obtain ⟨n, ⟨entry, hentry, resolved, -, -, rfl⟩, hkey, hrecord⟩ := h.transitions.row _ _ hrow
  refine ⟨entry.place, (h.good entry hentry).holds, hkey, ?_⟩
  unfold Store.positionOf
  rw [hrecord]
  rfl

/-- A transaction has one position, and a position one transaction. -/
theorem IndexMatch.position_iff (h : IndexMatch cfg ch entries st) (h' : IndexMatch cfg ch done st')
    (e e' : Bytes × TransitionRecord) (hrow : st.rgbppTransitions.get? e.1 = some e.2)
    (hrow' : st'.rgbppTransitions.get? e'.1 = some e'.2) : Store.positionOf e = Store.positionOf e' ↔ e.1 = e'.1 := by
  obtain ⟨l, hl, hhash, hposition⟩ := h.transition_place hrow
  obtain ⟨l', hl', hhash', hposition'⟩ := h'.transition_place hrow'
  rw [hposition, hposition', hhash, hhash', H256.toVec_inj]
  constructor
  · intro hsame
    rw [Chain.place_injective hl hl' hsame]
  · intro hsame
    rw [ch.hash_injective l l' hl hl' hsame]

/-! ## The transitions a cell refers to -/

theorem IndexMatch.transition_present (h : IndexMatch cfg ch entries st) {e : Entry} (he : e ∈ entries)
    (hwrites : e.place.outputs cfg.protocol ≠ [] ∨ e.inputs ≠ []) :
    st.rgbppTransitions.get? e.place.tx.hash.toVec ≠ none := by
  obtain ⟨resolved, hresolved⟩ := (h.good e he).resolves
  refine h.transitions.present (transitionOf e.place.tx.hash e.place.context resolved (e.place.outputs cfg.protocol))
    ⟨e, he, resolved, hresolved, ?_, rfl⟩
  rintro ⟨hout, rfl⟩
  rcases hwrites with hwrites | hwrites
  · exact hwrites hout
  · exact hwrites hresolved.eq_nil

theorem IndexMatch.consumer_present (h : IndexMatch cfg ch entries st) {key : CellKey} {row : CellRecord} {c : Consumption}
    (hrow : st.rgbppCells.get? key = some row) (hc : row.consumed = some c) : st.rgbppTransitions.get? c.txHash ≠ none := by
  obtain ⟨op, cell, rfl, hcell, -, hfor⟩ := h.cells.row key row hrow
  obtain ⟨e, he, j, hj, -, rfl⟩ := (hfor.consumed c).mp hc
  exact h.transition_present he (.inr (List.ne_nil_of_mem hj))

/-- A cell whose creation has no transition is a backfilled one. -/
theorem IndexMatch.backfilled (h : IndexMatch cfg ch entries st) {key : CellKey} {row : CellRecord}
    (hrow : st.rgbppCells.get? key = some row) (hnone : st.rgbppTransitions.get? key.ckbTxHash = none) :
    row.createdTxIndex = UNKNOWN_TX_INDEX := by
  obtain ⟨op, cell, rfl, hcell, -, hfor⟩ := h.cells.row key row hrow
  have hcreated : ¬ CreatedBy entries op := by
    rintro ⟨e, he, hhash⟩
    obtain ⟨o, ho, -, -⟩ := mem_outputs_of_hasCell (h.good e he).holds hcell hhash
    refine h.transition_present he (.inl (List.ne_nil_of_mem ho)) ?_
    rw [← hhash]
    exact hnone
  exact congrArg Anchor.txIndex (hfor.anchor_backfilled hcreated)

/-- The other way round, as long as no index in a block is that of a backfilled cell. -/
theorem IndexMatch.no_transition (h : IndexMatch cfg ch entries st) {key : CellKey} {row : CellRecord}
    (hrow : st.rgbppCells.get? key = some row) (hindex : row.createdTxIndex = UNKNOWN_TX_INDEX)
    (hfits : ∀ l, ch.Holds l → l.index + 1 < 2 ^ 32) : st.rgbppTransitions.get? key.ckbTxHash = none := by
  obtain ⟨op, cell, rfl, hcell, -, hfor⟩ := h.cells.row key row hrow
  cases hget : st.rgbppTransitions.get? op.key.ckbTxHash with
  | none => rfl
  | some t =>
    obtain ⟨n, ⟨e, he, resolved, -, -, rfl⟩, hkey, -⟩ := h.transitions.row _ _ hget
    have hanchor := congrArg Anchor.txIndex (hfor.anchor_created ⟨e, he, H256.toVec_injective hkey⟩)
    have hwrap : (UInt32.ofNat cell.creator.index).toInt32 = (4294967295 : UInt32).toInt32 := hanchor.symm.trans hindex
    have htoNat := congrArg UInt32.toNat (congrArg Int32.toUInt32 hwrap)
    have hbound := hfits cell.creator hcell.hasOutput.holds
    simp only [UInt32.toUInt32_toInt32, UInt32.toNat_ofNat_of_lt' (show cell.creator.index < 2 ^ 32 by omega)] at htoNat
    have hmax : (4294967295 : UInt32).toNat = 2 ^ 32 - 1 := rfl
    omega

/-! ## What stays -/

theorem IndexMatch.transition_kept (h : IndexMatch cfg ch entries st) (h' : IndexMatch cfg ch (entries ++ done) st')
    {key : Bytes} {row : TransitionRecord} (hrow : st.rgbppTransitions.get? key = some row) :
    ∃ row', st'.rgbppTransitions.get? key = some row' ∧ Store.positionOf (key, row') = Store.positionOf (key, row) := by
  obtain ⟨n, ⟨e, he, hwrites⟩, rfl, -⟩ := h.transitions.row _ _ hrow
  have hsome := h'.transitions.present n ⟨e, List.mem_append_left _ he, hwrites⟩
  obtain ⟨row', hrow'⟩ := Option.ne_none_iff_exists'.mp hsome
  exact ⟨row', hrow', (h'.position_iff h (_, row') (_, row) hrow' hrow).mpr rfl⟩

theorem IndexMatch.cell_kept (h : IndexMatch cfg ch entries st) (h' : IndexMatch cfg ch (entries ++ done) st')
    {key : CellKey} {row : CellRecord} (hrow : st.rgbppCells.get? key = some row) :
    ∃ row', st'.rgbppCells.get? key = some row' ∧ row'.toCellBody = row.toCellBody ∧
      ∀ c, row.consumed = some c → row'.consumed = some c := by
  obtain ⟨op, cell, rfl, hcell, hseen, hfor⟩ := h.cells.row key row hrow
  cases hrow' : st'.rgbppCells.get? op.key with
  | none =>
    obtain ⟨hcreated, htouched⟩ := h'.cells.absent op cell hcell hrow'
    rw [CreatedBy.append, not_or] at hcreated
    rw [TouchedBy.append, not_or] at htouched
    exact absurd hseen (not_or.mpr ⟨hcreated.1, htouched.1⟩)
  | some row' =>
    obtain ⟨-, hfor'⟩ := h'.cells.row_at hcell hrow'
    refine ⟨row', rfl, hfor'.body.trans hfor.body.symm, fun c hc => ?_⟩
    exact (hfor'.consumed c).mpr (ConsumedBy.append.mpr (.inl ((hfor.consumed c).mp hc)))

end
end RgbppIndexer
