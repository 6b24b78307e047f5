import RgbppIndexer.Indexer.Concurrent
import RgbppIndexer.Scan.Reference

/-!
# Batches built beside other commits

Between the reads of a round and its commit other rounds may commit. What they
cannot change is the chain: over a covered index the anchor of a cell is decided
by the first indexed block alone (`anchorFrom`), so inserting a cell again, in
whatever order, writes what is there already.

`StaleBatch` is what a half-built batch holds, whatever has been committed
meanwhile: it asks of the database only that certain rows are present.

* `CellsMatch.insert_anchored_list`: the inserts of a batch, on any index.
* `resolveMatched_stale`, `closeRecord_stale`: a record keeps it.
* `StaleBatch.batchMatch`: at its commit it is a batch of this moment.
-/
namespace RgbppIndexer

open RgbppIndexer.Core

/-- The anchor of a cell in an index that starts at block `first`. -/
def ChainCell.anchorFrom (first : Nat) (cell : ChainCell) : Anchor :=
  if first ≤ cell.creator.height then cell.created else cell.backfilled

/-- The cells of a batch: read off the chain, and why they are there. A touched cell that is not among them has a row. -/
structure StaleCells (cfg : Config) (ch : Chain) (first : Nat) (present : CellKey → Prop)
    (created touched : CkbOutPoint → Prop) (cells : List NewCell) : Prop where
  sound : ∀ c ∈ cells, ∃ op cell, ch.HasCell cfg.protocol op cell ∧
    c = cell.newCell cfg.assets op (cell.anchorFrom first) ∧
    (first ≤ cell.creator.height → created op) ∧ (cell.creator.height < first → touched op)
  created : ∀ op cell, ch.HasCell cfg.protocol op cell → created op → ∃ c ∈ cells, c.key = op.key
  touched : ∀ op cell, ch.HasCell cfg.protocol op cell → touched op → (∃ c ∈ cells, c.key = op.key) ∨ present op.key

/-- A half-built batch for the entries `done`. -/
structure StaleBatch [Sha2] (cfg : Config) (ch : Chain) (first : Nat) (present : CellKey → Prop) (done : List Entry)
    (batch : IndexBatch) : Prop where
  good : ∀ e ∈ done, e.Good ch cfg.protocol
  cells : StaleCells cfg ch first present (CreatedBy done) (TouchedBy done) batch.cells
  spends : ∀ s, s ∈ batch.spends ↔ ∃ e ∈ done, ∃ j ∈ e.inputs, ∃ op, e.place.tx.inputs[j]? = some ⟨op⟩ ∧
    s = e.place.spendAt j op
  transitions : ∀ t, t ∈ batch.transitions ↔ ∃ e ∈ done, e.Writes ch cfg.protocol t

/-- Where the input loop of a record stands after the matches `done`. -/
structure StaleInputs (cfg : Config) (ch : Chain) (first : Nat) (present : CellKey → Prop) (l : Located)
    (created touched : CkbOutPoint → Prop) (batch : IndexBatch) (done : List MatchedCell) (loop : InputLoop) : Prop where
  resolved : Resolves ch cfg.protocol l (done.map fun m => m.ioIndex.toNat) loop.1
  frame : loop.2.1 = { batch with cells := loop.2.1.cells }
  cells : StaleCells cfg ch first present created
    (fun op => touched op ∨ ∃ m ∈ done, l.tx.inputs[m.ioIndex.toNat]? = some ⟨op⟩) loop.2.1.cells

/-! ## Inserts on any index -/

namespace CellsMatch

variable {cfg : Config} {ch : Chain} {created touched : CkbOutPoint → Prop} {consumed : CkbOutPoint → Consumption → Prop}
  {t t' : Table CellKey CellRecord} {op : CkbOutPoint} {cell : ChainCell} {first : Nat} {cells : List NewCell}

/-- A match is about the rows, not about how the table keeps them. -/
theorem of_get? (h : CellsMatch cfg ch created touched consumed t) (hget : ∀ k, t'.get? k = t.get? k) :
    CellsMatch cfg ch created touched consumed t' where
  row key row hrow := h.row key row (by rw [← hget, hrow])
  absent op cell hcell hnone := h.absent op cell hcell (by rw [← hget, hnone])

/-- The row of a cell nobody indexed the creation of already has the anchor of the backfill. -/
theorem insert_present (h : CellsMatch cfg ch created touched consumed t) (hcell : ch.HasCell cfg.protocol op cell)
    (hcreated : ¬ created op) (hsome : t.get? op.key ≠ none) :
    CellsMatch cfg ch created (fun op' => touched op' ∨ op' = op) consumed
      (Store.cellInsert t (cell.newCell cfg.assets op cell.backfilled)) := by
  refine (h.touch_present hsome).of_get? fun k => ?_
  rw [Store.get?_cellInsert, ChainCell.newCell_key]
  by_cases hk : k = op.key
  · obtain ⟨row, hrow⟩ := Option.ne_none_iff_exists'.mp hsome
    have hanchor := (h.row_at hcell hrow).2.anchor_backfilled hcreated
    rw [if_pos hk, hk, hrow]
    dsimp only
    unfold ChainCell.newCell
    dsimp only
    rw [← hanchor]
    rfl
  · rw [if_neg hk]

/-- One insert, under the anchor the chain decides. -/
theorem insert_anchored (h : CellsMatch cfg ch created touched consumed t) (hcell : ch.HasCell cfg.protocol op cell)
    (hseen : ∀ c, consumed op c → touched op) (hfirst : created op → first ≤ cell.creator.height) :
    CellsMatch cfg ch (fun op' => created op' ∨ op' = op ∧ first ≤ cell.creator.height)
      (fun op' => touched op' ∨ op' = op ∧ cell.creator.height < first) consumed
      (Store.cellInsert t (cell.newCell cfg.assets op (cell.anchorFrom first))) := by
  unfold ChainCell.anchorFrom
  by_cases hle : first ≤ cell.creator.height
  · rw [if_pos hle]
    refine (h.insert_created hcell hseen).congr (fun op' => ?_) (fun op' => ?_) fun _ _ => Iff.rfl
    · simp [hle]
    · simp [Nat.not_lt.mpr hle]
  · have hlt : cell.creator.height < first := Nat.lt_of_not_le hle
    rw [if_neg hle]
    have hinsert : CellsMatch cfg ch created (fun op' => touched op' ∨ op' = op) consumed
        (Store.cellInsert t (cell.newCell cfg.assets op cell.backfilled)) := by
      by_cases hnone : t.get? op.key = none
      · exact h.insert_backfilled hcell hseen hnone
      · exact h.insert_present hcell (fun hc => hle (hfirst hc)) hnone
    refine hinsert.congr (fun op' => ?_) (fun op' => ?_) fun _ _ => Iff.rfl
    · simp [hle]
    · simp [hlt]

/-- A cell under whose out point the batch writes: the first it writes, or one of the rest. -/
theorem exists_written_cons {P : ChainCell → Prop} {anchor : Anchor} {cs : List NewCell} {op' : CkbOutPoint}
    (hcell : ch.HasCell cfg.protocol op cell) :
    (∃ x, ch.HasCell cfg.protocol op' x ∧ P x ∧ ∃ c ∈ cell.newCell cfg.assets op anchor :: cs, c.key = op'.key) ↔
      op' = op ∧ P cell ∨ ∃ x, ch.HasCell cfg.protocol op' x ∧ P x ∧ ∃ c ∈ cs, c.key = op'.key := by
  have hhead : (cell.newCell cfg.assets op anchor).key = op'.key ↔ op' = op := by
    rw [ChainCell.newCell_key]
    exact ⟨fun hkey => (CkbOutPoint.key_injective hkey).symm, fun heq => by rw [heq]⟩
  simp only [List.exists_mem_cons_iff, hhead]
  constructor
  · rintro ⟨x, hx, hP, rfl | hmem⟩
    · rw [hx.unique hcell] at hP
      exact .inl ⟨rfl, hP⟩
    · exact .inr ⟨x, hx, hP, hmem⟩
  · rintro (⟨rfl, hP⟩ | ⟨x, hx, hP, hmem⟩)
    · exact ⟨cell, hcell, hP, .inl rfl⟩
    · exact ⟨x, hx, hP, .inr hmem⟩

variable (first cells) in
/-- The inserts of a batch, whatever the index holds of its cells. -/
theorem insert_anchored_list (h : CellsMatch cfg ch created touched consumed t)
    (hseen : ∀ op c, consumed op c → touched op)
    (hfirst : ∀ op cell, ch.HasCell cfg.protocol op cell → created op → first ≤ cell.creator.height)
    (hcells : ∀ c ∈ cells, ∃ op cell, ch.HasCell cfg.protocol op cell ∧
      c = cell.newCell cfg.assets op (cell.anchorFrom first)) :
    CellsMatch cfg ch
      (fun op => created op ∨ ∃ cell, ch.HasCell cfg.protocol op cell ∧ first ≤ cell.creator.height ∧ ∃ c ∈ cells, c.key = op.key)
      (fun op => touched op ∨ ∃ cell, ch.HasCell cfg.protocol op cell ∧ cell.creator.height < first ∧ ∃ c ∈ cells, c.key = op.key)
      consumed (cells.foldl Store.cellInsert t) := by
  induction cells generalizing created touched t with
  | nil => exact h.congr (fun _ => by simp) (fun _ => by simp) fun _ _ => Iff.rfl
  | cons c cs ih =>
    obtain ⟨op, cell, hcell, rfl⟩ := hcells c (by simp)
    have hstep := h.insert_anchored hcell (hseen op) (hfirst op cell hcell)
    have hrest := ih hstep (fun op' c hc => .inl (hseen op' c hc))
      (fun op' cell' hcell' hc => by
        rcases hc with hc | ⟨rfl, hle⟩
        · exact hfirst op' cell' hcell' hc
        · rw [hcell'.unique hcell]
          exact hle)
      fun x hx => hcells x (List.mem_cons_of_mem _ hx)
    rw [List.foldl_cons]
    refine hrest.congr_cells fun op' cell' hcell' => ⟨?_, ?_, fun _ => Iff.rfl⟩
    · rw [exists_written_cons (P := fun x => first ≤ x.creator.height) hcell, or_assoc]
    · rw [exists_written_cons (P := fun x => x.creator.height < first) hcell, or_assoc]

end CellsMatch

/-! ## Half-built batches -/

section
variable {cfg : Config} {ch : Chain} {first : Nat} {present present' : CellKey → Prop}
  {created touched created' touched' : CkbOutPoint → Prop} {cells : List NewCell} {op : CkbOutPoint}

theorem StaleCells.known (h : StaleCells cfg ch first present created touched cells) : KnownCells cfg ch cells := by
  intro c hc
  obtain ⟨op, cell, hcell, rfl, -, -⟩ := h.sound c hc
  exact ⟨op, cell, rfl, hcell, rfl⟩

/-- Rows do not vanish. -/
theorem StaleCells.mono (h : StaleCells cfg ch first present created touched cells)
    (hpresent : ∀ k, present k → present' k) : StaleCells cfg ch first present' created touched cells where
  sound := h.sound
  created := h.created
  touched op cell hcell ht := (h.touched op cell hcell ht).imp id (hpresent op.key)

theorem StaleCells.congr (h : StaleCells cfg ch first present created touched cells)
    (hcreated : ∀ op, created op ↔ created' op) (htouched : ∀ op, touched op ↔ touched' op) :
    StaleCells cfg ch first present created' touched' cells := by
  have h1 : created = created' := funext fun op => propext (hcreated op)
  have h2 : touched = touched' := funext fun op => propext (htouched op)
  rw [← h1, ← h2]
  exact h

/-- An input that consumes a cell of the batch or of the database. -/
theorem StaleCells.touch (h : StaleCells cfg ch first present created touched cells)
    (hseen : (∃ c ∈ cells, c.key = op.key) ∨ present op.key) :
    StaleCells cfg ch first present created (fun op' => touched op' ∨ op' = op) cells where
  sound := by
    intro c hc
    obtain ⟨op', cell, hcell, heq, hcr, hto⟩ := h.sound c hc
    exact ⟨op', cell, hcell, heq, hcr, fun hlt => .inl (hto hlt)⟩
  created := h.created
  touched := by
    rintro op' cell hcell (ht | rfl)
    · exact h.touched op' cell hcell ht
    · exact hseen

/-- A backfilled cell, from before the first block. -/
theorem StaleCells.backfill (h : StaleCells cfg ch first present created touched cells) {cell : ChainCell}
    (hcell : ch.HasCell cfg.protocol op cell) (hlt : cell.creator.height < first) :
    StaleCells cfg ch first present created (fun op' => touched op' ∨ op' = op)
      (cells ++ [cell.newCell cfg.assets op cell.backfilled]) where
  sound := by
    intro c hc
    rcases List.mem_append.mp hc with hc | hc
    · obtain ⟨op', cell', hcell', heq, hcr, hto⟩ := h.sound c hc
      exact ⟨op', cell', hcell', heq, hcr, fun hlt' => .inl (hto hlt')⟩
    · rw [List.mem_singleton] at hc
      refine ⟨op, cell, hcell, ?_, fun hle => absurd hlt (Nat.not_lt.mpr hle), fun _ => .inr rfl⟩
      rw [hc, ChainCell.anchorFrom, if_neg (Nat.not_le.mpr hlt)]
  created := by
    intro op' cell' hcell' hc
    obtain ⟨c, hmem, hkey⟩ := h.created op' cell' hcell' hc
    exact ⟨c, List.mem_append_left _ hmem, hkey⟩
  touched := by
    rintro op' cell' hcell' (ht | rfl)
    · refine (h.touched op' cell' hcell' ht).imp ?_ id
      rintro ⟨c, hmem, hkey⟩
      exact ⟨c, List.mem_append_left _ hmem, hkey⟩
    · exact .inl ⟨_, List.mem_append_right _ (List.mem_singleton.mpr rfl), rfl⟩

/-- The readable outputs of a transaction of the range. -/
theorem StaleCells.outputs (h : StaleCells cfg ch first present created touched cells) {l : Located} (hl : ch.Holds l)
    (hle : first ≤ l.height) :
    StaleCells cfg ch first present (fun op => created op ∨ op.txHash = l.tx.hash) touched
      (cells ++ (l.outputs cfg.protocol).map fun o => buildNewCell cfg.assets l.tx.hash o l.context) where
  sound := by
    intro c hc
    rcases List.mem_append.mp hc with hc | hc
    · obtain ⟨op, cell, hcell, heq, hcr, hto⟩ := h.sound c hc
      exact ⟨op, cell, hcell, heq, fun hle' => .inl (hcr hle'), hto⟩
    · obtain ⟨o, ho, rfl⟩ := List.mem_map.mp hc
      refine ⟨_, l.cellOf o, hasCell_of_mem_outputs hl ho, ?_, fun _ => .inr rfl, fun hlt => absurd hle (Nat.not_le.mpr hlt)⟩
      rw [buildNewCell_eq, ChainCell.anchorFrom, if_pos (show first ≤ (l.cellOf o).creator.height from hle)]
  created := by
    rintro op cell hcell (hc | hc)
    · obtain ⟨c, hmem, hkey⟩ := h.created op cell hcell hc
      exact ⟨c, List.mem_append_left _ hmem, hkey⟩
    · obtain ⟨o, ho, rfl, -⟩ := mem_outputs_of_hasCell hl hcell hc
      exact ⟨_, List.mem_append_right _ (List.mem_map_of_mem ho), rfl⟩
  touched := by
    intro op cell hcell ht
    refine (h.touched op cell hcell ht).imp ?_ id
    rintro ⟨c, hmem, hkey⟩
    exact ⟨c, List.mem_append_left _ hmem, hkey⟩

theorem StaleInputs.mono {l : Located} {batch : IndexBatch} {done : List MatchedCell} {loop : InputLoop}
    (h : StaleInputs cfg ch first present l created touched batch done loop) (hpresent : ∀ k, present k → present' k) :
    StaleInputs cfg ch first present' l created touched batch done loop := ⟨h.resolved, h.frame, h.cells.mono hpresent⟩

variable [Sha2]

theorem StaleBatch.mono {done : List Entry} {batch : IndexBatch} (h : StaleBatch cfg ch first present done batch)
    (hpresent : ∀ k, present k → present' k) : StaleBatch cfg ch first present' done batch :=
  ⟨h.good, h.cells.mono hpresent, h.spends, h.transitions⟩

/-- Before the first record. -/
theorem StaleBatch.start {batch : IndexBatch} (hcells : batch.cells = []) (hspends : batch.spends = [])
    (htransitions : batch.transitions = []) : StaleBatch cfg ch first present [] batch where
  good e he := by cases he
  cells := by
    have hcreated : ∀ op, ¬ CreatedBy [] op := by
      rintro op ⟨e, he, -⟩
      cases he
    have htouched : ∀ op, ¬ TouchedBy [] op := by
      rintro op ⟨e, he, -⟩
      cases he
    rw [hcells]
    refine ⟨fun c hc => ?_, fun op _ _ hc => absurd hc (hcreated op), fun op _ _ hc => absurd hc (htouched op)⟩
    cases hc
  spends s := by
    rw [hspends]
    simp
  transitions t := by
    rw [htransitions]
    simp

/-- Before the input loop of a record. -/
theorem StaleBatch.inputs {done : List Entry} {batch : IndexBatch} (h : StaleBatch cfg ch first present done batch)
    (l : Located) (round : ScanRound) :
    StaleInputs cfg ch first present l (CreatedBy done) (TouchedBy done) batch [] ([], batch, round) :=
  ⟨.nil, rfl, h.cells.congr (fun _ => Iff.rfl) fun _ => by simp⟩

end

/-! ## One record -/

section
variable {cfg : Config} {ch : Chain} {env : ScanEnv} {st : Store} {tip : UInt64} {l : Located} {record : TxRecord}
  {first : Nat} {created touched : CkbOutPoint → Prop}

/-- One matched input, against the database of this moment: a cell that is in neither is from before the first block. -/
theorem resolveMatched_stale (hnode : NodeServes ch env.replies) (htip : env.replies.getTipBlockNumber = .ok tip)
    (hheight : l.height ≤ tip.toNat) (hrows : KnownRows cfg ch st.rgbppCells)
    (hrecord : MergedRecord ch cfg.protocol l record) {batch : IndexBatch} {done : List MatchedCell} {m : MatchedCell}
    {loop loop' : InputLoop} (hm : m ∈ matchedInputs record)
    (hearlier : ∀ op cell, l.tx.inputs[m.ioIndex.toNat]? = some ⟨op⟩ → ch.HasCell cfg.protocol op cell →
      first ≤ cell.creator.height → created op ∨ st.rgbppCells.get? op.key ≠ none)
    (h : StaleInputs cfg ch first (fun k => st.rgbppCells.get? k ≠ none) l created touched batch done loop)
    (hok : resolveMatched cfg env st record l.tx loop m = .ok loop') :
    StaleInputs cfg ch first (fun k => st.rgbppCells.get? k ≠ none) l created touched batch (done ++ [m]) loop' := by
  obtain ⟨op, cell, hin, hcell, ⟨hpresent, rfl⟩ | ⟨hfresh, habsent, rfl⟩⟩ :=
    resolveMatched_ok_cases hnode htip hheight hrows hrecord hm h.cells.known hok
  · have htouch := touched_snoc touched hin done
    exact ⟨h.resolved.snoc hin hcell, h.frame, (h.cells.touch hpresent).congr (fun _ => Iff.rfl) htouch⟩
  · have htouch := touched_snoc touched hin done
    have hlt : cell.creator.height < first := by
      by_contra hnot
      rcases hearlier op cell hin hcell (Nat.le_of_not_lt hnot) with hcreated | hrow
      · obtain ⟨c, hc, hkey⟩ := h.cells.created op cell hcell hcreated
        exact hfresh c hc hkey
      · exact hrow habsent
    refine ⟨h.resolved.snoc hin hcell, ?_, (h.cells.backfill hcell hlt).congr (fun _ => Iff.rfl) htouch⟩
    show ({ loop.2.1 with cells := loop.2.1.cells ++ [_] } : IndexBatch) = { batch with cells := loop.2.1.cells ++ [_] }
    rw [h.frame]

/-- A record whose inputs are resolved adds its entry. -/
theorem closeRecord_stale [Sha2] {present : CellKey → Prop} (hrecord : MergedRecord ch cfg.protocol l record)
    (hle : first ≤ l.height) {done : List Entry} {batch : IndexBatch} {loop : InputLoop}
    (h : StaleBatch cfg ch first present done batch)
    (hinputs : StaleInputs cfg ch first present l (CreatedBy done) (TouchedBy done) batch (matchedInputs record) loop) :
    StaleBatch cfg ch first present (done ++ [record.entry l]) (closeRecord cfg record l.tx l.context loop).1 := by
  obtain ⟨resolved, batch', round'⟩ := loop
  obtain ⟨hres, hframe, hcells⟩ := hinputs
  dsimp only at hres hframe hcells
  have hspends : batch'.spends = batch.spends := by rw [hframe]
  have htransitions : batch'.transitions = batch.transitions := by rw [hframe]
  have hgood := good_snoc h.good hrecord.holds hres
  have hall := (hcells.outputs hrecord.holds hle).congr (fun op => (CreatedBy.snoc done record l op).symm)
    fun op => (TouchedBy.snoc done record l op).symm
  have houts : classifyOutputs cfg.protocol l.tx.outputs l.tx.outputsData = l.outputs cfg.protocol := rfl
  unfold closeRecord extract
  rw [houts, hrecord.txHash]
  dsimp only
  by_cases hempty : (l.outputs cfg.protocol).isEmpty = true ∧ resolved.isEmpty = true
  · -- nothing readable: the transaction is skipped, and its entry adds nothing
    rw [if_pos hempty]
    rw [List.isEmpty_iff, List.isEmpty_iff] at hempty
    refine ⟨hgood, ?_, fun s => ?_, fun t => ?_⟩
    · rw [hempty.1, List.map_nil, List.append_nil] at hall
      exact hall
    · rw [hspends, hres.mem_spends_snoc done s, h.spends s, hempty.2]
      simp
    · rw [htransitions, hres.writes_snoc done t, h.transitions t]
      simp [hempty]
  · rw [if_neg hempty]
    rw [List.isEmpty_iff, List.isEmpty_iff] at hempty
    refine ⟨hgood, hall, fun s => ?_, fun t => ?_⟩
    · rw [hres.mem_spends_snoc done s, ← h.spends s, ← hspends]
      exact List.mem_append
    · rw [hres.writes_snoc done t, ← h.transitions t, ← htransitions]
      simp [hempty]

/-! ## At the commit -/

/-- **At its commit a batch is one of this moment**, whatever its reads were. -/
theorem StaleBatch.batchMatch [Sha2] {indexed done : List Entry} {batch : IndexBatch} {top : Nat}
    (h : StaleBatch cfg ch first (fun k => st.rgbppCells.get? k ≠ none) done batch)
    (hmatch : IndexMatch cfg ch indexed st) (hcovers : Covers ch cfg.protocol first top indexed)
    (hrange : ∀ e ∈ done, first ≤ e.place.height) : BatchMatch cfg ch st indexed done batch where
  good := h.good
  known := h.cells.known
  spends := h.spends
  transitions := h.transitions
  cells := by
    have hinserted := hmatch.cells.insert_anchored_list first batch.cells
      (fun op c hc => hc.touched)
      (fun op cell hcell hc => ((Chain.createdBy_iff hmatch.good hcovers hcell).mp hc).1)
      (fun c hc => by
        obtain ⟨op, cell, hcell, heq, -, -⟩ := h.cells.sound c hc
        exact ⟨op, cell, hcell, heq⟩)
    have hall := hinserted.touch_all (TouchedBy done) fun op cell hcell ht =>
      foldl_cellInsert_ne_none (h.cells.touched op cell hcell ht)
    -- why a cell is in the batch
    have hsound : ∀ op cell, ch.HasCell cfg.protocol op cell → (∃ c ∈ batch.cells, c.key = op.key) →
        (first ≤ cell.creator.height → CreatedBy done op) ∧ (cell.creator.height < first → TouchedBy done op) := by
      rintro op cell hcell ⟨c, hc, hkey⟩
      obtain ⟨op', cell', hcell', rfl, hcr, hto⟩ := h.cells.sound c hc
      obtain rfl := CkbOutPoint.key_injective hkey
      rw [hcell.unique hcell']
      exact ⟨hcr, hto⟩
    refine hall.congr_cells fun op cell hcell => ⟨?_, ?_, fun _ => Iff.rfl⟩
    · rw [CreatedBy.append]
      refine or_congr Iff.rfl ⟨?_, fun hc => ?_⟩
      · rintro ⟨cell', hcell', hle, hmem⟩
        exact (hsound op cell' hcell' hmem).1 hle
      · refine ⟨cell, hcell, ?_, h.cells.created op cell hcell hc⟩
        obtain ⟨e, he, hhash⟩ := hc
        have hsame : cell.creator = e.place :=
          ch.hash_injective _ _ hcell.hasOutput.holds (h.good e he).holds (hcell.hasOutput.txHash.symm.trans hhash)
        rw [hsame]
        exact hrange e he
    · rw [TouchedBy.append, or_assoc]
      refine or_congr Iff.rfl ⟨?_, fun hc => .inr hc⟩
      rintro (⟨cell', hcell', hlt, hmem⟩ | hc)
      · exact (hsound op cell' hcell' hmem).2 hlt
      · exact hc

end
end RgbppIndexer
