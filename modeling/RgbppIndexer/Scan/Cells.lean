import RgbppIndexer.Chain.World

/-!
# The cell table against the chain

`CellsMatch created touched consumed t` says what the cell table `t` holds, in
terms of what has been seen of the chain: the out points whose creation was
indexed, those some indexed input consumed (`touched`), and the consumptions
already written. A row is there for exactly the created and the touched
readable cells; it carries the true creation anchor if the creation was
indexed, and the backfilled one if not.

The four lemmas say how the statements of a batch move these sets:
`insert_created`, `insert_backfilled`, `touch_present`, `spend`. None of them
depends on the order of the statements.
-/
namespace RgbppIndexer

open RgbppIndexer.Core

/-- The creation anchor of a row. -/
structure Anchor where
  blockNumber : Int64
  blockHash : Bytes
  txIndex : Int32
  deriving DecidableEq

def CellRecord.anchor (r : CellRecord) : Anchor := ⟨r.createdBlockNumber, r.createdBlockHash, r.createdTxIndex⟩

/-- Where the creating transaction sits. -/
def ChainCell.created (cell : ChainCell) : Anchor where
  blockNumber := cell.creator.header.number.toInt64
  blockHash := cell.creator.header.hash.toVec
  txIndex := (UInt32.ofNat cell.creator.index).toInt32

/-- The same block, at a position the node did not give. -/
def ChainCell.backfilled (cell : ChainCell) : Anchor := { cell.created with txIndex := UNKNOWN_TX_INDEX }

/-- The row inserted for a cell whose creation is indexed. -/
def ChainCell.newCell (assets : AssetScripts) (op : CkbOutPoint) (cell : ChainCell) (anchor : Anchor) : NewCell :=
  { cell.body assets with
    ckbTxHash := op.txHash.toVec, outputIndex := op.index.toInt32, createdBlockNumber := anchor.blockNumber,
    createdBlockHash := anchor.blockHash, createdTxIndex := anchor.txIndex }

@[simp] theorem ChainCell.newCell_key (assets : AssetScripts) (op : CkbOutPoint) (cell : ChainCell) (anchor : Anchor) :
    (cell.newCell assets op anchor).key = op.key := rfl

@[simp] theorem ChainCell.newCell_body (assets : AssetScripts) (op : CkbOutPoint) (cell : ChainCell) (anchor : Anchor) :
    (cell.newCell assets op anchor).toCellBody = cell.body assets := rfl

/-- What a row of the table says about the cell under its key. -/
structure RowFor (assets : AssetScripts) (cell : ChainCell) (created : Prop) (consumed : Consumption → Prop)
    (row : CellRecord) : Prop where
  body : row.toCellBody = cell.body assets
  anchor_created : created → row.anchor = cell.created
  anchor_backfilled : ¬ created → row.anchor = cell.backfilled
  consumed : ∀ c, row.consumed = some c ↔ consumed c

/-- The table holds exactly the created and the touched cells. -/
structure CellsMatch (cfg : Config) (ch : Chain) (created touched : CkbOutPoint → Prop)
    (consumed : CkbOutPoint → Consumption → Prop) (t : Table CellKey CellRecord) : Prop where
  row : ∀ key row, t.get? key = some row → ∃ op cell, key = op.key ∧ ch.HasCell cfg.protocol op cell ∧
    (created op ∨ touched op) ∧ RowFor cfg.assets cell (created op) (consumed op) row
  absent : ∀ op cell, ch.HasCell cfg.protocol op cell → t.get? op.key = none → ¬ created op ∧ ¬ touched op

namespace CellsMatch

variable {cfg : Config} {ch : Chain} {created touched created' touched' : CkbOutPoint → Prop}
  {consumed consumed' : CkbOutPoint → Consumption → Prop} {t : Table CellKey CellRecord} {op : CkbOutPoint}
  {cell : ChainCell}

theorem congr (h : CellsMatch cfg ch created touched consumed t) (hcreated : ∀ op, created op ↔ created' op)
    (htouched : ∀ op, touched op ↔ touched' op) (hconsumed : ∀ op c, consumed op c ↔ consumed' op c) :
    CellsMatch cfg ch created' touched' consumed' t := by
  have h1 : created = created' := funext fun op => propext (hcreated op)
  have h2 : touched = touched' := funext fun op => propext (htouched op)
  have h3 : consumed = consumed' := funext fun op => funext fun c => propext (hconsumed op c)
  rw [← h1, ← h2, ← h3]
  exact h

/-- The row under the key of a readable cell. -/
theorem row_at (h : CellsMatch cfg ch created touched consumed t) (hcell : ch.HasCell cfg.protocol op cell)
    {row : CellRecord} (hrow : t.get? op.key = some row) :
    (created op ∨ touched op) ∧ RowFor cfg.assets cell (created op) (consumed op) row := by
  obtain ⟨op', cell', hkey, hcell', hseen, hfor⟩ := h.row _ _ hrow
  obtain rfl := CkbOutPoint.key_injective hkey
  obtain rfl := hcell.unique hcell'
  exact ⟨hseen, hfor⟩

/-- Inserting a cell under its true anchor: a new row, or the true anchor on the row that is there. -/
theorem insert_created (h : CellsMatch cfg ch created touched consumed t) (hcell : ch.HasCell cfg.protocol op cell)
    (hseen : ∀ c, consumed op c → touched op) :
    CellsMatch cfg ch (fun op' => created op' ∨ op' = op) touched consumed
      (Store.cellInsert t (cell.newCell cfg.assets op cell.created)) where
  row := by
    intro key row hrow
    rw [Store.get?_cellInsert, ChainCell.newCell_key] at hrow
    by_cases hk : key = op.key
    · rw [if_pos hk, hk] at hrow
      refine ⟨op, cell, hk, hcell, .inl (.inr rfl), ?_⟩
      cases hold : t.get? op.key with
      | none =>
        rw [hold] at hrow
        simp only [Option.some.injEq] at hrow
        subst hrow
        have hno := (h.absent op cell hcell hold).2
        exact ⟨rfl, fun _ => rfl, fun hn => absurd (.inr rfl) hn, fun c =>
          ⟨fun hc => (by cases hc), fun hc => absurd (hseen c hc) hno⟩⟩
      | some r =>
        rw [hold] at hrow
        simp only [Option.some.injEq] at hrow
        subst hrow
        have hfor := (h.row_at hcell hold).2
        exact ⟨hfor.body, fun _ => rfl, fun hn => absurd (.inr rfl) hn, hfor.consumed⟩
    · rw [if_neg hk] at hrow
      obtain ⟨op', cell', hkey, hcell', hsome, hfor⟩ := h.row key row hrow
      have hne : op' ≠ op := fun heq => hk (heq ▸ hkey)
      refine ⟨op', cell', hkey, hcell', hsome.imp .inl id, hfor.body, ?_, ?_, hfor.consumed⟩
      · rintro (hc | hc)
        · exact hfor.anchor_created hc
        · exact absurd hc hne
      · exact fun hn => hfor.anchor_backfilled fun hc => hn (.inl hc)
  absent := by
    intro op' cell' hcell' hnone
    rw [Store.get?_cellInsert, ChainCell.newCell_key] at hnone
    by_cases hk : op'.key = op.key
    · rw [if_pos hk] at hnone
      cases hnone
    · rw [if_neg hk] at hnone
      obtain ⟨hcreated, htouched⟩ := h.absent op' cell' hcell' hnone
      refine ⟨?_, htouched⟩
      rintro (hc | hc)
      · exact hcreated hc
      · exact hk (by rw [hc])

/-- Inserting a cell no row is there for, with the anchor of the backfill. -/
theorem insert_backfilled (h : CellsMatch cfg ch created touched consumed t) (hcell : ch.HasCell cfg.protocol op cell)
    (hseen : ∀ c, consumed op c → touched op) (hnone : t.get? op.key = none) :
    CellsMatch cfg ch created (fun op' => touched op' ∨ op' = op) consumed
      (Store.cellInsert t (cell.newCell cfg.assets op cell.backfilled)) where
  row := by
    intro key row hrow
    rw [Store.get?_cellInsert, ChainCell.newCell_key] at hrow
    by_cases hk : key = op.key
    · rw [if_pos hk, hk, hnone] at hrow
      simp only [Option.some.injEq] at hrow
      subst hrow
      obtain ⟨hcreated, htouched⟩ := h.absent op cell hcell hnone
      exact ⟨op, cell, hk, hcell, .inr (.inr rfl), rfl, fun hc => absurd hc hcreated, fun _ => rfl, fun c =>
        ⟨fun hc => (by cases hc), fun hc => absurd (hseen c hc) htouched⟩⟩
    · rw [if_neg hk] at hrow
      obtain ⟨op', cell', hkey, hcell', hsome, hfor⟩ := h.row key row hrow
      exact ⟨op', cell', hkey, hcell', hsome.imp id .inl, hfor⟩
  absent := by
    intro op' cell' hcell' hnone'
    rw [Store.get?_cellInsert, ChainCell.newCell_key] at hnone'
    by_cases hk : op'.key = op.key
    · rw [if_pos hk] at hnone'
      cases hnone'
    · rw [if_neg hk] at hnone'
      obtain ⟨hcreated, htouched⟩ := h.absent op' cell' hcell' hnone'
      refine ⟨hcreated, ?_⟩
      rintro (hc | hc)
      · exact htouched hc
      · exact hk (by rw [hc])

/-- Rows that are there may be touched. -/
theorem touch_all (h : CellsMatch cfg ch created touched consumed t) (extra : CkbOutPoint → Prop)
    (hextra : ∀ op cell, ch.HasCell cfg.protocol op cell → extra op → t.get? op.key ≠ none) :
    CellsMatch cfg ch created (fun op => touched op ∨ extra op) consumed t where
  row := by
    intro key row hrow
    obtain ⟨op', cell', hkey, hcell', hseen, hfor⟩ := h.row key row hrow
    exact ⟨op', cell', hkey, hcell', hseen.imp id .inl, hfor⟩
  absent := by
    intro op' cell' hcell' hnone
    obtain ⟨hcreated, htouched⟩ := h.absent op' cell' hcell' hnone
    refine ⟨hcreated, ?_⟩
    rintro (hc | hc)
    · exact htouched hc
    · exact hextra op' cell' hcell' hc hnone

/-- An input that consumes a cell whose row is there touches nothing new. -/
theorem touch_present (h : CellsMatch cfg ch created touched consumed t) (hsome : t.get? op.key ≠ none) :
    CellsMatch cfg ch created (fun op' => touched op' ∨ op' = op) consumed t :=
  h.touch_all (fun op' => op' = op) fun _ _ _ heq => heq ▸ hsome

/-- Writing the consumption of a cell. -/
theorem spend (h : CellsMatch cfg ch created touched consumed t) {s : CellSpend} (hkey : s.key = op.key)
    (honce : ∀ c, consumed op c → c = s.consumed) :
    CellsMatch cfg ch created touched (fun op' c => consumed op' c ∨ op' = op ∧ c = s.consumed) (Store.cellSpend t s) where
  row := by
    intro key row hrow
    rw [Store.get?_cellSpend, hkey] at hrow
    by_cases hk : key = op.key
    · rw [if_pos hk, Option.map_eq_some_iff] at hrow
      obtain ⟨old, hold, rfl⟩ := hrow
      obtain ⟨op', cell', hkey', hcell', hseen, hfor⟩ := h.row key old hold
      obtain rfl := CkbOutPoint.key_injective (hk.symm.trans hkey')
      refine ⟨op, cell', hk, hcell', hseen, hfor.body, hfor.anchor_created, hfor.anchor_backfilled, ?_⟩
      intro c
      simp only [Option.some.injEq, true_and]
      constructor
      · exact fun hc => .inr hc.symm
      · rintro (hc | hc)
        · exact (honce c hc).symm
        · exact hc.symm
    · rw [if_neg hk] at hrow
      obtain ⟨op', cell', hkey', hcell', hseen, hfor⟩ := h.row key row hrow
      have hne : op' ≠ op := fun heq => hk (heq ▸ hkey')
      refine ⟨op', cell', hkey', hcell', hseen, hfor.body, hfor.anchor_created, hfor.anchor_backfilled, ?_⟩
      intro c
      rw [hfor.consumed c]
      simp [hne]
  absent := by
    intro op' cell' hcell' hnone
    rw [Store.get?_cellSpend] at hnone
    by_cases hk : op'.key = s.key
    · rw [if_pos hk, Option.map_eq_none_iff] at hnone
      exact h.absent op' cell' hcell' hnone
    · rw [if_neg hk] at hnone
      exact h.absent op' cell' hcell' hnone

end CellsMatch
end RgbppIndexer
