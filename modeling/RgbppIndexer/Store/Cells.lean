import RgbppIndexer.Store.Models

/-!
# Checkpoints, RGB++ cells and transitions

`crates/store/src/state.rs`, `blocks.rs`, `cells.rs` and the insert of
`transitions.rs`, with the `rgbpp_cell_status` view of the first migration.

Each statement has one lemma that says what it does to the row under a key
(`get?_cellInsert`, `get?_cellSpend`), and `applyBatch_fst` is the batch, table
by table.
-/
namespace RgbppIndexer

open RgbppIndexer.Core

/-- mirrors crates/store/src/state.rs:12 -/
def CKB_STREAM : String := "ckb"

namespace Store

/-! ## Stream state -/

/-- mirrors crates/store/src/state.rs:15-26 -/
def getStreamState (st : Store) (stream : String) : Option StreamState := st.indexerState.get? stream

/-- The insert of `init_stream`: `start_block - 1`, saturating, because the
checkpoint means "processed up to and including this height".
mirrors crates/store/src/state.rs:32-48 -/
def insertStream (st : Store) (stream : String) (startBlock : UInt64) (now : DateTime) : Store :=
  let initial := (if startBlock = 0 then 0 else startBlock - 1).toInt64
  { st with
    indexerState := st.indexerState.insertIfAbsent stream
      { lastBlockNumber := initial, lastBlockHash := none, targetBlockNumber := none, chainTipNumber := none,
        reorgLag := 0, lastError := none, updatedAt := now } }

/-- mirrors crates/store/src/state.rs:50-58 -/
def setStreamError (st : Store) (stream : String) (error : Option String) (now : DateTime) : Store :=
  { st with
    indexerState := st.indexerState.update stream fun r => { r with lastError := error, updatedAt := now } }

/-- mirrors crates/store/src/state.rs:64-85 -/
def recordChainProgress (st : Store) (stream : String) (chainTip target reorgLag : UInt64) (now : DateTime) : Store :=
  { st with
    indexerState := st.indexerState.update stream fun r =>
      { r with
        chainTipNumber := some chainTip.toInt64, targetBlockNumber := some target.toInt64,
        reorgLag := reorgLag.toInt64, updatedAt := now } }

/-! ## Blocks -/

/-- The upsert of a header, on its table. -/
def blockUpsert (t : Table Int64 BlockRow) (b : BlockRecord) : Table Int64 BlockRow :=
  t.upsert b.number fun old =>
    { hash := b.hash, parentHash := b.parentHash, timestamp := b.timestamp,
      hasRgbppActivity := (old.map BlockRow.hasRgbppActivity).getD false || b.hasRgbppActivity }

/-- mirrors crates/store/src/blocks.rs:58-81 -/
def upsertBlock (st : Store) (b : BlockRecord) : Store := { st with ckbBlocks := blockUpsert st.ckbBlocks b }

/-- mirrors crates/store/src/blocks.rs:49-55 -/
def pruneBlocksBelow (st : Store) (keepFrom : Int64) : Store :=
  { st with ckbBlocks := st.ckbBlocks.filter fun number _ => keepFrom ≤ number }

/-! ## Cells and transitions -/

/-- The insert of a cell, on its table: a conflict updates the creation anchor only. -/
def cellInsert (t : Table CellKey CellRecord) (c : NewCell) : Table CellKey CellRecord :=
  t.upsert c.key fun old =>
    match old with
    | none => c.record
    | some r =>
      { r with
        createdBlockNumber := c.createdBlockNumber, createdBlockHash := c.createdBlockHash,
        createdTxIndex := c.createdTxIndex }

/-- mirrors crates/store/src/cells.rs:174-209 -/
def insertCell (st : Store) (c : NewCell) : Store := { st with rgbppCells := cellInsert st.rgbppCells c }

/-- The update of a spend, on its table. -/
def cellSpend (t : Table CellKey CellRecord) (s : CellSpend) : Table CellKey CellRecord :=
  t.update s.key fun r => { r with consumed := some s.consumed }

/-- mirrors crates/store/src/cells.rs:213-234 -/
def applySpend (st : Store) (s : CellSpend) : Store := { st with rgbppCells := cellSpend st.rgbppCells s }

/-- `rows_affected` of that update. -/
def spendAffects (st : Store) (s : CellSpend) : Nat := if (st.rgbppCells.get? s.key).isSome then 1 else 0

/-- The insert of a transition, on its table. -/
def transitionInsert (t : Table Bytes TransitionRecord) (n : NewTransition) : Table Bytes TransitionRecord :=
  t.upsert n.ckbTxHash fun old =>
    { blockNumber := n.blockNumber, blockHash := n.blockHash, txIndex := n.txIndex,
      blockTimestamp := n.blockTimestamp, kind := n.kind, btcTxid := n.btcTxid,
      inputCellCount := n.inputCellCount, outputCellCount := n.outputCellCount,
      expectedCommitment := n.expectedCommitment,
      observedCommitment := old.bind TransitionRecord.observedCommitment,
      commitmentStatus := (old.map TransitionRecord.commitmentStatus).getD .unchecked }

/-- mirrors crates/store/src/transitions.rs:97-130 -/
def insertTransition (st : Store) (t : NewTransition) : Store :=
  { st with rgbppTransitions := transitionInsert st.rgbppTransitions t }

/-- The checkpoint update, the last statement of a batch. mirrors crates/store/src/cells.rs:47-65 -/
def publishCheckpoint (st : Store) (b : IndexBatch) (now : DateTime) : Store :=
  { st with
    indexerState := st.indexerState.update CKB_STREAM fun r =>
      { r with
        lastBlockNumber := b.checkpointNumber, lastBlockHash := b.checkpointHash,
        targetBlockNumber := some b.target, chainTipNumber := some b.chainTip, reorgLag := b.reorgLag,
        lastError := none, updatedAt := now } }

/-- The spend loop, counting affected rows. -/
def applySpends (st : Store) (spends : List CellSpend) : Store × Nat :=
  spends.foldl (fun (st, n) s => (st.applySpend s, n + st.spendAffects s)) (st, 0)

/-- Apply one scan round atomically: the result is the state after the commit.
mirrors crates/store/src/cells.rs:24-69 -/
def applyBatch (st : Store) (b : IndexBatch) (now : DateTime) : Store × ApplyStats :=
  let st := b.blocks.foldl upsertBlock st
  let st := b.cells.foldl insertCell st
  let (st, spent) := st.applySpends b.spends
  let st := b.transitions.foldl insertTransition st
  let st := st.publishCheckpoint b now
  (st, { blocks := b.blocks.length, cells := b.cells.length, spends := spent, transitions := b.transitions.length })

/-! ## The status view -/

/-- A row of `rgbpp_cell_status`. mirrors crates/store/src/models.rs:153-179 -/
structure CellRow extends CellRecord where
  ckbTxHash : Bytes
  outputIndex : Int32
  btcStatus : Option ObservationStatus
  btcSpenderTxid : Option Bytes
  btcSpentHeight : Option Int32
  btcObservedAt : Option DateTime
  btcAddress : Option String
  status : CellStatus
  deriving DecidableEq, Repr

/-- The observation a cell row joins with: equality on a NULL vout never holds. -/
def observationOf (st : Store) (c : CellRecord) : Option ObservationRow :=
  match c.btcVout with
  | some vout => st.btcOutpoints.get? ⟨c.btcTxid, vout⟩
  | none => none

/-- The `CASE` of the view. mirrors migrations/0001_init.sql:296-301 -/
def viewStatus (c : CellRecord) (o : Option ObservationRow) : CellStatus :=
  if c.consumed.isSome then .spent
  else
    match o with
    | some o => if o.invalidatedAt = none ∧ o.status.isSpent then .pendingCkb else .live
    | none => .live

/-- mirrors migrations/0001_init.sql:286-305 -/
def rgbppCellStatus (st : Store) (key : CellKey) (c : CellRecord) : CellRow :=
  let o := st.observationOf c
  { c with
    ckbTxHash := key.ckbTxHash, outputIndex := key.outputIndex,
    btcStatus := o.map ObservationRow.status, btcSpenderTxid := o.bind ObservationRow.spenderTxid,
    btcSpentHeight := o.bind ObservationRow.spentHeight, btcObservedAt := o.map ObservationRow.observedAt,
    btcAddress := o.bind ObservationRow.address, status := viewStatus c o }

/-- mirrors crates/store/src/cells.rs:105-119 -/
def cellByOutPoint (st : Store) (ckbTxHash : Bytes) (outputIndex : Int32) : Option CellRow :=
  (st.rgbppCells.get? ⟨ckbTxHash, outputIndex⟩).map (st.rgbppCellStatus ⟨ckbTxHash, outputIndex⟩)

/-! ## What the statements do -/

@[simp] theorem getStreamState_insertStream (st : Store) (stream : String) (startBlock : UInt64) (now : DateTime) :
    (st.insertStream stream startBlock now).getStreamState stream =
      some ((st.getStreamState stream).getD
        { lastBlockNumber := (if startBlock = 0 then 0 else startBlock - 1).toInt64, lastBlockHash := none,
          targetBlockNumber := none, chainTipNumber := none, reorgLag := 0, lastError := none,
          updatedAt := now }) := by
  simp only [getStreamState, insertStream, Table.get?_insertIfAbsent, if_true]

theorem get?_cellInsert (t : Table CellKey CellRecord) (c : NewCell) (k : CellKey) :
    (cellInsert t c).get? k =
      if k = c.key then
        some (match t.get? k with
          | none => c.record
          | some r =>
            { r with
              createdBlockNumber := c.createdBlockNumber, createdBlockHash := c.createdBlockHash,
              createdTxIndex := c.createdTxIndex })
      else t.get? k := by
  rw [cellInsert, Table.get?_upsert]
  by_cases h : k = c.key
  · subst h; simp
  · simp [h]

theorem get?_cellSpend (t : Table CellKey CellRecord) (s : CellSpend) (k : CellKey) :
    (cellSpend t s).get? k =
      if k = s.key then (t.get? k).map fun r => { r with consumed := some s.consumed } else t.get? k :=
  Table.get?_update ..

/-- What a spend says is not about the output. -/
theorem body_foldl_cellSpend (spends : List CellSpend) (t : Table CellKey CellRecord) (k : CellKey) :
    ((spends.foldl cellSpend t).get? k).map CellRecord.toCellBody = (t.get? k).map CellRecord.toCellBody := by
  induction spends generalizing t with
  | nil => rfl
  | cons s spends ih =>
    rw [List.foldl_cons, ih, get?_cellSpend]
    by_cases hk : k = s.key
    · rw [if_pos hk, Option.map_map]
      rfl
    · rw [if_neg hk]

/-- What a row says about the output, the first insert of its out point said. -/
theorem body_foldl_cellInsert (cells : List NewCell) (t : Table CellKey CellRecord) (k : CellKey) :
    ((cells.foldl cellInsert t).get? k).map CellRecord.toCellBody =
      ((t.get? k).map CellRecord.toCellBody).or ((cells.find? fun c => c.key = k).map NewCell.toCellBody) := by
  induction cells generalizing t with
  | nil => rw [List.foldl_nil, List.find?_nil, Option.map_none, Option.or_none]
  | cons c cells ih =>
    rw [List.foldl_cons, ih, get?_cellInsert]
    by_cases hk : k = c.key
    · rw [if_pos hk, List.find?_cons_of_pos (by simp [hk])]
      cases t.get? k <;> rfl
    · rw [if_neg hk, List.find?_cons_of_neg (by simp [Ne.symm hk])]

/-- A row no spend of the batch consumed is as it was. -/
theorem unconsumed_foldl_cellSpend {spends : List CellSpend} {t : Table CellKey CellRecord} {k : CellKey} {r : CellRecord}
    (h : (spends.foldl cellSpend t).get? k = some r) (hr : r.consumed = none) : t.get? k = some r := by
  induction spends generalizing t with
  | nil => exact h
  | cons s spends ih =>
    have hrow := ih h
    rw [get?_cellSpend] at hrow
    by_cases hk : k = s.key
    · rw [if_pos hk] at hrow
      obtain ⟨r', -, rfl⟩ := Option.map_eq_some_iff.mp hrow
      cases hr
    · rwa [if_neg hk] at hrow

/-- An unconsumed row stood there unconsumed, with the same body, or a cell of the batch has that body. -/
theorem unconsumed_foldl_cellInsert {cells : List NewCell} {t : Table CellKey CellRecord} {k : CellKey} {r : CellRecord}
    (h : (cells.foldl cellInsert t).get? k = some r) (hr : r.consumed = none) :
    (∃ r', t.get? k = some r' ∧ r'.toCellBody = r.toCellBody ∧ r'.consumed = none) ∨
      ∃ c ∈ cells, c.toCellBody = r.toCellBody := by
  induction cells generalizing t with
  | nil => exact .inl ⟨r, h, rfl, hr⟩
  | cons c cells ih =>
    rcases ih h with ⟨r', hrow, hbody, hconsumed⟩ | ⟨c', hc', hbody⟩
    · rw [get?_cellInsert] at hrow
      by_cases hk : k = c.key
      · rw [if_pos hk] at hrow
        obtain rfl := Option.some.inj hrow
        cases hold : t.get? k with
        | none =>
          rw [hold] at hbody
          exact .inr ⟨c, List.mem_cons_self, hbody⟩
        | some old =>
          rw [hold] at hbody hconsumed
          exact .inl ⟨old, rfl, hbody, hconsumed⟩
      · rw [if_neg hk] at hrow
        exact .inl ⟨r', hrow, hbody, hconsumed⟩
    · exact .inr ⟨c', List.mem_cons_of_mem _ hc', hbody⟩

/-- The whole batch, table by table. -/
theorem applyBatch_fst (st : Store) (b : IndexBatch) (now : DateTime) :
    (st.applyBatch b now).1 =
      { st with
        ckbBlocks := b.blocks.foldl blockUpsert st.ckbBlocks
        rgbppCells := b.spends.foldl cellSpend (b.cells.foldl cellInsert st.rgbppCells)
        rgbppTransitions := b.transitions.foldl transitionInsert st.rgbppTransitions
        indexerState := st.indexerState.update CKB_STREAM fun r =>
          { r with
            lastBlockNumber := b.checkpointNumber, lastBlockHash := b.checkpointHash,
            targetBlockNumber := some b.target, chainTipNumber := some b.chainTip, reorgLag := b.reorgLag,
            lastError := none, updatedAt := now } } := by
  -- each loop of statements is a fold over one table
  have hblocks : ∀ (l : List BlockRecord) (s : Store),
      l.foldl upsertBlock s = { s with ckbBlocks := l.foldl blockUpsert s.ckbBlocks } := fun l s =>
    List.foldl_hom (fun t => { s with ckbBlocks := t }) fun _ _ => rfl
  have hcells : ∀ (l : List NewCell) (s : Store),
      l.foldl insertCell s = { s with rgbppCells := l.foldl cellInsert s.rgbppCells } := fun l s =>
    List.foldl_hom (fun t => { s with rgbppCells := t }) fun _ _ => rfl
  have hspends : ∀ (l : List CellSpend) (s : Store) (n : Nat),
      (l.foldl (fun (p : Store × Nat) x => (p.1.applySpend x, p.2 + p.1.spendAffects x)) (s, n)).1 =
        { s with rgbppCells := l.foldl cellSpend s.rgbppCells } := by
    intro l; induction l with
    | nil => intro s n; rfl
    | cons x xs ih => intro s n; rw [List.foldl_cons, ih]; rfl
  have htrans : ∀ (l : List NewTransition) (s : Store),
      l.foldl insertTransition s = { s with rgbppTransitions := l.foldl transitionInsert s.rgbppTransitions } := fun l s =>
    List.foldl_hom (fun t => { s with rgbppTransitions := t }) fun _ _ => rfl
  show publishCheckpoint (b.transitions.foldl insertTransition (applySpends _ b.spends).1) b now = _
  rw [htrans, applySpends, hspends, hcells, hblocks]
  rfl

end Store
end RgbppIndexer
