import RgbppIndexer.Core.Lts
import RgbppIndexer.Core.Signed
import RgbppIndexer.Store.Spends

/-!
# The status view and the status rule

The rule "what an application wants to know about a cell" exists twice: as
the `CASE` of the `rgbpp_cell_status` view (migrations/0001_init.sql:296-301)
over a text column, and as `derive_cell_status` (crates/types/src/state.rs:89-97)
over the status that `ObservationRow::spend_status` reads from the row.

They differ on rows no writer leaves: a spend without a spender, which reads
as `Unknown`, and an invalidated one. `Legible` is what all writers keep.

* `spendStatus_of_columns`, `readBack_of_height`: a status that was written reads back, while its height is an `i32`.
* `legible_reachable`: every row of a reachable database was written by an observation or a label.
* `view_agrees`: **the view and the rule agree on every cell, after any interleaving of the writers.**
-/
namespace RgbppIndexer

open RgbppIndexer.Core

namespace Store

/-! ## Reading a status back -/

/-- The row says what some observation wrote: its three columns are those of a status, and it is not invalidated. -/
def Legible (row : ObservationRow) : Prop := ∃ status : OutpointSpendStatus, row.spend = status.columns ∧ row.invalidatedAt = none

/-- The status a row with these columns reads as: heights past `i32` are stored as negative, and read as zero. -/
def readBack : OutpointSpendStatus → OutpointSpendStatus
  | .spentConfirmed spender height => .spentConfirmed spender (if height.toInt32 < 0 then 0 else height)
  | status => status

@[simp] theorem isSpent_readBack (status : OutpointSpendStatus) : (readBack status).isSpent = status.isSpent := by
  cases status <;> rfl

/-- A height below `2 ^ 31` is not negative as an `i32`. -/
theorem readBack_of_height {status : OutpointSpendStatus} (h : ∀ n, status.height = some n → n.toNat < 2 ^ 31) :
    readBack status = status := by
  cases status with
  | spentConfirmed spender height =>
    have hheight : ¬height.toInt32 < 0 := by
      rw [Int32.lt_iff_toInt_lt, toInt_toInt32 (h height rfl)]
      exact Int.not_lt.mpr (Int.natCast_nonneg _)
    rw [readBack, if_neg hheight]
  | _ => rfl

/-- The columns a status was written to read as that status. -/
theorem spendStatus_of_columns {row : ObservationRow} {status : OutpointSpendStatus} (h : row.spend = status.columns) :
    spendStatus row = .ok (readBack status) := by
  obtain ⟨hstatus, hspender, hheight⟩ := SpendColumns.mk.inj h
  unfold spendStatus
  rw [hstatus, hspender, hheight]
  cases status with
  | unknown => rfl
  | unspent => rfl
  | spentUnconfirmed spender =>
    simp only [OutpointSpendStatus.spender, Option.map_some, BtcTxid.fromDisplaySlice_toDisplayVec]
    rfl
  | spentConfirmed spender height =>
    simp only [OutpointSpendStatus.spender, OutpointSpendStatus.height, Option.map_some,
      BtcTxid.fromDisplaySlice_toDisplayVec, UInt32.toUInt32_toInt32]
    rfl

/-! ## The writers -/

/-- One committed statement of a writer of cells or observations. -/
inductive Write where
  | batch (b : IndexBatch) (now : DateTime)
  | observe (key : OutpointKey) (o : Observation)
  | bindingAddresses (txid : Bytes) (outputs : List (Int32 × String)) (now : DateTime)
  | outpointAddresses (outpoints : List OutpointKey) (address : String) (now : DateTime)

/-- A statement that fails leaves the database as it was. -/
def orKept (st : Store) (result : Except StoreError (Store × Nat)) : Store := (result.toOption.map Prod.fst).getD st

def write (st : Store) : Write → Store
  | .batch b now => (st.applyBatch b now).1
  | .observe key o => (st.observe key o).1
  | .bindingAddresses txid outputs now => st.orKept (st.recordBindingAddresses txid outputs now)
  | .outpointAddresses outpoints address now => st.orKept (st.recordOutpointAddresses outpoints address now)

/-- The writers in any order, from a migrated database with any stream checkpoints. -/
def writers : Lts Store Write where
  init st := ∃ streams, st = { Store.empty with indexerState := streams }
  step st w st' := st' = st.write w

/-! ## What they leave in a row -/

section
variable {st : Store} {key : OutpointKey} {row : ObservationRow}

/-- All rows are legible. -/
def AllLegible (t : Table OutpointKey ObservationRow) : Prop := ∀ key row, t.get? key = some row → Legible row

theorem legible_labelRow {old : Option ObservationRow} (h : ∀ row, old = some row → Legible row) (address source : String)
    (now : DateTime) : Legible (labelRow old address source now) := by
  cases old with
  | none => exact ⟨.unknown, rfl, rfl⟩
  | some row =>
    obtain ⟨status, hspend, hvalid⟩ := h row rfl
    exact ⟨status, hspend, hvalid⟩

theorem AllLegible.labelled {t : Table OutpointKey ObservationRow} (h : AllLegible t) (source : String) (now : DateTime)
    (es : List (OutpointKey × String)) : AllLegible (es.foldl (labelOutpoint source now) t) := by
  induction es generalizing t with
  | nil => exact h
  | cons e es ih =>
    refine ih fun key row hrow => ?_
    rw [get?_labelOutpoint] at hrow
    split at hrow
    · rw [← Option.some.inj hrow]
      exact legible_labelRow (fun r hr => h _ r hr) _ _ _
    · exact h key row hrow

theorem AllLegible.labelOutpoints (h : AllLegible st.btcOutpoints) (source : String) (outputs : List (OutpointKey × String))
    (now : DateTime) : AllLegible (st.orKept (st.labelOutpoints source outputs now)).btcOutpoints := by
  unfold Store.labelOutpoints orKept
  dsimp only
  split
  · exact h.labelled source now _
  · exact h

/-- Every writer keeps the rows legible. -/
theorem AllLegible.write (h : AllLegible st.btcOutpoints) (w : Write) : AllLegible (st.write w).btcOutpoints := by
  cases w with
  | batch b now =>
    rw [Store.write, applyBatch_fst]
    exact h
  | observe k o =>
    intro key row hrow
    rw [Store.write, Store.observe, get?_upsertObservation] at hrow
    split at hrow
    · rw [← Option.some.inj hrow]
      exact ⟨o.status, rfl, rfl⟩
    · exact h key row hrow
  | bindingAddresses txid outputs now =>
    rw [Store.write, recordBindingAddresses]
    split
    · exact h
    · exact h.labelOutpoints _ _ _
  | outpointAddresses outpoints address now =>
    rw [Store.write, recordOutpointAddresses]
    split
    · exact h
    · exact h.labelOutpoints _ _ _

/-- In every reachable database all rows are legible. -/
theorem legible_reachable (hst : writers.Reachable st) : AllLegible st.btcOutpoints := by
  have hinv : writers.Inv fun st => AllLegible st.btcOutpoints := by
    constructor
    · rintro st ⟨streams, rfl⟩ key row hrow
      cases hrow
    · rintro st w st' h rfl
      exact h.write w
  exact hinv.reachable hst

/-! ## The two rules -/

/-- What the row a cell joins with says about its outpoint: `Unknown` if there is none. -/
def joinedStatus : Option ObservationRow → Except StoreError OutpointSpendStatus
  | none => .ok .unknown
  | some row => spendStatus row

/-- On a legible row, the `CASE` of the view is the rule. -/
theorem viewStatus_eq {c : CellRecord} {o : Option ObservationRow} (h : ∀ row, o = some row → Legible row) :
    ∃ status, joinedStatus o = .ok status ∧ viewStatus c o = deriveCellStatus c.consumed.isSome status := by
  cases o with
  | none =>
    refine ⟨.unknown, rfl, ?_⟩
    unfold viewStatus deriveCellStatus
    rfl
  | some row =>
    obtain ⟨status, hspend, hvalid⟩ := h row rfl
    refine ⟨readBack status, spendStatus_of_columns hspend, ?_⟩
    have hcolumn : row.status = status.column := congrArg SpendColumns.status hspend
    unfold viewStatus deriveCellStatus
    simp only [hvalid, hcolumn, OutpointSpendStatus.isSpent_column, isSpent_readBack, true_and]

theorem legible_observationOf (h : AllLegible st.btcOutpoints) (c : CellRecord) :
    ∀ row, st.observationOf c = some row → Legible row := by
  intro row hrow
  unfold observationOf at hrow
  split at hrow
  · exact h _ _ hrow
  · cases hrow

end

/-- After any interleaving of the writers, the status the view reports for a
cell is the one the rule derives, and an observation reads back as the status
it was written with, while its height fits the signed column. -/
theorem view_agrees {st : Store} (hst : writers.Reachable st) :
    (∀ key c, st.rgbppCells.get? key = some c → ∃ status, joinedStatus (st.observationOf c) = .ok status ∧
      (st.rgbppCellStatus key c).status = deriveCellStatus c.consumed.isSome status) ∧
    ∀ key (o : Observation), (∀ n, o.status.height = some n → n.toNat < 2 ^ 31) →
      ∃ row, (st.observe key o).1.btcOutpoints.get? key = some row ∧ spendStatus row = .ok o.status := by
  constructor
  · intro key c _
    exact viewStatus_eq (legible_observationOf (legible_reachable hst) c)
  · intro key o hheight
    refine ⟨observationRow (st.btcOutpoints.get? key) o.status o.address o.source o.now, ?_, ?_⟩
    · rw [observe, get?_upsertObservation, if_pos rfl]
    · rw [spendStatus_of_columns (spend_observationRow ..), readBack_of_height hheight]

/-- A cell bound to output 0 of a Bitcoin transaction. -/
def boundCell : NewCell where
  ckbTxHash := List.replicate 32 1
  outputIndex := 0
  lockKind := .rgbpp
  btcTxid := List.replicate 32 2
  btcVout := some 0
  btcTimeAfter := none
  btcTimeTargetLockHash := none
  btcTimeTargetLock := none
  lockHash := List.replicate 32 3
  lockArgs := List.replicate 36 4
  typeHash := none
  typeScript := none
  assetKind := .none
  udtAmount := none
  capacity := 20000000000
  cellData := []
  createdBlockNumber := 100
  createdBlockHash := List.replicate 32 5
  createdTxIndex := 1

/-- Its output is spent in a block. -/
def spentInBlock : Observation := ⟨.spentConfirmed ⟨.filled 32 9⟩ 800000, none, "esplora", 1⟩

def pendingStore : Store :=
  ((Store.empty.write (.batch { cells := [boundCell] } 0)).write (.observe ⟨List.replicate 32 2, 0⟩ spentInBlock))

theorem pendingStore_reachable : writers.Reachable pendingStore :=
  ⟨.empty, [_, _], ⟨.empty, rfl⟩, Lts.Run.cons rfl (Lts.Run.single rfl)⟩

/-- The view and the rule on the cell, and the spend read back. -/
theorem view_agrees_pendingStore :
    (∃ status, joinedStatus (pendingStore.observationOf boundCell.record) = .ok status ∧
      (pendingStore.rgbppCellStatus boundCell.key boundCell.record).status = deriveCellStatus false status) ∧
    ∃ row, (pendingStore.observe ⟨List.replicate 32 2, 0⟩ spentInBlock).1.btcOutpoints.get? ⟨List.replicate 32 2, 0⟩ = some row ∧
      spendStatus row = .ok spentInBlock.status := by
  have hheight : ∀ n, spentInBlock.status.height = some n → n.toNat < 2 ^ 31 := by
    intro n hn
    rw [← Option.some.inj hn]
    decide
  exact ⟨(view_agrees pendingStore_reachable).1 boundCell.key boundCell.record rfl,
    (view_agrees pendingStore_reachable).2 ⟨List.replicate 32 2, 0⟩ spentInBlock hheight⟩

end Store
end RgbppIndexer
