import RgbppIndexer.Store.Btc

/-!
# The spend a row records

An observation writes a status into three columns of its row: the kind, the
spender and the height. No two statuses are written alike
(`columns_injective`), so the three columns are the status the row holds.
`upsert_observation` compares one of them (`upsertObservation_changed_iff`).
-/
namespace RgbppIndexer

open RgbppIndexer.Core

/-- The columns of `btc_outpoints` a spend status is written to. -/
structure SpendColumns where
  status : ObservationStatus
  spenderTxid : Option Bytes
  spentHeight : Option Int32
  deriving DecidableEq, Repr

def OutpointSpendStatus.columns (s : OutpointSpendStatus) : SpendColumns where
  status := s.column
  spenderTxid := s.spender.map BtcTxid.toDisplayVec
  spentHeight := s.height.map UInt32.toInt32

def ObservationRow.spend (row : ObservationRow) : SpendColumns := ⟨row.status, row.spenderTxid, row.spentHeight⟩

theorem toInt32_injective : Function.Injective UInt32.toInt32 := by
  intro a b h
  have h' := congrArg Int32.toUInt32 h
  rw [UInt32.toUInt32_toInt32, UInt32.toUInt32_toInt32] at h'
  exact h'

theorem OutpointSpendStatus.columns_injective : Function.Injective OutpointSpendStatus.columns := by
  intro a b h
  obtain ⟨hstatus, hspender, hheight⟩ := SpendColumns.mk.inj h
  have hs : a.spender = b.spender := Option.map_injective BtcTxid.toDisplayVec_injective hspender
  have hh : a.height = b.height := Option.map_injective toInt32_injective hheight
  cases a with
  | unknown => cases b <;> first | rfl | cases hstatus
  | unspent => cases b <;> first | rfl | cases hstatus
  | spentUnconfirmed s =>
    cases b with
    | spentUnconfirmed s' => rw [Option.some.inj hs]
    | _ => cases hstatus
  | spentConfirmed s n =>
    cases b with
    | spentConfirmed s' n' => rw [Option.some.inj hs, Option.some.inj hh]
    | _ => cases hstatus

/-- The arguments of one `upsert_observation` about an outpoint. -/
structure Observation where
  status : OutpointSpendStatus
  address : Option String
  source : String
  now : DateTime

namespace Store

def observe (st : Store) (key : OutpointKey) (c : Observation) : Store × Bool :=
  st.upsertObservation key c.status c.address c.source c.now

/-- The spend status stored for an outpoint. -/
def storedSpend (st : Store) (key : OutpointKey) : Option SpendColumns :=
  (st.btcOutpoints.get? key).map ObservationRow.spend

section
variable (st : Store) (key : OutpointKey) (status : OutpointSpendStatus) (address : Option String) (source : String)
  (now : DateTime)

@[simp] theorem spend_observationRow (old : Option ObservationRow) :
    (observationRow old status address source now).spend = status.columns := rfl

theorem storedSpend_upsertObservation (k : OutpointKey) :
    (st.upsertObservation key status address source now).1.storedSpend k =
      if k = key then some status.columns else st.storedSpend k := by
  unfold storedSpend
  rw [get?_upsertObservation]
  split
  · rfl
  · rfl

/-- The signal of an observation is about the kind alone. -/
theorem upsertObservation_changed_iff : (st.upsertObservation key status address source now).2 = true ↔
    (st.storedSpend key).map SpendColumns.status ≠ some status.column := by
  unfold upsertObservation storedSpend
  dsimp only
  rw [decide_eq_true_eq, Option.map_map]
  rfl

end

/-! ## A kind that tells the whole status -/

/-- An observation of the stored kind that says more than the kind: another spender, or another height. -/
def Silent (old : Option SpendColumns) (status : OutpointSpendStatus) : Prop :=
  old.map SpendColumns.status = some status.column ∧ old ≠ some status.columns

instance (old : Option SpendColumns) (status : OutpointSpendStatus) : Decidable (Silent old status) :=
  inferInstanceAs (Decidable (_ ∧ _))

theorem silent_columns_iff {a b : OutpointSpendStatus} : Silent (some a.columns) b ↔ a.column = b.column ∧ a ≠ b := by
  unfold Silent
  rw [Option.map_some, Option.some.injEq, ne_eq, Option.some.injEq, OutpointSpendStatus.columns_injective.eq_iff]
  rfl

variable {st : Store} {key : OutpointKey} {status : OutpointSpendStatus} {address : Option String} {source : String}
  {now : DateTime}

/-- **The signal says whether the stored status changes, unless the change is silent.** -/
theorem upsertObservation_tells_iff : ((st.upsertObservation key status address source now).2 = true ↔
    st.storedSpend key ≠ some status.columns) ↔ ¬ Silent (st.storedSpend key) status := by
  rw [upsertObservation_changed_iff]
  have hkind : st.storedSpend key = some status.columns → (st.storedSpend key).map SpendColumns.status = some status.column := by
    intro h
    rw [h]
    rfl
  unfold Silent
  tauto

end Store
end RgbppIndexer
