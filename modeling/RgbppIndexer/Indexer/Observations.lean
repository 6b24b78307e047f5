import RgbppIndexer.Core.Lts
import RgbppIndexer.Scan.Round
import RgbppIndexer.Store.Btc

/-!
# Runs over the observations

Everything that writes `btc_outpoints`, and the scanner that writes the cells
bound to them, as one labelled system: answers, the two kinds of address
labels, and scan rounds, in any order. A failed statement writes nothing.

* `Answered.step`, `answered_of_run`: the row of an outpoint holds the last
  answer for it, whatever else is written.
* `status_of_answered`: what the view makes of that answer.
* `notLive_of_answered`: while it is a spend, no cell bound to the outpoint is
  `live`, nor in the conservative balance.
-/
namespace RgbppIndexer

open RgbppIndexer.Core

namespace Observations

/-- One write of the running indexer. -/
inductive Event where
  | observe (key : OutpointKey) (status : OutpointSpendStatus) (address : Option String) (source : String) (now : DateTime)
  | labelFunding (txid : Bytes) (outputs : List (Int32 × String)) (now : DateTime)
  | labelAddress (outpoints : List OutpointKey) (address : String) (now : DateTime)
  | scan (env : ScanEnv)

/-- What a statement that may fail leaves behind. -/
def kept (st : Store) : Except StoreError (Store × Nat) → Store
  | .ok (st', _) => st'
  | .error _ => st

/-- The database after a write. -/
def apply [Sha2] (cfg : Config) (errorText : IndexerError → String) (st : Store) : Event → Store
  | .observe key status address source now => (st.upsertObservation key status address source now).1
  | .labelFunding txid outputs now => kept st (st.recordBindingAddresses txid outputs now)
  | .labelAddress outpoints address now => kept st (st.recordOutpointAddresses outpoints address now)
  | .scan env => scannerStep cfg env errorText st

/-- The running indexer, from a freshly migrated database. -/
def indexer [Sha2] (cfg : Config) (errorText : IndexerError → String) : Lts Store Event where
  init st := st = .empty
  step st event st' := st' = apply cfg errorText st event

/-- The scanner does not observe Bitcoin. -/
theorem scannerStep_btcOutpoints [Sha2] (cfg : Config) (env : ScanEnv) (errorText : IndexerError → String) (st : Store) :
    (scannerStep cfg env errorText st).btcOutpoints = st.btcOutpoints := by
  rcases scannerStep_cases cfg env errorText st with hnoted | ⟨reads, batch, hcommitted⟩
  · rw [hnoted.facts]
  · rw [hcommitted.facts]

/-! ## Answers -/

/-- What the event answers for the outpoint. -/
def answerFor (key : OutpointKey) : Event → Option OutpointSpendStatus
  | .observe key' status _ _ _ => if key' = key then some status else none
  | _ => none

def lastAnswer (key : OutpointKey) (events : List Event) : Option OutpointSpendStatus :=
  (events.filterMap (answerFor key)).getLast?

theorem lastAnswer_snoc (key : OutpointKey) (events : List Event) (event : Event) :
    lastAnswer key (events ++ [event]) = (answerFor key event).or (lastAnswer key events) := by
  unfold lastAnswer
  rw [List.filterMap_append]
  cases h : answerFor key event with
  | none => simp [h]
  | some status => simp [h]

section
variable {cfg : Config} {errorText : IndexerError → String} {st st' : Store} {key : OutpointKey} {event : Event}
  {events : List Event}

/-! ## The row of an outpoint -/

/-- The row of the outpoint holds this answer, and has not been invalidated. -/
def Answered (key : OutpointKey) (status : OutpointSpendStatus) (st : Store) : Prop :=
  ∃ row, st.btcOutpoints.get? key = some row ∧ row.status = status.column ∧ row.invalidatedAt = none

theorem Answered.labelled {status : OutpointSpendStatus} (h : Answered key status st)
    (hl : Store.Labelled st.btcOutpoints st'.btcOutpoints) : Answered key status st' := by
  obtain ⟨row, hrow, hstatus, hvalid⟩ := h
  have hk := hl key
  rw [hrow] at hk
  obtain ⟨address, hrow'⟩ := hk
  exact ⟨_, hrow', hstatus, hvalid⟩

/-- Only an answer for the outpoint changes what its row says. -/
theorem Answered.step [Sha2] {status : OutpointSpendStatus} (h : Answered key status st)
    (hother : answerFor key event = none) : Answered key status (apply cfg errorText st event) := by
  cases event with
  | observe key' answer address source now =>
    have hk : key ≠ key' := by
      rintro rfl
      simp [answerFor] at hother
    obtain ⟨row, hrow, hrest⟩ := h
    refine ⟨row, ?_, hrest⟩
    rw [apply, Store.get?_upsertObservation, if_neg hk]
    exact hrow
  | labelFunding txid outputs now =>
    show Answered key status (kept st (st.recordBindingAddresses txid outputs now))
    cases hrec : st.recordBindingAddresses txid outputs now with
    | error e => exact h
    | ok labelled => exact h.labelled (Store.recordBindingAddresses_eq_ok hrec).2
  | labelAddress outpoints address now =>
    show Answered key status (kept st (st.recordOutpointAddresses outpoints address now))
    cases hrec : st.recordOutpointAddresses outpoints address now with
    | error e => exact h
    | ok labelled => exact h.labelled (Store.recordOutpointAddresses_eq_ok hrec).2
  | scan env =>
    obtain ⟨row, hrow, hrest⟩ := h
    refine ⟨row, ?_, hrest⟩
    rw [apply, scannerStep_btcOutpoints]
    exact hrow

theorem answered_of_answer [Sha2] {status : OutpointSpendStatus} (h : answerFor key event = some status) :
    Answered key status (apply cfg errorText st event) := by
  cases event with
  | observe key' answer address source now =>
    have hk : key' = key ∧ answer = status := by simpa [answerFor] using h
    obtain ⟨rfl, rfl⟩ := hk
    refine ⟨Store.observationRow (st.btcOutpoints.get? key') answer address source now, ?_, rfl, rfl⟩
    rw [apply, Store.get?_upsertObservation, if_pos rfl]
  | labelFunding => cases h
  | labelAddress => cases h
  | scan => cases h

/-- The row of an outpoint holds the last answer for it. -/
theorem answered_of_run [Sha2] (hrun : (indexer cfg errorText).Run .empty events st) {status : OutpointSpendStatus}
    (hlast : lastAnswer key events = some status) : Answered key status st := by
  have hinit : ∀ status, lastAnswer key [] = some status → Answered key status .empty := by
    intro status h
    cases h
  refine hrun.keeps_history (I := fun ls t => ∀ status, lastAnswer key ls = some status → Answered key status t) ?_ hinit _ hlast
  intro ls t event t' ih hstep status hstatus
  rw [show t' = _ from hstep]
  rw [lastAnswer_snoc] at hstatus
  cases hanswer : answerFor key event with
  | none =>
    rw [hanswer, Option.none_or] at hstatus
    exact (ih status hstatus).step hanswer
  | some answer =>
    rw [hanswer, Option.some_or] at hstatus
    cases hstatus
    exact answered_of_answer hanswer

end

/-! ## What readers see -/

/-- A row of `rgbpp_cells` that is bound to the outpoint and unconsumed on CKB. -/
def BoundUnconsumed (key : OutpointKey) (c : CellRecord) : Prop :=
  c.btcTxid = key.txid ∧ c.btcVout = some key.vout ∧ c.consumed = none

instance (key : OutpointKey) (c : CellRecord) : Decidable (BoundUnconsumed key c) :=
  inferInstanceAs (Decidable (_ ∧ _ ∧ _))

theorem observationOf_bound {key : OutpointKey} {c : CellRecord} (h : BoundUnconsumed key c) (st : Store) :
    st.observationOf c = st.btcOutpoints.get? key := by
  obtain ⟨htxid, hvout, -⟩ := h
  unfold Store.observationOf
  rw [hvout, htxid]

/-- The view reads the row of the outpoint: anything but a spend makes the cell `live`. -/
theorem status_of_answered {st : Store} {key : OutpointKey} {status : OutpointSpendStatus}
    (h : Answered key status st) {k : CellKey} {c : CellRecord}
    (hbound : BoundUnconsumed key c) :
    (st.rgbppCellStatus k c).status = if status.isSpent = true then .pendingCkb else .live := by
  obtain ⟨row, hrow, hstatus, hvalid⟩ := h
  have hobs := observationOf_bound hbound st
  unfold Store.rgbppCellStatus Store.viewStatus
  rw [hobs, hrow]
  simp [hstatus, hvalid, hbound.2.2]

/-- No unconsumed cell bound to the outpoint is reported `live`, nor summed into a conservative balance. -/
def NotLive (key : OutpointKey) (st : Store) : Prop :=
  ∀ k c, st.rgbppCells.get? k = some c → BoundUnconsumed key c →
    (st.rgbppCellStatus k c).status ≠ .live ∧ ∀ outpoints, st.rgbppCellStatus k c ∉ st.balanceRows outpoints false

theorem notLive_of_answered {key : OutpointKey} {status : OutpointSpendStatus} {st : Store} (h : Answered key status st)
    (hspent : status.isSpent = true) : NotLive key st := by
  intro k c _ hbound
  have hstatus := status_of_answered h (k := k) hbound
  rw [if_pos hspent] at hstatus
  refine ⟨by rw [hstatus]; decide, fun outpoints hmem => ?_⟩
  have hfilter := (List.mem_filter.mp hmem).2
  simp [hstatus] at hfilter

end Observations
end RgbppIndexer
