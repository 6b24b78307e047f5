import RgbppIndexer.Indexer.Address
import RgbppIndexer.Indexer.System
import RgbppIndexer.Store.Spends

/-!
# The follow-up of a recorded spend

`follow_up_spend` (crates/indexer/src/reconcile.rs:214-225) fetches and caches
the transaction that spends an outpoint. An answer is followed up if the write
of the observation signalled a change; otherwise nothing is asked, whatever
the data source would say.

* `stepFetches_of_changed`: an answer of another kind than the stored one is
  followed up.
* `refreshStep_of_unchanged`: one of the stored kind is not.
* `storedSpend_of_quiet`: among all tasks, only an answer about an outpoint
  writes the status that is stored for it.
-/
namespace RgbppIndexer

open RgbppIndexer.Core

namespace Reconciler

/-- The answer has the transaction that spends its outpoint fetched: a lookup that fails is reported, and a
transaction that is found is in `btc_txs`. -/
def StepFetches (r : Reconciler) (moment : Nat) (pass : RefreshPass) (answer : Observed) (spender : BtcTxid) : Prop :=
  (∀ e, (r.btc.moment moment).transaction spender = .error e → (r.refreshStep moment pass answer).2 = .error (.btc e)) ∧
  ∀ tx, (r.btc.moment moment).transaction spender = .ok (some tx) →
    (r.refreshStep moment pass answer).1.store.btcTxs.get? spender.toDisplayVec =
      some { btcTxRow r.btc.name tx with
        fee := (btcTxRow r.btc.name tx).fee <|> (pass.store.btcTxs.get? spender.toDisplayVec).bind BtcTxRow.fee }

section
variable {r : Reconciler} {moment : Nat} {st : Store} {txid : BtcTxid} {status : OutpointSpendStatus}

theorem recordAddresses_btcTxs {tx : BtcTxInfo} {now : DateTime} {labelled : Store × Nat}
    (h : recordAddresses st txid tx now = .ok labelled) : labelled.1.btcTxs = st.btcTxs := by
  rcases recordAddresses_inv h with hsame | hwritten
  · rw [hsame]
  · rw [(Store.recordBindingAddresses_eq_ok hwritten).1]

/-- A transaction that is found is cached, whether or not its labels can be written. -/
theorem refreshBtcTx_found (st : Store) {tx : BtcTxInfo} (h : (r.btc.moment moment).transaction txid = .ok (some tx)) :
    (r.refreshBtcTx moment st txid).1.btcTxs.get? txid.toDisplayVec =
        some { btcTxRow r.btc.name tx with
          fee := (btcTxRow r.btc.name tx).fee <|> (st.btcTxs.get? txid.toDisplayVec).bind BtcTxRow.fee } ∧
      (r.refreshBtcTx moment st txid).2 = .ok (some tx) := by
  unfold refreshBtcTx
  rw [h]
  dsimp only
  refine ⟨?_, rfl⟩
  cases hrec : recordAddresses st txid tx r.now with
  | error e => exact (Table.get?_upsert ..).trans (if_pos rfl)
  | ok labelled =>
    rw [← recordAddresses_btcTxs hrec]
    exact (Table.get?_upsert ..).trans (if_pos rfl)

end

section
variable {r : Reconciler} {moment : Nat} {pass : RefreshPass} {o : BtcOutPoint} {status : OutpointSpendStatus}
  {spender : BtcTxid}

/-- A change that is a spend is followed up. -/
theorem stepFetches_of_changed (hspender : status.spender = some spender)
    (hchanged : (r.recordObservation pass.store o status none).2 = true) :
    r.StepFetches moment pass (o, .ok status) spender := by
  have hspent : status.isSpent = true := (spender_isSome status).mp ⟨spender, hspender⟩
  have hbtc : (r.recordObservation pass.store o status none).1.btcTxs = pass.store.btcTxs := rfl
  obtain ⟨hstore, -, hresult⟩ := refreshStep_written r moment pass (o, .ok status) rfl
  rw [if_pos hspent, if_pos hchanged, followUpSpend_of_spender hspender] at hstore
  rw [if_pos ⟨hchanged, hspent⟩, followUpSpend_of_spender hspender, refreshBtcTx_result] at hresult
  constructor
  · intro e he
    rw [hresult, he]
    rfl
  · intro tx htx
    rw [hstore, (refreshBtcTx_found _ htx).1, hbtc]

/-- An answer that is no change asks nothing: the pass succeeds, and `btc_txs` stays as it is. -/
theorem refreshStep_of_unchanged (hchanged : (r.recordObservation pass.store o status none).2 = false) :
    (r.refreshStep moment pass (o, .ok status)).2 = .ok () ∧
      (r.refreshStep moment pass (o, .ok status)).1.store.btcTxs = pass.store.btcTxs := by
  obtain ⟨hstore, -, hresult⟩ := refreshStep_written r moment pass (o, .ok status) rfl
  rw [hchanged] at hstore hresult
  refine ⟨hresult.trans (if_neg fun h => Bool.false_ne_true h.1), ?_⟩
  rw [hstore, if_neg Bool.false_ne_true]
  split
  · rfl
  · rfl

end

/-! ## Whatever the data source answers -/

/-- A backend that answers one outpoint so, and cannot look up any transaction. -/
def deafSource (status : OutpointSpendStatus) : BtcDataSource where
  name := "esplora"
  moment _ :=
    { transaction := fun _ => .error (.transport "connection refused")
      outpointStatus := fun _ => .ok status
      txOutspends := fun _ => .ok none
      addressUtxos := fun _ => .ok [] }

end Reconciler

/-! ## Runs of all tasks -/

namespace System

/-- What an event answers for an outpoint. -/
def answerFor (key : OutpointKey) : Event → Option OutpointSpendStatus
  | .write event => Observations.answerFor key event
  | .answer _ _ (o, .ok status) => if o.key = key then some status else none
  | _ => none

section
variable {st : Store} {key : OutpointKey} {status : OutpointSpendStatus}

theorem storedSpend_labelled {st' : Store} {columns : SpendColumns} (h : st.storedSpend key = some columns)
    (hl : Store.LabelledRow (st.btcOutpoints.get? key) (st'.btcOutpoints.get? key)) : st'.storedSpend key = some columns := by
  obtain ⟨row, hrow, rfl⟩ := Option.map_eq_some_iff.mp h
  rw [hrow] at hl
  obtain ⟨address, hrow'⟩ := hl
  unfold Store.storedSpend
  rw [hrow']
  rfl

theorem detectStep_labelled (w : Sweeper) (now : DateTime) (tip : BtcTip) (moment : Nat) (st : Store)
    (found : MisspendsFound) (row : OutpointKey × ObservationRow) :
    Store.Labelled st.btcOutpoints (w.detectStep now tip moment (st, found) row).1.1.btcOutpoints := by
  have hlookup : ∀ fetched, w.reconciler.Fetched moment st fetched → Store.Labelled st.btcOutpoints fetched.btcOutpoints := by
    rintro fetched (rfl | ⟨txid, rfl⟩)
    · exact .refl _
    · exact (Reconciler.refreshBtcTx_labels w.reconciler moment st txid).outpoints
  rcases w.detectStep_inv now tip moment st found row with
    ⟨-, fetched, result, hout, hfetched, -⟩ | ⟨-, hout⟩ | ⟨-, kind, o, detail, fetched, -, -, hfetched, hout⟩
  · rw [hout]
    exact hlookup fetched hfetched
  · rw [hout]
    exact .refl _
  · rw [hout]
    exact hlookup fetched hfetched

theorem verifyStep_labelled (v : CommitmentVerifier) (now : DateTime) (moment : Nat) (st : Store) (report : VerifyReport)
    (row : Bytes × TransitionRecord) :
    Store.Labelled st.btcOutpoints (v.verifyStep now moment (st, report) row).1.1.btcOutpoints := by
  unfold CommitmentVerifier.verifyStep
  cases row.2.btcTxid with
  | none => exact .refl _
  | some btcTxid =>
    dsimp only
    split
    · exact .refl _
    · cases BtcTxid.fromDisplaySlice btcTxid with
      | error e => exact .refl _
      | ok txid =>
        have hlabels := (Reconciler.refreshBtcTx_labels v.reconciler moment st txid).outpoints
        dsimp only
        split
        · next heq => rw [heq] at hlabels; exact hlabels
        · next heq => rw [heq] at hlabels; exact hlabels
        · next heq =>
          rw [heq] at hlabels
          unfold CommitmentVerifier.checkCommitment
          dsimp only
          split
          · exact hlabels
          · exact hlabels

variable [Sha2] (cfg : Config) (errorText : IndexerError → String)

/-- **An event that answers nothing for an outpoint only labels its row.** -/
theorem labelledRow_apply (st : Store) {event : Event} (h : answerFor key event = none) :
    Store.LabelledRow (st.btcOutpoints.get? key) ((apply cfg errorText st event).btcOutpoints.get? key) := by
  cases event with
  | write event =>
    cases event with
    | observe key' status address source now =>
      have hne : key ≠ key' := by
        rintro rfl
        simp [answerFor, Observations.answerFor] at h
      rw [apply, Observations.apply, Store.get?_upsertObservation, if_neg hne]
      exact .refl _
    | labelFunding txid outputs now =>
      rw [apply, Observations.apply]
      cases hlabel : st.recordBindingAddresses txid outputs now with
      | error e => exact .refl _
      | ok labelled => exact (Store.recordBindingAddresses_eq_ok hlabel).2 key
    | labelAddress outpoints address now =>
      rw [apply, Observations.apply]
      cases hlabel : st.recordOutpointAddresses outpoints address now with
      | error e => exact .refl _
      | ok labelled => exact (Store.recordOutpointAddresses_eq_ok hlabel).2 key
    | scan env =>
      rw [apply, Observations.apply, Observations.scannerStep_btcOutpoints]
      exact .refl _
  | answer r moment answer =>
    rcases Reconciler.refreshStep_row (r := r) moment { store := st, out := [], observed := [] } answer key with
      hlabelled | ⟨hkey, status, hok⟩
    · exact hlabelled
    · obtain ⟨o, said⟩ := answer
      obtain rfl : said = .ok status := hok
      rw [answerFor, if_pos hkey.symm] at h
      cases h
  | examine w now tip moment row => exact detectStep_labelled w now tip moment st {} row key
  | verify v now moment row => exact verifyStep_labelled v now moment st {} row key
  | cacheTx txid row => exact .refl _
  | queue rows => exact .refl _

theorem storedSpend_of_quiet {event : Event} {columns : SpendColumns} (h : answerFor key event = none)
    (hstored : st.storedSpend key = some columns) : (apply cfg errorText st event).storedSpend key = some columns :=
  storedSpend_labelled hstored (labelledRow_apply cfg errorText st h)

/-- And one that answers stores its status. -/
theorem storedSpend_of_answer (st : Store) {event : Event} (h : answerFor key event = some status) :
    (apply cfg errorText st event).storedSpend key = some status.columns := by
  cases event with
  | write event =>
    cases event with
    | observe key' status' address source now =>
      rw [answerFor, Observations.answerFor] at h
      split at h
      · next hkey =>
        cases h
        rw [apply, Observations.apply, Store.storedSpend_upsertObservation, if_pos hkey.symm]
      · cases h
    | labelFunding txid outputs now => cases h
    | labelAddress outpoints address now => cases h
    | scan env => cases h
  | answer r moment answer =>
    obtain ⟨o, said⟩ := answer
    cases said with
    | error e => cases h
    | ok status' =>
      rw [answerFor] at h
      split at h
      · next hkey =>
        cases h
        have hwritten := (Reconciler.refreshStep_of_ok r moment { store := st, out := [], observed := [] } (o, .ok status) rfl).1
        refine storedSpend_labelled ?_ (hwritten.outpoints key)
        rw [Reconciler.recordObservation, Store.storedSpend_upsertObservation, if_pos hkey.symm]
      · cases h
  | examine w now tip moment row => cases h
  | verify v now moment row => cases h
  | cacheTx txid row => cases h
  | queue rows => cases h

end
end System
end RgbppIndexer
