import RgbppIndexer.Indexer.Address
import RgbppIndexer.Store.Activity

/-!
# Who owns an outpoint

Three writers set the address of an outpoint: its funding transaction
(`record_binding_addresses`), an address lookup (`record_outpoint_addresses`)
and an observation that carries one. All of them overwrite
(crates/store/src/btc.rs:74, 191, 292). `Attributed` says who the owner is,
and every lemma here what one write makes of it.

* `refreshOutpoints_attributed`: a refresh leaves the owner alone, unless it
  fetches the funding transaction and that pays somebody else.
* `reconcileAddress_attributed`: a diff makes whoever asks the owner of what is
  listed.
-/
namespace RgbppIndexer

open RgbppIndexer.Core

/-- The outpoint is attributed to the address. -/
def Attributed (key : OutpointKey) (address : String) (st : Store) : Prop :=
  (st.btcOutpoints.get? key).bind ObservationRow.address = some address

instance (key : OutpointKey) (address : String) (st : Store) : Decidable (Attributed key address st) :=
  inferInstanceAs (Decidable (_ = some address))

/-- The transaction pays its output to the address, as far as the source names one. -/
def BtcTxInfo.PaysTo (tx : BtcTxInfo) (vout : UInt32) (address : String) : Prop :=
  ∀ v output, tx.outputs[v]? = some output → UInt32.ofNat v = vout → ∀ b, output.address = some b → b = address

section
variable {key : OutpointKey} {o : BtcOutPoint} {address : String} {st st' : Store} {now : DateTime} {n : Nat}

/-! ## Labels and observations -/

theorem attributed_labelRow (old : Option ObservationRow) (source : String) (now : DateTime) :
    (some (Store.labelRow old address source now)).bind ObservationRow.address = some address := by
  cases old with
  | none => rfl
  | some row => rfl

/-- Labels that say the same of the outpoint, if they say something. -/
theorem Attributed.labelOutpoints {source : String} {outputs : List (OutpointKey × String)} (h : Attributed key address st)
    (hsame : ∀ b, (key, b) ∈ outputs → b = address) (hok : st.labelOutpoints source outputs now = .ok (st', n)) :
    Attributed key address st' := by
  by_cases hmem : key ∈ outputs.map Prod.fst ∧ st.hasBoundCell key = true
  · obtain ⟨⟨key', b⟩, he, rfl⟩ := List.mem_map.mp hmem.1
    obtain rfl := hsame b he
    rw [Attributed, Store.get?_labelOutpoints_of_mem hok he hmem.2]
    exact attributed_labelRow ..
  · rw [Attributed, Store.get?_labelOutpoints_of_notMem hok fun hin => Bool.eq_false_iff.mpr fun hbound => hmem ⟨hin, hbound⟩]
    exact h

/-- What an address lookup does to the owner of an outpoint with a cell. -/
theorem attributed_recordOutpointAddresses {outpoints : List OutpointKey} (hbound : st.hasBoundCell key = true)
    (hok : st.recordOutpointAddresses outpoints address now = .ok (st', n)) (hmem : key ∈ outpoints) :
    Attributed key address st' := by
  rw [Attributed, Store.get?_recordOutpointAddresses hok, if_pos ⟨hmem, hbound⟩]
  exact attributed_labelRow ..

theorem Attributed.recordOutpointAddresses {outpoints : List OutpointKey} {asked : String} (h : Attributed key address st)
    (hsame : key ∈ outpoints → asked = address)
    (hok : st.recordOutpointAddresses outpoints asked now = .ok (st', n)) : Attributed key address st' := by
  rw [Attributed, Store.get?_recordOutpointAddresses hok]
  by_cases hmem : key ∈ outpoints ∧ st.hasBoundCell key = true
  · rw [if_pos hmem, hsame hmem.1]
    exact attributed_labelRow ..
  · rw [if_neg hmem]
    exact h

/-- An observation without an address keeps the one there is. -/
theorem Attributed.upsertObservation (h : Attributed key address st) (key' : OutpointKey) (status : OutpointSpendStatus)
    (source : String) : Attributed key address (st.upsertObservation key' status none source now).1 := by
  rw [Attributed, Store.get?_upsertObservation]
  by_cases hkey : key = key'
  · subst hkey
    rw [if_pos rfl]
    exact h
  · rw [if_neg hkey]
    exact h

/-! ## Fetched transactions -/

theorem mem_recordAddresses_outputs {tx : BtcTxInfo} {vout : Int32} {b : String}
    (h : (vout, b) ∈ tx.outputs.zipIdx.filterMap fun (output, vout) =>
      output.address.map fun address => (Int32.ofNat vout, address)) :
    ∃ (v : Nat) (output : BtcTxOutput), tx.outputs[v]? = some output ∧ Int32.ofNat v = vout ∧ output.address = some b := by
  obtain ⟨⟨output, v⟩, he, heq⟩ := List.mem_filterMap.mp h
  obtain ⟨b', hb', hpair⟩ := Option.map_eq_some_iff.mp heq
  obtain ⟨rfl, rfl⟩ := Prod.mk.inj hpair
  exact ⟨v, output, List.mk_mem_zipIdx_iff_getElem?.mp he, rfl, hb'⟩

theorem Attributed.recordAddresses {txid : BtcTxid} {tx : BtcTxInfo} {labelled : Store × Nat} (h : Attributed o.key address st)
    (hpays : txid = o.txid → tx.PaysTo o.vout address) (hok : RgbppIndexer.recordAddresses st txid tx now = .ok labelled) :
    Attributed o.key address labelled.1 := by
  rcases recordAddresses_inv hok with hsame | hok
  · rw [hsame]
    exact h
  · unfold Store.recordBindingAddresses at hok
    split at hok
    · obtain rfl := Except.ok.inj hok
      exact h
    · refine h.labelOutpoints (fun b hb => ?_) hok
      obtain ⟨⟨vout, b'⟩, hmem, hpair⟩ := List.mem_map.mp hb
      obtain ⟨hkey, rfl⟩ := Prod.mk.inj hpair
      obtain ⟨htxid, hvout⟩ := OutpointKey.mk.inj hkey
      obtain ⟨v, output, houtput, rfl, haddress⟩ := mem_recordAddresses_outputs hmem
      exact hpays (BtcTxid.toDisplayVec_injective htxid) v output houtput (congrArg Int32.toUInt32 hvout) b' haddress

end

namespace Reconciler

variable {r : Reconciler} {o : BtcOutPoint} {address : String} {st : Store} {moment : Nat}

/-- Whenever the source knows the transaction, it says it pays its output to the address. -/
def Funds (r : Reconciler) (o : BtcOutPoint) (address : String) : Prop :=
  ∀ moment tx, (r.btc.moment moment).transaction o.txid = .ok (some tx) → tx.PaysTo o.vout address

theorem attributed_refreshBtcTx {txid : BtcTxid} (h : Attributed o.key address st)
    (hpays : txid = o.txid → r.Funds o address) : Attributed o.key address (r.refreshBtcTx moment st txid).1 := by
  refine refreshBtcTx_keeps h (fun tx labelled htx hlabel => ?_) fun s row hs => hs
  refine h.recordAddresses (fun htxid => ?_) hlabel
  subst htxid
  exact hpays rfl moment tx htx

theorem attributed_followUpSpend {status : OutpointSpendStatus} (h : Attributed o.key address st)
    (hpays : status.spender = some o.txid → r.Funds o address) :
    Attributed o.key address (r.followUpSpend moment st status).1 :=
  followUpSpend_keeps h fun _ hspender => attributed_refreshBtcTx h fun heq => hpays (heq ▸ hspender)

/-- One answer leaves the owner alone, unless its follow-up fetches the funding transaction. -/
theorem attributed_refreshStep {pass : RefreshPass} {answer : Observed} (h : Attributed o.key address pass.store)
    (hpays : ∀ status, answer.2 = .ok status → status.spender = some o.txid → r.Funds o address) :
    Attributed o.key address (r.refreshStep moment pass answer).1.store := by
  cases hanswer : answer.2 with
  | error e =>
    rw [refreshStep_of_error hanswer]
    exact h
  | ok status =>
    have hrecorded : Attributed o.key address (r.recordObservation pass.store answer.1 status none).1 :=
      h.upsertObservation ..
    rw [(refreshStep_written r moment pass answer hanswer).1]
    split
    · split
      · exact attributed_followUpSpend hrecorded (hpays status hanswer)
      · exact hrecorded
    · exact hrecorded

/-- **A refresh leaves the owner alone**, whatever comes of it, unless an answer
names the funding transaction as a spender and that pays somebody else. -/
theorem refreshOutpoints_attributed {outpoints : List BtcOutPoint} (h : Attributed o.key address st)
    (hpays : ∀ a ∈ r.answers moment outpoints, ∀ status, a.2 = .ok status → status.spender = some o.txid →
      r.Funds o address) : Attributed o.key address (r.refreshOutpoints moment st outpoints).store := by
  rcases refreshOutpoints_store_cases r moment st outpoints with hsame | ⟨queued, done, henq, hpre, hstore⟩
  · rw [hsame]
    exact h
  · obtain ⟨hst, -⟩ := Store.enqueueRefreshMany_eq_ok henq
    have hqueued : Attributed o.key address queued.1 := by
      rw [hst]
      exact h
    have hpasses : (∀ a ∈ done, a ∈ r.answers moment outpoints) →
        Attributed o.key address (afterPasses r.refreshStep (moment + 1) ⟨queued.1, [], []⟩ done).store := by
      refine afterPasses_keeps (P := fun done (p : RefreshPass) =>
        (∀ a ∈ done, a ∈ r.answers moment outpoints) → Attributed o.key address p.store) ?_ (fun _ => hqueued) done
      intro done a p hp hmem
      exact attributed_refreshStep (hp fun a' ha' => hmem a' (List.mem_append_left _ ha'))
        (hpays a (hmem a (List.mem_append_right _ (List.mem_singleton.mpr rfl))))
    rw [hstore]
    exact hpasses fun a ha => hpre.subset ha

/-! ## The diff -/

/-- A lookup labels what is listed: its statement names no outpoint twice. -/
theorem recordOutpointAddresses_listed (st : Store) (utxos : List BtcUtxo) (address : String) (now : DateTime) :
    ∃ labelled n, st.recordOutpointAddresses ((listed utxos).map BtcOutPoint.key) address now = .ok (labelled, n) := by
  unfold Store.recordOutpointAddresses
  split
  · exact ⟨_, _, rfl⟩
  · have hkeys : (((listed utxos).map BtcOutPoint.key).map fun o => (o, address)).map Prod.fst =
        (listed utxos).map BtcOutPoint.key := by
      rw [List.map_map]
      exact List.map_id _
    have hnodup : ((listed utxos).map BtcOutPoint.key).Nodup := (List.nodup_dedup _).map BtcOutPoint.key_injective
    unfold Store.labelOutpoints
    dsimp only
    rw [if_pos]
    · exact ⟨_, _, rfl⟩
    · rw [← hkeys] at hnodup
      exact hnodup.sublist (List.filter_sublist.map _)

/-- What the lookup of a call leaves, and where the call goes from there. -/
theorem reconcileAddress_cases (r : Reconciler) (moment : Nat) (st : Store) (address : String) :
    ((∃ e, (r.btc.moment moment).addressUtxos address = .error e) ∧ (r.reconcileAddress moment st address).1 = st) ∨
      ∃ utxos labelled, (r.btc.moment moment).addressUtxos address = .ok utxos ∧
        (∃ n, st.recordOutpointAddresses ((listed utxos).map BtcOutPoint.key) address r.now = .ok (labelled, n)) ∧
        ((r.reconcileAddress moment st address).1 = labelled ∨
          ∃ outpoints, (r.reconcileAddress moment st address).1 = (r.refreshOutpoints (moment + 1) labelled outpoints).store) := by
  unfold reconcileAddress
  cases hlisting : (r.btc.moment moment).addressUtxos address with
  | error e => exact .inl ⟨⟨e, rfl⟩, rfl⟩
  | ok utxos =>
    obtain ⟨labelled, n, hlabel⟩ := recordOutpointAddresses_listed st utxos address r.now
    refine .inr ⟨utxos, labelled, rfl, ⟨n, hlabel⟩, ?_⟩
    unfold listed at hlabel
    dsimp only
    rw [hlabel]
    dsimp only
    split
    · exact .inl rfl
    · exact .inl rfl
    · exact .inr ⟨_, rfl⟩

/-- A diff leaves CKB's facts alone. -/
theorem reconcileAddress_same (r : Reconciler) (moment : Nat) (st : Store) (address : String) :
    CkbSame st (r.reconcileAddress moment st address).1 := by
  rcases reconcileAddress_cases r moment st address with ⟨-, hst⟩ | ⟨utxos, labelled, -, ⟨n, hlabel⟩, hst⟩
  · rw [hst]
    exact .refl st
  · obtain ⟨hframe, -⟩ := Store.recordOutpointAddresses_eq_ok hlabel
    have hlabelled : CkbSame st labelled := by
      rw [hframe]
      exact ⟨rfl, rfl, rfl, rfl⟩
    rcases hst with hst | ⟨outpoints, hst⟩
    · rw [hst]
      exact hlabelled
    · obtain ⟨done, -, hanswered⟩ := refreshOutpoints_answered r (moment + 1) labelled outpoints
      rw [hst]
      exact hlabelled.trans hanswered.same

/-- A call that does not list the outpoint, or asks for its owner, leaves the owner. -/
theorem reconcileAddress_attributed {asked : String} (h : Attributed o.key address st) (hfunds : r.Funds o address)
    (hlisted : ∀ utxos, (r.btc.moment moment).addressUtxos asked = .ok utxos → (∃ u ∈ utxos, u.outpoint = o) → asked = address) :
    Attributed o.key address (r.reconcileAddress moment st asked).1 := by
  rcases reconcileAddress_cases r moment st asked with ⟨-, hst⟩ | ⟨utxos, labelled, hlisting, ⟨n, hlabel⟩, hst⟩
  · rw [hst]
    exact h
  · have hlabelled : Attributed o.key address labelled := by
      refine h.recordOutpointAddresses (fun hmem => hlisted utxos hlisting ?_) hlabel
      obtain ⟨o', ho', hkey⟩ := List.mem_map.mp hmem
      obtain ⟨u, hu, rfl⟩ := mem_listed.mp ho'
      exact ⟨u, hu, BtcOutPoint.key_injective hkey⟩
    rcases hst with hst | ⟨outpoints, hst⟩
    · rw [hst]
      exact hlabelled
    · rw [hst]
      exact refreshOutpoints_attributed hlabelled fun _ _ _ _ _ => hfunds

/-- A call that lists it makes whoever asks the owner, unless it fetches the funding transaction again. -/
theorem attributed_reconcileAddress {asked : String} {utxos : List BtcUtxo} (hbound : st.hasBoundCell o.key = true)
    (hlisting : (r.btc.moment moment).addressUtxos asked = .ok utxos) (hlisted : ∃ u ∈ utxos, u.outpoint = o)
    (hspender : ∀ q status, (r.btc.moment (moment + 1)).Says q status → status.spender ≠ some o.txid) :
    Attributed o.key asked (r.reconcileAddress moment st asked).1 := by
  rcases reconcileAddress_cases r moment st asked with ⟨⟨e, he⟩, -⟩ | ⟨utxos', labelled, hlisting', ⟨n, hlabel⟩, hst⟩
  · rw [hlisting] at he
    cases he
  · obtain rfl := Except.ok.inj (hlisting.symm.trans hlisting')
    have hmem : o.key ∈ (listed utxos).map BtcOutPoint.key := List.mem_map_of_mem (mem_listed.mpr hlisted)
    have hlabelled := attributed_recordOutpointAddresses hbound hlabel hmem
    rcases hst with hst | ⟨outpoints, hst⟩
    · rw [hst]
      exact hlabelled
    · rw [hst]
      refine refreshOutpoints_attributed hlabelled fun a ha status hstatus hspent => ?_
      have hanswer : (a.1, .ok status) ∈ r.answers (moment + 1) outpoints := by
        rw [← hstatus]
        exact ha
      exact absurd hspent (hspender a.1 status (says_of_mem_observeMany hanswer))

/-- **Exactly when a call leaves the owner of an outpoint with a cell**, unless it fetches the funding transaction. -/
theorem reconcileAddress_attributed_iff {asked : String} (h : Attributed o.key address st)
    (hbound : st.hasBoundCell o.key = true) (hfunds : r.Funds o address)
    (hspender : ∀ q status, (r.btc.moment (moment + 1)).Says q status → status.spender ≠ some o.txid) :
    Attributed o.key address (r.reconcileAddress moment st asked).1 ↔
      ∀ utxos, (r.btc.moment moment).addressUtxos asked = .ok utxos → (∃ u ∈ utxos, u.outpoint = o) → asked = address := by
  refine ⟨fun hkept utxos hlisting hlisted => ?_, reconcileAddress_attributed h hfunds⟩
  have htaken := attributed_reconcileAddress hbound hlisting hlisted hspender
  exact Option.some.inj (htaken.symm.trans hkept)

end Reconciler
end RgbppIndexer
