import RgbppIndexer.Indexer.System

/-!
# What an address diff does

`reconcile_address` compares a UTXO listing with the database and re-observes
what they disagree about. The listing may be anything: "Absence is only a hint
about where to look; the actual status still comes from asking the data source
about the outpoint" (crates/indexer/src/reconcile.rs:263-267).

* `refreshOutpoints_rows`, `refreshOutpoints_reaches`: what a refresh that
  succeeds writes, and whom it leaves out.
* `mem_disappeared`, `mem_contradicted`: what the diff finds.
* `reconcileAddress_sound`: **a listing marks nothing spent or unspent, and
  every disagreement is re-observed or queued.**
-/
namespace RgbppIndexer

open RgbppIndexer.Core

/-- The spend status of a row is what it was; a new row claims nothing. -/
def StatusKept : Option ObservationRow → ObservationRow → Prop
  | some old, row => row.status = old.status ∧ row.spenderTxid = old.spenderTxid ∧ row.spentHeight = old.spentHeight
  | none, row => row.status = .unknown

/-- A stored observation that is in force, and a spend. -/
def StoredSpent (row : ObservationRow) : Prop :=
  row.invalidatedAt = none ∧ ∃ status, Store.spendStatus row = .ok status ∧ status.isSpent = true

theorem Store.LabelledRow.kept {old : Option ObservationRow} {row : ObservationRow} (h : LabelledRow old (some row)) :
    StatusKept old row := by
  cases old with
  | none => exact h row rfl
  | some r =>
    obtain ⟨address, heq⟩ := h
    cases heq
    exact ⟨rfl, rfl, rfl⟩

theorem StoredSpent.labelled {row : ObservationRow} {new : Option ObservationRow} (h : StoredSpent row)
    (hl : Store.LabelledRow (some row) new) : ∃ row', new = some row' ∧ StoredSpent row' := by
  obtain ⟨address, rfl⟩ := hl
  exact ⟨_, rfl, h⟩

namespace Reconciler

/-- The row under the key is the source's own answer of this moment about the outpoint. -/
def Reobserved (r : Reconciler) (moment : Nat) (st' : Store) (key : OutpointKey) : Prop :=
  ∃ o status row, key = o.key ∧ (r.btc.moment moment).Says o status ∧ st'.btcOutpoints.get? key = some row ∧
    r.Shows status row

section
variable {r : Reconciler} {moment : Nat} {st st' : Store} {pass : RefreshPass} {answer : Observed} {key : OutpointKey}
  {outpoints liveNow : List BtcOutPoint} {address : String}

/-! ## A refresh that succeeds -/

/-- One answer writes the row of its outpoint if it is an answer, and labels otherwise. -/
theorem refreshStep_row (moment : Nat) (pass : RefreshPass) (answer : Observed) (key : OutpointKey) :
    Store.LabelledRow (pass.store.btcOutpoints.get? key) ((r.refreshStep moment pass answer).1.store.btcOutpoints.get? key) ∨
      key = answer.1.key ∧ ∃ status, answer.2 = .ok status := by
  cases hans : answer.2 with
  | error e =>
    left
    rw [refreshStep_of_error hans]
    exact Store.LabelledRow.refl _
  | ok status =>
    by_cases hkey : key = answer.1.key
    · exact .inr ⟨hkey, status, rfl⟩
    · left
      have hlab := (refreshStep_of_ok r moment pass answer hans).1.outpoints key
      rw [recordObservation, Store.get?_upsertObservation, if_neg hkey] at hlab
      exact hlab

variable (pass) in
theorem afterPasses_row (answers : List Observed) (key : OutpointKey) :
    Store.LabelledRow (pass.store.btcOutpoints.get? key)
        ((afterPasses r.refreshStep moment pass answers).store.btcOutpoints.get? key) ∨
      ∃ o status, (o, .ok status) ∈ answers ∧ key = o.key := by
  refine afterPasses_keeps (P := fun done (p : RefreshPass) =>
    Store.LabelledRow (pass.store.btcOutpoints.get? key) (p.store.btcOutpoints.get? key) ∨
      ∃ o status, (o, .ok status) ∈ done ∧ key = o.key) ?_ (.inl (Store.LabelledRow.refl _)) answers
  intro done a p hp
  rcases hp with hp | ⟨o, status, hmem, hkey⟩
  · rcases refreshStep_row (r := r) (moment + done.length) p a key with hstep | ⟨hkey, status, hok⟩
    · exact .inl (hp.trans hstep)
    · exact .inr ⟨a.1, status, List.mem_append_right _ (List.mem_singleton.mpr (Prod.ext rfl hok.symm)), hkey⟩
  · exact .inr ⟨o, status, List.mem_append_left _ hmem, hkey⟩

/-- Where a refresh that succeeds stands: it went through all its answers, from the database the overflow left. -/
theorem refreshOutpoints_processed {out : List OutpointRefresh} (hne : outpoints ≠ [])
    (h : (r.refreshOutpoints moment st outpoints).result = .ok out) :
    ∃ (queued : Store) (pass : RefreshPass), queued.btcOutpoints = st.btcOutpoints ∧
      (∀ k, queued.Queued k ↔ k ∈ (r.overflow outpoints).map BtcOutPoint.key ∨ st.Queued k) ∧
      (r.refreshOutpoints moment st outpoints).store = pass.store ∧
      r.Processed queued (r.answers moment outpoints) pass ∧
      ∀ key, Store.LabelledRow (st.btcOutpoints.get? key) (pass.store.btcOutpoints.get? key) ∨
        ∃ o status, (o, .ok status) ∈ r.answers moment outpoints ∧ key = o.key := by
  obtain ⟨queued, henq⟩ := exists_queued_of_ok h hne
  obtain ⟨hst, hqueued⟩ := Store.enqueueRefreshMany_eq_ok henq
  obtain ⟨hstore, -, hresult⟩ := refreshOutpoints_of_queued moment hne henq
  have hloop := (forEach_eq_ok (hresult.mp ⟨out, h⟩)).1
  have hsame : queued.1.btcOutpoints = st.btcOutpoints := by rw [hst]
  refine ⟨queued.1, _, hsame, hqueued, hstore.trans (congrArg RefreshPass.store hloop),
    processed_afterPasses (answers_nodup r moment outpoints) (moment + 1) queued.1 [], fun key => ?_⟩
  rw [← hsame]
  exact afterPasses_row ⟨queued.1, [], []⟩ (r.answers moment outpoints) key

/-- A row a refresh leaves is a label on the old one, or an answer. -/
theorem refreshOutpoints_rows {out : List OutpointRefresh}
    (h : (r.refreshOutpoints moment st outpoints).result = .ok out) (key : OutpointKey) :
    Store.LabelledRow (st.btcOutpoints.get? key) ((r.refreshOutpoints moment st outpoints).store.btcOutpoints.get? key) ∨
      r.Reobserved moment (r.refreshOutpoints moment st outpoints).store key := by
  by_cases hne : outpoints = []
  · left
    subst hne
    exact Store.LabelledRow.refl _
  · obtain ⟨queued, pass, -, -, hstore, hprocessed, hrows⟩ := refreshOutpoints_processed hne h
    rw [hstore]
    rcases hrows key with hlabel | ⟨o, status, hmem, rfl⟩
    · exact .inl hlabel
    · obtain ⟨row, hrow, hshows⟩ := hprocessed.recorded o status hmem
      exact .inr ⟨o, status, row, rfl, says_of_mem_observeMany hmem, hrow, hshows⟩

/-- Every outpoint a refresh is given is re-observed or queued. -/
theorem refreshOutpoints_reaches {out : List OutpointRefresh}
    (h : (r.refreshOutpoints moment st outpoints).result = .ok out) {o : BtcOutPoint} (ho : o ∈ outpoints) :
    r.Reobserved moment (r.refreshOutpoints moment st outpoints).store o.key ∨
      (r.refreshOutpoints moment st outpoints).store.Queued o.key := by
  obtain ⟨queued, pass, -, hqueued, hstore, hprocessed, -⟩ := refreshOutpoints_processed (List.ne_nil_of_mem ho) h
  rw [hstore]
  rcases mem_capped_or_overflow (r := r) ho with hcapped | hoverflow
  · obtain ⟨said, hmem⟩ := exists_answer moment hcapped
    cases said with
    | ok status =>
      obtain ⟨row, hrow, hshows⟩ := hprocessed.recorded o status hmem
      exact .inl ⟨o, status, row, rfl, says_of_mem_observeMany hmem, hrow, hshows⟩
    | error e => exact .inr ((hprocessed.queued _).mpr (.inr ⟨o, e, hmem, rfl⟩))
  · exact .inr ((hprocessed.queued _).mpr (.inl ((hqueued _).mpr (.inl (List.mem_map_of_mem hoverflow)))))

/-! ## The diff -/

theorem mem_liveBoundOutpointsForAddress : key ∈ st.liveBoundOutpointsForAddress address ↔
    Store.LiveBound key st ∧ (st.btcOutpoints.get? key).bind ObservationRow.address = some address := by
  unfold Store.liveBoundOutpointsForAddress
  rw [List.mem_insertionSort, List.mem_dedup, List.mem_filterMap]
  constructor
  · rintro ⟨⟨k, c⟩, hc, hkey⟩
    dsimp only at hkey
    split at hkey
    · next vout hvout =>
      split at hkey
      · next howned =>
        obtain rfl := Option.some.inj hkey
        exact ⟨⟨k, c, (Table.get?_eq_some_iff ..).mpr hc, rfl, hvout, howned.1⟩, howned.2⟩
      · cases hkey
    · cases hkey
  · rintro ⟨⟨k, c, hc, htxid, hvout, hconsumed⟩, howner⟩
    refine ⟨(k, c), (Table.get?_eq_some_iff ..).mp hc, ?_⟩
    simp only [hvout, hconsumed, htxid, howner, and_self, if_true]

/-- What the address is believed to own and the listing omits. -/
theorem mem_disappeared {gone : List BtcOutPoint} (h : disappeared st address liveNow = .ok gone)
    (hlive : Store.LiveBound key st) (howner : (st.btcOutpoints.get? key).bind ObservationRow.address = some address)
    (homitted : ∀ o ∈ liveNow, o.key ≠ key) : ∃ o ∈ gone, o.key = key := by
  unfold disappeared at h
  obtain ⟨believed, hbelieved, hgone⟩ := bind_eq_ok.mp h
  rw [pure_eq_ok] at hgone
  have hkeys : believed.map BtcOutPoint.key = (st.liveBoundOutpointsForAddress address).map id := Store.map_key_of_mapM hbelieved
  rw [List.map_id] at hkeys
  have hmem : key ∈ believed.map BtcOutPoint.key := by
    rw [hkeys]
    exact mem_liveBoundOutpointsForAddress.mpr ⟨hlive, howner⟩
  obtain ⟨o, ho, rfl⟩ := List.mem_map.mp hmem
  refine ⟨o, ?_, rfl⟩
  rw [← hgone, List.mem_filter, decide_eq_true_eq]
  exact ⟨ho, fun hlisted => homitted o hlisted rfl⟩

/-- What is listed and stored as spent. -/
theorem mem_contradicted {stale : List BtcOutPoint} (h : contradicted st liveNow = .ok stale) {o : BtcOutPoint}
    (ho : o ∈ liveNow) {row : ObservationRow} (hrow : st.btcOutpoints.get? o.key = some row) (hspent : StoredSpent row) :
    o ∈ stale := by
  unfold contradicted at h
  obtain ⟨rows, hrows, hstale⟩ := bind_eq_ok.mp h
  rw [pure_eq_ok] at hstale
  have hmem : (o.key, row) ∈ st.getObservations (liveNow.map BtcOutPoint.key) := by
    unfold Store.getObservations
    rw [Table.mem_select, decide_eq_true_eq]
    exact ⟨hrow, List.mem_map_of_mem ho⟩
  obtain ⟨found, hfound, hread⟩ := forall₂_mem_left (mapM_eq_ok.mp hrows) hmem
  obtain ⟨hvalid, status, hstatus, hisSpent⟩ := hspent
  dsimp only at hread
  rw [hstatus] at hread
  have hkept : (status.isSpent = true ∧ row.invalidatedAt = none) := ⟨hisSpent, hvalid⟩
  change (if status.isSpent = true ∧ row.invalidatedAt = none then _ else _) = _ at hread
  rw [if_pos hkept, Store.outPointOfKey_key] at hread
  cases hread
  rw [← hstale]
  exact List.mem_filterMap.mpr ⟨some o, hfound, rfl⟩

/-! ## The call -/

/-- The outpoints of a listing. -/
def listed (utxos : List BtcUtxo) : List BtcOutPoint := (utxos.map BtcUtxo.outpoint).dedup

theorem mem_listed {utxos : List BtcUtxo} {o : BtcOutPoint} : o ∈ listed utxos ↔ ∃ utxo ∈ utxos, utxo.outpoint = o := by
  rw [listed, List.mem_dedup, List.mem_map]

/-- What the diff hands to the refresh. -/
def toRefresh (gone stale : List BtcOutPoint) : List BtcOutPoint := ((gone ++ stale).insertionSort fun a b => outPointLe a b).dedup

theorem mem_toRefresh {gone stale : List BtcOutPoint} {o : BtcOutPoint} :
    o ∈ toRefresh gone stale ↔ o ∈ gone ∨ o ∈ stale := by
  rw [toRefresh, List.mem_dedup, List.mem_insertionSort, List.mem_append]

/-- The parts of a call that succeeds. -/
structure Diffed (r : Reconciler) (moment : Nat) (st : Store) (address : String) (utxos : List BtcUtxo) (labelled : Store)
    (gone stale : List BtcOutPoint) (st' : Store) : Prop where
  listing : (r.btc.moment moment).addressUtxos address = .ok utxos
  label : ∃ n, st.recordOutpointAddresses ((listed utxos).map BtcOutPoint.key) address r.now = .ok (labelled, n)
  believedLive : disappeared labelled address (listed utxos) = .ok gone
  recordedSpent : contradicted labelled (listed utxos) = .ok stale
  refreshed : ∃ out, (r.refreshOutpoints (moment + 1) labelled (toRefresh gone stale)).result = .ok out
  store : st' = (r.refreshOutpoints (moment + 1) labelled (toRefresh gone stale)).store

theorem reconcileAddress_eq_ok {res : AddressReconcile} (h : r.reconcileAddress moment st address = (st', .ok res)) :
    ∃ utxos labelled gone stale, Diffed r moment st address utxos labelled gone stale st' := by
  unfold reconcileAddress at h
  cases hlisting : (r.btc.moment moment).addressUtxos address with
  | error e =>
    rw [hlisting] at h
    cases h
  | ok utxos =>
    rw [hlisting] at h
    dsimp only at h
    cases hlabel : st.recordOutpointAddresses (((utxos.map BtcUtxo.outpoint).dedup).map BtcOutPoint.key) address r.now with
    | error e =>
      rw [hlabel] at h
      cases h
    | ok labelled =>
      rw [hlabel] at h
      dsimp only at h
      cases hgone : disappeared labelled.1 address (utxos.map BtcUtxo.outpoint).dedup with
      | error e =>
        rw [hgone] at h
        cases h
      | ok gone =>
        cases hstale : contradicted labelled.1 (utxos.map BtcUtxo.outpoint).dedup with
        | error e =>
          rw [hgone, hstale] at h
          cases h
        | ok stale =>
          rw [hgone, hstale] at h
          dsimp only at h
          obtain ⟨rfl, hresult⟩ := Prod.mk.inj h
          refine ⟨utxos, labelled.1, gone, stale, hlisting, ⟨labelled.2, hlabel⟩, hgone, hstale, ?_, rfl⟩
          change ∃ out, (r.refreshOutpoints (moment + 1) labelled.1
            (((gone ++ stale).insertionSort fun a b => outPointLe a b).dedup)).result = .ok out
          cases hres : (r.refreshOutpoints (moment + 1) labelled.1
            (((gone ++ stale).insertionSort fun a b => outPointLe a b).dedup)).result with
          | error e =>
            rw [hres] at hresult
            cases hresult
          | ok out => exact ⟨out, rfl⟩

section
variable {utxos : List BtcUtxo} {labelled : Store} {gone stale : List BtcOutPoint}

theorem Diffed.labels (h : Diffed r moment st address utxos labelled gone stale st') :
    labelled = { st with btcOutpoints := labelled.btcOutpoints } ∧ Store.Labelled st.btcOutpoints labelled.btcOutpoints := by
  obtain ⟨n, hlabel⟩ := h.label
  exact Store.recordOutpointAddresses_eq_ok hlabel

theorem Diffed.rows (h : Diffed r moment st address utxos labelled gone stale st') (key : OutpointKey) :
    Store.LabelledRow (st.btcOutpoints.get? key) (st'.btcOutpoints.get? key) ∨ r.Reobserved (moment + 1) st' key := by
  obtain ⟨out, hout⟩ := h.refreshed
  rw [h.store]
  rcases refreshOutpoints_rows hout key with hrow | hanswer
  · exact .inl ((h.labels.2 key).trans hrow)
  · exact .inr hanswer

theorem Diffed.reaches (h : Diffed r moment st address utxos labelled gone stale st') {o : BtcOutPoint}
    (ho : o ∈ gone ∨ o ∈ stale) : r.Reobserved (moment + 1) st' o.key ∨ st'.Queued o.key := by
  obtain ⟨out, hout⟩ := h.refreshed
  rw [h.store]
  exact refreshOutpoints_reaches hout (mem_toRefresh.mpr ho)

/-- The labels of the call are on listed outpoints; the owner of the others is who it was. -/
theorem Diffed.omitted (h : Diffed r moment st address utxos labelled gone stale st')
    (homitted : ∀ utxo ∈ utxos, utxo.outpoint.key ≠ key) : labelled.btcOutpoints.get? key = st.btcOutpoints.get? key := by
  obtain ⟨n, hlabel⟩ := h.label
  rw [Store.get?_recordOutpointAddresses hlabel, if_neg]
  rintro ⟨hmem, -⟩
  obtain ⟨o, ho, rfl⟩ := List.mem_map.mp hmem
  obtain ⟨utxo, hutxo, rfl⟩ := mem_listed.mp ho
  exact homitted utxo hutxo rfl

end

/-- **A listing marks nothing, and every disagreement is followed up.** -/
theorem reconcileAddress_sound {res : AddressReconcile} (h : r.reconcileAddress moment st address = (st', .ok res)) :
    (∀ key row, st'.btcOutpoints.get? key = some row →
      StatusKept (st.btcOutpoints.get? key) row ∨ r.Reobserved (moment + 1) st' key) ∧
    ∀ utxos, (r.btc.moment moment).addressUtxos address = .ok utxos →
      (∀ key, Store.LiveBound key st → (st.btcOutpoints.get? key).bind ObservationRow.address = some address →
        (∀ utxo ∈ utxos, utxo.outpoint.key ≠ key) → r.Reobserved (moment + 1) st' key ∨ st'.Queued key) ∧
      ∀ utxo ∈ utxos, ∀ row, st.btcOutpoints.get? utxo.outpoint.key = some row → StoredSpent row →
        r.Reobserved (moment + 1) st' utxo.outpoint.key ∨ st'.Queued utxo.outpoint.key := by
  obtain ⟨utxos, labelled, gone, stale, hdiff⟩ := reconcileAddress_eq_ok h
  obtain ⟨hst, hlabels⟩ := hdiff.labels
  refine ⟨fun key row hrow => ?_, fun utxos' hutxos => ?_⟩
  · rcases hdiff.rows key with hlabel | hanswer
    · rw [hrow] at hlabel
      exact .inl hlabel.kept
    · exact .inr hanswer
  · rw [hdiff.listing] at hutxos
    cases hutxos
    refine ⟨fun key hlive howner homitted => ?_, fun utxo hutxo row hrow hspent => ?_⟩
    · have hcells : labelled.rgbppCells = st.rgbppCells := by rw [hst]
      have hlive' := (Store.liveBound_of_eq hcells).mpr hlive
      rw [← hdiff.omitted homitted] at howner
      have hnone : ∀ o ∈ listed utxos, o.key ≠ key := by
        intro o ho
        obtain ⟨utxo, hutxo, rfl⟩ := mem_listed.mp ho
        exact homitted utxo hutxo
      obtain ⟨o, ho, rfl⟩ := mem_disappeared hdiff.believedLive hlive' howner hnone
      exact hdiff.reaches (.inl ho)
    · have hlabel := hlabels utxo.outpoint.key
      rw [hrow] at hlabel
      obtain ⟨row', hrow', hspent'⟩ := hspent.labelled hlabel
      have hlisted : utxo.outpoint ∈ listed utxos := mem_listed.mpr ⟨utxo, hutxo, rfl⟩
      exact hdiff.reaches (.inr (mem_contradicted hdiff.recordedSpent hlisted hrow' hspent'))

end
end Reconciler

/-! ## A small call -/

namespace Sample

local instance : Sha2 := .standard

/-- The cell of `Sample.chain` is indexed, and its outpoint attributed from its funding transaction. -/
def owned : Store :=
  match (scannerStep (.testnet 64) (env (chain.serve 3)) (fun _ => "") .empty).recordBindingAddresses btcTxid.toDisplayVec
      [(0, "owner")] 0 with
  | .ok labelled => labelled.1
  | .error _ => .empty

/-- An empty listing: the outpoint is asked about, and what the source says of it is stored. -/
theorem reconcileAddress_sound_omitted :
    (reconciler .unspent).Reobserved 1 ((reconciler .unspent).reconcileAddress 0 owned "owner").1 outpoint.key ∨
      ((reconciler .unspent).reconcileAddress 0 owned "owner").1.Queued outpoint.key := by
  have hok : ((reconciler .unspent).reconcileAddress 0 owned "owner").2 =
      .ok { address := "owner", sourceUtxoCount := 0, disappeared := [outpoint], contradicted := [],
            refreshed := [⟨outpoint, .unspent, true⟩] } := by decide +kernel
  have hlive : Store.LiveBound outpoint.key owned := by
    rw [← Store.mem_liveBoundOutpoints]
    decide +kernel
  exact ((Reconciler.reconcileAddress_sound (Prod.ext rfl hok)).2 [] rfl).1 outpoint.key hlive (by decide +kernel) nofun

end Sample
end RgbppIndexer
