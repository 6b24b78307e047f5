import RgbppIndexer.Indexer.Reconcile

/-!
# What a refresh does to the observations and the queue

The writes of `refresh_outpoints` are answers, labels and queue entries.
`LabelsOnly` is the frame: everything between two answers leaves the status
of every observation alone.

* `refreshBtcTx_keeps`, `followUpSpend_keeps`: the rule for the writes of a fetch.
* `refreshStep_written`: what one answer writes; `refreshStep_cases`: where the loop stops.
* `processed_afterPasses`: what a prefix of the answers did.
-/
namespace RgbppIndexer

open RgbppIndexer.Core

/-- Cells and queue are untouched, and observations are up to labels. -/
structure LabelsOnly (st st' : Store) : Prop where
  outpoints : Store.Labelled st.btcOutpoints st'.btcOutpoints
  queue : st'.btcRefreshQueue = st.btcRefreshQueue
  cells : st'.rgbppCells = st.rgbppCells

theorem LabelsOnly.refl (st : Store) : LabelsOnly st st := ⟨Store.Labelled.refl _, rfl, rfl⟩

theorem LabelsOnly.trans {a b c : Store} (hab : LabelsOnly a b) (hbc : LabelsOnly b c) : LabelsOnly a c :=
  ⟨hab.outpoints.trans hbc.outpoints, hbc.queue.trans hab.queue, hbc.cells.trans hab.cells⟩

theorem recordAddresses_eq_ok {st : Store} {txid : BtcTxid} {tx : BtcTxInfo} {now : DateTime} {labelled : Store × Nat}
    (h : recordAddresses st txid tx now = .ok labelled) : LabelsOnly st labelled.1 := by
  rcases recordAddresses_inv h with hsame | hwritten
  · rw [hsame]
    exact LabelsOnly.refl st
  · obtain ⟨hst, hlabels⟩ := Store.recordBindingAddresses_eq_ok hwritten
    exact ⟨hlabels, by rw [hst], by rw [hst]⟩

namespace Reconciler

variable (r : Reconciler)

/-- A row as an answer of this call leaves it. -/
structure Shows (said : OutpointSpendStatus) (row : ObservationRow) : Prop where
  status : row.status = said.column
  spenderTxid : row.spenderTxid = said.spender.map BtcTxid.toDisplayVec
  spentHeight : row.spentHeight = said.height.map UInt32.toInt32
  source : row.source = r.btc.name
  observedAt : row.observedAt = r.now
  invalidatedAt : row.invalidatedAt = none

variable {r} {moment : Nat} {st : Store} {pass : RefreshPass} {answer : Observed} {status : OutpointSpendStatus}

theorem Shows.labelled {row : ObservationRow} {new : Option ObservationRow} (h : r.Shows status row)
    (hl : Store.LabelledRow (some row) new) : ∃ row', new = some row' ∧ r.Shows status row' := by
  obtain ⟨address, rfl⟩ := hl
  exact ⟨_, rfl, h.status, h.spenderTxid, h.spentHeight, h.source, h.observedAt, h.invalidatedAt⟩

theorem shows_observationRow (old : Option ObservationRow) (status : OutpointSpendStatus) (address : Option String) :
    r.Shows status (Store.observationRow old status address r.btc.name r.now) := ⟨rfl, rfl, rfl, rfl, rfl, rfl⟩

/-! ## The follow-up of a spend -/

/-- What the labels and the cached row of a fetched transaction keep, the fetch keeps. -/
theorem refreshBtcTx_keeps {P : Store → Prop} {txid : BtcTxid} (h : P st)
    (hlabels : ∀ tx labelled, (r.btc.moment moment).transaction txid = .ok (some tx) →
      recordAddresses st txid tx r.now = .ok labelled → P labelled.1)
    (hcached : ∀ s row, P s → P (s.upsertBtcTx txid.toDisplayVec row)) : P (r.refreshBtcTx moment st txid).1 := by
  unfold refreshBtcTx
  cases htx : (r.btc.moment moment).transaction txid with
  | error e => exact h
  | ok found =>
    cases found with
    | none => exact h
    | some tx =>
      dsimp only
      cases hrecord : recordAddresses st txid tx r.now with
      | error e => exact hcached _ _ h
      | ok labelled => exact hcached _ _ (hlabels tx labelled htx hrecord)

variable (r moment st) in
theorem refreshBtcTx_result (txid : BtcTxid) : (r.refreshBtcTx moment st txid).2 =
    match (r.btc.moment moment).transaction txid with
    | .error e => .error (.btc e)
    | .ok reply => .ok reply := by
  unfold refreshBtcTx
  split <;> next heq => rw [heq]

/-- A follow-up is the fetch of the spender, if there is one. -/
theorem followUpSpend_of_spender {spender : BtcTxid} (h : status.spender = some spender) :
    r.followUpSpend moment st status =
      ((r.refreshBtcTx moment st spender).1, (r.refreshBtcTx moment st spender).2.map fun _ => ()) := by
  unfold followUpSpend
  rw [h]
  dsimp only
  split <;> next heq => rw [heq]; rfl

theorem followUpSpend_keeps {P : Store → Prop} (h : P st)
    (hfetched : ∀ spender, status.spender = some spender → P (r.refreshBtcTx moment st spender).1) :
    P (r.followUpSpend moment st status).1 := by
  cases hspender : status.spender with
  | none =>
    unfold followUpSpend
    rw [hspender]
    exact h
  | some spender =>
    rw [followUpSpend_of_spender hspender]
    exact hfetched spender hspender

variable (r moment st) in
theorem refreshBtcTx_labels (txid : BtcTxid) : LabelsOnly st (r.refreshBtcTx moment st txid).1 :=
  refreshBtcTx_keeps (.refl st) (fun _ _ _ hrecord => recordAddresses_eq_ok hrecord)
    fun _ _ h => ⟨h.outpoints, h.queue, h.cells⟩

theorem followUpSpend_labels : LabelsOnly st (r.followUpSpend moment st status).1 :=
  followUpSpend_keeps (.refl st) fun spender _ => refreshBtcTx_labels r moment st spender

/-- A follow-up fails exactly when the spending transaction cannot be fetched. -/
theorem followUpSpend_error {e : IndexerError} :
    (r.followUpSpend moment st status).2 = .error e ↔
      ∃ spender b, status.spender = some spender ∧ (r.btc.moment moment).transaction spender = .error b ∧ e = .btc b := by
  cases hspender : status.spender with
  | none => simp [followUpSpend, hspender]
  | some spender =>
    rw [followUpSpend_of_spender hspender, refreshBtcTx_result]
    cases htx : (r.btc.moment moment).transaction spender with
    | error b => simp [Except.map, htx, eq_comm]
    | ok reply => simp [Except.map, htx]

/-! ## One answer -/

variable (r) in
/-- The follow-up question of an answer fails: the answer is a spend that is news to the database, and the
transaction that spends the outpoint cannot be fetched. -/
def FollowUpFails (moment : Nat) (st : Store) (answer : Observed) : Prop :=
  ∃ status spender e, answer.2 = .ok status ∧ status.spender = some spender ∧
    (st.btcOutpoints.get? answer.1.key).map ObservationRow.status ≠ some status.column ∧
    (r.btc.moment moment).transaction spender = .error e

theorem refreshStep_of_error {e : BtcError} (h : answer.2 = .error e) :
    r.refreshStep moment pass answer =
      ({ pass with store := pass.store.enqueueRefresh answer.1.key "refresh-failed" ON_DEMAND r.now }, .ok ()) := by
  unfold refreshStep
  rw [h]

variable (r moment pass answer) in
/-- What a successful answer does: the observation is written, and then a spend that is news is followed up, or the
anomalies are resolved. -/
theorem refreshStep_written (h : answer.2 = .ok status) :
    (r.refreshStep moment pass answer).1.store =
        (if status.isSpent then
          if (r.recordObservation pass.store answer.1 status none).2 then
            (r.followUpSpend moment (r.recordObservation pass.store answer.1 status none).1 status).1
          else (r.recordObservation pass.store answer.1 status none).1
        else (r.recordObservation pass.store answer.1 status none).1.resolveAnomaliesForOutpoint answer.1.key r.now) ∧
      (r.refreshStep moment pass answer).1.observed = pass.observed ++ [answer.1] ∧
      (r.refreshStep moment pass answer).2 =
        if (r.recordObservation pass.store answer.1 status none).2 ∧ status.isSpent then
          (r.followUpSpend moment (r.recordObservation pass.store answer.1 status none).1 status).2
        else .ok () := by
  unfold refreshStep
  rw [h]
  dsimp only
  generalize r.recordObservation pass.store answer.1 status none = written
  obtain ⟨st, changed⟩ := written
  dsimp only
  cases hspent : status.isSpent with
  | false => simp
  | true =>
    cases changed with
    | false => simp
    | true =>
      simp only [and_self, if_true]
      split <;> next heq => exact ⟨rfl, rfl, heq.symm⟩

variable (r moment pass answer) in
/-- A successful answer: the observation is written, and all that follows only labels. -/
theorem refreshStep_of_ok (h : answer.2 = .ok status) :
    LabelsOnly (r.recordObservation pass.store answer.1 status none).1 (r.refreshStep moment pass answer).1.store ∧
      (r.refreshStep moment pass answer).1.observed = pass.observed ++ [answer.1] := by
  obtain ⟨hstore, hobserved, -⟩ := refreshStep_written r moment pass answer h
  refine ⟨?_, hobserved⟩
  rw [hstore]
  split
  · split
    · exact followUpSpend_labels
    · exact .refl _
  · exact ⟨Store.Labelled.refl _, rfl, rfl⟩

theorem spender_isSome (s : OutpointSpendStatus) : (∃ t, s.spender = some t) ↔ s.isSpent = true := by
  cases s <;> simp [OutpointSpendStatus.spender, OutpointSpendStatus.isSpent]

/-- An answer stops the loop exactly when its follow-up fails, and then with the data source's error. -/
theorem refreshStep_cases (r : Reconciler) (moment : Nat) (pass : RefreshPass) (answer : Observed) :
    ((r.refreshStep moment pass answer).2 = .ok () ∧ ¬ r.FollowUpFails moment pass.store answer) ∨
      ((∃ e, (r.refreshStep moment pass answer).2 = .error (.btc e)) ∧ r.FollowUpFails moment pass.store answer) := by
  cases hans : answer.2 with
  | error e =>
    left
    refine ⟨by rw [refreshStep_of_error hans], ?_⟩
    rintro ⟨status, _, _, hok, -⟩
    rw [hans] at hok
    cases hok
  | ok status =>
    have hchanged : (r.recordObservation pass.store answer.1 status none).2 = true ↔
        (pass.store.btcOutpoints.get? answer.1.key).map ObservationRow.status ≠ some status.column := by
      simp [recordObservation, Store.upsertObservation]
    have hresult := (refreshStep_written r moment pass answer hans).2.2
    by_cases hnews : (r.recordObservation pass.store answer.1 status none).2 = true ∧ status.isSpent = true
    · rw [if_pos hnews] at hresult
      cases hfollow : (r.followUpSpend moment (r.recordObservation pass.store answer.1 status none).1 status).2 with
      | ok u =>
        left
        refine ⟨by rw [hresult, hfollow], ?_⟩
        rintro ⟨status', spender, e, hok, hsp, -, htx⟩
        rw [hans] at hok
        cases hok
        have herr : (r.followUpSpend moment (r.recordObservation pass.store answer.1 status none).1 status).2 = _ :=
          followUpSpend_error.mpr ⟨spender, e, hsp, htx, rfl⟩
        rw [herr] at hfollow
        cases hfollow
      | error x =>
        right
        obtain ⟨spender, b, hsp, htx, rfl⟩ := followUpSpend_error.mp hfollow
        exact ⟨⟨b, by rw [hresult, hfollow]⟩, status, spender, b, hans, hsp, hchanged.mp hnews.1, htx⟩
    · left
      rw [if_neg hnews] at hresult
      refine ⟨hresult, ?_⟩
      rintro ⟨status', spender, e, hok, hsp, hne, -⟩
      rw [hans] at hok
      cases hok
      exact hnews ⟨hchanged.mpr hne, (spender_isSome status).mp ⟨spender, hsp⟩⟩

/-- An answer leaves the rows of other outpoints alone, up to labels. -/
theorem refreshStep_untouched {o : BtcOutPoint} (hne : o ≠ answer.1) :
    Store.LabelledRow (pass.store.btcOutpoints.get? o.key)
      ((r.refreshStep moment pass answer).1.store.btcOutpoints.get? o.key) := by
  cases hans : answer.2 with
  | error e =>
    rw [refreshStep_of_error hans]
    exact Store.LabelledRow.refl _
  | ok status =>
    have hlab := (refreshStep_of_ok r moment pass answer hans).1.outpoints o.key
    have hkey : o.key ≠ answer.1.key := fun hk => hne (BtcOutPoint.key_injective hk)
    rw [recordObservation, Store.get?_upsertObservation, if_neg hkey] at hlab
    exact hlab

/-! ## A prefix of the answers -/

variable (r) in
/-- Where the loop stands after the answers `done`, having started from `st`. -/
structure Processed (st : Store) (done : List Observed) (pass : RefreshPass) : Prop where
  observed : ∀ o, o ∈ pass.observed ↔ ∃ status, (o, .ok status) ∈ done
  queued : ∀ k, pass.store.Queued k ↔ st.Queued k ∨ ∃ o e, (o, .error e) ∈ done ∧ k = o.key
  recorded : ∀ o status, (o, .ok status) ∈ done →
    ∃ row, pass.store.btcOutpoints.get? o.key = some row ∧ r.Shows status row
  untouched : ∀ o, o ∉ done.map Prod.fst →
    Store.LabelledRow (st.btcOutpoints.get? o.key) (pass.store.btcOutpoints.get? o.key)

theorem Processed.start (st : Store) (out : List OutpointRefresh) :
    r.Processed st [] { store := st, out, observed := [] } where
  observed := by simp
  queued := by simp
  recorded := by simp
  untouched := fun _ _ => Store.LabelledRow.refl _

theorem Processed.step {done : List Observed} (h : r.Processed st done pass) (hnew : answer.1 ∉ done.map Prod.fst) :
    r.Processed st (done ++ [answer]) (r.refreshStep moment pass answer).1 := by
  obtain ⟨o, said⟩ := answer
  have hother : ∀ {p : BtcOutPoint} {x : Except BtcError OutpointSpendStatus}, (p, x) ∈ done → p.key ≠ o.key := by
    intro p x hp heq
    have hpo : p = o := BtcOutPoint.key_injective heq
    rw [hpo] at hp
    exact hnew (List.mem_map.mpr ⟨_, hp, rfl⟩)
  cases said with
  | error e =>
    rw [refreshStep_of_error rfl]
    constructor
    · intro p
      rw [h.observed p]
      simp
    · intro k
      dsimp only
      rw [Store.queued_enqueueRefresh, h.queued k]
      constructor
      · rintro (hk | hk | ⟨p, x, hp, hk⟩)
        · exact .inr ⟨o, e, by simp, hk⟩
        · exact .inl hk
        · exact .inr ⟨p, x, by simp [hp], hk⟩
      · rintro (hk | ⟨p, x, hp, hk⟩)
        · exact .inr (.inl hk)
        · rcases List.mem_append.mp hp with hp | hp
          · exact .inr (.inr ⟨p, x, hp, hk⟩)
          · simp only [List.mem_singleton, Prod.mk.injEq] at hp
            rw [hp.1] at hk
            exact .inl hk
    · intro p status hp
      have hp' : (p, Except.ok status) ∈ done := by simpa using hp
      exact h.recorded p status hp'
    · intro p hp
      exact h.untouched p fun hmem => hp (by simp only [List.map_append, List.mem_append]; exact .inl hmem)
  | ok status =>
    obtain ⟨hlabels, hobserved⟩ := refreshStep_of_ok r moment pass (o, .ok status) rfl
    have hwritten : ∀ k, (r.recordObservation pass.store o status none).1.btcOutpoints.get? k =
        if k = o.key then
          some (Store.observationRow (pass.store.btcOutpoints.get? o.key) status none r.btc.name r.now)
        else pass.store.btcOutpoints.get? k := fun k => Store.get?_upsertObservation ..
    constructor
    · intro p
      rw [hobserved, List.mem_append, h.observed p]
      simp only [List.mem_append, List.mem_singleton, Prod.mk.injEq, exists_or]
      constructor
      · rintro (hp | rfl)
        · exact .inl hp
        · exact .inr ⟨status, rfl, rfl⟩
      · rintro (hp | ⟨_, rfl, -⟩)
        · exact .inl hp
        · exact .inr rfl
    · intro k
      have hqueue : (r.refreshStep moment pass (o, .ok status)).1.store.Queued k ↔ pass.store.Queued k := by
        unfold Store.Queued
        rw [hlabels.queue]
        rfl
      rw [hqueue, h.queued k]
      simp
    · intro p status' hp
      rcases List.mem_append.mp hp with hp | hp
      · -- recorded earlier: this answer is about another outpoint
        obtain ⟨row, hrow, hshows⟩ := h.recorded p status' hp
        have hlab := hlabels.outpoints p.key
        rw [hwritten, if_neg (hother hp), hrow] at hlab
        exact hshows.labelled hlab
      · simp only [List.mem_singleton, Prod.mk.injEq, Except.ok.injEq] at hp
        obtain ⟨rfl, rfl⟩ := hp
        have hlab := hlabels.outpoints p.key
        rw [hwritten, if_pos rfl] at hlab
        exact (shows_observationRow _ _ _).labelled hlab
    · intro p hp
      simp only [List.map_append, List.mem_append, List.map_cons, List.map_nil, List.mem_singleton, not_or] at hp
      exact (h.untouched p hp.1).trans (refreshStep_untouched hp.2)

/-- What the answers of a prefix leave behind, whether or not their follow-ups failed. -/
theorem processed_afterPasses {answers : List Observed} (hnodup : (answers.map Prod.fst).Nodup) (moment : Nat)
    (st : Store) (out : List OutpointRefresh) :
    r.Processed st answers (afterPasses r.refreshStep moment { store := st, out, observed := [] } answers) := by
  have hkeeps := afterPasses_keeps (f := r.refreshStep) (n := moment) (s := { store := st, out, observed := [] })
    (P := fun done pass => (done.map Prod.fst).Nodup → r.Processed st done pass)
    (fun done answer pass ih hn => by
      rw [List.map_append, List.nodup_append] at hn
      refine (ih hn.1).step fun hmem => ?_
      exact hn.2.2 _ hmem _ (by simp) rfl)
    (fun _ => Processed.start st out) answers
  exact hkeeps hnodup

/-- Whether a follow-up fails is decided by the database the call found. -/
theorem Processed.followUpFails_iff {done : List Observed} (h : r.Processed st done pass)
    (hnew : answer.1 ∉ done.map Prod.fst) : r.FollowUpFails moment pass.store answer ↔ r.FollowUpFails moment st answer := by
  have hsame : ∀ status : OutpointSpendStatus, status.isSpent = true →
      ((pass.store.btcOutpoints.get? answer.1.key).map ObservationRow.status ≠ some status.column ↔
        (st.btcOutpoints.get? answer.1.key).map ObservationRow.status ≠ some status.column) := by
    intro status hspent
    have hlab := h.untouched answer.1 hnew
    cases hold : st.btcOutpoints.get? answer.1.key with
    | some row =>
      rw [hold] at hlab
      obtain ⟨address, hrow⟩ := hlab
      rw [hrow]; rfl
    | none =>
      rw [hold] at hlab
      have hcolumn : status.column ≠ .unknown := by
        intro hc
        have := OutpointSpendStatus.isSpent_column status
        rw [hc, hspent] at this
        cases this
      cases hrow : pass.store.btcOutpoints.get? answer.1.key with
      | none => exact Iff.rfl
      | some row =>
        have hunknown := hlab row hrow
        simp [hunknown, hcolumn.symm]
  constructor
  · rintro ⟨status, spender, e, hok, hsp, hne, htx⟩
    exact ⟨status, spender, e, hok, hsp, (hsame status ((spender_isSome status).mp ⟨_, hsp⟩)).mp hne, htx⟩
  · rintro ⟨status, spender, e, hok, hsp, hne, htx⟩
    exact ⟨status, spender, e, hok, hsp, (hsame status ((spender_isSome status).mp ⟨_, hsp⟩)).mpr hne, htx⟩

/-! ## The whole call -/

variable {outpoints : List BtcOutPoint}

theorem mem_capped_or_overflow {o : BtcOutPoint} (h : o ∈ outpoints) : o ∈ r.capped outpoints ∨ o ∈ r.overflow outpoints := by
  unfold capped overflow
  rw [← List.mem_append, List.take_append_drop]
  exact h

theorem mem_of_mem_answers {a : Observed} (h : a ∈ r.answers moment outpoints) : a.1 ∈ outpoints := by
  have hmem : a.1 ∈ (r.answers moment outpoints).map Prod.fst := List.mem_map.mpr ⟨a, h, rfl⟩
  exact List.mem_of_mem_take (mem_observeMany.mp hmem)

variable (moment) in
theorem exists_answer {o : BtcOutPoint} (h : o ∈ r.capped outpoints) : ∃ res, (o, res) ∈ r.answers moment outpoints := by
  have hmem : o ∈ (r.answers moment outpoints).map Prod.fst := mem_observeMany.mpr h
  obtain ⟨a, ha, rfl⟩ := List.mem_map.mp hmem
  exact ⟨a.2, ha⟩

variable (r moment outpoints) in
theorem answers_nodup : ((r.answers moment outpoints).map Prod.fst).Nodup := observeMany_nodup ..

/-- A call that does not fail in the database runs its loop, from a database in which the overflow is queued. -/
theorem refreshOutpoints_started
    (h : ∀ e, (r.refreshOutpoints moment st outpoints).result ≠ .error (.store e)) :
    ∃ queued : Store,
      (∀ k, queued.Queued k ↔ k ∈ (r.overflow outpoints).map BtcOutPoint.key ∨ st.Queued k) ∧
      queued.btcOutpoints = st.btcOutpoints ∧
      (r.refreshOutpoints moment st outpoints).store = (r.refreshLoop moment queued outpoints).1.store ∧
      (r.refreshOutpoints moment st outpoints).observed = (r.refreshLoop moment queued outpoints).1.observed := by
  unfold refreshOutpoints at h ⊢
  by_cases hnil : outpoints.isEmpty
  · rw [if_pos hnil]
    rw [List.isEmpty_iff] at hnil
    refine ⟨st, fun k => by simp [hnil, overflow], rfl, ?_⟩
    have hans : r.answers moment outpoints = [] := by
      cases hr : r.answers moment outpoints with
      | nil => rfl
      | cons a as =>
        have hmem : a ∈ r.answers moment outpoints := by simp [hr]
        have hreq := mem_of_mem_answers hmem
        rw [hnil] at hreq
        cases hreq
    simp [refreshLoop, hans, forEach]
  · rw [if_neg hnil] at h ⊢
    cases henq : st.enqueueRefreshMany ((r.overflow outpoints).map BtcOutPoint.key) "request-overflow" ON_DEMAND r.now with
    | error e =>
      rw [henq] at h
      exact absurd rfl (h e)
    | ok queued =>
      obtain ⟨hst, hqueued⟩ := Store.enqueueRefreshMany_eq_ok henq
      exact ⟨queued.1, hqueued, by rw [hst], rfl, rfl⟩

variable (moment) in
/-- The loop of a call that gets to it. -/
theorem refreshOutpoints_of_queued {queued : Store × Nat} (hne : outpoints ≠ [])
    (henq : st.enqueueRefreshMany ((r.overflow outpoints).map BtcOutPoint.key) "request-overflow" ON_DEMAND r.now = .ok queued) :
    (r.refreshOutpoints moment st outpoints).store = (r.refreshLoop moment queued.1 outpoints).1.store ∧
      (r.refreshOutpoints moment st outpoints).observed = (r.refreshLoop moment queued.1 outpoints).1.observed ∧
      ((∃ out, (r.refreshOutpoints moment st outpoints).result = .ok out) ↔
        (r.refreshLoop moment queued.1 outpoints).2 = .ok ()) := by
  unfold refreshOutpoints
  rw [if_neg (by simpa using hne), henq]
  dsimp only
  refine ⟨rfl, rfl, ?_⟩
  cases (r.refreshLoop moment queued.1 outpoints).2 with
  | error e => exact iff_of_false (fun ⟨_, h⟩ => by cases h) (fun h => by cases h)
  | ok u => exact iff_of_true ⟨_, rfl⟩ rfl

/-- A call that succeeds has queued its overflow. -/
theorem exists_queued_of_ok {out : List OutpointRefresh} (h : (r.refreshOutpoints moment st outpoints).result = .ok out)
    (hne : outpoints ≠ []) : ∃ queued, st.enqueueRefreshMany ((r.overflow outpoints).map BtcOutPoint.key) "request-overflow"
      ON_DEMAND r.now = .ok queued := by
  cases henq : st.enqueueRefreshMany ((r.overflow outpoints).map BtcOutPoint.key) "request-overflow" ON_DEMAND r.now with
  | error e =>
    unfold refreshOutpoints at h
    rw [if_neg (by simpa using hne), henq] at h
    cases h
  | ok queued => exact ⟨queued, rfl⟩

variable (r moment st outpoints) in
/-- All a call can do to the database: nothing, or queue its overflow and then write some of its answers, in order. -/
theorem refreshOutpoints_store_cases : (r.refreshOutpoints moment st outpoints).store = st ∨
    ∃ queued done, st.enqueueRefreshMany ((r.overflow outpoints).map BtcOutPoint.key) "request-overflow" ON_DEMAND r.now =
        .ok queued ∧ done <+: r.answers moment outpoints ∧ (r.refreshOutpoints moment st outpoints).store =
          (afterPasses r.refreshStep (moment + 1) { store := queued.1, out := [], observed := [] } done).store := by
  by_cases hne : outpoints = []
  · subst hne
    exact .inl rfl
  · cases henq : st.enqueueRefreshMany ((r.overflow outpoints).map BtcOutPoint.key) "request-overflow" ON_DEMAND r.now with
    | error e =>
      left
      unfold refreshOutpoints
      rw [if_neg (by simpa using hne), henq]
    | ok queued =>
      obtain ⟨done, hpre, hloop⟩ := forEach_fst r.refreshStep (moment + 1)
        { store := queued.1, out := [], observed := [] } (r.answers moment outpoints)
      refine .inr ⟨queued, done, rfl, hpre, ?_⟩
      rw [(refreshOutpoints_of_queued moment hne henq).1, refreshLoop, hloop]

/-- A call that succeeds has written the answers there were, and no others. -/
theorem mem_observed {out : List OutpointRefresh} (h : (r.refreshOutpoints moment st outpoints).result = .ok out)
    (hne : outpoints ≠ []) {o : BtcOutPoint} : o ∈ (r.refreshOutpoints moment st outpoints).observed ↔
      ∃ status, (o, .ok status) ∈ r.answers moment outpoints := by
  obtain ⟨queued, henq⟩ := exists_queued_of_ok h hne
  obtain ⟨-, hobserved, hresult⟩ := refreshOutpoints_of_queued moment hne henq
  rw [hobserved, refreshLoop, (forEach_eq_ok (hresult.mp ⟨out, h⟩)).1]
  exact (processed_afterPasses (answers_nodup r moment outpoints) (moment + 1) queued.1 []).observed o

/-- And the rows show them. -/
theorem shown_of_answer {out : List OutpointRefresh} (h : (r.refreshOutpoints moment st outpoints).result = .ok out)
    {o : BtcOutPoint} (ha : (o, .ok status) ∈ r.answers moment outpoints) :
    ∃ row, (r.refreshOutpoints moment st outpoints).store.btcOutpoints.get? o.key = some row ∧ r.Shows status row := by
  have hne : outpoints ≠ [] := List.ne_nil_of_mem (mem_of_mem_answers ha)
  obtain ⟨queued, henq⟩ := exists_queued_of_ok h hne
  obtain ⟨hstore, -, hresult⟩ := refreshOutpoints_of_queued moment hne henq
  rw [hstore, refreshLoop, (forEach_eq_ok (hresult.mp ⟨out, h⟩)).1]
  exact (processed_afterPasses (answers_nodup r moment outpoints) (moment + 1) queued.1 []).recorded o status ha

variable (r st outpoints) in
/-- The overflow of a call is queued if it has no outpoint twice. -/
theorem overflow_queued_iff : (∃ queued, st.enqueueRefreshMany ((r.overflow outpoints).map BtcOutPoint.key)
    "request-overflow" ON_DEMAND r.now = .ok queued) ↔ (r.overflow outpoints).Nodup := by
  rw [Store.enqueueRefreshMany_ok_iff, List.nodup_map_iff BtcOutPoint.key_injective]

variable (r moment st outpoints) in
/-- A call fails in the database exactly if it would queue an outpoint twice. -/
theorem refreshOutpoints_store_error_iff :
    (∃ e, (r.refreshOutpoints moment st outpoints).result = .error (.store e)) ↔ ¬ (r.overflow outpoints).Nodup := by
  by_cases hnil : outpoints = []
  · subst hnil
    refine iff_of_false (fun ⟨e, h⟩ => by cases h) (not_not.mpr ?_)
    rw [overflow, List.drop_nil]
    exact List.nodup_nil
  · rw [← overflow_queued_iff r st outpoints]
    unfold refreshOutpoints
    rw [if_neg (by simpa using hnil)]
    cases st.enqueueRefreshMany ((r.overflow outpoints).map BtcOutPoint.key) "request-overflow" ON_DEMAND r.now with
    | error e => exact iff_of_true ⟨e, rfl⟩ fun ⟨queued, h⟩ => by cases h
    | ok queued =>
      refine iff_of_false ?_ (not_not.mpr ⟨queued, rfl⟩)
      rintro ⟨e, h⟩
      dsimp only at h
      -- the loop fails with the data source only
      rcases forEach_cases r.refreshStep (moment + 1) { store := queued.1, out := [], observed := [] }
        (r.answers moment outpoints) with ⟨hrun, -⟩ | ⟨pre, a, post, x, -, herr, hrun, -⟩
      · rw [refreshLoop, hrun] at h
        cases h
      · rw [refreshLoop, hrun] at h
        rcases refreshStep_cases r (moment + 1 + pre.length) (afterPasses r.refreshStep (moment + 1)
          { store := queued.1, out := [], observed := [] } pre) a with ⟨hok, -⟩ | ⟨⟨b, hb⟩, -⟩
        · rw [hok] at herr
          cases herr
        · rw [hb] at herr
          obtain rfl := Except.error.inj herr
          cases h

variable (moment st) in
/-- Against a backend that answers everything, a call that can queue its overflow succeeds. -/
theorem refreshOutpoints_ok_of_overflow (hanswers : ∀ m, (r.btc.moment m).AnswersAll) (hnodup : (r.overflow outpoints).Nodup) :
    ∃ out, (r.refreshOutpoints moment st outpoints).result = .ok out := by
  by_cases hnil : outpoints = []
  · subst hnil
    exact ⟨[], rfl⟩
  · obtain ⟨queued, henq⟩ := (overflow_queued_iff r st outpoints).mpr hnodup
    rw [(refreshOutpoints_of_queued moment hnil henq).2.2, refreshLoop]
    refine forEach_ok_of fun pre a post _ => ?_
    unfold PassOk
    rcases refreshStep_cases r (moment + 1 + pre.length)
      (afterPasses r.refreshStep (moment + 1) { store := queued.1, out := [], observed := [] } pre) a with
      ⟨hok, -⟩ | ⟨-, status, spender, e, -, -, -, herr⟩
    · exact hok
    · obtain ⟨reply, hreply⟩ := (hanswers (moment + 1 + pre.length)).transaction spender
      rw [hreply] at herr
      cases herr

variable (moment st) in
/-- In particular a call about distinct outpoints. -/
theorem refreshOutpoints_ok (hanswers : ∀ m, (r.btc.moment m).AnswersAll) (hnodup : outpoints.Nodup) :
    ∃ out, (r.refreshOutpoints moment st outpoints).result = .ok out :=
  refreshOutpoints_ok_of_overflow moment st hanswers (hnodup.sublist (List.drop_sublist _ _))

/-- And what it wrote is what it asked. -/
theorem mem_observed_iff_capped (hanswers : ∀ m, (r.btc.moment m).AnswersAll) {out : List OutpointRefresh}
    (h : (r.refreshOutpoints moment st outpoints).result = .ok out) (hne : outpoints ≠ []) {o : BtcOutPoint} :
    o ∈ (r.refreshOutpoints moment st outpoints).observed ↔ o ∈ r.capped outpoints := by
  have hasked : o ∈ (r.answers moment outpoints).map Prod.fst ↔ o ∈ r.capped outpoints := mem_observeMany
  rw [mem_observed h hne, ← hasked]
  constructor
  · rintro ⟨status, hmem⟩
    exact List.mem_map.mpr ⟨_, hmem, rfl⟩
  · intro hmem
    obtain ⟨⟨o, said⟩, ha, rfl⟩ := List.mem_map.mp hmem
    obtain ⟨status, hstatus⟩ := (hanswers moment).observeMany ha
    dsimp only at hstatus
    subst hstatus
    exact ⟨status, ha⟩

end Reconciler
end RgbppIndexer
