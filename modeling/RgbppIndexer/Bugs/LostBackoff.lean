import RgbppIndexer.Queue.Entry

/-!
# The failure path undoes the backoff

A claim moves the due time of an entry `min(300, 2^k)` seconds ahead
(crates/store/src/queue.rs:77-102). When the data source does not answer,
`refresh_outpoints` queues the outpoint again (crates/indexer/src/reconcile.rs:163-174)
through the upsert that takes the smaller due time and the smaller priority
(queue.rs:38-39): the entry is due at once, with the priority of a request an
application waits for. `fail_refresh` then only notes the error.

* `backoff_survives_iff`: **the backoff and the priority survive a failed
  lookup exactly when the failure comes after the backoff, and the entry was
  no background work.**
-/
namespace RgbppIndexer.Bugs.LostBackoff

open RgbppIndexer.Core Queue

/-- A caller other than the worker queues the outpoint. -/
def Enqueues (o : BtcOutPoint) : Action → Prop
  | .enqueue _ o' _ _ _ => o' = o
  | _ => False

/-- One of the two statements a drain begins with. -/
def OpensDrain : Action → Prop
  | .drop _ => True
  | .claim .. => True
  | _ => False

/-- No failed lookup of the outpoint was written back. -/
def NeverRequeued (o : BtcOutPoint) (done : List Action) : Prop := ∀ u, .requeue o u ∉ done

/-- Where a claimed entry stands after the rest `done` of its drain. -/
inductive Standing (o : BtcOutPoint) (due : DateTime) (priority : Int32) (done : List Action) (p : Phase)
    (row : Option QueueRow) : Prop
  /-- still to be asked about -/
  | waiting (r : QueueRow) (hrow : row = some r) (hdue : r.nextAttemptAt = due) (hpriority : r.priority = priority)
      (hphase : p = .claimed ∨ p = .waiting) (hnone : NeverRequeued o done) (hanswered : ∀ a ∈ done, ¬ a.FailsOn o)
  /-- not answered, and as the claim left it -/
  | failed (r : QueueRow) (hrow : row = some r) (hdue : r.nextAttemptAt = due) (hpriority : r.priority = priority)
      (hphase : p = .unanswered ∨ p = .out) (hnone : NeverRequeued o done)
  /-- the drain will not find the data source failing on it -/
  | passed (hphase : p ≠ .claimed ∧ p ≠ .waiting ∧ p ≠ .unanswered) (hnone : NeverRequeued o done)
      (hanswered : ∀ a ∈ done, ¬ a.FailsOn o)
  /-- queued again after a failed lookup -/
  | requeued (u : DateTime) (r : QueueRow) (hrow : row = some r) (hdue : r.nextAttemptAt = min due u)
      (hpriority : r.priority = if ON_DEMAND < priority then ON_DEMAND else priority)
      (hphase : p = .missed ∨ p = .out) (honce : ∀ v, .requeue o v ∈ done ↔ v = u)

/-- The outpoint may be claimed at `now`. -/
def Claimable (key : OutpointKey) (now : DateTime) (s : State) : Prop := ∃ r, (key, r) ∈ s.store.dueRefreshes now

section
variable {q : DrainConfig} {cap : Nat} {o : BtcOutPoint} {due : DateTime} {priority : Int32} {done : List Action}
  {p p' : Phase} {row : Option QueueRow} {a : Action} {s s' : State}

theorem NeverRequeued.snoc (h : NeverRequeued o done) (ha : ∀ u, a ≠ .requeue o u) : NeverRequeued o (done ++ [a]) := by
  intro u hm
  rcases List.mem_append.mp hm with hm | hm
  · exact h u hm
  · exact ha u (List.mem_singleton.mp hm).symm

theorem requeued_snoc (ha : ∀ u, a ≠ .requeue o u) (v : DateTime) :
    .requeue o v ∈ done ++ [a] ↔ .requeue o v ∈ done := by
  rw [List.mem_append, List.mem_singleton]
  exact or_iff_left fun h => ha v h.symm

theorem answered_snoc (h : ∀ a ∈ done, ¬ a.FailsOn o) (ha : ¬ a.FailsOn o) : ∀ b ∈ done ++ [a], ¬ b.FailsOn o := by
  intro b hb
  rcases List.mem_append.mp hb with hb | hb
  · exact h b hb
  · rw [List.mem_singleton.mp hb]
    exact ha

/-- What leaves the phase and the row alone leaves the standing alone. -/
theorem Standing.same (h : Standing o due priority done p row) (ha : ∀ u, a ≠ .requeue o u) (hanswer : ¬ a.FailsOn o) :
    Standing o due priority (done ++ [a]) p row := by
  cases h with
  | waiting r hrow hdue hpriority hphase hnone hanswered =>
    exact .waiting r hrow hdue hpriority hphase (hnone.snoc ha) (answered_snoc hanswered hanswer)
  | failed r hrow hdue hpriority hphase hnone => exact .failed r hrow hdue hpriority hphase (hnone.snoc ha)
  | passed hphase hnone hanswered => exact .passed hphase (hnone.snoc ha) (answered_snoc hanswered hanswer)
  | requeued u r hrow hdue hpriority hphase honce =>
    exact .requeued u r hrow hdue hpriority hphase fun v => (requeued_snoc ha v).trans (honce v)

/-- An outpoint that is answered, fresh or capped out has left the failing path, whatever happens to its row. -/
theorem Standing.pass (h : Standing o due priority done p row) {row' : Option QueueRow} (ha : ∀ u, a ≠ .requeue o u)
    (hanswer : ¬ a.FailsOn o) (hp : p ≠ .unanswered ∧ p ≠ .missed ∧ p ≠ .out)
    (hp' : p' ≠ .claimed ∧ p' ≠ .waiting ∧ p' ≠ .unanswered) : Standing o due priority (done ++ [a]) p' row' := by
  cases h with
  | waiting r hrow hdue hpriority hphase hnone hanswered =>
    exact .passed hp' (hnone.snoc ha) (answered_snoc hanswered hanswer)
  | failed r hrow hdue hpriority hphase hnone =>
    rcases hphase with hphase | hphase
    · exact absurd hphase hp.1
    · exact absurd hphase hp.2.2
  | passed hphase hnone hanswered => exact .passed hp' (hnone.snoc ha) (answered_snoc hanswered hanswer)
  | requeued u r hrow hdue hpriority hphase honce =>
    rcases hphase with hphase | hphase
    · exact absurd hphase hp.2.1
    · exact absurd hphase hp.2.2

/-- What stands before its question still has the row the claim left. -/
theorem Standing.before (h : Standing o due priority done p row) (hp : p = .claimed ∨ p = .waiting) :
    ∃ r, row = some r ∧ r.nextAttemptAt = due ∧ r.priority = priority ∧ NeverRequeued o done ∧
      ∀ a ∈ done, ¬ a.FailsOn o := by
  cases h with
  | waiting r hrow hdue hpriority hphase hnone hanswered => exact ⟨r, hrow, hdue, hpriority, hnone, hanswered⟩
  | failed r hrow hdue hpriority hphase hnone => rcases hp with rfl | rfl <;> simp at hphase
  | passed hphase hnone hanswered => exact absurd hp (not_or.mpr ⟨hphase.1, hphase.2.1⟩)
  | requeued u r hrow hdue hpriority hphase honce => rcases hp with rfl | rfl <;> simp at hphase

/-- The failed lookup queues the outpoint again. -/
theorem Standing.requeue {u : DateTime} (h : Standing o due priority done .unanswered row) :
    Standing o due priority (done ++ [.requeue o u]) .missed
      (some (Store.queueRow row "refresh-failed" true ON_DEMAND u)) := by
  cases h with
  | waiting r hrow hdue hpriority hphase hnone hanswered => simp at hphase
  | failed r hrow hdue hpriority hphase hnone =>
    subst hrow
    refine .requeued u _ rfl ?_ ?_ (.inl rfl) fun v => ?_
    · simp only [Store.queueRow, hdue]
    · simp only [Store.queueRow, hpriority]
    · rw [List.mem_append, List.mem_singleton, Action.requeue.injEq]
      constructor
      · intro hm
        rcases hm with hm | ⟨-, hv⟩
        · exact absurd hm (hnone v)
        · exact hv
      · intro hv
        exact .inr ⟨rfl, hv⟩
  | passed hphase hnone hanswered => exact absurd rfl hphase.2.2
  | requeued v r hrow hdue hpriority hphase honce => simp at hphase

/-- Noting the error, and leaving the drain, keep what the row was queued with. -/
theorem Standing.leave (h : Standing o due priority done p row) (ha : ∀ u, a ≠ .requeue o u) (hanswer : ¬ a.FailsOn o)
    {f : QueueRow → QueueRow} (hdue : ∀ r, (f r).nextAttemptAt = r.nextAttemptAt)
    (hpriority : ∀ r, (f r).priority = r.priority) : Standing o due priority (done ++ [a]) .out (row.map f) := by
  cases h with
  | waiting r hrow hdue hpriority hphase hnone hanswered =>
    exact .passed (by simp) (hnone.snoc ha) (answered_snoc hanswered hanswer)
  | failed r hrow hdue' hpriority' hphase hnone =>
    subst hrow
    exact .failed (f r) rfl ((hdue r).trans hdue') ((hpriority r).trans hpriority') (.inr rfl) (hnone.snoc ha)
  | passed hphase hnone hanswered =>
    exact .passed (by simp) (hnone.snoc ha) (answered_snoc hanswered hanswer)
  | requeued u r hrow hdue' hpriority' hphase honce =>
    subst hrow
    exact .requeued u (f r) rfl ((hdue r).trans hdue') ((hpriority r).trans hpriority') (.inr rfl)
      fun v => (requeued_snoc ha v).trans (honce v)

/-- What does not concern the outpoint is no failure of its. -/
theorem not_failsOn_of_not_concerns (ha : ¬ a.Concerns o) : ¬ a.FailsOn o := by
  intro hfails
  cases a with
  | ask o' answer =>
    cases answer with
    | ok status => exact hfails
    | error e => exact ha hfails
  | _ => exact hfails

/-- One step of the rest of the drain. -/
theorem Standing.step (hvalid : s.worker.Valid) (hstep : Queue.step q cap s a = some s') (hopen : ¬ OpensDrain a)
    (henqueue : ¬ Enqueues o a)
    (h : Standing o due priority done (s.worker.phase o) (s.store.btcRefreshQueue.get? o.key)) :
    Standing o due priority (done ++ [a]) (s'.worker.phase o) (s'.store.btcRefreshQueue.get? o.key) := by
  have hmoves := step_phase hvalid hstep o
  rw [step_row hstep]
  generalize s.worker.phase o = p at *
  generalize s'.worker.phase o = p' at *
  generalize s.store.btcRefreshQueue.get? o.key = row at *
  by_cases hconcerns : a.Concerns o
  · cases a with
    | drop => exact absurd trivial hopen
    | claim => exact absurd trivial hopen
    | read fresh now =>
      rcases hmoves with ⟨rfl, -, rfl⟩ | ⟨rfl, -, rfl⟩ | ⟨rfl, rfl⟩
      · exact h.pass (by simp) id (by simp) (by simp)
      · obtain ⟨r, hrow, hdue, hpriority, hnone, hanswered⟩ := h.before (.inl rfl)
        exact .waiting r hrow hdue hpriority (.inr rfl) (hnone.snoc (by simp)) (answered_snoc hanswered id)
      · exact h.same (by simp) id
    | clear o' =>
      obtain rfl : o' = o := hconcerns
      rw [Action.Moves, if_pos rfl] at hmoves
      obtain ⟨rfl, rfl⟩ := hmoves
      exact h.pass (by simp) id (by simp) (by simp)
    | overflow outpoints now =>
      rw [Action.Moves, if_pos (show o ∈ outpoints from hconcerns)] at hmoves
      obtain ⟨rfl, rfl⟩ := hmoves
      exact h.pass (by simp) id (by simp) (by simp)
    | ask o' answer =>
      obtain rfl : o' = o := hconcerns
      rw [Action.Moves, if_pos rfl] at hmoves
      obtain ⟨rfl, rfl⟩ := hmoves
      cases answer with
      | ok status => exact h.pass (by simp) id (by simp) (by simp [Phase.ofAnswer])
      | error e =>
        obtain ⟨r, hrow, hdue, hpriority, hnone, -⟩ := h.before (.inr rfl)
        exact .failed r hrow hdue hpriority (.inl rfl) (hnone.snoc (by simp))
    | record o' status source now =>
      obtain rfl : o' = o := hconcerns
      rw [Action.Moves, if_pos rfl] at hmoves
      obtain ⟨rfl, rfl⟩ := hmoves
      exact h.pass (by simp) id (by simp) (by simp)
    | requeue o' now =>
      obtain rfl : o' = o := hconcerns
      rw [Action.Moves, if_pos rfl] at hmoves
      obtain ⟨rfl, rfl⟩ := hmoves
      rw [Action.onRow, if_pos rfl]
      exact h.requeue
    | complete o' =>
      obtain rfl : o' = o := hconcerns
      rw [Action.Moves, if_pos rfl] at hmoves
      obtain ⟨rfl, rfl⟩ := hmoves
      exact h.pass (by simp) id (by simp) (by simp)
    | fail o' =>
      obtain rfl : o' = o := hconcerns
      rw [Action.Moves, if_pos rfl] at hmoves
      obtain ⟨rfl, rfl⟩ := hmoves
      rw [Action.onRow, if_pos rfl]
      exact h.leave (a := .fail o') (by simp) id (f := fun r => { r with lastError := some "data source did not answer" })
        (fun _ => rfl) fun _ => rfl
    | abort =>
      rw [show p' = .out from hmoves]
      have hleave := h.leave (a := .abort) (by simp) id (f := id) (fun _ => rfl) fun _ => rfl
      rw [Option.map_id] at hleave
      exact hleave
    | enqueue origin o' reason replaceReason now => exact absurd hconcerns henqueue
    | next => cases hconcerns
    | observe => cases hconcerns
    | label => cases hconcerns
    | other => cases hconcerns
  · rw [Action.onRow_other row hconcerns, hmoves.other hconcerns]
    refine h.same (fun u hu => ?_) (not_failsOn_of_not_concerns hconcerns)
    rw [hu] at hconcerns
    exact hconcerns rfl

/-- The rest of the drain, and everything that happens around it. -/
theorem Standing.run {as : List Action} (hrun : (queue q cap).Run s as s') (hvalid : s.worker.Valid)
    (hopen : ∀ a ∈ as, ¬ OpensDrain a) (henqueue : ∀ a ∈ as, ¬ Enqueues o a)
    (h : Standing o due priority [] (s.worker.phase o) (s.store.btcRefreshQueue.get? o.key)) :
    Standing o due priority as (s'.worker.phase o) (s'.store.btcRefreshQueue.get? o.key) := by
  have hrun' := Lts.run_restrict_iff.mpr ⟨hrun, fun a ha => And.intro (hopen a ha) (henqueue a ha)⟩
  have hboth : s'.worker.Valid ∧ Standing o due priority as (s'.worker.phase o) (s'.store.btcRefreshQueue.get? o.key) := by
    refine hrun'.keeps_history (I := fun ls t => t.worker.Valid ∧
      Standing o due priority ls (t.worker.phase o) (t.store.btcRefreshQueue.get? o.key)) ?_ ⟨hvalid, h⟩
    intro ls t a t' ht hstep
    obtain ⟨hstep, hopen, henqueue⟩ := hstep
    exact ⟨step_valid ht.1 hstep, ht.2.step ht.1 hstep hopen henqueue⟩
  exact hboth.2

/-- Right after a claim. -/
theorem Standing.claim {rows : ClaimOrder} {batch : List OutpointKey} {t : DateTime} {r : QueueRow}
    (hclaim : Queue.step q cap s (.claim rows batch t) = some s') (hbatch : o.key ∈ batch)
    (hrow : s.store.btcRefreshQueue.get? o.key = some r) :
    s'.worker.Valid ∧
      Standing o (t + backoff (r.attempts + 1)) r.priority [] (s'.worker.phase o) (s'.store.btcRefreshQueue.get? o.key) := by
  obtain ⟨hadvance, -⟩ := step_eq_some.mp hclaim
  obtain ⟨-, st', items, hok, -, hw⟩ := advance_claim hadvance
  have hrow' := step_row hclaim o.key
  rw [hrow, Action.onRow, if_pos hbatch, Option.map_some] at hrow'
  rw [hw]
  refine ⟨afterClaim_valid hok, ?_⟩
  have hnone : NeverRequeued o [] := fun u => List.not_mem_nil
  rcases phase_afterClaim items o with hout | ⟨hclaimed, -⟩
  · rw [hout]
    exact .passed (by simp) hnone (by simp)
  · exact .waiting (Store.claimedRow t r) hrow' rfl rfl (.inl hclaimed) hnone (by simp)

theorem claimable_iff {r : QueueRow} {now : DateTime} (hrow : s.store.btcRefreshQueue.get? o.key = some r) :
    Claimable o.key now s ↔ r.nextAttemptAt ≤ now := by
  unfold Claimable
  simp only [Store.mem_dueRefreshes, hrow, Option.some.injEq]
  constructor
  · rintro ⟨r', rfl, hdue⟩
    exact hdue
  · intro hdue
    exact ⟨r, rfl, hdue⟩

/-- The entry is not claimable before `due`, and has the priority it was claimed with. -/
def BackoffSurvives (key : OutpointKey) (due : DateTime) (priority : Int32) (s : State) : Prop :=
  (∀ now < due, ¬ Claimable key now s) ∧ ∃ r, s.store.btcRefreshQueue.get? key = some r ∧ r.priority = priority

theorem backoffSurvives_iff {r : QueueRow} (hrow : s.store.btcRefreshQueue.get? o.key = some r) :
    BackoffSurvives o.key due priority s ↔ due ≤ r.nextAttemptAt ∧ r.priority = priority := by
  unfold BackoffSurvives
  simp only [claimable_iff hrow, hrow, Option.some.injEq, exists_eq_left']
  refine and_congr_left fun _ => ?_
  constructor
  · intro h
    by_contra hlt
    have hlt : r.nextAttemptAt < due := Int.not_le.mp hlt
    exact h r.nextAttemptAt hlt (Int.le_refl _)
  · intro hle now hnow hdue
    exact Int.not_lt.mpr (Int.le_trans hle hdue) hnow

theorem smaller_eq_iff {m n : Int32} : (if m < n then m else n) = n ↔ n ≤ m := by
  split
  · next hlt =>
    constructor
    · rintro rfl
      exact absurd hlt Int32.lt_irrefl
    · intro hle
      exact absurd hlt (Int32.not_lt.mpr hle)
  · next hnot => exact iff_of_true rfl (Int32.not_lt.mp hnot)

/-- **The unanswered claims that keep the backoff and the priority.** -/
theorem backoff_survives_iff {t : DateTime} {rows : ClaimOrder} {batch : List OutpointKey}
    {mid : List Action} {s₀ s₁ s₂ : State} {r : QueueRow} {e : BtcError}
    (hrow : s₀.store.btcRefreshQueue.get? o.key = some r) (hclaim : step q cap s₀ (.claim rows batch t) = some s₁)
    (hbatch : o.key ∈ batch) (hrun : (queue q cap).Run s₁ mid s₂) (hopen : ∀ a ∈ mid, ¬ OpensDrain a)
    (henqueue : ∀ a ∈ mid, ¬ Enqueues o a) (hfailed : .ask o (.error e) ∈ mid) :
    BackoffSurvives o.key (t + backoff (r.attempts + 1)) r.priority s₂ ↔
      ∀ u, .requeue o u ∈ mid → t + backoff (r.attempts + 1) ≤ u ∧ r.priority ≤ ON_DEMAND := by
  obtain ⟨hvalid, hstart⟩ := Standing.claim hclaim hbatch hrow
  have hend := hstart.run hrun hvalid hopen henqueue
  cases hend with
  | waiting r' hrow' hdue hpriority hphase hnone hanswered => exact absurd rfl (hanswered _ hfailed)
  | passed hphase hnone hanswered => exact absurd rfl (hanswered _ hfailed)
  | failed r' hrow' hdue hpriority hphase hnone =>
    rw [backoffSurvives_iff hrow', hdue, hpriority]
    exact iff_of_true ⟨Int.le_refl _, rfl⟩ fun u hu => absurd hu (hnone u)
  | requeued u r' hrow' hdue hpriority hphase honce =>
    rw [backoffSurvives_iff hrow', hdue, hpriority, smaller_eq_iff, Int.le_min]
    simp only [honce, forall_eq, Int.le_refl, true_and]

end

/-! ## The counterexample -/

section

def q : DrainConfig := { queueBatchSize := 100, maxAttempts := 8, observationTtlSecs := 60 }

def o : BtcOutPoint := ⟨.placeholder, 0⟩

/-- An application asks, and a drain starts. -/
def opening : List Action := [.enqueue .application o "api-request" false 0, .drop []]

/-- The data source does not answer; the failure is written one second after the claim. -/
def failing : List Action :=
  [.read [] 0, .overflow [] 0, .ask o (.error (.transport "timeout")), .next, .requeue o 1000, .next, .fail o, .next]

def queued : QueueRow :=
  { reason := "api-request", priority := ON_DEMAND, attempts := 0, lastError := none, nextAttemptAt := 0 }

/-- The entry before the claim and after the drain. -/
theorem failed_drain : ∃ s₀ s₁ s₂ r', (queue q 200).Run ⟨.empty, .idle⟩ opening s₀ ∧
    step q 200 s₀ (.claim .storage [o.key] 0) = some s₁ ∧ (queue q 200).Run s₁ failing s₂ ∧
    s₀.store.btcRefreshQueue.get? o.key = some queued ∧
    s₂.store.btcRefreshQueue.get? o.key = some r' ∧ r'.nextAttemptAt = 1000 := by
  have hsome : (perform q 200 ⟨.empty, .idle⟩ (opening ++ .claim .storage [o.key] 0 :: failing)).isSome = true := by
    decide +kernel
  have hqueued : ((perform q 200 ⟨.empty, .idle⟩ opening).bind fun s => s.store.btcRefreshQueue.get? o.key) =
      some queued := by decide +kernel
  have hdue : (((perform q 200 ⟨.empty, .idle⟩ (opening ++ .claim .storage [o.key] 0 :: failing)).bind
      fun s => s.store.btcRefreshQueue.get? o.key).map QueueRow.nextAttemptAt) = some 1000 := by decide +kernel
  obtain ⟨s₂, hs₂⟩ := Option.isSome_iff_exists.mp hsome
  obtain ⟨s₀, hopening, hrest⟩ := (run_of_perform hs₂).split
  obtain ⟨s₁, hclaim, hfailing⟩ := hrest.cons_inv
  rw [hs₂, Option.bind_some, Option.map_eq_some_iff] at hdue
  rw [run_iff_perform.mp hopening, Option.bind_some] at hqueued
  obtain ⟨r', hr', hdue⟩ := hdue
  exact ⟨s₀, s₁, s₂, r', hopening, hclaim, hfailing, hqueued, hr', hdue⟩

/-- **The backoff is two seconds, and the entry is due again after one.** -/
theorem due_before_backoff : ∃ s₀ s₁ s₂, (queue q 200).Run ⟨.empty, .idle⟩ opening s₀ ∧
    step q 200 s₀ (.claim .storage [o.key] 0) = some s₁ ∧ (queue q 200).Run s₁ failing s₂ ∧
    s₀.store.btcRefreshQueue.get? o.key = some queued ∧
    ¬ BackoffSurvives o.key (0 + backoff (queued.attempts + 1)) queued.priority s₂ := by
  obtain ⟨s₀, s₁, s₂, r', hopening, hclaim, hfailing, hqueued, hr', hdue⟩ := failed_drain
  refine ⟨s₀, s₁, s₂, hopening, hclaim, hfailing, hqueued, fun h => ?_⟩
  have hle := ((backoffSurvives_iff hr').mp h).1
  rw [hdue] at hle
  exact absurd hle (by decide)

theorem backoff_survives_iff_failed_drain : ∃ s₀ s₁ s₂, step q 200 s₀ (.claim .storage [o.key] 0) = some s₁ ∧
    (queue q 200).Run s₁ failing s₂ ∧
    (BackoffSurvives o.key (0 + backoff (queued.attempts + 1)) queued.priority s₂ ↔
      ∀ u, .requeue o u ∈ failing → 0 + backoff (queued.attempts + 1) ≤ u ∧ queued.priority ≤ ON_DEMAND) := by
  obtain ⟨s₀, s₁, s₂, r', -, hclaim, hfailing, hqueued, -, -⟩ := failed_drain
  have hopen : ∀ a ∈ failing, ¬ OpensDrain a := by
    unfold failing
    simp [OpensDrain]
  have henqueue : ∀ a ∈ failing, ¬ Enqueues o a := by
    unfold failing
    simp [Enqueues]
  have hasked : .ask o (.error (.transport "timeout")) ∈ failing := by
    unfold failing
    simp
  exact ⟨s₀, s₁, s₂, hclaim, hfailing,
    backoff_survives_iff hqueued hclaim (List.mem_singleton.mpr rfl) hfailing hopen henqueue hasked⟩

end
end RgbppIndexer.Bugs.LostBackoff
