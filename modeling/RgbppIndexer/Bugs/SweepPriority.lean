import RgbppIndexer.Queue.History

/-!
# The sweep queues with the priority of an application

The queue hands out lower priorities first, and `SWEEP` is there for
background work (crates/store/src/queue.rs:13-21). Nothing uses it: the sweep
refreshes its pages through `refresh_outpoints`, whose overflow and failed
lookups are queued with `ON_DEMAND` (crates/indexer/src/reconcile.rs:126-129,
166-172). Every entry then has one priority, and a claim is decided by the due
times alone.

* `onDemand_of_run`: every entry of every reachable queue has one priority.
* `outranks_of_run`: **application requests outrank the sweep exactly when they
  are due first.**
-/
namespace RgbppIndexer.Bugs.SweepPriority

open RgbppIndexer.Core Queue

/-- No claim picks an entry only the sweep asked for and leaves a due one that an application asked for. -/
def Outranks (history : List Action) (st : Store) (now : DateTime) : Prop :=
  ∀ rows limit st' items, st.claimRefreshBatch rows limit now = .ok (st', items) →
    ∀ key ∈ items.map QueueItem.key, SweepOnly key history →
      ∀ e ∈ st.dueRefreshes now, RequestedBy .application e.1 history → e.1 ∈ items.map QueueItem.key

/-- Every due entry an application asked for is due since before every due entry only the sweep asked for. -/
def DueFirst (history : List Action) (st : Store) (now : DateTime) : Prop :=
  ∀ e ∈ st.dueRefreshes now, ∀ e' ∈ st.dueRefreshes now, SweepOnly e.1 history →
    RequestedBy .application e'.1 history → e'.2.nextAttemptAt < e.2.nextAttemptAt

/-- No claim of due entries fails. -/
def ClaimsSucceed (st : Store) (now : DateTime) : Prop :=
  (st.dueRefreshes now).length < 2 ^ 63 ∧ ∀ e ∈ st.dueRefreshes now, e.2.attempts < 1023

/-- Every entry has the priority of a request an application waits for. -/
def OnDemand (st : Store) : Prop := ∀ key r, st.btcRefreshQueue.get? key = some r → r.priority = ON_DEMAND

section
variable {q : DrainConfig} {cap : Nat} {s s' : State} {a : Action} {as : List Action} {st : Store} {now : DateTime}

theorem queueRow_onDemand {old : Option QueueRow} {reason : String} {replaceReason : Bool}
    (hold : ∀ r, old = some r → r.priority = ON_DEMAND) :
    (Store.queueRow old reason replaceReason ON_DEMAND now).priority = ON_DEMAND := by
  cases old with
  | none => rfl
  | some r =>
    have hr := hold r rfl
    simp only [Store.queueRow, hr]
    split
    · rfl
    · rfl

theorem onRow_onDemand {key : OutpointKey} {old : Option QueueRow} {r' : QueueRow}
    (hold : ∀ r, old = some r → r.priority = ON_DEMAND) (h : a.onRow q key old = some r') : r'.priority = ON_DEMAND := by
  rcases Action.onRow_cases h with hsame | ⟨r, claimedAt, -, hr, rfl⟩ | ⟨o, reason, replaceReason, queuedAt, -, rfl⟩ |
    ⟨r, error, hr, rfl⟩
  · exact hold r' hsame
  · exact hold r hr
  · exact queueRow_onDemand hold
  · exact hold r hr

theorem OnDemand.step (h : OnDemand s.store) (hstep : Queue.step q cap s a = some s') : OnDemand s'.store := by
  intro key r' hr'
  rw [step_row hstep] at hr'
  exact onRow_onDemand (h key) hr'

theorem onDemand_of_run (hrun : (queue q cap).Run ⟨.empty, .idle⟩ as s) : OnDemand s.store := by
  refine hrun.keeps (I := fun s => OnDemand s.store) (fun t a t' ht hstep => ht.step hstep) ?_
  intro key r hr
  cases hr

/-- Among entries of one priority the due times decide. -/
theorem queueLe_iff (h : OnDemand st) {e e' : OutpointKey × QueueRow} (he : e ∈ st.dueRefreshes now)
    (he' : e' ∈ st.dueRefreshes now) : Store.queueLe e e' = true ↔ e.2.nextAttemptAt ≤ e'.2.nextAttemptAt := by
  have hp := h e.1 e.2 (Store.mem_dueRefreshes.mp he).1
  have hp' := h e'.1 e'.2 (Store.mem_dueRefreshes.mp he').1
  unfold Store.queueLe
  rw [decide_eq_true_eq, hp, hp']
  constructor
  · intro hle
    rcases hle with hlt | hle
    · exact absurd hlt Int32.lt_irrefl
    · exact hle.2
  · intro hle
    exact .inr ⟨rfl, hle⟩

theorem outranks_of_dueFirst (hpriority : OnDemand st) (h : DueFirst as st now) : Outranks as st now := by
  intro rows limit st' items hclaim key hkey hsweep e' he' happ
  obtain ⟨r, hpicked⟩ := (Store.mem_claimed hclaim).mp hkey
  by_contra hleft
  have hnot : e' ∉ st.pickedRefreshes rows.ties limit now := fun hmem => hleft ((Store.mem_claimed hclaim).mpr ⟨e'.2, hmem⟩)
  have hdue := Store.due_of_mem_pickedRefreshes hpicked
  have hlt := h (key, r) hdue e' he' hsweep happ
  have hle := (queueLe_iff hpriority hdue he').mp (Store.claimed_before hpicked he' hnot)
  exact Int.not_lt.mpr hle hlt

theorem dueFirst_of_outranks (hpriority : OnDemand st) (hclaims : ClaimsSucceed st now) (h : Outranks as st now) :
    DueFirst as st now := by
  intro e he e' he' hsweep happ
  by_contra hnot
  have hle := (queueLe_iff hpriority he he').mpr (Int.not_lt.mp hnot)
  have hne : e ≠ e' := by
    rintro rfl
    exact hsweep.2 happ
  obtain ⟨ties, limit, hlimit, hpicked, hleft⟩ := Store.picked_before he hne hle hclaims.1
  have hfew : ¬ (st.pickedRefreshes ties limit now).any fun e => decide (1023 ≤ e.2.attempts) := by
    simp only [List.any_eq_true, decide_eq_true_eq, not_exists, not_and]
    intro e hmem
    exact Int32.not_le.mpr (hclaims.2 e (Store.due_of_mem_pickedRefreshes hmem))
  have hclaim : ∃ st' items, st.claimRefreshBatch ⟨ties, .storage⟩ limit now = .ok (st', items) := by
    unfold Store.claimRefreshBatch
    rw [if_neg hlimit]
    dsimp only
    rw [if_neg hfew]
    exact ⟨_, _, rfl⟩
  obtain ⟨st', items, hclaim⟩ := hclaim
  have hmem := h ⟨ties, .storage⟩ limit st' items hclaim e.1 ((Store.mem_claimed hclaim).mpr ⟨e.2, hpicked⟩) hsweep e' he' happ
  obtain ⟨r, hmem⟩ := (Store.mem_claimed hclaim).mp hmem
  have hrow := (Store.mem_dueRefreshes.mp (Store.due_of_mem_pickedRefreshes hmem)).1
  have hrow' := (Store.mem_dueRefreshes.mp he').1
  rw [hrow'] at hrow
  cases hrow
  exact hleft hmem

/-- **The reachable queues whose claims put application requests first.** -/
theorem outranks_of_run (hrun : (queue q cap).Run ⟨.empty, .idle⟩ as s) (now : DateTime) :
    (DueFirst as s.store now → Outranks as s.store now) ∧
      (ClaimsSucceed s.store now → Outranks as s.store now → DueFirst as s.store now) :=
  ⟨outranks_of_dueFirst (onDemand_of_run hrun), dueFirst_of_outranks (onDemand_of_run hrun)⟩

end

/-! ## The counterexample -/

section

def q : DrainConfig := { queueBatchSize := 1, maxAttempts := 8, observationTtlSecs := 60 }

def swept : BtcOutPoint := ⟨.placeholder, 0⟩

def requested : BtcOutPoint := ⟨.placeholder, 1⟩

/-- The sweep's overflow, and a request one second later. -/
def history : List Action :=
  [.enqueue .sweep swept "request-overflow" false 0, .enqueue .application requested "api-request" false 1000]

theorem swept_sweepOnly : SweepOnly swept.key history := by
  refine ⟨⟨[], _, _, rfl, trivial, ⟨rfl, rfl⟩, ?_⟩, ?_⟩
  · intro b hb
    rw [List.mem_singleton.mp hb]
    exact id
  · rintro ⟨past, a, later, hsplit, -, hrequests, -⟩
    have hmem : a ∈ history := hsplit ▸ List.mem_append_right _ List.mem_cons_self
    have hcases : a = .enqueue .sweep swept "request-overflow" false 0 ∨
        a = .enqueue .application requested "api-request" false 1000 := by
      simpa [history] using hmem
    rcases hcases with rfl | rfl
    · cases hrequests.1
    · exact absurd (BtcOutPoint.key_injective hrequests.2) (by decide)

theorem requested_application : RequestedBy .application requested.key history :=
  ⟨[_], _, [], rfl, trivial, ⟨rfl, rfl⟩, nofun⟩

/-- Where the history leads, and what a claim of one entry picks there. -/
theorem claim_picks_swept : ∃ s st' items r, (queue q 200).Run ⟨.empty, .idle⟩ history s ∧
    s.store.claimRefreshBatch .storage 1 2000 = .ok (st', items) ∧ items.map QueueItem.key = [swept.key] ∧
    (requested.key, r) ∈ s.store.dueRefreshes 2000 := by
  have hpicked : ((perform q 200 ⟨.empty, .idle⟩ history).bind fun s =>
      (s.store.claimRefreshBatch .storage 1 2000).toOption.map fun c =>
        (c.2.map QueueItem.key, (s.store.dueRefreshes 2000).map Prod.fst)) =
      some ([swept.key], [swept.key, requested.key]) := by decide +kernel
  obtain ⟨s, hs, hpicked⟩ := Option.bind_eq_some_iff.mp hpicked
  obtain ⟨⟨st', items⟩, hclaim, hitems⟩ := Option.map_eq_some_iff.mp hpicked
  have hdue : requested.key ∈ (s.store.dueRefreshes 2000).map Prod.fst := by
    rw [(Prod.mk.inj hitems).2]
    exact List.mem_cons_of_mem _ (List.mem_singleton.mpr rfl)
  obtain ⟨⟨key, r⟩, hmem, rfl⟩ := List.mem_map.mp hdue
  refine ⟨s, st', items, r, run_of_perform hs, ?_, (Prod.mk.inj hitems).1, hmem⟩
  cases hresult : s.store.claimRefreshBatch .storage 1 2000 with
  | error e =>
    rw [hresult] at hclaim
    cases hclaim
  | ok c =>
    rw [hresult] at hclaim
    exact congrArg Except.ok (Option.some.inj hclaim)

/-- **The sweep's entry is picked and the request an application waits for is left behind.** -/
theorem sweep_outranks_request : ∃ s, (queue q 200).Run ⟨.empty, .idle⟩ history s ∧ ¬ Outranks history s.store 2000 := by
  obtain ⟨s, st', items, r, hrun, hclaim, hitems, hdue⟩ := claim_picks_swept
  refine ⟨s, hrun, fun h => ?_⟩
  have hmem := h .storage 1 st' items hclaim swept.key (hitems ▸ List.mem_singleton.mpr rfl) swept_sweepOnly _ hdue
    requested_application
  rw [hitems, List.mem_singleton] at hmem
  exact absurd (BtcOutPoint.key_injective hmem) (by decide)

theorem outranks_of_run_history : ∃ s : State, (queue q 200).Run ⟨.empty, .idle⟩ history s ∧
    (DueFirst history s.store 2000 → Outranks history s.store 2000) ∧
    (ClaimsSucceed s.store 2000 → Outranks history s.store 2000 → DueFirst history s.store 2000) := by
  obtain ⟨s, -, -, -, hrun, -⟩ := claim_picks_swept
  exact ⟨s, hrun, outranks_of_run hrun 2000⟩

end
end RgbppIndexer.Bugs.SweepPriority
