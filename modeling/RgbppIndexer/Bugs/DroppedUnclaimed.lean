import RgbppIndexer.Queue.Worker

/-!
# A request is dropped before it is claimed

Queueing an outpoint again "promotes the existing entry and makes it eligible
immediately" (crates/store/src/queue.rs:24-25), but the entry keeps its
attempts. A drain drops the entries whose attempts are used up before it
claims anything (crates/indexer/src/reconcile.rs:441-460), so a request that
lands on such an entry is deleted by the next drain, unanswered.

* `claimedBeforeDropped_iff`: **a request is claimed before it may be dropped
  exactly when the entry it lands on, if any, has attempts left.**
-/
namespace RgbppIndexer.Bugs.DroppedUnclaimed

open RgbppIndexer.Core Queue

/-- From here on the entry of `key` is claimed before a drop deletes it, whatever happens in which order. -/
def ClaimedBeforeDropped (q : DrainConfig) (cap : Nat) (key : OutpointKey) (s : State) : Prop :=
  ∀ mid dropped s', (queue q cap).Run s (mid ++ [.drop dropped]) s' → key ∈ dropped → ∃ a ∈ mid, a.Claims key

/-- The entry of `key`, if there is one, has attempts left. -/
def AttemptsLeft (q : DrainConfig) (key : OutpointKey) (s : State) : Prop :=
  ∀ r, s.store.btcRefreshQueue.get? key = some r → r.attempts < q.maxAttempts

section
variable {q : DrainConfig} {cap : Nat} {key : OutpointKey} {s s' : State}

theorem AttemptsLeft.step {a : Action} (hmax : 1 ≤ q.maxAttempts) (h : AttemptsLeft q key s)
    (hstep : Queue.step q cap s a = some s') (ha : ¬ a.Claims key) : AttemptsLeft q key s' := by
  intro r' hr'
  rw [step_row hstep] at hr'
  rcases Action.onRow_attempts ha hr' with ⟨r, hr, hsame⟩ | ⟨-, hzero⟩
  · rw [hsame]
    exact h r hr
  · rw [hzero]
    have hone : (0 : Int32) < 1 := by decide
    exact Int32.lt_of_lt_of_le hone hmax

theorem AttemptsLeft.run {as : List Action} (hmax : 1 ≤ q.maxAttempts) (h : AttemptsLeft q key s)
    (hrun : (queue q cap).Run s as s') (has : ∀ a ∈ as, ¬ a.Claims key) : AttemptsLeft q key s' := by
  have hrun' := Lts.run_restrict_iff.mpr ⟨hrun, has⟩
  refine hrun'.keeps (fun t a t' ht hstep => ?_) h
  exact ht.step hmax hstep.1 hstep.2

/-- What a drop deletes has no attempts left. -/
theorem AttemptsLeft.not_dropped {dropped : List OutpointKey} (h : AttemptsLeft q key s)
    (hstep : Queue.step q cap s (.drop dropped) = some s') : key ∉ dropped := by
  obtain ⟨hadvance, -⟩ := step_eq_some.mp hstep
  obtain ⟨-, rfl, -⟩ := advance_drop hadvance
  rw [Store.mem_dropExhaustedRefreshes]
  rintro ⟨r, hr, hle⟩
  exact Int32.not_le.mpr (h r hr) hle

/-- An entry without attempts left is deleted as soon as the worker starts over. -/
theorem dropped_of_not_attemptsLeft (cap : Nat) (h : ¬ AttemptsLeft q key s) :
    ∃ dropped s', (queue q cap).Run s ([.abort] ++ [.drop dropped]) s' ∧ key ∈ dropped := by
  unfold AttemptsLeft at h
  push Not at h
  obtain ⟨r, hr, hle⟩ := h
  have habort : step q cap s .abort = some ⟨s.store, .idle⟩ := rfl
  refine ⟨(s.store.dropExhaustedRefreshes q.maxAttempts).2, ⟨_, .dropped⟩,
    .cons habort (.single (step_eq_some.mpr ⟨?_, rfl⟩)), ?_⟩
  · simp [advance]
  · exact Store.mem_dropExhaustedRefreshes.mpr ⟨r, hr, Int32.not_lt.mp hle⟩

/-- **The requests that are claimed before they may be dropped.** -/
theorem claimedBeforeDropped_iff {o : BtcOutPoint} {reason : String} {replaceReason : Bool} {now : DateTime}
    (hmax : 1 ≤ q.maxAttempts) (hrequest : step q cap s (.enqueue .application o reason replaceReason now) = some s') :
    ClaimedBeforeDropped q cap o.key s' ↔ AttemptsLeft q o.key s := by
  have hrow := step_row hrequest o.key
  simp only [Action.onRow, if_true] at hrow
  constructor
  · intro hclaimed r hr
    by_contra hleft
    have hleft' : ¬ AttemptsLeft q o.key s' := by
      intro hs'
      rw [hr] at hrow
      have hlt := hs' _ hrow
      exact hleft hlt
    obtain ⟨dropped, t, hrun, hmem⟩ := dropped_of_not_attemptsLeft cap hleft'
    obtain ⟨a, ha, hclaims⟩ := hclaimed [.abort] dropped t hrun hmem
    rw [List.mem_singleton.mp ha] at hclaims
    exact hclaims
  · intro hleft mid dropped t hrun hmem
    by_contra hnone
    push Not at hnone
    obtain ⟨u, hmid, hdrop⟩ := hrun.split
    have hs' : AttemptsLeft q o.key s' := hleft.step hmax hrequest fun h => h
    exact (hs'.run hmax hmid hnone).not_dropped hdrop.single_inv hmem

end

/-! ## The counterexample -/

section

def q : DrainConfig := { queueBatchSize := 100, maxAttempts := 1, observationTtlSecs := 60 }

def o : BtcOutPoint := ⟨.placeholder, 0⟩

/-- The data source does not answer the first request. -/
def firstRequest : List Action :=
  [.enqueue .application o "api-request" false 0, .drop [], .claim .storage [o.key] 0, .read [] 0, .overflow [] 0,
    .ask o (.error (.transport "timeout")), .next, .requeue o 1000, .next, .fail o, .next]

/-- A second request lands on the entry of the first, and the next drain deletes it. -/
def secondRequest : Action := .enqueue .application o "api-request" false 2000

/-- **A request made after the last attempt is dropped without being claimed.** -/
theorem dropped_unclaimed :
    1 ≤ q.maxAttempts ∧ ∃ s s', (queue q 200).Run ⟨.empty, .idle⟩ firstRequest s ∧
      step q 200 s secondRequest = some s' ∧ ¬ ClaimedBeforeDropped q 200 o.key s' := by
  have hsome : (perform q 200 ⟨.empty, .idle⟩ (firstRequest ++ [secondRequest, .drop [o.key]])).isSome = true := by
    decide +kernel
  obtain ⟨t, ht⟩ := Option.isSome_iff_exists.mp hsome
  obtain ⟨s, hfirst, hrest⟩ := (run_of_perform ht).split
  obtain ⟨s', hsecond, hdrop⟩ := hrest.cons_inv
  refine ⟨by decide, s, s', hfirst, hsecond, fun h => ?_⟩
  obtain ⟨a, ha, -⟩ := h [] [o.key] t hdrop (by simp)
  cases ha

/-- The first request meets the condition. -/
theorem claimedBeforeDropped_iff_first : ∃ s',
    step q 200 ⟨.empty, .idle⟩ (.enqueue .application o "api-request" false 0) = some s' ∧
    (ClaimedBeforeDropped q 200 o.key s' ↔ AttemptsLeft q o.key ⟨.empty, .idle⟩) :=
  ⟨_, rfl, claimedBeforeDropped_iff (by decide) rfl⟩

end
end RgbppIndexer.Bugs.DroppedUnclaimed
