import RgbppIndexer.Queue.Entry

/-!
# Attempts are counted at the claim

"Give up on a queued refresh after this many failures"
(crates/types/src/config.rs:319-321). The counter moves when the entry is
claimed (crates/store/src/queue.rs:90-92), whatever becomes of the claim. An
outpoint beyond the cap of a refresh is not asked about
(crates/indexer/src/reconcile.rs:121-134), and a follow-up fetch that fails
for one outpoint ends the drain for all of them (reconcile.rs:147): both spend
an attempt without a question.

* `dropped_after_failures`: **as long as no refresh overflows and no drain is
  cut off before its questions are settled, an entry is dropped only after
  `max_attempts` failures of its own.**
-/
namespace RgbppIndexer.Bugs.CountedAtClaim

open RgbppIndexer.Core Queue

/-- Failed questions about the outpoint since its entry was created, one action later. -/
def tally (o : BtcOutPoint) (n : Nat) : Action → Nat
  | .ask o' (.error _) => if o' = o then n + 1 else n
  | .drop dropped => if o.key ∈ dropped then 0 else n
  | .clear o' => if o' = o then 0 else n
  | .complete o' => if o' = o then 0 else n
  | _ => n

/-- How often the data source was asked about the outpoint without answering, since its entry was created. -/
def failures (o : BtcOutPoint) (history : List Action) : Nat := history.foldl (tally o) 0

/-- The claim of an outpoint in this phase has not led to a failure. -/
def claimOpen : Phase → Bool
  | .claimed => true
  | .fresh => true
  | .waiting => true
  | .answered _ => true
  | .recorded => true
  | _ => false

/-- Nothing overflows, and a drain is cut off only when every claim led to a failure. -/
def Settled (s : State) : Action → Prop
  | .overflow outpoints _ => outpoints = []
  | .abort => ∀ o, claimOpen (s.worker.phase o) = false
  | _ => True

/-- The counter of an entry is the number of its failures, and one more while a claim is open. -/
def Counted (n : Nat) (p : Phase) : Option QueueRow → Prop
  | none => p = .out ∧ n = 0
  | some r => r.attempts.toInt = n + if claimOpen p then 1 else 0

section
variable {q : DrainConfig} {cap : Nat} {o : BtcOutPoint} {s s' : State} {a : Action} {history : List Action} {n : Nat}
  {p p' : Phase} {row : Option QueueRow}

theorem failures_snoc : failures o (history ++ [a]) = tally o (failures o history) a := by
  unfold failures
  rw [List.foldl_append]
  rfl

/-- What leaves the counter and the openness of the claim alone. -/
theorem Counted.same {f : QueueRow → QueueRow} (h : Counted n p row) (hp : p = .out → p' = .out)
    (hopen : claimOpen p' = claimOpen p) (hattempts : ∀ r, (f r).attempts = r.attempts) : Counted n p' (row.map f) := by
  cases row with
  | none => exact ⟨hp h.1, h.2⟩
  | some r =>
    show (f r).attempts.toInt = n + if claimOpen p' then 1 else 0
    rw [hattempts, hopen]
    exact h

theorem Counted.same_row (h : Counted n p row) (hp : p = .out → p' = .out) (hopen : claimOpen p' = claimOpen p) :
    Counted n p' row := by
  have hsame := h.same (f := id) hp hopen fun _ => rfl
  rw [Option.map_id] at hsame
  exact hsame

/-- Queueing an outpoint keeps its counter, and starts it at none. -/
theorem Counted.queued {reason : String} {replaceReason : Bool} {priority : Int32} {now : DateTime}
    (h : Counted n p row) : Counted n p (some (Store.queueRow row reason replaceReason priority now)) := by
  cases row with
  | none =>
    obtain ⟨rfl, rfl⟩ := h
    rfl
  | some r => exact h

/-- A failure closes the claim. -/
theorem Counted.fails (h : Counted n .waiting row) : Counted (n + 1) .unanswered row := by
  cases row with
  | none => cases h.1
  | some r =>
    have hcount : r.attempts.toInt = n + 1 := h
    show r.attempts.toInt = ((n + 1 : Nat) : Int) + 0
    omega

theorem toInt_succ {n : Int32} (h : n < 1023) : (n + 1).toInt = n.toInt + 1 := by
  have hlt : n.toInt < 1023 := Int32.lt_iff_toInt_lt.mp h
  have hge := Int32.le_toInt n
  have hone : Int32.toInt 1 = 1 := rfl
  rw [Int32.toInt_add, hone]
  exact Int.bmod_eq_of_le (by omega) (by show n.toInt + 1 < _; omega)

/-- What is not about the outpoint is no failure of its, and does not delete its entry. -/
theorem tally_other (n : Nat) (ha : ¬ a.Concerns o) : tally o n a = n := by
  cases a with
  | drop => exact absurd trivial ha
  | clear o' => exact if_neg (show ¬ o' = o from ha)
  | complete o' => exact if_neg (show ¬ o' = o from ha)
  | ask o' answer =>
    cases answer with
    | ok status => rfl
    | error e => exact if_neg (show ¬ o' = o from ha)
  | _ => rfl

/-- One action of the drain or around it, apart from the two that open a drain. -/
theorem Counted.moves (h : Counted n p row) (hmoves : a.Moves o p p') (hdrop : ∀ dropped, a ≠ .drop dropped)
    (hclaim : ∀ rows batch now, a ≠ .claim rows batch now)
    (hoverflow : ∀ outpoints now, a = .overflow outpoints now → o ∉ outpoints)
    (habort : a = .abort → claimOpen p = false) : Counted (tally o n a) p' (a.onRow q o.key row) := by
  by_cases hconcerns : a.Concerns o
  · cases a with
    | drop dropped => exact absurd rfl (hdrop dropped)
    | claim rows batch now => exact absurd rfl (hclaim rows batch now)
    | read fresh now =>
      rcases hmoves with ⟨rfl, -, rfl⟩ | ⟨rfl, -, rfl⟩ | ⟨rfl, rfl⟩
      · exact h.same_row (by simp) rfl
      · exact h.same_row (by simp) rfl
      · exact h
    | clear o' =>
      obtain rfl : o' = o := hconcerns
      rw [Action.Moves, if_pos rfl] at hmoves
      simp only [tally, Action.onRow, if_true]
      exact ⟨hmoves.2, rfl⟩
    | overflow outpoints now => exact absurd hconcerns (hoverflow outpoints now rfl)
    | ask o' answer =>
      obtain rfl : o' = o := hconcerns
      rw [Action.Moves, if_pos rfl] at hmoves
      obtain ⟨rfl, rfl⟩ := hmoves
      cases answer with
      | ok status => exact h.same_row (by simp) rfl
      | error e =>
        simp only [tally, if_true]
        exact h.fails
    | record o' status source now =>
      obtain rfl : o' = o := hconcerns
      rw [Action.Moves, if_pos rfl] at hmoves
      obtain ⟨rfl, rfl⟩ := hmoves
      exact h.same_row (by simp) rfl
    | requeue o' now =>
      obtain rfl : o' = o := hconcerns
      rw [Action.Moves, if_pos rfl] at hmoves
      obtain ⟨rfl, rfl⟩ := hmoves
      simp only [tally, Action.onRow, if_true]
      exact (h.same_row (by simp) rfl).queued
    | complete o' =>
      obtain rfl : o' = o := hconcerns
      rw [Action.Moves, if_pos rfl] at hmoves
      simp only [tally, Action.onRow, if_true]
      exact ⟨hmoves.2, rfl⟩
    | fail o' =>
      obtain rfl : o' = o := hconcerns
      rw [Action.Moves, if_pos rfl] at hmoves
      obtain ⟨rfl, rfl⟩ := hmoves
      simp only [tally, Action.onRow, if_true]
      exact h.same (by simp) rfl fun _ => rfl
    | abort =>
      rw [show p' = .out from hmoves]
      exact h.same_row (fun _ => rfl) (habort rfl).symm
    | enqueue origin o' reason replaceReason now =>
      obtain rfl : o' = o := hconcerns
      rw [show p' = p from hmoves]
      simp only [tally, Action.onRow, if_true]
      exact h.queued
    | next => cases hconcerns
    | observe => cases hconcerns
    | label => cases hconcerns
    | other => cases hconcerns
  · rw [tally_other n hconcerns, Action.onRow_other row hconcerns, hmoves.other hconcerns]
    exact h

/-- A drop starts the count over for what it deletes. -/
theorem Counted.drop {dropped : List OutpointKey} (hstep : Queue.step q cap s (.drop dropped) = some s')
    (h : Counted n (s.worker.phase o) (s.store.btcRefreshQueue.get? o.key)) :
    Counted (tally o n (.drop dropped)) (s'.worker.phase o) (s'.store.btcRefreshQueue.get? o.key) := by
  obtain ⟨hadvance, -⟩ := step_eq_some.mp hstep
  obtain ⟨hw, rfl, hw'⟩ := advance_drop hadvance
  rw [step_row hstep, hw']
  rw [hw] at h
  show Counted _ .out (Option.filter _ _)
  have hidle : Counted n .out (s.store.btcRefreshQueue.get? o.key) := h
  simp only [tally, Store.mem_dropExhaustedRefreshes]
  cases hrow : s.store.btcRefreshQueue.get? o.key with
  | none =>
    rw [hrow] at hidle
    rw [if_neg (by simp), Option.filter_none]
    exact hidle
  | some r =>
    rw [hrow] at hidle
    by_cases hmax : q.maxAttempts ≤ r.attempts
    · have hnot : ¬ r.attempts < q.maxAttempts := Int32.not_lt.mpr hmax
      rw [if_pos ⟨r, rfl, hmax⟩, Option.filter_some_neg (by simpa using hnot)]
      exact ⟨rfl, rfl⟩
    · have hlt : r.attempts < q.maxAttempts := Int32.not_le.mp hmax
      rw [if_neg (by simp [hmax]), Option.filter_some_pos (by simpa using hlt)]
      exact hidle

/-- A claim counts one attempt, which is open. -/
theorem Counted.claim {rows : ClaimOrder} {batch : List OutpointKey} {now : DateTime} (hkeys : KeysReadable s.store)
    (hstep : Queue.step q cap s (.claim rows batch now) = some s')
    (h : Counted n (s.worker.phase o) (s.store.btcRefreshQueue.get? o.key)) :
    Counted n (s'.worker.phase o) (s'.store.btcRefreshQueue.get? o.key) := by
  obtain ⟨hadvance, -⟩ := step_eq_some.mp hstep
  obtain ⟨hw, -⟩ := advance_claim hadvance
  have hclaim := step_claim hkeys hstep o
  rw [step_row hstep]
  rw [hw] at h
  simp only [Action.onRow]
  by_cases ho : o.key ∈ batch
  · rw [if_pos ho] at hclaim ⊢
    obtain ⟨hp', r, hr, hfew⟩ := hclaim
    rw [hr] at h ⊢
    rw [hp']
    have hcount : r.attempts.toInt = n + 0 := h
    show (r.attempts + 1).toInt = (n : Int) + 1
    rw [toInt_succ hfew, hcount, Int.add_zero]
  · rw [if_neg ho] at hclaim ⊢
    rw [hclaim]
    exact h

/-- One step, for one outpoint. -/
theorem Counted.step (hvalid : s.worker.Valid) (hkeys : KeysReadable s.store) (hstep : Queue.step q cap s a = some s')
    (hsettled : Settled s a) (h : Counted n (s.worker.phase o) (s.store.btcRefreshQueue.get? o.key)) :
    Counted (tally o n a) (s'.worker.phase o) (s'.store.btcRefreshQueue.get? o.key) := by
  by_cases hdrop : ∃ dropped, a = .drop dropped
  · obtain ⟨dropped, rfl⟩ := hdrop
    exact h.drop hstep
  by_cases hclaim : ∃ rows batch now, a = .claim rows batch now
  · obtain ⟨rows, batch, now, rfl⟩ := hclaim
    exact h.claim hkeys hstep
  rw [step_row hstep]
  refine h.moves (step_phase hvalid hstep o) (fun dropped ha => hdrop ⟨dropped, ha⟩)
    (fun rows batch now ha => hclaim ⟨rows, batch, now, ha⟩) ?_ ?_
  · rintro outpoints now rfl
    rw [show outpoints = [] from hsettled]
    exact List.not_mem_nil
  · rintro rfl
    exact hsettled o

theorem counted_of_run (hrun : ((queue q cap).restrict Settled).Run ⟨.empty, .idle⟩ history s) (o : BtcOutPoint) :
    Counted (failures o history) (s.worker.phase o) (s.store.btcRefreshQueue.get? o.key) := by
  have hinit : Worker.idle.Valid ∧ KeysReadable .empty ∧ Counted 0 (Worker.idle.phase o) none :=
    ⟨trivial, keysReadable_empty, rfl, rfl⟩
  have hall := hrun.keeps_history (I := fun ls t => t.worker.Valid ∧ KeysReadable t.store ∧
    Counted (failures o ls) (t.worker.phase o) (t.store.btcRefreshQueue.get? o.key)) ?_ hinit
  · exact hall.2.2
  · intro ls t a t' ht hstep
    obtain ⟨hstep, hsettled⟩ := hstep
    obtain ⟨hvalid, hkeys, hcounted⟩ := ht
    rw [failures_snoc]
    exact ⟨step_valid hvalid hstep, hkeys.step hstep, hcounted.step hvalid hkeys hstep hsettled⟩

/-- **The runs in which an entry is dropped only after `max_attempts` failures of its own.** -/
theorem dropped_after_failures {dropped : List OutpointKey}
    (hrun : ((queue q cap).restrict Settled).Run ⟨.empty, .idle⟩ history s)
    (hdrop : step q cap s (.drop dropped) = some s') (ho : o.key ∈ dropped) :
    q.maxAttempts.toInt ≤ failures o history := by
  have hcounted := counted_of_run hrun o
  obtain ⟨hadvance, -⟩ := step_eq_some.mp hdrop
  obtain ⟨hw, rfl, -⟩ := advance_drop hadvance
  obtain ⟨r, hr, hmax⟩ := Store.mem_dropExhaustedRefreshes.mp ho
  rw [hr, hw] at hcounted
  have hcount : r.attempts.toInt = failures o history + 0 := hcounted
  have hle := Int32.le_iff_toInt_le.mp hmax
  omega

end

/-! ## The counterexample -/

section

def q : DrainConfig := { queueBatchSize := 100, maxAttempts := 1, observationTtlSecs := 60 }

def first : BtcOutPoint := ⟨.placeholder, 0⟩

def second : BtcOutPoint := ⟨.placeholder, 1⟩

/-- A refresh asks about one outpoint at a time, and two are claimed. The data source answers every question. -/
def cappedOut : List Action :=
  [.enqueue .application first "api-request" false 0, .enqueue .application second "api-request" false 0, .drop [],
    .claim .storage [first.key, second.key] 0, .read [] 0, .overflow [second] 0, .ask first (.ok .unspent), .next,
    .record first .unspent "esplora" 0, .next, .complete first, .fail second, .next]

/-- **The second outpoint is dropped without a question.** -/
theorem dropped_unasked : ∃ s s', (queue q 1).Run ⟨.empty, .idle⟩ cappedOut s ∧
    step q 1 s (.drop [second.key]) = some s' ∧ ¬ q.maxAttempts.toInt ≤ failures second cappedOut := by
  have hsome : (perform q 1 ⟨.empty, .idle⟩ (cappedOut ++ [.drop [second.key]])).isSome = true := by decide +kernel
  obtain ⟨s', hs'⟩ := Option.isSome_iff_exists.mp hsome
  obtain ⟨s, hrun, hdrop⟩ := (run_of_perform hs').split
  exact ⟨s, s', hrun, hdrop.single_inv, by decide⟩

/-- The data source does not answer. -/
def unanswered : List Action :=
  [.enqueue .application first "api-request" false 0, .drop [], .claim .storage [first.key] 0, .read [] 0,
    .overflow [] 0, .ask first (.error (.transport "timeout")), .next, .requeue first 0, .next, .fail first, .next]

theorem dropped_after_failures_unanswered : ∃ s s', step q 1 s (.drop [first.key]) = some s' ∧
    q.maxAttempts.toInt ≤ failures first unanswered := by
  have hsome : (perform q 1 ⟨.empty, .idle⟩ (unanswered ++ [.drop [first.key]])).isSome = true := by decide +kernel
  obtain ⟨s', hs'⟩ := Option.isSome_iff_exists.mp hsome
  obtain ⟨s, hrun, hdrop⟩ := (run_of_perform hs').split
  have hsettled : ((queue q 1).restrict Settled).Run ⟨.empty, .idle⟩ unanswered s := by
    refine hrun.restrict_of_forall fun a ha u => ?_
    simp only [unanswered, List.mem_cons, List.not_mem_nil, or_false] at ha
    rcases ha with rfl | rfl | rfl | rfl | rfl | rfl | rfl | rfl | rfl | rfl | rfl <;> trivial
  exact ⟨s, s', hdrop.single_inv,
    dropped_after_failures hsettled hdrop.single_inv (List.mem_singleton.mpr rfl)⟩

end
end RgbppIndexer.Bugs.CountedAtClaim
