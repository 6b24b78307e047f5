import RgbppIndexer.Api.Outpoints
import RgbppIndexer.Indexer.Refresh

/-!
# An outpoint that is listed twice cannot be queued

Queueing one outpoint is an upsert: "re-queuing at a higher urgency promotes the
existing entry" (crates/store/src/queue.rs:24-48). `enqueue_refresh_many` runs
the same upsert over a list, in one statement (queue.rs:50-75), and the server
refuses to update a row twice in one statement. Its callers pass on what they
were given: the asynchronous refresh request (crates/api/src/handlers.rs:416-433)
and the overflow of a synchronous one (crates/indexer/src/reconcile.rs:117-130).
`observe_many`, which answers a synchronous request, takes each outpoint once.

* `schedule_foldl`: what the upserts of distinct outpoints leave, one by one.
* `refines_iff`: the list is queued like its elements one by one exactly if they
  are distinct.
* `queueing_iff`: **and this decides which lists the asynchronous request and the
  overflow take, where the synchronous path takes them all.**

Counterexample: a request with the same outpoint twice is answered when it is
synchronous, and is an internal error when it is not (`repeated_is_refused`).

Fix: select the distinct pairs of the list in the insert.
-/
namespace RgbppIndexer.Bugs.RepeatedOutpoint

open RgbppIndexer.Core

/-- When an outpoint is due, and after how many attempts. -/
def schedule (st : Store) (key : OutpointKey) : Option (Int32 × Int32 × DateTime) :=
  (st.btcRefreshQueue.get? key).map fun r => (r.priority, r.attempts, r.nextAttemptAt)

/-- The elements of a list queued one by one, in one transaction. -/
def oneByOne (st : Store) (outpoints : List OutpointKey) (reason : String) (priority : Int32) (now : DateTime) : Store :=
  outpoints.foldl (fun st key => st.enqueueRefresh key reason priority now) st

/-- Queueing the list succeeds, and leaves what queueing its elements leaves. -/
def Refines (st : Store) (outpoints : List OutpointKey) (reason : String) (priority : Int32) (now : DateTime) : Prop :=
  ∃ st' n, st.enqueueRefreshMany outpoints reason priority now = .ok (st', n) ∧
    ∀ key, schedule st' key = schedule (oneByOne st outpoints reason priority now) key

/-- A synchronous request for this list may be answered. -/
def SynchronousAccepts (texts : ErrorTexts) (outpoints : List String) : Prop :=
  ∃ r moment st response, (refreshOutpoints texts r moment st ⟨outpoints, true⟩).2 = .ok response

/-- An asynchronous request for this list is answered. -/
def AsynchronousAccepts (texts : ErrorTexts) (outpoints : List String) : Prop :=
  ∀ r moment st, ∃ response, (refreshOutpoints texts r moment st ⟨outpoints, false⟩).2 = .ok response

/-! ## The statement -/

section
variable {st : Store} {outpoints : List OutpointKey} {reason : String} {priority : Int32} {now : DateTime}

theorem btcRefreshQueue_oneByOne (st : Store) (outpoints : List OutpointKey) (reason : String) (priority : Int32)
    (now : DateTime) : (oneByOne st outpoints reason priority now).btcRefreshQueue =
      outpoints.foldl (fun t key => t.upsert key fun old => Store.queueRow old reason true priority now)
        st.btcRefreshQueue := by
  unfold oneByOne
  induction outpoints generalizing st with
  | nil => rfl
  | cons key outpoints ih => rw [List.foldl_cons, List.foldl_cons, ih, Store.enqueueRefresh]

/-- The schedule of an entry, after it is queued. -/
def rescheduled (old : Option (Int32 × Int32 × DateTime)) (priority : Int32) (now : DateTime) : Int32 × Int32 × DateTime :=
  match old with
  | some (p, attempts, due) => (if priority < p then priority else p, attempts, min due now)
  | none => (priority, 0, now)

/-- The reason has no part in it. -/
theorem rescheduled_queueRow (old : Option QueueRow) (reason : String) (replaceReason : Bool) (priority : Int32)
    (now : DateTime) :
    ((Store.queueRow old reason replaceReason priority now).priority,
      (Store.queueRow old reason replaceReason priority now).attempts,
      (Store.queueRow old reason replaceReason priority now).nextAttemptAt) =
      rescheduled (old.map fun r => (r.priority, r.attempts, r.nextAttemptAt)) priority now := by
  cases old with
  | none => rfl
  | some r => rfl

/-- Distinct outpoints, queued one by one. -/
theorem schedule_foldl (hnodup : outpoints.Nodup) (key : OutpointKey) :
    schedule (oneByOne st outpoints reason priority now) key =
      if key ∈ outpoints then some (rescheduled (schedule st key) priority now) else schedule st key := by
  unfold schedule
  rw [btcRefreshQueue_oneByOne, Table.get?_foldl_upsert _ hnodup]
  by_cases hmem : key ∈ outpoints
  · rw [if_pos hmem, if_pos hmem, Option.map_some, rescheduled_queueRow]
  · rw [if_neg hmem, if_neg hmem]

/-- Outpoints that can be queued at once. -/
theorem schedule_enqueueRefreshMany {st' : Store} {n : Nat}
    (h : st.enqueueRefreshMany outpoints reason priority now = .ok (st', n)) (key : OutpointKey) :
    schedule st' key =
      if key ∈ outpoints then some (rescheduled (schedule st key) priority now) else schedule st key := by
  unfold schedule
  rw [(Store.get?_enqueueRefreshMany h).2]
  by_cases hmem : key ∈ outpoints
  · rw [if_pos hmem, if_pos hmem, Option.map_some, rescheduled_queueRow]
  · rw [if_neg hmem, if_neg hmem]

variable (st outpoints reason priority now) in
theorem refines_iff : Refines st outpoints reason priority now ↔ outpoints.Nodup := by
  constructor
  · rintro ⟨st', n, henq, -⟩
    exact Store.enqueueRefreshMany_ok_iff.mp ⟨_, henq⟩
  · intro hnodup
    obtain ⟨⟨st', n⟩, henq⟩ := Store.enqueueRefreshMany_ok_iff.mpr hnodup
    refine ⟨st', n, henq, fun key => ?_⟩
    rw [schedule_enqueueRefreshMany henq, schedule_foldl hnodup]

end

/-! ## The two requests -/

section
variable {texts : ErrorTexts} {outpoints : List String} {parsed : List BtcOutPoint}

/-- A reconciler that asks about `n` outpoints, and whose data source answers every question. -/
def patient (n : Nat) : Reconciler where
  config := { Config.testnet 64 with maxOutpointsPerRequest := n }
  btc :=
    { name := "esplora"
      moment := fun _ =>
        { transaction := fun _ => .ok none
          outpointStatus := fun _ => .ok .unspent
          txOutspends := fun _ => .ok none
          addressUtxos := fun _ => .ok [] } }
  completion := .inOrder
  now := 0

/-- It takes any list of up to `n` outpoints, whatever is in it. -/
theorem patient_ok (moment : Nat) (st : Store) (parsed : List BtcOutPoint) :
    ∃ out, ((patient parsed.length).refreshOutpoints moment st parsed).result = .ok out := by
  refine Reconciler.refreshOutpoints_ok_of_overflow moment st (fun m => ⟨fun _ => ⟨_, rfl⟩, fun _ => ⟨_, rfl⟩⟩) ?_
  have hnone : (patient parsed.length).overflow parsed = [] := List.drop_eq_nil_of_le (Nat.le_refl _)
  rw [hnone]
  exact List.nodup_nil

/-- The list has no part in whether a synchronous request is answered. -/
theorem synchronousAccepts_iff :
    SynchronousAccepts texts outpoints ↔ ∃ parsed, outpoints.mapM (parseOutpoint texts) = .ok parsed := by
  constructor
  · rintro ⟨r, moment, st, response, h⟩
    unfold refreshOutpoints at h
    cases hparse : outpoints.mapM (parseOutpoint texts) with
    | error e =>
      rw [hparse] at h
      cases h
    | ok parsed => exact ⟨parsed, rfl⟩
  · rintro ⟨parsed, hparse⟩
    obtain ⟨out, hout⟩ := patient_ok 0 .empty parsed
    refine ⟨patient parsed.length, 0, .empty,
      { requested := parsed.length, refreshed := out.map OutpointRefreshDto.of, queued := 0 }, ?_⟩
    unfold refreshOutpoints
    simp only [hparse, if_true, hout]

theorem asynchronousAccepts_iff :
    AsynchronousAccepts texts outpoints ↔ ∃ parsed, outpoints.mapM (parseOutpoint texts) = .ok parsed ∧ parsed.Nodup := by
  have hqueue : ∀ (r : Reconciler) (st : Store) (parsed : List BtcOutPoint),
      (∃ done, st.enqueueRefreshMany (parsed.map BtcOutPoint.key) "api-request" ON_DEMAND r.now = .ok done) ↔ parsed.Nodup := by
    intro r st parsed
    rw [Store.enqueueRefreshMany_ok_iff, List.nodup_map_iff BtcOutPoint.key_injective]
  unfold AsynchronousAccepts refreshOutpoints
  cases hparse : outpoints.mapM (parseOutpoint texts) with
  | error e =>
    constructor
    · intro h
      obtain ⟨response, h⟩ := h (patient 0) 0 .empty
      cases h
    · rintro ⟨parsed, h, -⟩
      cases h
  | ok parsed =>
    simp only [Bool.false_eq_true, if_false, Except.ok.injEq, exists_eq_left']
    constructor
    · intro h
      obtain ⟨response, h⟩ := h (patient 0) 0 .empty
      rw [← hqueue (patient 0) .empty]
      split at h
      · cases h
      · next st n henq => exact ⟨(st, n), henq⟩
    · intro hnodup r moment st
      obtain ⟨done, henq⟩ := (hqueue r st parsed).mpr hnodup
      exact ⟨_, by rw [henq]⟩

end

/-- **A list is queued like its elements one by one exactly if they are distinct. So an asynchronous request takes what
a synchronous one takes exactly if no outpoint is in it twice, and the overflow of a synchronous one is queued exactly
if no outpoint is in the overflow twice.** -/
theorem queueing_iff (st : Store) (keys : List OutpointKey) (reason : String) (priority : Int32) (now : DateTime)
    (texts : ErrorTexts) (requested : List String) (r : Reconciler) (moment : Nat) (outpoints : List BtcOutPoint) :
    (Refines st keys reason priority now ↔ keys.Nodup) ∧
    ((SynchronousAccepts texts requested → AsynchronousAccepts texts requested) ↔
      ∀ parsed, requested.mapM (parseOutpoint texts) = .ok parsed → parsed.Nodup) ∧
    ((∀ e, (r.refreshOutpoints moment st outpoints).result ≠ .error (.store e)) ↔ (r.overflow outpoints).Nodup) := by
  refine ⟨refines_iff st keys reason priority now, ?_, ?_⟩
  · rw [synchronousAccepts_iff, asynchronousAccepts_iff]
    constructor
    · intro h parsed hparse
      obtain ⟨parsed', hparse', hnodup⟩ := h ⟨parsed, hparse⟩
      rw [hparse] at hparse'
      rwa [Except.ok.inj hparse']
    · rintro h ⟨parsed, hparse⟩
      exact ⟨parsed, hparse, h parsed hparse⟩
  · rw [← not_iff_not, ← Reconciler.refreshOutpoints_store_error_iff r moment st outpoints]
    simp only [ne_eq, not_forall, not_not]

/-! ## The same outpoint twice -/

def plainTexts : ErrorTexts := ⟨fun _ => "invalid", fun _ => "indexer", fun _ => "database", fun _ => "esplora"⟩

def outpoint : BtcOutPoint := ⟨⟨.filled 32 0x11⟩, 0⟩

def outpointText : String := "1111111111111111111111111111111111111111111111111111111111111111:0"

/-- **Counterexample**: one by one the outpoint is queued twice and stays one entry; the list is refused. The
synchronous request is answered, the asynchronous one is not. -/
theorem repeated_is_refused :
    schedule (oneByOne .empty [outpoint.key, outpoint.key] "api-request" ON_DEMAND 0) outpoint.key =
      some (ON_DEMAND, 0, 0) ∧
    ¬ Refines .empty [outpoint.key, outpoint.key] "api-request" ON_DEMAND 0 ∧
    SynchronousAccepts plainTexts [outpointText, outpointText] ∧
    ¬ AsynchronousAccepts plainTexts [outpointText, outpointText] := by
  have hparse : [outpointText, outpointText].mapM (parseOutpoint plainTexts) = .ok [outpoint, outpoint] := rfl
  have hkeys : ¬ [outpoint.key, outpoint.key].Nodup := by decide
  have houtpoints : ¬ [outpoint, outpoint].Nodup := by decide
  refine ⟨by decide, ?_, synchronousAccepts_iff.mpr ⟨_, hparse⟩, ?_⟩
  · rw [refines_iff]
    exact hkeys
  · rw [asynchronousAccepts_iff]
    rintro ⟨parsed, hparse', hnodup⟩
    rw [hparse] at hparse'
    rw [← Except.ok.inj hparse'] at hnodup
    exact houtpoints hnodup

end RgbppIndexer.Bugs.RepeatedOutpoint
