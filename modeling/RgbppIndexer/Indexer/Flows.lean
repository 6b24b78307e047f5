import RgbppIndexer.Core.Lts
import RgbppIndexer.Indexer.Refresh

/-!
# Refresh flows on one outpoint

API calls, the queue worker, the sweeper and the address diff all refresh
outpoints, concurrently and without a lock: a flow asks the data source,
waits for the answer, and writes it. `flows o` is that system seen from one
outpoint: any number of flows, any order of questions and writes, and between
them whatever else flows write, as long as it leaves the row of `o` alone up
to labels.

* `refreshOutpoints_is_flow`: a call of `refresh_outpoints` is such a flow for
  every outpoint it records.
-/
namespace RgbppIndexer

open RgbppIndexer.Core

namespace Flows

/-- The database, and the answers that are waiting to be written. -/
structure World where
  store : Store
  waiting : List (Nat × OutpointSpendStatus)

/-- What happens at one outpoint; flows are numbered. -/
inductive Event where
  | ask (flow : Nat) (answer : OutpointSpendStatus)
  | write (flow : Nat) (answer : OutpointSpendStatus)
  | other
  deriving DecidableEq, Repr

/-- The flows that refresh `o`. What the data source answers is free: it reflects the outpoint at that moment. -/
def flows (o : BtcOutPoint) : Lts World Event where
  init w := w.waiting = []
  step w event w' :=
    match event with
    | .ask flow answer =>
      flow ∉ w.waiting.map Prod.fst ∧ w' = { w with waiting := w.waiting ++ [(flow, answer)] }
    | .write flow answer =>
      (flow, answer) ∈ w.waiting ∧ ∃ r : Reconciler,
        w' = { store := (r.recordObservation w.store o answer none).1, waiting := w.waiting.erase (flow, answer) }
    | .other =>
      w'.waiting = w.waiting ∧ Store.LabelledRow (w.store.btcOutpoints.get? o.key) (w'.store.btcOutpoints.get? o.key)

/-- The answer of the most recent question. -/
def lastAsked (events : List Event) : Option OutpointSpendStatus :=
  (events.filterMap fun
    | .ask _ answer => some answer
    | _ => none).getLast?

/-- The answer of the most recent write. -/
def lastWritten (events : List Event) : Option OutpointSpendStatus :=
  (events.filterMap fun
    | .write _ answer => some answer
    | _ => none).getLast?

/-- The row of `o` holds this answer. -/
def Holds (o : BtcOutPoint) (answer : OutpointSpendStatus) (st : Store) : Prop :=
  ∃ row, st.btcOutpoints.get? o.key = some row ∧ row.status = answer.column ∧
    row.spenderTxid = answer.spender.map BtcTxid.toDisplayVec ∧
    row.spentHeight = answer.height.map UInt32.toInt32

variable {o : BtcOutPoint}

theorem Holds.unique {a b : OutpointSpendStatus} {st : Store} (ha : Holds o a st) (hb : Holds o b st) : a = b := by
  obtain ⟨row, hrow, hstatus, hspender, hheight⟩ := ha
  obtain ⟨row', hrow', hstatus', hspender', hheight'⟩ := hb
  rw [hrow] at hrow'
  simp only [Option.some.injEq] at hrow'
  subst hrow'
  rw [hstatus] at hstatus'
  rw [hspender] at hspender'
  rw [hheight] at hheight'
  have hheights : ∀ m n : UInt32, m.toInt32 = n.toInt32 → m = n := by
    intro m n h
    have h' := congrArg Int32.toUInt32 h
    simpa using h'
  cases a <;> cases b <;>
    simp_all [OutpointSpendStatus.column, OutpointSpendStatus.spender, OutpointSpendStatus.height]
  exact hheights _ _ hheight'

theorem holds_recordObservation (r : Reconciler) (st : Store) (answer : OutpointSpendStatus) :
    Holds o answer (r.recordObservation st o answer none).1 := by
  unfold Reconciler.recordObservation Holds
  refine ⟨Store.observationRow (st.btcOutpoints.get? o.key) answer none r.btc.name r.now, ?_, rfl, rfl, rfl⟩
  rw [Store.get?_upsertObservation, if_pos rfl]

theorem Holds.labelled {answer : OutpointSpendStatus} {st st' : Store} (h : Holds o answer st)
    (hl : Store.LabelledRow (st.btcOutpoints.get? o.key) (st'.btcOutpoints.get? o.key)) : Holds o answer st' := by
  obtain ⟨row, hrow, hstatus, hspender, hheight⟩ := h
  rw [hrow] at hl
  obtain ⟨address, hrow'⟩ := hl
  exact ⟨_, hrow', hstatus, hspender, hheight⟩

theorem lastAsked_snoc (events : List Event) (event : Event) :
    lastAsked (events ++ [event]) =
      match event with
      | .ask _ answer => some answer
      | _ => lastAsked events := by
  cases event <;> simp [lastAsked, List.filterMap_append]

theorem lastWritten_snoc (events : List Event) (event : Event) :
    lastWritten (events ++ [event]) =
      match event with
      | .write _ answer => some answer
      | _ => lastWritten events := by
  cases event <;> simp [lastWritten, List.filterMap_append]

/-- **The last write wins**: the row holds the answer of the most recent write. -/
theorem holds_lastWritten {w w' : World} {events : List Event} (hrun : (flows o).Run w events w')
    {answer : OutpointSpendStatus} (h : lastWritten events = some answer) : Holds o answer w'.store := by
  have hinv := Lts.Run.keeps_history (I := fun events w => ∀ a, lastWritten events = some a → Holds o a w.store)
    (fun events w event w' ih hstep a ha => by
      rw [lastWritten_snoc] at ha
      cases event with
      | ask flow b =>
        obtain ⟨-, rfl⟩ := hstep
        exact ih a ha
      | write flow b =>
        obtain ⟨-, r, rfl⟩ := hstep
        simp only [Option.some.injEq] at ha
        subst ha
        exact holds_recordObservation r w.store b
      | other => exact (ih a ha).labelled hstep.2)
    hrun (fun a ha => by simp [lastWritten] at ha)
  exact hinv answer h

/-- Once every flow has written, a question means a write. -/
theorem exists_lastWritten {w w' : World} {events : List Event} (hrun : (flows o).Run w events w')
    (hdone : w'.waiting = []) {answer : OutpointSpendStatus} (h : lastAsked events = some answer) :
    ∃ b, lastWritten events = some b := by
  have hinv := Lts.Run.keeps_history
    (I := fun events w => (lastAsked events).isSome = true → w.waiting ≠ [] ∨ (lastWritten events).isSome = true)
    (fun events w event w' ih hstep hasked => by
      rw [lastAsked_snoc] at hasked
      rw [lastWritten_snoc]
      cases event with
      | ask flow b =>
        obtain ⟨-, rfl⟩ := hstep
        left
        simp
      | write flow b => right; rfl
      | other =>
        rw [hstep.1]
        exact ih hasked)
    hrun (fun hasked => by simp [lastAsked] at hasked)
  rcases hinv (by rw [h]; rfl) with hwaiting | hwritten
  · exact absurd hdone hwaiting
  · exact Option.isSome_iff_exists.mp hwritten

/-! ## A refresh is a flow for each of its outpoints -/

theorem untouched_afterPasses (r : Reconciler) (moment : Nat) (pass : RefreshPass) {answers : List Observed}
    (hnew : o ∉ answers.map Prod.fst) :
    Store.LabelledRow (pass.store.btcOutpoints.get? o.key)
      ((afterPasses r.refreshStep moment pass answers).store.btcOutpoints.get? o.key) := by
  have hkeeps := afterPasses_keeps (f := r.refreshStep) (n := moment) (s := pass)
    (P := fun done pass' => o ∉ done.map Prod.fst →
      Store.LabelledRow (pass.store.btcOutpoints.get? o.key) (pass'.store.btcOutpoints.get? o.key))
    (fun done answer pass' ih hn => by
      simp only [List.map_append, List.mem_append, List.map_cons, List.map_nil, List.mem_singleton, not_or] at hn
      exact (ih hn.1).trans (Reconciler.refreshStep_untouched hn.2))
    (fun _ => Store.LabelledRow.refl _) answers
  exact hkeeps hnew

theorem refreshOutpoints_is_flow {r : Reconciler} {moment : Nat} {st : Store} {outpoints : List BtcOutPoint}
    (h : ∀ e, (r.refreshOutpoints moment st outpoints).result ≠ .error (.store e))
    (hobs : o ∈ (r.refreshOutpoints moment st outpoints).observed) (flow : Nat) :
    ∃ answer, (o, .ok answer) ∈ r.answers moment outpoints ∧
      (flows o).Run ⟨st, []⟩ [.ask flow answer, .other, .write flow answer, .other]
        ⟨(r.refreshOutpoints moment st outpoints).store, []⟩ := by
  obtain ⟨queued, -, hrows, hstore, hobserved⟩ := Reconciler.refreshOutpoints_started h
  rw [hobserved] at hobs
  rw [hstore]
  obtain ⟨done, rest, hsplit, hloop⟩ : ∃ done rest, r.answers moment outpoints = done ++ rest ∧
      (r.refreshLoop moment queued outpoints).1 =
        afterPasses r.refreshStep (moment + 1) { store := queued, out := [], observed := [] } done := by
    unfold Reconciler.refreshLoop
    rcases forEach_cases r.refreshStep (moment + 1) { store := queued, out := [], observed := [] }
      (r.answers moment outpoints) with ⟨hrun, -⟩ | ⟨pre, x, post, e, hsplit, -, hrun, -⟩
    · exact ⟨r.answers moment outpoints, [], by simp, by rw [hrun]⟩
    · exact ⟨pre ++ [x], post, by rw [hsplit]; simp, by rw [hrun]⟩
  have hnodup := Reconciler.answers_nodup r moment outpoints
  rw [hsplit, List.map_append, List.nodup_append] at hnodup
  rw [hloop] at hobs ⊢
  obtain ⟨answer, hmem⟩ := ((Reconciler.processed_afterPasses hnodup.1 (moment + 1) queued []).observed o).mp hobs
  refine ⟨answer, by rw [hsplit]; exact List.mem_append_left _ hmem, ?_⟩
  obtain ⟨before, after, rfl⟩ := List.append_of_mem hmem
  have hn := hnodup.1
  rw [List.map_append, List.map_cons, List.nodup_append, List.nodup_cons] at hn
  have hbefore : o ∉ before.map Prod.fst := fun hm => hn.2.2 o hm o (by simp) rfl
  rw [afterPasses_append, afterPasses]
  generalize hmid : afterPasses r.refreshStep (moment + 1) { store := queued, out := [], observed := [] } before = mid
  obtain ⟨hlabels, -⟩ := Reconciler.refreshStep_of_ok r (moment + 1 + before.length) mid (o, .ok answer) rfl
  refine Lts.Run.cons (t := ⟨st, [(flow, answer)]⟩) ⟨by simp, rfl⟩ <|
    Lts.Run.cons (t := ⟨mid.store, [(flow, answer)]⟩) ⟨rfl, ?_⟩ <|
    Lts.Run.cons (t := ⟨(r.recordObservation mid.store o answer none).1, []⟩) ⟨by simp, r, by simp⟩ <|
    Lts.Run.single ⟨rfl, ?_⟩
  · rw [← hrows, ← hmid]
    exact untouched_afterPasses r (moment + 1) { store := queued, out := [], observed := [] } hbefore
  · exact (hlabels.outpoints o.key).trans (untouched_afterPasses _ _ _ hn.2.1.1)

end Flows
end RgbppIndexer
