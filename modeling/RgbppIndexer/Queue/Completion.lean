import RgbppIndexer.Queue.History

/-!
# What deletes an entry

`complete_refresh` runs in two places of a drain
(crates/indexer/src/reconcile.rs:490-497, 512-517): for an outpoint whose
observation was read as fresh, and for one whose answer was just written.

* `completed_after_answer`: **an entry is deleted only in the drain that
  claimed it, after an answer or a fresh observation.**
* `cleared_unasked`: the second kind deletes a request nobody asked the data
  source about.
-/
namespace RgbppIndexer.Queue

open RgbppIndexer.Core

/-- After the claim the drain read an observation of the outpoint that is not invalidated and younger than the TTL. -/
def FreshRead (q : DrainConfig) (cap : Nat) (o : BtcOutPoint) (history : List Action) : Prop :=
  ∃ past fresh now later s row, history = past ++ .read fresh now :: later ∧ Claimed o past ∧ o ∈ fresh ∧
    (∀ b ∈ later, b.InDrain) ∧ (queue q cap).Run ⟨.empty, .idle⟩ past s ∧
    s.store.btcOutpoints.get? o.key = some row ∧ row.isFresh q.observationTtlSecs.toInt64 now = true

section
variable {q : DrainConfig} {cap : Nat} {o : BtcOutPoint} {s s' : State} {history : List Action}

/-- What the worker takes for fresh was fresh when it was read. -/
theorem read_fresh {fresh : List BtcOutPoint} {now : DateTime} (h : step q cap s (.read fresh now) = some s')
    (ho : o ∈ fresh) : ∃ row, s.store.btcOutpoints.get? o.key = some row ∧
      row.isFresh q.observationTtlSecs.toInt64 now = true := by
  obtain ⟨hadvance, -⟩ := step_eq_some.mp h
  obtain ⟨batch, found, -, hfound, hperm, -⟩ := advance_read hadvance
  exact ((alreadyFresh_eq_ok hfound).2 o (hperm.mem_iff.mp ho)).2

theorem freshRead_of_foundFresh (hrun : (queue q cap).Run ⟨.empty, .idle⟩ history s) (h : FoundFresh o history) :
    FreshRead q cap o history := by
  obtain ⟨past, a, later, rfl, hclaimed, ⟨fresh, now, rfl, ho⟩, hlater⟩ := h
  obtain ⟨t, hpast, hrest⟩ := hrun.split
  obtain ⟨t', hread, -⟩ := hrest.cons_inv
  obtain ⟨row, hrow, hfresh⟩ := read_fresh hread ho
  exact ⟨past, fresh, now, later, t, row, rfl, hclaimed, ho, hlater, hpast, hrow, hfresh⟩

theorem foundFresh_of_clear (hrun : (queue q cap).Run ⟨.empty, .idle⟩ history s)
    (hstep : step q cap s (.clear o) = some s') : FoundFresh o history := by
  obtain ⟨hvalid, hstory⟩ := story_of_run hrun o
  have hmoves := step_phase hvalid hstep o
  rw [Action.Moves, if_pos rfl] at hmoves
  rw [hmoves.1] at hstory
  exact hstory

theorem recorded_of_complete (hrun : (queue q cap).Run ⟨.empty, .idle⟩ history s)
    (hstep : step q cap s (.complete o) = some s') : ∃ status, Recorded o status history := by
  obtain ⟨hvalid, hstory⟩ := story_of_run hrun o
  have hmoves := step_phase hvalid hstep o
  rw [Action.Moves, if_pos rfl] at hmoves
  rw [hmoves.1] at hstory
  exact hstory

/-- **An entry is deleted only after an answer of the drain that claimed it, or a fresh observation.** -/
theorem completed_after_answer (hrun : (queue q cap).Run ⟨.empty, .idle⟩ history s) (o : BtcOutPoint) :
    (∀ s', step q cap s (.complete o) = some s' → ∃ status, Recorded o status history) ∧
      ∀ s', step q cap s (.clear o) = some s' → FreshRead q cap o history :=
  ⟨fun _ hstep => recorded_of_complete hrun hstep,
    fun _ hstep => freshRead_of_foundFresh hrun (foundFresh_of_clear hrun hstep)⟩

end

/-! ## An entry that is cleared without a question -/

/-- The data source is asked about the outpoint: by the worker, or by another flow that writes the answer. -/
def Action.Questions (o : BtcOutPoint) : Action → Prop
  | .ask o' _ => o' = o
  | .observe key _ _ _ _ => key = o.key
  | _ => False

/-- The data source was asked about the outpoint after the latest request for it. -/
def AskedSinceRequest (o : BtcOutPoint) : List Action → Prop :=
  After (fun _ => True) (Action.Questions o) fun b => ∀ origin, ¬ b.Requests origin o.key

section

def observed : BtcOutPoint := ⟨.placeholder, 0⟩

/-- After another flow's answer an application asks for the outpoint, and the worker claims it. -/
def requestAfterAnswer : List Action :=
  [.enqueue .application observed "api-request" false 30000, .drop [], .claim .storage [observed.key] 30000,
    .read [observed] 30000]

def observedEarlier : List Action := .observe observed.key .unspent none "esplora" 0 :: requestAfterAnswer

theorem not_askedSinceRequest : ¬ AskedSinceRequest observed observedEarlier := by
  rintro ⟨past, a, later, hsplit, -, hquestions, hlater⟩
  cases past with
  | nil =>
    obtain ⟨-, rfl⟩ := List.cons.inj hsplit
    exact hlater _ List.mem_cons_self .application ⟨rfl, rfl⟩
  | cons b past =>
    obtain ⟨-, htail⟩ := List.cons.inj hsplit
    have hmem : a ∈ requestAfterAnswer := htail ▸ List.mem_append_right _ List.mem_cons_self
    unfold requestAfterAnswer at hmem
    simp only [List.mem_cons, List.not_mem_nil, or_false] at hmem
    rcases hmem with rfl | rfl | rfl | rfl <;> exact hquestions

theorem clear_after_observedEarlier : ∃ s s', (queue ⟨100, 8, 60⟩ 200).Run ⟨.empty, .idle⟩ observedEarlier s ∧
    step ⟨100, 8, 60⟩ 200 s (.clear observed) = some s' := by
  have hsome : (perform ⟨100, 8, 60⟩ 200 ⟨.empty, .idle⟩ (observedEarlier ++ [.clear observed])).isSome = true := by
    decide +kernel
  obtain ⟨s', hs'⟩ := Option.isSome_iff_exists.mp hsome
  obtain ⟨s, hrun, hclear⟩ := (run_of_perform hs').split
  exact ⟨s, s', hrun, hclear.single_inv⟩

/-- **The request is deleted although the data source was not asked after it.** -/
theorem cleared_unasked : ∃ s s', (queue ⟨100, 8, 60⟩ 200).Run ⟨.empty, .idle⟩ observedEarlier s ∧
    step ⟨100, 8, 60⟩ 200 s (.clear observed) = some s' ∧ ¬ AskedSinceRequest observed observedEarlier := by
  obtain ⟨s, s', hrun, hclear⟩ := clear_after_observedEarlier
  exact ⟨s, s', hrun, hclear, not_askedSinceRequest⟩

/-- The run goes on: a minute later the observation is stale, a second request is claimed, and the data source answers
while a third request comes in. -/
def askedAgain : List Action :=
  observedEarlier ++ [.clear observed, .next, .enqueue .application observed "api-request" false 90000, .drop [],
    .claim .storage [observed.key] 90000, .read [] 90000, .overflow [] 90000, .ask observed (.ok .unspent),
    .enqueue .application observed "api-request" false 91000, .next, .record observed .unspent "esplora" 92000, .next]

theorem complete_after_askedAgain : ∃ s s', (queue ⟨100, 8, 60⟩ 200).Run ⟨.empty, .idle⟩ askedAgain s ∧
    step ⟨100, 8, 60⟩ 200 s (.complete observed) = some s' := by
  have hsome : (perform ⟨100, 8, 60⟩ 200 ⟨.empty, .idle⟩ (askedAgain ++ [.complete observed])).isSome = true := by
    decide +kernel
  obtain ⟨s', hs'⟩ := Option.isSome_iff_exists.mp hsome
  obtain ⟨s, hrun, hcomplete⟩ := (run_of_perform hs').split
  exact ⟨s, s', hrun, hcomplete.single_inv⟩

/-- In the first run the observation was fresh; in the second the answer had been written. -/
theorem completed_after_answer_observed :
    (∃ s s', step ⟨100, 8, 60⟩ 200 s (.clear observed) = some s' ∧ FreshRead ⟨100, 8, 60⟩ 200 observed observedEarlier) ∧
      ∃ s s' status, step ⟨100, 8, 60⟩ 200 s (.complete observed) = some s' ∧ Recorded observed status askedAgain := by
  obtain ⟨s, s', hrun, hclear⟩ := clear_after_observedEarlier
  obtain ⟨t, t', hrun', hcomplete⟩ := complete_after_askedAgain
  obtain ⟨status, hrecorded⟩ := (completed_after_answer hrun' observed).1 t' hcomplete
  exact ⟨⟨s, s', hclear, (completed_after_answer hrun observed).2 s' hclear⟩, t, t', status, hcomplete, hrecorded⟩

end
end RgbppIndexer.Queue
