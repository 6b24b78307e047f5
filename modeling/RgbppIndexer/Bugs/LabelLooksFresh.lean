import RgbppIndexer.Queue.Completion
import RgbppIndexer.Core.Signed

/-!
# A label looks like a fresh observation

Labelling "says nothing about spend status, so it must not disturb the
observation or its freshness" (crates/store/src/btc.rs:189-190). For an
outpoint that has no observation yet it inserts one, and `observed_at` then
takes the column default `now()` (migrations/0001_init.sql:193): for a TTL the
outpoint looks freshly observed, and a drain clears its queue entry without a
question.

* `cleared_within_ttl`: **as long as labels only land on outpoints that were
  observed before, a cleared entry was answered within the TTL.**
-/
namespace RgbppIndexer.Bugs.LabelLooksFresh

open RgbppIndexer.Core Queue

/-- An answer about the outpoint of `key` is written at `t`. -/
def AnswersAt (key : OutpointKey) (t : DateTime) : Action → Prop
  | .record o _ _ now => o.key = key ∧ now = t
  | .observe key' _ _ _ now => key' = key ∧ now = t
  | _ => False

/-- A label lands on an outpoint that has an observation. -/
def LabelsObserved (s : State) : Action → Prop
  | .label key _ _ _ => s.store.btcOutpoints.get? key ≠ none
  | _ => True

/-- Every observation is dated by an answer. -/
def Dated (history : List Action) (st : Store) : Prop :=
  ∀ key row, st.btcOutpoints.get? key = some row → ∃ a ∈ history, AnswersAt key row.observedAt a

/-- The drain found the outpoint fresh, and an answer about it had been written within the TTL. -/
def AnsweredWithin (ttlSecs : UInt64) (o : BtcOutPoint) (history : List Action) : Prop :=
  ∃ past fresh now later, history = past ++ .read fresh now :: later ∧ Claimed o past ∧ o ∈ fresh ∧
    (∀ b ∈ later, b.InDrain) ∧ ∃ a ∈ past, ∃ t, AnswersAt o.key t a ∧ now - t < 1000 * ttlSecs.toNat

section
variable {q : DrainConfig} {cap : Nat} {o : BtcOutPoint} {s s' : State} {a : Action} {history : List Action}

/-- A step that writes no observation of its own keeps the dates. -/
theorem Dated.step (h : Dated history s.store) (hstep : Queue.step q cap s a = some s') (ha : LabelsObserved s a) :
    Dated (history ++ [a]) s'.store := by
  intro key row hrow
  rw [step_observation hstep] at hrow
  have hold : s.store.btcOutpoints.get? key = some row → ∃ b ∈ history ++ [a], AnswersAt key row.observedAt b := by
    intro hrow
    obtain ⟨b, hb, hdate⟩ := h key row hrow
    exact ⟨b, List.mem_append_left _ hb, hdate⟩
  have hnew : AnswersAt key row.observedAt a → ∃ b ∈ history ++ [a], AnswersAt key row.observedAt b :=
    fun hdate => ⟨a, List.mem_append_right _ (List.mem_singleton.mpr rfl), hdate⟩
  cases a with
  | record o status source now =>
    simp only [Action.onObservation] at hrow
    split at hrow
    · next hkey =>
      cases hrow
      exact hnew ⟨hkey.symm, rfl⟩
    · exact hold hrow
  | observe key' status address source now =>
    simp only [Action.onObservation] at hrow
    split at hrow
    · next hkey =>
      cases hrow
      exact hnew ⟨hkey.symm, rfl⟩
    · exact hold hrow
  | label key' address source now =>
    simp only [Action.onObservation] at hrow
    split at hrow
    · next hkey =>
      subst hkey
      obtain ⟨old, hsome⟩ := Option.ne_none_iff_exists'.mp ha
      rw [hsome] at hrow
      cases hrow
      obtain ⟨b, hb, hdate⟩ := h key old hsome
      exact ⟨b, List.mem_append_left _ hb, hdate⟩
    · exact hold hrow
  | drop => exact hold hrow
  | claim => exact hold hrow
  | read => exact hold hrow
  | clear => exact hold hrow
  | overflow => exact hold hrow
  | ask => exact hold hrow
  | requeue => exact hold hrow
  | complete => exact hold hrow
  | fail => exact hold hrow
  | next => exact hold hrow
  | abort => exact hold hrow
  | enqueue => exact hold hrow
  | other => exact hold hrow

theorem dated_of_run (hrun : ((queue q cap).restrict LabelsObserved).Run ⟨.empty, .idle⟩ history s) :
    Dated history s.store := by
  refine hrun.keeps_history (I := fun ls t => Dated ls t.store) ?_ ?_
  · intro ls t a t' ht hstep
    exact ht.step hstep.1 hstep.2
  · intro key row hrow
    cases hrow

theorem lt_of_tdiv_lt {age : Int} {ttlSecs : UInt64} (h : Int.tdiv age 1000 < ttlSecs.toInt64.toInt) :
    age < 1000 * ttlSecs.toNat := by
  have hcast : ttlSecs.toInt64.toInt ≤ ttlSecs.toNat := by
    rw [toInt_toInt64_eq]
    split
    · exact Int.le_refl _
    · omega
  rcases Int.lt_or_le age 0 with hneg | hpos
  · omega
  · rw [Int.tdiv_eq_ediv_of_nonneg hpos] at h
    omega

/-- `num_seconds() < ttl` is less than the TTL in milliseconds. -/
theorem within_of_isFresh {row : ObservationRow} {ttlSecs : UInt64} {now : DateTime}
    (h : row.isFresh ttlSecs.toInt64 now = true) : now - row.observedAt < 1000 * ttlSecs.toNat := by
  unfold ObservationRow.isFresh at h
  rw [decide_eq_true_eq] at h
  exact lt_of_tdiv_lt h.2

/-- **The runs in which a cleared entry was answered within the TTL.** -/
theorem cleared_within_ttl (hrun : ((queue q cap).restrict LabelsObserved).Run ⟨.empty, .idle⟩ history s)
    (hclear : step q cap s (.clear o) = some s') : AnsweredWithin q.observationTtlSecs o history := by
  obtain ⟨past, fresh, now, later, t, row, rfl, hclaimed, ho, hlater, hpast, hrow, hfresh⟩ :=
    freshRead_of_foundFresh hrun.of_restrict (foundFresh_of_clear hrun.of_restrict hclear)
  obtain ⟨t', hpast', hrest⟩ := hrun.split
  have hsame : t' = t := by
    have hp := run_iff_perform.mp hpast'.of_restrict
    rw [run_iff_perform.mp hpast] at hp
    exact (Option.some.inj hp).symm
  subst hsame
  obtain ⟨a, ha, hdate⟩ := dated_of_run hpast' o.key row hrow
  exact ⟨past, fresh, now, later, rfl, hclaimed, ho, hlater, a, ha, row.observedAt, hdate, within_of_isFresh hfresh⟩

end

/-! ## The counterexample -/

section

def q : DrainConfig := { queueBatchSize := 100, maxAttempts := 8, observationTtlSecs := 60 }

def o : BtcOutPoint := ⟨.placeholder, 0⟩

/-- The worker claims a request and finds the outpoint fresh. -/
def clearing : List Action :=
  [.enqueue .application o "api-request" false 1000, .drop [], .claim .storage [o.key] 1000, .read [o] 1000]

/-- The outpoint is labelled; nobody has asked about it. -/
def labelled : List Action := .label o.key "bc1qalice" "funding-tx" 0 :: clearing

/-- Another flow has the outpoint's answer. -/
def answered : List Action := .observe o.key .unspent none "esplora" 0 :: clearing

theorem not_answeredWithin : ¬ AnsweredWithin q.observationTtlSecs o labelled := by
  rintro ⟨past, fresh, now, later, hsplit, -, -, -, a, ha, t, hanswers, -⟩
  have hmem : a ∈ labelled := hsplit ▸ List.mem_append_left _ ha
  simp only [labelled, clearing, List.mem_cons, List.not_mem_nil, or_false] at hmem
  rcases hmem with rfl | rfl | rfl | rfl | rfl <;> exact hanswers

/-- **The entry of a labelled outpoint is cleared although nobody asked about it.** -/
theorem cleared_unanswered : ∃ s s', (queue q 200).Run ⟨.empty, .idle⟩ labelled s ∧
    step q 200 s (.clear o) = some s' ∧ ¬ AnsweredWithin q.observationTtlSecs o labelled := by
  have hsome : (perform q 200 ⟨.empty, .idle⟩ (labelled ++ [.clear o])).isSome = true := by decide +kernel
  obtain ⟨s', hs'⟩ := Option.isSome_iff_exists.mp hsome
  obtain ⟨s, hrun, hclear⟩ := (run_of_perform hs').split
  exact ⟨s, s', hrun, hclear.single_inv, not_answeredWithin⟩

theorem cleared_within_ttl_answered : ∃ s s', step q 200 s (.clear o) = some s' ∧
    AnsweredWithin q.observationTtlSecs o answered := by
  have hsome : (perform q 200 ⟨.empty, .idle⟩ (answered ++ [.clear o])).isSome = true := by decide +kernel
  obtain ⟨s', hs'⟩ := Option.isSome_iff_exists.mp hsome
  obtain ⟨s, hrun, hclear⟩ := (run_of_perform hs').split
  have hlabels : ((queue q 200).restrict LabelsObserved).Run ⟨.empty, .idle⟩ answered s := by
    refine hrun.restrict_of_forall fun a ha u => ?_
    simp only [answered, clearing, List.mem_cons, List.not_mem_nil, or_false] at ha
    rcases ha with rfl | rfl | rfl | rfl | rfl <;> trivial
  exact ⟨s, s', hclear.single_inv, cleared_within_ttl hlabels hclear.single_inv⟩

end
end RgbppIndexer.Bugs.LabelLooksFresh
