import RgbppIndexer.Indexer.System
import RgbppIndexer.Indexer.Verdicts

/-!
# The statuses of the transitions, over whole runs

In the runs of all tasks only a commitment check writes a status, or a finding
about a transition. A scan round that indexes a transaction again writes what
the transaction says, and keeps the status.

* `indexed_apply`: every event but a commitment check keeps the statuses.
* `Due`, `verifyOnce_regular`: a check is about a transition that is unchecked
  when it comes; a pass of the verifier is a run of such checks.
-/
namespace RgbppIndexer

open RgbppIndexer.Core

/-- What a transition is compared by. The verifier does not write it. -/
structure Authorisation where
  kind : TransitionKind
  btcTxid : Option Bytes
  expectedCommitment : Option Bytes
  deriving DecidableEq, Repr

def TransitionRecord.authorisation (t : TransitionRecord) : Authorisation := ⟨t.kind, t.btcTxid, t.expectedCommitment⟩

theorem CommitmentVerifier.settle_authorisation (decided : Except IndexerError (Option CommitmentResult))
    (t : TransitionRecord) : (settle decided t).authorisation = t.authorisation := by
  cases decided with
  | error e => rfl
  | ok o => cases o <;> rfl

namespace System

/-- No transition is lost, statuses stay, new transitions are unchecked; and nothing is recorded about a transition. -/
structure Indexed (st st' : Store) : Prop where
  kept : ∀ k t, st.rgbppTransitions.get? k = some t →
    ∃ t', st'.rgbppTransitions.get? k = some t' ∧ t'.commitmentStatus = t.commitmentStatus
  fresh : ∀ k t', st'.rgbppTransitions.get? k = some t' → st.rgbppTransitions.get? k = none →
    t'.commitmentStatus = .unchecked
  findings : ∀ (kind : AnomalyKind) hash, kind.isMisspend = false →
    st'.rgbppAnomalies.get? (dedupKey kind (hexText hash)) = st.rgbppAnomalies.get? (dedupKey kind (hexText hash))

section
variable {st st' : Store}

theorem Indexed.of_same (h : st'.rgbppTransitions = st.rgbppTransitions)
    (hfindings : ∀ (kind : AnomalyKind) hash, kind.isMisspend = false →
      st'.rgbppAnomalies.get? (dedupKey kind (hexText hash)) = st.rgbppAnomalies.get? (dedupKey kind (hexText hash))) :
    Indexed st st' := by
  refine ⟨fun k t ht => ⟨t, by rw [h, ht], rfl⟩, fun k t' ht' hnone => ?_, hfindings⟩
  rw [h, hnone] at ht'
  cases ht'

/-- Inserting transitions keeps the statuses of those that are there. -/
theorem status_insert (transitions : List NewTransition) (t : Table Bytes TransitionRecord) :
    (∀ k row, t.get? k = some row → ∃ row', (transitions.foldl Store.transitionInsert t).get? k = some row' ∧
      row'.commitmentStatus = row.commitmentStatus) ∧
    ∀ k row', (transitions.foldl Store.transitionInsert t).get? k = some row' → t.get? k = none →
      row'.commitmentStatus = .unchecked := by
  induction transitions generalizing t with
  | nil =>
    refine ⟨fun k row hrow => ⟨row, hrow, rfl⟩, fun k row' hrow' hnone => ?_⟩
    rw [List.foldl_nil, hnone] at hrow'
    cases hrow'
  | cons n transitions ih =>
    rw [List.foldl_cons]
    obtain ⟨hkept, hfresh⟩ := ih (Store.transitionInsert t n)
    have hget : ∀ k, (Store.transitionInsert t n).get? k = if k = n.ckbTxHash then _ else t.get? k :=
      fun k => Table.get?_upsert ..
    constructor
    · intro k row hrow
      by_cases hk : k = n.ckbTxHash
      · have hhead := (hget k).trans (if_pos hk)
        obtain ⟨row', hrow', hstatus⟩ := hkept k _ hhead
        refine ⟨row', hrow', hstatus.trans ?_⟩
        rw [← hk, hrow]
        rfl
      · exact hkept k row (((hget k).trans (if_neg hk)).trans hrow)
    · intro k row' hrow' hnone
      by_cases hk : k = n.ckbTxHash
      · have hhead := (hget k).trans (if_pos hk)
        obtain ⟨row'', hrow'', hstatus⟩ := hkept k _ hhead
        rw [hrow'] at hrow''
        cases hrow''
        rw [hstatus, ← hk, hnone]
        rfl
      · exact hfresh k row' hrow' (((hget k).trans (if_neg hk)).trans hnone)

end

section
variable [Sha2] {cfg : Config} {errorText : IndexerError → String} {st st' : Store}

/-- **Only a commitment check writes a status, or a finding about a transition.** -/
theorem indexed_apply (h : AnomaliesKeyed st) {event : Event}
    (hevent : ∀ v now moment row, event ≠ .verify v now moment row) : Indexed st (apply cfg errorText st event) := by
  cases event with
  | write event =>
    have hanomalies : (Observations.apply cfg errorText st event).rgbppAnomalies = st.rgbppAnomalies :=
      write_rgbppAnomalies event
    rcases write_cases cfg errorText st event with ⟨env, rfl⟩ | hframe
    · rcases scannerStep_cases cfg env errorText st with hnoted | ⟨reads, batch, hcommitted⟩
      · exact .of_same hnoted.transitions fun kind hash _ => by rw [apply, hanomalies]
      · obtain ⟨hkept, hfresh⟩ := status_insert batch.transitions st.rgbppTransitions
        have htransitions : (apply cfg errorText st (.write (.scan env))).rgbppTransitions =
            batch.transitions.foldl Store.transitionInsert st.rgbppTransitions := by
          rw [apply, Observations.apply, hcommitted.facts]
        refine ⟨?_, ?_, fun kind hash _ => by rw [apply, hanomalies]⟩
        · rw [htransitions]
          exact hkept
        · rw [htransitions]
          exact hfresh
    · refine .of_same ?_ fun kind hash _ => by rw [apply, hanomalies]
      rw [apply, hframe]
  | answer r moment answer =>
    obtain ⟨hsame, hcases⟩ := Reconciler.refreshStep_same r moment { store := st, out := [], observed := [] } answer
    refine .of_same hsame.transitions fun kind hash hkind => ?_
    rcases hcases with ⟨-, hanomalies⟩ | ⟨-, hanomalies⟩
    · rw [apply, hanomalies]
    · rw [apply, hanomalies]
      exact get?_resolve_transition h hkind hash
  | examine w now tip moment row =>
    obtain ⟨hsame, hcases⟩ := Sweeper.detectStep_cases w now tip moment st {} row
    refine .of_same hsame.transitions fun kind hash hkind => ?_
    rw [apply_examine]
    rcases hcases with ⟨hanomalies, -⟩ | ⟨-, hanomalies⟩ | ⟨-, kind', o, detail, hkind', -, hanomalies⟩
    · rw [hanomalies]
    · rw [hanomalies]
      exact get?_resolve_transition h hkind hash
    · rw [hanomalies]
      exact get?_recordMisspend_transition hkind' hkind hash
  | verify v now moment row => exact absurd rfl (hevent v now moment row)
  | cacheTx txid row => exact .of_same rfl fun _ _ _ => rfl
  | queue rows => exact .of_same rfl fun _ _ _ => rfl

/-! ## Regular runs -/

/-- The transition is stored as it is checked, and has not been checked. -/
def Due (st : Store) (row : Bytes × TransitionRecord) : Prop :=
  ∃ t, st.rgbppTransitions.get? row.1 = some t ∧ t.commitmentStatus = .unchecked ∧
    t.authorisation = row.2.authorisation

/-- Every transition says what its CKB transaction says. -/
def Faithful (what : Bytes → Authorisation) (st : Store) : Prop :=
  ∀ hash t, st.rgbppTransitions.get? hash = some t → t.authorisation = what hash

variable (cfg errorText) in
/-- One verifier checks what is unchecked, and what is indexed is what the transactions say. -/
def Regular (what : Bytes → Authorisation) (st : Store) : Event → Prop
  | .verify _ _ _ row => Due st row
  | event => Faithful what (apply cfg errorText st event)

omit [Sha2] in
theorem Faithful.stepped {what : Bytes → Authorisation} {hash : Bytes} {now : DateTime}
    {decided : Except IndexerError (Option CommitmentResult)} {after : (Store × VerifyReport) × Except IndexerError Unit}
    (h : Faithful what st) (hstep : CommitmentVerifier.Stepped now st hash decided after) : Faithful what after.1.1 := by
  intro k t ht
  rw [hstep.get?] at ht
  split at ht
  · obtain ⟨t₀, ht₀, rfl⟩ := Option.map_eq_some_iff.mp ht
    rw [CommitmentVerifier.settle_authorisation]
    exact h k t₀ ht₀
  · exact h k t ht

theorem Faithful.step {what : Bytes → Authorisation} {event : Event} (h : Faithful what st)
    (hevent : Regular cfg errorText what st event) : Faithful what (apply cfg errorText st event) := by
  cases event with
  | verify v now moment row => exact h.stepped (CommitmentVerifier.verifyStep_spec v now moment st {} row)
  | write event => exact hevent
  | answer r moment answer => exact hevent
  | examine w now tip moment row => exact hevent
  | cacheTx txid row => exact hevent
  | queue rows => exact hevent

omit [Sha2] in
theorem Faithful.verifyOnce {what : Bytes → Authorisation} (h : Faithful what st) (v : CommitmentVerifier)
    (rows : RowOrder (Bytes × TransitionRecord)) (moment : Nat) (now : DateTime) :
    Faithful what (v.verifyOnce rows moment now st).1 :=
  v.verifyOnce_keeps now moment st (fun _ _ _ _ _ _ _ _ hs hstep => hs.stepped hstep) h

variable (cfg errorText) in
/-- **A pass of the verifier is a run of checks that are due.** -/
theorem verifyOnce_regular (what : Bytes → Authorisation) (v : CommitmentVerifier)
    (rows : RowOrder (Bytes × TransitionRecord)) (moment : Nat) (now : DateTime) (st : Store) :
    ∃ events, ((tasks cfg errorText).restrict (Regular cfg errorText what)).Run st events (v.verifyOnce rows moment now st).1 ∧
      ∀ event ∈ events, ∃ m row, event = .verify v now m row := by
  cases hselect : st.uncheckedTransitions rows v.batchSize with
  | error e =>
    refine ⟨[], ?_, fun _ hmem => absurd hmem List.not_mem_nil⟩
    unfold CommitmentVerifier.verifyOnce
    rw [hselect]
    exact .nil
  | ok batch =>
    have hselected := CommitmentVerifier.selected_of_unchecked hselect
    obtain ⟨steps, hpre, hafter, -⟩ := v.verifyOnce_steps now moment st hselect
    rw [hafter]
    clear hafter
    induction steps using List.reverseRecOn with
    | nil => exact ⟨[], .nil, fun _ hmem => absurd hmem List.not_mem_nil⟩
    | append_singleton done row ih =>
      obtain ⟨events, hrun, hchecks⟩ := ih ((List.prefix_append _ _).trans hpre)
      have hrow : row ∈ batch := hpre.subset (by simp)
      have hnodup := hselected.nodup.sublist (hpre.sublist.map Prod.fst)
      rw [List.map_append, List.nodup_append] at hnodup
      obtain ⟨hdone, -, hdisjoint⟩ := hnodup
      -- the checks before it were about others
      have hnot : row.1 ∉ done.map Prod.fst := fun hmem => hdisjoint _ hmem _ (by simp) rfl
      have hstored := ((v.judged_afterSteps now moment st hdone).1 row.1 hnot).trans (hselected.stored row hrow)
      have hnext : v.afterSteps now moment st (done ++ [row]) =
          apply cfg errorText (v.afterSteps now moment st done) (.verify v now (moment + done.length) row) := by
        unfold CommitmentVerifier.afterSteps
        rw [afterPasses_append]
        exact verifyStep_store v now (moment + done.length) _ row
      have hdue : Due (v.afterSteps now moment st done) row := ⟨row.2, hstored, (hselected.unchecked row hrow).1, rfl⟩
      have hcheck : ((tasks cfg errorText).restrict (Regular cfg errorText what)).step (v.afterSteps now moment st done)
          (.verify v now (moment + done.length) row) (v.afterSteps now moment st (done ++ [row])) := ⟨hnext, hdue⟩
      refine ⟨_, hrun.snoc hcheck, fun event hevent => ?_⟩
      · rcases List.mem_append.mp hevent with hevent | hevent
        · exact hchecks event hevent
        · exact ⟨_, row, List.mem_singleton.mp hevent⟩

end
end System
end RgbppIndexer
