import RgbppIndexer.Indexer.Findings
import RgbppIndexer.Indexer.Verify

/-!
# What the commitment check decides

A pass of the verifier judges each unchecked transition by itself: by its row
and by what the data source answers about its Bitcoin transaction, never by
what the pass did before.

* `verdict`: the judgement.
* `verifyStep_spec`: one step of the loop fails exactly when there is no
  judgement, and writes nothing else.
* `judged_afterSteps`: every transition a pass gets to holds its verdict.
-/
namespace RgbppIndexer

open RgbppIndexer.Core

/-- What `set_commitment_result` writes into a transition. -/
structure CommitmentResult where
  observed : Option Bytes
  status : CommitmentStatus
  deriving DecidableEq, Repr

namespace CommitmentVerifier

/-- The judgement of a transition whose Bitcoin transaction is looked up with this answer. -/
def judge (t : TransitionRecord) : Option BtcTxInfo → CommitmentResult
  | none => ⟨none, .btcUnknown⟩
  | some tx => ⟨tx.commitment.map ByteArr.bytes, compareCommitments t.expectedCommitment (tx.commitment.map ByteArr.bytes)⟩

/-- What is decided about a transition; nothing if it names no Bitcoin transaction. -/
def verdict (replies : BtcReplies) (t : TransitionRecord) : Except IndexerError (Option CommitmentResult) :=
  match t.btcTxid with
  | none => .ok none
  | some btcTxid =>
    if t.kind = .issuance then .ok (some ⟨none, .notApplicable⟩)
    else
      match BtcTxid.fromDisplaySlice btcTxid with
      | .error e => .error (.types e)
      | .ok txid =>
        match replies.transaction txid with
        | .error e => .error (.btc e)
        | .ok reply => .ok (some (judge t reply))

/-- The row with what was decided in it. -/
def settle : Except IndexerError (Option CommitmentResult) → TransitionRecord → TransitionRecord
  | .ok (some w), t => { t with observedCommitment := w.observed, commitmentStatus := w.status }
  | _, t => t

/-- The finding a status is recorded as. -/
def finding : CommitmentStatus → Option AnomalyKind
  | .btcUnknown => some .unknownBtcTx
  | .mismatch => some .commitmentMismatch
  | _ => none

/-- The anomaly that is recorded with what was decided. -/
def recorded : Except IndexerError (Option CommitmentResult) → Option AnomalyKind
  | .ok (some w) => finding w.status
  | _ => none

/-! ## One transition -/

section
variable {v : CommitmentVerifier} {now : DateTime} {moment : Nat} {st : Store} {report : VerifyReport}

/-- The anomalies when this has been recorded under the transition `hash`. -/
def Records (now : DateTime) (st st' : Store) (hash : Bytes) : Option AnomalyKind → Prop
  | none => st'.rgbppAnomalies = st.rgbppAnomalies
  | some kind => ∃ btcTxid detail,
      st'.rgbppAnomalies = (st.recordForTransition kind hash (some btcTxid) detail now).rgbppAnomalies

/-- What one step leaves: its result, the transition it is about, and the anomaly recorded under it. -/
structure Stepped (now : DateTime) (st : Store) (hash : Bytes) (decided : Except IndexerError (Option CommitmentResult))
    (after : (Store × VerifyReport) × Except IndexerError Unit) : Prop where
  result : after.2 = decided.map fun _ => ()
  transitions : after.1.1.rgbppTransitions = st.rgbppTransitions.update hash (settle decided)
  anomalies : Records now st after.1.1 hash (recorded decided)

theorem Stepped.get? {hash : Bytes} {decided : Except IndexerError (Option CommitmentResult)}
    {after : (Store × VerifyReport) × Except IndexerError Unit} (h : Stepped now st hash decided after) (k : Bytes) :
    after.1.1.rgbppTransitions.get? k =
      if k = hash then (st.rgbppTransitions.get? k).map (settle decided) else st.rgbppTransitions.get? k := by
  rw [h.transitions, Table.get?_update]

theorem settle_eq_self {decided : Except IndexerError (Option CommitmentResult)} (h : ∀ w, decided ≠ .ok (some w))
    (t : TransitionRecord) : settle decided t = t := by
  cases decided with
  | error e => rfl
  | ok o =>
    cases o with
    | none => rfl
    | some w => exact absurd rfl (h w)

/-- A step that decides nothing leaves the transitions as they are. -/
theorem update_settle {decided : Except IndexerError (Option CommitmentResult)} (h : ∀ w, decided ≠ .ok (some w))
    (t : Table Bytes TransitionRecord) (hash : Bytes) : t = t.update hash (settle decided) :=
  (Table.update_eq_self t hash (settle_eq_self h)).symm

section
variable (now st report) (ckbTxHash btcTxid : Bytes) (expected : Option Bytes) (txid : BtcTxid) (tx : BtcTxInfo)

theorem checkCommitment_transitions :
    (checkCommitment now st report ckbTxHash btcTxid expected txid tx).1.rgbppTransitions =
      (st.setCommitmentResult ckbTxHash (tx.commitment.map ByteArr.bytes)
        (compareCommitments expected (tx.commitment.map ByteArr.bytes))).rgbppTransitions := by
  unfold checkCommitment
  dsimp only
  split
  · rfl
  · rfl

theorem checkCommitment_records : Records now st (checkCommitment now st report ckbTxHash btcTxid expected txid tx).1
    ckbTxHash (finding (compareCommitments expected (tx.commitment.map ByteArr.bytes))) := by
  unfold checkCommitment
  dsimp only
  generalize tx.commitment.map ByteArr.bytes = observed
  cases observed with
  | none => cases expected <;> rfl
  | some o =>
    cases expected with
    | none => rfl
    | some e =>
      unfold compareCommitments
      dsimp only
      by_cases heq : e = o
      · rw [if_pos heq]
        rfl
      · rw [if_neg heq]
        exact ⟨btcTxid, mismatchDetail e o txid, rfl⟩

end

theorem Records.of_same {s st' : Store} {hash : Bytes} {kind : Option AnomalyKind} (h : Records now s st' hash kind)
    (hs : s.rgbppAnomalies = st.rgbppAnomalies) : Records now st st' hash kind := by
  cases kind with
  | none => exact Eq.trans h hs
  | some kind =>
    obtain ⟨btcTxid, detail, hrec⟩ := h
    refine ⟨btcTxid, detail, hrec.trans ?_⟩
    unfold Store.recordForTransition Store.recordAnomaly
    dsimp only
    rw [hs]

variable (v now moment st report) in
theorem verifyStep_spec (row : Bytes × TransitionRecord) :
    Stepped now st row.1 (verdict (v.reconciler.btc.moment moment) row.2) (v.verifyStep now moment (st, report) row) := by
  have hnothing : st.rgbppTransitions = st.rgbppTransitions.update row.1 (settle (.ok none)) := update_settle (by nofun) _ _
  have herror : ∀ e, st.rgbppTransitions = st.rgbppTransitions.update row.1 (settle (.error e)) :=
    fun e => update_settle (by nofun) _ _
  unfold verifyStep verdict
  cases row.2.btcTxid with
  | none => exact ⟨rfl, hnothing, rfl⟩
  | some btcTxid =>
    dsimp only
    by_cases hkind : row.2.kind = .issuance
    · rw [if_pos hkind, if_pos hkind]
      exact ⟨rfl, rfl, rfl⟩
    · rw [if_neg hkind, if_neg hkind]
      cases BtcTxid.fromDisplaySlice btcTxid with
      | error e => exact ⟨rfl, herror _, rfl⟩
      | ok txid =>
        dsimp only
        have hresult := Reconciler.refreshBtcTx_result v.reconciler moment st txid
        obtain ⟨hckb, hsame⟩ := Reconciler.refreshBtcTx_same v.reconciler moment st txid
        have htransitions := hckb.transitions
        generalize v.reconciler.refreshBtcTx moment st txid = fetched at hresult hsame htransitions ⊢
        obtain ⟨s, result⟩ := fetched
        dsimp only at hresult hsame htransitions ⊢
        subst hresult
        cases (v.reconciler.btc.moment moment).transaction txid with
        | error e =>
          exact ⟨rfl, htransitions.trans (herror _), hsame⟩
        | ok reply =>
          cases reply with
          | none =>
            refine ⟨rfl, ?_, Records.of_same ⟨btcTxid, _, rfl⟩ hsame⟩
            rw [← htransitions]
            rfl
          | some tx =>
            refine ⟨rfl, ?_, Records.of_same (checkCommitment_records ..) hsame⟩
            dsimp only
            rw [checkCommitment_transitions, ← htransitions]
            rfl

/-- A step writes no anomaly but the one it records. -/
theorem Stepped.get?_anomaly {hash : Bytes} {decided : Except IndexerError (Option CommitmentResult)}
    {after : (Store × VerifyReport) × Except IndexerError Unit} (h : Stepped now st hash decided after) {key : String}
    (hkey : ∀ kind, recorded decided = some kind → key ≠ dedupKey kind (hexText hash)) :
    after.1.1.rgbppAnomalies.get? key = st.rgbppAnomalies.get? key := by
  have hrecords := h.anomalies
  cases hkind : recorded decided with
  | none =>
    rw [hkind] at hrecords
    rw [show after.1.1.rgbppAnomalies = st.rgbppAnomalies from hrecords]
  | some kind =>
    rw [hkind] at hrecords
    obtain ⟨btcTxid, detail, hrec⟩ := hrecords
    rw [hrec]
    exact (Table.get?_upsert ..).trans (if_neg (hkey kind hkind))

end

/-! ## A pass -/

/-- The work list of a pass: unchecked transitions of the database, each once. -/
structure Selected (st : Store) (rows : List (Bytes × TransitionRecord)) : Prop where
  nodup : (rows.map Prod.fst).Nodup
  stored : ∀ e ∈ rows, st.rgbppTransitions.get? e.1 = some e.2
  unchecked : ∀ e ∈ rows, e.2.commitmentStatus = .unchecked ∧ e.2.btcTxid.isSome = true

theorem selected_of_unchecked {st : Store} {rows : RowOrder (Bytes × TransitionRecord)} {limit : Int64}
    {transitions : List (Bytes × TransitionRecord)} (h : st.uncheckedTransitions rows limit = .ok transitions) :
    Selected st transitions := by
  unfold Store.uncheckedTransitions at h
  split at h
  · cases h
  · simp only [Except.ok.injEq] at h
    subst h
    generalize hselect : st.rgbppTransitions.select (fun _ t =>
      decide (t.commitmentStatus = .unchecked ∧ t.btcTxid.isSome = true)) = selected
    have hmem : ∀ e ∈ ((rows.order selected).insertionSort fun a b => a.2.blockNumber ≤ b.2.blockNumber).take limit.toInt.toNat,
        st.rgbppTransitions.get? e.1 = some e.2 ∧ e.2.commitmentStatus = .unchecked ∧ e.2.btcTxid.isSome = true := by
      intro e he
      have hsel := rows.mem_order.mp ((List.mem_insertionSort _).mp (List.mem_of_mem_take he))
      rw [← hselect, Table.mem_select] at hsel
      exact ⟨hsel.1, of_decide_eq_true hsel.2⟩
    refine ⟨?_, fun e he => (hmem e he).1, fun e he => (hmem e he).2⟩
    have hperm := ((List.perm_insertionSort (fun a b : Bytes × TransitionRecord => a.2.blockNumber ≤ b.2.blockNumber)
      (rows.order selected)).trans (rows.perm selected)).map Prod.fst
    refine List.Nodup.sublist ((List.take_sublist _ _).map Prod.fst) (hperm.nodup_iff.mpr ?_)
    rw [← hselect]
    exact Table.select_keys_nodup ..

/-- A batch that is large enough holds every unchecked transition that names a Bitcoin transaction. -/
theorem mem_of_unchecked {st : Store} {rows : RowOrder (Bytes × TransitionRecord)} {limit : Int64}
    {transitions : List (Bytes × TransitionRecord)} (h : st.uncheckedTransitions rows limit = .ok transitions)
    (hlimit : (st.rgbppTransitions.entries.length : Int) ≤ limit.toInt) {hash : Bytes} {t : TransitionRecord}
    (hrow : st.rgbppTransitions.get? hash = some t) (hunchecked : t.commitmentStatus = .unchecked)
    (hbtc : t.btcTxid.isSome = true) : (hash, t) ∈ transitions := by
  unfold Store.uncheckedTransitions at h
  split at h
  · cases h
  · simp only [Except.ok.injEq] at h
    subst h
    rw [List.take_of_length_le]
    · rw [List.mem_insertionSort, rows.mem_order, Table.mem_select]
      exact ⟨hrow, decide_eq_true ⟨hunchecked, hbtc⟩⟩
    · rw [List.length_insertionSort, (rows.perm _).length_eq]
      refine Nat.le_trans (List.length_filter_le ..) ?_
      omega

section
variable (v : CommitmentVerifier) (now : DateTime) (moment : Nat) (st : Store)

/-- The database after the steps over `rows`, whether or not they fail. -/
def afterSteps (rows : List (Bytes × TransitionRecord)) : Store :=
  (afterPasses (v.verifyStep now) moment (st, {}) rows).1

/-- Every step is about the database it finds, and about its row. -/
theorem afterSteps_snoc (rows : List (Bytes × TransitionRecord)) (row : Bytes × TransitionRecord) :
    ∃ after, Stepped now (v.afterSteps now moment st rows) row.1
      (verdict (v.reconciler.btc.moment (moment + rows.length)) row.2) after ∧
      v.afterSteps now moment st (rows ++ [row]) = after.1.1 := by
  unfold afterSteps
  rw [afterPasses_append]
  exact ⟨_, verifyStep_spec v now (moment + rows.length) _ _ row, rfl⟩

/-- **A transition that was stepped over holds its verdict.** -/
theorem judged_afterSteps {rows : List (Bytes × TransitionRecord)} (hnodup : (rows.map Prod.fst).Nodup) :
    (∀ k, k ∉ rows.map Prod.fst →
      (v.afterSteps now moment st rows).rgbppTransitions.get? k = st.rgbppTransitions.get? k) ∧
    ∀ pre row post, rows = pre ++ row :: post →
      (v.afterSteps now moment st rows).rgbppTransitions.get? row.1 =
        (st.rgbppTransitions.get? row.1).map (settle (verdict (v.reconciler.btc.moment (moment + pre.length)) row.2)) := by
  induction rows using List.reverseRecOn with
  | nil =>
    refine ⟨fun k _ => rfl, fun pre row post h => ?_⟩
    simp at h
  | append_singleton rows last ih =>
    rw [List.map_append, List.nodup_append] at hnodup
    obtain ⟨hrows, -, hdisjoint⟩ := hnodup
    obtain ⟨hother, hdone⟩ := ih hrows
    obtain ⟨after, hstep, hafter⟩ := afterSteps_snoc v now moment st rows last
    have hlast : last.1 ∉ rows.map Prod.fst := fun hmem => hdisjoint _ hmem _ (by simp) rfl
    rw [hafter]
    constructor
    · intro k hk
      rw [List.map_append, List.mem_append, not_or] at hk
      have hne : k ≠ last.1 := fun heq => hk.2 (by simp [heq])
      rw [hstep.get?, if_neg hne, hother k hk.1]
    · intro pre row post hsplit
      rcases List.eq_nil_or_concat post with rfl | ⟨post', b, rfl⟩
      · obtain ⟨rfl, hrow⟩ := List.append_inj' hsplit rfl
        obtain rfl := List.singleton_inj.mp hrow
        rw [hstep.get?, if_pos rfl, hother _ hlast]
      · rw [List.concat_eq_append, ← List.cons_append, ← List.append_assoc] at hsplit
        obtain ⟨rfl, -⟩ := List.append_inj' hsplit rfl
        have hne : row.1 ≠ last.1 := fun heq => hlast (heq ▸ by simp)
        rw [hstep.get?, if_neg hne, hdone pre row post' rfl]

/-- And under it stands what was recorded with it; no other anomaly is touched. -/
theorem anomaly_afterSteps (rows : List (Bytes × TransitionRecord)) (kind : AnomalyKind) (hash : Bytes) :
    ((∀ pre row post, rows = pre ++ row :: post → row.1 = hash →
        recorded (verdict (v.reconciler.btc.moment (moment + pre.length)) row.2) ≠ some kind) →
      (v.afterSteps now moment st rows).rgbppAnomalies.get? (dedupKey kind (hexText hash)) =
        st.rgbppAnomalies.get? (dedupKey kind (hexText hash))) := by
  induction rows using List.reverseRecOn with
  | nil => exact fun _ => rfl
  | append_singleton rows last ih =>
    intro hnone
    obtain ⟨after, hstep, hafter⟩ := afterSteps_snoc v now moment st rows last
    rw [hafter, hstep.get?_anomaly fun kind' hrec hkey => ?_]
    · refine ih fun pre row post hsplit hrow => hnone pre row (post ++ [last]) ?_ hrow
      rw [hsplit, List.append_assoc, List.cons_append]
    · obtain ⟨rfl, htext⟩ := dedupKey_inj hkey
      exact hnone rows last [] rfl (hexText_injective htext).symm hrec

/-- Something is decided about the row after `pre`. -/
def Decides (pre : List (Bytes × TransitionRecord)) (row : Bytes × TransitionRecord) : Prop :=
  ∃ w, verdict (v.reconciler.btc.moment (moment + pre.length)) row.2 = .ok w

theorem passOk_iff {pre : List (Bytes × TransitionRecord)} {row : Bytes × TransitionRecord} :
    PassOk (v.verifyStep now) moment (st, {}) pre row ↔ v.Decides moment pre row := by
  unfold PassOk Decides
  generalize afterPasses (v.verifyStep now) moment (st, {}) pre = state
  rw [(verifyStep_spec v now (moment + pre.length) state.1 state.2 row).result]
  cases verdict (v.reconciler.btc.moment (moment + pre.length)) row.2 with
  | error e => exact iff_of_false nofun (fun ⟨w, hw⟩ => by cases hw)
  | ok w => exact iff_of_true rfl ⟨w, rfl⟩

/-- A pass steps over its whole work list, or stops at the first row about which nothing can be decided. -/
theorem verifyOnce_cases {rows : RowOrder (Bytes × TransitionRecord)} {transitions : List (Bytes × TransitionRecord)}
    (h : st.uncheckedTransitions rows v.batchSize = .ok transitions) :
    ((v.verifyOnce rows moment now st).1 = v.afterSteps now moment st transitions ∧
      (∃ report, (v.verifyOnce rows moment now st).2 = .ok report) ∧
      ∀ pre row post, transitions = pre ++ row :: post → v.Decides moment pre row) ∨
    ∃ pre row post, transitions = pre ++ row :: post ∧
      (v.verifyOnce rows moment now st).1 = v.afterSteps now moment st (pre ++ [row]) ∧
      (∃ e, (v.verifyOnce rows moment now st).2 = .error e) ∧ ¬ v.Decides moment pre row ∧
      ∀ pre' row' post', pre = pre' ++ row' :: post' → v.Decides moment pre' row' := by
  unfold verifyOnce
  rw [h]
  dsimp only
  rcases forEach_cases (v.verifyStep now) moment (st, {}) transitions with
    ⟨hrun, hall⟩ | ⟨pre, row, post, e, hsplit, herr, hrun, hbefore⟩
  · left
    rw [hrun]
    exact ⟨rfl, ⟨_, rfl⟩, fun pre row post hsplit => (passOk_iff v now moment st).mp (hall pre row post hsplit)⟩
  · right
    refine ⟨pre, row, post, hsplit, by rw [hrun]; rfl, ⟨e, by rw [hrun]; rfl⟩, fun hdecides => ?_, fun pre' row' post' hpre =>
      (passOk_iff v now moment st).mp (hbefore pre' row' post' hpre)⟩
    have hok := (passOk_iff v now moment st).mpr hdecides
    unfold PassOk at hok
    rw [hok] at herr
    cases herr

/-- The pass gets to the row behind `done`: something is decided about all rows in front of it. -/
structure Reaches (batch done : List (Bytes × TransitionRecord)) (row : Bytes × TransitionRecord) : Prop where
  split : ∃ rest, batch = done ++ row :: rest
  decided : ∀ pre b post, done = pre ++ b :: post → v.Decides moment pre b

/-- The steps a pass makes are those over the rows it gets to. -/
theorem verifyOnce_steps {rows : RowOrder (Bytes × TransitionRecord)} {batch : List (Bytes × TransitionRecord)}
    (h : st.uncheckedTransitions rows v.batchSize = .ok batch) :
    ∃ steps, steps <+: batch ∧ (v.verifyOnce rows moment now st).1 = v.afterSteps now moment st steps ∧
      ∀ done row, (∃ rest, steps = done ++ row :: rest) ↔ v.Reaches moment batch done row := by
  rcases v.verifyOnce_cases now moment st h with ⟨hafter, -, hall⟩ | ⟨pre, stop, post, hstop, hafter, -, hstuck, hbefore⟩
  · refine ⟨batch, List.prefix_rfl, hafter, fun done row => ⟨?_, fun hreach => hreach.split⟩⟩
    rintro ⟨rest, hsplit⟩
    exact ⟨⟨rest, hsplit⟩, fun xs b ys hdone => hall xs b (ys ++ row :: rest) (by rw [hsplit, hdone]; simp)⟩
  · have hsteps : batch = (pre ++ [stop]) ++ post := by rw [hstop]; simp
    refine ⟨pre ++ [stop], ⟨post, hsteps.symm⟩, hafter, fun done row => ⟨?_, ?_⟩⟩
    · rintro ⟨rest, hsplit⟩
      refine ⟨⟨rest ++ post, by rw [hsteps, hsplit]; simp⟩, fun xs b ys hdone => ?_⟩
      -- all but the last step are decided
      rcases List.eq_nil_or_concat rest with rfl | ⟨rest, last, rfl⟩
      · obtain ⟨hpre, -⟩ := List.append_inj' hsplit rfl
        exact hbefore xs b ys (hpre.trans hdone)
      · rw [List.concat_eq_append, ← List.cons_append, ← List.append_assoc] at hsplit
        obtain ⟨hpre, -⟩ := List.append_inj' hsplit rfl
        exact hbefore xs b (ys ++ row :: rest) (by rw [hpre, hdone]; simp)
    · rintro ⟨⟨rest, hsplit⟩, hdecided⟩
      rcases place_cases (hstop.symm.trans hsplit) with ⟨between, hpre⟩ | ⟨rfl, rfl, -⟩ | ⟨between, hdone, -⟩
      · exact ⟨between ++ [stop], by rw [hpre]; simp⟩
      · exact ⟨[], rfl⟩
      · exact absurd (hdecided pre stop between hdone) hstuck

/-- **What a pass leaves of the transitions**: the verdicts on those it gets to, and nothing else is written. -/
theorem get?_verifyOnce {rows : RowOrder (Bytes × TransitionRecord)} {batch : List (Bytes × TransitionRecord)}
    (h : st.uncheckedTransitions rows v.batchSize = .ok batch) :
    (∀ done row, v.Reaches moment batch done row → (v.verifyOnce rows moment now st).1.rgbppTransitions.get? row.1 =
      some (settle (verdict (v.reconciler.btc.moment (moment + done.length)) row.2) row.2)) ∧
    (∀ k, (∀ done row, v.Reaches moment batch done row → row.1 ≠ k) →
      (v.verifyOnce rows moment now st).1.rgbppTransitions.get? k = st.rgbppTransitions.get? k) ∧
    ∀ kind hash, (∀ done row, v.Reaches moment batch done row → row.1 = hash →
        recorded (verdict (v.reconciler.btc.moment (moment + done.length)) row.2) ≠ some kind) →
      (v.verifyOnce rows moment now st).1.rgbppAnomalies.get? (dedupKey kind (hexText hash)) =
        st.rgbppAnomalies.get? (dedupKey kind (hexText hash)) := by
  have hselected := selected_of_unchecked h
  obtain ⟨steps, hpre, hafter, hreach⟩ := v.verifyOnce_steps now moment st h
  obtain ⟨hother, hjudged⟩ := v.judged_afterSteps now moment st (hselected.nodup.sublist (hpre.sublist.map Prod.fst))
  rw [hafter]
  refine ⟨fun done row hr => ?_, fun k hk => hother k fun hmem => ?_, fun kind hash hnone => ?_⟩
  · obtain ⟨rest, hsteps⟩ := (hreach done row).mpr hr
    obtain ⟨rest', hbatch⟩ := hr.split
    rw [hjudged done row rest hsteps, hselected.stored row (by rw [hbatch]; simp), Option.map_some]
  · obtain ⟨row, hrow, rfl⟩ := List.mem_map.mp hmem
    obtain ⟨done, rest, hsteps⟩ := List.append_of_mem hrow
    exact hk done row ((hreach done row).mp ⟨rest, hsteps⟩) rfl
  · exact v.anomaly_afterSteps now moment st steps kind hash fun done row rest hsteps hrow =>
      hnone done row ((hreach done row).mp ⟨rest, hsteps⟩) hrow

/-- A pass that succeeds gets to every row of its batch, and decides about it. -/
theorem verifyOnce_ok {rows : RowOrder (Bytes × TransitionRecord)} {report : VerifyReport}
    (h : (v.verifyOnce rows moment now st).2 = .ok report) :
    ∃ batch, st.uncheckedTransitions rows v.batchSize = .ok batch ∧
      ∀ done row rest, batch = done ++ row :: rest → v.Reaches moment batch done row ∧ v.Decides moment done row := by
  cases hselect : st.uncheckedTransitions rows v.batchSize with
  | error e =>
    unfold verifyOnce at h
    rw [hselect] at h
    cases h
  | ok batch =>
    rcases v.verifyOnce_cases now moment st hselect with ⟨-, -, hall⟩ | ⟨pre, stop, post, -, -, ⟨e, herr⟩, -, -⟩
    · refine ⟨batch, rfl, fun done row rest hsplit => ⟨⟨⟨rest, hsplit⟩, fun pre b post hdone => ?_⟩, hall done row rest hsplit⟩⟩
      exact hall pre b (post ++ row :: rest) (by rw [hsplit, hdone]; simp)
    · rw [herr] at h
      cases h

/-- What a pass keeps, if every step over a row of its work list keeps it. -/
theorem verifyOnce_keeps {P : Store → Prop} {rows : RowOrder (Bytes × TransitionRecord)}
    (hstep : ∀ transitions s row decided after, Selected st transitions → row ∈ transitions →
      (∃ m, decided = verdict (v.reconciler.btc.moment m) row.2) → P s → Stepped now s row.1 decided after → P after.1.1)
    (hst : P st) : P (v.verifyOnce rows moment now st).1 := by
  unfold verifyOnce
  cases hselect : st.uncheckedTransitions rows v.batchSize with
  | error e => exact hst
  | ok transitions =>
    have hselected := selected_of_unchecked hselect
    obtain ⟨pre, hpre, hfst⟩ := forEach_fst (v.verifyStep now) moment (st, {}) transitions
    dsimp only
    rw [hfst]
    have hkeeps : ∀ done, done <+: transitions → P (v.afterSteps now moment st done) := by
      intro done
      induction done using List.reverseRecOn with
      | nil => exact fun _ => hst
      | append_singleton done row ih =>
        intro hpre
        obtain ⟨after, hstepped, hafter⟩ := afterSteps_snoc v now moment st done row
        rw [hafter]
        exact hstep transitions _ row _ after hselected (hpre.subset (by simp)) ⟨_, rfl⟩
          (ih ((List.prefix_append _ _).trans hpre)) hstepped
    exact hkeeps pre hpre

end

end CommitmentVerifier
end RgbppIndexer
