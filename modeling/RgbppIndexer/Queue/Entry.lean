import RgbppIndexer.Queue.Worker

/-!
# The life of one entry

Seen from one outpoint a drain is a short path through a few phases: claimed,
found fresh or left waiting, asked about, answered or not, recorded or missed,
and out of the drain again. `Worker.phase` is where the worker has an outpoint;
`step_phase` says that every step of the worker, and of everything around it,
is a step of that life. What a drain does to an entry is proved on phases.

* `step_valid`: the worker's lists never name an outpoint twice.
* `step_phase`: what a step does to the phase of an outpoint.
* `Action.Moves.other`, `Action.onRow_other`: what does not concern an outpoint
  leaves its phase and its entry alone.
-/
namespace RgbppIndexer.Queue

open RgbppIndexer.Core

/-- Where an outpoint is in the drain. -/
inductive Phase where
  | out
  | claimed
  /-- its observation is fresh -/
  | fresh
  | waiting
  | answered (status : OutpointSpendStatus)
  | unanswered
  /-- its answer is written -/
  | recorded
  /-- capped out, or not answered and queued again -/
  | missed
  deriving DecidableEq, Repr

/-- The phase an answer leads to. -/
def Phase.ofAnswer : Except BtcError OutpointSpendStatus → Phase
  | .ok status => .answered status
  | .error _ => .unanswered

/-- The phase of an outpoint whose answer is in a list, if it is. -/
def answerPhase (o : BtcOutPoint) (answers : List Observed) : Option Phase :=
  (answers.find? fun a => a.1 = o).map fun a => .ofAnswer a.2

def Worker.phase (o : BtcOutPoint) : Worker → Phase
  | .idle => .out
  | .dropped => .out
  | .claimed batch => if o ∈ batch then .claimed else .out
  | .clearing fresh rest => if o ∈ fresh then .fresh else if o ∈ rest then .waiting else .out
  | .asking outpoints pending answers =>
    if o ∈ pending then .waiting else (answerPhase o answers).getD (if o ∈ outpoints then .missed else .out)
  | .recording outpoints answers succeeded =>
    (answerPhase o answers).getD (if o ∈ succeeded then .recorded else if o ∈ outpoints then .missed else .out)
  | .settling outpoints succeeded =>
    if o ∈ outpoints then if o ∈ succeeded then .recorded else .missed else .out

/-- What an action may do to the phase of an outpoint. -/
def Action.Moves (o : BtcOutPoint) (p p' : Phase) : Action → Prop
  | .drop _ => p = .out ∧ p' = .out
  | .claim _ batch _ => p = .out ∧ (p' = .out ∨ p' = .claimed ∧ o.key ∈ batch)
  | .read fresh _ =>
    (p = .claimed ∧ o ∈ fresh ∧ p' = .fresh) ∨ (p = .claimed ∧ o ∉ fresh ∧ p' = .waiting) ∨ (p = .out ∧ p' = .out)
  | .clear o' => if o' = o then p = .fresh ∧ p' = .out else p' = p
  | .overflow outpoints _ => if o ∈ outpoints then p = .waiting ∧ p' = .missed else p' = p
  | .ask o' answer => if o' = o then p = .waiting ∧ p' = .ofAnswer answer else p' = p
  | .record o' status _ _ => if o' = o then p = .answered status ∧ p' = .recorded else p' = p
  | .requeue o' _ => if o' = o then p = .unanswered ∧ p' = .missed else p' = p
  | .complete o' => if o' = o then p = .recorded ∧ p' = .out else p' = p
  | .fail o' => if o' = o then p = .missed ∧ p' = .out else p' = p
  | .abort => p' = .out
  | _ => p' = p

/-- The action is about the outpoint, or about all of them. -/
def Action.Concerns (o : BtcOutPoint) : Action → Prop
  | .drop _ => True
  | .claim .. => True
  | .read .. => True
  | .clear o' => o' = o
  | .overflow outpoints _ => o ∈ outpoints
  | .ask o' _ => o' = o
  | .record o' _ _ _ => o' = o
  | .requeue o' _ => o' = o
  | .complete o' => o' = o
  | .fail o' => o' = o
  | .abort => True
  | .enqueue _ o' _ _ _ => o' = o
  | _ => False

/-- What does not concern the outpoint leaves its phase alone. -/
theorem Action.Moves.other {o : BtcOutPoint} {p p' : Phase} {a : Action} (h : a.Moves o p p') (ha : ¬ a.Concerns o) :
    p' = p := by
  cases a with
  | drop => exact absurd trivial ha
  | claim => exact absurd trivial ha
  | read => exact absurd trivial ha
  | clear o' =>
    rw [Concerns] at ha
    rwa [Action.Moves, if_neg ha] at h
  | overflow outpoints now =>
    rw [Concerns] at ha
    rwa [Action.Moves, if_neg ha] at h
  | ask o' answer =>
    rw [Concerns] at ha
    rwa [Action.Moves, if_neg ha] at h
  | record o' status source now =>
    rw [Concerns] at ha
    rwa [Action.Moves, if_neg ha] at h
  | requeue o' now =>
    rw [Concerns] at ha
    rwa [Action.Moves, if_neg ha] at h
  | complete o' =>
    rw [Concerns] at ha
    rwa [Action.Moves, if_neg ha] at h
  | fail o' =>
    rw [Concerns] at ha
    rwa [Action.Moves, if_neg ha] at h
  | next => exact h
  | abort => exact absurd trivial ha
  | enqueue => exact h
  | observe => exact h
  | label => exact h
  | other => exact h

/-- And its entry. -/
theorem Action.onRow_other {q : DrainConfig} {o : BtcOutPoint} {a : Action} (old : Option QueueRow) (ha : ¬ a.Concerns o) :
    a.onRow q o.key old = old := by
  have hkey : ∀ {o' : BtcOutPoint}, ¬ o' = o → o.key ≠ o'.key := fun ho hk => ho (BtcOutPoint.key_injective hk).symm
  cases a with
  | drop => exact absurd trivial ha
  | claim => exact absurd trivial ha
  | read => exact absurd trivial ha
  | clear o' => exact if_neg (hkey ha)
  | overflow outpoints now =>
    refine if_neg ?_
    rw [List.mem_map_of_injective BtcOutPoint.key_injective]
    exact ha
  | ask => rfl
  | record => rfl
  | requeue o' now => exact if_neg (hkey ha)
  | complete o' => exact if_neg (hkey ha)
  | fail o' => exact if_neg (hkey ha)
  | next => rfl
  | abort => exact absurd trivial ha
  | enqueue origin o' reason replaceReason now => exact if_neg (hkey ha)
  | observe => rfl
  | label => rfl
  | other => rfl

/-! ## The worker's lists -/

/-- No outpoint is on the worker's lists twice. -/
def Worker.Valid : Worker → Prop
  | .idle => True
  | .dropped => True
  | .claimed batch => batch.Nodup
  | .clearing fresh rest => (fresh ++ rest).Nodup
  | .asking outpoints pending answers =>
    outpoints.Nodup ∧ (answers.map Prod.fst ++ pending).Nodup ∧ ∀ o ∈ answers.map Prod.fst ++ pending, o ∈ outpoints
  | .recording outpoints answers succeeded =>
    outpoints.Nodup ∧ (answers.map Prod.fst ++ succeeded).Nodup ∧ ∀ o ∈ answers.map Prod.fst ++ succeeded, o ∈ outpoints
  | .settling outpoints _ => outpoints.Nodup

/-- The fresh outpoints are claimed outpoints whose row is fresh, each once. -/
theorem alreadyFresh_eq_ok {st : Store} {claimed found : List BtcOutPoint} {ttlSecs : UInt64} {now : DateTime}
    (h : alreadyFresh st claimed ttlSecs now = .ok found) :
    found.Nodup ∧ ∀ o ∈ found, o ∈ claimed ∧
      ∃ row, st.btcOutpoints.get? o.key = some row ∧ row.isFresh ttlSecs.toInt64 now = true := by
  have hkeys := Store.map_key_of_mapM h
  constructor
  · have hrows : (((st.getObservations (claimed.map BtcOutPoint.key)).filter fun e =>
        e.2.isFresh ttlSecs.toInt64 now).map Prod.fst).Nodup :=
      (Table.select_keys_nodup ..).sublist (List.filter_sublist.map _)
    rw [← hkeys] at hrows
    exact hrows.of_map
  · intro o ho
    have hmem : o.key ∈ found.map BtcOutPoint.key := List.mem_map.mpr ⟨o, ho, rfl⟩
    rw [hkeys] at hmem
    obtain ⟨⟨key, row⟩, he, rfl⟩ := List.mem_map.mp hmem
    obtain ⟨hselect, hfresh⟩ := List.mem_filter.mp he
    obtain ⟨hrow, hclaimed⟩ := (Table.mem_select ..).mp hselect
    rw [decide_eq_true_eq] at hclaimed
    obtain ⟨o', ho', hkey⟩ := List.mem_map.mp hclaimed
    refine ⟨BtcOutPoint.key_injective hkey ▸ ho', row, hrow, hfresh⟩

/-- What a claim hands out holds each outpoint once. -/
theorem afterClaim_valid {st st' : Store} {rows : ClaimOrder} {limit : Int64} {now : DateTime}
    {items : List QueueItem} (h : st.claimRefreshBatch rows limit now = .ok (st', items)) : (afterClaim items).Valid := by
  have hnodup : (items.map QueueItem.key).Nodup := by
    rw [((Store.claimRefreshBatch_eq_ok h).1.map QueueItem.key).nodup_iff, List.map_map]
    exact Store.pickedRefreshes_keys_nodup
  unfold afterClaim
  split
  · trivial
  · next batch _ hbatch =>
    have hkeys := Store.map_key_of_mapM hbatch
    rw [← hkeys] at hnodup
    exact hnodup.of_map
  · trivial

theorem phase_afterClaim (items : List QueueItem) (o : BtcOutPoint) :
    (afterClaim items).phase o = .out ∨
      (afterClaim items).phase o = .claimed ∧ o.key ∈ items.map QueueItem.key := by
  unfold afterClaim
  split
  · exact .inl rfl
  · next batch _ hbatch =>
    simp only [Worker.phase]
    by_cases ho : o ∈ batch
    · have hkeys := Store.map_key_of_mapM hbatch
      rw [if_pos ho, ← hkeys]
      exact .inr ⟨rfl, List.mem_map.mpr ⟨o, ho, rfl⟩⟩
    · rw [if_neg ho]
      exact .inl rfl
  · exact .inl rfl

/-! ## One step -/

section
variable {o : BtcOutPoint} {answers : List Observed}

theorem answerPhase_eq_none : answerPhase o answers = none ↔ o ∉ answers.map Prod.fst := by
  unfold answerPhase
  simp only [Option.map_eq_none_iff, List.find?_eq_none, decide_eq_true_eq, List.mem_map, not_exists, not_and]

@[simp] theorem answerPhase_append {a : Observed} :
    answerPhase o (answers ++ [a]) = (answerPhase o answers).or (if a.1 = o then some (.ofAnswer a.2) else none) := by
  unfold answerPhase
  rw [List.find?_append]
  cases answers.find? fun a => a.1 = o with
  | some b => simp
  | none =>
    by_cases ha : a.1 = o
    · simp [ha]
    · simp [ha]

@[simp] theorem answerPhase_cons {a : Observed} :
    answerPhase o (a :: answers) = if a.1 = o then some (.ofAnswer a.2) else answerPhase o answers := by
  unfold answerPhase
  rw [List.find?_cons]
  by_cases ha : a.1 = o
  · simp [ha]
  · simp [ha]

end

variable {q : DrainConfig} {cap : Nat} {s s' : State} {a : Action}

/-- The worker's lists stay free of repeats. -/
theorem step_valid (hvalid : s.worker.Valid) (h : step q cap s a = some s') : s'.worker.Valid := by
  obtain ⟨hadvance, -⟩ := step_eq_some.mp h
  cases a with
  | drop dropped =>
    obtain ⟨-, -, hw⟩ := advance_drop hadvance
    rw [hw]
    trivial
  | claim rows batch now =>
    obtain ⟨-, st', items, hclaim, -, hw⟩ := advance_claim hadvance
    rw [hw]
    exact afterClaim_valid hclaim
  | read fresh now =>
    obtain ⟨batch, found, hw, hfound, hperm, hw'⟩ := advance_read hadvance
    rw [hw] at hvalid
    rw [hw']
    refine List.nodup_append.mpr ⟨hperm.nodup_iff.mpr (alreadyFresh_eq_ok hfound).1, hvalid.filter _, ?_⟩
    intro x hx y hy hxy
    have hnot := (List.mem_filter.mp hy).2
    simp only [decide_eq_true_eq] at hnot
    exact hnot (hxy ▸ hx)
  | clear o =>
    obtain ⟨fresh, rest, hw, hw'⟩ := advance_clear hadvance
    rw [hw] at hvalid
    rw [hw']
    exact (List.nodup_cons.mp hvalid).2
  | overflow outpoints now =>
    obtain ⟨rest, st', n, hw, -, -, -, hw'⟩ := advance_overflow hadvance
    rw [hw] at hvalid
    rw [hw']
    refine ⟨hvalid, ?_, ?_⟩
    · exact hvalid.sublist (List.take_sublist _ _)
    · intro o ho
      exact List.mem_of_mem_take ho
  | ask o answer =>
    obtain ⟨outpoints, pending, answers, hw, ho, hw'⟩ := advance_ask hadvance
    rw [hw] at hvalid
    rw [hw']
    obtain ⟨hout, hnodup, hsub⟩ := hvalid
    have hperm : ((answers ++ [(o, answer)]).map Prod.fst ++ pending.erase o).Perm (answers.map Prod.fst ++ pending) := by
      rw [List.map_append, List.append_assoc]
      exact (List.perm_cons_erase ho).symm.append_left _
    exact ⟨hout, hperm.nodup_iff.mpr hnodup, fun p hp => hsub p (hperm.mem_iff.mp hp)⟩
  | record o status source now =>
    obtain ⟨outpoints, answers, succeeded, hw, hw'⟩ := advance_record hadvance
    rw [hw] at hvalid
    rw [hw']
    obtain ⟨hout, hnodup, hsub⟩ := hvalid
    have hperm : (answers.map Prod.fst ++ (succeeded ++ [o])).Perm (o :: (answers.map Prod.fst ++ succeeded)) := by
      rw [← List.append_assoc]
      exact List.perm_append_singleton _ _
    exact ⟨hout, hperm.nodup_iff.mpr hnodup, fun p hp => hsub p (hperm.mem_iff.mp hp)⟩
  | requeue o now =>
    obtain ⟨outpoints, e, answers, succeeded, hw, hw'⟩ := advance_requeue hadvance
    rw [hw] at hvalid
    rw [hw']
    obtain ⟨hout, hnodup, hsub⟩ := hvalid
    exact ⟨hout, (List.nodup_cons.mp hnodup).2, fun p hp => hsub p (List.mem_cons_of_mem _ hp)⟩
  | complete o =>
    obtain ⟨outpoints, succeeded, hw, -, hw'⟩ := advance_complete hadvance
    rw [hw] at hvalid
    rw [hw']
    exact (List.nodup_cons.mp hvalid).2
  | fail o =>
    obtain ⟨outpoints, succeeded, hw, -, hw'⟩ := advance_fail hadvance
    rw [hw] at hvalid
    rw [hw']
    exact (List.nodup_cons.mp hvalid).2
  | next =>
    rcases advance_next hadvance with ⟨-, hw'⟩ | ⟨outpoints, answers, hw, hw'⟩ | ⟨outpoints, succeeded, hw, hw'⟩ |
      ⟨succeeded, -, hw'⟩
    · rw [hw']
      trivial
    · rw [hw] at hvalid
      rw [hw']
      exact hvalid
    · rw [hw] at hvalid
      rw [hw']
      exact hvalid.1
    · rw [hw']
      trivial
  | abort =>
    rw [← Option.some.inj hadvance]
    trivial
  | enqueue => exact Option.some.inj hadvance ▸ hvalid
  | observe => exact Option.some.inj hadvance ▸ hvalid
  | label => exact Option.some.inj hadvance ▸ hvalid
  | other => exact Option.some.inj hadvance ▸ hvalid

/-- What a step does to the phase of an outpoint. -/
theorem step_phase (hvalid : s.worker.Valid) (h : step q cap s a = some s') (o : BtcOutPoint) :
    a.Moves o (s.worker.phase o) (s'.worker.phase o) := by
  obtain ⟨hadvance, -⟩ := step_eq_some.mp h
  cases a with
  | drop dropped =>
    obtain ⟨hw, -, hw'⟩ := advance_drop hadvance
    rw [hw, hw']
    exact ⟨rfl, rfl⟩
  | claim rows batch now =>
    obtain ⟨hw, st', items, -, rfl, hw'⟩ := advance_claim hadvance
    rw [hw, hw']
    exact ⟨rfl, phase_afterClaim items o⟩
  | read fresh now =>
    obtain ⟨batch, found, hw, hfound, hperm, hw'⟩ := advance_read hadvance
    rw [hw, hw']
    simp only [Action.Moves, Worker.phase]
    by_cases hbatch : o ∈ batch
    · by_cases hfresh : o ∈ fresh
      · simp [hbatch, hfresh]
      · simp [hbatch, hfresh]
    · have hfresh : o ∉ fresh := fun ho => hbatch ((alreadyFresh_eq_ok hfound).2 o (hperm.mem_iff.mp ho)).1
      simp [hbatch, hfresh]
  | clear o' =>
    obtain ⟨fresh, rest, hw, hw'⟩ := advance_clear hadvance
    rw [hw] at hvalid
    rw [hw, hw']
    simp only [Action.Moves, Worker.phase]
    by_cases ho : o' = o
    · subst ho
      have hnot : o' ∉ fresh ++ rest := (List.nodup_cons.mp hvalid).1
      rw [List.mem_append, not_or] at hnot
      simp [hnot.1, hnot.2]
    · simp [ho, Ne.symm ho]
  | overflow outpoints now =>
    obtain ⟨rest, st', n, hw, -, hdrop, -, hw'⟩ := advance_overflow hadvance
    rw [hw] at hvalid
    rw [hw, hw']
    simp only [Action.Moves, Worker.phase, ← hdrop]
    have hsplit : o ∈ rest ↔ o ∈ rest.take cap ∨ o ∈ rest.drop cap := by
      rw [← List.mem_append, List.take_append_drop]
    have hnodup : (rest.take cap ++ rest.drop cap).Nodup := by
      rw [List.take_append_drop]
      exact hvalid
    by_cases hover : o ∈ rest.drop cap
    · have htake : o ∉ rest.take cap := fun ht => (List.nodup_append.mp hnodup).2.2 o ht o hover rfl
      simp [hover, htake, hsplit, answerPhase]
    · by_cases htake : o ∈ rest.take cap
      · simp [hover, htake, hsplit]
      · simp [hover, htake, hsplit, answerPhase]
  | ask o' answer =>
    obtain ⟨outpoints, pending, answers, hw, ho', hw'⟩ := advance_ask hadvance
    rw [hw] at hvalid
    rw [hw, hw']
    obtain ⟨-, hnodup, -⟩ := hvalid
    simp only [Action.Moves, Worker.phase, answerPhase_append]
    by_cases ho : o' = o
    · subst ho
      have hanswers : answerPhase o' answers = none :=
        answerPhase_eq_none.mpr fun hm => (List.nodup_append.mp hnodup).2.2 o' hm o' ho' rfl
      have hpending : o' ∉ pending.erase o' := (List.nodup_append.mp hnodup).2.1.not_mem_erase
      simp [ho', hpending, hanswers]
    · have hpending : o ∈ pending.erase o' ↔ o ∈ pending := List.mem_erase_of_ne (Ne.symm ho)
      simp [ho, hpending]
  | record o' status source now =>
    obtain ⟨outpoints, answers, succeeded, hw, hw'⟩ := advance_record hadvance
    rw [hw] at hvalid
    rw [hw, hw']
    obtain ⟨-, hnodup, -⟩ := hvalid
    simp only [Action.Moves, Worker.phase, answerPhase_cons]
    by_cases ho : o' = o
    · subst ho
      have hnot : o' ∉ answers.map Prod.fst ++ succeeded := (List.nodup_cons.mp hnodup).1
      rw [List.mem_append, not_or] at hnot
      have hanswers : answerPhase o' answers = none := answerPhase_eq_none.mpr hnot.1
      simp [hanswers, Phase.ofAnswer]
    · simp [ho, Ne.symm ho]
  | requeue o' now =>
    obtain ⟨outpoints, e, answers, succeeded, hw, hw'⟩ := advance_requeue hadvance
    rw [hw] at hvalid
    rw [hw, hw']
    obtain ⟨-, hnodup, hsub⟩ := hvalid
    simp only [Action.Moves, Worker.phase, answerPhase_cons]
    by_cases ho : o' = o
    · subst ho
      have hnot : o' ∉ answers.map Prod.fst ++ succeeded := (List.nodup_cons.mp hnodup).1
      rw [List.mem_append, not_or] at hnot
      have hanswers : answerPhase o' answers = none := answerPhase_eq_none.mpr hnot.1
      have hout : o' ∈ outpoints := hsub o' (by simp)
      simp [hanswers, hnot.2, hout, Phase.ofAnswer]
    · simp [ho]
  | complete o' =>
    obtain ⟨outpoints, succeeded, hw, hsucceeded, hw'⟩ := advance_complete hadvance
    rw [hw] at hvalid
    rw [hw, hw']
    simp only [Action.Moves, Worker.phase]
    by_cases ho : o' = o
    · subst ho
      simp [hsucceeded, (List.nodup_cons.mp hvalid).1]
    · simp [ho, Ne.symm ho]
  | fail o' =>
    obtain ⟨outpoints, succeeded, hw, hsucceeded, hw'⟩ := advance_fail hadvance
    rw [hw] at hvalid
    rw [hw, hw']
    simp only [Action.Moves, Worker.phase]
    by_cases ho : o' = o
    · subst ho
      simp [hsucceeded, (List.nodup_cons.mp hvalid).1]
    · simp [ho, Ne.symm ho]
  | next =>
    rcases advance_next hadvance with ⟨hw, hw'⟩ | ⟨outpoints, answers, hw, hw'⟩ | ⟨outpoints, succeeded, hw, hw'⟩ |
      ⟨succeeded, hw, hw'⟩
    · simp [hw, hw', Action.Moves, Worker.phase]
    · simp [hw, hw', Action.Moves, Worker.phase]
    · rw [hw] at hvalid
      have hsub : o ∈ succeeded → o ∈ outpoints := fun ho => hvalid.2.2 o (by simpa using ho)
      simp only [hw, hw', Action.Moves, Worker.phase, answerPhase, List.find?_nil, Option.map_none, Option.getD_none]
      by_cases hsucceeded : o ∈ succeeded
      · simp [hsucceeded, hsub hsucceeded]
      · simp [hsucceeded]
    · simp [hw, hw', Action.Moves, Worker.phase]
  | abort =>
    rw [← Option.some.inj hadvance]
    rfl
  | enqueue => exact congrArg (Worker.phase o) (Option.some.inj hadvance).symm
  | observe => exact congrArg (Worker.phase o) (Option.some.inj hadvance).symm
  | label => exact congrArg (Worker.phase o) (Option.some.inj hadvance).symm
  | other => exact congrArg (Worker.phase o) (Option.some.inj hadvance).symm

/-! ## The keys of the queue -/

/-- Every queued key is the key of an outpoint. -/
def KeysReadable (st : Store) : Prop := ∀ key r, st.btcRefreshQueue.get? key = some r → ∃ o : BtcOutPoint, o.key = key

theorem keysReadable_empty : KeysReadable .empty := by
  intro key r hrow
  cases hrow

theorem KeysReadable.step (h : KeysReadable s.store) (hstep : Queue.step q cap s a = some s') : KeysReadable s'.store := by
  intro key r' hr'
  rw [step_row hstep] at hr'
  rcases Action.onRow_cases hr' with hsame | ⟨r, now, -, hr, -⟩ | ⟨o, reason, replaceReason, now, ho, -⟩ | ⟨r, error, hr, -⟩
  · exact h key r' hsame
  · exact h key r hr
  · exact ⟨o, ho⟩
  · exact h key r hr

/-- With readable keys a claimed entry is an outpoint of the drain. -/
theorem phase_afterClaim_of_mem {items : List QueueItem} {o : BtcOutPoint}
    (hkeys : ∀ item ∈ items, ∃ o : BtcOutPoint, o.key = item.key) (ho : o.key ∈ items.map QueueItem.key) :
    (afterClaim items).phase o = .claimed := by
  have hread : ∃ os, items.mapM QueueItem.outPoint = .ok os := by
    clear ho
    induction items with
    | nil => exact ⟨[], rfl⟩
    | cons item items ih =>
      obtain ⟨os, hos⟩ := ih fun i hi => hkeys i (List.mem_cons_of_mem _ hi)
      obtain ⟨o', ho'⟩ := hkeys item List.mem_cons_self
      refine ⟨o' :: os, mapM_eq_ok.mpr (.cons ?_ (mapM_eq_ok.mp hos))⟩
      exact Store.outPointOfKey_eq_ok.mpr ho'
  obtain ⟨os, hos⟩ := hread
  have hmap := Store.map_key_of_mapM hos
  rw [← hmap, List.mem_map_of_injective BtcOutPoint.key_injective] at ho
  unfold afterClaim
  rw [hos]
  cases os with
  | nil => cases ho
  | cons o' os => exact if_pos ho

/-- What a claim does to the phase and the entry of an outpoint. -/
theorem step_claim {rows : ClaimOrder} {batch : List OutpointKey} {now : DateTime} (hkeys : KeysReadable s.store)
    (h : step q cap s (.claim rows batch now) = some s') (o : BtcOutPoint) :
    if o.key ∈ batch then
      s'.worker.phase o = .claimed ∧ ∃ r, s.store.btcRefreshQueue.get? o.key = some r ∧ r.attempts < 1023
    else s'.worker.phase o = .out := by
  obtain ⟨hadvance, -⟩ := step_eq_some.mp h
  obtain ⟨-, st', items, hclaim, rfl, hw⟩ := advance_claim hadvance
  have hitem : ∀ key ∈ items.map QueueItem.key, ∃ r, s.store.btcRefreshQueue.get? key = some r ∧ r.attempts < 1023 := by
    intro key hkey
    obtain ⟨r, hpicked⟩ := (Store.mem_claimed hclaim).mp hkey
    have hdue := Store.due_of_mem_pickedRefreshes hpicked
    exact ⟨r, (Store.mem_dueRefreshes.mp hdue).1, Store.attempts_lt_of_claimed hclaim hpicked⟩
  rw [hw]
  by_cases ho : o.key ∈ items.map QueueItem.key
  · rw [if_pos ho]
    refine ⟨phase_afterClaim_of_mem (fun item hmem => ?_) ho, hitem o.key ho⟩
    obtain ⟨r, hr, -⟩ := hitem item.key (List.mem_map.mpr ⟨item, hmem, rfl⟩)
    exact hkeys item.key r hr
  · rw [if_neg ho]
    rcases phase_afterClaim items o with hout | ⟨-, hmem⟩
    · exact hout
    · exact absurd hmem ho

end RgbppIndexer.Queue
