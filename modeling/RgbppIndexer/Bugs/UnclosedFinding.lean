import RgbppIndexer.Indexer.System

/-!
# A late transition leaves its finding open

`resolve_anomalies_for_outpoint` (crates/store/src/anomalies.rs:61-75) is
"called when the matching CKB transition finally shows up", and
`detect_misspends` calls it with the comment that "a transition may have been
indexed since the observation was written" (crates/indexer/src/sweeper.rs:183).
But both places that call it work through outpoints that still have an
unconsumed cell: the sweep refreshes live bindings, and the search starts from
`pending_ckb_outpoints`. The transition that consumes the last cell of an
outpoint takes it off both lists.

Counterexample: an outpoint is flagged, then its cell is consumed. The next
sweep succeeds, its search is not skipped, and the finding is still open
(`late_transition`).

* `openAnomaly_walk`, `openAnomaly_detect`: a sweep neither opens nor closes
  anything about an outpoint it never reads as live.
* `closed_iff`: **nothing is open for a consumed outpoint after a sweep exactly
  when nothing was open before it**, or a refresh by another task closed it
  meanwhile.
-/
namespace RgbppIndexer.Bugs.UnclosedFinding

open RgbppIndexer.Core RgbppIndexer.System Store

section
variable [Sha2] {cfg : Config} {errorText : IndexerError → String} {st st' : Store} {key : OutpointKey}

/-- A search for misspends that comes to the outpoint. -/
def Searches (key : OutpointKey) : Event → Prop
  | .examine _ _ _ _ row => row.1 = key
  | _ => False

/-- A refresh of the very outpoint, answered without a spend. -/
def Closes (key : OutpointKey) : Event → Prop
  | .answer _ _ answer => Reconciler.Closes key answer
  | _ => False

/-! ## The other tasks -/

/-- But for a search, only an answer about the outpoint does anything to its findings. -/
theorem openAnomaly_apply (hkeyed : AnomaliesKeyed st) {event : Event} (hevent : ¬ Searches key event) (k : String) :
    OpenAnomaly k key (apply cfg errorText st event) ↔ OpenAnomaly k key st ∧ ¬ Closes key event := by
  cases event with
  | write event => exact (openAnomaly_of_eq (write_rgbppAnomalies event)).trans (and_iff_left id).symm
  | answer r moment answer => exact openAnomaly_answer r moment answer
  | examine w now tip moment row =>
    have hsearched : w.Searched tip st ([] ++ [row]) (apply cfg errorText st (.examine w now tip moment row)) :=
      .step (.start hkeyed)
    have hother : ∀ e ∈ [] ++ [row], e.1 ≠ key := by
      intro e he
      rw [List.nil_append, List.mem_singleton] at he
      exact he ▸ hevent
    refine ⟨fun hopen => ⟨?_, id⟩, fun hopen => hsearched.left k key hopen.1 fun e he hkey => absurd hkey (hother e he)⟩
    rcases hsearched.opened k key hopen with hold | ⟨e, he, hkey, -⟩
    · exact hold
    · exact absurd hkey (hother e he)
  | verify v now moment row =>
    exact ((verifyStep_anomalies v now moment {} row hkeyed).2.1 k key).trans (and_iff_left id).symm
  | cacheTx txid row => exact (and_iff_left id).symm
  | queue rows => exact (and_iff_left id).symm

/-- What other tasks do between two pages leaves the findings of the outpoint as they are, unless they refresh it. -/
theorem openAnomaly_events {events : List Event} (hrun : (tasks cfg errorText).Run st events st') (hkeyed : AnomaliesKeyed st)
    (hsearch : ∀ e ∈ events, ¬ Searches key e) :
    AnomaliesKeyed st' ∧ ∀ k, OpenAnomaly k key st' ↔ OpenAnomaly k key st ∧ ∀ e ∈ events, ¬ Closes key e := by
  induction hrun with
  | nil => exact ⟨hkeyed, fun k => by simp⟩
  | snoc _ hstep ih =>
    obtain ⟨hbefore, hopen⟩ := ih fun e he => hsearch e (List.mem_append_left _ he)
    obtain rfl := show _ = _ from hstep
    refine ⟨AnomaliesKeyed.step hbefore _, fun k => ?_⟩
    rw [openAnomaly_apply hbefore (hsearch _ (by simp)), hopen]
    simp only [List.mem_append, List.mem_singleton, or_imp, forall_and, forall_eq, and_assoc]

/-! ## The sweep -/

variable {w : Sweeper} {env : SweepEnv} {fuel : Nat} {walk walk' : Walk} {others : Nat → List Event}

omit [Sha2] in
/-- The refresh of live outpoints leaves the findings of one without unconsumed cells alone. -/
theorem openAnomaly_refresh (hconsumed : ¬ LiveBound key st) (r : Reconciler) (moment : Nat) {outpoints : List BtcOutPoint}
    (hlive : ∀ o ∈ outpoints, LiveBound (BtcOutPoint.key o) st) (k : String) :
    OpenAnomaly k key (r.refreshOutpoints moment st outpoints).store ↔ OpenAnomaly k key st := by
  obtain ⟨done, hpre, hanswered⟩ := Reconciler.refreshOutpoints_answered r moment st outpoints
  rw [hanswered.anomalies]
  refine and_iff_left fun a ha hcloses => hconsumed ?_
  rw [← hcloses.1]
  exact hlive a.1 (Reconciler.mem_of_mem_answers (hpre.subset ha))

omit [Sha2] in
/-- So does a search, for which it is not pending. -/
theorem openAnomaly_detect (hkeyed : AnomaliesKeyed st) (hconsumed : ¬ LiveBound key st) (w : Sweeper) (env : DetectEnv)
    (k : String) : OpenAnomaly k key (w.detectMisspends env st).1 ↔ OpenAnomaly k key st := by
  rcases w.detectMisspends_searched env hkeyed with hsame | ⟨tip, done, -, hpre, hsearched⟩
  · rw [hsame]
  · have hnot : ∀ e ∈ done, e.1 ≠ key := by
      rintro e he rfl
      exact hconsumed (mem_pendingRows.mp (mem_of_mem_pendingCkbOutpoints (hpre.subset he))).1
    refine ⟨fun hopen => ?_, fun hopen => hsearched.left k key hopen fun e he hkey => absurd hkey (hnot e he)⟩
    rcases hsearched.opened k key hopen with hold | ⟨e, he, hkey, -⟩
    · exact hold
    · exact absurd hkey (hnot e he)

/-- A walk leaves the findings of the outpoint to the other tasks, where no page reads an unconsumed cell of it. -/
theorem openAnomaly_walk (hbetween : ∀ n s, (tasks cfg errorText).Run s (others n) (env.between n s))
    (hsearch : ∀ n, ∀ e ∈ others n, ¬ Searches key e) {n : Nat} {cursor : Option OutpointKey}
    (h : w.sweepPages env fuel n cursor walk = some (walk', .ok ())) (hkeyed : AnomaliesKeyed walk.store)
    (hconsumed : ∀ s ∈ walk'.reads, ¬ LiveBound key s) :
    AnomaliesKeyed walk'.store ∧ walk'.store ∈ walk'.reads ∧
      ∃ pages, walk'.reads.length = walk.reads.length + pages + 1 ∧ walk.reads ++ [walk.store] <+: walk'.reads ∧
        ∀ k, OpenAnomaly k key walk'.store ↔
          OpenAnomaly k key walk.store ∧ ∀ m < pages, ∀ e ∈ others (n + m), ¬ Closes key e := by
  induction fuel generalizing n cursor walk with
  | zero => cases h
  | succ fuel ih =>
    obtain ⟨page, hpage, ⟨-, rfl⟩ | ⟨-, outpoints, out, report, hkeys, -, hrest⟩⟩ := sweepPages_eq_ok h
    · exact ⟨hkeyed, by simp, 0, by simp, List.prefix_rfl, fun k => by simp⟩
    · -- the page, and what the others do after it
      have hpageKeyed : AnomaliesKeyed (pageWalk w env n walk outpoints).store := by
        obtain ⟨done, -, hanswered⟩ :=
          Reconciler.refreshOutpoints_answered (w.pageReconciler env n) (env.pageMoment n) walk.store outpoints
        exact hanswered.keyed hkeyed
      obtain ⟨hkeyedNext, hafter⟩ := openAnomaly_events (hbetween n _) hpageKeyed (hsearch n)
      obtain ⟨hkeyed', hlast, pages, hlength, hprefix, hopen⟩ := ih hrest hkeyedNext
      have hreads : walk.reads ++ [walk.store] <+: walk'.reads := (List.prefix_append _ _).trans hprefix
      have hread : ¬ LiveBound key walk.store := hconsumed _ (hreads.subset (by simp))
      have hlive : ∀ o ∈ outpoints, LiveBound (BtcOutPoint.key o) walk.store := fun o ho =>
        liveBound_of_page hpage (hkeys ▸ List.mem_map_of_mem ho)
      refine ⟨hkeyed', hlast, pages + 1, ?_, hreads, fun k => ?_⟩
      · rw [hlength]
        simp only [pageWalk, List.length_append, List.length_singleton]
        omega
      · rw [hopen, hafter, show OpenAnomaly k key (pageWalk w env n walk outpoints).store ↔ OpenAnomaly k key walk.store from
          openAnomaly_refresh hread _ _ hlive k, and_assoc]
        refine and_congr_right fun _ => ⟨fun ⟨hfirst, hlater⟩ m hm => ?_, fun hall => ⟨?_, fun m hm => ?_⟩⟩
        · cases m with
          | zero => exact hfirst
          | succ m => exact Nat.add_right_comm n m 1 ▸ hlater m (Nat.lt_of_succ_lt_succ hm)
        · exact hall 0 (Nat.succ_pos pages)
        · exact Nat.add_right_comm n 1 m ▸ hall (m + 1) (Nat.succ_lt_succ hm)

/-- **When nothing is open for a consumed outpoint after a sweep**: exactly when nothing was open before it, or another
task refreshed the very outpoint meanwhile and was told of no spend. -/
theorem closed_iff {events : List Event} {report : SweepReport} (hrun : (tasks cfg errorText).Run .empty events st)
    (hbetween : ∀ n s, (tasks cfg errorText).Run s (others n) (env.between n s))
    (hsearch : ∀ n, ∀ e ∈ others n, ¬ Searches key e) (hwalk : w.sweepWalk env fuel st = some (walk, .ok ()))
    (hsweep : w.sweepOnce env fuel st = some (st', .ok report)) (hconsumed : ∀ s ∈ walk.reads, ¬ LiveBound key s) :
    ¬ OpenFinding key st' ↔
      ¬ OpenFinding key st ∨ ∃ n, n + 1 < walk.reads.length ∧ ∃ e ∈ others n, Closes key e := by
  have hkeyed : AnomaliesKeyed st := AnomaliesKeyed.run hrun
  obtain ⟨walk', found, hwalk', hdetect⟩ := sweepOnce_eq_ok hsweep
  obtain ⟨rfl, -⟩ := Prod.mk.inj (Option.some.inj (hwalk.symm.trans hwalk'))
  obtain ⟨hwalked, hlast, pages, hlength, -, hopen⟩ := openAnomaly_walk hbetween hsearch hwalk hkeyed hconsumed
  obtain rfl : (w.detectMisspends env.toDetectEnv walk.store).1 = st' := congrArg Prod.fst hdetect
  have hfinal : AnomaliesKeyed (w.detectMisspends env.toDetectEnv walk.store).1 := by
    rcases w.detectMisspends_searched env.toDetectEnv hwalked with hsame | ⟨tip, done, -, -, hsearched⟩
    · rw [hsame]
      exact hwalked
    · exact hsearched.keyed
  have hstays : OpenFinding key (w.detectMisspends env.toDetectEnv walk.store).1 ↔
      OpenFinding key st ∧ ∀ m < pages, ∀ e ∈ others m, ¬ Closes key e := by
    rw [openFinding_iff hfinal, openFinding_iff hkeyed, ← exists_and_right]
    refine exists_congr fun k => ?_
    rw [openAnomaly_detect hwalked (hconsumed _ hlast), hopen]
    simp only [Nat.zero_add]
  have hpages : walk.reads.length = pages + 1 := by simpa using hlength
  rw [hstays, not_and_or, hpages]
  simp only [Nat.add_lt_add_iff_right, not_forall, not_not, exists_prop]

end

/-! ## The counterexample -/

section
open Sample

local instance : Sha2 := .standard

/-- It consumes the cell of the issuance, and binds a new one to the spender of its outpoint. -/
def transfer : RpcTransaction where
  hash := hash 2
  inputs := [⟨cell⟩]
  outputs := [(boundOutput 142 spender).cell]
  outputsData := [[]]

/-- The transfer comes a block after the issuance. -/
def lateChain : Chain := .ofBlocks [block 0 [], block 1 [], block 2 [issuance], block 3 [transfer]] (by decide +kernel)

/-- A round for each of the two. -/
def rounds : List Event := [.write (.scan (env (lateChain.serve 2))), .write (.scan (env (lateChain.serve 3)))]

/-- The outpoint is flagged, and then the transfer lands. -/
def events : List Event := flagged (lateChain.serve 2) ++ [.write (.scan (env (lateChain.serve 3)))]

def landed : Store := after (.testnet 64) (fun _ => "") events

theorem landed_run : (tasks (.testnet 64) fun _ => "").Run .empty events landed := run_after ..

/-- **The finding is still open** after a sweep that succeeds and searches, although every cell bound to the outpoint is
consumed. -/
theorem late_transition :
    (tasks (.testnet 64) fun _ => "").Run .empty events landed ∧ ¬ LiveBound outpoint.key landed ∧
      ∃ walk st' report, sweeper.sweepWalk sweepEnv 5 landed = some (walk, .ok ()) ∧
        sweeper.indexerIsCaughtUp walk.store = true ∧ sweeper.sweepOnce sweepEnv 5 landed = some (st', .ok report) ∧
        ¬ LiveBound outpoint.key st' ∧ OpenFinding outpoint.key st' := by
  -- one evaluation of the run answers all of it
  have hruns : outpoint.key ∉ landed.liveBoundOutpoints ∧
      ((sweeper.sweepWalk sweepEnv 5 landed).any fun p =>
        decide (p.2 = .ok ()) && sweeper.indexerIsCaughtUp p.1.store) = true ∧
      ((sweeper.sweepOnce sweepEnv 5 landed).any fun p => p.2.isOk && !decide (outpoint.key ∈ p.1.liveBoundOutpoints) &&
        decide (OpenAnomaly (dedupKey .noCommitmentInSpender outpoint.text) outpoint.key p.1)) = true := by decide +kernel
  obtain ⟨hlive, hok, hsweep⟩ := hruns
  obtain ⟨⟨walk, done⟩, hwalk, hgate⟩ := (Option.any_eq_true ..).mp hok
  obtain ⟨hdone, hgate⟩ := (Bool.and_eq_true ..).mp hgate
  obtain rfl := of_decide_eq_true hdone
  obtain ⟨⟨st', result⟩, hresult, hfinal⟩ := (Option.any_eq_true ..).mp hsweep
  simp only [Bool.and_eq_true, Bool.not_eq_true', decide_eq_false_iff_not, decide_eq_true_eq, mem_liveBoundOutpoints]
    at hfinal hlive
  cases result with
  | error e => cases hfinal.1.1
  | ok report =>
    have hkeyed : AnomaliesKeyed st' := by
      have hlater : ∃ later, (tasks (.testnet 64) fun _ => "").Run landed later st' :=
        sweepOnce_run (fun n s => ⟨[], .nil⟩) hresult
      exact AnomaliesKeyed.run (landed_run.append hlater.choose_spec)
    exact ⟨landed_run, hlive, walk, st', report, hwalk, hgate, hresult, hfinal.1.2,
      (openFinding_iff hkeyed).mpr ⟨_, hfinal.2⟩⟩

/-- The queue worker comes to the outpoint after the first page, and is told that it is unspent. -/
def queued : Event := .answer (reconciler .unspent) 1 (outpoint, .ok .unspent)

def meanwhile : Nat → List Event
  | 0 => [queued]
  | _ + 1 => []

def busyEnv : SweepEnv :=
  { sweepEnv with
    between := fun n st =>
      match n with
      | 0 => System.apply (.testnet 64) (fun _ => "") st queued
      | _ + 1 => st }

theorem busyEnv_between (n : Nat) (st : Store) :
    (tasks (.testnet 64) fun _ => "").Run st (meanwhile n) (busyEnv.between n st) := by
  cases n with
  | zero => exact .cons rfl .nil
  | succ n => exact .nil

theorem meanwhile_searches (n : Nat) : ∀ e ∈ meanwhile n, ¬ Searches outpoint.key e := by
  intro e he
  cases n with
  | zero =>
    obtain rfl := List.mem_singleton.mp he
    exact id
  | succ n => cases he

/-- The finding of the late transition is closed where the queue worker refreshes the outpoint during the sweep. -/
theorem closed_iff_queued : OpenFinding outpoint.key landed ∧
    ∃ walk st' report, sweeper.sweepWalk busyEnv 5 landed = some (walk, .ok ()) ∧
      sweeper.sweepOnce busyEnv 5 landed = some (st', .ok report) ∧ (∀ s ∈ walk.reads, ¬ LiveBound outpoint.key s) ∧
      (¬ OpenFinding outpoint.key st' ↔ ¬ OpenFinding outpoint.key landed ∨
        ∃ n, n + 1 < walk.reads.length ∧ ∃ e ∈ meanwhile n, Closes outpoint.key e) ∧
      ¬ OpenFinding outpoint.key st' := by
  have hruns : OpenAnomaly (dedupKey .noCommitmentInSpender outpoint.text) outpoint.key landed ∧
      ((sweeper.sweepWalk busyEnv 5 landed).any fun p => decide (p.2 = .ok ()) && decide (p.1.reads.length = 2) &&
        p.1.reads.all fun s => !decide (outpoint.key ∈ s.liveBoundOutpoints)) = true ∧
      ((sweeper.sweepOnce busyEnv 5 landed).any fun p => p.2.isOk) = true := by decide +kernel
  obtain ⟨hopen, hok, hsweep⟩ := hruns
  obtain ⟨⟨walk, done⟩, hwalk, hreads⟩ := (Option.any_eq_true ..).mp hok
  simp only [Bool.and_eq_true, decide_eq_true_eq, List.all_eq_true, Bool.not_eq_true', decide_eq_false_iff_not,
    mem_liveBoundOutpoints] at hreads
  obtain ⟨⟨rfl, hpages⟩, hconsumed⟩ := hreads
  obtain ⟨⟨st', result⟩, hresult, hreport⟩ := (Option.any_eq_true ..).mp hsweep
  cases result with
  | error e => cases hreport
  | ok report =>
    have hiff := closed_iff landed_run busyEnv_between meanwhile_searches hwalk hresult hconsumed
    refine ⟨(openFinding_iff (AnomaliesKeyed.run landed_run)).mpr ⟨_, hopen⟩, walk, st', report, hwalk, hresult, hconsumed,
      hiff, hiff.mpr (.inr ⟨0, by omega, queued, List.mem_singleton_self _, rfl, _, rfl, rfl⟩)⟩

end
end RgbppIndexer.Bugs.UnclosedFinding
