import RgbppIndexer.Chain.Serve
import RgbppIndexer.Indexer.Findings
import RgbppIndexer.Indexer.Observations
import RgbppIndexer.Indexer.Verify

/-!
# Runs of all tasks

Scanner, sweeper, queue worker, verifier, the address tasks and the API
handlers write to one database, concurrently. Their work is cut where another
task can come in between: a scan round is one event, and so is one answer of a
refresh, one row of a search for misspends, one transition of a commitment
check. The rest are single statements.

A task works through a list it read earlier, and other tasks may have written
since. What an event works on is therefore free.

* `AnomaliesKeyed.run`: the anomalies are about what their keys say, in every
  run.
* `refreshOutpoints_run`, `detectMisspends_run`, `sweepOnce_run`,
  `verifyOnce_run`: the operations of the tasks are runs.
-/
namespace RgbppIndexer

open RgbppIndexer.Core

namespace System

/-- What a task does between two points at which others can come in. -/
inductive Event where
  /-- a scan round, a label, or an answer that is only written -/
  | write (event : Observations.Event)
  | answer (r : Reconciler) (moment : Nat) (answer : Observed)
  | examine (w : Sweeper) (now : DateTime) (tip : BtcTip) (moment : Nat) (row : OutpointKey × ObservationRow)
  | verify (v : CommitmentVerifier) (now : DateTime) (moment : Nat) (row : Bytes × TransitionRecord)
  | cacheTx (txid : Bytes) (row : BtcTxRow)
  /-- any statement on the refresh queue -/
  | queue (rows : Table OutpointKey QueueRow)

/-- The database after an event. -/
def apply [Sha2] (cfg : Config) (errorText : IndexerError → String) (st : Store) : Event → Store
  | .write event => Observations.apply cfg errorText st event
  | .answer r moment answer => (r.refreshStep moment { store := st, out := [], observed := [] } answer).1.store
  | .examine w now tip moment row => (w.detectStep now tip moment (st, {}) row).1.1
  | .verify v now moment row => (v.verifyStep now moment (st, {}) row).1.1
  | .cacheTx txid row => st.upsertBtcTx txid row
  | .queue rows => { st with btcRefreshQueue := rows }

/-- All tasks, from a freshly migrated database. -/
def tasks [Sha2] (cfg : Config) (errorText : IndexerError → String) : Lts Store Event where
  init st := st = .empty
  step st event st' := st' = apply cfg errorText st event

/-- The database after some events, from the start. -/
def after [Sha2] (cfg : Config) (errorText : IndexerError → String) (events : List Event) : Store :=
  events.foldl (apply cfg errorText) .empty

theorem run_after [Sha2] (cfg : Config) (errorText : IndexerError → String) (events : List Event) :
    (tasks cfg errorText).Run .empty events (after cfg errorText events) := by
  unfold after
  induction events using List.reverseRecOn with
  | nil => exact .nil
  | append_singleton events event ih =>
    rw [List.foldl_append]
    exact ih.snoc rfl

/-! ## What an event does to the anomalies -/

section
variable [Sha2] {cfg : Config} {errorText : IndexerError → String} {st st' : Store} {key : OutpointKey} {k : String}

variable (cfg errorText st) in
/-- A write that is no scan round is about the observations. -/
theorem write_cases (event : Observations.Event) : (∃ env, event = .scan env) ∨
    Observations.apply cfg errorText st event =
      { st with btcOutpoints := (Observations.apply cfg errorText st event).btcOutpoints } := by
  have hkept : ∀ {result : Except StoreError (Store × Nat)}, (∀ labelled n, result = .ok (labelled, n) →
      labelled = { st with btcOutpoints := labelled.btcOutpoints }) →
      Observations.kept st result = { st with btcOutpoints := (Observations.kept st result).btcOutpoints } := by
    intro result hresult
    cases result with
    | error e => rfl
    | ok labelled => exact hresult labelled.1 labelled.2 rfl
  cases event with
  | observe key status address source now => exact .inr rfl
  | labelFunding txid outputs now => exact .inr (hkept fun _ _ h => (Store.recordBindingAddresses_eq_ok h).1)
  | labelAddress outpoints address now => exact .inr (hkept fun _ _ h => (Store.recordOutpointAddresses_eq_ok h).1)
  | scan env => exact .inl ⟨env, rfl⟩

/-- The scanner and the labels leave the anomalies alone. -/
theorem write_rgbppAnomalies (event : Observations.Event) :
    (Observations.apply cfg errorText st event).rgbppAnomalies = st.rgbppAnomalies := by
  rcases write_cases cfg errorText st event with ⟨env, rfl⟩ | hframe
  · rcases scannerStep_cases cfg env errorText st with hnoted | ⟨reads, batch, hcommitted⟩
    · rw [Observations.apply, hnoted.facts]
    · rw [Observations.apply, hcommitted.facts]
  · rw [hframe]

omit [Sha2] in
/-- A commitment check opens and closes nothing that is about an outpoint, and leaves the cells alone. -/
theorem verifyStep_anomalies (v : CommitmentVerifier) (now : DateTime) (moment : Nat) (report : VerifyReport)
    (row : Bytes × TransitionRecord) (h : AnomaliesKeyed st) :
    AnomaliesKeyed (v.verifyStep now moment (st, report) row).1.1 ∧
      (∀ k key, OpenAnomaly k key (v.verifyStep now moment (st, report) row).1.1 ↔ OpenAnomaly k key st) ∧
      (v.verifyStep now moment (st, report) row).1.1.rgbppCells = st.rgbppCells := by
  -- everything it does but for recording leaves the anomalies alone
  have hsame : ∀ {s : Store}, s.rgbppAnomalies = st.rgbppAnomalies → s.rgbppCells = st.rgbppCells →
      AnomaliesKeyed s ∧ (∀ k key, OpenAnomaly k key s ↔ OpenAnomaly k key st) ∧ s.rgbppCells = st.rgbppCells :=
    fun hs hcells => ⟨h.of_eq hs, fun k key => openAnomaly_of_eq hs, hcells⟩
  have hrecord : ∀ {s s' : Store} {kind : AnomalyKind} {hash : Bytes} {btcTxid : Option Bytes} {detail : JsonObject},
      kind.isMisspend = false → s.rgbppAnomalies = st.rgbppAnomalies →
      s'.rgbppAnomalies = (s.recordForTransition kind hash btcTxid detail now).rgbppAnomalies →
      s'.rgbppCells = st.rgbppCells →
      AnomaliesKeyed s' ∧ (∀ k key, OpenAnomaly k key s' ↔ OpenAnomaly k key st) ∧ s'.rgbppCells = st.rgbppCells := by
    intro s s' kind hash btcTxid detail hkind hs hs' hcells
    refine ⟨AnomaliesKeyed.of_eq ((h.of_eq hs).recordForTransition hkind) hs', fun k key => ?_, hcells⟩
    rw [openAnomaly_of_eq hs', openAnomaly_recordForTransition (h.of_eq hs) hkind, openAnomaly_of_eq hs]
  unfold CommitmentVerifier.verifyStep
  cases row.2.btcTxid with
  | none => exact hsame rfl rfl
  | some btcTxid =>
    dsimp only
    split
    · exact hsame rfl rfl
    · cases BtcTxid.fromDisplaySlice btcTxid with
      | error e => exact hsame rfl rfl
      | ok txid =>
        obtain ⟨hckb, hfetched⟩ := Reconciler.refreshBtcTx_same v.reconciler moment st txid
        have hcells := hckb.cells
        dsimp only
        generalize v.reconciler.refreshBtcTx moment st txid = fetched at hfetched hcells ⊢
        obtain ⟨s, result⟩ := fetched
        dsimp only at hfetched hcells ⊢
        cases result with
        | error e => exact hsame hfetched hcells
        | ok reply =>
          cases reply with
          | none => exact hrecord rfl hfetched rfl hcells
          | some tx =>
            unfold CommitmentVerifier.checkCommitment
            dsimp only
            split
            · exact hrecord rfl hfetched rfl hcells
            · exact hsame hfetched hcells

theorem openAnomaly_answer (r : Reconciler) (moment : Nat) (answer : Observed) :
    OpenAnomaly k key (apply cfg errorText st (.answer r moment answer)) ↔
      OpenAnomaly k key st ∧ ¬ Reconciler.Closes key answer := Reconciler.openAnomaly_refreshStep

theorem apply_examine (w : Sweeper) (now : DateTime) (tip : BtcTip) (moment : Nat) (row : OutpointKey × ObservationRow) :
    apply cfg errorText st (.examine w now tip moment row) = (w.detectStep now tip moment (st, {}) row).1.1 := rfl

/-- Every event leaves the anomalies about what their keys say. -/
theorem AnomaliesKeyed.step (h : AnomaliesKeyed st) (event : Event) : AnomaliesKeyed (apply cfg errorText st event) := by
  cases event with
  | write event => exact h.of_eq (write_rgbppAnomalies event)
  | answer r moment answer => exact Reconciler.anomaliesKeyed_refreshStep h
  | examine w now tip moment row => exact (Sweeper.Searched.step (.start h)).keyed
  | verify v now moment row => exact (verifyStep_anomalies v now moment {} row h).1
  | cacheTx txid row => exact h.of_eq rfl
  | queue rows => exact h.of_eq rfl

theorem AnomaliesKeyed.run {events : List Event} (hrun : (tasks cfg errorText).Run .empty events st) : AnomaliesKeyed st := by
  refine hrun.keeps (fun s event t hs hstep => ?_) anomaliesKeyed_empty
  rw [show t = _ from hstep]
  exact AnomaliesKeyed.step hs event

end

/-! ## The operations are runs -/

section
variable [Sha2] {cfg : Config} {errorText : IndexerError → String} {st st' : Store}

omit [Sha2] in
theorem refreshStep_store (r : Reconciler) (moment : Nat) (pass : RefreshPass) (answer : Observed) :
    (r.refreshStep moment pass answer).1.store =
      (r.refreshStep moment { store := pass.store, out := [], observed := [] } answer).1.store := by
  unfold Reconciler.refreshStep
  cases answer.2 with
  | error e => rfl
  | ok status =>
    dsimp only
    split <;> rfl

omit [Sha2] in
theorem detectStep_store (w : Sweeper) (now : DateTime) (tip : BtcTip) (moment : Nat) (pass : Store × MisspendsFound)
    (row : OutpointKey × ObservationRow) :
    (w.detectStep now tip moment pass row).1.1 = (w.detectStep now tip moment (pass.1, {}) row).1.1 := by
  obtain ⟨st, found⟩ := pass
  unfold Sweeper.detectStep
  dsimp only
  repeat' split
  all_goals rfl

omit [Sha2] in
theorem verifyStep_store (v : CommitmentVerifier) (now : DateTime) (moment : Nat) (pass : Store × VerifyReport)
    (row : Bytes × TransitionRecord) :
    (v.verifyStep now moment pass row).1.1 = (v.verifyStep now moment (pass.1, {}) row).1.1 := by
  obtain ⟨st, report⟩ := pass
  unfold CommitmentVerifier.verifyStep
  dsimp only
  repeat' split
  all_goals rfl

variable (cfg errorText) in
/-- A refresh is its answers, after the overflow is queued. -/
theorem refreshOutpoints_run (r : Reconciler) (moment : Nat) (st : Store) (outpoints : List BtcOutPoint) :
    ∃ events, (tasks cfg errorText).Run st events (r.refreshOutpoints moment st outpoints).store ∧
      ∀ event ∈ events, (∃ rows, event = .queue rows) ∨
        ∃ i, ∃ answer ∈ r.answers moment outpoints, event = .answer r i answer := by
  rcases Reconciler.refreshOutpoints_store_cases r moment st outpoints with hsame | ⟨queued, done, henq, hpre, hstore⟩
  · rw [hsame]
    exact ⟨[], .nil, fun _ hmem => absurd hmem List.not_mem_nil⟩
  · obtain ⟨hqueued, -⟩ := Store.enqueueRefreshMany_eq_ok henq
    obtain ⟨events, hrun, hevents⟩ := run_afterPasses (M := tasks cfg errorText) RefreshPass.store
      (Event.answer r) (fun n pass answer => refreshStep_store r n pass answer) (moment + 1)
      { store := queued.1, out := [], observed := [] } done
    have hfirst : (tasks cfg errorText).step st (.queue queued.1.btcRefreshQueue) queued.1 := hqueued
    refine ⟨.queue queued.1.btcRefreshQueue :: events, ?_, fun event hevent => ?_⟩
    · rw [hstore]
      exact .cons hfirst hrun
    · rcases List.mem_cons.mp hevent with rfl | hevent
      · exact .inl ⟨_, rfl⟩
      · obtain ⟨i, answer, hanswer, rfl⟩ := hevents event hevent
        exact .inr ⟨i, answer, hpre.subset hanswer, rfl⟩

variable (cfg errorText) in
/-- A search for misspends is its rows. -/
theorem detectMisspends_run (w : Sweeper) (env : DetectEnv) (st : Store) :
    ∃ events, (tasks cfg errorText).Run st events (w.detectMisspends env st).1 ∧
      ∀ event ∈ events, ∃ tip i, ∃ row ∈ st.pendingCkbOutpoints env.rows 10000, env.tip = .ok tip ∧
        event = .examine w env.now tip i row := by
  unfold Sweeper.detectMisspends
  split
  · cases htip : env.tip with
    | error e => exact ⟨[], .nil, fun _ hmem => absurd hmem List.not_mem_nil⟩
    | ok tip =>
      obtain ⟨done, hpre, hloop⟩ :=
        forEach_fst (w.detectStep env.now tip) env.moment (st, {}) (st.pendingCkbOutpoints env.rows 10000)
      obtain ⟨events, hrun, hevents⟩ := run_afterPasses (M := tasks cfg errorText) Prod.fst
        (Event.examine w env.now tip) (fun n pass row => detectStep_store w env.now tip n pass row) env.moment (st, {}) done
      refine ⟨events, ?_, fun event hevent => ?_⟩
      · dsimp only
        rw [hloop]
        exact hrun
      · obtain ⟨i, row, hrow, rfl⟩ := hevents event hevent
        exact ⟨tip, i, row, hpre.subset hrow, rfl, rfl⟩
  · exact ⟨[], .nil, fun _ hmem => absurd hmem List.not_mem_nil⟩

variable (cfg errorText) in
/-- A commitment check is its transitions. -/
theorem verifyOnce_run (v : CommitmentVerifier) (rows : RowOrder (Bytes × TransitionRecord)) (moment : Nat) (now : DateTime)
    (st : Store) : ∃ events, (tasks cfg errorText).Run st events (v.verifyOnce rows moment now st).1 := by
  unfold CommitmentVerifier.verifyOnce
  cases st.uncheckedTransitions rows v.batchSize with
  | error e => exact ⟨[], .nil⟩
  | ok transitions =>
    obtain ⟨done, -, hloop⟩ := forEach_fst (v.verifyStep now) moment (st, {}) transitions
    obtain ⟨events, hrun, -⟩ := run_afterPasses (M := tasks cfg errorText) Prod.fst (Event.verify v now)
      (fun n pass row => verifyStep_store v now n pass row) moment (st, {}) done
    refine ⟨events, ?_⟩
    dsimp only
    rw [hloop]
    exact hrun

end

/-! ## The walk of a sweep -/

section
variable {w : Sweeper} {env : SweepEnv} {P : Store → Prop}

theorem liveBound_of_page {st : Store} {cursor : Option OutpointKey} {limit : Int64} {page : List OutpointKey}
    (h : st.liveBoundOutpointsAfter cursor limit = .ok page) {key : OutpointKey} (hkey : key ∈ page) :
    Store.LiveBound key st := by
  unfold Store.liveBoundOutpointsAfter at h
  split at h
  · cases h
  · obtain rfl := Except.ok.inj h
    exact Store.mem_liveBoundOutpoints.mp (List.mem_of_mem_filter (List.mem_of_mem_take hkey))

/-- What the refresh of a page keeps, and other tasks keep, a walk keeps. -/
theorem sweepPages_keeps
    (hrefresh : ∀ n s outpoints, P s → (∀ o ∈ outpoints, Store.LiveBound (BtcOutPoint.key o) s) →
      P ((w.pageReconciler env n).refreshOutpoints (env.pageMoment n) s outpoints).store)
    (hbetween : ∀ n s, P s → P (env.between n s)) {fuel n : Nat} {cursor : Option OutpointKey} {walk walk' : Walk}
    {done : Except IndexerError Unit} (h : w.sweepPages env fuel n cursor walk = some (walk', done)) (hP : P walk.store) :
    P walk'.store := by
  induction fuel generalizing n cursor walk with
  | zero => cases h
  | succ fuel ih =>
    unfold Sweeper.sweepPages at h
    dsimp only at h
    cases hpage : walk.store.liveBoundOutpointsAfter cursor w.config.batchSize with
    | error e =>
      rw [hpage] at h
      obtain ⟨rfl, -⟩ := Prod.mk.inj (Option.some.inj h)
      exact hP
    | ok page =>
      rw [hpage] at h
      dsimp only at h
      split at h
      · obtain ⟨rfl, -⟩ := Prod.mk.inj (Option.some.inj h)
        exact hP
      · cases hread : page.mapM Store.outPointOfKey with
        | error e =>
          rw [hread] at h
          obtain ⟨rfl, -⟩ := Prod.mk.inj (Option.some.inj h)
          exact hP
        | ok outpoints =>
          rw [hread] at h
          dsimp only at h
          have hkeys : outpoints.map BtcOutPoint.key = page := by simpa using Store.map_key_of_mapM hread
          have hrefreshed := hrefresh n walk.store outpoints hP fun o ho =>
            liveBound_of_page hpage (hkeys ▸ List.mem_map_of_mem ho)
          split at h
          · obtain ⟨rfl, -⟩ := Prod.mk.inj (Option.some.inj h)
            exact hrefreshed
          · exact ih h (hbetween n _ hrefreshed)

variable (w env) in
/-- The walk after the page `n`, before other tasks write. -/
def pageWalk (n : Nat) (walk : Walk) (outpoints : List BtcOutPoint) : Walk :=
  let refreshed := (w.pageReconciler env n).refreshOutpoints (env.pageMoment n) walk.store outpoints
  { walk with
    store := refreshed.store, observed := walk.observed ++ refreshed.observed, reads := walk.reads ++ [walk.store] }

/-- A walk that goes on has refreshed a page; one that ends well ends at an empty page. -/
theorem sweepPages_eq_ok {fuel n : Nat} {cursor : Option OutpointKey} {walk walk' : Walk}
    (h : w.sweepPages env (fuel + 1) n cursor walk = some (walk', .ok ())) :
    ∃ page, walk.store.liveBoundOutpointsAfter cursor w.config.batchSize = .ok page ∧
      (page = [] ∧ walk' = { walk with reads := walk.reads ++ [walk.store] } ∨
        page ≠ [] ∧ ∃ outpoints out report, outpoints.map BtcOutPoint.key = page ∧
          ((w.pageReconciler env n).refreshOutpoints (env.pageMoment n) walk.store outpoints).result = .ok out ∧
          w.sweepPages env fuel (n + 1) page.getLast? { pageWalk w env n walk outpoints with
            store := env.between n (pageWalk w env n walk outpoints).store, report } = some (walk', .ok ())) := by
  unfold Sweeper.sweepPages at h
  dsimp only at h
  cases hpage : walk.store.liveBoundOutpointsAfter cursor w.config.batchSize with
  | error e =>
    rw [hpage] at h
    cases h
  | ok page =>
    refine ⟨page, rfl, ?_⟩
    rw [hpage] at h
    dsimp only at h
    split at h
    · next hnil => exact .inl ⟨List.isEmpty_iff.mp hnil, (Prod.mk.inj (Option.some.inj h)).1.symm⟩
    · next hne =>
      cases hread : page.mapM Store.outPointOfKey with
      | error e =>
        rw [hread] at h
        cases h
      | ok outpoints =>
        rw [hread] at h
        dsimp only at h
        split at h
        · cases h
        · next out hresult =>
          have hkeys : outpoints.map BtcOutPoint.key = page := by simpa using Store.map_key_of_mapM hread
          exact .inr ⟨fun hnil => hne (List.isEmpty_iff.mpr hnil), outpoints, out, _, hkeys, hresult, h⟩

/-- The other way round: a walk ends at an empty page. -/
theorem sweepPages_nil {n : Nat} {cursor : Option OutpointKey} {walk : Walk}
    (hpage : walk.store.liveBoundOutpointsAfter cursor w.config.batchSize = .ok []) (fuel : Nat) :
    w.sweepPages env (fuel + 1) n cursor walk = some ({ walk with reads := walk.reads ++ [walk.store] }, .ok ()) := by
  rw [Sweeper.sweepPages]
  dsimp only
  rw [hpage]
  rfl

/-- A walk stops at a page whose refresh fails. -/
theorem sweepPages_error {n : Nat} {cursor : Option OutpointKey} {walk : Walk} {page : List OutpointKey}
    {outpoints : List BtcOutPoint} {e : IndexerError}
    (hpage : walk.store.liveBoundOutpointsAfter cursor w.config.batchSize = .ok page) (hne : page ≠ [])
    (hkeys : outpoints.map BtcOutPoint.key = page)
    (hresult : ((w.pageReconciler env n).refreshOutpoints (env.pageMoment n) walk.store outpoints).result = .error e)
    (fuel : Nat) : w.sweepPages env (fuel + 1) n cursor walk = some (pageWalk w env n walk outpoints, .error e) := by
  rw [Sweeper.sweepPages]
  dsimp only
  rw [hpage]
  dsimp only
  rw [if_neg (by simpa using hne), Store.mapM_outPointOfKey hkeys]
  dsimp only
  rw [hresult]
  rfl

/-- A walk goes on behind a page that can be read and refreshed. -/
theorem sweepPages_succ {n : Nat} {cursor : Option OutpointKey} {walk : Walk} {page : List OutpointKey}
    {outpoints : List BtcOutPoint} {out : List OutpointRefresh}
    (hpage : walk.store.liveBoundOutpointsAfter cursor w.config.batchSize = .ok page) (hne : page ≠ [])
    (hkeys : outpoints.map BtcOutPoint.key = page)
    (hresult : ((w.pageReconciler env n).refreshOutpoints (env.pageMoment n) walk.store outpoints).result = .ok out) :
    ∃ report, ∀ fuel, w.sweepPages env (fuel + 1) n cursor walk =
      w.sweepPages env fuel (n + 1) page.getLast? { pageWalk w env n walk outpoints with
        store := env.between n (pageWalk w env n walk outpoints).store, report } := by
  refine ⟨{ walk.report with
    outpointsChecked := walk.report.outpointsChecked + out.length
    statusChanged := walk.report.statusChanged + (out.filter OutpointRefresh.changed).length }, fun fuel => ?_⟩
  rw [Sweeper.sweepPages]
  dsimp only
  rw [hpage]
  dsimp only
  rw [if_neg (by simpa using hne), Store.mapM_outPointOfKey hkeys]
  dsimp only
  rw [hresult]
  rfl

variable {fuel : Nat} {st st' : Store}

/-- A sweep that succeeds has walked to the end and searched. -/
theorem sweepOnce_eq_ok {report : SweepReport} (h : w.sweepOnce env fuel st = some (st', .ok report)) :
    ∃ walk found, w.sweepWalk env fuel st = some (walk, .ok ()) ∧
      w.detectMisspends env.toDetectEnv walk.store = (st', .ok found) := by
  unfold Sweeper.sweepOnce at h
  obtain ⟨⟨walk, done⟩, hwalk, hdone⟩ := Option.map_eq_some_iff.mp h
  cases done with
  | error e => cases hdone
  | ok u =>
    dsimp only at hdone
    obtain ⟨hst, hfound⟩ := Prod.mk.inj hdone
    cases hresult : (w.detectMisspends env.toDetectEnv walk.store).2 with
    | error e =>
      rw [hresult] at hfound
      cases hfound
    | ok found => exact ⟨walk, found, hwalk, Prod.ext hst hresult⟩

variable [Sha2] {cfg : Config} {errorText : IndexerError → String}

/-- A sweep is its pages and its search, with what other tasks do in between. -/
theorem sweepOnce_run {result : Except IndexerError SweepReport}
    (hbetween : ∀ n s, ∃ events, (tasks cfg errorText).Run s events (env.between n s))
    (h : w.sweepOnce env fuel st = some (st', result)) : ∃ events, (tasks cfg errorText).Run st events st' := by
  unfold Sweeper.sweepOnce at h
  obtain ⟨⟨walk, done⟩, hwalk, hdone⟩ := Option.map_eq_some_iff.mp h
  have hpages : ∃ events, (tasks cfg errorText).Run st events walk.store := by
    refine sweepPages_keeps (P := fun s => ∃ events, (tasks cfg errorText).Run st events s) ?_ ?_ hwalk ⟨[], .nil⟩
    · rintro n s outpoints ⟨events, hrun⟩ -
      obtain ⟨later, hlater, -⟩ :=
        refreshOutpoints_run cfg errorText (w.pageReconciler env n) (env.pageMoment n) s outpoints
      exact ⟨events ++ later, hrun.append hlater⟩
    · rintro n s ⟨events, hrun⟩
      obtain ⟨later, hlater⟩ := hbetween n s
      exact ⟨events ++ later, hrun.append hlater⟩
  cases done with
  | error e =>
    obtain ⟨rfl, -⟩ := Prod.mk.inj hdone
    exact hpages
  | ok u =>
    obtain ⟨rfl, -⟩ := Prod.mk.inj hdone
    obtain ⟨events, hrun⟩ := hpages
    obtain ⟨later, hlater, -⟩ := detectMisspends_run cfg errorText w env.toDetectEnv walk.store
    exact ⟨events ++ later, hrun.append hlater⟩

end
end System

/-! ## A small run -/

namespace Sample

/-- The outpoint the cell of `Sample.chain` is bound to. -/
def outpoint : BtcOutPoint := ⟨btcTxid, 0⟩

def spender : BtcTxid := ⟨.filled 32 9⟩

/-- A reconciler whose data source says the same of every outpoint, and knows no transaction. -/
def reconciler (status : OutpointSpendStatus) : Reconciler where
  config := .testnet 64
  btc :=
    { name := "esplora"
      moment := fun _ =>
        { transaction := fun _ => .ok none
          outpointStatus := fun _ => .ok status
          txOutspends := fun _ => .ok none
          addressUtxos := fun _ => .ok [] } }
  completion := .inOrder
  now := 0

/-- A sweeper that waits for six confirmations. -/
def sweeper : Sweeper where
  config := { batchSize := 100, misspendGraceConfirmations := 6, requireSyncedWithinBlocks := 0 }
  reconciler := reconciler .unspent

def tip : BtcTip := ⟨200, ⟨.filled 32 0⟩⟩

/-- The cell is indexed, its outpoint is reported spent, and a search flags it. -/
def flagged (replies : Replies) : List System.Event :=
  let spent := OutpointSpendStatus.spentConfirmed spender 100
  [.write (.scan (env replies)), .answer (reconciler spent) 1 (outpoint, .ok spent),
    .examine sweeper 0 tip 2 (outpoint.key, Store.observationRow none spent none "esplora" 0)]

/-- A sweep nothing comes in between of. -/
def sweepEnv : SweepEnv where
  tip := .ok tip
  moment := 0
  now := 0
  rows := .storage
  pageMoment _ := 0
  pageNow _ := 0
  pageCompletion _ := .inOrder
  between _ st := st

/-- An issuance onto an output of the spender; anybody can make it. -/
def mint : RpcTransaction where
  hash := hash 2
  inputs := []
  outputs := [(boundOutput 142 spender).cell]
  outputsData := [[]]

def mintChain : Chain := .ofBlocks [block 0 [], block 1 [], block 2 [issuance], block 3 [mint]] (by decide +kernel)

end Sample
end RgbppIndexer
