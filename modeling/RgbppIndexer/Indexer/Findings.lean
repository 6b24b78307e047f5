import RgbppIndexer.Indexer.Refresh
import RgbppIndexer.Indexer.Sweeper

/-!
# What a refresh and a search for misspends do to the anomalies

A refresh resolves the anomalies of the outpoints that are answered without a
spend, and nothing else. A search for misspends decides each pending outpoint
by itself (`verdict`): it is left alone, resolved, or flagged.

* `CkbSame`: what neither of them touches.
* `refreshOutpoints_answered`: the anomalies after a refresh.
* `detectStep_inv`: everything one row of a search can do.
* `openFinding_detectMisspends`: the findings after a search.
-/
namespace RgbppIndexer

open RgbppIndexer.Core

/-- The facts of the CKB side are the same. -/
structure CkbSame (st st' : Store) : Prop where
  cells : st'.rgbppCells = st.rgbppCells
  transitions : st'.rgbppTransitions = st.rgbppTransitions
  blocks : st'.ckbBlocks = st.ckbBlocks
  state : st'.indexerState = st.indexerState

theorem CkbSame.refl (st : Store) : CkbSame st st := ⟨rfl, rfl, rfl, rfl⟩

theorem CkbSame.trans {a b c : Store} (hab : CkbSame a b) (hbc : CkbSame b c) : CkbSame a c :=
  ⟨hbc.cells.trans hab.cells, hbc.transitions.trans hab.transitions, hbc.blocks.trans hab.blocks,
    hbc.state.trans hab.state⟩

namespace Reconciler

variable {r : Reconciler} {moment : Nat} {st : Store} {pass : RefreshPass} {answer : Observed} {key : OutpointKey} {k : String}

/-! ## A fetched transaction -/

theorem recordAddresses_same {txid : BtcTxid} {tx : BtcTxInfo} {now : DateTime} {labelled : Store × Nat}
    (h : recordAddresses st txid tx now = .ok labelled) :
    CkbSame st labelled.1 ∧ labelled.1.rgbppAnomalies = st.rgbppAnomalies := by
  rcases recordAddresses_inv h with hsame | hwritten
  · rw [hsame]
    exact ⟨.refl st, rfl⟩
  · obtain ⟨hst, -⟩ := Store.recordBindingAddresses_eq_ok hwritten
    rw [hst]
    exact ⟨⟨rfl, rfl, rfl, rfl⟩, rfl⟩

variable (r moment st) in
theorem refreshBtcTx_same (txid : BtcTxid) : CkbSame st (r.refreshBtcTx moment st txid).1 ∧
    (r.refreshBtcTx moment st txid).1.rgbppAnomalies = st.rgbppAnomalies :=
  refreshBtcTx_keeps (P := fun s => CkbSame st s ∧ s.rgbppAnomalies = st.rgbppAnomalies) ⟨.refl st, rfl⟩
    (fun _ _ _ hrecord => recordAddresses_same hrecord)
    fun _ _ ⟨hsame, hanomalies⟩ => ⟨⟨hsame.cells, hsame.transitions, hsame.blocks, hsame.state⟩, hanomalies⟩

/-- The database as it was, or as the fetch of a transaction leaves it. -/
def Fetched (r : Reconciler) (moment : Nat) (st fetched : Store) : Prop :=
  fetched = st ∨ ∃ txid, fetched = (r.refreshBtcTx moment st txid).1

theorem Fetched.same {fetched : Store} (h : r.Fetched moment st fetched) :
    CkbSame st fetched ∧ fetched.rgbppAnomalies = st.rgbppAnomalies := by
  rcases h with rfl | ⟨txid, rfl⟩
  · exact ⟨.refl _, rfl⟩
  · exact refreshBtcTx_same r moment st txid

theorem followUpSpend_same {status : OutpointSpendStatus} : CkbSame st (r.followUpSpend moment st status).1 ∧
    (r.followUpSpend moment st status).1.rgbppAnomalies = st.rgbppAnomalies :=
  followUpSpend_keeps (P := fun s => CkbSame st s ∧ s.rgbppAnomalies = st.rgbppAnomalies) ⟨.refl st, rfl⟩
    fun spender _ => refreshBtcTx_same r moment st spender

/-! ## One answer -/

/-- The answer is about the outpoint, and not a spend. -/
def Closes (key : OutpointKey) (answer : Observed) : Prop :=
  answer.1.key = key ∧ ∃ status, answer.2 = .ok status ∧ status.isSpent = false

variable (r moment pass) in
/-- An answer leaves the CKB side alone, and resolves exactly when it is not a spend. -/
theorem refreshStep_same (answer : Observed) : CkbSame pass.store (r.refreshStep moment pass answer).1.store ∧
    (((∀ key, ¬ Closes key answer) ∧
        (r.refreshStep moment pass answer).1.store.rgbppAnomalies = pass.store.rgbppAnomalies) ∨
      (Closes answer.1.key answer ∧ (r.refreshStep moment pass answer).1.store.rgbppAnomalies =
        (pass.store.resolveAnomaliesForOutpoint answer.1.key r.now).rgbppAnomalies)) := by
  cases hans : answer.2 with
  | error e =>
    rw [refreshStep_of_error hans]
    refine ⟨⟨rfl, rfl, rfl, rfl⟩, .inl ⟨?_, rfl⟩⟩
    rintro key ⟨-, status, hok, -⟩
    rw [hans] at hok
    cases hok
  | ok status =>
    have hwritten : CkbSame pass.store (r.recordObservation pass.store answer.1 status none).1 ∧
        (r.recordObservation pass.store answer.1 status none).1.rgbppAnomalies = pass.store.rgbppAnomalies :=
      ⟨⟨rfl, rfl, rfl, rfl⟩, rfl⟩
    rw [(refreshStep_written r moment pass answer hans).1]
    generalize r.recordObservation pass.store answer.1 status none = written at hwritten ⊢
    obtain ⟨st, changed⟩ := written
    dsimp only at hwritten ⊢
    cases hspent : status.isSpent with
    | false =>
      rw [if_neg Bool.false_ne_true]
      refine ⟨⟨hwritten.1.cells, hwritten.1.transitions, hwritten.1.blocks, hwritten.1.state⟩,
        .inr ⟨⟨rfl, status, hans, hspent⟩, ?_⟩⟩
      simp only [Store.resolveAnomaliesForOutpoint, hwritten.2]
    | true =>
      have hnone : ∀ key, ¬ Closes key answer := by
        rintro key ⟨-, status', hok, hnot⟩
        rw [hans] at hok
        cases hok
        rw [hspent] at hnot
        cases hnot
      rw [if_pos rfl]
      split
      · have hfollow : CkbSame st (r.followUpSpend moment st status).1 ∧
            (r.followUpSpend moment st status).1.rgbppAnomalies = st.rgbppAnomalies := followUpSpend_same
        obtain ⟨hsame, hanomalies⟩ := hfollow
        exact ⟨hwritten.1.trans hsame, .inl ⟨hnone, hanomalies.trans hwritten.2⟩⟩
      · exact ⟨hwritten.1, .inl ⟨hnone, hwritten.2⟩⟩

theorem openAnomaly_refreshStep : OpenAnomaly k key (r.refreshStep moment pass answer).1.store ↔
    OpenAnomaly k key pass.store ∧ ¬ Closes key answer := by
  rcases (refreshStep_same r moment pass answer).2 with ⟨hnone, hsame⟩ | ⟨hcloses, hsame⟩
  · rw [openAnomaly_of_eq hsame]
    exact (and_iff_left (hnone key)).symm
  · rw [openAnomaly_of_eq hsame, openAnomaly_resolve]
    have hiff : key ≠ answer.1.key ↔ ¬ Closes key answer := by
      constructor
      · rintro hne ⟨hkey, -⟩
        exact hne hkey.symm
      · rintro hnot rfl
        exact hnot hcloses
    rw [hiff]
    exact and_comm

theorem anomaliesKeyed_refreshStep (h : AnomaliesKeyed pass.store) :
    AnomaliesKeyed (r.refreshStep moment pass answer).1.store := by
  rcases (refreshStep_same r moment pass answer).2 with ⟨-, hsame⟩ | ⟨-, hsame⟩
  · exact h.of_eq hsame
  · exact AnomaliesKeyed.of_eq h.resolve hsame

/-! ## The whole refresh -/

variable {outpoints : List BtcOutPoint}

/-- What some answers of a refresh leave behind. -/
structure Answered (st : Store) (done : List Observed) (st' : Store) : Prop where
  same : CkbSame st st'
  keyed : AnomaliesKeyed st → AnomaliesKeyed st'
  anomalies : ∀ k key, OpenAnomaly k key st' ↔ OpenAnomaly k key st ∧ ∀ a ∈ done, ¬ Closes key a

variable (r moment pass) in
theorem answered_afterPasses (answers : List Observed) :
    Answered pass.store answers (afterPasses r.refreshStep moment pass answers).store := by
  refine afterPasses_keeps (P := fun done (p : RefreshPass) => Answered pass.store done p.store) ?_ ?_ answers
  · intro done a p hp
    refine ⟨hp.same.trans (refreshStep_same r _ p a).1, fun h => anomaliesKeyed_refreshStep (hp.keyed h), fun k key => ?_⟩
    rw [openAnomaly_refreshStep, hp.anomalies]
    simp only [List.mem_append, List.mem_singleton, or_imp, forall_and, forall_eq, and_assoc]
  · exact ⟨.refl _, id, fun k key => by simp⟩

/-- A refresh works through some of its answers; it leaves all else alone. -/
theorem refreshOutpoints_answered (r : Reconciler) (moment : Nat) (st : Store) (outpoints : List BtcOutPoint) :
    ∃ done, done <+: r.answers moment outpoints ∧
      Answered st done (r.refreshOutpoints moment st outpoints).store := by
  rcases refreshOutpoints_store_cases r moment st outpoints with hsame | ⟨queued, done, henq, hpre, hstore⟩
  · rw [hsame]
    exact ⟨[], List.nil_prefix, .refl _, id, fun k key => by simp⟩
  · obtain ⟨hst, -⟩ := Store.enqueueRefreshMany_eq_ok henq
    have hanswered := answered_afterPasses r (moment + 1) { store := queued.1, out := [], observed := [] } done
    rw [← hstore] at hanswered
    refine ⟨done, hpre, ?_, ?_, ?_⟩
    · exact CkbSame.trans ⟨by rw [hst], by rw [hst], by rw [hst], by rw [hst]⟩ hanswered.same
    · intro h
      exact hanswered.keyed (h.of_eq (by rw [hst]))
    · intro k key
      have hsame : queued.1.rgbppAnomalies = st.rgbppAnomalies := by rw [hst]
      rw [← openAnomaly_of_eq hsame]
      exact hanswered.anomalies k key

end Reconciler
/-! ## The search for misspends -/

/-- What a search does with a pending outpoint. -/
inductive Verdict where
  | skip | resolve | flag
  deriving DecidableEq, Repr

/-- What the verdict on an outpoint makes of its findings. -/
def Verdict.After (before : Prop) : Verdict → Prop
  | .skip => before
  | .resolve => False
  | .flag => True

namespace Sweeper

variable {w : Sweeper} {now : DateTime} {tip : BtcTip} {moment : Nat} {found : MisspendsFound} {st : Store} {k : String}
  {key : OutpointKey} {e : OutpointKey × ObservationRow}

/-- The verdict on a pending row: too young a spend is left alone, one whose spender is named by an indexed transition
is resolved, any other is flagged. -/
def verdict (w : Sweeper) (tip : BtcTip) (st : Store) (e : OutpointKey × ObservationRow) : Verdict :=
  match Store.outPointOfKey e.1, Store.spendStatus e.2 with
  | .ok _, .ok status =>
    match status.spender, status.height with
    | some spender, some height =>
      if confirmations tip.height height < w.config.misspendGraceConfirmations then .skip
      else if st.transitionsByBtcTxid spender.toDisplayVec ≠ [] then .resolve
      else .flag
    | _, _ => .skip
  | _, _ => .skip

theorem verdict_of_same {st' : Store} (h : CkbSame st st') : w.verdict tip st' e = w.verdict tip st e := by
  unfold verdict Store.transitionsByBtcTxid
  rw [h.transitions]

/-- Everything one row can do: nothing but a lookup, a resolution, or a misspend recorded, logged and counted. -/
theorem detectStep_inv (w : Sweeper) (now : DateTime) (tip : BtcTip) (moment : Nat) (st : Store) (found : MisspendsFound)
    (e : OutpointKey × ObservationRow) :
    (w.verdict tip st e ≠ .resolve ∧ ∃ fetched result, w.detectStep now tip moment (st, found) e = ((fetched, found), result) ∧
        w.reconciler.Fetched moment st fetched ∧ (result = .ok () → w.verdict tip st e = .skip)) ∨
      (w.verdict tip st e = .resolve ∧
        w.detectStep now tip moment (st, found) e = ((st.resolveAnomaliesForOutpoint e.1 now, found), .ok ())) ∨
      (w.verdict tip st e = .flag ∧ ∃ (kind : AnomalyKind) (o : BtcOutPoint) (detail : JsonObject) (fetched : Store),
        kind.isMisspend = true ∧ o.key = e.1 ∧ w.reconciler.Fetched moment st fetched ∧
          w.detectStep now tip moment (st, found) e = ((fetched.recordMisspend kind o detail now,
            { count := found.count + 1, recorded := found.recorded ++ [o] }), .ok ())) := by
  unfold detectStep verdict
  cases hkey : Store.outPointOfKey e.1 with
  | error err => exact .inl ⟨nofun, st, _, rfl, .inl rfl, nofun⟩
  | ok o =>
    cases hstatus : Store.spendStatus e.2 with
    | error err => exact .inl ⟨nofun, st, _, rfl, .inl rfl, nofun⟩
    | ok status =>
      dsimp only
      cases hspender : status.spender with
      | none => exact .inl ⟨nofun, st, _, rfl, .inl rfl, fun _ => rfl⟩
      | some spender =>
        cases hheight : status.height with
        | none => exact .inl ⟨nofun, st, _, rfl, .inl rfl, fun _ => rfl⟩
        | some height =>
          dsimp only
          have ho : o.key = e.1 := Store.outPointOfKey_eq_ok.mp hkey
          by_cases hgrace : confirmations tip.height height < w.config.misspendGraceConfirmations
          · rw [if_pos hgrace, if_pos hgrace]
            exact .inl ⟨nofun, st, _, rfl, .inl rfl, fun _ => rfl⟩
          rw [if_neg hgrace, if_neg hgrace]
          by_cases htransitions : st.transitionsByBtcTxid spender.toDisplayVec ≠ []
          · rw [if_pos htransitions, if_pos htransitions, ho]
            exact .inr (.inl ⟨rfl, rfl⟩)
          rw [if_neg htransitions, if_neg htransitions]
          have hfetched : w.reconciler.Fetched moment st (w.reconciler.refreshBtcTx moment st spender).1 := .inr ⟨spender, rfl⟩
          generalize w.reconciler.refreshBtcTx moment st spender = fetched at hfetched
          obtain ⟨st', res⟩ := fetched
          cases res with
          | error err => exact .inl ⟨nofun, st', _, rfl, hfetched, nofun⟩
          | ok tx =>
            refine .inr (.inr ⟨rfl, _, o, _, st', ?_, ho, hfetched, rfl⟩)
            split
            · rfl
            · rfl

/-- What one row does to the CKB side, none, and to the anomalies. -/
theorem detectStep_cases (w : Sweeper) (now : DateTime) (tip : BtcTip) (moment : Nat) (st : Store)
    (found : MisspendsFound) (e : OutpointKey × ObservationRow) :
    CkbSame st (w.detectStep now tip moment (st, found) e).1.1 ∧
      (((w.detectStep now tip moment (st, found) e).1.1.rgbppAnomalies = st.rgbppAnomalies ∧
          ((w.detectStep now tip moment (st, found) e).2 = .ok () → w.verdict tip st e = .skip)) ∨
        (w.verdict tip st e = .resolve ∧ (w.detectStep now tip moment (st, found) e).1.1.rgbppAnomalies =
          (st.resolveAnomaliesForOutpoint e.1 now).rgbppAnomalies) ∨
        (w.verdict tip st e = .flag ∧ ∃ (kind : AnomalyKind) (o : BtcOutPoint) (detail : JsonObject),
          kind.isMisspend = true ∧ o.key = e.1 ∧ (w.detectStep now tip moment (st, found) e).1.1.rgbppAnomalies =
            (st.recordMisspend kind o detail now).rgbppAnomalies)) := by
  rcases w.detectStep_inv now tip moment st found e with
    ⟨-, fetched, result, hout, hfetched, hskip⟩ | ⟨hresolve, hout⟩ |
      ⟨hflag, kind, o, detail, fetched, hkind, ho, hfetched, hout⟩
  · rw [hout]
    exact ⟨hfetched.same.1, .inl ⟨hfetched.same.2, hskip⟩⟩
  · rw [hout]
    exact ⟨⟨rfl, rfl, rfl, rfl⟩, .inr (.inl ⟨hresolve, rfl⟩)⟩
  · rw [hout]
    obtain ⟨hsame, hanomalies⟩ := hfetched.same
    refine ⟨⟨hsame.cells, hsame.transitions, hsame.blocks, hsame.state⟩, .inr (.inr ⟨hflag, kind, o, detail, hkind, ho, ?_⟩)⟩
    simp only [Store.recordMisspend, Store.recordAnomaly, hanomalies]

theorem detectStep_of_resolve (h : w.verdict tip st e = .resolve) :
    w.detectStep now tip moment (st, found) e = ((st.resolveAnomaliesForOutpoint e.1 now, found), .ok ()) := by
  rcases w.detectStep_inv now tip moment st found e with ⟨hnot, -⟩ | ⟨-, hout⟩ | ⟨hflag, -⟩
  · exact absurd h hnot
  · exact hout
  · rw [h] at hflag
    cases hflag

/-! ### The rows of one search -/

variable {done : List (OutpointKey × ObservationRow)} {st' : Store}

/-- What some rows of a search leave behind: only a resolved outpoint loses an anomaly, and only a flagged one gets one. -/
structure Searched (w : Sweeper) (tip : BtcTip) (st : Store) (done : List (OutpointKey × ObservationRow)) (st' : Store) :
    Prop where
  same : CkbSame st st'
  keyed : AnomaliesKeyed st'
  left : ∀ k key, OpenAnomaly k key st → (∀ e ∈ done, e.1 = key → w.verdict tip st e ≠ .resolve) → OpenAnomaly k key st'
  opened : ∀ k key, OpenAnomaly k key st' → OpenAnomaly k key st ∨ ∃ e ∈ done, e.1 = key ∧ w.verdict tip st e = .flag

/-- And when none of their passes failed: a resolved outpoint has no anomaly left, a flagged one has. -/
structure SearchedOk (w : Sweeper) (tip : BtcTip) (st : Store) (done : List (OutpointKey × ObservationRow))
    (st' : Store) : Prop extends Searched w tip st done st' where
  closed : ∀ k key, (∃ e ∈ done, e.1 = key) → (∀ e ∈ done, e.1 = key → w.verdict tip st e = .resolve) →
    ¬ OpenAnomaly k key st'
  flagged : ∀ key, (∃ e ∈ done, e.1 = key) → (∀ e ∈ done, e.1 = key → w.verdict tip st e = .flag) → OpenFinding key st'

theorem Searched.start (hkeyed : AnomaliesKeyed st) : Searched w tip st [] st :=
  ⟨.refl st, hkeyed, fun _ _ h _ => h, fun _ _ h => .inl h⟩

theorem SearchedOk.start (hkeyed : AnomaliesKeyed st) : SearchedOk w tip st [] st where
  toSearched := .start hkeyed
  closed := by simp
  flagged := by simp

theorem Searched.step (h : Searched w tip st done st') :
    Searched w tip st (done ++ [e]) (w.detectStep now tip moment (st', found) e).1.1 := by
  obtain ⟨hsame, hcases⟩ := detectStep_cases w now tip moment st' found e
  rw [verdict_of_same h.same] at hcases
  have hmem : ∀ key, (∀ e' ∈ done ++ [e], e'.1 = key → w.verdict tip st e' ≠ .resolve) →
      ∀ e' ∈ done, e'.1 = key → w.verdict tip st e' ≠ .resolve :=
    fun key hall e' he' => hall e' (List.mem_append_left _ he')
  have hopened : ∀ {k : String} {key : OutpointKey}, OpenAnomaly k key st' →
      OpenAnomaly k key st ∨ ∃ e' ∈ done ++ [e], e'.1 = key ∧ w.verdict tip st e' = .flag := by
    intro k key hopen
    rcases h.opened k key hopen with hold | ⟨e', he', hkey, hflag⟩
    · exact .inl hold
    · exact .inr ⟨e', List.mem_append_left _ he', hkey, hflag⟩
  rcases hcases with ⟨hnone, -⟩ | ⟨hresolve, hanomalies⟩ | ⟨hflag, kind, o, detail, hkind, ho, hanomalies⟩
  · refine ⟨h.same.trans hsame, h.keyed.of_eq hnone, fun k key hopen hall => ?_, fun k key hopen => ?_⟩
    · rw [openAnomaly_of_eq hnone]
      exact h.left k key hopen (hmem key hall)
    · rw [openAnomaly_of_eq hnone] at hopen
      exact hopened hopen
  · refine ⟨h.same.trans hsame, AnomaliesKeyed.of_eq h.keyed.resolve hanomalies, fun k key hopen hall => ?_,
      fun k key hopen => ?_⟩
    · rw [openAnomaly_of_eq hanomalies, openAnomaly_resolve]
      refine ⟨fun hkey => ?_, h.left k key hopen (hmem key hall)⟩
      exact hall e (by simp) hkey.symm hresolve
    · rw [openAnomaly_of_eq hanomalies, openAnomaly_resolve] at hopen
      exact hopened hopen.2
  · refine ⟨h.same.trans hsame, AnomaliesKeyed.of_eq (h.keyed.recordMisspend hkind) hanomalies,
      fun k key hopen hall => ?_, fun k key hopen => ?_⟩
    · rw [openAnomaly_of_eq hanomalies, openAnomaly_recordMisspend h.keyed hkind]
      exact .inr (h.left k key hopen (hmem key hall))
    · rw [openAnomaly_of_eq hanomalies, openAnomaly_recordMisspend h.keyed hkind] at hopen
      rcases hopen with ⟨-, hkey⟩ | hopen
      · exact .inr ⟨e, by simp, ho.symm.trans hkey.symm, hflag⟩
      · exact hopened hopen

theorem SearchedOk.step (h : SearchedOk w tip st done st')
    (hok : (w.detectStep now tip moment (st', found) e).2 = .ok ()) :
    SearchedOk w tip st (done ++ [e]) (w.detectStep now tip moment (st', found) e).1.1 := by
  obtain ⟨-, hcases⟩ := detectStep_cases w now tip moment st' found e
  rw [verdict_of_same h.same] at hcases
  -- an outpoint other than the row's was decided before
  have hbefore : ∀ {key : OutpointKey}, e.1 ≠ key → (∃ e' ∈ done ++ [e], e'.1 = key) → ∃ e' ∈ done, e'.1 = key := by
    rintro key hne ⟨e', he', rfl⟩
    rcases List.mem_append.mp he' with he' | he'
    · exact ⟨e', he', rfl⟩
    · rw [List.mem_singleton.mp he'] at hne
      exact absurd rfl hne
  have hall : ∀ {key : OutpointKey} {v : Verdict}, (∀ e' ∈ done ++ [e], e'.1 = key → w.verdict tip st e' = v) →
      (∀ e' ∈ done, e'.1 = key → w.verdict tip st e' = v) ∧ (e.1 = key → w.verdict tip st e = v) :=
    fun hall => ⟨fun e' he' => hall e' (List.mem_append_left _ he'), hall e (by simp)⟩
  refine ⟨h.toSearched.step, ?_, ?_⟩
  · intro k key hex hresolve
    obtain ⟨hdone, hlast⟩ := hall hresolve
    rcases hcases with ⟨hnone, hskip⟩ | ⟨-, hanomalies⟩ | ⟨hflag, kind, o, detail, hkind, ho, hanomalies⟩
    · have hne : e.1 ≠ key := fun hkey => by cases (hskip hok).symm.trans (hlast hkey)
      rw [openAnomaly_of_eq hnone]
      exact h.closed k key (hbefore hne hex) hdone
    · rw [openAnomaly_of_eq hanomalies, openAnomaly_resolve]
      rintro ⟨hne, hopen⟩
      exact h.closed k key (hbefore (Ne.symm hne) hex) hdone hopen
    · have hne : e.1 ≠ key := fun hkey => by cases hflag.symm.trans (hlast hkey)
      rw [openAnomaly_of_eq hanomalies, openAnomaly_recordMisspend h.keyed hkind]
      rintro (⟨-, hkey⟩ | hopen)
      · exact hne (ho.symm.trans hkey.symm)
      · exact h.closed k key (hbefore hne hex) hdone hopen
  · intro key hex hflagged
    obtain ⟨hdone, hlast⟩ := hall hflagged
    rcases hcases with ⟨hnone, hskip⟩ | ⟨hresolve, hanomalies⟩ | ⟨-, kind, o, detail, hkind, ho, hanomalies⟩
    · have hne : e.1 ≠ key := fun hkey => by cases (hskip hok).symm.trans (hlast hkey)
      rw [openFinding_of_eq hnone]
      exact h.flagged key (hbefore hne hex) hdone
    · have hne : e.1 ≠ key := fun hkey => by cases hresolve.symm.trans (hlast hkey)
      rw [openFinding_of_eq hanomalies, openFinding_resolve h.keyed]
      exact ⟨Ne.symm hne, h.flagged key (hbefore hne hex) hdone⟩
    · rw [openFinding_of_eq hanomalies, openFinding_recordMisspend h.keyed hkind]
      by_cases hkey : e.1 = key
      · exact .inl (hkey.symm.trans ho.symm)
      · exact .inr (h.flagged key (hbefore hkey hex) hdone)

/-! ### The whole search -/

variable {env : DetectEnv}

/-- A search works through some of the pending rows, or none at all. -/
theorem detectMisspends_searched (w : Sweeper) (env : DetectEnv) (hkeyed : AnomaliesKeyed st) :
    (w.detectMisspends env st).1 = st ∨
      ∃ tip done, env.tip = .ok tip ∧ done <+: st.pendingCkbOutpoints env.rows 10000 ∧
        Searched w tip st done (w.detectMisspends env st).1 := by
  unfold detectMisspends
  split
  · cases htip : env.tip with
    | error e => exact .inl rfl
    | ok tip =>
      right
      obtain ⟨done, hpre, hloop⟩ :=
        forEach_fst (w.detectStep env.now tip) env.moment (st, {}) (st.pendingCkbOutpoints env.rows 10000)
      refine ⟨tip, done, rfl, hpre, ?_⟩
      dsimp only
      rw [hloop]
      refine afterPasses_keeps (P := fun done (p : Store × MisspendsFound) => Searched w tip st done p.1) ?_ (.start hkeyed) done
      intro done e p hp
      exact hp.step
  · exact .inl rfl

/-- A search that succeeds with its gate open works through all pending rows. -/
theorem detectMisspends_ok {n : Nat} (hkeyed : AnomaliesKeyed st) (hgate : w.indexerIsCaughtUp st = true)
    (hok : (w.detectMisspends env st).2 = .ok n) :
    ∃ tip, env.tip = .ok tip ∧
      SearchedOk w tip st (st.pendingCkbOutpoints env.rows 10000) (w.detectMisspends env st).1 := by
  unfold detectMisspends at hok ⊢
  rw [if_pos hgate] at hok ⊢
  cases htip : env.tip with
  | error e =>
    rw [htip] at hok
    cases hok
  | ok tip =>
    rw [htip] at hok
    refine ⟨tip, rfl, ?_⟩
    have hloop : (forEach (w.detectStep env.now tip) env.moment (st, {}) (st.pendingCkbOutpoints env.rows 10000)).2 =
        .ok () := by
      cases hres : (forEach (w.detectStep env.now tip) env.moment (st, {}) (st.pendingCkbOutpoints env.rows 10000)).2 with
      | error e =>
        dsimp only at hok
        rw [hres] at hok
        cases hok
      | ok u => rfl
    refine forEach_ok_keeps (P := fun done (p : Store × MisspendsFound) => SearchedOk w tip st done p.1) ?_ (.start hkeyed) hloop
    intro done e p hp hpass
    exact hp.step hpass

/-- A search that succeeds with its gate open, and reads all there is, does to every pending outpoint what its verdict
says. -/
theorem openFinding_detectMisspends {n : Nat} (hkeyed : AnomaliesKeyed st) (hgate : w.indexerIsCaughtUp st = true)
    (hok : w.detectMisspends env st = (st', .ok n)) (htip : env.tip = .ok tip) (hlimit : st.pendingRows.length ≤ 10000)
    (he : e ∈ st.pendingRows) : OpenFinding e.1 st' ↔ (w.verdict tip st e).After (OpenFinding e.1 st) := by
  obtain ⟨tip', htip', hsearched⟩ := detectMisspends_ok hkeyed hgate (congrArg Prod.snd hok)
  obtain rfl := Except.ok.inj (htip.symm.trans htip')
  rw [hok] at hsearched
  dsimp only at hsearched
  have hdone : ∀ {e' : OutpointKey × ObservationRow}, e' ∈ st.pendingCkbOutpoints env.rows 10000 → e'.1 = e.1 → e' = e := by
    rintro ⟨key', row'⟩ he' rfl
    have hrow := (Store.mem_pendingRows.mp he).2.1
    have hrow' := (Store.mem_pendingRows.mp (Store.mem_of_mem_pendingCkbOutpoints he')).2.1
    rw [hrow] at hrow'
    exact Prod.ext rfl (Option.some.inj hrow').symm
  have hmem : ∃ e' ∈ st.pendingCkbOutpoints env.rows 10000, e'.1 = e.1 :=
    ⟨e, (Store.mem_pendingCkbOutpoints hlimit).mpr he, rfl⟩
  have hall : ∀ {P : OutpointKey × ObservationRow → Prop}, P e →
      ∀ e' ∈ st.pendingCkbOutpoints env.rows 10000, e'.1 = e.1 → P e' :=
    fun hP e' he' hkey => hdone he' hkey ▸ hP
  cases hverdict : w.verdict tip st e with
  | flag => exact iff_of_true (hsearched.flagged e.1 hmem (hall hverdict)) trivial
  | resolve =>
    refine iff_of_false (fun hopen => ?_) id
    obtain ⟨k, hk⟩ := (openFinding_iff hsearched.keyed).mp hopen
    exact hsearched.closed k e.1 hmem (hall hverdict) hk
  | skip =>
    rw [openFinding_iff hsearched.keyed]
    refine Iff.trans ?_ (openFinding_iff hkeyed).symm
    refine exists_congr fun k => ⟨fun hopen => ?_, fun hopen => ?_⟩
    · rcases hsearched.opened k e.1 hopen with hold | ⟨e', he', hkey, hflag⟩
      · exact hold
      · rw [hdone he' hkey, hverdict] at hflag
        cases hflag
    · refine hsearched.left k e.1 hopen (hall ?_)
      rw [hverdict]
      nofun

end Sweeper
end RgbppIndexer
