import RgbppIndexer.Indexer.System

/-!
# The page walk of a sweep, while others commit

`sweep_inner` (crates/indexer/src/sweeper.rs:86-117) pages through the live
outpoints with `live_bound_outpoints_after`, and hands every page to
`refresh_outpoints`. The scanner goes on meanwhile: between two pages it may
consume cells and add new ones.

* `sweepPages_step`: all that one page can do.
* `Hands`: the pages of a walk, with what each hands to the refresh.
* `sweepPages_ends`: as long as only finitely many outpoints are added, the
  walk comes to its end.
* `sweepWalk_hands`: **it hands no outpoint over twice, and every one that
  stays, unless a refresh fails.** The walk leaves at the first refresh that
  fails; `failed_refresh_skips` is a run.
* `addsOnly_of_commits`: the rounds a scanner commits between two pages add no
  outpoint but those its new cells are bound to.
-/
namespace RgbppIndexer

open RgbppIndexer.Core

/-- The scanner and other tasks consume what they like, and make no outpoint live but those of `added`. -/
def SweepEnv.AddsOnly (env : SweepEnv) (added : List OutpointKey) : Prop :=
  ∀ n st key, Store.LiveBound key (env.between n st) → Store.LiveBound key st ∨ key ∈ added

/-- Between the pages, the scanner commits these rounds. -/
def SweepEnv.Commits (env : SweepEnv) (rounds : Nat → List (IndexBatch × DateTime)) : Prop :=
  ∀ n st, env.between n st = (rounds n).foldl (fun st round => (st.applyBatch round.1 round.2).1) st

/-- What the rounds add is what their new cells are bound to. -/
theorem SweepEnv.addsOnly_of_commits {env : SweepEnv} {rounds : Nat → List (IndexBatch × DateTime)}
    {added : List OutpointKey} (h : env.Commits rounds)
    (hadded : ∀ n, ∀ round ∈ rounds n, ∀ c ∈ round.1.cells, ∀ vout, c.btcVout = some vout → ⟨c.btcTxid, vout⟩ ∈ added) :
    env.AddsOnly added := by
  intro n st key hkey
  rw [h] at hkey
  have hrounds := hadded n
  revert hkey hrounds
  generalize rounds n = l
  induction l generalizing st with
  | nil => exact fun hkey _ => .inl hkey
  | cons round l ih =>
    intro hkey hrounds
    rcases ih _ hkey fun round hround => hrounds round (List.mem_cons_of_mem _ hround) with hlive | hlater
    · rcases Store.liveBound_applyBatch hlive with hbefore | ⟨c, hc, htxid, hvout⟩
      · exact .inl hbefore
      · have hbound := hrounds round List.mem_cons_self c hc key.vout hvout
        rw [htxid] at hbound
        exact .inr hbound
    · exact .inr hlater

namespace System

open Store

/-- The pages of a walk from number `n` on, after `cursor`: the databases they read, what they hand to
`refresh_outpoints`, and how the walk ends. -/
inductive Hands (w : Sweeper) (env : SweepEnv) :
    Nat → Option OutpointKey → List Store → List BtcOutPoint → Except IndexerError Unit → Prop
  | finish {n : Nat} {cursor : Option OutpointKey} {st : Store} :
      st.liveBoundOutpointsAfter cursor w.config.batchSize = .ok [] → Hands w env n cursor [st] [] (.ok ())
  | fail {n : Nat} {cursor : Option OutpointKey} {st : Store} {page : List OutpointKey} {outpoints : List BtcOutPoint}
      {e : IndexerError} :
      st.liveBoundOutpointsAfter cursor w.config.batchSize = .ok page → page ≠ [] → outpoints.map BtcOutPoint.key = page →
      ((w.pageReconciler env n).refreshOutpoints (env.pageMoment n) st outpoints).result = .error e →
      Hands w env n cursor [st] outpoints (.error e)
  | page {n : Nat} {cursor : Option OutpointKey} {st : Store} {page : List OutpointKey} {outpoints later : List BtcOutPoint}
      {out : List OutpointRefresh} {reads : List Store} {done : Except IndexerError Unit} :
      st.liveBoundOutpointsAfter cursor w.config.batchSize = .ok page → page ≠ [] → outpoints.map BtcOutPoint.key = page →
      ((w.pageReconciler env n).refreshOutpoints (env.pageMoment n) st outpoints).result = .ok out →
      Hands w env (n + 1) page.getLast? reads later done → Hands w env n cursor (st :: reads) (outpoints ++ later) done

section
variable {w : Sweeper} {env : SweepEnv} {st : Store} {fuel n : Nat} {cursor : Option OutpointKey} {walk walk' : Walk}
  {reads : List Store} {handed : List BtcOutPoint} {done : Except IndexerError Unit} {added live : List OutpointKey}

/-! ## One page -/

/-- The store after page `n`, when other tasks have written. -/
def pageStore (w : Sweeper) (env : SweepEnv) (n : Nat) (walk : Walk) (outpoints : List BtcOutPoint) : Store :=
  env.between n (pageWalk w env n walk outpoints).store

/-- All that one page can do, with outpoints that can be read: there is nothing left, its refresh fails, or the walk
goes on behind it. -/
theorem sweepPages_step (hbatch : 0 < w.config.batchSize)
    (hread : ∀ key, Store.LiveBound key walk.store → key.txid.length = 32) (env : SweepEnv) (n : Nat)
    (cursor : Option OutpointKey) :
    (walk.store.liveBoundOutpointsAfter cursor w.config.batchSize = .ok [] ∧
        ∀ fuel, w.sweepPages env (fuel + 1) n cursor walk = some ({ walk with reads := walk.reads ++ [walk.store] }, .ok ())) ∨
      ∃ page outpoints, walk.store.liveBoundOutpointsAfter cursor w.config.batchSize = .ok page ∧ page ≠ [] ∧
        outpoints.map BtcOutPoint.key = page ∧
        ((∃ e, ((w.pageReconciler env n).refreshOutpoints (env.pageMoment n) walk.store outpoints).result = .error e ∧
            ∀ fuel, w.sweepPages env (fuel + 1) n cursor walk = some (pageWalk w env n walk outpoints, .error e)) ∨
          ∃ out report, ((w.pageReconciler env n).refreshOutpoints (env.pageMoment n) walk.store outpoints).result = .ok out ∧
            ∀ fuel, w.sweepPages env (fuel + 1) n cursor walk = w.sweepPages env fuel (n + 1) page.getLast?
              { pageWalk w env n walk outpoints with store := pageStore w env n walk outpoints, report }) := by
  obtain ⟨page, hpage⟩ : ∃ page, walk.store.liveBoundOutpointsAfter cursor w.config.batchSize = .ok page :=
    ⟨_, Store.liveBoundOutpointsAfter_eq_ok.mpr ⟨(toNat_toInt_pos hbatch).1, rfl⟩⟩
  by_cases hnil : page = []
  · subst hnil
    exact .inl ⟨hpage, sweepPages_nil hpage⟩
  · obtain ⟨outpoints, hkeys⟩ := Store.exists_outpoints page fun key hkey =>
      Store.exists_outPoint (hread key (liveBound_of_page hpage hkey))
    refine .inr ⟨page, outpoints, hpage, hnil, hkeys, ?_⟩
    cases hresult : ((w.pageReconciler env n).refreshOutpoints (env.pageMoment n) walk.store outpoints).result with
    | error e => exact .inl ⟨e, rfl, sweepPages_error hpage hnil hkeys hresult⟩
    | ok out =>
      obtain ⟨report, hstep⟩ := sweepPages_succ hpage hnil hkeys hresult
      exact .inr ⟨out, report, rfl, hstep⟩

/-- The refresh of a page touches no cell. -/
theorem pageWalk_cells (outpoints : List BtcOutPoint) :
    (pageWalk w env n walk outpoints).store.rgbppCells = walk.store.rgbppCells := by
  obtain ⟨done, -, hanswered⟩ :=
    Reconciler.refreshOutpoints_answered (w.pageReconciler env n) (env.pageMoment n) walk.store outpoints
  exact hanswered.same.cells

/-- What is live stays among what was live at the start and what is added. -/
theorem liveBound_pageStore (hadds : env.AddsOnly added) (hsub : ∀ key ∈ added, key ∈ live)
    (hlive : ∀ key, Store.LiveBound key walk.store → key ∈ live) {outpoints : List BtcOutPoint} {key : OutpointKey}
    (hkey : Store.LiveBound key (pageStore w env n walk outpoints)) : key ∈ live := by
  rcases hadds n _ key hkey with hold | hadded
  · exact hlive key ((Store.liveBound_of_eq (pageWalk_cells outpoints)).mp hold)
  · exact hsub key hadded

/-! ## A whole walk -/

/-- A walk is its pages. -/
theorem sweepPages_hands (hbatch : 0 < w.config.batchSize) (hadds : env.AddsOnly added) (hsub : ∀ key ∈ added, key ∈ live)
    (hread : ∀ key ∈ live, key.txid.length = 32) (hlive : ∀ key, Store.LiveBound key walk.store → key ∈ live)
    (h : w.sweepPages env fuel n cursor walk = some (walk', done)) :
    ∃ reads handed, walk'.reads = walk.reads ++ reads ∧ Hands w env n cursor reads handed done := by
  induction fuel generalizing n cursor walk with
  | zero => cases h
  | succ fuel ih =>
    rcases sweepPages_step hbatch (fun key hkey => hread key (hlive key hkey)) env n cursor with
      ⟨hpage, hstep⟩ | ⟨page, outpoints, hpage, hne, hkeys, hrefresh⟩
    · rw [hstep] at h
      obtain ⟨rfl, rfl⟩ := Prod.mk.inj (Option.some.inj h)
      exact ⟨_, _, rfl, .finish hpage⟩
    · rcases hrefresh with ⟨e, hresult, hstep⟩ | ⟨out, report, hresult, hstep⟩
      · rw [hstep] at h
        obtain ⟨rfl, rfl⟩ := Prod.mk.inj (Option.some.inj h)
        exact ⟨_, _, rfl, .fail hpage hne hkeys hresult⟩
      · rw [hstep] at h
        obtain ⟨reads, handed, hreads, hhands⟩ := ih (fun key hkey => liveBound_pageStore hadds hsub hlive hkey) h
        refine ⟨walk.store :: reads, outpoints ++ handed, ?_, .page hpage hne hkeys hresult hhands⟩
        rw [hreads]
        exact List.append_assoc _ _ _

/-- **The walk comes to its end**: with each page, fewer of the outpoints that are or will be live lie behind its
cursor. -/
theorem sweepPages_ends (hbatch : 0 < w.config.batchSize) (hadds : env.AddsOnly added) (hsub : ∀ key ∈ added, key ∈ live)
    (hread : ∀ key ∈ live, key.txid.length = 32) (hlive : ∀ key, Store.LiveBound key walk.store → key ∈ live)
    (hfuel : (live.filter (Keyset.beyond outpointKeyLe cursor)).length < fuel) :
    ∃ walk' done, w.sweepPages env fuel n cursor walk = some (walk', done) := by
  induction fuel generalizing n cursor walk with
  | zero => exact absurd hfuel (Nat.not_lt_zero _)
  | succ fuel ih =>
    rcases sweepPages_step hbatch (fun key hkey => hread key (hlive key hkey)) env n cursor with
      ⟨hpage, hstep⟩ | ⟨page, outpoints, hpage, hne, hkeys, hrefresh⟩
    · exact ⟨_, _, hstep fuel⟩
    · rcases hrefresh with ⟨e, hresult, hstep⟩ | ⟨out, report, hresult, hstep⟩
      · exact ⟨_, _, hstep fuel⟩
      · rw [hstep]
        obtain ⟨last, hlast⟩ := Option.ne_none_iff_exists'.mp (mt List.getLast?_eq_none_iff.mp hne)
        have hmem := List.mem_of_getLast? hlast
        rw [(Store.liveBoundOutpointsAfter_eq_ok.mp hpage).2] at hmem hlast
        obtain ⟨hmem, hbeyond⟩ := Keyset.mem_of_mem_page hmem
        have hless := Keyset.length_beyond_lt_of_mem outpointKeyLe_isOrder (hlive last (Store.mem_liveBoundOutpoints.mp hmem))
          hbeyond fun _ hlater => Keyset.beyond_of_beyond_last outpointKeyLe_isOrder hlast hlater
        rw [← (Store.liveBoundOutpointsAfter_eq_ok.mp hpage).2] at hlast
        rw [hlast]
        have hrest : (live.filter (Keyset.beyond outpointKeyLe (some last))).length < fuel := by omega
        exact ih (fun key hkey => liveBound_pageStore hadds hsub hlive hkey) hrest

/-! ## What the pages hand over -/

/-- The pages between them hand over what a reader reads who follows the cursors. -/
theorem Hands.keys (h : Hands w env n cursor reads handed done) : handed.map BtcOutPoint.key =
    Keyset.follow outpointKeyLe w.config.batchSize.toInt.toNat cursor (reads.map Store.liveBoundOutpoints) := by
  induction h with
  | finish hpage =>
    have hnil := (Store.liveBoundOutpointsAfter_eq_ok.mp hpage).2
    rw [List.map_singleton, Keyset.follow, Keyset.follow, ← hnil]
    rfl
  | fail hpage _ hkeys _ =>
    rw [List.map_singleton, Keyset.follow, Keyset.follow, hkeys, (Store.liveBoundOutpointsAfter_eq_ok.mp hpage).2,
      List.append_nil]
  | page hpage hne hkeys _ _ ih =>
    obtain ⟨last, hlast⟩ := Option.ne_none_iff_exists'.mp (mt List.getLast?_eq_none_iff.mp hne)
    rw [hlast] at ih
    rw [(Store.liveBoundOutpointsAfter_eq_ok.mp hpage).2] at hkeys hlast
    rw [List.map_append, List.map_cons, Keyset.follow, hkeys, ih, hlast]
    rfl

theorem Hands.nodup (h : Hands w env n cursor reads handed done) : handed.Nodup := by
  refine List.Nodup.of_map BtcOutPoint.key ?_
  rw [h.keys]
  refine Keyset.follow_nodup outpointKeyLe_isOrder ?_ ?_
  · simp only [List.mem_map, forall_exists_index, and_imp, forall_apply_eq_imp_iff₂]
    exact fun st _ => Store.liveBoundOutpoints_sorted st
  · simp only [List.mem_map, forall_exists_index, and_imp, forall_apply_eq_imp_iff₂]
    exact fun st _ => Store.liveBoundOutpoints_nodup st

/-- An outpoint that is live at each page is handed over, unless the walk fails. -/
theorem Hands.complete (hbatch : 0 < w.config.batchSize) (h : Hands w env n cursor reads handed done) {o : BtcOutPoint}
    (hstays : ∀ s ∈ reads, LiveBound o.key s) (hbeyond : Keyset.beyond outpointKeyLe cursor o.key = true) :
    o ∈ handed ∨ ∃ e, done = .error e := by
  have hsize := (toNat_toInt_pos hbatch).2
  induction h with
  | finish hpage =>
    have hmem := mem_liveBoundOutpoints.mpr (hstays _ (List.mem_singleton_self _))
    have hnone := Keyset.page_eq_nil hsize (liveBoundOutpointsAfter_eq_ok.mp hpage).2.symm hmem
    cases hbeyond.symm.trans hnone
  | fail _ _ _ _ => exact .inr ⟨_, rfl⟩
  | page hpage hne hkeys _ _ ih =>
    obtain ⟨last, hlast⟩ := Option.ne_none_iff_exists'.mp (mt List.getLast?_eq_none_iff.mp hne)
    have hmem := mem_liveBoundOutpoints.mpr (hstays _ List.mem_cons_self)
    rw [hlast] at ih
    rw [(liveBoundOutpointsAfter_eq_ok.mp hpage).2] at hkeys hlast
    rcases Keyset.mem_page_or_beyond outpointKeyLe_isOrder (liveBoundOutpoints_sorted _) hlast hmem hbeyond with hin | hlater
    · rw [← hkeys, List.mem_map] at hin
      obtain ⟨o', ho', hkey⟩ := hin
      exact .inl (List.mem_append_left _ (BtcOutPoint.key_injective hkey ▸ ho'))
    · exact (ih (fun s hs => hstays s (List.mem_cons_of_mem _ hs)) hlater).imp_left (List.mem_append_right _)

/-- A walk fails only with a refresh, and its page is the last one handed over. -/
theorem Hands.failed {e : IndexerError} (h : Hands w env n cursor reads handed (.error e)) :
    ∃ m, ∃ s ∈ reads, ∃ outpoints, outpoints <:+ handed ∧
      ((w.pageReconciler env m).refreshOutpoints (env.pageMoment m) s outpoints).result = .error e := by
  generalize hdone : (Except.error e : Except IndexerError Unit) = done at h
  induction h with
  | finish _ => cases hdone
  | fail _ _ _ hresult =>
    obtain rfl := Except.error.inj hdone
    exact ⟨_, _, List.mem_singleton_self _, _, List.suffix_rfl, hresult⟩
  | page _ _ _ _ _ ih =>
    obtain ⟨m, s, hs, outpoints, hsuffix, hresult⟩ := ih hdone
    exact ⟨m, s, List.mem_cons_of_mem _ hs, outpoints, hsuffix.trans (List.suffix_append _ _), hresult⟩

/-- **The walks of a sweep.** Whatever else is committed between their pages, they come to their end, hand no outpoint
to `refresh_outpoints` twice, and hand over every outpoint that stays bound to an unconsumed cell, unless a refresh
fails. -/
theorem sweepWalk_hands (hbatch : 0 < w.config.batchSize) (hst : ∀ key, LiveBound key st → key.txid.length = 32)
    (hadded : ∀ key ∈ added, key.txid.length = 32) (hadds : env.AddsOnly added) :
    (∃ fuel walk done, w.sweepWalk env fuel st = some (walk, done)) ∧
      ∀ fuel walk done, w.sweepWalk env fuel st = some (walk, done) →
        ∃ handed, Hands w env 0 none walk.reads handed done ∧ handed.Nodup ∧
          ∀ o : BtcOutPoint, (∀ s ∈ walk.reads, LiveBound o.key s) →
            o ∈ handed ∨ ∃ e m, done = .error e ∧ ∃ s ∈ walk.reads, ∃ outpoints, outpoints <:+ handed ∧
              ((w.pageReconciler env m).refreshOutpoints (env.pageMoment m) s outpoints).result = .error e := by
  have hsub : ∀ key ∈ added, key ∈ st.liveBoundOutpoints ++ added := fun key hkey => List.mem_append_right _ hkey
  have hlive : ∀ key, LiveBound key st → key ∈ st.liveBoundOutpoints ++ added :=
    fun key hkey => List.mem_append_left _ (mem_liveBoundOutpoints.mpr hkey)
  have hread : ∀ key ∈ st.liveBoundOutpoints ++ added, key.txid.length = 32 := by
    intro key hkey
    rcases List.mem_append.mp hkey with hkey | hkey
    · exact hst key (mem_liveBoundOutpoints.mp hkey)
    · exact hadded key hkey
  constructor
  · exact ⟨_, sweepPages_ends hbatch hadds hsub hread hlive (Nat.lt_succ_self _)⟩
  · intro fuel walk done h
    obtain ⟨reads, handed, hreads, hhands⟩ := sweepPages_hands hbatch hadds hsub hread hlive h
    rw [List.nil_append] at hreads
    subst hreads
    refine ⟨handed, hhands, hhands.nodup, fun o hstays => ?_⟩
    rcases hhands.complete hbatch hstays rfl with hin | ⟨e, rfl⟩
    · exact .inl hin
    · obtain ⟨m, s, hs, outpoints, hsuffix, hresult⟩ := hhands.failed
      exact .inr ⟨e, m, rfl, s, hs, outpoints, hsuffix, hresult⟩

end

/-! ## A walk that fails -/

section
open Sample

local instance walkHash : Sha2 := .standard

/-- A walk that hands over every outpoint that stays, and none twice. -/
def HandsOverAll (w : Sweeper) (env : SweepEnv) (walk : Walk) (done : Except IndexerError Unit) : Prop :=
  ∃ handed, Hands w env 0 none walk.reads handed done ∧ handed.Nodup ∧
    ∀ o : BtcOutPoint, (∀ s ∈ walk.reads, LiveBound o.key s) → o ∈ handed

/-- Pages of one outpoint, and a data source that reports spends but cannot fetch who spends. -/
def mute : Sweeper where
  config := { sweeper.config with batchSize := 1 }
  reconciler :=
    { reconciler (.spentConfirmed spender 100) with
      btc :=
        { name := "esplora"
          moment := fun _ =>
            { transaction := fun _ => .error (.transport "timed out")
              outpointStatus := fun _ => .ok (.spentConfirmed spender 100)
              txOutspends := fun _ => .ok none
              addressUtxos := fun _ => .ok [] } } }

/-- Two cells are live, bound to an outpoint each. -/
def twoLive : Store := after (.testnet 64) (fun _ => "") [.write (.scan (env (mintChain.serve 3)))]

theorem twoLive_keys {key : OutpointKey} (h : LiveBound key twoLive) : key.txid.length = 32 := by
  have hall : ∀ key ∈ twoLive.liveBoundOutpoints, key.txid.length = 32 := by decide +kernel
  exact hall key (mem_liveBoundOutpoints.mpr h)

/-- **A failing refresh cuts the walk short**: nobody else commits anything, both outpoints are live each time the walk
reads the database, and the second is not handed over. -/
theorem failed_refresh_skips : 0 < mute.config.batchSize ∧ (∀ key, LiveBound key twoLive → key.txid.length = 32) ∧
    sweepEnv.AddsOnly [] ∧ (tasks (.testnet 64) fun _ => "").Run .empty [.write (.scan (env (mintChain.serve 3)))] twoLive ∧
    ∃ walk done, mute.sweepWalk sweepEnv 3 twoLive = some (walk, done) ∧ ¬ HandsOverAll mute sweepEnv walk done := by
  refine ⟨by decide, fun key => twoLive_keys, fun _ _ _ h => .inl h, run_after .., ?_⟩
  have hwalk : ((mute.sweepWalk sweepEnv 3 twoLive).any fun p =>
      (p.1.reads.all fun s => decide (outpoint.key ∈ s.liveBoundOutpoints ∧ BtcOutPoint.key ⟨spender, 0⟩ ∈ s.liveBoundOutpoints)) &&
      decide ((Keyset.follow outpointKeyLe 1 none (p.1.reads.map liveBoundOutpoints)).length < 2)) = true := by
    decide +kernel
  obtain ⟨⟨walk, done⟩, hwalk, hrest⟩ := (Option.any_eq_true ..).mp hwalk
  simp only [Bool.and_eq_true, decide_eq_true_eq, List.all_eq_true] at hrest
  obtain ⟨hreads, hfew⟩ := hrest
  refine ⟨walk, done, hwalk, ?_⟩
  rintro ⟨handed, hhands, -, hall⟩
  have hfirst : outpoint ∈ handed := hall _ fun s hs => mem_liveBoundOutpoints.mp (hreads s hs).1
  have hsecond : (⟨spender, 0⟩ : BtcOutPoint) ∈ handed := hall _ fun s hs => mem_liveBoundOutpoints.mp (hreads s hs).2
  have hlength : handed.length < 2 := by
    rw [← List.length_map BtcOutPoint.key, hhands.keys]
    exact hfew
  have hboth : [outpoint, ⟨spender, 0⟩].length ≤ handed.length := by
    refine (List.subperm_of_subset (by decide) fun o ho => ?_).length_le
    rcases List.mem_cons.mp ho with rfl | ho
    · exact hfirst
    · rw [List.mem_singleton.mp ho]
      exact hsecond
  have htwo : [outpoint, (⟨spender, 0⟩ : BtcOutPoint)].length = 2 := rfl
  omega

/-! ## A walk with commits between its pages -/

/-- Pages of one outpoint; the data source reports all of them unspent. -/
def onePerPage : Sweeper := { sweeper with config := { sweeper.config with batchSize := 1 } }

/-- The round that indexes the mint, which is bound to an output of the spender. -/
def mintRound : IndexBatch where
  cells := [buildNewCell .testnet mint.hash (boundOutput 142 spender) ⟨3, hash 103, 0, 0⟩]
  checkpointNumber := 3
  checkpointHash := some (Sample.hash 103).toVec

/-- The round after it, which consumes the cell of the issuance. -/
def spendRound : IndexBatch where
  spends := [⟨cell.txHash.toVec, cell.index.toInt32, consumptionOf (hash 4) ⟨4, hash 104, 0, 0⟩ 0⟩]
  checkpointNumber := 4
  checkpointHash := some (Sample.hash 104).toVec

def scanned : Nat → List (IndexBatch × DateTime)
  | 0 => [(mintRound, 0)]
  | 1 => [(spendRound, 0)]
  | _ => []

/-- The scanner commits a round behind the first page and another behind the second. -/
def scannedEnv : SweepEnv :=
  { sweepEnv with between := fun n st => (scanned n).foldl (fun st round => (st.applyBatch round.1 round.2).1) st }

/-- One cell is live, bound to `outpoint`. -/
def oneLive : Store := after (.testnet 64) (fun _ => "") [.write (.scan (env (mintChain.serve 2)))]

theorem oneLive_keys {key : OutpointKey} (h : LiveBound key oneLive) : key.txid.length = 32 := by
  have hall : ∀ key ∈ oneLive.liveBoundOutpoints, key.txid.length = 32 := by decide +kernel
  exact hall key (mem_liveBoundOutpoints.mpr h)

theorem scannedEnv_addsOnly : scannedEnv.AddsOnly [BtcOutPoint.key ⟨spender, 0⟩] := by
  refine SweepEnv.addsOnly_of_commits (fun n st => rfl : scannedEnv.Commits scanned) fun n round hround c hc vout hvout => ?_
  match n with
  | 0 =>
    obtain rfl := List.mem_singleton.mp hround
    obtain rfl := List.mem_singleton.mp hc
    obtain rfl := Option.some.inj hvout
    exact List.mem_singleton.mpr rfl
  | 1 =>
    obtain rfl := List.mem_singleton.mp hround
    cases hc
  | _ + 2 => cases hround

/-- Three pages: the outpoint that is live, the one the scanner adds meanwhile, and none. Each is handed over once,
though the cell of the first is consumed before the last page is read. -/
theorem sweepWalk_hands_scanned : ∃ walk, onePerPage.sweepWalk scannedEnv 3 oneLive = some (walk, .ok ()) ∧
    walk.reads.length = 3 ∧ Hands onePerPage scannedEnv 0 none walk.reads [outpoint, ⟨spender, 0⟩] (.ok ()) ∧
    [outpoint, ⟨spender, 0⟩].Nodup := by
  have hbatch : 0 < onePerPage.config.batchSize := by decide
  obtain ⟨-, hwalks⟩ := sweepWalk_hands hbatch (fun key => oneLive_keys) (by decide) scannedEnv_addsOnly
  have hwalk : ((onePerPage.sweepWalk scannedEnv 3 oneLive).any fun p =>
      p.2.isOk && decide (p.1.reads.length = 3) &&
      decide (Keyset.follow outpointKeyLe 1 none (p.1.reads.map liveBoundOutpoints) =
        [outpoint, ⟨spender, 0⟩].map BtcOutPoint.key)) = true := by
    decide +kernel
  obtain ⟨⟨walk, done⟩, hwalk, hrest⟩ := (Option.any_eq_true ..).mp hwalk
  simp only [Bool.and_eq_true, decide_eq_true_eq] at hrest
  obtain ⟨⟨hok, hpages⟩, hfollow⟩ := hrest
  obtain rfl : done = .ok () := by
    cases done with
    | ok _ => rfl
    | error e => cases hok
  obtain ⟨handed, hhands, hnodup, -⟩ := hwalks 3 walk _ hwalk
  obtain rfl : handed = [outpoint, ⟨spender, 0⟩] :=
    List.map_injective_iff.mpr BtcOutPoint.key_injective (hhands.keys.trans hfollow)
  exact ⟨walk, hwalk, hpages, hhands, hnodup⟩

end
end System
end RgbppIndexer
