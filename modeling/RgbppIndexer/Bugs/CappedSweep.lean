import RgbppIndexer.Indexer.System

/-!
# A sweep skips what its requests cannot hold

`sweep_inner` (crates/indexer/src/sweeper.rs:86-117) reads a page of
`sweep.batch_size` live outpoints and has `refresh_outpoints` re-observe it.
But `refresh_outpoints` (crates/indexer/src/reconcile.rs:117-134) only asks
about the first `reconcile.max_outpoints_per_request` of them and queues the
rest, and the walk goes on after the page. The two settings are independent;
nothing checks one against the other.

The sweep is meant to "re-observe everything by design"
(crates/types/src/config.rs:276-280), "every live binding" (README.md:96), and
the search for misspends right behind it reads what the sweep has written.

Counterexample: two live outpoints, pages of two, requests of one. The walk
gets to its end, and the second outpoint was never asked about
(`second_outpoint_skipped`).

* `sweepPages_written`: what a walk has observed, the rows showed behind its page.
* `reobservesAll_iff`: **against a data source that answers everything, a
  sweep re-observes every live outpoint exactly when a page fits a request, or
  all live outpoints do.**
-/
namespace RgbppIndexer.Bugs.CappedSweep

open RgbppIndexer.Core RgbppIndexer.System Store

/-- On a page of the walk the data source answered about `o`, and behind the page its row shows the answer. -/
def Written (w : Sweeper) (env : SweepEnv) (reads : List Store) (o : BtcOutPoint) : Prop :=
  ∃ n st cursor outpoints status row, reads[n]? = some st ∧
    st.liveBoundOutpointsAfter cursor w.config.batchSize = .ok (outpoints.map BtcOutPoint.key) ∧
    (o, .ok status) ∈ (w.pageReconciler env n).answers (env.pageMoment n) outpoints ∧
    ((w.pageReconciler env n).refreshOutpoints (env.pageMoment n) st outpoints).store.btcOutpoints.get? o.key = some row ∧
    (w.pageReconciler env n).Shows status row

/-- When the walk has got to the search for misspends, every outpoint that had an unconsumed cell each time it read the
work list has been asked about, and its answer written. -/
def ReobservesAll (w : Sweeper) (st : Store) : Prop :=
  ∀ env fuel walk, w.sweepWalk env fuel st = some (walk, .ok ()) →
    ∀ o : BtcOutPoint, (∀ s ∈ walk.reads, LiveBound o.key s) → o ∈ walk.observed ∧ Written w env walk.reads o

/-- The most outpoints a page has. -/
def pageSize (w : Sweeper) : Nat := w.config.batchSize.toInt.toNat

/-- The most outpoints a refresh asks about. -/
def requestSize (w : Sweeper) : Nat := w.reconciler.config.maxOutpointsPerRequest

section
variable {w : Sweeper} {env : SweepEnv} {st : Store} {fuel n : Nat} {cursor : Option OutpointKey} {walk walk' : Walk}
  {page : List OutpointKey} {outpoints : List BtcOutPoint} {out : List OutpointRefresh} {o : BtcOutPoint}

theorem page_of_limit (h : 0 < w.config.batchSize) (st : Store) (cursor : Option OutpointKey) :
    st.liveBoundOutpointsAfter cursor w.config.batchSize =
      .ok (Keyset.page outpointKeyLe cursor (pageSize w) st.liveBoundOutpoints) :=
  liveBoundOutpointsAfter_eq_ok.mpr ⟨(toNat_toInt_pos h).1, rfl⟩

/-! ## The refresh of a page -/

/-- A page that fits a request is re-observed. -/
theorem observed_of_fits (hanswers : ∀ m, (w.reconciler.btc.moment m).AnswersAll) (hkeys : outpoints.map BtcOutPoint.key = page)
    (hresult : ((w.pageReconciler env n).refreshOutpoints (env.pageMoment n) walk.store outpoints).result = .ok out)
    (hfits : page.length ≤ requestSize w) (ho : o.key ∈ page) : o ∈ (pageWalk w env n walk outpoints).observed := by
  have hmem : o ∈ outpoints := by
    rw [← hkeys, List.mem_map] at ho
    obtain ⟨o', ho', hkey⟩ := ho
    rw [← BtcOutPoint.key_injective hkey]
    exact ho'
  have hpage : ∀ m, ((w.pageReconciler env n).btc.moment m).AnswersAll := hanswers
  refine List.mem_append_right _ ((Reconciler.mem_observed_iff_capped hpage hresult (List.ne_nil_of_mem hmem)).mpr ?_)
  have hlength : outpoints.length ≤ requestSize w := by
    rw [← hkeys, List.length_map] at hfits
    exact hfits
  show o ∈ outpoints.take (requestSize w)
  rw [List.take_of_length_le hlength]
  exact hmem

/-- What was read and observed stays so. -/
theorem sweepPages_mono (h : w.sweepPages env fuel n cursor walk = some (walk', .ok ())) :
    (∀ s ∈ walk.reads, s ∈ walk'.reads) ∧ ∀ o ∈ walk.observed, o ∈ walk'.observed := by
  induction fuel generalizing n cursor walk with
  | zero => cases h
  | succ fuel ih =>
    obtain ⟨page, -, ⟨-, rfl⟩ | ⟨-, outpoints, out, report, -, -, hrest⟩⟩ := sweepPages_eq_ok h
    · exact ⟨fun s hs => List.mem_append_left _ hs, fun o ho => ho⟩
    · obtain ⟨hreads, hobserved⟩ := ih hrest
      exact ⟨fun s hs => hreads s (List.mem_append_left _ hs), fun o ho => hobserved o (List.mem_append_left _ ho)⟩

/-- A walk whose pages fit re-observes what comes after its cursor. -/
theorem sweepPages_covers (hanswers : ∀ m, (w.reconciler.btc.moment m).AnswersAll) (hbatch : 0 < w.config.batchSize)
    (hfits : pageSize w ≤ requestSize w) (h : w.sweepPages env fuel n cursor walk = some (walk', .ok ()))
    (hlive : ∀ s ∈ walk'.reads, LiveBound o.key s) (hbeyond : Keyset.beyond outpointKeyLe cursor o.key = true) :
    o ∈ walk'.observed := by
  induction fuel generalizing n cursor walk with
  | zero => cases h
  | succ fuel ih =>
    obtain ⟨page, hpage, hcases⟩ := sweepPages_eq_ok h
    obtain rfl := (liveBoundOutpointsAfter_eq_ok.mp hpage).2
    have hread : walk.store ∈ walk'.reads := by
      rcases hcases with ⟨-, rfl⟩ | ⟨-, outpoints, out, report, -, -, hrest⟩
      · simp
      · exact (sweepPages_mono hrest).1 _ (by simp [pageWalk])
    have hmem : o.key ∈ walk.store.liveBoundOutpoints := mem_liveBoundOutpoints.mpr (hlive _ hread)
    rcases hcases with ⟨hnil, -⟩ | ⟨hne, outpoints, out, report, hkeys, hresult, hrest⟩
    · have hnone := Keyset.page_eq_nil (toNat_toInt_pos hbatch).2 hnil hmem
      rw [hbeyond] at hnone
      cases hnone
    · obtain ⟨last, hlast⟩ := Option.ne_none_iff_exists'.mp (mt List.getLast?_eq_none_iff.mp hne)
      rcases Keyset.mem_page_or_beyond outpointKeyLe_isOrder (liveBoundOutpoints_sorted _) hlast hmem hbeyond with hin | hlater
      · refine (sweepPages_mono hrest).2 o (observed_of_fits hanswers hkeys hresult ?_ hin)
        exact (List.length_take_le _ _).trans hfits
      · exact ih hrest (hlast ▸ hlater)

/-- A walk that begins with a page of everything re-observes everything, if that fits. -/
theorem sweepWalk_covers (hanswers : ∀ m, (w.reconciler.btc.moment m).AnswersAll)
    (hfits : st.liveBoundOutpoints.length ≤ requestSize w) (hsize : requestSize w ≤ pageSize w)
    (h : w.sweepWalk env fuel st = some (walk', .ok ())) (hlive : ∀ s ∈ walk'.reads, LiveBound o.key s) :
    o ∈ walk'.observed := by
  unfold Sweeper.sweepWalk at h
  cases fuel with
  | zero => cases h
  | succ fuel =>
    obtain ⟨page, hpage, hcases⟩ := sweepPages_eq_ok h
    have hall : page = st.liveBoundOutpoints := by
      rw [(liveBoundOutpointsAfter_eq_ok.mp hpage).2, Keyset.page, List.filter_eq_self.mpr fun _ _ => by rfl]
      exact List.take_of_length_le (hfits.trans hsize)
    have hread : st ∈ walk'.reads := by
      rcases hcases with ⟨-, rfl⟩ | ⟨-, outpoints, out, report, -, -, hrest⟩
      · simp
      · exact (sweepPages_mono hrest).1 _ (by simp [pageWalk])
    have hmem : o.key ∈ page := hall ▸ mem_liveBoundOutpoints.mpr (hlive _ hread)
    rcases hcases with ⟨hnil, -⟩ | ⟨-, outpoints, out, report, hkeys, hresult, hrest⟩
    · rw [hnil] at hmem
      cases hmem
    · exact (sweepPages_mono hrest).2 o (observed_of_fits hanswers hkeys hresult (hall ▸ hfits) hmem)

/-! ## What is written -/

theorem Written.append {reads : List Store} (h : Written w env reads o) (s : Store) : Written w env (reads ++ [s]) o := by
  obtain ⟨n, st, cursor, outpoints, status, row, hread, hrest⟩ := h
  have hlt : n < reads.length := (List.getElem?_eq_some_iff.mp hread).1
  exact ⟨n, st, cursor, outpoints, status, row, by rw [List.getElem?_append_left hlt, hread], hrest⟩

/-- The answers of a page are written before the next is read. -/
theorem written_of_page (hlength : walk.reads.length = n)
    (hpage : walk.store.liveBoundOutpointsAfter cursor w.config.batchSize = .ok page) (hkeys : outpoints.map BtcOutPoint.key = page)
    (hne : page ≠ [])
    (hresult : ((w.pageReconciler env n).refreshOutpoints (env.pageMoment n) walk.store outpoints).result = .ok out)
    (ho : o ∈ ((w.pageReconciler env n).refreshOutpoints (env.pageMoment n) walk.store outpoints).observed) :
    Written w env (walk.reads ++ [walk.store]) o := by
  have hne' : outpoints ≠ [] := fun hnil => hne (by rw [← hkeys, hnil, List.map_nil])
  obtain ⟨status, hanswer⟩ := (Reconciler.mem_observed hresult hne').mp ho
  obtain ⟨row, hrow, hshows⟩ := Reconciler.shown_of_answer hresult hanswer
  refine ⟨n, walk.store, cursor, outpoints, status, row, ?_, by rw [hkeys, hpage], hanswer, hrow, hshows⟩
  rw [← hlength]
  exact List.getElem?_concat_length

/-- Whatever a walk has observed is written. -/
theorem sweepPages_written (h : w.sweepPages env fuel n cursor walk = some (walk', .ok ())) (hlength : walk.reads.length = n)
    (hwritten : ∀ o ∈ walk.observed, Written w env walk.reads o) : ∀ o ∈ walk'.observed, Written w env walk'.reads o := by
  induction fuel generalizing n cursor walk with
  | zero => cases h
  | succ fuel ih =>
    obtain ⟨page, hpage, ⟨-, rfl⟩ | ⟨hne, outpoints, out, report, hkeys, hresult, hrest⟩⟩ := sweepPages_eq_ok h
    · exact fun o ho => (hwritten o ho).append walk.store
    · refine ih hrest (by simp [pageWalk, hlength]) fun o ho => ?_
      rcases List.mem_append.mp ho with ho | ho
      · exact (hwritten o ho).append walk.store
      · exact written_of_page hlength hpage hkeys hne hresult ho

/-! ## A walk that nothing comes in between of -/

variable (n cursor walk) in
/-- The step of such a walk. -/
theorem sweepPages_quiet_step (hanswers : ∀ m, (w.reconciler.btc.moment m).AnswersAll) (hbatch : 0 < w.config.batchSize)
    (hquiet : ∀ n s, env.between n s = s) (hkeys : ∀ key, LiveBound key walk.store → ∃ o : BtcOutPoint, o.key = key)
    (hne : Keyset.page outpointKeyLe cursor (pageSize w) walk.store.liveBoundOutpoints ≠ []) (fuel : Nat) :
    ∃ outpoints next, outpoints.map BtcOutPoint.key =
        Keyset.page outpointKeyLe cursor (pageSize w) walk.store.liveBoundOutpoints ∧ outpoints.Nodup ∧
      w.sweepPages env (fuel + 1) n cursor walk = w.sweepPages env fuel (n + 1)
        (Keyset.page outpointKeyLe cursor (pageSize w) walk.store.liveBoundOutpoints).getLast? next ∧
      next.store.rgbppCells = walk.store.rgbppCells ∧ next.reads = walk.reads ++ [walk.store] ∧
      ∀ o ∈ next.observed, o ∈ walk.observed ∨ o ∈ w.reconciler.capped outpoints := by
  have hpage := page_of_limit hbatch walk.store cursor
  obtain ⟨outpoints, hmap⟩ := exists_outpoints (Keyset.page outpointKeyLe cursor (pageSize w) walk.store.liveBoundOutpoints)
    fun key hkey => hkeys key (mem_liveBoundOutpoints.mp (Keyset.mem_of_mem_page hkey).1)
  have hnodup : outpoints.Nodup := by
    refine List.Nodup.of_map BtcOutPoint.key ?_
    rw [hmap]
    exact (liveBoundOutpoints_nodup _).sublist ((List.take_sublist _ _).trans (List.filter_sublist ..))
  have hanswers' : ∀ m, ((w.pageReconciler env n).btc.moment m).AnswersAll := hanswers
  obtain ⟨out, hresult⟩ := Reconciler.refreshOutpoints_ok (env.pageMoment n) walk.store hanswers' hnodup
  obtain ⟨report, hstep⟩ := sweepPages_succ hpage hne hmap hresult
  refine ⟨outpoints, _, hmap, hnodup, hstep fuel, ?_, rfl, fun o ho => ?_⟩
  · obtain ⟨done, -, hanswered⟩ :=
      Reconciler.refreshOutpoints_answered (w.pageReconciler env n) (env.pageMoment n) walk.store outpoints
    dsimp only
    rw [hquiet]
    exact hanswered.same.cells
  · have hne' : outpoints ≠ [] := by
      rintro rfl
      exact hne hmap.symm
    rcases List.mem_append.mp ho with ho | ho
    · exact .inl ho
    · exact .inr ((Reconciler.mem_observed_iff_capped hanswers' hresult hne').mp ho)

variable (n cursor walk) in
/-- It gets to its end, reads the same cells all the way, and asks only about what comes after its cursor. -/
theorem sweepPages_quiet (hanswers : ∀ m, (w.reconciler.btc.moment m).AnswersAll) (hbatch : 0 < w.config.batchSize)
    (hquiet : ∀ n s, env.between n s = s) (hkeys : ∀ key, LiveBound key walk.store → ∃ o : BtcOutPoint, o.key = key)
    (hfuel : (walk.store.liveBoundOutpoints.filter (Keyset.beyond outpointKeyLe cursor)).length < fuel) :
    ∃ walk', w.sweepPages env fuel n cursor walk = some (walk', .ok ()) ∧
      (∀ s ∈ walk'.reads, s ∈ walk.reads ∨ s.rgbppCells = walk.store.rgbppCells) ∧
      ∀ o ∈ walk'.observed, o ∈ walk.observed ∨ Keyset.beyond outpointKeyLe cursor o.key = true := by
  induction fuel generalizing n cursor walk with
  | zero => omega
  | succ fuel ih =>
    by_cases hne : Keyset.page outpointKeyLe cursor (pageSize w) walk.store.liveBoundOutpoints = []
    · have hpage := page_of_limit hbatch walk.store cursor
      rw [hne] at hpage
      refine ⟨_, sweepPages_nil hpage fuel, fun s hs => ?_, fun o ho => .inl ho⟩
      rcases List.mem_append.mp hs with hs | hs
      · exact .inl hs
      · rw [List.mem_singleton.mp hs]
        exact .inr rfl
    · obtain ⟨last, hlast⟩ := Option.ne_none_iff_exists'.mp (mt List.getLast?_eq_none_iff.mp hne)
      obtain ⟨outpoints, next, hmap, -, hstep, hcells, hreads, hobserved⟩ :=
        sweepPages_quiet_step n cursor walk hanswers hbatch hquiet hkeys hne fuel
      have hlength := Keyset.length_beyond_lt outpointKeyLe_isOrder hlast
      rw [hlast] at hstep
      rw [hstep]
      obtain ⟨walk', hrest, hreads', hobserved'⟩ := ih (n + 1) (some last) next
        (fun key hlive => hkeys key ((liveBound_of_eq hcells).mp hlive))
        (by rw [liveBoundOutpoints_of_eq hcells]; omega)
      refine ⟨walk', hrest, fun s hs => ?_, fun o ho => ?_⟩
      · rcases hreads' s hs with hs | hs
        · rw [hreads] at hs
          rcases List.mem_append.mp hs with hs | hs
          · exact .inl hs
          · rw [List.mem_singleton.mp hs]
            exact .inr rfl
        · exact .inr (hs.trans hcells)
      · rcases hobserved' o ho with ho | ho
        · rcases hobserved o ho with ho | ho
          · exact .inl ho
          · have hmem : o.key ∈ Keyset.page outpointKeyLe cursor (pageSize w) walk.store.liveBoundOutpoints :=
              hmap ▸ List.mem_map_of_mem (List.mem_of_mem_take ho)
            exact .inr (Keyset.mem_of_mem_page hmem).2
        · exact .inr (Keyset.beyond_of_beyond_last outpointKeyLe_isOrder hlast ho)

/-! ## Exactly when -/

variable (env) in
/-- Where the first page does not fit, it leaves out an outpoint that no page comes back to. -/
theorem exists_skipped (hanswers : ∀ m, (w.reconciler.btc.moment m).AnswersAll) (hbatch : 0 < w.config.batchSize)
    (hquiet : ∀ n s, env.between n s = s) (hkeys : ∀ key, LiveBound key st → ∃ o : BtcOutPoint, o.key = key)
    (hpage : requestSize w < pageSize w) (hmany : requestSize w < st.liveBoundOutpoints.length) :
    ∃ fuel walk o, w.sweepWalk env fuel st = some (walk, .ok ()) ∧ (∀ s ∈ walk.reads, LiveBound o.key s) ∧
      o ∉ walk.observed := by
  let first : List OutpointKey := Keyset.page outpointKeyLe none (pageSize w) st.liveBoundOutpoints
  let start : Walk := { store := st, report := {}, observed := [], reads := [] }
  have hfirst : first = st.liveBoundOutpoints.take (pageSize w) := by
    show Keyset.page outpointKeyLe none (pageSize w) st.liveBoundOutpoints = _
    rw [Keyset.page, List.filter_eq_self.mpr fun _ _ => by rfl]
  have hlength : requestSize w < first.length := by
    rw [hfirst, List.length_take]
    omega
  have hne : first ≠ [] := List.ne_nil_of_length_pos (by omega)
  obtain ⟨last, hlast⟩ := Option.ne_none_iff_exists'.mp (mt List.getLast?_eq_none_iff.mp hne)
  obtain ⟨outpoints, next, hmap, hnodup, hstep, hcells, hreads, hobserved⟩ :=
    sweepPages_quiet_step 0 none start hanswers hbatch hquiet hkeys hne (st.liveBoundOutpoints.length + 1)
  have hlive : next.store.liveBoundOutpoints = st.liveBoundOutpoints := liveBoundOutpoints_of_eq hcells
  have hfuel : (next.store.liveBoundOutpoints.filter (Keyset.beyond outpointKeyLe (some last))).length <
      st.liveBoundOutpoints.length + 1 := by
    rw [hlive]
    exact Nat.lt_succ_of_le (List.length_filter_le _ _)
  obtain ⟨walk, hrest, hreads', hobserved'⟩ := sweepPages_quiet 1 (some last) next hanswers hbatch hquiet
    (fun key hkey => hkeys key ((liveBound_of_eq hcells).mp hkey)) hfuel
  have hmap' : outpoints.map BtcOutPoint.key = first := hmap
  have hbound : requestSize w < outpoints.length := by
    rw [← hmap', List.length_map] at hlength
    exact hlength
  have hin : outpoints[requestSize w].key ∈ first := hmap' ▸ List.mem_map_of_mem (List.getElem_mem hbound)
  have hmem : outpoints[requestSize w].key ∈ st.liveBoundOutpoints := (Keyset.mem_of_mem_page hin).1
  refine ⟨st.liveBoundOutpoints.length + 2, walk, outpoints[requestSize w], ?_, fun s hs => ?_, fun ho => ?_⟩
  · have hwalk : w.sweepWalk env (st.liveBoundOutpoints.length + 2) st =
        w.sweepPages env (st.liveBoundOutpoints.length + 1) 1 first.getLast? next := hstep
    rw [hwalk, hlast]
    exact hrest
  · rw [← mem_liveBoundOutpoints]
    rcases hreads' s hs with hs | hs
    · have hst : s = st := by
        rw [hreads] at hs
        simpa [start] using hs
      rw [hst]
      exact hmem
    · rw [liveBoundOutpoints_of_eq hs, hlive]
      exact hmem
  · rcases hobserved' _ ho with ho | ho
    · rcases hobserved _ ho with ho | ho
      · cases ho
      · -- it stands right behind what the request holds
        have hdrop : outpoints[requestSize w] ∈ outpoints.drop (requestSize w) :=
          List.mem_drop_iff_getElem.mpr ⟨0, by simpa using hbound, by simp⟩
        exact List.disjoint_take_drop hnodup le_rfl ho hdrop
    · rw [Keyset.not_beyond_of_mem_page outpointKeyLe_isOrder (liveBoundOutpoints_sorted st) hlast hin] at ho
      cases ho

/-- **The sweeps that re-observe every live outpoint.** -/
theorem reobservesAll_iff (hanswers : ∀ m, (w.reconciler.btc.moment m).AnswersAll) (hbatch : 0 < w.config.batchSize)
    (hkeys : ∀ key, LiveBound key st → ∃ o : BtcOutPoint, o.key = key) :
    ReobservesAll w st ↔ pageSize w ≤ requestSize w ∨ st.liveBoundOutpoints.length ≤ requestSize w := by
  constructor
  · intro hall
    by_contra hneither
    obtain ⟨hpage, hmany⟩ := not_or.mp hneither
    obtain ⟨fuel, walk, o, hwalk, hlive, hskipped⟩ := exists_skipped Sample.sweepEnv hanswers hbatch
      (fun _ _ => rfl) hkeys (Nat.lt_of_not_le hpage) (Nat.lt_of_not_le hmany)
    exact hskipped (hall Sample.sweepEnv fuel walk hwalk o hlive).1
  · intro hfits env fuel walk hwalk o hlive
    have hobserved : o ∈ walk.observed := by
      rcases Nat.le_total (pageSize w) (requestSize w) with hpage | hpage
      · exact sweepPages_covers hanswers hbatch hpage hwalk hlive rfl
      · rcases hfits with hsame | hfew
        · exact sweepPages_covers hanswers hbatch hsame hwalk hlive rfl
        · exact sweepWalk_covers hanswers hfew hpage hwalk hlive
    exact ⟨hobserved, sweepPages_written hwalk rfl (by simp) o hobserved⟩

end

/-! ## The counterexample -/

section
open Sample

local instance : Sha2 := .standard

/-- Pages of two outpoints, requests of one. -/
def narrow : Sweeper where
  config := { sweeper.config with batchSize := 2 }
  reconciler := { sweeper.reconciler with config := { Config.testnet 64 with maxOutpointsPerRequest := 1 } }

/-- Two cells are live, bound to an outpoint each. -/
def indexed : Store := after (.testnet 64) (fun _ => "") [.write (.scan (env (mintChain.serve 3)))]

theorem narrow_answersAll (m : Nat) : (narrow.reconciler.btc.moment m).AnswersAll := ⟨fun _ => ⟨_, rfl⟩, fun _ => ⟨_, rfl⟩⟩

def second : BtcOutPoint := ⟨spender, 0⟩

/-- **The second outpoint is skipped**: the walk gets to its end, the outpoint was live each time the work list was
read, and the data source was not asked about it. -/
theorem second_outpoint_skipped :
    (∀ m, (narrow.reconciler.btc.moment m).AnswersAll) ∧ 0 < narrow.config.batchSize ∧ 0 < requestSize narrow ∧
      (tasks (.testnet 64) fun _ => "").Run .empty [.write (.scan (env (mintChain.serve 3)))] indexed ∧
      (∃ walk, narrow.sweepWalk sweepEnv 3 indexed = some (walk, .ok ()) ∧ (∀ s ∈ walk.reads, LiveBound second.key s) ∧
        second ∉ walk.observed) ∧ ¬ ReobservesAll narrow indexed := by
  have hwalk : ((narrow.sweepWalk sweepEnv 3 indexed).any fun p => decide (p.2 = .ok ()) &&
      (p.1.reads.all fun s => decide (second.key ∈ s.liveBoundOutpoints)) && decide (second ∉ p.1.observed)) = true := by
    decide +kernel
  obtain ⟨⟨walk, done⟩, hwalk, hrest⟩ := (Option.any_eq_true ..).mp hwalk
  simp only [Bool.and_eq_true, decide_eq_true_eq, List.all_eq_true] at hrest
  obtain ⟨⟨rfl, hreads⟩, hskipped⟩ := hrest
  have hlive : ∀ s ∈ walk.reads, LiveBound second.key s := fun s hs => mem_liveBoundOutpoints.mp (hreads s hs)
  exact ⟨narrow_answersAll, by decide, by decide, run_after .., ⟨walk, hwalk, hlive, hskipped⟩,
    fun hall => hskipped (hall sweepEnv 3 walk hwalk second hlive).1⟩

/-- The same state, read through the condition. -/
theorem reobservesAll_iff_narrow :
    ReobservesAll narrow indexed ↔ pageSize narrow ≤ requestSize narrow ∨ indexed.liveBoundOutpoints.length ≤ requestSize narrow := by
  refine reobservesAll_iff narrow_answersAll (by decide) fun key hlive => ?_
  have hall : ∀ key ∈ indexed.liveBoundOutpoints, key = outpoint.key ∨ key = second.key := by decide +kernel
  rcases hall key (mem_liveBoundOutpoints.mpr hlive) with rfl | rfl
  · exact ⟨outpoint, rfl⟩
  · exact ⟨second, rfl⟩

end
end RgbppIndexer.Bugs.CappedSweep
