import RgbppIndexer.Bugs.MaskedMisspend

/-!
# A misspend counts once for each cell

`detect_misspends` (crates/indexer/src/sweeper.rs:161-246) adds one to its
result for every row of `pending_ckb_outpoints` it records an anomaly for. That
query joins the observations with the cells (crates/store/src/btc.rs:96-110)
and has no `DISTINCT`, so an outpoint with two unconsumed cells comes twice.
The anomaly is recorded twice too, but under one dedup key
(crates/store/src/anomalies.rs:3-5, 36-39): one row, counted as two. The other
queries over the cells of an outpoint say `SELECT DISTINCT`
(crates/store/src/cells.rs:157, crates/store/src/btc.rs:256).

The count of confirmations, `tip.height.saturating_sub(height) + 1`, saturates
one step too early: a spend above the tip has none, and gets one. With a grace
of one such a spend is flagged.

Counterexample: two cells are bound to one outpoint, which is spent. The search
answers two, and has recorded one anomaly (`twice_counted`).

* `accurate_iff`: **a search that succeeds counts the outpoints it has recorded
  anomalies for, each with the confirmations it has, exactly when its work list
  has none of these outpoints twice, and none of their spends is above the tip
  or has 2^32 confirmations.**
* `listedOnce_iff_cells`: as long as the work list has everything, none is on
  it twice exactly when each has one unconsumed cell.

Fix: `SELECT DISTINCT`, and `(tip.height + 1).saturating_sub(height)` in `u64`.
-/
namespace RgbppIndexer.Bugs.CountedPerCell

open RgbppIndexer.Core RgbppIndexer.System Store

/-- The outpoints a search records an anomaly for, in its order, as often as it does. -/
def recorded (w : Sweeper) (env : DetectEnv) (st : Store) : List BtcOutPoint :=
  if w.indexerIsCaughtUp st then
    match env.tip with
    | .error _ => []
    | .ok tip => (forEach (w.detectStep env.now tip) env.moment (st, {}) (st.pendingCkbOutpoints env.rows 10000)).1.2.recorded
  else []

/-- The confirmations of a spend at a tip, as they are. -/
def confirmationsOf (tip height : UInt32) : Int := (tip.toNat : Int) - height.toNat + 1

/-- The result is the number of distinct outpoints an anomaly was recorded for, and each of them was confirmed spent,
with as many confirmations as were counted, and at least the grace. -/
structure Accurate (w : Sweeper) (env : DetectEnv) (st : Store) (n : Nat) : Prop where
  distinct : n = (recorded w env st).dedup.length
  confirmed : ∀ tip, env.tip = .ok tip → ∀ o ∈ recorded w env st, ∃ row spender height,
    st.btcOutpoints.get? o.key = some row ∧ spendStatus row = .ok (.spentConfirmed spender height) ∧
      ((Sweeper.confirmations tip.height height).toNat : Int) = confirmationsOf tip.height height ∧
      (w.config.misspendGraceConfirmations.toNat : Int) ≤ confirmationsOf tip.height height

/-- What is flagged is on the work list once. -/
def ListedOnce (w : Sweeper) (tip : BtcTip) (env : DetectEnv) (st : Store) : Prop :=
  ∀ e ∈ st.pendingCkbOutpoints env.rows 10000, w.verdict tip st e = .flag → (st.pendingCkbOutpoints env.rows 10000).count e = 1

/-- What is flagged was spent at or below the tip, and not 2^32 blocks deep. -/
def WithinTip (w : Sweeper) (tip : BtcTip) (env : DetectEnv) (st : Store) : Prop :=
  ∀ e ∈ st.pendingCkbOutpoints env.rows 10000, w.verdict tip st e = .flag →
    ∀ spender height, spendStatus e.2 = .ok (.spentConfirmed spender height) →
      height ≤ tip.height ∧ ¬ MaskedMisspend.CountWraps tip.height height

section
variable {w : Sweeper} {env : DetectEnv} {now : DateTime} {tip : BtcTip} {moment n : Nat} {found : MisspendsFound}
  {st st' : Store} {e : OutpointKey × ObservationRow} {done : List (OutpointKey × ObservationRow)}

/-! ## One row -/

variable (w now tip moment st found e) in
/-- A row that is flagged has its anomaly recorded, logged and counted; any other records nothing and leaves log and
count. -/
theorem detectStep_recorded :
    (∃ (o : BtcOutPoint) (fetched : Store) (kind : AnomalyKind) (detail : JsonObject), o.key = e.1 ∧
        w.verdict tip st e = .flag ∧ fetched.rgbppAnomalies = st.rgbppAnomalies ∧
        w.detectStep now tip moment (st, found) e = ((fetched.recordMisspend kind o detail now,
          { count := found.count + 1, recorded := found.recorded ++ [o] }), .ok ())) ∨
      ((w.detectStep now tip moment (st, found) e).1.2 = found ∧
        ((w.detectStep now tip moment (st, found) e).2 = .ok () → w.verdict tip st e ≠ .flag) ∧
        ((w.detectStep now tip moment (st, found) e).1.1.rgbppAnomalies = st.rgbppAnomalies ∨
          (w.detectStep now tip moment (st, found) e).1.1.rgbppAnomalies =
            (st.resolveAnomaliesForOutpoint e.1 now).rgbppAnomalies)) := by
  rcases w.detectStep_inv now tip moment st found e with
    ⟨-, fetched, result, hout, hfetched, hskip⟩ | ⟨hresolve, hout⟩ |
      ⟨hflag, kind, o, detail, fetched, -, ho, hfetched, hout⟩
  · rw [hout]
    refine .inr ⟨rfl, fun hok => ?_, .inl hfetched.same.2⟩
    rw [hskip hok]
    nofun
  · rw [hout, hresolve]
    exact .inr ⟨rfl, fun _ => nofun, .inr rfl⟩
  · exact .inl ⟨o, fetched, kind, detail, ho, hflag, hfetched.same.2, hout⟩

/-! ## The rows of a search -/

/-- What the rows `done` leave: the count is the length of the log, and the log has what they flagged. -/
structure Logged (w : Sweeper) (tip : BtcTip) (st : Store) (done : List (OutpointKey × ObservationRow))
    (s : Store × MisspendsFound) : Prop where
  same : CkbSame st s.1
  count : s.2.count = s.2.recorded.length
  log : s.2.recorded.map BtcOutPoint.key = (done.filter fun e => w.verdict tip st e = .flag).map Prod.fst

theorem Logged.step {s : Store × MisspendsFound} (h : Logged w tip st done s)
    (hok : (w.detectStep now tip moment s e).2 = .ok ()) :
    Logged w tip st (done ++ [e]) (w.detectStep now tip moment s e).1 := by
  obtain ⟨st', found⟩ := s
  obtain ⟨hsame, hcount, hlog⟩ := h
  dsimp only at hsame hcount hlog
  have hstep := (Sweeper.detectStep_cases w now tip moment st' found e).1
  rcases detectStep_recorded w now tip moment found st' e with
    ⟨o, fetched, kind, detail, hkey, hflag, -, hout⟩ | ⟨hfound, hnot, -⟩
  · rw [Sweeper.verdict_of_same hsame] at hflag
    refine ⟨hsame.trans hstep, ?_, ?_⟩
    · rw [hout, List.length_append, List.length_singleton, ← hcount]
    · rw [hout, List.filter_append, List.map_append, List.map_append, hlog]
      simp [hflag, hkey]
  · have hskip := hnot hok
    rw [Sweeper.verdict_of_same hsame] at hskip
    refine ⟨hsame.trans hstep, ?_, ?_⟩
    · rw [hfound, hcount]
    · rw [hfound, List.filter_append, List.map_append, hlog]
      simp [hskip]

/-- The flagged rows of the work list. -/
def flagged (w : Sweeper) (tip : BtcTip) (env : DetectEnv) (st : Store) : List (OutpointKey × ObservationRow) :=
  (st.pendingCkbOutpoints env.rows 10000).filter fun e => w.verdict tip st e = .flag

/-- A search that succeeds with its gate open counts what it records, and records what it flags. -/
theorem recorded_of_ok (hgate : w.indexerIsCaughtUp st = true) (htip : env.tip = .ok tip)
    (hok : w.detectMisspends env st = (st', .ok n)) :
    n = (recorded w env st).length ∧ (recorded w env st).map BtcOutPoint.key = (flagged w tip env st).map Prod.fst := by
  unfold Sweeper.detectMisspends at hok
  unfold recorded
  rw [if_pos hgate, htip] at hok ⊢
  dsimp only at hok ⊢
  generalize hlooped : forEach (w.detectStep env.now tip) env.moment (st, {}) (st.pendingCkbOutpoints env.rows 10000) =
    looped at hok ⊢
  obtain ⟨s, res⟩ := looped
  cases res with
  | error err => cases (congrArg Prod.snd hok)
  | ok u =>
    obtain rfl := Except.ok.inj (congrArg Prod.snd hok)
    have hlogged : Logged w tip st (st.pendingCkbOutpoints env.rows 10000) s := by
      have hkeeps : Logged w tip st (st.pendingCkbOutpoints env.rows 10000)
          (forEach (w.detectStep env.now tip) env.moment (st, {}) (st.pendingCkbOutpoints env.rows 10000)).1 :=
        forEach_ok_keeps (fun done e s hs hpass => hs.step hpass) ⟨.refl st, rfl, rfl⟩ (by rw [hlooped])
      rw [hlooped] at hkeeps
      exact hkeeps
    exact ⟨hlogged.count, hlogged.log⟩

/-! ## How often, and how deep -/

/-- An outpoint has one row of observations, however often the work list has it. -/
theorem row_unique {e' : OutpointKey × ObservationRow} (he : e ∈ st.pendingCkbOutpoints env.rows 10000)
    (he' : e' ∈ st.pendingCkbOutpoints env.rows 10000) (hkey : e.1 = e'.1) : e = e' := by
  have hrow := (mem_pendingRows.mp (mem_of_mem_pendingCkbOutpoints he)).2.1
  have hrow' := (mem_pendingRows.mp (mem_of_mem_pendingCkbOutpoints he')).2.1
  rw [← hkey, hrow] at hrow'
  exact Prod.ext hkey (Option.some.inj hrow')

theorem nodup_flagged_iff : (flagged w tip env st).Nodup ↔ ListedOnce w tip env st := by
  rw [List.nodup_iff_count_le_one]
  constructor
  · intro hcount e he hflag
    have hle := hcount e
    rw [flagged, List.count_filter (by simpa using hflag)] at hle
    have hpos := List.count_pos_iff.mpr he
    omega
  · intro honce e
    by_cases he : e ∈ flagged w tip env st
    · obtain ⟨he, hflag⟩ := List.mem_filter.mp he
      rw [flagged, List.count_filter (by exact hflag)]
      exact (honce e he (by simpa using hflag)).le
    · rw [List.count_eq_zero.mpr he]
      exact Nat.zero_le 1

/-- A search records an anomaly for no outpoint twice exactly when its work list has none of them twice. -/
theorem nodup_recorded_iff (hkeys : (recorded w env st).map BtcOutPoint.key = (flagged w tip env st).map Prod.fst) :
    (recorded w env st).Nodup ↔ ListedOnce w tip env st := by
  rw [← List.nodup_map_iff BtcOutPoint.key_injective, hkeys, ← nodup_flagged_iff]
  refine ⟨List.Nodup.of_map _, fun hnodup => hnodup.map_on fun e he e' he' hkey => ?_⟩
  exact row_unique (List.mem_filter.mp he).1 (List.mem_filter.mp he').1 hkey

/-- What is flagged is confirmed spent, and its count is not below the grace. -/
theorem spent_of_flag (h : w.verdict tip st e = .flag) : ∃ spender height,
    spendStatus e.2 = .ok (.spentConfirmed spender height) ∧
      w.config.misspendGraceConfirmations ≤ Sweeper.confirmations tip.height height := by
  unfold Sweeper.verdict at h
  split at h
  · next o status _ hstatus =>
    split at h
    · next spender height hspender hheight =>
      refine ⟨spender, height, ?_, ?_⟩
      · rw [hstatus]
        cases status with
        | spentConfirmed s h =>
          cases hspender
          cases hheight
          rfl
        | _ => cases hheight
      · by_contra hyoung
        rw [if_pos (UInt32.not_le.mp hyoung)] at h
        cases h
    · cases h
  · cases h

/-- The count is the true one unless the spend is above the tip or the count wraps. -/
theorem count_exact_iff {tip height : UInt32} :
    ((Sweeper.confirmations tip height).toNat : Int) = confirmationsOf tip height ↔
      height ≤ tip ∧ ¬ MaskedMisspend.CountWraps tip height := by
  have htip := tip.toNat_lt
  rw [MaskedMisspend.toNat_confirmations, UInt32.le_iff_toNat_le]
  unfold confirmationsOf MaskedMisspend.CountWraps MaskedMisspend.confirmationsAt
  omega

-- a spend a hundred blocks above the tip has one confirmation
example : (Sweeper.confirmations 200 300).toNat = 1 ∧ confirmationsOf 200 300 = -99 := by decide

/-- **The searches that count what they record**, each with its confirmations. -/
theorem accurate_iff (hok : w.detectMisspends env st = (st', .ok n)) :
    Accurate w env st n ↔ (w.indexerIsCaughtUp st = true → ∀ tip, env.tip = .ok tip →
      ListedOnce w tip env st ∧ WithinTip w tip env st) := by
  by_cases hgate : w.indexerIsCaughtUp st = true
  · cases htip : env.tip with
    | error err =>
      unfold Sweeper.detectMisspends at hok
      rw [if_pos hgate, htip] at hok
      cases (congrArg Prod.snd hok)
    | ok tip =>
      obtain ⟨hcount, hkeys⟩ := recorded_of_ok hgate htip hok
      have hdistinct : n = (recorded w env st).dedup.length ↔ ListedOnce w tip env st := by
        rw [← nodup_recorded_iff hkeys, hcount]
        constructor
        · intro hlength
          rw [← (List.dedup_sublist _).eq_of_length hlength.symm]
          exact List.nodup_dedup _
        · intro hnodup
          rw [hnodup.dedup]
      have hmem : ∀ e, e ∈ flagged w tip env st ↔ e ∈ st.pendingCkbOutpoints env.rows 10000 ∧ w.verdict tip st e = .flag :=
        fun e => by simp [flagged]
      have hrow : ∀ e ∈ st.pendingCkbOutpoints env.rows 10000, st.btcOutpoints.get? e.1 = some e.2 :=
        fun e he => (mem_pendingRows.mp (mem_of_mem_pendingCkbOutpoints he)).2.1
      have hconfirmed : (∀ o ∈ recorded w env st, ∃ row spender height, st.btcOutpoints.get? o.key = some row ∧
          spendStatus row = .ok (.spentConfirmed spender height) ∧
          ((Sweeper.confirmations tip.height height).toNat : Int) = confirmationsOf tip.height height ∧
          (w.config.misspendGraceConfirmations.toNat : Int) ≤ confirmationsOf tip.height height) ↔
            WithinTip w tip env st := by
        constructor
        · intro hall e he hflag spender height hstatus
          have hkey : e.1 ∈ (recorded w env st).map BtcOutPoint.key :=
            hkeys ▸ List.mem_map_of_mem ((hmem e).mpr ⟨he, hflag⟩)
          obtain ⟨o, ho, hokey⟩ := List.mem_map.mp hkey
          obtain ⟨row, spender', height', hget, hstatus', hexact, -⟩ := hall o ho
          rw [hokey, hrow e he] at hget
          rw [← Option.some.inj hget, hstatus] at hstatus'
          cases hstatus'
          exact count_exact_iff.mp hexact
        · intro hwithin o ho
          have hkey : o.key ∈ (flagged w tip env st).map Prod.fst := hkeys ▸ List.mem_map_of_mem ho
          obtain ⟨e, he, hekey⟩ := List.mem_map.mp hkey
          obtain ⟨he, hflag⟩ := (hmem e).mp he
          obtain ⟨spender, height, hstatus, hgrace⟩ := spent_of_flag hflag
          have hexact := count_exact_iff.mpr (hwithin e he hflag spender height hstatus)
          refine ⟨e.2, spender, height, hekey ▸ hrow e he, hstatus, hexact, ?_⟩
          rw [← hexact]
          exact_mod_cast UInt32.le_iff_toNat_le.mp hgrace
      constructor
      · rintro ⟨hn, hall⟩ - tip' htip'
        obtain rfl := Except.ok.inj htip'
        exact ⟨hdistinct.mp hn, hconfirmed.mp (hall tip htip)⟩
      · intro hcond
        obtain ⟨honce, hwithin⟩ := hcond hgate tip rfl
        refine ⟨hdistinct.mpr honce, fun tip' htip' => ?_⟩
        obtain rfl := Except.ok.inj (htip.symm.trans htip')
        exact hconfirmed.mpr hwithin
  · have hnone : recorded w env st = [] := if_neg hgate
    refine iff_of_true ⟨?_, fun tip _ o ho => ?_⟩ fun hopen => absurd hopen hgate
    · unfold Sweeper.detectMisspends at hok
      rw [if_neg hgate] at hok
      obtain rfl := Except.ok.inj (congrArg Prod.snd hok)
      rw [hnone]
      rfl
    · rw [hnone] at ho
      cases ho

/-! ## In terms of the cells -/

/-- The unconsumed cells bound to an outpoint. -/
def boundCells (st : Store) (key : OutpointKey) : List (CellKey × CellRecord) :=
  st.rgbppCells.entries.filter fun c => c.2.btcTxid = key.txid ∧ c.2.btcVout = some key.vout ∧ c.2.consumed = none

/-- The join has a row for each of them. -/
theorem count_pendingRows (he : e ∈ st.pendingRows) : st.pendingRows.count e = (boundCells st e.1).length := by
  obtain ⟨key, row⟩ := e
  obtain ⟨-, hrow, hvalid⟩ := mem_pendingRows.mp he
  unfold pendingRows boundCells
  rw [List.count_filterMap, ← List.countP_eq_length_filter]
  refine List.countP_congr fun c _ => ?_
  rw [beq_iff_eq, decide_eq_true_eq]
  constructor
  · intro hjoined
    split at hjoined
    · next vout hvout hconsumed =>
      obtain ⟨row', -, hif⟩ := Option.bind_eq_some_iff.mp hjoined
      split at hif
      · obtain ⟨rfl, -⟩ := Prod.mk.inj (Option.some.inj hif)
        exact ⟨rfl, hvout, hconsumed⟩
      · cases hif
    · cases hjoined
  · rintro ⟨htxid, hvout, hconsumed⟩
    simp only [hvout, hconsumed, htxid, hrow, Option.bind_some, if_pos hvalid]

/-- While the work list has everything, an outpoint is on it as often as it has unconsumed cells. -/
theorem listedOnce_iff_cells (hlimit : st.pendingRows.length ≤ 10000) : ListedOnce w tip env st ↔
    ∀ e ∈ st.pendingRows, w.verdict tip st e = .flag → (boundCells st e.1).length = 1 := by
  have hperm : (st.pendingCkbOutpoints env.rows 10000).Perm st.pendingRows := by
    unfold pendingCkbOutpoints
    rw [List.take_of_length_le]
    · exact (List.perm_insertionSort _ _).trans (env.rows.perm _)
    · rw [List.length_insertionSort, (env.rows.perm _).length_eq]
      exact hlimit
  refine forall_congr' fun e => ?_
  rw [hperm.mem_iff, hperm.count_eq]
  exact forall_congr' fun he => by rw [count_pendingRows he]

end

/-! ## The counterexample -/

section
open Sample

local instance countHash : Sha2 := .standard

/-- An issuance with two cells, both bound to output 0 of the same Bitcoin transaction. -/
def twins : RpcTransaction :=
  { issuance with
    outputs := [(boundOutput 142 btcTxid).cell, (boundOutput 142 btcTxid).cell]
    outputsData := [[], []] }

def twinChain : Chain := .ofBlocks [block 0 [], block 1 [], block 2 [twins], block 3 []] (by decide +kernel)

/-- The cells are indexed, and their outpoint is reported spent, a hundred blocks below the tip. -/
def observed (chain : Chain) : List Event :=
  [.write (.scan (env (chain.serve 3))),
    .answer (reconciler (.spentConfirmed spender 100)) 1 (outpoint, .ok (.spentConfirmed spender 100))]

def stateOf (chain : Chain) : Store := after (.testnet 64) (fun _ => "") (observed chain)

def detectEnv : DetectEnv where
  tip := .ok tip
  moment := 2
  now := 0
  rows := .storage

/-- **Twice counted**: the search answers two, for one outpoint. -/
theorem twice_counted : (tasks (.testnet 64) fun _ => "").Run .empty (observed twinChain) (stateOf twinChain) ∧
    (sweeper.detectMisspends detectEnv (stateOf twinChain)).2 = .ok 2 ∧
    recorded sweeper detectEnv (stateOf twinChain) = [outpoint, outpoint] ∧
    (sweeper.detectMisspends detectEnv (stateOf twinChain)).1.rgbppAnomalies.entries.length = 1 ∧
    ¬ Accurate sweeper detectEnv (stateOf twinChain) 2 := by
  have hrecorded : recorded sweeper detectEnv (stateOf twinChain) = [outpoint, outpoint] := by decide +kernel
  refine ⟨run_after .., by decide +kernel, hrecorded, by decide +kernel, fun haccurate => ?_⟩
  have hdistinct := haccurate.distinct
  rw [hrecorded] at hdistinct
  revert hdistinct
  decide +kernel

/-- A single cell, read through the condition. -/
theorem accurate_iff_single : Accurate sweeper detectEnv (stateOf chain) 1 ↔
    (sweeper.indexerIsCaughtUp (stateOf chain) = true → ∀ tip, detectEnv.tip = .ok tip →
      ListedOnce sweeper tip detectEnv (stateOf chain) ∧ WithinTip sweeper tip detectEnv (stateOf chain)) := by
  have hok : (sweeper.detectMisspends detectEnv (stateOf chain)).2 = .ok 1 := by decide +kernel
  exact accurate_iff (Prod.ext rfl hok)

end
end RgbppIndexer.Bugs.CountedPerCell
