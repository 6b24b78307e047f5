import RgbppIndexer.Indexer.Reconcile
import RgbppIndexer.Store.Anomalies

/-!
# The daily sweep

`crates/indexer/src/sweeper.rs`: a walk over every live binding, page by page
in key order, and then the search for spends that never landed on CKB. The
walk is unbounded in the source; here it takes fuel, and `none` means that it
ran out. Between two pages other tasks may write to the database.

Left out: the `sweep_runs` bookkeeping around the walk, which nothing reads
back, and the log lines.
-/
namespace RgbppIndexer

open RgbppIndexer.Core

/-- mirrors crates/types/src/config.rs:373-395 -/
structure SweepConfig where
  batchSize : Int64
  misspendGraceConfirmations : UInt32
  requireSyncedWithinBlocks : UInt64
  deriving DecidableEq, Repr

/-- mirrors crates/btc/src/source.rs:15-19 -/
structure BtcTip where
  height : UInt32
  hash : BtcBlockHash
  deriving DecidableEq, Repr

/-- mirrors crates/indexer/src/sweeper.rs:20-24 -/
structure Sweeper where
  config : SweepConfig
  reconciler : Reconciler

/-- mirrors crates/indexer/src/sweeper.rs:26-31 -/
structure SweepReport where
  outpointsChecked : Nat := 0
  statusChanged : Nat := 0
  anomaliesFound : Nat := 0
  deriving DecidableEq, Repr

/-- The world of one search for misspends. -/
structure DetectEnv where
  tip : Except BtcError BtcTip
  moment : Nat
  now : DateTime
  rows : RowOrder (OutpointKey × ObservationRow)

/-- The world of one sweep: at each page the moment its questions are asked at, the clock, and the order in which
answers complete; and what other tasks do to the database after it. -/
structure SweepEnv extends DetectEnv where
  pageMoment : Nat → Nat
  pageNow : Nat → DateTime
  pageCompletion : Nat → Completion
  between : Nat → Store → Store

/-- A walk so far. -/
structure Walk where
  store : Store
  report : SweepReport
  /-- the outpoints whose answer was written; the source keeps no such list -/
  observed : List BtcOutPoint
  /-- the database as each page was read; nor this one -/
  reads : List Store

/-- What a search for misspends has found so far. -/
structure MisspendsFound where
  count : Nat := 0
  /-- the outpoints an anomaly was recorded for; the source keeps no such list -/
  recorded : List BtcOutPoint := []

namespace Sweeper

variable (w : Sweeper)

/-- `target.saturating_sub(last).max(0) as u64`. -/
def blocksBehind (target last : Int64) : Nat := (min (target.toInt - last.toInt) (2 ^ 63 - 1)).toNat

/-- Whether the CKB side is close enough to its target. mirrors crates/indexer/src/sweeper.rs:128-154 -/
def indexerIsCaughtUp (st : Store) : Bool :=
  match st.getStreamState CKB_STREAM with
  | none => false
  | some state =>
    match state.targetBlockNumber with
    | none => false
    | some target => decide (blocksBehind target state.lastBlockNumber ≤ w.config.requireSyncedWithinBlocks.toNat)

/-- `tip.height.saturating_sub(height) + 1`, which wraps. -/
def confirmations (tip height : UInt32) : UInt32 := (if tip < height then 0 else tip - height) + 1

/-- What is stored about a misspend. -/
def misspendDetail (spender : BtcTxid) (height confirmations grace : UInt32) (hasCommitment : Bool) : JsonObject :=
  [("spender_txid", .str (hexText spender.toDisplayVec)), ("spent_height", .num height.toNat),
    ("confirmations", .num confirmations.toNat), ("grace_confirmations", .num grace.toNat),
    ("spender_has_rgbpp_commitment", .bool hasCommitment)]

/-- One pending row. mirrors crates/indexer/src/sweeper.rs:171-243 -/
def detectStep (now : DateTime) (tip : BtcTip) : Pass (Store × MisspendsFound) (OutpointKey × ObservationRow) IndexerError :=
  fun moment (st, found) row =>
    match Store.outPointOfKey row.1, Store.spendStatus row.2 with
    | .error e, _ => ((st, found), .error (.store e))
    | .ok _, .error e => ((st, found), .error (.store e))
    | .ok outpoint, .ok status =>
      match status.spender, status.height with
      | some spender, some height =>
        let confirmed := confirmations tip.height height
        if confirmed < w.config.misspendGraceConfirmations then ((st, found), .ok ())
        else if st.transitionsByBtcTxid spender.toDisplayVec ≠ [] then
          ((st.resolveAnomaliesForOutpoint outpoint.key now, found), .ok ())
        else
          match w.reconciler.refreshBtcTx moment st spender with
          | (st, .error e) => ((st, found), .error e)
          | (st, .ok fetched) =>
            let commitment := fetched.bind BtcTxInfo.commitment
            let kind := if commitment.isSome then AnomalyKind.btcSpentWithoutCkb else .noCommitmentInSpender
            let detail := misspendDetail spender height confirmed w.config.misspendGraceConfirmations commitment.isSome
            let st := st.recordMisspend kind outpoint detail now
            ((st, { count := found.count + 1, recorded := found.recorded ++ [outpoint] }), .ok ())
      | _, _ => ((st, found), .ok ())

/-- Flag bound outpoints spent on Bitcoin with no CKB transition to match.
mirrors crates/indexer/src/sweeper.rs:161-246 -/
def detectMisspends (env : DetectEnv) (st : Store) : Store × Except IndexerError Nat :=
  if w.indexerIsCaughtUp st then
    match env.tip with
    | .error e => (st, .error (.btc e))
    | .ok tip =>
      let (pass, done) := forEach (w.detectStep env.now tip) env.moment (st, {}) (st.pendingCkbOutpoints env.rows 10000)
      (pass.1, done.map fun _ => pass.2.count)
  else (st, .ok 0)

/-- The reconciler as it runs at page `n`. -/
def pageReconciler (env : SweepEnv) (n : Nat) : Reconciler :=
  { w.reconciler with now := env.pageNow n, completion := env.pageCompletion n }

/-- The pages from number `n` on, after `cursor`. mirrors crates/indexer/src/sweeper.rs:90-117 -/
def sweepPages (env : SweepEnv) : Nat → Nat → Option OutpointKey → Walk → Option (Walk × Except IndexerError Unit)
  | 0, _, _, _ => none
  | fuel + 1, n, cursor, walk =>
    let walk := { walk with reads := walk.reads ++ [walk.store] }
    match walk.store.liveBoundOutpointsAfter cursor w.config.batchSize with
    | .error e => some (walk, .error (.store e))
    | .ok page =>
      if page.isEmpty then some (walk, .ok ())
      else
        match page.mapM Store.outPointOfKey with
        | .error e => some (walk, .error (.store e))
        | .ok outpoints =>
          let refreshed := (w.pageReconciler env n).refreshOutpoints (env.pageMoment n) walk.store outpoints
          let walk := { walk with store := refreshed.store, observed := walk.observed ++ refreshed.observed }
          match refreshed.result with
          | .error e => some (walk, .error e)
          | .ok out =>
            let report :=
              { walk.report with
                outpointsChecked := walk.report.outpointsChecked + out.length
                statusChanged := walk.report.statusChanged + (out.filter OutpointRefresh.changed).length }
            sweepPages env fuel (n + 1) page.getLast? { walk with store := env.between n walk.store, report }

/-- The whole walk. -/
def sweepWalk (env : SweepEnv) (fuel : Nat) (st : Store) : Option (Walk × Except IndexerError Unit) :=
  w.sweepPages env fuel 0 none { store := st, report := {}, observed := [], reads := [] }

/-- mirrors crates/indexer/src/sweeper.rs:66-121 -/
def sweepOnce (env : SweepEnv) (fuel : Nat) (st : Store) : Option (Store × Except IndexerError SweepReport) :=
  (w.sweepWalk env fuel st).map fun (walk, done) =>
    match done with
    | .error e => (walk.store, .error e)
    | .ok () =>
      let (st, found) := w.detectMisspends env.toDetectEnv walk.store
      (st, found.map fun found => { walk.report with anomaliesFound := found })

end Sweeper
end RgbppIndexer
