import RgbppIndexer.Indexer.Refresh
import RgbppIndexer.Store.Queue

/-!
# The queue worker

`drain_queue_once` of `crates/indexer/src/reconcile.rs`, one call after
another without anything in between. `RgbppIndexer.Queue.Worker` takes it
apart into its statements, so that other tasks can run between them.
-/
namespace RgbppIndexer

open RgbppIndexer.Core

/-- The settings of the worker. mirrors crates/types/src/config.rs:282, 317-321 -/
structure DrainConfig where
  queueBatchSize : Int64
  maxAttempts : Int32
  observationTtlSecs : UInt64
  deriving DecidableEq, Repr

/-- Whether an observation is still fresh enough to answer from; `num_seconds` truncates.
mirrors crates/store/src/models.rs:279-282 -/
def ObservationRow.isFresh (r : ObservationRow) (ttlSecs : Int64) (now : DateTime) : Bool :=
  decide (r.invalidatedAt = none ∧ Int.tdiv (now - r.observedAt) 1000 < ttlSecs.toInt)

/-- The claimed outpoints whose observation is fresh. mirrors crates/indexer/src/reconcile.rs:472-482 -/
def alreadyFresh (st : Store) (claimed : List BtcOutPoint) (ttlSecs : UInt64) (now : DateTime) :
    Except StoreError (List BtcOutPoint) :=
  ((st.getObservations (claimed.map BtcOutPoint.key)).filter fun e => e.2.isFresh ttlSecs.toInt64 now).mapM
    fun e => Store.outPointOfKey e.1

/-- When the database runs the statements of one drain, and in which order it returns their rows. -/
structure DrainClock where
  rows : ClaimOrder
  claimAt : DateTime
  readAt : DateTime

namespace Reconciler

/-- The end of a drain: what was answered is done with, the rest keeps its entry.
mirrors crates/indexer/src/reconcile.rs:512-526 -/
def settle (succeeded : List BtcOutPoint) (st : Store) (outpoint : BtcOutPoint) : Store :=
  if outpoint ∈ succeeded then st.completeRefresh outpoint.key
  else st.failRefresh outpoint.key "data source did not answer"

/-- mirrors crates/indexer/src/reconcile.rs:440-529 -/
def drainQueueOnce (r : Reconciler) (q : DrainConfig) (clock : DrainClock) (moment : Nat) (st : Store) :
    Store × Except IndexerError Nat :=
  let (st, _) := st.dropExhaustedRefreshes q.maxAttempts
  match st.claimRefreshBatch clock.rows q.queueBatchSize clock.claimAt with
  | .error e => (st, .error (.store e))
  | .ok (st, batch) =>
    if batch.isEmpty then (st, .ok 0)
    else
      match batch.mapM QueueItem.outPoint with
      | .error e => (st, .error (.store e))
      | .ok claimed =>
        match alreadyFresh st claimed q.observationTtlSecs clock.readAt with
        | .error e => (st, .error (.store e))
        | .ok fresh =>
          let outpoints := claimed.filter fun o => o ∉ fresh
          let st := fresh.foldl (fun st o => st.completeRefresh o.key) st
          if outpoints.isEmpty then (st, .ok 0)
          else
            let refreshed := r.refreshOutpoints moment st outpoints
            match refreshed.result with
            | .error e => (refreshed.store, .error e)
            | .ok out => (outpoints.foldl (settle (out.map OutpointRefresh.outpoint)) refreshed.store, .ok out.length)

end Reconciler
end RgbppIndexer
