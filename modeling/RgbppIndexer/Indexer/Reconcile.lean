import RgbppIndexer.Btc.Source
import RgbppIndexer.Core.Loop
import RgbppIndexer.Indexer.Extract
import RgbppIndexer.Store.Btc

/-!
# Bitcoin-driven reconciliation

`crates/indexer/src/reconcile.rs`: re-observing outpoints on demand, and the
address-level diff. A refresh asks the data source about its outpoints at one
moment and then works through the answers; while it does, it asks about the
transactions that spend them, each at a moment of its own.

Every function returns the database it leaves next to its result: a refresh
that fails keeps what it has written so far.

* `recordAddresses_inv`: what labelling the outputs of a transaction writes.
-/
namespace RgbppIndexer

open RgbppIndexer.Core

/-- The reconciler and the world of one call; the database is passed along. -/
structure Reconciler where
  config : Config
  btc : BtcDataSource
  completion : Completion
  now : DateTime

/-- mirrors crates/indexer/src/reconcile.rs:40-46 -/
structure OutpointRefresh where
  outpoint : BtcOutPoint
  status : OutpointSpendStatus
  changed : Bool
  deriving DecidableEq, Repr

/-- Where the loop of a refresh stands. -/
structure RefreshPass where
  store : Store
  out : List OutpointRefresh
  /-- the outpoints whose answers were written, oldest first; the source keeps no such list -/
  observed : List BtcOutPoint

/-- What a refresh leaves behind. -/
structure Refreshed where
  store : Store
  observed : List BtcOutPoint
  result : Except IndexerError (List OutpointRefresh)

/-- The labels a fetched transaction gives to its outputs.
mirrors crates/indexer/src/address_backfill.rs:152-170 -/
def recordAddresses (st : Store) (txid : BtcTxid) (tx : BtcTxInfo) (now : DateTime) :
    Except StoreError (Store × Nat) :=
  let outputs := tx.outputs.zipIdx.filterMap fun (output, vout) =>
    output.address.map fun address => (Int32.ofNat vout, address)
  if outputs.isEmpty then .ok (st, 0) else st.recordBindingAddresses txid.toDisplayVec outputs now

/-- The labels of a transaction: there are none to write, or one statement writes them. -/
theorem recordAddresses_inv {st : Store} {txid : BtcTxid} {tx : BtcTxInfo} {now : DateTime} {labelled : Store × Nat}
    (h : recordAddresses st txid tx now = .ok labelled) :
    labelled.1 = st ∨ st.recordBindingAddresses txid.toDisplayVec (tx.outputs.zipIdx.filterMap fun (output, vout) =>
      output.address.map fun address => (Int32.ofNat vout, address)) now = .ok labelled := by
  unfold recordAddresses at h
  dsimp only at h
  split at h
  · exact .inl (congrArg Prod.fst (Except.ok.inj h)).symm
  · exact .inr h

/-- A fetched transaction as the row it is cached in. -/
def btcTxRow (source : String) (tx : BtcTxInfo) : BtcTxRow where
  blockHeight := tx.confirmation.map fun c => c.height.toInt32
  blockHash := tx.confirmation.map fun c => c.hash.data.bytes
  blockTime := tx.confirmation.bind fun c => DateTime.fromTimestampMillis (c.time.toInt * 1000)
  commitment := tx.commitment.map ByteArr.bytes
  inputCount := Int32.ofNat tx.inputs.length
  outputCount := Int32.ofNat tx.outputs.length
  fee := tx.fee.map UInt64.toInt64
  source := source

namespace Reconciler

variable (r : Reconciler)

/-- Fetch and cache a Bitcoin transaction; labels that cannot be written are only logged.
mirrors crates/indexer/src/reconcile.rs:229-259 -/
def refreshBtcTx (moment : Nat) (st : Store) (txid : BtcTxid) : Store × Except IndexerError (Option BtcTxInfo) :=
  match (r.btc.moment moment).transaction txid with
  | .error e => (st, .error (.btc e))
  | .ok none => (st, .ok none)
  | .ok (some tx) =>
    let st := match recordAddresses st txid tx r.now with
      | .ok (labelled, _) => labelled
      | .error _ => st
    (st.upsertBtcTx txid.toDisplayVec (btcTxRow r.btc.name tx), .ok (some tx))

/-- mirrors crates/indexer/src/reconcile.rs:194-210 -/
def recordObservation (st : Store) (outpoint : BtcOutPoint) (status : OutpointSpendStatus) (address : Option String) :
    Store × Bool :=
  st.upsertObservation outpoint.key status address r.btc.name r.now

/-- A newly observed spend: fetch the spending transaction.
mirrors crates/indexer/src/reconcile.rs:214-225 -/
def followUpSpend (moment : Nat) (st : Store) (status : OutpointSpendStatus) : Store × Except IndexerError Unit :=
  match status.spender with
  | none => (st, .ok ())
  | some spender =>
    match r.refreshBtcTx moment st spender with
    | (st, .error e) => (st, .error e)
    | (st, .ok _) => (st, .ok ())

/-- One answer. mirrors crates/indexer/src/reconcile.rs:139-176 -/
def refreshStep (moment : Nat) (pass : RefreshPass) (answer : Observed) : RefreshPass × Except IndexerError Unit :=
  match answer.2 with
  | .error _ =>
    ({ pass with store := pass.store.enqueueRefresh answer.1.key "refresh-failed" ON_DEMAND r.now }, .ok ())
  | .ok status =>
    let (st, changed) := r.recordObservation pass.store answer.1 status none
    let observed := pass.observed ++ [answer.1]
    let (st, followed) := if changed ∧ status.isSpent then r.followUpSpend moment st status else (st, .ok ())
    match followed with
    | .error e => ({ pass with store := st, observed }, .error e)
    | .ok () =>
      let st := if status.isSpent then st else st.resolveAnomaliesForOutpoint answer.1.key r.now
      ({ store := st, out := pass.out ++ [{ outpoint := answer.1, status, changed }], observed }, .ok ())

/-- The outpoints one call asks about. -/
def capped (outpoints : List BtcOutPoint) : List BtcOutPoint := outpoints.take r.config.maxOutpointsPerRequest

/-- The outpoints one call only queues. -/
def overflow (outpoints : List BtcOutPoint) : List BtcOutPoint := outpoints.drop r.config.maxOutpointsPerRequest

/-- The answers a call at `moment` works through. -/
def answers (moment : Nat) (outpoints : List BtcOutPoint) : List Observed :=
  observeMany (r.btc.moment moment) r.completion (r.capped outpoints)

/-- The loop over the answers, from the database the overflow left; each answer's follow-up question has a
moment of its own. -/
def refreshLoop (moment : Nat) (queued : Store) (outpoints : List BtcOutPoint) : RefreshPass × Except IndexerError Unit :=
  forEach r.refreshStep (moment + 1) { store := queued, out := [], observed := [] } (r.answers moment outpoints)

/-- Re-observe a set of outpoints and write the results.
mirrors crates/indexer/src/reconcile.rs:110-192 -/
def refreshOutpoints (moment : Nat) (st : Store) (outpoints : List BtcOutPoint) : Refreshed :=
  if outpoints.isEmpty then { store := st, observed := [], result := .ok [] }
  else
    match st.enqueueRefreshMany ((r.overflow outpoints).map BtcOutPoint.key) "request-overflow" ON_DEMAND r.now with
    | .error e => { store := st, observed := [], result := .error (.store e) }
    | .ok (queued, _) =>
      let (pass, done) := r.refreshLoop moment queued outpoints
      { store := pass.store, observed := pass.observed, result := done.map fun _ => pass.out }

/-! ## The address diff -/

/-- mirrors crates/indexer/src/reconcile.rs:48-60 -/
structure AddressReconcile where
  address : String
  sourceUtxoCount : Nat
  disappeared : List BtcOutPoint
  contradicted : List BtcOutPoint
  refreshed : List OutpointRefresh
  deriving DecidableEq, Repr

/-- Believed live, no longer listed. -/
def disappeared (st : Store) (address : String) (liveNow : List BtcOutPoint) : Except StoreError (List BtcOutPoint) := do
  let believed ← (st.liveBoundOutpointsForAddress address).mapM Store.outPointOfKey
  return believed.filter fun o => o ∉ liveNow

/-- Recorded as spent, still listed. -/
def contradicted (st : Store) (liveNow : List BtcOutPoint) : Except StoreError (List BtcOutPoint) := do
  let rows ← (st.getObservations (liveNow.map BtcOutPoint.key)).mapM fun e => do
    let status ← Store.spendStatus e.2
    if status.isSpent ∧ e.2.invalidatedAt = none then
      let o ← Store.outPointOfKey e.1
      pure (some o)
    else pure none
  return rows.filterMap id

/-- `sort` of an outpoint list: by txid, then by vout. -/
def outPointLe (a b : BtcOutPoint) : Bool :=
  match compare a.txid b.txid with
  | .lt => true
  | .gt => false
  | .eq => decide (a.vout ≤ b.vout)

/-- The address-level diff. mirrors crates/indexer/src/reconcile.rs:268-335 -/
def reconcileAddress (moment : Nat) (st : Store) (address : String) : Store × Except IndexerError AddressReconcile :=
  match (r.btc.moment moment).addressUtxos address with
  | .error e => (st, .error (.btc e))
  | .ok utxos =>
    let liveNow := (utxos.map BtcUtxo.outpoint).dedup
    match st.recordOutpointAddresses (liveNow.map BtcOutPoint.key) address r.now with
    | .error e => (st, .error (.store e))
    | .ok (st, _) =>
      match disappeared st address liveNow, contradicted st liveNow with
      | .error e, _ => (st, .error (.store e))
      | .ok _, .error e => (st, .error (.store e))
      | .ok gone, .ok stale =>
        let toRefresh := ((gone ++ stale).insertionSort fun a b => outPointLe a b).dedup
        let refreshed := r.refreshOutpoints (moment + 1) st toRefresh
        (refreshed.store, refreshed.result.map fun refreshed =>
          { address, sourceUtxoCount := liveNow.length, disappeared := gone, contradicted := stale, refreshed })

end Reconciler
end RgbppIndexer
