import RgbppIndexer.Indexer.Reconcile
import RgbppIndexer.Store.Anomalies

/-!
# The commitment check

`crates/indexer/src/verify.rs`: every unchecked transition is compared with
the commitment its Bitcoin transaction publishes. A mismatch is recorded as an
anomaly, under the CKB transaction.
-/
namespace RgbppIndexer

open RgbppIndexer.Core

/-- mirrors crates/indexer/src/verify.rs:21-25 -/
structure CommitmentVerifier where
  /-- `config.verify.batch_size` -/
  batchSize : Int64
  reconciler : Reconciler

/-- mirrors crates/indexer/src/verify.rs:27-35 -/
structure VerifyReport where
  checked : Nat := 0
  matched : Nat := 0
  mismatched : Nat := 0
  btcUnknown : Nat := 0
  missingCommitment : Nat := 0
  notApplicable : Nat := 0
  deriving DecidableEq, Repr

/-- The counter a comparison adds to. -/
def VerifyReport.count (report : VerifyReport) : CommitmentStatus → VerifyReport
  | .missing => { report with missingCommitment := report.missingCommitment + 1 }
  | .match => { report with matched := report.matched + 1 }
  | .mismatch => { report with mismatched := report.mismatched + 1 }
  | _ => report

namespace Store

/-- mirrors crates/store/src/transitions.rs:63-81 -/
def setCommitmentResult (st : Store) (ckbTxHash : Bytes) (observed : Option Bytes) (status : CommitmentStatus) : Store :=
  { st with
    rgbppTransitions := st.rgbppTransitions.update ckbTxHash fun t =>
      { t with observedCommitment := observed, commitmentStatus := status } }

/-- mirrors crates/store/src/transitions.rs:83-94 -/
def uncheckedTransitions (st : Store) (rows : RowOrder (Bytes × TransitionRecord)) (limit : Int64) :
    Except StoreError (List (Bytes × TransitionRecord)) :=
  if limit < 0 then .error (.sqlx "LIMIT must not be negative")
  else
    let unchecked := st.rgbppTransitions.select fun _ t =>
      decide (t.commitmentStatus = .unchecked ∧ t.btcTxid.isSome = true)
    .ok (((rows.order unchecked).insertionSort fun a b => a.2.blockNumber ≤ b.2.blockNumber).take limit.toInt.toNat)

end Store

namespace CommitmentVerifier

variable (v : CommitmentVerifier)

/-- What the comparison says. -/
def compareCommitments (expected observed : Option Bytes) : CommitmentStatus :=
  match expected, observed with
  | _, none => .missing
  | some e, some o => if e = o then .match else .mismatch
  | none, some _ => .unchecked

/-- What is stored about a mismatch. -/
def mismatchDetail (expected observed : Bytes) (txid : BtcTxid) : JsonObject :=
  [("expected", .str (hexText expected)), ("observed", .str (hexText observed)),
    ("btc_txid", .str (hexText txid.toDisplayVec))]

/-- A transition whose Bitcoin transaction was fetched. mirrors crates/indexer/src/verify.rs:118-160 -/
def checkCommitment (now : DateTime) (st : Store) (report : VerifyReport) (ckbTxHash btcTxid : Bytes)
    (expected : Option Bytes) (txid : BtcTxid) (tx : BtcTxInfo) : Store × VerifyReport :=
  let observed := tx.commitment.map ByteArr.bytes
  let status := compareCommitments expected observed
  let st := match status, expected, observed with
    | .mismatch, some expected, some observed =>
      st.recordForTransition .commitmentMismatch ckbTxHash (some btcTxid) (mismatchDetail expected observed txid) now
    | _, _, _ => st
  let report := report.count status
  (st.setCommitmentResult ckbTxHash observed status, { report with checked := report.checked + 1 })

/-- One transition. mirrors crates/indexer/src/verify.rs:74-161 -/
def verifyStep (now : DateTime) : Pass (Store × VerifyReport) (Bytes × TransitionRecord) IndexerError :=
  fun moment (st, report) row =>
    match row.2.btcTxid with
    | none => ((st, report), .ok ())
    | some btcTxid =>
      if row.2.kind = .issuance then
        let report := { report with notApplicable := report.notApplicable + 1, checked := report.checked + 1 }
        ((st.setCommitmentResult row.1 none .notApplicable, report), .ok ())
      else
        match BtcTxid.fromDisplaySlice btcTxid with
        | .error e => ((st, report), .error (.types e))
        | .ok txid =>
          match v.reconciler.refreshBtcTx moment st txid with
          | (st, .error e) => ((st, report), .error e)
          | (st, .ok none) =>
            let st := st.setCommitmentResult row.1 none .btcUnknown
            let detail := [("btc_txid", .str (hexText txid.toDisplayVec))]
            let report := { report with btcUnknown := report.btcUnknown + 1, checked := report.checked + 1 }
            ((st.recordForTransition .unknownBtcTx row.1 (some btcTxid) detail now, report), .ok ())
          | (st, .ok (some tx)) => (checkCommitment now st report row.1 btcTxid row.2.expectedCommitment txid tx, .ok ())

/-- mirrors crates/indexer/src/verify.rs:67-164 -/
def verifyOnce (rows : RowOrder (Bytes × TransitionRecord)) (moment : Nat) (now : DateTime) (st : Store) :
    Store × Except IndexerError VerifyReport :=
  match st.uncheckedTransitions rows v.batchSize with
  | .error e => (st, .error (.store e))
  | .ok transitions =>
    let (pass, done) := forEach (v.verifyStep now) moment (st, {}) transitions
    (pass.1, done.map fun _ => pass.2)

end CommitmentVerifier
end RgbppIndexer
