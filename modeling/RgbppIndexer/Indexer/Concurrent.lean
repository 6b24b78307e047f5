import RgbppIndexer.Core.Program
import RgbppIndexer.Indexer.Scanner

/-!
# Rounds beside one another

Nothing keeps a second scanner off the database: `scan-once`
(crates/node/src/main.rs:88-90) may run beside `run`. Here a round is the
program of its database statements: between any two of them other scanners may
have written. Each lookup of an input reads the database of its own moment; the
batch is committed in one transaction.

* `alone_scannerProgram`: a round nothing comes in between of is
  `scannerStep`.
-/
namespace RgbppIndexer

open RgbppIndexer.Core

/-- The database, and the checkpoints published to it so far, the last one first. -/
structure Shared where
  store : Store
  published : List Int64 := []

namespace Shared

/-- A statement that publishes no checkpoint. -/
def update (f : Store → Store) (s : Shared) : Shared := { s with store := f s.store }

/-- The transaction of a batch. -/
def commit (batch : IndexBatch) (now : DateTime) (s : Shared) : Shared where
  store := (s.store.applyBatch batch now).1
  published := batch.checkpointNumber :: s.published

@[simp] theorem update_store (f : Store → Store) (s : Shared) : (s.update f).store = f s.store := rfl

@[simp] theorem update_published (f : Store → Store) (s : Shared) : (s.update f).published = s.published := rfl

@[simp] theorem commit_store (batch : IndexBatch) (now : DateTime) (s : Shared) :
    (s.commit batch now).store = (s.store.applyBatch batch now).1 := rfl

end Shared

abbrev ScanProgram (α : Type) := Program Shared IndexerError α

/-- The transaction and the block of a record, before its inputs are resolved.
mirrors crates/indexer/src/scanner.rs:188-209, 293-320 -/
def openRecord (env : ScanEnv) (headers : List (UInt64 × RpcHeader)) (record : TxRecord) :
    Except IndexerError (RpcTransaction × BlockContext) := do
  match ← Except.intoIndexer .ckb (env.replies.getTransaction record.txHash) with
  | none =>
    throw (.inconsistent s!"rich indexer reported transaction {record.txHash.toHex} which the node cannot return")
  | some withStatus =>
    match headerOf headers record.blockNumber with
    | none => throw (.inconsistent s!"no header fetched for block {record.blockNumber}")
    | some header =>
      match withStatus.transaction with
      | none => throw (.inconsistent s!"node returned transaction {record.txHash.toHex} without a body")
      | some tx =>
        return (tx, {
          number := record.blockNumber, hash := header.hash, timestamp := ckbTimestamp env.now header.timestamp,
          txIndex := record.txIndex })

/-- What a record adds to the batch, its inputs resolved. mirrors crates/indexer/src/scanner.rs:345-366 -/
def closeRecord [Sha2] (cfg : Config) (record : TxRecord) (tx : RpcTransaction) (block : BlockContext)
    (loop : InputLoop) : IndexBatch × ScanRound :=
  match extract cfg.protocol cfg.assets record.txHash tx.outputs tx.outputsData loop.1 block with
  | .ok extracted =>
    ({ loop.2.1 with
      cells := loop.2.1.cells ++ extracted.cells
      spends := loop.2.1.spends ++ extracted.spends
      transitions := loop.2.1.transitions ++ extracted.transition.toList }, loop.2.2)
  | .error _ => loop.2

/-- One matched input, against the database of this moment. -/
def resolveProgram (cfg : Config) (env : ScanEnv) (record : TxRecord) (tx : RpcTransaction) (loop : InputLoop)
    (matched : MatchedCell) : ScanProgram InputLoop :=
  .read fun s => resolveMatched cfg env s.store record tx loop matched

def processRecordProgram [Sha2] (cfg : Config) (env : ScanEnv) (headers : List (UInt64 × RpcHeader))
    (p : IndexBatch × ScanRound) (record : TxRecord) : ScanProgram (IndexBatch × ScanRound) := do
  let opened ← Program.done (openRecord env headers record)
  let loop ← (matchedInputs record).foldlM (resolveProgram cfg env record opened.1) ([], p.1, p.2)
  return closeRecord cfg record opened.1 opened.2 loop

/-- mirrors crates/indexer/src/scanner.rs:145-239 -/
def buildRoundProgram [Sha2] (cfg : Config) (env : ScanEnv) (state : StreamState) (chainTip target : UInt64) :
    ScanProgram (IndexBatch × ScanRound) := do
  Program.done (assertCheckpointStillCanonical env state)
  let fromBlock := rangeFrom cfg state.lastBlockNumber
  let toBlock := rangeTo cfg target fromBlock
  let records ← Program.done (collectRange cfg env fromBlock toBlock)
  let round : ScanRound := { fromBlock, toBlock, chainTip, target, transactions := records.length }
  let headers ← Program.done (fetchHeaders env records)
  let batch : IndexBatch := {
    chainTip := chainTip.toInt64, target := target.toInt64, reorgLag := cfg.ckb.reorgLag.toInt64 }
  let built ← records.foldlM (processRecordProgram cfg env headers) (batch, round)
  let activity := headers.map fun e => blockRecord env e.1 e.2 true
  let header ← Program.done (checkpointHeader env headers toBlock)
  let checkpointBlock :=
    if activity.all (fun b => b.number ≠ toBlock.toInt64) then [blockRecord env toBlock header false] else []
  return ({ built.1 with
    blocks := built.1.blocks ++ activity ++ checkpointBlock
    checkpointNumber := toBlock.toInt64
    checkpointHash := some header.hash.toVec }, built.2)

/-- mirrors crates/indexer/src/scanner.rs:241-254 -/
def commitRoundProgram (cfg : Config) (env : ScanEnv) (batch : IndexBatch) (round : ScanRound) : ScanProgram ScanRound :=
  match env.faults.applyBatch with
  | some e => .done (.error (.store e))
  | none =>
    .step (Shared.commit batch env.now) fun s =>
      let stats := (s.store.applyBatch batch env.now).2
      let round := { round with cells := stats.cells, spends := stats.spends }
      if keepFrom cfg round.toBlock > 0 then
        match env.faults.pruneBlocks with
        | some e => .done (.error (.store e))
        | none => do
          .write (Shared.update fun st => st.pruneBlocksBelow (keepFrom cfg round.toBlock).toInt64)
          return round
      else .done (.ok round)

/-- The stream row. mirrors crates/store/src/state.rs:15-26 -/
def readStream (env : ScanEnv) (st : Store) : Except IndexerError StreamState :=
  match env.faults.getStreamState, st.getStreamState CKB_STREAM with
  | some e, _ => .error (.store e)
  | none, none => .error (.store (.mapping "stream row vanished after insert"))
  | none, some state => .ok state

/-- mirrors crates/indexer/src/scanner.rs:113-255 -/
def scanOnceProgram [Sha2] (cfg : Config) (env : ScanEnv) : ScanProgram ScanRound :=
  match env.faults.initStream with
  | some e => .done (.error (.store e))
  | none => do
    .write (Shared.update fun st => st.insertStream CKB_STREAM cfg.ckb.startBlock env.now)
    let state ← Program.read fun s => readStream env s.store
    match env.replies.syncedTip with
    | .error e => .done (.error (.ckb e))
    | .ok chainTip =>
      match env.faults.recordChainProgress with
      | some e => .done (.error (.store e))
      | none =>
        match cfg.safeCkbTarget chainTip with
        | none => do
          .write (Shared.update fun st => st.recordChainProgress CKB_STREAM chainTip 0 cfg.ckb.reorgLag env.now)
          return { chainTip, idle := true }
        | some target => do
          .write (Shared.update fun st => st.recordChainProgress CKB_STREAM chainTip target cfg.ckb.reorgLag env.now)
          if target.toInt64 ≤ state.lastBlockNumber then return { chainTip, target, idle := true }
          else do
            let built ← buildRoundProgram cfg env state chainTip target
            commitRoundProgram cfg env built.1 built.2

/-- A failed round is noted on the stream row. mirrors crates/indexer/src/scanner.rs:85-102 -/
def scannerProgram [Sha2] (cfg : Config) (env : ScanEnv) (errorText : IndexerError → String) : ScanProgram ScanRound :=
  (scanOnceProgram cfg env).handle fun e =>
    match env.faults.setStreamError with
    | some _ => .done (.error e)
    | none => do
      .write (Shared.update fun st => st.setStreamError CKB_STREAM (some (errorText e)) env.now)
      .done (.error e)

/-- Any number of scanners on one freshly migrated database, round after round, their statements in any order. -/
def scanners [Sha2] (ι : Type) [DecidableEq ι] (cfg : Config) (errorText : IndexerError → String) :
    Lts (Workers ι Shared IndexerError ScanRound) (Workers.Event ι ScanEnv) :=
  interleaving (fun env => scannerProgram cfg env errorText) fun s => s = { store := .empty }

/-! ## A round nothing comes in between of -/

section
variable [Sha2] (cfg : Config) (env : ScanEnv) (s : Shared)

/-- A record is opened, its inputs are resolved, and it is closed. -/
theorem processRecord_eq (st : Store) (headers : List (UInt64 × RpcHeader)) (p : IndexBatch × ScanRound)
    (record : TxRecord) : processRecord cfg env st headers p record = (do
      let opened ← openRecord env headers record
      let loop ← (matchedInputs record).foldlM (resolveMatched cfg env st record opened.1) ([], p.1, p.2)
      return closeRecord cfg record opened.1 opened.2 loop) := by
  unfold processRecord openRecord processTransaction closeRecord
  cases Except.intoIndexer IndexerError.ckb (env.replies.getTransaction record.txHash) with
  | error e => rfl
  | ok reply =>
    cases reply with
    | none => rfl
    | some withStatus =>
      simp only [bind, Except.bind]
      cases headerOf headers record.blockNumber with
      | none => rfl
      | some header =>
        cases withStatus.transaction with
        | none => rfl
        | some tx =>
          simp only [pure, Except.pure]
          cases (matchedInputs record).foldlM (resolveMatched cfg env st record tx) ([], p.1, p.2) with
          | error e => rfl
          | ok loop =>
            dsimp only
            cases extract cfg.protocol cfg.assets record.txHash tx.outputs tx.outputsData loop.1 _ with
            | ok extracted => rfl
            | error e => rfl

theorem alone_processRecordProgram (headers : List (UInt64 × RpcHeader)) (p : IndexBatch × ScanRound) (record : TxRecord) :
    (processRecordProgram cfg env headers p record).alone s = (processRecord cfg env s.store headers p record, s) := by
  rw [processRecord_eq]
  unfold processRecordProgram
  cases openRecord env headers record with
  | error e => rfl
  | ok opened =>
    have hloop := Program.alone_foldlM_of_reads (s := s) (f := resolveProgram cfg env record opened.1)
      (g := resolveMatched cfg env s.store record opened.1) (fun _ _ => rfl) (matchedInputs record) ([], p.1, p.2)
    rw [Program.bind_ok, Program.alone_bind, hloop]
    simp only [bind, Except.bind]
    cases (matchedInputs record).foldlM (resolveMatched cfg env s.store record opened.1) ([], p.1, p.2) with
    | error e => rfl
    | ok loop => rfl

theorem alone_buildRoundProgram (state : StreamState) (chainTip target : UInt64) :
    (buildRoundProgram cfg env state chainTip target).alone s =
      (buildRound cfg env s.store state chainTip target, s) := by
  unfold buildRoundProgram buildRound
  cases assertCheckpointStillCanonical env state with
  | error e => rfl
  | ok u =>
    rw [Program.bind_ok, ok_bind]
    dsimp only
    cases collectRange cfg env (rangeFrom cfg state.lastBlockNumber)
        (rangeTo cfg target (rangeFrom cfg state.lastBlockNumber)) with
    | error e => rfl
    | ok records =>
      rw [Program.bind_ok, ok_bind]
      cases fetchHeaders env records with
      | error e => rfl
      | ok headers =>
        rw [Program.bind_ok, ok_bind, Program.alone_bind, Program.alone_foldlM_of_reads
          (fun p record => alone_processRecordProgram cfg env s headers p record)]
        cases records.foldlM (processRecord cfg env s.store headers) _ with
        | error e => rfl
        | ok built =>
          rw [ok_bind]
          dsimp only
          cases checkpointHeader env headers (rangeTo cfg target (rangeFrom cfg state.lastBlockNumber)) with
          | error e => rfl
          | ok header => rfl

omit [Sha2] in
theorem alone_commitRoundProgram (batch : IndexBatch) (round : ScanRound) :
    ((commitRoundProgram cfg env batch round).alone s).1 = (commitRound cfg env s.store batch round).1 ∧
      ((commitRoundProgram cfg env batch round).alone s).2.store = (commitRound cfg env s.store batch round).2 := by
  unfold commitRoundProgram commitRound
  cases env.faults.applyBatch with
  | some e => exact ⟨rfl, rfl⟩
  | none =>
    rw [Program.alone_step]
    dsimp only
    split
    · cases env.faults.pruneBlocks with
      | some e => exact ⟨rfl, rfl⟩
      | none => exact ⟨rfl, rfl⟩
    · exact ⟨rfl, rfl⟩

theorem alone_scanOnceProgram :
    ((scanOnceProgram cfg env).alone s).1 = (scanOnce cfg env s.store).1 ∧
      ((scanOnceProgram cfg env).alone s).2.store = (scanOnce cfg env s.store).2 := by
  unfold scanOnceProgram scanOnce
  cases env.faults.initStream with
  | some e => exact ⟨rfl, rfl⟩
  | none =>
    rw [Program.alone_bind, Program.alone_write]
    dsimp only
    rw [Program.alone_bind, Program.alone_read]
    unfold readStream
    dsimp only [Shared.update_store]
    cases env.faults.getStreamState with
    | some e => exact ⟨rfl, rfl⟩
    | none =>
      cases (s.store.insertStream CKB_STREAM cfg.ckb.startBlock env.now).getStreamState CKB_STREAM with
      | none => exact ⟨rfl, rfl⟩
      | some state =>
        dsimp only
        cases env.replies.syncedTip with
        | error e => exact ⟨rfl, rfl⟩
        | ok chainTip =>
          dsimp only
          cases env.faults.recordChainProgress with
          | some e => exact ⟨rfl, rfl⟩
          | none =>
            dsimp only
            cases cfg.safeCkbTarget chainTip with
            | none => exact ⟨rfl, rfl⟩
            | some target =>
              dsimp only
              rw [Program.alone_bind, Program.alone_write]
              dsimp only
              by_cases hidle : target.toInt64 ≤ state.lastBlockNumber
              · rw [if_pos hidle, if_pos hidle]
                exact ⟨rfl, rfl⟩
              · rw [if_neg hidle, if_neg hidle, Program.alone_bind, alone_buildRoundProgram]
                dsimp only [Shared.update_store]
                cases buildRound cfg env _ state chainTip target with
                | error e => exact ⟨rfl, rfl⟩
                | ok built => exact alone_commitRoundProgram cfg env _ built.1 built.2

/-- **A round nothing comes in between of** is one pass of the scanner's loop. -/
theorem alone_scannerProgram (errorText : IndexerError → String) :
    ((scannerProgram cfg env errorText).alone s).2.store = scannerStep cfg env errorText s.store := by
  obtain ⟨hresult, hstore⟩ := alone_scanOnceProgram cfg env s
  unfold scannerProgram scannerStep
  rw [Program.alone_handle]
  revert hresult hstore
  generalize (scanOnceProgram cfg env).alone s = ended
  generalize scanOnce cfg env s.store = ended'
  obtain ⟨result, s'⟩ := ended
  obtain ⟨result', st'⟩ := ended'
  rintro rfl rfl
  cases result with
  | ok round => rfl
  | error e =>
    dsimp only
    cases env.faults.setStreamError with
    | some _ => rfl
    | none => rfl

end
end RgbppIndexer
