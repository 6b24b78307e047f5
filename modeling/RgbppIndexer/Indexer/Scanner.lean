import RgbppIndexer.Core.Result
import RgbppIndexer.Indexer.Extract

/-!
# The CKB discovery loop

`crates/indexer/src/scanner.rs`. A round reads the node and the rich
indexer, builds one batch and commits it in one database transaction.

The outside world of a round is `ScanEnv`: what the endpoints answer, which
database statements fail, the clock, and the fuel of the page loop. The
round itself is a function: `scanOnce cfg env st` is the round's result and
the database it leaves. `buildRound` is its reading half, which touches no
table; `scanOnce_cases` says everything a round can do to the database.

* `recordLoop_rowsAdded`: reading records adds rows to the batch and leaves the
  rest of it, and the range of the round, as they were.
-/
namespace RgbppIndexer

open RgbppIndexer.Core

/-- Which database statements of a round fail, and how. -/
structure DbFaults where
  initStream : Option StoreError := none
  getStreamState : Option StoreError := none
  recordChainProgress : Option StoreError := none
  cellByOutPoint : CkbOutPoint → Option StoreError := fun _ => none
  applyBatch : Option StoreError := none
  pruneBlocks : Option StoreError := none
  setStreamError : Option StoreError := none

/-- The outside world of one round. -/
structure ScanEnv where
  replies : Replies
  faults : DbFaults
  now : DateTime
  pageFuel : Nat

/-- What one scan round did. mirrors crates/indexer/src/scanner.rs:34-46 -/
structure ScanRound where
  fromBlock : UInt64 := 0
  toBlock : UInt64 := 0
  chainTip : UInt64 := 0
  target : UInt64 := 0
  transactions : Nat := 0
  cells : Nat := 0
  spends : Nat := 0
  backfilledCells : Nat := 0
  idle : Bool := false
  deriving DecidableEq, Repr

/-- The "match any args" form of a protocol lock. mirrors crates/indexer/src/scanner.rs:598-604 -/
def lockSearchScript (protocol : ProtocolScripts) (kind : LockKind) : Script :=
  { codeHash := (protocol.scriptId kind).codeHash, hashType := (protocol.scriptId kind).hashType, args := [] }

/-! ## Collecting a range -/

/-- The key of the merge map: `(block_number, tx_index, tx_hash)`. -/
structure RecordKey where
  blockNumber : UInt64
  txIndex : UInt32
  txHash : H256
  deriving DecidableEq

def TxRecord.key (r : TxRecord) : RecordKey := ⟨r.blockNumber, r.txIndex, r.txHash⟩

/-- The tuple order of the key. -/
instance : Ord RecordKey where
  compare := compareLex (compareOn RecordKey.blockNumber) (compareLex (compareOn RecordKey.txIndex) (compareOn RecordKey.txHash))

instance : Std.TransOrd RecordKey :=
  inferInstanceAs (Std.TransCmp (compareLex (compareOn RecordKey.blockNumber)
    (compareLex (compareOn RecordKey.txIndex) (compareOn RecordKey.txHash))))

instance : Std.LawfulEqOrd RecordKey where
  compare_self := Std.ReflOrd.compare_self
  eq_of_compare := by
    intro a b h
    have h' : (compare a.blockNumber b.blockNumber).then ((compare a.txIndex b.txIndex).then (compare a.txHash b.txHash)) =
        .eq := h
    simp only [Ordering.then_eq_eq] at h'
    obtain ⟨h1, h2, h3⟩ := h'
    obtain ⟨an, ai, ah⟩ := a
    obtain ⟨bn, bi, bh⟩ := b
    simp only at h1 h2 h3
    obtain rfl := Std.LawfulEqOrd.eq_of_compare h1
    obtain rfl := Std.LawfulEqOrd.eq_of_compare h2
    obtain rfl := Std.LawfulEqOrd.eq_of_compare h3
    rfl

/-- `if !existing.cells.contains(&cell) { existing.cells.push(cell) }`, for every cell of a record. -/
def mergeCells (existing : List MatchedCell) (cells : List MatchedCell) : List MatchedCell :=
  cells.foldl (fun acc c => if c ∈ acc then acc else acc ++ [c]) existing

/-- One record into the merge map. mirrors crates/indexer/src/scanner.rs:273-287 -/
def mergeRecord (merged : Std.TreeMap RecordKey TxRecord) (record : TxRecord) : Std.TreeMap RecordKey TxRecord :=
  merged.alter record.key fun
    | some existing => some { existing with cells := mergeCells existing.cells record.cells }
    | none => some record

/-- Merge the two protocol locks into one ordered transaction list.
mirrors crates/indexer/src/scanner.rs:262-291 -/
def collectRange (cfg : Config) (env : ScanEnv) (fromBlock toBlock : UInt64) : Except IndexerError (List TxRecord) := do
  let search := fun kind =>
    Except.intoIndexer .ckb (env.replies.collectTransactionsInRange (clientPageLimit cfg) env.pageFuel
      (lockSearchScript cfg.protocol kind) fromBlock toBlock)
  let rgbpp ← search .rgbpp
  let btcTime ← search .btcTime
  let merged := btcTime.foldl mergeRecord (rgbpp.foldl mergeRecord {})
  return merged.toList.map Prod.snd

/-! ## Headers -/

/-- mirrors crates/indexer/src/scanner.rs:544-549 -/
def headerAt (env : ScanEnv) (number : UInt64) : Except IndexerError RpcHeader := do
  match ← Except.intoIndexer .ckb (env.replies.getHeaderByNumber number) with
  | some header => return header
  | none => throw (.inconsistent s!"node has no header at {number}")

/-- The header of every block that produced a match, in block order.
mirrors crates/indexer/src/scanner.rs:532-542 -/
def fetchHeaders (env : ScanEnv) (records : List TxRecord) : Except IndexerError (List (UInt64 × RpcHeader)) :=
  ((records.map TxRecord.blockNumber).insertionSort fun a b => a ≤ b).dedup.mapM fun number => do
    let header ← headerAt env number
    return (number, header)

/-- `headers.get(&number)`. -/
def headerOf (headers : List (UInt64 × RpcHeader)) (number : UInt64) : Option RpcHeader :=
  (headers.find? fun e => e.1 = number).map Prod.snd

/-! ## Resolving inputs -/

/-- A consumed cell that is still pending in this batch. mirrors crates/indexer/src/scanner.rs:411-442 -/
def resolvedFromNewCell (cfg : Config) (cell : NewCell) (outPoint : CkbOutPoint) (inputIndex : UInt32) :
    Except IndexerError ResolvedInput := do
  let id := cfg.protocol.scriptId cell.lockKind
  let type_ ← match cell.typeScript with
    | none => pure none
    | some json => do
      let s ← scriptFromJson json
      pure (some s)
  let binding ← Except.intoIndexer .types (LockBinding.parse cell.lockKind cell.lockArgs)
  return {
    inputIndex, outPoint, binding
    cell := {
      capacity := cell.capacity.toUInt64
      lock := { codeHash := id.codeHash, hashType := id.hashType, args := cell.lockArgs }
      type_ }
    data := cell.cellData }

/-- `batch.cells.push(new_cell); round.backfilled_cells += 1`. -/
def pushBackfilled (batch : IndexBatch) (round : ScanRound) (cell : NewCell) : IndexBatch × ScanRound :=
  ({ batch with cells := batch.cells ++ [cell] }, { round with backfilledCells := round.backfilledCells + 1 })

/-- The row of a cell fetched from the node: its block is what the node reports, its position is unknown. -/
def backfilledCell (cfg : Config) (env : ScanEnv) (outPoint : CkbOutPoint) (binding : LockBinding) (cell : CellOutput)
    (data : Bytes) (status : TxStatus) : NewCell :=
  let createdNumber : Int64 := (status.blockNumber.map UInt64.toInt64).getD 0
  { buildNewCell cfg.assets outPoint.txHash { index := outPoint.index, binding, cell, data }
      { number := (max createdNumber 0).toUInt64, hash := status.blockHash.getD H256.ZERO, timestamp := env.now,
        txIndex := 0 } with
    createdBlockHash := (status.blockHash.map H256.toVec).getD []
    createdTxIndex := UNKNOWN_TX_INDEX }

/-- The gap case: a cell created outside the indexed range.
mirrors crates/indexer/src/scanner.rs:444-526 -/
def backfillInput (cfg : Config) (env : ScanEnv) (outPoint : CkbOutPoint) (inputIndex : UInt32)
    (batch : IndexBatch) (round : ScanRound) : Except IndexerError (Option ResolvedInput × IndexBatch × ScanRound) := do
  match ← Except.intoIndexer .ckb (env.replies.getTransaction outPoint.txHash) with
  | none => return (none, batch, round)
  | some withStatus =>
    match withStatus.transaction with
    | none => return (none, batch, round)
    | some tx =>
      match tx.outputs[outPoint.index.toNat]? with
      | none => return (none, batch, round)
      | some cell =>
        let data := tx.outputsData.getD outPoint.index.toNat []
        match cfg.protocol.classify cell.lock with
        | none => return (none, batch, round)
        | some kind =>
          let binding ← Except.intoIndexer .types (LockBinding.parse kind cell.lock.args)
          let newCell := backfilledCell cfg env outPoint binding cell data withStatus.txStatus
          return (some { inputIndex, outPoint, binding, cell, data }, pushBackfilled batch round newCell)

/-- Find the consumed cell: from this batch, from the database, or from the node.
mirrors crates/indexer/src/scanner.rs:369-409 -/
def resolveInput (cfg : Config) (env : ScanEnv) (st : Store) (outPoint : CkbOutPoint) (inputIndex : UInt32)
    (batch : IndexBatch) (round : ScanRound) : Except IndexerError (Option ResolvedInput × IndexBatch × ScanRound) :=
  -- created earlier in this very batch: it is not in the database yet
  match batch.cells.find? (fun c => c.ckbTxHash = outPoint.txHash.toVec ∧ c.outputIndex = outPoint.index.toInt32) with
  | some pending => do
    let resolved ← resolvedFromNewCell cfg pending outPoint inputIndex
    return (some resolved, batch, round)
  | none =>
    match env.faults.cellByOutPoint outPoint with
    | some e => throw (.store e)
    | none =>
      match st.cellByOutPoint outPoint.txHash.toVec outPoint.index.toInt32 with
      | some row => do
        let binding ← bindingFromRow row
        let cell ← cellOutputFromRow cfg.protocol row
        return (some { inputIndex, outPoint, binding, cell, data := row.cellData }, batch, round)
      | none => backfillInput cfg env outPoint inputIndex batch round

/-! ## One transaction -/

/-- The state of the input loop: what is resolved so far, the batch and the round. -/
abbrev InputLoop := List ResolvedInput × IndexBatch × ScanRound

/-- One matched input. mirrors crates/indexer/src/scanner.rs:321-343 -/
def resolveMatched (cfg : Config) (env : ScanEnv) (st : Store) (record : TxRecord) (tx : RpcTransaction)
    (loop : InputLoop) (matched : MatchedCell) : Except IndexerError InputLoop :=
  match tx.inputs[matched.ioIndex.toNat]? with
  | none => throw (.inconsistent s!"transaction {record.txHash.toHex} has no input at index {matched.ioIndex}")
  | some input => do
    let (resolved, batch, round) ← resolveInput cfg env st input.previousOutput matched.ioIndex loop.2.1 loop.2.2
    match resolved with
    | some r => return (loop.1 ++ [r], batch, round)
    -- cannot resolve a consumed cell the rich indexer matched: the spend is skipped
    | none => return (loop.1, batch, round)

/-- The matched cells of a record that are inputs, in the record's order. -/
def matchedInputs (record : TxRecord) : List MatchedCell := record.cells.filter fun c => c.ioType = .input

/-- mirrors crates/indexer/src/scanner.rs:293-366 -/
def processTransaction [Sha2] (cfg : Config) (env : ScanEnv) (st : Store) (record : TxRecord) (block : BlockContext)
    (withStatus : TransactionWithStatus) (batch : IndexBatch) (round : ScanRound) :
    Except IndexerError (IndexBatch × ScanRound) :=
  match withStatus.transaction with
  | none => throw (.inconsistent s!"node returned transaction {record.txHash.toHex} without a body")
  | some tx => do
    let (resolvedInputs, batch, round) ←
      (matchedInputs record).foldlM (resolveMatched cfg env st record tx) ([], batch, round)
    match extract cfg.protocol cfg.assets record.txHash tx.outputs tx.outputsData resolvedInputs block with
    | .ok extracted =>
      return ({ batch with
        cells := batch.cells ++ extracted.cells
        spends := batch.spends ++ extracted.spends
        transitions := batch.transitions ++ extracted.transition.toList }, round)
    -- one unreadable transaction must not stall the whole range
    | .error _ => return (batch, round)

/-- One pass of the record loop. mirrors crates/indexer/src/scanner.rs:188-209 -/
def processRecord [Sha2] (cfg : Config) (env : ScanEnv) (st : Store) (headers : List (UInt64 × RpcHeader))
    (p : IndexBatch × ScanRound) (record : TxRecord) : Except IndexerError (IndexBatch × ScanRound) := do
  match ← Except.intoIndexer .ckb (env.replies.getTransaction record.txHash) with
  | none =>
    throw (.inconsistent s!"rich indexer reported transaction {record.txHash.toHex} which the node cannot return")
  | some withStatus =>
    match headerOf headers record.blockNumber with
    | none => throw (.inconsistent s!"no header fetched for block {record.blockNumber}")
    | some header =>
      let block : BlockContext := {
        number := record.blockNumber, hash := header.hash, timestamp := ckbTimestamp env.now header.timestamp,
        txIndex := record.txIndex }
      processTransaction cfg env st record block withStatus p.1 p.2

/-! ## One round -/

/-- Confirm the chain still agrees with our checkpoint before extending it.
mirrors crates/indexer/src/scanner.rs:559-594 -/
def assertCheckpointStillCanonical (env : ScanEnv) (state : StreamState) : Except IndexerError Unit :=
  match state.lastBlockHash with
  | none => .ok ()
  | some storedHash =>
    if state.lastBlockNumber > 0 then do
      let number := state.lastBlockNumber.toUInt64
      match ← Except.intoIndexer .ckb (env.replies.getHeaderByNumber number) with
      | none => throw (.inconsistent s!"node has no header at our checkpoint {number}")
      | some header =>
        if header.hash.toVec = storedHash then return ()
        else throw (.reorg number (hexText storedHash) header.hash.toHex)
    else .ok ()

/-- `(checkpoint + 1).max(start_block as i64) as u64`. -/
def rangeFrom (cfg : Config) (checkpoint : Int64) : UInt64 := (max (checkpoint + 1) cfg.ckb.startBlock.toInt64).toUInt64

/-- `target.min(from + batch_blocks - 1)`; a release build wraps. -/
def rangeTo (cfg : Config) (target fromBlock : UInt64) : UInt64 := min target (fromBlock + cfg.ckb.batchBlocks - 1)

/-- A header as the row it is written as. -/
def blockRecord (env : ScanEnv) (number : UInt64) (header : RpcHeader) (activity : Bool) : BlockRecord where
  number := number.toInt64
  hash := header.hash.toVec
  parentHash := header.parentHash.toVec
  timestamp := ckbTimestamp env.now header.timestamp
  hasRgbppActivity := activity

/-- The checkpoint block's header, fetched with the others or on its own. -/
def checkpointHeader (env : ScanEnv) (headers : List (UInt64 × RpcHeader)) (toBlock : UInt64) :
    Except IndexerError RpcHeader :=
  match headerOf headers toBlock with
  | some header => .ok header
  | none => headerAt env toBlock

/-- The reading half of a round: everything between the idle check and the commit.
mirrors crates/indexer/src/scanner.rs:145-239 -/
def buildRound [Sha2] (cfg : Config) (env : ScanEnv) (st : Store) (state : StreamState) (chainTip target : UInt64) :
    Except IndexerError (IndexBatch × ScanRound) := do
  assertCheckpointStillCanonical env state
  let fromBlock := rangeFrom cfg state.lastBlockNumber
  let toBlock := rangeTo cfg target fromBlock
  let records ← collectRange cfg env fromBlock toBlock
  let round : ScanRound := { fromBlock, toBlock, chainTip, target, transactions := records.length }
  let headers ← fetchHeaders env records
  let batch : IndexBatch := {
    chainTip := chainTip.toInt64, target := target.toInt64, reorgLag := cfg.ckb.reorgLag.toInt64 }
  let (batch, round) ← records.foldlM (processRecord cfg env st headers) (batch, round)
  let activity := headers.map fun e => blockRecord env e.1 e.2 true
  -- the checkpoint block itself, unless it already went in as an activity block
  let header ← checkpointHeader env headers toBlock
  let checkpointBlock :=
    if activity.all (fun b => b.number ≠ toBlock.toInt64) then [blockRecord env toBlock header false] else []
  return ({ batch with
    blocks := batch.blocks ++ activity ++ checkpointBlock
    checkpointNumber := toBlock.toInt64
    checkpointHash := some header.hash.toVec }, round)

/-- `to.saturating_sub(header_retention)`. -/
def keepFrom (cfg : Config) (toBlock : UInt64) : UInt64 :=
  if toBlock < cfg.ckb.headerRetention then 0 else toBlock - cfg.ckb.headerRetention

/-- The writing half: commit the batch, then prune old headers.
mirrors crates/indexer/src/scanner.rs:241-254 -/
def commitRound (cfg : Config) (env : ScanEnv) (st : Store) (batch : IndexBatch) (round : ScanRound) :
    Except IndexerError ScanRound × Store :=
  match env.faults.applyBatch with
  | some e => (.error (.store e), st)
  | none =>
    let (st, stats) := st.applyBatch batch env.now
    let round := { round with cells := stats.cells, spends := stats.spends }
    if keepFrom cfg round.toBlock > 0 then
      match env.faults.pruneBlocks with
      | some e => (.error (.store e), st)
      | none => (.ok round, st.pruneBlocksBelow (keepFrom cfg round.toBlock).toInt64)
    else (.ok round, st)

/-- One bounded unit of work: scan a block range and commit it atomically.
mirrors crates/indexer/src/scanner.rs:113-255 -/
def scanOnce [Sha2] (cfg : Config) (env : ScanEnv) (st : Store) : Except IndexerError ScanRound × Store :=
  match env.faults.initStream with
  | some e => (.error (.store e), st)
  | none =>
    let st := st.insertStream CKB_STREAM cfg.ckb.startBlock env.now
    match env.faults.getStreamState, st.getStreamState CKB_STREAM with
    | some e, _ => (.error (.store e), st)
    | none, none => (.error (.store (.mapping "stream row vanished after insert")), st)
    | none, some state =>
      match env.replies.syncedTip with
      | .error e => (.error (.ckb e), st)
      | .ok chainTip =>
        match env.faults.recordChainProgress with
        | some e => (.error (.store e), st)
        | none =>
          match cfg.safeCkbTarget chainTip with
          | none =>
            (.ok { chainTip, idle := true }, st.recordChainProgress CKB_STREAM chainTip 0 cfg.ckb.reorgLag env.now)
          | some target =>
            let st := st.recordChainProgress CKB_STREAM chainTip target cfg.ckb.reorgLag env.now
            if target.toInt64 ≤ state.lastBlockNumber then (.ok { chainTip, target, idle := true }, st)
            else
              match buildRound cfg env st state chainTip target with
              | .error e => (.error e, st)
              | .ok (batch, round) => commitRound cfg env st batch round

/-- One pass of the scanner's loop: a failed round is noted on the stream row.
mirrors crates/indexer/src/scanner.rs:85-102 -/
def scannerStep [Sha2] (cfg : Config) (env : ScanEnv) (errorText : IndexerError → String) (st : Store) : Store :=
  match scanOnce cfg env st with
  | (.ok _, st) => st
  | (.error e, st) =>
    match env.faults.setStreamError with
    | some _ => st
    | none => st.setStreamError CKB_STREAM (some (errorText e)) env.now

/-! ## What reading a record leaves alone -/

/-- Everything but the cells of a batch is as it was. -/
def CellsOnly (batch batch' : IndexBatch) : Prop := batch' = { batch with cells := batch'.cells }

theorem CellsOnly.refl (batch : IndexBatch) : CellsOnly batch batch := rfl

theorem CellsOnly.trans {a b c : IndexBatch} (hab : CellsOnly a b) (hbc : CellsOnly b c) : CellsOnly a c := by
  unfold CellsOnly at hab hbc ⊢
  rw [hbc, hab]

theorem CellsOnly.transitions {batch batch' : IndexBatch} (h : CellsOnly batch batch') :
    batch'.transitions = batch.transitions := by
  rw [h]

/-- What a round says of its range stays as it is while its records are processed. -/
def SameRange (round round' : ScanRound) : Prop := round' = { round with backfilledCells := round'.backfilledCells }

theorem SameRange.refl (round : ScanRound) : SameRange round round := rfl

theorem SameRange.trans {a b c : ScanRound} (hab : SameRange a b) (hbc : SameRange b c) : SameRange a c := by
  unfold SameRange at *
  rw [hbc, hab]

/-- What the input loop does to a batch and its round: cells are added, and counted. -/
structure CellsAdded (x y : IndexBatch × ScanRound) : Prop where
  cells : CellsOnly x.1 y.1
  range : SameRange x.2 y.2

theorem CellsAdded.refl (x : IndexBatch × ScanRound) : CellsAdded x x := ⟨.refl x.1, .refl x.2⟩

theorem CellsAdded.trans {x y z : IndexBatch × ScanRound} (h : CellsAdded x y) (h' : CellsAdded y z) : CellsAdded x z :=
  ⟨h.cells.trans h'.cells, h.range.trans h'.range⟩

theorem cellsAdded_pushBackfilled (batch : IndexBatch) (round : ScanRound) (cell : NewCell) :
    CellsAdded (batch, round) (pushBackfilled batch round cell) := ⟨rfl, rfl⟩

/-- What a record does to them: rows are added, and everything else stays as it is. -/
structure RowsAdded (x y : IndexBatch × ScanRound) : Prop where
  batch : y.1 = { x.1 with cells := y.1.cells, spends := y.1.spends, transitions := y.1.transitions }
  range : SameRange x.2 y.2

theorem RowsAdded.refl (x : IndexBatch × ScanRound) : RowsAdded x x := ⟨rfl, .refl x.2⟩

theorem RowsAdded.trans {x y z : IndexBatch × ScanRound} (h : RowsAdded x y) (h' : RowsAdded y z) : RowsAdded x z :=
  ⟨by rw [h'.batch, h.batch], h.range.trans h'.range⟩

theorem CellsAdded.rows {x y : IndexBatch × ScanRound} (h : CellsAdded x y) : RowsAdded x y :=
  ⟨by rw [h.cells], h.range⟩

section
variable {cfg : Config} {env : ScanEnv} {st : Store} {op : CkbOutPoint} {inputIndex : UInt32} {batch : IndexBatch}
  {round : ScanRound} {x : Option ResolvedInput × IndexBatch × ScanRound}

theorem backfillInput_cellsAdded (h : backfillInput cfg env op inputIndex batch round = .ok x) :
    CellsAdded (batch, round) x.2 := by
  unfold backfillInput at h
  rw [bind_eq_ok] at h
  obtain ⟨reply, -, h⟩ := h
  cases reply with
  | none =>
    rw [pure_eq_ok] at h
    rw [← h]
    exact .refl _
  | some withStatus =>
    dsimp only at h
    split at h
    · rw [pure_eq_ok] at h
      rw [← h]
      exact .refl _
    · split at h
      · rw [pure_eq_ok] at h
        rw [← h]
        exact .refl _
      · split at h
        · rw [pure_eq_ok] at h
          rw [← h]
          exact .refl _
        · rw [bind_eq_ok] at h
          obtain ⟨binding, -, h⟩ := h
          rw [pure_eq_ok] at h
          rw [← h]
          exact cellsAdded_pushBackfilled batch round _

theorem resolveInput_cellsAdded (h : resolveInput cfg env st op inputIndex batch round = .ok x) :
    CellsAdded (batch, round) x.2 := by
  unfold resolveInput at h
  split at h
  · rw [bind_eq_ok] at h
    obtain ⟨resolved, -, h⟩ := h
    rw [pure_eq_ok] at h
    rw [← h]
    exact .refl _
  · split at h
    · cases h
    · split at h
      · rw [bind_eq_ok] at h
        obtain ⟨binding, -, h⟩ := h
        rw [bind_eq_ok] at h
        obtain ⟨cell, -, h⟩ := h
        rw [pure_eq_ok] at h
        rw [← h]
        exact .refl _
      · exact backfillInput_cellsAdded h

theorem resolveMatched_cellsAdded {record : TxRecord} {tx : RpcTransaction} {loop loop' : InputLoop} {m : MatchedCell}
    (h : resolveMatched cfg env st record tx loop m = .ok loop') : CellsAdded loop.2 loop'.2 := by
  unfold resolveMatched at h
  split at h
  · cases h
  · rw [bind_eq_ok] at h
    obtain ⟨⟨resolved, batch, round⟩, hresolve, h⟩ := h
    have hadded := resolveInput_cellsAdded hresolve
    cases resolved with
    | none =>
      rw [pure_eq_ok] at h
      rw [← h]
      exact hadded
    | some r =>
      rw [pure_eq_ok] at h
      rw [← h]
      exact hadded

/-- The whole loop over the inputs. -/
theorem inputLoop_cellsAdded {record : TxRecord} {tx : RpcTransaction} {ms : List MatchedCell} {loop loop' : InputLoop}
    (h : ms.foldlM (resolveMatched cfg env st record tx) loop = .ok loop') : CellsAdded loop.2 loop'.2 :=
  foldlM_invariant (P := fun s => CellsAdded loop.2 s.2)
    (fun _ _ _ hs hstep => hs.trans (resolveMatched_cellsAdded hstep)) (.refl _) h

variable [Sha2]

theorem processTransaction_rowsAdded {record : TxRecord} {block : BlockContext} {withStatus : TransactionWithStatus}
    {y : IndexBatch × ScanRound} (h : processTransaction cfg env st record block withStatus batch round = .ok y) :
    RowsAdded (batch, round) y := by
  unfold processTransaction at h
  cases htx : withStatus.transaction with
  | none =>
    rw [htx] at h
    cases h
  | some tx =>
    rw [htx] at h
    dsimp only at h
    rw [bind_eq_ok] at h
    obtain ⟨⟨inputs, batch', round'⟩, hloop, h⟩ := h
    have hadded : RowsAdded (batch, round) (batch', round') := (inputLoop_cellsAdded hloop).rows
    dsimp only at h
    split at h
    · rw [pure_eq_ok] at h
      rw [← h]
      exact hadded.trans ⟨rfl, rfl⟩
    · rw [pure_eq_ok] at h
      rw [← h]
      exact hadded

theorem processRecord_rowsAdded {headers : List (UInt64 × RpcHeader)} {y z : IndexBatch × ScanRound} {record : TxRecord}
    (h : processRecord cfg env st headers y record = .ok z) : RowsAdded y z := by
  unfold processRecord at h
  rw [bind_eq_ok] at h
  obtain ⟨reply, -, h⟩ := h
  cases reply with
  | none => cases h
  | some withStatus =>
    dsimp only at h
    cases hheader : headerOf headers record.blockNumber with
    | none =>
      rw [hheader] at h
      cases h
    | some header =>
      rw [hheader] at h
      exact processTransaction_rowsAdded h

/-- The whole loop over the records. -/
theorem recordLoop_rowsAdded {headers : List (UInt64 × RpcHeader)} {records : List TxRecord} {y z : IndexBatch × ScanRound}
    (h : records.foldlM (processRecord cfg env st headers) y = .ok z) : RowsAdded y z :=
  foldlM_invariant (P := RowsAdded y) (fun _ _ _ hs hstep => hs.trans (processRecord_rowsAdded hstep)) (.refl y) h

end

end RgbppIndexer
