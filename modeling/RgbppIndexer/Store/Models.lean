import RgbppIndexer.Core.Table
import RgbppIndexer.Types.Config

/-!
# Rows, batches and the database

`crates/store/src/models.rs` and the tables of `migrations/0001_init.sql`.
Columns are SQL-shaped, as in the source: byte strings, signed 64 and 32
bit integers. A text column that only ever holds the `as_str` of an
enumeration is that enumeration. The five `consumed_*` columns are written
together and are one optional group.

Left out: columns nothing in the program reads back (`created_at`,
`consumed_at`, `indexed_at`, `first_seen_at`, `requested_at`), reserved
tables, and `sweep_runs`.
-/
namespace RgbppIndexer

open RgbppIndexer.Core

/-- `DateTime<Utc>`, in milliseconds since the epoch. -/
abbrev DateTime := Int

/-- `DateTime::from_timestamp_millis`: the calendar's years are -262143 to 262142. -/
def DateTime.fromTimestampMillis (ms : Int) : Option DateTime :=
  if -8334601228800000 ≤ ms ∧ ms ≤ 8210266876799999 then some ms else none

/-- The scalar values of the flat JSON objects the program stores. -/
inductive JsonValue where
  | str (s : String)
  | num (n : Int)
  | bool (b : Bool)
  deriving DecidableEq, Repr

abbrev JsonObject := List (String × JsonValue)

/-- `value.get(key).and_then(|v| v.as_str())`. -/
def JsonObject.getStr (o : JsonObject) (key : String) : Option String :=
  match (o.find? fun e => e.1 = key).map Prod.snd with
  | some (.str s) => some s
  | _ => none

/-! ## Errors -/

/-- mirrors crates/store/src/error.rs:6-18. The text of a database error is the server's. -/
inductive StoreError where
  | sqlx (msg : String)
  | mapping (reason : String)
  | types (e : TypesError)
  deriving DecidableEq, Repr

/-! ## CKB facts -/

/-- Primary key of `rgbpp_cells`. -/
structure CellKey where
  ckbTxHash : Bytes
  outputIndex : Int32
  deriving DecidableEq, Repr

/-- The consumption half of a cell's row. -/
structure Consumption where
  blockNumber : Int64
  blockHash : Bytes
  txHash : Bytes
  txIndex : Int32
  inputIndex : Int32
  deriving DecidableEq, Repr

/-- What `rgbpp_cells` holds about a cell besides its anchors: everything
that is read off the output itself. -/
structure CellBody where
  lockKind : LockKind
  btcTxid : Bytes
  btcVout : Option Int32
  btcTimeAfter : Option Int32
  btcTimeTargetLockHash : Option Bytes
  btcTimeTargetLock : Option JsonObject
  lockHash : Bytes
  lockArgs : Bytes
  typeHash : Option Bytes
  typeScript : Option JsonObject
  assetKind : AssetKind
  udtAmount : Option Nat
  capacity : Int64
  cellData : Bytes
  deriving DecidableEq, Repr

/-- A row of `rgbpp_cells`. -/
structure CellRecord extends CellBody where
  createdBlockNumber : Int64
  createdBlockHash : Bytes
  createdTxIndex : Int32
  consumed : Option Consumption
  deriving DecidableEq, Repr

/-- mirrors crates/store/src/models.rs:34-54 -/
structure NewCell extends CellBody where
  ckbTxHash : Bytes
  outputIndex : Int32
  createdBlockNumber : Int64
  createdBlockHash : Bytes
  createdTxIndex : Int32
  deriving DecidableEq, Repr

def NewCell.key (c : NewCell) : CellKey := ⟨c.ckbTxHash, c.outputIndex⟩

/-- The row an insert writes when the key is new. -/
def NewCell.record (c : NewCell) : CellRecord :=
  { c.toCellBody with
    createdBlockNumber := c.createdBlockNumber, createdBlockHash := c.createdBlockHash,
    createdTxIndex := c.createdTxIndex, consumed := none }

/-- mirrors crates/store/src/models.rs:58-66 -/
structure CellSpend where
  ckbTxHash : Bytes
  outputIndex : Int32
  consumed : Consumption
  deriving DecidableEq, Repr

def CellSpend.key (s : CellSpend) : CellKey := ⟨s.ckbTxHash, s.outputIndex⟩

/-- mirrors crates/store/src/models.rs:70-83 -/
inductive CommitmentStatus where
  | unchecked | match | mismatch | btcUnknown | missing | notApplicable
  deriving DecidableEq, Repr

/-- mirrors crates/store/src/models.rs:111-122 -/
structure NewTransition where
  ckbTxHash : Bytes
  blockNumber : Int64
  blockHash : Bytes
  txIndex : Int32
  blockTimestamp : Option DateTime
  kind : TransitionKind
  btcTxid : Option Bytes
  inputCellCount : Int32
  outputCellCount : Int32
  expectedCommitment : Option Bytes
  deriving DecidableEq, Repr

/-- A row of `rgbpp_transitions`, under its CKB transaction hash. -/
structure TransitionRecord where
  blockNumber : Int64
  blockHash : Bytes
  txIndex : Int32
  blockTimestamp : Option DateTime
  kind : TransitionKind
  btcTxid : Option Bytes
  inputCellCount : Int32
  outputCellCount : Int32
  expectedCommitment : Option Bytes
  observedCommitment : Option Bytes
  commitmentStatus : CommitmentStatus
  deriving DecidableEq, Repr

/-- mirrors crates/store/src/models.rs:24-30 -/
structure BlockRecord where
  number : Int64
  hash : Bytes
  parentHash : Bytes
  timestamp : DateTime
  hasRgbppActivity : Bool
  deriving DecidableEq, Repr

/-- A row of `ckb_blocks`, under its number. -/
structure BlockRow where
  hash : Bytes
  parentHash : Bytes
  timestamp : DateTime
  hasRgbppActivity : Bool
  deriving DecidableEq, Repr

/-- Everything one scan round produces. mirrors crates/store/src/models.rs:126-137 -/
structure IndexBatch where
  blocks : List BlockRecord := []
  cells : List NewCell := []
  spends : List CellSpend := []
  transitions : List NewTransition := []
  checkpointNumber : Int64 := 0
  checkpointHash : Option Bytes := none
  chainTip : Int64 := 0
  target : Int64 := 0
  reorgLag : Int64 := 0
  deriving DecidableEq, Repr

/-- mirrors crates/store/src/models.rs:140-145 -/
structure ApplyStats where
  blocks : Nat := 0
  cells : Nat := 0
  spends : Nat := 0
  transitions : Nat := 0
  deriving DecidableEq, Repr

/-- A row of `indexer_state`, under its stream. mirrors crates/store/src/models.rs:286-295 -/
structure StreamState where
  lastBlockNumber : Int64
  lastBlockHash : Option Bytes
  targetBlockNumber : Option Int64
  chainTipNumber : Option Int64
  reorgLag : Int64
  lastError : Option String
  updatedAt : DateTime
  deriving DecidableEq, Repr

/-! ## Bitcoin observations -/

/-- Primary key of `btc_outpoints` and of `btc_refresh_queue`. -/
structure OutpointKey where
  txid : Bytes
  vout : Int32
  deriving DecidableEq, Repr

/-- The `status` column of `btc_outpoints`. -/
inductive ObservationStatus where
  | unknown | unspent | spentUnconfirmed | spentConfirmed
  deriving DecidableEq, Repr

/-- The value `OutpointSpendStatus::as_str` writes into the column. -/
def OutpointSpendStatus.column : OutpointSpendStatus → ObservationStatus
  | .unknown => .unknown
  | .unspent => .unspent
  | .spentUnconfirmed _ => .spentUnconfirmed
  | .spentConfirmed _ _ => .spentConfirmed

/-- `status IN ('spent_unconfirmed', 'spent_confirmed')`. -/
def ObservationStatus.isSpent : ObservationStatus → Bool
  | spentUnconfirmed => true
  | spentConfirmed => true
  | _ => false

@[simp] theorem OutpointSpendStatus.isSpent_column (s : OutpointSpendStatus) : s.column.isSpent = s.isSpent := by
  cases s <;> rfl

/-- A row of `btc_outpoints`. mirrors crates/store/src/models.rs:236-246 -/
structure ObservationRow where
  status : ObservationStatus
  spenderTxid : Option Bytes
  spentHeight : Option Int32
  address : Option String
  source : String
  observedAt : DateTime
  invalidatedAt : Option DateTime
  deriving DecidableEq, Repr

/-- A row of `btc_txs`. -/
structure BtcTxRow where
  blockHeight : Option Int32
  blockHash : Option Bytes
  blockTime : Option DateTime
  commitment : Option Bytes
  inputCount : Int32
  outputCount : Int32
  fee : Option Int64
  source : String
  deriving DecidableEq, Repr

/-- A row of `btc_refresh_queue`. -/
structure QueueRow where
  reason : String
  priority : Int32
  attempts : Int32
  lastError : Option String
  nextAttemptAt : DateTime
  deriving DecidableEq, Repr

/-- A row of `rgbpp_anomalies`, under its dedup key. -/
structure AnomalyRow where
  kind : String
  btcTxid : Option Bytes
  btcVout : Option Int32
  ckbTxHash : Option Bytes
  ckbOutputIndex : Option Int32
  detail : JsonObject
  detectedAt : DateTime
  lastSeenAt : DateTime
  resolvedAt : Option DateTime
  deriving DecidableEq, Repr

/-- The database. -/
structure Store where
  indexerState : Table String StreamState
  ckbBlocks : Table Int64 BlockRow
  rgbppCells : Table CellKey CellRecord
  rgbppTransitions : Table Bytes TransitionRecord
  btcOutpoints : Table OutpointKey ObservationRow
  btcTxs : Table Bytes BtcTxRow
  btcRefreshQueue : Table OutpointKey QueueRow
  rgbppAnomalies : Table String AnomalyRow

/-- The database after the migrations ran. -/
def Store.empty : Store where
  indexerState := .empty
  ckbBlocks := .empty
  rgbppCells := .empty
  rgbppTransitions := .empty
  btcOutpoints := .empty
  btcTxs := .empty
  btcRefreshQueue := .empty
  rgbppAnomalies := .empty

end RgbppIndexer
