import RgbppIndexer.Ckb.Cells
import RgbppIndexer.Core.Hexadecimal
import RgbppIndexer.Core.Json

/-!
# CKB payloads as JSON

The `Serialize` and `Deserialize` of `crates/ckb/src/types.rs` and
`crates/types/src/ckb.rs`: numbers and bytes are `0x`-prefixed texts, and the
derived readers take the fields they know and pass over the rest.

A `…Body` says that a JSON value describes a payload: each field stands there
in its usual spelling, next to any others.

* `readScript_scriptJson`: a script is read back as it was written.
* `searchKeyJson_injective`: two searches are never the same request.
* `readHeader_of`, `readTransactionWithStatus_of`, `readTxPage_of`, …: a body is read as the payload it describes.
-/
namespace RgbppIndexer

open RgbppIndexer.Core

/-! ## Numbers, hashes, bytes -/

/-- `0x` and the digits. mirrors crates/ckb/src/types.rs:34-38 -/
def hexNumberJson (n : Nat) : Json := .str (String.ofList ('0' :: 'x' :: Nat.toDigits 16 n))

/-- mirrors crates/ckb/src/types.rs:40-50 -/
def readHexNumber (max : Nat) (j : Json) : Option Nat :=
  match j.asStr.map String.toList with
  | some ('0' :: 'x' :: stripped) => (Hexadecimal.fromStrRadix max stripped).toOption
  | _ => none

/-- mirrors crates/ckb/src/types.rs:54 -/
def uint32Json (v : UInt32) : Json := hexNumberJson v.toNat

/-- mirrors crates/ckb/src/types.rs:54 -/
def readUint32 (j : Json) : Option UInt32 := (readHexNumber (2 ^ 32 - 1) j).map UInt32.ofNat

/-- mirrors crates/ckb/src/types.rs:55 -/
def uint64Json (v : UInt64) : Json := hexNumberJson v.toNat

/-- mirrors crates/ckb/src/types.rs:55 -/
def readUint64 (j : Json) : Option UInt64 := (readHexNumber (2 ^ 64 - 1) j).map UInt64.ofNat

/-- mirrors crates/types/src/ckb.rs:67-71 -/
def h256Json (h : H256) : Json := .str h.toHex

/-- mirrors crates/types/src/ckb.rs:73-78 -/
def readH256 (j : Json) : Option H256 := do (H256.fromHex (← j.asStr)).toOption

/-- mirrors crates/types/src/ckb.rs:123-127 -/
def bytesJson (b : Bytes) : Json := .str (bytesToHex b)

/-- mirrors crates/types/src/ckb.rs:129-134 -/
def readHexBytes (j : Json) : Option Bytes := do (bytesFromHex (← j.asStr)).toOption

theorem readHexNumber_hexNumberJson {n max : Nat} (h : n ≤ max) : readHexNumber max (hexNumberJson n) = some n := by
  unfold readHexNumber hexNumberJson
  simp only [Json.asStr, Option.map_some, String.toList_ofList]
  rw [Hexadecimal.fromStrRadix_toDigits h]
  rfl

@[simp] theorem readUint32_uint32Json (v : UInt32) : readUint32 (uint32Json v) = some v := by
  have hv : v.toNat ≤ 2 ^ 32 - 1 := by have := v.toNat_lt; omega
  unfold readUint32 uint32Json
  rw [readHexNumber_hexNumberJson hv, Option.map_some, UInt32.ofNat_toNat]

@[simp] theorem readUint64_uint64Json (v : UInt64) : readUint64 (uint64Json v) = some v := by
  have hv : v.toNat ≤ 2 ^ 64 - 1 := by have := v.toNat_lt; omega
  unfold readUint64 uint64Json
  rw [readHexNumber_hexNumberJson hv, Option.map_some, UInt64.ofNat_toNat]

theorem uint64Json_injective : Function.Injective uint64Json := by
  intro a b h
  have hread := readUint64_uint64Json a
  rw [h, readUint64_uint64Json b] at hread
  exact (Option.some.inj hread).symm

@[simp] theorem readH256_h256Json (h : H256) : readH256 (h256Json h) = some h := by
  unfold readH256 h256Json
  simp [Json.asStr, Except.toOption]

@[simp] theorem readHexBytes_bytesJson (b : Bytes) : readHexBytes (bytesJson b) = some b := by
  unfold readHexBytes bytesJson
  simp [Json.asStr, Except.toOption]

/-! ## Requests -/

/-- mirrors crates/types/src/ckb.rs:136-143, 176-181 -/
def scriptJson (s : Script) : Json :=
  .obj [("code_hash", h256Json s.codeHash), ("hash_type", .str s.hashType.asStr), ("args", bytesJson s.args)]

/-- mirrors crates/ckb/src/types.rs:57-62 -/
def ScriptType.asStr : ScriptType → String
  | lock => "lock"
  | type => "type"

/-- mirrors crates/ckb/src/types.rs:64-72 -/
def ScriptSearchMode.asStr : ScriptSearchMode → String
  | byPrefix => "prefix"
  | exact => "exact"
  | partialMatch => "partial"

/-- mirrors crates/ckb/src/types.rs:74-79 -/
def Order.asStr : Order → String
  | asc => "asc"
  | desc => "desc"

/-- mirrors crates/ckb/src/types.rs:88-101 -/
def filterJson (blockRange : UInt64 × UInt64) : Json :=
  .obj [("block_range", .arr [uint64Json blockRange.1, uint64Json blockRange.2])]

/-- What is not set is not sent. mirrors crates/ckb/src/types.rs:103-115 -/
def searchKeyJson (k : SearchKey) : Json :=
  .obj ([("script", scriptJson k.script), ("script_type", .str k.scriptType.asStr)] ++
    Json.skipNone "script_search_mode" (k.scriptSearchMode.map fun mode => .str mode.asStr) ++
    Json.skipNone "filter" (k.blockRange.map filterJson) ++
    Json.skipNone "with_data" (k.withData.map .bool) ++
    Json.skipNone "group_by_transaction" (k.groupByTransaction.map .bool))

/-! ## Replies -/

/-- mirrors crates/types/src/ckb.rs:136-143 -/
def readHashType : Json → Option ScriptHashType := Json.variant ScriptHashType.fromStrOpt

/-- mirrors crates/types/src/ckb.rs:176-181 -/
def readScript (j : Json) : Option Script := do
  let field ← j.record ["code_hash", "hash_type", "args"]
  let codeHash ← Json.required readH256 (field "code_hash")
  let hashType ← Json.required readHashType (field "hash_type")
  let args ← Json.required readHexBytes (field "args")
  return { codeHash, hashType, args }

/-- mirrors crates/ckb/src/types.rs:81-86 -/
def IoType.fromName (s : String) : Option IoType :=
  if s = "input" then some .input else if s = "output" then some .output else none

/-- `["input", "0x1"]`. mirrors crates/ckb/src/types.rs:160-170 -/
def readMatchedCell (j : Json) : Option MatchedCell := do
  let (ioType, ioIndex) ← Json.pair (Json.variant IoType.fromName) readUint32 j
  return { ioType, ioIndex }

/-- mirrors crates/ckb/src/types.rs:173-179 -/
def readTxRecord (j : Json) : Option TxRecord := do
  let field ← j.record ["tx_hash", "block_number", "tx_index", "cells"]
  let txHash ← Json.required readH256 (field "tx_hash")
  let blockNumber ← Json.required readUint64 (field "block_number")
  let txIndex ← Json.required readUint32 (field "tx_index")
  let cells ← Json.required (Json.list readMatchedCell) (field "cells")
  return { txHash, blockNumber, txIndex, cells }

/-- mirrors crates/ckb/src/types.rs:181-185 -/
def readPagination {α : Type} (read : Json → Option α) (j : Json) : Option (List α × Bytes) := do
  let field ← j.record ["objects", "last_cursor"]
  let objects ← Json.required (Json.list read) (field "objects")
  let lastCursor ← Json.required readHexBytes (field "last_cursor")
  return (objects, lastCursor)

/-- `Pagination<TxRecord>`. -/
def readTxPage (j : Json) : Option Pagination := do
  let (objects, lastCursor) ← readPagination readTxRecord j
  return { objects, lastCursor }

/-- mirrors crates/ckb/src/types.rs:197-201 -/
def readIndexerTip (j : Json) : Option IndexerTip := do
  let field ← j.record ["block_hash", "block_number"]
  let blockHash ← Json.required readH256 (field "block_hash")
  let blockNumber ← Json.required readUint64 (field "block_number")
  return { blockHash, blockNumber }

/-- mirrors crates/ckb/src/types.rs:212-216 -/
def readOutPoint (j : Json) : Option CkbOutPoint := do
  let field ← j.record ["tx_hash", "index"]
  let txHash ← Json.required readH256 (field "tx_hash")
  let index ← Json.required readUint32 (field "index")
  return { txHash, index }

/-- `since` has to be there, and is not read again. mirrors crates/ckb/src/types.rs:218-222 -/
def readCellInput (j : Json) : Option RpcCellInput := do
  let field ← j.record ["previous_output", "since"]
  let previousOutput ← Json.required readOutPoint (field "previous_output")
  let _since ← Json.required readUint64 (field "since")
  return { previousOutput }

/-- mirrors crates/ckb/src/types.rs:224-230 -/
def readCellOutput (j : Json) : Option CellOutput := do
  let field ← j.record ["capacity", "lock", "type"]
  let capacity ← Json.required readUint64 (field "capacity")
  let lock ← Json.required readScript (field "lock")
  let type_ ← Json.optional readScript (field "type")
  return { capacity, lock, type_ }

/-- `version` has to be there, and is not read again. mirrors crates/ckb/src/types.rs:232-239 -/
def readTransaction (j : Json) : Option RpcTransaction := do
  let field ← j.record ["hash", "version", "inputs", "outputs", "outputs_data"]
  let hash ← Json.required readH256 (field "hash")
  let _version ← Json.required readUint32 (field "version")
  let inputs ← Json.required (Json.list readCellInput) (field "inputs")
  let outputs ← Json.required (Json.list readCellOutput) (field "outputs")
  let outputsData ← Json.required (Json.list readHexBytes) (field "outputs_data")
  return { hash, inputs, outputs, outputsData }

/-- mirrors crates/ckb/src/types.rs:241-249 -/
def TxStatusKind.asStr : TxStatusKind → String
  | pending => "pending"
  | proposed => "proposed"
  | committed => "committed"
  | unknown => "unknown"
  | rejected => "rejected"

/-- mirrors crates/ckb/src/types.rs:241-249 -/
def TxStatusKind.fromName (s : String) : Option TxStatusKind :=
  [pending, proposed, committed, unknown, rejected].find? fun kind => kind.asStr = s

/-- `reason` has to be a text if it is there, and is not read again. mirrors crates/ckb/src/types.rs:251-257 -/
def readTxStatus (j : Json) : Option TxStatus := do
  let field ← j.record ["status", "block_hash", "block_number", "reason"]
  let status ← Json.required (Json.variant TxStatusKind.fromName) (field "status")
  let blockHash ← Json.optional readH256 (field "block_hash")
  let blockNumber ← Json.optional readUint64 (field "block_number")
  let _reason ← Json.optional Json.asStr (field "reason")
  return { status, blockHash, blockNumber }

/-- mirrors crates/ckb/src/types.rs:259-263 -/
def readTransactionWithStatus (j : Json) : Option TransactionWithStatus := do
  let field ← j.record ["transaction", "tx_status"]
  let transaction ← Json.optional readTransaction (field "transaction")
  let txStatus ← Json.required readTxStatus (field "tx_status")
  return { transaction, txStatus }

/-- `epoch` has to be there, and is not read again. mirrors crates/ckb/src/types.rs:265-272 -/
def readHeader (j : Json) : Option RpcHeader := do
  let field ← j.record ["hash", "number", "parent_hash", "timestamp", "epoch"]
  let hash ← Json.required readH256 (field "hash")
  let number ← Json.required readUint64 (field "number")
  let parentHash ← Json.required readH256 (field "parent_hash")
  let timestamp ← Json.required readUint64 (field "timestamp")
  let _epoch ← Json.required readUint64 (field "epoch")
  return { hash, number, parentHash, timestamp }

/-- mirrors crates/ckb/src/types.rs:187-195 -/
def readCellRecord (j : Json) : Option LiveCellRecord := do
  let field ← j.record ["out_point", "output", "output_data", "block_number", "tx_index"]
  let outPoint ← Json.required readOutPoint (field "out_point")
  let output ← Json.required readCellOutput (field "output")
  let outputData ← Json.optional readHexBytes (field "output_data")
  let blockNumber ← Json.required readUint64 (field "block_number")
  let txIndex ← Json.required readUint32 (field "tx_index")
  return { outPoint, output, outputData, blockNumber, txIndex }

/-! ## What bodies describe -/

structure ScriptBody (j : Json) (s : Script) : Prop where
  codeHash : j.field? "code_hash" = some (h256Json s.codeHash)
  hashType : j.field? "hash_type" = some (.str s.hashType.asStr)
  args : j.field? "args" = some (bytesJson s.args)

def IoType.asStr : IoType → String
  | input => "input"
  | output => "output"

def matchedCellJson (c : MatchedCell) : Json := .arr [.str c.ioType.asStr, uint32Json c.ioIndex]

structure TxRecordBody (j : Json) (r : TxRecord) : Prop where
  txHash : j.field? "tx_hash" = some (h256Json r.txHash)
  blockNumber : j.field? "block_number" = some (uint64Json r.blockNumber)
  txIndex : j.field? "tx_index" = some (uint32Json r.txIndex)
  cells : j.field? "cells" = some (.arr (r.cells.map matchedCellJson))

structure PageBody {α : Type} (describes : Json → α → Prop) (j : Json) (objects : List α) (lastCursor : Bytes) : Prop where
  objects : Json.Lists describes objects (j.field? "objects")
  lastCursor : j.field? "last_cursor" = some (bytesJson lastCursor)

structure IndexerTipBody (j : Json) (t : IndexerTip) : Prop where
  blockHash : j.field? "block_hash" = some (h256Json t.blockHash)
  blockNumber : j.field? "block_number" = some (uint64Json t.blockNumber)

structure OutPointBody (j : Json) (o : CkbOutPoint) : Prop where
  txHash : j.field? "tx_hash" = some (h256Json o.txHash)
  index : j.field? "index" = some (uint32Json o.index)

structure CellInputBody (j : Json) (i : RpcCellInput) : Prop where
  previousOutput : ∃ o, j.field? "previous_output" = some o ∧ OutPointBody o i.previousOutput
  since : ∃ since, j.field? "since" = some (uint64Json since)

structure CellOutputBody (j : Json) (o : CellOutput) : Prop where
  capacity : j.field? "capacity" = some (uint64Json o.capacity)
  lock : ∃ lock, j.field? "lock" = some lock ∧ ScriptBody lock o.lock
  type_ : Json.Holds ScriptBody o.type_ (j.field? "type")

structure TransactionBody (j : Json) (t : RpcTransaction) : Prop where
  hash : j.field? "hash" = some (h256Json t.hash)
  version : ∃ version, j.field? "version" = some (uint32Json version)
  inputs : Json.Lists CellInputBody t.inputs (j.field? "inputs")
  outputs : Json.Lists CellOutputBody t.outputs (j.field? "outputs")
  outputsData : j.field? "outputs_data" = some (.arr (t.outputsData.map bytesJson))

structure TxStatusBody (j : Json) (s : TxStatus) : Prop where
  status : j.field? "status" = some (.str s.status.asStr)
  blockHash : Json.Holds (fun b h => b = h256Json h) s.blockHash (j.field? "block_hash")
  blockNumber : Json.Holds (fun b n => b = uint64Json n) s.blockNumber (j.field? "block_number")
  reason : ∃ reason, Json.Holds (fun b text => b = .str text) reason (j.field? "reason")

structure TransactionWithStatusBody (j : Json) (t : TransactionWithStatus) : Prop where
  transaction : Json.Holds TransactionBody t.transaction (j.field? "transaction")
  txStatus : ∃ s, j.field? "tx_status" = some s ∧ TxStatusBody s t.txStatus

structure HeaderBody (j : Json) (h : RpcHeader) : Prop where
  hash : j.field? "hash" = some (h256Json h.hash)
  number : j.field? "number" = some (uint64Json h.number)
  parentHash : j.field? "parent_hash" = some (h256Json h.parentHash)
  timestamp : j.field? "timestamp" = some (uint64Json h.timestamp)
  epoch : ∃ epoch, j.field? "epoch" = some (uint64Json epoch)

structure CellRecordBody (j : Json) (c : LiveCellRecord) : Prop where
  outPoint : ∃ o, j.field? "out_point" = some o ∧ OutPointBody o c.outPoint
  output : ∃ o, j.field? "output" = some o ∧ CellOutputBody o c.output
  outputData : Json.Holds (fun b data => b = bytesJson data) c.outputData (j.field? "output_data")
  blockNumber : j.field? "block_number" = some (uint64Json c.blockNumber)
  txIndex : j.field? "tx_index" = some (uint32Json c.txIndex)

/-! ## Reading them -/

theorem readScript_of (j : Json) (s : Script) (h : ScriptBody j s) : readScript j = some s := by
  unfold readScript
  rw [Json.record_of_field h.codeHash]
  simp [h.codeHash, h.hashType, h.args, readHashType]

@[simp] theorem readScript_scriptJson (s : Script) : readScript (scriptJson s) = some s := readScript_of _ _ ⟨rfl, rfl, rfl⟩

@[simp] theorem IoType.fromName_asStr (t : IoType) : fromName t.asStr = some t := by cases t <;> decide

@[simp] theorem TxStatusKind.fromName_asStr (k : TxStatusKind) : fromName k.asStr = some k := by cases k <;> decide

theorem readMatchedCell_matchedCellJson (c : MatchedCell) : readMatchedCell (matchedCellJson c) = some c := by
  unfold readMatchedCell matchedCellJson
  rw [Json.pair_arr (Json.variant_str _ _ |>.trans (IoType.fromName_asStr c.ioType)) (readUint32_uint32Json c.ioIndex)]
  rfl

theorem readTxRecord_of (j : Json) (r : TxRecord) (h : TxRecordBody j r) : readTxRecord j = some r := by
  have hcells : Json.list readMatchedCell (.arr (r.cells.map matchedCellJson)) = some r.cells :=
    Json.list_arr (List.forall₂_map_left_iff.mpr (List.forall₂_same.mpr fun c _ => readMatchedCell_matchedCellJson c))
  unfold readTxRecord
  rw [Json.record_of_field h.txHash]
  simp [h.txHash, h.blockNumber, h.txIndex, h.cells, hcells]

theorem readPagination_of {α : Type} {j : Json} {describes : Json → α → Prop} {read : Json → Option α}
    (hread : ∀ j a, describes j a → read j = some a) {objects : List α} {lastCursor : Bytes}
    (h : PageBody describes j objects lastCursor) : readPagination read j = some (objects, lastCursor) := by
  unfold readPagination
  rw [Json.record_of_field h.lastCursor]
  simp [h.lastCursor, Json.list_of_lists hread h.objects]

theorem readTxPage_of (j : Json) (page : Pagination) (h : PageBody TxRecordBody j page.objects page.lastCursor) :
    readTxPage j = some page := by
  unfold readTxPage
  rw [readPagination_of readTxRecord_of h]
  rfl

theorem readIndexerTip_of (j : Json) (t : IndexerTip) (h : IndexerTipBody j t) : readIndexerTip j = some t := by
  unfold readIndexerTip
  rw [Json.record_of_field h.blockHash]
  simp [h.blockHash, h.blockNumber]

theorem readOutPoint_of (j : Json) (o : CkbOutPoint) (h : OutPointBody j o) : readOutPoint j = some o := by
  unfold readOutPoint
  rw [Json.record_of_field h.txHash]
  simp [h.txHash, h.index]

theorem readCellInput_of (j : Json) (i : RpcCellInput) (h : CellInputBody j i) : readCellInput j = some i := by
  obtain ⟨since, hsince⟩ := h.since
  obtain ⟨o, hprevious, ho⟩ := h.previousOutput
  unfold readCellInput
  rw [Json.record_of_field hsince]
  simp [hsince, hprevious, readOutPoint_of _ _ ho]

theorem readCellOutput_of (j : Json) (o : CellOutput) (h : CellOutputBody j o) : readCellOutput j = some o := by
  obtain ⟨lock, hlock, hbody⟩ := h.lock
  have htype : Json.optional readScript (j.field? "type") = some o.type_ :=
    Json.optional_of_holds rfl readScript_of h.type_
  unfold readCellOutput
  rw [Json.record_of_field h.capacity]
  simp [h.capacity, hlock, readScript_of _ _ hbody, htype]

theorem readTransaction_of (j : Json) (t : RpcTransaction) (h : TransactionBody j t) : readTransaction j = some t := by
  obtain ⟨version, hversion⟩ := h.version
  have hinputs := Json.list_of_lists readCellInput_of h.inputs
  have houtputs := Json.list_of_lists readCellOutput_of h.outputs
  have hdata : Json.list readHexBytes (.arr (t.outputsData.map bytesJson)) = some t.outputsData :=
    Json.list_arr (List.forall₂_map_left_iff.mpr (List.forall₂_same.mpr fun b _ => readHexBytes_bytesJson b))
  unfold readTransaction
  rw [Json.record_of_field h.hash]
  simp [h.hash, hversion, hinputs, houtputs, h.outputsData, hdata]

theorem readTxStatus_of (j : Json) (s : TxStatus) (h : TxStatusBody j s) : readTxStatus j = some s := by
  obtain ⟨reason, hreason⟩ := h.reason
  have hhash : Json.optional readH256 (j.field? "block_hash") = some s.blockHash :=
    Json.optional_of_written rfl readH256_h256Json h.blockHash
  have hnumber : Json.optional readUint64 (j.field? "block_number") = some s.blockNumber :=
    Json.optional_of_written rfl readUint64_uint64Json h.blockNumber
  have htext : Json.optional Json.asStr (j.field? "reason") = some reason :=
    Json.optional_of_written rfl (fun _ => rfl) hreason
  unfold readTxStatus
  rw [Json.record_of_field h.status]
  simp [h.status, hhash, hnumber, htext]

theorem readTransactionWithStatus_of (j : Json) (t : TransactionWithStatus) (h : TransactionWithStatusBody j t) :
    readTransactionWithStatus j = some t := by
  obtain ⟨status, hstatus, hbody⟩ := h.txStatus
  have htransaction : Json.optional readTransaction (j.field? "transaction") = some t.transaction :=
    Json.optional_of_holds rfl readTransaction_of h.transaction
  unfold readTransactionWithStatus
  rw [Json.record_of_field hstatus]
  simp [hstatus, readTxStatus_of _ _ hbody, htransaction]

theorem readHeader_of (j : Json) (header : RpcHeader) (h : HeaderBody j header) : readHeader j = some header := by
  obtain ⟨epoch, hepoch⟩ := h.epoch
  unfold readHeader
  rw [Json.record_of_field h.hash]
  simp [h.hash, h.number, h.parentHash, h.timestamp, hepoch]

theorem readCellRecord_of (j : Json) (c : LiveCellRecord) (h : CellRecordBody j c) : readCellRecord j = some c := by
  obtain ⟨o, houtPoint, ho⟩ := h.outPoint
  obtain ⟨output, houtput, hbody⟩ := h.output
  have hdata : Json.optional readHexBytes (j.field? "output_data") = some c.outputData :=
    Json.optional_of_written rfl readHexBytes_bytesJson h.outputData
  unfold readCellRecord
  rw [Json.record_of_field houtPoint]
  simp [houtPoint, readOutPoint_of _ _ ho, houtput, readCellOutput_of _ _ hbody, hdata, h.blockNumber, h.txIndex]

/-! ## Requests tell questions apart -/

/-- The search a request is for, as a server that knows the format reads it. -/
def readBlockRange (j : Json) : Option (UInt64 × UInt64) := do
  let range ← j.field? "block_range"
  Json.pair readUint64 readUint64 range

def ScriptType.fromName (s : String) : Option ScriptType :=
  if s = "lock" then some .lock else if s = "type" then some .type else none

def ScriptSearchMode.fromName (s : String) : Option ScriptSearchMode :=
  [byPrefix, exact, partialMatch].find? fun mode => mode.asStr = s

def readBool : Json → Option Bool
  | .bool b => some b
  | _ => none

def readSearchKey (j : Json) : Option SearchKey := do
  let script ← Json.required readScript (j.field? "script")
  let scriptType ← Json.required (Json.variant ScriptType.fromName) (j.field? "script_type")
  let scriptSearchMode ← Json.optional (Json.variant ScriptSearchMode.fromName) (j.field? "script_search_mode")
  let blockRange ← Json.optional readBlockRange (j.field? "filter")
  let withData ← Json.optional readBool (j.field? "with_data")
  let groupByTransaction ← Json.optional readBool (j.field? "group_by_transaction")
  return { script, scriptType, scriptSearchMode, blockRange, withData, groupByTransaction }

@[simp] theorem ScriptType.fromName_asStr (t : ScriptType) : fromName t.asStr = some t := by cases t <;> decide

@[simp] theorem ScriptSearchMode.fromName_asStr (m : ScriptSearchMode) : fromName m.asStr = some m := by cases m <;> decide

theorem readBlockRange_filterJson (range : UInt64 × UInt64) : readBlockRange (filterJson range) = some range :=
  Json.pair_arr (readUint64_uint64Json range.1) (readUint64_uint64Json range.2)

/-- A field that is set is found, and one that is skipped is missing. -/
theorem searchKeyJson_fields (k : SearchKey) :
    (searchKeyJson k).field? "script_search_mode" = k.scriptSearchMode.map (fun mode => .str mode.asStr) ∧
    (searchKeyJson k).field? "filter" = k.blockRange.map filterJson ∧
    (searchKeyJson k).field? "with_data" = k.withData.map .bool ∧
    (searchKeyJson k).field? "group_by_transaction" = k.groupByTransaction.map .bool := by
  obtain ⟨script, scriptType, mode, range, withData, group⟩ := k
  cases mode <;> cases range <;> cases withData <;> cases group <;> exact ⟨rfl, rfl, rfl, rfl⟩

theorem readSearchKey_searchKeyJson (k : SearchKey) : readSearchKey (searchKeyJson k) = some k := by
  have hscript : (searchKeyJson k).field? "script" = some (scriptJson k.script) := rfl
  have htype : (searchKeyJson k).field? "script_type" = some (.str k.scriptType.asStr) := rfl
  obtain ⟨hmode, hfilter, hdata, hgroup⟩ := searchKeyJson_fields k
  have hreadBool : ∀ b, readBool (.bool b) = some b := fun _ => rfl
  have hreadMode := fun mode => (Json.variant_str ScriptSearchMode.fromName _).trans (ScriptSearchMode.fromName_asStr mode)
  unfold readSearchKey
  rw [hscript, htype, hmode, hfilter, hdata, hgroup, Json.optional_map rfl hreadMode,
    Json.optional_map rfl readBlockRange_filterJson, Json.optional_map rfl hreadBool, Json.optional_map rfl hreadBool]
  simp

theorem searchKeyJson_injective : Function.Injective searchKeyJson := by
  intro a b h
  have hread := readSearchKey_searchKeyJson a
  rw [h, readSearchKey_searchKeyJson b] at hread
  exact (Option.some.inj hread).symm

end RgbppIndexer
