import RgbppIndexer.Btc.Source
import RgbppIndexer.Ckb.Client
import RgbppIndexer.Store.Cells

/-!
# Turning a CKB transaction into RGB++ facts

`crates/indexer/src/extract.rs` and `crates/indexer/src/resolve.rs`: from an
already fetched transaction and its already resolved inputs to the rows to
write, and from a stored row back to the cell it describes.

`cellOutputFromRow_cellBody`: what is written about an output is enough to
rebuild the output, so a consumed cell resolved from the database is the
cell on the chain.
-/
namespace RgbppIndexer

open RgbppIndexer.Core

/-- mirrors crates/indexer/src/error.rs:6-29 -/
inductive IndexerError where
  | ckb (e : CkbError)
  | btc (e : BtcError)
  | store (e : StoreError)
  | types (e : TypesError)
  | reorg (number : UInt64) (stored actual : String)
  | inconsistent (reason : String)
  deriving DecidableEq, Repr

/-- The `?` conversions into `IndexerError`. -/
def Except.intoIndexer {α ε : Type} (f : ε → IndexerError) : Except ε α → Except IndexerError α
  | .ok a => .ok a
  | .error e => .error (f e)

theorem Except.intoIndexer_eq_ok {α ε : Type} {f : ε → IndexerError} {x : Except ε α} {a : α} :
    intoIndexer f x = .ok a ↔ x = .ok a := by
  cases x with
  | error e => simp [intoIndexer]
  | ok b => simp [intoIndexer]

/-! ## Scripts as JSON -/

/-- mirrors crates/indexer/src/extract.rs:234-240 -/
def scriptToJson (script : Script) : JsonObject :=
  [("code_hash", .str script.codeHash.toHex), ("hash_type", .str script.hashType.asStr),
    ("args", .str (bytesToHex script.args))]

/-- mirrors crates/indexer/src/resolve.rs:17-35 -/
def scriptFromJson (value : JsonObject) : Except IndexerError Script :=
  match value.getStr "code_hash" with
  | none => .error (.inconsistent "stored script has no code_hash")
  | some codeHash =>
    match value.getStr "hash_type" with
    | none => .error (.inconsistent "stored script has no hash_type")
    | some hashType =>
      match H256.fromHex codeHash with
      | .error e => .error (.types e)
      | .ok h =>
        match ScriptHashType.fromStrOpt hashType with
        | none => .error (.inconsistent s!"stored script has unknown hash_type {hashType}")
        | some t =>
          match bytesFromHex ((value.getStr "args").getD "0x") with
          | .error e => .error (.types e)
          | .ok args => .ok { codeHash := h, hashType := t, args }

@[simp] theorem scriptFromJson_scriptToJson (s : Script) : scriptFromJson (scriptToJson s) = .ok s := by
  have h1 : (scriptToJson s).getStr "code_hash" = some s.codeHash.toHex := by
    simp [JsonObject.getStr, scriptToJson]
  have h2 : (scriptToJson s).getStr "hash_type" = some s.hashType.asStr := by
    simp [JsonObject.getStr, scriptToJson]
  have h3 : (scriptToJson s).getStr "args" = some (bytesToHex s.args) := by
    simp [JsonObject.getStr, scriptToJson]
  simp only [scriptFromJson, h1, h2, h3, H256.fromHex_toHex, ScriptHashType.fromStrOpt_asStr, Option.getD_some,
    bytesFromHex_bytesToHex]

/-! ## Inputs and outputs -/

/-- An input whose consumed cell the scanner has identified as RGB++.
mirrors crates/indexer/src/extract.rs:21-28 -/
structure ResolvedInput where
  inputIndex : UInt32
  outPoint : CkbOutPoint
  binding : LockBinding
  cell : CellOutput
  data : Bytes
  deriving DecidableEq, Repr

/-- Where in the chain a transaction sits. mirrors crates/indexer/src/extract.rs:31-37 -/
structure BlockContext where
  number : UInt64
  hash : H256
  timestamp : DateTime
  txIndex : UInt32
  deriving DecidableEq, Repr

/-- mirrors crates/indexer/src/extract.rs:39-44 -/
structure ExtractedTx where
  cells : List NewCell
  spends : List CellSpend
  transition : Option NewTransition
  deriving DecidableEq, Repr

/-- An output recognised as belonging to the RGB++ surface. mirrors crates/indexer/src/extract.rs:47-53 -/
structure RgbppOutput where
  index : UInt32
  binding : LockBinding
  cell : CellOutput
  data : Bytes
  deriving DecidableEq, Repr

/-- One pass of the loop: a lock that is not RGB++, or args that do not parse, skip the output. -/
def classifyOutput (protocol : ProtocolScripts) (outputsData : List Bytes) (index : Nat) (output : CellOutput) :
    Option RgbppOutput :=
  match protocol.classify output.lock with
  | none => none
  | some kind =>
    match LockBinding.parse kind output.lock.args with
    | .error _ => none
    | .ok binding => some { index := UInt32.ofNat index, binding, cell := output, data := outputsData.getD index [] }

/-- mirrors crates/indexer/src/extract.rs:56-88 -/
def classifyOutputs (protocol : ProtocolScripts) (outputs : List CellOutput) (outputsData : List Bytes) :
    List RgbppOutput :=
  outputs.zipIdx.filterMap fun (output, index) => classifyOutput protocol outputsData index output

/-- mirrors crates/indexer/src/extract.rs:96-119 -/
def classifyTransition (inputs : List ResolvedInput) (outputs : List RgbppOutput) : TransitionKind :=
  let btcTimeIn := (inputs.filter fun i => i.binding.kind = .btcTime).length
  let rgbppIn := inputs.length - btcTimeIn
  let rgbppOut := (outputs.filter fun o => o.binding.kind = .rgbpp).length
  let btcTimeOut := outputs.length - rgbppOut
  if btcTimeIn > 0 then .btcTimeUnlock
  else if rgbppIn = 0 then .issuance
  else if rgbppOut = 0 ∧ btcTimeOut > 0 then .leapToCkb
  else if rgbppOut > 0 then .transfer
  else .exit

/-- The loop of `derive_btc_txid`: mixed txids give no single value. -/
def deriveBtcTxidFrom (txid : Option BtcTxid) : List RgbppOutput → Option BtcTxid
  | [] => txid
  | output :: rest =>
    let candidate := output.binding.txid
    match txid with
    | none => deriveBtcTxidFrom (some candidate) rest
    | some existing => if existing ≠ candidate then none else deriveBtcTxidFrom (some existing) rest

/-- mirrors crates/indexer/src/extract.rs:132-145 -/
def deriveBtcTxid (outputs : List RgbppOutput) : Option BtcTxid := deriveBtcTxidFrom none outputs

theorem deriveBtcTxidFrom_some {t t' : BtcTxid} {outputs : List RgbppOutput} :
    deriveBtcTxidFrom (some t) outputs = some t' ↔ t = t' ∧ ∀ o ∈ outputs, o.binding.txid = t' := by
  induction outputs with
  | nil => simp [deriveBtcTxidFrom]
  | cons o rest ih =>
    unfold deriveBtcTxidFrom
    dsimp only
    rw [List.forall_mem_cons]
    by_cases hne : t ≠ o.binding.txid
    · rw [if_pos hne]
      refine iff_of_false nofun ?_
      rintro ⟨rfl, ho, -⟩
      exact hne ho.symm
    · rw [if_neg hne, ih]
      rw [ne_eq, not_not] at hne
      constructor
      · rintro ⟨rfl, hrest⟩
        exact ⟨rfl, hne.symm, hrest⟩
      · rintro ⟨rfl, -, hrest⟩
        exact ⟨rfl, hrest⟩

/-- One transaction is named if there are outputs and all of them name it. -/
theorem deriveBtcTxid_eq_some {t : BtcTxid} {outputs : List RgbppOutput} :
    deriveBtcTxid outputs = some t ↔ outputs ≠ [] ∧ ∀ o ∈ outputs, o.binding.txid = t := by
  cases outputs with
  | nil => simp [deriveBtcTxid, deriveBtcTxidFrom]
  | cons o rest =>
    have hfrom : deriveBtcTxid (o :: rest) = deriveBtcTxidFrom (some o.binding.txid) rest := rfl
    rw [hfrom, deriveBtcTxidFrom_some, List.forall_mem_cons]
    exact (and_iff_right (List.cons_ne_nil o rest)).symm

/-- One committed output: its args rewritten with the placeholder txid. -/
def committedOutput (output : RgbppOutput) : Except TypesError (CellOutput × Bytes) := do
  let args ← argsWithPlaceholderTxid output.binding.kind output.cell.lock.args
  return ({ output.cell with lock := { output.cell.lock with args } }, output.data)

/-- The pre-image `expected_commitment` hashes; `none` where it returns early.
mirrors crates/indexer/src/extract.rs:158-177 -/
def expectedPreimage (inputs : List ResolvedInput) (outputs : List RgbppOutput) : Option CommitmentPreimage :=
  if inputs.isEmpty ∧ outputs.isEmpty then none
  else
    match outputs.mapM committedOutput with
    | .ok pairs => some (.new (inputs.map ResolvedInput.outPoint) pairs)
    | .error _ => none

/-- mirrors crates/indexer/src/extract.rs:158-177 -/
def expectedCommitment [Sha2] (inputs : List ResolvedInput) (outputs : List RgbppOutput) : Option (ByteArr 32) :=
  (expectedPreimage inputs outputs).map CommitmentPreimage.commitment

/-! ## Rows -/

/-- A `u128` always converts to NUMERIC. mirrors crates/indexer/src/extract.rs:222-232 -/
def fungibleAmount (kind : AssetKind) (data : Bytes) : Option Nat :=
  if kind.isFungible then parseUdtAmount data else none

/-- What a row says about the output itself. -/
def cellBody (assets : AssetScripts) (binding : LockBinding) (cell : CellOutput) (data : Bytes) : CellBody where
  lockKind := binding.kind
  btcTxid := binding.txid.toDisplayVec
  btcVout := match binding with
    | .rgbpp args => some args.outIndex.toInt32
    | .btcTime _ => none
  btcTimeAfter := match binding with
    | .rgbpp _ => none
    | .btcTime args => some args.after.toInt32
  btcTimeTargetLockHash := match binding with
    | .rgbpp _ => none
    | .btcTime args => some args.targetLock.calcHash.toVec
  btcTimeTargetLock := match binding with
    | .rgbpp _ => none
    | .btcTime args => some (scriptToJson args.targetLock)
  lockHash := cell.lock.calcHash.toVec
  lockArgs := cell.lock.args
  typeHash := cell.type_.map fun t => t.calcHash.toVec
  typeScript := cell.type_.map scriptToJson
  assetKind := assets.classify cell.type_
  udtAmount := fungibleAmount (assets.classify cell.type_) data
  capacity := cell.capacity.toInt64
  cellData := data

/-- mirrors crates/indexer/src/extract.rs:180-220 -/
def buildNewCell (assets : AssetScripts) (txHash : H256) (output : RgbppOutput) (block : BlockContext) : NewCell :=
  { cellBody assets output.binding output.cell output.data with
    ckbTxHash := txHash.toVec
    outputIndex := output.index.toInt32
    createdBlockNumber := block.number.toInt64
    createdBlockHash := block.hash.toVec
    createdTxIndex := block.txIndex.toInt32 }

/-- The consumption anchor a transaction writes for one of its inputs. -/
def consumptionOf (txHash : H256) (block : BlockContext) (inputIndex : UInt32) : Consumption where
  blockNumber := block.number.toInt64
  blockHash := block.hash.toVec
  txHash := txHash.toVec
  txIndex := block.txIndex.toInt32
  inputIndex := inputIndex.toInt32

/-- The out point as the key of its row. -/
def CkbOutPoint.key (op : CkbOutPoint) : CellKey := ⟨op.txHash.toVec, op.index.toInt32⟩

theorem CkbOutPoint.key_injective : Function.Injective CkbOutPoint.key := by
  intro a b h
  obtain ⟨ah, ai⟩ := a
  obtain ⟨bh, bi⟩ := b
  simp only [key, CellKey.mk.injEq, H256.toVec_inj] at h
  obtain ⟨rfl, hi⟩ := h
  have hi' := congrArg Int32.toUInt32 hi
  simp only [UInt32.toUInt32_toInt32] at hi'; subst hi'
  rfl

/-- The spend rows of a transaction's resolved inputs. -/
def spendOf (txHash : H256) (block : BlockContext) (input : ResolvedInput) : CellSpend where
  ckbTxHash := input.outPoint.txHash.toVec
  outputIndex := input.outPoint.index.toInt32
  consumed := consumptionOf txHash block input.inputIndex

@[simp] theorem spendOf_key (txHash : H256) (block : BlockContext) (input : ResolvedInput) :
    (spendOf txHash block input).key = input.outPoint.key := rfl

/-- The transition row of a transaction. -/
def transitionOf [Sha2] (txHash : H256) (block : BlockContext) (inputs : List ResolvedInput)
    (outputs : List RgbppOutput) : NewTransition where
  ckbTxHash := txHash.toVec
  blockNumber := block.number.toInt64
  blockHash := block.hash.toVec
  txIndex := block.txIndex.toInt32
  blockTimestamp := some block.timestamp
  kind := classifyTransition inputs outputs
  btcTxid := (deriveBtcTxid outputs).map BtcTxid.toDisplayVec
  inputCellCount := Int32.ofNat inputs.length
  outputCellCount := Int32.ofNat outputs.length
  expectedCommitment := (expectedCommitment inputs outputs).map ByteArr.bytes

/-- Assemble everything one transaction contributes. mirrors crates/indexer/src/extract.rs:243-301 -/
def extract [Sha2] (protocol : ProtocolScripts) (assets : AssetScripts) (txHash : H256) (outputs : List CellOutput)
    (outputsData : List Bytes) (resolvedInputs : List ResolvedInput) (block : BlockContext) :
    Except IndexerError ExtractedTx :=
  let rgbppOutputs := classifyOutputs protocol outputs outputsData
  if rgbppOutputs.isEmpty ∧ resolvedInputs.isEmpty then
    .error (.inconsistent s!"transaction {txHash.toHex} matched an RGB++ lock but has no readable RGB++ cells")
  else
    .ok {
      cells := rgbppOutputs.map fun output => buildNewCell assets txHash output block
      spends := resolvedInputs.map (spendOf txHash block)
      transition := some (transitionOf txHash block resolvedInputs rgbppOutputs) }

/-- Outside the calendar's range the current time is used. mirrors crates/indexer/src/extract.rs:305-307 -/
def ckbTimestamp (now : DateTime) (millis : UInt64) : DateTime :=
  (DateTime.fromTimestampMillis millis.toInt64.toInt).getD now

/-! ## From a row back to the cell -/

/-- Position recorded for a cell that was backfilled from the node. mirrors crates/indexer/src/resolve.rs:15 -/
def UNKNOWN_TX_INDEX : Int32 := -1

/-- mirrors crates/indexer/src/resolve.rs:43-72 -/
def cellOutputFromRow (protocol : ProtocolScripts) (row : Store.CellRow) : Except IndexerError CellOutput :=
  let id := protocol.scriptId row.lockKind
  let lock : Script := { codeHash := id.codeHash, hashType := id.hashType, args := row.lockArgs }
  if lock.calcHash.toVec ≠ row.lockHash then
    .error (.inconsistent (s!"stored cell {hexText row.ckbTxHash}:{row.outputIndex.toInt} was indexed under a different " ++
      s!"{row.lockKind.asStr} deployment; its lock hash does not match the configured code hash"))
  else
    match row.typeScript with
    | none => .ok { capacity := row.capacity.toUInt64, lock, type_ := none }
    | some json =>
      match scriptFromJson json with
      | .error e => .error e
      | .ok t => .ok { capacity := row.capacity.toUInt64, lock, type_ := some t }

/-- mirrors crates/indexer/src/resolve.rs:74-77 -/
def bindingFromRow (row : Store.CellRow) : Except IndexerError LockBinding :=
  Except.intoIndexer .types (LockBinding.parse row.lockKind row.lockArgs)

theorem ProtocolScripts.scriptId_matches {p : ProtocolScripts} {lock : Script} {kind : LockKind}
    (h : p.classify lock = some kind) : (p.scriptId kind).matches lock = true := by
  unfold classify at h
  split at h
  · next hr => simp only [Option.some.injEq] at h; subst h; exact hr
  · split at h
    · next hb => simp only [Option.some.injEq] at h; subst h; exact hb
    · simp at h

/-- The lock a kind and its args rebuild is the lock that was classified. -/
theorem ProtocolScripts.rebuilt_lock {p : ProtocolScripts} {lock : Script} {kind : LockKind}
    (h : p.classify lock = some kind) :
    ({ codeHash := (p.scriptId kind).codeHash, hashType := (p.scriptId kind).hashType, args := lock.args } : Script) =
      lock := by
  have hm := scriptId_matches h
  simp only [ScriptId.matches, decide_eq_true_eq] at hm
  rw [← hm.1, ← hm.2]

/-- An output whose lock is a protocol lock with readable args, and the binding it carries. -/
def Readable (p : ProtocolScripts) (cell : CellOutput) (binding : LockBinding) : Prop :=
  p.classify cell.lock = some binding.kind ∧ LockBinding.parse binding.kind cell.lock.args = .ok binding

theorem classifyOutput_eq_some {p : ProtocolScripts} {datas : List Bytes} {i : Nat} {cell : CellOutput} {o : RgbppOutput} :
    classifyOutput p datas i cell = some o ↔
      Readable p cell o.binding ∧ o.index = UInt32.ofNat i ∧ o.cell = cell ∧ o.data = datas.getD i [] := by
  unfold classifyOutput Readable
  obtain ⟨index, binding, cell', data⟩ := o
  cases hc : p.classify cell.lock with
  | none => simp
  | some kind =>
    dsimp only
    cases hb : LockBinding.parse kind cell.lock.args with
    | error e =>
      simp only [reduceCtorEq, Option.some.injEq, false_iff]
      rintro ⟨⟨rfl, h⟩, -⟩
      rw [hb] at h; cases h
    | ok b =>
      obtain ⟨-, hk⟩ := LockBinding.encode_parse hb
      simp only [Option.some.injEq, RgbppOutput.mk.injEq]
      constructor
      · rintro ⟨rfl, rfl, rfl, rfl⟩
        exact ⟨⟨hk.symm, by rw [hk]; exact hb⟩, rfl, rfl, rfl⟩
      · rintro ⟨⟨hk', h⟩, rfl, rfl, rfl⟩
        rw [← hk', hb] at h
        simp only [Except.ok.injEq] at h
        exact ⟨rfl, h, rfl, rfl⟩

/-- A row written for a readable output rebuilds that output. -/
theorem cellOutputFromRow_cellBody {p : ProtocolScripts} {assets : AssetScripts} {cell : CellOutput}
    {binding : LockBinding} {data : Bytes} (row : Store.CellRow) (hread : Readable p cell binding)
    (hrow : row.toCellBody = cellBody assets binding cell data) :
    cellOutputFromRow p row = .ok cell ∧ bindingFromRow row = .ok binding ∧ row.cellData = data := by
  have hkind : row.lockKind = binding.kind := congrArg CellBody.lockKind hrow
  have hargs : row.lockArgs = cell.lock.args := congrArg CellBody.lockArgs hrow
  have hhash : row.lockHash = cell.lock.calcHash.toVec := congrArg CellBody.lockHash hrow
  have htype : row.typeScript = cell.type_.map scriptToJson := congrArg CellBody.typeScript hrow
  have hcap : row.capacity = cell.capacity.toInt64 := congrArg CellBody.capacity hrow
  have hdata : row.cellData = data := congrArg CellBody.cellData hrow
  refine ⟨?_, ?_, hdata⟩
  · simp only [cellOutputFromRow, hkind, hargs, hhash, htype, hcap, ProtocolScripts.rebuilt_lock hread.1,
      ne_eq, not_true_eq_false, if_false]
    obtain ⟨capacity, lock, type_⟩ := cell
    cases type_ with
    | none => simp
    | some t => simp
  · rw [bindingFromRow, hkind, hargs, hread.2]; rfl

end RgbppIndexer
