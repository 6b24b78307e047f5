import RgbppIndexer.Api.Assets
import RgbppIndexer.Indexer.Reconcile
import RgbppIndexer.Store.Lookups

/-!
# Cells and transitions, one key and many

The handlers of `/v1/rgbpp/cells/by-btc-utxo`, `/v1/rgbpp/cells:batch`,
`/v1/rgbpp/transitions/{tx_hash}`, `/v1/rgbpp/transitions:batch` and
`/v1/rgbpp/refresh` (crates/api/src/handlers.rs), with what they render
(crates/api/src/dto.rs:17-190). "Answers are aligned with the request, so a
caller maps them back by position" (handlers.rs:746-749).

* `cellAnswers_eq`, `transitionAnswers_eq`: the map a batch looks its keys up in
  holds, under a key, the rows of that key.
* `batches_answer_each`: **a batch answers every key as the endpoint for one key
  does, and fails exactly if a key is malformed.**
-/
namespace RgbppIndexer

open RgbppIndexer.Core

/-- The texts of the errors that come from the crates below. -/
structure ErrorTexts where
  types : TypesError → String
  indexer : IndexerError → String
  store : StoreError → String
  btc : BtcError → String

/-- `Display`. mirrors crates/api/src/error.rs:12-33 -/
def ApiError.text (texts : ErrorTexts) : ApiError → String
  | badRequest reason => reason
  | notFound => "not found"
  | indexer e => texts.indexer e
  | store e => texts.store e
  | btc e => texts.btc e

/-- mirrors crates/api/src/handlers.rs:769-778 -/
def parseOutpoint (texts : ErrorTexts) (s : String) : Except ApiError BtcOutPoint :=
  match Decimal.splitOnce ':' s.toList with
  | none => .error (.badRequest s!"expected `txid:vout`, got `{s}`")
  | some (txid, vout) =>
    match BtcTxid.fromHex (String.ofList txid) with
    | .error e => .error (.badRequest (texts.types e))
    | .ok txid =>
      match Decimal.parseUnsigned (2 ^ 32 - 1) vout with
      | none => .error (.badRequest s!"`{String.ofList vout}` is not a valid output index")
      | some vout => .ok ⟨txid, UInt32.ofNat vout⟩

/-! ## Cells -/

/-- mirrors crates/api/src/dto.rs:29-37 -/
structure BtcTimeDto where
  after : UInt32
  btcTxid : String
  targetLock : Option JsonObject
  deriving DecidableEq, Repr

/-- mirrors crates/api/src/dto.rs:39-45 -/
structure CreatedDto where
  blockNumber : Int64
  txIndex : Int32
  deriving DecidableEq, Repr

/-- mirrors crates/api/src/dto.rs:47-51 -/
structure ConsumedDto where
  blockNumber : Int64
  txHash : String
  deriving DecidableEq, Repr

/-- mirrors crates/api/src/dto.rs:53-60 -/
structure BtcObservationDto where
  status : ObservationStatus
  spender : Option String
  height : Option Int32
  observedAt : Option DateTime
  address : Option String
  deriving DecidableEq, Repr

/-- mirrors crates/api/src/dto.rs:62-88 -/
structure CellDto where
  ckbOutPoint : CkbOutPointDto
  lockKind : LockKind
  btcOutPoint : Option BtcOutPointDto
  btcTime : Option BtcTimeDto
  typeHash : Option String
  typeScript : Option JsonObject
  assetKind : AssetKind
  amount : Option String
  capacity : String
  data : String
  status : CellStatus
  created : CreatedDto
  consumed : Option ConsumedDto
  btcObservation : Option BtcObservationDto
  deriving DecidableEq, Repr

/-- mirrors crates/api/src/dto.rs:108-157 -/
def CellDto.ofRow (row : Store.CellRow) : CellDto where
  ckbOutPoint := { txHash := bytesToHex row.ckbTxHash, index := row.outputIndex.toUInt32 }
  lockKind := row.lockKind
  btcOutPoint := row.btcVout.map fun vout => { txid := hexText row.btcTxid, vout := vout.toUInt32 }
  btcTime := row.btcTimeAfter.map fun after =>
    { after := after.toUInt32, btcTxid := hexText row.btcTxid, targetLock := row.btcTimeTargetLock }
  typeHash := row.typeHash.map bytesToHex
  typeScript := row.typeScript
  assetKind := row.assetKind
  amount := row.udtAmount.map fun amount => plainDecimal amount
  capacity := plainDecimal row.capacity.toInt
  data := bytesToHex row.cellData
  status := row.status
  created := { blockNumber := row.createdBlockNumber, txIndex := row.createdTxIndex }
  consumed := row.consumed.map fun c => { blockNumber := c.blockNumber, txHash := bytesToHex c.txHash }
  btcObservation := row.btcStatus.map fun status =>
    { status, spender := row.btcSpenderTxid.map hexText, height := row.btcSpentHeight,
      observedAt := row.btcObservedAt, address := row.btcAddress }

/-- mirrors crates/api/src/handlers.rs:32-39 -/
structure CellsQuery where
  refresh : Bool
  includeSpent : Bool
  deriving DecidableEq, Repr

/-- Cells bound to one Bitcoin UTXO. mirrors crates/api/src/handlers.rs:159-185 -/
def cellsByBtcUtxo (texts : ErrorTexts) (r : Reconciler) (moment : Nat) (rows : RowOrder Store.CellRow) (st : Store)
    (txid : String) (vout : UInt32) (query : CellsQuery) : Store × Except ApiError (List CellDto) :=
  match BtcTxid.fromHex txid with
  | .error e => (st, .error (.badRequest (texts.types e)))
  | .ok txid =>
    let outpoint : BtcOutPoint := ⟨txid, vout⟩
    let answer := fun st : Store => (st.cellsByBtcOutpoints rows [outpoint.key] query.includeSpent).map CellDto.ofRow
    if query.refresh then
      let refreshed := r.refreshOutpoints moment st [outpoint]
      match refreshed.result with
      | .error e => (refreshed.store, .error (.indexer e))
      | .ok _ => (refreshed.store, .ok (answer refreshed.store))
    else (st, .ok (answer st))

/-- The rows are pushed into lists under their outpoints, and looked up.
mirrors crates/api/src/handlers.rs:580-602 -/
def cellAnswers (rows : RowOrder Store.CellRow) (st : Store) (keys : List OutpointKey) (includeSpent : Bool) :
    List (List CellDto) :=
  let rows := st.cellsByBtcOutpoints rows keys includeSpent
  let byOutpoint := rows.foldl
    (fun (t : Table OutpointKey (List Store.CellRow)) row => t.upsert row.outpointKey fun old => old.getD [] ++ [row]) .empty
  keys.map fun k => ((byOutpoint.get? k).getD []).map CellDto.ofRow

/-- Cells bound to many Bitcoin UTXOs in one call. mirrors crates/api/src/handlers.rs:573-603 -/
def cellsBatch (texts : ErrorTexts) (maxPageSize : Int) (rows : RowOrder Store.CellRow) (st : Store)
    (btcOutpoints : List String) (includeSpent : Bool) : Except ApiError (List (List CellDto)) :=
  match parseBatch (ApiError.text texts) maxPageSize "btc_outpoints" btcOutpoints fun s =>
      (parseOutpoint texts s).map BtcOutPoint.key with
  | .error e => .error e
  | .ok keys => .ok (cellAnswers rows st keys includeSpent)

/-! ## Transitions -/

/-- mirrors crates/api/src/dto.rs:160-172 -/
structure TransitionDto where
  ckbTxHash : String
  blockNumber : Int64
  txIndex : Int32
  blockTimestamp : Option DateTime
  kind : TransitionKind
  btcTxid : Option String
  inputCellCount : Int32
  outputCellCount : Int32
  expectedCommitment : Option String
  observedCommitment : Option String
  commitmentStatus : CommitmentStatus
  deriving DecidableEq, Repr

/-- mirrors crates/api/src/dto.rs:174-190 -/
def TransitionDto.ofRow (row : Store.TransitionRow) : TransitionDto where
  ckbTxHash := bytesToHex row.ckbTxHash
  blockNumber := row.blockNumber
  txIndex := row.txIndex
  blockTimestamp := row.blockTimestamp
  kind := row.kind
  btcTxid := row.btcTxid.map hexText
  inputCellCount := row.inputCellCount
  outputCellCount := row.outputCellCount
  expectedCommitment := row.expectedCommitment.map hexText
  observedCommitment := row.observedCommitment.map hexText
  commitmentStatus := row.commitmentStatus

/-- One RGB++ state transition by CKB transaction hash. mirrors crates/api/src/handlers.rs:663-675 -/
def transitionByCkbTx (texts : ErrorTexts) (st : Store) (txHash : String) : Except ApiError TransitionDto :=
  match H256.fromHex txHash with
  | .error e => .error (.badRequest (texts.types e))
  | .ok txHash =>
    match st.transitionByCkbTx txHash.toVec with
    | none => .error .notFound
    | some row => .ok (TransitionDto.ofRow row)

/-- mirrors crates/api/src/handlers.rs:635-643 -/
def transitionAnswers (rows : RowOrder Store.TransitionRow) (st : Store) (keys : List Bytes) : List (Option TransitionDto) :=
  let rows := st.transitionsByCkbTxs rows keys
  let byHash := rows.foldl (fun (t : Table Bytes Store.TransitionRow) row => t.upsert row.ckbTxHash fun _ => row) .empty
  keys.map fun k => (byHash.get? k).map TransitionDto.ofRow

/-- Transitions for many CKB transactions in one call. mirrors crates/api/src/handlers.rs:626-644 -/
def transitionsBatch (texts : ErrorTexts) (maxPageSize : Int) (rows : RowOrder Store.TransitionRow) (st : Store)
    (ckbTxHashes : List String) : Except ApiError (List (Option TransitionDto)) :=
  match parseBatch texts.types maxPageSize "ckb_tx_hashes" ckbTxHashes fun s => (H256.fromHex s).map H256.toVec with
  | .error e => .error e
  | .ok keys => .ok (transitionAnswers rows st keys)

/-! ## Refreshing -/

/-- mirrors crates/api/src/dto.rs:409-441 -/
inductive SpendStatusDto where
  | unknown
  | unspent
  | spentUnconfirmed (spender : String)
  | spentConfirmed (spender : String) (height : UInt32)
  deriving DecidableEq, Repr

def SpendStatusDto.of : OutpointSpendStatus → SpendStatusDto
  | .unknown => unknown
  | .unspent => unspent
  | .spentUnconfirmed spender => spentUnconfirmed (hexText spender.toDisplayVec)
  | .spentConfirmed spender height => spentConfirmed (hexText spender.toDisplayVec) height

/-- mirrors crates/api/src/dto.rs:443-449 -/
structure OutpointRefreshDto where
  outpoint : BtcOutPointDto
  status : SpendStatusDto
  changed : Bool
  deriving DecidableEq, Repr

/-- mirrors crates/api/src/dto.rs:451-462 -/
def OutpointRefreshDto.of (r : OutpointRefresh) : OutpointRefreshDto where
  outpoint := { txid := hexText r.outpoint.txid.toDisplayVec, vout := r.outpoint.vout }
  status := SpendStatusDto.of r.status
  changed := r.changed

/-- mirrors crates/api/src/handlers.rs:367-375 -/
structure RefreshRequest where
  outpoints : List String
  synchronous : Bool
  deriving DecidableEq, Repr

/-- mirrors crates/api/src/handlers.rs:381-388 -/
structure RefreshResponse where
  requested : Nat
  refreshed : List OutpointRefreshDto
  queued : Nat
  deriving DecidableEq, Repr

/-- Force a re-observation of specific outpoints. mirrors crates/api/src/handlers.rs:394-435 -/
def refreshOutpoints (texts : ErrorTexts) (r : Reconciler) (moment : Nat) (st : Store) (request : RefreshRequest) :
    Store × Except ApiError RefreshResponse :=
  match request.outpoints.mapM (parseOutpoint texts) with
  | .error e => (st, .error e)
  | .ok outpoints =>
    if request.synchronous then
      let refreshed := r.refreshOutpoints moment st outpoints
      match refreshed.result with
      | .error e => (refreshed.store, .error (.indexer e))
      | .ok out =>
        (refreshed.store,
          .ok { requested := outpoints.length, refreshed := out.map OutpointRefreshDto.of, queued := 0 })
    else
      match st.enqueueRefreshMany (outpoints.map BtcOutPoint.key) "api-request" ON_DEMAND r.now with
      | .error e => (st, .error (.store e))
      | .ok (st, queued) => (st, .ok { requested := outpoints.length, refreshed := [], queued })

/-! ## A batch answers each of its keys -/

/-- A text `txid:vout`, and the two parts of the path for one outpoint. -/
def OutpointText (text txid : String) (vout : UInt32) : Prop :=
  ∃ digits, Decimal.splitOnce ':' text.toList = some (txid.toList, digits) ∧
    Decimal.parseUnsigned (2 ^ 32 - 1) digits = some vout.toNat

/-- The same cells, in an order that can differ in ties of the `ORDER BY` only. -/
def SameCells (cells cells' : List CellDto) : Prop :=
  ∃ rows rows' : List Store.CellRow, cells = rows.map CellDto.ofRow ∧ cells' = rows'.map CellDto.ofRow ∧
    rows.Perm rows' ∧ rows.map Store.CellRow.created = rows'.map Store.CellRow.created

section
variable {texts : ErrorTexts} {text : String} {o : BtcOutPoint}

/-- A text that is parsed has the parts of a path in it. -/
theorem parseOutpoint_eq_ok (h : parseOutpoint texts text = .ok o) :
    ∃ txid, OutpointText text txid o.vout ∧ BtcTxid.fromHex txid = .ok o.txid := by
  unfold parseOutpoint at h
  cases hsplit : Decimal.splitOnce ':' text.toList with
  | none =>
    rw [hsplit] at h
    cases h
  | some parts =>
    rw [hsplit] at h
    dsimp only at h
    cases htxid : BtcTxid.fromHex (String.ofList parts.1) with
    | error e =>
      rw [htxid] at h
      cases h
    | ok txid =>
      rw [htxid] at h
      dsimp only at h
      cases hvout : Decimal.parseUnsigned (2 ^ 32 - 1) parts.2 with
      | none =>
        rw [hvout] at h
        cases h
      | some n =>
        rw [hvout] at h
        obtain rfl := Except.ok.inj h
        have hn := Decimal.le_of_parseUnsigned hvout
        have hfits : n < UInt32.size := by
          rw [show UInt32.size = 2 ^ 32 from rfl]
          omega
        refine ⟨String.ofList parts.1, ⟨parts.2, by rw [hsplit, String.toList_ofList], ?_⟩, htxid⟩
        rw [hvout, UInt32.toNat_ofNat_of_lt' hfits]

/-- The list under a key has the rows of that key. -/
theorem cellAnswers_eq (rows : RowOrder Store.CellRow) (st : Store) (keys : List OutpointKey) (includeSpent : Bool) :
    cellAnswers rows st keys includeSpent =
      keys.map fun k => (st.rowsBoundTo rows keys includeSpent k).map CellDto.ofRow := by
  unfold cellAnswers
  refine List.map_congr_left fun k _ => ?_
  rw [Table.get?_group, Table.get?_empty, Option.getD_none, List.nil_append]
  rfl

/-- The row under a hash is the row of that hash. -/
theorem transitionAnswers_eq (rows : RowOrder Store.TransitionRow) (st : Store) (keys : List Bytes) :
    transitionAnswers rows st keys = keys.map fun k => (st.transitionByCkbTx k).map TransitionDto.ofRow := by
  unfold transitionAnswers
  refine List.map_congr_left fun k hk => ?_
  rw [Table.get?_collect, Table.get?_empty, Option.or_none, Store.rowsWithHash rows hk]
  cases st.transitionByCkbTx k with
  | none => rfl
  | some row => rfl

/-- The answer for an outpoint is the answer it gets alone. -/
theorem cellAnswers_each (rows rows' : RowOrder Store.CellRow) (st : Store) (keys : List OutpointKey) (includeSpent : Bool) :
    List.Forall₂ (fun k answer => SameCells answer ((st.cellsByBtcOutpoints rows' [k] includeSpent).map CellDto.ofRow))
      keys (cellAnswers rows st keys includeSpent) := by
  rw [cellAnswers_eq, List.forall₂_map_right_iff, List.forall₂_same]
  intro k hk
  exact ⟨_, _, rfl, rfl, Store.rowsBoundTo_perm hk, Store.rowsBoundTo_created hk⟩

/-- An outpoint that is asked for alone. -/
theorem cellsByBtcUtxo_ok (r : Reconciler) (moment : Nat) (rows : RowOrder Store.CellRow) (st : Store) {txid : String}
    (htxid : BtcTxid.fromHex txid = .ok o.txid) (includeSpent : Bool) :
    cellsByBtcUtxo texts r moment rows st txid o.vout { refresh := false, includeSpent } =
      (st, .ok ((st.cellsByBtcOutpoints rows [o.key] includeSpent).map CellDto.ofRow)) := by
  unfold cellsByBtcUtxo
  rw [htxid]
  rfl

theorem cellsBatch_each (r : Reconciler) (moment : Nat) {maxPageSize : Int} {rows : RowOrder Store.CellRow}
    (rows' : RowOrder Store.CellRow) {st : Store} {outpoints : List String} {includeSpent : Bool} {cells : List (List CellDto)}
    (h : cellsBatch texts maxPageSize rows st outpoints includeSpent = .ok cells) :
    List.Forall₂ (fun text answer => ∃ txid vout alone, OutpointText text txid vout ∧
      cellsByBtcUtxo texts r moment rows' st txid vout { refresh := false, includeSpent } = (st, .ok alone) ∧
      SameCells answer alone) outpoints cells := by
  unfold cellsBatch at h
  cases hkeys : parseBatch (ApiError.text texts) maxPageSize "btc_outpoints" outpoints fun s =>
      (parseOutpoint texts s).map BtcOutPoint.key with
  | error e =>
    rw [hkeys] at h
    cases h
  | ok keys =>
    rw [hkeys] at h
    obtain rfl := Except.ok.inj h
    refine (forall₂_comp (parseBatch_eq_ok hkeys) (cellAnswers_each rows rows' st keys includeSpent)).imp ?_
    rintro text answer ⟨key, hparse, hsame⟩
    cases ho : parseOutpoint texts text with
    | error e =>
      rw [ho] at hparse
      cases hparse
    | ok o =>
      rw [ho] at hparse
      obtain rfl : o.key = key := Except.ok.inj hparse
      obtain ⟨txid, htext, htxid⟩ := parseOutpoint_eq_ok ho
      exact ⟨txid, o.vout, _, htext, cellsByBtcUtxo_ok r moment rows' st htxid includeSpent, hsame⟩

theorem transitionsBatch_each {maxPageSize : Int} {rows : RowOrder Store.TransitionRow} {st : Store} {hashes : List String}
    {transitions : List (Option TransitionDto)} (h : transitionsBatch texts maxPageSize rows st hashes = .ok transitions) :
    List.Forall₂ (fun text answer => transitionByCkbTx texts st text =
      match answer with
      | some transition => .ok transition
      | none => .error .notFound) hashes transitions := by
  unfold transitionsBatch at h
  cases hkeys : parseBatch texts.types maxPageSize "ckb_tx_hashes" hashes fun s => (H256.fromHex s).map H256.toVec with
  | error e =>
    rw [hkeys] at h
    cases h
  | ok keys =>
    rw [hkeys] at h
    obtain rfl := Except.ok.inj h
    rw [transitionAnswers_eq, List.forall₂_map_right_iff]
    refine (parseBatch_eq_ok hkeys).imp fun text key hparse => ?_
    unfold transitionByCkbTx
    cases hhash : H256.fromHex text with
    | error e =>
      rw [hhash] at hparse
      cases hparse
    | ok hash =>
      rw [hhash] at hparse
      obtain rfl : hash.toVec = key := Except.ok.inj hparse
      dsimp only
      cases st.transitionByCkbTx hash.toVec with
      | none => rfl
      | some row => rfl

theorem map_error_iff {ε α β : Type} {x : Except ε α} {f : α → β} : (∃ e, x.map f = .error e) ↔ ∃ e, x = .error e := by
  cases x with
  | error e => exact iff_of_true ⟨e, rfl⟩ ⟨e, rfl⟩
  | ok a => exact iff_of_false (fun ⟨e, h⟩ => by cases h) (fun ⟨e, h⟩ => by cases h)

theorem cellsBatch_error_iff {maxPageSize : Int} {rows : RowOrder Store.CellRow} {st : Store} {outpoints : List String}
    {includeSpent : Bool} : (∃ e, cellsBatch texts maxPageSize rows st outpoints includeSpent = .error e) ↔
      maxPageSize < outpoints.length ∨ ∃ text ∈ outpoints, ∃ e, parseOutpoint texts text = .error e := by
  have hparse := parseBatch_error_iff (ApiError.text texts) maxPageSize "btc_outpoints" outpoints
    fun s => (parseOutpoint texts s).map BtcOutPoint.key
  simp only [map_error_iff] at hparse
  rw [← hparse]
  unfold cellsBatch
  split
  · next e he => exact iff_of_true ⟨e, rfl⟩ ⟨e, he⟩
  · next keys hkeys =>
    refine iff_of_false (fun ⟨e, h⟩ => by cases h) fun ⟨e, h⟩ => ?_
    rw [hkeys] at h
    cases h

theorem transitionsBatch_error_iff {maxPageSize : Int} {rows : RowOrder Store.TransitionRow} {st : Store}
    {hashes : List String} : (∃ e, transitionsBatch texts maxPageSize rows st hashes = .error e) ↔
      maxPageSize < hashes.length ∨ ∃ text ∈ hashes, ∃ e, H256.fromHex text = .error e := by
  have hparse := parseBatch_error_iff texts.types maxPageSize "ckb_tx_hashes" hashes
    fun s => (H256.fromHex s).map H256.toVec
  simp only [map_error_iff] at hparse
  rw [← hparse]
  unfold transitionsBatch
  split
  · next e he => exact iff_of_true ⟨e, rfl⟩ ⟨e, he⟩
  · next keys hkeys =>
    refine iff_of_false (fun ⟨e, h⟩ => by cases h) fun ⟨e, h⟩ => ?_
    rw [hkeys] at h
    cases h

end

/-- **Each position of a batch holds what its key gets alone. A malformed key anywhere fails the batch, and so does one
key too many; nothing else does.** -/
theorem batches_answer_each (texts : ErrorTexts) (r : Reconciler) (moment : Nat) (maxPageSize : Int) (st : Store)
    (keys : List String) :
    (∀ rows rows' includeSpent,
      (∀ cells, cellsBatch texts maxPageSize rows st keys includeSpent = .ok cells →
        List.Forall₂ (fun text answer => ∃ txid vout alone, OutpointText text txid vout ∧
          cellsByBtcUtxo texts r moment rows' st txid vout { refresh := false, includeSpent } = (st, .ok alone) ∧
          SameCells answer alone) keys cells) ∧
      ((∃ e, cellsBatch texts maxPageSize rows st keys includeSpent = .error e) ↔
        maxPageSize < keys.length ∨ ∃ text ∈ keys, ∃ e, parseOutpoint texts text = .error e)) ∧
    ∀ rows,
      (∀ transitions, transitionsBatch texts maxPageSize rows st keys = .ok transitions →
        List.Forall₂ (fun text answer => transitionByCkbTx texts st text =
          match answer with
          | some transition => .ok transition
          | none => .error .notFound) keys transitions) ∧
      ((∃ e, transitionsBatch texts maxPageSize rows st keys = .error e) ↔
        maxPageSize < keys.length ∨ ∃ text ∈ keys, ∃ e, H256.fromHex text = .error e) := by
  refine ⟨fun rows rows' includeSpent => ⟨fun cells => cellsBatch_each r moment rows', cellsBatch_error_iff⟩,
    fun rows => ⟨fun transitions => transitionsBatch_each, transitionsBatch_error_iff⟩⟩

end RgbppIndexer
