import RgbppIndexer.Indexer.Scanner

/-!
# Rebuilding a consumed cell

`resolve_input` meets a consumed cell as a pending row of its own batch, as a
row of the database, or as an output of the transaction the node returns. The
first two went through signed columns, hex JSON and a code hash that only the
lock kind implies; the third did not.

* `rebuilt_alike`: all three give the output its transaction carries.
-/
namespace RgbppIndexer

open RgbppIndexer.Core

section
variable {cfg : Config} {env : ScanEnv} {st : Store} {op : CkbOutPoint} {inputIndex : UInt32} {batch : IndexBatch}
  {round : ScanRound} {assets : AssetScripts} {cell : CellOutput} {binding : LockBinding} {data : Bytes}

/-- A pending row written for a readable output rebuilds that output. -/
theorem resolvedFromNewCell_cellBody (c : NewCell) (op : CkbOutPoint) (inputIndex : UInt32)
    (hread : Readable cfg.protocol cell binding) (hbody : c.toCellBody = cellBody assets binding cell data) :
    resolvedFromNewCell cfg c op inputIndex = .ok { inputIndex, outPoint := op, binding, cell, data } := by
  have hkind : c.lockKind = binding.kind := congrArg CellBody.lockKind hbody
  have hargs : c.lockArgs = cell.lock.args := congrArg CellBody.lockArgs hbody
  have htype : c.typeScript = cell.type_.map scriptToJson := congrArg CellBody.typeScript hbody
  have hcap : c.capacity = cell.capacity.toInt64 := congrArg CellBody.capacity hbody
  have hdata : c.cellData = data := congrArg CellBody.cellData hbody
  have hlock := ProtocolScripts.rebuilt_lock hread.1
  unfold resolvedFromNewCell
  rw [hkind, hargs, htype, hcap, hdata, hread.2]
  obtain ⟨capacity, lock, type_⟩ := cell
  simp only at hlock
  cases type_ with
  | none => simp [Except.intoIndexer, hlock, bind, Except.bind, pure, Except.pure]
  | some t => simp [Except.intoIndexer, hlock, bind, Except.bind, pure, Except.pure]

/-- The two columns the batch is searched by are the key. -/
theorem find?_outPoint (op : CkbOutPoint) (cells : List NewCell) :
    cells.find? (fun c => c.ckbTxHash = op.txHash.toVec ∧ c.outputIndex = op.index.toInt32) =
      cells.find? fun c => c.key = op.key := by
  congr 1
  funext c
  simp only [NewCell.key, CkbOutPoint.key, CellKey.mk.injEq]

/-- The batch knows the cell. -/
theorem resolveInput_pending {pending : NewCell} (hfind : batch.cells.find? (fun c => c.key = op.key) = some pending)
    (hread : Readable cfg.protocol cell binding) (hbody : pending.toCellBody = cellBody assets binding cell data) :
    resolveInput cfg env st op inputIndex batch round =
      .ok (some { inputIndex, outPoint := op, binding, cell, data }, batch, round) := by
  unfold resolveInput
  rw [find?_outPoint, hfind]
  dsimp only
  rw [resolvedFromNewCell_cellBody pending op inputIndex hread hbody]
  rfl

theorem find?_fresh (hfresh : ∀ c ∈ batch.cells, c.key ≠ op.key) :
    batch.cells.find? (fun c => c.ckbTxHash = op.txHash.toVec ∧ c.outputIndex = op.index.toInt32) = none := by
  rw [find?_outPoint, List.find?_eq_none]
  intro c hc
  simpa using hfresh c hc

/-- The database knows the cell. -/
theorem resolveInput_stored {row : CellRecord} (hfresh : ∀ c ∈ batch.cells, c.key ≠ op.key)
    (hfault : env.faults.cellByOutPoint op = none) (hrow : st.rgbppCells.get? op.key = some row)
    (hread : Readable cfg.protocol cell binding) (hbody : row.toCellBody = cellBody assets binding cell data) :
    resolveInput cfg env st op inputIndex batch round =
      .ok (some { inputIndex, outPoint := op, binding, cell, data }, batch, round) := by
  have hget : st.cellByOutPoint op.txHash.toVec op.index.toInt32 = some (st.rgbppCellStatus op.key row) := by
    unfold Store.cellByOutPoint
    rw [show st.rgbppCells.get? ⟨op.txHash.toVec, op.index.toInt32⟩ = some row from hrow]
    rfl
  obtain ⟨hcell, hbinding, hdata⟩ := cellOutputFromRow_cellBody (st.rgbppCellStatus op.key row) hread hbody
  unfold resolveInput
  rw [find?_fresh hfresh, hfault, hget]
  dsimp only
  rw [hbinding, hcell, hdata]
  rfl

/-- Neither does: the node is asked. -/
theorem resolveInput_absent (hfresh : ∀ c ∈ batch.cells, c.key ≠ op.key)
    (hfault : env.faults.cellByOutPoint op = none) (hrow : st.rgbppCells.get? op.key = none) :
    resolveInput cfg env st op inputIndex batch round = backfillInput cfg env op inputIndex batch round := by
  have hget : st.cellByOutPoint op.txHash.toVec op.index.toInt32 = none := by
    unfold Store.cellByOutPoint
    rw [show st.rgbppCells.get? ⟨op.txHash.toVec, op.index.toInt32⟩ = none from hrow]
    rfl
  unfold resolveInput
  rw [find?_fresh hfresh, hfault, hget]

/-- What the node returns needs no rebuilding. -/
theorem backfillInput_readable {tx : RpcTransaction} {status : TxStatus}
    (hreply : env.replies.getTransaction op.txHash = .ok (some { transaction := some tx, txStatus := status }))
    (hcell : tx.outputs[op.index.toNat]? = some cell) (hread : Readable cfg.protocol cell binding) :
    backfillInput cfg env op inputIndex batch round =
      .ok (some { inputIndex, outPoint := op, binding, cell, data := tx.outputsData.getD op.index.toNat [] },
        pushBackfilled batch round
          (backfilledCell cfg env op binding cell (tx.outputsData.getD op.index.toNat []) status)) := by
  unfold backfillInput
  simp only [hreply, Except.intoIndexer, bind, Except.bind, hcell, hread.1, hread.2]
  rfl

/-- An insert leaves the body of its out point's first row, which is its own if there was none. -/
theorem get?_insertCell_body {c : NewCell} (hkey : c.key = op.key)
    (hbody : c.toCellBody = cellBody assets binding cell data)
    (hsame : ∀ row, st.rgbppCells.get? op.key = some row → ∃ assets, row.toCellBody = cellBody assets binding cell data) :
    ∃ row assets, (st.insertCell c).rgbppCells.get? op.key = some row ∧
      row.toCellBody = cellBody assets binding cell data := by
  unfold Store.insertCell
  rw [Store.get?_cellInsert, if_pos hkey.symm]
  cases hrow : st.rgbppCells.get? op.key with
  | none => exact ⟨_, assets, rfl, hbody⟩
  | some row =>
    obtain ⟨assets, hrowBody⟩ := hsame row hrow
    exact ⟨_, assets, rfl, hrowBody⟩

/-- The output is one of those `extract` writes a row for. -/
theorem mem_classifyOutputs_of_readable {tx : RpcTransaction} {index : UInt32}
    (hcell : tx.outputs[index.toNat]? = some cell) (hread : Readable cfg.protocol cell binding) :
    { index, binding, cell, data := tx.outputsData.getD index.toNat [] } ∈
      classifyOutputs cfg.protocol tx.outputs tx.outputsData := by
  unfold classifyOutputs
  rw [List.mem_filterMap]
  refine ⟨(cell, index.toNat), ?_, ?_⟩
  · rw [List.mk_mem_zipIdx_iff_getElem?]
    exact hcell
  · rw [classifyOutput_eq_some]
    exact ⟨hread, UInt32.ofNat_toNat.symm, rfl, rfl⟩

end

/-- The form a consumed cell is met in does not show in what it is resolved to. A row of the same out point
that an earlier round wrote, under whatever asset configuration, does no harm. -/
theorem rebuilt_alike (cfg : Config) (tx : RpcTransaction) (txHash : H256) (index inputIndex : UInt32)
    (cell : CellOutput) (kind : LockKind) (binding : LockBinding) (hcell : tx.outputs[index.toNat]? = some cell)
    (hkind : cfg.protocol.classify cell.lock = some kind)
    (hargs : LockBinding.parse kind cell.lock.args = .ok binding) :
    let op : CkbOutPoint := ⟨txHash, index⟩
    let data := tx.outputsData.getD index.toNat []
    let resolved : ResolvedInput := { inputIndex, outPoint := op, binding, cell, data }
    let written := buildNewCell cfg.assets txHash { index, binding, cell, data }
    (∀ [Sha2] (inputs : List ResolvedInput) (block : BlockContext), ∃ extracted : ExtractedTx,
      extract cfg.protocol cfg.assets txHash tx.outputs tx.outputsData inputs block = .ok extracted ∧
        written block ∈ extracted.cells) ∧
    (∀ (env : ScanEnv) (st : Store) (batch : IndexBatch) (round : ScanRound) (block : BlockContext)
      (earlier later : List NewCell), batch.cells = earlier ++ written block :: later →
      (∀ c ∈ earlier, c.key ≠ op.key) →
      resolveInput cfg env st op inputIndex batch round = .ok (some resolved, batch, round)) ∧
    (∀ (env : ScanEnv) (st : Store) (batch : IndexBatch) (round : ScanRound) (block : BlockContext),
      env.faults.cellByOutPoint op = none → (∀ c ∈ batch.cells, c.key ≠ op.key) →
      (∀ row, st.rgbppCells.get? op.key = some row → ∃ assets, row.toCellBody = cellBody assets binding cell data) →
      resolveInput cfg env (st.insertCell (written block)) op inputIndex batch round =
        .ok (some resolved, batch, round)) ∧
    (∀ (env : ScanEnv) (st : Store) (batch : IndexBatch) (round : ScanRound) (status : TxStatus),
      env.faults.cellByOutPoint op = none → (∀ c ∈ batch.cells, c.key ≠ op.key) →
      st.rgbppCells.get? op.key = none →
      env.replies.getTransaction txHash = .ok (some { transaction := some tx, txStatus := status }) →
      ∃ pushed : NewCell, pushed.key = op.key ∧ (∀ block, pushed.toCellBody = (written block).toCellBody) ∧
        resolveInput cfg env st op inputIndex batch round =
          .ok (some resolved, pushBackfilled batch round pushed)) ∧
    ∀ script : Script, scriptFromJson (scriptToJson script) = .ok script := by
  intro op data resolved written
  obtain ⟨-, hbinding⟩ := LockBinding.encode_parse hargs
  have hread : Readable cfg.protocol cell binding := by
    subst hbinding
    exact ⟨hkind, hargs⟩
  refine ⟨?_, ?_, ?_, ?_, scriptFromJson_scriptToJson⟩
  · intro _ inputs block
    have hmem := mem_classifyOutputs_of_readable hcell hread
    have hsome : ¬((classifyOutputs cfg.protocol tx.outputs tx.outputsData).isEmpty ∧ inputs.isEmpty) := by
      rintro ⟨hempty, -⟩
      rw [List.isEmpty_iff.mp hempty] at hmem
      cases hmem
    unfold extract
    dsimp only
    rw [if_neg hsome]
    exact ⟨_, rfl, List.mem_map.mpr ⟨_, hmem, rfl⟩⟩
  · intro env st batch round block earlier later hcells hearlier
    have hfind : batch.cells.find? (fun c => c.key = op.key) = some (written block) := by
      rw [hcells, List.find?_append, List.find?_eq_none.mpr (by simpa using hearlier), Option.none_or]
      exact List.find?_cons_of_pos (by simp; rfl)
    exact resolveInput_pending hfind hread rfl
  · intro env st batch round block hfault hfresh hsame
    obtain ⟨row, assets, hrow, hbody⟩ := get?_insertCell_body (c := written block) rfl rfl hsame
    exact resolveInput_stored hfresh hfault hrow hread hbody
  · intro env st batch round status hfault hfresh hrow hreply
    refine ⟨backfilledCell cfg env op binding cell data status, rfl, fun block => rfl, ?_⟩
    rw [resolveInput_absent hfresh hfault hrow]
    exact backfillInput_readable hreply hcell hread

namespace Sample

/-- Bound to the largest output index there is. -/
def fullBinding : LockBinding := .rgbpp ⟨4294967295, ⟨.filled 32 7⟩⟩

/-- With the largest capacity there is, under a type script. -/
def fullCell : CellOutput where
  capacity := 18446744073709551615
  lock :=
    { codeHash := ProtocolScripts.testnet.rgbppLock.codeHash, hashType := .type,
      args := (RgbppLockArgs.mk 4294967295 ⟨.filled 32 7⟩).encode }
  type_ := some { codeHash := ⟨.filled 32 9⟩, hashType := .data2, args := [1, 2, 3] }

def fullTx : RpcTransaction where
  hash := ⟨.filled 32 1⟩
  inputs := []
  outputs := [fullCell]
  outputsData := [[4, 5]]

/-- A node that knows one transaction, and nothing else of the chain. -/
def onlyTx (tx : RpcTransaction) : ScanEnv where
  replies :=
    { getTipBlockNumber := .ok 0
      getHeaderByNumber := fun _ => .ok none
      getTransaction := fun hash =>
        .ok (if hash = tx.hash then
          some { transaction := some tx, txStatus := { status := .committed, blockNumber := none, blockHash := none } } else none)
      getIndexerTip := .ok none
      getTransactionsPage := fun _ _ _ _ => .ok { objects := [], lastCursor := [] } }
  faults := {}
  now := 0
  pageFuel := 1

end Sample

open Sample in
/-- Columns that read as negative numbers are no obstacle. -/
theorem rebuilt_alike_full :
    let op : CkbOutPoint := ⟨fullTx.hash, 0⟩
    let resolved : ResolvedInput :=
      { inputIndex := 3, outPoint := op, binding := fullBinding, cell := fullCell, data := [4, 5] }
    let written := buildNewCell .testnet fullTx.hash { index := 0, binding := fullBinding, cell := fullCell, data := [4, 5] }
      { number := 1, hash := ⟨.filled 32 2⟩, timestamp := 0, txIndex := 0 }
    resolveInput (.testnet 64) (onlyTx fullTx) .empty op 3 { cells := [written] } {} =
        .ok (some resolved, { cells := [written] }, {}) ∧
      resolveInput (.testnet 64) (onlyTx fullTx) (Store.empty.insertCell written) op 3 {} {} =
        .ok (some resolved, {}, {}) ∧
      ∃ pushed, resolveInput (.testnet 64) (onlyTx fullTx) .empty op 3 {} {} =
        .ok (some resolved, pushBackfilled {} {} pushed) := by
  intro op resolved written
  have hcell : fullTx.outputs[(0 : UInt32).toNat]? = some fullCell := rfl
  have hkind : ProtocolScripts.testnet.classify fullCell.lock = some .rgbpp := by decide
  have hargs : LockBinding.parse .rgbpp fullCell.lock.args = .ok fullBinding := by decide
  have hnode : (onlyTx fullTx).replies.getTransaction fullTx.hash =
      .ok (some { transaction := some fullTx, txStatus := ⟨.committed, none, none⟩ }) := rfl
  have hempty : Store.empty.rgbppCells.get? op.key = none := rfl
  have hnone : ∀ c ∈ ([] : List NewCell), c.key ≠ op.key := fun _ hc => absurd hc List.not_mem_nil
  obtain ⟨-, hpending, hstored, hfetched, -⟩ :=
    rebuilt_alike (.testnet 64) fullTx fullTx.hash 0 3 fullCell .rgbpp fullBinding hcell hkind hargs
  refine ⟨hpending (onlyTx fullTx) .empty _ {} _ [] [] rfl hnone, ?_, ?_⟩
  · refine hstored (onlyTx fullTx) .empty {} {} _ rfl hnone fun row hrow => ?_
    rw [hempty] at hrow
    cases hrow
  · obtain ⟨pushed, -, -, heq⟩ := hfetched (onlyTx fullTx) .empty {} {} _ rfl hnone hempty hnode
    exact ⟨pushed, heq⟩

end RgbppIndexer
