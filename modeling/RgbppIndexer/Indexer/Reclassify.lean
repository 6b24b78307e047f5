import RgbppIndexer.Indexer.Facts

/-!
# Catching up with a configuration

What kind of asset a cell holds is decided when it is indexed and written once.
A code hash that is configured later does not reach the rows that are there, and
a second pass over the same blocks leaves them too. `scripts/reclassify-assets.sql`
says: short of `reset-db` and a full resync, its two updates are the way to
correct existing rows.

* `SporeScripts`: the variables of the script; `reclassifyAssets`: its updates.
* `cellBody_withSpores`: the updates make of a row the row the larger
  configuration would have written.
* `scannerStep_reclassifyAssets`: they commute with every pass of the scanner.
* `reclassified_as_resynced`: **run at any moment after the larger configuration
  is in place, the script leaves what a full resync with it would have left**.
-/
namespace RgbppIndexer

open RgbppIndexer.Core

/-! ## The script -/

/-- `\set spore_code_hash`, `\set cluster_code_hash`, `\set hash_type`. -/
structure SporeScripts where
  sporeCodeHash : String
  clusterCodeHash : String
  hashType : String
  deriving DecidableEq, Repr

/-- `type_script ->> key`; NULL where there is no type script. -/
def CellBody.field (b : CellBody) (key : String) : Option String := b.typeScript.bind fun json => json.getStr key

/-- The condition of both updates. -/
def CellBody.awaits (b : CellBody) (codeHash hashType : String) : Bool :=
  decide (b.assetKind = .unknown ∧ b.field "code_hash" = some codeHash ∧ b.field "hash_type" = some hashType)

/-- `SET asset_kind = … WHERE …`, on one row. -/
def CellBody.reclassify (b : CellBody) (kind : AssetKind) (codeHash hashType : String) : CellBody :=
  { b with assetKind := if b.awaits codeHash hashType then kind else b.assetKind }

/-- One update. mirrors scripts/reclassify-assets.sql:72-76 -/
def Store.reclassify (st : Store) (kind : AssetKind) (codeHash hashType : String) : Store :=
  { st with
    rgbppCells := st.rgbppCells.mapRows fun _ r => { r with toCellBody := r.toCellBody.reclassify kind codeHash hashType } }

/-- mirrors scripts/reclassify-assets.sql:72-82 -/
def Store.reclassifyAssets (st : Store) (v : SporeScripts) : Store :=
  (st.reclassify .spore v.sporeCodeHash v.hashType).reclassify .sporeCluster v.clusterCodeHash v.hashType

/-! ## What it makes of rows and batches -/

namespace SporeScripts

variable (v : SporeScripts)

/-- Both updates, on one row. -/
def body (b : CellBody) : CellBody :=
  (b.reclassify .spore v.sporeCodeHash v.hashType).reclassify .sporeCluster v.clusterCodeHash v.hashType

def row (r : CellRecord) : CellRecord := { r with toCellBody := v.body r.toCellBody }

def cell (c : NewCell) : NewCell := { c with toCellBody := v.body c.toCellBody }

def batch (b : IndexBatch) : IndexBatch := { b with cells := b.cells.map v.cell }

@[simp] theorem cell_key (c : NewCell) : (v.cell c).key = c.key := rfl

@[simp] theorem cell_record (c : NewCell) : (v.cell c).record = v.row c.record := rfl

/-- The kind the two updates leave. -/
theorem body_assetKind (b : CellBody) :
    (v.body b).assetKind =
      if b.assetKind = .unknown then
        if b.field "code_hash" = some v.sporeCodeHash ∧ b.field "hash_type" = some v.hashType then .spore
        else if b.field "code_hash" = some v.clusterCodeHash ∧ b.field "hash_type" = some v.hashType then .sporeCluster
        else .unknown
      else b.assetKind := by
  have hfield : ∀ key, (b.reclassify .spore v.sporeCodeHash v.hashType).field key = b.field key := fun _ => rfl
  simp only [body, CellBody.reclassify, CellBody.awaits, decide_eq_true_eq] at hfield ⊢
  rw [hfield, hfield]
  by_cases hunknown : b.assetKind = .unknown
  · by_cases hspore : b.field "code_hash" = some v.sporeCodeHash ∧ b.field "hash_type" = some v.hashType
    · simp [hunknown, hspore]
    · simp [hunknown, hspore]
  · simp [hunknown]

/-- A second run of the script finds nothing to do. -/
theorem body_body (b : CellBody) : v.body (v.body b) = v.body b := by
  have hkind : (v.body (v.body b)).assetKind = (v.body b).assetKind := by
    have hfield : ∀ key, (v.body b).field key = b.field key := fun _ => rfl
    rw [v.body_assetKind (v.body b), v.body_assetKind b, hfield, hfield]
    split_ifs <;> simp_all
  calc v.body (v.body b) = { v.body b with assetKind := (v.body (v.body b)).assetKind } := rfl
    _ = v.body b := by rw [hkind]

/-- The script, as one update of the cells. -/
theorem reclassifyAssets_eq (st : Store) :
    st.reclassifyAssets v = { st with rgbppCells := st.rgbppCells.mapRows fun _ r => v.row r } := by
  unfold Store.reclassifyAssets Store.reclassify
  rw [Table.mapRows_mapRows]
  rfl

@[simp] theorem reclassifyAssets_cells (st : Store) :
    (st.reclassifyAssets v).rgbppCells = st.rgbppCells.mapRows fun _ r => v.row r := by
  rw [reclassifyAssets_eq]

end SporeScripts

/-! ## The larger configuration -/

/-- The two scripts, configured. -/
def AssetScripts.withSpores (a : AssetScripts) (spore cluster : H256) (hashType : ScriptHashType) : AssetScripts :=
  { a with spore := a.spore ++ [⟨spore, hashType⟩], sporeCluster := a.sporeCluster ++ [⟨cluster, hashType⟩] }

def Config.withSpores (cfg : Config) (spore cluster : H256) (hashType : ScriptHashType) : Config :=
  { cfg with assets := cfg.assets.withSpores spore cluster hashType }

/-- The same two scripts, as the variables of the script. -/
def SporeScripts.of (spore cluster : H256) (hashType : ScriptHashType) : SporeScripts :=
  ⟨spore.toHex, cluster.toHex, hashType.asStr⟩

section
variable (spore cluster : H256) (hashType : ScriptHashType)

theorem H256.toHex_inj {a b : H256} : a.toHex = b.toHex ↔ a = b := by
  constructor
  · intro h
    have hread := H256.fromHex_toHex a
    rw [h, H256.fromHex_toHex] at hread
    exact (Except.ok.inj hread).symm
  · exact congrArg _

theorem ScriptHashType.asStr_inj {a b : ScriptHashType} : a.asStr = b.asStr ↔ a = b := by
  constructor
  · intro h
    have hread := ScriptHashType.fromStrOpt_asStr a
    rw [h, ScriptHashType.fromStrOpt_asStr] at hread
    exact (Option.some.inj hread).symm
  · exact congrArg _

/-- The JSON of a type script is compared as the configured id is. -/
theorem field_eq_iff {b : CellBody} {t : Script} (hscript : b.typeScript = some (scriptToJson t)) :
    b.field "code_hash" = some spore.toHex ∧ b.field "hash_type" = some hashType.asStr ↔
      (⟨spore, hashType⟩ : ScriptId).matches t = true := by
  have hcode : (scriptToJson t).getStr "code_hash" = some t.codeHash.toHex := by simp [JsonObject.getStr, scriptToJson]
  have htype : (scriptToJson t).getStr "hash_type" = some t.hashType.asStr := by simp [JsonObject.getStr, scriptToJson]
  simp only [CellBody.field, hscript, Option.bind_some, hcode, htype, Option.some.injEq, H256.toHex_inj,
    ScriptHashType.asStr_inj, ScriptId.matches, decide_eq_true_eq]

/-- A script the configuration knows keeps its kind, unless it is now a spore and was a cluster before: the spores come
first. -/
theorem classify_withSpores {a : AssetScripts} (hnew : ⟨spore, hashType⟩ ∉ a.sporeCluster) (t : Script) :
    (a.withSpores spore cluster hashType).classify (some t) =
      if a.classify (some t) = .unknown then
        if (⟨spore, hashType⟩ : ScriptId).matches t then .spore
        else if (⟨cluster, hashType⟩ : ScriptId).matches t then .sporeCluster
        else .unknown
      else a.classify (some t) := by
  unfold AssetScripts.classify AssetScripts.withSpores
  simp only [List.any_append, List.any_cons, List.any_nil, Bool.or_false]
  cases a.xudt.any (·.matches t) with
  | true => simp
  | false =>
    cases a.sudt.any (·.matches t) with
    | true => simp
    | false =>
      cases a.spore.any (·.matches t) with
      | true => simp
      | false =>
        cases hcluster : a.sporeCluster.any (·.matches t) with
        | false => simp
        | true =>
          have hspore : (⟨spore, hashType⟩ : ScriptId).matches t = false := by
            obtain ⟨id, hid, hmatches⟩ := List.any_eq_true.mp hcluster
            rw [← Bool.not_eq_true]
            intro hmatches'
            simp only [ScriptId.matches, decide_eq_true_eq] at hmatches hmatches'
            refine hnew ?_
            rw [← hmatches'.1, ← hmatches'.2, hmatches.1, hmatches.2]
            exact hid
          simp [hspore]

/-- **The row the larger configuration writes is the row the script makes of the other.** -/
theorem cellBody_withSpores {a : AssetScripts} (hnew : ⟨spore, hashType⟩ ∉ a.sporeCluster) (binding : LockBinding)
    (output : CellOutput) (data : Bytes) :
    cellBody (a.withSpores spore cluster hashType) binding output data =
      (SporeScripts.of spore cluster hashType).body (cellBody a binding output data) := by
  have hkind : (a.withSpores spore cluster hashType).classify output.type_ =
      ((SporeScripts.of spore cluster hashType).body (cellBody a binding output data)).assetKind := by
    cases htype : output.type_ with
    | none =>
      have hclass : (cellBody a binding output data).assetKind = .none := by simp [cellBody, htype, AssetScripts.classify]
      rw [SporeScripts.body_assetKind, hclass]
      rfl
    | some t =>
      have hscript : (cellBody a binding output data).typeScript = some (scriptToJson t) := by simp [cellBody, htype]
      have hclass : (cellBody a binding output data).assetKind = a.classify (some t) := by simp [cellBody, htype]
      rw [SporeScripts.body_assetKind, hclass, classify_withSpores spore cluster hashType hnew]
      simp only [SporeScripts.of, field_eq_iff _ _ hscript]
  have hamount : fungibleAmount ((a.withSpores spore cluster hashType).classify output.type_) data =
      fungibleAmount (a.classify output.type_) data := by
    cases htype : output.type_ with
    | none => rfl
    | some t =>
      rw [classify_withSpores spore cluster hashType hnew]
      by_cases hunknown : a.classify (some t) = .unknown
      · rw [if_pos hunknown, hunknown]
        cases (⟨spore, hashType⟩ : ScriptId).matches t <;> cases (⟨cluster, hashType⟩ : ScriptId).matches t <;> rfl
      · rw [if_neg hunknown]
  calc cellBody (a.withSpores spore cluster hashType) binding output data
      = { cellBody a binding output data with
          assetKind := (a.withSpores spore cluster hashType).classify output.type_
          udtAmount := fungibleAmount ((a.withSpores spore cluster hashType).classify output.type_) data } := rfl
    _ = { cellBody a binding output data with
          assetKind := ((SporeScripts.of spore cluster hashType).body (cellBody a binding output data)).assetKind } := by
        rw [hkind.symm, hamount]
        rfl
    _ = (SporeScripts.of spore cluster hashType).body (cellBody a binding output data) := rfl

end

/-! ## A pass of the scanner under either configuration -/

/-- What the second configuration writes of an output, the script makes of what the first one writes. -/
def SporeScripts.Leads (v : SporeScripts) (a a' : AssetScripts) : Prop :=
  ∀ binding output data, cellBody a' binding output data = v.body (cellBody a binding output data)

section
variable {v : SporeScripts} {cfg : Config} {assets : AssetScripts} {env : ScanEnv} {st : Store}

/-- The insert and the spend of a cell, on relabelled rows. -/
theorem cellInsert_row (t : Table CellKey CellRecord) (c : NewCell) :
    Store.cellInsert (t.mapRows fun _ r => v.row r) (v.cell c) = (Store.cellInsert t c).mapRows fun _ r => v.row r := by
  unfold Store.cellInsert
  rw [Table.mapRows_upsert]
  · rfl
  · intro old
    cases old <;> rfl

theorem foldl_cellInsert_row (cells : List NewCell) (t : Table CellKey CellRecord) :
    (cells.map v.cell).foldl Store.cellInsert (t.mapRows fun _ r => v.row r) =
      (cells.foldl Store.cellInsert t).mapRows fun _ r => v.row r := by
  induction cells generalizing t with
  | nil => rfl
  | cons c cells ih => rw [List.map_cons, List.foldl_cons, List.foldl_cons, cellInsert_row, ih]

theorem foldl_cellSpend_row (spends : List CellSpend) (t : Table CellKey CellRecord) :
    spends.foldl Store.cellSpend (t.mapRows fun _ r => v.row r) = (spends.foldl Store.cellSpend t).mapRows fun _ r => v.row r := by
  induction spends generalizing t with
  | nil => rfl
  | cons s spends ih =>
    have hspend : Store.cellSpend (t.mapRows fun _ r => v.row r) s = (Store.cellSpend t s).mapRows fun _ r => v.row r :=
      (@Table.mapRows_update _ _ _ t s.key (fun _ r => v.row r) (fun r => { r with consumed := some s.consumed }) fun _ => rfl).symm
    rw [List.foldl_cons, List.foldl_cons, hspend, ih]

/-- A batch on relabelled rows. -/
theorem applyBatch_reclassifyAssets (batch : IndexBatch) (now : DateTime) :
    ((st.reclassifyAssets v).applyBatch (v.batch batch) now).1 = (st.applyBatch batch now).1.reclassifyAssets v := by
  rw [Store.applyBatch_fst, Store.applyBatch_fst, v.reclassifyAssets_eq, v.reclassifyAssets_eq]
  simp only [SporeScripts.batch, foldl_cellInsert_row, foldl_cellSpend_row]

/-- The writing half, and whether it fails. -/
theorem commitRound_leads (batch : IndexBatch) (round : ScanRound) :
    (commitRound { cfg with assets } env (st.reclassifyAssets v) (v.batch batch) round).2 =
        (commitRound cfg env st batch round).2.reclassifyAssets v ∧
      ∀ e, (commitRound { cfg with assets } env (st.reclassifyAssets v) (v.batch batch) round).1 = .error e ↔
        (commitRound cfg env st batch round).1 = .error e := by
  unfold commitRound
  have hkeep : ∀ toBlock, keepFrom { cfg with assets } toBlock = keepFrom cfg toBlock := fun _ => rfl
  simp only [hkeep]
  cases env.faults.applyBatch with
  | some e => exact ⟨rfl, fun _ => Iff.rfl⟩
  | none =>
    have happlied : ((st.reclassifyAssets v).applyBatch (v.batch batch) env.now).1 =
        (st.applyBatch batch env.now).1.reclassifyAssets v := applyBatch_reclassifyAssets batch env.now
    dsimp only
    rw [happlied]
    by_cases hprune : keepFrom cfg round.toBlock > 0
    · rw [if_pos hprune, if_pos hprune]
      cases env.faults.pruneBlocks with
      | some e => exact ⟨rfl, fun _ => Iff.rfl⟩
      | none => exact ⟨rfl, fun _ => iff_of_false nofun nofun⟩
    · rw [if_neg hprune, if_neg hprune]
      exact ⟨rfl, fun _ => iff_of_false nofun nofun⟩

/-- A result of the input loop, as the second configuration has it. -/
def SporeScripts.resolved (v : SporeScripts) (x : Option ResolvedInput × IndexBatch × ScanRound) :
    Option ResolvedInput × IndexBatch × ScanRound :=
  (x.1, v.batch x.2.1, x.2.2)

def SporeScripts.loop (v : SporeScripts) (x : InputLoop) : InputLoop := (x.1, v.batch x.2.1, x.2.2)

def SporeScripts.pass (v : SporeScripts) (x : IndexBatch × ScanRound) : IndexBatch × ScanRound := (v.batch x.1, x.2)

theorem buildNewCell_leads (h : v.Leads cfg.assets assets) (txHash : H256) (output : RgbppOutput) (block : BlockContext) :
    buildNewCell assets txHash output block = v.cell (buildNewCell cfg.assets txHash output block) := by
  unfold buildNewCell
  rw [h]
  rfl

theorem backfilledCell_leads (h : v.Leads cfg.assets assets) (op : CkbOutPoint) (binding : LockBinding) (output : CellOutput)
    (data : Bytes) (status : TxStatus) :
    backfilledCell { cfg with assets } env op binding output data status =
      v.cell (backfilledCell cfg env op binding output data status) := by
  unfold backfilledCell
  dsimp only
  rw [buildNewCell_leads h]
  rfl

theorem pushBackfilled_leads (batch : IndexBatch) (round : ScanRound) (cell : NewCell) :
    pushBackfilled (v.batch batch) round (v.cell cell) = v.pass (pushBackfilled batch round cell) := by
  unfold pushBackfilled SporeScripts.pass SporeScripts.batch
  rw [List.map_append, List.map_singleton]

theorem backfillInput_leads (h : v.Leads cfg.assets assets) (op : CkbOutPoint) (inputIndex : UInt32) (batch : IndexBatch)
    (round : ScanRound) :
    backfillInput { cfg with assets } env op inputIndex (v.batch batch) round =
      (backfillInput cfg env op inputIndex batch round).map v.resolved := by
  unfold backfillInput
  rw [map_bind]
  congr 1
  funext reply
  cases reply with
  | none => rfl
  | some withStatus =>
    dsimp only
    cases withStatus.transaction with
    | none => rfl
    | some tx =>
      dsimp only
      cases tx.outputs[op.index.toNat]? with
      | none => rfl
      | some output =>
        dsimp only
        cases cfg.protocol.classify output.lock with
        | none => rfl
        | some kind =>
          dsimp only
          rw [map_bind]
          congr 1
          funext binding
          rw [backfilledCell_leads h, pushBackfilled_leads]
          rfl

/-- The view of a relabelled row is read alike. -/
theorem cellByOutPoint_reclassifyAssets (txHash : Bytes) (index : Int32) :
    (st.reclassifyAssets v).cellByOutPoint txHash index =
      (st.cellByOutPoint txHash index).map fun row => { row with toCellBody := v.body row.toCellBody } := by
  unfold Store.cellByOutPoint
  rw [v.reclassifyAssets_cells, Table.get?_mapRows]
  cases hrow : st.rgbppCells.get? ⟨txHash, index⟩ with
  | none => rfl
  | some row =>
    rw [v.reclassifyAssets_eq]
    rfl

theorem resolveInput_leads (h : v.Leads cfg.assets assets) (op : CkbOutPoint) (inputIndex : UInt32) (batch : IndexBatch)
    (round : ScanRound) :
    resolveInput { cfg with assets } env (st.reclassifyAssets v) op inputIndex (v.batch batch) round =
      (resolveInput cfg env st op inputIndex batch round).map v.resolved := by
  unfold resolveInput
  have hfind : (v.batch batch).cells.find? (fun c => c.ckbTxHash = op.txHash.toVec ∧ c.outputIndex = op.index.toInt32) =
      (batch.cells.find? fun c => c.ckbTxHash = op.txHash.toVec ∧ c.outputIndex = op.index.toInt32).map v.cell :=
    List.find?_map ..
  rw [hfind]
  cases batch.cells.find? fun c => c.ckbTxHash = op.txHash.toVec ∧ c.outputIndex = op.index.toInt32 with
  | some pending =>
    dsimp only [Option.map_some]
    rw [map_bind]
    rfl
  | none =>
    dsimp only [Option.map_none]
    cases env.faults.cellByOutPoint op with
    | some e => rfl
    | none =>
      dsimp only
      rw [cellByOutPoint_reclassifyAssets]
      cases st.cellByOutPoint op.txHash.toVec op.index.toInt32 with
      | none => exact backfillInput_leads h op inputIndex batch round
      | some row =>
        dsimp only [Option.map_some]
        rw [map_bind]
        congr 1
        funext binding
        rw [map_bind]
        rfl

theorem resolveMatched_leads (h : v.Leads cfg.assets assets) (record : TxRecord) (tx : RpcTransaction) (loop : InputLoop)
    (matched : MatchedCell) :
    resolveMatched { cfg with assets } env (st.reclassifyAssets v) record tx (v.loop loop) matched =
      (resolveMatched cfg env st record tx loop matched).map v.loop := by
  unfold resolveMatched
  cases tx.inputs[matched.ioIndex.toNat]? with
  | none => rfl
  | some input =>
    dsimp only [SporeScripts.loop]
    rw [resolveInput_leads h, bind_map, map_bind]
    congr 1
    funext x
    obtain ⟨resolved, batch, round⟩ := x
    cases resolved <;> rfl

variable [Sha2]

theorem extract_leads (h : v.Leads cfg.assets assets) (txHash : H256) (outputs : List CellOutput) (datas : List Bytes)
    (inputs : List ResolvedInput) (block : BlockContext) :
    extract cfg.protocol assets txHash outputs datas inputs block =
      (extract cfg.protocol cfg.assets txHash outputs datas inputs block).map fun x => { x with cells := x.cells.map v.cell } := by
  unfold extract
  dsimp only
  split
  · rfl
  · simp only [Except.map, List.map_map, buildNewCell_leads h]
    rfl

theorem processTransaction_leads (h : v.Leads cfg.assets assets) (record : TxRecord) (block : BlockContext)
    (withStatus : TransactionWithStatus) (batch : IndexBatch) (round : ScanRound) :
    processTransaction { cfg with assets } env (st.reclassifyAssets v) record block withStatus (v.batch batch) round =
      (processTransaction cfg env st record block withStatus batch round).map v.pass := by
  unfold processTransaction
  cases withStatus.transaction with
  | none => rfl
  | some tx =>
    dsimp only
    have hloop : (matchedInputs record).foldlM (resolveMatched { cfg with assets } env (st.reclassifyAssets v) record tx)
          ([], v.batch batch, round) =
        ((matchedInputs record).foldlM (resolveMatched cfg env st record tx) ([], batch, round)).map v.loop :=
      foldlM_map (fun loop matched => resolveMatched_leads h record tx loop matched) _ ([], batch, round)
    rw [hloop, bind_map, map_bind]
    congr 1
    funext x
    obtain ⟨inputs, batch, round⟩ := x
    dsimp only [SporeScripts.loop]
    rw [extract_leads h]
    cases extract cfg.protocol cfg.assets record.txHash tx.outputs tx.outputsData inputs block with
    | error e => rfl
    | ok extracted =>
      refine congrArg Except.ok ?_
      simp only [SporeScripts.pass, SporeScripts.batch, List.map_append]

theorem processRecord_leads (h : v.Leads cfg.assets assets) (headers : List (UInt64 × RpcHeader)) (x : IndexBatch × ScanRound)
    (record : TxRecord) :
    processRecord { cfg with assets } env (st.reclassifyAssets v) headers (v.pass x) record =
      (processRecord cfg env st headers x record).map v.pass := by
  unfold processRecord
  rw [map_bind]
  congr 1
  funext reply
  cases reply with
  | none => rfl
  | some withStatus =>
    dsimp only
    cases headerOf headers record.blockNumber with
    | none => rfl
    | some header => exact processTransaction_leads h record _ withStatus x.1 x.2

/-- The reading half: the same round, and the batch relabelled. -/
theorem buildRound_leads (h : v.Leads cfg.assets assets) (state : StreamState) (chainTip target : UInt64) :
    buildRound { cfg with assets } env (st.reclassifyAssets v) state chainTip target =
      (buildRound cfg env st state chainTip target).map v.pass := by
  unfold buildRound
  rw [map_bind]
  congr 1
  funext _
  dsimp only
  rw [map_bind]
  congr 1
  funext records
  rw [map_bind]
  congr 1
  funext headers
  have hrecords : ∀ x : IndexBatch × ScanRound,
      records.foldlM (processRecord { cfg with assets } env (st.reclassifyAssets v) headers) (v.pass x) =
        (records.foldlM (processRecord cfg env st headers) x).map v.pass :=
    foldlM_map (processRecord_leads h headers) records
  have hstart := hrecords ({ chainTip := chainTip.toInt64, target := target.toInt64, reorgLag := cfg.ckb.reorgLag.toInt64 },
    { fromBlock := rangeFrom cfg state.lastBlockNumber, toBlock := rangeTo cfg target (rangeFrom cfg state.lastBlockNumber),
      chainTip, target, transactions := records.length })
  rw [map_bind]
  refine (congrArg (fun x => x >>= _) hstart).trans ?_
  rw [bind_map]
  congr 1
  funext x
  rw [map_bind]
  rfl

/-- A round, and whether it fails. -/
theorem scanOnce_leads (h : v.Leads cfg.assets assets) :
    (scanOnce { cfg with assets } env (st.reclassifyAssets v)).2 = (scanOnce cfg env st).2.reclassifyAssets v ∧
      ∀ e, (scanOnce { cfg with assets } env (st.reclassifyAssets v)).1 = .error e ↔ (scanOnce cfg env st).1 = .error e := by
  unfold scanOnce
  cases env.faults.initStream with
  | some e => exact ⟨rfl, fun _ => Iff.rfl⟩
  | none =>
    have hinit : (st.reclassifyAssets v).insertStream CKB_STREAM cfg.ckb.startBlock env.now =
        (st.insertStream CKB_STREAM cfg.ckb.startBlock env.now).reclassifyAssets v := rfl
    dsimp only
    rw [hinit]
    generalize st.insertStream CKB_STREAM cfg.ckb.startBlock env.now = st
    have hstate : (st.reclassifyAssets v).getStreamState CKB_STREAM = st.getStreamState CKB_STREAM := rfl
    rw [hstate]
    cases env.faults.getStreamState with
    | some e => exact ⟨rfl, fun _ => Iff.rfl⟩
    | none =>
      cases st.getStreamState CKB_STREAM with
      | none => exact ⟨rfl, fun _ => Iff.rfl⟩
      | some state =>
        dsimp only
        cases env.replies.syncedTip with
        | error e => exact ⟨rfl, fun _ => Iff.rfl⟩
        | ok chainTip =>
          dsimp only
          cases env.faults.recordChainProgress with
          | some e => exact ⟨rfl, fun _ => Iff.rfl⟩
          | none =>
            dsimp only
            have htarget : Config.safeCkbTarget { cfg with assets } chainTip = cfg.safeCkbTarget chainTip := rfl
            rw [htarget]
            cases cfg.safeCkbTarget chainTip with
            | none => exact ⟨rfl, fun _ => Iff.rfl⟩
            | some target =>
              have hprogress : (st.reclassifyAssets v).recordChainProgress CKB_STREAM chainTip target cfg.ckb.reorgLag env.now =
                  (st.recordChainProgress CKB_STREAM chainTip target cfg.ckb.reorgLag env.now).reclassifyAssets v := rfl
              dsimp only
              rw [hprogress]
              by_cases hidle : target.toInt64 ≤ state.lastBlockNumber
              · rw [if_pos hidle, if_pos hidle]
                exact ⟨rfl, fun _ => Iff.rfl⟩
              · rw [if_neg hidle, if_neg hidle, buildRound_leads h]
                generalize st.recordChainProgress CKB_STREAM chainTip target cfg.ckb.reorgLag env.now = st
                cases buildRound cfg env st state chainTip target with
                | error e => exact ⟨rfl, fun _ => Iff.rfl⟩
                | ok built => exact commitRound_leads built.1 built.2

/-- **A pass of the scanner with the second configuration on relabelled rows is the pass with the first, relabelled.** -/
theorem scannerStep_reclassifyAssets (h : v.Leads cfg.assets assets) (errorText : IndexerError → String) :
    scannerStep { cfg with assets } env errorText (st.reclassifyAssets v) = (scannerStep cfg env errorText st).reclassifyAssets v := by
  have hround : (scanOnce { cfg with assets } env (st.reclassifyAssets v)).2 = (scanOnce cfg env st).2.reclassifyAssets v ∧
      ∀ e, (scanOnce { cfg with assets } env (st.reclassifyAssets v)).1 = .error e ↔ (scanOnce cfg env st).1 = .error e :=
    scanOnce_leads h
  obtain ⟨hstore, herror⟩ := hround
  unfold scannerStep
  generalize scanOnce { cfg with assets } env (st.reclassifyAssets v) = round' at hstore herror ⊢
  generalize scanOnce cfg env st = round at hstore herror ⊢
  obtain ⟨result, after⟩ := round
  obtain ⟨result', after'⟩ := round'
  dsimp only at hstore herror
  rw [hstore]
  cases result with
  | ok done =>
    cases result' with
    | ok done' => rfl
    | error e' => cases (herror e').mp rfl
  | error e =>
    rw [(herror e).mpr rfl]
    dsimp only
    cases env.faults.setStreamError with
    | some _ => rfl
    | none => rfl

end

/-! ## The script at any moment of a run -/

namespace SameCkb

variable {st st' st'' : Store}

theorem symm (h : SameCkb st st') : SameCkb st' st := ⟨h.state.symm, h.blocks.symm, h.cells.symm, fun k => (h.transitions k).symm⟩

theorem trans (h : SameCkb st st') (h' : SameCkb st' st'') : SameCkb st st'' :=
  ⟨h.state.trans h'.state, h.blocks.trans h'.blocks, h.cells.trans h'.cells, fun k => (h.transitions k).trans (h'.transitions k)⟩

theorem reclassifyAssets (h : SameCkb st st') (v : SporeScripts) : SameCkb (st.reclassifyAssets v) (st'.reclassifyAssets v) := by
  rw [v.reclassifyAssets_eq, v.reclassifyAssets_eq, h.cells]
  exact ⟨h.state, h.blocks, rfl, h.transitions⟩

end SameCkb

namespace System

variable [Sha2] {cfg : Config} {errorText : IndexerError → String} {st st' : Store}

/-- What is the same about CKB stays the same in the same run. -/
theorem sameCkb_foldl (h : SameCkb st st') (events : List Event) :
    SameCkb (events.foldl (apply cfg errorText) st) (events.foldl (apply cfg errorText) st') := by
  induction events generalizing st st' with
  | nil => exact h
  | cons event events ih =>
    refine ih ?_
    cases hevent : event.isScan with
    | true => exact sameCkb_of_visible hevent h
    | false => exact (sameCkb_of_hidden hevent (sameCkb_of_hidden hevent h.symm).symm)

variable {v : SporeScripts} {assets : AssetScripts}

/-- One event under both configurations. -/
theorem sameCkb_apply_leads (hleads : v.Leads cfg.assets assets) (event : Event) (h : SameCkb (st.reclassifyAssets v) st') :
    SameCkb ((apply cfg errorText st event).reclassifyAssets v) (apply { cfg with assets } errorText st' event) := by
  cases hevent : event.isScan with
  | true =>
    obtain ⟨env, rfl⟩ := Event.isScan_eq_true.mp hevent
    have hpass : SameCkb (scannerStep { cfg with assets } env errorText (st.reclassifyAssets v))
        (scannerStep { cfg with assets } env errorText st') := scannerStep_congr h
    rw [scannerStep_reclassifyAssets hleads] at hpass
    exact hpass
  | false =>
    have hleft : SameCkb (apply cfg errorText st event) st := sameCkb_of_hidden hevent (.refl st)
    have hright : SameCkb (apply { cfg with assets } errorText st' event) st' := sameCkb_of_hidden hevent (.refl st')
    exact ((hleft.reclassifyAssets v).trans h).trans hright.symm

/-- A run under both configurations. -/
theorem sameCkb_leads (hleads : v.Leads cfg.assets assets) (events : List Event) (h : SameCkb (st.reclassifyAssets v) st') :
    SameCkb ((events.foldl (apply cfg errorText) st).reclassifyAssets v) (events.foldl (apply { cfg with assets } errorText) st') := by
  induction events generalizing st st' with
  | nil => exact h
  | cons event events ih => exact ih (sameCkb_apply_leads hleads event h)

/-- **The script does what a full resync does**: run at any moment after the larger configuration is in place, it leaves what
that configuration would have made of the whole run, and stays with it. The spore script is not one that was configured as
a cluster: such cells have their kind. -/
theorem reclassified_as_resynced (cfg : Config) (errorText : IndexerError → String) (spore cluster : H256)
    (hashType : ScriptHashType) (hnew : ⟨spore, hashType⟩ ∉ cfg.assets.sporeCluster) (events meanwhile rest : List Event) :
    SameCkb
      (rest.foldl (apply (cfg.withSpores spore cluster hashType) errorText)
        ((meanwhile.foldl (apply (cfg.withSpores spore cluster hashType) errorText) (after cfg errorText events)).reclassifyAssets
          (.of spore cluster hashType)))
      (after (cfg.withSpores spore cluster hashType) errorText (events ++ meanwhile ++ rest)) := by
  have hleads : (SporeScripts.of spore cluster hashType).Leads cfg.assets (cfg.assets.withSpores spore cluster hashType) :=
    cellBody_withSpores spore cluster hashType hnew
  -- what the larger configuration writes, the script leaves
  have hself : (SporeScripts.of spore cluster hashType).Leads (cfg.withSpores spore cluster hashType).assets
      (cfg.assets.withSpores spore cluster hashType) := by
    intro binding output data
    show cellBody (cfg.assets.withSpores spore cluster hashType) binding output data =
      (SporeScripts.of spore cluster hashType).body (cellBody (cfg.assets.withSpores spore cluster hashType) binding output data)
    rw [hleads, SporeScripts.body_body]
  have hstart : SameCkb (Store.empty.reclassifyAssets (.of spore cluster hashType)) .empty := .refl .empty
  unfold after
  rw [List.foldl_append, List.foldl_append]
  exact sameCkb_foldl (sameCkb_leads hself meanwhile (sameCkb_leads hleads events hstart)) rest

end System

/-! ## A spore indexed too early -/

namespace Sample

/-- mirrors scripts/reclassify-assets.sql:54-56 -/
def sporeScript : Script where
  codeHash := ⟨⟨[0x68, 0x5a, 0x60, 0x21, 0x93, 0x09, 0x02, 0x9d, 0x01, 0x31, 0x03, 0x11, 0xdb, 0xa9, 0x53, 0xd6,
    0x70, 0x29, 0x17, 0x0c, 0xa4, 0x84, 0x8a, 0x4f, 0xf6, 0x38, 0xe5, 0x70, 0x02, 0x13, 0x0a, 0x0d], rfl⟩⟩
  hashType := .data1
  args := []

def clusterCodeHash : H256 := ⟨⟨[0x0b, 0xbe, 0x76, 0x8b, 0x51, 0x9d, 0x8e, 0xa7, 0xb9, 0x6d, 0x58, 0xf1, 0x18, 0x2e, 0xb7, 0xe6,
  0xef, 0x96, 0xc5, 0x41, 0xfb, 0xd9, 0x52, 0x69, 0x75, 0x07, 0x7e, 0xe0, 0x9f, 0x04, 0x90, 0x58], rfl⟩⟩

/-- The issuance of a spore, in the second block. -/
def sporeChain : Chain :=
  .ofBlocks [block 0 [], block 1 [],
    block 2 [{ issuance with outputs := [{ (boundOutput 142 btcTxid).cell with type_ := some sporeScript }] }]] (by decide +kernel)

/-- The block is scanned; scanned again, it is nothing new. -/
def sporeScan [Sha2] : List System.Event := [.write (.scan (env (sporeChain.serve 2)))]

/-- What the spore's row says it is. -/
def sporeKind (st : Store) : Option AssetKind := (st.rgbppCells.get? cell.key).map fun r => r.assetKind

end Sample

section
local instance sporeSampleHash : Sha2 := .standard

open Sample in
/-- Its row says `unknown`; after the script it says what the resync says. -/
theorem reclassified_as_resynced_spore :
    let before := System.after (.testnet 64) (fun _ => "") sporeScan
    let larger := (Config.testnet 64).withSpores sporeScript.codeHash clusterCodeHash .data1
    sporeKind before = some .unknown ∧
      sporeKind (before.reclassifyAssets (.of sporeScript.codeHash clusterCodeHash .data1)) = some .spore ∧
      SameCkb
        (sporeScan.foldl (System.apply larger fun _ => "")
          ((sporeScan.foldl (System.apply larger fun _ => "") before).reclassifyAssets
            (.of sporeScript.codeHash clusterCodeHash .data1)))
        (System.after larger (fun _ => "") (sporeScan ++ sporeScan ++ sporeScan)) :=
  ⟨by decide +kernel, by decide +kernel,
    System.reclassified_as_resynced (.testnet 64) (fun _ => "") sporeScript.codeHash clusterCodeHash .data1 List.not_mem_nil
      sporeScan sporeScan sporeScan⟩

end
end RgbppIndexer
