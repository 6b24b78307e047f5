import RgbppIndexer.Chain.Serve
import RgbppIndexer.Ckb.Rpc
import RgbppIndexer.Indexer.Transition
import RgbppIndexer.Scan.Runs

/-!
# A chain over the wire

What the scanner indexes when the node and the rich indexer are reached by
JSON-RPC, and everything they say of the chain is so.

**Truth (`NodeTruthful`, `IndexerTruthful`, hypotheses about the servers).**
A result that is no error describes the chain: numbers, hashes and bytes stand
in their fields, whatever else a body holds. A server may fail at any attempt,
refuse any question, send a body that is no JSON, and leave transactions out
of a search; `ListsAll` is that the rich indexer leaves out nothing below its tip.

**Results.**
* `CkbClient.serves`, `CkbClient.servesCells`: the answers a client reads are about the chain.
* `CkbClient.lookup_finds`, `CkbClient.lookup_none`: so a point lookup finds the live cells it asks for.
* `indexed_over_wire`: the tables after any run of scan rounds hold the chain's
  cells and transitions, and every one of them if the rich indexer lists all.
* `node_truthful`, `indexer_truthful`, `lists_all_of_complete`: whatever serves a
  chain can be put on the wire, so every chain has servers that tell the truth of it.
-/
namespace RgbppIndexer

open RgbppIndexer.Core

/-! ## Truth -/

/-- What the node says is about the chain, and it denies no block up to a tip it reports. -/
structure NodeTruthful (ch : Chain) (node : Endpoint) : Prop where
  tip : ∀ j, node.Says "get_tip_block_number" (.arr []) j → ∃ tip : UInt64, j = uint64Json tip ∧ tip.toNat < ch.blocks.length
  header : ∀ number j, node.Says "get_header_by_number" (.arr [uint64Json number]) j →
    (∃ b, ch.blocks[number.toNat]? = some b ∧ HeaderBody j b.header) ∨
      j = .null ∧ ∀ tip, node.Says "get_tip_block_number" (.arr []) (uint64Json tip) → tip < number
  transaction : ∀ l j, ch.Holds l → node.Says "get_transaction" (CkbClient.transactionParams l.tx.hash) j →
    TransactionWithStatusBody j l.committed ∨
      ∀ tip, node.Says "get_tip_block_number" (.arr []) (uint64Json tip) → tip.toNat < l.height

/-- Every record the rich indexer lists is a true match, and the live cells it lists are live. -/
structure IndexerTruthful (ch : Chain) (live : List LiveCellRecord) (indexer : Endpoint) : Prop where
  page : ∀ script fromBlock toBlock limit cursor j,
    indexer.Says "get_transactions" (CkbClient.pageParams (rangeSearch script fromBlock toBlock) .asc limit cursor) j →
      ∃ page : Pagination, PageBody TxRecordBody j page.objects page.lastCursor ∧
        ∀ record ∈ page.objects, ∃ l, TrueRecord ch script l record
  cells : ∀ script limit j, indexer.Says "get_cells" (CkbClient.pageParams (.lockExact script) .asc limit none) j →
    ∃ lastCursor, PageBody CellRecordBody j (exactCells live script limit) lastCursor

/-- The pages of a search cut up a list. -/
def PagedOver (indexer : Endpoint) (key : SearchKey) (list : List TxRecord) : Prop :=
  ∃ position : Option String → Nat, position none = 0 ∧
    ∀ limit cursor j, indexer.Says "get_transactions" (CkbClient.pageParams key .asc limit cursor) j →
      ∃ page : Pagination, PageBody TxRecordBody j page.objects page.lastCursor ∧
        page.objects = (list.drop (position cursor)).take limit.toNat ∧
        (page.lastCursor ≠ [] → position (some (bytesToHex page.lastCursor)) = position cursor + page.objects.length) ∧
        (page.lastCursor = [] → list.length ≤ position cursor + limit.toNat)

/-- The rich indexer reports a tip, and up to it lists every true match of a range. -/
structure ListsAll (ch : Chain) (indexer : Endpoint) : Prop where
  tip : ∀ j, indexer.Says "get_indexer_tip" (.arr []) j → ∃ t, IndexerTipBody j t
  lists : ∀ t j, indexer.Says "get_indexer_tip" (.arr []) j → IndexerTipBody j t →
    ∀ script fromBlock toBlock, toBlock ≤ t.blockNumber →
      ∃ list, PagedOver indexer (rangeSearch script fromBlock toBlock) list ∧
        ∀ l c, ch.Holds l → fromBlock.toNat ≤ l.height → l.height ≤ toBlock.toNat → TrueMatch ch script l c →
          ∃ record ∈ list, TrueRecord ch script l record ∧ c ∈ record.cells

/-! ## What the client reads -/

namespace CkbClient

variable {c : CkbClient} {ch : Chain} {live : List LiveCellRecord}

/-- An answer there is says so. -/
theorem says_of_option {α : Type} {endpoint : Endpoint} {method : String} {params : Json} {read : Json → Option α} {a : α}
    (h : c.ask endpoint method params (Json.option read) = .ok (some a)) :
    ∃ j, endpoint.Says method params j ∧ j ≠ .null ∧ read j = some a := by
  obtain ⟨j, hsays, hread⟩ := says_of_ask h
  refine ⟨j, hsays, ?_, ?_⟩
  · rintro rfl
    cases hread
  · cases j with
    | null => cases hread
    | _ =>
      obtain ⟨b, hb, hsome⟩ := Option.map_eq_some_iff.mp hread
      rw [hb, Option.some.inj hsome]

/-- A tip that is read is the one the node says, a block of the chain. -/
theorem tip_of_ask {tip : UInt64} (h : NodeTruthful ch c.node) (htip : c.replies.getTipBlockNumber = .ok tip) :
    c.node.Says "get_tip_block_number" (.arr []) (uint64Json tip) ∧ tip.toNat < ch.blocks.length := by
  obtain ⟨j, hsaid, hread⟩ := says_of_ask htip
  obtain ⟨said, rfl, hlt⟩ := h.tip j hsaid
  rw [readUint64_uint64Json] at hread
  obtain rfl := Option.some.inj hread
  exact ⟨hsaid, hlt⟩

theorem node_serves (h : NodeTruthful ch c.node) : NodeServes ch c.replies where
  tip_lt := by
    intro tip htip
    exact (tip_of_ask h htip).2
  header_sound := by
    intro n header hheader
    obtain ⟨j, hsays, hnull, hread⟩ := says_of_option hheader
    rcases h.header n j hsays with ⟨b, hb, hbody⟩ | ⟨rfl, -⟩
    · rw [readHeader_of j _ hbody] at hread
      exact ⟨b, hb, Option.some.inj hread⟩
    · exact absurd rfl hnull
  header_complete := by
    intro tip n htip hle hnone
    have hsaysTip := (tip_of_ask h htip).1
    obtain ⟨j, hsays, hread⟩ := says_of_ask hnone
    rcases h.header n j hsays with ⟨b, hb, hbody⟩ | ⟨rfl, habove⟩
    · rw [Json.option_of rfl (readHeader_of j _ hbody)] at hread
      cases hread
    · have hlt := habove tip hsaysTip
      exact absurd hle (UInt64.not_le.mpr hlt)
  transaction := by
    intro tip l reply htip hl hheight hreply
    have hsaysTip := (tip_of_ask h htip).1
    obtain ⟨j, hsays, hread⟩ := says_of_ask hreply
    rcases h.transaction l j hl hsays with hbody | habove
    · rw [Json.option_of rfl (readTransactionWithStatus_of j _ hbody)] at hread
      exact (Option.some.inj hread).symm
    · have hlt := habove tip hsaysTip
      omega

theorem serves (hnode : NodeTruthful ch c.node) (hindexer : IndexerTruthful ch live c.indexer) : Serves ch c.replies where
  node := node_serves hnode
  indexer := by
    intro script fromBlock toBlock limit cursor page hpage
    obtain ⟨j, hsays, hread⟩ := says_of_ask hpage
    obtain ⟨page', hbody, htrue⟩ := hindexer.page _ _ _ _ _ j hsays
    rw [readTxPage_of j page' hbody] at hread
    rwa [← Option.some.inj hread]

/-- The live cells too. -/
theorem servesCells (hindexer : IndexerTruthful ch live c.indexer) : ServesCells live c.getCells := by
  intro script limit records hrecords
  unfold getCells at hrecords
  obtain ⟨page, hpage, hrest⟩ := bind_eq_ok.mp hrecords
  obtain ⟨j, hsays, hread⟩ := says_of_ask hpage
  obtain ⟨lastCursor, hbody⟩ := hindexer.cells _ _ j hsays
  rw [readPagination_of readCellRecord_of hbody] at hread
  rw [← Option.some.inj hread, pure_eq_ok] at hrest
  exact hrest.symm

section
variable {p : ProtocolScripts} {txid : BtcTxid} {voutCount : UInt32} {cells : List CkbOutPoint}

/-- A point lookup over the wire finds what the searches list of the live cells. -/
theorem lookup_finds (hindexer : IndexerTruthful ch live c.indexer)
    (h : pointLookupCells p c.getCells txid voutCount = .ok cells) (op : CkbOutPoint) :
    op ∈ cells ↔ ∃ cell, Listed p live txid voutCount cell ∧ cell.outPoint = op :=
  mem_pointLookupCells (servesCells hindexer) h

/-- It comes back empty only if no live cell stands under a lock it asks for. -/
theorem lookup_none (hindexer : IndexerTruthful ch live c.indexer)
    (h : pointLookupCells p c.getCells txid voutCount = .ok cells) :
    cells = [] ↔ ∀ cell ∈ live, ¬ Searched p txid voutCount cell.output.lock :=
  pointLookupCells_eq_nil (servesCells hindexer) h

end

theorem reports_tip (h : ListsAll ch c.indexer) : c.replies.getIndexerTip ≠ .ok none := by
  intro hnone
  obtain ⟨j, hsays, hread⟩ := says_of_ask hnone
  obtain ⟨t, hbody⟩ := h.tip j hsays
  rw [Json.option_of rfl (readIndexerTip_of j t hbody)] at hread
  cases hread

theorem lists_all (h : ListsAll ch c.indexer) : IndexerComplete ch c.replies := by
  intro t ht script fromBlock toBlock hle
  obtain ⟨jtip, hsaysTip, hreadTip⟩ := says_of_ask ht
  obtain ⟨t', hbodyTip⟩ := h.tip jtip hsaysTip
  rw [Json.option_of rfl (readIndexerTip_of jtip t' hbodyTip)] at hreadTip
  obtain rfl := Option.some.inj (Option.some.inj hreadTip)
  obtain ⟨list, ⟨position, hnone, hpages⟩, hall⟩ := h.lists t' jtip hsaysTip hbodyTip script fromBlock toBlock hle
  refine ⟨list, ⟨position, hnone, ?_⟩, hall⟩
  intro limit cursor page hpage
  obtain ⟨j, hsays, hread⟩ := says_of_ask hpage
  obtain ⟨page', hbody, hcut⟩ := hpages limit cursor j hsays
  rw [readTxPage_of j page' hbody] at hread
  rwa [← Option.some.inj hread]

end CkbClient

/-! ## Servers that tell the truth -/

def headerJson (h : RpcHeader) : Json :=
  .obj [("hash", h256Json h.hash), ("number", uint64Json h.number), ("parent_hash", h256Json h.parentHash),
    ("timestamp", uint64Json h.timestamp), ("epoch", uint64Json 0)]

def outPointJson (o : CkbOutPoint) : Json := .obj [("tx_hash", h256Json o.txHash), ("index", uint32Json o.index)]

def cellInputJson (i : RpcCellInput) : Json :=
  .obj [("previous_output", outPointJson i.previousOutput), ("since", uint64Json 0)]

def orNull {α : Type} (write : α → Json) : Option α → Json
  | none => .null
  | some a => write a

def cellOutputJson (o : CellOutput) : Json :=
  .obj [("capacity", uint64Json o.capacity), ("lock", scriptJson o.lock), ("type", orNull scriptJson o.type_)]

def transactionJson (t : RpcTransaction) : Json :=
  .obj [("hash", h256Json t.hash), ("version", uint32Json 0), ("cell_deps", .arr []), ("inputs", .arr (t.inputs.map cellInputJson)),
    ("outputs", .arr (t.outputs.map cellOutputJson)), ("outputs_data", .arr (t.outputsData.map bytesJson))]

def txStatusJson (s : TxStatus) : Json :=
  .obj [("status", .str s.status.asStr), ("block_hash", orNull h256Json s.blockHash),
    ("block_number", orNull uint64Json s.blockNumber), ("reason", .null)]

def transactionWithStatusJson (t : TransactionWithStatus) : Json :=
  .obj [("transaction", orNull transactionJson t.transaction), ("tx_status", txStatusJson t.txStatus)]

def txRecordJson (r : TxRecord) : Json :=
  .obj [("tx_hash", h256Json r.txHash), ("block_number", uint64Json r.blockNumber), ("tx_index", uint32Json r.txIndex),
    ("cells", .arr (r.cells.map matchedCellJson))]

def cellRecordJson (c : LiveCellRecord) : Json :=
  .obj [("out_point", outPointJson c.outPoint), ("output", cellOutputJson c.output),
    ("output_data", orNull bytesJson c.outputData), ("block_number", uint64Json c.blockNumber), ("tx_index", uint32Json c.txIndex)]

def pageJson {α : Type} (write : α → Json) (objects : List α) (lastCursor : Bytes) : Json :=
  .obj [("objects", .arr (objects.map write)), ("last_cursor", bytesJson lastCursor)]

def indexerTipJson (t : IndexerTip) : Json :=
  .obj [("block_hash", h256Json t.blockHash), ("block_number", uint64Json t.blockNumber)]

theorem lists_map {α : Type} {describes : Json → α → Prop} {write : α → Json} (h : ∀ a, describes (write a) a) (as : List α) :
    Json.Lists describes as (some (.arr (as.map write))) :=
  ⟨_, rfl, List.forall₂_map_left_iff.mpr (List.forall₂_same.mpr fun a _ => h a)⟩

theorem holds_orNull {α : Type} {describes : Json → α → Prop} {write : α → Json} (h : ∀ a, describes (write a) a) (a : Option α) :
    Json.Holds describes a (some (orNull write a)) := by
  cases a with
  | none => exact .inr rfl
  | some a => exact ⟨_, rfl, h a⟩

theorem written_orNull {α : Type} (write : α → Json) (a : Option α) :
    Json.Holds (fun j a => j = write a) a (some (orNull write a)) :=
  @holds_orNull α (fun j a => j = write a) write (fun _ => rfl) a

theorem headerBody_headerJson (h : RpcHeader) : HeaderBody (headerJson h) h := ⟨rfl, rfl, rfl, rfl, 0, rfl⟩

theorem scriptBody_scriptJson (s : Script) : ScriptBody (scriptJson s) s := ⟨rfl, rfl, rfl⟩

theorem outPointBody_outPointJson (o : CkbOutPoint) : OutPointBody (outPointJson o) o := ⟨rfl, rfl⟩

theorem cellInputBody_cellInputJson (i : RpcCellInput) : CellInputBody (cellInputJson i) i :=
  ⟨⟨_, rfl, outPointBody_outPointJson _⟩, 0, rfl⟩

theorem cellOutputBody_cellOutputJson (o : CellOutput) : CellOutputBody (cellOutputJson o) o :=
  ⟨rfl, ⟨_, rfl, scriptBody_scriptJson _⟩, holds_orNull scriptBody_scriptJson _⟩

theorem transactionBody_transactionJson (t : RpcTransaction) : TransactionBody (transactionJson t) t :=
  ⟨rfl, ⟨0, rfl⟩, lists_map cellInputBody_cellInputJson _, lists_map cellOutputBody_cellOutputJson _, rfl⟩

theorem txStatusBody_txStatusJson (s : TxStatus) : TxStatusBody (txStatusJson s) s :=
  ⟨rfl, written_orNull _ _, written_orNull _ _, none, .inr rfl⟩

theorem transactionWithStatusBody_json (t : TransactionWithStatus) :
    TransactionWithStatusBody (transactionWithStatusJson t) t :=
  ⟨holds_orNull transactionBody_transactionJson _, _, rfl, txStatusBody_txStatusJson _⟩

theorem txRecordBody_txRecordJson (r : TxRecord) : TxRecordBody (txRecordJson r) r := ⟨rfl, rfl, rfl, rfl⟩

theorem cellRecordBody_cellRecordJson (c : LiveCellRecord) : CellRecordBody (cellRecordJson c) c :=
  ⟨⟨_, rfl, outPointBody_outPointJson _⟩, ⟨_, rfl, cellOutputBody_cellOutputJson _⟩, written_orNull _ _, rfl, rfl⟩

theorem pageBody_pageJson {α : Type} {describes : Json → α → Prop} {write : α → Json} (h : ∀ a, describes (write a) a)
    (objects : List α) (lastCursor : Bytes) : PageBody describes (pageJson write objects lastCursor) objects lastCursor :=
  ⟨lists_map h objects, rfl⟩

theorem indexerTipBody_indexerTipJson (t : IndexerTip) : IndexerTipBody (indexerTipJson t) t := ⟨rfl, rfl⟩

/-- The node of these answers. -/
def nodeResult (r : Replies) (method : String) (params : Json) : Except CkbError Json :=
  if method = "get_tip_block_number" then r.getTipBlockNumber.map uint64Json
  else
    match params with
    | .arr (.str text :: _) =>
      if method = "get_header_by_number" then
        match readUint64 (.str text) with
        | some number => (r.getHeaderByNumber number).map (orNull headerJson)
        | none => .error (.payload method "")
      else
        match readH256 (.str text) with
        | some hash => (r.getTransaction hash).map (orNull transactionWithStatusJson)
        | none => .error (.payload method "")
    | _ => .error (.payload method "")

/-- The cursor a page is asked for, if any. -/
def cursorOf : List Json → Option String
  | [.str cursor] => some cursor
  | _ => none

/-- The rich indexer of these answers. -/
def indexerResult (r : Replies) (getCells : CellReplies) (method : String) (params : Json) : Except CkbError Json :=
  if method = "get_indexer_tip" then r.getIndexerTip.map (orNull indexerTipJson)
  else
    match params with
    | .arr (key :: _ :: limit :: after) =>
      match readSearchKey key, readUint32 limit with
      | some key, some limit =>
        if method = "get_transactions" then
          (r.getTransactionsPage key .asc limit (cursorOf after)).map fun page =>
            pageJson txRecordJson page.objects page.lastCursor
        else (getCells key limit).map fun records => pageJson cellRecordJson records []
      | _, _ => .error (.payload method "")
    | _ => .error (.payload method "")

/-- A server that sends what there is to send, and breaks off otherwise. -/
def serverOf (result : String → Json → Except CkbError Json) : Endpoint := fun body _ =>
  match body.field? "method", body.field? "params" with
  | some (.str method), some params =>
    match result method params with
    | .ok j => .answered 200 "" (.ok (.obj [("jsonrpc", .str "2.0"), ("result", j)]))
    | .error _ => .failed "connection reset"
  | _, _ => .answered 400 "bad request" (.error "")

theorem says_serverOf {result : String → Json → Except CkbError Json} {method : String} {params j : Json} :
    (serverOf result).Says method params j ↔ result method params = .ok j := by
  have hreply : ∀ id attempt, JsonRpc.Says j (serverOf result (JsonRpc.requestBody id method params) attempt) ↔
      result method params = .ok j := by
    intro id attempt
    show JsonRpc.Says j (match result method params with | .ok j => _ | .error _ => _) ↔ _
    cases result method params with
    | error e => simp [JsonRpc.Says]
    | ok j' =>
      have hresult : (Json.obj [("jsonrpc", .str "2.0"), ("result", j')]).field? "result" = some j' := rfl
      have herror : (Json.obj [("jsonrpc", .str "2.0"), ("result", j')]).field? "error" = none := rfl
      simp [JsonRpc.Says, JsonRpc.isErrorStatus, hresult, herror]
  unfold Endpoint.Says
  simp only [hreply, exists_const]

section
variable {r : Replies} {getCells : CellReplies} {ch : Chain} {live : List LiveCellRecord}

theorem says_tip {j : Json} : (serverOf (nodeResult r)).Says "get_tip_block_number" (.arr []) j ↔
    ∃ tip, r.getTipBlockNumber = .ok tip ∧ j = uint64Json tip := by
  rw [says_serverOf]
  unfold nodeResult
  rw [if_pos rfl]
  exact map_eq_ok

theorem says_header {number : UInt64} {j : Json} :
    (serverOf (nodeResult r)).Says "get_header_by_number" (.arr [uint64Json number]) j ↔
      ∃ header, r.getHeaderByNumber number = .ok header ∧ j = orNull headerJson header := by
  have hread := readUint64_uint64Json number
  rw [says_serverOf]
  unfold nodeResult
  rw [if_neg (by decide)]
  unfold uint64Json hexNumberJson at hread ⊢
  dsimp only
  rw [if_pos rfl, hread]
  exact map_eq_ok

theorem says_transaction {hash : H256} {j : Json} :
    (serverOf (nodeResult r)).Says "get_transaction" (CkbClient.transactionParams hash) j ↔
      ∃ reply, r.getTransaction hash = .ok reply ∧ j = orNull transactionWithStatusJson reply := by
  have hread := readH256_h256Json hash
  rw [says_serverOf]
  unfold nodeResult CkbClient.transactionParams
  rw [if_neg (by decide)]
  unfold h256Json at hread ⊢
  dsimp only
  rw [if_neg (by decide), hread]
  exact map_eq_ok

theorem says_indexerTip {j : Json} : (serverOf (indexerResult r getCells)).Says "get_indexer_tip" (.arr []) j ↔
    ∃ tip, r.getIndexerTip = .ok tip ∧ j = orNull indexerTipJson tip := by
  rw [says_serverOf]
  unfold indexerResult
  rw [if_pos rfl]
  exact map_eq_ok

theorem says_page {key : SearchKey} {limit : UInt32} {cursor : Option String} {j : Json} :
    (serverOf (indexerResult r getCells)).Says "get_transactions" (CkbClient.pageParams key .asc limit cursor) j ↔
      ∃ page, r.getTransactionsPage key .asc limit cursor = .ok page ∧ j = pageJson txRecordJson page.objects page.lastCursor := by
  rw [says_serverOf]
  unfold indexerResult
  rw [if_neg (by decide)]
  cases cursor with
  | none =>
    dsimp only [CkbClient.pageParams]
    rw [readSearchKey_searchKeyJson, readUint32_uint32Json]
    dsimp only [cursorOf]
    rw [if_pos rfl]
    exact map_eq_ok
  | some cursor =>
    dsimp only [CkbClient.pageParams]
    rw [readSearchKey_searchKeyJson, readUint32_uint32Json]
    dsimp only [cursorOf]
    rw [if_pos rfl]
    exact map_eq_ok

theorem says_cells {key : SearchKey} {limit : UInt32} {j : Json} :
    (serverOf (indexerResult r getCells)).Says "get_cells" (CkbClient.pageParams key .asc limit none) j ↔
      ∃ records, getCells key limit = .ok records ∧ j = pageJson cellRecordJson records [] := by
  rw [says_serverOf]
  unfold indexerResult CkbClient.pageParams
  rw [if_neg (by decide)]
  dsimp only
  rw [readSearchKey_searchKeyJson, readUint32_uint32Json]
  dsimp only
  rw [if_neg (by decide)]
  exact map_eq_ok

/-- A tip it says is the tip there is. -/
theorem tip_of_said {tip : UInt64} (h : (serverOf (nodeResult r)).Says "get_tip_block_number" (.arr []) (uint64Json tip)) :
    r.getTipBlockNumber = .ok tip := by
  obtain ⟨tip', htip, heq⟩ := says_tip.mp h
  rwa [uint64Json_injective heq]

/-- Answers that are about a chain are true when they are sent. -/
theorem node_truthful (h : NodeServes ch r) : NodeTruthful ch (serverOf (nodeResult r)) where
  tip := by
    intro j hsays
    obtain ⟨tip, htip, rfl⟩ := says_tip.mp hsays
    exact ⟨tip, rfl, h.tip_lt tip htip⟩
  header := by
    intro number j hsays
    obtain ⟨header, hheader, rfl⟩ := says_header.mp hsays
    cases header with
    | none =>
      refine .inr ⟨rfl, fun tip htip => UInt64.not_le.mp fun hle => ?_⟩
      exact h.header_complete tip number (tip_of_said htip) hle hheader
    | some header =>
      obtain ⟨b, hb, rfl⟩ := h.header_sound _ _ hheader
      exact .inl ⟨b, hb, headerBody_headerJson _⟩
  transaction := by
    intro l j hl hsays
    obtain ⟨reply, hreply, rfl⟩ := says_transaction.mp hsays
    by_cases hbelow : ∃ tip, r.getTipBlockNumber = .ok tip ∧ l.height ≤ tip.toNat
    · obtain ⟨tip, htip, hle⟩ := hbelow
      rw [h.transaction tip l reply htip hl hle hreply]
      exact .inl (transactionWithStatusBody_json l.committed)
    · refine .inr fun tip htip => ?_
      by_contra hge
      exact hbelow ⟨tip, tip_of_said htip, by omega⟩

theorem indexer_truthful (h : IndexerServes ch r) (hcells : ServesCells live getCells) :
    IndexerTruthful ch live (serverOf (indexerResult r getCells)) where
  page := by
    intro script fromBlock toBlock limit cursor j hsays
    obtain ⟨page, hpage, rfl⟩ := says_page.mp hsays
    exact ⟨page, pageBody_pageJson txRecordBody_txRecordJson _ _, h _ _ _ _ _ page hpage⟩
  cells := by
    intro script limit j hsays
    obtain ⟨records, hrecords, rfl⟩ := says_cells.mp hsays
    rw [← hcells script limit records hrecords]
    exact ⟨[], pageBody_pageJson cellRecordBody_cellRecordJson _ _⟩

/-- And complete ones list all. -/
theorem lists_all_of_complete (h : IndexerComplete ch r) (htip : r.getIndexerTip ≠ .ok none) :
    ListsAll ch (serverOf (indexerResult r getCells)) where
  tip := by
    intro j hsays
    obtain ⟨tip, hreported, rfl⟩ := says_indexerTip.mp hsays
    cases tip with
    | none => exact absurd hreported htip
    | some t => exact ⟨t, indexerTipBody_indexerTipJson t⟩
  lists := by
    intro t j hsays hbody script fromBlock toBlock hle
    obtain ⟨tip, hreported, rfl⟩ := says_indexerTip.mp hsays
    cases tip with
    | none => exact absurd hreported htip
    | some t' =>
      have hsame := (readIndexerTip_of _ _ hbody).symm.trans (readIndexerTip_of _ _ (indexerTipBody_indexerTipJson t'))
      obtain rfl := Option.some.inj hsame
      obtain ⟨list, ⟨position, hnone, hpages⟩, hall⟩ := h t hreported script fromBlock toBlock hle
      refine ⟨list, ⟨position, hnone, fun limit cursor j hpage => ?_⟩, hall⟩
      obtain ⟨page, hanswer, rfl⟩ := says_page.mp hpage
      exact ⟨page, pageBody_pageJson txRecordBody_txRecordJson _ _, hpages limit cursor page hanswer⟩

end

/-- A client of the servers of these answers. -/
def CkbClient.over (r : Replies) (getCells : CellReplies) : CkbClient where
  node := serverOf (nodeResult r)
  indexer := serverOf (indexerResult r getCells)
  idOf _ _ := 1
  readError _ _ := "missing field"

/-! ## What is indexed -/

/-- A round: the client it asks, what the database does, the clock, and how many pages it reads at most. -/
structure WireRound where
  client : CkbClient
  faults : DbFaults
  now : DateTime
  pageFuel : Nat

def WireRound.env (r : WireRound) : ScanEnv where
  replies := r.client.replies
  faults := r.faults
  now := r.now
  pageFuel := r.pageFuel

/-- Whatever the servers of the round say of the chain is so. -/
structure WireRound.Truthful (ch : Chain) (r : WireRound) : Prop where
  node : NodeTruthful ch r.client.node
  indexer : ∃ live, IndexerTruthful ch live r.client.indexer

/-- **What the servers say in JSON is what is indexed.** Over any run of scan rounds, whatever fails, the cells and
transitions are those of some transactions of the chain and the checkpoint is one of its blocks; and if the rich indexer
lists all it should, as far as heights fit their type, they are those of every block up to the checkpoint. -/
theorem indexed_over_wire [Sha2] (cfg : Config) (ch : Chain) (errorText : IndexerError → String) (rounds : List WireRound)
    (htruthful : ∀ r ∈ rounds, r.Truthful ch) :
    (∀ st, (scanner cfg errorText).Run .empty (rounds.map WireRound.env) st → OnChain cfg ch st) ∧
    ((∀ r ∈ rounds, ListsAll ch r.client.indexer) →
      ∀ st, ((scanner cfg errorText).restrict fun s _ => RangeFits cfg s).Run .empty (rounds.map WireRound.env) st →
        Complete cfg ch st) := by
  have hserves : ∀ env ∈ rounds.map WireRound.env, Serves ch env.replies := by
    intro env henv
    obtain ⟨r, hr, rfl⟩ := List.mem_map.mp henv
    obtain ⟨hnode, live, hindexer⟩ := htruthful r hr
    exact CkbClient.serves hnode hindexer
  refine ⟨fun st hrun => OnChain.run hrun hserves, fun hlists st hrun => ?_⟩
  have hall : ∀ env ∈ rounds.map WireRound.env, IndexerComplete ch env.replies ∧ env.replies.getIndexerTip ≠ .ok none := by
    intro env henv
    obtain ⟨r, hr, rfl⟩ := List.mem_map.mp henv
    exact ⟨CkbClient.lists_all (hlists r hr), CkbClient.reports_tip (hlists r hr)⟩
  have hrun' := Lts.run_restrict_iff.mpr ⟨hrun, fun env henv => And.intro (hserves env henv) (hall env henv)⟩
  refine hrun'.keeps (fun s env s' hs hstep => ?_) Complete.init
  obtain ⟨⟨rfl, hfits⟩, hserves, hcomplete, htip⟩ := hstep
  exact hs.step hserves hcomplete htip hfits

namespace Sample

/-- A round over the wire, at the top of the chain. -/
def wireRound : WireRound where
  client := .over (chain.serve 3) (liveReplies [])
  faults := {}
  now := 0
  pageFuel := 10

theorem wireRound_truthful : wireRound.Truthful chain where
  node := node_truthful (Chain.serve_serves (by decide)).node
  indexer := ⟨[], indexer_truthful (Chain.serve_serves (by decide)).indexer (servesCells_liveReplies [])⟩

theorem wireRound_listsAll : ListsAll chain wireRound.client.indexer :=
  lists_all_of_complete (Chain.serve_complete (by decide)) nofun

end Sample

local instance standardSha2OverWire : Sha2 := .standard

theorem indexed_over_wire_sample :
    ∃ st, OnChain (.testnet 64) Sample.chain st ∧ Complete (.testnet 64) Sample.chain st ∧
      (st.rgbppCells.get? Sample.cell.key).isSome = true := by
  have hstep : (scanner (.testnet 64) fun _ => "").step .empty Sample.wireRound.env
      (scannerStep (.testnet 64) Sample.wireRound.env (fun _ => "") .empty) := rfl
  obtain ⟨hon, hcomplete⟩ := indexed_over_wire (.testnet 64) Sample.chain (fun _ => "") [Sample.wireRound]
    (by simpa using Sample.wireRound_truthful)
  refine ⟨_, hon _ (.snoc .nil hstep), hcomplete (by simpa using Sample.wireRound_listsAll) _ (.snoc .nil ⟨hstep, ?_⟩), ?_⟩
  · decide
  · decide +kernel

end RgbppIndexer
