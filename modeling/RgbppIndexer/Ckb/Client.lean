import Mathlib.Data.List.Sort
import RgbppIndexer.Core.Result
import RgbppIndexer.Types.Config

/-!
# The CKB client

`crates/ckb/src/types.rs` and `crates/ckb/src/client.rs`: the payloads of
the node and rich-indexer RPCs, the tip that is safe to read from both, and
the paged collection of a block range.

What the two endpoints answer is a parameter, `Replies`: one answer or
error for each question, so a theorem over every `Replies` is about every
behaviour of node and indexer, outages included.

The page loop has no bound in the source: it ends when a page is short or
carries no cursor. Here it takes a fuel, and running out of it is the error
`unfinished`, which nothing in the source produces.
-/
namespace RgbppIndexer

open RgbppIndexer.Core

/-- mirrors crates/ckb/src/error.rs:6-25. `unfinished` is this model's own: the page loop ran out of fuel. -/
inductive CkbError where
  | transport (msg : String)
  | rpc (method : String) (code : Int) (message : String)
  | payload (method reason : String)
  | decode (e : TypesError)
  | json (msg : String)
  | unfinished
  deriving DecidableEq, Repr

/-! ## Payloads -/

/-- mirrors crates/ckb/src/types.rs:59-62 -/
inductive ScriptType where
  | lock | type
  deriving DecidableEq, Repr

/-- mirrors crates/ckb/src/types.rs:66-72 -/
inductive ScriptSearchMode where
  | byPrefix | exact | partialMatch
  deriving DecidableEq, Repr

/-- mirrors crates/ckb/src/types.rs:76-79 -/
inductive Order where
  | asc | desc
  deriving DecidableEq, Repr

/-- mirrors crates/ckb/src/types.rs:83-86 -/
inductive IoType where
  | input | output
  deriving DecidableEq, Repr

/-- mirrors crates/ckb/src/types.rs:104-115. The only filter the program sets is the block range. -/
structure SearchKey where
  script : Script
  scriptType : ScriptType
  scriptSearchMode : Option ScriptSearchMode
  /-- half-open `[from, to)` -/
  blockRange : Option (UInt64 × UInt64)
  withData : Option Bool
  groupByTransaction : Option Bool
  deriving DecidableEq, Repr

/-- "Every transaction touching a cell whose lock has this code hash."
mirrors crates/ckb/src/types.rs:135-144 -/
def SearchKey.lockPrefix (script : Script) : SearchKey where
  script
  scriptType := .lock
  scriptSearchMode := some .byPrefix
  blockRange := none
  withData := none
  groupByTransaction := some true

/-- mirrors crates/ckb/src/types.rs:146-150 -/
def SearchKey.withBlockRange (k : SearchKey) (fromBlock toExclusive : UInt64) : SearchKey :=
  { k with blockRange := some (fromBlock, toExclusive) }

/-- mirrors crates/ckb/src/types.rs:155-158 -/
structure MatchedCell where
  ioType : IoType
  ioIndex : UInt32
  deriving DecidableEq, Repr

/-- A grouped `get_transactions` record. mirrors crates/ckb/src/types.rs:174-179 -/
structure TxRecord where
  txHash : H256
  blockNumber : UInt64
  txIndex : UInt32
  cells : List MatchedCell
  deriving DecidableEq, Repr

/-- mirrors crates/ckb/src/types.rs:182-185 -/
structure Pagination where
  objects : List TxRecord
  lastCursor : Bytes
  deriving DecidableEq, Repr

/-- mirrors crates/ckb/src/types.rs:198-201 -/
structure IndexerTip where
  blockHash : H256
  blockNumber : UInt64
  deriving DecidableEq, Repr

/-- The input fields the program reads. mirrors crates/ckb/src/types.rs:219-222 -/
structure RpcCellInput where
  previousOutput : CkbOutPoint
  deriving DecidableEq, Repr

/-- The RPC output carries what `CellOutput` carries. mirrors crates/ckb/src/types.rs:225-230, 233-239 -/
structure RpcTransaction where
  hash : H256
  inputs : List RpcCellInput
  outputs : List CellOutput
  outputsData : List Bytes
  deriving DecidableEq, Repr

/-- mirrors crates/ckb/src/types.rs:243-249 -/
inductive TxStatusKind where
  | pending | proposed | committed | unknown | rejected
  deriving DecidableEq, Repr

/-- mirrors crates/ckb/src/types.rs:252-257 -/
structure TxStatus where
  status : TxStatusKind
  blockHash : Option H256
  blockNumber : Option UInt64
  deriving DecidableEq, Repr

/-- mirrors crates/ckb/src/types.rs:260-263 -/
structure TransactionWithStatus where
  transaction : Option RpcTransaction
  txStatus : TxStatus
  deriving DecidableEq, Repr

/-- mirrors crates/ckb/src/types.rs:266-272 -/
structure RpcHeader where
  hash : H256
  number : UInt64
  parentHash : H256
  timestamp : UInt64
  deriving DecidableEq, Repr

/-! ## The endpoints -/

/-- What the node and the rich indexer answer. -/
structure Replies where
  getTipBlockNumber : Except CkbError UInt64
  getHeaderByNumber : UInt64 → Except CkbError (Option RpcHeader)
  getTransaction : H256 → Except CkbError (Option TransactionWithStatus)
  getIndexerTip : Except CkbError (Option IndexerTip)
  getTransactionsPage : SearchKey → Order → UInt32 → Option String → Except CkbError Pagination

/-- `page_limit.max(1)`. mirrors crates/ckb/src/client.rs:34 -/
def clientPageLimit (c : Config) : UInt32 := if c.ckb.pageLimit = 0 then 1 else c.ckb.pageLimit

theorem clientPageLimit_pos (cfg : Config) : 0 < (clientPageLimit cfg).toNat := by
  unfold clientPageLimit
  by_cases h : cfg.ckb.pageLimit = 0
  · rw [if_pos h]
    decide
  · rw [if_neg h]
    exact Nat.pos_of_ne_zero fun hzero => h (UInt32.toNat_inj.mp hzero)

namespace Replies

/-- The highest block it is safe to read from both endpoints.
mirrors crates/ckb/src/client.rs:76-87 -/
def syncedTip (r : Replies) : Except CkbError UInt64 := do
  let nodeTip ← r.getTipBlockNumber
  match ← r.getIndexerTip with
  | some indexerTip => return min nodeTip indexerTip.blockNumber
  | none => return nodeTip

/-- `if number < from || number > to { continue }`. -/
def inRange (fromBlock toBlock : UInt64) (record : TxRecord) : Bool :=
  !(record.blockNumber < fromBlock || record.blockNumber > toBlock)

/-- The page loop, from a cursor on. mirrors crates/ckb/src/client.rs:121-141 -/
def collectPages (r : Replies) (searchKey : SearchKey) (pageLimit : UInt32) (fromBlock toBlock : UInt64) :
    Nat → Option String → List TxRecord → Except CkbError (List TxRecord)
  | 0, _, _ => .error .unfinished
  | fuel + 1, cursor, out => do
    let page ← r.getTransactionsPage searchKey .asc pageLimit cursor
    let out := out ++ page.objects.filter (inRange fromBlock toBlock)
    -- an empty cursor, or a short page, means the range is exhausted
    if page.objects.length < pageLimit.toNat ∨ page.lastCursor.isEmpty then
      return out
    else
      collectPages r searchKey pageLimit fromBlock toBlock fuel (some (bytesToHex page.lastCursor)) out

/-- `sort_by_key(|r| (r.block_number, r.tx_index))`. -/
def recordLe (a b : TxRecord) : Prop :=
  a.blockNumber < b.blockNumber ∨ a.blockNumber = b.blockNumber ∧ a.txIndex ≤ b.txIndex

instance : DecidableRel recordLe := fun a b =>
  inferInstanceAs (Decidable (a.blockNumber < b.blockNumber ∨ a.blockNumber = b.blockNumber ∧ a.txIndex ≤ b.txIndex))

/-- Every transaction touching `script` inside `[from, to]`.
mirrors crates/ckb/src/client.rs:110-147 -/
def collectTransactionsInRange (r : Replies) (pageLimit : UInt32) (fuel : Nat) (script : Script)
    (fromBlock toBlock : UInt64) : Except CkbError (List TxRecord) :=
  if fromBlock > toBlock then .ok []
  else do
    let searchKey := (SearchKey.lockPrefix script).withBlockRange fromBlock (toBlock + 1)
    let out ← r.collectPages searchKey pageLimit fromBlock toBlock fuel none []
    return out.insertionSort recordLe

/-! ## The safe tip -/

/-- The tip never exceeds the node's, and not the indexer's either when the indexer reports one. -/
theorem syncedTip_eq_ok {r : Replies} {tip : UInt64} (h : r.syncedTip = .ok tip) :
    ∃ nodeTip reported, r.getTipBlockNumber = .ok nodeTip ∧ r.getIndexerTip = .ok reported ∧
      tip = match reported with
        | some t => min nodeTip t.blockNumber
        | none => nodeTip := by
  obtain ⟨nodeTip, hn, h⟩ := bind_eq_ok.mp h
  obtain ⟨reported, hi, h⟩ := bind_eq_ok.mp h
  refine ⟨nodeTip, reported, hn, hi, ?_⟩
  cases reported with
  | none => exact (pure_eq_ok.mp h).symm
  | some t => exact (pure_eq_ok.mp h).symm

end Replies
end RgbppIndexer
