import RgbppIndexer.Chain.Chain
import RgbppIndexer.Indexer.Scanner

/-!
# Endpoints that serve a chain

What it means for the answers of one round to be about a chain. Each
property leaves every question free to fail.

* `NodeServes`: headers and committed transactions are the chain's, and the
  node has every block up to the tip it reports.
* `IndexerServes`: every record the rich indexer lists is a true match.
* `Paged`, `IndexerComplete`: up to the tip it reports, the rich indexer's
  pages cut up a list that has every true match.
-/
namespace RgbppIndexer

open RgbppIndexer.Core

/-- A lock under a prefix search. -/
def lockMatches (search lock : Script) : Bool :=
  decide (lock.codeHash = search.codeHash ∧ lock.hashType = search.hashType) && search.args.isPrefixOf lock.args

/-- A matched cell of a transaction is one of its cells under the searched lock. -/
def TrueMatch (ch : Chain) (search : Script) (l : Located) (c : MatchedCell) : Prop :=
  match c.ioType with
  | .output => ∃ output, l.tx.outputs[c.ioIndex.toNat]? = some output ∧ lockMatches search output.lock = true
  | .input => ∃ op creator output, l.tx.inputs[c.ioIndex.toNat]? = some ⟨op⟩ ∧ ch.HasOutput op creator output ∧
      lockMatches search output.lock = true

/-- A record is about a transaction of the chain, and every cell it lists is a true match, listed once. -/
structure TrueRecord (ch : Chain) (search : Script) (l : Located) (record : TxRecord) : Prop where
  holds : ch.Holds l
  txHash : record.txHash = l.tx.hash
  blockNumber : record.blockNumber = l.header.number
  txIndex : record.txIndex = UInt32.ofNat l.index
  nodup : record.cells.Nodup
  cells : ∀ c ∈ record.cells, TrueMatch ch search l c

/-- What the node says about a transaction of the chain. -/
def Located.committed (l : Located) : TransactionWithStatus where
  transaction := some l.tx
  txStatus := { status := .committed, blockHash := some l.header.hash, blockNumber := some l.header.number }

/-- The node's answers are about the chain, and it has every block up to its tip. -/
structure NodeServes (ch : Chain) (r : Replies) : Prop where
  tip_lt : ∀ tip, r.getTipBlockNumber = .ok tip → tip.toNat < ch.blocks.length
  header_sound : ∀ n header, r.getHeaderByNumber n = .ok (some header) →
    ∃ b, ch.blocks[n.toNat]? = some b ∧ b.header = header
  header_complete : ∀ tip n, r.getTipBlockNumber = .ok tip → n ≤ tip → r.getHeaderByNumber n ≠ .ok none
  transaction : ∀ tip l reply, r.getTipBlockNumber = .ok tip → ch.Holds l → l.height ≤ tip.toNat →
    r.getTransaction l.tx.hash = .ok reply → reply = some l.committed

/-- The search of a protocol lock over `[from, to]`. -/
def rangeSearch (script : Script) (fromBlock toBlock : UInt64) : SearchKey :=
  (SearchKey.lockPrefix script).withBlockRange fromBlock (toBlock + 1)

/-- Every record the rich indexer lists is a true match. -/
def IndexerServes (ch : Chain) (r : Replies) : Prop :=
  ∀ script fromBlock toBlock limit cursor page,
    r.getTransactionsPage (rangeSearch script fromBlock toBlock) .asc limit cursor = .ok page →
      ∀ record ∈ page.objects, ∃ l, TrueRecord ch script l record

/-- The pages of a search cut up a list: a cursor names a position in it, and is missing only at its end. -/
def Paged (r : Replies) (key : SearchKey) (list : List TxRecord) : Prop :=
  ∃ position : Option String → Nat, position none = 0 ∧
    ∀ limit cursor page, r.getTransactionsPage key .asc limit cursor = .ok page →
      page.objects = (list.drop (position cursor)).take limit.toNat ∧
      (page.lastCursor ≠ [] → position (some (bytesToHex page.lastCursor)) = position cursor + page.objects.length) ∧
      (page.lastCursor = [] → list.length ≤ position cursor + limit.toNat)

/-- Up to the tip it reports, the rich indexer lists every true match of a range. -/
def IndexerComplete (ch : Chain) (r : Replies) : Prop :=
  ∀ t, r.getIndexerTip = .ok (some t) → ∀ script fromBlock toBlock, toBlock ≤ t.blockNumber →
    ∃ list, Paged r (rangeSearch script fromBlock toBlock) list ∧
      ∀ l c, ch.Holds l → fromBlock.toNat ≤ l.height → l.height ≤ toBlock.toNat → TrueMatch ch script l c →
        ∃ record ∈ list, TrueRecord ch script l record ∧ c ∈ record.cells

/-- Both endpoints serve the chain. -/
structure Serves (ch : Chain) (r : Replies) : Prop where
  node : NodeServes ch r
  indexer : IndexerServes ch r

/-! ## Protocol locks -/

/-- A search for a protocol lock matches exactly the locks with its code hash and hash type. -/
theorem lockMatches_lockSearchScript (p : ProtocolScripts) (kind : LockKind) (lock : Script) :
    lockMatches (lockSearchScript p kind) lock = true ↔ (p.scriptId kind).matches lock = true := by
  have hargs : (lockSearchScript p kind).args.isPrefixOf lock.args = true := rfl
  unfold lockMatches ScriptId.matches
  rw [hargs, Bool.and_true]
  rfl

/-- A lock some search matches is a protocol lock, and the other way round. -/
theorem exists_lockMatches_iff (p : ProtocolScripts) (lock : Script) :
    (∃ kind, lockMatches (lockSearchScript p kind) lock = true) ↔ ∃ kind, p.classify lock = some kind := by
  constructor
  · rintro ⟨kind, h⟩
    rw [lockMatches_lockSearchScript] at h
    unfold ProtocolScripts.classify
    by_cases hr : p.rgbppLock.matches lock
    · exact ⟨.rgbpp, by rw [if_pos hr]⟩
    · rw [if_neg hr]
      cases kind with
      | rgbpp => exact absurd h hr
      | btcTime =>
        have hb : p.btcTimeLock.matches lock = true := h
        exact ⟨.btcTime, by rw [if_pos hb]⟩
  · rintro ⟨kind, h⟩
    exact ⟨kind, (lockMatches_lockSearchScript p kind lock).mpr (ProtocolScripts.scriptId_matches h)⟩

end RgbppIndexer
