import RgbppIndexer.Chain.Serve
import RgbppIndexer.Scan.Collect

/-!
# What is collected of what is listed

The page loop (crates/ckb/src/client.rs:110-147) and the merge of the two
searches (crates/indexer/src/scanner.rs:262-291) over any rich indexer that
serves a search as a list, page by page. Nothing is assumed of the records.

* `collectTransactionsInRange_served`: one search collects the records in range,
  sorted.
* `collectRange_served`: two searches collect their union.
* `collects_exactly`: **both, in as many calls as there are pages.**
-/
namespace RgbppIndexer

open RgbppIndexer.Core

/-- The rich indexer serves a search as a list: a call answers with the next records after its cursor, and with a cursor
from which the following call continues. -/
def ServesList (r : Replies) (key : SearchKey) (limit : UInt32) (list : List TxRecord) : Prop :=
  ∃ At : Option String → Nat → Prop, At none 0 ∧
    ∀ cursor p, At cursor p → ∃ page, r.getTransactionsPage key .asc limit cursor = .ok page ∧ PageAt list limit At p page

/-- The block is one of the range. -/
def InRange (fromBlock toBlock : UInt64) (x : TxRecord) : Prop := fromBlock ≤ x.blockNumber ∧ x.blockNumber ≤ toBlock

instance (fromBlock toBlock : UInt64) : DecidablePred (InRange fromBlock toBlock) := fun x =>
  inferInstanceAs (Decidable (fromBlock ≤ x.blockNumber ∧ x.blockNumber ≤ toBlock))

/-- The union of the two listings, as far as it is in range: one record for each transaction, in chain order. -/
structure UnionOf (fromBlock toBlock : UInt64) (lists : LockKind → List TxRecord) (records : List TxRecord) : Prop where
  touched : ∀ key, (∃ record ∈ records, record.key = key) ↔
    ∃ kind, ∃ x ∈ lists kind, InRange fromBlock toBlock x ∧ x.key = key
  ordered : records.Pairwise fun a b => compare a.key b.key = .lt
  once : (records.map TxRecord.key).Nodup
  cells : ∀ record ∈ records, ∀ c, c ∈ record.cells ↔ ∃ kind, ∃ x ∈ lists kind, x.key = record.key ∧ c ∈ x.cells
  /-- no cell twice, where no listed record has one twice -/
  distinct : (∀ kind, ∀ x ∈ lists kind, x.cells.Nodup) → ∀ record ∈ records, record.cells.Nodup
  /-- no hash twice, where the listings agree on where a transaction is -/
  onePlace : (∀ kind kind', ∀ x ∈ lists kind, ∀ y ∈ lists kind', x.txHash = y.txHash → x.key = y.key) →
    (records.map TxRecord.txHash).Nodup

theorem inRange_iff {fromBlock toBlock : UInt64} {x : TxRecord} :
    Replies.inRange fromBlock toBlock x = true ↔ InRange fromBlock toBlock x := by
  unfold Replies.inRange InRange
  simp only [Bool.not_eq_true', Bool.or_eq_false_iff, decide_eq_false_iff_not, UInt64.not_lt, gt_iff_lt]

theorem filter_inRange (fromBlock toBlock : UInt64) (list : List TxRecord) :
    list.filter (Replies.inRange fromBlock toBlock) = list.filter fun x => decide (InRange fromBlock toBlock x) := by
  refine List.filter_congr fun x _ => ?_
  rw [Bool.eq_iff_iff, inRange_iff, decide_eq_true_eq]

theorem recordLe_total : Std.Total Replies.recordLe where
  total a b := by
    unfold Replies.recordLe
    rw [UInt64.lt_iff_toNat_lt, UInt64.lt_iff_toNat_lt, UInt32.le_iff_toNat_le, UInt32.le_iff_toNat_le, ← UInt64.toNat_inj,
      ← UInt64.toNat_inj]
    omega

theorem recordLe_trans : IsTrans TxRecord Replies.recordLe where
  trans a b c := by
    unfold Replies.recordLe
    simp only [UInt64.lt_iff_toNat_lt, UInt32.le_iff_toNat_le, ← UInt64.toNat_inj]
    omega

section
variable {r : Replies} {limit : UInt32} {fuel : Nat} {script : Script} {fromBlock toBlock : UInt64} {list : List TxRecord}

/-! ## One search -/

/-- A search that is served as a list collects the records in range, sorted. -/
theorem collectTransactionsInRange_served (hserve : ServesList r (rangeSearch script fromBlock toBlock) limit list)
    (hlimit : 0 < limit.toNat) (hfuel : list.length < fuel) :
    r.collectTransactionsInRange limit fuel script fromBlock toBlock =
      .ok ((list.filter fun x => decide (InRange fromBlock toBlock x)).insertionSort Replies.recordLe) := by
  obtain ⟨At, hstart, hpages⟩ := hserve
  unfold Replies.collectTransactionsInRange
  by_cases hempty : fromBlock > toBlock
  · have hnone : list.filter (fun x => decide (InRange fromBlock toBlock x)) = [] := by
      rw [List.filter_eq_nil_iff]
      intro x _ hx
      have hx' := of_decide_eq_true hx
      exact UInt64.not_lt.mpr (UInt64.le_trans hx'.1 hx'.2) hempty
    rw [if_pos hempty, hnone]
    rfl
  · have hpaged : ∀ cursor p page, At cursor p →
        r.getTransactionsPage (rangeSearch script fromBlock toBlock) .asc limit cursor = .ok page → PageAt list limit At p page := by
      intro cursor p page hat hpage
      obtain ⟨page', hpage', hcut⟩ := hpages cursor p hat
      rw [hpage] at hpage'
      rw [Except.ok.inj hpage']
      exact hcut
    obtain ⟨res, hres⟩ : ∃ res, r.collectPages (rangeSearch script fromBlock toBlock) limit fromBlock toBlock fuel none [] = .ok res :=
      collectPages_succeeds hpaged (fun cursor p hat => (hpages cursor p hat).imp fun _ h => h.1) hlimit hstart (by omega)
    have hall := collectPages_eq hpaged hstart hres
    rw [List.drop_zero, List.nil_append, filter_inRange] at hall
    rw [if_neg hempty, ← hall]
    exact bind_eq_ok.mpr ⟨res, hres, rfl⟩

theorem sorted_insertionSort (list : List TxRecord) : (list.insertionSort Replies.recordLe).Pairwise Replies.recordLe := by
  have := recordLe_total
  have := recordLe_trans
  exact List.pairwise_insertionSort Replies.recordLe list

/-! ## Two searches -/

/-- What the merge map holds is the union of what is listed. -/
theorem MergeOf.unionOf {lists : LockKind → List TxRecord} {listed : List TxRecord} {m : Std.TreeMap RecordKey TxRecord}
    (h : MergeOf listed m) (hlisted : ∀ x, x ∈ listed ↔ ∃ kind, x ∈ lists kind ∧ InRange fromBlock toBlock x) :
    UnionOf fromBlock toBlock lists (m.toList.map Prod.snd) := by
  have honce := nodup_of_ordered h.ordered
  have horigin : ∀ {record}, record ∈ m.toList.map Prod.snd → ∃ kind, ∃ x ∈ lists kind, x.key = record.key := by
    intro record hmem
    obtain ⟨-, x, hx, hxk⟩ := h.sound _ _ (h.get? hmem)
    obtain ⟨kind, hkind, -⟩ := (hlisted x).mp hx
    exact ⟨kind, x, hkind, hxk⟩
  constructor
  · intro key
    constructor
    · rintro ⟨record, hmem, rfl⟩
      obtain ⟨-, x, hx, hxk⟩ := h.sound _ _ (h.get? hmem)
      obtain ⟨kind, hkind, hrange⟩ := (hlisted x).mp hx
      exact ⟨kind, x, hkind, hrange, hxk⟩
    · rintro ⟨kind, x, hx, hrange, rfl⟩
      obtain ⟨record, hrecord⟩ := h.complete x ((hlisted x).mpr ⟨kind, hx, hrange⟩)
      exact ⟨record, List.mem_map.mpr ⟨(x.key, record), Std.TreeMap.mem_toList_iff_getElem?_eq_some.mpr hrecord, rfl⟩,
        (h.sound _ _ hrecord).1⟩
  · exact h.ordered
  · exact honce
  · intro record hmem c
    rw [h.cells _ _ (h.get? hmem)]
    -- a record under the key of one in range is in range itself
    obtain ⟨-, y, hy, hyk⟩ := h.sound _ _ (h.get? hmem)
    obtain ⟨-, -, hrange⟩ := (hlisted y).mp hy
    constructor
    · rintro ⟨x, hx, hxk, hc⟩
      obtain ⟨kind, hkind, -⟩ := (hlisted x).mp hx
      exact ⟨kind, x, hkind, hxk, hc⟩
    · rintro ⟨kind, x, hx, hxk, hc⟩
      have hnumber : x.blockNumber = y.blockNumber := congrArg RecordKey.blockNumber (hxk.trans hyk.symm)
      refine ⟨x, (hlisted x).mpr ⟨kind, hx, ?_⟩, hxk, hc⟩
      unfold InRange at hrange ⊢
      rw [hnumber]
      exact hrange
  · intro hnodup record hmem
    refine h.nodup (fun x hx => ?_) _ _ (h.get? hmem)
    obtain ⟨kind, hkind, -⟩ := (hlisted x).mp hx
    exact hnodup kind x hkind
  · intro hplace
    refine (List.nodup_map_iff_inj_on honce.of_map).mpr fun a ha b hb hhash => ?_
    obtain ⟨kind, x, hx, hxk⟩ := horigin ha
    obtain ⟨kind', y, hy, hyk⟩ := horigin hb
    have hxy : x.txHash = y.txHash := by
      rw [show x.txHash = a.txHash from congrArg RecordKey.txHash hxk, hhash,
        show y.txHash = b.txHash from congrArg RecordKey.txHash hyk]
    have hkey := hplace kind kind' x hx y hy hxy
    exact List.inj_on_of_nodup_map honce ha hb (hxk.symm.trans (hkey.trans hyk))

variable {cfg : Config} {env : ScanEnv} {lists : LockKind → List TxRecord}

/-- Two searches that are served as lists collect their union. -/
theorem collectRange_served (hserve : ∀ kind, ServesList env.replies
      (rangeSearch (lockSearchScript cfg.protocol kind) fromBlock toBlock) (clientPageLimit cfg) (lists kind))
    (hfuel : ∀ kind, (lists kind).length < env.pageFuel) :
    ∃ records, collectRange cfg env fromBlock toBlock = .ok records ∧ UnionOf fromBlock toBlock lists records := by
  let found := fun kind =>
    ((lists kind).filter fun x => decide (InRange fromBlock toBlock x)).insertionSort Replies.recordLe
  have hfound : ∀ kind, env.replies.collectTransactionsInRange (clientPageLimit cfg) env.pageFuel
      (lockSearchScript cfg.protocol kind) fromBlock toBlock = .ok (found kind) := fun kind =>
    collectTransactionsInRange_served (hserve kind) (clientPageLimit_pos cfg) (hfuel kind)
  have hmem : ∀ kind x, x ∈ found kind ↔ x ∈ lists kind ∧ InRange fromBlock toBlock x := by
    intro kind x
    rw [List.mem_insertionSort, List.mem_filter, decide_eq_true_eq]
  refine ⟨((found .btcTime).foldl mergeRecord ((found .rgbpp).foldl mergeRecord {})).toList.map Prod.snd, ?_,
    (mergeOf_found found).unionOf fun x => ?_⟩
  · unfold collectRange
    exact bind_eq_ok.mpr ⟨found .rgbpp, Except.intoIndexer_eq_ok.mpr (hfound .rgbpp),
      bind_eq_ok.mpr ⟨found .btcTime, Except.intoIndexer_eq_ok.mpr (hfound .btcTime), rfl⟩⟩
  · rw [List.mem_append, hmem, hmem]
    constructor
    · rintro (h | h)
      · exact ⟨.rgbpp, h⟩
      · exact ⟨.btcTime, h⟩
    · rintro ⟨kind, h⟩
      cases kind with
      | rgbpp => exact .inl h
      | btcTime => exact .inr h

end

/-- **A search that is served as a list ends after its pages, with the records in range, each as often as it is listed,
in chain order; and the two lock searches of a range end with the union of their listings.** -/
theorem collects_exactly (cfg : Config) (env : ScanEnv) (fromBlock toBlock : UInt64) :
    (∀ script list, ServesList env.replies (rangeSearch script fromBlock toBlock) (clientPageLimit cfg) list →
      list.length < env.pageFuel →
      ∃ res, env.replies.collectTransactionsInRange (clientPageLimit cfg) env.pageFuel script fromBlock toBlock = .ok res ∧
        res.Perm (list.filter fun x => decide (InRange fromBlock toBlock x)) ∧ res.Pairwise Replies.recordLe) ∧
    ∀ lists : LockKind → List TxRecord,
      (∀ kind, ServesList env.replies (rangeSearch (lockSearchScript cfg.protocol kind) fromBlock toBlock)
        (clientPageLimit cfg) (lists kind)) →
      (∀ kind, (lists kind).length < env.pageFuel) →
      ∃ records, collectRange cfg env fromBlock toBlock = .ok records ∧ UnionOf fromBlock toBlock lists records := by
  refine ⟨fun script list hserve hfuel => ?_, fun lists hserve hfuel => collectRange_served hserve hfuel⟩
  exact ⟨_, collectTransactionsInRange_served hserve (clientPageLimit_pos cfg) hfuel, List.perm_insertionSort _ _,
    sorted_insertionSort _⟩

/-- A rich indexer over a chain serves every range search as a list. -/
theorem Chain.serve_servesList (ch : Chain) (tip : UInt64) (script : Script) (fromBlock toBlock : UInt64) (limit : UInt32) :
    ServesList (ch.serve tip) (rangeSearch script fromBlock toBlock) limit (ch.recordsIn script fromBlock (toBlock + 1)) := by
  have hreply := @Chain.getTransactionsPage_serve ch tip script fromBlock toBlock
  obtain ⟨At, hstart, hpages⟩ := (Chain.paged_pageOf hreply).cursors
  exact ⟨At, hstart, fun cursor p hat => ⟨_, hreply limit cursor, hpages limit cursor p _ hat (hreply limit cursor)⟩⟩

/-! ## Three transactions, one on a page -/

namespace Sample

/-- It creates an RGB++ cell and a BTC time lock cell. -/
def bothKinds : RpcTransaction where
  hash := hash 2
  inputs := []
  outputs :=
    [(boundOutput 142 btcTxid).cell,
      { capacity := 142
        lock :=
          { codeHash := ProtocolScripts.testnet.btcTimeLock.codeHash, hashType := .type
            args := (BtcTimeLockArgs.mk ⟨hash 0, .type, []⟩ 6 btcTxid).encode }
        type_ := none }]
  outputsData := [[], []]

/-- It consumes the cell of the issuance. -/
def transfer : RpcTransaction where
  hash := hash 3
  inputs := [⟨cell⟩]
  outputs := [(boundOutput 142 btcTxid).cell]
  outputsData := [[]]

def listedChain : Chain :=
  .ofBlocks [block 0 [], block 1 [issuance], block 2 [bothKinds], block 3 [transfer]] (by decide +kernel)

/-- A client that asks for one record a page. -/
def oneRecordPages : Config := { Config.testnet 64 with ckb := { (Config.testnet 64).ckb with pageLimit := 1 } }

end Sample

open Sample in
/-- The search for RGB++ locks takes four pages, the one for BTC time locks two; the transaction that both list comes
once. -/
theorem collects_exactly_pages :
    (∃ res, (listedChain.serve 3).collectTransactionsInRange 1 10 (lockSearchScript .testnet .rgbpp) 1 3 = .ok res ∧
      res.length = 3 ∧ res.Pairwise Replies.recordLe) ∧
    ∃ records, collectRange oneRecordPages (env (listedChain.serve 3)) 1 3 = .ok records ∧
      records.map TxRecord.txHash = [Sample.hash 1, Sample.hash 2, Sample.hash 3] ∧
      records.map (fun record => record.cells.length) = [1, 2, 2] ∧
      UnionOf 1 3 (fun kind => listedChain.recordsIn (lockSearchScript .testnet kind) 1 4) records := by
  have hfew : ∀ kind, (listedChain.recordsIn (lockSearchScript .testnet kind) 1 4).length < 10 := by
    intro kind
    cases kind <;> decide +kernel
  have hlisted := collects_exactly oneRecordPages (env (listedChain.serve 3)) 1 3
  constructor
  · obtain ⟨res, hres, hperm, hsorted⟩ := hlisted.1 _ _
      (listedChain.serve_servesList 3 (lockSearchScript .testnet .rgbpp) 1 3 (clientPageLimit oneRecordPages)) (hfew .rgbpp)
    refine ⟨res, hres, ?_, hsorted⟩
    rw [hperm.length_eq]
    decide +kernel
  · obtain ⟨records, hrecords, hunion⟩ := hlisted.2 _ (fun kind => listedChain.serve_servesList 3 _ 1 3 _) hfew
    have hmap : (collectRange oneRecordPages (env (listedChain.serve 3)) 1 3).toOption.map
        (fun records => (records.map TxRecord.txHash, records.map fun record => record.cells.length)) =
          some ([Sample.hash 1, Sample.hash 2, Sample.hash 3], [1, 2, 2]) := by
      decide +kernel
    rw [hrecords] at hmap
    obtain ⟨hhashes, hcells⟩ := Prod.mk.inj (Option.some.inj hmap)
    exact ⟨records, hrecords, hhashes, hcells, hunion⟩

end RgbppIndexer
