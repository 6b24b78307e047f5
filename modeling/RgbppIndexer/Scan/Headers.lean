import RgbppIndexer.Chain.Serve
import RgbppIndexer.Scan.Runs

/-!
# The stored headers

`crates/store/src/blocks.rs`: "headers are stored sparsely, activity blocks plus
checkpoints, which is enough to walk backwards looking for a common ancestor".
Rounds write them, and prune those too deep for a reorg to reach.

* `headerBlocks`: the headers a round writes; `scannerStep_headers`: what a pass
  does to the table.
* `HeaderIndex`: the stored headers are the chain's, flagged exactly where a
  transaction touches a protocol lock; down to the retained depth no such block
  is missing, and the checkpoint's own header is there.
* `HeaderIndex.step`: a pass keeps it.
* `walk_back`: **after any run, the walk back from the checkpoint is what a search
  for a common ancestor needs**.
-/
namespace RgbppIndexer

open RgbppIndexer.Core

/-! ## Queries -/

namespace Store

/-- mirrors crates/store/src/blocks.rs:14-22 -/
def getBlock (st : Store) (number : Int64) : Option BlockRow := st.ckbBlocks.get? number

/-- `ORDER BY number DESC`. -/
def newestBlockFirst (a b : Int64 × BlockRow) : Prop := b.1 ≤ a.1

instance (a b : Int64 × BlockRow) : Decidable (newestBlockFirst a b) := inferInstanceAs (Decidable (b.1 ≤ a.1))

/-- mirrors crates/store/src/blocks.rs:26-38 -/
def blocksDescendingFrom (st : Store) (number limit : Int64) : Except StoreError (List (Int64 × BlockRow)) :=
  if limit < 0 then .error (.sqlx "LIMIT must not be negative")
  else
    .ok (((st.ckbBlocks.select fun n _ => decide (n ≤ number)).insertionSort fun a b => newestBlockFirst a b).take
      limit.toInt.toNat)

/-! ## One header after the other -/

/-- What is under a number after an upsert: the header as written last, flagged if it ever was. -/
theorem get?_blockUpsert (t : Table Int64 BlockRow) (b : BlockRecord) (n : Int64) :
    (blockUpsert t b).get? n =
      if n = b.number then
        some { hash := b.hash, parentHash := b.parentHash, timestamp := b.timestamp,
               hasRgbppActivity := ((t.get? n).map BlockRow.hasRgbppActivity).getD false || b.hasRgbppActivity }
      else t.get? n := by
  rw [blockUpsert, Table.get?_upsert]
  by_cases hn : n = b.number
  · rw [if_pos hn, if_pos hn, hn]
  · rw [if_neg hn, if_neg hn]

/-- Headers stay under their numbers. -/
theorem isSome_foldl_blockUpsert (bs : List BlockRecord) (t : Table Int64 BlockRow) (n : Int64) :
    ((bs.foldl blockUpsert t).get? n).isSome = true ↔ (t.get? n).isSome = true ∨ ∃ b ∈ bs, b.number = n := by
  induction bs generalizing t with
  | nil => simp
  | cons b bs ih =>
    rw [List.foldl_cons, ih, get?_blockUpsert, List.exists_mem_cons_iff]
    by_cases hn : n = b.number
    · simp [hn]
    · simp [hn, Ne.symm hn]

/-- What holds of the rows and of the headers, holds of the rows they make. -/
theorem forall_foldl_blockUpsert {P : Int64 → Bytes → Bytes → Bool → Prop}
    (hor : ∀ {n hash parentHash hash' parentHash' a b}, P n hash parentHash a → P n hash' parentHash' b → P n hash' parentHash' (a || b))
    {bs : List BlockRecord} (hbs : ∀ b ∈ bs, P b.number b.hash b.parentHash b.hasRgbppActivity) {t : Table Int64 BlockRow}
    (ht : ∀ n row, t.get? n = some row → P n row.hash row.parentHash row.hasRgbppActivity) :
    ∀ n row, (bs.foldl blockUpsert t).get? n = some row → P n row.hash row.parentHash row.hasRgbppActivity := by
  induction bs generalizing t with
  | nil => exact ht
  | cons b bs ih =>
    rw [List.forall_mem_cons] at hbs
    refine ih hbs.2 fun n row hrow => ?_
    rw [get?_blockUpsert] at hrow
    by_cases hn : n = b.number
    · rw [if_pos hn] at hrow
      obtain rfl := Option.some.inj hrow
      subst hn
      cases hold : t.get? b.number with
      | none => simpa using hbs.1
      | some old => exact hor (ht _ old hold) hbs.1
    · rw [if_neg hn] at hrow
      exact ht n row hrow

end Store

/-! ## What a round writes -/

/-- The headers of a round: the blocks with activity, and the checkpoint block if it is none of them.
mirrors crates/indexer/src/scanner.rs:214-236 -/
def headerBlocks (env : ScanEnv) (headers : List (UInt64 × RpcHeader)) (toBlock : UInt64) (header : RpcHeader) : List BlockRecord :=
  let activity := headers.map fun e => blockRecord env e.1 e.2 true
  activity ++ if activity.all (fun b => b.number ≠ toBlock.toInt64) then [blockRecord env toBlock header false] else []

section
variable [Sha2] {cfg : Config} {env : ScanEnv} {st : Store}

/-- The headers a round writes, and where its range ends. -/
theorem buildRound_headers {state : StreamState} {chainTip target : UInt64} {batch : IndexBatch} {round : ScanRound}
    (h : buildRound cfg env st state chainTip target = .ok (batch, round)) :
    ∃ records headers header,
      collectRange cfg env (rangeFrom cfg state.lastBlockNumber)
        (rangeTo cfg target (rangeFrom cfg state.lastBlockNumber)) = .ok records ∧
      fetchHeaders env records = .ok headers ∧
      checkpointHeader env headers (rangeTo cfg target (rangeFrom cfg state.lastBlockNumber)) = .ok header ∧
      batch.blocks = headerBlocks env headers (rangeTo cfg target (rangeFrom cfg state.lastBlockNumber)) header ∧
      round.toBlock = rangeTo cfg target (rangeFrom cfg state.lastBlockNumber) := by
  obtain ⟨-, records, headers, header, built, hrecords, hheaders, hbuilt, hfound, hbatch⟩ := buildRound_eq_ok h
  obtain ⟨hrows, hrange⟩ := recordLoop_rowsAdded hbuilt
  dsimp only at hrows hrange
  refine ⟨records, headers, header, hrecords, hheaders, hfound, ?_, ?_⟩
  · rw [hbatch, hrows]
    rfl
  · rw [hrange]

/-- The table of headers behind a committed round: the headers are in, and it is pruned, unless that failed. -/
def HeadersAfter (cfg : Config) (env : ScanEnv) (st st' : Store) (reads : RoundReads) : Prop :=
  let toBlock := reads.toBlock cfg st
  let written := (headerBlocks env reads.headers toBlock reads.checkpointHeader).foldl Store.blockUpsert st.ckbBlocks
  st'.ckbBlocks = written ∨
    0 < keepFrom cfg toBlock ∧ st'.ckbBlocks = written.filter fun n _ => (keepFrom cfg toBlock).toInt64 ≤ n

omit [Sha2] in
/-- The commit, as far as headers go. -/
theorem commitRound_headers (batch : IndexBatch) (round : ScanRound) :
    let written := batch.blocks.foldl Store.blockUpsert st.ckbBlocks
    (commitRound cfg env st batch round).2 = st ∨
      ((commitRound cfg env st batch round).2.ckbBlocks = written ∨
        0 < keepFrom cfg round.toBlock ∧
          (commitRound cfg env st batch round).2.ckbBlocks = written.filter fun n _ => (keepFrom cfg round.toBlock).toInt64 ≤ n) := by
  unfold commitRound
  cases env.faults.applyBatch with
  | some e => exact .inl rfl
  | none =>
    have hwritten : (st.applyBatch batch env.now).1.ckbBlocks = batch.blocks.foldl Store.blockUpsert st.ckbBlocks := by
      rw [Store.applyBatch_fst]
    dsimp only
    by_cases hkeep : keepFrom cfg round.toBlock > 0
    · rw [if_pos hkeep]
      cases env.faults.pruneBlocks with
      | some e => exact .inr (.inl hwritten)
      | none =>
        refine .inr (.inr ⟨hkeep, ?_⟩)
        dsimp only [Store.pruneBlocksBelow]
        rw [hwritten]
    · rw [if_neg hkeep]
      exact .inr (.inl hwritten)

/-- **What a pass does to the headers**: nothing, or it is a committed round and writes those of its range. -/
theorem scannerStep_headers (cfg : Config) (env : ScanEnv) (errorText : IndexerError → String) (st : Store) :
    Noted cfg st (scannerStep cfg env errorText st) ∨
      ∃ reads batch, Committed cfg env st (scannerStep cfg env errorText st) reads batch ∧
        HeadersAfter cfg env st (scannerStep cfg env errorText st) reads := by
  have hafter := noted_scannerStep cfg env errorText st
  have hblocks : (scannerStep cfg env errorText st).ckbBlocks = (scanOnce cfg env st).2.ckbBlocks := by rw [hafter.facts]
  rcases scanOnce_built cfg env st with ⟨hnoted, -⟩ | ⟨st₁, state, chainTip, target, batch, round, hbuilt, hcommit⟩
  · exact .inl (hnoted.trans hafter)
  · rw [hcommit] at hafter hblocks
    have hcases : let written := batch.blocks.foldl Store.blockUpsert st₁.ckbBlocks
        (commitRound cfg env st₁ batch round).2 = st₁ ∨
          ((commitRound cfg env st₁ batch round).2.ckbBlocks = written ∨
            0 < keepFrom cfg round.toBlock ∧
              (commitRound cfg env st₁ batch round).2.ckbBlocks =
                written.filter fun n _ => (keepFrom cfg round.toBlock).toInt64 ≤ n) := commitRound_headers batch round
    rcases commitRound_snd cfg env batch round with hsame | ⟨blocks, happlied⟩
    · rw [hsame] at hafter
      exact .inl (hbuilt.noted.trans hafter)
    · rcases hcases with hsame | hwritten
      · rw [hsame] at hafter
        exact .inl (hbuilt.noted.trans hafter)
      · right
        obtain ⟨current, hcurrent⟩ := hbuilt.current
        obtain ⟨reads, b, hc⟩ :=
          committed_of_built hcurrent hbuilt.checkpoint hbuilt.tip hbuilt.reached hbuilt.above hbuilt.built happlied
        have hc := hc.noted hbuilt.noted hafter
        refine ⟨reads, b, hc, ?_⟩
        -- the round read what it was built from
        obtain ⟨records, headers, header, hrecords, hheaders, hheader, hbatch, hround⟩ := buildRound_headers hbuilt.built
        have hnext : rangeFrom cfg state.lastBlockNumber = st.nextBlock cfg := by
          unfold Store.nextBlock
          rw [← hbuilt.noted.checkpoint, hbuilt.checkpoint]
          rfl
        have htip : chainTip = reads.chainTip := Except.ok.inj (hbuilt.tip.symm.trans hc.tip)
        have htarget : target = reads.target := by
          have hreached := hbuilt.reached
          rw [htip, hc.target] at hreached
          exact (Option.some.inj hreached).symm
        have hto : rangeTo cfg target (rangeFrom cfg state.lastBlockNumber) = reads.toBlock cfg st := by
          rw [hnext, htarget]
          rfl
        rw [hto] at hrecords hheader hbatch hround
        rw [hnext] at hrecords
        have hsame : records = reads.records := Except.ok.inj (hrecords.symm.trans hc.records)
        rw [hsame] at hheaders
        have hsame' : headers = reads.headers := Except.ok.inj (hheaders.symm.trans hc.headers)
        have hsame'' : header = reads.checkpointHeader := by
          have hreply := checkpointHeader_eq_ok hheaders hheader
          rw [hc.checkpointHeader] at hreply
          exact (Option.some.inj (Except.ok.inj hreply)).symm
        have hstart : st₁.ckbBlocks = st.ckbBlocks := by rw [hbuilt.noted.facts]
        unfold HeadersAfter
        dsimp only at hwritten ⊢
        rw [hblocks, ← hround]
        rw [hbatch, hsame', hsame'', hstart, ← hround] at hwritten
        exact hwritten

end

/-! ## Headers of the chain -/

/-- A block with a transaction that touches a protocol lock. -/
def Chain.Active (ch : Chain) (p : ProtocolScripts) (height : Nat) : Prop :=
  ∃ l kind c, ch.Holds l ∧ l.height = height ∧ TrueMatch ch (lockSearchScript p kind) l c

/-- A record of the rich indexer names the cells it is listed for. -/
def NamesCells (r : Replies) : Prop :=
  ∀ script fromBlock toBlock limit cursor page,
    r.getTransactionsPage (rangeSearch script fromBlock toBlock) .asc limit cursor = .ok page →
      ∀ record ∈ page.objects, record.cells ≠ []

/-- A header says of the block under its number what the chain says. -/
structure SaysOf (cfg : Config) (ch : Chain) (n : Int64) (hash parentHash : Bytes) (activity : Bool) : Prop where
  nonneg : 0 ≤ n.toInt
  block : ∃ b, ch.blocks[n.toInt.toNat]? = some b ∧ b.header.hash.toVec = hash ∧ b.header.parentHash.toVec = parentHash
  activity : activity = true ↔ ch.Active cfg.protocol n.toInt.toNat

section
variable {cfg : Config} {ch : Chain} {env : ScanEnv} {records : List TxRecord} {headers : List (UInt64 × RpcHeader)}

theorem collectRange_named {fromBlock toBlock : UInt64} (hnames : NamesCells env.replies)
    (h : collectRange cfg env fromBlock toBlock = .ok records) : ∀ record ∈ records, record.cells ≠ [] := by
  obtain ⟨found, hfound, rfl⟩ := collectRange_eq_ok h
  have hmerged := mergeOf_found found
  have hsearch : ∀ kind, ∀ x ∈ found kind, x.cells ≠ [] := by
    intro kind x hx
    have h := hfound kind
    unfold Replies.collectTransactionsInRange at h
    by_cases hrange : fromBlock > toBlock
    · rw [if_pos hrange] at h
      rw [← Except.ok.inj h] at hx
      cases hx
    · rw [if_neg hrange, bind_eq_ok] at h
      obtain ⟨out, hout, h⟩ := h
      rw [pure_eq_ok] at h
      rw [← h, List.mem_insertionSort] at hx
      rcases mem_collectPages hout x hx with hmem | ⟨-, limit, cursor, page, hpage, hobj⟩
      · cases hmem
      · exact hnames _ _ _ _ _ _ hpage x hobj
  intro record hr
  have hget := hmerged.get? hr
  obtain ⟨-, x, hx, hkey⟩ := hmerged.sound _ _ hget
  have hcells : x.cells ≠ [] := by
    rcases List.mem_append.mp hx with hx | hx
    · exact hsearch _ x hx
    · exact hsearch _ x hx
  obtain ⟨c, hc⟩ := List.exists_mem_of_ne_nil _ hcells
  exact List.ne_nil_of_mem ((hmerged.cells _ _ hget c).mpr ⟨x, hx, hkey, hc⟩)

/-- One header for each block with a record, and no other. -/
theorem mem_fetchHeaders (h : fetchHeaders env records = .ok headers) :
    (∀ e ∈ headers, (∃ r ∈ records, r.blockNumber = e.1) ∧ env.replies.getHeaderByNumber e.1 = .ok (some e.2)) ∧
      ∀ r ∈ records, ∃ e ∈ headers, e.1 = r.blockNumber := by
  unfold fetchHeaders at h
  have hall := mapM_eq_ok.mp h
  have hnumber : ∀ number, number ∈ ((records.map TxRecord.blockNumber).insertionSort fun a b => a ≤ b).dedup ↔
      ∃ r ∈ records, r.blockNumber = number := by
    intro number
    rw [List.mem_dedup, List.mem_insertionSort, List.mem_map]
  have hread : ∀ number (e : UInt64 × RpcHeader), (do let header ← headerAt env number; return (number, header)) = Except.ok e →
      e.1 = number ∧ env.replies.getHeaderByNumber number = .ok (some e.2) := by
    intro number e he
    rw [bind_eq_ok] at he
    obtain ⟨header, hheader, he⟩ := he
    rw [pure_eq_ok] at he
    rw [← he]
    exact ⟨rfl, headerAt_eq_ok hheader⟩
  constructor
  · intro e he
    obtain ⟨number, hmem, hfetched⟩ := forall₂_mem_right hall he
    obtain ⟨rfl, hreply⟩ := hread number e hfetched
    exact ⟨(hnumber _).mp hmem, hreply⟩
  · intro r hr
    obtain ⟨e, he, hfetched⟩ := forall₂_mem_left hall ((hnumber _).mpr ⟨r, hr, rfl⟩)
    exact ⟨e, he, (hread _ e hfetched).1⟩

/-- A header of the chain, as it is written. -/
theorem SaysOf.of_header (hnode : NodeServes ch env.replies) {number : UInt64} {header : RpcHeader} {activity : Bool}
    (hfits : number.toNat < 2 ^ 63) (hheader : env.replies.getHeaderByNumber number = .ok (some header))
    (hactivity : activity = true ↔ ch.Active cfg.protocol number.toNat) :
    SaysOf cfg ch number.toInt64 header.hash.toVec header.parentHash.toVec activity := by
  obtain ⟨b, hb, rfl⟩ := hnode.header_sound _ _ hheader
  have hnumber : number.toInt64.toInt.toNat = number.toNat := by rw [toInt_toInt64 hfits, Int.toNat_natCast]
  refine ⟨?_, ⟨b, ?_, rfl, rfl⟩, ?_⟩
  · rw [toInt_toInt64 hfits]
    omega
  · rw [hnumber]
    exact hb
  · rw [hnumber]
    exact hactivity

/-- A header that is written twice, and flagged if it ever was. -/
theorem SaysOf.or {n : Int64} {hash parentHash hash' parentHash' : Bytes} {a b : Bool} (h : SaysOf cfg ch n hash parentHash a)
    (h' : SaysOf cfg ch n hash' parentHash' b) : SaysOf cfg ch n hash' parentHash' (a || b) := by
  refine ⟨h'.nonneg, h'.block, ?_⟩
  rw [Bool.or_eq_true, h.activity, h'.activity, or_self]

end

section
variable [Sha2] {cfg : Config} {ch : Chain} {env : ScanEnv} {st st' : Store} {reads : RoundReads} {batch : IndexBatch}

/-- What is asked of the endpoints, and of the configuration, in a pass. -/
structure FullRange (cfg : Config) (ch : Chain) (env : ScanEnv) (st : Store) : Prop where
  serves : Serves ch env.replies
  complete : IndexerComplete ch env.replies
  names : NamesCells env.replies
  reported : env.replies.getIndexerTip ≠ .ok none
  fits : RangeFits cfg st

/-- A block of the range with activity has its header fetched. -/
theorem Committed.header_of_active (henv : FullRange cfg ch env st) (hc : Committed cfg env st st' reads batch) {height : Nat}
    (hactive : ch.Active cfg.protocol height) (hfrom : (st.nextBlock cfg).toNat ≤ height)
    (hto : height ≤ (reads.toBlock cfg st).toNat) : ∃ e ∈ reads.headers, e.1.toNat = height := by
  obtain ⟨l, kind, c, hl, rfl, hmatch⟩ := hactive
  obtain ⟨t, ht⟩ := hc.reported henv.reported
  obtain ⟨record, hrecord, hmerged, -⟩ := collectRange_complete henv.serves.indexer henv.complete ht
    (hc.toBlock_le_reported ht) hc.records hl hfrom hto hmatch
  obtain ⟨e, he, hnumber⟩ := (mem_fetchHeaders hc.headers).2 record hrecord
  refine ⟨e, he, ?_⟩
  rw [hnumber, hmerged.blockNumber]
  rfl

/-- Behind the old checkpoint the range is not empty. -/
theorem Committed.range (henv : FullRange cfg ch env st) (hc : Committed cfg env st st' reads batch)
    (hbatch : 0 < cfg.ckb.batchBlocks) (hnonneg : cfg.ckb.startBlock = 0 → 0 ≤ (st.checkpoint cfg).number.toInt) :
    (st.nextBlock cfg).toNat ≤ (reads.toBlock cfg st).toNat ∧
      ((st.nextBlock cfg).toNat : Int) = max ((st.checkpoint cfg).number.toInt + 1) cfg.ckb.startBlock.toNat ∧
      (st.checkpoint cfg).number.toInt < (reads.toBlock cfg st).toNat := by
  have htarget := hc.target_fits henv.serves
  have hnext := hc.nextBlock_toNat htarget
  have hpos : 1 ≤ (st.nextBlock cfg).toNat := by
    by_cases hzero : cfg.ckb.startBlock = 0
    · have hcheckpoint := hnonneg hzero
      omega
    · have hstart := startBlock_pos hzero
      omega
  have hle := (hc.nextBlock_le_toBlock_iff hbatch hpos htarget).mpr henv.fits
  exact ⟨hle, hnext, by omega⟩

/-- The headers of a committed round are the chain's. -/
theorem Committed.headers_say (henv : FullRange cfg ch env st) (hc : Committed cfg env st st' reads batch)
    (hle : (st.nextBlock cfg).toNat ≤ (reads.toBlock cfg st).toNat) :
    ∀ b ∈ headerBlocks env reads.headers (reads.toBlock cfg st) reads.checkpointHeader,
      SaysOf cfg ch b.number b.hash b.parentHash b.hasRgbppActivity ∧ b.number.toInt ≤ (reads.toBlock cfg st).toNat := by
  have htarget := hc.target_fits henv.serves
  have hlast := reads.toBlock_le_target cfg st
  have hcollected := collectRange_collected henv.serves.indexer hc.records
  have hheaders := mem_fetchHeaders hc.headers
  intro b hb
  unfold headerBlocks at hb
  dsimp only at hb
  rcases List.mem_append.mp hb with hb | hb
  · obtain ⟨e, he, rfl⟩ := List.mem_map.mp hb
    obtain ⟨⟨r, hr, hnumber⟩, hreply⟩ := hheaders.1 e he
    obtain ⟨l, hl⟩ := hcollected.merged r hr
    have hrange := (hcollected.inRange r hr).2
    rw [hnumber, UInt64.le_iff_toNat_le] at hrange
    have hfits : e.1.toNat < 2 ^ 63 := by omega
    obtain ⟨c, hcell⟩ := List.exists_mem_of_ne_nil _ (collectRange_named henv.names hc.records r hr)
    obtain ⟨kind, hmatch⟩ := hl.cells c hcell
    have hheight : l.height = e.1.toNat := by
      rw [← hnumber, hl.blockNumber]
      rfl
    refine ⟨.of_header henv.serves.node hfits hreply (iff_of_true rfl ⟨l, kind, c, hl.holds, hheight, hmatch⟩), ?_⟩
    show e.1.toInt64.toInt ≤ _
    rw [toInt_toInt64 hfits]
    omega
  · by_cases hall : ((reads.headers.map fun e => blockRecord env e.1 e.2 true).all fun b =>
        b.number ≠ (reads.toBlock cfg st).toInt64) = true
    · rw [if_pos hall, List.mem_singleton] at hb
      subst hb
      have hfits : (reads.toBlock cfg st).toNat < 2 ^ 63 := by omega
      refine ⟨.of_header henv.serves.node hfits hc.checkpointHeader (iff_of_false Bool.false_ne_true fun hactive => ?_), ?_⟩
      · obtain ⟨e, he, hnumber⟩ := hc.header_of_active henv hactive hle (Nat.le_refl _)
        have hnot := List.all_eq_true.mp hall _ (List.mem_map.mpr ⟨e, he, rfl⟩)
        rw [decide_eq_true_eq] at hnot
        exact hnot (congrArg UInt64.toInt64 (UInt64.toNat_inj.mp hnumber))
      · show (reads.toBlock cfg st).toInt64.toInt ≤ _
        rw [toInt_toInt64 hfits]
    · rw [if_neg hall] at hb
      cases hb

omit [Sha2] in
/-- The checkpoint block's header is among those of the round. -/
theorem exists_checkpointBlock (env : ScanEnv) (headers : List (UInt64 × RpcHeader)) (toBlock : UInt64) (header : RpcHeader) :
    ∃ b ∈ headerBlocks env headers toBlock header, b.number = toBlock.toInt64 := by
  unfold headerBlocks
  dsimp only
  by_cases hall : ((headers.map fun e => blockRecord env e.1 e.2 true).all fun b => b.number ≠ toBlock.toInt64) = true
  · rw [if_pos hall]
    exact ⟨_, List.mem_append_right _ (List.mem_singleton.mpr rfl), rfl⟩
  · rw [if_neg hall, List.append_nil]
    simp only [List.all_eq_true, decide_eq_true_eq, not_forall, ne_eq, not_not] at hall
    obtain ⟨b, hb, hnumber⟩ := hall
    exact ⟨b, hb, hnumber⟩

/-! ## What the table holds -/

/-- The table of headers, over the chain. -/
structure HeaderIndex (cfg : Config) (ch : Chain) (st : Store) : Prop where
  /-- every stored header is the chain's, and none is above the checkpoint -/
  row : ∀ n row, st.ckbBlocks.get? n = some row →
    SaysOf cfg ch n row.hash row.parentHash row.hasRgbppActivity ∧ n.toInt ≤ (st.checkpoint cfg).number.toInt
  /-- down to the retained depth, no block with activity is missing -/
  active : ∀ n : Int64, (cfg.firstBlock : Int) ≤ n.toInt → n.toInt ≤ (st.checkpoint cfg).number.toInt →
    (st.checkpoint cfg).number.toInt ≤ n.toInt + cfg.ckb.headerRetention.toNat → ch.Active cfg.protocol n.toInt.toNat →
      (st.ckbBlocks.get? n).isSome = true
  /-- the checkpoint's own header is there -/
  checkpoint : ∀ hash, (st.checkpoint cfg).hash = some hash →
    ∃ row, st.ckbBlocks.get? (st.checkpoint cfg).number = some row ∧ row.hash = hash
  /-- a stream that starts at block 0 stands behind it -/
  nonneg : cfg.ckb.startBlock = 0 → 0 ≤ (st.checkpoint cfg).number.toInt

omit [Sha2] in
theorem HeaderIndex.init : HeaderIndex cfg ch .empty where
  row n row h := by cases h
  active n hfirst hle := by
    have hlt := checkpoint_empty_lt cfg
    omega
  checkpoint hash h := by
    rw [checkpoint_empty] at h
    cases h
  nonneg := nonneg_checkpoint_empty

omit [Sha2] in
theorem HeaderIndex.noted (h : HeaderIndex cfg ch st) (hn : Noted cfg st st') : HeaderIndex cfg ch st' := by
  have hblocks : st'.ckbBlocks = st.ckbBlocks := by rw [hn.facts]
  constructor
  all_goals rw [hn.checkpoint]
  · rw [hblocks]
    exact h.row
  · rw [hblocks]
    exact h.active
  · rw [hblocks]
    exact h.checkpoint
  · exact h.nonneg

omit [Sha2] in
/-- Pruning spares what is within the retained depth. -/
theorem keepFrom_le {toBlock : UInt64} {n : Int64} (hfits : toBlock.toNat < 2 ^ 63) (hnonneg : 0 ≤ n.toInt)
    (hdepth : (toBlock.toNat : Int) ≤ n.toInt + cfg.ckb.headerRetention.toNat) : (keepFrom cfg toBlock).toInt64 ≤ n := by
  have hkeep : (keepFrom cfg toBlock).toNat = toBlock.toNat - cfg.ckb.headerRetention.toNat := by
    unfold keepFrom
    by_cases hlt : toBlock < cfg.ckb.headerRetention
    · rw [if_pos hlt]
      rw [UInt64.lt_iff_toNat_lt] at hlt
      show 0 = _
      omega
    · rw [if_neg hlt, UInt64.toNat_sub_of_le _ _ (UInt64.not_lt.mp hlt)]
  rw [Int64.le_iff_toInt_le, toInt_toInt64 (by omega), hkeep]
  omega

/-- **A pass keeps the headers the chain's**, and those the walk back needs. -/
theorem HeaderIndex.step {errorText : IndexerError → String} (h : HeaderIndex cfg ch st) (hbatch : 0 < cfg.ckb.batchBlocks)
    (henv : FullRange cfg ch env st) : HeaderIndex cfg ch (scannerStep cfg env errorText st) := by
  rcases scannerStep_headers cfg env errorText st with hnoted | ⟨reads, batch, hc, hafter⟩
  · exact h.noted hnoted
  obtain ⟨hle, hnext, habove⟩ := hc.range henv hbatch h.nonneg
  have htarget := hc.target_fits henv.serves
  have hfits : (reads.toBlock cfg st).toNat < 2 ^ 63 := Nat.lt_of_le_of_lt (reads.toBlock_le_target cfg st) htarget
  have hnumber : ((scannerStep cfg env errorText st).checkpoint cfg).number.toInt = (reads.toBlock cfg st).toNat :=
    hc.checkpoint_toInt htarget
  have hsays := hc.headers_say henv hle
  -- the rows before the pruning
  generalize hwritten : (headerBlocks env reads.headers (reads.toBlock cfg st) reads.checkpointHeader).foldl Store.blockUpsert
    st.ckbBlocks = written
  have hrows : ∀ n row, written.get? n = some row →
      SaysOf cfg ch n row.hash row.parentHash row.hasRgbppActivity ∧ n.toInt ≤ (reads.toBlock cfg st).toNat := by
    rw [← hwritten]
    refine Store.forall_foldl_blockUpsert
      (P := fun n hash parentHash activity => SaysOf cfg ch n hash parentHash activity ∧ n.toInt ≤ (reads.toBlock cfg st).toNat)
      (fun hold hnew => ⟨hold.1.or hnew.1, hnew.2⟩) hsays fun n row hrow => ?_
    obtain ⟨hrow, hbelow⟩ := h.row n row hrow
    exact ⟨hrow, by omega⟩
  have hpresent : ∀ n, (st.ckbBlocks.get? n).isSome = true ∨
      (∃ b ∈ headerBlocks env reads.headers (reads.toBlock cfg st) reads.checkpointHeader, b.number = n) →
        (written.get? n).isSome = true := by
    intro n hn
    rw [← hwritten]
    exact (Store.isSome_foldl_blockUpsert _ _ n).mpr hn
  -- and after it
  have hkept : ∀ n row, (scannerStep cfg env errorText st).ckbBlocks.get? n = some row → written.get? n = some row := by
    intro n row hrow
    rw [← hwritten]
    rcases hafter with hall | ⟨-, hpruned⟩
    · rw [hall] at hrow
      exact hrow
    · rw [hpruned, Table.get?_filter, Option.filter_eq_some_iff] at hrow
      exact hrow.1
  have hstays : ∀ n row, written.get? n = some row → 0 ≤ n.toInt →
      ((reads.toBlock cfg st).toNat : Int) ≤ n.toInt + cfg.ckb.headerRetention.toNat →
        (scannerStep cfg env errorText st).ckbBlocks.get? n = some row := by
    intro n row hrow hnonneg hdepth
    rw [← hwritten] at hrow
    rcases hafter with hall | ⟨-, hpruned⟩
    · rw [hall]
      exact hrow
    · rw [hpruned, Table.get?_filter, Option.filter_eq_some_iff]
      exact ⟨hrow, decide_eq_true (keepFrom_le hfits hnonneg hdepth)⟩
  refine ⟨?_, ?_, ?_, fun _ => by omega⟩
  · intro n row hrow
    rw [hnumber]
    exact hrows n row (hkept n row hrow)
  · intro n hfirst hbelow hdepth hactive
    rw [hnumber] at hbelow hdepth
    have hfirst' : cfg.firstBlock = max 1 cfg.ckb.startBlock.toNat := rfl
    have hsome : (written.get? n).isSome = true := by
      by_cases hold : n.toInt ≤ (st.checkpoint cfg).number.toInt
      · exact hpresent n (.inl (h.active n hfirst hold (by omega) hactive))
      · obtain ⟨e, he, hheight⟩ := hc.header_of_active henv hactive (by omega) (by omega)
        refine hpresent n (.inr ⟨blockRecord env e.1 e.2 true, List.mem_append_left _ (List.mem_map.mpr ⟨e, he, rfl⟩), ?_⟩)
        show e.1.toInt64 = n
        rw [← Int64.toInt_inj, toInt_toInt64 (by omega)]
        omega
    obtain ⟨row, hrow⟩ := Option.isSome_iff_exists.mp hsome
    rw [hstays n row hrow (by omega) hdepth]
    rfl
  · intro hash hhash
    rw [hc.checkpoint] at hhash ⊢
    dsimp only at hhash ⊢
    obtain rfl := Option.some.inj hhash
    have htop : (reads.toBlock cfg st).toInt64.toInt = (reads.toBlock cfg st).toNat := toInt_toInt64 hfits
    obtain ⟨row, hrow⟩ := Option.isSome_iff_exists.mp (hpresent (reads.toBlock cfg st).toInt64 (.inr (exists_checkpointBlock ..)))
    refine ⟨row, hstays _ row hrow (by omega) (by omega), ?_⟩
    obtain ⟨b, hb, hhash, -⟩ := (hrows _ row hrow).1.block
    obtain ⟨b', hb', hheader⟩ := henv.serves.node.header_sound _ _ hc.checkpointHeader
    rw [htop, Int.toNat_natCast, hb'] at hb
    rw [← hhash, ← Option.some.inj hb, hheader]

/-! ## The walk back -/

/-- What a search for a common ancestor walks: the chain's headers, newest first, from the checkpoint on; unless the limit
cut it short, every block with activity down to the retained depth is in it. -/
structure WalkBack (cfg : Config) (ch : Chain) (checkpoint : Checkpoint) (limit : Int64) (rows : List (Int64 × BlockRow)) : Prop where
  descending : rows.Pairwise fun a b => b.1 < a.1
  onChain : ∀ e ∈ rows, SaysOf cfg ch e.1 e.2.hash e.2.parentHash e.2.hasRgbppActivity
  newest : ∀ hash, checkpoint.hash = some hash → 0 < limit → ∃ row, rows.head? = some (checkpoint.number, row) ∧ row.hash = hash
  active : rows.length < limit.toInt.toNat → ∀ n : Int64, (cfg.firstBlock : Int) ≤ n.toInt → n.toInt ≤ checkpoint.number.toInt →
    checkpoint.number.toInt ≤ n.toInt + cfg.ckb.headerRetention.toNat → ch.Active cfg.protocol n.toInt.toNat →
      ∃ row, (n, row) ∈ rows

omit [Sha2] in
theorem Store.newestBlockFirst_isOrder : (∀ a b : Int64 × BlockRow, newestBlockFirst a b ∨ newestBlockFirst b a) ∧
    ∀ a b c : Int64 × BlockRow, newestBlockFirst a b → newestBlockFirst b c → newestBlockFirst a c := by
  unfold newestBlockFirst
  simp only [Int64.le_iff_toInt_le]
  exact ⟨fun a b => by omega, fun a b c hab hbc => by omega⟩

omit [Sha2] in
theorem HeaderIndex.walkBack (h : HeaderIndex cfg ch st) {limit : Int64} {rows : List (Int64 × BlockRow)}
    (hrows : st.blocksDescendingFrom (st.checkpoint cfg).number limit = .ok rows) :
    WalkBack cfg ch (st.checkpoint cfg) limit rows := by
  unfold Store.blocksDescendingFrom at hrows
  by_cases hlimit : limit < 0
  · rw [if_pos hlimit] at hrows
    cases hrows
  rw [if_neg hlimit] at hrows
  obtain rfl := Except.ok.inj hrows
  generalize hselected : (st.ckbBlocks.select fun n _ => decide (n ≤ (st.checkpoint cfg).number)) = selected
  have hmem : ∀ e, e ∈ selected ↔ st.ckbBlocks.get? e.1 = some e.2 := by
    intro e
    rw [← hselected, Table.mem_select, decide_eq_true_eq, and_iff_left_iff_imp]
    intro hrow
    rw [Int64.le_iff_toInt_le]
    exact (h.row e.1 e.2 hrow).2
  generalize hsorted : (selected.insertionSort fun a b => Store.newestBlockFirst a b) = sorted
  have hperm : sorted.Perm selected := hsorted ▸ List.perm_insertionSort _ _
  have hpairwise : sorted.Pairwise Store.newestBlockFirst := by
    have htotal : Std.Total Store.newestBlockFirst := ⟨Store.newestBlockFirst_isOrder.1⟩
    have htrans : IsTrans _ Store.newestBlockFirst := ⟨Store.newestBlockFirst_isOrder.2⟩
    rw [← hsorted]
    exact List.pairwise_insertionSort _ _
  -- no number twice
  have hnodup : (sorted.map Prod.fst).Nodup := by
    rw [(hperm.map Prod.fst).nodup_iff, ← hselected]
    exact Table.select_keys_nodup _ _
  have hstrict : sorted.Pairwise fun a b => b.1 < a.1 := by
    rw [List.Nodup, List.pairwise_map] at hnodup
    refine (hpairwise.and hnodup).imp fun {a b} hab => ?_
    obtain ⟨hle, hne⟩ := hab
    unfold Store.newestBlockFirst at hle
    have hneInt : a.1.toInt ≠ b.1.toInt := fun heq => hne (Int64.toInt_inj.mp heq)
    rw [Int64.le_iff_toInt_le] at hle
    rw [Int64.lt_iff_toInt_lt]
    omega
  have hrow : ∀ e, e ∈ sorted ↔ st.ckbBlocks.get? e.1 = some e.2 := fun e => hperm.mem_iff.trans (hmem e)
  refine ⟨hstrict.sublist (List.take_sublist ..), ?_, ?_, ?_⟩
  · intro e he
    exact (h.row e.1 e.2 ((hrow e).mp (List.mem_of_mem_take he))).1
  · intro hash hhash hpos
    obtain ⟨row, hget, hsays⟩ := h.checkpoint hash hhash
    have hin : ((st.checkpoint cfg).number, row) ∈ sorted := (hrow _).mpr hget
    refine ⟨row, ?_, hsays⟩
    cases sorted with
    | nil => cases hin
    | cons e rest =>
      have htake : 0 < limit.toInt.toNat := (toNat_toInt_pos hpos).2
      rw [List.head?_take, if_neg (by omega), List.head?_cons]
      -- nothing is above the checkpoint
      rcases List.mem_cons.mp hin with heq | hrest
      · rw [heq]
      · have hbelow := List.rel_of_pairwise_cons hstrict hrest
        have habove := (h.row e.1 e.2 ((hrow e).mp List.mem_cons_self)).2
        rw [Int64.lt_iff_toInt_lt] at hbelow
        dsimp only at hbelow
        omega
  · intro hshort n hfirst hbelow hdepth hactive
    obtain ⟨row, hget⟩ := Option.isSome_iff_exists.mp (h.active n hfirst hbelow hdepth hactive)
    rw [List.length_take] at hshort
    rw [List.take_of_length_le (by omega)]
    exact ⟨row, (hrow (n, row)).mpr hget⟩

/-- **After any run, the walk back from the checkpoint is what a search for a common ancestor needs**, whatever statements
failed in it: the endpoints serve the chain, the rich indexer reports a tip, and the ranges fit their integers. -/
theorem walk_back {errorText : IndexerError → String} (hbatch : 0 < cfg.ckb.batchBlocks) {envs : List ScanEnv}
    (hrun : ((scanner cfg errorText).restrict fun s env => FullRange cfg ch env s).Run .empty envs st)
    (limit : Int64) (rows : List (Int64 × BlockRow))
    (hrows : st.blocksDescendingFrom (st.checkpoint cfg).number limit = .ok rows) :
    WalkBack cfg ch (st.checkpoint cfg) limit rows := by
  refine HeaderIndex.walkBack (hrun.keeps (fun s env s' hs hstep => ?_) HeaderIndex.init) hrows
  obtain ⟨rfl, henv⟩ := hstep
  exact hs.step hbatch henv

end

/-! ## A walk over a small chain -/

theorem Chain.serve_names (ch : Chain) (tip : UInt64) : NamesCells (ch.serve tip) := by
  intro script fromBlock toBlock limit cursor page hpage record hrecord
  rw [Chain.getTransactionsPage_serve] at hpage
  rw [← Except.ok.inj hpage] at hrecord
  obtain ⟨l, hl, rfl⟩ := List.mem_map.mp (List.mem_of_mem_drop (List.mem_of_mem_take hrecord))
  have hlisted := (List.mem_filter.mp hl).2
  rw [decide_eq_true_eq] at hlisted
  exact hlisted.2.2

namespace Sample

/-- The deployment, with room for ten headers below the checkpoint. -/
def tenHeaders : Config := { Config.testnet 64 with ckb := { (Config.testnet 64).ckb with headerRetention := 10 } }

def indexed [Sha2] : Store := scannerStep tenHeaders (env (chain.serve 3)) (fun _ => "") .empty

end Sample

section
local instance headersSampleHash : Sha2 := .standard

open Sample in
/-- The checkpoint, and the block of the issuance below it. -/
theorem walk_back_sample : ∃ rows, indexed.blocksDescendingFrom 3 10 = .ok rows ∧
    rows.map (fun e => (e.1, e.2.hasRgbppActivity)) = [(3, false), (2, true)] ∧
      WalkBack tenHeaders chain (indexed.checkpoint tenHeaders) 10 rows := by
  have hlength : (3 : UInt64).toNat < chain.blocks.length := by decide +kernel
  have hcheckpoint : (indexed.checkpoint tenHeaders).number = 3 := by decide +kernel
  have hstep : ((scanner tenHeaders fun _ => "").restrict fun s env => FullRange tenHeaders chain env s).Run .empty
      [env (chain.serve 3)] indexed := by
    refine .single ⟨rfl, Chain.serve_serves hlength, Chain.serve_complete hlength, chain.serve_names 3, ?_, by decide +kernel⟩
    intro hnone
    cases hnone
  refine ⟨_, rfl, by decide +kernel, walk_back (by decide) hstep 10 _ ?_⟩
  rw [hcheckpoint]
  rfl

end
end RgbppIndexer
