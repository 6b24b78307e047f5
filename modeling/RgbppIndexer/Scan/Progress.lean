import RgbppIndexer.Scan.Runs

/-!
# Rounds that succeed

The other side of `Scan.Round`: with every call answered, by endpoints that
serve one chain, each part of a round succeeds as long as every cell it has to
resolve is readable.

* `collectRange_succeeds`, `fetchHeaders_succeeds`: reading a range.
* `processRecord_succeeds`: one record.
* `buildRound_succeeds`, `scanOnce_active`: the round.
-/
namespace RgbppIndexer

open RgbppIndexer.Core

/-- Every call of a round is answered. -/
structure Answers (env : ScanEnv) : Prop where
  faults : env.faults = {}
  tip : ∃ tip, env.replies.getTipBlockNumber = .ok tip
  indexerTip : ∃ reported, env.replies.getIndexerTip = .ok reported
  header : ∀ n, ∃ reply, env.replies.getHeaderByNumber n = .ok reply
  transaction : ∀ hash, ∃ reply, env.replies.getTransaction hash = .ok reply
  page : ∀ key limit cursor, ∃ page, env.replies.getTransactionsPage key .asc limit cursor = .ok page

/-- The blocks a round works on; `none` for a round with nothing to do. -/
def roundRange (cfg : Config) (env : ScanEnv) (st : Store) : Option (UInt64 × UInt64) :=
  match env.replies.syncedTip with
  | .error _ => none
  | .ok chainTip =>
    match cfg.safeCkbTarget chainTip with
    | none => none
    | some target =>
      if target.toInt64 ≤ (st.checkpoint cfg).number then none
      else some (st.nextBlock cfg, rangeTo cfg target (st.nextBlock cfg))

section
variable {cfg : Config} {ch : Chain} {env : ScanEnv} {st : Store} {tip fromBlock toBlock : UInt64}

theorem roundRange_eq_some : roundRange cfg env st = some (fromBlock, toBlock) ↔
    ∃ chainTip target, env.replies.syncedTip = .ok chainTip ∧ cfg.safeCkbTarget chainTip = some target ∧
      ¬ target.toInt64 ≤ (st.checkpoint cfg).number ∧ fromBlock = st.nextBlock cfg ∧
      toBlock = rangeTo cfg target (st.nextBlock cfg) := by
  constructor
  · intro h
    unfold roundRange at h
    cases htip : env.replies.syncedTip with
    | error e =>
      rw [htip] at h
      cases h
    | ok chainTip =>
      rw [htip] at h
      dsimp only at h
      cases htarget : cfg.safeCkbTarget chainTip with
      | none =>
        rw [htarget] at h
        cases h
      | some target =>
        rw [htarget] at h
        dsimp only at h
        by_cases hidle : target.toInt64 ≤ (st.checkpoint cfg).number
        · rw [if_pos hidle] at h
          cases h
        · rw [if_neg hidle] at h
          cases h
          exact ⟨chainTip, target, rfl, htarget, hidle, rfl, rfl⟩
  · intro h
    obtain ⟨chainTip, target, htip, htarget, hidle, rfl, rfl⟩ := h
    unfold roundRange
    rw [htip]
    dsimp only
    rw [htarget]
    dsimp only
    rw [if_neg hidle]

/-- A target is no higher than the node's tip. -/
theorem target_le_tip (htip : env.replies.getTipBlockNumber = .ok tip) {chainTip target : UInt64}
    (hchainTip : env.replies.syncedTip = .ok chainTip) (htarget : cfg.safeCkbTarget chainTip = some target) : target ≤ tip := by
  obtain ⟨nodeTip, reported, hnode, -, hmin⟩ := Replies.syncedTip_eq_ok hchainTip
  obtain rfl := Except.ok.inj (hnode.symm.trans htip)
  have hsafe := UInt64.le_iff_toNat_le.mp (Config.safeCkbTarget_eq_some htarget).2.2
  rw [hmin] at hsafe
  rw [UInt64.le_iff_toNat_le]
  cases reported with
  | none => exact hsafe
  | some t =>
    dsimp only at hsafe
    rw [UInt64.toNat_min] at hsafe
    omega

/-- A range ends no later than the tips it was read at. -/
theorem roundRange_le (hrange : roundRange cfg env st = some (fromBlock, toBlock))
    (htip : env.replies.getTipBlockNumber = .ok tip) {t : IndexerTip} (ht : env.replies.getIndexerTip = .ok (some t)) :
    toBlock ≤ tip ∧ toBlock ≤ t.blockNumber := by
  obtain ⟨chainTip, target, hchainTip, htarget, -, -, rfl⟩ := roundRange_eq_some.mp hrange
  obtain ⟨nodeTip, reported, hnode, hreported, hmin⟩ := Replies.syncedTip_eq_ok hchainTip
  obtain rfl := Except.ok.inj (hnode.symm.trans htip)
  obtain rfl := Except.ok.inj (hreported.symm.trans ht)
  have hsafe := UInt64.le_iff_toNat_le.mp (Config.safeCkbTarget_eq_some htarget).2.2
  rw [hmin] at hsafe
  dsimp only at hsafe
  rw [UInt64.toNat_min] at hsafe
  unfold rangeTo
  rw [UInt64.le_iff_toNat_le, UInt64.le_iff_toNat_le, UInt64.toNat_min]
  omega

/-! ## Reading a range -/

/-- With fuel for the longer of the two listings, both searches end. -/
theorem collectRange_succeeds {t : IndexerTip} (hanswers : Answers env) (hcomplete : IndexerComplete ch env.replies)
    (ht : env.replies.getIndexerTip = .ok (some t)) (hle : toBlock ≤ t.blockNumber) :
    ∃ fuel, ∀ pageFuel, fuel ≤ pageFuel →
      ∃ records, collectRange cfg { env with pageFuel } fromBlock toBlock = .ok records := by
  have hlimit := clientPageLimit_pos cfg
  have hsearch : ∀ kind, ∃ fuel, ∀ pageFuel, fuel ≤ pageFuel → ∃ found,
      env.replies.collectTransactionsInRange (clientPageLimit cfg) pageFuel (lockSearchScript cfg.protocol kind)
        fromBlock toBlock = .ok found := by
    intro kind
    obtain ⟨list, hpaged, -⟩ := hcomplete t ht (lockSearchScript cfg.protocol kind) fromBlock toBlock hle
    obtain ⟨At, hstart, hpages⟩ := hpaged.cursors
    refine ⟨list.length + 1, fun pageFuel hfuel => ?_⟩
    unfold Replies.collectTransactionsInRange
    by_cases hempty : fromBlock > toBlock
    · exact ⟨[], by rw [if_pos hempty]⟩
    · have hloop : ∃ found, env.replies.collectPages (rangeSearch (lockSearchScript cfg.protocol kind) fromBlock toBlock)
          (clientPageLimit cfg) fromBlock toBlock pageFuel none [] = .ok found :=
        collectPages_succeeds (hpages _) (fun cursor _ _ => hanswers.page _ _ cursor) hlimit hstart (by omega)
      obtain ⟨found, hfound⟩ := hloop
      rw [if_neg hempty]
      exact ⟨_, bind_eq_ok.mpr ⟨found, hfound, rfl⟩⟩
  obtain ⟨rgbppFuel, hrgbpp⟩ := hsearch .rgbpp
  obtain ⟨btcTimeFuel, hbtcTime⟩ := hsearch .btcTime
  refine ⟨max rgbppFuel btcTimeFuel, fun pageFuel hfuel => ?_⟩
  obtain ⟨rgbpp, hr⟩ := hrgbpp pageFuel (by omega)
  obtain ⟨btcTime, hb⟩ := hbtcTime pageFuel (by omega)
  unfold collectRange
  refine ⟨_, bind_eq_ok.mpr ⟨rgbpp, Except.intoIndexer_eq_ok.mpr hr, bind_eq_ok.mpr ⟨btcTime, ?_, rfl⟩⟩⟩
  exact Except.intoIndexer_eq_ok.mpr hb

theorem headerAt_succeeds (hanswers : Answers env) (hnode : NodeServes ch env.replies)
    (htip : env.replies.getTipBlockNumber = .ok tip) {n : UInt64} (hn : n ≤ tip) : ∃ header, headerAt env n = .ok header := by
  obtain ⟨reply, hreply⟩ := hanswers.header n
  cases reply with
  | none => exact absurd hreply (hnode.header_complete tip n htip hn)
  | some header =>
    refine ⟨header, ?_⟩
    unfold headerAt
    rw [hreply]
    rfl

/-- Every record up to the node's tip gets its header. -/
theorem fetchHeaders_succeeds (hanswers : Answers env) (hnode : NodeServes ch env.replies)
    (htip : env.replies.getTipBlockNumber = .ok tip) {records : List TxRecord}
    (hrecords : ∀ record ∈ records, record.blockNumber ≤ tip) :
    ∃ headers, fetchHeaders env records = .ok headers ∧
      ∀ record ∈ records, ∃ header, headerOf headers record.blockNumber = some header := by
  have hmem : ∀ n, n ∈ ((records.map TxRecord.blockNumber).insertionSort fun a b => a ≤ b).dedup ↔
      ∃ record ∈ records, record.blockNumber = n := by
    intro n
    rw [List.mem_dedup, List.mem_insertionSort, List.mem_map]
  obtain ⟨headers, hheaders⟩ : ∃ headers, fetchHeaders env records = .ok headers := by
    refine mapM_succeeds fun n hn => ?_
    obtain ⟨record, hrecord, rfl⟩ := (hmem n).mp hn
    obtain ⟨header, hheader⟩ := headerAt_succeeds hanswers hnode htip (hrecords record hrecord)
    exact ⟨_, bind_eq_ok.mpr ⟨header, hheader, rfl⟩⟩
  refine ⟨headers, hheaders, fun record hrecord => ?_⟩
  obtain ⟨e, he, hfetched⟩ := forall₂_mem_left (mapM_eq_ok.mp hheaders) ((hmem _).mpr ⟨record, hrecord, rfl⟩)
  obtain ⟨header, -, hpair⟩ := bind_eq_ok.mp hfetched
  rw [pure_eq_ok] at hpair
  have hsome : (headers.find? fun e => e.1 = record.blockNumber).isSome = true :=
    List.find?_isSome.mpr ⟨e, he, by rw [← hpair]; simp⟩
  unfold headerOf
  obtain ⟨found, hfound⟩ := Option.isSome_iff_exists.mp hsome
  exact ⟨found.2, by rw [hfound]; rfl⟩

/-! ## One record -/

/-- Every matched input of the record consumes a readable cell. -/
def InputsReadable (cfg : Config) (ch : Chain) (l : Located) (record : TxRecord) : Prop :=
  ∀ m ∈ matchedInputs record, ∀ op, l.tx.inputs[m.ioIndex.toNat]? = some ⟨op⟩ → ∃ cell, ch.HasCell cfg.protocol op cell

variable {l : Located} {record : TxRecord}

theorem resolveMatched_succeeds {created touched : CkbOutPoint → Prop} {consumed : CkbOutPoint → Consumption → Prop}
    (hanswers : Answers env) (hnode : NodeServes ch env.replies) (htip : env.replies.getTipBlockNumber = .ok tip)
    (hheight : l.height ≤ tip.toNat) (hrows : KnownRows cfg ch st.rgbppCells)
    (hrecord : MergedRecord ch cfg.protocol l record) (hreadable : InputsReadable cfg ch l record) {batch : IndexBatch}
    {done : List MatchedCell} {m : MatchedCell} {loop : InputLoop} (hm : m ∈ matchedInputs record)
    (h : InputsMatch cfg ch st l created touched consumed batch done loop) :
    ∃ loop', resolveMatched cfg env st record l.tx loop m = .ok loop' := by
  obtain ⟨op, creator, output, kind, hin, hout, hle, hkind⟩ := hrecord.input hm
  obtain ⟨cell, hcell⟩ := hreadable m hm op hin
  have hres := resolveInput_resolution m.ioIndex loop.2.1 loop.2.2 hnode htip h.known hrows hout (by omega) hkind
  unfold resolveMatched
  rw [hin]
  dsimp only
  generalize resolveInput cfg env st op m.ioIndex loop.2.1 loop.2.2 = result at hres
  cases hres with
  | known cell hcell hpresent => exact ⟨_, bind_eq_ok.mpr ⟨_, rfl, rfl⟩⟩
  | backfilled cell hcell hfresh habsent => exact ⟨_, bind_eq_ok.mpr ⟨_, rfl, rfl⟩⟩
  | failed e hwhy =>
    rcases hwhy with hfault | ⟨x, hx⟩ | hnone
    · rw [hanswers.faults] at hfault
      exact absurd rfl hfault
    · obtain ⟨reply, hreply⟩ := hanswers.transaction op.txHash
      rw [hreply] at hx
      cases hx
    · exact absurd hcell (hnone cell)

theorem processTransaction_succeeds [Sha2] (hanswers : Answers env) (hnode : NodeServes ch env.replies)
    (htip : env.replies.getTipBlockNumber = .ok tip) (hheight : l.height ≤ tip.toNat)
    (hrows : KnownRows cfg ch st.rgbppCells) (hrecord : MergedRecord ch cfg.protocol l record)
    (hreadable : InputsReadable cfg ch l record) {indexed done : List Entry} {batch : IndexBatch}
    (h : BatchMatch cfg ch st indexed done batch) (block : BlockContext) (round : ScanRound) :
    ∃ p, processTransaction cfg env st record block l.committed batch round = .ok p := by
  have hseen : ∀ op c, ConsumedBy indexed op c → TouchedBy (indexed ++ done) op := fun op c hc =>
    (TouchedBy.append ..).mpr (.inl hc.touched)
  obtain ⟨⟨resolved, b, r⟩, hloop, -⟩ := foldlM_succeeds
    (P := InputsMatch cfg ch st l (CreatedBy (indexed ++ done)) (TouchedBy (indexed ++ done)) (ConsumedBy indexed) batch)
    (fun d m s hm hs => by
      obtain ⟨s', hs'⟩ := resolveMatched_succeeds hanswers hnode htip hheight hrows hrecord hreadable hm hs
      exact ⟨s', hs', resolveMatched_inputs hnode htip hheight hrows hrecord hseen hm hs hs'⟩) (h.inputs l round)
  unfold processTransaction Located.committed
  dsimp only
  cases hextract : extract cfg.protocol cfg.assets record.txHash l.tx.outputs l.tx.outputsData resolved block with
  | ok extracted => exact ⟨_, bind_eq_ok.mpr ⟨_, hloop, by simp only [hextract]; rfl⟩⟩
  | error e => exact ⟨_, bind_eq_ok.mpr ⟨_, hloop, by simp only [hextract]; rfl⟩⟩

/-- A record is processed, and its entry added. -/
theorem processRecord_succeeds [Sha2] (hanswers : Answers env) (hserves : Serves ch env.replies)
    (htip : env.replies.getTipBlockNumber = .ok tip) (hrows : KnownRows cfg ch st.rgbppCells) {records : List TxRecord}
    {headers : List (UInt64 × RpcHeader)} (hheaders : fetchHeaders env records = .ok headers) {header : RpcHeader}
    (hheader : headerOf headers record.blockNumber = some header) (hrecord : MergedRecord ch cfg.protocol l record)
    (hheight : l.height ≤ tip.toNat) (hreadable : InputsReadable cfg ch l record) {indexed done : List Entry}
    {p : IndexBatch × ScanRound} (h : BatchMatch cfg ch st indexed done p.1) :
    ∃ p', processRecord cfg env st headers p record = .ok p' ∧ BatchMatch cfg ch st indexed (done ++ [record.entry l]) p'.1 := by
  obtain ⟨reply, hreply⟩ := hanswers.transaction record.txHash
  have hsame := hreply
  rw [hrecord.txHash] at hsame
  obtain rfl := hserves.node.transaction tip l reply htip hrecord.holds hheight hsame
  obtain ⟨p', hp'⟩ := processTransaction_succeeds hanswers hserves.node htip hheight hrows hrecord hreadable h
    { number := record.blockNumber, hash := header.hash, timestamp := ckbTimestamp env.now header.timestamp,
      txIndex := record.txIndex } p.2
  have hok : processRecord cfg env st headers p record = .ok p' := by
    unfold processRecord
    refine bind_eq_ok.mpr ⟨_, Except.intoIndexer_eq_ok.mpr hreply, ?_⟩
    dsimp only
    rw [hheader]
    exact hp'
  exact ⟨p', hok, processRecord_match hserves htip hrows hheaders hrecord hheight h hok⟩

/-! ## The round -/

/-- The checkpoint of a chain is still on it. -/
theorem assertCheckpointStillCanonical_succeeds (hanswers : Answers env) (hnode : NodeServes ch env.replies)
    (htip : env.replies.getTipBlockNumber = .ok tip) {state : StreamState}
    (honChain : ∀ hash, state.lastBlockHash = some hash →
      ∃ b, ch.blocks[state.lastBlockNumber.toInt.toNat]? = some b ∧ b.header.hash.toVec = hash)
    (hle : state.lastBlockNumber.toInt ≤ tip.toNat) : assertCheckpointStillCanonical env state = .ok () := by
  unfold assertCheckpointStillCanonical
  cases hhash : state.lastBlockHash with
  | none => rfl
  | some hash =>
    dsimp only
    by_cases hpos : state.lastBlockNumber > 0
    · have hpos' : 0 < state.lastBlockNumber.toInt := Int64.lt_iff_toInt_lt.mp hpos
      have hnat := toNat_toUInt64 (x := state.lastBlockNumber) (by omega)
      have hn : state.lastBlockNumber.toUInt64 ≤ tip := by
        rw [UInt64.le_iff_toNat_le]
        omega
      obtain ⟨reply, hreply⟩ := hanswers.header state.lastBlockNumber.toUInt64
      cases reply with
      | none => exact absurd hreply (hnode.header_complete tip _ htip hn)
      | some header =>
        obtain ⟨b, hb, rfl⟩ := hnode.header_sound _ _ hreply
        obtain ⟨b', hb', hhash'⟩ := honChain hash hhash
        rw [show state.lastBlockNumber.toInt.toNat = state.lastBlockNumber.toUInt64.toNat by omega] at hb'
        obtain rfl := Option.some.inj (hb.symm.trans hb')
        rw [if_pos hpos]
        refine bind_eq_ok.mpr ⟨_, Except.intoIndexer_eq_ok.mpr hreply, ?_⟩
        dsimp only
        rw [if_pos hhash']
        rfl
    · rw [if_neg hpos]

theorem buildRound_succeeds [Sha2] (hanswers : Answers env) (hserves : Serves ch env.replies)
    (htip : env.replies.getTipBlockNumber = .ok tip) {indexed : List Entry} (hmatch : IndexMatch cfg ch indexed st)
    {state : StreamState} (honChain : ∀ hash, state.lastBlockHash = some hash →
      ∃ b, ch.blocks[state.lastBlockNumber.toInt.toNat]? = some b ∧ b.header.hash.toVec = hash)
    {target : UInt64} (htarget : target ≤ tip) (habove : ¬ target.toInt64 ≤ state.lastBlockNumber)
    {records : List TxRecord} (hrecords : collectRange cfg env (rangeFrom cfg state.lastBlockNumber)
      (rangeTo cfg target (rangeFrom cfg state.lastBlockNumber)) = .ok records)
    (hreadable : ∀ record ∈ records, ∀ l, MergedRecord ch cfg.protocol l record → InputsReadable cfg ch l record)
    (chainTip : UInt64) : ∃ built, buildRound cfg env st state chainTip target = .ok built := by
  have hto : rangeTo cfg target (rangeFrom cfg state.lastBlockNumber) ≤ tip := by
    unfold rangeTo
    rw [UInt64.le_iff_toNat_le, UInt64.toNat_min]
    rw [UInt64.le_iff_toNat_le] at htarget
    omega
  have hcollected := collectRange_collected hserves.indexer hrecords
  have hlt := hserves.node.tip_lt tip htip
  have hlen := ch.length_le
  have htargetNat := UInt64.le_iff_toNat_le.mp htarget
  have hcanonical := assertCheckpointStillCanonical_succeeds hanswers hserves.node htip honChain (by
    rw [Int64.le_iff_toInt_le, toInt_toInt64 (by omega)] at habove
    omega)
  obtain ⟨headers, hheaders, hheaderOf⟩ := fetchHeaders_succeeds hanswers hserves.node htip
    fun record hmem => UInt64.le_trans (hcollected.inRange record hmem).2 hto
  let start : IndexBatch := {
    chainTip := chainTip.toInt64, target := target.toInt64, reorgLag := cfg.ckb.reorgLag.toInt64 }
  let round : ScanRound := {
    fromBlock := rangeFrom cfg state.lastBlockNumber
    toBlock := rangeTo cfg target (rangeFrom cfg state.lastBlockNumber)
    chainTip, target, transactions := records.length }
  -- the loop over the records: each pass finds its header and the batch matches what is done so far
  have hpass : ∀ (seen : List TxRecord) record p, record ∈ records → (∃ done, BatchMatch cfg ch st indexed done p.1) →
      ∃ p', processRecord cfg env st headers p record = .ok p' ∧ ∃ done, BatchMatch cfg ch st indexed done p'.1 := by
    intro seen record p hmem hp
    obtain ⟨done, hdone⟩ := hp
    obtain ⟨l, hl⟩ := hcollected.merged record hmem
    obtain ⟨header, hheader⟩ := hheaderOf record hmem
    have hheight : l.height ≤ tip.toNat := by
      have hle := UInt64.le_iff_toNat_le.mp (UInt64.le_trans (hcollected.inRange record hmem).2 hto)
      rw [hl.blockNumber] at hle
      exact hle
    obtain ⟨p', hp', hmatch'⟩ := processRecord_succeeds hanswers hserves htip hmatch.cells.knownRows hheaders hheader hl
      hheight (hreadable record hmem l hl) hdone
    exact ⟨p', hp', _, hmatch'⟩
  have hstart : ∃ done, BatchMatch cfg ch st indexed done start := ⟨[], hmatch.start rfl rfl rfl⟩
  have hloop : ∃ built, records.foldlM (processRecord cfg env st headers) (start, round) = .ok built := by
    obtain ⟨built, hbuilt, -⟩ := @foldlM_succeeds _ _ _ (processRecord cfg env st headers)
      (fun _ p => ∃ done, BatchMatch cfg ch st indexed done p.1) records hpass (start, round) [] hstart
    exact ⟨built, hbuilt⟩
  obtain ⟨built, hbuilt⟩ := hloop
  obtain ⟨header, hheader⟩ : ∃ header, checkpointHeader env headers
      (rangeTo cfg target (rangeFrom cfg state.lastBlockNumber)) = .ok header := by
    unfold checkpointHeader
    cases headerOf headers (rangeTo cfg target (rangeFrom cfg state.lastBlockNumber)) with
    | some header => exact ⟨header, rfl⟩
    | none => exact headerAt_succeeds hanswers hserves.node htip hto
  unfold buildRound
  exact ⟨_, bind_eq_ok.mpr ⟨(), hcanonical, bind_eq_ok.mpr ⟨records, hrecords, bind_eq_ok.mpr ⟨headers, hheaders,
    bind_eq_ok.mpr ⟨built, hbuilt, bind_eq_ok.mpr ⟨header, hheader, rfl⟩⟩⟩⟩⟩⟩

/-- A round of which every call is answered reads a tip. -/
theorem syncedTip_succeeds (hanswers : Answers env) : ∃ chainTip, env.replies.syncedTip = .ok chainTip := by
  obtain ⟨nodeTip, htip⟩ := hanswers.tip
  obtain ⟨reported, hreported⟩ := hanswers.indexerTip
  unfold Replies.syncedTip
  cases reported with
  | none => exact ⟨nodeTip, bind_eq_ok.mpr ⟨nodeTip, htip, bind_eq_ok.mpr ⟨none, hreported, rfl⟩⟩⟩
  | some t => exact ⟨min nodeTip t.blockNumber, bind_eq_ok.mpr ⟨nodeTip, htip, bind_eq_ok.mpr ⟨some t, hreported, rfl⟩⟩⟩

/-- The stream row is there once it is inserted. -/
theorem exists_stream (cfg : Config) (st : Store) (now : DateTime) : ∃ state,
    (st.insertStream CKB_STREAM cfg.ckb.startBlock now).getStreamState CKB_STREAM = some state ∧
      state.checkpoint = st.checkpoint cfg := by
  refine ⟨_, Store.getStreamState_insertStream .., ?_⟩
  have hcp := (noted_insertStream cfg st now).checkpoint
  rw [Store.checkpoint_of_state (Store.getStreamState_insertStream ..)] at hcp
  exact hcp

/-- A round with nothing to do succeeds. -/
theorem scanOnce_idle [Sha2] (hanswers : Answers env) (hidle : roundRange cfg env st = none) :
    ∃ round, (scanOnce cfg env st).1 = .ok round := by
  obtain ⟨chainTip, htip⟩ := syncedTip_succeeds hanswers
  obtain ⟨state, hstate, hcp⟩ := exists_stream cfg st env.now
  unfold scanOnce
  rw [hanswers.faults]
  dsimp only
  rw [hstate]
  dsimp only
  rw [htip]
  dsimp only
  cases htarget : cfg.safeCkbTarget chainTip with
  | none => exact ⟨_, rfl⟩
  | some target =>
    dsimp only
    have hle : target.toInt64 ≤ state.lastBlockNumber := by
      by_contra habove
      have hactive : roundRange cfg env st = some (_, _) :=
        roundRange_eq_some.mpr ⟨chainTip, target, htip, htarget, by rw [← hcp]; exact habove, rfl, rfl⟩
      rw [hidle] at hactive
      cases hactive
    rw [if_pos hle]
    exact ⟨_, rfl⟩

variable (cfg st) in
/-- With no statement failing, a batch is applied. -/
theorem commitRound_succeeds (hanswers : Answers env) (batch : IndexBatch) (round : ScanRound) :
    (∃ r, (commitRound cfg env st batch round).1 = .ok r) ∧
      ∃ blocks, (commitRound cfg env st batch round).2 = { (st.applyBatch batch env.now).1 with ckbBlocks := blocks } := by
  unfold commitRound
  rw [hanswers.faults]
  dsimp only
  by_cases hkeep : keepFrom cfg round.toBlock > 0
  · rw [if_pos hkeep]
    exact ⟨⟨_, rfl⟩, _, rfl⟩
  · rw [if_neg hkeep]
    exact ⟨⟨_, rfl⟩, _, rfl⟩

/-- A round with a range to read succeeds and commits it exactly when the batch can be built. -/
theorem scanOnce_active [Sha2] (hanswers : Answers env) (hactive : roundRange cfg env st = some (fromBlock, toBlock)) :
    ∃ st₀ state chainTip target, Noted cfg st st₀ ∧ state.checkpoint = st.checkpoint cfg ∧
      env.replies.syncedTip = .ok chainTip ∧ cfg.safeCkbTarget chainTip = some target ∧
      ¬ target.toInt64 ≤ state.lastBlockNumber ∧ fromBlock = rangeFrom cfg state.lastBlockNumber ∧
      toBlock = rangeTo cfg target fromBlock ∧
      ((∃ e, buildRound cfg env st₀ state chainTip target = .error e ∧ (scanOnce cfg env st).1 = .error e) ∨
        ((∃ built, buildRound cfg env st₀ state chainTip target = .ok built) ∧
          (∃ round, (scanOnce cfg env st).1 = .ok round) ∧
          ∃ reads batch, Committed cfg env st (scanOnce cfg env st).2 reads batch ∧ reads.toBlock cfg st = toBlock)) := by
  obtain ⟨chainTip, target, htip, htarget, habove, rfl, rfl⟩ := roundRange_eq_some.mp hactive
  obtain ⟨state, hstate, hcp⟩ := exists_stream cfg st env.now
  have hnumber : state.lastBlockNumber = (st.checkpoint cfg).number := congrArg Checkpoint.number hcp
  have hprogress := (noted_insertStream cfg st env.now).trans (noted_recordChainProgress cfg
    (st.insertStream CKB_STREAM cfg.ckb.startBlock env.now) chainTip target cfg.ckb.reorgLag env.now)
  rw [← hnumber] at habove
  refine ⟨_, state, chainTip, target, hprogress, hcp, htip, htarget, habove, ?_, rfl, ?_⟩
  · rw [Store.nextBlock, hnumber]
  unfold scanOnce
  rw [hanswers.faults]
  dsimp only
  rw [hstate]
  dsimp only
  rw [htip]
  dsimp only
  rw [htarget]
  dsimp only
  rw [if_neg habove]
  cases hbuild : buildRound cfg env ((st.insertStream CKB_STREAM cfg.ckb.startBlock env.now).recordChainProgress
      CKB_STREAM chainTip target cfg.ckb.reorgLag env.now) state chainTip target with
  | error e => exact .inl ⟨e, rfl, rfl⟩
  | ok built =>
    obtain ⟨batch, round⟩ := built
    obtain ⟨hround, blocks, hst'⟩ := commitRound_succeeds cfg ((st.insertStream CKB_STREAM cfg.ckb.startBlock
      env.now).recordChainProgress CKB_STREAM chainTip target cfg.ckb.reorgLag env.now) hanswers batch round
    obtain ⟨reads, b, hcommitted⟩ := committed_of_built
      (getStreamState_recordChainProgress hstate chainTip target cfg.ckb.reorgLag env.now)
      ((noted_recordChainProgress ..).checkpoint.trans (Store.checkpoint_of_state hstate cfg)) htip htarget habove hbuild hst'
    have hc := hcommitted.noted hprogress (.refl ..)
    refine .inr ⟨⟨_, rfl⟩, hround, reads, b, hc, ?_⟩
    have hchainTip : reads.chainTip = chainTip := Except.ok.inj (hc.tip.symm.trans htip)
    have hsame := hc.target
    rw [hchainTip, htarget] at hsame
    rw [RoundReads.toBlock, Option.some.inj hsame]

end
end RgbppIndexer
