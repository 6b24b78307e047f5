import RgbppIndexer.Scan.Collect

/-!
# What one pass of the scanner does

Everything a pass of the scanner's loop can do to the database, said once.
It leaves a note in the stream row at most (`Noted`), or it commits one batch
(`Committed`): the cells, spends and transitions of the records it collected,
and the checkpoint at the end of the range.

* `buildRound_eq_ok`, `scanOnce_built`, `scanOnce_cases`: the two halves of a round.
* `scannerStep_cases`: a whole pass, with what follows a failed round.
-/
namespace RgbppIndexer

open RgbppIndexer.Core

/-- How far the scanner has got. -/
structure Checkpoint where
  number : Int64
  hash : Option Bytes
  deriving DecidableEq, Repr

def StreamState.checkpoint (s : StreamState) : Checkpoint := ⟨s.lastBlockNumber, s.lastBlockHash⟩

/-- The checkpoint a round of this configuration starts from: a fresh stream stands before its first block. -/
def Store.checkpoint (st : Store) (cfg : Config) : Checkpoint :=
  match st.getStreamState CKB_STREAM with
  | some s => s.checkpoint
  | none => ⟨(if cfg.ckb.startBlock = 0 then 0 else cfg.ckb.startBlock - 1).toInt64, none⟩

theorem Store.checkpoint_of_state {st : Store} {s : StreamState} (h : st.getStreamState CKB_STREAM = some s)
    (cfg : Config) : st.checkpoint cfg = s.checkpoint := by
  unfold Store.checkpoint
  rw [h]

/-- The database but for the stream row. -/
def SameFacts (st st' : Store) : Prop := st' = { st with indexerState := st'.indexerState }

/-- A pass that committed nothing. -/
structure Noted (cfg : Config) (st st' : Store) : Prop where
  facts : SameFacts st st'
  checkpoint : st'.checkpoint cfg = st.checkpoint cfg

/-- What a round that commits has read. -/
structure RoundReads where
  chainTip : UInt64
  target : UInt64
  records : List TxRecord
  headers : List (UInt64 × RpcHeader)
  checkpointHeader : RpcHeader

/-- The first block of the range a round works on. -/
def Store.nextBlock (st : Store) (cfg : Config) : UInt64 := rangeFrom cfg (st.checkpoint cfg).number

/-- The last block of that range. -/
def RoundReads.toBlock (reads : RoundReads) (cfg : Config) (st : Store) : UInt64 :=
  rangeTo cfg reads.target (st.nextBlock cfg)

/-- A pass that committed a batch. -/
structure Committed [Sha2] (cfg : Config) (env : ScanEnv) (st st' : Store) (reads : RoundReads) (batch : IndexBatch) : Prop where
  tip : env.replies.syncedTip = .ok reads.chainTip
  target : cfg.safeCkbTarget reads.chainTip = some reads.target
  above : ¬ reads.target.toInt64 ≤ (st.checkpoint cfg).number
  /-- the checkpoint block was still on the node's chain -/
  canonical : ∀ hash, (st.checkpoint cfg).hash = some hash → 0 < (st.checkpoint cfg).number →
    ∃ header, env.replies.getHeaderByNumber (st.checkpoint cfg).number.toUInt64 = .ok (some header) ∧
      header.hash.toVec = hash
  records : collectRange cfg env (st.nextBlock cfg) (reads.toBlock cfg st) = .ok reads.records
  headers : fetchHeaders env reads.records = .ok reads.headers
  /-- the records were processed one by one, from an empty batch -/
  built : ∃ st₀ start round round', st₀.rgbppCells = st.rgbppCells ∧ start.cells = [] ∧ start.spends = [] ∧
    start.transitions = [] ∧ reads.records.foldlM (processRecord cfg env st₀ reads.headers) (start, round) = .ok (batch, round')
  checkpointHeader : env.replies.getHeaderByNumber (reads.toBlock cfg st) = .ok (some reads.checkpointHeader)
  facts : st' = { st with
    indexerState := st'.indexerState
    ckbBlocks := st'.ckbBlocks
    rgbppCells := batch.spends.foldl Store.cellSpend (batch.cells.foldl Store.cellInsert st.rgbppCells)
    rgbppTransitions := batch.transitions.foldl Store.transitionInsert st.rgbppTransitions }
  checkpoint : st'.checkpoint cfg = ⟨(reads.toBlock cfg st).toInt64, some reads.checkpointHeader.hash.toVec⟩

theorem RoundReads.toBlock_le_target (reads : RoundReads) (cfg : Config) (st : Store) :
    (reads.toBlock cfg st).toNat ≤ reads.target.toNat := by
  unfold RoundReads.toBlock rangeTo
  rw [UInt64.toNat_min]
  omega

/-- The range never passes the tip the round read, nor the node's. -/
theorem Committed.toBlock_le_chainTip [Sha2] {cfg : Config} {env : ScanEnv} {st st' : Store} {reads : RoundReads}
    {batch : IndexBatch} (h : Committed cfg env st st' reads batch) :
    (reads.toBlock cfg st).toNat ≤ reads.chainTip.toNat := by
  have htarget := reads.toBlock_le_target cfg st
  have hsafe := (Config.safeCkbTarget_eq_some h.target).2.2
  rw [UInt64.le_iff_toNat_le] at hsafe
  omega

theorem syncedTip_le_node {env : ScanEnv} {chainTip : UInt64} (h : env.replies.syncedTip = .ok chainTip) :
    ∃ nodeTip, env.replies.getTipBlockNumber = .ok nodeTip ∧ chainTip.toNat ≤ nodeTip.toNat := by
  obtain ⟨nodeTip, reported, htip, -, hmin⟩ := Replies.syncedTip_eq_ok h
  refine ⟨nodeTip, htip, ?_⟩
  rw [hmin]
  cases reported with
  | none => exact Nat.le_refl _
  | some t =>
    dsimp only
    rw [UInt64.toNat_min]
    exact Nat.min_le_left ..

theorem Committed.toBlock_le [Sha2] {cfg : Config} {env : ScanEnv} {st st' : Store} {reads : RoundReads}
    {batch : IndexBatch} (h : Committed cfg env st st' reads batch) :
    ∃ nodeTip, env.replies.getTipBlockNumber = .ok nodeTip ∧ (reads.toBlock cfg st).toNat ≤ nodeTip.toNat := by
  obtain ⟨nodeTip, htip, hle⟩ := syncedTip_le_node h.tip
  exact ⟨nodeTip, htip, h.toBlock_le_chainTip.trans hle⟩

/-! ## Headers -/

theorem headerAt_eq_ok {env : ScanEnv} {number : UInt64} {header : RpcHeader} (h : headerAt env number = .ok header) :
    env.replies.getHeaderByNumber number = .ok (some header) := by
  unfold headerAt at h
  rw [bind_eq_ok] at h
  obtain ⟨reply, hreply, h⟩ := h
  rw [Except.intoIndexer_eq_ok] at hreply
  cases reply with
  | none => cases h
  | some found =>
    rw [pure_eq_ok] at h
    rw [hreply, h]

/-- A fetched header is the node's header at its number. -/
theorem headerOf_eq_some {env : ScanEnv} {records : List TxRecord} {headers : List (UInt64 × RpcHeader)} {number : UInt64}
    {header : RpcHeader} (hfetch : fetchHeaders env records = .ok headers) (h : headerOf headers number = some header) :
    env.replies.getHeaderByNumber number = .ok (some header) := by
  unfold headerOf at h
  rw [Option.map_eq_some_iff] at h
  obtain ⟨e, hfind, rfl⟩ := h
  have hmem := List.mem_of_find?_eq_some hfind
  have hnumber := List.find?_some hfind
  simp only [decide_eq_true_eq] at hnumber
  unfold fetchHeaders at hfetch
  obtain ⟨n, -, hn⟩ := forall₂_mem_right (mapM_eq_ok.mp hfetch) hmem
  rw [bind_eq_ok] at hn
  obtain ⟨found, hfound, hn⟩ := hn
  rw [pure_eq_ok] at hn
  subst hn
  rw [← hnumber]
  exact headerAt_eq_ok hfound

theorem checkpointHeader_eq_ok {env : ScanEnv} {records : List TxRecord} {headers : List (UInt64 × RpcHeader)}
    {number : UInt64} {header : RpcHeader} (hfetch : fetchHeaders env records = .ok headers)
    (h : checkpointHeader env headers number = .ok header) : env.replies.getHeaderByNumber number = .ok (some header) := by
  unfold checkpointHeader at h
  cases hof : headerOf headers number with
  | some found =>
    rw [hof] at h
    simp only [Except.ok.injEq] at h
    rw [← h]
    exact headerOf_eq_some hfetch hof
  | none =>
    rw [hof] at h
    exact headerAt_eq_ok h

/-! ## The reading half -/

theorem assertCheckpointStillCanonical_eq_ok {env : ScanEnv} {state : StreamState}
    (h : assertCheckpointStillCanonical env state = .ok ()) :
    ∀ hash, state.lastBlockHash = some hash → 0 < state.lastBlockNumber →
      ∃ header, env.replies.getHeaderByNumber state.lastBlockNumber.toUInt64 = .ok (some header) ∧
        header.hash.toVec = hash := by
  intro hash hhash hpos
  unfold assertCheckpointStillCanonical at h
  rw [hhash] at h
  dsimp only at h
  rw [if_pos hpos, bind_eq_ok] at h
  obtain ⟨reply, hreply, h⟩ := h
  rw [Except.intoIndexer_eq_ok] at hreply
  cases reply with
  | none => cases h
  | some header =>
    dsimp only at h
    by_cases heq : header.hash.toVec = hash
    · exact ⟨header, hreply, heq⟩
    · rw [if_neg heq] at h
      cases h

/-- What a batch is built from, and what the round says of itself. -/
theorem buildRound_eq_ok [Sha2] {cfg : Config} {env : ScanEnv} {st : Store} {state : StreamState}
    {chainTip target : UInt64} {batch : IndexBatch} {round : ScanRound}
    (h : buildRound cfg env st state chainTip target = .ok (batch, round)) :
    let fromBlock := rangeFrom cfg state.lastBlockNumber
    let toBlock := rangeTo cfg target fromBlock
    assertCheckpointStillCanonical env state = .ok () ∧
      ∃ (records : List TxRecord) (headers : List (UInt64 × RpcHeader)) (header : RpcHeader) (built : IndexBatch),
        collectRange cfg env fromBlock toBlock = .ok records ∧
        fetchHeaders env records = .ok headers ∧
        records.foldlM (processRecord cfg env st headers)
          ({ chainTip := chainTip.toInt64, target := target.toInt64, reorgLag := cfg.ckb.reorgLag.toInt64 },
            { fromBlock, toBlock, chainTip, target, transactions := records.length }) = .ok (built, round) ∧
        checkpointHeader env headers toBlock = .ok header ∧
        let activity := headers.map fun e => blockRecord env e.1 e.2 true
        batch = { built with
          blocks := built.blocks ++ activity ++
            if activity.all (fun b => b.number ≠ toBlock.toInt64) then [blockRecord env toBlock header false] else []
          checkpointNumber := toBlock.toInt64
          checkpointHash := some header.hash.toVec } := by
  unfold buildRound at h
  rw [bind_eq_ok] at h
  obtain ⟨⟨⟩, hcanonical, h⟩ := h
  dsimp only at h
  rw [bind_eq_ok] at h
  obtain ⟨records, hrecords, h⟩ := h
  rw [bind_eq_ok] at h
  obtain ⟨headers, hheaders, h⟩ := h
  rw [bind_eq_ok] at h
  obtain ⟨⟨built, round'⟩, hbuilt, h⟩ := h
  dsimp only at h
  rw [bind_eq_ok] at h
  obtain ⟨header, hfound, h⟩ := h
  rw [pure_eq_ok] at h
  simp only [Prod.mk.injEq] at h
  obtain ⟨rfl, rfl⟩ := h
  exact ⟨hcanonical, records, headers, header, built, hrecords, hheaders, hbuilt, hfound, rfl⟩

/-! ## Notes in the stream row -/

theorem SameFacts.refl (st : Store) : SameFacts st st := rfl

theorem SameFacts.trans {a b c : Store} (h : SameFacts a b) (h' : SameFacts b c) : SameFacts a c := by
  unfold SameFacts at h h' ⊢
  rw [h', h]

theorem Noted.refl (cfg : Config) (st : Store) : Noted cfg st st := ⟨.refl st, rfl⟩

theorem Noted.trans {cfg : Config} {a b c : Store} (h : Noted cfg a b) (h' : Noted cfg b c) : Noted cfg a c :=
  ⟨h.facts.trans h'.facts, h'.checkpoint.trans h.checkpoint⟩

theorem Noted.cells {cfg : Config} {st st' : Store} (h : Noted cfg st st') : st'.rgbppCells = st.rgbppCells := by
  rw [h.facts]

theorem Noted.transitions {cfg : Config} {st st' : Store} (h : Noted cfg st st') :
    st'.rgbppTransitions = st.rgbppTransitions := by
  rw [h.facts]

/-- An update of the stream row that leaves the checkpoint alone. -/
theorem noted_update {cfg : Config} {st st' : Store} {f : StreamState → StreamState}
    (hst : st' = { st with indexerState := st.indexerState.update CKB_STREAM f })
    (hf : ∀ s, (f s).checkpoint = s.checkpoint) : Noted cfg st st' := by
  refine ⟨by rw [hst]; rfl, ?_⟩
  unfold Store.checkpoint Store.getStreamState
  rw [hst]
  dsimp only
  rw [Table.get?_update, if_pos rfl]
  cases st.indexerState.get? CKB_STREAM with
  | none => rfl
  | some s => exact hf s

theorem noted_setStreamError (cfg : Config) (st : Store) (error : Option String) (now : DateTime) :
    Noted cfg st (st.setStreamError CKB_STREAM error now) := noted_update rfl fun _ => rfl

theorem noted_recordChainProgress (cfg : Config) (st : Store) (chainTip target reorgLag : UInt64) (now : DateTime) :
    Noted cfg st (st.recordChainProgress CKB_STREAM chainTip target reorgLag now) := noted_update rfl fun _ => rfl

/-- Starting a stream puts its row where an absent one already stood. -/
theorem noted_insertStream (cfg : Config) (st : Store) (now : DateTime) :
    Noted cfg st (st.insertStream CKB_STREAM cfg.ckb.startBlock now) := by
  refine ⟨rfl, ?_⟩
  unfold Store.checkpoint
  rw [Store.getStreamState_insertStream]
  cases st.getStreamState CKB_STREAM with
  | none => rfl
  | some s => rfl

section
variable {cfg : Config} {env : ScanEnv} {st st' : Store}

/-- The stream row may be noted upon before and after a commit. -/
theorem Committed.noted [Sha2] {st₁ st₂ : Store} {reads : RoundReads} {batch : IndexBatch} (hbefore : Noted cfg st st₁)
    (h : Committed cfg env st₁ st₂ reads batch) (hafter : Noted cfg st₂ st') : Committed cfg env st st' reads batch := by
  have hcp := hbefore.checkpoint
  have hnext : st₁.nextBlock cfg = st.nextBlock cfg := by
    unfold Store.nextBlock
    rw [hcp]
  have hto : reads.toBlock cfg st₁ = reads.toBlock cfg st := by
    unfold RoundReads.toBlock
    rw [hnext]
  have habove := h.above
  have hcanonical := h.canonical
  have hrecords := h.records
  have hheader := h.checkpointHeader
  have hbuilt := h.built
  rw [hcp] at habove hcanonical
  rw [hnext, hto] at hrecords
  rw [hto] at hheader
  rw [hbefore.cells] at hbuilt
  refine ⟨h.tip, h.target, habove, hcanonical, hrecords, h.headers, hbuilt, hheader, ?_, ?_⟩
  · have hlast : st' = { st₂ with indexerState := st'.indexerState } := hafter.facts
    have hfirst : st₁ = { st with indexerState := st₁.indexerState } := hbefore.facts
    rw [hlast, h.facts, hfirst]
  · rw [hafter.checkpoint, h.checkpoint, hto]

/-! ## A whole pass -/

/-- The writing half leaves the database alone or applies the whole batch. -/
theorem commitRound_snd (cfg : Config) (env : ScanEnv) (batch : IndexBatch) (round : ScanRound) :
    (commitRound cfg env st batch round).2 = st ∨
      ∃ blocks, (commitRound cfg env st batch round).2 = { (st.applyBatch batch env.now).1 with ckbBlocks := blocks } := by
  unfold commitRound
  cases env.faults.applyBatch with
  | some e => exact .inl rfl
  | none =>
    right
    dsimp only
    by_cases hkeep : keepFrom cfg round.toBlock > 0
    · rw [if_pos hkeep]
      cases env.faults.pruneBlocks with
      | some e => exact ⟨_, rfl⟩
      | none => exact ⟨_, rfl⟩
    · rw [if_neg hkeep]
      exact ⟨_, rfl⟩

theorem getStreamState_recordChainProgress {state : StreamState} (h : st.getStreamState CKB_STREAM = some state)
    (chainTip target reorgLag : UInt64) (now : DateTime) :
    (st.recordChainProgress CKB_STREAM chainTip target reorgLag now).getStreamState CKB_STREAM =
      some { state with
        chainTipNumber := some chainTip.toInt64, targetBlockNumber := some target.toInt64, reorgLag := reorgLag.toInt64,
        updatedAt := now } := by
  unfold Store.getStreamState Store.recordChainProgress at *
  dsimp only
  rw [Table.get?_update, if_pos rfl, h]
  rfl

variable [Sha2]

/-- A batch that was built and applied is a commit. -/
theorem committed_of_built {state current : StreamState} {chainTip target : UInt64} {batch : IndexBatch}
    {round : ScanRound} (hcurrent : st.getStreamState CKB_STREAM = some current)
    (hcp : st.checkpoint cfg = state.checkpoint) (htip : env.replies.syncedTip = .ok chainTip)
    (htarget : cfg.safeCkbTarget chainTip = some target) (habove : ¬ target.toInt64 ≤ state.lastBlockNumber)
    (hbuild : buildRound cfg env st state chainTip target = .ok (batch, round)) {blocks : Table Int64 BlockRow}
    (hst' : st' = { (st.applyBatch batch env.now).1 with ckbBlocks := blocks }) :
    ∃ reads batch, Committed cfg env st st' reads batch := by
  obtain ⟨hcanonical, records, headers, header, built, hrecords, hheaders, hloop, hheader, hbatch⟩ := buildRound_eq_ok hbuild
  have hnext : st.nextBlock cfg = rangeFrom cfg state.lastBlockNumber := by
    unfold Store.nextBlock
    rw [hcp]
    rfl
  let reads : RoundReads := { chainTip, target, records, headers, checkpointHeader := header }
  have hto : reads.toBlock cfg st = rangeTo cfg target (rangeFrom cfg state.lastBlockNumber) := by
    unfold RoundReads.toBlock
    rw [hnext]
  have hcells : batch.cells = built.cells := by rw [hbatch]
  have hspends : batch.spends = built.spends := by rw [hbatch]
  have htransitions : batch.transitions = built.transitions := by rw [hbatch]
  rw [Store.applyBatch_fst] at hst'
  refine ⟨reads, built, htip, htarget, ?_, ?_, ?_, hheaders, ?_, ?_, ?_, ?_⟩
  · rw [hcp]
    exact habove
  · rw [hcp]
    exact assertCheckpointStillCanonical_eq_ok hcanonical
  · rw [hto, hnext]
    exact hrecords
  · exact ⟨st, _, _, round, rfl, rfl, rfl, rfl, hloop⟩
  · rw [hto]
    exact checkpointHeader_eq_ok hheaders hheader
  · rw [hst', hcells, hspends, htransitions]
  · have hrow : st'.getStreamState CKB_STREAM = some
        { current with
          lastBlockNumber := batch.checkpointNumber, lastBlockHash := batch.checkpointHash,
          targetBlockNumber := some batch.target, chainTipNumber := some batch.chainTip, reorgLag := batch.reorgLag,
          lastError := none, updatedAt := env.now } := by
      unfold Store.getStreamState at hcurrent ⊢
      rw [hst']
      dsimp only
      rw [Table.get?_update, if_pos rfl, hcurrent]
      rfl
    rw [Store.checkpoint_of_state hrow, hto]
    unfold StreamState.checkpoint
    rw [hbatch]

/-- A round that comes to write: where it stood, what it read, and the batch it hands to the commit. -/
structure Built (cfg : Config) (env : ScanEnv) (st st₁ : Store) (state : StreamState) (chainTip target : UInt64)
    (batch : IndexBatch) (round : ScanRound) : Prop where
  noted : Noted cfg st st₁
  current : ∃ current, st₁.getStreamState CKB_STREAM = some current
  checkpoint : st₁.checkpoint cfg = state.checkpoint
  tip : env.replies.syncedTip = .ok chainTip
  reached : cfg.safeCkbTarget chainTip = some target
  above : ¬ target.toInt64 ≤ state.lastBlockNumber
  built : buildRound cfg env st₁ state chainTip target = .ok (batch, round)

/-- A round leaves notes and fails or is idle, or it comes to write and does what the commit does. -/
theorem scanOnce_built (cfg : Config) (env : ScanEnv) (st : Store) :
    (Noted cfg st (scanOnce cfg env st).2 ∧ ∀ round, (scanOnce cfg env st).1 = .ok round → round.idle = true) ∨
      ∃ st₁ state chainTip target batch round, Built cfg env st st₁ state chainTip target batch round ∧
        scanOnce cfg env st = commitRound cfg env st₁ batch round := by
  unfold scanOnce
  cases env.faults.initStream with
  | some e => exact .inl ⟨.refl cfg st, fun _ h => by cases h⟩
  | none =>
    have hinit := noted_insertStream cfg st env.now
    dsimp only
    cases env.faults.getStreamState with
    | some e => exact .inl ⟨hinit, fun _ h => by cases h⟩
    | none =>
      cases hstate : (st.insertStream CKB_STREAM cfg.ckb.startBlock env.now).getStreamState CKB_STREAM with
      | none => exact .inl ⟨hinit, fun _ h => by cases h⟩
      | some state =>
        dsimp only
        cases htip : env.replies.syncedTip with
        | error e => exact .inl ⟨hinit, fun _ h => by cases h⟩
        | ok chainTip =>
          dsimp only
          cases env.faults.recordChainProgress with
          | some e => exact .inl ⟨hinit, fun _ h => by cases h⟩
          | none =>
            dsimp only
            cases htarget : cfg.safeCkbTarget chainTip with
            | none => exact .inl ⟨hinit.trans (noted_recordChainProgress ..), fun _ h => by cases h; rfl⟩
            | some target =>
              dsimp only
              have hprogress := hinit.trans (noted_recordChainProgress cfg
                (st.insertStream CKB_STREAM cfg.ckb.startBlock env.now) chainTip target cfg.ckb.reorgLag env.now)
              by_cases hidle : target.toInt64 ≤ state.lastBlockNumber
              · rw [if_pos hidle]
                exact .inl ⟨hprogress, fun _ h => by cases h; rfl⟩
              · rw [if_neg hidle]
                cases hbuild : buildRound cfg env ((st.insertStream CKB_STREAM cfg.ckb.startBlock env.now).recordChainProgress
                    CKB_STREAM chainTip target cfg.ckb.reorgLag env.now) state chainTip target with
                | error e => exact .inl ⟨hprogress, fun _ h => by cases h⟩
                | ok built =>
                  refine .inr ⟨_, state, chainTip, target, built.1, built.2, ?_, rfl⟩
                  exact ⟨hprogress, ⟨_, getStreamState_recordChainProgress hstate chainTip target cfg.ckb.reorgLag env.now⟩,
                    (noted_recordChainProgress ..).checkpoint.trans (Store.checkpoint_of_state hstate cfg), htip, htarget, hidle,
                    hbuild⟩

/-- Everything a round can do to the database. -/
theorem scanOnce_cases (cfg : Config) (env : ScanEnv) (st : Store) :
    Noted cfg st (scanOnce cfg env st).2 ∨
      ∃ reads batch, Committed cfg env st (scanOnce cfg env st).2 reads batch := by
  rcases scanOnce_built cfg env st with ⟨hnoted, -⟩ | ⟨st₁, state, chainTip, target, batch, round, hbuilt, hcommit⟩
  · exact .inl hnoted
  · rw [hcommit]
    rcases commitRound_snd cfg env batch round with hsame | ⟨blocks, happlied⟩
    · rw [hsame]
      exact .inl hbuilt.noted
    · right
      obtain ⟨current, hcurrent⟩ := hbuilt.current
      obtain ⟨reads, b, hcommitted⟩ :=
        committed_of_built hcurrent hbuilt.checkpoint hbuilt.tip hbuilt.reached hbuilt.above hbuilt.built happlied
      exact ⟨reads, b, hcommitted.noted hbuilt.noted (.refl ..)⟩

/-- A failed round is noted on the stream row at most. -/
theorem noted_scannerStep (cfg : Config) (env : ScanEnv) (errorText : IndexerError → String) (st : Store) :
    Noted cfg (scanOnce cfg env st).2 (scannerStep cfg env errorText st) := by
  unfold scannerStep
  rcases scanOnce cfg env st with ⟨result, st'⟩
  cases result with
  | ok round => exact .refl cfg st'
  | error e =>
    dsimp only
    cases env.faults.setStreamError with
    | some _ => exact .refl cfg st'
    | none => exact noted_setStreamError ..

/-- Everything a pass of the scanner's loop can do to the database. -/
theorem scannerStep_cases (cfg : Config) (env : ScanEnv) (errorText : IndexerError → String) (st : Store) :
    Noted cfg st (scannerStep cfg env errorText st) ∨
      ∃ reads batch, Committed cfg env st (scannerStep cfg env errorText st) reads batch := by
  have hafter := noted_scannerStep cfg env errorText st
  rcases scanOnce_cases cfg env st with hnoted | ⟨reads, batch, hcommitted⟩
  · exact .inl (hnoted.trans hafter)
  · exact .inr ⟨reads, batch, hcommitted.noted (.refl cfg st) hafter⟩

end

end RgbppIndexer
