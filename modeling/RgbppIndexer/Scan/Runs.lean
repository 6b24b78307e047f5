import RgbppIndexer.Core.Lts
import RgbppIndexer.Scan.Range

/-!
# Runs of the scanner

The single scanner as a labelled system: each pass is labelled with the
outside world it met, failures included, so a run is any sequence of replies,
tips and faults.

* `Complete`, `UpToDate`: the tables are the transactions from the first block
  to the checkpoint, in full and nothing else.
* `Complete.step`: a pass over endpoints that serve the chain keeps that, if
  the rich indexer reports a tip and the range fits its integer.
* `OnChain.step`: whatever the rich indexer reports, a pass only ever
  indexes the chain, and leaves a checkpoint on it.
-/
namespace RgbppIndexer

open RgbppIndexer.Core

/-- The scanner, from a freshly migrated database. -/
def scanner [Sha2] (cfg : Config) (errorText : IndexerError → String) : Lts Store ScanEnv where
  init st := st = .empty
  step st env st' := st' = scannerStep cfg env errorText st

/-- The settings `Config::load` lets through. mirrors crates/types/src/config.rs:588-622 -/
structure Config.Valid (cfg : Config) : Prop where
  pageLimit : 0 < cfg.ckb.pageLimit
  batchBlocks : 0 < cfg.ckb.batchBlocks
  rgbppLock : cfg.protocol.rgbppLock.codeHash ≠ .ZERO
  btcTimeLock : cfg.protocol.btcTimeLock.codeHash ≠ .ZERO

theorem Config.testnet_valid {batchBlocks : UInt64} (h : 0 < batchBlocks) : (Config.testnet batchBlocks).Valid where
  pageLimit := by
    show (0 : UInt32) < 100
    decide
  batchBlocks := h
  rgbppLock := by
    show ProtocolScripts.testnet.rgbppLock.codeHash ≠ .ZERO
    decide +kernel
  btcTimeLock := by
    show ProtocolScripts.testnet.btcTimeLock.codeHash ≠ .ZERO
    decide +kernel

/-- The height of the checkpoint. -/
def Store.indexedTo (st : Store) (cfg : Config) : Nat := (st.checkpoint cfg).number.toInt.toNat

section
variable [Sha2] {cfg : Config} {ch : Chain} {env : ScanEnv} {errorText : IndexerError → String} {st st' : Store}

/-! ## The start -/

theorem IndexMatch.empty : IndexMatch cfg ch [] .empty where
  good := by simp
  cells := by
    refine ⟨?_, ?_⟩
    · intro key row h
      cases h
    · intro op cell _ _
      exact ⟨by simp [CreatedBy], by simp [TouchedBy]⟩
  transitions := TransitionsMatch.empty.congr fun t => by simp

theorem IndexMatch.noted {entries : List Entry} (h : IndexMatch cfg ch entries st) (hn : Noted cfg st st') :
    IndexMatch cfg ch entries st' := h.of_eq hn.cells hn.transitions

omit [Sha2] in
theorem checkpoint_empty (cfg : Config) : Store.empty.checkpoint cfg =
    ⟨(if cfg.ckb.startBlock = 0 then 0 else cfg.ckb.startBlock - 1).toInt64, none⟩ := rfl

omit [Sha2] in
/-- The first range starts at the first block, and behind block 0. -/
theorem nextBlock_empty (cfg : Config) :
    Store.empty.nextBlock cfg = if cfg.ckb.startBlock = 0 then 1 else cfg.ckb.startBlock := by
  unfold Store.nextBlock rangeFrom
  rw [checkpoint_empty]
  dsimp only
  by_cases h : cfg.ckb.startBlock = 0
  · rw [if_pos h, if_pos h, h]
    rfl
  · have hsucc : (cfg.ckb.startBlock - 1).toInt64 + 1 = cfg.ckb.startBlock.toInt64 := by
      rw [UInt64.toInt64_sub]
      exact Int64.sub_add_cancel ..
    have hmax : max cfg.ckb.startBlock.toInt64 cfg.ckb.startBlock.toInt64 = cfg.ckb.startBlock.toInt64 := by
      rw [← Int64.toInt_inj, toInt_max, Int.max_self]
    rw [if_neg h, if_neg h, hsucc, hmax, UInt64.toUInt64_toInt64]

omit [Sha2] in
/-- The checkpoint of a fresh stream, as a number: it does not go below 0. -/
theorem toInt_checkpoint_empty (hstart : cfg.ckb.startBlock.toNat ≤ 2 ^ 63) :
    (Store.empty.checkpoint cfg).number.toInt = ((cfg.ckb.startBlock.toNat - 1 : Nat) : Int) := by
  rw [checkpoint_empty]
  dsimp only
  by_cases hzero : cfg.ckb.startBlock = 0
  · rw [if_pos hzero, hzero]
    rfl
  · have hpos : 0 < cfg.ckb.startBlock.toNat := Nat.pos_of_ne_zero fun h => hzero (UInt64.toNat_inj.mp h)
    have hone : (1 : UInt64).toNat = 1 := rfl
    have hsub := UInt64.toNat_sub_of_le cfg.ckb.startBlock 1 (by rw [UInt64.le_iff_toNat_le]; omega)
    rw [if_neg hzero, toInt_toInt64 (by omega), hsub, hone]

/-! ## The first block -/

/-- The first block a scan reads: block 0 is behind the checkpoint of any fresh stream. -/
def Config.firstBlock (cfg : Config) : Nat := max 1 cfg.ckb.startBlock.toNat

omit [Sha2] in
theorem Config.one_le_firstBlock (cfg : Config) : 1 ≤ cfg.firstBlock := Nat.le_max_left ..

omit [Sha2] in
theorem startBlock_pos (h : cfg.ckb.startBlock ≠ 0) : 1 ≤ cfg.ckb.startBlock.toNat :=
  Nat.pos_of_ne_zero fun hzero => h (UInt64.toNat_inj.mp hzero)

omit [Sha2] in
/-- A fresh stream stands before its first block. -/
theorem checkpoint_empty_lt (cfg : Config) : (Store.empty.checkpoint cfg).number.toInt < cfg.firstBlock := by
  rw [checkpoint_empty]
  dsimp only
  unfold Config.firstBlock
  by_cases hzero : cfg.ckb.startBlock = 0
  · rw [if_pos hzero, hzero]
    decide
  · have hpos := startBlock_pos hzero
    have hone : (1 : UInt64).toNat = 1 := rfl
    have hsub := UInt64.toNat_sub_of_le cfg.ckb.startBlock 1 (UInt64.le_iff_toNat_le.mpr hpos)
    rw [if_neg hzero, toInt_toInt64_eq]
    split <;> omega

omit [Sha2] in
theorem nonneg_checkpoint_empty (hzero : cfg.ckb.startBlock = 0) : 0 ≤ (Store.empty.checkpoint cfg).number.toInt := by
  rw [checkpoint_empty, if_pos hzero]
  decide

omit [Sha2] in
/-- A range read off a checkpoint starts at the first block or behind it, and leaves no gap. -/
theorem firstBlock_le_next {number : Int} {next top : Nat} (hcp : number ≤ top)
    (hnonneg : cfg.ckb.startBlock = 0 → 0 ≤ number)
    (hnext : (next : Int) = max (number + 1) cfg.ckb.startBlock.toNat) :
    cfg.firstBlock ≤ next ∧ next ≤ max cfg.firstBlock (top + 1) := by
  unfold Config.firstBlock
  by_cases hzero : cfg.ckb.startBlock = 0
  · have hcheckpoint := hnonneg hzero
    have hstart : cfg.ckb.startBlock.toNat = 0 := by rw [hzero]; rfl
    omega
  · have hpos := startBlock_pos hzero
    omega

/-! ## Complete -/

/-- The tables are the transactions from the first block read to the checkpoint. -/
structure Complete (cfg : Config) (ch : Chain) (st : Store) : Prop where
  indexed : ∃ entries, IndexMatch cfg ch entries st ∧ Covers ch cfg.protocol cfg.firstBlock (st.indexedTo cfg) entries
  /-- a stream that starts at block 0 stands behind it -/
  nonneg : cfg.ckb.startBlock = 0 → 0 ≤ (st.checkpoint cfg).number.toInt

theorem Complete.init : Complete cfg ch .empty := by
  refine ⟨⟨[], .empty, Covers.nil ?_⟩, nonneg_checkpoint_empty⟩
  have hone := cfg.one_le_firstBlock
  have hlt := checkpoint_empty_lt cfg
  unfold Store.indexedTo
  omega

/-- **One pass keeps the tables complete.** -/
theorem Complete.step (h : Complete cfg ch st) (hserves : Serves ch env.replies)
    (hcomplete : IndexerComplete ch env.replies) (htip : env.replies.getIndexerTip ≠ .ok none) (hfits : RangeFits cfg st) :
    Complete cfg ch (scannerStep cfg env errorText st) := by
  obtain ⟨⟨entries, hmatch, hcovers⟩, hnonneg⟩ := h
  rcases scannerStep_cases cfg env errorText st with hnoted | ⟨reads, batch, hc⟩
  · refine ⟨⟨entries, hmatch.noted hnoted, ?_⟩, ?_⟩
    · unfold Store.indexedTo
      rw [hnoted.checkpoint]
      exact hcovers
    · rw [hnoted.checkpoint]
      exact hnonneg
  · obtain ⟨done, hentries, hmatch'⟩ := hmatch.commit hserves hc
    obtain ⟨t, ht⟩ := hc.reported htip
    have hdone := hc.covers hserves hcomplete ht hentries
    have htarget := hc.target_fits hserves
    have hnext := hc.nextBlock_toNat htarget
    have hcp := hc.checkpoint_toInt htarget
    have habove := hc.checkpoint_lt_target htarget
    have hstartTarget := hc.startBlock_le_target
    obtain ⟨hfirst, hgap⟩ := firstBlock_le_next (Int.self_le_toNat _) hnonneg hnext
    have hgrown := hcovers.append hdone hfirst hgap
    have hfirst' : cfg.firstBlock = max 1 cfg.ckb.startBlock.toNat := rfl
    have hto : (reads.toBlock cfg st).toNat = _ := toBlock_toNat hfits (by omega)
    have hhi : (scannerStep cfg env errorText st).indexedTo cfg = (reads.toBlock cfg st).toNat := by
      unfold Store.indexedTo
      rw [hcp, Int.toNat_natCast]
    -- the range fits, so the checkpoint does not move back
    have hle : st.indexedTo cfg ≤ (reads.toBlock cfg st).toNat := by
      unfold Store.indexedTo
      omega
    rw [Nat.max_eq_right hle] at hgrown
    exact ⟨⟨entries ++ done, hmatch', by rw [hhi]; exact hgrown⟩, fun _ => by omega⟩

theorem Complete.run {envs : List ScanEnv}
    (hrun : ((scanner cfg errorText).restrict fun s env => env.replies.getIndexerTip ≠ .ok none ∧ RangeFits cfg s).Run
      .empty envs st)
    (hserves : ∀ env ∈ envs, Serves ch env.replies ∧ IndexerComplete ch env.replies) : Complete cfg ch st := by
  have hrun' := Lts.run_restrict_iff.mpr ⟨hrun, hserves⟩
  refine hrun'.keeps (fun s env s' hs hstep => ?_) Complete.init
  obtain ⟨⟨rfl, htip, hfits⟩, hserves, hcomplete⟩ := hstep
  exact hs.step hserves hcomplete htip hfits

/-! ## Up to date -/

/-- The tables are the transactions of the blocks from the first to the checkpoint. -/
def UpToDate (cfg : Config) (ch : Chain) (st : Store) : Prop :=
  ∃ entries, IndexMatch cfg ch entries st ∧
    Covers ch cfg.protocol cfg.ckb.startBlock.toNat (st.indexedTo cfg) entries

omit [Sha2] in
theorem firstBlock_eq (hstart : 1 ≤ cfg.ckb.startBlock) : cfg.firstBlock = cfg.ckb.startBlock.toNat := by
  rw [UInt64.le_iff_toNat_le] at hstart
  exact Nat.max_eq_right hstart

theorem Complete.upToDate (hstart : 1 ≤ cfg.ckb.startBlock) (h : Complete cfg ch st) : UpToDate cfg ch st := by
  have hindexed := h.indexed
  rw [firstBlock_eq hstart] at hindexed
  exact hindexed

/-! ## On the chain -/

/-- Everything indexed is on the chain, and so is the checkpoint. -/
structure OnChain (cfg : Config) (ch : Chain) (st : Store) : Prop where
  indexed : ∃ entries, IndexMatch cfg ch entries st
  checkpoint : ∀ hash, (st.checkpoint cfg).hash = some hash →
    ∃ b, ch.blocks[st.indexedTo cfg]? = some b ∧ b.header.hash.toVec = hash

/-- The checkpoint a round publishes is a block of the chain. -/
theorem Committed.checkpoint_on (hserves : Serves ch env.replies) {reads : RoundReads} {batch : IndexBatch}
    (hc : Committed cfg env st st' reads batch) : st'.indexedTo cfg = (reads.toBlock cfg st).toNat ∧
      ∀ hash, (st'.checkpoint cfg).hash = some hash →
        ∃ b, ch.blocks[st'.indexedTo cfg]? = some b ∧ b.header.hash.toVec = hash := by
  have htarget := hc.target_fits hserves
  have hto : st'.indexedTo cfg = (reads.toBlock cfg st).toNat := by
    unfold Store.indexedTo
    rw [hc.checkpoint_toInt htarget, Int.toNat_natCast]
  refine ⟨hto, fun hash hhash => ?_⟩
  rw [hc.checkpoint] at hhash
  simp only [Option.some.injEq] at hhash
  obtain ⟨b, hb, hheader⟩ := hserves.node.header_sound _ _ hc.checkpointHeader
  rw [hto]
  exact ⟨b, hb, by rw [hheader, hhash]⟩

theorem OnChain.init : OnChain cfg ch .empty where
  indexed := ⟨[], .empty⟩
  checkpoint := by intro hash h; rw [checkpoint_empty] at h; cases h

/-- **One pass stays on the chain**, whatever fails and whatever the rich indexer leaves out. -/
theorem OnChain.step (h : OnChain cfg ch st) (hserves : Serves ch env.replies) :
    OnChain cfg ch (scannerStep cfg env errorText st) := by
  obtain ⟨entries, hmatch⟩ := h.indexed
  rcases scannerStep_cases cfg env errorText st with hnoted | ⟨reads, batch, hc⟩
  · refine ⟨⟨entries, hmatch.noted hnoted⟩, ?_⟩
    unfold Store.indexedTo
    rw [hnoted.checkpoint]
    exact h.checkpoint
  · obtain ⟨done, -, hmatch'⟩ := hmatch.commit hserves hc
    exact ⟨⟨entries ++ done, hmatch'⟩, (hc.checkpoint_on hserves).2⟩

theorem OnChain.run {envs : List ScanEnv} (hrun : (scanner cfg errorText).Run .empty envs st)
    (hserves : ∀ env ∈ envs, Serves ch env.replies) : OnChain cfg ch st := by
  have hrun' := Lts.run_restrict_iff.mpr ⟨hrun, hserves⟩
  refine hrun'.keeps (fun s env s' hs hstep => ?_) OnChain.init
  obtain ⟨rfl, hserves⟩ := hstep
  exact hs.step hserves

end
end RgbppIndexer
