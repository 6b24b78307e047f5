import RgbppIndexer.Scan.Runs

/-!
# An index and the forks of its chain

The node may follow another chain from one round to the next. What the tables
say up to some height is true of every chain that agrees up to there, so it is
enough that each round checks one block: the one at the checkpoint.

* `IndexMatch.agree`: the index of a chain is the index of every chain that
  agrees with it up to the highest indexed block.
* `DerivedFrom`: every row is a fact of one chain, at or below the checkpoint,
  and the checkpoint is a block of that chain.
* `Anchored.step`: a round whose range fits keeps the tables derived from one
  of the chains, whichever of them it meets.
* `Anchored.refuses`: a round that meets a chain without the checkpoint block
  leaves the tables and the checkpoint alone.
-/
namespace RgbppIndexer

open RgbppIndexer.Core

/-! ## Chains that agree up to a height -/

/-- The two chains have the same blocks up to `top`. -/
def Chain.AgreesUpTo (ch ch' : Chain) (top : Nat) : Prop := ∀ n ≤ top, ch.blocks[n]? = ch'.blocks[n]?

section
variable {ch ch' : Chain} {p : ProtocolScripts} {top : Nat} {l : Located} {op : CkbOutPoint} {entries : List Entry}

theorem Chain.AgreesUpTo.symm (h : ch.AgreesUpTo ch' top) : ch'.AgreesUpTo ch top := fun n hn => (h n hn).symm

theorem Chain.AgreesUpTo.holds (h : ch.AgreesUpTo ch' top) (hl : ch.Holds l) (hle : l.height ≤ top) : ch'.Holds l := by
  obtain ⟨b, hb, hheader, htx⟩ := hl
  exact ⟨b, by rw [← h _ hle, hb], hheader, htx⟩

theorem Chain.AgreesUpTo.hasCell (h : ch.AgreesUpTo ch' top) {cell : ChainCell} (hcell : ch.HasCell p op cell)
    (hle : cell.creator.height ≤ top) : ch'.HasCell p op cell where
  hasOutput := ⟨h.holds hcell.hasOutput.holds hle, hcell.hasOutput.txHash, hcell.hasOutput.output⟩
  data := hcell.data
  readable := hcell.readable

/-- The inputs of a transaction resolve alike: what they consume is no higher than the transaction. -/
theorem Chain.AgreesUpTo.resolves (h : ch.AgreesUpTo ch' top) (hl : ch.Holds l) (hle : l.height ≤ top) {inputs : List Nat}
    {resolved : List ResolvedInput} (hres : Resolves ch p l inputs resolved) : Resolves ch' p l inputs resolved := by
  refine hres.imp fun j r hr => ?_
  obtain ⟨op, cell, hin, hcell, hr⟩ := hr
  have hcreator := Chain.Spends.creator_le ⟨hl, hin⟩ hcell.hasOutput
  exact ⟨op, cell, hin, h.hasCell hcell (hcreator.trans hle), hr⟩

theorem Chain.AgreesUpTo.resolves_iff (h : ch.AgreesUpTo ch' top) (hl : ch.Holds l) (hle : l.height ≤ top)
    {inputs : List Nat} {resolved : List ResolvedInput} :
    Resolves ch p l inputs resolved ↔ Resolves ch' p l inputs resolved :=
  ⟨h.resolves hl hle, h.symm.resolves (h.holds hl hle) hle⟩

/-- A cell the entries have seen is no higher than the entries. -/
theorem creator_le_of_seen (hholds : ∀ e ∈ entries, ch.Holds e.place) (hle : ∀ e ∈ entries, e.place.height ≤ top)
    {cell : ChainCell} (hcell : ch.HasCell p op cell) (hseen : CreatedBy entries op ∨ TouchedBy entries op) :
    cell.creator.height ≤ top := by
  rcases hseen with ⟨e, he, hhash⟩ | ⟨e, he, j, -, hin⟩
  · have hsame : cell.creator = e.place := ch.hash_injective _ _ hcell.hasOutput.holds (hholds e he)
      (hcell.hasOutput.txHash.symm.trans hhash)
    rw [hsame]
    exact hle e he
  · have hcreator := Chain.Spends.creator_le ⟨hholds e he, hin⟩ hcell.hasOutput
    exact hcreator.trans (hle e he)

variable [Sha2] {cfg : Config} {st : Store}

/-- **An index up to some height is the index of every chain that agrees up to there.** -/
theorem IndexMatch.agree (h : IndexMatch cfg ch entries st) (hagree : ch.AgreesUpTo ch' top)
    (hle : ∀ e ∈ entries, e.place.height ≤ top) : IndexMatch cfg ch' entries st where
  good := by
    intro e he
    obtain ⟨hholds, resolved, hres⟩ := h.good e he
    exact ⟨hagree.holds hholds (hle e he), resolved, hagree.resolves hholds (hle e he) hres⟩
  cells := by
    have hholds : ∀ e ∈ entries, ch.Holds e.place := fun e he => (h.good e he).holds
    have hholds' : ∀ e ∈ entries, ch'.Holds e.place := fun e he => hagree.holds (hholds e he) (hle e he)
    refine ⟨?_, ?_⟩
    · intro key row hrow
      obtain ⟨op, cell, hkey, hcell, hseen, hfor⟩ := h.cells.row key row hrow
      exact ⟨op, cell, hkey, hagree.hasCell hcell (creator_le_of_seen hholds hle hcell hseen), hseen, hfor⟩
    · intro op cell hcell hnone
      by_contra hno
      have hseen : CreatedBy entries op ∨ TouchedBy entries op := by
        by_contra hneither
        exact hno (not_or.mp hneither)
      have hback := hagree.symm.hasCell hcell (creator_le_of_seen hholds' hle hcell hseen)
      exact hno (h.cells.absent op cell hback hnone)
  transitions := by
    refine h.transitions.congr fun t => exists_congr fun e => and_congr_right fun he => ?_
    exact exists_congr fun resolved => and_congr_left fun _ => hagree.resolves_iff (h.good e he).holds (hle e he)

end

/-! ## Derived from one chain -/

/-- The checkpoint block, if there is one, is a block of the chain. -/
def CheckpointOn (cfg : Config) (ch : Chain) (st : Store) : Prop :=
  ∀ hash, (st.checkpoint cfg).hash = some hash → ∃ b, ch.blocks[st.indexedTo cfg]? = some b ∧ b.header.hash.toVec = hash

/-- Every row is a fact of the chain that ends in the checkpoint block. -/
structure DerivedFrom [Sha2] (cfg : Config) (ch : Chain) (st : Store) : Prop where
  checkpoint : CheckpointOn cfg ch st
  indexed : ∃ entries, IndexMatch cfg ch entries st ∧ ∀ e ∈ entries, e.place.height ≤ st.indexedTo cfg

/-- Block hashes determine ancestry: chains that share a block share every block below it. -/
def SharedAncestry (chains : Set Chain) : Prop :=
  ∀ ch ∈ chains, ∀ ch' ∈ chains, ∀ (n : Nat) (b b' : Block), ch.blocks[n]? = some b → ch'.blocks[n]? = some b' →
    b.header.hash = b'.header.hash → ch.AgreesUpTo ch' n

section
variable [Sha2] {cfg : Config} {chains : Set Chain} {ch ch' : Chain} {env : ScanEnv}
  {errorText : IndexerError → String} {st st' : Store} {reads : RoundReads} {batch : IndexBatch}

omit [Sha2] in
theorem CheckpointOn.noted (h : CheckpointOn cfg ch st) (hn : Noted cfg st st') : CheckpointOn cfg ch st' := by
  unfold CheckpointOn Store.indexedTo
  rw [hn.checkpoint]
  exact h

theorem DerivedFrom.noted (h : DerivedFrom cfg ch st) (hn : Noted cfg st st') : DerivedFrom cfg ch st' where
  checkpoint := h.checkpoint.noted hn
  indexed := by
    obtain ⟨entries, hmatch, hle⟩ := h.indexed
    refine ⟨entries, hmatch.noted hn, ?_⟩
    unfold Store.indexedTo
    rw [hn.checkpoint]
    exact hle

/-- A chain that has the checkpoint block has everything the tables say. -/
theorem DerivedFrom.onto (h : DerivedFrom cfg ch st) (hancestry : SharedAncestry chains) (hch : ch ∈ chains)
    (hch' : ch' ∈ chains) {hash : Bytes} (hhash : (st.checkpoint cfg).hash = some hash) (hon : CheckpointOn cfg ch' st) :
    DerivedFrom cfg ch' st := by
  obtain ⟨b, hb, hbhash⟩ := h.checkpoint hash hhash
  obtain ⟨b', hb', hbhash'⟩ := hon hash hhash
  have hsame : b.header.hash = b'.header.hash := H256.toVec_injective (hbhash.trans hbhash'.symm)
  obtain ⟨entries, hmatch, hle⟩ := h.indexed
  exact ⟨hon, entries, hmatch.agree (hancestry ch hch ch' hch' _ b b' hb hb' hsame) hle, hle⟩

/-- Before a round commits, it has met the checkpoint block on the chain the node follows. -/
theorem Committed.checkpointOn (hc : Committed cfg env st st' reads batch) (hserves : Serves ch env.replies)
    (hpos : ∀ hash, (st.checkpoint cfg).hash = some hash → 0 < (st.checkpoint cfg).number.toInt) : CheckpointOn cfg ch st := by
  intro hash hhash
  have hnumber := hpos hash hhash
  obtain ⟨header, hheader, hheaderHash⟩ := hc.canonical hash hhash (Int64.lt_iff_toInt_lt.mpr hnumber)
  obtain ⟨b, hb, hbheader⟩ := hserves.node.header_sound _ _ hheader
  have hheight : (st.checkpoint cfg).number.toUInt64.toNat = st.indexedTo cfg := by
    have hnat := toNat_toUInt64 (x := (st.checkpoint cfg).number) (by omega)
    unfold Store.indexedTo
    omega
  rw [hheight] at hb
  exact ⟨b, hb, by rw [hbheader, hheaderHash]⟩

/-! ## Runs over several chains -/

/-- What holds between rounds: before the first checkpoint nothing is indexed, from then on the tables are derived from
one of the chains and the checkpoint is above the genesis block, which the check leaves out. -/
structure Anchored (cfg : Config) (chains : Set Chain) (st : Store) : Prop where
  /-- a stream that starts at block 0 stands behind it -/
  nonneg : cfg.ckb.startBlock = 0 → 0 ≤ (st.checkpoint cfg).number.toInt
  fresh : (st.checkpoint cfg).hash = none → ∀ ch, IndexMatch cfg ch [] st
  derived : ∀ hash, (st.checkpoint cfg).hash = some hash →
    0 < (st.checkpoint cfg).number.toInt ∧ ∃ ch ∈ chains, DerivedFrom cfg ch st

theorem Anchored.init : Anchored cfg chains .empty where
  nonneg := nonneg_checkpoint_empty
  fresh := fun _ _ => .empty
  derived := by
    intro hash h
    rw [checkpoint_empty] at h
    cases h

theorem Anchored.noted (h : Anchored cfg chains st) (hn : Noted cfg st st') : Anchored cfg chains st' where
  nonneg := by
    rw [hn.checkpoint]
    exact h.nonneg
  fresh := by
    rw [hn.checkpoint]
    exact fun hnone ch => (h.fresh hnone ch).noted hn
  derived := by
    rw [hn.checkpoint]
    intro hash hhash
    obtain ⟨hpos, ch, hch, hderived⟩ := h.derived hash hhash
    exact ⟨hpos, ch, hch, hderived.noted hn⟩

/-- What is indexed when a round commits is a fact of the chain the round meets, behind the range. -/
theorem Anchored.indexed (h : Anchored cfg chains st) (hancestry : SharedAncestry chains) (hch : ch ∈ chains)
    (hserves : Serves ch env.replies) (hc : Committed cfg env st st' reads batch) :
    ∃ entries, IndexMatch cfg ch entries st ∧ ∀ e ∈ entries, (e.place.height : Int) ≤ (st.checkpoint cfg).number.toInt := by
  have hon := hc.checkpointOn hserves fun hash hhash => (h.derived hash hhash).1
  cases hhash : (st.checkpoint cfg).hash with
  | none => exact ⟨[], h.fresh hhash ch, by simp⟩
  | some hash =>
    obtain ⟨hpos, ch', hch', hderived⟩ := h.derived hash hhash
    obtain ⟨entries, hmatch, hle⟩ := (hderived.onto hancestry hch' hch hhash hon).indexed
    refine ⟨entries, hmatch, fun e he => ?_⟩
    have hbelow := hle e he
    unfold Store.indexedTo at hbelow
    omega

/-- A range that fits is not empty: the checkpoint moves up, and above the genesis block. -/
theorem Committed.toBlock_above (hc : Committed cfg env st st' reads batch) (hserves : Serves ch env.replies)
    (hnonneg : cfg.ckb.startBlock = 0 → 0 ≤ (st.checkpoint cfg).number.toInt) (hbatch : 0 < cfg.ckb.batchBlocks)
    (hfits : RangeFits cfg st) :
    1 ≤ (reads.toBlock cfg st).toNat ∧ (st.checkpoint cfg).number.toInt < (reads.toBlock cfg st).toNat := by
  have htarget := hc.target_fits hserves
  have hnext := hc.nextBlock_toNat htarget
  obtain ⟨hfirst, -⟩ := firstBlock_le_next (Int.self_le_toNat _) hnonneg hnext
  have hone := cfg.one_le_firstBlock
  have hle := (hc.nextBlock_le_toBlock_iff hbatch (by omega) htarget).mpr hfits
  omega

/-- **A round whose range fits keeps the tables derived from one chain**, whichever chain it meets. -/
theorem Anchored.step (h : Anchored cfg chains st) (hancestry : SharedAncestry chains) (hch : ch ∈ chains)
    (hserves : Serves ch env.replies) (hbatch : 0 < cfg.ckb.batchBlocks)
    (hfits : ∀ reads batch, Committed cfg env st (scannerStep cfg env errorText st) reads batch → RangeFits cfg st) :
    Anchored cfg chains (scannerStep cfg env errorText st) := by
  rcases scannerStep_cases cfg env errorText st with hnoted | ⟨reads, batch, hc⟩
  · exact h.noted hnoted
  · obtain ⟨entries, hmatch, hbelow⟩ := h.indexed hancestry hch hserves hc
    obtain ⟨done, hentries, hmatch'⟩ := hmatch.commit hserves hc
    obtain ⟨hto, hon⟩ := hc.checkpoint_on hserves
    have hcp := hc.checkpoint_toInt (hc.target_fits hserves)
    obtain ⟨hpos, hup⟩ := hc.toBlock_above hserves h.nonneg hbatch (hfits reads batch hc)
    have hdone := (collectRange_collected hserves.indexer hc.records).entries_inRange hentries
    have hheights : ∀ e ∈ entries ++ done, e.place.height ≤ (scannerStep cfg env errorText st).indexedTo cfg := by
      intro e he
      rw [hto]
      rcases List.mem_append.mp he with he | he
      · have hheight := hbelow e he
        omega
      · exact (hdone e he).2
    refine ⟨fun _ => by omega, fun hnone => ?_, fun _ _ => ⟨by omega, ch, hch, hon, entries ++ done, hmatch', hheights⟩⟩
    rw [hc.checkpoint] at hnone
    cases hnone

/-- **A round that meets a chain without the checkpoint block changes nothing.** -/
theorem Anchored.refuses (h : Anchored cfg chains st) (hserves : Serves ch env.replies) (hoff : ¬ CheckpointOn cfg ch st) :
    Noted cfg st (scannerStep cfg env errorText st) := by
  rcases scannerStep_cases cfg env errorText st with hnoted | ⟨reads, batch, hc⟩
  · exact hnoted
  · exact absurd (hc.checkpointOn hserves fun hash hhash => (h.derived hash hhash).1) hoff

end
end RgbppIndexer
