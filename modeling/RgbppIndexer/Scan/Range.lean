import RgbppIndexer.Scan.Reference

/-!
# The range of a round

Where the next range starts and ends, as numbers, and what a committed round
has indexed when the rich indexer is complete up to its end.

* `nextBlock_toNat`, `toBlock_toNat`: the range is `from ..= min target
  (from + batch - 1)`, as long as `from + batch` fits its integer.
* `Committed.nextBlock_le_toBlock_iff`: and it is empty exactly when it does not.
* `Committed.covers`: the entries of a committed round cover its range.
-/
namespace RgbppIndexer

open RgbppIndexer.Core

section
variable [Sha2] {cfg : Config} {ch : Chain} {env : ScanEnv} {st st' : Store} {reads : RoundReads} {batch : IndexBatch}

/-- The end of the range fits its integer. -/
def RangeFits (cfg : Config) (st : Store) : Prop := (st.nextBlock cfg).toNat + cfg.ckb.batchBlocks.toNat ≤ 2 ^ 64

instance (cfg : Config) (st : Store) : Decidable (RangeFits cfg st) :=
  inferInstanceAs (Decidable ((st.nextBlock cfg).toNat + cfg.ckb.batchBlocks.toNat ≤ 2 ^ 64))

omit [Sha2] in
/-- The tip both endpoints are safe to read to is a block of the chain. -/
theorem syncedTip_lt (hserves : Serves ch env.replies) {chainTip : UInt64} (h : env.replies.syncedTip = .ok chainTip) :
    chainTip.toNat < ch.blocks.length := by
  obtain ⟨nodeTip, htip, hle⟩ := syncedTip_le_node h
  have hlt := hserves.node.tip_lt nodeTip htip
  omega

/-- So is the target a round ends at or before. -/
theorem Committed.target_lt (hserves : Serves ch env.replies) (h : Committed cfg env st st' reads batch) :
    reads.target.toNat < ch.blocks.length := by
  have hlt := syncedTip_lt hserves h.tip
  have htarget := (Config.safeCkbTarget_eq_some h.target).2.2
  rw [UInt64.le_iff_toNat_le] at htarget
  omega

/-- A target on a chain fits the signed column it is compared in. -/
theorem Committed.target_fits (hserves : Serves ch env.replies) (h : Committed cfg env st st' reads batch) :
    reads.target.toNat < 2 ^ 63 := Nat.lt_of_lt_of_le (h.target_lt hserves) ch.length_le

theorem Committed.startBlock_le_target (h : Committed cfg env st st' reads batch) :
    cfg.ckb.startBlock.toNat ≤ reads.target.toNat :=
  UInt64.le_iff_toNat_le.mp (Config.safeCkbTarget_eq_some h.target).2.1

/-- A round that commits has found its target above the checkpoint. -/
theorem Committed.checkpoint_lt_target (h : Committed cfg env st st' reads batch) (htarget : reads.target.toNat < 2 ^ 63) :
    (st.checkpoint cfg).number.toInt < reads.target.toNat := by
  have habove := h.above
  rw [Int64.le_iff_toInt_le, toInt_toInt64 htarget] at habove
  omega

omit [Sha2] in
/-- A range starts behind the checkpoint it is read off, and not before the first block. -/
theorem rangeFrom_toNat {number : Int64} {target : UInt64} (hstart : cfg.ckb.startBlock ≤ target)
    (habove : ¬ target.toInt64 ≤ number) (htarget : target.toNat < 2 ^ 63) :
    ((rangeFrom cfg number).toNat : Int) = max (number.toInt + 1) cfg.ckb.startBlock.toNat := by
  rw [UInt64.le_iff_toNat_le] at hstart
  rw [Int64.le_iff_toInt_le, toInt_toInt64 htarget] at habove
  have hstartInt : cfg.ckb.startBlock.toInt64.toInt = cfg.ckb.startBlock.toNat := toInt_toInt64 (by omega)
  have hnext : (number + 1).toInt = number.toInt + 1 := toInt_add_one (by omega)
  unfold rangeFrom
  rw [toNat_toUInt64, toInt_max, hnext, hstartInt]
  rw [toInt_max, hstartInt]
  omega

theorem Committed.nextBlock_toNat (h : Committed cfg env st st' reads batch) (htarget : reads.target.toNat < 2 ^ 63) :
    ((st.nextBlock cfg).toNat : Int) = max ((st.checkpoint cfg).number.toInt + 1) cfg.ckb.startBlock.toNat :=
  rangeFrom_toNat (Config.safeCkbTarget_eq_some h.target).2.1 h.above htarget

omit [Sha2] in
/-- The range ends at the target, or after one batch. -/
theorem toBlock_toNat (hfits : RangeFits cfg st) (hpos : 1 ≤ (st.nextBlock cfg).toNat) :
    (reads.toBlock cfg st).toNat = min reads.target.toNat ((st.nextBlock cfg).toNat + cfg.ckb.batchBlocks.toNat - 1) := by
  unfold RangeFits at hfits
  unfold RoundReads.toBlock rangeTo
  have hone : (1 : UInt64).toNat = 1 := rfl
  rw [UInt64.toNat_min, UInt64.toNat_sub, UInt64.toNat_add, hone]
  omega

/-- The checkpoint a round publishes, as a number. -/
theorem Committed.checkpoint_toInt (h : Committed cfg env st st' reads batch) (htarget : reads.target.toNat < 2 ^ 63) :
    (st'.checkpoint cfg).number.toInt = (reads.toBlock cfg st).toNat := by
  have hle := reads.toBlock_le_target cfg st
  rw [h.checkpoint]
  exact toInt_toInt64 (by omega)

/-- A round whose range fits does not move the checkpoint back. -/
theorem Committed.checkpoint_mono (hc : Committed cfg env st st' reads batch)
    (hnonneg : 0 ≤ (st.checkpoint cfg).number.toInt) (htarget : reads.target.toNat < 2 ^ 63) (hfits : RangeFits cfg st) :
    (st.checkpoint cfg).number.toInt ≤ (st'.checkpoint cfg).number.toInt := by
  have hnext := hc.nextBlock_toNat htarget
  have habove := hc.checkpoint_lt_target htarget
  rw [hc.checkpoint_toInt htarget, toBlock_toNat hfits (by omega)]
  omega

/-- A round whose end wraps ends before it starts; any other does not. -/
theorem Committed.nextBlock_le_toBlock_iff (hc : Committed cfg env st st' reads batch) (hbatch : 0 < cfg.ckb.batchBlocks)
    (hpos : 1 ≤ (st.nextBlock cfg).toNat) (htarget : reads.target.toNat < 2 ^ 63) :
    (st.nextBlock cfg).toNat ≤ (reads.toBlock cfg st).toNat ↔ RangeFits cfg st := by
  have hnext := hc.nextBlock_toNat htarget
  have hstart := hc.startBlock_le_target
  have habove := hc.checkpoint_lt_target htarget
  rw [UInt64.lt_iff_toNat_lt] at hbatch
  have hzero : (0 : UInt64).toNat = 0 := rfl
  constructor
  · intro hle
    unfold RangeFits
    unfold RoundReads.toBlock rangeTo at hle
    have hone : (1 : UInt64).toNat = 1 := rfl
    rw [UInt64.toNat_min, UInt64.toNat_sub, UInt64.toNat_add, hone] at hle
    have hlt := cfg.ckb.batchBlocks.toNat_lt
    omega
  · intro hfits
    rw [toBlock_toNat hfits hpos]
    omega

/-! ## What a complete indexer leaves in a range -/

omit [Sha2] in
/-- An input that consumes a protocol cell is a true match of the cell's lock. -/
theorem trueMatch_input {l creator : Located} {j : Nat} {op : CkbOutPoint} {output : CellOutput} {kind : LockKind}
    (hl : ch.Holds l) (hin : l.tx.inputs[j]? = some ⟨op⟩) (hout : ch.HasOutput op creator output)
    (hkind : cfg.protocol.classify output.lock = some kind) :
    TrueMatch ch (lockSearchScript cfg.protocol kind) l ⟨.input, UInt32.ofNat j⟩ := by
  have hlt := (List.getElem?_eq_some_iff.mp hin).1
  have hfits := (ch.fits l hl).2.1
  have htoNat : (UInt32.ofNat j).toNat = j := by
    rw [UInt32.toNat_ofNat']
    omega
  refine ⟨op, creator, output, ?_, hout, ?_⟩
  · rw [htoNat]
    exact hin
  · rw [lockMatches_lockSearchScript]
    exact ProtocolScripts.scriptId_matches hkind

omit [Sha2] in
/-- A readable output is a true match of its lock. -/
theorem trueMatch_output {l : Located} {o : RgbppOutput} (hl : ch.Holds l) (ho : o ∈ l.outputs cfg.protocol) :
    ∃ kind c, TrueMatch ch (lockSearchScript cfg.protocol kind) l c := by
  obtain ⟨i, cell, hget, hclass⟩ := mem_outputs.mp ho
  obtain ⟨hread, -, hcell, -⟩ := classifyOutput_eq_some.mp hclass
  have hlt := (List.getElem?_eq_some_iff.mp hget).1
  have hfits := (ch.fits l hl).2.2
  have htoNat : (UInt32.ofNat i).toNat = i := by
    rw [UInt32.toNat_ofNat']
    omega
  refine ⟨o.binding.kind, ⟨.output, UInt32.ofNat i⟩, cell, ?_, ?_⟩
  · rw [htoNat]
    exact hget
  · rw [lockMatches_lockSearchScript]
    exact ProtocolScripts.scriptId_matches hread.1

omit [Sha2] in
/-- A rich indexer that does not answer null reports a tip. -/
theorem syncedTip_reported {chainTip : UInt64} (h : env.replies.syncedTip = .ok chainTip)
    (htip : env.replies.getIndexerTip ≠ .ok none) : ∃ t, env.replies.getIndexerTip = .ok (some t) := by
  obtain ⟨-, reported, -, hreported, -⟩ := Replies.syncedTip_eq_ok h
  cases reported with
  | none => exact absurd hreported htip
  | some t => exact ⟨t, hreported⟩

omit [Sha2] in
/-- The tip a round reads is not above the tip the rich indexer reported. -/
theorem syncedTip_le_reported {chainTip : UInt64} {t : IndexerTip} (h : env.replies.syncedTip = .ok chainTip)
    (ht : env.replies.getIndexerTip = .ok (some t)) : chainTip.toNat ≤ t.blockNumber.toNat := by
  obtain ⟨nodeTip, reported, -, hreported, hmin⟩ := Replies.syncedTip_eq_ok h
  have hsome := hreported.symm.trans ht
  simp only [Except.ok.injEq] at hsome
  rw [hmin, hsome]
  dsimp only
  rw [UInt64.toNat_min]
  omega

theorem Committed.reported (hc : Committed cfg env st st' reads batch) (htip : env.replies.getIndexerTip ≠ .ok none) :
    ∃ t, env.replies.getIndexerTip = .ok (some t) := syncedTip_reported hc.tip htip

theorem Committed.toBlock_le_reported {t : IndexerTip} (ht : env.replies.getIndexerTip = .ok (some t))
    (hc : Committed cfg env st st' reads batch) : reads.toBlock cfg st ≤ t.blockNumber := by
  have hle := hc.toBlock_le_chainTip
  have hreported := syncedTip_le_reported hc.tip ht
  rw [UInt64.le_iff_toNat_le]
  omega

omit [Sha2] in
/-- Up to the tip the rich indexer reports, every match of a range is in an entry of what was collected. -/
theorem mem_entries_of_collected {t : IndexerTip} {done : List Entry} {lo hi : UInt64} {records : List TxRecord}
    (hserves : Serves ch env.replies) (hcomplete : IndexerComplete ch env.replies)
    (ht : env.replies.getIndexerTip = .ok (some t)) (hle : hi ≤ t.blockNumber)
    (hrecords : collectRange cfg env lo hi = .ok records) (hentries : List.Forall₂ (EntryOf ch cfg.protocol) records done)
    {l : Located} {kind : LockKind} {c : MatchedCell} (hl : ch.Holds l) (hfrom : lo.toNat ≤ l.height)
    (hto : l.height ≤ hi.toNat) (hmatch : TrueMatch ch (lockSearchScript cfg.protocol kind) l c) :
    ∃ record ∈ records, record.txHash = l.tx.hash ∧ c ∈ record.cells ∧ record.entry l ∈ done := by
  obtain ⟨record, hmem, hmerged, hcell⟩ := collectRange_complete hserves.indexer hcomplete ht hle hrecords hl hfrom hto
    hmatch
  obtain ⟨e, he, l', hl', rfl⟩ := forall₂_mem_left hentries hmem
  obtain ⟨rfl, -⟩ := hl'.place_eq hmerged rfl
  exact ⟨record, hmem, hl'.txHash, hcell, he⟩

theorem Committed.mem_entries {t : IndexerTip} {done : List Entry} (hserves : Serves ch env.replies)
    (hcomplete : IndexerComplete ch env.replies) (ht : env.replies.getIndexerTip = .ok (some t))
    (hc : Committed cfg env st st' reads batch) (hentries : List.Forall₂ (EntryOf ch cfg.protocol) reads.records done)
    {l : Located} {kind : LockKind} {c : MatchedCell} (hl : ch.Holds l) (hfrom : (st.nextBlock cfg).toNat ≤ l.height)
    (hto : l.height ≤ (reads.toBlock cfg st).toNat) (hmatch : TrueMatch ch (lockSearchScript cfg.protocol kind) l c) :
    ∃ record ∈ reads.records, record.txHash = l.tx.hash ∧ c ∈ record.cells ∧ record.entry l ∈ done :=
  mem_entries_of_collected hserves hcomplete ht (hc.toBlock_le_reported ht) hc.records hentries hl hfrom hto hmatch

omit [Sha2] in
/-- A matched input is an input of the record's entry. -/
theorem TxRecord.mem_entry_inputs {record : TxRecord} {l : Located} (hl : ch.Holds l) {j : Nat}
    (hj : j < l.tx.inputs.length) (hmem : ⟨.input, UInt32.ofNat j⟩ ∈ record.cells) : j ∈ (record.entry l).inputs := by
  have hfits := (ch.fits l hl).2.1
  refine List.mem_map.mpr ⟨⟨.input, UInt32.ofNat j⟩, List.mem_filter.mpr ⟨hmem, by simp⟩, ?_⟩
  dsimp only
  rw [UInt32.toNat_ofNat']
  omega

omit [Sha2] in
theorem TxRecord.nodup_entry_inputs {record : TxRecord} {l : Located} (h : record.cells.Nodup) :
    (record.entry l).inputs.Nodup := by
  unfold TxRecord.entry matchedInputs
  refine List.Nodup.map_on ?_ (h.filter _)
  intro a ha b hb hindex
  obtain ⟨aio, ai⟩ := a
  obtain ⟨bio, bi⟩ := b
  have haio := (List.mem_filter.mp ha).2
  have hbio := (List.mem_filter.mp hb).2
  simp only [decide_eq_true_eq] at haio hbio
  dsimp only at hindex
  rw [haio, hbio, UInt32.toNat_inj.mp hindex]

omit [Sha2] in
/-- A transaction with something readable is a true match of some lock. -/
theorem Relevant.trueMatch {l : Located} (hl : ch.Holds l) (h : Relevant ch cfg.protocol l) :
    ∃ kind c, TrueMatch ch (lockSearchScript cfg.protocol kind) l c := by
  rcases h with hout | ⟨j, op, cell, hin, hcell⟩
  · obtain ⟨o, ho⟩ := List.exists_mem_of_ne_nil _ hout
    exact trueMatch_output hl ho
  · exact ⟨_, _, trueMatch_input hl hin hcell.hasOutput hcell.readable.1⟩

omit [Sha2] in
/-- The entries of what was collected lie in the range. -/
theorem Collected.entries_inRange {lo hi : UInt64} {records : List TxRecord} {done : List Entry}
    (h : Collected ch cfg.protocol lo hi records) (hentries : List.Forall₂ (EntryOf ch cfg.protocol) records done) :
    ∀ e ∈ done, lo.toNat ≤ e.place.height ∧ e.place.height ≤ hi.toNat := by
  intro e he
  obtain ⟨record, hmem, l, hl, rfl⟩ := forall₂_mem_right hentries he
  obtain ⟨hlo, hhi⟩ := h.inRange record hmem
  rw [hl.blockNumber, UInt64.le_iff_toNat_le] at hlo hhi
  exact ⟨hlo, hhi⟩

omit [Sha2] in
/-- The entries of what was collected cover the range. -/
theorem covers_of_collected {t : IndexerTip} {done : List Entry} {lo hi : UInt64} {records : List TxRecord}
    (hserves : Serves ch env.replies) (hcomplete : IndexerComplete ch env.replies)
    (ht : env.replies.getIndexerTip = .ok (some t)) (hle : hi ≤ t.blockNumber)
    (hrecords : collectRange cfg env lo hi = .ok records)
    (hentries : List.Forall₂ (EntryOf ch cfg.protocol) records done) :
    Covers ch cfg.protocol lo.toNat hi.toNat done := by
  have hcollected := collectRange_collected hserves.indexer hrecords
  have hrange := hcollected.entries_inRange hentries
  refine ⟨hrange, ?_, ?_⟩
  · intro e he
    obtain ⟨hlo, hhi⟩ := hrange e he
    obtain ⟨record, hmem, l, hl, rfl⟩ := forall₂_mem_right hentries he
    refine ⟨TxRecord.nodup_entry_inputs hl.nodup, ?_⟩
    intro j op cell hin hcell
    have htrue : TrueMatch ch (lockSearchScript cfg.protocol cell.binding.kind) l ⟨.input, UInt32.ofNat j⟩ :=
      trueMatch_input hl.holds hin hcell.hasOutput hcell.readable.1
    obtain ⟨record', hmem', hhash, hlisted, -⟩ := mem_entries_of_collected hserves hcomplete ht hle hrecords hentries
      hl.holds hlo hhi htrue
    have hsame := hcollected.unique hmem' hmem (hhash.trans hl.txHash.symm)
    rw [hsame] at hlisted
    exact TxRecord.mem_entry_inputs hl.holds (List.getElem?_eq_some_iff.mp hin).1 hlisted
  · intro l hl hlo hhi hrelevant
    obtain ⟨kind, c, htrue⟩ := hrelevant.trueMatch hl
    obtain ⟨record, -, -, -, he⟩ := mem_entries_of_collected hserves hcomplete ht hle hrecords hentries hl hlo hhi htrue
    exact ⟨record.entry l, he, rfl⟩

/-- The entries of a committed round cover its range. -/
theorem Committed.covers {t : IndexerTip} {done : List Entry} (hserves : Serves ch env.replies)
    (hcomplete : IndexerComplete ch env.replies) (ht : env.replies.getIndexerTip = .ok (some t))
    (hc : Committed cfg env st st' reads batch) (hentries : List.Forall₂ (EntryOf ch cfg.protocol) reads.records done) :
    Covers ch cfg.protocol (st.nextBlock cfg).toNat (reads.toBlock cfg st).toNat done :=
  covers_of_collected hserves hcomplete ht (hc.toBlock_le_reported ht) hc.records hentries

end
end RgbppIndexer
