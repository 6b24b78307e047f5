import RgbppIndexer.Chain.World
import RgbppIndexer.Indexer.Preimage

/-!
# Endpoints that serve a given chain

A node and a rich indexer computed from the blocks: the assumptions of
`World` are not only consistent, every chain has endpoints that meet them.

* `Chain.ofBlocks`: a chain from blocks whose consensus rules are checked.
* `serve`: the endpoints, at some tip.
* `serve_serves`, `serve_complete`: they serve the chain, completely.
-/
namespace RgbppIndexer

open RgbppIndexer.Core

/-! ## Checked blocks -/

/-- The consensus rules, over the transactions there are. -/
def BlocksOk (blocks : List Block) : Prop :=
  blocks.length ≤ 2 ^ 63 ∧
  (∀ e ∈ blocks.zipIdx, e.1.header.number.toNat = e.2 ∧
    (DateTime.fromTimestampMillis e.1.header.timestamp.toInt64.toInt).isSome = true) ∧
  (∀ l ∈ locatedIn blocks, l.index < 2 ^ 32 ∧ l.tx.inputs.length ≤ 2 ^ 32 ∧ l.tx.outputs.length ≤ 2 ^ 32) ∧
  (∀ l ∈ locatedIn blocks, ∀ l' ∈ locatedIn blocks, l.tx.hash = l'.tx.hash → l = l') ∧
  (∀ l ∈ locatedIn blocks, ∀ creator ∈ locatedIn blocks, ∀ input ∈ l.tx.inputs,
    input.previousOutput.txHash = creator.tx.hash →
      creator.height < l.height ∨ creator.height = l.height ∧ creator.index < l.index) ∧
  (∀ l ∈ locatedIn blocks, ∀ l' ∈ locatedIn blocks, ∀ creator ∈ locatedIn blocks, ∀ e ∈ l.tx.inputs.zipIdx,
    ∀ e' ∈ l'.tx.inputs.zipIdx, e.1.previousOutput = e'.1.previousOutput →
      e.1.previousOutput.txHash = creator.tx.hash → l = l' ∧ e.2 = e'.2)

instance (blocks : List Block) : Decidable (BlocksOk blocks) := inferInstanceAs (Decidable (_ ∧ _))

theorem BlocksOk.numbers {blocks : List Block} (h : BlocksOk blocks) (n : Nat) (b : Block) (hb : blocks[n]? = some b) :
    b.header.number.toNat = n ∧ (DateTime.fromTimestampMillis b.header.timestamp.toInt64.toInt).isSome = true :=
  h.2.1 (b, n) (List.mem_zipIdx_iff_getElem?.mpr hb)

theorem BlocksOk.mem {blocks : List Block} (h : BlocksOk blocks) {l : Located} (hl : l.On blocks) : l ∈ locatedIn blocks :=
  (mem_locatedIn fun n b hb => (h.numbers n b hb).1).mpr hl

/-- A chain from checked blocks. -/
def Chain.ofBlocks (blocks : List Block) (h : BlocksOk blocks) : Chain where
  blocks := blocks
  length_le := h.1
  number_eq := fun n b hb => (h.numbers n b hb).1
  inCalendar := fun n b hb => (h.numbers n b hb).2
  fits := fun l hl => h.2.2.1 l (h.mem hl)
  hash_injective := fun l l' hl hl' => h.2.2.2.1 l (h.mem hl) l' (h.mem hl')
  created_before := fun l creator _ op hl hcreator hin htx =>
    h.2.2.2.2.1 l (h.mem hl) creator (h.mem hcreator) ⟨op⟩ (List.mem_of_getElem? hin) htx
  spent_once := fun l l' creator j j' op hl hl' hcreator htx hin hin' =>
    h.2.2.2.2.2 l (h.mem hl) l' (h.mem hl') creator (h.mem hcreator) (⟨op⟩, j) (List.mem_zipIdx_iff_getElem?.mpr hin)
      (⟨op⟩, j') (List.mem_zipIdx_iff_getElem?.mpr hin') rfl htx

/-! ## The endpoints -/

namespace Chain

/-- The output an out point names. -/
def outputAt (ch : Chain) (op : CkbOutPoint) : Option CellOutput :=
  match ch.located.find? fun l => l.tx.hash = op.txHash with
  | none => none
  | some creator => creator.tx.outputs[op.index.toNat]?

/-- Output `i` of a transaction, if the search matches its lock. -/
def matchedOutput (search : Script) (l : Located) (i : Nat) : Option MatchedCell :=
  match l.tx.outputs[i]? with
  | none => none
  | some output => if lockMatches search output.lock then some ⟨.output, UInt32.ofNat i⟩ else none

/-- Input `j` of a transaction, if the search matches the lock it consumes. -/
def matchedInput (ch : Chain) (search : Script) (l : Located) (j : Nat) : Option MatchedCell :=
  match l.tx.inputs[j]? with
  | none => none
  | some input =>
    match ch.outputAt input.previousOutput with
    | none => none
    | some output => if lockMatches search output.lock then some ⟨.input, UInt32.ofNat j⟩ else none

/-- The cells of a transaction a search matches. -/
def matchedCells (ch : Chain) (search : Script) (l : Located) : List MatchedCell :=
  (List.range l.tx.inputs.length).filterMap (ch.matchedInput search l) ++
    (List.range l.tx.outputs.length).filterMap (matchedOutput search l)

/-- The record of a transaction. -/
def recordOf (ch : Chain) (search : Script) (l : Located) : TxRecord where
  txHash := l.tx.hash
  blockNumber := l.header.number
  txIndex := UInt32.ofNat l.index
  cells := ch.matchedCells search l

/-- The records of a search over `[from, to)`, grouped by transaction. -/
def recordsIn (ch : Chain) (search : Script) (fromBlock toExclusive : UInt64) : List TxRecord :=
  (ch.located.filter fun l => fromBlock.toNat ≤ l.height ∧ l.height < toExclusive.toNat ∧ ch.matchedCells search l ≠ []).map
    (ch.recordOf search)

/-- A cursor is one byte longer than the list before it. -/
def cursorPosition : Option String → Nat
  | none => 0
  | some cursor =>
    match bytesFromHex cursor with
    | .ok b => b.length - 1
    | .error _ => 0

/-- One page of a list. -/
def pageOf (list : List TxRecord) (limit : UInt32) (cursor : Option String) : Pagination :=
  let start := cursorPosition cursor
  let objects := (list.drop start).take limit.toNat
  { objects
    lastCursor := if list.length ≤ start + limit.toNat then [] else List.replicate (start + objects.length + 1) 0 }

/-- A node at `tip`, and a rich indexer that has caught up with it. -/
def serve (ch : Chain) (tip : UInt64) : Replies where
  getTipBlockNumber := .ok tip
  getHeaderByNumber n := .ok (if n ≤ tip then (ch.blocks[n.toNat]?).map Block.header else none)
  getTransaction txHash := .ok ((ch.located.find? fun l => l.tx.hash = txHash).map Located.committed)
  getIndexerTip := .ok (some ⟨((ch.blocks[tip.toNat]?).map fun b => b.header.hash).getD .ZERO, tip⟩)
  getTransactionsPage key _ limit cursor :=
    match key.blockRange with
    | some (fromBlock, toExclusive) => .ok (pageOf (ch.recordsIn key.script fromBlock toExclusive) limit cursor)
    | none => .ok { objects := [], lastCursor := [] }

/-! ## They serve the chain -/

variable {ch : Chain} {search : Script} {l : Located}

theorem outputAt_eq_some {op : CkbOutPoint} {output : CellOutput} :
    ch.outputAt op = some output ↔ ∃ creator, ch.HasOutput op creator output := by
  unfold outputAt
  constructor
  · intro h
    cases hfind : ch.located.find? fun l => l.tx.hash = op.txHash with
    | none => rw [hfind] at h; cases h
    | some creator =>
      rw [hfind] at h
      have hhash := List.find?_some hfind
      simp only [decide_eq_true_eq] at hhash
      exact ⟨creator, mem_located.mp (List.mem_of_find?_eq_some hfind), hhash.symm, h⟩
  · rintro ⟨creator, hholds, hhash, hout⟩
    rw [hhash, find?_located hholds]
    exact hout

theorem matchedOutput_eq_some {i : Nat} {c : MatchedCell} : matchedOutput search l i = some c ↔
    c = ⟨.output, UInt32.ofNat i⟩ ∧ ∃ output, l.tx.outputs[i]? = some output ∧ lockMatches search output.lock = true := by
  unfold matchedOutput
  cases hout : l.tx.outputs[i]? with
  | none => simp
  | some output =>
    dsimp only
    by_cases hlock : lockMatches search output.lock
    · rw [if_pos hlock, Option.some.injEq]
      constructor
      · rintro rfl
        exact ⟨rfl, output, rfl, hlock⟩
      · rintro ⟨rfl, -⟩
        rfl
    · rw [if_neg hlock]
      simp [hlock]

theorem matchedInput_eq_some {j : Nat} {c : MatchedCell} : ch.matchedInput search l j = some c ↔
    c = ⟨.input, UInt32.ofNat j⟩ ∧ ∃ op creator output, l.tx.inputs[j]? = some ⟨op⟩ ∧ ch.HasOutput op creator output ∧
      lockMatches search output.lock = true := by
  unfold matchedInput
  constructor
  · intro h
    cases hin : l.tx.inputs[j]? with
    | none => rw [hin] at h; cases h
    | some input =>
      rw [hin] at h
      dsimp only at h
      cases hout : ch.outputAt input.previousOutput with
      | none => rw [hout] at h; cases h
      | some output =>
        rw [hout] at h
        dsimp only at h
        by_cases hlock : lockMatches search output.lock
        · rw [if_pos hlock] at h
          simp only [Option.some.injEq] at h
          obtain ⟨creator, hcreator⟩ := outputAt_eq_some.mp hout
          exact ⟨h.symm, _, creator, output, rfl, hcreator, hlock⟩
        · rw [if_neg hlock] at h
          cases h
  · rintro ⟨rfl, op, creator, output, hin, hcreator, hlock⟩
    rw [hin]
    dsimp only
    rw [outputAt_eq_some.mpr ⟨creator, hcreator⟩]
    dsimp only
    rw [if_pos hlock]

/-- Positions fit the integers that carry them. -/
theorem toNat_ofNat_of_getElem? {α : Type} {xs : List α} {i : Nat} {x : α} (hlen : xs.length ≤ 2 ^ 32) (h : xs[i]? = some x) :
    (UInt32.ofNat i).toNat = i := by
  have hlt := (List.getElem?_eq_some_iff.mp h).1
  rw [UInt32.toNat_ofNat']
  omega

theorem mem_matchedCells (hl : ch.Holds l) (c : MatchedCell) : c ∈ ch.matchedCells search l ↔ TrueMatch ch search l c := by
  obtain ⟨-, hinputs, houtputs⟩ := ch.fits l hl
  unfold matchedCells TrueMatch
  rw [List.mem_append, List.mem_filterMap, List.mem_filterMap]
  constructor
  · rintro (⟨j, -, hmatch⟩ | ⟨i, -, hmatch⟩)
    · obtain ⟨rfl, op, creator, output, hin, hrest⟩ := matchedInput_eq_some.mp hmatch
      refine ⟨op, creator, output, ?_, hrest⟩
      rw [toNat_ofNat_of_getElem? hinputs hin]
      exact hin
    · obtain ⟨rfl, output, hout, hlock⟩ := matchedOutput_eq_some.mp hmatch
      refine ⟨output, ?_, hlock⟩
      rw [toNat_ofNat_of_getElem? houtputs hout]
      exact hout
  · obtain ⟨io, i⟩ := c
    have hback : UInt32.ofNat i.toNat = i := UInt32.ofNat_toNat
    cases io with
    | input =>
      rintro ⟨op, creator, output, hin, hrest⟩
      left
      refine ⟨i.toNat, List.mem_range.mpr (List.getElem?_eq_some_iff.mp hin).1, ?_⟩
      exact matchedInput_eq_some.mpr ⟨by rw [hback], op, creator, output, hin, hrest⟩
    | output =>
      rintro ⟨output, hout, hlock⟩
      right
      refine ⟨i.toNat, List.mem_range.mpr (List.getElem?_eq_some_iff.mp hout).1, ?_⟩
      exact matchedOutput_eq_some.mpr ⟨by rw [hback], output, hout, hlock⟩

/-- A list of matches by position has no repeats, below `2^32`. -/
theorem nodup_matches (io : IoType) {f : Nat → Option MatchedCell} {n : Nat}
    (hf : ∀ i c, f i = some c → c = ⟨io, UInt32.ofNat i⟩ ∧ (UInt32.ofNat i).toNat = i) :
    ((List.range n).filterMap f).Nodup := by
  refine List.Nodup.filterMap ?_ List.nodup_range
  intro i i' c hi hi'
  obtain ⟨rfl, hindex⟩ := hf i c hi
  obtain ⟨heq, hindex'⟩ := hf i' _ hi'
  have hsame : UInt32.ofNat i = UInt32.ofNat i' := congrArg MatchedCell.ioIndex heq
  rw [← hindex, ← hindex', hsame]

theorem nodup_matchedCells (hl : ch.Holds l) : (ch.matchedCells search l).Nodup := by
  obtain ⟨-, hinputs, houtputs⟩ := ch.fits l hl
  refine List.Nodup.append ?_ ?_ ?_
  · refine nodup_matches .input fun j c hmatch => ?_
    obtain ⟨hc, op, -, -, hin, -⟩ := matchedInput_eq_some.mp hmatch
    exact ⟨hc, toNat_ofNat_of_getElem? hinputs hin⟩
  · refine nodup_matches .output fun i c hmatch => ?_
    obtain ⟨hc, output, hout, -⟩ := matchedOutput_eq_some.mp hmatch
    exact ⟨hc, toNat_ofNat_of_getElem? houtputs hout⟩
  · intro c hin hout
    obtain ⟨j, -, hj⟩ := List.mem_filterMap.mp hin
    obtain ⟨i, -, hi⟩ := List.mem_filterMap.mp hout
    have hio := (matchedInput_eq_some.mp hj).1.symm.trans (matchedOutput_eq_some.mp hi).1
    cases hio

theorem trueRecord_recordOf (hl : ch.Holds l) : TrueRecord ch search l (ch.recordOf search l) :=
  ⟨hl, rfl, rfl, rfl, nodup_matchedCells hl, fun c hc => (mem_matchedCells hl c).mp hc⟩

theorem cursorPosition_replicate (n : Nat) : cursorPosition (some (bytesToHex (List.replicate (n + 1) 0))) = n := by
  unfold cursorPosition
  dsimp only
  rw [bytesFromHex_bytesToHex]
  dsimp only
  rw [List.length_replicate, Nat.add_sub_cancel]

/-- The pages of a list cut it up. -/
theorem paged_pageOf {r : Replies} {key : SearchKey} {list : List TxRecord}
    (h : ∀ limit cursor, r.getTransactionsPage key .asc limit cursor = .ok (pageOf list limit cursor)) : Paged r key list := by
  refine ⟨cursorPosition, rfl, ?_⟩
  intro limit cursor page hpage
  rw [h] at hpage
  simp only [Except.ok.injEq] at hpage
  subst hpage
  refine ⟨rfl, ?_, ?_⟩
  · intro hmore
    unfold pageOf at hmore ⊢
    dsimp only at hmore ⊢
    by_cases hend : list.length ≤ cursorPosition cursor + limit.toNat
    · rw [if_pos hend] at hmore
      exact absurd rfl hmore
    · rw [if_neg hend, cursorPosition_replicate]
  · intro hlast
    unfold pageOf at hlast
    dsimp only at hlast
    by_contra hmore
    rw [if_neg hmore, List.replicate_eq_nil_iff] at hlast
    omega

variable {tip : UInt64}

theorem getTransactionsPage_serve (script : Script) (fromBlock toBlock : UInt64) (limit : UInt32) (cursor : Option String) :
    (ch.serve tip).getTransactionsPage (rangeSearch script fromBlock toBlock) .asc limit cursor =
      .ok (pageOf (ch.recordsIn script fromBlock (toBlock + 1)) limit cursor) := rfl

theorem serve_serves (htip : tip.toNat < ch.blocks.length) : Serves ch (ch.serve tip) where
  node := by
    refine ⟨?_, ?_, ?_, ?_⟩
    · intro t ht
      cases ht
      exact htip
    · intro n header hheader
      simp only [serve, Except.ok.injEq] at hheader
      by_cases hn : n ≤ tip
      · rw [if_pos hn, Option.map_eq_some_iff] at hheader
        exact hheader
      · rw [if_neg hn] at hheader
        cases hheader
    · intro t n ht hn hnone
      cases ht
      simp only [serve, Except.ok.injEq, if_pos hn, Option.map_eq_none_iff, List.getElem?_eq_none_iff] at hnone
      rw [UInt64.le_iff_toNat_le] at hn
      omega
    · intro t l reply _ hl _ hreply
      simp only [serve, Except.ok.injEq, find?_located hl, Option.map_some] at hreply
      exact hreply.symm
  indexer := by
    intro script fromBlock toBlock limit cursor page hpage record hmem
    rw [getTransactionsPage_serve] at hpage
    simp only [Except.ok.injEq] at hpage
    subst hpage
    have hlist := List.mem_of_mem_drop (List.mem_of_mem_take hmem)
    obtain ⟨l, hl, rfl⟩ := List.mem_map.mp hlist
    exact ⟨l, trueRecord_recordOf (mem_located.mp (List.mem_of_mem_filter hl))⟩

theorem serve_complete (htip : tip.toNat < ch.blocks.length) : IndexerComplete ch (ch.serve tip) := by
  intro t ht script fromBlock toBlock hle
  simp only [serve, Except.ok.injEq, Option.some.injEq] at ht
  subst ht
  refine ⟨_, paged_pageOf fun limit cursor => getTransactionsPage_serve script fromBlock toBlock limit cursor, ?_⟩
  intro l c hl hfrom hto hmatch
  have hc := (mem_matchedCells hl c).mpr hmatch
  refine ⟨ch.recordOf script l, List.mem_map.mpr ⟨l, List.mem_filter.mpr ⟨mem_located.mpr hl, ?_⟩, rfl⟩,
    trueRecord_recordOf hl, hc⟩
  have hone : (1 : UInt64).toNat = 1 := rfl
  have hlen := ch.length_le
  rw [UInt64.le_iff_toNat_le] at hle
  dsimp only at hle
  have hend : (toBlock + 1).toNat = toBlock.toNat + 1 := by
    rw [UInt64.toNat_add, hone]
    omega
  rw [decide_eq_true_eq, hend]
  exact ⟨hfrom, by omega, List.ne_nil_of_mem hc⟩

end Chain

/-! ## A small chain -/

namespace Sample

def hash (b : UInt8) : H256 := ⟨.filled 32 b⟩

def block (number : UInt64) (txs : List RpcTransaction) : Block where
  header :=
    { hash := hash (number.toUInt8 + 100), number, parentHash := hash (number.toUInt8 + 99), timestamp := 1700000000000 }
  txs := txs

def btcTxid : BtcTxid := ⟨.filled 32 7⟩

/-- It creates one RGB++ cell, bound to output 0 of `btcTxid`. -/
def issuance : RpcTransaction where
  hash := hash 1
  inputs := []
  outputs := [(boundOutput 142 btcTxid).cell]
  outputsData := [[]]

/-- The cell of the issuance. -/
def cell : CkbOutPoint := ⟨hash 1, 0⟩

/-- Three blocks behind the genesis block; the issuance is in the second. -/
def chain : Chain := .ofBlocks [block 0 [], block 1 [], block 2 [issuance], block 3 []] (by decide +kernel)

/-- A round in which nothing fails. -/
def env (replies : Replies) : ScanEnv where
  replies
  faults := {}
  now := 0
  pageFuel := 10

end Sample
end RgbppIndexer
