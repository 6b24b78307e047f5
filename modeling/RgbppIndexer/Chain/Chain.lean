import RgbppIndexer.Indexer.Extract

/-!
# The CKB chain

What the indexer is an index of: a list of blocks, the genesis block first,
and what consensus guarantees about them. A transaction is met together with
its place (`Located`); a cell is met together with the transaction that
created it (`ChainCell`).

* `HasCell.unique`, `spends_unique`: an out point names at most one readable
  cell, and at most one input consumes it.
-/
namespace RgbppIndexer

open RgbppIndexer.Core

structure Block where
  header : RpcHeader
  txs : List RpcTransaction

/-- A transaction and its place in the chain. -/
structure Located where
  header : RpcHeader
  index : Nat
  tx : RpcTransaction
  deriving DecidableEq

namespace Located

def height (l : Located) : Nat := l.header.number.toNat

/-- The place, as the scanner hands it on; chain timestamps are in the calendar, so the clock plays no part. -/
def context (l : Located) : BlockContext where
  number := l.header.number
  hash := l.header.hash
  timestamp := ckbTimestamp 0 l.header.timestamp
  txIndex := UInt32.ofNat l.index

/-- The consumption anchor of input `j`. -/
def consumption (l : Located) (j : Nat) : Consumption := consumptionOf l.tx.hash l.context (UInt32.ofNat j)

/-- The transaction sits in these blocks, where it says. -/
def On (l : Located) (blocks : List Block) : Prop :=
  ∃ b, blocks[l.height]? = some b ∧ b.header = l.header ∧ b.txs[l.index]? = some l.tx

end Located

/-- Every transaction of the blocks, with its place, in chain order. -/
def locatedIn (blocks : List Block) : List Located := blocks.flatMap fun b => b.txs.zipIdx.map fun e => ⟨b.header, e.2, e.1⟩

/-- Blocks that carry their own height. -/
theorem mem_locatedIn {blocks : List Block}
    (hnumber : ∀ (n : Nat) (b : Block), blocks[n]? = some b → b.header.number.toNat = n) {l : Located} :
    l ∈ locatedIn blocks ↔ l.On blocks := by
  unfold locatedIn
  rw [List.mem_flatMap]
  constructor
  · rintro ⟨b, hb, hmem⟩
    obtain ⟨⟨tx, i⟩, htx, rfl⟩ := List.mem_map.mp hmem
    obtain ⟨n, hn⟩ := List.getElem?_of_mem hb
    refine ⟨b, ?_, rfl, List.mem_zipIdx_iff_getElem?.mp htx⟩
    show blocks[b.header.number.toNat]? = some b
    rw [hnumber n b hn]
    exact hn
  · rintro ⟨b, hb, hheader, htx⟩
    refine ⟨b, List.mem_of_getElem? hb, List.mem_map.mpr ⟨(l.tx, l.index), List.mem_zipIdx_iff_getElem?.mpr htx, ?_⟩⟩
    rw [hheader]

/-- The blocks of a chain, and what consensus guarantees about them. -/
structure Chain where
  blocks : List Block
  /-- heights fit the columns they are stored in -/
  length_le : blocks.length ≤ 2 ^ 63
  number_eq : ∀ (n : Nat) (b : Block), blocks[n]? = some b → b.header.number.toNat = n
  inCalendar : ∀ (n : Nat) (b : Block), blocks[n]? = some b →
    (DateTime.fromTimestampMillis b.header.timestamp.toInt64.toInt).isSome = true
  /-- positions fit the integers that carry them -/
  fits : ∀ l : Located, l.On blocks → l.index < 2 ^ 32 ∧ l.tx.inputs.length ≤ 2 ^ 32 ∧ l.tx.outputs.length ≤ 2 ^ 32
  hash_injective : ∀ l l' : Located, l.On blocks → l'.On blocks → l.tx.hash = l'.tx.hash → l = l'
  /-- an input refers to an earlier transaction -/
  created_before : ∀ (l creator : Located) (j : Nat) (op : CkbOutPoint), l.On blocks → creator.On blocks →
    l.tx.inputs[j]? = some ⟨op⟩ → op.txHash = creator.tx.hash →
      creator.height < l.height ∨ creator.height = l.height ∧ creator.index < l.index
  /-- an output that exists is consumed at most once -/
  spent_once : ∀ (l l' creator : Located) (j j' : Nat) (op : CkbOutPoint), l.On blocks → l'.On blocks →
    creator.On blocks → op.txHash = creator.tx.hash → l.tx.inputs[j]? = some ⟨op⟩ → l'.tx.inputs[j']? = some ⟨op⟩ →
      l = l' ∧ j = j'

/-- A readable cell, and the transaction that created it. -/
structure ChainCell where
  creator : Located
  output : CellOutput
  binding : LockBinding
  data : Bytes

/-- What a row says about the cell itself. -/
def ChainCell.body (assets : AssetScripts) (cell : ChainCell) : CellBody :=
  cellBody assets cell.binding cell.output cell.data

namespace Chain

variable {ch : Chain} {p : ProtocolScripts} {op : CkbOutPoint}

/-- The transaction is on the chain. -/
abbrev Holds (ch : Chain) (l : Located) : Prop := l.On ch.blocks

/-- The out point names an output of a transaction on the chain. -/
structure HasOutput (ch : Chain) (op : CkbOutPoint) (creator : Located) (output : CellOutput) : Prop where
  holds : ch.Holds creator
  txHash : op.txHash = creator.tx.hash
  output : creator.tx.outputs[op.index.toNat]? = some output

/-- The out point names a readable cell of the chain. -/
structure HasCell (ch : Chain) (p : ProtocolScripts) (op : CkbOutPoint) (cell : ChainCell) : Prop where
  hasOutput : ch.HasOutput op cell.creator cell.output
  data : cell.data = cell.creator.tx.outputsData.getD op.index.toNat []
  readable : Readable p cell.output cell.binding

/-- Input `j` of the transaction consumes the out point. -/
structure Spends (ch : Chain) (l : Located) (j : Nat) (op : CkbOutPoint) : Prop where
  spender : ch.Holds l
  input : l.tx.inputs[j]? = some ⟨op⟩

/-- Every transaction of the chain, in chain order. -/
def located (ch : Chain) : List Located := locatedIn ch.blocks

theorem mem_located {l : Located} : l ∈ ch.located ↔ ch.Holds l := mem_locatedIn ch.number_eq

theorem find?_located {l : Located} (hl : ch.Holds l) : (ch.located.find? fun x => x.tx.hash = l.tx.hash) = some l := by
  cases hfind : ch.located.find? fun x => x.tx.hash = l.tx.hash with
  | none =>
    have hno := List.find?_eq_none.mp hfind l (mem_located.mpr hl)
    simp at hno
  | some found =>
    have hheld := mem_located.mp (List.mem_of_find?_eq_some hfind)
    have hhash := List.find?_some hfind
    simp only [decide_eq_true_eq] at hhash
    rw [ch.hash_injective _ _ hheld hl hhash]

theorem Holds.height_lt {l : Located} (h : ch.Holds l) : l.height < ch.blocks.length := by
  obtain ⟨b, hb, -, -⟩ := h
  exact (List.getElem?_eq_some_iff.mp hb).1

theorem HasOutput.unique {creator creator' : Located} {output output' : CellOutput}
    (h : ch.HasOutput op creator output) (h' : ch.HasOutput op creator' output') :
    creator = creator' ∧ output = output' := by
  have hcreator := ch.hash_injective _ _ h.holds h'.holds (h.txHash.symm.trans h'.txHash)
  subst hcreator
  have houtput := h.output.symm.trans h'.output
  simp only [Option.some.injEq] at houtput
  exact ⟨rfl, houtput⟩

theorem Readable.unique {output : CellOutput} {b b' : LockBinding} (h : Readable p output b) (h' : Readable p output b') :
    b = b' := by
  have hkind := h.1.symm.trans h'.1
  simp only [Option.some.injEq] at hkind
  have hparse := h.2
  rw [hkind] at hparse
  have hb := hparse.symm.trans h'.2
  simpa using hb

theorem HasCell.unique {cell cell' : ChainCell} (h : ch.HasCell p op cell) (h' : ch.HasCell p op cell') : cell = cell' := by
  obtain ⟨hcreator, houtput⟩ := h.hasOutput.unique h'.hasOutput
  have hreadable := h.readable
  rw [houtput] at hreadable
  have hbinding := Readable.unique hreadable h'.readable
  have hdata : cell.data = cell'.data := by rw [h.data, h'.data, hcreator]
  cases cell
  cases cell'
  simp_all

theorem spends_unique {l l' creator : Located} {j j' : Nat} {output : CellOutput} (hout : ch.HasOutput op creator output)
    (h : ch.Spends l j op) (h' : ch.Spends l' j' op) : l = l' ∧ j = j' :=
  ch.spent_once l l' creator j j' op h.spender h'.spender hout.holds hout.txHash h.input h'.input

/-- A cell is created no later than the block that consumes it. -/
theorem Spends.creator_le {l creator : Located} {j : Nat} {output : CellOutput} (h : ch.Spends l j op)
    (hout : ch.HasOutput op creator output) : creator.height ≤ l.height := by
  rcases ch.created_before l creator j op h.spender hout.holds h.input hout.txHash with hlt | ⟨heq, -⟩
  · omega
  · omega

/-- Chain timestamps do not depend on the clock. -/
theorem Holds.timestamp {l : Located} (h : ch.Holds l) (now : DateTime) :
    ckbTimestamp now l.header.timestamp = ckbTimestamp 0 l.header.timestamp := by
  obtain ⟨b, hb, hheader, -⟩ := h
  have hcal := ch.inCalendar _ b hb
  rw [hheader] at hcal
  obtain ⟨t, ht⟩ := Option.isSome_iff_exists.mp hcal
  unfold ckbTimestamp
  rw [ht]
  rfl

end Chain
end RgbppIndexer
