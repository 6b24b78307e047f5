import RgbppIndexer.Core.Signed
import RgbppIndexer.Indexer.Rebuild
import RgbppIndexer.Scan.Cells

/-!
# Resolving a consumed cell

An input is resolved from the half-built batch, from the database or from
the node, whichever knows the cell first. All three give the cell the chain
has under that out point (`Resolution`): the batch and the database because
what they hold was read off the chain, the node because it serves the chain.
They differ in one thing, whether the batch gains a backfilled cell.

* `resolveInput_resolution`: every result of `resolve_input` is one of these,
  or an error; with every call answered, an error means that the cell's lock
  args cannot be parsed.
-/
namespace RgbppIndexer

open RgbppIndexer.Core

/-- The input as the scanner resolves it. -/
def resolvedOf (op : CkbOutPoint) (cell : ChainCell) (inputIndex : UInt32) : ResolvedInput where
  inputIndex := inputIndex
  outPoint := op
  binding := cell.binding
  cell := cell.output
  data := cell.data

/-- Cells, by key, that say of themselves what the chain says of them. -/
def KnownCells (cfg : Config) (ch : Chain) (cells : List NewCell) : Prop :=
  ∀ c ∈ cells, ∃ op cell, c.key = op.key ∧ ch.HasCell cfg.protocol op cell ∧ c.toCellBody = cell.body cfg.assets

/-- Rows that say of themselves what the chain says of them. -/
def KnownRows (cfg : Config) (ch : Chain) (t : Table CellKey CellRecord) : Prop :=
  ∀ key row, t.get? key = some row →
    ∃ op cell, key = op.key ∧ ch.HasCell cfg.protocol op cell ∧ row.toCellBody = cell.body cfg.assets

theorem CellsMatch.knownRows {cfg : Config} {ch : Chain} {created touched : CkbOutPoint → Prop}
    {consumed : CkbOutPoint → Consumption → Prop} {t : Table CellKey CellRecord}
    (h : CellsMatch cfg ch created touched consumed t) : KnownRows cfg ch t := by
  intro key row hrow
  obtain ⟨op, cell, hkey, hcell, -, hfor⟩ := h.row key row hrow
  exact ⟨op, cell, hkey, hcell, hfor.body⟩

/-- What resolving an out point does. -/
inductive Resolution (cfg : Config) (ch : Chain) (env : ScanEnv) (st : Store) (op : CkbOutPoint)
    (inputIndex : UInt32) (batch : IndexBatch) (round : ScanRound) :
    Except IndexerError (Option ResolvedInput × IndexBatch × ScanRound) → Prop
  | known (cell : ChainCell) : ch.HasCell cfg.protocol op cell →
      ((∃ c ∈ batch.cells, c.key = op.key) ∨ st.rgbppCells.get? op.key ≠ none) →
      Resolution cfg ch env st op inputIndex batch round (.ok (some (resolvedOf op cell inputIndex), batch, round))
  | backfilled (cell : ChainCell) : ch.HasCell cfg.protocol op cell →
      (∀ c ∈ batch.cells, c.key ≠ op.key) → st.rgbppCells.get? op.key = none →
      Resolution cfg ch env st op inputIndex batch round
        (.ok (some (resolvedOf op cell inputIndex),
          pushBackfilled batch round (cell.newCell cfg.assets op cell.backfilled)))
  /-- the database or the node did not answer, or the cell is not readable -/
  | failed (e : IndexerError) : (env.faults.cellByOutPoint op ≠ none ∨
        (∃ x, env.replies.getTransaction op.txHash = .error x) ∨ ∀ cell, ¬ ch.HasCell cfg.protocol op cell) →
      Resolution cfg ch env st op inputIndex batch round (.error e)

section
variable {cfg : Config} {ch : Chain} {env : ScanEnv} {st : Store} {op : CkbOutPoint} {inputIndex : UInt32}
  {batch : IndexBatch} {round : ScanRound}

/-- What a round pushes for a cell it fetched from the node. -/
theorem backfilledCell_eq (env : ScanEnv) {cell : ChainCell} (hcell : ch.HasCell cfg.protocol op cell) :
    backfilledCell cfg env op cell.binding cell.output cell.data cell.creator.committed.txStatus =
      cell.newCell cfg.assets op cell.backfilled := by
  have hlt : cell.creator.header.number.toNat < 2 ^ 63 :=
    Nat.lt_of_lt_of_le hcell.hasOutput.holds.height_lt ch.length_le
  have hnumber := clamped_toInt64 hlt
  unfold backfilledCell Located.committed
  simp only [Option.map_some, Option.getD_some]
  unfold buildNewCell
  simp only [hnumber]
  rfl

/-- The node's answer decides the backfill: the cell if its args parse, an error if not. -/
theorem backfillInput_cases (inputIndex : UInt32) (batch : IndexBatch) (round : ScanRound) {tip : UInt64}
    (hnode : NodeServes ch env.replies)
    (htip : env.replies.getTipBlockNumber = .ok tip) {creator : Located} {output : CellOutput}
    (hout : ch.HasOutput op creator output) (hheight : creator.height ≤ tip.toNat) {kind : LockKind}
    (hkind : cfg.protocol.classify output.lock = some kind) :
    (∃ cell, ch.HasCell cfg.protocol op cell ∧ backfillInput cfg env op inputIndex batch round =
        .ok (some (resolvedOf op cell inputIndex),
          pushBackfilled batch round (cell.newCell cfg.assets op cell.backfilled))) ∨
      ((∃ e, backfillInput cfg env op inputIndex batch round = .error e) ∧
        ((∃ e, env.replies.getTransaction op.txHash = .error e) ∨ ∀ cell, ¬ ch.HasCell cfg.protocol op cell)) := by
  unfold backfillInput
  cases hreply : env.replies.getTransaction op.txHash with
  | error e => exact .inr ⟨⟨.ckb e, rfl⟩, .inl ⟨e, rfl⟩⟩
  | ok reply =>
    rw [hout.txHash] at hreply
    obtain rfl := hnode.transaction tip creator reply htip hout.holds hheight hreply
    simp only [Except.intoIndexer, bind, Except.bind, Located.committed, hout.output, hkind]
    cases hparse : LockBinding.parse kind output.lock.args with
    | error e =>
      refine .inr ⟨⟨.types e, rfl⟩, .inr fun cell hcell => ?_⟩
      obtain ⟨rfl, rfl⟩ := hout.unique hcell.hasOutput
      have hk := hkind.symm.trans hcell.readable.1
      simp only [Option.some.injEq] at hk
      rw [hk, hcell.readable.2] at hparse
      cases hparse
    | ok binding =>
      left
      have hbinding : binding.kind = kind := (LockBinding.encode_parse hparse).2
      let cell : ChainCell :=
        { creator, output, binding, data := creator.tx.outputsData.getD op.index.toNat [] }
      have hcell : ch.HasCell cfg.protocol op cell :=
        ⟨hout, rfl, by rw [hkind, hbinding], by rw [hbinding]; exact hparse⟩
      refine ⟨cell, hcell, ?_⟩
      rw [← backfilledCell_eq env hcell]
      rfl

theorem resolveInput_resolution (inputIndex : UInt32) (batch : IndexBatch) (round : ScanRound) {tip : UInt64}
    (hnode : NodeServes ch env.replies)
    (htip : env.replies.getTipBlockNumber = .ok tip) (hcells : KnownCells cfg ch batch.cells)
    (hrows : KnownRows cfg ch st.rgbppCells) {creator : Located} {output : CellOutput}
    (hout : ch.HasOutput op creator output) (hheight : creator.height ≤ tip.toNat) {kind : LockKind}
    (hkind : cfg.protocol.classify output.lock = some kind) :
    Resolution cfg ch env st op inputIndex batch round (resolveInput cfg env st op inputIndex batch round) := by
  cases hfind : batch.cells.find? fun c => c.key = op.key with
  | some pending =>
    have hmem := List.mem_of_find?_eq_some hfind
    have hkey : pending.key = op.key := by simpa using List.find?_some hfind
    obtain ⟨op', cell, hkey', hcell, hbody⟩ := hcells pending hmem
    obtain rfl := CkbOutPoint.key_injective (hkey.symm.trans hkey')
    rw [resolveInput_pending hfind hcell.readable hbody]
    exact .known cell hcell (.inl ⟨pending, hmem, hkey⟩)
  | none =>
    have hfresh : ∀ c ∈ batch.cells, c.key ≠ op.key := by simpa using hfind
    cases hfault : env.faults.cellByOutPoint op with
    | some e =>
      unfold resolveInput
      rw [find?_fresh hfresh, hfault]
      exact .failed _ (.inl (by rw [hfault]; simp))
    | none =>
      cases hrow : st.rgbppCells.get? op.key with
      | some row =>
        obtain ⟨op', cell, hkey, hcell, hbody⟩ := hrows _ row hrow
        obtain rfl := CkbOutPoint.key_injective hkey
        rw [resolveInput_stored hfresh hfault hrow hcell.readable hbody]
        exact .known cell hcell (.inr (by rw [hrow]; simp))
      | none =>
        rw [resolveInput_absent hfresh hfault hrow]
        rcases backfillInput_cases inputIndex batch round hnode htip hout hheight hkind with ⟨cell, hcell, heq⟩ | ⟨⟨e, heq⟩, hwhy⟩
        · rw [heq]
          exact .backfilled cell hcell hfresh hrow
        · rw [heq]
          exact .failed e (.inr hwhy)

end
end RgbppIndexer
