import RgbppIndexer.Scan.Growth
import RgbppIndexer.Scan.Reached
import RgbppIndexer.Scan.Stale

/-!
# Scanners beside one another

What any number of scanners keep on one database, however their statements
interleave. The invariant, `Shared.Indexed`, is the one of a single scanner with
the checkpoint replaced by the highest one published: a late round may move the
checkpoint back, but not the rows. What the others may do meanwhile is
`RowsKept`.

* `Shared.Indexed.commit`: a batch built from stale reads keeps both.
* `Shared.Indexed.equalsReference`: the rows are those of the reference pass.
-/
namespace RgbppIndexer

open RgbppIndexer.Core

/-- The highest checkpoint published so far; before the first, the block before the first. -/
def Shared.highest (cfg : Config) (s : Shared) : Nat :=
  s.published.foldr (fun number top => max top number.toInt.toNat) (cfg.firstBlock - 1)

/-- A row is there for the key. -/
def Shared.Present (s : Shared) (key : CellKey) : Prop := s.store.rgbppCells.get? key ≠ none

/-- Whichever range lists a transaction, the entry it becomes is one of these. -/
def Lists (cfg : Config) (ch : Chain) (listed : Entry → Prop) (env : ScanEnv) : Prop :=
  ∀ lo hi records, collectRange cfg env lo hi = .ok records → ∀ record ∈ records, ∀ l,
    MergedRecord ch cfg.protocol l record → listed (record.entry l)

/-- Each transaction has its inputs in this order. -/
def InOrder (order : Located → List Nat) (e : Entry) : Prop := e.inputs = order e.place

/-- Every transition is the one its transaction has with its inputs in this order, commitment included. -/
def TransitionsInOrder [Sha2] (cfg : Config) (ch : Chain) (order : Located → List Nat) (st : Store) : Prop :=
  ∀ key row, st.rgbppTransitions.get? key = some row → ∃ l resolved, ch.Holds l ∧ key = l.tx.hash.toVec ∧
    Resolves ch cfg.protocol l (order l) resolved ∧
    row = (transitionOf l.tx.hash l.context resolved (l.outputs cfg.protocol)).record

/-- No row is lost: a cell keeps its anchor and its consumption, a transition all but its commitment. -/
structure RowsKept (st st' : Store) : Prop where
  cells : ∀ key row, st.rgbppCells.get? key = some row → ∃ row', st'.rgbppCells.get? key = some row' ∧
    row'.toCellBody = row.toCellBody ∧ row'.anchor = row.anchor ∧ ∀ c, row.consumed = some c → row'.consumed = some c
  transitions : ∀ key row, st.rgbppTransitions.get? key = some row → ∃ row', st'.rgbppTransitions.get? key = some row' ∧
    ({ row' with expectedCommitment := none } : TransitionRecord) = { row with expectedCommitment := none }

theorem RowsKept.of_eq {st st' : Store} (hcells : st'.rgbppCells = st.rgbppCells)
    (htransitions : st'.rgbppTransitions = st.rgbppTransitions) : RowsKept st st' where
  cells key row hrow := ⟨row, by rw [hcells, hrow], rfl, rfl, fun _ hc => hc⟩
  transitions key row hrow := ⟨row, by rw [htransitions, hrow], rfl⟩

theorem RowsKept.trans {a b c : Store} (hab : RowsKept a b) (hbc : RowsKept b c) : RowsKept a c where
  cells := by
    intro key row hrow
    obtain ⟨row', hrow', hbody, hanchor, hconsumed⟩ := hab.cells key row hrow
    obtain ⟨row'', hrow'', hbody', hanchor', hconsumed'⟩ := hbc.cells key row' hrow'
    exact ⟨row'', hrow'', hbody'.trans hbody, hanchor'.trans hanchor, fun c hc => hconsumed' c (hconsumed c hc)⟩
  transitions := by
    intro key row hrow
    obtain ⟨row', hrow', heq⟩ := hab.transitions key row hrow
    obtain ⟨row'', hrow'', heq'⟩ := hbc.transitions key row' hrow'
    exact ⟨row'', hrow'', heq'.trans heq⟩

section
variable [Sha2] {cfg : Config} {ch : Chain} {listed : Entry → Prop} {order : Located → List Nat} {entries done : List Entry}
  {st st' : Store} {top lo hi : Nat}

/-! ## Rows of a covered index -/

/-- The anchor of a row is decided by the first block. -/
theorem IndexMatch.anchor_eq (h : IndexMatch cfg ch entries st) {first : Nat}
    (hcovers : Covers ch cfg.protocol first top entries) {op : CkbOutPoint} {cell : ChainCell}
    (hcell : ch.HasCell cfg.protocol op cell) {row : CellRecord} (hrow : st.rgbppCells.get? op.key = some row) :
    row.anchor = cell.anchorFrom first := by
  obtain ⟨hseen, hfor⟩ := h.cells.row_at hcell hrow
  have hcreated := Chain.createdBy_iff h.good hcovers hcell
  unfold ChainCell.anchorFrom
  by_cases hle : first ≤ cell.creator.height
  · rw [if_pos hle]
    refine hfor.anchor_created ?_
    rcases hseen with hseen | ⟨e, he, j, -, hin⟩
    · exact hseen
    · -- consumed in the range, so not created above it
      have hspends : ch.Spends e.place j op := ⟨(h.good e he).holds, hin⟩
      exact hcreated.mpr ⟨hle, (hspends.creator_le hcell.hasOutput).trans (hcovers.range e he).2⟩
  · rw [if_neg hle]
    exact hfor.anchor_backfilled fun hc => hle (hcreated.mp hc).1

theorem IndexMatch.inOrder (h : IndexMatch cfg ch entries st) (horder : ∀ e ∈ entries, InOrder order e) :
    TransitionsInOrder cfg ch order st := by
  intro key row hrow
  obtain ⟨n, ⟨e, he, resolved, hres, -, rfl⟩, hkey, hrecord⟩ := h.transitions.row key row hrow
  rw [show e.inputs = _ from horder e he] at hres
  exact ⟨e.place, resolved, (h.good e he).holds, hkey, hres, hrecord⟩

/-- In two databases whose transitions are in one order, a transaction has one row. -/
theorem TransitionsInOrder.unique (h : TransitionsInOrder cfg ch order st) (h' : TransitionsInOrder cfg ch order st')
    {key : Bytes} {row row' : TransitionRecord} (hrow : st.rgbppTransitions.get? key = some row)
    (hrow' : st'.rgbppTransitions.get? key = some row') : row' = row := by
  obtain ⟨l, resolved, hl, hkey, hres, rfl⟩ := h key row hrow
  obtain ⟨l', resolved', hl', hkey', hres', rfl⟩ := h' key row' hrow'
  obtain rfl := ch.hash_injective l l' hl hl' (H256.toVec_injective (hkey.symm.trans hkey'))
  rw [hres.unique hres']

/-- Nor do the rows of a transaction differ but for the commitment, in whatever order its inputs were listed. -/
theorem IndexMatch.transition_perm {entries' : List Entry} (h : IndexMatch cfg ch entries st)
    (h' : IndexMatch cfg ch entries' st') (hfull : ∀ e ∈ entries, e.Full ch cfg.protocol)
    (hfull' : ∀ e ∈ entries', e.Full ch cfg.protocol) {key : Bytes} {row row' : TransitionRecord}
    (hrow : st.rgbppTransitions.get? key = some row) (hrow' : st'.rgbppTransitions.get? key = some row') :
    ({ row' with expectedCommitment := none } : TransitionRecord) = { row with expectedCommitment := none } := by
  obtain ⟨n, ⟨e, he, rs, hres, -, rfl⟩, hkey, hrecord⟩ := h.transitions.row key row hrow
  obtain ⟨n', ⟨e', he', rs', hres', -, rfl⟩, hkey', hrecord'⟩ := h'.transitions.row key row' hrow'
  have hplace : e'.place = e.place :=
    ch.hash_injective _ _ (h'.good e' he').holds (h.good e he).holds (H256.toVec_injective (hkey'.symm.trans hkey))
  have hperm := Chain.perm_readableInputs (hfull e he) hres
  have hperm' := Chain.perm_readableInputs (hfull' e' he') hres'
  rw [hplace] at hperm' hrecord'
  rw [hrecord, hrecord']
  exact Chain.transitionOf_perm (hperm'.trans hperm.symm) ..

/-- An index that grows keeps its rows. -/
theorem IndexMatch.rowsKept (h : IndexMatch cfg ch entries st) (h' : IndexMatch cfg ch (entries ++ done) st') {first : Nat}
    (hcovers : Covers ch cfg.protocol first top entries) (hcovers' : Covers ch cfg.protocol first hi (entries ++ done)) :
    RowsKept st st' where
  cells := by
    intro key row hrow
    obtain ⟨row', hrow', hbody, hconsumed⟩ := h.cell_kept h' hrow
    obtain ⟨op, cell, rfl, hcell, -, -⟩ := h.cells.row key row hrow
    exact ⟨row', hrow', hbody, (h'.anchor_eq hcovers' hcell hrow').trans (h.anchor_eq hcovers hcell hrow).symm, hconsumed⟩
  transitions := by
    intro key row hrow
    obtain ⟨row', hrow', -⟩ := h.transition_kept h' hrow
    exact ⟨row', hrow', h.transition_perm h' hcovers.full hcovers'.full hrow hrow'⟩

/-! ## The invariant -/

/-- Everything up to the highest published checkpoint is indexed, and the checkpoint is not above it. -/
structure Shared.Indexed (cfg : Config) (ch : Chain) (listed : Entry → Prop) (s : Shared) : Prop where
  indexed : ∃ entries, IndexMatch cfg ch entries s.store ∧
    Covers ch cfg.protocol cfg.firstBlock (s.highest cfg) entries ∧ ∀ e ∈ entries, listed e
  checkpoint : (s.store.checkpoint cfg).number.toInt ≤ s.highest cfg
  nonneg : cfg.ckb.startBlock = 0 → 0 ≤ (s.store.checkpoint cfg).number.toInt

/-- What scanners do to what they share. -/
def scanRely (cfg : Config) (ch : Chain) (listed : Entry → Prop) : Program.Rely Shared where
  Inv := Shared.Indexed cfg ch listed
  Moves s s' := s.highest cfg ≤ s'.highest cfg ∧ RowsKept s.store s'.store
  refl _ := ⟨Nat.le_refl _, .of_eq rfl rfl⟩
  trans h h' := ⟨h.1.trans h'.1, h.2.trans h'.2⟩

namespace Shared

variable {s s' : Shared}

omit [Sha2] in
theorem firstBlock_le_highest (cfg : Config) (s : Shared) : cfg.firstBlock ≤ s.highest cfg + 1 := by
  unfold highest
  induction s.published with
  | nil =>
    rw [List.foldr_nil]
    omega
  | cons number published ih =>
    rw [List.foldr_cons]
    omega

theorem present_of_moves (h : (scanRely cfg ch listed).Moves s s') (key : CellKey) (hp : s.Present key) : s'.Present key := by
  obtain ⟨row, hrow⟩ := Option.ne_none_iff_exists'.mp hp
  obtain ⟨row', hrow', -⟩ := h.2.cells key row hrow
  unfold Present
  rw [hrow']
  exact nofun

/-- A freshly migrated database. -/
theorem Indexed.init : Indexed cfg ch listed { store := .empty } := by
  have hone := cfg.one_le_firstBlock
  have hhighest : Shared.highest cfg { store := .empty } = cfg.firstBlock - 1 := rfl
  have hinit : Reached cfg ch (cfg.firstBlock - 1) .empty := .init
  exact ⟨⟨[], .empty, Covers.nil (by omega), nofun⟩, hinit.checkpoint, hinit.nonneg⟩

/-- A statement that leaves the two tables and the checkpoint alone. -/
theorem Indexed.update (h : Indexed cfg ch listed s) {f : Store → Store}
    (hcells : (f s.store).rgbppCells = s.store.rgbppCells)
    (htransitions : (f s.store).rgbppTransitions = s.store.rgbppTransitions)
    (hcp : (f s.store).checkpoint cfg = s.store.checkpoint cfg) :
    Indexed cfg ch listed (s.update f) ∧ (scanRely cfg ch listed).Moves s (s.update f) := by
  obtain ⟨entries, hmatch, hcovers, hlisted⟩ := h.indexed
  refine ⟨⟨⟨entries, hmatch.of_eq hcells htransitions, hcovers, hlisted⟩, ?_, ?_⟩, Nat.le_refl _, .of_eq hcells htransitions⟩
  · rw [update_store, hcp]
    exact h.checkpoint
  · rw [update_store, hcp]
    exact h.nonneg

theorem Indexed.noted (h : Indexed cfg ch listed s) {f : Store → Store} (hn : Noted cfg s.store (f s.store)) :
    Indexed cfg ch listed (s.update f) ∧ (scanRely cfg ch listed).Moves s (s.update f) :=
  h.update hn.cells hn.transitions hn.checkpoint

/-- A batch ready to be committed: it covers a range that leaves no gap. -/
structure Ready (cfg : Config) (ch : Chain) (listed : Entry → Prop) (batch : IndexBatch) (s : Shared) : Prop where
  batch : ∃ (done : List Entry) (lo hi : Nat), StaleBatch cfg ch cfg.firstBlock s.Present done batch ∧
    Covers ch cfg.protocol lo hi done ∧ (∀ e ∈ done, listed e) ∧ cfg.firstBlock ≤ lo ∧
    lo ≤ s.highest cfg + 1 ∧ batch.checkpointNumber.toInt = hi

omit [Sha2] in
/-- The checkpoint after a commit is the batch's, where there is a stream row. -/
theorem checkpoint_commit (cfg : Config) (batch : IndexBatch) (now : DateTime) (s : Shared) :
    ((s.commit batch now).store.checkpoint cfg).number = batch.checkpointNumber ∨
      (s.commit batch now).store.checkpoint cfg = s.store.checkpoint cfg := by
  rw [commit_store, Store.applyBatch_fst]
  unfold Store.checkpoint Store.getStreamState
  dsimp only
  rw [Table.get?_update, if_pos rfl]
  cases s.store.indexerState.get? CKB_STREAM with
  | none => exact .inr rfl
  | some state => exact .inl rfl

/-- **A commit keeps what is indexed and every row**, whatever was committed since its reads. -/
theorem Indexed.commit (h : Indexed cfg ch listed s) {batch : IndexBatch} (hready : Ready cfg ch listed batch s)
    (now : DateTime) : Indexed cfg ch listed (s.commit batch now) ∧ (scanRely cfg ch listed).Moves s (s.commit batch now) := by
  obtain ⟨entries, hmatch, hcovers, hlisted⟩ := h.indexed
  obtain ⟨done, lo, hi, hbatch, hdone, hdoneListed, hfirst, hgap, hnumber⟩ := hready.batch
  have hrange : ∀ e ∈ done, cfg.firstBlock ≤ e.place.height := fun e he => hfirst.trans (hdone.range e he).1
  have hmatch' : IndexMatch cfg ch (entries ++ done) (s.commit batch now).store := by
    refine hmatch.apply (hbatch.batchMatch hmatch hcovers hrange) ?_ ?_
    · rw [commit_store, Store.applyBatch_fst]
    · rw [commit_store, Store.applyBatch_fst]
  have hhighest : (s.commit batch now).highest cfg = max (s.highest cfg) hi := by
    show max (s.highest cfg) batch.checkpointNumber.toInt.toNat = _
    rw [hnumber, Int.toNat_natCast]
  have hcovers' := hcovers.append hdone hfirst (by omega)
  have hlisted' : ∀ e ∈ entries ++ done, listed e := fun e he =>
    (List.mem_append.mp he).elim (hlisted e) (hdoneListed e)
  refine ⟨⟨⟨entries ++ done, hmatch', by rw [hhighest]; exact hcovers', hlisted'⟩, ?_, ?_⟩, ?_,
    hmatch.rowsKept hmatch' hcovers hcovers'⟩
  · rw [hhighest]
    rcases checkpoint_commit cfg batch now s with hcp | hcp
    · rw [hcp]
      omega
    · rw [hcp]
      have hold := h.checkpoint
      omega
  · intro hzero
    rcases checkpoint_commit cfg batch now s with hcp | hcp
    · rw [hcp]
      omega
    · rw [hcp]
      exact h.nonneg hzero
  · rw [hhighest]
    exact Nat.le_max_left ..

/-- The rows are those of the reference pass up to the highest published checkpoint. -/
theorem Indexed.equalsReference (h : Indexed cfg ch listed s) :
    ch.EqualsReference cfg cfg.firstBlock (s.highest cfg) s.store := by
  obtain ⟨entries, hmatch, hcovers, -⟩ := h.indexed
  exact Chain.equalsReference hmatch hcovers

theorem Indexed.inOrder (h : Indexed cfg ch (InOrder order) s) : TransitionsInOrder cfg ch order s.store := by
  obtain ⟨entries, hmatch, -, horder⟩ := h.indexed
  exact hmatch.inOrder horder

theorem Ready.moved {batch : IndexBatch} (h : Ready cfg ch listed batch s) (hmoves : (scanRely cfg ch listed).Moves s s') :
    Ready cfg ch listed batch s' := by
  obtain ⟨done, lo, hi, hbatch, hdone, hlisted, hfirst, hgap, hnumber⟩ := h.batch
  have hle := hmoves.1
  exact ⟨done, lo, hi, hbatch.mono (present_of_moves hmoves), hdone, hlisted, hfirst, by omega, hnumber⟩

end Shared
end
end RgbppIndexer
