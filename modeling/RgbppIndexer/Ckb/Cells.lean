import RgbppIndexer.Ckb.Client

/-!
# Live cells of the rich indexer

`get_cells` (crates/ckb/src/client.rs:149-160) reads the rich indexer's current
view: the cells that are live at its tip. What it answers is a parameter.
`ServesCells live` is its documented meaning for a search by exact lock script:
the first `limit` of the live cells whose lock is that script.
-/
namespace RgbppIndexer

open RgbppIndexer.Core

/-- mirrors crates/ckb/src/types.rs:123-132 -/
def SearchKey.lockExact (script : Script) : SearchKey where
  script
  scriptType := .lock
  scriptSearchMode := some .exact
  blockRange := none
  withData := some true
  groupByTransaction := none

/-- A `get_cells` record. mirrors crates/ckb/src/types.rs:187-195 -/
structure LiveCellRecord where
  outPoint : CkbOutPoint
  output : CellOutput
  outputData : Option Bytes
  blockNumber : UInt64
  txIndex : UInt32
  deriving DecidableEq, Repr

/-- The answers of `get_cells`, in ascending order. -/
abbrev CellReplies := SearchKey → UInt32 → Except CkbError (List LiveCellRecord)

/-- The live cells under a lock, as one search returns them. -/
def exactCells (live : List LiveCellRecord) (script : Script) (limit : UInt32) : List LiveCellRecord :=
  (live.filter fun c => decide (c.output.lock = script)).take limit.toNat

/-- The answers are read off the live cells; a search may fail. -/
def ServesCells (live : List LiveCellRecord) (getCells : CellReplies) : Prop :=
  ∀ script limit records, getCells (.lockExact script) limit = .ok records → records = exactCells live script limit

/-- A rich indexer with these live cells, that answers every search. -/
def liveReplies (live : List LiveCellRecord) : CellReplies := fun key limit => .ok (exactCells live key.script limit)

theorem servesCells_liveReplies (live : List LiveCellRecord) : ServesCells live (liveReplies live) := by
  intro script limit records h
  cases h
  rfl

variable {live : List LiveCellRecord} {script : Script} {limit : UInt32} {c : LiveCellRecord}

theorem mem_of_mem_exactCells (h : c ∈ exactCells live script limit) : c ∈ live ∧ c.output.lock = script := by
  have hmem := List.mem_filter.mp (List.mem_of_mem_take h)
  exact ⟨hmem.1, by simpa using hmem.2⟩

/-- A search with a limit comes back empty only if there is nothing to find. -/
theorem exactCells_eq_nil (hlimit : 0 < limit.toNat) :
    exactCells live script limit = [] ↔ ∀ c ∈ live, c.output.lock ≠ script := by
  unfold exactCells
  rw [List.take_eq_nil_iff, List.filter_eq_nil_iff]
  constructor
  · rintro (hzero | hnone)
    · omega
    · intro c hc heq
      exact hnone c hc (by simpa using heq)
  · intro hnone
    right
    intro c hc heq
    exact hnone c hc (by simpa using heq)

end RgbppIndexer
