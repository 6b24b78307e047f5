import RgbppIndexer.Core.Keyset
import RgbppIndexer.Store.Cells

/-!
# Cells and transitions by key

The reads of `crates/store/src/cells.rs` and `transitions.rs` behind the
endpoints that answer for one key, and for many keys at once. Ties of an
`ORDER BY`, and rows without one, come in any order.

* `rowsBoundTo_perm`, `rowsBoundTo_created`: the rows of one outpoint among the
  rows of many are the rows it has alone, in the same order up to ties.
* `rowsWithHash`: of the transitions of many hashes, one has a given hash at most.
-/
namespace RgbppIndexer

open RgbppIndexer.Core

namespace Store

namespace CellRow

/-- `(btc_txid, btc_vout) IN (SELECT * FROM UNNEST(…))`; a NULL vout is in no list. -/
def boundTo (row : CellRow) (outpoints : List OutpointKey) : Bool :=
  match row.btcVout with
  | some vout => decide (⟨row.btcTxid, vout⟩ ∈ outpoints)
  | none => false

/-- The columns of `ORDER BY created_block_number, created_tx_index, output_index`. -/
def created (row : CellRow) : Int64 × Int32 × Int32 := (row.createdBlockNumber, row.createdTxIndex, row.outputIndex)

/-- The key a batch files a row under: `(row.btc_txid, row.btc_vout.unwrap_or_default())`. -/
def outpointKey (row : CellRow) : OutpointKey := ⟨row.btcTxid, row.btcVout.getD 0⟩

end CellRow

/-- Oldest first. -/
def createdFirst : Int64 × Int32 × Int32 → Int64 × Int32 × Int32 → Bool :=
  Keyset.lex (fun a b => decide (a ≤ b)) (Keyset.lex (fun a b => decide (a ≤ b)) fun a b => decide (a ≤ b))

/-- mirrors crates/store/src/models.rs:219-233 -/
structure TransitionRow extends TransitionRecord where
  ckbTxHash : Bytes
  deriving DecidableEq, Repr

def TransitionRow.ofRecord (ckbTxHash : Bytes) (t : TransitionRecord) : TransitionRow := { t with ckbTxHash }

/-- Cells bound to any of the given Bitcoin outpoints. mirrors crates/store/src/cells.rs:71-90 -/
def cellsByBtcOutpoints (st : Store) (rows : RowOrder CellRow) (outpoints : List OutpointKey) (includeSpent : Bool) :
    List CellRow :=
  (rows.order ((st.rgbppCells.entries.map fun e => st.rgbppCellStatus e.1 e.2).filter fun r =>
    r.boundTo outpoints && (includeSpent || r.consumed.isNone))).insertionSort fun a b => createdFirst a.created b.created

/-- mirrors crates/store/src/transitions.rs:14-21 -/
def transitionByCkbTx (st : Store) (ckbTxHash : Bytes) : Option TransitionRow :=
  (st.rgbppTransitions.get? ckbTxHash).map (TransitionRow.ofRecord ckbTxHash)

/-- mirrors crates/store/src/transitions.rs:25-36 -/
def transitionsByCkbTxs (st : Store) (rows : RowOrder TransitionRow) (ckbTxHashes : List Bytes) : List TransitionRow :=
  rows.order ((st.rgbppTransitions.select fun hash _ => ckbTxHashes.contains hash).map fun e => TransitionRow.ofRecord e.1 e.2)

/-! ## The rows of one outpoint -/

theorem createdFirst_isOrder : Keyset.IsOrder createdFirst :=
  Keyset.isOrder_ascending.lex (Keyset.isOrder_ascending.lex Keyset.isOrder_ascending)

variable {st : Store} {rows rows' : RowOrder CellRow} {outpoints : List OutpointKey} {includeSpent : Bool}
  {key : OutpointKey}

theorem cellsByBtcOutpoints_perm : (st.cellsByBtcOutpoints rows outpoints includeSpent).Perm
    ((st.rgbppCells.entries.map fun e => st.rgbppCellStatus e.1 e.2).filter fun r =>
      r.boundTo outpoints && (includeSpent || r.consumed.isNone)) :=
  (List.perm_insertionSort _ _).trans (rows.perm _)

theorem cellsByBtcOutpoints_sorted : ((st.cellsByBtcOutpoints rows outpoints includeSpent).map CellRow.created).Pairwise
    fun a b => createdFirst a b = true := by
  unfold cellsByBtcOutpoints
  rw [Keyset.map_insertionSort createdFirst CellRow.created]
  exact createdFirst_isOrder.pairwise_insertionSort _

/-- A bound row has its vout, so the key it is filed under is the one it is bound to. -/
theorem boundTo_and_outpointKey (hmem : key ∈ outpoints) (row : CellRow) :
    (decide (row.outpointKey = key) && row.boundTo outpoints) = row.boundTo [key] := by
  unfold CellRow.outpointKey CellRow.boundTo
  cases row.btcVout with
  | none => rw [Bool.and_false]
  | some vout =>
    rw [Option.getD_some, ← Bool.decide_and]
    refine decide_eq_decide.mpr ?_
    rw [List.mem_singleton]
    constructor
    · exact And.left
    · intro heq
      exact ⟨heq, heq ▸ hmem⟩

/-- The rows of one outpoint among the rows of many. -/
def rowsBoundTo (st : Store) (rows : RowOrder CellRow) (outpoints : List OutpointKey) (includeSpent : Bool)
    (key : OutpointKey) : List CellRow :=
  (st.cellsByBtcOutpoints rows outpoints includeSpent).filter fun row => row.outpointKey = key

/-- They are the rows the outpoint has when it is asked for alone. -/
theorem rowsBoundTo_perm (hmem : key ∈ outpoints) :
    (st.rowsBoundTo rows outpoints includeSpent key).Perm (st.cellsByBtcOutpoints rows' [key] includeSpent) := by
  refine (cellsByBtcOutpoints_perm.filter _).trans (.trans ?_ cellsByBtcOutpoints_perm.symm)
  rw [List.filter_filter]
  refine List.Perm.of_eq (List.filter_congr fun row _ => ?_)
  rw [← Bool.and_assoc, boundTo_and_outpointKey hmem]

/-- And they stand in the same order, up to ties. -/
theorem rowsBoundTo_created (hmem : key ∈ outpoints) :
    (st.rowsBoundTo rows outpoints includeSpent key).map CellRow.created =
      (st.cellsByBtcOutpoints rows' [key] includeSpent).map CellRow.created := by
  refine createdFirst_isOrder.eq_of_perm ?_ cellsByBtcOutpoints_sorted ((rowsBoundTo_perm hmem).map _)
  exact cellsByBtcOutpoints_sorted.sublist (List.filter_sublist.map _)

/-! ## The row of one hash -/

/-- Of the rows of many hashes, those with one of them are the row it has alone. -/
theorem rowsWithHash (rows : RowOrder TransitionRow) {hashes : List Bytes} {hash : Bytes} (hmem : hash ∈ hashes) :
    (st.transitionsByCkbTxs rows hashes).filter (fun row => row.ckbTxHash = hash) = (st.transitionByCkbTx hash).toList := by
  have hperm : ((st.transitionsByCkbTxs rows hashes).filter fun row => row.ckbTxHash = hash).Perm
      (st.transitionByCkbTx hash).toList := by
    refine ((rows.perm _).filter _).trans (List.Perm.of_eq ?_)
    have hselect : (st.rgbppTransitions.select fun h _ => hashes.contains h).filter (fun e => e.1 = hash) =
        st.rgbppTransitions.entries.filter fun e => e.1 = hash := by
      unfold Table.select
      rw [List.filter_filter]
      refine List.filter_congr fun e _ => ?_
      by_cases he : e.1 = hash
      · simp [he, hmem]
      · simp [he]
    have hkey : (fun row : TransitionRow => decide (row.ckbTxHash = hash)) ∘
      (fun e : Bytes × TransitionRecord => TransitionRow.ofRecord e.1 e.2) =
        fun e => decide (e.1 = hash) := rfl
    rw [List.filter_map, hkey, hselect, Table.filter_entries_key, transitionByCkbTx]
    cases st.rgbppTransitions.get? hash with
    | none => rfl
    | some t => rfl
  cases halone : st.transitionByCkbTx hash with
  | none =>
    rw [halone] at hperm
    exact hperm.eq_nil
  | some row =>
    rw [halone] at hperm
    exact List.perm_singleton.mp hperm

end Store
end RgbppIndexer
