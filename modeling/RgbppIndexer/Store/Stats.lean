import Mathlib.Data.List.Dedup
import RgbppIndexer.Core.Keyset
import RgbppIndexer.Store.Cells

/-!
# Assets

The asset statements of `crates/store/src/stats.rs`. A summary groups the cells
by type hash and kind; a count counts type hashes. "A holder is a distinct owning
address over the live RGB++-lock cells": holders are joined by type hash alone,
and a binding nobody is known to own is counted apart.

* `listAssets_column`: the ordering columns of a page, whatever order ties are read in.
* `nodup_labels_iff`: one row for each type hash, exactly if each has one kind
  among the cells that are read.
-/
namespace RgbppIndexer

open RgbppIndexer.Core

namespace Store

/-- A live RGB++ cell of the asset, by the outpoint it is bound to and that one's owner. -/
abbrev HolderRow := (Bytes × Option Int32) × Option String

/-- `rgbpp_cells c LEFT JOIN btc_outpoints o`, with the conditions of the count. -/
def holderRows (st : Store) (typeHash : Bytes) : List HolderRow :=
  (st.rgbppCells.select fun _ c => decide (c.typeHash = some typeHash ∧ c.consumed = none ∧ c.lockKind = .rgbpp)).map
    fun e => ((e.2.btcTxid, e.2.btcVout), (st.observationOf e.2).bind ObservationRow.address)

/-- `COUNT(DISTINCT o.address)` -/
def holderCount (st : Store) (typeHash : Bytes) : Nat := ((st.holderRows typeHash).filterMap Prod.snd).dedup.length

/-- `COUNT(DISTINCT (c.btc_txid, c.btc_vout)) FILTER (WHERE o.address IS NULL)` -/
def unlabelledSealCount (st : Store) (typeHash : Bytes) : Nat :=
  (((st.holderRows typeHash).filter fun row => row.2 = none).map Prod.fst).dedup.length

theorem mem_holderRows {st : Store} {typeHash : Bytes} {row : HolderRow} : row ∈ st.holderRows typeHash ↔
    ∃ key c, st.rgbppCells.get? key = some c ∧ c.typeHash = some typeHash ∧ c.consumed = none ∧ c.lockKind = .rgbpp ∧
      (c.btcTxid, c.btcVout) = row.1 ∧ (st.observationOf c).bind ObservationRow.address = row.2 := by
  unfold holderRows Table.select
  rw [List.mem_map]
  constructor
  · rintro ⟨⟨key, c⟩, hmem, rfl⟩
    obtain ⟨hentry, hcond⟩ := List.mem_filter.mp hmem
    obtain ⟨htype, hconsumed, hkind⟩ := of_decide_eq_true hcond
    exact ⟨key, c, (st.rgbppCells.get?_eq_some_iff key c).mpr hentry, htype, hconsumed, hkind, rfl, rfl⟩
  · rintro ⟨key, c, hrow, htype, hconsumed, hkind, hkey, howner⟩
    refine ⟨(key, c), List.mem_filter.mpr ⟨(st.rgbppCells.get?_eq_some_iff key c).mp hrow, ?_⟩, Prod.ext hkey howner⟩
    exact decide_eq_true ⟨htype, hconsumed, hkind⟩

end Store

/-! ## Summaries -/

/-- One distinct asset. mirrors crates/store/src/models.rs:354-373 -/
structure AssetRow where
  typeHash : Bytes
  assetKind : AssetKind
  cellCount : Nat
  liveCellCount : Nat
  liveSealCount : Nat
  /-- NULL when no cell is live -/
  totalAmount : Option Nat
  firstBlockNumber : Int64
  firstCkbTxHash : Bytes
  lastBlockNumber : Int64
  holderCount : Nat
  unlabelledSealCount : Nat
  deriving DecidableEq, Repr

/-- The columns of the `ORDER BY`. -/
abbrev ActivityRank := Int64 × Nat × Bytes

def AssetRow.rank (r : AssetRow) : ActivityRank := (r.lastBlockNumber, r.liveCellCount, r.typeHash)

/-- `ORDER BY last_block_number DESC, live_cell_count DESC, type_hash` -/
def rankLe : ActivityRank → ActivityRank → Bool :=
  Keyset.lex (fun a b => decide (b ≤ a)) (Keyset.lex (fun a b => decide (b ≤ a)) fun a b => (compare a b).isLE)

/-- `ORDER BY created_block_number, created_tx_index, output_index` -/
def createdLe (a b : CellKey × CellRecord) : Bool :=
  decide (a.2.createdBlockNumber < b.2.createdBlockNumber ∨ a.2.createdBlockNumber = b.2.createdBlockNumber ∧
    (a.2.createdTxIndex < b.2.createdTxIndex ∨ a.2.createdTxIndex = b.2.createdTxIndex ∧ a.1.outputIndex ≤ b.1.outputIndex))

/-- The orders in which a summary meets its rows: the cells of a group, its groups, and the groups it goes on with. -/
structure AssetOrders where
  cells : RowOrder (CellKey × CellRecord)
  groups : RowOrder AssetRow
  joined : RowOrder AssetRow

namespace Store

/-- `WHERE type_hash IS NOT NULL AND {filter}` -/
def assetCells (st : Store) (filter : CellRecord → Bool) : List (CellKey × CellRecord) :=
  st.rgbppCells.select fun _ c => c.typeHash.isSome && filter c

/-- The `type_hash` of the cells, and of each its `asset_kind`. -/
def labels (cells : List (CellKey × CellRecord)) : List (Bytes × AssetKind) :=
  cells.filterMap fun e => e.2.typeHash.map fun h => (h, e.2.assetKind)

/-- The aggregates of one group, with its holders. mirrors crates/store/src/stats.rs:162-203 -/
def assetRow (st : Store) (order : RowOrder (CellKey × CellRecord)) (cells : List (CellKey × CellRecord))
    (g : Bytes × AssetKind) : AssetRow :=
  let group := cells.filter fun e => decide (e.2.typeHash = some g.1 ∧ e.2.assetKind = g.2)
  let live := group.filter fun e => e.2.consumed.isNone
  { typeHash := g.1
    assetKind := g.2
    cellCount := group.length
    liveCellCount := live.length
    liveSealCount := (live.map fun e => (e.2.btcTxid, e.2.btcVout)).dedup.length
    totalAmount := if live.isEmpty then none else some (live.map fun e => e.2.udtAmount.getD 0).sum
    firstBlockNumber := ((group.map fun e => e.2.createdBlockNumber).min?).getD 0
    firstCkbTxHash := ((((order.order group).insertionSort fun a b => createdLe a b).head?).map fun e => e.1.ckbTxHash).getD []
    lastBlockNumber := ((group.map fun e => e.2.createdBlockNumber).max?).getD 0
    holderCount := st.holderCount g.1
    unlabelledSealCount := st.unlabelledSealCount g.1 }

/-- `GROUP BY type_hash, asset_kind` -/
def assetRows (st : Store) (order : RowOrder (CellKey × CellRecord)) (filter : CellRecord → Bool) : List AssetRow :=
  (labels (st.assetCells filter)).dedup.map (st.assetRow order (st.assetCells filter))

/-- `asset_kind = ANY($1)` -/
def kindIn (assetKinds : List String) (c : CellRecord) : Bool := decide (c.assetKind.asStr ∈ assetKinds)

/-- Every distinct asset of the given kinds, newest activity first. The page is cut out of the groups, and sorted once
more behind the join. mirrors crates/store/src/stats.rs:75-92, 162-203 -/
def listAssets (st : Store) (orders : AssetOrders) (assetKinds : List String) (limit offset : Int) :
    Except StoreError (List AssetRow) :=
  if limit < 0 then .error (.sqlx "LIMIT must not be negative")
  else if offset < 0 then .error (.sqlx "OFFSET must not be negative")
  else
    let groups := orders.groups.order (st.assetRows orders.cells (kindIn assetKinds))
    let page := ((groups.insertionSort fun a b => rankLe a.rank b.rank).drop offset.toNat).take limit.toNat
    .ok ((orders.joined.order page).insertionSort fun a b => rankLe a.rank b.rank)

/-- The same summaries for specific assets. mirrors crates/store/src/stats.rs:96-102, 162-203 -/
def assetsByTypeHashes (st : Store) (orders : AssetOrders) (typeHashes : List Bytes) : List AssetRow :=
  let groups := orders.groups.order (st.assetRows orders.cells fun c => decide (∃ h ∈ typeHashes, c.typeHash = some h))
  (orders.joined.order groups).insertionSort fun a b => rankLe a.rank b.rank

/-- How many distinct assets of these kinds exist, for paging. mirrors crates/store/src/stats.rs:105-114 -/
def countAssets (st : Store) (assetKinds : List String) : Nat :=
  ((st.assetCells (kindIn assetKinds)).filterMap fun e => e.2.typeHash).dedup.length

/-! ## The order of the pages -/

theorem rankLe_isOrder : Keyset.IsOrder rankLe :=
  Keyset.isOrder_descending.lex (Keyset.isOrder_descending.lex Keyset.isOrder_compare)

variable {st : Store} {filter : CellRecord → Bool} {assetKinds : List String} {limit : Int}
  {cells : List (CellKey × CellRecord)}

theorem mem_labels {h : Bytes} {kind : AssetKind} :
    (h, kind) ∈ labels cells ↔ ∃ e ∈ cells, e.2.typeHash = some h ∧ e.2.assetKind = kind := by
  unfold labels
  rw [List.mem_filterMap]
  refine exists_congr fun e => and_congr_right fun _ => ?_
  rw [Option.map_eq_some_iff]
  constructor
  · rintro ⟨h', hhash, heq⟩
    obtain ⟨rfl, rfl⟩ := Prod.mk.inj heq
    exact ⟨hhash, rfl⟩
  · rintro ⟨hhash, rfl⟩
    exact ⟨h, hhash, rfl⟩

theorem mem_assetCells {e : CellKey × CellRecord} :
    e ∈ st.assetCells filter ↔ e ∈ st.rgbppCells.entries ∧ e.2.typeHash.isSome = true ∧ filter e.2 = true := by
  unfold assetCells Table.select
  rw [List.mem_filter, Bool.and_eq_true]

/-- The ordering columns of all groups, sorted. -/
def assetRanks (st : Store) (filter : CellRecord → Bool) : List ActivityRank :=
  ((st.assetRows .storage filter).map AssetRow.rank).insertionSort fun a b => rankLe a b

/-- The first cell of a group plays no part in its place. -/
theorem rank_assetRows (order : RowOrder (CellKey × CellRecord)) :
    (st.assetRows order filter).map AssetRow.rank = (st.assetRows .storage filter).map AssetRow.rank := by
  unfold assetRows
  rw [List.map_map, List.map_map]
  rfl

/-- Sorted rows have sorted columns. -/
theorem ranks_sorted {rows : List AssetRow} {ranks : List ActivityRank} (hperm : (rows.map AssetRow.rank).Perm ranks)
    (hsorted : ranks.Pairwise fun a b => rankLe a b = true) :
    (rows.insertionSort fun a b => rankLe a.rank b.rank).map AssetRow.rank = ranks := by
  rw [Keyset.map_insertionSort rankLe AssetRow.rank]
  exact rankLe_isOrder.eq_of_perm (rankLe_isOrder.pairwise_insertionSort _) hsorted
    ((List.perm_insertionSort _ _).trans hperm)

theorem assetRanks_sorted : (st.assetRanks filter).Pairwise fun a b => rankLe a b = true :=
  rankLe_isOrder.pairwise_insertionSort _

/-- A page is cut out of the same columns, in whatever order ties are read. -/
theorem listAssets_column (hlimit : 1 ≤ limit) (orders : AssetOrders) (assetKinds : List String) (offset : Nat) :
    ∃ rows, st.listAssets orders assetKinds limit offset = .ok rows ∧
      rows.map AssetRow.rank = ((st.assetRanks (kindIn assetKinds)).drop offset).take limit.toNat := by
  refine ⟨_, by rw [listAssets, if_neg (by omega), if_neg (by omega)], ?_⟩
  have hgroups : ((orders.groups.order (st.assetRows orders.cells (kindIn assetKinds))).map AssetRow.rank).Perm
      (st.assetRanks (kindIn assetKinds)) := by
    refine ((orders.groups.perm _).map _).trans ?_
    rw [rank_assetRows]
    exact (List.perm_insertionSort _ _).symm
  refine ranks_sorted (((orders.joined.perm _).map _).trans ?_)
    (assetRanks_sorted.sublist ((List.take_sublist _ _).trans (List.drop_sublist _ _)))
  rw [List.map_take, List.map_drop, ranks_sorted hgroups assetRanks_sorted, Int.toNat_natCast]

/-- The type hashes of the groups. -/
theorem assetRanks_perm (st : Store) (filter : CellRecord → Bool) :
    ((st.assetRanks filter).map fun r => r.2.2).Perm ((labels (st.assetCells filter)).dedup.map Prod.fst) := by
  refine ((List.perm_insertionSort _ _).map _).trans ?_
  unfold assetRows
  rw [List.map_map, List.map_map]
  exact .refl _

/-- There are no more groups than cells. -/
theorem length_assetRanks_le (st : Store) (filter : CellRecord → Bool) :
    (st.assetRanks filter).length ≤ st.rgbppCells.entries.length := by
  have hranks : (st.assetRanks filter).length = (labels (st.assetCells filter)).dedup.length := by
    rw [assetRanks, List.length_insertionSort, List.length_map, assetRows, List.length_map]
  have hdedup : (labels (st.assetCells filter)).dedup.length ≤ (labels (st.assetCells filter)).length :=
    (List.dedup_sublist _).length_le
  have hlabels : (labels (st.assetCells filter)).length ≤ (st.assetCells filter).length := List.length_filterMap_le ..
  have hcells : (st.assetCells filter).length ≤ st.rgbppCells.entries.length := List.length_filter_le ..
  omega

theorem assetsByTypeHashes_perm (orders : AssetOrders) (typeHashes : List Bytes) :
    (st.assetsByTypeHashes orders typeHashes).Perm
      (st.assetRows orders.cells fun c => decide (∃ h ∈ typeHashes, c.typeHash = some h)) :=
  (List.perm_insertionSort _ _).trans ((orders.joined.perm _).trans (orders.groups.perm _))

/-! ## One kind for each type hash -/

/-- No two of the cells have one type hash and two kinds. -/
def OneKind (cells : List (CellKey × CellRecord)) : Prop :=
  ∀ e ∈ cells, ∀ e' ∈ cells, ∀ h, e.2.typeHash = some h → e'.2.typeHash = some h → e.2.assetKind = e'.2.assetKind

theorem OneKind.subset {cells' : List (CellKey × CellRecord)} (h : OneKind cells) (hsub : ∀ e ∈ cells', e ∈ cells) :
    OneKind cells' := fun e he e' he' => h e (hsub e he) e' (hsub e' he')

/-- One group for each type hash. -/
theorem nodup_labels_iff : ((labels cells).dedup.map Prod.fst).Nodup ↔ OneKind cells := by
  rw [List.nodup_map_iff_inj_on (List.nodup_dedup _)]
  simp only [List.mem_dedup, Prod.forall, mem_labels, Prod.mk.injEq]
  constructor
  · intro h e he e' he' hash hhash hhash'
    exact (h hash _ ⟨e, he, hhash, rfl⟩ hash _ ⟨e', he', hhash', rfl⟩ rfl).2
  · rintro h hash kind ⟨e, he, hhash, rfl⟩ hash' kind' ⟨e', he', hhash', rfl⟩ rfl
    exact ⟨rfl, h e he e' he' hash hhash hhash'⟩

/-- The count is one for each type hash. -/
theorem countAssets_eq (assetKinds : List String) :
    st.countAssets assetKinds = ((labels (st.assetCells (kindIn assetKinds))).dedup.map Prod.fst).dedup.length := by
  have hhashes : (st.assetCells (kindIn assetKinds)).filterMap (fun e => e.2.typeHash) =
      (labels (st.assetCells (kindIn assetKinds))).map Prod.fst := by
    unfold labels
    rw [List.map_filterMap]
    refine List.filterMap_congr fun e _ => ?_
    cases e.2.typeHash <;> rfl
  rw [countAssets, hhashes]
  refine List.Perm.length_eq ((List.perm_ext_iff_of_nodup (List.nodup_dedup _) (List.nodup_dedup _)).mpr fun h => ?_)
  simp only [List.mem_dedup, List.mem_map]

end Store
end RgbppIndexer
