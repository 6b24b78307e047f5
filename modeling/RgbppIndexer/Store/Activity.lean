import Mathlib.Data.List.Dedup
import RgbppIndexer.Core.Decimal
import RgbppIndexer.Core.Keyset
import RgbppIndexer.Store.Btc

/-!
# Address activity

`crates/store/src/activity.rs` and its rows in `models.rs`: the transitions
that touch the cells of an address, newest first and in keyset pages, and the
cells the address gained or lost in them. "Transitions carry no address, so the
join runs `address -> bindings -> cells -> transitions`."

* `parseActivityCursor_cursor`: a cursor that is handed out is read back.
* `addressActivity_page`: what a page holds, by its positions.
* `mem_touchedTransitions`, `mem_owned`: whom the joins find.
-/
namespace RgbppIndexer

open RgbppIndexer.Core

/-- The place of a transition in the chain's order: block number, index in the block. -/
abbrev ChainPosition := Int64 × Int32

/-- One row of a history page. mirrors crates/store/src/models.rs:386-401 -/
structure ActivityRow where
  ckbTxHash : Bytes
  blockNumber : Int64
  txIndex : Int32
  blockTimestamp : Option DateTime
  kind : TransitionKind
  btcTxid : Option Bytes
  btcBlockHeight : Option Int32
  btcBlockHash : Option Bytes
  btcBlockTime : Option DateTime
  btcFee : Option Int64
  deriving DecidableEq, Repr

namespace ActivityRow

def position (r : ActivityRow) : ChainPosition := (r.blockNumber, r.txIndex)

/-- mirrors crates/store/src/models.rs:406-408 -/
def cursor (r : ActivityRow) : String :=
  String.ofList (Decimal.text r.blockNumber.toInt ++ ':' :: Decimal.text r.txIndex.toInt)

end ActivityRow

/-- `str::parse::<i64>` -/
def parseI64 (cs : List Char) : Option Int64 := (Decimal.parseIn (-2 ^ 63) (2 ^ 63 - 1) cs).map Int64.ofInt

/-- `str::parse::<i32>` -/
def parseI32 (cs : List Char) : Option Int32 := (Decimal.parseIn (-2 ^ 31) (2 ^ 31 - 1) cs).map Int32.ofInt

/-- mirrors crates/store/src/models.rs:428-432 -/
def parseActivityCursor (cursor : String) : Option ChainPosition := do
  let (block, index) ← Decimal.splitOnce ':' cursor.toList
  return (← parseI64 block, ← parseI32 index)

inductive ActivityRole where
  | received | sent
  deriving DecidableEq, Repr

/-- mirrors crates/store/src/models.rs:411-426 -/
structure ActivityCellRow where
  txHash : Bytes
  role : ActivityRole
  cellTxHash : Bytes
  outputIndex : Int32
  btcTxid : Bytes
  btcVout : Option Int32
  assetKind : AssetKind
  typeHash : Option Bytes
  udtAmount : Option Nat
  capacity : Int64
  deriving DecidableEq, Repr

/-- The columns both halves of the cell query select. -/
def activityCell (txHash : Bytes) (role : ActivityRole) (key : CellKey) (c : CellRecord) : ActivityCellRow where
  txHash := txHash
  role := role
  cellTxHash := key.ckbTxHash
  outputIndex := key.outputIndex
  btcTxid := c.btcTxid
  btcVout := c.btcVout
  assetKind := c.assetKind
  typeHash := c.typeHash
  udtAmount := c.udtAmount
  capacity := c.capacity

/-- The order of the history: `a` stands before `b` or at its place. -/
def newestFirst (a b : ChainPosition) : Bool := decide (b.1 < a.1 ∨ b.1 = a.1 ∧ b.2 ≤ a.2)

/-- `ORDER BY tx_hash, role, output_index` -/
def activityCellLe (a b : ActivityCellRow) : Bool :=
  match compare a.txHash b.txHash with
  | .lt => true
  | .gt => false
  | .eq =>
    match a.role, b.role with
    | .received, .sent => true
    | .sent, .received => false
    | _, _ => decide (a.outputIndex ≤ b.outputIndex)

namespace Store

/-- The cells bound to an outpoint of the address. -/
def owned (st : Store) (address : String) : List (CellKey × CellRecord) :=
  st.rgbppCells.select fun _ c => decide ((st.observationOf c).bind ObservationRow.address = some address)

/-- The transactions that created or consumed such a cell. -/
def touched (st : Store) (address : String) : List Bytes :=
  ((st.owned address).map (fun e => e.1.ckbTxHash) ++
    (st.owned address).filterMap fun e => e.2.consumed.map Consumption.txHash).dedup

def touchedTransitions (st : Store) (address : String) : List (Bytes × TransitionRecord) :=
  st.rgbppTransitions.select fun hash _ => decide (hash ∈ st.touched address)

/-- A transition with its Bitcoin transaction, left-joined. -/
def activityRow (st : Store) (e : Bytes × TransitionRecord) : ActivityRow :=
  let b := e.2.btcTxid.bind fun txid => st.btcTxs.get? txid
  { ckbTxHash := e.1, blockNumber := e.2.blockNumber, txIndex := e.2.txIndex, blockTimestamp := e.2.blockTimestamp,
    kind := e.2.kind, btcTxid := e.2.btcTxid, btcBlockHeight := b.bind BtcTxRow.blockHeight,
    btcBlockHash := b.bind BtcTxRow.blockHash, btcBlockTime := b.bind BtcTxRow.blockTime, btcFee := b.bind BtcTxRow.fee }

/-- A cursor that does not parse is no cursor. mirrors crates/store/src/activity.rs:18-62 -/
def addressActivity (st : Store) (rows : RowOrder ActivityRow) (address : String) (cursor : Option String)
    (limit : Int64) : Except StoreError (List ActivityRow) :=
  if limit < 0 then .error (.sqlx "LIMIT must not be negative")
  else
    let joined := rows.order ((st.touchedTransitions address).map st.activityRow)
    let after := joined.filter fun r => Keyset.beyond newestFirst (cursor.bind parseActivityCursor) r.position
    .ok ((after.insertionSort fun a b => newestFirst a.position b.position).take limit.toInt.toNat)

/-- `SELECT ckb_tx_hash AS tx_hash, 'received' AS role, … WHERE ckb_tx_hash = ANY($2)` -/
def receivedIn (txHashes : List Bytes) (e : CellKey × CellRecord) : Option ActivityCellRow :=
  if e.1.ckbTxHash ∈ txHashes then some (activityCell e.1.ckbTxHash .received e.1 e.2) else none

/-- `SELECT consumed_tx_hash AS tx_hash, 'sent' AS role, … WHERE consumed_tx_hash = ANY($2)` -/
def sentIn (txHashes : List Bytes) (e : CellKey × CellRecord) : Option ActivityCellRow :=
  match e.2.consumed with
  | some c => if c.txHash ∈ txHashes then some (activityCell c.txHash .sent e.1 e.2) else none
  | none => none

/-- mirrors crates/store/src/activity.rs:64-101 -/
def addressActivityCells (st : Store) (rows : RowOrder ActivityCellRow) (address : String) (txHashes : List Bytes) :
    List ActivityCellRow :=
  if txHashes.isEmpty then []
  else
    let union := (st.owned address).filterMap (receivedIn txHashes) ++ (st.owned address).filterMap (sentIn txHashes)
    (rows.order union).insertionSort fun a b => activityCellLe a b

/-- mirrors crates/store/src/btc.rs:230-244 -/
def bindingsMissingAddress (st : Store) : Nat :=
  (st.rgbppCells.select fun _ c =>
    c.btcVout.isSome && ((st.observationOf c).bind ObservationRow.address).isNone).length

end Store

/-! ## Cursors -/

theorem parseI64_text (x : Int64) : parseI64 (Decimal.text x.toInt) = some x := by
  have hlow := x.le_toInt
  have hhigh := x.toInt_lt
  rw [parseI64, Decimal.parseIn_text (by omega) (by omega), Option.map_some, Int64.ofInt_toInt]

theorem parseI32_text (x : Int32) : parseI32 (Decimal.text x.toInt) = some x := by
  have hlow := x.le_toInt
  have hhigh := x.toInt_lt
  rw [parseI32, Decimal.parseIn_text (by omega) (by omega), Option.map_some, Int32.ofInt_toInt]

@[simp] theorem parseActivityCursor_cursor (r : ActivityRow) : parseActivityCursor r.cursor = some r.position := by
  unfold parseActivityCursor ActivityRow.cursor
  rw [String.toList_ofList, Decimal.splitOnce_append (Decimal.notMem_text (by decide) (by decide))]
  simp only [Option.bind_eq_bind, Option.bind_some, parseI64_text, parseI32_text]
  rfl

/-! ## The order of the history -/

theorem newestFirst_iff {a b : ChainPosition} : newestFirst a b = true ↔ b.1 < a.1 ∨ b.1 = a.1 ∧ b.2 ≤ a.2 := by
  simp [newestFirst]

theorem newestFirst_isOrder : Keyset.IsOrder newestFirst where
  total a b := by
    rw [newestFirst_iff, newestFirst_iff, Int64.lt_iff_toInt_lt, Int64.lt_iff_toInt_lt, Int32.le_iff_toInt_le,
      Int32.le_iff_toInt_le, ← Int64.toInt_inj, ← Int64.toInt_inj]
    omega
  trans a b c hab hbc := by
    rw [newestFirst_iff, Int64.lt_iff_toInt_lt, Int32.le_iff_toInt_le, ← Int64.toInt_inj] at hab hbc ⊢
    omega
  antisymm a b hab hba := by
    rw [newestFirst_iff, Int64.lt_iff_toInt_lt, Int32.le_iff_toInt_le, ← Int64.toInt_inj] at hab hba
    exact Prod.ext (Int64.toInt_inj.mp (by omega)) (Int32.toInt_inj.mp (by omega))

namespace Store

variable {st : Store} {address : String}

/-! ## The joins -/

theorem mem_owned {e : CellKey × CellRecord} : e ∈ st.owned address ↔
    st.rgbppCells.get? e.1 = some e.2 ∧ (st.observationOf e.2).bind ObservationRow.address = some address := by
  unfold owned Table.select
  rw [List.mem_filter, Table.get?_eq_some_iff, decide_eq_true_eq]

theorem mem_touched {hash : Bytes} : hash ∈ st.touched address ↔
    ∃ e ∈ st.owned address, e.1.ckbTxHash = hash ∨ e.2.consumed.map Consumption.txHash = some hash := by
  unfold touched
  rw [List.mem_dedup, List.mem_append, List.mem_map, List.mem_filterMap]
  constructor
  · rintro (⟨e, he, heq⟩ | ⟨e, he, heq⟩)
    · exact ⟨e, he, .inl heq⟩
    · exact ⟨e, he, .inr heq⟩
  · rintro ⟨e, he, heq | heq⟩
    · exact .inl ⟨e, he, heq⟩
    · exact .inr ⟨e, he, heq⟩

theorem mem_touchedTransitions {e : Bytes × TransitionRecord} : e ∈ st.touchedTransitions address ↔
    st.rgbppTransitions.get? e.1 = some e.2 ∧ e.1 ∈ st.touched address := by
  unfold touchedTransitions Table.select
  rw [List.mem_filter, Table.get?_eq_some_iff, decide_eq_true_eq]

/-- A transition is joined once, whatever number of cells it touches. -/
theorem touchedTransitions_nodup (st : Store) (address : String) :
    ((st.touchedTransitions address).map Prod.fst).Nodup :=
  st.rgbppTransitions.nodupKeys.sublist (List.filter_sublist.map _)

/-! ## Pages -/

def positionOf (e : Bytes × TransitionRecord) : ChainPosition := (e.2.blockNumber, e.2.txIndex)

/-- The positions of the whole history. -/
def history (st : Store) (address : String) : List ChainPosition :=
  ((st.touchedTransitions address).map positionOf).insertionSort fun a b => newestFirst a b

theorem mem_history {p : ChainPosition} : p ∈ st.history address ↔ ∃ e ∈ st.touchedTransitions address, positionOf e = p := by
  unfold history
  rw [List.mem_insertionSort, List.mem_map]

theorem history_sorted (hdistinct : ((st.touchedTransitions address).map positionOf).Nodup) :
    (st.history address).Pairwise fun a b => newestFirst b a ≠ true := by
  have hnodup : (st.history address).Nodup := (List.perm_insertionSort _ _).nodup_iff.mpr hdistinct
  refine ((newestFirst_isOrder.pairwise_insertionSort _).and hnodup).imp fun {a b} h hba => ?_
  exact h.2 (newestFirst_isOrder.antisymm a b h.1 hba)

/-- A page holds the positions of the history that come next after its cursor. -/
theorem addressActivity_page {rows : RowOrder ActivityRow} {cursor : Option String} {limit : Int64} {out : List ActivityRow}
    (h : st.addressActivity rows address cursor limit = .ok out) :
    out.map ActivityRow.position =
        Keyset.page newestFirst (cursor.bind parseActivityCursor) limit.toInt.toNat (st.history address) ∧
      ∀ r ∈ out, ∃ e ∈ st.touchedTransitions address, r = st.activityRow e := by
  unfold addressActivity at h
  split at h
  · cases h
  rw [Except.ok.injEq] at h
  subst h
  constructor
  · have hjoin : ((rows.order ((st.touchedTransitions address).map st.activityRow)).map ActivityRow.position).Perm
        (st.history address) := by
      refine ((rows.perm _).map _).trans ?_
      rw [List.map_map]
      exact (List.perm_insertionSort _ _).symm
    have hfilter := hjoin.filter (Keyset.beyond newestFirst (cursor.bind parseActivityCursor))
    rw [List.filter_map] at hfilter
    rw [List.map_take, Keyset.map_insertionSort newestFirst ActivityRow.position]
    refine congrArg (List.take limit.toInt.toNat) ?_
    exact newestFirst_isOrder.eq_of_perm (newestFirst_isOrder.pairwise_insertionSort _)
      ((newestFirst_isOrder.pairwise_insertionSort _).filter _) ((List.perm_insertionSort _ _).trans hfilter)
  · intro r hr
    have hmem := (List.mem_insertionSort _).mp (List.mem_of_mem_take hr)
    rw [List.mem_filter, rows.mem_order, List.mem_map] at hmem
    obtain ⟨⟨e, he, rfl⟩, -⟩ := hmem
    exact ⟨e, he, rfl⟩

/-- A page has one row for each transaction. -/
theorem addressActivity_nodup {rows : RowOrder ActivityRow} {cursor : Option String} {limit : Int64} {out : List ActivityRow}
    (h : st.addressActivity rows address cursor limit = .ok out) : (out.map ActivityRow.ckbTxHash).Nodup := by
  unfold addressActivity at h
  split at h
  · cases h
  rw [Except.ok.injEq] at h
  subst h
  have hjoin : ((rows.order ((st.touchedTransitions address).map st.activityRow)).map ActivityRow.ckbTxHash).Nodup := by
    refine ((rows.perm _).map _).nodup_iff.mpr ?_
    rw [List.map_map]
    exact st.touchedTransitions_nodup address
  refine List.Nodup.sublist ((List.take_sublist _ _).map _) ?_
  refine ((List.perm_insertionSort _ _).map _).nodup_iff.mpr ?_
  exact hjoin.sublist (List.filter_sublist.map _)

/-- A cell of a page is a cell of the address. -/
theorem mem_addressActivityCells {rows : RowOrder ActivityCellRow} {txHashes : List Bytes} {c : ActivityCellRow}
    (h : c ∈ st.addressActivityCells rows address txHashes) :
    ∃ e ∈ st.owned address, ∃ hash role, c = activityCell hash role e.1 e.2 := by
  unfold addressActivityCells at h
  split at h
  · cases h
  rw [List.mem_insertionSort, rows.mem_order, List.mem_append, List.mem_filterMap, List.mem_filterMap] at h
  rcases h with ⟨e, he, hc⟩ | ⟨e, he, hc⟩
  · unfold receivedIn at hc
    split at hc
    · exact ⟨e, he, _, _, (Option.some.inj hc).symm⟩
    · cases hc
  · unfold sentIn at hc
    split at hc
    · split at hc
      · exact ⟨e, he, _, _, (Option.some.inj hc).symm⟩
      · cases hc
    · cases hc

theorem addressActivity_ok (st : Store) (address : String) {limit : Int64} (hlimit : 1 ≤ limit)
    (rows : RowOrder ActivityRow) (cursor : Option String) :
    ∃ out, st.addressActivity rows address cursor limit = .ok out := by
  have hpos : ¬ limit < 0 := by
    rw [Int64.le_iff_toInt_le] at hlimit
    rw [Int64.lt_iff_toInt_lt]
    have hone : (1 : Int64).toInt = 1 := rfl
    have hzero : (0 : Int64).toInt = 0 := rfl
    omega
  unfold addressActivity
  rw [if_neg hpos]
  exact ⟨_, rfl⟩

end Store
end RgbppIndexer
