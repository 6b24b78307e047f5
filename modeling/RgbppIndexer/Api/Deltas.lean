import Mathlib.Algebra.Group.Prod
import Mathlib.Algebra.Group.Int.Defs
import RgbppIndexer.Api.Activity
import RgbppIndexer.Core.Ledger

/-!
# What a history adds up to

`build_activity` renders, for each transition and asset, the signed sum over
the cells received minus the cells sent (crates/api/src/dto.rs:788-851). A
client adds the deltas of all entries up.

* `entriesOf_units`: the delta of an entry is the sum of the movements of its
  cells.
* `movements_eq_booked`: the cells a page reads are the cells of the address,
  where they come up and where they go down.
* `follow_units`: a history adds up to what its transitions book.
-/
namespace RgbppIndexer

open RgbppIndexer.Core

/-- Amount, capacity, number of cells. -/
abbrev Units := Int × Int × Int

/-- The number a decimal text stands for. -/
def numberOf (text : String) : Int := (Decimal.parseInt text.toList).getD 0

/-- What a delta says, with a null amount as 0. -/
def AssetDeltaDto.units (d : AssetDeltaDto) : Units := ((d.amount.map numberOf).getD 0, numberOf d.capacity, d.cellDelta)

/-- The delta is one of the asset. -/
def AssetDeltaDto.Names (d : AssetDeltaDto) (key : AssetKey) : Prop :=
  d.assetKind = key.1.asStr ∧ d.typeHash = key.2.map bytesToHex

instance (d : AssetDeltaDto) (key : AssetKey) : Decidable (d.Names key) :=
  inferInstanceAs (Decidable (d.assetKind = key.1.asStr ∧ d.typeHash = key.2.map bytesToHex))

def ActivityEntryDto.units (e : ActivityEntryDto) (key : AssetKey) : Units :=
  ((e.deltas.filter fun d => d.Names key).map AssetDeltaDto.units).sum

/-- The sum of the deltas of an asset over a whole history. -/
def historyUnits (entries : List ActivityEntryDto) (key : AssetKey) : Units := (entries.map fun e => e.units key).sum

def DeltaAccumulator.units (acc : DeltaAccumulator) : Units := (acc.amount, acc.capacity, acc.cellDelta)

/-- What `DeltaAccumulator::apply` adds for a cell. -/
def ActivityCellRow.movement (c : ActivityCellRow) : Units :=
  ((c.udtAmount.getD 0 : Nat) * c.role.sign.toInt, (c.capacity * c.role.sign).toInt, c.role.sign.toInt)

/-- An amount is stored for fungible assets only. -/
def ActivityCellRow.Counted (c : ActivityCellRow) : Prop := c.assetKind.isFungible = false → c.udtAmount = none

namespace CellRecord

def assetKey (c : CellRecord) : AssetKey := (c.assetKind, c.typeHash)

def units (c : CellRecord) : Units := ((c.udtAmount.getD 0 : Nat), c.capacity.toInt, 1)

end CellRecord

/-! ## One entry -/

@[simp] theorem numberOf_plainDecimal (value : Int) : numberOf (plainDecimal value) = value := by
  unfold numberOf plainDecimal
  rw [String.toList_ofList, Decimal.parseInt_text, Option.getD_some]

theorem units_apply (acc : DeltaAccumulator) (c : ActivityCellRow) :
    (acc.apply c c.role.sign).units = acc.units + c.movement := by
  unfold DeltaAccumulator.apply DeltaAccumulator.units ActivityCellRow.movement
  cases c.udtAmount with
  | none => simp
  | some amount => simp

/-- The accumulator of an asset in a transaction. -/
def Gathered.deltaAt (g : Gathered) (hash : Bytes) (key : AssetKey) : Option DeltaAccumulator :=
  (g.deltas.get? hash).bind fun t => t.get? key

theorem deltaAt_gather (g : Gathered) (c : ActivityCellRow) (hash : Bytes) (key : AssetKey) :
    (gather g c).deltaAt hash key =
      if c.txHash = hash ∧ c.assetKey = key then some (((g.deltaAt hash key).getD {}).apply c c.role.sign)
      else g.deltaAt hash key := by
  unfold Gathered.deltaAt gather
  dsimp only
  rw [Table.get?_upsert]
  by_cases hhash : hash = c.txHash
  · subst hhash
    rw [if_pos rfl, Option.bind_some, Table.get?_upsert]
    by_cases hkey : key = c.assetKey
    · rw [if_pos hkey, if_pos ⟨rfl, hkey.symm⟩]
      subst hkey
      cases g.deltas.get? c.txHash with
      | none => rfl
      | some t => rfl
    · rw [if_neg hkey, if_neg fun h => hkey h.2.symm]
      cases g.deltas.get? c.txHash with
      | none => rfl
      | some t => rfl
  · rw [if_neg hhash, if_neg fun h => hhash h.1.symm]

theorem units_deltaAt_foldl (cells : List ActivityCellRow) (g : Gathered) (hash : Bytes) (key : AssetKey) :
    (((cells.foldl gather g).deltaAt hash key).getD {}).units = ((g.deltaAt hash key).getD {}).units +
      ((cells.filter fun c => c.txHash = hash ∧ c.assetKey = key).map ActivityCellRow.movement).sum := by
  induction cells generalizing g with
  | nil => simp
  | cons c cs ih =>
    rw [List.foldl_cons, ih, deltaAt_gather]
    by_cases hc : c.txHash = hash ∧ c.assetKey = key
    · rw [if_pos hc, Option.getD_some, units_apply, List.filter_cons_of_pos (by simpa using hc), List.map_cons,
        List.sum_cons, add_assoc]
    · rw [if_neg hc, List.filter_cons_of_neg (by simpa using hc)]

theorem AssetKind.asStr_injective : Function.Injective AssetKind.asStr := by
  intro k k' h
  revert h
  cases k <;> cases k' <;> decide

theorem assetDelta_names {key key' : AssetKey} {d : DeltaAccumulator} : (assetDelta key d).Names key' ↔ key = key' := by
  unfold AssetDeltaDto.Names assetDelta
  dsimp only
  rw [AssetKind.asStr_injective.eq_iff, (Option.map_injective bytesToHex_injective).eq_iff, Prod.ext_iff]

theorem assetDelta_units {key : AssetKey} {d : DeltaAccumulator} (hnull : key.1.isFungible = false → d.amount = 0) :
    (assetDelta key d).units = d.units := by
  unfold AssetDeltaDto.units assetDelta DeltaAccumulator.units
  cases hfungible : key.1.isFungible with
  | true => simp
  | false => simp [hnull hfungible]

/-- An entry has one delta for each asset, whatever order the map comes in. -/
theorem entryOf_units (row : ActivityRow) (cells : List ActivityCellDto × List ActivityCellDto)
    (deltas : Table AssetKey DeltaAccumulator) (key : AssetKey) :
    (entryOf row cells deltas).units key = ((deltas.get? key).map fun d => (assetDelta key d).units).getD 0 := by
  unfold ActivityEntryDto.units entryOf
  dsimp only
  rw [(((List.perm_insertionSort _ _).filter _).map AssetDeltaDto.units).sum_eq, List.filter_map, List.map_map]
  have hnames : (fun d : AssetDeltaDto => decide (d.Names key)) ∘ (fun e : AssetKey × DeltaAccumulator => assetDelta e.1 e.2) =
      fun e => decide (e.1 = key) := funext fun e => decide_eq_decide.mpr assetDelta_names
  rw [hnames, Table.filter_entries_key]
  cases deltas.get? key with
  | none => rfl
  | some d => simp

/-! ## The cells of a page -/

/-- Amounts that are not counted add up to none. -/
theorem movements_null {cells : List ActivityCellRow} (hcounted : ∀ c ∈ cells, c.Counted) {key : AssetKey}
    (hkey : key.1.isFungible = false) (hash : Bytes) :
    ((cells.filter fun c => c.txHash = hash ∧ c.assetKey = key).map ActivityCellRow.movement).sum.1 = 0 := by
  induction cells with
  | nil => rfl
  | cons c cs ih =>
    have hcs := ih fun c' hc' => hcounted c' (List.mem_cons_of_mem _ hc')
    by_cases hc : c.txHash = hash ∧ c.assetKey = key
    · have hnull : c.udtAmount = none := hcounted c (List.mem_cons_self ..) (by
        rw [← hc.2] at hkey
        exact hkey)
      rw [List.filter_cons_of_pos (by simpa using hc), List.map_cons, List.sum_cons, Prod.fst_add, hcs,
        ActivityCellRow.movement, hnull]
      simp
    · rw [List.filter_cons_of_neg (by simpa using hc)]
      exact hcs

/-- The deltas of a page, from its cells. -/
theorem gathered_units {cells : List ActivityCellRow} (hcounted : ∀ c ∈ cells, c.Counted) (hash : Bytes) (key : AssetKey) :
    (((cells.foldl gather ⟨.empty, .empty⟩).deltaAt hash key).map fun d => (assetDelta key d).units).getD 0 =
      ((cells.filter fun c => c.txHash = hash ∧ c.assetKey = key).map ActivityCellRow.movement).sum := by
  have hsum := units_deltaAt_foldl cells ⟨.empty, .empty⟩ hash key
  have hstart : (((⟨.empty, .empty⟩ : Gathered).deltaAt hash key).getD {}).units = 0 := rfl
  rw [hstart, zero_add] at hsum
  rw [← hsum]
  cases hd : (cells.foldl gather ⟨.empty, .empty⟩).deltaAt hash key with
  | none => rfl
  | some d =>
    rw [Option.map_some, Option.getD_some, Option.getD_some]
    refine assetDelta_units fun hkey => ?_
    rw [hd, Option.getD_some] at hsum
    exact (congrArg Prod.fst hsum).trans (movements_null hcounted hkey hash)

/-- Each row takes its own cells. -/
theorem entriesOf_units {rows : List ActivityRow} (hnodup : (rows.map ActivityRow.ckbTxHash).Nodup) (g : Gathered)
    (key : AssetKey) : (entriesOf rows g).map (fun e => (e.ckbTxHash, e.units key)) =
      rows.map fun r => (bytesToHex r.ckbTxHash,
        ((g.deltaAt r.ckbTxHash key).map fun d => (assetDelta key d).units).getD 0) := by
  induction rows generalizing g with
  | nil => rfl
  | cons row rest ih =>
    obtain ⟨hnot, hrest⟩ := List.nodup_cons.mp hnodup
    rw [entriesOf, List.map_cons, List.map_cons, ih hrest, entryOf_units]
    refine congrArg₂ List.cons (Prod.ext rfl ?_) (List.map_congr_left fun r hr => ?_)
    · unfold Gathered.deltaAt
      cases g.deltas.get? row.ckbTxHash with
      | none => rfl
      | some t => rfl
    · have hne : r.ckbTxHash ≠ row.ckbTxHash := fun heq => hnot (heq ▸ List.mem_map_of_mem hr)
      unfold Gathered.deltaAt
      dsimp only
      rw [Table.get?_erase, if_neg hne]

/-! ## Where a cell comes up and where it goes down -/

/-- The account of a cell: its units in the transaction that created it, and what
`DeltaAccumulator::apply` makes of them in the one that consumed it. -/
def cellAccount : Ledger.Account (CellKey × CellRecord) Bytes Units where
  born e := e.1.ckbTxHash
  died e := e.2.consumed.map Consumption.txHash
  gain e := e.2.units
  loss e := (activityCell e.1.ckbTxHash .sent e.1 e.2).movement

/-- The cells of an asset the address owns, consumed ones included. -/
def Store.holdings (st : Store) (address : String) (key : AssetKey) : List (CellKey × CellRecord) :=
  (st.owned address).filter fun e => e.2.assetKey = key

theorem movement_received (hash : Bytes) (e : CellKey × CellRecord) :
    (activityCell hash .received e.1 e.2).movement = cellAccount.gain e := by
  unfold ActivityCellRow.movement activityCell cellAccount CellRecord.units ActivityRole.sign
  dsimp only
  rw [Int64.mul_one, show (1 : Int64).toInt = 1 from rfl, mul_one]

/-- What the first half of the cell query finds in a transaction of the page. -/
theorem received_units {hashes : List Bytes} {hash : Bytes} (hmem : hash ∈ hashes) (key : AssetKey) (e : CellKey × CellRecord) :
    ((((Store.receivedIn hashes e).filter fun c => decide (c.txHash = hash ∧ c.assetKey = key)).map
      ActivityCellRow.movement).getD 0) =
      if e.2.assetKey = key then (if cellAccount.born e = hash then cellAccount.gain e else 0) else 0 := by
  have hborn : cellAccount.born e = e.1.ckbTxHash := rfl
  have hkey : (activityCell e.1.ckbTxHash .received e.1 e.2).assetKey = e.2.assetKey := rfl
  have hhash : (activityCell e.1.ckbTxHash .received e.1 e.2).txHash = e.1.ckbTxHash := rfl
  unfold Store.receivedIn
  rw [hborn]
  by_cases hsame : e.1.ckbTxHash = hash
  · rw [if_pos (hsame ▸ hmem), Option.filter_some, hhash, hkey, if_pos hsame]
    by_cases hasset : e.2.assetKey = key
    · rw [if_pos (by simp [hsame, hasset]), if_pos hasset, Option.map_some, Option.getD_some, movement_received]
    · rw [if_neg (by simp [hasset]), if_neg hasset]
      rfl
  · rw [if_neg hsame, ite_self]
    by_cases hin : e.1.ckbTxHash ∈ hashes
    · rw [if_pos hin, Option.filter_some, if_neg (by simp [hhash, hsame])]
      rfl
    · rw [if_neg hin]
      rfl

/-- What the second half finds. -/
theorem sent_units {hashes : List Bytes} {hash : Bytes} (hmem : hash ∈ hashes) (key : AssetKey) (e : CellKey × CellRecord) :
    ((((Store.sentIn hashes e).filter fun c => decide (c.txHash = hash ∧ c.assetKey = key)).map
      ActivityCellRow.movement).getD 0) =
      if e.2.assetKey = key then (if cellAccount.died e = some hash then cellAccount.loss e else 0) else 0 := by
  have hdied : cellAccount.died e = e.2.consumed.map Consumption.txHash := rfl
  unfold Store.sentIn
  rw [hdied]
  cases e.2.consumed with
  | none => simp
  | some c =>
    have hkey : (activityCell c.txHash .sent e.1 e.2).assetKey = e.2.assetKey := rfl
    have hhash : (activityCell c.txHash .sent e.1 e.2).txHash = c.txHash := rfl
    have hloss : (activityCell c.txHash .sent e.1 e.2).movement = cellAccount.loss e := rfl
    simp only [Option.map_some, Option.some.injEq]
    by_cases hsame : c.txHash = hash
    · rw [if_pos (hsame ▸ hmem), Option.filter_some, hhash, hkey, if_pos hsame]
      by_cases hasset : e.2.assetKey = key
      · rw [if_pos (by simp [hsame, hasset]), if_pos hasset, Option.map_some, Option.getD_some, hloss]
      · rw [if_neg (by simp [hasset]), if_neg hasset]
        rfl
    · rw [if_neg hsame, ite_self]
      by_cases hin : c.txHash ∈ hashes
      · rw [if_pos hin, Option.filter_some, if_neg (by simp [hhash, hsame])]
        rfl
      · rw [if_neg hin]
        rfl

/-- The two joins give each transaction of a page what it books for the address. -/
theorem movements_eq_booked (st : Store) (rows : RowOrder ActivityCellRow) (address : String) {hashes : List Bytes}
    {hash : Bytes} (hmem : hash ∈ hashes) (key : AssetKey) :
    (((st.addressActivityCells rows address hashes).filter fun c => c.txHash = hash ∧ c.assetKey = key).map
      ActivityCellRow.movement).sum = Ledger.booked cellAccount hash (st.holdings address key) := by
  have hne : hashes.isEmpty = false := by
    rw [List.isEmpty_eq_false_iff]
    exact List.ne_nil_of_mem hmem
  unfold Store.addressActivityCells
  rw [if_neg (by simp [hne])]
  dsimp only
  rw [((((List.perm_insertionSort _ _).trans (rows.perm _)).filter _).map ActivityCellRow.movement).sum_eq,
    List.filter_append, List.map_append, List.sum_append, List.filter_filterMap, List.filter_filterMap, List.map_filterMap,
    List.map_filterMap, Ledger.sum_filterMap, Ledger.sum_filterMap]
  simp only [received_units hmem, sent_units hmem]
  unfold Ledger.booked Store.holdings Ledger.movement
  rw [Ledger.sum_map_filter_eq (fun e : CellKey × CellRecord => e.2.assetKey = key), ← List.sum_map_add]
  refine congrArg List.sum (List.map_congr_left fun e _ => ?_)
  by_cases hasset : e.2.assetKey = key
  · rw [if_pos hasset, if_pos hasset, if_pos hasset]
  · rw [if_neg hasset, if_neg hasset, if_neg hasset, add_zero]

/-! ## A whole history -/

/-- The database keeps an amount for fungible assets only. -/
def Store.Counted (st : Store) : Prop :=
  ∀ key row, st.rgbppCells.get? key = some row → row.assetKind.isFungible = false → row.udtAmount = none

section
variable {orders : Nat → ActivityOrders} {st : Store} {address : String} {pageSize : Int64} {key : AssetKey}

theorem counted_addressActivityCells (hcounted : st.Counted) {rows : RowOrder ActivityCellRow} {hashes : List Bytes} :
    ∀ c ∈ st.addressActivityCells rows address hashes, c.Counted := by
  intro c hc
  obtain ⟨e, he, hash, role, rfl⟩ := Store.mem_addressActivityCells hc
  exact hcounted e.1 e.2 (Store.mem_owned.mp he).1

variable (address pageSize key) in
/-- A page adds up to what its transactions book for the address. -/
theorem page_units (hcounted : st.Counted) {rows : List ActivityRow} (hnodup : (rows.map ActivityRow.ckbTxHash).Nodup)
    (cells : RowOrder ActivityCellRow) (unresolved : Nat) :
    (buildActivity address rows (st.addressActivityCells cells address (rows.map ActivityRow.ckbTxHash)) pageSize
      unresolved).entries.map (fun e => (e.ckbTxHash, e.units key)) =
        (rows.map ActivityRow.ckbTxHash).map fun hash =>
          (bytesToHex hash, Ledger.booked cellAccount hash (st.holdings address key)) := by
  rw [buildActivity]
  dsimp only
  rw [entriesOf_units hnodup, List.map_map]
  refine List.map_congr_left fun r hr => ?_
  rw [gathered_units (counted_addressActivityCells hcounted), movements_eq_booked st cells address (List.mem_map_of_mem hr)]
  rfl

variable (key) in
/-- A history adds up to what its transactions book, page by page. -/
theorem follow_units (hcounted : st.Counted) (hsize : 1 ≤ pageSize) {fuel i : Nat} {cursor : Option String}
    {found : List ActivityEntryDto} (h : follow orders (fun _ => st) address pageSize fuel i cursor = some found) :
    ∃ hashes : List Bytes, found.map (fun e => (e.ckbTxHash, e.units key)) =
      hashes.map fun hash => (bytesToHex hash, Ledger.booked cellAccount hash (st.holdings address key)) := by
  induction fuel generalizing i cursor found with
  | zero => cases h
  | succ fuel ih =>
    obtain ⟨rows, page, hok, hrows, hpage, -, -⟩ :=
      activityByBtcAddress_ok address hsize (orders i) (fun _ => st) (3 * i) cursor
    have hunits := page_units address pageSize key hcounted (Store.addressActivity_nodup hrows)
      (orders i).cells st.bindingsMissingAddress
    rw [← hpage] at hunits
    rw [follow, hok] at h
    dsimp only at h
    split at h
    · obtain rfl := Option.some.inj h
      exact ⟨_, hunits⟩
    · obtain ⟨rest, hrest, rfl⟩ := Option.map_eq_some_iff.mp h
      obtain ⟨hashes, hhashes⟩ := ih hrest
      exact ⟨rows.map ActivityRow.ckbTxHash ++ hashes, by rw [List.map_append, List.map_append, hunits, hhashes]⟩

end
end RgbppIndexer
