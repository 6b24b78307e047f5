import RgbppIndexer.Store.Activity

/-!
# The history of an address

The handler of `/v1/rgbpp/activity/by-btc-address`
(crates/api/src/handlers.rs:695-714) and what it renders
(crates/api/src/dto.rs:697-920), once `check_address` has accepted the address
and `page_size` has clamped the page. A hash map is a keyed table; a sum that
SQL and `BigDecimal` keep exact is an integer.

* `activityByBtcAddress_ok`: what a page has and whether it points on.
* `follow_positions`: following `next_cursor` walks the history.
-/
namespace RgbppIndexer

open RgbppIndexer.Core

/-- mirrors crates/api/src/dto.rs:104-106 -/
def plainDecimal (value : Int) : String := String.ofList (Decimal.text value)

/-- mirrors crates/api/src/dto.rs:17-21 -/
structure CkbOutPointDto where
  txHash : String
  index : UInt32
  deriving DecidableEq, Repr

/-- mirrors crates/api/src/dto.rs:23-27 -/
structure BtcOutPointDto where
  txid : String
  vout : UInt32
  deriving DecidableEq, Repr

/-- mirrors crates/api/src/dto.rs:701-711 -/
structure ActivityBtcDto where
  txid : String
  confirmed : Bool
  blockHeight : Option Int32
  blockHash : Option String
  blockTime : Option DateTime
  fee : Option String
  deriving DecidableEq, Repr

/-- mirrors crates/api/src/dto.rs:713-722 -/
structure ActivityCellDto where
  ckbOutPoint : CkbOutPointDto
  btcOutPoint : Option BtcOutPointDto
  assetKind : String
  typeHash : Option String
  amount : Option String
  capacity : String
  deriving DecidableEq, Repr

/-- mirrors crates/api/src/dto.rs:724-737 -/
structure AssetDeltaDto where
  assetKind : String
  typeHash : Option String
  amount : Option String
  capacity : String
  cellDelta : Int
  deriving DecidableEq, Repr

/-- mirrors crates/api/src/dto.rs:739-748 -/
inductive ActivityDirection where
  | in_ | out | self
  deriving DecidableEq, Repr

/-- mirrors crates/api/src/dto.rs:750-766 -/
structure ActivityEntryDto where
  ckbTxHash : String
  blockNumber : Int64
  txIndex : Int32
  blockTimestamp : Option DateTime
  kind : TransitionKind
  direction : ActivityDirection
  btc : Option ActivityBtcDto
  received : List ActivityCellDto
  sent : List ActivityCellDto
  deltas : List AssetDeltaDto
  cursor : String
  deriving DecidableEq, Repr

/-- mirrors crates/api/src/dto.rs:768-782 -/
structure AddressActivityDto where
  address : String
  entries : List ActivityEntryDto
  nextCursor : Option String
  unresolvedBindingsTotal : Nat
  deriving DecidableEq, Repr

/-- mirrors crates/api/src/dto.rs:784-786 -/
abbrev AssetKey := AssetKind × Option Bytes

def ActivityCellRow.assetKey (c : ActivityCellRow) : AssetKey := (c.assetKind, c.typeHash)

/-- mirrors crates/api/src/dto.rs:788-794 -/
structure DeltaAccumulator where
  amount : Int := 0
  capacity : Int := 0
  cellDelta : Int := 0
  deriving DecidableEq, Repr

/-- `cell.capacity * sign` is a product of two `i64`, which wraps.
mirrors crates/api/src/dto.rs:797-803 -/
def DeltaAccumulator.apply (acc : DeltaAccumulator) (cell : ActivityCellRow) (sign : Int64) : DeltaAccumulator where
  amount := match cell.udtAmount with
    | some amount => acc.amount + amount * sign.toInt
    | none => acc.amount
  capacity := acc.capacity + (cell.capacity * sign).toInt
  cellDelta := acc.cellDelta + sign.toInt

/-- What the first loop of `build_activity` gathers: the cells of each transaction, and its deltas. -/
structure Gathered where
  byTx : Table Bytes (List ActivityCellDto × List ActivityCellDto)
  deltas : Table Bytes (Table AssetKey DeltaAccumulator)

def ActivityRole.sign : ActivityRole → Int64
  | received => 1
  | sent => -1

def ActivityCellRow.dto (c : ActivityCellRow) : ActivityCellDto where
  ckbOutPoint := { txHash := bytesToHex c.cellTxHash, index := c.outputIndex.toUInt32 }
  btcOutPoint := c.btcVout.map fun vout => { txid := hexText c.btcTxid, vout := vout.toUInt32 }
  assetKind := c.assetKind.asStr
  typeHash := c.typeHash.map bytesToHex
  amount := c.udtAmount.map fun amount => plainDecimal amount
  capacity := plainDecimal c.capacity.toInt

/-- One pass of the first loop. mirrors crates/api/src/dto.rs:819-851 -/
def gather (g : Gathered) (cell : ActivityCellRow) : Gathered where
  byTx := g.byTx.upsert cell.txHash fun old =>
    let slot := old.getD ([], [])
    match cell.role with
    | .received => (slot.1 ++ [cell.dto], slot.2)
    | .sent => (slot.1, slot.2 ++ [cell.dto])
  deltas := g.deltas.upsert cell.txHash fun old =>
    (old.getD .empty).upsert cell.assetKey fun acc => (acc.getD {}).apply cell cell.role.sign

/-- mirrors crates/api/src/dto.rs:874-883 -/
def assetDelta (key : AssetKey) (delta : DeltaAccumulator) : AssetDeltaDto where
  assetKind := key.1.asStr
  typeHash := key.2.map bytesToHex
  amount := if key.1.isFungible then some (plainDecimal delta.amount) else none
  capacity := plainDecimal delta.capacity
  cellDelta := delta.cellDelta

/-- `a.asset_kind.cmp(&b.asset_kind).then(a.type_hash.cmp(&b.type_hash))` -/
def assetDeltaLe (a b : AssetDeltaDto) : Bool :=
  ((compare a.assetKind b.assetKind).then (compare a.typeHash b.typeHash)).isLE

/-- mirrors crates/api/src/dto.rs:860-912 -/
def entryOf (row : ActivityRow) (cells : List ActivityCellDto × List ActivityCellDto)
    (deltas : Table AssetKey DeltaAccumulator) : ActivityEntryDto where
  ckbTxHash := bytesToHex row.ckbTxHash
  blockNumber := row.blockNumber
  txIndex := row.txIndex
  blockTimestamp := row.blockTimestamp
  kind := row.kind
  direction := match cells.1.isEmpty, cells.2.isEmpty with
    | false, true => .in_
    | true, false => .out
    | _, _ => .self
  btc := row.btcTxid.map fun txid =>
    { txid := hexText txid, confirmed := row.btcBlockHeight.isSome, blockHeight := row.btcBlockHeight,
      blockHash := row.btcBlockHash.map hexText, blockTime := row.btcBlockTime,
      fee := row.btcFee.map fun fee => plainDecimal fee.toInt }
  received := cells.1
  sent := cells.2
  deltas := (deltas.entries.map fun e => assetDelta e.1 e.2).insertionSort fun a b => assetDeltaLe a b
  cursor := row.cursor

/-- Each entry takes its cells out of the maps. -/
def entriesOf : List ActivityRow → Gathered → List ActivityEntryDto
  | [], _ => []
  | row :: rest, g =>
    entryOf row ((g.byTx.get? row.ckbTxHash).getD ([], [])) ((g.deltas.get? row.ckbTxHash).getD .empty) ::
      entriesOf rest ⟨g.byTx.erase row.ckbTxHash, g.deltas.erase row.ckbTxHash⟩

/-- mirrors crates/api/src/dto.rs:807-920 -/
def buildActivity (address : String) (rows : List ActivityRow) (cells : List ActivityCellRow) (pageSize : Int64)
    (unresolvedBindingsTotal : Nat) : AddressActivityDto where
  address := address
  entries := entriesOf rows (cells.foldl gather ⟨.empty, .empty⟩)
  nextCursor := if Int64.ofNat rows.length < pageSize then none else rows.getLast?.map ActivityRow.cursor
  unresolvedBindingsTotal := unresolvedBindingsTotal

/-- The orders in which the two statements of a request meet their rows. -/
structure ActivityOrders where
  rows : RowOrder ActivityRow
  cells : RowOrder ActivityCellRow

/-- The database may change between the statements of a request.
mirrors crates/api/src/handlers.rs:695-714 -/
def activityByBtcAddress (orders : ActivityOrders) (world : Nat → Store) (moment : Nat) (address : String)
    (cursor : Option String) (limit : Int64) : Except StoreError AddressActivityDto :=
  match (world moment).addressActivity orders.rows address cursor limit with
  | .error e => .error e
  | .ok rows =>
    let cells := (world (moment + 1)).addressActivityCells orders.cells address (rows.map ActivityRow.ckbTxHash)
    .ok (buildActivity address rows cells limit (world (moment + 2)).bindingsMissingAddress)

/-- The entries a client collects who follows `next_cursor` until it is null, in
`fuel` requests at most; each request meets three states of the database. -/
def follow (orders : Nat → ActivityOrders) (world : Nat → Store) (address : String) (pageSize : Int64) :
    Nat → Nat → Option String → Option (List ActivityEntryDto)
  | 0, _, _ => none
  | fuel + 1, i, cursor =>
    match activityByBtcAddress (orders i) world (3 * i) address cursor pageSize with
    | .error _ => none
    | .ok page =>
      match page.nextCursor with
      | none => some page.entries
      | some next => (follow orders world address pageSize fuel (i + 1) (some next)).map (page.entries ++ ·)

/-! ## Pages -/

section
variable {orders : Nat → ActivityOrders} {world : Nat → Store} {address : String} {pageSize : Int64}

theorem map_entriesOf {α : Type} {f : ActivityEntryDto → α} {f' : ActivityRow → α}
    (h : ∀ row cells deltas, f (entryOf row cells deltas) = f' row) (rows : List ActivityRow) (g : Gathered) :
    (entriesOf rows g).map f = rows.map f' := by
  induction rows generalizing g with
  | nil => rfl
  | cons row rest ih => rw [entriesOf, List.map_cons, List.map_cons, h, ih]

def ActivityEntryDto.position (e : ActivityEntryDto) : ChainPosition := (e.blockNumber, e.txIndex)

theorem toNat_limit_pos (hsize : 1 ≤ pageSize) : 0 < pageSize.toInt.toNat := by
  rw [Int64.le_iff_toInt_le] at hsize
  have hone : (1 : Int64).toInt = 1 := rfl
  omega

/-- A page that is not full is told by its length. -/
theorem ofNat_length_lt_iff {n : Nat} (hn : n ≤ pageSize.toInt.toNat) :
    Int64.ofNat n < pageSize ↔ n < pageSize.toInt.toNat := by
  have hbound := pageSize.toInt_lt
  have hofNat : (Int64.ofNat n).toInt = n := Int64.toInt_ofNat_of_lt (by omega)
  rw [Int64.lt_iff_toInt_lt, hofNat]
  omega

variable (address) in
/-- A request reads one page of the history. It says that there is more exactly if the page is full. -/
theorem activityByBtcAddress_ok (hsize : 1 ≤ pageSize) (orders : ActivityOrders) (world : Nat → Store) (moment : Nat)
    (cursor : Option String) :
    ∃ rows page, activityByBtcAddress orders world moment address cursor pageSize = .ok page ∧
      (world moment).addressActivity orders.rows address cursor pageSize = .ok rows ∧
      page = buildActivity address rows ((world (moment + 1)).addressActivityCells orders.cells address
        (rows.map ActivityRow.ckbTxHash)) pageSize (world (moment + 2)).bindingsMissingAddress ∧
      rows.map ActivityRow.position = Keyset.page newestFirst (cursor.bind parseActivityCursor)
        pageSize.toInt.toNat ((world moment).history address) ∧
      page.nextCursor = if rows.length < pageSize.toInt.toNat then none else rows.getLast?.map ActivityRow.cursor := by
  obtain ⟨rows, hrows⟩ := (world moment).addressActivity_ok address hsize orders.rows cursor
  have hpage := (Store.addressActivity_page hrows).1
  have hlength : rows.length ≤ pageSize.toInt.toNat := by
    rw [← List.length_map ActivityRow.position, hpage, Keyset.page]
    exact List.length_take_le ..
  refine ⟨rows, _, by rw [activityByBtcAddress, hrows], hrows, rfl, hpage, ?_⟩
  simp only [buildActivity, ofNat_length_lt_iff hlength]

variable (orders world address) in
/-- Following `next_cursor` walks the history page by page. -/
theorem follow_positions (hsize : 1 ≤ pageSize) (fuel i : Nat) (cursor : Option String) :
    (follow orders world address pageSize fuel i cursor).map (fun entries => entries.map ActivityEntryDto.position) =
      Keyset.walk newestFirst pageSize.toInt.toNat (fun i => (world (3 * i)).history address) fuel i
        (cursor.bind parseActivityCursor) := by
  induction fuel generalizing i cursor with
  | zero => rfl
  | succ fuel ih =>
    obtain ⟨rows, page, hok, -, hpage, hpositions, hnext⟩ :=
      activityByBtcAddress_ok address hsize (orders i) world (3 * i) cursor
    have hentries : page.entries.map ActivityEntryDto.position = rows.map ActivityRow.position := by
      rw [hpage]
      exact map_entriesOf (fun _ _ _ => rfl) rows _
    rw [follow, hok, Keyset.walk]
    simp only [hnext, ← hpositions, List.length_map]
    by_cases hshort : rows.length < pageSize.toInt.toNat
    · rw [if_pos hshort, if_pos hshort, Option.map_some, hentries]
    · rw [if_neg hshort, if_neg hshort, List.getLast?_map]
      cases hlast : rows.getLast? with
      | none => simp only [Option.map_none, Option.map_some, hentries]
      | some last =>
        have hrest := ih (i + 1) (some last.cursor)
        rw [Option.bind_some, parseActivityCursor_cursor] at hrest
        simp only [Option.map_some, ← hrest, Option.map_map]
        refine congrArg (fun f => Option.map f _) (funext fun rest => ?_)
        simp only [Function.comp_apply, List.map_append, hentries]

/-- Each entry is a transition that touched the address when its page was read. -/
theorem mem_follow (hsize : 1 ≤ pageSize) {fuel i : Nat} {cursor : Option String} {entries : List ActivityEntryDto}
    (h : follow orders world address pageSize fuel i cursor = some entries) {e : ActivityEntryDto} (he : e ∈ entries) :
    ∃ j, ∃ t ∈ (world (3 * j)).touchedTransitions address, e.ckbTxHash = bytesToHex t.1 ∧
      e.position = Store.positionOf t := by
  induction fuel generalizing i cursor entries with
  | zero => cases h
  | succ fuel ih =>
    obtain ⟨rows, page, hok, hrows, hpage, -, -⟩ :=
      activityByBtcAddress_ok address hsize (orders i) world (3 * i) cursor
    have hmem : ∀ e ∈ page.entries, ∃ j, ∃ t ∈ (world (3 * j)).touchedTransitions address,
        e.ckbTxHash = bytesToHex t.1 ∧ e.position = Store.positionOf t := by
      intro e he
      have hmap : page.entries.map (fun e => (e.ckbTxHash, e.position)) =
          rows.map fun r => (bytesToHex r.ckbTxHash, r.position) := by
        rw [hpage]
        exact map_entriesOf (fun _ _ _ => rfl) rows _
      have hpair : (e.ckbTxHash, e.position) ∈ rows.map fun r => (bytesToHex r.ckbTxHash, r.position) :=
        hmap ▸ List.mem_map_of_mem he
      obtain ⟨r, hr, heq⟩ := List.mem_map.mp hpair
      obtain ⟨t, ht, rfl⟩ := (Store.addressActivity_page hrows).2 r hr
      rw [Prod.mk.injEq] at heq
      exact ⟨i, t, ht, heq.1.symm, heq.2.symm⟩
    rw [follow, hok] at h
    dsimp only at h
    split at h
    · obtain rfl := Option.some.inj h
      exact hmem e he
    · obtain ⟨rest, hrest, rfl⟩ := Option.map_eq_some_iff.mp h
      rcases List.mem_append.mp he with he | he
      · exact hmem e he
      · exact ih hrest he

end
end RgbppIndexer
