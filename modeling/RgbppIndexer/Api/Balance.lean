import RgbppIndexer.Api.Outpoints
import RgbppIndexer.Indexer.Ownership
import RgbppIndexer.Types.Address

/-!
# The balance of an address

The handler of `/v1/rgbpp/balance/by-btc-address` (crates/api/src/handlers.rs:294-322)
with what it renders (crates/api/src/dto.rs:193-226). The diff is one call of the
reconciler; the listing is asked for again, later; between the two and the
statement other tasks commit what they like.

* `balanceByBtcAddress_eq_ok`: an answer is the balance of the cells `counted`
  keeps, of the database the statement reads.
* `mem_balanceRows`, `balanceRows_nodup`: which cells these are, and that none is among them twice.
* `sum_cellCount`, `sum_totalCapacity`, `sum_totalAmount`: **every one of them is
  counted once**, under one asset.
-/
namespace RgbppIndexer

open RgbppIndexer.Core

/-- mirrors crates/api/src/handlers.rs:59-68 -/
structure BalanceQuery where
  reconcile : Option Bool
  includePending : Bool
  deriving DecidableEq, Repr

/-- mirrors crates/api/src/dto.rs:193-200 -/
structure AssetBalanceDto where
  assetKind : String
  typeHash : Option String
  cellCount : Nat
  totalCapacity : String
  /-- null for non-fungible assets -/
  totalAmount : Option String
  deriving DecidableEq, Repr

/-- The sums of a group are not NULL. mirrors crates/api/src/dto.rs:202-226 -/
def AssetBalanceDto.ofRow (row : Store.AssetBalanceRow) : AssetBalanceDto where
  assetKind := row.assetKind.asStr
  typeHash := row.typeHash.map bytesToHex
  cellCount := row.cellCount
  totalCapacity := plainDecimal row.totalCapacity
  totalAmount := if row.assetKind.isFungible then some (plainDecimal row.totalAmount) else none

/-- mirrors crates/api/src/handlers.rs:283-288 -/
structure BalanceResponse where
  address : String
  includePending : Bool
  assets : List AssetBalanceDto
  deriving DecidableEq, Repr

/-- What the address endpoints are configured with: `state.engine`, and the decoders behind `validate_address`. -/
structure AddressEndpoints where
  texts : ErrorTexts
  codec : AddressCodec
  /-- `config.btc.network()` -/
  network : BtcNetwork
  /-- `config.reconcile.enabled` -/
  reconcileEnabled : Bool
  reconciler : Reconciler

namespace AddressEndpoints

variable (e : AddressEndpoints)

/-- mirrors crates/api/src/handlers.rs:741-744 -/
def checkAddress (address : String) : Except ApiError Unit :=
  match validateAddress e.codec address e.network with
  | .error err => .error (.badRequest (e.texts.types err))
  | .ok () => .ok ()

/-- The diff before the answer, unless it is switched off or declined. -/
def diff (moment : Nat) (st : Store) (address : String) (query : BalanceQuery) : Store × Except ApiError Unit :=
  if e.reconcileEnabled && query.reconcile.getD true then
    match e.reconciler.reconcileAddress moment st address with
    | (st, .error err) => (st, .error (.indexer err))
    | (st, .ok _) => (st, .ok ())
  else (st, .ok ())

/-- Balances for an address, computed from the cell table on every request. The listing is asked for at the moment
`listed`; `between` is what other tasks commit before the statement reads.
mirrors crates/api/src/handlers.rs:294-322 -/
def balanceByBtcAddress (moment listed : Nat) (between : Store → Store) (st : Store) (address : String)
    (query : BalanceQuery) : Store × Except ApiError BalanceResponse :=
  match e.checkAddress address with
  | .error err => (st, .error err)
  | .ok () =>
    match e.diff moment st address query with
    | (st, .error err) => (st, .error err)
    | (st, .ok ()) =>
      match (e.reconciler.btc.moment listed).addressUtxos address with
      | .error err => (st, .error (.btc err))
      | .ok utxos =>
        let st := between st
        let rows := st.assetBalancesForOutpoints (utxos.map fun u => u.outpoint.key) query.includePending
        (st, .ok { address, includePending := query.includePending, assets := rows.map AssetBalanceDto.ofRow })

/-- The cells a balance counts: the rows its statement groups, of what the source lists. -/
def counted (listed : Nat) (read : Store) (address : String) (includePending : Bool) : List Store.CellRow :=
  match (e.reconciler.btc.moment listed).addressUtxos address with
  | .error _ => []
  | .ok utxos => read.balanceRows (utxos.map fun u => u.outpoint.key) includePending

end AddressEndpoints

namespace Store

/-- The assets of some rows with their totals, in the order of an answer. -/
def balancesOf (rows : List CellRow) : List AssetBalanceRow :=
  ((rows.map fun r => (r.typeHash, r.assetKind)).dedup.insertionSort fun a b => groupLe a b).map (balanceGroup rows)

theorem assetBalancesForOutpoints_eq (st : Store) (outpoints : List OutpointKey) (includePending : Bool) :
    st.assetBalancesForOutpoints outpoints includePending = balancesOf (st.balanceRows outpoints includePending) := rfl

/-! ## Which cells -/

section
variable {st : Store} {outpoints : List OutpointKey} {row : CellRow}

/-- A balance counts the cells bound to its outpoints that are live, and on demand the pending ones. -/
theorem mem_balanceRows {includePending : Bool} : row ∈ st.balanceRows outpoints includePending ↔
    (∃ key c, st.rgbppCells.get? key = some c ∧ row = st.rgbppCellStatus key c) ∧
      (∃ vout, row.btcVout = some vout ∧ (⟨row.btcTxid, vout⟩ : OutpointKey) ∈ outpoints) ∧
      (row.status = .live ∨ includePending = true ∧ row.status = .pendingCkb) := by
  unfold balanceRows
  rw [List.mem_filter, List.mem_map, Bool.and_eq_true, Bool.or_eq_true, Bool.and_eq_true, decide_eq_true_eq,
    decide_eq_true_eq]
  refine and_congr ?_ (and_congr ?_ Iff.rfl)
  · constructor
    · rintro ⟨⟨key, c⟩, hentry, rfl⟩
      exact ⟨key, c, (st.rgbppCells.get?_eq_some_iff key c).mpr hentry, rfl⟩
    · rintro ⟨key, c, hrow, rfl⟩
      exact ⟨(key, c), (st.rgbppCells.get?_eq_some_iff key c).mp hrow, rfl⟩
  · cases row.btcVout with
    | none => simp
    | some vout => simp

/-- The pending view keeps what the conservative one has. -/
theorem balanceRows_conservative (h : row ∈ st.balanceRows outpoints false) : row ∈ st.balanceRows outpoints true := by
  obtain ⟨hrow, hbound, hstatus⟩ := mem_balanceRows.mp h
  refine mem_balanceRows.mpr ⟨hrow, hbound, .inl ?_⟩
  simpa using hstatus

/-- **No cell is among the counted ones twice.** -/
theorem balanceRows_nodup (st : Store) (outpoints : List OutpointKey) (includePending : Bool) :
    ((st.balanceRows outpoints includePending).map fun r => (⟨r.ckbTxHash, r.outputIndex⟩ : CellKey)).Nodup := by
  have hkeys : ((st.rgbppCells.entries.map fun e => st.rgbppCellStatus e.1 e.2).map
      fun r => (⟨r.ckbTxHash, r.outputIndex⟩ : CellKey)) = st.rgbppCells.entries.map Prod.fst := by
    rw [List.map_map]
    rfl
  have hnodup := st.rgbppCells.nodupKeys
  rw [← hkeys] at hnodup
  exact hnodup.sublist (List.filter_sublist.map _)

end

/-! ## The totals -/

/-- What is summed up asset by asset is the sum over the cells. -/
theorem sum_balancesOf {μ : Type*} [AddCommMonoid μ] (rows : List CellRow) (weight : CellRow → μ)
    (total : AssetBalanceRow → μ) (htotal : ∀ g, total (balanceGroup rows g) =
      ((rows.filter fun r => decide ((r.typeHash, r.assetKind) = g)).map weight).sum) :
    ((balancesOf rows).map total).sum = (rows.map weight).sum := by
  have hnodup : ((rows.map fun r => (r.typeHash, r.assetKind)).dedup.insertionSort fun a b => groupLe a b).Nodup :=
    (List.perm_insertionSort _ _).nodup_iff.mpr (List.nodup_dedup _)
  have hcovers : ∀ row ∈ rows, (row.typeHash, row.assetKind) ∈
      ((rows.map fun r => (r.typeHash, r.assetKind)).dedup.insertionSort fun a b => groupLe a b) := by
    intro row hrow
    rw [List.mem_insertionSort, List.mem_dedup]
    exact List.mem_map_of_mem hrow
  rw [← sum_groups _ weight hnodup rows hcovers, balancesOf, List.map_map]
  exact congrArg List.sum (List.map_congr_left fun g _ => htotal g)

theorem sum_cellCount (rows : List CellRow) : ((balancesOf rows).map AssetBalanceRow.cellCount).sum = rows.length := by
  rw [sum_balancesOf rows (fun _ => 1)]
  · simp
  · intro g
    simp [balanceGroup]

theorem sum_totalCapacity (rows : List CellRow) :
    ((balancesOf rows).map AssetBalanceRow.totalCapacity).sum = (rows.map fun r => r.capacity.toInt).sum :=
  sum_balancesOf rows _ _ fun _ => rfl

theorem sum_totalAmount (rows : List CellRow) :
    ((balancesOf rows).map AssetBalanceRow.totalAmount).sum = (rows.map fun r => r.udtAmount.getD 0).sum :=
  sum_balancesOf rows _ _ fun _ => rfl

end Store

/-! ## The answer -/

namespace AddressEndpoints

variable {e : AddressEndpoints} {moment listed : Nat} {between : Store → Store} {st read : Store} {address : String}
  {query : BalanceQuery} {response : BalanceResponse}

/-- The pending view counts what the conservative one does. -/
theorem counted_conservative {row : Store.CellRow} (h : row ∈ e.counted listed read address false) :
    row ∈ e.counted listed read address true := by
  unfold counted at h ⊢
  cases hlisting : (e.reconciler.btc.moment listed).addressUtxos address with
  | error err =>
    rw [hlisting] at h
    cases h
  | ok utxos =>
    rw [hlisting] at h
    exact Store.balanceRows_conservative h

/-- **An answer is the balance of the counted cells** of the database its statement read. -/
theorem balanceByBtcAddress_eq_ok (h : e.balanceByBtcAddress moment listed between st address query = (read, .ok response)) :
    e.checkAddress address = .ok () ∧ (e.diff moment st address query).2 = .ok () ∧
      read = between (e.diff moment st address query).1 ∧ response.address = address ∧
      response.includePending = query.includePending ∧
      response.assets = (Store.balancesOf (e.counted listed read address query.includePending)).map AssetBalanceDto.ofRow := by
  unfold balanceByBtcAddress at h
  cases hcheck : e.checkAddress address with
  | error err =>
    rw [hcheck] at h
    cases h
  | ok u =>
    rw [hcheck] at h
    cases hdiff : e.diff moment st address query with
    | mk diffed result =>
      rw [hdiff] at h
      cases result with
      | error err => cases h
      | ok u =>
        dsimp only at h
        cases hlisting : (e.reconciler.btc.moment listed).addressUtxos address with
        | error err =>
          rw [hlisting] at h
          cases h
        | ok utxos =>
          rw [hlisting] at h
          cases h
          refine ⟨rfl, rfl, rfl, rfl, rfl, ?_⟩
          unfold counted
          rw [hlisting, Store.assetBalancesForOutpoints_eq]

end AddressEndpoints
end RgbppIndexer
