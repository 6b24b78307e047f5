import RgbppIndexer.Api.Balance
import RgbppIndexer.Indexer.System
import RgbppIndexer.Store.Status

/-!
# The pending balance that leaves out what is pending

`?include_pending=true` is to "count cells whose bound UTXO is already spent on
Bitcoin but whose CKB transition is not indexed yet" (crates/api/src/handlers.rs:64-66;
README.md:280: "counts in-flight cells"). But the outpoints a balance is taken
over come from `address_utxos` (handlers.rs:306-311), which lists what is
unspent. An output whose spend is recorded and is so on Bitcoin is not listed,
and its cell is counted in no view.

* `counted_iff_undone`: a pending cell is counted exactly if its recorded spend is
  not so, or not any more.
* `counts_pending_iff`: **a pending balance has every pending cell of its address
  exactly if that holds of all of them.**
* `flag_changes_nothing`: where the recorded spends are so, both views are one.
* `spent_cell_uncounted`: the diff of the request itself records the spend, and
  the answer is empty.

Fix: take the balance over the bound outpoints attributed to the address, which
`live_bound_outpoints_for_address` reads, next to the listed ones.
-/
namespace RgbppIndexer.Bugs.UncountedPending

open RgbppIndexer.Core

/-- What is so on Bitcoin: whom an output pays, and which outputs are spent. -/
structure Bitcoin where
  paysTo : BtcOutPoint → String → Prop
  spent : BtcOutPoint → Prop

namespace Bitcoin

variable (bitcoin : Bitcoin)

/-- The source lists of an address exactly its unspent outputs. -/
def ListedBy (replies : BtcReplies) (address : String) : Prop :=
  ∃ utxos, replies.addressUtxos address = .ok utxos ∧
    ∀ o, (∃ u ∈ utxos, u.outpoint = o) ↔ bitcoin.paysTo o address ∧ ¬ bitcoin.spent o

/-- Whatever is recorded, the outpoint is an output of the address that nothing has spent. -/
def Unspent (address : String) (outpoint : OutpointKey) : Prop :=
  ∃ o : BtcOutPoint, o.key = outpoint ∧ bitcoin.paysTo o address ∧ ¬ bitcoin.spent o

end Bitcoin

/-- The cell is unconsumed on CKB and `pending_ckb`, and its outpoint is attributed to the address. -/
structure InFlight (st : Store) (address : String) (key : CellKey) (c : CellRecord) (outpoint : OutpointKey) : Prop where
  present : st.rgbppCells.get? key = some c
  unconsumed : c.consumed = none
  bound : c.btcTxid = outpoint.txid ∧ c.btcVout = some outpoint.vout
  attributed : Attributed outpoint address st
  pending : (st.rgbppCellStatus key c).status = .pendingCkb

/-- The answer is the balance of what it counts: the conservative cells, and all that are in flight. -/
structure CountsPending (e : AddressEndpoints) (listed : Nat) (read : Store) (address : String)
    (response : BalanceResponse) : Prop where
  balance : response.assets = (Store.balancesOf (e.counted listed read address true)).map AssetBalanceDto.ofRow
  conservative : ∀ row ∈ e.counted listed read address false, row ∈ e.counted listed read address true
  pending : ∀ key c outpoint, InFlight read address key c outpoint →
    read.rgbppCellStatus key c ∈ e.counted listed read address true

section
variable {bitcoin : Bitcoin} {e : AddressEndpoints} {listed : Nat} {read : Store} {address : String}

theorem mem_keys_iff {utxos : List BtcUtxo} {outpoint : OutpointKey}
    (hexact : ∀ o, (∃ u ∈ utxos, u.outpoint = o) ↔ bitcoin.paysTo o address ∧ ¬ bitcoin.spent o) :
    (outpoint ∈ utxos.map fun u => u.outpoint.key) ↔ bitcoin.Unspent address outpoint := by
  rw [List.mem_map]
  constructor
  · rintro ⟨u, hu, rfl⟩
    exact ⟨u.outpoint, rfl, (hexact u.outpoint).mp ⟨u, hu, rfl⟩⟩
  · rintro ⟨o, rfl, hunspent⟩
    obtain ⟨u, hu, rfl⟩ := (hexact o).mpr hunspent
    exact ⟨u, hu, rfl⟩

/-- What a balance counts, in terms of what is so on Bitcoin. -/
theorem mem_counted (hlisting : bitcoin.ListedBy (e.reconciler.btc.moment listed) address) {includePending : Bool}
    {row : Store.CellRow} : row ∈ e.counted listed read address includePending ↔
      (∃ key c, read.rgbppCells.get? key = some c ∧ row = read.rgbppCellStatus key c) ∧
        (∃ vout, row.btcVout = some vout ∧ bitcoin.Unspent address ⟨row.btcTxid, vout⟩) ∧
        (row.status = .live ∨ includePending = true ∧ row.status = .pendingCkb) := by
  obtain ⟨utxos, hutxos, hexact⟩ := hlisting
  unfold AddressEndpoints.counted
  rw [hutxos]
  dsimp only
  rw [Store.mem_balanceRows]
  simp only [mem_keys_iff hexact]

/-- **A pending cell is counted exactly if its recorded spend is not so.** -/
theorem counted_iff_undone (hlisting : bitcoin.ListedBy (e.reconciler.btc.moment listed) address) {key : CellKey}
    {c : CellRecord} {outpoint : OutpointKey} (h : InFlight read address key c outpoint) :
    read.rgbppCellStatus key c ∈ e.counted listed read address true ↔ bitcoin.Unspent address outpoint := by
  obtain ⟨htxid, hvout⟩ := h.bound
  have hkey : (⟨c.btcTxid, outpoint.vout⟩ : OutpointKey) = outpoint := by rw [htxid]
  rw [mem_counted hlisting]
  constructor
  · rintro ⟨-, ⟨vout, hbound, hunspent⟩, -⟩
    obtain rfl := Option.some.inj (hvout.symm.trans hbound)
    rw [← hkey]
    exact hunspent
  · intro hunspent
    refine ⟨⟨key, c, h.present, rfl⟩, ⟨outpoint.vout, hvout, ?_⟩, .inr ⟨rfl, h.pending⟩⟩
    rw [← hkey] at hunspent
    exact hunspent

/-- **Where every recorded spend is so, the flag changes nothing.** -/
theorem flag_changes_nothing (hlisting : bitcoin.ListedBy (e.reconciler.btc.moment listed) address)
    (hso : ∀ key c, read.rgbppCells.get? key = some c → (read.rgbppCellStatus key c).status = .pendingCkb →
      ∀ o : BtcOutPoint, c.btcTxid = o.key.txid → c.btcVout = some o.key.vout → bitcoin.spent o) (row : Store.CellRow) :
    row ∈ e.counted listed read address true ↔ row ∈ e.counted listed read address false := by
  rw [mem_counted hlisting, mem_counted hlisting]
  refine and_congr_right fun hrow => and_congr_right fun hbound => ?_
  obtain ⟨key, c, hpresent, rfl⟩ := hrow
  obtain ⟨vout, hvout, o, hkey, -, hunspent⟩ := hbound
  have hlive : (read.rgbppCellStatus key c).status ≠ .pendingCkb := by
    intro hpending
    refine hunspent (hso key c hpresent hpending o ?_ ?_)
    · rw [hkey]
      rfl
    · rw [hkey]
      exact hvout
  simp [hlive]

end

/-- **Exactly when a pending balance counts every pending cell of its address**:
if the spend recorded for each of them is not so on Bitcoin. -/
theorem counts_pending_iff (bitcoin : Bitcoin) (e : AddressEndpoints) (moment listed : Nat) (between : Store → Store)
    (st read : Store) (address : String) (query : BalanceQuery) (response : BalanceResponse)
    (hlisting : bitcoin.ListedBy (e.reconciler.btc.moment listed) address) (hquery : query.includePending = true)
    (hanswer : e.balanceByBtcAddress moment listed between st address query = (read, .ok response)) :
    CountsPending e listed read address response ↔
      ∀ key c outpoint, InFlight read address key c outpoint → bitcoin.Unspent address outpoint := by
  obtain ⟨-, -, -, -, -, hassets⟩ := AddressEndpoints.balanceByBtcAddress_eq_ok hanswer
  rw [hquery] at hassets
  constructor
  · intro h key c outpoint hflight
    exact (counted_iff_undone hlisting hflight).mp (h.pending key c outpoint hflight)
  · intro h
    exact ⟨hassets, fun row => AddressEndpoints.counted_conservative, fun key c outpoint hflight =>
      (counted_iff_undone hlisting hflight).mpr (h key c outpoint hflight)⟩

/-! ## The counterexample -/

local instance uncountedHash : Sha2 := .standard

def alice : String := "tb1qkwkjlukvklvu9le8zcudqwte6gae0c9t32cgns"

def codec : AddressCodec where
  segwitHrp text := if text = alice then some "tb" else none
  base58check _ := none

/-- Output 0 of `Sample.btcTxid` pays alice. -/
def bitcoin (spent : Bool) : Bitcoin where
  paysTo o address := o = Sample.outpoint ∧ address = alice
  spent _ := spent

def output : BtcUtxo where
  outpoint := Sample.outpoint
  value := 546
  confirmation := none

/-- It is spent by a transaction in the mempool; the source lists what is unspent. -/
def endpoints (utxos : List BtcUtxo) : AddressEndpoints where
  texts := ⟨fun _ => "invalid", fun _ => "indexer", fun _ => "database", fun _ => "esplora"⟩
  codec
  network := .testnet
  reconcileEnabled := true
  reconciler :=
    { config := .testnet 64
      btc :=
        { name := "esplora"
          moment := fun _ =>
            { transaction := fun _ => .ok none
              outpointStatus := fun _ => .ok (.spentUnconfirmed Sample.spender)
              txOutspends := fun _ => .ok none
              addressUtxos := fun address => .ok (if address = alice then utxos else []) } }
      completion := .inOrder
      now := 0 }

/-- The cell of `Sample.chain` is indexed, and its outpoint attributed to alice. -/
def funded : Store :=
  match (scannerStep (.testnet 64) (Sample.env (Sample.chain.serve 3)) (fun _ => "") .empty).recordBindingAddresses
      Sample.btcTxid.toDisplayVec [(0, alice)] 0 with
  | .ok labelled => labelled.1
  | .error _ => .empty

/-- The database the answer is read from: the diff of the request has seen the spend. -/
def observed : Store := ((endpoints []).diff 0 funded alice ⟨none, true⟩).1

def answer (assets : List AssetBalanceDto) : BalanceResponse := ⟨alice, true, assets⟩

def cell : CellKey := ⟨(Sample.hash 1).toVec, 0⟩

def row : CellRecord := (observed.rgbppCells.get? cell).getD Store.boundCell.record

theorem row_inFlight : InFlight observed alice cell row Sample.outpoint.key where
  present := by decide +kernel
  unconsumed := by decide +kernel
  bound := by decide +kernel
  attributed := by decide +kernel
  pending := by decide +kernel

/-- **The answer is empty**, though the cell is in flight: the diff of the request has recorded the spend. -/
theorem spent_cell_uncounted :
    (bitcoin true).ListedBy ((endpoints []).reconciler.btc.moment 1) alice ∧
      (endpoints []).balanceByBtcAddress 0 1 id funded alice ⟨none, true⟩ = (observed, .ok (answer [])) ∧
      InFlight observed alice cell row Sample.outpoint.key ∧
      ¬ CountsPending (endpoints []) 1 observed alice (answer []) := by
  refine ⟨⟨[], rfl, fun o => ?_⟩, by rfl, row_inFlight, fun h => ?_⟩
  · simp [bitcoin]
  · have hcounted := h.pending cell row Sample.outpoint.key row_inFlight
    have hnone : (endpoints []).counted 1 observed alice true = [] := by rfl
    rw [hnone] at hcounted
    cases hcounted

/-- The transaction that spent the output is gone, and nothing has looked since: the cell is counted. -/
theorem counts_pending_iff_undone :
    CountsPending (endpoints [output]) 1 observed alice (answer [⟨"none", none, 1, "142", none⟩]) := by
  have hlisting : (bitcoin false).ListedBy ((endpoints [output]).reconciler.btc.moment 1) alice := by
    refine ⟨[output], rfl, fun o => ?_⟩
    simp [bitcoin, output, eq_comm]
  refine (counts_pending_iff (bitcoin false) (endpoints [output]) 0 1 id observed observed alice ⟨some false, true⟩ _
    hlisting rfl (by rfl)).mpr fun key c outpoint h => ?_
  obtain ⟨r, hr, -⟩ := Option.bind_eq_some_iff.mp h.attributed
  have hkeys : observed.btcOutpoints.entries.map Prod.fst = [Sample.outpoint.key] := by decide +kernel
  have hmem : outpoint ∈ observed.btcOutpoints.entries.map Prod.fst :=
    List.mem_map_of_mem ((observed.btcOutpoints.get?_eq_some_iff outpoint r).mp hr)
  rw [hkeys] at hmem
  exact ⟨Sample.outpoint, (List.mem_singleton.mp hmem).symm, ⟨rfl, rfl⟩, Bool.false_ne_true⟩

end RgbppIndexer.Bugs.UncountedPending
