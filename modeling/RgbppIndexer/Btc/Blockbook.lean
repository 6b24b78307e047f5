import RgbppIndexer.Btc.Source

/-!
# The Blockbook backend

`crates/btc/src/blockbook.rs`: outputs carry a `spent` flag but not the
spending transaction, so recovering the spender means walking the owning
address's history. `outpointStatus_of_spent_unresolved` is the answer when
that walk does not find it.

The HTTP answers are a parameter; `none` is a "not found", which
`get_opt` maps to `Ok(None)`.
-/
namespace RgbppIndexer

open RgbppIndexer.Core

namespace Blockbook

/-- How deep to walk an address history. mirrors crates/btc/src/blockbook.rs:23 -/
def MAX_ADDRESS_PAGES : UInt32 := 5

/-- mirrors crates/btc/src/blockbook.rs:153-157 -/
structure Vin where
  txid : Option String
  vout : UInt32
  deriving DecidableEq, Repr

/-- The output fields an outpoint question reads. mirrors crates/btc/src/blockbook.rs:161-172 -/
structure Vout where
  n : UInt32
  addresses : List String
  spent : Bool
  deriving DecidableEq, Repr

/-- mirrors crates/btc/src/blockbook.rs:176-187 -/
structure Tx where
  txid : String
  vin : List Vin
  vout : List Vout
  blockHeight : Option Int64
  deriving DecidableEq, Repr

/-- mirrors crates/btc/src/blockbook.rs:191-196 -/
structure Address where
  totalPages : Option Int64
  transactions : List Tx
  deriving DecidableEq, Repr

/-- What the HTTP endpoint answers. -/
structure Http where
  tx : BtcTxid → Except BtcError (Option Tx)
  address : String → UInt32 → Except BtcError (Option Address)

/-- `HashMap<u32, OutpointSpendStatus>`, the newest insert first. -/
abbrev Resolved := List (UInt32 × OutpointSpendStatus)

def Resolved.get (r : Resolved) (vout : UInt32) : Option OutpointSpendStatus :=
  (r.find? fun e => e.1 = vout).map Prod.snd

/-- What a history entry says about the spent outputs of `txid`.
mirrors crates/btc/src/blockbook.rs:112-132 -/
def resolveInputs (txid : BtcTxid) (resolved : Resolved) (tx : Tx) : Resolved :=
  tx.vin.foldl (fun resolved vin =>
    match vin.txid with
    | none => resolved
    | some prev =>
      match btcTxidFromHex prev, btcTxidFromHex tx.txid with
      | some p, some spender =>
        if p = txid then
          (vin.vout,
            match tx.blockHeight with
            | some height =>
              if 0 < height then .spentConfirmed spender height.toInt32.toUInt32 else .spentUnconfirmed spender
            | none => .spentUnconfirmed spender) :: resolved
        else resolved
      | _, _ => resolved) resolved
where
  /-- `BtcTxid::from_hex(…).ok()`. mirrors crates/types/src/bitcoin.rs:37-47 -/
  btcTxidFromHex (s : String) : Option BtcTxid :=
    let s := H256.stripHexMark (textBytes s)
    if s.length ≠ 64 then none
    else
      match hexDecode s with
      | .ok b => (BtcTxid.fromDisplaySlice b).toOption
      | .error _ => none

/-- The history walk of one address: `remaining` pages are left before the cap.
mirrors crates/btc/src/blockbook.rs:99-147 -/
def walkAddress (http : Http) (txid : BtcTxid) (address : String) : Nat → UInt32 → Resolved → Resolved
  | 0, _, resolved => resolved
  | remaining + 1, page, resolved =>
    match http.address address page with
    | .error _ => resolved
    | .ok none => resolved
    | .ok (some addressPage) =>
      let resolved := addressPage.transactions.foldl (resolveInputs txid) resolved
      let totalPages := max (addressPage.totalPages.getD 1) 1
      if page ≥ totalPages.toInt32.toUInt32 ∨ page ≥ MAX_ADDRESS_PAGES then resolved
      else walkAddress http txid address remaining (page + 1) resolved

/-- Outputs whose spender cannot be located stay absent. mirrors crates/btc/src/blockbook.rs:84-149 -/
def resolveSpenders (http : Http) (txid : BtcTxid) (spentVouts : List (UInt32 × Option String)) : Resolved :=
  let addresses := ((spentVouts.filterMap Prod.snd).insertionSort fun a b => (compare a b).isLE = true).dedup
  addresses.foldl (fun resolved address => walkAddress http txid address MAX_ADDRESS_PAGES.toNat 1 resolved) []

/-- mirrors crates/btc/src/blockbook.rs:314-335 -/
def outpointStatus (http : Http) (outpoint : BtcOutPoint) : Except BtcError OutpointSpendStatus := do
  match ← http.tx outpoint.txid with
  | none => return .unknown
  | some tx =>
    match tx.vout.find? (fun v => v.n = outpoint.vout) with
    | none => return .unknown
    | some vout =>
      if !vout.spent then return .unspent
      else
        let resolved := resolveSpenders http outpoint.txid [(outpoint.vout, vout.addresses.head?)]
        -- known-spent but unresolvable spender stays `Unknown`
        return (resolved.get outpoint.vout).getD .unknown

/-- The status of an output, as far as it is resolved. -/
def voutStatus (resolved : Resolved) (vout : Vout) : OutpointSpendStatus :=
  if vout.spent then (resolved.get vout.n).getD .unknown else .unspent

/-- `max_n` of the outputs. -/
def maxIndex (tx : Tx) : UInt32 := ((tx.vout.map Vout.n).max?).getD 0

/-- mirrors crates/btc/src/blockbook.rs:337-368 -/
def txOutspends (http : Http) (txid : BtcTxid) : Except BtcError (Option (List OutpointSpendStatus)) := do
  match ← http.tx txid with
  | none => return none
  | some tx =>
    let spentVouts := (tx.vout.filter Vout.spent).map fun v => (v.n, v.addresses.head?)
    let resolved := if spentVouts.isEmpty then [] else resolveSpenders http txid spentVouts
    let statuses := List.replicate ((maxIndex tx).toNat + 1) OutpointSpendStatus.unknown
    return some (tx.vout.foldl (fun statuses v => statuses.set v.n.toNat (voutStatus resolved v)) statuses)

/-! ## The two answers -/

section
variable {http : Http} {txid : BtcTxid} {vout : UInt32}

theorem outpointStatus_of_error {e : BtcError} (htx : http.tx txid = .error e) :
    outpointStatus http ⟨txid, vout⟩ = .error e := by
  unfold outpointStatus
  dsimp only
  rw [htx]
  rfl

theorem outpointStatus_of_none (htx : http.tx txid = .ok none) : outpointStatus http ⟨txid, vout⟩ = .ok .unknown := by
  unfold outpointStatus
  dsimp only
  rw [htx]
  rfl

/-- The answer about an output is looked up in what its own address's history says. -/
theorem outpointStatus_of_some {tx : Tx} (htx : http.tx txid = .ok (some tx)) :
    outpointStatus http ⟨txid, vout⟩ =
      .ok (((tx.vout.find? fun v => v.n = vout).map fun v =>
        voutStatus (resolveSpenders http txid [(v.n, v.addresses.head?)]) v).getD .unknown) := by
  unfold outpointStatus
  dsimp only
  rw [htx]
  dsimp only [bind, Except.bind, pure, Except.pure]
  cases hfind : tx.vout.find? fun v => v.n = vout with
  | none => rfl
  | some v =>
    obtain rfl : v.n = vout := by simpa using List.find?_some hfind
    dsimp only [Option.map_some, Option.getD_some]
    unfold voutStatus
    cases hspent : v.spent with
    | false => rfl
    | true => rfl

/-- The spent outputs of a transaction, as `tx_outspends` hands them on. -/
def spentVouts (tx : Tx) : List (UInt32 × Option String) := (tx.vout.filter Vout.spent).map fun v => (v.n, v.addresses.head?)

/-- The list it answers with. -/
def outspends (resolved : Resolved) (tx : Tx) : List OutpointSpendStatus :=
  tx.vout.foldl (fun statuses v => statuses.set v.n.toNat (voutStatus resolved v))
    (List.replicate ((maxIndex tx).toNat + 1) .unknown)

theorem txOutspends_of_error {e : BtcError} (htx : http.tx txid = .error e) : txOutspends http txid = .error e := by
  unfold txOutspends
  rw [htx]
  rfl

theorem txOutspends_of_none (htx : http.tx txid = .ok none) : txOutspends http txid = .ok none := by
  unfold txOutspends
  rw [htx]
  rfl

/-- The list is filled from what the histories of all spent outputs say. -/
theorem txOutspends_of_some {tx : Tx} (htx : http.tx txid = .ok (some tx)) :
    txOutspends http txid = .ok (some (outspends (resolveSpenders http txid (spentVouts tx)) tx)) := by
  have hresolved : (if (spentVouts tx).isEmpty then [] else resolveSpenders http txid (spentVouts tx)) =
      resolveSpenders http txid (spentVouts tx) := by
    cases hspent : spentVouts tx with
    | nil => rfl
    | cons v rest => rfl
  rw [← hresolved]
  unfold txOutspends
  rw [htx]
  rfl

end

/-- An output the backend knows to be spent, whose owner's history cannot be
read: the answer is `Unknown`, which is also the answer for an output the
backend has never seen. -/
theorem outpointStatus_of_spent_unresolved {http : Http} {outpoint : BtcOutPoint} {tx : Tx} {vout : Vout}
    {address : String} (htx : http.tx outpoint.txid = .ok (some tx))
    (hvout : tx.vout.find? (fun v => v.n = outpoint.vout) = some vout) (hspent : vout.spent = true)
    (haddress : vout.addresses.head? = some address) (hfail : ∀ p, ∃ e, http.address address p = .error e) :
    outpointStatus http outpoint = .ok .unknown := by
  obtain ⟨e, he⟩ := hfail 1
  have hn : vout.n = outpoint.vout := by simpa using List.find?_some hvout
  have hres : resolveSpenders http outpoint.txid [(vout.n, some address)] = [] := by
    simp [resolveSpenders, walkAddress, MAX_ADDRESS_PAGES, he]
  rw [outpointStatus_of_some htx, hvout, Option.map_some, Option.getD_some, haddress, hres]
  unfold voutStatus
  rw [if_pos hspent]
  rfl

end Blockbook
end RgbppIndexer
