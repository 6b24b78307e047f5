import RgbppIndexer.Btc.Source

/-!
# What there is to know of Bitcoin

Every backend answers from the transactions it has seen, in blocks or waiting.
`BtcLedger` is such a view in the program's own terms (`BtcTxInfo`), with what
every view has: one transaction under a txid, and no output spent twice. The
questions of `BtcDataSource` have an answer in it, whatever backend is asked.

* `spender_eq_some`: the spender of an output is the transaction that spends it.
* `status_eq`: the status of an output that is there.
-/
namespace RgbppIndexer

open RgbppIndexer.Core

/-- A list with distinct keys has one element under each. -/
theorem find?_of_key {α β : Type*} [DecidableEq β] {key : α → β} {xs : List α} {x : α} (hnodup : (xs.map key).Nodup) (hx : x ∈ xs) :
    (xs.find? fun y => key y = key x) = some x := by
  cases hfind : xs.find? fun y => key y = key x with
  | none =>
    have hnone := List.find?_eq_none.mp hfind x hx
    simp at hnone
  | some y =>
    have hkey : key y = key x := by simpa using List.find?_some hfind
    rw [List.inj_on_of_nodup_map hnodup (List.mem_of_find?_eq_some hfind) hx hkey]

/-- The transactions a node has seen. -/
structure BtcLedger where
  txs : List BtcTxInfo
  distinct : (txs.map BtcTxInfo.txid).Nodup
  spentOnce : ∀ tx ∈ txs, ∀ tx' ∈ txs, ∀ o ∈ tx.inputs, o ∈ tx'.inputs → tx = tx'
  /-- an output is named by 32 bits -/
  fits : ∀ tx ∈ txs, tx.outputs.length < 2 ^ 32

namespace BtcLedger

variable (b : BtcLedger)

def transaction (txid : BtcTxid) : Option BtcTxInfo := b.txs.find? fun tx => tx.txid = txid

def output (o : BtcOutPoint) : Option BtcTxOutput := (b.transaction o.txid).bind fun tx => tx.outputs[o.vout.toNat]?

def spender (o : BtcOutPoint) : Option BtcTxInfo := b.txs.find? fun tx => tx.spends o

/-- The status of an output with this spender. -/
def spentBy : Option BtcTxInfo → OutpointSpendStatus
  | none => .unspent
  | some tx =>
    match tx.confirmation with
    | some block => .spentConfirmed tx.txid block.height
    | none => .spentUnconfirmed tx.txid

def status (o : BtcOutPoint) : OutpointSpendStatus := if (b.output o).isSome then spentBy (b.spender o) else .unknown

/-- The statuses of all outputs of a transaction. -/
def statuses (tx : BtcTxInfo) : List OutpointSpendStatus :=
  (List.range tx.outputs.length).map fun i => spentBy (b.spender ⟨tx.txid, UInt32.ofNat i⟩)

/-- The output at this place of a transaction, if it pays the address and nothing spends it. -/
def utxo? (address : String) (tx : BtcTxInfo) (output : BtcTxOutput × Nat) : Option BtcUtxo :=
  let o : BtcOutPoint := ⟨tx.txid, UInt32.ofNat output.2⟩
  if output.1.address = some address ∧ b.spender o = none then some ⟨o, output.1.value, tx.confirmation⟩ else none

/-- What an address owns. -/
def utxos (address : String) : List BtcUtxo := b.txs.flatMap fun tx => tx.outputs.zipIdx.filterMap (b.utxo? address tx)

variable {b} {tx : BtcTxInfo} {o : BtcOutPoint}

theorem isSpent_spentBy (tx : BtcTxInfo) : (spentBy (some tx)).isSpent = true := by
  unfold spentBy
  dsimp only
  cases tx.confirmation with
  | none => rfl
  | some block => rfl

theorem transaction_eq_some {txid : BtcTxid} : b.transaction txid = some tx ↔ tx ∈ b.txs ∧ tx.txid = txid := by
  constructor
  · intro h
    exact ⟨List.mem_of_find?_eq_some h, by simpa using List.find?_some h⟩
  · rintro ⟨hmem, rfl⟩
    exact find?_of_key b.distinct hmem

theorem spends_iff : tx.spends o = true ↔ o ∈ tx.inputs := by
  rw [BtcTxInfo.spends, List.contains_iff_mem]

/-- What spends an output is its spender. -/
theorem spender_eq_some : b.spender o = some tx ↔ tx ∈ b.txs ∧ o ∈ tx.inputs := by
  constructor
  · intro h
    have hspends := List.find?_some h
    exact ⟨List.mem_of_find?_eq_some h, spends_iff.mp hspends⟩
  · rintro ⟨hmem, hinput⟩
    cases hfind : b.spender o with
    | none => exact absurd (spends_iff.mpr hinput) (List.find?_eq_none.mp hfind tx hmem)
    | some tx' =>
      have hspends := List.find?_some hfind
      rw [b.spentOnce tx' (List.mem_of_find?_eq_some hfind) tx hmem o (spends_iff.mp hspends) hinput]

theorem output_eq_some {txOutput : BtcTxOutput} (h : b.output o = some txOutput) :
    ∃ tx, b.transaction o.txid = some tx ∧ tx.outputs[o.vout.toNat]? = some txOutput := Option.bind_eq_some_iff.mp h

/-- An output that is there. -/
theorem exists_of_output (h : (b.output o).isSome = true) :
    ∃ tx, b.transaction o.txid = some tx ∧ o.vout.toNat < tx.outputs.length := by
  obtain ⟨txOutput, houtput⟩ := Option.isSome_iff_exists.mp h
  obtain ⟨tx, htx, hat⟩ := output_eq_some houtput
  exact ⟨tx, htx, (List.getElem?_eq_some_iff.mp hat).1⟩

theorem status_eq (h : (b.output o).isSome = true) : b.status o = spentBy (b.spender o) := if_pos h

/-- The entry of an output in the list of its transaction is its status. -/
theorem getD_statuses (h : (b.output o).isSome = true) (htx : b.transaction o.txid = some tx) :
    (b.statuses tx).getD o.vout.toNat .unknown = b.status o := by
  obtain ⟨tx', htx', hvout⟩ := exists_of_output h
  obtain rfl := Option.some.inj (htx.symm.trans htx')
  have htxid := (transaction_eq_some.mp htx).2
  rw [status_eq h, statuses, List.getD_eq_getElem?_getD, List.getElem?_map, List.getElem?_range hvout, Option.map_some,
    Option.getD_some, UInt32.ofNat_toNat, htxid]

end BtcLedger
end RgbppIndexer
