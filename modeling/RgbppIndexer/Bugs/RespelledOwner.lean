import RgbppIndexer.Indexer.Ownership
import RgbppIndexer.Store.Stats
import RgbppIndexer.Types.Address

/-!
# Whoever asks last becomes the owner

"A cell bound to `(txid, vout)` belongs to whoever controls that output, so the
funding transaction is the authoritative source of ownership"
(docs/indexing.md:60-61, crates/store/src/btc.rs:168-173). But an address lookup
ends in `ON CONFLICT … SET address = EXCLUDED.address` as well (btc.rs:295), with
the text it was asked for (crates/indexer/src/reconcile.rs:276-286).
`validate_address` accepts more than one text for an address: bech32 may be
written in capitals. All lookups by address compare texts.

* `kept_of_run`: **calls that ask for an outpoint in its recorded spelling only
  keep its owner, in whatever number and order**.
* `Reconciler.reconcileAddress_attributed_iff`: for one call, exactly those do.
* `capitals_take_over`: the same address in capitals, and its first spelling
  has lost the outpoint.
-/
namespace RgbppIndexer.Bugs.RespelledOwner

open RgbppIndexer.Core

/-- One call of `reconcile_address`, with what it finds. -/
structure Call where
  reconciler : Reconciler
  moment : Nat
  address : String

/-- What it finds listed. -/
def Call.listing (c : Call) : Except BtcError (List BtcUtxo) :=
  (c.reconciler.btc.moment c.moment).addressUtxos c.address

/-- Calls, one after another. -/
def calls : Lts Store Call where
  init _ := True
  step st c st' := st' = (c.reconciler.reconcileAddress c.moment st c.address).1

/-- The call does not list the outpoint, or asks in the recorded spelling. -/
def AsksAs (o : BtcOutPoint) (a : String) (c : Call) : Prop :=
  ∀ utxos, c.listing = .ok utxos → (∃ u ∈ utxos, u.outpoint = o) → c.address = a

/-- The cell is bound to the outpoint. -/
def BoundTo (o : BtcOutPoint) (e : CellKey × CellRecord) : Prop :=
  e.2.btcTxid = o.key.txid ∧ e.2.btcVout = some o.key.vout

/-- The transaction created or consumed the cell. -/
def Touches (txHash : Bytes) (e : CellKey × CellRecord) : Prop :=
  e.1.ckbTxHash = txHash ∨ e.2.consumed.map Consumption.txHash = some txHash

/-- The address still owns the outpoint, and nobody lost or gained it. -/
structure Kept (o : BtcOutPoint) (a : String) (st st' : Store) : Prop where
  attributed : Attributed o.key a st'
  activity : ∀ b e, BoundTo o e → (e ∈ st'.owned b ↔ e ∈ st.owned b)
  history : ∀ e t, st'.rgbppCells.get? e.1 = some e.2 → BoundTo o e → st'.rgbppTransitions.get? t.1 = some t.2 →
    Touches t.1 e → t ∈ st'.touchedTransitions a
  live : ∀ b, o.key ∈ st'.liveBoundOutpointsForAddress b ↔ o.key ∈ st.liveBoundOutpointsForAddress b
  holders : ∀ typeHash owner, ((o.key.txid, some o.key.vout), owner) ∈ st'.holderRows typeHash ↔
    ((o.key.txid, some o.key.vout), owner) ∈ st.holderRows typeHash
  sole : ∀ b e, BoundTo o e → e ∈ st'.owned b → b = a

section
variable {o : BtcOutPoint} {a : String} {st st' : Store} {cs : List Call}

theorem observationOf_of_boundTo {e : CellKey × CellRecord} (h : BoundTo o e) :
    st.observationOf e.2 = st.btcOutpoints.get? o.key := by
  unfold Store.observationOf
  rw [h.2, h.1]

/-- The owner of a bound cell is the owner of the outpoint. -/
theorem mem_owned_iff {b : String} {e : CellKey × CellRecord} (h : Attributed o.key a st) (hbound : BoundTo o e) :
    e ∈ st.owned b ↔ st.rgbppCells.get? e.1 = some e.2 ∧ b = a := by
  rw [Store.mem_owned, observationOf_of_boundTo hbound, h, Option.some_inj, eq_comm (a := a)]

/-- The same owner in the same cells: nothing that joins them sees a difference. -/
theorem kept_of_same (h : Attributed o.key a st) (h' : Attributed o.key a st') (hsame : CkbSame st st') :
    Kept o a st st' where
  attributed := h'
  activity b e hbound := by rw [mem_owned_iff h hbound, mem_owned_iff h' hbound, hsame.cells]
  history e t hcell hbound htransition htouches :=
    Store.mem_touchedTransitions.mpr ⟨htransition,
      Store.mem_touched.mpr ⟨e, (mem_owned_iff h' hbound).mpr ⟨hcell, rfl⟩, htouches⟩⟩
  live b := by
    rw [Reconciler.mem_liveBoundOutpointsForAddress, Reconciler.mem_liveBoundOutpointsForAddress,
      Store.liveBound_of_eq hsame.cells, h, h']
  holders typeHash owner := by
    rw [Store.mem_holderRows, Store.mem_holderRows, hsame.cells]
    have hobserved : ∀ c : CellRecord, (c.btcTxid, c.btcVout) = (o.key.txid, some o.key.vout) →
        (st'.observationOf c).bind ObservationRow.address = (st.observationOf c).bind ObservationRow.address := by
      intro c hkey
      have hbound : BoundTo o (⟨o.key.txid, 0⟩, c) := Prod.mk.inj hkey
      rw [observationOf_of_boundTo hbound, observationOf_of_boundTo hbound, h, h']
    constructor
    · rintro ⟨key, c, hrow, htype, hlive, hkind, hkey, howner⟩
      exact ⟨key, c, hrow, htype, hlive, hkind, hkey, (hobserved c hkey).symm.trans howner⟩
    · rintro ⟨key, c, hrow, htype, hlive, hkind, hkey, howner⟩
      exact ⟨key, c, hrow, htype, hlive, hkind, hkey, (hobserved c hkey).trans howner⟩
  sole b e hbound howned := ((mem_owned_iff h' hbound).mp howned).2

/-- **Ownership survives every sequence of calls that ask in the recorded spelling.** -/
theorem kept_of_run (h : Attributed o.key a st) (hrun : (calls.restrict fun _ c => AsksAs o a c).Run st cs st')
    (hfunds : ∀ c ∈ cs, c.reconciler.Funds o a) : Kept o a st st' := by
  suffices hkept : Attributed o.key a st' ∧ CkbSame st st' from kept_of_same h hkept.1 hkept.2
  induction hrun with
  | nil => exact ⟨h, .refl st⟩
  | @snoc cs mid last c _ hstep ih =>
    obtain ⟨hlast, hasks⟩ := hstep
    obtain ⟨howner, hsame⟩ := ih fun c' hc' => hfunds c' (List.mem_append_left _ hc')
    have hfunds' := hfunds c (List.mem_append_right _ (List.mem_singleton.mpr rfl))
    rw [hlast]
    exact ⟨Reconciler.reconcileAddress_attributed howner hfunds' hasks,
      hsame.trans (Reconciler.reconcileAddress_same ..)⟩

end

/-! ## The counterexample -/

local instance respelledHash : Sha2 := .standard

def small : String := "tb1qkwkjlukvklvu9le8zcudqwte6gae0c9t32cgns"

def capitals : String := "TB1QKWKJLUKVKLVU9LE8ZCUDQWTE6GAE0C9T32CGNS"

/-- What the decoders make of the two texts: one address of a test network. -/
def codec : AddressCodec where
  segwitHrp text := if text = small ∨ text = capitals then some "tb" else none
  base58check _ := none

def output : BtcUtxo where
  outpoint := Sample.outpoint
  value := 546
  confirmation := none

/-- It lists the same for both spellings. The output is unspent. -/
def source : BtcDataSource where
  name := "esplora"
  moment _ :=
    { transaction := fun _ => .ok none
      outpointStatus := fun _ => .ok .unspent
      txOutspends := fun _ => .ok none
      addressUtxos := fun address => if address = small ∨ address = capitals then .ok [output] else .ok [] }

def reconciler : Reconciler where
  config := .testnet 64
  btc := source
  completion := .inOrder
  now := 0

/-- The cell of `Sample.chain` is indexed and its funding transaction fetched. -/
def funded : Store :=
  match (scannerStep (.testnet 64) (Sample.env (Sample.chain.serve 3)) (fun _ => "") .empty).recordBindingAddresses
      Sample.btcTxid.toDisplayVec [(0, small)] 0 with
  | .ok labelled => labelled.1
  | .error _ => .empty

def call (address : String) : Call := ⟨reconciler, 0, address⟩

def asked : Store := (reconciler.reconcileAddress 0 funded capitals).1

/-- **The address in capitals takes over**: both texts are accepted and list the same, and the one the funding
transaction named has lost the outpoint. -/
theorem capitals_take_over :
    capitals.toList = small.toList.map Char.toUpper ∧
      validateAddress codec small .testnet = .ok () ∧ validateAddress codec capitals .testnet = .ok () ∧
      (call small).listing = (call capitals).listing ∧
      calls.Run funded [call capitals] asked ∧
      Attributed Sample.outpoint.key small funded ∧ ¬ Attributed Sample.outpoint.key small asked ∧
      Sample.outpoint.key ∈ funded.liveBoundOutpointsForAddress small ∧
      Sample.outpoint.key ∉ asked.liveBoundOutpointsForAddress small ∧
      (funded.touchedTransitions small).length = 1 ∧ asked.touchedTransitions small = [] := by
  refine ⟨by decide +kernel, by decide +kernel, by decide +kernel, by decide +kernel, .single rfl, ?_⟩
  decide +kernel

/-- The same call in the recorded spelling. -/
theorem kept_of_run_small :
    Kept Sample.outpoint small funded (reconciler.reconcileAddress 0 funded small).1 := by
  have hrun : (calls.restrict fun _ c => AsksAs Sample.outpoint small c).Run funded [call small]
      (reconciler.reconcileAddress 0 funded small).1 := .single ⟨rfl, fun _ _ _ => rfl⟩
  refine kept_of_run (by decide +kernel) hrun fun c hc => ?_
  obtain rfl := List.mem_singleton.mp hc
  intro moment tx htx
  cases htx

end RgbppIndexer.Bugs.RespelledOwner
