import RgbppIndexer.Types.Ckb

/-!
# Bitcoin primitives and the status model

`crates/types/src/bitcoin.rs` and `crates/types/src/state.rs`. A
`BtcTxid` stores display order; `toInternalBytes` / `fromInternalBytes` are
the only places where the order is reversed. Cell statuses are derived from
two independent facts, what CKB did and what Bitcoin last said.
-/
namespace RgbppIndexer

open RgbppIndexer.Core

/-- No hex text starts with the mark. -/
theorem stripHexMark_hexEncode (b : Bytes) : H256.stripHexMark (hexEncode b) = hexEncode b := by
  have hall : ∀ n : Fin 16, hexDigit (UInt8.ofNat n) ≠ 120 := by decide
  cases b with
  | nil => rfl
  | cons v vs =>
    have hdigit : hexDigit (v &&& 15) ≠ 120 := by
      simpa only [UInt8.ofNat_toNat] using hall ⟨(v &&& 15).toNat, (nibbles_lt v).2⟩
    have hcons : hexEncode (v :: vs) = hexDigit (v >>> 4) :: hexDigit (v &&& 15) :: hexEncode vs := rfl
    rw [hcons]
    unfold H256.stripHexMark
    split
    · next heq =>
      rw [List.cons.injEq, List.cons.injEq] at heq
      exact absurd heq.2.1 hdigit
    · rfl

/-- mirrors crates/types/src/bitcoin.rs:15 -/
structure BtcTxid where
  display : ByteArr 32
  deriving DecidableEq, Repr, Inhabited

namespace BtcTxid

@[ext] theorem ext {a b : BtcTxid} (h : a.display.bytes = b.display.bytes) : a = b := by
  cases a; cases b; simp only [mk.injEq]; exact ByteArr.ext h

/-- mirrors crates/types/src/bitcoin.rs:23-34 -/
def fromDisplaySlice (b : Bytes) : Except TypesError BtcTxid :=
  match ByteArr.ofBytes? 32 b with
  | some a => .ok ⟨a⟩
  | none => .error (.length "BtcTxid" 32 b.length)

/-- The length is that of the text in UTF-8. mirrors crates/types/src/bitcoin.rs:37-47 -/
def fromHex (s : String) : Except TypesError BtcTxid :=
  let s := H256.stripHexMark (textBytes s)
  if s.length ≠ 64 then .error (.length "BtcTxid hex" 64 s.length)
  else
    match hexDecode s with
    | .ok b => fromDisplaySlice b
    | .error e => .error (.hex e)

/-- mirrors crates/types/src/bitcoin.rs:50-54 -/
def fromInternalBytes (b : Bytes) : Except TypesError BtcTxid := fromDisplaySlice b.reverse

def toDisplayVec (t : BtcTxid) : Bytes := t.display.bytes

/-- mirrors crates/types/src/bitcoin.rs:64-68 -/
def toInternalBytes (t : BtcTxid) : Bytes := t.display.reverse.bytes

/-- mirrors crates/types/src/bitcoin.rs:71-73 -/
def toHex (t : BtcTxid) : String := hexText t.toDisplayVec

/-- The all-zero txid used as a placeholder. -/
def placeholder : BtcTxid := ⟨ByteArr.zero 32⟩

@[simp] theorem toDisplayVec_length (t : BtcTxid) : t.toDisplayVec.length = 32 := t.display.length_eq

@[simp] theorem toInternalBytes_length (t : BtcTxid) : t.toInternalBytes.length = 32 := t.display.reverse.length_eq

theorem toDisplayVec_injective : Function.Injective toDisplayVec := fun _ _ h => ext h

@[simp] theorem toDisplayVec_inj {a b : BtcTxid} : a.toDisplayVec = b.toDisplayVec ↔ a = b :=
  toDisplayVec_injective.eq_iff

@[simp] theorem fromDisplaySlice_toDisplayVec (t : BtcTxid) : fromDisplaySlice t.toDisplayVec = .ok t := by
  simp [fromDisplaySlice, toDisplayVec]

theorem toInternalBytes_eq_reverse (t : BtcTxid) : t.toInternalBytes = t.toDisplayVec.reverse := rfl

@[simp] theorem fromInternalBytes_toInternalBytes (t : BtcTxid) : fromInternalBytes t.toInternalBytes = .ok t := by
  rw [fromInternalBytes, toInternalBytes_eq_reverse, List.reverse_reverse, fromDisplaySlice_toDisplayVec]

theorem fromDisplaySlice_of_length {b : Bytes} (h : b.length = 32) :
    ∃ t, fromDisplaySlice b = .ok t ∧ t.toDisplayVec = b := ⟨⟨⟨b, h⟩⟩, by simp [fromDisplaySlice, ByteArr.ofBytes?, h], rfl⟩

/-- Reading a txid keeps its bytes. -/
theorem toDisplayVec_of_fromDisplaySlice {b : Bytes} {t : BtcTxid} (h : fromDisplaySlice b = .ok t) : t.toDisplayVec = b := by
  by_cases hlength : b.length = 32
  · obtain ⟨t', ht', hb⟩ := fromDisplaySlice_of_length hlength
    rw [h] at ht'
    rw [Except.ok.inj ht', hb]
  · simp [fromDisplaySlice, ByteArr.ofBytes?, hlength] at h

theorem stripHexMark_toHex (t : BtcTxid) : H256.stripHexMark (textBytes t.toHex) = hexEncode t.toDisplayVec := by
  rw [toHex, hexText, textBytes_asciiText _ (hexEncode_ascii _), stripHexMark_hexEncode]

/-- What explorers are asked with is read back. -/
@[simp] theorem fromHex_toHex (t : BtcTxid) : fromHex t.toHex = .ok t := by
  unfold fromHex
  dsimp only
  rw [stripHexMark_toHex, if_neg (by rw [hexEncode_length, toDisplayVec_length]; omega), hexDecode_hexEncode]
  exact fromDisplaySlice_toDisplayVec t

theorem fromInternalBytes_of_length {b : Bytes} (h : b.length = 32) :
    ∃ t, fromInternalBytes b = .ok t ∧ t.toInternalBytes = b := by
  obtain ⟨t, ht, hd⟩ := fromDisplaySlice_of_length (b := b.reverse) (by simpa using h)
  exact ⟨t, ht, by rw [toInternalBytes_eq_reverse, hd, List.reverse_reverse]⟩

theorem fromInternalBytes_eq_ok {b : Bytes} {t : BtcTxid} (h : fromInternalBytes b = .ok t) :
    t.toInternalBytes = b := by
  by_cases hb : b.length = 32
  · obtain ⟨t', h', he⟩ := fromInternalBytes_of_length hb
    rw [h'] at h
    simp only [Except.ok.injEq] at h; subst h; exact he
  · simp [fromInternalBytes, fromDisplaySlice, ByteArr.ofBytes?, hb] at h

instance : Ord BtcTxid := ⟨compareOn toDisplayVec⟩

instance : Std.TransOrd BtcTxid := inferInstanceAs (Std.TransCmp (compareOn toDisplayVec))

instance : Std.LawfulEqOrd BtcTxid where
  compare_self := Std.ReflOrd.compare_self (α := Bytes)
  eq_of_compare h := toDisplayVec_injective (Std.LawfulEqOrd.eq_of_compare (α := Bytes) h)

end BtcTxid

/-- A Bitcoin UTXO reference. mirrors crates/types/src/bitcoin.rs:103-106 -/
structure BtcOutPoint where
  txid : BtcTxid
  vout : UInt32
  deriving DecidableEq, Repr

/-- mirrors crates/types/src/bitcoin.rs:121 -/
structure BtcBlockHash where
  data : ByteArr 32
  deriving DecidableEq, Repr, Inhabited

namespace BtcBlockHash

/-- mirrors crates/types/src/bitcoin.rs:124-137 -/
def fromHex (s : String) : Except TypesError BtcBlockHash :=
  match hexDecode (H256.stripHexMark (textBytes s)) with
  | .ok b =>
    match ByteArr.ofBytes? 32 b with
    | some a => .ok ⟨a⟩
    | none => .error (.length "BtcBlockHash" 32 b.length)
  | .error e => .error (.hex e)

/-- mirrors crates/types/src/bitcoin.rs:139-141 -/
def toHex (h : BtcBlockHash) : String := hexText h.data.bytes

@[simp] theorem fromHex_toHex (h : BtcBlockHash) : fromHex h.toHex = .ok h := by
  rw [fromHex, toHex, hexText, textBytes_asciiText _ (hexEncode_ascii _), stripHexMark_hexEncode, hexDecode_hexEncode]
  simp

end BtcBlockHash

/-! ## Statuses -/

/-- What the Bitcoin data source last told us about a bound UTXO.
mirrors crates/types/src/state.rs:11-25 -/
inductive OutpointSpendStatus where
  | unknown
  | unspent
  | spentUnconfirmed (spender : BtcTxid)
  | spentConfirmed (spender : BtcTxid) (height : UInt32)
  deriving DecidableEq, Repr

namespace OutpointSpendStatus

/-- mirrors crates/types/src/state.rs:28-34 -/
def isSpent : OutpointSpendStatus → Bool
  | spentUnconfirmed _ => true
  | spentConfirmed _ _ => true
  | _ => false

/-- mirrors crates/types/src/state.rs:36-42 -/
def spender : OutpointSpendStatus → Option BtcTxid
  | spentUnconfirmed s => some s
  | spentConfirmed s _ => some s
  | _ => none

/-- mirrors crates/types/src/state.rs:44-49 -/
def height : OutpointSpendStatus → Option UInt32
  | spentConfirmed _ h => some h
  | _ => none

/-- mirrors crates/types/src/state.rs:51-58 -/
def asStr : OutpointSpendStatus → String
  | unknown => "unknown"
  | unspent => "unspent"
  | spentUnconfirmed _ => "spent_unconfirmed"
  | spentConfirmed _ _ => "spent_confirmed"

end OutpointSpendStatus

/-- mirrors crates/types/src/state.rs:64-75 -/
inductive CellStatus where
  | live | pendingCkb | spent | timeLocked
  deriving DecidableEq, Repr

/-- mirrors crates/types/src/state.rs:78-85 -/
def CellStatus.asStr : CellStatus → String
  | live => "live"
  | pendingCkb => "pending_ckb"
  | spent => "spent"
  | timeLocked => "time_locked"

/-- mirrors crates/types/src/state.rs:89-97 -/
def deriveCellStatus (consumedOnCkb : Bool) (btc : OutpointSpendStatus) : CellStatus :=
  if consumedOnCkb then .spent
  else if btc.isSpent then .pendingCkb
  else .live

/-- What a CKB transaction did to RGB++ state. mirrors crates/types/src/state.rs:102-113 -/
inductive TransitionKind where
  | issuance | transfer | leapToCkb | btcTimeUnlock | exit
  deriving DecidableEq, Repr

/-- mirrors crates/types/src/state.rs:116-124 -/
def TransitionKind.asStr : TransitionKind → String
  | issuance => "issuance"
  | transfer => "transfer"
  | leapToCkb => "leap_to_ckb"
  | btcTimeUnlock => "btc_time_unlock"
  | exit => "exit"

end RgbppIndexer
