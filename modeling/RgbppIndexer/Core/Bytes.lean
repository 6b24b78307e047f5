import Mathlib.Data.List.Basic
import Mathlib.Tactic.Ring

/-!
# Byte strings, fixed-width integers and hex

Byte strings are lists of `UInt8`; `ByteArr n` carries its length, as a Rust
`[u8; n]` does. The integer codecs are the `to_le_bytes` / `from_le_bytes`
family; hex is the `hex` crate's `encode` and `decode`, over the UTF-8 bytes
of a text.

* `leNat_leBytes` / `leBytes_leNat`: the integer codec round trips, both ways.
* `hexDecode_hexText`: `hex::decode(hex::encode(b))` is `b`.
-/
namespace RgbppIndexer.Core

abbrev Bytes := List UInt8

/-- A Rust `[u8; n]`. -/
structure ByteArr (n : Nat) where
  bytes : Bytes
  length_eq : bytes.length = n
  deriving DecidableEq, Repr

namespace ByteArr

variable {n : Nat}

@[ext] theorem ext {a b : ByteArr n} (h : a.bytes = b.bytes) : a = b := by
  cases a; cases b; simp only at h; subst h; rfl

@[simp] theorem length_bytes (a : ByteArr n) : a.bytes.length = n := a.length_eq

/-- `[0u8; n]`. -/
def zero (n : Nat) : ByteArr n := ⟨List.replicate n 0, List.length_replicate⟩

/-- `[b; n]`. -/
def filled (n : Nat) (b : UInt8) : ByteArr n := ⟨List.replicate n b, List.length_replicate⟩

instance : Inhabited (ByteArr n) := ⟨zero n⟩

/-- `bytes.try_into()`: only a slice of the right length converts. -/
def ofBytes? (n : Nat) (b : Bytes) : Option (ByteArr n) := if h : b.length = n then some ⟨b, h⟩ else none

def reverse (a : ByteArr n) : ByteArr n := ⟨a.bytes.reverse, by simp⟩

@[simp] theorem reverse_reverse (a : ByteArr n) : a.reverse.reverse = a := by ext1; simp [reverse]

@[simp] theorem ofBytes?_bytes (a : ByteArr n) : ofBytes? n a.bytes = some a := by simp [ofBytes?]

end ByteArr

/-! ## Little-endian integers -/

/-- The `k` low bytes of `v`, least significant first. -/
def leBytes : Nat → Nat → Bytes
  | 0, _ => []
  | k + 1, v => UInt8.ofNat v :: leBytes k (v / 256)

def leNat : Bytes → Nat
  | [] => 0
  | b :: bs => b.toNat + 256 * leNat bs

@[simp] theorem leBytes_length (k v : Nat) : (leBytes k v).length = k := by
  induction k generalizing v with
  | zero => rfl
  | succ k ih => simp [leBytes, ih]

theorem leNat_leBytes (k v : Nat) : leNat (leBytes k v) = v % 256 ^ k := by
  induction k generalizing v with
  | zero => simp [leBytes, leNat, Nat.mod_one]
  | succ k ih =>
    simp only [leBytes, leNat, ih, UInt8.toNat_ofNat', Nat.reducePow]
    rw [Nat.pow_succ, Nat.mul_comm (256 ^ k) 256, Nat.mod_mul]

theorem leBytes_leNat (b : Bytes) : leBytes b.length (leNat b) = b := by
  induction b with
  | nil => rfl
  | cons x xs ih =>
    have hx : x.toNat < 256 := x.toNat_lt
    have hdiv : (x.toNat + 256 * leNat xs) / 256 = leNat xs := by omega
    simp only [List.length_cons, leBytes, leNat, hdiv, ih, List.cons.injEq, and_true]
    apply UInt8.toNat_inj.mp
    rw [UInt8.toNat_ofNat']
    omega

theorem leNat_lt (b : Bytes) : leNat b < 256 ^ b.length := by
  induction b with
  | nil => simp [leNat]
  | cons x xs ih =>
    have hx : x.toNat < 256 := x.toNat_lt
    simp only [leNat, List.length_cons, Nat.pow_succ]
    omega

theorem leBytes_inj {k v w : Nat} (hv : v < 256 ^ k) (hw : w < 256 ^ k) (h : leBytes k v = leBytes k w) :
    v = w := by
  have := congrArg leNat h
  rwa [leNat_leBytes, leNat_leBytes, Nat.mod_eq_of_lt hv, Nat.mod_eq_of_lt hw] at this

/-- `u16::to_be_bytes`. -/
def u16Be (v : UInt16) : Bytes := (leBytes 2 v.toNat).reverse
/-- `u32::to_le_bytes`. -/
def u32Le (v : UInt32) : Bytes := leBytes 4 v.toNat
/-- `u64::to_le_bytes`. -/
def u64Le (v : UInt64) : Bytes := leBytes 8 v.toNat
/-- `u32::from_le_bytes`, of a four byte slice. -/
def u32OfLe (b : Bytes) : UInt32 := UInt32.ofNat (leNat b)

@[simp] theorem u32Le_length (v : UInt32) : (u32Le v).length = 4 := leBytes_length 4 _
@[simp] theorem u64Le_length (v : UInt64) : (u64Le v).length = 8 := leBytes_length 8 _
@[simp] theorem u16Be_length (v : UInt16) : (u16Be v).length = 2 := by simp [u16Be]

theorem u32Le_injective : Function.Injective u32Le := fun v w h =>
  UInt32.toNat_inj.mp (leBytes_inj v.toNat_lt w.toNat_lt h)

theorem u64Le_injective : Function.Injective u64Le := fun v w h =>
  UInt64.toNat_inj.mp (leBytes_inj v.toNat_lt w.toNat_lt h)

@[simp] theorem u32OfLe_u32Le (v : UInt32) : u32OfLe (u32Le v) = v := by
  apply UInt32.toNat_inj.mp
  have hv : v.toNat < 256 ^ 4 := v.toNat_lt
  rw [u32OfLe, u32Le, leNat_leBytes, Nat.mod_eq_of_lt hv, UInt32.toNat_ofNat']
  exact Nat.mod_eq_of_lt hv

theorem u32Le_u32OfLe (b : Bytes) (h : b.length = 4) : u32Le (u32OfLe b) = b := by
  have hb : leNat b < 2 ^ 32 := by have := leNat_lt b; rwa [h] at this
  rw [u32Le, u32OfLe, UInt32.toNat_ofNat', Nat.mod_eq_of_lt hb, ← h]
  exact leBytes_leNat b

/-- `data[lo..hi]` of a slice. -/
def slice (b : Bytes) (lo hi : Nat) : Bytes := (b.take hi).drop lo

theorem slice_length (b : Bytes) {lo hi : Nat} (h : hi ≤ b.length) : (slice b lo hi).length = hi - lo := by
  simp [slice, Nat.min_eq_left h]

/-- Cutting at increasing positions loses nothing. -/
theorem slice_append_slice (b : Bytes) {lo mid hi : Nat} (h₁ : lo ≤ mid) (h₂ : mid ≤ hi) :
    slice b lo mid ++ slice b mid hi = slice b lo hi := by
  obtain ⟨j, rfl⟩ := Nat.exists_eq_add_of_le h₁
  have h : b.take (lo + j) = (b.take hi).take (lo + j) := by rw [List.take_take, Nat.min_eq_left h₂]
  rw [slice, slice, slice, h, List.drop_take, Nat.add_sub_cancel_left]
  rw [← List.drop_drop, List.take_append_drop]

/-- `&data[lo..hi]` as it runs: `none` is the panic of a range that is not in the slice. -/
def slice? (b : Bytes) (lo hi : Nat) : Option Bytes := if lo ≤ hi ∧ hi ≤ b.length then some (slice b lo hi) else none

theorem slice?_eq (b : Bytes) {lo hi : Nat} (h : lo ≤ hi) (hb : hi ≤ b.length) : slice? b lo hi = some (slice b lo hi) :=
  if_pos ⟨h, hb⟩

/-- `&data[lo..]`. -/
theorem slice?_length (b : Bytes) {lo : Nat} (h : lo ≤ b.length) : slice? b lo b.length = some (b.drop lo) := by
  rw [slice?_eq b h le_rfl, slice, List.take_length]

/-! ## Hex -/

/-- `hex::FromHexError`. -/
inductive FromHexError where
  | invalidHexCharacter (c : UInt8) (index : Nat)
  | oddLength
  | invalidStringLength
  deriving DecidableEq, Repr

/-- The UTF-8 bytes of a text, which is what `hex::decode` reads. -/
def textBytes (s : String) : Bytes := s.toByteArray.data.toList

/-- The text of ASCII bytes. -/
def asciiText (b : Bytes) : String := String.ofList (b.map Char.ofUInt8)

/-- The lower-case digit of a nibble. -/
def hexDigit (v : UInt8) : UInt8 := if v < 10 then 48 + v else 87 + v

/-- The nibble a digit of either case stands for. -/
def hexNibble? (c : UInt8) : Option UInt8 :=
  if 65 ≤ c ∧ c ≤ 70 then some (c - 65 + 10)
  else if 97 ≤ c ∧ c ≤ 102 then some (c - 97 + 10)
  else if 48 ≤ c ∧ c ≤ 57 then some (c - 48)
  else none

/-- `hex`'s `val`. -/
def hexVal (c : UInt8) (index : Nat) : Except FromHexError UInt8 :=
  match hexNibble? c with
  | some v => .ok v
  | none => .error (.invalidHexCharacter c index)

def hexEncode (b : Bytes) : Bytes := b.flatMap fun (v : UInt8) => [hexDigit (v >>> 4), hexDigit (v &&& 15)]

/-- The pairs of digits from position `i` on. -/
def hexPairs (i : Nat) : Bytes → Except FromHexError Bytes
  | hi :: lo :: rest => do
    let h ← hexVal hi i
    let l ← hexVal lo (i + 1)
    let tl ← hexPairs (i + 2) rest
    return (h <<< 4 ||| l) :: tl
  | _ => .ok []

/-- `hex::decode`. -/
def hexDecode (s : Bytes) : Except FromHexError Bytes :=
  if s.length % 2 ≠ 0 then .error .oddLength else hexPairs 0 s

/-- `hex::encode`, as a text. -/
def hexText (b : Bytes) : String := asciiText (hexEncode b)

theorem utf8EncodeChar_ofUInt8 (x : UInt8) (h : x < 128) : String.utf8EncodeChar (Char.ofUInt8 x) = [x] := by
  have hx : x.toNat < 128 := h
  have hsize : (Char.ofUInt8 x).utf8Size = 1 := by
    rw [Char.utf8Size_eq_one_iff, UInt32.le_iff_toNat_le]
    show x.toUInt32.toNat ≤ 127
    rw [UInt8.toNat_toUInt32]; omega
  rw [String.utf8EncodeChar_eq_singleton hsize]
  show [x.toUInt32.toUInt8] = [x]
  rw [UInt8.toUInt8_toUInt32]

theorem textBytes_asciiText (b : Bytes) (h : ∀ x ∈ b, x < 128) : textBytes (asciiText b) = b := by
  have hfm : ∀ c : Bytes, (∀ x ∈ c, x < 128) → (c.map Char.ofUInt8).flatMap String.utf8EncodeChar = c := by
    intro c hc
    induction c with
    | nil => rfl
    | cons x xs ih =>
      rw [List.map_cons, List.flatMap_cons, utf8EncodeChar_ofUInt8 x (hc x (by simp)),
        ih fun y hy => hc y (by simp [hy])]
      rfl
  rw [textBytes, asciiText, String.toByteArray_ofList, List.utf8Encode, hfm b h,
    List.toList_data_toByteArray]

theorem hexVal_hexDigit (v : UInt8) (h : v < 16) (i : Nat) : hexVal (hexDigit v) i = .ok v := by
  have hall : ∀ n : Fin 16, hexNibble? (hexDigit (UInt8.ofNat n)) = some (UInt8.ofNat n) := by decide
  have hv := hall ⟨v.toNat, h⟩
  simp only [UInt8.ofNat_toNat] at hv
  rw [hexVal, hv]

theorem nibbles_lt (v : UInt8) : v >>> 4 < 16 ∧ v &&& 15 < 16 := by
  have hall : ∀ n : Fin 256, UInt8.ofNat n >>> 4 < 16 ∧ UInt8.ofNat n &&& 15 < 16 := by decide +kernel
  simpa only [UInt8.ofNat_toNat] using hall ⟨v.toNat, v.toNat_lt⟩

theorem nibbles_join (v : UInt8) : (v >>> 4) <<< 4 ||| (v &&& 15) = v := by
  have hall : ∀ n : Fin 256, (UInt8.ofNat n >>> 4) <<< 4 ||| (UInt8.ofNat n &&& 15) = UInt8.ofNat n := by
    decide +kernel
  simpa only [UInt8.ofNat_toNat] using hall ⟨v.toNat, v.toNat_lt⟩

theorem hexPairs_hexEncode (b : Bytes) (i : Nat) : hexPairs i (hexEncode b) = .ok b := by
  induction b generalizing i with
  | nil => rfl
  | cons v vs ih =>
    have hcons : hexEncode (v :: vs) = hexDigit (v >>> 4) :: hexDigit (v &&& 15) :: hexEncode vs := rfl
    rw [hcons, hexPairs, hexVal_hexDigit _ (nibbles_lt v).1, hexVal_hexDigit _ (nibbles_lt v).2, ih]
    show Except.ok (((v >>> 4) <<< 4 ||| (v &&& 15)) :: vs) = Except.ok (v :: vs)
    rw [nibbles_join]

theorem hexEncode_length (b : Bytes) : (hexEncode b).length = 2 * b.length := by
  induction b with
  | nil => rfl
  | cons v vs ih =>
    have hcons : hexEncode (v :: vs) = hexDigit (v >>> 4) :: hexDigit (v &&& 15) :: hexEncode vs := rfl
    rw [hcons, List.length_cons, List.length_cons, List.length_cons, ih]; ring

theorem hexDecode_hexEncode (b : Bytes) : hexDecode (hexEncode b) = .ok b := by
  rw [hexDecode, if_neg (by rw [hexEncode_length]; omega), hexPairs_hexEncode]

/-- Hex digits are ASCII. -/
theorem hexEncode_ascii (b : Bytes) : ∀ x ∈ hexEncode b, x < 128 := by
  have hall : ∀ n : Fin 16, hexDigit (UInt8.ofNat n) < 128 := by decide
  have hdigit : ∀ v : UInt8, v < 16 → hexDigit v < 128 := fun v h => by
    simpa only [UInt8.ofNat_toNat] using hall ⟨v.toNat, h⟩
  intro x hx
  obtain ⟨v, _, hv⟩ := List.mem_flatMap.mp hx
  rcases List.mem_cons.mp hv with rfl | hv
  · exact hdigit _ (nibbles_lt v).1
  · rw [List.mem_singleton.mp hv]; exact hdigit _ (nibbles_lt v).2

theorem hexDecode_hexText (b : Bytes) : hexDecode (textBytes (hexText b)) = .ok b := by
  rw [hexText, textBytes_asciiText _ (hexEncode_ascii b), hexDecode_hexEncode]

end RgbppIndexer.Core
