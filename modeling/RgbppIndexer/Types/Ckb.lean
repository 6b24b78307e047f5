import RgbppIndexer.Core.Sha256

/-!
# CKB primitives

`crates/types/src/ckb.rs` and `crates/types/src/error.rs`: hashes, scripts,
out points and cells, with the error type of the `types` crate. Hashes are
byte strings of length 32 by construction.
-/
namespace RgbppIndexer

open RgbppIndexer.Core

/-- mirrors crates/types/src/error.rs:6-25 -/
inductive TypesError where
  | hex (e : FromHexError)
  | length (what : String) (expected got : Nat)
  | malformed (what reason : String)
  | unsupported (what value : String)
  | config (msg : String)
  deriving DecidableEq, Repr

/-- A 32-byte CKB hash, exactly as on the wire.
mirrors crates/types/src/ckb.rs:17-18 -/
structure H256 where
  data : ByteArr 32
  deriving DecidableEq, Repr, Inhabited

namespace H256

@[ext] theorem ext {a b : H256} (h : a.data.bytes = b.data.bytes) : a = b := by
  cases a; cases b; simp only [mk.injEq]; exact ByteArr.ext h

def ZERO : H256 := ⟨ByteArr.zero 32⟩

/-- mirrors crates/types/src/ckb.rs:23-34 -/
def fromSlice (b : Bytes) : Except TypesError H256 :=
  match ByteArr.ofBytes? 32 b with
  | some a => .ok ⟨a⟩
  | none => .error (.length "H256" 32 b.length)

/-- `s.strip_prefix("0x").unwrap_or(s)`, on the bytes of the text. -/
def stripHexMark (s : Bytes) : Bytes :=
  match s with
  | 48 :: 120 :: rest => rest
  | s => s

/-- mirrors crates/types/src/ckb.rs:36-39 -/
def fromHex (s : String) : Except TypesError H256 :=
  match hexDecode (stripHexMark (textBytes s)) with
  | .ok b => fromSlice b
  | .error e => .error (.hex e)

def toVec (h : H256) : Bytes := h.data.bytes

/-- mirrors crates/types/src/ckb.rs:50-52 -/
def toHex (h : H256) : String := asciiText (48 :: 120 :: hexEncode h.toVec)

@[simp] theorem toVec_length (h : H256) : h.toVec.length = 32 := h.data.length_eq

theorem toVec_injective : Function.Injective toVec := fun _ _ h => ext h

@[simp] theorem toVec_inj {a b : H256} : a.toVec = b.toVec ↔ a = b := toVec_injective.eq_iff

@[simp] theorem fromSlice_toVec (h : H256) : fromSlice h.toVec = .ok h := by simp [fromSlice, toVec]

theorem fromSlice_eq_ok {b : Bytes} {h : H256} (he : fromSlice b = .ok h) : h.toVec = b := by
  simp only [fromSlice, ByteArr.ofBytes?] at he
  split at he
  · next a ha =>
    split at ha
    · simp only [Option.some.injEq] at ha; subst ha
      simp only [Except.ok.injEq] at he; subst he; rfl
    · simp at ha
  · simp at he

instance : Ord H256 := ⟨compareOn toVec⟩

instance : Std.TransOrd H256 := inferInstanceAs (Std.TransCmp (compareOn toVec))

instance : Std.LawfulEqOrd H256 where
  compare_self := Std.ReflOrd.compare_self (α := Bytes)
  eq_of_compare h := toVec_injective (Std.LawfulEqOrd.eq_of_compare (α := Bytes) h)

end H256

/-- `"0x"` followed by hex digits is ASCII, so the text carries these bytes. -/
theorem textBytes_hexMarked (b : Bytes) : textBytes (asciiText (48 :: 120 :: hexEncode b)) = 48 :: 120 :: hexEncode b := by
  apply textBytes_asciiText
  intro x hx
  rcases List.mem_cons.mp hx with rfl | hx
  · decide
  · rcases List.mem_cons.mp hx with rfl | hx
    · decide
    · exact hexEncode_ascii b x hx

/-- `Bytes::from_hex`. mirrors crates/types/src/ckb.rs:89-92 -/
def bytesFromHex (s : String) : Except TypesError Bytes :=
  match hexDecode (H256.stripHexMark (textBytes s)) with
  | .ok b => .ok b
  | .error e => .error (.hex e)

/-- `Bytes::to_hex`. mirrors crates/types/src/ckb.rs:94-96 -/
def bytesToHex (b : Bytes) : String := asciiText (48 :: 120 :: hexEncode b)

@[simp] theorem bytesFromHex_bytesToHex (b : Bytes) : bytesFromHex (bytesToHex b) = .ok b := by
  rw [bytesFromHex, bytesToHex, textBytes_hexMarked, H256.stripHexMark, hexDecode_hexEncode]

theorem bytesToHex_injective : Function.Injective bytesToHex := by
  intro a b h
  have hread := bytesFromHex_bytesToHex a
  rw [h, bytesFromHex_bytesToHex b] at hread
  exact (Except.ok.inj hread).symm

@[simp] theorem H256.fromHex_toHex (h : H256) : H256.fromHex h.toHex = .ok h := by
  rw [H256.fromHex, H256.toHex, textBytes_hexMarked, H256.stripHexMark, hexDecode_hexEncode]
  exact H256.fromSlice_toVec h

/-- mirrors crates/types/src/ckb.rs:138-143 -/
inductive ScriptHashType where
  | data | type | data1 | data2
  deriving DecidableEq, Repr

namespace ScriptHashType

/-- mirrors crates/types/src/ckb.rs:146-153 -/
def asStr : ScriptHashType → String
  | data => "data"
  | type => "type"
  | data1 => "data1"
  | data2 => "data2"

/-- mirrors crates/types/src/ckb.rs:156-163 -/
def toByte : ScriptHashType → UInt8
  | data => 0
  | type => 1
  | data1 => 2
  | data2 => 4

/-- mirrors crates/types/src/ckb.rs:165-173 -/
def fromStrOpt (s : String) : Option ScriptHashType :=
  if s = "data" then some data
  else if s = "type" then some type
  else if s = "data1" then some data1
  else if s = "data2" then some data2
  else none

@[simp] theorem fromStrOpt_asStr (t : ScriptHashType) : fromStrOpt t.asStr = some t := by cases t <;> decide

theorem toByte_injective : Function.Injective toByte := by
  intro a b h; cases a <;> cases b <;> first | rfl | exact absurd h (by decide)

end ScriptHashType

/-- mirrors crates/types/src/ckb.rs:177-181 -/
structure Script where
  codeHash : H256
  hashType : ScriptHashType
  args : Bytes
  deriving DecidableEq, Repr

/-- A CKB cell reference. mirrors crates/types/src/ckb.rs:206-209 -/
structure CkbOutPoint where
  txHash : H256
  index : UInt32
  deriving DecidableEq, Repr

/-- mirrors crates/types/src/ckb.rs:224-229 -/
structure CellOutput where
  capacity : UInt64
  lock : Script
  type_ : Option Script
  deriving DecidableEq, Repr

/-- CKB's blake2b-256 with the `ckb-default-hash` personalisation.
mirrors crates/types/src/ckb.rs:232-242 -/
@[irreducible] def ckbBlake2b256 (data : Bytes) : ByteArr 32 :=
  Blake2b.digest [0x63, 0x6b, 0x62, 0x2d, 0x64, 0x65, 0x66, 0x61, 0x75, 0x6c, 0x74, 0x2d, 0x68, 0x61, 0x73, 0x68] data

end RgbppIndexer
