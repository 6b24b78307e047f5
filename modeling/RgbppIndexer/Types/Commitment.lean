import RgbppIndexer.Types.Protocol

/-!
# RGB++ commitments

`crates/types/src/commitment.rs`: the value a Bitcoin transaction publishes
in an `OP_RETURN` to bind itself to a CKB transaction,
`sha256(sha256(preimage))` over the leading RGB++ inputs and outputs.

SHA-256 comes from a crate, so it is a parameter (`Sha2`); what is proved
about commitments is proved about their pre-images. `CommitmentPreimage.encode_inj`:
two pre-images are the same bytes exactly when version, inputs and outputs
are the same.
-/
namespace RgbppIndexer

open RgbppIndexer.Core

/-- The digest of the `sha2` crate. -/
class Sha2 where
  sha256 : Bytes → ByteArr 32

/-- The function the crate computes. -/
abbrev Sha2.standard : Sha2 := ⟨Sha256.digest⟩

/-- `b"RGB++"`. mirrors crates/types/src/commitment.rs:13 -/
def RGBPP_TAG : Bytes := [0x52, 0x47, 0x42, 0x2b, 0x2b]

def DEFAULT_VERSION : UInt16 := 0

/-- The committed part of a CKB transaction. mirrors crates/types/src/commitment.rs:17-22 -/
structure CommitmentPreimage where
  version : UInt16
  inputs : List CkbOutPoint
  outputs : List (CellOutput × Bytes)
  deriving DecidableEq, Repr

/-- mirrors crates/types/src/commitment.rs:54-60 -/
def doubleSha256 [Sha2] (data : Bytes) : ByteArr 32 := Sha2.sha256 (Sha2.sha256 data).bytes

/-- One committed output and its data. -/
def encodeCommittedOutput (o : CellOutput × Bytes) : Bytes := encodeCellOutput o.1 ++ encodeBytes o.2

namespace CommitmentPreimage

/-- mirrors crates/types/src/commitment.rs:25-31 -/
def new (inputs : List CkbOutPoint) (outputs : List (CellOutput × Bytes)) : CommitmentPreimage :=
  { version := DEFAULT_VERSION, inputs, outputs }

/-- mirrors crates/types/src/commitment.rs:33-47 -/
def encode (p : CommitmentPreimage) : Bytes :=
  RGBPP_TAG ++ u16Be p.version ++ [UInt8.ofNat p.inputs.length] ++ [UInt8.ofNat p.outputs.length] ++
    p.inputs.flatMap encodeOutPoint ++ p.outputs.flatMap encodeCommittedOutput

/-- mirrors crates/types/src/commitment.rs:49-51 -/
def commitment [Sha2] (p : CommitmentPreimage) : ByteArr 32 := doubleSha256 p.encode

end CommitmentPreimage

/-- The payload of an `OP_RETURN <data>` script. mirrors crates/types/src/commitment.rs:65-98 -/
def opReturnPayload (scriptPubkey : Bytes) : Option Bytes :=
  match scriptPubkey with
  | 0x6a :: script =>
    match script with
    | [] => none
    | op :: body =>
      let push : Option (Nat × Bytes) :=
        if 1 ≤ op ∧ op ≤ 0x4b then some (op.toNat, body)
        else if op = 0x4c then
          match body with
          | n :: rest => some (n.toNat, rest)
          | [] => none
        else if op = 0x4d then
          if 2 ≤ body.length then some (leNat (body.take 2), body.drop 2) else none
        else if op = 0x4e then
          if 4 ≤ body.length then some (leNat (body.take 4), body.drop 4) else none
        else none
      match push with
      | none => none
      | some (len, rest) => if rest.length < len then none else some (rest.take len)
  | _ => none

/-- The loop of `find_commitment`; `fallback` is the first bare 32-byte payload so far. -/
def findCommitmentFrom (fallback : Option (ByteArr 32)) : List Bytes → Option (ByteArr 32)
  | [] => fallback
  | script :: rest =>
    match opReturnPayload script with
    | none => findCommitmentFrom fallback rest
    | some payload =>
      let tagged := if payload.take 5 = RGBPP_TAG then ByteArr.ofBytes? 32 (payload.drop 5) else none
      match tagged with
      | some t => some t
      | none => findCommitmentFrom (fallback <|> ByteArr.ofBytes? 32 payload) rest

/-- mirrors crates/types/src/commitment.rs:104-123 -/
def findCommitment (scriptPubkeys : List Bytes) : Option (ByteArr 32) := findCommitmentFrom none scriptPubkeys

/-! ## Pre-images determine what they commit to -/

/-- The size headers of an output and of its data do not wrap. -/
def CommittedFits (o : CellOutput × Bytes) : Prop :=
  (encodeCellOutput o.1).length < 2 ^ 32 ∧ (encodeBytes o.2).length < 2 ^ 32

theorem uniqueParse_encodeCommittedOutput : UniqueParse CommittedFits encodeCommittedOutput :=
  uniqueParse_encodeCellOutput.append uniqueParse_encodeBytes

theorem CommitmentPreimage.encode_inj {p q : CommitmentPreimage} (hv : p.version = q.version)
    (hpi : p.inputs.length ≤ 255) (hqi : q.inputs.length ≤ 255)
    (hpo : p.outputs.length ≤ 255) (hqo : q.outputs.length ≤ 255)
    (hp : ∀ o ∈ p.outputs, CommittedFits o) (hq : ∀ o ∈ q.outputs, CommittedFits o)
    (h : p.encode = q.encode) : p = q := by
  obtain ⟨v, ins, outs⟩ := p
  obtain ⟨v', ins', outs'⟩ := q
  simp only at hv hpi hqi hpo hqo; subst hv
  simp only [encode, List.append_assoc] at h
  obtain ⟨-, h⟩ := List.append_inj h rfl
  obtain ⟨-, h⟩ := List.append_inj h rfl
  obtain ⟨hni, h⟩ := List.append_inj h rfl
  obtain ⟨hno, h⟩ := List.append_inj h rfl
  have count : ∀ m n : Nat, m ≤ 255 → n ≤ 255 → [UInt8.ofNat m] = [UInt8.ofNat n] → m = n := by
    intro m n hm hn he
    have hmn := congrArg UInt8.toNat (List.cons.inj he).1
    rw [UInt8.toNat_ofNat', UInt8.toNat_ofNat'] at hmn
    omega
  obtain ⟨rfl, h⟩ := uniqueParse_encodeOutPoint.flatten (fun _ _ => trivial) (fun _ _ => trivial)
    (count _ _ hpi hqi hni) h
  obtain ⟨rfl, -⟩ := uniqueParse_encodeCommittedOutput.flatten (s := []) (t := []) hp hq
    (count _ _ hpo hqo hno) (by simpa using h)
  rfl

/-- Next to one list of outputs, the bytes determine the inputs, in whatever number: each takes 36 bytes. -/
theorem CommitmentPreimage.inputs_of_encode {ins ins' : List CkbOutPoint} {outs : List (CellOutput × Bytes)}
    (h : (CommitmentPreimage.new ins outs).encode = (CommitmentPreimage.new ins' outs).encode) : ins = ins' := by
  have hsize : ∀ l : List CkbOutPoint, (l.flatMap encodeOutPoint).length = 36 * l.length := by
    intro l
    rw [List.length_flatMap]
    simp [Nat.mul_comm]
  have hlen := congrArg List.length h
  simp only [encode, new, List.length_append, List.length_cons, List.length_nil, hsize] at hlen
  have hcount : ins.length = ins'.length := by omega
  simp only [encode, new, hcount, List.append_assoc] at h
  simp only [List.append_cancel_left_eq] at h
  exact (uniqueParse_encodeOutPoint.flatten (fun _ _ => trivial) (fun _ _ => trivial) hcount h).1

/-! ## Digests -/

/-- Two different byte strings with one digest. -/
def Collides [Sha2] (a b : Bytes) : Prop := a ≠ b ∧ doubleSha256 a = doubleSha256 b

/-- Equal digests are of equal bytes, or a collision. -/
theorem doubleSha256_eq_iff [Sha2] {a b : Bytes} : doubleSha256 a = doubleSha256 b ↔ a = b ∨ Collides a b := by
  constructor
  · intro h
    by_cases hab : a = b
    · exact .inl hab
    · exact .inr ⟨hab, h⟩
  · rintro (rfl | ⟨-, h⟩)
    · rfl
    · exact h

end RgbppIndexer
