import RgbppIndexer.Core.Bytes

/-!
# SHA-256 and BLAKE2b

The two hash functions the program takes from crates (`sha2`,
`blake2b_simd`), executable, after FIPS 180-4 and RFC 7693. Nothing is
proved about their output: results that mention a digest hold for whatever
function computes it. They are here so that a concrete run can be evaluated.
-/
namespace RgbppIndexer.Core

/-! ## SHA-256 -/
namespace Sha256

def K : List UInt32 :=
  [0x428a2f98, 0x71374491, 0xb5c0fbcf, 0xe9b5dba5, 0x3956c25b, 0x59f111f1, 0x923f82a4, 0xab1c5ed5,
   0xd807aa98, 0x12835b01, 0x243185be, 0x550c7dc3, 0x72be5d74, 0x80deb1fe, 0x9bdc06a7, 0xc19bf174,
   0xe49b69c1, 0xefbe4786, 0x0fc19dc6, 0x240ca1cc, 0x2de92c6f, 0x4a7484aa, 0x5cb0a9dc, 0x76f988da,
   0x983e5152, 0xa831c66d, 0xb00327c8, 0xbf597fc7, 0xc6e00bf3, 0xd5a79147, 0x06ca6351, 0x14292967,
   0x27b70a85, 0x2e1b2138, 0x4d2c6dfc, 0x53380d13, 0x650a7354, 0x766a0abb, 0x81c2c92e, 0x92722c85,
   0xa2bfe8a1, 0xa81a664b, 0xc24b8b70, 0xc76c51a3, 0xd192e819, 0xd6990624, 0xf40e3585, 0x106aa070,
   0x19a4c116, 0x1e376c08, 0x2748774c, 0x34b0bcb5, 0x391c0cb3, 0x4ed8aa4a, 0x5b9cca4f, 0x682e6ff3,
   0x748f82ee, 0x78a5636f, 0x84c87814, 0x8cc70208, 0x90befffa, 0xa4506ceb, 0xbef9a3f7, 0xc67178f2]

/-- The eight chaining words. -/
structure State where
  a : UInt32
  b : UInt32
  c : UInt32
  d : UInt32
  e : UInt32
  f : UInt32
  g : UInt32
  h : UInt32

def initial : State :=
  ⟨0x6a09e667, 0xbb67ae85, 0x3c6ef372, 0xa54ff53a, 0x510e527f, 0x9b05688c, 0x1f83d9ab, 0x5be0cd19⟩

def rotr (x n : UInt32) : UInt32 := (x >>> n) ||| (x <<< (32 - n))

def round (s : State) (kw : UInt32) : State :=
  let t1 := s.h + (rotr s.e 6 ^^^ rotr s.e 11 ^^^ rotr s.e 25) + ((s.e &&& s.f) ^^^ (~~~s.e &&& s.g)) + kw
  let t2 := (rotr s.a 2 ^^^ rotr s.a 13 ^^^ rotr s.a 22) +
    ((s.a &&& s.b) ^^^ (s.a &&& s.c) ^^^ (s.b &&& s.c))
  ⟨t1 + t2, s.a, s.b, s.c, s.d + t1, s.e, s.f, s.g⟩

/-- The message schedule: `n` further words, over the last sixteen, which are
kept oldest first in `w`. -/
def schedule : Nat → List UInt32 → List UInt32
  | n + 1, w0 :: w =>
    let w1 := w.getD 0 0
    let w14 := w.getD 13 0
    let s0 := rotr w1 7 ^^^ rotr w1 18 ^^^ (w1 >>> 3)
    let s1 := rotr w14 17 ^^^ rotr w14 19 ^^^ (w14 >>> 10)
    w0 :: schedule n (w ++ [w0 + s0 + w.getD 8 0 + s1])
  | _, w => w

/-- Big-endian words of a block. -/
def words : Bytes → List UInt32
  | a :: b :: c :: d :: rest =>
    ((a.toUInt32 <<< 24) ||| (b.toUInt32 <<< 16) ||| (c.toUInt32 <<< 8) ||| d.toUInt32) :: words rest
  | _ => []

def compress (s : State) (block : Bytes) : State :=
  let r := (List.zipWith (· + ·) K (schedule 48 (words block))).foldl round s
  ⟨s.a + r.a, s.b + r.b, s.c + r.c, s.d + r.d, s.e + r.e, s.f + r.f, s.g + r.g, s.h + r.h⟩

/-- The message with its padding: `0x80`, zeros, the bit length in eight bytes. -/
def pad (m : Bytes) : Bytes :=
  m ++ 0x80 :: List.replicate ((119 - m.length % 64) % 64) 0 ++ (leBytes 8 (8 * m.length)).reverse

/-- Compress `n` blocks of 64 bytes. -/
def blocks : Nat → State → Bytes → State
  | 0, s, _ => s
  | n + 1, s, m => blocks n (compress s (m.take 64)) (m.drop 64)

def State.words (s : State) : List UInt32 := [s.a, s.b, s.c, s.d, s.e, s.f, s.g, s.h]

/-- The digest. -/
def digest (m : Bytes) : ByteArr 32 where
  bytes :=
    let p := pad m
    (blocks (p.length / 64) initial p).words.flatMap fun w => (leBytes 4 w.toNat).reverse
  length_eq := by simp [State.words]

example : digest [0x61, 0x62, 0x63] =
    ⟨[0xba, 0x78, 0x16, 0xbf, 0x8f, 0x01, 0xcf, 0xea, 0x41, 0x41, 0x40, 0xde, 0x5d, 0xae, 0x22, 0x23,
      0xb0, 0x03, 0x61, 0xa3, 0x96, 0x17, 0x7a, 0x9c, 0xb4, 0x10, 0xff, 0x61, 0xf2, 0x00, 0x15, 0xad], rfl⟩ := by
  decide +kernel

end Sha256

/-! ## BLAKE2b with a 32 byte digest and a personalisation -/
namespace Blake2b

def IV : List UInt64 :=
  [0x6a09e667f3bcc908, 0xbb67ae8584caa73b, 0x3c6ef372fe94f82b, 0xa54ff53a5f1d36f1,
   0x510e527fade682d1, 0x9b05688c2b3e6c1f, 0x1f83d9abfb41bd6b, 0x5be0cd19137e2179]

def sigma : List (List Nat) :=
  [[0, 1, 2, 3, 4, 5, 6, 7, 8, 9, 10, 11, 12, 13, 14, 15],
   [14, 10, 4, 8, 9, 15, 13, 6, 1, 12, 0, 2, 11, 7, 5, 3],
   [11, 8, 12, 0, 5, 2, 15, 13, 10, 14, 3, 6, 7, 1, 9, 4],
   [7, 9, 3, 1, 13, 12, 11, 14, 2, 6, 5, 10, 4, 0, 15, 8],
   [9, 0, 5, 7, 2, 4, 10, 15, 14, 1, 11, 12, 6, 8, 3, 13],
   [2, 12, 6, 10, 0, 11, 8, 3, 4, 13, 7, 5, 15, 14, 1, 9],
   [12, 5, 1, 15, 14, 13, 4, 10, 0, 7, 6, 3, 9, 2, 8, 11],
   [13, 11, 7, 14, 12, 1, 3, 9, 5, 0, 15, 4, 8, 6, 2, 10],
   [6, 15, 14, 9, 11, 3, 0, 8, 12, 2, 13, 7, 1, 4, 10, 5],
   [10, 2, 8, 4, 7, 6, 1, 5, 15, 11, 9, 14, 3, 12, 13, 0],
   [0, 1, 2, 3, 4, 5, 6, 7, 8, 9, 10, 11, 12, 13, 14, 15],
   [14, 10, 4, 8, 9, 15, 13, 6, 1, 12, 0, 2, 11, 7, 5, 3]]

def rotr (x n : UInt64) : UInt64 := (x >>> n) ||| (x <<< (64 - n))

/-- The mixing function on positions `a b c d` of the work vector. -/
def G (v : List UInt64) (a b c d : Nat) (x y : UInt64) : List UInt64 :=
  let a1 := v.getD a 0 + v.getD b 0 + x
  let d1 := rotr (v.getD d 0 ^^^ a1) 32
  let c1 := v.getD c 0 + d1
  let b1 := rotr (v.getD b 0 ^^^ c1) 24
  let a2 := a1 + b1 + y
  let d2 := rotr (d1 ^^^ a2) 16
  let c2 := c1 + d2
  let b2 := rotr (b1 ^^^ c2) 63
  (((v.set a a2).set b b2).set c c2).set d d2

def round (m : List UInt64) (v : List UInt64) (s : List Nat) : List UInt64 :=
  let w i := m.getD (s.getD i 0) 0
  let v := G v 0 4 8 12 (w 0) (w 1)
  let v := G v 1 5 9 13 (w 2) (w 3)
  let v := G v 2 6 10 14 (w 4) (w 5)
  let v := G v 3 7 11 15 (w 6) (w 7)
  let v := G v 0 5 10 15 (w 8) (w 9)
  let v := G v 1 6 11 12 (w 10) (w 11)
  let v := G v 2 7 8 13 (w 12) (w 13)
  G v 3 4 9 14 (w 14) (w 15)

/-- Little-endian words of a block. -/
def words : Nat → Bytes → List UInt64
  | 0, _ => []
  | n + 1, b => UInt64.ofNat (leNat (b.take 8)) :: words n (b.drop 8)

/-- `t` counts the bytes hashed so far; `last` marks the final block. -/
def compress (h : List UInt64) (block : Bytes) (t : Nat) (last : Bool) : List UInt64 :=
  let v := h ++ IV
  let v := v.set 12 (v.getD 12 0 ^^^ UInt64.ofNat t)
  let v := if last then v.set 14 (~~~(v.getD 14 0)) else v
  let v := sigma.foldl (round (words 16 block)) v
  List.zipWith (· ^^^ ·) h (List.zipWith (· ^^^ ·) (v.take 8) (v.drop 8))

def blocks : Nat → List UInt64 → Nat → Bytes → List UInt64
  | 0, h, _, _ => h
  | n + 1, h, t, m =>
    if m.length ≤ 128 then compress h (m ++ List.replicate (128 - m.length) 0) (t + m.length) true
    else blocks n (compress h (m.take 128) (t + 128) false) (t + 128) (m.drop 128)

/-- The parameter block: digest length 32, no key, sequential mode, and the personalisation. -/
def initial (personal : Bytes) : List UInt64 :=
  let p := [0x20, 0, 1, 1] ++ List.replicate 44 0 ++ personal
  List.zipWith (· ^^^ ·) IV (words 8 p)

def digest (personal m : Bytes) : ByteArr 32 where
  bytes := leBytes 32 ((blocks (m.length / 128 + 1) (initial personal) 0 m).foldr
    (fun w acc => w.toNat + 2 ^ 64 * acc) 0)
  length_eq := leBytes_length 32 _

example : digest [0x63, 0x6b, 0x62, 0x2d, 0x64, 0x65, 0x66, 0x61,
    0x75, 0x6c, 0x74, 0x2d, 0x68, 0x61, 0x73, 0x68] [] =
    ⟨[0x44, 0xf4, 0xc6, 0x97, 0x44, 0xd5, 0xf8, 0xc5, 0x5d, 0x64, 0x20, 0x62, 0x94, 0x9d, 0xca, 0xe4,
      0x9b, 0xc4, 0xe7, 0xef, 0x43, 0xd3, 0x88, 0xc5, 0xa1, 0x2f, 0x42, 0xb5, 0x63, 0x3d, 0x16, 0x3e], rfl⟩ := by
  decide +kernel

end Blake2b

end RgbppIndexer.Core
