import RgbppIndexer.Types.Commitment

/-!
# Bytes after the push are ignored

`op_return_payload` "returns `None` for any script that is not
`OP_RETURN <data>`" (crates/types/src/commitment.rs:62-64), and a commitment
is "a bare 32-byte `OP_RETURN` payload" (commitment.rs:102). The parser checks
that the announced bytes are there (`rest.len() < len`) and returns them; what
stands behind them is not looked at.

* `opReturnPayloadAt_eq`: no slice or index of the parser is out of range.
* `opReturnPayload_eq_some_iff`: it reads the first push and allows any rest.
* `findCommitment_finds`: the scan itself is right, over the payloads it is given.
* `commitments_iff`: **scripts are read as one push and nothing else, exactly
  if none has bytes behind its push.**

Counterexample: `OP_RETURN` with a push of 32 bytes and one byte more. The script is
no commitment, and `find_commitment` returns the 32 bytes.

Fix: return the payload only if `rest.len() == len`.
-/
namespace RgbppIndexer.Bugs.TrailingPush

open RgbppIndexer.Core

/-! ## Scripts of one push -/

/-- The bytes that announce a push of `len` bytes: an opcode, and a little-endian length where the form has one. -/
inductive PushHeader (len : Nat) : Bytes → Prop
  | direct (h₁ : 1 ≤ len) (h₂ : len ≤ 75) : PushHeader len [UInt8.ofNat len]
  | pushdata1 (h : len < 256 ^ 1) : PushHeader len (0x4c :: leBytes 1 len)
  | pushdata2 (h : len < 256 ^ 2) : PushHeader len (0x4d :: leBytes 2 len)
  | pushdata4 (h : len < 256 ^ 4) : PushHeader len (0x4e :: leBytes 4 len)

/-- `OP_RETURN`, one push of `p`, and then `rest`. -/
def PushThen (script p rest : Bytes) : Prop :=
  ∃ header, PushHeader p.length header ∧ script = 0x6a :: (header ++ (p ++ rest))

/-- `OP_RETURN`, one push of `p` and nothing else. -/
def SinglePush (script p : Bytes) : Prop := PushThen script p []

/-- `OP_RETURN`, a complete push and at least one more byte. -/
def Trailing (script : Bytes) : Prop := ∃ p rest, rest ≠ [] ∧ PushThen script p rest

/-! ## The parser index by index -/

/-- The length the opcode announces, and what stands behind it; the outer `none` is the panic of a slice, while
`first` and `get` do not panic. mirrors crates/types/src/commitment.rs:72-93 -/
def pushAt (script : Bytes) : Option (Option (Nat × Bytes)) :=
  match script[0]? with
  | none => some none
  | some op =>
    if 1 ≤ op ∧ op ≤ 0x4b then do
      let rest ← slice? script 1 script.length
      return some (op.toNat, rest)
    else if op = 0x4c then
      match script[1]? with
      | none => some none
      | some n => do
        let rest ← slice? script 2 script.length
        return some (n.toNat, rest)
    else if op = 0x4d then
      match slice? script 1 3 with
      | none => some none
      | some bytes => do
        let rest ← slice? script 3 script.length
        return some (leNat bytes, rest)
    else if op = 0x4e then
      match slice? script 1 5 with
      | none => some none
      | some bytes => do
        let rest ← slice? script 5 script.length
        return some (leNat bytes, rest)
    else some none

/-- `op_return_payload` slice by slice. mirrors crates/types/src/commitment.rs:65-98 -/
def opReturnPayloadAt (scriptPubkey : Bytes) : Option (Option Bytes) :=
  match scriptPubkey with
  | 0x6a :: script => do
    let some (len, rest) ← pushAt script | return none
    if rest.length < len then
      return none
    let payload ← slice? rest 0 len
    return some payload
  | _ => some none

/-- The length and the rest in closed form, as `opReturnPayload` has them. -/
def pushOf : Bytes → Option (Nat × Bytes)
  | [] => none
  | op :: body =>
    if 1 ≤ op ∧ op ≤ 0x4b then some (op.toNat, body)
    else if op = 0x4c then
      match body with
      | n :: rest => some (n.toNat, rest)
      | [] => none
    else if op = 0x4d then
      if 2 ≤ body.length then some (leNat (body.take 2), body.drop 2) else none
    else if op = 0x4e then
      if 4 ≤ body.length then some (leNat (body.take 4), body.drop 4) else none
    else none

theorem pushOf_cons (op : UInt8) (body : Bytes) :
    pushOf (op :: body) =
      if 1 ≤ op ∧ op ≤ 0x4b then some (op.toNat, body)
      else if op = 0x4c then body.head?.map fun n => (n.toNat, body.tail)
      else if op = 0x4d then if 2 ≤ body.length then some (leNat (body.take 2), body.drop 2) else none
      else if op = 0x4e then if 4 ≤ body.length then some (leNat (body.take 4), body.drop 4) else none
      else none := by
  cases body <;> rfl

theorem opReturnPayload_cons (script : Bytes) :
    opReturnPayload (0x6a :: script) =
      (pushOf script).bind fun push => if push.2.length < push.1 then none else some (push.2.take push.1) := by
  cases script with
  | nil => rfl
  | cons op body =>
    simp only [opReturnPayload, pushOf]
    generalize (if 1 ≤ op ∧ op ≤ 0x4b then some (op.toNat, body) else _ : Option (Nat × Bytes)) = push
    cases push <;> rfl

theorem slice?_tail (op : UInt8) (body : Bytes) {n : Nat} (h : n ≤ body.length) :
    slice? (op :: body) 1 (n + 1) = some (body.take n) ∧
      slice? (op :: body) (n + 1) (op :: body).length = some (body.drop n) := by
  constructor
  · rw [slice?_eq _ (by omega) (by rw [List.length_cons]; omega), slice, List.take_succ_cons, List.drop_succ_cons,
      List.drop_zero]
  · rw [slice?_length _ (by rw [List.length_cons]; omega), List.drop_succ_cons]

theorem slice?_short (op : UInt8) (body : Bytes) {n : Nat} (h : ¬n ≤ body.length) : slice? (op :: body) 1 (n + 1) = none :=
  if_neg (by rw [List.length_cons]; omega)

theorem pushAt_eq (script : Bytes) : pushAt script = some (pushOf script) := by
  cases script with
  | nil => rfl
  | cons op body =>
    unfold pushAt pushOf
    simp only [List.getElem?_cons_zero, List.getElem?_cons_succ]
    split
    · rw [(slice?_tail op body (Nat.zero_le _)).2]; rfl
    split
    · cases body with
      | nil => rfl
      | cons n rest =>
        have hrest := (slice?_tail op (n :: rest) (Nat.le_add_left 1 rest.length)).2
        simp only [List.getElem?_cons_zero, hrest]
        rfl
    split
    · by_cases h : 2 ≤ body.length
      · simp only [(slice?_tail op body h).1, (slice?_tail op body h).2, if_pos h]; rfl
      · simp only [slice?_short op body h, if_neg h]
    split
    · by_cases h : 4 ≤ body.length
      · simp only [(slice?_tail op body h).1, (slice?_tail op body h).2, if_pos h]; rfl
      · simp only [slice?_short op body h, if_neg h]
    · rfl

/-- No slice of the parser is out of range, on any bytes. -/
theorem opReturnPayloadAt_eq (script : Bytes) : opReturnPayloadAt script = some (opReturnPayload script) := by
  by_cases h : ∃ tail, script = 0x6a :: tail
  · obtain ⟨tail, rfl⟩ := h
    rw [opReturnPayload_cons, opReturnPayloadAt, pushAt_eq]
    cases pushOf tail with
    | none => rfl
    | some push =>
      obtain ⟨len, rest⟩ := push
      simp only [Option.bind_eq_bind, Option.bind_some]
      by_cases hl : rest.length < len
      · rw [if_pos hl, if_pos hl]; rfl
      · rw [if_neg hl, if_neg hl, slice?_eq rest (by omega) (by omega), slice, List.drop_zero]; rfl
  · have hat : opReturnPayloadAt script = some none := by
      unfold opReturnPayloadAt
      split
      · next tail => exact absurd ⟨tail, rfl⟩ h
      · rfl
    have hpayload : opReturnPayload script = none := by
      unfold opReturnPayload
      split
      · next tail => exact absurd ⟨tail, rfl⟩ h
      · rfl
    rw [hat, hpayload]

/-! ## What the parser accepts -/

theorem leBytes_take (body : Bytes) {n : Nat} (h : n ≤ body.length) : leBytes n (leNat (body.take n)) = body.take n := by
  have hlen : (body.take n).length = n := by rw [List.length_take]; omega
  have hread := leBytes_leNat (body.take n)
  rwa [hlen] at hread

theorem leNat_take_lt (body : Bytes) {n : Nat} (h : n ≤ body.length) : leNat (body.take n) < 256 ^ n := by
  have hlen : (body.take n).length = n := by rw [List.length_take]; omega
  have hlt := leNat_lt (body.take n)
  rwa [hlen] at hlt

/-- The parser takes the header of a push off the script. -/
theorem pushOf_eq_some {script : Bytes} {len : Nat} {rest : Bytes} (h : pushOf script = some (len, rest)) :
    ∃ header, PushHeader len header ∧ script = header ++ rest := by
  cases script with
  | nil => cases h
  | cons op body =>
    rw [pushOf_cons] at h
    split at h
    · next hop =>
      obtain ⟨rfl, rfl⟩ := Prod.mk.inj (Option.some.inj h)
      have h₁ : 1 ≤ op.toNat := UInt8.le_iff_toNat_le.mp hop.1
      have h₂ : op.toNat ≤ 75 := UInt8.le_iff_toNat_le.mp hop.2
      exact ⟨[UInt8.ofNat op.toNat], .direct h₁ h₂, by rw [UInt8.ofNat_toNat, List.singleton_append]⟩
    split at h
    · next hop =>
      subst hop
      cases body with
      | nil => cases h
      | cons n tail =>
        obtain ⟨rfl, rfl⟩ := Prod.mk.inj (Option.some.inj h)
        exact ⟨0x4c :: leBytes 1 n.toNat, .pushdata1 n.toNat_lt, by simp only [leBytes, UInt8.ofNat_toNat]; rfl⟩
    split at h
    · next hop =>
      subst hop
      split at h
      · next hl =>
        obtain ⟨rfl, rfl⟩ := Prod.mk.inj (Option.some.inj h)
        exact ⟨0x4d :: leBytes 2 (leNat (body.take 2)), .pushdata2 (leNat_take_lt body hl), by
          rw [leBytes_take body hl, List.cons_append, List.take_append_drop]⟩
      · cases h
    split at h
    · next hop =>
      subst hop
      split at h
      · next hl =>
        obtain ⟨rfl, rfl⟩ := Prod.mk.inj (Option.some.inj h)
        exact ⟨0x4e :: leBytes 4 (leNat (body.take 4)), .pushdata4 (leNat_take_lt body hl), by
          rw [leBytes_take body hl, List.cons_append, List.take_append_drop]⟩
      · cases h
    · cases h

theorem pushOf_header {header : Bytes} {len : Nat} (h : PushHeader len header) (rest : Bytes) :
    pushOf (header ++ rest) = some (len, rest) := by
  have hword : ∀ n, len < 256 ^ n → leNat (leBytes n len) = len := fun n hn => by
    rw [leNat_leBytes, Nat.mod_eq_of_lt hn]
  cases h with
  | direct h₁ h₂ =>
    have hlen : (UInt8.ofNat len).toNat = len := by rw [UInt8.toNat_ofNat']; omega
    have hop : 1 ≤ UInt8.ofNat len ∧ UInt8.ofNat len ≤ 0x4b :=
      ⟨UInt8.le_iff_toNat_le.mpr (by rw [hlen]; exact h₁), UInt8.le_iff_toNat_le.mpr (by rw [hlen]; exact h₂)⟩
    rw [List.singleton_append, pushOf_cons, if_pos hop, hlen]
  | pushdata1 h =>
    have hlen : (UInt8.ofNat len).toNat = len := by rw [UInt8.toNat_ofNat']; omega
    have hbody : pushOf ((0x4c :: leBytes 1 len) ++ rest) = some ((UInt8.ofNat len).toNat, rest) := rfl
    rw [hbody, hlen]
  | pushdata2 h =>
    have hl : 2 ≤ (leBytes 2 len ++ rest).length := by rw [List.length_append, leBytes_length]; omega
    have hbody : pushOf ((0x4d :: leBytes 2 len) ++ rest) =
        if 2 ≤ (leBytes 2 len ++ rest).length then
          some (leNat ((leBytes 2 len ++ rest).take 2), (leBytes 2 len ++ rest).drop 2) else none := rfl
    rw [hbody, if_pos hl, List.take_left' (leBytes_length 2 len), List.drop_left' (leBytes_length 2 len), hword 2 h]
  | pushdata4 h =>
    have hl : 4 ≤ (leBytes 4 len ++ rest).length := by rw [List.length_append, leBytes_length]; omega
    have hbody : pushOf ((0x4e :: leBytes 4 len) ++ rest) =
        if 4 ≤ (leBytes 4 len ++ rest).length then
          some (leNat ((leBytes 4 len ++ rest).take 4), (leBytes 4 len ++ rest).drop 4) else none := rfl
    rw [hbody, if_pos hl, List.take_left' (leBytes_length 4 len), List.drop_left' (leBytes_length 4 len), hword 4 h]

/-- The parser reads the first push, whatever stands behind it. -/
theorem opReturnPayload_eq_some_iff (script p : Bytes) :
    opReturnPayload script = some p ↔ ∃ rest, PushThen script p rest := by
  constructor
  · intro h
    obtain ⟨tail, rfl⟩ : ∃ tail, script = 0x6a :: tail := by
      unfold opReturnPayload at h
      split at h
      · next tail => exact ⟨tail, rfl⟩
      · cases h
    rw [opReturnPayload_cons] at h
    obtain ⟨⟨len, body⟩, hpush, hp⟩ := Option.bind_eq_some_iff.mp h
    obtain ⟨header, hheader, rfl⟩ := pushOf_eq_some hpush
    simp only [Option.ite_none_left_eq_some, not_lt, Option.some.injEq] at hp
    obtain ⟨hlen, rfl⟩ := hp
    refine ⟨body.drop len, header, ?_, by rw [List.take_append_drop]⟩
    rw [List.length_take, Nat.min_eq_left hlen]
    exact hheader
  · rintro ⟨rest, header, hheader, rfl⟩
    rw [opReturnPayload_cons, pushOf_header hheader, Option.bind_some, if_neg (by simp), List.take_left]

/-- What stands behind a push is determined by the script. -/
theorem PushThen.rest_unique {script p rest rest' : Bytes} (h : PushThen script p rest) (h' : PushThen script p rest') :
    rest = rest' := by
  obtain ⟨header, hheader, hs⟩ := h
  obtain ⟨header', hheader', hs'⟩ := h'
  have hsame : header ++ (p ++ rest) = header' ++ (p ++ rest') := (List.cons.inj (hs.symm.trans hs')).2
  have hread := pushOf_header hheader (p ++ rest)
  rw [hsame, pushOf_header hheader'] at hread
  exact (List.append_cancel_left (Prod.mk.inj (Option.some.inj hread)).2).symm

/-- A script is read as one push and nothing else, exactly if it has no bytes behind its push. -/
theorem reads_iff (script : Bytes) :
    (∀ p, opReturnPayload script = some p ↔ SinglePush script p) ↔ ¬Trailing script := by
  constructor
  · rintro h ⟨p, rest, hne, hpush⟩
    have hsingle := (h p).mp ((opReturnPayload_eq_some_iff script p).mpr ⟨rest, hpush⟩)
    exact hne (hpush.rest_unique hsingle)
  · intro h p
    rw [opReturnPayload_eq_some_iff]
    constructor
    · rintro ⟨rest, hpush⟩
      have hempty : rest = [] := by
        by_contra hne
        exact h ⟨p, rest, hne, hpush⟩
      rw [hempty] at hpush
      exact hpush
    · intro hsingle
      exact ⟨[], hsingle⟩

/-! ## The scan over the outputs -/

/-- What a scan over the scripts returns if `pays` says which payload a
script has: the 32 bytes after the tag of the first tagged payload, or else
the first payload of 32 bytes. -/
inductive Finds (pays : Bytes → Bytes → Prop) (scripts : List Bytes) : Option (ByteArr 32) → Prop
  | tagged {before after : List Bytes} {script : Bytes} {c : ByteArr 32} (h : scripts = before ++ script :: after)
      (hpays : pays script (RGBPP_TAG ++ c.bytes)) (hfirst : ∀ s ∈ before, ∀ d : ByteArr 32, ¬pays s (RGBPP_TAG ++ d.bytes)) :
      Finds pays scripts (some c)
  | bare {before after : List Bytes} {script : Bytes} {c : ByteArr 32}
      (huntagged : ∀ s ∈ scripts, ∀ d : ByteArr 32, ¬pays s (RGBPP_TAG ++ d.bytes))
      (h : scripts = before ++ script :: after) (hpays : pays script c.bytes)
      (hfirst : ∀ s ∈ before, ∀ d : ByteArr 32, ¬pays s d.bytes) : Finds pays scripts (some c)
  | none (huntagged : ∀ s ∈ scripts, ∀ d : ByteArr 32, ¬pays s (RGBPP_TAG ++ d.bytes))
      (hbare : ∀ s ∈ scripts, ∀ d : ByteArr 32, ¬pays s d.bytes) : Finds pays scripts none

theorem Finds.congr {pays pays' : Bytes → Bytes → Prop} {scripts : List Bytes} {r : Option (ByteArr 32)}
    (h : Finds pays scripts r) (hsame : ∀ s ∈ scripts, ∀ p, pays s p ↔ pays' s p) : Finds pays' scripts r := by
  cases h with
  | tagged h hpays hfirst =>
    subst h
    exact .tagged rfl ((hsame _ (by simp) _).mp hpays)
      fun s hs d hd => hfirst s hs d ((hsame s (List.mem_append_left _ hs) _).mpr hd)
  | bare huntagged h hpays hfirst =>
    refine .bare (fun s hs d hd => huntagged s hs d ((hsame s hs _).mpr hd)) h ((hsame _ (by simp [h]) _).mp hpays) ?_
    exact fun s hs d hd => hfirst s hs d ((hsame s (by rw [h]; exact List.mem_append_left _ hs) _).mpr hd)
  | none huntagged hbare =>
    exact .none (fun s hs d hd => huntagged s hs d ((hsame s hs _).mpr hd))
      fun s hs d hd => hbare s hs d ((hsame s hs _).mpr hd)

/-- The tagged commitment of one script. -/
def taggedOf (script : Bytes) : Option (ByteArr 32) :=
  (opReturnPayload script).bind fun p => if p.take 5 = RGBPP_TAG then ByteArr.ofBytes? 32 (p.drop 5) else none

/-- The bare commitment of one script. -/
def bareOf (script : Bytes) : Option (ByteArr 32) := (opReturnPayload script).bind (ByteArr.ofBytes? 32)

theorem ofBytes?_eq_some_iff {n : Nat} {b : Bytes} {a : ByteArr n} : ByteArr.ofBytes? n b = some a ↔ b = a.bytes := by
  constructor
  · intro h
    unfold ByteArr.ofBytes? at h
    split at h
    · rw [← Option.some.inj h]
    · cases h
  · rintro rfl
    exact ByteArr.ofBytes?_bytes a

theorem taggedOf_eq_some_iff (script : Bytes) (c : ByteArr 32) :
    taggedOf script = some c ↔ opReturnPayload script = some (RGBPP_TAG ++ c.bytes) := by
  rw [taggedOf, Option.bind_eq_some_iff]
  constructor
  · rintro ⟨p, hp, hc⟩
    rw [Option.ite_none_right_eq_some, ofBytes?_eq_some_iff] at hc
    rw [hp, ← hc.1, ← hc.2, List.take_append_drop]
  · intro h
    refine ⟨_, h, ?_⟩
    have htag : RGBPP_TAG.length = 5 := rfl
    rw [List.take_left' htag, if_pos rfl, List.drop_left' htag, ByteArr.ofBytes?_bytes]

theorem bareOf_eq_some_iff (script : Bytes) (c : ByteArr 32) :
    bareOf script = some c ↔ opReturnPayload script = some c.bytes := by
  rw [bareOf, Option.bind_eq_some_iff]
  constructor
  · rintro ⟨p, hp, hc⟩
    rw [hp, ofBytes?_eq_some_iff.mp hc]
  · intro h
    exact ⟨_, h, ByteArr.ofBytes?_bytes c⟩

/-- The loop returns at the first tagged payload and carries the first bare one. -/
theorem findCommitmentFrom_eq (fallback : Option (ByteArr 32)) (scripts : List Bytes) :
    findCommitmentFrom fallback scripts =
      (scripts.findSome? taggedOf).or (fallback.or (scripts.findSome? bareOf)) := by
  induction scripts generalizing fallback with
  | nil => rw [findCommitmentFrom, List.findSome?_nil, List.findSome?_nil, Option.none_or, Option.or_none]
  | cons script rest ih =>
    rw [List.findSome?_cons, List.findSome?_cons, findCommitmentFrom, taggedOf, bareOf]
    cases opReturnPayload script with
    | none => exact ih fallback
    | some payload =>
      simp only [Option.bind_some]
      cases (if payload.take 5 = RGBPP_TAG then ByteArr.ofBytes? 32 (payload.drop 5) else none : Option (ByteArr 32)) with
      | some c => rfl
      | none =>
        simp only [ih]
        cases fallback <;> cases ByteArr.ofBytes? 32 payload <;> rfl

theorem findCommitment_finds (scripts : List Bytes) :
    Finds (fun script p => opReturnPayload script = some p) scripts (findCommitment scripts) := by
  have huntagged : scripts.findSome? taggedOf = none →
      ∀ s ∈ scripts, ∀ d : ByteArr 32, ¬opReturnPayload s = some (RGBPP_TAG ++ d.bytes) := by
    intro h s hs d hd
    rw [← taggedOf_eq_some_iff, List.findSome?_eq_none_iff.mp h s hs] at hd
    cases hd
  rw [findCommitment, findCommitmentFrom_eq, Option.none_or]
  cases htagged : scripts.findSome? taggedOf with
  | some c =>
    obtain ⟨before, script, after, h, hc, hbefore⟩ := List.findSome?_eq_some_iff.mp htagged
    refine .tagged h ((taggedOf_eq_some_iff _ _).mp hc) fun s hs d hd => ?_
    rw [← taggedOf_eq_some_iff, hbefore s hs] at hd
    cases hd
  | none =>
    rw [Option.none_or]
    cases hbare : scripts.findSome? bareOf with
    | some c =>
      obtain ⟨before, script, after, h, hc, hbefore⟩ := List.findSome?_eq_some_iff.mp hbare
      refine .bare (huntagged htagged) h ((bareOf_eq_some_iff _ _).mp hc) fun s hs d hd => ?_
      rw [← bareOf_eq_some_iff, hbefore s hs] at hd
      cases hd
    | none =>
      refine .none (huntagged htagged) fun s hs d hd => ?_
      rw [← bareOf_eq_some_iff, List.findSome?_eq_none_iff.mp hbare s hs] at hd
      cases hd

/-! ## Commitments of transactions -/

/-- The outputs of a transaction are read as the docs say. -/
structure ReadsCommitments (scripts : List Bytes) : Prop where
  inRange : ∀ s ∈ scripts, opReturnPayloadAt s ≠ none
  payloads : ∀ s ∈ scripts, ∀ p, opReturnPayload s = some p ↔ SinglePush s p
  found : Finds SinglePush scripts (findCommitment scripts)

/-- No slice is out of range and the scan is right over the payloads it is
given, on all scripts. What is read is a single push, and so what is found a
commitment, exactly if no script has bytes behind its push. -/
theorem commitments_iff (scripts : List Bytes) :
    Finds (fun script p => opReturnPayload script = some p) scripts (findCommitment scripts) ∧
      (ReadsCommitments scripts ↔ ∀ s ∈ scripts, ¬Trailing s) := by
  refine ⟨findCommitment_finds scripts, fun h s hs => (reads_iff s).mp (h.payloads s hs), fun h => ?_⟩
  have hreads : ∀ s ∈ scripts, ∀ p, opReturnPayload s = some p ↔ SinglePush s p := fun s hs => (reads_iff s).mpr (h s hs)
  refine ⟨fun s _ => ?_, hreads, (findCommitment_finds scripts).congr hreads⟩
  rw [opReturnPayloadAt_eq]
  exact Option.some_ne_none _

/-- A push of 32 bytes, and `OP_1` behind it. -/
def paddedScript : Bytes := [0x6a, 0x20] ++ List.replicate 32 0xab ++ [0x51]

/-- **Counterexample**: no script of the transaction is a single push, and a commitment is found. -/
theorem padded_is_read :
    (∀ p, ¬SinglePush paddedScript p) ∧ findCommitment [paddedScript] = some (ByteArr.filled 32 0xab) ∧
      ¬ReadsCommitments [paddedScript] := by
  have hthen : PushThen paddedScript (List.replicate 32 0xab) [0x51] :=
    ⟨[0x20], .direct (by decide) (by decide), rfl⟩
  have hnot : ∀ p, ¬SinglePush paddedScript p := by
    intro p hp
    have hpayload := (opReturnPayload_eq_some_iff _ _).mpr ⟨_, hp⟩
    rw [(opReturnPayload_eq_some_iff _ _).mpr ⟨_, hthen⟩, Option.some.injEq] at hpayload
    subst hpayload
    exact absurd (hthen.rest_unique hp) (by decide)
  refine ⟨hnot, by decide, fun h => ?_⟩
  exact hnot _ ((h.payloads _ (by simp) _).mp ((opReturnPayload_eq_some_iff _ _).mpr ⟨_, hthen⟩))

end RgbppIndexer.Bugs.TrailingPush
