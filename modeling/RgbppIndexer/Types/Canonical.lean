import RgbppIndexer.Types.Protocol

/-!
# Parsers that accept exactly what the encoders write

`Types.Molecule` and `Types.Protocol` show that re-encoding what was parsed
gives the bytes back. Here is the other direction, and the two points the
closed forms there pass over: whether the index arithmetic of the decoder
stays inside the data, and the table assembly `BtcTimeLockArgs::encode`
spells out for itself.

* `readTableFieldsAt_eq`: the decoder read index by index, with every slice
  checked, never panics and computes `readTableFields`.
* `readTableFields_encodeTable`, `decodeScript_encodeScript`,
  `BtcTimeLockArgs.parse_encode`: what fits the 32-bit size header reads back.
* `BtcTimeLockArgs.assemble_eq_encode`: the hand-written assembly is the
  table encoder.
-/
namespace RgbppIndexer

open RgbppIndexer.Core

/-! ## The decoder index by index -/

/-- The loop that collects the `n` offset words from number `i` on. mirrors crates/types/src/molecule.rs:153-156 -/
def pushOffsets (data : Bytes) (i : Nat) (offsets : List Nat) : Nat → Option (List Nat)
  | 0 => some offsets
  | n + 1 => do
    let start := 4 + i * 4
    let word ← slice? data start (start + 4)
    pushOffsets data (i + 1) (offsets ++ [(u32OfLe word).toNat]) n

/-- The loop that cuts the `n` fields from number `i` on. mirrors crates/types/src/molecule.rs:160-169 -/
def pushFields (data : Bytes) (fullSize : Nat) (offsets : List Nat) (i : Nat) (fields : List Bytes) :
    Nat → Option (Except TypesError (List Bytes))
  | 0 => some (.ok fields)
  | n + 1 => do
    let start ← offsets[i]?
    let stop ← offsets[i + 1]?
    if start > stop ∨ stop > fullSize then
      return .error (.malformed "molecule table" s!"field {i} has invalid range {start}..{stop}")
    let field ← slice? data start stop
    pushFields data fullSize offsets (i + 1) (fields ++ [field]) n

/-- `read_table_fields` with the panic of each index as `none`.
mirrors crates/types/src/molecule.rs:123-171 -/
def readTableFieldsAt (data : Bytes) : Option (Except TypesError (List Bytes)) := do
  if data.length < 4 then
    return .error (.malformed "molecule table" "shorter than the size header")
  let header ← slice? data 0 4
  let fullSize := (u32OfLe header).toNat
  if fullSize ≠ data.length then
    return .error (.malformed "molecule table" s!"size header {fullSize} != actual length {data.length}")
  if fullSize = 4 then
    return .ok []
  if data.length < 8 then
    return .error (.malformed "molecule table" "missing first offset")
  let word ← slice? data 4 8
  let firstOffset := (u32OfLe word).toNat
  if firstOffset < 8 ∨ firstOffset % 4 ≠ 0 ∨ firstOffset > fullSize then
    return .error (.malformed "molecule table" s!"implausible first offset {firstOffset}")
  let fieldCount := (firstOffset - 4) / 4
  let offsets ← pushOffsets data 0 [] fieldCount
  pushFields data fullSize (offsets ++ [fullSize]) 0 [] fieldCount

/-- The offset words stand between the size header and the first field. -/
theorem pushOffsets_eq (data : Bytes) (n i : Nat) (offsets : List Nat) (h : 4 + 4 * (i + n) ≤ data.length) :
    pushOffsets data i offsets n = some (offsets ++ readOffsets n (data.drop (4 + 4 * i))) := by
  induction n generalizing i offsets with
  | zero => simp only [pushOffsets, readOffsets, List.append_nil]
  | succ n ih =>
    have hword : slice? data (4 + i * 4) (4 + i * 4 + 4) = some ((data.drop (4 + 4 * i)).take 4) := by
      rw [slice?_eq data (by omega) (by omega), slice, List.drop_take, Nat.add_sub_cancel_left, Nat.mul_comm i 4]
    have hrest : (data.drop (4 + 4 * i)).drop 4 = data.drop (4 + 4 * (i + 1)) := by
      rw [List.drop_drop]; congr 1
    simp only [pushOffsets, hword, Option.bind_eq_bind, Option.bind_some]
    rw [ih (i + 1) _ (by omega), readOffsets, hrest, List.append_assoc, List.singleton_append]

/-- With one more offset than fields to cut, every index is there, and the
range check comes before the slice. -/
theorem pushFields_eq (data : Bytes) (offsets : List Nat) (n i : Nat) (fields : List Bytes)
    (h : offsets.length = i + n + 1) :
    pushFields data data.length offsets i fields n =
      some ((cutFields data data.length i (offsets.drop i)).map (fields ++ ·)) := by
  induction n generalizing i fields with
  | zero =>
    obtain ⟨last, hlast⟩ : ∃ last, offsets.drop i = [last] := by
      rw [← List.length_eq_one_iff, List.length_drop]; omega
    simp only [pushFields, hlast, cutFields, Except.map, List.append_nil]
  | succ n ih =>
    have hi : i < offsets.length := by omega
    have hj : i + 1 < offsets.length := by omega
    have hdrop : offsets.drop i = offsets[i] :: offsets[i + 1] :: offsets.drop (i + 2) := by
      rw [List.drop_eq_getElem_cons hi, List.drop_eq_getElem_cons hj]
    have hnext : offsets.drop (i + 1) = offsets[i + 1] :: offsets.drop (i + 2) := List.drop_eq_getElem_cons hj
    simp only [pushFields, List.getElem?_eq_getElem hi, List.getElem?_eq_getElem hj, Option.bind_eq_bind,
      Option.bind_some]
    rw [hdrop, cutFields]
    by_cases hr : offsets[i] > offsets[i + 1] ∨ offsets[i + 1] > data.length
    · rw [if_pos hr, if_pos hr]
      rfl
    · rw [if_neg hr, if_neg hr, slice?_eq data (by omega) (by omega), Option.bind_some, ih (i + 1) _ (by omega), hnext]
      cases cutFields data data.length (i + 1) (offsets[i + 1] :: offsets.drop (i + 2)) with
      | error e => rfl
      | ok rest => simp only [Except.map, List.append_assoc, List.singleton_append]

theorem readOffsets_length (n : Nat) (b : Bytes) : (readOffsets n b).length = n := by
  induction n generalizing b with
  | zero => rfl
  | succ n ih => rw [readOffsets, List.length_cons, ih]

/-- No index of the decoder is out of range, on any bytes. -/
theorem readTableFieldsAt_eq (data : Bytes) : readTableFieldsAt data = some (readTableFields data) := by
  unfold readTableFieldsAt readTableFields
  by_cases h4 : data.length < 4
  · rw [if_pos h4, if_pos h4]; rfl
  rw [if_neg h4, if_neg h4, slice?_eq data (by omega) (by omega)]
  simp only [slice, List.drop_zero, Option.bind_eq_bind, Option.bind_some]
  by_cases hsize : (u32OfLe (data.take 4)).toNat ≠ data.length
  · rw [if_pos hsize, if_pos hsize]; rfl
  rw [if_neg hsize, if_neg hsize]
  rw [not_not] at hsize
  by_cases hempty : (u32OfLe (data.take 4)).toNat = 4
  · rw [if_pos hempty, if_pos hempty]; rfl
  rw [if_neg hempty, if_neg hempty]
  by_cases h8 : data.length < 8
  · rw [if_pos h8, if_pos h8]; rfl
  have hword : slice? data 4 8 = some ((data.drop 4).take 4) := by
    rw [slice?_eq data (by omega) (by omega), slice, List.drop_take]
  rw [if_neg h8, if_neg h8, hword, Option.bind_some, hsize]
  generalize (u32OfLe ((data.drop 4).take 4)).toNat = firstOffset
  by_cases hfirst : firstOffset < 8 ∨ firstOffset % 4 ≠ 0 ∨ firstOffset > data.length
  · rw [if_pos hfirst, if_pos hfirst]; rfl
  rw [if_neg hfirst, if_neg hfirst, pushOffsets_eq data _ 0 [] (by omega), Option.bind_some, List.nil_append,
    pushFields_eq data _ _ 0 [] (by rw [List.length_append, readOffsets_length, List.length_singleton]; omega), List.drop_zero]
  cases cutFields data data.length 0 (readOffsets ((firstOffset - 4) / 4) (data.drop 4) ++ [data.length]) with
  | error e => rfl
  | ok fields => rfl

/-! ## The decoder reads what the encoder writes -/

/-- Where the fields of a table start, from `offset` on, and where the last one ends. -/
def fieldBounds (offset : Nat) : List Bytes → List Nat
  | [] => [offset]
  | field :: fields => offset :: fieldBounds (offset + field.length) fields

theorem fieldBounds_eq_cons (offset : Nat) (fields : List Bytes) :
    ∃ rest, fieldBounds offset fields = offset :: rest := by
  cases fields with
  | nil => exact ⟨[], rfl⟩
  | cons f fs => exact ⟨fieldBounds (offset + f.length) fs, rfl⟩

/-- The offset words read back as the starts of the fields, while none wraps. -/
theorem readOffsets_tableOffsets (fields : List Bytes) (offset : Nat) (rest : Bytes)
    (h : offset + fields.flatten.length < 2 ^ 32) :
    readOffsets fields.length (tableOffsets offset fields ++ rest) ++ [offset + fields.flatten.length] =
      fieldBounds offset fields := by
  induction fields generalizing offset with
  | nil => rfl
  | cons f fs ih =>
    rw [List.flatten_cons, List.length_append] at h ⊢
    have hword : (u32OfLe (lenLe offset)).toNat = offset := by
      rw [u32OfLe, UInt32.toNat_ofNat', leNat_lenLe (by omega)]
      exact Nat.mod_eq_of_lt (by omega)
    have hrest := ih (offset + f.length) (by omega)
    rw [Nat.add_assoc] at hrest
    simp only [tableOffsets, List.length_cons, readOffsets, List.append_assoc, fieldBounds]
    rw [List.take_left' (lenLe_length _), List.drop_left' (lenLe_length _), hword, List.cons_append, hrest]

/-- Cutting at the bounds of the fields gives the fields. -/
theorem cutFields_fieldBounds {data : Bytes} (fields : List Bytes) (offset i : Nat)
    (hdata : data.drop offset = fields.flatten) (hlen : offset + fields.flatten.length = data.length) :
    cutFields data data.length i (fieldBounds offset fields) = .ok fields := by
  induction fields generalizing offset i with
  | nil => rfl
  | cons f fs ih =>
    rw [List.flatten_cons] at hdata hlen
    rw [List.length_append] at hlen
    obtain ⟨rest, hrest⟩ := fieldBounds_eq_cons (offset + f.length) fs
    have hfield : slice data offset (offset + f.length) = f := by
      rw [slice, List.drop_take, Nat.add_sub_cancel_left, hdata, List.take_left]
    have htail : cutFields data data.length (i + 1) ((offset + f.length) :: rest) = .ok fs := by
      rw [← hrest]
      exact ih (offset + f.length) (i + 1) (by rw [← List.drop_drop, hdata, List.drop_left]) (by omega)
    rw [fieldBounds, hrest, cutFields, if_neg (by omega), htail, hfield]

theorem readTableFields_encodeTable {fields : List Bytes} (h : (encodeTable fields).length < 2 ^ 32) :
    readTableFields (encodeTable fields) = .ok fields := by
  have hlen := encodeTable_length fields
  generalize hd : encodeTable fields = data at h hlen ⊢
  have hheader : (u32OfLe (data.take 4)).toNat = data.length := by
    rw [u32OfLe, UInt32.toNat_ofNat', ← hd, encodeTable_header (by rw [hd]; exact h), hd]
    exact Nat.mod_eq_of_lt h
  have hafter : data.drop 4 = tableOffsets (4 + 4 * fields.length) fields ++ fields.flatten := by
    rw [← hd, encodeTable, List.append_assoc, List.drop_left' (lenLe_length _)]
  have hbody : data.drop (4 + 4 * fields.length) = fields.flatten := by
    rw [← List.drop_drop, hafter, List.drop_left' (tableOffsets_length _ _)]
  have hbounds := readOffsets_tableOffsets fields (4 + 4 * fields.length) fields.flatten (by omega)
  rw [← hafter, ← hlen] at hbounds
  unfold readTableFields
  simp only [hheader]
  rw [if_neg (by omega), if_neg (not_not_intro rfl)]
  cases fields with
  | nil => exact if_pos hlen
  | cons f fs =>
    rw [List.length_cons] at hlen hafter hbounds hbody
    have hfirst : (u32OfLe ((data.drop 4).take 4)).toNat = 4 + 4 * (fs.length + 1) := by
      rw [hafter, tableOffsets, List.append_assoc, List.take_left' (lenLe_length _), u32OfLe, UInt32.toNat_ofNat',
        leNat_lenLe (by omega)]
      exact Nat.mod_eq_of_lt (by omega)
    rw [if_neg (by omega), if_neg (by omega), hfirst, if_neg (by omega),
      show (4 + 4 * (fs.length + 1) - 4) / 4 = fs.length + 1 by omega, hbounds]
    exact cutFields_fieldBounds (f :: fs) _ 0 hbody hlen.symm

/-- The size header of data the decoder accepts is its length, so it fits. -/
theorem readTableFields_fits {data : Bytes} {fields : List Bytes} (h : readTableFields data = .ok fields) :
    data.length < 2 ^ 32 := by
  unfold readTableFields at h
  split at h
  · cases h
  simp only at h
  split at h
  · cases h
  next hsize =>
  rw [not_not] at hsize
  rw [← hsize]
  exact UInt32.toNat_lt _

theorem readTableFields_iff (data : Bytes) (fields : List Bytes) :
    readTableFields data = .ok fields ↔ encodeTable fields = data ∧ data.length < 2 ^ 32 := by
  constructor
  · intro h
    exact ⟨encodeTable_readTableFields h, readTableFields_fits h⟩
  · rintro ⟨rfl, h⟩
    exact readTableFields_encodeTable h

theorem readBytes_encodeBytes {args : Bytes} (h : args.length < 2 ^ 32) : readBytes (encodeBytes args) = .ok args := by
  have hlen : (u32OfLe ((encodeBytes args).take 4)).toNat = args.length := by
    rw [encodeBytes, List.take_left' (lenLe_length _), u32OfLe, UInt32.toNat_ofNat', leNat_lenLe h]
    exact Nat.mod_eq_of_lt h
  unfold readBytes
  simp only [hlen, encodeBytes_length]
  rw [if_neg (by omega), if_neg (not_not_intro rfl), encodeBytes, List.drop_left' (lenLe_length _)]

@[simp] theorem hashTypeOfByte_toByte (t : ScriptHashType) : hashTypeOfByte t.toByte = .ok t := by cases t <;> rfl

theorem decodeScript_encodeScript {s : Script} (h : (encodeScript s).length < 2 ^ 32) :
    decodeScript (encodeScript s) = .ok s := by
  have hargs : s.args.length < 2 ^ 32 := by rw [encodeScript_length] at h; omega
  have hfields : readTableFields (encodeScript s) = .ok [s.codeHash.toVec, [s.hashType.toByte], encodeBytes s.args] :=
    readTableFields_encodeTable h
  rw [decodeScript, hfields]
  simp only [ok_bind, H256.fromSlice_toVec, hashTypeOfByte_toByte, readBytes_encodeBytes hargs]
  rfl

theorem decodeScript_iff (data : Bytes) (s : Script) :
    decodeScript data = .ok s ↔ encodeScript s = data ∧ data.length < 2 ^ 32 := by
  constructor
  · intro h
    obtain ⟨_, _, _, hf, _⟩ := decodeScript_eq_ok h
    exact ⟨encodeScript_decodeScript h, readTableFields_fits hf⟩
  · rintro ⟨rfl, h⟩
    exact decodeScript_encodeScript h

theorem RgbppLockArgs.parse_iff (args : Bytes) (a : RgbppLockArgs) : parse args = .ok a ↔ a.encode = args := by
  constructor
  · intro h
    exact encode_parse h
  · rintro rfl
    exact parse_encode a

/-! ## The time lock's own table assembly -/

namespace BtcTimeLockArgs

/-- The table assembly, loop by loop: the size, one offset word per field
with the offset carried along, then the fields.
mirrors crates/types/src/protocol.rs:155-176 -/
def assemble (a : BtcTimeLockArgs) : Bytes :=
  let fields := [encodeScript a.targetLock, u32Le a.after, a.txid.toInternalBytes]
  let headerLen := 4 + 4 * fields.length
  let bodyLen := (fields.map List.length).sum
  let fullSize := headerLen + bodyLen
  let out := lenLe fullSize
  let (out, _) := fields.foldl (fun (out, offset) f => (out ++ lenLe offset, offset + f.length)) (out, headerLen)
  fields.foldl (fun out f => out ++ f) out

theorem foldl_tableOffsets (fields : List Bytes) (out : Bytes) (offset : Nat) :
    (fields.foldl (fun (p : Bytes × Nat) f => (p.1 ++ lenLe p.2, p.2 + f.length)) (out, offset)).1 =
      out ++ tableOffsets offset fields := by
  induction fields generalizing out offset with
  | nil => rw [List.foldl_nil, tableOffsets, List.append_nil]
  | cons f fs ih => rw [List.foldl_cons, ih, tableOffsets, List.append_assoc]

theorem foldl_append_flatten (fields : List Bytes) (out : Bytes) :
    fields.foldl (fun out f => out ++ f) out = out ++ fields.flatten := by
  induction fields generalizing out with
  | nil => rw [List.foldl_nil, List.flatten_nil, List.append_nil]
  | cons f fs ih => rw [List.foldl_cons, ih, List.flatten_cons, List.append_assoc]

/-- Both assemblies of a table agree. -/
theorem assemble_eq_encode (a : BtcTimeLockArgs) : a.assemble = a.encode := by
  rw [assemble, encode, encodeTable, List.length_flatten]
  simp only [foldl_append_flatten]
  exact congrArg (· ++ _) (foldl_tableOffsets _ _ _)

theorem parse_encode {a : BtcTimeLockArgs} (h : a.encode.length < 2 ^ 32) : parse a.encode = .ok a := by
  have hfields : readTableFields a.encode = .ok [encodeScript a.targetLock, u32Le a.after, a.txid.toInternalBytes] :=
    readTableFields_encodeTable h
  have hlock : (encodeScript a.targetLock).length < 2 ^ 32 := by
    rw [encode, encodeTable_length, List.flatten_cons, List.length_append] at h; omega
  rw [parse, hfields]
  simp only [ok_bind, decodeScript_encodeScript hlock, BtcTxid.fromInternalBytes_toInternalBytes, u32OfLe_u32Le]
  rw [if_neg (not_not_intro (u32Le_length _))]
  rfl

theorem parse_iff (args : Bytes) (a : BtcTimeLockArgs) :
    parse args = .ok a ↔ a.assemble = args ∧ args.length < 2 ^ 32 := by
  rw [assemble_eq_encode]
  constructor
  · intro h
    obtain ⟨_, _, _, hf, _⟩ := parse_eq_ok h
    exact ⟨encode_parse h, readTableFields_fits hf⟩
  · rintro ⟨rfl, h⟩
    exact parse_encode h

end BtcTimeLockArgs

/-- The table decoder reads inside its data on every input and accepts the
encoder's tables only; so do the parsers over it, and the two ways to
assemble the args of a time lock agree. -/
theorem molecule_parsers_exact :
    (∀ data, readTableFieldsAt data = some (readTableFields data)) ∧
      (∀ data fields, readTableFields data = .ok fields ↔ encodeTable fields = data ∧ data.length < 2 ^ 32) ∧
      (∀ data s, decodeScript data = .ok s ↔ encodeScript s = data ∧ data.length < 2 ^ 32) ∧
      (∀ args a, BtcTimeLockArgs.parse args = .ok a ↔ a.assemble = args ∧ args.length < 2 ^ 32) ∧
      (∀ args a, RgbppLockArgs.parse args = .ok a ↔ a.encode = args) ∧
      ∀ a : BtcTimeLockArgs,
        a.assemble = encodeTable [encodeScript a.targetLock, u32Le a.after, a.txid.toInternalBytes] :=
  ⟨readTableFieldsAt_eq, readTableFields_iff, decodeScript_iff, BtcTimeLockArgs.parse_iff, RgbppLockArgs.parse_iff,
    BtcTimeLockArgs.assemble_eq_encode⟩

end RgbppIndexer
