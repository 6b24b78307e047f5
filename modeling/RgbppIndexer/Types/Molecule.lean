import RgbppIndexer.Core.Framing
import RgbppIndexer.Core.Result
import RgbppIndexer.Types.Bitcoin

/-!
# The slice of molecule the indexer uses

`crates/types/src/molecule.rs`: the encoders for `Script`, `CellOutput`,
`Bytes` and `OutPoint`, and the table decoder.

* `encodeTable_inj`: tables with the same number of fields and the same
  bytes have the same fields.
* `encodeTable_readTableFields`: the table decoder accepts only what the
  encoder writes, so re-encoding what was read gives the bytes back.
* `uniqueParse_encodeCellOutput`, `uniqueParse_encodeBytes`,
  `uniqueParse_encodeOutPoint`: the pieces of a commitment pre-image parse
  uniquely in front of anything, while their size fits the 32-bit header.
-/
namespace RgbppIndexer

open RgbppIndexer.Core

/-! ## Encoders -/

/-- `(n as u32).to_le_bytes()` for a length. -/
def lenLe (n : Nat) : Bytes := u32Le (UInt32.ofNat n)

@[simp] theorem lenLe_length (n : Nat) : (lenLe n).length = 4 := u32Le_length _

theorem leNat_lenLe {n : Nat} (h : n < 2 ^ 32) : leNat (lenLe n) = n := by
  rw [lenLe, u32Le, leNat_leBytes, UInt32.toNat_ofNat', Nat.mod_eq_of_lt h]
  exact Nat.mod_eq_of_lt h

theorem lenLe_inj {m n : Nat} (hm : m < 2 ^ 32) (hn : n < 2 ^ 32) (h : lenLe m = lenLe n) : m = n := by
  rw [← leNat_lenLe hm, ← leNat_lenLe hn, h]

theorem lenLe_toNat_u32OfLe (b : Bytes) (h : b.length = 4) : lenLe (u32OfLe b).toNat = b := by
  rw [lenLe, UInt32.ofNat_toNat, u32Le_u32OfLe b h]

/-- mirrors crates/types/src/molecule.rs:19-24 -/
def encodeBytes (data : Bytes) : Bytes := lenLe data.length ++ data

/-- The offset words of a table: one per field, starting at `offset`. -/
def tableOffsets (offset : Nat) : List Bytes → Bytes
  | [] => []
  | field :: fields => lenLe offset ++ tableOffsets (offset + field.length) fields

/-- mirrors crates/types/src/molecule.rs:27-44 -/
def encodeTable (fields : List Bytes) : Bytes :=
  let headerLen := 4 + 4 * fields.length
  let bodyLen := fields.flatten.length
  let fullSize := headerLen + bodyLen
  lenLe fullSize ++ tableOffsets headerLen fields ++ fields.flatten

/-- mirrors crates/types/src/molecule.rs:46-52 -/
def encodeScript (script : Script) : Bytes :=
  encodeTable [script.codeHash.toVec, [script.hashType.toByte], encodeBytes script.args]

/-- mirrors crates/types/src/molecule.rs:55-60 -/
def encodeScriptOpt : Option Script → Bytes
  | some s => encodeScript s
  | none => []

/-- mirrors crates/types/src/molecule.rs:62-68 -/
def encodeCellOutput (output : CellOutput) : Bytes :=
  encodeTable [u64Le output.capacity, encodeScript output.lock, encodeScriptOpt output.type_]

/-- mirrors crates/types/src/molecule.rs:71-76 -/
def encodeOutPoint (outPoint : CkbOutPoint) : Bytes := outPoint.txHash.toVec ++ u32Le outPoint.index

/-- The identity CKB uses for lock and type scripts. mirrors crates/types/src/ckb.rs:193-195 -/
def Script.calcHash (s : Script) : H256 := ⟨ckbBlake2b256 (encodeScript s)⟩

/-! ## Decoders -/

/-- The first `n` offset words. -/
def readOffsets : Nat → Bytes → List Nat
  | 0, _ => []
  | n + 1, b => (u32OfLe (b.take 4)).toNat :: readOffsets n (b.drop 4)

/-- The fields between consecutive offsets; `i` numbers them for the error text. -/
def cutFields (data : Bytes) (fullSize i : Nat) : List Nat → Except TypesError (List Bytes)
  | start :: stop :: rest =>
    if start > stop ∨ stop > fullSize then
      .error (.malformed "molecule table" s!"field {i} has invalid range {start}..{stop}")
    else
      match cutFields data fullSize (i + 1) (stop :: rest) with
      | .ok fields => .ok (slice data start stop :: fields)
      | .error e => .error e
  | _ => .ok []

/-- Split a molecule table into its field slices, validating the header.
mirrors crates/types/src/molecule.rs:123-171 -/
def readTableFields (data : Bytes) : Except TypesError (List Bytes) :=
  if data.length < 4 then .error (.malformed "molecule table" "shorter than the size header")
  else
    let fullSize := (u32OfLe (data.take 4)).toNat
    if fullSize ≠ data.length then
      .error (.malformed "molecule table" s!"size header {fullSize} != actual length {data.length}")
    else if fullSize = 4 then .ok []
    else if data.length < 8 then .error (.malformed "molecule table" "missing first offset")
    else
      let firstOffset := (u32OfLe ((data.drop 4).take 4)).toNat
      if firstOffset < 8 ∨ firstOffset % 4 ≠ 0 ∨ firstOffset > fullSize then
        .error (.malformed "molecule table" s!"implausible first offset {firstOffset}")
      else
        let fieldCount := (firstOffset - 4) / 4
        cutFields data fullSize 0 (readOffsets fieldCount (data.drop 4) ++ [fullSize])

/-- mirrors crates/types/src/molecule.rs:174-189 -/
def readBytes (data : Bytes) : Except TypesError Bytes :=
  if data.length < 4 then .error (.malformed "molecule Bytes" "missing length prefix")
  else
    let len := (u32OfLe (data.take 4)).toNat
    if 4 + len ≠ data.length then
      .error (.malformed "molecule Bytes" s!"length prefix {len} does not match payload {data.length - 4}")
    else .ok (data.drop 4)

/-- mirrors crates/types/src/molecule.rs:206-217 -/
def hashTypeOfByte (b : UInt8) : Except TypesError ScriptHashType :=
  if b = 0 then .ok .data
  else if b = 1 then .ok .type
  else if b = 2 then .ok .data1
  else if b = 4 then .ok .data2
  else .error (.unsupported "script hash_type byte" (toString b))

/-- mirrors crates/types/src/molecule.rs:191-224 -/
def decodeScript (data : Bytes) : Except TypesError Script := do
  let fields ← readTableFields data
  match fields with
  | [codeHash, hashType, args] =>
    let codeHash ← H256.fromSlice codeHash
    match hashType with
    | [b] =>
      let hashType ← hashTypeOfByte b
      let args ← readBytes args
      return { codeHash, hashType, args }
    | _ => throw (.malformed "molecule Script" "hash_type is not one byte")
  | fields => throw (.malformed "molecule Script" s!"expected 3 fields, got {fields.length}")

/-! ## Lengths -/

@[simp] theorem encodeBytes_length (data : Bytes) : (encodeBytes data).length = 4 + data.length := by
  simp [encodeBytes]

@[simp] theorem tableOffsets_length (offset : Nat) (fields : List Bytes) :
    (tableOffsets offset fields).length = 4 * fields.length := by
  induction fields generalizing offset with
  | nil => rfl
  | cons f fs ih => simp only [tableOffsets, List.length_append, lenLe_length, ih, List.length_cons]; omega

theorem encodeTable_length (fields : List Bytes) :
    (encodeTable fields).length = 4 + 4 * fields.length + fields.flatten.length := by
  simp only [encodeTable, List.length_append, lenLe_length, tableOffsets_length]

@[simp] theorem encodeOutPoint_length (op : CkbOutPoint) : (encodeOutPoint op).length = 36 := by
  simp [encodeOutPoint]

theorem encodeScript_length (s : Script) : (encodeScript s).length = 53 + s.args.length := by
  rw [encodeScript, encodeTable_length]
  simp only [List.length_cons, List.length_nil, List.flatten_cons, List.flatten_nil, List.length_append,
    H256.toVec_length, encodeBytes_length]
  omega

theorem encodeCellOutput_length (o : CellOutput) :
    (encodeCellOutput o).length = 24 + (encodeScript o.lock).length + (encodeScriptOpt o.type_).length := by
  rw [encodeCellOutput, encodeTable_length]
  simp only [List.length_cons, List.length_nil, List.flatten_cons, List.flatten_nil, List.length_append, u64Le_length]
  omega

/-! ## Tables determine their fields -/

/-- Equal offset words and equal bodies: the fields are cut at the same places. -/
theorem fields_eq_of_tableOffsets {fs gs : List Bytes} {off : Nat} (hlen : fs.length = gs.length)
    (hsize : off + fs.flatten.length < 2 ^ 32) (hbody : fs.flatten = gs.flatten)
    (hoffs : tableOffsets off fs = tableOffsets off gs) : fs = gs := by
  induction fs generalizing gs off with
  | nil => rw [List.length_nil, eq_comm, List.length_eq_zero_iff] at hlen; exact hlen.symm
  | cons f fs ih =>
    cases gs with
    | nil => simp at hlen
    | cons g gs =>
      simp only [List.length_cons, Nat.add_right_cancel_iff] at hlen
      simp only [List.flatten_cons] at hbody hsize
      simp only [tableOffsets, List.append_cancel_left_eq] at hoffs
      have hlf : (f ++ fs.flatten).length = (g ++ gs.flatten).length := by rw [hbody]
      simp only [List.length_append] at hlf hsize
      have hfg : f.length = g.length := by
        cases fs with
        | nil =>
          obtain rfl : gs = [] := List.length_eq_zero_iff.mp hlen.symm
          simpa using hlf
        | cons f' fs' =>
          cases gs with
          | nil => simp at hlen
          | cons g' gs' =>
            simp only [tableOffsets] at hoffs
            have hw := (List.append_inj hoffs (by simp)).1
            have := lenLe_inj (by omega) (by omega) hw
            omega
      obtain ⟨rfl, hrest⟩ := List.append_inj hbody hfg
      rw [ih hlen (by omega) hrest hoffs]

theorem encodeTable_inj {fs gs : List Bytes} (hlen : fs.length = gs.length)
    (hsize : (encodeTable fs).length < 2 ^ 32) (he : encodeTable fs = encodeTable gs) : fs = gs := by
  rw [encodeTable_length] at hsize
  simp only [encodeTable, List.append_assoc] at he
  obtain ⟨-, he⟩ := List.append_inj he (by simp)
  obtain ⟨hoffs, hbody⟩ := List.append_inj he (by simp [hlen])
  rw [hlen] at hoffs
  exact fields_eq_of_tableOffsets hlen (by omega) hbody (by rw [hlen]; exact hoffs)

/-- A table starts with its own size. -/
theorem encodeTable_header {fs : List Bytes} (h : (encodeTable fs).length < 2 ^ 32) :
    leNat ((encodeTable fs).take 4) = (encodeTable fs).length := by
  have hl := encodeTable_length fs
  have htake : (encodeTable fs).take 4 = lenLe (encodeTable fs).length := by
    rw [hl]; simp only [encodeTable, List.append_assoc]
    exact List.take_left' (lenLe_length _)
  rw [htake, leNat_lenLe h]

/-- A table code over an injective choice of the same number of fields. -/
theorem uniqueParse_encodeTable {α : Type*} {fields : α → List Bytes} (n : Nat) (hn : ∀ a, (fields a).length = n)
    {ok : α → Prop} (hok : ∀ a, ok a → (encodeTable (fields a)).length < 2 ^ 32)
    (hinj : ∀ a b, ok a → ok b → fields a = fields b → a = b) :
    UniqueParse ok fun a => encodeTable (fields a) := by
  refine UniqueParse.of_header 4 leNat (fun a _ => ?_) (fun a ha => encodeTable_header (hok a ha))
    fun a b ha hb he => hinj a b ha hb (encodeTable_inj (by rw [hn, hn]) (hok a ha) he)
  rw [encodeTable_length]; omega

/-! ## The pieces of a pre-image -/

theorem uniqueParse_encodeBytes : UniqueParse (fun b : Bytes => (encodeBytes b).length < 2 ^ 32) encodeBytes := by
  refine UniqueParse.of_header 4 (fun h => 4 + leNat h) (fun b _ => by simp) (fun b hb => ?_)
    fun a b _ _ he => ?_
  · rw [encodeBytes_length] at hb ⊢
    rw [encodeBytes, List.take_left' (lenLe_length _), leNat_lenLe (by omega)]
  · exact (List.append_inj he (by simp)).2

theorem uniqueParse_encodeScript : UniqueParse (fun s : Script => (encodeScript s).length < 2 ^ 32) encodeScript := by
  refine uniqueParse_encodeTable 3 (fun _ => rfl) (fun _ h => h) fun a b ha hb he => ?_
  have hlen : ∀ s : Script, (encodeScript s).length < 2 ^ 32 → (encodeBytes s.args).length < 2 ^ 32 := by
    intro s hs; rw [encodeScript_length] at hs; rw [encodeBytes_length]; omega
  obtain ⟨ac, at', aa⟩ := a
  obtain ⟨bc, bt, ba⟩ := b
  simp only [List.cons.injEq, and_true, H256.toVec_inj] at he
  obtain ⟨rfl, ht, hargs⟩ := he
  obtain rfl := ScriptHashType.toByte_injective ht
  obtain rfl := uniqueParse_encodeBytes.injOn (hlen _ ha) (hlen _ hb) hargs
  rfl

theorem encodeScript_ne_nil (s : Script) : encodeScript s ≠ [] := by
  intro h
  have := encodeScript_length s
  rw [h, List.length_nil] at this; omega

theorem encodeScriptOpt_inj {s t : Option Script} (hs : (encodeScriptOpt s).length < 2 ^ 32)
    (ht : (encodeScriptOpt t).length < 2 ^ 32) (h : encodeScriptOpt s = encodeScriptOpt t) : s = t := by
  cases s with
  | none =>
    cases t with
    | none => rfl
    | some t => exact absurd h.symm (encodeScript_ne_nil t)
  | some s =>
    cases t with
    | none => exact absurd h (encodeScript_ne_nil s)
    | some t => rw [uniqueParse_encodeScript.injOn hs ht h]

theorem uniqueParse_encodeCellOutput :
    UniqueParse (fun o : CellOutput => (encodeCellOutput o).length < 2 ^ 32) encodeCellOutput := by
  refine uniqueParse_encodeTable 3 (fun _ => rfl) (fun _ h => h) fun a b ha hb he => ?_
  have hlen : ∀ o : CellOutput, (encodeCellOutput o).length < 2 ^ 32 →
      (encodeScript o.lock).length < 2 ^ 32 ∧ (encodeScriptOpt o.type_).length < 2 ^ 32 := by
    intro o ho; rw [encodeCellOutput_length] at ho; omega
  obtain ⟨ac, al, at'⟩ := a
  obtain ⟨bc, bl, bt⟩ := b
  simp only [List.cons.injEq, and_true] at he
  obtain ⟨hcap, hlock, htype⟩ := he
  obtain rfl := u64Le_injective hcap
  obtain rfl := uniqueParse_encodeScript.injOn (hlen _ ha).1 (hlen _ hb).1 hlock
  obtain rfl := encodeScriptOpt_inj (hlen _ ha).2 (hlen _ hb).2 htype
  rfl

theorem encodeOutPoint_injective : Function.Injective encodeOutPoint := by
  intro a b h
  obtain ⟨ah, ai⟩ := a
  obtain ⟨bh, bi⟩ := b
  obtain ⟨h1, h2⟩ := List.append_inj h (by simp)
  obtain rfl := H256.toVec_injective h1
  obtain rfl := u32Le_injective h2
  rfl

theorem uniqueParse_encodeOutPoint : UniqueParse (fun _ : CkbOutPoint => True) encodeOutPoint :=
  UniqueParse.of_length 36 (fun op _ => encodeOutPoint_length op) fun _ _ _ _ h => encodeOutPoint_injective h

/-! ## The decoder accepts only what the encoder writes -/

/-- What one step of the cut reads: the ranges are checked, and the rest is cut from the second offset. -/
theorem cutFields_cons_ok {data : Bytes} {full i start stop : Nat} {rest : List Nat} {fields : List Bytes}
    (h : cutFields data full i (start :: stop :: rest) = .ok fields) :
    start ≤ stop ∧ stop ≤ full ∧
      ∃ tail, cutFields data full (i + 1) (stop :: rest) = .ok tail ∧ fields = slice data start stop :: tail := by
  rw [cutFields] at h
  split at h
  · simp at h
  · next hr =>
    split at h
    · next tail ht =>
      simp only [Except.ok.injEq] at h
      exact ⟨by omega, by omega, tail, ht, h.symm⟩
    · simp at h

theorem slice_append_drop (b : Bytes) {lo hi : Nat} (h : lo ≤ hi) : slice b lo hi ++ b.drop hi = b.drop lo := by
  obtain ⟨j, rfl⟩ := Nat.exists_eq_add_of_le h
  rw [slice, List.drop_take, Nat.add_sub_cancel_left, ← List.drop_drop, List.take_append_drop]

/-- Fields cut at `n + 1` offsets read from `b`, and ending at the end of
the data: they tile the data from the first offset on, and writing their
offset words gives the words that were read. -/
theorem cutFields_ok {data : Bytes} (n : Nat) (b : Bytes) (hb : 4 * (n + 1) ≤ b.length) (i : Nat)
    {fields : List Bytes}
    (h : cutFields data data.length i (readOffsets (n + 1) b ++ [data.length]) = .ok fields) :
    fields.length = n + 1 ∧ tableOffsets (u32OfLe (b.take 4)).toNat fields = b.take (4 * (n + 1)) ∧
      fields.flatten = data.drop (u32OfLe (b.take 4)).toNat := by
  have hword : lenLe (u32OfLe (b.take 4)).toNat = b.take 4 :=
    lenLe_toNat_u32OfLe _ (by rw [List.length_take]; omega)
  induction n generalizing b i fields with
  | zero =>
    obtain ⟨hle, -, tail, ht, rfl⟩ := cutFields_cons_ok h
    simp only [cutFields, Except.ok.injEq] at ht
    subst ht
    refine ⟨rfl, ?_, ?_⟩
    · rw [tableOffsets, tableOffsets, List.append_nil, hword]
    · rw [List.flatten_cons, List.flatten_nil, List.append_nil, ← slice_append_drop data hle,
        List.drop_length, List.append_nil]
  | succ n ih =>
    obtain ⟨hle, hfull, tail, ht, rfl⟩ := cutFields_cons_ok h
    obtain ⟨hlen, hoffs, hflat⟩ := ih (b.drop 4) (by rw [List.length_drop]; omega) (i + 1) ht
      (lenLe_toNat_u32OfLe _ (by rw [List.length_take, List.length_drop]; omega))
    refine ⟨by rw [List.length_cons, hlen], ?_, ?_⟩
    · rw [tableOffsets, slice_length _ hfull, Nat.add_sub_cancel' hle, hoffs, hword,
        show 4 * (n + 1 + 1) = 4 + 4 * (n + 1) by omega, List.take_add]
    · rw [List.flatten_cons, hflat, slice_append_drop data hle]

theorem encodeTable_readTableFields {data : Bytes} {fields : List Bytes} (h : readTableFields data = .ok fields) :
    encodeTable fields = data := by
  unfold readTableFields at h
  split at h
  · simp at h
  next h4 =>
  simp only at h
  split at h
  · simp at h
  next hsize =>
  rw [not_not] at hsize
  have hword : lenLe data.length = data.take 4 := by
    rw [← hsize]; exact lenLe_toNat_u32OfLe _ (by rw [List.length_take]; omega)
  split at h
  · next hempty =>
    simp only [Except.ok.injEq] at h; subst h
    have htake : data.take 4 = data := List.take_of_length_le (by omega)
    rw [htake] at hword
    rw [encodeTable]
    simp only [tableOffsets, List.flatten_nil, List.append_nil, List.length_nil]
    rw [← hword]; congr 1; omega
  split at h
  · simp at h
  next h8 =>
  split at h
  · simp at h
  next hfirst =>
  simp only [not_or, not_lt, not_not] at hfirst
  obtain ⟨hge, hmod, hlefull⟩ := hfirst
  rw [hsize] at h hlefull
  obtain ⟨n, hn⟩ : ∃ n, (u32OfLe ((data.drop 4).take 4)).toNat = 4 + 4 * (n + 1) :=
    ⟨(u32OfLe ((data.drop 4).take 4)).toNat / 4 - 2, by omega⟩
  rw [show ((u32OfLe ((data.drop 4).take 4)).toNat - 4) / 4 = n + 1 by omega] at h
  obtain ⟨hlen, hoffs, hflat⟩ := cutFields_ok n (data.drop 4) (by rw [List.length_drop]; omega) 0 h
  rw [hn] at hoffs hflat
  have hsum : 4 + 4 * fields.length + fields.flatten.length = data.length := by
    rw [hlen, hflat, List.length_drop]; omega
  simp only [encodeTable]
  rw [hsum, hword, hlen, hoffs, hflat, List.append_assoc, ← List.drop_drop, List.take_append_drop,
    List.take_append_drop]

theorem encodeBytes_readBytes {data args : Bytes} (h : readBytes data = .ok args) : encodeBytes args = data := by
  unfold readBytes at h
  split at h
  · simp at h
  next h4 =>
  simp only at h
  split at h
  · simp at h
  next hlen =>
  simp only [Except.ok.injEq] at h; subst h
  have hword : lenLe (u32OfLe (data.take 4)).toNat = data.take 4 :=
    lenLe_toNat_u32OfLe _ (by rw [List.length_take]; omega)
  rw [encodeBytes, List.length_drop, show data.length - 4 = (u32OfLe (data.take 4)).toNat by omega, hword,
    List.take_append_drop]

theorem toByte_hashTypeOfByte {b : UInt8} {t : ScriptHashType} (h : hashTypeOfByte b = .ok t) : t.toByte = b := by
  unfold hashTypeOfByte at h
  split at h
  · next hb => simp only [Except.ok.injEq] at h; subst h hb; rfl
  split at h
  · next hb => simp only [Except.ok.injEq] at h; subst h hb; rfl
  split at h
  · next hb => simp only [Except.ok.injEq] at h; subst h hb; rfl
  split at h
  · next hb => simp only [Except.ok.injEq] at h; subst h hb; rfl
  · simp at h

/-- A table that decodes as a script has the three fields of one. -/
theorem decodeScript_eq_ok {data : Bytes} {s : Script} (h : decodeScript data = .ok s) :
    ∃ hash b args, readTableFields data = .ok [hash, [b], args] ∧ H256.fromSlice hash = .ok s.codeHash ∧
      hashTypeOfByte b = .ok s.hashType ∧ readBytes args = .ok s.args := by
  unfold decodeScript at h
  obtain ⟨fields, hf, h⟩ := bind_eq_ok.mp h
  split at h
  · next hash ht args =>
    obtain ⟨codeHash, hc, h⟩ := bind_eq_ok.mp h
    split at h
    · next b _ =>
      obtain ⟨hashType, hb, h⟩ := bind_eq_ok.mp h
      obtain ⟨args', ha, h⟩ := bind_eq_ok.mp h
      rw [pure_eq_ok] at h; subst h
      exact ⟨hash, b, args, hf, hc, hb, ha⟩
    · cases h
  · cases h

theorem encodeScript_decodeScript {data : Bytes} {s : Script} (h : decodeScript data = .ok s) :
    encodeScript s = data := by
  obtain ⟨hash, b, args, hf, hc, hb, ha⟩ := decodeScript_eq_ok h
  rw [encodeScript, H256.fromSlice_eq_ok hc, toByte_hashTypeOfByte hb, encodeBytes_readBytes ha]
  exact encodeTable_readTableFields hf

end RgbppIndexer
