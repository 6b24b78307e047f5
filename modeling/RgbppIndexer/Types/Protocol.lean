import RgbppIndexer.Types.Molecule

/-!
# The two protocol locks and what their args mean

`crates/types/src/protocol.rs`. RGB++ lock args are
`out_index (u32le) || btc_txid (32 bytes, consensus order)`; BTC time lock
args are a molecule table `{ lock_script, after, btc_txid }`.

In both, the txid is the last 32 bytes, the parser accepts only canonical
bytes (`encode_parse`), and the placeholder rewrite zeroes exactly those 32
bytes (`argsWithPlaceholderTxid_eq`).
-/
namespace RgbppIndexer

open RgbppIndexer.Core

/-- mirrors crates/types/src/protocol.rs:14-21 -/
inductive LockKind where
  | rgbpp | btcTime
  deriving DecidableEq, Repr

/-- mirrors crates/types/src/protocol.rs:24-29 -/
def LockKind.asStr : LockKind → String
  | rgbpp => "rgbpp"
  | btcTime => "btc_time"

/-- mirrors crates/types/src/protocol.rs:31-37 -/
def LockKind.fromStrOpt (s : String) : Option LockKind :=
  if s = "rgbpp" then some rgbpp else if s = "btc_time" then some btcTime else none

@[simp] theorem LockKind.fromStrOpt_asStr (k : LockKind) : fromStrOpt k.asStr = some k := by cases k <;> decide

/-- The "which contract is this" half of a script. mirrors crates/types/src/protocol.rs:41-45 -/
structure ScriptId where
  codeHash : H256
  hashType : ScriptHashType
  deriving DecidableEq, Repr

/-- mirrors crates/types/src/protocol.rs:55-57 -/
def ScriptId.matches (id : ScriptId) (script : Script) : Bool :=
  decide (script.codeHash = id.codeHash ∧ script.hashType = id.hashType)

/-- mirrors crates/types/src/protocol.rs:65-69 -/
structure ProtocolScripts where
  rgbppLock : ScriptId
  btcTimeLock : ScriptId
  deriving DecidableEq, Repr

/-- `none` for everything that is not RGB++. mirrors crates/types/src/protocol.rs:73-81 -/
def ProtocolScripts.classify (p : ProtocolScripts) (lock : Script) : Option LockKind :=
  if p.rgbppLock.matches lock then some .rgbpp
  else if p.btcTimeLock.matches lock then some .btcTime
  else none

/-- The script id a kind stands for; the source selects it by `match kind` wherever a lock is rebuilt. -/
def ProtocolScripts.scriptId (p : ProtocolScripts) : LockKind → ScriptId
  | .rgbpp => p.rgbppLock
  | .btcTime => p.btcTimeLock

/-- mirrors crates/types/src/protocol.rs:85-89 -/
structure RgbppLockArgs where
  outIndex : UInt32
  txid : BtcTxid
  deriving DecidableEq, Repr

namespace RgbppLockArgs

def LEN : Nat := 36

/-- mirrors crates/types/src/protocol.rs:94-106 -/
def parse (args : Bytes) : Except TypesError RgbppLockArgs := do
  if args.length ≠ LEN then
    throw (.length "rgbpp lock args" LEN args.length)
  let outIndex := u32OfLe (slice args 0 4)
  -- the script embeds the txid in consensus order
  let txid ← BtcTxid.fromInternalBytes (slice args 4 36)
  return { outIndex, txid }

/-- mirrors crates/types/src/protocol.rs:108-113 -/
def encode (a : RgbppLockArgs) : Bytes := u32Le a.outIndex ++ a.txid.toInternalBytes

/-- mirrors crates/types/src/protocol.rs:115-117 -/
def outPoint (a : RgbppLockArgs) : BtcOutPoint := ⟨a.txid, a.outIndex⟩

end RgbppLockArgs

/-- mirrors crates/types/src/protocol.rs:121-128 -/
structure BtcTimeLockArgs where
  targetLock : Script
  after : UInt32
  txid : BtcTxid
  deriving DecidableEq, Repr

namespace BtcTimeLockArgs

/-- mirrors crates/types/src/protocol.rs:131-153 -/
def parse (args : Bytes) : Except TypesError BtcTimeLockArgs := do
  let fields ← readTableFields args
  match fields with
  | [lock, after, txid] =>
    let targetLock ← decodeScript lock
    if after.length ≠ 4 then
      throw (.malformed "btc time lock args" "`after` is not a Uint32")
    let txid ← BtcTxid.fromInternalBytes txid
    return { targetLock, after := u32OfLe after, txid }
  | fields => throw (.malformed "btc time lock args" s!"expected 3 fields, got {fields.length}")

/-- The closed form of the assembly the source spells out here (`assemble`,
equal to this by `assemble_eq_encode`). mirrors crates/types/src/protocol.rs:155-176 -/
def encode (a : BtcTimeLockArgs) : Bytes :=
  encodeTable [encodeScript a.targetLock, u32Le a.after, a.txid.toInternalBytes]

end BtcTimeLockArgs

/-- Rewrite a lock's args with a zeroed Bitcoin txid. mirrors crates/types/src/protocol.rs:190-204 -/
def argsWithPlaceholderTxid (kind : LockKind) (args : Bytes) : Except TypesError Bytes :=
  match kind with
  | .rgbpp => do
    let parsed ← RgbppLockArgs.parse args
    return { parsed with txid := BtcTxid.placeholder }.encode
  | .btcTime => do
    let parsed ← BtcTimeLockArgs.parse args
    return { parsed with txid := BtcTxid.placeholder }.encode

/-- What a matched cell's lock tells us about its Bitcoin binding.
mirrors crates/types/src/protocol.rs:208-213 -/
inductive LockBinding where
  | rgbpp (a : RgbppLockArgs)
  | btcTime (a : BtcTimeLockArgs)
  deriving DecidableEq, Repr

namespace LockBinding

/-- mirrors crates/types/src/protocol.rs:216-221 -/
def kind : LockBinding → LockKind
  | rgbpp _ => .rgbpp
  | btcTime _ => .btcTime

/-- mirrors crates/types/src/protocol.rs:223-228 -/
def txid : LockBinding → BtcTxid
  | rgbpp a => a.txid
  | btcTime a => a.txid

/-- Only RGB++ locks name a UTXO. mirrors crates/types/src/protocol.rs:231-236 -/
def outPoint : LockBinding → Option BtcOutPoint
  | rgbpp a => some a.outPoint
  | btcTime _ => none

/-- mirrors crates/types/src/protocol.rs:238-243 -/
def parse (kind : LockKind) (args : Bytes) : Except TypesError LockBinding :=
  match kind with
  | .rgbpp => do
    let a ← RgbppLockArgs.parse args
    return .rgbpp a
  | .btcTime => do
    let a ← BtcTimeLockArgs.parse args
    return .btcTime a

/-- The args a binding was read from. -/
def encode : LockBinding → Bytes
  | rgbpp a => a.encode
  | btcTime a => a.encode

end LockBinding

/-! ## Reading args and writing them back -/

theorem RgbppLockArgs.encode_parse {args : Bytes} {a : RgbppLockArgs} (h : parse args = .ok a) : a.encode = args := by
  unfold parse at h
  split at h
  · cases h
  next hlen =>
  simp only [LEN, ne_eq, not_not] at hlen
  obtain ⟨txid, ht, h⟩ := bind_eq_ok.mp h
  rw [pure_eq_ok] at h; subst h
  rw [encode, BtcTxid.fromInternalBytes_eq_ok ht, u32Le_u32OfLe _ (slice_length _ (by omega)),
    slice_append_slice args (by omega) (by omega), slice, List.take_of_length_le (by omega), List.drop_zero]

theorem RgbppLockArgs.parse_encode (a : RgbppLockArgs) : parse a.encode = .ok a := by
  have htxid : a.txid.toInternalBytes.length = 32 := by rw [BtcTxid.toInternalBytes_eq_reverse]; simp
  have hlen : a.encode.length = LEN := by rw [encode, List.length_append, u32Le_length, htxid, LEN]
  have hindex : slice a.encode 0 4 = u32Le a.outIndex := by
    rw [slice, encode, List.take_left' (u32Le_length _), List.drop_zero]
  have hrest : slice a.encode 4 36 = a.txid.toInternalBytes := by
    rw [slice, List.take_of_length_le (by rw [hlen, LEN]), encode, List.drop_left' (u32Le_length _)]
  unfold parse
  rw [if_neg (not_not_intro hlen), hindex, hrest, u32OfLe_u32Le, BtcTxid.fromInternalBytes_toInternalBytes]
  rfl

theorem BtcTimeLockArgs.parse_eq_ok {args : Bytes} {a : BtcTimeLockArgs} (h : parse args = .ok a) :
    ∃ lock after txid, readTableFields args = .ok [lock, after, txid] ∧ decodeScript lock = .ok a.targetLock ∧
      after.length = 4 ∧ a.after = u32OfLe after ∧ BtcTxid.fromInternalBytes txid = .ok a.txid := by
  unfold parse at h
  obtain ⟨fields, hf, h⟩ := bind_eq_ok.mp h
  split at h
  · next lock after txid =>
    obtain ⟨targetLock, hl, h⟩ := bind_eq_ok.mp h
    split at h
    · cases h
    next hafter =>
    obtain ⟨t, ht, h⟩ := bind_eq_ok.mp h
    rw [pure_eq_ok] at h; subst h
    exact ⟨lock, after, txid, hf, hl, by simpa using hafter, rfl, ht⟩
  · cases h

theorem BtcTimeLockArgs.encode_parse {args : Bytes} {a : BtcTimeLockArgs} (h : parse args = .ok a) :
    a.encode = args := by
  obtain ⟨lock, after, txid, hf, hl, hlen, ha, ht⟩ := parse_eq_ok h
  rw [encode, encodeScript_decodeScript hl, ha, u32Le_u32OfLe _ hlen, BtcTxid.fromInternalBytes_eq_ok ht]
  exact encodeTable_readTableFields hf

/-- Parsing accepts only canonical args. -/
theorem LockBinding.encode_parse {kind : LockKind} {args : Bytes} {b : LockBinding} (h : parse kind args = .ok b) :
    b.encode = args ∧ b.kind = kind := by
  cases kind with
  | rgbpp =>
    obtain ⟨a, ha, h⟩ := bind_eq_ok.mp h
    rw [pure_eq_ok] at h; subst h
    exact ⟨RgbppLockArgs.encode_parse ha, rfl⟩
  | btcTime =>
    obtain ⟨a, ha, h⟩ := bind_eq_ok.mp h
    rw [pure_eq_ok] at h; subst h
    exact ⟨BtcTimeLockArgs.encode_parse ha, rfl⟩

namespace LockBinding

/-- The args of a binding before its txid. -/
def argsBeforeTxid (b : LockBinding) : Bytes := b.encode.take (b.encode.length - 32)

def withTxid (t : BtcTxid) : LockBinding → LockBinding
  | rgbpp a => rgbpp { a with txid := t }
  | btcTime a => btcTime { a with txid := t }

/-- The offset words of a table read the lengths of its fields only. -/
theorem tableOffsets_congr {off : Nat} {fs gs : List Bytes} (h : fs.map List.length = gs.map List.length) :
    tableOffsets off fs = tableOffsets off gs := by
  induction fs generalizing gs off with
  | nil => rw [List.map_nil, eq_comm, List.map_eq_nil_iff] at h; rw [h]
  | cons f fs ih =>
    cases gs with
    | nil => simp at h
    | cons g gs =>
      simp only [List.map_cons, List.cons.injEq] at h
      simp only [tableOffsets, h.1, ih h.2]

/-- The txid is the last 32 bytes, and nothing else in the args depends on it. -/
theorem encode_withTxid (b : LockBinding) (t : BtcTxid) :
    (b.withTxid t).encode = b.argsBeforeTxid ++ t.toInternalBytes := by
  cases b with
  | rgbpp a =>
    simp only [withTxid, argsBeforeTxid, encode, RgbppLockArgs.encode]
    rw [List.take_left' (by simp)]
  | btcTime a =>
    simp only [withTxid, argsBeforeTxid, encode, BtcTimeLockArgs.encode]
    have hsplit : ∀ u : BtcTxid, encodeTable [encodeScript a.targetLock, u32Le a.after, u.toInternalBytes] =
        (lenLe (16 + ((encodeScript a.targetLock).length + 36)) ++
          tableOffsets 16 [encodeScript a.targetLock, u32Le a.after, t.toInternalBytes] ++
          (encodeScript a.targetLock ++ u32Le a.after)) ++ u.toInternalBytes := by
      intro u
      have ho : tableOffsets 16 [encodeScript a.targetLock, u32Le a.after, u.toInternalBytes] =
          tableOffsets 16 [encodeScript a.targetLock, u32Le a.after, t.toInternalBytes] :=
        tableOffsets_congr (by simp)
      simp only [encodeTable, List.length_cons, List.length_nil, List.flatten_cons, List.flatten_nil,
        List.append_nil, List.length_append, u32Le_length, BtcTxid.toInternalBytes_length, List.append_assoc, ho]
    rw [hsplit a.txid, List.take_left' (by simp; omega), hsplit t]

theorem encode_eq (b : LockBinding) : b.encode = b.argsBeforeTxid ++ b.txid.toInternalBytes := by
  rw [← encode_withTxid]; cases b <;> rfl

end LockBinding

/-- The rewrite zeroes the 32 bytes of the txid and keeps every other byte. -/
theorem argsWithPlaceholderTxid_eq {kind : LockKind} {args : Bytes} {b : LockBinding}
    (h : LockBinding.parse kind args = .ok b) :
    argsWithPlaceholderTxid kind args = .ok (b.argsBeforeTxid ++ BtcTxid.placeholder.toInternalBytes) := by
  rw [← LockBinding.encode_withTxid]
  cases kind with
  | rgbpp =>
    obtain ⟨a, ha, h⟩ := bind_eq_ok.mp h
    rw [pure_eq_ok] at h; subst h
    exact bind_eq_ok.mpr ⟨a, ha, rfl⟩
  | btcTime =>
    obtain ⟨a, ha, h⟩ := bind_eq_ok.mp h
    rw [pure_eq_ok] at h; subst h
    exact bind_eq_ok.mpr ⟨a, ha, rfl⟩

end RgbppIndexer
