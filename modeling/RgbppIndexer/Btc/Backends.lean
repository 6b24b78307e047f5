import RgbppIndexer.Btc.Esplora
import RgbppIndexer.Btc.Outspends
import RgbppIndexer.Core.Decimal

/-!
# Two backends of one ledger

An operator may point the indexer at an Esplora server or at a Blockbook
(`crates/node/src/main.rs`, `btc.kind`), and the rows one of them wrote stay
when the other takes over. Here both serve one ledger, truthfully as far as
they answer at all, and the rest of Blockbook is read from its source: the
whole transaction (`crates/btc/src/blockbook.rs:278-312`) and the outputs of an
address (370-391).

* `voutStatus_truly`: what Blockbook says of a spent output is the ledger's
  status, or `Unknown` where no history it walked has the spender.
* `backends_agree`: **no two answers of the two backends contradict each other.**
-/
namespace RgbppIndexer

open RgbppIndexer.Core

namespace Blockbook

/-! ## What the server sends -/

/-- mirrors crates/btc/src/blockbook.rs:161-172 -/
structure VoutBody extends Vout where
  value : String
  hex : String
  deriving DecidableEq, Repr

/-- mirrors crates/btc/src/blockbook.rs:176-187 -/
structure TxBody where
  txid : String
  vin : List Vin
  vout : List VoutBody
  blockHash : Option String
  blockHeight : Option Int64
  blockTime : Option Int64
  fees : Option String
  deriving DecidableEq, Repr

/-- What the questions about outputs read of it. -/
def TxBody.brief (t : TxBody) : Tx :=
  { txid := t.txid, vin := t.vin, vout := t.vout.map VoutBody.toVout, blockHeight := t.blockHeight }

/-- mirrors crates/btc/src/blockbook.rs:191-196 -/
structure AddressBody where
  totalPages : Option Int64
  transactions : List TxBody
  deriving DecidableEq, Repr

def AddressBody.brief (a : AddressBody) : Address :=
  { totalPages := a.totalPages, transactions := a.transactions.map TxBody.brief }

/-- The fields that are read. mirrors crates/btc/src/blockbook.rs:200-208 -/
structure UtxoBody where
  txid : String
  vout : UInt32
  value : String
  deriving DecidableEq, Repr

/-- Satoshi amounts are decimal strings. mirrors crates/btc/src/blockbook.rs:235-238 -/
def parseAmount (s : String) : UInt64 :=
  ((Decimal.parseUnsigned (UInt64.size - 1) s.toList).map UInt64.ofNat).getD 0

/-- mirrors crates/btc/src/blockbook.rs:241-248 -/
def TxBody.blockRef (t : TxBody) : Option BtcBlockRef := do
  let height ← t.blockHeight.filter fun h => decide (0 < h)
  let hash ← t.blockHash
  let hash ← (BtcBlockHash.fromHex hash).toOption
  return { height := height.toInt32.toUInt32, hash := hash, time := t.blockTime.getD 0 }

/-- The backend, and what its server replies. mirrors crates/btc/src/blockbook.rs:26-30 -/
structure Backend where
  baseUrl : String
  /-- the `error` field of a body, if the body is an object and the field a string -/
  error : String → Option String
  txBody : String → Except String TxBody
  addressBody : String → Except String AddressBody
  utxoBodies : String → Except String (List UtxoBody)
  reply : Request → Reply
  utxoReply : String → Reply

def Backend.source (k : Backend) : Source where
  baseUrl := k.baseUrl
  serde :=
    { error := k.error
      tx := fun text => (k.txBody text).map TxBody.brief
      address := fun text => (k.addressBody text).map AddressBody.brief }
  reply := k.reply

def Backend.http (k : Backend) : Http := k.source.http

/-! ## Questions -/

/-- A coinbase input has no previous txid. mirrors crates/btc/src/blockbook.rs:284-291 -/
def readInputs : List Vin → Except BtcError (List BtcOutPoint)
  | [] => .ok []
  | vin :: vins =>
    match vin.txid with
    | none => readInputs vins
    | some prev => do
      let txid ← Esplora.readTxid prev
      return ⟨txid, vin.vout⟩ :: (← readInputs vins)

/-- mirrors crates/btc/src/blockbook.rs:292-303 -/
def readOutput (vout : VoutBody) : Except BtcError BtcTxOutput :=
  match hexDecode (textBytes vout.hex) with
  | .ok script => .ok { value := parseAmount vout.value, scriptPubkey := script, address := vout.addresses.head? }
  | .error e => .error (.decode "vout hex" (hexErrorText e))

/-- mirrors crates/btc/src/blockbook.rs:278-312 -/
def Backend.transaction (k : Backend) (txid : BtcTxid) : Except BtcError (Option BtcTxInfo) := do
  match ← getOpt k.source.serde k.txBody (k.source.url (.tx txid)) (Request.tx txid).path (k.reply (.tx txid)) with
  | none => return none
  | some tx =>
    let inputs ← readInputs tx.vin
    let outputs ← tx.vout.mapM readOutput
    let txid ← Esplora.readTxid tx.txid
    return some
      { txid := txid, confirmation := tx.blockRef, inputs := inputs, outputs := outputs, fee := tx.fees.map parseAmount }

/-- The listing has no block hash, so the confirmation is left unset. mirrors crates/btc/src/blockbook.rs:377-388 -/
def UtxoBody.read (u : UtxoBody) : Except BtcError BtcUtxo := do
  return { outpoint := ⟨← Esplora.readTxid u.txid, u.vout⟩, value := parseAmount u.value, confirmation := none }

/-- mirrors crates/btc/src/blockbook.rs:370-390 -/
def Backend.addressUtxos (k : Backend) (address : String) : Except BtcError (List BtcUtxo) := do
  let path := "api/v2/utxo/" ++ address
  let utxos := (← getOpt k.source.serde k.utxoBodies (k.baseUrl ++ "/" ++ path) path (k.utxoReply address)).getD []
  utxos.mapM UtxoBody.read

/-- The backend as callers see it. -/
def Backend.replies (k : Backend) : BtcReplies where
  transaction := k.transaction
  outpointStatus := outpointStatus k.http
  txOutspends := txOutspends k.http
  addressUtxos := k.addressUtxos

/-! ## What is said of a ledger -/

def amountText (v : UInt64) : String := String.ofList (Nat.toDigits 10 v.toNat)

/-- A height as the server writes it. -/
def heightOf (h : UInt32) : Int64 := Int64.ofNat h.toNat

/-- The body of an output at its place of a transaction. -/
def VoutBody.of (b : BtcLedger) (txid : BtcTxid) (output : BtcTxOutput × Nat) : VoutBody :=
  { n := UInt32.ofNat output.2, addresses := output.1.address.toList
    spent := (b.spender ⟨txid, UInt32.ofNat output.2⟩).isSome
    value := amountText output.1.value, hex := hexText output.1.scriptPubkey }

def UtxoBody.of (u : BtcUtxo) : UtxoBody :=
  { txid := u.outpoint.txid.toHex, vout := u.outpoint.vout, value := amountText u.value }

/-- The body of a transaction. A waiting one has a height that is not positive, or none. -/
structure TxBody.Describes (b : BtcLedger) (t : TxBody) (tx : BtcTxInfo) : Prop where
  txid : t.txid = tx.txid.toHex
  vin : (t.vin.filterMap fun v => v.txid.map fun txid => (txid, v.vout)) = tx.inputs.map fun o => (o.txid.toHex, o.vout)
  vout : t.vout = tx.outputs.zipIdx.map (VoutBody.of b tx.txid)
  waiting : tx.confirmation = none → ∀ height, t.blockHeight = some height → height ≤ 0
  confirmed : ∀ block, tx.confirmation = some block →
    t.blockHeight = some (heightOf block.height) ∧ t.blockHash = some block.hash.toHex ∧ t.blockTime = some block.time
  fees : t.fees.map parseAmount = tx.fee

/-- What a reply says; a request that fails says nothing. -/
def Says {α : Type} (error : String → Option String) (decode : String → Except String α) (answer : Option α) : Reply → Prop
  | .answered status body =>
    status = 404 ∧ answer = none ∨
      isSuccess status = true ∧ ∃ text, body = .ok text ∧
        ((∃ e, error text = some e ∧ saysNotFound e = true ∧ answer = none) ∨
          error text = none ∧ ∃ value, decode text = .ok value ∧ answer = some value)
  | .failed _ => False

/-- Whatever the server says of the ledger is so; it need not list a history whole. -/
structure Backend.Truthful (k : Backend) (b : BtcLedger) : Prop where
  tx : ∀ txid answer, Says k.error k.txBody answer (k.reply (.tx txid)) →
    Option.Rel (TxBody.Describes b) answer (b.transaction txid)
  address : ∀ owner page body, Says k.error k.addressBody (some body) (k.reply (.address owner page)) →
    ∀ t ∈ body.transactions, ∃ tx ∈ b.txs, t.Describes b tx
  utxos : ∀ address answer, Says k.error k.utxoBodies answer (k.utxoReply address) →
    (answer.getD []).Perm ((b.utxos address).map UtxoBody.of)

/-! ## Reading it back -/

@[simp] theorem parseAmount_amountText (v : UInt64) : parseAmount (amountText v) = v := by
  have hfits : v.toNat ≤ UInt64.size - 1 := Nat.le_sub_one_of_lt v.toNat_lt_size
  rw [parseAmount, amountText, String.toList_ofList, Decimal.parseUnsigned_toDigits hfits]
  simp

theorem heightOf_toUInt32 (h : UInt32) : (heightOf h).toInt32.toUInt32 = h := by
  unfold heightOf
  rw [Int64.toInt32_ofNat']
  exact UInt32.toNat_inj.mp (by simp [Int32.ofNat])

theorem heightOf_pos {h : UInt32} : 0 < heightOf h ↔ 0 < h := by
  have hlt := h.toNat_lt
  rw [Int64.lt_iff_toInt_lt, heightOf, Int64.toInt_ofNat_of_lt (by omega), UInt32.lt_iff_toNat_lt]
  simp

theorem UtxoBody.read_of (u : BtcUtxo) : (UtxoBody.of u).read = .ok { u with confirmation := none } := by
  unfold read of
  simp only [Esplora.readTxid_toHex, parseAmount_amountText, ok_bind]
  rfl

theorem readOutput_of (b : BtcLedger) (txid : BtcTxid) (output : BtcTxOutput × Nat) :
    readOutput (VoutBody.of b txid output) = .ok output.1 := by
  unfold readOutput VoutBody.of
  rw [hexDecode_hexText]
  simp

theorem readInputs_eq {vins : List Vin} {inputs : List BtcOutPoint}
    (h : (vins.filterMap fun v => v.txid.map fun txid => (txid, v.vout)) = inputs.map fun o => (o.txid.toHex, o.vout)) :
    readInputs vins = .ok inputs := by
  induction vins generalizing inputs with
  | nil =>
    rw [List.filterMap_nil, eq_comm, List.map_eq_nil_iff] at h
    rw [readInputs, h]
  | cons vin vins ih =>
    unfold readInputs
    cases htxid : vin.txid with
    | none =>
      rw [List.filterMap_cons_none (by rw [htxid]; rfl)] at h
      exact ih h
    | some prev =>
      rw [List.filterMap_cons_some (b := (prev, vin.vout)) (by rw [htxid]; rfl)] at h
      cases inputs with
      | nil => cases h
      | cons o inputs =>
        obtain ⟨hvin, hrest⟩ := List.cons.inj h
        obtain ⟨rfl, hvout⟩ := Prod.mk.inj hvin
        simp only [Esplora.readTxid_toHex, ok_bind, ih hrest, hvout]
        rfl

/-! ## What the histories say -/

section
variable {k : Backend} {b : BtcLedger} {α : Type} {error : String → Option String} {decode : String → Except String α}

/-- An answer is what the reply says. -/
theorem says_of_getOpt {serde : Serde} {url path : String} {r : Reply} {answer : Option α}
    (h : getOpt serde decode url path r = .ok answer) : Says serde.error decode answer r := by
  unfold getOpt at h
  unfold Says
  split at h
  · cases h
  · next status body =>
    dsimp only
    split at h
    · next h404 => exact .inl ⟨h404, (Except.ok.inj h).symm⟩
    · split at h
      · cases h
      · split at h
        · cases h
        · next hsuccess =>
          refine .inr ⟨not_not.mp hsuccess, ?_⟩
          split at h
          · cases h
          · next text =>
            refine ⟨text, rfl, ?_⟩
            split at h
            · next e herror =>
              split at h
              · next hnot => exact .inl ⟨e, herror, hnot, (Except.ok.inj h).symm⟩
              · cases h
            · next herror =>
              split at h
              · next value hdecode => exact .inr ⟨herror, value, hdecode, (Except.ok.inj h).symm⟩
              · cases h

theorem says_map {β : Type} {f : α → β} {answer : Option β} {r : Reply}
    (h : Says error (fun text => (decode text).map f) answer r) :
    ∃ body, Says error decode body r ∧ answer = body.map f := by
  unfold Says at h ⊢
  split at h
  · obtain ⟨h404, rfl⟩ | ⟨hsuccess, text, htext, ⟨e, herror, hnot, rfl⟩ | ⟨herror, value, hvalue, rfl⟩⟩ := h
    · exact ⟨none, .inl ⟨h404, rfl⟩, rfl⟩
    · exact ⟨none, .inr ⟨hsuccess, text, htext, .inl ⟨e, herror, hnot, rfl⟩⟩, rfl⟩
    · dsimp only at hvalue
      cases hdecode : decode text with
      | error e => rw [hdecode] at hvalue; cases hvalue
      | ok body =>
        rw [hdecode] at hvalue
        obtain rfl := Except.ok.inj hvalue
        exact ⟨some body, .inr ⟨hsuccess, text, htext, .inr ⟨herror, body, hdecode, rfl⟩⟩, rfl⟩
  · exact h.elim

/-- What is read of a transaction describes the ledger's. -/
theorem http_tx (h : k.Truthful b) {txid : BtcTxid} {answer : Option Tx} (htx : k.http.tx txid = .ok answer) :
    Option.Rel (fun t tx => ∃ body : TxBody, body.Describes b tx ∧ t = body.brief) answer (b.transaction txid) := by
  obtain ⟨body, hsays, rfl⟩ := says_map (says_of_getOpt htx)
  have hrel := h.tx txid body hsays
  generalize b.transaction txid = known at hrel ⊢
  cases hrel with
  | none => exact .none
  | some hdescribes => exact .some ⟨_, hdescribes, rfl⟩

/-- An entry of a history describes a transaction of the ledger. -/
theorem describes_of_lists (h : k.Truthful b) {entry : Tx} (hlists : k.http.Lists entry) :
    ∃ tx ∈ b.txs, ∃ body : TxBody, body.Describes b tx ∧ entry = body.brief := by
  obtain ⟨owner, page, addressPage, hreply, hmem⟩ := hlists
  obtain ⟨answer, hsays, hanswer⟩ := says_map (says_of_getOpt hreply)
  cases answer with
  | none => cases hanswer
  | some addressBody =>
    obtain rfl := Option.some.inj hanswer
    obtain ⟨t, ht, rfl⟩ := List.mem_map.mp hmem
    obtain ⟨tx, htx, hdescribes⟩ := h.address owner page addressBody hsays t ht
    exact ⟨tx, htx, t, hdescribes, rfl⟩

theorem btcTxidFromHex_toHex (txid : BtcTxid) : resolveInputs.btcTxidFromHex txid.toHex = some txid := by
  unfold resolveInputs.btcTxidFromHex
  dsimp only
  rw [BtcTxid.stripHexMark_toHex, if_neg (by rw [hexEncode_length, BtcTxid.toDisplayVec_length]; omega), hexDecode_hexEncode]
  dsimp only
  rw [BtcTxid.fromDisplaySlice_toDisplayVec]
  rfl

/-- What an entry spends, its transaction spends. -/
theorem mem_inputs_of_spends {body : TxBody} {tx : BtcTxInfo} (hdescribes : body.Describes b tx) {txid : BtcTxid} {vout : UInt32}
    (hspends : body.brief.Spends txid vout) : (⟨txid, vout⟩ : BtcOutPoint) ∈ tx.inputs := by
  obtain ⟨-, vin, hvin, hprev, rfl⟩ := hspends
  obtain ⟨prev, htxid, hread⟩ := Option.bind_eq_some_iff.mp hprev
  have hmem : (prev, vin.vout) ∈ tx.inputs.map fun o => (o.txid.toHex, o.vout) := by
    rw [← hdescribes.vin]
    exact List.mem_filterMap.mpr ⟨vin, hvin, by rw [htxid]; rfl⟩
  obtain ⟨o, ho, heq⟩ := List.mem_map.mp hmem
  obtain ⟨rfl, hvout⟩ := Prod.mk.inj heq
  rw [btcTxidFromHex_toHex] at hread
  rw [← Option.some.inj hread, ← hvout]
  exact ho

/-- The transaction is not in the first block, whose height Blockbook reads as waiting. -/
def PastGenesis (tx : BtcTxInfo) : Prop := ∀ block, tx.confirmation = some block → 0 < block.height

/-- And its status is its transaction's. -/
theorem spendStatus_of_describes {body : TxBody} {tx : BtcTxInfo} (hdescribes : body.Describes b tx)
    (hgenesis : PastGenesis tx) : body.brief.spendStatus = some (BtcLedger.spentBy (some tx)) := by
  unfold Tx.spendStatus BtcLedger.spentBy TxBody.brief
  dsimp only
  rw [hdescribes.txid, btcTxidFromHex_toHex, Option.map_some]
  cases hconfirmation : tx.confirmation with
  | none =>
    have hwaiting := hdescribes.waiting hconfirmation
    cases hheight : body.blockHeight with
    | none => rfl
    | some height =>
      have hle := hwaiting height hheight
      dsimp only
      rw [if_neg (Int64.not_lt.mpr hle)]
  | some block =>
    obtain ⟨hheight, -, -⟩ := hdescribes.confirmed block hconfirmation
    dsimp only
    rw [hheight]
    dsimp only
    rw [if_pos (heightOf_pos.mpr (hgenesis block hconfirmation)), heightOf_toUInt32]

/-- What walks resolved of an output is its status in the ledger. -/
theorem resolved_truly (h : k.Truthful b) {txid : BtcTxid} {resolved : Resolved} (hsaid : Said k.http txid resolved)
    {vout : UInt32} {status : OutpointSpendStatus} (hgenesis : ∀ tx, b.spender ⟨txid, vout⟩ = some tx → PastGenesis tx)
    (hget : resolved.get vout = some status) :
    ∃ tx, b.spender ⟨txid, vout⟩ = some tx ∧ status = BtcLedger.spentBy (some tx) := by
  obtain ⟨entry, hlists, hspends, hstatus⟩ := hsaid vout status hget
  obtain ⟨tx, htx, body, hdescribes, rfl⟩ := describes_of_lists h hlists
  have hspender := BtcLedger.spender_eq_some.mpr ⟨htx, mem_inputs_of_spends hdescribes hspends⟩
  rw [spendStatus_of_describes hdescribes (hgenesis tx hspender)] at hstatus
  exact ⟨tx, hspender, (Option.some.inj hstatus).symm⟩

/-! ## The status of an output -/

/-- An answer that is the ledger's, or owns up to not knowing who spent the output. -/
def SaysOrUnknown (b : BtcLedger) (o : BtcOutPoint) (status : OutpointSpendStatus) : Prop :=
  status = b.status o ∨ status = .unknown ∧ (b.spender o).isSome = true

/-- **The status of an output, from whatever histories were walked.** -/
theorem voutStatus_truly (h : k.Truthful b) {o : BtcOutPoint} (hgenesis : ∀ tx, b.spender o = some tx → PastGenesis tx)
    (ho : (b.output o).isSome = true) {resolved : Resolved} (hsaid : Said k.http o.txid resolved) {v : Vout} (hn : v.n = o.vout)
    (hspent : v.spent = (b.spender o).isSome) : SaysOrUnknown b o (voutStatus resolved v) := by
  unfold SaysOrUnknown voutStatus
  rw [BtcLedger.status_eq ho, hspent, hn]
  cases hspender : b.spender o with
  | none => exact .inl rfl
  | some tx =>
    rw [Option.isSome_some, if_pos rfl]
    cases hget : resolved.get o.vout with
    | none => exact .inr ⟨rfl, rfl⟩
    | some status =>
      obtain ⟨tx', hspender', rfl⟩ := resolved_truly h hsaid hgenesis hget
      left
      rw [← Option.some.inj (hspender.symm.trans hspender'), Option.getD_some]

/-- The outputs of a body stand under their places. -/
theorem nodup_vouts {body : TxBody} {tx : BtcTxInfo} (hdescribes : body.Describes b tx) (htx : tx ∈ b.txs) :
    (body.brief.vout.map Vout.n).Nodup := by
  have hplaces : body.brief.vout.map Vout.n = (List.range tx.outputs.length).map UInt32.ofNat := by
    unfold TxBody.brief
    rw [hdescribes.vout, List.map_map, List.map_map, List.range_eq_range', ← List.zipIdx_map_snd, List.map_map]
    rfl
  rw [hplaces, List.nodup_map_iff_inj_on List.nodup_range]
  intro i hi j hj heq
  have hfits := b.fits tx htx
  rw [List.mem_range] at hi hj
  have hnat := congrArg UInt32.toNat heq
  rw [UInt32.toNat_ofNat_of_lt' (hi.trans hfits), UInt32.toNat_ofNat_of_lt' (hj.trans hfits)] at hnat
  exact hnat

variable {o : BtcOutPoint}

/-- The output that is asked about, in the body of its transaction. -/
theorem find_vout {body : TxBody} {tx : BtcTxInfo} (hdescribes : body.Describes b tx) (htx : b.transaction o.txid = some tx)
    (hvout : o.vout.toNat < tx.outputs.length) :
    ∃ v : Vout, (body.brief.vout.find? fun v => v.n = o.vout) = some v ∧ v.n = o.vout ∧ v.spent = (b.spender o).isSome := by
  obtain ⟨hmem, htxid⟩ := BtcLedger.transaction_eq_some.mp htx
  let v : Vout := (VoutBody.of b tx.txid (tx.outputs[o.vout.toNat], o.vout.toNat)).toVout
  have hn : v.n = o.vout := UInt32.ofNat_toNat
  have hv : v ∈ body.brief.vout := by
    refine List.mem_map_of_mem ?_
    rw [hdescribes.vout]
    exact List.mem_map_of_mem (List.mem_zipIdx_iff_getElem?.mpr (List.getElem?_eq_getElem hvout))
  have hfind := find?_of_key (nodup_vouts hdescribes hmem) hv
  rw [hn] at hfind
  refine ⟨v, hfind, hn, ?_⟩
  show (b.spender ⟨tx.txid, UInt32.ofNat o.vout.toNat⟩).isSome = _
  rw [UInt32.ofNat_toNat, htxid]

/-- The transaction of an output that is there is answered with its body, if it is answered. -/
theorem exists_body (h : k.Truthful b) {tx : BtcTxInfo} (htx : b.transaction o.txid = some tx) {answer : Option Tx}
    (hanswer : k.http.tx o.txid = .ok answer) : ∃ body : TxBody, body.Describes b tx ∧ answer = some body.brief := by
  have hrel := http_tx h hanswer
  rw [htx] at hrel
  cases hrel with
  | some hbody =>
    obtain ⟨body, hdescribes, rfl⟩ := hbody
    exact ⟨body, hdescribes, rfl⟩

theorem outpointStatus_truly (h : k.Truthful b) (hgenesis : ∀ tx, b.spender o = some tx → PastGenesis tx)
    (ho : (b.output o).isSome = true) {status : OutpointSpendStatus}
    (hstatus : outpointStatus k.http o = .ok status) : SaysOrUnknown b o status := by
  obtain ⟨tx, htx, hvout⟩ := BtcLedger.exists_of_output ho
  cases hreply : k.http.tx o.txid with
  | error e =>
    rw [outpointStatus_of_error hreply] at hstatus
    cases hstatus
  | ok answer =>
    obtain ⟨body, hdescribes, rfl⟩ := exists_body h htx hreply
    obtain ⟨v, hfind, hn, hspent⟩ := find_vout hdescribes htx hvout
    rw [outpointStatus_of_some hreply, hfind] at hstatus
    rw [← Except.ok.inj hstatus]
    exact voutStatus_truly h hgenesis ho (said_resolveSpenders k.http o.txid _) hn hspent

theorem txOutspends_truly (h : k.Truthful b) (hgenesis : ∀ tx, b.spender o = some tx → PastGenesis tx)
    (ho : (b.output o).isSome = true) {statuses : List OutpointSpendStatus}
    (hstatuses : txOutspends k.http o.txid = .ok (some statuses)) :
    SaysOrUnknown b o (statuses.getD o.vout.toNat .unknown) := by
  obtain ⟨tx, htx, hvout⟩ := BtcLedger.exists_of_output ho
  cases hreply : k.http.tx o.txid with
  | error e =>
    rw [txOutspends_of_error hreply] at hstatuses
    cases hstatuses
  | ok answer =>
    obtain ⟨body, hdescribes, rfl⟩ := exists_body h htx hreply
    obtain ⟨v, hfind, hn, hspent⟩ := find_vout hdescribes htx hvout
    rw [txOutspends_of_some hreply] at hstatuses
    rw [← Option.some.inj (Except.ok.inj hstatuses),
      getD_outspends _ (nodup_vouts hdescribes (BtcLedger.transaction_eq_some.mp htx).1), hfind]
    exact voutStatus_truly h hgenesis ho (said_resolveSpenders k.http o.txid _) hn hspent

/-- Every status of a call. -/
theorem observed_truly (h : k.Truthful b) (hgenesis : ∀ tx, b.spender o = some tx → PastGenesis tx)
    (ho : (b.output o).isSome = true) {completion : Completion} {outpoints : List BtcOutPoint} {status : OutpointSpendStatus}
    (hmem : (o, .ok status) ∈ observeMany k.replies completion outpoints) : SaysOrUnknown b o status := by
  rcases says_of_mem_observeMany hmem with hsingle | ⟨statuses, hbatch, rfl⟩
  · exact outpointStatus_truly h hgenesis ho hsingle
  · exact txOutspends_truly h hgenesis ho hbatch

/-! ## Transactions and addresses -/

theorem blockRef_of_describes {body : TxBody} {tx : BtcTxInfo} (hdescribes : body.Describes b tx)
    (hgenesis : PastGenesis tx) : body.blockRef = tx.confirmation := by
  unfold TxBody.blockRef
  cases hconfirmation : tx.confirmation with
  | none =>
    have hwaiting := hdescribes.waiting hconfirmation
    cases hheight : body.blockHeight with
    | none => rfl
    | some height =>
      have hnot : ¬ 0 < height := Int64.not_lt.mpr (hwaiting height hheight)
      rw [Option.filter_some, if_neg (by simpa using hnot)]
      rfl
  | some block =>
    obtain ⟨hheight, hhash, htime⟩ := hdescribes.confirmed block hconfirmation
    have hpos := heightOf_pos.mpr (hgenesis block hconfirmation)
    rw [hheight, hhash, htime, Option.filter_some, if_pos (decide_eq_true hpos)]
    simp only [Option.bind_eq_bind, Option.bind_some, BtcBlockHash.fromHex_toHex, heightOf_toUInt32, Option.getD_some]
    rfl

theorem transaction_truly (h : k.Truthful b) {txid : BtcTxid} {answer : Option BtcTxInfo}
    (hgenesis : ∀ tx, b.transaction txid = some tx → PastGenesis tx) (hanswer : k.transaction txid = .ok answer) :
    answer = b.transaction txid := by
  unfold Backend.transaction at hanswer
  obtain ⟨body, hbody, hrest⟩ := bind_eq_ok.mp hanswer
  have hrel := h.tx txid body (says_of_getOpt hbody)
  cases htx : b.transaction txid with
  | none =>
    rw [htx] at hrel
    cases hrel
    cases hrest
    rfl
  | some tx =>
    rw [htx] at hrel
    cases hrel with
    | @some t _ hdescribes =>
      dsimp only at hrest
      rw [readInputs_eq hdescribes.vin, hdescribes.vout, mapM_map_eq_ok fun output _ => readOutput_of b tx.txid output,
        hdescribes.txid, hdescribes.fees, blockRef_of_describes hdescribes (hgenesis tx htx)] at hrest
      simp only [ok_bind, Esplora.readTxid_toHex, pure_eq_ok, List.zipIdx_map_fst] at hrest
      exact hrest.symm

theorem addressUtxos_truly (h : k.Truthful b) {address : String} {utxos : List BtcUtxo}
    (hutxos : k.addressUtxos address = .ok utxos) :
    utxos.Perm ((b.utxos address).map fun u => { u with confirmation := none }) := by
  unfold Backend.addressUtxos at hutxos
  obtain ⟨body, hbody, hrest⟩ := bind_eq_ok.mp hutxos
  exact perm_of_mapM_eq_ok (fun u _ => UtxoBody.read_of u) (h.utxos address body (says_of_getOpt hbody)) hrest

end

/-- **No two answers of the two backends contradict each other**, whenever and with whatever others they are asked,
unless the transaction in question, or the spender of the output, is in the first block. -/
theorem backends_agree (b : BtcLedger) (e : Esplora.Source) (he : e.Truthful b) (k : Backend) (hk : k.Truthful b) :
    (∀ txid answer answer', (∀ tx, b.transaction txid = some tx → PastGenesis tx) →
      e.transaction txid = .ok answer → k.transaction txid = .ok answer' → answer = answer') ∧
    (∀ (completion completion' : Completion) (outpoints outpoints' : List BtcOutPoint) (o : BtcOutPoint)
      (status status' : OutpointSpendStatus), (b.output o).isSome = true → (∀ tx, b.spender o = some tx → PastGenesis tx) →
      (o, .ok status) ∈ observeMany e.replies completion outpoints →
      (o, .ok status') ∈ observeMany k.replies completion' outpoints' →
        status' = status ∨ status' = .unknown ∧ status.isSpent = true) ∧
    ∀ address utxos utxos', e.addressUtxos address = .ok utxos → k.addressUtxos address = .ok utxos' →
      utxos'.Perm (utxos.map fun u => { u with confirmation := none }) := by
  refine ⟨?_, ?_, ?_⟩
  · intro txid answer answer' hgenesis hanswer hanswer'
    rw [Esplora.transaction_truly he hanswer, transaction_truly hk hgenesis hanswer']
  · intro completion completion' outpoints outpoints' o status status' ho hgenesis hmem hmem'
    obtain rfl := Esplora.observed_truly he ho hmem
    rcases observed_truly hk hgenesis ho hmem' with hsame | ⟨hunknown, hspent⟩
    · exact .inl hsame
    · obtain ⟨tx, hspender⟩ := Option.isSome_iff_exists.mp hspent
      refine .inr ⟨hunknown, ?_⟩
      rw [BtcLedger.status_eq ho, hspender]
      exact BtcLedger.isSpent_spentBy tx
  · intro address utxos utxos' hutxos hutxos'
    exact (addressUtxos_truly hk hutxos').trans ((Esplora.addressUtxos_truly he hutxos).map _).symm

/-! ## A server -/

def fundingBody : TxBody :=
  { txid := Esplora.funding.txid.toHex, vin := [⟨none, 0⟩]
    vout := Esplora.funding.outputs.zipIdx.map (VoutBody.of Esplora.twoTxs Esplora.funding.txid)
    blockHash := some (BtcBlockHash.toHex ⟨ByteArr.zero 32⟩), blockHeight := some (heightOf 800000), blockTime := some 1690000000
    fees := none }

def spendingBody : TxBody :=
  { txid := Esplora.spending.txid.toHex, vin := [⟨some Esplora.funding.txid.toHex, 0⟩]
    vout := Esplora.spending.outputs.zipIdx.map (VoutBody.of Esplora.twoTxs Esplora.spending.txid)
    blockHash := none, blockHeight := some (-1), blockTime := none, fees := some (amountText 1000) }

/-- It has the first page of one history. -/
def listing : Backend where
  baseUrl := "https://btc1.trezor.io"
  error := fun _ => none
  txBody := fun _ => .ok fundingBody
  addressBody := fun _ => .ok { totalPages := some 1, transactions := [spendingBody] }
  utxoBodies := fun _ => .error "expected value"
  reply
    | .tx txid => if txid = Esplora.funding.txid then .answered 200 (.ok "") else .answered 500 (.ok "")
    | .address owner page => if owner = "alice" ∧ page = 1 then .answered 200 (.ok "") else .failed "timed out"
  utxoReply := fun _ => .failed "timed out"

theorem fundingBody_describes : fundingBody.Describes Esplora.twoTxs Esplora.funding where
  txid := rfl
  vin := rfl
  vout := rfl
  waiting := nofun
  confirmed := by
    intro block hblock
    obtain rfl := Option.some.inj hblock
    exact ⟨rfl, rfl, rfl⟩
  fees := rfl

theorem spendingBody_describes : spendingBody.Describes Esplora.twoTxs Esplora.spending where
  txid := rfl
  vin := rfl
  vout := rfl
  waiting := by
    intro _ height hheight
    obtain rfl := Option.some.inj hheight
    decide
  confirmed := nofun
  fees := congrArg some (parseAmount_amountText 1000)

theorem listing_truthful : listing.Truthful Esplora.twoTxs where
  tx := by
    intro txid answer hsays
    by_cases htxid : txid = Esplora.funding.txid
    · subst htxid
      obtain ⟨h404, -⟩ | ⟨-, text, htext, ⟨e, herror, -, -⟩ | ⟨-, value, hvalue, rfl⟩⟩ := hsays
      · cases h404
      · cases herror
      · cases htext
        cases hvalue
        exact .some fundingBody_describes
    · simp [listing, htxid, Says, isSuccess] at hsays
  address := by
    intro owner page body hsays t ht
    by_cases hpage : owner = "alice" ∧ page = 1
    · obtain ⟨rfl, rfl⟩ := hpage
      obtain ⟨-, hnone⟩ | ⟨-, text, htext, ⟨e, herror, -, -⟩ | ⟨-, value, hvalue, hbody⟩⟩ := hsays
      · cases hnone
      · cases herror
      · cases hvalue
        obtain rfl := Option.some.inj hbody
        obtain rfl := List.mem_singleton.mp ht
        exact ⟨Esplora.spending, by decide, spendingBody_describes⟩
    · simp [listing, hpage, Says] at hsays
  utxos := by
    intro address answer hsays
    simp [listing, Says] at hsays

theorem pastGenesis_spending : PastGenesis Esplora.spending := by
  intro block hblock
  cases hblock

theorem backends_agree_twoTxs :
    ∃ status status', (⟨Esplora.funding.txid, 0⟩, .ok status) ∈ observeMany Esplora.refusing.replies .inOrder [⟨Esplora.funding.txid, 0⟩] ∧
      (⟨Esplora.funding.txid, 0⟩, .ok status') ∈ observeMany listing.replies .inOrder [⟨Esplora.funding.txid, 0⟩] ∧
      (status' = status ∨ status' = .unknown ∧ status.isSpent = true) := by
  refine ⟨.spentUnconfirmed Esplora.spending.txid, .spentUnconfirmed Esplora.spending.txid, ?_, ?_, ?_⟩
  · decide +kernel
  · decide +kernel
  · refine (backends_agree Esplora.twoTxs Esplora.refusing Esplora.refusing_truthful listing listing_truthful).2.1 .inOrder
      .inOrder [⟨Esplora.funding.txid, 0⟩] [⟨Esplora.funding.txid, 0⟩] ⟨Esplora.funding.txid, 0⟩ _ _ (by decide) ?_
      (by decide +kernel) (by decide +kernel)
    intro tx htx
    have hspender : Esplora.twoTxs.spender ⟨Esplora.funding.txid, 0⟩ = some Esplora.spending := by decide +kernel
    rw [hspender] at htx
    exact Option.some.inj htx ▸ pastGenesis_spending

end Blockbook
end RgbppIndexer
