import RgbppIndexer.Btc.AddressPath
import RgbppIndexer.Btc.BlockbookHttp
import RgbppIndexer.Btc.Ledger

/-!
# The Esplora backend

`crates/btc/src/esplora.rs`: one request for each question, and a reply that is
read as an answer, as no answer (404), or as an error. `serde_json` is a
parameter (`Serde`), and so is what the server replies.

**Truth (`Truthful`, a hypothesis about the server).** Whatever the server says
of a ledger is so. It may refuse any request, break off, answer with a body
that does not parse, or answer as it likes about outputs the ledger does not have.

**Results.**
* `getOpt_eq_ok`: what a reply says is what is read from it.
* `observes_truly`: every answer of `transaction`, `observe_many` and
  `address_utxos` is the ledger's, whatever fails in between; and a failing
  `/outspends` takes no answer away that the outpoint's own request has.
-/
namespace RgbppIndexer

open RgbppIndexer.Core

/-- How a byte that is no hex digit is shown, as a `char` in `Debug`. -/
def debugByte (c : UInt8) : String :=
  if c = 0 then "'\\0'"
  else if c = 9 then "'\\t'"
  else if c = 10 then "'\\n'"
  else if c = 13 then "'\\r'"
  else if c = 39 then "'\\''"
  else if c = 92 then "'\\\\'"
  else if c < 32 ∨ 127 ≤ c ∧ c ≤ 160 ∨ c = 173 then "'\\u\x7b" ++ String.ofList (Nat.toDigits 16 c.toNat) ++ "\x7d'"
  else "'" ++ String.singleton (Char.ofNat c.toNat) ++ "'"

/-- `Display` of `hex::FromHexError`. -/
def hexErrorText : FromHexError → String
  | .invalidHexCharacter c index => "Invalid character " ++ debugByte c ++ " at position " ++ toString index
  | .oddLength => "Odd number of digits"
  | .invalidStringLength => "Invalid string length"

namespace Esplora

/-! ## What the server sends -/

/-- mirrors crates/btc/src/esplora.rs:74-79 -/
structure Status where
  confirmed : Bool
  blockHeight : Option UInt32
  blockHash : Option String
  blockTime : Option Int64
  deriving DecidableEq, Repr

/-- mirrors crates/btc/src/esplora.rs:82-91 -/
def Status.toBlockRef (s : Status) : Option BtcBlockRef :=
  if s.confirmed then do
    let height ← s.blockHeight
    let hash ← s.blockHash
    let hash ← (BtcBlockHash.fromHex hash).toOption
    return { height := height, hash := hash, time := s.blockTime.getD 0 }
  else none

/-- mirrors crates/btc/src/esplora.rs:95-100 -/
structure Vin where
  txid : String
  vout : UInt32
  isCoinbase : Bool
  deriving DecidableEq, Repr

/-- mirrors crates/btc/src/esplora.rs:103-109 -/
structure Vout where
  scriptpubkey : String
  scriptpubkeyAddress : Option String
  value : UInt64
  deriving DecidableEq, Repr

/-- mirrors crates/btc/src/esplora.rs:112-119 -/
structure Tx where
  txid : String
  fee : Option UInt64
  vin : List Vin
  vout : List Vout
  status : Status
  deriving DecidableEq, Repr

/-- mirrors crates/btc/src/esplora.rs:122-128 -/
structure Outspend where
  spent : Bool
  txid : Option String
  status : Option Status
  deriving DecidableEq, Repr

/-- mirrors crates/btc/src/esplora.rs:151-156 -/
structure Utxo where
  txid : String
  vout : UInt32
  value : UInt64
  status : Status
  deriving DecidableEq, Repr

/-- `BtcTxid::from_hex(…)?`. -/
def readTxid (s : String) : Except BtcError BtcTxid :=
  match BtcTxid.fromHex s with
  | .ok txid => .ok txid
  | .error e => .error (.types e)

/-- mirrors crates/btc/src/esplora.rs:131-147 -/
def Outspend.toStatus (o : Outspend) : Except BtcError OutpointSpendStatus :=
  if ¬ o.spent then .ok .unspent
  else do
    let spender ← match o.txid with
      | some spender => .ok spender
      | none => .error (.decode "outspend" "spent=true without a spender txid")
    let spender ← readTxid spender
    match o.status.bind Status.toBlockRef with
    | some block => return .spentConfirmed spender block.height
    | none => return .spentUnconfirmed spender

/-! ## Requests -/

inductive Request where
  | tx (txid : BtcTxid)
  | outspend (outpoint : BtcOutPoint)
  | outspends (txid : BtcTxid)
  | utxo (address : String)
  deriving DecidableEq, Repr

/-- mirrors crates/btc/src/esplora.rs:191, 225, 236 and 249 -/
def Request.path : Request → String
  | .tx txid => "tx/" ++ txid.toHex
  | .outspend outpoint => "tx/" ++ outpoint.txid.toHex ++ "/outspend/" ++ toString outpoint.vout.toNat
  | .outspends txid => "tx/" ++ txid.toHex ++ "/outspends"
  | .utxo address => addressUtxosPath address

/-- How bodies are read. -/
structure Serde where
  tx : String → Except String Tx
  outspend : String → Except String Outspend
  outspends : String → Except String (List Outspend)
  utxos : String → Except String (List Utxo)

/-- The backend, and what its server replies. mirrors crates/btc/src/esplora.rs:20-24 -/
structure Source extends EsploraSource where
  serde : Serde
  reply : Request → Blockbook.Reply

/-- mirrors crates/btc/src/esplora.rs:53-70 -/
def getTextOpt (url : String) : Blockbook.Reply → Except BtcError (Option String)
  | .failed msg => .error (.transport msg)
  | .answered status body =>
    if status = 404 then .ok none
    else if status = 429 then .error (.rateLimited url)
    else if ¬ Blockbook.isSuccess status then .error (.status status url)
    else
      match body with
      | .error msg => .error (.transport msg)
      | .ok text => .ok (some text)

/-- mirrors crates/btc/src/esplora.rs:44-51 -/
def Source.getOpt {α : Type} (s : Source) (decode : String → Except String α) (q : Request) :
    Except BtcError (Option α) := do
  match ← getTextOpt (s.url q.path) (s.reply q) with
  | none => return none
  | some text =>
    match decode text with
    | .ok value => return some value
    | .error e => .error (.decode "esplora response" (q.path ++ ": " ++ e))

/-! ## Questions -/

/-- mirrors crates/btc/src/esplora.rs:195-201 -/
def readInputs : List Vin → Except BtcError (List BtcOutPoint)
  | [] => .ok []
  | vin :: vins =>
    if vin.isCoinbase then readInputs vins
    else do
      let txid ← readTxid vin.txid
      return ⟨txid, vin.vout⟩ :: (← readInputs vins)

/-- mirrors crates/btc/src/esplora.rs:205-213 -/
def readOutput (vout : Vout) : Except BtcError BtcTxOutput :=
  match hexDecode (textBytes vout.scriptpubkey) with
  | .ok script => .ok { value := vout.value, scriptPubkey := script, address := vout.scriptpubkeyAddress }
  | .error e => .error (.decode "scriptpubkey" (hexErrorText e))

/-- mirrors crates/btc/src/esplora.rs:190-222 -/
def Source.transaction (s : Source) (txid : BtcTxid) : Except BtcError (Option BtcTxInfo) := do
  match ← s.getOpt s.serde.tx (.tx txid) with
  | none => return none
  | some tx =>
    let inputs ← readInputs tx.vin
    let outputs ← tx.vout.mapM readOutput
    let txid ← readTxid tx.txid
    return some { txid := txid, confirmation := tx.status.toBlockRef, inputs := inputs, outputs := outputs, fee := tx.fee }

/-- A 404 means that the funding transaction is not seen at all. mirrors crates/btc/src/esplora.rs:224-232 -/
def Source.outpointStatus (s : Source) (outpoint : BtcOutPoint) : Except BtcError OutpointSpendStatus := do
  match ← s.getOpt s.serde.outspend (.outspend outpoint) with
  | none => return .unknown
  | some outspend => outspend.toStatus

/-- mirrors crates/btc/src/esplora.rs:234-245 -/
def Source.txOutspends (s : Source) (txid : BtcTxid) : Except BtcError (Option (List OutpointSpendStatus)) := do
  match ← s.getOpt s.serde.outspends (.outspends txid) with
  | none => return none
  | some outspends => return some (← outspends.mapM Outspend.toStatus)

/-- mirrors crates/btc/src/esplora.rs:254-260 -/
def Utxo.read (u : Utxo) : Except BtcError BtcUtxo := do
  return { outpoint := ⟨← readTxid u.txid, u.vout⟩, value := u.value, confirmation := u.status.toBlockRef }

/-- mirrors crates/btc/src/esplora.rs:247-262 -/
def Source.addressUtxos (s : Source) (address : String) : Except BtcError (List BtcUtxo) := do
  let utxos := (← s.getOpt s.serde.utxos (.utxo address)).getD []
  utxos.mapM Utxo.read

/-- The backend as callers see it. -/
def Source.replies (s : Source) : BtcReplies where
  transaction := s.transaction
  outpointStatus := s.outpointStatus
  txOutspends := s.txOutspends
  addressUtxos := s.addressUtxos

/-! ## What is said of a ledger -/

def Status.of : Option BtcBlockRef → Status
  | none => { confirmed := false, blockHeight := none, blockHash := none, blockTime := none }
  | some block =>
    { confirmed := true, blockHeight := some block.height, blockHash := some block.hash.toHex, blockTime := some block.time }

/-- The body about an output with this spender. -/
def Outspend.of : Option BtcTxInfo → Outspend
  | none => { spent := false, txid := none, status := none }
  | some tx => { spent := true, txid := some tx.txid.toHex, status := some (.of tx.confirmation) }

def Vout.of (output : BtcTxOutput) : Vout :=
  { scriptpubkey := hexText output.scriptPubkey, scriptpubkeyAddress := output.address, value := output.value }

def Utxo.of (u : BtcUtxo) : Utxo :=
  { txid := u.outpoint.txid.toHex, vout := u.outpoint.vout, value := u.value, status := .of u.confirmation }

/-- The body of a transaction; a coinbase input may stand anywhere. -/
structure Tx.Describes (t : Tx) (tx : BtcTxInfo) : Prop where
  txid : t.txid = tx.txid.toHex
  fee : t.fee = tx.fee
  vin : (t.vin.filter fun v => !v.isCoinbase) = tx.inputs.map fun o => ⟨o.txid.toHex, o.vout, false⟩
  vout : t.vout = tx.outputs.map Vout.of
  status : t.status = .of tx.confirmation

/-- What a reply says; a request that fails says nothing. -/
def Says {α : Type} (decode : String → Except String α) (answer : Option α) : Blockbook.Reply → Prop
  | .answered status body =>
    status = 404 ∧ answer = none ∨
      Blockbook.isSuccess status = true ∧ ∃ text value, body = .ok text ∧ decode text = .ok value ∧ answer = some value
  | .failed _ => False

/-- Whatever the server says of the ledger is so. -/
structure Source.Truthful (s : Source) (b : BtcLedger) : Prop where
  tx : ∀ txid answer, Says s.serde.tx answer (s.reply (.tx txid)) →
    Option.Rel Tx.Describes answer (b.transaction txid)
  outspend : ∀ o answer, (b.output o).isSome = true → Says s.serde.outspend answer (s.reply (.outspend o)) →
    answer = some (.of (b.spender o))
  outspends : ∀ txid tx answer, b.transaction txid = some tx → Says s.serde.outspends answer (s.reply (.outspends txid)) →
    answer = some ((List.range tx.outputs.length).map fun i => .of (b.spender ⟨txid, UInt32.ofNat i⟩))
  utxos : ∀ address answer, Says s.serde.utxos answer (s.reply (.utxo address)) →
    (answer.getD []).Perm ((b.utxos address).map Utxo.of)

/-! ## Reading it back -/

@[simp] theorem Status.toBlockRef_of (confirmation : Option BtcBlockRef) : (Status.of confirmation).toBlockRef = confirmation := by
  cases confirmation with
  | none => rfl
  | some block =>
    unfold of toBlockRef
    dsimp only
    rw [if_pos rfl]
    simp only [Option.bind_eq_bind, Option.bind_some, BtcBlockHash.fromHex_toHex, Option.getD_some]
    rfl

@[simp] theorem readTxid_toHex (txid : BtcTxid) : readTxid txid.toHex = .ok txid := by
  rw [readTxid, BtcTxid.fromHex_toHex]

theorem Outspend.toStatus_of (spender : Option BtcTxInfo) : (Outspend.of spender).toStatus = .ok (BtcLedger.spentBy spender) := by
  cases spender with
  | none => rfl
  | some tx =>
    unfold of toStatus BtcLedger.spentBy
    rw [if_neg (by simp)]
    simp only [ok_bind, readTxid_toHex, Option.bind_some, Status.toBlockRef_of]
    cases tx.confirmation with
    | none => rfl
    | some block => rfl

theorem readOutput_of (output : BtcTxOutput) : readOutput (Vout.of output) = .ok output := by
  unfold readOutput Vout.of
  rw [hexDecode_hexText]

theorem Utxo.read_of (u : BtcUtxo) : (Utxo.of u).read = .ok u := by
  unfold read of
  simp only [readTxid_toHex, Status.toBlockRef_of, ok_bind]
  rfl

/-- Coinbase inputs are passed over. -/
theorem readInputs_eq {vins : List Vin} {inputs : List BtcOutPoint}
    (h : (vins.filter fun v => !v.isCoinbase) = inputs.map fun o => ⟨o.txid.toHex, o.vout, false⟩) :
    readInputs vins = .ok inputs := by
  induction vins generalizing inputs with
  | nil =>
    rw [List.filter_nil, eq_comm, List.map_eq_nil_iff] at h
    rw [readInputs, h]
  | cons vin vins ih =>
    unfold readInputs
    cases hcoinbase : vin.isCoinbase with
    | true =>
      rw [if_pos rfl]
      exact ih (by rw [← h, List.filter_cons_of_neg (by simp [hcoinbase])])
    | false =>
      rw [List.filter_cons_of_pos (by simp [hcoinbase])] at h
      cases inputs with
      | nil => cases h
      | cons o inputs =>
        obtain ⟨hvin, hrest⟩ := List.cons.inj h
        rw [if_neg (by simp), hvin]
        simp only [readTxid_toHex, ok_bind, ih hrest]
        rfl

/-! ## Every answer is the ledger's -/

section
variable {s : Source} {b : BtcLedger} {α : Type} {decode : String → Except String α} {q : Request}

theorem getTextOpt_eq_none {url : String} {r : Blockbook.Reply} :
    getTextOpt url r = .ok none ↔ ∃ body, r = .answered 404 body := by
  unfold getTextOpt
  split
  · exact iff_of_false nofun nofun
  · next status body =>
    split
    · next h404 => exact iff_of_true rfl ⟨body, by rw [h404]⟩
    · next h404 =>
      refine iff_of_false ?_ ?_
      · split
        · exact nofun
        · split
          · exact nofun
          · split <;> exact nofun
      · rintro ⟨body', heq⟩
        exact h404 (Blockbook.Reply.answered.inj heq).1

theorem getTextOpt_eq_some {url text : String} {r : Blockbook.Reply} :
    getTextOpt url r = .ok (some text) ↔ ∃ status, Blockbook.isSuccess status = true ∧ r = .answered status (.ok text) := by
  unfold getTextOpt
  constructor
  · intro h
    split at h
    · cases h
    · next status body =>
      split at h
      · cases h
      · split at h
        · cases h
        · split at h
          · cases h
          · next hsuccess =>
            split at h
            · cases h
            · obtain rfl := Option.some.inj (Except.ok.inj h)
              exact ⟨status, not_not.mp hsuccess, rfl⟩
  · rintro ⟨status, hsuccess, rfl⟩
    obtain ⟨h404, h429⟩ := Blockbook.isSuccess_ne hsuccess
    dsimp only
    rw [if_neg h404, if_neg h429, if_neg (not_not_intro hsuccess)]

/-- An answer is what the reply says. -/
theorem getOpt_eq_ok {answer : Option α} : s.getOpt decode q = .ok answer ↔ Says decode answer (s.reply q) := by
  unfold Source.getOpt Says
  rw [bind_eq_ok]
  constructor
  · rintro ⟨text?, htext, hread⟩
    cases text? with
    | none =>
      obtain ⟨body, hreply⟩ := getTextOpt_eq_none.mp htext
      rw [hreply]
      exact .inl ⟨rfl, (pure_eq_ok.mp hread).symm⟩
    | some text =>
      obtain ⟨status, hsuccess, hreply⟩ := getTextOpt_eq_some.mp htext
      rw [hreply]
      dsimp only at hread
      split at hread
      · next value hdecode => exact .inr ⟨hsuccess, text, value, rfl, hdecode, (pure_eq_ok.mp hread).symm⟩
      · cases hread
  · intro h
    split at h
    · next status body hreply =>
      rcases h with ⟨rfl, rfl⟩ | ⟨hsuccess, text, value, rfl, hdecode, rfl⟩
      · exact ⟨none, getTextOpt_eq_none.mpr ⟨body, hreply⟩, rfl⟩
      · refine ⟨some text, getTextOpt_eq_some.mpr ⟨status, hsuccess, hreply⟩, ?_⟩
        dsimp only
        rw [hdecode]
        rfl
    · exact h.elim

/-- A transaction that is answered is the ledger's. -/
theorem transaction_truly (h : s.Truthful b) {txid : BtcTxid} {answer : Option BtcTxInfo}
    (hanswer : s.transaction txid = .ok answer) : answer = b.transaction txid := by
  unfold Source.transaction at hanswer
  obtain ⟨body, hbody, hrest⟩ := bind_eq_ok.mp hanswer
  have hrel := h.tx txid body (getOpt_eq_ok.mp hbody)
  generalize b.transaction txid = known at hrel ⊢
  cases hrel with
  | none =>
    cases hrest
    rfl
  | @some t tx hdescribes =>
    dsimp only at hrest
    rw [readInputs_eq hdescribes.vin, hdescribes.vout, mapM_map_eq_ok fun output _ => readOutput_of output,
      hdescribes.txid, hdescribes.fee, hdescribes.status] at hrest
    simp only [ok_bind, readTxid_toHex, Status.toBlockRef_of, List.map_id', pure_eq_ok] at hrest
    exact hrest.symm

variable {o : BtcOutPoint}

/-- And so is the status of an output that is there. -/
theorem outpointStatus_truly (h : s.Truthful b) (ho : (b.output o).isSome = true) {status : OutpointSpendStatus}
    (hstatus : s.outpointStatus o = .ok status) : status = b.status o := by
  unfold Source.outpointStatus at hstatus
  obtain ⟨body, hbody, hrest⟩ := bind_eq_ok.mp hstatus
  rw [h.outspend o body ho (getOpt_eq_ok.mp hbody)] at hrest
  dsimp only at hrest
  rw [Outspend.toStatus_of] at hrest
  rw [BtcLedger.status_eq ho]
  exact (Except.ok.inj hrest).symm

/-- And the list of a transaction. -/
theorem txOutspends_truly (h : s.Truthful b) {txid : BtcTxid} {tx : BtcTxInfo} (htx : b.transaction txid = some tx)
    {answer : Option (List OutpointSpendStatus)} (hanswer : s.txOutspends txid = .ok answer) :
    answer = some (b.statuses tx) := by
  unfold Source.txOutspends at hanswer
  obtain ⟨body, hbody, hrest⟩ := bind_eq_ok.mp hanswer
  rw [h.outspends txid tx body htx (getOpt_eq_ok.mp hbody)] at hrest
  dsimp only at hrest
  rw [mapM_map_eq_ok fun i _ => Outspend.toStatus_of _, ok_bind, pure_eq_ok] at hrest
  obtain rfl := (BtcLedger.transaction_eq_some.mp htx).2
  exact hrest.symm

theorem addressUtxos_truly (h : s.Truthful b) {address : String} {utxos : List BtcUtxo}
    (hutxos : s.addressUtxos address = .ok utxos) : utxos.Perm (b.utxos address) := by
  unfold Source.addressUtxos at hutxos
  obtain ⟨body, hbody, hrest⟩ := bind_eq_ok.mp hutxos
  have hperm := h.utxos address body (getOpt_eq_ok.mp hbody)
  simpa using perm_of_mapM_eq_ok (fun u _ => Utxo.read_of u) hperm hrest

/-- Every status of a call. -/
theorem observed_truly (h : s.Truthful b) (ho : (b.output o).isSome = true) {completion : Completion}
    {outpoints : List BtcOutPoint} {status : OutpointSpendStatus}
    (hmem : (o, .ok status) ∈ observeMany s.replies completion outpoints) : status = b.status o := by
  obtain ⟨tx, htx, -⟩ := BtcLedger.exists_of_output ho
  rcases says_of_mem_observeMany hmem with hsingle | ⟨statuses, hbatch, rfl⟩
  · exact outpointStatus_truly h ho hsingle
  · rw [Option.some.inj (txOutspends_truly h htx hbatch), BtcLedger.getD_statuses ho htx]

/-- An outpoint that is answered on its own is answered in every call. -/
theorem answered_of_outpointStatus {completion : Completion} {outpoints : List BtcOutPoint}
    {answer : Except BtcError OutpointSpendStatus} (hmem : (o, answer) ∈ observeMany s.replies completion outpoints)
    {status : OutpointSpendStatus} (hstatus : s.outpointStatus o = .ok status) : ∃ status', answer = .ok status' := by
  rcases answer_of_mem_observeMany hmem with rfl | ⟨statuses, -, rfl⟩
  · exact ⟨status, hstatus⟩
  · exact ⟨_, rfl⟩

/-- **Every answer is the ledger's**, and a `/outspends` that fails takes no answer away. -/
theorem observes_truly (s : Source) (b : BtcLedger) (h : s.Truthful b) :
    (∀ txid answer, s.transaction txid = .ok answer → answer = b.transaction txid) ∧
    (∀ (completion : Completion) (outpoints : List BtcOutPoint) (o : BtcOutPoint) (answer : Except BtcError OutpointSpendStatus),
      (b.output o).isSome = true → (o, answer) ∈ observeMany s.replies completion outpoints →
        (∀ status, answer = .ok status → status = b.status o) ∧
        ∀ status, s.outpointStatus o = .ok status → answer = .ok (b.status o)) ∧
    ∀ address utxos, s.addressUtxos address = .ok utxos → utxos.Perm (b.utxos address) := by
  refine ⟨fun txid answer => transaction_truly h, ?_, fun address utxos => addressUtxos_truly h⟩
  intro completion outpoints o answer ho hmem
  constructor
  · rintro status rfl
    exact observed_truly h ho hmem
  · intro status hstatus
    obtain ⟨status', rfl⟩ := answered_of_outpointStatus hmem hstatus
    rw [observed_truly h ho hmem]

end

/-! ## A server -/

/-- A transaction with one output, and a waiting one that spends it. -/
def funding : BtcTxInfo where
  txid := ⟨ByteArr.zero 32⟩
  confirmation := some ⟨800000, ⟨ByteArr.zero 32⟩, 1690000000⟩
  inputs := []
  outputs := [⟨5000, [0x51], some "alice"⟩]
  fee := none

def spending : BtcTxInfo where
  txid := ⟨⟨List.replicate 32 1, rfl⟩⟩
  confirmation := none
  inputs := [⟨funding.txid, 0⟩]
  outputs := [⟨4000, [0x52], some "bob"⟩]
  fee := some 1000

def twoTxs : BtcLedger where
  txs := [funding, spending]
  distinct := by decide
  spentOnce := by decide
  fits := by decide

def fundingBody : Tx :=
  { txid := funding.txid.toHex, fee := none, vin := [⟨"", 0xffffffff, true⟩], vout := funding.outputs.map Vout.of,
    status := .of funding.confirmation }

/-- It refuses to list the outspends of a transaction. -/
def refusing : Source where
  baseUrl := "https://mempool.space/api"
  serde :=
    { tx := fun text => if text = "funding" then .ok fundingBody else .error "expected value"
      outspend := fun text => if text = "spent" then .ok (.of (some spending)) else .error "expected value"
      outspends := fun _ => .error "expected value"
      utxos := fun _ => .error "expected value" }
  reply
    | .tx txid => if txid = funding.txid then .answered 200 (.ok "funding") else .answered 503 (.ok "")
    | .outspend o => if o = ⟨funding.txid, 0⟩ then .answered 200 (.ok "spent") else .failed "connection reset"
    | .outspends _ => .answered 429 (.ok "")
    | .utxo _ => .failed "connection reset"

theorem fundingBody_describes : fundingBody.Describes funding := ⟨rfl, rfl, rfl, rfl, rfl⟩

theorem refusing_truthful : refusing.Truthful twoTxs where
  tx := by
    intro txid answer hsays
    show Option.Rel Tx.Describes answer (twoTxs.transaction txid)
    by_cases htxid : txid = funding.txid
    · subst htxid
      obtain ⟨h404, -⟩ | ⟨-, text, value, htext, hvalue, rfl⟩ := hsays
      · cases h404
      · cases htext
        cases hvalue
        exact .some fundingBody_describes
    · simp [refusing, htxid, Says, Blockbook.isSuccess] at hsays
  outspend := by
    intro o answer _ hsays
    by_cases ho : o = ⟨funding.txid, 0⟩
    · subst ho
      obtain ⟨h404, -⟩ | ⟨-, text, value, htext, hvalue, rfl⟩ := hsays
      · cases h404
      · cases htext
        cases hvalue
        rfl
    · simp [refusing, ho, Says] at hsays
  outspends := by
    intro txid tx answer _ hsays
    simp [refusing, Says, Blockbook.isSuccess] at hsays
  utxos := by
    intro address answer hsays
    simp [refusing, Says] at hsays

theorem observes_truly_refused :
    ∃ answer, (⟨funding.txid, 0⟩, answer) ∈ observeMany refusing.replies .inOrder [⟨funding.txid, 0⟩, ⟨funding.txid, 1⟩] ∧
      answer = .ok (.spentUnconfirmed spending.txid) := by
  have hmem : (⟨funding.txid, 0⟩ : BtcOutPoint) ∈
      (observeMany refusing.replies .inOrder [⟨funding.txid, 0⟩, ⟨funding.txid, 1⟩]).map Prod.fst :=
    mem_observeMany.mpr List.mem_cons_self
  obtain ⟨⟨o, answer⟩, hanswer, rfl⟩ := List.mem_map.mp hmem
  have hsome : (twoTxs.output ⟨funding.txid, 0⟩).isSome = true := by decide
  have hown : refusing.outpointStatus ⟨funding.txid, 0⟩ = .ok (.spentUnconfirmed spending.txid) := by decide +kernel
  refine ⟨answer, hanswer, ?_⟩
  rw [((observes_truly refusing twoTxs refusing_truthful).2.1 .inOrder _ _ _ hsome hanswer).2 _ hown]
  decide

end Esplora
end RgbppIndexer
