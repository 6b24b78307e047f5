import RgbppIndexer.Ckb.Wire

/-!
# The JSON-RPC client

`crates/ckb/src/rpc.rs` and the calls of `crates/ckb/src/client.rs`: a POST
for each attempt, a bounded number of retries after what failed in transport,
and the JSON of the reply read as what was asked for. How an endpoint replies
is a parameter, for each request body and each attempt; so is what `serde`
and `reqwest` say of an error.

* `callLoop_decided`: which reply decides a call, and how long it waits before it.
* `call_decided`: so it is for every call of every client. An answer of the
  server, be it a result or an error, is never asked for again.
* `CkbClient.replies`: what the rest of the program sees of it.
-/
namespace RgbppIndexer

open RgbppIndexer.Core

/-- What becomes of one POST. The transport may fail before the status, or while the body is read as JSON;
`msg` is what `error_for_status` says if the status is an error. -/
inductive RpcReply where
  | failed (msg : String)
  | answered (status : Nat) (msg : String) (body : Except String Json)

/-- How an endpoint replies to a request body, at each attempt. -/
abbrev Endpoint := Json → Nat → RpcReply

namespace JsonRpc

/-- `StatusCode::is_client_error() || is_server_error()`. -/
def isErrorStatus (status : Nat) : Bool := decide (400 ≤ status ∧ status < 600)

/-- mirrors crates/ckb/src/rpc.rs:63-68 -/
def requestBody (id : UInt64) (method : String) (params : Json) : Json :=
  .obj [("jsonrpc", .str "2.0"), ("id", .int id.toNat), ("method", .str method), ("params", params)]

/-- mirrors crates/ckb/src/rpc.rs:109-115 -/
def resultOf (method : String) (payload : Json) : Except CkbError Json :=
  match payload.field? "result" with
  | some result => .ok result
  | none => .error (.payload method "response had neither `result` nor `error`")

/-- mirrors crates/ckb/src/rpc.rs:95-107 -/
def errorOf (method : String) (error : Json) : CkbError :=
  .rpc method (((error.field? "code").bind Json.asI64).getD 0)
    (((error.field? "message").bind Json.asStr).getD "<no message>")

/-- mirrors crates/ckb/src/rpc.rs:89-116 -/
def tryOnce (method : String) : RpcReply → Except CkbError Json
  | .failed msg => .error (.transport msg)
  | .answered status msg body =>
    if isErrorStatus status then .error (.transport msg)
    else
      match body with
      | .error e => .error (.transport e)
      | .ok payload =>
        match payload.field? "error" with
        | some error => if error.isNull then resultOf method payload else .error (errorOf method error)
        | none => resultOf method payload

/-- The errors that are not retried. mirrors crates/ckb/src/rpc.rs:75 -/
def isFinal : CkbError → Bool
  | .rpc .. => true
  | .payload .. => true
  | _ => false

/-- What a call did: the pauses it made, in milliseconds, and what it returned. -/
structure Exchange (α : Type) where
  pauses : List Nat
  result : Except CkbError α

/-- The attempts from number `attempt` on, when `left` more may follow it. mirrors crates/ckb/src/rpc.rs:70-86 -/
def callLoop (method : String) (replies : Nat → RpcReply) : Nat → Nat → Exchange Json
  | left, attempt =>
    match tryOnce method (replies attempt) with
    | .ok value => { pauses := [], result := .ok value }
    | .error e =>
      if isFinal e then { pauses := [], result := .error e }
      else
        match left with
        | 0 => { pauses := [], result := .error e }
        | left + 1 =>
          let rest := callLoop method replies left (attempt + 1)
          { pauses := (200 <<< attempt) :: rest.pauses, result := rest.result }

/-- mirrors crates/ckb/src/rpc.rs:61-87 -/
def callValue (maxRetries : Nat) (endpoint : Endpoint) (id : UInt64) (method : String) (params : Json) : Exchange Json :=
  callLoop method (endpoint (requestBody id method params)) maxRetries 0

/-- `JsonRpcClient::new` sets it, and nothing changes it. mirrors crates/ckb/src/rpc.rs:34 -/
def MAX_RETRIES : Nat := 3

/-- How `serde_json` says that a result is not what was asked for. -/
abbrev ReadError := String → Json → String

/-- mirrors crates/ckb/src/rpc.rs:47-59 -/
def call {α : Type} (readError : ReadError) (endpoint : Endpoint) (id : UInt64) (method : String) (params : Json)
    (read : Json → Option α) : Exchange α :=
  let exchange := callValue MAX_RETRIES endpoint id method params
  { pauses := exchange.pauses
    result := do
      let value ← exchange.result
      match read value with
      | some a => .ok a
      | none => .error (.payload method (readError method value)) }

/-! ## Which reply decides -/

/-- The reply says this: it is no error status, and its body has a result and no error next to it. -/
def Says (result : Json) : RpcReply → Prop
  | .failed _ => False
  | .answered status _ body =>
    isErrorStatus status = false ∧ ∃ payload, body = .ok payload ∧ payload.field? "result" = some result ∧
      (payload.field? "error" = none ∨ payload.field? "error" = some .null)

/-- The attempt failed before the server had a say. -/
def FailsInTransport (method : String) (reply : RpcReply) : Prop := ∃ msg, tryOnce method reply = .error (.transport msg)

/-- Reply `n` decided the call: those before it failed in transport, and so did it only if it was the last one. -/
structure Decided (method : String) (replies : Nat → RpcReply) (maxRetries n : Nat) (exchange : Exchange Json) : Prop where
  le : n ≤ maxRetries
  retried : ∀ k < n, FailsInTransport method (replies k)
  result : exchange.result = tryOnce method (replies n)
  final : FailsInTransport method (replies n) → n = maxRetries
  pauses : exchange.pauses = (List.range n).map fun k => 200 * 2 ^ k

variable {method : String}

theorem resultOf_eq_ok {payload result : Json} :
    resultOf method payload = .ok result ↔ payload.field? "result" = some result := by
  unfold resultOf
  cases payload.field? "result" with
  | none => simp
  | some found => simp

theorem tryOnce_eq_ok {reply : RpcReply} {result : Json} : tryOnce method reply = .ok result ↔ Says result reply := by
  unfold tryOnce Says
  cases reply with
  | failed msg => simp
  | answered status msg body =>
    dsimp only
    by_cases hstatus : isErrorStatus status = true
    · simp [hstatus]
    · rw [if_neg hstatus]
      rw [Bool.not_eq_true] at hstatus
      cases body with
      | error e => simp
      | ok payload =>
        dsimp only
        cases herror : payload.field? "error" with
        | none => simp [hstatus, resultOf_eq_ok, herror]
        | some error => cases error <;> simp [hstatus, resultOf_eq_ok, herror, Json.isNull]

/-- An error is the server's, or the transport's. -/
theorem isFinal_of_tryOnce {reply : RpcReply} {e : CkbError} (h : tryOnce method reply = .error e) :
    isFinal e = true ∨ ∃ msg, e = .transport msg := by
  have hresult : ∀ payload, resultOf method payload = .error e → isFinal e = true := by
    intro payload hpayload
    unfold resultOf at hpayload
    cases hfound : payload.field? "result" with
    | none =>
      rw [hfound] at hpayload
      cases hpayload
      rfl
    | some found => simp [hfound] at hpayload
  unfold tryOnce at h
  cases reply with
  | failed msg => exact .inr ⟨msg, (Except.error.inj h).symm⟩
  | answered status msg body =>
    dsimp only at h
    by_cases hstatus : isErrorStatus status = true
    · rw [if_pos hstatus] at h
      exact .inr ⟨msg, (Except.error.inj h).symm⟩
    · rw [if_neg hstatus] at h
      cases body with
      | error text => exact .inr ⟨text, (Except.error.inj h).symm⟩
      | ok payload =>
        left
        dsimp only at h
        cases herror : payload.field? "error" with
        | none =>
          rw [herror] at h
          exact hresult payload h
        | some error =>
          rw [herror] at h
          dsimp only at h
          by_cases hnull : error.isNull = true
          · rw [if_pos hnull] at h
            exact hresult payload h
          · rw [if_neg hnull] at h
            cases h
            rfl

theorem failsInTransport_iff {reply : RpcReply} :
    FailsInTransport method reply ↔ ∃ e, tryOnce method reply = .error e ∧ isFinal e = false := by
  constructor
  · rintro ⟨msg, h⟩
    exact ⟨_, h, rfl⟩
  · rintro ⟨e, h, hfinal⟩
    rcases isFinal_of_tryOnce h with hyes | ⟨msg, rfl⟩
    · rw [hyes] at hfinal
      cases hfinal
    · exact ⟨msg, h⟩

variable {replies : Nat → RpcReply} {maxRetries : Nat}

/-- An attempt that the server decided is the last one. -/
theorem callLoop_of_decides {left attempt : Nat} (h : ¬ FailsInTransport method (replies attempt)) :
    callLoop method replies left attempt = { pauses := [], result := tryOnce method (replies attempt) } := by
  rw [failsInTransport_iff] at h
  unfold callLoop
  cases htry : tryOnce method (replies attempt) with
  | ok value => rfl
  | error e =>
    have hfinal : isFinal e = true := by
      rw [← Bool.not_eq_false]
      exact fun hfinal => h ⟨e, htry, hfinal⟩
    exact if_pos hfinal

/-- One that failed in transport is followed by a pause and the next one, if there is one left. -/
theorem callLoop_of_fails {attempt : Nat} (h : FailsInTransport method (replies attempt)) :
    callLoop method replies 0 attempt = { pauses := [], result := tryOnce method (replies attempt) } ∧
    ∀ left, callLoop method replies (left + 1) attempt =
      { pauses := 200 * 2 ^ attempt :: (callLoop method replies left (attempt + 1)).pauses
        result := (callLoop method replies left (attempt + 1)).result } := by
  obtain ⟨msg, hmsg⟩ := h
  constructor
  · unfold callLoop
    rw [hmsg]
    exact if_neg (by simp [isFinal])
  · intro left
    rw [callLoop, hmsg]
    dsimp only
    rw [if_neg (by simp [isFinal]), Nat.shiftLeft_eq]

/-- From any attempt on, by induction on how many are left. -/
theorem callLoop_decided (left attempt : Nat) : ∃ n ≤ left, (∀ k < n, FailsInTransport method (replies (attempt + k))) ∧
    (callLoop method replies left attempt).result = tryOnce method (replies (attempt + n)) ∧
    (FailsInTransport method (replies (attempt + n)) → n = left) ∧
    (callLoop method replies left attempt).pauses = (List.range n).map fun k => 200 * 2 ^ (attempt + k) := by
  induction left generalizing attempt with
  | zero =>
    refine ⟨0, Nat.le_refl 0, fun k hk => by omega, ?_, fun _ => rfl, ?_⟩
    all_goals
      by_cases hfails : FailsInTransport method (replies attempt)
      · rw [(callLoop_of_fails hfails).1]
        rfl
      · rw [callLoop_of_decides hfails]
        rfl
  | succ left ih =>
    by_cases hfails : FailsInTransport method (replies attempt)
    · obtain ⟨n, hn, hretried, hresult, hlast, hpauses⟩ := ih (attempt + 1)
      have hshift : ∀ k, attempt + 1 + k = attempt + (k + 1) := fun k => by omega
      simp only [hshift] at hretried hresult hlast hpauses
      rw [(callLoop_of_fails hfails).2 left]
      refine ⟨n + 1, by omega, ?_, hresult, fun h => by rw [hlast h], ?_⟩
      · intro k hk
        cases k with
        | zero => exact hfails
        | succ k => exact hretried k (by omega)
      · dsimp only
        rw [hpauses, List.range_succ_eq_map, List.map_cons, List.map_map]
        rfl
    · refine ⟨0, Nat.zero_le _, fun k hk => by omega, ?_, fun h => absurd h hfails, ?_⟩
      · rw [callLoop_of_decides hfails]
        rfl
      · rw [callLoop_of_decides hfails]
        rfl

theorem callValue_decided (endpoint : Endpoint) (id : UInt64) (params : Json) :
    ∃ n, Decided method (endpoint (requestBody id method params)) maxRetries n
      (callValue maxRetries endpoint id method params) := by
  obtain ⟨n, hle, hretried, hresult, hlast, hpauses⟩ :=
    @callLoop_decided method (endpoint (requestBody id method params)) maxRetries 0
  simp only [Nat.zero_add] at hretried hresult hlast hpauses
  exact ⟨n, hle, hretried, hresult, hlast, hpauses⟩

/-- Pauses of 200, 400, 800 milliseconds: at most `200 * (2 ^ n - 1)` in all. -/
theorem sum_pauses (n : Nat) : ((List.range n).map fun k => 200 * 2 ^ k).sum = 200 * (2 ^ n - 1) := by
  induction n with
  | zero => rfl
  | succ n ih =>
    have hpos : 0 < 2 ^ n := Nat.two_pow_pos n
    rw [List.range_succ, List.map_append, List.sum_append, ih]
    simp only [List.map_cons, List.map_nil, List.sum_cons, List.sum_nil, Nat.pow_succ]
    omega

/-- A call returns what the value it got is read as. -/
theorem call_eq_ok {α : Type} {readError : ReadError} {endpoint : Endpoint} {id : UInt64} {params : Json}
    {read : Json → Option α} {a : α} : (call readError endpoint id method params read).result = .ok a ↔
      ∃ value, (callValue MAX_RETRIES endpoint id method params).result = .ok value ∧ read value = some a := by
  unfold call
  dsimp only
  rw [bind_eq_ok]
  constructor
  · rintro ⟨value, hvalue, hread⟩
    refine ⟨value, hvalue, ?_⟩
    cases hfound : read value with
    | none => simp [hfound] at hread
    | some b =>
      rw [hfound] at hread
      rw [Except.ok.inj hread]
  · rintro ⟨value, hvalue, hread⟩
    exact ⟨value, hvalue, by rw [hread]⟩

/-- **A call is decided by its first reply that is no transport failure**, within four attempts and 1.4 seconds of
waiting: a result that reads as what was asked for is the answer, and any other reply of the server an error at once. -/
theorem call_decided {α : Type} (readError : ReadError) (endpoint : Endpoint) (id : UInt64) (method : String) (params : Json)
    (read : Json → Option α) : ∃ n ≤ 3,
      (∀ k < n, FailsInTransport method (endpoint (requestBody id method params) k)) ∧
      (FailsInTransport method (endpoint (requestBody id method params) n) → n = 3) ∧
      (call readError endpoint id method params read).pauses = (List.range n).map (fun k => 200 * 2 ^ k) ∧
      (call readError endpoint id method params read).pauses.sum ≤ 1400 ∧
      (∀ a, (call readError endpoint id method params read).result = .ok a ↔
        ∃ result, Says result (endpoint (requestBody id method params) n) ∧ read result = some a) ∧
      ∀ msg, (call readError endpoint id method params read).result = .error (.transport msg) → n = 3 := by
  obtain ⟨n, hle, hretried, hresult, hfinal, hpauses⟩ :=
    @callValue_decided method MAX_RETRIES endpoint id params
  have hpow : 2 ^ n ≤ 2 ^ 3 := Nat.pow_le_pow_right (by decide) hle
  refine ⟨n, hle, hretried, hfinal, hpauses, ?_, ?_, ?_⟩
  · show (callValue MAX_RETRIES endpoint id method params).pauses.sum ≤ 1400
    rw [hpauses, sum_pauses]
    omega
  · intro a
    rw [call_eq_ok, hresult]
    simp only [tryOnce_eq_ok]
  · intro msg herror
    unfold call at herror
    dsimp only at herror
    rw [hresult] at herror
    apply hfinal
    cases hlast : tryOnce method (endpoint (requestBody id method params) n) with
    | error e =>
      rw [hlast] at herror
      obtain rfl := Except.error.inj herror
      exact ⟨msg, hlast⟩
    | ok value =>
      rw [hlast, ok_bind] at herror
      cases hfound : read value <;> simp [hfound] at herror

end JsonRpc

/-! ## The client -/

/-- What an endpoint says about a question, at any attempt and under any id. -/
def Endpoint.Says (e : Endpoint) (method : String) (params result : Json) : Prop :=
  ∃ id attempt, JsonRpc.Says result (e (JsonRpc.requestBody id method params) attempt)

/-- The two endpoints; each question takes an id from the counter of its endpoint, whatever it is.
mirrors crates/ckb/src/client.rs:17-22 and crates/ckb/src/rpc.rs:17-22 -/
structure CkbClient where
  node : Endpoint
  indexer : Endpoint
  idOf : String → Json → UInt64
  readError : JsonRpc.ReadError

namespace CkbClient

def ask {α : Type} (c : CkbClient) (endpoint : Endpoint) (method : String) (params : Json) (read : Json → Option α) :
    Except CkbError α :=
  (JsonRpc.call c.readError endpoint (c.idOf method params) method params read).result

/-- mirrors crates/ckb/src/client.rs:64-68 -/
def transactionParams (hash : H256) : Json := .arr [h256Json hash, uint32Json 2, .bool false]

/-- mirrors crates/ckb/src/client.rs:96-99 -/
def pageParams (searchKey : SearchKey) (order : Order) (limit : UInt32) : Option String → Json
  | some cursor => .arr [searchKeyJson searchKey, .str order.asStr, uint32Json limit, .str cursor]
  | none => .arr [searchKeyJson searchKey, .str order.asStr, uint32Json limit]

/-- What the two endpoints answer. mirrors crates/ckb/src/client.rs:44-74, 89-101 -/
def replies (c : CkbClient) : Replies where
  getTipBlockNumber := c.ask c.node "get_tip_block_number" (.arr []) readUint64
  getHeaderByNumber number := c.ask c.node "get_header_by_number" (.arr [uint64Json number]) (Json.option readHeader)
  getTransaction hash := c.ask c.node "get_transaction" (transactionParams hash) (Json.option readTransactionWithStatus)
  getIndexerTip := c.ask c.indexer "get_indexer_tip" (.arr []) (Json.option readIndexerTip)
  getTransactionsPage searchKey order limit after :=
    c.ask c.indexer "get_transactions" (pageParams searchKey order limit after) readTxPage

/-- mirrors crates/ckb/src/client.rs:154-160 -/
def getCells (c : CkbClient) : CellReplies := fun searchKey limit => do
  let page ← c.ask c.indexer "get_cells" (pageParams searchKey .asc limit none) (readPagination readCellRecord)
  return page.1

/-- An answer is what the endpoint says, read. -/
theorem says_of_ask {α : Type} {c : CkbClient} {endpoint : Endpoint} {method : String} {params : Json} {read : Json → Option α}
    {a : α} (h : c.ask endpoint method params read = .ok a) : ∃ j, endpoint.Says method params j ∧ read j = some a := by
  obtain ⟨j, hvalue, hread⟩ := JsonRpc.call_eq_ok.mp h
  obtain ⟨n, hdecided⟩ := JsonRpc.callValue_decided endpoint (c.idOf method params) params
  rw [hdecided.result] at hvalue
  exact ⟨j, ⟨_, n, JsonRpc.tryOnce_eq_ok.mp hvalue⟩, hread⟩

end CkbClient
end RgbppIndexer
