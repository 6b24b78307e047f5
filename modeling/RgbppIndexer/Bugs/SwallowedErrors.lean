import RgbppIndexer.Btc.BlockbookHttp
import RgbppIndexer.Store.Spends

/-!
# Blockbook errors that are taken for answers, and answers for errors

"Blockbook answers \"not found\" with 400 + an `error` body on some builds"
(crates/btc/src/blockbook.rs:66), but `get_opt` returns an error for every
status that is not a success before it looks at the body
(crates/btc/src/blockbook.rs:62-64). And `resolve_spenders` logs a failed
history request and goes on without it (crates/btc/src/blockbook.rs:103-108):
"claiming `Unspent` here would silently resurrect a cell that has already
moved" (crates/btc/src/blockbook.rs:329-330), and `Unknown` overwrites the
stored spend too. The other backend hands every error on
(crates/btc/src/esplora.rs:224-245).

Counterexample: a 400 that says "not found" is an error, and an outpoint that
is known to be spent is `Unknown` when the history of its address cannot be
read (`misread`).

* `unknown_of_swallowed`: what becomes of a failed history request.
* `honest_iff`: **a question errs when it should, and takes for not-found what
  is, exactly when none of its requests is answered "not found" under another
  status than a success or 404, and none for a history that it still needs
  fails.**
-/
namespace RgbppIndexer.Bugs.SwallowedErrors

open RgbppIndexer.Core Blockbook

section
variable (s : Source) (q : Question)

/-- The reply is treated as not-found. -/
def Missing : Request → Prop
  | .tx txid => s.http.tx txid = .ok none
  | .address owner page => s.http.address owner page = .ok none

/-- The question cannot be answered without the reply: it is about the transaction, or about the history of an address
whose spent output no page lists the spender of. -/
def Needs : Request → Prop
  | .tx _ => True
  | .address owner _ => ∃ tx vout, s.http.tx q.txid = .ok (some tx) ∧ (vout, some owner) ∈ q.spent tx ∧
      ¬ Shown s.http (q.requests s.http) q.txid vout

/-- Every request is taken for what it is: not-found exactly if the reply says so, and a failure is the question's. -/
structure Honest : Prop where
  missing : ∀ r ∈ q.requests s.http, Missing s r ↔ (s.reply r).NotFound s.serde
  failed : ∀ r ∈ q.requests s.http, s.Fails r → Needs s q r → q.Errs s.http

end

section
variable {s : Source} {q : Question}

theorem missing_iff (r : Request) : Missing s r ↔ (s.reply r).NotFound s.serde ∧ ¬ (s.reply r).Misread s.serde := by
  cases r with
  | tx txid => exact (getOpt_spec (s.reply (.tx txid))).1
  | address owner page => exact (getOpt_spec (s.reply (.address owner page))).1

theorem misread_notFound {serde : Serde} {r : Reply} (h : r.Misread serde) : r.NotFound serde := by
  cases r with
  | failed msg => exact h.elim
  | answered status body => exact .inr h.2.2

/-- A failed request for the transaction is an error. -/
theorem error_of_fails {txid : BtcTxid} (h : s.Fails (.tx txid)) : ∃ e, s.http.tx txid = .error e := by
  obtain ⟨hnot, hholds⟩ := h
  cases hreply : s.http.tx txid with
  | error e => exact ⟨e, rfl⟩
  | ok answer =>
    cases answer with
    | none => exact absurd ((missing_iff (.tx txid)).mp hreply).1 hnot
    | some tx => exact absurd ((getOpt_spec (s.reply (.tx txid))).2.mp ⟨tx, hreply⟩) hholds

theorem shown_requests {http : Http} {tx : Tx} {vout : UInt32} (htx : http.tx q.txid = .ok (some tx)) :
    Shown http (q.requests http) q.txid vout ↔ Shown http (historyRequests http (q.spent tx)) q.txid vout := by
  have hsplit : q.requests http = [.tx q.txid] ++ historyRequests http (q.spent tx) := by
    unfold Question.requests
    rw [htx]
    rfl
  rw [hsplit, shown_append]
  refine or_iff_right ?_
  rintro ⟨owner, page, addressPage, tx', hmem, -⟩
  cases List.mem_singleton.mp hmem

/-- **A failed request for a history that is needed is answered `Unknown`.** -/
theorem unknown_of_swallowed {outpoint : BtcOutPoint} {owner : String} {page : UInt32}
    (h : Needs s (.outpointStatus outpoint) (.address owner page)) : outpointStatus s.http outpoint = .ok .unknown := by
  obtain ⟨tx, vout, htx, hspent, hshown⟩ := h
  rw [shown_requests htx] at hshown
  have htx : s.http.tx outpoint.txid = .ok (some tx) := htx
  unfold Question.spent at hspent hshown
  dsimp only at hspent hshown
  rw [outpointStatus_of_some htx]
  cases hvout : tx.vout.find? fun v => v.n = outpoint.vout with
  | none => rfl
  | some v =>
    have hn : v.n = outpoint.vout := by simpa using List.find?_some hvout
    rw [hvout] at hspent hshown
    dsimp only at hspent hshown
    rw [Option.map_some, Option.getD_some]
    unfold voutStatus
    cases hv : v.spent with
    | false =>
      rw [hv] at hspent
      cases hspent
    | true =>
      rw [hv, if_pos rfl] at hspent hshown
      obtain ⟨rfl, -⟩ := Prod.mk.inj (List.mem_singleton.mp hspent)
      rw [← resolved_iff, Bool.not_eq_true, Option.isSome_eq_false_iff, Option.isNone_iff_eq_none, ← hn] at hshown
      have hnone : (resolveSpenders s.http outpoint.txid [(v.n, v.addresses.head?)]).get v.n = none := hshown
      rw [if_pos rfl, hnone]
      rfl

variable (s q) in
/-- **The questions whose errors are handed on.** -/
theorem honest_iff : Honest s q ↔ ∀ r ∈ q.requests s.http, ¬ (s.reply r).Misread s.serde ∧
    ∀ owner page, r = .address owner page → s.Fails r → ¬ Needs s q r := by
  constructor
  · rintro ⟨hmissing, hfailed⟩ r hr
    refine ⟨fun hmisread => ?_, ?_⟩
    · have hmiss := (hmissing r hr).mpr (misread_notFound hmisread)
      exact ((missing_iff r).mp hmiss).2 hmisread
    · rintro owner page rfl hfails hneeds
      obtain ⟨e, herror⟩ := (q.errs_iff s.http).mp (hfailed _ hr hfails hneeds)
      obtain ⟨tx, htx⟩ := Question.tx_of_address hr
      rw [htx] at herror
      cases herror
  · intro hall
    constructor
    · intro r hr
      rw [missing_iff]
      exact and_iff_left (hall r hr).1
    · intro r hr hfails hneeds
      cases r with
      | tx txid =>
        have htxid : txid = q.txid := Question.txid_of_mem hr
        subst htxid
        exact (q.errs_iff s.http).mpr (error_of_fails hfails)
      | address owner page => exact absurd hneeds ((hall _ hr).2 owner page rfl hfails)

end

/-! ## The counterexample -/

def lost : BtcTxid := ⟨.filled 32 1⟩

def known : BtcTxid := ⟨.filled 32 2⟩

def missingBody : String := "\x7b\"error\": \"Transaction not found\"\x7d"

def knownBody : String :=
  "\x7b\"txid\": \"0202020202020202020202020202020202020202020202020202020202020202\", " ++
    "\"vout\": [\x7b\"n\": 0, \"addresses\": [\"tb1q\"], \"spent\": true\x7d], \"blockHeight\": 1\x7d"

/-- The transaction `knownBody` says, with one output, which is spent. -/
def knownTx : Tx where
  txid := "0202020202020202020202020202020202020202020202020202020202020202"
  vin := []
  vout := [⟨0, ["tb1q"], true⟩]
  blockHeight := some 1

/-- A build that answers "not found" with 400, and loses the connection when asked for a history. -/
def source : Source where
  baseUrl := "https://blockbook.example"
  serde :=
    { error := fun text => if text = missingBody then some "Transaction not found" else none
      tx := fun text => if text = knownBody then .ok knownTx else .error "expected value at line 1 column 1"
      address := fun _ => .error "expected value at line 1 column 1" }
  reply
    | .tx txid => if txid = known then .answered 200 (.ok knownBody) else .answered 400 (.ok missingBody)
    | .address _ _ => .failed "connection reset by peer"

theorem known_answer : source.http.tx known = .ok (some knownTx) := by decide +kernel

theorem history_fails : source.Fails (.address "tb1q" 1) := by
  refine ⟨?_, id⟩
  rintro (⟨body, h⟩ | h)
  · cases h
  · exact h

theorem history_requested : Request.address "tb1q" 1 ∈ (Question.outpointStatus ⟨known, 0⟩).requests source.http := by
  decide +kernel

theorem history_needed : Needs source (.outpointStatus ⟨known, 0⟩) (.address "tb1q" 1) := by
  refine ⟨knownTx, 0, known_answer, by decide +kernel, ?_⟩
  rintro ⟨owner, page, addressPage, tx, -, hpage, -⟩
  cases hpage

def spent : Observation := ⟨.spentConfirmed lost 1, none, "blockbook", 0⟩

def unknown : Observation := ⟨.unknown, none, "blockbook", 0⟩

/-- **A 400 that says "not found" is an error; a lost history is `Unknown`, and overwrites a stored spend.** -/
theorem misread : ((source.reply (.tx lost)).NotFound source.serde ∧
      (∃ e, outpointStatus source.http ⟨lost, 0⟩ = .error e) ∧ ¬ Honest source (.outpointStatus ⟨lost, 0⟩)) ∧
    (source.Fails (.address "tb1q" 1) ∧
      Request.address "tb1q" 1 ∈ (Question.outpointStatus ⟨known, 0⟩).requests source.http ∧
      outpointStatus source.http ⟨known, 0⟩ = .ok .unknown ∧ ¬ Honest source (.outpointStatus ⟨known, 0⟩)) ∧
    ((Store.empty.observe (BtcOutPoint.key ⟨known, 0⟩) spent).1.observe (BtcOutPoint.key ⟨known, 0⟩) unknown).1.storedSpend
      (BtcOutPoint.key ⟨known, 0⟩) = some unknown.status.columns := by
  have hlost : source.http.tx lost = .error (.status 400 (source.url (.tx lost))) := by decide +kernel
  have hnotFound : (source.reply (.tx lost)).NotFound source.serde :=
    .inr ⟨"Transaction not found", by decide +kernel, by decide +kernel⟩
  have hunknown := unknown_of_swallowed history_needed
  refine ⟨⟨hnotFound, (Question.errs_iff source.http (.outpointStatus ⟨lost, 0⟩)).mpr ⟨_, hlost⟩, fun hhonest => ?_⟩,
    ⟨history_fails, history_requested, hunknown, fun hhonest => ?_⟩, ?_⟩
  · have hmissing : source.http.tx lost = .ok none := (hhonest.missing (.tx lost) List.mem_cons_self).mpr hnotFound
    rw [hlost] at hmissing
    cases hmissing
  · obtain ⟨e, herror⟩ := hhonest.failed _ history_requested history_fails history_needed
    rw [hunknown] at herror
    cases herror
  · unfold Store.observe
    rw [Store.storedSpend_upsertObservation, if_pos rfl]

end RgbppIndexer.Bugs.SwallowedErrors
