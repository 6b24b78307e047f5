import Mathlib.Data.List.Infix
import RgbppIndexer.Btc.Blockbook

/-!
# What Blockbook is asked over HTTP

`BlockbookSource::get_opt` (crates/btc/src/blockbook.rs:49-78) turns a reply
into an answer, no answer, or an error. A question about a transaction sends
one request for the transaction, and then requests for the histories of the
addresses that own its spent outputs, page by page. No request is sent twice
(`requests_nodup`), so a reply for each request is every sequence of replies.

JSON is read by `serde_json`, which is a parameter (`Serde`).

* `getOpt_spec`: what becomes of a reply.
* `requests_nodup`: a question sends no request twice.
* `outpointStatus_congr`, `txOutspends_congr`: the replies to its requests
  decide a question.
* `resolved_iff`: the walks find the spender of an output exactly when a page
  they were sent lists it.
-/
namespace RgbppIndexer

open RgbppIndexer.Core

namespace Blockbook

/-- A reply to a request; the transport may fail before the status, or while the body is read. -/
inductive Reply where
  | failed (msg : String)
  | answered (status : Nat) (body : Except String String)
  deriving DecidableEq, Repr

/-- How bodies are read. -/
structure Serde where
  /-- the `error` field of a body, if the body is an object and the field a string -/
  error : String → Option String
  tx : String → Except String Tx
  address : String → Except String Address

inductive Request where
  | tx (txid : BtcTxid)
  | address (owner : String) (page : UInt32)
  deriving DecidableEq, Repr

/-- `StatusCode::is_success`. -/
def isSuccess (status : Nat) : Bool := decide (200 ≤ status ∧ status < 300)

/-- `error.to_lowercase().contains("not found")`; no letter outside ASCII has one of these as its lower case. -/
def saysNotFound (error : String) : Bool := decide ("not found".toList <:+: error.toList.map Char.toLower)

/-- mirrors crates/btc/src/blockbook.rs:49-78 -/
def getOpt {α : Type} (serde : Serde) (decode : String → Except String α) (url path : String) :
    Reply → Except BtcError (Option α)
  | .failed msg => .error (.transport msg)
  | .answered status body =>
    if status = 404 then .ok none
    else if status = 429 then .error (.rateLimited url)
    else if ¬ isSuccess status then .error (.status status url)
    else
      match body with
      | .error msg => .error (.transport msg)
      | .ok text =>
        match serde.error text with
        | some error =>
          if saysNotFound error then .ok none else .error (.decode "blockbook response" error)
        | none =>
          match decode text with
          | .ok value => .ok (some value)
          | .error e => .error (.decode "blockbook response" (path ++ ": " ++ e))

/-- mirrors crates/btc/src/blockbook.rs:26-30 -/
structure Source where
  baseUrl : String
  serde : Serde
  reply : Request → Reply

/-- mirrors crates/btc/src/blockbook.rs:102 and crates/btc/src/blockbook.rs:316 -/
def Request.path : Request → String
  | .tx txid => "api/v2/tx/" ++ hexText txid.toDisplayVec
  | .address owner page => "api/v2/address/" ++ owner ++ "?details=txs&page=" ++ toString page.toNat

/-- mirrors crates/btc/src/blockbook.rs:45-47 -/
def Source.url (s : Source) (q : Request) : String := s.baseUrl ++ "/" ++ q.path

/-- What the endpoint answers, read by `get_opt`. -/
def Source.http (s : Source) : Http where
  tx txid := getOpt s.serde s.serde.tx (s.url (.tx txid)) (Request.tx txid).path (s.reply (.tx txid))
  address owner page :=
    getOpt s.serde s.serde.address (s.url (.address owner page)) (Request.address owner page).path
      (s.reply (.address owner page))

/-! ## Replies -/

/-- A body that says, as JSON, that there is no such thing. -/
def Reply.SaysNotFound (serde : Serde) : Reply → Prop
  | .answered _ (.ok text) => ∃ error, serde.error text = some error ∧ saysNotFound error = true
  | _ => False

/-- There is no such thing: a 404, or a body that says so, under whatever status. -/
def Reply.NotFound (serde : Serde) (r : Reply) : Prop := (∃ body, r = .answered 404 body) ∨ r.SaysNotFound serde

/-- The reply holds what was asked for. -/
def Reply.Holds {α : Type} (serde : Serde) (decode : String → Except String α) : Reply → Prop
  | .answered status (.ok text) => isSuccess status = true ∧ serde.error text = none ∧ ∃ value, decode text = .ok value
  | _ => False

/-- A body that says "not found" under a status that is neither a success nor 404. -/
def Reply.Misread (serde : Serde) : Reply → Prop
  | .answered status body => status ≠ 404 ∧ isSuccess status = false ∧ (Reply.answered status body).SaysNotFound serde
  | .failed _ => False

/-- The reply says that the request failed, for another reason than not-found. -/
def Source.Fails (s : Source) (q : Request) : Prop :=
  ¬ (s.reply q).NotFound s.serde ∧
    match q with
    | .tx _ => ¬ (s.reply q).Holds s.serde s.serde.tx
    | .address _ _ => ¬ (s.reply q).Holds s.serde s.serde.address

section
variable {α : Type} {serde : Serde} {decode : String → Except String α} {url path : String} {r : Reply}

theorem isSuccess_ne {status : Nat} (h : isSuccess status = true) : status ≠ 404 ∧ status ≠ 429 := by
  unfold isSuccess at h
  rw [decide_eq_true_eq] at h
  omega

/-- `get_opt` looks at the body of a success only. -/
theorem getOpt_of_success {status : Nat} (h : isSuccess status = true) (text : String) :
    getOpt serde decode url path (.answered status (.ok text)) =
      match serde.error text with
      | some error => if saysNotFound error then .ok none else .error (.decode "blockbook response" error)
      | none =>
        match decode text with
        | .ok value => .ok (some value)
        | .error e => .error (.decode "blockbook response" (path ++ ": " ++ e)) := by
  obtain ⟨h404, h429⟩ := isSuccess_ne h
  unfold getOpt
  dsimp only
  rw [if_neg h404, if_neg h429, if_neg (not_not_intro h)]

/-- Without the body of a success there is no answer, but after a 404. -/
theorem getOpt_of_none (h404 : ∀ body, r ≠ .answered 404 body)
    (hsuccess : ∀ status text, r = .answered status (.ok text) → isSuccess status = false) :
    ∃ e, getOpt serde decode url path r = .error e := by
  unfold getOpt
  cases r with
  | failed msg => exact ⟨_, rfl⟩
  | answered status body =>
    dsimp only
    have hstatus : status ≠ 404 := fun heq => h404 body (by rw [heq])
    rw [if_neg hstatus]
    split
    · exact ⟨_, rfl⟩
    · split
      · exact ⟨_, rfl⟩
      · next hok =>
        cases body with
        | error msg => exact ⟨_, rfl⟩
        | ok text => exact absurd (hsuccess status text rfl) (by simpa using hok)

/-- **What becomes of a reply.** -/
theorem getOpt_spec (r : Reply) :
    (getOpt serde decode url path r = .ok none ↔ r.NotFound serde ∧ ¬ r.Misread serde) ∧
      ((∃ value, getOpt serde decode url path r = .ok (some value)) ↔ r.Holds serde decode) := by
  by_cases hsuccess : ∃ status text, r = .answered status (.ok text) ∧ isSuccess status = true
  · obtain ⟨status, text, rfl, hok⟩ := hsuccess
    have hread : ¬ (Reply.answered status (.ok text)).Misread serde := fun h => by
      rw [h.2.1] at hok
      cases hok
    rw [getOpt_of_success hok, and_iff_left hread]
    unfold Reply.NotFound Reply.Holds Reply.SaysNotFound
    have h404 : ¬ ∃ body, Reply.answered status (.ok text) = .answered 404 body := by
      rintro ⟨body, h⟩
      exact (isSuccess_ne hok).1 (Reply.answered.inj h).1
    rw [or_iff_right h404]
    cases herror : serde.error text with
    | some error =>
      cases hsays : saysNotFound error <;> simp [herror, hsays]
    | none => cases hdecode : decode text <;> simp [herror, hdecode, hok]
  · have hnone : ∀ status text, r = .answered status (.ok text) → isSuccess status = false := fun status text hr =>
      Bool.eq_false_iff.mpr fun hok => hsuccess ⟨status, text, hr, hok⟩
    have hholds : ¬ r.Holds serde decode := by
      intro h
      cases r with
      | failed msg => exact h
      | answered status body =>
        cases body with
        | error msg => exact h
        | ok text => exact hsuccess ⟨status, text, rfl, h.1⟩
    by_cases h404 : ∃ body, r = .answered 404 body
    · obtain ⟨body, rfl⟩ := h404
      have hanswer : getOpt serde decode url path (.answered 404 body) = .ok none := rfl
      rw [hanswer]
      exact ⟨iff_of_true rfl ⟨.inl ⟨body, rfl⟩, fun h => h.1 rfl⟩, iff_of_false (fun ⟨_, h⟩ => by cases h) hholds⟩
    · have hanswer : ∃ e, getOpt serde decode url path r = .error e := getOpt_of_none (fun body hr => h404 ⟨body, hr⟩) hnone
      obtain ⟨e, herror⟩ := hanswer
      rw [herror]
      refine ⟨iff_of_false nofun fun ⟨hnot, hread⟩ => ?_, iff_of_false (fun ⟨_, h⟩ => by cases h) hholds⟩
      -- a body under another status that says so is misread
      rcases hnot with hbody | hsays
      · exact h404 hbody
      · cases r with
        | failed msg => exact hsays
        | answered status body =>
          cases body with
          | error msg => exact hsays
          | ok text => exact hread ⟨fun heq => h404 ⟨_, by rw [heq]⟩, hnone status text rfl, hsays⟩

end

/-! ## The requests of a question -/

/-- What the data source is asked. -/
inductive Question where
  | outpointStatus (outpoint : BtcOutPoint)
  | txOutspends (txid : BtcTxid)

def Question.txid : Question → BtcTxid
  | .outpointStatus outpoint => outpoint.txid
  | .txOutspends txid => txid

/-- The spent outputs it is about, with their addresses. -/
def Question.spent (tx : Tx) : Question → List (UInt32 × Option String)
  | .outpointStatus outpoint =>
    match tx.vout.find? fun v => v.n = outpoint.vout with
    | some vout => if vout.spent then [(outpoint.vout, vout.addresses.head?)] else []
    | none => []
  | .txOutspends _ => (tx.vout.filter Vout.spent).map fun v => (v.n, v.addresses.head?)

section
variable (http : Http)

/-- The pages of a history that are asked for, from `page` on. -/
def walkPages (owner : String) : Nat → UInt32 → List UInt32
  | 0, _ => []
  | remaining + 1, page =>
    page ::
      match http.address owner page with
      | .ok (some addressPage) =>
        if page ≥ (max (addressPage.totalPages.getD 1) 1).toInt32.toUInt32 ∨ page ≥ MAX_ADDRESS_PAGES then []
        else walkPages owner remaining (page + 1)
      | _ => []

/-- The addresses whose histories are walked. -/
def owners (spentVouts : List (UInt32 × Option String)) : List String :=
  ((spentVouts.filterMap Prod.snd).insertionSort fun a b => (compare a b).isLE = true).dedup

def historyRequests (spentVouts : List (UInt32 × Option String)) : List Request :=
  (owners spentVouts).flatMap fun owner => (walkPages http owner MAX_ADDRESS_PAGES.toNat 1).map (Request.address owner)

/-- The requests the question sends. -/
def Question.requests (q : Question) : List Request :=
  .tx q.txid ::
    match http.tx q.txid with
    | .ok (some tx) => historyRequests http (q.spent tx)
    | _ => []

/-- A history entry that spends the output. -/
def Tx.Spends (txid : BtcTxid) (vout : UInt32) (tx : Tx) : Prop :=
  (resolveInputs.btcTxidFromHex tx.txid).isSome = true ∧
    ∃ vin ∈ tx.vin, vin.txid.bind resolveInputs.btcTxidFromHex = some txid ∧ vin.vout = vout

/-- A page that is sent in reply to one of these requests lists the spender of the output. -/
def Shown (requests : List Request) (txid : BtcTxid) (vout : UInt32) : Prop :=
  ∃ owner page addressPage tx, .address owner page ∈ requests ∧ http.address owner page = .ok (some addressPage) ∧
    tx ∈ addressPage.transactions ∧ tx.Spends txid vout

end

section
variable {http : Http} {txid : BtcTxid} {vout : UInt32}

theorem Resolved.get_cons (resolved : Resolved) (n : UInt32) (status : OutpointSpendStatus) :
    (Resolved.get ((n, status) :: resolved) vout).isSome = true ↔ n = vout ∨ (resolved.get vout).isSome = true := by
  unfold Resolved.get
  by_cases hn : n = vout
  · simp [hn]
  · simp [hn]

/-- One entry adds the outputs it spends. -/
theorem resolveInputs_iff (resolved : Resolved) (tx : Tx) :
    ((resolveInputs txid resolved tx).get vout).isSome = true ↔ (resolved.get vout).isSome = true ∨ tx.Spends txid vout := by
  unfold resolveInputs Tx.Spends
  generalize tx.vin = vins
  induction vins generalizing resolved with
  | nil => simp
  | cons vin vins ih =>
    rw [List.foldl_cons, ih]
    cases hprev : vin.txid with
    | none => simp [hprev]
    | some prev =>
      dsimp only
      cases hp : resolveInputs.btcTxidFromHex prev with
      | none => simp [hprev, hp]
      | some p =>
        cases hspender : resolveInputs.btcTxidFromHex tx.txid with
        | none => simp
        | some spender =>
          dsimp only
          by_cases htxid : p = txid
          · rw [if_pos htxid, Resolved.get_cons]
            simp [hprev, hp, htxid]
            tauto
          · rw [if_neg htxid]
            simp [hprev, hp, htxid]

theorem foldl_resolveInputs_iff (txs : List Tx) (resolved : Resolved) :
    ((txs.foldl (resolveInputs txid) resolved).get vout).isSome = true ↔
      (resolved.get vout).isSome = true ∨ ∃ tx ∈ txs, tx.Spends txid vout := by
  induction txs generalizing resolved with
  | nil => simp
  | cons tx txs ih =>
    rw [List.foldl_cons, ih, resolveInputs_iff]
    simp [or_assoc]

/-- The walk of one history adds what its pages list. -/
theorem walkAddress_iff (owner : String) (remaining : Nat) (page : UInt32) (resolved : Resolved) :
    ((walkAddress http txid owner remaining page resolved).get vout).isSome = true ↔
      (resolved.get vout).isSome = true ∨ ∃ p ∈ walkPages http owner remaining page, ∃ addressPage tx,
        http.address owner p = .ok (some addressPage) ∧ tx ∈ addressPage.transactions ∧ tx.Spends txid vout := by
  induction remaining generalizing page resolved with
  | zero => simp [walkAddress, walkPages]
  | succ remaining ih =>
    unfold walkAddress walkPages
    cases hreply : http.address owner page with
    | error e => simp [hreply]
    | ok answer =>
      cases answer with
      | none => simp [hreply]
      | some addressPage =>
        dsimp only
        by_cases hlast : page ≥ (max (addressPage.totalPages.getD 1) 1).toInt32.toUInt32 ∨ page ≥ MAX_ADDRESS_PAGES
        · rw [if_pos hlast, if_pos hlast, foldl_resolveInputs_iff]
          simp [hreply]
        · rw [if_neg hlast, if_neg hlast, ih, foldl_resolveInputs_iff]
          simp [hreply, or_assoc]

theorem shown_append {xs ys : List Request} :
    Shown http (xs ++ ys) txid vout ↔ Shown http xs txid vout ∨ Shown http ys txid vout := by
  unfold Shown
  constructor
  · rintro ⟨owner, page, addressPage, tx, hmem, hlists⟩
    rcases List.mem_append.mp hmem with hmem | hmem
    · exact .inl ⟨owner, page, addressPage, tx, hmem, hlists⟩
    · exact .inr ⟨owner, page, addressPage, tx, hmem, hlists⟩
  · rintro (⟨owner, page, addressPage, tx, hmem, hlists⟩ | ⟨owner, page, addressPage, tx, hmem, hlists⟩)
    · exact ⟨owner, page, addressPage, tx, List.mem_append_left _ hmem, hlists⟩
    · exact ⟨owner, page, addressPage, tx, List.mem_append_right _ hmem, hlists⟩

theorem shown_history {owner : String} {pages : List UInt32} :
    Shown http (pages.map (Request.address owner)) txid vout ↔ ∃ p ∈ pages, ∃ addressPage tx,
      http.address owner p = .ok (some addressPage) ∧ tx ∈ addressPage.transactions ∧ tx.Spends txid vout := by
  constructor
  · rintro ⟨owner', page, addressPage, tx, hmem, hlists⟩
    obtain ⟨p, hp, heq⟩ := List.mem_map.mp hmem
    obtain ⟨rfl, rfl⟩ := Request.address.inj heq
    exact ⟨p, hp, addressPage, tx, hlists⟩
  · rintro ⟨p, hp, addressPage, tx, hlists⟩
    exact ⟨owner, p, addressPage, tx, List.mem_map_of_mem hp, hlists⟩

variable (http txid vout) in
/-- **The walks find the spender of an output exactly when a page they are sent lists it.** -/
theorem resolved_iff (spentVouts : List (UInt32 × Option String)) :
    ((resolveSpenders http txid spentVouts).get vout).isSome = true ↔
      Shown http (historyRequests http spentVouts) txid vout := by
  have hwalks : ∀ (addresses : List String) (resolved : Resolved),
      ((addresses.foldl (fun resolved owner => walkAddress http txid owner MAX_ADDRESS_PAGES.toNat 1 resolved)
        resolved).get vout).isSome = true ↔ (resolved.get vout).isSome = true ∨
          Shown http (addresses.flatMap fun owner =>
            (walkPages http owner MAX_ADDRESS_PAGES.toNat 1).map (Request.address owner)) txid vout := by
    intro addresses
    induction addresses with
    | nil => simp [Shown]
    | cons owner addresses ih =>
      intro resolved
      rw [List.foldl_cons, ih, walkAddress_iff, or_assoc, List.flatMap_cons, shown_append, shown_history]
  unfold resolveSpenders historyRequests owners
  rw [hwalks]
  simp [Resolved.get]

end

/-! ## No request is sent twice -/

section
variable {http : Http}

theorem toNat_nextPage {page : UInt32} (h : page.toNat + 1 < 2 ^ 32) : (page + 1).toNat = page.toNat + 1 := by
  rw [UInt32.toNat_add, UInt32.toNat_one]
  exact Nat.mod_eq_of_lt h

/-- A walk asks for its first page and for later ones, as long as the page number does not wrap. -/
theorem le_of_mem_walkPages {owner : String} {remaining : Nat} {page p : UInt32} (hfits : page.toNat + remaining < 2 ^ 32)
    (h : p ∈ walkPages http owner remaining page) : page.toNat ≤ p.toNat := by
  induction remaining generalizing page with
  | zero => simp [walkPages] at h
  | succ remaining ih =>
    have hnext : (page + 1).toNat = page.toNat + 1 := toNat_nextPage (by omega)
    unfold walkPages at h
    rcases List.mem_cons.mp h with rfl | h
    · exact le_rfl
    · split at h
      · split at h
        · cases h
        · have := ih (by omega) h
          omega
      · cases h

theorem walkPages_nodup (owner : String) {remaining : Nat} {page : UInt32} (hfits : page.toNat + remaining < 2 ^ 32) :
    (walkPages http owner remaining page).Nodup := by
  induction remaining generalizing page with
  | zero => exact List.nodup_nil
  | succ remaining ih =>
    have hnext : (page + 1).toNat = page.toNat + 1 := toNat_nextPage (by omega)
    unfold walkPages
    split
    · split
      · exact List.nodup_singleton page
      · refine List.nodup_cons.mpr ⟨fun hmem => ?_, ih (by omega)⟩
        -- the later pages are numbered from `page + 1`
        have := le_of_mem_walkPages (by omega) hmem
        omega
    · exact List.nodup_singleton page

/-- Each owner's history is walked once, and the histories of two owners have no request in common. -/
theorem historyRequests_nodup (spentVouts : List (UInt32 × Option String)) :
    (historyRequests http spentVouts).Nodup := by
  refine List.nodup_flatMap.mpr ⟨fun owner _ => ?_, ?_⟩
  · exact (walkPages_nodup owner (by decide)).map fun _ _ h => (Request.address.inj h).2
  · refine (List.nodup_dedup _).imp fun {owner owner'} hne r h h' => ?_
    obtain ⟨_, _, rfl⟩ := List.mem_map.mp h
    obtain ⟨_, _, heq⟩ := List.mem_map.mp h'
    exact hne (Request.address.inj heq).1.symm

/-- **A question sends no request twice.** -/
theorem requests_nodup (q : Question) : (q.requests http).Nodup := by
  unfold Question.requests
  refine List.nodup_cons.mpr ⟨fun hmem => ?_, ?_⟩
  · split at hmem
    · obtain ⟨owner, _, hmem⟩ := List.mem_flatMap.mp hmem
      obtain ⟨_, _, heq⟩ := List.mem_map.mp hmem
      cases heq
    · cases hmem
  · split
    · exact historyRequests_nodup _
    · exact List.nodup_nil

end

/-! ## Only the requests matter -/

/-- Both endpoints answer the request alike. -/
def Http.Agree (http http' : Http) : Request → Prop
  | .tx txid => http.tx txid = http'.tx txid
  | .address owner page => http.address owner page = http'.address owner page

section
variable {http http' : Http} {txid : BtcTxid}

theorem walkAddress_congr (txid : BtcTxid) {owner : String} {remaining : Nat} {page : UInt32}
    (h : ∀ p ∈ walkPages http owner remaining page, http.address owner p = http'.address owner p) (resolved : Resolved) :
    walkAddress http txid owner remaining page resolved = walkAddress http' txid owner remaining page resolved := by
  induction remaining generalizing page resolved with
  | zero => rfl
  | succ remaining ih =>
    have hpage := h page (by unfold walkPages; exact List.mem_cons_self)
    unfold walkAddress
    rw [← hpage]
    cases hreply : http.address owner page with
    | error e => rfl
    | ok answer =>
      cases answer with
      | none => rfl
      | some addressPage =>
        dsimp only
        by_cases hlast : page ≥ (max (addressPage.totalPages.getD 1) 1).toInt32.toUInt32 ∨ page ≥ MAX_ADDRESS_PAGES
        · rw [if_pos hlast, if_pos hlast]
        · rw [if_neg hlast, if_neg hlast]
          refine ih (fun p hp => h p ?_) _
          unfold walkPages
          rw [hreply]
          dsimp only
          rw [if_neg hlast]
          exact List.mem_cons_of_mem _ hp

theorem resolveSpenders_congr {spentVouts : List (UInt32 × Option String)}
    (h : ∀ r ∈ historyRequests http spentVouts, http.Agree http' r) :
    resolveSpenders http txid spentVouts = resolveSpenders http' txid spentVouts := by
  have hwalks : ∀ addresses resolved, addresses ⊆ owners spentVouts →
      addresses.foldl (fun resolved owner => walkAddress http txid owner MAX_ADDRESS_PAGES.toNat 1 resolved) resolved =
        addresses.foldl (fun resolved owner => walkAddress http' txid owner MAX_ADDRESS_PAGES.toNat 1 resolved) resolved := by
    intro addresses
    induction addresses with
    | nil => exact fun resolved _ => rfl
    | cons owner addresses ih =>
      intro resolved hsubset
      obtain ⟨howner, hrest⟩ := List.cons_subset.mp hsubset
      have hwalk := walkAddress_congr txid (fun p hp => h (.address owner p)
        (List.mem_flatMap.mpr ⟨owner, howner, List.mem_map_of_mem hp⟩)) resolved
      rw [List.foldl_cons, List.foldl_cons, hwalk]
      exact ih _ hrest
  exact hwalks _ [] fun _ hmem => hmem

/-- The histories a question is about are among its requests. -/
theorem agree_history {q : Question} {tx : Tx} (h : ∀ r ∈ q.requests http, http.Agree http' r)
    (htx : http.tx q.txid = .ok (some tx)) : ∀ r ∈ historyRequests http (q.spent tx), http.Agree http' r := by
  intro r hr
  refine h r (List.mem_cons_of_mem _ ?_)
  rw [htx]
  exact hr

/-- **The answer about an outpoint is decided by the replies to its requests.** -/
theorem outpointStatus_congr {outpoint : BtcOutPoint}
    (h : ∀ r ∈ (Question.outpointStatus outpoint).requests http, http.Agree http' r) :
    outpointStatus http outpoint = outpointStatus http' outpoint := by
  have htx : http.tx outpoint.txid = http'.tx outpoint.txid := h (.tx outpoint.txid) List.mem_cons_self
  cases hreply : http.tx outpoint.txid with
  | error e => rw [outpointStatus_of_error hreply, outpointStatus_of_error (htx.symm.trans hreply)]
  | ok answer =>
    have hreply' := htx.symm.trans hreply
    cases answer with
    | none => rw [outpointStatus_of_none hreply, outpointStatus_of_none hreply']
    | some tx =>
      have hhistory := agree_history h hreply
      unfold Question.spent at hhistory
      dsimp only at hhistory
      rw [outpointStatus_of_some hreply, outpointStatus_of_some hreply']
      cases hvout : tx.vout.find? fun v => v.n = outpoint.vout with
      | none => rfl
      | some vout =>
        have hn : vout.n = outpoint.vout := by simpa using List.find?_some hvout
        rw [hvout] at hhistory
        dsimp only at hhistory
        dsimp only [Option.map_some, Option.getD_some]
        unfold voutStatus
        cases hspent : vout.spent with
        | false => rfl
        | true =>
          rw [hspent, if_pos rfl, ← hn] at hhistory
          rw [resolveSpenders_congr hhistory]

/-- And so is the answer about a transaction. -/
theorem txOutspends_congr (h : ∀ r ∈ (Question.txOutspends txid).requests http, http.Agree http' r) :
    txOutspends http txid = txOutspends http' txid := by
  have htx : http.tx txid = http'.tx txid := h (.tx txid) List.mem_cons_self
  cases hreply : http.tx txid with
  | error e => rw [txOutspends_of_error hreply, txOutspends_of_error (htx.symm.trans hreply)]
  | ok answer =>
    have hreply' := htx.symm.trans hreply
    cases answer with
    | none => rw [txOutspends_of_none hreply, txOutspends_of_none hreply']
    | some tx =>
      have hresolved : resolveSpenders http txid (spentVouts tx) = resolveSpenders http' txid (spentVouts tx) :=
        resolveSpenders_congr (agree_history h hreply)
      rw [txOutspends_of_some hreply, txOutspends_of_some hreply', hresolved]

end

/-! ## Errors -/

/-- The question is answered with an error. -/
def Question.Errs (http : Http) : Question → Prop
  | .outpointStatus outpoint => ∃ e, Blockbook.outpointStatus http outpoint = .error e
  | .txOutspends txid => ∃ e, Blockbook.txOutspends http txid = .error e

theorem outpointStatus_of_tx {http : Http} {outpoint : BtcOutPoint} {answer : Option Tx}
    (h : http.tx outpoint.txid = .ok answer) : ∃ status, outpointStatus http outpoint = .ok status := by
  cases answer with
  | none => exact ⟨_, outpointStatus_of_none h⟩
  | some tx => exact ⟨_, outpointStatus_of_some h⟩

theorem txOutspends_of_tx {http : Http} {txid : BtcTxid} {answer : Option Tx} (h : http.tx txid = .ok answer) :
    ∃ statuses, txOutspends http txid = .ok statuses := by
  cases answer with
  | none => exact ⟨_, txOutspends_of_none h⟩
  | some tx => exact ⟨_, txOutspends_of_some h⟩

/-- Only the request for the transaction can fail a question. -/
theorem Question.errs_iff (http : Http) (q : Question) : q.Errs http ↔ ∃ e, http.tx q.txid = .error e := by
  cases hreply : http.tx q.txid with
  | error e =>
    refine iff_of_true ?_ ⟨e, rfl⟩
    cases q with
    | outpointStatus outpoint => exact ⟨e, outpointStatus_of_error hreply⟩
    | txOutspends txid => exact ⟨e, txOutspends_of_error hreply⟩
  | ok answer =>
    refine iff_of_false (fun herrs => ?_) fun ⟨e, h⟩ => by cases h
    cases q with
    | outpointStatus outpoint =>
      obtain ⟨e, herror⟩ := herrs
      have hreply : http.tx outpoint.txid = .ok answer := hreply
      obtain ⟨status, hok⟩ := outpointStatus_of_tx hreply
      rw [hok] at herror
      cases herror
    | txOutspends txid =>
      obtain ⟨e, herror⟩ := herrs
      have hreply : http.tx txid = .ok answer := hreply
      obtain ⟨statuses, hok⟩ := txOutspends_of_tx hreply
      rw [hok] at herror
      cases herror

/-- It is the only such request. -/
theorem Question.txid_of_mem {http : Http} {q : Question} {txid : BtcTxid} (h : .tx txid ∈ q.requests http) :
    txid = q.txid := by
  unfold requests at h
  rcases List.mem_cons.mp h with heq | hmem
  · exact Request.tx.inj heq
  · split at hmem
    · obtain ⟨owner, -, hpage⟩ := List.mem_flatMap.mp hmem
      obtain ⟨p, -, heq⟩ := List.mem_map.mp hpage
      cases heq
    · cases hmem

theorem Question.tx_of_address {http : Http} {q : Question} {owner : String} {page : UInt32}
    (h : .address owner page ∈ q.requests http) : ∃ tx, http.tx q.txid = .ok (some tx) := by
  unfold requests at h
  rcases List.mem_cons.mp h with heq | hmem
  · cases heq
  · split at hmem
    · next tx htx => exact ⟨tx, htx⟩
    · cases hmem

end Blockbook
end RgbppIndexer
