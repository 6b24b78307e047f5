import RgbppIndexer.Btc.BlockbookHttp

/-!
# One output, two questions

`outpoint_status` walks the history of one address; `tx_outspends` walks those
of every spent output's address and fills a vector by output index. Both look
an output up in what its walks resolved (`outpointStatus_of_some`,
`outspendEntry_of_some`), and they walk different histories.

* `said_resolveSpenders`: what a walk resolved, a history entry said.
* `paths_agree`: with each spender reported one way, the two answers do not
  contradict, and the second knows every spender the first knows.
-/
namespace RgbppIndexer

open RgbppIndexer.Core

/-! ## Filling a vector by index -/

/-- Each slot holds what its one entry put there, or what it held before. -/
theorem getD_foldl_set {α β : Type} (key : α → Nat) (value : α → β) (default : β) (entries : List α) (slots : List β)
    (hnodup : (entries.map key).Nodup) (hlt : ∀ e ∈ entries, key e < slots.length) (n : Nat) :
    (entries.foldl (fun slots e => slots.set (key e) (value e)) slots).getD n default =
      ((entries.find? fun e => key e = n).map value).getD (slots.getD n default) := by
  induction entries generalizing slots with
  | nil => rfl
  | cons e entries ih =>
    obtain ⟨hnew, hrest⟩ := List.nodup_cons.mp hnodup
    have hslots : ∀ e' ∈ entries, key e' < (slots.set (key e) (value e)).length := by
      intro e' he'
      rw [List.length_set]
      exact hlt e' (List.mem_cons_of_mem _ he')
    rw [List.foldl_cons, ih _ hrest hslots]
    by_cases hn : key e = n
    · subst hn
      have hnone : entries.find? (fun e' => key e' = key e) = none := by
        rw [List.find?_eq_none]
        intro e' he' heq
        exact hnew (List.mem_map.mpr ⟨e', he', of_decide_eq_true heq⟩)
      rw [hnone, List.find?_cons_of_pos (by simp)]
      simp [List.getD_eq_getElem?_getD, hlt e List.mem_cons_self]
    · rw [List.find?_cons_of_neg (by simpa using hn)]
      simp [List.getD_eq_getElem?_getD, hn]

namespace Blockbook

/-! ## What a history says -/

/-- The entry is on a page of some address's history. -/
def Http.Lists (http : Http) (tx : Tx) : Prop :=
  ∃ owner page addressPage, http.address owner page = .ok (some addressPage) ∧ tx ∈ addressPage.transactions

/-- The status of an output that this entry spends. -/
def Tx.spendStatus (tx : Tx) : Option OutpointSpendStatus :=
  (resolveInputs.btcTxidFromHex tx.txid).map fun spender =>
    match tx.blockHeight with
    | some height => if 0 < height then .spentConfirmed spender height.toInt32.toUInt32 else .spentUnconfirmed spender
    | none => .spentUnconfirmed spender

theorem Tx.spender_of_spendStatus {tx : Tx} {status : OutpointSpendStatus} (h : tx.spendStatus = some status) :
    status.spender.isSome = true := by
  unfold spendStatus at h
  obtain ⟨spender, -, rfl⟩ := Option.map_eq_some_iff.mp h
  split
  · split <;> rfl
  · rfl

/-- Everything resolved was said by an entry of a history. -/
def Said (http : Http) (txid : BtcTxid) (resolved : Resolved) : Prop :=
  ∀ vout status, resolved.get vout = some status →
    ∃ tx, http.Lists tx ∧ tx.Spends txid vout ∧ tx.spendStatus = some status

section
variable {http : Http} {txid : BtcTxid} {vout : UInt32}

theorem said_nil : Said http txid [] := nofun

theorem Said.cons {resolved : Resolved} (h : Said http txid resolved) {n : UInt32} {status : OutpointSpendStatus} {tx : Tx}
    (hlists : http.Lists tx) (hspends : tx.Spends txid n) (hstatus : tx.spendStatus = some status) :
    Said http txid ((n, status) :: resolved) := by
  intro vout status' hget
  unfold Resolved.get at hget
  by_cases hn : n = vout
  · rw [List.find?_cons_of_pos (by simpa using hn)] at hget
    obtain rfl := Option.some.inj hget
    subst hn
    exact ⟨tx, hlists, hspends, hstatus⟩
  · rw [List.find?_cons_of_neg (by simpa using hn)] at hget
    exact h vout status' hget

/-- One entry. -/
theorem Said.resolveInputs {resolved : Resolved} (h : Said http txid resolved) {tx : Tx} (hlists : http.Lists tx) :
    Said http txid (resolveInputs txid resolved tx) := by
  unfold Blockbook.resolveInputs
  refine List.foldlRecOn tx.vin _ h ?_
  intro resolved hresolved vin hvin
  cases hprev : vin.txid with
  | none => exact hresolved
  | some prev =>
    dsimp only
    cases hp : resolveInputs.btcTxidFromHex prev with
    | none => exact hresolved
    | some p =>
      cases hspender : resolveInputs.btcTxidFromHex tx.txid with
      | none => exact hresolved
      | some spender =>
        dsimp only
        by_cases htxid : p = txid
        · rw [if_pos htxid]
          refine hresolved.cons hlists ⟨by rw [hspender]; rfl, vin, hvin, by rw [hprev, ← htxid]; exact hp, rfl⟩ ?_
          unfold Tx.spendStatus
          rw [hspender]
          rfl
        · rw [if_neg htxid]
          exact hresolved

/-- The pages of one history. -/
theorem Said.walkAddress {owner : String} (remaining : Nat) {page : UInt32} {resolved : Resolved}
    (h : Said http txid resolved) : Said http txid (walkAddress http txid owner remaining page resolved) := by
  induction remaining generalizing page resolved with
  | zero => exact h
  | succ remaining ih =>
    unfold Blockbook.walkAddress
    cases hreply : http.address owner page with
    | error e => exact h
    | ok answer =>
      cases answer with
      | none => exact h
      | some addressPage =>
        have hpage : Said http txid (addressPage.transactions.foldl (Blockbook.resolveInputs txid) resolved) :=
          List.foldlRecOn _ _ h fun _ hresolved _ htx => hresolved.resolveInputs ⟨owner, page, addressPage, hreply, htx⟩
        dsimp only
        split
        · exact hpage
        · exact ih hpage

variable (http txid) in
/-- Every history that is walked. -/
theorem said_resolveSpenders (spentVouts : List (UInt32 × Option String)) :
    Said http txid (resolveSpenders http txid spentVouts) := by
  unfold resolveSpenders
  exact List.foldlRecOn _ _ said_nil fun _ hresolved _ _ => hresolved.walkAddress _

/-- The more outputs are asked about, the more is resolved. -/
theorem resolved_mono {spent spent' : List (UInt32 × Option String)}
    (hsub : ∀ owner ∈ spent.filterMap Prod.snd, owner ∈ spent'.filterMap Prod.snd)
    (h : ((resolveSpenders http txid spent).get vout).isSome = true) :
    ((resolveSpenders http txid spent').get vout).isSome = true := by
  rw [resolved_iff] at h ⊢
  obtain ⟨owner, page, addressPage, tx, hmem, hlists⟩ := h
  refine ⟨owner, page, addressPage, tx, ?_, hlists⟩
  unfold historyRequests owners at hmem ⊢
  rw [List.mem_flatMap] at hmem ⊢
  obtain ⟨owner', howner, hpage⟩ := hmem
  refine ⟨owner', ?_, hpage⟩
  rw [List.mem_dedup, List.mem_insertionSort] at howner ⊢
  exact hsub owner' howner

/-! ## The entry of an output -/

variable (http txid vout) in
/-- The entry of `tx_outspends` for an output; past the end of the list, or without one, it is `Unknown`. -/
def outspendEntry : Except BtcError OutpointSpendStatus := do
  match ← txOutspends http txid with
  | none => return .unknown
  | some statuses => return statuses.getD vout.toNat .unknown

/-- `max` of two indices is the larger. -/
instance lawfulOrderMaxIndex : Std.LawfulOrderMax UInt32 := by
  refine .of_max_le_iff ?_ ?_
  · intro a b c
    show (if a ≤ b then b else a) ≤ c ↔ a ≤ c ∧ b ≤ c
    split <;> grind
  · intro a b
    show (if a ≤ b then b else a) = a ∨ (if a ≤ b then b else a) = b
    split <;> simp

theorem lt_maxIndex {tx : Tx} {v : Vout} (hv : v ∈ tx.vout) : v.n.toNat < (maxIndex tx).toNat + 1 := by
  have hmem : v.n ∈ tx.vout.map Vout.n := List.mem_map_of_mem hv
  unfold maxIndex
  cases hmax : (tx.vout.map Vout.n).max? with
  | none =>
    rw [List.max?_eq_none_iff] at hmax
    rw [hmax] at hmem
    cases hmem
  | some n =>
    have hle : v.n ≤ n := (List.max?_eq_some_iff.mp hmax).2 _ hmem
    rw [UInt32.le_iff_toNat_le] at hle
    rw [Option.getD_some]
    omega

/-- An output's entry of the list is its own. -/
theorem getD_outspends (resolved : Resolved) {tx : Tx} (hnodup : (tx.vout.map Vout.n).Nodup) (vout : UInt32) :
    (outspends resolved tx).getD vout.toNat .unknown =
      ((tx.vout.find? fun v => v.n = vout).map (voutStatus resolved)).getD .unknown := by
  have hkeys : (tx.vout.map fun v => v.n.toNat).Nodup := by
    rw [show (fun v : Vout => v.n.toNat) = UInt32.toNat ∘ Vout.n from rfl, ← List.map_map]
    exact hnodup.map fun a b h => UInt32.toNat_inj.mp h
  have hlt : ∀ v ∈ tx.vout,
      v.n.toNat < (List.replicate ((maxIndex tx).toNat + 1) OutpointSpendStatus.unknown).length := by
    intro v hv
    rw [List.length_replicate]
    exact lt_maxIndex hv
  have hfind : (tx.vout.find? fun v => v.n.toNat = vout.toNat) = tx.vout.find? fun v => v.n = vout := by
    simp only [UInt32.toNat_inj]
  have hunknown : (List.replicate ((maxIndex tx).toNat + 1) OutpointSpendStatus.unknown).getD vout.toNat .unknown = .unknown := by
    rw [List.getD_eq_getElem?_getD, List.getElem?_replicate]
    split <;> rfl
  unfold outspends
  rw [getD_foldl_set (fun v : Vout => v.n.toNat) (voutStatus resolved) .unknown tx.vout _ hkeys hlt, hfind, hunknown]

theorem outspendEntry_of_none (htx : http.tx txid = .ok none) : outspendEntry http txid vout = .ok .unknown := by
  unfold outspendEntry
  rw [txOutspends_of_none htx]
  rfl

/-- It is looked up in what the histories of all spent outputs say. -/
theorem outspendEntry_of_some {tx : Tx} (htx : http.tx txid = .ok (some tx)) (hnodup : (tx.vout.map Vout.n).Nodup) :
    outspendEntry http txid vout =
      .ok (((tx.vout.find? fun v => v.n = vout).map (voutStatus (resolveSpenders http txid (spentVouts tx)))).getD .unknown) := by
  unfold outspendEntry
  rw [txOutspends_of_some htx, ← getD_outspends _ hnodup]
  rfl

end

/-! ## Agreement -/

/-- Two answers about one output that can both be right, the second knowing what the first knows. -/
structure Consistent (single batched : OutpointSpendStatus) : Prop where
  unspent : single = .unspent ↔ batched = .unspent
  spender : single.spender.isSome = true → batched.spender.isSome = true →
    single.spender = batched.spender ∧ single.height = batched.height
  named : single.spender.isSome = true → batched.spender.isSome = true

theorem Consistent.refl (status : OutpointSpendStatus) : Consistent status status := ⟨Iff.rfl, fun _ _ => ⟨rfl, rfl⟩, id⟩

/-- Replies of a backend that answers, and tells one story. -/
structure Coherent (http : Http) : Prop where
  answers : ∀ txid, ∃ answer, http.tx txid = .ok answer
  distinct : ∀ txid tx, http.tx txid = .ok (some tx) → (tx.vout.map Vout.n).Nodup
  /-- an output has one spender, reported alike wherever it is listed -/
  spentOnce : ∀ txid vout tx tx', http.Lists tx → http.Lists tx' → tx.Spends txid vout → tx'.Spends txid vout →
    resolveInputs.btcTxidFromHex tx.txid = resolveInputs.btcTxidFromHex tx'.txid ∧ tx.blockHeight = tx'.blockHeight

section
variable {http : Http} {txid : BtcTxid}

/-- Whatever two walks resolved an output to, it is the same. -/
theorem Coherent.same (h : Coherent http) {resolved resolved' : Resolved} (hsaid : Said http txid resolved)
    (hsaid' : Said http txid resolved') {vout : UInt32} {status status' : OutpointSpendStatus}
    (hget : resolved.get vout = some status) (hget' : resolved'.get vout = some status') : status = status' := by
  obtain ⟨tx, hlists, hspends, hstatus⟩ := hsaid vout status hget
  obtain ⟨tx', hlists', hspends', hstatus'⟩ := hsaid' vout status' hget'
  obtain ⟨htxid, hheight⟩ := h.spentOnce txid vout tx tx' hlists hlists' hspends hspends'
  have heq : tx.spendStatus = tx'.spendStatus := by
    unfold Tx.spendStatus
    rw [htxid, hheight]
  rw [hstatus, hstatus'] at heq
  exact Option.some.inj heq

/-- An output looked up in two walks, the second of which resolved all that the first did. -/
theorem Coherent.voutStatus (h : Coherent http) {resolved resolved' : Resolved} (hsaid : Said http txid resolved)
    (hsaid' : Said http txid resolved') (v : Vout)
    (hmore : v.spent = true → (resolved.get v.n).isSome = true → (resolved'.get v.n).isSome = true) :
    Consistent (voutStatus resolved v) (voutStatus resolved' v) := by
  unfold Blockbook.voutStatus
  cases hspent : v.spent with
  | false => exact Consistent.refl _
  | true =>
    rw [if_pos rfl, if_pos rfl]
    cases hget : resolved.get v.n with
    | some status =>
      obtain ⟨status', hget'⟩ := Option.isSome_iff_exists.mp (hmore hspent (by rw [hget]; rfl))
      rw [hget', h.same hsaid hsaid' hget hget']
      exact Consistent.refl _
    | none =>
      cases hget' : resolved'.get v.n with
      | none => exact Consistent.refl _
      | some status' =>
        obtain ⟨tx, -, -, hstatus⟩ := hsaid' _ _ hget'
        have hspender := Tx.spender_of_spendStatus hstatus
        refine ⟨⟨nofun, ?_⟩, nofun, nofun⟩
        rintro (rfl : status' = .unspent)
        cases hspender

end

/-- The backend as callers see it; nothing here depends on its other answers.
mirrors crates/btc/src/blockbook.rs:251-391 -/
def Http.replies (http : Http) (others : BtcReplies) : BtcReplies :=
  { others with outpointStatus := outpointStatus http, txOutspends := txOutspends http }

/-- **The two questions do not contradict each other**, and a call asks one of them for each outpoint. -/
theorem paths_agree (http : Http) (h : Coherent http) :
    (∀ (txid : BtcTxid) (vout : UInt32), ∃ single batched,
      outpointStatus http ⟨txid, vout⟩ = .ok single ∧ outspendEntry http txid vout = .ok batched ∧
        Consistent single batched ∧
        ((∀ tx, http.tx txid = .ok (some tx) → vout ∉ tx.vout.map Vout.n) → single = .unknown ∧ batched = .unknown)) ∧
    (∀ (source : BtcReplies) (completion : Completion) (outpoints : List BtcOutPoint),
      ((observeMany source completion outpoints).map Prod.fst).Perm outpoints.dedup) ∧
    ∀ (others : BtcReplies) (completion : Completion) (outpoints : List BtcOutPoint) (o : BtcOutPoint)
      (answer : Except BtcError OutpointSpendStatus),
      (o, answer) ∈ observeMany (http.replies others) completion outpoints →
        answer = outpointStatus http o ∨ answer = outspendEntry http o.txid o.vout := by
  refine ⟨?_, ?_, ?_⟩
  · intro txid vout
    obtain ⟨answer, htx⟩ := h.answers txid
    cases answer with
    | none =>
      exact ⟨_, _, outpointStatus_of_none htx, outspendEntry_of_none htx, .refl _, fun _ => ⟨rfl, rfl⟩⟩
    | some tx =>
      refine ⟨_, _, outpointStatus_of_some htx, outspendEntry_of_some htx (h.distinct txid tx htx), ?_, ?_⟩
      · cases hfind : tx.vout.find? fun v => v.n = vout with
        | none => exact .refl _
        | some v =>
          have hv := List.mem_of_find?_eq_some hfind
          refine h.voutStatus (said_resolveSpenders http txid _) (said_resolveSpenders http txid _) v fun hspent => resolved_mono ?_
          intro owner howner
          refine List.mem_filterMap.mpr ⟨(v.n, v.addresses.head?), ?_, ?_⟩
          · exact List.mem_map.mpr ⟨v, List.mem_filter.mpr ⟨hv, hspent⟩, rfl⟩
          · simpa using howner
      · intro habsent
        have hnone : tx.vout.find? (fun v => v.n = vout) = none := by
          rw [List.find?_eq_none]
          intro v hv heq
          exact habsent tx htx (List.mem_map.mpr ⟨v, hv, of_decide_eq_true heq⟩)
        rw [hnone]
        exact ⟨rfl, rfl⟩
  · intro source completion outpoints
    rw [List.perm_ext_iff_of_nodup (observeMany_nodup _ _ _) (List.nodup_dedup _)]
    intro o
    rw [mem_observeMany, List.mem_dedup]
  · intro others completion outpoints o answer hmem
    rcases answer_of_mem_observeMany hmem with hsingle | ⟨statuses, hbatch, heq⟩
    · exact .inl hsingle
    · right
      have hbatch : txOutspends http o.txid = .ok (some statuses) := hbatch
      unfold outspendEntry
      rw [hbatch, heq]
      rfl

/-! ## A shared address -/

def funding : BtcTxid := ⟨.filled 32 7⟩

/-- Outputs 3 and 1 are spent and share an address; there is no output 2. -/
def gapped : Tx where
  txid := "0707070707070707070707070707070707070707070707070707070707070707"
  vin := []
  vout := [⟨3, ["shared"], true⟩, ⟨0, ["other"], false⟩, ⟨1, ["shared"], true⟩]
  blockHeight := some 100

/-- It spends output 3. -/
def spending : Tx where
  txid := "0909090909090909090909090909090909090909090909090909090909090909"
  vin := [⟨some gapped.txid, 3⟩]
  vout := []
  blockHeight := some 101

/-- A backend that knows the two of them. -/
def known : Http where
  tx txid := .ok (if txid = funding then some gapped else none)
  address owner page :=
    .ok (if owner = "shared" ∧ page = 1 then some { totalPages := some 1, transactions := [spending] } else none)

theorem known_lists {tx : Tx} (h : known.Lists tx) : tx = spending := by
  obtain ⟨owner, page, addressPage, hreply, hmem⟩ := h
  have hreply := Except.ok.inj hreply
  split at hreply
  · obtain rfl := Option.some.inj hreply
    exact List.mem_singleton.mp hmem
  · cases hreply

theorem known_coherent : Coherent known where
  answers _ := ⟨_, rfl⟩
  distinct txid tx htx := by
    have htx := Except.ok.inj htx
    split at htx
    · obtain rfl := Option.some.inj htx
      decide
    · cases htx
  spentOnce txid vout tx tx' hlists hlists' _ _ := by
    rw [known_lists hlists, known_lists hlists']
    exact ⟨rfl, rfl⟩

theorem paths_agree_known :
    (∃ single batched, outpointStatus known ⟨funding, 3⟩ = .ok single ∧ outspendEntry known funding 3 = .ok batched ∧
      Consistent single batched) ∧
    outpointStatus known ⟨funding, 2⟩ = .ok .unknown ∧ outspendEntry known funding 2 = .ok .unknown := by
  obtain ⟨hagree, -, -⟩ := paths_agree known known_coherent
  constructor
  · obtain ⟨single, batched, hsingle, hbatched, hconsistent, -⟩ := hagree funding 3
    exact ⟨single, batched, hsingle, hbatched, hconsistent⟩
  · obtain ⟨single, batched, hsingle, hbatched, -, habsent⟩ := hagree funding 2
    have hgap : ∀ tx, known.tx funding = .ok (some tx) → (2 : UInt32) ∉ tx.vout.map Vout.n := by
      intro tx htx
      obtain rfl : gapped = tx := Option.some.inj (Except.ok.inj htx)
      decide
    obtain ⟨rfl, rfl⟩ := habsent hgap
    exact ⟨hsingle, hbatched⟩

end Blockbook
end RgbppIndexer
