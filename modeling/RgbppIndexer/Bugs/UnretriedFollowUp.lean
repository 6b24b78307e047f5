import RgbppIndexer.Indexer.FollowUp

/-!
# A failed follow-up is not tried again

A refresh writes the observation, and then fetches the spending transaction
"so its commitment and confirmation state are available without another round
trip later" (crates/indexer/src/reconcile.rs:212-225). When the fetch fails the
refresh fails with it, but the observation is stored: the next refresh that
gets the same answer is told that nothing has changed, and fetches nothing
(crates/indexer/src/reconcile.rs:142-146). A status lookup that fails, in the
same loop, is queued for retry (crates/indexer/src/reconcile.rs:163-175).

Counterexample: a spend is observed while the spender cannot be looked up.
However often the same answer comes again, from a source that now knows the
spender, `btc_txs` never gets it (`left_out`).

* `never_retried`: as long as nothing else is answered for the outpoint, no
  refresh of it fetches the spender.
* `retried_iff`: **failed follow-ups are made up for exactly in the runs in
  which none fails.**
-/
namespace RgbppIndexer.Bugs.UnretriedFollowUp

open RgbppIndexer.Core RgbppIndexer.System

section
variable [Sha2] (cfg : Config) (errorText : IndexerError → String)

/-- After a failed follow-up, the next answer for the outpoint fetches the spender if it is the same answer: whoever
asks, wherever in a refresh the answer stands, and whatever other tasks do until then. -/
def Retried (events : List Event) : Prop :=
  ∀ past r moment o status later, past ++ .answer r moment (o, .ok status) :: later <+: events →
    r.FollowUpFails moment (after cfg errorText past) (o, .ok status) →
    (∀ e ∈ later, answerFor o.key e = none) →
    ∀ (r' : Reconciler) (moment' : Nat) (pass : RefreshPass) (spender : BtcTxid),
      pass.store = after cfg errorText (past ++ .answer r moment (o, .ok status) :: later) →
      status.spender = some spender → r'.StepFetches moment' pass (o, .ok status) spender

variable {cfg errorText} {r : Reconciler} {moment : Nat} {o : BtcOutPoint} {status : OutpointSpendStatus} {events : List Event}
  {pass : RefreshPass}

theorem after_append (past later : List Event) :
    after cfg errorText (past ++ later) = later.foldl (apply cfg errorText) (after cfg errorText past) := by
  unfold after
  rw [List.foldl_append]

/-- The status stays stored while nothing else is answered for the outpoint. -/
theorem stored_foldl (later : List Event) (st : Store) (hstored : st.storedSpend o.key = some status.columns)
    (hsame : ∀ e ∈ later, ∀ s, answerFor o.key e = some s → s = status) :
    (later.foldl (apply cfg errorText) st).storedSpend o.key = some status.columns := by
  induction later generalizing st with
  | nil => exact hstored
  | cons e later ih =>
    refine ih _ ?_ fun e' he' => hsame e' (List.mem_cons_of_mem _ he')
    cases hanswer : answerFor o.key e with
    | none => exact storedSpend_of_quiet cfg errorText hanswer hstored
    | some s =>
      obtain rfl := hsame e List.mem_cons_self s hanswer
      exact storedSpend_of_answer cfg errorText st hanswer

theorem stored_after (past later : List Event) (hsame : ∀ e ∈ later, ∀ s, answerFor o.key e = some s → s = status) :
    (after cfg errorText (past ++ .answer r moment (o, .ok status) :: later)).storedSpend o.key = some status.columns := by
  have hanswer : answerFor o.key (.answer r moment (o, .ok status)) = some status := if_pos rfl
  rw [after_append, List.foldl_cons]
  exact stored_foldl later _ (storedSpend_of_answer cfg errorText _ hanswer) hsame

omit [Sha2] in
/-- An answer that is stored already asks nothing. -/
theorem refreshStep_of_stored (hstored : pass.store.storedSpend o.key = some status.columns) :
    (r.refreshStep moment pass (o, .ok status)).2 = .ok () ∧
      (r.refreshStep moment pass (o, .ok status)).1.store.btcTxs = pass.store.btcTxs := by
  refine Reconciler.refreshStep_of_unchanged ?_
  rw [← Bool.not_eq_true]
  intro hchanged
  refine (Store.upsertObservation_changed_iff ..).mp hchanged ?_
  rw [hstored]
  rfl

/-- **A follow-up is made once, whether or not it fails**: while the answer stays the same, a refresh asks nothing, and
`btc_txs` stays as it is. -/
theorem never_retried (past later : List Event) (hsame : ∀ e ∈ later, ∀ s, answerFor o.key e = some s → s = status)
    (hstore : pass.store = after cfg errorText (past ++ .answer r moment (o, .ok status) :: later)) (r' : Reconciler)
    (moment' : Nat) : (r'.refreshStep moment' pass (o, .ok status)).2 = .ok () ∧
      (r'.refreshStep moment' pass (o, .ok status)).1.store.btcTxs = pass.store.btcTxs := by
  refine refreshStep_of_stored ?_
  rw [hstore]
  exact stored_after past later hsame

/-- A refresh whose lookups fail, and which would have to report it. -/
def deaf : Reconciler := ⟨.testnet 64, Reconciler.deafSource .unspent, .inOrder, 0⟩

/-- **The runs in which failed follow-ups are made up for.** -/
theorem retried_iff (cfg : Config) (errorText : IndexerError → String) (events : List Event) : Retried cfg errorText events ↔
    ∀ past r moment o status, past ++ [.answer r moment (o, .ok status)] <+: events →
      ¬ r.FollowUpFails moment (after cfg errorText past) (o, .ok status) := by
  constructor
  · intro hretried past r moment o status hprefix hfails
    obtain ⟨s, spender, -, hok, hspender, -, -⟩ := id hfails
    cases hok
    have hfetches := hretried past r moment o status [] hprefix hfails (fun e he => absurd he List.not_mem_nil) deaf 0
      { store := after cfg errorText (past ++ [.answer r moment (o, .ok status)]), out := [], observed := [] } spender rfl
      hspender
    have hstored : (after cfg errorText (past ++ [.answer r moment (o, .ok status)])).storedSpend o.key = some status.columns :=
      stored_after past [] fun e he => absurd he List.not_mem_nil
    have herror := hfetches.1 _ rfl
    rw [(refreshStep_of_stored hstored).1] at herror
    cases herror
  · intro hnone past r moment o status later hprefix hfails
    refine absurd hfails (hnone past r moment o status (List.IsPrefix.trans ?_ hprefix))
    exact ⟨later, by rw [List.append_assoc, List.singleton_append]⟩

end

/-! ## The counterexample -/

section

local instance retriedHash : Sha2 := .standard

def o : BtcOutPoint := ⟨.placeholder, 0⟩

def spender : BtcTxid := ⟨.filled 32 1⟩

def spent : OutpointSpendStatus := .spentUnconfirmed spender

/-- The backend says that the outpoint is spent, and loses the connection when asked for the spender. -/
def flaky : Reconciler := ⟨.testnet 64, Reconciler.deafSource spent, .inOrder, 0⟩

/-- It says the same, and knows the spender. -/
def recovered : Reconciler where
  config := .testnet 64
  btc :=
    { name := "esplora"
      moment := fun _ =>
        { transaction := fun txid => .ok (some { txid, confirmation := none, inputs := [], outputs := [], fee := none })
          outpointStatus := fun _ => .ok spent
          txOutspends := fun _ => .ok none
          addressUtxos := fun _ => .ok [] } }
  completion := .inOrder
  now := 0

def failing : Event := .answer flaky 1 (o, .ok spent)

/-- The outpoint is refreshed `n` more times. -/
def retries (n : Nat) : List Event := failing :: List.replicate n (.answer recovered 1 (o, .ok spent))

theorem follow_up_fails : flaky.FollowUpFails 1 (after (.testnet 64) (fun _ => "") []) (o, .ok spent) :=
  ⟨spent, spender, _, rfl, rfl, by decide +kernel, rfl⟩

theorem stored_retries (n : Nat) : (after (.testnet 64) (fun _ => "") (retries n)).storedSpend o.key = some spent.columns := by
  refine stored_after [] _ fun e he s hs => ?_
  rw [List.eq_of_mem_replicate he] at hs
  exact (Option.some.inj hs).symm

/-- No number of refreshes brings the spender. -/
theorem btcTxs_retries (n : Nat) : (after (.testnet 64) (fun _ => "") (retries n)).btcTxs.get? spender.toDisplayVec = none := by
  induction n with
  | zero => decide +kernel
  | succ n ih =>
    have hstep : after (.testnet 64) (fun _ => "") (retries (n + 1)) = apply (.testnet 64) (fun _ => "")
        (after (.testnet 64) (fun _ => "") (retries n)) (.answer recovered 1 (o, .ok spent)) := by
      unfold after retries
      rw [List.replicate_succ', ← List.cons_append, List.foldl_append]
      rfl
    rw [hstep, apply, (refreshStep_of_stored (stored_retries n)).2]
    exact ih

/-- The pass of a refresh that comes next. -/
def next : RefreshPass := { store := after (.testnet 64) (fun _ => "") (retries 0), out := [], observed := [] }

theorem next_asks_nothing : (recovered.refreshStep 1 next (o, .ok spent)).1.store.btcTxs = next.store.btcTxs := by
  have hstored : next.store.storedSpend o.key = some spent.columns := stored_retries 0
  exact (refreshStep_of_stored hstored).2

/-- **The spend is stored, the data source knows the spender, and `btc_txs` never gets it.** -/
theorem left_out : flaky.FollowUpFails 1 (after (.testnet 64) (fun _ => "") []) (o, .ok spent) ∧
    (∃ tx, (recovered.btc.moment 1).transaction spender = .ok (some tx)) ∧
    (∀ n, (after (.testnet 64) (fun _ => "") (retries n)).storedSpend o.key = some spent.columns ∧
      (after (.testnet 64) (fun _ => "") (retries n)).btcTxs.get? spender.toDisplayVec = none) ∧
    ¬ Retried (.testnet 64) (fun _ => "") (retries 0) := by
  refine ⟨follow_up_fails, ⟨_, rfl⟩, fun n => ⟨stored_retries n, btcTxs_retries n⟩, fun hretried => ?_⟩
  have hfetches := hretried [] flaky 1 o spent [] List.prefix_rfl follow_up_fails
    (fun e he => absurd he List.not_mem_nil) recovered 1 next spender rfl rfl
  have hrow := hfetches.2 _ rfl
  rw [next_asks_nothing, show next.store.btcTxs.get? spender.toDisplayVec = none from btcTxs_retries 0] at hrow
  cases hrow

end
end RgbppIndexer.Bugs.UnretriedFollowUp
