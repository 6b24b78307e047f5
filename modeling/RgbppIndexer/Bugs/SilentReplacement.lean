import Mathlib.Data.List.Chain
import RgbppIndexer.Indexer.FollowUp

/-!
# A replaced spender is no change

`upsert_observation` returns "`true` when the spend status actually changed"
(crates/store/src/btc.rs:45-48), and a refresh fetches the spending
transaction of what it is told has changed (crates/indexer/src/reconcile.rs:143-146).
The statement returns the previous `status` column only, and compares it with
the kind that was written: a spend by another transaction, or at another
height, is no change.

Counterexample: an unconfirmed spender is replaced by another. The row names
the new one, the signal is `false`, and nobody fetches it
(`replaced_silently`).

* `tells_iff`: **over a sequence of calls the signal is right, and what it
  triggers happens, exactly when statuses of one kind that follow each other
  are equal.**
-/
namespace RgbppIndexer.Bugs.SilentReplacement

open RgbppIndexer.Core

/-- The database after a sequence of calls. -/
def after (o : BtcOutPoint) (st : Store) (calls : List Observation) : Store :=
  calls.foldl (fun st c => (st.observe o.key c).1) st

/-- A refresh that records this status, and with it a spender the row does not name, fetches the spender: wherever
in the answers of a call it stands, and whatever the data source says. -/
def Followed (o : BtcOutPoint) (st : Store) (status : OutpointSpendStatus) : Prop :=
  ∀ (r : Reconciler) (moment : Nat) (pass : RefreshPass) (spender : BtcTxid), pass.store = st →
    status.spender = some spender →
    (st.storedSpend o.key).bind SpendColumns.spenderTxid ≠ some spender.toDisplayVec →
    r.StepFetches moment pass (o, .ok status) spender

/-- Every call says whether it changed the stored status, and a changed spender is fetched. -/
def Tells (o : BtcOutPoint) (st : Store) (calls : List Observation) : Prop :=
  ∀ pre c post, calls = pre ++ c :: post →
    (((after o st pre).observe o.key c).2 = true ↔ (after o st pre).storedSpend o.key ≠ some c.status.columns) ∧
    Followed o (after o st pre) c.status

section
variable {o : BtcOutPoint} {st : Store} {c : Observation} {calls : List Observation}

/-- A spender the row does not name is another status; if the call tells, it is followed up. -/
theorem followed_of_tells {status : OutpointSpendStatus} (h : ¬ Store.Silent (st.storedSpend o.key) status) :
    Followed o st status := by
  intro r moment pass spender hst hspender hnew
  subst hst
  refine Reconciler.stepFetches_of_changed hspender (Store.upsertObservation_changed_iff .. |>.mpr fun hkind => ?_)
  refine h ⟨hkind, fun hsame => hnew ?_⟩
  rw [hsame, Option.bind_some]
  unfold OutpointSpendStatus.columns
  dsimp only
  rw [hspender, Option.map_some]

theorem storedSpend_observe (o : BtcOutPoint) (st : Store) (c : Observation) :
    (st.observe o.key c).1.storedSpend o.key = some c.status.columns := by
  unfold Store.observe
  rw [Store.storedSpend_upsertObservation, if_pos rfl]

/-- The first call, and then the others from the database it leaves. -/
theorem tells_cons : Tells o st (c :: calls) ↔
    ¬ Store.Silent (st.storedSpend o.key) c.status ∧ Tells o (st.observe o.key c).1 calls := by
  constructor
  · intro h
    refine ⟨Store.upsertObservation_tells_iff.mp (h [] c calls rfl).1, fun pre d post hsplit => ?_⟩
    exact h (c :: pre) d post (by rw [hsplit, List.cons_append])
  · rintro ⟨hfirst, hrest⟩ pre d post hsplit
    cases pre with
    | nil =>
      obtain ⟨rfl, -⟩ := List.cons.inj hsplit
      exact ⟨Store.upsertObservation_tells_iff.mpr hfirst, followed_of_tells hfirst⟩
    | cons b pre =>
      rw [List.cons_append] at hsplit
      obtain ⟨rfl, rfl⟩ := List.cons.inj hsplit
      exact hrest pre d post rfl

/-- **The sequences whose signals are right.** -/
theorem tells_iff (o : BtcOutPoint) (st : Store) (calls : List Observation) : Tells o st calls ↔
    (∀ c ∈ calls.head?, ¬ Store.Silent (st.storedSpend o.key) c.status) ∧
      calls.IsChain fun a b => a.status.column = b.status.column → a.status = b.status := by
  induction calls generalizing st with
  | nil =>
    refine iff_of_true (fun pre c post h => ?_) ⟨nofun, .nil⟩
    simp at h
  | cons c calls ih =>
    rw [tells_cons, ih, storedSpend_observe, List.isChain_cons]
    have hnext : ∀ b : Observation, ¬ Store.Silent (some c.status.columns) b.status ↔
        (c.status.column = b.status.column → c.status = b.status) := by
      intro b
      rw [Store.silent_columns_iff]
      tauto
    simp only [hnext, List.head?_cons, Option.mem_some_iff, forall_eq']

end

/-! ## The counterexample -/

def o : BtcOutPoint := ⟨.placeholder, 0⟩

def first : BtcTxid := ⟨.filled 32 1⟩

/-- The transaction that replaces `first`. -/
def second : BtcTxid := ⟨.filled 32 2⟩

def seen (spender : BtcTxid) : Observation := ⟨.spentUnconfirmed spender, none, "esplora", 0⟩

/-- The database after the first spender was seen. -/
def before : Store := (Store.empty.observe o.key (seen first)).1

/-- A refresh that is told of the second spender, and could not fetch it. -/
def reconciler : Reconciler := ⟨.testnet 64, Reconciler.deafSource (.spentUnconfirmed second), .inOrder, 0⟩

/-- The refresh succeeds, so it has not tried. -/
theorem not_followed : ¬ Followed o before (seen second).status := by
  intro h
  have hfetches := h reconciler 1 { store := before, out := [], observed := [] } second rfl rfl (by decide +kernel)
  have herror := hfetches.1 _ rfl
  have hunchanged : (reconciler.recordObservation before o (seen second).status none).2 = false := by decide +kernel
  rw [(Reconciler.refreshStep_of_unchanged hunchanged).1] at herror
  cases herror

/-- **The second spender is stored, and the call says that nothing changed.** -/
theorem replaced_silently : (before.observe o.key (seen second)).1.storedSpend o.key = some (seen second).status.columns ∧
    before.storedSpend o.key = some (seen first).status.columns ∧ first ≠ second ∧
    (before.observe o.key (seen second)).2 = false ∧ ¬ Followed o before (seen second).status ∧
    ¬ Tells o .empty [seen first, seen second] := by
  refine ⟨storedSpend_observe _ _ _, storedSpend_observe _ _ _, by decide +kernel, by decide +kernel, not_followed, fun h => ?_⟩
  exact not_followed (h [seen first] (seen second) [] rfl).2

end RgbppIndexer.Bugs.SilentReplacement
