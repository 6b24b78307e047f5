import RgbppIndexer.Indexer.System

/-!
# An unknown answer resolves a finding

`refresh_outpoints` (crates/indexer/src/reconcile.rs:147-156) resolves the
anomalies of an outpoint whenever the answer is not a spend, with the comment
that "the cell is unambiguously live again". `Unknown` is not a spend either:
it stands for an outpoint the data source knows nothing about, which is kept
apart from `Unspent` everywhere else (crates/types/src/state.rs:14-16,
README.md:119-122). And `detect_misspends` (crates/indexer/src/sweeper.rs:187-200)
resolves as soon as any indexed transition names the spender, whether or not
it consumes a cell bound to the outpoint.

Counterexample: a bound outpoint is reported spent and flagged; then the data
source does not know it. The finding is resolved, with no `Unspent` answer
and no consumed cell in the whole run (`unknown_resolves`).

* `justified_iff`: **in a run every resolution is justified exactly when no
  outpoint with an open anomaly is answered `Unknown`, and no search takes a
  transition for an outpoint whose cells are all unconsumed.**
-/
namespace RgbppIndexer.Bugs.UnknownResolves

open RgbppIndexer.Core RgbppIndexer.System

/-- A cell bound to the outpoint is consumed by an indexed transition. -/
def Consumed (key : OutpointKey) (st : Store) : Prop :=
  ∃ k c, st.rgbppCells.get? k = some c ∧ c.btcTxid = key.txid ∧ c.btcVout = some key.vout ∧ c.consumed ≠ none

/-- An anomaly of the outpoint is open. -/
def HasOpenAnomaly (key : OutpointKey) (st : Store) : Prop := ∃ k, OpenAnomaly k key st

/-- The data source says this about the outpoint. -/
def Answers (key : OutpointKey) (status : OutpointSpendStatus) : Event → Prop
  | .answer _ _ answer => answer.1.key = key ∧ answer.2 = .ok status
  | _ => False

section
variable [Sha2] (cfg : Config) (errorText : IndexerError → String)

/-- An anomaly of the outpoint is open before the event, and not after it. -/
def Resolves (st : Store) (event : Event) (key : OutpointKey) : Prop :=
  ∃ k, OpenAnomaly k key st ∧ ¬ OpenAnomaly k key (apply cfg errorText st event)

/-- What the event resolves was answered `Unspent`, or has a consumed cell and was not just answered `Unknown`. -/
def Justified (st : Store) (event : Event) : Prop :=
  ∀ key, Resolves cfg errorText st event key →
    Answers key .unspent event ∨ Consumed key st ∧ ¬ Answers key .unknown event

/-- No open anomaly is met by an answer `Unknown`, nor by a search that finds the spender of an outpoint with no
consumed cell in some transition. -/
def Sound (st : Store) : Event → Prop
  | .answer _ _ answer => answer.2 = .ok .unknown → ¬ HasOpenAnomaly answer.1.key st
  | .examine w _ tip _ row => w.verdict tip st row = .resolve → HasOpenAnomaly row.1 st → Consumed row.1 st
  | _ => True

variable {cfg errorText} {st : Store} {event : Event}

theorem not_resolves {key : OutpointKey} (h : ∀ k, OpenAnomaly k key st → OpenAnomaly k key (apply cfg errorText st event)) :
    ¬ Resolves cfg errorText st event key := by
  rintro ⟨k, hopen, hclosed⟩
  exact hclosed (h k hopen)

omit [Sha2] in
/-- An answer that resolves is `Unspent` or `Unknown`. -/
theorem closes_iff (r : Reconciler) (moment : Nat) {key : OutpointKey} {answer : Observed} : Reconciler.Closes key answer ↔
    Answers key .unspent (.answer r moment answer) ∨ Answers key .unknown (.answer r moment answer) := by
  unfold Reconciler.Closes
  constructor
  · rintro ⟨hkey, status, hok, hnot⟩
    cases status with
    | unspent => exact .inl ⟨hkey, hok⟩
    | unknown => exact .inr ⟨hkey, hok⟩
    | spentUnconfirmed spender => cases hnot
    | spentConfirmed spender height => cases hnot
  · rintro (⟨hkey, hok⟩ | ⟨hkey, hok⟩)
    · exact ⟨hkey, _, hok, rfl⟩
    · exact ⟨hkey, _, hok, rfl⟩

theorem justified_answer_iff {r : Reconciler} {moment : Nat} {answer : Observed} :
    Justified cfg errorText st (.answer r moment answer) ↔ Sound st (.answer r moment answer) := by
  constructor
  · rintro hjustified hunknown ⟨k, hopen⟩
    have hcloses : Reconciler.Closes answer.1.key answer := ⟨rfl, _, hunknown, rfl⟩
    have hresolves : Resolves cfg errorText st (.answer r moment answer) answer.1.key :=
      ⟨k, hopen, fun hafter => ((openAnomaly_answer r moment answer).mp hafter).2 hcloses⟩
    rcases hjustified _ hresolves with ⟨-, hunspent⟩ | ⟨-, hnot⟩
    · cases hunknown.symm.trans hunspent
    · exact hnot ⟨rfl, hunknown⟩
  · rintro hsound key ⟨k, hopen, hclosed⟩
    rw [openAnomaly_answer] at hclosed
    have hcloses : Reconciler.Closes key answer := by
      by_contra hnot
      exact hclosed ⟨hopen, hnot⟩
    rcases (closes_iff r moment).mp hcloses with hunspent | ⟨rfl, hunknown⟩
    · exact .inl hunspent
    · exact absurd ⟨k, hopen⟩ (hsound hunknown)

theorem justified_examine_iff (hkeyed : AnomaliesKeyed st) {w : Sweeper} {now : DateTime} {tip : BtcTip} {moment : Nat}
    {row : OutpointKey × ObservationRow} :
    Justified cfg errorText st (.examine w now tip moment row) ↔ Sound st (.examine w now tip moment row) := by
  constructor
  · rintro hjustified hresolve ⟨k, hopen⟩
    have hresolves : Resolves cfg errorText st (.examine w now tip moment row) row.1 := by
      refine ⟨k, hopen, fun hafter => ?_⟩
      rw [apply_examine, Sweeper.detectStep_of_resolve hresolve, openAnomaly_resolve] at hafter
      exact hafter.1 rfl
    rcases hjustified _ hresolves with hanswer | ⟨hconsumed, -⟩
    · exact hanswer.elim
    · exact hconsumed
  · rintro hsound key hresolves
    by_cases hrow : row.1 = key ∧ w.verdict tip st row = .resolve
    · obtain ⟨rfl, hresolve⟩ := hrow
      obtain ⟨k, hopen, -⟩ := hresolves
      exact .inr ⟨hsound hresolve ⟨k, hopen⟩, id⟩
    · refine absurd hresolves (not_resolves fun k hopen => ?_)
      refine (Sweeper.Searched.step (.start hkeyed)).left k key hopen fun e he hkey hresolve => ?_
      rw [List.nil_append, List.mem_singleton] at he
      exact hrow ⟨he ▸ hkey, he ▸ hresolve⟩

theorem justified_step_iff (hkeyed : AnomaliesKeyed st) : Justified cfg errorText st event ↔ Sound st event := by
  have hothers : (∀ k key, OpenAnomaly k key st → OpenAnomaly k key (apply cfg errorText st event)) →
      Justified cfg errorText st event :=
    fun hkeeps key hresolves => absurd hresolves (not_resolves fun k => hkeeps k key)
  cases event with
  | answer r moment answer => exact justified_answer_iff
  | examine w now tip moment row => exact justified_examine_iff hkeyed
  | write event => exact iff_of_true (hothers fun k key => (openAnomaly_of_eq (write_rgbppAnomalies event)).mpr) trivial
  | verify v now moment row =>
    exact iff_of_true (hothers fun k key => ((verifyStep_anomalies v now moment {} row hkeyed).2.1 k key).mpr) trivial
  | cacheTx txid row => exact iff_of_true (hothers fun k key hopen => hopen) trivial
  | queue rows => exact iff_of_true (hothers fun k key hopen => hopen) trivial

/-- **The runs in which every resolution is justified.** -/
theorem justified_iff {events : List Event} :
    ((tasks cfg errorText).restrict (Justified cfg errorText)).Run .empty events st ↔
      ((tasks cfg errorText).restrict Sound).Run .empty events st := by
  refine Lts.run_restrict_congr (I := AnomaliesKeyed) ?_ (fun s event hs => justified_step_iff hs) anomaliesKeyed_empty
  intro s event t hs hstep
  rw [show t = _ from hstep]
  exact AnomaliesKeyed.step hs event

end

/-! ## The counterexample -/

section
open Sample

local instance : Sha2 := .standard

/-- Nothing is known about the outpoint any more. -/
def forgotten : Event := .answer (reconciler .unknown) 3 (outpoint, .ok .unknown)

def before : Store := after (.testnet 64) (fun _ => "") (flagged (chain.serve 2))

/-- **The finding is resolved** with no `Unspent` answer and no consumed cell in the run. -/
theorem unknown_resolves :
    (tasks (.testnet 64) fun _ => "").Run .empty (flagged (chain.serve 2)) before ∧
      (∀ event ∈ flagged (chain.serve 2), ¬ Answers outpoint.key .unspent event) ∧ ¬ Consumed outpoint.key before ∧
      OpenFinding outpoint.key before ∧ ¬ OpenFinding outpoint.key (apply (.testnet 64) (fun _ => "") before forgotten) := by
  have hrun : (tasks (.testnet 64) fun _ => "").Run .empty (flagged (chain.serve 2)) before := run_after ..
  have hkeyed : AnomaliesKeyed before := AnomaliesKeyed.run hrun
  refine ⟨hrun, ?_, ?_, (openFinding_iff hkeyed).mpr ⟨dedupKey .noCommitmentInSpender outpoint.text, ?_⟩, ?_⟩
  · intro event hevent
    simp only [flagged, List.mem_cons, List.not_mem_nil, or_false] at hevent
    rcases hevent with rfl | rfl | rfl
    · exact id
    · rintro ⟨-, hunspent⟩
      cases hunspent
    · exact id
  · rintro ⟨k, c, hc, -, -, hconsumed⟩
    have hnone : ∀ e ∈ before.rgbppCells.entries, e.2.consumed = none := by decide +kernel
    exact hconsumed (hnone (k, c) ((Table.get?_eq_some_iff ..).mp hc))
  · decide +kernel
  · rw [openFinding_iff (AnomaliesKeyed.step hkeyed forgotten)]
    rintro ⟨k, hopen⟩
    exact ((openAnomaly_answer _ _ _).mp hopen).2 ⟨rfl, .unknown, rfl, rfl⟩

end
end RgbppIndexer.Bugs.UnknownResolves
