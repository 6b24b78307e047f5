import RgbppIndexer.Core.RowLock
import RgbppIndexer.Store.Spends

/-!
# Two writers of one change

"The previous status is captured in the same statement as the write, so a
concurrent refresh of the same outpoint cannot make the two disagree"
(crates/store/src/btc.rs:60-61). The previous status is read by a subquery,
from the snapshot of the statement; the write waits for the row's lock and
replaces whatever was committed in the meantime.

Counterexample: two refreshes of an unspent outpoint overlap and both see the
same spend. Both say that the status changed (`changed_twice`); it changed once.

* `observe_eq`: alone, such a statement is the one of the store.
* `told_iff`: **the signals of a run are right exactly when no statement
  replaces a row of another kind than its snapshot had that holds the written
  status already, or is of the snapshot's kind itself, and no change is silent.**
-/
namespace RgbppIndexer.Bugs.TwiceChanged

open RgbppIndexer.Core RowUpsert

/-- `upsert_observation` on a row that exists. -/
def upsert : RowUpsert ObservationRow Observation Bool where
  write row c := Store.observationRow (some row) c.status c.address c.source c.now
  returns row c := decide (row.status ≠ c.status.column)

/-- Run alone, it is the statement of the store. -/
theorem observe_eq {st : Store} {key : OutpointKey} {row : ObservationRow} (h : st.btcOutpoints.get? key = some row)
    (c : Observation) : (st.observe key c).2 = upsert.returns row c ∧
      (st.observe key c).1.btcOutpoints.get? key = some (upsert.write row c) := by
  unfold Store.observe
  rw [Store.get?_upsertObservation, if_pos rfl, h]
  refine ⟨?_, rfl⟩
  unfold Store.upsertObservation
  dsimp only
  rw [h]
  simp [upsert]

abbrev Done := Outcome ObservationRow Observation Bool

section
variable {ι : Type*}

/-- Every statement says whether it changed the status it replaced, and there are as many such signals as changes. -/
def Tells (events : List (Event ι ObservationRow Observation Bool)) (s : Row ι ObservationRow Observation) : Prop :=
  (∀ o ∈ outcomes events, o.returned = true ↔ o.replaced.spend ≠ o.call.status.columns) ∧
  (outcomes events).countP Outcome.returned = changes ObservationRow.spend s.committed s.older

end

/-- The write of a statement against its snapshot and the row it found: if the kind is still that of the snapshot, the
write is not silent; if somebody has changed it, the written status is of neither kind the signal could mistake. -/
structure Clean (o : Done) : Prop where
  undisturbed : o.snapshot.status = o.replaced.status → ¬ Store.Silent (some o.replaced.spend) o.call.status
  overtaken : o.snapshot.status ≠ o.replaced.status →
    o.call.status.column ≠ o.snapshot.status ∧ o.replaced.spend ≠ o.call.status.columns

/-- What one statement says. -/
theorem clean_iff {o : Done} (hreturned : o.returned = upsert.returns o.snapshot o.call) :
    (o.returned = true ↔ o.replaced.spend ≠ o.call.status.columns) ↔ Clean o := by
  have hsignal : o.returned = true ↔ o.snapshot.status ≠ o.call.status.column := by
    rw [hreturned]
    exact decide_eq_true_iff
  have hkind : o.replaced.spend = o.call.status.columns → o.replaced.status = o.call.status.column :=
    fun h => congrArg SpendColumns.status h
  have hsilent : Store.Silent (some o.replaced.spend) o.call.status ↔
      o.replaced.status = o.call.status.column ∧ o.replaced.spend ≠ o.call.status.columns := by
    unfold Store.Silent
    rw [Option.map_some, Option.some.injEq, ne_eq, Option.some.injEq]
    rfl
  rw [hsignal]
  by_cases hsame : o.snapshot.status = o.replaced.status
  · -- nobody changed the kind: the signal misses the silent changes
    rw [hsame]
    constructor
    · intro h
      refine ⟨fun _ hs => ?_, fun hne => absurd hsame hne⟩
      obtain ⟨hk, hne⟩ := hsilent.mp hs
      exact h.mpr hne hk
    · intro h
      have hno := h.undisturbed hsame
      rw [hsilent] at hno
      tauto
  · -- somebody did: the signal is about a kind that was not replaced
    constructor
    · intro h
      refine ⟨fun hs => absurd hs hsame, fun _ => ?_⟩
      by_cases hcol : o.call.status.column = o.snapshot.status
      · have hheld : o.replaced.spend = o.call.status.columns := by
          by_contra hne
          exact h.mpr hne hcol.symm
        exact absurd (hcol.symm.trans (hkind hheld).symm) hsame
      · exact ⟨hcol, h.mp (Ne.symm hcol)⟩
    · intro h
      obtain ⟨hcol, hne⟩ := h.overtaken hsame
      exact iff_of_true (Ne.symm hcol) hne

section
variable {ι : Type*} [DecidableEq ι] {s s' : Row ι ObservationRow Observation}
  {events : List (Event ι ObservationRow Observation Bool)}

/-- A statement returns what its snapshot says. -/
theorem returned_of_run (hrun : upsert.system.Run s events s') :
    ∀ o ∈ outcomes events, o.returned = upsert.returns o.snapshot o.call := by
  induction hrun with
  | nil => exact fun o ho => absurd ho List.not_mem_nil
  | @snoc ls t t' e hr hstep ih =>
    intro o ho
    rw [outcomes_snoc] at ho
    rcases List.mem_append.mp ho with ho | ho
    · exact ih o ho
    · cases e with
      | start i call => exact absurd ho List.not_mem_nil
      | update i => exact absurd ho List.not_mem_nil
      | commit i outcome =>
        obtain ⟨call, snapshot, replaced, -, -, rfl, -⟩ := hstep
        rw [Event.outcome?, Option.toList_some, List.mem_singleton] at ho
        subst ho
        rfl

/-- **The runs whose signals are right.** -/
theorem told_iff (hinit : upsert.system.init s) (hrun : upsert.system.Run s events s') :
    Tells events s' ↔ ∀ o ∈ outcomes events, Clean o := by
  have hreturned := returned_of_run hrun
  have hcount := changes_of_run ObservationRow.spend hrun (Held.of_idle hinit.2.2)
  rw [hinit.1] at hcount
  constructor
  · intro h o ho
    exact (clean_iff (hreturned o ho)).mp (h.1 o ho)
  · intro h
    have hright : ∀ o ∈ outcomes events, o.returned = true ↔ o.replaced.spend ≠ o.call.status.columns :=
      fun o ho => (clean_iff (hreturned o ho)).mpr (h o ho)
    refine ⟨hright, ?_⟩
    rw [hcount]
    dsimp only [changes]
    rw [Nat.zero_add]
    refine List.countP_congr fun o ho => ?_
    rw [hright o ho, decide_eq_true_iff]
    exact ne_comm

end

/-! ## The counterexample -/

/-- The row of an unspent outpoint, with no statement on it. -/
def start : Row Bool ObservationRow Observation where
  committed := Store.observationRow none .unspent none "esplora" 0
  older := []
  holder := none
  statements _ := .idle

/-- What a refresh sees of the outpoint now. -/
def seen : Observation := ⟨.spentConfirmed .placeholder 100, none, "esplora", 1⟩

def unspent : ObservationRow := start.committed

def spent : ObservationRow := upsert.write unspent seen

/-- Two statements overlap: the second starts before the first commits. -/
def overlapping : List (Event Bool ObservationRow Observation Bool) :=
  [.start true seen, .start false seen, .update true, .commit true ⟨seen, unspent, unspent, true⟩,
    .update false, .commit false ⟨seen, unspent, spent, true⟩]

/-- One statement after the other. -/
def serial : List (Event Bool ObservationRow Observation Bool) :=
  [.start true seen, .update true, .commit true ⟨seen, unspent, unspent, true⟩,
    .start false seen, .update false, .commit false ⟨seen, spent, spent, false⟩]

theorem start_init : upsert.system.init start := ⟨rfl, rfl, fun _ => rfl⟩

theorem overlapping_run : ∃ s, upsert.system.Run start overlapping s ∧ s.committed = upsert.write spent seen ∧
    s.older = [spent, unspent] :=
  ⟨_, .cons ⟨rfl, rfl⟩ (.cons ⟨rfl, rfl⟩ (.cons ⟨_, _, rfl, rfl, rfl⟩ (.cons ⟨_, _, _, rfl, rfl, rfl, rfl⟩
    (.cons ⟨_, _, rfl, rfl, rfl⟩ (.cons ⟨_, _, _, rfl, rfl, rfl, rfl⟩ .nil))))), rfl, rfl⟩

theorem serial_run : ∃ s, upsert.system.Run start serial s :=
  ⟨_, .cons ⟨rfl, rfl⟩ (.cons ⟨_, _, rfl, rfl, rfl⟩ (.cons ⟨_, _, _, rfl, rfl, rfl, rfl⟩
    (.cons ⟨rfl, rfl⟩ (.cons ⟨_, _, rfl, rfl, rfl⟩ (.cons ⟨_, _, _, rfl, rfl, rfl, rfl⟩ .nil)))))⟩

/-- **Both statements report the one change.** -/
theorem changed_twice : ∃ s, upsert.system.init start ∧ upsert.system.Run start overlapping s ∧
    (outcomes overlapping).countP Outcome.returned = 2 ∧
    changes ObservationRow.spend s.committed s.older = 1 ∧ ¬ Tells overlapping s := by
  obtain ⟨s, hrun, hcommitted, holder⟩ := overlapping_run
  have hchanges : changes ObservationRow.spend s.committed s.older = 1 := by
    rw [hcommitted, holder]
    decide +kernel
  have hcount : (outcomes overlapping).countP Outcome.returned = 2 := rfl
  refine ⟨s, start_init, hrun, hcount, hchanges, fun h => ?_⟩
  have heq := h.2
  rw [hcount, hchanges] at heq
  cases heq

theorem told_iff_serial : ∃ s, upsert.system.Run start serial s ∧
    (Tells serial s ↔ ∀ o ∈ outcomes serial, Clean o) := by
  obtain ⟨s, hrun⟩ := serial_run
  exact ⟨s, hrun, told_iff start_init hrun⟩

end RgbppIndexer.Bugs.TwiceChanged
