import Mathlib.Logic.Function.Basic
import RgbppIndexer.Core.Lts

/-!
# Statements on one row under READ COMMITTED

An upsert that also reads: it returns something about the row as its snapshot
shows it, and writes to the row as it finds it when it has the row's lock.
The snapshot is taken when the statement starts. The lock is held until the
statement commits, and only one statement holds it.

* `Held.of_run`: a statement that holds the lock has found the version that is
  committed, and no other statement holds it.
* `changes_of_run`: the row's versions change as often as a statement of the
  run wrote something else than it found.
-/
namespace RgbppIndexer.Core

/-- An upsert: what it leaves of the version it finds, and what it returns from the version of its snapshot. -/
structure RowUpsert (ρ κ β : Type*) where
  write : ρ → κ → ρ
  returns : ρ → κ → β

namespace RowUpsert

inductive Statement (ρ κ : Type*) where
  | idle
  | waiting (call : κ) (snapshot : ρ)
  | holding (call : κ) (snapshot replaced : ρ)

/-- A row, its superseded versions (newest first), and the statements that work on it. -/
structure Row (ι ρ κ : Type*) where
  committed : ρ
  older : List ρ
  holder : Option ι
  statements : ι → Statement ρ κ

/-- A statement that is done. -/
structure Outcome (ρ κ β : Type*) where
  call : κ
  snapshot : ρ
  replaced : ρ
  returned : β

inductive Event (ι ρ κ β : Type*) where
  | start (i : ι) (call : κ)
  | update (i : ι)
  | commit (i : ι) (outcome : Outcome ρ κ β)

variable {ι ρ κ β α : Type*}

def Event.outcome? : Event ι ρ κ β → Option (Outcome ρ κ β)
  | .commit _ outcome => some outcome
  | _ => none

/-- The statements a run completed, oldest first. -/
def outcomes (events : List (Event ι ρ κ β)) : List (Outcome ρ κ β) := events.filterMap Event.outcome?

theorem outcomes_snoc (events : List (Event ι ρ κ β)) (e : Event ι ρ κ β) :
    outcomes (events ++ [e]) = outcomes events ++ e.outcome?.toList := by
  unfold outcomes
  rw [List.filterMap_append]
  cases e <;> rfl

section
variable [DecidableEq ι] (u : RowUpsert ρ κ β)

def system : Lts (Row ι ρ κ) (Event ι ρ κ β) where
  init s := s.older = [] ∧ s.holder = none ∧ ∀ i, s.statements i = .idle
  step s e s' :=
    match e with
    | .start i call => s.statements i = .idle ∧
        s' = { s with statements := Function.update s.statements i (.waiting call s.committed) }
    | .update i => ∃ call snapshot, s.statements i = .waiting call snapshot ∧ s.holder = none ∧
        s' = { s with holder := some i, statements := Function.update s.statements i (.holding call snapshot s.committed) }
    | .commit i outcome => ∃ call snapshot replaced, s.statements i = .holding call snapshot replaced ∧
        s.holder = some i ∧ outcome = ⟨call, snapshot, replaced, u.returns snapshot call⟩ ∧
        s' = { committed := u.write replaced call, older := s.committed :: s.older, holder := none,
               statements := Function.update s.statements i .idle }

/-- The lock: its holder has found the committed version, and nobody else holds it. -/
def Held (s : Row ι ρ κ) : Prop :=
  ∀ i call snapshot replaced, s.statements i = .holding call snapshot replaced →
    s.holder = some i ∧ replaced = s.committed

variable {u} {s s' : Row ι ρ κ} {e : Event ι ρ κ β} {events : List (Event ι ρ κ β)}

omit [DecidableEq ι] in
theorem Held.of_idle (h : ∀ i, s.statements i = .idle) : Held s := by
  intro i call snapshot replaced hi
  rw [h i] at hi
  cases hi

theorem Held.step (h : Held s) (hstep : u.system.step s e s') : Held s' := by
  cases e with
  | start i call =>
    obtain ⟨-, rfl⟩ := hstep
    intro j c snapshot replaced hj
    dsimp only at hj ⊢
    by_cases hij : j = i
    · subst hij
      rw [Function.update_self] at hj
      cases hj
    · rw [Function.update_of_ne hij] at hj
      exact h j c snapshot replaced hj
  | update i =>
    obtain ⟨call, snapshot, -, hfree, rfl⟩ := hstep
    intro j c snapshot' replaced hj
    dsimp only at hj ⊢
    by_cases hij : j = i
    · subst hij
      rw [Function.update_self] at hj
      cases hj
      exact ⟨rfl, rfl⟩
    · rw [Function.update_of_ne hij] at hj
      have hholder := (h j c snapshot' replaced hj).1
      rw [hfree] at hholder
      cases hholder
  | commit i outcome =>
    obtain ⟨call, snapshot, replaced, -, hheld, -, rfl⟩ := hstep
    intro j c snapshot' replaced' hj
    dsimp only at hj ⊢
    by_cases hij : j = i
    · subst hij
      rw [Function.update_self] at hj
      cases hj
    · rw [Function.update_of_ne hij] at hj
      have hholder := (h j c snapshot' replaced' hj).1
      rw [hheld] at hholder
      exact absurd (Option.some.inj hholder).symm hij

theorem Held.of_run (hrun : u.system.Run s events s') (h : Held s) : Held s' :=
  hrun.keeps (fun _ _ _ hs hstep => hs.step hstep) h

end

/-! ## The versions of a row -/

section
variable [DecidableEq α] (view : ρ → α)

/-- How often the versions of a row differ from the one before, the newest first. -/
def changes : ρ → List ρ → Nat
  | _, [] => 0
  | new, old :: older => (if view new = view old then 0 else 1) + changes old older

/-- The changes of a run are what its statements wrote over something else. -/
theorem changes_of_run [DecidableEq ι] {u : RowUpsert ρ κ β} {s s' : Row ι ρ κ} {events : List (Event ι ρ κ β)}
    (hrun : u.system.Run s events s') (h : Held s) :
    changes view s'.committed s'.older = changes view s.committed s.older +
      (outcomes events).countP fun o => decide (view (u.write o.replaced o.call) ≠ view o.replaced) := by
  induction hrun with
  | nil => rfl
  | @snoc ls t t' e hr hstep ih =>
    have hheld : Held t := Held.of_run hr h
    rw [outcomes_snoc, List.countP_append]
    cases e with
    | start i call =>
      obtain ⟨-, rfl⟩ := hstep
      exact ih
    | update i =>
      obtain ⟨call, snapshot, -, -, rfl⟩ := hstep
      exact ih
    | commit i outcome =>
      obtain ⟨call, snapshot, replaced, hi, -, rfl, rfl⟩ := hstep
      obtain ⟨-, rfl⟩ := hheld i call snapshot replaced hi
      dsimp only [changes, Event.outcome?, Option.toList_some]
      rw [ih, List.countP_singleton]
      by_cases hsame : view (u.write t.committed call) = view t.committed
      · simp [hsame]
      · simp [hsame]
        omega

end
end RowUpsert
end RgbppIndexer.Core
