import Mathlib.Data.List.Basic

/-!
# Consecutive intervals

Closed intervals of numbers that follow each other from a start, without gap
and without overlap, the way a job works through its range in batches.

* `consecutive_concat`: when one more interval continues the list.
* `countP_covers`: what lies before the next start is covered exactly once.
-/
namespace RgbppIndexer.Core

structure Interval where
  first : Nat
  last : Nat
  deriving DecidableEq, Repr

def Interval.covers (n : Nat) (i : Interval) : Bool := decide (i.first ≤ n ∧ n ≤ i.last)

/-- The intervals follow each other from `start`, and none of them is empty. -/
def Consecutive : Nat → List Interval → Prop
  | _, [] => True
  | start, i :: is => i.first = start ∧ i.first ≤ i.last ∧ Consecutive (i.last + 1) is

instance decidableConsecutive : (start : Nat) → (is : List Interval) → Decidable (Consecutive start is)
  | _, [] => isTrue trivial
  | _, i :: is => have := decidableConsecutive (i.last + 1) is; inferInstanceAs (Decidable (_ ∧ _ ∧ _))

/-- Where the next interval has to start. -/
def nextFirst : Nat → List Interval → Nat
  | start, [] => start
  | _, i :: is => nextFirst (i.last + 1) is

variable {start n : Nat} {is : List Interval} {i : Interval}

theorem nextFirst_concat (start : Nat) (is : List Interval) (i : Interval) : nextFirst start (is ++ [i]) = i.last + 1 := by
  induction is generalizing start with
  | nil => rfl
  | cons j is ih => exact ih (j.last + 1)

theorem consecutive_concat : Consecutive start (is ++ [i]) ↔
    Consecutive start is ∧ i.first = nextFirst start is ∧ i.first ≤ i.last := by
  induction is generalizing start with
  | nil => simp [Consecutive, nextFirst]
  | cons j is ih => simp only [List.cons_append, Consecutive, nextFirst, ih, and_assoc]

theorem Consecutive.start_le (h : Consecutive start is) : start ≤ nextFirst start is := by
  induction is generalizing start with
  | nil => exact Nat.le_refl _
  | cons i is ih =>
    obtain ⟨hfirst, hle, hrest⟩ := h
    have := ih hrest
    simp only [nextFirst]
    omega

/-- Nothing before the start is covered. -/
theorem Consecutive.countP_eq_zero (h : Consecutive start is) (hn : n < start) : is.countP (Interval.covers n) = 0 := by
  induction is generalizing start with
  | nil => rfl
  | cons i is ih =>
    obtain ⟨hfirst, hle, hrest⟩ := h
    rw [List.countP_cons, ih hrest (by omega)]
    simp only [Interval.covers, decide_eq_true_eq, Nat.zero_add]
    rw [if_neg (by omega)]

/-- **Everything from the start to the next start is covered exactly once.** -/
theorem Consecutive.countP_covers (h : Consecutive start is) (hstart : start ≤ n) (hn : n < nextFirst start is) :
    is.countP (Interval.covers n) = 1 := by
  induction is generalizing start with
  | nil =>
    simp only [nextFirst] at hn
    omega
  | cons i is ih =>
    obtain ⟨hfirst, hle, hrest⟩ := h
    rw [List.countP_cons]
    simp only [Interval.covers, decide_eq_true_eq]
    by_cases hin : n ≤ i.last
    · rw [if_pos (by omega), hrest.countP_eq_zero (by omega)]
    · rw [if_neg (by omega), ih hrest (by omega) hn]

end RgbppIndexer.Core
