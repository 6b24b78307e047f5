import Mathlib.Data.List.Basic
import RgbppIndexer.Core.Result

/-!
# Integers as hexadecimal text

`from_str_radix(_, 16)` of an unsigned type and the `{:x}` it reads back. A
plus sign may stand in front, digits may be of either case, zeros may lead;
the first character that is no digit, or no longer fits, decides the error.

* `fromStrRadix_toDigits`: what is printed is read back, if it fits.
* `fromStrRadix_le`: what is read fits.
-/
namespace RgbppIndexer.Core.Hexadecimal

/-- The kinds of `std::num::IntErrorKind` an unsigned integer can have. -/
inductive IntErrorKind where
  | empty | invalidDigit | posOverflow
  deriving DecidableEq, Repr

/-- `char::to_digit(16)`. -/
def digit? (c : Char) : Option Nat :=
  if '0' ≤ c ∧ c ≤ '9' then some (c.toNat - 48)
  else if 'a' ≤ c ∧ c ≤ 'f' then some (c.toNat - 87)
  else if 'A' ≤ c ∧ c ≤ 'F' then some (c.toNat - 55)
  else none

/-- One more digit behind `n`. -/
def push (max n : Nat) (c : Char) : Except IntErrorKind Nat :=
  match digit? c with
  | none => .error .invalidDigit
  | some d => if n * 16 + d ≤ max then .ok (n * 16 + d) else .error .posOverflow

/-- `from_str_radix(_, 16)` of a type with the values `0 ..= max`. -/
def fromStrRadix (max : Nat) : List Char → Except IntErrorKind Nat
  | [] => .error .empty
  | ['+'] => .error .invalidDigit
  | '+' :: cs => cs.foldlM (push max) 0
  | cs => cs.foldlM (push max) 0

variable {max n : Nat} {c : Char} {cs : List Char}

theorem digit?_digitChar {d : Nat} (h : d < 16) : digit? (Nat.digitChar d) = some d := by
  have hall : ∀ d : Fin 16, digit? (Nat.digitChar d) = some d.val := by decide
  exact hall ⟨d, h⟩

theorem push_digitChar {d : Nat} (hd : d < 16) (h : n * 16 + d ≤ max) :
    push max n (Nat.digitChar d) = .ok (n * 16 + d) := by
  unfold push
  rw [digit?_digitChar hd]
  exact if_pos h

theorem push_le {m : Nat} (h : push max n c = .ok m) : m ≤ max := by
  unfold push at h
  cases hd : digit? c with
  | none => simp [hd] at h
  | some d =>
    rw [hd] at h
    dsimp only at h
    by_cases hle : n * 16 + d ≤ max
    · rw [if_pos hle] at h
      cases h
      exact hle
    · simp [hle] at h

/-- The digits of a number, read one by one. -/
theorem foldlM_toDigits (h : n ≤ max) : (Nat.toDigits 16 n).foldlM (push max) 0 = .ok n := by
  induction n using Nat.strongRecOn with
  | _ n ih =>
    by_cases hlt : n < 16
    · rw [Nat.toDigits_of_lt_base hlt, List.foldlM_cons, push_digitChar hlt (by omega), ok_bind, List.foldlM_nil]
      simp [pure, Except.pure]
    · have hdiv : n / 16 < n := by omega
      rw [Nat.toDigits_of_base_le (by decide) (by omega), List.foldlM_append, ih _ hdiv (by omega), ok_bind, List.foldlM_cons,
        push_digitChar (by omega) (by omega), ok_bind, List.foldlM_nil, pure_eq_ok]
      omega

/-- Nor does anything else than digits go through. -/
theorem foldlM_plus : ('+' :: cs).foldlM (push max) n = .error .invalidDigit := rfl

theorem fromStrRadix_toDigits (h : n ≤ max) : fromStrRadix max (Nat.toDigits 16 n) = .ok n := by
  have hdigits := foldlM_toDigits h
  unfold fromStrRadix
  split
  · next hnil => exact absurd hnil Nat.toDigits_ne_nil
  · next hplus =>
    rw [hplus, foldlM_plus] at hdigits
    cases hdigits
  · next hplus =>
    rw [hplus, foldlM_plus] at hdigits
    cases hdigits
  · exact hdigits

theorem fromStrRadix_le {m : Nat} (h : fromStrRadix max cs = .ok m) : m ≤ max := by
  have hfold : ∀ cs : List Char, cs.foldlM (push max) 0 = .ok m → m ≤ max := fun cs hcs =>
    @foldlM_invariant _ _ _ _ (fun n => n ≤ max) _ (fun _ _ _ _ => push_le) _ _ (Nat.zero_le max) hcs
  unfold fromStrRadix at h
  split at h
  · cases h
  · cases h
  · exact hfold _ h
  · exact hfold _ h

end RgbppIndexer.Core.Hexadecimal
