import Mathlib.Data.List.Basic

/-!
# Integers as decimal text

How Rust prints an integer and reads one back: `Display` writes a minus sign
and digits, `FromStr` takes one sign at most, then at least one digit and
nothing else, and refuses what does not fit the type. Texts are lists of
characters; `splitOnce` is `str::split_once`.

* `parseInt_text`, `parseIn_text`: what is printed is read back.
* `splitOnce_append`: a text in front of its first separator.
-/
namespace RgbppIndexer.Core.Decimal

/-- `str::split_once`: the parts before and behind the first `sep`. -/
def splitOnce (sep : Char) : List Char → Option (List Char × List Char)
  | [] => none
  | c :: cs => if c = sep then some ([], cs) else (splitOnce sep cs).map fun (before, behind) => (c :: before, behind)

/-- At least one digit, and digits only. -/
def parseNat (cs : List Char) : Option Nat :=
  if cs ≠ [] ∧ cs.all Char.isDigit then some (Nat.ofDigitChars 10 cs 0) else none

def parseInt : List Char → Option Int
  | '-' :: cs => (parseNat cs).map fun (n : Nat) => -(n : Int)
  | '+' :: cs => (parseNat cs).map Int.ofNat
  | cs => (parseNat cs).map Int.ofNat

/-- An integer of a type with the values `lo ..= hi`. -/
def parseIn (lo hi : Int) (cs : List Char) : Option Int := (parseInt cs).filter fun i => decide (lo ≤ i ∧ i ≤ hi)

/-- An integer of an unsigned type with the values `0 ..= hi`: a plus sign may stand in front, a minus sign may not. -/
def parseUnsigned (hi : Nat) : List Char → Option Nat
  | '+' :: cs => (parseNat cs).filter fun n => decide (n ≤ hi)
  | cs => (parseNat cs).filter fun n => decide (n ≤ hi)

/-- `Display` of an integer. -/
def text (i : Int) : List Char := if i < 0 then '-' :: Nat.toDigits 10 i.natAbs else Nat.toDigits 10 i.natAbs

variable {sep : Char} {before behind : List Char} {i lo hi : Int}

theorem splitOnce_append (h : sep ∉ before) : splitOnce sep (before ++ sep :: behind) = some (before, behind) := by
  induction before with
  | nil => simp [splitOnce]
  | cons c cs ih =>
    rw [List.mem_cons, not_or] at h
    rw [List.cons_append, splitOnce, if_neg (Ne.symm h.1), ih h.2]
    rfl

theorem parseNat_toDigits (n : Nat) : parseNat (Nat.toDigits 10 n) = some n := by
  have hall : (Nat.toDigits 10 n).all Char.isDigit = true :=
    List.all_eq_true.mpr fun c hc => Nat.isDigit_of_mem_toDigits (by decide) (by decide) hc
  rw [parseNat, if_pos ⟨Nat.toDigits_ne_nil, hall⟩, Nat.ofDigitChars_ten_toDigits]

/-- A text that starts with a digit has no sign. -/
theorem parseInt_digits {c : Char} {cs : List Char} (h : c.isDigit = true) :
    parseInt (c :: cs) = (parseNat (c :: cs)).map Int.ofNat := by
  unfold parseInt
  split
  · next heq =>
    rw [List.cons.injEq] at heq
    rw [heq.1] at h
    exact absurd h (by decide)
  · next heq =>
    rw [List.cons.injEq] at heq
    rw [heq.1] at h
    exact absurd h (by decide)
  · rfl

theorem parseInt_text (i : Int) : parseInt (text i) = some i := by
  unfold text
  split
  · next hneg =>
    show (parseNat (Nat.toDigits 10 i.natAbs)).map (fun (n : Nat) => -(n : Int)) = some i
    rw [parseNat_toDigits, Option.map_some]
    exact congrArg some (by omega)
  · next hnonneg =>
    have hdigits := parseNat_toDigits i.natAbs
    cases hcs : Nat.toDigits 10 i.natAbs with
    | nil => exact absurd hcs Nat.toDigits_ne_nil
    | cons c cs =>
      have hc : c.isDigit = true :=
        Nat.isDigit_of_mem_toDigits (n := i.natAbs) (b := 10) (by decide) (by decide) (hcs ▸ List.mem_cons_self ..)
      rw [hcs] at hdigits
      rw [parseInt_digits hc, hdigits, Option.map_some]
      exact congrArg some (by rw [Int.ofNat_eq_natCast]; omega)

theorem parseIn_text (hlo : lo ≤ i) (hhi : i ≤ hi) : parseIn lo hi (text i) = some i := by
  rw [parseIn, parseInt_text, Option.filter_some, if_pos (decide_eq_true ⟨hlo, hhi⟩)]

/-- What is printed of an unsigned integer is read back, if it fits. -/
theorem parseUnsigned_toDigits {n m : Nat} (h : n ≤ m) : parseUnsigned m (Nat.toDigits 10 n) = some n := by
  have hdigits := parseNat_toDigits n
  have hfits : (some n).filter (fun n => decide (n ≤ m)) = some n := by rw [Option.filter_some, if_pos (decide_eq_true h)]
  unfold parseUnsigned
  split
  · next cs heq =>
    have hplus : '+' ∈ Nat.toDigits 10 n := by rw [heq]; exact List.mem_cons_self
    exact absurd (Nat.isDigit_of_mem_toDigits (by decide) (by decide) hplus) (by decide)
  · rw [hdigits, hfits]

/-- What is parsed fits. -/
theorem le_of_parseUnsigned {n m : Nat} {cs : List Char} (h : parseUnsigned m cs = some n) : n ≤ m := by
  have hfilter : ∀ digits, (parseNat digits).filter (fun n => decide (n ≤ m)) = some n → n ≤ m := fun digits hn => by
    simpa using (Option.filter_eq_some_iff.mp hn).2
  unfold parseUnsigned at h
  split at h
  · exact hfilter _ h
  · exact hfilter _ h

/-- A text of an integer has digits and a sign only. -/
theorem notMem_text (hsep : sep.isDigit = false) (hminus : sep ≠ '-') : sep ∉ text i := by
  have hdigits : sep ∉ Nat.toDigits 10 i.natAbs := by
    intro hmem
    rw [Nat.isDigit_of_mem_toDigits (by decide) (by decide) hmem] at hsep
    cases hsep
  unfold text
  split
  · rw [List.mem_cons, not_or]
    exact ⟨hminus, hdigits⟩
  · exact hdigits

end RgbppIndexer.Core.Decimal
