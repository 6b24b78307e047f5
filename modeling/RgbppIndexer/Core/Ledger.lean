import Mathlib.Algebra.BigOperators.Group.List.Basic
import Mathlib.Tactic.Abel

/-!
# A history and its balance

Items that come up in one event and go down in another at most, each with a
gain that is booked in the first and a loss that is booked in the second. The
history is a list of events.

* `sum_booked`: what a history books, item by item.
* `telescope`: a history that has every end of an item books what is left,
  less what came up outside of it, and the losses that are no gains undone.
-/
namespace RgbppIndexer.Core.Ledger

variable {ι τ M : Type*} [DecidableEq τ] [AddCommGroup M]

/-- The events of an item, and what is booked in them. -/
structure Account (ι τ M : Type*) where
  born : ι → τ
  died : ι → Option τ
  gain : ι → M
  loss : ι → M

variable (a : Account ι τ M)

/-- What an event books for an item. -/
def movement (t : τ) (c : ι) : M := (if a.born c = t then a.gain c else 0) + if a.died c = some t then a.loss c else 0

def booked (t : τ) (items : List ι) : M := (items.map (movement a t)).sum

/-- What a list of events books for an item. -/
def total (T : List τ) (c : ι) : M :=
  (if a.born c ∈ T then a.gain c else 0) +
    match a.died c with
    | some t => if t ∈ T then a.loss c else 0
    | none => 0

variable {a} {T : List τ} {items : List ι}

theorem sum_ite_mem (hT : T.Nodup) (t₀ : τ) (x : M) : (T.map fun t => if t₀ = t then x else 0).sum = if t₀ ∈ T then x else 0 := by
  induction T with
  | nil => simp
  | cons t ts ih =>
    obtain ⟨hnot, hts⟩ := List.nodup_cons.mp hT
    rw [List.map_cons, List.sum_cons, ih hts]
    by_cases heq : t₀ = t
    · subst heq
      rw [if_pos rfl, if_neg hnot, if_pos (List.mem_cons_self ..), add_zero]
    · rw [if_neg heq, zero_add]
      simp only [List.mem_cons, heq, false_or]

theorem sum_movement (hT : T.Nodup) (c : ι) : (T.map fun t => movement a t c).sum = total a T c := by
  unfold movement total
  rw [List.sum_map_add, sum_ite_mem hT]
  cases hdied : a.died c with
  | none => simp
  | some t₀ => simp only [Option.some.injEq, sum_ite_mem hT]

theorem sum_booked (hT : T.Nodup) : (T.map fun t => booked a t items).sum = (items.map (total a T)).sum := by
  unfold booked
  induction items with
  | nil => simp
  | cons c cs ih =>
    simp only [List.map_cons, List.sum_cons, List.sum_map_add, sum_movement hT, ih]

variable (a T) in
/-- What is booked for an item, and what is left of it. -/
theorem total_add (c : ι) (hdied : ∀ t, a.died c = some t → t ∈ T) :
    total a T c + (if a.born c ∉ T then a.gain c else 0) =
      (if a.died c = none then a.gain c else 0) + if a.died c ≠ none then a.gain c + a.loss c else 0 := by
  unfold total
  cases hend : a.died c with
  | none => by_cases hborn : a.born c ∈ T <;> simp [hborn]
  | some t =>
    have hmem := hdied t hend
    by_cases hborn : a.born c ∈ T
    · simp [hborn, hmem]
    · simp [hborn, hmem, add_comm]

theorem sum_map_filter_eq (p : ι → Prop) [DecidablePred p] (f : ι → M) (l : List ι) :
    ((l.filter p).map f).sum = (l.map fun c => if p c then f c else 0).sum := by
  induction l with
  | nil => rfl
  | cons c cs ih =>
    by_cases hp : p c
    · rw [List.filter_cons_of_pos (by simpa using hp), List.map_cons, List.sum_cons, ih, List.map_cons, List.sum_cons, if_pos hp]
    · rw [List.filter_cons_of_neg (by simpa using hp), ih, List.map_cons, List.sum_cons, if_neg hp, zero_add]

theorem sum_filterMap {κ : Type*} (f : κ → Option M) (l : List κ) :
    (l.filterMap f).sum = (l.map fun x => (f x).getD 0).sum := by
  induction l with
  | nil => rfl
  | cons x xs ih =>
    rw [List.map_cons, List.sum_cons, ← ih]
    cases hx : f x with
    | none => rw [List.filterMap_cons_none hx, Option.getD_none, zero_add]
    | some y => rw [List.filterMap_cons_some hx, List.sum_cons, Option.getD_some]

/-- **What a history books is the balance at its end**, but for the items that
came up outside of it and the losses that differ from the gains. -/
theorem telescope (hT : T.Nodup) (hdied : ∀ c ∈ items, ∀ t, a.died c = some t → t ∈ T) :
    (T.map fun t => booked a t items).sum =
      ((items.filter fun c => a.died c = none).map a.gain).sum - ((items.filter fun c => a.born c ∉ T).map a.gain).sum +
        ((items.filter fun c => a.died c ≠ none).map fun c => a.gain c + a.loss c).sum := by
  rw [sum_booked hT, sum_map_filter_eq (fun c => a.died c = none), sum_map_filter_eq (fun c => a.born c ∉ T),
    sum_map_filter_eq (fun c => a.died c ≠ none)]
  induction items with
  | nil => simp
  | cons c cs ih =>
    have hc := total_add a T c fun t => hdied c (List.mem_cons_self ..) t
    have hcs := ih fun c' hc' => hdied c' (List.mem_cons_of_mem _ hc')
    simp only [List.map_cons, List.sum_cons, hcs]
    rw [← eq_sub_iff_add_eq] at hc
    rw [hc]
    abel

end RgbppIndexer.Core.Ledger
