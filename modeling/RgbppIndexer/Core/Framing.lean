import Mathlib.Data.List.Basic

/-!
# Encodings that parse uniquely in front of any rest

A concatenation of variable-length pieces can be read back only if each
piece says where it ends. `UniqueParse ok enc` is that property: on the
values `ok` allows, `enc a ++ s` determines both `a` and `s`.

* `UniqueParse.of_length`: an injective code of constant length.
* `UniqueParse.of_framed`: an injective code whose bytes determine their own
  length (a size header).
* `UniqueParse.append`: one such code after another.
* `UniqueParse.flatten`: a list of such codes, the count known in advance.
-/
namespace RgbppIndexer.Core

variable {α β γ : Type*}

/-- `enc a ++ s` determines `a` and `s`. -/
def UniqueParse (ok : α → Prop) (enc : α → List γ) : Prop :=
  ∀ ⦃a b : α⦄, ok a → ok b → ∀ ⦃s t : List γ⦄, enc a ++ s = enc b ++ t → a = b ∧ s = t

namespace UniqueParse

variable {ok : α → Prop} {ok' : β → Prop} {enc : α → List γ} {enc' : β → List γ}

theorem mono {ok₂ : α → Prop} (h : UniqueParse ok enc) (hle : ∀ a, ok₂ a → ok a) : UniqueParse ok₂ enc :=
  fun _ _ ha hb _ _ he => h (hle _ ha) (hle _ hb) he

theorem injOn (h : UniqueParse ok enc) {a b : α} (ha : ok a) (hb : ok b) (he : enc a = enc b) : a = b :=
  (h ha hb (s := []) (t := []) (by rw [he])).1

theorem of_framed (hlen : ∀ a b s t, ok a → ok b → enc a ++ s = enc b ++ t → (enc a).length = (enc b).length)
    (hinj : ∀ a b, ok a → ok b → enc a = enc b → a = b) : UniqueParse ok enc := by
  intro a b ha hb s t he
  obtain ⟨h1, h2⟩ := List.append_inj he (hlen a b s t ha hb he)
  exact ⟨hinj a b ha hb h1, h2⟩

theorem of_length (n : Nat) (hlen : ∀ a, ok a → (enc a).length = n)
    (hinj : ∀ a b, ok a → ok b → enc a = enc b → a = b) : UniqueParse ok enc :=
  of_framed (fun a b _ _ ha hb _ => by rw [hlen a ha, hlen b hb]) hinj

/-- A code that starts with `n` bytes from which the length of the whole can be read. -/
theorem of_header (n : Nat) (size : List γ → Nat) (hn : ∀ a, ok a → n ≤ (enc a).length)
    (hsize : ∀ a, ok a → size ((enc a).take n) = (enc a).length)
    (hinj : ∀ a b, ok a → ok b → enc a = enc b → a = b) : UniqueParse ok enc := by
  refine of_framed (fun a b s t ha hb he => ?_) hinj
  have htake := congrArg (List.take n) he
  rw [List.take_append_of_le_length (hn a ha), List.take_append_of_le_length (hn b hb)] at htake
  rw [← hsize a ha, ← hsize b hb, htake]

theorem append (h : UniqueParse ok enc) (h' : UniqueParse ok' enc') :
    UniqueParse (fun p : α × β => ok p.1 ∧ ok' p.2) fun p => enc p.1 ++ enc' p.2 := by
  rintro ⟨a, a'⟩ ⟨b, b'⟩ ⟨ha, ha'⟩ ⟨hb, hb'⟩ s t he
  simp only [List.append_assoc] at he
  obtain ⟨rfl, hrest⟩ := h ha hb he
  obtain ⟨rfl, hst⟩ := h' ha' hb' hrest
  exact ⟨rfl, hst⟩

/-- Lists of the same length, encoded one element after another. -/
theorem flatten (h : UniqueParse ok enc) {xs ys : List α} (hx : ∀ a ∈ xs, ok a) (hy : ∀ a ∈ ys, ok a)
    (hlen : xs.length = ys.length) {s t : List γ} (he : xs.flatMap enc ++ s = ys.flatMap enc ++ t) :
    xs = ys ∧ s = t := by
  induction xs generalizing ys with
  | nil =>
    obtain rfl : ys = [] := List.length_eq_zero_iff.mp hlen.symm
    exact ⟨rfl, by simpa using he⟩
  | cons x xs ih =>
    cases ys with
    | nil => simp at hlen
    | cons y ys =>
      simp only [List.flatMap_cons, List.append_assoc] at he
      obtain ⟨rfl, hrest⟩ := h (hx x (by simp)) (hy y (by simp)) he
      obtain ⟨rfl, hst⟩ := ih (fun a ha => hx a (by simp [ha])) (fun a ha => hy a (by simp [ha]))
        (by simpa using hlen) hrest
      exact ⟨rfl, hst⟩

end UniqueParse
end RgbppIndexer.Core
