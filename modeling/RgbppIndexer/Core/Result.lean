import Mathlib.Data.List.Forall2
import Mathlib.Data.List.Perm.Basic

/-!
# Fallible computations

Inversion and introduction rules for `Except`: what a successful `do` block,
loop or traversal says about its steps, and when it succeeds. A Rust `?` is
a bind here, a loop with early return is `List.foldlM`.
-/
namespace RgbppIndexer.Core

universe u v

variable {ε : Type v} {α β σ : Type u}

theorem bind_eq_ok {x : Except ε α} {f : α → Except ε β} {b : β} :
    (x >>= f) = .ok b ↔ ∃ a, x = .ok a ∧ f a = .ok b := by
  cases x with
  | error e =>
    constructor
    · intro h; cases h
    · rintro ⟨_, h, _⟩; cases h
  | ok a =>
    constructor
    · intro h; exact ⟨a, rfl, h⟩
    · rintro ⟨_, h, hf⟩; cases h; exact hf

theorem ok_bind (a : α) (f : α → Except ε β) : ((.ok a : Except ε α) >>= f) = f a := rfl

theorem pure_eq_ok {a b : α} : (pure a : Except ε α) = .ok b ↔ a = b := by
  constructor
  · intro h; cases h; rfl
  · rintro rfl; rfl

/-- A success has a value. -/
theorem exists_ok_of_isOk {x : Except ε α} (h : x.isOk = true) : ∃ a, x = .ok a := by
  cases x with
  | error e => cases h
  | ok a => exact ⟨a, rfl⟩

/-- A loop keeps what each of its passes keeps; `P` also reads what is already consumed. -/
theorem foldlM_keeps {f : σ → α → Except ε σ} {P : List α → σ → Prop} {xs : List α}
    (hstep : ∀ done a s s', a ∈ xs → P done s → f s a = .ok s' → P (done ++ [a]) s') {s t : σ}
    {done : List α} (hs : P done s) (h : xs.foldlM f s = .ok t) : P (done ++ xs) t := by
  induction xs generalizing s done with
  | nil =>
    rw [List.foldlM_nil, pure_eq_ok] at h
    subst h
    simpa using hs
  | cons x xs ih =>
    rw [List.foldlM_cons, bind_eq_ok] at h
    obtain ⟨s', hx, hrest⟩ := h
    have := ih (fun d a s s' ha => hstep d a s s' (by simp [ha])) (hstep done x s s' (by simp) hs hx) hrest
    simpa using this

/-- An invariant that does not ask what is already done. -/
theorem foldlM_invariant {f : σ → α → Except ε σ} {P : σ → Prop} {xs : List α}
    (hstep : ∀ a s s', P s → f s a = .ok s' → P s') {s t : σ} (hs : P s) (h : xs.foldlM f s = .ok t) : P t :=
  @foldlM_keeps ε α σ f (fun _ => P) xs (fun _ a s s' _ hs hok => hstep a s s' hs hok) s t [] hs h

/-- A loop succeeds if each pass succeeds from the states the invariant allows. -/
theorem foldlM_succeeds {f : σ → α → Except ε σ} {P : List α → σ → Prop} {xs : List α}
    (hstep : ∀ done a s, a ∈ xs → P done s → ∃ s', f s a = .ok s' ∧ P (done ++ [a]) s') {s : σ}
    {done : List α} (hs : P done s) : ∃ t, xs.foldlM f s = .ok t ∧ P (done ++ xs) t := by
  induction xs generalizing s done with
  | nil => exact ⟨s, rfl, by simpa using hs⟩
  | cons x xs ih =>
    obtain ⟨s', hx, hs'⟩ := hstep done x s (by simp) hs
    obtain ⟨t, ht, hp⟩ := ih (fun d a s ha => hstep d a s (by simp [ha])) hs'
    refine ⟨t, ?_, by simpa using hp⟩
    rw [List.foldlM_cons, hx]; exact ht

theorem map_eq_ok {x : Except ε α} {f : α → β} {b : β} : x.map f = .ok b ↔ ∃ a, x = .ok a ∧ b = f a := by
  cases x with
  | error e => simp [Except.map]
  | ok a => simp [Except.map, eq_comm]

/-- A bind in front of a map of the result. -/
theorem map_bind {γ : Type u} (x : Except ε α) (f : α → Except ε β) (φ : β → γ) :
    (x >>= f).map φ = x >>= fun a => (f a).map φ := by
  cases x <;> rfl

/-- A bind behind a map of the result. -/
theorem bind_map {γ : Type u} (x : Except ε α) (φ : α → β) (f : β → Except ε γ) :
    x.map φ >>= f = x >>= fun a => f (φ a) := by
  cases x <;> rfl

/-- A loop whose passes commute with a map of its state commutes with it. -/
theorem foldlM_map {τ : Type u} {f : σ → α → Except ε σ} {g : τ → α → Except ε τ} {φ : σ → τ}
    (h : ∀ s a, g (φ s) a = (f s a).map φ) (xs : List α) (s : σ) : xs.foldlM g (φ s) = (xs.foldlM f s).map φ := by
  induction xs generalizing s with
  | nil => rfl
  | cons x xs ih =>
    rw [List.foldlM_cons, List.foldlM_cons, h, bind_map, map_bind]
    congr 1
    funext s'
    exact ih s'

/-- A traversal succeeds exactly on pointwise successes. -/
theorem mapM_eq_ok {f : α → Except ε β} {xs : List α} {ys : List β} :
    xs.mapM f = .ok ys ↔ List.Forall₂ (fun x y => f x = .ok y) xs ys := by
  induction xs generalizing ys with
  | nil =>
    rw [List.mapM_nil, pure_eq_ok, List.forall₂_nil_left_iff]
    exact eq_comm
  | cons x xs ih =>
    rw [List.mapM_cons, bind_eq_ok]
    constructor
    · rintro ⟨y, hy, hrest⟩
      rw [bind_eq_ok] at hrest
      obtain ⟨zs, hz, he⟩ := hrest
      rw [pure_eq_ok] at he; subst he
      exact List.Forall₂.cons hy (ih.mp hz)
    · intro h
      cases h with
      | cons hy hrest => exact ⟨_, hy, bind_eq_ok.mpr ⟨_, ih.mpr hrest, rfl⟩⟩

/-- A traversal succeeds if it does at every element. -/
theorem mapM_succeeds {f : α → Except ε β} {xs : List α} (h : ∀ x ∈ xs, ∃ y, f x = .ok y) : ∃ ys, xs.mapM f = .ok ys := by
  induction xs with
  | nil => exact ⟨[], rfl⟩
  | cons x xs ih =>
    obtain ⟨y, hy⟩ := h x (by simp)
    obtain ⟨ys, hys⟩ := ih fun x hx => h x (List.mem_cons_of_mem _ hx)
    refine ⟨y :: ys, mapM_eq_ok.mpr ?_⟩
    exact List.Forall₂.cons hy (mapM_eq_ok.mp hys)

/-- A traversal of things that each read back. -/
theorem mapM_map_eq_ok {γ : Type u} {f : β → Except ε γ} {g : α → β} {h : α → γ} {xs : List α}
    (hread : ∀ x ∈ xs, f (g x) = .ok (h x)) : (xs.map g).mapM f = .ok (xs.map h) := by
  rw [mapM_eq_ok, List.forall₂_map_left_iff, List.forall₂_map_right_iff, List.forall₂_same]
  exact hread

/-- Read in another order, they are read in another order. -/
theorem perm_of_mapM_eq_ok {γ : Type u} {f : β → Except ε γ} {g : α → β} {h : α → γ} {xs : List α} {ys : List β} {zs : List γ}
    (hread : ∀ x ∈ xs, f (g x) = .ok (h x)) (hperm : ys.Perm (xs.map g)) (hzs : ys.mapM f = .ok zs) : zs.Perm (xs.map h) := by
  obtain ⟨inOrder, hforall, hsame⟩ := List.perm_comp_forall₂ hperm.symm (mapM_eq_ok.mp hzs)
  have hmap := mapM_eq_ok.mpr hforall
  rw [mapM_map_eq_ok hread] at hmap
  rw [Except.ok.inj hmap]
  exact hsame.symm

/-- Related lists: everything on the right has a partner on the left. -/
theorem forall₂_mem_right {R : α → β → Prop} {xs : List α} {ys : List β} (h : List.Forall₂ R xs ys) {y : β} (hy : y ∈ ys) :
    ∃ x ∈ xs, R x y := by
  induction h with
  | nil => cases hy
  | @cons x z _ _ hx _ ih =>
    rcases List.mem_cons.mp hy with rfl | hy
    · exact ⟨x, by simp, hx⟩
    · obtain ⟨x', hmem, hx'⟩ := ih hy
      exact ⟨x', List.mem_cons_of_mem _ hmem, hx'⟩

/-- And the other way round. -/
theorem forall₂_mem_left {R : α → β → Prop} {xs : List α} {ys : List β} (h : List.Forall₂ R xs ys) {x : α} (hx : x ∈ xs) :
    ∃ y ∈ ys, R x y := forall₂_mem_right (List.Forall₂.flip h) hx

/-- Lists related to one list between them. -/
theorem forall₂_comp {γ : Type*} {R : α → β → Prop} {S : β → γ → Prop} {xs : List α} {ys : List β} {zs : List γ}
    (h : List.Forall₂ R xs ys) (h' : List.Forall₂ S ys zs) : List.Forall₂ (fun x z => ∃ y, R x y ∧ S y z) xs zs := by
  induction h generalizing zs with
  | nil =>
    rw [List.forall₂_nil_left_iff.mp h']
    exact .nil
  | cons hx _ ih =>
    obtain ⟨z, rest, hz, hrest, rfl⟩ := List.forall₂_cons_left_iff.mp h'
    exact .cons ⟨_, hx, hz⟩ (ih hrest)

end RgbppIndexer.Core
