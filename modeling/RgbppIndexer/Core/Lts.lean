import Mathlib.Data.List.Basic

/-!
# Labelled transition systems, runs and inductive invariants

Nothing here names the indexer. A system is an initial predicate and a
step relation; a run is the list of labels of its steps, oldest first, so
that a property of the history ("no step of the run answered Unknown") is a
property of that list.

* `Lts.Run.append` / `Lts.Run.split`: runs compose and can be cut anywhere.
* `Lts.Inv.reachable`: an inductive predicate holds in every reachable state.
* `Lts.Run.keeps_history`: along a run, for an invariant that also reads the history.
* `Lts.restrict`: the system that only takes steps meeting a condition. A
  result "in every run whose steps all meet `c`" is a result about
  `M.restrict c`; `Lts.run_restrict_iff` says these are the same runs.
* `After`: what a history says about the past ("this came, and nothing since
  undid it"), with one rule for a newer event.
-/
namespace RgbppIndexer.Core

/-- A labelled transition system. -/
structure Lts (σ l : Type*) where
  init : σ → Prop
  step : σ → l → σ → Prop

namespace Lts

variable {σ l : Type*} {M : Lts σ l}

/-- `M.Run s ls t`: the steps `ls` lead from `s` to `t`. The last step is
the last constructor, so that induction on a run peels its newest step. -/
inductive Run (M : Lts σ l) (s : σ) : List l → σ → Prop
  | nil : Run M s [] s
  | snoc {ls : List l} {t u : σ} {a : l} : Run M s ls t → M.step t a u → Run M s (ls ++ [a]) u

/-- Reachable from some initial state. -/
def Reachable (M : Lts σ l) (t : σ) : Prop := ∃ s ls, M.init s ∧ M.Run s ls t

theorem Run.single {s t : σ} {a : l} (h : M.step s a t) : M.Run s [a] t :=
  show M.Run s ([] ++ [a]) t from Run.snoc Run.nil h

theorem Run.append {s t u : σ} {xs ys : List l} (h₁ : M.Run s xs t) (h₂ : M.Run t ys u) :
    M.Run s (xs ++ ys) u := by
  induction h₂ with
  | nil => simpa using h₁
  | snoc _ hs ih => rw [← List.append_assoc]; exact Run.snoc ih hs

theorem Run.cons {s t u : σ} {a : l} {ls : List l} (h : M.step s a t) (hr : M.Run t ls u) :
    M.Run s (a :: ls) u := (Run.single h).append hr

/-- A run over `xs ++ ys` passes through a state between the two parts. -/
theorem Run.split {s u : σ} {xs ys : List l} (h : M.Run s (xs ++ ys) u) :
    ∃ t, M.Run s xs t ∧ M.Run t ys u := by
  generalize hz : xs ++ ys = zs at h
  induction h generalizing ys with
  | nil =>
    obtain ⟨rfl, rfl⟩ := List.append_eq_nil_iff.mp hz
    exact ⟨s, Run.nil, Run.nil⟩
  | @snoc ls t u a hr hs ih =>
    rcases List.eq_nil_or_concat ys with rfl | ⟨ys', b, rfl⟩
    · rw [List.append_nil] at hz; subst hz
      exact ⟨u, Run.snoc hr hs, Run.nil⟩
    · rw [List.concat_eq_append, ← List.append_assoc] at hz
      obtain ⟨h1, h2⟩ := List.append_inj' hz rfl
      obtain ⟨m, hm1, hm2⟩ := ih h1
      simp only [List.cons.injEq, and_true] at h2; subst h2
      rw [List.concat_eq_append]
      exact ⟨m, hm1, Run.snoc hm2 hs⟩

theorem Run.nil_inv {s u : σ} (h : M.Run s [] u) : u = s := by
  generalize hz : ([] : List l) = zs at h
  cases h with
  | nil => rfl
  | snoc _ _ => simp at hz

theorem Run.single_inv {s u : σ} {a : l} (h : M.Run s [a] u) : M.step s a u := by
  generalize hz : [a] = zs at h
  cases h with
  | nil => simp at hz
  | @snoc ls t _ b hr hs =>
    rw [← List.nil_append [a]] at hz
    obtain ⟨rfl, hb⟩ := List.append_inj' hz rfl
    simp only [List.cons.injEq, and_true] at hb; subst hb
    exact hr.nil_inv ▸ hs

theorem Run.cons_inv {s u : σ} {a : l} {ls : List l} (h : M.Run s (a :: ls) u) :
    ∃ t, M.step s a t ∧ M.Run t ls u := by
  rw [← List.singleton_append] at h
  obtain ⟨t, h1, h2⟩ := h.split
  exact ⟨t, h1.single_inv, h2⟩

/-- A system that can step as a function does runs as the function does. -/
theorem run_of_foldlM {step : σ → l → Option σ} (hstep : ∀ s a t, step s a = some t → M.step s a t) {s t : σ} {ls : List l}
    (h : ls.foldlM step s = some t) : M.Run s ls t := by
  induction ls generalizing s with
  | nil =>
    obtain rfl := Option.some.inj h
    exact .nil
  | cons a ls ih =>
    rw [List.foldlM_cons, Option.bind_eq_bind, Option.bind_eq_some_iff] at h
    obtain ⟨u, hu, h⟩ := h
    exact .cons (hstep s a u hu) (ih h)

/-- What one step from a state satisfying `I` has to keep. -/
structure Inv (M : Lts σ l) (I : σ → Prop) : Prop where
  init : ∀ s, M.init s → I s
  step : ∀ s a t, I s → M.step s a t → I t

/-- A property kept by every step is kept by every run. -/
theorem Run.keeps {I : σ → Prop} (hstep : ∀ s a t, I s → M.step s a t → I t) {s t : σ} {ls : List l}
    (h : M.Run s ls t) (hs : I s) : I t := by
  induction h with
  | nil => exact hs
  | snoc _ ha ih => exact hstep _ _ _ ih ha

/-- An invariant of state and history is kept by every run. -/
theorem Run.keeps_history {I : List l → σ → Prop}
    (hstep : ∀ ls s a t, I ls s → M.step s a t → I (ls ++ [a]) t) {s t : σ} {ls : List l}
    (h : M.Run s ls t) (hs : I [] s) : I ls t := by
  induction h with
  | nil => exact hs
  | snoc _ ha ih => exact hstep _ _ _ _ ih ha

theorem Inv.reachable {I : σ → Prop} (h : M.Inv I) {t : σ} (ht : M.Reachable t) : I t := by
  obtain ⟨s, ls, hs, hr⟩ := ht
  exact hr.keeps h.step (h.init s hs)

/-- The steps of `M` that meet `c`. -/
def restrict (M : Lts σ l) (c : σ → l → Prop) : Lts σ l where
  init := M.init
  step s a t := M.step s a t ∧ c s a

theorem Run.of_restrict {c : σ → l → Prop} {s t : σ} {ls : List l}
    (h : (M.restrict c).Run s ls t) : M.Run s ls t := by
  induction h with
  | nil => exact Run.nil
  | snoc _ ha ih => exact Run.snoc ih ha.1

/-- A run all of whose labels meet the condition in every state. -/
theorem Run.restrict_of_forall {c : σ → l → Prop} {s t : σ} {ls : List l} (h : M.Run s ls t)
    (hc : ∀ a ∈ ls, ∀ u, c u a) : (M.restrict c).Run s ls t := by
  induction h with
  | nil => exact Run.nil
  | snoc hr ha ih =>
    exact Run.snoc (ih fun a hm => hc a (List.mem_append_left _ hm)) ⟨ha, hc _ (by simp) _⟩

/-- Conditions that agree in every state that meets an invariant have the same runs. -/
theorem run_restrict_congr {I : σ → Prop} (hI : ∀ s a t, I s → M.step s a t → I t) {c c' : σ → l → Prop}
    (h : ∀ s a, I s → (c s a ↔ c' s a)) {s t : σ} {ls : List l} (hs : I s) :
    (M.restrict c).Run s ls t ↔ (M.restrict c').Run s ls t := by
  have hmono : ∀ {d d' : σ → l → Prop}, (∀ s a, I s → d s a → d' s a) → (M.restrict d).Run s ls t →
      (M.restrict d').Run s ls t ∧ I t := by
    intro d d' hd hrun
    induction hrun with
    | nil => exact ⟨.nil, hs⟩
    | snoc _ ha ih => exact ⟨.snoc ih.1 ⟨ha.1, hd _ _ ih.2 ha.2⟩, hI _ _ _ ih.2 ha.1⟩
  exact ⟨fun hrun => (hmono (fun s a hI' => (h s a hI').mp) hrun).1,
    fun hrun => (hmono (fun s a hI' => (h s a hI').mpr) hrun).1⟩

/-- A run whose every label meets a state-independent condition is a run of
the restricted system, and conversely. -/
theorem run_restrict_iff {c : l → Prop} {s t : σ} {ls : List l} :
    (M.restrict fun _ a => c a).Run s ls t ↔ M.Run s ls t ∧ ∀ a ∈ ls, c a := by
  constructor
  · intro h
    refine ⟨h.of_restrict, ?_⟩
    induction h with
    | nil => simp
    | snoc _ ha ih =>
      intro a hm
      rcases List.mem_append.mp hm with hm | hm
      · exact ih a hm
      · rw [List.mem_singleton] at hm; subst hm; exact ha.2
  · rintro ⟨h, hc⟩
    induction h with
    | nil => exact Run.nil
    | snoc hr ha ih =>
      exact Run.snoc (ih fun a hm => hc a (List.mem_append_left _ hm)) ⟨ha, hc _ (by simp)⟩

end Lts

/-- Unwinding. States that look alike stay alike when one of them takes the visible steps only, if a hidden step
changes nothing that is looked at, and a visible step does alike things to states that look alike. -/
theorem foldl_visible {σ l : Type*} {f : σ → l → σ} {R : σ → σ → Prop} {visible : l → Bool}
    (hhidden : ∀ s t a, visible a = false → R s t → R (f s a) t)
    (hvisible : ∀ s t a, visible a = true → R s t → R (f s a) (f t a)) {s t : σ} (h : R s t) (ls : List l) :
    R (ls.foldl f s) ((ls.filter visible).foldl f t) := by
  induction ls generalizing s t with
  | nil => exact h
  | cons a ls ih =>
    cases ha : visible a with
    | true =>
      rw [List.filter_cons_of_pos ha]
      exact ih (hvisible s t a ha h)
    | false =>
      rw [List.filter_cons_of_neg (by simp [ha])]
      exact ih (hhidden s t a ha h)

/-! ## Histories -/

section
variable {l : Type*} {P : List l → Prop} {p c : l → Prop} {ls : List l} {a : l}

/-- After a past that met `P` came an event that met `p`, and since then only events that meet `c`. -/
def After (P : List l → Prop) (p c : l → Prop) (ls : List l) : Prop :=
  ∃ past a later, ls = past ++ a :: later ∧ P past ∧ p a ∧ ∀ b ∈ later, c b

theorem After.now (hP : P ls) (hp : p a) : After P p c (ls ++ [a]) := ⟨ls, a, [], rfl, hP, hp, nofun⟩

theorem After.snoc (h : After P p c ls) (hc : c a) : After P p c (ls ++ [a]) := by
  obtain ⟨past, b, later, rfl, hP, hp, hlater⟩ := h
  refine ⟨past, b, later ++ [a], by rw [List.append_assoc, List.cons_append], hP, hp, fun x hx => ?_⟩
  rcases List.mem_append.mp hx with hx | hx
  · exact hlater x hx
  · rw [List.mem_singleton.mp hx]
    exact hc

theorem After.mono {P' : List l → Prop} {p' c' : l → Prop} (h : After P p c ls) (hP : ∀ past, P past → P' past)
    (hp : ∀ a, p a → p' a) (hc : ∀ a, c a → c' a) : After P' p' c' ls := by
  obtain ⟨past, b, later, rfl, hpast, hb, hlater⟩ := h
  exact ⟨past, b, later, rfl, hP past hpast, hp b hb, fun x hx => hc x (hlater x hx)⟩

end
end RgbppIndexer.Core
