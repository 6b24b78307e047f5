import Mathlib.Data.List.Induction
import RgbppIndexer.Core.Lts

/-!
# Loops that leave early

`forEach` runs one pass after another over a list and leaves at the first
pass that fails; what the passes before it did stays done. A pass also gets
its number. This is a Rust `for` loop with `?` in its body, over state that
outlives the error.

* `afterPasses`: the state after the passes of a prefix.
* `forEach_cases`: a loop either makes every pass, or stops right after the
  first failing one; its state is `afterPasses` of the passes it made.
* `place_cases`: of two places in one list, which comes first.
* `run_afterPasses`: passes that are steps of a system are a run of it.
-/
namespace RgbppIndexer.Core

variable {σ α ε : Type*}

/-- One pass: its number, the state before it, the element. -/
abbrev Pass (σ α ε : Type*) := Nat → σ → α → σ × Except ε Unit

def forEach (f : Pass σ α ε) : Nat → σ → List α → σ × Except ε Unit
  | _, s, [] => (s, .ok ())
  | n, s, x :: xs =>
    match f n s x with
    | (s, .error e) => (s, .error e)
    | (s, .ok ()) => forEach f (n + 1) s xs

/-- The state after the passes over `xs`, whether or not they fail. -/
def afterPasses (f : Pass σ α ε) : Nat → σ → List α → σ
  | _, s, [] => s
  | n, s, x :: xs => afterPasses f (n + 1) (f n s x).1 xs

theorem afterPasses_append (f : Pass σ α ε) (n : Nat) (s : σ) (xs ys : List α) :
    afterPasses f n s (xs ++ ys) = afterPasses f (n + xs.length) (afterPasses f n s xs) ys := by
  induction xs generalizing n s with
  | nil => rfl
  | cons x xs ih =>
    have hlen : n + 1 + xs.length = n + (x :: xs).length := by rw [List.length_cons]; omega
    rw [List.cons_append, afterPasses, afterPasses, ih, hlen]

/-- What a prefix of passes keeps, if each pass keeps it; `P` also reads what is already consumed. -/
theorem afterPasses_keeps {f : Pass σ α ε} {P : List α → σ → Prop} {n : Nat} {s : σ}
    (hstep : ∀ done x s, P done s → P (done ++ [x]) (f (n + done.length) s x).1) (hs : P [] s) (xs : List α) :
    P xs (afterPasses f n s xs) := by
  induction xs using List.reverseRecOn with
  | nil => exact hs
  | append_singleton xs x ih =>
    rw [afterPasses_append]
    exact hstep xs x _ ih

/-- Two places of one list: the second is before the first, the same, or behind it. -/
theorem place_cases {pre post pre' post' : List α} {x x' : α} (h : pre ++ x :: post = pre' ++ x' :: post') :
    (∃ between, pre = pre' ++ x' :: between) ∨ (pre' = pre ∧ x' = x ∧ post' = post) ∨
      ∃ between, pre' = pre ++ x :: between ∧ post = between ++ x' :: post' := by
  rcases List.append_eq_append_iff.mp h with ⟨between, hpre, hrest⟩ | ⟨between, hpre, hrest⟩
  · cases between with
    | nil =>
      obtain ⟨rfl, rfl⟩ := List.cons.inj hrest
      exact .inr (.inl ⟨by rw [hpre, List.append_nil], rfl, rfl⟩)
    | cons y between =>
      obtain ⟨rfl, hpost⟩ := List.cons.inj hrest
      exact .inr (.inr ⟨between, hpre, hpost⟩)
  · cases between with
    | nil =>
      obtain ⟨rfl, rfl⟩ := List.cons.inj hrest
      exact .inr (.inl ⟨by rw [hpre, List.append_nil], rfl, rfl⟩)
    | cons y between =>
      obtain ⟨rfl, -⟩ := List.cons.inj hrest
      exact .inl ⟨between, hpre⟩

/-- The pass over `x` after `pre` succeeds. -/
def PassOk (f : Pass σ α ε) (n : Nat) (s : σ) (pre : List α) (x : α) : Prop :=
  (f (n + pre.length) (afterPasses f n s pre) x).2 = .ok ()

theorem forEach_cases (f : Pass σ α ε) (n : Nat) (s : σ) (xs : List α) :
    (forEach f n s xs = (afterPasses f n s xs, .ok ()) ∧
      ∀ pre x post, xs = pre ++ x :: post → PassOk f n s pre x) ∨
    ∃ pre x post e, xs = pre ++ x :: post ∧
      (f (n + pre.length) (afterPasses f n s pre) x).2 = .error e ∧
      forEach f n s xs = (afterPasses f n s (pre ++ [x]), .error e) ∧
      ∀ pre' y post', pre = pre' ++ y :: post' → PassOk f n s pre' y := by
  induction xs generalizing n s with
  | nil =>
    left
    exact ⟨rfl, fun pre x post h => by simp at h⟩
  | cons x xs ih =>
    have hunfold : forEach f n s (x :: xs) =
        match f n s x with
        | (s, .error e) => (s, .error e)
        | (s, .ok ()) => forEach f (n + 1) s xs := rfl
    have shift : ∀ (pre : List α) (y : α), PassOk f (n + 1) (f n s x).1 pre y → PassOk f n s (x :: pre) y := by
      intro pre y h
      have hlen : n + 1 + pre.length = n + (x :: pre).length := by rw [List.length_cons]; omega
      unfold PassOk at h ⊢
      rw [← hlen, afterPasses]
      exact h
    cases hf : f n s x with
    | mk s' res =>
      cases res with
      | error e =>
        right
        rw [hf] at hunfold
        refine ⟨[], x, xs, e, rfl, by simp [afterPasses, hf], by simp [hunfold, afterPasses, hf], ?_⟩
        intro pre' y post' h
        simp at h
      | ok u =>
        cases u
        rw [hf] at hunfold shift
        have hhead : PassOk f n s [] x := by simp [PassOk, afterPasses, hf]
        rcases ih (n + 1) s' with ⟨hrun, hall⟩ | ⟨pre, y, post, e, hxs, herr, hrun, hbefore⟩
        · left
          refine ⟨by rw [hunfold, afterPasses, hf]; exact hrun, ?_⟩
          intro pre z post h
          cases pre with
          | nil =>
            rw [List.nil_append] at h
            obtain ⟨rfl, -⟩ := List.cons.inj h
            exact hhead
          | cons w pre =>
            rw [List.cons_append] at h
            obtain ⟨rfl, hxs⟩ := List.cons.inj h
            exact shift pre z (hall pre z post hxs)
        · right
          have hlen : n + 1 + pre.length = n + (x :: pre).length := by rw [List.length_cons]; omega
          refine ⟨x :: pre, y, post, e, by rw [hxs]; rfl, ?_, ?_, ?_⟩
          · rw [← hlen, afterPasses, hf]; exact herr
          · rw [hunfold, List.cons_append, afterPasses, hf]; exact hrun
          · intro pre' z post' h
            cases pre' with
            | nil =>
              rw [List.nil_append] at h
              obtain ⟨rfl, -⟩ := List.cons.inj h
              exact hhead
            | cons w pre' =>
              rw [List.cons_append] at h
              obtain ⟨rfl, hpre⟩ := List.cons.inj h
              exact shift pre' z (hbefore pre' z post' hpre)

/-- The state a loop ends in is the one after some of its passes. -/
theorem forEach_fst (f : Pass σ α ε) (n : Nat) (s : σ) (xs : List α) :
    ∃ pre, pre <+: xs ∧ (forEach f n s xs).1 = afterPasses f n s pre := by
  rcases forEach_cases f n s xs with ⟨hrun, -⟩ | ⟨pre, x, post, e, rfl, -, hrun, -⟩
  · exact ⟨xs, List.prefix_rfl, by rw [hrun]⟩
  · exact ⟨pre ++ [x], ⟨post, by simp⟩, by rw [hrun]⟩

/-- A loop that succeeds made every pass, and none failed. -/
theorem forEach_eq_ok {f : Pass σ α ε} {n : Nat} {s : σ} {xs : List α} (h : (forEach f n s xs).2 = .ok ()) :
    (forEach f n s xs).1 = afterPasses f n s xs ∧ ∀ pre x post, xs = pre ++ x :: post → PassOk f n s pre x := by
  rcases forEach_cases f n s xs with ⟨hrun, hall⟩ | ⟨pre, x, post, e, -, -, hrun, -⟩
  · exact ⟨by rw [hrun], hall⟩
  · rw [hrun] at h
    cases h

/-- A loop none of whose passes fails succeeds. -/
theorem forEach_ok_of {f : Pass σ α ε} {n : Nat} {s : σ} {xs : List α}
    (h : ∀ pre x post, xs = pre ++ x :: post → PassOk f n s pre x) : (forEach f n s xs).2 = .ok () := by
  rcases forEach_cases f n s xs with ⟨hrun, -⟩ | ⟨pre, x, post, e, hxs, herr, -, -⟩
  · rw [hrun]
  · have hok := h pre x post hxs
    unfold PassOk at hok
    rw [hok] at herr
    cases herr

/-- What every successful pass keeps, a loop that succeeds keeps; `P` also reads what is already consumed. -/
theorem forEach_ok_keeps {f : Pass σ α ε} {P : List α → σ → Prop} {n : Nat} {s : σ} {xs : List α}
    (hstep : ∀ done x s, P done s → (f (n + done.length) s x).2 = .ok () → P (done ++ [x]) (f (n + done.length) s x).1)
    (hs : P [] s) (h : (forEach f n s xs).2 = .ok ()) : P xs (forEach f n s xs).1 := by
  obtain ⟨hstate, hall⟩ := forEach_eq_ok h
  rw [hstate]
  have hpre : ∀ pre post, xs = pre ++ post → P pre (afterPasses f n s pre) := by
    intro pre
    induction pre using List.reverseRecOn with
    | nil => exact fun _ _ => hs
    | append_singleton pre x ih =>
      intro post hxs
      rw [List.append_assoc] at hxs
      rw [afterPasses_append]
      exact hstep pre x _ (ih _ hxs) (hall pre x post hxs)
  exact hpre xs [] (List.append_nil xs).symm

/-! ## Passes as steps -/

/-- Passes each of which is a step of a system are a run of it. -/
theorem run_afterPasses {τ l : Type*} {M : Lts τ l} {f : Pass σ α ε} (view : σ → τ) (label : Nat → α → l)
    (hstep : ∀ n s x, M.step (view s) (label n x) (view (f n s x).1)) (n : Nat) (s : σ) (xs : List α) :
    ∃ ls, M.Run (view s) ls (view (afterPasses f n s xs)) ∧ ∀ a ∈ ls, ∃ i, ∃ x ∈ xs, a = label i x := by
  induction xs using List.reverseRecOn with
  | nil => exact ⟨[], .nil, nofun⟩
  | append_singleton xs x ih =>
    obtain ⟨ls, hrun, hlabels⟩ := ih
    refine ⟨ls ++ [label (n + xs.length) x], ?_, fun a ha => ?_⟩
    · rw [afterPasses_append]
      exact hrun.snoc (hstep _ _ x)
    · rcases List.mem_append.mp ha with ha | ha
      · obtain ⟨i, y, hy, rfl⟩ := hlabels a ha
        exact ⟨i, y, List.mem_append_left _ hy, rfl⟩
      · exact ⟨_, x, by simp, List.mem_singleton.mp ha⟩

end RgbppIndexer.Core
