import Mathlib.Logic.Function.Basic
import RgbppIndexer.Core.Lts

/-!
# Programs that share a state

Nothing here names the indexer. A program is a tree of atomic steps on a state
it shares with others: what it does next depends on what the step read, and
between two steps the others may have done anything. It ends with a result or
an error.

* `Program.alone`: what a program makes of a state nobody else touches.
* `Program.Keeps`: rely and guarantee. Others keep an invariant and only move
  the state along a preorder; the program's own steps do the same, and its
  result meets a postcondition. One rule for each way to build a program.
* `interleaving`: any number of workers, each running one program after
  another; `keeps_of_run` is what any interleaving of them keeps, and
  `run_alone` the run nothing comes in between of.
-/
namespace RgbppIndexer.Core

/-- Atomic steps on a shared state, then a result. -/
inductive Program (σ ε α : Type) where
  | done (result : Except ε α)
  /-- reads the state and writes it, at once -/
  | step (write : σ → σ) (next : σ → Program σ ε α)

namespace Program

variable {σ ε α β : Type}

/-- What follows a result; an error ends the program. -/
def bind : Program σ ε α → (α → Program σ ε β) → Program σ ε β
  | done (.ok a), f => f a
  | done (.error e), _ => done (.error e)
  | step w next, f => step w fun s => (next s).bind f

instance : Monad (Program σ ε) where
  pure a := done (.ok a)
  bind := bind

/-- One step that only reads. -/
def read (f : σ → Except ε α) : Program σ ε α := step id fun s => done (f s)

/-- One step that writes. -/
def write (w : σ → σ) : Program σ ε Unit := step w fun _ => done (.ok ())

/-- What follows an error. -/
def handle : Program σ ε α → (ε → Program σ ε α) → Program σ ε α
  | done (.ok a), _ => done (.ok a)
  | done (.error e), h => h e
  | step w next, h => step w fun s => (next s).handle h

@[simp] theorem bind_ok (a : α) (f : α → Program σ ε β) : (done (.ok a) : Program σ ε α) >>= f = f a := rfl

@[simp] theorem bind_error (e : ε) (f : α → Program σ ε β) : (done (.error e) : Program σ ε α) >>= f = done (.error e) := rfl

@[simp] theorem bind_step (w : σ → σ) (next : σ → Program σ ε α) (f : α → Program σ ε β) :
    step w next >>= f = step w fun s => next s >>= f := rfl

@[simp] theorem pure_eq (a : α) : (pure a : Program σ ε α) = done (.ok a) := rfl

/-! ## Alone -/

/-- The result and the state a program leaves if nobody else touches it. -/
def alone : Program σ ε α → σ → Except ε α × σ
  | done r, s => (r, s)
  | step w next, s => (next s).alone (w s)

@[simp] theorem alone_done (r : Except ε α) (s : σ) : (done r : Program σ ε α).alone s = (r, s) := rfl

@[simp] theorem alone_step (w : σ → σ) (next : σ → Program σ ε α) (s : σ) :
    (step w next).alone s = (next s).alone (w s) := rfl

@[simp] theorem alone_read (f : σ → Except ε α) (s : σ) : (read f).alone s = (f s, s) := rfl

@[simp] theorem alone_write (w : σ → σ) (s : σ) : (write w : Program σ ε Unit).alone s = (.ok (), w s) := rfl

theorem alone_bind (t : Program σ ε α) (f : α → Program σ ε β) (s : σ) :
    (t >>= f).alone s =
      match t.alone s with
      | (.ok a, s') => (f a).alone s'
      | (.error e, s') => (.error e, s') := by
  induction t generalizing s with
  | done r => cases r <;> rfl
  | step w next ih => exact ih s (w s)

theorem alone_handle (t : Program σ ε α) (h : ε → Program σ ε α) (s : σ) :
    (t.handle h).alone s =
      match t.alone s with
      | (.ok a, s') => (.ok a, s')
      | (.error e, s') => (h e).alone s' := by
  induction t generalizing s with
  | done r => cases r <;> rfl
  | step w next ih => exact ih s (w s)

/-- A loop of programs that only read is the loop over what they read. -/
theorem alone_foldlM_of_reads {f : β → α → Program σ ε β} {g : β → α → Except ε β} {s : σ}
    (h : ∀ b a, (f b a).alone s = (g b a, s)) (xs : List α) (b : β) : (xs.foldlM f b).alone s = (xs.foldlM g b, s) := by
  induction xs generalizing b with
  | nil => rfl
  | cons x xs ih =>
    rw [List.foldlM_cons, List.foldlM_cons, alone_bind, h]
    cases g b x with
    | ok b' => exact ih b'
    | error e => rfl

/-! ## Rely and guarantee -/

/-- What every step anyone takes keeps, and how far it may move the state. -/
structure Rely (σ : Type) where
  Inv : σ → Prop
  Moves : σ → σ → Prop
  refl : ∀ s, Moves s s
  trans : ∀ {a b c}, Moves a b → Moves b c → Moves a c

variable {R : Rely σ} {Q Q' : α → σ → Prop} {s s' : σ}

/-- From `s` on, whatever others do in between: each step keeps the invariant and moves along, and a result meets `Q`. -/
def Keeps (R : Rely σ) (Q : α → σ → Prop) : Program σ ε α → σ → Prop
  | done (.ok a), s => ∀ s', R.Inv s' → R.Moves s s' → Q a s'
  | done (.error _), _ => True
  | step w next, s => ∀ s', R.Inv s' → R.Moves s s' →
      R.Inv (w s') ∧ R.Moves s' (w s') ∧ (next s').Keeps R Q (w s')

theorem Keeps.moved {t : Program σ ε α} (h : t.Keeps R Q s) (hmoves : R.Moves s s') : t.Keeps R Q s' := by
  cases t with
  | done r =>
    cases r with
    | ok a => exact fun s'' hinv hmoves' => h s'' hinv (R.trans hmoves hmoves')
    | error e => trivial
  | step w next => exact fun s'' hinv hmoves' => h s'' hinv (R.trans hmoves hmoves')

/-- A program starts when it takes its first step. -/
theorem keeps_of_forall {t : Program σ ε α} (h : ∀ s', R.Inv s' → R.Moves s s' → t.Keeps R Q s') : t.Keeps R Q s := by
  cases t with
  | done r =>
    cases r with
    | ok a => exact fun s' hinv hmoves => h s' hinv hmoves s' hinv (R.refl s')
    | error e => trivial
  | step w next => exact fun s' hinv hmoves => h s' hinv hmoves s' hinv (R.refl s')

theorem keeps_ok {a : α} (h : ∀ s', R.Inv s' → R.Moves s s' → Q a s') : (done (.ok a) : Program σ ε α).Keeps R Q s := h

theorem keeps_error {e : ε} : (done (.error e) : Program σ ε α).Keeps R Q s := trivial

/-- A result that was there before the program. -/
theorem keeps_done {r : Except ε α} (h : ∀ a, r = .ok a → ∀ s', R.Inv s' → R.Moves s s' → Q a s') :
    (done r : Program σ ε α).Keeps R Q s := by
  cases r with
  | ok a => exact h a rfl
  | error e => trivial

theorem keeps_read {f : σ → Except ε α}
    (h : ∀ a s', R.Inv s' → R.Moves s s' → f s' = .ok a → ∀ s'', R.Inv s'' → R.Moves s' s'' → Q a s'') :
    (read f).Keeps R Q s :=
  fun s' hinv hmoves => ⟨hinv, R.refl s', keeps_done fun a ha => h a s' hinv hmoves ha⟩

theorem keeps_write {w : σ → σ} {Q : Unit → σ → Prop}
    (h : ∀ s', R.Inv s' → R.Moves s s' → R.Inv (w s') ∧ R.Moves s' (w s') ∧
      ∀ s'', R.Inv s'' → R.Moves (w s') s'' → Q () s'') : (write w : Program σ ε Unit).Keeps R Q s := h

theorem Keeps.bind {t : Program σ ε α} {f : α → Program σ ε β} {P : β → σ → Prop} (h : t.Keeps R Q s)
    (hf : ∀ a s', R.Inv s' → Q a s' → (f a).Keeps R P s') : (t >>= f).Keeps R P s := by
  induction t generalizing s with
  | done r =>
    cases r with
    | ok a => exact keeps_of_forall fun s' hinv hmoves => hf a s' hinv (h s' hinv hmoves)
    | error e => trivial
  | step w next ih =>
    intro s' hinv hmoves
    obtain ⟨hinv', hmoves', hnext⟩ := h s' hinv hmoves
    exact ⟨hinv', hmoves', ih s' hnext⟩

theorem Keeps.handle {t : Program σ ε α} {h : ε → Program σ ε α} (ht : t.Keeps R Q s)
    (hh : ∀ e s, (h e).Keeps R Q s) : (t.handle h).Keeps R Q s := by
  induction t generalizing s with
  | done r =>
    cases r with
    | ok a => exact ht
    | error e => exact hh e s
  | step w next ih =>
    intro s' hinv hmoves
    obtain ⟨hinv', hmoves', hnext⟩ := ht s' hinv hmoves
    exact ⟨hinv', hmoves', ih s' hnext⟩

theorem Keeps.imp {t : Program σ ε α} (h : t.Keeps R Q s) (himp : ∀ a s', R.Inv s' → Q a s' → Q' a s') :
    t.Keeps R Q' s := by
  induction t generalizing s with
  | done r =>
    cases r with
    | ok a => exact fun s' hinv hmoves => himp a s' hinv (h s' hinv hmoves)
    | error e => trivial
  | step w next ih =>
    intro s' hinv hmoves
    obtain ⟨hinv', hmoves', hnext⟩ := h s' hinv hmoves
    exact ⟨hinv', hmoves', ih s' hnext⟩

/-- A loop keeps what each of its passes keeps; `P` also reads what is already consumed. -/
theorem keeps_foldlM {f : β → α → Program σ ε β} {P : List α → β → σ → Prop} {xs : List α}
    (hstable : ∀ done b s s', P done b s → R.Inv s' → R.Moves s s' → P done b s')
    (hstep : ∀ done a rest b s, xs = done ++ a :: rest → R.Inv s → P done b s →
      (f b a).Keeps R (P (done ++ [a])) s) {b : β} (hs : P [] b s) : (xs.foldlM f b).Keeps R (P xs) s := by
  have hrest : ∀ (done rest : List α) (b : β) (s : σ), xs = done ++ rest → P done b s →
      (rest.foldlM f b).Keeps R (P xs) s := by
    intro done rest
    induction rest generalizing done with
    | nil =>
      intro b s hsplit hP
      rw [List.append_nil] at hsplit
      rw [hsplit]
      exact keeps_ok fun s' => hstable done b s s' hP
    | cons x rest ih =>
      intro b s hsplit hP
      rw [List.foldlM_cons]
      have hsplit' : xs = (done ++ [x]) ++ rest := by rw [hsplit, List.append_assoc, List.singleton_append]
      have hx : (f b x).Keeps R (P (done ++ [x])) s := keeps_of_forall fun s' hinv hmoves =>
        hstep done x rest b s' hsplit hinv (hstable done b s s' hP hinv hmoves)
      exact hx.bind fun b' s' _ hP' => ih (done ++ [x]) b' s' hsplit' hP'
  exact hrest [] xs b s rfl hs

end Program

/-! ## Interleavings -/

/-- The shared state, and what is left of each worker's program. -/
structure Workers (ι σ ε α : Type) where
  shared : σ
  running : ι → Program σ ε α

/-- A worker starts a program, or takes its next step. -/
inductive Workers.Event (ι κ : Type) where
  | start (i : ι) (what : κ)
  | next (i : ι)

section
variable {ι κ σ ε α : Type} [DecidableEq ι]

/-- Workers that start programs when they are done with one, their steps in any order. -/
def interleaving (program : κ → Program σ ε α) (init : σ → Prop) : Lts (Workers ι σ ε α) (Workers.Event ι κ) where
  init w := init w.shared ∧ ∀ i, ∃ r, w.running i = .done r
  step w e w' :=
    match e with
    | .start i what => (∃ r, w.running i = .done r) ∧ w' = { w with running := Function.update w.running i (program what) }
    | .next i => ∃ write next, w.running i = .step write next ∧
        w' = { shared := write w.shared, running := Function.update w.running i (next w.shared) }

/-- Every worker keeps the invariant with what is left of its program. -/
structure Workers.Keep (R : Program.Rely σ) (w : Workers ι σ ε α) : Prop where
  inv : R.Inv w.shared
  running : ∀ i, (w.running i).Keeps R (fun _ _ => True) w.shared

variable {R : Program.Rely σ} {program : κ → Program σ ε α} {init : σ → Prop} {w w' : Workers ι σ ε α}

omit [DecidableEq ι] in
theorem keep_of_done (hinv : R.Inv w.shared) (hdone : ∀ i, ∃ r, w.running i = .done r) : w.Keep R := by
  refine ⟨hinv, fun i => ?_⟩
  obtain ⟨r, hr⟩ := hdone i
  rw [hr]
  exact Program.keeps_done fun _ _ _ _ _ => trivial

/-- One step, of whichever worker. -/
theorem Workers.Keep.step (h : w.Keep R) {e : Workers.Event ι κ} (hstep : (interleaving program init).step w e w')
    (hprogram : ∀ i what, e = .start i what → ∀ s, R.Inv s → (program what).Keeps R (fun _ _ => True) s) :
    w'.Keep R ∧ R.Moves w.shared w'.shared := by
  cases e with
  | start i what =>
    obtain ⟨-, rfl⟩ := hstep
    refine ⟨⟨h.inv, fun j => ?_⟩, R.refl _⟩
    dsimp only
    by_cases hj : j = i
    · subst hj
      rw [Function.update_self]
      exact hprogram _ _ rfl _ h.inv
    · rw [Function.update_of_ne hj]
      exact h.running j
  | next i =>
    obtain ⟨write, next, hrunning, rfl⟩ := hstep
    have hi := h.running i
    rw [hrunning] at hi
    obtain ⟨hinv, hmoves, hnext⟩ := hi w.shared h.inv (R.refl _)
    refine ⟨⟨hinv, fun j => ?_⟩, hmoves⟩
    dsimp only
    by_cases hj : j = i
    · subst hj
      rw [Function.update_self]
      exact hnext
    · rw [Function.update_of_ne hj]
      exact (h.running j).moved hmoves

/-- **What every program keeps, every interleaving keeps.** -/
theorem keeps_of_run {events : List (Workers.Event ι κ)} (hrun : (interleaving program init).Run w events w')
    (h : w.Keep R) (hprogram : ∀ i what, .start i what ∈ events → ∀ s, R.Inv s →
      (program what).Keeps R (fun _ _ => True) s) : w'.Keep R ∧ R.Moves w.shared w'.shared := by
  induction hrun with
  | nil => exact ⟨h, R.refl _⟩
  | snoc _ hstep ih =>
    obtain ⟨hkeep, hmoves⟩ := ih fun i what hmem => hprogram i what (List.mem_append_left _ hmem)
    obtain ⟨hkeep', hmoves'⟩ := hkeep.step hstep fun i what heq =>
      hprogram i what (List.mem_append_right _ (List.mem_singleton.mpr heq.symm))
    exact ⟨hkeep', R.trans hmoves hmoves'⟩

/-- The steps of one worker, one after another. -/
theorem run_next (program : κ → Program σ ε α) (init : σ → Prop) (i : ι) (shared : σ) (running : ι → Program σ ε α) :
    ∃ n, (interleaving program init).Run ⟨shared, running⟩ (List.replicate n (.next i))
      ⟨((running i).alone shared).2, Function.update running i (.done ((running i).alone shared).1)⟩ := by
  generalize hrest : running i = rest
  induction rest generalizing shared running with
  | done r =>
    refine ⟨0, ?_⟩
    rw [Program.alone_done, ← hrest, Function.update_eq_self]
    exact .nil
  | step write next ih =>
    obtain ⟨n, hn⟩ := ih shared (write shared) (Function.update running i (next shared)) (Function.update_self ..)
    rw [Function.update_idem] at hn
    exact ⟨n + 1, .cons ⟨write, next, hrest, rfl⟩ hn⟩

variable (program) in
/-- **A program nothing comes in between of.** -/
theorem run_alone (init : σ → Prop) {i : ι} (hdone : ∃ r, w.running i = .done r) (what : κ) :
    ∃ n, (interleaving program init).Run w (.start i what :: List.replicate n (.next i))
      ⟨((program what).alone w.shared).2,
        Function.update w.running i (.done ((program what).alone w.shared).1)⟩ := by
  obtain ⟨n, hn⟩ := run_next program init i w.shared (Function.update w.running i (program what))
  rw [Function.update_self, Function.update_idem] at hn
  exact ⟨n, .cons ⟨hdone, rfl⟩ hn⟩

end
end RgbppIndexer.Core
