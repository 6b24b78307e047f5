import Mathlib.Data.Set.Card
import Mathlib.Logic.Function.Basic
import Mathlib.Order.Hom.Basic
import RgbppIndexer.Core.Lts

/-!
# Politeness towards the data source

`crates/btc/src/throttle.rs`: "how many requests may be in flight at once, and how
closely together requests may start". Every request of a backend first calls
`acquire` and holds the permit until its reply is read, or until whoever wanted it
is dropped.

Callers come from every task and from every API request, so they interleave
freely. A permit and the lock on the last start are handed out in the order in
which they were asked for, as `tokio` documents; a sleep takes at least its
duration. Instants and durations are in nanoseconds.

* `Valid.step`: nobody is in two places, and every permit is free or held.
* `Spaced.step`: the last recorded start is the latest one.
* `limits_hold`: **neither limit is broken, however the callers interleave.**
-/
namespace RgbppIndexer

open RgbppIndexer.Core

/-- What does not change of a `Throttle`. mirrors crates/btc/src/throttle.rs:13-18 -/
structure Throttle where
  capacity : Nat
  minInterval : Nat
  deriving DecidableEq, Repr

namespace Throttle

/-- `Semaphore::MAX_PERMITS`, `usize::MAX >> 3`. -/
def maxPermits : UInt64 := 0x1fffffffffffffff

/-- `none` is a panic of `Semaphore::new`. mirrors crates/btc/src/throttle.rs:21-27 -/
def new (maxConcurrency minIntervalMs : UInt64) : Option Throttle :=
  let permits := max maxConcurrency 1
  if maxPermits < permits then none
  else some { capacity := permits.toNat, minInterval := minIntervalMs.toNat * 1000000 }

/-- mirrors crates/btc/src/throttle.rs:29-31 -/
def unlimited : Option Throttle := new 255 0

theorem new_eq_some {maxConcurrency minIntervalMs : UInt64} {t : Throttle} (h : new maxConcurrency minIntervalMs = some t) :
    t.capacity = max maxConcurrency.toNat 1 ∧ t.minInterval = minIntervalMs.toNat * 1000000 := by
  unfold new at h
  dsimp only at h
  by_cases hmax : maxPermits < max maxConcurrency 1
  · rw [if_pos hmax] at h
    cases h
  · rw [if_neg hmax] at h
    rw [← Option.some.inj h]
    refine ⟨?_, rfl⟩
    change (if maxConcurrency ≤ 1 then (1 : UInt64) else maxConcurrency).toNat = max maxConcurrency.toNat 1
    by_cases hle : maxConcurrency ≤ 1
    · rw [if_pos hle]
      exact (max_eq_right (UInt64.le_iff_toNat_le.mp hle)).symm
    · rw [if_neg hle]
      exact (max_eq_left (Nat.le_of_not_le fun h => hle (UInt64.le_iff_toNat_le.mpr h))).symm

/-- Where a caller of `acquire` is. `since` is when it got its permit. -/
inductive Phase where
  | idle
  /-- in line for a permit -/
  | queued
  /-- in line for the lock on the last start -/
  | permitted (since : Nat)
  /-- holds the lock, and sleeps until `wake` -/
  | spacing (since wake : Nat)
  /-- its request is in flight -/
  | running
  deriving DecidableEq, Repr

def Phase.hasPermit : Phase → Bool
  | idle => false
  | queued => false
  | permitted _ => true
  | spacing _ _ => true
  | running => true

structure State (ι : Type*) where
  now : Nat
  permits : Nat
  /-- callers in line for a permit -/
  line : List ι
  lastStart : Option Nat
  /-- callers in line for the lock -/
  lockLine : List ι
  holder : Option ι
  /-- since when the first in line could have had the lock -/
  freeSince : Nat
  phase : ι → Phase

inductive Event (ι : Type*) where
  | tick (d : Nat)
  | call (i : ι)
  | permit (i : ι)
  | lock (i : ι)
  /-- `acquire` returns -/
  | start (i : ι) (time : Nat)
  /-- the reply is read -/
  | finish (i : ι)
  /-- a caller is dropped in the middle of `acquire` -/
  | cancel (i : ι)
  deriving DecidableEq, Repr

/-- Until when the holder of the lock sleeps. mirrors crates/btc/src/throttle.rs:45-51 -/
def wake (t : Throttle) (now : Nat) (lastStart : Option Nat) : Nat :=
  match lastStart with
  | none => now
  | some previous =>
    let elapsed := now - previous
    if elapsed < t.minInterval then now + (t.minInterval - elapsed) else now

section
variable {ι : Type*} [DecidableEq ι]

def State.set (s : State ι) (i : ι) (p : Phase) : ι → Phase := Function.update s.phase i p

/-- mirrors crates/btc/src/throttle.rs:35-55 -/
def step (t : Throttle) (s : State ι) : Event ι → Option (State ι)
  | .tick d => some { s with now := s.now + d }
  | .call i => if s.phase i = .idle then some { s with line := s.line ++ [i], phase := s.set i .queued } else none
  | .permit i =>
    if s.line.head? = some i ∧ 0 < s.permits then
      some { s with
        permits := s.permits - 1, line := s.line.tail
        lockLine := if t.minInterval = 0 then s.lockLine else s.lockLine ++ [i]
        freeSince := if s.lockLine = [] ∧ s.holder = none then s.now else s.freeSince
        phase := s.set i (.permitted s.now) }
    else none
  | .lock i =>
    match s.phase i with
    | .permitted since =>
      if s.lockLine.head? = some i ∧ s.holder = none then
        some { s with
          lockLine := s.lockLine.tail, holder := some i
          phase := s.set i (.spacing since (t.wake s.now s.lastStart)) }
      else none
    | _ => none
  | .start i time =>
    if time = s.now then
      match s.phase i with
      | .permitted _ => if t.minInterval = 0 then some { s with phase := s.set i .running } else none
      | .spacing _ wake =>
        if wake ≤ s.now then
          some { s with lastStart := some s.now, holder := none, freeSince := s.now, phase := s.set i .running }
        else none
      | _ => none
    else none
  | .finish i => if s.phase i = .running then some { s with permits := s.permits + 1, phase := s.set i .idle } else none
  | .cancel i =>
    match s.phase i with
    | .queued => some { s with line := s.line.erase i, phase := s.set i .idle }
    | .permitted _ =>
      some { s with
        permits := s.permits + 1, lockLine := s.lockLine.erase i
        freeSince := if s.lockLine.head? = some i ∧ s.holder = none then s.now else s.freeSince
        phase := s.set i .idle }
    | .spacing _ _ =>
      some { s with permits := s.permits + 1, holder := none, freeSince := s.now, phase := s.set i .idle }
    | _ => none

/-- Callers that share a throttle, from its creation. -/
def system (t : Throttle) : Lts (State ι) (Event ι) where
  init s := s.permits = t.capacity ∧ s.line = [] ∧ s.lastStart = none ∧ s.lockLine = [] ∧ s.holder = none ∧
    s.freeSince = s.now ∧ ∀ i, s.phase i = .idle
  step s e s' := t.step s e = some s'

/-! ## What a step can do -/

variable {t : Throttle} {s s' : State ι} {i j : ι} {p : Phase}

@[simp] theorem set_self : s.set i p i = p := Function.update_self ..

@[simp] theorem set_of_ne (h : j ≠ i) : s.set i p j = s.phase j := Function.update_of_ne h ..

theorem set_eq_iff {q : Phase} : s.set i p j = q ↔ j = i ∧ p = q ∨ j ≠ i ∧ s.phase j = q := by
  by_cases h : j = i
  · subst h
    simp
  · simp [h]

/-- Another phase than the one set is the phase from before. -/
theorem phase_of_set {q : Phase} (h : s.set i p j = q) (hne : p ≠ q) : s.phase j = q := by
  rcases set_eq_iff.mp h with ⟨-, heq⟩ | ⟨-, hphase⟩
  · exact absurd heq hne
  · exact hphase

theorem step_call (h : t.step s (.call i) = some s') :
    s.phase i = .idle ∧ s' = { s with line := s.line ++ [i], phase := s.set i .queued } := by
  simp only [step] at h
  split at h
  · next hidle => exact ⟨hidle, (Option.some.inj h).symm⟩
  · cases h

theorem step_permit (h : t.step s (.permit i) = some s') : ∃ line, s.line = i :: line ∧ 0 < s.permits ∧
    s' = { s with
      permits := s.permits - 1, line
      lockLine := if t.minInterval = 0 then s.lockLine else s.lockLine ++ [i]
      freeSince := if s.lockLine = [] ∧ s.holder = none then s.now else s.freeSince
      phase := s.set i (.permitted s.now) } := by
  simp only [step] at h
  split at h
  · next hcond =>
    obtain ⟨line, hline⟩ := List.head?_eq_some_iff.mp hcond.1
    refine ⟨line, hline, hcond.2, ?_⟩
    rw [← Option.some.inj h, hline, List.tail_cons]
  · cases h

theorem step_lock (h : t.step s (.lock i) = some s') : ∃ since lockLine, s.phase i = .permitted since ∧
    s.lockLine = i :: lockLine ∧ s.holder = none ∧
    s' = { s with lockLine, holder := some i, phase := s.set i (.spacing since (t.wake s.now s.lastStart)) } := by
  simp only [step] at h
  split at h
  · next since hphase =>
    split at h
    · next hcond =>
      obtain ⟨lockLine, hline⟩ := List.head?_eq_some_iff.mp hcond.1
      refine ⟨since, lockLine, hphase, hline, hcond.2, ?_⟩
      rw [← Option.some.inj h, hline, List.tail_cons]
    · cases h
  · cases h

theorem step_start {time : Nat} (h : t.step s (.start i time) = some s') : time = s.now ∧
    ((t.minInterval = 0 ∧ (∃ since, s.phase i = .permitted since) ∧ s' = { s with phase := s.set i .running }) ∨
      ∃ since wake, s.phase i = .spacing since wake ∧ wake ≤ s.now ∧
        s' = { s with lastStart := some s.now, holder := none, freeSince := s.now, phase := s.set i .running }) := by
  simp only [step] at h
  split at h
  · next htime =>
    refine ⟨htime, ?_⟩
    split at h
    · next since hphase =>
      split at h
      · next hzero => exact .inl ⟨hzero, ⟨since, hphase⟩, (Option.some.inj h).symm⟩
      · cases h
    · next since wake hphase =>
      split at h
      · next hwake => exact .inr ⟨since, wake, hphase, hwake, (Option.some.inj h).symm⟩
      · cases h
    · cases h
  · cases h

theorem step_finish (h : t.step s (.finish i) = some s') :
    s.phase i = .running ∧ s' = { s with permits := s.permits + 1, phase := s.set i .idle } := by
  simp only [step] at h
  split at h
  · next hrun => exact ⟨hrun, (Option.some.inj h).symm⟩
  · cases h

theorem step_cancel (h : t.step s (.cancel i) = some s') :
    (s.phase i = .queued ∧ s' = { s with line := s.line.erase i, phase := s.set i .idle }) ∨
    (∃ since, s.phase i = .permitted since ∧
      s' = { s with
        permits := s.permits + 1, lockLine := s.lockLine.erase i
        freeSince := if s.lockLine.head? = some i ∧ s.holder = none then s.now else s.freeSince
        phase := s.set i .idle }) ∨
    (∃ since wake, s.phase i = .spacing since wake ∧
      s' = { s with permits := s.permits + 1, holder := none, freeSince := s.now, phase := s.set i .idle }) := by
  simp only [step] at h
  split at h
  · next hphase => exact .inl ⟨hphase, (Option.some.inj h).symm⟩
  · next since hphase => exact .inr (.inl ⟨since, hphase, (Option.some.inj h).symm⟩)
  · next since wake hphase => exact .inr (.inr ⟨since, wake, hphase, (Option.some.inj h).symm⟩)
  · cases h

/-! ## The limit on requests in flight -/

/-- Nobody is in two places, and every permit is free or held. -/
structure Valid (t : Throttle) (s : State ι) : Prop where
  line : ∀ i, i ∈ s.line ↔ s.phase i = .queued
  line_nodup : s.line.Nodup
  lockLine : ∀ i, i ∈ s.lockLine ↔ t.minInterval ≠ 0 ∧ ∃ since, s.phase i = .permitted since
  lockLine_nodup : s.lockLine.Nodup
  holder : ∀ i, s.holder = some i ↔ ∃ since wake, s.phase i = .spacing since wake
  counted : Set.encard {i | (s.phase i).hasPermit = true} + s.permits = t.capacity
  spaced : ∀ i since wake previous, s.phase i = .spacing since wake → s.lastStart = some previous →
    previous + t.minInterval ≤ wake
  started : ∀ previous, s.lastStart = some previous → previous ≤ s.now

theorem Valid.init (h : t.system.init s) : t.Valid s := by
  obtain ⟨hpermits, hline, hlast, hlock, hholder, -, hidle⟩ := h
  refine ⟨by simp [hline, hidle], by simp [hline], by simp [hlock, hidle], by simp [hlock], by simp [hholder, hidle], ?_,
    by simp [hidle], by simp [hlast]⟩
  simp [hidle, Phase.hasPermit, hpermits]

theorem held_set_of_true (hp : p.hasPermit = true) :
    {j | (s.set i p j).hasPermit = true} = insert i {j | (s.phase j).hasPermit = true} := by
  ext j
  by_cases h : j = i
  · subst h
    simp [hp]
  · simp [h]

theorem held_set_of_false (hp : p.hasPermit = false) :
    {j | (s.set i p j).hasPermit = true} = {j | (s.phase j).hasPermit = true} \ {i} := by
  ext j
  by_cases h : j = i
  · subst h
    simp [hp]
  · simp [h]

theorem Valid.granted (h : t.Valid s) (hi : (s.phase i).hasPermit = false) (hfree : 0 < s.permits)
    (hp : p.hasPermit = true) : Set.encard {j | (s.set i p j).hasPermit = true} + ((s.permits - 1 : Nat) : ℕ∞) = t.capacity := by
  obtain ⟨n, hn⟩ : ∃ n, s.permits = n + 1 := ⟨s.permits - 1, by omega⟩
  rw [held_set_of_true hp, Set.encard_insert_of_notMem (by simp [hi]), ← h.counted, hn]
  rw [Nat.add_sub_cancel, Nat.cast_add, Nat.cast_one, add_assoc, add_comm 1]

theorem Valid.returned (h : t.Valid s) (hi : (s.phase i).hasPermit = true) (hp : p.hasPermit = false) :
    Set.encard {j | (s.set i p j).hasPermit = true} + ((s.permits + 1 : Nat) : ℕ∞) = t.capacity := by
  rw [held_set_of_false hp, ← h.counted, ← Set.encard_sdiff_singleton_add_one (show i ∈ {j | (s.phase j).hasPermit = true} from hi)]
  rw [Nat.cast_add, Nat.cast_one, add_assoc, add_comm 1]

theorem Valid.moved (h : t.Valid s) (hi : (s.phase i).hasPermit = p.hasPermit) :
    Set.encard {j | (s.set i p j).hasPermit = true} + (s.permits : ℕ∞) = t.capacity := by
  have hsame : {j | (s.set i p j).hasPermit = true} = {j | (s.phase j).hasPermit = true} := by
    ext j
    by_cases hj : j = i
    · subst hj
      simp [hi]
    · simp [hj]
  rw [hsame, h.counted]

/-- From when on the next request may start. -/
def slot (t : Throttle) (lastStart : Option Nat) : Nat := (lastStart.map (· + t.minInterval)).getD 0

theorem wake_eq {now : Nat} {lastStart : Option Nat} (h : ∀ previous, lastStart = some previous → previous ≤ now) :
    t.wake now lastStart = max now (t.slot lastStart) := by
  cases lastStart with
  | none => simp [wake, slot]
  | some previous =>
    have := h previous rfl
    simp only [wake, slot, Option.map_some, Option.getD_some]
    split <;> omega

/-- The lines, when one caller goes elsewhere. -/
theorem Valid.line_of_ne (h : t.Valid s) (hi : s.phase i ≠ .queued) (hp : p ≠ .queued) :
    ∀ j, j ∈ s.line ↔ s.set i p j = .queued := by
  intro j
  rw [h.line, set_eq_iff]
  by_cases hj : j = i
  · subst hj
    simp [hi, hp]
  · simp [hj]

theorem Valid.lockLine_of_ne (h : t.Valid s) (hi : ∀ since, s.phase i ≠ .permitted since) (hp : ∀ since, p ≠ .permitted since) :
    ∀ j, j ∈ s.lockLine ↔ t.minInterval ≠ 0 ∧ ∃ since, s.set i p j = .permitted since := by
  intro j
  rw [h.lockLine]
  simp only [set_eq_iff]
  by_cases hj : j = i
  · subst hj
    simp [hi, hp]
  · simp [hj]

theorem Valid.holder_of_ne (h : t.Valid s) (hi : ∀ since wake, s.phase i ≠ .spacing since wake)
    (hp : ∀ since wake, p ≠ .spacing since wake) :
    ∀ j, s.holder = some j ↔ ∃ since wake, s.set i p j = .spacing since wake := by
  intro j
  rw [h.holder]
  simp only [set_eq_iff]
  by_cases hj : j = i
  · subst hj
    simp [hi, hp]
  · simp [hj]

/-- The holder stays where it is while others move. -/
theorem Valid.holder_kept (h : t.Valid s) (hi : ∀ since wake, s.phase i ≠ .spacing since wake) :
    ∀ j, s.holder = some j → s.set i p j = s.phase j := by
  intro j hj
  obtain ⟨since, wake, hspacing⟩ := (h.holder j).mp hj
  refine set_of_ne fun hji => ?_
  exact hi since wake (hji ▸ hspacing)

theorem Valid.spaced_of_ne (h : t.Valid s) (hp : ∀ since wake, p ≠ .spacing since wake) :
    ∀ j since wake previous, s.set i p j = .spacing since wake → s.lastStart = some previous → previous + t.minInterval ≤ wake := by
  intro j since wake previous hj hlast
  rcases set_eq_iff.mp hj with ⟨-, hpj⟩ | ⟨-, hphase⟩
  · exact absurd hpj (hp since wake)
  · exact h.spaced j since wake previous hphase hlast

/-- The lock is free once its holder is elsewhere. -/
theorem Valid.released (h : t.Valid s) {since wake : Nat} (hi : s.phase i = .spacing since wake)
    (hp : ∀ since wake, p ≠ .spacing since wake) : ∀ j, none = some j ↔ ∃ since wake, s.set i p j = .spacing since wake := by
  intro j
  refine ⟨nofun, fun ⟨since', wake', hj⟩ => ?_⟩
  rcases set_eq_iff.mp hj with ⟨-, hpj⟩ | ⟨hne, hphase⟩
  · exact absurd hpj (hp since' wake')
  · have hholder := (h.holder i).mpr ⟨since, wake, hi⟩
    rw [(h.holder j).mpr ⟨since', wake', hphase⟩] at hholder
    exact absurd (Option.some.inj hholder) hne

theorem Valid.step {e : Event ι} (h : t.Valid s) (hstep : t.step s e = some s') : t.Valid s' := by
  cases e with
  | tick d =>
    obtain rfl := Option.some.inj hstep
    exact { h with started := fun previous hlast => (h.started previous hlast).trans (Nat.le_add_right ..) }
  | call i =>
    obtain ⟨hidle, rfl⟩ := step_call hstep
    have hfresh : i ∉ s.line := by simp [h.line, hidle]
    refine { lockLine := h.lockLine_of_ne (by simp [hidle]) nofun, lockLine_nodup := h.lockLine_nodup,
             holder := h.holder_of_ne (by simp [hidle]) nofun, counted := h.moved (by simp [hidle, Phase.hasPermit]),
             spaced := h.spaced_of_ne nofun, started := h.started, line := fun j => ?_, line_nodup := ?_ }
    · rw [List.mem_append, List.mem_singleton, h.line, set_eq_iff]
      by_cases hj : j = i
      · simp [hj]
      · simp [hj]
    · exact (List.nodup_append_comm.mpr (List.nodup_cons.mpr ⟨hfresh, h.line_nodup⟩ : ([i] ++ s.line).Nodup))
  | permit i =>
    obtain ⟨line, hline, hfree, rfl⟩ := step_permit hstep
    have hqueued : s.phase i = .queued := (h.line i).mp (hline ▸ List.mem_cons_self)
    have hnodup := h.line_nodup
    rw [hline, List.nodup_cons] at hnodup
    refine { holder := h.holder_of_ne (by simp [hqueued]) nofun, counted := h.granted (by simp [hqueued, Phase.hasPermit]) hfree rfl,
             spaced := h.spaced_of_ne nofun, started := h.started, line_nodup := hnodup.2,
             line := fun j => ?_, lockLine := fun j => ?_, lockLine_nodup := ?_ }
    · have hmem := h.line j
      rw [hline, List.mem_cons] at hmem
      rw [set_eq_iff]
      by_cases hj : j = i
      · subst hj
        simp [hnodup.1]
      · simp [hj, ← hmem]
    · dsimp only
      split
      · next hzero => simp [h.lockLine, hzero]
      · next hpos =>
        rw [List.mem_append, List.mem_singleton, h.lockLine]
        simp only [set_eq_iff]
        by_cases hj : j = i
        · simp [hj, hpos]
        · simp [hj, hpos]
    · dsimp only
      split
      · exact h.lockLine_nodup
      · refine (List.nodup_append_comm.mpr (List.nodup_cons.mpr ⟨?_, h.lockLine_nodup⟩ : ([i] ++ s.lockLine).Nodup))
        simp [h.lockLine, hqueued]
  | lock i =>
    obtain ⟨since, lockLine, hphase, hlock, hfree, rfl⟩ := step_lock hstep
    have hnodup := h.lockLine_nodup
    rw [hlock, List.nodup_cons] at hnodup
    refine { line := h.line_of_ne (by simp [hphase]) nofun, line_nodup := h.line_nodup, lockLine_nodup := hnodup.2,
             counted := h.moved (by simp [hphase, Phase.hasPermit]), started := h.started,
             lockLine := fun j => ?_, holder := fun j => ?_, spaced := fun j since' wake' previous hj hlast => ?_ }
    · have hmem := h.lockLine j
      rw [hlock, List.mem_cons] at hmem
      simp only [set_eq_iff]
      by_cases hj : j = i
      · subst hj
        simp [hnodup.1]
      · simp [hj] at hmem
        simp [hj, hmem]
    · have hmem := h.holder j
      rw [hfree] at hmem
      simp only [set_eq_iff]
      by_cases hj : j = i
      · subst hj
        simp
      · simp [hj, Ne.symm hj] at hmem ⊢
        exact hmem
    · rcases set_eq_iff.mp hj with ⟨-, hpj⟩ | ⟨-, hphase'⟩
      · cases hpj
        rw [wake_eq h.started, show s.lastStart = some previous from hlast]
        exact Nat.le_max_right ..
      · exact h.spaced j since' wake' previous hphase' hlast
  | start i time =>
    obtain ⟨-, ⟨hzero, ⟨since, hphase⟩, rfl⟩ | ⟨since, wake, hphase, hwake, rfl⟩⟩ := step_start hstep
    · refine { line := h.line_of_ne (by simp [hphase]) nofun, line_nodup := h.line_nodup, lockLine_nodup := h.lockLine_nodup,
               holder := h.holder_of_ne (by simp [hphase]) nofun, counted := h.moved (by simp [hphase, Phase.hasPermit]),
               spaced := h.spaced_of_ne nofun, started := h.started, lockLine := fun j => ?_ }
      simp [h.lockLine, hzero]
    · refine { line := h.line_of_ne (by simp [hphase]) nofun, line_nodup := h.line_nodup, lockLine_nodup := h.lockLine_nodup,
               lockLine := h.lockLine_of_ne (by simp [hphase]) nofun, holder := h.released hphase nofun,
               counted := h.moved (by simp [hphase, Phase.hasPermit]), started := ?_,
               spaced := fun j since' wake' previous hj _ => ?_ }
      · obtain ⟨hfree⟩ := (h.released (p := .running) hphase nofun j).mpr ⟨since', wake', hj⟩
      · rintro previous hprevious
        exact (Option.some.inj hprevious).symm.le
  | finish i =>
    obtain ⟨hphase, rfl⟩ := step_finish hstep
    exact { line := h.line_of_ne (by simp [hphase]) nofun, line_nodup := h.line_nodup, lockLine_nodup := h.lockLine_nodup,
            lockLine := h.lockLine_of_ne (by simp [hphase]) nofun, holder := h.holder_of_ne (by simp [hphase]) nofun,
            counted := h.returned (by simp [hphase, Phase.hasPermit]) rfl, spaced := h.spaced_of_ne nofun, started := h.started }
  | cancel i =>
    obtain ⟨hphase, rfl⟩ | ⟨since, hphase, rfl⟩ | ⟨since, wake, hphase, rfl⟩ := step_cancel hstep
    · refine { line_nodup := h.line_nodup.erase i, lockLine_nodup := h.lockLine_nodup,
               lockLine := h.lockLine_of_ne (by simp [hphase]) nofun, holder := h.holder_of_ne (by simp [hphase]) nofun,
               counted := h.moved (by simp [hphase, Phase.hasPermit]), spaced := h.spaced_of_ne nofun, started := h.started,
               line := fun j => ?_ }
      rw [h.line_nodup.mem_erase_iff, h.line, set_eq_iff]
      by_cases hj : j = i
      · simp [hj]
      · simp [hj]
    · refine { line := h.line_of_ne (by simp [hphase]) nofun, line_nodup := h.line_nodup,
               lockLine_nodup := h.lockLine_nodup.erase i, holder := h.holder_of_ne (by simp [hphase]) nofun,
               counted := h.returned (by simp [hphase, Phase.hasPermit]) rfl, spaced := h.spaced_of_ne nofun,
               started := h.started, lockLine := fun j => ?_ }
      rw [h.lockLine_nodup.mem_erase_iff, h.lockLine]
      simp only [set_eq_iff]
      by_cases hj : j = i
      · simp [hj]
      · simp [hj]
    · exact { line := h.line_of_ne (by simp [hphase]) nofun, line_nodup := h.line_nodup, lockLine_nodup := h.lockLine_nodup,
              lockLine := h.lockLine_of_ne (by simp [hphase]) nofun, holder := h.released hphase nofun,
              counted := h.returned (by simp [hphase, Phase.hasPermit]) rfl, spaced := h.spaced_of_ne nofun,
              started := h.started }

theorem Valid.run {events : List (Event ι)} (h : t.system.init s) (hrun : t.system.Run s events s') : t.Valid s' :=
  hrun.keeps (fun _ _ _ hs hstep => hs.step hstep) (.init h)

/-! ## The spacing of starts -/

/-- When the requests of a run started, oldest first. -/
def starts (events : List (Event ι)) : List Nat :=
  events.filterMap fun e => match e with
    | .start _ time => some time
    | _ => none

/-- The last recorded start is no earlier than any other. -/
structure Spaced (t : Throttle) (events : List (Event ι)) (s : State ι) : Prop where
  valid : t.Valid s
  past : ∀ time ∈ starts events, time ≤ s.now
  last : t.minInterval ≠ 0 → ∀ time ∈ starts events, ∃ previous, s.lastStart = some previous ∧ time ≤ previous
  apart : (starts events).Pairwise fun earlier later => earlier + t.minInterval ≤ later

theorem Spaced.step {events : List (Event ι)} {e : Event ι} (h : t.Spaced events s) (hstep : t.step s e = some s') :
    t.Spaced (events ++ [e]) s' := by
  have hvalid := h.valid.step hstep
  have hother : starts [e] = [] → s.now ≤ s'.now → s'.lastStart = s.lastStart → t.Spaced (events ++ [e]) s' := by
    intro hnone hnow hlast
    have hstarts : starts (events ++ [e]) = starts events := by
      rw [starts, List.filterMap_append]
      exact (congrArg _ hnone).trans (List.append_nil _)
    exact { valid := hvalid, past := fun time hmem => (h.past time (hstarts ▸ hmem)).trans hnow,
            last := fun hpos time hmem => hlast ▸ h.last hpos time (hstarts ▸ hmem), apart := hstarts ▸ h.apart }
  cases e with
  | tick d =>
    obtain rfl := Option.some.inj hstep
    exact hother rfl (Nat.le_add_right ..) rfl
  | call i =>
    obtain ⟨-, rfl⟩ := step_call hstep
    exact hother rfl le_rfl rfl
  | permit i =>
    obtain ⟨line, -, -, rfl⟩ := step_permit hstep
    exact hother rfl le_rfl rfl
  | lock i =>
    obtain ⟨since, lockLine, -, -, -, rfl⟩ := step_lock hstep
    exact hother rfl le_rfl rfl
  | finish i =>
    obtain ⟨-, rfl⟩ := step_finish hstep
    exact hother rfl le_rfl rfl
  | cancel i =>
    obtain ⟨-, rfl⟩ | ⟨since, -, rfl⟩ | ⟨since, wake, -, rfl⟩ := step_cancel hstep
    all_goals exact hother rfl le_rfl rfl
  | start i time =>
    have hstarts : starts (events ++ [.start i time]) = starts events ++ [time] := by
      rw [starts, List.filterMap_append]
      rfl
    have hpast : ∀ x ∈ starts events ++ [s.now], x ≤ s.now := by
      intro x hx
      rcases List.mem_append.mp hx with hx | hx
      · exact h.past x hx
      · exact (List.mem_singleton.mp hx).le
    obtain ⟨rfl, ⟨hzero, -, rfl⟩ | ⟨since, wake, hphase, hwake, rfl⟩⟩ := step_start hstep
    · refine { valid := hvalid, past := ?_, last := fun hpos => absurd hzero hpos, apart := ?_ }
      all_goals rw [hstarts]
      · exact hpast
      · refine List.pairwise_append.mpr ⟨h.apart, List.pairwise_singleton .., ?_⟩
        simpa [hzero] using h.past
    · refine { valid := hvalid, past := ?_, last := fun _ => ?_, apart := ?_ }
      all_goals rw [hstarts]
      · exact hpast
      · exact fun x hx => ⟨s.now, rfl, hpast x hx⟩
      · refine List.pairwise_append.mpr ⟨h.apart, List.pairwise_singleton .., fun earlier hmem later hlater => ?_⟩
        rw [List.mem_singleton.mp hlater]
        by_cases hzero : t.minInterval = 0
        · rw [hzero]
          exact h.past earlier hmem
        · obtain ⟨previous, hprevious, hle⟩ := h.last hzero earlier hmem
          have hspaced := h.valid.spaced i since wake previous hphase hprevious
          omega

theorem Spaced.run {events : List (Event ι)} (h : t.system.init s) (hrun : t.system.Run s events s') : t.Spaced events s' := by
  refine hrun.keeps_history (fun _ _ _ _ hs hstep => hs.step hstep) ?_
  exact { valid := .init h, past := nofun, last := fun _ => nofun, apart := .nil }

/-! ## The two limits -/

/-- However callers come and go, are dropped, and interleave, the requests in flight are as many as configured at
most, and no two start closer together than configured. -/
theorem limits_hold {maxConcurrency minIntervalMs : UInt64} (hnew : new maxConcurrency minIntervalMs = some t)
    {events : List (Event ι)} (hinit : t.system.init s) (hrun : t.system.Run s events s') :
    Set.encard {i | s'.phase i = .running} ≤ (max maxConcurrency.toNat 1 : Nat) ∧
      (starts events).Pairwise fun earlier later => earlier + minIntervalMs.toNat * 1000000 ≤ later := by
  obtain ⟨hcapacity, hinterval⟩ := new_eq_some hnew
  have hspaced := Spaced.run hinit hrun
  refine ⟨?_, hinterval ▸ hspaced.apart⟩
  have hsub : {i | s'.phase i = .running} ⊆ {i | (s'.phase i).hasPermit = true} := by
    intro i hi
    have hrunning : s'.phase i = .running := hi
    simp [hrunning, Phase.hasPermit]
  rw [← hcapacity, ← hspaced.valid.counted]
  exact (Set.encard_le_encard hsub).trans le_self_add

/-- Two callers of a throttle for one request every 50 ms: the second waits for the first, and then for its time. -/
def twoCallers : List (Event Bool) :=
  [.call false, .call true, .permit false, .lock false, .start false 0, .tick 20000000, .finish false, .permit true,
    .lock true, .tick 30000000, .start true 50000000]

/-- Nobody has called yet. -/
def fresh (t : Throttle) : State ι where
  now := 0
  permits := t.capacity
  line := []
  lastStart := none
  lockLine := []
  holder := none
  freeSince := 0
  phase _ := .idle

theorem fresh_init (t : Throttle) : t.system.init (t.fresh : State ι) := ⟨rfl, rfl, rfl, rfl, rfl, rfl, fun _ => rfl⟩

theorem limits_hold_two : starts twoCallers = [0, 50000000] ∧ ∃ s : State Bool, s.phase true = .running ∧
    Set.encard {i | s.phase i = .running} ≤ 1 ∧ (starts twoCallers).Pairwise fun earlier later => earlier + 50000000 ≤ later := by
  have hends : (twoCallers.foldlM (step ⟨1, 50000000⟩) (fresh ⟨1, 50000000⟩)).map (fun s => s.phase true) = some .running := by
    decide +kernel
  obtain ⟨s, hs, hphase⟩ := Option.map_eq_some_iff.mp hends
  have hrun : (system ⟨1, 50000000⟩).Run (fresh ⟨1, 50000000⟩) twoCallers s := Lts.run_of_foldlM (fun _ _ _ h => h) hs
  have hnew : new 1 50 = some ⟨1, 50000000⟩ := by decide +kernel
  exact ⟨rfl, s, hphase, limits_hold hnew (fresh_init _) hrun⟩

end
end Throttle
end RgbppIndexer
