import Mathlib.Data.List.NodupEquivFin
import RgbppIndexer.Btc.Throttle

/-!
# How long a caller of the throttle waits

A caller that has its permit still waits for its time: "getting rate limited during
a sweep is a slow, confusing failure mode" (crates/btc/src/throttle.rs:3-5). How long
depends on the runtime, which is asked to be prompt (`Prompt`): whoever may go on does
so within `ε`.

* `due`: when the first in line starts, at the latest.
* `Timely.step`: nobody in line gets later, whoever comes or is dropped.
* `started_within`: **one turn for each permit there is, at most.**
-/
namespace RgbppIndexer

open RgbppIndexer.Core

namespace Throttle

section
variable {ι : Type*} [DecidableEq ι] {t : Throttle} {s s' : State ι} {i j : ι} {p : Phase}

/-- The runtime is prompt: whoever may go on does so within `ε`. -/
structure Prompt (t : Throttle) (ε : Nat) (s : State ι) : Prop where
  returned : t.minInterval = 0 → ∀ i since, s.phase i = .permitted since → s.now ≤ since + ε
  served : s.holder = none → s.lockLine ≠ [] → s.now ≤ s.freeSince + ε
  woken : ∀ i since wake, s.phase i = .spacing since wake → s.now ≤ wake + ε

/-- From one start to the next, at most. -/
def turn (t : Throttle) (ε : Nat) : Nat := t.minInterval + 2 * ε

/-- When the first in line for the lock starts, at the latest. -/
def due (t : Throttle) (ε : Nat) (s : State ι) : Nat :=
  match s.holder.map s.phase with
  | some (.spacing _ wake) => wake + ε + t.turn ε
  | _ => max (s.freeSince + ε) (t.slot s.lastStart) + ε

variable {ε : Nat}

omit [DecidableEq ι] in
theorem due_held {since wake : Nat} (hholder : s.holder = some i) (hphase : s.phase i = .spacing since wake) :
    t.due ε s = wake + ε + t.turn ε := by
  simp [due, hholder, hphase]

omit [DecidableEq ι] in
theorem due_free (hholder : s.holder = none) : t.due ε s = max (s.freeSince + ε) (t.slot s.lastStart) + ε := by
  simp [due, hholder]

omit [DecidableEq ι] in
theorem slot_le {now : Nat} {lastStart : Option Nat} (h : ∀ previous, lastStart = some previous → previous ≤ now) :
    t.slot lastStart ≤ now + t.minInterval := by
  cases lastStart with
  | none => exact Nat.zero_le _
  | some previous => exact Nat.add_le_add_right (h previous rfl) _

/-- Everybody who has a permit starts in time, each within the turns of those in front. -/
structure Timely (t : Throttle) (ε : Nat) (s : State ι) : Prop where
  valid : t.Valid s
  free : s.freeSince ≤ s.now
  near : ∀ i since wake, s.phase i = .spacing since wake → wake ≤ s.now + t.minInterval
  sleeping : ∀ i since wake, s.phase i = .spacing since wake → wake + ε ≤ since + t.capacity * t.turn ε
  waiting : ∀ k i since, s.lockLine[k]? = some i → s.phase i = .permitted since →
    t.due ε s + k * t.turn ε ≤ since + t.capacity * t.turn ε

/-- Those in line for the lock, and whoever holds it, all have a permit. -/
theorem Valid.length_lockLine (h : t.Valid s) :
    s.lockLine.length + (if s.holder = none then 0 else 1) + s.permits ≤ t.capacity := by
  have hsub : {i | i ∈ s.holder.toList ++ s.lockLine} ⊆ {i | (s.phase i).hasPermit = true} := by
    intro i hi
    rcases List.mem_append.mp hi with hi | hi
    · obtain ⟨since, wake, hphase⟩ := (h.holder i).mp (Option.mem_toList.mp hi)
      simp [hphase, Phase.hasPermit]
    · obtain ⟨-, since, hphase⟩ := (h.lockLine i).mp hi
      simp [hphase, Phase.hasPermit]
  have hnodup : (s.holder.toList ++ s.lockLine).Nodup := by
    refine List.nodup_append.mpr ⟨by cases s.holder <;> simp, h.lockLine_nodup, fun a ha b hb hab => ?_⟩
    obtain ⟨since, wake, hspacing⟩ := (h.holder a).mp (Option.mem_toList.mp ha)
    obtain ⟨-, since', hpermitted⟩ := (h.lockLine b).mp hb
    rw [hab, hpermitted] at hspacing
    cases hspacing
  have hcard : (((s.holder.toList ++ s.lockLine).length : Nat) : ℕ∞) ≤ Set.encard {i | (s.phase i).hasPermit = true} := by
    rw [← List.coe_toFinset] at hsub
    rw [← List.toFinset_card_of_nodup hnodup, ← Set.encard_coe_eq_coe_finsetCard]
    exact Set.encard_le_encard hsub
  have hle : (((s.holder.toList ++ s.lockLine).length + s.permits : Nat) : ℕ∞) ≤ t.capacity := by
    rw [← h.counted, Nat.cast_add]
    exact add_le_add_left hcard _
  have hnat : (s.holder.toList ++ s.lockLine).length + s.permits ≤ t.capacity := by exact_mod_cast hle
  rw [List.length_append] at hnat
  cases hholder : s.holder with
  | none => simpa [hholder] using hnat
  | some i => simpa [hholder, Nat.add_comm] using hnat

omit [DecidableEq ι] in
/-- What a step leaves alone of what the others wait for. -/
theorem Timely.frame (h : t.Timely ε s) (hvalid : t.Valid s') (hnow : s.now ≤ s'.now) (hfree : s'.freeSince ≤ s'.now)
    (hsleep : ∀ j since wake, s'.phase j = .spacing since wake → s.phase j = .spacing since wake)
    (hdue : ∀ k j since, s'.lockLine[k]? = some j → s'.phase j = .permitted since →
      ∃ k', s.lockLine[k']? = some j ∧ s.phase j = .permitted since ∧
        t.due ε s' + k * t.turn ε ≤ t.due ε s + k' * t.turn ε) : t.Timely ε s' where
  valid := hvalid
  free := hfree
  near j since wake hj := (h.near j since wake (hsleep j since wake hj)).trans (Nat.add_le_add_right hnow _)
  sleeping j since wake hj := h.sleeping j since wake (hsleep j since wake hj)
  waiting k j since hk hj := by
    obtain ⟨k', hk', hj', hle⟩ := hdue k j since hk hj
    exact hle.trans (h.waiting k' j since hk' hj')

omit [DecidableEq ι] in
/-- The due time is about the lock, its holder and the last start. -/
theorem due_congr (hholder : s'.holder = s.holder) (hphase : ∀ j, s.holder = some j → s'.phase j = s.phase j)
    (hlast : s'.lastStart = s.lastStart) (hfree : s'.freeSince = s.freeSince) : t.due ε s' = t.due ε s := by
  unfold due
  rw [hholder, hlast, hfree]
  cases hj : s.holder with
  | none => rfl
  | some j => rw [Option.map_some, Option.map_some, hphase j hj]

/-- Somebody who is not in line for the lock goes elsewhere. -/
theorem Timely.bystander (h : t.Timely ε s) (hvalid : t.Valid s') (hi : ∀ since wake, s.phase i ≠ .spacing since wake)
    (hp : ∀ since, p ≠ .permitted since) (hp' : ∀ since wake, p ≠ .spacing since wake) (hphase : s'.phase = s.set i p)
    (hsame : s'.now = s.now ∧ s'.lockLine = s.lockLine ∧ s'.holder = s.holder ∧ s'.lastStart = s.lastStart ∧
      s'.freeSince = s.freeSince) : t.Timely ε s' := by
  obtain ⟨hnow, hlock, hholder, hlast, hfree⟩ := hsame
  refine h.frame hvalid hnow.ge (by rw [hfree, hnow]; exact h.free) (fun j since wake hj => ?_) fun k j since hk hj => ⟨k, ?_, ?_, ?_⟩
  · rw [hphase] at hj
    exact phase_of_set hj (hp' since wake)
  · rw [← hlock]
    exact hk
  · rw [hphase] at hj
    exact phase_of_set hj (hp since)
  · refine Nat.add_le_add_right (due_congr hholder (fun l hl => ?_) hlast hfree).le _
    rw [hphase]
    exact h.valid.holder_kept hi l hl

/-- The holder of the lock gives it up, when it is woken at the latest. -/
theorem Timely.released {since wake : Nat} (h : t.Timely ε s) (hprompt : t.Prompt ε s) (hvalid : t.Valid s')
    (hspacing : s.phase i = .spacing since wake) (hp : ∀ since, p ≠ .permitted since) (hp' : ∀ since wake, p ≠ .spacing since wake)
    (hphase : s'.phase = s.set i p) (hsame : s'.now = s.now ∧ s'.lockLine = s.lockLine)
    (hgiven : s'.holder = none ∧ s'.freeSince = s.now) (hslot : t.slot s'.lastStart ≤ wake + ε + t.minInterval) :
    t.Timely ε s' := by
  obtain ⟨hnow, hlock⟩ := hsame
  obtain ⟨hholder, hfree⟩ := hgiven
  have hheld : t.due ε s = wake + ε + t.turn ε := due_held ((h.valid.holder i).mpr ⟨since, wake, hspacing⟩) hspacing
  have hwoken := hprompt.woken i since wake hspacing
  have hturn : t.turn ε = t.minInterval + 2 * ε := rfl
  refine h.frame hvalid hnow.ge (by rw [hfree, hnow]) (fun j since wake hj => ?_) fun k j since hk hj => ⟨k, ?_, ?_, ?_⟩
  · rw [hphase] at hj
    exact phase_of_set hj (hp' since wake)
  · rw [← hlock]
    exact hk
  · rw [hphase] at hj
    exact phase_of_set hj (hp since)
  · rw [due_free hholder, hheld, hfree]
    omega

/-- A caller that newly has a permit waits for those in front of it. -/
theorem Timely.entered (h : t.Timely ε s) (hfree : 0 < s.permits)
    (hdue : t.due ε s' = if s.lockLine = [] ∧ s.holder = none then max (s.now + ε) (t.slot s.lastStart) + ε else t.due ε s) :
    t.due ε s' + s.lockLine.length * t.turn ε ≤ s.now + t.capacity * t.turn ε := by
  have hslot := slot_le (t := t) h.valid.started
  have hlength := h.valid.length_lockLine
  have hturn : t.turn ε = t.minInterval + 2 * ε := rfl
  -- one turn for the due time, or two behind a holder, and one for each caller in front
  have hturns : ∀ n, n + s.lockLine.length ≤ t.capacity → t.due ε s' ≤ s.now + n * t.turn ε →
      t.due ε s' + s.lockLine.length * t.turn ε ≤ s.now + t.capacity * t.turn ε := by
    intro n hn hle
    have := Nat.mul_le_mul_right (t.turn ε) hn
    rw [Nat.add_mul] at this
    omega
  cases hholder : s.holder with
  | none =>
    rw [hholder, if_pos rfl] at hlength
    refine hturns 1 (by omega) ?_
    rw [hdue, Nat.one_mul]
    have := h.free
    split
    · omega
    · rw [due_free hholder]
      omega
  | some j =>
    obtain ⟨since, wake, hj⟩ := (h.valid.holder j).mp hholder
    rw [hholder, if_neg (by simp)] at hlength
    refine hturns 2 (by omega) ?_
    rw [hdue, if_neg (by simp [hholder]), due_held hholder hj]
    have := h.near j since wake hj
    omega

theorem Timely.step {e : Event ι} (h : t.Timely ε s) (hprompt : t.Prompt ε s) (hstep : t.step s e = some s') :
    t.Timely ε s' := by
  have hvalid := h.valid.step hstep
  have hturn : t.turn ε = t.minInterval + 2 * ε := rfl
  cases e with
  | tick d =>
    obtain rfl := Option.some.inj hstep
    exact h.frame hvalid (Nat.le_add_right ..) (h.free.trans (Nat.le_add_right ..)) (fun _ _ _ hj => hj)
      fun k j since hk hj => ⟨k, hk, hj, le_rfl⟩
  | call i =>
    obtain ⟨hidle, rfl⟩ := step_call hstep
    exact h.bystander (p := .queued) hvalid (by simp [hidle]) (by simp) (by simp) rfl ⟨rfl, rfl, rfl, rfl, rfl⟩
  | permit i =>
    obtain ⟨line, hline, hfree, hs'⟩ := step_permit hstep
    have hqueued : s.phase i = .queued := (h.valid.line i).mp (hline ▸ List.mem_cons_self)
    have hholder := h.valid.holder_kept (p := .permitted s.now) (i := i) (by simp [hqueued])
    have hdue : ¬ (s.lockLine = [] ∧ s.holder = none) → t.due ε s' = t.due ε s := fun hsome => by
      subst hs'
      exact due_congr rfl hholder rfl (if_neg hsome)
    subst hs'
    have hsleep : ∀ j since wake, s.set i (.permitted s.now) j = .spacing since wake → s.phase j = .spacing since wake :=
      fun j since wake hj => phase_of_set hj (by simp)
    refine { valid := hvalid, free := ?_, near := fun j since wake hj => h.near j since wake (hsleep j since wake hj),
             sleeping := fun j since wake hj => h.sleeping j since wake (hsleep j since wake hj), waiting := ?_ }
    · dsimp only
      split
      · exact le_rfl
      · exact h.free
    · intro k j since hk hj
      have hpos := ((hvalid.lockLine j).mp (List.mem_of_getElem? hk)).1
      dsimp only at hk
      rw [if_neg hpos] at hk
      by_cases hlast : k < s.lockLine.length
      · rw [List.getElem?_append_left hlast] at hk
        have hne : s.lockLine ≠ [] := fun hnil => by simp [hnil] at hlast
        rcases set_eq_iff.mp hj with ⟨rfl, -⟩ | ⟨-, hphase⟩
        · obtain ⟨-, since', hpermitted⟩ := (h.valid.lockLine j).mp (List.mem_of_getElem? hk)
          rw [hqueued] at hpermitted
          cases hpermitted
        · rw [hdue fun hnobody => hne hnobody.1]
          exact h.waiting k j since hk hphase
      · obtain ⟨rfl, rfl⟩ : k = s.lockLine.length ∧ j = i := by
          rw [List.getElem?_append_right (by omega), List.getElem?_singleton] at hk
          split at hk
          · exact ⟨by omega, (Option.some.inj hk).symm⟩
          · cases hk
        obtain rfl : s.now = since := by simpa using hj
        refine h.entered hfree ?_
        by_cases hnobody : s.lockLine = [] ∧ s.holder = none
        · rw [due_free (by exact hnobody.2), if_pos hnobody]
          dsimp only
          rw [if_pos hnobody]
        · exact (hdue hnobody).trans (if_neg hnobody).symm
  | lock i =>
    obtain ⟨since, lockLine, hphase, hlock, hfree, rfl⟩ := step_lock hstep
    have hserved := hprompt.served hfree (by simp [hlock])
    have hwake := wake_eq (t := t) h.valid.started
    have hdue := due_free (t := t) (ε := ε) hfree
    have hnew := due_held (t := t) (ε := ε)
      (s := { s with lockLine, holder := some i, phase := s.set i (.spacing since (t.wake s.now s.lastStart)) })
      rfl set_self
    have hslot := slot_le (t := t) h.valid.started
    have hfirst := h.waiting 0 i since (by simp [hlock]) hphase
    have hnodup := h.valid.lockLine_nodup
    rw [hlock, List.nodup_cons] at hnodup
    refine { valid := hvalid, free := h.free, near := ?_, sleeping := ?_, waiting := ?_ }
    · intro j since' wake' hj
      rcases set_eq_iff.mp hj with ⟨-, hpj⟩ | ⟨-, hspacing⟩
      · cases hpj
        dsimp only
        omega
      · exact h.near j since' wake' hspacing
    · intro j since' wake' hj
      rcases set_eq_iff.mp hj with ⟨-, hpj⟩ | ⟨-, hspacing⟩
      · cases hpj
        omega
      · exact h.sleeping j since' wake' hspacing
    · intro k j since' hk hj
      rcases set_eq_iff.mp hj with ⟨-, hpj⟩ | ⟨-, hpermitted⟩
      · cases hpj
      · have hle := h.waiting (k + 1) j since' (by rw [hlock]; exact hk) hpermitted
        rw [Nat.add_one_mul] at hle
        omega
  | start i time =>
    obtain ⟨-, ⟨hzero, ⟨since, hphase⟩, rfl⟩ | ⟨since, wake, hphase, hwake, rfl⟩⟩ := step_start hstep
    · exact h.bystander (p := .running) hvalid (by simp [hphase]) (by simp) (by simp) rfl ⟨rfl, rfl, rfl, rfl, rfl⟩
    · refine h.released (p := .running) hprompt hvalid hphase (by simp) (by simp) rfl ⟨rfl, rfl⟩ ⟨rfl, rfl⟩ ?_
      exact Nat.add_le_add_right (hprompt.woken i since wake hphase) _
  | finish i =>
    obtain ⟨hphase, rfl⟩ := step_finish hstep
    exact h.bystander (p := .idle) hvalid (by simp [hphase]) (by simp) (by simp) rfl ⟨rfl, rfl, rfl, rfl, rfl⟩
  | cancel i =>
    obtain ⟨hphase, rfl⟩ | ⟨since, hphase, hs'⟩ | ⟨since, wake, hphase, rfl⟩ := step_cancel hstep
    · exact h.bystander (p := .idle) hvalid (by simp [hphase]) (by simp) (by simp) rfl ⟨rfl, rfl, rfl, rfl, rfl⟩
    · have hholder := h.valid.holder_kept (p := .idle) (i := i) (by simp [hphase])
      have hdue : ¬ (s.lockLine.head? = some i ∧ s.holder = none) → t.due ε s' = t.due ε s := fun hother => by
        subst hs'
        exact due_congr rfl hholder rfl (if_neg hother)
      subst hs'
      refine h.frame hvalid le_rfl ?_ (fun j since' wake' hj => ?_) fun k j since' hk hj => ?_
      · dsimp only
        split
        · exact le_rfl
        · exact h.free
      · exact phase_of_set hj (by simp)
      · have hpermitted : s.phase j = .permitted since' := phase_of_set hj (by simp)
        by_cases hfirst : s.lockLine.head? = some i ∧ s.holder = none
        · -- the first in line leaves, and the next could have the lock from now on
          obtain ⟨rest, hrest⟩ := List.head?_eq_some_iff.mp hfirst.1
          dsimp only at hk
          rw [hrest, List.erase_cons_head] at hk
          have hserved := hprompt.served hfirst.2 (by simp [hrest])
          refine ⟨k + 1, by rw [hrest]; exact hk, hpermitted, ?_⟩
          rw [due_free hfirst.2, due_free (by exact hfirst.2), Nat.add_one_mul]
          dsimp only
          rw [if_pos hfirst]
          omega
        · obtain ⟨f, hf⟩ := List.sublist_iff_exists_orderEmbedding_getElem?_eq.mp (List.erase_sublist (a := i) (l := s.lockLine))
          refine ⟨f k, (hf k).symm.trans hk, hpermitted, ?_⟩
          rw [hdue hfirst]
          exact Nat.add_le_add_left (Nat.mul_le_mul_right _ f.strictMono.le_apply) _
    · refine h.released (p := .idle) hprompt hvalid hphase (by simp) (by simp) rfl ⟨rfl, rfl⟩ ⟨rfl, rfl⟩ ?_
      dsimp only
      cases hlast : s.lastStart with
      | none => exact Nat.zero_le _
      | some previous =>
        have hspaced : t.slot (some previous) ≤ wake := h.valid.spaced i since wake previous hphase hlast
        omega

theorem Timely.run {events : List (Event ι)} (h : t.system.init s)
    (hrun : (t.system.restrict fun u _ => t.Prompt ε u).Run s events s') : t.Timely ε s' := by
  refine hrun.keeps (fun _ _ _ hs hstep => hs.step hstep.2 hstep.1) ?_
  obtain ⟨-, -, -, hlock, -, hfree, hidle⟩ := id h
  exact { valid := .init h, free := hfree.le, near := by simp [hidle], sleeping := by simp [hidle], waiting := by simp [hlock] }

/-! ## The wait -/

/-- While the runtime is prompt, a caller that has its permit starts within one turn for each permit there is, however
many others come, and whoever is dropped. -/
theorem started_within {maxConcurrency minIntervalMs : UInt64} (hnew : new maxConcurrency minIntervalMs = some t)
    {events : List (Event ι)} (hinit : t.system.init s)
    (hrun : (t.system.restrict fun u _ => t.Prompt ε u).Run s events s') (hprompt : t.Prompt ε s') {since : Nat}
    (hi : s'.phase i = .permitted since ∨ ∃ wake, s'.phase i = .spacing since wake) :
    s'.now ≤ since + max maxConcurrency.toNat 1 * (minIntervalMs.toNat * 1000000 + 2 * ε) := by
  obtain ⟨hcapacity, hinterval⟩ := new_eq_some hnew
  have h := Timely.run hinit hrun
  rw [← hcapacity, ← hinterval]
  change s'.now ≤ since + t.capacity * t.turn ε
  rcases hi with hpermitted | ⟨wake, hspacing⟩
  · by_cases hzero : t.minInterval = 0
    · have hreturned := hprompt.returned hzero i since hpermitted
      have hle : t.turn ε ≤ t.capacity * t.turn ε := Nat.le_mul_of_pos_left _ (by omega)
      have hturn : t.turn ε = t.minInterval + 2 * ε := rfl
      omega
    · obtain ⟨k, hk⟩ := List.mem_iff_getElem?.mp ((h.valid.lockLine i).mpr ⟨hzero, since, hpermitted⟩)
      have hwait := h.waiting k i since hk hpermitted
      cases hholder : s'.holder with
      | none =>
        have hserved := hprompt.served hholder (List.ne_nil_of_mem (List.mem_of_getElem? hk))
        rw [due_free hholder] at hwait
        omega
      | some j =>
        obtain ⟨since', wake, hj⟩ := (h.valid.holder j).mp hholder
        have hwoken := hprompt.woken j since' wake hj
        rw [due_held hholder hj] at hwait
        omega
  · have hwoken := hprompt.woken i since wake hspacing
    have hsleeping := h.sleeping i since wake hspacing
    omega

/-! ## Three callers and two permits -/

/-- What promptness asks of one caller. -/
def Phase.InTime (t : Throttle) (ε now : Nat) : Phase → Prop
  | .permitted since => t.minInterval = 0 → now ≤ since + ε
  | .spacing _ wake => now ≤ wake + ε
  | _ => True

instance (t : Throttle) (ε now : Nat) (p : Phase) : Decidable (p.InTime t ε now) := by
  cases p <;> unfold Phase.InTime <;> infer_instance

omit [DecidableEq ι] in
theorem prompt_iff : t.Prompt ε s ↔ (∀ i, (s.phase i).InTime t ε s.now) ∧
    (s.holder = none → s.lockLine ≠ [] → s.now ≤ s.freeSince + ε) := by
  constructor
  · intro h
    refine ⟨fun i => ?_, h.served⟩
    cases hphase : s.phase i with
    | permitted since => exact fun hzero => h.returned hzero i since hphase
    | spacing since wake => exact h.woken i since wake hphase
    | _ => trivial
  · rintro ⟨hcallers, hserved⟩
    refine ⟨fun hzero i since hphase => ?_, hserved, fun i since wake hphase => ?_⟩
    · have hcaller := hcallers i
      rw [hphase] at hcaller
      exact hcaller hzero
    · have hcaller := hcallers i
      rwa [hphase] at hcaller

instance [Fintype ι] : Decidable (t.Prompt ε s) := decidable_of_iff _ prompt_iff.symm

/-- The second caller waits behind the first for its time; the third waits for the permit of the first, and then behind
the second. Whatever is due happens a millisecond late. -/
def threeCallers : List (Event (Fin 3)) :=
  [.call 0, .call 1, .call 2, .permit 0, .permit 1, .lock 0, .start 0 0, .tick 1000000, .lock 1, .tick 9000000, .finish 0,
    .permit 2, .tick 41000000, .start 1 51000000, .tick 1000000, .lock 2, .tick 50000000]

/-- The third caller got its permit at 10 ms; at 102 ms it is about to start, and 114 ms are the limit. -/
theorem started_within_third : ∃ s : State (Fin 3),
    ((system ⟨2, 50000000⟩).restrict fun u _ => Prompt ⟨2, 50000000⟩ 1000000 u).Run (fresh ⟨2, 50000000⟩) threeCallers s ∧
      s.phase 2 = .spacing 10000000 101000000 ∧ s.now = 102000000 ∧
      s.now ≤ 10000000 + 2 * (50000000 + 2 * 1000000) := by
  have hends : (threeCallers.foldlM (fun s e => if Prompt ⟨2, 50000000⟩ 1000000 s then step ⟨2, 50000000⟩ s e else none)
      (fresh ⟨2, 50000000⟩)).any (fun s => decide (Prompt ⟨2, 50000000⟩ 1000000 s) &&
        decide (s.phase 2 = .spacing 10000000 101000000) && decide (s.now = 102000000)) = true := by
    decide +kernel
  obtain ⟨s, hs, hend⟩ := (Option.any_eq_true ..).mp hends
  simp only [Bool.and_eq_true, decide_eq_true_eq] at hend
  obtain ⟨⟨hprompt, hphase⟩, hnow⟩ := hend
  have hnew : new 2 50 = some ⟨2, 50000000⟩ := by decide +kernel
  have hrun : ((system ⟨2, 50000000⟩).restrict fun u _ => Prompt ⟨2, 50000000⟩ 1000000 u).Run (fresh ⟨2, 50000000⟩)
      threeCallers s := by
    refine Lts.run_of_foldlM (fun u e u' hu => ?_) hs
    split at hu
    · next hu' => exact ⟨hu, hu'⟩
    · cases hu
  exact ⟨s, hrun, hphase, hnow, started_within hnew (fresh_init _) hrun hprompt (.inr ⟨_, hphase⟩)⟩

end
end Throttle
end RgbppIndexer
