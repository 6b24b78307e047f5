import Mathlib.Data.Nat.Count
import RgbppIndexer.Core.Keyset

/-!
# A reader that goes round

A reader takes one page after the cursor at a time, goes on behind the last
element of a full page, and starts over behind a page that is not full. The
list may lose elements between two pages, and gains none.

`turns` is how many pages such a reader takes before the page that has `x`. It
falls with every page that does not have `x` (`turns_step`), wherever the
cursor stands and however the list shrinks, and is at most
`(length - 1) / n + 1` (`turns_le`). So an element that stays is read within
that many pages (`read_within`).
-/
namespace RgbppIndexer.Core.Keyset

variable {α : Type*}

/-- Where the reader goes on behind a page. -/
def goOn (n : Nat) (rows : List α) : Option α := if rows.length < n then none else rows.getLast?

/-- What the reader takes before `x`, as long as it does not start over. -/
def ahead (le : α → α → Bool) (cursor : Option α) (x : α) (l : List α) : List α :=
  l.filter fun y => beyond le cursor y && !le x y

/-- How many pages the reader takes before the one that has `x`. -/
def turns (le : α → α → Bool) (n : Nat) (cursor : Option α) (x : α) (l : List α) : Nat :=
  if beyond le cursor x then (ahead le cursor x l).length / n
  else (l.filter (beyond le cursor)).length / n + 1 + (ahead le none x l).length / n

section
variable {le : α → α → Bool} {cursor : Option α} {n : Nat} {l l' : List α} {x y last : α}

theorem mem_ahead : y ∈ ahead le cursor x l ↔ y ∈ l ∧ beyond le cursor y = true ∧ ¬ le x y = true := by
  simp [ahead]

theorem turns_of_beyond (h : beyond le cursor x = true) : turns le n cursor x l = (ahead le cursor x l).length / n := if_pos h

theorem turns_of_behind (h : ¬ beyond le cursor x = true) :
    turns le n cursor x l = (l.filter (beyond le cursor)).length / n + 1 + (ahead le none x l).length / n := if_neg h

theorem length_filter_le_of_subset (hnodup : l'.Nodup) (hsub : ∀ y ∈ l', y ∈ l) (p : α → Bool) :
    (l'.filter p).length ≤ (l.filter p).length := by
  refine List.Subperm.length_le (List.subperm_of_subset (hnodup.filter _) fun y hy => ?_)
  obtain ⟨hy, hp⟩ := List.mem_filter.mp hy
  exact List.mem_filter.mpr ⟨hsub y hy, hp⟩

/-- With fewer elements in the list, the reader takes no more pages. -/
theorem turns_mono (hnodup : l'.Nodup) (hsub : ∀ y ∈ l', y ∈ l) : turns le n cursor x l' ≤ turns le n cursor x l := by
  unfold turns ahead
  have hlength := fun p => Nat.div_le_div_right (c := n) (length_filter_le_of_subset hnodup hsub p)
  split
  · exact hlength _
  · exact Nat.add_le_add (Nat.add_le_add_right (hlength _) 1) (hlength _)

/-- A part of the list and a page apart from it. -/
theorem length_add_page_le {part whole : List α} (hpart : part.Nodup) (hl : l.Nodup) (hpartsub : ∀ y ∈ part, y ∈ whole)
    (hpagesub : ∀ y ∈ page le cursor n l, y ∈ whole) (hapart : ∀ y ∈ page le cursor n l, y ∉ part) :
    part.length + (page le cursor n l).length ≤ whole.length := by
  have hpage : (page le cursor n l).Nodup := (hl.filter _).sublist (List.take_sublist _ _)
  have hboth : (part ++ page le cursor n l).Nodup :=
    List.nodup_append.mpr ⟨hpart, hpage, fun a ha b hb hab => hapart b hb (hab ▸ ha)⟩
  rw [← List.length_append]
  refine List.Subperm.length_le (List.subperm_of_subset hboth fun y hy => ?_)
  rcases List.mem_append.mp hy with hy | hy
  · exact hpartsub y hy
  · exact hpagesub y hy

theorem add_one_le_div {a b n : Nat} (hn : 0 < n) (h : a + n ≤ b) : a / n + 1 ≤ b / n := by
  rw [← Nat.add_div_right a hn]
  exact Nat.div_le_div_right h

/-- **Every page brings the reader closer** to an element it does not have. -/
theorem turns_step (hle : IsOrder le) (hn : 0 < n) (hsorted : l.Pairwise fun a b => le a b = true) (hl : l.Nodup)
    (hl' : l'.Nodup) (hsub : ∀ y ∈ l', y ∈ l) (hx : x ∈ l) (hnot : x ∉ page le cursor n l) :
    turns le n (goOn n (page le cursor n l)) x l' + 1 ≤ turns le n cursor x l := by
  have hshrinks := fun p => Nat.div_le_div_right (c := n) (length_filter_le_of_subset hl' hsub p)
  by_cases hshort : (page le cursor n l).length < n
  · -- the reader starts over, so `x` is behind it
    have hbehind : ¬ beyond le cursor x = true := fun hbeyond => hnot (mem_page_of_short hshort hx hbeyond)
    have hgo : goOn n (page le cursor n l) = none := if_pos hshort
    have hagain : turns le n none x l' ≤ (ahead le none x l).length / n := by
      rw [turns_of_beyond rfl]
      exact hshrinks _
    rw [hgo, turns_of_behind hbehind, Nat.add_right_comm]
    exact Nat.add_le_add_right (hagain.trans (Nat.le_add_left _ _)) 1
  · have hfull : (page le cursor n l).length = n := le_antisymm (List.length_take_le _ _) (not_lt.mp hshort)
    obtain ⟨last, hlast⟩ : ∃ last, (page le cursor n l).getLast? = some last := by
      refine Option.ne_none_iff_exists'.mp fun hnone => ?_
      rw [List.getLast?_eq_none_iff.mp hnone] at hfull
      exact absurd hfull.symm (Nat.pos_iff_ne_zero.mp hn)
    have hgo : goOn n (page le cursor n l) = some last := by rw [goOn, if_neg hshort, hlast]
    have hread : ∀ y ∈ page le cursor n l, le y last = true := fun y hy => by
      have := not_beyond_of_mem_page hle hsorted hlast hy
      simpa [beyond] using this
    have hlater : ∀ y, beyond le (some last) y = true → beyond le cursor y = true :=
      fun y hy => beyond_of_beyond_last hle hlast hy
    rw [hgo]
    by_cases hbeyond : beyond le cursor x = true
    · -- the page is full of elements before `x`
      have hbeyond' : beyond le (some last) x = true := (mem_page_or_beyond hle hsorted hlast hx hbeyond).resolve_left hnot
      have hless : (ahead le (some last) x l').length + (page le cursor n l).length ≤ (ahead le cursor x l).length := by
        refine length_add_page_le (hl'.filter _) hl (fun y hy => ?_) (fun y hy => ?_) fun y hy hmem => ?_
        · obtain ⟨hy, hylater, hbefore⟩ := mem_ahead.mp hy
          exact mem_ahead.mpr ⟨hsub y hy, hlater y hylater, hbefore⟩
        · obtain ⟨hmem, hybeyond⟩ := mem_of_mem_page hy
          exact mem_ahead.mpr ⟨hmem, hybeyond, fun hxy => beyond_some.mp hbeyond' (hle.trans _ _ _ hxy (hread y hy))⟩
        · exact beyond_some.mp (mem_ahead.mp hmem).2.1 (hread y hy)
      rw [turns_of_beyond hbeyond, turns_of_beyond hbeyond']
      exact add_one_le_div hn (hfull ▸ hless)
    · have hbehind : ¬ beyond le (some last) x = true := fun h => hbeyond (hlater x h)
      have hless : (l'.filter (beyond le (some last))).length + (page le cursor n l).length ≤
          (l.filter (beyond le cursor)).length := by
        refine length_add_page_le (hl'.filter _) hl (fun y hy => ?_) (fun y hy => ?_) fun y hy hmem => ?_
        · obtain ⟨hy, hylater⟩ := List.mem_filter.mp hy
          exact List.mem_filter.mpr ⟨hsub y hy, hlater y hylater⟩
        · exact List.mem_filter.mpr (mem_of_mem_page hy)
        · exact beyond_some.mp (List.mem_filter.mp hmem).2 (hread y hy)
      have hpages : (l'.filter (beyond le (some last))).length / n + 1 ≤ (l.filter (beyond le cursor)).length / n :=
        add_one_le_div hn (hfull ▸ hless)
      have hagain : (ahead le none x l').length / n ≤ (ahead le none x l).length / n := hshrinks _
      rw [turns_of_behind hbeyond, turns_of_behind hbehind]
      omega

/-- From any cursor, an element is at most one round away. -/
theorem turns_le (hle : IsOrder le) (hl : l.Nodup) (hx : x ∈ l) : turns le n cursor x l ≤ (l.length - 1) / n + 1 := by
  have hother : ∀ c, (ahead le c x l).length ≤ l.length - 1 := by
    intro c
    have hmem : x ∉ ahead le c x l := fun h => (mem_ahead.mp h).2.2 (hle.refl x)
    have hcons : (x :: ahead le c x l).length ≤ l.length := by
      refine List.Subperm.length_le (List.subperm_of_subset (List.nodup_cons.mpr ⟨hmem, hl.filter _⟩) fun y hy => ?_)
      rcases List.mem_cons.mp hy with rfl | hy
      · exact hx
      · exact (mem_ahead.mp hy).1
    rw [List.length_cons] at hcons
    omega
  by_cases hbeyond : beyond le cursor x = true
  · rw [turns_of_beyond hbeyond]
    exact (Nat.div_le_div_right (hother cursor)).trans (Nat.le_succ _)
  · -- what comes after the cursor and what comes before `x` are apart
    have hmem : x ∉ l.filter (beyond le cursor) := fun h => hbeyond (List.mem_filter.mp h).2
    have hapart : (x :: (l.filter (beyond le cursor) ++ ahead le none x l)).length ≤ l.length := by
      refine List.Subperm.length_le (List.subperm_of_subset (List.nodup_cons.mpr ⟨?_, ?_⟩) fun y hy => ?_)
      · rw [List.mem_append]
        rintro (h | h)
        · exact hmem h
        · exact (mem_ahead.mp h).2.2 (hle.refl x)
      · refine List.nodup_append.mpr ⟨hl.filter _, hl.filter _, fun y hy z hz hyz => ?_⟩
        subst hyz
        have hlater := (List.mem_filter.mp hy).2
        have hbefore : le y x = true := (hle.total x y).resolve_left (mem_ahead.mp hz).2.2
        cases cursor with
        | none => exact hbeyond rfl
        | some c =>
          rw [beyond_some, not_not] at hbeyond
          exact beyond_some.mp hlater (hle.trans _ _ _ hbefore hbeyond)
      · rcases List.mem_cons.mp hy with rfl | hy
        · exact hx
        · rcases List.mem_append.mp hy with hy | hy
          · exact (List.mem_filter.mp hy).1
          · exact (mem_ahead.mp hy).1
    rw [List.length_cons, List.length_append] at hapart
    have hsum : (l.filter (beyond le cursor)).length / n + (ahead le none x l).length / n ≤ (l.length - 1) / n :=
      Nat.div_add_div_le_add_div.trans (Nat.div_le_div_right (by omega))
    rw [turns_of_behind hbeyond]
    omega

end

/-! ## A run of the reader -/

/-- The cursor and the list at each step of a reader that takes a page at some steps, and only waits at the others. -/
structure GoesRound (le : α → α → Bool) (n : Nat) (reads : Nat → Prop) [DecidablePred reads] (cursor : Nat → Option α)
    (world : Nat → List α) : Prop where
  order : IsOrder le
  pos : 0 < n
  sorted : ∀ k, (world k).Pairwise fun a b => le a b = true
  nodup : ∀ k, (world k).Nodup
  shrinks : ∀ k, ∀ y ∈ world (k + 1), y ∈ world k
  next : ∀ k, cursor (k + 1) = if reads k then goOn n (page le (cursor k) n (world k)) else cursor k

section
variable {le : α → α → Bool} {n : Nat} {reads : Nat → Prop} [DecidablePred reads] {cursor : Nat → Option α}
  {world : Nat → List α} {x : α}

theorem GoesRound.mem_of_le (h : GoesRound le n reads cursor world) {i k : Nat} (hik : i ≤ k) (hx : x ∈ world k) :
    x ∈ world i := by
  induction k, hik using Nat.le_induction with
  | base => exact hx
  | succ k _ ih => exact ih (h.shrinks k x hx)

/-- **An element that stays is read** before the reader has taken more pages than it is away. -/
theorem GoesRound.read_of_turns (h : GoesRound le n reads cursor world) {d i : Nat}
    (hstays : ∀ k, i ≤ k → k < i + d → x ∈ world k)
    (hmany : turns le n (cursor i) x (world i) < Nat.count (fun k => reads (i + k)) d) :
    ∃ k, i ≤ k ∧ k < i + d ∧ reads k ∧ x ∈ page le (cursor k) n (world k) := by
  induction d generalizing i with
  | zero => exact absurd hmany (Nat.not_lt_zero _)
  | succ d ih =>
    have hnext := h.next i
    have hcount : Nat.count (fun k => reads (i + k)) (d + 1) =
        Nat.count (fun k => reads (i + 1 + k)) d + if reads i then 1 else 0 := by
      rw [Nat.count_succ']
      have hshift : (fun k => reads (i + (k + 1))) = fun k => reads (i + 1 + k) := by
        funext k
        rw [Nat.add_right_comm, Nat.add_assoc]
      simp only [Nat.add_zero, hshift]
    have hmem : x ∈ world i := hstays i le_rfl (by omega)
    have hlater : (∃ k, i + 1 ≤ k ∧ k < i + 1 + d ∧ reads k ∧ x ∈ page le (cursor k) n (world k)) →
        ∃ k, i ≤ k ∧ k < i + (d + 1) ∧ reads k ∧ x ∈ page le (cursor k) n (world k) :=
      fun ⟨k, hik, hkd, hread⟩ => ⟨k, by omega, by omega, hread⟩
    by_cases hreads : reads i
    · rw [if_pos hreads] at hnext hcount
      by_cases hpage : x ∈ page le (cursor i) n (world i)
      · exact ⟨i, le_rfl, by omega, hreads, hpage⟩
      · have hstep := turns_step h.order h.pos (h.sorted i) (h.nodup i) (h.nodup (i + 1)) (h.shrinks i) hmem hpage
        exact hlater (ih (fun k hik hkd => hstays k (by omega) (by omega)) (by rw [hnext]; omega))
    · rw [if_neg hreads] at hnext hcount
      have hstep : turns le n (cursor i) x (world (i + 1)) ≤ turns le n (cursor i) x (world i) :=
        turns_mono (h.nodup (i + 1)) (h.shrinks i)
      exact hlater (ih (fun k hik hkd => hstays k (by omega) (by omega)) (by rw [hnext]; omega))

/-- Within as many pages as a round has and one more, whatever the cursor. -/
theorem GoesRound.read_within (h : GoesRound le n reads cursor world) {d i : Nat}
    (hstays : ∀ k, i ≤ k → k < i + d → x ∈ world k)
    (hmany : ((world i).length - 1) / n + 2 ≤ Nat.count (fun k => reads (i + k)) d) :
    ∃ k, i ≤ k ∧ k < i + d ∧ reads k ∧ x ∈ page le (cursor k) n (world k) := by
  have hd : Nat.count (fun k => reads (i + k)) d ≤ d := Nat.count_le _
  refine h.read_of_turns hstays ?_
  have hpos : 0 < d := by
    have := Nat.zero_le (((world i).length - 1) / n)
    omega
  have hle : turns le n (cursor i) x (world i) ≤ ((world i).length - 1) / n + 1 :=
    turns_le h.order (h.nodup i) (hstays i le_rfl (by omega))
  omega

end

end RgbppIndexer.Core.Keyset
