import Mathlib.Data.List.Perm.Subperm
import Mathlib.Data.List.Sort

/-!
# Keyset pages

A sorted list is read in pages: the first `n` elements that come after a
cursor, and then the last of them is the next cursor. The list may be another
one at each page.

* `mem_page_or_beyond`: an element a page leaves out comes after its cursor.
* `not_beyond_of_mem_page`: what a page has, no later page has.
* `length_beyond_lt`: over one list, the pages come to an end.
* `follow_nodup`: the pages of many lists, each behind the last, have no element
  twice.
* `walk_sorted`, `walk_complete`, `walk_ends`: a reader who follows the cursors
  from page to page, over lists that grow at the front meanwhile.
* `collect_column`: a reader who counts the rows instead, over one list.
-/
namespace RgbppIndexer.Core.Keyset

variable {α : Type*}

/-- A total order. -/
structure IsOrder (le : α → α → Bool) : Prop where
  total : ∀ a b, le a b = true ∨ le b a = true
  trans : ∀ a b c, le a b = true → le b c = true → le a c = true
  antisymm : ∀ a b, le a b = true → le b a = true → a = b

theorem IsOrder.pairwise_insertionSort {le : α → α → Bool} (h : IsOrder le) (l : List α) :
    (l.insertionSort fun a b => le a b).Pairwise fun a b => le a b = true := by
  have : Std.Total fun a b : α => le a b = true := ⟨h.total⟩
  have : IsTrans α fun a b => le a b = true := ⟨h.trans⟩
  exact List.pairwise_insertionSort _ _

/-- Sorting by a column sorts the column. -/
theorem map_insertionSort {β : Type*} (le : α → α → Bool) (f : β → α) (l : List β) :
    (l.insertionSort fun a b => le (f a) (f b)).map f = (l.map f).insertionSort fun a b => le a b :=
  List.map_insertionSort (fun a b => (le (f a) (f b) : Prop)) (fun a b => (le a b : Prop)) f l fun _ _ _ _ => Iff.rfl

/-- Two sorted lists with the same elements are the same list. -/
theorem IsOrder.eq_of_perm {le : α → α → Bool} (h : IsOrder le) {l l' : List α}
    (hl : l.Pairwise fun a b => le a b = true) (hl' : l'.Pairwise fun a b => le a b = true) (hperm : l.Perm l') : l = l' :=
  hperm.eq_of_pairwise (fun a b _ _ => h.antisymm a b) hl hl'

/-- The greatest first. -/
theorem isOrder_descending [LE α] [DecidableLE α] [Std.IsLinearOrder α] : IsOrder fun a b : α => decide (b ≤ a) where
  total a b := (Std.le_total (a := b) (b := a)).imp decide_eq_true decide_eq_true
  trans _ _ _ hab hbc := decide_eq_true (Std.le_trans (of_decide_eq_true hbc) (of_decide_eq_true hab))
  antisymm _ _ hab hba := Std.le_antisymm (of_decide_eq_true hba) (of_decide_eq_true hab)

/-- The least first. -/
theorem isOrder_ascending [LE α] [DecidableLE α] [Std.IsLinearOrder α] : IsOrder fun a b : α => decide (a ≤ b) where
  total a b := (Std.le_total (a := a) (b := b)).imp decide_eq_true decide_eq_true
  trans _ _ _ hab hbc := decide_eq_true (Std.le_trans (of_decide_eq_true hab) (of_decide_eq_true hbc))
  antisymm _ _ hab hba := Std.le_antisymm (of_decide_eq_true hab) (of_decide_eq_true hba)

/-- As the comparison says. -/
theorem isOrder_compare [Ord α] [Std.TransOrd α] [Std.LawfulEqOrd α] : IsOrder fun a b : α => (compare a b).isLE where
  total a b := by
    by_cases hab : (compare a b).isLE = true
    · exact .inl hab
    · exact .inr (by rw [Std.OrientedCmp.lt_of_not_isLE hab]; rfl)
  trans a b c hab hbc := Std.TransCmp.isLE_trans hab hbc
  antisymm a b hab hba := Std.LawfulEqCmp.eq_of_compare (Std.OrientedCmp.isLE_antisymm hab hba)

/-- By one column, and where that one is equal by another. -/
def lex {β : Type*} (le : α → α → Bool) (le' : β → β → Bool) (a b : α × β) : Bool :=
  le a.1 b.1 && (!le b.1 a.1 || le' a.2 b.2)

theorem lex_iff {β : Type*} {le : α → α → Bool} {le' : β → β → Bool} {a b : α × β} :
    lex le le' a b = true ↔ le a.1 b.1 = true ∧ (le b.1 a.1 = true → le' a.2 b.2 = true) := by
  unfold lex
  cases le a.1 b.1 <;> cases le b.1 a.1 <;> simp

theorem IsOrder.lex {β : Type*} {le : α → α → Bool} {le' : β → β → Bool} (h : IsOrder le) (h' : IsOrder le') :
    IsOrder (lex le le') where
  total a b := by
    rw [lex_iff, lex_iff]
    by_cases hab : le a.1 b.1 = true
    · by_cases hba : le b.1 a.1 = true
      · exact (h'.total a.2 b.2).imp (fun hle => ⟨hab, fun _ => hle⟩) fun hle => ⟨hba, fun _ => hle⟩
      · exact .inl ⟨hab, fun hle => absurd hle hba⟩
    · exact .inr ⟨(h.total a.1 b.1).resolve_left hab, fun hle => absurd hle hab⟩
  trans a b c hab hbc := by
    rw [lex_iff] at hab hbc ⊢
    refine ⟨h.trans _ _ _ hab.1 hbc.1, fun hca => ?_⟩
    exact h'.trans _ _ _ (hab.2 (h.trans _ _ _ hbc.1 hca)) (hbc.2 (h.trans _ _ _ hca hab.1))
  antisymm a b hab hba := by
    rw [lex_iff] at hab hba
    exact Prod.ext (h.antisymm _ _ hab.1 hba.1) (h'.antisymm _ _ (hab.2 hba.1) (hba.2 hab.1))

/-- Whether the element comes after the cursor; without a cursor they all do. -/
def beyond (le : α → α → Bool) (cursor : Option α) (x : α) : Bool :=
  match cursor with
  | some c => !le x c
  | none => true

/-- The first `n` elements after the cursor. -/
def page (le : α → α → Bool) (cursor : Option α) (n : Nat) (l : List α) : List α := (l.filter (beyond le cursor)).take n

section
variable {le : α → α → Bool} {cursor : Option α} {n : Nat} {l : List α} {x last : α}

theorem beyond_some : beyond le (some last) x = true ↔ ¬ le x last = true := by
  simp [beyond]

theorem IsOrder.refl (h : IsOrder le) (a : α) : le a a = true := by
  rcases h.total a a with haa | haa
  · exact haa
  · exact haa

theorem mem_of_mem_page (h : x ∈ page le cursor n l) : x ∈ l ∧ beyond le cursor x = true :=
  List.mem_filter.mp (List.mem_of_mem_take h)

theorem page_eq_nil (hn : 0 < n) (h : page le cursor n l = []) (hx : x ∈ l) : beyond le cursor x = false := by
  unfold page at h
  rw [List.take_eq_nil_iff] at h
  have hnil := h.resolve_left (Nat.pos_iff_ne_zero.mp hn)
  rw [List.filter_eq_nil_iff] at hnil
  exact Bool.eq_false_iff.mpr (hnil x hx)

/-- The last element of a page comes after its cursor, and no element of the page after it. -/
theorem not_beyond_of_mem_page (hle : IsOrder le) (hsorted : l.Pairwise fun a b => le a b = true)
    (hlast : (page le cursor n l).getLast? = some last) (hx : x ∈ page le cursor n l) :
    beyond le (some last) x = false := by
  have hpage : (page le cursor n l).Pairwise fun a b => le a b = true :=
    hsorted.sublist ((List.take_sublist _ _).trans (List.filter_sublist ..))
  obtain ⟨before, hsplit⟩ := List.getLast?_eq_some_iff.mp hlast
  rw [hsplit] at hpage hx
  have hxlast : le x last = true := by
    rcases List.mem_append.mp hx with hx | hx
    · exact (List.pairwise_append.mp hpage).2.2 x hx last (by simp)
    · rw [List.mem_singleton.mp hx]
      exact hle.refl last
  simp [beyond, hxlast]

/-- What a page leaves out comes after its last element. -/
theorem mem_page_or_beyond (hle : IsOrder le) (hsorted : l.Pairwise fun a b => le a b = true)
    (hlast : (page le cursor n l).getLast? = some last) (hx : x ∈ l) (hbeyond : beyond le cursor x = true) :
    x ∈ page le cursor n l ∨ beyond le (some last) x = true := by
  have hmem : last ∈ page le cursor n l := List.mem_of_getLast? hlast
  have hfilter : x ∈ l.filter (beyond le cursor) := List.mem_filter.mpr ⟨hx, hbeyond⟩
  have hpair : (l.filter (beyond le cursor)).Pairwise fun a b => le a b = true := hsorted.sublist (List.filter_sublist ..)
  rw [← List.take_append_drop n (l.filter (beyond le cursor))] at hfilter hpair
  rcases List.mem_append.mp hfilter with htake | hdrop
  · exact .inl htake
  · have hlastx : le last x = true := (List.pairwise_append.mp hpair).2.2 last hmem x hdrop
    by_cases hxlast : le x last = true
    · rw [hle.antisymm x last hxlast hlastx]
      exact .inl hmem
    · exact .inr (beyond_some.mpr hxlast)

/-- What comes after the last element of a page comes after its cursor. -/
theorem beyond_of_beyond_last (hle : IsOrder le) (hlast : (page le cursor n l).getLast? = some last)
    (h : beyond le (some last) x = true) : beyond le cursor x = true := by
  have hmem := (mem_of_mem_page (List.mem_of_getLast? hlast)).2
  cases cursor with
  | none => rfl
  | some c =>
    rw [beyond_some] at h hmem ⊢
    intro hxc
    have hclast : le c last = true := (hle.total c last).resolve_right hmem
    exact h (hle.trans x c last hxc hclast)

/-- After a page there is less to come. -/
theorem length_beyond_lt_of_mem (hle : IsOrder le) (hmem : last ∈ l) (hbeyond : beyond le cursor last = true)
    (hlater : ∀ y, beyond le (some last) y = true → beyond le cursor y = true) :
    (l.filter (beyond le (some last))).length < (l.filter (beyond le cursor)).length := by
  have hsub : l.filter (beyond le (some last)) = (l.filter (beyond le cursor)).filter (beyond le (some last)) := by
    rw [List.filter_filter]
    refine List.filter_congr fun y _ => ?_
    by_cases hy : beyond le (some last) y = true
    · rw [hy, hlater y hy, Bool.and_true]
    · rw [Bool.eq_false_iff.mpr hy, Bool.false_and]
  rw [hsub, List.length_filter_lt_length_iff_exists]
  refine ⟨last, List.mem_filter.mpr ⟨hmem, hbeyond⟩, ?_⟩
  rw [beyond_some]
  exact not_not_intro (hle.refl last)

theorem length_beyond_lt (hle : IsOrder le) (hlast : (page le cursor n l).getLast? = some last) :
    (l.filter (beyond le (some last))).length < (l.filter (beyond le cursor)).length := by
  obtain ⟨hmem, hbeyond⟩ := mem_of_mem_page (List.mem_of_getLast? hlast)
  exact length_beyond_lt_of_mem hle hmem hbeyond fun _ h => beyond_of_beyond_last hle hlast h

theorem page_sorted (hsorted : l.Pairwise fun a b => le b a ≠ true) :
    (page le cursor n l).Pairwise fun a b => le b a ≠ true :=
  hsorted.sublist ((List.take_sublist _ _).trans (List.filter_sublist ..))

/-- A page that is not full has everything there is. -/
theorem mem_page_of_short (hshort : (page le cursor n l).length < n) (hx : x ∈ l) (hbeyond : beyond le cursor x = true) :
    x ∈ page le cursor n l := by
  unfold page at hshort ⊢
  rw [List.length_take] at hshort
  rw [List.take_of_length_le (by omega)]
  exact List.mem_filter.mpr ⟨hx, hbeyond⟩

end

/-! ## Following the cursors -/

/-- What the pages of the lists have between them, each page behind the last. -/
def follow (le : α → α → Bool) (n : Nat) : Option α → List (List α) → List α
  | _, [] => []
  | cursor, l :: ls => page le cursor n l ++ follow le n ((page le cursor n l).getLast? <|> cursor) ls

section
variable {le : α → α → Bool} {cursor : Option α} {n : Nat} {l : List α} {ls : List (List α)} {x : α}

/-- A page moves the cursor on, or is empty. -/
theorem beyond_of_beyond_next (hle : IsOrder le) (h : beyond le ((page le cursor n l).getLast? <|> cursor) x = true) :
    beyond le cursor x = true := by
  cases hlast : (page le cursor n l).getLast? with
  | none =>
    rw [hlast] at h
    exact h
  | some last =>
    rw [hlast] at h
    exact beyond_of_beyond_last hle hlast h

theorem beyond_of_mem_follow (hle : IsOrder le) (h : x ∈ follow le n cursor ls) : beyond le cursor x = true := by
  induction ls generalizing cursor with
  | nil => cases h
  | cons l ls ih =>
    rcases List.mem_append.mp h with hpage | hlater
    · exact (mem_of_mem_page hpage).2
    · exact beyond_of_beyond_next hle (ih hlater)

/-- No element is read twice, whatever the lists are. -/
theorem follow_nodup (hle : IsOrder le) (hsorted : ∀ l ∈ ls, l.Pairwise fun a b => le a b = true)
    (hnodup : ∀ l ∈ ls, l.Nodup) : (follow le n cursor ls).Nodup := by
  induction ls generalizing cursor with
  | nil => exact List.nodup_nil
  | cons l ls ih =>
    have hpage : (page le cursor n l).Nodup :=
      ((hnodup l List.mem_cons_self).filter _).sublist (List.take_sublist _ _)
    have hlater : (follow le n ((page le cursor n l).getLast? <|> cursor) ls).Nodup :=
      ih (fun l hl => hsorted l (List.mem_cons_of_mem _ hl)) fun l hl => hnodup l (List.mem_cons_of_mem _ hl)
    refine List.nodup_append.mpr ⟨hpage, hlater, fun a ha b hb hab => ?_⟩
    subst hab
    obtain ⟨last, hlast⟩ := Option.ne_none_iff_exists'.mp (mt List.getLast?_eq_none_iff.mp (List.ne_nil_of_mem ha))
    have hbehind := not_beyond_of_mem_page hle (hsorted l List.mem_cons_self) hlast ha
    have hbeyond := beyond_of_mem_follow hle hb
    rw [hlast] at hbeyond
    cases hbehind.symm.trans hbeyond

end

/-- The pages a reader collects who asks for `n` elements at a time, the `i`-th
time of the list `world i`, until a page is not full. -/
def walk (le : α → α → Bool) (n : Nat) (world : Nat → List α) : Nat → Nat → Option α → Option (List α)
  | 0, _, _ => none
  | fuel + 1, i, cursor =>
    let rows := page le cursor n (world i)
    if rows.length < n then some rows
    else
      match rows.getLast? with
      | none => some rows
      | some last => (walk le n world fuel (i + 1) (some last)).map (rows ++ ·)

section
variable {le : α → α → Bool} {n : Nat} {world : Nat → List α} {fuel i : Nat} {cursor : Option α} {out : List α}

/-- A walk ends with a page that is not full, or goes on behind the last element of its page. -/
theorem walk_succ (hn : 0 < n) (h : walk le n world (fuel + 1) i cursor = some out) :
    ((page le cursor n (world i)).length < n ∧ out = page le cursor n (world i)) ∨
      ∃ last rest, (page le cursor n (world i)).getLast? = some last ∧
        walk le n world fuel (i + 1) (some last) = some rest ∧ out = page le cursor n (world i) ++ rest := by
  rw [walk] at h
  by_cases hshort : (page le cursor n (world i)).length < n
  · rw [if_pos hshort] at h
    exact .inl ⟨hshort, (Option.some.inj h).symm⟩
  · rw [if_neg hshort] at h
    cases hlast : (page le cursor n (world i)).getLast? with
    | none =>
      rw [List.getLast?_eq_none_iff] at hlast
      rw [hlast] at hshort
      exact absurd hn hshort
    | some last =>
      rw [hlast] at h
      obtain ⟨rest, hrest, hout⟩ := Option.map_eq_some_iff.mp h
      exact .inr ⟨last, rest, rfl, hrest, hout.symm⟩

/-- What a walk collects comes after its cursor and is in one of its lists. -/
theorem mem_walk (hle : IsOrder le) (hn : 0 < n) (h : walk le n world fuel i cursor = some out) {x : α} (hx : x ∈ out) :
    beyond le cursor x = true ∧ ∃ j, i ≤ j ∧ x ∈ world j := by
  induction fuel generalizing i cursor out with
  | zero => cases h
  | succ fuel ih =>
    have hpage : ∀ y ∈ page le cursor n (world i), beyond le cursor y = true ∧ ∃ j, i ≤ j ∧ y ∈ world j := fun y hy =>
      ⟨(mem_of_mem_page hy).2, i, Nat.le_refl i, (mem_of_mem_page hy).1⟩
    rcases walk_succ hn h with ⟨-, rfl⟩ | ⟨last, rest, hlast, hrest, rfl⟩
    · exact hpage x hx
    · rcases List.mem_append.mp hx with hx | hx
      · exact hpage x hx
      · obtain ⟨hbeyond, j, hj, hmem⟩ := ih hrest hx
        exact ⟨beyond_of_beyond_last hle hlast hbeyond, j, by omega, hmem⟩

/-- A walk collects its elements in order, and none twice. -/
theorem walk_sorted (hle : IsOrder le) (hn : 0 < n) (hsorted : ∀ j, (world j).Pairwise fun a b => le b a ≠ true)
    (h : walk le n world fuel i cursor = some out) : out.Pairwise fun a b => le b a ≠ true := by
  induction fuel generalizing i cursor out with
  | zero => cases h
  | succ fuel ih =>
    rcases walk_succ hn h with ⟨-, rfl⟩ | ⟨last, rest, hlast, hrest, rfl⟩
    · exact page_sorted (hsorted i)
    · refine List.pairwise_append.mpr ⟨page_sorted (hsorted i), ih hrest, fun a ha b hb hba => ?_⟩
      have hweak : (world i).Pairwise fun a b => le a b = true :=
        (hsorted i).imp fun {a b} hab => (hle.total a b).resolve_right hab
      have halast := not_beyond_of_mem_page hle hweak hlast ha
      have hblast := (mem_walk hle hn hrest hb).1
      rw [beyond_some] at hblast
      simp only [beyond, Bool.not_eq_false'] at halast
      exact hblast (hle.trans b a last hba halast)

/-- An element that stays is collected. -/
theorem walk_complete (hle : IsOrder le) (hn : 0 < n) (hsorted : ∀ j, (world j).Pairwise fun a b => le b a ≠ true)
    {x : α} (hx : ∀ j, i ≤ j → x ∈ world j) (hbeyond : beyond le cursor x = true)
    (h : walk le n world fuel i cursor = some out) : x ∈ out := by
  induction fuel generalizing i cursor out with
  | zero => cases h
  | succ fuel ih =>
    rcases walk_succ hn h with ⟨hshort, rfl⟩ | ⟨last, rest, hlast, hrest, rfl⟩
    · exact mem_page_of_short hshort (hx i (Nat.le_refl i)) hbeyond
    · have hweak : (world i).Pairwise fun a b => le a b = true :=
        (hsorted i).imp fun {a b} hab => (hle.total a b).resolve_right hab
      rcases mem_page_or_beyond hle hweak hlast (hx i (Nat.le_refl i)) hbeyond with hpage | hlater
      · exact List.mem_append_left _ hpage
      · exact List.mem_append_right _ (ih (fun j hj => hx j (by omega)) hlater hrest)

/-- The lists the pages are read from are parts of lists that only grow in front of what they have. -/
structure Grows (le : α → α → Bool) (world whole : Nat → List α) : Prop where
  part : ∀ j, ∀ x ∈ world j, x ∈ whole j
  nodup : ∀ j, (whole j).Nodup
  front : ∀ j, ∀ x ∈ whole (j + 1), x ∈ whole j ∨ ∀ y ∈ whole j, le x y = true

/-- **A walk ends**: what lies behind its cursor gets less with each page, and nothing comes to lie there. -/
theorem walk_ends (hle : IsOrder le) {whole : Nat → List α} (hgrows : Grows le world whole)
    (hfuel : ((whole i).filter (beyond le cursor)).length < fuel) : ∃ out, walk le n world fuel i cursor = some out := by
  induction fuel generalizing i cursor with
  | zero => exact absurd hfuel (Nat.not_lt_zero _)
  | succ fuel ih =>
    rw [walk]
    by_cases hshort : (page le cursor n (world i)).length < n
    · exact ⟨_, if_pos hshort⟩
    · rw [if_neg hshort]
      cases hlast : (page le cursor n (world i)).getLast? with
      | none => exact ⟨_, rfl⟩
      | some last =>
        obtain ⟨hmem, hbeyond⟩ := mem_of_mem_page (List.mem_of_getLast? hlast)
        have hwhole := hgrows.part i last hmem
        have hless := length_beyond_lt_of_mem hle hwhole hbeyond fun _ h => beyond_of_beyond_last hle hlast h
        have hkept : ((whole (i + 1)).filter (beyond le (some last))).length ≤
            ((whole i).filter (beyond le (some last))).length := by
          refine List.Subperm.length_le (List.subperm_of_subset ((hgrows.nodup (i + 1)).filter _) fun x hx => ?_)
          obtain ⟨hx, hlater⟩ := List.mem_filter.mp hx
          rcases hgrows.front i x hx with hold | hfront
          · exact List.mem_filter.mpr ⟨hold, hlater⟩
          · rw [beyond_some] at hlater
            exact absurd (hfront last hwhole) hlater
        obtain ⟨rest, hrest⟩ : ∃ rest, walk le n world fuel (i + 1) (some last) = some rest := ih (by omega)
        exact ⟨page le cursor n (world i) ++ rest, by simp only [hrest, Option.map_some]⟩

end

/-! ## Pages by offset -/

/-- The rows a reader collects who asks for `n` of them at a time, each time behind
those there are already, until a page is not full. -/
def collect {ε : Type*} (page : Nat → Except ε (List α)) (n : Nat) : Nat → Nat → Option (List α)
  | 0, _ => none
  | fuel + 1, offset =>
    match page offset with
    | .error _ => none
    | .ok rows => if rows.length < n then some rows else (collect page n fuel (offset + n)).map (rows ++ ·)

/-- The pages put a column together again, whatever else differs between two readings of a row. -/
theorem collect_column {ε β : Type*} {page : Nat → Except ε (List α)} {n : Nat} {f : α → β} {column : List β} (hn : 0 < n)
    (hpage : ∀ offset, ∃ rows, page offset = .ok rows ∧ rows.map f = (column.drop offset).take n) {fuel offset : Nat}
    (hfuel : column.length - offset < fuel) :
    ∃ out, collect page n fuel offset = some out ∧ out.map f = column.drop offset := by
  induction fuel generalizing offset with
  | zero => exact absurd hfuel (Nat.not_lt_zero _)
  | succ fuel ih =>
    obtain ⟨rows, hrows, hcolumn⟩ := hpage offset
    have hlength : rows.length = min n (column.length - offset) := by
      rw [← List.length_map f, hcolumn, List.length_take, List.length_drop]
    simp only [collect, hrows]
    by_cases hshort : rows.length < n
    · rw [if_pos hshort]
      exact ⟨rows, rfl, by rw [hcolumn, List.take_of_length_le (by rw [List.length_drop]; omega)]⟩
    · rw [if_neg hshort]
      have hrest : column.length - (offset + n) < fuel := by omega
      obtain ⟨rest, hrest, hmap⟩ := ih hrest
      refine ⟨rows ++ rest, by rw [hrest, Option.map_some], ?_⟩
      rw [List.map_append, hcolumn, hmap, ← List.drop_drop, List.take_append_drop]

end RgbppIndexer.Core.Keyset
