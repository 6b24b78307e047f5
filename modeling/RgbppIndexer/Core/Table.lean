import Mathlib.Algebra.BigOperators.Group.List.Basic
import Mathlib.Data.List.Basic
import Mathlib.Data.List.Nodup
import Mathlib.Data.List.Sort
import Mathlib.Data.List.TakeWhile

/-!
# Keyed tables

A database table with a primary key: a list of keyed rows whose keys are
distinct, which is what the primary key constraint enforces. The
constraint is a field, so a table with two rows under one key cannot be
built and no later proof has to carry it.

The operations are the statement forms of SQL that act on a keyed table:
`upsert` (`INSERT … ON CONFLICT (key) DO UPDATE`), `mapRows` (`UPDATE`),
`filter` (`DELETE`, by the rows it keeps) and `select`. Each has one lookup
lemma, and everything else about a table is read off its lookups.
-/
namespace RgbppIndexer.Core

/-- Rows `ρ` under a primary key `κ`. -/
structure Table (κ ρ : Type*) where
  entries : List (κ × ρ)
  nodupKeys : (entries.map Prod.fst).Nodup

namespace Table

variable {κ ρ : Type*} [DecidableEq κ]

def empty : Table κ ρ := ⟨[], List.nodup_nil⟩

/-- The row under a key. -/
def get? (t : Table κ ρ) (k : κ) : Option ρ := (t.entries.find? fun e => e.1 = k).map Prod.snd

/-- The rows a `SELECT … WHERE p` returns, in storage order. -/
def select (t : Table κ ρ) (p : κ → ρ → Bool) : List (κ × ρ) := t.entries.filter fun e => p e.1 e.2

/-- `UPDATE`: every row is rewritten by `f`; the key is not an updated column. -/
def mapRows (t : Table κ ρ) (f : κ → ρ → ρ) : Table κ ρ where
  entries := t.entries.map fun e => (e.1, f e.1 e.2)
  nodupKeys := by simpa [Function.comp_def] using t.nodupKeys

/-- `DELETE` of the rows that do not satisfy `p`. -/
def filter (t : Table κ ρ) (p : κ → ρ → Bool) : Table κ ρ where
  entries := t.entries.filter fun e => p e.1 e.2
  nodupKeys := t.nodupKeys.sublist (List.filter_sublist.map _)

/-- `UPDATE … WHERE key = k`. -/
def update (t : Table κ ρ) (k : κ) (f : ρ → ρ) : Table κ ρ :=
  t.mapRows fun k' r => if k' = k then f r else r

/-- `DELETE … WHERE key = k`. -/
def erase (t : Table κ ρ) (k : κ) : Table κ ρ := t.filter fun k' _ => k' ≠ k

theorem get?_eq_some_iff (t : Table κ ρ) (k : κ) (r : ρ) : t.get? k = some r ↔ (k, r) ∈ t.entries := by
  obtain ⟨es, hn⟩ := t
  simp only [get?]
  induction es with
  | nil => simp
  | cons e es ih =>
    simp only [List.map_cons, List.nodup_cons, List.mem_map, not_exists, not_and] at hn
    by_cases he : e.1 = k
    · simp only [List.find?_cons, he, decide_true, Option.map_some, Option.some.injEq, List.mem_cons]
      constructor
      · rintro rfl; left; rw [← he]
      · rintro (h | h)
        · rw [← h]
        · exact absurd he.symm (hn.1 _ h)
    · simp only [List.find?_cons, he, decide_false, ih hn.2, List.mem_cons]
      constructor
      · exact Or.inr
      · rintro (h | h)
        · rw [← h] at he; exact absurd rfl he
        · exact h

theorem get?_eq_none_iff (t : Table κ ρ) (k : κ) : t.get? k = none ↔ k ∉ t.entries.map Prod.fst := by
  simp only [get?, Option.map_eq_none_iff, List.find?_eq_none, decide_eq_true_eq, List.mem_map, not_exists,
    not_and]

/-- `SELECT … WHERE key = k` -/
theorem filter_entries_key (t : Table κ ρ) (k : κ) :
    (t.entries.filter fun e => e.1 = k) = (t.get? k).toList.map fun r => (k, r) := by
  have hnodup : (t.entries.filter fun e => e.1 = k).Nodup := (List.Nodup.of_map _ t.nodupKeys).filter _
  have hkey : ∀ e ∈ t.entries.filter fun e => e.1 = k, e.1 = k := fun e he => by simpa using (List.mem_filter.mp he).2
  cases hrow : t.get? k with
  | none =>
    rw [Option.toList_none, List.map_nil, List.filter_eq_nil_iff]
    intro e he hk
    rw [get?_eq_none_iff] at hrow
    exact hrow (List.mem_map.mpr ⟨e, he, by simpa using hk⟩)
  | some r =>
    refine List.perm_singleton.mp ((List.perm_ext_iff_of_nodup hnodup (List.nodup_singleton _)).mpr fun e => ?_)
    rw [List.mem_singleton]
    constructor
    · intro he
      have hmem : t.get? e.1 = some e.2 := (t.get?_eq_some_iff e.1 e.2).mpr (List.mem_filter.mp he).1
      rw [hkey e he, hrow] at hmem
      exact Prod.ext (hkey e he) (Option.some.inj hmem).symm
    · rintro rfl
      exact List.mem_filter.mpr ⟨(t.get?_eq_some_iff k r).mp hrow, by simp⟩

/-- `INSERT … ON CONFLICT (key) DO UPDATE`: `f none` is the inserted row,
`f (some r)` the row a conflict with `r` leaves. -/
def upsert (t : Table κ ρ) (k : κ) (f : Option ρ → ρ) : Table κ ρ :=
  match h : t.get? k with
  | some r => t.update k fun _ => f (some r)
  | none =>
    ⟨t.entries ++ [(k, f none)], by
      rw [List.map_append, List.nodup_append]
      refine ⟨t.nodupKeys, by simp, ?_⟩
      rintro a ha _ hb rfl
      simp only [List.map_cons, List.map_nil, List.mem_singleton] at hb
      exact (t.get?_eq_none_iff k).mp h (hb ▸ ha)⟩

/-- `INSERT … ON CONFLICT (key) DO NOTHING`. -/
def insertIfAbsent (t : Table κ ρ) (k : κ) (r : ρ) : Table κ ρ := t.upsert k fun old => old.getD r

/-! ## Rows without an order

SQL leaves the order of rows open where no `ORDER BY` decides it. -/

end Table

/-- The order in which the rows of a statement come out. -/
structure RowOrder (α : Type*) where
  order : List α → List α
  perm : ∀ l, (order l).Perm l

namespace RowOrder

variable {α : Type*}

def storage : RowOrder α := ⟨id, fun l => List.Perm.refl l⟩

theorem mem_order (rows : RowOrder α) {l : List α} {a : α} : a ∈ rows.order l ↔ a ∈ l := (rows.perm l).mem_iff

/-- The order that happens to read `e` first. -/
def readFirst [DecidableEq α] (e : α) : RowOrder α where
  order l := if e ∈ l then e :: l.erase e else l
  perm l := by
    by_cases h : e ∈ l
    · rw [if_pos h]
      exact (List.perm_cons_erase h).symm
    · rw [if_neg h]

/-- `ORDER BY r LIMIT n` may return `e` and leave out `e'`, as soon as `e` comes no later than `e'`. -/
theorem exists_limit [DecidableEq α] {r : α → α → Prop} [DecidableRel r] {l : List α} {e e' : α} (h : e ∈ l)
    (hne : e ≠ e') (hle : r e e') : ∃ (rows : RowOrder α) (n : Nat), n ≤ l.length ∧
      e ∈ ((rows.order l).insertionSort r).take n ∧ e' ∉ ((rows.order l).insertionSort r).take n := by
  let earlier := ((l.erase e).insertionSort r).takeWhile fun b => ¬ r e b
  have hsorted : ((readFirst e).order l).insertionSort r =
      earlier ++ e :: ((l.erase e).insertionSort r).dropWhile fun b => ¬ r e b := by
    simp only [readFirst, if_pos h]
    exact List.insertionSort_cons_eq_take_drop ..
  have hlength : earlier.length + 1 ≤ l.length := by
    have hearlier : earlier.length ≤ ((l.erase e).insertionSort r).length := (List.takeWhile_sublist _).length_le
    have hsort : ((l.erase e).insertionSort r).length = (l.erase e).length := List.length_insertionSort ..
    have herase := List.length_erase_add_one h
    omega
  have htake : (((readFirst e).order l).insertionSort r).take (earlier.length + 1) = earlier ++ [e] := by
    rw [hsorted, List.take_length_add_append, List.take_succ_cons, List.take_zero]
  refine ⟨readFirst e, earlier.length + 1, hlength, ?_, ?_⟩
  · rw [htake]
    exact List.mem_append_right _ (List.mem_singleton.mpr rfl)
  · rw [htake, List.mem_append, List.mem_singleton]
    intro hmem
    rcases hmem with hmem | hmem
    · have hnot := List.mem_takeWhile_imp hmem
      simp only [decide_eq_true_eq] at hnot
      exact hnot hle
    · exact hne hmem.symm

end RowOrder

namespace Table

variable {κ ρ : Type*} [DecidableEq κ]

/-! ## Lookups -/

@[simp] theorem get?_empty (k : κ) : (empty : Table κ ρ).get? k = none := rfl

@[simp] theorem get?_mapRows (t : Table κ ρ) (f : κ → ρ → ρ) (k : κ) :
    (t.mapRows f).get? k = (t.get? k).map (f k) := by
  simp only [get?, mapRows, List.find?_map, Option.map_map]
  cases h : t.entries.find? ((fun e : κ × ρ => decide (e.1 = k)) ∘ fun e => (e.1, f e.1 e.2)) with
  | none =>
    have h' : t.entries.find? (fun e => decide (e.1 = k)) = none := h
    simp [h']
  | some e =>
    have h' : t.entries.find? (fun e => decide (e.1 = k)) = some e := h
    have hk : e.1 = k := by simpa using List.find?_some h'
    simp [h', hk]

@[simp] theorem get?_filter (t : Table κ ρ) (p : κ → ρ → Bool) (k : κ) :
    (t.filter p).get? k = (t.get? k).filter (p k) := by
  cases h : t.get? k with
  | none =>
    rw [Option.filter_none, get?_eq_none_iff]
    rw [get?_eq_none_iff] at h
    exact fun hm => h ((List.filter_sublist.map Prod.fst).subset hm)
  | some r =>
    have hr := (t.get?_eq_some_iff k r).mp h
    cases hp : p k r with
    | true =>
      rw [Option.filter_some, if_pos hp, get?_eq_some_iff]
      exact List.mem_filter.mpr ⟨hr, hp⟩
    | false =>
      rw [Option.filter_some, if_neg (by simp [hp]), get?_eq_none_iff]
      intro hm
      obtain ⟨⟨k', r'⟩, he, hk⟩ := List.mem_map.mp hm
      simp only at hk; subst hk
      obtain ⟨hmem, hp'⟩ := List.mem_filter.mp he
      have : some r = some r' := h ▸ ((t.get?_eq_some_iff _ r').mpr hmem)
      simp only [Option.some.injEq] at this; subst this
      simp [hp] at hp'

theorem get?_update (t : Table κ ρ) (k k' : κ) (f : ρ → ρ) :
    (t.update k f).get? k' = if k' = k then (t.get? k').map f else t.get? k' := by
  rw [update, get?_mapRows]
  split
  · simp
  · simp

/-- An update that changes no row. -/
theorem update_eq_self (t : Table κ ρ) (k : κ) {f : ρ → ρ} (h : ∀ r, f r = r) : t.update k f = t := by
  obtain ⟨entries, hnodup⟩ := t
  unfold update mapRows
  simp only [h, ite_self, Prod.mk.eta, List.map_id']

theorem get?_upsert (t : Table κ ρ) (k k' : κ) (f : Option ρ → ρ) :
    (t.upsert k f).get? k' = if k' = k then some (f (t.get? k)) else t.get? k' := by
  unfold upsert
  split
  · next r h =>
    rw [get?_update]
    by_cases hk : k' = k
    · subst hk; simp [h]
    · simp [hk]
  · next h =>
    by_cases hk : k' = k
    · subst hk
      rw [if_pos rfl, get?_eq_some_iff]
      simp [h]
    · rw [if_neg hk, get?, List.find?_append]
      have : ([(k, f none)] : List (κ × ρ)).find? (fun e => decide (e.1 = k')) = none := by
        simp [Ne.symm hk]
      rw [this, Option.or_none]; rfl

@[simp] theorem get?_upsert_self (t : Table κ ρ) (k : κ) (f : Option ρ → ρ) :
    (t.upsert k f).get? k = some (f (t.get? k)) := by rw [get?_upsert, if_pos rfl]

omit [DecidableEq κ] in
/-- Two updates of all rows, one after the other. -/
theorem mapRows_mapRows (t : Table κ ρ) (f g : κ → ρ → ρ) : (t.mapRows f).mapRows g = t.mapRows fun k r => g k (f k r) := by
  obtain ⟨entries, hnodup⟩ := t
  simp [mapRows]

/-- An update of all rows and one of a single row, where the two changes of it commute. -/
theorem mapRows_update (t : Table κ ρ) (k : κ) {f : κ → ρ → ρ} {g : ρ → ρ} (h : ∀ r, f k (g r) = g (f k r)) :
    (t.update k g).mapRows f = (t.mapRows f).update k g := by
  rw [update, update, mapRows_mapRows, mapRows_mapRows]
  congr 1
  funext k' r
  by_cases hk : k' = k
  · rw [if_pos hk, if_pos hk, hk, h]
  · rw [if_neg hk, if_neg hk]

theorem upsert_of_some {t : Table κ ρ} {k : κ} {r : ρ} (h : t.get? k = some r) (f : Option ρ → ρ) :
    t.upsert k f = t.update k fun _ => f (some r) := by
  unfold upsert
  split
  · next r' h' =>
    rw [h] at h'
    rw [Option.some.inj h']
  · next h' =>
    rw [h] at h'
    cases h'

theorem upsert_of_none {t : Table κ ρ} {k : κ} (h : t.get? k = none) (f : Option ρ → ρ) :
    (t.upsert k f).entries = t.entries ++ [(k, f none)] := by
  unfold upsert
  split
  · next r' h' =>
    rw [h] at h'
    cases h'
  · rfl

/-- An update of all rows after an upsert, and before the upsert that writes the updated row. -/
theorem mapRows_upsert (t : Table κ ρ) (k : κ) {f : κ → ρ → ρ} {g g' : Option ρ → ρ}
    (h : ∀ old, f k (g old) = g' (old.map (f k))) : (t.upsert k g).mapRows f = (t.mapRows f).upsert k g' := by
  have hrow : (t.mapRows f).get? k = (t.get? k).map (f k) := get?_mapRows t f k
  cases hget : t.get? k with
  | some r =>
    rw [hget, Option.map_some] at hrow
    rw [upsert_of_some hget, upsert_of_some hrow, update, update, mapRows_mapRows, mapRows_mapRows]
    congr 1
    funext k' r'
    by_cases hk : k' = k
    · rw [if_pos hk, if_pos hk, hk, h, Option.map_some]
    · rw [if_neg hk, if_neg hk]
  | none =>
    rw [hget, Option.map_none] at hrow
    have hentries : ((t.upsert k g).mapRows f).entries = ((t.mapRows f).upsert k g').entries := by
      rw [upsert_of_none hrow]
      show (t.upsert k g).entries.map (fun e => (e.1, f e.1 e.2)) = t.entries.map (fun e => (e.1, f e.1 e.2)) ++ [(k, g' none)]
      rw [upsert_of_none hget, List.map_append, List.map_singleton, h, Option.map_none]
    cases hleft : (t.upsert k g).mapRows f
    cases hright : (t.mapRows f).upsert k g'
    rw [hleft, hright] at hentries
    cases hentries
    rfl

/-- A multi-row upsert of distinct keys. -/
theorem get?_foldl_upsert (f : Option ρ → ρ) {ks : List κ} (hnodup : ks.Nodup) (t : Table κ ρ) (k : κ) :
    (ks.foldl (fun t k => t.upsert k f) t).get? k = if k ∈ ks then some (f (t.get? k)) else t.get? k := by
  induction ks generalizing t with
  | nil => simp
  | cons k' ks ih =>
    rw [List.nodup_cons] at hnodup
    rw [List.foldl_cons, ih hnodup.2, get?_upsert]
    by_cases hk : k = k'
    · subst hk
      simp [hnodup.1]
    · simp [hk]

/-- A map collected from a list of rows: of the rows with one key, the last one stays. -/
theorem get?_collect {α : Type*} (key : α → κ) (l : List α) (t : Table κ α) (k : κ) :
    (l.foldl (fun t a => t.upsert (key a) fun _ => a) t).get? k =
      ((l.filter fun a => key a = k).getLast?).or (t.get? k) := by
  induction l generalizing t with
  | nil => rfl
  | cons a l ih =>
    rw [List.foldl_cons, ih, get?_upsert, List.filter_cons]
    by_cases hk : k = key a
    · rw [if_pos hk, if_pos (by simp [hk]), List.getLast?_cons]
      cases (l.filter fun a => key a = k).getLast? <;> rfl
    · rw [if_neg hk, if_neg (by simp [Ne.symm hk])]

/-- Rows pushed into lists under their keys: under a key are its rows, in their order. -/
theorem get?_group {α : Type*} (key : α → κ) (l : List α) (t : Table κ (List α)) (k : κ) :
    ((l.foldl (fun t a => t.upsert (key a) fun old => old.getD [] ++ [a]) t).get? k).getD [] =
      (t.get? k).getD [] ++ l.filter fun a => key a = k := by
  induction l generalizing t with
  | nil => simp
  | cons a l ih =>
    rw [List.foldl_cons, ih, get?_upsert]
    by_cases hk : k = key a
    · rw [if_pos hk, List.filter_cons_of_pos (by simp [hk]), hk]
      simp
    · rw [if_neg hk, List.filter_cons_of_neg (by simp [Ne.symm hk])]

theorem get?_insertIfAbsent (t : Table κ ρ) (k k' : κ) (r : ρ) :
    (t.insertIfAbsent k r).get? k' = if k' = k then some ((t.get? k).getD r) else t.get? k' := by
  rw [insertIfAbsent, get?_upsert]

theorem get?_erase (t : Table κ ρ) (k k' : κ) :
    (t.erase k).get? k' = if k' = k then none else t.get? k' := by
  rw [erase, get?_filter]
  by_cases h : k' = k
  · rw [if_pos h]; cases t.get? k' <;> simp [h]
  · rw [if_neg h]; cases t.get? k' <;> simp [h]

theorem mem_select (t : Table κ ρ) (p : κ → ρ → Bool) (e : κ × ρ) :
    e ∈ t.select p ↔ t.get? e.1 = some e.2 ∧ p e.1 e.2 = true := by
  rw [select, List.mem_filter, get?_eq_some_iff]

omit [DecidableEq κ] in
/-- A key occurs in at most one selected row. -/
theorem select_keys_nodup (t : Table κ ρ) (p : κ → ρ → Bool) : ((t.select p).map Prod.fst).Nodup :=
  t.nodupKeys.sublist (List.filter_sublist.map _)

/-! ## Tables that only grow -/

/-- Every row of the first table is still under its key, as `R` relates it. -/
def Grows (R : ρ → ρ → Prop) (t t' : Table κ ρ) : Prop := ∀ k r, t.get? k = some r → ∃ r', t'.get? k = some r' ∧ R r r'

section
variable {R : ρ → ρ → Prop} {t t' t'' : Table κ ρ}

theorem Grows.refl (hR : ∀ r, R r r) (t : Table κ ρ) : t.Grows R t := fun _ r h => ⟨r, h, hR r⟩

theorem Grows.trans (hR : ∀ a b c, R a b → R b c → R a c) (h : t.Grows R t') (h' : t'.Grows R t'') : t.Grows R t'' := by
  intro k r hr
  obtain ⟨r', hr', hrel⟩ := h k r hr
  obtain ⟨r'', hr'', hrel'⟩ := h' k r' hr'
  exact ⟨r'', hr'', hR r r' r'' hrel hrel'⟩

theorem grows_mapRows (t : Table κ ρ) {f : κ → ρ → ρ} (hf : ∀ k r, R r (f k r)) : t.Grows R (t.mapRows f) := by
  intro k r hr
  rw [get?_mapRows, hr]
  exact ⟨f k r, rfl, hf k r⟩

theorem grows_update (hR : ∀ r, R r r) (t : Table κ ρ) (k : κ) {f : ρ → ρ} (hf : ∀ r, R r (f r)) : t.Grows R (t.update k f) := by
  refine grows_mapRows t fun k' r => ?_
  split
  · exact hf r
  · exact hR r

theorem grows_upsert (hR : ∀ r, R r r) (t : Table κ ρ) (k : κ) {f : Option ρ → ρ} (hf : ∀ r, R r (f (some r))) :
    t.Grows R (t.upsert k f) := by
  intro k' r hr
  rw [get?_upsert]
  by_cases hk : k' = k
  · rw [if_pos hk, ← hk, hr]
    exact ⟨f (some r), rfl, hf r⟩
  · rw [if_neg hk]
    exact ⟨r, hr, hR r⟩

/-- Statement by statement. -/
theorem grows_foldl {α : Type*} (hR : ∀ r, R r r) (hRR : ∀ a b c, R a b → R b c → R a c) {f : Table κ ρ → α → Table κ ρ}
    (hf : ∀ (t : Table κ ρ) a, t.Grows R (f t a)) (as : List α) (t : Table κ ρ) : t.Grows R (as.foldl f t) := by
  induction as generalizing t with
  | nil => exact .refl hR t
  | cons a as ih => exact (hf t a).trans hRR (ih (f t a))

end

end Table

/-- `GROUP BY`: every row is in one group, so what is summed up group by group is the sum over the rows. -/
theorem sum_groups {α κ μ : Type*} [DecidableEq κ] [AddCommMonoid μ] (group : α → κ) (weight : α → μ) {groups : List κ}
    (hnodup : groups.Nodup) (rows : List α) (hcovers : ∀ row ∈ rows, group row ∈ groups) :
    (groups.map fun g => ((rows.filter fun row => decide (group row = g)).map weight).sum).sum = (rows.map weight).sum := by
  induction rows with
  | nil => simp
  | cons row rows ih =>
    have hrest := ih fun r hr => hcovers r (List.mem_cons_of_mem _ hr)
    have hgroup : ∀ g, (((row :: rows).filter fun r => decide (group r = g)).map weight).sum =
        (if group row = g then weight row else 0) + ((rows.filter fun r => decide (group r = g)).map weight).sum := by
      intro g
      by_cases hg : group row = g
      · simp [hg]
      · simp [hg]
    have hone : (groups.map fun g => if group row = g then weight row else 0).sum = weight row := by
      rw [List.sum_map_eq_nsmul_single (group row) _ fun g hg _ => if_neg (Ne.symm hg), if_pos rfl,
        List.count_eq_one_of_mem hnodup (hcovers row List.mem_cons_self), one_nsmul]
    simp only [hgroup, List.sum_map_add]
    rw [hone, hrest, List.map_cons, List.sum_cons]

end RgbppIndexer.Core
