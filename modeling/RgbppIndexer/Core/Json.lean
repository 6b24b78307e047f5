import RgbppIndexer.Core.Result

/-!
# JSON values, and what a derived reader takes from them

A `serde_json::Value`, and the readers `serde` derives: a text, an optional or
repeated value, a pair, a variant without data, a record. A record is read
from an object by name, where what is not asked for is passed over, or from
an array by position. `serde` says why a value cannot be read; a reader here
says only that it cannot.

* `record_of_field`: an object that has a field is read by name.
* `list_arr`, `pair_arr`, `variant_str`: what a sequence, a pair, a name reads back.
* `list_of_lists`, `optional_of_holds`: readers of what a body describes, whatever else the body has.
-/
namespace RgbppIndexer.Core

/-- A `serde_json::Value`; a number is an integer or the text of another one. -/
inductive Json where
  | null
  | bool (b : Bool)
  | int (i : Int)
  | real (text : String)
  | str (s : String)
  | arr (items : List Json)
  | obj (fields : List (String × Json))
  deriving Repr, Inhabited

namespace Json

variable {α β : Type}

/-- `Value::get(name)`. -/
def field? (name : String) : Json → Option Json
  | obj fields => fields.lookup name
  | _ => none

/-- `Value::as_str`. -/
def asStr : Json → Option String
  | str s => some s
  | _ => none

/-- `Value::as_i64`. -/
def asI64 : Json → Option Int
  | int i => if -9223372036854775808 ≤ i ∧ i < 9223372036854775808 then some i else none
  | _ => none

/-- `Value::is_null`. -/
def isNull : Json → Bool
  | null => true
  | _ => false

/-- An `Option<T>`. -/
def option (read : Json → Option α) : Json → Option (Option α)
  | null => some none
  | j => (read j).map some

/-- A `Vec<T>`. -/
def list (read : Json → Option α) : Json → Option (List α)
  | arr items => items.mapM read
  | _ => none

/-- A pair; an array of another length is refused. -/
def pair (readFst : Json → Option α) (readSnd : Json → Option β) : Json → Option (α × β)
  | arr [a, b] => do return (← readFst a, ← readSnd b)
  | _ => none

/-- A variant without data: its name, or an object of that name alone with `null` in it. -/
def variant (read : String → Option α) : Json → Option α
  | str name => read name
  | obj [(name, null)] => read name
  | _ => none

/-- A record of these fields, as the lookup of its fields. -/
def record (names : List String) : Json → Option (String → Option Json)
  | obj fields => some fun name => fields.lookup name
  | arr items => if items.length = names.length then some fun name => (names.zip items).lookup name else none
  | _ => none

/-- A field that has to be there. -/
def required (read : Json → Option α) (value : Option Json) : Option α := value >>= read

/-- A field that may be missing, or `null`. -/
def optional (read : Json → Option α) : Option Json → Option (Option α)
  | none => some none
  | some j => option read j

/-- A field that is written only if there is something to write. -/
def skipNone (name : String) : Option Json → List (String × Json)
  | none => []
  | some j => [(name, j)]

/-! ## Bodies -/

/-- The items of a list are described one by one. -/
def Lists (describes : Json → α → Prop) (as : List α) (value : Option Json) : Prop :=
  ∃ items, value = some (arr items) ∧ List.Forall₂ describes items as

/-- What is there is described, and what is not there is left out, or `null`. -/
def Holds (describes : Json → α → Prop) : Option α → Option Json → Prop
  | none, value => value = none ∨ value = some null
  | some a, value => ∃ j, value = some j ∧ describes j a

/-! ## Reading back -/

variable {read : Json → Option α} {j k : Json} {name : String} {names : List String}

theorem record_of_field (h : j.field? name = some k) : j.record names = some fun n => j.field? n := by
  cases j with
  | obj fields => rfl
  | _ => cases h

@[simp] theorem required_some : required read (some j) = read j := rfl

@[simp] theorem optional_some : optional read (some j) = option read j := rfl

@[simp] theorem option_null : option read null = some none := rfl

/-- What is read from something else than `null` is there. -/
theorem option_of {a : α} (hnull : read null = none) (h : read j = some a) : option read j = some (some a) := by
  cases j with
  | null =>
    rw [hnull] at h
    cases h
  | _ => exact congrArg (Option.map some) h

theorem list_arr {items : List Json} {as : List α} (h : List.Forall₂ (fun item a => read item = some a) items as) :
    list read (arr items) = some as := by
  show items.mapM read = some as
  induction h with
  | nil => rfl
  | cons hitem _ ih =>
    rw [List.mapM_cons, hitem, ih]
    rfl

theorem pair_arr {readSnd : Json → Option β} {a : α} {b : β} (ha : read j = some a) (hb : readSnd k = some b) :
    pair read readSnd (arr [j, k]) = some (a, b) := by
  unfold pair
  dsimp only
  rw [ha, hb]
  rfl

/-- A reader of what is described reads a list of it. -/
theorem list_of_lists {describes : Json → α → Prop} {as : List α} {value : Option Json}
    (hread : ∀ j a, describes j a → read j = some a) (h : Lists describes as value) : required (list read) value = some as := by
  obtain ⟨items, rfl, hitems⟩ := h
  exact list_arr (hitems.imp hread)

/-- And what may be missing. -/
theorem optional_of_holds {describes : Json → α → Prop} {a : Option α} {value : Option Json} (hnull : read null = none)
    (hread : ∀ j a, describes j a → read j = some a) (h : Holds describes a value) : optional read value = some a := by
  cases a with
  | none =>
    rcases h with rfl | rfl
    · rfl
    · rfl
  | some a =>
    obtain ⟨j, rfl, hj⟩ := h
    exact option_of hnull (hread j a hj)

theorem optional_of_written {write : α → Json} {a : Option α} {value : Option Json} (hnull : read null = none)
    (hread : ∀ a, read (write a) = some a) (h : Holds (fun j a => j = write a) a value) : optional read value = some a := by
  refine optional_of_holds hnull ?_ h
  rintro j a rfl
  exact hread a

/-- What is written if it is there is read back. -/
theorem optional_map {write : α → Json} (hnull : read null = none) (hread : ∀ a, read (write a) = some a) (a : Option α) :
    optional read (a.map write) = some a := by
  cases a with
  | none => rfl
  | some a => exact option_of hnull (hread a)

@[simp] theorem variant_str (readName : String → Option α) (s : String) : variant readName (str s) = readName s := rfl

end Json
end RgbppIndexer.Core
