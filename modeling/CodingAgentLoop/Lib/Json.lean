/-
JSON values as the Python standard library holds them.

A decoded JSON document is a tree of `None`, booleans, integers, finite floats,
strings, lists and dicts. A dict remembers the order its keys were inserted in,
which is why an object here is an association list and not a function: two
objects with the same members in another order are different trees that Python
nevertheless compares equal. Both comparisons are therefore here -- `=` on
`Json` (decidable), which sees the order, and `py_eq`, which is Python's `==`:
blind to the order of an object's keys and to the difference between `1`, `1.0`
and `True`.

`get` is `dict.get`, `merge` is `{**left, **right}`.

Floats are exact rationals: every finite binary float is one. The two zeros are
one value here, as they are for `==`.
-/
import Mathlib.Data.List.Sort
import Mathlib.Data.Rat.Init

namespace Lib

open List

/-- A JSON value in memory. `obj` keeps its members in insertion order. -/
inductive Json where
  | null
  | bool (b : Bool)
  | int (n : Int)
  | float (q : ℚ)
  | str (s : String)
  | arr (items : List Json)
  | obj (fields : List (String × Json))

abbrev JsonObject := List (String × Json)

namespace Json

instance : Inhabited Json := ⟨.null⟩

/-! ## Syntactic equality -/

mutual

def beq : Json → Json → Bool
  | .null, .null => true
  | .bool a, .bool b => a == b
  | .int a, .int b => a == b
  | .float a, .float b => a == b
  | .str a, .str b => a == b
  | .arr a, .arr b => beq_items a b
  | .obj a, .obj b => beq_fields a b
  | _, _ => false

/-- `beq` along two lists. -/
def beq_items : List Json → List Json → Bool
  | [], [] => true
  | a :: as, b :: bs => beq a b && beq_items as bs
  | _, _ => false

/-- `beq` along two member lists. -/
def beq_fields : List (String × Json) → List (String × Json) → Bool
  | [], [] => true
  | (k, a) :: as, (l, b) :: bs => k == l && beq a b && beq_fields as bs
  | _, _ => false

end

mutual

theorem beq_iff : ∀ a b : Json, beq a b = true ↔ a = b
  | .null, b => by cases b <;> simp [beq]
  | .bool a, b => by cases b <;> simp [beq]
  | .int a, b => by cases b <;> simp [beq]
  | .float a, b => by cases b <;> simp [beq]
  | .str a, b => by cases b <;> simp [beq]
  | .arr a, b => by
      cases b with
      | arr b => simp only [beq, beq_items_iff a b, Json.arr.injEq]
      | _ => simp [beq]
  | .obj a, b => by
      cases b with
      | obj b => simp only [beq, beq_fields_iff a b, Json.obj.injEq]
      | _ => simp [beq]

theorem beq_items_iff : ∀ as bs : List Json, beq_items as bs = true ↔ as = bs
  | [], bs => by cases bs <;> simp [beq_items]
  | a :: as, bs => by
      cases bs with
      | nil => simp [beq_items]
      | cons b bs => simp only [beq_items, Bool.and_eq_true, beq_iff a b, beq_items_iff as bs,
          List.cons.injEq]

theorem beq_fields_iff : ∀ as bs : List (String × Json), beq_fields as bs = true ↔ as = bs
  | [], bs => by cases bs <;> simp [beq_fields]
  | (k, a) :: as, bs => by
      cases bs with
      | nil => simp [beq_fields]
      | cons b bs =>
        obtain ⟨l, b⟩ := b
        simp only [beq_fields, Bool.and_eq_true, beq_iff_eq, beq_iff a b, beq_fields_iff as bs,
          List.cons.injEq, Prod.mk.injEq]

end

instance : DecidableEq Json := fun a b => decidable_of_iff _ (beq_iff a b)

/-! ## Python's `==` -/

/-- The number a scalar stands for in a comparison: `True` is `1`. -/
def number? : Json → Option ℚ
  | .bool b => some (if b then 1 else 0)
  | .int n => some n
  | .float q => some q
  | _ => none

mutual

/-- Python's `==` on decoded JSON. -/
def py_eq : Json → Json → Bool
  | .null, .null => true
  | .str a, .str b => a == b
  | .arr a, .arr b => py_eq_items a b
  | .obj a, .obj b => a.length == b.length && py_eq_fields a b
  | .bool a, b => b.number? == some (if a then 1 else 0)
  | .int a, b => b.number? == some (a : ℚ)
  | .float a, b => b.number? == some a
  | _, _ => false

def py_eq_items : List Json → List Json → Bool
  | [], [] => true
  | a :: as, b :: bs => py_eq a b && py_eq_items as bs
  | _, _ => false

/-- Every member on the left has an equal member under the same key on the right. -/
def py_eq_fields : List (String × Json) → List (String × Json) → Bool
  | [], _ => true
  | (k, a) :: as, bs =>
    (match bs.lookup k with
      | some b => py_eq a b
      | none => false) && py_eq_fields as bs

end

/-! ## Canonical form -/

mutual

/-- `json.dumps(..., sort_keys=True)` up to the rendering: the tree with the
members of every object in key order. -/
def canonical : Json → Json
  | .arr items => .arr (canonical_items items)
  | .obj fields => .obj ((canonical_fields fields).mergeSort (fun x y => decide (x.1 ≤ y.1)))
  | scalar => scalar

/-- `canonical` along a list. -/
def canonical_items : List Json → List Json
  | [] => []
  | a :: as => canonical a :: canonical_items as

/-- `canonical` along a member list. -/
def canonical_fields : List (String × Json) → List (String × Json)
  | [] => []
  | (k, a) :: as => (k, canonical a) :: canonical_fields as

end

/-! ## Views -/

/-- `isinstance(value, str)`. -/
def str? : Json → Option String
  | .str s => some s
  | _ => none

/-- `isinstance(value, Mapping)`. -/
def obj? : Json → Option JsonObject
  | .obj fields => some fields
  | _ => none

/-- `isinstance(value, (list, tuple))`. -/
def arr? : Json → Option (List Json)
  | .arr items => some items
  | _ => none

/-- `bool(value)`. -/
def truthy : Json → Bool
  | .null => false
  | .bool b => b
  | .int n => n ≠ 0
  | .float q => q ≠ 0
  | .str s => s ≠ ""
  | .arr items => items ≠ []
  | .obj fields => !fields.isEmpty

/-- `type(value).__name__`. -/
def type_name : Json → String
  | .null => "NoneType"
  | .bool _ => "bool"
  | .int _ => "int"
  | .float _ => "float"
  | .str _ => "str"
  | .arr _ => "list"
  | .obj _ => "dict"

def of_str? : Option String → Json
  | none => .null
  | some s => .str s

@[simp] theorem str?_str (s : String) : (Json.str s).str? = some s := rfl
@[simp] theorem obj?_obj (fields : JsonObject) : (Json.obj fields).obj? = some fields := rfl
@[simp] theorem arr?_arr (items : List Json) : (Json.arr items).arr? = some items := rfl

theorem obj?_eq_some {value : Json} {fields : JsonObject} :
    value.obj? = some fields ↔ value = .obj fields := by
  cases value <;> simp [obj?]

theorem str?_eq_some {value : Json} {s : String} : value.str? = some s ↔ value = .str s := by
  cases value <;> simp [str?]

end Json

/-! ## Objects -/

namespace JsonObject

section

variable (fields : JsonObject) (key : String)

/-- `fields.get(key)`, with `none` for an absent key. -/
def find : Option Json := fields.lookup key

/-- `fields.get(key)` as Python returns it: an absent key reads as `None`. -/
def get : Json := (fields.find key).getD .null

/-- `fields.get(key, default)`. -/
def get_or (default : Json) : Json :=
  (fields.find key).getD default

end

/-- `{**left, **right}`: a key of `left` keeps its place and takes the value of
`right` where `right` has one; the other keys of `right` follow in their order. -/
def merge (left right : JsonObject) : JsonObject :=
  left.map (fun field => (field.1, (right.find field.1).getD field.2))
    ++ right.filter (fun field => (left.find field.1).isNone)

/-- `fields[key] = value`. -/
def set (fields : JsonObject) (key : String) (value : Json) : JsonObject :=
  merge fields [(key, value)]

/-- `fields.pop(key, None)`. -/
def erase (fields : JsonObject) (key : String) : JsonObject :=
  fields.filter (fun field => field.1 ≠ key)

/-- Every field of `expected` reads the same in `fields`. -/
def agrees (fields expected : JsonObject) : Bool :=
  expected.all (fun field => (fields.get field.1).py_eq field.2)

@[simp] theorem find_nil (key : String) : find [] key = none := rfl

theorem find_cons (k : String) (v : Json) (rest : JsonObject) (key : String) :
    find ((k, v) :: rest) key = if key = k then some v else find rest key := by
  rw [find, lookup_cons]
  by_cases h : key = k
  · rw [if_pos h, beq_iff_eq.mpr h]
  · rw [if_neg h, beq_false_of_ne h]
    rfl

theorem mem_of_find {fields : JsonObject} {key : String} {value : Json}
    (h : find fields key = some value) : (key, value) ∈ fields := by
  induction fields with
  | nil => cases h
  | cons field rest ih =>
    obtain ⟨k, v⟩ := field
    rw [find_cons] at h
    split at h
    · next hkey =>
      cases h
      rw [hkey]
      exact mem_cons_self
    · exact mem_cons_of_mem _ (ih h)

section

variable (left right : JsonObject) (key : String)

private theorem find_map_replace :
    find (left.map (fun field => (field.1, (right.find field.1).getD field.2))) key
      = (find left key).map (fun v => (right.find key).getD v) := by
  induction left with
  | nil => rfl
  | cons field rest ih =>
    obtain ⟨k, v⟩ := field
    simp only [map_cons, find_cons, ih]
    split
    · next h => subst h; rfl
    · rfl

private theorem find_filter_absent (h : find left key = none) :
    find (right.filter (fun field => (left.find field.1).isNone)) key = find right key := by
  induction right with
  | nil => rfl
  | cons field rest ih =>
    obtain ⟨k, v⟩ := field
    by_cases hk : key = k
    · subst hk
      have hkeep : (find left key).isNone = true := by rw [h]; rfl
      rw [filter_cons_of_pos (by simpa using hkeep), find_cons, find_cons, if_pos rfl,
        if_pos rfl]
    · rw [find_cons, if_neg hk, ← ih]
      by_cases hkeep : (find left k).isNone
      · rw [filter_cons_of_pos (by simpa using hkeep), find_cons, if_neg hk]
      · rw [filter_cons_of_neg (by simpa using hkeep)]

@[simp] theorem find_merge :
    find (merge left right) key = (find right key).or (find left key) := by
  unfold merge
  rw [find, lookup_append]
  change (find _ key).or (find _ key) = _
  rw [find_map_replace]
  cases hleft : find left key with
  | none =>
    rw [find_filter_absent left right key hleft]
    simp
  | some v => cases hright : find right key <;> simp

end

@[simp] theorem find_set (fields : JsonObject) (k : String) (v : Json) (key : String) :
    find (set fields k v) key = if key = k then some v else find fields key := by
  unfold set
  rw [find_merge, find_cons]
  split <;> simp

@[simp] theorem find_erase (fields : JsonObject) (k key : String) :
    find (erase fields k) key = if key = k then none else find fields key := by
  induction fields with
  | nil => simp [erase]
  | cons field rest ih =>
    have herase : erase (field :: rest) k
        = if field.1 = k then erase rest k else field :: erase rest k := by
      simp only [erase, filter_cons, decide_not, Bool.not_eq_true', decide_eq_false_iff_not,
        ite_not]
    rw [herase, find_cons]
    by_cases hfield : field.1 = k
    · rw [if_pos hfield, ih, hfield]
      split <;> rfl
    · rw [if_neg hfield, find_cons, ih]
      by_cases hkey : key = field.1
      · rw [if_pos hkey, if_pos hkey, if_neg (by rw [hkey]; exact hfield)]
      · rw [if_neg hkey, if_neg hkey]

theorem get_eq_str {fields : JsonObject} {key text : String} :
    get fields key = .str text ↔ find fields key = some (.str text) := by
  unfold get
  cases find fields key <;> simp

theorem get_set_self (fields : JsonObject) (k : String) (v : Json) :
    get (set fields k v) k = v := by
  simp [get]

theorem get_set_of_ne (fields : JsonObject) {k key : String} (v : Json) (h : key ≠ k) :
    get (set fields k v) key = get fields key := by
  simp [get, h]

end JsonObject

end Lib
