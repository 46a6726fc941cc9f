/-
What the keywords of a schema mean, and when the check of arguments agrees.

A value is valid when every part of it meets the keywords of the schema that stands for it. The check
looks at the same parts. It reads three keywords its own way: a float is no integer even when it has
no fraction, an item of `enum` is compared as Python compares, and a length that is bounded by a float
is not bounded.
-/
import CodingAgentLoop.SchemaCheck
import CodingAgentLoop.Lib.JsonEquality

namespace CodingAgentLoop.SchemaCheck

open Lib JsonObject List

/-! ## Supported schemas -/

def is_length (bound : Json) : Bool := bound.numeric.any (fun q => q.den = 1 && 0 ≤ q.num)

def TYPE_NAMES : List String :=
  ["string", "integer", "number", "boolean", "object", "array", "null"]

/-- The value of a keyword is of its kind. -/
def has_shape (keyword : String) (value : Json) : Bool :=
  match keyword, value with
  | "type", .str name => TYPE_NAMES.contains name
  | "type", .arr items => items.all (fun item => item.str?.any TYPE_NAMES.contains)
  | "enum", .arr _ => true
  | "minimum", bound => bound.numeric.isSome
  | "maximum", bound => bound.numeric.isSome
  | "minLength", bound => is_length bound
  | "maxLength", bound => is_length bound
  | "minItems", bound => is_length bound
  | "maxItems", bound => is_length bound
  | "properties", .obj properties => properties.all (·.2.obj?.isSome)
  | "required", .arr items => items.all (·.str?.isSome)
  | "additionalProperties", .bool allowed => !allowed
  | "items", .obj _ => true
  | _, _ => false

/-- The schema has the supported keywords only, and their values are of their kind. -/
def is_shaped (schema : JsonObject) : Bool := schema.all (fun field => has_shape field.1 field.2)

/-- The schema and the schemas in it use the supported keywords only. -/
inductive Supported : JsonObject → Prop
  | mk {schema : JsonObject} (shaped : is_shaped schema = true)
      (properties : ∀ properties name child, schema.find "properties" = some (.obj properties) →
        (name, .obj child) ∈ properties → Supported child)
      (items : ∀ child, schema.find "items" = some (.obj child) → Supported child) :
      Supported schema

/-- What the keywords of a schema tell of their values. -/
structure Shaped (schema : JsonObject) : Prop where
  type_names : ∀ value, schema.find "type" = some value →
    (∃ name ∈ TYPE_NAMES, value = .str name)
      ∨ ∃ names : List String, names ⊆ TYPE_NAMES ∧ value = .arr (names.map .str)
  enum : ∀ value, schema.find "enum" = some value → ∃ items, value = .arr items
  numbers : ∀ keyword ∈ ["minimum", "maximum", "minLength", "maxLength", "minItems", "maxItems"],
    ∀ value, schema.find keyword = some value → ∃ bound, value.numeric = some bound
  properties : ∀ value, schema.find "properties" = some value → ∃ properties, value = .obj properties
  required : ∀ value, schema.find "required" = some value →
    ∃ names : List String, value = .arr (names.map .str)
  items : ∀ value, schema.find "items" = some value → ∃ child, value = .obj child

theorem texts_of_all {items : List Json} (h : items.all (·.str?.isSome) = true) :
    ∃ names : List String, items = names.map .str ∧ ∀ name ∈ names, .str name ∈ items := by
  induction items with
  | nil => exact ⟨[], rfl, fun _ hmem => by cases hmem⟩
  | cons item rest ih =>
    rw [all_cons, Bool.and_eq_true, Option.isSome_iff_exists] at h
    obtain ⟨⟨name, hname⟩, hrest⟩ := h
    obtain ⟨names, rfl, -⟩ := ih hrest
    obtain rfl := Json.str?_eq_some.mp hname
    exact ⟨name :: names, rfl, fun other hmem => mem_map_of_mem (f := Json.str) hmem⟩

variable {schema : JsonObject}

theorem Supported.shaped (h : Supported schema) : Shaped schema := by
  have hfield {keyword : String} {value : Json} (hfind : schema.find keyword = some value) :
      has_shape keyword value = true := by
    cases h with
    | mk shaped _ _ => exact all_eq_true.mp shaped _ (mem_of_find hfind)
  refine ⟨fun value hfind => ?_, fun value hfind => ?_, fun keyword hkeyword value hfind => ?_,
    fun value hfind => ?_, fun value hfind => ?_, fun value hfind => ?_⟩
  · have hshape := hfield hfind
    cases value with
    | str name => exact .inl ⟨name, contains_iff_mem.mp hshape, rfl⟩
    | arr items =>
      have hnames : items.all (fun item => item.str?.any TYPE_NAMES.contains) = true := hshape
      obtain ⟨names, rfl, hmem⟩ := texts_of_all (all_eq_true.mpr (fun item hitem =>
        Option.isSome_of_any (all_eq_true.mp hnames item hitem)))
      exact .inr ⟨names, fun name hname =>
        contains_iff_mem.mp (all_eq_true.mp hnames _ (hmem name hname)), rfl⟩
    | _ => cases hshape
  · have hshape := hfield hfind
    cases value with
    | arr items => exact ⟨items, rfl⟩
    | _ => cases hshape
  · have hshape := hfield hfind
    have hsome : value.numeric.isSome = true := by
      simp only [mem_cons, not_mem_nil, or_false] at hkeyword
      rcases hkeyword with rfl | rfl | rfl | rfl | rfl | rfl
      · exact hshape
      · exact hshape
      all_goals exact Option.isSome_of_any hshape
    exact Option.isSome_iff_exists.mp hsome
  · have hshape := hfield hfind
    cases value with
    | obj properties => exact ⟨properties, rfl⟩
    | _ => cases hshape
  · have hshape := hfield hfind
    cases value with
    | arr items =>
      obtain ⟨names, rfl, -⟩ := texts_of_all hshape
      exact ⟨names, rfl⟩
    | _ => cases hshape
  · have hshape := hfield hfind
    cases value with
    | obj child => exact ⟨child, rfl⟩
    | _ => cases hshape

/-! ## The meaning of the keywords -/

def is_whole_float : Json → Bool
  | .float q => q.den = 1
  | _ => false

/-- The value is of the type of that name; an integer is a number without a fraction. -/
def of_type : Json → String → Bool
  | .str _, "string" => true
  | .int _, "integer" => true
  | .float q, "integer" => is_whole_float (.float q)
  | .int _, "number" => true
  | .float _, "number" => true
  | .bool _, "boolean" => true
  | .obj _, "object" => true
  | .arr _, "array" => true
  | .null, "null" => true
  | _, _ => false

def type_names : Json → List String
  | .str name => [name]
  | .arr items => items.filterMap Json.str?
  | _ => []

section Keywords

variable (value : Json) (schema : JsonObject)

def TypeMet : Prop :=
  ∀ expected, schema.find "type" = some expected → ∃ name ∈ type_names expected,
    of_type value name = true

/-- One of the items of `enum` is the value. -/
def EnumMet (equal : Json → Json → Bool) : Prop :=
  ∀ items, schema.find "enum" = some (.arr items) → ∃ item ∈ items, equal value item = true

/-- `minimum` and `maximum`. -/
def BoundsMet : Prop :=
  ∀ number, value.numeric = some number →
    (∀ bound, (schema.get "minimum").numeric = some bound → bound ≤ number)
      ∧ ∀ bound, (schema.get "maximum").numeric = some bound → number ≤ bound

/-- The length is within the bounds that count. -/
def Within (counts : Json → Bool) (low high : String) (length : Nat) : Prop :=
  (∀ bound, counts (schema.get low) = true → (schema.get low).numeric = some bound →
      bound ≤ (length : ℚ))
    ∧ ∀ bound, counts (schema.get high) = true → (schema.get high).numeric = some bound →
      (length : ℚ) ≤ bound

/-- `minLength` and `maxLength`, `minItems` and `maxItems`. -/
def LengthsMet (counts : Json → Bool) : Prop :=
  (∀ text, value = .str text → Within schema counts "minLength" "maxLength" text.length)
    ∧ ∀ items, value = .arr items → Within schema counts "minItems" "maxItems" items.length

/-- `required` and `additionalProperties`. -/
def KeysMet : Prop :=
  ∀ fields : JsonObject, value = .obj fields →
    (∀ names : List String, schema.find "required" = some (.arr (names.map .str)) →
        ∀ name ∈ names, (fields.find name).isSome = true)
      ∧ (schema.find "additionalProperties" = some (.bool false) →
        ∀ properties : JsonObject, schema.get_or "properties" (.obj []) = .obj properties →
          ∀ field ∈ fields, (properties.find field.1).isSome = true)

/-- The keywords that are about the value itself. -/
structure KeywordsMet : Prop where
  type_ : TypeMet value schema
  enum : EnumMet value schema Json.same
  bounds : BoundsMet value schema
  lengths : LengthsMet value schema (fun _ => true)
  keys : KeysMet value schema

end Keywords

/-- **A valid value** meets the keywords; its members are valid under `properties`, and its items
under `items`. -/
inductive Valid : Json → JsonObject → Prop
  | mk {value : Json} {schema : JsonObject} (met : KeywordsMet value schema)
      (members : ∀ fields properties name child member, value = .obj fields →
        schema.find "properties" = some (.obj properties) → (name, .obj child) ∈ properties →
          find fields name = some member → Valid member child)
      (items : ∀ items child item, value = .arr items → schema.find "items" = some (.obj child) →
        item ∈ items → Valid item child) :
      Valid value schema

/-! ## Parts -/

inductive Part : Json → JsonObject → Json → JsonObject → Prop
  | whole {value : Json} {schema : JsonObject} : Part value schema value schema
  | member {fields schema properties child part_schema : JsonObject} {name : String}
      {member part : Json} (declared : schema.find "properties" = some (.obj properties))
      (property : (name, .obj child) ∈ properties) (found : find fields name = some member)
      (rest : Part member child part part_schema) : Part (.obj fields) schema part part_schema
  | item {items : List Json} {schema child part_schema : JsonObject} {item part : Json}
      (declared : schema.find "items" = some (.obj child)) (mem : item ∈ items)
      (rest : Part item child part part_schema) : Part (.arr items) schema part part_schema

variable {value : Json}

theorem Part.sub (hsupported : Supported schema) {part : Json} {part_schema : JsonObject}
    (h : Part value schema part part_schema) :
    Supported part_schema := by
  induction h with
  | whole => exact hsupported
  | member declared property _ _ ih =>
    cases hsupported with
    | mk _ properties _ => exact ih (properties _ _ _ declared property)
  | item declared _ _ ih =>
    cases hsupported with
    | mk _ _ items => exact ih (items _ declared)

theorem valid_iff : Valid value schema
    ↔ ∀ part part_schema, Part value schema part part_schema → KeywordsMet part part_schema := by
  constructor
  · intro h part part_schema hpart
    induction hpart with
    | whole =>
      cases h with
      | mk met _ _ => exact met
    | member declared property found _ ih =>
      cases h with
      | mk _ members _ => exact ih (members _ _ _ _ _ rfl declared property found)
    | item declared mem _ ih =>
      cases h with
      | mk _ _ items => exact ih (items _ _ _ rfl declared mem)
  · induction value using Json.of_parts generalizing schema with
    | step value hmembers hitems =>
      intro h
      refine .mk (h value schema .whole) ?_ ?_
      · intro fields properties name child member hvalue hdeclared hproperty hfound
        refine hmembers fields (name, member) hvalue (mem_of_find hfound)
          (fun part part_schema hpart => ?_)
        subst hvalue
        exact h part part_schema (.member hdeclared hproperty hfound hpart)
      · intro items child item hvalue hdeclared hmem
        refine hitems items item hvalue hmem (fun part part_schema hpart => ?_)
        subst hvalue
        exact h part part_schema (.item hdeclared hmem hpart)

/-! ## What the check looks at -/

/-- A float without a fraction stands where `type` admits integers and not numbers. -/
def FloatForInteger (value : Json) (schema : JsonObject) : Prop :=
  is_whole_float value = true ∧ ∃ expected, schema.find "type" = some expected
    ∧ "integer" ∈ type_names expected ∧ "number" ∉ type_names expected

def is_int : Json → Bool
  | .int _ => true
  | _ => false

def is_float : Json → Bool
  | .float _ => true
  | _ => false

/-- The keywords that the check reads as they are meant. -/
structure PlainMet (value : Json) (schema : JsonObject) : Prop where
  type_ : TypeMet value schema
  bounds : BoundsMet value schema
  lengths : LengthsMet value schema is_int
  keys : KeysMet value schema

/-- What the check demands of a part. -/
structure Checked (value : Json) (schema : JsonObject) : Prop where
  plain : PlainMet value schema
  integer : ¬ FloatForInteger value schema
  enum : EnumMet value schema Json.py_eq

section Keywords

variable {value : Json} {schema : JsonObject}

theorem find_of_get {key : String} {value : Json} (hvalue : value ≠ .null)
    (h : schema.get key = value) : schema.find key = some value := by
  unfold JsonObject.get at h
  cases hfind : schema.find key with
  | none =>
    rw [hfind] at h
    exact absurd h.symm hvalue
  | some found =>
    rw [hfind] at h
    rw [← h]
    rfl

theorem get_of_find {key : String} {value : Json} (h : schema.find key = some value) :
    schema.get key = value := by
  unfold JsonObject.get
  rw [h]
  rfl

theorem matches_any_iff (value : Json) (items : List Json) :
    matches_any_type value items = true ↔ ∃ item ∈ items, matches_json_type value item = true := by
  induction items with
  | nil => simp [matches_any_type]
  | cons item rest ih => simp [matches_any_type, ih]

theorem has_type_iff {name : String} (hname : name ∈ TYPE_NAMES) :
    has_type value name = true
      ↔ of_type value name = true ∧ ¬ (is_whole_float value = true ∧ name = "integer") := by
  simp only [TYPE_NAMES, mem_cons, not_mem_nil, or_false] at hname
  rcases hname with rfl | rfl | rfl | rfl | rfl | rfl | rfl <;> cases value <;>
    simp [has_type, of_type, is_whole_float]

theorem type_names_of_texts (names : List String) :
    type_names (.arr (names.map .str)) = names := by
  show (names.map Json.str).filterMap Json.str? = names
  rw [filterMap_map]
  exact filterMap_some

theorem matches_iff (hshaped : Shaped schema) {expected : Json}
    (htype : schema.find "type" = some expected) :
    type_names expected ⊆ TYPE_NAMES ∧ (matches_json_type value expected = true
      ↔ ∃ name ∈ type_names expected, has_type value name = true) := by
  rcases hshaped.type_names expected htype with ⟨name, hname, rfl⟩ | ⟨names, hnames, rfl⟩
  · refine ⟨cons_subset.mpr ⟨hname, nil_subset _⟩, ?_⟩
    simp [matches_json_type, type_names]
  · rw [type_names_of_texts]
    refine ⟨hnames, ?_⟩
    unfold matches_json_type
    rw [matches_any_iff]
    simp [matches_json_type]

theorem type_check_iff (hshaped : Shaped schema) :
    matches_json_type value (schema.get "type") = true
      ↔ TypeMet value schema ∧ ¬ FloatForInteger value schema := by
  cases htype : schema.find "type" with
  | none =>
    have hget : schema.get "type" = .null := by
      unfold JsonObject.get
      rw [htype]
      rfl
    rw [hget]
    refine ⟨fun _ => ⟨fun expected h => ?_, ?_⟩, fun _ => rfl⟩
    · rw [htype] at h
      cases h
    · rintro ⟨-, expected, h, -⟩
      rw [htype] at h
      cases h
  | some expected =>
    obtain ⟨hnames, hiff⟩ := @matches_iff value schema hshaped expected htype
    rw [get_of_find htype, hiff]
    constructor
    · rintro ⟨name, hmem, hhas⟩
      obtain ⟨hof, hplain⟩ := (has_type_iff (hnames hmem)).mp hhas
      refine ⟨fun other h => ?_, ?_⟩
      · rw [htype] at h
        obtain rfl := Option.some.inj h
        exact ⟨name, hmem, hof⟩
      · rintro ⟨hwhole, other, h, hinteger, hnumber⟩
        rw [htype] at h
        obtain rfl := Option.some.inj h
        -- a float has no type but these two
        have hname : name = "integer" ∨ name = "number" := by
          cases value with
          | float q =>
            unfold of_type at hof
            split at hof <;> simp_all
          | _ => cases hwhole
        rcases hname with rfl | rfl
        · exact hplain ⟨hwhole, rfl⟩
        · exact hnumber hmem
    · rintro ⟨htypes, hfloat⟩
      obtain ⟨name, hmem, hof⟩ := htypes expected htype
      by_cases hcase : is_whole_float value = true ∧ name = "integer"
      · obtain ⟨hwhole, rfl⟩ := hcase
        have hnumber : "number" ∈ type_names expected := by
          by_contra hnumber
          exact hfloat ⟨hwhole, expected, htype, hmem, hnumber⟩
        refine ⟨"number", hnumber, ?_⟩
        cases value with
        | float q => rfl
        | _ => cases hwhole
      · exact ⟨name, hmem, (has_type_iff (hnames hmem)).mpr ⟨hof, hcase⟩⟩

theorem enum_met_iff {items : List Json} {equal : Json → Json → Bool}
    (henum : schema.find "enum" = some (.arr items)) :
    EnumMet value schema equal ↔ items.any (fun item => equal value item) = true := by
  unfold EnumMet
  rw [henum, any_eq_true]
  constructor
  · intro h
    exact h items rfl
  · intro h other heq
    cases heq
    exact h

theorem check_type_iff (str : Json → String) (hshaped : Shaped schema) (path : List String) :
    check_type str value schema path = none
      ↔ (TypeMet value schema ∧ ¬ FloatForInteger value schema)
        ∧ EnumMet value schema Json.py_eq := by
  rw [← type_check_iff hshaped]
  unfold check_type
  cases matches_json_type value (schema.get "type") with
  | false => simp
  | true =>
    rw [Bool.not_true, if_neg Bool.false_ne_true]
    cases henum : schema.find "enum" with
    | none =>
      have hget : schema.get "enum" = .null := by
        unfold JsonObject.get
        rw [henum]
        rfl
      rw [hget]
      refine ⟨fun _ => ⟨rfl, fun items h => ?_⟩, fun _ => rfl⟩
      rw [henum] at h
      cases h
    | some found =>
      obtain ⟨items, rfl⟩ := hshaped.enum found henum
      rw [get_of_find henum, enum_met_iff henum]
      dsimp only
      cases items.any (fun item => value.py_eq item) with
      | true => simp
      | false => simp

variable {path : List String} {keyword : String}

theorem check_bound_iff (str : Json → String) {misses : ℚ → Bool} {problem : String} :
    check_bound str schema keyword misses path problem = none
      ↔ ∀ bound, (schema.get keyword).number? = some bound → misses bound = false := by
  unfold check_bound
  cases hbound : (schema.get keyword).number? with
  | none => simp
  | some bound =>
    cases hmisses : misses bound with
    | true => simp [hmisses]
    | false => simp [hmisses]

theorem number_of_shape
    (hshape : ∀ value, schema.find keyword = some value → ∃ bound, value.numeric = some bound) :
    (schema.get keyword).number? = (schema.get keyword).numeric := by
  cases hfind : schema.find keyword with
  | none =>
    unfold JsonObject.get
    rw [hfind]
    rfl
  | some found =>
    obtain ⟨bound, hbound⟩ := hshape found hfind
    rw [get_of_find hfind, hbound]
    exact Json.number_of_numeric hbound

section

variable (str : Json → String)

theorem check_length_iff {misses : ℚ → Bool} {problem : String}
    (hshape : ∀ value, schema.find keyword = some value → ∃ bound, value.numeric = some bound) :
    check_length str schema keyword misses path problem = none
      ↔ ∀ bound, is_int (schema.get keyword) = true → (schema.get keyword).numeric = some bound →
        misses bound = false := by
  have hnumber := number_of_shape hshape
  unfold check_length
  split
  · next q hget =>
    rw [hget]
    refine ⟨fun _ bound h => ?_, fun _ => rfl⟩
    cases h
  · next hfloat =>
    rw [check_bound_iff, hnumber]
    refine ⟨fun h bound _ => h bound, fun h bound hbound => h bound ?_ hbound⟩
    cases hget : schema.get keyword with
    | int n => rfl
    | float q => exact absurd hget (hfloat q)
    | _ =>
      rw [hget] at hbound
      cases hbound

theorem within_check_iff {low high : String} {problem other_problem : String} {length : Nat}
    (hlow : ∀ value, schema.find low = some value → ∃ bound, value.numeric = some bound)
    (hhigh : ∀ value, schema.find high = some value → ∃ bound, value.numeric = some bound) :
    (check_length str schema low (fun bound => (length : ℚ) < bound) path problem).or
        (check_length str schema high (fun bound => bound < (length : ℚ)) path other_problem) = none
      ↔ Within schema is_int low high length := by
  rw [Option.or_eq_none_iff, check_length_iff str hlow, check_length_iff str hhigh]
  unfold Within
  simp only [decide_eq_false_iff_not, Rat.not_lt]

theorem bounds_check_iff (hshaped : Shaped schema) {number : ℚ} {problem other_problem : String} :
    (check_bound str schema "minimum" (fun bound => number < bound) path problem).or
        (check_bound str schema "maximum" (fun bound => bound < number) path other_problem) = none
      ↔ (∀ bound, (schema.get "minimum").numeric = some bound → bound ≤ number)
        ∧ ∀ bound, (schema.get "maximum").numeric = some bound → number ≤ bound := by
  rw [Option.or_eq_none_iff, check_bound_iff, check_bound_iff,
    number_of_shape (hshaped.numbers "minimum" (by decide)),
    number_of_shape (hshaped.numbers "maximum" (by decide))]
  simp only [decide_eq_false_iff_not, Rat.not_lt]

theorem scalar_check_iff (hshaped : Shaped schema) (path : List String) :
    check_scalar str value schema path = none
      ↔ BoundsMet value schema
        ∧ ∀ text, value = .str text → Within schema is_int "minLength" "maxLength" text.length := by
  unfold BoundsMet
  cases value with
  | int n =>
    unfold check_scalar
    rw [bounds_check_iff str hshaped]
    refine ⟨fun h => ⟨fun number hnumber => ?_, fun text htext => by cases htext⟩,
      fun h => h.1 _ rfl⟩
    cases hnumber
    exact h
  | float q =>
    unfold check_scalar
    rw [bounds_check_iff str hshaped]
    refine ⟨fun h => ⟨fun number hnumber => ?_, fun text htext => by cases htext⟩,
      fun h => h.1 _ rfl⟩
    cases hnumber
    exact h
  | str text =>
    unfold check_scalar
    rw [within_check_iff str (hshaped.numbers _ (by decide)) (hshaped.numbers _ (by decide))]
    refine ⟨fun h => ⟨fun number hnumber => ?_, fun other hother => ?_⟩, fun h => h.2 _ rfl⟩
    · cases hnumber
    · cases hother
      exact h
  | _ =>
    refine ⟨fun _ => ⟨fun number hnumber => ?_, fun text htext => ?_⟩, fun _ => rfl⟩
    · cases hnumber
    · cases htext

end

/-! ### Keys -/

theorem additional_check_iff {fields properties : JsonObject} (path : List String) :
    (if schema.get "additionalProperties" = .bool false then
        (((fields.map Prod.fst).filter
          (fun name => (properties.find name).isNone)).mergeSort (· ≤ ·)).head?.map
            (fun name => "unexpected argument: " ++ format_path (path ++ [name]))
      else none) = none
      ↔ (schema.find "additionalProperties" = some (.bool false) →
          ∀ field ∈ fields, (properties.find field.1).isSome = true) := by
  have hfalse : schema.get "additionalProperties" = .bool false
      ↔ schema.find "additionalProperties" = some (.bool false) :=
    ⟨find_of_get (by simp), get_of_find⟩
  split
  · next hadditional =>
    rw [hfalse] at hadditional
    rw [Option.map_eq_none_iff, List.head?_eq_none_iff, ← length_eq_zero_iff,
      length_mergeSort, length_eq_zero_iff, filter_eq_nil_iff]
    simp [hadditional, Option.isNone_iff_eq_none, Option.isSome_iff_ne_none]
  · next hadditional =>
    rw [hfalse] at hadditional
    simp [hadditional]

theorem keys_met_iff {fields properties : JsonObject}
    (hproperties : schema.get_or "properties" (.obj []) = .obj properties) :
    KeysMet (.obj fields) schema
      ↔ (∀ names : List String, schema.find "required" = some (.arr (names.map .str)) →
          ∀ name ∈ names, (fields.find name).isSome = true)
        ∧ (schema.find "additionalProperties" = some (.bool false) →
          ∀ field ∈ fields, (properties.find field.1).isSome = true) := by
  unfold KeysMet
  constructor
  · intro h
    obtain ⟨hrequired, hadditional⟩ := h fields rfl
    exact ⟨hrequired, fun hfalse => hadditional hfalse properties hproperties⟩
  · rintro ⟨hrequired, hadditional⟩ other heq
    cases heq
    refine ⟨hrequired, fun hfalse others hothers => ?_⟩
    rw [hproperties] at hothers
    cases hothers
    exact hadditional hfalse

theorem keys_check_iff (hshaped : Shaped schema) {fields properties : JsonObject}
    (hproperties : schema.get_or "properties" (.obj []) = .obj properties) (path : List String) :
    check_keys fields properties schema path = none ↔ KeysMet (.obj fields) schema := by
  rw [keys_met_iff hproperties, ← @additional_check_iff schema fields properties path]
  unfold check_keys get_or
  cases hrequired : schema.find "required" with
  | none =>
    rw [Option.getD_none]
    dsimp only [filterMap_nil, List.find?_nil]
    refine ⟨fun h => ⟨fun names heq => ?_, h⟩, fun h => h.2⟩
    cases heq
  | some found =>
    obtain ⟨names, rfl⟩ := hshaped.required found hrequired
    have htexts (names : List String) : (names.map Json.str).filterMap Json.str? = names :=
      type_names_of_texts names
    have hnames : (∀ other : List String, some (Json.arr (names.map .str))
        = some (.arr (other.map .str)) → ∀ name ∈ other, (fields.find name).isSome = true)
          ↔ ∀ name ∈ names, (fields.find name).isSome = true := by
      refine ⟨fun h => h names rfl, fun h other heq => ?_⟩
      have hsame : names = other := by
        rw [← htexts names, Json.arr.inj (Option.some.inj heq), htexts other]
      rwa [← hsame]
    rw [Option.getD_some, hnames]
    dsimp only
    rw [htexts]
    cases hmissing : names.find? (fun name => (fields.find name).isNone) with
    | none =>
      rw [List.find?_eq_none] at hmissing
      refine ⟨fun h => ⟨fun name hmem => ?_, h⟩, fun h => h.2⟩
      have hfound := hmissing name hmem
      rwa [Bool.not_eq_true, Option.isNone_eq_false_iff] at hfound
    | some name =>
      refine ⟨fun h => (by cases h), fun h => ?_⟩
      have hfound := h.1 name (List.mem_of_find?_eq_some hmissing)
      have hnone := List.find?_some hmissing
      rw [Option.isNone_iff_eq_none] at hnone
      rw [hnone] at hfound
      cases hfound

end Keywords

/-! ## The parts that are checked -/

variable (str : Json → String)

theorem lookup_member_checks (fields : List (String × Json)) (name : String) :
    (member_checks str fields).lookup name
      = (find fields name).map (validate_schema_value str) := by
  induction fields with
  | nil => rfl
  | cons field rest ih =>
    obtain ⟨key, value⟩ := field
    rw [member_checks, lookup_cons, find_cons, ih]
    by_cases h : name = key
    · rw [if_pos h, beq_iff_eq.mpr h]
      rfl
    · rw [if_neg h, beq_false_of_ne h]

theorem properties_check_iff (fields : JsonObject) (path : List String)
    (properties : List (String × Json)) :
    check_properties (member_checks str fields) path properties = none
      ↔ ∀ name child, (name, .obj child) ∈ properties → ∀ member, fields.find name = some member →
        validate_schema_value str member child (path ++ [name]) = none := by
  induction properties with
  | nil => simp [check_properties]
  | cons property rest ih =>
    obtain ⟨key, value⟩ := property
    cases value with
    | obj child_schema =>
      unfold check_properties
      rw [lookup_member_checks]
      cases hfound : fields.find key with
      | none =>
        rw [Option.map_none]
        dsimp only
        rw [ih]
        refine ⟨fun h name child hmem member hmember => ?_,
          fun h name child hmem => h name child (mem_cons_of_mem _ hmem)⟩
        rcases mem_cons.mp hmem with heq | hrest
        · cases heq
          rw [hfound] at hmember
          cases hmember
        · exact h name child hrest member hmember
      | some found =>
        rw [Option.map_some]
        dsimp only
        rw [Option.or_eq_none_iff, ih]
        constructor
        · rintro ⟨hfirst, h⟩ name child hmem member hmember
          rcases mem_cons.mp hmem with heq | hrest
          · cases heq
            rw [hfound] at hmember
            cases hmember
            exact hfirst
          · exact h name child hrest member hmember
        · intro h
          exact ⟨h key child_schema mem_cons_self found hfound,
            fun name child hmem => h name child (mem_cons_of_mem _ hmem)⟩
    | _ =>
      unfold check_properties
      rw [ih]
      refine ⟨fun h name child hmem member hmember => ?_,
        fun h name child hmem => h name child (mem_cons_of_mem _ hmem)⟩
      rcases mem_cons.mp hmem with heq | hrest
      · cases heq
      · exact h name child hrest member hmember

theorem items_check_iff (items_schema : JsonObject) (path : List String) (items : List Json) :
    ∀ index, check_items items_schema path index (item_checks str items) = none
      ↔ ∀ position item, items[position]? = some item →
        validate_schema_value str item items_schema (path ++ [toString (index + position)]) = none := by
  induction items with
  | nil => simp [item_checks, check_items]
  | cons item rest ih =>
    intro index
    unfold item_checks check_items
    rw [Option.or_eq_none_iff, ih]
    constructor
    · rintro ⟨hfirst, h⟩ position other hother
      cases position with
      | zero =>
        cases hother
        exact hfirst
      | succ position =>
        have hrest := h position other hother
        rwa [Nat.add_assoc, Nat.add_comm 1 position] at hrest
    · intro h
      refine ⟨h 0 item rfl, fun position other hother => ?_⟩
      have hrest := h (position + 1) other hother
      rwa [Nat.add_assoc, Nat.add_comm 1 position]

theorem checked_iff : Checked value schema
    ↔ ((TypeMet value schema ∧ ¬ FloatForInteger value schema) ∧ EnumMet value schema Json.py_eq)
      ∧ BoundsMet value schema ∧ LengthsMet value schema is_int ∧ KeysMet value schema :=
  ⟨fun h => ⟨⟨⟨h.plain.type_, h.integer⟩, h.enum⟩, h.plain.bounds, h.plain.lengths, h.plain.keys⟩,
    fun h => ⟨⟨h.1.1.1, h.2.1, h.2.2.1, h.2.2.2⟩, h.1.1.2, h.1.2⟩⟩

theorem validate_object {schema properties : JsonObject} (fields : JsonObject) (path : List String)
    (hproperties : schema.get_or "properties" (.obj []) = .obj properties) :
    validate_schema_value str (.obj fields) schema path
      = ((check_type str (.obj fields) schema path).or (check_scalar str (.obj fields) schema path)).or
        ((check_keys fields properties schema path).or
          (check_properties (member_checks str fields) path properties)) := by
  unfold validate_schema_value
  rw [hproperties]

/-- The check of the items of an array, when there is a schema for them. -/
def check_array (items : List Json) (schema : JsonObject) (path : List String) : Option String :=
  match schema.get "items" with
  | .obj items_schema => check_items items_schema path 0 (item_checks str items)
  | _ => none

theorem validate_array (items : List Json) (path : List String) :
    validate_schema_value str (.arr items) schema path
      = ((check_type str (.arr items) schema path).or (check_scalar str (.arr items) schema path)).or
        ((check_items_length str items schema path).or (check_array str items schema path)) := by
  unfold validate_schema_value check_array
  rfl

theorem validate_scalar (path : List String) (hobject : ∀ fields, value ≠ .obj fields)
    (harray : ∀ items, value ≠ .arr items) :
    validate_schema_value str value schema path
      = (check_type str value schema path).or (check_scalar str value schema path) := by
  unfold validate_schema_value
  cases value with
  | obj fields => exact absurd rfl (hobject fields)
  | arr items => exact absurd rfl (harray items)
  | _ => exact Option.or_none

theorem properties_of_shape (hshaped : Shaped schema) :
    ∃ properties : JsonObject, schema.get_or "properties" (.obj []) = .obj properties
      ∧ ∀ (other : JsonObject) (name : String) (child : JsonObject),
        (schema.find "properties" = some (.obj other) ∧ (name, .obj child) ∈ other
          ↔ other = properties ∧ schema.find "properties" = some (.obj properties)
            ∧ (name, .obj child) ∈ properties) := by
  unfold get_or
  cases hfound : schema.find "properties" with
  | none =>
    refine ⟨[], rfl, fun other name child => ⟨?_, ?_⟩⟩
    · rintro ⟨h, -⟩
      cases h
    · rintro ⟨-, h, -⟩
      cases h
  | some value =>
    obtain ⟨properties, rfl⟩ := hshaped.properties value hfound
    refine ⟨properties, rfl, fun other name child => ⟨?_, ?_⟩⟩
    · rintro ⟨h, hmem⟩
      cases h
      exact ⟨rfl, rfl, hmem⟩
    · rintro ⟨rfl, -, hmem⟩
      exact ⟨rfl, hmem⟩

theorem object_check_iff (hsupported : Supported schema) (fields : JsonObject)
    (path : List String) : validate_schema_value str (.obj fields) schema path = none
      ↔ Checked (.obj fields) schema
        ∧ ∀ properties name child member, schema.find "properties" = some (.obj properties) →
          (name, .obj child) ∈ properties → find fields name = some member →
            validate_schema_value str member child (path ++ [name]) = none := by
  have hshaped := hsupported.shaped
  obtain ⟨properties, hproperties, hdeclared⟩ := properties_of_shape hshaped
  rw [validate_object str fields path hproperties, Option.or_eq_none_iff, Option.or_eq_none_iff,
    Option.or_eq_none_iff, check_type_iff str hshaped, scalar_check_iff str hshaped,
    keys_check_iff hshaped hproperties, properties_check_iff, checked_iff]
  constructor
  · rintro ⟨⟨htype, hbounds, -⟩, hkeys, hmembers⟩
    refine ⟨⟨htype, hbounds, ⟨fun _ h => (by cases h), fun _ h => (by cases h)⟩, hkeys⟩, ?_⟩
    intro other name child member hother hmem hfound
    obtain ⟨-, -, hmem⟩ := (hdeclared other name child).mp ⟨hother, hmem⟩
    exact hmembers name child hmem member hfound
  · rintro ⟨⟨htype, hbounds, -, hkeys⟩, hmembers⟩
    refine ⟨⟨htype, hbounds, fun _ h => (by cases h)⟩, hkeys, fun name child hmem member hfound => ?_⟩
    have hfind : schema.find "properties" = some (.obj properties) := by
      unfold get_or at hproperties
      cases hfind : schema.find "properties" with
      | none =>
        rw [hfind, Option.getD_none] at hproperties
        cases hproperties
        cases hmem
      | some value =>
        rw [hfind, Option.getD_some] at hproperties
        rw [hproperties]
    exact hmembers properties name child member hfind hmem hfound

theorem check_array_iff (hshaped : Shaped schema) (items : List Json) (path : List String) :
    check_array str items schema path = none
      ↔ ∀ (child : JsonObject) (position : Nat) (item : Json),
        schema.find "items" = some (.obj child) → items[position]? = some item →
          validate_schema_value str item child (path ++ [toString position]) = none := by
  unfold check_array
  cases hfound : schema.find "items" with
  | none =>
    have hget : schema.get "items" = .null := by
      unfold JsonObject.get
      rw [hfound]
      rfl
    rw [hget]
    exact ⟨fun _ child _ _ h => (by cases h), fun _ => rfl⟩
  | some value =>
    obtain ⟨child, rfl⟩ := hshaped.items value hfound
    rw [get_of_find hfound]
    dsimp only
    rw [items_check_iff]
    simp only [Nat.zero_add]
    refine ⟨fun h other position item heq => ?_, fun h position item => h child position item rfl⟩
    cases heq
    exact h position item

theorem array_check_iff (hsupported : Supported schema) (items : List Json) (path : List String) :
    validate_schema_value str (.arr items) schema path = none
      ↔ Checked (.arr items) schema
        ∧ ∀ (child : JsonObject) (position : Nat) (item : Json),
          schema.find "items" = some (.obj child) → items[position]? = some item →
            validate_schema_value str item child (path ++ [toString position]) = none := by
  have hshaped := hsupported.shaped
  rw [validate_array, Option.or_eq_none_iff, Option.or_eq_none_iff, Option.or_eq_none_iff,
    check_type_iff str hshaped, scalar_check_iff str hshaped, check_array_iff str hshaped, checked_iff]
  unfold check_items_length
  rw [within_check_iff str (hshaped.numbers _ (by decide)) (hshaped.numbers _ (by decide))]
  constructor
  · rintro ⟨⟨htype, hbounds, -⟩, hwithin, hitems⟩
    refine ⟨⟨htype, hbounds, ⟨fun _ h => (by cases h), fun other h => ?_⟩, fun _ h => (by cases h)⟩,
      hitems⟩
    cases h
    exact hwithin
  · rintro ⟨⟨htype, hbounds, hlengths, -⟩, hitems⟩
    exact ⟨⟨htype, hbounds, fun _ h => (by cases h)⟩, hlengths.2 items rfl, hitems⟩

/-- **The check looks at every part of a value.** -/
theorem check_iff (hsupported : Supported schema) (path : List String) :
    validate_schema_value str value schema path = none
      ↔ ∀ part part_schema, Part value schema part part_schema → Checked part part_schema := by
  induction value using Json.of_parts generalizing schema path with
  | step value hmembers hitems =>
    have hshaped := hsupported.shaped
    have hsub := hsupported
    cases hsub with
    | mk _ hproperties hchild =>
    by_cases hobject : ∃ fields, value = .obj fields
    · obtain ⟨fields, rfl⟩ := hobject
      rw [object_check_iff str hsupported]
      constructor
      · rintro ⟨hchecked, h⟩ part part_schema hpart
        cases hpart with
        | whole => exact hchecked
        | member declared property found rest =>
          have hmember := h _ _ _ _ declared property found
          rw [hmembers fields _ rfl (mem_of_find found)
            (hproperties _ _ _ declared property)] at hmember
          exact hmember _ _ rest
      · intro h
        refine ⟨h _ _ .whole, fun properties name child member hdeclared hmem hfound => ?_⟩
        rw [hmembers fields _ rfl (mem_of_find hfound)
          (hproperties _ _ _ hdeclared hmem)]
        exact fun part part_schema hpart => h _ _ (.member hdeclared hmem hfound hpart)
    · by_cases harray : ∃ items, value = .arr items
      · obtain ⟨items, rfl⟩ := harray
        rw [array_check_iff str hsupported]
        constructor
        · rintro ⟨hchecked, h⟩ part part_schema hpart
          cases hpart with
          | whole => exact hchecked
          | item declared mem rest =>
            obtain ⟨position, hposition⟩ := mem_iff_getElem?.mp mem
            have hitem := h _ position _ declared hposition
            rw [hitems items _ rfl mem (hchild _ declared)] at hitem
            exact hitem _ _ rest
        · intro h
          refine ⟨h _ _ .whole, fun child position item hdeclared hposition => ?_⟩
          have hmem := mem_iff_getElem?.mpr ⟨position, hposition⟩
          rw [hitems items _ rfl hmem (hchild _ hdeclared)]
          exact fun part part_schema hpart => h _ _ (.item hdeclared hmem hpart)
      · -- a value without parts
        have hobject' : ∀ fields, value ≠ .obj fields := fun fields heq => hobject ⟨fields, heq⟩
        have harray' : ∀ items, value ≠ .arr items := fun items heq => harray ⟨items, heq⟩
        rw [validate_scalar str path hobject' harray', Option.or_eq_none_iff,
          check_type_iff str hshaped, scalar_check_iff str hshaped]
        have hchecked : ((TypeMet value schema ∧ ¬ FloatForInteger value schema)
            ∧ EnumMet value schema Json.py_eq) ∧ BoundsMet value schema
              ∧ (∀ text, value = .str text → Within schema is_int "minLength" "maxLength" text.length)
            ↔ Checked value schema := by
          rw [checked_iff]
          exact ⟨fun h => ⟨h.1, h.2.1, ⟨h.2.2, fun items heq => absurd heq (harray' items)⟩,
            fun fields heq => absurd heq (hobject' fields)⟩, fun h => ⟨h.1, h.2.1, h.2.2.1.1⟩⟩
        rw [hchecked]
        constructor
        · intro h part part_schema hpart
          cases hpart with
          | whole => exact h
          | member _ _ _ _ => exact absurd rfl (hobject' _)
          | item _ _ _ => exact absurd rfl (harray' _)
        · exact fun h => h _ _ .whole

/-! ## Where the check agrees with the meaning -/

/-- The part is none of the items of `enum`, or misses a length that is bounded by a float. -/
def RefusedStrictly (value : Json) (schema : JsonObject) : Prop :=
  ¬ EnumMet value schema Json.same ∨ ¬ LengthsMet value schema is_float

/-- Where every part meets the keywords that are read as they are meant: a float that stands for an
integer does not stand alone, and neither does a part that is refused by the meaning only. -/
structure Agrees (value : Json) (schema : JsonObject) : Prop where
  floats : (∀ part part_schema, Part value schema part part_schema → PlainMet part part_schema) →
    (∃ part part_schema, Part value schema part part_schema ∧ FloatForInteger part part_schema) →
      ∃ part part_schema, Part value schema part part_schema ∧ RefusedStrictly part part_schema
  refused : (∀ part part_schema, Part value schema part part_schema → PlainMet part part_schema) →
    (∃ part part_schema, Part value schema part part_schema ∧ RefusedStrictly part part_schema) →
      ∃ part part_schema, Part value schema part part_schema
        ∧ (FloatForInteger part part_schema ∨ ¬ EnumMet part part_schema Json.py_eq)

theorem within_iff {low high : String} {length : Nat} :
    Within schema (fun _ => true) low high length
      ↔ Within schema is_int low high length ∧ Within schema is_float low high length := by
  have hkind : ∀ value : Json, ∀ bound, value.numeric = some bound →
      is_int value = true ∨ is_float value = true := by
    intro value bound h
    cases value with
    | int n => exact .inl rfl
    | float q => exact .inr rfl
    | _ => cases h
  unfold Within
  constructor
  · intro h
    exact ⟨⟨fun bound _ => h.1 bound rfl, fun bound _ => h.2 bound rfl⟩,
      ⟨fun bound _ => h.1 bound rfl, fun bound _ => h.2 bound rfl⟩⟩
  · rintro ⟨hint, hfloat⟩
    refine ⟨fun bound _ hbound => ?_, fun bound _ hbound => ?_⟩
    · rcases hkind _ bound hbound with h | h
      · exact hint.1 bound h hbound
      · exact hfloat.1 bound h hbound
    · rcases hkind _ bound hbound with h | h
      · exact hint.2 bound h hbound
      · exact hfloat.2 bound h hbound

theorem keywords_iff : KeywordsMet value schema
    ↔ PlainMet value schema ∧ ¬ RefusedStrictly value schema := by
  have hlengths : LengthsMet value schema (fun _ => true)
      ↔ LengthsMet value schema is_int ∧ LengthsMet value schema is_float := by
    unfold LengthsMet
    simp only [within_iff]
    exact ⟨fun h => ⟨⟨fun text ht => (h.1 text ht).1, fun items hi => (h.2 items hi).1⟩,
      fun text ht => (h.1 text ht).2, fun items hi => (h.2 items hi).2⟩,
      fun h => ⟨fun text ht => ⟨h.1.1 text ht, h.2.1 text ht⟩,
        fun items hi => ⟨h.1.2 items hi, h.2.2 items hi⟩⟩⟩
  unfold RefusedStrictly
  rw [not_or, not_not, not_not]
  constructor
  · intro h
    obtain ⟨hint, hfloat⟩ := hlengths.mp h.lengths
    exact ⟨⟨h.type_, h.bounds, hint, h.keys⟩, h.enum, hfloat⟩
  · rintro ⟨hplain, henum, hfloat⟩
    exact ⟨hplain.type_, henum, hplain.bounds, hlengths.mpr ⟨hplain.lengths, hfloat⟩, hplain.keys⟩

theorem enum_weaker (h : EnumMet value schema Json.same) :
    EnumMet value schema Json.py_eq := by
  intro items henum
  obtain ⟨item, hmem, hsame⟩ := h items henum
  exact ⟨item, hmem, Json.py_eq_of_same value item hsame⟩

theorem agrees_iff (hsupported : Supported schema) (value : Json) (path : List String) :
    (validate_schema_value str value schema path = none ↔ Valid value schema) ↔ Agrees value schema := by
  rw [check_iff str hsupported path, valid_iff]
  constructor
  · intro h
    refine ⟨fun hplain hfloats => ?_, fun hplain hrefused => ?_⟩
    · -- a float for an integer is refused by the check, so the meaning refuses some part
      obtain ⟨part, part_schema, hpart, hfloat⟩ := hfloats
      by_contra hnone
      push Not at hnone
      have hvalid := h.mpr (fun other other_schema hother =>
        keywords_iff.mpr ⟨hplain other other_schema hother, hnone other other_schema hother⟩)
      exact (hvalid part part_schema hpart).integer hfloat
    · obtain ⟨part, part_schema, hpart, hrefused⟩ := hrefused
      by_contra hnone
      push Not at hnone
      have hchecked := h.mp (fun other other_schema hother =>
        ⟨hplain other other_schema hother, (hnone other other_schema hother).1,
          (hnone other other_schema hother).2⟩)
      exact (keywords_iff.mp (hchecked part part_schema hpart)).2 hrefused
  · intro hagrees
    constructor
    · intro hchecked part part_schema hpart
      have hplain : ∀ part part_schema, Part value schema part part_schema →
          PlainMet part part_schema := fun other other_schema hother =>
        (hchecked other other_schema hother).plain
      refine keywords_iff.mpr ⟨hplain part part_schema hpart, fun hrefused => ?_⟩
      obtain ⟨other, other_schema, hother, hcase⟩ :=
        hagrees.refused hplain ⟨part, part_schema, hpart, hrefused⟩
      have hmet := hchecked other other_schema hother
      rcases hcase with hfloat | henum
      · exact hmet.integer hfloat
      · exact henum hmet.enum
    · intro hvalid part part_schema hpart
      have hmet := keywords_iff.mp (hvalid part part_schema hpart)
      have hplain : ∀ part part_schema, Part value schema part part_schema →
          PlainMet part part_schema := fun other other_schema hother =>
        (keywords_iff.mp (hvalid other other_schema hother)).1
      refine ⟨hmet.1, fun hfloat => ?_, enum_weaker (hvalid part part_schema hpart).enum⟩
      obtain ⟨other, other_schema, hother, hrefused⟩ :=
        hagrees.floats hplain ⟨part, part_schema, hpart, hfloat⟩
      exact (keywords_iff.mp (hvalid other other_schema hother)).2 hrefused

/-- **The check of arguments is their validity exactly when their parts agree**, for the arguments of a
call and for every value that stands in them. -/
theorem arguments_checked {call : ToolCallRequest} {schemas : List ToolSchema} {schema : ToolSchema}
    (hschema : schemas.find? (fun schema => schema.name = call.name) = some schema)
    (hsupported : Supported schema.parameters) :
    ((validate_tool_call str call schemas = none ↔ Valid (.obj call.arguments) schema.parameters)
        ↔ Agrees (.obj call.arguments) schema.parameters)
      ∧ ∀ part part_schema path, Part (.obj call.arguments) schema.parameters part part_schema →
        ((validate_schema_value str part part_schema path = none ↔ Valid part part_schema)
          ↔ Agrees part part_schema) := by
  refine ⟨?_, fun part part_schema path hpart => agrees_iff str (hpart.sub hsupported) part path⟩
  have hcall : validate_tool_call str call schemas
      = validate_schema_value str (.obj call.arguments) schema.parameters [] := by
    unfold validate_tool_call
    rw [hschema]
  rw [hcall]
  exact agrees_iff str hsupported (.obj call.arguments) []

/-! ### A tool with a level and a count -/

def level_schema : JsonObject := [("enum", .arr [.int 1, .int 2])]

def count_schema : JsonObject := [("type", .str "integer")]

def volume_schema : ToolSchema where
  name := "set_volume"
  description := "Set the volume."
  parameters := [("properties", .obj [("level", .obj level_schema), ("count", .obj count_schema)])]

def volume_call (arguments : JsonObject) : ToolCallRequest where
  tool_call_id := "call"
  name := "set_volume"
  arguments := arguments

def number_text : Json → String
  | .int n => toString n
  | _ => ""

theorem level_supported : Supported level_schema :=
  .mk (by decide) (fun _ _ _ h => by cases h) (fun _ h => by cases h)

theorem count_supported : Supported count_schema :=
  .mk (by decide) (fun _ _ _ h => by cases h) (fun _ h => by cases h)

theorem volume_supported : Supported volume_schema.parameters := by
  refine .mk (by decide) (fun properties name child hfind hmem => ?_) (fun _ h => by cases h)
  cases hfind
  simp only [mem_cons, not_mem_nil, or_false, Prod.mk.injEq, Json.obj.injEq] at hmem
  rcases hmem with ⟨-, rfl⟩ | ⟨-, rfl⟩
  · exact level_supported
  · exact count_supported

theorem arguments_checked_level :
    (validate_tool_call number_text (volume_call [("level", .int 2)]) [volume_schema] = none
        ↔ Valid (.obj [("level", .int 2)]) volume_schema.parameters)
      ↔ Agrees (.obj [("level", .int 2)]) volume_schema.parameters :=
  (@arguments_checked number_text (volume_call [("level", .int 2)]) [volume_schema] volume_schema rfl
    volume_supported).1

theorem level_part (value : Json) :
    Part (.obj [("level", value)]) volume_schema.parameters value level_schema :=
  .member rfl mem_cons_self rfl .whole

theorem count_valid : Valid (.obj [("count", .float 1)]) volume_schema.parameters := by
  have hcount : Valid (.float 1) count_schema := by
    refine .mk ⟨fun expected h => ?_, fun _ h => (by cases h), fun number _ => ⟨?_, ?_⟩, ⟨?_, ?_⟩, ?_⟩
      (fun _ _ _ _ _ h => by cases h) (fun _ _ _ h => by cases h)
    · cases h
      exact ⟨"integer", mem_singleton_self _, rfl⟩
    all_goals
      intro _ h
      cases h
  refine .mk ⟨fun _ h => (by cases h), fun _ h => (by cases h), fun _ h => (by cases h),
    ⟨fun _ h => (by cases h), fun _ h => (by cases h)⟩,
    fun _ _ => ⟨fun _ h => (by cases h), fun h => (by cases h)⟩⟩ ?_ (fun _ _ _ h => by cases h)
  intro fields properties name child member hvalue hdeclared hmem hfound
  cases hvalue
  cases hdeclared
  simp only [mem_cons, not_mem_nil, or_false, Prod.mk.injEq, Json.obj.injEq] at hmem
  rcases hmem with ⟨rfl, rfl⟩ | ⟨rfl, rfl⟩
  · cases hfound
  · cases hfound
    exact hcount

/-- `True` is taken for `1`, and `1.0` is no integer. -/
theorem arguments_misjudged :
    ¬ (validate_tool_call number_text (volume_call [("level", .bool true)]) [volume_schema] = none
        ↔ Valid (.obj [("level", .bool true)]) volume_schema.parameters)
      ∧ ¬ (validate_tool_call number_text (volume_call [("count", .float 1)]) [volume_schema] = none
        ↔ Valid (.obj [("count", .float 1)]) volume_schema.parameters) := by
  constructor
  · intro h
    have hvalid := h.mp (by decide)
    have hmet := (valid_iff.mp hvalid _ _ (level_part (.bool true))).enum
    obtain ⟨item, hmem, hsame⟩ := hmet _ rfl
    simp only [mem_cons, not_mem_nil, or_false] at hmem
    rcases hmem with rfl | rfl
    · cases hsame
    · cases hsame
  · intro h
    have hnone := h.mpr count_valid
    exact absurd hnone (by decide)

end CodingAgentLoop.SchemaCheck
