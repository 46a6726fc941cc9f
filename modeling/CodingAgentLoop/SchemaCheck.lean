/-
The arguments of a tool call against the tool's schema (`Toolset.validate_tool_call` of
`agentkit/tools/toolset.py`).

A value is checked against a schema keyword by keyword: type, enum, bounds, then the members of an
object or the items of an array. The recursion is on the value. The members are checked in the
order of the schema's properties, so each member first becomes its own check, to be called with
its property's schema.

A tool without a schema has no arguments to fail: its call passes.
-/
import CodingAgentLoop.Toolset

open Lib

namespace CodingAgentLoop

structure ToolSchema where
  name : String
  description : String
  parameters : JsonObject

namespace SchemaCheck

def format_path (path : List String) : String :=
  if path = [] then "<root>" else String.intercalate "." path

def invalid_argument (path : List String) (problem : String) : String :=
  "invalid argument " ++ format_path path ++ ": " ++ problem

/-- Whether a value has the JSON type of that name. -/
def has_type (value : Json) (expected_type : String) : Bool :=
  match expected_type, value with
  | "string", .str _ => true
  | "string", _ => false
  | "integer", .int _ => true
  | "integer", _ => false
  | "number", .int _ => true
  | "number", .float _ => true
  | "number", _ => false
  | "boolean", .bool _ => true
  | "boolean", _ => false
  | "object", .obj _ => true
  | "object", _ => false
  | "array", .arr _ => true
  | "array", _ => false
  | "null", .null => true
  | "null", _ => false
  | _, _ => true

mutual

def matches_json_type (value : Json) : Json → Bool
  | .null => true
  | .arr items => matches_any_type value items
  | .str expected_type => has_type value expected_type
  | _ => true

/-- `any(self._matches_json_type(value, item) for item in expected_type)`. -/
def matches_any_type (value : Json) : List Json → Bool
  | [] => false
  | item :: rest => matches_json_type value item || matches_any_type value rest

end

variable (str : Json → String)

def format_expected_type : Json → String
  | .arr items => String.intercalate " or " (items.map str)
  | expected_type => str expected_type

/-- The checks of the keywords `type` and `enum`. -/
def check_type (value : Json) (schema : JsonObject) (path : List String) : Option String :=
  if !matches_json_type value (schema.get "type") then
    some (invalid_argument path ("expected " ++ format_expected_type str (schema.get "type")))
  else match schema.get "enum" with
  | .arr enum_values =>
    if !enum_values.any (fun item => value.py_eq item) then
      some (invalid_argument path
        ("expected one of " ++ String.intercalate ", " (enum_values.map str)))
    else none
  | _ => none

section

variable (schema : JsonObject) (keyword : String) (misses : ℚ → Bool) (path : List String) (problem : String)

/-- A bound that a keyword sets, and whether the value misses it. -/
def check_bound : Option String :=
  match (schema.get keyword).number? with
  | some bound =>
    if misses bound then some (invalid_argument path (problem ++ str (schema.get keyword)))
    else none
  | none => none

/-- A bound on a length: `isinstance(..., int)`, which a boolean passes too. -/
def check_length : Option String :=
  match schema.get keyword with
  | .float _ => none
  | _ => check_bound str schema keyword misses path problem

end

/-- The checks of a number or a text. -/
def check_scalar (value : Json) (schema : JsonObject) (path : List String) : Option String :=
  match value with
  | .int n =>
    (check_bound str schema "minimum" (fun bound => n < bound) path "must be >= ").or
      (check_bound str schema "maximum" (fun bound => bound < n) path "must be <= ")
  | .float q =>
    (check_bound str schema "minimum" (fun bound => q < bound) path "must be >= ").or
      (check_bound str schema "maximum" (fun bound => bound < q) path "must be <= ")
  | .str text =>
    (check_length str schema "minLength" (fun bound => text.length < bound) path
        "length must be >= ").or
      (check_length str schema "maxLength" (fun bound => bound < text.length) path
        "length must be <= ")
  | _ => none

def check_items_length (items : List Json) (schema : JsonObject) (path : List String) :
    Option String :=
  (check_length str schema "minItems" (fun bound => items.length < bound) path
      "items length must be >= ").or
    (check_length str schema "maxItems" (fun bound => bound < items.length) path
      "items length must be <= ")

/-- The checks of an object's keys: those required, and those that may not be there. -/
def check_keys (fields properties schema : JsonObject) (path : List String) : Option String :=
  let missing : Option String :=
    match schema.get_or "required" (.arr []) with
    | .arr required =>
      (required.filterMap Json.str?).find? (fun name => (fields.find name).isNone)
    | _ => none
  match missing with
  | some name => some ("missing required argument: " ++ format_path (path ++ [name]))
  | none =>
    if schema.get "additionalProperties" = .bool false then
      let unexpected := (fields.map Prod.fst).filter (fun name => (properties.find name).isNone)
      (unexpected.mergeSort (· ≤ ·)).head?.map (fun name =>
        "unexpected argument: " ++ format_path (path ++ [name]))
    else none

abbrev ValueCheck : Type := JsonObject → List String → Option String

def check_properties (members : List (String × ValueCheck)) (path : List String) :
    List (String × Json) → Option String
  | [] => none
  | (name, .obj child_schema) :: rest =>
    match members.lookup name with
    | some check => (check child_schema (path ++ [name])).or (check_properties members path rest)
    | none => check_properties members path rest
  | (_, _) :: rest => check_properties members path rest

def check_items (items_schema : JsonObject) (path : List String) (index : Nat) :
    List ValueCheck → Option String
  | [] => none
  | check :: rest =>
    (check items_schema (path ++ [toString index])).or
      (check_items items_schema path (index + 1) rest)

mutual

def validate_schema_value (value : Json) : ValueCheck := fun schema path =>
  ((check_type str value schema path).or (check_scalar str value schema path)).or
    (match value with
      | .obj fields =>
        -- `_validate_object_schema`
        match schema.get_or "properties" (.obj []) with
        | .obj properties =>
          (check_keys fields properties schema path).or
            (check_properties (member_checks fields) path properties)
        | _ => none
      | .arr items =>
        -- `_validate_array_schema`
        (check_items_length str items schema path).or
          (match schema.get "items" with
            | .obj items_schema => check_items items_schema path 0 (item_checks items)
            | _ => none)
      | _ => none)

def member_checks : List (String × Json) → List (String × ValueCheck)
  | [] => []
  | (name, value) :: rest => (name, validate_schema_value value) :: member_checks rest

def item_checks : List Json → List ValueCheck
  | [] => []
  | value :: rest => validate_schema_value value :: item_checks rest

end

end SchemaCheck

/-- `validate_tool_call(call, schemas)`: the message of the error, if there is one. -/
def validate_tool_call (str : Json → String) (call : ToolCallRequest) (schemas : List ToolSchema) :
    Option String :=
  match schemas.find? (fun schema => schema.name = call.name) with
  | none => none
  | some schema => SchemaCheck.validate_schema_value str (.obj call.arguments) schema.parameters []

end CodingAgentLoop
