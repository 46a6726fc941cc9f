/-
The tape a conversation is kept on (`agentkit/tape/tape.py`, `models.py` and
`view.py`).

A tape is a list of entries and a window: the model sees the entries from
`window_start` on. A handoff appends an anchor and moves the window, to a place the
caller names or to the anchor itself.

An entry is either a plain `Entry`, which has a kind of its own, or an `Anchor`, whose
kind is always `"anchor"` and which also has a type and the ids of its sources. On file
both are one JSON object a line. Decoding makes an `Anchor` of everything of kind
`"anchor"`: a plain entry of that kind is an anchor written before anchors had types.

A JSON text is the object it encodes, so a file is the list of its lines' objects.
-/
import CodingAgentLoop.Errors
import CodingAgentLoop.Lib.Json

open Lib

namespace CodingAgentLoop

/-! ## Entries -/

/-- What every entry has besides its kind. -/
structure EntryFields where
  payload : JsonObject
  id : String
  timestamp : ℚ
  meta_ : JsonObject := []
  deriving DecidableEq

/-- A tape entry: a plain `Entry`, or an `Anchor`. -/
inductive Entry where
  | entry (kind : String) (fields : EntryFields)
  | anchor (fields : EntryFields) (anchor_type : String) (source_ids : List String)
  deriving DecidableEq

namespace Entry

def kind : Entry → String
  | .entry kind _ => kind
  | .anchor _ _ _ => "anchor"

def fields : Entry → EntryFields
  | .entry _ fields => fields
  | .anchor fields _ _ => fields

def payload (entry : Entry) : JsonObject := entry.fields.payload

def id (entry : Entry) : String := entry.fields.id

def meta_ (entry : Entry) : JsonObject := entry.fields.meta_

/-- `isinstance(entry, Anchor) and entry.is_handoff`. -/
def is_handoff : Entry → Bool
  | .entry _ _ => false
  | .anchor _ anchor_type _ => anchor_type = "handoff"

/-- `isinstance(entry, Anchor) and entry.fold_boundary`. -/
def fold_boundary : Entry → Bool
  | .entry _ _ => false
  | .anchor _ anchor_type _ => anchor_type ∈ ["fold", "topic_end"]

/-- `entry.kind == "anchor" and entry.meta.get("is_handoff")`. -/
def marked_handoff (entry : Entry) : Bool :=
  entry.kind = "anchor" ∧ (entry.meta_.get "is_handoff").truthy

/-! ### On file -/

/-- The members of `Entry.to_dict()`. -/
def base_dict (kind : String) (fields : EntryFields) : JsonObject :=
  [("id", .str fields.id),
   ("kind", .str kind),
   ("payload", .obj fields.payload),
   ("timestamp", .float fields.timestamp)]
    ++ if fields.meta_ = [] then [] else [("meta", .obj fields.meta_)]

def to_dict : Entry → JsonObject
  | .entry kind fields => base_dict kind fields
  | .anchor fields anchor_type source_ids =>
    base_dict "anchor" fields ++ [("anchor_type", .str anchor_type)]
      ++ if source_ids = [] then [] else [("source_ids", .arr (source_ids.map .str))]

end Entry

section

variable (data : JsonObject) (key : String)

def require_str : Except StoreError String :=
  match data.get key with
  | .str value => .ok value
  | _ => raise .TypeError (key ++ " must be a str")

def require_float : Except StoreError ℚ :=
  match (data.get key).number? with
  | some value => .ok value
  | none => raise .TypeError (key ++ " must be a number")

def require_json_dict : Except StoreError JsonObject :=
  match data.get key with
  | .obj value => .ok value
  | _ => raise .TypeError (key ++ " must be a dict")

def optional_json_dict : Except StoreError JsonObject :=
  match data.get key with
  | .null => .ok []
  | .obj value => .ok value
  | _ => raise .TypeError (key ++ " must be a dict")

end

def optional_source_ids (data : JsonObject) : Except StoreError (List String) :=
  match data.get "source_ids" with
  | .null => .ok []
  | .arr items =>
    items.mapM (fun item =>
      match item with
      | .str source_id => .ok source_id
      | _ => raise .TypeError "source_ids must contain only strings")
  | _ => raise .TypeError "source_ids must be a sequence of strings"

def legacy_anchor_map (anchor_type : String) : String :=
  if anchor_type = "topic_initial" then "topic_start"
  else if anchor_type = "topic_finalized" then "topic_end"
  else anchor_type

namespace Entry

/-- The anchor type an object declares: a member of its own, or of its `meta`. -/
def declared_anchor_type (data : JsonObject) : Except StoreError Json :=
  match data.get "anchor_type" with
  | .null => do
      let meta_ ← optional_json_dict data "meta"
      return meta_.get "anchor_type"
  | anchor_type => .ok anchor_type

/-- The type an object of kind `"anchor"` is decoded with. -/
def promoted_anchor_type (data : JsonObject) : Except StoreError String := do
  let declared ← declared_anchor_type data
  match declared with
  | .null => do
      let meta_ ← optional_json_dict data "meta"
      return if (meta_.get "is_handoff").truthy then "handoff" else "context"
  | .str anchor_type => return legacy_anchor_map anchor_type
  | _ => raise .TypeError "anchor_type must be a str"

/-- The fields every entry is decoded with. -/
def fields_from_dict (data : JsonObject) : Except StoreError EntryFields := do
  let id ← require_str data "id"
  let payload ← require_json_dict data "payload"
  let timestamp ← require_float data "timestamp"
  let meta_ ← optional_json_dict data "meta"
  return { payload, id, timestamp, meta_ }

def from_dict (data : JsonObject) : Except StoreError Entry := do
  let kind ← require_str data "kind"
  if kind = "anchor" then do
    let anchor_type ← promoted_anchor_type data
    let fields ← fields_from_dict data
    let source_ids ← optional_source_ids data
    return .anchor fields anchor_type source_ids
  else do
    let fields ← fields_from_dict data
    return .entry kind fields

end Entry

/-! ## The tape -/

/-- A `Tape`. -/
structure Tape where
  entries : List Entry := []
  tape_id : String
  parent_id : Option String := none
  window_start : Nat := 0
  persisted_count : Nat := 0

/-- `_scan_window_start(entries)`: the index of the last handoff anchor. -/
def scan_window_start (entries : List Entry) : Nat :=
  entries.zipIdx.foldl (fun window_start (entry, index) =>
    match entry with
    | .anchor _ _ _ => if entry.is_handoff then index else window_start
    | .entry _ _ => if entry.marked_handoff then index else window_start) 0

namespace Tape

def windowed_entries (tape : Tape) : List Entry := tape.entries.drop tape.window_start

def append (tape : Tape) (entry : Entry) : Tape :=
  { tape with entries := tape.entries ++ [entry] }

def handoff (tape : Tape) (summary_anchor : Entry) (window_start : Option Nat) : Tape :=
  { tape with
    entries := tape.entries ++ [summary_anchor]
    window_start := window_start.getD tape.entries.length }

/-- `fork()`, under a fresh id. -/
def fork (tape : Tape) (fork_id : String) : Tape where
  entries := tape.entries
  tape_id := fork_id
  parent_id := some tape.tape_id
  window_start := tape.window_start
  persisted_count := tape.persisted_count

def lines (entries : List Entry) : List JsonObject := entries.map Entry.to_dict

/-- `save_jsonl(path)`, where `file` holds the lines at the path if there is a file: the tape
and the file after. -/
def save_jsonl (tape : Tape) (file : Option (List JsonObject)) : Tape × Option (List JsonObject) :=
  let written :=
    match file with
    | some old =>
      -- mode "a" continues a file this tape wrote before; anything else is overwritten
      if 0 < tape.persisted_count then old ++ lines (tape.entries.drop tape.persisted_count)
      else lines tape.entries
    | none => lines tape.entries
  ({ tape with persisted_count := tape.entries.length }, some written)

def load_jsonl (file : List JsonObject) (tape_id : String) : Except StoreError Tape := do
  let entries ← file.mapM Entry.from_dict
  return {
    entries
    tape_id
    window_start := scan_window_start entries
    persisted_count := entries.length }

end Tape

/-! ## The view -/

structure TapeView where
  entries : List Entry
  source_tape_id : String
  window_start : Nat := 0
  anchor_ids : List String := []

/-- The entries of a view: past the first window, handoff anchors come before the rest. -/
def TapeView.visible_entries (tape : Tape) : List Entry :=
  if 0 < tape.window_start then
    tape.windowed_entries.filter (·.marked_handoff)
      ++ tape.windowed_entries.filter (!·.marked_handoff)
  else tape.entries

def TapeView.from_tape (tape : Tape) : TapeView where
  entries := visible_entries tape
  source_tape_id := tape.tape_id
  window_start := tape.window_start
  anchor_ids := ((visible_entries tape).filter (·.kind = "anchor")).map (·.id)

end CodingAgentLoop
