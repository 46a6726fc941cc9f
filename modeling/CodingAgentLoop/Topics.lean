/-
The rows of topics and of their anchors (`SQLiteTopicStore` of
`coding_agent/topics/store.py`).

A topic is a range of a tape, from the seq of its initial anchor to that of its end. A session
has at most one open topic on a tape: a unique index sees to it. A topic is closed once;
closing it replaces its summary and its metadata.

Texts that are shown, and metadata, must be short and must not look like secrets. Both are
compared case-folded, which is a function the model is given.
-/
import CodingAgentLoop.Harness
import CodingAgentLoop.Lib.Table
import Mathlib.Data.List.Infix

open Lib

namespace CodingAgentLoop

/-! ## Checks -/

def FORBIDDEN_METADATA_KEY_PARTS : List String :=
  ["command_output", "content", "env", "message", "prompt", "result", "secret", "stderr",
    "stdout", "text"]

def SECRET_VALUE_MARKERS : List String :=
  ["-----begin ", "akia", "password=", "secret=", "sk-", "token="]

/-- `part in text`. -/
def has_part (text part : String) : Bool := part.toList <:+: text.toList

namespace TopicCheck

def require_non_empty (field_name value : String) : Except StoreError Unit :=
  raise_if (is_blank value) .ValueError (field_name ++ " must be a non-empty string")

variable (casefold : String → String)

def reject_secret_shaped_value (field_name value : String) : Except StoreError Unit :=
  raise_if (SECRET_VALUE_MARKERS.any (has_part (casefold value))) .ValueError
    (field_name ++ " must not contain secret-shaped values")

def require_optional_display_text (field_name : String) : Option String → Except StoreError Unit
  | none => .ok ()
  | some value => do
      require_non_empty field_name value
      raise_if (256 < value.length) .ValueError
        (field_name ++ " must be at most 256 characters")
      reject_secret_shaped_value casefold field_name value

def require_metadata_key (field_name key : String) : Except StoreError Unit :=
  raise_if (FORBIDDEN_METADATA_KEY_PARTS.any (has_part (casefold key))) .ValueError
    (field_name ++ " contains forbidden metadata key: " ++ key)

mutual

def require_json_value (field_name : String) : Json → Except StoreError Unit
  | .null => .ok ()
  | .bool _ => .ok ()
  | .int _ => .ok ()
  | .float _ => .ok ()
  | .str value => do
      raise_if (256 < value.length) .ValueError
        (field_name ++ " must be at most 256 characters")
      reject_secret_shaped_value casefold field_name value
  | .arr items => require_json_items field_name 0 items
  | .obj fields => require_json_object field_name fields

/-- The loop over a list, from `index` on. -/
def require_json_items (field_name : String) (index : Nat) : List Json → Except StoreError Unit
  | [] => .ok ()
  | item :: rest => do
      require_json_value (field_name ++ "[" ++ toString index ++ "]") item
      require_json_items field_name (index + 1) rest

def require_json_object (field_name : String) : List (String × Json) → Except StoreError Unit
  | [] => .ok ()
  | (key, item) :: rest => do
      require_metadata_key casefold field_name key
      require_json_value (field_name ++ "." ++ key) item
      require_json_object field_name rest

end

end TopicCheck

/-! ## Records -/

inductive TopicStatus where
  | «open»
  | finalized
  | aborted
  deriving DecidableEq

/-- `topics`, beside the topic's id. -/
structure TopicRow where
  tape_id : String
  session_id : String
  kind : String
  status : TopicStatus
  title : Option String
  summary : Option String
  owner : Option String
  topic_initial_seq : Nat
  topic_finalized_seq : Option Nat
  created_at : Datetime
  finalized_at : Option Datetime
  metadata : JsonObject

structure TopicRecord extends TopicRow where
  topic_id : String

def TopicRecord.post_init (casefold : String → String) (record : TopicRecord) :
    Except StoreError Unit := do
  TopicCheck.require_non_empty "topic_id" record.topic_id
  TopicCheck.require_non_empty "tape_id" record.tape_id
  TopicCheck.require_non_empty "session_id" record.session_id
  TopicCheck.require_non_empty "kind" record.kind
  raise_if (record.topic_finalized_seq.any (· < record.topic_initial_seq)) .ValueError
    "topic_finalized_seq must be greater than or equal to topic_initial_seq"
  TopicCheck.require_optional_display_text casefold "title" record.title
  TopicCheck.require_optional_display_text casefold "summary" record.summary
  TopicCheck.require_optional_display_text casefold "owner" record.owner
  TopicCheck.require_json_object casefold "metadata" record.metadata

/-- `topic_anchors`, beside its key: the topic's id, the seq and the anchor type. -/
structure TopicAnchorRow where
  tape_id : String
  entry_id : Option String
  metadata : JsonObject := []

structure TopicAnchorRecord extends TopicAnchorRow where
  topic_id : String
  seq : Nat
  anchor_type : String

def TopicAnchorRecord.post_init (casefold : String → String) (record : TopicAnchorRecord) :
    Except StoreError Unit := do
  TopicCheck.require_non_empty "topic_id" record.topic_id
  TopicCheck.require_non_empty "tape_id" record.tape_id
  TopicCheck.require_non_empty "anchor_type" record.anchor_type
  match record.entry_id with
  | none => pure ()
  | some entry_id => TopicCheck.require_non_empty "entry_id" entry_id
  TopicCheck.require_json_object casefold "metadata" record.metadata

/-! ## The store -/

/-- The tables of the store that the lifecycle writes. -/
structure TopicTables where
  topics : Table String TopicRow := ∅
  topic_anchors : Table (String × Nat × String) TopicAnchorRow := ∅

namespace TopicTables

/-- `create_topic(record)`: the row under the record's id, the one there was if there was one. -/
def create_topic (tables : TopicTables) (record : TopicRecord) :
    Except StoreError (TopicRow × TopicTables) :=
  match tables.topics.row record.topic_id with
  | some row => .ok (row, tables)
  | none =>
    if record.status = .open ∧ (tables.topics.first (fun _ row =>
        row.session_id = record.session_id ∧ row.tape_id = record.tape_id
          ∧ row.status = .open)).isSome then
      raise .IntegrityError "UNIQUE constraint failed: topics.session_id, topics.tape_id"
    else .ok (record.toTopicRow,
      { tables with topics := tables.topics.put record.topic_id record.toTopicRow })

/-- The checks of `_close_topic` before its transaction. -/
def check_close (casefold : String → String) (topic_id : String) (summary : Option String)
    (metadata : JsonObject) : Except StoreError Unit := do
  TopicCheck.require_non_empty "topic_id" topic_id
  TopicCheck.require_optional_display_text casefold "summary" summary
  TopicCheck.require_json_object casefold "metadata" metadata

def closed_row (row : TopicRow) (status : TopicStatus) (summary : Option String)
    (topic_finalized_seq : Nat) (finalized_at : Datetime) (metadata : JsonObject) : TopicRow :=
  { row with
    status, summary, metadata
    topic_finalized_seq := some topic_finalized_seq
    finalized_at := some finalized_at }

section

variable (casefold : String → String) (tables : TopicTables)

def close_topic (status : TopicStatus)
    (operation topic_id : String) (summary : Option String) (topic_finalized_seq : Nat)
    (finalized_at : Datetime) (metadata : JsonObject) :
    Except StoreError (TopicRow × TopicTables) := do
  check_close casefold topic_id summary metadata
  match tables.topics.row topic_id with
  | none => raise .KeyError ("open topic not found for " ++ operation ++ ": " ++ topic_id)
  | some row =>
    if row.status = .open ∧ row.topic_initial_seq ≤ topic_finalized_seq then
      let closed :=
        closed_row row status summary topic_finalized_seq finalized_at metadata
      .ok (closed, { tables with topics := tables.topics.put topic_id closed })
    else raise .KeyError ("open topic not found for " ++ operation ++ ": " ++ topic_id)

section

variable (topic_id : String) (summary : Option String) (topic_finalized_seq : Nat) (finalized_at : Datetime) (metadata : JsonObject)

def finalize_topic : Except StoreError (TopicRow × TopicTables) :=
  tables.close_topic casefold .finalized "finalize" topic_id summary topic_finalized_seq
    finalized_at metadata

/-- `abort_topic(topic_id, ...)`, with the seq the lifecycle always has. -/
def abort_topic : Except StoreError (TopicRow × TopicTables) :=
  tables.close_topic casefold .aborted "abort" topic_id summary topic_finalized_seq
    finalized_at metadata

end

end

def record_topic_anchor (tables : TopicTables) (record : TopicAnchorRecord) :
    Except StoreError TopicTables := do
  match tables.topics.row record.topic_id with
  | none => raise .KeyError ("topic not found for anchor: " ++ record.topic_id)
  | some row => do
      raise_if (row.tape_id ≠ record.tape_id) .ValueError
        "topic anchor tape_id must match parent topic"
      return { tables with
        topic_anchors := tables.topic_anchors.put
          (record.topic_id, record.seq, record.anchor_type) record.toTopicAnchorRow }

end TopicTables

end CodingAgentLoop
