/-
Topics and the tape (`coding_agent/topics/lifecycle.py`).

A call of the lifecycle appends an anchor to the tape, writes the topic's row with the anchor's
position, and records the anchor. When a store call raises, the anchor is taken off the tape
again, by position; a row that was written before stays.

Each store call may fail before it does anything, and entries may be appended to the tape while
it is pending. Both are given with the call.
-/
import CodingAgentLoop.Pipeline
import CodingAgentLoop.Topics

namespace CodingAgentLoop

open Lib Action

def TOPIC_INITIAL : String := "topic_initial"

def TOPIC_FINALIZED : String := "topic_finalized"

def TOPIC_ABORTED : String := "topic_aborted"

/-- What an anchor of a topic is read by: the topic's id and the product anchor type. -/
def Entry.topic_mark : Entry → Option (String × String)
  | .entry _ _ => none
  | .anchor fields _ _ =>
    match fields.meta_.get "product_anchor_type", fields.meta_.get "topic_id" with
    | .str product_anchor_type, .str topic_id => some (topic_id, product_anchor_type)
    | _, _ => none

def topic_anchor (topic_id product_anchor_type encoded_anchor_type label : String)
    (stamp : EntryStamp) : Entry :=
  .anchor
    { payload := [("label", .str label)]
      id := stamp.id
      timestamp := stamp.timestamp
      meta_ := [("topic_id", .str topic_id), ("product_anchor_type", .str product_anchor_type),
        ("skip", .bool true)] }
    encoded_anchor_type []

abbrev OrdinaryEntry := { entry : Entry // entry.topic_mark = none }

/-- The tape and the store. -/
structure TopicWorld where
  tape : Tape
  tables : TopicTables := {}

namespace TopicWorld

/-- `tape.append(entry)`, entry by entry. -/
def append_all (world : TopicWorld) (entries : List Entry) : TopicWorld :=
  { world with tape := { world.tape with entries := world.tape.entries ++ entries } }

def remove_anchor (world : TopicWorld) (seq : Nat) (entry_id : String) : TopicWorld :=
  match world.tape.entries[seq]? with
  | none => world
  | some entry =>
    if entry.id = entry_id then
      { world with tape := { world.tape with entries := world.tape.entries.eraseIdx seq } }
    else world

end TopicWorld

/-- What a call raises: an exception of a store call, or another one. -/
inductive LifecycleError where
  | store (error : StoreError)
  | other (error : StoreError)

abbrev TopicAction := Action TopicWorld LifecycleError

/-- A store call: what is appended while it is pending, and the failure it may meet. -/
structure PendingCall where
  appended : List OrdinaryEntry := []
  failure : Option StoreError := none

/-- `await store.…`. -/
def PendingCall.run {α : Type} (pending : PendingCall)
    (call : TopicTables → Except StoreError (α × TopicTables)) : TopicAction α := do
  Action.modify (·.append_all (pending.appended.map Subtype.val))
  match pending.failure with
  | some error => Action.raise (.store error)
  | none => do
      let world ← Action.get
      let (returned, tables) ← lift ((call world.tables).mapError .store)
      Action.modify (fun world => { world with tables })
      pure returned

def record_anchor (casefold : String → String) (pending : PendingCall) (topic_id : String)
    (topic : TopicRow) (seq : Nat) (product_anchor_type entry_id encoded_anchor_type : String) :
    TopicAction Unit := do
  let record : TopicAnchorRecord :=
    { topic_id, seq
      tape_id := topic.tape_id
      anchor_type := product_anchor_type
      entry_id := some entry_id
      metadata := [("encoded_anchor_type", .str encoded_anchor_type),
        ("product_anchor_type", .str product_anchor_type)] }
  lift ((record.post_init casefold).mapError .store)
  pending.run (fun tables => (fun tables => ((), tables)) <$> tables.record_topic_anchor record)

/-- The body of the `try`: the topic's row is written, and its anchor recorded. -/
def write_and_record (casefold : String → String) (writing recording : PendingCall)
    (write : TopicTables → Except StoreError (TopicRow × TopicTables)) (topic_id : String)
    (seq : Nat) (product_anchor_type entry_id encoded_anchor_type : String) :
    TopicAction TopicRow := do
  let stored ← writing.run write
  record_anchor casefold recording topic_id stored seq product_anchor_type entry_id
    encoded_anchor_type
  pure stored

/-- `try: ... except Exception: _remove_anchor(...); raise`. -/
def removing_anchor {α : Type} (seq : Nat) (entry_id : String) (action : TopicAction α) :
    TopicAction α := do
  match ← attempt action with
  | .ok returned => pure returned
  | .error error => do
      Action.modify (·.remove_anchor seq entry_id)
      Action.raise error

/-- `label or default`. -/
def label_or (label : Option String) (default : String) : String :=
  match label with
  | none => default
  | some label => if label = "" then default else label

/-- The arguments of `create_topic`, with what the factory, the clock and the store give. -/
structure CreateCall where
  topic_id : String
  session_id : String
  kind : String
  title : Option String := none
  owner : Option String := none
  metadata : JsonObject := []
  created_at : Datetime
  stamp : EntryStamp
  writing : PendingCall := {}
  recording : PendingCall := {}

namespace CreateCall

def anchor (call : CreateCall) : Entry :=
  topic_anchor call.topic_id TOPIC_INITIAL "topic_start" (label_or call.title "Topic started")
    call.stamp

/-- The record, for an anchor at `seq`. -/
def record (call : CreateCall) (tape_id : String) (seq : Nat) : TopicRecord where
  topic_id := call.topic_id
  tape_id := tape_id
  session_id := call.session_id
  kind := call.kind
  status := .open
  title := call.title
  summary := none
  owner := call.owner
  topic_initial_seq := seq
  topic_finalized_seq := none
  created_at := call.created_at
  finalized_at := none
  metadata := call.metadata

end CreateCall

/-- The `try` of `create_topic`, with the anchor at `seq`. -/
def CreateCall.guarded (casefold : String → String) (call : CreateCall) (record : TopicRecord)
    (seq : Nat) : TopicAction TopicRow :=
  removing_anchor seq call.anchor.id
    (write_and_record casefold call.writing call.recording
      (fun tables => tables.create_topic record) call.topic_id seq TOPIC_INITIAL call.anchor.id
      "topic_start")

def create_topic (casefold : String → String) (call : CreateCall) : TopicAction TopicRow := do
  let world ← Action.get
  let seq := world.tape.entries.length
  let record := call.record world.tape.tape_id seq
  Action.modify (·.append_all [call.anchor])
  -- the record is built outside the `try`: a bad one leaves the anchor on the tape
  lift ((record.post_init casefold).mapError .other)
  call.guarded casefold record seq

/-- The arguments of `finalize_topic` and `abort_topic`: the topic, of which only its id and its
tape are read. `deferred` is what the memory candidate or the semantic sync raises afterwards. -/
structure CloseCall where
  topic_id : String
  topic_tape_id : String
  aborts : Bool := false
  summary : Option String := none
  metadata : JsonObject := []
  finalized_at : Datetime
  stamp : EntryStamp
  writing : PendingCall := {}
  recording : PendingCall := {}
  deferred : Option StoreError := none

namespace CloseCall

def close_status (call : CloseCall) : TopicStatus := if call.aborts then .aborted else .finalized

def product_anchor_type (call : CloseCall) : String :=
  if call.aborts then TOPIC_ABORTED else TOPIC_FINALIZED

def anchor (call : CloseCall) : Entry :=
  topic_anchor call.topic_id call.product_anchor_type "topic_end"
    (label_or call.summary (if call.aborts then "Topic aborted" else "Topic finalized")) call.stamp

/-- The store call, for an anchor at `seq`. -/
def write (casefold : String → String) (call : CloseCall) (seq : Nat) (tables : TopicTables) :
    Except StoreError (TopicRow × TopicTables) :=
  if call.aborts then
    tables.abort_topic casefold call.topic_id call.summary seq call.finalized_at call.metadata
  else
    tables.finalize_topic casefold call.topic_id call.summary seq call.finalized_at call.metadata

/-- The `try` of `_close_topic`, with the anchor at `seq`. -/
def guarded (casefold : String → String) (call : CloseCall) (seq : Nat) : TopicAction TopicRow :=
  removing_anchor seq call.anchor.id
    (write_and_record casefold call.writing call.recording (call.write casefold seq)
      call.topic_id seq call.product_anchor_type call.anchor.id "topic_end")

end CloseCall

def close_topic (casefold : String → String) (call : CloseCall) : TopicAction TopicRow := do
  let world ← Action.get
  when (world.tape.tape_id ≠ call.topic_tape_id) (Action.raise
    (.other (.raised .ValueError
      ("topic " ++ call.topic_id ++ " belongs to tape " ++ call.topic_tape_id))))
  let seq := world.tape.entries.length
  Action.modify (·.append_all [call.anchor])
  let stored ← call.guarded casefold seq
  match call.deferred with
  | some error => Action.raise (.other error)
  | none => pure stored

inductive TopicCall where
  | create (call : CreateCall)
  | close (call : CloseCall)

def TopicCall.run (casefold : String → String) : TopicCall → TopicAction TopicRow
  | .create call => create_topic casefold call
  | .close call => close_topic casefold call

/-- What happens to the tape: entries are appended, and the lifecycle is called. -/
inductive TopicEvent where
  | append (entry : OrdinaryEntry)
  | call (call : TopicCall)

end CodingAgentLoop
