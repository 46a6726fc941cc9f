/-
The messages a model is given (`agentkit/context/builder.py`).

The core messages are made from the entries of the tape, in order: an entry is a message
of its own or none, except that consecutive `tool_call` entries are one message, which
takes the place of an assistant text directly before it. That group is the loop's only
state besides the list it appends to, and `Building` holds both; `take_entry` is the loop
body.

The list is extended in place, so what a raise leaves behind is the list as far as it
came: the loop is an `Action` on it.
-/
import CodingAgentLoop.Lib.Stateful
import CodingAgentLoop.Tape

namespace CodingAgentLoop

open Lib JsonObject

abbrev Message := JsonObject

/-- The two ways a value is put into text: `json.dumps(value)` and `str(value)`. -/
structure JsonText where
  dumps : Json → String
  str : Json → String

/-- Consecutive `tool_call` entries: the message they are collected for. -/
structure ToolCallGroup where
  role : Json
  reasoning_content : Option Json := none
  tool_calls : List Json := []

/-- The messages so far and the group being collected, if there is one. -/
structure Building where
  messages : List Message := []
  pending : Option ToolCallGroup := none

namespace Entry

/-- `entry.meta.get("skip_context")`. -/
def skip_context (entry : Entry) : Bool := (entry.meta_.get "skip_context").truthy

/-- `entry.payload.get("role", "assistant")`, the role of a group the entry opens. -/
def call_role (entry : Entry) : Json := entry.payload.get_or "role" (.str "assistant")

/-- The tool calls of an entry: a list of them, or the one its payload is. -/
def calls (entry : Entry) : List Json :=
  match entry.payload.get "tool_calls" with
  | .arr tool_calls => tool_calls
  | _ => [.obj
      [("id", entry.payload.get_or "id" (.str "")),
       ("name", entry.payload.get_or "name" (.str "")),
       ("arguments", entry.payload.get_or "arguments" (.obj []))]]

end Entry

namespace ToolCallGroup

/-- The group a `tool_call` entry opens. -/
def opened (entry : Entry) : ToolCallGroup where
  role := entry.call_role

/-- The group with the calls of one more entry. -/
def take (group : ToolCallGroup) (entry : Entry) : ToolCallGroup where
  role := group.role
  reasoning_content :=
    -- the first reasoning content that is not empty stays
    let reasoning_content := entry.payload.get "reasoning_content"
    if reasoning_content.truthy ∧ group.reasoning_content = none then some reasoning_content
    else group.reasoning_content
  tool_calls := group.tool_calls ++ entry.calls

end ToolCallGroup

namespace Message

/-- `"tool_calls" in message`. -/
def has_tool_calls (message : Message) : Bool := (find message "tool_calls").isSome

/-- A message of its own text, with its reasoning when there is one. -/
def with_reasoning (message : Message) (reasoning_content : Json) : Message :=
  if reasoning_content.truthy then JsonObject.set message "reasoning_content" reasoning_content
  else message

/-- A group of `role` that is closed after this message takes its place. -/
def absorbed_by (message : Message) (role : Json) : Bool :=
  (JsonObject.get message "role").py_eq role ∧ (JsonObject.get message "content").truthy
    ∧ !message.has_tool_calls

end Message

def tool_call_to_message (text : JsonText) : Json → Except StoreError Json
  | .obj tool_call =>
    let arguments :=
      match get_or tool_call "arguments" (.obj []) with
      | .str arguments => arguments
      | arguments => text.dumps arguments
    .ok (.obj
      [("id", get_or tool_call "id" (.str "")),
       ("type", .str "function"),
       ("function", .obj
         [("name", get_or tool_call "name" (.str "")),
          ("arguments", .str arguments)])])
  | value => raise .AttributeError ("'" ++ value.type_name ++ "' object has no attribute 'get'")

/-- `_entry_to_message(entry)` of an entry that is not a `tool_call`. -/
def entry_to_message (text : JsonText) (entry : Entry) : Option Message :=
  if entry.kind = "message" then
    some (Message.with_reasoning
      [("role", entry.payload.get_or "role" (.str "user")),
       ("content", entry.payload.get_or "content" (.str ""))]
      (entry.payload.get "reasoning_content"))
  else if entry.kind = "tool_result" then
    some
      [("role", .str "tool"),
       ("tool_call_id", entry.payload.get_or "tool_call_id" (.str "")),
       ("content", entry.payload.get_or "content" (.str ""))]
  else if entry.kind = "anchor" then
    if entry.fold_boundary ∨ (entry.meta_.get "skip").truthy then none
    else
      let content := entry.payload.get_or "content" (.str "")
      let tag := entry.meta_.get "prefix"
      some
        [("role", .str "system"),
         ("content",
           if tag.truthy then .str ("[" ++ text.str tag ++ "] " ++ text.str content) else content)]
  else none

def ToolCallGroup.message (group : ToolCallGroup) (tool_calls : List Json) : Message :=
  [("role", group.role), ("content", .null), ("tool_calls", .arr tool_calls)]
    ++ match group.reasoning_content with
      | some reasoning_content => [("reasoning_content", reasoning_content)]
      | none => []

/-- The message of a closed group that takes the place of an assistant text. -/
def ToolCallGroup.merged_message (group : ToolCallGroup) (tool_calls : List Json)
    (last : Message) : Message :=
  let tool_call_msg :=
    JsonObject.set (group.message tool_calls) "content" (JsonObject.get last "content")
  if group.reasoning_content = none then
    Message.with_reasoning tool_call_msg (JsonObject.get last "reasoning_content")
  else tool_call_msg

/-- `messages` with the message of a closed group: an assistant text before it is merged into
it, since two messages of one role must not be adjacent. -/
def append_group (messages : List Message) (group : ToolCallGroup) (tool_calls : List Json) :
    List Message :=
  match messages.getLast? with
  | some last =>
    if last.absorbed_by group.role then
      messages.dropLast ++ [group.merged_message tool_calls last]
    else messages ++ [group.message tool_calls]
  | none => [group.message tool_calls]

namespace Building

/-- The state after a `tool_call` entry. -/
def take_call (state : Building) (entry : Entry) : Building where
  messages := state.messages
  pending := some ((state.pending.getD (ToolCallGroup.opened entry)).take entry)

end Building

section

variable (text : JsonText)

def close_group : Action Building StoreError Unit := do
  let state ← Action.get
  match state.pending with
  | none => pure ()
  | some group => do
      let tool_calls ← Action.lift (group.tool_calls.mapM (tool_call_to_message text))
      Action.modify (fun _ => { messages := append_group state.messages group tool_calls })

/-- One turn of the loop. -/
def take_entry (entry : Entry) : Action Building StoreError Unit :=
  if entry.kind = "tool_call" then
    if entry.skip_context then pure () else Action.modify (·.take_call entry)
  else do
    close_group text
    -- an entry that is left out still ends the group before it
    if entry.skip_context then pure ()
    else
      match entry_to_message text entry with
      | some message =>
        Action.modify (fun state => { state with messages := state.messages ++ [message] })
      | none => pure ()

/-- The loop of `append_to_core_messages`. -/
def take_entries (entries : List Entry) : Action Building StoreError Unit := do
  Action.each entries (take_entry text)
  close_group text

/-- `append_to_core_messages(messages, entries)`: the list after it, and whether it raised. -/
def append_to_core_messages (messages : List Message) (entries : List Entry) :
    Except StoreError Unit × List Message :=
  let (outcome, state) := take_entries text entries { messages }
  (outcome, state.messages)

def build_core_messages (entries : List Entry) :
    Except StoreError (List Message) :=
  match append_to_core_messages text [] entries with
  | (.ok (), messages) => .ok messages
  | (.error error, _) => .error error

end

/-- `grounding_insert_index(core_messages)`: before the last user message. -/
def grounding_insert_index (core_messages : List Message) : Nat :=
  match core_messages.reverse.findIdx? (fun message =>
      (JsonObject.get message "role").py_eq (.str "user")) with
  | some back => core_messages.length - 1 - back
  | none => core_messages.length

def system_message (system_prompt : String) : Message :=
  [("role", .str "system"), ("content", .str system_prompt)]

/-- `messages[index:index] = inserted`. -/
def insert_at (messages : List Message) (index : Nat) (inserted : List Message) : List Message :=
  messages.take index ++ inserted ++ messages.drop index

def compose_messages (system_prompt : String) (core_messages grounding : List Message) :
    List Message :=
  let messages :=
    if grounding = [] then core_messages
    else insert_at core_messages (grounding_insert_index core_messages) grounding
  system_message system_prompt :: messages

/-- `patch_messages(messages, core_messages, grounding=grounding or None, ...)`: what it returns
-- where the grounding is and how long it is -- and the list after it. -/
def patch_messages (system_prompt : String) (messages core_messages grounding : List Message)
    (grounding_start grounding_count : Nat) : Except StoreError (Nat × Nat) × List Message :=
  let messages := system_message system_prompt :: messages.tail
  -- nothing is deleted where the count is 0
  let messages := messages.take grounding_start ++ messages.drop (grounding_start + grounding_count)
  let existing_core_count := messages.length - 1
  if core_messages.length < existing_core_count then
    (raise .ValueError "cannot patch incremental messages after core shrink", messages)
  else
    let messages := messages ++ core_messages.drop existing_core_count
    if grounding = [] then (.ok (messages.length, 0), messages)
    else
      let at_index := 1 + grounding_insert_index core_messages
      (.ok (at_index, grounding.length), insert_at messages at_index grounding)

end CodingAgentLoop
