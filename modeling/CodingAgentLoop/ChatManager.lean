/-
The chat calls of a `SessionManager` on one of its sessions (`PersistOps` of
`coding_agent/server/session/persist.py`).

The manager keeps the session as an object and the store keeps a payload of it. Every writer but
one takes its payload from the object, whole: `to_store_data`. A call of the store is a dialogue of
its accesses (`SessionCalls.lean`); it has returned when the coroutine goes on, which is a step of
its own, so others may run between a transaction and what the caller does with its outcome.
-/
import CodingAgentLoop.SessionCalls
import CodingAgentLoop.Lib.EventLoop

namespace CodingAgentLoop

open Lib Coroutine

/-! ## The session object -/

/-- `Session`: what the chat calls read and write of it. `record` is the rest of what is stored. -/
structure ChatSession where
  record : JsonObject := []
  tape_id : Option String := none
  current_turn_id : Option String := none
  turn_in_progress : Bool := false
  turn_status : String := "idle"
  runtime_attached : Bool := false

def ChatSession.to_store_data (session : ChatSession) (session_id : String) : JsonObject :=
  ("id", .str session_id) :: ("tape_id", Json.of_str? session.tape_id)
    :: ("turn_id", Json.of_str? session.current_turn_id) :: session.record

/-- `retain_session_tape(session, ctx)`, after the runtime is attached. -/
def ChatSession.attach_runtime (session : ChatSession) (tape_id : String) : ChatSession :=
  { session with runtime_attached := true, tape_id := some (session.tape_id.getD tape_id) }

def ChatAuthority (session_id : String) : Type :=
  { authority : OwnerAuthority // authority.session_id = session_id }

/-- The manager: its store, and of the session the object in its cache, its owner authority and its
assistant buffer. -/
structure ChatManager (session_id : String) where
  store : DurableStore
  session : ChatSession
  owner_authority : Option (ChatAuthority session_id)
  chat_assistant_buffer : Option (String × String) := none

namespace ChatManager

variable {session_id : String}

section

variable (manager : ChatManager session_id)

def put_store (store : DurableStore) : ChatManager session_id :=
  { manager with store }

def put_session (session : ChatSession) :
    ChatManager session_id :=
  { manager with session }

def put_buffer (buffer : Option (String × String)) :
    ChatManager session_id :=
  { manager with chat_assistant_buffer := buffer }

end

end ChatManager

/-! ## Awaits -/

/-- The calls of the store that write a session. -/
inductive StoreMethod where
  | save_session
  | commit_authoritative_uow
  | settle_root_run
  | admit_chat_command

/-- What an event is stamped with: the projection epoch that was read, `uuid.uuid4().hex` and
`datetime.now(UTC)`. -/
structure ChatStamp where
  projection_epoch : String
  fresh_id : String
  now : Datetime

/-- What the calls await: an access of a call of the store, its return, the epoch of the session, an
owner check, a runtime, or the reads and deliveries of a publication. -/
inductive ManagerQuery where
  | store (method : StoreMethod) (query : SessionQuery)
  | returned (method : StoreMethod)
  | projection_epoch
  | assert_owner
  | build_runtime
  | publish

abbrev ManagerQuery.Answer : ManagerQuery → Type
  | store _ query => SessionAnswer query
  | returned _ => Unit
  | projection_epoch => Except StoreError ChatStamp
  | assert_owner => Except StoreError Unit
  | build_runtime => Except StoreError String
  | publish => Except StoreError Unit

abbrev ManagerTask (session_id : String) (α : Type) : Type :=
  Coroutine (ChatManager session_id) ManagerQuery ManagerQuery.Answer StoreError α

namespace ManagerTask

variable {session_id : String}

def awaited (query : ManagerQuery) : ManagerTask session_id query.Answer := ask query

/-- `await store.method(...)`. -/
def call_store {α : Type} (method : StoreMethod) (call : SessionTask α) :
    ManagerTask session_id α := do
  let result : Except StoreError α ← attempt (.store method) (fun _ answer => answer) call
  let _ ← awaited (.returned method)
  lift result

def held_authority (message : String) :
    Option (ChatAuthority session_id) → ManagerTask session_id OwnerAuthority
  | none => .fail (.raised .SessionOwnershipConflictError message)
  | some authority => pure authority.val

/-- `self._owner_authorities.get(session_id)`, which must be there. -/
def owner_authority (message : String) : ManagerTask session_id OwnerAuthority := do
  let manager ← Coroutine.get
  held_authority message manager.owner_authority

/-! ## The calls -/

def persist_session_async : ManagerTask session_id Unit := do
  let manager ← Coroutine.get
  let payload := manager.session.to_store_data session_id
  let authority ← owner_authority "session metadata mutation requires owner authority"
  call_store .save_session (SessionTask.save_session authority payload)

def ensure_session_runtime : ManagerTask session_id Unit := do
  let owner : Except StoreError Unit ← awaited .assert_owner
  lift owner
  let manager ← Coroutine.get
  if manager.session.runtime_attached then
    return ()
  else
    let built : Except StoreError String ← awaited .build_runtime
    let tape_id ← lift built
    Coroutine.modify (fun manager => manager.put_session (manager.session.attach_runtime tape_id))
    persist_session_async

section

variable (session_id : String) (session : ChatSession) (event_kind : String) (payload : JsonObject)

def chat_event_record (stamp : ChatStamp) : EventRecord where
  event_id := session_id ++ ":" ++ event_kind ++ ":" ++ session.current_turn_id.getD "none" ++ ":e"
    ++ stamp.projection_epoch ++ ":" ++ stamp.fresh_id
  session_id
  event_kind
  payload
  created_at := stamp.now

def chat_event_unit (run_id : String) (stamp : ChatStamp) : AuthoritativeUnitOfWork where
  event := some (chat_event_record session_id session event_kind payload stamp)
  session_state := session.to_store_data session_id
  require_unsettled_root_run_id := some run_id

end

/-- `except RootRunAlreadySettledError: return`. -/
def unless_settled : StoreError → ManagerTask session_id Bool
  | .raised .RootRunAlreadySettledError _ => pure false
  | error => .fail error

def commit_chat_event (authority : OwnerAuthority) (event_kind : String) (payload : JsonObject)
    (run_id : String) (stamp : ChatStamp) : ManagerTask session_id Bool := do
  let manager ← Coroutine.get
  let unit ← lift (UnitOfWork.make
    (chat_event_unit session_id manager.session event_kind payload run_id stamp))
  let _ ← call_store .commit_authoritative_uow (SessionTask.commit_authoritative_uow authority unit)
  return true

/-- `await self._publish_chat_commit(commit)`. -/
def publish_chat_commit : ManagerTask session_id Unit := do
  let published : Except StoreError Unit ← awaited .publish
  lift published

def commit_and_publish_chat_event (event_kind : String) (payload : JsonObject) (run_id : String) :
    ManagerTask session_id Unit := do
  let authority ← owner_authority "chat event persist requires owner authority"
  let stamped : Except StoreError ChatStamp ← awaited .projection_epoch
  let stamp ← lift stamped
  let committed ← (commit_chat_event authority event_kind payload run_id stamp).handle unless_settled
  if committed then publish_chat_commit else return ()

def flush_buffered : Option (String × String) → ManagerTask session_id Unit
  | none => pure ()
  | some (run_id, text) =>
    if text = "" then pure ()
    else
      commit_and_publish_chat_event "assistant_message"
        [("run_id", .str run_id), ("text", .str text)] run_id

def flush_chat_assistant_buffer : ManagerTask session_id Unit := do
  let manager ← Coroutine.get
  Coroutine.modify (fun manager => manager.put_buffer none)
  flush_buffered manager.chat_assistant_buffer

end ManagerTask

/-- The messages of a turn that are persisted, and the others. -/
inductive ChatWireMessage where
  | StreamDelta (content : String)
  | ThinkingDelta (text : String)
  | ToolCallDelta (call_id tool_name : String) (arguments : JsonObject)
  | ToolResultDelta (call_id display_result : String) (result : Json) (is_error : Bool)
  | other

namespace ManagerTask

variable {session_id : String}

/-- The output of a tool result: what is to be shown or, if there is none, a text result. -/
def tool_output (display_result : String) (result : Json) : String :=
  match result with
  | .str text => if display_result = "" then text else display_result
  | _ => display_result

/-- The buffer after one more piece of the answer of `run_id`. -/
def extended_buffer (buffer : Option (String × String)) (run_id content : String) :
    String × String :=
  match buffer with
  | none => (run_id, content)
  | some (buffered_run_id, text) =>
    if buffered_run_id = run_id then (run_id, text ++ content) else (run_id, content)

/-- The event of a message that is not a piece of the answer. -/
def chat_event_of (run_id : String) : ChatWireMessage → Option (String × JsonObject)
  | .StreamDelta _ => none
  | .ThinkingDelta text => some ("thinking", [("run_id", .str run_id), ("text", .str text)])
  | .ToolCallDelta call_id tool_name arguments => some ("tool_call",
      [("run_id", .str run_id), ("call_id", .str call_id), ("tool_name", .str tool_name),
       ("arguments", .obj arguments)])
  | .ToolResultDelta call_id display_result result is_error => some ("tool_result",
      [("run_id", .str run_id), ("call_id", .str call_id),
       ("output", .str (tool_output display_result result)), ("is_error", .bool is_error)])
  | .other => none

def buffer_piece (run_id content : String) : ManagerTask session_id Unit :=
  Coroutine.modify (fun manager => manager.put_buffer
    (some (extended_buffer manager.chat_assistant_buffer run_id content)))

/-- A piece of the answer is buffered; what is buffered of another run is flushed first. -/
def buffer_stream_delta (run_id content : String) : ManagerTask session_id Unit := do
  let manager ← Coroutine.get
  if manager.chat_assistant_buffer.any (fun previous => previous.1 ≠ run_id) then
    flush_chat_assistant_buffer
    buffer_piece run_id content
  else buffer_piece run_id content

def persist_chat_event (run_id : String) : Option (String × JsonObject) → ManagerTask session_id Unit
  | none => pure ()
  | some (event_kind, payload) => commit_and_publish_chat_event event_kind payload run_id

/-- A message of the run `run_id`. -/
def persist_message (run_id : String) : ChatWireMessage → ManagerTask session_id Unit
  | .StreamDelta content => buffer_stream_delta run_id content
  | message => do
      flush_chat_assistant_buffer
      persist_chat_event run_id (chat_event_of run_id message)

def persist_in_turn (message : ChatWireMessage) : Option String → ManagerTask session_id Unit
  | none => pure ()
  | some run_id => persist_message run_id message

def persist_chat_wire_message (message : ChatWireMessage) : ManagerTask session_id Unit := do
  let manager ← Coroutine.get
  persist_in_turn message manager.session.current_turn_id

def begin_turn (run_id : String) (session : ChatSession) : ChatSession :=
  { session with current_turn_id := some run_id, turn_in_progress := true }

def end_turn (run_id outcome : String) (session : ChatSession) : ChatSession :=
  if session.current_turn_id = some run_id then
    { session with turn_in_progress := false, turn_status := outcome }
  else session

def settle_root_run (settlement : RootSettlement) : ManagerTask session_id Unit := do
  let authority ← owner_authority "root settlement requires owner authority"
  flush_chat_assistant_buffer
  let _ ← call_store .settle_root_run (SessionTask.settle_root_run authority settlement)
  Coroutine.modify (fun manager =>
    manager.put_session (end_turn settlement.run_id settlement.outcome manager.session))
  publish_chat_commit

/-- The manager learns of an admission, and publishes it; of a replay it has nothing to learn. -/
def admitted (admission : ChatCommandAdmission) : ManagerTask session_id Unit :=
  if admission.idempotent then pure ()
  else do
    Coroutine.modify (fun manager =>
      manager.put_session (begin_turn admission.run_id manager.session))
    publish_chat_commit

/-- What `admit_chat_command` does once the session has a tape. -/
def admit_on_tape (host : SessionHost) (authority : OwnerAuthority) (prompt command_id : String)
    (parent_run_id : Option String) : ManagerTask session_id Unit := do
  let manager ← Coroutine.get
  let admission ← call_store .admit_chat_command (SessionTask.admit_chat_command host authority
    { prompt, command_id, parent_run_id
      session_state := manager.session.to_store_data session_id })
  admitted admission

def admit_chat_command (host : SessionHost) (prompt command_id : String)
    (parent_run_id : Option String) : ManagerTask session_id Unit := do
  let authority ← owner_authority "chat admission requires owner authority"
  let manager ← Coroutine.get
  if manager.session.tape_id = none then
    ensure_session_runtime
    admit_on_tape host authority prompt command_id parent_run_id
  else admit_on_tape host authority prompt command_id parent_run_id

end ManagerTask

inductive ManagerCall where
  | admit_chat_command (prompt command_id : String) (parent_run_id : Option String)
  | settle_root_run (settlement : RootSettlement)
  | persist_chat_wire_message (message : ChatWireMessage)
  | persist_session_async

variable {session_id : String}

def ManagerCall.code (host : SessionHost) : ManagerCall → ManagerTask session_id Unit
  | .admit_chat_command prompt command_id parent_run_id =>
    ManagerTask.admit_chat_command host prompt command_id parent_run_id
  | .settle_root_run settlement => ManagerTask.settle_root_run settlement
  | .persist_chat_wire_message message => ManagerTask.persist_chat_wire_message message
  | .persist_session_async => ManagerTask.persist_session_async

/-- An access of the store is answered by the store, at any clock reading; every other await in any
way, and it leaves the manager as it was. -/
def ManagerAnswers (host : SessionHost) (manager : ChatManager session_id) :
    (query : ManagerQuery) → query.Answer → ChatManager session_id → Prop
  | .store _ query, answer, manager' =>
    ∃ clock store, respond host clock manager.store query = (answer, store)
      ∧ manager' = manager.put_store store
  | _, _, manager' => manager' = manager

/-- What others may do meanwhile: anything that leaves the session's payload, the runs and the turn
of the session object alone. -/
def ManagerChanges (manager manager' : ChatManager session_id) : Prop :=
  OtherWrites manager.store manager'.store
    ∧ manager'.session.current_turn_id = manager.session.current_turn_id

abbrev ManagerLoop (session_id : String) : Type :=
  EventLoop ManagerCall (ChatManager session_id) ManagerQuery ManagerQuery.Answer StoreError Unit

abbrev ManagerEvent (session_id : String) : Type :=
  LoopEvent ManagerCall (ChatManager session_id) ManagerQuery ManagerQuery.Answer

abbrev ManagerStep (host : SessionHost) :
    ManagerLoop session_id → ManagerEvent session_id → ManagerLoop session_id → Prop :=
  EventLoop.Step (ManagerCall.code host) (ManagerAnswers host) ManagerChanges

end CodingAgentLoop
