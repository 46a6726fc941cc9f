/-
The calls that write a session's payload, with the awaits between their reads and
their transaction (`LocalUnitOfWorkMixin`, `LocalCoreMixin` and `LocalCheckpointMixin`
of `coding_agent/stores/local_durable/`, and the unit builders of
`coding_agent/events/connected_chat.py`).

Each call is a dialogue over `SessionQuery`: a read, a clock reading or one
transaction. `save_session` reads what it stamps with inside its transaction;
`commit_authoritative_uow`, and with it the two calls that build a unit, reads the
stored payload and the activation flag before; a restore reads neither. An access that
fails ends its call, as a call that is never resumed does, so no failing access is
modelled.
-/
import CodingAgentLoop.Checkpoint
import CodingAgentLoop.Lib.Crew

open Lib Dialogue

namespace CodingAgentLoop

open JsonObject

/-- The host: its hashes, `uuid5` of a chat command in its session, `julianday` comparison. -/
structure SessionHost extends Host where
  chat_run_id : String → String → String
  started_after : Datetime → Datetime → Bool

/-! ## `build_root_settlement` -/

/-- The arguments of `settle_root_run`. -/
structure RootSettlement where
  run_id : String
  outcome : String
  result : Option String := none
  error : Option String := none
  result_payload : Option JsonObject := none
  extra_metadata : Option JsonObject := none

def settled_session (session_state : JsonObject) (run_id outcome : String) : JsonObject :=
  ((session_state.set "turn_id" (.str run_id)).set "turn_in_progress" (.bool false)).set
    "turn_status" (.str outcome)

/-- The result of a run and of its settlement, without the text. -/
def settled_result (result : JsonObject) (result_payload : Option JsonObject) : JsonObject :=
  merge (erase result "text")
    (erase (result_payload.getD []) "text")

/-- `replace(run, status=outcome, ended_at=now, ...)`. -/
def settled_run (run : AgentRunRecord) (settlement : RootSettlement) (now : Datetime) :
    AgentRunRecord :=
  { run with
    status := settlement.outcome
    ended_at := some now
    result := settled_result run.result settlement.result_payload
    error := settlement.error
    metadata := merge run.metadata (settlement.extra_metadata.getD []) }

def root_terminal_payload (settlement : RootSettlement) (run_id : String) : JsonObject :=
  [("run_id", .str run_id),
   ("outcome", .str settlement.outcome),
   ("result", Json.of_str? settlement.result),
   ("error", json_or_null (fun message =>
      .obj [("code", .str "adapter_failed"), ("message", .str message)]) settlement.error)]

def build_root_settlement (run : AgentRunRecord) (session_state : JsonObject)
    (settlement : RootSettlement) (now : Datetime) : Except StoreError UnitOfWork := do
  raise_if (settlement.outcome ∉ settled_run_statuses) .ValueError
    "invalid root settlement outcome"
  let run_state := settled_run run settlement now
  run_state.post_init
  UnitOfWork.make {
    event := some {
      event_id := run.run_id ++ ":root_terminal"
      session_id := run.session_id
      event_kind := "root_terminal"
      payload := root_terminal_payload settlement run.run_id
      created_at := now }
    session_state := settled_session session_state run.run_id settlement.outcome
    run_state := some run_state
    require_unsettled_root_run_id := some run.run_id }

/-! ## `build_chat_admission` -/

/-- The arguments of `admit_chat_command`. -/
structure ChatCommand where
  prompt : String
  command_id : String
  parent_run_id : Option String := none
  session_state : JsonObject

structure ChatCommandAdmission where
  session_id : String
  run_id : String
  command_id : String
  parent_run_id : Option String
  session_seq : Option Nat := none
  idempotent : Bool := false

def ChatCommandAdmission.post_init (admission : ChatCommandAdmission) : Except StoreError Unit := do
  require_non_empty "session_id" admission.session_id
  require_non_empty "run_id" admission.run_id
  require_non_empty "command_id" admission.command_id
  require_non_empty_if_set "parent_run_id" admission.parent_run_id

def chat_tape_id (session_state : JsonObject) : Except StoreError String :=
  match session_state.get "tape_id" with
  | .str tape_id => do
      raise_if (tape_id = "") .ValueError "session_state must include tape_id"
      return tape_id
  | _ => raise .ValueError "session_state must include tape_id"

/-- The unit that admits a chat command as the run `run_id`. -/
def chat_admission_unit (session_id run_id tape_id : String) (command : ChatCommand)
    (now : Datetime) : AuthoritativeUnitOfWork where
  event := some {
    event_id := session_id ++ ":chat-command:" ++ command.command_id
    session_id
    event_kind := "user_prompt"
    payload := [("run_id", .str run_id), ("text", .str command.prompt)]
    created_at := now }
  session_state :=
    (JsonObject.set command.session_state "turn_id" (.str run_id)).set "turn_in_progress"
      (.bool true)
  receipt := some {
    receipt_id := "chat-command:" ++ command.command_id
    generation := 0
    payload :=
      [("command_id", .str command.command_id),
       ("parent_run_id", Json.of_str? command.parent_run_id),
       ("prompt", .str command.prompt),
       ("run_id", .str run_id)] }
  run_state := some {
    run_id
    session_id
    tape_id := some tape_id
    parent_run_id := command.parent_run_id
    agent_id := none
    status := "requested"
    started_at := now
    metadata := [("command_id", .str command.command_id)] }
  require_settled_parent_run_id := command.parent_run_id

def build_chat_admission (host : SessionHost) (session_id : String) (command : ChatCommand)
    (now : Datetime) : Except StoreError (UnitOfWork × ChatCommandAdmission) := do
  require_non_empty "session_id" session_id
  raise_if (command.prompt = "") .ValueError "prompt must be a non-empty string"
  require_non_empty "command_id" command.command_id
  let tape_id ← chat_tape_id command.session_state
  let run_id := host.chat_run_id session_id command.command_id
  let admission : ChatCommandAdmission := {
    session_id
    run_id
    command_id := command.command_id
    parent_run_id := command.parent_run_id }
  admission.post_init
  let unit ← UnitOfWork.make (chat_admission_unit session_id run_id tape_id command now)
  return (unit, admission)

/-! ## Accesses -/

def save_session (db : Tables) (clock : Datetime) (authority : OwnerAuthority)
    (payload : JsonObject) : Except StoreError Tables := do
  assert_authority db clock authority
  let stamped ← stamp_session_payload_for_save payload
    (db.agent_http_sessions.row authority.session_id) db.new_sessions_enabled
  let db ← bind_session_tape db authority.session_id payload
  return { db with
    agent_http_sessions := db.agent_http_sessions.put authority.session_id stamped }

/-- What the calls await. -/
inductive SessionQuery where
  | now
  | load_agent_run (run_id : String)
  /-- `load_session`, and `load_session_payload`, which is the same read. -/
  | load_session (session_id : String)
  | load_runtime_activation
  | save_session (authority : OwnerAuthority) (payload : JsonObject)
  /-- The stamp and the transaction of `commit_authoritative_uow`, on what was read before. -/
  | commit (authority : OwnerAuthority) (unit : UnitOfWork) (stored : Option JsonObject)
      (new_sessions_enabled : Bool)
  | restore_checkpoint_state (authority : OwnerAuthority) (snapshot : CheckpointSnapshot)
      (session_payload : JsonObject)
  | set_new_session_runtime_activation (enabled : Bool)

abbrev SessionAnswer : SessionQuery → Type
  | .now => Datetime
  | .load_agent_run _ => Option AgentRunRecord
  | .load_session _ => Option JsonObject
  | .load_runtime_activation => Bool
  | .save_session _ _ => Except StoreError Unit
  | .commit _ _ _ _ => Except StoreError AuthoritativeCommit
  | .restore_checkpoint_state _ _ _ => Except StoreError Unit
  | .set_new_session_runtime_activation _ => Unit

/-- A transaction on the store: commit on return, roll back on an exception. -/
def DurableStore.transaction {α : Type} (store : DurableStore)
    (body : Except StoreError (DurableStore × α)) : Except StoreError α × DurableStore :=
  match body with
  | .ok (store', answer) => (.ok answer, store')
  | .error error => (.error error, store)

/-- An access at the clock reading `clock`. -/
def respond (host : SessionHost) (clock : Datetime) (store : DurableStore) :
    (query : SessionQuery) → SessionAnswer query × DurableStore
  | .now => (clock, store)
  | .load_agent_run run_id => (store.tables.agent_runs.row run_id, store)
  | .load_session session_id => (store.tables.agent_http_sessions.row session_id, store)
  | .load_runtime_activation => (store.tables.new_sessions_enabled, store)
  | .save_session authority payload => store.transaction do
      let tables ← save_session store.tables clock authority payload
      return ({ store with tables }, ())
  | .commit authority unit stored new_sessions_enabled => store.transaction do
      let (tables, commit) ← commit_authoritative_uow host.toHost store.tables clock authority unit
        stored new_sessions_enabled
      return ({ store with tables }, commit)
  | .restore_checkpoint_state authority snapshot session_payload => store.transaction do
      let restored ← restore_checkpoint_state host.started_after store clock authority snapshot
        session_payload
      return (restored, ())
  | .set_new_session_runtime_activation enabled =>
    ((), { store with tables := { store.tables with new_sessions_enabled := enabled } })

/-! ## Calls -/

abbrev SessionTask := Dialogue SessionQuery SessionAnswer StoreError

namespace SessionTask

/-! The queries, as the calls write them. -/

abbrev now : SessionTask Datetime := Dialogue.await SessionQuery.now

abbrev load_agent_run (run_id : String) : SessionTask (Option AgentRunRecord) :=
  Dialogue.await (SessionQuery.load_agent_run run_id)

abbrev load_session (session_id : String) : SessionTask (Option JsonObject) :=
  Dialogue.await (SessionQuery.load_session session_id)

abbrev load_runtime_activation : SessionTask Bool :=
  Dialogue.await SessionQuery.load_runtime_activation

abbrev save (authority : OwnerAuthority) (payload : JsonObject) :
    SessionTask (Except StoreError Unit) :=
  Dialogue.await (SessionQuery.save_session authority payload)

abbrev commit (authority : OwnerAuthority) (unit : UnitOfWork) (stored : Option JsonObject)
    (new_sessions_enabled : Bool) : SessionTask (Except StoreError AuthoritativeCommit) :=
  Dialogue.await (SessionQuery.commit authority unit stored new_sessions_enabled)

abbrev restore (authority : OwnerAuthority) (snapshot : CheckpointSnapshot)
    (session_payload : JsonObject) : SessionTask (Except StoreError Unit) :=
  Dialogue.await (SessionQuery.restore_checkpoint_state authority snapshot session_payload)

abbrev set_activation (enabled : Bool) : SessionTask Unit :=
  Dialogue.await (SessionQuery.set_new_session_runtime_activation enabled)

section

variable (authority : OwnerAuthority)

def save_session (payload : JsonObject) : SessionTask Unit := do
  lift (check_session_state authority.session_id payload)
  let answer ← save authority payload
  lift answer

def commit_authoritative_uow (unit : UnitOfWork) : SessionTask AuthoritativeCommit := do
  lift (check_session_state authority.session_id unit.val.session_state)
  let stored ← load_session authority.session_id
  let new_sessions_enabled ← load_runtime_activation
  let answer ← commit authority unit stored new_sessions_enabled
  lift answer

/-- The run a settlement is about. -/
def required_run (run_id : String) : Option AgentRunRecord → Except StoreError AgentRunRecord
  | none => raise .KeyError ("root run not found: " ++ run_id)
  | some run => do
      raise_if (run.session_id ≠ authority.session_id) .KeyError
        ("root run not found: " ++ run_id)
      return run

def required_session : Option JsonObject → Except StoreError JsonObject
  | none => raise .KeyError ("session not found: " ++ authority.session_id)
  | some session => .ok session

def settle_root_run (settlement : RootSettlement) : SessionTask AuthoritativeCommit := do
  let stored_run ← load_agent_run settlement.run_id
  let run ← lift (required_run authority settlement.run_id stored_run)
  let stored_session ← load_session authority.session_id
  let session_state ← lift (required_session authority stored_session)
  let built_at ← now
  let unit ← lift (build_root_settlement run session_state settlement built_at)
  commit_authoritative_uow authority unit

end

def admit_chat_command (host : SessionHost) (authority : OwnerAuthority) (command : ChatCommand) :
    SessionTask ChatCommandAdmission := do
  let built_at ← now
  let (unit, admission) ← lift (build_chat_admission host authority.session_id command built_at)
  let commit ← commit_authoritative_uow authority unit
  return { admission with
    session_seq := commit.event.bind (·.session_seq)
    idempotent := commit.idempotent }

def restore_checkpoint_state (authority : OwnerAuthority) (snapshot : CheckpointSnapshot)
    (session_payload : JsonObject) : SessionTask Unit := do
  lift (check_restore_request authority snapshot session_payload)
  let answer ← restore authority snapshot session_payload
  lift answer

end SessionTask

/-- A call with its arguments. -/
inductive SessionCall where
  | save_session (authority : OwnerAuthority) (payload : JsonObject)
  | commit_authoritative_uow (authority : OwnerAuthority) (unit : UnitOfWork)
  | settle_root_run (authority : OwnerAuthority) (settlement : RootSettlement)
  | admit_chat_command (authority : OwnerAuthority) (command : ChatCommand)
  | restore_checkpoint_state (authority : OwnerAuthority) (snapshot : CheckpointSnapshot)
      (session_payload : JsonObject)
  | set_new_session_runtime_activation (enabled : Bool)

inductive SessionReturn where
  | done
  | commit (commit : AuthoritativeCommit)
  | admission (admission : ChatCommandAdmission)

def SessionCall.body (host : SessionHost) : SessionCall → SessionTask SessionReturn
  | .save_session authority payload => do
      SessionTask.save_session authority payload
      return .done
  | .commit_authoritative_uow authority unit => do
      let commit ← SessionTask.commit_authoritative_uow authority unit
      return .commit commit
  | .settle_root_run authority settlement => do
      let commit ← SessionTask.settle_root_run authority settlement
      return .commit commit
  | .admit_chat_command authority command => do
      let admission ← SessionTask.admit_chat_command host authority command
      return .admission admission
  | .restore_checkpoint_state authority snapshot session_payload => do
      SessionTask.restore_checkpoint_state authority snapshot session_payload
      return .done
  | .set_new_session_runtime_activation enabled => do
      SessionTask.set_activation enabled
      return .done

/-- The rest of the store may do anything that leaves sessions, runs and activation alone. -/
def OtherWrites (store store' : DurableStore) : Prop :=
  store'.tables.agent_http_sessions = store.tables.agent_http_sessions
    ∧ store'.tables.agent_runs = store.tables.agent_runs
    ∧ store'.tables.new_sessions_enabled = store.tables.new_sessions_enabled

abbrev SessionCrew := Crew SessionCall DurableStore SessionQuery SessionAnswer StoreError
  SessionReturn

abbrev SessionEvent := CrewEvent SessionCall DurableStore SessionQuery SessionAnswer

abbrev SessionStep (host : SessionHost) : SessionCrew → SessionEvent → SessionCrew → Prop :=
  Crew.Step (SessionCall.body host) (Crew.Responds (respond host)) OtherWrites

end CodingAgentLoop
