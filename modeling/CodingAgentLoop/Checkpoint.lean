/-
Restoring a checkpoint (`coding_agent/stores/local_durable/checkpoint.py`, and the
restore points of `coding_agent/runtime_activation.py`).

A checkpoint of a legacy session is its tape and its plugins' states; one of an
`agentkit-1` session is a `RestorePoint`, which names the operation state it was
captured at and carries neither. `restore_checkpoint_state` writes the caller's
session payload as it is: the version of that payload decides which of the two
formats is accepted, and nothing compares it with the stored one.

The rows of the tape and of the topics are not in the model, since no modelled function
reads them; the checks a tape entry must pass are.
-/
import CodingAgentLoop.StoreRun

namespace CodingAgentLoop

open Lib Result

structure CheckpointMeta where
  checkpoint_id : String
  tape_id : String
  session_id : Option String
  entry_count : Nat
  created_at : Datetime

/-- `CheckpointSnapshot`. `info` is the source's `meta`. -/
structure CheckpointSnapshot where
  info : CheckpointMeta
  tape_entries : List JsonObject
  plugin_states : JsonObject
  extra : JsonObject := []

/-- `checkpoints`. -/
structure CheckpointRow where
  tape_id : String
  session_id : String
  entry_count : Nat

structure DurableStore where
  tables : Tables
  checkpoints : Table String CheckpointRow := ∅

/-! ## Restore points -/

def CHECKPOINT_FORMAT_KEY : String := "checkpoint_format"

def OPERATION_STATE_VERSION_KEY : String := "operation_state_version"

def is_new_runtime_restore_point (snapshot : CheckpointSnapshot) : Bool :=
  snapshot.extra.get CHECKPOINT_FORMAT_KEY = .str RUNTIME_VERSION_NEW
    ∧ (snapshot.extra.find OPERATION_STATE_VERSION_KEY).isSome
    ∧ snapshot.tape_entries = [] ∧ snapshot.plugin_states = []

def restore_point_stamp (extra : JsonObject) : Except StoreError (Option JsonObject) :=
  match extra.get OPERATION_STATE_VERSION_KEY with
  | .null => .ok none
  | .obj stamp => .ok (some stamp)
  | _ => raise .ValueError "operation_state_version must be an object or null"

def stamped_transition (stamp : JsonObject) : Json :=
  match stamp.get "commit_ref" with
  | .obj commit_ref => JsonObject.get commit_ref "transition_id"
  | _ => .null

/-- `restore_point_cas_matches(stamp, ...)` against a stored operation state. -/
def restore_point_cas_matches (stamp : JsonObject) (state : OperationStateVersion) : Bool :=
  (stamp.get "run_id").py_eq (.str state.run_id)
    && (stamp.get "revision").py_eq (.int state.revision)
    && (stamp.get "projection_epoch").py_eq (.int state.projection_epoch)
    && (stamped_transition stamp).py_eq (.str state.commit_ref.transition_id)

def assert_checkpoint_allowed (payload : JsonObject) (snapshot : CheckpointSnapshot) :
    Except StoreError Unit := do
  let version ← parse_runtime_version payload
  if version = RUNTIME_VERSION_NEW then
    raise_if (is_new_runtime_restore_point snapshot = false) .NewRuntimeCheckpointRejectedError
      "new-runtime checkpoint capture and restore require RestorePoint format"
  else
    raise_if (is_new_runtime_restore_point snapshot) .NewRuntimeCheckpointRejectedError
      "legacy sessions cannot capture or restore agentkit-1 RestorePoints"

/-- `_assert_restore_point_cas`: a stamped restore point is restored at the state it names. -/
def assert_restore_point_cas (db : Tables) (session_id : String) (snapshot : CheckpointSnapshot) :
    Except StoreError Unit :=
  if is_new_runtime_restore_point snapshot = false then .ok ()
  else do
    let stamp ← restore_point_stamp snapshot.extra
    match stamp with
    | none => return ()
    | some stamp =>
      match stamp.get "run_id" with
      | .str run_id => do
          raise_if (run_id = "") .ValueError
            "operation_state_version.run_id must be a non-empty string"
          raise_if ((db.session_operation_states.row (session_id, run_id)).all
              (fun state => restore_point_cas_matches stamp state = false))
            .StateVersionConflictError "restore point operation state does not match"
      | _ => raise .ValueError "operation_state_version.run_id must be a non-empty string"

/-! ## Tape entries -/

section

variable (entry : JsonObject)

def optional_entry_str (key : String) : Except StoreError (Option String) :=
  match entry.get key with
  | .null => .ok none
  | .str value => .ok (some value)
  | _ => raise .TypeError ("tape entry " ++ key ++ " must be a string when present")

/-- The text under `key` of one container of an entry. -/
def container_str (container_key key : String) :
    Except StoreError (Option String) :=
  match entry.get container_key with
  | .obj container =>
    match JsonObject.get container key with
    | .str value => .ok (if value = "" then none else some value)
    | .null => .ok none
    | _ => raise .TypeError
        ("tape entry " ++ container_key ++ "." ++ key ++ " must be a string")
  | _ => .ok none

def entry_nested_str (key : String) : Except StoreError (Option String) := do
  let value ← container_str entry "meta" key
  match value with
  | some value => return some value
  | none => container_str entry "payload" key

def entry_anchor_type : Except StoreError (Option String) :=
  match entry.get "anchor_type" with
  | .str value =>
    if value = "" then container_str entry "meta" "anchor_type" else .ok (some value)
  | .null => container_str entry "meta" "anchor_type"
  | _ => raise .TypeError "tape entry anchor_type must be a string"

def check_tape_entry : Except StoreError Unit := do
  let _ ← optional_entry_str entry "kind"
  let _ ← entry_nested_str entry "run_id"
  let _ ← entry_nested_str entry "tool_call_id"
  let _ ← entry_anchor_type entry

end

/-! ## Restoring -/

def assert_tape_belongs_to_session (db : Tables) (tape_id session_id : String) :
    Except StoreError Unit :=
  match db.session_tapes.first (fun _ bound => bound = tape_id) with
  | none => raise .SessionOwnershipConflictError "tape target is not bound to a session"
  | some (bound_session_id, _) =>
    raise_if (bound_session_id ≠ session_id) .SessionOwnershipConflictError
      "tape target belongs to another session"

/-- What `restore_checkpoint_state` checks before its transaction. -/
def check_restore_request (authority : OwnerAuthority) (snapshot : CheckpointSnapshot)
    (session_payload : JsonObject) : Except StoreError Unit := do
  assert_checkpoint_allowed session_payload snapshot
  raise_if (snapshot.info.session_id ≠ some authority.session_id) .SessionOwnershipConflictError
    "checkpoint belongs to another session"
  raise_if (session_payload.get "id" ≠ .str authority.session_id) .SessionOwnershipConflictError
    "session payload belongs to another owner"
  raise_if (session_payload.get "tape_id" ≠ .str snapshot.info.tape_id)
    .SessionOwnershipConflictError
    "checkpoint restore session payload has mismatched tape id"

/-- The stored checkpoint is the session's. -/
def check_checkpoint_row (checkpoints : Table String CheckpointRow) (session_id : String)
    (info : CheckpointMeta) : Except StoreError Unit :=
  match checkpoints.row info.checkpoint_id with
  | none => raise .KeyError ("checkpoint not found: " ++ info.checkpoint_id)
  | some row =>
    raise_if (row.session_id ≠ session_id ∨ row.tape_id ≠ info.tape_id)
      .SessionOwnershipConflictError "checkpoint target belongs to another session"

/-- `slot_id LIKE 'turn:%'`, which does not look at the case of ASCII letters. -/
def is_turn_slot (slot_id : String) : Bool :=
  (slot_id.toList.take 5).map Char.toLower = "turn:".toList

section

variable (started_after : Datetime → Datetime → Bool)

/-- A run that started after the checkpoint, marked as superseded by it. `started_after` is
the comparison of the two instants as `julianday` makes it. -/
def supersede_run (now : Datetime)
    (session_id : String) (info : CheckpointMeta) (run : AgentRunRecord) : AgentRunRecord :=
  if run.session_id = session_id ∧ started_after run.started_at info.created_at
      ∧ run.superseded_at = none then
    { run with
      superseded_by_checkpoint_id := some info.checkpoint_id
      superseded_at := some now }
  else run

/-- The tables after a restore: the caller's payload, unstamped, in a new projection epoch. -/
def restored_tables (db : Tables) (now : Datetime)
    (session_id : String) (info : CheckpointMeta) (session_payload : JsonObject) : Tables :=
  open_projection_epoch
    { db with
      agent_http_sessions := db.agent_http_sessions.put session_id session_payload
      agent_runs := db.agent_runs.update (fun _ run =>
        supersede_run started_after now session_id info run)
      session_mailbox_slots := db.session_mailbox_slots.delete_where (fun key _ =>
        key.1 = session_id ∧ is_turn_slot key.2) }
    session_id

/-- The transaction of `restore_checkpoint_state`. -/
def restore_checkpoint_state (store : DurableStore)
    (clock : Datetime) (authority : OwnerAuthority) (snapshot : CheckpointSnapshot)
    (session_payload : JsonObject) : Except StoreError DurableStore := do
  let info := snapshot.info
  let session_id := authority.session_id
  assert_authority store.tables clock authority
  assert_tape_belongs_to_session store.tables info.tape_id session_id
  assert_restore_point_cas store.tables session_id snapshot
  check_checkpoint_row store.checkpoints session_id info
  check_each snapshot.tape_entries check_tape_entry
  require_non_empty "tape_id" info.tape_id
  return {
    tables := restored_tables started_after store.tables clock session_id info session_payload
    checkpoints := store.checkpoints.delete_where (fun _ row =>
      row.tape_id = info.tape_id ∧ row.session_id = session_id
        ∧ info.entry_count < row.entry_count) }

theorem restored_sessions (db : Tables) (now : Datetime)
    (session_id : String) (info : CheckpointMeta) (session_payload : JsonObject) :
    (restored_tables started_after db now session_id info session_payload).agent_http_sessions
      = db.agent_http_sessions.put session_id session_payload := rfl

end

theorem restore_eq_ok {started_after : Datetime → Datetime → Bool} {store store' : DurableStore}
    {clock : Datetime} {authority : OwnerAuthority} {snapshot : CheckpointSnapshot}
    {session_payload : JsonObject}
    (h : restore_checkpoint_state started_after store clock authority snapshot session_payload
      = .ok store') :
    store'.tables = restored_tables started_after store.tables clock authority.session_id
      snapshot.info session_payload := by
  simp only [restore_checkpoint_state, check_bind_eq_ok, pure_eq_ok] at h
  obtain ⟨-, -, -, -, -, -, rfl⟩ := h
  rfl

end CodingAgentLoop
