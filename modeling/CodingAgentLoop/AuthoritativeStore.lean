/-
The write operations of the local durable store on one session
(`LocalUnitOfWorkMixin` in `coding_agent/stores/local_durable/uow.py`).

`commit_authoritative_uow` is the entry point of both kinds of unit. It reads the
stored session payload and the activation flag before its transaction opens, so
both are arguments here: whatever was read, the transaction decides on the tables
as they are when it runs. A typed unit goes to `commit_transition`; a legacy unit
is committed by `commit_legacy`, the second section. `admit_runtime_command` and
`record_effect_reconciliation_evidence` are the other writers.
-/
import CodingAgentLoop.CommitTransition
import CodingAgentLoop.Activation

open Lib

namespace CodingAgentLoop

/-! ## Runtime commands -/

def runtime_command_mailbox_payload (command : RuntimeCommand) : JsonObject :=
  [("runtime_command_kind", .str command.command_kind),
   ("runtime_command_payload", .obj command.payload)]

/-- `runtime_command_invalidates_dispatch(command)`: a cancel, an interrupt or a denial. -/
def runtime_command_invalidates_dispatch (command : RuntimeCommand) : Except StoreError Bool :=
  if command.command_kind = "cancel" ∨ command.command_kind = "interrupt" then .ok true
  else if command.command_kind ≠ "approval_decision" then .ok false
  else
    match command.payload.get "approved" with
    | .bool approved => .ok (!approved)
    | _ => raise .TypeError "approval_decision payload must contain boolean approved"

structure RuntimeCommandAdmission where
  entry : CommandMailboxEntry
  mailbox_cut : Nat
  idempotent : Bool := false

def runtime_command_from_mailbox_payload (command_id : String) (payload : JsonObject) :
    Except StoreError RuntimeCommand :=
  match payload.get "runtime_command_kind", payload.get "runtime_command_payload" with
  | .str command_kind, .obj command_payload => do
      require_non_empty "command_id" command_id
      raise_if (command_kind = "") .ValueError
        "runtime command mailbox payload is missing command_kind"
      return { command_id, command_kind, payload := command_payload }
  | .str _, _ =>
    raise .TypeError "runtime command mailbox payload must contain an object payload"
  | _, _ => raise .ValueError "runtime command mailbox payload is missing command_kind"

/-- The mailbox row of a command that is admitted again: the same command, admitted
before, and not a legacy slot. -/
def readmission (existing : MailboxRow) (command : RuntimeCommand) (mailbox_cut : Nat) :
    Except StoreError RuntimeCommandAdmission :=
  match existing.admitted_session_seq, existing.admitted_dispatch_generation with
  | some admitted_session_seq, some admitted_dispatch_generation => do
      raise_if ((Json.obj existing.payload).canonical
          ≠ (Json.obj (runtime_command_mailbox_payload command)).canonical)
        .RuntimeCommandAdmissionConflictError
        "runtime command identity was reused with different content"
      let existing_command ←
        runtime_command_from_mailbox_payload command.command_id existing.payload
      return {
        entry := {
          command := existing_command
          admitted_session_seq
          admitted_dispatch_generation
          disposition := existing.disposition }
        mailbox_cut := mailbox_cut
        idempotent := true }
  | _, _ => raise .RuntimeCommandAdmissionConflictError
      "runtime command identity collides with a legacy mailbox slot"

/-- `admit_runtime_command`: a new command takes the next sequence number, and raises
the dispatch generation when it invalidates a dispatch. -/
def admit_runtime_command (db : Tables) (clock : Datetime) (authority : OwnerAuthority)
    (command : RuntimeCommand) : Except StoreError (Tables × RuntimeCommandAdmission) := do
  let invalidates_dispatch ← runtime_command_invalidates_dispatch command
  assert_authority db clock authority
  let session_id := authority.session_id
  let fact_source := db.fact_source session_id
  match db.session_mailbox_slots.row (session_id, command.command_id) with
  | some existing => do
      let admission ← readmission existing command fact_source.dispatch_generation
      return (db.ensure_fact_source session_id, admission)
  | none =>
    let admitted_session_seq := fact_source.session_seq + 1
    let dispatch_generation :=
      fact_source.dispatch_generation + (if invalidates_dispatch then 1 else 0)
    let db := db.set_fact_source session_id { fact_source with
      session_seq := admitted_session_seq
      dispatch_generation := dispatch_generation }
    let db := { db with
      session_mailbox_slots := db.session_mailbox_slots.put (session_id, command.command_id)
        { lane := "runtime"
          disposition := "pending"
          admitted_session_seq := some admitted_session_seq
          admitted_dispatch_generation := some dispatch_generation
          payload := runtime_command_mailbox_payload command } }
    return (db, {
      entry := {
        command := command
        admitted_session_seq
        admitted_dispatch_generation := dispatch_generation
        disposition := "pending" }
      mailbox_cut := dispatch_generation })

/-! ## Reconciliation evidence -/

def record_effect_reconciliation_evidence (db : Tables) (clock : Datetime)
    (authority : OwnerAuthority) (evidence : EffectReconciliationEvidence) :
    Except StoreError (Tables × EffectReconciliationEvidence) := do
  raise_if (evidence.session_id ≠ authority.session_id) .SessionOwnershipConflictError
    "reconciliation evidence belongs to another session"
  raise_if (evidence.reconciliation_owner_epoch ≠ authority.epoch) .SessionOwnershipConflictError
    "reconciliation evidence owner epoch does not match authority"
  assert_authority db clock authority
  let stored := db.session_effect_reconciliation_evidence
  match stored.row (authority.session_id, evidence.evidence_ref) with
  | some row => do
      raise_if ((Json.obj row.payload).py_eq (.obj evidence.payload) = false)
        .RecoveryEvidenceConflictError "reconciliation evidence identity changed content"
      return (db, evidence)
  | none => do
      raise_if ((stored.first (fun key row => key.1 = authority.session_id
          ∧ row.effect_id = evidence.effect_id ∧ row.attempt_id = evidence.attempt_id
          ∧ row.authorization_transition_id = evidence.authorization_transition_id)).isSome)
        .RecoveryEvidenceConflictError "reconciliation identity already has different evidence"
      return ({ db with
        session_effect_reconciliation_evidence :=
          stored.put (evidence.session_id, evidence.evidence_ref) evidence }, evidence)

/-! ## Legacy units -/

/-- `SELECT * FROM session_event_records WHERE event_id = ?`. -/
def stored_event (db : Tables) (event_id : String) : Option EventRecord :=
  (db.session_event_records.first (fun _ row => row.event_id = event_id)).map (fun found =>
    { event_id := found.2.event_id
      session_id := found.1.1
      event_kind := found.2.event_kind
      payload := found.2.payload
      created_at := found.2.created_at
      session_seq := some found.1.2
      projection_epoch := some found.2.projection_epoch })

def replayed_event (fact_source : FactSource) (event : EventRecord) : AuthoritativeCommit where
  event := some event
  projection := fact_source.projection
  projection_epoch := event.projection_epoch.getD 0
  raw_cursor := ⟨event.session_id, event.session_seq.getD 0⟩
  idempotent := true

def settled_run_statuses : List String := ["completed", "failed", "cancelled", "interrupted"]

/-- A unit about a root run that has already settled is answered, not committed. -/
def settled_root_replay (db : Tables) (session_id : String) (unit : AuthoritativeUnitOfWork)
    (event : EventRecord) : Except StoreError (Option AuthoritativeCommit) :=
  match unit.require_unsettled_root_run_id with
  | none => .ok none
  | some root_run_id =>
    match db.agent_runs.row root_run_id with
    | none => raise .KeyError ("root run not found: " ++ root_run_id)
    | some current_run => do
        raise_if (current_run.session_id ≠ session_id) .KeyError
          ("root run not found: " ++ root_run_id)
        if current_run.status ∉ settled_run_statuses then return none
        else
          raise_if (event.event_kind ≠ "root_terminal") .RootRunAlreadySettledError
            "chat event after root settlement"
          match stored_event db event.event_id with
          | none => raise .ValueError "settled root run is missing root_terminal"
          | some stored => do
              raise_if ((Json.obj stored.payload).py_eq (.obj event.payload) = false)
                .RootRunAlreadySettledError "root run settled with a different outcome"
              return some { replayed_event (db.fact_source session_id) stored with
                raw_cursor := ⟨session_id, stored.session_seq.getD 0⟩ }

/-- A chat command whose receipt is stored is answered from its admission event. -/
def chat_receipt_replay (db : Tables) (session_id : String) (receipt : OperationReceiptSlot)
    (event : EventRecord) : Except StoreError (Option AuthoritativeCommit) :=
  match db.session_receipt_slots.row (session_id, receipt.receipt_id) with
  | none => .ok none
  | some existing_receipt => do
      raise_if (existing_receipt.generation ≠ receipt.generation
          ∨ (Json.obj existing_receipt.payload).py_eq (.obj receipt.payload) = false
          ∨ existing_receipt.compensation_effect_id ≠ receipt.compensation_effect_id)
        .ChatCommandConflictError "command ID was reused with different input"
      match stored_event db event.event_id with
      | none => raise .ValueError "chat receipt references a missing admission event"
      | some stored => do
          raise_if (stored.session_id ≠ session_id) .SessionOwnershipConflictError
            "chat receipt event belongs to another session"
          return some { replayed_event (db.fact_source session_id) stored with
            raw_cursor := ⟨session_id, stored.session_seq.getD 0⟩ }

def active_run_statuses : List String :=
  ["queued", "requested", "claimed", "running", "cancelling"]

/-- A chat command is refused while the session's current turn is active. -/
def check_no_active_turn (db : Tables) (session_id : String) : Except StoreError Unit :=
  match db.agent_http_sessions.row session_id with
  | none => .ok ()
  | some durable_session =>
    match durable_session.get "turn_id" with
    | .null => .ok ()
    | .str active_run_id =>
      let active_run := (db.agent_runs.row active_run_id).filter (·.session_id = session_id)
      raise_if (∀ run ∈ active_run, run.status ∈ active_run_statuses) .TurnInProgressError
        "a root turn is already active"
    | _ => raise .ValueError "durable turn_id must be a string"

def chat_receipt (unit : AuthoritativeUnitOfWork) : Option OperationReceiptSlot :=
  unit.receipt.filter (fun receipt => "chat-command:".isPrefixOf receipt.receipt_id)

/-- The chat branch: a replay, or a check that no turn is active. -/
def check_chat_receipt (db : Tables) (session_id : String) (unit : AuthoritativeUnitOfWork)
    (event : EventRecord) : Except StoreError (Option AuthoritativeCommit) :=
  match chat_receipt unit with
  | none => .ok none
  | some receipt => do
      let replay ← chat_receipt_replay db session_id receipt event
      match replay with
      | some commit => return some commit
      | none => do
          check_no_active_turn db session_id
          return none

/-- The run that started last among those not superseded by a checkpoint. -/
def latest_run (db : Tables) (session_id : String) : Option AgentRunRecord :=
  (db.agent_runs.select (fun _ run =>
      run.session_id = session_id ∧ run.superseded_by_checkpoint_id = none)).foldl
    (fun best candidate =>
      match best with
      | none => some candidate.2
      | some run =>
        if run.started_at < candidate.2.started_at
            ∨ (run.started_at = candidate.2.started_at ∧ run.run_id < candidate.2.run_id) then
          some candidate.2
        else some run)
    none

/-- The event id a resumed run continues from. -/
def resume_event_metadata (parent : AgentRunRecord) : Except StoreError JsonObject :=
  match parent.metadata.get "last_event_id" with
  | .null => .ok []
  | .str event_id => do
      raise_if (event_id = "") .ValueError "last_event_id must be a non-empty string"
      return [("resume_from_event_id", .str event_id)]
  | _ => raise .ValueError "last_event_id must be a non-empty string"

/-- The run a unit writes; a resumed run is linked to the run it resumes. -/
def resumed_run_state (db : Tables) (session_id : String) (unit : AuthoritativeUnitOfWork) :
    Except StoreError (Option AgentRunRecord) :=
  match unit.require_settled_parent_run_id with
  | none => .ok unit.run_state
  | some parent_run_id =>
    match latest_run db session_id with
    | none => raise .ResumeSourceUnsettledError
        "resume source is not the latest active settled run"
    | some parent => do
        raise_if (parent.run_id ≠ parent_run_id ∨ parent.status ∉ settled_run_statuses)
          .ResumeSourceUnsettledError "resume source is not the latest active settled run"
        match unit.run_state with
        | none => raise .ValueError "resume admission requires a run"
        | some run_state => do
            let resume_event ← resume_event_metadata parent
            return some { run_state with
              metadata := (run_state.metadata.merge
                [("previous_run_id", .str parent.run_id),
                 ("resume_from_run_id", .str parent.run_id),
                 ("resume_reason", .str "user_resume"),
                 ("resume_context_injected", .bool true)]).merge resume_event }

def bind_tape (db : Tables) (session_id tape_id : String) : Except StoreError Tables := do
  raise_if (∃ bound ∈ db.session_tapes.row session_id, bound ≠ tape_id)
    .SessionOwnershipConflictError "session tape target cannot be rebound"
  raise_if ((db.session_tapes.first (fun key bound =>
      bound = tape_id ∧ key ≠ session_id)).isSome)
    .SessionOwnershipConflictError "tape target belongs to another session"
  return { db with session_tapes := db.session_tapes.put session_id tape_id }

section

variable (db : Tables) (session_id : String)

def bind_session_tape (session_state : JsonObject) : Except StoreError Tables :=
  match session_state.get "tape_id" with
  | .str tape_id => if tape_id = "" then .ok db else bind_tape db session_id tape_id
  | _ => .ok db

/-- The run a unit writes sits on a tape of the session. -/
def check_run_tape (run_state : Option AgentRunRecord) : Except StoreError Unit :=
  match run_state with
  | none => .ok ()
  | some run =>
    match run.tape_id with
    | none => raise .SessionOwnershipConflictError "run target is not bound to a tape"
    | some tape_id =>
      match db.session_tapes.first (fun _ bound => bound = tape_id) with
      | none => raise .SessionOwnershipConflictError "tape target is not bound to a session"
      | some (bound_session_id, _) =>
        raise_if (bound_session_id ≠ session_id) .SessionOwnershipConflictError
          "tape target belongs to another session"

/-- A stored event of this session and epoch answers the unit. -/
def existing_event_replay (event : EventRecord) : Except StoreError (Option AuthoritativeCommit) :=
  match stored_event db event.event_id with
  | none => .ok none
  | some existing_event => do
      raise_if (existing_event.session_id ≠ session_id) .SessionOwnershipConflictError
        "event belongs to another session"
      raise_if (existing_event.projection_epoch.getD 0
          ≠ (db.fact_source session_id).projection_epoch) .StateVersionConflictError
        "committed event projection_epoch is immutable"
      return some (replayed_event (db.fact_source session_id) existing_event)

/-- The upsert of a run keeps the supersession columns of a stored row. -/
def put_agent_run (run_state : Option AgentRunRecord) :
    Except StoreError (Table String AgentRunRecord) :=
  match run_state with
  | none => .ok db.agent_runs
  | some run =>
    match db.agent_runs.row run.run_id with
    | none => .ok (db.agent_runs.put run.run_id run)
    | some existing => do
        raise_if (existing.session_id ≠ session_id) .SessionOwnershipConflictError
          "agent run target belongs to another session"
        return db.agent_runs.put run.run_id { run with
          session_id := existing.session_id
          superseded_by_checkpoint_id := existing.superseded_by_checkpoint_id
          superseded_at := existing.superseded_at }

end

def effect_status_rank (status : String) : Nat :=
  if status = "prepared" then 1
  else if status = "dispatched" then 2
  else if status = "unknown" ∨ status = "failed" then 3
  else if status = "completed" then 4
  else 0

def legacy_effect_may_replace (current : Option String) (incoming : String) : Bool :=
  if incoming = "settled" then current = none ∨ current = some "prepared"
  else match current with
    | none => true
    | some current =>
      current ≠ "settled" ∧ effect_status_rank current ≤ effect_status_rank incoming

section

variable (db : Tables) (session_id : String)

def put_legacy_effect (effect : Option EffectLedgerSlot) :
    Table (String × String) EffectRow :=
  match effect with
  | none => db.session_effect_slots
  | some slot =>
    let current := (db.session_effect_slots.row (session_id, slot.effect_id)).map (·.status)
    if legacy_effect_may_replace current slot.status then
      db.session_effect_slots.put (session_id, slot.effect_id) ⟨slot.status, slot.payload⟩
    else db.session_effect_slots

/-- The receipt table after a legacy unit: a receipt is replaced by a later generation only. -/
def put_legacy_receipt (receipt : Option OperationReceiptSlot) :
    Table (String × String) ReceiptSlotRow :=
  match receipt with
  | none => db.session_receipt_slots
  | some slot =>
    let current := db.session_receipt_slots.row (session_id, slot.receipt_id)
    if current.all (fun row => row.generation < slot.generation) then
      db.session_receipt_slots.put (session_id, slot.receipt_id)
        ⟨slot.generation, slot.payload, slot.compensation_effect_id⟩
    else db.session_receipt_slots

/-- The writes of a legacy unit whose event is new. -/
def write_legacy (unit : AuthoritativeUnitOfWork)
    (event : EventRecord) (run_state : Option AgentRunRecord) :
    Except StoreError (Tables × AuthoritativeCommit) := do
  let fact_source := db.fact_source session_id
  let next_seq := fact_source.session_seq + 1
  let session_event_records ← insert_event_record db.session_event_records session_id next_seq
    (event_row fact_source.projection_epoch event)
  let agent_runs ← put_agent_run db session_id run_state
  return ({ db with
    session_fact_source :=
      db.session_fact_source.put session_id { fact_source with session_seq := next_seq }
    session_event_records
    agent_http_sessions := db.agent_http_sessions.put session_id unit.session_state
    agent_runs
    session_mailbox_slots := unit.mailbox.elim db.session_mailbox_slots
      (put_mailbox_slot db.session_mailbox_slots session_id)
    session_effect_slots := put_legacy_effect db session_id unit.effect
    session_receipt_slots := put_legacy_receipt db session_id unit.receipt },
    { event := some { event with
        session_seq := some next_seq
        projection_epoch := some fact_source.projection_epoch }
      projection := fact_source.projection
      projection_epoch := fact_source.projection_epoch
      raw_cursor := ⟨session_id, next_seq⟩ })

end

/-- The legacy half of `commit_authoritative_uow`. -/
def commit_legacy (db : Tables) (clock : Datetime) (authority : OwnerAuthority)
    (unit : AuthoritativeUnitOfWork) (event : EventRecord) :
    Except StoreError (Tables × AuthoritativeCommit) := do
  let session_id := authority.session_id
  raise_if (event.session_id ≠ session_id) .SessionOwnershipConflictError
    "event belongs to another session"
  assert_authority db clock authority
  let settled ← settled_root_replay db session_id unit event
  match settled with
  | some commit => return (db.ensure_fact_source session_id, commit)
  | none => do
      let chat ← check_chat_receipt db session_id unit event
      match chat with
      | some commit => return (db.ensure_fact_source session_id, commit)
      | none => do
          let run_state ← resumed_run_state db session_id unit
          let db ← bind_session_tape db session_id unit.session_state
          check_run_tape db session_id run_state
          let existing ← existing_event_replay db session_id event
          match existing with
          | some commit => return (db.ensure_fact_source session_id, commit)
          | none => write_legacy db session_id unit event run_state

/-! ## The entry point -/

/-- The session payload of a unit belongs to the caller's session. -/
def check_session_state (session_id : String) (session_state : JsonObject) :
    Except StoreError Unit := do
  raise_if (session_state.get "id" ≠ .str session_id) .SessionOwnershipConflictError
    "session payload belongs to another owner"
  raise_if (session_state.get "session_id" ≠ .null ∧ session_state.get "session_id"
      ≠ .str session_id) .SessionOwnershipConflictError
    "session payload belongs to another owner"
  raise_if (session_state.get "tape_id" ≠ .null ∧ (session_state.get "tape_id").str? = none)
    .TypeError "session payload tape_id must be a string"

/-- The effect statuses of a unit are allowed for the session's runtime. -/
def check_effect_statuses (unit : AuthoritativeUnitOfWork) (runtime_version : String) :
    Except StoreError Unit := do
  AuthoritativeUnitOfWork.check_instance
    (fun slot => assert_effect_status_allowed slot.status runtime_version) unit.effect
  Result.check_each unit.normalized_effect_mutations (fun mutation =>
    assert_effect_status_allowed mutation.status.value runtime_version)

/-- What `commit_authoritative_uow` checks before it opens a transaction; returns the
unit with its session payload stamped. `stored` and `new_sessions_enabled` are what
`load_session_payload` and `load_runtime_activation` returned. -/
def prepare_unit (authority : OwnerAuthority) (unit : AuthoritativeUnitOfWork)
    (stored : Option JsonObject) (new_sessions_enabled : Bool) :
    Except StoreError AuthoritativeUnitOfWork := do
  check_session_state authority.session_id unit.session_state
  let stamped ← stamp_session_payload_for_save unit.session_state stored new_sessions_enabled
  let runtime_version ← parse_runtime_version stamped
  check_effect_statuses unit runtime_version
  raise_if (∃ run ∈ unit.run_state, run.session_id ≠ authority.session_id)
    .SessionOwnershipConflictError "agent run belongs to another session"
  return { unit with session_state := stamped }

/-- The transaction a prepared unit goes to. -/
def commit_prepared (host : Host) (db : Tables) (clock : Datetime) (authority : OwnerAuthority)
    (unit : AuthoritativeUnitOfWork) : Except StoreError (Tables × AuthoritativeCommit) :=
  match unit.transition_id with
  | some transition_id =>
    let snapshot := snapshot_transition_unit unit
    match snapshot.state_cas, snapshot.state_value with
    | some state_cas, some state_value =>
      commit_transition host db clock authority snapshot state_cas transition_id state_value
    | _, _ => raise .ValueError "typed transition is incomplete"
  | none =>
    match unit.event with
    | none => raise .ValueError "legacy unit of work requires an event"
    | some event => commit_legacy db clock authority unit event

def commit_authoritative_uow (host : Host) (db : Tables) (clock : Datetime)
    (authority : OwnerAuthority) (unit : UnitOfWork) (stored : Option JsonObject)
    (new_sessions_enabled : Bool) : Except StoreError (Tables × AuthoritativeCommit) := do
  let prepared ← prepare_unit authority unit.val stored new_sessions_enabled
  commit_prepared host db clock authority prepared

end CodingAgentLoop
