/-
The typed half of `commit_authoritative_uow`
(`LocalUnitOfWorkMixin._commit_transition` in
`coding_agent/stores/local_durable/uow.py`).

One transaction: it fences the caller, answers a transition it has already
committed from its receipt, otherwise checks the unit against the tables -- the
recovery guard, the closeout, the child bindings, the mailbox cut, the
reconciliation, the operation state, the commands it disposes of, the effects it
mutates -- and only then writes. Each check is a definition of its own, in the
source's order; `plan_commit` runs them and collects what they compute, and
`write_commit` does the writes.
-/
import CodingAgentLoop.Reconciliation

namespace CodingAgentLoop

open Lib Result

/-! ## Results -/

structure AuthoritativeCommit where
  event : Option EventRecord := none
  projection : String
  projection_epoch : Nat
  raw_cursor : RawCursor
  idempotent : Bool := false
  state_version : Option OperationStateVersion := none
  facts : List EventRecord := []
  transition_receipt : Option TransitionReceipt := none

def committed_fact_notice (projection_epoch : Nat) (fact : EventRecord) : CommittedFactNotice where
  fact_id := fact.event_id
  fact_kind := fact.event_kind
  payload := fact.payload
  session_seq := fact.session_seq
  projection_epoch := some projection_epoch

/-- The receipt of a stored or fresh transition result. -/
def transition_receipt (session_id : String) (projection_epoch : Nat) (transition_id : String)
    (row : TransitionReceiptRow) : TransitionReceipt where
  session_id := session_id
  projection_epoch := projection_epoch
  transition_id := transition_id
  mutation_fingerprint := row.mutation_fingerprint
  state_version := row.result.state_version
  facts := row.result.facts.map (committed_fact_notice projection_epoch)
  effect_plans := row.result.effect_plans

/-! ## Replays -/

/-- The checks of `transition_commit_from_payload` that tie a stored result to the key
it was found under. -/
def check_transition_result (session_id transition_id : String) (projection_epoch : Nat)
    (result : TransitionResult) : Except StoreError Unit := do
  raise_if (result.state_version.commit_ref.transition_id ≠ transition_id) .ValueError
    "stored transition result has the wrong transition_id"
  raise_if (result.state_version.projection_epoch ≠ projection_epoch) .ValueError
    "stored transition result has the wrong projection_epoch"
  check_each result.facts (fun fact =>
    raise_if (fact.session_id ≠ session_id) .ValueError
      "stored transition fact belongs to another session")
  raise_if (result.raw_cursor.session_id ≠ session_id) .ValueError
    "stored transition cursor belongs to another session"

def TERMINAL_PARENT_EFFECT_STATUSES : List String :=
  [EffectStatus.COMPLETED.value, EffectStatus.FAILED.value, EffectStatus.UNKNOWN.value,
    EffectStatus.REJECTED.value]

/-- `adopt_parent_settlement_receipt`: the unique parent-settlement receipt, or corruption.
The adopted ids are distinct and differ from the current one. -/
def adopt_parent_settlement_receipt {ρ : Type} (current_id : String) (current_row : Option ρ)
    (adopted_rows : List (String × Option ρ)) (parent_effect_status : Option String) :
    Except StoreError (Option (String × ρ)) :=
  let present := ((current_id, current_row) :: adopted_rows).filterMap
    (fun candidate => candidate.2.map (fun row => (candidate.1, row)))
  match present with
  | _ :: _ :: _ => raise .EffectMutationConflictError
      "live and recovery parent settlement receipts both exist"
  | [found] => .ok (some found)
  | [] =>
    if parent_effect_status.any (· ∈ TERMINAL_PARENT_EFFECT_STATUSES) then
      raise .EffectMutationConflictError
        "terminal parent effect has no live or recovery settlement receipt"
    else .ok none

/-- The status of the effect the unit's first mutation is about. -/
def parent_effect_status (db : Tables) (session_id : String) (unit : AuthoritativeUnitOfWork) :
    Option String :=
  unit.normalized_effect_mutations.head?.bind (fun mutation =>
    (db.session_effect_slots.row (session_id, mutation.effect_id)).map (·.status))

/-- A receipt found under its own transition id must carry the unit's fingerprint. -/
def check_fingerprint (mutation_fingerprint : String) (row : TransitionReceiptRow) :
    Except StoreError Unit :=
  raise_if (row.mutation_fingerprint ≠ mutation_fingerprint) .TransitionFingerprintMismatchError
    "transition mutation fingerprint mismatch"

/-- The receipt that answers the unit, when one does: its own, or one it adopts. -/
def find_receipt (db : Tables) (session_id : String) (unit : AuthoritativeUnitOfWork)
    (projection_epoch : Nat) (transition_id mutation_fingerprint : String) :
    Except StoreError (Option (String × TransitionReceiptRow)) :=
  let receipt_row (id : String) :=
    db.session_transition_receipts.row (session_id, projection_epoch, id)
  if unit.adopt_transition_ids ≠ [] then do
    let adopted ← adopt_parent_settlement_receipt transition_id (receipt_row transition_id)
      (unit.adopt_transition_ids.map (fun id => (id, receipt_row id)))
      (parent_effect_status db session_id unit)
    match adopted with
    | none => return none
    | some (adopted_id, row) => do
        raise_if (adopted_id = transition_id ∧ row.mutation_fingerprint ≠ mutation_fingerprint)
          .TransitionFingerprintMismatchError "transition mutation fingerprint mismatch"
        return some (adopted_id, row)
  else
    match receipt_row transition_id with
    | none => return none
    | some row => do
        check_fingerprint mutation_fingerprint row
        return some (transition_id, row)

def replay_commit (session_id : String) (fact_source : FactSource) (projection_epoch : Nat)
    (transition_id : String) (row : TransitionReceiptRow) : AuthoritativeCommit where
  projection := fact_source.projection
  projection_epoch := fact_source.projection_epoch
  raw_cursor := row.result.raw_cursor
  idempotent := true
  state_version := some row.result.state_version
  facts := row.result.facts
  transition_receipt := some (transition_receipt session_id projection_epoch transition_id row)

/-! ## Guards -/

/-- `SELECT ... FROM session_child_bindings WHERE child_run_id = ?`. -/
def child_binding_of_run (db : Tables) (session_id child_run_id : String) :
    Option ChildExecutionBinding :=
  (db.session_child_bindings.first (fun key binding =>
    key.1 = session_id ∧ binding.child_run_id = child_run_id)).map Prod.snd

def assert_recovery_guard_shape (unit : AuthoritativeUnitOfWork) (guard : RecoveryTransitionGuard)
    (state_cas : OperationStateCAS) (binding : ChildExecutionBinding) :
    Except StoreError Unit :=
  match guard.kind with
  | .CHILD_TERMINAL =>
    raise_if (state_cas.run_id ≠ binding.child_run_id ∨ ¬ unit.terminal_action
        ∨ ∃ mutation ∈ unit.normalized_effect_mutations,
            mutation.effect_id = binding.parent_effect_id)
      .StaleRecoveryGuardError "child terminal guard shape is invalid"
  | .PARENT_SETTLEMENT =>
    let terminal_parent_mutations := unit.normalized_effect_mutations.filter (fun mutation =>
      mutation.effect_id = binding.parent_effect_id
        ∧ mutation.attempt_id = binding.parent_attempt_id
        ∧ mutation.expected_status = some .DISPATCHED
        ∧ mutation.status ∈ [EffectStatus.COMPLETED, .FAILED, .UNKNOWN])
    raise_if (state_cas.run_id ≠ binding.parent_run_id ∨ unit.terminal_action
        ∨ unit.normalized_effect_mutations.length ≠ 1 ∨ terminal_parent_mutations.length ≠ 1)
      .StaleRecoveryGuardError "parent settlement guard shape is invalid"

section

variable (db : Tables) (authority : OwnerAuthority) (unit : AuthoritativeUnitOfWork)

/-- A recovered child may commit only while it holds the exact fact cut it was leased at. -/
def assert_recovery_guard (state_cas : OperationStateCAS) :
    Except StoreError Unit :=
  match unit.recovery_guard with
  | none => .ok ()
  | some guard =>
    match child_binding_of_run db authority.session_id guard.child_run_id with
    | none => raise .StaleRecoveryGuardError "recovery guard child binding does not exist"
    | some guarded_binding => do
        assert_recovery_guard_shape unit guard state_cas guarded_binding
        match guarded_binding.active_lease with
        | none =>
          raise .StaleRecoveryGuardError "recovery guard no longer owns the exact fact cut"
        | some lease =>
          raise_if (lease.lease_id ≠ guard.lease_id
              ∨ lease.resume_generation ≠ guard.resume_generation
              ∨ lease.resume_cut ≠ guard.expected_recovery_cut
              ∨ lease.owner_epoch ≠ authority.epoch
              ∨ (db.fact_source authority.session_id).dispatch_generation
                  ≠ guard.expected_recovery_cut)
            .StaleRecoveryGuardError "recovery guard no longer owns the exact fact cut"

/-- The attempt an unstarted-dispatch closeout makes quiescent. -/
def closeout_attempt :
    Except StoreError (Option ExecutorAttemptRecord) :=
  match unit.unstarted_dispatch_closeout with
  | none => .ok none
  | some closeout =>
    match db.session_executor_attempts.row ⟨authority.session_id, closeout.effect_id,
        closeout.attempt_id, closeout.authorization_transition_id⟩ with
    | none => raise .ExecutorAttemptConflictError
        "unstarted closeout executor attempt does not exist"
    | some current_closeout => do
        raise_if (current_closeout.status ≠ .AUTHORIZED_UNCLAIMED
            ∨ authority.epoch < current_closeout.dispatch_owner_epoch)
          .ExecutorAttemptConflictError
          "unstarted closeout requires authorized_unclaimed attempt"
        let closed ← ExecutorAttemptRecord.checked { current_closeout with
          status := .QUIESCENT
          executor_id := some closeout.executor_id
          claim_generation := 1
          reservation_lease_expires_at := some closeout.closed_at
          quiescence_evidence_ref := some closeout.evidence_ref }
        return some closed

end

/-- A fact of a bound child run, as it is projected into the parent's log. -/
def project_child_fact (binding : ChildExecutionBinding) (fact : EventRecord) : EventRecord :=
  let is_approval := fact.event_kind = "approval_requested"
  { fact with
    payload := fact.payload.merge
      ([("run_id", .str (if is_approval then binding.parent_run_id else binding.child_run_id)),
        ("parent_run_id", .str binding.parent_run_id),
        ("parent_effect_id", .str binding.parent_effect_id),
        ("subagent_child", .bool true),
        ("skip_parent_context", .bool true)]
      ++ if is_approval then
          [("target_run_id", .str binding.child_run_id),
           ("target_parent_effect_id", .str binding.parent_effect_id)]
        else []) }

def facts_to_commit (db : Tables) (session_id : String) (unit : AuthoritativeUnitOfWork)
    (state_cas : OperationStateCAS) : List EventRecord :=
  match child_binding_of_run db session_id state_cas.run_id with
  | none => unit.facts
  | some binding => unit.facts.map (project_child_fact binding)

/-- A child binding may only be created, never found. -/
def check_child_binding (db : Tables) (authority : OwnerAuthority)
    (binding : ChildExecutionBinding) : Except StoreError Unit := do
  raise_if (binding.session_id ≠ authority.session_id) .SessionOwnershipConflictError
    "child binding belongs to another session"
  match db.session_child_bindings.first (fun key stored => key.1 = authority.session_id
      ∧ (key.2 = binding.parent_effect_id ∨ stored.child_run_id = binding.child_run_id)) with
  | none => .ok ()
  | some (_, stored_binding) =>
    if stored_binding ≠ binding then
      raise .ChildBindingConflictError "child binding identity changed content"
    else
      raise .ChildBindingConflictError "child binding exists without a transition receipt"

/-- A dispatch is authorized at the session's current dispatch generation only. -/
def check_mailbox_cut (db : Tables) (session_id : String) (unit : AuthoritativeUnitOfWork) :
    Except StoreError Unit :=
  match unit.expected_mailbox_cut with
  | none => .ok ()
  | some expected_mailbox_cut =>
    let current_mailbox_cut := (db.fact_source session_id).dispatch_generation
    if current_mailbox_cut ≠ expected_mailbox_cut then
      .error (.StaleMailboxCutError expected_mailbox_cut current_mailbox_cut)
    else .ok ()

def check_operation_state (db : Tables) (session_id : String) (state_cas : OperationStateCAS) :
    Except StoreError Unit :=
  match db.session_operation_states.row (session_id, state_cas.run_id) with
  | none => raise_if (state_cas.revision ≠ 0) .StateVersionConflictError
      "operation state revision is stale"
  | some current_state => raise_if (current_state.cas ≠ state_cas) .StateVersionConflictError
      "operation state compare-and-swap conflict"

/-! ## What the unit writes -/

/-- The mailbox row a disposition leaves behind: an admitted command reaches its end. -/
def disposition_slot (db : Tables) (session_id : String) (disposition : CommandDisposition) :
    Except StoreError MailboxDispositionSlot :=
  let slot := mailbox_slot_from_disposition disposition
  match db.session_mailbox_slots.row (session_id, slot.slot_id) with
  | none => raise .CommandDispositionConflictError
      "command disposition requires an admitted mailbox row"
  | some existing_mailbox => do
      raise_if (existing_mailbox.disposition ∉ ["pending", "admitted"])
        .CommandDispositionConflictError "command mailbox row is already terminal"
      return { slot with
        lane := existing_mailbox.lane
        payload := existing_mailbox.payload.merge slot.payload }

/-- The stored slot a mutation starts from, checked against what the mutation expects. -/
def merged_effect_slot (db : Tables) (session_id : String) (mutation : EffectMutation) :
    Except StoreError EffectLedgerSlot :=
  let effect_slot := effect_slot_from_mutation mutation
  match mutation.expected_status, db.session_effect_slots.row (session_id, mutation.effect_id) with
  | none, none => .ok effect_slot
  | none, some _ => raise .EffectMutationConflictError "effect already exists"
  | some _, none => raise .EffectMutationConflictError "effect does not exist"
  | some expected_status, some current_effect => do
      raise_if (current_effect.status ≠ expected_status.value) .EffectMutationConflictError
        "effect status precondition failed"
      raise_if (current_effect.payload.get "attempt_id" ≠ .str mutation.attempt_id)
        .EffectMutationConflictError "effect attempt precondition failed"
      return { effect_slot with payload := current_effect.payload.merge effect_slot.payload }

/-- The slot a mutation writes. A dispatch stamps the authorization it happens under. -/
def effect_slot (db : Tables) (authority : OwnerAuthority) (transition_id : String)
    (mutation : EffectMutation) : Except StoreError EffectLedgerSlot := do
  let slot ← merged_effect_slot db authority.session_id mutation
  if mutation.is_dispatch then
    return { slot with
      payload := slot.payload.merge
        [("authorization_transition_id", .str transition_id),
         ("dispatch_owner_epoch", .int authority.epoch)] }
  else
    return slot

def dispatched_attempt (db : Tables) (authority : OwnerAuthority) (unit : AuthoritativeUnitOfWork)
    (transition_id : String) : Except StoreError (Option ExecutorAttemptRecord) :=
  match unit.normalized_effect_mutations.find? (·.is_dispatch) with
  | none => .ok none
  | some dispatch_mutation => do
      let fact_source := db.fact_source authority.session_id
      let executor_attempt ← ExecutorAttemptRecord.checked
        { session_id := authority.session_id
          effect_id := dispatch_mutation.effect_id
          attempt_id := dispatch_mutation.attempt_id
          authorization_transition_id := transition_id
          dispatch_owner_epoch := authority.epoch
          status := .AUTHORIZED_UNCLAIMED
          authorization_mailbox_cut := unit.expected_mailbox_cut.getD 0
          authorization_mailbox_session_seq := fact_source.session_seq }
      raise_if ((db.session_executor_attempts.row executor_attempt.key).isSome)
        .ExecutorAttemptConflictError
        "dispatch executor attempt already exists without a receipt"
      return some executor_attempt

/-- What the checks of a fresh commit compute. -/
structure CommitPlan where
  closeout_attempt : Option ExecutorAttemptRecord
  facts_to_commit : List EventRecord
  disposition_slots : List MailboxDispositionSlot
  effect_slots : List EffectLedgerSlot
  executor_attempt : Option ExecutorAttemptRecord

/-- The checks of a fresh commit, in order. -/
def plan_commit (db : Tables) (authority : OwnerAuthority) (unit : AuthoritativeUnitOfWork)
    (state_cas : OperationStateCAS) (transition_id : String) (state_value : JsonObject) :
    Except StoreError CommitPlan := do
  assert_recovery_guard db authority unit state_cas
  let closeout_attempt ← closeout_attempt db authority unit
  let facts_to_commit := facts_to_commit db authority.session_id unit state_cas
  check_each unit.child_bindings (check_child_binding db authority)
  check_mailbox_cut db authority.session_id unit
  assert_reconciliation_preconditions db authority unit state_cas state_value
  check_operation_state db authority.session_id state_cas
  let disposition_slots ← unit.dispositions.mapM (disposition_slot db authority.session_id)
  let effect_slots ←
    unit.normalized_effect_mutations.mapM (effect_slot db authority transition_id)
  let executor_attempt ← dispatched_attempt db authority unit transition_id
  return { closeout_attempt, facts_to_commit, disposition_slots, effect_slots, executor_attempt }

/-- The facts with the sequence numbers that follow `session_seq`, in proposal order. -/
def stamp_facts (projection_epoch : Nat) : Nat → List EventRecord → List EventRecord
  | _, [] => []
  | session_seq, fact :: rest =>
    { fact with session_seq := some (session_seq + 1), projection_epoch := some projection_epoch }
      :: stamp_facts projection_epoch (session_seq + 1) rest

/-- `INSERT INTO session_event_records`: the position must be free and the event id new. -/
def insert_event_record (events : Table (String × Nat) EventRow) (session_id : String)
    (session_seq : Nat) (event : EventRow) : Except StoreError (Table (String × Nat) EventRow) :=
  do
    raise_if ((events.first (fun _ row => row.event_id = event.event_id)).isSome) .IntegrityError
      "UNIQUE constraint failed: session_event_records.event_id"
    insert_row events (session_id, session_seq) event

def event_row (projection_epoch : Nat) (fact : EventRecord) : EventRow where
  event_id := fact.event_id
  event_kind := fact.event_kind
  payload := fact.payload
  created_at := fact.created_at
  projection_epoch := projection_epoch

def insert_event_records (session_id : String) (projection_epoch : Nat) :
    Table (String × Nat) EventRow → List EventRecord →
      Except StoreError (Table (String × Nat) EventRow)
  | events, [] => .ok events
  | events, fact :: rest => do
      let events ← insert_event_record events session_id (fact.session_seq.getD 0)
        (event_row projection_epoch fact)
      insert_event_records session_id projection_epoch events rest

/-- The upsert of a disposed mailbox row: the admission columns stay. -/
def put_mailbox_slot (mailbox : Table (String × String) MailboxRow) (session_id : String)
    (slot : MailboxDispositionSlot) : Table (String × String) MailboxRow :=
  let existing := mailbox.row (session_id, slot.slot_id)
  mailbox.put (session_id, slot.slot_id)
    { lane := slot.lane
      disposition := slot.disposition
      admitted_session_seq := existing.bind (·.admitted_session_seq)
      admitted_dispatch_generation := existing.bind (·.admitted_dispatch_generation)
      payload := slot.payload }

def effect_rows (session_id : String) (slots : List EffectLedgerSlot) :
    List ((String × String) × EffectRow) :=
  slots.map (fun slot => ((session_id, slot.effect_id), ⟨slot.status, slot.payload⟩))

def put_attempt (attempts : Table AttemptKey ExecutorAttemptRecord) :
    Option ExecutorAttemptRecord → Table AttemptKey ExecutorAttemptRecord
  | none => attempts
  | some attempt => attempts.put attempt.key attempt

/-- `INSERT INTO session_child_bindings`, for each binding of the unit. -/
def insert_child_bindings (session_id : String) :
    Table (String × String) ChildExecutionBinding → List ChildExecutionBinding →
      Except StoreError (Table (String × String) ChildExecutionBinding)
  | bindings, [] => .ok bindings
  | bindings, binding :: rest => do
      raise_if ((bindings.first (fun key stored =>
          key.1 = session_id ∧ stored.child_run_id = binding.child_run_id)).isSome)
        .IntegrityError
        "UNIQUE constraint failed: session_child_bindings.child_run_id"
      let bindings ← insert_row bindings (session_id, binding.parent_effect_id) binding
      insert_child_bindings session_id bindings rest

/-- The range of sequence numbers a commit used, when it committed facts. -/
def commit_ref (transition_id : String) (session_seq : Nat) (facts : List EventRecord) :
    CommitRef :=
  if facts = [] then { transition_id }
  else
    { transition_id
      fact_seq_start := some (session_seq + 1)
      fact_seq_end := some (session_seq + facts.length) }

/-- The result a fresh commit stores under its receipt. -/
def transition_result (authority : OwnerAuthority) (unit : AuthoritativeUnitOfWork)
    (state_cas : OperationStateCAS) (transition_id : String) (state_value : JsonObject)
    (fact_source : FactSource) (facts : List EventRecord) : TransitionResult where
  state_version :=
    { run_id := state_cas.run_id
      revision := state_cas.revision + 1
      projection_epoch := state_cas.projection_epoch
      commit_ref := commit_ref transition_id fact_source.session_seq facts
      value := state_value }
  facts := stamp_facts fact_source.projection_epoch fact_source.session_seq facts
  raw_cursor := ⟨authority.session_id, fact_source.session_seq + facts.length⟩
  effect_plans := unit.effect_plans

def fresh_commit (session_id : String) (fact_source : FactSource) (transition_id : String)
    (row : TransitionReceiptRow) : AuthoritativeCommit where
  projection := fact_source.projection
  projection_epoch := fact_source.projection_epoch
  raw_cursor := row.result.raw_cursor
  state_version := some row.result.state_version
  facts := row.result.facts
  transition_receipt :=
    some (transition_receipt session_id row.result.state_version.projection_epoch transition_id row)

def write_commit (db : Tables) (authority : OwnerAuthority) (unit : AuthoritativeUnitOfWork)
    (state_cas : OperationStateCAS) (transition_id : String) (receipt : TransitionReceiptRow)
    (plan : CommitPlan) : Except StoreError Tables := do
  let session_id := authority.session_id
  let fact_source := db.fact_source session_id
  let session_transition_receipts ← insert_row db.session_transition_receipts
    (session_id, state_cas.projection_epoch, transition_id) receipt
  let session_event_records ← insert_event_records session_id fact_source.projection_epoch
    db.session_event_records receipt.result.facts
  let session_child_bindings ←
    insert_child_bindings session_id db.session_child_bindings unit.child_bindings
  return { db with
    session_transition_receipts
    session_event_records
    session_fact_source := db.session_fact_source.put session_id
      { fact_source with session_seq := fact_source.session_seq + receipt.result.facts.length }
    session_operation_states := db.session_operation_states.put (session_id, state_cas.run_id)
      receipt.result.state_version
    session_mailbox_slots := plan.disposition_slots.foldl
      (fun mailbox slot => put_mailbox_slot mailbox session_id slot) db.session_mailbox_slots
    session_effect_slots :=
      db.session_effect_slots.put_all (effect_rows session_id plan.effect_slots)
    session_executor_attempts :=
      put_attempt (put_attempt db.session_executor_attempts plan.closeout_attempt)
        plan.executor_attempt
    session_child_bindings }

/-! ## The transaction -/

/-- The checks made before the transaction opens. -/
def check_transition_session (authority : OwnerAuthority) (unit : AuthoritativeUnitOfWork) :
    Except StoreError Unit := do
  check_each unit.facts (fun fact =>
    raise_if (fact.session_id ≠ authority.session_id) .SessionOwnershipConflictError
      "transition fact belongs to another session")
  check_each unit.normalized_effect_mutations (fun mutation =>
    raise_if (∃ record ∈ mutation.reconciliation, record.owner_epoch ≠ authority.epoch)
      .SessionOwnershipConflictError "reconciliation owner epoch does not match authority")

/-- A transition that no receipt answers. -/
def commit_fresh (db : Tables) (authority : OwnerAuthority) (unit : AuthoritativeUnitOfWork)
    (state_cas : OperationStateCAS) (transition_id : String) (state_value : JsonObject)
    (mutation_fingerprint : String) : Except StoreError (Tables × AuthoritativeCommit) := do
  let plan ← plan_commit db authority unit state_cas transition_id state_value
  let fact_source := db.fact_source authority.session_id
  let receipt : TransitionReceiptRow :=
    { mutation_fingerprint
      result := transition_result authority unit state_cas transition_id state_value fact_source
        plan.facts_to_commit }
  let db ← write_commit db authority unit state_cas transition_id receipt plan
  return (db, fresh_commit authority.session_id fact_source transition_id receipt)

/-- `_commit_transition`, the typed unit taken apart. -/
def commit_transition (host : Host) (db : Tables) (clock : Datetime) (authority : OwnerAuthority)
    (unit : AuthoritativeUnitOfWork) (state_cas : OperationStateCAS) (transition_id : String)
    (state_value : JsonObject) : Except StoreError (Tables × AuthoritativeCommit) := do
  check_transition_session authority unit
  let mutation_fingerprint := transition_mutation_fingerprint host unit state_cas state_value
  assert_authority db clock authority
  let fact_source := db.fact_source authority.session_id
  raise_if (state_cas.projection_epoch ≠ fact_source.projection_epoch) .StateVersionConflictError
    "operation state projection epoch is stale"
  let found ← find_receipt db authority.session_id unit state_cas.projection_epoch transition_id
    mutation_fingerprint
  match found with
  | some (found_id, row) => do
      check_transition_result authority.session_id found_id state_cas.projection_epoch row.result
      return (db.ensure_fact_source authority.session_id,
        replay_commit authority.session_id fact_source state_cas.projection_epoch found_id row)
  | none =>
    commit_fresh db authority unit state_cas transition_id state_value mutation_fingerprint

end CodingAgentLoop
