/-
The lease under which a recovered child run continues
(`acquire_recovered_child_execution_lease` to
`refresh_recovered_child_execution_lease_for_approval` in
`coding_agent/stores/local_durable/uow.py`).

A child run is bound to the effect of its parent that started it. When the parent's
executor is gone, a new owner acquires a lease on the child, brings it up to the
commands that arrived since (a rebase, or a refresh for an approval), and commits
under a guard that names the lease. The lease is kept twice: in the payload of the
binding, and in a ledger of all leases ever issued, whose status says which one is
active. Every operation that succeeds either answers the lease that stands or writes
both places (`acquire_cases`, `rebase_cases`, `refresh_cases`).
-/
import CodingAgentLoop.StoreSteps
import CodingAgentLoop.EngineContracts

namespace CodingAgentLoop

open Lib Result

/-! ## Commands that reach a child -/

def validate_new_runtime_command_target (command : RuntimeCommand) : Except StoreError Unit :=
  if command.command_kind ∉ ["cancel", "interrupt", "approval_decision"] then .ok ()
  else do
    let target_run_id := command.payload.get "target_run_id"
    let target_scope := command.payload.get "target_scope"
    let has_run_target : Bool :=
      match target_run_id with
      | .str run_id => run_id ≠ ""
      | _ => false
    let has_global_target : Bool := target_scope = .str "global"
    raise_if (target_run_id ≠ .null ∧ has_run_target = false) .ValueError
      "target_run_id must be a non-empty string"
    raise_if (target_scope ≠ .null ∧ has_global_target = false) .ValueError
      "target_scope must be 'global'"
    raise_if (has_run_target = has_global_target) .ValueError
      "new-runtime command requires exactly one run or global target"
    if command.command_kind = "approval_decision" then
      match command.payload.get "approved" with
      | .bool approved =>
        raise_if (approved = true ∧ has_global_target = true) .ValueError
          "approved decisions require target_run_id"
      | _ => raise .TypeError "approval_decision payload must contain boolean approved"
    else .ok ()

def runtime_command_targets (command : RuntimeCommand) (run_ids : List String) :
    Except StoreError Bool := do
  validate_new_runtime_command_target command
  return (command.payload.get "target_scope" = .str "global"
    ∨ ∃ run_id ∈ run_ids, command.payload.get "target_run_id" = .str run_id)

/-- The mailbox entry of a stored command, when it targets one of the runs. -/
def targeted_entry (run_ids : List String) (slot_id : String) (row : MailboxRow) :
    Except StoreError (Option CommandMailboxEntry) := do
  let command ← runtime_command_from_mailbox_payload slot_id row.payload
  let targeted ← runtime_command_targets command run_ids
  if targeted = false then return none
  else
    match row.admitted_session_seq, row.admitted_dispatch_generation with
    | some admitted_session_seq, some admitted_dispatch_generation =>
      return some {
        command
        admitted_session_seq
        admitted_dispatch_generation
        disposition := row.disposition }
    | none, _ => raise .TypeError "sqlite mailbox slot row must include int admitted_session_seq"
    | some _, none =>
      raise .TypeError "sqlite mailbox slot row must include int admitted_dispatch_generation"

/-- `ORDER BY admitted_session_seq, slot_id`. -/
def admitted_before (row other : (String × String) × MailboxRow) : Bool :=
  let sequence := row.2.admitted_session_seq.getD 0
  let other_sequence := other.2.admitted_session_seq.getD 0
  sequence < other_sequence ∨ (sequence = other_sequence ∧ row.1.2 ≤ other.1.2)

/-- `_matched_child_mailbox_snapshot(binding, prior_session_seq, resume_session_seq)`: the open
commands for the child or its parent that were admitted in the range, oldest first. -/
def matched_child_mailbox_snapshot (db : Tables) (binding : ChildExecutionBinding)
    (prior_session_seq resume_session_seq : Nat) : Except StoreError (List CommandMailboxEntry) :=
  do
    let rows := (db.session_mailbox_slots.select (fun key row =>
      key.1 = binding.session_id ∧ row.disposition ∈ ["pending", "admitted"]
        ∧ ∃ sequence ∈ row.admitted_session_seq,
          prior_session_seq < sequence ∧ sequence ≤ resume_session_seq)).mergeSort admitted_before
    let entries ← rows.mapM (fun row =>
      targeted_entry [binding.parent_run_id, binding.child_run_id] row.1.2 row.2)
    return entries.reduceOption

def assert_no_pending_child_control (entries : List CommandMailboxEntry) : Except StoreError Unit :=
  check_each entries (fun entry => do
    let invalidates_dispatch ← runtime_command_invalidates_dispatch entry.command
    raise_if (invalidates_dispatch = true) .RecoveryLeaseConflictError
      "pending targeted control prevents child recovery")

/-! ## What an operation reads and writes -/

/-- What an operation on a lease returns: the tables and the lease. -/
abbrev LeaseResult := Except StoreError (Tables × RecoveredChildExecutionLease)

def required_child_binding (db : Tables) (session_id child_run_id : String) :
    Except StoreError ChildExecutionBinding :=
  match child_binding_of_run db session_id child_run_id with
  | none => raise .RecoveryLeaseConflictError "child binding does not exist"
  | some binding => .ok binding

theorem required_child_binding_eq_ok {db : Tables} {session_id child_run_id : String}
    {binding : ChildExecutionBinding} :
    required_child_binding db session_id child_run_id = .ok binding ↔
      child_binding_of_run db session_id child_run_id = some binding := by
  unfold required_child_binding
  cases child_binding_of_run db session_id child_run_id <;> simp

/-- `UPDATE session_child_bindings SET payload = ? WHERE session_id = ? AND child_run_id = ?`. -/
def set_child_binding (bindings : Table (String × String) ChildExecutionBinding)
    (session_id child_run_id : String) (updated : ChildExecutionBinding) :
    Table (String × String) ChildExecutionBinding :=
  bindings.update (fun key stored =>
    if key.1 = session_id ∧ stored.child_run_id = child_run_id then updated else stored)

section

variable (leases : Table (String × String) RecoveryLeaseRow) (session_id : String) (lease : RecoveredChildExecutionLease)

/-- `UPDATE session_recovery_leases SET status = 'superseded'` of a lease. -/
def supersede_lease : Table (String × String) RecoveryLeaseRow :=
  leases.update (fun key row =>
    if key = (session_id, lease.lease_id) then { row with status := "superseded" } else row)

/-- `UPDATE session_recovery_leases SET payload = ?` of an active lease. -/
def set_active_lease : Table (String × String) RecoveryLeaseRow :=
  leases.update (fun key row =>
    if key = (session_id, lease.lease_id) ∧ row.status = "active" then { row with lease := lease }
    else row)

end

/-- `replace(binding, active_lease=lease)`. -/
def with_active_lease (binding : ChildExecutionBinding) (lease : RecoveredChildExecutionLease) :
    Except StoreError ChildExecutionBinding := do
  let updated := { binding with active_lease := some lease }
  updated.post_init
  return updated

theorem with_active_lease_eq_ok {binding updated : ChildExecutionBinding}
    {lease : RecoveredChildExecutionLease} :
    with_active_lease binding lease = .ok updated ↔
      updated.post_init = .ok () ∧ updated = { binding with active_lease := some lease } := by
  unfold with_active_lease
  rw [check_bind_eq_ok, pure_eq_ok]
  constructor
  · rintro ⟨hvalid, rfl⟩
    exact ⟨hvalid, rfl⟩
  · rintro ⟨hvalid, rfl⟩
    exact ⟨hvalid, rfl⟩

/-! ## Acquisition -/

/-- The parent's effect is retained as it was dispatched. -/
def check_parent_dispatch (db : Tables) (session_id : String) (binding : ChildExecutionBinding) :
    Except StoreError Unit :=
  match db.session_effect_slots.row (session_id, binding.parent_effect_id) with
  | none => raise .RecoveryLeaseConflictError "parent effect is not retained as dispatched"
  | some effect => do
      raise_if (effect.status ≠ EffectStatus.DISPATCHED.value) .RecoveryLeaseConflictError
        "parent effect is not retained as dispatched"
      raise_if (effect.payload.get "attempt_id" ≠ .str binding.parent_attempt_id
          ∨ effect.payload.get "authorization_transition_id"
            ≠ .str binding.authorization_transition_id) .RecoveryLeaseConflictError
        "parent dispatch authorization does not match child binding"

section

variable (db : Tables) (authority : OwnerAuthority) (binding : ChildExecutionBinding)

/-- The parent's executor attempt, over under an older owner. -/
def quiescent_parent_attempt : Except StoreError ExecutorAttemptRecord :=
  match db.session_executor_attempts.row ⟨authority.session_id, binding.parent_effect_id,
      binding.parent_attempt_id, binding.authorization_transition_id⟩ with
  | none => raise .RecoveryLeaseConflictError "parent executor attempt does not exist"
  | some attempt => do
      raise_if (attempt.status ≠ .QUIESCENT ∨ authority.epoch ≤ attempt.dispatch_owner_epoch)
        .RecoveryLeaseConflictError
        "parent executor attempt is not quiescent under an older owner"
      return attempt

/-- A lease id that was issued before: only the caller's own standing lease is answered again. -/
def reacquired_lease (child_run_id : String) (ledger_row : RecoveryLeaseRow) : LeaseResult := do
  let stored_lease := ledger_row.lease
  let current_snapshot ← matched_child_mailbox_snapshot db binding stored_lease.prior_session_seq
    (db.fact_source authority.session_id).session_seq
  assert_no_pending_child_control current_snapshot
  raise_if (ledger_row.child_run_id ≠ child_run_id ∨ binding.active_lease ≠ some stored_lease
      ∨ stored_lease.owner_epoch ≠ authority.epoch) .RecoveryLeaseConflictError
    "recovery lease identity was already issued"
  return (db.ensure_fact_source authority.session_id, stored_lease)

/-- The new lease on the child, at the session's current counters. -/
def new_lease (lease_id : String) : Except StoreError RecoveredChildExecutionLease := do
  let fact_source := db.fact_source authority.session_id
  raise_if (∃ active ∈ binding.active_lease,
      active.lease_id ≠ lease_id ∧ authority.epoch ≤ active.owner_epoch)
    .RecoveryLeaseConflictError "another active recovery lease owns this child"
  check_parent_dispatch db authority.session_id binding
  let attempt ← quiescent_parent_attempt db authority binding
  let prior_session_seq := attempt.authorization_mailbox_session_seq
  let resume_session_seq := fact_source.session_seq
  let mailbox_snapshot ←
    matched_child_mailbox_snapshot db binding prior_session_seq resume_session_seq
  assert_no_pending_child_control mailbox_snapshot
  let lease : RecoveredChildExecutionLease :=
    { session_id := authority.session_id
      child_run_id := binding.child_run_id
      lease_id
      resume_generation := (binding.active_lease.map (·.resume_generation)).getD 0 + 1
      resume_cut := fact_source.dispatch_generation
      owner_epoch := authority.epoch
      prior_session_seq
      resume_session_seq
      mailbox_snapshot }
  lease.post_init
  return lease

/-- The lease enters the ledger and the binding, and supersedes the one before it. -/
def issue_lease (child_run_id : String) (lease : RecoveredChildExecutionLease) : LeaseResult := do
  let session_id := authority.session_id
  let updated ← with_active_lease binding lease
  let superseded := binding.active_lease.elim db.session_recovery_leases
    (supersede_lease db.session_recovery_leases session_id)
  let session_recovery_leases ← insert_row superseded (session_id, lease.lease_id)
    { child_run_id := lease.child_run_id, status := "active", lease }
  return ({ db.ensure_fact_source session_id with
      session_child_bindings :=
        set_child_binding db.session_child_bindings session_id child_run_id updated
      session_recovery_leases }, lease)

end

def acquire_recovered_child_execution_lease (db : Tables) (clock : Datetime)
    (authority : OwnerAuthority) (child_run_id lease_id : String) : LeaseResult := do
  assert_authority db clock authority
  let binding ← required_child_binding db authority.session_id child_run_id
  match db.session_recovery_leases.row (authority.session_id, lease_id) with
  | some ledger_row => reacquired_lease db authority binding child_run_id ledger_row
  | none => do
      let lease ← new_lease db authority binding lease_id
      issue_lease db authority binding child_run_id lease

/-! ## Bringing a lease up to date -/

section

variable (db : Tables) (session_id : String)

/-- The binding whose active lease is `lease`. -/
def leased_child_binding
    (lease : RecoveredChildExecutionLease) : Except StoreError ChildExecutionBinding := do
  let binding ← required_child_binding db session_id lease.child_run_id
  raise_if (binding.active_lease ≠ some lease) .RecoveryLeaseConflictError
    "recovery lease identity or generation is stale"
  return binding

/-- The lease replaces the one it was made from, unless nothing is new. -/
def update_lease (binding : ChildExecutionBinding)
    (lease : RecoveredChildExecutionLease) (resume_cut resume_session_seq : Nat)
    (mailbox_snapshot : List CommandMailboxEntry) : LeaseResult :=
  if lease.resume_cut = resume_cut ∧ lease.resume_session_seq = resume_session_seq
      ∧ lease.mailbox_snapshot = mailbox_snapshot then
    .ok (db.ensure_fact_source session_id, lease)
  else do
    let updated_lease := { lease with
      resume_generation := lease.resume_generation + 1
      resume_cut
      resume_session_seq
      mailbox_snapshot }
    updated_lease.post_init
    let updated ← with_active_lease binding updated_lease
    return ({ db.ensure_fact_source session_id with
        session_child_bindings :=
          set_child_binding db.session_child_bindings session_id lease.child_run_id updated
        session_recovery_leases :=
          set_active_lease db.session_recovery_leases session_id updated_lease }, updated_lease)

/-- The parent's effect is still dispatched. -/
def check_dispatch_retained (binding : ChildExecutionBinding) : Except StoreError Unit :=
  match db.session_effect_slots.row (session_id, binding.parent_effect_id) with
  | none => raise .RecoveryLeaseConflictError "parent effect is no longer dispatched"
  | some effect => do
      raise_if (effect.status ≠ EffectStatus.DISPATCHED.value) .RecoveryLeaseConflictError
        "parent effect is no longer dispatched"
      raise_if (effect.payload.get "authorization_transition_id"
          ≠ .str binding.authorization_transition_id) .RecoveryLeaseConflictError
        "parent dispatch authorization changed"

end

def rebase_recovered_child_execution_lease (db : Tables) (clock : Datetime)
    (authority : OwnerAuthority) (lease : RecoveredChildExecutionLease) : LeaseResult := do
  assert_authority db clock authority
  let fact_source := db.fact_source authority.session_id
  let binding ← leased_child_binding db authority.session_id lease
  check_dispatch_retained db authority.session_id binding
  let mailbox_snapshot ←
    matched_child_mailbox_snapshot db binding lease.prior_session_seq fact_source.session_seq
  assert_no_pending_child_control mailbox_snapshot
  raise_if (∃ entry ∈ mailbox_snapshot, entry.command.command_kind = "approval_decision")
    .RecoveryLeaseConflictError "approval commands require validated recovery refresh"
  update_lease db authority.session_id binding lease fact_source.dispatch_generation
    fact_source.session_seq mailbox_snapshot

/-- What the child waits for: its first pending plan, and the plan's payload. -/
def waiting_effect_plan (state_version : OperationStateVersion) :
    Except StoreError (JsonObject × JsonObject) :=
  match state_version.value.get "_agentkit_runtime" with
  | .obj runtime_state =>
    match JsonObject.get runtime_state "pending_effect_plans" with
    | .arr (.obj plan :: _) =>
      match JsonObject.get plan "payload" with
      | .obj payload => .ok (plan, payload)
      | _ => raise .RecoveryLeaseConflictError
          "approval refresh waiting effect payload is malformed"
    | .arr (_ :: _) => raise .RecoveryLeaseConflictError
        "approval refresh waiting effect plan is malformed"
    | _ => raise .RecoveryLeaseConflictError
        "approval refresh requires a durable waiting effect plan"
  | _ => raise .RecoveryLeaseConflictError
      "approval refresh requires durable child runtime state"

def approval_matches_plan (approval : ApprovalSettlement) (plan payload : JsonObject) : Prop :=
  plan.get "effect_id" = .str approval.effect_id
    ∧ plan.get "attempt_id" = .str approval.attempt_id
    ∧ plan.get "approval_request_id" = .str approval.input_id
    ∧ payload.get "tool_call_id" = .str approval.tool_call_id
    ∧ payload.get "tool_name" = .str approval.tool_name

instance (approval : ApprovalSettlement) (plan payload : JsonObject) :
    Decidable (approval_matches_plan approval plan payload) :=
  inferInstanceAs (Decidable (_ ∧ _))

/-- The command approves the child's request, and is new or known to the lease. -/
def authorizes_refresh (lease : RecoveredChildExecutionLease) (approval : ApprovalSettlement)
    (entry : CommandMailboxEntry) : Prop :=
  entry.disposition = "pending" ∧ entry.command.command_kind = "approval_decision"
    ∧ entry.command.payload.get "approved" = .bool true
    ∧ entry.command.payload.get "request_id" = .str approval.input_id
    ∧ entry.command.payload.get "target_run_id" = .str lease.child_run_id
    ∧ (lease.resume_session_seq < entry.admitted_session_seq ∨ entry ∈ lease.mailbox_snapshot)

instance (lease : RecoveredChildExecutionLease) (approval : ApprovalSettlement)
    (entry : CommandMailboxEntry) : Decidable (authorizes_refresh lease approval entry) :=
  inferInstanceAs (Decidable (_ ∧ _))

def validate_recovery_approval_refresh (lease : RecoveredChildExecutionLease)
    (state_version : OperationStateVersion) (approval : ApprovalSettlement)
    (mailbox_snapshot : List CommandMailboxEntry) : Except StoreError Unit := do
  raise_if (state_version.run_id ≠ lease.child_run_id) .RecoveryLeaseConflictError
    "approval refresh state does not belong to the recovered child"
  raise_if (approval.owner_epoch ≠ lease.owner_epoch ∨ approval.approved = false)
    .RecoveryLeaseConflictError "approval refresh does not belong to the active owner"
  let (plan, payload) ← waiting_effect_plan state_version
  raise_if (¬ approval_matches_plan approval plan payload) .RecoveryLeaseConflictError
    "approval refresh does not match the durable waiting effect plan"
  match mailbox_snapshot.filter (fun entry => entry.command.command_id = approval.command_id) with
  | [entry] =>
    raise_if (¬ authorizes_refresh lease approval entry) .RecoveryLeaseConflictError
      "approval refresh command does not authorize this recovered child"
  | _ => raise .RecoveryLeaseConflictError "approval refresh command is absent or duplicated"

/-- The durable state of the child is the one the caller saw. -/
def check_child_state (db : Tables) (session_id : String) (lease : RecoveredChildExecutionLease)
    (state_version : OperationStateVersion) : Except StoreError Unit :=
  match db.session_operation_states.row (session_id, lease.child_run_id) with
  | none => raise .RecoveryLeaseConflictError "recovered child operation state does not exist"
  | some durable_state => raise_if (durable_state ≠ state_version) .RecoveryLeaseConflictError
      "approval refresh child state is stale"

def refresh_recovered_child_execution_lease_for_approval (db : Tables) (clock : Datetime)
    (authority : OwnerAuthority) (lease : RecoveredChildExecutionLease)
    (state_version : OperationStateVersion) (approval : ApprovalSettlement)
    (expected_dispatch_cut : Nat) : LeaseResult := do
  assert_authority db clock authority
  let fact_source := db.fact_source authority.session_id
  let current_cut := fact_source.dispatch_generation
  raise_if (current_cut ≠ expected_dispatch_cut) .RecoveryLeaseConflictError
    "approval refresh dispatch cut is stale"
  let binding ← leased_child_binding db authority.session_id lease
  check_child_state db authority.session_id lease state_version
  let mailbox_snapshot ←
    matched_child_mailbox_snapshot db binding lease.prior_session_seq fact_source.session_seq
  assert_no_pending_child_control mailbox_snapshot
  validate_recovery_approval_refresh lease state_version approval mailbox_snapshot
  raise_if (current_cut ≠ lease.resume_cut) .RecoveryLeaseConflictError
    "approval refresh must keep resume_cut unchanged"
  update_lease db authority.session_id binding lease lease.resume_cut fact_source.session_seq
    mailbox_snapshot

/-! ## Calls and runs -/

/-- An operation on a lease with its arguments. -/
inductive LeaseCall where
  | acquire_recovered_child_execution_lease (authority : OwnerAuthority)
      (child_run_id lease_id : String)
  | rebase_recovered_child_execution_lease (authority : OwnerAuthority)
      (lease : RecoveredChildExecutionLease)
  | refresh_recovered_child_execution_lease_for_approval (authority : OwnerAuthority)
      (lease : RecoveredChildExecutionLease) (state_version : OperationStateVersion)
      (approval : ApprovalSettlement) (expected_dispatch_cut : Nat)

/-- The operation, performed on the tables at the store's clock reading. -/
def perform_lease (db : Tables) (clock : Datetime) : LeaseCall → LeaseResult
  | .acquire_recovered_child_execution_lease authority child_run_id lease_id =>
    CodingAgentLoop.acquire_recovered_child_execution_lease db clock authority child_run_id
      lease_id
  | .rebase_recovered_child_execution_lease authority lease =>
    CodingAgentLoop.rebase_recovered_child_execution_lease db clock authority lease
  | .refresh_recovered_child_execution_lease_for_approval authority lease state_version approval
      expected_dispatch_cut =>
      CodingAgentLoop.refresh_recovered_child_execution_lease_for_approval db clock authority lease
        state_version approval expected_dispatch_cut

/-- What happens to a store whose children are recovered. -/
inductive RecoveryEvent where
  | store (event : StoreEvent)
  | lease (clock : Datetime) (call : LeaseCall)
      (answer : Except StoreError RecoveredChildExecutionLease)

def RecoveryStep (host : Host) (db : Tables) (event : RecoveryEvent) (db' : Tables) : Prop :=
  match event with
  | .store event => StoreStep host db event db'
  | .lease clock call answer => transaction db (perform_lease db clock call) = (db', answer)

/-- A run of the store from a fresh database, with operations on leases among its events. -/
abbrev RecoveryRun (host : Host) (events : List RecoveryEvent) (db : Tables) : Prop :=
  Run (RecoveryStep host) Tables.empty events db

/-! ## What an operation did -/

/-- The bindings and the ledger are as they were. -/
structure LeasesKept (db db' : Tables) : Prop where
  bindings : db'.session_child_bindings = db.session_child_bindings
  leases : db'.session_recovery_leases = db.session_recovery_leases

theorem LeasesKept.ensure_fact_source (db : Tables) (session_id : String) :
    LeasesKept db (db.ensure_fact_source session_id) := by
  unfold Tables.ensure_fact_source
  split
  · exact ⟨rfl, rfl⟩
  · exact ⟨rfl, rfl⟩

theorem Quiet.leased (db : Tables) (session_id : String)
    (session_child_bindings : Table (String × String) ChildExecutionBinding)
    (session_recovery_leases : Table (String × String) RecoveryLeaseRow) :
    Quiet db { db.ensure_fact_source session_id with
      session_child_bindings, session_recovery_leases } := by
  have hensured := Quiet.ensure_fact_source db session_id
  exact ⟨hensured.effect_slots, hensured.executor_attempts, hensured.operation_states,
    hensured.transition_receipts, hensured.event_records, hensured.mailbox_slots,
    hensured.session_seq, hensured.dispatch_generation⟩

variable {host : Host} {db db' : Tables} {clock : Datetime} {authority : OwnerAuthority}
  {lease answered : RecoveredChildExecutionLease}

/-- A lease that entered the ledger now. -/
structure LeaseIssued (db : Tables) (authority : OwnerAuthority) (child_run_id lease_id : String)
    (binding : ChildExecutionBinding) (lease : RecoveredChildExecutionLease) (db' : Tables) :
    Prop where
  found : child_binding_of_run db authority.session_id child_run_id = some binding
  new : db.session_recovery_leases.row (authority.session_id, lease_id) = none
  overtakes : ∀ active, binding.active_lease = some active →
    active.lease_id = lease_id ∨ active.owner_epoch < authority.epoch
  named : lease.lease_id = lease_id
  child : lease.child_run_id = binding.child_run_id
  generation : lease.resume_generation
    = (binding.active_lease.map (·.resume_generation)).getD 0 + 1
  cut : lease.resume_cut = (db.fact_source authority.session_id).dispatch_generation
  epoch : lease.owner_epoch = authority.epoch
  bindings : db'.session_child_bindings = set_child_binding db.session_child_bindings
    authority.session_id child_run_id { binding with active_lease := some lease }
  leases : db'.session_recovery_leases
    = (binding.active_lease.elim db.session_recovery_leases
        (supersede_lease db.session_recovery_leases authority.session_id)).put
      (authority.session_id, lease_id)
      { child_run_id := lease.child_run_id, status := "active", lease }
  quiet : Quiet db db'

/-- A lease that was brought up to date: the generation after it, at the cut given. -/
structure LeaseUpdated (db : Tables) (session_id : String) (binding : ChildExecutionBinding)
    (lease : RecoveredChildExecutionLease) (resume_cut : Nat)
    (updated : RecoveredChildExecutionLease) (db' : Tables) : Prop where
  found : child_binding_of_run db session_id lease.child_run_id = some binding
  standing : binding.active_lease = some lease
  named : updated.lease_id = lease.lease_id
  child : updated.child_run_id = lease.child_run_id
  generation : updated.resume_generation = lease.resume_generation + 1
  cut : updated.resume_cut = resume_cut
  epoch : updated.owner_epoch = lease.owner_epoch
  bindings : db'.session_child_bindings = set_child_binding db.session_child_bindings session_id
    lease.child_run_id { binding with active_lease := some updated }
  leases : db'.session_recovery_leases
    = set_active_lease db.session_recovery_leases session_id updated
  quiet : Quiet db db'

/-- The lease stands: the binding of its child has it, and it is answered as it is. -/
structure LeaseStands (db : Tables) (session_id : String) (lease : RecoveredChildExecutionLease)
    (db' : Tables) : Prop where
  standing : ∃ binding, child_binding_of_run db session_id lease.child_run_id = some binding
    ∧ binding.active_lease = some lease
  tables : db' = db.ensure_fact_source session_id

/-- **What an acquisition can have done**: answered the caller's standing lease, or issued one. -/
theorem acquire_cases {child_run_id lease_id : String}
    (h : acquire_recovered_child_execution_lease db clock authority child_run_id lease_id
      = .ok (db', answered)) :
    (∃ row binding, db.session_recovery_leases.row (authority.session_id, lease_id) = some row
        ∧ child_binding_of_run db authority.session_id child_run_id = some binding
        ∧ binding.active_lease = some answered ∧ row.lease = answered
        ∧ db' = db.ensure_fact_source authority.session_id)
      ∨ ∃ binding, LeaseIssued db authority child_run_id lease_id binding answered db' := by
  simp only [acquire_recovered_child_execution_lease, bind_eq_ok,
    required_child_binding_eq_ok] at h
  obtain ⟨_, -, binding, hbinding, h⟩ := h
  cases hrow : db.session_recovery_leases.row (authority.session_id, lease_id) with
  | some ledger_row =>
    simp only [hrow, reacquired_lease, bind_eq_ok, pure_eq_ok, raise_if_eq_ok,
      not_or, not_not, Prod.mk.injEq] at h
    obtain ⟨_, -, _, -, _, ⟨-, hstanding, -⟩, hdb, hlease⟩ := h
    exact Or.inl ⟨ledger_row, binding, rfl, hbinding, hlease ▸ hstanding, hlease, hdb.symm⟩
  | none =>
    simp only [hrow, bind_eq_ok] at h
    obtain ⟨lease, hlease, hissued⟩ := h
    simp only [new_lease, bind_eq_ok, pure_eq_ok, raise_if_eq_ok] at hlease
    obtain ⟨_, hovertakes, _, -, attempt, -, snapshot, -, _, -, _, -, rfl⟩ := hlease
    simp only [issue_lease, bind_eq_ok, pure_eq_ok, with_active_lease_eq_ok,
      insert_row_eq_ok, Prod.mk.injEq] at hissued
    obtain ⟨_, ⟨-, rfl⟩, _, ⟨-, rfl⟩, hdb, rfl⟩ := hissued
    refine Or.inr ⟨binding, ?_⟩
    subst hdb
    refine
      { found := hbinding, new := hrow, overtakes := fun active hactive => ?_, named := rfl,
        child := rfl, generation := rfl, cut := rfl, epoch := rfl, bindings := rfl,
        leases := rfl, quiet := Quiet.leased db authority.session_id _ _ }
    by_contra hstale
    rw [not_or, not_lt] at hstale
    exact hovertakes ⟨active, hactive, hstale⟩

theorem update_cases {binding : ChildExecutionBinding} {resume_cut resume_session_seq : Nat}
    {mailbox_snapshot : List CommandMailboxEntry}
    (hbinding : leased_child_binding db authority.session_id lease = .ok binding)
    (h : update_lease db authority.session_id binding lease resume_cut resume_session_seq
      mailbox_snapshot = .ok (db', answered)) :
    (answered = lease ∧ LeaseStands db authority.session_id lease db')
      ∨ LeaseUpdated db authority.session_id binding lease resume_cut answered db' := by
  simp only [leased_child_binding, bind_eq_ok, pure_eq_ok,
    required_child_binding_eq_ok, raise_if_eq_ok, not_not] at hbinding
  obtain ⟨binding, hfound, _, hstanding, rfl⟩ := hbinding
  unfold update_lease at h
  split at h
  · rw [Except.ok.injEq, Prod.mk.injEq] at h
    exact Or.inl ⟨h.2.symm, ⟨⟨binding, hfound, hstanding⟩, h.1.symm⟩⟩
  · simp only [bind_eq_ok, pure_eq_ok, with_active_lease_eq_ok, Prod.mk.injEq] at h
    obtain ⟨_, -, _, ⟨-, rfl⟩, hdb, rfl⟩ := h
    subst hdb
    exact Or.inr ⟨hfound, hstanding, rfl, rfl, rfl, rfl, rfl, rfl, rfl,
      Quiet.leased db authority.session_id _ _⟩

/-- **What a rebase can have done**: answered the standing lease, or taken a new cut. -/
theorem rebase_cases
    (h : rebase_recovered_child_execution_lease db clock authority lease = .ok (db', answered)) :
    (answered = lease ∧ LeaseStands db authority.session_id lease db')
      ∨ ∃ binding, LeaseUpdated db authority.session_id binding lease
          (db.fact_source authority.session_id).dispatch_generation answered db' := by
  simp only [rebase_recovered_child_execution_lease, bind_eq_ok] at h
  obtain ⟨_, -, binding, hbinding, _, -, snapshot, -, _, -, _, -, hupdate⟩ := h
  exact (update_cases hbinding hupdate).imp_right (fun hupdated => ⟨binding, hupdated⟩)

/-- **What a refresh can have done**: answered the standing lease, or brought it up to date at the
cut it has. -/
theorem refresh_cases {state_version : OperationStateVersion} {approval : ApprovalSettlement}
    {expected_dispatch_cut : Nat}
    (h : refresh_recovered_child_execution_lease_for_approval db clock authority lease state_version
      approval expected_dispatch_cut = .ok (db', answered)) :
    (answered = lease ∧ LeaseStands db authority.session_id lease db')
      ∨ ∃ binding, LeaseUpdated db authority.session_id binding lease lease.resume_cut answered
          db' := by
  simp only [refresh_recovered_child_execution_lease_for_approval, bind_eq_ok] at h
  obtain ⟨_, -, _, -, binding, hbinding, _, -, snapshot, -, _, -, _, -, _, -, hupdate⟩ := h
  exact (update_cases hbinding hupdate).imp_right (fun hupdated => ⟨binding, hupdated⟩)

theorem perform_lease_quiet {call : LeaseCall}
    (h : perform_lease db clock call = .ok (db', answered)) : Quiet db db' := by
  cases call with
  | acquire_recovered_child_execution_lease authority child_run_id lease_id =>
    rcases acquire_cases h with ⟨_, _, -, -, -, -, rfl⟩ | ⟨_, hissued⟩
    · exact Quiet.ensure_fact_source db _
    · exact hissued.quiet
  | rebase_recovered_child_execution_lease authority lease =>
    rcases rebase_cases h with ⟨-, hstands⟩ | ⟨_, hupdated⟩
    · rw [hstands.tables]
      exact Quiet.ensure_fact_source db _
    · exact hupdated.quiet
  | refresh_recovered_child_execution_lease_for_approval authority lease state_version approval
      expected_dispatch_cut =>
      rcases refresh_cases h with ⟨-, hstands⟩ | ⟨_, hupdated⟩
      · rw [hstands.tables]
        exact Quiet.ensure_fact_source db _
      · exact hupdated.quiet

end CodingAgentLoop
