/-
The commit port over the durable store (`coding_agent/stores/durable_commit_port.py`,
the class `_DurableCommitPort`).

The port turns a coordinator's request into one authoritative unit of work and the
store's answer into one result variant. Building the unit stamps each pending fact
with the run and with a clock reading of its own; a settlement also reads, before the
unit is built, whether its effect has a bound child run and whether its attempt was
ever claimed. A unit that its constructor refuses raises out of the port: only the
store's exceptions become results.
-/
import CodingAgentLoop.Coordinator
import CodingAgentLoop.Runtime

open Lib Dialogue

namespace CodingAgentLoop

open Await

/-! ## Small parts -/

/-- `_child_bindings`, for one plan. -/
def child_execution_binding (session_id parent_run_id prepared_transition_id : String)
    (plan : EffectPlan) : ChildExecutionBinding :=
  let authorization_transition_id :=
    prepared_transition_id ++ ":dispatch:" ++ plan.effect_id ++ ":" ++ plan.attempt_id
  { session_id
    parent_run_id
    parent_effect_id := plan.effect_id
    parent_attempt_id := plan.attempt_id
    child_run_id := session_id ++ ":" ++ parent_run_id ++ ":child:" ++ plan.effect_id ++ ":"
      ++ plan.attempt_id
    authorization_transition_id
    live_parent_settlement_transition_id := parent_run_id ++ ":transition:EffectSettled:"
      ++ authorization_transition_id ++ ":settlement:" ++ plan.attempt_id }

def child_bindings (session_id parent_run_id prepared_transition_id : String)
    (plans : List EffectPlan) : List ChildExecutionBinding :=
  (plans.filter (fun plan => plan.payload.get "tool_name" = .str "subagent")).map
    (child_execution_binding session_id parent_run_id prepared_transition_id)

def distinct_transition_ids (current_transition_id : String) (candidates : List String) :
    List String :=
  candidates.foldl (fun result candidate =>
    if candidate ≠ current_transition_id ∧ candidate ∉ result then result ++ [candidate]
    else result) []

theorem mem_distinct_transition_ids {current_transition_id transition_id : String}
    {candidates : List String}
    (h : transition_id ∈ distinct_transition_ids current_transition_id candidates) :
    transition_id ∈ candidates := by
  have hfold : ∀ result : List String,
      transition_id ∈ candidates.foldl (fun result candidate =>
        if candidate ≠ current_transition_id ∧ candidate ∉ result then result ++ [candidate]
        else result) result → transition_id ∈ result ∨ transition_id ∈ candidates := by
    clear h
    induction candidates with
    | nil => exact fun _ hmem => Or.inl hmem
    | cons candidate rest ih =>
      intro result hmem
      rcases ih _ hmem with hresult | hrest
      · dsimp only at hresult
        split at hresult
        · rcases mem_snoc hresult with hold | hnew
          · exact Or.inl hold
          · exact Or.inr (hnew ▸ List.mem_cons_self)
        · exact Or.inl hresult
      · exact Or.inr (List.mem_cons_of_mem _ hrest)
  exact (hfold [] h).resolve_left List.not_mem_nil

def recovery_parent_settlement_transition_id (binding : ChildExecutionBinding)
    (guard : RecoveryTransitionGuard) : String :=
  binding.live_parent_settlement_transition_id ++ ":recovery:" ++ guard.lease_id ++ ":"
    ++ toString guard.resume_generation ++ ":" ++ toString guard.expected_recovery_cut

def guarded_transition_id (transition_id : String) (guard : RecoveryTransitionGuard) : String :=
  transition_id ++ ":recovery:" ++ guard.lease_id ++ ":" ++ toString guard.resume_generation
    ++ ":" ++ toString guard.expected_recovery_cut

/-- `_reason_code(exc)`: the class name in snake case. -/
def reason_code (error : StoreError) : String :=
  match error.name.toList with
  | [] => "invalid_transition"
  | first :: rest => String.ofList (first.toLower :: rest.flatMap (fun character =>
    if character.isUpper then ['_', character.toLower] else [character.toLower]))

def strip (text : String) : String :=
  String.ofList
    ((text.toList.dropWhile Char.isWhitespace).reverse.dropWhile Char.isWhitespace).reverse

/-- The port's `_exception_message(exc)`. -/
def port_exception_message (error : StoreError) : String :=
  if strip error.message = "" then error.name else strip error.message

def storage_failure (error : StoreError) : CommitResult :=
  .StorageFailure ⟨"storage_failure", port_exception_message error⟩

section

variable (commit : AuthoritativeCommit)

def committed_notices : List CommittedFactNotice :=
  commit.facts.map (fun fact =>
    { fact_id := fact.event_id
      fact_kind := fact.event_kind
      payload := fact.payload
      session_seq := fact.session_seq
      projection_epoch := fact.projection_epoch
      event_record_id := some fact.event_id })

def required_transition_result :
    Except StoreError (OperationStateVersion × TransitionReceipt) :=
  match commit.state_version, commit.transition_receipt with
  | some state_version, some receipt => .ok (state_version, receipt)
  | _, _ => raise .RuntimeError "authoritative transition commit omitted its result"

def exact_replay : Except StoreError CommitResult := do
  let (state_version, receipt) ← required_transition_result commit
  return .ExactReplay state_version receipt

/-- `_ordinary_result(commit)` of a commit that was not rejected. -/
def ordinary_result : Except StoreError CommitResult :=
  if commit.idempotent then exact_replay commit
  else do
    let (state_version, receipt) ← required_transition_result commit
    return .Committed state_version (committed_notices commit) receipt

end

/-! ## The unit of work -/

/-- The payload of a pending fact, with the run it belongs to. -/
def stamped_payload (run_id : String) (fact : PendingFact) : Except StoreError JsonObject :=
  match fact.payload.get "run_id" with
  | .null => .ok (fact.payload.set "run_id" (.str run_id))
  | .str existing =>
    if existing = "" then raise .ValueError "pending fact run_id must be a non-empty string"
    else .ok fact.payload
  | _ => raise .ValueError "pending fact run_id must be a non-empty string"

def stamped_fact (session_id run_id : String) (fact : PendingFact) (created_at : Datetime) :
    Except StoreError EventRecord := do
  let payload ← stamped_payload run_id fact
  let event : EventRecord :=
    { event_id := fact.fact_id, session_id, event_kind := fact.fact_kind, payload, created_at }
  event.post_init
  return event

/-- The loop that stamps the pending facts, each with its own clock reading. -/
def stamp_pending_facts (session_id run_id : String) : List PendingFact → Task (List EventRecord)
  | [] => .done []
  | fact :: rest => do
      let created_at ← clock
      let event ← lift (stamped_fact session_id run_id fact created_at)
      let events ← stamp_pending_facts session_id run_id rest
      return event :: events

/-- The keyword arguments of `_transition_unit`. -/
structure TransitionOptions where
  effect_mutations : List EffectMutation
  create_child_bindings : Bool
  expected_mailbox_cut : Option Nat := none
  recovery_guard : Option RecoveryTransitionGuard := none
  transition_id : Option String := none
  adopt_transition_ids : List String := []
  terminal_action : Option Bool := none
  unstarted_dispatch_closeout : Option UnstartedDispatchCloseoutGuard := none

/-- `isinstance(action, TerminalAction)`. -/
def NextAction.is_terminal : NextAction → Bool
  | .TerminalAction _ _ => true
  | _ => false

section

variable (session_state : JsonObject) (request : CommitTransitionRequest) (options : TransitionOptions)

def transition_unit_of_facts (facts : List EventRecord) : AuthoritativeUnitOfWork where
  session_state
  transition_id := some (options.transition_id.getD request.proposal.transition_id)
  state_cas := some request.engine_request.state_version.cas
  adopt_transition_ids := options.adopt_transition_ids
  state_value := some request.proposal.state_value
  facts
  dispositions := request.proposal.dispositions
  effect_mutations := options.effect_mutations
  effect_plans := request.proposal.effect_plans
  child_bindings :=
    if options.create_child_bindings then
      child_bindings request.session_id request.engine_request.state_version.run_id
        request.proposal.transition_id request.proposal.effect_plans
    else []
  expected_mailbox_cut := options.expected_mailbox_cut
  recovery_guard := options.recovery_guard
  terminal_action := options.terminal_action.getD request.proposal.next_action.is_terminal
  unstarted_dispatch_closeout := options.unstarted_dispatch_closeout

def transition_unit : Task UnitOfWork := do
  let run_id := request.engine_request.state_version.run_id
  lift (raise_if (run_id = "") .ValueError
    "transition state_version.run_id must be a non-empty string")
  let facts ← stamp_pending_facts request.session_id run_id request.proposal.pending_facts
  lift (UnitOfWork.make (transition_unit_of_facts session_state request options facts))

end

/-! ## The store's answer -/

/-- The classes whose exceptions reject a transition as invalid. -/
def rejects_transition (cls : ErrorClass) : Bool :=
  cls.is_value_error ∨ cls ∈ [ErrorClass.CommandDispositionConflictError,
    .ChildBindingConflictError, .EffectMutationConflictError, .ExecutorAttemptConflictError,
    .RecoveryEvidenceConflictError, .TransitionFingerprintMismatchError,
    .StaleRecoveryGuardError]

/-- The compare-and-swap failed: the answer is the state that is stored now. -/
def conflict_result (session_id run_id : String) : Task CommitResult := do
  let current ← load_operation_state session_id run_id
  match current with
  | .error error => return storage_failure error
  | .ok none =>
    return .InvalidTransition "operation_state_missing" "current operation state does not exist"
  | .ok (some current_state) => return .CASConflict current_state

/-- The result an exception of the store becomes. -/
def rejected_result (session_id run_id : String) (owner_epoch : Nat) (error : StoreError) :
    Task CommitResult :=
  match error with
  | .StaleMailboxCutError expected_mailbox_cut current_mailbox_cut =>
    .done (.StaleMailboxCut expected_mailbox_cut current_mailbox_cut)
  | .raised cls _ =>
    if cls = .StateVersionConflictError then conflict_result session_id run_id
    else if cls = .SessionOwnershipConflictError then .done (.StaleOwner owner_epoch owner_epoch)
    else if rejects_transition cls then
      .done (.InvalidTransition (reason_code error) (port_exception_message error))
    else .done (storage_failure error)

/-- `_commit(request, unit)`, with what is made of a commit that succeeds. -/
def commit_unit (authority : OwnerAuthority) (unit : UnitOfWork)
    (accepted : AuthoritativeCommit → Task CommitResult) : Task CommitResult := do
  let answer ← Await.commit authority unit
  match answer with
  | .ok commit => accepted commit
  | .error error =>
    rejected_result authority.session_id ((unit.val.state_cas.map (·.run_id)).getD "")
      authority.epoch error

namespace DurableCommitPort

def authority (request : CommitTransitionRequest) : OwnerAuthority where
  session_id := request.session_id
  owner_id := request.owner_id
  epoch := request.owner_epoch

/-- `EffectMutation.prepare(plan)`, for every plan of the proposal. -/
def preparations (request : CommitTransitionRequest) : List EffectMutation :=
  request.proposal.effect_plans.map EffectMutation.prepare

def commit_transition (session_state : JsonObject) (request : CommitTransitionRequest) :
    Task CommitResult := do
  let unit ← transition_unit session_state request
    { effect_mutations := preparations request, create_child_bindings := true }
  commit_unit (authority request) unit (fun commit => lift (ordinary_result commit))

/-! ### Dispatch authorization -/

/-- The part of a dispatch authorization that every transition has. -/
def authorization_core (request : DispatchAuthorizationRequest) : CommitTransitionRequest where
  session_id := request.session_id
  owner_id := request.owner_id
  owner_epoch := request.owner_epoch
  engine_request := request.engine_request
  proposal := request.proposal

/-- A fresh authorization mints a permit; a replayed one does not. -/
def authorized (request : DispatchAuthorizationRequest) (commit : AuthoritativeCommit) :
    Task CommitResult :=
  if commit.idempotent then lift (exact_replay commit)
  else do
    let (state_version, receipt) ← lift (required_transition_result commit)
    let permit_token ← Await.permit_token
    if permit_token = "" then
      return .StorageFailure ⟨"invalid_permit_token",
        "permit token factory returned an empty token"⟩
    else do
      let permit ← lift (DispatchPermit.issue
        { opaque_token := permit_token
          session_id := request.session_id
          effect_id := request.effect_plan.effect_id
          attempt_id := request.effect_plan.attempt_id
          authorization_transition_id := request.proposal.transition_id
          owner_epoch := request.owner_epoch
          idempotency_key := request.effect_plan.idempotency_key })
      return .DispatchAuthorized state_version permit (committed_notices commit) receipt

def authorize_dispatch (session_state : JsonObject) (request : DispatchAuthorizationRequest) :
    Task CommitResult := do
  let unit ← transition_unit session_state (authorization_core request)
    { effect_mutations := [request.effect_mutation]
      create_child_bindings := false
      expected_mailbox_cut := some request.mailbox_cut }
  commit_unit (authority (authorization_core request)) unit (authorized request)

/-! ### Settlements -/

def settlement_core (request : CommitSettlementRequest) : CommitTransitionRequest where
  session_id := request.session_id
  owner_id := request.owner_id
  owner_epoch := request.owner_epoch
  engine_request := request.engine_request
  proposal := request.proposal

def lease_guard (lease : RecoveredChildExecutionLease) : RecoveryTransitionGuard where
  lease_id := lease.lease_id
  child_run_id := lease.child_run_id
  resume_generation := lease.resume_generation
  expected_recovery_cut := lease.resume_cut
  kind := .PARENT_SETTLEMENT

section

variable (request : CommitSettlementRequest)

/-- The transition id of a settlement and the ids whose receipt it adopts, from the binding of
its effect. -/
def settlement_transition_ids :
    Option ChildExecutionBinding → Except StoreError (String × List String)
  | none => .ok (request.proposal.transition_id, [])
  | some binding => do
      raise_if (binding.parent_attempt_id ≠ request.settlement.attempt_id) .ValueError
        "parent settlement attempt does not match child binding"
      let live_transition_id := binding.live_parent_settlement_transition_id
      let candidates := request.proposal.transition_id ::
        (binding.active_lease.map (fun lease =>
          recovery_parent_settlement_transition_id binding (lease_guard lease))).toList
      return (live_transition_id, distinct_transition_ids live_transition_id candidates)

def parent_settlement_transition_ids : Task (String × List String) := do
  let loaded ←
    load_child_binding_of_effect request.session_id request.settlement.effect_id
  let binding ← lift loaded
  lift (settlement_transition_ids request binding)

section

variable (settlement : EffectSettlement)

def settled_attempt_key : AttemptKey where
  session_id := request.session_id
  effect_id := settlement.effect_id
  attempt_id := settlement.attempt_id
  authorization_transition_id := settlement.authorization_transition_id

/-- The guard that closes out an attempt nobody claimed. -/
def unstarted_guard (closed_at : Datetime) : UnstartedDispatchCloseoutGuard where
  effect_id := settlement.effect_id
  attempt_id := settlement.attempt_id
  authorization_transition_id := settlement.authorization_transition_id
  executor_id := "coordinator-unstarted"
  evidence_ref := request.proposal.transition_id ++ ":unstarted-control"
  closed_at

def closeout_guard_of_attempt
    (attempt : Option ExecutorAttemptRecord) : Task (Option UnstartedDispatchCloseoutGuard) :=
  if attempt.map (·.status) = some .AUTHORIZED_UNCLAIMED then do
    let closed_at ← clock
    let guard := unstarted_guard request settlement closed_at
    lift guard.post_init
    return some guard
  else .done none

end

def unstarted_closeout_guard : Task (Option UnstartedDispatchCloseoutGuard) :=
  match request.settlement with
  | .approval _ => .done none
  | .effect settlement =>
    if request.effect_mutation.expected_status = some .DISPATCHED
        ∧ request.effect_mutation.status = .UNKNOWN then do
      let loaded ← load_executor_attempt (settled_attempt_key request settlement)
      let attempt ← lift loaded
      closeout_guard_of_attempt request settlement attempt
    else .done none

/-- What a settlement reads before its unit is built. -/
def settlement_reads : Task ((String × List String) × Option UnstartedDispatchCloseoutGuard) := do
  let transition_ids ← parent_settlement_transition_ids request
  let closeout_guard ← unstarted_closeout_guard request
  return (transition_ids, closeout_guard)

end

def commit_settlement_unit (session_state : JsonObject) (request : CommitSettlementRequest)
    (transition_id : String) (adopt_transition_ids : List String)
    (closeout_guard : Option UnstartedDispatchCloseoutGuard) : Task CommitResult := do
  let unit ← transition_unit session_state (settlement_core request)
    { effect_mutations := request.effect_mutation :: preparations (settlement_core request)
      create_child_bindings := true
      transition_id := some transition_id
      adopt_transition_ids
      unstarted_dispatch_closeout := closeout_guard }
  commit_unit (authority (settlement_core request)) unit
    (fun commit => lift (ordinary_result commit))

/-- An exception while reading is a storage failure, not an exception of the port. -/
def reads_or_failure {α : Type} (reads : Task α) (next : α → Task CommitResult) :
    Task CommitResult := do
  let outcome ← Dialogue.handle (fun error => .done (.inr (storage_failure error)))
    (do let value ← reads; return .inl value)
  match (outcome : α ⊕ CommitResult) with
  | .inl value => next value
  | .inr failure => return failure

section

variable (session_state : JsonObject) (request : CommitSettlementRequest)

def commit_settlement : Task CommitResult :=
  reads_or_failure (settlement_reads request) (fun reads =>
    commit_settlement_unit session_state request reads.1.1 reads.1.2 reads.2)

def commit_guarded_settlement (guard : RecoveryTransitionGuard) (transition_id : String)
    (adopt_transition_ids : List String) : Task CommitResult := do
  let unit ← transition_unit session_state (settlement_core request)
    { effect_mutations := request.effect_mutation :: preparations (settlement_core request)
      create_child_bindings := true
      recovery_guard := some guard
      transition_id := some transition_id
      adopt_transition_ids
      terminal_action := some (guard.kind = .CHILD_TERMINAL) }
  commit_unit (authority (settlement_core request)) unit
    (fun commit => lift (ordinary_result commit))

def commit_settlement_with_recovery_guard (guard : RecoveryTransitionGuard) : Task CommitResult :=
  match guard.kind with
  | .PARENT_SETTLEMENT => do
      let loaded ← load_child_binding_of_run request.session_id guard.child_run_id
      match loaded with
      | .error error => return storage_failure error
      | .ok none =>
        return .InvalidTransition "child_binding_missing"
          "recovery parent settlement requires child binding"
      | .ok (some binding) =>
        let transition_id := recovery_parent_settlement_transition_id binding guard
        commit_guarded_settlement session_state request guard transition_id
          (distinct_transition_ids transition_id
            [request.proposal.transition_id, binding.live_parent_settlement_transition_id])
  | .CHILD_TERMINAL =>
    commit_guarded_settlement session_state request guard
      (guarded_transition_id request.proposal.transition_id guard) []

end

/-! ### Reconciliations -/

def reconciliation_mutation (request : CommitReconciliationRequest)
    (evidence : EffectReconciliationEvidence) : EffectMutation where
  effect_id := request.record.effect_id
  attempt_id := request.record.attempt_id
  expected_status := some .UNKNOWN
  status := request.record.observed_outcome.status
  payload :=
    [("result", evidence.result),
     ("reason_code", Json.of_str? evidence.reason_code),
     ("reason_message", Json.of_str? evidence.reason_message)]
  reconciliation := some request.record

section

variable (session_state : JsonObject) (request : CommitReconciliationRequest)

def reconciliation_unit
    (evidence : EffectReconciliationEvidence) : Except StoreError UnitOfWork := do
  let mutation ← (reconciliation_mutation request evidence).checked
  let state_value ←
    state_value_with_reconciled_effect request.state_version.value evidence request.record
  UnitOfWork.make
    { session_state
      transition_id := some request.record.transition_id
      state_cas := some request.state_version.cas
      state_value := some state_value
      effect_mutations := [mutation]
      expected_reconciliation_authorization_transition_id :=
        some evidence.authorization_transition_id
      reconciliation_evidence_ref := some evidence.evidence_ref }

def commit_reconciliation :
    Task CommitResult := do
  let loaded ←
    load_effect_reconciliation_evidence request.session_id request.record.evidence_ref
  match loaded with
  | .error error => return storage_failure error
  | .ok none =>
    return .InvalidTransition "missing_reconciliation_evidence"
      "durable reconciliation evidence does not exist"
  | .ok (some evidence) => do
      let unit ← lift (reconciliation_unit session_state request evidence)
      commit_unit
        { session_id := request.session_id
          owner_id := request.owner_id
          epoch := request.owner_epoch }
        unit (fun commit => lift (ordinary_result commit))

end

end DurableCommitPort

end CodingAgentLoop
