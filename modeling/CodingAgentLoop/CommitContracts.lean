/-
The requests a coordinator makes of its commit port, the answers it gets, and what a
segment ends with (`agentkit/runtime/contracts.py`, from `CommitTransitionRequest`
on).

A request is only built when its parts agree with each other and with the state it
was computed from; `post_init` is that check. The four answer types of the port share
their variants, so they are one inductive here: `DispatchAuthorized` is the only
variant with a permit, and only an authorization answers with it.
-/
import CodingAgentLoop.EngineContracts

open Lib

namespace CodingAgentLoop

/-! ## Requests -/

/-- `_validate_commit_request`: the fields every commit request has. -/
def validate_commit_request (session_id owner_id : String) (owner_epoch : Nat) :
    Except StoreError Unit := do
  require_non_empty "session_id" session_id
  require_non_empty "owner_id" owner_id
  require_positive_int "owner_epoch" owner_epoch

structure CommitTransitionRequest where
  session_id : String
  owner_id : String
  owner_epoch : Nat
  engine_request : EngineStepRequest
  proposal : TransitionProposal

def CommitTransitionRequest.post_init (request : CommitTransitionRequest) :
    Except StoreError Unit :=
  validate_commit_request request.session_id request.owner_id request.owner_epoch

structure CommitSettlementRequest where
  session_id : String
  owner_id : String
  owner_epoch : Nat
  engine_request : EngineStepRequest
  proposal : TransitionProposal
  settlement : Settlement
  effect_mutation : EffectMutation

def CommitSettlementRequest.post_init (request : CommitSettlementRequest) :
    Except StoreError Unit := do
  validate_commit_request request.session_id request.owner_id request.owner_epoch
  validate_settlement_binding request.engine_request.state_version request.settlement
    request.owner_epoch
  request.effect_mutation.post_init
  raise_if (request.effect_mutation.effect_id ≠ request.settlement.effect_id) .ValueError
    "effect mutation and settlement effect_id must match"
  raise_if (request.effect_mutation.attempt_id ≠ request.settlement.attempt_id) .ValueError
    "effect mutation and settlement attempt_id must match"

structure DispatchAuthorizationRequest where
  session_id : String
  owner_id : String
  owner_epoch : Nat
  mailbox_cut : Nat
  engine_request : EngineStepRequest
  proposal : TransitionProposal
  effect_plan : EffectPlan
  effect_mutation : EffectMutation
  approval_settlement : Option ApprovalSettlement := none

namespace DispatchAuthorizationRequest

section

variable (request : DispatchAuthorizationRequest)

/-- The proposal dispatches the plan of the request. -/
def check_next_action : Except StoreError Unit :=
  match request.proposal.next_action with
  | .PreparedEffectAction effect_plan action_kind => do
      raise_if (action_kind ≠ .DISPATCH) .ValueError
        "dispatch authorization proposal must use the dispatch action"
      let proposed ← effect_plan_identity effect_plan
      let requested ← effect_plan_identity request.effect_plan
      raise_if (proposed ≠ requested) .ValueError
        "dispatch authorization plan must match proposal next action"
  | _ => raise .ValueError "dispatch authorization proposal must prepare an effect dispatch"

/-- The mutation dispatches the plan of the request. -/
def check_effect_mutation : Except StoreError Unit := do
  request.effect_mutation.post_init
  raise_if (request.effect_mutation.effect_id ≠ request.effect_plan.effect_id) .ValueError
    "effect mutation and plan effect_id must match"
  raise_if (request.effect_mutation.attempt_id ≠ request.effect_plan.attempt_id) .ValueError
    "effect mutation and plan attempt_id must match"
  raise_if (request.effect_mutation.expected_status ≠ some .PREPARED
      ∨ request.effect_mutation.status ≠ .DISPATCHED) .ValueError
    "dispatch authorization requires prepared -> dispatched mutation"

/-- An approval-gated effect is dispatched with its approval. -/
def check_approval_settlement : Except StoreError Unit := do
  raise_if (request.effect_plan.requires_approval ∧ request.approval_settlement = none) .ValueError
    "approved settlement is required before dispatch"
  raise_if (¬ request.effect_plan.requires_approval ∧ request.approval_settlement ≠ none)
    .ValueError "approval settlement is valid only for an approval-gated effect"
  match request.approval_settlement with
  | none => .ok ()
  | some approval_settlement => do
      validate_settlement_binding request.engine_request.state_version
        (.approval approval_settlement) request.owner_epoch
      raise_if (approval_settlement.approved = false) .ValueError
        "dispatch authorization cannot carry an approval denial"
      raise_if (approval_settlement.effect_id ≠ request.effect_plan.effect_id) .ValueError
        "approval and plan effect_id must match"
      raise_if (approval_settlement.attempt_id ≠ request.effect_plan.attempt_id) .ValueError
        "approval and plan attempt_id must match"
      let plan_identity ← effect_plan_identity request.effect_plan
      raise_if (approval_settlement.tool_call_id ≠ plan_identity.tool_call_id) .ValueError
        "approval and plan tool_call_id must match"
      raise_if (approval_settlement.tool_name ≠ plan_identity.tool_name) .ValueError
        "approval and plan tool_name must match"

def post_init : Except StoreError Unit := do
  validate_commit_request request.session_id request.owner_id request.owner_epoch
  request.effect_plan.post_init
  validate_effect_plan_binding request.engine_request.state_version request.effect_plan
  request.check_next_action
  request.check_effect_mutation
  request.check_approval_settlement

end

end DispatchAuthorizationRequest

structure CommitReconciliationRequest where
  session_id : String
  owner_id : String
  owner_epoch : Nat
  state_version : OperationStateVersion
  record : ReconciliationRecord

def CommitReconciliationRequest.post_init (request : CommitReconciliationRequest) :
    Except StoreError Unit := do
  validate_commit_request request.session_id request.owner_id request.owner_epoch
  request.record.post_init
  raise_if (request.record.owner_epoch ≠ request.owner_epoch) .ValueError
    "reconciliation owner_epoch must match request"
  let unknown ← runtime_marker request.state_version "unknown_effect"
  match unknown with
  | none => raise .ValueError "reconciliation requires a committed unknown effect"
  | some unknown => do
      raise_if (unknown.get "effect_id" ≠ .str request.record.effect_id) .ValueError
        "reconciliation effect_id must match unknown effect"
      raise_if (unknown.get "attempt_id" ≠ .str request.record.attempt_id) .ValueError
        "reconciliation attempt_id must match unknown effect"
      raise_if (unknown.get "authorization_transition_id" = .str request.record.transition_id
          ∨ unknown.get "indeterminate_input_id" = .str request.record.transition_id) .ValueError
        "reconciliation transition identity must be fresh"

/-! ## Answers -/

/-- `DispatchPermit`: a single-use capability. Its holder passes it on as it claims it. -/
structure DispatchPermit where
  opaque_token : String
  session_id : String
  effect_id : String
  attempt_id : String
  authorization_transition_id : String
  owner_epoch : Nat
  idempotency_key : Option String
  claimed : Bool := false

namespace DispatchPermit

/-- The checks of `DispatchPermit.__init__`. -/
def init (permit : DispatchPermit) : Except StoreError Unit := do
  require_non_empty "opaque_token" permit.opaque_token
  require_non_empty "session_id" permit.session_id
  require_non_empty "effect_id" permit.effect_id
  require_non_empty "attempt_id" permit.attempt_id
  require_non_empty "authorization_transition_id" permit.authorization_transition_id
  require_positive_int "owner_epoch" permit.owner_epoch
  require_non_empty_if_set "idempotency_key" permit.idempotency_key

def issue (permit : DispatchPermit) : Except StoreError DispatchPermit := do
  permit.init
  return permit

def claim (permit : DispatchPermit) : Except StoreError DispatchPermit := do
  raise_if (permit.claimed = true) .RuntimeError "dispatch permit is already claimed"
  return { permit with claimed := true }

end DispatchPermit

structure FailureReport where
  code : String
  message : String

/-- What the commit port answers. -/
inductive CommitResult where
  | Committed (state_version : OperationStateVersion) (notices : List CommittedFactNotice)
      (receipt : TransitionReceipt)
  | DispatchAuthorized (state_version : OperationStateVersion) (permit : DispatchPermit)
      (notices : List CommittedFactNotice) (receipt : TransitionReceipt)
  | ExactReplay (state_version : OperationStateVersion) (receipt : TransitionReceipt)
  | CASConflict (current_state : OperationStateVersion)
  | StaleOwner (expected_owner_epoch current_owner_epoch : Nat)
  | StaleMailboxCut (expected_mailbox_cut current_mailbox_cut : Nat)
  | InvalidTransition (reason_code message : String)
  | StorageFailure (error : FailureReport)

/-- `EffectCompletedResult | EffectFailedResult | EffectIndeterminateResult`. -/
inductive EffectExecutionResult where
  | completed (result : Json)
  | failed (error : FailureReport)
  | indeterminate (reason_code message : String) (evidence_ref : Option String)

/-! ## Control and outcomes -/

/-- What a control probe observed: the generation it has covered, and the reason to stop
when it was raised. -/
structure ControlSnapshot where
  generation : Nat
  raised : Option String := none

inductive SegmentOutcome where
  | Completed (state_version : OperationStateVersion) (final_message : Option String)
      (steps_taken : Nat) (stop_reason : String)
  | Blocked (state_version : OperationStateVersion) (reason : String)
      (effect : Option EffectReference) (steps_taken : Nat)
  | SafeYield (state_version : OperationStateVersion) (reason : String) (steps_taken : Nat)
  | RoundLimit (state_version : OperationStateVersion) (steps_taken : Nat)
  | Failed (state_version : Option OperationStateVersion) (error : FailureReport)
      (steps_taken : Nat)

end CodingAgentLoop
