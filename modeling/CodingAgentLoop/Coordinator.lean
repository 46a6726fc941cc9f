/-
What a segment coordinator builds between its engine and its commit port
(`agentkit/runtime/coordinator.py`, the functions below the class).

The loop itself is in `Segment.lean`. Here are the values it passes on: the effect
mutation of a settlement, the settlement of an execution result, the proposal that
authorizes a dispatch, and the outcome a rejected commit ends the segment with.
-/
import CodingAgentLoop.CommitContracts
import CodingAgentLoop.Engine

namespace CodingAgentLoop

open Lib EffectSettlement

/-! ## Inputs -/

/-- `_mailbox_cut(request)`: the cut a segment starts from. -/
def mailbox_cut (request : RunSegmentRequest) : Except StoreError Nat :=
  match request.step_input with
  | .Initial step_input => .ok step_input.mailbox_cut
  | _ =>
    match request.state_version.value.get "_agentkit_runtime" with
    | .obj runtime_state =>
      match JsonObject.get runtime_state "mailbox_cut" with
      | .int cut =>
        if 0 ≤ cut then .ok cut.toNat
        else raise .ValueError "resumed segment mailbox cut must be non-negative"
      | _ => raise .ValueError "resumed segment mailbox cut must be an integer"
    | _ => raise .ValueError "resumed segment state is missing the mailbox cut"

def approved_settlement : EngineStepInput → Option ApprovalSettlement
  | .ApprovalResolved settlement => if settlement.approved then some settlement else none
  | _ => none

def is_post_reconciliation_settlement (state_version : OperationStateVersion) :
    Settlement → Bool
  | .approval _ => false
  | .effect settlement =>
    match state_version.value.get "_agentkit_runtime" with
    | .obj runtime_state =>
      match JsonObject.get runtime_state "reconciled_effect" with
      | .obj marker =>
        JsonObject.get marker "reconciled_input_id" = .str settlement.input_id
      | _ => false
    | _ => false

/-! ## Settlements -/

/-- `status_by_outcome`. -/
def EffectSettlementOutcome.status : EffectSettlementOutcome → EffectStatus
  | .COMPLETED => .COMPLETED
  | .FAILED => .FAILED
  | .INDETERMINATE => .UNKNOWN

def EffectMutation.checked (mutation : EffectMutation) : Except StoreError EffectMutation := do
  mutation.post_init
  return mutation

def settlement_mutation : Settlement → Except StoreError EffectMutation
  | .approval settlement => do
      raise_if (settlement.approved = true) .ValueError
        "approved settlement commits with dispatch authorization"
      EffectMutation.checked
        { effect_id := settlement.effect_id
          attempt_id := settlement.attempt_id
          expected_status := some .PREPARED
          status := .REJECTED
          payload :=
            [("reason_code", Json.of_str? settlement.rejection_reason_code),
             ("message", Json.of_str? settlement.rejection_message)] }
  | .effect settlement =>
    EffectMutation.checked
      { effect_id := settlement.effect_id
        attempt_id := settlement.attempt_id
        expected_status := some .DISPATCHED
        status := settlement.outcome.status
        payload :=
          [("result", settlement.result),
           ("reason_code", Json.of_str? settlement.reason_code),
           ("reason_message", Json.of_str? settlement.reason_message)] }

def EffectSettlement.checked (settlement : EffectSettlement) :
    Except StoreError EffectSettlement := do
  settlement.post_init
  return settlement

def effect_settlement (plan : EffectPlan) (authorization_transition_id : String)
    (owner_epoch : Nat) (result : EffectExecutionResult) : Except StoreError EffectSettlement := do
  let tool_call_id ← require_identity (plan.payload.get "tool_call_id")
    "effect plan is missing tool_call_id"
  let tool_name ← require_identity (plan.payload.get "tool_name")
    "effect plan is missing tool_name"
  let common : EffectSettlement :=
    { input_id := authorization_transition_id ++ ":settlement:" ++ plan.attempt_id
      tool_call_id
      tool_name
      effect_id := plan.effect_id
      attempt_id := plan.attempt_id
      authorization_transition_id
      owner_epoch
      outcome := .COMPLETED }
  match result with
  | .completed result => checked { common with result := result }
  | .failed error =>
    checked
      { common with
        outcome := .FAILED
        result := .str error.message
        reason_code := some error.code
        reason_message := some error.message }
  | .indeterminate reason_code message evidence_ref =>
    checked
      { common with
        outcome := .INDETERMINATE
        result := .obj [("evidence_ref", Json.of_str? evidence_ref)]
        reason_code := some reason_code
        reason_message := some message }

/-! ## Dispatch authorization -/

def authorization_proposal (prepared : TransitionProposal) (current_state : OperationStateVersion)
    (preserve_pending : Bool) : Except StoreError TransitionProposal :=
  match prepared.next_action with
  | .PreparedEffectAction plan _ =>
    TransitionProposal.checked
      { transition_id := current_state.commit_ref.transition_id ++ ":dispatch:" ++ plan.effect_id
          ++ ":" ++ plan.attempt_id
        state_value := if preserve_pending then prepared.state_value else current_state.value
        next_action := prepared.next_action
        pending_facts := if preserve_pending then prepared.pending_facts else []
        dispositions := if preserve_pending then prepared.dispositions else []
        effect_plans := if preserve_pending then prepared.effect_plans else [] }
  | _ => raise .ValueError "dispatch authorization requires a prepared effect action"

/-- The runtime state `_with_active_effect_authorization` starts from. -/
def authorized_runtime (state_value : JsonObject) : Except StoreError JsonObject :=
  match state_value.find "_agentkit_runtime" with
  | none => .ok []
  | some (.obj runtime_state) => .ok runtime_state
  | some _ => raise .TypeError "engine runtime state must be a mapping"

/-- The marker of the effect that is being dispatched. -/
def active_authorization_marker (plan : EffectPlan) (tool_call_id tool_name transition_id : String)
    (owner_epoch : Nat) : JsonObject :=
  [("effect_id", .str plan.effect_id),
   ("attempt_id", .str plan.attempt_id),
   ("tool_call_id", .str tool_call_id),
   ("tool_name", .str tool_name),
   ("authorization_transition_id", .str transition_id),
   ("dispatch_owner_epoch", .int owner_epoch)]

def with_active_effect_authorization (proposal : TransitionProposal) (owner_epoch : Nat) :
    Except StoreError TransitionProposal :=
  match proposal.next_action with
  | .PreparedEffectAction plan _ => do
      let tool_call_id ← require_identity (plan.payload.get "tool_call_id")
        "effect plan is missing tool_call_id"
      let tool_name ← require_identity (plan.payload.get "tool_name")
        "effect plan is missing tool_name"
      let runtime_state ← authorized_runtime proposal.state_value
      TransitionProposal.checked
        { proposal with
          state_value := proposal.state_value.set "_agentkit_runtime"
            (.obj (runtime_state.set "active_effect_authorization"
              (.obj (active_authorization_marker plan tool_call_id tool_name
                proposal.transition_id owner_epoch)))) }
  | _ => raise .ValueError "dispatch authorization requires a prepared effect action"

def dispatch_mutation (plan : EffectPlan) (transition_id : String) (owner_epoch : Nat) :
    EffectMutation where
  effect_id := plan.effect_id
  attempt_id := plan.attempt_id
  expected_status := some .PREPARED
  status := .DISPATCHED
  payload :=
    [("authorization_transition_id", .str transition_id),
     ("owner_epoch", .int owner_epoch)]

def validate_dispatch_permit (permit : DispatchPermit) (session_id : String) (owner_epoch : Nat)
    (plan : EffectPlan) (authorization_transition_id : String) : Except StoreError Unit :=
  raise_if (permit.session_id ≠ session_id ∨ permit.effect_id ≠ plan.effect_id
      ∨ permit.attempt_id ≠ plan.attempt_id
      ∨ permit.authorization_transition_id ≠ authorization_transition_id
      ∨ permit.owner_epoch ≠ owner_epoch ∨ permit.idempotency_key ≠ plan.idempotency_key)
    .ValueError "dispatch permit binding does not match authorization"

/-! ## Outcomes -/

/-- The state and the report of a commit that ends the segment. -/
def commit_failure : CommitResult → Except StoreError (Option OperationStateVersion × FailureReport)
  | .ExactReplay state_version _ =>
    .ok (some state_version,
      ⟨"exact_replay_requires_recovery", "exact replay requires coordinator recovery"⟩)
  | .CASConflict current_state =>
    .ok (some current_state, ⟨"cas_conflict", "operation state compare-and-swap conflict"⟩)
  | .StaleOwner _ _ => .ok (none, ⟨"stale_owner", "owner epoch is stale"⟩)
  | .StaleMailboxCut _ _ => .ok (none, ⟨"stale_mailbox_cut", "mailbox cut is stale"⟩)
  | .InvalidTransition reason_code message => .ok (none, ⟨reason_code, message⟩)
  | .StorageFailure error => .ok (none, error)
  | .Committed _ _ _ => raise .TypeError "commit port returned an unsupported result"
  | .DispatchAuthorized _ _ _ _ => raise .TypeError "commit port returned an unsupported result"

/-- What `_committed_result` makes of an answer: the committed state and its notices, or the
failure that ends the segment. An exact replay counts as committed. -/
def committed_result (result : CommitResult) :
    Except StoreError
      ((OperationStateVersion × List CommittedFactNotice)
        ⊕ (Option OperationStateVersion × FailureReport)) :=
  match result with
  | .Committed state_version notices _ => .ok (.inl (state_version, notices))
  | .ExactReplay state_version receipt => .ok (.inl (state_version, receipt.facts))
  | result => Sum.inr <$> commit_failure result

/-- `_exception_message(exc)`: the text of the exception, or its class when that is blank. -/
def exception_message (error : StoreError) : String :=
  if is_blank error.message then error.name else error.message

end CodingAgentLoop
