/-
The loop of a segment coordinator (`agentkit/runtime/coordinator.py`,
`SegmentCoordinator.run` and `_reconcile_and_run_segment`).

A coordinator computes a proposal, commits it and acts on it, until the segment ends.
The source writes that as loops without a counter, so a segment is a point in the loop
and a task for one way through it: `Segment.advance` runs from one head of a loop to
the next one, or to the outcome. There are three heads: the loop of `run`, the retry
of an authorization whose mailbox cut was stale, and the compare-and-swap retry of a
reconciliation.

An exception inside `run` ends the segment as failed in the state it had reached, so
every part is guarded with the state it runs in (`guarded`).

What a coordinator is composed with -- probe, model adapter, commit port, executor -- is
a `SegmentHost`, over whatever queries these make. `DurableRuntime.host` is the durable
one; a host whose every call is a query stands for any collaborators at all.
-/
import CodingAgentLoop.CommitPort
import CodingAgentLoop.DurableExecutor

open Lib Dialogue

namespace CodingAgentLoop

/-- The collaborators of a coordinator: `ControlProbe`, `ModelAdapter`, `CommitPort` and
`EffectExecutor`. -/
structure SegmentHost (Q : Type) (A : Q → Type) where
  observe : Dialogue Q A StoreError ControlSnapshot
  generate : ModelRequest → ControlSnapshot →
    Dialogue Q A StoreError (Option ModelGenerationResult ⊕ String)
  commit_transition : CommitTransitionRequest → Dialogue Q A StoreError CommitResult
  commit_settlement : CommitSettlementRequest → Dialogue Q A StoreError CommitResult
  authorize_dispatch : DispatchAuthorizationRequest → Dialogue Q A StoreError CommitResult
  commit_reconciliation : CommitReconciliationRequest → Dialogue Q A StoreError CommitResult
  execute : DispatchPermit → Dialogue Q A StoreError (Awaited EffectExecutionResult)

/-- What a durable segment runs with: the session payload of its port, and its executor. -/
structure DurableRuntime where
  session_state : JsonObject
  executor : DurableEffectExecutor

/-- The durable commit port and executor, behind a probe and a model adapter of their own. -/
def DurableRuntime.host (runtime : DurableRuntime) : SegmentHost Query Answer where
  observe := Await.observe
  generate := fun request snapshot => do
    let answer ← Await.generate request snapshot
    lift answer
  commit_transition := DurableCommitPort.commit_transition runtime.session_state
  commit_settlement := DurableCommitPort.commit_settlement runtime.session_state
  authorize_dispatch := DurableCommitPort.authorize_dispatch runtime.session_state
  commit_reconciliation := DurableCommitPort.commit_reconciliation runtime.session_state
  execute := runtime.executor.execute

/-- The local variables of `run`. -/
structure Frame where
  request : RunSegmentRequest
  current_state : OperationStateVersion
  step_input : EngineStepInput
  steps_taken : Nat
  mailbox_cut : Nat
  propagate_task_cancellation : Bool := false

/-- The arguments of `_reconcile_and_run_segment`. -/
structure ReconciliationFrame where
  session_id : String
  owner_id : String
  owner_epoch : Nat
  current_state : OperationStateVersion
  record : ReconciliationRecord
  max_rounds : Nat

/-- An authorization on its way: the proposal it acts on, and the request. -/
structure Authorization where
  request : DispatchAuthorizationRequest
  plan : EffectPlan

inductive Segment where
  /-- The head of `while True` in `run`. -/
  | looping (frame : Frame)
  /-- The head of the loop that retries a stale authorization. -/
  | authorizing (frame : Frame) (authorization : Authorization)
  /-- The head of the loop of `_reconcile_and_run_segment`. -/
  | reconciling (frame : ReconciliationFrame)
  /-- The segment returned. -/
  | ended (outcome : SegmentOutcome)
  /-- The segment raised `CancelledError`. -/
  | cancelled

namespace Segment

variable {Q : Type} {A : Q → Type} (host : SegmentHost Q A)

def failed (frame : Frame) (error : FailureReport) : Segment :=
  .ended (.Failed (some frame.current_state) error frame.steps_taken)

/-- `except Exception as exc` of `run`. -/
def guarded (frame : Frame) (body : Dialogue Q A StoreError Segment) : Dialogue Q A StoreError Segment :=
  body.handle (fun error =>
    .done (failed frame ⟨"segment_coordinator_error", exception_message error⟩))

def safe_yield (frame : Frame) (reason : String) : Segment :=
  .ended (.SafeYield frame.current_state reason frame.steps_taken)

/-- `snapshot = control_probe.observe()`, and a safe yield when it is raised. -/
def unless_raised (frame : Frame) (next : ControlSnapshot → Dialogue Q A StoreError Segment) :
    Dialogue Q A StoreError Segment := do
  let snapshot ← host.observe
  match snapshot.raised with
  | some reason => return safe_yield frame reason
  | none => next snapshot

/-! ## Dispatch -/

/-- `EffectIndeterminateResult(...)`: its reason may not be blank. -/
def indeterminate_result (reason_code message : String) :
    Except StoreError EffectExecutionResult := do
  require_non_empty "reason_code" reason_code
  require_non_empty "message" message
  raise_if (is_blank message) .ValueError "message must not be blank"
  return .indeterminate reason_code message none

/-- The execution of a claimed permit. A cancellation during it is settled as indeterminate and
goes on behind the settlement; so is an exception of the executor. -/
def execute_effect (permit : DispatchPermit) :
    Dialogue Q A StoreError (EffectExecutionResult × Bool) := do
  let outcome ← Dialogue.handle (fun error => .done (.raised error))
    (host.execute permit)
  match outcome with
  | .returned result => return (result, false)
  | .cancelled => do
      let result ← lift (indeterminate_result "effect_executor_cancelled"
        "effect executor cancelled after dispatch")
      return (result, true)
  | .raised error => do
      let result ← lift (indeterminate_result "effect_executor_error" (exception_message error))
      return (result, false)

/-- The execution result of an authorized dispatch: nothing is executed once control is raised. -/
def execution_result (permit : DispatchPermit) :
    Dialogue Q A StoreError (EffectExecutionResult × Bool) := do
  let snapshot ← host.observe
  match snapshot.raised with
  | some reason => do
      let result ← lift (indeterminate_result "control_after_dispatch" reason)
      return (result, false)
  | none => do
      let claimed ← lift permit.claim
      execute_effect host claimed

/-- An authorized effect is executed and its settlement is the next input. -/
def dispatch (frame : Frame) (authorization : Authorization)
    (permit : DispatchPermit) : Dialogue Q A StoreError Segment := do
  lift (validate_dispatch_permit permit frame.request.session_id frame.request.owner_epoch
    authorization.plan authorization.request.proposal.transition_id)
  let (result, task_cancelled) ← execution_result host permit
  let settlement ← lift (effect_settlement authorization.plan
    permit.authorization_transition_id frame.request.owner_epoch result)
  return .looping { frame with
    step_input := .EffectSettled settlement
    propagate_task_cancellation := frame.propagate_task_cancellation || task_cancelled }

def rejected (frame : Frame) (result : CommitResult) : Dialogue Q A StoreError Segment := do
  let (state_version, error) ← lift (commit_failure result)
  return .ended (.Failed (some (state_version.getD frame.current_state)) error frame.steps_taken)

/-- One round of the loop that authorizes a dispatch. -/
def authorize (frame : Frame) (authorization : Authorization) : Dialogue Q A StoreError Segment :=
  guarded frame (do
    let result ← host.authorize_dispatch authorization.request
    match result with
    | .StaleMailboxCut _ current_mailbox_cut =>
      unless_raised host frame (fun snapshot =>
        -- the cut the store is at, or the one the probe has covered when that is later
        let mailbox_cut := max current_mailbox_cut snapshot.generation
        .done (.authorizing { frame with mailbox_cut := mailbox_cut }
          { authorization with
            request := { authorization.request with mailbox_cut := mailbox_cut } }))
    | .DispatchAuthorized state_version permit _ _ =>
      let frame := { frame with current_state := state_version }
      guarded frame (dispatch host frame authorization permit)
    | result => rejected frame result)

/-- `DispatchAuthorizationRequest(...)` of a prepared dispatch. -/
def authorization_request (frame : Frame) (proposal : TransitionProposal) (plan : EffectPlan)
    (approval : Option ApprovalSettlement) (defer_commit : Bool) :
    Except StoreError DispatchAuthorizationRequest := do
  let prepared ← authorization_proposal proposal frame.current_state defer_commit
  let authorized ← with_active_effect_authorization prepared frame.request.owner_epoch
  let request : DispatchAuthorizationRequest :=
    { session_id := frame.request.session_id
      owner_id := frame.request.owner_id
      owner_epoch := frame.request.owner_epoch
      mailbox_cut := frame.mailbox_cut
      engine_request := ⟨frame.current_state, frame.step_input⟩
      proposal := authorized
      effect_plan := plan
      effect_mutation := dispatch_mutation plan authorized.transition_id frame.request.owner_epoch
      approval_settlement := approval }
  request.post_init
  return request

/-! ## Acting on a committed proposal -/

/-- The end of a model generation. -/
def generated (frame : Frame) (request : ModelRequest) :
    Option ModelGenerationResult ⊕ String → Except StoreError Segment
  | .inr reason => .ok (safe_yield frame reason)
  | .inl none => raise .RuntimeError "model adapter returned no result"
  | .inl (some result) =>
    if result.request_id ≠ request.request_id then
      .ok (failed frame ⟨"model_request_id_mismatch",
        "model result request_id does not match the active model request"⟩)
    else
      .ok (.looping { frame with
        step_input := .ModelGenerationCompleted result
        steps_taken := frame.steps_taken + 1 })

/-- A model generation, unless the rounds are used up. -/
def generate (frame : Frame) (request : ModelRequest) : Dialogue Q A StoreError Segment :=
  if frame.request.max_rounds ≤ frame.steps_taken then
    .done (.ended (.RoundLimit frame.current_state frame.steps_taken))
  else
    unless_raised host frame (fun snapshot => do
      let outcome ← host.generate request snapshot
      lift (generated frame request outcome))

/-- A prepared effect waits for its approval, or is authorized. -/
def prepare_dispatch (frame : Frame) (proposal : TransitionProposal) (plan : EffectPlan)
    (action_kind : PreparedEffectActionKind) (approval : Option ApprovalSettlement)
    (defer_commit : Bool) : Dialogue Q A StoreError Segment :=
  match action_kind with
  | .APPROVAL_WAIT => do
      let effect ← lift (EffectReference.from_plan plan)
      return .ended (.Blocked frame.current_state "approval_required" (some effect)
        frame.steps_taken)
  | .DISPATCH =>
    unless_raised host frame (fun _ => do
      let request ← lift (authorization_request frame proposal plan approval defer_commit)
      return .authorizing frame { request, plan })

/-- What the next action of the proposal asks for. -/
def act (frame : Frame) (proposal : TransitionProposal) (approval : Option ApprovalSettlement)
    (defer_commit : Bool) : Dialogue Q A StoreError Segment :=
  match proposal.next_action with
  | .TerminalAction final_message stop_reason =>
    .done (.ended (.Completed frame.current_state final_message frame.steps_taken stop_reason))
  | .BlockedAction reason effect =>
    .done (.ended (.Blocked frame.current_state reason effect frame.steps_taken))
  | .SafeYieldAction reason =>
    .done (.ended (.SafeYield frame.current_state reason frame.steps_taken))
  | .ModelGenerationAction request => generate host frame request
  | .PreparedEffectAction plan action_kind =>
    prepare_dispatch host frame proposal plan action_kind approval defer_commit

/-! ## Committing a proposal -/

section

variable (frame : Frame) (proposal : TransitionProposal)

/-- What follows a committed proposal: the new state is current, a held-back cancellation ends
the segment, and behind a settlement the control is looked at again. -/
def committed (state_version : OperationStateVersion)
    (approval : Option ApprovalSettlement) : Dialogue Q A StoreError Segment :=
  let frame := { frame with current_state := state_version }
  guarded frame (
    match frame.step_input with
    | .EffectSettled _ =>
      if frame.propagate_task_cancellation then .done .cancelled
      else unless_raised host frame (fun _ => act host frame proposal approval false)
    | .ApprovalResolved _ =>
      unless_raised host frame (fun _ => act host frame proposal approval false)
    | _ => act host frame proposal approval false)

/-- The answer of the commit port. A conflict starts over with the state that is stored now. -/
def answered
    (approval : Option ApprovalSettlement) (result : CommitResult) : Dialogue Q A StoreError Segment :=
  match result with
  | .CASConflict current_state => .done (.looping { frame with current_state := current_state })
  | result => do
      let answer ← lift (committed_result result)
      match answer with
      | .inl (state_version, _) => committed host frame proposal state_version approval
      | .inr (state_version, error) =>
        return .ended (.Failed (some (state_version.getD frame.current_state)) error
          frame.steps_taken)

/-- `CommitTransitionRequest(...)` of a proposal. -/
def transition_request : Except StoreError CommitTransitionRequest := do
  let request : CommitTransitionRequest :=
    { session_id := frame.request.session_id
      owner_id := frame.request.owner_id
      owner_epoch := frame.request.owner_epoch
      engine_request := ⟨frame.current_state, frame.step_input⟩
      proposal }
  request.post_init
  return request

/-- `CommitSettlementRequest(...)` of a proposal. -/
def settlement_request (settlement : Settlement) : Except StoreError CommitSettlementRequest := do
  let effect_mutation ← settlement_mutation settlement
  let request : CommitSettlementRequest :=
    { session_id := frame.request.session_id
      owner_id := frame.request.owner_id
      owner_epoch := frame.request.owner_epoch
      engine_request := ⟨frame.current_state, frame.step_input⟩
      proposal
      settlement
      effect_mutation }
  request.post_init
  return request

def commit_transition (approval : Option ApprovalSettlement) : Dialogue Q A StoreError Segment := do
  let request ← lift (transition_request frame proposal)
  let result ← host.commit_transition request
  answered host frame proposal approval result

/-- The proposal of a settlement is committed as one, unless its effect was reconciled. -/
def commit_settlement
    (approval : Option ApprovalSettlement) (settlement : Settlement) : Dialogue Q A StoreError Segment :=
  if is_post_reconciliation_settlement frame.current_state settlement then
    commit_transition host frame proposal approval
  else do
    let request ← lift (settlement_request frame proposal settlement)
    let result ← host.commit_settlement request
    answered host frame proposal approval result

end

/-- The commit of a proposal is deferred to its dispatch when an approval prepared one. -/
def defers_commit (approval : Option ApprovalSettlement) (proposal : TransitionProposal) : Bool :=
  approval.isSome &&
    match proposal.next_action with
    | .PreparedEffectAction _ .DISPATCH => true
    | _ => false

/-! ## The loops -/

/-- An input that settles an effect or an approval. -/
def settle (frame : Frame) (settlement : Settlement) : Dialogue Q A StoreError Segment := do
  lift (validate_settlement_binding frame.current_state settlement frame.request.owner_epoch)
  let proposal ← lift (AgentEngine.propose ⟨frame.current_state, frame.step_input⟩)
  let approval := approved_settlement frame.step_input
  if defers_commit approval proposal then act host frame proposal approval true
  else commit_settlement host frame proposal approval settlement

def start (frame : Frame) : Dialogue Q A StoreError Segment :=
  unless_raised host frame (fun _ => do
    let proposal ← lift (AgentEngine.propose ⟨frame.current_state, frame.step_input⟩)
    unless_raised host frame (fun _ => commit_transition host frame proposal none))

/-- One round of `while True` in `run`. -/
def round (frame : Frame) : Dialogue Q A StoreError Segment :=
  guarded frame (
    match frame.step_input.settlement? with
    | some settlement => settle host frame settlement
    | none => start host frame)

/-- `run(request, ...)` up to the head of its loop. -/
def run (request : RunSegmentRequest) : Except StoreError Segment := do
  let cut ← CodingAgentLoop.mailbox_cut request
  return .looping
    { request
      current_state := request.state_version
      step_input := request.step_input
      steps_taken := 0
      mailbox_cut := cut }

/-! ## Reconciliation -/

def required_reconciled_marker_str (marker : JsonObject) (field_name : String) :
    Except StoreError String :=
  require_identity (marker.get field_name)
    ("reconciled effect " ++ field_name ++ " must be a non-empty string")

def optional_reconciled_marker_str (marker : JsonObject) (field_name : String) :
    Except StoreError (Option String) :=
  match marker.get field_name with
  | .null => .ok none
  | value => some <$> require_identity value
      ("reconciled effect " ++ field_name ++ " must be a non-empty string or None")

def reconciled_marker (state_version : OperationStateVersion) : Except StoreError JsonObject := do
  let runtime_state ← require_object (state_version.value.get "_agentkit_runtime")
    "reconciled state is missing runtime metadata"
  require_object (runtime_state.get "reconciled_effect")
    "reconciled state is missing the reconciled effect"

/-- What the marker of a reconciled effect shares with its record. -/
def reconciled_record_fields (record : ReconciliationRecord) : JsonObject :=
  [("effect_id", .str record.effect_id),
   ("attempt_id", .str record.attempt_id),
   ("evidence_ref", .str record.evidence_ref),
   ("reconciliation_owner_epoch", .int record.owner_epoch),
   ("reconciliation_transition_id", .str record.transition_id),
   ("outcome", .str record.observed_outcome.value)]

/-- `EffectSettlementOutcome(marker["outcome"])`, of an observed outcome. -/
def settled_outcome : ReconciliationOutcome → EffectSettlementOutcome
  | .COMPLETED => .COMPLETED
  | .FAILED => .FAILED

def reconciled_effect_input (state_version : OperationStateVersion)
    (record : ReconciliationRecord) (owner_epoch : Nat) : Except StoreError EngineStepInput := do
  let marker ← reconciled_marker state_version
  raise_if (marker.agrees (reconciled_record_fields record) = false
      ∨ state_version.commit_ref.transition_id ≠ record.transition_id) .ValueError
    "reconciled effect does not match reconciliation record"
  let input_id ← required_reconciled_marker_str marker "reconciled_input_id"
  let indeterminate_input_id ← required_reconciled_marker_str marker "indeterminate_input_id"
  raise_if (input_id = indeterminate_input_id) .ValueError
    "reconciled input must differ from indeterminate input"
  let tool_call_id ← required_reconciled_marker_str marker "tool_call_id"
  let tool_name ← required_reconciled_marker_str marker "tool_name"
  let authorization_transition_id ←
    required_reconciled_marker_str marker "authorization_transition_id"
  let reason_code ← optional_reconciled_marker_str marker "reason_code"
  let reason_message ← optional_reconciled_marker_str marker "reason_message"
  let settlement : EffectSettlement :=
    { input_id
      tool_call_id
      tool_name
      effect_id := record.effect_id
      attempt_id := record.attempt_id
      authorization_transition_id
      owner_epoch
      outcome := settled_outcome record.observed_outcome
      result := marker.get "result"
      reason_code
      reason_message }
  settlement.post_init
  return .EffectSettled settlement

section

variable (frame : ReconciliationFrame)

/-- `RunSegmentRequest(...)` behind a committed reconciliation. -/
def reconciled_request (state_version : OperationStateVersion) :
    Except StoreError RunSegmentRequest := do
  let step_input ← reconciled_effect_input state_version frame.record frame.owner_epoch
  let request : RunSegmentRequest :=
    { session_id := frame.session_id
      owner_id := frame.owner_id
      owner_epoch := frame.owner_epoch
      state_version
      step_input
      max_rounds := frame.max_rounds }
  request.post_init
  return request

def reconciled (state_version : OperationStateVersion) : Dialogue Q A StoreError Segment :=
  match reconciled_request frame state_version with
  | .ok request => lift (run request)
  | .error error => .done (.ended (.Failed (some state_version)
      ⟨"invalid_reconciled_effect", exception_message error⟩ 0))

def reconciliation_answered (result : CommitResult) : Dialogue Q A StoreError Segment :=
  match result with
  | .CASConflict current_state =>
    .done (.reconciling { frame with current_state := current_state })
  | result => do
      let answer ← lift (committed_result result)
      match answer with
      | .inl (state_version, _) => reconciled frame state_version
      | .inr (state_version, error) => return .ended (.Failed state_version error 0)

def reconciliation_request : Except StoreError CommitReconciliationRequest := do
  let request : CommitReconciliationRequest :=
    { session_id := frame.session_id
      owner_id := frame.owner_id
      owner_epoch := frame.owner_epoch
      state_version := frame.current_state
      record := frame.record }
  request.post_init
  return request

/-- One round of the loop of `_reconcile_and_run_segment`. -/
def reconcile : Dialogue Q A StoreError Segment :=
  match reconciliation_request frame with
  | .error error => .done (.ended (.Failed (some frame.current_state)
      ⟨"invalid_reconciliation_state", exception_message error⟩ 0))
  | .ok request => do
      let result ← host.commit_reconciliation request
      reconciliation_answered frame result

end

/-- The task from a head of a loop to the next one. A segment that ended stays where it is. -/
def advance : Segment → Dialogue Q A StoreError Segment
  | .looping frame => round host frame
  | .authorizing frame authorization => authorize host frame authorization
  | .reconciling frame => reconcile host frame
  | .ended outcome => .done (.ended outcome)
  | .cancelled => .done .cancelled

end Segment

end CodingAgentLoop
