/-
What the engine reads and proposes, and the requests a coordinator makes of its
commit port (`agentkit/runtime/contracts.py`, from `PendingFact` on).

A request binds its parts to each other: a settlement must name the effect the
state is waiting for, an authorization the plan it dispatches. Those bindings are
read off the JSON state value, so they are stated here over `JsonObject`, in the
source's order and with its texts.
-/
import CodingAgentLoop.Harness

namespace CodingAgentLoop

open Lib Result

/-! ## Facts, model results and settlements -/

structure PendingFact where
  fact_id : String
  fact_kind : String
  payload : JsonObject
  deriving DecidableEq

def PendingFact.post_init (fact : PendingFact) : Except StoreError Unit := do
  require_non_empty "fact_id" fact.fact_id
  require_non_empty "fact_kind" fact.fact_kind

structure ModelToolCall where
  tool_call_id : String
  name : String
  arguments : JsonObject
  idempotency_key : Option String := none
  requires_approval : Bool := false
  approval_request_id : Option String := none

structure ModelGenerationResult where
  result_id : String
  request_id : String
  assistant_content : String
  finalized_thinking : Option String := none
  tool_calls : List ModelToolCall := []

structure ModelRequest where
  request_id : String
  run_id : String
  round_index : Nat
  commands : List RuntimeCommand
  context : JsonObject
  deriving DecidableEq

def ModelRequest.post_init (request : ModelRequest) : Except StoreError Unit := do
  require_non_empty "request_id" request.request_id
  require_non_empty "run_id" request.run_id
  require_positive_int "round_index" request.round_index
  raise_if (¬ (request.commands.map (·.command_id)).Nodup) .ValueError
    "commands must contain unique command identities"

inductive EffectSettlementOutcome where
  | COMPLETED
  | FAILED
  | INDETERMINATE
  deriving DecidableEq

def EffectSettlementOutcome.value : EffectSettlementOutcome → String
  | .COMPLETED => "completed"
  | .FAILED => "failed"
  | .INDETERMINATE => "indeterminate"

structure EffectSettlement where
  input_id : String
  tool_call_id : String
  tool_name : String
  effect_id : String
  attempt_id : String
  authorization_transition_id : String
  owner_epoch : Nat
  outcome : EffectSettlementOutcome
  result : Json := .obj []
  reason_code : Option String := none
  reason_message : Option String := none
  deriving DecidableEq

def require_non_blank (field_name value : String) : Except StoreError Unit :=
  raise_if (is_blank value) .ValueError (field_name ++ " must not be blank")

/-- A reason that is not a success has a code and a text. -/
def check_stable_reason (code_field message_field error : String)
    (reason_code reason_message : Option String) : Except StoreError Unit :=
  match reason_code, reason_message with
  | some code, some message => do
      require_non_empty code_field code
      require_non_blank message_field message
  | _, _ => raise .ValueError error

def EffectSettlement.post_init (settlement : EffectSettlement) : Except StoreError Unit := do
  require_non_empty "input_id" settlement.input_id
  require_non_empty "tool_call_id" settlement.tool_call_id
  require_non_empty "tool_name" settlement.tool_name
  require_non_empty "effect_id" settlement.effect_id
  require_non_empty "attempt_id" settlement.attempt_id
  require_non_empty "authorization_transition_id" settlement.authorization_transition_id
  require_positive_int "owner_epoch" settlement.owner_epoch
  if settlement.outcome = .COMPLETED then
    raise_if (settlement.reason_code ≠ none ∨ settlement.reason_message ≠ none) .ValueError
      "completed effect settlement cannot carry a failure reason"
  else
    check_stable_reason "reason_code" "reason_message"
      "failed and indeterminate settlements require a stable reason"
      settlement.reason_code settlement.reason_message

structure ApprovalSettlement where
  input_id : String
  command_id : String
  tool_call_id : String
  tool_name : String
  effect_id : String
  attempt_id : String
  transition_id : String
  owner_epoch : Nat
  approved : Bool
  rejection_reason_code : Option String := none
  rejection_message : Option String := none

/-- `EffectSettlement | ApprovalSettlement`. -/
inductive Settlement where
  | effect (settlement : EffectSettlement)
  | approval (settlement : ApprovalSettlement)

namespace Settlement

def owner_epoch : Settlement → Nat
  | .effect settlement => settlement.owner_epoch
  | .approval settlement => settlement.owner_epoch

def effect_id : Settlement → String
  | .effect settlement => settlement.effect_id
  | .approval settlement => settlement.effect_id

def attempt_id : Settlement → String
  | .effect settlement => settlement.attempt_id
  | .approval settlement => settlement.attempt_id

def tool_call_id : Settlement → String
  | .effect settlement => settlement.tool_call_id
  | .approval settlement => settlement.tool_call_id

def tool_name : Settlement → String
  | .effect settlement => settlement.tool_name
  | .approval settlement => settlement.tool_name

end Settlement

/-! ## Step inputs -/

structure Initial where
  input_id : String
  command_batch : List RuntimeCommand
  mailbox_cut : Nat

/-- `Initial | ModelGenerationCompleted | EffectSettled | ApprovalResolved`. -/
inductive EngineStepInput where
  | Initial (input : Initial)
  | ModelGenerationCompleted (result : ModelGenerationResult)
  | EffectSettled (settlement : EffectSettlement)
  | ApprovalResolved (settlement : ApprovalSettlement)

namespace EngineStepInput

def input_id : EngineStepInput → String
  | .Initial input => input.input_id
  | .ModelGenerationCompleted result => result.result_id
  | .EffectSettled settlement => settlement.input_id
  | .ApprovalResolved settlement => settlement.input_id

/-- `type(step_input).__name__`. -/
def type_name : EngineStepInput → String
  | .Initial _ => "Initial"
  | .ModelGenerationCompleted _ => "ModelGenerationCompleted"
  | .EffectSettled _ => "EffectSettled"
  | .ApprovalResolved _ => "ApprovalResolved"

def settlement? : EngineStepInput → Option Settlement
  | .EffectSettled settlement => some (.effect settlement)
  | .ApprovalResolved settlement => some (.approval settlement)
  | _ => none

end EngineStepInput

structure EngineStepRequest where
  state_version : OperationStateVersion
  step_input : EngineStepInput

/-! ## Actions and proposals -/

inductive PreparedEffectActionKind where
  | DISPATCH
  | APPROVAL_WAIT
  deriving DecidableEq

structure EffectReference where
  effect_id : String
  attempt_id : String
  tool_call_id : String
  approval_request_id : Option String := none
  deriving DecidableEq

def require_identity (value : Json) (error : String) : Except StoreError String :=
  match value with
  | .str text => if text = "" then raise .ValueError error else .ok text
  | _ => raise .ValueError error

theorem require_identity_eq_ok {value : Json} {error text : String} :
    require_identity value error = .ok text ↔ value = .str text ∧ text ≠ "" := by
  cases value <;> simp only [require_identity, raise_ne_ok, reduceCtorEq, false_and]
  split
  · next hempty =>
    simp only [raise_ne_ok, Json.str.injEq, false_iff, not_and, not_not]
    rintro rfl
    exact hempty
  · next hne =>
    simp only [Except.ok.injEq, Json.str.injEq, iff_self_and]
    rintro rfl
    exact hne

def EffectReference.from_plan (plan : EffectPlan) : Except StoreError EffectReference := do
  let tool_call_id ← require_identity (plan.payload.get "tool_call_id")
    "effect plan payload requires a non-empty tool_call_id"
  return {
    effect_id := plan.effect_id
    attempt_id := plan.attempt_id
    tool_call_id
    approval_request_id := plan.approval_request_id }

inductive NextAction where
  | ModelGenerationAction (request : ModelRequest)
  | PreparedEffectAction (effect_plan : EffectPlan) (action_kind : PreparedEffectActionKind)
  | TerminalAction (final_message : Option String) (stop_reason : String)
  | BlockedAction (reason : String) (effect : Option EffectReference)
  | SafeYieldAction (reason : String)
  deriving DecidableEq

structure TransitionProposal where
  transition_id : String
  state_value : JsonObject
  next_action : NextAction
  pending_facts : List PendingFact := []
  dispositions : List CommandDisposition := []
  effect_plans : List EffectPlan := []
  deriving DecidableEq

namespace TransitionProposal

def post_init (proposal : TransitionProposal) : Except StoreError Unit := do
  require_non_empty "transition_id" proposal.transition_id
  raise_if (¬ (proposal.dispositions.map (·.command_id)).Nodup) .ValueError
    "a proposal may disposition each command at most once"
  raise_if (¬ (proposal.effect_plans.map (·.effect_id)).Nodup) .ValueError
    "effect_plans must contain unique effect identities"
  match proposal.next_action with
  | .PreparedEffectAction effect_plan _ =>
    raise_if (proposal.effect_plans ≠ []
        ∧ effect_plan.effect_id ∉ proposal.effect_plans.map (·.effect_id)) .ValueError
      "prepared next action must refer to an ordered effect plan"
  | _ => .ok ()

/-- A proposal its constructor accepts, as the constructor returns it. -/
def checked (proposal : TransitionProposal) : Except StoreError TransitionProposal := do
  proposal.post_init
  return proposal

theorem checked_eq_ok {proposal result : TransitionProposal} :
    proposal.checked = .ok result ↔ proposal.post_init = .ok () ∧ result = proposal := by
  unfold checked
  rw [check_bind_eq_ok, pure_eq_ok, eq_comm (a := proposal)]

end TransitionProposal

/-! ## Bindings to the state value -/

def runtime_marker (state_version : OperationStateVersion) (key : String) :
    Except StoreError (Option JsonObject) :=
  match state_version.value.get "_agentkit_runtime" with
  | .null => .ok none
  | .obj runtime_state =>
    match JsonObject.get runtime_state key with
    | .null => .ok none
    | .obj marker => .ok (some marker)
    | _ => raise .ValueError ("engine runtime " ++ key ++ " must be a mapping")
  | _ => raise .ValueError "engine runtime state must be a mapping"

def identity_value (mapping : JsonObject) (key subject : String) : Except StoreError String :=
  require_identity (mapping.get key) (subject ++ " " ++ key ++ " must be non-empty")

/-- `_retained_authorization_transition_id(state_version)`: the reconciled effect's marker,
else the active authorization's. -/
def retained_authorization_transition_id (state_version : OperationStateVersion) :
    Except StoreError (Option String) := do
  let reconciled ← runtime_marker state_version "reconciled_effect"
  let retained ←
    if reconciled.isSome then pure reconciled
    else runtime_marker state_version "active_effect_authorization"
  match retained with
  | none => return none
  | some marker =>
    some <$> identity_value marker "authorization_transition_id" "retained effect authorization"

/-- What a settlement must agree with in the marker of a reconciled effect. -/
def reconciled_settlement_fields (settlement : EffectSettlement) : JsonObject :=
  [("reconciled_input_id", .str settlement.input_id),
   ("effect_id", .str settlement.effect_id),
   ("attempt_id", .str settlement.attempt_id),
   ("tool_call_id", .str settlement.tool_call_id),
   ("tool_name", .str settlement.tool_name),
   ("authorization_transition_id", .str settlement.authorization_transition_id),
   ("outcome", .str settlement.outcome.value),
   ("result", settlement.result),
   ("reason_code", Json.of_str? settlement.reason_code),
   ("reason_message", Json.of_str? settlement.reason_message)]

def RECONCILED_IDENTITY_FIELDS : List String :=
  ["reconciled_input_id", "effect_id", "attempt_id", "tool_call_id", "tool_name",
   "authorization_transition_id"]

def validate_reconciled_settlement_binding (state_version : OperationStateVersion)
    (settlement : EffectSettlement) : Except StoreError Unit := do
  let marker ← runtime_marker state_version "reconciled_effect"
  match marker with
  | none => return ()
  | some marker => do
      check_each RECONCILED_IDENTITY_FIELDS (fun key =>
        (fun _ => ()) <$> identity_value marker key "reconciled effect")
      raise_if (JsonObject.agrees marker (reconciled_settlement_fields settlement) = false) .ValueError
        "settlement must match committed reconciled effect"

/-- The runtime state names an effect that is not settled yet. -/
def has_outstanding_effect_recovery (state_version : OperationStateVersion) :
    Except StoreError Bool :=
  match state_version.value.get "_agentkit_runtime" with
  | .null => .ok false
  | .obj runtime_state =>
    match JsonObject.find runtime_state "pending_effect_plans" with
    | none => .ok (JsonObject.get runtime_state "unknown_effect" ≠ .null
        ∨ JsonObject.get runtime_state "reconciled_effect" ≠ .null)
    | some (.arr plans) => .ok (plans ≠ [] ∨ JsonObject.get runtime_state "unknown_effect" ≠ .null
        ∨ JsonObject.get runtime_state "reconciled_effect" ≠ .null)
    | some _ => raise .ValueError "pending effect plans must be a sequence"
  | _ => raise .ValueError "engine runtime state must be a mapping"

/-- The four strings that name an effect: effect, attempt, tool call and tool. -/
structure EffectIdentity where
  effect_id : String
  attempt_id : String
  tool_call_id : String
  tool_name : String
  deriving DecidableEq

/-- The first field in which two identities differ. -/
def EffectIdentity.mismatch (actual expected : EffectIdentity) : Option String :=
  if actual.effect_id ≠ expected.effect_id then some "effect_id"
  else if actual.attempt_id ≠ expected.attempt_id then some "attempt_id"
  else if actual.tool_call_id ≠ expected.tool_call_id then some "tool_call_id"
  else if actual.tool_name ≠ expected.tool_name then some "tool_name"
  else none

def check_identity_binding (subject : String) (actual expected : EffectIdentity) :
    Except StoreError Unit :=
  match actual.mismatch expected with
  | none => .ok ()
  | some field_name =>
    raise .ValueError (subject ++ " " ++ field_name ++ " must match pending effect plan")

def pending_effect_identity (state_version : OperationStateVersion) :
    Except StoreError EffectIdentity :=
  match state_version.value.get "_agentkit_runtime" with
  | .obj runtime_state =>
    match JsonObject.get runtime_state "pending_effect_plans" with
    | .arr (.obj raw_plan :: _) =>
      match JsonObject.get raw_plan "payload" with
      | .obj payload => do
          let effect_id ← identity_value raw_plan "effect_id" "pending effect plan"
          let attempt_id ← identity_value raw_plan "attempt_id" "pending effect plan"
          let tool_call_id ← identity_value payload "tool_call_id" "pending effect plan"
          let tool_name ← identity_value payload "tool_name" "pending effect plan"
          return { effect_id, attempt_id, tool_call_id, tool_name }
      | _ => raise .ValueError "pending effect plan payload must be a mapping"
    | .arr (_ :: _) => raise .ValueError "pending effect plan must be a mapping"
    | _ => raise .ValueError "settlement requires a pending effect plan"
  | _ => raise .ValueError "settlement requires engine runtime state"

def effect_plan_identity (plan : EffectPlan) : Except StoreError EffectIdentity := do
  let tool_call_id ← require_identity (plan.payload.get "tool_call_id")
    "effect plan tool_call_id must be non-empty"
  let tool_name ← require_identity (plan.payload.get "tool_name")
    "effect plan tool_name must be non-empty"
  return { effect_id := plan.effect_id, attempt_id := plan.attempt_id, tool_call_id, tool_name }

section

variable (state_version : OperationStateVersion)

def validate_effect_plan_binding (plan : EffectPlan) : Except StoreError Unit := do
  let expected ← pending_effect_identity state_version
  let actual ← effect_plan_identity plan
  check_identity_binding "effect plan" actual expected

/-- The transition a settlement names is the one the state retains. -/
def check_settlement_transition : Settlement → Except StoreError Unit
  | .effect settlement => do
      let expected ← retained_authorization_transition_id state_version
      match expected with
      | none => raise .ValueError "effect settlement requires retained authorization"
      | some expected_transition_id => do
          validate_reconciled_settlement_binding state_version settlement
          raise_if (settlement.authorization_transition_id ≠ expected_transition_id) .ValueError
            "settlement authorization_transition_id must match owning committed transition"
  | .approval settlement =>
    raise_if (settlement.transition_id ≠ state_version.commit_ref.transition_id) .ValueError
      "settlement transition_id must match owning committed transition"

def validate_settlement_binding (settlement : Settlement)
    (owner_epoch : Nat) : Except StoreError Unit := do
  raise_if (settlement.owner_epoch ≠ owner_epoch) .ValueError
    "settlement owner_epoch must match request owner_epoch"
  check_settlement_transition state_version settlement
  let expected ← pending_effect_identity state_version
  check_identity_binding "settlement"
    { effect_id := settlement.effect_id, attempt_id := settlement.attempt_id,
      tool_call_id := settlement.tool_call_id, tool_name := settlement.tool_name } expected

def validate_model_completion_binding (result : ModelGenerationResult) : Except StoreError Unit :=
  match state_version.value.get "_agentkit_runtime" with
  | .obj runtime_state => do
      let active_request_id ← require_identity (JsonObject.get runtime_state "active_model_request_id")
        "model completion requires an active model request"
      raise_if (result.request_id ≠ active_request_id) .ValueError
        "model completion request_id must match the active model request"
  | _ => raise .ValueError "model completion requires engine runtime state"

end

/-! ## Requests -/

structure RunSegmentRequest where
  session_id : String
  owner_id : String
  owner_epoch : Nat
  state_version : OperationStateVersion
  step_input : EngineStepInput
  max_rounds : Nat

/-- The binding of a segment's first input. -/
def RunSegmentRequest.check_step_input (request : RunSegmentRequest) : Except StoreError Unit :=
  match request.step_input with
  | .Initial _ => do
      let outstanding ← has_outstanding_effect_recovery request.state_version
      raise_if (outstanding = true) .ValueError
        "initial input is forbidden during outstanding effect recovery"
  | .ModelGenerationCompleted result => validate_model_completion_binding request.state_version result
  | .EffectSettled settlement =>
    validate_settlement_binding request.state_version (.effect settlement) request.owner_epoch
  | .ApprovalResolved settlement =>
    validate_settlement_binding request.state_version (.approval settlement) request.owner_epoch

def RunSegmentRequest.post_init (request : RunSegmentRequest) : Except StoreError Unit := do
  require_non_empty "session_id" request.session_id
  require_non_empty "owner_id" request.owner_id
  require_positive_int "owner_epoch" request.owner_epoch
  request.check_step_input
  require_positive_int "max_rounds" request.max_rounds

end CodingAgentLoop
