/-
The persistence-free engine (`agentkit/runtime/engine.py`).

`AgentEngine.propose` computes one transition from a state value and an input,
without any I/O. The state value is JSON: the engine's own part sits under
`_agentkit_runtime`, the conversation under `context.messages`. Each kind of input
has its own proposal function, translated line by line; the helpers that read the
state refuse what is not of the expected shape, as the source does.
-/
import CodingAgentLoop.EngineContracts

namespace CodingAgentLoop

open Lib Result

/-! ## The runtime state -/

def RUNTIME_STATE_KEY : String := "_agentkit_runtime"

def with_runtime_state (state_value runtime_state : JsonObject) : JsonObject :=
  state_value.set RUNTIME_STATE_KEY (.obj runtime_state)

def initial_runtime_state : JsonObject :=
  [("round_index", .int 0),
   ("mailbox_cut", .int 0),
   ("commands", .arr []),
   ("pending_effect_plans", .arr [])]

def runtime_state (state_value : JsonObject) : Except StoreError JsonObject :=
  match state_value.get RUNTIME_STATE_KEY with
  | .null => .ok initial_runtime_state
  | .obj value => .ok value
  | _ => raise .TypeError "engine runtime state must be a mapping"

def marker_mapping (runtime_state : JsonObject) (key : String) :
    Except StoreError (Option JsonObject) :=
  match runtime_state.get key with
  | .null => .ok none
  | .obj marker => .ok (some marker)
  | _ => raise .TypeError ("engine runtime " ++ key ++ " must be a mapping")

def active_effect_authorization (runtime_state : JsonObject) : Except StoreError JsonObject := do
  let marker ← marker_mapping runtime_state "active_effect_authorization"
  match marker with
  | none => raise .ValueError "indeterminate effect settlement requires retained authorization"
  | some marker => return marker

/-- The first marker under `keys` that is set. -/
def first_marker (runtime_state : JsonObject) : List String →
    Except StoreError (Option JsonObject)
  | [] => .ok none
  | key :: rest => do
      let marker ← marker_mapping runtime_state key
      if marker.isSome then return marker else first_marker runtime_state rest

/-- What a settlement must agree with in the retained authorization. -/
def retained_settlement_fields (settlement : EffectSettlement) : JsonObject :=
  [("effect_id", .str settlement.effect_id),
   ("attempt_id", .str settlement.attempt_id),
   ("tool_call_id", .str settlement.tool_call_id),
   ("tool_name", .str settlement.tool_name),
   ("authorization_transition_id", .str settlement.authorization_transition_id)]

def validate_effect_settlement_authorization (runtime_state : JsonObject)
    (settlement : EffectSettlement) : Except StoreError Unit := do
  let marker ← first_marker runtime_state
    ["reconciled_effect", "active_effect_authorization", "unknown_effect"]
  match marker with
  | none => raise .ValueError "effect settlement requires retained authorization"
  | some marker =>
    raise_if (marker.agrees (retained_settlement_fields settlement) = false) .ValueError
      "effect settlement must match retained authorization"

def validate_reconciled_settlement (marker : Json) (settlement : EffectSettlement) :
    Except StoreError Unit :=
  match marker with
  | .obj marker =>
    raise_if (JsonObject.agrees marker (reconciled_settlement_fields settlement) = false)
      .ValueError "effect settlement must match reconciled effect"
  | _ => raise .TypeError "engine runtime reconciled_effect must be a mapping"

def runtime_int (runtime_state : JsonObject) (key : String) : Except StoreError Nat :=
  match runtime_state.find key with
  | none => .ok 0
  | some (.int value) =>
    if 0 ≤ value then .ok value.toNat
    else raise .ValueError ("engine runtime " ++ key ++ " must be a non-negative integer")
  | some _ => raise .ValueError ("engine runtime " ++ key ++ " must be a non-negative integer")

/-! ## Commands and model requests -/

def command_value (command : RuntimeCommand) : Json :=
  .obj
    [("command_id", .str command.command_id),
     ("command_kind", .str command.command_kind),
     ("payload", .obj command.payload)]

def command_payload (raw : JsonObject) : Except StoreError JsonObject :=
  match raw.find "payload" with
  | none => .ok []
  | some (.obj payload) => .ok payload
  | some _ => raise .TypeError "engine runtime command payload must be a mapping"

def read_command (raw : Json) : Except StoreError RuntimeCommand :=
  match raw with
  | .obj raw =>
    match JsonObject.get raw "command_id", JsonObject.get raw "command_kind" with
    | .str command_id, .str command_kind => do
        let payload ← command_payload raw
        let command : RuntimeCommand := { command_id, command_kind, payload }
        command.post_init
        return command
    | _, _ => raise .TypeError "engine runtime command identity must be a string"
  | _ => raise .TypeError "engine runtime command must be a mapping"

def commands (runtime_state : JsonObject) : Except StoreError (List RuntimeCommand) :=
  match runtime_state.find "commands" with
  | none => .ok []
  | some (.arr raw_commands) => raw_commands.mapM read_command
  | some _ => raise .TypeError "engine runtime commands must be a sequence"

/-- `state_value.get("context", {})`, an object. -/
def state_context (state_value : JsonObject) : Except StoreError JsonObject :=
  match state_value.find "context" with
  | none => .ok []
  | some (.obj context) => .ok context
  | some _ => raise .TypeError "state context must be a mapping"

def model_request (run_id : String) (state_value : JsonObject) : Except StoreError ModelRequest :=
  do
    let runtime ← runtime_state state_value
    let last_round ← runtime_int runtime "round_index"
    let round_index := last_round + 1
    let context ← state_context state_value
    let commands ← commands runtime
    let request : ModelRequest :=
      { request_id := run_id ++ ":model:" ++ toString round_index
        run_id, round_index, commands, context }
    request.post_init
    return request

def activate_model_request (run_id : String) (state_value : JsonObject) :
    Except StoreError (JsonObject × ModelRequest) := do
  let request ← model_request run_id state_value
  let runtime ← runtime_state state_value
  return (with_runtime_state state_value
    (runtime.set "active_model_request_id" (.str request.request_id)), request)

def require_active_model_request (runtime_state : JsonObject) (request_id : String) :
    Except StoreError Unit := do
  let active_request_id ← require_identity (runtime_state.get "active_model_request_id")
    "model completion requires an active model request"
  raise_if (request_id ≠ active_request_id) .ValueError
    "model completion request_id must match the active model request"

/-! ## The conversation -/

def assistant_message (result : ModelGenerationResult) : JsonObject :=
  [("role", .str "assistant"),
   ("content", .str result.assistant_content),
   ("tool_calls", .arr (result.tool_calls.map (fun call =>
      .obj
        [("tool_call_id", .str call.tool_call_id),
         ("name", .str call.name),
         ("arguments", .obj call.arguments)])))]

/-- `context.get("messages", ())`, a sequence of objects. -/
def context_messages (context : JsonObject) : Except StoreError (List Json) :=
  match context.find "messages" with
  | none => .ok []
  | some (.arr messages) => do
      raise_if (∃ message ∈ messages, message.obj? = none) .TypeError
        "state context messages must contain mappings"
      return messages
  | some _ => raise .TypeError "state context messages must be a sequence"

def append_conversation_messages (state_value : JsonObject) (appended : List JsonObject) :
    Except StoreError JsonObject := do
  let context ← state_context state_value
  let messages ← context_messages context
  return state_value.set "context"
    (.obj (context.set "messages" (.arr (messages ++ appended.map Json.obj))))

/-! ## Effect plans -/

def effect_plan_fields (plan : EffectPlan) : JsonObject :=
  [("effect_id", .str plan.effect_id),
   ("attempt_id", .str plan.attempt_id),
   ("effect_kind", .str plan.effect_kind),
   ("payload", .obj plan.payload),
   ("idempotency_key", Json.of_str? plan.idempotency_key),
   ("requires_approval", .bool plan.requires_approval),
   ("approval_request_id", Json.of_str? plan.approval_request_id)]

def effect_plan_value (plan : EffectPlan) : Json := .obj (effect_plan_fields plan)

section

variable (raw : JsonObject) (key : String)

def required_string : Except StoreError String :=
  require_identity (raw.get key) ("pending effect plan " ++ key ++ " must be non-empty")

def optional_string : Except StoreError (Option String) :=
  match raw.get key with
  | .null => .ok none
  | value => some <$> require_identity value
      ("pending effect plan " ++ key ++ " must be non-empty when present")

def required_bool : Except StoreError Bool :=
  match raw.find key with
  | none => .ok false
  | some (.bool value) => .ok value
  | some _ => raise .TypeError ("pending effect plan " ++ key ++ " must be a bool")

end

/-- A plan its constructor accepts, as the constructor returns it. -/
def EffectPlan.checked (plan : EffectPlan) : Except StoreError EffectPlan := do
  plan.post_init
  return plan

def effect_plan (raw : Json) : Except StoreError EffectPlan :=
  match raw with
  | .obj raw =>
    match JsonObject.get raw "payload" with
    | .obj payload => do
        let effect_id ← required_string raw "effect_id"
        let attempt_id ← required_string raw "attempt_id"
        let effect_kind ← required_string raw "effect_kind"
        let idempotency_key ← optional_string raw "idempotency_key"
        let requires_approval ← required_bool raw "requires_approval"
        let approval_request_id ← optional_string raw "approval_request_id"
        let plan : EffectPlan :=
          { effect_id, attempt_id, effect_kind, payload, idempotency_key, requires_approval
            approval_request_id }
        plan.checked
    | _ => raise .TypeError "pending effect plan payload must be a mapping"
  | _ => raise .TypeError "pending effect plan must be a mapping"

def pending_effect_plans (runtime_state : JsonObject) : Except StoreError (List EffectPlan) :=
  match runtime_state.find "pending_effect_plans" with
  | none => .ok []
  | some (.arr raw_plans) => raw_plans.mapM effect_plan
  | some _ => raise .TypeError "pending effect plans must be a sequence"

theorem EffectPlan.checked_eq_ok {plan result : EffectPlan} :
    plan.checked = .ok result ↔ plan.post_init = .ok () ∧ result = plan := by
  unfold EffectPlan.checked
  rw [check_bind_eq_ok, pure_eq_ok, eq_comm (a := plan)]

theorem effect_plan_valid {raw : Json} {plan : EffectPlan} (h : effect_plan raw = .ok plan) :
    plan.post_init = .ok () := by
  unfold effect_plan at h
  split at h
  · split at h
    · simp only [bind_eq_ok, EffectPlan.checked_eq_ok] at h
      obtain ⟨_, -, _, -, _, -, _, -, _, -, _, -, hvalid, rfl⟩ := h
      exact hvalid
    · simp at h
  · simp at h

theorem pending_effect_plans_valid {runtime_state : JsonObject} {plans : List EffectPlan}
    (h : pending_effect_plans runtime_state = .ok plans) :
    ∀ plan ∈ plans, plan.post_init = .ok () := by
  unfold pending_effect_plans at h
  split at h
  · simp only [Except.ok.injEq] at h
    subst h
    simp
  · intro plan hmem
    obtain ⟨raw, -, hraw⟩ := exists_of_mem_mapM h hmem
    exact effect_plan_valid hraw
  · simp at h

theorem optional_string_of_str? {raw : JsonObject} {key : String} {value : Option String}
    (h : raw.get key = Json.of_str? value) (hne : value ≠ some "") :
    optional_string raw key = .ok value := by
  unfold optional_string
  rw [h]
  cases value with
  | none => rfl
  | some text =>
    have htext : text ≠ "" := by
      rintro rfl
      exact hne rfl
    have hread : require_identity (.str text)
        ("pending effect plan " ++ key ++ " must be non-empty when present") = .ok text :=
      require_identity_eq_ok.mpr ⟨rfl, htext⟩
    simp only [Json.of_str?, hread]
    rfl

/-- **The plan round trip**: what `_effect_plan_value` writes, `_effect_plan` reads back. -/
theorem effect_plan_value_round_trip {plan : EffectPlan} (h : plan.post_init = .ok ()) :
    effect_plan (effect_plan_value plan) = .ok plan := by
  have hvalid := h
  simp only [EffectPlan.post_init, check_bind_eq_ok, require_non_empty_eq_ok,
    require_non_empty_if_set_eq_ok] at h
  obtain ⟨heffect, hattempt, hkind, hidempotency, happroval⟩ := h
  have hrequest : plan.approval_request_id ≠ some "" := by
    intro hempty
    unfold check_approval_request_id at happroval
    rw [hempty] at happroval
    split at happroval <;> simp at happroval
  -- every field is read from where it was written
  have heffect_read : required_string (effect_plan_fields plan) "effect_id" = .ok plan.effect_id :=
    require_identity_eq_ok.mpr ⟨rfl, heffect⟩
  have hattempt_read : required_string (effect_plan_fields plan) "attempt_id"
      = .ok plan.attempt_id := require_identity_eq_ok.mpr ⟨rfl, hattempt⟩
  have hkind_read : required_string (effect_plan_fields plan) "effect_kind"
      = .ok plan.effect_kind := require_identity_eq_ok.mpr ⟨rfl, hkind⟩
  have hidempotency_read : optional_string (effect_plan_fields plan) "idempotency_key"
      = .ok plan.idempotency_key := optional_string_of_str? rfl hidempotency
  have hrequest_read : optional_string (effect_plan_fields plan) "approval_request_id"
      = .ok plan.approval_request_id := optional_string_of_str? rfl hrequest
  have hrequires_read : required_bool (effect_plan_fields plan) "requires_approval"
      = .ok plan.requires_approval := rfl
  have hpayload : JsonObject.get (effect_plan_fields plan) "payload" = .obj plan.payload := rfl
  unfold effect_plan effect_plan_value
  simp only [hpayload, heffect_read, hattempt_read, hkind_read, hidempotency_read, hrequest_read,
    hrequires_read, ok_bind]
  exact EffectPlan.checked_eq_ok.mpr ⟨hvalid, rfl⟩

theorem pending_effect_plans_of_values {runtime_state : JsonObject} {plans : List EffectPlan}
    (h : runtime_state.find "pending_effect_plans" = some (.arr (plans.map effect_plan_value)))
    (hvalid : ∀ plan ∈ plans, plan.post_init = .ok ()) :
    pending_effect_plans runtime_state = .ok plans := by
  unfold pending_effect_plans
  rw [h]
  exact mapM_map_eq_ok (fun plan hmem => effect_plan_value_round_trip (hvalid plan hmem))

def prepared_action (plan : EffectPlan) : NextAction :=
  .PreparedEffectAction plan (if plan.requires_approval then .APPROVAL_WAIT else .DISPATCH)

/-- `_require_next_effect(plans, ...)`, with the plan it is about and the ones behind it. -/
def require_next_effect (plans : List EffectPlan) (identity : EffectIdentity) :
    Except StoreError (EffectPlan × List EffectPlan) :=
  match plans with
  | [] => raise .ValueError "settlement has no pending effect plan"
  | next_plan :: remaining => do
      raise_if (next_plan.effect_id ≠ identity.effect_id) .ValueError
        "settlement effect_id does not match next effect plan"
      raise_if (next_plan.attempt_id ≠ identity.attempt_id) .ValueError
        "settlement attempt_id does not match next effect plan"
      let tool_call_id ← required_string next_plan.payload "tool_call_id"
      raise_if (tool_call_id ≠ identity.tool_call_id) .ValueError
        "settlement tool_call_id does not match next effect plan"
      let tool_name ← required_string next_plan.payload "tool_name"
      raise_if (tool_name ≠ identity.tool_name) .ValueError
        "settlement tool_name does not match next effect plan"
      return (next_plan, remaining)

/-! ## Proposals -/

namespace AgentEngine

def transition_id (request : EngineStepRequest) : String :=
  request.state_version.run_id ++ ":transition:" ++ request.step_input.type_name ++ ":"
    ++ request.step_input.input_id

def propose_initial (request : EngineStepRequest) (step_input : Initial) :
    Except StoreError TransitionProposal := do
  let runtime : JsonObject :=
    [("round_index", .int 0),
     ("mailbox_cut", .int step_input.mailbox_cut),
     ("commands", .arr (step_input.command_batch.map command_value)),
     ("pending_effect_plans", .arr [])]
  let (state_value, model_request) ← activate_model_request request.state_version.run_id
    (with_runtime_state request.state_version.value runtime)
  TransitionProposal.checked
    { transition_id := transition_id request
      state_value
      next_action := .ModelGenerationAction model_request }

def call_plan (transition_id : String) (index : Nat) (call : ModelToolCall) : EffectPlan where
  effect_id := transition_id ++ ":effect:" ++ toString index
  attempt_id := transition_id ++ ":effect:" ++ toString index ++ ":attempt:1"
  effect_kind := "tool"
  payload :=
    [("tool_call_id", .str call.tool_call_id),
     ("tool_name", .str call.name),
     ("arguments", .obj call.arguments)]
  idempotency_key := call.idempotency_key
  requires_approval := call.requires_approval
  approval_request_id := call.approval_request_id

/-- The plans of a result's calls, in order. -/
def call_plans (transition_id : String) : Nat → List ModelToolCall →
    Except StoreError (List EffectPlan)
  | _, [] => .ok []
  | index, call :: rest => do
      let plan ← (call_plan transition_id index call).checked
      let plans ← call_plans transition_id (index + 1) rest
      return plan :: plans

def call_facts (transition_id : String) (index : Nat) (call : ModelToolCall) : List PendingFact :=
  let plan := call_plan transition_id index call
  { fact_id := transition_id ++ ":tool-call:" ++ toString index
    fact_kind := "tool_call"
    payload :=
      [("tool_call_id", .str call.tool_call_id),
       ("tool_name", .str call.name),
       ("arguments", .obj call.arguments),
       ("effect_id", .str plan.effect_id),
       ("attempt_id", .str plan.attempt_id)] }
  :: if call.requires_approval then
      [{ fact_id := transition_id ++ ":approval-request:" ++ toString index
         fact_kind := "approval_requested"
         payload :=
          [("approval_request_id", Json.of_str? call.approval_request_id),
           ("tool_call_id", .str call.tool_call_id),
           ("tool_name", .str call.name),
           ("arguments", .obj call.arguments),
           ("effect_id", .str plan.effect_id),
           ("attempt_id", .str plan.attempt_id)] }]
    else []

def completion_facts (transition_id : String) (result : ModelGenerationResult) :
    List PendingFact :=
  [{ fact_id := transition_id ++ ":assistant"
     fact_kind := "assistant_message"
     payload := [("content", .str result.assistant_content)] }]
  ++ (match result.finalized_thinking with
    | none => []
    | some text =>
      [{ fact_id := transition_id ++ ":thinking"
         fact_kind := "finalized_thinking"
         payload := [("text", .str text)] }])
  ++ (result.tool_calls.mapIdx (call_facts transition_id)).flatten

def propose_model_completion (request : EngineStepRequest) (result : ModelGenerationResult) :
    Except StoreError TransitionProposal := do
  let transition_id := transition_id request
  let runtime ← runtime_state request.state_version.value
  require_active_model_request runtime result.request_id
  let last_round ← runtime_int runtime "round_index"
  let plans ← call_plans transition_id 0 result.tool_calls
  let updated_runtime :=
    ((((runtime.erase "active_model_request_id").set "round_index" (.int (last_round + 1))).set
      "pending_effect_plans" (.arr (plans.map effect_plan_value))).set
      "last_assistant_content" (.str result.assistant_content))
  let state_value ← append_conversation_messages
    (with_runtime_state request.state_version.value updated_runtime) [assistant_message result]
  TransitionProposal.checked
    { transition_id
      state_value
      next_action :=
        match plans with
        | plan :: _ => prepared_action plan
        | [] => .TerminalAction (some result.assistant_content) "no_tool_calls"
      pending_facts := completion_facts transition_id result
      effect_plans := plans }

/-- Where an answered call leads: to the next effect, or back to the model. -/
def after_answer (run_id : String) (state_value : JsonObject) (remaining : List EffectPlan) :
    Except StoreError (JsonObject × NextAction) :=
  match remaining with
  | plan :: _ => .ok (state_value, prepared_action plan)
  | [] => do
      let (state_value, model_request) ← activate_model_request run_id state_value
      return (state_value, .ModelGenerationAction model_request)

/-- The checks between a settlement and the reconciliation marks of the state. -/
def check_reconciliation_marks (runtime : JsonObject) (settlement : EffectSettlement) :
    Except StoreError Unit := do
  let reconciled := runtime.get "reconciled_effect"
  if reconciled = .null then
    raise_if (settlement.outcome ≠ .INDETERMINATE ∧ runtime.get "unknown_effect" ≠ .null)
      .ValueError "terminal UNKNOWN settlement requires committed reconciliation"
  else
    validate_reconciled_settlement reconciled settlement
    raise_if (settlement.outcome = .INDETERMINATE) .ValueError
      "reconciled effect cannot become indeterminate"

/-- An indeterminate settlement: the effect stays pending and the run blocks on it. -/
def block_on_unknown (request : EngineStepRequest) (settlement : EffectSettlement)
    (runtime : JsonObject) (plan : EffectPlan) : Except StoreError TransitionProposal := do
  let active ← active_effect_authorization runtime
  let unknown_effect : JsonObject :=
    active.set "indeterminate_input_id" (.str settlement.input_id)
  let effect ← EffectReference.from_plan plan
  TransitionProposal.checked
    { transition_id := transition_id request
      state_value := with_runtime_state request.state_version.value
        (runtime.set "unknown_effect" (.obj unknown_effect))
      next_action := .BlockedAction "indeterminate_dispatch" (some effect) }

def reason_field (key : String) : Option String → JsonObject
  | none => []
  | some reason => [(key, .str reason)]

/-- The payload of the fact that records a settled effect. -/
def settlement_payload (settlement : EffectSettlement) : JsonObject :=
  [("tool_call_id", .str settlement.tool_call_id),
   ("tool_name", .str settlement.tool_name),
   ("effect_id", .str settlement.effect_id),
   ("attempt_id", .str settlement.attempt_id),
   ("result", settlement.result),
   ("is_error", .bool (settlement.outcome ≠ .COMPLETED)),
   ("outcome", .str settlement.outcome.value)]
  ++ reason_field "reason_code" settlement.reason_code
  ++ reason_field "reason_message" settlement.reason_message

def tool_message (tool_call_id tool_name : String) (content : Json) (is_error : Bool) :
    JsonObject :=
  [("role", .str "tool"),
   ("tool_call_id", .str tool_call_id),
   ("name", .str tool_name),
   ("content", content),
   ("is_error", .bool is_error)]

section

variable (request : EngineStepRequest) (settlement : EffectSettlement)

/-- A settled effect: its call is answered and leaves the queue. -/
def answer_settlement (runtime : JsonObject) (remaining : List EffectPlan) :
    Except StoreError TransitionProposal := do
  let transition_id := transition_id request
  let updated_runtime :=
    (((runtime.set "pending_effect_plans" (.arr (remaining.map effect_plan_value))).erase
      "active_effect_authorization").erase "unknown_effect").erase "reconciled_effect"
  let answered ← append_conversation_messages
    (with_runtime_state request.state_version.value updated_runtime)
    [tool_message settlement.tool_call_id settlement.tool_name settlement.result
      (settlement.outcome ≠ .COMPLETED)]
  let (state_value, next_action) ← after_answer request.state_version.run_id answered remaining
  TransitionProposal.checked
    { transition_id
      state_value
      next_action
      pending_facts :=
        [{ fact_id := transition_id ++ ":tool-result"
           fact_kind := "tool_result"
           payload := settlement_payload settlement }] }

def propose_effect_settlement :
    Except StoreError TransitionProposal := do
  let runtime ← runtime_state request.state_version.value
  let plans ← pending_effect_plans runtime
  validate_effect_settlement_authorization runtime settlement
  let (plan, remaining) ← require_next_effect plans
    { effect_id := settlement.effect_id, attempt_id := settlement.attempt_id,
      tool_call_id := settlement.tool_call_id, tool_name := settlement.tool_name }
  check_reconciliation_marks runtime settlement
  if settlement.outcome = .INDETERMINATE then block_on_unknown request settlement runtime plan
  else answer_settlement request settlement runtime remaining

end

/-- An approved effect: the state is unchanged until its dispatch is authorized. -/
def approve (request : EngineStepRequest) (settlement : ApprovalSettlement) (plan : EffectPlan) :
    Except StoreError TransitionProposal :=
  TransitionProposal.checked
    { transition_id := transition_id request
      state_value := request.state_version.value
      next_action := .PreparedEffectAction plan .DISPATCH
      dispositions := [.applied settlement.command_id] }

def denial_content (reason_code : String) (settlement : ApprovalSettlement) : Json :=
  .obj
    [("reason_code", .str reason_code),
     ("message", Json.of_str? settlement.rejection_message)]

section

variable (request : EngineStepRequest) (settlement : ApprovalSettlement)

/-- A denied effect: its call is answered with the denial and leaves the queue. -/
def deny (reason_code : String) (runtime : JsonObject) (remaining : List EffectPlan) :
    Except StoreError TransitionProposal := do
  let transition_id := transition_id request
  let answered ← append_conversation_messages
    (with_runtime_state request.state_version.value
      (runtime.set "pending_effect_plans" (.arr (remaining.map effect_plan_value))))
    [tool_message settlement.tool_call_id settlement.tool_name
      (denial_content reason_code settlement) true]
  let (state_value, next_action) ← after_answer request.state_version.run_id answered remaining
  TransitionProposal.checked
    { transition_id
      state_value
      next_action
      pending_facts :=
        [{ fact_id := transition_id ++ ":tool-result"
           fact_kind := "tool_result"
           payload :=
            [("tool_call_id", .str settlement.tool_call_id),
             ("tool_name", .str settlement.tool_name),
             ("effect_id", .str settlement.effect_id),
             ("attempt_id", .str settlement.attempt_id),
             ("result", denial_content reason_code settlement),
             ("is_error", .bool true),
             ("reason_code", .str reason_code)] }]
      dispositions := [.rejected settlement.command_id reason_code] }

def propose_approval_resolution :
    Except StoreError TransitionProposal := do
  let runtime ← runtime_state request.state_version.value
  let plans ← pending_effect_plans runtime
  raise_if (settlement.transition_id ≠ request.state_version.commit_ref.transition_id) .ValueError
    "approval settlement transition_id must match owning committed transition"
  let (plan, remaining) ← require_next_effect plans
    { effect_id := settlement.effect_id, attempt_id := settlement.attempt_id,
      tool_call_id := settlement.tool_call_id, tool_name := settlement.tool_name }
  raise_if (plan.requires_approval = false) .ValueError
    "approval settlement does not match an approval-wait effect"
  if settlement.approved then approve request settlement plan
  else
    match settlement.rejection_reason_code with
    | none => raise .ValueError "approval denial requires a rejection reason code"
    | some reason_code => deny request settlement reason_code runtime remaining

end

def propose (request : EngineStepRequest) : Except StoreError TransitionProposal :=
  match request.step_input with
  | .Initial step_input => propose_initial request step_input
  | .ModelGenerationCompleted result => propose_model_completion request result
  | .EffectSettled settlement => propose_effect_settlement request settlement
  | .ApprovalResolved settlement => propose_approval_resolution request settlement

end AgentEngine

end CodingAgentLoop
