/-
Approval requests and the messages that decide them (`coding_agent/approval`).

A session keeps its pending requests with the response each was given, and the cursor up to
which the decisions on its message bus were taken. The parts between two awaits are actions on
the session; `ApprovalCalls.lean` puts them together.
-/
import CodingAgentLoop.Lib.Stateful
import CodingAgentLoop.Lib.Table
import CodingAgentLoop.RuntimeMessages

namespace CodingAgentLoop

open Lib Action

/-! ## Requests and responses -/

inductive ApprovalScope where
  | once
  | session
  | always
  deriving DecidableEq, Repr

def ApprovalScope.value : ApprovalScope → String
  | .once => "once"
  | .session => "session"
  | .always => "always"

/-- `scope_value in _APPROVAL_SCOPES`, for a string. -/
def ApprovalScope.of_value (value : String) : Option ApprovalScope :=
  [ApprovalScope.once, .session, .always].find? (fun scope => scope.value = value)

/-- `ApprovalRequest`; its tool call is a name and arguments. -/
structure ApprovalRequest where
  session_id : String
  agent_id : String := ""
  request_id : String
  tool : String := ""
  tool_call : Option (String × JsonObject) := none

structure ApprovalResponse where
  session_id : String
  request_id : String
  approved : Bool
  feedback : Option String := none
  scope : ApprovalScope := .once
  deriving DecidableEq, Repr

def approval_response_projection (response : ApprovalResponse) : JsonObject :=
  [("request_id", .str response.request_id),
   ("decision", .str (if response.approved then "approve" else "deny")),
   ("feedback", .of_str? response.feedback)]

/-! ## The coordinator and its store -/

/-- `PendingRequest`: an object that a waiter keeps when its request is registered again, so it
has a number. Its response is under that number in the coordinator. -/
structure PendingRequest where
  request : ApprovalRequest
  number : Nat

/-- `ApprovalCoordinator`, with the requests of its `ApprovalStore`. -/
structure ApprovalCoordinator where
  pending : Table String PendingRequest := ∅
  created : Nat := 0
  responses : Table Nat ApprovalResponse := ∅
  request_order : List String := []
  session_approved_tools : List (String × String) := []

namespace ApprovalCoordinator

section

variable (coordinator : ApprovalCoordinator)

def get_request (request_id : String) : Option ApprovalRequest :=
  (coordinator.pending.row request_id).map (·.request)

def drop_request_id (request_id : String) : ApprovalCoordinator :=
  { coordinator with
    request_order := coordinator.request_order.filter (fun queued_id => queued_id ≠ request_id) }

def add_request (request : ApprovalRequest) : ApprovalCoordinator :=
  let dropped := coordinator.drop_request_id request.request_id
  { dropped with
    pending := dropped.pending.put request.request_id { request, number := dropped.created }
    created := dropped.created + 1
    request_order := dropped.request_order ++ [request.request_id] }

def remove_request (request_id : String) : ApprovalCoordinator :=
  { coordinator with pending := coordinator.pending.delete_where (fun key _ => key = request_id) }

def is_session_approved (request : ApprovalRequest) : Bool :=
  coordinator.session_approved_tools.contains (request.agent_id, request.tool)

def remember_session_approval (request : ApprovalRequest) : ApprovalCoordinator :=
  { coordinator with
    session_approved_tools := (request.agent_id, request.tool) :: coordinator.session_approved_tools }

/-- `pending.response = response`, and what follows from it. -/
def recorded (pending : PendingRequest) (response : ApprovalResponse) : ApprovalCoordinator :=
  let answered :=
    { coordinator with responses := coordinator.responses.put pending.number response }
  let remembered :=
    if response.approved ∧ response.scope ≠ .once then
      answered.remember_session_approval pending.request
    else answered
  remembered.drop_request_id response.request_id

end

section Recorded

variable (coordinator : ApprovalCoordinator) (pending : PendingRequest)
  (response : ApprovalResponse)

@[simp] theorem recorded_pending :
    (coordinator.recorded pending response).pending = coordinator.pending := by
  unfold recorded
  dsimp only
  split <;> rfl

@[simp] theorem recorded_created :
    (coordinator.recorded pending response).created = coordinator.created := by
  unfold recorded
  dsimp only
  split <;> rfl

@[simp] theorem recorded_responses : (coordinator.recorded pending response).responses
      = coordinator.responses.put pending.number response := by
  unfold recorded
  dsimp only
  split <;> rfl

end Recorded

section

variable (coordinator : ApprovalCoordinator)

/-- `respond(response)`: whether it was recorded. -/
def respond (response : ApprovalResponse) :
    Bool × ApprovalCoordinator :=
  match coordinator.pending.row response.request_id with
  | none => (false, coordinator)
  | some pending =>
    if (coordinator.responses.row pending.number).isSome then (false, coordinator)
    else (true, coordinator.recorded pending response)

/-- `pending_request`, which drops the ids of requests that are gone. -/
def pending_request : Option ApprovalRequest :=
  coordinator.request_order.findSome? coordinator.get_request

def projection : Except StoreError (Option JsonObject) :=
  match coordinator.pending_request with
  | none => .ok none
  | some request =>
    match request.tool_call with
    | none => raise .ValueError "approval request is missing tool_call"
    | some (tool_name, arguments) =>
      .ok (some [("request_id", .str request.request_id), ("tool_name", .str tool_name),
        ("arguments", .obj arguments)])

end

end ApprovalCoordinator

/-! ## The session -/

structure ApprovalSession where
  id : String
  runtime_message_bus : InMemoryRuntimeMessageBus := {}
  approval_decision_cursor : RuntimeMessageCursor := {}
  approval_coordinator : ApprovalCoordinator := {}
  pending_approval : Option JsonObject := none
  approval_response : Option JsonObject := none

abbrev ApprovalAction := Action ApprovalSession StoreError

namespace ApprovalSession

def respond (response : ApprovalResponse) : ApprovalAction Bool := fun session =>
  let (applied, approval_coordinator) := session.approval_coordinator.respond response
  (.ok applied, { session with approval_coordinator })

/-- `pending_approval = approval_coordinator.projection()`. -/
def project : ApprovalAction Unit := do
  let session ← Action.get
  let pending_approval ← lift session.approval_coordinator.projection
  Action.modify (fun session => { session with pending_approval })

def begin_approval_request (request : ApprovalRequest) : ApprovalAction Unit := do
  Action.modify (fun session =>
    { session with approval_coordinator := session.approval_coordinator.add_request request })
  project
  Action.modify (fun session => { session with approval_response := none })

def update_pending_approval_projection : ApprovalAction Unit := project

def expose_approval_response (response_projection : JsonObject) : ApprovalAction Unit := do
  Action.modify (fun session => { session with approval_response := some response_projection })
  project

def cleanup_approval_wait_projection : ApprovalAction Unit := do
  project
  Action.modify (fun session => { session with approval_response := none })

end ApprovalSession

/-! ## Decisions on the bus -/

def approval_decision_message_id (session_id request_id : String) : String :=
  "approval_decision:" ++ session_id ++ ":" ++ request_id

def names_session (payload : JsonObject) (session_id : String) : Bool :=
  match payload.get "session_id" with
  | .null => true
  | .str payload_session_id => payload_session_id = session_id
  | _ => false

def approval_response_from_runtime_payload (session_id : String) (payload : JsonObject) :
    Option ApprovalResponse :=
  if names_session payload session_id then
    match payload.get "request_id", payload.get "approved", payload.get "feedback",
      payload.get_or "scope" (.str "once") with
    | .str request_id, .bool approved, feedback, .str scope_value =>
      if request_id = "" then none
      else
        match feedback, ApprovalScope.of_value scope_value with
        | .null, some scope => some { session_id, request_id, approved, scope }
        | .str feedback, some scope =>
          some { session_id, request_id, approved, feedback := some feedback, scope }
        | _, _ => none
    | _, _, _, _ => none
  else none

/-- The payload `submit` publishes. -/
def approval_decision_payload (session_id : String) (request_id : String) (approved : Bool)
    (feedback : Option String) (scope : ApprovalScope) : JsonObject :=
  [("session_id", .str session_id), ("request_id", .str request_id), ("approved", .bool approved),
   ("feedback", .of_str? feedback), ("scope", .str scope.value)]

def SequencedRuntimeMessage.response (item : SequencedRuntimeMessage) (session_id : String) :
    Option ApprovalResponse :=
  approval_response_from_runtime_payload session_id item.message.payload

structure ApprovalDecisionConsumptionResult where
  cursor : RuntimeMessageCursor
  applied_request_ids : List String := []
  skipped_message_ids : List String := []
  deferred_message_ids : List String := []

structure PublishedApprovalDecision where
  sequence : Nat
  response : ApprovalResponse

namespace ApprovalDecisionConsumptionResult

section

variable (result : ApprovalDecisionConsumptionResult) (item : SequencedRuntimeMessage)

def applied (request_id : String) : ApprovalDecisionConsumptionResult :=
  { result with
    cursor := ⟨item.sequence⟩
    applied_request_ids := result.applied_request_ids ++ [request_id] }

def skipped : ApprovalDecisionConsumptionResult :=
  { result with
    cursor := ⟨item.sequence⟩
    skipped_message_ids := result.skipped_message_ids ++ [item.message.message_id] }

def deferred : ApprovalDecisionConsumptionResult :=
  { result with
    cursor := ⟨item.sequence⟩
    deferred_message_ids := result.deferred_message_ids ++ [item.message.message_id] }

end

end ApprovalDecisionConsumptionResult

/-- The loop body of `ApprovalDecisionConsumer.consume`. -/
def consume_decision (result : ApprovalDecisionConsumptionResult) (item : SequencedRuntimeMessage) :
    ApprovalAction ApprovalDecisionConsumptionResult := do
  let session ← Action.get
  match item.response session.id with
  | none => pure (result.skipped item)
  | some response =>
    if (session.approval_coordinator.get_request response.request_id).isNone then
      pure (result.deferred item)
    else do
      let recorded ← ApprovalSession.respond response
      pure (if recorded then result.applied item response.request_id else result.skipped item)

/-- The loop of `ApprovalDecisionConsumer.consume`. -/
def consume_decisions : List SequencedRuntimeMessage → ApprovalDecisionConsumptionResult →
    ApprovalAction ApprovalDecisionConsumptionResult
  | [], result => pure result
  | item :: items, result => do
      let result ← consume_decision result item
      consume_decisions items result

def consume_for_session (limit : Option Int) :
    ApprovalAction ApprovalDecisionConsumptionResult := do
  let session ← Action.get
  let batch ← lift (session.runtime_message_bus.consume_after
    session.approval_decision_cursor [.APPROVAL_DECISION] limit)
  let result ← consume_decisions batch.messages { cursor := session.approval_decision_cursor }
  when (result.applied_request_ids ≠ [] ∨ result.deferred_message_ids = [])
    (Action.modify (fun session => { session with approval_decision_cursor := result.cursor }))
  when (result.applied_request_ids ≠ [])
    ApprovalSession.update_pending_approval_projection
  pure result

def published_decision (session : ApprovalSession) (request_id : String) :
    Option PublishedApprovalDecision := do
  let batch := session.runtime_message_bus.pending {} [.APPROVAL_DECISION]
  let item ← batch.find? (fun item =>
    item.message.message_id = approval_decision_message_id session.id request_id)
  let response ← item.response session.id
  pure { sequence := item.sequence, response }

def respond_if_known (request_id : String) (response : ApprovalResponse) : ApprovalAction Bool := do
  let session ← Action.get
  if (session.approval_coordinator.get_request request_id).isSome then
    ApprovalSession.respond response
  else pure false

/-- `apply_published_decision(session, request_id, decision)` up to its first await: whether it
goes on. -/
def apply_published_decision (request_id : String) (decision : PublishedApprovalDecision) :
    ApprovalAction Bool := do
  let session ← Action.get
  let already_consumed := decision.sequence ≤ session.approval_decision_cursor.sequence
  let applied ← respond_if_known request_id decision.response
  when (applied ∧ ¬ already_consumed)
    (Action.modify (fun session => { session with approval_decision_cursor :=
      ⟨max session.approval_decision_cursor.sequence decision.sequence⟩ }))
  if applied ∨ already_consumed then do
    ApprovalSession.expose_approval_response (approval_response_projection decision.response)
    pure true
  else pure false

end CodingAgentLoop
