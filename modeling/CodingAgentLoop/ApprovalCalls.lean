/-
The calls that ask for an approval and those that give one (`coding_agent/approval`,
`coding_agent/server/session/approval.py`).

The calls share a session, the records of its interactions and the commands admitted for its
runs. A call runs alone until it awaits something; its queries are what it does between two
awaits, and `ApprovalWorld.Answers` says what each of them may be answered.

The store keeps the first resolution of an interaction. A wait may expire at any time: it is
resumed with the timeout even when a response has been recorded by then.
-/
import CodingAgentLoop.ApprovalDecisions
import CodingAgentLoop.Lib.Crew
import CodingAgentLoop.Toolset

open Lib

namespace CodingAgentLoop

/-- The outcome of an approval's `AgentInteractionRecord`; a pending one has none. -/
structure InteractionOutcome where
  status : String
  response : ApprovalResponse

/-- The session, the interactions by request id, and the decisions admitted as commands. -/
structure ApprovalWorld where
  session : ApprovalSession
  interactions : Table String (Option InteractionOutcome) := ∅
  commands : Table String Bool := ∅

/-- How `wait_for_response` begins. -/
inductive WaitStart where
  | unknown
  | responded (response : ApprovalResponse)
  | waiting (number : Nat)

inductive ApprovalQuery where
  | check
  | is_session_approved (request : ApprovalRequest)
  | begin_approval_request (request : ApprovalRequest)
  | create (request : ApprovalRequest)
  | resolve (request_id : String) (response : ApprovalResponse) (status : String)
  | persist_session
  | send (request : ApprovalRequest)
  | published_decision (request_id : String)
  | apply_published_decision (request_id : String) (decision : PublishedApprovalDecision)
  | get_request (request_id : String)
  | publish (message : RuntimeMessage)
  | consume_for_session (limit : Option Int)
  | expose_approval_response (response_projection : JsonObject)
  | start_wait (request_id : String)
  | resume_wait (request_id : String) (number : Nat)
  | cleanup_approval_wait_projection
  | admit_new_runtime_command (request_id : String) (approved : Bool)
  | respond (response : ApprovalResponse)
  | append_wire_event (response : ApprovalResponse)

namespace ApprovalQuery

def Answer : ApprovalQuery → Type
  | check => Except TurnError (Option String)
  | is_session_approved _ => Bool
  | published_decision _ => Option PublishedApprovalDecision
  | apply_published_decision _ _ => Except TurnError Bool
  | get_request _ => Bool
  | publish _ => Except DuplicateRuntimeMessageError Unit
  | consume_for_session _ => Except TurnError ApprovalDecisionConsumptionResult
  | start_wait _ => WaitStart
  | resume_wait _ _ => Except TurnError (Option ApprovalResponse)
  | respond _ => Bool
  | _ => Except TurnError Unit

end ApprovalQuery

abbrev ApprovalDialogue (α : Type) : Type := Dialogue ApprovalQuery ApprovalQuery.Answer TurnError α

namespace ApprovalDialogue

def ask {α : Type} (query : ApprovalQuery) (cast : query.Answer → Except TurnError α) :
    ApprovalDialogue α := do
  let answer ← Dialogue.await query
  Dialogue.lift (cast answer)

def get_request (request_id : String) : ApprovalDialogue Bool :=
  Dialogue.await (ApprovalQuery.get_request request_id)

def published_decision (request_id : String) :
    ApprovalDialogue (Option PublishedApprovalDecision) :=
  Dialogue.await (ApprovalQuery.published_decision request_id)

def is_session_approved (request : ApprovalRequest) : ApprovalDialogue Bool :=
  Dialogue.await (ApprovalQuery.is_session_approved request)

def publish (message : RuntimeMessage) :
    ApprovalDialogue (Except DuplicateRuntimeMessageError Unit) :=
  Dialogue.await (ApprovalQuery.publish message)

def start_wait (request_id : String) : ApprovalDialogue WaitStart :=
  Dialogue.await (ApprovalQuery.start_wait request_id)

end ApprovalDialogue

open ApprovalDialogue (ask)

def approval_interaction_status (response : ApprovalResponse) : String :=
  if response.approved then "approved" else "rejected"

section

variable (request_id : String)

/-- `interactions.resolve(session, request_id, response)`. -/
def resolve_interaction (response : ApprovalResponse) (status : String) :
    ApprovalDialogue Unit :=
  if request_id ≠ response.request_id then
    .fail (.raised (.raised .ValueError
      "approval response request_id does not match interaction request_id"))
  else ask (.resolve request_id response status) id

/-- `apply_published_decision(session, request_id, decision)`. -/
def apply_decision (decision : PublishedApprovalDecision) :
    ApprovalDialogue (Option ApprovalResponse) := do
  let goes_on ← ask (.apply_published_decision request_id decision) id
  if goes_on then do
    ask .persist_session id
    resolve_interaction request_id decision.response (approval_interaction_status decision.response)
    pure (some decision.response)
  else pure none

/-- `submit` after its decision is on the bus. -/
def submit_published (decision : PublishedApprovalDecision) :
    ApprovalDialogue (Option ApprovalResponse) := do
  let result ← ask (.consume_for_session none) id
  if request_id ∈ result.applied_request_ids then do
    ask (.expose_approval_response (approval_response_projection decision.response)) id
    ask .persist_session id
    resolve_interaction request_id decision.response (approval_interaction_status decision.response)
    pure (some decision.response)
  else if result.applied_request_ids ≠ [] then do
    ask .persist_session id
    pure none
  else pure none

/-- `submit` once the request is known to be there. -/
def submit_message (message : RuntimeMessage) :
    ApprovalDialogue (Option ApprovalResponse) := do
  let published ← ApprovalDialogue.publish message
  match ← ApprovalDialogue.published_decision request_id with
  | none =>
    let kind := if published.isOk then "" else "duplicate "
    .fail (.raised (.raised .RuntimeError
      (kind ++ "approval_decision '" ++ message.message_id ++ "' was not readable")))
  | some decision => submit_published request_id decision

end

theorem message_id_named (session_id request_id : String) :
    approval_decision_message_id session_id request_id ≠ "" := by
  intro h
  have hlength := congrArg String.length h
  unfold approval_decision_message_id at hlength
  rw [String.length_append, String.length_append] at hlength
  have hcolon : ":".length = 1 := rfl
  have hempty : "".length = 0 := rfl
  omega

section

variable (session_id request_id : String) (approved : Bool) (feedback : Option String) (scope : ApprovalScope)

/-- The message `submit` publishes. -/
def approval_decision_message : RuntimeMessage where
  message_id := approval_decision_message_id session_id request_id
  kind := .APPROVAL_DECISION
  payload := approval_decision_payload session_id request_id approved feedback scope
  named := message_id_named session_id request_id

def submit : ApprovalDialogue (Option ApprovalResponse) := do
  match ← ApprovalDialogue.published_decision request_id with
  | some decision => apply_decision request_id decision
  | none => do
      let known ← ApprovalDialogue.get_request request_id
      if known then
        submit_message request_id
          (approval_decision_message session_id request_id approved feedback scope)
      else pure none

end

def resolve_session_approval (request : ApprovalRequest) :
    ApprovalDialogue (Option ApprovalResponse) := do
  let approved ← ApprovalDialogue.is_session_approved request
  if approved then do
    let response : ApprovalResponse :=
      { session_id := request.session_id
        request_id := request.request_id
        approved := true
        scope := .session }
    ask (.create request) id
    resolve_interaction request.request_id response (approval_interaction_status response)
    pure (some response)
  else pure none

def begin_request (request : ApprovalRequest) : ApprovalDialogue (Option ApprovalResponse) := do
  ask (.begin_approval_request request) id
  ask .persist_session id
  ask (.create request) id
  match ← ApprovalDialogue.published_decision request.request_id with
  | none => pure none
  | some decision => apply_decision request.request_id decision

def wait_for_response (request_id : String) : ApprovalDialogue (Option ApprovalResponse) := do
  match ← ApprovalDialogue.start_wait request_id with
  | .unknown => pure none
  | .responded response => pure (some response)
  | .waiting number => ask (.resume_wait request_id number) id

def timeout_response (request : ApprovalRequest) : ApprovalResponse where
  session_id := request.session_id
  request_id := request.request_id
  approved := false
  feedback := some "Approval timeout or error"

def resolve_timeout (request : ApprovalRequest) : ApprovalDialogue ApprovalResponse := do
  resolve_interaction request.request_id (timeout_response request) "timed_out"
  pure (timeout_response request)

def approval_wait_response_projection (response : ApprovalResponse) : JsonObject :=
  [("decision", .str (if response.approved then "approve" else "deny")),
   ("feedback", .of_str? response.feedback)]

def resolve_wait_response (request_id : String) (response : ApprovalResponse)
    (expose_response : Bool) : ApprovalDialogue Unit := do
  if expose_response then do
    ask (.expose_approval_response (approval_wait_response_projection response)) id
    ask .persist_session id
    resolve_interaction request_id response (approval_interaction_status response)
  else resolve_interaction request_id response (approval_interaction_status response)

def cleanup_after_wait : ApprovalDialogue Unit := do
  ask .cleanup_approval_wait_projection id
  ask .persist_session id

/-- `try: body finally: cleanup_after_wait(session)`. -/
def finally_cleanup {α : Type} (body : ApprovalDialogue α) : ApprovalDialogue α := do
  let value ← body.handle (fun error => do
    cleanup_after_wait
    .fail error)
  cleanup_after_wait
  pure value

section

variable (request : ApprovalRequest)

def answer_wait : Option ApprovalResponse →
    ApprovalDialogue ApprovalResponse
  | none => resolve_timeout request
  | some response => do
      resolve_wait_response request.request_id response true
      pure response

/-- `_request_approval(req)` of the session's consumer. -/
def request_approval : ApprovalDialogue (Option ApprovalResponse) := do
  match ← resolve_session_approval request with
  | some response => pure (some response)
  | none => do
      match ← begin_request request with
      | some response => pure (some response)
      | none => do
          ask (.send request) id
          let response ← finally_cleanup (do
            let response ← wait_for_response request.request_id
            answer_wait request response)
          pure (some response)

/-- The wait of `wait_for_http_approval`. -/
def http_wait : ApprovalDialogue (Option ApprovalResponse) := do
  match ← wait_for_response request.request_id with
  | none => pure none
  | some response => do
      resolve_wait_response request.request_id response false
      pure (some response)

def wait_for_http_approval :
    ApprovalDialogue (Option ApprovalResponse) := do
  match ← ask .check id with
  | some feedback => pure (some
      { session_id := request.session_id
        request_id := request.request_id
        approved := false
        feedback := some feedback })
  | none => do
      match ← resolve_session_approval request with
      | some response => pure (some response)
      | none => do
          match ← begin_request request with
          | some response => pure (some response)
          | none => do
              match ← finally_cleanup (http_wait request) with
              | some response => pure (some response)
              | none => do
                  let response ← resolve_timeout request
                  pure (some response)

end

section

variable (session_id request_id : String) (approved : Bool) (feedback : Option String) (scope : ApprovalScope)

/-- `submit_approval_response` of a session served by a `DurableSegmentRunner`. -/
def submit_durable : ApprovalDialogue (Option ApprovalResponse) := do
  let known ← ApprovalDialogue.get_request request_id
  if known then do
    ask (.admit_new_runtime_command request_id approved) id
    let response : ApprovalResponse := { session_id, request_id, approved, feedback, scope }
    let _ ← Dialogue.await (.respond response)
    pure (some response)
  else pure none

/-- `submit_approval_response` of any other session. -/
def submit_legacy : ApprovalDialogue (Option ApprovalResponse) := do
  match ← submit session_id request_id approved feedback scope with
  | none => pure none
  | some response => do
      ask (.append_wire_event response) id
      pure (some response)

end

inductive ApprovalCall where
  | request_approval (request : ApprovalRequest)
  | wait_for_http_approval (request : ApprovalRequest)
  | begin_request (request : ApprovalRequest)
  | submit (request_id : String) (approved : Bool) (feedback : Option String)
      (scope : ApprovalScope)
  | submit_legacy (request_id : String) (approved : Bool) (feedback : Option String)
      (scope : ApprovalScope)
  | submit_durable (request_id : String) (approved : Bool) (feedback : Option String)
      (scope : ApprovalScope)
  | publish (message : RuntimeMessage)
  | add_request (request : ApprovalRequest)
  | consume_for_session (limit : Option Int)

/-- The code of a call on the session `session_id`. -/
def ApprovalCall.body (session_id : String) :
    ApprovalCall → ApprovalDialogue (Option ApprovalResponse)
  | .request_approval request => CodingAgentLoop.request_approval request
  | .wait_for_http_approval request => CodingAgentLoop.wait_for_http_approval request
  | .begin_request request => CodingAgentLoop.begin_request request
  | .submit request_id approved feedback scope =>
    CodingAgentLoop.submit session_id request_id approved feedback scope
  | .submit_legacy request_id approved feedback scope =>
    CodingAgentLoop.submit_legacy session_id request_id approved feedback scope
  | .submit_durable request_id approved feedback scope =>
    CodingAgentLoop.submit_durable session_id request_id approved feedback scope
  | .publish message => do
      let _ ← Dialogue.await (.publish message)
      pure none
  | .add_request request => do
      ask (.begin_approval_request request) id
      pure none
  | .consume_for_session limit => do
      let _ ← ask (.consume_for_session limit) id
      pure none

/-! ## The answers -/

namespace ApprovalWorld

def act {α : Type} (world : ApprovalWorld) (action : ApprovalAction α) :
    Except TurnError α × ApprovalWorld :=
  ((action world.session).1.mapError .raised, { world with session := (action world.session).2 })

section

variable (world : ApprovalWorld) (request_id : String)

/-- `create_agent_interaction`, which keeps a record that is there. -/
def created : ApprovalWorld :=
  match world.interactions.row request_id with
  | none => { world with interactions := world.interactions.put request_id none }
  | some _ => world

/-- `resolve_agent_interaction`, which keeps the first resolution. -/
def resolved (outcome : InteractionOutcome) :
    ApprovalWorld :=
  match world.interactions.row request_id with
  | some none => { world with interactions := world.interactions.put request_id (some outcome) }
  | _ => world

/-- The wait is over: `remove_request(request_id)` and `_drop_request_id(request_id)`. -/
def wait_over : ApprovalWorld :=
  { world with session := { world.session with
      approval_coordinator :=
        (world.session.approval_coordinator.remove_request request_id).drop_request_id request_id } }

end

/-- What a query may be answered, and what it leaves. -/
inductive Answers : ApprovalWorld → (query : ApprovalQuery) → query.Answer → ApprovalWorld → Prop
  | check {world : ApprovalWorld} (answer : Except TurnError (Option String)) :
      Answers world .check answer world
  | is_session_approved {world : ApprovalWorld} {request : ApprovalRequest} :
      Answers world (.is_session_approved request)
        (world.session.approval_coordinator.is_session_approved request) world
  | begin_approval_request {world : ApprovalWorld} {request : ApprovalRequest} :
      Answers world (.begin_approval_request request)
        (world.act (ApprovalSession.begin_approval_request request)).1
        (world.act (ApprovalSession.begin_approval_request request)).2
  | create {world : ApprovalWorld} {request : ApprovalRequest} :
      Answers world (.create request) (.ok ()) (world.created request.request_id)
  | create_failed {world : ApprovalWorld} {request : ApprovalRequest} (error : TurnError) :
      Answers world (.create request) (.error error) world
  | resolve {world : ApprovalWorld} {request_id status : String} {response : ApprovalResponse} :
      Answers world (.resolve request_id response status) (.ok ())
        (world.resolved request_id { status, response })
  | resolve_failed {world : ApprovalWorld} {request_id status : String}
      {response : ApprovalResponse} (error : TurnError) :
      Answers world (.resolve request_id response status) (.error error) world
  | persist_session {world : ApprovalWorld} (answer : Except TurnError Unit) :
      Answers world .persist_session answer world
  | send {world : ApprovalWorld} {request : ApprovalRequest} (answer : Except TurnError Unit) :
      Answers world (.send request) answer world
  | published_decision {world : ApprovalWorld} {request_id : String} :
      Answers world (.published_decision request_id)
        (CodingAgentLoop.published_decision world.session request_id) world
  | apply_published_decision {world : ApprovalWorld} {request_id : String}
      {decision : PublishedApprovalDecision} :
      Answers world (.apply_published_decision request_id decision)
        (world.act (CodingAgentLoop.apply_published_decision request_id decision)).1
        (world.act (CodingAgentLoop.apply_published_decision request_id decision)).2
  | get_request {world : ApprovalWorld} {request_id : String} :
      Answers world (.get_request request_id)
        (world.session.approval_coordinator.get_request request_id).isSome world
  | publish {world : ApprovalWorld} {message : RuntimeMessage} {item : SequencedRuntimeMessage}
      {runtime_message_bus : InMemoryRuntimeMessageBus}
      (hpublish : world.session.runtime_message_bus.publish message
        = .ok (item, runtime_message_bus)) :
      Answers world (.publish message) (.ok ())
        { world with session := { world.session with runtime_message_bus } }
  | duplicate {world : ApprovalWorld} {message : RuntimeMessage}
      {error : DuplicateRuntimeMessageError}
      (hpublish : world.session.runtime_message_bus.publish message = .error error) :
      Answers world (.publish message) (.error error) world
  | consume_for_session {world : ApprovalWorld} {limit : Option Int} :
      Answers world (.consume_for_session limit)
        (world.act (CodingAgentLoop.consume_for_session limit)).1
        (world.act (CodingAgentLoop.consume_for_session limit)).2
  | expose_approval_response {world : ApprovalWorld} {response_projection : JsonObject} :
      Answers world (.expose_approval_response response_projection)
        (world.act (ApprovalSession.expose_approval_response response_projection)).1
        (world.act (ApprovalSession.expose_approval_response response_projection)).2
  | wait_unknown {world : ApprovalWorld} {request_id : String}
      (hrow : world.session.approval_coordinator.pending.row request_id = none) :
      Answers world (.start_wait request_id) .unknown
        { world with session := { world.session with
            approval_coordinator :=
              world.session.approval_coordinator.drop_request_id request_id } }
  | wait_responded {world : ApprovalWorld} {request_id : String} {pending : PendingRequest}
      {response : ApprovalResponse}
      (hrow : world.session.approval_coordinator.pending.row request_id = some pending)
      (hresponse : world.session.approval_coordinator.responses.row pending.number
        = some response) :
      Answers world (.start_wait request_id) (.responded response) (world.wait_over request_id)
  | wait_waiting {world : ApprovalWorld} {request_id : String} {pending : PendingRequest}
      (hrow : world.session.approval_coordinator.pending.row request_id = some pending)
      (hresponse : world.session.approval_coordinator.responses.row pending.number = none) :
      Answers world (.start_wait request_id) (.waiting pending.number) world
  | wait_woken {world : ApprovalWorld} {request_id : String} {number : Nat}
      {response : ApprovalResponse}
      (hresponse : world.session.approval_coordinator.responses.row number = some response) :
      Answers world (.resume_wait request_id number) (.ok (some response))
        (world.wait_over request_id)
  | wait_expired {world : ApprovalWorld} {request_id : String} {number : Nat} :
      Answers world (.resume_wait request_id number) (.ok none) (world.wait_over request_id)
  | wait_cancelled {world : ApprovalWorld} {request_id : String} {number : Nat} :
      Answers world (.resume_wait request_id number) (.error .CancelledError)
        (world.wait_over request_id)
  | cleanup_approval_wait_projection {world : ApprovalWorld} :
      Answers world .cleanup_approval_wait_projection
        (world.act ApprovalSession.cleanup_approval_wait_projection).1
        (world.act ApprovalSession.cleanup_approval_wait_projection).2
  | admit_new_runtime_command {world : ApprovalWorld} {request_id : String} {approved : Bool}
      (hnew : world.commands.row request_id = none ∨ world.commands.row request_id = some approved) :
      Answers world (.admit_new_runtime_command request_id approved) (.ok ())
        { world with commands := world.commands.put request_id approved }
  | admit_failed {world : ApprovalWorld} {request_id : String} {approved : Bool}
      (error : TurnError) :
      Answers world (.admit_new_runtime_command request_id approved) (.error error) world
  | respond {world : ApprovalWorld} {response : ApprovalResponse} :
      Answers world (.respond response)
        (world.session.approval_coordinator.respond response).1
        { world with session := (ApprovalSession.respond response world.session).2 }
  | append_wire_event {world : ApprovalWorld} {response : ApprovalResponse}
      (answer : Except TurnError Unit) :
      Answers world (.append_wire_event response) answer world

end ApprovalWorld

abbrev ApprovalCrew : Type :=
  Crew ApprovalCall ApprovalWorld ApprovalQuery ApprovalQuery.Answer TurnError
    (Option ApprovalResponse)

abbrev ApprovalEvent : Type :=
  CrewEvent ApprovalCall ApprovalWorld ApprovalQuery ApprovalQuery.Answer

abbrev ApprovalStep (session_id : String) : ApprovalCrew → ApprovalEvent → ApprovalCrew → Prop :=
  Crew.Step (ApprovalCall.body session_id) ApprovalWorld.Answers (fun _ _ => False)

end CodingAgentLoop
