/-
What becomes of a published decision.

A pass gives the decisions ahead of the cursor to the requests that wait for them. A decision the
cursor has passed stays on the bus, under the id of its request, and is found there when the
request is begun or decided again.
-/
import CodingAgentLoop.DecisionOrder

namespace CodingAgentLoop

open Lib Preserves Crew List

variable {session_id : String} {bus : InMemoryRuntimeMessageBus}

theorem InMemoryRuntimeMessageBus.sequence_pos {item : SequencedRuntimeMessage}
    (h : item ∈ bus.messages) : 0 < item.sequence := by
  have hmem : item.sequence ∈ bus.messages.map (·.sequence) := mem_map_of_mem h
  rw [bus.numbered] at hmem
  exact (mem_range'_1.mp hmem).1

theorem first_decision_decided {request_id : String} {response : ApprovalResponse}
    (h : first_decision session_id bus request_id = some response) :
    response.request_id = request_id ∧ Decided session_id bus response := by
  obtain ⟨item, hmem, hfilter⟩ := List.exists_of_findSome?_eq_some h
  obtain ⟨hresponse, hsame⟩ := Option.filter_eq_some_iff.mp hfilter
  obtain ⟨hitem, hkind⟩ := mem_filter.mp hmem
  exact ⟨of_decide_eq_true hsame, item, hitem, by simpa using hkind, hresponse⟩

section Session

variable {session : ApprovalSession} {response : ApprovalResponse}

theorem published_of_decided (h : SoundOn session_id bus session)
    (hdecided : Decided session_id bus response) :
    ∃ decision, published_decision session response.request_id = some decision
      ∧ decision.response = response := by
  obtain ⟨hid, hbus, hsound⟩ := h
  obtain ⟨item, hitem, hkind, hresponse⟩ := hdecided
  have hown := hsound.own item hitem hkind response hresponse
  have hpending : item ∈ session.runtime_message_bus.pending {} [.APPROVAL_DECISION] := by
    rw [hbus]
    refine bus.mem_pending.mpr ⟨hitem, InMemoryRuntimeMessageBus.sequence_pos hitem, ?_⟩
    rw [hkind]
    exact mem_singleton_self _
  unfold published_decision
  dsimp only
  cases hfound : (session.runtime_message_bus.pending {} [.APPROVAL_DECISION]).find? (fun item =>
      item.message.message_id = approval_decision_message_id session.id response.request_id) with
  | none =>
    have hother := List.find?_eq_none.mp hfound item hpending
    rw [hown, hid] at hother
    simp at hother
  | some other =>
    -- the message under this id is the one that decides
    have hother := (session.runtime_message_bus.mem_pending.mp
      (List.mem_of_find?_eq_some hfound)).1
    have hsame : other.message.message_id
        = approval_decision_message_id session.id response.request_id := by
      simpa using List.find?_some hfound
    rw [hbus] at hother
    rw [hid, ← hown] at hsame
    have heq := bus.eq_of_message_id hother hitem hsame
    refine ⟨{ sequence := item.sequence, response }, ?_, rfl⟩
    simp only [Option.bind_eq_bind, Option.bind_some, heq, hid, hresponse, Option.pure_def]

theorem pass_applies (h : SoundOn session_id bus session)
    (hwaits : session.Waits response.request_id)
    (hahead : ∃ item ∈ bus.messages, item.Decides session_id response
      ∧ session.approval_decision_cursor.sequence < item.sequence) :
    (consume_for_session none session).2.response_of response.request_id = some response := by
  obtain ⟨hid, hbus, hsound⟩ := h
  obtain ⟨item, hitem, ⟨hkind, hresponse⟩, hsequence⟩ := hahead
  have hbatch : ∀ other ∈ session.runtime_message_bus.pending session.approval_decision_cursor
      [.APPROVAL_DECISION], other ∈ bus.messages ∧ other.message.kind = .APPROVAL_DECISION := by
    intro other hother
    obtain ⟨hmem, -, hother_kind⟩ := session.runtime_message_bus.mem_pending.mp hother
    rw [hbus] at hmem
    exact ⟨hmem, mem_singleton.mp hother_kind⟩
  have hpending : item ∈ session.runtime_message_bus.pending session.approval_decision_cursor
      [.APPROVAL_DECISION] := by
    rw [hbus]
    refine bus.mem_pending.mpr ⟨hitem, hsequence, ?_⟩
    rw [hkind]
    exact mem_singleton_self _
  -- two decisions of one request are the same
  have honly : ∀ other ∈ session.runtime_message_bus.pending session.approval_decision_cursor
      [.APPROVAL_DECISION], ∀ given, other.response session_id = some given →
      given.request_id = response.request_id → given = response := by
    intro other hother given hgiven hsame
    obtain ⟨hmem, hother_kind⟩ := hbatch other hother
    have hfirst := first_decision_of_decided hsound.own ⟨other, hmem, hother_kind, hgiven⟩
    rw [hsame, first_decision_of_decided hsound.own ⟨item, hitem, hkind, hresponse⟩] at hfirst
    exact (Option.some.inj hfirst).symm
  have hgiven := give_decides ⟨hid, hbus, hsound⟩ hbatch honly
    (.inr ⟨hwaits, item, hpending, hresponse⟩)
  unfold ApprovalSession.response_of at hgiven ⊢
  rw [consume_run]
  exact hgiven

/-- A decision that is found on the bus is applied to the request that waits for it. -/
theorem apply_applies {decision : PublishedApprovalDecision}
    (hwaits : session.Waits decision.response.request_id) :
    (apply_published_decision decision.response.request_id decision session).2.response_of
      decision.response.request_id = some decision.response := by
  obtain ⟨pending, hrow, hnone⟩ := hwaits
  have hrespond : respond_if_known decision.response.request_id decision.response session
      = ApprovalSession.respond decision.response session := by
    have hget : (Action.get : ApprovalAction ApprovalSession) session = (.ok session, session) :=
      rfl
    unfold respond_if_known
    rw [Action.bind_ok hget]
    unfold ApprovalCoordinator.get_request
    rw [hrow]
    rfl
  obtain ⟨applied, given, hgiven⟩ : ∃ applied given,
      ApprovalSession.respond decision.response session = (.ok applied, given) := ⟨_, _, rfl⟩
  have hresponse : given.response_of decision.response.request_id = some decision.response := by
    have hresponded := respond_waits ⟨pending, hrow, hnone⟩
    rw [hgiven] at hresponded
    exact hresponded
  -- what comes after the response leaves the coordinator alone
  have hkept : Preserves (fun state : ApprovalSession =>
      state.approval_coordinator = given.approval_coordinator) (do
        Action.when (applied ∧ ¬ decision.sequence ≤ session.approval_decision_cursor.sequence)
          (Action.modify (fun session => { session with approval_decision_cursor :=
            ⟨max session.approval_decision_cursor.sequence decision.sequence⟩ }))
        if applied ∨ decision.sequence ≤ session.approval_decision_cursor.sequence then do
          ApprovalSession.expose_approval_response (approval_response_projection decision.response)
          pure true
        else pure false : ApprovalAction Bool) := by
    refine seq (when (Preserves.modify (fun _ h => h))) (fun _ => ?_)
    split
    · refine seq (seq (Preserves.modify (fun _ h => h)) (fun _ => ?_))
        (fun _ => Preserves.pure)
      exact Preserves.get.seq (fun _ => lift.seq (fun _ => Preserves.modify (fun _ h => h)))
    · exact Preserves.pure
  have hself : given.approval_coordinator = given.approval_coordinator := rfl
  have hget : (Action.get : ApprovalAction ApprovalSession) session = (.ok session, session) := rfl
  unfold apply_published_decision
  rw [Action.bind_ok hget, Action.bind_ok (hrespond.trans hgiven)]
  unfold ApprovalSession.response_of at hresponse ⊢
  rw [hkept.final hself]
  exact hresponse

end Session

/-! ## Runs -/

/-- What the decisions on a session's bus come to. -/
structure DecisionsKept (session_id : String) (session : ApprovalSession) : Prop where
  answered : ∀ request_id response, session.response_of request_id = some response →
    first_decision session_id session.runtime_message_bus request_id = some response
  recorded : ∀ number response, session.approval_coordinator.responses.row number = some response →
    first_decision session_id session.runtime_message_bus response.request_id = some response
  passes : ∀ item ∈ session.runtime_message_bus.messages, ∀ response,
    item.Decides session_id response →
    session.approval_decision_cursor.sequence < item.sequence →
    session.Waits response.request_id →
    (consume_for_session none session).2.response_of response.request_id = some response
  found : ∀ request_id response,
    first_decision session_id session.runtime_message_bus request_id = some response →
    ∃ decision, published_decision session request_id = some decision
      ∧ decision.response = response
      ∧ (session.Waits request_id → (apply_published_decision request_id decision
          session).2.response_of request_id = some response)

theorem Sound.kept {session : ApprovalSession} (h : SoundOn session_id bus session) :
    DecisionsKept session_id session := by
  obtain ⟨hid, rfl, hsound⟩ := h
  constructor
  · intro request_id response hresponse
    obtain ⟨pending, hrow, hgiven⟩ := Option.bind_eq_some_iff.mp hresponse
    have hfirst := first_decision_of_decided hsound.own (hsound.decided _ _ hgiven)
    rw [hsound.mine _ _ _ hrow hgiven] at hfirst
    exact hfirst
  · intro number response hresponse
    exact first_decision_of_decided hsound.own (hsound.decided _ _ hresponse)
  · intro item hitem response hdecides hahead hwaits
    exact pass_applies ⟨hid, rfl, hsound⟩ hwaits ⟨item, hitem, hdecides, hahead⟩
  · intro request_id response hfirst
    obtain ⟨rfl, hdecided⟩ := first_decision_decided hfirst
    obtain ⟨decision, hpublished, rfl⟩ := published_of_decided ⟨hid, rfl, hsound⟩ hdecided
    exact ⟨decision, hpublished, rfl, apply_applies⟩

theorem Orderly.moves {crew crew' : ApprovalCrew} {event : ApprovalEvent}
    (h : Orderly session_id crew) (hstep : ApprovalStep session_id crew event crew') :
    Moves session_id crew.shared crew'.shared := by
  cases hstep with
  | started => exact Moves.rfl h.sound
  | @answered pid call history query resume answer shared waiting answered =>
    have hasks := (h.follows pid _ waiting).1 (h.decides pid _ waiting)
    exact answers_moves h.sound (allowed_of_asks hasks (h.told pid _ waiting)) answered
  | elsewhere moved => exact moved.elim

theorem Orderly.keeps {start crew : ApprovalCrew} {events : List ApprovalEvent}
    (h : Orderly session_id start) (hrun : Run (ApprovalStep session_id) start events crew)
    (hcalls : ∀ pid call, .started pid call ∈ events → call.Decides session_id)
    {response : ApprovalResponse}
    (hdecided : Decided session_id start.shared.session.runtime_message_bus response) :
    Decided session_id crew.shared.session.runtime_message_bus response := by
  induction hrun with
  | refl => exact hdecided
  | snoc hbefore hstep ih =>
    refine ((h.run hbefore ?_).moves hstep).decided _ (ih ?_) <;>
      exact fun pid call hmem => hcalls pid call (mem_append_left _ hmem)

theorem Orderly.start {crew : ApprovalCrew} (hidle : Idle crew)
    (hnew : crew.shared.session = { id := session_id }) : Orderly session_id crew where
  decides := fun pid caller hcaller => by rw [hidle pid] at hcaller; cases hcaller
  sound := by
    unfold SoundWorld SoundOn
    rw [hnew]
    exact ⟨rfl, rfl, Sound.start session_id⟩
  told := hidle.remembers
  follows := hidle.follows

/-- **The first decision counts.** In every run of calls that publish decisions under the ids of
their requests, a request is given the first decision on the bus, which stays the first; every
`submit` that returns a response returns that one; a pass without a limit applies a decision ahead
of the cursor; and a decision anywhere on the bus is the one `submit` and `begin_request` find and
apply. -/
theorem approval_decisions_first_written {start mid crew : ApprovalCrew}
    {events later : List ApprovalEvent} (hidle : Idle start)
    (hnew : start.shared.session = { id := session_id })
    (hrun : Run (ApprovalStep session_id) start events mid)
    (hlater : Run (ApprovalStep session_id) mid later crew)
    (hcalls : ∀ pid call, .started pid call ∈ events ++ later → call.Decides session_id) :
    DecisionsKept session_id crew.shared.session
      ∧ (∀ request_id response,
          first_decision session_id mid.shared.session.runtime_message_bus request_id
            = some response →
          first_decision session_id crew.shared.session.runtime_message_bus request_id
            = some response)
      ∧ ∀ pid call history request_id response, call.submits = some request_id →
          crew.callers pid = some ⟨call, .done (some response), history⟩ →
          first_decision session_id crew.shared.session.runtime_message_bus request_id
            = some response := by
  have hearlier : ∀ pid call, .started pid call ∈ events → call.Decides session_id :=
    fun pid call hmem => hcalls pid call (mem_append_left _ hmem)
  have hafter : ∀ pid call, .started pid call ∈ later → call.Decides session_id :=
    fun pid call hmem => hcalls pid call (mem_append_right _ hmem)
  have hmid := (Orderly.start hidle hnew).run hrun hearlier
  have hcrew := hmid.run hlater hafter
  refine ⟨Sound.kept hcrew.sound, ?_, ?_⟩
  · intro request_id response hfirst
    obtain ⟨rfl, hdecided⟩ := first_decision_decided hfirst
    exact first_decision_of_decided hcrew.sound.2.2.own (hmid.keeps hlater hafter hdecided)
  · intro pid call history request_id response hsubmits hcaller
    obtain ⟨decision, hfound, rfl⟩ := hcrew.follows.ended hcaller (hcrew.decides pid _ hcaller)
      request_id hsubmits response rfl
    obtain ⟨rfl, hdecided⟩ := hcrew.told pid _ hcaller _ hfound decision rfl
    exact first_decision_of_decided hcrew.sound.2.2.own hdecided

/-! ## Runs on fixed inputs -/

section

variable (world : ApprovalWorld)

def publish_reply (message : RuntimeMessage) :
    Except DuplicateRuntimeMessageError Unit × ApprovalWorld :=
  match world.session.runtime_message_bus.publish message with
  | .ok (_, runtime_message_bus) =>
    (.ok (), { world with session := { world.session with runtime_message_bus } })
  | .error error => (.error error, world)

/-- The answer to the beginning of a wait. -/
def wait_reply (request_id : String) : WaitStart × ApprovalWorld :=
  match world.session.approval_coordinator.pending.row request_id with
  | none =>
    (.unknown, { world with session := { world.session with
      approval_coordinator := world.session.approval_coordinator.drop_request_id request_id } })
  | some pending =>
    match world.session.approval_coordinator.responses.row pending.number with
    | some response => (.responded response, world.wait_over request_id)
    | none => (.waiting pending.number, world)

theorem publish_reply_answers (message : RuntimeMessage) :
    ApprovalWorld.Answers world (.publish message) (publish_reply world message).1
      (publish_reply world message).2 := by
  unfold publish_reply
  split
  · next hpublish => exact .publish hpublish
  · next hpublish => exact .duplicate hpublish

theorem wait_reply_answers (request_id : String) :
    ApprovalWorld.Answers world (.start_wait request_id) (wait_reply world request_id).1
      (wait_reply world request_id).2 := by
  unfold wait_reply
  split
  · next hrow => exact .wait_unknown hrow
  · next hrow =>
    split
    · next hresponse => exact .wait_responded hrow hresponse
    · next hresponse => exact .wait_waiting hrow hresponse

end

/-- An answer to every query; whatever may fail does not, and a wait expires. -/
def approval_reply (_ : Unit) (world : ApprovalWorld) :
    (query : ApprovalQuery) → query.Answer × ApprovalWorld
  | .check => ((.ok none : Except TurnError (Option String)), world)
  | .is_session_approved request =>
    (world.session.approval_coordinator.is_session_approved request, world)
  | .begin_approval_request request => world.act (ApprovalSession.begin_approval_request request)
  | .create request => ((.ok () : Except TurnError Unit), world.created request.request_id)
  | .resolve request_id response status =>
    ((.ok () : Except TurnError Unit), world.resolved request_id { status, response })
  | .persist_session => ((.ok () : Except TurnError Unit), world)
  | .send _ => ((.ok () : Except TurnError Unit), world)
  | .published_decision request_id => (published_decision world.session request_id, world)
  | .apply_published_decision request_id decision =>
    world.act (apply_published_decision request_id decision)
  | .get_request request_id =>
    ((world.session.approval_coordinator.get_request request_id).isSome, world)
  | .publish message => publish_reply world message
  | .consume_for_session limit => world.act (consume_for_session limit)
  | .expose_approval_response response_projection =>
    world.act (ApprovalSession.expose_approval_response response_projection)
  | .start_wait request_id => wait_reply world request_id
  | .resume_wait request_id _ =>
    ((.ok none : Except TurnError (Option ApprovalResponse)), world.wait_over request_id)
  | .cleanup_approval_wait_projection =>
    world.act ApprovalSession.cleanup_approval_wait_projection
  | .admit_new_runtime_command _ _ => ((.error .CancelledError : Except TurnError Unit), world)
  | .respond response =>
    ((world.session.approval_coordinator.respond response).1,
      { world with session := (ApprovalSession.respond response world.session).2 })
  | .append_wire_event _ => ((.ok () : Except TurnError Unit), world)

theorem approval_reply_answers (given : Unit) (world : ApprovalWorld) (query : ApprovalQuery) :
    ApprovalWorld.Answers world query (approval_reply given world query).1
      (approval_reply given world query).2 := by
  cases query with
  | check => exact .check _
  | is_session_approved => exact .is_session_approved
  | begin_approval_request => exact .begin_approval_request
  | create => exact .create
  | resolve => exact .resolve
  | persist_session => exact .persist_session _
  | send => exact .send _
  | published_decision => exact .published_decision
  | apply_published_decision => exact .apply_published_decision
  | get_request => exact .get_request
  | publish message => exact publish_reply_answers world message
  | consume_for_session => exact .consume_for_session
  | expose_approval_response => exact .expose_approval_response
  | start_wait request_id => exact wait_reply_answers world request_id
  | resume_wait => exact .wait_expired
  | cleanup_approval_wait_projection => exact .cleanup_approval_wait_projection
  | admit_new_runtime_command => exact .admit_failed _
  | respond => exact .respond
  | append_wire_event => exact .append_wire_event _

theorem no_messages_numbered :
    ([] : List SequencedRuntimeMessage).map (·.sequence) = List.range' 1 0 := rfl

def silent_bus : InMemoryRuntimeMessageBus where
  messages := []
  numbered := no_messages_numbered
  distinct := nodup_nil

def sample_approval_crew : ApprovalCrew where
  shared := { session := { id := "s", runtime_message_bus := silent_bus } }
  callers := fun _ => none

abbrev ApprovalInput : Type := Input ApprovalCall Unit

abbrev play_approvals (script : List ApprovalInput) : List ApprovalEvent × ApprovalCrew :=
  Crew.play (ApprovalCall.body "s") approval_reply sample_approval_crew script

def sample_approval_request (request_id : String) : ApprovalRequest where
  session_id := "s"
  request_id := request_id
  tool := "bash"
  tool_call := some ("bash", [])

def sample_submits : List ApprovalInput :=
  [.start 0 (.add_request (sample_approval_request "r")), .access 0 (),
   .start 1 (.submit "r" true none .once), .start 2 (.submit "r" false none .once),
   .access 1 (), .access 2 (), .access 1 (), .access 2 (), .access 1 (), .access 2 (),
   .access 1 (), .access 2 (), .access 1 (), .access 2 (), .access 1 (), .access 2 ()]

theorem approval_decisions_first_written_submits :
    DecisionsKept "s" (play_approvals sample_submits).2.shared.session := by
  have hidle : Idle sample_approval_crew := fun _ => rfl
  have hrun : Run (ApprovalStep "s") sample_approval_crew (play_approvals sample_submits).1
      (play_approvals sample_submits).2 :=
    play_answers approval_reply_answers sample_approval_crew sample_submits
  have hcalls : ∀ pid call, .started pid call ∈ (play_approvals sample_submits).1 ++ [] →
      call.Decides "s" := by
    intro pid call hmem
    rw [append_nil] at hmem
    have hstarted : .start pid call ∈ sample_submits := play_started hmem
    simp only [sample_submits, mem_cons, Input.start.injEq, not_mem_nil, or_false,
      reduceCtorEq, false_or] at hstarted
    rcases hstarted with ⟨-, rfl⟩ | ⟨-, rfl⟩ | ⟨-, rfl⟩ <;> exact trivial
  have hkept := approval_decisions_first_written hidle rfl hrun Run.refl hcalls
  exact hkept.1

/-! ### Decisions that are passed, and decisions under other ids -/

/-- The next pass without a limit applies every decision on the bus whose request waits. -/
def AppliesNext (crew : ApprovalCrew) : Prop :=
  ∀ request_id response, crew.shared.session.Waits request_id →
    first_decision crew.shared.session.id crew.shared.session.runtime_message_bus request_id
      = some response →
    (consume_for_session none crew.shared.session).2.response_of request_id = some response

def response_returned (crew : ApprovalCrew) (pid : Nat) : Option ApprovalResponse :=
  match crew.callers pid with
  | some ⟨_, .done response, _⟩ => response
  | _ => none

/-- What the caller `pid` was told of the request is the response the request was given. -/
def ReturnsGiven (crew : ApprovalCrew) (pid : Nat) (request_id : String) : Prop :=
  ∀ response given, response_returned crew pid = some response →
    crew.shared.session.response_of request_id = some given → response = given

def sample_decision (message_id request_id : String) (approved : Bool)
    (named : message_id ≠ "" := by decide) : RuntimeMessage where
  message_id := message_id
  kind := .APPROVAL_DECISION
  payload := approval_decision_payload "s" request_id approved none .once
  named := named

def sample_mixed_batch : List ApprovalInput :=
  [.start 0 (.add_request (sample_approval_request "q")), .access 0 (),
   .start 1 (.publish (sample_decision "approval_decision:s:r" "r" true)), .access 1 (),
   .start 2 (.publish (sample_decision "approval_decision:s:q" "q" true)), .access 2 (),
   .start 3 (.consume_for_session none), .access 3 (),
   .start 4 (.add_request (sample_approval_request "r")), .access 4 ()]

def sample_other_id : List ApprovalInput :=
  [.start 0 (.add_request (sample_approval_request "r")), .access 0 (),
   .start 1 (.publish (sample_decision "deny-it" "r" false)), .access 1 (),
   .start 2 (.submit "r" true none .once), .access 2 (), .access 2 (), .access 2 (), .access 2 (),
   .access 2 (), .access 2 (), .access 2 (), .access 2 ()]

theorem decisions_passed_or_changed :
    ¬ AppliesNext (play_approvals sample_mixed_batch).2
      ∧ ¬ ReturnsGiven (play_approvals sample_other_id).2 2 "r" := by
  constructor
  · intro happlies
    have hwaits : (play_approvals sample_mixed_batch).2.shared.session.Waits "r" :=
      ⟨{ request := sample_approval_request "r", number := 1 }, rfl, rfl⟩
    have hfirst : first_decision (play_approvals sample_mixed_batch).2.shared.session.id
        (play_approvals sample_mixed_batch).2.shared.session.runtime_message_bus "r"
          = some { session_id := "s", request_id := "r", approved := true } := by
      decide +kernel
    have hpassed : (consume_for_session none
        (play_approvals sample_mixed_batch).2.shared.session).2.response_of "r" = none := by
      decide +kernel
    rw [happlies _ _ hwaits hfirst] at hpassed
    cases hpassed
  · intro hreturns
    have hreturned : response_returned (play_approvals sample_other_id).2 2
        = some { session_id := "s", request_id := "r", approved := true } := by
      decide +kernel
    have hgiven : (play_approvals sample_other_id).2.shared.session.response_of "r"
        = some { session_id := "s", request_id := "r", approved := false } := by
      decide +kernel
    cases hreturns _ _ hreturned hgiven

end CodingAgentLoop
