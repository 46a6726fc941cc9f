/-
The first decision of an approval is the one that counts.

A decision that is published under its request's own message id is the only one the bus takes
for that request. The cursor may pass it before its request is there, when the batch has another
decision to apply; then it is found on the bus again when the request is begun or decided.
-/
import CodingAgentLoop.ApprovalCalls

namespace CodingAgentLoop

open Lib ApprovalCoordinator Preserves Dialogue Action Table InMemoryRuntimeMessageBus List

variable {session_id : String} {bus : InMemoryRuntimeMessageBus}

/-! ## The decisions on a bus -/

def SequencedRuntimeMessage.Decides (item : SequencedRuntimeMessage) (session_id : String)
    (response : ApprovalResponse) : Prop :=
  item.message.kind = .APPROVAL_DECISION ∧ item.response session_id = some response

def Decided (session_id : String) (bus : InMemoryRuntimeMessageBus) (response : ApprovalResponse) :
    Prop :=
  ∃ item ∈ bus.messages, item.Decides session_id response

/-- The message is published under the own id of the request it decides, if it decides one. -/
def OwnId (session_id : String) (message : RuntimeMessage) : Prop :=
  message.kind = .APPROVAL_DECISION → ∀ response,
    approval_response_from_runtime_payload session_id message.payload = some response →
      message.message_id = approval_decision_message_id session_id response.request_id

def first_decision (session_id : String) (bus : InMemoryRuntimeMessageBus) (request_id : String) :
    Option ApprovalResponse :=
  (bus.of_kinds [.APPROVAL_DECISION]).findSome? (fun item =>
    (item.response session_id).filter (fun response => response.request_id = request_id))

theorem message_id_inj {request_id other : String}
    (h : approval_decision_message_id session_id request_id
      = approval_decision_message_id session_id other) : request_id = other :=
  (String.append_right_inj _).mp h

theorem first_decision_of_decided (hown : ∀ item ∈ bus.messages, OwnId session_id item.message)
    {response : ApprovalResponse} (h : Decided session_id bus response) :
    first_decision session_id bus response.request_id = some response := by
  obtain ⟨item, hitem, hkind, hresponse⟩ := h
  have hmem : item ∈ bus.of_kinds [.APPROVAL_DECISION] :=
    mem_filter.mpr ⟨hitem, decide_eq_true (by rw [hkind]; exact mem_singleton_self _)⟩
  have hfound : first_decision session_id bus response.request_id ≠ none := by
    intro hnone
    have hall := List.findSome?_eq_none_iff.mp hnone item hmem
    rw [hresponse] at hall
    simp at hall
  obtain ⟨first, hfirst⟩ := Option.ne_none_iff_exists'.mp hfound
  rw [hfirst]
  obtain ⟨found, hfoundmem, hfilter⟩ := List.exists_of_findSome?_eq_some hfirst
  obtain ⟨hcarries, hsame⟩ := Option.filter_eq_some_iff.mp hfilter
  obtain ⟨hfounditem, hfoundkind⟩ := mem_filter.mp hfoundmem
  -- the message id of the request belongs to one message
  have hkind' : found.message.kind = .APPROVAL_DECISION := by simpa using hfoundkind
  have hid := hown item hitem hkind response hresponse
  have hid' := hown found hfounditem hkind' first hcarries
  rw [of_decide_eq_true hsame, ← hid] at hid'
  have heq := bus.eq_of_message_id hfounditem hitem hid'
  rw [heq, hresponse] at hcarries
  exact hcarries.symm

section

variable (session_id request_id : String) (approved : Bool) (feedback : Option String) (scope : ApprovalScope)

theorem submitted_response : approval_response_from_runtime_payload session_id
        (approval_decision_payload session_id request_id approved feedback scope)
      = if request_id = "" then none
        else some { session_id, request_id, approved, feedback, scope } := by
  have hnames : names_session
      (approval_decision_payload session_id request_id approved feedback scope) session_id = true :=
    decide_eq_true rfl
  unfold approval_response_from_runtime_payload
  rw [if_pos hnames]
  cases feedback <;> cases scope <;> rfl

theorem ownId_submitted :
    OwnId session_id (approval_decision_message session_id request_id approved feedback scope) := by
  intro _ response hresponse
  have hpublished := (submitted_response session_id request_id approved feedback scope).symm.trans
    hresponse
  split at hpublished
  · cases hpublished
  · cases hpublished
    rfl

end

/-! ## What the session keeps -/

/-- Responses are decisions of the bus, each given to a request it names. -/
structure Sound (session_id : String) (bus : InMemoryRuntimeMessageBus)
    (coordinator : ApprovalCoordinator) : Prop where
  own : ∀ item ∈ bus.messages, OwnId session_id item.message
  fresh : ∀ number response, coordinator.responses.row number = some response →
    number < coordinator.created
  numbered : ∀ request_id pending, coordinator.pending.row request_id = some pending →
    pending.number < coordinator.created
  distinct : ∀ request_id pending other_id other,
    coordinator.pending.row request_id = some pending →
    coordinator.pending.row other_id = some other → pending.number = other.number →
    request_id = other_id
  mine : ∀ request_id pending response, coordinator.pending.row request_id = some pending →
    coordinator.responses.row pending.number = some response → response.request_id = request_id
  decided : ∀ number response, coordinator.responses.row number = some response →
    Decided session_id bus response

namespace Sound

variable {coordinator : ApprovalCoordinator}

theorem start (session_id : String) : Sound session_id {} {} where
  own := fun _ hmem => by cases hmem
  fresh := fun _ _ h => by cases h
  numbered := fun _ _ h => by cases h
  distinct := fun _ _ _ _ h => by cases h
  mine := fun _ _ _ h => by cases h
  decided := fun _ _ h => by cases h

section

variable (h : Sound session_id bus coordinator)

include h

theorem recorded {pending : PendingRequest} {response : ApprovalResponse}
    (hrow : coordinator.pending.row response.request_id = some pending)
    (hdecided : Decided session_id bus response) :
    Sound session_id bus (coordinator.recorded pending response) := by
  constructor
  · exact h.own
  · intro number other hother
    rw [recorded_responses, row_put] at hother
    rw [recorded_created]
    split at hother
    · next heq =>
      rw [heq]
      exact h.numbered _ _ hrow
    · exact h.fresh number other hother
  · rw [recorded_pending, recorded_created]
    exact h.numbered
  · rw [recorded_pending]
    exact h.distinct
  · intro request_id other given hother hgiven
    rw [recorded_pending] at hother
    rw [recorded_responses, row_put] at hgiven
    split at hgiven
    · next heq =>
      cases hgiven
      exact h.distinct _ _ _ _ hrow hother heq.symm
    · exact h.mine request_id other given hother hgiven
  · intro number other hother
    rw [recorded_responses, row_put] at hother
    split at hother
    · cases hother
      exact hdecided
    · exact h.decided number other hother

theorem add_request (request : ApprovalRequest) :
    Sound session_id bus (coordinator.add_request request) := by
  have hrow (request_id : String) : (coordinator.add_request request).pending.row request_id
      = if request_id = request.request_id then some { request, number := coordinator.created }
        else coordinator.pending.row request_id := row_put _ _ _ _
  have hunanswered : coordinator.responses.row coordinator.created = none := by
    cases hrow : coordinator.responses.row coordinator.created with
    | none => rfl
    | some response => exact absurd (h.fresh _ _ hrow) (Nat.lt_irrefl _)
  constructor
  · exact h.own
  · exact fun number response hresponse => Nat.lt_succ_of_lt (h.fresh number response hresponse)
  · intro request_id pending hpending
    rw [hrow] at hpending
    split at hpending
    · cases hpending
      exact Nat.lt_succ_self _
    · exact Nat.lt_succ_of_lt (h.numbered request_id pending hpending)
  · intro request_id pending other_id other hpending hother heq
    rw [hrow] at hpending hother
    split at hpending <;> split at hother
    · next hfirst hsecond => rw [hfirst, hsecond]
    · cases hpending
      have hlt := h.numbered other_id other hother
      rw [← heq] at hlt
      exact absurd hlt (Nat.lt_irrefl _)
    · cases hother
      have hlt := h.numbered request_id pending hpending
      rw [heq] at hlt
      exact absurd hlt (Nat.lt_irrefl _)
    · exact h.distinct _ _ _ _ hpending hother heq
  · intro request_id pending response hpending hresponse
    rw [hrow] at hpending
    split at hpending
    · cases hpending
      exact absurd (hunanswered.symm.trans hresponse) (by simp)
    · exact h.mine request_id pending response hpending hresponse
  · exact h.decided

theorem removed (request_id : String) :
    Sound session_id bus ((coordinator.remove_request request_id).drop_request_id request_id) := by
  have hrow {other_id : String} {pending : PendingRequest}
      (hpending : (coordinator.pending.delete_where (fun key _ => key = request_id)).row other_id
        = some pending) : coordinator.pending.row other_id = some pending :=
    row_of_delete_where hpending
  exact {
    own := h.own
    fresh := h.fresh
    numbered := fun other_id pending hpending => h.numbered other_id pending (hrow hpending)
    distinct := fun _ _ _ _ hpending hother => h.distinct _ _ _ _ (hrow hpending) (hrow hother)
    mine := fun _ _ _ hpending => h.mine _ _ _ (hrow hpending)
    decided := h.decided }

theorem publish {message : RuntimeMessage}
    {item : SequencedRuntimeMessage} {bus' : InMemoryRuntimeMessageBus}
    (hpublish : bus.publish message = .ok (item, bus')) (hown : OwnId session_id message) :
    Sound session_id bus' coordinator := by
  obtain ⟨hitem, hmessages, -⟩ := bus.publish_eq_ok hpublish
  refine { h with own := ?_, decided := ?_ }
  · intro other hother
    rw [hmessages] at hother
    rcases mem_snoc hother with hother | hother
    · exact h.own other hother
    · rw [hother, hitem]
      exact hown
  · intro number response hresponse
    obtain ⟨other, hother, hdecides⟩ := h.decided number response hresponse
    refine ⟨other, ?_, hdecides⟩
    rw [hmessages]
    exact mem_append_left _ hother

end

end Sound

/-! ## What an action does to the session -/

def SoundOn (session_id : String) (bus : InMemoryRuntimeMessageBus) (session : ApprovalSession) :
    Prop :=
  session.id = session_id ∧ session.runtime_message_bus = bus
    ∧ Sound session_id bus session.approval_coordinator

theorem sound_respond {response : ApprovalResponse} (hdecided : Decided session_id bus response) :
    Preserves (SoundOn session_id bus) (ApprovalSession.respond response) := by
  have hresponded : ∀ session, SoundOn session_id bus session →
      SoundOn session_id bus (ApprovalSession.respond response session).2 := by
    rintro session ⟨hid, hbus, hsound⟩
    refine ⟨hid, hbus, ?_⟩
    show Sound session_id bus (session.approval_coordinator.respond response).2
    unfold ApprovalCoordinator.respond
    split
    · exact hsound
    · next pending hrow =>
      split
      · exact hsound
      · exact hsound.recorded hrow hdecided
  exact fun session h => ⟨fun _ _ => hresponded session h, fun _ _ => hresponded session h⟩

theorem sound_project : Preserves (SoundOn session_id bus) ApprovalSession.project :=
  Preserves.get.seq (fun _ => Preserves.lift.seq (fun _ => Preserves.modify (fun _ h => h)))

theorem sound_expose (response_projection : JsonObject) : Preserves (SoundOn session_id bus)
      (ApprovalSession.expose_approval_response response_projection) :=
  seq (Preserves.modify (fun _ h => h)) (fun _ => sound_project)

theorem sound_cleanup :
    Preserves (SoundOn session_id bus) ApprovalSession.cleanup_approval_wait_projection :=
  sound_project.seq (fun _ => Preserves.modify (fun _ h => h))

theorem sound_begin (request : ApprovalRequest) :
    Preserves (SoundOn session_id bus) (ApprovalSession.begin_approval_request request) :=
  seq (Preserves.modify (fun _ h => ⟨h.1, h.2.1, h.2.2.add_request request⟩))
    (fun _ => sound_project.seq (fun _ => Preserves.modify (fun _ h => h)))

theorem sound_consume_decision {item : SequencedRuntimeMessage}
    (result : ApprovalDecisionConsumptionResult) (hitem : item ∈ bus.messages)
    (hkind : item.message.kind = .APPROVAL_DECISION) :
    Preserves (SoundOn session_id bus) (consume_decision result item) := by
  unfold consume_decision
  refine Ensures.bind (Q := fun session state => SoundOn session_id bus state ∧ session = state)
    (Ensures.get (fun _ h => ⟨h, rfl⟩)) (fun session => ?_)
  split
  · exact Ensures.pure (fun _ h => h.1)
  · next response hresponse =>
    split
    · exact Ensures.pure (fun _ h => h.1)
    · rintro state ⟨hstate, rfl⟩
      have hdecided : Decided session_id bus response := by
        refine ⟨item, hitem, hkind, ?_⟩
        rw [← hstate.1]
        exact hresponse
      exact ((sound_respond hdecided).seq (fun _ => Preserves.pure)) session hstate

theorem sound_consume_decisions {items : List SequencedRuntimeMessage}
    (hitems : ∀ item ∈ items, item ∈ bus.messages ∧ item.message.kind = .APPROVAL_DECISION)
    (result : ApprovalDecisionConsumptionResult) :
    Preserves (SoundOn session_id bus) (consume_decisions items result) := by
  induction items generalizing result with
  | nil => exact Preserves.pure
  | cons item rest ih =>
    obtain ⟨hmem, hkind⟩ := hitems item mem_cons_self
    exact (sound_consume_decision result hmem hkind).seq
      (ih (fun other hother => hitems other (mem_cons_of_mem _ hother)))

theorem batch_decisions {cursor : RuntimeMessageCursor} {limit : Option Int}
    {batch : RuntimeMessageBatch}
    (h : bus.consume_after cursor [.APPROVAL_DECISION] limit = .ok batch) :
    ∀ item ∈ batch.messages, item ∈ bus.messages ∧ item.message.kind = .APPROVAL_DECISION := by
  obtain ⟨-, hbegins, -⟩ := bus.consume_after_eq_ok h
  intro item hitem
  obtain ⟨hmem, -, hkind⟩ := bus.mem_pending.mp (hbegins.subset hitem)
  exact ⟨hmem, mem_singleton.mp hkind⟩

theorem sound_consume (limit : Option Int) :
    Preserves (SoundOn session_id bus) (consume_for_session limit) := by
  unfold consume_for_session
  refine Ensures.bind (Q := fun session state => SoundOn session_id bus state ∧ session = state)
    (Ensures.get (fun _ h => ⟨h, rfl⟩)) (fun session => ?_)
  refine Ensures.bind (Q := fun batch state => SoundOn session_id bus state
      ∧ ∀ item ∈ batch.messages, item ∈ bus.messages ∧ item.message.kind = .APPROVAL_DECISION)
    (Ensures.lift (fun batch hbatch state h => ?_) (fun _ _ _ h => h.1)) (fun batch => ?_)
  · obtain ⟨hstate, rfl⟩ := h
    refine ⟨hstate, ?_⟩
    rw [← hstate.2.1]
    exact batch_decisions hbatch
  · refine Ensures.given (fun hitems => ?_)
    refine (sound_consume_decisions hitems _).seq (fun result => ?_)
    refine seq (Preserves.when (Preserves.modify (fun _ h => h))) (fun _ => ?_)
    exact (Preserves.when sound_project).seq (fun _ => Preserves.pure)

theorem sound_apply {decision : PublishedApprovalDecision} (request_id : String)
    (hdecided : Decided session_id bus decision.response) :
    Preserves (SoundOn session_id bus) (apply_published_decision request_id decision) := by
  have hrespond : Preserves (SoundOn session_id bus)
      (respond_if_known request_id decision.response) := by
    refine Preserves.get.seq (fun session => ?_)
    split
    · exact sound_respond hdecided
    · exact Preserves.pure
  unfold apply_published_decision
  refine Preserves.get.seq (fun session => ?_)
  refine hrespond.seq (fun applied => ?_)
  refine seq (Preserves.when (Preserves.modify (fun _ h => h))) (fun _ => ?_)
  split
  · exact (sound_expose _).seq (fun _ => Preserves.pure)
  · exact Preserves.pure

theorem published_decides {session : ApprovalSession} {request_id : String}
    {decision : PublishedApprovalDecision} (h : SoundOn session_id bus session)
    (hpublished : published_decision session request_id = some decision) :
    decision.response.request_id = request_id ∧ Decided session_id bus decision.response := by
  obtain ⟨hid, hbus, hsound⟩ := h
  unfold published_decision at hpublished
  simp only [Option.bind_eq_bind, Option.bind_eq_some_iff] at hpublished
  obtain ⟨item, hfound, response, hresponse, heq⟩ := hpublished
  cases heq
  obtain ⟨hmem, -, hkind⟩ := session.runtime_message_bus.mem_pending.mp (List.mem_of_find?_eq_some hfound)
  have hid' : item.message.message_id = approval_decision_message_id session.id request_id := by
    simpa using List.find?_some hfound
  rw [hid] at hresponse hid'
  rw [hbus] at hmem
  have hown := hsound.own item hmem (mem_singleton.mp hkind) response hresponse
  exact ⟨message_id_inj (hown.symm.trans hid'), item, hmem, mem_singleton.mp hkind, hresponse⟩

/-! ## What a call asks -/

/-- The calls whose decisions are on the bus, each under the own id of its request. -/
def ApprovalCall.Decides (session_id : String) : ApprovalCall → Prop
  | .publish message => OwnId session_id message
  | .submit_durable _ _ _ _ => False
  | _ => True

/-- The request a call of `submit` decides. -/
def ApprovalCall.submits : ApprovalCall → Option String
  | .submit request_id _ _ _ => some request_id
  | .submit_legacy request_id _ _ _ => some request_id
  | _ => none

abbrev ApprovalHistory : Type := History ApprovalQuery ApprovalQuery.Answer

def found (request_id : String) (decision : PublishedApprovalDecision) :
    (query : ApprovalQuery) × query.Answer :=
  ⟨.published_decision request_id, (some decision : Option PublishedApprovalDecision)⟩

def Asks (session_id : String) (history : ApprovalHistory) : ApprovalQuery → Prop
  | .apply_published_decision request_id decision => found request_id decision ∈ history
  | .publish message => OwnId session_id message
  | .respond _ => False
  | _ => True

def Found (request_id : String) (history : ApprovalHistory)
    (result : Except TurnError (Option ApprovalResponse)) : Prop :=
  ∀ response, result = .ok (some response) →
    ∃ decision, found request_id decision ∈ history ∧ decision.response = response

def Harmless : ApprovalQuery → Prop
  | .apply_published_decision _ _ => False
  | .publish _ => False
  | .respond _ => False
  | _ => True

variable {query : ApprovalQuery}

theorem Harmless.asks (h : Harmless query) (history : ApprovalHistory) :
    Asks session_id history query := by
  cases query <;> first | exact trivial | exact h.elim

abbrev MeetsAsks {α : Type} (session_id : String)
    (post : ApprovalHistory → Except TurnError α → Prop) (dialogue : ApprovalDialogue α)
    (history : ApprovalHistory) : Prop :=
  Dialogue.Meets (fun _ _ _ => True) (Asks session_id) post dialogue history

abbrev AlwaysHarmless {α : Type} (dialogue : ApprovalDialogue α) : Prop :=
  Always Harmless (fun _ => True) dialogue

section Calls

variable {α β : Type} {post : ApprovalHistory → Except TurnError β → Prop}
  {history : ApprovalHistory}

theorem harmless_ask {query : ApprovalQuery} {cast : query.Answer → Except TurnError α}
    (h : Harmless query) : AlwaysHarmless (ApprovalDialogue.ask query cast) :=
  ⟨h, fun _ => Always.lift (fun _ _ => trivial)⟩

theorem AlwaysHarmless.seq {dialogue : ApprovalDialogue α} {next : α → ApprovalDialogue β}
    (h : AlwaysHarmless dialogue) (hnext : ∀ value, AlwaysHarmless (next value)) :
    AlwaysHarmless (dialogue >>= next) :=
  Always.bind h (fun value _ => hnext value)

theorem harmless_pure (value : α) : AlwaysHarmless (pure value) := trivial

theorem harmless_fail (error : TurnError) : AlwaysHarmless (.fail error : ApprovalDialogue α) :=
  trivial

theorem AlwaysHarmless.meets_bind {dialogue : ApprovalDialogue α} {next : α → ApprovalDialogue β}
    (h : AlwaysHarmless dialogue)
    (hnext : ∀ later value, history <+: later → MeetsAsks session_id post (next value) later)
    (herror : ∀ later error, history <+: later → post later (.error error)) :
    MeetsAsks session_id post (dialogue >>= next) history :=
  Dialogue.Meets.bind (h.meets (fun later _ _ hquery => hquery.asks later)
    (fun later value hlater _ => hnext later value hlater) herror)

theorem AlwaysHarmless.meets {dialogue : ApprovalDialogue β} (h : AlwaysHarmless dialogue)
    (hpost : ∀ later result, history <+: later → post later result) :
    MeetsAsks session_id post dialogue history :=
  Always.meets h (fun later _ _ hquery => hquery.asks later)
    (fun later _ hlater _ => hpost later _ hlater) (fun later _ hlater => hpost later _ hlater)

theorem harmless_resolve (request_id status : String) (response : ApprovalResponse) :
    AlwaysHarmless (resolve_interaction request_id response status) := by
  unfold resolve_interaction
  split
  · exact trivial
  · exact harmless_ask (by trivial)

theorem harmless_session_approval (request : ApprovalRequest) :
    AlwaysHarmless (resolve_session_approval request) := by
  refine ⟨trivial, fun (approved : Bool) => ?_⟩
  cases approved with
  | false => exact harmless_pure _
  | true =>
    exact (harmless_ask (by trivial)).seq
      (fun _ => (harmless_resolve _ _ _).seq (fun _ => harmless_pure _))

theorem harmless_cleanup : AlwaysHarmless cleanup_after_wait :=
  (harmless_ask (by trivial)).seq (fun _ => harmless_ask (by trivial))

theorem harmless_finally {body : ApprovalDialogue α} (h : AlwaysHarmless body) :
    AlwaysHarmless (finally_cleanup body) := by
  have hhandled := Always.handle h
    (fun error => harmless_cleanup.seq (fun _ => harmless_fail (α := α) error))
  exact AlwaysHarmless.seq hhandled (fun _ => harmless_cleanup.seq (fun _ => harmless_pure _))

theorem harmless_wait (request_id : String) : AlwaysHarmless (wait_for_response request_id) := by
  refine ⟨trivial, fun start => ?_⟩
  cases start with
  | unknown => exact trivial
  | responded response => exact trivial
  | waiting number => exact harmless_ask (by trivial)

theorem harmless_timeout (request : ApprovalRequest) : AlwaysHarmless (resolve_timeout request) :=
  (harmless_resolve _ _ _).seq (fun _ => harmless_pure _)

theorem harmless_wait_response (request_id : String) (response : ApprovalResponse)
    (expose_response : Bool) :
    AlwaysHarmless (resolve_wait_response request_id response expose_response) := by
  unfold resolve_wait_response
  split
  · exact (harmless_ask (by trivial)).seq
      (fun _ => (harmless_ask (by trivial)).seq (fun _ => harmless_resolve _ _ _))
  · exact harmless_resolve _ _ _

theorem harmless_request_wait (request : ApprovalRequest) : AlwaysHarmless (finally_cleanup (do
      let response ← wait_for_response request.request_id
      answer_wait request response)) := by
  refine harmless_finally ((harmless_wait _).seq (fun response => ?_))
  cases response with
  | none => exact harmless_timeout request
  | some response => exact (harmless_wait_response _ _ _).seq (fun _ => harmless_pure _)

theorem harmless_http_wait (request : ApprovalRequest) :
    AlwaysHarmless (finally_cleanup (http_wait request)) := by
  refine harmless_finally ((harmless_wait _).seq (fun response => ?_))
  cases response with
  | none => exact harmless_pure _
  | some response => exact (harmless_wait_response _ _ _).seq (fun _ => harmless_pure _)

/-! ### The calls that find a decision -/

theorem Found.error (request_id : String) (history : ApprovalHistory) (error : TurnError) :
    Found request_id history (.error error) := fun _ h => by cases h

theorem Found.none (request_id : String) (history : ApprovalHistory) :
    Found request_id history (.ok none) := fun _ h => by cases h

theorem meets_apply {request_id : String} {decision : PublishedApprovalDecision}
    (hfound : found request_id decision ∈ history) :
    MeetsAsks session_id (Found request_id) (apply_decision request_id decision) history := by
  have hreturned : ∀ later, history <+: later →
      Found request_id later (.ok (some decision.response)) := by
    intro later hlater response heq
    cases heq
    exact ⟨decision, hlater.subset hfound, rfl⟩
  unfold apply_decision
  refine Dialogue.Meets.bind ⟨hfound, fun answer _ => Dialogue.Meets.lift ?_⟩
  cases answer with
  | error error => exact Found.error _ _ _
  | ok goes_on =>
    have hbegins : history <+: history
        ++ [⟨.apply_published_decision request_id decision, (.ok goes_on : Except _ _)⟩] :=
      prefix_append _ _
    cases goes_on with
    | false => exact Found.none _ _
    | true =>
      show MeetsAsks session_id (Found request_id) (ApprovalDialogue.ask .persist_session id
        >>= fun _ => _ >>= fun _ => pure (some decision.response)) _
      refine (harmless_ask (by trivial)).meets_bind (fun later _ hlater => ?_)
        (fun _ _ _ => Found.error _ _ _)
      refine (harmless_resolve _ _ _).meets_bind (fun later' _ hlater' => ?_)
        (fun _ _ _ => Found.error _ _ _)
      exact hreturned later' (hbegins.trans (hlater.trans hlater'))

theorem meets_submit_published {request_id : String} {decision : PublishedApprovalDecision}
    (hfound : found request_id decision ∈ history) :
    MeetsAsks session_id (Found request_id) (submit_published request_id decision) history := by
  have hreturned : ∀ later, history <+: later →
      Found request_id later (.ok (some decision.response)) := by
    intro later hlater response heq
    cases heq
    exact ⟨decision, hlater.subset hfound, rfl⟩
  unfold submit_published
  refine (harmless_ask (by trivial)).meets_bind (fun later result hlater => ?_)
    (fun _ _ _ => Found.error _ _ _)
  split
  · refine (harmless_ask (by trivial)).meets_bind (fun exposed _ hexposed => ?_)
      (fun _ _ _ => Found.error _ _ _)
    refine (harmless_ask (by trivial)).meets_bind (fun persisted _ hpersisted => ?_)
      (fun _ _ _ => Found.error _ _ _)
    refine (harmless_resolve _ _ _).meets_bind (fun resolved _ hresolved => ?_)
      (fun _ _ _ => Found.error _ _ _)
    exact hreturned resolved (hlater.trans (hexposed.trans (hpersisted.trans hresolved)))
  · split
    · exact (harmless_ask (by trivial)).meets_bind (fun _ _ _ => Found.none _ _)
        (fun _ _ _ => Found.error _ _ _)
    · exact Found.none _ _

theorem meets_submit (request_id : String) (approved : Bool) (feedback : Option String)
    (scope : ApprovalScope) :
    MeetsAsks session_id (Found request_id) (submit session_id request_id approved feedback scope)
      history := by
  refine ⟨trivial, fun published _ => ?_⟩
  cases published with
  | some decision => exact meets_apply (mem_append_right _ (mem_singleton_self _))
  | none =>
    refine ⟨trivial, fun known _ => ?_⟩
    cases known with
    | false => exact Found.none _ _
    | true =>
      refine ⟨ownId_submitted session_id request_id approved feedback scope, fun _ _ => ?_⟩
      refine ⟨trivial, fun reread _ => ?_⟩
      cases reread with
      | none => exact Found.error _ _ _
      | some decision =>
        exact meets_submit_published (mem_append_right _ (mem_singleton_self _))

theorem meets_begin_request (request : ApprovalRequest) :
    MeetsAsks session_id (Found request.request_id) (begin_request request) history := by
  unfold begin_request
  refine (harmless_ask (by trivial)).meets_bind (fun _ _ _ => ?_) (fun _ _ _ => Found.error _ _ _)
  refine (harmless_ask (by trivial)).meets_bind (fun _ _ _ => ?_) (fun _ _ _ => Found.error _ _ _)
  refine (harmless_ask (by trivial)).meets_bind (fun _ _ _ => ?_) (fun _ _ _ => Found.error _ _ _)
  refine ⟨trivial, fun published _ => ?_⟩
  cases published with
  | none => exact Found.none _ _
  | some decision => exact meets_apply (mem_append_right _ (mem_singleton_self _))

theorem meets_request_approval (request : ApprovalRequest) :
    MeetsAsks session_id (fun _ _ => True) (request_approval request) history := by
  unfold request_approval
  refine (harmless_session_approval request).meets_bind (fun _ response _ => ?_)
    (fun _ _ _ => trivial)
  cases response with
  | some response => exact trivial
  | none =>
    refine Dialogue.Meets.bind ((meets_begin_request request).imp (fun later result _ => ?_))
    cases result with
    | error error => exact trivial
    | ok response =>
      cases response with
      | some response => exact trivial
      | none =>
        exact ((harmless_ask (by trivial)).seq (fun _ =>
          (harmless_request_wait request).seq (fun _ => harmless_pure _))).meets
          (fun _ _ _ => trivial)

theorem meets_http_approval (request : ApprovalRequest) :
    MeetsAsks session_id (fun _ _ => True) (wait_for_http_approval request) history := by
  unfold wait_for_http_approval
  refine (harmless_ask (by trivial)).meets_bind (fun _ checked _ => ?_) (fun _ _ _ => trivial)
  cases checked with
  | some feedback => exact trivial
  | none =>
    refine (harmless_session_approval request).meets_bind (fun _ response _ => ?_)
      (fun _ _ _ => trivial)
    cases response with
    | some response => exact trivial
    | none =>
      refine Dialogue.Meets.bind ((meets_begin_request request).imp (fun later result _ => ?_))
      cases result with
      | error error => exact trivial
      | ok response =>
        cases response with
        | some response => exact trivial
        | none =>
          refine ((harmless_http_wait request).seq (fun waited => ?_)).meets
            (fun _ _ _ => trivial)
          cases waited with
          | some response => exact harmless_pure _
          | none => exact (harmless_timeout request).seq (fun _ => harmless_pure _)

theorem meets_submit_legacy (request_id : String) (approved : Bool) (feedback : Option String)
    (scope : ApprovalScope) :
    MeetsAsks session_id (Found request_id)
      (submit_legacy session_id request_id approved feedback scope) history := by
  unfold submit_legacy
  refine Dialogue.Meets.bind ((meets_submit request_id approved feedback scope).imp
    (fun later result hfound => ?_))
  cases result with
  | error error => exact Found.error _ _ _
  | ok response =>
    cases response with
    | none => exact Found.none _ _
    | some response =>
      refine (harmless_ask (by trivial)).meets_bind (fun appended _ happended => ?_)
        (fun _ _ _ => Found.error _ _ _)
      intro other heq
      cases heq
      obtain ⟨decision, hmem, hsame⟩ := hfound response rfl
      exact ⟨decision, happended.subset hmem, hsame⟩

end Calls

section

variable (session_id : String) (call : ApprovalCall)

def Guards (history : ApprovalHistory) (query : ApprovalQuery) : Prop :=
  call.Decides session_id → Asks session_id history query

/-- A call of `submit` returns what it found. -/
def Ends (history : ApprovalHistory) (result : Except TurnError (Option ApprovalResponse)) : Prop :=
  call.Decides session_id → ∀ request_id, call.submits = some request_id →
    Found request_id history result

theorem body_meets :
    Dialogue.Meets (fun _ _ _ => True) (Guards session_id call) (Ends session_id call)
      (call.body session_id) [] := by
  by_cases hdecides : call.Decides session_id
  · have hmeets {post : ApprovalHistory → Except TurnError (Option ApprovalResponse) → Prop}
        (h : MeetsAsks session_id post (call.body session_id) [])
        (hpost : ∀ history result, post history result → ∀ request_id,
          call.submits = some request_id → Found request_id history result) :
        Dialogue.Meets (fun _ _ _ => True) (Guards session_id call) (Ends session_id call)
          (call.body session_id) [] :=
      (h.imp (fun history result hend _ => hpost history result hend)).guard_imp
        (fun _ _ hasks _ => hasks)
    cases call with
    | request_approval request =>
      exact hmeets (meets_request_approval request) (fun _ _ _ _ h => by cases h)
    | wait_for_http_approval request =>
      exact hmeets (meets_http_approval request) (fun _ _ _ _ h => by cases h)
    | begin_request request =>
      exact hmeets (meets_begin_request request) (fun _ _ _ _ h => by cases h)
    | submit request_id approved feedback scope =>
      exact hmeets (meets_submit request_id approved feedback scope)
        (fun _ _ h _ heq => by cases heq; exact h)
    | submit_legacy request_id approved feedback scope =>
      exact hmeets (meets_submit_legacy request_id approved feedback scope)
        (fun _ _ h _ heq => by cases heq; exact h)
    | submit_durable request_id approved feedback scope => exact hdecides.elim
    | publish message =>
      have hpublish : MeetsAsks session_id (fun _ _ => True)
          ((ApprovalCall.publish message).body session_id) [] :=
        ⟨hdecides, fun _ _ => trivial⟩
      exact hmeets hpublish (fun _ _ _ _ h => by cases h)
    | add_request request =>
      have hadd : MeetsAsks session_id (fun _ _ => True)
          ((ApprovalCall.add_request request).body session_id) [] :=
        ((harmless_ask (by trivial)).seq (fun _ => harmless_pure _)).meets (fun _ _ _ => trivial)
      exact hmeets hadd (fun _ _ _ _ h => by cases h)
    | consume_for_session limit =>
      have hconsume : MeetsAsks session_id (fun _ _ => True)
          ((ApprovalCall.consume_for_session limit).body session_id) [] :=
        ((harmless_ask (by trivial)).seq (fun _ => harmless_pure _)).meets (fun _ _ _ => trivial)
      exact hmeets hconsume (fun _ _ _ _ h => by cases h)
  · exact (always_trivial (call.body session_id)).meets
      (fun _ _ _ _ h => absurd h hdecides) (fun _ _ _ _ h => absurd h hdecides)
      (fun _ _ _ h => absurd h hdecides)

end

/-! ## What the calls leave -/

def Allowed (session_id : String) (bus : InMemoryRuntimeMessageBus) : ApprovalQuery → Prop
  | .apply_published_decision _ decision => Decided session_id bus decision.response
  | .publish message => OwnId session_id message
  | .respond _ => False
  | _ => True

/-- What was found on the bus decides its request still. -/
def Told (session_id : String) (world : ApprovalWorld) :
    (query : ApprovalQuery) → query.Answer → Prop
  | .published_decision request_id, answer => ∀ decision,
      (answer : Option PublishedApprovalDecision) = some decision →
        decision.response.request_id = request_id
          ∧ Decided session_id world.session.runtime_message_bus decision.response
  | _, _ => True

def SoundWorld (session_id : String) (world : ApprovalWorld) : Prop :=
  SoundOn session_id world.session.runtime_message_bus world.session

/-- The world after an answer: its bus has what it had. -/
structure Moves (session_id : String) (world world' : ApprovalWorld) : Prop where
  sound : SoundWorld session_id world'
  decided : ∀ response, Decided session_id world.session.runtime_message_bus response →
    Decided session_id world'.session.runtime_message_bus response

variable {world : ApprovalWorld}

theorem Moves.rfl (h : SoundWorld session_id world) :
    Moves session_id world world := ⟨h, fun _ hdecided => hdecided⟩

theorem moves_act {α : Type} {action : ApprovalAction α} (h : SoundWorld session_id world)
    (hkeeps : Preserves (SoundOn session_id world.session.runtime_message_bus) action) :
    Moves session_id world (world.act action).2 := by
  have hfinal := hkeeps.final h
  have hbus : (world.act action).2.session.runtime_message_bus
      = world.session.runtime_message_bus := hfinal.2.1
  constructor
  · unfold SoundWorld
    rw [hbus]
    exact hfinal
  · rw [hbus]
    exact fun _ hdecided => hdecided

theorem moves_wait_over (h : SoundWorld session_id world) (request_id : String) :
    Moves session_id world (world.wait_over request_id) :=
  ⟨⟨h.1, rfl, h.2.2.removed request_id⟩, fun _ hdecided => hdecided⟩

theorem answers_moves {world world' : ApprovalWorld} {answer : query.Answer}
    (h : SoundWorld session_id world)
    (hallowed : Allowed session_id world.session.runtime_message_bus query)
    (hanswers : ApprovalWorld.Answers world query answer world') :
    Moves session_id world world' := by
  cases hanswers with
  | begin_approval_request => exact moves_act h (sound_begin _)
  | create =>
    unfold ApprovalWorld.created
    split
    · exact ⟨h, fun _ hdecided => hdecided⟩
    · exact Moves.rfl h
  | resolve =>
    unfold ApprovalWorld.resolved
    split
    · exact ⟨h, fun _ hdecided => hdecided⟩
    · exact Moves.rfl h
  | apply_published_decision => exact moves_act h (sound_apply _ hallowed)
  | publish hpublish =>
    obtain ⟨-, hmessages, -⟩ := world.session.runtime_message_bus.publish_eq_ok hpublish
    refine ⟨⟨h.1, rfl, h.2.2.publish hpublish hallowed⟩, fun response hdecided => ?_⟩
    obtain ⟨item, hitem, hdecides⟩ := hdecided
    refine ⟨item, ?_, hdecides⟩
    show item ∈ _
    rw [hmessages]
    exact mem_append_left _ hitem
  | consume_for_session => exact moves_act h (sound_consume _)
  | expose_approval_response => exact moves_act h (sound_expose _)
  | wait_unknown => exact ⟨⟨h.1, rfl, { h.2.2 with }⟩, fun _ hdecided => hdecided⟩
  | wait_responded => exact moves_wait_over h _
  | wait_woken => exact moves_wait_over h _
  | wait_expired => exact moves_wait_over h _
  | wait_cancelled => exact moves_wait_over h _
  | cleanup_approval_wait_projection => exact moves_act h sound_cleanup
  | respond => exact hallowed.elim
  | admit_new_runtime_command => exact ⟨h, fun _ hdecided => hdecided⟩
  | _ => exact Moves.rfl h

/-- What every run of the calls keeps. -/
structure Orderly (session_id : String) (crew : ApprovalCrew) : Prop where
  decides : ∀ pid caller, crew.callers pid = some caller → caller.call.Decides session_id
  sound : SoundWorld session_id crew.shared
  told : Crew.Remembers (Told session_id) crew
  follows : Crew.Follows (Guards session_id) (Ends session_id) crew

theorem told_moves {world world' : ApprovalWorld} (h : Moves session_id world world')
    {answer : query.Answer} (htold : Told session_id world query answer) :
    Told session_id world' query answer := by
  cases query with
  | published_decision request_id =>
    intro decision heq
    obtain ⟨hrequest, hdecided⟩ := htold decision heq
    exact ⟨hrequest, h.decided _ hdecided⟩
  | _ => exact trivial

theorem told_answer {world world' : ApprovalWorld} {answer : query.Answer}
    (h : SoundWorld session_id world) (hanswers : ApprovalWorld.Answers world query answer world') :
    Told session_id world' query answer := by
  cases hanswers with
  | published_decision =>
    intro decision heq
    exact published_decides h heq
  | _ => exact trivial

theorem allowed_of_asks {history : ApprovalHistory} (hasks : Asks session_id history query)
    (htold : ∀ answer ∈ history, Told session_id world answer.1 answer.2) :
    Allowed session_id world.session.runtime_message_bus query := by
  cases query with
  | apply_published_decision request_id decision => exact (htold _ hasks decision rfl).2
  | publish message => exact hasks
  | respond response => exact hasks
  | _ => exact trivial

theorem Orderly.step {crew crew' : ApprovalCrew} {event : ApprovalEvent}
    (h : Orderly session_id crew) (hstep : ApprovalStep session_id crew event crew')
    (hstarts : ∀ pid call, event = .started pid call → call.Decides session_id) :
    Orderly session_id crew' := by
  have hmoves : Moves session_id crew.shared crew'.shared := by
    cases hstep with
    | started => exact Moves.rfl h.sound
    | @answered pid call history query resume answer shared waiting answered =>
      have hasks := (h.follows pid _ waiting).1 (h.decides pid _ waiting)
      exact answers_moves h.sound (allowed_of_asks hasks (h.told pid _ waiting)) answered
    | elsewhere moved => exact moved.elim
  constructor
  · intro other caller hcaller
    cases hstep with
    | @started pid call free =>
      rw [Crew.resumed_callers] at hcaller
      split at hcaller
      · cases hcaller
        exact hstarts pid call rfl
      · exact h.decides other caller hcaller
    | @answered pid call history query resume answer shared waiting _ =>
      rw [Crew.resumed_callers] at hcaller
      split at hcaller
      · cases hcaller
        exact h.decides pid ⟨call, .ask query resume, history⟩ waiting
      · exact h.decides other caller hcaller
    | elsewhere moved => exact moved.elim
  · exact hmoves.sound
  · refine h.told.step ?_ ?_ hstep
    · intro pid call history query answer before after heq
      subst heq
      cases hstep with
      | answered waiting answered => exact told_answer h.sound answered
    · intro before after haccess query answer htold
      have hshared := hstep.shared
      rw [haccess] at hshared
      obtain ⟨rfl, rfl⟩ := hshared
      exact told_moves hmoves htold
  · exact h.follows.step (body_meets session_id) hstep

theorem Orderly.run {start crew : ApprovalCrew} {events : List ApprovalEvent}
    (h : Orderly session_id start) (hrun : Run (ApprovalStep session_id) start events crew)
    (hcalls : ∀ pid call, .started pid call ∈ events → call.Decides session_id) :
    Orderly session_id crew := by
  induction hrun with
  | refl => exact h
  | snoc _ hstep ih =>
    refine (ih (fun pid call hmem => hcalls pid call (mem_append_left _ hmem))).step hstep ?_
    rintro pid call rfl
    exact hcalls pid call (mem_append_right _ (mem_singleton_self _))

/-! ## Applying a decision -/

def ApprovalSession.response_of (session : ApprovalSession) (request_id : String) :
    Option ApprovalResponse :=
  (session.approval_coordinator.pending.row request_id).bind
    (fun pending => session.approval_coordinator.responses.row pending.number)

def ApprovalSession.Waits (session : ApprovalSession) (request_id : String) : Prop :=
  ∃ pending, session.approval_coordinator.pending.row request_id = some pending
    ∧ session.approval_coordinator.responses.row pending.number = none

def give (session : ApprovalSession) (item : SequencedRuntimeMessage) : ApprovalSession :=
  match item.response session.id with
  | none => session
  | some response => (ApprovalSession.respond response session).2

section Give

variable {session : ApprovalSession} {request_id : String} {response : ApprovalResponse}

theorem respond_waits (h : session.Waits response.request_id) :
    (ApprovalSession.respond response session).2.response_of response.request_id
      = some response := by
  obtain ⟨pending, hrow, hnone⟩ := h
  have hresponded : session.approval_coordinator.respond response
      = (true, session.approval_coordinator.recorded pending response) := by
    unfold ApprovalCoordinator.respond
    rw [hrow]
    dsimp only
    rw [hnone]
    rfl
  unfold ApprovalSession.response_of ApprovalSession.respond
  rw [hresponded]
  show ((session.approval_coordinator.recorded pending response).pending.row _).bind _ = _
  rw [recorded_pending, hrow, Option.bind_some,
    recorded_responses, row_put_self]

theorem respond_other (hsound : Sound session_id bus session.approval_coordinator)
    (hother : response.request_id ≠ request_id) :
    (ApprovalSession.respond response session).2.approval_coordinator.pending.row request_id
        = session.approval_coordinator.pending.row request_id
      ∧ (ApprovalSession.respond response session).2.response_of request_id
        = session.response_of request_id := by
  unfold ApprovalSession.response_of ApprovalSession.respond ApprovalCoordinator.respond
  cases hrow : session.approval_coordinator.pending.row response.request_id with
  | none => exact ⟨rfl, rfl⟩
  | some pending =>
    dsimp only
    split
    · exact ⟨rfl, rfl⟩
    · rw [recorded_pending, recorded_responses]
      refine ⟨rfl, ?_⟩
      cases hmine : session.approval_coordinator.pending.row request_id with
      | none => rfl
      | some mine =>
        rw [Option.bind_some, Option.bind_some]
        refine row_put_of_ne _ _ (fun heq => ?_)
        exact hother (hsound.distinct _ _ _ _ hrow hmine heq.symm)

theorem respond_answered {given : ApprovalResponse}
    (hsound : Sound session_id bus session.approval_coordinator)
    (h : session.response_of request_id = some given) :
    (ApprovalSession.respond response session).2.response_of request_id = some given := by
  by_cases hother : response.request_id = request_id
  · obtain ⟨pending, hrow, hgiven⟩ := Option.bind_eq_some_iff.mp h
    have hkept : session.approval_coordinator.respond response
        = (false, session.approval_coordinator) := by
      unfold ApprovalCoordinator.respond
      rw [hother, hrow]
      dsimp only
      rw [hgiven]
      rfl
    unfold ApprovalSession.respond
    rw [hkept]
    exact h
  · rw [(respond_other hsound hother).2]
    exact h

theorem sound_give {item : SequencedRuntimeMessage} (h : SoundOn session_id bus session)
    (hitem : item ∈ bus.messages ∧ item.message.kind = .APPROVAL_DECISION) :
    SoundOn session_id bus (give session item) := by
  unfold give
  split
  · exact h
  · next response hresponse =>
    rw [h.1] at hresponse
    exact (sound_respond ⟨item, hitem.1, hitem.2, hresponse⟩).final h

theorem give_decides {items : List SequencedRuntimeMessage} (h : SoundOn session_id bus session)
    (hitems : ∀ item ∈ items, item ∈ bus.messages ∧ item.message.kind = .APPROVAL_DECISION)
    (honly : ∀ item ∈ items, ∀ other, item.response session_id = some other →
      other.request_id = response.request_id → other = response)
    (hstate : session.response_of response.request_id = some response
      ∨ session.Waits response.request_id
        ∧ ∃ item ∈ items, item.response session_id = some response) :
    (items.foldl give session).response_of response.request_id = some response := by
  induction items generalizing session with
  | nil =>
    rcases hstate with hgiven | ⟨-, item, hmem, -⟩
    · exact hgiven
    · cases hmem
  | cons item rest ih =>
    have hitem := hitems item mem_cons_self
    refine ih (sound_give h hitem) (fun other hother => hitems other (mem_cons_of_mem _ hother))
      (fun other hother => honly other (mem_cons_of_mem _ hother)) ?_
    unfold give
    rw [h.1]
    cases hresponse : item.response session_id with
    | none =>
      -- the decision is further back
      refine hstate.imp_right (fun hwaits => ⟨hwaits.1, ?_⟩)
      obtain ⟨other, hmem, hother⟩ := hwaits.2
      rcases mem_cons.mp hmem with rfl | hmem
      · exact absurd (hresponse.symm.trans hother) (by simp)
      · exact ⟨other, hmem, hother⟩
    | some given =>
      dsimp only
      rcases hstate with hgiven | ⟨hwaits, other, hmem, hother⟩
      · exact .inl (respond_answered h.2.2 hgiven)
      · by_cases hsame : given.request_id = response.request_id
        · obtain rfl := honly item mem_cons_self given hresponse hsame
          exact .inl (respond_waits hwaits)
        · obtain ⟨hrow, hresponses⟩ := respond_other h.2.2 hsame
          refine .inr ⟨?_, ?_⟩
          · obtain ⟨pending, hpending, hnone⟩ := hwaits
            refine ⟨pending, hrow.trans hpending, ?_⟩
            have hbind : ∀ state : ApprovalSession,
                state.approval_coordinator.pending.row response.request_id = some pending →
                state.response_of response.request_id
                  = state.approval_coordinator.responses.row pending.number := by
              intro state hstate
              unfold ApprovalSession.response_of
              rw [hstate, Option.bind_some]
            rw [← hbind _ (hrow.trans hpending), hresponses, hbind _ hpending]
            exact hnone
          · rcases mem_cons.mp hmem with rfl | hmem
            · rw [hresponse] at hother
              cases hother
              exact absurd rfl hsame
            · exact ⟨other, hmem, hother⟩

theorem consume_decisions_run (items : List SequencedRuntimeMessage)
    (result : ApprovalDecisionConsumptionResult) (session : ApprovalSession) :
    ∃ consumed, consume_decisions items result session = (.ok consumed, items.foldl give session) := by
  induction items generalizing result session with
  | nil => exact ⟨result, rfl⟩
  | cons item rest ih =>
    have hitem : ∃ next, consume_decision result item session = (.ok next, give session item) := by
      unfold consume_decision give
      have hget : (Action.get : ApprovalAction ApprovalSession) session = (.ok session, session) :=
        rfl
      rw [bind_ok hget]
      cases item.response session.id with
      | none => exact ⟨_, rfl⟩
      | some response =>
        dsimp only
        split
        · next hnone =>
          refine ⟨result.deferred item, ?_⟩
          have hrow : session.approval_coordinator.pending.row response.request_id = none := by
            unfold get_request at hnone
            simpa using hnone
          have hsame : (ApprovalSession.respond response session).2 = session := by
            unfold ApprovalSession.respond ApprovalCoordinator.respond
            rw [hrow]
          rw [hsame]
          rfl
        · exact ⟨_, rfl⟩
    obtain ⟨next, hnext⟩ := hitem
    obtain ⟨consumed, hconsumed⟩ := ih next (give session item)
    refine ⟨consumed, ?_⟩
    show (consume_decision result item >>= fun next => consume_decisions rest next) session = _
    rw [bind_ok hnext]
    exact hconsumed

theorem consume_run (session : ApprovalSession) :
    (consume_for_session none session).2.approval_coordinator
      = ((session.runtime_message_bus.pending session.approval_decision_cursor
          [.APPROVAL_DECISION]).foldl give session).approval_coordinator := by
  generalize hbatch : batch_of
    (session.runtime_message_bus.pending session.approval_decision_cursor [.APPROVAL_DECISION])
    session.approval_decision_cursor = batch
  have hmessages : session.runtime_message_bus.pending session.approval_decision_cursor
      [.APPROVAL_DECISION] = batch.messages := by
    rw [← hbatch]
    rfl
  obtain ⟨consumed, hconsumed⟩ := consume_decisions_run batch.messages
    { cursor := session.approval_decision_cursor } session
  rw [hmessages]
  generalize batch.messages.foldl give session = given at hconsumed ⊢
  have hkept : Preserves (fun state : ApprovalSession =>
      state.approval_coordinator = given.approval_coordinator) (do
        Action.when (consumed.applied_request_ids ≠ [] ∨ consumed.deferred_message_ids = [])
          (Action.modify (fun session =>
            { session with approval_decision_cursor := consumed.cursor }))
        Action.when (consumed.applied_request_ids ≠ [])
          ApprovalSession.update_pending_approval_projection
        pure consumed : ApprovalAction ApprovalDecisionConsumptionResult) := by
    refine seq (Preserves.when (Preserves.modify (fun _ h => h))) (fun _ => ?_)
    refine seq (Preserves.when ?_) (fun _ => Preserves.pure)
    exact Preserves.get.seq (fun _ => Preserves.lift.seq (fun _ => Preserves.modify (fun _ h => h)))
  have hget : (Action.get : ApprovalAction ApprovalSession) session = (.ok session, session) := rfl
  have hlift : (Action.lift (.ok batch) : ApprovalAction RuntimeMessageBatch) session
      = (.ok batch, session) := rfl
  unfold consume_for_session
  rw [bind_ok hget, consume_after_unlimited, hbatch,
    bind_ok hlift, bind_ok hconsumed]
  have hself : given.approval_coordinator = given.approval_coordinator := rfl
  exact hkept.final hself

end Give

end CodingAgentLoop
