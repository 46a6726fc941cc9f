/-
A coordinator and its sinks (`agentkit/runtime/coordinator.py`, `_GuardedFrameSink`,
`_GuardedCommittedFactSink` and the places of `SegmentCoordinator.run` that call them).

The coordinator of `Segment.lean` runs here behind collaborators that deliver: a commit port whose
notices go to the committed-fact sink before the coordinator looks at anything else, and a model
adapter that emits frames while it generates. Both talk to the guarded sinks, objects with a state
of their own (`GuardedSinks`), and these talk to the sinks, which may raise at any call.

The guards answer every call with success, whatever the sink did, so a run with sinks makes the
calls of the run without (`served_hides`), and two runs whose collaborators answer alike make the
same calls and come to the same outcome.
-/
import CodingAgentLoop.DispatchHandover
import CodingAgentLoop.Lib.SideCalls

open Lib Dialogue

namespace CodingAgentLoop

open CommitResult List

/-! ## The guarded sinks -/

inductive StreamFrameKind where
  | TOKEN_DELTA
  | THINKING_DELTA
  | HEARTBEAT

/-- What a model adapter streams. -/
structure StreamFrame where
  frame_id : String
  kind : StreamFrameKind
  payload : JsonObject

structure DeliveryFailure where
  sink : String
  message : String

/-- A call of `FrameSink.emit` or `CommittedFactSink.emit`. -/
inductive SinkCall where
  | frame (frame : StreamFrame)
  | fact (notice : CommittedFactNotice)

abbrev SinkCall.Answer (_ : SinkCall) : Type := Except StoreError Unit

inductive GuardedCall where
  | emit (frame : StreamFrame)
  | emit_all (notices : List CommittedFactNotice)

abbrev GuardedCall.Answer (_ : GuardedCall) : Type := Except StoreError Unit

/-- The state of the two guards, and the failures they share. -/
structure GuardedSinks where
  frames_enabled : Bool := true
  facts_enabled : Bool := true
  delivery_failures : List DeliveryFailure := []

namespace GuardedSinks

variable {Q : Type} {A : Q → Type}

def frame_failed (sinks : GuardedSinks) (exc : StoreError) : GuardedSinks :=
  { sinks with
    frames_enabled := false
    delivery_failures := sinks.delivery_failures ++ [⟨"frame", exception_message exc⟩] }

def fact_failed (sinks : GuardedSinks) (exc : StoreError) : GuardedSinks :=
  { sinks with
    facts_enabled := false
    delivery_failures := sinks.delivery_failures ++ [⟨"committed_fact", exception_message exc⟩] }

abbrev Method (Q : Type) (A : Q → Type) :=
  Dialogue (Side Q SinkCall) (Side.Answer A SinkCall.Answer) StoreError
    (Except StoreError Unit × GuardedSinks)

def emit (frame : StreamFrame) (sinks : GuardedSinks) : Method Q A :=
  if sinks.frames_enabled then
    .ask (.side (.frame frame)) (fun told =>
      match told with
      | .ok _ => .done (.ok (), sinks)
      | .error exc => .done (.ok (), sinks.frame_failed exc))
  else .done (.ok (), sinks)

/-- The loop of `emit_all`: a failure disables the sink and ends it. -/
def emit_each : List CommittedFactNotice → GuardedSinks → Method Q A
  | [], sinks => .done (.ok (), sinks)
  | notice :: rest, sinks =>
    .ask (.side (.fact notice)) (fun told =>
      match told with
      | .ok _ => emit_each rest sinks
      | .error exc => .done (.ok (), sinks.fact_failed exc))

def emit_all (notices : List CommittedFactNotice) (sinks : GuardedSinks) : Method Q A :=
  if sinks.facts_enabled then emit_each notices sinks else .done (.ok (), sinks)

def method : (query : GuardedCall) → GuardedSinks → Method Q A
  | .emit frame, sinks => emit frame sinks
  | .emit_all notices, sinks => emit_all notices sinks

/-! A guard returns normally, whatever the sink does. -/

theorem emit_discreet (frame : StreamFrame) (sinks : GuardedSinks) :
    Discreet (.ok ()) (emit frame sinks : Method Q A) := by
  unfold emit
  split
  · intro told
    cases told with
    | ok _ => rfl
    | error exc => rfl
  · rfl

theorem emit_each_discreet (notices : List CommittedFactNotice) (sinks : GuardedSinks) :
    Discreet (.ok ()) (emit_each notices sinks : Method Q A) := by
  induction notices with
  | nil => rfl
  | cons notice rest ih =>
    intro told
    cases told with
    | ok _ => exact ih
    | error exc => rfl

theorem method_discreet (query : GuardedCall) (sinks : GuardedSinks) :
    Discreet (.ok ()) (method query sinks : Method Q A) := by
  cases query with
  | emit frame => exact emit_discreet frame sinks
  | emit_all notices =>
    show Discreet (.ok ()) (emit_all notices sinks : Method Q A)
    unfold emit_all
    split
    · exact emit_each_discreet notices sinks
    · rfl

end GuardedSinks

/-! ## The notices of a commit -/

/-- The notices of a commit that `_committed_result` accepts. -/
def CommitResult.accepted_notices (result : CommitResult) : List CommittedFactNotice :=
  match committed_result result with
  | .ok (.inl (_, notices)) => notices
  | _ => []

def CommitResult.authorized_notices : CommitResult → List CommittedFactNotice
  | .DispatchAuthorized _ _ notices _ => notices
  | _ => []

/-- The answer of an authorization is a permit that `_validate_dispatch_permit` rejects. -/
def CommitResult.refused (request : DispatchAuthorizationRequest) : CommitResult → Bool
  | .DispatchAuthorized _ permit _ _ =>
    !(validate_dispatch_permit permit request.session_id request.owner_epoch request.effect_plan
      request.proposal.transition_id).toBool
  | _ => false

def Segment.Fails (segment : Segment) : Prop :=
  ∃ state_version error steps_taken, segment = .ended (.Failed state_version error steps_taken)

/-! ## Collaborators that deliver -/

namespace Delivery

/-- A call of a collaborator of the coordinator, or a query the model adapter asks. -/
inductive CollaboratorCall (M : Type) where
  | call (call : CoordinatorCall)
  | model (query : M)

abbrev CollaboratorCall.Answer {M : Type} (A : M → Type) : CollaboratorCall M → Type
  | .call asked => asked.Answer
  | .model query => A query

/-- `ModelAdapter.generate` under `_generate`: any program that emits frames and asks queries of
its own, the provider's answers and the control it waits for among them. -/
abbrev ModelAdapter (M : Type) (A : M → Type) :=
  ModelRequest → ControlSnapshot →
    Dialogue (Side M StreamFrame) (Side.Answer A (fun _ => Except StoreError Unit)) StoreError
      (Option ModelGenerationResult ⊕ String)

section Delivering

variable {M : Type} {A : M → Type} {α : Type}

abbrev Delivering (A : M → Type) :=
  Dialogue (Side (CollaboratorCall M) GuardedCall)
    (Side.Answer (CollaboratorCall.Answer A) GuardedCall.Answer) StoreError

/-- The adapter is handed the guarded frame sink. -/
def streamed :
    Dialogue (Side M StreamFrame) (Side.Answer A (fun _ => Except StoreError Unit)) StoreError α →
      Delivering A α
  | .done value => .done value
  | .fail error => .fail error
  | .ask (.main query) resume => .ask (.main (.model query)) (fun told => streamed (resume told))
  | .ask (.side frame) resume => .ask (.side (.emit frame)) (fun told => streamed (resume told))

/-- `await guarded_facts.emit_all(notices)`. -/
def emit_all (notices : List CommittedFactNotice) : Delivering A Unit :=
  .ask (.side (.emit_all notices)) (fun told => lift told)

def called {β : Type} (call : CoordinatorCall) (read : call.Answer → Except StoreError β) :
    Delivering A β :=
  .ask (.main (.call call)) (fun told => lift (read told))

def delivered (call : CoordinatorCall) (read : call.Answer → Except StoreError CommitResult)
    (notices : CommitResult → List CommittedFactNotice) : Delivering A CommitResult := do
  let result ← called call read
  emit_all (notices result)
  return result

section

variable (adapter : ModelAdapter M A)

/-- The collaborators of a coordinator with sinks. The notices of a commit are emitted before the
coordinator goes on with its answer, which decides nothing in between; those of an authorization
when its permit is valid. -/
def delivering : SegmentHost (Side (CollaboratorCall M) GuardedCall)
      (Side.Answer (CollaboratorCall.Answer A) GuardedCall.Answer) where
  observe := called .observe id
  generate := fun request snapshot => streamed (adapter request snapshot)
  commit_transition := fun request =>
    delivered (.commit_transition request) id accepted_notices
  commit_settlement := fun request =>
    delivered (.commit_settlement request) id accepted_notices
  authorize_dispatch := fun request =>
    delivered (.authorize_dispatch request) id (fun result =>
      if result.refused request then [] else result.authorized_notices)
  commit_reconciliation := fun request => called (.commit_reconciliation request) id
  execute := fun permit => called (.execute permit) .ok

/-- One round of the coordinator, its sinks served by their guards. -/
def coordinate (point : Segment × GuardedSinks) :
    Dialogue (Side (CollaboratorCall M) SinkCall)
      (Side.Answer (CollaboratorCall.Answer A) SinkCall.Answer) StoreError
      (Segment × GuardedSinks) :=
  serve GuardedSinks.method (Segment.advance (delivering adapter) point.1) point.2

def coordinate_silently (segment : Segment) :
    Dialogue (CollaboratorCall M) (CollaboratorCall.Answer A) StoreError Segment :=
  mute (fun _ => .ok ()) (Segment.advance (delivering adapter) segment)

theorem coordinate_hides (point : Segment × GuardedSinks)
    (segment : Segment) (h : point.1 = segment) :
    Hides (fun served value => served.1 = value) (coordinate adapter point)
      (coordinate_silently adapter segment) := by
  subst h
  exact served_hides (fun query sinks => GuardedSinks.method_discreet query sinks) _ point.2

end

/-! ## Notices and facts -/

/-- What the coordinator has asked, of its collaborators and of the guards. -/
abbrev GuardedHistory (A : M → Type) :=
  History (Side (CollaboratorCall M) GuardedCall)
    (Side.Answer (CollaboratorCall.Answer A) GuardedCall.Answer)

/-- What the coordinator has asked of its collaborators, and the guards of the sinks. -/
abbrev SinkHistory (A : M → Type) :=
  History (Side (CollaboratorCall M) SinkCall)
    (Side.Answer (CollaboratorCall.Answer A) SinkCall.Answer)

abbrev CallHistory (A : M → Type) := History (CollaboratorCall M) (CollaboratorCall.Answer A)

def notices_of : (query : CollaboratorCall M) × CollaboratorCall.Answer A query →
    List CommittedFactNotice
  | ⟨.call (.commit_transition _), .ok result⟩ => result.accepted_notices
  | ⟨.call (.commit_settlement _), .ok result⟩ => result.accepted_notices
  | ⟨.call (.authorize_dispatch _), .ok result⟩ => result.authorized_notices
  | _ => []

def notices_committed (calls : CallHistory A) : List CommittedFactNotice :=
  calls.flatMap notices_of

/-- The call authorized a dispatch with a permit that is not the dispatch's. -/
def refuses : (query : CollaboratorCall M) × CollaboratorCall.Answer A query → Bool
  | ⟨.call (.authorize_dispatch request), .ok result⟩ => result.refused request
  | _ => false

/-- The notices that were handed to the guard of the committed-fact sink. -/
def notices_handed (history : GuardedHistory A) : List CommittedFactNotice :=
  history.flatMap (fun told =>
    match told with
    | ⟨.side (.emit_all notices), _⟩ => notices
    | _ => [])

/-- What the committed-fact sink was told, and whether it took it. -/
def facts_told (history : SinkHistory A) : List (CommittedFactNotice × Except StoreError Unit) :=
  history.filterMap (fun told =>
    match told with
    | ⟨.side (.fact notice), answer⟩ => some (notice, answer)
    | _ => none)

def Settled (history : GuardedHistory A) : Prop :=
  notices_handed history = notices_committed (mains history)

/-- The last call was refused, and every notice committed before it was handed over. -/
def Refused (history : GuardedHistory A) : Prop :=
  ∃ earlier last, mains history = earlier ++ [last] ∧ refuses last = true
    ∧ notices_handed history = notices_committed earlier

/-- The coordinator makes a call when everything is handed over, and hands over what it owes. -/
def Pays (history : GuardedHistory A) : Side (CollaboratorCall M) GuardedCall → Prop
  | .main _ => Settled history
  | .side (.emit _) => True
  | .side (.emit_all notices) =>
    notices_handed history ++ notices <+: notices_committed (mains history)

/-- Where a round ends: with everything handed over, or failed behind a refused authorization. -/
def Delivered (history : GuardedHistory A) : Except StoreError Segment → Prop
  | .ok segment => Settled history ∧ segment.Ready ∨ Refused history ∧ segment.Fails
  | .error _ => Settled history ∨ Refused history

def Delivers (dialogue : Delivering A Segment) : Prop :=
  ∀ history, Settled history → Meets (fun _ _ _ => True) Pays Delivered dialogue history

def Idles {β : Type} (dialogue : Delivering A β) : Prop :=
  ∀ history, Settled history →
    Meets (fun _ _ _ => True) Pays (fun later _ => Settled later) dialogue history

/-! What one more call does to the books. -/

theorem notices_committed_snoc (calls : CallHistory A)
    (last : (query : CollaboratorCall M) × CollaboratorCall.Answer A query) :
    notices_committed (calls ++ [last]) = notices_committed calls ++ notices_of last := by
  simp only [notices_committed, flatMap_append, flatMap_singleton]

theorem mains_snoc_main (history : GuardedHistory A) (query : CollaboratorCall M)
    (answer : CollaboratorCall.Answer A query) :
    mains (history ++ [⟨.main query, answer⟩]) = mains history ++ [⟨query, answer⟩] := by
  rw [mains_append]
  rfl

theorem mains_snoc_side (history : GuardedHistory A) (query : GuardedCall)
    (answer : query.Answer) : mains (history ++ [⟨.side query, answer⟩]) = mains history := by
  rw [mains_append]
  exact append_nil _

theorem notices_handed_snoc_main (history : GuardedHistory A) (query : CollaboratorCall M)
    (answer : CollaboratorCall.Answer A query) :
    notices_handed (history ++ [⟨.main query, answer⟩]) = notices_handed history := by
  simp only [notices_handed, flatMap_append, flatMap_singleton]
  exact append_nil _

theorem notices_handed_snoc_emit_all (history : GuardedHistory A)
    (notices : List CommittedFactNotice) (answer : Except StoreError Unit) :
    notices_handed (history ++ [⟨.side (.emit_all notices), answer⟩])
      = notices_handed history ++ notices := by
  simp only [notices_handed, flatMap_append, flatMap_singleton]

variable {history : GuardedHistory A}

theorem Settled.called (h : Settled history) {query : CollaboratorCall M}
    {answer : CollaboratorCall.Answer A query} (hnone : notices_of ⟨query, answer⟩ = []) :
    Settled (history ++ [⟨.main query, answer⟩]) := by
  rw [Settled, notices_handed_snoc_main, mains_snoc_main, notices_committed_snoc, hnone,
    append_nil]
  exact h

theorem Settled.streamed (h : Settled history) (frame : StreamFrame)
    (answer : Except StoreError Unit) : Settled (history ++ [⟨.side (.emit frame), answer⟩]) := by
  have hhanded : notices_handed (history ++ [⟨.side (.emit frame), answer⟩])
      = notices_handed history := by
    simp only [notices_handed, flatMap_append, flatMap_singleton]
    exact append_nil _
  rw [Settled, hhanded, mains_snoc_side]
  exact h

theorem pays_all {notices : List CommittedFactNotice}
    (h : notices_handed history ++ notices = notices_committed (mains history)) :
    Pays history (.side (.emit_all notices)) :=
  ⟨[], by rw [append_nil, h]⟩

/-! ## What the parts of a round hand over -/

theorem Idles.idle_bind {β γ : Type} {first : Delivering A β} {next : β → Delivering A γ}
    (hfirst : Idles first) (hnext : ∀ value, Idles (next value)) : Idles (first >>= next) := by
  refine fun history hsettled => Meets.bind ((hfirst history hsettled).imp (fun later result h => ?_))
  match result with
  | .ok value => exact hnext value later h
  | .error error => exact h

theorem Idles.done {β : Type} (value : β) : Idles (.done value : Delivering A β) :=
  fun _ hsettled => hsettled

variable {β : Type}

theorem Idles.handle {handler : StoreError → Delivering A β} {body : Delivering A β}
    (hbody : Idles body) (hhandler : ∀ error, Idles (handler error)) :
    Idles (Dialogue.handle handler body) := by
  refine fun history hsettled => Meets.handle ((hbody history hsettled).imp (fun later result h => ?_))
  match result with
  | .ok value => exact h
  | .error error => exact hhandler error later h

theorem Idles.bind {first : Delivering A β} {next : β → Delivering A Segment}
    (hfirst : Idles first) (hnext : ∀ value, Delivers (next value)) :
    Delivers (first >>= next) := by
  refine fun history hsettled => Meets.bind ((hfirst history hsettled).imp (fun later result h => ?_))
  match result with
  | .ok value => exact hnext value later h
  | .error error => exact .inl h

theorem Idles.lift (result : Except StoreError β) : Idles (A := A) (lift result : Delivering A β) :=
  fun _ hsettled => Meets.lift hsettled

theorem Delivers.done {segment : Segment} (h : segment.Ready) :
    Delivers (.done segment : Delivering A Segment) :=
  fun _ hsettled => .inl ⟨hsettled, h⟩

theorem Delivers.lift_bind {result : Except StoreError β} {next : β → Delivering A Segment}
    (h : ∀ value, result = .ok value → Delivers (next value)) :
    Delivers (lift result >>= next) := by
  cases result with
  | ok value => exact h value rfl
  | error error => exact fun _ hsettled => .inl hsettled

theorem Delivered.guarded {frame : Frame} {body : Delivering A Segment}
    (h : Meets (fun _ _ _ => True) Pays Delivered body history) :
    Meets (fun _ _ _ => True) Pays Delivered (Segment.guarded frame body) history := by
  refine Meets.handle (h.imp (fun later result hend => ?_))
  match result with
  | .ok segment => exact hend
  | .error error =>
    rcases hend with hsettled | hrefused
    · exact .inl ⟨hsettled, trivial⟩
    · exact .inr ⟨hrefused, _, _, _, rfl⟩

theorem Delivers.guarded {frame : Frame} {body : Delivering A Segment} (h : Delivers body) :
    Delivers (Segment.guarded frame body) :=
  fun history hsettled => Delivered.guarded (h history hsettled)

/-! The collaborators. -/

theorem called_idles {call : CoordinatorCall} {read : call.Answer → Except StoreError β}
    (hnone : ∀ answer, notices_of (A := A) ⟨.call call, answer⟩ = []) :
    Idles (A := A) (called call read) :=
  fun _ hsettled => ⟨hsettled, fun answer _ => Meets.lift (hsettled.called (hnone answer))⟩

theorem delivered_idles {call : CoordinatorCall}
    {read : call.Answer → Except StoreError CommitResult}
    {notices : CommitResult → List CommittedFactNotice}
    (hok : ∀ answer result, read answer = .ok result →
      notices_of (A := A) ⟨.call call, answer⟩ = notices result)
    (herror : ∀ answer error, read answer = .error error →
      notices_of (A := A) ⟨.call call, answer⟩ = []) :
    Idles (A := A) (delivered call read notices) := by
  intro history hsettled
  refine Meets.bind ⟨hsettled, fun answer _ => Meets.lift ?_⟩
  cases hread : read answer with
  | error error => exact hsettled.called (herror answer error hread)
  | ok result =>
    have howed : notices_handed (history ++ [⟨.main (.call call), answer⟩]) ++ notices result
        = notices_committed (mains (history ++ [⟨.main (.call call), answer⟩])) := by
      rw [notices_handed_snoc_main, mains_snoc_main, notices_committed_snoc,
        hok answer result hread, hsettled]
    refine Meets.bind ⟨pays_all howed, fun told _ => Meets.lift ?_⟩
    have hpaid : Settled (history ++ [⟨.main (.call call), answer⟩]
        ++ [⟨.side (.emit_all (notices result)), told⟩]) := by
      rw [Settled, notices_handed_snoc_emit_all, mains_snoc_side]
      exact howed
    cases told with
    | ok _ => exact hpaid
    | error error => exact hpaid

/-- Where an authorization ends: everything is handed over, unless its permit is refused. -/
def Authorized (request : DispatchAuthorizationRequest) (history : GuardedHistory A) :
    Except StoreError CommitResult → Prop
  | .ok result => result.refused request = false ∧ Settled history
      ∨ result.refused request = true ∧ Refused history
  | .error _ => Settled history ∨ Refused history

theorem authorize_meets (adapter : ModelAdapter M A) (request : DispatchAuthorizationRequest)
    (hsettled : Settled history) :
    Meets (fun _ _ _ => True) Pays (Authorized request)
      ((delivering adapter).authorize_dispatch request) history := by
  refine Meets.bind ⟨hsettled, fun answer _ => Meets.lift ?_⟩
  cases answer with
  | error error => exact .inl (hsettled.called rfl)
  | ok result =>
    dsimp only [id]
    split
    · -- the permit is refused: its notices stay behind
      next hrefused =>
      have hnone : notices_handed (history
          ++ [⟨.main (.call (.authorize_dispatch request)), .ok result⟩]) ++ []
          <+: notices_committed (mains (history
            ++ [⟨.main (.call (.authorize_dispatch request)), .ok result⟩])) := by
        rw [append_nil, notices_handed_snoc_main, mains_snoc_main, notices_committed_snoc,
          hsettled]
        exact prefix_append _ _
      refine Meets.bind ⟨hnone, fun told _ => Meets.lift ?_⟩
      have hlast : Refused (history
          ++ [⟨.main (.call (.authorize_dispatch request)), .ok result⟩]
          ++ [⟨.side (.emit_all []), told⟩]) := by
        refine ⟨mains history, ⟨.call (.authorize_dispatch request), .ok result⟩, ?_, hrefused, ?_⟩
        · rw [mains_snoc_side, mains_snoc_main]
        · rw [notices_handed_snoc_emit_all, append_nil, notices_handed_snoc_main]
          exact hsettled
      cases told with
      | ok _ => exact .inr ⟨hrefused, hlast⟩
      | error error => exact .inr hlast
    · next hvalid =>
      have howed : notices_handed (history
          ++ [⟨.main (.call (.authorize_dispatch request)), .ok result⟩])
            ++ result.authorized_notices
          = notices_committed (mains (history
            ++ [⟨.main (.call (.authorize_dispatch request)), .ok result⟩])) := by
        rw [notices_handed_snoc_main, mains_snoc_main, notices_committed_snoc, hsettled]
        rfl
      refine Meets.bind ⟨pays_all howed, fun told _ => Meets.lift ?_⟩
      have hpaid : Settled (history
          ++ [⟨.main (.call (.authorize_dispatch request)), .ok result⟩]
          ++ [⟨.side (.emit_all result.authorized_notices), told⟩]) := by
        rw [Settled, notices_handed_snoc_emit_all, mains_snoc_side]
        exact howed
      cases told with
      | ok _ => exact .inl ⟨Bool.eq_false_iff.mpr hvalid, hpaid⟩
      | error error => exact .inl hpaid

theorem streamed_idles (dialogue : Dialogue (Side M StreamFrame)
    (Side.Answer A (fun _ => Except StoreError Unit)) StoreError β) :
    Idles (streamed dialogue : Delivering A β) := by
  induction dialogue with
  | done value => exact fun _ hsettled => hsettled
  | fail error => exact fun _ hsettled => hsettled
  | ask query resume ih =>
    intro history hsettled
    cases query with
    | main query =>
      exact ⟨hsettled, fun answer _ => ih answer _ (hsettled.called rfl)⟩
    | side frame => exact ⟨trivial, fun answer _ => ih answer _ (hsettled.streamed frame answer)⟩

section Rounds

variable (adapter : ModelAdapter M A)

theorem observe_idles : Idles (delivering adapter).observe :=
  called_idles (fun _ => rfl)

theorem commit_transition_idles (request : CommitTransitionRequest) :
    Idles ((delivering adapter).commit_transition request) := by
  refine delivered_idles (fun answer result hread => ?_) (fun answer error hread => ?_)
  · cases hread
    rfl
  · cases hread
    rfl

theorem commit_settlement_idles (request : CommitSettlementRequest) :
    Idles ((delivering adapter).commit_settlement request) := by
  refine delivered_idles (fun answer result hread => ?_) (fun answer error hread => ?_)
  · cases hread
    rfl
  · cases hread
    rfl

variable {adapter} {frame : Frame}

theorem unless_raised_delivers {next : ControlSnapshot → Delivering A Segment}
    (h : ∀ snapshot, Delivers (next snapshot)) :
    Delivers (Segment.unless_raised (delivering adapter) frame next) := by
  refine (observe_idles adapter).bind (fun snapshot => ?_)
  cases hraised : snapshot.raised with
  | some reason => exact Delivers.done trivial
  | none => exact h snapshot

theorem execute_effect_idles (permit : DispatchPermit) :
    Idles (Segment.execute_effect (delivering adapter) permit) := by
  have hexecute : Idles ((delivering adapter).execute permit) := called_idles (fun _ => rfl)
  refine (hexecute.handle (fun error => Idles.done _)).idle_bind (fun outcome => ?_)
  match outcome with
  | .returned _ => exact Idles.done _
  | .cancelled => exact (Idles.lift _).idle_bind (fun _ => Idles.done _)
  | .raised _ => exact (Idles.lift _).idle_bind (fun _ => Idles.done _)

theorem execution_result_idles (permit : DispatchPermit) :
    Idles (Segment.execution_result (delivering adapter) permit) := by
  refine (observe_idles adapter).idle_bind (fun snapshot => ?_)
  cases hraised : snapshot.raised with
  | some reason => exact (Idles.lift _).idle_bind (fun _ => Idles.done _)
  | none => exact (Idles.lift _).idle_bind (fun claimed => execute_effect_idles claimed)

theorem dispatch_delivers (authorization : Authorization) (permit : DispatchPermit) :
    Delivers (Segment.dispatch (delivering adapter) frame authorization permit) := by
  refine Delivers.lift_bind (fun _ _ => (execution_result_idles permit).bind (fun result => ?_))
  exact Delivers.lift_bind (fun settlement _ => Delivers.done trivial)

theorem dispatch_refused {authorization : Authorization} {permit : DispatchPermit}
    {history : GuardedHistory A} (hrefused : Refused history)
    (hpermit : (validate_dispatch_permit permit frame.request.session_id frame.request.owner_epoch
      authorization.plan authorization.request.proposal.transition_id).toBool = false) :
    Meets (fun _ _ _ => True) Pays Delivered
      (Segment.dispatch (delivering adapter) frame authorization permit) history := by
  refine Meets.bind (Meets.lift ?_)
  cases hvalid : validate_dispatch_permit permit frame.request.session_id
      frame.request.owner_epoch authorization.plan
      authorization.request.proposal.transition_id with
  | ok _ =>
    rw [hvalid] at hpermit
    cases hpermit
  | error error => exact .inr hrefused

theorem rejected_delivers (result : CommitResult) :
    Delivers (Segment.rejected frame result : Delivering A Segment) := by
  refine Delivers.lift_bind (fun failure _ => ?_)
  match failure with
  | (_, _) => exact Delivers.done trivial

theorem Authorized.settled {request : DispatchAuthorizationRequest} {history : GuardedHistory A}
    {result : CommitResult} (h : Authorized request history (.ok result))
    (hvalid : result.refused request = false) : Settled history := by
  rcases h with ⟨-, hpaid⟩ | ⟨hrefused, -⟩
  · exact hpaid
  · rw [hvalid] at hrefused
    cases hrefused

theorem authorize_delivers {authorization : Authorization}
    (hready : (Segment.authorizing frame authorization).Ready) :
    Delivers (Segment.authorize (delivering adapter) frame authorization) := by
  obtain ⟨hsession, hepoch, hplan⟩ := hready
  intro history hsettled
  refine Delivered.guarded (Meets.bind ((authorize_meets adapter authorization.request
    hsettled).imp (fun later result hauthorized => ?_)))
  match result with
  | .error error => exact hauthorized
  | .ok (.DispatchAuthorized state_version permit notices receipt) =>
    refine Delivered.guarded ?_
    rcases hauthorized with ⟨-, hpaid⟩ | ⟨hrefused, hlast⟩
    · exact dispatch_delivers authorization permit later hpaid
    · refine dispatch_refused hlast ?_
      simp only [refused, Bool.not_eq_true', hsession, hepoch, hplan] at hrefused
      exact hrefused
  | .ok (.StaleMailboxCut expected current) =>
    refine unless_raised_delivers (fun snapshot => ?_) later (hauthorized.settled rfl)
    exact Delivers.done (show Segment.Ready (.authorizing _ _) from ⟨hsession, hepoch, hplan⟩)
  | .ok (.Committed _ _ _) => exact rejected_delivers _ later (hauthorized.settled rfl)
  | .ok (.ExactReplay _ _) => exact rejected_delivers _ later (hauthorized.settled rfl)
  | .ok (.CASConflict _) => exact rejected_delivers _ later (hauthorized.settled rfl)
  | .ok (.StaleOwner _ _) => exact rejected_delivers _ later (hauthorized.settled rfl)
  | .ok (.InvalidTransition _ _) => exact rejected_delivers _ later (hauthorized.settled rfl)
  | .ok (.StorageFailure _) => exact rejected_delivers _ later (hauthorized.settled rfl)

theorem generate_delivers (request : ModelRequest) :
    Delivers (Segment.generate (delivering adapter) frame request) := by
  unfold Segment.generate
  split
  · exact Delivers.done trivial
  · refine unless_raised_delivers (fun snapshot => ?_)
    refine (streamed_idles (adapter request snapshot)).bind (fun outcome => ?_)
    match outcome with
    | .inr reason => exact Delivers.done trivial
    | .inl none => exact fun _ hsettled => .inl hsettled
    | .inl (some result) =>
      dsimp only [Segment.generated]
      split
      · exact Delivers.done trivial
      · exact Delivers.done trivial

section

variable (proposal : TransitionProposal)

theorem prepare_dispatch_delivers (plan : EffectPlan)
    (action_kind : PreparedEffectActionKind) (approval : Option ApprovalSettlement)
    (defer_commit : Bool) :
    Delivers (Segment.prepare_dispatch (delivering adapter) frame proposal plan action_kind approval
      defer_commit) := by
  cases action_kind with
  | APPROVAL_WAIT => exact Delivers.lift_bind (fun _ _ => Delivers.done trivial)
  | DISPATCH =>
    refine unless_raised_delivers (fun _ => Delivers.lift_bind (fun request hrequest => ?_))
    exact Delivers.done (show Segment.Ready (.authorizing _ _) from
      Segment.authorization_request_names hrequest)

theorem act_delivers (approval : Option ApprovalSettlement) (defer_commit : Bool) :
    Delivers (Segment.act (delivering adapter) frame proposal approval defer_commit) := by
  unfold Segment.act
  split
  · exact Delivers.done trivial
  · exact Delivers.done trivial
  · exact Delivers.done trivial
  · exact generate_delivers _
  · exact prepare_dispatch_delivers _ _ _ _ _

theorem committed_delivers (state_version : OperationStateVersion)
    (approval : Option ApprovalSettlement) :
    Delivers (Segment.committed (delivering adapter) frame proposal state_version approval) := by
  refine Delivers.guarded ?_
  split
  · split
    · exact Delivers.done trivial
    · exact unless_raised_delivers (fun _ => act_delivers _ _ _)
  · exact unless_raised_delivers (fun _ => act_delivers _ _ _)
  · exact act_delivers _ _ _

section

variable (approval : Option ApprovalSettlement)

theorem answered_delivers (result : CommitResult) :
    Delivers (Segment.answered (delivering adapter) frame proposal approval result) := by
  unfold Segment.answered
  split
  · exact Delivers.done trivial
  · refine Delivers.lift_bind (fun answer _ => ?_)
    match answer with
    | .inl (state_version, _) => exact committed_delivers _ _ _
    | .inr (_, _) => exact Delivers.done trivial

theorem commit_transition_delivers :
    Delivers (Segment.commit_transition (delivering adapter) frame proposal approval) :=
  Delivers.lift_bind (fun request _ =>
    (commit_transition_idles adapter request).bind (fun result => answered_delivers _ _ result))

theorem commit_settlement_delivers (settlement : Settlement) :
    Delivers (Segment.commit_settlement (delivering adapter) frame proposal approval settlement) := by
  unfold Segment.commit_settlement
  split
  · exact commit_transition_delivers proposal approval
  · refine Delivers.lift_bind (fun request _ => ?_)
    exact (commit_settlement_idles adapter request).bind (fun result => answered_delivers _ _ result)

end

end

/-- **A round hands over what it commits**, before the next call and before it ends. -/
theorem round_delivers : Delivers (Segment.round (delivering adapter) frame) := by
  refine Delivers.guarded ?_
  split
  · refine Delivers.lift_bind (fun _ _ => Delivers.lift_bind (fun proposal _ => ?_))
    dsimp only
    split
    · exact act_delivers _ _ _
    · exact commit_settlement_delivers _ _ _
  · refine unless_raised_delivers (fun _ => Delivers.lift_bind (fun proposal _ => ?_))
    exact unless_raised_delivers (fun _ => commit_transition_delivers _ _)

theorem advance_meets {segment : Segment} {history : GuardedHistory A}
    (h : Delivered history (.ok segment)) :
    Meets (fun _ _ _ => True) Pays Delivered (Segment.advance (delivering adapter) segment)
      history := by
  rcases h with ⟨hsettled, hready⟩ | ⟨hrefused, state_version, error, steps_taken, rfl⟩
  · cases segment with
    | looping frame => exact round_delivers history hsettled
    | authorizing frame authorization => exact authorize_delivers hready history hsettled
    | reconciling frame => exact hready.elim
    | ended outcome => exact .inl ⟨hsettled, trivial⟩
    | cancelled => exact .inl ⟨hsettled, trivial⟩
  · exact .inr ⟨hrefused, _, _, _, rfl⟩

end Rounds

/-! ## What the sinks are told -/

def Taken (history : SinkHistory A) : Prop :=
  ∀ told ∈ facts_told history, told.2 = .ok ()

def Cut (history : SinkHistory A) : Prop :=
  ∃ earlier notice error, facts_told history = earlier ++ [(notice, .error error)]
    ∧ ∀ told ∈ earlier, told.2 = .ok ()

def told_notices (history : SinkHistory A) : List CommittedFactNotice :=
  (facts_told history).map Prod.fst

/-- The sink is told what comes next, while it takes everything. -/
def Tells (history : SinkHistory A) : Side (CollaboratorCall M) SinkCall → Prop
  | .main _ => True
  | .side (.frame _) => True
  | .side (.fact notice) =>
    Taken history ∧ told_notices history ++ [notice] <+: notices_committed (mains history)

/-- What the sink was told of the notices that were handed to its guard. -/
def ToldOf (sinks : GuardedSinks) (history : SinkHistory A)
    (handed : List CommittedFactNotice) : Prop :=
  (sinks.facts_enabled = true ∧ Taken history ∧ told_notices history = handed)
    ∨ (sinks.facts_enabled = false ∧ Cut history ∧ told_notices history <+: handed)

/-- The guards pass on what they were handed. -/
structure Reported (sinks : GuardedSinks) (outer : GuardedHistory A) (inner : SinkHistory A) :
    Prop where
  calls : mains inner = mains outer
  handed : notices_handed outer <+: notices_committed (mains outer)
  told : ToldOf sinks inner (notices_handed outer)

theorem facts_told_snoc_fact (history : SinkHistory A) (notice : CommittedFactNotice)
    (answer : Except StoreError Unit) :
    facts_told (history ++ [⟨.side (.fact notice), answer⟩])
      = facts_told history ++ [(notice, answer)] := by
  simp only [facts_told, filterMap_append]
  rfl

theorem facts_told_snoc_frame (history : SinkHistory A) (frame : StreamFrame)
    (answer : Except StoreError Unit) :
    facts_told (history ++ [⟨.side (.frame frame), answer⟩]) = facts_told history := by
  simp only [facts_told, filterMap_append]
  exact append_nil _

theorem facts_told_snoc_main (history : SinkHistory A) (query : CollaboratorCall M)
    (answer : CollaboratorCall.Answer A query) :
    facts_told (history ++ [⟨.main query, answer⟩]) = facts_told history := by
  simp only [facts_told, filterMap_append]
  exact append_nil _

theorem sink_mains_snoc_side (history : SinkHistory A) (query : SinkCall)
    (answer : query.Answer) : mains (history ++ [⟨.side query, answer⟩]) = mains history := by
  rw [mains_append]
  exact append_nil _

theorem sink_mains_snoc_main (history : SinkHistory A) (query : CollaboratorCall M)
    (answer : CollaboratorCall.Answer A query) :
    mains (history ++ [⟨.main query, answer⟩]) = mains history ++ [⟨query, answer⟩] := by
  rw [mains_append]
  rfl

theorem notices_committed_prefix (earlier later : SinkHistory A) :
    notices_committed (mains earlier) <+: notices_committed (mains (earlier ++ later)) := by
  rw [mains_append, notices_committed, notices_committed, flatMap_append]
  exact prefix_append _ _

theorem Taken.snoc {history : SinkHistory A} (h : Taken history) (notice : CommittedFactNotice) :
    Taken (history ++ [⟨.side (.fact notice), .ok ()⟩]) := by
  intro told htold
  rw [facts_told_snoc_fact] at htold
  rcases mem_snoc htold with hearlier | hlast
  · exact h told hearlier
  · rw [hlast]

theorem Taken.cut {history : SinkHistory A} (h : Taken history) (notice : CommittedFactNotice)
    (error : StoreError) : Cut (history ++ [⟨.side (.fact notice), .error error⟩]) :=
  ⟨_, notice, error, facts_told_snoc_fact history notice _, h⟩

theorem told_notices_snoc (history : SinkHistory A) (notice : CommittedFactNotice)
    (answer : Except StoreError Unit) :
    told_notices (history ++ [⟨.side (.fact notice), answer⟩])
      = told_notices history ++ [notice] := by
  simp only [told_notices, facts_told_snoc_fact, map_append, map_cons, map_nil]

/-- Where a call of the guard leads: it has made no other calls, and the sink was told of the
notices. -/
def Emitted (handed : List CommittedFactNotice) (start : CallHistory A) (later : SinkHistory A) :
    Except StoreError (Except StoreError Unit × GuardedSinks) → Prop
  | .ok (_, sinks) => mains later = start ∧ ToldOf sinks later handed
  | .error _ => False

variable {sinks : GuardedSinks}

theorem emit_each_meets {notices handed : List CommittedFactNotice} {history : SinkHistory A}
    (henabled : sinks.facts_enabled = true) (htaken : Taken history)
    (htold : told_notices history ++ notices = handed)
    (hhanded : handed <+: notices_committed (mains history)) :
    Meets (fun _ _ _ => True) Tells (Emitted handed (mains history))
      (GuardedSinks.emit_each notices sinks) history := by
  induction notices generalizing history with
  | nil =>
    rw [append_nil] at htold
    exact ⟨rfl, .inl ⟨henabled, htaken, htold⟩⟩
  | cons notice rest ih =>
    have hnext : told_notices history ++ [notice] <+: handed :=
      ⟨rest, by rw [← htold, append_assoc, singleton_append]⟩
    refine ⟨⟨htaken, hnext.trans hhanded⟩, fun answer _ => ?_⟩
    have hcalls := sink_mains_snoc_side history (.fact notice) answer
    cases answer with
    | ok _ =>
      rw [← hcalls]
      refine ih (htaken.snoc notice) ?_ (hcalls ▸ hhanded)
      rw [told_notices_snoc, append_assoc, singleton_append]
      exact htold
    | error error =>
      refine ⟨hcalls, .inr ⟨rfl, htaken.cut notice error, ?_⟩⟩
      rw [told_notices_snoc]
      exact hnext

theorem notices_handed_snoc_emit (history : GuardedHistory A) (frame : StreamFrame)
    (answer : Except StoreError Unit) :
    notices_handed (history ++ [⟨.side (.emit frame), answer⟩]) = notices_handed history := by
  simp only [notices_handed, flatMap_append, flatMap_singleton]
  exact append_nil _

variable {outer : GuardedHistory A}

theorem Reported.framed {inner inner' : SinkHistory A} (h : Reported sinks outer inner)
    (sinks' : GuardedSinks) (hsinks : sinks'.facts_enabled = sinks.facts_enabled)
    (hcalls : mains inner' = mains inner) (htold : facts_told inner' = facts_told inner)
    (frame : StreamFrame) (answer : Except StoreError Unit) :
    Reported sinks' (outer ++ [⟨.side (.emit frame), answer⟩]) inner' := by
  refine ⟨?_, ?_, ?_⟩
  · rw [hcalls, mains_snoc_side, h.calls]
  · rw [notices_handed_snoc_emit, mains_snoc_side]
    exact h.handed
  · have htold' := h.told
    simp only [ToldOf, Taken, Cut, told_notices, notices_handed_snoc_emit, hsinks, htold] at htold' ⊢
    exact htold'

theorem emit_keeps {inner : SinkHistory A} (h : Reported sinks outer inner) (frame : StreamFrame) :
    Meets (fun _ _ _ => True) Tells (SideEnd (Reported (A := A)) outer (q := .emit frame))
      (GuardedSinks.emit frame sinks) inner := by
  unfold GuardedSinks.emit
  split
  · refine ⟨trivial, fun answer _ => ?_⟩
    have hcalls := sink_mains_snoc_side inner (.frame frame) answer
    have htold := facts_told_snoc_frame inner frame answer
    cases answer with
    | ok _ => exact h.framed sinks rfl hcalls htold frame _
    | error error => exact h.framed (sinks.frame_failed error) rfl hcalls htold frame (.ok ())
  · exact h.framed sinks rfl rfl rfl frame _

/-- The notices that are handed to the guard are told, as far as the sink takes them. -/
theorem emit_all_keeps {inner : SinkHistory A} (h : Reported sinks outer inner)
    {notices : List CommittedFactNotice} (hpays : Pays outer (.side (.emit_all notices))) :
    Meets (fun _ _ _ => True) Tells (SideEnd (Reported (A := A)) outer (q := .emit_all notices))
      (GuardedSinks.emit_all notices sinks) inner := by
  have hreports {sinks' : GuardedSinks} {later : SinkHistory A} (answer : Except StoreError Unit)
      (hcalls : mains later = mains inner)
      (htold : ToldOf sinks' later (notices_handed outer ++ notices)) :
      Reported sinks' (outer ++ [⟨.side (.emit_all notices), answer⟩]) later := by
    refine ⟨?_, ?_, ?_⟩
    · rw [hcalls, mains_snoc_side, h.calls]
    · rw [notices_handed_snoc_emit_all, mains_snoc_side]
      exact hpays
    · rw [notices_handed_snoc_emit_all]
      exact htold
  unfold GuardedSinks.emit_all
  rcases h.told with ⟨henabled, htaken, htold⟩ | ⟨hdisabled, hcut, hstart⟩
  · rw [if_pos henabled]
    have hhanded : notices_handed outer ++ notices <+: notices_committed (mains inner) := by
      rw [h.calls]
      exact hpays
    refine (emit_each_meets henabled htaken (by rw [htold]) hhanded).imp
      (fun later result hemitted => ?_)
    match result with
    | .ok (answer, sinks') => exact hreports answer hemitted.1 hemitted.2
    | .error error => exact hemitted
  · rw [if_neg (by rw [hdisabled]; exact Bool.false_ne_true)]
    exact hreports _ rfl (.inr ⟨hdisabled, hcut, hstart.trans (prefix_append _ _)⟩)

/-- **The guards keep their books.** -/
theorem guards_keep : Keeps GuardedSinks.method (Reported (A := A)) Pays Tells where
  asks := fun _ _ _ _ _ _ => trivial
  main := by
    intro sinks outer inner query answer hreported _
    refine ⟨?_, ?_, ?_⟩
    · rw [sink_mains_snoc_main, mains_snoc_main, hreported.calls]
    · rw [notices_handed_snoc_main, mains_snoc_main, notices_committed_snoc]
      exact hreported.handed.trans (prefix_append _ _)
    · have htold := hreported.told
      simp only [ToldOf, Taken, Cut, told_notices, notices_handed_snoc_main,
        facts_told_snoc_main] at htold ⊢
      exact htold
  side := by
    intro sinks outer inner query hreported hpays
    cases query with
    | emit frame => exact emit_keeps hreported frame
    | emit_all notices => exact emit_all_keeps hreported hpays

/-! ## Runs -/

/-- A run of `SegmentCoordinator.run(request, ...)` with sinks: the calls it made, those of the
collaborators answered by `world` and those of the sinks in any way, and where it stands. -/
def DeliveryRun (adapter : ModelAdapter M A)
    (world : CallHistory A → (query : CollaboratorCall M) → CollaboratorCall.Answer A query)
    (request : RunSegmentRequest) (history : SinkHistory A)
    (rest : Dialogue (Side (CollaboratorCall M) SinkCall)
      (Side.Answer (CollaboratorCall.Answer A) SinkCall.Answer) StoreError
      (Segment × GuardedSinks)) : Prop :=
  ∃ segment steps, Segment.run request = .ok segment
    ∧ RunWhere (LoopStep (coordinate adapter)) (MainAnswered world) (.done (segment, {})) steps rest
    ∧ steps.reduceOption = history

variable {adapter : ModelAdapter M A}
  {world : CallHistory A → (query : CollaboratorCall M) → CollaboratorCall.Answer A query}
  {request : RunSegmentRequest} {history : SinkHistory A}
  {rest : Dialogue (Side (CollaboratorCall M) SinkCall)
    (Side.Answer (CollaboratorCall.Answer A) SinkCall.Answer) StoreError (Segment × GuardedSinks)}

theorem run_served {segment : Segment} (hstart : Segment.run request = .ok segment) :
    Meets (fun _ _ _ => True) Tells (Served (Reported (A := A)) Delivered)
      (.done (segment, {})) [] := by
  have hready : segment.Ready := by
    simp only [Segment.run, Result.bind_eq_ok, Result.pure_eq_ok] at hstart
    obtain ⟨cut, -, rfl⟩ := hstart
    trivial
  refine ⟨[], ⟨rfl, nil_prefix, .inl ⟨rfl, ?_, rfl⟩⟩, .inl ⟨rfl, hready⟩⟩
  exact fun told htold => by cases htold

theorem coordinate_meets {history : SinkHistory A} {point : Segment × GuardedSinks}
    (h : Served (Reported (A := A)) Delivered history (.ok point)) :
    Meets (fun _ _ _ => True) Tells (Served Reported Delivered) (coordinate adapter point)
      history := by
  obtain ⟨outer, hreported, hdelivered⟩ := h
  exact guards_keep.serve_meets (advance_meets hdelivered) hreported

theorem DeliveryRun.tells (hrun : DeliveryRun adapter world request history rest)
    {earlier later : SinkHistory A} {query : Side (CollaboratorCall M) SinkCall}
    {answer : Side.Answer (CollaboratorCall.Answer A) SinkCall.Answer query}
    (hsplit : history = earlier ++ ⟨query, answer⟩ :: later) : Tells earlier query := by
  obtain ⟨segment, steps, hstart, hsteps, hhistory⟩ := hrun
  rw [hsplit] at hhistory
  have hasked := loop_asked (fun history point h => coordinate_meets h) (run_served hstart)
    hsteps.run hhistory
  exact hasked

theorem DeliveryRun.served {point : Segment × GuardedSinks}
    (hrun : DeliveryRun adapter world request history (.done point)) :
    Served (Reported (A := A)) Delivered history (.ok point) := by
  obtain ⟨segment, steps, hstart, hsteps, rfl⟩ := hrun
  exact loop_meets (fun history point h => coordinate_meets h) (run_served hstart) hsteps.run

/-- What the sink is told is a prefix of what is committed, and only the last emit may fail. -/
theorem DeliveryRun.in_order (hrun : DeliveryRun adapter world request history rest) :
    told_notices history <+: notices_committed (mains history)
      ∧ ∀ told ∈ (facts_told history).dropLast, told.2 = .ok () := by
  rcases eq_nil_or_concat (facts_told history) with hnone | ⟨before, last, hlast⟩
  · rw [told_notices, hnone]
    exact ⟨List.nil_prefix, fun told htold => by cases htold⟩
  · -- the last notice was told behind the others, when these were the ones that come before it
    rw [concat_eq_append] at hlast
    obtain ⟨first, others, rfl, hfirst, hothers⟩ := filterMap_eq_append_iff.mp hlast
    obtain ⟨silent, told, later, rfl, hsilent, htold, hlater⟩ :=
      filterMap_eq_cons_iff.mp hothers
    obtain ⟨query, answer⟩ := told
    have hbefore : facts_told (first ++ silent) = before := by
      rw [facts_told, filterMap_append, hfirst, filterMap_eq_nil_iff.mpr hsilent,
        append_nil]
    have htells := hrun.tells (append_assoc first silent _).symm
    match query with
    | .main _ => cases htold
    | .side (.frame _) => cases htold
    | .side (.fact notice) =>
      cases htold
      obtain ⟨htaken, hstart⟩ := htells
      rw [told_notices, hbefore] at hstart
      rw [told_notices, hlast, map_append, dropLast_concat]
      refine ⟨hstart.trans ?_, fun told hmem => htaken told (hbefore ▸ hmem)⟩
      rw [← append_assoc]
      exact notices_committed_prefix _ _

/-- **Between two rounds, a sink that took everything has been told everything**, unless the run
failed at a refused permit. -/
theorem DeliveryRun.complete {segment : Segment}
    (hrun : DeliveryRun adapter world request history (.done (segment, sinks)))
    (htaken : Taken history) :
    told_notices history = notices_committed (mains history)
      ∨ segment.Fails ∧ ∃ earlier last, mains history = earlier ++ [last]
        ∧ refuses last = true ∧ told_notices history = notices_committed earlier := by
  obtain ⟨outer, hreported, hdelivered⟩ := hrun.served
  have htold : told_notices history = notices_handed outer := by
    rcases hreported.told with ⟨-, -, htold⟩ | ⟨-, ⟨earlier, notice, error, hcut, -⟩, -⟩
    · exact htold
    · have hlast := htaken (notice, .error error)
        (by rw [hcut]; exact mem_append_right _ mem_cons_self)
      cases hlast
  rw [hreported.calls, htold]
  rcases hdelivered with ⟨hsettled, -⟩ | ⟨hrefused, hfails⟩
  · exact .inl hsettled
  · exact .inr ⟨hfails, hrefused⟩

end Delivering

end Delivery

/-- The segment returned, or raised `CancelledError`. -/
def Segment.Over : Segment → Prop
  | .ended _ => True
  | .cancelled => True
  | _ => False

namespace Delivery

section Claim

variable {M : Type} {A : M → Type} {adapter : ModelAdapter M A}
  {world : CallHistory A → (query : CollaboratorCall M) → CollaboratorCall.Answer A query}
  {request : RunSegmentRequest}

theorem coordinate_silently_over {segment : Segment} (hover : segment.Over) :
    coordinate_silently adapter segment = .done segment := by
  cases segment with
  | ended _ => rfl
  | cancelled => rfl
  | looping _ => exact hover.elim
  | authorizing _ _ => exact hover.elim
  | reconciling _ => exact hover.elim

/-- **Two runs with different sinks make the same calls and end alike.** -/
theorem same_calls {history history' : SinkHistory A} {segment segment' : Segment}
    {sinks sinks' : GuardedSinks}
    (hrun : DeliveryRun adapter world request history (.done (segment, sinks)))
    (hrun' : DeliveryRun adapter world request history' (.done (segment', sinks')))
    (hover : segment.Over) (hover' : segment'.Over) :
    mains history = mains history' ∧ segment = segment' := by
  obtain ⟨start, steps, hstart, hsteps, rfl⟩ := hrun
  obtain ⟨start', steps', hstart', hsteps', rfl⟩ := hrun'
  obtain rfl : start = start' := by
    rw [hstart] at hstart'
    exact Except.ok.inj hstart'
  have hrests {point : Segment × GuardedSinks} (h : point.1.Over) (result : Segment)
      (hagree : point.1 = result) : coordinate_silently adapter result = .done result :=
    hagree ▸ coordinate_silently_over h
  obtain ⟨hcalls, result, hend, hend'⟩ := Hides.agree_end (coordinate_hides adapter)
    (.done rfl) (.done rfl) hsteps hsteps' (hrests hover) (hrests hover')
  exact ⟨hcalls, hend.trans hend'.symm⟩

/-- **Sinks do not influence a run.** Two runs that are over, of one request, with collaborators
that answer alike and with sinks that take or refuse whatever they like, make the same calls and
come to the same outcome; in every run, the committed-fact sink is told a prefix of the notices
that were committed, in their order, and nothing behind the first emit that fails; and where none
failed, it was told them all, unless the run failed at a permit that is not its dispatch's. -/
theorem sinks_do_not_influence {history : SinkHistory A}
    {rest : Dialogue (Side (CollaboratorCall M) SinkCall)
      (Side.Answer (CollaboratorCall.Answer A) SinkCall.Answer) StoreError
      (Segment × GuardedSinks)}
    (hrun : DeliveryRun adapter world request history rest) :
    (∀ segment sinks history' segment' sinks', rest = .done (segment, sinks) → segment.Over →
        DeliveryRun adapter world request history' (.done (segment', sinks')) → segment'.Over →
        mains history = mains history' ∧ segment = segment')
      ∧ told_notices history <+: notices_committed (mains history)
      ∧ (∀ told ∈ (facts_told history).dropLast, told.2 = .ok ())
      ∧ (∀ segment sinks, rest = .done (segment, sinks) → Taken history →
          told_notices history = notices_committed (mains history)
            ∨ segment.Fails ∧ ∃ earlier last, mains history = earlier ++ [last]
              ∧ refuses last = true ∧ told_notices history = notices_committed earlier) := by
  refine ⟨?_, hrun.in_order.1, hrun.in_order.2, ?_⟩
  · rintro segment sinks history' segment' sinks' rfl hover hrun' hover'
    exact same_calls hrun hrun' hover hover'
  · rintro segment sinks rfl htaken
    exact hrun.complete htaken

end Claim

/-! ## Samples -/

def sample_notice : CommittedFactNotice where
  fact_id := "f"
  fact_kind := "effect_dispatched"
  payload := []

def sample_adapter : ModelAdapter Unit (fun _ => Unit) := fun _ _ =>
  .ask (.side ⟨"frame", .TOKEN_DELTA, []⟩) (fun _ => .done (.inr "interrupted"))

section

variable (permit : DispatchPermit)

def sample_collaborators : (call : CoordinatorCall) → call.Answer
  | .authorize_dispatch _ =>
    .ok (.DispatchAuthorized sample_reconciled_state permit [sample_notice]
      { session_id := "s"
        projection_epoch := 0
        transition_id := "t1:dispatch:e:a"
        mutation_fingerprint := "f"
        state_version := sample_reconciled_state
        facts := [sample_notice] })
  | .observe => .ok { generation := 0 }
  | .generate _ _ => .ok (.inr "interrupted")
  | .commit_transition _ => .ok (.StorageFailure ⟨"unavailable", "unavailable"⟩)
  | .commit_settlement _ => .ok (.StorageFailure ⟨"unavailable", "unavailable"⟩)
  | .commit_reconciliation _ => .ok (.StorageFailure ⟨"unavailable", "unavailable"⟩)
  | .execute _ => .returned (.completed (.str "done"))

def sample_world (_ : CallHistory (fun _ : Unit => Unit)) :
    (query : CollaboratorCall Unit) → CollaboratorCall.Answer (fun _ => Unit) query
  | .call asked => sample_collaborators permit asked
  | .model _ => ()

def sample_delivery_reply : (query : Side (CollaboratorCall Unit) SinkCall) →
      Side.Answer (CollaboratorCall.Answer (fun _ => Unit)) SinkCall.Answer query
  | .main query => sample_world permit [] query
  | .side _ => .ok ()

def sample_delivery :=
  let reply := some (sample_delivery_reply permit)
  match Segment.run sample_segment_request with
  | .ok segment =>
    loop_play (coordinate sample_adapter) (.done (segment, {}))
      [none, reply, none, reply, reply, reply, reply, none, reply, none]
  | .error error => ([], .fail error)

theorem sample_delivery_run :
    DeliveryRun sample_adapter (sample_world permit) sample_segment_request
      (sample_delivery permit).1.reduceOption (sample_delivery permit).2 := by
  refine ⟨_, _, rfl, RunWhere.of_run (loop_play_run _ _ _) ?_, rfl⟩
  intro step hstep earlier rest query answer heq
  subst heq
  have hreplies := loop_play_replies (sample_delivery_reply permit) ?_ _ hstep
  · exact hreplies
  · intro input hinput other hother
    subst hother
    simpa using hinput

end

/-- The sink of the sample run is told the notice of its authorization. -/
theorem sample_notice_told :
    told_notices (sample_delivery sample_permit).1.reduceOption = [sample_notice]
      ∧ told_notices (sample_delivery sample_permit).1.reduceOption
          <+: notices_committed (mains (sample_delivery sample_permit).1.reduceOption) :=
  ⟨by decide +kernel, (sinks_do_not_influence (sample_delivery_run sample_permit)).2.1⟩

def other_permit : DispatchPermit := { sample_permit with session_id := "other" }

/-- The run is over, the sink took everything, and it was not told what was committed. -/
def leaves_notices (history : SinkHistory (fun _ : Unit => Unit))
    (rest : Dialogue (Side (CollaboratorCall Unit) SinkCall)
      (Side.Answer (CollaboratorCall.Answer (fun _ => Unit)) SinkCall.Answer) StoreError
      (Segment × GuardedSinks)) : Bool :=
  match rest with
  | .done (.ended _, _) =>
    (facts_told history).isEmpty && notices_committed (mains history) == [sample_notice]
  | _ => false

/-- **A refused permit cuts the facts too.** A port may authorize a dispatch with a permit of
another session: the coordinator rejects it, and the notices of that commit are told to nobody. -/
theorem refused_permit_cuts_facts : ¬ ∀ (adapter : ModelAdapter Unit (fun _ => Unit))
      (world : CallHistory (fun _ => Unit) → (query : CollaboratorCall Unit) →
        CollaboratorCall.Answer (fun _ => Unit) query)
      (request : RunSegmentRequest) (history : SinkHistory (fun _ => Unit)) (segment : Segment)
      (sinks : GuardedSinks),
      DeliveryRun adapter world request history (.done (segment, sinks)) → segment.Over →
      Taken history → told_notices history = notices_committed (mains history) := by
  intro hall
  have hleaves : leaves_notices (sample_delivery other_permit).1.reduceOption
      (sample_delivery other_permit).2 = true := by decide +kernel
  have hrun := sample_delivery_run other_permit
  generalize (sample_delivery other_permit).1.reduceOption = history at hleaves hrun
  generalize (sample_delivery other_permit).2 = rest at hleaves hrun
  unfold leaves_notices at hleaves
  split at hleaves
  · next outcome sinks =>
    obtain ⟨hnone, hcommitted⟩ := Bool.and_eq_true_iff.mp hleaves
    have hempty : facts_told history = [] := List.isEmpty_iff.mp hnone
    have htold := hall _ _ _ _ _ _ hrun trivial
      (fun told htold => by rw [hempty] at htold; cases htold)
    rw [told_notices, hempty, eq_of_beq hcommitted] at htold
    cases htold
  · cases hleaves

end Delivery

end CodingAgentLoop
