/-
A dispatched effect is handed over to its settlement.

Here a coordinator runs against any collaborators at all: `any_host` turns every call
into a query of its own, and whatever a call may return or raise can be its answer.
What a run has called so far is then a list, and the coordinator's duty a statement
about it: from an authorization with a matching permit on, and until the settlement of
that dispatch commits, the only calls are the ones that lead there.

`owed` reads off a history whether a settlement is due. `HandsOver` lists the calls
that are allowed while it is. The proof follows the rounds of the loop.
-/
import CodingAgentLoop.ControlFence

open Lib Dialogue

namespace CodingAgentLoop

open EffectSettlement List Result

/-! ## Any collaborators -/

inductive CoordinatorCall where
  | observe
  | generate (request : ModelRequest) (snapshot : ControlSnapshot)
  | commit_transition (request : CommitTransitionRequest)
  | commit_settlement (request : CommitSettlementRequest)
  | authorize_dispatch (request : DispatchAuthorizationRequest)
  | commit_reconciliation (request : CommitReconciliationRequest)
  | execute (permit : DispatchPermit)

/-- What a call returns, or the exception it raises. The executor may also be cancelled. -/
abbrev CoordinatorCall.Answer : CoordinatorCall → Type
  | .observe => Except StoreError ControlSnapshot
  | .generate _ _ => Except StoreError (Option ModelGenerationResult ⊕ String)
  | .commit_transition _ => Except StoreError CommitResult
  | .commit_settlement _ => Except StoreError CommitResult
  | .authorize_dispatch _ => Except StoreError CommitResult
  | .commit_reconciliation _ => Except StoreError CommitResult
  | .execute _ => Awaited EffectExecutionResult

abbrev AnsweredCall := (call : CoordinatorCall) × call.Answer

abbrev Coordination := Dialogue CoordinatorCall CoordinatorCall.Answer StoreError

/-- Any collaborators: each call is answered as it may be. -/
def any_host : SegmentHost CoordinatorCall CoordinatorCall.Answer where
  observe := Dialogue.await CoordinatorCall.observe >>= fun answer => lift answer
  generate := fun request snapshot =>
    Dialogue.await (CoordinatorCall.generate request snapshot) >>= fun answer => lift answer
  commit_transition := fun request =>
    Dialogue.await (CoordinatorCall.commit_transition request) >>= fun answer => lift answer
  commit_settlement := fun request =>
    Dialogue.await (CoordinatorCall.commit_settlement request) >>= fun answer => lift answer
  authorize_dispatch := fun request =>
    Dialogue.await (CoordinatorCall.authorize_dispatch request) >>= fun answer => lift answer
  commit_reconciliation := fun request =>
    Dialogue.await (CoordinatorCall.commit_reconciliation request) >>= fun answer => lift answer
  execute := fun permit => Dialogue.await (CoordinatorCall.execute permit)

/-- A run of `SegmentCoordinator.run(request)`: the calls it made, answered in any way, and where
it stands. -/
def CoordinatorRun (request : RunSegmentRequest) (calls : List AnsweredCall)
    (rest : Coordination Segment) : Prop :=
  ∃ segment steps, Segment.run request = .ok segment
    ∧ Run (LoopStep (Segment.advance any_host)) (.done segment) steps rest
    ∧ steps.reduceOption = calls

/-! ## The duty -/

/-- A dispatch: the authorization that was asked for and the permit it was answered with. -/
structure Dispatch where
  request : DispatchAuthorizationRequest
  permit : DispatchPermit

def Dispatch.Matches (dispatch : Dispatch) : Prop :=
  validate_dispatch_permit dispatch.permit dispatch.request.session_id
    dispatch.request.owner_epoch dispatch.request.effect_plan
    dispatch.request.proposal.transition_id = .ok ()

def CommitResult.commits : CommitResult → Bool
  | .Committed _ _ _ => true
  | .ExactReplay _ _ => true
  | _ => false

def CommitResult.conflicts : CommitResult → Bool
  | .CASConflict _ => true
  | _ => false

def AnsweredCall.commits : AnsweredCall → Bool
  | ⟨.commit_transition _, .ok result⟩ => result.commits
  | ⟨.commit_settlement _, .ok result⟩ => result.commits
  | _ => false

def AnsweredCall.conflicts : AnsweredCall → Bool
  | ⟨.commit_transition _, .ok result⟩ => result.conflicts
  | ⟨.commit_settlement _, .ok result⟩ => result.conflicts
  | _ => false

/-- The calls by which a permit is executed, with what the execution counts as. Only an executor
that returned makes its own result of it. -/
inductive Executed (permit : DispatchPermit) : List AnsweredCall → EffectExecutionResult → Prop
  | controlled {snapshot : ControlSnapshot} {reason : String} (hraised : snapshot.raised = some reason) :
      Executed permit [⟨.observe, .ok snapshot⟩]
        (.indeterminate "control_after_dispatch" reason none)
  | returned {snapshot : ControlSnapshot} {claimed : DispatchPermit} (hraised : snapshot.raised = none)
      (hclaimed : permit.claim = .ok claimed) (result : EffectExecutionResult) :
      Executed permit [⟨.observe, .ok snapshot⟩, ⟨.execute claimed, .returned result⟩] result
  | cancelled {snapshot : ControlSnapshot} {claimed : DispatchPermit} (hraised : snapshot.raised = none)
      (hclaimed : permit.claim = .ok claimed) :
      Executed permit [⟨.observe, .ok snapshot⟩, ⟨.execute claimed, .cancelled⟩]
        (.indeterminate "effect_executor_cancelled" "effect executor cancelled after dispatch" none)
  | raised {snapshot : ControlSnapshot} {claimed : DispatchPermit} (hraised : snapshot.raised = none)
      (hclaimed : permit.claim = .ok claimed) (error : StoreError) :
      Executed permit [⟨.observe, .ok snapshot⟩, ⟨.execute claimed, .raised error⟩]
        (.indeterminate "effect_executor_error" (exception_message error) none)

/-- `settlement` settles the dispatch, when `since` are the calls behind it: it is about that
effect, attempt and authorization, its outcome is what the execution counts as, there were only
conflicts since then, and unless it is indeterminate the executor returned it. -/
structure Settles (dispatch : Dispatch) (since : List AnsweredCall) (settlement : EffectSettlement) :
    Prop where
  effect_id : settlement.effect_id = dispatch.request.effect_plan.effect_id
  attempt_id : settlement.attempt_id = dispatch.request.effect_plan.attempt_id
  authorization_transition_id :
    settlement.authorization_transition_id = dispatch.request.proposal.transition_id
  executed : ∃ calls conflicts result, since = calls ++ conflicts
    ∧ Executed dispatch.permit calls result
    ∧ (∀ told ∈ conflicts, AnsweredCall.conflicts told = true)
    ∧ effect_settlement dispatch.request.effect_plan dispatch.permit.authorization_transition_id
        dispatch.request.owner_epoch result = .ok settlement
  returned : settlement.outcome ≠ .INDETERMINATE → ∃ claimed result,
    ⟨.execute claimed, .returned result⟩ ∈ since ∧ dispatch.permit.claim = .ok claimed
    ∧ effect_settlement dispatch.request.effect_plan dispatch.permit.authorization_transition_id
        dispatch.request.owner_epoch result = .ok settlement

/-- The calls that hand a dispatch over to its settlement, `since` being the calls behind it. -/
inductive HandsOver (dispatch : Dispatch) (since : List AnsweredCall) : CoordinatorCall → Prop
  | observe (hsince : since = []) : HandsOver dispatch since .observe
  | execute {snapshot : ControlSnapshot} {claimed : DispatchPermit}
      (hsince : since = [⟨.observe, .ok snapshot⟩]) (hraised : snapshot.raised = none)
      (hclaimed : dispatch.permit.claim = .ok claimed) : HandsOver dispatch since (.execute claimed)
  | commit_settlement {settlement : EffectSettlement} (hsettles : Settles dispatch since settlement)
      (request : CommitSettlementRequest) (hrequest : request.settlement = .effect settlement) :
      HandsOver dispatch since (.commit_settlement request)
  /-- The state the settlement starts from says that its effect was reconciled. -/
  | commit_reconciled {settlement : EffectSettlement} (hsettles : Settles dispatch since settlement)
      (request : CommitTransitionRequest)
      (hrequest : request.engine_request.step_input = .EffectSettled settlement)
      (hreconciled : is_post_reconciliation_settlement request.engine_request.state_version
        (.effect settlement) = true) :
      HandsOver dispatch since (.commit_transition request)

/-- An authorization that was answered with a permit. -/
abbrev authorized (request : DispatchAuthorizationRequest) (state_version : OperationStateVersion)
    (permit : DispatchPermit) (notices : List CommittedFactNotice) (receipt : TransitionReceipt) :
    AnsweredCall :=
  ⟨.authorize_dispatch request, .ok (.DispatchAuthorized state_version permit notices receipt)⟩

/-- Every dispatch of a run is handed over to its settlement. Until that commits, each call is one
that leads there, and the run can only end by failing. -/
structure Handover (calls : List AnsweredCall) (rest : Coordination Segment) : Prop where
  next_call : ∀ before request state_version permit notices receipt since call answer after,
    calls = before ++ authorized request state_version permit notices receipt
      :: since ++ ⟨call, answer⟩ :: after →
    (⟨request, permit⟩ : Dispatch).Matches →
    (∀ told ∈ since, AnsweredCall.commits told = false) →
    HandsOver ⟨request, permit⟩ since call
  ending : ∀ before request state_version permit notices receipt since,
    calls = before ++ authorized request state_version permit notices receipt :: since →
    (⟨request, permit⟩ : Dispatch).Matches →
    (∀ told ∈ since, AnsweredCall.commits told = false) →
    (∀ outcome, rest = .done (.ended outcome) →
        ∃ state error steps, outcome = .Failed state error steps)
      ∧ rest ≠ .done .cancelled ∧ ∀ error, rest ≠ .fail error

/-! ## What is owed -/

/-- A settlement that is due: its dispatch, and the calls since. -/
structure Owed where
  dispatch : Dispatch
  since : List AnsweredCall

/-- A matching permit makes a settlement due, a commit pays it. -/
def owed_step : Option Owed → AnsweredCall → Option Owed
  | some owed, told =>
    if AnsweredCall.commits told then none else some { owed with since := owed.since ++ [told] }
  | none, ⟨.authorize_dispatch request, .ok (.DispatchAuthorized _ permit _ _)⟩ =>
    match validate_dispatch_permit permit request.session_id request.owner_epoch
        request.effect_plan request.proposal.transition_id with
    | .ok _ => some ⟨⟨request, permit⟩, []⟩
    | .error _ => none
  | none, _ => none

def owed (calls : List AnsweredCall) : Option Owed := calls.foldl owed_step none

theorem owed_append (before since : List AnsweredCall) :
    owed (before ++ since) = since.foldl owed_step (owed before) :=
  foldl_append

theorem owed_snoc (calls : List AnsweredCall) (told : AnsweredCall) :
    owed (calls ++ [told]) = owed_step (owed calls) told := by
  rw [owed_append, foldl_cons, foldl_nil]

theorem owed_step_authorized {request : DispatchAuthorizationRequest} {permit : DispatchPermit}
    (hmatches : (⟨request, permit⟩ : Dispatch).Matches) (state_version : OperationStateVersion)
    (notices : List CommittedFactNotice) (receipt : TransitionReceipt) :
    owed_step none (authorized request state_version permit notices receipt)
      = some ⟨⟨request, permit⟩, []⟩ := by
  unfold Dispatch.Matches at hmatches
  simp only [owed_step, hmatches]

variable {since : List AnsweredCall}

theorem owed_fold_uncommitted (due : Owed) (h : ∀ told ∈ since, AnsweredCall.commits told = false) :
    since.foldl owed_step (some due) = some { due with since := due.since ++ since } := by
  induction since generalizing due with
  | nil => rw [foldl_nil, append_nil]
  | cons told rest ih =>
    have hfirst : owed_step (some due) told = some { due with since := due.since ++ [told] } := by
      rw [owed_step, h told mem_cons_self, if_neg Bool.false_ne_true]
    rw [foldl_cons, hfirst, ih _ (fun later hlater => h later (mem_cons_of_mem _ hlater))]
    dsimp only
    rw [append_assoc, singleton_append]

def CoordinatorCall.unauthorizing : CoordinatorCall → Prop
  | .authorize_dispatch _ => False
  | _ => True

theorem owed_step_unauthorizing {told : AnsweredCall} (h : told.1.unauthorizing) :
    owed_step none told = none := by
  obtain ⟨call, answer⟩ := told
  cases call with
  | authorize_dispatch request => exact h.elim
  | _ => rfl

theorem owed_fold_unauthorizing (h : ∀ told ∈ since, told.1.unauthorizing) :
    since.foldl owed_step none = none := by
  induction since with
  | nil => rfl
  | cons told rest ih =>
    rw [foldl_cons, owed_step_unauthorizing (h told mem_cons_self)]
    exact ih (fun later hlater => h later (mem_cons_of_mem _ hlater))

/-! ## The settlement of an execution -/

variable {settlement : EffectSettlement}

/-- The settlement of an execution result names the plan it is for, and is indeterminate when the
result is. -/
theorem effect_settlement_names {plan : EffectPlan} {authorization_transition_id : String}
    {owner_epoch : Nat} {result : EffectExecutionResult}
    (h : effect_settlement plan authorization_transition_id owner_epoch result = .ok settlement) :
    settlement.effect_id = plan.effect_id ∧ settlement.attempt_id = plan.attempt_id
      ∧ settlement.authorization_transition_id = authorization_transition_id
      ∧ ∀ reason_code message evidence_ref,
          result = .indeterminate reason_code message evidence_ref →
          settlement.outcome = .INDETERMINATE := by
  simp only [effect_settlement, bind_eq_ok] at h
  obtain ⟨tool_call_id, -, tool_name, -, h⟩ := h
  cases result with
  | completed result =>
    simp only [checked, bind_eq_ok, pure_eq_ok] at h
    obtain ⟨_, -, rfl⟩ := h
    exact ⟨rfl, rfl, rfl, fun _ _ _ hresult => by cases hresult⟩
  | failed error =>
    simp only [checked, bind_eq_ok, pure_eq_ok] at h
    obtain ⟨_, -, rfl⟩ := h
    exact ⟨rfl, rfl, rfl, fun _ _ _ hresult => by cases hresult⟩
  | indeterminate reason_code message evidence_ref =>
    simp only [checked, bind_eq_ok, pure_eq_ok] at h
    obtain ⟨_, -, rfl⟩ := h
    exact ⟨rfl, rfl, rfl, fun _ _ _ _ => rfl⟩

theorem Dispatch.Matches.authorization_transition_id {dispatch : Dispatch} (h : dispatch.Matches) :
    dispatch.permit.authorization_transition_id = dispatch.request.proposal.transition_id := by
  unfold Dispatch.Matches validate_dispatch_permit at h
  rw [raise_if_eq_ok] at h
  by_contra hne
  exact h (Or.inr (Or.inr (Or.inr (Or.inl hne))))

theorem Executed.settles {dispatch : Dispatch} {calls : List AnsweredCall}
    {result : EffectExecutionResult} (hmatches : dispatch.Matches)
    (hexecuted : Executed dispatch.permit calls result)
    (h : effect_settlement dispatch.request.effect_plan dispatch.permit.authorization_transition_id
      dispatch.request.owner_epoch result = .ok settlement) :
    Settles dispatch calls settlement := by
  obtain ⟨heffect, hattempt, hauthorization, hindeterminate⟩ := effect_settlement_names h
  refine ⟨heffect, hattempt, hauthorization.trans hmatches.authorization_transition_id,
    ⟨calls, [], result, (append_nil calls).symm, hexecuted, forall_mem_nil _, h⟩,
    fun houtcome => ?_⟩
  cases hexecuted with
  | controlled hraised => exact (houtcome (hindeterminate _ _ _ rfl)).elim
  | cancelled hraised hclaimed => exact (houtcome (hindeterminate _ _ _ rfl)).elim
  | raised hraised hclaimed error => exact (houtcome (hindeterminate _ _ _ rfl)).elim
  | returned hraised hclaimed result =>
    exact ⟨_, result, mem_cons_of_mem _ mem_cons_self, hclaimed, h⟩

theorem Settles.conflicted {dispatch : Dispatch} (h : Settles dispatch since settlement)
    {told : AnsweredCall} (htold : AnsweredCall.conflicts told = true) :
    Settles dispatch (since ++ [told]) settlement := by
  obtain ⟨calls, conflicts, result, hsince, hexecuted, hconflicts, hresult⟩ := h.executed
  refine { h with executed := ?_, returned := fun houtcome => ?_ }
  · refine ⟨calls, conflicts ++ [told], result, ?_, hexecuted, fun other hother => ?_, hresult⟩
    · rw [hsince, append_assoc]
    · rcases mem_snoc hother with hbefore | hlast
      · exact hconflicts other hbefore
      · rw [hlast]
        exact htold
  · obtain ⟨claimed, result, hmem, hreturned⟩ := h.returned houtcome
    exact ⟨claimed, result, mem_append_left _ hmem, hreturned⟩

/-! ## The rounds -/

/-- A call made while a settlement is due hands its dispatch over. -/
def Guarded (calls : List AnsweredCall) (call : CoordinatorCall) : Prop :=
  ∀ due, owed calls = some due → HandsOver due.dispatch due.since call

namespace Segment

/-- Where a segment may stand while no settlement is due: an authorization is for the request of
its segment. -/
def Ready : Segment → Prop
  | .looping _ => True
  | .authorizing frame authorization =>
    authorization.request.session_id = frame.request.session_id
      ∧ authorization.request.owner_epoch = frame.request.owner_epoch
      ∧ authorization.request.effect_plan = authorization.plan
  | .reconciling _ => False
  | .ended _ => True
  | .cancelled => True

/-- Where it may stand while one is: its next input is the settlement, or it failed. -/
def Pending (due : Owed) : Segment → Prop
  | .looping frame => ∃ settlement, frame.step_input = .EffectSettled settlement
      ∧ Settles due.dispatch due.since settlement
  | .ended outcome => ∃ state error steps, outcome = .Failed state error steps
  | _ => False

def Stands (calls : List AnsweredCall) (segment : Segment) : Prop :=
  match owed calls with
  | none => segment.Ready
  | some due => segment.Pending due

/-- A round ends where it may stand, and raises nothing while a settlement is due. -/
def Rounded (calls : List AnsweredCall) : Except StoreError Segment → Prop
  | .ok segment => Stands calls segment
  | .error _ => owed calls = none

def Leads (calls : List AnsweredCall) : Except StoreError Segment → Prop
  | .ok segment => Stands calls segment
  | .error _ => True

variable {calls : List AnsweredCall} {frame : Frame} {due : Owed}

variable {segment : Segment}

theorem stands_ready (hnone : owed calls = none) (h : segment.Ready) :
    Stands calls segment := by
  unfold Stands
  rw [hnone]
  exact h

theorem stands_pending (hdue : owed calls = some due) (h : segment.Pending due) :
    Stands calls segment := by
  unfold Stands
  rw [hdue]
  exact h

theorem stands_failed (state_version : Option OperationStateVersion) (error : FailureReport)
    (steps_taken : Nat) : Stands calls (.ended (.Failed state_version error steps_taken)) := by
  unfold Stands
  split
  · exact trivial
  · exact ⟨state_version, error, steps_taken, rfl⟩

theorem guarded_leads {body : Coordination Segment}
    (h : Meets (fun _ _ _ => True) Guarded Leads body calls) :
    Meets (fun _ _ _ => True) Guarded Rounded (guarded frame body) calls := by
  refine Meets.handle (h.imp (fun later result hlater => ?_))
  cases result with
  | ok segment => exact hlater
  | error error => exact stands_failed _ _ _

theorem any_host_asks : any_host.Asks CoordinatorCall.unauthorizing where
  observe := Always.await_bind trivial (fun _ => Always.lift (fun _ _ => trivial))
  generate := fun _ _ => Always.await_bind trivial (fun _ => Always.lift (fun _ _ => trivial))
  commit_transition := fun _ => Always.await_bind trivial (fun _ => Always.lift (fun _ _ => trivial))
  commit_settlement := fun _ => Always.await_bind trivial (fun _ => Always.lift (fun _ _ => trivial))
  commit_reconciliation := fun _ =>
    Always.await_bind trivial (fun _ => Always.lift (fun _ _ => trivial))

theorem authorization_request_names {proposal : TransitionProposal} {plan : EffectPlan}
    {approval : Option ApprovalSettlement} {defer_commit : Bool}
    {request : DispatchAuthorizationRequest}
    (h : authorization_request frame proposal plan approval defer_commit = .ok request) :
    request.session_id = frame.request.session_id
      ∧ request.owner_epoch = frame.request.owner_epoch ∧ request.effect_plan = plan := by
  simp only [authorization_request, bind_eq_ok, pure_eq_ok] at h
  obtain ⟨prepared, -, authorized, -, _, -, rfl⟩ := h
  exact ⟨rfl, rfl, rfl⟩

theorem Follows.ready (h : Follows frame segment) : segment.Ready := by
  cases segment with
  | looping next => trivial
  | authorizing next authorization =>
    obtain ⟨-, -, proposal, approval, defer_commit, hrequest⟩ := h
    exact authorization_request_names hrequest
  | reconciling next => exact h
  | ended outcome => trivial
  | cancelled => trivial

theorem idle_rounds {dialogue : Coordination Segment} (hnone : owed calls = none)
    (h : Always CoordinatorCall.unauthorizing Ready dialogue) :
    Meets (fun _ _ _ => True) Guarded Rounded dialogue calls := by
  have hidle : ∀ asked : List AnsweredCall, (∀ told ∈ asked, told.1.unauthorizing) →
      owed (calls ++ asked) = none := by
    intro asked hasked
    rw [owed_append, hnone]
    exact owed_fold_unauthorizing hasked
  refine h.meets_asked ?_ ?_ ?_
  · intro asked hasked call _ due hdue
    rw [hidle asked hasked] at hdue
    cases hdue
  · intro asked hasked segment hsegment
    exact stands_ready (hidle asked hasked) hsegment
  · intro asked hasked error
    exact hidle asked hasked

theorem Rounded.leads {later : List AnsweredCall} {result : Except StoreError Segment}
    (h : Rounded later result) : Leads later result := by
  cases result with
  | ok segment => exact h
  | error error => trivial

/-! ## The commit of the settlement -/

theorem committed_leads (hnone : owed calls = none) (proposal : TransitionProposal)
    (state_version : OperationStateVersion) (approval : Option ApprovalSettlement) :
    Meets (fun _ _ _ => True) Guarded Leads
      (committed any_host frame proposal state_version approval) calls :=
  (idle_rounds hnone ((committed_asks any_host_asks proposal state_version approval).imp
    (fun _ hfollows => hfollows.ready))).imp (fun _ _ hrounded => hrounded.leads)

/-- The answer to the commit of a settlement: a conflict leads to its next attempt, a commit pays
it, and anything else fails the segment. -/
theorem answered_leads {settlement : EffectSettlement}
    (hinput : frame.step_input = .EffectSettled settlement)
    (hsettles : Settles due.dispatch due.since settlement) (proposal : TransitionProposal)
    (approval : Option ApprovalSettlement) (result : CommitResult) {told : AnsweredCall}
    (hdue : owed calls = some due) (hcommits : AnsweredCall.commits told = result.commits)
    (hconflicts : AnsweredCall.conflicts told = result.conflicts) :
    Meets (fun _ _ _ => True) Guarded Leads (answered any_host frame proposal approval result)
      (calls ++ [told]) := by
  have howed : owed (calls ++ [told]) = owed_step (some due) told := by rw [owed_snoc, hdue]
  -- an answer that is neither a commit nor a conflict ends the segment as failed
  have hfailed : ∀ state_version error,
      Stands (calls ++ [told])
        (.ended (.Failed (some (Option.getD state_version frame.current_state)) error
          frame.steps_taken)) :=
    fun state_version error => stands_failed _ _ _
  cases result with
  | CASConflict current_state =>
    have htold : AnsweredCall.conflicts told = true := hconflicts
    have hpaid : AnsweredCall.commits told = false := hcommits
    rw [owed_step, hpaid, if_neg Bool.false_ne_true] at howed
    exact stands_pending howed ⟨settlement, hinput, hsettles.conflicted htold⟩
  | Committed state_version notices receipt =>
    have hpaid : AnsweredCall.commits told = true := hcommits
    rw [owed_step, if_pos hpaid] at howed
    exact committed_leads howed _ _ _
  | ExactReplay state_version receipt =>
    have hpaid : AnsweredCall.commits told = true := hcommits
    rw [owed_step, if_pos hpaid] at howed
    exact committed_leads howed _ _ _
  | DispatchAuthorized state_version permit notices receipt => exact trivial
  | StaleOwner expected current => exact hfailed none _
  | StaleMailboxCut expected current => exact hfailed none _
  | InvalidTransition reason_code message => exact hfailed none _
  | StorageFailure error => exact hfailed none _

/-- The settlement that is due is committed: as a settlement, or as a transition when its effect
was reconciled. -/
theorem settle_leads {settlement : EffectSettlement}
    (hinput : frame.step_input = .EffectSettled settlement)
    (hsettles : Settles due.dispatch due.since settlement) (hdue : owed calls = some due) :
    Meets (fun _ _ _ => True) Guarded Leads (settle any_host frame (.effect settlement)) calls := by
  -- the call is the one that is due, and its answer goes on
  have hguard : ∀ {call : CoordinatorCall}, HandsOver due.dispatch due.since call →
      Guarded calls call := by
    intro call hcall other hother
    rw [hdue] at hother
    cases hother
    exact hcall
  refine Meets.lift_bind (fun _ _ => Meets.lift_bind (fun proposal _ => ?_) (fun _ _ => trivial))
    (fun _ _ => trivial)
  have happroved : approved_settlement frame.step_input = none := by
    rw [hinput]
    rfl
  have hcommitted : defers_commit (approved_settlement frame.step_input) proposal = false := by
    rw [happroved]
    rfl
  dsimp only
  rw [hcommitted, if_neg Bool.false_ne_true]
  unfold commit_settlement
  by_cases hreconciled :
      is_post_reconciliation_settlement frame.current_state (.effect settlement) = true
  · rw [if_pos hreconciled]
    refine Meets.lift_bind (fun request hrequest => ?_) (fun _ _ => trivial)
    simp only [transition_request, bind_eq_ok, pure_eq_ok] at hrequest
    obtain ⟨_, -, rfl⟩ := hrequest
    have hcall := hguard (HandsOver.commit_reconciled hsettles
      { session_id := frame.request.session_id
        owner_id := frame.request.owner_id
        owner_epoch := frame.request.owner_epoch
        engine_request := ⟨frame.current_state, frame.step_input⟩
        proposal } hinput hreconciled)
    refine Meets.bind (Meets.await_bind hcall (fun answer _ => ?_))
    rcases answer with error | result
    · exact trivial
    · exact answered_leads hinput hsettles proposal _ result hdue rfl rfl
  · rw [if_neg hreconciled]
    refine Meets.lift_bind (fun request hrequest => ?_) (fun _ _ => trivial)
    simp only [settlement_request, bind_eq_ok, pure_eq_ok] at hrequest
    obtain ⟨mutation, -, _, -, rfl⟩ := hrequest
    have hcall := hguard (HandsOver.commit_settlement hsettles
      { session_id := frame.request.session_id
        owner_id := frame.request.owner_id
        owner_epoch := frame.request.owner_epoch
        engine_request := ⟨frame.current_state, frame.step_input⟩
        proposal
        settlement := .effect settlement
        effect_mutation := mutation } rfl)
    refine Meets.bind (Meets.await_bind hcall (fun answer _ => ?_))
    rcases answer with error | result
    · exact trivial
    · exact answered_leads hinput hsettles proposal _ result hdue rfl rfl

/-! ## The execution -/

/-- What an execution leaves: the calls it made are the execution of the permit, and the
settlement is still due. -/
def Executing (dispatch : Dispatch) (calls : List AnsweredCall) :
    Except StoreError (EffectExecutionResult × Bool) → Prop
  | .ok (result, _) => ∃ since, owed calls = some ⟨dispatch, since⟩
      ∧ Executed dispatch.permit since result
  | .error _ => True

/-- The control is looked at, and unless it is raised the permit is claimed and executed. -/
theorem execution_result_meets {dispatch : Dispatch} (hdue : owed calls = some ⟨dispatch, []⟩) :
    Meets (fun _ _ _ => True) Guarded (Executing dispatch)
      (execution_result any_host dispatch.permit) calls := by
  have hobserve : Guarded calls .observe := by
    intro due hother
    rw [hdue] at hother
    cases hother
    exact .observe rfl
  refine Meets.bind (Meets.await_bind hobserve (fun answer _ => ?_))
  rcases answer with error | snapshot
  · exact trivial
  · have hobserved : owed (calls ++ [⟨.observe, .ok snapshot⟩])
        = some ⟨dispatch, [⟨.observe, .ok snapshot⟩]⟩ := by
      rw [owed_snoc, hdue]
      rfl
    show Meets _ _ (Executing dispatch) _ _
    cases hraised : snapshot.raised with
    | some reason =>
      refine Meets.lift_bind (fun result hresult => ?_) (fun _ _ => trivial)
      simp only [indeterminate_result, bind_eq_ok, pure_eq_ok] at hresult
      obtain ⟨_, -, _, -, _, -, rfl⟩ := hresult
      exact ⟨_, hobserved, .controlled hraised⟩
    | none =>
      refine Meets.lift_bind (fun claimed hclaimed => ?_) (fun _ _ => trivial)
      have hexecute : Guarded (calls ++ [⟨.observe, .ok snapshot⟩]) (.execute claimed) := by
        intro due hother
        rw [hobserved] at hother
        cases hother
        exact .execute rfl hraised hclaimed
      have hexecuted : ∀ outcome : Awaited EffectExecutionResult,
          owed ((calls ++ [⟨.observe, .ok snapshot⟩]) ++ [⟨.execute claimed, outcome⟩])
            = some ⟨dispatch, [⟨.observe, .ok snapshot⟩, ⟨.execute claimed, outcome⟩]⟩ := by
        intro outcome
        rw [owed_snoc, hobserved]
        rfl
      refine ⟨hexecute, fun outcome _ => ?_⟩
      cases outcome with
      | returned result => exact ⟨_, hexecuted _, .returned hraised hclaimed result⟩
      | cancelled => exact ⟨_, hexecuted _, .cancelled hraised hclaimed⟩
      | raised error =>
        refine Meets.lift_bind (fun result hresult => ?_) (fun _ _ => trivial)
        simp only [indeterminate_result, bind_eq_ok, pure_eq_ok] at hresult
        obtain ⟨_, -, _, -, _, -, rfl⟩ := hresult
        exact ⟨_, hexecuted _, .raised hraised hclaimed error⟩

theorem dispatch_leads {authorization : Authorization} {permit : DispatchPermit}
    (hplan : authorization.request.effect_plan = authorization.plan)
    (hepoch : authorization.request.owner_epoch = frame.request.owner_epoch)
    (hmatches : (⟨authorization.request, permit⟩ : Dispatch).Matches)
    (hdue : owed calls = some ⟨⟨authorization.request, permit⟩, []⟩) :
    Meets (fun _ _ _ => True) Guarded Leads (dispatch any_host frame authorization permit) calls := by
  refine Meets.lift_bind (fun _ _ => ?_) (fun _ _ => trivial)
  refine Meets.bind ((execution_result_meets hdue).imp (fun later outcome hexecuting => ?_))
  match outcome, hexecuting with
  | .error error, _ => exact trivial
  | .ok (result, task_cancelled), ⟨since, hlater, hexecuted⟩ =>
    refine Meets.lift_bind (fun settlement hsettlement => ?_) (fun _ _ => trivial)
    rw [← hplan, ← hepoch] at hsettlement
    exact stands_pending hlater ⟨settlement, rfl, hexecuted.settles hmatches hsettlement⟩

/-- The round of an authorization: a stale cut leads to it again, a permit to its execution. -/
theorem authorize_rounds {authorization : Authorization} (hnone : owed calls = none)
    (hready : (Segment.authorizing frame authorization).Ready) :
    Meets (fun _ _ _ => True) Guarded Rounded (authorize any_host frame authorization) calls := by
  obtain ⟨hsession, hepoch, hplan⟩ := hready
  have hguard : Guarded calls (.authorize_dispatch authorization.request) := by
    intro due hdue
    rw [hnone] at hdue
    cases hdue
  refine guarded_leads (Meets.bind (Meets.await_bind hguard (fun answer _ => ?_)))
  match answer with
  | .error error => exact trivial
  | .ok result =>
    have howed : owed (calls ++ [⟨.authorize_dispatch authorization.request, .ok result⟩])
        = owed_step none ⟨.authorize_dispatch authorization.request, .ok result⟩ := by
      rw [owed_snoc, hnone]
    cases result with
    | StaleMailboxCut expected current =>
      refine (idle_rounds howed ?_).imp (fun _ _ hrounded => hrounded.leads)
      refine Always.bind any_host_asks.observe (fun snapshot _ => ?_)
      cases hraised : snapshot.raised with
      | some reason => exact trivial
      | none => exact ⟨hsession, hepoch, hplan⟩
    | DispatchAuthorized state_version permit notices receipt =>
      refine (guarded_leads ?_).imp (fun _ _ hrounded => hrounded.leads)
      by_cases hmatches : (⟨authorization.request, permit⟩ : Dispatch).Matches
      · have hdue := howed.trans (owed_step_authorized hmatches state_version notices receipt)
        exact dispatch_leads hplan hepoch hmatches hdue
      · -- the permit is refused, and nothing is due
        refine Meets.lift_bind (fun _ hvalid => ?_) (fun _ _ => trivial)
        rw [← hsession, ← hepoch, ← hplan] at hvalid
        exact (hmatches hvalid).elim
    | Committed state_version notices receipt => exact trivial
    | CASConflict current_state => exact stands_failed _ _ _
    | ExactReplay state_version receipt => exact stands_failed _ _ _
    | StaleOwner expected current => exact stands_failed _ _ _
    | InvalidTransition reason_code message => exact stands_failed _ _ _
    | StorageFailure error => exact stands_failed _ _ _

/-- **Every round goes on where the last one stands.** -/
theorem advance_rounds (calls : List AnsweredCall) (segment : Segment)
    (hstands : Rounded calls (.ok segment)) :
    Meets (fun _ _ _ => True) Guarded Rounded (advance any_host segment) calls := by
  cases hdue : owed calls with
  | none =>
    have hready : segment.Ready := by
      have hstands' : Stands calls segment := hstands
      unfold Stands at hstands'
      rwa [hdue] at hstands'
    cases segment with
    | looping frame =>
      exact idle_rounds hdue ((round_asks any_host_asks).imp (fun _ hfollows => hfollows.ready))
    | authorizing frame authorization => exact authorize_rounds hdue hready
    | reconciling frame => exact hready.elim
    | ended outcome => exact hstands
    | cancelled => exact hstands
  | some due =>
    have hpending : segment.Pending due := by
      have hstands' : Stands calls segment := hstands
      unfold Stands at hstands'
      rwa [hdue] at hstands'
    cases segment with
    | looping frame =>
      obtain ⟨settlement, hinput, hsettles⟩ := hpending
      have hround : round any_host frame
          = guarded frame (settle any_host frame (.effect settlement)) := by
        unfold round
        rw [hinput]
        rfl
      show Meets _ _ _ (round any_host frame) calls
      rw [hround]
      exact guarded_leads (settle_leads hinput hsettles hdue)
    | authorizing frame authorization => exact hpending.elim
    | reconciling frame => exact hpending.elim
    | ended outcome => exact hstands
    | cancelled => exact hpending.elim

theorem run_meets {request : RunSegmentRequest} (h : run request = .ok segment) :
    Meets (fun _ _ _ => True) Guarded Rounded (.done segment) [] := by
  simp only [run, bind_eq_ok, pure_eq_ok] at h
  obtain ⟨cut, -, rfl⟩ := h
  have hnone : owed [] = none := rfl
  unfold Meets Rounded
  exact stands_ready hnone trivial

end Segment

/-! ## The handover -/

section Runs

variable {request : RunSegmentRequest} {calls : List AnsweredCall} {rest : Coordination Segment}

theorem coordinator_meets (hrun : CoordinatorRun request calls rest) :
    Meets (fun _ _ _ => True) Guarded Segment.Rounded rest calls := by
  obtain ⟨segment, steps, hsegment, hsteps, rfl⟩ := hrun
  exact loop_meets Segment.advance_rounds (Segment.run_meets hsegment) hsteps

theorem coordinator_asked (hrun : CoordinatorRun request calls rest)
    {before after : List AnsweredCall} {told : AnsweredCall} (h : calls = before ++ told :: after) :
    Guarded before told.1 := by
  obtain ⟨segment, steps, hsegment, hsteps, hcalls⟩ := hrun
  exact loop_asked Segment.advance_rounds (Segment.run_meets hsegment) hsteps (hcalls.trans h)

/-- A matching permit makes its settlement due: none was before, since nothing is authorized while
one is. -/
theorem owed_of_authorized (hrun : CoordinatorRun request calls rest)
    {before since after : List AnsweredCall} {asked : DispatchAuthorizationRequest}
    {state_version : OperationStateVersion} {permit : DispatchPermit}
    {notices : List CommittedFactNotice} {receipt : TransitionReceipt}
    (h : calls = before ++ authorized asked state_version permit notices receipt :: since ++ after)
    (hmatches : (⟨asked, permit⟩ : Dispatch).Matches)
    (huncommitted : ∀ told ∈ since, AnsweredCall.commits told = false) :
    owed (before ++ authorized asked state_version permit notices receipt :: since)
      = some ⟨⟨asked, permit⟩, since⟩ := by
  have hnone : owed before = none := by
    rw [append_assoc, cons_append] at h
    have hguarded := coordinator_asked hrun h
    cases hdue : owed before with
    | none => rfl
    | some due => cases hguarded due hdue
  rw [owed_append, hnone, foldl_cons, owed_step_authorized hmatches,
    owed_fold_uncommitted _ huncommitted]
  rfl

/-- **The handover.** In every run of a coordinator, whatever its collaborators do, a dispatched
effect is handed over to its settlement. -/
theorem dispatch_handed_over (hrun : CoordinatorRun request calls rest) : Handover calls rest where
  next_call before asked state_version permit notices receipt since call answer after h hmatches
      huncommitted := by
    have hdue := owed_of_authorized hrun h hmatches huncommitted
    exact coordinator_asked hrun h _ hdue
  ending before asked state_version permit notices receipt since h hmatches huncommitted := by
    have hdue : owed calls = some ⟨⟨asked, permit⟩, since⟩ := by
      rw [h]
      exact owed_of_authorized hrun (h.trans (append_nil _).symm) hmatches huncommitted
    have hmeets := coordinator_meets hrun
    have hstands : ∀ segment, rest = .done segment → segment.Pending ⟨⟨asked, permit⟩, since⟩ := by
      rintro segment rfl
      have hsegment : Segment.Stands calls segment := hmeets
      unfold Segment.Stands at hsegment
      rwa [hdue] at hsegment
    refine ⟨fun outcome hrest => hstands _ hrest, fun hrest => hstands _ hrest, ?_⟩
    rintro error rfl
    have hraised : owed calls = none := hmeets
    rw [hdue] at hraised
    cases hraised

end Runs

/-! ## A reconciled state

A port may answer an authorization with any state. When that state says that the very effect was
reconciled, its settlement is committed as a transition. -/

def sample_reconciled_state : OperationStateVersion where
  run_id := "r"
  revision := 2
  projection_epoch := 0
  commit_ref := { transition_id := "t2" }
  value :=
    [("_agentkit_runtime", .obj
      [("mailbox_cut", .int 0),
       ("pending_effect_plans", .arr [effect_plan_value sample_plan]),
       ("reconciled_effect", .obj
        [("reconciled_input_id", .str "t1:dispatch:e:a:settlement:a"),
         ("effect_id", .str "e"),
         ("attempt_id", .str "a"),
         ("tool_call_id", .str "call"),
         ("tool_name", .str "read"),
         ("authorization_transition_id", .str "t1:dispatch:e:a"),
         ("outcome", .str "completed"),
         ("result", .str "done")])])]

def sample_permit : DispatchPermit where
  opaque_token := "token"
  session_id := "s"
  effect_id := "e"
  attempt_id := "a"
  authorization_transition_id := "t1:dispatch:e:a"
  owner_epoch := 1
  idempotency_key := none

section

variable (state_version : OperationStateVersion)

/-- The answers of a quiet probe, an executor that completes, and a port that authorizes in
`state_version` and then fails. -/
def sample_reply : (call : CoordinatorCall) → call.Answer
  | .observe => .ok { generation := 0 }
  | .generate _ _ => .ok (.inr "interrupted")
  | .commit_transition _ => .ok (.StorageFailure ⟨"unavailable", "unavailable"⟩)
  | .commit_settlement _ => .ok (.StorageFailure ⟨"unavailable", "unavailable"⟩)
  | .authorize_dispatch _ =>
    .ok (.DispatchAuthorized state_version sample_permit []
      { session_id := "s"
        projection_epoch := 0
        transition_id := "t1:dispatch:e:a"
        mutation_fingerprint := "f"
        state_version
        facts := [] })
  | .commit_reconciliation _ => .ok (.StorageFailure ⟨"unavailable", "unavailable"⟩)
  | .execute _ => .returned (.completed (.str "done"))

def sample_coordination :
    List (Option AnsweredCall) × Coordination Segment :=
  let reply := some (sample_reply state_version)
  match Segment.run sample_segment_request with
  | .ok segment =>
    loop_play (Segment.advance any_host) (.done segment)
      [none, reply, none, reply, reply, reply, none, reply]
  | .error error => ([], .fail error)

theorem sample_coordinator_run :
    CoordinatorRun sample_segment_request (sample_coordination state_version).1.reduceOption
      (sample_coordination state_version).2 :=
  ⟨_, _, rfl, loop_play_run _ _ _, rfl⟩

end

/-- The sample segment's dispatch is handed over, also in such a state. -/
theorem sample_handed_over :
    Handover (sample_coordination sample_reconciled_state).1.reduceOption
      (sample_coordination sample_reconciled_state).2 :=
  dispatch_handed_over (sample_coordinator_run sample_reconciled_state)

/-- The calls are an executed dispatch and the commit of a transition. -/
def commits_as_transition : List AnsweredCall → Bool
  | [⟨.observe, _⟩, ⟨.authorize_dispatch request, .ok (.DispatchAuthorized _ permit _ _)⟩,
      ⟨.observe, _⟩, ⟨.execute _, _⟩, ⟨.commit_transition _, _⟩] =>
      match validate_dispatch_permit permit request.session_id request.owner_epoch
          request.effect_plan request.proposal.transition_id with
      | .ok _ => true
      | .error _ => false
  | _ => false

/-- **The next commit need not be a settlement.** A dispatch can be followed by the commit of a
transition. -/
theorem reconciled_commits_as_transition :
    ¬ ∀ (request : RunSegmentRequest) (calls : List AnsweredCall) (rest : Coordination Segment),
      CoordinatorRun request calls rest →
      ∀ before asked state_version permit notices receipt since call answer after,
        calls = before ++ authorized asked state_version permit notices receipt
          :: since ++ ⟨call, answer⟩ :: after →
        (⟨asked, permit⟩ : Dispatch).Matches →
        (∀ told ∈ since, AnsweredCall.commits told = false) →
        ∀ transition, call ≠ .commit_transition transition := by
  intro hall
  have hrun := sample_coordinator_run sample_reconciled_state
  have hcommits : commits_as_transition
      (sample_coordination sample_reconciled_state).1.reduceOption = true := by decide +kernel
  unfold commits_as_transition at hcommits
  split at hcommits
  · next first asked state_version permit notices receipt second claimed third committed answer
        hcalls =>
      split at hcommits
      · next hvalid =>
        refine hall _ _ _ hrun [⟨.observe, first⟩] asked state_version permit notices receipt
          [⟨.observe, second⟩, ⟨.execute claimed, third⟩] (.commit_transition committed) answer
          [] hcalls hvalid (fun told htold => ?_) committed rfl
        rcases mem_pair.mp htold with rfl | rfl
        · rfl
        · rfl
      · cases hcommits
  · cases hcommits

end CodingAgentLoop
