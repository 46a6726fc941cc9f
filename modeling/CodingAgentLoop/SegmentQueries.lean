/-
Which queries the parts of a segment ask.

A segment makes the one dispatch of an effect at the head of its authorization loop:
only there does it commit at a mailbox cut, and only behind that commit does it touch
an executor attempt or call the backend.
-/
import CodingAgentLoop.System

open Lib Dialogue

namespace CodingAgentLoop

open DurableCommitPort Result

/-- The mailbox cut a query dispatches at: only an authorization commits with one. -/
def Query.dispatch_cut : Query → Option Nat
  | .commit _ unit => unit.val.expected_mailbox_cut
  | _ => none

/-- The query dispatches nothing, changes no executor attempt on its own and calls no backend. -/
def Query.plain : Query → Prop
  | .commit _ unit => unit.val.expected_mailbox_cut = none
  | .store _ => False
  | .execute_backend _ _ => False
  | _ => True

def Query.commits_nothing : Query → Prop
  | .commit _ _ => False
  | _ => True

theorem Query.plain.dispatch_cut_eq {query : Query} (h : query.plain) :
    query.dispatch_cut = none := by
  cases query with
  | commit authority unit => exact h
  | _ => rfl

theorem Query.commits_nothing.dispatch_cut_eq {query : Query} (h : query.commits_nothing) :
    query.dispatch_cut = none := by
  cases query with
  | commit authority unit => exact h.elim
  | _ => rfl

/-! ## The commit port -/

section Port

variable {asks : Query → Prop} {session_state : JsonObject}

theorem stamp_pending_facts_asks (hclock : asks .clock) (session_id run_id : String)
    (facts : List PendingFact) :
    Always asks (fun _ => True) (stamp_pending_facts session_id run_id facts) := by
  induction facts with
  | nil => trivial
  | cons fact rest ih =>
    refine Always.await_bind hclock (fun created_at => Always.lift_bind (fun event _ => ?_))
    exact Always.bind ih (fun events _ => trivial)

theorem transition_unit_asks (hclock : asks .clock) (request : CommitTransitionRequest)
    (options : TransitionOptions) :
    Always asks
      (fun unit => ∃ facts,
        unit.val = transition_unit_of_facts session_state request options facts)
      (transition_unit session_state request options) := by
  refine Always.lift_bind (fun _ _ => ?_)
  refine Always.bind (stamp_pending_facts_asks hclock _ _ _) (fun facts _ => ?_)
  exact Always.lift (fun unit hunit => ⟨facts, UnitOfWork.make_eq_ok hunit⟩)

theorem rejected_result_asks (hload : ∀ session_id run_id,
      asks (.load_operation_state session_id run_id))
    (session_id run_id : String) (owner_epoch : Nat) (error : StoreError) :
    Always asks
      (fun result => ∀ expected current, result = .StaleMailboxCut expected current →
        error = .StaleMailboxCutError expected current)
      (rejected_result session_id run_id owner_epoch error) := by
  unfold rejected_result
  split
  · intro expected current hresult
    cases hresult
    rfl
  · split
    -- only a failed compare-and-swap reads the store again
    · refine Always.await_bind (hload _ _) (fun current => ?_)
      match current with
      | .error _ => exact fun _ _ hresult => by cases hresult
      | .ok none => exact fun _ _ hresult => by cases hresult
      | .ok (some _) => exact fun _ _ hresult => by cases hresult
    · split
      · exact fun _ _ hresult => by cases hresult
      · split <;> exact fun _ _ hresult => by cases hresult

theorem commit_unit_asks {authority : OwnerAuthority} {unit : UnitOfWork}
    {accepted : AuthoritativeCommit → Task CommitResult} (hcommit : asks (.commit authority unit))
    (hload : ∀ session_id run_id, asks (.load_operation_state session_id run_id))
    (haccepted : ∀ commit, Always asks (fun _ => True) (accepted commit)) :
    Always asks (fun _ => True) (commit_unit authority unit accepted) := by
  refine Always.await_bind hcommit (fun answer => ?_)
  match answer with
  | .ok commit => exact haccepted commit
  | .error error => exact (rejected_result_asks hload _ _ _ error).imp (fun _ _ => trivial)

theorem transition_asks (request : CommitTransitionRequest) (options : TransitionOptions)
    (accepted : AuthoritativeCommit → Except StoreError CommitResult)
    (hcut : options.expected_mailbox_cut = none) (authority : OwnerAuthority) :
    Always Query.plain (fun _ => True) (do
      let unit ← transition_unit session_state request options
      commit_unit authority unit (fun commit => lift (accepted commit))) := by
  refine Always.bind (transition_unit_asks trivial request options) (fun unit hunit => ?_)
  obtain ⟨facts, hunit⟩ := hunit
  refine commit_unit_asks ?_ (fun _ _ => trivial) (fun commit => Always.lift (fun _ _ => trivial))
  show unit.val.expected_mailbox_cut = none
  rw [hunit]
  exact hcut

theorem commit_transition_asks (request : CommitTransitionRequest) :
    Always Query.plain (fun _ => True)
      (DurableCommitPort.commit_transition session_state request) :=
  transition_asks request _ ordinary_result rfl _

theorem parent_settlement_transition_ids_asks (request : CommitSettlementRequest) :
    Always Query.plain (fun _ => True)
      (parent_settlement_transition_ids request) :=
  have hplain : Query.plain
      (.load_child_binding_of_effect request.session_id request.settlement.effect_id) := trivial
  Always.await_bind hplain (fun _ => Always.lift_bind (fun _ _ => Always.lift (fun _ _ => trivial)))

theorem unstarted_closeout_guard_asks (hclock : asks .clock)
    (hload : ∀ key, asks (.load_executor_attempt key)) (request : CommitSettlementRequest) :
    Always asks (fun _ => True) (unstarted_closeout_guard request) := by
  unfold unstarted_closeout_guard
  split
  · trivial
  · split
    · refine Always.await_bind (hload _) (fun loaded => Always.lift_bind (fun attempt _ => ?_))
      unfold closeout_guard_of_attempt
      split
      · exact Always.await_bind hclock (fun closed_at => Always.lift_bind (fun _ _ => trivial))
      · trivial
    · trivial

theorem settlement_reads_asks (request : CommitSettlementRequest) :
    Always Query.plain (fun _ => True) (DurableCommitPort.settlement_reads request) :=
  Always.bind (parent_settlement_transition_ids_asks request) (fun _ _ =>
    Always.bind (unstarted_closeout_guard_asks trivial (fun _ => trivial) request)
      (fun _ _ => trivial))

theorem commit_settlement_asks (request : CommitSettlementRequest) :
    Always Query.plain (fun _ => True)
      (DurableCommitPort.commit_settlement session_state request) := by
  refine Always.bind (?_ : Always Query.plain (fun _ => True) _) (fun outcome _ => ?_)
  · refine Always.handle ?_ (fun error => trivial)
    exact Always.bind (settlement_reads_asks request) (fun reads _ => trivial)
  · match outcome with
    | .inl reads => exact transition_asks _ _ ordinary_result rfl _
    | .inr failure => trivial

theorem commit_reconciliation_asks (request : CommitReconciliationRequest) :
    Always Query.plain (fun _ => True)
      (DurableCommitPort.commit_reconciliation session_state request) := by
  refine Always.await_bind trivial (fun loaded => ?_)
  match loaded with
  | .error error => trivial
  | .ok none => trivial
  | .ok (some evidence) =>
    refine Always.lift_bind (fun unit hunit => ?_)
    refine commit_unit_asks ?_ (fun _ _ => trivial)
      (fun commit => Always.lift (fun _ _ => trivial))
    simp only [reconciliation_unit, bind_eq_ok] at hunit
    obtain ⟨mutation, -, state_value, -, hmade⟩ := hunit
    show unit.val.expected_mailbox_cut = none
    rw [UnitOfWork.make_eq_ok hmade]

end Port

/-! ## The executor -/

namespace DurableEffectExecutor

variable (executor : DurableEffectExecutor) (permit : DispatchPermit)

theorem load_invocation_asks :
    Always Query.commits_nothing (fun _ => True) (load_invocation permit) :=
  have hload : Query.commits_nothing (.load_effect_slot permit.session_id permit.effect_id) :=
    trivial
  Always.await_bind hload (fun _ => Always.lift_bind (fun _ _ => Always.lift (fun _ _ => trivial)))

theorem claim_attempt_asks :
    Always Query.commits_nothing (fun _ => True) (executor.claim_attempt permit) := by
  refine Always.bind (load_invocation_asks permit) (fun invocation _ => ?_)
  refine Always.await_bind trivial (fun loaded => Always.lift_bind (fun attempt _ => ?_))
  refine Always.lift_bind (fun _ _ => Always.await_bind trivial (fun claimed_at => ?_))
  refine Always.await_bind trivial (fun reserve_answer => Always.lift_bind (fun reserved _ => ?_))
  refine Always.await_bind trivial (fun now => Always.await_bind trivial (fun start_answer => ?_))
  exact Always.lift_bind (fun started _ => Always.lift_bind (fun _ _ => trivial))

theorem quiesce_with_asks (evidence_ref : String) :
    Always Query.commits_nothing (fun _ => True) (executor.quiesce_with permit evidence_ref) := by
  refine Always.lift_bind (fun _ _ => Always.await_bind trivial (fun now => ?_))
  refine Always.await_bind trivial (fun answer => Always.lift_bind (fun quiescent _ => ?_))
  exact Always.await_bind trivial (fun _ => Always.lift_bind (fun _ _ => trivial))

theorem claim_failed_asks (error : StoreError) :
    Always Query.commits_nothing (fun _ => True) (executor.claim_failed permit error) := by
  refine Always.bind (?_ : Always Query.commits_nothing (fun _ => True)
    (executor.quiesce_after_claim_failure permit)) (fun cleanup _ => ?_)
  · refine Always.handle (Always.bind (quiesce_with_asks executor permit _) (fun outcome _ => ?_))
      (fun error => trivial)
    match outcome with
    | .cancelled => trivial
    | .returned _ => trivial
    | .raised _ => trivial
  · match cleanup with
    | .cancelled => trivial
    | .returned _ => trivial
    | .raised _ => trivial

theorem finish_asks (invocation : DurableEffectInvocation) (claim_generation : Nat)
    (result : EffectExecutionResult) :
    Always Query.commits_nothing (fun _ => True)
      (executor.finish permit invocation claim_generation result) := by
  refine Always.handle (Always.bind (quiesce_with_asks executor permit _) (fun outcome _ => ?_))
    (fun error => trivial)
  match outcome with
  | .cancelled => trivial
  | .returned _ => trivial
  | .raised _ => trivial

theorem run_backend_asks (invocation : DurableEffectInvocation) (started : ExecutorAttemptRecord) :
    Always Query.commits_nothing (fun _ => True)
      (executor.run_backend permit invocation started) := by
  have hcancelled : Always Query.commits_nothing (fun _ => True)
      (executor.quiesce_cancelled permit invocation started.claim_generation) :=
    Always.bind (quiesce_with_asks executor permit _) (fun _ _ => trivial)
  refine Always.await_bind trivial (fun caller_cancelled => ?_)
  by_cases hcaller : caller_cancelled = true
  · rw [if_pos hcaller]
    exact hcancelled
  · rw [if_neg hcaller]
    refine Always.await_bind trivial (fun outcome => ?_)
    match outcome with
    | .cancelled => exact hcancelled
    | .raised error => exact finish_asks executor permit _ _ _
    | .returned result => exact finish_asks executor permit _ _ _

theorem execute_asks : Always Query.commits_nothing (fun _ => True) (executor.execute permit) := by
  refine Always.lift_bind (fun _ _ => ?_)
  refine Always.bind (?_ : Always Query.commits_nothing (fun _ => True)
    (executor.attempt_claim permit)) (fun claim _ => ?_)
  · exact Always.handle (Always.bind (claim_attempt_asks executor permit) (fun _ _ => trivial))
      (fun _ => trivial)
  · match claim with
    | .inr error => exact claim_failed_asks executor permit error
    | .inl (invocation, started) => exact run_backend_asks executor permit invocation started

end DurableEffectExecutor

/-! ## The segment -/

structure SegmentHost.Asks {Q : Type} {A : Q → Type} (host : SegmentHost Q A) (asks : Q → Prop) :
    Prop where
  observe : Always asks (fun _ => True) host.observe
  generate : ∀ request snapshot, Always asks (fun _ => True) (host.generate request snapshot)
  commit_transition : ∀ request, Always asks (fun _ => True) (host.commit_transition request)
  commit_settlement : ∀ request, Always asks (fun _ => True) (host.commit_settlement request)
  commit_reconciliation : ∀ request,
    Always asks (fun _ => True) (host.commit_reconciliation request)

theorem DurableRuntime.host_asks (runtime : DurableRuntime) : runtime.host.Asks Query.plain where
  observe := Always.await trivial (fun _ => trivial)
  generate := fun _ _ => Always.await_bind trivial (fun _ => Always.lift (fun _ _ => trivial))
  commit_transition := commit_transition_asks
  commit_settlement := commit_settlement_asks
  commit_reconciliation := commit_reconciliation_asks

namespace Segment

variable {Q : Type} {A : Q → Type} {asks : Q → Prop} {host : SegmentHost Q A} {frame : Frame}

/-- Where a round that started from `frame` may lead: the segment keeps its request and its
mailbox cut, and an authorization it heads for is the one it prepared. -/
def Follows (frame : Frame) : Segment → Prop
  | .looping next => next.request = frame.request ∧ next.mailbox_cut = frame.mailbox_cut
  | .authorizing next authorization =>
    next.request = frame.request ∧ next.mailbox_cut = frame.mailbox_cut
      ∧ ∃ proposal approval defer_commit,
        authorization_request next proposal authorization.plan approval defer_commit
          = .ok authorization.request
  | .reconciling _ => False
  | .ended _ => True
  | .cancelled => True

theorem guarded_asks {body : Dialogue Q A StoreError Segment} (h : Always asks (Follows frame) body) :
    Always asks (Follows frame) (guarded frame body) :=
  h.handle (fun _ => trivial)

theorem unless_raised_asks {next : ControlSnapshot → Dialogue Q A StoreError Segment}
    (hobserve : Always asks (fun _ => True) host.observe)
    (h : ∀ snapshot, Always asks (Follows frame) (next snapshot)) :
    Always asks (Follows frame) (unless_raised host frame next) := by
  refine Always.bind hobserve (fun snapshot _ => ?_)
  cases hraised : snapshot.raised with
  | some reason => exact trivial
  | none => exact h snapshot

theorem dispatch_asks (hobserve : Always asks (fun _ => True) host.observe)
    (hexecute : ∀ permit, Always asks (fun _ => True) (host.execute permit))
    (authorization : Authorization) (permit : DispatchPermit) :
    Always asks (Follows frame) (dispatch host frame authorization permit) := by
  refine Always.lift_bind (fun _ _ => ?_)
  refine Always.bind (?_ : Always asks (fun _ => True)
    (execution_result host permit)) (fun result _ => ?_)
  · refine Always.bind hobserve (fun snapshot _ => ?_)
    cases hraised : snapshot.raised with
    | some reason => exact Always.lift_bind (fun _ _ => trivial)
    | none =>
      refine Always.lift_bind (fun claimed _ => ?_)
      refine Always.bind (?_ : Always asks (fun _ => True) _) (fun outcome _ => ?_)
      · exact (hexecute claimed).handle (fun _ => trivial)
      · match outcome with
        | .returned _ => exact trivial
        | .cancelled => exact Always.lift_bind (fun _ _ => trivial)
        | .raised _ => exact Always.lift_bind (fun _ _ => trivial)
  · exact Always.lift_bind (fun settlement _ => ⟨rfl, rfl⟩)

/-- A segment as `run` starts it. -/
def Started (segment : Segment) : Prop :=
  ∃ request, request.post_init = .ok () ∧ run request = .ok segment

/-- Where a round of a reconciliation may lead: to its next round, to an outcome, or to the
segment of the request it made. -/
def Reconciles : Segment → Prop
  | .reconciling _ => True
  | .ended _ => True
  | segment => segment.Started

section Rounds

variable (hasks : host.Asks asks)

include hasks

theorem generate_asks (request : ModelRequest) :
    Always asks (Follows frame) (generate host frame request) := by
  unfold generate
  split
  · exact trivial
  · refine unless_raised_asks hasks.observe (fun snapshot => ?_)
    refine Always.bind (hasks.generate request snapshot) (fun outcome _ => ?_)
    refine Always.lift (fun segment hsegment => ?_)
    match outcome with
    | .inr reason =>
      cases hsegment
      exact trivial
    | .inl none => cases hsegment
    | .inl (some result) =>
      dsimp only [generated] at hsegment
      split at hsegment
      · cases hsegment
        exact trivial
      · cases hsegment
        exact ⟨rfl, rfl⟩

section

variable (proposal : TransitionProposal)

theorem prepare_dispatch_asks (plan : EffectPlan)
    (action_kind : PreparedEffectActionKind) (approval : Option ApprovalSettlement)
    (defer_commit : Bool) :
    Always asks (Follows frame)
      (prepare_dispatch host frame proposal plan action_kind approval defer_commit) := by
  cases action_kind with
  | APPROVAL_WAIT => exact Always.lift_bind (fun _ _ => trivial)
  | DISPATCH =>
    refine unless_raised_asks hasks.observe (fun _ => Always.lift_bind (fun request hrequest => ?_))
    exact ⟨rfl, rfl, proposal, approval, defer_commit, hrequest⟩

theorem act_asks (approval : Option ApprovalSettlement) (defer_commit : Bool) :
    Always asks (Follows frame) (act host frame proposal approval defer_commit) := by
  unfold act
  split
  · exact trivial
  · exact trivial
  · exact trivial
  · exact generate_asks hasks _
  · exact prepare_dispatch_asks hasks _ _ _ _ _

theorem committed_asks (state_version : OperationStateVersion)
    (approval : Option ApprovalSettlement) :
    Always asks (Follows frame) (committed host frame proposal state_version approval) := by
  -- only the current state differs between the two frames, and `Follows` does not look at it
  show Always asks (Follows { frame with current_state := state_version }) _
  refine guarded_asks ?_
  split
  · split
    · exact trivial
    · exact unless_raised_asks hasks.observe (fun _ => act_asks hasks _ _ _)
  · exact unless_raised_asks hasks.observe (fun _ => act_asks hasks _ _ _)
  · exact act_asks hasks _ _ _

section

variable (approval : Option ApprovalSettlement)

theorem answered_asks (result : CommitResult) :
    Always asks (Follows frame) (answered host frame proposal approval result) := by
  unfold answered
  split
  · exact ⟨rfl, rfl⟩
  · refine Always.lift_bind (fun answer _ => ?_)
    match answer with
    | .inl (state_version, _) => exact committed_asks hasks _ _ _
    | .inr (_, _) => exact trivial

theorem commit_transition_asks :
    Always asks (Follows frame) (commit_transition host frame proposal approval) :=
  Always.lift_bind (fun request _ =>
    Always.bind (hasks.commit_transition request)
      (fun result _ => answered_asks hasks proposal approval result))

theorem commit_settlement_asks (settlement : Settlement) :
    Always asks (Follows frame)
      (commit_settlement host frame proposal approval settlement) := by
  unfold commit_settlement
  split
  · exact commit_transition_asks hasks proposal approval
  · refine Always.lift_bind (fun request _ => ?_)
    exact Always.bind (hasks.commit_settlement request)
      (fun result _ => answered_asks hasks proposal approval result)

end

end

/-- **A round of the loop dispatches nothing.** It leads to the loop again, to an authorization it
prepared, or to an outcome. -/
theorem round_asks : Always asks (Follows frame) (round host frame) := by
  refine guarded_asks ?_
  split
  · refine Always.lift_bind (fun _ _ => Always.lift_bind (fun proposal _ => ?_))
    dsimp only
    split
    · exact act_asks hasks _ _ _
    · exact commit_settlement_asks hasks _ _ _
  · refine unless_raised_asks hasks.observe (fun _ => Always.lift_bind (fun proposal _ => ?_))
    exact unless_raised_asks hasks.observe (fun _ => commit_transition_asks hasks _ _)

/-- **A round of a reconciliation dispatches nothing.** -/
theorem reconcile_asks (frame : ReconciliationFrame) :
    Always asks Reconciles (reconcile host frame) := by
  unfold reconcile
  split
  · exact trivial
  · refine Always.bind (hasks.commit_reconciliation _) (fun result _ => ?_)
    unfold reconciliation_answered
    split
    · exact trivial
    · refine Always.lift_bind (fun answer _ => ?_)
      match answer with
      | .inr (_, _) => exact trivial
      | .inl (state_version, _) =>
        dsimp only [reconciled]
        split
        · next request hrequest =>
          refine Always.lift (fun segment hsegment => ?_)
          have hvalid : request.post_init = .ok () := by
            simp only [reconciled_request, bind_eq_ok, pure_eq_ok] at hrequest
            obtain ⟨_, -, _, hvalid, rfl⟩ := hrequest
            exact hvalid
          have hstarted : segment.Started := ⟨request, hvalid, hsegment⟩
          cases segment with
          | reconciling _ => trivial
          | ended _ => trivial
          | looping _ => exact hstarted
          | authorizing _ _ => exact hstarted
          | cancelled => exact hstarted
        · exact trivial

end Rounds

end Segment

end CodingAgentLoop
