/-
At which mailbox cuts effects are dispatched.

The store dispatches an effect only at the session's current dispatch generation, and
a cancel, an interrupt or a denial raises that generation. So a dispatch at a cut its
coordinator has covered -- the cut its segment started from, or one a snapshot that was
not raised has reached -- is a dispatch behind which no such command went unobserved.

The coordinator keeps to that except in one place: when its cut was stale, it goes on
with the larger of the store's cut and the probe's generation. With a probe that lags
behind the store that is a cut nobody has observed. `CaughtUp` is what the retry needs
of the probe; under it every dispatch of every run is covered (`dispatch_fence`), and
without it a cancelled effect is dispatched (`lagging_probe_dispatches`).
-/
import CodingAgentLoop.SegmentQueries
import CodingAgentLoop.MailboxLedger

open Lib Dialogue

namespace CodingAgentLoop

open List Result

/-! ## What a coordinator has covered -/

def Observed (history : TaskHistory) (generation : Nat) : Prop :=
  ∃ snapshot : ControlSnapshot, (⟨.observe, snapshot⟩ : (query : Query) × Answer query) ∈ history
    ∧ snapshot.raised = none ∧ generation ≤ snapshot.generation

/-- The cut is the one the segment started from, or it was observed. -/
def Covered (request : RunSegmentRequest) (history : TaskHistory) (cut : Nat) : Prop :=
  mailbox_cut request = .ok cut ∨ Observed history cut

/-- The last answer was that the mailbox cut is stale, and `current` is the store's. -/
def AnsweredStale (history : TaskHistory) (current : Nat) : Prop :=
  ∃ authority unit expected, history.getLast?
    = some ⟨.commit authority unit, .error (.StaleMailboxCutError expected current)⟩

/-- Behind a stale cut, a snapshot that is not raised leaves nothing up to the store's cut
unobserved. -/
def CaughtUp (history : TaskHistory) : (query : Query) → Answer query → Prop
  | .observe, snapshot => ∀ current, AnsweredStale history current →
      (snapshot : ControlSnapshot).raised = none →
        Observed (history ++ [⟨.observe, snapshot⟩]) current
  | _, _ => True

theorem Observed.mono {history later : TaskHistory} {generation : Nat}
    (h : Observed history generation) (hlater : history <+: later) : Observed later generation := by
  obtain ⟨snapshot, hmem, hraised, hle⟩ := h
  exact ⟨snapshot, hlater.subset hmem, hraised, hle⟩

theorem Covered.mono {request : RunSegmentRequest} {history later : TaskHistory} {cut : Nat}
    (h : Covered request history cut) (hlater : history <+: later) : Covered request later cut :=
  h.imp_right (fun hobserved => hobserved.mono hlater)

/-! ## The coordinator -/

section Coordinator

variable {hosts : Nat → DurableRuntime} {history : TaskHistory}

/-- What a segment dispatches at: a dispatch is authorized at a covered cut. -/
def Fenced (head : Segment) (history : TaskHistory) (query : Query) : Prop :=
  ∀ cut, query.dispatch_cut = some cut → ∃ frame authorization,
    head = .authorizing frame authorization ∧ Covered frame.request history cut

/-- The cut a segment holds is covered, and it is the one its authorization asks for. -/
def CutCovered (history : TaskHistory) : Segment → Prop
  | .looping frame => Covered frame.request history frame.mailbox_cut
  | .authorizing frame authorization =>
    Covered frame.request history frame.mailbox_cut
      ∧ authorization.request.mailbox_cut = frame.mailbox_cut
  | .reconciling _ => True
  | .ended _ => True
  | .cancelled => True

theorem Fenced.of_dispatch_cut {head : Segment} {query : Query}
    (h : query.dispatch_cut = none) : Fenced head history query := by
  intro cut hcut
  rw [h] at hcut
  cases hcut

variable {frame : Frame}

theorem authorization_request_mailbox_cut {proposal : TransitionProposal} {plan : EffectPlan}
    {approval : Option ApprovalSettlement} {defer_commit : Bool}
    {request : DispatchAuthorizationRequest}
    (h : Segment.authorization_request frame proposal plan approval defer_commit = .ok request) :
    request.mailbox_cut = frame.mailbox_cut := by
  simp only [Segment.authorization_request, bind_eq_ok, pure_eq_ok] at h
  obtain ⟨_, -, _, -, _, -, rfl⟩ := h
  rfl

theorem CutCovered.of_follows {segment : Segment}
    (hcovered : Covered frame.request history frame.mailbox_cut)
    (hfollows : Segment.Follows frame segment) : CutCovered history segment := by
  cases segment with
  | looping next =>
    obtain ⟨hrequest, hcut⟩ := hfollows
    change Covered next.request history next.mailbox_cut
    rw [hrequest, hcut]
    exact hcovered
  | authorizing next authorization =>
    obtain ⟨hrequest, hcut, proposal, approval, defer_commit, hprepared⟩ := hfollows
    refine ⟨?_, authorization_request_mailbox_cut hprepared⟩
    rw [hrequest, hcut]
    exact hcovered
  | reconciling _ => trivial
  | ended _ => trivial
  | cancelled => trivial

theorem CutCovered.of_started {segment : Segment} (h : segment.Started) :
    CutCovered history segment := by
  obtain ⟨request, -, hrun⟩ := h
  simp only [Segment.run, bind_eq_ok, pure_eq_ok] at hrun
  obtain ⟨cut, hcut, rfl⟩ := hrun
  exact Or.inl hcut

theorem authorized_asks (request : DispatchAuthorizationRequest) (commit : AuthoritativeCommit) :
    Always Query.plain (fun result => ∀ expected current,
        result ≠ .StaleMailboxCut expected current)
      (DurableCommitPort.authorized request commit) := by
  unfold DurableCommitPort.authorized
  split
  · refine Always.lift (fun result hresult => ?_)
    simp only [exact_replay, bind_eq_ok, pure_eq_ok] at hresult
    obtain ⟨_, -, rfl⟩ := hresult
    exact fun _ _ hstale => by cases hstale
  · refine Always.lift_bind (fun committed _ => Always.await_bind trivial (fun permit_token => ?_))
    split
    · exact fun _ _ hstale => by cases hstale
    · exact Always.lift_bind (fun permit _ _ _ hstale => by cases hstale)

variable {authorization : Authorization}

/-- What the port answers to an authorization. It commits at the cut it was asked to, and a
stale cut is the store's last answer. -/
theorem authorize_dispatch_meets {rely : TaskHistory → (query : Query) → Answer query → Prop}
    {session_state : JsonObject}
    (hcovered : Covered frame.request history authorization.request.mailbox_cut) :
    Dialogue.Meets rely (Fenced (.authorizing frame authorization))
      (fun later result => history <+: later ∧ ∀ expected current,
        result = .ok (.StaleMailboxCut expected current) → AnsweredStale later current)
      (DurableCommitPort.authorize_dispatch session_state authorization.request) history := by
  have hplain : ∀ earlier later query, earlier <+: later → Query.plain query →
      Fenced (.authorizing frame authorization) later query :=
    fun _ _ _ _ hquery => Fenced.of_dispatch_cut hquery.dispatch_cut_eq
  have hclock : Query.plain .clock := trivial
  have hunit := @transition_unit_asks _ session_state hclock
    (DurableCommitPort.authorization_core authorization.request)
    { effect_mutations := [authorization.request.effect_mutation]
      create_child_bindings := false
      expected_mailbox_cut := some authorization.request.mailbox_cut }
  refine Meets.bind (hunit.meets (hplain history) ?_ ?_)
  · rintro built unit hbuilt ⟨facts, hunit⟩
    refine Meets.await_bind ?_ (fun answer _ => ?_)
    · intro cut hcut
      change unit.val.expected_mailbox_cut = some cut at hcut
      rw [hunit] at hcut
      cases hcut
      exact ⟨frame, authorization, rfl, hcovered.mono hbuilt⟩
    · have hextends : history <+: built ++ [⟨.commit _ unit, answer⟩] :=
        hbuilt.trans (prefix_append _ _)
      match answer, hextends with
      | .ok commit, hextends =>
        refine (authorized_asks authorization.request commit).meets (hplain _) ?_ ?_
        · intro later result hlater hresult
          refine ⟨hextends.trans hlater, fun expected current heq => ?_⟩
          cases heq
          exact (hresult expected current rfl).elim
        · exact fun later error hlater => ⟨hextends.trans hlater, fun _ _ heq => by cases heq⟩
      | .error (.StaleMailboxCutError expected current), hextends =>
        refine ⟨hextends, fun expected' current' heq => ?_⟩
        cases heq
        exact ⟨_, unit, expected, List.getLast?_concat⟩
      | .error (.raised cls message), hextends =>
        have hload : ∀ session_id run_id,
            Query.plain (.load_operation_state session_id run_id) := fun _ _ => trivial
        refine (rejected_result_asks hload _ _ _ _).meets (hplain _) ?_ ?_
        · intro later result hlater hresult
          refine ⟨hextends.trans hlater, fun expected current heq => ?_⟩
          cases heq
          cases hresult expected current rfl
        · exact fun later error hlater => ⟨hextends.trans hlater, fun _ _ heq => by cases heq⟩
  · exact fun later error hlater => ⟨hlater, fun _ _ heq => by cases heq⟩

/-- A stale cut is retried at the store's cut or the probe's, whichever is later; behind a probe
that has caught up both are observed. -/
theorem retry_meets {runtime : DurableRuntime} {head : Segment} {current : Nat}
    (hstale : AnsweredStale history current) :
    Dialogue.Meets CaughtUp (Fenced head)
      (fun later result => ∀ segment, result = .ok segment → CutCovered later segment)
      (Segment.unless_raised runtime.host frame (fun snapshot =>
        .done (.authorizing { frame with mailbox_cut := max current snapshot.generation }
          { authorization with request :=
            { authorization.request with mailbox_cut := max current snapshot.generation } })))
      history := by
  refine Meets.await_bind (Fenced.of_dispatch_cut rfl) (fun snapshot hcaught => ?_)
  cases hraised : (snapshot : ControlSnapshot).raised with
  | some reason =>
    intro segment hsegment
    cases hsegment
    trivial
  | none =>
    intro segment hsegment
    cases hsegment
    refine ⟨Or.inr ?_, rfl⟩
    have hcurrent := hcaught current hstale hraised
    by_cases hle : current ≤ (snapshot : ControlSnapshot).generation
    · rw [Nat.max_eq_right hle]
      exact ⟨snapshot, mem_append_right _ mem_cons_self, hraised, le_refl _⟩
    · rw [Nat.max_eq_left (by omega)]
      exact hcurrent

/-- **An authorization round dispatches at a covered cut and leads to one.** -/
theorem authorize_meets {runtime : DurableRuntime}
    (h : CutCovered history (.authorizing frame authorization)) :
    Dialogue.Meets CaughtUp (Fenced (.authorizing frame authorization))
      (fun later result => ∀ segment, result = .ok segment → CutCovered later segment)
      (Segment.authorize runtime.host frame authorization) history := by
  obtain ⟨hcovered, hcut⟩ := h
  have hport : Covered frame.request history authorization.request.mailbox_cut := by
    rw [hcut]
    exact hcovered
  -- a part that does not commit follows the frame, and so stays covered
  have hfollow : ∀ {later : TaskHistory} {next : Frame} {body : Task Segment}, history <+: later →
      next.request = frame.request → next.mailbox_cut = frame.mailbox_cut →
      Always Query.commits_nothing (Segment.Follows next) body →
      Dialogue.Meets CaughtUp (Fenced (.authorizing frame authorization))
        (fun ended result => ∀ segment, result = .ok segment → CutCovered ended segment)
        body later := by
    intro later next body hlater hrequest hmailbox hbody
    refine hbody.meets (fun _ _ _ hquery => Fenced.of_dispatch_cut hquery.dispatch_cut_eq) ?_ ?_
    · intro ended segment hended hfollows result hresult
      cases hresult
      refine CutCovered.of_follows ?_ hfollows
      rw [hrequest, hmailbox]
      exact hcovered.mono (hlater.trans hended)
    · exact fun _ _ _ _ hresult => by cases hresult
  have hrejected : ∀ later result, history <+: later →
      Dialogue.Meets CaughtUp (Fenced (.authorizing frame authorization))
        (fun ended result => ∀ segment, result = .ok segment → CutCovered ended segment)
        (Segment.guarded frame (Segment.rejected frame result)) later :=
    fun later result hlater => hfollow hlater rfl rfl
      (Segment.guarded_asks (Always.lift_bind (fun _ _ => trivial)))
  refine Meets.handle_bind ((authorize_dispatch_meets hport).imp ?_)
  rintro later (error | result) ⟨hlater, hstale⟩
  · intro segment hsegment
    cases hsegment
    trivial
  · cases result with
    | StaleMailboxCut expected current =>
      refine Meets.handle ((retry_meets (hstale expected current rfl)).imp ?_)
      rintro ended (error | segment) hended
      · intro segment hsegment
        cases hsegment
        trivial
      · exact hended
    | DispatchAuthorized state_version permit notices receipt =>
      have hdispatch : Always Query.commits_nothing
          (Segment.Follows { frame with current_state := state_version })
          (Segment.guarded { frame with current_state := state_version }
            (Segment.dispatch runtime.host { frame with current_state := state_version }
              authorization permit)) :=
        Segment.guarded_asks (Segment.dispatch_asks (Always.await trivial (fun _ => trivial))
          (DurableEffectExecutor.execute_asks runtime.executor) authorization permit)
      exact hfollow hlater rfl rfl (Always.handle hdispatch (fun _ => trivial))
    | Committed => exact hrejected later _ hlater
    | ExactReplay => exact hrejected later _ hlater
    | CASConflict => exact hrejected later _ hlater
    | StaleOwner => exact hrejected later _ hlater
    | InvalidTransition => exact hrejected later _ hlater
    | StorageFailure => exact hrejected later _ hlater

/-- **Every dispatch a segment asks for is at a covered cut.** -/
theorem segments_fenced {host : Host} {events : List WorldEvent} {world : World}
    (hrun : WorldRun host hosts events world) (hcaught : ∀ event ∈ events, event.Relies CaughtUp) :
    ∀ pid process, world.processes pid = some process →
      process.Meets CaughtUp Fenced CutCovered := by
  refine segment_meets ?_ ?_ hrun hcaught
  · rintro segment (hstarted | ⟨frame, rfl⟩)
    · exact CutCovered.of_started hstarted
    · trivial
  · intro pid segment history hcut
    have hplain : ∀ later query, history <+: later → Query.plain query →
        Fenced segment later query :=
      fun _ _ _ hquery => Fenced.of_dispatch_cut hquery.dispatch_cut_eq
    cases segment with
    | authorizing frame authorization => exact authorize_meets hcut
    | looping frame =>
      have hround : Dialogue.Always Query.plain (Segment.Follows frame) _ :=
        Segment.round_asks (hosts pid).host_asks
      refine hround.meets hplain ?_ (fun _ _ _ _ hresult => by cases hresult)
      intro later next hlater hfollows result hresult
      cases hresult
      exact CutCovered.of_follows (Covered.mono hcut hlater) hfollows
    | reconciling frame =>
      have hround := Segment.reconcile_asks (hosts pid).host_asks frame
      refine hround.meets hplain ?_ (fun _ _ _ _ hresult => by cases hresult)
      intro later next _ hreconciles result hresult
      cases hresult
      cases next with
      | looping _ => exact CutCovered.of_started hreconciles
      | authorizing _ _ => exact CutCovered.of_started hreconciles
      | reconciling _ => trivial
      | ended _ => trivial
      | cancelled => trivial
    | ended outcome =>
      intro next hnext
      cases hnext
      trivial
    | cancelled =>
      intro next hnext
      cases hnext
      trivial

end Coordinator

/-! ## The store -/

/-- A fresh dispatch happens at the generation of its session, behind every admission so far. -/
theorem dispatch_behind_admissions {host : Host} {events : List StoreEvent} {db db' : Tables}
    (hrun : StoreRun host events db) {clock : Datetime} {authority : OwnerAuthority}
    {unit : UnitOfWork} {stored : Option JsonObject} {new_sessions_enabled : Bool}
    {answer : Except StoreError StoreAnswer} {cut : Nat}
    (hstep : StoreStep host db (.call clock
      (.commit_authoritative_uow authority unit stored new_sessions_enabled) answer) db')
    (hfresh : (StoreEvent.call clock
      (.commit_authoritative_uow authority unit stored new_sessions_enabled) answer).fresh = true)
    (hcut : unit.val.expected_mailbox_cut = some cut) :
    ∀ command admission, (command, admission) ∈ admitted_commands authority.session_id events →
      admission.mailbox_cut ≤ cut := by
  intro command admission hmem
  have hreached := (admissions_counted hrun authority.session_id).reached command admission hmem
  suffices hgeneration : (db.fact_source authority.session_id).dispatch_generation = cut by
    rwa [hgeneration] at hreached
  cases step_kind hstep with
  | quiet replayed _ =>
    rw [hfresh] at replayed
    cases replayed
  | attempt target owner hwritten => simp [StoreEvent.fresh, StoreAnswer.fresh] at hfresh
  | legacy untyped event_eq hlegacy =>
    -- a legacy unit has no mailbox cut
    rw [AuthoritativeUnitOfWork.legacy_mailbox_cut unit.property untyped] at hcut
    cases hcut
  | typed hcommit =>
    have hchecked := hcommit.fresh.mailbox_cut
    unfold check_mailbox_cut at hchecked
    rw [hcut] at hchecked
    dsimp only at hchecked
    split at hchecked
    · cases hchecked
    · next heq => exact not_not.mp heq

/-! ## The fence -/

/-- Every dispatch the run committed for a segment was at a cut the segment had covered, and every
command admitted before it that invalidates dispatches lies behind the segment's start or was
observed. -/
def DispatchFence (events : List WorldEvent) : Prop :=
  ∀ before pid head history authority unit answer stored after cut,
    events = before ++ .answered pid head history (.commit authority unit) answer stored :: after →
    unit.val.expected_mailbox_cut = some cut → (∃ event ∈ stored, event.fresh = true) →
    ∃ frame authorization, head = .authorizing frame authorization
      ∧ Covered frame.request history cut
      ∧ ∀ command admission,
          (command, admission) ∈ admitted_commands authority.session_id (store_events before) →
          command.invalidates_dispatch = true →
          (∃ start, mailbox_cut frame.request = .ok start ∧ admission.mailbox_cut ≤ start)
            ∨ Observed history admission.mailbox_cut

/-- **The dispatch fence.** In a run whose probes have caught up behind every stale cut, no effect
is dispatched past a cancel, an interrupt or a denial that its segment has not observed. -/
theorem dispatch_fence {host : Host} {hosts : Nat → DurableRuntime} {events : List WorldEvent}
    {world : World} (hrun : WorldRun host hosts events world)
    (hcaught : ∀ event ∈ events, event.Relies CaughtUp) : DispatchFence events := by
  rintro before pid head history authority unit answer stored after cut rfl hcut
    ⟨event, hevent, hfresh⟩
  obtain ⟨world₁, world₂, hbefore, hstep, -⟩ := Run.split hrun
  have hsegments := segments_fenced hbefore
    (fun event hmem => hcaught event (mem_append_left _ hmem))
  obtain ⟨frame, authorization, hhead, hcovered⟩ := guard_of_answered hsegments hstep cut hcut
  refine ⟨frame, authorization, hhead, hcovered, fun command admission hmem _ => ?_⟩
  have hstore := WorldRun.stored_run hbefore
  -- whichever way the commit was answered, the store took one step for it
  have hle : admission.mailbox_cut ≤ cut := by
    cases hstep with
    | answered waiting answers =>
      cases answers with
      | committed step =>
        cases mem_singleton.mp hevent
        exact dispatch_behind_admissions hstore step hfresh hcut command admission hmem
      | commit_unacknowledged step =>
        cases mem_singleton.mp hevent
        exact dispatch_behind_admissions hstore step hfresh hcut command admission hmem
      | read found => cases hevent
      | failed found => cases hevent
      | outside h => cases hevent
  rcases hcovered with hstart | ⟨snapshot, hobserved, hraised, hgeneration⟩
  · exact Or.inl ⟨cut, hstart, hle⟩
  · exact Or.inr ⟨snapshot, hobserved, hraised, le_trans hle hgeneration⟩

/-! ## A probe that lags

An approved effect waits for its dispatch when a cancel is admitted. The probe reports
generation 0 throughout, as a serving probe does. -/

def sample_plan : EffectPlan where
  effect_id := "e"
  attempt_id := "a"
  effect_kind := "tool"
  payload := [("tool_call_id", .str "call"), ("tool_name", .str "read"), ("arguments", .obj [])]
  requires_approval := true
  approval_request_id := some "ask"

def sample_state : OperationStateVersion where
  run_id := "r"
  revision := 1
  projection_epoch := 0
  commit_ref := { transition_id := "t1" }
  value :=
    [("_agentkit_runtime", .obj
      [("mailbox_cut", .int 0),
       ("pending_effect_plans", .arr [effect_plan_value sample_plan])])]

def sample_plan_unit : UnitOfWork :=
  ⟨{ session_state := [("id", .str "s")]
     transition_id := some "t1"
     state_cas := some ⟨"r", 0, 0⟩
     state_value := some sample_state.value
     effect_mutations := [EffectMutation.prepare sample_plan]
     effect_plans := [sample_plan] }, by decide⟩

def sample_approval : RuntimeCommand where
  command_id := "approve"
  command_kind := "approval_decision"
  payload := [("approved", .bool true)]

def sample_segment_request : RunSegmentRequest where
  session_id := "s"
  owner_id := "worker"
  owner_epoch := 1
  state_version := sample_state
  step_input := .ApprovalResolved
    { input_id := "i", command_id := "approve", tool_call_id := "call", tool_name := "read",
      effect_id := "e", attempt_id := "a", transition_id := "t1", owner_epoch := 1,
      approved := true }
  max_rounds := 3

def sample_runtime : DurableRuntime where
  session_state := [("id", .str "s")]
  executor :=
    { owner_id := "worker"
      executor_id := "x"
      reservation_lease := 100
      quiescence_evidence_factory := fun _ _ => "evidence" }

def sample_approved : List WorldInput :=
  [.client (.owner_changed "s" ⟨"worker", 1000, 1⟩),
   .client (.call 1 (.commit_authoritative_uow sample_owner sample_plan_unit none false)),
   .client (.call 2 (.admit_runtime_command sample_owner sample_approval)),
   .spawned 0 sample_segment_request,
   .replied 0 (.observed { generation := 0 }),
   .looped 0]

def sample_lagging : List WorldInput :=
  sample_approved ++
  [.client (.call 3 (.admit_runtime_command sample_owner sample_cancel)),
   .replied 0 (.transaction 4 none false),
   .replied 0 (.observed { generation := 0 }),
   .looped 0,
   .replied 0 (.transaction 5 none false)]

def sample_events (script : List WorldInput) : List WorldEvent :=
  ((play_world sample_host (fun _ => sample_runtime) World.empty script).map Prod.fst).getD []

theorem sample_run {script : List WorldInput}
    (h : (play_world sample_host (fun _ => sample_runtime) World.empty script).isSome = true) :
    ∃ world, WorldRun sample_host (fun _ => sample_runtime) (sample_events script) world := by
  obtain ⟨⟨events, world⟩, hplayed⟩ := Option.isSome_iff_exists.mp h
  refine ⟨world, ?_⟩
  rw [sample_events, hplayed]
  exact play_world_run hplayed

def WorldEvent.before_commits : WorldEvent → Bool
  | .answered _ _ history _ _ _ => history.all (fun exchange =>
    match exchange.1 with
    | .commit _ _ => false
    | _ => true)
  | _ => true

theorem WorldEvent.before_commits.relies {event : WorldEvent} (h : event.before_commits = true) :
    event.Relies CaughtUp := by
  cases event with
  | spawned _ _ => trivial
  | looped _ _ => trivial
  | client _ => trivial
  | answered pid head history query answer stored =>
    cases query with
    | observe =>
      rintro current ⟨authority, unit, expected, hlast⟩
      have hexchange := all_eq_true.mp h _ (List.mem_of_getLast? hlast)
      cases hexchange
    | _ => trivial

/-- The approved effect of the sample segment is dispatched behind the fence. -/
theorem sample_dispatch_fenced :
    DispatchFence (sample_events (sample_approved ++ [.replied 0 (.transaction 4 none false)])) :=
  (sample_run (by decide +kernel)).elim (fun _ hrun => dispatch_fence hrun (fun event hmem =>
    WorldEvent.before_commits.relies (all_eq_true.mp
      (show (sample_events (sample_approved ++ [.replied 0 (.transaction 4 none false)])).all
        WorldEvent.before_commits = true by decide +kernel) event hmem)))

/-- The event dispatches at a cut that is neither the segment's start nor observed. -/
def WorldEvent.dispatches_unobserved (cut : Nat) : WorldEvent → Bool
  | .answered _ (.authorizing frame _) history (.commit _ unit) _ stored =>
    unit.val.expected_mailbox_cut = some cut && stored.any StoreEvent.fresh
      && (match mailbox_cut frame.request with
        | .ok start => start ≠ cut
        | .error _ => true)
      && history.all (fun exchange =>
        match exchange with
        | ⟨.observe, snapshot⟩ => (snapshot : ControlSnapshot).generation < cut
        | _ => true)
  | _ => false

theorem DispatchFence.last_observed {events : List WorldEvent} (h : DispatchFence events)
    {event : WorldEvent} (hlast : events.getLast? = some event) (cut : Nat) :
    event.dispatches_unobserved cut = false := by
  obtain ⟨before, rfl⟩ := List.getLast?_eq_some_iff.mp hlast
  by_contra hunobserved
  rw [Bool.not_eq_false] at hunobserved
  unfold WorldEvent.dispatches_unobserved at hunobserved
  split at hunobserved
  · next pid frame authorization history authority unit answer stored =>
    simp only [Bool.and_eq_true, decide_eq_true_eq, any_eq_true] at hunobserved
    obtain ⟨⟨⟨hcut, hfresh⟩, hstart⟩, hhistory⟩ := hunobserved
    obtain ⟨frame', authorization', hhead, hcovered, -⟩ :=
      h before pid _ history authority unit answer stored [] cut rfl hcut hfresh
    cases hhead
    rcases hcovered with hcovered | ⟨snapshot, hmem, -, hle⟩
    · rw [hcovered] at hstart
      simp at hstart
    · have hbelow := all_eq_true.mp hhistory _ hmem
      simp only [decide_eq_true_eq] at hbelow
      omega
  · cases hunobserved

/-- **A probe that lags lets a cancelled effect be dispatched.** -/
theorem lagging_probe_dispatches :
    ¬ ∀ (host : Host) (hosts : Nat → DurableRuntime) (events : List WorldEvent) (world : World),
      WorldRun host hosts events world → DispatchFence events := by
  intro hall
  have htaken : (play_world sample_host (fun _ => sample_runtime) World.empty
      sample_lagging).isSome = true := by decide +kernel
  obtain ⟨world, hrun⟩ := sample_run htaken
  have hfence := hall sample_host _ _ _ hrun
  have hlast : (sample_events sample_lagging).getLast?.map
      (WorldEvent.dispatches_unobserved 1) = some true := by decide +kernel
  obtain ⟨event, hevent, hdispatches⟩ := Option.map_eq_some_iff.mp hlast
  rw [hfence.last_observed hevent 1] at hdispatches
  cases hdispatches

end CodingAgentLoop
