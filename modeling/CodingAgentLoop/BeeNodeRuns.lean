/-
Passes and task calls that go on at once, and the nodes they claim.

A claim is sound when it finds what the pass was told; closing a task is final when nobody takes a
node back that was written already. `Undisturbed` says of one event what has to hold for that. In a
run of such events every claim is returned by its pass, and a task that is closed stays closed.
-/
import CodingAgentLoop.BeeClaims

namespace CodingAgentLoop.Bee

open Lib Crew List

variable {host : BeeHost}

/-! ## Claims -/

/-- The node an event claims: it was pending, and is ready. -/
def claimed_by : BeeEvent → Option NodeKey
  | .answered _ _ _ (.claim_ready_node task_id node_id _ _) _ before after =>
    if before.node_status (task_id, node_id) = some .pending
        ∧ after.node_status (task_id, node_id) = some .ready then
      some (task_id, node_id)
    else none
  | _ => none

def claim_of (pid : Nat) (event : BeeEvent) : Option NodeKey :=
  match event with
  | .answered other _ _ _ _ _ _ => if other = pid then claimed_by event else none
  | _ => none

def claims_of (pid : Nat) (events : List BeeEvent) : List NodeKey := events.filterMap (claim_of pid)

def MadePending (key : NodeKey) (event : BeeEvent) : Prop :=
  event.Leaves (fun tables => tables.node_status key ≠ some .pending)

def Ready (tables : BeeTables) (key : NodeKey) : Prop :=
  tables.task_status key.1 = some .running
    ∧ ∀ row, tables.nodes.row key = some row → ∀ dependency_id ∈ row.depends_on,
      tables.node_status (key.1, dependency_id) = some .completed

/-- A pass may claim the node: it is pending, or `resume_task` puts it back. -/
def BeeNodeStatus.reclaimable (status : BeeNodeStatus) : Bool :=
  status = .pending || !status.stays

/-- What the calls are to make of the nodes. -/
structure NodesKept (events : List BeeEvent) (crew : BeeCrew) : Prop where
  once : ∀ first claim middle again last key, events = first ++ claim :: middle ++ again :: last →
    claimed_by claim = some key → claimed_by again = some key → ∃ event ∈ middle, MadePending key event
  ready : ∀ event ∈ events, ∀ key, claimed_by event = some key →
    ∃ before after, event.access = some (before, after) ∧ Ready before key
  returned : ∀ pid caller, crew.callers pid = some caller → caller.call.is_pass = true →
    ∀ intents, caller.rest = .done (.intents intents) → intents.map (·.key) = claims_of pid events
  kept : ∀ first claim last pid key, events = first ++ claim :: last → claim_of pid claim = some key →
    (∀ caller, crew.callers pid = some caller → ∀ error, caller.rest ≠ .fail error)
      ∨ (∃ event ∈ last, MadePending key event)
      ∨ ∃ status, crew.shared.node_status key = some status ∧ status.reclaimable = true
  closed : ∀ earlier pid call history query answer before after,
    events = earlier ++ [.answered pid call history query answer before after] →
      ∀ task_id, call.closes = some task_id → ∀ caller result, crew.callers pid = some caller →
        caller.rest = .done result → ∀ node_id status,
          after.node_status (task_id, node_id) = some status → status.final = true
  unclaimed : ∀ earlier event, events = earlier ++ [event] → ∀ key, claimed_by event = some key →
    ∀ pid caller, crew.callers pid = some caller → caller.call.closes = some key.1 →
      ∀ result, caller.rest ≠ .done result

/-! ## What disturbs a call -/

def ListedTasks (pid : Nat) : BeeEvent → Prop
  | .answered other _ _ (.list_tasks _ _ _ _) _ _ _ => other = pid
  | _ => False

def ListedNodes (pid : Nat) (task_id : String) : BeeEvent → Prop
  | .answered other _ _ (.list_nodes listed) _ _ _ => other = pid ∧ listed = task_id
  | _ => False

/-- Since the pass listed the tasks, this one did not stop running; since it listed its nodes, no
dependency of this one ceased to be completed. -/
def Unspoiled (earlier : List BeeEvent) (pid : Nat) (before : BeeTables) (key : NodeKey) : Prop :=
  Since (ListedTasks pid)
      (fun event => ¬ event.Leaves (fun tables => tables.task_status key.1 = some .running)) earlier
    ∧ ∀ row, before.nodes.row key = some row → ∀ dependency_id ∈ row.depends_on,
      Since (ListedNodes pid key.1) (fun event => ¬ event.Leaves (fun tables =>
        tables.node_status (key.1, dependency_id) = some .completed)) earlier

def NoRevival (before after : BeeTables) : Prop :=
  ∀ task_id, before.task_status task_id = some .cancelled →
    after.task_status task_id = some .cancelled

/-- The call is on its way and has listed the nodes of the task it closes. -/
def IsClosing (task_id : String) (caller : Caller BeeCall BeeQuery BeeQuery.Answer StoreError BeeResult) :
    Prop :=
  caller.call.closes = some task_id ∧ (∃ query resume, caller.rest = .ask query resume)
    ∧ ∃ nodes, nodes_listed task_id nodes ∈ caller.history

/-- No node that was done with is taken back behind another call that is closing its task, and is
past it. -/
def NoReopening (crew : BeeCrew) (pid : Nat) (before after : BeeTables) : Prop :=
  ∀ key status status', before.node_status key = some status → status.final = true →
    after.node_status key = some status' → ¬ status'.final = true →
      ∀ other caller, other ≠ pid → crew.callers other = some caller → IsClosing key.1 caller →
        StillToWrite key.1 caller.history key

/-- The event disturbs no call: a call of the store does not fail in a pass that claimed a node, a
node that is claimed is as it was listed, no task comes back that was cancelled, and no node that
was done with is taken back while its task is being closed. -/
def Undisturbed (earlier : List BeeEvent) (crew : BeeCrew) : BeeEvent → Prop
  | .answered pid call history query answer before after =>
    (call.is_pass = true → claims history ≠ [] → ∀ error, answer ≠ .error error)
      ∧ (∀ key, claimed_by (.answered pid call history query answer before after) = some key →
          Unspoiled earlier pid before key)
      ∧ NoRevival before after ∧ NoReopening crew pid before after
  | _ => True

abbrev UndisturbedRun (host : BeeHost) (start : BeeCrew) : List BeeEvent → BeeCrew → Prop :=
  RunWhere (BeeStep host) Undisturbed start

/-! ## What is remembered -/

/-- What the rows still show of an answer: it was true; the nodes it listed depend on what they did
and pass their checks; a task it cancelled is cancelled. -/
structure Shows (host : BeeHost) (tables : BeeTables) (query : BeeQuery) (answer : query.Answer) :
    Prop where
  true_once : ∃ before after, Tells host before after query answer
  nodes : ∀ task_id nodes, (⟨query, answer⟩ : BeeTold) = nodes_listed task_id nodes → ∀ node ∈ nodes,
    ∃ row, tables.nodes.row node.key = some row ∧ row.depends_on = node.depends_on
      ∧ Valid host node.key row
  cancelled : ∀ task_id, cancelled ⟨query, answer⟩ = some task_id →
    tables.task_status task_id = some .cancelled

section Answers

variable {before after : BeeTables} {query : BeeQuery} {answer : query.Answer}

theorem answers_reads (h : host.Answers before query answer after) (htask : query.task_write = none)
    (hnode : query.node_write = none) : after = before := by
  rcases answers_left h with hsame | ⟨task_id, status, hwrite, -⟩ | ⟨key, status, hwrite, -⟩
  · exact hsame
  · rw [htask] at hwrite
    cases hwrite
  · rw [hnode] at hwrite
    cases hwrite

theorem answers_show (h : host.Answers before query answer after) : Shows host after query answer := by
  have htells := answers_tell h
  refine ⟨⟨before, after, htells⟩, fun task_id nodes htold node hmem => ?_, fun task_id htold => ?_⟩
  · obtain ⟨rfl, hanswer⟩ := Sigma.mk.inj htold
    obtain rfl := eq_of_heq hanswer
    rw [answers_reads h rfl rfl]
    have hlisted : NodesListed host before task_id nodes := htells
    obtain ⟨-, hrow, hchecked⟩ := hlisted.rows node hmem
    exact ⟨_, hrow, rfl, hchecked⟩
  · cases query with
    | update_task_status other status summary updated_at metadata =>
      cases answer with
      | error error => cases status <;> cases htold
      | ok task =>
        cases status with
        | cancelled =>
          cases htold
          exact htells
        | _ => cases htold
    | _ => cases htold

theorem Shows.keep {other : BeeQuery} {told : other.Answer} (h : Shows host before other told)
    (hanswers : host.Answers before query answer after) (hrevival : NoRevival before after) :
    Shows host after other told := by
  refine ⟨h.true_once, fun task_id nodes htold node hmem => ?_, fun task_id htold => ?_⟩
  · obtain ⟨row, hrow, hdepends, hvalid⟩ := h.nodes task_id nodes htold node hmem
    rcases answers_node hanswers node.key with hsame | ⟨row₁, row', -, hrow₁, hrow', hdepends', hvalid', -⟩
    · exact ⟨row, hsame.trans hrow, hdepends, hvalid⟩
    · rw [hrow] at hrow₁
      obtain rfl := Option.some.inj hrow₁
      exact ⟨row', hrow', hdepends'.trans hdepends, hvalid' hvalid⟩
  · exact hrevival task_id (h.cancelled task_id htold)

end Answers

/-- What holds of the calls of a run nothing disturbs. -/
structure CallsKept (host : BeeHost) (earlier : List BeeEvent) (crew : BeeCrew) : Prop where
  follows : Follows CallAsks (CallEnds host) crew
  shown : Remembers (Shows host) crew
  counted : ∀ pid caller, crew.callers pid = some caller →
    claims caller.history = claims_of pid earlier
  unstarted : ∀ pid, crew.callers pid = none → claims_of pid earlier = []
  quiet : ∀ pid caller, crew.callers pid = some caller → claims caller.history ≠ [] →
    caller.call.is_pass = true ∧ ¬ LastFailed caller.history
  closing : ∀ pid caller task_id, crew.callers pid = some caller → IsClosing task_id caller →
    ∀ node_id status, crew.shared.node_status (task_id, node_id) = some status →
      status.final = true ∨ StillToWrite task_id caller.history (task_id, node_id)

theorem claims_of_snoc (pid : Nat) (earlier : List BeeEvent) (event : BeeEvent) :
    claims_of pid (earlier ++ [event]) = claims_of pid earlier ++ (claim_of pid event).toList := by
  unfold claims_of
  rw [filterMap_append]
  cases hclaim : claim_of pid event with
  | none => simp [hclaim]
  | some key => simp [hclaim]

section Step

variable {earlier : List BeeEvent} {crew crew' : BeeCrew} {pid : Nat} {call : BeeCall}
  {history : BeeHistory} {query : BeeQuery} {answer : query.Answer} {before after : BeeTables}

theorem step_answers
    (hstep : BeeStep host crew (.answered pid call history query answer before after) crew') :
    host.Answers before query answer after := by
  cases hstep with
  | answered _ hanswers => exact hanswers

theorem step_caller
    (hstep : BeeStep host crew (.answered pid call history query answer before after) crew') :
    ∃ resume, crew.callers pid = some ⟨call, .ask query resume, history⟩
      ∧ crew' = crew.resumed pid ⟨call, resume answer, history ++ [⟨query, answer⟩]⟩ after
      ∧ crew.shared = before := by
  cases hstep with
  | answered waiting _ => exact ⟨_, waiting, rfl, rfl⟩

/-- **A claim that takes effect returns**: what a call is told it claimed is what it claimed. -/
theorem claimed_agrees (h : CallsKept host earlier crew)
    (hstep : BeeStep host crew (.answered pid call history query answer before after) crew') :
    claimed ⟨query, answer⟩ = claimed_by (.answered pid call history query answer before after) := by
  have htells := answers_tell (step_answers hstep)
  cases query with
  | claim_ready_node task_id node_id updated_at metadata =>
    -- where the node stays as it is, nothing is claimed
    have hsame (hleft : after = before) : (if before.node_status (task_id, node_id) = some .pending
        ∧ after.node_status (task_id, node_id) = some .ready then some (task_id, node_id) else none)
          = none := by
      rw [hleft, if_neg]
      rintro ⟨hpending, hready⟩
      rw [hpending] at hready
      cases hready
    cases answer with
    | ok updated =>
      cases updated with
      | some node =>
        have hclaimed : NodeClaimed host before after (task_id, node_id) node := htells
        exact (if_pos ⟨hclaimed.pending, hclaimed.ready⟩).symm
      | none => exact (hsame htells).symm
    | error error =>
      rcases htells with hleft | ⟨row, hrow, hinvalid⟩
      · exact (hsame hleft).symm
      · exfalso
        -- the pass was shown the node, and its row still passes the checks
        have hasks := h.follows.asked hstep
        unfold CallAsks at hasks
        split at hasks
        · obtain ⟨task, nodes, node, -, hnodes, ⟨hmem, -⟩, hkey⟩ := hasks
          have hshown := h.shown.answered hstep _ hnodes
          obtain ⟨row', hrow', -, hvalid⟩ := hshown.nodes _ _ rfl node hmem
          rw [hkey, hrow] at hrow'
          obtain rfl := Option.some.inj hrow'
          rw [hkey] at hvalid
          exact hinvalid hvalid
        · cases hasks.1
  | _ => rfl

theorem StillToWrite.snoc {task_id : String} {key : NodeKey} (h : StillToWrite task_id history key)
    {told : BeeTold} (hwrote : wrote told ≠ some (key, .skipped)) :
    StillToWrite task_id (history ++ [told]) key := by
  obtain ⟨nodes, node, hnodes, hmem, hkey, hneeds, hunwritten⟩ := h
  refine ⟨nodes, node, mem_append_left _ hnodes, hmem, hkey, hneeds, fun other hother => ?_⟩
  rcases mem_snoc hother with hold | hnew
  · exact hunwritten other hold
  · rw [hnew]
    exact hwrote

theorem needs_closing_of_not_final {node : BeeNodeRecord} (h : ¬ node.status.final = true) :
    node.needs_closing = true := by
  unfold BeeNodeStatus.final at h
  unfold BeeNodeRecord.needs_closing
  simp only [Bool.or_eq_true, decide_eq_true_eq, not_or] at h ⊢
  exact ⟨h.1, fun hskipped => absurd hskipped.1 h.2⟩

variable {task_id : String} {status : BeeNodeStatus} {node_id : String}

/-- Once a call that closes a task is told something, every node of the task is done with or is
still to be written. -/
theorem closing_told {nodes : List BeeNodeRecord}
    (hanswers : host.Answers before query answer after) (hasks : CloseAsks task_id history query)
    (hlisted : nodes_listed task_id nodes ∈ history ++ [⟨query, answer⟩])
    (h : (∃ nodes, nodes_listed task_id nodes ∈ history) → ∀ node_id status,
      before.node_status (task_id, node_id) = some status →
        status.final = true ∨ StillToWrite task_id history (task_id, node_id))
    (hstatus : after.node_status (task_id, node_id) = some status) :
    status.final = true ∨ StillToWrite task_id (history ++ [⟨query, answer⟩]) (task_id, node_id) := by
  -- a call that leaves the node alone and does not list it
  have hother (hleft : after.node_status (task_id, node_id) = before.node_status (task_id, node_id))
      (hwrote : wrote ⟨query, answer⟩ ≠ some ((task_id, node_id), .skipped))
      (hold : nodes_listed task_id nodes ∈ history) :
      status.final = true
        ∨ StillToWrite task_id (history ++ [⟨query, answer⟩]) (task_id, node_id) := by
    rcases h ⟨nodes, hold⟩ node_id status (hleft.symm.trans hstatus) with hfinal | hstill
    · exact .inl hfinal
    · exact .inr (hstill.snoc hwrote)
  have hreads (hlist : ∀ task_id, query ≠ .list_nodes task_id) (htask : query.task_write = none)
      (hnode : query.node_write = none) (hwrote : wrote ⟨query, answer⟩ = none) :
      status.final = true
        ∨ StillToWrite task_id (history ++ [⟨query, answer⟩]) (task_id, node_id) := by
    refine hother ?_ ?_ ?_
    · rw [answers_reads hanswers htask hnode]
    · rw [hwrote]
      exact (Option.some_ne_none _).symm
    · rcases mem_snoc hlisted with hold | hnew
      · exact hold
      · have hquery := congrArg Sigma.fst hnew
        exact absurd hquery.symm (hlist task_id)
  cases query with
  | load_task other => exact hreads (fun _ heq => by cases heq) rfl rfl rfl
  | record_topic_anchor record => exact hreads (fun _ heq => by cases heq) rfl rfl rfl
  | list_tasks session_id topic_id status limit => exact hasks.elim
  | claim_ready_node other other_node updated_at metadata => exact hasks.elim
  | update_task_status other status summary updated_at metadata =>
    refine hother ?_ (fun hwrote => by cases hwrote) ?_
    · rcases answers_node hanswers (task_id, node_id) with hsame | ⟨row, row', hwrite, -⟩
      · unfold BeeTables.node_status
        rw [hsame]
      · cases hwrite
    · rcases mem_snoc hlisted with hold | hnew
      · exact hold
      · cases hnew
  | list_nodes other =>
    obtain ⟨rfl, hquiet⟩ := hasks
    rcases mem_append.mp hlisted with hold | hnew
    · exact absurd rfl ((hquiet _ hold).2 other nodes)
    · obtain ⟨-, hanswer⟩ := Sigma.mk.inj (mem_singleton.mp hnew)
      obtain rfl := eq_of_heq hanswer
      have htells : NodesListed host before other nodes := answers_tell hanswers
      rw [answers_reads hanswers rfl rfl] at hstatus
      obtain ⟨row, hrow, rfl⟩ := Option.map_eq_some_iff.mp hstatus
      obtain ⟨node, hmem, hkey, rfl⟩ := htells.every node_id row hrow
      by_cases hfinal : node.status.final = true
      · exact .inl hfinal
      · -- the node was listed to be closed, and nothing was written before it was listed
        refine .inr ⟨nodes, node, hlisted, hmem, hkey, needs_closing_of_not_final hfinal,
          fun told htold hwrote => ?_⟩
        rcases mem_snoc htold with hold | hnew
        · have hsilent := (hquiet told hold).1
          obtain ⟨query, answer⟩ := told
          cases query with
          | update_node_status _ _ _ _ _ _ _ _ => cases hsilent
          | _ => cases hwrote
        · rw [hnew] at hwrote
          cases hwrote
  | update_node_status other other_node status' run_id updated_at started_at finished_at metadata =>
    have hasks : status' = .skipped := hasks
    subst hasks
    have hold : nodes_listed task_id nodes ∈ history := by
      rcases mem_snoc hlisted with hold | hnew
      · exact hold
      · cases hnew
    rcases answers_node hanswers (task_id, node_id) with hsame | ⟨row, row', hwrite, -, hrow', -⟩
    · -- the node is as it was, so it was not the one that was written
      by_cases hwrote : wrote ⟨_, answer⟩ = some ((task_id, node_id), .skipped)
      · cases answer with
        | error error => cases hwrote
        | ok node =>
          cases hwrote
          have htells : after.node_status (task_id, node_id) = some .skipped :=
            answers_tell hanswers
          rw [htells] at hstatus
          obtain rfl := Option.some.inj hstatus
          exact .inl rfl
      · refine hother ?_ hwrote hold
        unfold BeeTables.node_status
        rw [hsame]
    · obtain ⟨-, hskipped⟩ := Prod.mk.inj (Option.some.inj hwrite)
      unfold BeeTables.node_status at hstatus
      rw [hrow'] at hstatus
      obtain rfl := Option.some.inj hstatus
      have hfinal : row'.status.final = true := by
        rw [← hskipped]
        rfl
      exact .inl hfinal

/-- A node changes from outside a call that closes its task only as far as the call is still to
write it. -/
theorem closing_kept {other : Nat}
    {caller : Caller BeeCall BeeQuery BeeQuery.Answer StoreError BeeResult}
    (hanswers : host.Answers before query answer after)
    (hreopening : NoReopening crew pid before after) (hne : other ≠ pid)
    (hcaller : crew.callers other = some caller) (hclosing : IsClosing task_id caller)
    (h : ∀ node_id status, before.node_status (task_id, node_id) = some status →
      status.final = true ∨ StillToWrite task_id caller.history (task_id, node_id))
    (hstatus : after.node_status (task_id, node_id) = some status) :
    status.final = true ∨ StillToWrite task_id caller.history (task_id, node_id) := by
  by_cases hfinal : status.final = true
  · exact .inl hfinal
  have hthere : ∃ earlier_status, before.node_status (task_id, node_id) = some earlier_status := by
    rcases answers_node hanswers (task_id, node_id) with hsame | ⟨row, row', -, hrow, -⟩
    · refine ⟨status, ?_⟩
      unfold BeeTables.node_status at hstatus ⊢
      rw [← hsame]
      exact hstatus
    · refine ⟨row.status, ?_⟩
      unfold BeeTables.node_status
      rw [hrow]
      rfl
  obtain ⟨earlier_status, hbefore⟩ := hthere
  rcases h node_id earlier_status hbefore with hwas | hstill
  · exact .inr (hreopening _ _ _ hbefore hwas hstatus hfinal other caller hne hcaller hclosing)
  · exact .inr hstill

section

variable (h : CallsKept host earlier crew)
  (hstep : BeeStep host crew (.answered pid call history query answer before after) crew')

include h hstep

theorem close_asks (hcloses : call.closes = some task_id) : CloseAsks task_id history query := by
  have hasks := h.follows.asked hstep
  unfold CallAsks at hasks
  split at hasks
  · next hpass =>
    cases call with
    | plan_ready_nodes now max_nodes max_tasks session_id topic_id => cases hcloses
    | _ => cases hpass
  · exact hasks.2 task_id hcloses

theorem closing_after {nodes : List BeeNodeRecord} (hcloses : call.closes = some task_id)
    (hlisted : nodes_listed task_id nodes ∈ history ++ [⟨query, answer⟩])
    (hstatus : after.node_status (task_id, node_id) = some status) :
    status.final = true ∨ StillToWrite task_id (history ++ [⟨query, answer⟩]) (task_id, node_id) := by
  refine closing_told (step_answers hstep) (close_asks h hstep hcloses) hlisted
    (fun hlisted => ?_) hstatus
  obtain ⟨resume, hcaller, -, rfl⟩ := step_caller hstep
  exact h.closing pid _ task_id hcaller ⟨hcloses, ⟨query, resume, rfl⟩, hlisted⟩

end

theorem claimed_error (query : BeeQuery) (error : StoreError) :
    claimed ⟨query, .error error⟩ = none := by
  cases query <;> rfl

theorem pass_of_claims (h : CallsKept host earlier crew)
    (hstep : BeeStep host crew (.answered pid call history query answer before after) crew')
    (hclaims : claims (history ++ [⟨query, answer⟩]) ≠ []) : call.is_pass = true := by
  obtain ⟨resume, hcaller, -, -⟩ := step_caller hstep
  by_cases hearlier : claims history = []
  · have hasks := h.follows.asked hstep
    unfold CallAsks at hasks
    split at hasks
    · next hpass => exact hpass
    · exfalso
      rw [claims_snoc, hearlier] at hclaims
      cases query with
      | claim_ready_node task_id node_id updated_at metadata => cases hasks.1
      | _ => exact hclaims rfl
  · exact (h.quiet pid _ hcaller hearlier).1

/-- **One answer.** -/
theorem CallsKept.answered (hlower : KeepsLabels host.lower) (h : CallsKept host earlier crew)
    (hok : Undisturbed earlier crew (.answered pid call history query answer before after))
    (hstep : BeeStep host crew (.answered pid call history query answer before after) crew') :
    CallsKept host (earlier ++ [.answered pid call history query answer before after]) crew' := by
  obtain ⟨hfails, -, hrevival, hreopening⟩ := hok
  have hanswers := step_answers hstep
  obtain ⟨resume, hwaiting, hcrew', hbefore⟩ := step_caller hstep
  have hcallers (other : Nat) : crew'.callers other = if other = pid then
      some ⟨call, resume answer, history ++ [⟨query, answer⟩]⟩ else crew.callers other := by
    rw [hcrew']
    exact resumed_callers crew pid other _ after
  have hshared : crew'.shared = after := by
    rw [hcrew']
    rfl
  have hself : claim_of pid (.answered pid call history query answer before after)
      = claimed ⟨query, answer⟩ := (if_pos rfl).trans (claimed_agrees h hstep).symm
  have helse {other : Nat} (hne : other ≠ pid) :
      claim_of other (.answered pid call history query answer before after) = none :=
    if_neg (Ne.symm hne)
  refine ⟨h.follows.step (meets_body hlower) hstep, h.shown.step ?_ ?_ hstep, ?_, ?_, ?_, ?_⟩
  · rintro _ _ _ _ _ _ _ heq
    cases heq
    exact answers_show hanswers
  · rintro _ _ heq other told hshows
    cases heq
    exact hshows.keep hanswers hrevival
  · intro other caller hcaller
    rw [hcallers] at hcaller
    rw [claims_of_snoc]
    split at hcaller
    · next heq =>
      cases hcaller
      subst heq
      rw [claims_snoc, hself, h.counted other _ hwaiting]
    · next hne =>
      rw [helse hne, h.counted other caller hcaller]
      exact (append_nil _).symm
  · intro other hcaller
    rw [hcallers] at hcaller
    rw [claims_of_snoc]
    split at hcaller
    · cases hcaller
    · next hne =>
      rw [helse hne, h.unstarted other hcaller]
      rfl
  · intro other caller hcaller hclaims
    rw [hcallers] at hcaller
    split at hcaller
    · cases hcaller
      have hpass := pass_of_claims h hstep hclaims
      refine ⟨hpass, ?_⟩
      rintro ⟨told, error, hlast, hfailed⟩
      rw [List.getLast?_concat] at hlast
      obtain rfl := Option.some.inj hlast
      have hfailed : answer = .error error := hfailed
      -- a call that fails claims nothing, so the claims are earlier ones
      rw [claims_snoc, hfailed, claimed_error] at hclaims
      exact hfails hpass (fun hnone => hclaims (by rw [hnone]; rfl)) error hfailed
    · exact h.quiet other caller hcaller hclaims
  · intro other caller task_id hcaller hclosing node_id status hstatus
    rw [hshared] at hstatus
    rw [hcallers] at hcaller
    split at hcaller
    · cases hcaller
      obtain ⟨hcloses, -, nodes, hlisted⟩ := hclosing
      exact closing_after h hstep hcloses hlisted hstatus
    · next hne =>
      refine closing_kept hanswers hreopening hne hcaller hclosing (fun node_id status hstatus => ?_)
        hstatus
      rw [← hbefore] at hstatus
      exact h.closing other caller task_id hcaller hclosing node_id status hstatus

end Step

/-- **One step keeps the calls**, when it disturbs none. -/
theorem CallsKept.step (hlower : KeepsLabels host.lower) {earlier : List BeeEvent}
    {crew crew' : BeeCrew} {event : BeeEvent} (h : CallsKept host earlier crew)
    (hok : Undisturbed earlier crew event) (hstep : BeeStep host crew event crew') :
    CallsKept host (earlier ++ [event]) crew' := by
  cases event with
  | answered pid call history query answer before after => exact h.answered hlower hok hstep
  | elsewhere before after =>
    cases hstep with
    | elsewhere moved => exact moved.elim
  | started pid call =>
    have hcount (other : Nat) : claims_of other (earlier ++ [.started pid call])
        = claims_of other earlier := by
      rw [claims_of_snoc]
      exact append_nil _
    have hfollows := h.follows.step (meets_body hlower) hstep
    have hshown := h.shown.step (fun _ _ _ _ _ _ _ heq => by cases heq)
      (fun _ _ haccess => by cases haccess) hstep
    cases hstep with
    | started free =>
      refine ⟨hfollows, hshown, ?_, ?_, ?_, ?_⟩
      · intro other caller hcaller
        rw [hcount]
        rw [resumed_callers] at hcaller
        split at hcaller
        · next heq =>
          cases hcaller
          rw [heq, h.unstarted pid free]
          rfl
        · exact h.counted other caller hcaller
      · intro other hcaller
        rw [hcount]
        rw [resumed_callers] at hcaller
        split at hcaller
        · cases hcaller
        · exact h.unstarted other hcaller
      · intro other caller hcaller hclaims
        rw [resumed_callers] at hcaller
        split at hcaller
        · cases hcaller
          exact absurd rfl hclaims
        · exact h.quiet other caller hcaller hclaims
      · intro other caller task_id hcaller hclosing
        rw [resumed_callers] at hcaller
        split at hcaller
        · cases hcaller
          obtain ⟨-, -, nodes, hlisted⟩ := hclosing
          cases hlisted
        · exact h.closing other caller task_id hcaller hclosing

variable {crew : BeeCrew}

theorem CallsKept.start (h : crew.Idle) : CallsKept host [] crew where
  follows := h.follows
  shown := h.remembers
  counted := fun pid caller hcaller => by
    rw [h pid] at hcaller
    cases hcaller
  unstarted := fun _ _ => rfl
  quiet := fun pid caller hcaller => by
    rw [h pid] at hcaller
    cases hcaller
  closing := fun pid caller task_id hcaller => by
    rw [h pid] at hcaller
    cases hcaller

variable {events : List BeeEvent}

theorem calls_kept (hlower : KeepsLabels host.lower) {start crew : BeeCrew} (hidle : start.Idle)
    (hrun : UndisturbedRun host start events crew) :
    CallsKept host events crew :=
  hrun.history (CallsKept.start hidle) (fun _ _ _ _ _ h hok hstep => h.step hlower hok hstep)

/-! ## What the calls make of the nodes -/

section Kept

variable {start crew crew' : BeeCrew} {events earlier : List BeeEvent}

variable {key : NodeKey} {event : BeeEvent}

theorem claimed_by_eq (h : claimed_by event = some key) :
    ∃ pid call history updated_at metadata answer before after,
      event = .answered pid call history (.claim_ready_node key.1 key.2 updated_at metadata) answer
        before after
      ∧ before.node_status key = some .pending ∧ after.node_status key = some .ready := by
  unfold claimed_by at h
  split at h
  · next pid call history task_id node_id updated_at metadata answer before after =>
    split at h
    · next hmoved =>
      obtain rfl := Option.some.inj h
      exact ⟨pid, call, history, updated_at, metadata, answer, before, after, rfl, hmoved⟩
    · cases h
  · cases h

/-- **Between two claims of a node it was made pending.** -/
theorem claimed_once (hrun : Run (BeeStep host) start events crew)
    {first middle last : List BeeEvent} {claim again : BeeEvent}
    (hevents : events = first ++ claim :: middle ++ again :: last)
    (hclaim : claimed_by claim = some key) (hagain : claimed_by again = some key) :
    ∃ event ∈ middle, MadePending key event := by
  by_contra hnever
  have hnever : ∀ event ∈ middle, ¬ MadePending key event :=
    fun event hmem hmade => hnever ⟨event, hmem, hmade⟩
  obtain ⟨pid, call, history, updated_at, metadata, answer, before, after, rfl, -, hready⟩ :=
    claimed_by_eq hclaim
  obtain ⟨pid', call', history', updated_at', metadata', answer', before', after', rfl, hpending, -⟩ :=
    claimed_by_eq hagain
  subst hevents
  obtain ⟨crew₁, crew₂, hupto, hstep', -⟩ := hrun.split
  obtain ⟨crew₃, crew₄, -, hstep, hmiddle⟩ := hupto.split
  have hafter : crew₄.shared = after := hstep.shared.2
  have hbefore : crew₁.shared = before' := hstep'.shared.1
  have hstays : crew₁.shared.node_status key ≠ some .pending := by
    refine stays_in (P := fun (tables : BeeTables) => tables.node_status key ≠ some .pending)
      hmiddle hnever ?_
    rw [hafter, hready]
    decide
  rw [hbefore] at hstays
  exact hstays hpending

variable {caller : Caller BeeCall BeeQuery BeeQuery.Answer StoreError BeeResult} {pid : Nat}

theorem heard_tells (hidle : start.Idle) (hrun : Run (BeeStep host) start events crew)
    (hcaller : crew.callers pid = some caller) {told : BeeTold} (hmem : told ∈ caller.history) :
    ∃ first history before after last middle,
      events = first ++ .answered pid caller.call history told.1 told.2 before after :: last
      ∧ Tells host before after told.1 told.2 ∧ host.Answers before told.1 told.2 after
      ∧ Run (BeeStep host) middle last crew ∧ middle.shared = after := by
  obtain ⟨history, before, after, hevent⟩ := heard hidle hrun pid caller told hcaller hmem
  obtain ⟨first, last, rfl⟩ := append_of_mem hevent
  obtain ⟨crew₁, crew₂, -, hstep, hlast⟩ := hrun.split
  have hanswers := step_answers hstep
  exact ⟨first, history, before, after, last, crew₂, rfl, answers_tell hanswers, hanswers, hlast,
    hstep.shared.2⟩

/-- **A claim finds its task running and its dependencies completed.** -/
theorem claim_ready (hidle : start.Idle) (hrun : Run (BeeStep host) start earlier crew)
    (h : CallsKept host earlier crew) (hok : Undisturbed earlier crew event)
    (hstep : BeeStep host crew event crew') (hclaim : claimed_by event = some key) :
    ∃ before after, event.access = some (before, after) ∧ Ready before key := by
  obtain ⟨pid, call, history, updated_at, metadata, answer, before, after, rfl, hpending, hready⟩ :=
    claimed_by_eq hclaim
  obtain ⟨htask, hnodes⟩ := hok.2.1 key hclaim
  obtain ⟨resume, hcaller, -, hbefore⟩ := step_caller hstep
  have hasks : ListedReady history key := by
    have hasks := h.follows.asked hstep
    unfold CallAsks at hasks
    split at hasks
    · exact hasks
    · cases hasks.1
  obtain ⟨task, nodes, node, ⟨session_id, topic_id, limit, tasks, htasks, hmem⟩, hlisted,
    ⟨hnode, hdepends⟩, rfl⟩ := hasks
  -- the listing of the nodes told of rows that are still there
  obtain ⟨first, history₁, before₁, after₁, last, middle, hevents, htells, hanswers, hlast, hmiddle⟩ :=
    heard_tells hidle hrun hcaller hlisted
  have htells : NodesListed host before₁ task.task_id nodes := htells
  have hkey : node.key.1 = task.task_id := (htells.rows node hnode).1
  refine ⟨before, after, rfl, ?_, ?_⟩
  · obtain ⟨first₂, history₂, before₂, after₂, last₂, middle₂, hevents₂, htells₂, hanswers₂, hlast₂,
      hmiddle₂⟩ := heard_tells hidle hrun hcaller htasks
    have htells₂ : TasksListed host before₂ (some .running) tasks := htells₂
    obtain ⟨hrow, hstatus, -⟩ := htells₂ task hmem
    have hrunning : before₂.task_status node.key.1 = some .running := by
      unfold BeeTables.task_status
      rw [hkey, hrow]
      exact congrArg some (eq_of_beq hstatus).symm
    rw [← hbefore]
    refine stays_in (P := fun tables => tables.task_status node.key.1 = some .running) hlast₂
      (htask _ _ _ hevents₂ rfl) ?_
    rw [hmiddle₂, answers_reads hanswers₂ rfl rfl]
    exact hrunning
  · intro row hrow dependency_id hdependency
    obtain ⟨row', hrow', hsame, -⟩ := (h.shown.answered hstep _ hlisted).nodes _ _ rfl node hnode
    rw [hrow] at hrow'
    obtain rfl := Option.some.inj hrow'
    rw [hsame] at hdependency
    obtain ⟨other, hother, rfl, hcompleted⟩ := hdepends dependency_id hdependency
    obtain ⟨hothertask, hotherrow, -⟩ := htells.rows other hother
    have hcompleted : before₁.node_status (node.key.1, other.node_id) = some .completed := by
      have hotherkey : other.key = (node.key.1, other.node_id) := Prod.ext (hothertask.trans hkey.symm) rfl
      unfold BeeTables.node_status
      rw [← hotherkey, hotherrow]
      exact congrArg some hcompleted
    rw [← hbefore]
    refine stays_in
      (P := fun tables => tables.node_status (node.key.1, other.node_id) = some .completed) hlast
      (hnodes row hrow other.node_id ?_ _ _ _ hevents ⟨rfl, hkey.symm⟩) ?_
    · rw [hsame]
      exact hdependency
    · rw [hmiddle, answers_reads hanswers rfl rfl]
      exact hcompleted

theorem CallsKept.truly (h : CallsKept host events crew)
    (hcaller : crew.callers pid = some caller) : Truly host caller.history :=
  fun told hmem => (h.shown pid caller hcaller told hmem).true_once

theorem pass_kept (h : CallsKept host events crew) (hclaims : key ∈ claims_of pid events)
    (hcaller : crew.callers pid = some caller) (error : StoreError) :
    caller.rest ≠ .fail error := by
  intro hfailed
  rw [← h.counted pid caller hcaller] at hclaims
  have hnonempty := ne_nil_of_mem hclaims
  obtain ⟨hpass, hquiet⟩ := h.quiet pid caller hcaller hnonempty
  have hends := h.follows pid caller hcaller
  rw [hfailed] at hends
  have hends : CallEnds host caller.call caller.history (.error error) := hends
  rcases hends.1 hpass (h.truly hcaller) with hnone | hlast
  · exact hnonempty hnone
  · exact hquiet hlast

/-- **A pass returns what it claimed.** -/
theorem pass_returned (h : CallsKept host events crew) (hcaller : crew.callers pid = some caller)
    (hpass : caller.call.is_pass = true) {intents : List BeeNodeLaunchIntent}
    (hdone : caller.rest = .done (.intents intents)) :
    intents.map (·.key) = claims_of pid events := by
  have hends := h.follows pid caller hcaller
  rw [hdone] at hends
  have hends : CallEnds host caller.call caller.history (.ok (.intents intents)) := hends
  rw [hends.1 hpass (h.truly hcaller), h.counted pid caller hcaller]

theorem close_ended (h : CallsKept host events crew) {task_id : String}
    (hcaller : crew.callers pid = some caller) (hcloses : caller.call.closes = some task_id)
    {result : BeeResult} (hdone : caller.rest = .done result) :
    (∃ told ∈ caller.history, cancelled told = some task_id)
      ∧ (∃ nodes, nodes_listed task_id nodes ∈ caller.history)
      ∧ ∀ key, ¬ StillToWrite task_id caller.history key := by
  have hends := h.follows pid caller hcaller
  rw [hdone] at hends
  have hends : CallEnds host caller.call caller.history (.ok result) := hends
  exact hends.2 task_id hcloses

variable {before after : BeeTables}

/-- **A call that closed a task left its nodes done with.** -/
theorem nodes_closed (hlower : KeepsLabels host.lower) (h : CallsKept host earlier crew)
    {call : BeeCall} {history : BeeHistory} {query : BeeQuery} {answer : query.Answer}
    (hok : Undisturbed earlier crew (.answered pid call history query answer before after))
    (hstep : BeeStep host crew (.answered pid call history query answer before after) crew')
    {task_id : String} (hcloses : call.closes = some task_id) {result : BeeResult}
    (hcaller : crew'.callers pid = some caller) (hdone : caller.rest = .done result)
    {node_id : String} {status : BeeNodeStatus}
    (hstatus : after.node_status (task_id, node_id) = some status) : status.final = true := by
  have hafter := h.answered hlower hok hstep
  obtain ⟨resume, -, hcrew', -⟩ := step_caller hstep
  have hself : caller = ⟨call, resume answer, history ++ [⟨query, answer⟩]⟩ := by
    rw [hcrew', resumed_callers, if_pos rfl] at hcaller
    exact (Option.some.inj hcaller).symm
  subst hself
  obtain ⟨-, ⟨nodes, hlisted⟩, hwritten⟩ := close_ended hafter hcaller hcloses hdone
  rcases closing_after h hstep hcloses hlisted hstatus with hfinal | hstill
  · exact hfinal
  · exact absurd hstill (hwritten _)

/-- **No node is claimed once its task was closed.** -/
theorem closed_unclaimed (h : CallsKept host events crew)
    (hrunning : crew.shared.task_status key.1 = some .running)
    (hcaller : crew.callers pid = some caller) (hcloses : caller.call.closes = some key.1)
    (result : BeeResult) : caller.rest ≠ .done result := by
  intro hdone
  obtain ⟨⟨told, hmem, hcancelled⟩, -, -⟩ := close_ended h hcaller hcloses hdone
  have hshown := (h.shown pid caller hcaller told hmem).cancelled key.1 hcancelled
  rw [hrunning] at hshown
  cases hshown

theorem claim_leaves_task (hclaim : claimed_by event = some key)
    (hstep : BeeStep host crew event crew') (haccess : event.access = some (before, after))
    (task_id : String) :
    crew'.shared.task_status task_id = before.task_status task_id := by
  obtain ⟨pid, call, history, updated_at, metadata, answer, before', after', rfl, -⟩ :=
    claimed_by_eq hclaim
  cases haccess
  rw [hstep.shared.2]
  rcases answers_task (step_answers hstep) task_id with hsame | ⟨status, hwrite, -⟩
  · exact hsame
  · cases hwrite

/-- **Every claim is sound, every claimed node is returned, and a closed task stays closed**, in a
run that disturbs no call. -/
theorem nodes_kept (hlower : KeepsLabels host.lower) (hidle : start.Idle)
    (hrun : UndisturbedRun host start events crew) : NodesKept events crew := by
  have hcalls := calls_kept hlower hidle hrun
  have hready : ∀ event ∈ events, ∀ key, claimed_by event = some key →
      ∃ before after, event.access = some (before, after) ∧ Ready before key := by
    refine (hrun.history (P := fun events crew => CallsKept host events crew ∧ ∀ event ∈ events,
      ∀ key, claimed_by event = some key →
        ∃ before after, event.access = some (before, after) ∧ Ready before key) ?_ ?_).2
    · exact ⟨CallsKept.start hidle, fun _ hmem => by cases hmem⟩
    · rintro earlier crew event crew' hbefore ⟨hkept, hready⟩ hok hstep
      refine ⟨hkept.step hlower hok hstep, fun other hmem key hclaim => ?_⟩
      rcases mem_snoc hmem with hold | rfl
      · exact hready other hold key hclaim
      · exact claim_ready hidle hbefore hkept hok hstep hclaim
  refine ⟨?_, hready, ?_, ?_, ?_, ?_⟩
  · intro first claim middle again last key hevents hclaim hagain
    exact claimed_once hrun.run hevents hclaim hagain
  · intro pid caller hcaller hpass intents hdone
    exact pass_returned hcalls hcaller hpass hdone
  · intro first claim last pid key hevents hclaim
    have hmem : key ∈ claims_of pid events := by
      rw [hevents]
      exact mem_filterMap.mpr ⟨claim, mem_append_right _ mem_cons_self, hclaim⟩
    exact .inl (fun caller hcaller error => pass_kept hcalls hmem hcaller error)
  · intro earlier pid call history query answer before after hevents task_id hcloses caller result
      hcaller hdone node_id status hstatus
    subst hevents
    obtain ⟨crew₁, hbefore, hok, hstep⟩ := hrun.last
    exact nodes_closed hlower (calls_kept hlower hidle hbefore) hok hstep hcloses hcaller hdone hstatus
  · intro earlier event hevents key hclaim pid caller hcaller hcloses result
    subst hevents
    obtain ⟨crew₁, -, -, hstep⟩ := hrun.last
    obtain ⟨before, after, haccess, hrunning, -⟩ :=
      hready event (mem_append_right _ (mem_singleton_self _)) key hclaim
    refine closed_unclaimed hcalls ?_ hcaller hcloses result
    rw [claim_leaves_task hclaim hstep haccess]
    exact hrunning

/-! ### Passes among themselves -/

/-- A pass starts, or is told something by a call of the store that did not fail. -/
def of_pass : BeeEvent → Bool
  | .started _ call => call.is_pass
  | .answered _ call _ _ answer _ _ => call.is_pass && answer.toOption.isSome
  | .elsewhere _ _ => false

theorem pass_leaves {history : BeeHistory} {query : BeeQuery} {answer : query.Answer}
    (hasks : PassAsks history query) (hanswers : host.Answers before query answer after) :
    (∀ task_id, after.task_status task_id = before.task_status task_id)
      ∧ ∀ key, before.node_status key = some .completed → after.node_status key = some .completed := by
  refine ⟨fun task_id => ?_, fun key hcompleted => ?_⟩
  · rcases answers_task hanswers task_id with hsame | ⟨status, hwrite, -⟩
    · exact hsame
    · cases query with
      | update_task_status other status summary updated_at metadata => exact hasks.elim
      | _ => cases hwrite
  · unfold BeeTables.node_status at hcompleted ⊢
    rcases answers_node hanswers key with hsame | ⟨row, row', hwrite, hrow, -, -, -, hpending⟩
    · rw [hsame]
      exact hcompleted
    · rw [hrow] at hcompleted
      cases query with
      | claim_ready_node task_id node_id updated_at metadata =>
        obtain ⟨rfl, -⟩ := Prod.mk.inj (Option.some.inj hwrite)
        have hstatus : row.status = .completed := Option.some.inj hcompleted
        rw [hpending rfl] at hstatus
        cases hstatus
      | update_node_status _ _ _ _ _ _ _ _ => exact hasks.elim
      | _ => cases hwrite

/-- The event stops no task, and no node ceases to be completed. -/
def StopsNothing (event : BeeEvent) : Prop :=
  (∀ task_id, ¬ event.Leaves (fun tables => tables.task_status task_id = some .running))
    ∧ ∀ key, ¬ event.Leaves (fun tables => tables.node_status key = some .completed)

/-- **Passes disturb no pass**, however they take turns, when no call of the store fails. -/
theorem passes_undisturbed (hlower : KeepsLabels host.lower) (hidle : start.Idle)
    (hrun : Run (BeeStep host) start events crew) (hpasses : ∀ event ∈ events, of_pass event = true) :
    UndisturbedRun host start events crew := by
  refine (hrun.history_where (P := fun events crew => UndisturbedRun host start events crew
    ∧ (∀ event ∈ events, StopsNothing event)
    ∧ ∀ pid caller, crew.callers pid = some caller → caller.call.is_pass = true) hpasses ?_ ?_).1
  · refine ⟨.refl, fun _ hmem => ?_, fun pid _ hcaller => ?_⟩
    · cases hmem
    · rw [hidle pid] at hcaller
      cases hcaller
  rintro earlier crew event crew' - ⟨hbefore, hleaves, hall⟩ hpass hstep
  cases event with
  | elsewhere before after => cases hpass
  | started pid call =>
    refine ⟨hbefore.snoc trivial hstep, fun event hmem => ?_, fun other caller hcaller => ?_⟩
    · rcases mem_snoc hmem with hold | hnew
      · exact hleaves event hold
      · rw [hnew]
        refine ⟨fun task_id => ?_, fun key => ?_⟩
        · rintro ⟨_, _, haccess, -⟩
          cases haccess
        · rintro ⟨_, _, haccess, -⟩
          cases haccess
    · cases hstep with
      | started free =>
        rw [resumed_callers] at hcaller
        split at hcaller
        · cases hcaller
          exact hpass
        · exact hall other caller hcaller
  | answered pid call history query answer before after =>
    obtain ⟨hcall, hreturns⟩ := Bool.and_eq_true_iff.mp hpass
    have hasks : PassAsks history query := by
      have hasks := (calls_kept hlower hidle hbefore).follows.asked hstep
      unfold CallAsks at hasks
      rwa [if_pos hcall] at hasks
    obtain ⟨htasks, hnodes⟩ := pass_leaves hasks (step_answers hstep)
    obtain ⟨resume, -, hcrew', -⟩ := step_caller hstep
    refine ⟨hbefore.snoc ⟨?_, ?_, ?_, ?_⟩ hstep, fun event hmem => ?_, fun other caller hcaller => ?_⟩
    · rintro - - error rfl
      cases hreturns
    · intro key hclaim
      exact ⟨Since.of_all (fun event hmem => (hleaves event hmem).1 _),
        fun row hrow dependency_id hdependency =>
          Since.of_all (fun event hmem => (hleaves event hmem).2 _)⟩
    · intro task_id hcancelled
      exact (htasks task_id).trans hcancelled
    · intro key status status' hbefore hfinal hafter hopen other caller hne hcaller hclosing
      have hpass := hall other caller hcaller
      have hcloses := hclosing.1
      cases hcall : caller.call with
      | plan_ready_nodes now max_nodes max_tasks session_id topic_id =>
        rw [hcall] at hcloses
        cases hcloses
      | _ =>
        rw [hcall] at hpass
        cases hpass
    · rcases mem_snoc hmem with hold | hnew
      · exact hleaves event hold
      · rw [hnew]
        refine ⟨fun task_id => ?_, fun key => ?_⟩
        · rintro ⟨_, _, haccess, hrunning, hleft⟩
          cases haccess
          exact hleft ((htasks task_id).trans hrunning)
        · rintro ⟨_, _, haccess, hcompleted, hleft⟩
          cases haccess
          exact hleft (hnodes key hcompleted)
    · rw [hcrew', resumed_callers] at hcaller
      split at hcaller
      · cases hcaller
        exact hcall
      · exact hall other caller hcaller

end Kept

/-! ### A pass that nothing disturbs, and calls that are disturbed -/

def sample_bee_host : BeeHost where
  lower := id
  casefold := id
  collate := fun text other => text ≤ other

def sample_task : BeeTaskRow where
  topic_id := "topic"
  session_id := "session"
  kind := "k"
  profile := "p"
  status := .running
  title := "T"
  created_at := 0
  updated_at := 0

def sample_node (status : BeeNodeStatus) : BeeNodeRow where
  kind := "k"
  profile := "p"
  status := status
  title := "T"
  created_at := 0
  updated_at := 0

def sample_bee_crew (nodes : List (NodeKey × BeeNodeRow)) : BeeCrew where
  shared :=
    { tasks := (∅ : Table String BeeTaskRow).put "t" sample_task
      nodes := (∅ : Table NodeKey BeeNodeRow).put_all nodes }
  callers := fun _ => none

def pending_pair : BeeCrew :=
  sample_bee_crew [(("t", "a"), sample_node .pending), (("t", "b"), sample_node .pending)]

def failed_pair : BeeCrew :=
  sample_bee_crew [(("t", "a"), sample_node .failed), (("t", "b"), sample_node .pending)]

section

variable (given : Option StoreError) (tables : BeeTables) (query : BeeQuery)

def bee_reply :
    query.Answer × BeeTables :=
  match given with
  | none => sample_bee_host.act query tables
  | some error => (.error error, tables)

theorem bee_reply_answers :
    sample_bee_host.Answers tables query (bee_reply given tables query).1
      (bee_reply given tables query).2 := by
  cases given with
  | none => exact .reached
  | some error => exact .failed error

end

abbrev BeeInput : Type := Input BeeCall (Option StoreError)

abbrev play_bee (start : BeeCrew) (script : List BeeInput) : List BeeEvent × BeeCrew :=
  Crew.play (BeeCall.body sample_bee_host) bee_reply start script

theorem play_bee_run (start : BeeCrew) (script : List BeeInput) :
    Run (BeeStep sample_bee_host) start (play_bee start script).1 (play_bee start script).2 :=
  play_answers bee_reply_answers start script

def whole_pass : List BeeInput :=
  [.start 0 (.plan_ready_nodes 0 1 5 none none), .access 0 none, .access 0 none, .access 0 none]

theorem whole_pass_kept : ∃ events crew, claims_of 0 events = [("t", "a")]
    ∧ NodesKept events crew := by
  have hplayed : ((play_bee pending_pair whole_pass).1.all of_pass
      && claims_of 0 (play_bee pending_pair whole_pass).1 == [("t", "a")])
        = true := by decide +kernel
  obtain ⟨hpasses, hclaims⟩ := Bool.and_eq_true_iff.mp hplayed
  exact ⟨_, _, eq_of_beq hclaims, nodes_kept (fun _ _ => rfl) (fun _ => rfl)
    (passes_undisturbed (fun _ _ => rfl) (fun _ => rfl) (play_bee_run pending_pair whole_pass)
      (all_eq_true.mp hpasses))⟩

def failed_claim : List BeeInput :=
  [.start 0 (.plan_ready_nodes 0 5 5 none none), .access 0 none, .access 0 none, .access 0 none,
    .access 0 (some (.raised .OSError "connection reset"))]

/-- A task is cancelled between a pass's listing and its claim. -/
def cancelled_task : List BeeInput :=
  [.start 0 (.plan_ready_nodes 0 1 5 none none), .access 0 none, .access 0 none,
    .start 1 (.cancel_task "t" 0), .access 1 none, .access 1 none, .access 0 none]

def resumed_task : List BeeInput :=
  [.start 0 (.resume_task "t" 0), .access 0 none, .access 0 none, .access 0 none,
    .start 1 (.cancel_task "t" 0), .access 1 none, .access 1 none, .access 1 none, .access 1 none,
    .access 0 none, .access 1 none]

def has_failed (crew : BeeCrew) (pid : Nat) : Bool :=
  match crew.callers pid with
  | some ⟨_, .fail _, _⟩ => true
  | _ => false

def has_returned (crew : BeeCrew) (pid : Nat) : Bool :=
  match crew.callers pid with
  | some ⟨_, .done _, _⟩ => true
  | _ => false

def makes_pending (key : NodeKey) (event : BeeEvent) : Bool :=
  event.access.any (fun access => access.1.node_status key ≠ some .pending
    && access.2.node_status key = some .pending)

theorem makes_pending_of_made {key : NodeKey} {event : BeeEvent} (h : MadePending key event) :
    makes_pending key event = true := by
  obtain ⟨before, after, haccess, hbefore, hafter⟩ := h
  unfold makes_pending
  rw [haccess]
  exact Bool.and_eq_true_iff.mpr ⟨decide_eq_true hbefore, decide_eq_true (not_not.mp hafter)⟩

theorem not_kept_of_lost {pid : Nat} {key : NodeKey} (hclaim : key ∈ claims_of pid events)
    (hfailed : has_failed crew pid = true) (hever : events.any (makes_pending key) = false)
    (hstatus : crew.shared.node_status key = some .ready) : ¬ NodesKept events crew := by
  intro hkept
  obtain ⟨claim, hmem, hclaims⟩ := mem_filterMap.mp hclaim
  obtain ⟨first, last, rfl⟩ := append_of_mem hmem
  rcases hkept.kept first claim last pid key rfl hclaims with hgoes | ⟨event, hlater, hmade⟩
    | ⟨status, hthere, hreclaimable⟩
  · unfold has_failed at hfailed
    split at hfailed
    · next heq => exact hgoes _ heq _ rfl
    · cases hfailed
  · have hnever := any_eq_false.mp hever event
      (mem_append_right _ (mem_cons_of_mem _ hlater))
    exact hnever (makes_pending_of_made hmade)
  · rw [hstatus] at hthere
    obtain rfl := Option.some.inj hthere
    cases hreclaimable

def claims_stopped (event : BeeEvent) : Bool :=
  (claimed_by event).any (fun key =>
    event.access.any (fun access => access.1.task_status key.1 ≠ some .running))

theorem not_kept_of_stopped (h : events.any claims_stopped = true) : ¬ NodesKept events crew := by
  intro hkept
  obtain ⟨event, hmem, hstopped⟩ := any_eq_true.mp h
  unfold claims_stopped at hstopped
  rw [Option.any_eq_true] at hstopped
  obtain ⟨key, hclaim, hstopped⟩ := hstopped
  obtain ⟨before, after, haccess, hrunning, -⟩ := hkept.ready event hmem key hclaim
  rw [haccess] at hstopped
  exact of_decide_eq_true hstopped hrunning

/-- A call that closes the task of the node is told something, and leaves the node pending. -/
def closes_behind (key : NodeKey) : BeeEvent → Option Nat
  | .answered pid call _ _ _ _ after =>
    if call.closes = some key.1 ∧ after.node_status key = some .pending then some pid else none
  | _ => none

theorem not_kept_of_open {pid : Nat} {key : NodeKey}
    (hlast : events.getLast?.bind (closes_behind key) = some pid)
    (hreturned : has_returned crew pid = true) : ¬ NodesKept events crew := by
  intro hkept
  obtain ⟨event, hlast, hbehind⟩ := Option.bind_eq_some_iff.mp hlast
  obtain ⟨earlier, hevents⟩ := List.getLast?_eq_some_iff.mp hlast
  unfold closes_behind at hbehind
  split at hbehind
  · split at hbehind
    · next hcloses =>
      obtain rfl := Option.some.inj hbehind
      unfold has_returned at hreturned
      split at hreturned
      · next heq =>
        have hfinal := hkept.closed _ _ _ _ _ _ _ _ hevents key.1 hcloses.1 _ _ heq rfl key.2
          .pending hcloses.2
        cases hfinal
      · cases hreturned
    · cases hbehind
  · cases hbehind

/-- A node whose pass failed is lost, a node of a cancelled task is claimed, and a node is left
behind in a task that was cancelled. -/
theorem nodes_lost :
    ¬ NodesKept (play_bee pending_pair failed_claim).1
        (play_bee pending_pair failed_claim).2
      ∧ ¬ NodesKept (play_bee pending_pair cancelled_task).1
        (play_bee pending_pair cancelled_task).2
      ∧ ¬ NodesKept (play_bee failed_pair resumed_task).1
        (play_bee failed_pair resumed_task).2 := by
  have hplayed : let played := play_bee pending_pair failed_claim
      ("t", "a") ∈ claims_of 0 played.1 ∧ has_failed played.2 0 = true
        ∧ played.1.any (makes_pending ("t", "a")) = false
        ∧ played.2.shared.node_status ("t", "a") = some .ready := by decide +kernel
  have hstopped : (play_bee pending_pair cancelled_task).1.any
      claims_stopped = true := by decide +kernel
  have hopen : let played := play_bee failed_pair resumed_task
      played.1.getLast?.bind (closes_behind ("t", "a")) = some 1
        ∧ has_returned played.2 1 = true := by decide +kernel
  exact ⟨not_kept_of_lost hplayed.1 hplayed.2.1 hplayed.2.2.1 hplayed.2.2.2,
    not_kept_of_stopped hstopped, not_kept_of_open hopen.1 hopen.2⟩

end CodingAgentLoop.Bee
