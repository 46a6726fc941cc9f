/-
What the calls of the Bee planner and of the task controller ask on the answers they had, and how
they end.

A pass claims a node it was told to be ready, of a task it was told to be running, and returns an
intent for each claim. A call that closes a task writes the nodes it was told of, one after
another, and returns when none is left to be written.
-/
import CodingAgentLoop.BeeRows

namespace CodingAgentLoop.Bee

open Lib Dialogue List

variable {host : BeeHost}

abbrev BeeHistory : Type := History BeeQuery BeeQuery.Answer

abbrev BeeTold : Type := (query : BeeQuery) × query.Answer

/-! ## What a call was told -/

def running_listed (session_id topic_id : Option String) (limit : Int)
    (tasks : List BeeTaskRecord) : BeeTold :=
  ⟨.list_tasks session_id topic_id (some .running) limit,
    (.ok tasks : Except StoreError (List BeeTaskRecord))⟩

def nodes_listed (task_id : String) (nodes : List BeeNodeRecord) : BeeTold :=
  ⟨.list_nodes task_id, (.ok nodes : Except StoreError (List BeeNodeRecord))⟩

def claimed : BeeTold → Option NodeKey
  | ⟨.claim_ready_node task_id node_id _ _, .ok (some _)⟩ => some (task_id, node_id)
  | _ => none

def claims (history : BeeHistory) : List NodeKey := history.filterMap claimed

def wrote : BeeTold → Option (NodeKey × BeeNodeStatus)
  | ⟨.update_node_status task_id node_id status _ _ _ _ _, .ok _⟩ => some ((task_id, node_id), status)
  | _ => none

def cancelled : BeeTold → Option String
  | ⟨.update_task_status task_id .cancelled _ _ _, .ok _⟩ => some task_id
  | _ => none

def Truly (host : BeeHost) (history : BeeHistory) : Prop :=
  ∀ told ∈ history, ∃ tables left, Tells host tables left told.1 told.2

def LastFailed (history : BeeHistory) : Prop :=
  ∃ told error, history.getLast? = some told ∧ told.2 = .error error

def TaskListed (history : BeeHistory) (task : BeeTaskRecord) : Prop :=
  ∃ session_id topic_id limit tasks,
    running_listed session_id topic_id limit tasks ∈ history ∧ task ∈ tasks

def ReadyAmong (nodes : List BeeNodeRecord) (node : BeeNodeRecord) : Prop :=
  node ∈ nodes ∧ ∀ dependency_id ∈ node.depends_on,
    ∃ other ∈ nodes, other.node_id = dependency_id ∧ other.status = .completed

/-- The task of the node was listed as running, and the node as ready. -/
def ListedReady (history : BeeHistory) (key : NodeKey) : Prop :=
  ∃ task nodes node, TaskListed history task ∧ nodes_listed task.task_id nodes ∈ history
    ∧ ReadyAmong nodes node ∧ node.key = key

/-- The node is among those the call listed to be closed, and is not written yet. -/
def StillToWrite (task_id : String) (history : BeeHistory) (key : NodeKey) : Prop :=
  ∃ nodes node, nodes_listed task_id nodes ∈ history ∧ node ∈ nodes ∧ node.key = key
    ∧ node.needs_closing = true ∧ ∀ told ∈ history, wrote told ≠ some (key, .skipped)

def Quiet (history : BeeHistory) : Prop :=
  ∀ told ∈ history, told.1.node_write = none ∧ ∀ task_id nodes, told ≠ nodes_listed task_id nodes

/-! ## What a call asks, and how it ends -/

def PassAsks (history : BeeHistory) : BeeQuery → Prop
  | .list_tasks _ _ _ _ => True
  | .list_nodes _ => True
  | .claim_ready_node task_id node_id _ _ => ListedReady history (task_id, node_id)
  | _ => False

/-- A pass returns an intent for each of its claims, or fails with a call of the store. -/
def PassEnds (host : BeeHost) (history : BeeHistory) : Except StoreError BeeResult → Prop
  | .ok (.intents intents) => Truly host history → intents.map (·.key) = claims history
  | .ok _ => False
  | .error _ => Truly host history → claims history = [] ∨ LastFailed history

/-- A call that closes a task cancels it, lists its nodes once, and skips nodes it listed. -/
def CloseAsks (task_id : String) (history : BeeHistory) : BeeQuery → Prop
  | .load_task _ => True
  | .record_topic_anchor _ => True
  | .update_task_status other status _ _ _ => other = task_id ∧ status = .cancelled
  | .list_nodes other => other = task_id ∧ Quiet history
  | .update_node_status _ _ status _ _ _ _ _ => status = .skipped
  | _ => False

/-- A call that closed a task wrote every node it listed to be closed. -/
def CloseEnds {α : Type} (task_id : String) (history : BeeHistory) : Except StoreError α → Prop
  | .ok _ => (∃ told ∈ history, cancelled told = some task_id)
      ∧ (∃ nodes, nodes_listed task_id nodes ∈ history) ∧ ∀ key, ¬ StillToWrite task_id history key
  | .error _ => True

def BeeCall.is_pass : BeeCall → Bool
  | .plan_ready_nodes _ _ _ _ _ => true
  | _ => false

def BeeCall.closes : BeeCall → Option String
  | .cancel_task task_id _ => some task_id
  | .abort_task task_id _ _ _ _ => some task_id
  | _ => none

def CallAsks (call : BeeCall) (history : BeeHistory) (query : BeeQuery) : Prop :=
  if call.is_pass then PassAsks history query
  else query.claims = none ∧ ∀ task_id, call.closes = some task_id → CloseAsks task_id history query

def CallEnds (host : BeeHost) (call : BeeCall) (history : BeeHistory)
    (result : Except StoreError BeeResult) : Prop :=
  (call.is_pass = true → PassEnds host history result)
    ∧ ∀ task_id, call.closes = some task_id → CloseEnds task_id history result

/-! ## Passes -/

section Pass

variable {history later : BeeHistory} {task : BeeTaskRecord} {intents : List BeeNodeLaunchIntent}

theorem TaskListed.extend (h : TaskListed history task) (hlater : history <+: later) :
    TaskListed later task := by
  obtain ⟨session_id, topic_id, limit, tasks, hmem, htask⟩ := h
  exact ⟨session_id, topic_id, limit, tasks, hlater.subset hmem, htask⟩

theorem Truly.earlier (h : Truly host later) (hlater : history <+: later) : Truly host history :=
  fun told hmem => h told (hlater.subset hmem)

theorem claims_snoc (history : BeeHistory) (told : BeeTold) :
    claims (history ++ [told]) = claims history ++ (claimed told).toList := by
  unfold claims
  rw [filterMap_append]
  cases hclaimed : claimed told with
  | none => simp [hclaimed]
  | some key => simp [hclaimed]

theorem last_failed {query : BeeQuery} (history : BeeHistory) (error : StoreError) :
    LastFailed (history ++ [⟨query, .error error⟩]) :=
  ⟨⟨query, .error error⟩, error, List.getLast?_concat, rfl⟩

theorem meets_call {α : Type} {query : BeeQuery} {next : query.Value → BeeDialogue α}
    {guard : BeeHistory → BeeQuery → Prop} {post : BeeHistory → Except StoreError α → Prop}
    (hguard : guard history query)
    (hok : ∀ value, Dialogue.Meets (fun _ _ _ => True) guard post (next value)
      (history ++ [⟨query, .ok value⟩]))
    (herror : ∀ error, post (history ++ [⟨query, .error error⟩]) (.error error)) :
    Dialogue.Meets (fun _ _ _ => True) guard post (call query >>= next) history := by
  refine ⟨hguard, fun answer _ => ?_⟩
  cases answer with
  | error error => exact herror error
  | ok value => exact hok value

def Matched (host : BeeHost) (history : BeeHistory) (intents : List BeeNodeLaunchIntent) : Prop :=
  Truly host history → intents.map (·.key) = claims history

theorem ready_among {nodes : List BeeNodeRecord} {node : BeeNodeRecord} (hmem : node ∈ nodes)
    (hready : BeeHost.node_dependencies_ready node (BeeHost.completed_node_ids nodes) = true) :
    ReadyAmong nodes node := by
  refine ⟨hmem, fun dependency_id hdependency => ?_⟩
  unfold BeeHost.node_dependencies_ready at hready
  have hcontains := all_eq_true.mp hready dependency_id hdependency
  rw [contains_iff_mem] at hcontains
  obtain ⟨other, hother, rfl⟩ := mem_map.mp hcontains
  obtain ⟨hmem, hstatus⟩ := mem_filter.mp hother
  exact ⟨other, hmem, rfl, of_decide_eq_true hstatus⟩

theorem matched_claim (hlower : KeepsLabels host.lower) (now : Datetime) {node updated : BeeNodeRecord}
    (htask : TaskListed history task) (hnode : ∃ nodes, nodes_listed task.task_id nodes ∈ history
      ∧ node ∈ nodes) (hmatched : Matched host history intents)
    (htruly : Truly host (history ++ [⟨BeeHost.claim now node,
      (.ok (some updated) : Except StoreError (Option BeeNodeRecord))⟩])) :
    (launch_intent task updated now).post_init host.lower = .ok ()
      ∧ (intents ++ [launch_intent task updated now]).map (·.key)
        = claims (history ++ [⟨BeeHost.claim now node,
            (.ok (some updated) : Except StoreError (Option BeeNodeRecord))⟩]) := by
  have hearlier : Truly host history := htruly.earlier (prefix_append _ _)
  obtain ⟨tables, left, hclaimed⟩ := htruly _ (mem_append_right _ (mem_singleton_self _))
  have hclaimed : NodeClaimed host tables left (node.task_id, node.node_id) updated := hclaimed
  obtain ⟨session_id, topic_id, limit, tasks, htasks, hmem⟩ := htask
  obtain ⟨tables₁, left₁, hlisted⟩ := hearlier _ htasks
  have hlisted : TasksListed host tables₁ (some .running) tasks := hlisted
  obtain ⟨nodes, hnodes, hmem'⟩ := hnode
  obtain ⟨tables₂, left₂, hnodes⟩ := hearlier _ hnodes
  have hnodes : NodesListed host tables₂ task.task_id nodes := hnodes
  refine ⟨launch_intent_ok hlower (hlisted task hmem).2.2 hclaimed.checked now, ?_⟩
  -- the node belongs to the task it was listed for
  have hkey : (launch_intent task updated now).key = (node.task_id, node.node_id) := by
    rw [← hclaimed.named]
    refine Prod.ext ?_ rfl
    have hsame : updated.task_id = node.task_id := congrArg Prod.fst hclaimed.named
    exact ((hsame.trans (hnodes.rows node hmem').1).symm)
  rw [map_append, hmatched hearlier, claims_snoc, map_singleton, hkey]
  rfl

def NodesPlanned (host : BeeHost) (history later : BeeHistory) :
    Except StoreError (List BeeNodeLaunchIntent × Bool) → Prop
  | .ok planned => history <+: later ∧ Matched host later planned.1
  | .error _ => Truly host later → claims later = [] ∨ LastFailed later

theorem NodesPlanned.extend {middle : BeeHistory} (hmiddle : history <+: middle)
    {result : Except StoreError (List BeeNodeLaunchIntent × Bool)}
    (h : NodesPlanned host middle later result) : NodesPlanned host history later result := by
  cases result with
  | error error => exact h
  | ok planned => exact ⟨hmiddle.trans h.1, h.2⟩

theorem meets_plan_nodes (hlower : KeepsLabels host.lower) (now : Datetime) (max_nodes : Int)
    {nodes rest : List BeeNodeRecord} (hrest : rest ⊆ nodes) (htask : TaskListed history task)
    (hnodes : nodes_listed task.task_id nodes ∈ history) (hmatched : Matched host history intents) :
    Dialogue.Meets (fun _ _ _ => True) PassAsks (NodesPlanned host history)
      (host.plan_nodes now max_nodes task (BeeHost.completed_node_ids nodes) rest intents) history := by
  induction rest generalizing history intents with
  | nil => exact ⟨prefix_rfl, hmatched⟩
  | cons node rest ih =>
    have hmem : node ∈ nodes := hrest mem_cons_self
    have hrest' : rest ⊆ nodes := fun other hother => hrest (mem_cons_of_mem _ hother)
    have hskip := ih hrest' htask hnodes hmatched
    unfold BeeHost.plan_nodes
    split
    · exact ⟨prefix_rfl, hmatched⟩
    · split
      · exact hskip
      · split
        · exact hskip
        · next hready =>
          have hready := ready_among hmem (not_not.mp hready)
          refine meets_call ⟨task, nodes, node, htask, hnodes, hready, rfl⟩
            (fun updated => ?_) (fun error _ => .inr (last_failed history error))
          have hbegins := prefix_append history
            [⟨BeeHost.claim now node, (.ok updated : Except StoreError (Option BeeNodeRecord))⟩]
          have hgo {intents : List BeeNodeLaunchIntent} (hmatched : Matched host _ intents) :=
            (ih hrest' (htask.extend hbegins) (hbegins.subset hnodes) hmatched).imp
              (fun _ _ h => NodesPlanned.extend hbegins h)
          cases updated with
          | none =>
            refine hgo (fun htruly => ?_)
            rw [claims_snoc, hmatched (htruly.earlier hbegins)]
            exact (append_nil _).symm
          | some updated =>
            -- the intent is built from rows that passed their checks
            refine Dialogue.Meets.lift_bind (fun _ _ => ?_) (fun error herror htruly => ?_)
            · exact hgo (fun htruly =>
                (matched_claim hlower now htask ⟨nodes, hnodes, hmem⟩ hmatched htruly).2)
            · have hok := (matched_claim hlower now htask ⟨nodes, hnodes, hmem⟩ hmatched htruly).1
              rw [hok] at herror
              cases herror

def TasksPlanned (host : BeeHost) (later : BeeHistory) :
    Except StoreError (List BeeNodeLaunchIntent) → Prop
  | .ok intents => Matched host later intents
  | .error _ => Truly host later → claims later = [] ∨ LastFailed later

theorem meets_plan_tasks (hlower : KeepsLabels host.lower) (now : Datetime) (max_nodes : Int)
    {tasks : List BeeTaskRecord} (htasks : ∀ task ∈ tasks, TaskListed history task)
    (hmatched : Matched host history intents) :
    Dialogue.Meets (fun _ _ _ => True) PassAsks (TasksPlanned host)
      (host.plan_tasks now max_nodes tasks intents) history := by
  induction tasks generalizing history intents with
  | nil => exact hmatched
  | cons task rest ih =>
    unfold BeeHost.plan_tasks
    refine meets_call trivial (fun nodes => ?_) (fun error _ => .inr (last_failed history error))
    have hbegins := prefix_append history [nodes_listed task.task_id nodes]
    have hmatched' : Matched host (history ++ [nodes_listed task.task_id nodes]) intents := by
      intro htruly
      rw [claims_snoc, hmatched (htruly.earlier hbegins)]
      exact (append_nil _).symm
    have hlisted : nodes_listed task.task_id nodes ∈ history ++ [nodes_listed task.task_id nodes] :=
      mem_append_right _ (mem_singleton_self _)
    refine Dialogue.Meets.bind ((meets_plan_nodes hlower now max_nodes (List.Subset.refl nodes)
      ((htasks task mem_cons_self).extend hbegins) hlisted hmatched').imp
        (fun later result hplanned => ?_))
    cases result with
    | error error => exact hplanned
    | ok planned =>
      obtain ⟨hlater, hmatched'⟩ := hplanned
      dsimp only
      split
      · exact hmatched'
      · refine ih (fun other hother => ?_) hmatched'
        exact (htasks other (mem_cons_of_mem _ hother)).extend (hbegins.trans hlater)

theorem meets_pass (hlower : KeepsLabels host.lower) (now : Datetime) (max_nodes max_tasks : Int)
    (session_id topic_id : Option String) :
    Dialogue.Meets (fun _ _ _ => True) PassAsks (TasksPlanned host)
      (host.plan_ready_nodes now max_nodes max_tasks session_id topic_id) [] := by
  have hnothing (error : StoreError) : TasksPlanned host [] (.error error) := fun _ => .inl rfl
  unfold BeeHost.plan_ready_nodes
  refine Dialogue.Meets.lift_bind (fun _ _ => ?_) (fun error _ => hnothing error)
  refine Dialogue.Meets.lift_bind (fun _ _ => ?_) (fun error _ => hnothing error)
  refine Dialogue.Meets.lift_bind (fun _ _ => ?_) (fun error _ => hnothing error)
  refine Dialogue.Meets.lift_bind (fun _ _ => ?_) (fun error _ => hnothing error)
  refine meets_call trivial (fun tasks => ?_) (fun error _ => .inr (last_failed [] error))
  refine meets_plan_tasks hlower now max_nodes (fun task hmem => ?_) (fun _ => rfl)
  exact ⟨session_id, topic_id, max_tasks, tasks, mem_singleton_self _, hmem⟩

end Pass

/-! ## Calls that close a task -/

section Close

variable {history : BeeHistory} {task_id : String}

theorem quiet_nil : Quiet [] := fun _ hmem => by cases hmem

theorem Quiet.snoc (h : Quiet history) (told : BeeTold) (hwrite : told.1.node_write = none)
    (hlist : ∀ task_id nodes, told ≠ nodes_listed task_id nodes) : Quiet (history ++ [told]) := by
  intro other hmem
  rcases mem_snoc hmem with hold | hnew
  · exact h other hold
  · rw [hnew]
    exact ⟨hwrite, hlist⟩

theorem meets_require_task {α : Type} {next : BeeTaskRecord → BeeDialogue α}
    {guard : BeeHistory → BeeQuery → Prop} {post : BeeHistory → Except StoreError α → Prop}
    (hasks : guard history (.load_task task_id))
    (hfails : ∀ later error, post later (.error error))
    (hok : ∀ loaded task, Dialogue.Meets (fun _ _ _ => True) guard post (next task)
      (history ++ [⟨.load_task task_id, loaded⟩])) :
    Dialogue.Meets (fun _ _ _ => True) guard post (require_task task_id >>= next) history := by
  refine Dialogue.Meets.bind ?_
  unfold require_task
  refine Dialogue.Meets.lift_bind (fun _ _ => ?_) (fun error _ => hfails _ error)
  refine meets_call hasks (fun task => ?_) (fun error => hfails _ error)
  cases task with
  | none => exact hfails _ _
  | some task => exact hok _ task

/-- What holds while a call that closes the task has `rest` left to write. -/
structure Closing (task_id : String) (nodes rest : List BeeNodeRecord) (history : BeeHistory) :
    Prop where
  cancelled : ∃ told ∈ history, cancelled told = some task_id
  listed : nodes_listed task_id nodes ∈ history
  once : ∀ others, nodes_listed task_id others ∈ history → others = nodes
  written : ∀ node ∈ nodes, node.needs_closing = true →
    node ∈ rest ∨ ∃ told ∈ history, wrote told = some (node.key, .skipped)

theorem Closing.write {nodes rest : List BeeNodeRecord} {node : BeeNodeRecord}
    (h : Closing task_id nodes (node :: rest) history) (now : Datetime) (closed : BeeTaskRecord)
    (written : BeeNodeRecord) :
    Closing task_id nodes rest (history ++ [⟨closed_node now closed node,
      (.ok written : Except StoreError BeeNodeRecord)⟩]) := by
  refine ⟨?_, mem_append_left _ h.listed, fun others hothers => ?_, fun other hmem hneeds => ?_⟩
  · obtain ⟨told, hmem, htold⟩ := h.cancelled
    exact ⟨told, mem_append_left _ hmem, htold⟩
  · rcases mem_snoc hothers with hold | hnew
    · exact h.once others hold
    · cases hnew
  · rcases h.written other hmem hneeds with hrest | ⟨told, htold, hwrote⟩
    · rcases mem_cons.mp hrest with rfl | hrest
      · exact .inr ⟨_, mem_append_right _ (mem_singleton_self _), rfl⟩
      · exact .inl hrest
    · exact .inr ⟨told, mem_append_left _ htold, hwrote⟩

theorem meets_write_nodes {nodes rest : List BeeNodeRecord} (now : Datetime) (closed : BeeTaskRecord)
    (h : Closing task_id nodes rest history) :
    Dialogue.Meets (fun _ _ _ => True) (CloseAsks task_id) (CloseEnds task_id)
      (write_nodes (closed_node now closed) rest >>= fun _ => pure closed) history := by
  induction rest generalizing history with
  | nil =>
    refine ⟨h.cancelled, ⟨nodes, h.listed⟩, ?_⟩
    rintro key ⟨others, node, hothers, hmem, rfl, hneeds, hunwritten⟩
    obtain rfl := h.once others hothers
    rcases h.written node hmem hneeds with hrest | ⟨told, htold, hwrote⟩
    · cases hrest
    · exact hunwritten told htold hwrote
  | cons node rest ih =>
    refine ⟨rfl, fun answer _ => ?_⟩
    cases answer with
    | error error => exact trivial
    | ok written => exact ih (h.write now closed written)

/-- **A call that closes a task** cancels it, lists its nodes and writes those that are left. -/
theorem meets_close_task (hquiet : Quiet history) (reason : String) (now : Datetime) :
    Dialogue.Meets (fun _ _ _ => True) (CloseAsks task_id) (CloseEnds task_id)
      (close_task task_id reason now) history := by
  unfold close_task
  refine meets_require_task trivial (fun _ _ => trivial) (fun loaded task => ?_)
  have hquiet := hquiet.snoc ⟨.load_task task_id, loaded⟩ rfl
    (fun _ _ heq => by cases heq)
  refine Dialogue.Meets.lift_bind (fun _ _ => ?_) (fun _ _ => trivial)
  have hsilent (closed : BeeTaskRecord) := hquiet.snoc ⟨.update_task_status task_id
    .cancelled task.summary now (task.metadata.merge [("lifecycle_state", .str reason)]),
      (.ok closed : Except StoreError BeeTaskRecord)⟩ rfl (fun _ _ heq => by cases heq)
  refine meets_call ⟨rfl, rfl⟩ (fun closed => ?_) (fun _ => trivial)
  refine meets_call ⟨rfl, hsilent closed⟩ (fun nodes => ?_) (fun _ => trivial)
  have hmem : nodes_listed task_id nodes ∈ history ++ [⟨.load_task task_id, loaded⟩]
      ++ [⟨.update_task_status task_id .cancelled task.summary now
        (task.metadata.merge [("lifecycle_state", .str reason)]), .ok closed⟩]
      ++ [nodes_listed task_id nodes] := mem_append_right _ (mem_singleton_self _)
  refine meets_write_nodes now closed ⟨⟨_, mem_append_left _ (mem_append_right _
    (mem_singleton_self _)), rfl⟩, hmem, fun others hothers => ?_, fun node hnode hneeds => ?_⟩
  · rcases mem_snoc hothers with hold | hnew
    · exact absurd rfl ((hsilent closed _ hold).2 task_id others)
    · cases hnew
      rfl
  · exact .inl (mem_filter.mpr ⟨hnode, hneeds⟩)

theorem meets_abort_task (now : Datetime) (tape : Option AnchorTape) (topic : Option TopicRecord)
    (task_lifecycle : Bool) :
    Dialogue.Meets (fun _ _ _ => True) (CloseAsks task_id) (CloseEnds task_id)
      (host.abort_task task_id now tape topic task_lifecycle) [] := by
  unfold BeeHost.abort_task
  split
  · exact meets_close_task quiet_nil "aborted" now
  · refine meets_require_task trivial (fun _ _ => trivial) (fun loaded task => ?_)
    have hquiet := quiet_nil.snoc ⟨.load_task task_id, loaded⟩ rfl
      (fun _ _ heq => by cases heq)
    refine Dialogue.Meets.lift_bind (fun _ _ => ?_) (fun _ _ => trivial)
    refine Dialogue.Meets.bind ?_
    unfold BeeHost.finalize_aborted
    refine Dialogue.Meets.lift_bind (fun _ _ => ?_) (fun _ _ => trivial)
    refine Dialogue.Meets.lift_bind (fun _ _ => ?_) (fun _ _ => trivial)
    refine Dialogue.Meets.lift_bind (fun _ _ => ?_) (fun _ _ => trivial)
    refine ⟨trivial, fun answer _ => ?_⟩
    cases answer with
    | error error => exact trivial
    | ok value => exact meets_close_task (hquiet.snoc _ rfl (fun _ _ heq => by cases heq)) "aborted" now
  · exact trivial

end Close

/-! ## Every call -/

theorem meets_wrapped {α : Type} {wrap : α → BeeResult} {body : BeeDialogue α}
    {guard : BeeHistory → BeeQuery → Prop} {post : BeeHistory → Except StoreError BeeResult → Prop}
    (h : Dialogue.Meets (fun _ _ _ => True) guard
      (fun history result => post history (result.map wrap)) body []) :
    Dialogue.Meets (fun _ _ _ => True) guard post (wrap <$> body) [] := by
  refine Dialogue.Meets.bind (h.imp (fun history result hresult => ?_))
  cases result with
  | ok value => exact hresult
  | error error => exact hresult

abbrev ClaimsNothing {α : Type} (body : BeeDialogue α) : Prop :=
  Always (fun query => query.claims = none) (fun _ => True) body

section ClaimsNothing

variable {α : Type} {query : BeeQuery}

theorem claims_nothing_call {next : query.Value → BeeDialogue α} (hquery : query.claims = none)
    (hnext : ∀ value, ClaimsNothing (next value)) : ClaimsNothing (call query >>= next) := by
  refine ⟨hquery, fun answer => ?_⟩
  cases answer with
  | error error => trivial
  | ok value => exact hnext value

theorem claims_nothing_require_task (task_id : String) : ClaimsNothing (require_task task_id) := by
  unfold require_task
  refine Always.lift_bind (fun _ _ => ?_)
  refine claims_nothing_call rfl (fun task => ?_)
  cases task with
  | none => trivial
  | some task => trivial

theorem claims_nothing_require_node (task_id node_id : String) :
    ClaimsNothing (require_node task_id node_id) := by
  unfold require_node
  refine Always.lift_bind (fun _ _ => ?_)
  refine claims_nothing_call rfl (fun nodes => ?_)
  split
  · trivial
  · trivial

theorem claims_nothing_write_nodes {write : BeeNodeRecord → BeeQuery}
    (hwrite : ∀ node, (write node).claims = none) (nodes : List BeeNodeRecord) :
    ClaimsNothing (write_nodes write nodes) := by
  induction nodes with
  | nil => trivial
  | cons node rest ih => exact claims_nothing_call (hwrite node) (fun _ => ih)

theorem claims_nothing_resume (task_id : String) (now : Datetime) :
    ClaimsNothing (resume_task task_id now) := by
  unfold resume_task
  refine (claims_nothing_require_task task_id).bind (fun task _ => ?_)
  refine Always.lift_bind (fun _ _ => ?_)
  refine claims_nothing_call rfl (fun resumed => claims_nothing_call rfl (fun nodes => ?_))
  exact (claims_nothing_write_nodes (fun _ => rfl) _).bind (fun _ _ => trivial)

theorem claims_nothing_retry (task_id node_id : String) (now : Datetime) :
    ClaimsNothing (retry_node task_id node_id now) := by
  unfold retry_node
  refine (claims_nothing_require_task task_id).bind (fun _ _ => ?_)
  refine (claims_nothing_require_node task_id node_id).bind (fun node _ => ?_)
  refine Always.lift_bind (fun _ _ => ?_)
  exact ⟨rfl, fun answer => Always.lift (fun _ _ => trivial)⟩

end ClaimsNothing

theorem close_claims_nothing {task_id : String} {history : BeeHistory} {query : BeeQuery}
    (h : CloseAsks task_id history query) : query.claims = none := by
  cases query with
  | claim_ready_node task_id node_id updated_at metadata => exact h.elim
  | _ => rfl

/-- **What every call asks and how it ends.** -/
theorem meets_body (hlower : KeepsLabels host.lower) (call : BeeCall) :
    Dialogue.Meets (fun _ _ _ => True) (CallAsks call) (CallEnds host call) (call.body host) [] := by
  have hother {α : Type} {wrap : α → BeeResult} {body : BeeDialogue α} (hbody : ClaimsNothing body)
      (hpass : call.is_pass = false) (hcloses : call.closes = none) :
      Dialogue.Meets (fun _ _ _ => True) (CallAsks call) (CallEnds host call) (wrap <$> body) [] := by
    have hends (history : BeeHistory) (result : Except StoreError BeeResult) :
        CallEnds host call history result := by
      refine ⟨fun h => ?_, fun task_id h => ?_⟩
      · rw [hpass] at h
        cases h
      · rw [hcloses] at h
        cases h
    refine meets_wrapped (hbody.meets (fun history query _ hquery => ?_) (fun _ _ _ _ => hends _ _)
      (fun _ _ _ => hends _ _))
    unfold CallAsks
    rw [hpass, hcloses, if_neg Bool.false_ne_true]
    exact ⟨hquery, fun _ h => by cases h⟩
  have hclose {task_id : String} {body : BeeDialogue BeeTaskRecord}
      (hbody : Dialogue.Meets (fun _ _ _ => True) (CloseAsks task_id) (CloseEnds task_id) body [])
      (hpass : call.is_pass = false) (hcloses : call.closes = some task_id) :
      Dialogue.Meets (fun _ _ _ => True) (CallAsks call) (CallEnds host call)
        (BeeResult.task <$> body) [] := by
    refine meets_wrapped ((hbody.guard_imp (fun history query hasks => ?_)).imp
      (fun history result hends => ⟨fun h => ?_, fun other h => ?_⟩))
    · unfold CallAsks
      rw [hpass, hcloses, if_neg Bool.false_ne_true]
      refine ⟨close_claims_nothing hasks, fun other h => ?_⟩
      obtain rfl := Option.some.inj h
      exact hasks
    · rw [hpass] at h
      cases h
    · rw [hcloses] at h
      obtain rfl := Option.some.inj h
      cases result with
      | ok task => exact hends
      | error error => trivial
  cases call with
  | plan_ready_nodes now max_nodes max_tasks session_id topic_id =>
    refine meets_wrapped (((meets_pass hlower now max_nodes max_tasks session_id topic_id).guard_imp
      (fun _ _ hasks => hasks)).imp (fun history result hends => ⟨fun _ => ?_, fun _ h => by cases h⟩))
    cases result with
    | ok intents => exact hends
    | error error => exact hends
  | update_node_status task_id node_id status run_id updated_at started_at finished_at metadata =>
    exact hother ⟨rfl, fun answer => Always.lift (fun _ _ => trivial)⟩ rfl rfl
  | resume_task task_id now => exact hother (claims_nothing_resume task_id now) rfl rfl
  | retry_node task_id node_id now => exact hother (claims_nothing_retry task_id node_id now) rfl rfl
  | cancel_task task_id now => exact hclose (meets_close_task quiet_nil "cancelled" now) rfl rfl
  | abort_task task_id now tape topic task_lifecycle =>
    exact hclose (meets_abort_task now tape topic task_lifecycle) rfl rfl

end CodingAgentLoop.Bee
