/-
`BeeTaskPlanner` (`coding_agent/bee/runtime.py`) and `BeeTaskLifecycleController`
(`coding_agent/bee/launch.py`).

A pass lists the running tasks, lists the nodes of each, and claims those whose dependencies are
completed; its intents are returned at its end. Resuming, cancelling and aborting write the task
first and then the nodes of a list that was read in between. Each call of the store may fail before
it takes effect, and others go on between two of them.
-/
import CodingAgentLoop.BeeStore
import CodingAgentLoop.Lib.Crew

namespace CodingAgentLoop.Bee

open Lib Dialogue

inductive BeeQuery where
  | list_tasks (session_id topic_id : Option String) (status : Option BeeTaskStatus) (limit : Int)
  | load_task (task_id : String)
  | update_task_status (task_id : String) (status : BeeTaskStatus) (summary : Option String)
      (updated_at : Datetime) (metadata : JsonObject)
  | list_nodes (task_id : String)
  | update_node_status (task_id node_id : String) (status : BeeNodeStatus) (run_id : Option String)
      (updated_at : Datetime) (started_at finished_at : Option Datetime) (metadata : JsonObject)
  | claim_ready_node (task_id node_id : String) (updated_at : Datetime) (metadata : JsonObject)
  | record_topic_anchor (record : TopicAnchorRecord)

namespace BeeQuery

def Value : BeeQuery → Type
  | list_tasks _ _ _ _ => List BeeTaskRecord
  | load_task _ => Option BeeTaskRecord
  | update_task_status _ _ _ _ _ => BeeTaskRecord
  | list_nodes _ => List BeeNodeRecord
  | update_node_status _ _ _ _ _ _ _ _ => BeeNodeRecord
  | claim_ready_node _ _ _ _ => Option BeeNodeRecord
  | record_topic_anchor _ => Unit

abbrev Answer (query : BeeQuery) : Type := Except StoreError query.Value

end BeeQuery

abbrev BeeDialogue (α : Type) : Type := Dialogue BeeQuery BeeQuery.Answer StoreError α

def call (query : BeeQuery) : BeeDialogue query.Value := do
  let answer ← await query
  lift answer

namespace BeeHost

variable (host : BeeHost)

/-! ## A pass -/

def node_dependencies_ready (node : BeeNodeRecord) (completed_node_ids : List String) : Bool :=
  node.depends_on.all (completed_node_ids.contains ·)

def completed_node_ids (nodes : List BeeNodeRecord) : List String :=
  (nodes.filter (fun node => node.status = .completed)).map (·.node_id)

def claim (now : Datetime) (node : BeeNodeRecord) : BeeQuery :=
  .claim_ready_node node.task_id node.node_id now (node.metadata.merge
    [("planner_state", .str "ready"), ("planner_reason", .str "dependencies_ready")])

/-- The loop over the nodes of a task. The flag says that the pass has its fill of intents. -/
def plan_nodes (now : Datetime) (max_nodes : Int) (task : BeeTaskRecord)
    (completed_node_ids : List String) : List BeeNodeRecord → List BeeNodeLaunchIntent →
      BeeDialogue (List BeeNodeLaunchIntent × Bool)
  | [], intents => pure (intents, false)
  | node :: rest, intents =>
    if max_nodes ≤ intents.length then pure (intents, true)
    else if node.status ≠ .pending then
      plan_nodes now max_nodes task completed_node_ids rest intents
    else if ¬ node_dependencies_ready node completed_node_ids then
      plan_nodes now max_nodes task completed_node_ids rest intents
    else do
      let updated_node ← call (claim now node)
      match updated_node with
      | none => plan_nodes now max_nodes task completed_node_ids rest intents
      | some updated_node => do
          lift ((launch_intent task updated_node now).post_init host.lower)
          plan_nodes now max_nodes task completed_node_ids rest
            (intents ++ [launch_intent task updated_node now])

/-- The loop over the tasks. -/
def plan_tasks (now : Datetime) (max_nodes : Int) : List BeeTaskRecord →
    List BeeNodeLaunchIntent → BeeDialogue (List BeeNodeLaunchIntent)
  | [], intents => pure intents
  | task :: rest, intents => do
      let nodes ← call (.list_nodes task.task_id)
      let planned ← host.plan_nodes now max_nodes task (completed_node_ids nodes) nodes intents
      if planned.2 then pure planned.1 else plan_tasks now max_nodes rest planned.1

def plan_ready_nodes (now : Datetime) (max_nodes max_tasks : Int)
    (session_id topic_id : Option String) : BeeDialogue (List BeeNodeLaunchIntent) := do
  lift (raise_if (max_nodes ≤ 0) .ValueError "max_nodes must be a positive int")
  lift (raise_if (max_tasks ≤ 0) .ValueError "max_tasks must be a positive int")
  lift (require_optional_id "session_id" session_id)
  lift (require_optional_id "topic_id" topic_id)
  let tasks ← call (.list_tasks session_id topic_id (some .running) max_tasks)
  host.plan_tasks now max_nodes tasks []

end BeeHost

/-! ## The life of a task -/

def require_task (task_id : String) : BeeDialogue BeeTaskRecord := do
  lift (require_non_empty "task_id" task_id)
  let task ← call (.load_task task_id)
  match task with
  | none => lift (raise .KeyError ("Bee task not found: " ++ task_id))
  | some task => pure task

def require_node (task_id node_id : String) : BeeDialogue BeeNodeRecord := do
  lift (require_non_empty "node_id" node_id)
  let nodes ← call (.list_nodes task_id)
  match (nodes : List BeeNodeRecord).find? (fun node => node.node_id = node_id) with
  | none => lift (raise .KeyError ("Bee node not found: " ++ task_id ++ "/" ++ node_id))
  | some node => pure node

/-- `for node in nodes: await write(node)`. -/
def write_nodes (write : BeeNodeRecord → BeeQuery) : List BeeNodeRecord → BeeDialogue Unit
  | [] => pure ()
  | node :: rest => do
      let _ ← call (write node)
      write_nodes write rest

/-- A node that `resume_task` leaves as it is. -/
def BeeNodeStatus.stays (status : BeeNodeStatus) : Bool :=
  status = .completed || status = .skipped || status = .pending || status = .ready

/-- A node put back by `resume_task`. -/
def resumed_node (now : Datetime) (node : BeeNodeRecord) : BeeQuery :=
  .update_node_status node.task_id node.node_id .pending none now none none (node.metadata.merge
    [("resume_reason", .str "manual_resume"), ("previous_status", .str node.status.value)])

def resume_task (task_id : String) (now : Datetime) : BeeDialogue BeeTaskRecord := do
  let task ← require_task task_id
  lift (raise_if (task.status = .completed ∨ task.status = .cancelled) .ValueError
    ("Bee task cannot be resumed from " ++ task.status.value))
  let resumed_task ← call (.update_task_status task_id .running task.summary now
    (task.metadata.merge [("lifecycle_state", .str "resumed")]))
  let nodes ← call (.list_nodes task_id)
  write_nodes (resumed_node now)
    ((nodes : List BeeNodeRecord).filter (fun node => ¬ node.status.stays))
  pure resumed_task

def metadata_int (metadata : JsonObject) (key : String) (default : Int) : Int :=
  match metadata.find key with
  | some (.int value) => value
  | _ => default

def retry_node (task_id node_id : String) (now : Datetime) : BeeDialogue BeeNodeRecord := do
  let _ ← require_task task_id
  let node ← require_node task_id node_id
  lift (raise_if (node.status ≠ .failed) .ValueError "only failed Bee nodes can be retried")
  call (.update_node_status task_id node_id .pending none now none none (node.metadata.merge
    [("attempt_count", .int (metadata_int node.metadata "attempt_count" 1 + 1)),
      ("previous_status", .str node.status.value), ("retry_reason", .str "manual_retry")]))

/-- A node that `_close_task` writes. -/
def BeeNodeRecord.needs_closing (node : BeeNodeRecord) : Bool :=
  ¬ (node.status = .completed
    ∨ node.status = .skipped ∧ node.run_id = none ∧ node.started_at = none)

def setdefault (metadata : JsonObject) (key : String) (value : Json) : JsonObject :=
  if (metadata.find key).isSome then metadata else metadata ++ [(key, value)]

/-- A node skipped by `_close_task`. -/
def closed_node (now : Datetime) (closed : BeeTaskRecord) (node : BeeNodeRecord) : BeeQuery :=
  .update_node_status node.task_id node.node_id .skipped none now none (some now)
    (setdefault node.metadata "terminal_reason" (.str closed.status.value))

def require_not_terminal (task : BeeTaskRecord) : Except StoreError Unit :=
  raise_if (task.status = .completed ∨ task.status = .cancelled) .ValueError
    ("Bee task already terminal: " ++ task.status.value)

def close_task (task_id reason : String) (now : Datetime) : BeeDialogue BeeTaskRecord := do
  let task ← require_task task_id
  lift (require_not_terminal task)
  let closed ← call (.update_task_status task_id .cancelled task.summary now
    (task.metadata.merge [("lifecycle_state", .str reason)]))
  let nodes ← call (.list_nodes task_id)
  write_nodes (closed_node now closed)
    ((nodes : List BeeNodeRecord).filter (·.needs_closing))
  pure closed

def cancel_task (task_id : String) (now : Datetime) : BeeDialogue BeeTaskRecord :=
  close_task task_id "cancelled" now

/-- What an abort anchor takes from its tape: the id, the number of entries, and the id of the
entry that is appended. -/
structure AnchorTape where
  tape_id : String
  entries : Nat
  entry_id : String

namespace BeeHost

variable (host : BeeHost)

section

variable (tape : AnchorTape) (topic : TopicRecord)

def require_matching_topic (task : BeeTaskRecord) :
    Except StoreError Unit := do
  raise_if (tape.tape_id ≠ topic.tape_id) .ValueError
    ("topic " ++ topic.topic_id ++ " belongs to tape " ++ topic.tape_id)
  raise_if (task.topic_id ≠ topic.topic_id) .ValueError
    ("task " ++ task.task_id ++ " belongs to topic " ++ task.topic_id)
  raise_if (task.session_id ≠ topic.session_id) .ValueError
    ("task " ++ task.task_id ++ " belongs to session " ++ task.session_id)
  raise_if (topic.status ≠ .open) .ValueError
    ("Bee task anchors require an open topic: " ++ topic.topic_id)

/-- The anchor of `finalize_task(status="cancelled", metadata={"lifecycle_state": "aborted"})`. -/
def abort_anchor : TopicAnchorRecord where
  topic_id := topic.topic_id
  tape_id := topic.tape_id
  seq := tape.entries
  anchor_type := "bee_task_aborted"
  entry_id := some tape.entry_id
  metadata := [("lifecycle_state", .str "aborted"), ("task_status", .str "cancelled"),
    ("encoded_anchor_type", .str "context"), ("product_anchor_type", .str "bee_task_aborted")]

/-- `finalize_task` of a task that is aborted: the anchor is recorded, and removed from the tape
when that fails. -/
def finalize_aborted (task : BeeTaskRecord) :
    BeeDialogue Unit := do
  lift (({ task with status := .cancelled } : BeeTaskRecord).post_init host.lower)
  lift (require_matching_topic tape topic task)
  lift ((abort_anchor tape topic).post_init host.casefold)
  call (.record_topic_anchor (abort_anchor tape topic))

end

def abort_task (task_id : String) (now : Datetime) (tape : Option AnchorTape)
    (topic : Option TopicRecord) (task_lifecycle : Bool) : BeeDialogue BeeTaskRecord :=
  match tape, topic, task_lifecycle with
  | none, none, false => close_task task_id "aborted" now
  | some tape, some topic, true => do
      let task ← require_task task_id
      lift (require_not_terminal task)
      host.finalize_aborted tape topic task
      close_task task_id "aborted" now
  | _, _, _ => lift (raise .ValueError
      "abort anchor requires tape, topic, and task_lifecycle")

/-! ## Runs -/

/-- What a call of a store does that reaches it. The store of anchors is another one. -/
def act : (query : BeeQuery) → BeeAction query.Value
  | .list_tasks session_id topic_id status limit => host.list_tasks session_id topic_id status limit
  | .load_task task_id => host.load_task task_id
  | .update_task_status task_id status summary updated_at metadata =>
    host.update_task_status task_id status summary updated_at metadata
  | .list_nodes task_id => host.list_nodes task_id
  | .update_node_status task_id node_id status run_id updated_at started_at finished_at metadata =>
    host.update_node_status task_id node_id status run_id updated_at started_at finished_at metadata
  | .claim_ready_node task_id node_id updated_at metadata =>
    host.claim_ready_node task_id node_id updated_at metadata
  | .record_topic_anchor _ => pure ()

/-- A call reaches the store, or fails before it takes effect. -/
inductive Answers (tables : BeeTables) (query : BeeQuery) : query.Answer → BeeTables → Prop
  | reached : Answers tables query (host.act query tables).1 (host.act query tables).2
  | failed (error : StoreError) : Answers tables query (.error error) tables

end BeeHost

/-- A pass, a step in the life of a task, or an update of a node's status. `now` is what the call
reads from the clock. -/
inductive BeeCall where
  | plan_ready_nodes (now : Datetime) (max_nodes max_tasks : Int)
      (session_id topic_id : Option String)
  | update_node_status (task_id node_id : String) (status : BeeNodeStatus) (run_id : Option String)
      (updated_at : Datetime) (started_at finished_at : Option Datetime) (metadata : JsonObject)
  | resume_task (task_id : String) (now : Datetime)
  | retry_node (task_id node_id : String) (now : Datetime)
  | cancel_task (task_id : String) (now : Datetime)
  | abort_task (task_id : String) (now : Datetime) (tape : Option AnchorTape)
      (topic : Option TopicRecord) (task_lifecycle : Bool)

/-- What a call returns. -/
inductive BeeResult where
  | intents (intents : List BeeNodeLaunchIntent)
  | node (node : BeeNodeRecord)
  | task (task : BeeTaskRecord)

def BeeCall.body (host : BeeHost) : BeeCall → BeeDialogue BeeResult
  | .plan_ready_nodes now max_nodes max_tasks session_id topic_id =>
    .intents <$> host.plan_ready_nodes now max_nodes max_tasks session_id topic_id
  | .update_node_status task_id node_id status run_id updated_at started_at finished_at metadata =>
    .node <$> call (.update_node_status task_id node_id status run_id updated_at started_at
      finished_at metadata)
  | .resume_task task_id now => .task <$> Bee.resume_task task_id now
  | .retry_node task_id node_id now => .node <$> Bee.retry_node task_id node_id now
  | .cancel_task task_id now => .task <$> Bee.cancel_task task_id now
  | .abort_task task_id now tape topic task_lifecycle =>
    .task <$> host.abort_task task_id now tape topic task_lifecycle

abbrev BeeCrew : Type :=
  Crew BeeCall BeeTables BeeQuery BeeQuery.Answer StoreError BeeResult

abbrev BeeEvent : Type := CrewEvent BeeCall BeeTables BeeQuery BeeQuery.Answer

abbrev BeeStep (host : BeeHost) : BeeCrew → BeeEvent → BeeCrew → Prop :=
  Crew.Step (BeeCall.body host) host.Answers (fun _ _ => False)

end CodingAgentLoop.Bee
