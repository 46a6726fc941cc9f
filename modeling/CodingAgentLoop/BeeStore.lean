/-
The store of Bee tasks and nodes (`PGBeeTaskStore` of `coding_agent/bee/runtime.py`).

A row that is read or returned is built into its record, which checks itself; a write has taken
effect by then. A claim is one conditional update: of a node that is pending, whatever became of
its task.
-/
import CodingAgentLoop.BeeRecords
import CodingAgentLoop.Lib.Stateful

namespace CodingAgentLoop.Bee

open Lib Action

/-- `bee_tasks` and `bee_task_nodes`. -/
structure BeeTables where
  tasks : Table String BeeTaskRow := ∅
  nodes : Table NodeKey BeeNodeRow := ∅

def BeeTables.put_task (tables : BeeTables) (task_id : String) (row : BeeTaskRow) : BeeTables :=
  { tables with tasks := tables.tasks.put task_id row }

def BeeTables.put_node (tables : BeeTables) (key : NodeKey) (row : BeeNodeRow) : BeeTables :=
  { tables with nodes := tables.nodes.put key row }

/-- The columns that an update of a node's status and a claim set. -/
def BeeNodeRow.moved (row : BeeNodeRow) (status : BeeNodeStatus) (run_id : Option String)
    (updated_at : Datetime) (started_at finished_at : Option Datetime) (metadata : JsonObject) :
    BeeNodeRow :=
  { row with status, run_id, updated_at, started_at, finished_at, metadata }

abbrev BeeAction := Action BeeTables StoreError

/-- What the store runs on: `str.lower`, `str.casefold`, and the order of texts in the database. -/
structure BeeHost where
  lower : String → String
  casefold : String → String
  collate : String → String → Bool

/-- `", ".join(sorted(names))`. -/
def joined (names : List String) : String :=
  ", ".intercalate (names.insertionSort (fun name other => name ≤ other))

namespace BeeHost

variable (host : BeeHost)

/-- `_bee_task_from_row(row)`. -/
def task_from_row (task_id : String) (row : BeeTaskRow) : Except StoreError BeeTaskRecord := do
  ({ row with task_id } : BeeTaskRecord).post_init host.lower
  pure { row with task_id }

/-- `_bee_node_from_row(row)`. -/
def node_from_row (key : NodeKey) (row : BeeNodeRow) : Except StoreError BeeNodeRecord := do
  ({ row with task_id := key.1, node_id := key.2 } : BeeNodeRecord).post_init host.lower
  pure { row with task_id := key.1, node_id := key.2 }

def written_task (task_id : String) (row : BeeTaskRow) : BeeAction BeeTaskRecord := do
  Action.modify (fun tables => tables.put_task task_id row)
  lift (host.task_from_row task_id row)

def written_node (key : NodeKey) (row : BeeNodeRow) : BeeAction BeeNodeRecord := do
  Action.modify (fun tables => tables.put_node key row)
  lift (host.node_from_row key row)

/-! ## Tasks -/

def load_task (task_id : String) : BeeAction (Option BeeTaskRecord) := do
  lift (require_non_empty "task_id" task_id)
  let tables ← Action.get
  match tables.tasks.row task_id with
  | none => pure none
  | some row => lift (some <$> host.task_from_row task_id row)

/-- `ORDER BY created_at, task_id`, and the same for the nodes of one task. -/
def created_before (created_at other_created_at : Datetime) (id other_id : String) : Bool :=
  created_at < other_created_at || (created_at = other_created_at && host.collate id other_id)

def list_tasks (session_id topic_id : Option String) (status : Option BeeTaskStatus)
    (limit : Int) : BeeAction (List BeeTaskRecord) := do
  lift (require_optional_id "session_id" session_id)
  lift (require_optional_id "topic_id" topic_id)
  lift (raise_if (limit ≤ 0) .ValueError "limit must be a positive int")
  let tables ← Action.get
  let rows := (tables.tasks.select (fun _ row => session_id.all (· == row.session_id)
      && topic_id.all (· == row.topic_id) && status.all (· == row.status))).insertionSort
    (fun row other => host.created_before row.2.created_at other.2.created_at row.1 other.1)
  lift ((rows.take limit.toNat).mapM (fun row => host.task_from_row row.1 row.2))

def update_task_status (task_id : String) (status : BeeTaskStatus) (summary : Option String)
    (updated_at : Datetime) (metadata : JsonObject) : BeeAction BeeTaskRecord := do
  lift (require_non_empty "task_id" task_id)
  lift (require_optional_display_text host.lower "summary" summary)
  lift (require_safe_json_object host.lower "metadata" metadata)
  let tables ← Action.get
  match tables.tasks.row task_id with
  | none => lift (raise .KeyError ("Bee task not found: " ++ task_id))
  | some row => host.written_task task_id { row with status, summary, updated_at, metadata }

/-! ## Nodes -/

def list_nodes (task_id : String) : BeeAction (List BeeNodeRecord) := do
  lift (require_non_empty "task_id" task_id)
  let tables ← Action.get
  let rows := (tables.nodes.select (fun key _ => key.1 = task_id)).insertionSort
    (fun row other => host.created_before row.2.created_at other.2.created_at row.1.2 other.1.2)
  lift (rows.mapM (fun row => host.node_from_row row.1 row.2))

def update_node_status (task_id node_id : String) (status : BeeNodeStatus)
    (run_id : Option String) (updated_at : Datetime) (started_at finished_at : Option Datetime)
    (metadata : JsonObject) : BeeAction BeeNodeRecord := do
  lift (require_non_empty "task_id" task_id)
  lift (require_non_empty "node_id" node_id)
  lift (require_optional_id "run_id" run_id)
  lift (require_safe_json_object host.lower "metadata" metadata)
  let tables ← Action.get
  match tables.nodes.row (task_id, node_id) with
  | none => lift (raise .KeyError ("Bee node not found: " ++ task_id ++ "/" ++ node_id))
  | some row =>
    host.written_node (task_id, node_id)
      (row.moved status run_id updated_at started_at finished_at metadata)

/-- `claim_ready_node(task_id=..., node_id=..., ...)`: nothing is updated unless the node is
pending. -/
def claim_ready_node (task_id node_id : String) (updated_at : Datetime) (metadata : JsonObject) :
    BeeAction (Option BeeNodeRecord) := do
  lift (require_non_empty "task_id" task_id)
  lift (require_non_empty "node_id" node_id)
  lift (require_safe_json_object host.lower "metadata" metadata)
  let tables ← Action.get
  match tables.nodes.row (task_id, node_id) with
  | none => pure none
  | some row =>
    if row.status = .pending then
      some <$> host.written_node (task_id, node_id)
        (row.moved .ready none updated_at none none metadata)
    else pure none

end BeeHost

end CodingAgentLoop.Bee
