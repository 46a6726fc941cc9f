/-
What a call of the Bee store makes of the rows, and what its answer tells.

A row is written by a call that names it. A node keeps what it depends on, and a row that passed
its checks passes them after every write, so a claim that takes effect returns.
-/
import CodingAgentLoop.BeePlanner

namespace CodingAgentLoop.Bee

open Lib Preserves Table Result

variable {host : BeeHost}

/-! ## Statuses -/

def BeeTables.task_status (tables : BeeTables) (task_id : String) : Option BeeTaskStatus :=
  (tables.tasks.row task_id).map (·.status)

def BeeTables.node_status (tables : BeeTables) (key : NodeKey) : Option BeeNodeStatus :=
  (tables.nodes.row key).map (·.status)

/-- The node is done with: no call of the controller writes it any more. -/
def BeeNodeStatus.final (status : BeeNodeStatus) : Bool :=
  status = .completed || status = .skipped

def BeeQuery.task_write : BeeQuery → Option (String × BeeTaskStatus)
  | .update_task_status task_id status _ _ _ => some (task_id, status)
  | _ => none

def BeeQuery.node_write : BeeQuery → Option (NodeKey × BeeNodeStatus)
  | .update_node_status task_id node_id status _ _ _ _ _ => some ((task_id, node_id), status)
  | .claim_ready_node task_id node_id _ _ => some ((task_id, node_id), .ready)
  | _ => none

def BeeQuery.claims : BeeQuery → Option NodeKey
  | .claim_ready_node task_id node_id _ _ => some (task_id, node_id)
  | _ => none

/-! ## What a call of the store leaves -/

def Valid (host : BeeHost) (key : NodeKey) (row : BeeNodeRow) : Prop :=
  ({ row with task_id := key.1, node_id := key.2 } : BeeNodeRecord).post_init host.lower = .ok ()

variable {key : NodeKey} {row : BeeNodeRow}

theorem valid_moved (h : Valid host key row) (status : BeeNodeStatus) {run_id : Option String}
    (updated_at : Datetime) (started_at finished_at : Option Datetime) {metadata : JsonObject}
    (hrun : require_optional_id "run_id" run_id = .ok ())
    (hmetadata : require_safe_json_object host.lower "metadata" metadata = .ok ()) :
    Valid host key (row.moved status run_id updated_at started_at finished_at metadata) := by
  unfold Valid BeeNodeRecord.post_init at h ⊢
  simp only [check_bind_eq_ok] at h ⊢
  obtain ⟨hnode, htask, hkind, hprofile, htitle, hdepends, hself, -, -⟩ := h
  exact ⟨hnode, htask, hkind, hprofile, htitle, hdepends, hself, hrun, hmetadata⟩

def NodeWritten (host : BeeHost) (tables : BeeTables) (key : NodeKey) (status : BeeNodeStatus)
    (left : BeeTables) : Prop :=
  ∃ row row', tables.nodes.row key = some row ∧ row'.status = status
    ∧ row'.depends_on = row.depends_on ∧ (Valid host key row → Valid host key row')
    ∧ left = tables.put_node key row'

theorem node_from_row_ok {node : BeeNodeRecord} (h : host.node_from_row key row = .ok node) :
    node = { row with task_id := key.1, node_id := key.2 } ∧ Valid host key row := by
  unfold BeeHost.node_from_row at h
  rw [check_bind_eq_ok, pure_eq_ok] at h
  exact ⟨h.2.symm, h.1⟩

variable {task_id : String}

theorem task_from_row_ok {row : BeeTaskRow} {task : BeeTaskRecord}
    (h : host.task_from_row task_id row = .ok task) :
    task = { row with task_id } ∧ task.post_init host.lower = .ok () := by
  unfold BeeHost.task_from_row at h
  rw [check_bind_eq_ok, pure_eq_ok] at h
  obtain ⟨hchecked, rfl⟩ := h
  exact ⟨rfl, hchecked⟩

theorem written_node_ensures {tables : BeeTables} (hrow : tables.nodes.row key = some row)
    (status : BeeNodeStatus) {run_id : Option String} (updated_at : Datetime)
    (started_at finished_at : Option Datetime) {metadata : JsonObject}
    (hrun : require_optional_id "run_id" run_id = .ok ())
    (hmetadata : require_safe_json_object host.lower "metadata" metadata = .ok ()) :
    Ensures (· = tables)
      (host.written_node key (row.moved status run_id updated_at started_at finished_at metadata))
      (fun node left => node.key = key ∧ node.post_init host.lower = .ok ()
        ∧ NodeWritten host tables key status left)
      (fun left => ¬ Valid host key row ∧ NodeWritten host tables key status left) := by
  have hwritten : NodeWritten host tables key status (tables.put_node key
      (row.moved status run_id updated_at started_at finished_at metadata)) :=
    ⟨row, row.moved status run_id updated_at started_at finished_at metadata, hrow, rfl, rfl,
      fun h => valid_moved h status updated_at started_at finished_at hrun hmetadata, rfl⟩
  unfold BeeHost.written_node
  refine Ensures.bind (Ensures.modify (Q := fun _ left => left = tables.put_node key
    (row.moved status run_id updated_at started_at finished_at metadata)) ?_) (fun _ => ?_)
  · rintro _ rfl
    rfl
  · refine Ensures.lift (fun node hnode left hleft => ?_) (fun error herror left hleft => ?_)
    · obtain ⟨rfl, hvalid⟩ := node_from_row_ok hnode
      rw [hleft]
      exact ⟨rfl, hvalid, hwritten⟩
    · rw [hleft]
      refine ⟨fun hvalid => ?_, hwritten⟩
      have hmoved := valid_moved hvalid status updated_at started_at finished_at hrun hmetadata
      unfold Valid at hmoved
      unfold BeeHost.node_from_row at herror
      rw [hmoved] at herror
      cases herror

theorem update_node_ensures (host : BeeHost) (tables : BeeTables) (task_id node_id : String)
    (status : BeeNodeStatus)
    (run_id : Option String) (updated_at : Datetime) (started_at finished_at : Option Datetime)
    (metadata : JsonObject) :
    Ensures (· = tables)
      (host.update_node_status task_id node_id status run_id updated_at started_at finished_at metadata)
      (fun _ left => NodeWritten host tables (task_id, node_id) status left)
      (fun left => left = tables ∨ NodeWritten host tables (task_id, node_id) status left) := by
  unfold BeeHost.update_node_status
  have hstop : ∀ left, left = tables →
      left = tables ∨ NodeWritten host tables (task_id, node_id) status left := fun _ h => .inl h
  refine Ensures.check (fun _ => ?_) hstop
  refine Ensures.check (fun _ => ?_) hstop
  refine Ensures.check (fun hrun => ?_) hstop
  refine Ensures.check (fun hmetadata => ?_) hstop
  refine Ensures.bind (Ensures.get (Q := fun read left => left = tables ∧ read = tables)
    (fun _ h => ⟨h, h⟩)) (fun read => ?_)
  refine Ensures.given ?_
  rintro rfl
  cases hrow : read.nodes.row (task_id, node_id) with
  | none => exact Ensures.lift (fun _ h => by cases h) (fun _ _ _ hleft => .inl hleft)
  | some row =>
    refine (written_node_ensures hrow status updated_at started_at finished_at hrun hmetadata).mono
      (fun _ h => h) (fun _ _ h => h.2.2) (fun _ h => ?_)
    exact .inr h.2

theorem claim_ready_ensures (host : BeeHost) (tables : BeeTables) (task_id node_id : String)
    (updated_at : Datetime)
    (metadata : JsonObject) :
    Ensures (· = tables) (host.claim_ready_node task_id node_id updated_at metadata)
      (fun claimed left => claimed = none ∧ left = tables
        ∨ ∃ node, claimed = some node ∧ node.key = (task_id, node_id)
          ∧ node.post_init host.lower = .ok ()
          ∧ tables.node_status (task_id, node_id) = some .pending
          ∧ NodeWritten host tables (task_id, node_id) .ready left)
      (fun left => left = tables
        ∨ (∃ row, tables.nodes.row (task_id, node_id) = some row
            ∧ ¬ Valid host (task_id, node_id) row)
          ∧ tables.node_status (task_id, node_id) = some .pending
          ∧ NodeWritten host tables (task_id, node_id) .ready left) := by
  unfold BeeHost.claim_ready_node
  refine Ensures.check (fun _ => ?_) (fun _ h => .inl h)
  refine Ensures.check (fun _ => ?_) (fun _ h => .inl h)
  refine Ensures.check (fun hmetadata => ?_) (fun _ h => .inl h)
  refine Ensures.bind (Ensures.get (Q := fun read left => left = tables ∧ read = tables)
    (fun _ h => ⟨h, h⟩)) (fun read => ?_)
  refine Ensures.given ?_
  rintro rfl
  cases hrow : read.nodes.row (task_id, node_id) with
  | none => exact Ensures.pure (fun _ hleft => .inl ⟨rfl, hleft⟩)
  | some row =>
    dsimp only
    split
    · next hpending =>
      have hstatus : read.node_status (task_id, node_id) = some .pending := by
        unfold BeeTables.node_status
        rw [hrow, ← hpending]
        rfl
      refine Ensures.bind ((written_node_ensures hrow .ready updated_at none none rfl
        hmetadata).breaks (fun _ h => ?_)) (fun node => ?_)
      · exact .inr ⟨⟨row, rfl, h.1⟩, hstatus, h.2⟩
      · refine Ensures.pure (fun left h => .inr ⟨node, rfl, h.1, h.2.1, hstatus, h.2.2⟩)
    · exact Ensures.pure (fun _ hleft => .inl ⟨rfl, hleft⟩)

def TaskWritten (tables : BeeTables) (task_id : String) (status : BeeTaskStatus)
    (left : BeeTables) : Prop :=
  ∃ row row', tables.tasks.row task_id = some row ∧ row'.status = status
    ∧ left = tables.put_task task_id row'

theorem update_task_ensures (host : BeeHost) (tables : BeeTables) (task_id : String) (status : BeeTaskStatus)
    (summary : Option String) (updated_at : Datetime) (metadata : JsonObject) :
    Ensures (· = tables) (host.update_task_status task_id status summary updated_at metadata)
      (fun _ left => TaskWritten tables task_id status left)
      (fun left => left = tables ∨ TaskWritten tables task_id status left) := by
  unfold BeeHost.update_task_status
  refine Ensures.check (fun _ => ?_) (fun _ h => .inl h)
  refine Ensures.check (fun _ => ?_) (fun _ h => .inl h)
  refine Ensures.check (fun _ => ?_) (fun _ h => .inl h)
  refine Ensures.bind (Ensures.get (Q := fun read left => left = tables ∧ read = tables)
    (fun _ h => ⟨h, h⟩)) (fun read => ?_)
  refine Ensures.given ?_
  rintro rfl
  cases hrow : read.tasks.row task_id with
  | none => exact Ensures.lift (fun _ h => by cases h) (fun _ _ _ hleft => .inl hleft)
  | some row =>
    dsimp only
    unfold BeeHost.written_task
    refine Ensures.bind (Ensures.modify (Q := fun _ left => TaskWritten read task_id status left)
      ?_) (fun _ => Ensures.lift (fun _ _ _ h => h) (fun _ _ _ h => .inr h))
    rintro _ rfl
    exact ⟨row, _, hrow, rfl, rfl⟩

theorem list_tasks_leaves (session_id topic_id : Option String) (status : Option BeeTaskStatus)
    (limit : Int) (tables : BeeTables) :
    (host.list_tasks session_id topic_id status limit tables).2 = tables := by
  have hkept : Preserves (· = tables) (host.list_tasks session_id topic_id status limit) :=
    lift.seq (fun _ => lift.seq (fun _ => lift.seq
      (fun _ => Preserves.get.seq (fun _ => lift))))
  exact Ensures.final hkept rfl

theorem list_nodes_leaves (task_id : String) (tables : BeeTables) :
    (host.list_nodes task_id tables).2 = tables := by
  have hkept : Preserves (· = tables) (host.list_nodes task_id) :=
    lift.seq (fun _ => Preserves.get.seq (fun _ => lift))
  exact Ensures.final hkept rfl

theorem load_task_leaves (task_id : String) (tables : BeeTables) :
    (host.load_task task_id tables).2 = tables := by
  have hkept : Preserves (· = tables) (host.load_task task_id) := by
    refine lift.seq (fun _ => Preserves.get.seq (fun read => ?_))
    cases read.tasks.row task_id with
    | none => exact Preserves.pure
    | some row => exact lift
  exact Ensures.final hkept rfl

theorem act_left (tables : BeeTables) (query : BeeQuery) :
    (host.act query tables).2 = tables
      ∨ (∃ task_id status, query.task_write = some (task_id, status)
          ∧ TaskWritten tables task_id status (host.act query tables).2)
      ∨ ∃ key status, query.node_write = some (key, status)
          ∧ (query.claims = some key → tables.node_status key = some .pending)
          ∧ NodeWritten host tables key status (host.act query tables).2 := by
  cases query with
  | list_tasks session_id topic_id status limit => exact .inl (list_tasks_leaves _ _ _ _ tables)
  | load_task task_id => exact .inl (load_task_leaves task_id tables)
  | list_nodes task_id => exact .inl (list_nodes_leaves task_id tables)
  | record_topic_anchor record => exact .inl rfl
  | update_task_status task_id status summary updated_at metadata =>
    have hleft := Ensures.final ((update_task_ensures host tables task_id status summary
      updated_at metadata).mono (fun _ h => h) (fun _ _ h => Or.inr h) (fun _ h => h)) rfl
    exact hleft.imp id (fun h => .inl ⟨task_id, status, rfl, h⟩)
  | update_node_status task_id node_id status run_id updated_at started_at finished_at metadata =>
    have hleft := Ensures.final ((update_node_ensures host tables task_id node_id status
      run_id updated_at started_at finished_at metadata).mono (fun _ h => h)
        (fun _ _ h => Or.inr h) (fun _ h => h)) rfl
    exact hleft.imp id (fun h => .inr ⟨_, status, rfl, (fun hclaims => by cases hclaims), h⟩)
  | claim_ready_node task_id node_id updated_at metadata =>
    have hleft := Ensures.final (I := fun left => left = tables
      ∨ tables.node_status (task_id, node_id) = some .pending
        ∧ NodeWritten host tables (task_id, node_id) .ready left)
      ((claim_ready_ensures host tables task_id node_id updated_at metadata).mono
        (fun _ h => h) (fun _ _ h => ?_) (fun _ h => ?_)) rfl
    · exact hleft.imp id (fun h => .inr ⟨_, .ready, rfl, fun _ => h.1, h.2⟩)
    · rcases h with ⟨-, hsame⟩ | ⟨node, -, -, -, hpending, hwritten⟩
      · exact .inl hsame
      · exact .inr ⟨hpending, hwritten⟩
    · rcases h with hsame | ⟨-, hpending, hwritten⟩
      · exact .inl hsame
      · exact .inr ⟨hpending, hwritten⟩

section Left

variable {tables left : BeeTables} {query : BeeQuery} {answer : query.Answer}

theorem answers_left (h : host.Answers tables query answer left) :
    left = tables
      ∨ (∃ task_id status, query.task_write = some (task_id, status)
          ∧ TaskWritten tables task_id status left)
      ∨ ∃ key status, query.node_write = some (key, status)
          ∧ (query.claims = some key → tables.node_status key = some .pending)
          ∧ NodeWritten host tables key status left := by
  cases h with
  | reached => exact act_left tables query
  | failed error => exact .inl rfl

theorem put_task_status (tables : BeeTables) (task_id other : String) (row : BeeTaskRow) :
    (tables.put_task task_id row).task_status other
      = if other = task_id then some row.status else tables.task_status other := by
  unfold BeeTables.task_status BeeTables.put_task
  rw [row_put]
  split
  · rfl
  · rfl

theorem put_node_status (tables : BeeTables) (key other : NodeKey) (row : BeeNodeRow) :
    (tables.put_node key row).node_status other
      = if other = key then some row.status else tables.node_status other := by
  unfold BeeTables.node_status BeeTables.put_node
  rw [row_put]
  split
  · rfl
  · rfl

/-- **The status of a task changes only by a call that writes it.** -/
theorem answers_task (h : host.Answers tables query answer left) (task_id : String) :
    left.task_status task_id = tables.task_status task_id
      ∨ ∃ status, query.task_write = some (task_id, status)
          ∧ tables.task_status task_id ≠ none ∧ left.task_status task_id = some status := by
  rcases answers_left h with rfl | ⟨other, status, hwrite, row, row', hrow, rfl, rfl⟩
    | ⟨key, status, -, -, row, row', -, -, -, -, rfl⟩
  · exact .inl rfl
  · rw [put_task_status]
    by_cases heq : task_id = other
    · subst heq
      rw [if_pos rfl]
      refine .inr ⟨_, hwrite, ?_, rfl⟩
      unfold BeeTables.task_status
      rw [hrow]
      exact Option.some_ne_none _
    · rw [if_neg heq]
      exact .inl rfl
  · exact .inl rfl

/-- **A node changes only by a call that writes it**, which leaves what it depends on. -/
theorem answers_node (h : host.Answers tables query answer left) (key : NodeKey) :
    left.nodes.row key = tables.nodes.row key
      ∨ ∃ row row', query.node_write = some (key, row'.status)
          ∧ tables.nodes.row key = some row ∧ left.nodes.row key = some row'
          ∧ row'.depends_on = row.depends_on ∧ (Valid host key row → Valid host key row')
          ∧ (query.claims = some key → row.status = .pending) := by
  rcases answers_left h with rfl | ⟨task_id, status, -, row, row', -, -, rfl⟩
    | ⟨other, status, hwrite, hpending, row, row', hrow, rfl, hdepends, hvalid, rfl⟩
  · exact .inl rfl
  · exact .inl rfl
  · unfold BeeTables.put_node
    rw [row_put]
    by_cases heq : key = other
    · subst heq
      rw [if_pos rfl]
      refine .inr ⟨row, row', hwrite, hrow, rfl, hdepends, hvalid, fun hclaims => ?_⟩
      have hstatus := hpending hclaims
      unfold BeeTables.node_status at hstatus
      rw [hrow] at hstatus
      exact Option.some.inj hstatus
    · rw [if_neg heq]
      exact .inl rfl

end Left

/-! ## What an answer tells -/

/-- The listed tasks are rows of the table, with the status they were listed for. -/
def TasksListed (host : BeeHost) (tables : BeeTables) (status : Option BeeTaskStatus)
    (tasks : List BeeTaskRecord) : Prop :=
  ∀ task ∈ tasks, tables.tasks.row task.task_id = some task.toBeeTaskRow
    ∧ status.all (· == task.status) = true ∧ task.post_init host.lower = .ok ()

structure NodesListed (host : BeeHost) (tables : BeeTables) (task_id : String)
    (nodes : List BeeNodeRecord) : Prop where
  rows : ∀ node ∈ nodes, node.task_id = task_id ∧ tables.nodes.row node.key = some node.toBeeNodeRow
    ∧ node.post_init host.lower = .ok ()
  every : ∀ node_id row, tables.nodes.row (task_id, node_id) = some row →
    ∃ node ∈ nodes, node.key = (task_id, node_id) ∧ node.toBeeNodeRow = row

/-- The claimed node was pending and is ready now. -/
structure NodeClaimed (host : BeeHost) (tables left : BeeTables) (key : NodeKey)
    (node : BeeNodeRecord) : Prop where
  named : node.key = key
  checked : node.post_init host.lower = .ok ()
  pending : tables.node_status key = some .pending
  ready : left.node_status key = some .ready

/-- What an answer tells of the rows before the call and of those it leaves. -/
def Tells (host : BeeHost) (tables left : BeeTables) : (query : BeeQuery) → query.Answer → Prop
  | .list_tasks _ _ status _, .ok tasks => TasksListed host tables status tasks
  | .list_nodes task_id, .ok nodes => NodesListed host tables task_id nodes
  | .claim_ready_node task_id node_id _ _, .ok (some node) =>
    NodeClaimed host tables left (task_id, node_id) node
  | .claim_ready_node _ _ _ _, .ok none => left = tables
  | .claim_ready_node task_id node_id _ _, .error _ => left = tables
      ∨ ∃ row, tables.nodes.row (task_id, node_id) = some row ∧ ¬ Valid host (task_id, node_id) row
  | .update_task_status task_id status _ _ _, .ok _ => left.task_status task_id = some status
  | .update_node_status task_id node_id status _ _ _ _ _, .ok _ =>
    left.node_status (task_id, node_id) = some status
  | _, _ => True

variable {tables left : BeeTables}

theorem TaskWritten.status {status : BeeTaskStatus} (h : TaskWritten tables task_id status left) :
    left.task_status task_id = some status := by
  obtain ⟨row, row', -, rfl, rfl⟩ := h
  rw [put_task_status, if_pos rfl]

theorem NodeWritten.status {status : BeeNodeStatus} (h : NodeWritten host tables key status left) :
    left.node_status key = some status := by
  obtain ⟨row, row', -, rfl, -, -, rfl⟩ := h
  rw [put_node_status, if_pos rfl]

theorem list_tasks_tells {tables : BeeTables} {session_id topic_id : Option String}
    {status : Option BeeTaskStatus} {limit : Int} {tasks : List BeeTaskRecord}
    (h : (host.list_tasks session_id topic_id status limit tables).1 = .ok tasks) :
    TasksListed host tables status tasks := by
  have hlisted : Ensures (· = tables) (host.list_tasks session_id topic_id status limit)
      (fun tasks _ => TasksListed host tables status tasks) (fun _ => True) := by
    unfold BeeHost.list_tasks
    refine Ensures.check (fun _ => ?_) (fun _ _ => trivial)
    refine Ensures.check (fun _ => ?_) (fun _ _ => trivial)
    refine Ensures.check (fun _ => ?_) (fun _ _ => trivial)
    refine Ensures.bind (Ensures.get (Q := fun read _ => read = tables) (fun _ h => h))
      (fun read => ?_)
    refine Ensures.lift (fun tasks htasks left hread task hmem => ?_) (fun _ _ _ _ => trivial)
    subst hread
    obtain ⟨row, hrow, hfrom⟩ := exists_of_mem_mapM htasks hmem
    have hrow := (List.mem_insertionSort _).mp (List.mem_of_mem_take hrow)
    obtain ⟨hlookup, hwhere⟩ := mem_select.mp hrow
    obtain ⟨rfl, hchecked⟩ := task_from_row_ok hfrom
    rw [Bool.and_eq_true] at hwhere
    exact ⟨hlookup, hwhere.2, hchecked⟩
  exact (hlisted tables rfl).1 tasks h

theorem list_nodes_tells {tables : BeeTables} {nodes : List BeeNodeRecord}
    (h : (host.list_nodes task_id tables).1 = .ok nodes) :
    NodesListed host tables task_id nodes := by
  have hlisted : Ensures (· = tables) (host.list_nodes task_id)
      (fun nodes _ => NodesListed host tables task_id nodes) (fun _ => True) := by
    unfold BeeHost.list_nodes
    refine Ensures.check (fun _ => ?_) (fun _ _ => trivial)
    refine Ensures.bind (Ensures.get (Q := fun read _ => read = tables) (fun _ h => h))
      (fun read => ?_)
    refine Ensures.lift (fun nodes hnodes left hread => ⟨fun node hmem => ?_, fun node_id row hrow => ?_⟩)
      (fun _ _ _ _ => trivial)
    · subst hread
      obtain ⟨row, hrow, hfrom⟩ := exists_of_mem_mapM hnodes hmem
      have hrow := (List.mem_insertionSort _).mp hrow
      obtain ⟨hlookup, hwhere⟩ := mem_select.mp hrow
      obtain ⟨rfl, hvalid⟩ := node_from_row_ok hfrom
      exact ⟨of_decide_eq_true hwhere, hlookup, hvalid⟩
    · subst hread
      have hselected : ((task_id, node_id), row) ∈
          read.nodes.select (fun key _ => key.1 = task_id) :=
        mem_select.mpr ⟨hrow, decide_eq_true rfl⟩
      obtain ⟨node, hmem, hfrom⟩ :=
        exists_result_of_mem hnodes ((List.mem_insertionSort _).mpr hselected)
      obtain ⟨rfl, -⟩ := node_from_row_ok hfrom
      exact ⟨_, hmem, rfl, rfl⟩
  exact (hlisted tables rfl).1 nodes h

/-- **Every answer tells the truth.** -/
theorem answers_tell {query : BeeQuery} {answer : query.Answer}
    (h : host.Answers tables query answer left) : Tells host tables left query answer := by
  cases h with
  | failed error =>
    cases query with
    | claim_ready_node task_id node_id updated_at metadata => exact .inl rfl
    | _ => exact trivial
  | reached =>
    cases query with
    | load_task task_id =>
      cases hresult : (host.act (.load_task task_id) tables).1 with
      | ok task => trivial
      | error error => trivial
    | record_topic_anchor record => trivial
    | list_tasks session_id topic_id status limit =>
      cases hresult : (host.act (.list_tasks session_id topic_id status limit) tables).1 with
      | ok tasks => exact list_tasks_tells hresult
      | error error => trivial
    | list_nodes task_id =>
      cases hresult : (host.act (.list_nodes task_id) tables).1 with
      | ok nodes => exact list_nodes_tells hresult
      | error error => trivial
    | update_task_status task_id status summary updated_at metadata =>
      cases hresult : (host.act (.update_task_status task_id status summary updated_at metadata)
          tables).1 with
      | ok task =>
        exact ((update_task_ensures host tables task_id status summary updated_at metadata
          tables rfl).1 task hresult).status
      | error error => trivial
    | update_node_status task_id node_id status run_id updated_at started_at finished_at metadata =>
      cases hresult : (host.act (.update_node_status task_id node_id status run_id updated_at
          started_at finished_at metadata) tables).1 with
      | ok node =>
        exact ((update_node_ensures host tables task_id node_id status run_id updated_at
          started_at finished_at metadata tables rfl).1 node hresult).status
      | error error => trivial
    | claim_ready_node task_id node_id updated_at metadata =>
      have hclaims := claim_ready_ensures host tables task_id node_id updated_at metadata tables rfl
      cases hresult : (host.act (.claim_ready_node task_id node_id updated_at metadata)
          tables).1 with
      | error error =>
        rcases hclaims.2 error hresult with hsame | ⟨hinvalid, -⟩
        · exact .inl hsame
        · exact .inr hinvalid
      | ok claimed =>
        rcases hclaims.1 claimed hresult with ⟨rfl, hsame⟩
          | ⟨node, rfl, hkey, hchecked, hpending, hwritten⟩
        · exact hsame
        · exact ⟨hkey, hchecked, hpending, hwritten.status⟩

end CodingAgentLoop.Bee
