/-
Bee tasks, their nodes, and what is planned of them (`coding_agent/bee/runtime.py`).

A task is a record with a status, and its nodes depend on one another. Every record checks itself
when it is built, and again when its row is read. The checks are on texts alone: none may be blank
or overlong or look like a secret, and no key of the metadata may name something sensitive or
something that is executed. Texts are compared in lower case, which is a function the model is
given.
-/
import CodingAgentLoop.Topics

namespace CodingAgentLoop.Bee

open Lib Result

/-! ## Checks -/

def FORBIDDEN_KEY_PARTS : List String :=
  ["api_key", "apikey", "bearer", "command_output", "credential", "credentials", "content", "env",
    "environment", "key", "message", "password", "prompt", "result", "secret", "stderr", "stdout",
    "text", "token"]

def FORBIDDEN_EXECUTABLE_KEYS : List String :=
  ["args", "argv", "cmd", "command", "commands", "exec", "executor", "script", "shell"]

def ALLOWED_COMMAND_REFERENCE_KEYS : List String := ["command_ref", "command_reference"]

def SECRET_VALUE_MARKERS : List String :=
  ["-----begin ", "akia", "bearer ", "gho_", "ghp_", "github_pat_", "password=", "secret=", "sk-",
    "token="]

def strip (text : String) : String :=
  String.ofList ((text.toList.dropWhile Char.isWhitespace).reverse.dropWhile
    Char.isWhitespace).reverse

/-- `re.sub(r"(?<=[a-z0-9])(?=[A-Z])", "_", text)`. -/
def separate : List Char → List Char
  | [] => []
  | [c] => [c]
  | c :: d :: rest =>
    if (c.isLower || c.isDigit) && d.isUpper then c :: '_' :: separate (d :: rest)
    else c :: separate (d :: rest)

def key_contains_token (normalized_key forbidden : String) : Bool :=
  let key := normalized_key.toList
  let token := forbidden.toList
  key == token || (token ++ ['_']).isPrefixOf key || ('_' :: token).isSuffixOf key
    || key.tails.any ('_' :: token ++ ['_']).isPrefixOf

def require_non_empty (name value : String) : Except StoreError Unit :=
  raise_if (is_blank value) .ValueError (name ++ " must not be empty")

def require_optional_id (name : String) : Option String → Except StoreError Unit
  | none => .ok ()
  | some value => require_non_empty name value

section Lower

variable (lower : String → String)

def normalize_manifest_key (key : String) : String :=
  lower (String.ofList (separate ((strip key).toList.map (fun c => if c = '-' then '_' else c))))

def reject_forbidden_key (path key : String) : Except StoreError Unit :=
  if ALLOWED_COMMAND_REFERENCE_KEYS.contains (normalize_manifest_key lower key) then .ok ()
  else do
    raise_if (FORBIDDEN_KEY_PARTS.any (key_contains_token (normalize_manifest_key lower key)))
      .ValueError (path ++ "." ++ key ++ " uses forbidden sensitive field")
    raise_if (FORBIDDEN_EXECUTABLE_KEYS.any (key_contains_token (normalize_manifest_key lower key)))
      .ValueError (path ++ "." ++ key ++ " uses forbidden executable field")

def reject_secret_like_value (path value : String) : Except StoreError Unit :=
  raise_if (SECRET_VALUE_MARKERS.any (has_part (lower (strip value)))) .ValueError
    (path ++ " contains secret-like value")

mutual

def validate_safe_json (path : String) : Json → Except StoreError Unit
  | .null => .ok ()
  | .bool _ => .ok ()
  | .int _ => .ok ()
  | .float _ => .ok ()
  | .str value => do
      reject_secret_like_value lower path value
      raise_if (256 < value.length) .ValueError (path ++ " string exceeds maximum 256 chars")
  | .arr items => validate_safe_items path 0 items
  | .obj fields => require_safe_json_object path fields

/-- The loop over a list, from `index` on. -/
def validate_safe_items (path : String) (index : Nat) : List Json → Except StoreError Unit
  | [] => .ok ()
  | item :: rest => do
      validate_safe_json (path ++ "[" ++ toString index ++ "]") item
      validate_safe_items path (index + 1) rest

/-- `_require_safe_json_object(name, value)`, and the loop over the members of an object. -/
def require_safe_json_object (path : String) : List (String × Json) → Except StoreError Unit
  | [] => .ok ()
  | (key, item) :: rest => do
      reject_forbidden_key lower path key
      validate_safe_json (path ++ "." ++ key) item
      require_safe_json_object path rest

end

/-- A text that is not blank, at most `limit` long and not like a secret. -/
def require_text (limit : Nat) (name value : String) : Except StoreError Unit := do
  require_non_empty name value
  raise_if (limit < value.length) .ValueError
    (name ++ " exceeds maximum " ++ toString limit ++ " chars")
  reject_secret_like_value lower name value

def require_safe_label (name value : String) : Except StoreError Unit :=
  require_text lower 128 name value

def require_display_text (name value : String) : Except StoreError Unit :=
  require_text lower 256 name value

def require_optional_display_text (name : String) : Option String → Except StoreError Unit
  | none => .ok ()
  | some value => require_display_text lower name value

end Lower

/-! ## Records -/

inductive BeeTaskStatus where
  | pending
  | running
  | completed
  | failed
  | cancelled
  deriving DecidableEq, Repr

def BeeTaskStatus.value : BeeTaskStatus → String
  | pending => "pending"
  | running => "running"
  | completed => "completed"
  | failed => "failed"
  | cancelled => "cancelled"

inductive BeeNodeStatus where
  | pending
  | ready
  | running
  | completed
  | failed
  | skipped
  deriving DecidableEq, Repr

def BeeNodeStatus.value : BeeNodeStatus → String
  | pending => "pending"
  | ready => "ready"
  | running => "running"
  | completed => "completed"
  | failed => "failed"
  | skipped => "skipped"

/-- `bee_tasks`, beside the task's id. -/
structure BeeTaskRow where
  topic_id : String
  session_id : String
  kind : String
  profile : String
  status : BeeTaskStatus
  title : String
  created_at : Datetime
  updated_at : Datetime
  summary : Option String := none
  metadata : JsonObject := []

structure BeeTaskRecord extends BeeTaskRow where
  task_id : String

/-- `bee_task_nodes`, beside its key: the ids of the task and of the node. -/
structure BeeNodeRow where
  kind : String
  profile : String
  status : BeeNodeStatus
  title : String
  created_at : Datetime
  updated_at : Datetime
  depends_on : List String := []
  run_id : Option String := none
  started_at : Option Datetime := none
  finished_at : Option Datetime := none
  metadata : JsonObject := []

structure BeeNodeRecord extends BeeNodeRow where
  task_id : String
  node_id : String

abbrev NodeKey : Type := String × String

def BeeNodeRecord.key (node : BeeNodeRecord) : NodeKey := (node.task_id, node.node_id)

structure BeeNodeLaunchIntent where
  task_id : String
  node_id : String
  topic_id : String
  session_id : String
  task_kind : String
  task_profile : String
  node_kind : String
  node_profile : String
  reason : String
  planned_at : Datetime
  metadata : JsonObject := []

def BeeNodeLaunchIntent.key (intent : BeeNodeLaunchIntent) : NodeKey :=
  (intent.task_id, intent.node_id)

/-- The kinds and profiles of a task and of a node, as they stand in an intent's metadata. -/
def kinds (task : BeeTaskRecord) (node : BeeNodeRecord) : JsonObject :=
  [("task_kind", .str task.kind), ("task_profile", .str task.profile),
    ("node_kind", .str node.kind), ("node_profile", .str node.profile)]

/-- The intent of a node that was claimed. -/
def launch_intent (task : BeeTaskRecord) (node : BeeNodeRecord) (now : Datetime) :
    BeeNodeLaunchIntent where
  task_id := task.task_id
  node_id := node.node_id
  topic_id := task.topic_id
  session_id := task.session_id
  task_kind := task.kind
  task_profile := task.profile
  node_kind := node.kind
  node_profile := node.profile
  reason := "dependencies_ready"
  planned_at := now
  metadata := kinds task node

section PostInit

variable (lower : String → String)

def BeeTaskRecord.post_init (record : BeeTaskRecord) : Except StoreError Unit := do
  require_non_empty "task_id" record.task_id
  require_non_empty "topic_id" record.topic_id
  require_non_empty "session_id" record.session_id
  require_safe_label lower "kind" record.kind
  require_safe_label lower "profile" record.profile
  require_display_text lower "title" record.title
  require_optional_display_text lower "summary" record.summary
  require_safe_json_object lower "metadata" record.metadata

def BeeNodeRecord.post_init (record : BeeNodeRecord) : Except StoreError Unit := do
  require_non_empty "node_id" record.node_id
  require_non_empty "task_id" record.task_id
  require_safe_label lower "kind" record.kind
  require_safe_label lower "profile" record.profile
  require_display_text lower "title" record.title
  check_each record.depends_on (require_non_empty "depends_on")
  raise_if (record.depends_on.contains record.node_id) .ValueError
    ("Bee node cannot depend on itself: " ++ record.node_id)
  require_optional_id "run_id" record.run_id
  require_safe_json_object lower "metadata" record.metadata

def BeeNodeLaunchIntent.post_init (intent : BeeNodeLaunchIntent) : Except StoreError Unit := do
  require_non_empty "task_id" intent.task_id
  require_non_empty "node_id" intent.node_id
  require_non_empty "topic_id" intent.topic_id
  require_non_empty "session_id" intent.session_id
  require_safe_label lower "task_kind" intent.task_kind
  require_safe_label lower "task_profile" intent.task_profile
  require_safe_label lower "node_kind" intent.node_kind
  require_safe_label lower "node_profile" intent.node_profile
  require_safe_label lower "reason" intent.reason
  require_safe_json_object lower "metadata" intent.metadata

end PostInit

/-! ## What passes the checks

The name of a field is in the text of an error only. -/

/-- The documented lower case of texts that are in lower-case ASCII already. -/
def KeepsLabels (lower : String → String) : Prop :=
  ∀ text : String, text.toList.all (fun c => c.isLower || c.isDigit || c == '_') = true →
    lower text = text

section Checked

variable {lower : String → String}

variable {value : String}

theorem non_empty_named (name other_name : String) :
    require_non_empty name value = .ok () ↔ require_non_empty other_name value = .ok () := by
  unfold require_non_empty
  rw [raise_if_eq_ok, raise_if_eq_ok]

theorem secret_named (name other_name : String) :
    reject_secret_like_value lower name value = .ok ()
      ↔ reject_secret_like_value lower other_name value = .ok () := by
  unfold reject_secret_like_value
  rw [raise_if_eq_ok, raise_if_eq_ok]

theorem text_ok {limit : Nat} {name value : String} :
    require_text lower limit name value = .ok ()
      ↔ require_non_empty "" value = .ok () ∧ value.length ≤ limit
        ∧ reject_secret_like_value lower "" value = .ok () := by
  unfold require_text
  rw [check_bind_eq_ok, check_bind_eq_ok, raise_if_eq_ok, non_empty_named name "",
    secret_named name "", Nat.not_lt]

theorem safe_label_named (name other_name : String) :
    require_safe_label lower name value = .ok ()
      ↔ require_safe_label lower other_name value = .ok () := by
  unfold require_safe_label
  rw [text_ok, text_ok]

theorem safe_label_value {name other_name value : String}
    (h : require_safe_label lower name value = .ok ()) :
    validate_safe_json lower other_name (.str value) = .ok () := by
  unfold require_safe_label at h
  rw [text_ok] at h
  obtain ⟨-, hlength, hsecret⟩ := h
  unfold validate_safe_json
  rw [check_bind_eq_ok, raise_if_eq_ok, secret_named other_name ""]
  exact ⟨hsecret, by omega⟩

theorem normal_key (hlower : KeepsLabels lower) {key : String}
    (hlabel : key.toList.all (fun c => c.isLower || c.isDigit || c == '_') = true)
    (hplain : String.ofList (separate ((strip key).toList.map (fun c => if c = '-' then '_' else c)))
      = key) : normalize_manifest_key lower key = key := by
  unfold normalize_manifest_key
  rw [hplain]
  exact hlower key hlabel

theorem key_ok (hlower : KeepsLabels lower) {path key : String}
    (hlabel : key.toList.all (fun c => c.isLower || c.isDigit || c == '_') = true)
    (hplain : String.ofList (separate ((strip key).toList.map (fun c => if c = '-' then '_' else c)))
      = key)
    (hfree : (FORBIDDEN_KEY_PARTS ++ FORBIDDEN_EXECUTABLE_KEYS).any (key_contains_token key) = false) :
    reject_forbidden_key lower path key = .ok () := by
  unfold reject_forbidden_key
  rw [normal_key hlower hlabel hplain]
  rw [List.any_append, Bool.or_eq_false_iff] at hfree
  split
  · rfl
  · rw [check_bind_eq_ok, raise_if_eq_ok, raise_if_eq_ok, hfree.1, hfree.2]
    exact ⟨Bool.false_ne_true, Bool.false_ne_true⟩

theorem kinds_ok (hlower : KeepsLabels lower) {task : BeeTaskRecord} {node : BeeNodeRecord}
    (htask : task.post_init lower = .ok ()) (hnode : node.post_init lower = .ok ()) :
    require_safe_json_object lower "metadata" (kinds task node) = .ok () := by
  unfold BeeTaskRecord.post_init at htask
  unfold BeeNodeRecord.post_init at hnode
  simp only [check_bind_eq_ok] at htask hnode
  obtain ⟨-, -, -, htask_kind, htask_profile, -⟩ := htask
  obtain ⟨-, -, hnode_kind, hnode_profile, -⟩ := hnode
  unfold kinds
  simp only [require_safe_json_object, check_bind_eq_ok]
  refine ⟨key_ok hlower (by decide) (by decide) (by decide), safe_label_value htask_kind,
    key_ok hlower (by decide) (by decide) (by decide), safe_label_value htask_profile,
    key_ok hlower (by decide) (by decide) (by decide), safe_label_value hnode_kind,
    key_ok hlower (by decide) (by decide) (by decide), safe_label_value hnode_profile, trivial⟩

/-- **The intent of a task and a node that passed their checks passes its own.** -/
theorem launch_intent_ok (hlower : KeepsLabels lower) {task : BeeTaskRecord} {node : BeeNodeRecord}
    (htask : task.post_init lower = .ok ()) (hnode : node.post_init lower = .ok ())
    (now : Datetime) : (launch_intent task node now).post_init lower = .ok () := by
  have hkinds := kinds_ok hlower htask hnode
  unfold BeeTaskRecord.post_init at htask
  unfold BeeNodeRecord.post_init at hnode
  simp only [check_bind_eq_ok] at htask hnode
  obtain ⟨htask_id, htopic, hsession, htask_kind, htask_profile, -⟩ := htask
  obtain ⟨hnode_id, -, hnode_kind, hnode_profile, -⟩ := hnode
  have hreason : require_safe_label lower "reason" "dependencies_ready" = .ok () := by
    unfold require_safe_label
    rw [text_ok]
    refine ⟨rfl, by decide, ?_⟩
    unfold reject_secret_like_value
    have hstrip : strip "dependencies_ready" = "dependencies_ready" := by decide
    rw [raise_if_eq_ok, hstrip, hlower _ (by decide)]
    decide
  unfold BeeNodeLaunchIntent.post_init launch_intent
  simp only [check_bind_eq_ok]
  exact ⟨htask_id, hnode_id, htopic, hsession, (safe_label_named "kind" _).mp htask_kind,
    (safe_label_named "profile" _).mp htask_profile, (safe_label_named "kind" _).mp hnode_kind,
    (safe_label_named "profile" _).mp hnode_profile, hreason, hkinds⟩

end Checked

end CodingAgentLoop.Bee
