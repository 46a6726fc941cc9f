/-
Schedules, proactive signals, triggers and launch intents (`coding_agent/runs/scheduled.py`).

Each record checks itself when it is built, and again when its row is read from the store. What
the planners build from a record that passed its checks passes them too: that is the second half
of this file.
-/
import CodingAgentLoop.Topics

namespace CodingAgentLoop

open Lib List Result

/-! ## Checks -/

def FORBIDDEN_BEE_LAUNCH_KEY_PARTS : List String :=
  ["api_key", "apikey", "args", "argv", "bearer", "cmd", "command", "commands", "command_output",
    "content", "credential", "credentials", "env", "environment", "exec", "executor", "message",
    "password", "prompt", "result", "script", "secret", "shell", "stderr", "stdout", "text",
    "token"]

namespace ScheduleCheck

open TopicCheck (require_metadata_key)

variable (casefold : String → String)

/-- `_reject_secret_shaped_value(field_name, value)`: here "sk-" counts at the beginning only. -/
def reject_secret_shaped_value (field_name value : String) : Except StoreError Unit :=
  raise_if ((SECRET_VALUE_MARKERS.filter (· ≠ "sk-")).any (has_part (casefold value))
      ∨ "sk-".toList <+: (casefold value).toList) .ValueError
    (field_name ++ " must not contain secret-shaped values")

def require_safe_label (field_name value : String) : Except StoreError Unit := do
  TopicCheck.require_non_empty field_name value
  raise_if (128 < value.length) .ValueError (field_name ++ " must be at most 128 characters")
  raise_if (FORBIDDEN_METADATA_KEY_PARTS.any (has_part (casefold value))) .ValueError
    (field_name ++ " must not contain sensitive label text")
  raise_if (FORBIDDEN_METADATA_KEY_PARTS.any (has_part (casefold field_name))) .ValueError
    (field_name ++ " must not be sensitive label text")
  reject_secret_shaped_value casefold field_name value

def require_optional_display_text (field_name : String) : Option String → Except StoreError Unit
  | none => .ok ()
  | some value => do
      TopicCheck.require_non_empty field_name value
      raise_if (256 < value.length) .ValueError (field_name ++ " must be at most 256 characters")
      reject_secret_shaped_value casefold field_name value

/-- `if value is not None: _require_non_empty(field_name, value)`. -/
def require_optional (field_name : String) : Option String → Except StoreError Unit
  | none => .ok ()
  | some value => TopicCheck.require_non_empty field_name value

mutual

def require_json_value (field_name : String) : Json → Except StoreError Unit
  | .null => .ok ()
  | .bool _ => .ok ()
  | .int _ => .ok ()
  | .float _ => .ok ()
  | .str value => do
      raise_if (256 < value.length) .ValueError (field_name ++ " must be at most 256 characters")
      reject_secret_shaped_value casefold field_name value
  | .arr items => require_json_items field_name 0 items
  | .obj fields => require_json_object field_name fields

/-- The loop over a list, from `index` on. -/
def require_json_items (field_name : String) (index : Nat) : List Json → Except StoreError Unit
  | [] => .ok ()
  | item :: rest => do
      require_json_value (field_name ++ "[" ++ toString index ++ "]") item
      require_json_items field_name (index + 1) rest

def require_json_object (field_name : String) :
    List (String × Json) → Except StoreError Unit
  | [] => .ok ()
  | (key, item) :: rest => do
      require_metadata_key casefold field_name key
      require_json_value (field_name ++ "." ++ key) item
      require_json_object field_name rest

end

def require_bee_launch_key (field_name key : String) : Except StoreError Unit :=
  raise_if (FORBIDDEN_BEE_LAUNCH_KEY_PARTS.any (has_part (casefold key))) .ValueError
    (field_name ++ " contains forbidden Bee launch metadata key: " ++ key)

mutual

/-- What `_require_bee_launch_metadata_object` does with an item. -/
def require_bee_launch_item (field_name : String) : Json → Except StoreError Unit
  | .obj fields => do
      require_json_object casefold field_name fields
      require_bee_launch_fields field_name fields
  | .arr items => require_bee_launch_items field_name 0 items
  | _ => .ok ()

/-- The loop over a list, which looks at the objects of the list only. -/
def require_bee_launch_items (field_name : String) (index : Nat) :
    List Json → Except StoreError Unit
  | [] => .ok ()
  | .obj fields :: rest => do
      require_json_object casefold (field_name ++ "[" ++ toString index ++ "]") fields
      require_bee_launch_fields (field_name ++ "[" ++ toString index ++ "]") fields
      require_bee_launch_items field_name (index + 1) rest
  | _ :: rest => require_bee_launch_items field_name (index + 1) rest

/-- The loop over the members of an object. -/
def require_bee_launch_fields (field_name : String) :
    List (String × Json) → Except StoreError Unit
  | [] => .ok ()
  | (key, item) :: rest => do
      require_bee_launch_key casefold field_name key
      require_bee_launch_item (field_name ++ "." ++ key) item
      require_bee_launch_fields field_name rest

end

def require_bee_launch_metadata_object (field_name : String) :
    Json → Except StoreError Unit
  | .obj fields => require_bee_launch_item casefold field_name (.obj fields)
  | _ => raise .TypeError (field_name ++ " must be a JSON object")

/-- `if "bee_launch" in metadata: ...` of a record. -/
def require_bee_launch (metadata : JsonObject) : Except StoreError Unit :=
  match metadata.find "bee_launch" with
  | none => .ok ()
  | some value => require_bee_launch_metadata_object casefold "metadata.bee_launch" value

/-- `_schedule_bee_launch_metadata` and `_signal_bee_launch_metadata`, of what `owner` names. -/
def bee_launch_metadata (owner : String) (metadata : JsonObject) : Except StoreError JsonObject :=
  match metadata.get "bee_launch" with
  | .null => .ok []
  | .obj fields => do
      require_bee_launch_metadata_object casefold (owner ++ ".metadata.bee_launch") (.obj fields)
      pure [("bee_launch", .obj fields)]
  | _ => raise .TypeError (owner ++ ".metadata.bee_launch must be an object")

end ScheduleCheck

/-! ## Records -/

inductive ScheduleStatus where
  | active
  | paused
  | disabled
  | completed
  deriving DecidableEq, Repr

inductive SignalStatus where
  | new
  | planned
  | ignored
  | consumed
  deriving DecidableEq, Repr

inductive TriggerStatus where
  | planned
  | launched
  | skipped
  | failed
  deriving DecidableEq, Repr

structure ScheduleRecord where
  schedule_id : String
  session_id : String
  kind : String
  status : ScheduleStatus
  cadence : String
  created_at : Datetime
  updated_at : Datetime
  topic_id : Option String := none
  owner : Option String := none
  title : Option String := none
  next_due_at : Option Datetime := none
  last_triggered_at : Option Datetime := none
  metadata : JsonObject := []
  deriving DecidableEq

structure ScheduleTriggerRecord where
  trigger_id : String
  schedule_id : String
  status : TriggerStatus
  due_at : Datetime
  planned_at : Datetime
  topic_id : Option String := none
  signal_id : Option String := none
  run_id : Option String := none
  reason : Option String := none
  metadata : JsonObject := []
  deriving DecidableEq

structure ProactiveSignalRecord where
  signal_id : String
  dedupe_key : String
  kind : String
  status : SignalStatus
  observed_at : Datetime
  summary : String
  session_id : Option String := none
  topic_id : Option String := none
  cooldown_until : Option Datetime := none
  metadata : JsonObject := []

structure ScheduledLaunchIntent where
  trigger_id : String
  schedule_id : String
  session_id : String
  topic_id : Option String
  reason : String
  due_at : Datetime
  planned_at : Datetime
  metadata : JsonObject := []

section PostInit

variable (casefold : String → String)

def ScheduleRecord.post_init (record : ScheduleRecord) : Except StoreError Unit := do
  TopicCheck.require_non_empty "schedule_id" record.schedule_id
  TopicCheck.require_non_empty "session_id" record.session_id
  ScheduleCheck.require_safe_label casefold "kind" record.kind
  ScheduleCheck.require_safe_label casefold "cadence" record.cadence
  ScheduleCheck.require_optional "topic_id" record.topic_id
  ScheduleCheck.require_optional_display_text casefold "owner" record.owner
  ScheduleCheck.require_optional_display_text casefold "title" record.title
  ScheduleCheck.require_json_object casefold "metadata" record.metadata
  ScheduleCheck.require_bee_launch casefold record.metadata

def ScheduleTriggerRecord.post_init (record : ScheduleTriggerRecord) : Except StoreError Unit := do
  TopicCheck.require_non_empty "trigger_id" record.trigger_id
  TopicCheck.require_non_empty "schedule_id" record.schedule_id
  ScheduleCheck.require_optional "topic_id" record.topic_id
  ScheduleCheck.require_optional "signal_id" record.signal_id
  ScheduleCheck.require_optional "run_id" record.run_id
  ScheduleCheck.require_optional_display_text casefold "reason" record.reason
  ScheduleCheck.require_json_object casefold "metadata" record.metadata

def ProactiveSignalRecord.post_init (record : ProactiveSignalRecord) : Except StoreError Unit := do
  TopicCheck.require_non_empty "signal_id" record.signal_id
  ScheduleCheck.require_safe_label casefold "dedupe_key" record.dedupe_key
  ScheduleCheck.require_safe_label casefold "kind" record.kind
  ScheduleCheck.require_optional_display_text casefold "summary" (some record.summary)
  ScheduleCheck.require_optional "session_id" record.session_id
  ScheduleCheck.require_optional "topic_id" record.topic_id
  ScheduleCheck.require_json_object casefold "metadata" record.metadata
  ScheduleCheck.require_bee_launch casefold record.metadata

def ScheduledLaunchIntent.post_init (intent : ScheduledLaunchIntent) : Except StoreError Unit := do
  TopicCheck.require_non_empty "trigger_id" intent.trigger_id
  TopicCheck.require_non_empty "schedule_id" intent.schedule_id
  TopicCheck.require_non_empty "session_id" intent.session_id
  ScheduleCheck.require_optional "topic_id" intent.topic_id
  ScheduleCheck.require_safe_label casefold "reason" intent.reason
  ScheduleCheck.require_json_object casefold "metadata" intent.metadata

end PostInit

/-! ## What passes the checks

The name of a field is in the text of an error only, so whether a value passes does not depend on
it. A label in lower-case ASCII is its own case folding. -/

def FoldsLabels (casefold : String → String) : Prop :=
  ∀ text : String, text.toList.all (fun c => c.isLower || c.isDigit || c == '_') = true →
    casefold text = text

namespace ScheduleCheck

open TopicCheck (require_metadata_key)

variable {casefold : String → String} {field_name other_name : String}

theorem metadata_key_named {key : String} :
    require_metadata_key casefold field_name key = .ok ()
      ↔ require_metadata_key casefold other_name key = .ok () := by
  unfold require_metadata_key
  rw [raise_if_eq_ok, raise_if_eq_ok]

theorem bee_launch_key_named {key : String} :
    require_bee_launch_key casefold field_name key = .ok ()
      ↔ require_bee_launch_key casefold other_name key = .ok () := by
  unfold require_bee_launch_key
  rw [raise_if_eq_ok, raise_if_eq_ok]

theorem secret_named {value : String} :
    reject_secret_shaped_value casefold field_name value = .ok ()
      ↔ reject_secret_shaped_value casefold other_name value = .ok () := by
  unfold reject_secret_shaped_value
  rw [raise_if_eq_ok, raise_if_eq_ok]

mutual

theorem json_value_named (field_name other_name : String) : ∀ value : Json,
    require_json_value casefold field_name value = .ok ()
      ↔ require_json_value casefold other_name value = .ok ()
  | .null => Iff.rfl
  | .bool _ => Iff.rfl
  | .int _ => Iff.rfl
  | .float _ => Iff.rfl
  | .str value => by
      unfold require_json_value
      rw [check_bind_eq_ok, check_bind_eq_ok, raise_if_eq_ok, raise_if_eq_ok,
        secret_named]
  | .arr items => by
      unfold require_json_value
      exact json_items_named field_name other_name 0 items
  | .obj fields => by
      unfold require_json_value
      exact json_object_named field_name other_name fields

theorem json_items_named (field_name other_name : String) (index : Nat) : ∀ items : List Json,
    require_json_items casefold field_name index items = .ok ()
      ↔ require_json_items casefold other_name index items = .ok ()
  | [] => Iff.rfl
  | item :: rest => by
      unfold require_json_items
      rw [check_bind_eq_ok, check_bind_eq_ok, json_items_named field_name other_name,
        json_value_named _ (other_name ++ "[" ++ toString index ++ "]") item]

theorem json_object_named (field_name other_name : String) : ∀ fields : List (String × Json),
    require_json_object casefold field_name fields = .ok ()
      ↔ require_json_object casefold other_name fields = .ok ()
  | [] => Iff.rfl
  | (key, item) :: rest => by
      unfold require_json_object
      simp only [check_bind_eq_ok]
      rw [json_object_named field_name other_name,
        json_value_named _ (other_name ++ "." ++ key) item, metadata_key_named]

end

mutual

theorem bee_launch_item_named (field_name other_name : String) : ∀ value : Json,
    require_bee_launch_item casefold field_name value = .ok ()
      ↔ require_bee_launch_item casefold other_name value = .ok ()
  | .null => Iff.rfl
  | .bool _ => Iff.rfl
  | .int _ => Iff.rfl
  | .float _ => Iff.rfl
  | .str _ => Iff.rfl
  | .arr items => by
      unfold require_bee_launch_item
      exact bee_launch_items_named field_name other_name 0 items
  | .obj fields => by
      unfold require_bee_launch_item
      rw [check_bind_eq_ok, check_bind_eq_ok,
        bee_launch_fields_named field_name other_name, json_object_named field_name other_name]

theorem bee_launch_items_named (field_name other_name : String) (index : Nat) :
    ∀ items : List Json, require_bee_launch_items casefold field_name index items = .ok ()
      ↔ require_bee_launch_items casefold other_name index items = .ok ()
  | [] => Iff.rfl
  | .obj fields :: rest => by
      unfold require_bee_launch_items
      simp only [check_bind_eq_ok]
      rw [bee_launch_items_named field_name other_name,
        bee_launch_fields_named _ (other_name ++ "[" ++ toString index ++ "]"),
        json_object_named _ (other_name ++ "[" ++ toString index ++ "]")]
  | .null :: rest => by
      unfold require_bee_launch_items
      exact bee_launch_items_named field_name other_name (index + 1) rest
  | .bool _ :: rest => by
      unfold require_bee_launch_items
      exact bee_launch_items_named field_name other_name (index + 1) rest
  | .int _ :: rest => by
      unfold require_bee_launch_items
      exact bee_launch_items_named field_name other_name (index + 1) rest
  | .float _ :: rest => by
      unfold require_bee_launch_items
      exact bee_launch_items_named field_name other_name (index + 1) rest
  | .str _ :: rest => by
      unfold require_bee_launch_items
      exact bee_launch_items_named field_name other_name (index + 1) rest
  | .arr _ :: rest => by
      unfold require_bee_launch_items
      exact bee_launch_items_named field_name other_name (index + 1) rest

theorem bee_launch_fields_named (field_name other_name : String) :
    ∀ fields : List (String × Json), require_bee_launch_fields casefold field_name fields = .ok ()
      ↔ require_bee_launch_fields casefold other_name fields = .ok ()
  | [] => Iff.rfl
  | (key, item) :: rest => by
      unfold require_bee_launch_fields
      simp only [check_bind_eq_ok]
      rw [bee_launch_fields_named field_name other_name,
        bee_launch_item_named _ (other_name ++ "." ++ key), bee_launch_key_named]

end

def Admissible (casefold : String → String) (field : String × Json) : Prop :=
  require_metadata_key casefold "" field.1 = .ok () ∧ require_json_value casefold "" field.2 = .ok ()

theorem json_object_ok {fields : JsonObject} :
    require_json_object casefold field_name fields = .ok ()
      ↔ ∀ field ∈ fields, Admissible casefold field := by
  induction fields with
  | nil =>
    unfold require_json_object
    simp
  | cons field rest ih =>
    obtain ⟨key, item⟩ := field
    unfold require_json_object
    rw [check_bind_eq_ok, check_bind_eq_ok, ih, forall_mem_cons,
      json_value_named _ ""]
    have hkey : require_metadata_key casefold field_name key = .ok ()
        ↔ require_metadata_key casefold "" key = .ok () := metadata_key_named
    rw [hkey]
    exact and_assoc.symm

theorem admissible_merge {left right : JsonObject}
    (hleft : ∀ field ∈ left, Admissible casefold field)
    (hright : ∀ field ∈ right, Admissible casefold field) :
    ∀ field ∈ left.merge right, Admissible casefold field := by
  intro field hmem
  rcases mem_append.mp hmem with hreplaced | hadded
  · obtain ⟨⟨key, item⟩, hold, rfl⟩ := mem_map.mp hreplaced
    have hkey := (hleft _ hold).1
    cases hfound : JsonObject.find right key with
    | none =>
      exact hleft _ hold
    | some value =>
      exact ⟨hkey, (hright _ (JsonObject.mem_of_find hfound)).2⟩
  · exact hright _ (mem_of_mem_filter hadded)

theorem bee_launch_metadata_ok {metadata : JsonObject}
    (hmetadata : ∀ field ∈ metadata, Admissible casefold field)
    (hlaunch : require_bee_launch casefold metadata = .ok ()) (owner : String) :
    ∃ fields, bee_launch_metadata casefold owner metadata = .ok fields
      ∧ ∀ field ∈ fields, Admissible casefold field := by
  unfold require_bee_launch at hlaunch
  unfold bee_launch_metadata JsonObject.get
  cases hfound : metadata.find "bee_launch" with
  | none => exact ⟨[], rfl, fun _ hmem => by cases hmem⟩
  | some value =>
    rw [hfound] at hlaunch
    cases value with
    | obj fields =>
      refine ⟨[("bee_launch", .obj fields)], ?_, ?_⟩
      · have hnamed : require_bee_launch_metadata_object casefold
            (owner ++ ".metadata.bee_launch") (.obj fields) = .ok () :=
          (bee_launch_item_named _ _ (.obj fields)).mp hlaunch
        show (require_bee_launch_metadata_object casefold (owner ++ ".metadata.bee_launch")
          (.obj fields) >>= fun _ => _) = _
        rw [hnamed]
        rfl
      · intro field hmem
        rw [mem_singleton.mp hmem]
        exact hmetadata _ (JsonObject.mem_of_find hfound)
    | _ => cases hlaunch

variable {text : String}

theorem label_value (hfolds : FoldsLabels casefold)
    (hlabel : text.toList.all (fun c => c.isLower || c.isDigit || c == '_') = true)
    (hlength : text.length ≤ 256)
    (hplain : ¬ ((SECRET_VALUE_MARKERS.filter (· ≠ "sk-")).any (has_part text)
      ∨ "sk-".toList <+: text.toList)) :
    require_json_value casefold field_name (.str text) = .ok () := by
  unfold require_json_value
  rw [check_bind_eq_ok, raise_if_eq_ok]
  refine ⟨Nat.not_lt.mpr hlength, ?_⟩
  unfold reject_secret_shaped_value
  rw [raise_if_eq_ok, hfolds text hlabel]
  exact hplain

theorem label_key (hfolds : FoldsLabels casefold)
    (hlabel : text.toList.all (fun c => c.isLower || c.isDigit || c == '_') = true)
    (hplain : ¬ FORBIDDEN_METADATA_KEY_PARTS.any (has_part text)) :
    require_metadata_key casefold field_name text = .ok () := by
  unfold require_metadata_key
  rw [raise_if_eq_ok, hfolds text hlabel]
  exact hplain

theorem label_admissible (hfolds : FoldsLabels casefold) {key text : String}
    (hlabels : ∀ label ∈ [key, text],
      label.toList.all (fun c => c.isLower || c.isDigit || c == '_') = true)
    (hlength : text.length ≤ 256)
    (hkey : ¬ FORBIDDEN_METADATA_KEY_PARTS.any (has_part key))
    (htext : ¬ ((SECRET_VALUE_MARKERS.filter (· ≠ "sk-")).any (has_part text)
      ∨ "sk-".toList <+: text.toList)) : Admissible casefold (key, .str text) :=
  ⟨label_key hfolds (hlabels key mem_cons_self) hkey,
    label_value hfolds (hlabels text (mem_cons_of_mem _ mem_cons_self)) hlength htext⟩

theorem label_safe (hfolds : FoldsLabels casefold) (hlabels : ∀ label ∈ [field_name, text],
      label.toList.all (fun c => c.isLower || c.isDigit || c == '_') = true)
    (hnonempty : is_blank text = false) (hlength : text.length ≤ 128)
    (hparts : ∀ label ∈ [field_name, text], ¬ FORBIDDEN_METADATA_KEY_PARTS.any (has_part label))
    (hplain : ¬ ((SECRET_VALUE_MARKERS.filter (· ≠ "sk-")).any (has_part text)
      ∨ "sk-".toList <+: text.toList)) :
    require_safe_label casefold field_name text = .ok () := by
  have htext : text ∈ [field_name, text] := mem_cons_of_mem _ mem_cons_self
  unfold require_safe_label TopicCheck.require_non_empty reject_secret_shaped_value
  simp only [check_bind_eq_ok]
  rw [raise_if_eq_ok, raise_if_eq_ok, raise_if_eq_ok, raise_if_eq_ok, raise_if_eq_ok,
    hfolds text (hlabels text htext), hfolds field_name (hlabels _ mem_cons_self)]
  refine ⟨?_, Nat.not_lt.mpr hlength, hparts text htext, hparts _ mem_cons_self, hplain⟩
  rw [hnonempty]
  exact Bool.false_ne_true

theorem safe_label_value {value : String}
    (h : require_safe_label casefold field_name value = .ok ()) :
    require_json_value casefold other_name (.str value) = .ok () := by
  unfold require_safe_label at h
  simp only [check_bind_eq_ok] at h
  obtain ⟨-, hlength, -, -, hsecret⟩ := h
  rw [raise_if_eq_ok] at hlength
  unfold require_json_value
  rw [check_bind_eq_ok, raise_if_eq_ok]
  exact ⟨by omega, secret_named.mp hsecret⟩

theorem kind_admissible (hfolds : FoldsLabels casefold) {key kind : String}
    (hlabel : key.toList.all (fun c => c.isLower || c.isDigit || c == '_') = true)
    (hkey : ¬ FORBIDDEN_METADATA_KEY_PARTS.any (has_part key))
    (hkind : require_safe_label casefold "kind" kind = .ok ()) :
    Admissible casefold (key, .str kind) :=
  ⟨label_key hfolds hlabel hkey, safe_label_value hkind⟩

theorem prefixed_non_empty {lead : String} (hlead : is_blank lead = false) (text : String) :
    TopicCheck.require_non_empty field_name (lead ++ text) = .ok () := by
  unfold TopicCheck.require_non_empty
  rw [raise_if_eq_ok]
  unfold is_blank at hlead ⊢
  rw [String.toList_append, all_append, hlead]
  exact Bool.false_ne_true

end ScheduleCheck

end CodingAgentLoop
