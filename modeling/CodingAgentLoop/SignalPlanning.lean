/-
Which passes over the new signals lose none.

A pass returns its intents at its end, so what stops it at one signal loses the intents of those
before it, and keeps those after it from being planned. What can stop it is a call of the store
that fails, and a signal that names no session; a signal whose record passed its checks does not.
-/
import CodingAgentLoop.SignalPlanner

namespace CodingAgentLoop

open Lib ScheduleCheck Action List Result

namespace SignalPlanner

variable {planner : SignalPlanner} {pass : SignalPass} {signal : ProactiveSignalRecord}
  {store : SignalStore}

/-! ## What becomes of a signal -/

def ignored_row (signal : ProactiveSignalRecord) : ProactiveSignalRecord :=
  { signal with
    status := .ignored
    metadata := signal.metadata.merge [("skip_reason", .str "cooldown")] }

section

variable (planner : SignalPlanner)

def planned_row (pass : SignalPass) (signal : ProactiveSignalRecord) : ProactiveSignalRecord :=
  { signal with
    status := .planned
    cooldown_until := some (pass.now + planner.cooldown)
    metadata := signal.metadata.merge [("planned_reason", .str "proactive_signal")] }

def launch_fields (row : ProactiveSignalRecord) : JsonObject :=
  match bee_launch_metadata planner.casefold "signal" row.metadata with
  | .ok fields => fields
  | .error _ => []

def signal_trigger (pass : SignalPass) (signal : ProactiveSignalRecord) : ScheduleTriggerRecord :=
  trigger_of pass (planned_row planner pass signal)
    (planner.launch_fields (planned_row planner pass signal))

/-- The intent a signal gets, if it is not in its cooldown. -/
def signal_intent (pass : SignalPass) (signal : ProactiveSignalRecord) :
    Option ScheduledLaunchIntent :=
  if cooling pass signal then none
  else signal.session_id.map (fun session_id =>
    intent_of (planned_row planner pass signal) (signal_trigger planner pass signal) session_id
      (planner.launch_fields (planned_row planner pass signal)))

def handle (pass : SignalPass) (store : SignalStore)
    (signal : ProactiveSignalRecord) : SignalStore :=
  if cooling pass signal then store.put_signal signal.signal_id (ignored_row signal)
  else (store.put_signal signal.signal_id (planned_row planner pass signal)).put_trigger
    (signal_trigger planner pass signal)

end

/-- The pass stops at the signal before it writes anything about it. -/
def StopsEarly (pass : SignalPass) (signal : ProactiveSignalRecord) : Prop :=
  (cooling pass signal = false ∧ signal.session_id = none)
    ∨ (pass.fails (.update_signal_status signal.signal_id)).isSome

def Stops (pass : SignalPass) (signal : ProactiveSignalRecord) : Prop :=
  StopsEarly pass signal ∨ (cooling pass signal = false
    ∧ (pass.fails (.record_trigger (signal_trigger_id signal.signal_id))).isSome)

instance (pass : SignalPass) (signal : ProactiveSignalRecord) :
    Decidable (StopsEarly pass signal) := by
  unfold StopsEarly
  infer_instance

instance (pass : SignalPass) (signal : ProactiveSignalRecord) : Decidable (Stops pass signal) := by
  unfold Stops
  infer_instance

/-! ## What the checks say of it -/

def Checked (planner : SignalPlanner) (signal : ProactiveSignalRecord) : Prop :=
  signal.post_init planner.casefold = .ok ()

theorem checked_iff : planner.Checked signal ↔
    TopicCheck.require_non_empty "signal_id" signal.signal_id = .ok ()
      ∧ require_safe_label planner.casefold "dedupe_key" signal.dedupe_key = .ok ()
      ∧ require_safe_label planner.casefold "kind" signal.kind = .ok ()
      ∧ require_optional_display_text planner.casefold "summary"
          (some signal.summary) = .ok ()
      ∧ require_optional "session_id" signal.session_id = .ok ()
      ∧ require_optional "topic_id" signal.topic_id = .ok ()
      ∧ (∀ field ∈ signal.metadata, Admissible planner.casefold field)
      ∧ require_bee_launch planner.casefold signal.metadata = .ok () := by
  unfold Checked ProactiveSignalRecord.post_init
  simp only [check_bind_eq_ok]
  rw [json_object_ok]

variable {metadata : JsonObject}

theorem bee_launch_merge {key text : String} (hkey : key ≠ "bee_launch") :
    require_bee_launch planner.casefold (metadata.merge [(key, .str text)])
      = require_bee_launch planner.casefold metadata := by
  unfold require_bee_launch
  rw [JsonObject.find_merge, JsonObject.find_cons, if_neg (fun h => hkey h.symm),
    JsonObject.find_nil, Option.none_or]

theorem Checked.labelled (h : planner.Checked signal)
    {key text : String} (hkey : key ≠ "bee_launch")
    (hlabel : Admissible planner.casefold (key, .str text)) (status : SignalStatus)
    (cooldown_until : Option Datetime) :
    planner.Checked { signal with
      status, cooldown_until, metadata := signal.metadata.merge [(key, .str text)] } := by
  rw [checked_iff] at h ⊢
  obtain ⟨hid, hdedupe, hkind, hsummary, hsession, htopic, hmetadata, hlaunch⟩ := h
  refine ⟨hid, hdedupe, hkind, hsummary, hsession, htopic, ?_, ?_⟩
  · refine admissible_merge hmetadata (fun field hmem => ?_)
    rw [mem_singleton.mp hmem]
    exact hlabel
  · rw [bee_launch_merge hkey]
    exact hlaunch

theorem skip_label (hfolds : FoldsLabels planner.casefold) :
    Admissible planner.casefold ("skip_reason", .str "cooldown") :=
  label_admissible hfolds (by decide) (by decide) (by decide) (by decide)

theorem planned_label (hfolds : FoldsLabels planner.casefold) :
    Admissible planner.casefold ("planned_reason", .str "proactive_signal") :=
  label_admissible hfolds (by decide) (by decide) (by decide) (by decide)

theorem Checked.ignored (hfolds : FoldsLabels planner.casefold) (h : planner.Checked signal) :
    planner.Checked (ignored_row signal) :=
  h.labelled (by decide) (skip_label hfolds) .ignored signal.cooldown_until

theorem Checked.planned (pass : SignalPass) (hfolds : FoldsLabels planner.casefold)
    (h : planner.Checked signal) :
    planner.Checked (planned_row planner pass signal) :=
  h.labelled (by decide) (planned_label hfolds) .planned
    (some (pass.now + planner.cooldown))

theorem Checked.launch_fields (h : planner.Checked signal) :
    bee_launch_metadata planner.casefold "signal" signal.metadata
        = .ok (planner.launch_fields signal)
      ∧ ∀ field ∈ planner.launch_fields signal, Admissible planner.casefold field := by
  obtain ⟨-, -, -, -, -, -, hmetadata, hlaunch⟩ := checked_iff.mp h
  obtain ⟨fields, hfields, hadmissible⟩ :=
    bee_launch_metadata_ok hmetadata hlaunch "signal"
  have heq : planner.launch_fields signal = fields := by
    unfold SignalPlanner.launch_fields
    rw [hfields]
  rw [heq]
  exact ⟨hfields, hadmissible⟩

theorem Checked.trigger (pass : SignalPass) (hfolds : FoldsLabels planner.casefold)
    (h : planner.Checked signal) :
    (trigger_of pass signal (planner.launch_fields signal)).post_init planner.casefold = .ok () := by
  obtain ⟨hid, -, hkind, -, -, htopic, -, -⟩ := checked_iff.mp h
  unfold ScheduleTriggerRecord.post_init trigger_of
  simp only [check_bind_eq_ok]
  rw [json_object_ok]
  refine ⟨prefixed_non_empty (by decide) _,
    prefixed_non_empty (by decide) _, htopic, hid, rfl, ?_, ?_⟩
  · unfold require_optional_display_text
    rw [check_bind_eq_ok]
    have hreason : require_json_value planner.casefold "reason"
        (.str "proactive_signal") = .ok () :=
      label_value hfolds (by decide) (by decide) (by decide)
    unfold require_json_value at hreason
    exact ⟨rfl, hreason⟩
  · refine admissible_merge (fun field hmem => ?_) h.launch_fields.2
    rcases mem_cons.mp hmem with rfl | hmem
    · exact label_admissible hfolds (by decide) (by decide) (by decide) (by decide)
    · rw [mem_singleton.mp hmem]
      exact kind_admissible hfolds (by decide) (by decide) hkind

theorem Checked.intent (pass : SignalPass) (hfolds : FoldsLabels planner.casefold)
    (h : planner.Checked signal) {session_id : String} (hsession : signal.session_id = some session_id) :
    (intent_of signal (trigger_of pass signal (planner.launch_fields signal)) session_id
      (planner.launch_fields signal)).post_init planner.casefold = .ok () := by
  obtain ⟨-, -, hkind, -, hnamed, htopic, -, -⟩ := checked_iff.mp h
  rw [hsession] at hnamed
  unfold ScheduledLaunchIntent.post_init intent_of
  simp only [check_bind_eq_ok]
  rw [json_object_ok]
  refine ⟨prefixed_non_empty (by decide) _,
    prefixed_non_empty (by decide) _, hnamed, htopic, ?_, ?_⟩
  · have hreason : require_safe_label planner.casefold "reason" "proactive_signal"
        = .ok () :=
      label_safe hfolds (by decide) (by decide) (by decide) (by decide) (by decide)
    exact hreason
  · refine admissible_merge (fun field hmem => ?_) h.launch_fields.2
    rw [mem_singleton.mp hmem]
    exact kind_admissible hfolds (by decide) (by decide) hkind

/-! ## One signal -/

theorem reach_ok {call : SignalCall} (h : pass.fails call = none) :
    pass.reach call store = (.ok (), store) := by
  unfold SignalPass.reach
  rw [h]
  rfl

theorem reach_error (store : SignalStore) {call : SignalCall} (h : (pass.fails call).isSome) :
    ∃ error, pass.reach call store = (.error error, store) := by
  obtain ⟨error, herror⟩ := Option.isSome_iff_exists.mp h
  refine ⟨error, ?_⟩
  unfold SignalPass.reach
  rw [herror]
  rfl

theorem lift_ok {α : Type} {result : Except StoreError α} {value : α} (h : result = .ok value) :
    (lift result : SignalAction α) store = (.ok value, store) := by
  rw [h]
  rfl

theorem update_ok {row : ProactiveSignalRecord} (updated : ProactiveSignalRecord)
    {status : SignalStatus} {cooldown_until : Option Datetime}
    (hrow : store.signals.row signal.signal_id = some row)
    (hupdated : updated = { row with status, cooldown_until, metadata })
    (hid : TopicCheck.require_non_empty "signal_id" signal.signal_id = .ok ())
    (hchecked : planner.Checked updated)
    (hreach : pass.fails (.update_signal_status signal.signal_id) = none) :
    planner.update_signal_status pass signal.signal_id status cooldown_until metadata store
      = (.ok updated, store.put_signal signal.signal_id updated) := by
  subst hupdated
  have hmetadata : require_json_object planner.casefold "metadata" metadata
      = .ok () := json_object_ok.mpr (checked_iff.mp hchecked).2.2.2.2.2.2.1
  have hread : planner.signal_from_row { row with status, cooldown_until, metadata }
      = .ok { row with status, cooldown_until, metadata } := by
    unfold signal_from_row
    rw [hchecked]
    rfl
  have hget : (Action.get : SignalAction SignalStore) store = (.ok store, store) := rfl
  unfold update_signal_status
  rw [bind_ok (lift_ok hid), bind_ok (lift_ok hmetadata),
    bind_ok (reach_ok hreach), bind_ok hget, hrow]
  dsimp only
  have hmodify : (Action.modify (fun store : SignalStore => store.put_signal signal.signal_id
      { row with status, cooldown_until, metadata }) : SignalAction Unit) store = (.ok (), _) := rfl
  rw [bind_ok hmodify]
  exact lift_ok hread

theorem update_error (store : SignalStore) (status : SignalStatus)
    (cooldown_until : Option Datetime)
    (hid : TopicCheck.require_non_empty "signal_id" signal.signal_id = .ok ())
    (hmetadata : ∀ field ∈ metadata, Admissible planner.casefold field)
    (hfails : (pass.fails (.update_signal_status signal.signal_id)).isSome) :
    ∃ error, planner.update_signal_status pass signal.signal_id status cooldown_until metadata store
      = (.error error, store) := by
  obtain ⟨error, herror⟩ := reach_error store hfails
  refine ⟨error, ?_⟩
  unfold update_signal_status
  rw [bind_ok (lift_ok hid),
    bind_ok (lift_ok (json_object_ok.mpr hmetadata)), bind_error herror]

theorem record_ok {record : ScheduleTriggerRecord} (store : SignalStore)
    (hchecked : record.post_init planner.casefold = .ok ())
    (hreach : pass.fails (.record_trigger record.trigger_id) = none) :
    planner.record_trigger pass record store = (.ok record, store.put_trigger record) := by
  have hmodify : (Action.modify (fun store : SignalStore => store.put_trigger record)
      : SignalAction Unit) store = (.ok (), store.put_trigger record) := rfl
  unfold record_trigger
  rw [bind_ok (reach_ok hreach), bind_ok hmodify, bind_ok (lift_ok hchecked)]
  rfl

theorem launch_ok (store : SignalStore) (hfolds : FoldsLabels planner.casefold) {session_id : String}
    (hchecked : planner.Checked signal) (hsession : signal.session_id = some session_id)
    (hreach : pass.fails (.record_trigger (signal_trigger_id signal.signal_id)) = none) :
    planner.launch_signal pass signal session_id store
      = (.ok (intent_of signal (trigger_of pass signal (planner.launch_fields signal)) session_id
            (planner.launch_fields signal)),
          store.put_trigger (trigger_of pass signal (planner.launch_fields signal))) := by
  have htrigger := hchecked.trigger pass hfolds
  obtain ⟨hlaunch, -⟩ := hchecked.launch_fields
  unfold launch_signal
  rw [bind_ok (lift_ok hlaunch), bind_ok (lift_ok htrigger),
    bind_ok (record_ok store htrigger hreach), bind_ok (lift_ok hlaunch),
    bind_ok (lift_ok (hchecked.intent pass hfolds hsession))]
  rfl

theorem launch_error (store : SignalStore) (hfolds : FoldsLabels planner.casefold)
    (session_id : String) (hchecked : planner.Checked signal)
    (hfails : (pass.fails (.record_trigger (signal_trigger_id signal.signal_id))).isSome) :
    ∃ error, planner.launch_signal pass signal session_id store = (.error error, store) := by
  obtain ⟨hlaunch, -⟩ := hchecked.launch_fields
  obtain ⟨error, herror⟩ := reach_error store hfails
  have hreached : pass.reach (.record_trigger (trigger_of pass signal
      (planner.launch_fields signal)).trigger_id) store = (.error error, store) := herror
  refine ⟨error, ?_⟩
  unfold launch_signal record_trigger
  rw [bind_ok (lift_ok hlaunch), bind_ok (lift_ok (hchecked.trigger pass hfolds)),
    bind_error (bind_error hreached)]

/-- A row as the pass lists it. -/
structure Listed (planner : SignalPlanner) (store : SignalStore) (signal : ProactiveSignalRecord) :
    Prop where
  row : store.signals.row signal.signal_id = some signal
  checked : planner.Checked signal

section

variable (hfolds : FoldsLabels planner.casefold) (hlisted : Listed planner store signal)

include hfolds hlisted

theorem plan_signal_ok (h : ¬ Stops pass signal) :
    planner.plan_signal pass signal store
      = (.ok (planner.signal_intent pass signal), planner.handle pass store signal) := by
  have hid := (checked_iff.mp hlisted.checked).1
  unfold Stops StopsEarly at h
  push Not at h
  obtain ⟨⟨hsession, hupdate⟩, htrigger⟩ := h
  have hupdate : pass.fails (.update_signal_status signal.signal_id) = none := by
    simpa using hupdate
  unfold plan_signal signal_intent handle
  cases hcooling : cooling pass signal with
  | true =>
    have hwritten := update_ok (ignored_row signal) hlisted.row rfl hid
      (hlisted.checked.ignored hfolds) hupdate
    rw [if_pos rfl, if_pos rfl, if_pos rfl, bind_ok hwritten]
    rfl
  | false =>
    obtain ⟨session_id, hnamed⟩ := Option.ne_none_iff_exists'.mp (hsession hcooling)
    have hrequired : required_signal_session signal = .ok session_id := by
      unfold required_signal_session
      rw [hnamed]
    have hplanned := hlisted.checked.planned pass hfolds
    have hwritten := update_ok (planned_row planner pass signal) hlisted.row rfl hid
      hplanned hupdate
    have hreach : pass.fails (.record_trigger (signal_trigger_id signal.signal_id)) = none := by
      simpa using htrigger hcooling
    have hlaunched := launch_ok
      (store.put_signal signal.signal_id (planned_row planner pass signal)) hfolds hplanned hnamed
      hreach
    rw [if_neg Bool.false_ne_true, if_neg Bool.false_ne_true, if_neg Bool.false_ne_true,
      bind_ok (lift_ok hrequired), bind_ok hwritten, bind_ok hlaunched, hnamed]
    rfl

theorem plan_signal_early (h : StopsEarly pass signal) :
    ∃ error, planner.plan_signal pass signal store = (.error error, store) := by
  obtain ⟨hid, -, -, -, -, -, hmetadata, -⟩ := checked_iff.mp hlisted.checked
  unfold plan_signal
  cases hcooling : cooling pass signal with
  | true =>
    have hfails : (pass.fails (.update_signal_status signal.signal_id)).isSome :=
      h.resolve_left (fun hearly => by rw [hcooling] at hearly; cases hearly.1)
    have hlabelled : ∀ field ∈ signal.metadata.merge [("skip_reason", .str "cooldown")],
        Admissible planner.casefold field := by
      refine admissible_merge hmetadata (fun field hmem => ?_)
      rw [mem_singleton.mp hmem]
      exact skip_label hfolds
    obtain ⟨error, herror⟩ := update_error store .ignored signal.cooldown_until hid
      hlabelled hfails
    rw [if_pos rfl]
    exact ⟨error, bind_error herror⟩
  | false =>
    rw [if_neg Bool.false_ne_true]
    unfold required_signal_session
    cases hsession : signal.session_id with
    | none => exact ⟨_, rfl⟩
    | some session_id =>
      have hfails : (pass.fails (.update_signal_status signal.signal_id)).isSome :=
        h.resolve_left (fun hearly => by rw [hsession] at hearly; cases hearly.2)
      have hlabelled : ∀ field ∈ signal.metadata.merge
          [("planned_reason", .str "proactive_signal")],
          Admissible planner.casefold field := by
        refine admissible_merge hmetadata (fun field hmem => ?_)
        rw [mem_singleton.mp hmem]
        exact planned_label hfolds
      obtain ⟨error, herror⟩ := update_error store .planned
        (some (pass.now + planner.cooldown)) hid hlabelled hfails
      refine ⟨error, ?_⟩
      rw [bind_ok (lift_ok rfl), bind_error herror]

theorem plan_signal_late (h : Stops pass signal) (hlate : ¬ StopsEarly pass signal) :
    ∃ error, planner.plan_signal pass signal store
      = (.error error, store.put_signal signal.signal_id (planned_row planner pass signal)) := by
  obtain ⟨hcooling, htrigger⟩ := h.resolve_left hlate
  unfold StopsEarly at hlate
  push Not at hlate
  obtain ⟨hsession, hupdate⟩ := hlate
  have hupdate : pass.fails (.update_signal_status signal.signal_id) = none := by
    simpa using hupdate
  obtain ⟨session_id, hnamed⟩ := Option.ne_none_iff_exists'.mp (hsession hcooling)
  have hrequired : required_signal_session signal = .ok session_id := by
    unfold required_signal_session
    rw [hnamed]
  have hplanned := hlisted.checked.planned pass hfolds
  have hwritten := update_ok (planned_row planner pass signal) hlisted.row rfl
    (checked_iff.mp hlisted.checked).1 hplanned hupdate
  obtain ⟨error, herror⟩ := launch_error
    (store.put_signal signal.signal_id (planned_row planner pass signal)) hfolds session_id hplanned
    htrigger
  refine ⟨error, ?_⟩
  unfold plan_signal
  rw [if_neg (by rw [hcooling]; exact Bool.false_ne_true), bind_ok (lift_ok hrequired),
    bind_ok hwritten, bind_error herror]

end

/-! ## The signals of a pass -/

def handled (planner : SignalPlanner) (pass : SignalPass) (signal : ProactiveSignalRecord) :
    ProactiveSignalRecord :=
  if cooling pass signal then ignored_row signal else planned_row planner pass signal

theorem handled_id : (planner.handled pass signal).signal_id = signal.signal_id := by
  unfold handled
  split <;> rfl

theorem handled_status : (planner.handled pass signal).status ≠ .new := by
  unfold handled
  split
  · exact (by decide : SignalStatus.ignored ≠ .new)
  · exact (by decide : SignalStatus.planned ≠ .new)

theorem Checked.handled (hfolds : FoldsLabels planner.casefold) (h : planner.Checked signal) :
    planner.Checked (planner.handled pass signal) := by
  unfold SignalPlanner.handled
  split
  · exact h.ignored hfolds
  · exact h.planned pass hfolds

theorem handle_row (signal_id : String) : (planner.handle pass store signal).signals.row signal_id
      = if signal_id = signal.signal_id then some (planner.handled pass signal)
        else store.signals.row signal_id := by
  unfold handle handled
  cases cooling pass signal with
  | true => exact Table.row_put _ _ _ _
  | false => exact Table.row_put _ _ _ _

theorem Listed.handle {other : ProactiveSignalRecord} (h : Listed planner store other)
    (hother : other.signal_id ≠ signal.signal_id) :
    Listed planner (planner.handle pass store signal) other := by
  refine ⟨?_, h.checked⟩
  rw [handle_row, if_neg hother]
  exact h.row

/-- The signals are different rows of the store. -/
structure Batch (planner : SignalPlanner) (store : SignalStore)
    (signals : List ProactiveSignalRecord) : Prop where
  listed : ∀ signal ∈ signals, Listed planner store signal
  distinct : signals.Pairwise (fun signal other => signal.signal_id ≠ other.signal_id)

theorem Batch.rest {rest : List ProactiveSignalRecord} (h : Batch planner store (signal :: rest)) :
    Batch planner (planner.handle pass store signal) rest := by
  obtain ⟨hfirst, hrest⟩ := pairwise_cons.mp h.distinct
  refine ⟨fun other hother => ?_, hrest⟩
  exact (h.listed other (mem_cons_of_mem _ hother)).handle
    (fun heq => hfirst other hother heq.symm)

theorem plan_signals_ok (hfolds : FoldsLabels planner.casefold) {signals : List ProactiveSignalRecord}
    {intents : List ScheduledLaunchIntent} (hbatch : Batch planner store signals)
    (hbound : (intents.length : Int) + signals.length ≤ pass.max_signals)
    (h : ∀ signal ∈ signals, ¬ Stops pass signal) :
    planner.plan_signals pass signals intents store
      = (.ok (intents ++ signals.filterMap (planner.signal_intent pass)),
          signals.foldl (planner.handle pass) store) := by
  induction signals generalizing store intents with
  | nil =>
    rw [filterMap_nil, append_nil]
    rfl
  | cons signal rest ih =>
    rw [length_cons] at hbound
    have hgoes : ¬ pass.max_signals ≤ intents.length := by omega
    have hplanned := plan_signal_ok hfolds (hbatch.listed signal mem_cons_self)
      (h signal mem_cons_self)
    have hadded : ((intents ++ (planner.signal_intent pass signal).toList).length : Int)
        + rest.length ≤ pass.max_signals := by
      rw [length_append]
      have := Option.length_toList_le (o := planner.signal_intent pass signal)
      omega
    unfold plan_signals
    rw [if_neg hgoes, bind_ok hplanned, ih hbatch.rest hadded
      (fun other hother => h other (mem_cons_of_mem _ hother)), append_assoc]
    cases hintent : planner.signal_intent pass signal with
    | none => rw [filterMap_cons_none hintent]; rfl
    | some intent => rw [filterMap_cons_some hintent]; rfl

theorem plan_signals_error (hfolds : FoldsLabels planner.casefold)
    {front back : List ProactiveSignalRecord} {intents : List ScheduledLaunchIntent}
    (hbatch : Batch planner store (front ++ signal :: back))
    (hbound : (intents.length : Int) + (front ++ signal :: back).length ≤ pass.max_signals)
    (hfront : ∀ earlier ∈ front, ¬ Stops pass earlier) (h : Stops pass signal) :
    ∃ error, planner.plan_signals pass (front ++ signal :: back) intents store
      = (.error error,
          if StopsEarly pass signal then front.foldl (planner.handle pass) store
          else (front.foldl (planner.handle pass) store).put_signal signal.signal_id
            (planned_row planner pass signal)) := by
  induction front generalizing store intents with
  | nil =>
    rw [nil_append, length_cons] at hbound
    have hgoes : ¬ pass.max_signals ≤ intents.length := by omega
    have hlisted := hbatch.listed signal mem_cons_self
    rw [nil_append]
    unfold plan_signals
    rw [if_neg hgoes]
    split
    · next hearly =>
      obtain ⟨error, herror⟩ := plan_signal_early hfolds hlisted hearly
      exact ⟨error, bind_error herror⟩
    · next hlate =>
      obtain ⟨error, herror⟩ := plan_signal_late hfolds hlisted h hlate
      exact ⟨error, bind_error herror⟩
  | cons earlier rest ih =>
    rw [cons_append, length_cons] at hbound
    have hgoes : ¬ pass.max_signals ≤ intents.length := by omega
    have hplanned := plan_signal_ok hfolds (hbatch.listed earlier mem_cons_self)
      (hfront earlier mem_cons_self)
    have hadded : ((intents ++ (planner.signal_intent pass earlier).toList).length : Int)
        + (rest ++ signal :: back).length ≤ pass.max_signals := by
      have := Option.length_toList_le (o := planner.signal_intent pass earlier)
      rw [length_append]
      omega
    obtain ⟨error, herror⟩ := ih hbatch.rest hadded
      (fun other hother => hfront other (mem_cons_of_mem _ hother))
    refine ⟨error, ?_⟩
    rw [cons_append]
    unfold plan_signals
    rw [if_neg hgoes, bind_ok hplanned]
    exact herror

end SignalPlanner

end CodingAgentLoop
