/-
What the passes of the schedule planner make of a due time.

A pass acts on the row it listed. While that row is the stored one, and no store call fails once a
trigger is recorded, each due time gets one trigger and each trigger its intent. What a pass
stands for between its trigger and its update is the one thing the store does not show: the row is
still due there, and a second pass would plan it again.
-/
import CodingAgentLoop.SchedulePlanner

namespace CodingAgentLoop

open Lib ScheduleCheck ScheduleHost List Result

variable {host : ScheduleHost}

abbrev ScheduleHistory (host : ScheduleHost) : Type :=
  Dialogue.History (ScheduleQuery host.casefold) ScheduleQuery.Answer

abbrev ScheduleTold (host : ScheduleHost) : Type :=
  (query : ScheduleQuery host.casefold) × query.Answer

/-! ## What a pass was told -/

def recorded (record trigger : ScheduleTriggerRecord) : ScheduleTold host :=
  ⟨.record_trigger record, (.ok trigger : Except StoreError ScheduleTriggerRecord)⟩

def listed (due_at_or_before : Datetime) (limit : Int) (rows : List ScheduleRecord) :
    ScheduleTold host :=
  ⟨.list_due_schedules due_at_or_before limit, (.ok rows : Except StoreError (List ScheduleRecord))⟩

def TellsFailure (told : ScheduleTold host) : Prop := ∃ error, told.2 = .error error

def HasRecorded (history : ScheduleHistory host) : Prop :=
  ∃ record trigger, recorded record trigger ∈ history

/-- The pass stands between a trigger of the schedule and its update. -/
def StandsAt (history : ScheduleHistory host) (schedule_id : String) : Prop :=
  ∃ record trigger, history.getLast? = some (recorded record trigger)
    ∧ record.schedule_id = schedule_id

def WasListed (history : ScheduleHistory host) (schedule : ScheduleRecord) : Prop :=
  ∃ due_at_or_before limit rows, listed due_at_or_before limit rows ∈ history ∧ schedule ∈ rows

def ScheduledLaunchIntent.Launches (intent : ScheduledLaunchIntent)
    (trigger : ScheduleTriggerRecord) : Prop :=
  intent.trigger_id = trigger.trigger_id ∧ intent.schedule_id = trigger.schedule_id
    ∧ intent.due_at = trigger.due_at

def Matched (history : ScheduleHistory host) (intents : List ScheduledLaunchIntent) : Prop :=
  ∀ record trigger, recorded record trigger ∈ history → trigger = record →
    ∃ intent ∈ intents, intent.Launches trigger

/-- What stops a pass: a failed call, or a row that does not pass its checks. -/
def PassStopped (history : ScheduleHistory host) : Prop :=
  ¬ HasRecorded history ∨ (∃ told, history.getLast? = some told ∧ TellsFailure told)
    ∨ (∃ schedule, WasListed history schedule ∧ schedule.post_init host.casefold ≠ .ok ())
    ∨ ∃ record trigger, recorded record trigger ∈ history ∧ trigger ≠ record

/-- A pass lists and records when it stands nowhere, and updates the schedule it stands at. -/
def PassAsks (history : ScheduleHistory host) : ScheduleQuery host.casefold → Prop
  | .list_due_schedules _ _ => ∀ schedule_id, ¬ StandsAt history schedule_id
  | .record_trigger _ => ∀ schedule_id, ¬ StandsAt history schedule_id
  | .update_schedule_status schedule_id status _ _ _ _ =>
    status = .active ∧ StandsAt history schedule_id
  | .create_schedule _ => False

def PassEnds (history : ScheduleHistory host) :
    Except StoreError (List ScheduledLaunchIntent) → Prop
  | .ok intents => Matched history intents
  | .error _ => PassStopped history

/-! ## What the checks of a schedule say -/

section Checked

variable {schedule : ScheduleRecord} {now due_at : Datetime}

def schedule_launch (host : ScheduleHost) (schedule : ScheduleRecord) : JsonObject :=
  match bee_launch_metadata host.casefold "schedule" schedule.metadata with
  | .ok fields => fields
  | .error _ => []

theorem schedule_parts (h : schedule.post_init host.casefold = .ok ()) :
    require_safe_label host.casefold "kind" schedule.kind = .ok ()
      ∧ TopicCheck.require_non_empty "schedule_id" schedule.schedule_id = .ok ()
      ∧ TopicCheck.require_non_empty "session_id" schedule.session_id = .ok ()
      ∧ require_optional "topic_id" schedule.topic_id = .ok ()
      ∧ (∀ field ∈ schedule.metadata, Admissible host.casefold field)
      ∧ require_bee_launch host.casefold schedule.metadata = .ok () := by
  unfold ScheduleRecord.post_init at h
  simp only [check_bind_eq_ok] at h
  rw [json_object_ok] at h
  obtain ⟨hid, hsession, hkind, -, htopic, -, -, hmetadata, hlaunch⟩ := h
  exact ⟨hkind, hid, hsession, htopic, hmetadata, hlaunch⟩

theorem schedule_launch_ok (h : schedule.post_init host.casefold = .ok ()) :
    bee_launch_metadata host.casefold "schedule" schedule.metadata
        = .ok (schedule_launch host schedule)
      ∧ ∀ field ∈ schedule_launch host schedule, Admissible host.casefold field := by
  obtain ⟨-, -, -, -, hmetadata, hlaunch⟩ := schedule_parts h
  obtain ⟨fields, hfields, hadmissible⟩ :=
    bee_launch_metadata_ok hmetadata hlaunch "schedule"
  have heq : schedule_launch host schedule = fields := by
    unfold schedule_launch
    rw [hfields]
  rw [heq]
  exact ⟨hfields, hadmissible⟩

theorem due_trigger_ok (hfolds : FoldsLabels host.casefold)
    (h : schedule.post_init host.casefold = .ok ()) :
    (host.due_trigger schedule due_at now (schedule_launch host schedule)).post_init host.casefold
      = .ok () := by
  obtain ⟨hkind, hid, -, htopic, -, -⟩ := schedule_parts h
  have hreason : require_json_value host.casefold "reason" (.str "schedule_due")
      = .ok () := label_value hfolds (by decide) (by decide) (by decide)
  unfold require_json_value at hreason
  unfold ScheduleTriggerRecord.post_init due_trigger
  simp only [check_bind_eq_ok]
  rw [json_object_ok]
  refine ⟨?_, hid, htopic, rfl, rfl, ?_, ?_⟩
  · unfold default_trigger_id
    rw [String.append_assoc, String.append_assoc]
    exact prefixed_non_empty (by decide) _
  · unfold require_optional_display_text
    rw [check_bind_eq_ok]
    exact ⟨rfl, hreason⟩
  · refine admissible_merge (fun field hmem => ?_) (schedule_launch_ok h).2
    rcases mem_cons.mp hmem with rfl | hmem
    · exact label_admissible hfolds (by decide) (by decide) (by decide) (by decide)
    · rw [mem_singleton.mp hmem]
      exact kind_admissible hfolds (by decide) (by decide) hkind

theorem due_intent_ok (hfolds : FoldsLabels host.casefold)
    (h : schedule.post_init host.casefold = .ok ()) :
    (due_intent schedule (host.due_trigger schedule due_at now
      (schedule_launch host schedule)) (schedule_launch host schedule)).post_init host.casefold
        = .ok () := by
  obtain ⟨hkind, hid, hsession, htopic, -, -⟩ := schedule_parts h
  have hreason : require_safe_label host.casefold "reason" "schedule_due" = .ok () :=
    label_safe hfolds (by decide) (by decide) (by decide) (by decide) (by decide)
  unfold ScheduledLaunchIntent.post_init due_intent
  simp only [check_bind_eq_ok]
  rw [json_object_ok]
  refine ⟨?_, hid, hsession, htopic, hreason, ?_⟩
  · unfold due_trigger default_trigger_id
    rw [String.append_assoc, String.append_assoc]
    exact prefixed_non_empty (by decide) _
  · refine admissible_merge (fun field hmem => ?_) (schedule_launch_ok h).2
    rw [mem_singleton.mp hmem]
    exact kind_admissible hfolds (by decide) (by decide) hkind

end Checked

/-! ## What a pass asks, and how it ends -/

section Pass

variable {history later : ScheduleHistory host} {schedule : ScheduleRecord}
  {intents : List ScheduledLaunchIntent}

theorem WasListed.extend (h : WasListed history schedule) (hlater : history <+: later) :
    WasListed later schedule := by
  obtain ⟨due_at_or_before, limit, rows, hmem, hrow⟩ := h
  exact ⟨due_at_or_before, limit, rows, hlater.subset hmem, hrow⟩

theorem stopped_failed {query : ScheduleQuery host.casefold} (history : ScheduleHistory host)
    (error : StoreError) : PassStopped (history ++ [⟨query, .error error⟩]) := by
  have htold : TellsFailure (⟨query, .error error⟩ : ScheduleTold host) := ⟨error, rfl⟩
  exact .inr (.inl ⟨_, List.getLast?_concat, htold⟩)

theorem meets_call {α : Type} {query : ScheduleQuery host.casefold}
    {next : query.Value → ScheduleDialogue host α}
    {post : ScheduleHistory host → Except StoreError α → Prop} (hguard : PassAsks history query)
    (hok : ∀ value, Dialogue.Meets (fun _ _ _ => True) PassAsks post (next value)
      (history ++ [⟨query, .ok value⟩]))
    (herror : ∀ error, post (history ++ [⟨query, .error error⟩]) (.error error)) :
    Dialogue.Meets (fun _ _ _ => True) PassAsks post (host.call query >>= next) history := by
  refine ⟨hguard, fun answer _ => ?_⟩
  cases answer with
  | error error => exact herror error
  | ok value => exact hok value

theorem meets_launch (hfolds : FoldsLabels host.casefold) {now due_at : Datetime}
    (hlisted : WasListed history schedule) (hmatched : Matched history intents)
    (hidle : ∀ schedule_id, ¬ StandsAt history schedule_id) :
    Dialogue.Meets (fun _ _ _ => True) PassAsks (fun later result => match result with
      | .ok intent => history <+: later ∧ Matched later (intents ++ [intent])
          ∧ ∀ schedule_id, ¬ StandsAt later schedule_id
      | .error _ => PassStopped later) (host.launch_schedule now schedule due_at) history := by
  -- a row that does not pass its checks stops the pass wherever it is noticed
  have hunchecked {later : ScheduleHistory host} (hlater : history <+: later)
      (h : schedule.post_init host.casefold ≠ .ok ()) : PassStopped later :=
    .inr (.inr (.inl ⟨schedule, hlisted.extend hlater, h⟩))
  unfold launch_schedule
  refine Dialogue.Meets.lift_bind (fun bee_launch hbee => ?_) (fun error herror => ?_)
  · refine Dialogue.Meets.lift_bind (fun _ _ => ?_) (fun error herror => ?_)
    · refine meets_call hidle (fun trigger => ?_) (fun error => stopped_failed _ error)
      have hstands : StandsAt (history ++ [recorded (host.due_trigger schedule due_at now bee_launch)
          trigger]) schedule.schedule_id :=
        ⟨_, trigger, List.getLast?_concat, rfl⟩
      refine meets_call ⟨rfl, hstands⟩ (fun row => ?_) (fun error => stopped_failed _ error)
      have hbegins : history <+: history ++ [recorded (host.due_trigger schedule due_at now
          bee_launch) trigger] ++ [⟨host.advance schedule now, .ok row⟩] :=
        (prefix_append _ _).trans (prefix_append _ _)
      refine Dialogue.Meets.lift_bind (fun bee_launch' hbee' => ?_) (fun error herror => ?_)
      · have hsame : bee_launch' = bee_launch := Except.ok.inj (hbee'.symm.trans hbee)
        subst hsame
        refine Dialogue.Meets.lift_bind (fun _ _ => ?_) (fun error herror => ?_)
        · refine ⟨hbegins, ?_, ?_⟩
          · intro record given hmem hgiven
            rcases mem_snoc hmem with hmem | hmem
            · rcases mem_snoc hmem with hmem | hmem
              · obtain ⟨intent, hintent, hlaunches⟩ := hmatched record given hmem hgiven
                exact ⟨intent, mem_append_left _ hintent, hlaunches⟩
              · cases hmem
                refine ⟨_, mem_append_right _ (mem_singleton_self _), rfl, ?_, rfl⟩
                rw [hgiven]
                rfl
            · cases hmem
          · rintro schedule_id ⟨record, given, hlast, -⟩
            rw [List.getLast?_concat] at hlast
            cases hlast
        · by_cases hchecked : schedule.post_init host.casefold = .ok ()
          · have hlaunch := (schedule_launch_ok hchecked).1
            rw [hbee] at hlaunch
            obtain rfl := Except.ok.inj hlaunch
            refine .inr (.inr (.inr ⟨_, trigger, mem_append_left _
              (mem_append_right _ (mem_singleton_self _)), fun heq => ?_⟩))
            rw [heq, due_intent_ok hfolds hchecked] at herror
            cases herror
          · exact hunchecked hbegins hchecked
      · rw [hbee] at herror
        cases herror
    · refine hunchecked prefix_rfl (fun hchecked => ?_)
      have hlaunch := (schedule_launch_ok hchecked).1
      rw [hbee] at hlaunch
      obtain rfl := Except.ok.inj hlaunch
      rw [due_trigger_ok hfolds hchecked] at herror
      cases herror
  · refine hunchecked prefix_rfl (fun hchecked => ?_)
    rw [(schedule_launch_ok hchecked).1] at herror
    cases herror

theorem meets_plan_schedules (hfolds : FoldsLabels host.casefold) (now : Datetime) (max_due : Int)
    (schedules : List ScheduleRecord) (hlisted : ∀ schedule ∈ schedules, WasListed history schedule)
    (hmatched : Matched history intents) (hidle : ∀ schedule_id, ¬ StandsAt history schedule_id) :
    Dialogue.Meets (fun _ _ _ => True) PassAsks PassEnds
      (host.plan_schedules now max_due schedules intents) history := by
  induction schedules generalizing history intents with
  | nil => exact hmatched
  | cons schedule rest ih =>
    have hrest : ∀ other ∈ rest, WasListed history other :=
      fun other hother => hlisted other (mem_cons_of_mem _ hother)
    unfold plan_schedules
    split
    · exact hmatched
    · split
      · exact ih hrest hmatched hidle
      · split
        · exact ih hrest hmatched hidle
        · refine Dialogue.Meets.bind ((meets_launch hfolds (hlisted schedule mem_cons_self)
            hmatched hidle).imp (fun later result hresult => ?_))
          cases result with
          | error error => exact hresult
          | ok intent =>
            obtain ⟨hlater, hmatched', hidle'⟩ := hresult
            exact ih (fun other hother => (hrest other hother).extend hlater) hmatched' hidle'

theorem meets_pass (hfolds : FoldsLabels host.casefold) (now : Datetime) (max_due : Int) :
    Dialogue.Meets (fun _ _ _ => True) PassAsks PassEnds (host.plan_due_schedules now max_due) [] := by
  have hnothing : PassStopped ([] : ScheduleHistory host) := .inl (fun ⟨_, _, hmem⟩ => by cases hmem)
  unfold plan_due_schedules
  refine Dialogue.Meets.lift_bind (fun _ _ => ?_) (fun _ _ => hnothing)
  have hnowhere : PassAsks ([] : ScheduleHistory host) (.list_due_schedules now max_due) :=
    fun _ ⟨_, _, hlast, _⟩ => by cases hlast
  refine meets_call hnowhere (fun rows => ?_) (fun error => stopped_failed _ error)
  refine meets_plan_schedules hfolds now max_due rows ?_ ?_ ?_
  · intro schedule hmem
    exact ⟨now, max_due, rows, mem_append_right _ (mem_singleton_self _), hmem⟩
  · intro record trigger hmem
    rcases mem_snoc hmem with hmem | hmem
    · cases hmem
    · cases hmem
  · rintro schedule_id ⟨record, trigger, hlast, -⟩
    rw [List.getLast?_concat] at hlast
    cases hlast

end Pass

end CodingAgentLoop
