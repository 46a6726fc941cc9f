/-
`ScheduledRunPlanner` over the store of scheduled runs (`coding_agent/runs/scheduled.py`).

A pass lists the schedules that are due, and for each records a trigger, then writes the row of
the schedule with its next due time. Each of these is one call of the store, which may fail before
it takes effect, and between two of them other passes and edits of the schedules go on.
-/
import CodingAgentLoop.Lib.Crew
import CodingAgentLoop.Lib.Stateful
import CodingAgentLoop.ScheduleRecords

namespace CodingAgentLoop

open Lib ScheduleCheck

/-! ## The store -/

/-- `scheduled_runs` and `scheduled_run_triggers`. -/
structure ScheduleStore where
  schedules : Table String ScheduleRecord := ∅
  triggers : Table String ScheduleTriggerRecord := ∅

abbrev ScheduleAction := Action ScheduleStore StoreError

/-- What the planner runs on: case folding, the order of texts in the database, and the text of an
instant. -/
structure ScheduleHost where
  casefold : String → String
  collate : String → String → Bool
  isoformat : Datetime → String

structure CheckedSchedule (casefold : String → String) where
  record : ScheduleRecord
  checked : record.post_init casefold = .ok ()

namespace ScheduleHost

variable (host : ScheduleHost)

/-- `_schedule_from_row(row)`: the record checks itself. -/
def schedule_from_row (row : ScheduleRecord) : Except StoreError ScheduleRecord := do
  row.post_init host.casefold
  pure row

/-- `next_due_at IS NOT NULL AND next_due_at <= $1` of an active schedule. -/
def is_due (due_at_or_before : Datetime) (row : ScheduleRecord) : Bool :=
  row.status = .active && row.next_due_at.any (· ≤ due_at_or_before)

/-- `ORDER BY next_due_at, schedule_id`. -/
def due_before (row other : ScheduleRecord) : Bool :=
  row.next_due_at.getD 0 < other.next_due_at.getD 0
    || (row.next_due_at = other.next_due_at && host.collate row.schedule_id other.schedule_id)

def list_due_schedules (due_at_or_before : Datetime) (limit : Int) :
    ScheduleAction (List ScheduleRecord) := do
  Action.lift (raise_if (limit ≤ 0) .ValueError "limit must be a positive int")
  let store ← Action.get
  let rows := ((store.schedules.select (fun _ row => is_due due_at_or_before row)).map
    Prod.snd).insertionSort (fun row other => host.due_before row other)
  Action.lift ((rows.take limit.toNat).mapM host.schedule_from_row)

def update_schedule_status (schedule_id : String) (status : ScheduleStatus)
    (next_due_at last_triggered_at : Option Datetime) (updated_at : Datetime)
    (metadata : JsonObject) : ScheduleAction ScheduleRecord := do
  Action.lift (TopicCheck.require_non_empty "schedule_id" schedule_id)
  Action.lift (require_json_object host.casefold "metadata" metadata)
  let store ← Action.get
  match store.schedules.row schedule_id with
  | none => Action.lift (raise .KeyError ("schedule not found: " ++ schedule_id))
  | some row => do
      let updated := { row with status, next_due_at, last_triggered_at, updated_at, metadata }
      Action.modify (fun store =>
        { store with schedules := store.schedules.put schedule_id updated })
      Action.lift (host.schedule_from_row updated)

/-- `record_trigger(record)`, an upsert of every column. -/
def record_trigger (record : ScheduleTriggerRecord) : ScheduleAction ScheduleTriggerRecord := do
  Action.modify (fun store =>
    { store with triggers := store.triggers.put record.trigger_id record })
  Action.lift (record.post_init host.casefold)
  pure record

/-- `create_schedule(record)`: an upsert that keeps the time of creation. -/
def create_schedule (record : ScheduleRecord) : ScheduleAction ScheduleRecord := do
  let store ← Action.get
  let created_at := (store.schedules.row record.schedule_id).elim record.created_at (·.created_at)
  let written := { record with created_at }
  Action.modify (fun store =>
    { store with schedules := store.schedules.put record.schedule_id written })
  Action.lift (host.schedule_from_row written)

end ScheduleHost

/-! ## A pass -/

inductive ScheduleQuery (casefold : String → String) where
  | list_due_schedules (due_at_or_before : Datetime) (limit : Int)
  | record_trigger (record : ScheduleTriggerRecord)
  | update_schedule_status (schedule_id : String) (status : ScheduleStatus)
      (next_due_at last_triggered_at : Option Datetime) (updated_at : Datetime)
      (metadata : JsonObject)
  | create_schedule (schedule : CheckedSchedule casefold)

namespace ScheduleQuery

def Value {casefold : String → String} : ScheduleQuery casefold → Type
  | list_due_schedules _ _ => List ScheduleRecord
  | record_trigger _ => ScheduleTriggerRecord
  | update_schedule_status _ _ _ _ _ _ => ScheduleRecord
  | create_schedule _ => ScheduleRecord

abbrev Answer {casefold : String → String} (query : ScheduleQuery casefold) : Type :=
  Except StoreError query.Value

end ScheduleQuery

abbrev ScheduleDialogue (host : ScheduleHost) (α : Type) : Type :=
  Dialogue (ScheduleQuery host.casefold) ScheduleQuery.Answer StoreError α

namespace ScheduleHost

variable (host : ScheduleHost)

def call (query : ScheduleQuery host.casefold) : ScheduleDialogue host query.Value := do
  let answer ← Dialogue.await query
  Dialogue.lift answer

/-- `now.isoformat().replace(":", "").replace("+", "_")`. -/
def safe_time (now : Datetime) : String :=
  String.ofList (((host.isoformat now).toList.filter (· ≠ ':')).map
    (fun c => if c = '+' then '_' else c))

def default_trigger_id (schedule_id : String) (now : Datetime) : String :=
  "trigger-" ++ schedule_id ++ "-" ++ host.safe_time now

/-- `timedelta(hours=1)`, in microseconds. -/
def one_hour : Nat := 3600000000

section

variable (schedule : ScheduleRecord)

def next_due_at (now : Datetime) : Option Datetime :=
  match schedule.cadence with
  | "once" => none
  | "hourly" => some (now + one_hour)
  | "daily" => some (now + 24 * one_hour)
  | _ => none

def due_trigger (due_at now : Datetime) (bee_launch : JsonObject) :
    ScheduleTriggerRecord where
  trigger_id := host.default_trigger_id schedule.schedule_id now
  schedule_id := schedule.schedule_id
  topic_id := schedule.topic_id
  status := .planned
  due_at := due_at
  planned_at := now
  reason := some "schedule_due"
  metadata := JsonObject.merge [("trigger_kind", .str "schedule"),
    ("schedule_kind", .str schedule.kind)] bee_launch

/-- The intent that goes with a trigger. -/
def due_intent (trigger : ScheduleTriggerRecord)
    (bee_launch : JsonObject) : ScheduledLaunchIntent where
  trigger_id := trigger.trigger_id
  schedule_id := schedule.schedule_id
  session_id := schedule.session_id
  topic_id := schedule.topic_id
  reason := "schedule_due"
  due_at := trigger.due_at
  planned_at := trigger.planned_at
  metadata := JsonObject.merge [("schedule_kind", .str schedule.kind)] bee_launch

def advance (now : Datetime) : ScheduleQuery host.casefold :=
  .update_schedule_status schedule.schedule_id .active (next_due_at schedule now) (some now) now
    (schedule.metadata.merge [("last_trigger_status", .str "planned")])

end

/-- What `plan_due_schedules` does with a schedule whose due time has come. -/
def launch_schedule (now : Datetime) (schedule : ScheduleRecord) (due_at : Datetime) :
    ScheduleDialogue host ScheduledLaunchIntent := do
  let bee_launch ← Dialogue.lift
    (bee_launch_metadata host.casefold "schedule" schedule.metadata)
  Dialogue.lift ((host.due_trigger schedule due_at now bee_launch).post_init host.casefold)
  let trigger ← host.call (.record_trigger (host.due_trigger schedule due_at now bee_launch))
  let _ ← host.call (host.advance schedule now)
  let bee_launch ← Dialogue.lift
    (bee_launch_metadata host.casefold "schedule" schedule.metadata)
  Dialogue.lift ((due_intent schedule trigger bee_launch).post_init host.casefold)
  pure (due_intent schedule trigger bee_launch)

/-- The loop of `plan_due_schedules`. -/
def plan_schedules (now : Datetime) (max_due : Int) : List ScheduleRecord →
    List ScheduledLaunchIntent → ScheduleDialogue host (List ScheduledLaunchIntent)
  | [], intents => pure intents
  | schedule :: rest, intents =>
    if max_due ≤ intents.length then pure intents
    else
      match schedule.next_due_at with
      | none => plan_schedules now max_due rest intents
      | some due_at =>
        if now < due_at then plan_schedules now max_due rest intents
        else do
          let intent ← host.launch_schedule now schedule due_at
          plan_schedules now max_due rest (intents ++ [intent])

def plan_due_schedules (now : Datetime) (max_due : Int) :
    ScheduleDialogue host (List ScheduledLaunchIntent) := do
  Dialogue.lift (raise_if (max_due ≤ 0) .ValueError "max_due must be a positive int")
  let schedules ← host.call (.list_due_schedules now max_due)
  host.plan_schedules now max_due schedules []

/-! ## Runs -/

/-- The pure effect of a call of the store that reaches it. -/
def act : (query : ScheduleQuery host.casefold) → ScheduleAction query.Value
  | .list_due_schedules due_at_or_before limit => host.list_due_schedules due_at_or_before limit
  | .record_trigger record => host.record_trigger record
  | .update_schedule_status schedule_id status next_due_at last_triggered_at updated_at metadata =>
    host.update_schedule_status schedule_id status next_due_at last_triggered_at updated_at metadata
  | .create_schedule schedule => host.create_schedule schedule.record

/-- A call reaches the store, or fails before it takes effect. -/
inductive Answers (store : ScheduleStore) (query : ScheduleQuery host.casefold) :
    query.Answer → ScheduleStore → Prop
  | reached : Answers store query (host.act query store).1 (host.act query store).2
  | failed (error : StoreError) : Answers store query (.error error) store

end ScheduleHost

/-- A pass, or an edit of a schedule: its row is written anew, or its status and times are. -/
inductive ScheduleCall (casefold : String → String) where
  | plan_due_schedules (now : Datetime) (max_due : Int)
  | create_schedule (schedule : CheckedSchedule casefold)
  | update_schedule_status (schedule_id : String) (status : ScheduleStatus)
      (next_due_at last_triggered_at : Option Datetime) (updated_at : Datetime)
      (metadata : JsonObject)

/-- The code of a call; an edit returns no intents. -/
def ScheduleCall.body (host : ScheduleHost) :
    ScheduleCall host.casefold → ScheduleDialogue host (List ScheduledLaunchIntent)
  | .plan_due_schedules now max_due => host.plan_due_schedules now max_due
  | .create_schedule schedule => do
      let _ ← host.call (.create_schedule schedule)
      pure []
  | .update_schedule_status schedule_id status next_due_at last_triggered_at updated_at metadata => do
      let _ ← host.call (.update_schedule_status schedule_id status next_due_at last_triggered_at
        updated_at metadata)
      pure []

abbrev ScheduleCrew (host : ScheduleHost) : Type :=
  Crew (ScheduleCall host.casefold) ScheduleStore (ScheduleQuery host.casefold)
    ScheduleQuery.Answer StoreError (List ScheduledLaunchIntent)

abbrev ScheduleEvent (host : ScheduleHost) : Type :=
  CrewEvent (ScheduleCall host.casefold) ScheduleStore (ScheduleQuery host.casefold)
    ScheduleQuery.Answer

/-- A step of the passes and the edits; nothing else changes the store. -/
abbrev ScheduleStep (host : ScheduleHost) : ScheduleCrew host → ScheduleEvent host →
    ScheduleCrew host → Prop :=
  Crew.Step (ScheduleCall.body host) host.Answers (fun _ _ => False)

end CodingAgentLoop
