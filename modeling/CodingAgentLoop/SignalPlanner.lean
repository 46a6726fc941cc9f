/-
`ProactiveSignalPlanner` over the store of scheduled runs (`coding_agent/runs/scheduled.py`).

A pass lists the new signals, oldest first, and handles them one by one: a signal in its cooldown
is ignored, any other is planned, with a trigger and a launch intent. The intents are returned
when the pass is through. A call of the store may fail before it takes effect; the calls of a
pass are told apart by the rows they are about, so which of them fail is a function.
-/
import CodingAgentLoop.Lib.Stateful
import CodingAgentLoop.ScheduleRecords

namespace CodingAgentLoop

open Lib Action ScheduleCheck

/-! ## The store -/

/-- `proactive_signals`, and `scheduled_run_triggers`. -/
structure SignalStore where
  signals : Table String ProactiveSignalRecord := ∅
  triggers : Table String ScheduleTriggerRecord := ∅

namespace SignalStore

def put_signal (store : SignalStore) (signal_id : String) (row : ProactiveSignalRecord) :
    SignalStore :=
  { store with signals := store.signals.put signal_id row }

def put_trigger (store : SignalStore) (record : ScheduleTriggerRecord) : SignalStore :=
  { store with triggers := store.triggers.put record.trigger_id record }

end SignalStore

abbrev SignalAction := Action SignalStore StoreError

inductive SignalCall where
  | list_signals
  | update_signal_status (signal_id : String)
  | record_trigger (trigger_id : String)

/-- `ProactiveSignalPlanner`, with the host it runs on: case folding, and the order of texts in
the database. -/
structure SignalPlanner where
  casefold : String → String
  collate : String → String → Bool
  cooldown : Nat
  positive : 0 < cooldown

/-- The arguments of a pass, and the calls that fail in it. -/
structure SignalPass where
  now : Datetime
  max_signals : Int
  fails : SignalCall → Option StoreError := fun _ => none

namespace SignalPass

def reach (pass : SignalPass) (call : SignalCall) : SignalAction Unit :=
  lift (match pass.fails call with
    | none => .ok ()
    | some error => .error error)

end SignalPass

namespace SignalPlanner

variable (planner : SignalPlanner) (pass : SignalPass)

/-- `_signal_from_row(row)`: the record checks itself. -/
def signal_from_row (row : ProactiveSignalRecord) : Except StoreError ProactiveSignalRecord := do
  row.post_init planner.casefold
  pure row

/-- `ORDER BY observed_at, signal_id`. -/
def listed_before (row other : ProactiveSignalRecord) : Bool :=
  row.observed_at < other.observed_at
    || (row.observed_at = other.observed_at && planner.collate row.signal_id other.signal_id)

def signal_rows (store : SignalStore) (status : SignalStatus) : List ProactiveSignalRecord :=
  ((store.signals.select (fun _ row => row.status = status)).map Prod.snd).insertionSort
    (fun row other => planner.listed_before row other)

/-- `list_signals(status=..., limit=...)`; the planner names no session and no topic. -/
def list_signals (status : SignalStatus) (limit : Int) : SignalAction (List ProactiveSignalRecord) := do
  lift (raise_if (limit ≤ 0) .ValueError "limit must be a positive int")
  pass.reach .list_signals
  let store ← Action.get
  lift (((planner.signal_rows store status).take limit.toNat).mapM planner.signal_from_row)

def update_signal_status (signal_id : String) (status : SignalStatus)
    (cooldown_until : Option Datetime) (metadata : JsonObject) :
    SignalAction ProactiveSignalRecord := do
  lift (TopicCheck.require_non_empty "signal_id" signal_id)
  lift (require_json_object planner.casefold "metadata" metadata)
  pass.reach (.update_signal_status signal_id)
  let store ← Action.get
  match store.signals.row signal_id with
  | none => lift (raise .KeyError ("proactive signal not found: " ++ signal_id))
  | some row => do
      let updated := { row with status, cooldown_until, metadata }
      Action.modify (fun store => store.put_signal signal_id updated)
      lift (planner.signal_from_row updated)

/-- `record_trigger(record)`, an upsert of every column. -/
def record_trigger (record : ScheduleTriggerRecord) : SignalAction ScheduleTriggerRecord := do
  pass.reach (.record_trigger record.trigger_id)
  Action.modify (fun store => store.put_trigger record)
  lift (record.post_init planner.casefold)
  pure record

/-! ## A pass -/

/-- `signal.cooldown_until is not None and signal.cooldown_until > now`. -/
def cooling (signal : ProactiveSignalRecord) : Bool :=
  signal.cooldown_until.any (pass.now < ·)

def required_signal_session (signal : ProactiveSignalRecord) : Except StoreError String :=
  match signal.session_id with
  | none => raise .ValueError "proactive signal requires session_id for launch planning"
  | some session_id => .ok session_id

def signal_trigger_id (signal_id : String) : String := "signal-trigger-" ++ signal_id

def trigger_of (signal : ProactiveSignalRecord) (bee_launch : JsonObject) :
    ScheduleTriggerRecord where
  trigger_id := signal_trigger_id signal.signal_id
  schedule_id := "signal:" ++ signal.signal_id
  signal_id := some signal.signal_id
  topic_id := signal.topic_id
  status := .planned
  due_at := signal.observed_at
  planned_at := pass.now
  reason := some "proactive_signal"
  metadata := JsonObject.merge [("trigger_kind", .str "proactive_signal"),
    ("signal_kind", .str signal.kind)] bee_launch

/-- The intent that goes with a trigger. -/
def intent_of (signal : ProactiveSignalRecord) (trigger : ScheduleTriggerRecord)
    (session_id : String) (bee_launch : JsonObject) : ScheduledLaunchIntent where
  trigger_id := trigger.trigger_id
  schedule_id := trigger.schedule_id
  session_id := session_id
  topic_id := signal.topic_id
  reason := "proactive_signal"
  due_at := trigger.due_at
  planned_at := trigger.planned_at
  metadata := JsonObject.merge [("signal_kind", .str signal.kind)] bee_launch

/-- The trigger and the intent of a signal whose row is planned. -/
def launch_signal (updated : ProactiveSignalRecord) (session_id : String) :
    SignalAction ScheduledLaunchIntent := do
  let bee_launch ← lift
    (bee_launch_metadata planner.casefold "signal" updated.metadata)
  lift ((trigger_of pass updated bee_launch).post_init planner.casefold)
  let trigger ← planner.record_trigger pass (trigger_of pass updated bee_launch)
  let bee_launch ← lift
    (bee_launch_metadata planner.casefold "signal" updated.metadata)
  lift ((intent_of updated trigger session_id bee_launch).post_init planner.casefold)
  pure (intent_of updated trigger session_id bee_launch)

/-- The loop body of `plan_new_signals`: the intent, if there is one. -/
def plan_signal (signal : ProactiveSignalRecord) : SignalAction (Option ScheduledLaunchIntent) :=
  if cooling pass signal then do
    let _ ← planner.update_signal_status pass signal.signal_id .ignored signal.cooldown_until
      (signal.metadata.merge [("skip_reason", .str "cooldown")])
    pure none
  else do
    let session_id ← lift (required_signal_session signal)
    let updated ← planner.update_signal_status pass signal.signal_id .planned
      (some (pass.now + planner.cooldown))
      (signal.metadata.merge [("planned_reason", .str "proactive_signal")])
    let intent ← planner.launch_signal pass updated session_id
    pure (some intent)

/-- The loop of `plan_new_signals`. -/
def plan_signals : List ProactiveSignalRecord → List ScheduledLaunchIntent →
    SignalAction (List ScheduledLaunchIntent)
  | [], intents => pure intents
  | signal :: rest, intents =>
    if pass.max_signals ≤ intents.length then pure intents
    else do
      let planned ← planner.plan_signal pass signal
      plan_signals rest (intents ++ planned.toList)

def plan_new_signals : SignalAction (List ScheduledLaunchIntent) := do
  lift (raise_if (pass.max_signals ≤ 0) .ValueError "max_signals must be a positive int")
  let signals ← planner.list_signals pass .new pass.max_signals
  planner.plan_signals pass signals []

end SignalPlanner

/-! ## Runs -/

/-- A signal as it is recorded: new, and with its checks passed. -/
structure NewSignal (casefold : String → String) where
  record : ProactiveSignalRecord
  is_new : record.status = .new
  checked : record.post_init casefold = .ok ()

/-- `record_signal(record)`: a row with the same key stays as it is. -/
def SignalStore.record_signal (store : SignalStore) (record : ProactiveSignalRecord) : SignalStore :=
  match store.signals.first (fun _ row => row.dedupe_key = record.dedupe_key) with
  | some _ => store
  | none =>
    -- a second row under a signal id is refused by the primary key
    match store.signals.row record.signal_id with
    | some _ => store
    | none => store.put_signal record.signal_id record

inductive SignalStep (casefold : String → String) where
  | record_signal (signal : NewSignal casefold)
  | plan_new_signals (pass : SignalPass)

/-- The store, and what the passes so far returned. -/
structure SignalRun where
  store : SignalStore := {}
  returned : List (List ScheduledLaunchIntent) := []

/-- What a step makes of a run. -/
def SignalRun.next (planner : SignalPlanner) (run : SignalRun) :
    SignalStep planner.casefold → SignalRun
  | .record_signal signal => { run with store := run.store.record_signal signal.record }
  | .plan_new_signals pass =>
    match planner.plan_new_signals pass run.store with
    | (.ok intents, store) => { store, returned := run.returned ++ [intents] }
    | (.error _, store) => { run with store }

def SignalPlanner.run (planner : SignalPlanner) (steps : List (SignalStep planner.casefold)) :
    SignalRun :=
  steps.foldl (SignalRun.next planner) {}

end CodingAgentLoop
