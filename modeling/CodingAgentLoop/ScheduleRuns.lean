/-
Passes and edits that go on at once, and the due times they plan.

`Undisturbed` says of one event what has to hold for it to disturb no pass. In a run of such events
a due time that was planned is spent: the stored row has moved on from it, or the pass that planned
it still stands there. `Spent` is that invariant; everything else follows from what a single pass
asks and how it ends.
-/
import CodingAgentLoop.ScheduleOccurrences

namespace CodingAgentLoop

open Lib Crew Preserves ScheduleHost Table List Result

variable {host : ScheduleHost}

/-! ## Due times and what they come to -/

abbrev Occurrence : Type := String × Datetime

def ScheduleTriggerRecord.occurrence (record : ScheduleTriggerRecord) : Occurrence :=
  (record.schedule_id, record.due_at)

def planned_by : ScheduleEvent host → Option Occurrence
  | .answered _ _ _ (.record_trigger record) (.ok _) _ _ => some record.occurrence
  | _ => none

def planned (events : List (ScheduleEvent host)) : List Occurrence := events.filterMap planned_by

/-- The schedule a call of the store writes, and the due time it puts it at. -/
def ScheduleQuery.puts {casefold : String → String} :
    ScheduleQuery casefold → Option (String × Option Datetime)
  | .update_schedule_status schedule_id _ next_due_at _ _ _ => some (schedule_id, next_due_at)
  | .create_schedule schedule => some (schedule.record.schedule_id, schedule.record.next_due_at)
  | _ => none

def ScheduleCall.is_pass {casefold : String → String} : ScheduleCall casefold → Bool
  | .plan_due_schedules _ _ => true
  | _ => false

/-- A pass leaves a schedule that is paused or disabled as it is, and a schedule that is active at
a due time there, unless it planned that due time. -/
def PassLeaves (earlier : List (ScheduleEvent host)) (event : ScheduleEvent host) : Prop :=
  match event with
  | .answered _ call _ _ _ before after => call.is_pass = true → ∀ schedule_id row,
      before.schedules.row schedule_id = some row →
        (row.status = .paused ∨ row.status = .disabled →
          ∃ row', after.schedules.row schedule_id = some row' ∧ row'.status = row.status)
        ∧ ∀ due_at, row.status = .active → row.next_due_at = some due_at →
          (schedule_id, due_at) ∈ planned earlier
            ∨ ∃ row', after.schedules.row schedule_id = some row' ∧ row'.status = .active
                ∧ row'.next_due_at = some due_at
  | _ => True

/-- What the passes are to make of the schedules. -/
structure SchedulesKept (events : List (ScheduleEvent host)) (crew : ScheduleCrew host) : Prop where
  once : (planned events).Nodup
  returned : ∀ pid call history record trigger before after,
    .answered pid call history (.record_trigger record) (.ok trigger) before after ∈ events →
      ∃ caller, crew.callers pid = some caller ∧ (∀ error, caller.rest ≠ .fail error)
        ∧ ∀ intents, caller.rest = .done intents → ∃ intent ∈ intents, intent.Launches record
  left : Throughout PassLeaves events

/-! ## What disturbs a pass -/

/-- No other call stands between a trigger of the schedule and its update. -/
def NobodyElseAt (crew : ScheduleCrew host) (pid : Nat) (schedule_id : String) : Prop :=
  ∀ other caller, other ≠ pid → crew.callers other = some caller →
    ¬ StandsAt caller.history schedule_id

section

variable (earlier : List (ScheduleEvent host))

/-- The due time the call puts a schedule at was not planned, if it changes it. -/
def PutsAhead (before : ScheduleStore) (query : ScheduleQuery host.casefold) : Prop :=
  ∀ schedule_id due_at, query.puts = some (schedule_id, some due_at) →
    (schedule_id, due_at) ∈ planned earlier →
      ∃ row, before.schedules.row schedule_id = some row ∧ row.next_due_at = some due_at

/-- A call of a pass finds the schedule as it was listed: a trigger is recorded while the stored
due time is its own and nobody else stands at the schedule; an update finds it active at the due
time of the trigger, and puts it at one that was not planned. -/
def FindsAsListed (crew : ScheduleCrew host) (pid : Nat)
    (history : ScheduleHistory host) (before : ScheduleStore) :
    ScheduleQuery host.casefold → Prop
  | .record_trigger record =>
    (∃ row, before.schedules.row record.schedule_id = some row
      ∧ row.next_due_at = some record.due_at) ∧ NobodyElseAt crew pid record.schedule_id
  | .update_schedule_status schedule_id _ next_due_at _ _ _ =>
    (∃ row record trigger, before.schedules.row schedule_id = some row ∧ row.status = .active
      ∧ history.getLast? = some (recorded record trigger)
      ∧ row.next_due_at = some record.due_at)
    ∧ ∀ due_at, next_due_at = some due_at → (schedule_id, due_at) ∉ planned earlier
  | _ => True

/-- The event disturbs no pass: a call of a pass finds the schedule as it was listed and does not
fail once the pass has recorded a trigger; an edit puts no schedule back at a due time it was
planned for. -/
def Undisturbed (crew : ScheduleCrew host) :
    ScheduleEvent host → Prop
  | .answered pid call history query answer before _ =>
    if call.is_pass then
      (HasRecorded history → ∀ error, answer ≠ .error error)
        ∧ ((∀ error, answer ≠ .error error) → FindsAsListed earlier crew pid history before query)
    else PutsAhead earlier before query
  | _ => True

end

/-! ## What a call of the store leaves -/

section Store

variable {store : ScheduleStore}

section

variable (store : ScheduleStore)

theorem list_due_schedules_leaves (due_at_or_before : Datetime) (limit : Int) :
    (host.list_due_schedules due_at_or_before limit store).2 = store := by
  have hkept : Preserves (· = store) (host.list_due_schedules due_at_or_before limit) :=
    lift.seq (fun _ => Preserves.get.seq (fun _ => lift))
  exact Ensures.final hkept rfl

theorem record_trigger_leaves (record : ScheduleTriggerRecord) :
    (host.record_trigger record store).2.schedules = store.schedules := by
  have hkept : Preserves (fun after : ScheduleStore => after.schedules = store.schedules)
      (host.record_trigger record) := by
    unfold ScheduleHost.record_trigger
    refine seq (Preserves.modify (fun _ h => h)) (fun _ => ?_)
    exact lift.seq (fun _ => Preserves.pure)
  exact Ensures.final hkept rfl

def Puts (schedule_id : String) (next_due_at : Option Datetime) (after : ScheduleStore) : Prop :=
  ∃ row, row.next_due_at = next_due_at ∧ after.schedules = store.schedules.put schedule_id row

/-- An update writes the row, or leaves the store as it is; one that returns wrote it. -/
theorem update_puts (schedule_id : String) (status : ScheduleStatus)
    (next_due_at last_triggered_at : Option Datetime) (updated_at : Datetime)
    (metadata : JsonObject) :
    Ensures (· = store) (host.update_schedule_status schedule_id status next_due_at
        last_triggered_at updated_at metadata)
      (fun _ after => Puts store schedule_id next_due_at after)
      (fun after => after = store ∨ Puts store schedule_id next_due_at after) := by
  unfold ScheduleHost.update_schedule_status
  refine Ensures.bind (Q := fun _ after => after = store) ?_ (fun _ => ?_)
  · exact Ensures.lift (fun _ _ _ h => h) (fun _ _ _ h => .inl h)
  refine Ensures.bind (Q := fun _ after => after = store) ?_ (fun _ => ?_)
  · exact Ensures.lift (fun _ _ _ h => h) (fun _ _ _ h => .inl h)
  refine Ensures.bind (Ensures.get (Q := fun read after => read = store ∧ after = store)
    (fun _ h => ⟨h, h⟩)) (fun read => ?_)
  cases hrow : read.schedules.row schedule_id with
  | none => exact Ensures.lift (fun _ h => by cases h) (fun _ _ _ h => .inl h.2)
  | some row =>
    refine Ensures.bind (Ensures.modify (Q := fun _ after => Puts store schedule_id next_due_at after)
      ?_) (fun _ => Ensures.lift (fun _ _ _ h => h) (fun _ _ _ h => .inr h))
    rintro after ⟨-, rfl⟩
    exact ⟨_, rfl, rfl⟩

theorem create_puts (record : ScheduleRecord) :
    Puts store record.schedule_id record.next_due_at (host.create_schedule record store).2 := by
  have hputs : Ensures (· = store) (host.create_schedule record)
      (fun _ after => Puts store record.schedule_id record.next_due_at after)
      (fun after => Puts store record.schedule_id record.next_due_at after) := by
    unfold ScheduleHost.create_schedule
    refine Ensures.bind (Ensures.get (Q := fun _ after => after = store) (fun _ h => h))
      (fun read => ?_)
    refine Ensures.bind (Ensures.modify (Q := fun _ after =>
      Puts store record.schedule_id record.next_due_at after) ?_)
      (fun _ => Ensures.lift (fun _ _ _ h => h) (fun _ _ _ h => h))
    rintro after rfl
    let created_at := (read.schedules.row record.schedule_id).elim record.created_at (·.created_at)
    exact ⟨{ record with created_at }, rfl, rfl⟩
  exact Ensures.final hputs rfl

/-- A call of the store leaves a row as it is, or writes it with the due time it puts it at. -/
theorem act_rows (query : ScheduleQuery host.casefold) (schedule_id : String) :
    (host.act query store).2.schedules.row schedule_id = store.schedules.row schedule_id
      ∨ ∃ row, (host.act query store).2.schedules.row schedule_id = some row
          ∧ query.puts = some (schedule_id, row.next_due_at) := by
  have hwritten {other : String} {next_due_at : Option Datetime} {after : ScheduleStore}
      (h : Puts store other next_due_at after) :
      after.schedules.row schedule_id = store.schedules.row schedule_id
        ∨ ∃ row, after.schedules.row schedule_id = some row
            ∧ some (other, next_due_at) = some (schedule_id, row.next_due_at) := by
    obtain ⟨row, rfl, hafter⟩ := h
    rw [hafter]
    by_cases heq : schedule_id = other
    · subst heq
      exact .inr ⟨row, row_put_self _ _ _, rfl⟩
    · exact .inl (row_put_of_ne _ _ heq)
  cases query with
  | list_due_schedules due_at_or_before limit =>
    left
    show (host.list_due_schedules due_at_or_before limit store).2.schedules.row schedule_id = _
    rw [list_due_schedules_leaves]
  | record_trigger record =>
    left
    show (host.record_trigger record store).2.schedules.row schedule_id = _
    rw [record_trigger_leaves]
  | update_schedule_status other status next_due_at last_triggered_at updated_at metadata =>
    have hputs : Ensures (· = store) (host.update_schedule_status other status next_due_at
        last_triggered_at updated_at metadata) _ _ := update_puts store other status next_due_at
          last_triggered_at updated_at metadata
    have hfinal := Ensures.final (hputs.mono (fun _ h => h) (fun _ _ h => .inr h) (fun _ h => h)) rfl
    rcases hfinal with hsame | hput
    · left
      show (host.update_schedule_status other status next_due_at last_triggered_at updated_at
        metadata store).2.schedules.row schedule_id = _
      rw [hsame]
    · exact hwritten hput
  | create_schedule schedule => exact hwritten (create_puts store schedule.record)

end

theorem update_row {schedule_id : String} {status : ScheduleStatus}
    {next_due_at last_triggered_at : Option Datetime} {updated_at : Datetime}
    {metadata : JsonObject} {row : ScheduleRecord}
    (h : (host.update_schedule_status schedule_id status next_due_at last_triggered_at updated_at
      metadata store).1 = .ok row) :
    ∃ written, written.next_due_at = next_due_at
      ∧ (host.update_schedule_status schedule_id status next_due_at last_triggered_at updated_at
          metadata store).2.schedules.row schedule_id = some written := by
  obtain ⟨written, hdue, hafter⟩ := (update_puts store schedule_id status next_due_at
    last_triggered_at updated_at metadata store rfl).1 row h
  rw [hafter]
  exact ⟨written, hdue, row_put_self _ _ _⟩

theorem listed_checked {due_at_or_before : Datetime} {limit : Int} {rows : List ScheduleRecord}
    (h : (host.list_due_schedules due_at_or_before limit store).1 = .ok rows) :
    ∀ row ∈ rows, row.post_init host.casefold = .ok () := by
  have hchecked : Ensures (fun _ => True) (host.list_due_schedules due_at_or_before limit)
      (fun rows _ => ∀ row ∈ rows, row.post_init host.casefold = .ok ()) (fun _ => True) := by
    unfold ScheduleHost.list_due_schedules
    refine Ensures.bind Ensures.trivial (fun _ => Ensures.bind Ensures.trivial (fun read => ?_))
    refine Ensures.lift (fun rows hrows _ _ row hmem => ?_) (fun _ _ _ _ => trivial)
    obtain ⟨stored, -, hread⟩ := exists_of_mem_mapM hrows hmem
    unfold schedule_from_row at hread
    rw [check_bind_eq_ok, pure_eq_ok] at hread
    obtain ⟨hread, rfl⟩ := hread
    exact hread
  exact (hchecked store trivial).1 rows h

theorem recorded_same {record trigger : ScheduleTriggerRecord}
    (h : (host.record_trigger record store).1 = .ok trigger) : trigger = record := by
  have hsame : Ensures (fun _ => True) (host.record_trigger record)
      (fun trigger _ => trigger = record) (fun _ => True) := by
    unfold ScheduleHost.record_trigger
    exact Ensures.bind Ensures.trivial (fun _ => Ensures.bind Ensures.trivial
      (fun _ => Ensures.pure (fun _ _ => rfl)))
  exact (hsame store trivial).1 trigger h

end Store

/-! ## What the calls ask, how they end, and what they were told -/

def CallAsks (call : ScheduleCall host.casefold) (history : ScheduleHistory host)
    (query : ScheduleQuery host.casefold) : Prop :=
  if call.is_pass then PassAsks history query else history = [] ∧ query.puts.isSome

def CallEnds (call : ScheduleCall host.casefold) (history : ScheduleHistory host)
    (result : Except StoreError (List ScheduledLaunchIntent)) : Prop :=
  call.is_pass = true → PassEnds history result

theorem meets_body (hfolds : FoldsLabels host.casefold) (call : ScheduleCall host.casefold) :
    Dialogue.Meets (fun _ _ _ => True) (CallAsks call) (CallEnds call)
      (ScheduleCall.body host call) [] := by
  have hedit {query : ScheduleQuery host.casefold} (hputs : query.puts.isSome)
      (hcall : call.is_pass = false) :
      Dialogue.Meets (fun _ _ _ => True) (CallAsks call) (CallEnds call)
        (host.call query >>= fun _ => (pure [] : ScheduleDialogue host (List ScheduledLaunchIntent)))
        [] := by
    have hends (history : ScheduleHistory host)
        (result : Except StoreError (List ScheduledLaunchIntent)) : CallEnds call history result := by
      intro hpass
      rw [hcall] at hpass
      cases hpass
    refine ⟨?_, fun answer _ => ?_⟩
    · unfold CallAsks
      rw [hcall]
      exact ⟨rfl, hputs⟩
    · cases answer with
      | ok value => exact hends _ _
      | error error => exact hends _ _
  cases call with
  | plan_due_schedules now max_due =>
    exact ((meets_pass hfolds now max_due).guard_imp (fun _ _ h => h)).imp (fun _ _ h _ => h)
  | create_schedule schedule => exact hedit rfl rfl
  | update_schedule_status schedule_id status next_due_at last_triggered_at updated_at metadata =>
    exact hedit rfl rfl

/-- Triggers are recorded as they are, and listed rows passed their checks. -/
def TellsTruly (told : ScheduleTold host) : Prop :=
  (∀ record trigger, told = recorded record trigger → trigger = record)
    ∧ ∀ due_at_or_before limit rows, told = listed due_at_or_before limit rows →
      ∀ row ∈ rows, row.post_init host.casefold = .ok ()

variable {query : ScheduleQuery host.casefold} {store after : ScheduleStore}

theorem answers_truly {answer : query.Answer} (h : host.Answers store query answer after) :
    TellsTruly ⟨query, answer⟩ := by
  constructor
  · intro record trigger htold
    obtain ⟨rfl, hanswer⟩ := Sigma.mk.inj htold
    cases h with
    | reached => exact recorded_same (eq_of_heq hanswer)
    | failed error => cases eq_of_heq hanswer
  · intro due_at_or_before limit rows htold
    obtain ⟨rfl, hanswer⟩ := Sigma.mk.inj htold
    cases h with
    | reached => exact listed_checked (eq_of_heq hanswer)
    | failed error => cases eq_of_heq hanswer

/-! ## Due times that are spent -/

/-- The stored row is no longer at the due time, or a pass stands between the trigger and the
update. -/
def Spent (crew : ScheduleCrew host) (schedule_id : String) (due_at : Datetime) : Prop :=
  (∃ row, crew.shared.schedules.row schedule_id = some row ∧ row.next_due_at ≠ some due_at)
    ∨ ∃ pid caller, crew.callers pid = some caller ∧ StandsAt caller.history schedule_id

/-- What holds of the passes of a run nothing disturbs. -/
structure PassesKept (earlier : List (ScheduleEvent host)) (crew : ScheduleCrew host) : Prop where
  once : (planned earlier).Nodup
  spent : ∀ schedule_id due_at, (schedule_id, due_at) ∈ planned earlier →
    Spent crew schedule_id due_at
  quiet : ∀ pid caller, crew.callers pid = some caller → HasRecorded caller.history →
    ∀ told, caller.history.getLast? = some told → ¬ TellsFailure told
  follows : Follows CallAsks CallEnds crew
  told : Remembers (fun _ query answer => TellsTruly ⟨query, answer⟩) crew
  left : Throughout PassLeaves earlier

theorem planned_snoc (earlier : List (ScheduleEvent host)) (event : ScheduleEvent host) :
    planned (earlier ++ [event]) = planned earlier ++ (planned_by event).toList := by
  unfold planned
  rw [filterMap_append]
  cases hplanned : planned_by event with
  | none => simp [hplanned]
  | some occurrence => simp [hplanned]

variable {history : ScheduleHistory host}

theorem StandsAt.has_recorded {schedule_id : String} (h : StandsAt history schedule_id) :
    HasRecorded history := by
  obtain ⟨record, trigger, hlast, -⟩ := h
  exact ⟨record, trigger, List.mem_of_getLast? hlast⟩

theorem answers_ok {value : query.Value} (h : host.Answers store query (.ok value) after) :
    (host.act query store).1 = .ok value ∧ (host.act query store).2 = after := by
  have hcases {answer : query.Answer} (h : host.Answers store query answer after) :
      ((host.act query store).1 = answer ∧ (host.act query store).2 = after)
        ∨ ∃ error, answer = .error error := by
    cases h with
    | reached => exact .inl ⟨rfl, rfl⟩
    | failed error => exact .inr ⟨error, rfl⟩
  rcases hcases h with hreached | ⟨error, herror⟩
  · exact hreached
  · cases herror

theorem answers_rows {answer : query.Answer} (h : host.Answers store query answer after)
    (schedule_id : String) :
    after.schedules.row schedule_id = store.schedules.row schedule_id
      ∨ ∃ row, after.schedules.row schedule_id = some row
          ∧ query.puts = some (schedule_id, row.next_due_at) := by
  cases h with
  | reached => exact act_rows store query schedule_id
  | failed error => exact .inl rfl

section Answered

variable {earlier : List (ScheduleEvent host)} {crew crew' : ScheduleCrew host} {pid : Nat}
  {call : ScheduleCall host.casefold} {history : ScheduleHistory host}
  {query : ScheduleQuery host.casefold} {answer : query.Answer} {before after : ScheduleStore}

variable {due_at : Datetime} {schedule_id : String}

/-- A due time stays spent when its row does not come back to it and the call does not stand
there. -/
theorem Spent.keep (h : Spent crew schedule_id due_at)
    (hstep : ScheduleStep host crew (.answered pid call history query answer before after) crew')
    (hrow : ∀ row, before.schedules.row schedule_id = some row → row.next_due_at ≠ some due_at →
      ∃ row, after.schedules.row schedule_id = some row ∧ row.next_due_at ≠ some due_at)
    (hnowhere : ¬ StandsAt history schedule_id) : Spent crew' schedule_id due_at := by
  cases hstep with
  | answered waiting _ =>
    rcases h with ⟨row, hbefore, hdue⟩ | ⟨other, caller, hcaller, hstands⟩
    · exact .inl (hrow row hbefore hdue)
    · have hne : other ≠ pid := by
        rintro rfl
        rw [waiting] at hcaller
        cases hcaller
        exact hnowhere hstands
      refine .inr ⟨other, caller, ?_, hstands⟩
      rw [resumed_callers, if_neg hne]
      exact hcaller

theorem not_spent {record : ScheduleTriggerRecord}
    {answer : (ScheduleQuery.record_trigger record : ScheduleQuery host.casefold).Answer}
    (hstep : ScheduleStep host crew
      (.answered pid call history (.record_trigger record) answer before after) crew')
    (hfinds : FindsAsListed earlier crew pid history before (.record_trigger record))
    (hnowhere : ∀ schedule_id, ¬ StandsAt history schedule_id) :
    ¬ Spent crew record.schedule_id record.due_at := by
  obtain ⟨⟨row, hrow, hdue⟩, hnobody⟩ := hfinds
  cases hstep with
  | answered waiting _ =>
    rintro (⟨other, hother, hmoved⟩ | ⟨other, caller, hcaller, hstands⟩)
    · rw [hrow] at hother
      cases hother
      exact hmoved hdue
    · by_cases heq : other = pid
      · subst heq
        rw [waiting] at hcaller
        cases hcaller
        exact hnowhere _ hstands
      · exact hnobody other caller heq hcaller hstands

section

variable (h : Spent crew schedule_id due_at)
  (hstep : ScheduleStep host crew (.answered pid call history query answer before after) crew')

include h hstep

theorem Spent.untouched (hputs : ∀ next_due_at, query.puts ≠ some (schedule_id, next_due_at))
    (hnowhere : ¬ StandsAt history schedule_id) : Spent crew' schedule_id due_at := by
  refine h.keep hstep (fun row hrow hdue => ⟨row, ?_, hdue⟩) hnowhere
  cases hstep with
  | answered _ hanswered =>
    rcases answers_rows hanswered schedule_id with hsame | ⟨row', -, hput⟩
    · rw [hsame, hrow]
    · exact absurd hput (hputs _)

theorem Spent.edited
    (hahead : PutsAhead earlier before query) (hplanned : (schedule_id, due_at) ∈ planned earlier)
    (hnowhere : ¬ StandsAt history schedule_id) : Spent crew' schedule_id due_at := by
  refine h.keep hstep (fun row hrow hdue => ?_) hnowhere
  cases hstep with
  | answered _ hanswered =>
    rcases answers_rows hanswered schedule_id with hsame | ⟨row', hrow', hput⟩
    · exact ⟨row, hsame.trans hrow, hdue⟩
    · refine ⟨row', hrow', fun hback => ?_⟩
      rw [hback] at hput
      obtain ⟨other, hother, hthere⟩ := hahead schedule_id due_at hput hplanned
      rw [hrow] at hother
      cases hother
      exact hdue hthere

end

theorem Spent.advanced {schedule_id other : String} {status : ScheduleStatus}
    {next_due_at last_triggered_at : Option Datetime} {updated_at : Datetime}
    {metadata : JsonObject} {row : ScheduleRecord} (h : Spent crew other due_at)
    (hstep : ScheduleStep host crew (.answered pid call history
      (.update_schedule_status schedule_id status next_due_at last_triggered_at updated_at metadata)
      (.ok row) before after) crew') (hstands : StandsAt history schedule_id)
    (hahead : ∀ due_at, next_due_at = some due_at → (schedule_id, due_at) ∉ planned earlier)
    (hplanned : (other, due_at) ∈ planned earlier) : Spent crew' other due_at := by
  by_cases heq : other = schedule_id
  · subst heq
    cases hstep with
    | answered _ hanswered =>
      obtain ⟨hreturned, rfl⟩ := answers_ok hanswered
      obtain ⟨written, hdue, hrow⟩ := update_row hreturned
      refine .inl ⟨written, hrow, fun hback => ?_⟩
      exact hahead due_at (hdue.symm.trans hback) hplanned
  · refine h.untouched hstep (fun next hput => ?_) (fun hother => ?_)
    · obtain ⟨hsame, -⟩ := Prod.mk.inj (Option.some.inj hput)
      exact heq hsame.symm
    · obtain ⟨record, trigger, hlast, hid⟩ := hstands
      obtain ⟨record', trigger', hlast', hid'⟩ := hother
      rw [hlast] at hlast'
      cases hlast'
      exact heq (hid'.symm.trans hid)

end Answered

/-! ## One step -/

section Step

variable {earlier : List (ScheduleEvent host)} {crew crew' : ScheduleCrew host}
  {event : ScheduleEvent host} {pid : Nat} {call : ScheduleCall host.casefold}
  {history : ScheduleHistory host} {query : ScheduleQuery host.casefold} {answer : query.Answer}
  {before after : ScheduleStore}

section

variable (h : PassesKept earlier crew)
  (hstep : ScheduleStep host crew (.answered pid call history query answer before after) crew')

include h hstep

theorem pass_asks (hpass : call.is_pass = true) : PassAsks history query := by
  have hasks := h.follows.asked hstep
  unfold CallAsks at hasks
  rwa [if_pos hpass] at hasks

theorem edit_asks (hedit : ¬ call.is_pass = true) : history = [] ∧ query.puts.isSome := by
  have hasks := h.follows.asked hstep
  unfold CallAsks at hasks
  rwa [if_neg hedit] at hasks

end

theorem nowhere_at_start (schedule_id : String) :
    ¬ StandsAt ([] : ScheduleHistory host) schedule_id := by
  rintro ⟨record, trigger, hlast, -⟩
  cases hlast

theorem planned_by_write (hputs : query.puts.isSome) :
    planned_by (.answered pid call history query answer before after) = none := by
  cases query with
  | record_trigger record => cases hputs
  | list_due_schedules due_at_or_before limit => rfl
  | update_schedule_status schedule_id status next_due_at last_triggered_at updated_at metadata => rfl
  | create_schedule schedule => rfl

section

variable (h : PassesKept earlier crew)
  (hok : Undisturbed earlier crew (.answered pid call history query answer before after))
  (hstep : ScheduleStep host crew (.answered pid call history query answer before after) crew')

include h hok hstep

theorem spent_edit (hedit : ¬ call.is_pass = true) (schedule_id : String) (due_at : Datetime)
    (hmem : (schedule_id, due_at) ∈
      planned (earlier ++ [.answered pid call history query answer before after])) :
    Spent crew' schedule_id due_at := by
  obtain ⟨rfl, hputs⟩ := edit_asks h hstep hedit
  simp only [Undisturbed, if_neg hedit] at hok
  rw [planned_snoc, planned_by_write hputs, Option.toList_none, append_nil] at hmem
  exact (h.spent schedule_id due_at hmem).edited hstep hok hmem (nowhere_at_start schedule_id)

theorem spent_pass (hpass : call.is_pass = true) (schedule_id : String) (due_at : Datetime)
    (hmem : (schedule_id, due_at) ∈
      planned (earlier ++ [.answered pid call history query answer before after])) :
    Spent crew' schedule_id due_at := by
  have hasks := pass_asks h hstep hpass
  simp only [Undisturbed, if_pos hpass] at hok
  obtain ⟨hreaches, hfinds⟩ := hok
  rw [planned_snoc] at hmem
  cases query with
  | create_schedule schedule => exact hasks.elim
  | list_due_schedules due_at_or_before limit =>
    have hold : (schedule_id, due_at) ∈ planned earlier := by simpa [planned_by] using hmem
    exact (h.spent schedule_id due_at hold).untouched hstep (fun _ hput => by cases hput)
      (hasks schedule_id)
  | record_trigger record =>
    have hkept (hold : (schedule_id, due_at) ∈ planned earlier) : Spent crew' schedule_id due_at :=
      (h.spent schedule_id due_at hold).untouched hstep (fun _ hput => by cases hput)
        (hasks schedule_id)
    cases answer with
    | error error => exact hkept (by simpa [planned_by] using hmem)
    | ok trigger =>
      rcases mem_append.mp hmem with hold | hnew
      · exact hkept hold
      · -- the pass stands at the due time it just planned
        have hrecord : (schedule_id, due_at) = record.occurrence := by
          simpa [planned_by] using hnew
        obtain ⟨rfl, rfl⟩ := Prod.mk.inj hrecord
        cases hstep with
        | @answered _ _ _ _ resume _ _ waiting _ =>
          refine .inr ⟨pid, ⟨call, resume (.ok trigger), history ++ [recorded record trigger]⟩,
            ?_, record, trigger, List.getLast?_concat, rfl⟩
          rw [resumed_callers, if_pos rfl]
          rfl
  | update_schedule_status other status next_due_at last_triggered_at updated_at metadata =>
    have hold : (schedule_id, due_at) ∈ planned earlier := by simpa [planned_by] using hmem
    obtain ⟨-, hstands⟩ := hasks
    cases answer with
    | error error => exact absurd rfl (hreaches hstands.has_recorded error)
    | ok row =>
      obtain ⟨-, hahead⟩ := hfinds (hreaches hstands.has_recorded)
      exact (h.spent schedule_id due_at hold).advanced hstep hstands hahead hold

end

section

variable (h : PassesKept earlier crew) (hok : Undisturbed earlier crew event)
  (hstep : ScheduleStep host crew event crew')

include h hok hstep

/-- **What was planned stays spent.** -/
theorem spent_step (schedule_id : String) (due_at : Datetime)
    (hmem : (schedule_id, due_at) ∈ planned (earlier ++ [event])) :
    Spent crew' schedule_id due_at := by
  cases event with
  | started pid call =>
    have hold : (schedule_id, due_at) ∈ planned earlier := by
      simpa [planned_snoc, planned_by] using hmem
    have hspent := h.spent schedule_id due_at hold
    cases hstep with
    | started free =>
      refine hspent.imp (fun hrow => hrow) ?_
      rintro ⟨other, caller, hcaller, hstands⟩
      have hne : other ≠ pid := by
        rintro rfl
        rw [free] at hcaller
        cases hcaller
      refine ⟨other, caller, ?_, hstands⟩
      rw [resumed_callers, if_neg hne]
      exact hcaller
  | answered pid call history query answer before after =>
    by_cases hpass : call.is_pass = true
    · exact spent_pass h hok hstep hpass schedule_id due_at hmem
    · exact spent_edit h hok hstep hpass schedule_id due_at hmem
  | elsewhere before after =>
    cases hstep with
    | elsewhere moved => exact moved.elim

/-- **No due time is planned again.** -/
theorem once_step : (planned (earlier ++ [event])).Nodup := by
  rw [planned_snoc]
  cases hplanned : planned_by event with
  | none =>
    rw [Option.toList_none, append_nil]
    exact h.once
  | some occurrence =>
    rw [Option.toList_some, nodup_append_comm, singleton_append, nodup_cons]
    refine ⟨fun hmem => ?_, h.once⟩
    cases event with
    | started pid call => cases hplanned
    | elsewhere before after => cases hplanned
    | answered pid call history query answer before after =>
      have hpass : call.is_pass = true := by
        by_contra hedit
        rw [planned_by_write (edit_asks h hstep hedit).2] at hplanned
        cases hplanned
      have hasks := pass_asks h hstep hpass
      simp only [Undisturbed, if_pos hpass] at hok
      cases query with
      | list_due_schedules due_at_or_before limit => cases hplanned
      | create_schedule schedule => cases hplanned
      | update_schedule_status other status next_due_at last_triggered_at updated_at metadata =>
        cases hplanned
      | record_trigger record =>
        cases answer with
        | error error => cases hplanned
        | ok trigger =>
          cases hplanned
          have hfinds := hok.2 (fun error herror => by cases herror)
          exact not_spent hstep hfinds hasks (h.spent _ _ hmem)

/-- **A pass that recorded a trigger is not told of a failure.** -/
theorem quiet_step {other : Nat}
    {caller : Caller (ScheduleCall host.casefold) (ScheduleQuery host.casefold)
      ScheduleQuery.Answer StoreError (List ScheduledLaunchIntent)}
    (hcaller : crew'.callers other = some caller) (hrecorded : HasRecorded caller.history)
    {told : ScheduleTold host} (hlast : caller.history.getLast? = some told) :
    ¬ TellsFailure told := by
  cases hstep with
  | elsewhere moved => exact moved.elim
  | started free =>
    rw [resumed_callers] at hcaller
    split at hcaller
    · cases hcaller
      cases hlast
    · exact h.quiet other caller hcaller hrecorded told hlast
  | @answered pid call history query resume answer shared waiting answered =>
    rw [resumed_callers] at hcaller
    split at hcaller
    · cases hcaller
      rw [List.getLast?_concat] at hlast
      cases hlast
      rintro ⟨error, herror⟩
      have herror : answer = .error error := herror
      obtain ⟨record, trigger, hmem⟩ := hrecorded
      rcases mem_snoc hmem with hold | hnew
      · by_cases hpass : call.is_pass = true
        · simp only [Undisturbed, if_pos hpass] at hok
          exact hok.1 ⟨record, trigger, hold⟩ error herror
        · have hempty := (edit_asks h (.answered waiting answered) hpass).1
          rw [hempty] at hold
          cases hold
      · obtain ⟨rfl, hanswer⟩ := Sigma.mk.inj hnew
        rw [← eq_of_heq hanswer] at herror
        cases herror
    · exact h.quiet other caller hcaller hrecorded told hlast

end

variable {start : ScheduleCrew host}

theorem recorded_planned (hidle : start.Idle) (hrun : Run (ScheduleStep host) start earlier crew)
    {caller : Caller (ScheduleCall host.casefold) (ScheduleQuery host.casefold)
      ScheduleQuery.Answer StoreError (List ScheduledLaunchIntent)}
    (hcaller : crew.callers pid = some caller) {record trigger : ScheduleTriggerRecord}
    (hmem : recorded record trigger ∈ caller.history) : record.occurrence ∈ planned earlier := by
  obtain ⟨told, before, after, hevent⟩ := heard hidle hrun pid caller _ hcaller hmem
  exact mem_filterMap.mpr ⟨_, hevent, rfl⟩

/-- **A pass leaves what is paused, and what is due until it planned it.** -/
theorem left_step (hidle : start.Idle) (hrun : Run (ScheduleStep host) start earlier crew)
    (h : PassesKept earlier crew) (hok : Undisturbed earlier crew event)
    (hstep : ScheduleStep host crew event crew') :
    PassLeaves earlier event := by
  cases event with
  | started pid call => exact trivial
  | elsewhere before after => exact trivial
  | answered pid call history query answer before after =>
    intro hpass schedule_id row hrow
    have hasks := pass_asks h hstep hpass
    simp only [Undisturbed, if_pos hpass] at hok
    cases hstep with
    | answered waiting hanswered =>
      rcases answers_rows hanswered schedule_id with hsame | ⟨written, -, hput⟩
      · rw [← hsame] at hrow
        exact ⟨fun _ => ⟨row, hrow, rfl⟩, fun due_at hactive hdue =>
          .inr ⟨row, hrow, hactive, hdue⟩⟩
      · -- the one query of a pass that writes a row is its update
        cases query with
        | list_due_schedules due_at_or_before limit => cases hput
        | record_trigger record => cases hput
        | create_schedule schedule => exact hasks.elim
        | update_schedule_status other status next_due_at last_triggered_at updated_at metadata =>
          obtain ⟨rfl, -⟩ := Prod.mk.inj (Option.some.inj hput)
          obtain ⟨-, hstands⟩ := hasks
          obtain ⟨⟨stored, record, trigger, hstored, hactive, hlast, hdue⟩, -⟩ :=
            hok.2 (hok.1 hstands.has_recorded)
          rw [hrow] at hstored
          cases hstored
          refine ⟨?_, fun due_at _ hrow_due => .inl ?_⟩
          · rw [hactive]
            rintro (hpaused | hdisabled)
            · cases hpaused
            · cases hdisabled
          · obtain ⟨record', trigger', hlast', hid⟩ := hstands
            rw [hlast] at hlast'
            cases hlast'
            have hplanned := recorded_planned hidle hrun waiting (List.mem_of_getLast? hlast)
            rw [hdue] at hrow_due
            cases hrow_due
            rw [← hid]
            exact hplanned

theorem kept_step (hfolds : FoldsLabels host.casefold) (hidle : start.Idle)
    (hrun : Run (ScheduleStep host) start earlier crew) (h : PassesKept earlier crew)
    (hok : Undisturbed earlier crew event) (hstep : ScheduleStep host crew event crew') :
    PassesKept (earlier ++ [event]) crew' where
  once := once_step h hok hstep
  spent := spent_step h hok hstep
  quiet := fun _ _ hcaller hrecorded _ hlast => quiet_step h hok hstep hcaller hrecorded hlast
  follows := h.follows.step (meets_body hfolds) hstep
  told := by
    refine h.told.step ?_ (fun _ _ _ _ _ htold => htold) hstep
    rintro pid call history query answer before after rfl
    cases hstep with
    | answered _ hanswered => exact answers_truly hanswered
  left := h.left.snoc (left_step hidle hrun h hok hstep)

end Step

/-! ## Every run -/

abbrev UndisturbedRun (host : ScheduleHost) :
    ScheduleCrew host → List (ScheduleEvent host) → ScheduleCrew host → Prop :=
  RunWhere (ScheduleStep host) Undisturbed

section Runs

variable {start crew : ScheduleCrew host} {events : List (ScheduleEvent host)}

theorem passes_kept (hfolds : FoldsLabels host.casefold) (hidle : start.Idle)
    (hrun : UndisturbedRun host start events crew) : PassesKept events crew := by
  refine hrun.history ?_ (fun _ _ _ _ hbefore h hok hstep =>
    kept_step hfolds hidle hbefore h hok hstep)
  refine { once := nodup_nil, spent := ?_, quiet := ?_, follows := hidle.follows,
           told := hidle.remembers, left := .nil }
  · intro schedule_id due_at hmem
    cases hmem
  · intro pid caller hcaller
    rw [hidle pid] at hcaller
    cases hcaller

/-- A trigger that was recorded has its intent when its pass is over, and its pass does not fail. -/
theorem recorded_returned (h : PassesKept events crew) (hrun : Run (ScheduleStep host) start events crew)
    {pid : Nat} {call : ScheduleCall host.casefold} {history : ScheduleHistory host}
    {record trigger : ScheduleTriggerRecord} {before after : ScheduleStore}
    (hcall : call.is_pass = true)
    (hmem : .answered pid call history (.record_trigger record) (.ok trigger) before after ∈ events) :
    ∃ caller, crew.callers pid = some caller ∧ (∀ error, caller.rest ≠ .fail error)
      ∧ ∀ intents, caller.rest = .done intents → ∃ intent ∈ intents, intent.Launches record := by
  obtain ⟨caller, hcaller, hsame, hhistory⟩ := stays hrun _ _ _ _ _ _ _ hmem
  have hrecorded : recorded record trigger ∈ caller.history :=
    hhistory.subset (mem_append_right _ (mem_singleton_self _))
  have hfollows := h.follows pid caller hcaller
  have htold := h.told pid caller hcaller
  have htrigger : trigger = record := (htold _ hrecorded).1 record trigger rfl
  rw [← hsame] at hcall
  refine ⟨caller, hcaller, fun error hfail => ?_, fun intents hdone => ?_⟩
  · rw [hfail] at hfollows
    rcases hfollows hcall with hnone | ⟨told, hlast, hfailed⟩ | ⟨schedule, hlisted, hunchecked⟩
      | ⟨other, given, hother, hdiffers⟩
    · exact hnone ⟨record, trigger, hrecorded⟩
    · exact h.quiet pid caller hcaller ⟨record, trigger, hrecorded⟩ told hlast hfailed
    · obtain ⟨due_at_or_before, limit, rows, hrows, hrow⟩ := hlisted
      exact hunchecked ((htold _ hrows).2 due_at_or_before limit rows rfl schedule hrow)
    · exact hdiffers ((htold _ hother).1 other given rfl)
  · rw [hdone] at hfollows
    obtain ⟨intent, hintent, hlaunches⟩ := hfollows hcall record trigger hrecorded htrigger
    rw [htrigger] at hlaunches
    exact ⟨intent, hintent, hlaunches⟩

/-- **Each due time is planned once, and no edit is lost**, in every run nothing disturbs. -/
theorem due_times_planned_once (hfolds : FoldsLabels host.casefold) (hidle : start.Idle)
    (hrun : UndisturbedRun host start events crew) : SchedulesKept events crew := by
  have h := passes_kept hfolds hidle hrun
  refine ⟨h.once, ?_, h.left⟩
  intro pid call history record trigger before after hmem
  have hbody : Guarantees (ScheduleCall.body host) CallAsks :=
    fun call => (meets_body hfolds call).imp (fun _ _ _ => trivial)
  have hasks := Crew.asked hbody hidle hrun.run _ _ _ _ _ _ _ hmem
  unfold CallAsks at hasks
  have hcall : call.is_pass = true := by
    by_contra hedit
    rw [if_neg hedit] at hasks
    cases hasks.2
  exact recorded_returned h hrun.run hcall hmem

end Runs

/-! ### A pass that nothing disturbs, and three that are disturbed -/

theorem launch_asks (hfolds : FoldsLabels host.casefold) {schedule : ScheduleRecord}
    (h : schedule.post_init host.casefold = .ok ()) (now due_at : Datetime) :
    ∃ resume, host.launch_schedule now schedule due_at
        = .ask (.record_trigger (host.due_trigger schedule due_at now (schedule_launch host schedule)))
            resume
      ∧ ∀ trigger, ∃ resume', resume (.ok trigger) = .ask (host.advance schedule now) resume' := by
  have hlift {α β : Type} (a : α) (next : α → ScheduleDialogue host β) :
      (Dialogue.lift (.ok a) >>= next) = next a := rfl
  unfold launch_schedule
  rw [(schedule_launch_ok h).1, hlift, due_trigger_ok hfolds h, hlift]
  exact ⟨_, rfl, fun trigger => ⟨_, rfl⟩⟩

def sample_schedule_host : ScheduleHost where
  casefold := id
  collate := fun text other => text ≤ other
  isoformat := fun now =>
    if now = 0 then "1970-01-01T00:00:00+00:00" else "1970-01-01T00:00:01+00:00"

def sample_schedule : ScheduleRecord where
  schedule_id := "s"
  session_id := "session"
  kind := "report"
  status := .active
  cadence := "hourly"
  created_at := 0
  updated_at := 0
  next_due_at := some 0

def sample_schedule_crew : ScheduleCrew sample_schedule_host where
  shared := { schedules := (∅ : Table String ScheduleRecord).put "s" sample_schedule }
  callers := fun _ => none

def schedule_reply (given : Option StoreError) (store : ScheduleStore)
    (query : ScheduleQuery sample_schedule_host.casefold) : query.Answer × ScheduleStore :=
  match given with
  | none => sample_schedule_host.act query store
  | some error => (.error error, store)

abbrev ScheduleInput : Type :=
  Input (ScheduleCall sample_schedule_host.casefold) (Option StoreError)

abbrev play_schedules (script : List ScheduleInput) :
    List (ScheduleEvent sample_schedule_host) × ScheduleCrew sample_schedule_host :=
  Crew.play (ScheduleCall.body sample_schedule_host) schedule_reply sample_schedule_crew script

/-- Two passes, a second apart, that list before either updates. -/
def overlapping_passes : List ScheduleInput :=
  [.start 0 (.plan_due_schedules 0 5), .start 1 (.plan_due_schedules 1000000 5),
   .access 0 none, .access 1 none, .access 0 none, .access 1 none, .access 0 none, .access 1 none]

def paused_schedule : List ScheduleInput :=
  [.start 0 (.plan_due_schedules 0 5), .access 0 none,
   .start 1 (.update_schedule_status "s" .paused (some 0) none 0 []), .access 1 none,
   .access 0 none, .access 0 none]

def failed_update : List ScheduleInput :=
  [.start 0 (.plan_due_schedules 0 5), .access 0 none, .access 0 none,
   .access 0 (some (.raised .OSError "connection reset"))]

theorem sample_schedule_checked : sample_schedule.post_init id = .ok () := by decide +kernel

theorem sample_listed : sample_schedule_host.Answers sample_schedule_crew.shared
    (.list_due_schedules 0 5) (.ok [sample_schedule]) sample_schedule_crew.shared := by
  have hreached : sample_schedule_host.Answers sample_schedule_crew.shared
      (.list_due_schedules 0 5)
      (sample_schedule_host.list_due_schedules 0 5 sample_schedule_crew.shared).1
      (sample_schedule_host.list_due_schedules 0 5 sample_schedule_crew.shared).2 := .reached
  have hrows : (sample_schedule_host.list_due_schedules 0 5 sample_schedule_crew.shared).1
      = .ok [sample_schedule] := by decide +kernel
  rw [hrows, list_due_schedules_leaves] at hreached
  exact hreached

theorem undisturbed_answer {start crew : ScheduleCrew host} {events : List (ScheduleEvent host)}
    {pid : Nat} {call : ScheduleCall host.casefold}
    {rest : ScheduleDialogue host (List ScheduledLaunchIntent)}
    {resume : query.Answer → ScheduleDialogue host (List ScheduledLaunchIntent)}
    {answer : query.Answer}
    (hrun : UndisturbedRun host start events (crew.resumed pid ⟨call, rest, history⟩ store))
    (hrest : rest = .ask query resume)
    (hok : Undisturbed events (crew.resumed pid ⟨call, rest, history⟩ store)
      (.answered pid call history query answer store after))
    (hanswers : host.Answers store query answer after) :
    UndisturbedRun host start (events ++ [.answered pid call history query answer store after])
      ((crew.resumed pid ⟨call, rest, history⟩ store).resumed pid
        ⟨call, resume answer, history ++ [⟨query, answer⟩]⟩ after) := by
  subst hrest
  have hwaiting := resumed_callers crew pid pid ⟨call, .ask query resume, history⟩ store
  rw [if_pos rfl] at hwaiting
  exact hrun.snoc hok (.answered hwaiting hanswers)

theorem undisturbed_reached {crew : ScheduleCrew host} {events : List (ScheduleEvent host)}
    {pid : Nat} {call : ScheduleCall host.casefold} {value : query.Value}
    (hpass : call.is_pass = true) (hfinds : FindsAsListed events crew pid history store query) :
    Undisturbed events crew (.answered pid call history query (.ok value) store after) := by
  have hreturns (error : StoreError) :
      (Except.ok value : Except StoreError query.Value) ≠ .error error := by
    intro herror
    cases herror
  simp only [Undisturbed, if_pos hpass]
  exact ⟨fun _ => hreturns, fun _ => hfinds⟩

def sample_trigger : ScheduleTriggerRecord :=
  sample_schedule_host.due_trigger sample_schedule 0 0
    (schedule_launch sample_schedule_host sample_schedule)

theorem sample_recorded : sample_schedule_host.Answers sample_schedule_crew.shared
    (.record_trigger sample_trigger) (.ok sample_trigger)
    (sample_schedule_host.record_trigger sample_trigger sample_schedule_crew.shared).2 := by
  have hreached : sample_schedule_host.Answers sample_schedule_crew.shared
      (.record_trigger sample_trigger)
      (sample_schedule_host.record_trigger sample_trigger sample_schedule_crew.shared).1
      (sample_schedule_host.record_trigger sample_trigger sample_schedule_crew.shared).2 := .reached
  have hrecord : (sample_schedule_host.record_trigger sample_trigger
      sample_schedule_crew.shared).1 = .ok sample_trigger := by decide +kernel
  rw [hrecord] at hreached
  exact hreached

theorem NobodyElseAt.resumed {crew : ScheduleCrew host} {pid : Nat} {schedule_id : String}
    (h : NobodyElseAt crew pid schedule_id)
    (caller : Caller (ScheduleCall host.casefold) (ScheduleQuery host.casefold)
      ScheduleQuery.Answer StoreError (List ScheduledLaunchIntent)) (store : ScheduleStore) :
    NobodyElseAt (crew.resumed pid caller store) pid schedule_id := by
  intro other caller hne hcaller
  rw [resumed_callers, if_neg hne] at hcaller
  exact h other caller hne hcaller

def sample_recorded_store : ScheduleStore :=
  (sample_schedule_host.record_trigger sample_trigger sample_schedule_crew.shared).2

theorem sample_row : sample_recorded_store.schedules.row "s" = some sample_schedule := by
  unfold sample_recorded_store
  rw [record_trigger_leaves]
  exact row_put_self _ _ _

theorem sample_advanced : ∃ row after, sample_schedule_host.Answers sample_recorded_store
    (sample_schedule_host.advance sample_schedule 0) (.ok row) after := by
  have hreached : sample_schedule_host.Answers sample_recorded_store
      (sample_schedule_host.advance sample_schedule 0)
      (sample_schedule_host.act (sample_schedule_host.advance sample_schedule 0)
        sample_recorded_store).1
      (sample_schedule_host.act (sample_schedule_host.advance sample_schedule 0)
        sample_recorded_store).2 := .reached
  have hreturns : (sample_schedule_host.act (sample_schedule_host.advance sample_schedule 0)
      sample_recorded_store).1.toOption.isSome = true := by decide +kernel
  cases hresult : (sample_schedule_host.act (sample_schedule_host.advance sample_schedule 0)
      sample_recorded_store).1 with
  | error error =>
    rw [hresult] at hreturns
    cases hreturns
  | ok row =>
    rw [hresult] at hreached
    exact ⟨row, _, hreached⟩

theorem sample_pass : ∃ events crew,
    UndisturbedRun sample_schedule_host sample_schedule_crew events crew
      ∧ planned events = [("s", 0)] := by
  have hchecked : sample_schedule.post_init sample_schedule_host.casefold = .ok () :=
    sample_schedule_checked
  obtain ⟨resume, hlaunch, hadvance⟩ := launch_asks (fun _ _ => rfl) hchecked 0 0
  have hstarted : UndisturbedRun sample_schedule_host sample_schedule_crew
      ([] ++ [.started 0 (.plan_due_schedules 0 5)])
      (sample_schedule_crew.resumed 0 ⟨.plan_due_schedules 0 5,
        sample_schedule_host.plan_due_schedules 0 5, []⟩ sample_schedule_crew.shared) :=
    .snoc .refl trivial (.started rfl)
  have hlisted := undisturbed_answer hstarted rfl (undisturbed_reached rfl trivial) sample_listed
  have hplans : sample_schedule_host.plan_schedules 0 5 [sample_schedule] []
      = .ask (.record_trigger sample_trigger) (fun answer => (resume answer).bind
          (fun intent => sample_schedule_host.plan_schedules 0 5 [] ([] ++ [intent]))) := by
    show (sample_schedule_host.launch_schedule 0 sample_schedule 0 >>= _) = _
    rw [hlaunch]
    rfl
  have hnobody : NobodyElseAt sample_schedule_crew 0 "s" := fun _ _ _ hcaller => by cases hcaller
  have hrecorded := undisturbed_answer hlisted hplans (undisturbed_reached rfl
    ⟨⟨sample_schedule, row_put_self _ _ _, rfl⟩, (hnobody.resumed _ _).resumed _ _⟩)
    sample_recorded
  obtain ⟨resume', hupdates⟩ := hadvance sample_trigger
  obtain ⟨row, after, hanswers⟩ := sample_advanced
  have hrest : (resume (.ok sample_trigger)).bind
      (fun intent => sample_schedule_host.plan_schedules 0 5 [] ([] ++ [intent]))
        = .ask (sample_schedule_host.advance sample_schedule 0) (fun answer =>
          (resume' answer).bind
            (fun intent => sample_schedule_host.plan_schedules 0 5 [] ([] ++ [intent]))) := by
    rw [hupdates]
    rfl
  have hupdated := undisturbed_answer hrecorded hrest (undisturbed_reached rfl
    ⟨⟨sample_schedule, sample_trigger, sample_trigger, sample_row, rfl, rfl, rfl⟩,
      fun due_at hdue hmem => ?_⟩) hanswers
  · exact ⟨_, _, hupdated, rfl⟩
  · cases hdue
    have hsame : ((sample_schedule.schedule_id, 0 + one_hour) : Occurrence)
        = sample_trigger.occurrence := mem_singleton.mp hmem
    exact absurd (congrArg Prod.snd hsame) (by decide)

theorem due_times_planned_once_pass : ∃ (events : List (ScheduleEvent sample_schedule_host))
    (crew : ScheduleCrew sample_schedule_host),
    planned events = [("s", 0)] ∧ SchedulesKept events crew := by
  obtain ⟨events, crew, hrun, hplanned⟩ := sample_pass
  exact ⟨events, crew, hplanned, due_times_planned_once (fun _ _ => rfl) (fun _ => rfl) hrun⟩

def HasFailed (crew : ScheduleCrew host) (pid : Nat) : Bool :=
  match crew.callers pid with
  | some ⟨_, .fail _, _⟩ => true
  | _ => false

def recorded_by : ScheduleEvent host → Option Nat
  | .answered pid _ _ (.record_trigger _) (.ok _) _ _ => some pid
  | _ => none

/-- The status of a schedule before and after a call of a pass. -/
def status_around (schedule_id : String) :
    ScheduleEvent host → Option (Option ScheduleStatus × Option ScheduleStatus)
  | .answered _ call _ _ _ before after =>
    if call.is_pass then
      some ((before.schedules.row schedule_id).map (·.status),
        (after.schedules.row schedule_id).map (·.status))
    else none
  | _ => none

theorem PassLeaves.paused {earlier : List (ScheduleEvent host)} {event : ScheduleEvent host}
    (h : PassLeaves earlier event) (schedule_id : String) :
    status_around schedule_id event ≠ some (some .paused, some .active) := by
  intro haround
  cases event with
  | started pid call => cases haround
  | elsewhere before after => cases haround
  | answered pid call history query answer before after =>
    simp only [status_around] at haround
    split at haround
    · next hpass =>
      obtain ⟨hbefore, hafter⟩ := Prod.mk.inj (Option.some.inj haround)
      obtain ⟨row, hrow, hpaused⟩ := Option.map_eq_some_iff.mp hbefore
      obtain ⟨row', hrow', hkept⟩ := (h hpass schedule_id row hrow).1 (.inl hpaused)
      rw [hrow', Option.map_some, hkept, hpaused] at hafter
      cases hafter
    · cases haround

/-- An overlapping pass plans the due time again, a pass undoes a pause, and a trigger whose update
failed has no intent. -/
theorem due_times_lost :
    ¬ SchedulesKept (play_schedules overlapping_passes).1 (play_schedules overlapping_passes).2
      ∧ ¬ SchedulesKept (play_schedules paused_schedule).1 (play_schedules paused_schedule).2
      ∧ ¬ SchedulesKept (play_schedules failed_update).1 (play_schedules failed_update).2 := by
  refine ⟨fun hkept => ?_, fun hkept => ?_, fun hkept => ?_⟩
  · have htwice : ¬ (planned (play_schedules overlapping_passes).1).Nodup := by decide +kernel
    exact htwice hkept.once
  · have haround : ((play_schedules paused_schedule).1.getLast?.bind (status_around "s"))
        = some (some .paused, some .active) := by decide +kernel
    obtain ⟨event, hlast, hevent⟩ := Option.bind_eq_some_iff.mp haround
    obtain ⟨earlier, hevents⟩ := List.getLast?_eq_some_iff.mp hlast
    exact (hkept.left earlier event [] hevents).paused "s" hevent
  · have hmem : 0 ∈ (play_schedules failed_update).1.filterMap recorded_by := by decide +kernel
    obtain ⟨event, hevent, hby⟩ := mem_filterMap.mp hmem
    have hfailed : HasFailed (play_schedules failed_update).2 0 = true := by decide +kernel
    unfold recorded_by at hby
    split at hby
    · cases hby
      obtain ⟨caller, hcaller, hgoes, -⟩ := hkept.returned _ _ _ _ _ _ _ hevent
      unfold HasFailed at hfailed
      rw [hcaller] at hfailed
      split at hfailed
      · next heq =>
        cases heq
        exact hgoes _ rfl
      · cases hfailed
    · cases hby

end CodingAgentLoop
