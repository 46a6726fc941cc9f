/-
What becomes of an admitted command.

Three writers touch the mailbox: an admission inserts a pending row, a typed transition
disposes of an open row, and a legacy unit upserts a slot of its own. The first two keep
a command what it was and give it one end. The third has no guard, so whatever it names
it overwrites; the statements about rows are about runs in which it names no command
(`SparesCommands`), those about the counters about any run.
-/
import CodingAgentLoop.SequenceAllocation

namespace CodingAgentLoop

open Lib Tables List Result

variable {host : Host} {db db' : Tables}

/-! ## Admissions -/

/-- The command an event admitted to the session, with its admission. -/
def StoreEvent.admitted (session_id : String) :
    StoreEvent → Option (RuntimeCommand × RuntimeCommandAdmission)
  | .call _ (.admit_runtime_command authority command) (.ok (.admission admission)) =>
    if authority.session_id = session_id ∧ admission.idempotent = false then
      some (command, admission)
    else none
  | _ => none

def admitted_commands (session_id : String) (events : List StoreEvent) :
    List (RuntimeCommand × RuntimeCommandAdmission) :=
  events.filterMap (StoreEvent.admitted session_id)

def RuntimeCommand.invalidates_dispatch (command : RuntimeCommand) : Bool :=
  match runtime_command_invalidates_dispatch command with
  | .ok invalidates_dispatch => invalidates_dispatch
  | .error _ => false

def invalidations (commands : List (RuntimeCommand × RuntimeCommandAdmission)) : Nat :=
  commands.countP (fun admitted => admitted.1.invalidates_dispatch)

theorem admitted_commands_snoc (session_id : String) (events : List StoreEvent)
    (event : StoreEvent) : admitted_commands session_id (events ++ [event])
      = admitted_commands session_id events ++ (event.admitted session_id).toList := by
  rw [admitted_commands, filterMap_append]
  cases hadmitted : event.admitted session_id <;> simp [admitted_commands, hadmitted]

variable {event : StoreEvent}

theorem StoreEvent.admitted_of_not_fresh (h : event.fresh = false) (session_id : String) :
    event.admitted session_id = none := by
  unfold StoreEvent.admitted
  split
  · next admission =>
    rw [if_neg]
    rintro ⟨-, hfresh⟩
    simp [StoreEvent.fresh, StoreAnswer.fresh, hfresh] at h
  · rfl

variable {admission : RuntimeCommandAdmission} {session_id : String}

theorem StoreEvent.admitted_eq_some {command : RuntimeCommand}
    (h : event.admitted session_id = some (command, admission)) :
    ∃ clock authority, event
        = .call clock (.admit_runtime_command authority command) (.ok (.admission admission))
      ∧ authority.session_id = session_id ∧ admission.idempotent = false := by
  unfold StoreEvent.admitted at h
  split at h
  · split at h
    · next clock authority command admission hadmitted =>
      cases h
      exact ⟨clock, authority, rfl, hadmitted⟩
    · cases h
  · cases h

/-! ## One row -/

def admitted_row (command : RuntimeCommand) (admission : RuntimeCommandAdmission) :
    MailboxRow where
  lane := "runtime"
  disposition := "pending"
  admitted_session_seq := some admission.entry.admitted_session_seq
  admitted_dispatch_generation := some admission.mailbox_cut
  payload := runtime_command_mailbox_payload command

def disposed_row (row : MailboxRow) (disposition : CommandDisposition) : MailboxRow :=
  { row with
    disposition := disposition.kind
    payload := row.payload.merge (mailbox_slot_from_disposition disposition).payload }

/-- The slot a legacy unit upserts in the session. -/
def StoreEvent.legacy_slot (session_id : String) : StoreEvent → Option MailboxDispositionSlot
  | .call _ (.commit_authoritative_uow authority unit _ _) (.ok (.commit commit)) =>
    if authority.session_id = session_id ∧ unit.val.transition_id = none
        ∧ commit.idempotent = false then
      unit.val.mailbox
    else none
  | _ => none

/-- What an event does to the row of a command id. -/
inductive MailboxRowStep (session_id command_id : String) (event : StoreEvent) :
    Option MailboxRow → Option MailboxRow → Prop
  | kept {row : Option MailboxRow} : MailboxRowStep session_id command_id event row row
  | admitted {command : RuntimeCommand} {admission : RuntimeCommandAdmission}
      (h : event.admitted session_id = some (command, admission))
      (target : command.command_id = command_id) :
      MailboxRowStep session_id command_id event none (some (admitted_row command admission))
  | disposed {row : MailboxRow} {disposition : CommandDisposition}
      (open_ : row.disposition ∈ ["pending", "admitted"])
      (target : disposition.command_id = command_id) :
      MailboxRowStep session_id command_id event (some row) (some (disposed_row row disposition))
  | legacy {row : Option MailboxRow} {slot : MailboxDispositionSlot}
      (h : event.legacy_slot session_id = some slot) (target : slot.slot_id = command_id) :
      MailboxRowStep session_id command_id event row (some
        { lane := slot.lane
          disposition := slot.disposition
          admitted_session_seq := row.bind (·.admitted_session_seq)
          admitted_dispatch_generation := row.bind (·.admitted_dispatch_generation)
          payload := slot.payload })

theorem put_mailbox_slot_row (mailbox : Table (String × String) MailboxRow) (session_id : String)
    (slot : MailboxDispositionSlot) (key : String × String) :
    (put_mailbox_slot mailbox session_id slot).row key
      = if key = (session_id, slot.slot_id) then some
          { lane := slot.lane
            disposition := slot.disposition
            admitted_session_seq := (mailbox.row key).bind (·.admitted_session_seq)
            admitted_dispatch_generation :=
              (mailbox.row key).bind (·.admitted_dispatch_generation)
            payload := slot.payload }
        else mailbox.row key := by
  unfold put_mailbox_slot
  rw [Table.row_put]
  by_cases hkey : key = (session_id, slot.slot_id)
  · rw [if_pos hkey, if_pos hkey, hkey]
  · rw [if_neg hkey, if_neg hkey]

/-- A loop of disposed slots leaves a row alone or writes the last slot of its id to it. -/
theorem put_mailbox_slots_row (slots : List MailboxDispositionSlot) (session_id : String)
    (mailbox : Table (String × String) MailboxRow) (key : String × String) :
    (slots.foldl (fun mailbox slot => put_mailbox_slot mailbox session_id slot) mailbox).row key
        = mailbox.row key
      ∨ ∃ slot ∈ slots, key = (session_id, slot.slot_id) ∧
        (slots.foldl (fun mailbox slot => put_mailbox_slot mailbox session_id slot) mailbox).row key
          = some
          { lane := slot.lane
            disposition := slot.disposition
            admitted_session_seq := (mailbox.row key).bind (·.admitted_session_seq)
            admitted_dispatch_generation :=
              (mailbox.row key).bind (·.admitted_dispatch_generation)
            payload := slot.payload } := by
  induction slots generalizing mailbox with
  | nil => exact Or.inl rfl
  | cons slot rest ih =>
    rw [foldl_cons]
    have hfirst := put_mailbox_slot_row mailbox session_id slot key
    rcases ih (put_mailbox_slot mailbox session_id slot) with hsame | ⟨later, hmem, hkey, hrow⟩
    · by_cases hkey : key = (session_id, slot.slot_id)
      · rw [if_pos hkey] at hfirst
        exact Or.inr ⟨slot, mem_cons_self, hkey, hsame.trans hfirst⟩
      · rw [if_neg hkey] at hfirst
        exact Or.inl (hsame.trans hfirst)
    · refine Or.inr ⟨later, mem_cons_of_mem _ hmem, hkey, ?_⟩
      rw [hrow, hfirst]
      -- the admission columns survive the first write too
      split <;> rfl

/-- **What one event can do to the row of a command.** -/
theorem mailbox_row_step (h : StoreStep host db event db') (session_id command_id : String) :
    MailboxRowStep session_id command_id event
      (db.session_mailbox_slots.row (session_id, command_id))
      (db'.session_mailbox_slots.row (session_id, command_id)) := by
  cases step_kind h with
  | quiet replayed hquiet =>
    rw [hquiet.mailbox_slots]
    exact .kept
  | attempt target owner hwritten =>
    obtain ⟨_, -, -, rfl, -⟩ := hwritten
    exact .kept
  | admitted hadmitted =>
    rename_i clock authority command admission
    obtain ⟨invalidates, -, source, -, rfl, hseq, hcut⟩ := hadmitted.tables
    simp only [Table.row_put]
    by_cases hkey : (session_id, command_id) = (authority.session_id, command.command_id)
    · obtain ⟨rfl, rfl⟩ := Prod.mk.inj hkey
      rw [if_pos rfl, hadmitted.new, ← hseq, ← hcut]
      refine .admitted ?_ rfl
      simp [StoreEvent.admitted, hadmitted.fresh]
    · rw [if_neg hkey]
      exact .kept
  | legacy untyped event_eq hlegacy =>
    rename_i clock authority unit stored new_sessions_enabled event session_state commit
    rw [hlegacy.mailbox_slots]
    cases hslot : unit.val.mailbox with
    | none => exact .kept
    | some slot =>
      simp only [Option.elim_some, put_mailbox_slot_row]
      by_cases hkey : (session_id, command_id) = (authority.session_id, slot.slot_id)
      · obtain ⟨rfl, rfl⟩ := Prod.mk.inj hkey
        rw [if_pos rfl]
        refine .legacy ?_ rfl
        simp [StoreEvent.legacy_slot, untyped, hlegacy.fresh, hslot]
      · rw [if_neg hkey]
        exact .kept
  | typed hcommit =>
    rename_i clock authority unit stored new_sessions_enabled transition_id state_cas state_value
      plan receipt commit
    have hdispositions := hcommit.fresh.dispositions
    obtain ⟨events, bindings, -, -, rfl⟩ := hcommit.fresh.tables
    rcases put_mailbox_slots_row plan.disposition_slots authority.session_id
        db.session_mailbox_slots (session_id, command_id) with hsame | ⟨slot, hmem, hkey, hrow⟩
    · simp only [hsame]
      exact .kept
    · simp only [hrow]
      obtain ⟨rfl, rfl⟩ := Prod.mk.inj hkey
      obtain ⟨disposition, -, hdisposition⟩ := exists_of_mem_mapM hdispositions hmem
      unfold disposition_slot at hdisposition
      cases hfound : db.session_mailbox_slots.row
          (authority.session_id, (mailbox_slot_from_disposition disposition).slot_id) with
      | none => simp [hfound] at hdisposition
      | some existing =>
        simp only [hfound, bind_eq_ok, raise_if_eq_ok, not_not, pure_eq_ok]
          at hdisposition
        obtain ⟨_, hopen, rfl⟩ := hdisposition
        simp only [hfound]
        exact .disposed hopen rfl

/-! ## The counters -/

/-- **What one event does to the dispatch generation**: an admission that invalidates dispatches
raises it by one, and is admitted at the generation it leaves. -/
theorem generation_step (h : StoreStep host db event db') (session_id : String) :
    (db'.fact_source session_id).dispatch_generation
        = (db.fact_source session_id).dispatch_generation
          + invalidations (event.admitted session_id).toList
      ∧ ∀ command admission, event.admitted session_id = some (command, admission) →
          admission.mailbox_cut = (db'.fact_source session_id).dispatch_generation := by
  -- an event without an admission leaves the generation alone
  have hkept : event.admitted session_id = none →
      (db'.fact_source session_id).dispatch_generation
        = (db.fact_source session_id).dispatch_generation →
      (db'.fact_source session_id).dispatch_generation
          = (db.fact_source session_id).dispatch_generation
            + invalidations (event.admitted session_id).toList
        ∧ ∀ command admission, event.admitted session_id = some (command, admission) →
            admission.mailbox_cut = (db'.fact_source session_id).dispatch_generation := by
    intro hadmitted hgeneration
    rw [hadmitted, hgeneration]
    exact ⟨rfl, fun _ _ hsome => by cases hsome⟩
  cases step_kind h with
  | quiet replayed hquiet =>
    exact hkept (StoreEvent.admitted_of_not_fresh replayed session_id)
      (hquiet.dispatch_generation session_id)
  | attempt target owner hwritten =>
    obtain ⟨_, -, -, rfl, -⟩ := hwritten
    exact hkept (StoreEvent.admitted_of_not_fresh rfl session_id) rfl
  | legacy untyped event_eq hlegacy =>
    refine hkept rfl ?_
    unfold fact_source
    rw [hlegacy.fact_source, Table.row_put]
    split
    · next hsession =>
      subst hsession
      rfl
    · rfl
  | typed hcommit =>
    refine hkept rfl ?_
    obtain ⟨events, bindings, -, -, rfl⟩ := hcommit.fresh.tables
    unfold fact_source
    simp only [Table.row_put]
    split
    · next hsession =>
      subst hsession
      rfl
    · rfl
  | admitted hadmitted =>
    rename_i clock authority command admission
    obtain ⟨invalidates, hinvalidates, source, hsource, rfl, -, hcut⟩ := hadmitted.tables
    have hcommand : command.invalidates_dispatch = invalidates := by
      simp [RuntimeCommand.invalidates_dispatch, hinvalidates]
    by_cases hsession : authority.session_id = session_id
    · subst hsession
      have hevent : (StoreEvent.call clock (.admit_runtime_command authority command)
          (.ok (.admission admission))).admitted authority.session_id
            = some (command, admission) := by
        simp [StoreEvent.admitted, hadmitted.fresh]
      have hafter : ((db.set_fact_source authority.session_id source).fact_source
          authority.session_id).dispatch_generation = source.dispatch_generation := by simp
      rw [hevent]
      refine ⟨?_, ?_⟩
      · refine hafter.trans ?_
        rw [hsource]
        cases invalidates <;> simp [invalidations, hcommand]
      · rintro _ _ ⟨⟩
        exact hcut.trans hafter.symm
    · refine hkept (by simp [StoreEvent.admitted, hsession]) ?_
      have hother : (db.set_fact_source authority.session_id source).fact_source session_id
          = db.fact_source session_id := by
        rw [fact_source_set, if_neg (Ne.symm hsession)]
      exact congrArg FactSource.dispatch_generation hother

/-- What holds of the admissions of a session after any run. -/
structure AdmissionsCounted (db : Tables) (session_id : String)
    (commands : List (RuntimeCommand × RuntimeCommandAdmission)) : Prop where
  distinct : (commands.map (·.1.command_id)).Nodup
  generation : (db.fact_source session_id).dispatch_generation = invalidations commands
  stored : ∀ command admission, (command, admission) ∈ commands →
    ∃ row, db.session_mailbox_slots.row (session_id, command.command_id) = some row
      ∧ row.admitted_session_seq = some admission.entry.admitted_session_seq
      ∧ row.admitted_dispatch_generation = some admission.mailbox_cut
  reached : ∀ command admission, (command, admission) ∈ commands →
    admission.mailbox_cut ≤ (db.fact_source session_id).dispatch_generation

variable {row : MailboxRow}

theorem MailboxRowStep.admission_kept {session_id command_id : String} {after : Option MailboxRow}
    (h : MailboxRowStep session_id command_id event (some row) after) :
    ∃ row', after = some row' ∧ row'.admitted_session_seq = row.admitted_session_seq
      ∧ row'.admitted_dispatch_generation = row.admitted_dispatch_generation := by
  cases h with
  | kept => exact ⟨row, rfl, rfl, rfl⟩
  | disposed _ _ => exact ⟨_, rfl, rfl, rfl⟩
  | legacy _ _ => exact ⟨_, rfl, rfl, rfl⟩

theorem AdmissionsCounted.step {session_id : String}
    {commands : List (RuntimeCommand × RuntimeCommandAdmission)} {event : StoreEvent}
    (hcounted : AdmissionsCounted db session_id commands) (h : StoreStep host db event db') :
    AdmissionsCounted db' session_id (commands ++ (event.admitted session_id).toList) := by
  obtain ⟨hgeneration, hcut⟩ := generation_step h session_id
  have hrow := mailbox_row_step h session_id
  have hstored : ∀ command admission, (command, admission) ∈ commands →
      ∃ row, db'.session_mailbox_slots.row (session_id, command.command_id) = some row
        ∧ row.admitted_session_seq = some admission.entry.admitted_session_seq
        ∧ row.admitted_dispatch_generation = some admission.mailbox_cut := by
    intro command admission hmem
    obtain ⟨row, hbefore, hseq, hgen⟩ := hcounted.stored command admission hmem
    have hstep := hrow command.command_id
    rw [hbefore] at hstep
    obtain ⟨row', hafter, hseq', hgen'⟩ := hstep.admission_kept
    exact ⟨row', hafter, hseq'.trans hseq, hgen'.trans hgen⟩
  have hreached : ∀ command admission, (command, admission) ∈ commands →
      admission.mailbox_cut ≤ (db'.fact_source session_id).dispatch_generation := by
    intro command admission hmem
    have hle := hcounted.reached command admission hmem
    omega
  cases hadmitted : event.admitted session_id with
  | none =>
    rw [hadmitted] at hgeneration
    rw [Option.toList_none, append_nil]
    exact ⟨hcounted.distinct, hgeneration.trans hcounted.generation, hstored, hreached⟩
  | some admitted =>
    obtain ⟨command, admission⟩ := admitted
    rw [hadmitted] at hgeneration
    obtain ⟨clock, authority, rfl, rfl, hfresh⟩ := StoreEvent.admitted_eq_some hadmitted
    -- the admission found no row under its id, while every earlier command has one
    have hnew : db.session_mailbox_slots.row (authority.session_id, command.command_id) = none ∧
        db'.session_mailbox_slots.row (authority.session_id, command.command_id)
          = some (admitted_row command admission) := by
      cases step_kind h with
      | quiet replayed _ => simp [StoreEvent.fresh, StoreAnswer.fresh, hfresh] at replayed
      | admitted hfreshly =>
        obtain ⟨invalidates, -, source, -, rfl, hseq, hcut⟩ := hfreshly.tables
        refine ⟨hfreshly.new, ?_⟩
        simp [admitted_row, hseq, hcut]
    rw [Option.toList_some]
    refine ⟨?_, ?_, ?_, ?_⟩
    · rw [map_append, nodup_append]
      refine ⟨hcounted.distinct, by simp, ?_⟩
      intro id hid other hother heq
      obtain ⟨⟨earlier, earlier_admission⟩, hmem, rfl⟩ := mem_map.mp hid
      obtain ⟨row, hrow, -⟩ := hcounted.stored earlier earlier_admission hmem
      simp only [map_cons, map_nil, mem_singleton] at hother
      rw [heq, hother, hnew.1] at hrow
      cases hrow
    · rw [hgeneration, hcounted.generation, invalidations, invalidations, invalidations,
        countP_append]
      rfl
    · intro command' admission' hmem
      rcases mem_snoc hmem with hold | hlast
      · exact hstored command' admission' hold
      · cases hlast
        exact ⟨_, hnew.2, rfl, rfl⟩
    · intro command' admission' hmem
      rcases mem_snoc hmem with hold | hlast
      · exact hreached command' admission' hold
      · cases hlast
        exact le_of_eq (hcut command admission hadmitted)

variable {events : List StoreEvent}

/-- **The admissions of a run are counted.** -/
theorem admissions_counted (h : StoreRun host events db) (session_id : String) :
    AdmissionsCounted db session_id (admitted_commands session_id events) := by
  refine h.history (P := fun events tables =>
    AdmissionsCounted tables session_id (admitted_commands session_id events)) ?_ ?_
  · have hnone : ∀ admitted, admitted ∉ admitted_commands session_id [] :=
      fun _ => not_mem_nil
    exact ⟨nodup_nil, rfl, fun _ _ hmem => (hnone _ hmem).elim,
      fun _ _ hmem => (hnone _ hmem).elim⟩
  · intro history before event after _ hcounted hstep
    rw [admitted_commands_snoc]
    exact hcounted.step hstep

/-! ## A command's row -/

def TERMINAL_DISPOSITIONS : List String := ["applied", "rejected", "superseded"]

/-- The row still tells the command it was admitted for, and its disposition is `pending` or
terminal. A rejection or a supersession appends its reason to the payload. -/
structure CommandKept (command : RuntimeCommand) (admission : RuntimeCommandAdmission)
    (row : MailboxRow) : Prop where
  session_seq : row.admitted_session_seq = some admission.entry.admitted_session_seq
  generation : row.admitted_dispatch_generation = some admission.mailbox_cut
  disposition : row.disposition = "pending" ∨ row.disposition ∈ TERMINAL_DISPOSITIONS
  payload : ∃ reason, row.payload = runtime_command_mailbox_payload command ++ reason
    ∧ (reason = [] ∨ (row.disposition ∈ ["rejected", "superseded"] ∧ ∃ key value,
        reason = [(key, value)] ∧ key ∈ ["reason_code", "superseded_by_command_id"]))

namespace CommandKept

variable {command : RuntimeCommand} {admission : RuntimeCommandAdmission} {row : MailboxRow}

theorem of_admitted : CommandKept command admission (admitted_row command admission) :=
  ⟨rfl, rfl, Or.inl rfl, [], by simp [admitted_row], Or.inl rfl⟩

section

variable (h : CommandKept command admission row)

include h

theorem content :
    row.payload.get "runtime_command_kind" = .str command.command_kind
      ∧ row.payload.get "runtime_command_payload" = .obj command.payload := by
  obtain ⟨reason, hpayload, -⟩ := h.payload
  rw [hpayload]
  exact ⟨rfl, rfl⟩

theorem payload_of_pending (hpending : row.disposition = "pending") :
    row.payload = runtime_command_mailbox_payload command := by
  obtain ⟨reason, hpayload, rfl | ⟨hdisposition, -⟩⟩ := h.payload
  · rw [hpayload, append_nil]
  · rw [hpending] at hdisposition
    exact absurd hdisposition (by decide)

theorem disposed (hpending : row.disposition = "pending") (disposition : CommandDisposition) :
    CommandKept command admission (disposed_row row disposition)
      ∧ (disposed_row row disposition).disposition ∈ TERMINAL_DISPOSITIONS := by
  have hterminal : (disposed_row row disposition).disposition ∈ TERMINAL_DISPOSITIONS := by
    cases disposition <;> simp [disposed_row, CommandDisposition.kind, TERMINAL_DISPOSITIONS]
  have hpayload : (disposed_row row disposition).payload = (runtime_command_mailbox_payload
      command).merge (mailbox_slot_from_disposition disposition).payload := by
    rw [disposed_row, h.payload_of_pending hpending]
  refine ⟨⟨h.session_seq, h.generation, Or.inr hterminal, ?_⟩, hterminal⟩
  rw [hpayload]
  cases disposition with
  | applied command_id => exact ⟨[], rfl, Or.inl rfl⟩
  | rejected command_id reason =>
    exact ⟨[("reason_code", .str reason)], rfl,
      Or.inr ⟨mem_cons_self, _, _, rfl, mem_cons_self⟩⟩
  | superseded command_id other =>
    exact ⟨[("superseded_by_command_id", .str other)], rfl,
      Or.inr ⟨mem_cons_of_mem _ mem_cons_self, _, _, rfl,
        mem_cons_of_mem _ mem_cons_self⟩⟩

theorem not_open (hpending : row.disposition ≠ "pending") :
    row.disposition ∉ ["pending", "admitted"] := by
  have hterminal := h.disposition.resolve_left hpending
  intro hopen
  simp only [TERMINAL_DISPOSITIONS, mem_cons, not_mem_nil, or_false] at hterminal hopen
  rcases hopen with hopen | hopen <;> rw [hopen] at hterminal <;>
    exact absurd hterminal (by decide)

end

/-- **One event**, no legacy slot: the row stays, or an open row gets its end. -/
theorem step {event : StoreEvent} {session_id command_id : String} {after : Option MailboxRow}
    (h : CommandKept command admission row)
    (hstep : MailboxRowStep session_id command_id event (some row) after)
    (hspared : ∀ slot, event.legacy_slot session_id = some slot → slot.slot_id ≠ command_id) :
    ∃ row', after = some row' ∧ CommandKept command admission row'
      ∧ (row' = row ∨ row.disposition = "pending" ∧ row'.disposition ∈ TERMINAL_DISPOSITIONS) := by
  cases hstep with
  | kept => exact ⟨row, rfl, h, Or.inl rfl⟩
  | legacy hslot target => exact absurd target (hspared _ hslot)
  | @disposed _ disposition hopen target =>
    by_cases hpending : row.disposition = "pending"
    · obtain ⟨hkept, hterminal⟩ := h.disposed hpending disposition
      exact ⟨_, rfl, hkept, Or.inr ⟨hpending, hterminal⟩⟩
    · exact absurd hopen (h.not_open hpending)

end CommandKept

/-! ## Runs that spare commands -/

/-- No legacy unit of the run writes the slot of a command admitted before it. -/
def SparesCommands (session_id : String) (events : List StoreEvent) : Prop :=
  ∀ pre event post slot, events = pre ++ event :: post → event.legacy_slot session_id = some slot →
    slot.slot_id ∉ (admitted_commands session_id pre).map (·.1.command_id)

theorem SparesCommands.prefix {events later : List StoreEvent}
    (h : SparesCommands session_id (events ++ later)) : SparesCommands session_id events := by
  intro pre event post slot heq hslot
  refine h pre event (post ++ later) slot ?_ hslot
  rw [heq, append_assoc, cons_append]

theorem command_followed {events later : List StoreEvent} {command : RuntimeCommand}
    (hmem : (command, admission) ∈ admitted_commands session_id events)
    (hrow : db.session_mailbox_slots.row (session_id, command.command_id) = some row)
    (hkept : CommandKept command admission row) (hlater : Run (StoreStep host) db later db')
    (hspares : SparesCommands session_id (events ++ later)) :
    ∃ row', db'.session_mailbox_slots.row (session_id, command.command_id) = some row'
      ∧ CommandKept command admission row'
      ∧ (row' = row ∨ row.disposition = "pending" ∧ row'.disposition ∈ TERMINAL_DISPOSITIONS) := by
  induction hlater with
  | refl => exact ⟨row, hrow, hkept, Or.inl rfl⟩
  | @snoc history middle after event _ hstep ih =>
    rw [← append_assoc] at hspares
    obtain ⟨row₁, hrow₁, hkept₁, hmoved⟩ := ih hspares.prefix
    have hrow_step := mailbox_row_step hstep session_id command.command_id
    rw [hrow₁] at hrow_step
    have hspared : ∀ slot, event.legacy_slot session_id = some slot →
        slot.slot_id ≠ command.command_id := by
      intro slot hslot heq
      refine hspares (events ++ history) event [] slot rfl hslot ?_
      rw [heq]
      refine mem_map.mpr ⟨(command, admission), ?_, rfl⟩
      rw [admitted_commands, filterMap_append]
      exact mem_append_left _ hmem
    obtain ⟨row₂, hrow₂, hkept₂, hlast⟩ := hkept₁.step hrow_step hspared
    refine ⟨row₂, hrow₂, hkept₂, ?_⟩
    -- a row that has moved is terminal and stays, so at most one of the two moved it
    rcases hlast with rfl | ⟨hpending, hterminal⟩
    · exact hmoved
    · rcases hmoved with rfl | ⟨_, hended⟩
      · exact Or.inr ⟨hpending, hterminal⟩
      · rw [hpending] at hended
        exact absurd hended (by decide)

/-- Every admitted command has the row it was admitted with, or that row with its end. -/
theorem command_kept (h : StoreRun host events db) (hspares : SparesCommands session_id events) :
    ∀ command admission, (command, admission) ∈ admitted_commands session_id events →
      ∃ row, db.session_mailbox_slots.row (session_id, command.command_id) = some row
        ∧ CommandKept command admission row := by
  intro command admission hmem
  obtain ⟨event, hevent, hadmitted⟩ := mem_filterMap.mp hmem
  obtain ⟨pre, post, rfl⟩ := append_of_mem hevent
  obtain ⟨before, after, hpre, hstep, hpost⟩ := Run.split h
  obtain ⟨clock, authority, rfl, rfl, hfresh⟩ := StoreEvent.admitted_eq_some hadmitted
  have hrow : after.session_mailbox_slots.row (authority.session_id, command.command_id)
      = some (admitted_row command admission) := by
    cases step_kind hstep with
    | quiet replayed _ => simp [StoreEvent.fresh, StoreAnswer.fresh, hfresh] at replayed
    | admitted hfreshly =>
      obtain ⟨invalidates, -, source, -, rfl, hseq, hcut⟩ := hfreshly.tables
      simp [admitted_row, hseq, hcut]
  have hmem' : (command, admission) ∈ admitted_commands authority.session_id
      (pre ++ [.call clock (.admit_runtime_command authority command)
        (.ok (.admission admission))]) := by
    rw [admitted_commands_snoc, hadmitted]
    exact mem_append_right _ mem_cons_self
  rw [← singleton_append, ← append_assoc] at hspares
  obtain ⟨row, hfound, hkept, -⟩ := command_followed hmem' hrow CommandKept.of_admitted hpost
    hspares
  exact ⟨row, hfound, hkept⟩

/-! ## Readmissions -/

def RuntimeCommand.content (command : RuntimeCommand) : Json :=
  (Json.obj (runtime_command_mailbox_payload command)).canonical

theorem ensured_of_admitted (h : StoreRun host events db) {session_id command_id : String}
    {sequence : Nat} (hrow : db.session_mailbox_slots.row (session_id, command_id) = some row)
    (hsequence : row.admitted_session_seq = some sequence) :
    db.ensure_fact_source session_id = db := by
  obtain ⟨hdense, hstored⟩ := allocations_dense h session_id
  have hallocated : (sequence, Allocated.command command_id) ∈ allocations session_id events :=
    (hstored sequence (.command command_id)).mp (by simp [StoredAt, hrow, hsequence])
  have hmem := mem_map_of_mem (f := Prod.fst) hallocated
  rw [hdense, mem_range'_1] at hmem
  unfold ensure_fact_source
  cases hsource : db.session_fact_source.row session_id with
  | some source => rfl
  | none =>
    -- a session without a fact source has allocated nothing
    have hzero : (db.fact_source session_id).session_seq = 0 := by
      simp [fact_source, hsource, initial_fact_source]
    omega

/-- The payload of a row that still tells its command is the command's content only when no
reason was appended. -/
theorem CommandKept.canonical_eq {command again : RuntimeCommand}
    (h : CommandKept command admission row)
    (heq : (Json.obj row.payload).canonical = again.content) : again.content = command.content := by
  obtain ⟨reason, hpayload, rfl | ⟨-, key, value, rfl, -⟩⟩ := h.payload
  · rw [append_nil] at hpayload
    rw [← heq, hpayload]
    rfl
  · -- three members against two
    rw [hpayload] at heq
    simp only [RuntimeCommand.content, runtime_command_mailbox_payload, Json.canonical,
      Json.canonical_fields, cons_append, nil_append, Json.obj.injEq] at heq
    have hlength := congrArg List.length heq
    simp [length_mergeSort] at hlength

/-- **A readmission** changes nothing; it is answered with the command that was admitted, and
only when the content is the same. -/
theorem readmitted (hrun : StoreRun host events db) {command again : RuntimeCommand}
    (hrow : db.session_mailbox_slots.row (session_id, command.command_id) = some row)
    (hkept : CommandKept command admission row) {clock : Datetime} {authority : OwnerAuthority}
    {answer : Except StoreError StoreAnswer} (hsession : authority.session_id = session_id)
    (hid : again.command_id = command.command_id)
    (hstep : StoreStep host db (.call clock (.admit_runtime_command authority again) answer) db') :
    db' = db ∧ ∀ result, answer = .ok result → again.content = command.content
      ∧ ∃ admitted, result = .admission admitted ∧ admitted.idempotent = true
        ∧ admitted.entry.command = command
        ∧ admitted.entry.admitted_session_seq = admission.entry.admitted_session_seq
        ∧ admitted.entry.disposition = row.disposition := by
  subst hsession
  cases answer with
  | error error => exact ⟨rejected_unchanged hstep, fun _ hok => by cases hok⟩
  | ok result =>
    obtain ⟨admitted, hadmitted, rfl⟩ := map_answer_eq_ok (accepted hstep)
    simp only [admit_runtime_command, bind_eq_ok, hid, hrow, readmission,
      hkept.session_seq, hkept.generation, pure_eq_ok, Prod.mk.injEq] at hadmitted
    obtain ⟨_, -, _, -, found, ⟨_, hcontent, stored, hstored, rfl⟩, hdb, rfl⟩ := hadmitted
    rw [raise_if_eq_ok, not_not] at hcontent
    refine ⟨?_, ?_⟩
    · rw [← hdb]
      exact ensured_of_admitted hrun hrow hkept.session_seq
    · rintro _ ⟨⟩
      refine ⟨hkept.canonical_eq hcontent, _, rfl, rfl, ?_, rfl, rfl⟩
      simp only [runtime_command_from_mailbox_payload, hkept.content.1, hkept.content.2,
        bind_eq_ok, pure_eq_ok] at hstored
      obtain ⟨_, -, _, -, rfl⟩ := hstored
      cases command
      cases hid
      rfl

/-! ## The claim -/

/-- What becomes of the commands of a session, between two points of a run. -/
structure AppliedOnce (host : Host) (session_id : String)
    (commands : List (RuntimeCommand × RuntimeCommandAdmission)) (db db' : Tables) : Prop where
  distinct : (commands.map (·.1.command_id)).Nodup
  generation : (db.fact_source session_id).dispatch_generation = invalidations commands
  kept : ∀ command admission, (command, admission) ∈ commands →
    ∃ row row', db.session_mailbox_slots.row (session_id, command.command_id) = some row
      ∧ db'.session_mailbox_slots.row (session_id, command.command_id) = some row'
      ∧ CommandKept command admission row ∧ CommandKept command admission row'
      ∧ (row' = row ∨ row.disposition = "pending" ∧ row'.disposition ∈ TERMINAL_DISPOSITIONS)
  readmitted : ∀ command admission, (command, admission) ∈ commands →
    ∀ clock authority again answer after, authority.session_id = session_id →
      again.command_id = command.command_id →
      StoreStep host db (.call clock (.admit_runtime_command authority again) answer) after →
      after = db ∧ ∀ result, answer = .ok result → again.content = command.content
        ∧ ∃ admitted, result = .admission admitted ∧ admitted.idempotent = true
          ∧ admitted.entry.command = command
          ∧ admitted.entry.admitted_session_seq = admission.entry.admitted_session_seq

/-- **Commands are applied at most once.** In a run whose legacy units spare the admitted
commands, every command keeps what it was admitted with and gets at most one end, admitting it
again changes nothing, and the dispatch generation counts the commands that invalidate dispatches. -/
theorem commands_applied_once {session_id : String} {events later : List StoreEvent}
    (hrun : StoreRun host events db) (hlater : Run (StoreStep host) db later db')
    (hspares : SparesCommands session_id (events ++ later)) :
    AppliedOnce host session_id (admitted_commands session_id events) db db' := by
  have hcounted := admissions_counted hrun session_id
  refine ⟨hcounted.distinct, hcounted.generation, ?_, ?_⟩
  · intro command admission hmem
    obtain ⟨row, hrow, hkept⟩ := command_kept hrun hspares.prefix command admission hmem
    obtain ⟨row', hrow', hkept', hmoved⟩ := command_followed hmem hrow hkept hlater hspares
    exact ⟨row, row', hrow, hrow', hkept, hkept', hmoved⟩
  · intro command admission hmem clock authority again answer after hsession hid hstep
    obtain ⟨row, hrow, hkept⟩ := command_kept hrun hspares.prefix command admission hmem
    obtain ⟨hsame, hanswer⟩ := readmitted hrun hrow hkept hsession hid hstep
    refine ⟨hsame, fun result hresult => ?_⟩
    obtain ⟨hcontent, admitted, hadmitted, hidempotent, hcommand, hsequence, -⟩ :=
      hanswer result hresult
    exact ⟨hcontent, admitted, hadmitted, hidempotent, hcommand, hsequence⟩

theorem SparesCommands.of_no_legacy_slot
    (h : ∀ event ∈ events, event.legacy_slot session_id = none) :
    SparesCommands session_id events := by
  rintro pre event post slot rfl hslot
  rw [h event (mem_append_right _ mem_cons_self)] at hslot
  cases hslot

/-! ## A run, worked out

A cancel is admitted and applied; then a legacy unit writes a slot of the same id. -/

def sample_cancel : RuntimeCommand where
  command_id := "c"
  command_kind := "cancel"

def sample_applied : UnitOfWork :=
  ⟨{ session_state := [("id", .str "s")]
     transition_id := some "t1"
     state_cas := some ⟨"r", 0, 0⟩
     state_value := some []
     dispositions := [.applied "c"] }, by decide⟩

def sample_legacy : UnitOfWork :=
  ⟨{ session_state := [("id", .str "s")]
     event := some
       { event_id := "e", session_id := "s", event_kind := "turn", payload := [], created_at := 3 }
     mailbox := some { slot_id := "c", lane := "turn", disposition := "pending" } }, by decide⟩

def sample_mailbox_script : List StoreInput :=
  [.owner_changed "s" ⟨"worker", 1000, 1⟩,
   .call 1 (.admit_runtime_command sample_owner sample_cancel)]

def sample_apply : List StoreInput :=
  [.call 2 (.commit_authoritative_uow sample_owner sample_applied none false)]

def sample_reopen : List StoreInput :=
  [.call 3 (.commit_authoritative_uow sample_owner sample_legacy none false)]

/-- The cancel of the worked run is applied once, up to the legacy unit. -/
theorem sample_cancel_applied_once :
    AppliedOnce sample_host "s"
      (admitted_commands "s" (play_events sample_host empty sample_mailbox_script))
      (play sample_host empty sample_mailbox_script)
      (play sample_host (play sample_host empty sample_mailbox_script) sample_apply) :=
  commands_applied_once (play_run _ _ _) (play_run _ _ _)
    (SparesCommands.of_no_legacy_slot (by decide))

/-- **A legacy unit reopens an applied command.** -/
theorem legacy_slot_reopens_command :
    ¬ ∀ (host : Host) (session_id : String) (events later : List StoreEvent) (db db' : Tables),
      StoreRun host events db → Run (StoreStep host) db later db' →
        AppliedOnce host session_id (admitted_commands session_id events) db db' := by
  intro hall
  have hreopened := hall sample_host "s" _ _ _ _
    (play_run sample_host empty (sample_mailbox_script ++ sample_apply))
    (play_run _ _ sample_reopen)
  have hadmitted : ((admitted_commands "s" (play_events sample_host empty
      (sample_mailbox_script ++ sample_apply))).map Prod.fst) = [sample_cancel] := by decide
  obtain ⟨⟨command, admission⟩, hmem, rfl⟩ :=
    mem_map.mp (hadmitted ▸ mem_singleton.mpr rfl : sample_cancel ∈ _)
  obtain ⟨row, row', hrow, hrow', -, -, hmoved⟩ := hreopened.kept _ _ hmem
  have hbefore : ((play sample_host empty (sample_mailbox_script ++ sample_apply)
      ).session_mailbox_slots.row ("s", "c")).map (·.disposition) = some "applied" := by decide
  have hafter : ((play sample_host (play sample_host empty
      (sample_mailbox_script ++ sample_apply)) sample_reopen
      ).session_mailbox_slots.row ("s", "c")).map (·.disposition) = some "pending" := by decide
  have happlied : row.disposition = "applied" := by
    rw [show ("s", "c") = ("s", sample_cancel.command_id) from rfl, hrow] at hbefore
    exact Option.some.inj hbefore
  have hpending : row'.disposition = "pending" := by
    rw [show ("s", "c") = ("s", sample_cancel.command_id) from rfl, hrow'] at hafter
    exact Option.some.inj hafter
  rcases hmoved with rfl | ⟨hopen, -⟩
  · rw [happlied] at hpending
    exact absurd hpending (by decide)
  · rw [happlied] at hopen
    exact absurd hopen (by decide)

end CodingAgentLoop
