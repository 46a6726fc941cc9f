/-
Every sequence number of a session goes to one thing.

Three paths draw from the session's one counter: a typed transition takes a block
for its facts, a legacy unit one number for its event, an admission one for its
command. What each event allocated is read off its answer (`StoreEvent.allocated`);
`sequence_step` says that the answer is the truth -- the counter, the event log
and the mailbox moved by exactly that -- and so over a run the allocations are
`1, 2, …, session_seq`, and they are what the tables hold.
-/
import CodingAgentLoop.StateLinearity

namespace CodingAgentLoop

open Lib EventRecord List

variable {host : Host} {db db' : Tables}

/-! ## Allocations -/

/-- What a sequence number can be assigned to. -/
inductive Allocated where
  | event (event_id : String)
  | command (command_id : String)

def EventRecord.allocation (event : EventRecord) : Nat × Allocated :=
  (event.session_seq.getD 0, .event event.event_id)

/-- What an event allocated in a session, in order: the records a fresh commit returns, the
command a fresh admission does. -/
def StoreEvent.allocated (session_id : String) : StoreEvent → List (Nat × Allocated)
  | .call _ (.commit_authoritative_uow authority _ _ _) (.ok (.commit commit)) =>
    if authority.session_id = session_id ∧ commit.idempotent = false then
      (commit.event.toList ++ commit.facts).map allocation
    else []
  | .call _ (.admit_runtime_command authority command) (.ok (.admission admission)) =>
    if authority.session_id = session_id ∧ admission.idempotent = false then
      [(admission.entry.admitted_session_seq, .command command.command_id)]
    else []
  | _ => []

def allocations (session_id : String) (events : List StoreEvent) : List (Nat × Allocated) :=
  events.flatMap (StoreEvent.allocated session_id)

/-- The tables hold a thing under a sequence number. -/
def StoredAt (db : Tables) (session_id : String) (sequence : Nat) : Allocated → Prop
  | .event event_id =>
    (db.session_event_records.row (session_id, sequence)).map (·.event_id) = some event_id
  | .command command_id =>
    (db.session_mailbox_slots.row (session_id, command_id)).bind (·.admitted_session_seq)
      = some sequence

theorem StoreEvent.allocated_of_not_fresh {event : StoreEvent} (h : event.fresh = false)
    (session_id : String) : event.allocated session_id = [] := by
  unfold allocated
  split
  · rw [if_neg]
    intro hboth
    simp [StoreEvent.fresh, StoreAnswer.fresh, hboth.2] at h
  · rw [if_neg]
    intro hboth
    simp [StoreEvent.fresh, StoreAnswer.fresh, hboth.2] at h
  · rfl

/-! ## The writers, one by one -/

section

variable (projection_epoch session_seq : Nat) (facts : List EventRecord)

theorem stamp_facts_length :
    (stamp_facts projection_epoch session_seq facts).length = facts.length := by
  induction facts generalizing session_seq with
  | nil => rfl
  | cons fact rest ih => rw [stamp_facts, length_cons, length_cons, ih]

theorem stamp_facts_sequences : (stamp_facts projection_epoch session_seq facts).map (·.session_seq)
      = (List.range' (session_seq + 1) facts.length).map some := by
  induction facts generalizing session_seq with
  | nil => rfl
  | cons fact rest ih =>
    rw [stamp_facts, map_cons, length_cons, range'_succ, map_cons, ih]

theorem stamp_facts_event_ids : (stamp_facts projection_epoch session_seq facts).map (·.event_id)
      = facts.map (·.event_id) := by
  induction facts generalizing session_seq with
  | nil => rfl
  | cons fact rest ih => rw [stamp_facts, map_cons, map_cons, ih]

end

theorem commit_ref_range (transition_id : String) (projection_epoch session_seq : Nat)
    (facts : List EventRecord) :
    (commit_ref transition_id session_seq facts).fact_seq_start
        = (stamp_facts projection_epoch session_seq facts).head?.bind (·.session_seq)
      ∧ (commit_ref transition_id session_seq facts).fact_seq_end
        = (stamp_facts projection_epoch session_seq facts).getLast?.bind (·.session_seq) := by
  cases facts with
  | nil => exact ⟨rfl, rfl⟩
  | cons fact rest =>
    refine ⟨rfl, ?_⟩
    have hsequences := stamp_facts_sequences projection_epoch session_seq (fact :: rest)
    have hlast := congrArg List.getLast? hsequences
    rw [List.getLast?_map, List.getLast?_map, List.getLast?_range'] at hlast
    cases hstamped : (stamp_facts projection_epoch session_seq (fact :: rest)).getLast? with
    | none => simp [hstamped] at hlast
    | some last =>
      rw [hstamped, Option.map_some] at hlast
      rw [Option.bind_some, Option.some.inj hlast]
      simp [commit_ref]
      omega

theorem facts_to_commit_event_ids (session_id : String) (unit : AuthoritativeUnitOfWork)
    (state_cas : OperationStateCAS) :
    (facts_to_commit db session_id unit state_cas).map (·.event_id)
      = unit.facts.map (·.event_id) := by
  unfold facts_to_commit
  cases child_binding_of_run db session_id state_cas.run_id with
  | none => rfl
  | some binding =>
    rw [map_map]
    rfl

variable {session_id : String}

theorem insert_event_record_row {events events' : Table (String × Nat) EventRow}
    {session_seq : Nat} {event : EventRow}
    (h : insert_event_record events session_id session_seq event = .ok events')
    (key : String × Nat) (event_id : String) :
    (events'.row key).map (·.event_id) = some event_id ↔
      (events.row key).map (·.event_id) = some event_id
        ∨ key = (session_id, session_seq) ∧ event.event_id = event_id := by
  simp only [insert_event_record, Result.check_bind_eq_ok, insert_row_eq_ok] at h
  obtain ⟨-, hfree, rfl⟩ := h
  rw [Table.row_put]
  by_cases hkey : key = (session_id, session_seq)
  · rw [if_pos hkey, hkey, hfree]
    simp
  · simp [hkey]

theorem insert_event_records_row {events events' : Table (String × Nat) EventRow}
    {projection_epoch : Nat} {facts : List EventRecord}
    (h : insert_event_records session_id projection_epoch events facts = .ok events')
    (key : String × Nat) (event_id : String) :
    (events'.row key).map (·.event_id) = some event_id ↔
      (events.row key).map (·.event_id) = some event_id
        ∨ key.1 = session_id ∧ (key.2, Allocated.event event_id) ∈ facts.map allocation := by
  induction facts generalizing events with
  | nil =>
    cases h
    simp
  | cons fact rest ih =>
    simp only [insert_event_records, Result.bind_eq_ok] at h
    obtain ⟨middle, hfirst, hrest⟩ := h
    rw [ih hrest, insert_event_record_row hfirst, map_cons, mem_cons]
    simp only [allocation, event_row, Prod.mk.injEq, Allocated.event.injEq]
    constructor
    · rintro ((hold | ⟨rfl, hid⟩) | ⟨hsession, hmem⟩)
      · exact Or.inl hold
      · exact Or.inr ⟨rfl, Or.inl ⟨rfl, hid.symm⟩⟩
      · exact Or.inr ⟨hsession, Or.inr hmem⟩
    · rintro (hold | ⟨hsession, ⟨hseq, hid⟩ | hmem⟩)
      · exact Or.inl (Or.inl hold)
      · exact Or.inl (Or.inr ⟨Prod.ext hsession hseq, hid.symm⟩)
      · exact Or.inr ⟨hsession, hmem⟩

theorem admitted_put_mailbox_slot (mailbox : Table (String × String) MailboxRow)
    (session_id : String) (slot : MailboxDispositionSlot) (key : String × String) :
    ((put_mailbox_slot mailbox session_id slot).row key).bind (·.admitted_session_seq)
      = (mailbox.row key).bind (·.admitted_session_seq) := by
  unfold put_mailbox_slot
  rw [Table.row_put]
  by_cases hkey : key = (session_id, slot.slot_id)
  · rw [if_pos hkey, hkey]
    rfl
  · rw [if_neg hkey]

theorem admitted_put_mailbox_slots (slots : List MailboxDispositionSlot) (session_id : String)
    (mailbox : Table (String × String) MailboxRow) (key : String × String) :
    ((slots.foldl (fun mailbox slot => put_mailbox_slot mailbox session_id slot) mailbox).row
        key).bind (·.admitted_session_seq)
      = (mailbox.row key).bind (·.admitted_session_seq) := by
  induction slots generalizing mailbox with
  | nil => rfl
  | cons slot rest ih => rw [foldl_cons, ih, admitted_put_mailbox_slot]

/-! ## One event -/

/-- The session moved by exactly the given allocations. -/
structure SequenceAdvanced (db db' : Tables) (session_id : String)
    (allocated : List (Nat × Allocated)) : Prop where
  counter : (db'.fact_source session_id).session_seq
    = (db.fact_source session_id).session_seq + allocated.length
  numbers : allocated.map Prod.fst
    = List.range' ((db.fact_source session_id).session_seq + 1) allocated.length
  stored : ∀ sequence thing, StoredAt db' session_id sequence thing ↔
    StoredAt db session_id sequence thing ∨ (sequence, thing) ∈ allocated

theorem SequenceAdvanced.none
    (hcounter : (db'.fact_source session_id).session_seq = (db.fact_source session_id).session_seq)
    (hevents : ∀ sequence,
      (db'.session_event_records.row (session_id, sequence)).map (·.event_id)
        = (db.session_event_records.row (session_id, sequence)).map (·.event_id))
    (hmailbox : ∀ command_id,
      (db'.session_mailbox_slots.row (session_id, command_id)).bind (·.admitted_session_seq)
        = (db.session_mailbox_slots.row (session_id, command_id)).bind (·.admitted_session_seq)) :
    SequenceAdvanced db db' session_id [] := by
  refine ⟨hcounter, rfl, ?_⟩
  intro sequence thing
  cases thing with
  | event event_id => simp [StoredAt, hevents]
  | command command_id => simp [StoredAt, hmailbox]

/-- The events were inserted under the session, and the counter moved by their number. -/
theorem SequenceAdvanced.of_events {facts : List EventRecord} {source : FactSource}
    (hsource : db'.session_fact_source
      = db.session_fact_source.put session_id source)
    (hcounter : source.session_seq = (db.fact_source session_id).session_seq + facts.length)
    (hnumbers : facts.map (·.session_seq)
      = (List.range' ((db.fact_source session_id).session_seq + 1) facts.length).map some)
    (hevents : ∀ key event_id, (db'.session_event_records.row key).map (·.event_id) = some event_id ↔
      (db.session_event_records.row key).map (·.event_id) = some event_id
        ∨ key.1 = session_id ∧ (key.2, Allocated.event event_id) ∈ facts.map allocation)
    (hmailbox : ∀ key, (db'.session_mailbox_slots.row key).bind (·.admitted_session_seq)
      = (db.session_mailbox_slots.row key).bind (·.admitted_session_seq)) (other : String) :
    SequenceAdvanced db db' other
      (if session_id = other then facts.map allocation else []) := by
  have hfact_source : db'.fact_source other
      = if other = session_id then source else db.fact_source other := by
    unfold Tables.fact_source
    rw [hsource, Table.row_put]
    split <;> rfl
  by_cases hsession : session_id = other
  · subst hsession
    rw [if_pos rfl]
    refine ⟨?_, ?_, ?_⟩
    · rw [hfact_source, if_pos rfl, hcounter, length_map]
    · have hgetD : (facts.map allocation).map Prod.fst
          = (facts.map (·.session_seq)).map (·.getD 0) := by
        rw [map_map, map_map]
        rfl
      rw [hgetD, hnumbers, map_map, length_map]
      exact map_id _
    · intro sequence thing
      cases thing with
      | event event_id => simpa [StoredAt] using hevents (session_id, sequence) event_id
      | command command_id =>
        simp only [StoredAt, hmailbox]
        refine (or_iff_left ?_).symm
        intro hmem
        obtain ⟨_, -, heq⟩ := mem_map.mp hmem
        cases (Prod.mk.inj heq).2
  · rw [if_neg hsession]
    refine SequenceAdvanced.none ?_ ?_ (fun _ => hmailbox _)
    · rw [hfact_source, if_neg (Ne.symm hsession)]
    · intro sequence
      refine Option.ext (fun event_id => ?_)
      rw [hevents, or_iff_left]
      exact fun hboth => hsession hboth.1.symm

variable {authority : OwnerAuthority} {commit : AuthoritativeCommit} {clock : Datetime}
  {unit : UnitOfWork}

theorem TypedCommit.sequence_advanced {transition_id : String} {state_cas : OperationStateCAS}
    {state_value : JsonObject} {plan : CommitPlan} {receipt : TransitionReceiptRow}
    (stored : Option JsonObject) (new_sessions_enabled : Bool)
    (h : TypedCommit host db clock authority unit transition_id state_cas state_value plan receipt
      db' commit) (session_id : String) :
    SequenceAdvanced db db' session_id ((StoreEvent.call clock
      (.commit_authoritative_uow authority unit stored new_sessions_enabled)
      (.ok (.commit commit))).allocated session_id) := by
  obtain ⟨events, bindings, hevents, -, rfl⟩ := h.fresh.tables
  have hevent : (StoreEvent.call clock
      (.commit_authoritative_uow authority unit stored new_sessions_enabled)
      (.ok (.commit commit))).allocated session_id
        = if authority.session_id = session_id then
            receipt.result.facts.map allocation else [] := by
    rw [h.fresh.commit_eq]
    simp [StoreEvent.allocated, fresh_commit]
  have hfacts : receipt.result.facts = stamp_facts
      (db.fact_source authority.session_id).projection_epoch
      (db.fact_source authority.session_id).session_seq plan.facts_to_commit := by
    rw [h.fresh.result]
    rfl
  rw [hevent]
  refine SequenceAdvanced.of_events rfl rfl ?_ (insert_event_records_row hevents) ?_ session_id
  · rw [hfacts, stamp_facts_sequences, stamp_facts_length]
  · exact admitted_put_mailbox_slots plan.disposition_slots authority.session_id
      db.session_mailbox_slots

theorem LegacyCommit.sequence_advanced {session_state : JsonObject} {event : EventRecord}
    (stored : Option JsonObject) (new_sessions_enabled : Bool)
    (h : LegacyCommit db authority { unit.val with session_state := session_state } event db'
      commit) (session_id : String) :
    SequenceAdvanced db db' session_id ((StoreEvent.call clock
      (.commit_authoritative_uow authority unit stored new_sessions_enabled)
      (.ok (.commit commit))).allocated session_id) := by
  have hevent : (StoreEvent.call clock
      (.commit_authoritative_uow authority unit stored new_sessions_enabled)
      (.ok (.commit commit))).allocated session_id
        = if authority.session_id = session_id then
            [{ event with
              session_seq := some ((db.fact_source authority.session_id).session_seq + 1)
              projection_epoch := some (db.fact_source authority.session_id).projection_epoch }].map
              allocation
          else [] := by
    simp [StoreEvent.allocated, h.fresh, h.committed_event, h.committed_facts]
  rw [hevent]
  refine SequenceAdvanced.of_events h.fact_source rfl rfl ?_ ?_ session_id
  · intro key event_id
    rw [insert_event_record_row h.event_records]
    refine or_congr_right ?_
    simp [allocation, event_row, Prod.ext_iff, eq_comm, and_assoc]
  · intro key
    rw [h.mailbox_slots]
    cases unit.val.mailbox with
    | none => rfl
    | some slot => exact admitted_put_mailbox_slot _ _ slot key

theorem FreshAdmission.sequence_advanced {command : RuntimeCommand}
    {admission : RuntimeCommandAdmission} (h : FreshAdmission db authority command db' admission)
    (session_id : String) :
    SequenceAdvanced db db' session_id ((StoreEvent.call clock
      (.admit_runtime_command authority command) (.ok (.admission admission))).allocated
        session_id) := by
  obtain ⟨invalidates, -, source, hsource, hdb, hsequence, -⟩ := h.tables
  have hfact_source : db'.fact_source session_id
      = if session_id = authority.session_id then source else db.fact_source session_id := by
    rw [hdb]
    exact Tables.fact_source_set db authority.session_id session_id source
  have hmailbox : ∀ command_id,
      (db'.session_mailbox_slots.row (session_id, command_id)).bind (·.admitted_session_seq)
        = if session_id = authority.session_id ∧ command_id = command.command_id then
            some source.session_seq
          else (db.session_mailbox_slots.row (session_id, command_id)).bind
            (·.admitted_session_seq) := by
    intro command_id
    rw [hdb]
    simp only [Table.row_put, Prod.mk.injEq]
    split <;> rfl
  have hevents : db'.session_event_records = db.session_event_records := by
    rw [hdb]
    rfl
  simp only [StoreEvent.allocated, h.fresh, and_true, hsequence]
  by_cases hsession : authority.session_id = session_id
  · subst hsession
    rw [if_pos rfl]
    have hnew : (db.session_mailbox_slots.row (authority.session_id, command.command_id)).bind
        (·.admitted_session_seq) = none := by
      rw [h.new]
      rfl
    refine ⟨?_, ?_, ?_⟩
    · rw [hfact_source, if_pos rfl, hsource]
      rfl
    · rw [hsource]
      rfl
    · intro sequence thing
      cases thing with
      | event event_id => simp [StoredAt, hevents]
      | command command_id =>
        simp only [StoredAt, hmailbox, true_and, mem_singleton, Prod.mk.injEq,
          Allocated.command.injEq]
        by_cases hcommand : command_id = command.command_id
        · subst hcommand
          simp [hnew, eq_comm]
        · simp [hcommand]
  · rw [if_neg hsession]
    refine SequenceAdvanced.none ?_ (fun sequence => by rw [hevents]) (fun command_id => ?_)
    · rw [hfact_source, if_neg (Ne.symm hsession)]
    · rw [hmailbox, if_neg (fun hboth => hsession hboth.1.symm)]

/-- **Every event allocates exactly what its answer says.** -/
theorem sequence_step {event : StoreEvent} (h : StoreStep host db event db') (session_id : String) :
    SequenceAdvanced db db' session_id (event.allocated session_id) := by
  cases step_kind h with
  | quiet replayed hquiet =>
    rw [StoreEvent.allocated_of_not_fresh replayed]
    exact SequenceAdvanced.none (hquiet.session_seq session_id)
      (fun _ => by rw [hquiet.event_records]) (fun _ => by rw [hquiet.mailbox_slots])
  | typed hcommit => exact hcommit.sequence_advanced _ _ session_id
  | legacy _ _ hlegacy => exact hlegacy.sequence_advanced _ _ session_id
  | admitted hadmitted => exact hadmitted.sequence_advanced session_id
  | attempt target _ hwritten =>
    obtain ⟨_, -, -, rfl, -⟩ := hwritten
    rw [StoreEvent.allocated_of_not_fresh rfl]
    exact SequenceAdvanced.none rfl (fun _ => rfl) (fun _ => rfl)

/-! ## Whole runs -/

/-- **The allocations of a run** are `1, …, session_seq`, and they are what the tables hold. -/
theorem allocations_dense {events : List StoreEvent} (h : StoreRun host events db)
    (session_id : String) :
    (allocations session_id events).map Prod.fst
        = List.range' 1 (db.fact_source session_id).session_seq
      ∧ ∀ sequence thing, StoredAt db session_id sequence thing
          ↔ (sequence, thing) ∈ allocations session_id events := by
  refine h.history (P := fun events tables =>
    (allocations session_id events).map Prod.fst
        = List.range' 1 (tables.fact_source session_id).session_seq
      ∧ ∀ sequence thing, StoredAt tables session_id sequence thing
          ↔ (sequence, thing) ∈ allocations session_id events) ?_ ?_
  · refine ⟨rfl, fun sequence thing => ?_⟩
    cases thing <;> simp [StoredAt, Tables.empty, allocations]
  · rintro history before event after - ⟨hdense, hstored⟩ hstep
    have hadvanced := sequence_step hstep session_id
    have happend : allocations session_id (history ++ [event])
        = allocations session_id history ++ event.allocated session_id := by
      simp [allocations]
    refine ⟨?_, fun sequence thing => ?_⟩
    · rw [happend, map_append, hdense, hadvanced.numbers, hadvanced.counter,
        Nat.add_comm (before.fact_source session_id).session_seq 1, range'_append_1]
    · rw [happend, mem_append, hadvanced.stored, hstored]

theorem committed_fact_range {stored : Option JsonObject} {new_sessions_enabled : Bool}
    (htyped : unit.val.transition_id ≠ none) (hfresh : commit.idempotent = false)
    (h : StoreStep host db (.call clock
      (.commit_authoritative_uow authority unit stored new_sessions_enabled)
      (.ok (.commit commit))) db') :
    commit.facts.map (·.event_id) = unit.val.facts.map (·.event_id)
      ∧ commit.facts.map (·.session_seq) = (List.range'
          ((db.fact_source authority.session_id).session_seq + 1) unit.val.facts.length).map some
      ∧ ∃ state_version, commit.state_version = some state_version
        ∧ state_version.commit_ref.fact_seq_start = commit.facts.head?.bind (·.session_seq)
        ∧ state_version.commit_ref.fact_seq_end = commit.facts.getLast?.bind (·.session_seq) := by
  cases step_kind h with
  | quiet replayed =>
    simp [StoreEvent.fresh, StoreAnswer.fresh, hfresh] at replayed
  | legacy untyped => exact absurd untyped htyped
  | @typed _ _ _ _ _ transition_id state_cas state_value plan receipt _ _ hcommit =>
    have hresult := hcommit.fresh.result
    have hfacts : commit.facts = stamp_facts
        (db.fact_source authority.session_id).projection_epoch
        (db.fact_source authority.session_id).session_seq plan.facts_to_commit := by
      rw [hcommit.fresh.commit_eq, fresh_commit, hresult]
      rfl
    have hids : plan.facts_to_commit.map (·.event_id) = unit.val.facts.map (·.event_id) := by
      rw [hcommit.fresh.facts, facts_to_commit_event_ids]
    have hlength : plan.facts_to_commit.length = unit.val.facts.length := by
      simpa using congrArg List.length hids
    have hsequences := stamp_facts_sequences
      (db.fact_source authority.session_id).projection_epoch
      (db.fact_source authority.session_id).session_seq plan.facts_to_commit
    refine ⟨by rw [hfacts, stamp_facts_event_ids, hids], by rw [hfacts, hsequences, hlength],
      receipt.result.state_version, by rw [hcommit.fresh.commit_eq]; rfl, ?_⟩
    rw [hfacts, hresult]
    exact commit_ref_range transition_id _ _ plan.facts_to_commit

/-- **Session sequence allocation.** After every run: the numbers from 1 to the session's
current one were allocated in commit order, each to exactly one stored record or admitted
command, and nothing is stored under another number; a typed transition's facts occupy the
contiguous range its commit reference names, in proposal order; and a replay consumes nothing. -/
theorem session_sequence_allocation {events : List StoreEvent} (hrun : StoreRun host events db)
    (session_id : String) :
    (allocations session_id events).map Prod.fst
        = List.range' 1 (db.fact_source session_id).session_seq
    ∧ (∀ sequence, 1 ≤ sequence → sequence ≤ (db.fact_source session_id).session_seq →
        ∃! thing, StoredAt db session_id sequence thing)
    ∧ (∀ sequence thing, StoredAt db session_id sequence thing →
        (sequence, thing) ∈ allocations session_id events
          ∧ 1 ≤ sequence ∧ sequence ≤ (db.fact_source session_id).session_seq)
    ∧ (∀ clock authority unit stored new_sessions_enabled commit after,
        unit.val.transition_id ≠ none → commit.idempotent = false →
        StoreStep host db (.call clock
          (.commit_authoritative_uow authority unit stored new_sessions_enabled)
          (.ok (.commit commit))) after →
        commit.facts.map (·.event_id) = unit.val.facts.map (·.event_id)
          ∧ commit.facts.map (·.session_seq) = (List.range'
              ((db.fact_source authority.session_id).session_seq + 1) unit.val.facts.length).map some
          ∧ ∃ state_version, commit.state_version = some state_version
            ∧ state_version.commit_ref.fact_seq_start = commit.facts.head?.bind (·.session_seq)
            ∧ state_version.commit_ref.fact_seq_end = commit.facts.getLast?.bind (·.session_seq))
    ∧ (∀ event after, StoreStep host db event after → event.fresh = false →
        (after.fact_source session_id).session_seq = (db.fact_source session_id).session_seq
          ∧ ∀ sequence thing,
              StoredAt after session_id sequence thing ↔ StoredAt db session_id sequence thing) := by
  obtain ⟨hdense, hstored⟩ := allocations_dense hrun session_id
  have hnodup : ((allocations session_id events).map Prod.fst).Nodup := by
    rw [hdense]
    exact nodup_range'
  refine ⟨hdense, ?_, ?_, ?_, ?_⟩
  · intro sequence hpos hle
    have hmem : sequence ∈ (allocations session_id events).map Prod.fst := by
      rw [hdense, mem_range'_1]
      omega
    obtain ⟨⟨_, thing⟩, hallocated, rfl⟩ := mem_map.mp hmem
    refine ⟨thing, (hstored _ _).mpr hallocated, ?_⟩
    intro other hother
    have hsame := inj_on_of_nodup_map hnodup ((hstored _ _).mp hother) hallocated rfl
    exact (Prod.mk.inj hsame).2
  · intro sequence thing hthing
    have hallocated := (hstored _ _).mp hthing
    have hmem : sequence ∈ (allocations session_id events).map Prod.fst :=
      mem_map.mpr ⟨_, hallocated, rfl⟩
    rw [hdense, mem_range'_1] at hmem
    exact ⟨hallocated, hmem.1, by omega⟩
  · intro clock authority unit stored new_sessions_enabled commit after htyped hfresh hstep
    exact committed_fact_range htyped hfresh hstep
  · intro event after hstep hreplayed
    have hadvanced := sequence_step hstep session_id
    rw [StoreEvent.allocated_of_not_fresh hreplayed] at hadvanced
    refine ⟨hadvanced.counter, fun sequence thing => ?_⟩
    rw [hadvanced.stored]
    simp

/-- The worked run's first number is its fact's, and there is no other. -/
theorem sample_sequence : ∃! thing, StoredAt sample_reserved "s" 1 thing :=
  (session_sequence_allocation (play_run sample_host Tables.empty sample_script) "s").2.1 1
    (by decide) (by decide)

end CodingAgentLoop
