/-
What one event can do to each table.

The invariants of the ledger, the attempts, the operation states and the sequence
counter are each about one or two tables. This file says, table by table, which
events write it and what they write: first for a fresh typed commit
(`FreshCommit.*`), then for a legacy unit and an admission, and last for an
arbitrary event of a run (`effect_row_step`, `attempt_row_step`,
`state_row_step`). Every row those three do not mention is untouched.
-/
import CodingAgentLoop.AttemptMoves

namespace CodingAgentLoop

open Lib JsonObject List Result

variable {host : Host} {db db' : Tables} {clock : Datetime}

/-! ## One slot of a fresh commit -/

section EffectSlot

variable {authority : OwnerAuthority} {transition_id : String} {mutation : EffectMutation}
  {slot : EffectLedgerSlot}

theorem merged_effect_slot_cases
    (h : merged_effect_slot db authority.session_id mutation = .ok slot) :
    (mutation.expected_status = none
        ∧ db.session_effect_slots.row (authority.session_id, mutation.effect_id) = none
        ∧ slot = effect_slot_from_mutation mutation)
    ∨ ∃ expected_status current, mutation.expected_status = some expected_status
        ∧ db.session_effect_slots.row (authority.session_id, mutation.effect_id) = some current
        ∧ current.status = expected_status.value
        ∧ current.payload.get "attempt_id" = .str mutation.attempt_id
        ∧ slot = { effect_slot_from_mutation mutation with
            payload := current.payload.merge (effect_slot_from_mutation mutation).payload } := by
  unfold merged_effect_slot at h
  cases hexpected : mutation.expected_status with
  | none =>
    cases hrow : db.session_effect_slots.row (authority.session_id, mutation.effect_id) with
    | none =>
      simp only [hexpected, hrow, Except.ok.injEq] at h
      exact Or.inl ⟨rfl, rfl, h.symm⟩
    | some current => simp [hexpected, hrow] at h
  | some expected_status =>
    cases hrow : db.session_effect_slots.row (authority.session_id, mutation.effect_id) with
    | none => simp [hexpected, hrow] at h
    | some current =>
      simp only [hexpected, hrow, bind_eq_ok, raise_if_eq_ok, not_not,
        pure_eq_ok] at h
      obtain ⟨_, hstatus, _, hattempt, hslot⟩ := h
      exact Or.inr ⟨expected_status, current, rfl, rfl, hstatus, hattempt, hslot.symm⟩

theorem effect_slot_eq_ok :
    effect_slot db authority transition_id mutation = .ok slot ↔
      ∃ merged, merged_effect_slot db authority.session_id mutation = .ok merged
        ∧ slot = if mutation.is_dispatch then
            { merged with
              payload := merged.payload.merge
                [("authorization_transition_id", .str transition_id),
                 ("dispatch_owner_epoch", .int authority.epoch)] }
          else merged := by
  simp only [effect_slot, bind_eq_ok]
  refine exists_congr (fun merged => and_congr_right (fun _ => ?_))
  split <;> rw [pure_eq_ok, eq_comm]

theorem effect_slot_from_mutation_find_attempt_id (mutation : EffectMutation) :
    find (effect_slot_from_mutation mutation).payload "attempt_id"
      = some (.str mutation.attempt_id) := by
  unfold effect_slot_from_mutation
  cases mutation.reconciliation <;> simp

theorem effect_slot_from_mutation_find (mutation : EffectMutation) {key : String}
    (hattempt : key ≠ "attempt_id") (hreconciliation : key ≠ "reconciliation") :
    find (effect_slot_from_mutation mutation).payload key
      = mutation.payload.find key := by
  unfold effect_slot_from_mutation
  cases mutation.reconciliation <;> simp [hattempt, hreconciliation]

theorem effect_slot_identity (h : effect_slot db authority transition_id mutation = .ok slot) :
    slot.effect_id = mutation.effect_id ∧ slot.status = mutation.status.value
      ∧ slot.payload.get "attempt_id" = .str mutation.attempt_id := by
  obtain ⟨merged, hmerged, hslot⟩ := effect_slot_eq_ok.mp h
  have hbase : merged.effect_id = mutation.effect_id ∧ merged.status = mutation.status.value
      ∧ merged.payload.find "attempt_id" = some (.str mutation.attempt_id) := by
    rcases merged_effect_slot_cases hmerged with ⟨-, -, rfl⟩ | ⟨_, current, -, -, -, -, rfl⟩
    · exact ⟨rfl, rfl, effect_slot_from_mutation_find_attempt_id mutation⟩
    · refine ⟨rfl, rfl, ?_⟩
      rw [find_merge, effect_slot_from_mutation_find_attempt_id]
      rfl
  subst hslot
  split
  · refine ⟨hbase.1, hbase.2.1, ?_⟩
    rw [JsonObject.get, find_merge, hbase.2.2]
    rfl
  · exact ⟨hbase.1, hbase.2.1, by rw [JsonObject.get, hbase.2.2]; rfl⟩

end EffectSlot

/-! ## A fresh typed commit, table by table -/

namespace FreshCommit

variable {authority : OwnerAuthority} {unit : AuthoritativeUnitOfWork}
  {state_cas : OperationStateCAS} {transition_id : String} {state_value : JsonObject}
  {receipt : TransitionReceiptRow} {plan : CommitPlan} {commit : AuthoritativeCommit}
  (h : FreshCommit db authority unit state_cas transition_id state_value receipt plan db' commit)

include h

theorem tables :
    ∃ events bindings,
      insert_event_records authority.session_id
          (db.fact_source authority.session_id).projection_epoch db.session_event_records
          receipt.result.facts = .ok events
      ∧ insert_child_bindings authority.session_id db.session_child_bindings unit.child_bindings
          = .ok bindings
      ∧ db' = { db with
          session_transition_receipts := db.session_transition_receipts.put
            (authority.session_id, state_cas.projection_epoch, transition_id) receipt
          session_event_records := events
          session_fact_source := db.session_fact_source.put authority.session_id
            { db.fact_source authority.session_id with
              session_seq := (db.fact_source authority.session_id).session_seq
                + receipt.result.facts.length }
          session_operation_states := db.session_operation_states.put
            (authority.session_id, state_cas.run_id) receipt.result.state_version
          session_mailbox_slots := plan.disposition_slots.foldl
            (fun mailbox slot => put_mailbox_slot mailbox authority.session_id slot)
            db.session_mailbox_slots
          session_effect_slots := db.session_effect_slots.put_all
            (effect_rows authority.session_id plan.effect_slots)
          session_executor_attempts :=
            put_attempt (put_attempt db.session_executor_attempts plan.closeout_attempt)
              plan.executor_attempt
          session_child_bindings := bindings } := by
  have hwritten := h.written
  simp only [write_commit, bind_eq_ok, insert_row_eq_ok, pure_eq_ok] at hwritten
  obtain ⟨_, ⟨-, rfl⟩, events, hevents, bindings, hbindings, hdb⟩ := hwritten
  exact ⟨events, bindings, hevents, hbindings, hdb.symm⟩

theorem effect_slots_eq : db'.session_effect_slots = db.session_effect_slots.put_all
    (effect_rows authority.session_id plan.effect_slots) := by
  obtain ⟨_, _, -, -, rfl⟩ := h.tables
  rfl

theorem attempts_eq : db'.session_executor_attempts =
    put_attempt (put_attempt db.session_executor_attempts plan.closeout_attempt)
      plan.executor_attempt := by
  obtain ⟨_, _, -, -, rfl⟩ := h.tables
  rfl

theorem states_eq : db'.session_operation_states = db.session_operation_states.put
    (authority.session_id, state_cas.run_id) receipt.result.state_version := by
  obtain ⟨_, _, -, -, rfl⟩ := h.tables
  rfl

theorem receipts_eq : db'.session_transition_receipts = db.session_transition_receipts.put
    (authority.session_id, state_cas.projection_epoch, transition_id) receipt := by
  obtain ⟨_, _, -, -, rfl⟩ := h.tables
  rfl

theorem effect_rows_keys :
    (effect_rows authority.session_id plan.effect_slots).map Prod.fst
      = unit.normalized_effect_mutations.map (fun m => (authority.session_id, m.effect_id)) := by
  have hpairs := mapM_eq_ok.mp h.effects
  unfold effect_rows
  rw [map_map]
  clear h
  generalize unit.normalized_effect_mutations = mutations at hpairs ⊢
  generalize plan.effect_slots = slots at hpairs ⊢
  induction hpairs with
  | nil => rfl
  | cons hslot _ ih =>
    rw [map_cons, map_cons, ih, Function.comp_apply, (effect_slot_identity hslot).1]

/-- An effect row after a fresh commit: written by the one mutation about that effect, or
left alone. -/
theorem effect_row (hnodup : (unit.normalized_effect_mutations.map (·.effect_id)).Nodup)
    (session_id effect_id : String) :
    (db'.session_effect_slots.row (session_id, effect_id)
        = db.session_effect_slots.row (session_id, effect_id)
      ∧ (session_id = authority.session_id →
          ∀ mutation ∈ unit.normalized_effect_mutations, mutation.effect_id ≠ effect_id))
    ∨ (session_id = authority.session_id
      ∧ ∃ mutation ∈ unit.normalized_effect_mutations, mutation.effect_id = effect_id
        ∧ ∃ slot, effect_slot db authority transition_id mutation = .ok slot
          ∧ db'.session_effect_slots.row (session_id, effect_id)
              = some ⟨slot.status, slot.payload⟩) := by
  rw [h.effect_slots_eq]
  have hkeys := h.effect_rows_keys
  by_cases hmem : (session_id, effect_id)
      ∈ (effect_rows authority.session_id plan.effect_slots).map Prod.fst
  · right
    have hrows : ((effect_rows authority.session_id plan.effect_slots).map Prod.fst).Nodup := by
      rw [hkeys, show (fun m : EffectMutation => (authority.session_id, m.effect_id))
        = (fun id => (authority.session_id, id)) ∘ (·.effect_id) from rfl, ← map_map]
      exact hnodup.map (fun a b hab => (Prod.mk.inj hab).2)
    obtain ⟨⟨key, row⟩, hrow, hkey⟩ := mem_map.mp hmem
    simp only at hkey
    subst hkey
    obtain ⟨slot, hslot, heq⟩ := mem_map.mp hrow
    obtain ⟨hkey, hrow_eq⟩ := Prod.mk.inj heq
    obtain ⟨hsession, heffect⟩ := Prod.mk.inj hkey
    have hpairs := mapM_eq_ok.mp h.effects
    obtain ⟨mutation, hmutation, hok⟩ : ∃ mutation ∈ unit.normalized_effect_mutations,
        effect_slot db authority transition_id mutation = .ok slot := by
      clear hnodup hkeys hmem hrows hrow h
      generalize unit.normalized_effect_mutations = mutations at hpairs ⊢
      generalize plan.effect_slots = slots at hpairs hslot
      induction hpairs with
      | nil => cases hslot
      | cons hhead _ ih =>
        rcases mem_cons.mp hslot with rfl | htail
        · exact ⟨_, mem_cons_self, hhead⟩
        · obtain ⟨m, hm, hmok⟩ := ih htail
          exact ⟨m, mem_cons_of_mem _ hm, hmok⟩
    refine ⟨hsession.symm, mutation, hmutation, ?_, slot, hok, ?_⟩
    · rw [← (effect_slot_identity hok).1, heffect]
    · rw [Table.row_put_all_of_mem _ _ hrows hrow, ← hrow_eq]
  · left
    refine ⟨Table.row_put_all_of_not_mem _ _ _ hmem, ?_⟩
    intro hsession mutation hmutation heffect
    apply hmem
    rw [hkeys, hsession, ← heffect]
    exact mem_map.mpr ⟨mutation, hmutation, rfl⟩

theorem opened_attempt :
    ((∀ mutation ∈ unit.normalized_effect_mutations, mutation.is_dispatch = false)
      ∧ plan.executor_attempt = none)
    ∨ ∃ mutation ∈ unit.normalized_effect_mutations, mutation.is_dispatch
        ∧ ∃ attempt, plan.executor_attempt = some attempt
          ∧ attempt.post_init = .ok ()
          ∧ attempt = {
              session_id := authority.session_id
              effect_id := mutation.effect_id
              attempt_id := mutation.attempt_id
              authorization_transition_id := transition_id
              dispatch_owner_epoch := authority.epoch
              status := .AUTHORIZED_UNCLAIMED
              authorization_mailbox_cut := unit.expected_mailbox_cut.getD 0
              authorization_mailbox_session_seq :=
                (db.fact_source authority.session_id).session_seq }
          ∧ db.session_executor_attempts.row attempt.key = none := by
  have hattempt := h.executor_attempt
  unfold dispatched_attempt at hattempt
  cases hfind : unit.normalized_effect_mutations.find? (·.is_dispatch) with
  | none =>
    simp only [hfind, Except.ok.injEq] at hattempt
    refine Or.inl ⟨?_, hattempt.symm⟩
    intro mutation hmem
    exact Bool.eq_false_iff.mpr (List.find?_eq_none.mp hfind mutation hmem)
  | some mutation =>
    rw [hfind] at hattempt
    simp only [bind_eq_ok, ExecutorAttemptRecord.checked_eq_ok, raise_if_eq_ok,
      Option.not_isSome_iff_eq_none, pure_eq_ok] at hattempt
    obtain ⟨attempt, ⟨hpost, hvalue⟩, _, hnone, hplan⟩ := hattempt
    refine Or.inr ⟨mutation, List.mem_of_find?_eq_some hfind, ?_, attempt, hplan.symm, ?_, hvalue,
      hnone⟩
    · have hp := List.find?_some hfind
      simpa using hp
    · rw [hvalue]
      exact hpost

end FreshCommit

/-! ## The other writers -/

/-- Nothing the invariants read has moved: owners, tapes, evidence, bindings or an
epoch may have. -/
structure Quiet (db db' : Tables) : Prop where
  effect_slots : db'.session_effect_slots = db.session_effect_slots
  executor_attempts : db'.session_executor_attempts = db.session_executor_attempts
  operation_states : db'.session_operation_states = db.session_operation_states
  transition_receipts : db'.session_transition_receipts = db.session_transition_receipts
  event_records : db'.session_event_records = db.session_event_records
  mailbox_slots : db'.session_mailbox_slots = db.session_mailbox_slots
  session_seq : ∀ session_id,
    (db'.fact_source session_id).session_seq = (db.fact_source session_id).session_seq
  dispatch_generation : ∀ session_id, (db'.fact_source session_id).dispatch_generation
    = (db.fact_source session_id).dispatch_generation

theorem Quiet.refl (db : Tables) : Quiet db db :=
  ⟨rfl, rfl, rfl, rfl, rfl, rfl, fun _ => rfl, fun _ => rfl⟩

theorem Quiet.ensure_fact_source (db : Tables) (session_id : String) :
    Quiet db (db.ensure_fact_source session_id) := by
  have hsource : ∀ other, (db.ensure_fact_source session_id).fact_source other
      = db.fact_source other := Tables.fact_source_ensure db session_id
  unfold Tables.ensure_fact_source at hsource ⊢
  split
  · exact Quiet.refl db
  · next hnone =>
    rw [hnone] at hsource
    exact ⟨rfl, rfl, rfl, rfl, rfl, rfl, fun other => by rw [hsource], fun other => by rw [hsource]⟩

theorem Quiet.open_projection_epoch (db : Tables) (session_id : String) :
    Quiet db (open_projection_epoch db session_id) := by
  refine ⟨rfl, rfl, rfl, rfl, rfl, rfl, fun other => ?_, fun other => ?_⟩ <;>
  · unfold CodingAgentLoop.open_projection_epoch
    rw [Tables.fact_source_set]
    split
    · next h => rw [h]
    · rfl

/-- A legacy unit that was committed now, table by table. -/
structure LegacyCommit (db : Tables) (authority : OwnerAuthority) (unit : AuthoritativeUnitOfWork)
    (event : EventRecord) (db' : Tables) (commit : AuthoritativeCommit) : Prop where
  executor_attempts : db'.session_executor_attempts = db.session_executor_attempts
  operation_states : db'.session_operation_states = db.session_operation_states
  transition_receipts : db'.session_transition_receipts = db.session_transition_receipts
  effect_slots : db'.session_effect_slots = put_legacy_effect db authority.session_id unit.effect
  mailbox_slots : db'.session_mailbox_slots = unit.mailbox.elim db.session_mailbox_slots
    (put_mailbox_slot db.session_mailbox_slots authority.session_id)
  event_records : insert_event_record db.session_event_records authority.session_id
    ((db.fact_source authority.session_id).session_seq + 1)
    (event_row (db.fact_source authority.session_id).projection_epoch event)
      = .ok db'.session_event_records
  fact_source : db'.session_fact_source = db.session_fact_source.put authority.session_id
    { db.fact_source authority.session_id with
      session_seq := (db.fact_source authority.session_id).session_seq + 1 }
  fresh : commit.idempotent = false
  committed_event : commit.event = some { event with
    session_seq := some ((db.fact_source authority.session_id).session_seq + 1)
    projection_epoch := some (db.fact_source authority.session_id).projection_epoch }
  committed_facts : commit.facts = []

section Replays

variable {session_id : String} {unit : AuthoritativeUnitOfWork} {event : EventRecord}
  {commit : AuthoritativeCommit}

theorem settled_root_replay_idempotent
    (h : settled_root_replay db session_id unit event = .ok (some commit)) :
    commit.idempotent = true := by
  unfold settled_root_replay at h
  split at h
  · cases h
  · split at h
    · exact absurd h (by simp)
    · rw [bind_eq_ok] at h
      obtain ⟨_, -, h⟩ := h
      split at h
      · cases h
      · rw [bind_eq_ok] at h
        obtain ⟨_, -, h⟩ := h
        split at h
        · exact absurd h (by simp)
        · simp only [bind_eq_ok, pure_eq_ok, Option.some.injEq] at h
          obtain ⟨_, -, rfl⟩ := h
          rfl

theorem chat_receipt_replay_idempotent {receipt : OperationReceiptSlot}
    (h : chat_receipt_replay db session_id receipt event = .ok (some commit)) :
    commit.idempotent = true := by
  unfold chat_receipt_replay at h
  split at h
  · cases h
  · rw [bind_eq_ok] at h
    obtain ⟨_, -, h⟩ := h
    split at h
    · exact absurd h (by simp)
    · simp only [bind_eq_ok, pure_eq_ok, Option.some.injEq] at h
      obtain ⟨_, -, rfl⟩ := h
      rfl

theorem check_chat_receipt_idempotent
    (h : check_chat_receipt db session_id unit event = .ok (some commit)) :
    commit.idempotent = true := by
  unfold check_chat_receipt at h
  split at h
  · cases h
  · simp only [bind_eq_ok] at h
    obtain ⟨replay, hreplay, h⟩ := h
    cases replay with
    | none =>
      simp only [bind_eq_ok, pure_eq_ok] at h
      obtain ⟨_, -, h⟩ := h
      cases h
    | some found =>
      rw [pure_eq_ok, Option.some.injEq] at h
      subst h
      exact chat_receipt_replay_idempotent hreplay

theorem existing_event_replay_idempotent
    (h : existing_event_replay db session_id event = .ok (some commit)) :
    commit.idempotent = true := by
  unfold existing_event_replay at h
  split at h
  · cases h
  · simp only [bind_eq_ok, pure_eq_ok, Option.some.injEq] at h
    obtain ⟨_, -, _, -, rfl⟩ := h
    rfl

end Replays

theorem bind_session_tape_cases {session_id : String} {session_state : JsonObject}
    (h : bind_session_tape db session_id session_state = .ok db') :
    ∃ tapes, db' = { db with session_tapes := tapes } := by
  unfold bind_session_tape at h
  split at h
  · split at h
    · cases h
      exact ⟨_, rfl⟩
    · simp only [bind_tape, bind_eq_ok, pure_eq_ok] at h
      obtain ⟨_, -, _, -, rfl⟩ := h
      exact ⟨_, rfl⟩
  · cases h
    exact ⟨_, rfl⟩

variable {authority : OwnerAuthority} {unit : AuthoritativeUnitOfWork}
  {commit : AuthoritativeCommit} {event : EventRecord}

section

variable (h : commit_legacy db clock authority unit event = .ok (db', commit))

include h

/-- A legacy unit is answered from what is stored, or written once every check has passed. -/
theorem commit_legacy_written :
    (commit.idempotent = true ∧ ∃ tapes,
        db' = Tables.ensure_fact_source { db with session_tapes := tapes } authority.session_id)
      ∨ ∃ tapes run_state, settled_root_replay db authority.session_id unit event = .ok none
        ∧ resumed_run_state db authority.session_id unit = .ok run_state
        ∧ write_legacy { db with session_tapes := tapes } authority.session_id unit event run_state
            = .ok (db', commit) := by
  simp only [commit_legacy, bind_eq_ok] at h
  obtain ⟨_, -, _, -, settled, hsettled, h⟩ := h
  cases settled with
  | some replay =>
    rw [pure_eq_ok, Prod.mk.injEq] at h
    obtain ⟨rfl, rfl⟩ := h
    exact Or.inl ⟨settled_root_replay_idempotent hsettled, db.session_tapes, rfl⟩
  | none =>
    simp only [bind_eq_ok] at h
    obtain ⟨chat, hchat, h⟩ := h
    cases chat with
    | some replay =>
      rw [pure_eq_ok, Prod.mk.injEq] at h
      obtain ⟨rfl, rfl⟩ := h
      exact Or.inl ⟨check_chat_receipt_idempotent hchat, db.session_tapes, rfl⟩
    | none =>
      simp only [bind_eq_ok] at h
      obtain ⟨run_state, hrun, bound, hbound, _, -, existing, hexisting, h⟩ := h
      obtain ⟨tapes, rfl⟩ := bind_session_tape_cases hbound
      cases existing with
      | some replay =>
        rw [pure_eq_ok, Prod.mk.injEq] at h
        obtain ⟨rfl, rfl⟩ := h
        exact Or.inl ⟨existing_event_replay_idempotent hexisting, tapes, rfl⟩
      | none => exact Or.inr ⟨tapes, run_state, hsettled, hrun, h⟩

theorem commit_legacy_checked (hfresh : commit.idempotent = false) :
    check_chat_receipt db authority.session_id unit event = .ok none := by
  simp only [commit_legacy, bind_eq_ok] at h
  obtain ⟨_, -, _, -, settled, hsettled, h⟩ := h
  cases settled with
  | some replay =>
    rw [pure_eq_ok, Prod.mk.injEq] at h
    obtain ⟨-, rfl⟩ := h
    rw [settled_root_replay_idempotent hsettled] at hfresh
    cases hfresh
  | none =>
    simp only [bind_eq_ok] at h
    obtain ⟨chat, hchat, h⟩ := h
    cases chat with
    | none => exact hchat
    | some replay =>
      rw [pure_eq_ok, Prod.mk.injEq] at h
      obtain ⟨-, rfl⟩ := h
      rw [check_chat_receipt_idempotent hchat] at hfresh
      cases hfresh

/-- **What a legacy unit can have done**: answered from what is stored, or committed. -/
theorem commit_legacy_cases :
    (commit.idempotent = true ∧ Quiet db db')
      ∨ LegacyCommit db authority unit event db' commit := by
  rcases commit_legacy_written h with ⟨hreplay, tapes, rfl⟩ | ⟨tapes, run_state, -, -, hwritten⟩
  · refine Or.inl ⟨hreplay, ?_⟩
    have hquiet := Quiet.ensure_fact_source { db with session_tapes := tapes } authority.session_id
    exact ⟨hquiet.1, hquiet.2, hquiet.3, hquiet.4, hquiet.5, hquiet.6, hquiet.7, hquiet.8⟩
  · simp only [write_legacy, bind_eq_ok, pure_eq_ok, Prod.mk.injEq] at hwritten
    obtain ⟨events, hevents, runs, -, rfl, rfl⟩ := hwritten
    exact Or.inr ⟨rfl, rfl, rfl, rfl, rfl, hevents, rfl, rfl, rfl, rfl⟩

end

/-- A command admitted now. -/
structure FreshAdmission (db : Tables) (authority : OwnerAuthority) (command : RuntimeCommand)
    (db' : Tables) (admission : RuntimeCommandAdmission) : Prop where
  new : db.session_mailbox_slots.row (authority.session_id, command.command_id) = none
  tables : ∃ invalidates_dispatch, runtime_command_invalidates_dispatch command
      = .ok invalidates_dispatch
    ∧ ∃ fact_source, fact_source = { db.fact_source authority.session_id with
          session_seq := (db.fact_source authority.session_id).session_seq + 1
          dispatch_generation := (db.fact_source authority.session_id).dispatch_generation
            + (if invalidates_dispatch then 1 else 0) }
      ∧ db' = { db.set_fact_source authority.session_id fact_source with
          session_mailbox_slots :=
            db.session_mailbox_slots.put (authority.session_id, command.command_id)
              { lane := "runtime"
                disposition := "pending"
                admitted_session_seq := some fact_source.session_seq
                admitted_dispatch_generation := some fact_source.dispatch_generation
                payload := runtime_command_mailbox_payload command } }
      ∧ admission.entry.admitted_session_seq = fact_source.session_seq
      ∧ admission.mailbox_cut = fact_source.dispatch_generation
  fresh : admission.idempotent = false

/-- **What an admission can have done**: answered from the mailbox, or admitted. -/
theorem admit_runtime_command_cases {command : RuntimeCommand} {admission : RuntimeCommandAdmission}
    (h : admit_runtime_command db clock authority command = .ok (db', admission)) :
    (admission.idempotent = true ∧ Quiet db db')
      ∨ FreshAdmission db authority command db' admission := by
  simp only [admit_runtime_command, bind_eq_ok] at h
  obtain ⟨invalidates_dispatch, hinvalidates, _, -, h⟩ := h
  split at h
  · simp only [readmission, bind_eq_ok, pure_eq_ok, Prod.mk.injEq] at h
    obtain ⟨answer, hanswer, rfl, rfl⟩ := h
    refine Or.inl ⟨?_, Quiet.ensure_fact_source _ _⟩
    split at hanswer
    · simp only [bind_eq_ok, pure_eq_ok] at hanswer
      obtain ⟨_, -, _, -, rfl⟩ := hanswer
      rfl
    · exact absurd hanswer (by simp)
  · next hnone =>
    rw [pure_eq_ok, Prod.mk.injEq] at h
    obtain ⟨rfl, rfl⟩ := h
    exact Or.inr ⟨hnone, ⟨invalidates_dispatch, hinvalidates, _, rfl, rfl, rfl, rfl⟩, rfl⟩

theorem record_evidence_quiet {evidence recorded : EffectReconciliationEvidence}
    (h : record_effect_reconciliation_evidence db clock authority evidence = .ok (db', recorded)) :
    Quiet db db' := by
  simp only [record_effect_reconciliation_evidence, bind_eq_ok] at h
  obtain ⟨_, -, _, -, _, -, h⟩ := h
  split at h
  · simp only [bind_eq_ok, pure_eq_ok, Prod.mk.injEq] at h
    obtain ⟨_, -, rfl, -⟩ := h
    exact Quiet.refl _
  · simp only [bind_eq_ok, pure_eq_ok, Prod.mk.injEq] at h
    obtain ⟨_, -, rfl, -⟩ := h
    exact ⟨rfl, rfl, rfl, rfl, rfl, rfl, fun _ => rfl, fun _ => rfl⟩

/-! ## Any event of a run -/

/-- A unit of work committed fresh as a typed transition. -/
structure TypedCommit (host : Host) (db : Tables) (clock : Datetime) (authority : OwnerAuthority)
    (unit : UnitOfWork) (transition_id : String) (state_cas : OperationStateCAS)
    (state_value : JsonObject) (plan : CommitPlan) (receipt : TransitionReceiptRow) (db' : Tables)
    (commit : AuthoritativeCommit) : Prop where
  typed : unit.val.transition_id = some transition_id
  cas : unit.val.state_cas = some state_cas
  value : unit.val.state_value = some state_value
  owner : assert_authority db clock authority = .ok ()
  fingerprint : receipt.mutation_fingerprint
    = transition_mutation_fingerprint host unit.val state_cas state_value
  fresh : FreshCommit db authority unit.val state_cas transition_id state_value receipt plan db'
    commit

/-- The kinds of event, by what they write. -/
inductive StepKind (host : Host) (db : Tables) : StoreEvent → Tables → Prop
  | quiet {event : StoreEvent} {db' : Tables} (replayed : event.fresh = false)
      (h : Quiet db db') : StepKind host db event db'
  | typed {clock : Datetime} {authority : OwnerAuthority} {unit : UnitOfWork}
      {stored : Option JsonObject} {new_sessions_enabled : Bool} {transition_id : String}
      {state_cas : OperationStateCAS} {state_value : JsonObject} {plan : CommitPlan}
      {receipt : TransitionReceiptRow} {db' : Tables} {commit : AuthoritativeCommit}
      (h : TypedCommit host db clock authority unit transition_id state_cas state_value plan
        receipt db' commit) :
      StepKind host db (.call clock
        (.commit_authoritative_uow authority unit stored new_sessions_enabled)
        (.ok (.commit commit))) db'
  | legacy {clock : Datetime} {authority : OwnerAuthority} {unit : UnitOfWork}
      {stored : Option JsonObject} {new_sessions_enabled : Bool} {event : EventRecord}
      {session_state : JsonObject} {db' : Tables} {commit : AuthoritativeCommit}
      (untyped : unit.val.transition_id = none)
      (event_eq : unit.val.event = some event)
      (h : LegacyCommit db authority { unit.val with session_state := session_state } event db'
        commit) :
      StepKind host db (.call clock
        (.commit_authoritative_uow authority unit stored new_sessions_enabled)
        (.ok (.commit commit))) db'
  | admitted {clock : Datetime} {authority : OwnerAuthority} {command : RuntimeCommand}
      {db' : Tables} {admission : RuntimeCommandAdmission}
      (h : FreshAdmission db authority command db' admission) :
      StepKind host db (.call clock (.admit_runtime_command authority command)
        (.ok (.admission admission))) db'
  | attempt {clock : Datetime} {call : StoreCall} {key : AttemptKey} {db' : Tables}
      {updated : ExecutorAttemptRecord}
      (target : call.attempt_key = some key)
      (owner : assert_authority db clock call.authority = .ok ())
      (h : AttemptWritten db call key db' updated) :
      StepKind host db (.call clock call (.ok (.attempt updated))) db'

/-- **Every event is of one of the kinds.** -/
theorem step_kind {event : StoreEvent} (h : StoreStep host db event db') :
    StepKind host db event db' := by
  cases event with
  | owner_changed session_id owner =>
    cases h
    exact .quiet rfl ⟨rfl, rfl, rfl, rfl, rfl, rfl, fun _ => rfl, fun _ => rfl⟩
  | owner_released session_id =>
    cases h
    exact .quiet rfl ⟨rfl, rfl, rfl, rfl, rfl, rfl, fun _ => rfl, fun _ => rfl⟩
  | projection_epoch_opened session_id =>
    cases h
    exact .quiet rfl (Quiet.open_projection_epoch db session_id)
  | call clock call answer =>
    cases answer with
    | error error =>
      rw [rejected_unchanged h]
      exact .quiet rfl (Quiet.refl db)
    | ok answer =>
      have hperform := accepted h
      cases call with
      | commit_authoritative_uow authority unit stored new_sessions_enabled =>
        obtain ⟨commit, hcommit, rfl⟩ := map_answer_eq_ok hperform
        cases htyped : unit.val.transition_id with
        | none =>
          obtain ⟨session_state, event, hevent, hlegacy⟩ :=
            legacy_commit_cases htyped hcommit
          rcases commit_legacy_cases hlegacy with ⟨hreplay, hquiet⟩ | hfresh
          · exact .quiet (by simp [StoreEvent.fresh, StoreAnswer.fresh, hreplay]) hquiet
          · exact .legacy htyped hevent hfresh
        | some transition_id =>
          obtain ⟨state_cas, state_value, hcas, hvalue, howner, hreplay | hfresh⟩ :=
            typed_commit_cases htyped hcommit
          · obtain ⟨-, ⟨_, _, -, rfl⟩, rfl⟩ := hreplay
            exact .quiet rfl (Quiet.ensure_fact_source _ _)
          · obtain ⟨plan, receipt, hfingerprint, hfresh⟩ := hfresh
            exact .typed ⟨htyped, hcas, hvalue, howner, hfingerprint, hfresh⟩
      | admit_runtime_command authority command =>
        obtain ⟨admission, hadmission, rfl⟩ := map_answer_eq_ok hperform
        rcases admit_runtime_command_cases hadmission with ⟨hreplay, hquiet⟩ | hfresh
        · exact .quiet (by simp [StoreEvent.fresh, StoreAnswer.fresh, hreplay]) hquiet
        · exact .admitted hfresh
      | record_effect_reconciliation_evidence authority evidence =>
        obtain ⟨recorded, hrecorded, rfl⟩ := map_answer_eq_ok hperform
        exact .quiet rfl (record_evidence_quiet hrecorded)
      | reserve_executor_attempt authority identity executor_id lease_expires_at =>
        obtain ⟨updated, hupdated, rfl⟩ := map_answer_eq_ok hperform
        obtain ⟨howner, ⟨rfl, -⟩ | hwritten⟩ := reserve_cases hupdated
        · exact .quiet rfl (Quiet.refl _)
        · exact .attempt rfl howner hwritten
      | mark_executor_attempt_started authority identity executor_id claim_generation now =>
        obtain ⟨updated, hupdated, rfl⟩ := map_answer_eq_ok hperform
        obtain ⟨howner, ⟨rfl, -⟩ | hwritten⟩ := started_cases hupdated
        · exact .quiet rfl (Quiet.refl _)
        · exact .attempt rfl howner hwritten
      | mark_executor_attempt_quiescent authority identity executor_id claim_generation now
          evidence_ref =>
          obtain ⟨updated, hupdated, rfl⟩ := map_answer_eq_ok hperform
          obtain ⟨howner, rfl | hwritten⟩ := quiescent_cases hupdated
          · exact .quiet rfl (Quiet.refl _)
          · exact .attempt rfl howner hwritten
      | quiesce_claimed_executor_attempt authority identity executor_id now evidence_ref =>
        obtain ⟨updated, hupdated, rfl⟩ := map_answer_eq_ok hperform
        obtain ⟨howner, rfl | hwritten⟩ := quiesce_claimed_cases hupdated
        · exact .quiet rfl (Quiet.refl _)
        · exact .attempt rfl howner hwritten
      | revoke_expired_executor_reservation authority identity executor_id claim_generation now
          evidence_ref =>
          obtain ⟨updated, hupdated, rfl⟩ := map_answer_eq_ok hperform
          obtain ⟨howner, rfl | hwritten⟩ := revoke_cases hupdated
          · exact .quiet rfl (Quiet.refl _)
          · exact .attempt rfl howner hwritten

end CodingAgentLoop
