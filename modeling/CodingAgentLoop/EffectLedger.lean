/-
The effect ledger over whole runs of typed commits.

The history of an effect is read off the events: the mutations that fresh typed
commits made to it. The ledger's safety couples three things -- that history, the
stored slot, and the executor attempts of the effect -- in one entry
(`LedgerEntry`): the history is a path of the legal transitions and ends at the
stored status; before the dispatch the effect has no attempt, after it exactly
one, under the transition that dispatched it; and the slot retains what the
dispatch stamped, although every later mutation merges its payload over it. One
step writes at most one slot (`effect_row_step`) and opens at most one attempt
(`attempt_row_step`); the entry is preserved by both, and a run keeps it.
-/
import CodingAgentLoop.AttemptMachine

namespace CodingAgentLoop

open Lib AuthoritativeUnitOfWork JsonObject List

variable {host : Host} {db db' : Tables}

/-! ## What the clients put into a unit -/

/-- The reserved fields of a slot's payload are the store's: a mutation of an existing
effect that does not dispatch it names no dispatch epoch, and an authorization only beside
a closeout guard, whose check compares the two. The coordinator's settlements carry
`result`, `reason_code`, `reason_message` and `message`; the commit port's
reconciliations the first three. -/
def RetainsReserved (unit : AuthoritativeUnitOfWork) : Prop :=
  ∀ mutation ∈ unit.normalized_effect_mutations, mutation.expected_status ≠ none →
    mutation.is_dispatch = false →
      mutation.payload.find "dispatch_owner_epoch" = none
        ∧ (unit.unstarted_dispatch_closeout = none →
          mutation.payload.find "authorization_transition_id" = none)

instance (unit : AuthoritativeUnitOfWork) : Decidable (RetainsReserved unit) :=
  inferInstanceAs (Decidable (∀ mutation ∈ unit.normalized_effect_mutations, _ → _ → _))

/-- A commit of a typed unit, as the coordinator and the commit port build it. -/
def TypedUnit (unit : UnitOfWork) : Prop :=
  unit.val.transition_id ≠ none ∧ RetainsReserved unit.val

instance (unit : UnitOfWork) : Decidable (TypedUnit unit) :=
  inferInstanceAs (Decidable (_ ∧ _))

def TypedEvent : StoreEvent → Prop
  | .call _ (.commit_authoritative_uow _ unit _ _) _ => TypedUnit unit
  | _ => True

instance (event : StoreEvent) : Decidable (TypedEvent event) :=
  match event with
  | .call _ (.commit_authoritative_uow _ unit _ _) _ => inferInstanceAs (Decidable (TypedUnit unit))
  | .call _ (.admit_runtime_command _ _) _ => inferInstanceAs (Decidable True)
  | .call _ (.record_effect_reconciliation_evidence _ _) _ => inferInstanceAs (Decidable True)
  | .call _ (.reserve_executor_attempt _ _ _ _) _ => inferInstanceAs (Decidable True)
  | .call _ (.mark_executor_attempt_started _ _ _ _ _) _ => inferInstanceAs (Decidable True)
  | .call _ (.mark_executor_attempt_quiescent _ _ _ _ _ _) _ => inferInstanceAs (Decidable True)
  | .call _ (.quiesce_claimed_executor_attempt _ _ _ _ _) _ => inferInstanceAs (Decidable True)
  | .call _ (.revoke_expired_executor_reservation _ _ _ _ _ _) _ =>
    inferInstanceAs (Decidable True)
  | .owner_changed _ _ => inferInstanceAs (Decidable True)
  | .owner_released _ => inferInstanceAs (Decidable True)
  | .projection_epoch_opened _ => inferInstanceAs (Decidable True)

/-- The event leaves an effect's slot to the typed mutations: a typed unit that it commits fresh
retains the reserved fields, and a legacy unit carries no slot that may replace the effect's. -/
def KeepsEffect (db : Tables) (session_id effect_id : String) : StoreEvent → Prop
  | .call _ (.commit_authoritative_uow authority unit _ _) (.ok (.commit commit)) =>
    authority.session_id = session_id → commit.idempotent = false →
      (unit.val.transition_id ≠ none → RetainsReserved unit.val)
        ∧ (unit.val.transition_id = none →
          ∀ slot ∈ unit.val.effect, slot.effect_id = effect_id →
            legacy_effect_may_replace
              ((db.session_effect_slots.row (session_id, effect_id)).map (·.status)) slot.status
              = false)
  | _ => True

variable {event : StoreEvent}

theorem TypedEvent.keeps_effect (h : TypedEvent event) (db : Tables)
    (session_id effect_id : String) : KeepsEffect db session_id effect_id event := by
  unfold KeepsEffect
  split
  · intro _ _
    exact ⟨fun _ => h.2, fun untyped => absurd untyped h.1⟩
  · exact True.intro

/-! ## The history of an effect -/

/-- A mutation of an effect, with the transition and the owner that committed it. -/
structure EffectWrite where
  mutation : EffectMutation
  transition_id : String
  owner_epoch : Nat

def AuthoritativeUnitOfWork.mutation_of (unit : AuthoritativeUnitOfWork) (effect_id : String) :
    Option EffectMutation :=
  unit.normalized_effect_mutations.find? (·.effect_id = effect_id)

section

variable (session_id effect_id : String)

/-- What an event wrote to an effect: the mutation of a fresh typed commit. -/
def StoreEvent.effect_write : StoreEvent → Option EffectWrite
  | .call _ (.commit_authoritative_uow authority unit _ _) (.ok (.commit commit)) =>
    if authority.session_id = session_id ∧ commit.idempotent = false then
      (unit.val.mutation_of effect_id).map (fun mutation =>
        ⟨mutation, unit.val.transition_id.getD "", authority.epoch⟩)
    else none
  | _ => none

section

variable (events : List StoreEvent)

def effect_writes : List EffectWrite :=
  events.filterMap (StoreEvent.effect_write session_id effect_id)

def effect_history : List EffectStatus :=
  (effect_writes session_id effect_id events).map (·.mutation.status)

/-- The `PREPARED -> DISPATCHED` transitions of an effect. -/
def effect_dispatches : List EffectWrite :=
  (effect_writes session_id effect_id events).filter (·.mutation.is_dispatch)

theorem effect_writes_snoc (event : StoreEvent) :
    effect_writes session_id effect_id (events ++ [event])
      = effect_writes session_id effect_id events
        ++ (event.effect_write session_id effect_id).toList := by
  unfold effect_writes
  rw [filterMap_append]
  cases heq : event.effect_write session_id effect_id <;> simp [heq]

end

end

theorem StoreEvent.effect_write_commit {clock : Datetime} {authority : OwnerAuthority}
    {unit : UnitOfWork} {stored : Option JsonObject} {new_sessions_enabled : Bool}
    {commit : AuthoritativeCommit} (session_id effect_id : String) :
    (StoreEvent.call clock (.commit_authoritative_uow authority unit stored new_sessions_enabled)
        (.ok (.commit commit))).effect_write session_id effect_id
      = if authority.session_id = session_id ∧ commit.idempotent = false then
          (unit.val.mutation_of effect_id).map (fun mutation =>
            ⟨mutation, unit.val.transition_id.getD "", authority.epoch⟩)
        else none := rfl

theorem StoreEvent.effect_write_of_not_fresh (h : event.fresh = false)
    (session_id effect_id : String) : event.effect_write session_id effect_id = none := by
  unfold effect_write
  split
  · rw [if_neg]
    intro hboth
    simp [StoreEvent.fresh, StoreAnswer.fresh, hboth.2] at h
  · rfl

theorem mutation_of_eq {unit : AuthoritativeUnitOfWork} {mutation : EffectMutation}
    (hnodup : (unit.normalized_effect_mutations.map (·.effect_id)).Nodup)
    (hmem : mutation ∈ unit.normalized_effect_mutations) :
    unit.mutation_of mutation.effect_id = some mutation := by
  unfold mutation_of
  cases hfind : unit.normalized_effect_mutations.find? (·.effect_id = mutation.effect_id) with
  | none => exact absurd (List.find?_eq_none.mp hfind mutation hmem) (by simp)
  | some found =>
    have hid : found.effect_id = mutation.effect_id := by
      simpa using List.find?_some hfind
    exact congrArg some
      (inj_on_of_nodup_map hnodup (List.mem_of_find?_eq_some hfind) hmem hid)

theorem mutation_of_eq_none {unit : AuthoritativeUnitOfWork} {effect_id : String}
    (h : ∀ mutation ∈ unit.normalized_effect_mutations, mutation.effect_id ≠ effect_id) :
    unit.mutation_of effect_id = none :=
  List.find?_eq_none.mpr (fun mutation hmem => by simpa using h mutation hmem)

/-! ## One event, one slot -/

/-- The slot a write leaves, compared with the one it found. -/
structure SlotWritten (db : Tables) (session_id : String) (old : Option EffectRow)
    (write : EffectWrite) (slot : EffectRow) : Prop where
  status : slot.status = write.mutation.status.value
  attempt_id : slot.payload.get "attempt_id" = .str write.mutation.attempt_id
  legal : match old with
    | none => write.mutation.status = .PREPARED
    | some current => ∃ expected_status, current.status = expected_status.value
        ∧ (expected_status, write.mutation.status) ∈ LEGAL_EFFECT_TRANSITIONS
        ∧ current.payload.get "attempt_id" = .str write.mutation.attempt_id
  stamped : write.mutation.is_dispatch →
    slot.payload.get "authorization_transition_id" = .str write.transition_id
      ∧ slot.payload.get "dispatch_owner_epoch" = .int write.owner_epoch
  retained : write.mutation.is_dispatch = false → ∀ current, old = some current →
    slot.payload.get "dispatch_owner_epoch" = current.payload.get "dispatch_owner_epoch"
      ∧ (slot.payload.get "authorization_transition_id"
          = current.payload.get "authorization_transition_id"
        ∨ ∃ authorization, slot.payload.get "authorization_transition_id" = .str authorization
          ∧ db.session_executor_attempts.row ⟨session_id, write.mutation.effect_id,
              write.mutation.attempt_id, authorization⟩ ≠ none)

theorem EffectMutation.dispatch_iff {mutation : EffectMutation} (h : mutation.post_init = .ok ()) :
    mutation.is_dispatch ↔ mutation.status = .DISPATCHED := by
  have hlegal := legal_of_post_init h
  rw [is_dispatch_iff]
  refine ⟨fun hboth => hboth.2, fun hstatus => ⟨?_, hstatus⟩⟩
  rw [hstatus] at hlegal
  cases hexpected : mutation.expected_status with
  | none =>
    rw [hexpected] at hlegal
    exact absurd hlegal (by decide)
  | some expected_status =>
    rw [hexpected] at hlegal
    cases expected_status with
    | PREPARED => rfl
    | REJECTED => exact absurd hlegal (by decide)
    | DISPATCHED => exact absurd hlegal (by decide)
    | COMPLETED => exact absurd hlegal (by decide)
    | FAILED => exact absurd hlegal (by decide)
    | UNKNOWN => exact absurd hlegal (by decide)

section EffectSlot

variable {authority : OwnerAuthority} {unit : UnitOfWork} {transition_id : String}
  {mutation : EffectMutation} {slot : EffectLedgerSlot}

theorem effect_slot_written (hport : RetainsReserved unit.val)
    (hmem : mutation ∈ unit.val.normalized_effect_mutations)
    {closed : Option ExecutorAttemptRecord}
    (hcloseout : closeout_attempt db authority unit.val = .ok closed)
    (h : effect_slot db authority transition_id mutation = .ok slot) :
    SlotWritten db authority.session_id
      (db.session_effect_slots.row (authority.session_id, mutation.effect_id))
      ⟨mutation, transition_id, authority.epoch⟩ ⟨slot.status, slot.payload⟩ := by
  have hlegal := EffectMutation.legal_of_post_init
    (mutation_post_init unit.property hmem)
  obtain ⟨-, hstatus, hattempt⟩ := effect_slot_identity h
  obtain ⟨merged, hmerged, hslot⟩ := effect_slot_eq_ok.mp h
  refine ⟨hstatus, hattempt, ?_, ?_, ?_⟩
  · rcases merged_effect_slot_cases hmerged with
      ⟨hexpected, hrow, -⟩ | ⟨expected_status, current, hexpected, hrow, hcurrent, hid, -⟩
    · rw [hrow]
      rw [hexpected] at hlegal
      exact hlegal
    · rw [hrow]
      rw [hexpected] at hlegal
      exact ⟨expected_status, hcurrent, hlegal, hid⟩
  · intro hdispatch
    simp only at hdispatch
    rw [hslot, if_pos hdispatch]
    refine ⟨?_, ?_⟩ <;> rw [JsonObject.get, find_merge] <;> rfl
  · intro hdispatch current hrow
    simp only at hdispatch
    rw [hdispatch] at hslot
    simp only [Bool.false_eq_true, if_false] at hslot
    subst hslot
    rcases merged_effect_slot_cases hmerged with
      ⟨-, hnone, -⟩ | ⟨expected_status, found, hexpected, hfound, -, -, rfl⟩
    · rw [hnone] at hrow
      cases hrow
    · rw [hfound, Option.some.injEq] at hrow
      subst hrow
      obtain ⟨hepoch, hauthorization⟩ := hport mutation hmem (by rw [hexpected]; simp) hdispatch
      have hget : ∀ key, key ≠ "attempt_id" → key ≠ "reconciliation" →
          mutation.payload.find key = none →
          JsonObject.get (found.payload.merge (effect_slot_from_mutation mutation).payload) key
            = found.payload.get key := by
        intro key hkey_attempt hkey_reconciliation hnone
        rw [JsonObject.get, JsonObject.get, find_merge,
          effect_slot_from_mutation_find mutation hkey_attempt hkey_reconciliation, hnone]
        rfl
      refine ⟨hget _ (by decide) (by decide) hepoch, ?_⟩
      cases hguard : unit.val.unstarted_dispatch_closeout with
      | none => exact Or.inl (hget _ (by decide) (by decide) (hauthorization hguard))
      | some closeout =>
        -- the closeout's authorization is the key of the attempt it closes
        obtain ⟨only, honly, heffect, hattempt_id, -, -, hpayload⟩ :=
          closeout_alone unit.property hguard
        rw [honly, mem_singleton] at hmem
        subst hmem
        refine Or.inr ⟨closeout.authorization_transition_id, ?_, ?_⟩
        · rw [get_eq_str, find_merge,
            effect_slot_from_mutation_find mutation (by decide) (by decide),
            get_eq_str.mp hpayload]
          rfl
        · rcases closeout_attempt_cases none false hcloseout
            with ⟨hnone, -⟩ | ⟨found_guard, current, _, hsome, -, hattempt_row, -⟩
          · rw [hnone] at hguard
            cases hguard
          · obtain rfl : found_guard = closeout := Option.some.inj (hsome.symm.trans hguard)
            simp only [heffect, hattempt_id, hattempt_row]
            exact Option.some_ne_none current

end EffectSlot

theorem put_legacy_effect_row {session_id effect_id owned : String}
    {effect : Option EffectLedgerSlot}
    (h : ∀ slot ∈ effect, owned = session_id → slot.effect_id = effect_id →
      legacy_effect_may_replace
        ((db.session_effect_slots.row (session_id, effect_id)).map (·.status)) slot.status = false) :
    (put_legacy_effect db owned effect).row (session_id, effect_id)
      = db.session_effect_slots.row (session_id, effect_id) := by
  unfold put_legacy_effect
  cases effect with
  | none => rfl
  | some slot =>
    simp only
    split
    · next hreplaces =>
      rw [Table.row_put, if_neg]
      rintro hkey
      obtain ⟨rfl, rfl⟩ := Prod.mk.inj hkey
      rw [h slot rfl rfl rfl] at hreplaces
      exact Bool.false_ne_true hreplaces
    · rfl

/-- **Every event writes at most one mutation into a slot**, and a slot it does not write
stays as it was. -/
theorem effect_row_step (session_id effect_id : String)
    (hkeeps : KeepsEffect db session_id effect_id event) (h : StoreStep host db event db') :
    (event.effect_write session_id effect_id = none
      ∧ db'.session_effect_slots.row (session_id, effect_id)
          = db.session_effect_slots.row (session_id, effect_id))
    ∨ ∃ write slot, event.effect_write session_id effect_id = some write
        ∧ write.mutation.effect_id = effect_id
        ∧ db'.session_effect_slots.row (session_id, effect_id) = some slot
        ∧ SlotWritten db session_id (db.session_effect_slots.row (session_id, effect_id)) write slot
        ∧ (write.mutation.is_dispatch → ∃ attempt,
            db'.session_executor_attempts.row
                ⟨session_id, effect_id, write.mutation.attempt_id, write.transition_id⟩ = some attempt
              ∧ attempt.dispatch_owner_epoch = write.owner_epoch) := by
  cases step_kind h with
  | quiet replayed hquiet =>
    exact Or.inl ⟨StoreEvent.effect_write_of_not_fresh replayed _ _, by rw [hquiet.effect_slots]⟩
  | legacy untyped event_eq hlegacy =>
    rename_i clock authority unit stored flag record session_state commit
    have hnone := legacy_mutations unit.property untyped
    refine Or.inl ⟨?_, ?_⟩
    · rw [StoreEvent.effect_write_commit, mutation_of_eq_none (by simp [hnone]), Option.map_none,
        ite_self]
    · rw [hlegacy.effect_slots]
      refine put_legacy_effect_row (fun slot hslot hsession heffect => ?_)
      exact (hkeeps hsession hlegacy.fresh).2 untyped slot hslot heffect
  | admitted hadmitted =>
    obtain ⟨_, -, _, -, rfl, -⟩ := hadmitted.tables
    exact Or.inl ⟨rfl, rfl⟩
  | attempt target _ hwritten =>
    obtain ⟨_, -, -, rfl, -⟩ := hwritten
    refine Or.inl ⟨?_, rfl⟩
    unfold StoreEvent.effect_write
    split
    · next heq => cases heq
    · rfl
  | typed hcommit =>
    rename_i clock authority unit stored flag transition_id state_cas state_value plan receipt commit
    have hfresh := hcommit.fresh
    have hnodup := effect_ids_nodup unit.property
    have hidempotent : commit.idempotent = false := by
      rw [hfresh.commit_eq]
      rfl
    rcases hfresh.effect_row hnodup session_id effect_id with
      ⟨hrow, hother⟩ | ⟨rfl, mutation, hmem, rfl, slot, hslot, hrow⟩
    · refine Or.inl ⟨?_, hrow⟩
      rw [StoreEvent.effect_write_commit]
      split
      · next hboth => rw [mutation_of_eq_none (hother hboth.1.symm), Option.map_none]
      · rfl
    · have hretains := (hkeeps rfl hidempotent).1 (by rw [hcommit.typed]; exact Option.some_ne_none _)
      refine Or.inr ⟨⟨mutation, transition_id, authority.epoch⟩, ⟨slot.status, slot.payload⟩,
        ?_, rfl, hrow, effect_slot_written hretains hmem hfresh.closeout hslot, ?_⟩
      · rw [StoreEvent.effect_write_commit, if_pos ⟨rfl, hidempotent⟩, mutation_of_eq hnodup hmem, hcommit.typed]
        rfl
      · intro hdispatch
        simp only at hdispatch
        rcases hfresh.opened_attempt with ⟨hnone, -⟩ | ⟨opened, hopened, hopens, attempt, hplan, -, hvalue, -⟩
        · rw [hnone mutation hmem] at hdispatch
          cases hdispatch
        · have halone := (dispatch_alone unit.property hmem hdispatch).1
          rw [halone, mem_singleton] at hopened
          subst hopened
          refine ⟨attempt, ?_, by rw [hvalue]⟩
          rw [hfresh.attempts_eq, hplan, put_attempt, Table.row_put, if_pos]
          rw [hvalue]
          rfl

theorem AttemptRowStep.opened_by {key : AttemptKey} {attempt : ExecutorAttemptRecord}
    (h : AttemptRowStep db key event none (some attempt)) :
    ∃ write, event.effect_write key.session_id key.effect_id = some write
      ∧ write.mutation.is_dispatch ∧ write.mutation.attempt_id = key.attempt_id
      ∧ write.transition_id = key.authorization_transition_id := by
  cases h with
  | @opened _ authority unit _ _ _ _ _ session _ _ _ _ typed dispatch fresh =>
    obtain ⟨mutation, halone, hdispatch, heffect, hattempt⟩ := dispatch
    have hmutation : unit.val.mutation_of key.effect_id = some mutation := by
      rw [mutation_of, halone, List.find?_cons_of_pos (by simpa using heffect)]
    refine ⟨⟨mutation, key.authorization_transition_id, authority.epoch⟩, ?_, hdispatch, hattempt,
      rfl⟩
    rw [StoreEvent.effect_write_commit, if_pos ⟨session, fresh⟩, hmutation, typed]
    rfl

/-! ## The entry of an effect -/

/-- What a dispatch leaves behind for good: one attempt of the effect, under the dispatching
transition and epoch, and the slot's retained fields. -/
structure DispatchRetained (db : Tables) (session_id effect_id : String) (dispatch : EffectWrite) :
    Prop where
  attempt : ∃ record, db.session_executor_attempts.row
      ⟨session_id, effect_id, dispatch.mutation.attempt_id, dispatch.transition_id⟩ = some record
    ∧ record.dispatch_owner_epoch = dispatch.owner_epoch
  only : ∀ key, db.session_executor_attempts.row key ≠ none → key.session_id = session_id →
    key.effect_id = effect_id →
      key = ⟨session_id, effect_id, dispatch.mutation.attempt_id, dispatch.transition_id⟩
  slot : ∃ slot, db.session_effect_slots.row (session_id, effect_id) = some slot
    ∧ slot.payload.get "attempt_id" = .str dispatch.mutation.attempt_id
    ∧ slot.payload.get "authorization_transition_id" = .str dispatch.transition_id
    ∧ slot.payload.get "dispatch_owner_epoch" = .int dispatch.owner_epoch

def NoAttempt (db : Tables) (session_id effect_id : String) : Prop :=
  ∀ key, db.session_executor_attempts.row key ≠ none → key.session_id = session_id →
    key.effect_id ≠ effect_id

/-- The ledger's entry for an effect with the given writes behind it. -/
structure LedgerEntry (db : Tables) (session_id effect_id : String) (writes : List EffectWrite) :
    Prop where
  path : Path (· = .PREPARED) (fun a b => (a, b) ∈ LEGAL_EFFECT_TRANSITIONS)
    (writes.map (·.mutation.status))
  current : (db.session_effect_slots.row (session_id, effect_id)).map (·.status)
    = (writes.map (·.mutation.status)).getLast?.map EffectStatus.value
  dispatches : (writes.filter (·.mutation.is_dispatch) = [] ∧ NoAttempt db session_id effect_id)
    ∨ ∃ dispatch, writes.filter (·.mutation.is_dispatch) = [dispatch]
      ∧ DispatchRetained db session_id effect_id dispatch

def EffectStatus.rank : EffectStatus → Nat
  | .PREPARED => 0
  | .REJECTED => 1
  | .DISPATCHED => 1
  | .UNKNOWN => 2
  | .COMPLETED => 3
  | .FAILED => 3

theorem EffectStatus.rank_lt_of_legal :
    ∀ a b, (a, b) ∈ LEGAL_EFFECT_TRANSITIONS → EffectStatus.rank a < EffectStatus.rank b := by
  intro a b h
  simp only [LEGAL_EFFECT_TRANSITIONS, mem_cons, Prod.mk.injEq, not_mem_nil, or_false] at h
  rcases h with h | h | h | h | h | h | h <;>
  · obtain ⟨rfl, rfl⟩ := h
    decide

namespace LedgerEntry

variable {session_id effect_id : String} {writes : List EffectWrite}

theorem nodup (h : LedgerEntry db session_id effect_id writes) :
    (writes.map (·.mutation.status)).Nodup :=
  h.path.nodup_of_rank EffectStatus.rank EffectStatus.rank_lt_of_legal

theorem path_snoc (h : LedgerEntry db session_id effect_id writes) {write : EffectWrite}
    {slot : EffectRow}
    (hwrite : SlotWritten db session_id (db.session_effect_slots.row (session_id, effect_id)) write
      slot) :
    Path (· = .PREPARED) (fun a b => (a, b) ∈ LEGAL_EFFECT_TRANSITIONS)
      ((writes ++ [write]).map (·.mutation.status)) := by
  rw [map_append, map_singleton]
  refine h.path.snoc ?_
  have hlegal := hwrite.legal
  have hcurrent := h.current
  cases hrow : db.session_effect_slots.row (session_id, effect_id) with
  | none =>
    rw [hrow] at hlegal hcurrent
    rw [Option.map_none, eq_comm, Option.map_eq_none_iff] at hcurrent
    rw [hcurrent]
    exact hlegal
  | some current =>
    rw [hrow] at hlegal hcurrent
    obtain ⟨expected_status, hstatus, hedge, -⟩ := hlegal
    rw [Option.map_some, eq_comm, Option.map_eq_some_iff] at hcurrent
    obtain ⟨last, hlast, hvalue⟩ := hcurrent
    rw [hlast]
    rw [hstatus] at hvalue
    rw [EffectStatus.value_injective hvalue]
    exact hedge

theorem no_second_dispatch {write : EffectWrite}
    (hpath : Path (· = .PREPARED) (fun a b => (a, b) ∈ LEGAL_EFFECT_TRANSITIONS)
      ((writes ++ [write]).map (·.mutation.status)))
    (hdispatch : write.mutation.is_dispatch) :
    writes.filter (·.mutation.is_dispatch) = [] := by
  have hnodup := hpath.nodup_of_rank EffectStatus.rank EffectStatus.rank_lt_of_legal
  rw [map_append, map_singleton, nodup_append] at hnodup
  rw [filter_eq_nil_iff]
  intro earlier hmem hearlier
  have hstatus : earlier.mutation.status = .DISPATCHED :=
    ((EffectMutation.is_dispatch_iff _).mp hearlier).2
  have hlast : write.mutation.status = .DISPATCHED :=
    ((EffectMutation.is_dispatch_iff _).mp hdispatch).2
  exact hnodup.2.2 earlier.mutation.status (mem_map.mpr ⟨earlier, hmem, rfl⟩)
    write.mutation.status mem_cons_self (hstatus.trans hlast.symm)

end LedgerEntry

section Attempts

variable {session_id effect_id : String} {event : StoreEvent}

theorem no_new_attempt {key : AttemptKey} {old new : Option ExecutorAttemptRecord}
    (h : AttemptRowStep db key event old new)
    (hquiet : ∀ write, event.effect_write key.session_id key.effect_id = some write →
      write.mutation.is_dispatch = false) (hnew : new ≠ none) : old ≠ none := by
  rintro rfl
  obtain ⟨attempt, rfl⟩ := Option.ne_none_iff_exists'.mp hnew
  obtain ⟨write, hwrite, hdispatch, -⟩ := h.opened_by
  rw [hquiet write hwrite] at hdispatch
  cases hdispatch

variable
  (hrows : ∀ key, AttemptRowStep db key event (db.session_executor_attempts.row key)
    (db'.session_executor_attempts.row key))
  (hquiet : ∀ write, event.effect_write session_id effect_id = some write →
    write.mutation.is_dispatch = false)

include hrows hquiet

theorem NoAttempt.step (h : NoAttempt db session_id effect_id) :
    NoAttempt db' session_id effect_id := by
  intro key hnew hsession heffect
  subst hsession
  subst heffect
  exact h key (no_new_attempt (hrows key) hquiet hnew) rfl rfl

/-- What a dispatch left behind survives an event that does not dispatch, provided the slot
retains its fields. -/
theorem DispatchRetained.step {dispatch : EffectWrite}
    (h : DispatchRetained db session_id effect_id dispatch)
    (hslot : ∃ slot, db'.session_effect_slots.row (session_id, effect_id) = some slot
      ∧ slot.payload.get "attempt_id" = .str dispatch.mutation.attempt_id
      ∧ slot.payload.get "authorization_transition_id" = .str dispatch.transition_id
      ∧ slot.payload.get "dispatch_owner_epoch" = .int dispatch.owner_epoch) :
    DispatchRetained db' session_id effect_id dispatch := by
  refine ⟨?_, ?_, hslot⟩
  · obtain ⟨record, hrow, hepoch⟩ := h.attempt
    have hstep := hrows ⟨session_id, effect_id, dispatch.mutation.attempt_id, dispatch.transition_id⟩
    rw [hrow] at hstep
    obtain ⟨updated, hupdated, -, hsame⟩ := hstep.forward
    exact ⟨updated, hupdated, hsame.trans hepoch⟩
  · intro key hnew hsession heffect
    subst hsession
    subst heffect
    exact h.only key (no_new_attempt (hrows key) hquiet hnew) rfl rfl

end Attempts

/-- **One event keeps the entry of every effect.** -/
theorem LedgerEntry.step {session_id effect_id : String} {writes : List EffectWrite}
    {event : StoreEvent} (hvalid : AttemptsValid db)
    (hkeeps : KeepsEffect db session_id effect_id event)
    (hstep : StoreStep host db event db') (h : LedgerEntry db session_id effect_id writes) :
    LedgerEntry db' session_id effect_id
      (writes ++ (event.effect_write session_id effect_id).toList) := by
  have hrows := attempt_row_step hvalid hstep
  rcases effect_row_step session_id effect_id hkeeps hstep with
    ⟨hnone, hrow⟩ | ⟨write, slot, hwrite, hid, hrow, hslot, hopens⟩
  · -- the slot is untouched, and no attempt of the effect is opened
    have hquiet : ∀ write, event.effect_write session_id effect_id = some write →
        write.mutation.is_dispatch = false := by
      intro write hwrite
      rw [hnone] at hwrite
      cases hwrite
    rw [hnone, Option.toList_none, append_nil]
    refine ⟨h.path, by rw [hrow]; exact h.current, ?_⟩
    rcases h.dispatches with ⟨hfilter, hno⟩ | ⟨dispatch, hfilter, hretained⟩
    · exact Or.inl ⟨hfilter, hno.step hrows hquiet⟩
    · refine Or.inr ⟨dispatch, hfilter, hretained.step hrows hquiet ?_⟩
      rw [hrow]
      exact hretained.slot
  · rw [hwrite, Option.toList_some]
    have hpath := h.path_snoc hslot
    refine ⟨hpath, ?_, ?_⟩
    · rw [hrow, map_append, map_singleton, List.getLast?_concat]
      exact congrArg some hslot.status
    cases hdispatch : write.mutation.is_dispatch with
    | false =>
      have hquiet : ∀ other, event.effect_write session_id effect_id = some other →
          other.mutation.is_dispatch = false := by
        intro other hother
        rw [hwrite, Option.some.injEq] at hother
        rw [← hother]
        exact hdispatch
      have hfilter_eq : (writes ++ [write]).filter (·.mutation.is_dispatch)
          = writes.filter (·.mutation.is_dispatch) := by
        rw [filter_append, filter_cons_of_neg (by rw [hdispatch]; exact Bool.false_ne_true),
          filter_nil, append_nil]
      rw [hfilter_eq]
      rcases h.dispatches with ⟨hfilter, hno⟩ | ⟨dispatch, hfilter, hretained⟩
      · exact Or.inl ⟨hfilter, hno.step hrows hquiet⟩
      · -- the merged payload keeps the dispatch's fields
        refine Or.inr ⟨dispatch, hfilter, hretained.step hrows hquiet ⟨slot, hrow, ?_⟩⟩
        obtain ⟨current, hcurrent, hattempt, hauthorization, hepoch⟩ := hretained.slot
        obtain ⟨hkept_epoch, hkept⟩ := hslot.retained hdispatch current hcurrent
        have hlegal := hslot.legal
        rw [hcurrent] at hlegal
        obtain ⟨_, -, -, hcurrent_attempt⟩ := hlegal
        have hattempt_eq : write.mutation.attempt_id = dispatch.mutation.attempt_id := by
          rw [hattempt] at hcurrent_attempt
          exact (Json.str.inj hcurrent_attempt).symm
        refine ⟨?_, ?_, hkept_epoch.trans hepoch⟩
        · rw [hslot.attempt_id, hattempt_eq]
        · rcases hkept with hsame | ⟨authorization, hnamed, hexists⟩
          · exact hsame.trans hauthorization
          · rw [hid] at hexists
            have hkey := hretained.only _ hexists rfl rfl
            rw [hnamed, (AttemptKey.mk.inj hkey).2.2.2]
    | true =>
      have hfilter : writes.filter (·.mutation.is_dispatch) = [] :=
        LedgerEntry.no_second_dispatch hpath hdispatch
      refine Or.inr ⟨write, ?_, ?_, ?_, ?_⟩
      · rw [filter_append, hfilter, filter_singleton, hdispatch]
        rfl
      · exact hopens hdispatch
      · intro key hnew hsession heffect
        subst hsession
        subst heffect
        have hno : NoAttempt db key.session_id key.effect_id := by
          rcases h.dispatches with ⟨-, hno⟩ | ⟨dispatch, hsome, -⟩
          · exact hno
          · rw [hfilter] at hsome
            cases hsome
        have hold : db.session_executor_attempts.row key = none := by
          by_contra hsome
          exact hno key hsome rfl rfl
        have hrow_step := hrows key
        obtain ⟨attempt, hattempt⟩ := Option.ne_none_iff_exists'.mp hnew
        rw [hold, hattempt] at hrow_step
        obtain ⟨other, hother, -, hattempt_id, htransition⟩ := hrow_step.opened_by
        rw [hwrite, Option.some.injEq] at hother
        rw [hother, hattempt_id, htransition]
      · obtain ⟨hauthorization, hepoch⟩ := hslot.stamped hdispatch
        exact ⟨slot, hrow, hslot.attempt_id, hauthorization, hepoch⟩

variable {events : List StoreEvent}

/-- **The entry of every effect holds after every run of typed commits.** -/
theorem ledger_entry (h : StoreRun host events db) (htyped : ∀ event ∈ events, TypedEvent event)
    (session_id effect_id : String) :
    LedgerEntry db session_id effect_id (effect_writes session_id effect_id events) := by
  refine h.history_where (P := fun events tables =>
    LedgerEntry tables session_id effect_id (effect_writes session_id effect_id events)) htyped ?_ ?_
  · refine ⟨Path.nil, rfl, Or.inl ⟨rfl, ?_⟩⟩
    intro key hkey
    exact absurd rfl hkey
  · intro history before event after hrun hentry hevent hstep
    rw [effect_writes_snoc]
    exact hentry.step (attempts_valid hrun) (hevent.keeps_effect _ _ _) hstep

/-! ## Safety -/

theorem effect_write_post_init {session_id effect_id : String} {write : EffectWrite}
    (h : write ∈ effect_writes session_id effect_id events) :
    write.mutation.post_init = .ok () := by
  obtain ⟨event, -, hwrite⟩ := mem_filterMap.mp h
  unfold StoreEvent.effect_write at hwrite
  split at hwrite
  · next unit _ _ _ =>
    split at hwrite
    · obtain ⟨mutation, hfind, rfl⟩ := Option.map_eq_some_iff.mp hwrite
      exact mutation_post_init unit.property
        (List.mem_of_find?_eq_some hfind)
    · cases hwrite
  · cases hwrite

theorem dispatched_iff {session_id effect_id : String} :
    .DISPATCHED ∈ effect_history session_id effect_id events
      ↔ effect_dispatches session_id effect_id events ≠ [] := by
  unfold effect_history effect_dispatches
  rw [mem_map, Ne, filter_eq_nil_iff]
  push Not
  refine exists_congr (fun write => and_congr_right (fun hmem => ?_))
  exact (EffectMutation.dispatch_iff (effect_write_post_init hmem)).symm

def TERMINAL_EFFECT_STATUSES : List EffectStatus := [.COMPLETED, .FAILED, .REJECTED]

theorem terminal_status_final {status : EffectStatus} (h : status ∈ TERMINAL_EFFECT_STATUSES)
    (next : EffectStatus) : (status, next) ∉ LEGAL_EFFECT_TRANSITIONS := by
  simp only [TERMINAL_EFFECT_STATUSES, mem_cons, not_mem_nil, or_false] at h
  rcases h with rfl | rfl | rfl <;> cases next <;> decide

/-- **Effect ledger safety.** In every run of typed commits, by any owners, for every effect:
its status history is a path of the legal transitions from `PREPARED` that ends at the stored
status, never leaves a terminal status and dispatches at most once; once dispatched it has
exactly one executor attempt, under the one dispatching transition and its epoch, and none
before; and the slot retains what the dispatch stamped, in every later state. -/
theorem effect_ledger_safety {events : List StoreEvent} (hrun : StoreRun host events db)
    (htyped : ∀ event ∈ events, TypedEvent event) (session_id effect_id : String) :
    (Path (· = .PREPARED) (fun a b => (a, b) ∈ LEGAL_EFFECT_TRANSITIONS)
        (effect_history session_id effect_id events)
      ∧ (db.session_effect_slots.row (session_id, effect_id)).map (·.status)
          = (effect_history session_id effect_id events).getLast?.map EffectStatus.value
      ∧ (∀ status ∈ effect_history session_id effect_id events,
          status ∈ TERMINAL_EFFECT_STATUSES →
            (effect_history session_id effect_id events).getLast? = some status)
      ∧ (effect_history session_id effect_id events).Nodup)
    ∧ (.DISPATCHED ∈ effect_history session_id effect_id events →
        ∃ dispatch, effect_dispatches session_id effect_id events = [dispatch]
          ∧ DispatchRetained db session_id effect_id dispatch)
    ∧ (.DISPATCHED ∉ effect_history session_id effect_id events →
        NoAttempt db session_id effect_id)
    ∧ (∀ dispatch ∈ effect_dispatches session_id effect_id events, ∀ later_events later,
        Run (StoreStep host) db later_events later → (∀ event ∈ later_events, TypedEvent event) →
          DispatchRetained later session_id effect_id dispatch) := by
  have hentry := ledger_entry hrun htyped session_id effect_id
  refine ⟨⟨hentry.path, hentry.current, ?_, hentry.nodup⟩, ?_, ?_, ?_⟩
  · intro status hmem hterminal
    exact hentry.path.getLast_of_terminal hmem (terminal_status_final hterminal)
  · intro hdispatched
    rcases hentry.dispatches with ⟨hnone, -⟩ | hdispatch
    · exact absurd hnone (dispatched_iff.mp hdispatched)
    · exact hdispatch
  · intro hnever
    rcases hentry.dispatches with ⟨-, hno⟩ | ⟨dispatch, hsome, -⟩
    · exact hno
    · have hne : effect_dispatches session_id effect_id events ≠ [] := by
        rw [effect_dispatches, hsome]
        exact cons_ne_nil _ _
      exact absurd (dispatched_iff.mpr hne) hnever
  · intro dispatch hmem later_events later hlater hlater_typed
    have hall : ∀ event ∈ events ++ later_events, TypedEvent event := by
      intro event hevent
      rcases mem_append.mp hevent with hfirst | hsecond
      · exact htyped event hfirst
      · exact hlater_typed event hsecond
    have hfinal := ledger_entry (hrun.append hlater) hall session_id effect_id
    have hmem_all : dispatch ∈ (effect_writes session_id effect_id (events ++ later_events)).filter
        (·.mutation.is_dispatch) := by
      unfold effect_writes
      rw [filterMap_append, filter_append]
      exact mem_append_left _ hmem
    rcases hfinal.dispatches with ⟨hnone, -⟩ | ⟨only, honly, hretained⟩
    · rw [hnone] at hmem_all
      cases hmem_all
    · rw [honly, mem_singleton] at hmem_all
      rw [hmem_all]
      exact hretained

/-- The ledger of the worked run: prepared and dispatched once, by `t2` under epoch 1. -/
theorem sample_ledger : ∃ dispatch, effect_dispatches "s" "e"
          (play_events sample_host Tables.empty sample_script) = [dispatch]
      ∧ DispatchRetained sample_reserved "s" "e" dispatch :=
  (effect_ledger_safety (play_run sample_host Tables.empty sample_script)
    (by decide) "s" "e").2.1 (by decide)

end CodingAgentLoop
