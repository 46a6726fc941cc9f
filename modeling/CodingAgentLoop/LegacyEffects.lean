/-
Typed effects beside legacy units.

The legacy half of `commit_authoritative_uow` upserts an effect slot by the rank of
its status and replaces the whole payload; what the version stamp keeps out of a new
session is the alias `settled` and nothing else. A slot that a typed transition
created therefore keeps its machine only while no legacy unit may replace it
(`SparesTypedEffects`), and the file proves that this is enough: the entry of the
ledger is carried through runs in which other effects are written by anyone.

A typed creation finds no slot, so the effect has no past: nothing before it is
assumed.
-/
import CodingAgentLoop.EffectLedger

namespace CodingAgentLoop

open Lib AuthoritativeUnitOfWork EffectMutation Tables List

variable {host : Host} {db db' : Tables} {session_id effect_id : String}

/-! ## Slots that a typed transition created -/

def TypedCreated (session_id effect_id : String) (events : List StoreEvent) : Prop :=
  ∃ write ∈ effect_writes session_id effect_id events, write.mutation.expected_status = none

instance (session_id effect_id : String) (events : List StoreEvent) :
    Decidable (TypedCreated session_id effect_id events) :=
  inferInstanceAs (Decidable (∃ write ∈ effect_writes session_id effect_id events, _))

/-- No event of the run touches a slot that a typed transition created before, except by a
typed mutation that retains the reserved fields. -/
def SparesTypedEffects (host : Host) (session_id : String) (events : List StoreEvent) : Prop :=
  ∀ pre event post before, events = pre ++ event :: post → StoreRun host pre before →
    ∀ effect_id, TypedCreated session_id effect_id pre →
      KeepsEffect before session_id effect_id event

theorem SparesTypedEffects.prefix {events later : List StoreEvent}
    (h : SparesTypedEffects host session_id (events ++ later)) :
    SparesTypedEffects host session_id events := by
  intro pre event post before heq hrun effect_id hcreated
  refine h pre event (post ++ later) before ?_ hrun effect_id hcreated
  rw [heq, append_assoc, cons_append]

variable {event : StoreEvent}

theorem effect_write_found {write : EffectWrite} (h : StoreStep host db event db')
    (hwrite : event.effect_write session_id effect_id = some write) :
    (match write.mutation.expected_status with
      | none => db.session_effect_slots.row (session_id, effect_id) = none
      | some _ => db.session_effect_slots.row (session_id, effect_id) ≠ none)
    ∧ write.mutation.post_init = .ok ()
    ∧ ∃ slot, db'.session_effect_slots.row (session_id, effect_id) = some slot
      ∧ slot.status = write.mutation.status.value
      ∧ slot.payload.get "attempt_id" = .str write.mutation.attempt_id := by
  cases step_kind h with
  | quiet replayed => rw [StoreEvent.effect_write_of_not_fresh replayed] at hwrite; cases hwrite
  | admitted => cases hwrite
  | attempt =>
    unfold StoreEvent.effect_write at hwrite
    split at hwrite
    · next heq => cases heq
    · cases hwrite
  | legacy untyped event_eq hlegacy =>
    rename_i clock authority unit stored flag record session_state commit
    have hnone := legacy_mutations unit.property untyped
    rw [StoreEvent.effect_write_commit, mutation_of_eq_none (by simp [hnone]), Option.map_none,
      ite_self] at hwrite
    cases hwrite
  | typed hcommit =>
    rename_i clock authority unit stored flag transition_id state_cas state_value plan receipt commit
    have hnodup := effect_ids_nodup unit.property
    rw [StoreEvent.effect_write_commit] at hwrite
    split at hwrite
    · next hboth =>
      obtain ⟨mutation, hfound, rfl⟩ := Option.map_eq_some_iff.mp hwrite
      have hmem : mutation ∈ unit.val.normalized_effect_mutations :=
        List.mem_of_find?_eq_some hfound
      have heffect : mutation.effect_id = effect_id := by
        simpa using List.find?_some hfound
      rcases hcommit.fresh.effect_row hnodup session_id effect_id with
        ⟨-, hother⟩ | ⟨rfl, written, hwritten, hid, slot, hslot, hrow⟩
      · exact absurd heffect (hother hboth.1.symm mutation hmem)
      · obtain rfl : written = mutation :=
          inj_on_of_nodup_map hnodup hwritten hmem (hid.trans heffect.symm)
        subst hid
        obtain ⟨-, hstatus, hattempt⟩ := effect_slot_identity hslot
        obtain ⟨merged, hmerged, -⟩ := effect_slot_eq_ok.mp hslot
        refine ⟨?_, mutation_post_init unit.property hmem, _, hrow,
          hstatus, hattempt⟩
        rcases merged_effect_slot_cases hmerged with
          ⟨hexpected, hnone, -⟩ | ⟨expected_status, current, hexpected, hsome, -⟩
        · simp only [hexpected, hnone]
        · simp only [hexpected, hsome]
          exact Option.some_ne_none current
    · cases hwrite

theorem effect_row_stays (h : StoreStep host db event db')
    (hrow : db.session_effect_slots.row (session_id, effect_id) ≠ none) :
    db'.session_effect_slots.row (session_id, effect_id) ≠ none := by
  cases step_kind h with
  | quiet _ hquiet =>
    rw [hquiet.effect_slots]
    exact hrow
  | admitted hadmitted =>
    obtain ⟨_, -, _, -, rfl, -⟩ := hadmitted.tables
    exact hrow
  | attempt _ _ hwritten =>
    obtain ⟨_, -, -, rfl, -⟩ := hwritten
    exact hrow
  | legacy _ _ hlegacy =>
    rw [hlegacy.effect_slots]
    unfold put_legacy_effect
    split
    · exact hrow
    · dsimp only
      split
      · rw [Table.row_put]
        split
        · exact Option.some_ne_none _
        · exact hrow
      · exact hrow
  | typed hcommit =>
    rename_i unit _ _ _ _ _ _ _ _
    have hnodup := effect_ids_nodup unit.property
    rcases hcommit.fresh.effect_row hnodup session_id effect_id with
      ⟨hsame, -⟩ | ⟨-, _, -, -, slot, -, hwritten⟩
    · rw [hsame]
      exact hrow
    · rw [hwritten]
      exact Option.some_ne_none _

theorem EffectMutation.creates_iff {mutation : EffectMutation} (h : mutation.post_init = .ok ()) :
    mutation.expected_status = none ↔ mutation.status = .PREPARED := by
  have hlegal := legal_of_post_init h
  constructor
  · intro hexpected
    rw [hexpected] at hlegal
    exact hlegal
  · intro hstatus
    rw [hstatus] at hlegal
    cases hexpected : mutation.expected_status with
    | none => rfl
    | some expected_status =>
      rw [hexpected] at hlegal
      cases expected_status <;> exact absurd hlegal (by decide)

/-! ## The entry of a typed effect -/

/-- The slot names the attempt that every typed write of the effect named. -/
def AttemptNamed (db : Tables) (session_id effect_id : String) (writes : List EffectWrite) : Prop :=
  ∀ write ∈ writes, ∃ slot, db.session_effect_slots.row (session_id, effect_id) = some slot
    ∧ slot.payload.get "attempt_id" = .str write.mutation.attempt_id

/-- What is known of an effect in a run with legacy units: it has its entry, or its slot was
created by a legacy unit. -/
inductive EffectEntry (db : Tables) (session_id effect_id : String) (writes : List EffectWrite) : Prop
  | typed (entry : LedgerEntry db session_id effect_id writes)
      (named : AttemptNamed db session_id effect_id writes)
  | legacy (stored : db.session_effect_slots.row (session_id, effect_id) ≠ none)
      (uncreated : ∀ write ∈ writes, write.mutation.expected_status ≠ none)

theorem LedgerEntry.nil_of_uncreated {writes : List EffectWrite}
    (h : LedgerEntry db session_id effect_id writes)
    (hposts : ∀ write ∈ writes, write.mutation.post_init = .ok ())
    (huncreated : ∀ write ∈ writes, write.mutation.expected_status ≠ none) : writes = [] := by
  cases writes with
  | nil => rfl
  | cons first rest =>
    -- the first status of a path is PREPARED, which creates
    have hprepared : first.mutation.status = .PREPARED := h.path.1 _ (by simp)
    have hexpected := (creates_iff (hposts first mem_cons_self)).mpr hprepared
    exact absurd hexpected (huncreated first mem_cons_self)

theorem LedgerEntry.created {write : EffectWrite} (hvalid : AttemptsValid db)
    (hstep : StoreStep host db event db') (h : LedgerEntry db session_id effect_id [])
    (hwrite : event.effect_write session_id effect_id = some write) :
    LedgerEntry db' session_id effect_id [write]
      ∧ AttemptNamed db' session_id effect_id [write] := by
  obtain ⟨hfound, hpost, slot, hrow, hstatus, hattempt⟩ := effect_write_found hstep hwrite
  have hnone : db.session_effect_slots.row (session_id, effect_id) = none := by
    simpa using h.current
  have hexpected : write.mutation.expected_status = none := by
    cases hcase : write.mutation.expected_status with
    | none => rfl
    | some expected_status =>
      rw [hcase] at hfound
      exact absurd hnone hfound
  have hprepared := (creates_iff hpost).mp hexpected
  have hdispatch : write.mutation.is_dispatch = false := by
    rw [Bool.eq_false_iff, Ne, dispatch_iff hpost, hprepared]
    decide
  have hno : NoAttempt db session_id effect_id := by
    rcases h.dispatches with ⟨-, hno⟩ | ⟨dispatch, hfilter, -⟩
    · exact hno
    · cases hfilter
  refine ⟨⟨?_, ?_, Or.inl ⟨?_, ?_⟩⟩, ?_⟩
  · exact Path.nil.snoc hprepared
  · rw [hrow]
    exact congrArg some hstatus
  · rw [filter_singleton, hdispatch]
    rfl
  · refine hno.step (attempt_row_step hvalid hstep) ?_
    intro other hother
    rw [hwrite, Option.some.injEq] at hother
    rw [← hother]
    exact hdispatch
  · intro other hother
    rw [mem_singleton] at hother
    rw [hother]
    exact ⟨slot, hrow, hattempt⟩

theorem AttemptNamed.step {event : StoreEvent} {writes : List EffectWrite}
    (h : AttemptNamed db session_id effect_id writes)
    (hkeeps : KeepsEffect db session_id effect_id event) (hstep : StoreStep host db event db') :
    AttemptNamed db' session_id effect_id
      (writes ++ (event.effect_write session_id effect_id).toList) := by
  rcases effect_row_step session_id effect_id hkeeps hstep with
    ⟨hnone, hrow⟩ | ⟨write, slot, hwrite, -, hrow, hslot, -⟩
  · rw [hnone, Option.toList_none, append_nil]
    intro write hmem
    rw [hrow]
    exact h write hmem
  · rw [hwrite, Option.toList_some]
    intro other hmem
    refine ⟨slot, hrow, ?_⟩
    rcases mem_snoc hmem with hearlier | hlast
    · -- the mutation named the attempt it found
      obtain ⟨current, hcurrent, hattempt⟩ := h other hearlier
      have hlegal := hslot.legal
      rw [hcurrent] at hlegal
      obtain ⟨_, -, -, hfound⟩ := hlegal
      rw [hslot.attempt_id, ← hfound, hattempt]
    · rw [hlast]
      exact hslot.attempt_id

variable {events : List StoreEvent}

/-- **The entry of every effect, in a run whose legacy units spare the typed ones.** -/
theorem effect_entry (h : StoreRun host events db)
    (hspares : SparesTypedEffects host session_id events) (effect_id : String) :
    EffectEntry db session_id effect_id (effect_writes session_id effect_id events) := by
  induction h with
  | refl =>
    refine .typed ⟨Path.nil, rfl, Or.inl ⟨rfl, ?_⟩⟩ ?_
    · intro key hkey
      exact absurd rfl hkey
    · intro write hmem
      cases hmem
  | @snoc history before after event hrun hstep ih =>
    have hentry := ih hspares.prefix
    rw [effect_writes_snoc]
    have hvalid := attempts_valid hrun
    by_cases hcreated : TypedCreated session_id effect_id history
    · -- the machine goes on
      have hkeeps := hspares history event [] before rfl hrun effect_id hcreated
      obtain ⟨creation, hmem, hcreation⟩ := hcreated
      cases hentry with
      | typed entry named => exact .typed (entry.step hvalid hkeeps hstep) (named.step hkeeps hstep)
      | legacy _ uncreated => exact absurd hcreation (uncreated creation hmem)
    · have huncreated : ∀ write ∈ effect_writes session_id effect_id history,
          write.mutation.expected_status ≠ none := by
        intro write hmem hexpected
        exact hcreated ⟨write, hmem, hexpected⟩
      cases hentry with
      | legacy stored _ =>
        -- a slot that is there is not created again
        refine .legacy (effect_row_stays hstep stored) ?_
        intro write hmem hexpected
        rcases mem_append.mp hmem with hearlier | hlast
        · exact huncreated write hearlier hexpected
        · rw [Option.mem_toList] at hlast
          have hfound := (effect_write_found hstep hlast).1
          rw [hexpected] at hfound
          exact stored hfound
      | typed entry named =>
        have hnil := entry.nil_of_uncreated (fun write hmem => effect_write_post_init hmem)
          huncreated
        rw [hnil] at entry ⊢
        cases hwrite : event.effect_write session_id effect_id with
        | some write =>
          obtain ⟨hstarted, hnamed⟩ := entry.created hvalid hstep hwrite
          exact .typed hstarted hnamed
        | none =>
          cases hrow : after.session_effect_slots.row (session_id, effect_id) with
          | some slot =>
            exact .legacy (by rw [hrow]; exact Option.some_ne_none slot) (by simp)
          | none =>
            rcases entry.dispatches with ⟨-, hno⟩ | ⟨_, hfilter, -⟩
            · have hquiet : ∀ write, event.effect_write session_id effect_id = some write →
                  write.mutation.is_dispatch = false := by
                intro write hsome
                rw [hwrite] at hsome
                cases hsome
              refine .typed ⟨Path.nil, by rw [hrow]; rfl, Or.inl ⟨rfl, ?_⟩⟩ (by simp [AttemptNamed])
              exact hno.step (attempt_row_step hvalid hstep) hquiet
            · cases hfilter

theorem typed_entry (h : StoreRun host events db)
    (hspares : SparesTypedEffects host session_id events)
    (hcreated : TypedCreated session_id effect_id events) :
    LedgerEntry db session_id effect_id (effect_writes session_id effect_id events)
      ∧ AttemptNamed db session_id effect_id (effect_writes session_id effect_id events) := by
  cases effect_entry h hspares effect_id with
  | typed entry named => exact ⟨entry, named⟩
  | legacy _ uncreated =>
    obtain ⟨creation, hmem, hexpected⟩ := hcreated
    exact absurd hexpected (uncreated creation hmem)

/-! ## The claim -/

/-- What one event may do to the slot of a typed effect: move its status along an edge, and
lose none of the attempt, the authorization and the epoch. The last two are the dispatch's to
write, so they are kept once the slot is not `PREPARED` any more. -/
structure SlotMove (old new : EffectRow) : Prop where
  status : new.status = old.status
    ∨ ∃ expected_status status, (expected_status, status) ∈ LEGAL_EFFECT_TRANSITIONS
      ∧ old.status = expected_status.value ∧ new.status = status.value
  attempt_id : new.payload.get "attempt_id" = old.payload.get "attempt_id"
  dispatch : old.status ≠ EffectStatus.PREPARED.value →
    new.payload.get "authorization_transition_id" = old.payload.get "authorization_transition_id"
      ∧ new.payload.get "dispatch_owner_epoch" = old.payload.get "dispatch_owner_epoch"

theorem SlotMove.refl (row : EffectRow) : SlotMove row row :=
  ⟨Or.inl rfl, rfl, fun _ => ⟨rfl, rfl⟩⟩

structure TypedMachine (session_id effect_id : String) (events : List StoreEvent) (db : Tables)
    (db' : Tables) : Prop where
  moves : ∃ old new, db.session_effect_slots.row (session_id, effect_id) = some old
    ∧ db'.session_effect_slots.row (session_id, effect_id) = some new ∧ SlotMove old new
  path : Path (· = .PREPARED) (fun a b => (a, b) ∈ LEGAL_EFFECT_TRANSITIONS)
    (effect_history session_id effect_id events)
  current : (db.session_effect_slots.row (session_id, effect_id)).map (·.status)
    = (effect_history session_id effect_id events).getLast?.map EffectStatus.value
  attempt_id : ∀ write ∈ effect_writes session_id effect_id events,
    ∃ slot, db.session_effect_slots.row (session_id, effect_id) = some slot
      ∧ slot.payload.get "attempt_id" = .str write.mutation.attempt_id
  dispatch : ∀ dispatch ∈ effect_dispatches session_id effect_id events,
    DispatchRetained db session_id effect_id dispatch

theorem slot_move {writes : List EffectWrite} (hentry : LedgerEntry db session_id effect_id writes)
    (hkeeps : KeepsEffect db session_id effect_id event) (hstep : StoreStep host db event db')
    {old : EffectRow} (hold : db.session_effect_slots.row (session_id, effect_id) = some old) :
    ∃ new, db'.session_effect_slots.row (session_id, effect_id) = some new ∧ SlotMove old new := by
  rcases effect_row_step session_id effect_id hkeeps hstep with
    ⟨-, hrow⟩ | ⟨write, slot, hwrite, hid, hrow, hslot, -⟩
  · exact ⟨old, hrow.trans hold, SlotMove.refl old⟩
  · refine ⟨slot, hrow, ?_⟩
    have hlegal := hslot.legal
    rw [hold] at hlegal
    obtain ⟨expected_status, hexpected, hedge, hattempt⟩ := hlegal
    refine ⟨Or.inr ⟨expected_status, write.mutation.status, hedge, hexpected, hslot.status⟩,
      hslot.attempt_id.trans hattempt.symm, ?_⟩
    intro hprepared
    have hpost := (effect_write_found hstep hwrite).2.1
    have hdispatch : write.mutation.is_dispatch = false := by
      rw [Bool.eq_false_iff, Ne, dispatch_iff hpost]
      intro hdispatched
      rw [hdispatched] at hedge
      cases expected_status with
      | PREPARED => exact hprepared hexpected
      | REJECTED => exact absurd hedge (by decide)
      | DISPATCHED => exact absurd hedge (by decide)
      | COMPLETED => exact absurd hedge (by decide)
      | FAILED => exact absurd hedge (by decide)
      | UNKNOWN => exact absurd hedge (by decide)
    obtain ⟨hepoch, hkept⟩ := hslot.retained hdispatch old hold
    refine ⟨?_, hepoch⟩
    rcases hkept with hsame | ⟨authorization, hnamed, hexists⟩
    · exact hsame
    · -- a closeout names an attempt of the effect, and there is one
      rw [hid] at hexists
      rcases hentry.dispatches with ⟨-, hno⟩ | ⟨dispatch, -, hretained⟩
      · exact absurd rfl (hno _ hexists rfl)
      · have hkey := hretained.only _ hexists rfl rfl
        obtain ⟨current, hcurrent, -, hauthorization, -⟩ := hretained.slot
        obtain rfl : current = old := Option.some.inj (hcurrent.symm.trans hold)
        rw [hnamed, hauthorization, (AttemptKey.mk.inj hkey).2.2.2]

/-- **Typed effects keep their machine** in every run in which no legacy unit may replace the
slot of one: its status only moves along the legal transitions, from `PREPARED`, and its
attempt, its authorization and its dispatch epoch are never lost. -/
theorem typed_effects_keep_machine {events : List StoreEvent} {event : StoreEvent}
    (hrun : StoreRun host events db) (hstep : StoreStep host db event db')
    (hspares : SparesTypedEffects host session_id (events ++ [event]))
    (hcreated : TypedCreated session_id effect_id events) :
    TypedMachine session_id effect_id events db db' := by
  obtain ⟨hentry, hnamed⟩ := typed_entry hrun hspares.prefix hcreated
  have hkeeps := hspares events event [] db rfl hrun effect_id hcreated
  obtain ⟨creation, hmem, -⟩ := hcreated
  obtain ⟨old, hold, -⟩ := hnamed creation hmem
  refine ⟨?_, hentry.path, hentry.current, hnamed, ?_⟩
  · obtain ⟨new, hnew, hmove⟩ := slot_move hentry hkeeps hstep hold
    exact ⟨old, new, hold, hnew, hmove⟩
  · intro dispatch hdispatch
    rcases hentry.dispatches with ⟨hnone, -⟩ | ⟨only, honly, hretained⟩
    · rw [effect_dispatches, hnone] at hdispatch
      cases hdispatch
    · rw [effect_dispatches, honly, mem_singleton] at hdispatch
      rw [hdispatch]
      exact hretained

theorem SparesTypedEffects.of_typed (h : ∀ event ∈ events, TypedEvent event) :
    SparesTypedEffects host session_id events := by
  rintro pre event post before rfl - effect_id -
  exact (h event (mem_append_right _ mem_cons_self)).keeps_effect before session_id effect_id

/-! ## A run, worked out

One effect on a session that is stored as `agentkit-1`: prepared, then dispatched. A legacy
unit beside it carries a slot of the same effect. -/

/-- The unit an event submits, with the session payload its caller had read. -/
def StoreEvent.submitted : StoreEvent → Option (OwnerAuthority × UnitOfWork × Option JsonObject)
  | .call _ (.commit_authoritative_uow authority unit stored _) _ => some (authority, unit, stored)
  | _ => none

/-- The commits of a session read it stored as `agentkit-1`, and the typed units retain the
reserved fields. -/
def NewRuntimeEvent (session_id : String) (event : StoreEvent) : Prop :=
  ∀ submitted ∈ event.submitted,
    (submitted.1.session_id = session_id → ∃ payload ∈ submitted.2.2,
      parse_runtime_version payload = .ok RUNTIME_VERSION_NEW)
    ∧ (submitted.2.1.val.transition_id ≠ none → RetainsReserved submitted.2.1.val)

instance (session_id : String) (event : StoreEvent) : Decidable (NewRuntimeEvent session_id event) :=
  inferInstanceAs (Decidable (∀ submitted ∈ event.submitted, _ ∧ _))

def sample_new_session : JsonObject :=
  [("id", .str "s"), ("runtime_version", .str RUNTIME_VERSION_NEW)]

def sample_new_script : List StoreInput :=
  [.owner_changed "s" ⟨"worker", 1000, 1⟩,
   .call 1 (.commit_authoritative_uow sample_owner sample_prepare (some sample_new_session) true)]

def sample_new_dispatch : StoreInput :=
  .call 2 (.commit_authoritative_uow sample_owner sample_dispatch (some sample_new_session) true)

def sample_legacy_effect : UnitOfWork :=
  ⟨{ session_state := [("id", .str "s")]
     event := some
       { event_id := "turn", session_id := "s", event_kind := "turn", payload := [], created_at := 2 }
     effect := some { effect_id := "e", status := "completed" } }, by decide⟩

def sample_legacy_completion : StoreInput :=
  .call 2 (.commit_authoritative_uow sample_owner sample_legacy_effect (some sample_new_session) true)

/-- The effect of the worked run keeps its machine through its dispatch. -/
theorem sample_dispatch_keeps_machine :
    TypedMachine "s" "e" (play_events sample_host empty sample_new_script)
      (play sample_host empty sample_new_script)
      (sample_new_dispatch.tables sample_host (play sample_host empty sample_new_script)) := by
  refine typed_effects_keep_machine (play_run _ _ _) (StoreInput.step sample_host _ sample_new_dispatch)
    ?_ (by decide)
  exact SparesTypedEffects.of_typed (by decide)

/-- **A legacy unit breaks the machine of a typed effect**, on a session stored as `agentkit-1`:
a prepared effect is completed, and its attempt is gone. -/
theorem legacy_slot_breaks_machine :
    ¬ ∀ (host : Host) (session_id effect_id : String) (events : List StoreEvent)
        (event : StoreEvent) (db db' : Tables),
      StoreRun host events db → StoreStep host db event db' →
        (∀ made ∈ events ++ [event], NewRuntimeEvent session_id made) →
          TypedCreated session_id effect_id events →
            TypedMachine session_id effect_id events db db' := by
  intro hall
  have hmachine := hall sample_host "s" "e" _ _ _ _
    (play_run sample_host empty sample_new_script)
    (StoreInput.step sample_host _ sample_legacy_completion) (by decide) (by decide)
  obtain ⟨old, new, hold, hnew, hmove⟩ := hmachine.moves
  have hprepared : ((play sample_host empty sample_new_script).session_effect_slots.row
      ("s", "e")).map (·.status) = some "prepared" := by decide
  have hcompleted : ((sample_legacy_completion.tables sample_host
      (play sample_host empty sample_new_script)).session_effect_slots.row
      ("s", "e")).map (·.status) = some "completed" := by decide
  rw [hold, Option.map_some, Option.some.injEq] at hprepared
  rw [hnew, Option.map_some, Option.some.injEq] at hcompleted
  rcases hmove.status with hsame | ⟨expected_status, status, hedge, hbefore, hafter⟩
  · rw [hprepared, hcompleted] at hsame
    exact absurd hsame (by decide)
  · rw [hprepared] at hbefore
    rw [hcompleted] at hafter
    obtain rfl : expected_status = .PREPARED := EffectStatus.value_injective hbefore.symm
    obtain rfl : status = .COMPLETED := EffectStatus.value_injective hafter.symm
    exact absurd hedge (by decide)

end CodingAgentLoop
