/-
What a history of calls leaves in the ledger.

Admissions, receipts and the CAS are recorded faithfully through every history. The states of
attempts are not: `repair` closes the latest attempt in whatever state it is, also where it is
still prepared and was never dispatched. `compensations_faithful_iff` says that this is the only
way a history goes wrong.
-/
import CodingAgentLoop.CompensationSteps
import CodingAgentLoop.Lib.Transition

namespace CodingAgentLoop

open Lib CompensationLedger CompensationCall Action Table List

/-- A dispatched attempt was dispatched once, and a prepared one never. -/
def CompensationLedger.Counted (ledger : CompensationLedger) : Prop :=
  ∀ effect_id attempt, ledger.attempts.row effect_id = some attempt →
    attempt.dispatch_count = if attempt.state = .prepared then 0 else 1

/-! ## Histories -/

structure LedgerEvent where
  before : CompensationLedger
  call : LedgerCall
  outcome : Except CompensationError LedgerResult
  after : CompensationLedger

def ledger_step (ledger : CompensationLedger) (event : LedgerEvent)
    (ledger' : CompensationLedger) : Prop :=
  event.before = ledger ∧ event.call.run ledger = (event.outcome, ledger')
    ∧ event.after = ledger'

abbrev LedgerHistory (ledger : CompensationLedger) (events : List LedgerEvent)
    (ledger' : CompensationLedger) : Prop := Run ledger_step ledger events ledger'

namespace LedgerEvent

/-- A step of `_ATTEMPT_TRANSITIONS`, or the promotion of a prepared attempt on the way. -/
def Moves (call : LedgerCall) (effect_id : Int) (state state' : CompensationState) : Prop :=
  state' = state ∨ state' ∈ ATTEMPT_TRANSITIONS state
    ∨ (∃ text, call = .set_attempt_state effect_id text) ∧ state = .prepared
      ∧ state' ∈ ATTEMPT_TRANSITIONS .dispatched

/-- Every attempt stays, and its state moves as the transitions say. -/
def Moved (event : LedgerEvent) : Prop :=
  ∀ effect_id attempt, event.before.attempts.row effect_id = some attempt →
    ∃ attempt', event.after.attempts.row effect_id = some attempt'
      ∧ Moves event.call effect_id attempt.state attempt'.state

def Settled (event : LedgerEvent) : Prop :=
  ∀ effect_id attempt, event.after.attempts.row effect_id = some attempt →
    attempt.settlement = .resolved → attempt.state = .completed

/-- The generation that the event admits under an original effect. -/
def admission (original_effect_id : Int) (event : LedgerEvent) : Option Int :=
  match event.call, event.outcome with
  | .compensate fence original client_key _, .ok (.receipt receipt) =>
    if original = original_effect_id ∧ ∃ session_id ∈ CompensationCall.session_of? fence,
        event.before.receipts.row (session_id, original, client_key) = none then
      some receipt.generation
    else none
  | _, _ => none

/-- The event is a repair of the original effect that wrote something. -/
def effective_repair (original_effect_id : Int) (event : LedgerEvent) : Bool :=
  match event.call, event.outcome with
  | .repair _ original _, .ok (.repair result) =>
    original = original_effect_id ∧ result.atomic_writes ≠ []
  | _, _ => false

/-- The later event repeats the compensation of the earlier one: it returns the same generation
and effect id, and changes nothing. -/
def Repeats (earlier later : LedgerEvent) : Prop :=
  ∀ fence fence' original_effect_id client_key generation generation' session_id receipt,
    earlier.call = .compensate fence original_effect_id client_key generation →
    earlier.outcome = .ok (.receipt receipt) →
    later.call = .compensate fence' original_effect_id client_key generation' →
    CompensationCall.session_of? fence = some session_id →
    CompensationCall.session_of? fence' = some session_id →
    (CompensationCall.generation? generation').isSome →
    later.after = later.before ∧ ∃ receipt', later.outcome = .ok (.receipt receipt')
      ∧ receipt'.generation = receipt.generation
      ∧ receipt'.compensation_effect_id = receipt.compensation_effect_id

/-- The event is a repair that closes an attempt which was never dispatched. -/
def ClosesPrepared (event : LedgerEvent) : Prop :=
  ∃ fence original_effect_id observation effect_id attempt,
    event.call = .repair fence original_effect_id observation
      ∧ observation ∈ ["observed_failed", "observed_completed"]
      ∧ event.before.latest_attempt original_effect_id = some (effect_id, attempt)
      ∧ CompensationCall.session_of? fence = some attempt.session_id
      ∧ attempt.state = .prepared

end LedgerEvent

/-- The generations admitted under an original effect, in the order of their admission. -/
def admissions (original_effect_id : Int) (events : List LedgerEvent) : List Int :=
  events.filterMap (LedgerEvent.admission original_effect_id)

def effective_repairs (original_effect_id : Int) (events : List LedgerEvent) : List LedgerEvent :=
  events.filter (LedgerEvent.effective_repair original_effect_id)

theorem ledger_step_cases {ledger ledger' : CompensationLedger} {event : LedgerEvent}
    (h : ledger_step ledger event ledger') :
    (∃ call error, event = ⟨ledger, call, .error error, ledger⟩ ∧ ledger' = ledger)
      ∨ ∃ call result, event = ⟨ledger, call, .ok result, ledger'⟩
        ∧ LedgerStep ledger call result ledger' := by
  obtain ⟨before, call, outcome, after⟩ := event
  obtain ⟨hbefore, hrun, hafter⟩ := h
  simp only at hbefore hrun hafter
  subst hbefore hafter
  obtain ⟨hok, herror⟩ := run_steps call before rfl
  rw [hrun] at hok herror
  cases outcome with
  | error error =>
    obtain rfl := herror error rfl
    exact .inl ⟨call, error, rfl, rfl⟩
  | ok result => exact .inr ⟨call, result, rfl, hok result rfl⟩

theorem ledger_step_sound {ledger ledger' : CompensationLedger} {event : LedgerEvent}
    (hsound : ledger.Sound) (h : ledger_step ledger event ledger') : ledger'.Sound := by
  rcases ledger_step_cases h with ⟨_, _, _, rfl⟩ | ⟨_, result, _, hstep⟩
  · exact hsound
  · exact hsound.step hstep

/-! ## What every history leaves -/

/-- What the calls have admitted and repaired is what the ledger has recorded. -/
structure Recorded (events : List LedgerEvent) (ledger : CompensationLedger) : Prop where
  admitted : ∀ original_effect_id, admissions original_effect_id events
    = (ledger.attempt_ids original_effect_id).map ledger.generation_of
  cas : ∀ original_effect_id, ledger.compensation_cas original_effect_id
    = (admissions original_effect_id events).length
      + (effective_repairs original_effect_id events).length
  receipted : ∀ event ∈ events, ∀ fence original_effect_id client_key generation session_id receipt,
    event.call = .compensate fence original_effect_id client_key generation →
    event.outcome = .ok (.receipt receipt) →
    CompensationCall.session_of? fence = some session_id →
    ledger.receipts.row (session_id, original_effect_id, client_key) = some
      { generation := receipt.generation
        compensation_effect_id := receipt.compensation_effect_id }

section Recorded

variable {ledger ledger' : CompensationLedger} {event : LedgerEvent}

variable {client_key session_id : String} {fence : JsonObject} {original_effect_id other : Int}
  {receipt : CompensationReceipt} {identity : ReceiptIdentity} {generation : Json}

theorem admission_of_receipt (hsession : CompensationCall.session_of? fence = some session_id)
    (hreceipt : ledger.receipts.row (session_id, other, client_key) = some identity) :
    LedgerEvent.admission original_effect_id ⟨ledger, .compensate fence other client_key generation,
      .ok (.receipt receipt), ledger'⟩ = none := by
  refine if_neg (fun ⟨_, found, hfound, hnone⟩ => ?_)
  obtain rfl : session_id = found := Option.some.inj (hsession.symm.trans hfound)
  rw [hreceipt] at hnone
  cases hnone

theorem admission_of_new (hsession : CompensationCall.session_of? fence = some session_id)
    (hreceipt : ledger.receipts.row (session_id, other, client_key) = none) :
    LedgerEvent.admission original_effect_id ⟨ledger, .compensate fence other client_key generation,
      .ok (.receipt receipt), ledger'⟩
      = if other = original_effect_id then some receipt.generation else none := by
  unfold LedgerEvent.admission
  by_cases h : other = original_effect_id
  · exact (if_pos ⟨h, session_id, hsession, hreceipt⟩).trans (if_pos h).symm
  · exact (if_neg (fun hboth => h hboth.1)).trans (if_neg h).symm

theorem compensation_cas_bump_cas (ledger : CompensationLedger) (original_effect_id other : Int) :
    (ledger.bump_cas original_effect_id).compensation_cas other
      = if other = original_effect_id then ledger.compensation_cas original_effect_id + 1
        else ledger.compensation_cas other := by
  unfold bump_cas
  show ((ledger.cas.put original_effect_id
    (ledger.compensation_cas original_effect_id + 1)).row other).getD 0 = _
  rw [row_put]
  split
  · rfl
  · rfl

theorem effective_repair_of {observation : String} {result : RepairResult} :
    LedgerEvent.effective_repair original_effect_id
        ⟨ledger, .repair fence other observation, .ok (.repair result), ledger'⟩
      = decide (other = original_effect_id ∧ result.atomic_writes ≠ []) := rfl

theorem step_admission (hsound : ledger.Sound) (h : ledger_step ledger event ledger')
    (original_effect_id : Int) :
    (ledger'.attempt_ids original_effect_id).map ledger'.generation_of
      = (ledger.attempt_ids original_effect_id).map ledger.generation_of
        ++ (event.admission original_effect_id).toList := by
  rcases ledger_step_cases h with ⟨call, error, rfl, rfl⟩ | ⟨call, result, rfl, hstep⟩
  · cases call <;> exact (append_nil _).symm
  · cases hstep with
    | waits => exact (append_nil _).symm
    | waited _ =>
      refine Eq.trans ?_ (append_nil _).symm
      exact hsound.map_generation_put_next _ original_effect_id
    | restored => exact (append_nil _).symm
    | blocked => exact (append_nil _).symm
    | changed hattempt hchange =>
      have hgenerations := hsound.generation_put_attempt hattempt hchange.generation
      cases hchange <;> exact hgenerations ▸ (append_nil _).symm
    | replayed hsession hreceipt _ _ =>
      rw [admission_of_receipt hsession hreceipt]
      exact (append_nil _).symm
    | @admitted _ original _ _ _ _ hsession hreceipt _ _ =>
      rw [hsound.generations_admitted, admission_of_new hsession hreceipt]
      by_cases horiginal : original_effect_id = original
      · rw [if_pos horiginal, if_pos horiginal.symm, horiginal]
        rfl
      · rw [if_neg horiginal, if_neg (fun h => horiginal h.symm)]
        exact (append_nil _).symm
    | observed _ => exact (append_nil _).symm
    | repaired _ hlatest hrepaired _ =>
      refine Eq.trans ?_ (append_nil _).symm
      have hgenerations := hsound.generation_put_attempt (row_of_latest hlatest)
        (repaired_generation hrepaired)
      exact congrArg (fun f => List.map f _) hgenerations

theorem step_cas (h : ledger_step ledger event ledger') (original_effect_id : Int) :
    ledger'.compensation_cas original_effect_id
      = ledger.compensation_cas original_effect_id
        + (event.admission original_effect_id).toList.length
        + (if event.effective_repair original_effect_id then 1 else 0) := by
  rcases ledger_step_cases h with ⟨call, error, rfl, rfl⟩ | ⟨call, result, rfl, hstep⟩
  · cases call <;> rfl
  · cases hstep with
    | waits => rfl
    | waited _ => rfl
    | restored => rfl
    | blocked => rfl
    | changed hattempt hchange => cases hchange <;> rfl
    | replayed hsession hreceipt _ _ =>
      rw [admission_of_receipt hsession hreceipt]
      rfl
    | @admitted _ original _ _ _ _ hsession hreceipt _ _ =>
      rw [admission_of_new hsession hreceipt, record_admission, compensation_cas_bump_cas]
      by_cases horiginal : original_effect_id = original
      · rw [if_pos horiginal, if_pos horiginal.symm, horiginal]
        rfl
      · rw [if_neg horiginal, if_neg (fun h => horiginal h.symm)]
        rfl
    | observed hwrites =>
      rw [effective_repair_of, decide_eq_false (fun h => h.2 hwrites)]
      rfl
    | @repaired _ original _ _ _ _ _ _ _ _ hwrites =>
      rw [effective_repair_of, compensation_cas_bump_cas]
      by_cases horiginal : original_effect_id = original
      · rw [if_pos horiginal, decide_eq_true ⟨horiginal.symm, hwrites⟩, horiginal]
        rfl
      · rw [if_neg horiginal, decide_eq_false (fun h => horiginal h.1.symm)]
        rfl

theorem step_receipts (h : ledger_step ledger event ledger') {key : String × Int × String}
    (hreceipt : ledger.receipts.row key = some identity) :
    ledger'.receipts.row key = some identity := by
  rcases ledger_step_cases h with ⟨call, error, rfl, rfl⟩ | ⟨call, result, rfl, hstep⟩
  · exact hreceipt
  · cases hstep with
    | waits => exact hreceipt
    | waited _ => exact hreceipt
    | restored => exact hreceipt
    | blocked => exact hreceipt
    | changed _ _ => exact hreceipt
    | replayed _ _ _ _ => exact hreceipt
    | admitted _ hnew _ _ =>
      refine (row_put_of_ne _ _ ?_).trans hreceipt
      rintro rfl
      rw [hnew] at hreceipt
      cases hreceipt
    | observed _ => exact hreceipt
    | repaired _ _ _ _ => exact hreceipt

theorem step_receipted (h : ledger_step ledger event ledger') {original_effect_id : Int}
    (hcall : event.call = .compensate fence original_effect_id client_key generation)
    (houtcome : event.outcome = .ok (.receipt receipt))
    (hsession : CompensationCall.session_of? fence = some session_id) :
    ledger'.receipts.row (session_id, original_effect_id, client_key) = some
      { generation := receipt.generation
        compensation_effect_id := receipt.compensation_effect_id } := by
  rcases ledger_step_cases h with ⟨call, error, rfl, rfl⟩ | ⟨call, result, rfl, hstep⟩
  · cases houtcome
  · obtain rfl : call = _ := hcall
    obtain rfl : result = _ := Except.ok.inj houtcome
    cases hstep with
    | changed _ hchange => cases hchange
    | replayed hfence hreceipt hgeneration heffect =>
      obtain rfl := Option.some.inj (hsession.symm.trans hfence)
      rw [hreceipt, hgeneration, heffect]
    | admitted hfence _ _ heffect =>
      obtain rfl := Option.some.inj (hsession.symm.trans hfence)
      rw [heffect]
      exact row_put_self _ _ _

theorem compensate_replayed (hsound : ledger.Sound) {original_effect_id : Int}
    (hsession : CompensationCall.session_of? fence = some session_id)
    (hgeneration : (CompensationCall.generation? generation).isSome)
    (hreceipt : ledger.receipts.row (session_id, original_effect_id, client_key)
      = some identity) :
    ∃ receipt,
      (LedgerCall.compensate fence original_effect_id client_key generation).run ledger
        = (.ok (.receipt receipt), ledger)
      ∧ receipt.generation = identity.generation
      ∧ receipt.compensation_effect_id = identity.compensation_effect_id := by
  obtain ⟨attempt, hattempt⟩ :=
    Option.isSome_iff_exists.mp (hsound.receipted _ identity hreceipt)
  obtain ⟨number, hnumber⟩ := Option.isSome_iff_exists.mp hgeneration
  have hfence : CompensationCall.session_id fence ledger = (.ok session_id, ledger) := by
    unfold CompensationCall.session_id
    rw [hsession]
    rfl
  have hrun : compensate fence original_effect_id client_key generation ledger
      = CompensationCall.receipt identity ledger := by
    unfold compensate
    rw [hnumber]
    show (CompensationCall.session_id fence >>= _) ledger = _
    rw [bind_ok hfence, bind_ok (get_run ledger), hreceipt]
  refine ⟨{ generation := identity.generation
            compensation_effect_id := identity.compensation_effect_id
            attempt_state := attempt.state
            settlement := attempt.settlement }, ?_, rfl, rfl⟩
  show (compensate fence original_effect_id client_key generation >>= _) ledger = _
  rw [bind_ok (hrun.trans (receipt_run hattempt))]
  rfl

theorem history_sound (hsound : ledger.Sound) {events : List LedgerEvent}
    (h : LedgerHistory ledger events ledger') : ledger'.Sound :=
  h.invariant hsound (fun _ _ _ hsound hstep => ledger_step_sound hsound hstep)

section

variable (original_effect_id : Int) (events : List LedgerEvent) (event : LedgerEvent)

theorem admissions_snoc : admissions original_effect_id (events ++ [event])
      = admissions original_effect_id events ++ (event.admission original_effect_id).toList := by
  unfold admissions
  rw [filterMap_append]
  cases h : event.admission original_effect_id with
  | none => rw [filterMap_cons_none h]; rfl
  | some generation => rw [filterMap_cons_some h]; rfl

theorem effective_repairs_snoc : (effective_repairs original_effect_id (events ++ [event])).length
      = (effective_repairs original_effect_id events).length
        + (if event.effective_repair original_effect_id then 1 else 0) := by
  unfold effective_repairs
  rw [filter_append, length_append]
  by_cases h : event.effective_repair original_effect_id
  · rw [if_pos h, filter_cons_of_pos h]
    rfl
  · rw [if_neg h, filter_cons_of_neg h]
    rfl

end

theorem history_recorded {first_effect_id : Int} {events : List LedgerEvent}
    (hinit : init first_effect_id = .ok ledger)
    (h : LedgerHistory ledger events ledger') : Recorded events ledger' := by
  have hempty : Recorded [] ledger := by
    unfold init at hinit
    split at hinit
    · cases hinit
    · obtain rfl := Except.ok.inj hinit
      exact ⟨fun _ => rfl, fun _ => rfl, fun _ hevent => by cases hevent⟩
  refine h.history hempty ?_
  intro events before event after hrun hrecorded hstep
  have hsound : before.Sound := history_sound (init_sound hinit) hrun
  constructor
  · intro original_effect_id
    rw [admissions_snoc, hrecorded.admitted, step_admission hsound hstep]
  · intro original_effect_id
    rw [admissions_snoc, effective_repairs_snoc, step_cas hstep, hrecorded.cas, length_append]
    omega
  · intro found hfound fence original_effect_id client_key generation session_id receipt hcall
      houtcome hsession
    rcases mem_snoc hfound with hfound | rfl
    · exact step_receipts hstep (hrecorded.receipted found hfound _ _ _ _ _ _ hcall houtcome hsession)
    · exact step_receipted hstep hcall houtcome hsession

end Recorded

/-! ## States and counts -/

namespace LedgerEvent

variable {effect_id : Int} {call : LedgerCall}

theorem Moves.refl {state : CompensationState} :
    Moves call effect_id state state := .inl rfl

variable {attempt attempt' : CompensationAttempt}

theorem moves_of_change (h : AttemptChange call effect_id attempt attempt') :
    Moves call effect_id attempt.state attempt'.state := by
  cases h with
  | counted _ _ => exact .refl
  | approved hstate =>
    refine .inr (.inl ?_)
    rw [hstate]
    exact mem_singleton.mpr rfl
  | set hstate => exact .inr (.inl hstate)
  | promoted hprepared hstate => exact .inr (.inr ⟨⟨_, rfl⟩, hprepared, hstate⟩)
  | resolved _ => exact .refl

theorem ne_prepared_of_transition {state state' : CompensationState}
    (h : state' ∈ ATTEMPT_TRANSITIONS state) : state' ≠ .prepared := by
  rintro rfl
  cases state <;> exact absurd h (by decide)

theorem eq_dispatched_of_prepared {state : CompensationState}
    (h : state ∈ ATTEMPT_TRANSITIONS .prepared) : state = .dispatched :=
  mem_singleton.mp h

theorem count_of_change (h : AttemptChange call effect_id attempt attempt')
    (hcount : attempt.dispatch_count = if attempt.state = .prepared then 0 else 1) :
    attempt'.dispatch_count = if attempt'.state = .prepared then 0 else 1 := by
  cases h with
  | counted hstate _ =>
    have hne : attempt.state ≠ .prepared := by
      rcases hstate with hstate | hstate <;> rw [hstate] <;> decide
    exact (if_neg hne).symm
  | approved hstate =>
    rw [if_pos hstate] at hcount
    exact congrArg (· + 1) hcount
  | @set _ _ state _ hstate =>
    have hne : state ≠ .prepared := ne_prepared_of_transition hstate
    show (if state = .dispatched ∧ attempt.dispatch_count = 0 then 1
      else attempt.dispatch_count) = if state = .prepared then 0 else 1
    rw [if_neg hne]
    by_cases hprepared : attempt.state = .prepared
    · rw [if_pos hprepared] at hcount
      rw [hprepared] at hstate
      rw [if_pos ⟨eq_dispatched_of_prepared hstate, hcount⟩]
    · rw [if_neg hprepared] at hcount
      rw [if_neg (fun h => by omega)]
      exact hcount
  | promoted _ hstate => exact (if_neg (ne_prepared_of_transition hstate)).symm
  | resolved _ => exact hcount

variable {writes : List (String × String)}

theorem moves_of_repair (h : RepairChange attempt attempt' writes)
    (hprepared : attempt.state ≠ .prepared) :
    Moves call effect_id attempt.state attempt'.state := by
  cases h with
  | nothing => exact .refl
  | failed _ hstate =>
    refine .inr (.inl ?_)
    show CompensationState.failed ∈ ATTEMPT_TRANSITIONS attempt.state
    cases hs : attempt.state <;> rw [hs] at hprepared hstate <;> revert hprepared hstate <;>
      decide
  | completed hstate =>
    refine .inr (.inl ?_)
    show CompensationState.completed ∈ ATTEMPT_TRANSITIONS attempt.state
    cases hs : attempt.state <;> rw [hs] at hprepared hstate <;> revert hprepared hstate <;>
      decide
  | settled _ => exact .refl

theorem count_of_repair (h : RepairChange attempt attempt' writes)
    (hprepared : attempt.state ≠ .prepared)
    (hcount : attempt.dispatch_count = if attempt.state = .prepared then 0 else 1) :
    attempt'.dispatch_count = if attempt'.state = .prepared then 0 else 1 := by
  cases h with
  | nothing => exact hcount
  | failed _ _ => exact hcount.trans (if_neg hprepared)
  | completed _ => exact hcount.trans (if_neg hprepared)
  | settled _ => exact hcount

variable {ledger : CompensationLedger}

theorem moved_of_put (hattempt : ledger.attempts.row effect_id = some attempt)
    (hmoves : Moves call effect_id attempt.state attempt'.state) {other : Int}
    {found : CompensationAttempt} (hfound : ledger.attempts.row other = some found) :
    ∃ found', (ledger.put_attempt effect_id attempt').attempts.row other = some found'
      ∧ Moves call other found.state found'.state := by
  by_cases hother : other = effect_id
  · subst hother
    obtain rfl : attempt = found := Option.some.inj (hattempt.symm.trans hfound)
    exact ⟨attempt', row_put_self _ _ _, hmoves⟩
  · exact ⟨found, (row_put_of_ne _ _ hother).trans hfound, .refl⟩

theorem counted_of_put {attempt : CompensationAttempt} (hcounted : ledger.Counted)
    (hcount : attempt.dispatch_count = if attempt.state = .prepared then 0 else 1) :
    (ledger.put_attempt effect_id attempt).Counted := by
  intro other found hfound
  by_cases hother : other = effect_id
  · subst hother
    obtain rfl : attempt = found := Option.some.inj ((row_put_self _ _ _).symm.trans hfound)
    exact hcount
  · exact hcounted other found ((row_put_of_ne _ _ hother).symm.trans hfound)

variable {observation : String}

theorem observation_of_writes
    (h : CompensationCall.repaired attempt observation = .ok (attempt', writes))
    (hwrites : writes ≠ []) : observation ∈ ["observed_failed", "observed_completed"] := by
  unfold CompensationCall.repaired at h
  split at h
  · next hfailed => exact mem_cons.mpr (.inl hfailed.2)
  · split at h
    · next hcompleted => exact mem_cons_of_mem _ (mem_singleton.mpr hcompleted.2)
    · cases h
      exact absurd rfl hwrites

/-- An event that does not close a prepared attempt moves every attempt along the transitions
and keeps the counts. -/
theorem moved_of_step {ledger ledger' : CompensationLedger} {event : LedgerEvent}
    (hsound : ledger.Sound) (hcounted : ledger.Counted) (h : ledger_step ledger event ledger')
    (hcloses : ¬ event.ClosesPrepared) : event.Moved ∧ ledger'.Counted := by
  have hsame {call : LedgerCall} {outcome : Except CompensationError LedgerResult} :
      Moved ⟨ledger, call, outcome, ledger⟩ :=
    fun _ attempt hattempt => ⟨attempt, hattempt, .refl⟩
  rcases ledger_step_cases h with ⟨call, error, rfl, rfl⟩ | ⟨call, result, rfl, hstep⟩
  · exact ⟨hsame, hcounted⟩
  · cases hstep with
    | waits => exact ⟨hsame, hcounted⟩
    | waited _ =>
      refine ⟨fun effect_id attempt hattempt => ⟨attempt, ?_, .refl⟩, ?_⟩
      · exact hsound.row_put_next _ hattempt
      · exact counted_of_put hcounted rfl
    | restored => exact ⟨fun _ attempt hattempt => ⟨attempt, hattempt, .refl⟩, hcounted⟩
    | blocked => exact ⟨hsame, hcounted⟩
    | changed hattempt hchange =>
      exact ⟨fun _ _ hfound => moved_of_put hattempt (moves_of_change hchange) hfound,
        counted_of_put hcounted (count_of_change hchange (hcounted _ _ hattempt))⟩
    | replayed _ _ _ _ => exact ⟨hsame, hcounted⟩
    | admitted _ _ _ _ =>
      refine ⟨fun effect_id attempt hattempt => ⟨attempt, ?_, .refl⟩, ?_⟩
      · exact hsound.row_put_next _ hattempt
      · exact counted_of_put hcounted rfl
    | observed _ => exact ⟨hsame, hcounted⟩
    | repaired hsession hlatest hrepaired hwrites =>
      have hprepared : _ ≠ CompensationState.prepared := fun hprepared =>
        hcloses ⟨_, _, _, _, _, rfl, observation_of_writes hrepaired hwrites, hlatest, hsession,
          hprepared⟩
      have hattempt := row_of_latest hlatest
      have hchange := repaired_change hrepaired
      exact ⟨fun _ _ hfound => moved_of_put hattempt (moves_of_repair hchange hprepared) hfound,
        counted_of_put hcounted
          (count_of_repair hchange hprepared (hcounted _ _ hattempt))⟩

theorem repaired_prepared {attempt : CompensationAttempt} (hprepared : attempt.state = .prepared)
    (hsettlement : attempt.settlement ≠ .resolved)
    (hobservation : observation ∈ ["observed_failed", "observed_completed"]) :
    ∃ attempt' writes, CompensationCall.repaired attempt observation = .ok (attempt', writes)
      ∧ writes ≠ [] ∧ attempt'.state ∈ TERMINAL_ATTEMPT_STATES := by
  unfold CompensationCall.repaired
  rw [hprepared]
  rcases mem_cons.mp hobservation with rfl | hobservation
  · rw [if_pos ⟨hsettlement, rfl⟩, if_pos (by decide)]
    exact ⟨_, _, rfl, by decide, mem_cons_self⟩
  · obtain rfl := mem_singleton.mp hobservation
    rw [if_neg (fun h => absurd h.2 (by decide)), if_pos ⟨hsettlement, rfl⟩, if_neg (by decide),
      if_pos (by decide)]
    exact ⟨_, _, rfl, by decide, mem_cons_of_mem _ mem_cons_self⟩

theorem repair_run {fence : JsonObject} {original_effect_id effect_id : Int}
    (hsession : CompensationCall.session_of? fence = some attempt.session_id)
    (hobservation : observation ∈ ["observed_failed", "observed_completed"])
    (hlatest : ledger.latest_attempt original_effect_id = some (effect_id, attempt))
    (hrepaired : CompensationCall.repaired attempt observation = .ok (attempt', writes))
    (hwrites : writes ≠ []) :
    ((LedgerCall.repair fence original_effect_id observation).run ledger).2
      = (ledger.put_attempt effect_id attempt').bump_cas original_effect_id := by
  have hfence : CompensationCall.session_id fence ledger = (.ok attempt.session_id, ledger) := by
    unfold CompensationCall.session_id
    rw [hsession]
    rfl
  have hknown : ¬ observation ∉ ["unobserved", "observed_failed", "observed_completed"] :=
    not_not.mpr (mem_cons_of_mem _ hobservation)
  have hchecked : (when (observation ∉ ["unobserved", "observed_failed",
      "observed_completed"]) (refuse .ValueError
        ("invalid repair observation: " ++ observation)) : LedgerAction Unit) ledger
      = (.ok (), ledger) := by
    unfold when
    rw [if_neg hknown]
    rfl
  have howner : require_target_owner attempt attempt.session_id ledger
      = (.ok (), ledger) := by
    unfold require_target_owner when
    rw [if_neg (not_not.mpr rfl)]
    rfl
  have hwritten : (when (writes ≠ []) (Action.modify (fun ledger =>
      (ledger.put_attempt effect_id attempt').bump_cas original_effect_id)) : LedgerAction Unit)
      ledger = (.ok (), (ledger.put_attempt effect_id attempt').bump_cas original_effect_id) := by
    unfold when
    rw [if_pos hwrites]
    rfl
  have hrun : repair fence original_effect_id observation ledger
      = (.ok { atomic_writes := writes, transaction_count := if writes = [] then 0 else 1 },
        (ledger.put_attempt effect_id attempt').bump_cas original_effect_id) := by
    unfold repair
    rw [bind_ok hfence, bind_ok hchecked, bind_ok (get_run ledger),
      hlatest]
    show (require_target_owner attempt attempt.session_id >>= _) ledger = _
    rw [bind_ok howner, hrepaired, bind_ok (lift_run _ _)]
    exact bind_ok hwritten
  show ((repair fence original_effect_id observation >>= _) ledger).2 = _
  rw [bind_ok hrun]
  rfl

theorem not_moved_of_closes {ledger ledger' : CompensationLedger} {event : LedgerEvent}
    (hsound : ledger.Sound) (h : ledger_step ledger event ledger')
    (hcloses : event.ClosesPrepared) : ¬ event.Moved := by
  obtain ⟨before, call, outcome, after⟩ := event
  obtain ⟨hbefore, hrun, hafter⟩ := h
  simp only at hbefore hrun hafter
  subst hbefore hafter
  obtain ⟨fence, original_effect_id, observation, effect_id, attempt, hcall, hobservation, hlatest,
    hsession, hprepared⟩ := hcloses
  simp only at hcall hlatest
  subst hcall
  have hattempt := row_of_latest hlatest
  have hsettlement : attempt.settlement ≠ .resolved := by
    intro hresolved
    rw [hsound.settled _ _ hattempt hresolved] at hprepared
    cases hprepared
  obtain ⟨attempt', writes, hrepaired, hwrites, hstate⟩ :=
    repaired_prepared hprepared hsettlement hobservation
  have hafter := repair_run hsession hobservation hlatest hrepaired hwrites
  rw [hrun] at hafter
  simp only at hafter
  subst hafter
  intro hmoved
  obtain ⟨found, hfound, hmoves⟩ := hmoved effect_id attempt hattempt
  obtain rfl : attempt' = found := Option.some.inj ((row_put_self _ _ _).symm.trans hfound)
  rw [hprepared] at hmoves
  rcases hmoves with hsame | hdispatched | ⟨⟨_, hset⟩, _⟩
  · rw [hsame] at hstate
    exact absurd hstate (by decide)
  · rw [eq_dispatched_of_prepared hdispatched] at hstate
    exact absurd hstate (by decide)
  · cases hset

end LedgerEvent

structure KeepsPromises (events : List LedgerEvent) (ledger : CompensationLedger) : Prop where
  moved : ∀ event ∈ events, event.Moved
  counted : ∀ event ∈ events, event.after.Counted
  settled : ∀ event ∈ events, event.Settled
  consecutive : ∀ original_effect_id, Consecutive (admissions original_effect_id events)
  repeated : events.Pairwise LedgerEvent.Repeats
  cas : ∀ original_effect_id, ledger.compensation_cas original_effect_id
    = (admissions original_effect_id events).length
      + (effective_repairs original_effect_id events).length
  unchanged : ∀ event ∈ events, ∀ error, event.outcome = .error error → event.after = event.before

section Histories

variable {ledger ledger' : CompensationLedger} {events : List LedgerEvent}

theorem history_settled (hsound : ledger.Sound) (h : LedgerHistory ledger events ledger') :
    ∀ event ∈ events, event.Settled := by
  intro event hevent
  obtain ⟨before, after, _, hrun, hstep⟩ := h.of_mem hevent
  have hafter := ledger_step_sound (history_sound hsound hrun) hstep
  rw [← hstep.2.2] at hafter
  exact hafter.settled

theorem history_unchanged (h : LedgerHistory ledger events ledger') :
    ∀ event ∈ events, ∀ error, event.outcome = .error error → event.after = event.before := by
  intro event hevent error herror
  obtain ⟨before, after, _, _, hstep⟩ := h.of_mem hevent
  rcases ledger_step_cases hstep with ⟨call, _, rfl, rfl⟩ | ⟨call, result, rfl, _⟩
  · rfl
  · cases herror

/-- Where no prepared attempt is closed, by induction on the history: the counts are right before
each call. -/
theorem history_moved {first_effect_id : Int} (hinit : init first_effect_id = .ok ledger)
    (h : LedgerHistory ledger events ledger') (hcloses : ∀ event ∈ events, ¬ event.ClosesPrepared) :
    ledger'.Counted ∧ ∀ event ∈ events, event.Moved ∧ event.after.Counted := by
  have hsound := init_sound hinit
  have hempty : ledger.Counted := by
    unfold init at hinit
    split at hinit
    · cases hinit
    · obtain rfl := Except.ok.inj hinit
      exact fun _ _ hattempt => by cases hattempt
  refine h.history_where (P := fun events ledger => ledger.Counted
    ∧ ∀ event ∈ events, event.Moved ∧ event.after.Counted) hcloses ⟨hempty, fun _ hevent => by cases hevent⟩ ?_
  rintro events before event after hrun ⟨hcounted, hevents⟩ hopen hstep
  obtain ⟨hmoved, hafter⟩ :=
    LedgerEvent.moved_of_step (history_sound hsound hrun) hcounted hstep hopen
  refine ⟨hafter, fun found hfound => ?_⟩
  rcases mem_snoc hfound with hfound | rfl
  · exact hevents found hfound
  · exact ⟨hmoved, hstep.2.2 ▸ hafter⟩

theorem history_repeated {first_effect_id : Int} (hinit : init first_effect_id = .ok ledger)
    (h : LedgerHistory ledger events ledger') : events.Pairwise LedgerEvent.Repeats := by
  refine h.history (P := fun events _ => events.Pairwise LedgerEvent.Repeats) List.Pairwise.nil ?_
  intro events before event after hrun hpairs hstep
  refine pairwise_append.mpr ⟨hpairs, pairwise_singleton _ _, ?_⟩
  intro earlier hearlier later hlater
  obtain rfl : later = event := mem_singleton.mp hlater
  intro fence fence' original_effect_id client_key generation generation' session_id receipt hcall
    houtcome hcall' hsession hsession' hgeneration
  have hreceipt := (history_recorded hinit hrun).receipted earlier hearlier _ _ _ _ _ _ hcall
    houtcome hsession
  obtain ⟨receipt', hrun', hnumber, heffect⟩ := compensate_replayed
    (history_sound (init_sound hinit) hrun) hsession' hgeneration hreceipt
  obtain ⟨hbefore, hstep, hafter⟩ := hstep
  rw [hcall', hrun'] at hstep
  obtain ⟨houtcome', rfl⟩ := Prod.mk.inj hstep
  exact ⟨hafter.trans hbefore.symm, receipt', houtcome'.symm, hnumber, heffect⟩

end Histories

/-- From an empty ledger, through any history of calls: the ledger keeps its promises just when no
repair closes an attempt that is still prepared. -/
theorem compensations_faithful_iff {first_effect_id : Int} {ledger ledger' : CompensationLedger}
    {events : List LedgerEvent}
    (hinit : init first_effect_id = .ok ledger)
    (h : LedgerHistory ledger events ledger') :
    KeepsPromises events ledger' ↔ ∀ event ∈ events, ¬ event.ClosesPrepared := by
  have hsound := init_sound hinit
  have hrecorded := history_recorded hinit h
  constructor
  · intro hfaithful event hevent hcloses
    obtain ⟨before, after, _, hrun, hstep⟩ := h.of_mem hevent
    exact LedgerEvent.not_moved_of_closes (history_sound hsound hrun) hstep hcloses
      (hfaithful.moved event hevent)
  · intro hcloses
    have hmoved := history_moved hinit h hcloses
    exact
      { moved := fun event hevent => (hmoved.2 event hevent).1
        counted := fun event hevent => (hmoved.2 event hevent).2
        settled := history_settled hsound h
        consecutive := fun original_effect_id => by
          rw [hrecorded.admitted]
          exact (history_sound hsound h).consecutive original_effect_id
        repeated := history_repeated hinit h
        cas := hrecorded.cas
        unchanged := history_unchanged h }

/-! ## A compensation that was never dispatched -/

def play_calls (ledger : CompensationLedger) :
    List LedgerCall → List LedgerEvent × CompensationLedger
  | [] => ([], ledger)
  | call :: rest =>
    let called := call.run ledger
    let played := play_calls called.2 rest
    (⟨ledger, call, called.1, called.2⟩ :: played.1, played.2)

theorem play_calls_history (ledger : CompensationLedger) (calls : List LedgerCall) :
    LedgerHistory ledger (play_calls ledger calls).1 (play_calls ledger calls).2 := by
  induction calls generalizing ledger with
  | nil => exact Run.refl
  | cons call rest ih =>
    have hfirst : ledger_step ledger ⟨ledger, call, (call.run ledger).1, (call.run ledger).2⟩
        (call.run ledger).2 := ⟨rfl, rfl, rfl⟩
    exact (Run.single hfirst).append (ih _)

def session_fence : JsonObject := [("session_id", .str "session-7")]

/-- A compensation is admitted and, before it was dispatched, observed to have failed. -/
def observed_unsent : List LedgerCall :=
  [.compensate session_fence 7 "client-op-1" (.int 1),
    .repair session_fence 7 "observed_failed"]

/-- The attempt goes from prepared to failed, and counts no dispatch. -/
theorem unsent_attempt_fails :
    let played := play_calls { next_effect_id := 40 } observed_unsent
    (played.2.attempts.row 40).map (fun attempt => (attempt.state, attempt.dispatch_count))
        = some (.failed, 0)
      ∧ ¬ KeepsPromises played.1 played.2 := by
  have hrow : ((play_calls { next_effect_id := 40 } observed_unsent).2.attempts.row 40).map
      (fun attempt => (attempt.state, attempt.dispatch_count)) = some (.failed, 0) := by
    decide +kernel
  refine ⟨hrow, fun hfaithful => ?_⟩
  obtain ⟨attempt, hattempt, hpair⟩ := Option.map_eq_some_iff.mp hrow
  obtain ⟨hstate, hcount⟩ := Prod.mk.inj hpair
  have hcounted := hfaithful.counted _ (mem_cons_of_mem _ mem_cons_self) 40 attempt
    hattempt
  rw [hstate, hcount] at hcounted
  exact absurd hcounted (by decide)

/-- A compensation is admitted, completed, admitted again by its key, and settled by a repair. -/
def observed_sent : List LedgerCall :=
  [.compensate session_fence 7 "client-op-1" (.int 3), .set_attempt_state 40 "completed",
    .compensate session_fence 7 "client-op-1" (.int 99),
    .repair session_fence 7 "observed_completed"]

theorem sent_attempt_faithful :
    KeepsPromises (play_calls { next_effect_id := 40 } observed_sent).1
      (play_calls { next_effect_id := 40 } observed_sent).2 := by
  have hinit : init 40 = .ok { next_effect_id := 40 } := rfl
  refine (compensations_faithful_iff hinit (play_calls_history _ observed_sent)).mpr ?_
  rintro event hevent ⟨fence, original_effect_id, observation, effect_id, attempt, hcall, _, hlatest,
    _, hprepared⟩
  have hcompleted : ((play_calls { next_effect_id := 40 } (observed_sent.take 3)).2.latest_attempt
      7).map (fun latest => latest.2.state) = some .completed := by
    decide +kernel
  rcases mem_cons.mp hevent with rfl | hevent
  · cases hcall
  rcases mem_cons.mp hevent with rfl | hevent
  · cases hcall
  rcases mem_cons.mp hevent with rfl | hevent
  · cases hcall
  obtain rfl := mem_singleton.mp hevent
  obtain ⟨_, rfl, _⟩ := LedgerCall.repair.inj hcall
  have hstate : (some (effect_id, attempt)).map (fun latest => latest.2.state) = some .completed :=
    hlatest ▸ hcompleted
  rw [Option.map_some, hprepared] at hstate
  cases hstate

end CodingAgentLoop
