/-
The life of an executor attempt over a run of the store.

An attempt is opened by a dispatch and from then on moves forward only, through
`authorized_unclaimed < reserved < started < quiescent`. The file reads every
event of a run as a step of one row (`attempt_row_step`): the row is kept, opened
or moved. What a run does to the row follows by induction on the run, and the
history keeps the reservation behind every claimed attempt, which is what ties a
start to the executor that reserved it.
-/
import CodingAgentLoop.StoreSteps

namespace CodingAgentLoop

open Lib Tables AuthoritativeUnitOfWork List

variable {host : Host} {db db' : Tables}

/-! ## Moves go forward -/

def ExecutorAttemptStatus.rank : ExecutorAttemptStatus → Nat
  | .AUTHORIZED_UNCLAIMED => 0
  | .RESERVED => 1
  | .STARTED => 2
  | .QUIESCENT => 3

theorem ExecutorAttemptStatus.rank_le (status : ExecutorAttemptStatus) : status.rank ≤ 3 := by
  cases status <;> decide

theorem ExecutorAttemptStatus.eq_quiescent {status : ExecutorAttemptStatus}
    (h : 3 ≤ status.rank) : status = .QUIESCENT := by
  cases status with
  | QUIESCENT => rfl
  | AUTHORIZED_UNCLAIMED => exact absurd h (by decide)
  | RESERVED => exact absurd h (by decide)
  | STARTED => exact absurd h (by decide)

/-- **Every move raises the rank.** -/
theorem AttemptMove.rank_lt {call : StoreCall} {current updated : ExecutorAttemptRecord}
    (h : AttemptMove call current updated) : current.status.rank < updated.status.rank := by
  cases h with
  | reserve unclaimed =>
    simp [unclaimed, ExecutorAttemptStatus.rank]
  | start reserved =>
    simp [reserved, ExecutorAttemptStatus.rank]
  | finish started =>
    simp [started, ExecutorAttemptStatus.rank]
  | revoke reserved =>
    simp [reserved, ExecutorAttemptStatus.rank]
  | close live =>
    have hle := current.status.rank_le
    have hne : current.status.rank ≠ 3 := fun h3 =>
      live (ExecutorAttemptStatus.eq_quiescent (Nat.le_of_eq h3.symm))
    exact Nat.lt_of_le_of_ne hle hne
  | closeout _ unclaimed =>
    simp [unclaimed, ExecutorAttemptStatus.rank]

theorem AttemptMove.foreign_owner {call : StoreCall} {current updated : ExecutorAttemptRecord}
    (h : AttemptMove call current updated)
    (hforeign : call.authority.epoch ≠ current.dispatch_owner_epoch) :
    updated.status = .QUIESCENT := by
  cases h with
  | reserve _ owner => exact absurd owner.symm hforeign
  | start _ _ _ owner => exact absurd owner.symm hforeign
  | finish => rfl
  | revoke => rfl
  | close => rfl
  | closeout => rfl

/-! ## One event, one row -/

inductive AttemptRowStep (db : Tables) (key : AttemptKey) :
    StoreEvent → Option ExecutorAttemptRecord → Option ExecutorAttemptRecord → Prop
  | kept {event : StoreEvent} {row : Option ExecutorAttemptRecord} :
      AttemptRowStep db key event row row
  | opened {clock : Datetime} {authority : OwnerAuthority} {unit : UnitOfWork}
      {stored : Option JsonObject} {new_sessions_enabled : Bool} {commit : AuthoritativeCommit}
      {attempt : ExecutorAttemptRecord}
      (owner : assert_authority db clock authority = .ok ())
      (session : authority.session_id = key.session_id)
      (key_eq : attempt.key = key)
      (valid : attempt.post_init = .ok ())
      (unclaimed : attempt.status = .AUTHORIZED_UNCLAIMED)
      (epoch : attempt.dispatch_owner_epoch = authority.epoch)
      (typed : unit.val.transition_id = some key.authorization_transition_id)
      (dispatch : ∃ mutation, unit.val.normalized_effect_mutations = [mutation]
        ∧ mutation.is_dispatch ∧ mutation.effect_id = key.effect_id
        ∧ mutation.attempt_id = key.attempt_id)
      (fresh : commit.idempotent = false) :
      AttemptRowStep db key (.call clock
        (.commit_authoritative_uow authority unit stored new_sessions_enabled)
        (.ok (.commit commit))) none (some attempt)
  | moved {clock : Datetime} {call : StoreCall} {current updated : ExecutorAttemptRecord}
      (owner : assert_authority db clock call.authority = .ok ())
      (target : call.attempt_key = some key)
      (valid : updated.post_init = .ok ())
      (move : AttemptMove call current updated) :
      AttemptRowStep db key (.call clock call (.ok (.attempt updated)))
        (some current) (some updated)
  | closed_out {clock : Datetime} {authority : OwnerAuthority} {unit : UnitOfWork}
      {stored : Option JsonObject} {new_sessions_enabled : Bool} {commit : AuthoritativeCommit}
      {current updated : ExecutorAttemptRecord}
      (owner : assert_authority db clock authority = .ok ())
      (target : (StoreCall.commit_authoritative_uow authority unit stored
        new_sessions_enabled).attempt_key = some key)
      (valid : updated.post_init = .ok ())
      (move : AttemptMove
        (.commit_authoritative_uow authority unit stored new_sessions_enabled) current updated) :
      AttemptRowStep db key (.call clock
        (.commit_authoritative_uow authority unit stored new_sessions_enabled)
        (.ok (.commit commit))) (some current) (some updated)

/-- Every stored attempt is one its own constructor accepts, under its own key. -/
def AttemptsValid (db : Tables) : Prop :=
  ∀ key record, db.session_executor_attempts.row key = some record →
    record.key = key ∧ record.post_init = .ok ()

theorem TypedCommit.attempt_row_step {clock : Datetime} {authority : OwnerAuthority}
    {unit : UnitOfWork} {stored : Option JsonObject} {new_sessions_enabled : Bool}
    {transition_id : String} {state_cas : OperationStateCAS} {state_value : JsonObject}
    {plan : CommitPlan} {receipt : TransitionReceiptRow} {commit : AuthoritativeCommit}
    (h : TypedCommit host db clock authority unit transition_id state_cas state_value plan receipt
      db' commit)
    (hvalid : AttemptsValid db) (key : AttemptKey) :
    AttemptRowStep db key
      (.call clock (.commit_authoritative_uow authority unit stored new_sessions_enabled)
        (.ok (.commit commit)))
      (db.session_executor_attempts.row key) (db'.session_executor_attempts.row key) := by
  rw [h.fresh.attempts_eq]
  rcases closeout_attempt_cases stored new_sessions_enabled h.fresh.closeout with
    ⟨-, hnone⟩ | ⟨closeout, current, updated, hguard, hsome, hrow, hpost, hmove⟩
  · rw [hnone]
    rcases h.fresh.opened_attempt with
      ⟨-, hplan⟩ | ⟨mutation, hmem, hdispatch, attempt, hplan, hpost, hvalue, hfree⟩
    · rw [hplan]
      exact .kept
    · rw [hplan, put_attempt, put_attempt, Table.row_put]
      by_cases hkey : key = attempt.key
      · rw [if_pos hkey, hkey, hfree]
        have halone := (dispatch_alone unit.property hmem hdispatch).1
        refine .opened h.owner ?_ rfl hpost (by rw [hvalue]) (by rw [hvalue]) ?_ ?_ ?_
        · rw [hvalue]
          rfl
        · rw [hvalue]
          exact h.typed
        · refine ⟨mutation, halone, hdispatch, ?_, ?_⟩ <;> rw [hvalue] <;> rfl
        · rw [h.fresh.commit_eq]
          rfl
      · rw [if_neg hkey]
        exact .kept
  · -- a closeout rides alone with an `UNKNOWN` mutation, so the unit opens no attempt
    have hopened : plan.executor_attempt = none := by
      rcases h.fresh.opened_attempt with ⟨-, hplan⟩ | ⟨mutation, hmem, hdispatch, -⟩
      · exact hplan
      · obtain ⟨only, honly, -, -, hexpected, -⟩ :=
          closeout_alone unit.property hguard
        rw [honly, mem_singleton] at hmem
        rw [hmem, EffectMutation.is_dispatch_iff, hexpected] at hdispatch
        exact absurd hdispatch.1 (by decide)
    have hkeys : current.key = ⟨authority.session_id, closeout.effect_id, closeout.attempt_id,
        closeout.authorization_transition_id⟩ := (hvalid _ _ hrow).1
    rw [hsome, hopened, put_attempt, put_attempt, Table.row_put]
    by_cases hkey : key = updated.key
    · have htarget : key = ⟨authority.session_id, closeout.effect_id, closeout.attempt_id,
          closeout.authorization_transition_id⟩ := by rw [hkey, hmove.key_eq.1, hkeys]
      rw [if_pos hkey, htarget, hrow]
      refine .closed_out h.owner ?_ hpost hmove
      simp only [StoreCall.attempt_key, hguard, Option.map_some]
    · rw [if_neg hkey]
      exact .kept

/-- **Every event is a step of each row.** -/
theorem attempt_row_step {event : StoreEvent} (hvalid : AttemptsValid db)
    (h : StoreStep host db event db') (key : AttemptKey) :
    AttemptRowStep db key event (db.session_executor_attempts.row key)
      (db'.session_executor_attempts.row key) := by
  cases step_kind h with
  | quiet _ hquiet =>
    rw [hquiet.executor_attempts]
    exact .kept
  | typed hcommit => exact hcommit.attempt_row_step hvalid key
  | legacy _ _ hlegacy =>
    rw [hlegacy.executor_attempts]
    exact .kept
  | admitted hadmitted =>
    obtain ⟨_, -, _, -, rfl, -⟩ := hadmitted.tables
    exact .kept
  | attempt htarget howner hwritten =>
    obtain ⟨current, hrow, hpost, rfl, hmove⟩ := hwritten
    rename_i written updated
    change AttemptRowStep db key _ _ ((db.session_executor_attempts.put written updated).row key)
    rw [Table.row_put]
    by_cases hkey : key = written
    · subst hkey
      rw [if_pos rfl, hrow]
      exact .moved howner htarget hpost hmove
    · rw [if_neg hkey]
      exact .kept

namespace AttemptRowStep

variable {key : AttemptKey} {event : StoreEvent} {row : Option ExecutorAttemptRecord}
  {current updated : ExecutorAttemptRecord}

theorem valid (h : AttemptRowStep db key event row (some updated))
    (hbefore : ∀ record, row = some record → record.key = key ∧ record.post_init = .ok ()) :
    updated.key = key ∧ updated.post_init = .ok () := by
  cases h with
  | kept => exact hbefore updated rfl
  | opened _ _ key_eq valid => exact ⟨key_eq, valid⟩
  | moved _ _ valid move => exact ⟨move.key_eq.1.trans (hbefore _ rfl).1, valid⟩
  | closed_out _ _ valid move => exact ⟨move.key_eq.1.trans (hbefore _ rfl).1, valid⟩

theorem forward (h : AttemptRowStep db key event (some current) row) :
    ∃ updated, row = some updated
      ∧ (updated = current ∨ current.status.rank < updated.status.rank)
      ∧ updated.dispatch_owner_epoch = current.dispatch_owner_epoch := by
  cases h with
  | kept => exact ⟨current, rfl, Or.inl rfl, rfl⟩
  | moved _ _ _ move => exact ⟨_, rfl, Or.inr move.rank_lt, move.key_eq.2⟩
  | closed_out _ _ _ move => exact ⟨_, rfl, Or.inr move.rank_lt, move.key_eq.2⟩

end AttemptRowStep

/-! ## Whole runs -/

variable {events : List StoreEvent}

/-- **Every stored attempt is valid**, after any run. -/
theorem attempts_valid (h : StoreRun host events db) :
    AttemptsValid db := by
  refine h.invariant ?_ ?_
  · intro key record hrow
    exact absurd hrow (by simp [empty])
  · intro before event after hvalid hstep key record hrow
    have hrow_step := attempt_row_step hvalid hstep key
    rw [hrow] at hrow_step
    exact hrow_step.valid (hvalid key)

/-- What a run does to a stored attempt: it keeps it, moves it forward, and leaves a
quiescent one alone. -/
theorem attempt_forward {key : AttemptKey} {record : ExecutorAttemptRecord}
    (hvalid : AttemptsValid db) (hrow : db.session_executor_attempts.row key = some record)
    (h : Run (StoreStep host) db events db') :
    AttemptsValid db' ∧ ∃ later, db'.session_executor_attempts.row key = some later
      ∧ record.status.rank ≤ later.status.rank
      ∧ (record.status = .QUIESCENT → later = record)
      ∧ later.dispatch_owner_epoch = record.dispatch_owner_epoch := by
  refine h.invariant (I := fun tables => AttemptsValid tables
    ∧ ∃ later, tables.session_executor_attempts.row key = some later
      ∧ record.status.rank ≤ later.status.rank
      ∧ (record.status = .QUIESCENT → later = record)
      ∧ later.dispatch_owner_epoch = record.dispatch_owner_epoch) ?_ ?_
  · exact ⟨hvalid, record, hrow, Nat.le_refl _, fun _ => rfl, rfl⟩
  · rintro before event after ⟨hbefore, current, hcurrent, hle, hfinal, hepoch⟩ hstep
    have hafter : AttemptsValid after := by
      intro other stored hstored
      have hother := attempt_row_step hbefore hstep other
      rw [hstored] at hother
      exact hother.valid (hbefore other)
    have hrow_step := attempt_row_step hbefore hstep key
    rw [hcurrent] at hrow_step
    obtain ⟨updated, hupdated, hmove, hsame⟩ := hrow_step.forward
    refine ⟨hafter, updated, hupdated, ?_, ?_, hsame.trans hepoch⟩
    · rcases hmove with rfl | hlt
      · exact hle
      · exact Nat.le_of_lt (Nat.lt_of_le_of_lt hle hlt)
    · intro hquiescent
      have hcurrent_eq := hfinal hquiescent
      rcases hmove with rfl | hlt
      · exact hcurrent_eq
      · rw [hcurrent_eq, hquiescent] at hlt
        exact absurd (updated.status.rank_le) (Nat.not_le_of_lt hlt)

/-- The event in the history that reserved a claimed attempt. -/
def ReservedIn (history : List StoreEvent) (key : AttemptKey) (record : ExecutorAttemptRecord) :
    Prop :=
  ∃ clock authority identity executor_id lease_expires_at reserved,
    StoreEvent.call clock
        (.reserve_executor_attempt authority identity executor_id lease_expires_at)
        (.ok (.attempt reserved)) ∈ history
      ∧ identity.key authority.session_id = key
      ∧ authority.epoch = record.dispatch_owner_epoch
      ∧ record.executor_id = some executor_id
      ∧ record.claim_generation = reserved.claim_generation
      ∧ record.reservation_lease_expires_at = some lease_expires_at

theorem ReservedIn.mono {history later : List StoreEvent} {key : AttemptKey}
    {record : ExecutorAttemptRecord} (h : ReservedIn history key record) :
    ReservedIn (history ++ later) key record := by
  obtain ⟨clock, authority, identity, executor_id, lease, reserved, hmem, hrest⟩ := h
  exact ⟨clock, authority, identity, executor_id, lease, reserved,
    mem_append_left _ hmem, hrest⟩

/-- **A claim has a reservation behind it**: while an attempt is reserved or started, the
history holds the call that reserved it, with its executor, generation and lease. -/
theorem reserved_in_history (h : StoreRun host events db) :
    ∀ key record, db.session_executor_attempts.row key = some record →
      record.status = .RESERVED ∨ record.status = .STARTED → ReservedIn events key record := by
  refine h.history (P := fun events tables => ∀ key record,
    tables.session_executor_attempts.row key = some record →
      record.status = .RESERVED ∨ record.status = .STARTED → ReservedIn events key record) ?_ ?_
  · intro key record hrow
    exact absurd hrow (by simp [empty])
  · intro history before event after hrun hreserved hstep key record hrow hclaimed
    have hrow_step := attempt_row_step (attempts_valid hrun) hstep key
    rw [hrow] at hrow_step
    generalize hold : before.session_executor_attempts.row key = old at hrow_step
    cases hrow_step with
    | kept => exact (hreserved key record hold hclaimed).mono
    | opened _ _ _ _ unclaimed =>
      rw [unclaimed] at hclaimed
      exact absurd hclaimed (by decide)
    | moved _ target _ move =>
      cases move with
      | reserve _ owner =>
        exact ⟨_, _, _, _, _, _, mem_append_right _ mem_cons_self,
          Option.some.inj target, owner.symm, rfl, rfl, rfl⟩
      | start reserved =>
        obtain ⟨clock, authority, identity, executor_id, lease, answer, hmem, hkey, hepoch,
          hexecutor, hgeneration, hlease⟩ := hreserved key _ hold (Or.inl reserved)
        exact ⟨clock, authority, identity, executor_id, lease, answer,
          mem_append_left _ hmem, hkey, hepoch, hexecutor, hgeneration, hlease⟩
      | finish => exact absurd hclaimed (by simp)
      | revoke => exact absurd hclaimed (by simp)
      | close => exact absurd hclaimed (by simp)
      | closeout => exact absurd hclaimed (by simp)
    | closed_out _ _ _ move =>
      cases move with
      | closeout => exact absurd hclaimed (by simp)

def DispatchedIn (history : List StoreEvent) (key : AttemptKey) (record : ExecutorAttemptRecord) :
    Prop :=
  ∃ clock authority unit stored new_sessions_enabled commit,
    StoreEvent.call clock
        (.commit_authoritative_uow authority unit stored new_sessions_enabled)
        (.ok (.commit commit)) ∈ history
      ∧ commit.idempotent = false
      ∧ authority.session_id = key.session_id
      ∧ authority.epoch = record.dispatch_owner_epoch
      ∧ unit.val.transition_id = some key.authorization_transition_id

/-- **An attempt has a dispatch behind it**, made under the epoch the attempt names. -/
theorem dispatched_in_history (h : StoreRun host events db) :
    ∀ key record, db.session_executor_attempts.row key = some record →
      DispatchedIn events key record := by
  refine h.history (P := fun events tables => ∀ key record,
    tables.session_executor_attempts.row key = some record → DispatchedIn events key record) ?_ ?_
  · intro key record hrow
    exact absurd hrow (by simp [empty])
  · intro history before event after hrun hdispatched hstep key record hrow
    have hrow_step := attempt_row_step (attempts_valid hrun) hstep key
    rw [hrow] at hrow_step
    have hkeep : ∀ current, before.session_executor_attempts.row key = some current →
        record.dispatch_owner_epoch = current.dispatch_owner_epoch →
        DispatchedIn (history ++ [event]) key record := by
      intro current hcurrent hsame
      obtain ⟨clock, authority, unit, stored, flag, commit, hmem, hfresh, hsession, hepoch, htyped⟩ :=
        hdispatched key current hcurrent
      exact ⟨clock, authority, unit, stored, flag, commit, mem_append_left _ hmem, hfresh,
        hsession, hepoch.trans hsame.symm, htyped⟩
    generalize hold : before.session_executor_attempts.row key = old at hrow_step
    cases hrow_step with
    | kept => exact hkeep record hold rfl
    | opened _ session _ _ _ epoch typed _ fresh =>
      exact ⟨_, _, _, _, _, _, mem_append_right _ mem_cons_self, fresh, session,
        epoch.symm, typed⟩
    | moved _ _ _ move => exact hkeep _ hold move.key_eq.2
    | closed_out _ _ _ move => exact hkeep _ hold move.key_eq.2

/-! ## The state machine -/

def IsStarted (db : Tables) (key : AttemptKey) : Prop :=
  ∃ record, db.session_executor_attempts.row key = some record ∧ record.status = .STARTED

instance (db : Tables) (key : AttemptKey) : Decidable (IsStarted db key) :=
  decidable_of_iff ((db.session_executor_attempts.row key).map (·.status) = some .STARTED) (by
    rw [Option.map_eq_some_iff]
    rfl)

/-- A step enters `started`. -/
def Starts (before after : Tables) (key : AttemptKey) : Prop :=
  ¬ IsStarted before key ∧ IsStarted after key

/-- A start as it must be: the call of the executor that holds the reservation, with its
claim generation, under the dispatching epoch, before the reservation expired. -/
def LawfulStart (history : List StoreEvent) (before : Tables) (event : StoreEvent)
    (key : AttemptKey) : Prop :=
  ∃ clock authority identity executor_id claim_generation now current started lease_expires_at,
    event = .call clock
        (.mark_executor_attempt_started authority identity executor_id claim_generation now)
        (.ok (.attempt started))
      ∧ identity.key authority.session_id = key
      ∧ assert_authority before clock authority = .ok ()
      ∧ before.session_executor_attempts.row key = some current
      ∧ current.status = .RESERVED
      ∧ current.executor_id = some executor_id
      ∧ current.claim_generation = claim_generation
      ∧ current.dispatch_owner_epoch = authority.epoch
      ∧ current.reservation_lease_expires_at = some lease_expires_at
      ∧ now < lease_expires_at
      ∧ ReservedIn history key current
      ∧ DispatchedIn history key current

section Machine

variable {pre post : List StoreEvent} {event : StoreEvent} {before after later : Tables}
  {key : AttemptKey} (hpre : StoreRun host pre before)
  (hstep : StoreStep host before event after)

include hpre hstep

/-- **Only a lawful start starts.** -/
theorem lawful_start (hstarts : Starts before after key) : LawfulStart pre before event key := by
  obtain ⟨hbefore, record, hrow, hstarted⟩ := hstarts
  have hrow_step := attempt_row_step (attempts_valid hpre) hstep key
  rw [hrow] at hrow_step
  generalize hold : before.session_executor_attempts.row key = old at hrow_step
  cases hrow_step with
  | kept => exact absurd ⟨record, hold, hstarted⟩ hbefore
  | opened _ _ _ _ unclaimed =>
    rw [unclaimed] at hstarted
    exact absurd hstarted (by decide)
  | closed_out _ _ _ move =>
    cases move with
    | closeout => exact absurd hstarted (by simp)
  | moved owner target _ move =>
    cases move with
    | reserve => exact absurd hstarted (by simp)
    | finish => exact absurd hstarted (by simp)
    | revoke => exact absurd hstarted (by simp)
    | close => exact absurd hstarted (by simp)
    | closeout => exact absurd hstarted (by simp)
    | start reserved executor generation epoch lease =>
      have hreserved := reserved_in_history hpre key _ hold (Or.inl reserved)
      have hdispatched := dispatched_in_history hpre key _ hold
      obtain ⟨_, _, _, _, lease_expires_at, _, -, -, -, -, -, hlease⟩ := id hreserved
      exact ⟨_, _, _, _, _, _, _, _, lease_expires_at, rfl, Option.some.inj target, owner, hold,
        reserved, executor, generation, epoch, hlease, lease _ hlease, hreserved, hdispatched⟩

/-- **At most one start**: after a step entered `started`, no later step does. -/
theorem start_once (hstarts : Starts before after key)
    (hpost : Run (StoreStep host) after post later) {next : StoreEvent} {last : Tables}
    (hnext : StoreStep host later next last) : ¬ Starts later last key := by
  rintro ⟨hnot, record, hrecord, hstarted⟩
  obtain ⟨-, started, hrow, hstatus⟩ := hstarts
  have hvalid : AttemptsValid after := attempts_valid (hpre.snoc hstep)
  obtain ⟨hlater, current, hcurrent, hle, -, -⟩ := attempt_forward hvalid hrow hpost
  have hrow_step := attempt_row_step hlater hnext key
  rw [hcurrent] at hrow_step
  obtain ⟨updated, hupdated, hmove, -⟩ := hrow_step.forward
  obtain rfl : updated = record := Option.some.inj (hupdated.symm.trans hrecord)
  rw [hstatus] at hle
  rcases hmove with rfl | hlt
  · exact hnot ⟨updated, hcurrent, hstarted⟩
  · rw [hstarted] at hlt
    exact absurd hle (Nat.not_le_of_lt hlt)

/-- A stored attempt changes only through an accepted call about it; one made under another
epoch than the dispatching one can only make it quiescent. -/
theorem attempt_changed_by {current updated : ExecutorAttemptRecord}
    (hcurrent : before.session_executor_attempts.row key = some current)
    (hupdated : after.session_executor_attempts.row key = some updated)
    (hne : updated ≠ current) :
    ∃ clock call answer, event = .call clock call (.ok answer)
      ∧ call.attempt_key = some key
      ∧ assert_authority before clock call.authority = .ok ()
      ∧ (call.authority.epoch ≠ current.dispatch_owner_epoch → updated.status = .QUIESCENT) := by
  have hrow_step := attempt_row_step (attempts_valid hpre) hstep key
  rw [hcurrent, hupdated] at hrow_step
  cases hrow_step with
  | kept => exact absurd rfl hne
  | moved owner target _ move =>
    exact ⟨_, _, _, rfl, target, owner, move.foreign_owner⟩
  | closed_out owner target _ move =>
    exact ⟨_, _, _, rfl, target, owner, move.foreign_owner⟩

/-- **The executor-attempt state machine**, at any step of any run and along whatever
follows it. -/
theorem executor_attempt_state_machine (hpost : Run (StoreStep host) after post later) :
    -- an attempt is opened unclaimed, and a step keeps it or moves it forward
    (∀ opened, before.session_executor_attempts.row key = none →
      after.session_executor_attempts.row key = some opened →
        opened.status = .AUTHORIZED_UNCLAIMED)
    ∧ (∀ current, before.session_executor_attempts.row key = some current →
      ∃ updated, after.session_executor_attempts.row key = some updated
        ∧ (updated = current ∨ current.status.rank < updated.status.rank))
    -- a quiescent attempt stays what it is, in every field
    ∧ (∀ current, after.session_executor_attempts.row key = some current →
      current.status = .QUIESCENT → later.session_executor_attempts.row key = some current)
    -- a start is lawful, and the last one
    ∧ (Starts before after key → LawfulStart pre before event key
      ∧ ∀ next last, StoreStep host later next last → ¬ Starts later last key)
    -- an owner of another epoch can only close the attempt
    ∧ (∀ current updated, before.session_executor_attempts.row key = some current →
      after.session_executor_attempts.row key = some updated → updated ≠ current →
        ∃ clock call answer, event = .call clock call (.ok answer)
          ∧ call.attempt_key = some key
          ∧ assert_authority before clock call.authority = .ok ()
          ∧ (call.authority.epoch ≠ current.dispatch_owner_epoch → updated.status = .QUIESCENT))
    -- every stored record satisfies its own constraints
    ∧ (∀ stored, later.session_executor_attempts.row key = some stored →
      stored.key = key ∧ stored.post_init = .ok ()) := by
  have hvalid := attempts_valid hpre
  have hvalid_after : AttemptsValid after := attempts_valid (hpre.snoc hstep)
  have hrow_step := attempt_row_step hvalid hstep key
  refine ⟨?_, ?_, ?_, ?_, ?_, ?_⟩
  · intro opened hnone hopened
    rw [hnone, hopened] at hrow_step
    cases hrow_step with
    | opened _ _ _ _ unclaimed => exact unclaimed
  · intro current hcurrent
    rw [hcurrent] at hrow_step
    obtain ⟨updated, hupdated, hmove, -⟩ := hrow_step.forward
    exact ⟨updated, hupdated, hmove⟩
  · intro current hcurrent hquiescent
    obtain ⟨-, final, hfinal, -, hsame, -⟩ := attempt_forward hvalid_after hcurrent hpost
    rw [hfinal, hsame hquiescent]
  · intro hstarts
    exact ⟨lawful_start hpre hstep hstarts,
      fun next last hnext => start_once hpre hstep hstarts hpost hnext⟩
  · intro current updated hcurrent hupdated hne
    exact attempt_changed_by hpre hstep hcurrent hupdated hne
  · have hrun : StoreRun host (pre ++ [event] ++ post) later := (hpre.snoc hstep).append hpost
    exact attempts_valid hrun key

end Machine

/-! ## A run, worked out

One effect, dispatched by its owner, reserved, started and finished by one executor. -/

def sample_host : Host where
  sha256 := fun _ => "digest"
  isoformat := toString

def sample_owner : OwnerAuthority where
  session_id := "s"
  owner_id := "worker"
  epoch := 1

def sample_unit (transition_id : String) (revision : Nat) (facts : List EventRecord)
    (mutation : EffectMutation) (expected_mailbox_cut : Option Nat) : AuthoritativeUnitOfWork where
  session_state := [("id", .str "s")]
  transition_id := some transition_id
  state_cas := some ⟨"r", revision, 0⟩
  state_value := some []
  facts
  effect_mutations := [mutation]
  expected_mailbox_cut

def sample_prepare : UnitOfWork :=
  ⟨sample_unit "t1" 0
    [{ event_id := "f1", session_id := "s", event_kind := "planned", payload := [],
       created_at := 1 }]
    { effect_id := "e", attempt_id := "a", status := .PREPARED, payload := [] } none, by decide⟩

def sample_dispatch : UnitOfWork :=
  ⟨sample_unit "t2" 1 []
    { effect_id := "e", attempt_id := "a", status := .DISPATCHED, payload := [],
      expected_status := some .PREPARED } (some 0), by decide⟩

def sample_identity : AttemptIdentity where
  effect_id := "e"
  attempt_id := "a"
  authorization_transition_id := "t2"

def sample_script : List StoreInput :=
  [.owner_changed "s" ⟨"worker", 1000, 1⟩,
   .call 1 (.commit_authoritative_uow sample_owner sample_prepare none false),
   .call 2 (.commit_authoritative_uow sample_owner sample_dispatch none false),
   .call 3 (.reserve_executor_attempt sample_owner sample_identity "x" 100)]

def sample_start : StoreInput :=
  .call 4 (.mark_executor_attempt_started sample_owner sample_identity "x" 1 4)

def sample_finish : List StoreInput :=
  [.call 5 (.mark_executor_attempt_quiescent sample_owner sample_identity "x" 1 5 "done")]

def sample_reserved : Tables := play sample_host empty sample_script

def sample_started : Tables := sample_start.tables sample_host sample_reserved

/-- The state machine at the start of the worked run. -/
theorem sample_start_lawful :
    LawfulStart (play_events sample_host empty sample_script) sample_reserved
        (sample_start.event sample_host sample_reserved) (sample_identity.key "s")
      ∧ ∀ next last, StoreStep sample_host (play sample_host sample_started sample_finish) next last →
          ¬ Starts (play sample_host sample_started sample_finish) last (sample_identity.key "s") :=
  have hmachine := executor_attempt_state_machine
    (play_run sample_host empty sample_script)
    (StoreInput.step sample_host sample_reserved sample_start)
    (play_run sample_host sample_started sample_finish)
  hmachine.2.2.2.1 ⟨by decide, by decide⟩

end CodingAgentLoop
