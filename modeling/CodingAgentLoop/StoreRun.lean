/-
Runs of the durable store.

The store's callers are coordinators, executors and command admissions of any
number of owners, and they interleave freely: SQLite serialises transactions, so
a run is a sequence of calls, each answered at once. What changes the tables from
outside -- an owner acquires, renews or loses a session; a checkpoint restore
opens a projection epoch -- is an event of its own. A run starts from a freshly
created database.

The middle of the file is the one theorem the later invariants read: what a typed
commit can have done (`commit_authoritative_uow_cases`).
-/
import CodingAgentLoop.AuthoritativeStore
import CodingAgentLoop.ExecutorAttempts
import CodingAgentLoop.Lib.Transition

namespace CodingAgentLoop

open Lib AuthoritativeUnitOfWork Result

/-! ## Calls and events -/

/-- A write operation with its arguments. -/
inductive StoreCall where
  | commit_authoritative_uow (authority : OwnerAuthority) (unit : UnitOfWork)
      (stored : Option JsonObject) (new_sessions_enabled : Bool)
  | admit_runtime_command (authority : OwnerAuthority) (command : RuntimeCommand)
  | record_effect_reconciliation_evidence (authority : OwnerAuthority)
      (evidence : EffectReconciliationEvidence)
  | reserve_executor_attempt (authority : OwnerAuthority) (identity : AttemptIdentity)
      (executor_id : String) (lease_expires_at : Datetime)
  | mark_executor_attempt_started (authority : OwnerAuthority) (identity : AttemptIdentity)
      (executor_id : String) (claim_generation : Nat) (now : Datetime)
  | mark_executor_attempt_quiescent (authority : OwnerAuthority) (identity : AttemptIdentity)
      (executor_id : String) (claim_generation : Nat) (now : Datetime) (evidence_ref : String)
  | quiesce_claimed_executor_attempt (authority : OwnerAuthority) (identity : AttemptIdentity)
      (executor_id : String) (now : Datetime) (evidence_ref : String)
  | revoke_expired_executor_reservation (authority : OwnerAuthority) (identity : AttemptIdentity)
      (executor_id : String) (claim_generation : Nat) (now : Datetime) (evidence_ref : String)

/-- The owner a call claims to be. -/
def StoreCall.authority : StoreCall → OwnerAuthority
  | .commit_authoritative_uow authority .. => authority
  | .admit_runtime_command authority .. => authority
  | .record_effect_reconciliation_evidence authority .. => authority
  | .reserve_executor_attempt authority .. => authority
  | .mark_executor_attempt_started authority .. => authority
  | .mark_executor_attempt_quiescent authority .. => authority
  | .quiesce_claimed_executor_attempt authority .. => authority
  | .revoke_expired_executor_reservation authority .. => authority

/-- The executor attempt a call may change. -/
def StoreCall.attempt_key : StoreCall → Option AttemptKey
  | .commit_authoritative_uow authority unit .. =>
    unit.val.unstarted_dispatch_closeout.map (fun closeout =>
      ⟨authority.session_id, closeout.effect_id, closeout.attempt_id,
        closeout.authorization_transition_id⟩)
  | .admit_runtime_command .. => none
  | .record_effect_reconciliation_evidence .. => none
  | .reserve_executor_attempt authority identity .. => some (identity.key authority.session_id)
  | .mark_executor_attempt_started authority identity .. =>
    some (identity.key authority.session_id)
  | .mark_executor_attempt_quiescent authority identity .. =>
    some (identity.key authority.session_id)
  | .quiesce_claimed_executor_attempt authority identity .. =>
    some (identity.key authority.session_id)
  | .revoke_expired_executor_reservation authority identity .. =>
    some (identity.key authority.session_id)

/-- What a call returns. -/
inductive StoreAnswer where
  | commit (commit : AuthoritativeCommit)
  | admission (admission : RuntimeCommandAdmission)
  | evidence (evidence : EffectReconciliationEvidence)
  | attempt (attempt : ExecutorAttemptRecord)

/-- A call, performed on the tables at the store's clock reading. -/
def perform (host : Host) (db : Tables) (clock : Datetime) :
    StoreCall → Except StoreError (Tables × StoreAnswer)
  | .commit_authoritative_uow authority unit stored new_sessions_enabled =>
    Prod.map id .commit <$>
      commit_authoritative_uow host db clock authority unit stored new_sessions_enabled
  | .admit_runtime_command authority command =>
    Prod.map id .admission <$> admit_runtime_command db clock authority command
  | .record_effect_reconciliation_evidence authority evidence =>
    Prod.map id .evidence <$> record_effect_reconciliation_evidence db clock authority evidence
  | .reserve_executor_attempt authority identity executor_id lease_expires_at =>
    Prod.map id .attempt <$>
      reserve_executor_attempt db clock authority identity executor_id lease_expires_at
  | .mark_executor_attempt_started authority identity executor_id claim_generation now =>
    Prod.map id .attempt <$>
      mark_executor_attempt_started db clock now authority identity executor_id claim_generation
  | .mark_executor_attempt_quiescent authority identity executor_id claim_generation now
      evidence_ref =>
      Prod.map id .attempt <$> mark_executor_attempt_quiescent db clock now authority identity
        executor_id claim_generation evidence_ref
  | .quiesce_claimed_executor_attempt authority identity executor_id now evidence_ref =>
    Prod.map id .attempt <$> quiesce_claimed_executor_attempt db clock now authority identity
      executor_id evidence_ref
  | .revoke_expired_executor_reservation authority identity executor_id claim_generation now
      evidence_ref =>
      Prod.map id .attempt <$> revoke_expired_executor_reservation db clock now authority identity
        executor_id claim_generation evidence_ref

/-- `with self._connect() as connection`: commit on return, roll back on an exception. -/
def transaction {α : Type} (db : Tables) (body : Except StoreError (Tables × α)) :
    Tables × Except StoreError α :=
  match body with
  | .ok (db', answer) => (db', .ok answer)
  | .error error => (db, .error error)

/-- `_open_projection_epoch`, which a checkpoint restore performs. -/
def open_projection_epoch (db : Tables) (session_id : String) : Tables :=
  let fact_source := db.fact_source session_id
  db.set_fact_source session_id
    { fact_source with projection_epoch := fact_source.projection_epoch + 1 }

inductive StoreEvent where
  | call (clock : Datetime) (call : StoreCall) (answer : Except StoreError StoreAnswer)
  | owner_changed (session_id : String) (owner : SessionOwnerRecord)
  | owner_released (session_id : String)
  | projection_epoch_opened (session_id : String)

def StoreAnswer.fresh : StoreAnswer → Bool
  | .commit result => !result.idempotent
  | .admission result => !result.idempotent
  | .evidence _ => false
  | .attempt _ => false

def StoreEvent.fresh : StoreEvent → Bool
  | .call _ _ (.ok answer) => answer.fresh
  | .call _ _ (.error _) => false
  | .owner_changed _ _ => false
  | .owner_released _ => false
  | .projection_epoch_opened _ => false

/-- One event on the tables. -/
def StoreStep (host : Host) (db : Tables) (event : StoreEvent) (db' : Tables) : Prop :=
  match event with
  | .call clock call answer => transaction db (perform host db clock call) = (db', answer)
  | .owner_changed session_id owner =>
    db' = { db with session_owners := db.session_owners.put session_id owner }
  | .owner_released session_id =>
    db' = { db with session_owners := db.session_owners.erase session_id }
  | .projection_epoch_opened session_id => db' = open_projection_epoch db session_id

abbrev StoreRun (host : Host) (events : List StoreEvent) (db : Tables) : Prop :=
  Run (StoreStep host) Tables.empty events db

/-! ## Scripts

A call's answer is determined by the tables, so a list of inputs has exactly one run. -/

/-- What a client or the outside submits. -/
inductive StoreInput where
  | call (clock : Datetime) (call : StoreCall)
  | owner_changed (session_id : String) (owner : SessionOwnerRecord)
  | owner_released (session_id : String)
  | projection_epoch_opened (session_id : String)

def StoreInput.event (host : Host) (db : Tables) : StoreInput → StoreEvent
  | .call clock submitted =>
    .call clock submitted (transaction db (perform host db clock submitted)).2
  | .owner_changed session_id owner => .owner_changed session_id owner
  | .owner_released session_id => .owner_released session_id
  | .projection_epoch_opened session_id => .projection_epoch_opened session_id

def StoreInput.tables (host : Host) (db : Tables) : StoreInput → Tables
  | .call clock submitted => (transaction db (perform host db clock submitted)).1
  | .owner_changed session_id owner =>
    { db with session_owners := db.session_owners.put session_id owner }
  | .owner_released session_id =>
    { db with session_owners := db.session_owners.erase session_id }
  | .projection_epoch_opened session_id => open_projection_epoch db session_id

def play (host : Host) (db : Tables) (script : List StoreInput) : Tables :=
  script.foldl (fun db input => input.tables host db) db

def play_events (host : Host) : Tables → List StoreInput → List StoreEvent
  | _, [] => []
  | db, input :: rest => input.event host db :: play_events host (input.tables host db) rest

theorem StoreInput.step (host : Host) (db : Tables) (input : StoreInput) :
    StoreStep host db (input.event host db) (input.tables host db) := by
  cases input <;> rfl

/-- **Every script runs.** -/
theorem play_run (host : Host) (db : Tables) (script : List StoreInput) :
    Run (StoreStep host) db (play_events host db script) (play host db script) := by
  induction script generalizing db with
  | nil => exact Run.refl
  | cons input rest ih =>
    have hfirst := Run.single (StoreInput.step host db input)
    exact hfirst.append (ih (input.tables host db))

variable {host : Host} {db db' : Tables} {clock : Datetime}

/-- **Rejection is atomic**: a call that raises leaves every table as it was. -/
theorem rejected_unchanged {call : StoreCall} {error : StoreError}
    (h : StoreStep host db (.call clock call (.error error)) db') : db' = db := by
  change transaction db (perform host db clock call) = _ at h
  unfold transaction at h
  cases hbody : perform host db clock call with
  | ok result => simp [hbody] at h
  | error raised =>
    rw [hbody] at h
    exact (Prod.mk.inj h).1.symm

theorem accepted {call : StoreCall} {answer : StoreAnswer}
    (h : StoreStep host db (.call clock call (.ok answer)) db') :
    perform host db clock call = .ok (db', answer) := by
  change transaction db (perform host db clock call) = _ at h
  unfold transaction at h
  cases hbody : perform host db clock call with
  | ok result =>
    obtain ⟨tables, given⟩ := result
    simp only [hbody, Prod.mk.injEq, Except.ok.injEq] at h
    rw [h.1, h.2]
  | error raised => simp [hbody] at h

theorem answered_cases {α : Type} {body : Except StoreError (Tables × α)}
    {answer : Except StoreError α} (h : transaction db body = (db', answer)) :
    (∃ error, answer = .error error ∧ db' = db) ∨ ∃ value, answer = .ok value
      ∧ body = .ok (db', value) := by
  cases body with
  | error error =>
    cases h
    exact Or.inl ⟨error, rfl, rfl⟩
  | ok result =>
    obtain ⟨after, value⟩ := result
    cases h
    exact Or.inr ⟨value, rfl, rfl⟩

theorem map_answer_eq_ok {α : Type} {body : Except StoreError (Tables × α)} {wrap : α → StoreAnswer}
    {answer : StoreAnswer} (h : Prod.map id wrap <$> body = .ok (db', answer)) :
    ∃ result, body = .ok (db', result) ∧ answer = wrap result := by
  obtain ⟨⟨tables, result⟩, hbody, heq⟩ := map_eq_ok.mp h
  simp only [Prod.map_apply, id_eq, Prod.mk.injEq] at heq
  exact ⟨result, by rw [hbody, heq.1], heq.2.symm⟩

/-! ## What a typed commit did -/

/-- A transition answered from a stored receipt. -/
structure ReplayedCommit (db : Tables) (authority : OwnerAuthority)
    (unit : AuthoritativeUnitOfWork) (state_cas : OperationStateCAS) (transition_id fingerprint :
      String) (db' : Tables) (commit : AuthoritativeCommit) : Prop where
  epoch : state_cas.projection_epoch = (db.fact_source authority.session_id).projection_epoch
  receipt : ∃ found_id row,
    find_receipt db authority.session_id unit state_cas.projection_epoch transition_id fingerprint
        = .ok (some (found_id, row))
      ∧ commit = replay_commit authority.session_id (db.fact_source authority.session_id)
          state_cas.projection_epoch found_id row
  tables : db' = db.ensure_fact_source authority.session_id

/-- A transition committed now: the checks it passed and the tables it left. -/
structure FreshCommit (db : Tables) (authority : OwnerAuthority) (unit : AuthoritativeUnitOfWork)
    (state_cas : OperationStateCAS) (transition_id : String) (state_value : JsonObject)
    (receipt : TransitionReceiptRow) (plan : CommitPlan) (db' : Tables)
    (commit : AuthoritativeCommit) : Prop where
  epoch : state_cas.projection_epoch = (db.fact_source authority.session_id).projection_epoch
  fact_sessions : ∀ fact ∈ unit.facts, fact.session_id = authority.session_id
  closeout : closeout_attempt db authority unit = .ok plan.closeout_attempt
  facts : plan.facts_to_commit = facts_to_commit db authority.session_id unit state_cas
  mailbox_cut : check_mailbox_cut db authority.session_id unit = .ok ()
  reconciliation :
    assert_reconciliation_preconditions db authority unit state_cas state_value = .ok ()
  operation_state : check_operation_state db authority.session_id state_cas = .ok ()
  dispositions :
    unit.dispositions.mapM (disposition_slot db authority.session_id) = .ok plan.disposition_slots
  effects : unit.normalized_effect_mutations.mapM (effect_slot db authority transition_id)
    = .ok plan.effect_slots
  executor_attempt : dispatched_attempt db authority unit transition_id = .ok plan.executor_attempt
  result : receipt.result = transition_result authority unit state_cas transition_id state_value
    (db.fact_source authority.session_id) plan.facts_to_commit
  written : write_commit db authority unit state_cas transition_id receipt plan = .ok db'
  commit_eq : commit = fresh_commit authority.session_id (db.fact_source authority.session_id)
    transition_id receipt

variable {authority : OwnerAuthority} {commit : AuthoritativeCommit} {transition_id : String}
  {unit : AuthoritativeUnitOfWork} {state_cas : OperationStateCAS} {state_value : JsonObject}

theorem FreshCommit.receipt_new {receipt : TransitionReceiptRow} {plan : CommitPlan}
    (h : FreshCommit db authority unit state_cas transition_id state_value receipt plan db' commit) :
    db.session_transition_receipts.row
      (authority.session_id, state_cas.projection_epoch, transition_id) = none := by
  have hwritten := h.written
  simp only [write_commit, bind_eq_ok, insert_row_eq_ok] at hwritten
  obtain ⟨_, ⟨hnone, -⟩, -⟩ := hwritten
  exact hnone

/-- **What a typed commit can have done**: answered from a receipt, or committed fresh. -/
theorem commit_transition_cases
    (h : commit_transition host db clock authority unit state_cas transition_id state_value
      = .ok (db', commit)) :
    assert_authority db clock authority = .ok () ∧
    (ReplayedCommit db authority unit state_cas transition_id
        (transition_mutation_fingerprint host unit state_cas state_value) db' commit
      ∨ ∃ plan receipt,
          receipt.mutation_fingerprint
              = transition_mutation_fingerprint host unit state_cas state_value
            ∧ FreshCommit db authority unit state_cas transition_id state_value receipt plan db'
                commit) := by
  simp only [commit_transition, bind_eq_ok, raise_if_eq_ok, not_not] at h
  obtain ⟨_, hsessions, _, howner, _, hepoch, found, hfound, h⟩ := h
  refine ⟨howner, ?_⟩
  cases found with
  | some answer =>
    obtain ⟨found_id, row⟩ := answer
    simp only [bind_eq_ok, pure_eq_ok, Prod.mk.injEq] at h
    obtain ⟨_, -, hdb, hcommit⟩ := h
    exact Or.inl ⟨hepoch, ⟨found_id, row, hfound, hcommit.symm⟩, hdb.symm⟩
  | none =>
    simp only [commit_fresh, bind_eq_ok, pure_eq_ok, Prod.mk.injEq] at h
    obtain ⟨plan, hplan, tables, hwritten, hdb, hcommit⟩ := h
    subst hdb
    refine Or.inr ⟨plan, ⟨_, transition_result authority unit state_cas transition_id state_value
      (db.fact_source authority.session_id) plan.facts_to_commit⟩, rfl, ?_⟩
    simp only [plan_commit, bind_eq_ok, pure_eq_ok] at hplan
    obtain ⟨_, -, closeout, hcloseout, _, -, _, hcut, _, hreconciliation, _, hstate,
      slots, hslots, effects, heffects, attempt, hattempt, rfl⟩ := hplan
    simp only [check_transition_session, check_bind_eq_ok, check_each_eq_ok,
      raise_if_eq_ok, not_not] at hsessions
    exact {
      epoch := hepoch
      fact_sessions := hsessions.1
      closeout := hcloseout
      facts := rfl
      mailbox_cut := hcut
      reconciliation := hreconciliation
      operation_state := hstate
      dispositions := hslots
      effects := heffects
      executor_attempt := hattempt
      result := rfl
      written := hwritten
      commit_eq := hcommit.symm }

theorem commit_transition_snapshot {state_value session_state : JsonObject}
    (htyped : unit.transition_id = some transition_id) :
    commit_transition host db clock authority
        (snapshot_transition_unit { unit with session_state := session_state })
        state_cas transition_id state_value
      = commit_transition host db clock authority unit state_cas transition_id state_value := by
  have his : ({ unit with session_state := session_state } : AuthoritativeUnitOfWork).is_transition
      = true := by
    simp [is_transition, htyped]
  rw [snapshot_transition_unit, if_pos his]
  rfl

theorem commit_prepared_typed (htyped : unit.transition_id = some transition_id)
    (hcas : unit.state_cas = some state_cas) (hvalue : unit.state_value = some state_value) :
    commit_prepared host db clock authority unit
      = commit_transition host db clock authority (snapshot_transition_unit unit) state_cas
          transition_id state_value := by
  have hsnapshot : (snapshot_transition_unit unit).state_cas = some state_cas
      ∧ (snapshot_transition_unit unit).state_value = some state_value := by
    rw [← hcas, ← hvalue]
    unfold snapshot_transition_unit
    split <;> exact ⟨rfl, rfl⟩
  unfold commit_prepared
  simp only [htyped, hsnapshot.1, hsnapshot.2]

variable {new_sessions_enabled : Bool} {stored : Option JsonObject}

/-- A unit with a transition id, committed: a replay or a fresh commit of the unit itself. -/
theorem typed_commit_cases {unit : UnitOfWork}
    (htyped : unit.val.transition_id = some transition_id)
    (h : commit_authoritative_uow host db clock authority unit stored new_sessions_enabled
      = .ok (db', commit)) :
    ∃ state_cas state_value, unit.val.state_cas = some state_cas
      ∧ unit.val.state_value = some state_value
      ∧ assert_authority db clock authority = .ok ()
      ∧ (ReplayedCommit db authority unit.val state_cas transition_id
          (transition_mutation_fingerprint host unit.val state_cas state_value) db' commit
        ∨ ∃ plan receipt,
            receipt.mutation_fingerprint
                = transition_mutation_fingerprint host unit.val state_cas state_value
              ∧ FreshCommit db authority unit.val state_cas transition_id state_value receipt plan
                  db' commit) := by
  simp only [commit_authoritative_uow, prepare_unit, bind_eq_ok, pure_eq_ok] at h
  obtain ⟨_, ⟨_, -, stamped, -, _, -, _, -, _, -, rfl⟩, h⟩ := h
  obtain ⟨-, ⟨state_cas, hcas, -⟩, ⟨state_value, hvalue⟩, -⟩ :=
    transition_complete unit.property htyped
  have hprepared : commit_prepared host db clock authority
      { unit.val with session_state := stamped } = _ :=
    commit_prepared_typed htyped hcas hvalue
  rw [hprepared, commit_transition_snapshot htyped] at h
  obtain ⟨howner, hcases⟩ := commit_transition_cases h
  exact ⟨state_cas, state_value, hcas, hvalue, howner, hcases⟩

/-- A unit with a transition id that was committed now had passed every check of its plan. -/
theorem fresh_commit_planned {unit : UnitOfWork}
    (htyped : unit.val.transition_id = some transition_id)
    (h : commit_authoritative_uow host db clock authority unit stored new_sessions_enabled
      = .ok (db', commit)) (hfresh : commit.idempotent = false) :
    ∃ state_cas state_value plan, unit.val.state_cas = some state_cas
      ∧ unit.val.state_value = some state_value
      ∧ plan_commit db authority unit.val state_cas transition_id state_value = .ok plan := by
  simp only [commit_authoritative_uow, prepare_unit, bind_eq_ok, pure_eq_ok] at h
  obtain ⟨_, ⟨_, -, stamped, -, _, -, _, -, _, -, rfl⟩, h⟩ := h
  obtain ⟨-, ⟨state_cas, hcas, -⟩, ⟨state_value, hvalue⟩, -⟩ :=
    transition_complete unit.property htyped
  have hprepared : commit_prepared host db clock authority
      { unit.val with session_state := stamped } = _ :=
    commit_prepared_typed htyped hcas hvalue
  rw [hprepared, commit_transition_snapshot htyped] at h
  simp only [commit_transition, bind_eq_ok] at h
  obtain ⟨_, -, _, -, _, -, found, -, h⟩ := h
  cases found with
  | some answer =>
    -- a replay is not fresh
    simp only [bind_eq_ok, pure_eq_ok, Prod.mk.injEq] at h
    obtain ⟨_, -, -, rfl⟩ := h
    cases hfresh
  | none =>
    simp only [commit_fresh, bind_eq_ok] at h
    obtain ⟨plan, hplan, -⟩ := h
    exact ⟨state_cas, state_value, plan, hcas, hvalue, hplan⟩

theorem legacy_commit_cases {unit : UnitOfWork} (hlegacy : unit.val.transition_id = none)
    (h : commit_authoritative_uow host db clock authority unit stored new_sessions_enabled
      = .ok (db', commit)) :
    ∃ session_state event, unit.val.event = some event
      ∧ commit_legacy db clock authority { unit.val with session_state := session_state } event
          = .ok (db', commit) := by
  simp only [commit_authoritative_uow, prepare_unit, bind_eq_ok, pure_eq_ok] at h
  obtain ⟨_, ⟨_, -, stamped, -, _, -, _, -, _, -, rfl⟩, h⟩ := h
  simp only [commit_prepared, hlegacy] at h
  cases hevent : unit.val.event with
  | none => simp [hevent] at h
  | some event =>
    rw [hevent] at h
    exact ⟨stamped, event, rfl, h⟩

end CodingAgentLoop
