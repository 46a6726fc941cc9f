/-
Every way a stored executor attempt can change.

`AttemptMove call current updated` lists them: one constructor for each operation
that writes an attempt, with the guards the operation checked. The theorems say
that a call either left the stored record as it was or made one of these moves.
-/
import CodingAgentLoop.StoreRun

namespace CodingAgentLoop

open Lib ExecutorAttemptRecord Result

variable {db db' : Tables} {clock now : Datetime} {authority : OwnerAuthority}
  {identity : AttemptIdentity}

/-- The moves of an executor attempt, by the call that makes them. -/
inductive AttemptMove : StoreCall → ExecutorAttemptRecord → ExecutorAttemptRecord → Prop
  | reserve {authority : OwnerAuthority} {identity : AttemptIdentity} {executor_id : String}
      {lease_expires_at : Datetime} {current : ExecutorAttemptRecord}
      (unclaimed : current.status = .AUTHORIZED_UNCLAIMED)
      (owner : current.dispatch_owner_epoch = authority.epoch) :
      AttemptMove (.reserve_executor_attempt authority identity executor_id lease_expires_at)
        current { current with
          status := .RESERVED
          executor_id := some executor_id
          claim_generation := current.claim_generation + 1
          reservation_lease_expires_at := some lease_expires_at }
  | start {authority : OwnerAuthority} {identity : AttemptIdentity} {executor_id : String}
      {claim_generation : Nat} {now : Datetime} {current : ExecutorAttemptRecord}
      (reserved : current.status = .RESERVED)
      (executor : current.executor_id = some executor_id)
      (generation : current.claim_generation = claim_generation)
      (owner : current.dispatch_owner_epoch = authority.epoch)
      (lease : ∀ expires_at ∈ current.reservation_lease_expires_at, now < expires_at) :
      AttemptMove
        (.mark_executor_attempt_started authority identity executor_id claim_generation now)
        current { current with status := .STARTED, quiescence_evidence_ref := none }
  | finish {authority : OwnerAuthority} {identity : AttemptIdentity} {executor_id : String}
      {claim_generation : Nat} {now : Datetime} {evidence_ref : String}
      {current : ExecutorAttemptRecord}
      (started : current.status = .STARTED)
      (executor : current.executor_id = some executor_id)
      (generation : current.claim_generation = claim_generation)
      (owner : current.dispatch_owner_epoch ≤ authority.epoch) :
      AttemptMove
        (.mark_executor_attempt_quiescent authority identity executor_id claim_generation now
          evidence_ref)
        current { current with status := .QUIESCENT, quiescence_evidence_ref := some evidence_ref }
  | revoke {authority : OwnerAuthority} {identity : AttemptIdentity} {executor_id : String}
      {claim_generation : Nat} {now : Datetime} {evidence_ref : String}
      {current : ExecutorAttemptRecord}
      (reserved : current.status = .RESERVED)
      (executor : current.executor_id = some executor_id)
      (generation : current.claim_generation = claim_generation)
      (owner : current.dispatch_owner_epoch < authority.epoch)
      (expired : ∃ expires_at ∈ current.reservation_lease_expires_at, expires_at ≤ now) :
      AttemptMove
        (.revoke_expired_executor_reservation authority identity executor_id claim_generation now
          evidence_ref)
        current { current with status := .QUIESCENT, quiescence_evidence_ref := some evidence_ref }
  | close {authority : OwnerAuthority} {identity : AttemptIdentity} {executor_id : String}
      {now : Datetime} {evidence_ref : String} {current : ExecutorAttemptRecord}
      (live : current.status ≠ .QUIESCENT)
      (executor : current.status = .AUTHORIZED_UNCLAIMED ∨ current.executor_id = some executor_id)
      (owner : current.dispatch_owner_epoch ≤ authority.epoch) :
      AttemptMove
        (.quiesce_claimed_executor_attempt authority identity executor_id now evidence_ref)
        current { current with
          status := .QUIESCENT
          executor_id := some executor_id
          claim_generation := max 1 current.claim_generation
          reservation_lease_expires_at := some (current.reservation_lease_expires_at.getD now)
          quiescence_evidence_ref := some evidence_ref }
  | closeout {authority : OwnerAuthority} {unit : UnitOfWork} {stored : Option JsonObject}
      {new_sessions_enabled : Bool} {closeout : UnstartedDispatchCloseoutGuard}
      {current : ExecutorAttemptRecord}
      (guard : unit.val.unstarted_dispatch_closeout = some closeout)
      (unclaimed : current.status = .AUTHORIZED_UNCLAIMED)
      (owner : current.dispatch_owner_epoch ≤ authority.epoch) :
      AttemptMove (.commit_authoritative_uow authority unit stored new_sessions_enabled)
        current { current with
          status := .QUIESCENT
          executor_id := some closeout.executor_id
          claim_generation := 1
          reservation_lease_expires_at := some closeout.closed_at
          quiescence_evidence_ref := some closeout.evidence_ref }

theorem AttemptMove.key_eq {call : StoreCall} {current updated : ExecutorAttemptRecord}
    (h : AttemptMove call current updated) :
    updated.key = current.key ∧ updated.dispatch_owner_epoch = current.dispatch_owner_epoch := by
  cases h <;> exact ⟨rfl, rfl⟩

def AttemptWritten (db : Tables) (call : StoreCall) (key : AttemptKey) (db' : Tables)
    (updated : ExecutorAttemptRecord) : Prop :=
  ∃ current, db.session_executor_attempts.row key = some current
    ∧ updated.post_init = .ok () ∧ db' = db.set_attempt key updated
    ∧ AttemptMove call current updated

variable {updated : ExecutorAttemptRecord} {executor_id : String}

theorem reserve_cases {lease_expires_at : Datetime}
    (h : reserve_executor_attempt db clock authority identity executor_id lease_expires_at
      = .ok (db', updated)) :
    assert_authority db clock authority = .ok ()
    ∧ ((db' = db ∧ db.session_executor_attempts.row (identity.key authority.session_id)
          = some updated ∧ updated.status = .RESERVED)
      ∨ AttemptWritten db
          (.reserve_executor_attempt authority identity executor_id lease_expires_at)
          (identity.key authority.session_id) db' updated) := by
  simp only [reserve_executor_attempt, bind_eq_ok, current_attempt_eq_ok] at h
  obtain ⟨_, howner, current, hrow, h⟩ := h
  refine ⟨howner, ?_⟩
  split at h
  · next hreserved =>
    split at h
    · rw [pure_eq_ok, Prod.mk.injEq] at h
      obtain ⟨rfl, rfl⟩ := h
      exact Or.inl ⟨rfl, hrow, hreserved⟩
    · exact absurd h (by simp)
  · simp only [bind_eq_ok, checked_eq_ok, raise_if_eq_ok, not_or,
      not_not, pure_eq_ok, Prod.mk.injEq] at h
    obtain ⟨reserved, ⟨hpost, hreserved⟩, _, ⟨hunclaimed, hepoch⟩, hdb, hupdated⟩ := h
    subst hreserved
    subst hupdated
    exact Or.inr ⟨current, hrow, hpost, hdb.symm, .reserve hunclaimed hepoch⟩

variable {claim_generation : Nat}

/-- The three operations that share `_transition_executor_attempt`: a replay, or a checked
change of status made by the executor that holds the claim. -/
theorem transition_cases {target_status : ExecutorAttemptStatus} {evidence_ref : Option String}
    {fenced : Bool}
    (h : transition_executor_attempt db clock now authority identity executor_id claim_generation
      target_status evidence_ref fenced = .ok (db', updated)) :
    assert_authority db clock authority = .ok ()
    ∧ ((db' = db ∧ db.session_executor_attempts.row (identity.key authority.session_id)
          = some updated ∧ updated.status = target_status ∧ updated.executor_id = some executor_id
          ∧ updated.claim_generation = claim_generation)
      ∨ ∃ current, db.session_executor_attempts.row (identity.key authority.session_id)
            = some current
          ∧ updated = { current with status := target_status, quiescence_evidence_ref := evidence_ref }
          ∧ updated.post_init = .ok ()
          ∧ db' = db.set_attempt (identity.key authority.session_id) updated
          ∧ current.executor_id = some executor_id
          ∧ current.claim_generation = claim_generation
          ∧ (if fenced then check_fenced_expired_reservation authority now current = .ok ()
            else check_ordinary_transition authority now target_status current = .ok ())) := by
  simp only [transition_executor_attempt, bind_eq_ok, current_attempt_eq_ok] at h
  obtain ⟨_, howner, current, hrow, h⟩ := h
  refine ⟨howner, ?_⟩
  split at h
  · next hstatus =>
    split at h
    · next hsame =>
      rw [pure_eq_ok, Prod.mk.injEq] at h
      obtain ⟨rfl, rfl⟩ := h
      exact Or.inl ⟨rfl, hrow, hstatus, hsame.1, hsame.2.1⟩
    · exact absurd h (by simp)
  · simp only [bind_eq_ok, raise_if_eq_ok, not_or, not_not] at h
    obtain ⟨_, ⟨hexecutor, hgeneration⟩, h⟩ := h
    have hguard : (if fenced then check_fenced_expired_reservation authority now current = .ok ()
        else check_ordinary_transition authority now target_status current = .ok ())
        ∧ ∃ record, checked { current with
            status := target_status, quiescence_evidence_ref := evidence_ref } = .ok record
          ∧ db.set_attempt (identity.key authority.session_id) record = db'
          ∧ record = updated := by
      cases fenced with
      | true =>
        simp only [if_true, bind_eq_ok, pure_eq_ok, Prod.mk.injEq] at h ⊢
        obtain ⟨_, hfenced, record, hchecked, hdb, hrecord⟩ := h
        exact ⟨hfenced, record, hchecked, hdb, hrecord⟩
      | false =>
        simp only [Bool.false_eq_true, if_false, bind_eq_ok, pure_eq_ok,
          Prod.mk.injEq] at h ⊢
        obtain ⟨_, hordinary, record, hchecked, hdb, hrecord⟩ := h
        exact ⟨hordinary, record, hchecked, hdb, hrecord⟩
    obtain ⟨hguard, record, hchecked, hdb, rfl⟩ := hguard
    obtain ⟨hpost, hrecord⟩ := checked_eq_ok.mp hchecked
    subst hrecord
    exact Or.inr ⟨current, hrow, rfl, hpost, hdb.symm, hexecutor, hgeneration, hguard⟩

theorem check_ordinary_eq_ok {target_status : ExecutorAttemptStatus}
    {current : ExecutorAttemptRecord} :
    check_ordinary_transition authority now target_status current = .ok () ↔
      (if target_status = .STARTED then
        current.status = .RESERVED ∧ current.dispatch_owner_epoch = authority.epoch
          ∧ ∀ expires_at ∈ current.reservation_lease_expires_at, now < expires_at
      else
        current.status = .STARTED ∧ current.dispatch_owner_epoch ≤ authority.epoch) := by
  unfold check_ordinary_transition
  simp only [check_bind_eq_ok, raise_if_eq_ok]
  by_cases htarget : target_status = .STARTED
  · simp [htarget, and_assoc]
  · simp [htarget]

theorem started_cases
    (h : mark_executor_attempt_started db clock now authority identity executor_id claim_generation
      = .ok (db', updated)) :
    assert_authority db clock authority = .ok ()
    ∧ ((db' = db ∧ db.session_executor_attempts.row (identity.key authority.session_id)
          = some updated ∧ updated.status = .STARTED)
      ∨ AttemptWritten db
          (.mark_executor_attempt_started authority identity executor_id claim_generation now)
          (identity.key authority.session_id) db' updated) := by
  obtain ⟨howner, hreplay | ⟨current, hrow, hupdated, hpost, hdb, hexecutor, hgeneration, hguard⟩⟩ :=
    transition_cases h
  · exact ⟨howner, Or.inl ⟨hreplay.1, hreplay.2.1, hreplay.2.2.1⟩⟩
  · simp only [Bool.false_eq_true, if_false, check_ordinary_eq_ok, if_true] at hguard
    refine ⟨howner, Or.inr ⟨current, hrow, hpost, hdb, ?_⟩⟩
    rw [hupdated]
    exact .start hguard.1 hexecutor hgeneration hguard.2.1 hguard.2.2

variable {evidence_ref : String}

theorem quiescent_cases
    (h : mark_executor_attempt_quiescent db clock now authority identity executor_id
      claim_generation evidence_ref = .ok (db', updated)) :
    assert_authority db clock authority = .ok ()
    ∧ (db' = db
      ∨ AttemptWritten db
          (.mark_executor_attempt_quiescent authority identity executor_id claim_generation now
            evidence_ref)
          (identity.key authority.session_id) db' updated) := by
  obtain ⟨howner, hreplay | ⟨current, hrow, hupdated, hpost, hdb, hexecutor, hgeneration, hguard⟩⟩ :=
    transition_cases h
  · exact ⟨howner, Or.inl hreplay.1⟩
  · simp only [Bool.false_eq_true, if_false, check_ordinary_eq_ok, reduceCtorEq] at hguard
    refine ⟨howner, Or.inr ⟨current, hrow, hpost, hdb, ?_⟩⟩
    rw [hupdated]
    exact .finish hguard.1 hexecutor hgeneration hguard.2

theorem revoke_cases
    (h : revoke_expired_executor_reservation db clock now authority identity executor_id
      claim_generation evidence_ref = .ok (db', updated)) :
    assert_authority db clock authority = .ok ()
    ∧ (db' = db
      ∨ AttemptWritten db
          (.revoke_expired_executor_reservation authority identity executor_id claim_generation now
            evidence_ref)
          (identity.key authority.session_id) db' updated) := by
  obtain ⟨howner, hreplay | ⟨current, hrow, hupdated, hpost, hdb, hexecutor, hgeneration, hguard⟩⟩ :=
    transition_cases h
  · exact ⟨howner, Or.inl hreplay.1⟩
  · simp only [if_true, check_fenced_expired_reservation, raise_if_eq_ok, not_or, not_not, not_le]
      at hguard
    obtain ⟨hreserved, hexpired, hepoch⟩ := hguard
    refine ⟨howner, Or.inr ⟨current, hrow, hpost, hdb, ?_⟩⟩
    rw [hupdated]
    exact .revoke hreserved hexecutor hgeneration hepoch (by simpa using hexpired)

theorem quiesce_claimed_cases
    (h : quiesce_claimed_executor_attempt db clock now authority identity executor_id evidence_ref
      = .ok (db', updated)) :
    assert_authority db clock authority = .ok ()
    ∧ (db' = db
      ∨ AttemptWritten db
          (.quiesce_claimed_executor_attempt authority identity executor_id now evidence_ref)
          (identity.key authority.session_id) db' updated) := by
  simp only [quiesce_claimed_executor_attempt, bind_eq_ok, current_attempt_eq_ok] at h
  obtain ⟨_, howner, current, hrow, h⟩ := h
  refine ⟨howner, ?_⟩
  split at h
  · split at h
    · rw [pure_eq_ok, Prod.mk.injEq] at h
      exact Or.inl h.1.symm
    · exact absurd h (by simp)
  · next hlive =>
    simp only [bind_eq_ok, checked_eq_ok, raise_if_eq_ok, not_lt,
      pure_eq_ok, Prod.mk.injEq] at h
    obtain ⟨_, hepoch, _, hclaim, record, ⟨hpost, hrecord⟩, hdb, hupdated⟩ := h
    subst hrecord
    subst hupdated
    have hexecutor : current.status = .AUTHORIZED_UNCLAIMED
        ∨ current.executor_id = some executor_id := by
      by_cases hunclaimed : current.status = .AUTHORIZED_UNCLAIMED
      · exact Or.inl hunclaimed
      · exact Or.inr (not_not.mp (fun hne => hclaim ⟨hunclaimed, hne⟩))
    exact Or.inr ⟨current, hrow, hpost, hdb.symm, .close hlive hexecutor hepoch⟩

/-- A closeout that a commit planned: the attempt was unclaimed and no newer owner's. -/
theorem closeout_attempt_cases {unit : UnitOfWork} (stored : Option JsonObject)
    (new_sessions_enabled : Bool) {closed : Option ExecutorAttemptRecord}
    (h : closeout_attempt db authority unit.val = .ok closed) :
    (unit.val.unstarted_dispatch_closeout = none ∧ closed = none)
    ∨ ∃ closeout current updated, unit.val.unstarted_dispatch_closeout = some closeout
        ∧ closed = some updated
        ∧ db.session_executor_attempts.row ⟨authority.session_id, closeout.effect_id,
            closeout.attempt_id, closeout.authorization_transition_id⟩ = some current
        ∧ updated.post_init = .ok ()
        ∧ AttemptMove (.commit_authoritative_uow authority unit stored new_sessions_enabled)
            current updated := by
  unfold closeout_attempt at h
  cases hguard : unit.val.unstarted_dispatch_closeout with
  | none =>
    simp only [hguard, Except.ok.injEq] at h
    exact Or.inl ⟨rfl, h.symm⟩
  | some closeout =>
    rw [hguard] at h
    simp only at h
    split at h
    · exact absurd h (by simp)
    · next current hrow =>
      simp only [bind_eq_ok, raise_if_eq_ok, not_or, not_not, not_lt,
        checked_eq_ok, pure_eq_ok] at h
      obtain ⟨_, ⟨hunclaimed, hepoch⟩, updated, ⟨hpost, hupdated⟩, hclosed⟩ := h
      subst hupdated
      exact Or.inr ⟨closeout, current, _, rfl, hclosed.symm, hrow, hpost,
        .closeout hguard hunclaimed hepoch⟩

end CodingAgentLoop
