/-
The operations on one executor attempt (`reserve_executor_attempt` to `_transition_executor_attempt`
in `coding_agent/stores/local_durable/uow.py`).

A dispatch opens an attempt as `authorized_unclaimed`; an executor reserves it,
starts it and reports it quiescent, or an owner that lost track of it closes it
from outside. Each operation answers a repeated call from the stored record,
refuses what the record does not allow, and writes the record back under its own
key. `mark_executor_attempt_started`, `mark_executor_attempt_quiescent` and
`revoke_expired_executor_reservation` are one function with a target status. The store reads its own clock to fence the
caller; the `now` of an operation is its caller's.
-/
import CodingAgentLoop.Tables

namespace CodingAgentLoop

open Lib ExecutorAttemptRecord

/-- The arguments that name an attempt. -/
structure AttemptIdentity where
  effect_id : String
  attempt_id : String
  authorization_transition_id : String

def AttemptIdentity.key (identity : AttemptIdentity) (session_id : String) : AttemptKey where
  session_id := session_id
  effect_id := identity.effect_id
  attempt_id := identity.attempt_id
  authorization_transition_id := identity.authorization_transition_id

def current_attempt (db : Tables) (key : AttemptKey) : Except StoreError ExecutorAttemptRecord :=
  match db.session_executor_attempts.row key with
  | none => raise .ExecutorAttemptConflictError "executor attempt does not exist"
  | some current => .ok current

theorem current_attempt_eq_ok {db : Tables} {key : AttemptKey} {current : ExecutorAttemptRecord} :
    current_attempt db key = .ok current ↔
      db.session_executor_attempts.row key = some current := by
  unfold current_attempt
  cases db.session_executor_attempts.row key <;> simp

/-- `UPDATE session_executor_attempts SET status = ?, payload = ? WHERE` the key. -/
def Tables.set_attempt (db : Tables) (key : AttemptKey) (attempt : ExecutorAttemptRecord) :
    Tables :=
  { db with session_executor_attempts := db.session_executor_attempts.put key attempt }

/-- What an operation on an attempt returns: the tables and the record. -/
abbrev AttemptResult := Except StoreError (Tables × ExecutorAttemptRecord)

def reserve_executor_attempt (db : Tables) (clock : Datetime) (authority : OwnerAuthority)
    (identity : AttemptIdentity) (executor_id : String) (lease_expires_at : Datetime) :
    AttemptResult := do
  let key := identity.key authority.session_id
  assert_authority db clock authority
  let current ← current_attempt db key
  if current.status = .RESERVED then
    if current.executor_id = some executor_id
        ∧ current.reservation_lease_expires_at = some lease_expires_at then
      return (db, current)
    else
      raise .ExecutorAttemptConflictError "executor reservation replay changed content"
  else
    -- the record is rebuilt, and its constructor runs, before the status is looked at
    let reserved ← checked { current with
      status := .RESERVED
      executor_id := some executor_id
      claim_generation := current.claim_generation + 1
      reservation_lease_expires_at := some lease_expires_at }
    raise_if (current.status ≠ .AUTHORIZED_UNCLAIMED
        ∨ current.dispatch_owner_epoch ≠ authority.epoch) .ExecutorAttemptConflictError
      "executor attempt cannot be reserved"
    return (db.set_attempt key reserved, reserved)

/-- The branch of `_transition_executor_attempt` that revokes a reservation. -/
def check_fenced_expired_reservation (authority : OwnerAuthority) (now : Datetime)
    (current : ExecutorAttemptRecord) : Except StoreError Unit :=
  raise_if (current.status ≠ .RESERVED
      ∨ (∀ lease ∈ current.reservation_lease_expires_at, now < lease)
      ∨ authority.epoch ≤ current.dispatch_owner_epoch) .ExecutorAttemptConflictError
    "reservation is not both expired and owner-fenced"

/-- The branch of `_transition_executor_attempt` that starts or finishes an attempt. -/
def check_ordinary_transition (authority : OwnerAuthority) (now : Datetime)
    (target_status : ExecutorAttemptStatus) (current : ExecutorAttemptRecord) :
    Except StoreError Unit := do
  let expected_status : ExecutorAttemptStatus :=
    if target_status = .STARTED then .RESERVED else .STARTED
  let owner_transition_allowed : Bool :=
    if target_status = .STARTED then current.dispatch_owner_epoch = authority.epoch
    else current.dispatch_owner_epoch ≤ authority.epoch
  raise_if (current.status ≠ expected_status ∨ owner_transition_allowed = false)
    .ExecutorAttemptConflictError "executor attempt transition is not authorized"
  raise_if (target_status = .STARTED ∧ ∃ lease ∈ current.reservation_lease_expires_at, lease ≤ now)
    .ExecutorAttemptConflictError "executor reservation has expired"

section

variable (db : Tables) (clock now : Datetime) (authority : OwnerAuthority) (identity : AttemptIdentity) (executor_id : String)

section

variable (claim_generation : Nat)

def transition_executor_attempt
    (target_status : ExecutorAttemptStatus) (evidence_ref : Option String)
    (require_fenced_expired_reservation : Bool) : AttemptResult := do
  let key := identity.key authority.session_id
  assert_authority db clock authority
  let current ← current_attempt db key
  if current.status = target_status then
    if current.executor_id = some executor_id ∧ current.claim_generation = claim_generation
        ∧ current.quiescence_evidence_ref = evidence_ref then
      return (db, current)
    else
      raise .ExecutorAttemptConflictError "executor transition replay changed content"
  else
    raise_if (current.executor_id ≠ some executor_id ∨ current.claim_generation ≠ claim_generation)
      .ExecutorAttemptConflictError "executor claim identity mismatch"
    if require_fenced_expired_reservation then
      check_fenced_expired_reservation authority now current
    else
      check_ordinary_transition authority now target_status current
    let updated ← checked { current with
      status := target_status
      quiescence_evidence_ref := evidence_ref }
    return (db.set_attempt key updated, updated)

def mark_executor_attempt_started : AttemptResult :=
  transition_executor_attempt db clock now authority identity executor_id claim_generation .STARTED
    none false

def mark_executor_attempt_quiescent (evidence_ref : String) : AttemptResult :=
  transition_executor_attempt db clock now authority identity executor_id claim_generation .QUIESCENT
    (some evidence_ref) false

def revoke_expired_executor_reservation (evidence_ref : String) : AttemptResult :=
  transition_executor_attempt db clock now authority identity executor_id claim_generation .QUIESCENT
    (some evidence_ref) true

end

def quiesce_claimed_executor_attempt (evidence_ref : String) : AttemptResult := do
  let key := identity.key authority.session_id
  assert_authority db clock authority
  let current ← current_attempt db key
  if current.status = .QUIESCENT then
    if current.executor_id = some executor_id
        ∧ current.quiescence_evidence_ref = some evidence_ref then
      return (db, current)
    else
      raise .ExecutorAttemptConflictError "executor quiescence replay changed content"
  else
    raise_if (authority.epoch < current.dispatch_owner_epoch) .ExecutorAttemptConflictError
      "executor attempt belongs to a newer owner"
    raise_if (current.status ≠ .AUTHORIZED_UNCLAIMED ∧ current.executor_id ≠ some executor_id)
      .ExecutorAttemptConflictError "executor claim identity mismatch"
    let updated ← checked { current with
      status := .QUIESCENT
      executor_id := some executor_id
      claim_generation := max 1 current.claim_generation
      reservation_lease_expires_at :=
        some (current.reservation_lease_expires_at.getD now)
      quiescence_evidence_ref := some evidence_ref }
    return (db.set_attempt key updated, updated)

end

end CodingAgentLoop
