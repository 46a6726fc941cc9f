/-
The records of the authoritative store
(`coding_agent/stores/rtstore/harness.py`).

The store is asked for one thing, an `AuthoritativeUnitOfWork`: the event or the
facts, the effect mutations, the dispositions and the guards that one transaction
must write together or not at all. Its `post_init` decides which of those may
ride in one unit; every guarantee about a committed unit starts from it, so its
checks are kept in the source's order and under the source's texts, grouped by
the field they are about.

Datetimes are instants, counted in microseconds.
-/
import CodingAgentLoop.Contracts

open Lib

namespace CodingAgentLoop

abbrev Datetime := Nat

/-- `_MAX_U64`. -/
def MAX_U64 : Nat := 18446744073709551615

/-- `OwnerAuthority`: who claims to own a session, and under which fencing token. -/
structure OwnerAuthority where
  session_id : String
  owner_id : String
  epoch : Nat

/-! ## Events, slots and mailbox entries -/

structure EventRecord where
  event_id : String
  session_id : String
  event_kind : String
  payload : JsonObject
  created_at : Datetime
  session_seq : Option Nat := none
  projection_epoch : Option Nat := none

def EventRecord.post_init (event : EventRecord) : Except StoreError Unit := do
  require_non_empty "event_id" event.event_id
  require_non_empty "session_id" event.session_id
  require_non_empty "event_kind" event.event_kind

structure MailboxDispositionSlot where
  slot_id : String
  lane : String
  disposition : String
  payload : JsonObject := []

def MailboxDispositionSlot.post_init (slot : MailboxDispositionSlot) : Except StoreError Unit := do
  require_non_empty "slot_id" slot.slot_id
  require_non_empty "lane" slot.lane
  require_non_empty "disposition" slot.disposition

structure CommandMailboxEntry where
  command : RuntimeCommand
  admitted_session_seq : Nat
  admitted_dispatch_generation : Nat
  disposition : String
  deriving DecidableEq

structure EffectLedgerSlot where
  effect_id : String
  status : String
  payload : JsonObject := []

def EffectLedgerSlot.post_init (slot : EffectLedgerSlot) : Except StoreError Unit := do
  require_non_empty "effect_id" slot.effect_id
  require_non_empty "status" slot.status

structure OperationReceiptSlot where
  receipt_id : String
  generation : Nat
  payload : JsonObject := []
  compensation_effect_id : Option String := none

def OperationReceiptSlot.post_init (slot : OperationReceiptSlot) : Except StoreError Unit := do
  require_non_empty "receipt_id" slot.receipt_id
  require_non_empty_if_set "compensation_effect_id" slot.compensation_effect_id

structure AgentRunRecord where
  run_id : String
  session_id : String
  tape_id : Option String
  parent_run_id : Option String
  agent_id : Option String
  status : String
  started_at : Datetime
  ended_at : Option Datetime := none
  metadata : JsonObject := []
  result : JsonObject := []
  error : Option String := none
  superseded_by_checkpoint_id : Option String := none
  superseded_at : Option Datetime := none

def AgentRunRecord.post_init (run : AgentRunRecord) : Except StoreError Unit := do
  require_non_empty "run_id" run.run_id
  require_non_empty "session_id" run.session_id
  require_non_empty "status" run.status
  require_non_empty_if_set "tape_id" run.tape_id
  require_non_empty_if_set "parent_run_id" run.parent_run_id
  require_non_empty_if_set "agent_id" run.agent_id
  require_non_empty_if_set "error" run.error
  require_non_empty_if_set "superseded_by_checkpoint_id" run.superseded_by_checkpoint_id

/-! ## Reconciliation evidence -/

structure EffectReconciliationEvidence where
  evidence_ref : String
  session_id : String
  effect_id : String
  attempt_id : String
  authorization_transition_id : String
  reconciliation_owner_epoch : Nat
  outcome : ReconciliationOutcome
  result : Json
  reason_code : Option String := none
  reason_message : Option String := none

/-- `not text.strip()`. -/
def is_blank (text : String) : Bool := text.toList.all Char.isWhitespace

def EffectReconciliationEvidence.payload (evidence : EffectReconciliationEvidence) : JsonObject :=
  [("evidence_ref", .str evidence.evidence_ref),
   ("session_id", .str evidence.session_id),
   ("effect_id", .str evidence.effect_id),
   ("attempt_id", .str evidence.attempt_id),
   ("authorization_transition_id", .str evidence.authorization_transition_id),
   ("reconciliation_owner_epoch", .int evidence.reconciliation_owner_epoch),
   ("outcome", .str evidence.outcome.value),
   ("result", evidence.result),
   ("reason_code", Json.of_str? evidence.reason_code),
   ("reason_message", Json.of_str? evidence.reason_message)]

/-! ## Executor attempts -/

inductive ExecutorAttemptStatus where
  | AUTHORIZED_UNCLAIMED
  | RESERVED
  | STARTED
  | QUIESCENT
  deriving DecidableEq

structure ExecutorAttemptRecord where
  session_id : String
  effect_id : String
  attempt_id : String
  authorization_transition_id : String
  dispatch_owner_epoch : Nat
  status : ExecutorAttemptStatus
  executor_id : Option String := none
  claim_generation : Nat := 0
  reservation_lease_expires_at : Option Datetime := none
  quiescence_evidence_ref : Option String := none
  authorization_mailbox_cut : Nat := 0
  authorization_mailbox_session_seq : Nat := 0

namespace ExecutorAttemptRecord

section

variable (attempt : ExecutorAttemptRecord)

/-- The identity fields every attempt carries. -/
def check_identity : Except StoreError Unit := do
  require_non_empty "session_id" attempt.session_id
  require_non_empty "effect_id" attempt.effect_id
  require_non_empty "attempt_id" attempt.attempt_id
  require_non_empty "authorization_transition_id" attempt.authorization_transition_id
  raise_if (attempt.dispatch_owner_epoch = 0) .ValueError
    "dispatch_owner_epoch must be a positive integer"

def check_executor_id : Except StoreError Unit :=
  match attempt.executor_id with
  | none => raise .ValueError "claimed executor attempt requires executor_id"
  | some executor_id => require_non_empty "executor_id" executor_id

/-- What a claimed attempt carries. -/
def check_claim : Except StoreError Unit := do
  attempt.check_executor_id
  raise_if (attempt.claim_generation = 0) .ValueError
    "claimed executor attempt requires claim_generation"
  raise_if (attempt.reservation_lease_expires_at = none) .ValueError
    "claimed executor attempt requires reservation lease"
  if attempt.status = .QUIESCENT then
    match attempt.quiescence_evidence_ref with
    | none => raise .ValueError "quiescent executor attempt requires evidence"
    | some evidence_ref => require_non_empty "quiescence_evidence_ref" evidence_ref
  else
    raise_if (attempt.quiescence_evidence_ref ≠ none) .ValueError
      "only quiescent executor attempts carry evidence"

def post_init : Except StoreError Unit := do
  attempt.check_identity
  if attempt.status = .AUTHORIZED_UNCLAIMED then
    raise_if (attempt.executor_id ≠ none ∨ attempt.claim_generation ≠ 0
        ∨ attempt.reservation_lease_expires_at ≠ none ∨ attempt.quiescence_evidence_ref ≠ none)
      .ValueError "authorized_unclaimed attempt cannot carry a claim"
  else
    attempt.check_claim

/-- A record its own constructor accepts, as the constructor returns it. -/
def checked : Except StoreError ExecutorAttemptRecord := do
  attempt.post_init
  return attempt

end

theorem checked_eq_ok {attempt result : ExecutorAttemptRecord} :
    attempt.checked = .ok result ↔ attempt.post_init = .ok () ∧ result = attempt := by
  unfold checked
  rw [Result.check_bind_eq_ok, Result.pure_eq_ok, eq_comm (a := attempt)]

end ExecutorAttemptRecord

/-! ## Child bindings and recovery leases -/

structure RecoveredChildExecutionLease where
  session_id : String
  child_run_id : String
  lease_id : String
  resume_generation : Nat
  resume_cut : Nat
  owner_epoch : Nat
  prior_session_seq : Nat := 0
  resume_session_seq : Nat := 0
  mailbox_snapshot : List CommandMailboxEntry := []
  deriving DecidableEq

def RecoveredChildExecutionLease.post_init (lease : RecoveredChildExecutionLease) :
    Except StoreError Unit := do
  require_non_empty "session_id" lease.session_id
  require_non_empty "child_run_id" lease.child_run_id
  require_non_empty "lease_id" lease.lease_id
  raise_if (lease.resume_generation = 0) .ValueError "resume_generation must be a positive integer"
  raise_if (lease.resume_session_seq < lease.prior_session_seq) .ValueError
    "prior_session_seq cannot exceed resume_session_seq"
  let admitted_sequences := lease.mailbox_snapshot.map (·.admitted_session_seq)
  raise_if (¬ admitted_sequences.Pairwise (· ≤ ·)) .ValueError
    "mailbox_snapshot must be ordered by admitted_session_seq"
  raise_if (∃ sequence ∈ admitted_sequences,
      sequence ≤ lease.prior_session_seq ∨ lease.resume_session_seq < sequence) .ValueError
    "mailbox_snapshot entry is outside lease session range"
  raise_if (lease.owner_epoch = 0) .ValueError "owner_epoch must be a positive integer"

structure ChildExecutionBinding where
  session_id : String
  parent_run_id : String
  parent_effect_id : String
  parent_attempt_id : String
  child_run_id : String
  authorization_transition_id : String
  live_parent_settlement_transition_id : String
  active_lease : Option RecoveredChildExecutionLease := none
  deriving DecidableEq

def ChildExecutionBinding.post_init (binding : ChildExecutionBinding) : Except StoreError Unit := do
  require_non_empty "session_id" binding.session_id
  require_non_empty "parent_run_id" binding.parent_run_id
  require_non_empty "parent_effect_id" binding.parent_effect_id
  require_non_empty "parent_attempt_id" binding.parent_attempt_id
  require_non_empty "child_run_id" binding.child_run_id
  require_non_empty "authorization_transition_id" binding.authorization_transition_id
  require_non_empty "live_parent_settlement_transition_id"
    binding.live_parent_settlement_transition_id
  match binding.active_lease with
  | none => .ok ()
  | some lease => do
      lease.post_init
      raise_if (lease.session_id ≠ binding.session_id ∨ lease.child_run_id ≠ binding.child_run_id)
        .ValueError "active lease must match its child binding"

inductive RecoveryGuardKind where
  | CHILD_TERMINAL
  | PARENT_SETTLEMENT
  deriving DecidableEq

def RecoveryGuardKind.value : RecoveryGuardKind → String
  | .CHILD_TERMINAL => "child_terminal"
  | .PARENT_SETTLEMENT => "parent_settlement"

structure RecoveryTransitionGuard where
  lease_id : String
  child_run_id : String
  resume_generation : Nat
  expected_recovery_cut : Nat
  kind : RecoveryGuardKind

def RecoveryTransitionGuard.post_init (guard : RecoveryTransitionGuard) :
    Except StoreError Unit := do
  require_non_empty "lease_id" guard.lease_id
  require_non_empty "child_run_id" guard.child_run_id
  raise_if (guard.resume_generation = 0) .ValueError "resume_generation must be a positive integer"

structure UnstartedDispatchCloseoutGuard where
  effect_id : String
  attempt_id : String
  authorization_transition_id : String
  executor_id : String
  evidence_ref : String
  closed_at : Datetime

def UnstartedDispatchCloseoutGuard.post_init (guard : UnstartedDispatchCloseoutGuard) :
    Except StoreError Unit := do
  require_non_empty "effect_id" guard.effect_id
  require_non_empty "attempt_id" guard.attempt_id
  require_non_empty "authorization_transition_id" guard.authorization_transition_id
  require_non_empty "executor_id" guard.executor_id
  require_non_empty "evidence_ref" guard.evidence_ref

end CodingAgentLoop
