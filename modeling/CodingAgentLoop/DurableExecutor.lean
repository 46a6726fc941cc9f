/-
The executor that runs an effect under a permit (`coding_agent/executors/durable.py`,
the class `DurableEffectExecutor`).

An execution claims the attempt of its permit before it calls the backend: it reads
the effect slot, reads the attempt, reserves it and marks it started, each as a
transaction of its own. Whatever happens behind that, it tries to make the attempt
quiescent before it returns. A cancellation that arrives meanwhile is held back until
the claim is settled, so it is asked about (`Await.cancellation`) where the source
looks at it.
-/
import CodingAgentLoop.Coordinator
import CodingAgentLoop.Runtime

open Lib Dialogue

namespace CodingAgentLoop

open Await

structure DurableEffectExecutor where
  owner_id : String
  executor_id : String
  reservation_lease : Nat
  quiescence_evidence_factory : DurableEffectInvocation → Nat → String

namespace DurableEffectExecutor

def validate_permit (permit : DispatchPermit) : Except StoreError Unit :=
  raise_if (permit.claimed = false) .ValueError
    "dispatch permit must be claimed before execution"

def authority (executor : DurableEffectExecutor) (permit : DispatchPermit) : OwnerAuthority where
  session_id := permit.session_id
  owner_id := executor.owner_id
  epoch := permit.owner_epoch

def identity (permit : DispatchPermit) : AttemptIdentity where
  effect_id := permit.effect_id
  attempt_id := permit.attempt_id
  authorization_transition_id := permit.authorization_transition_id

/-- The slot was dispatched by the authorization that issued the permit. -/
def check_slot_authority (payload : JsonObject) (permit : DispatchPermit) :
    Except StoreError Unit :=
  raise_if (payload.get "attempt_id" ≠ .str permit.attempt_id
      ∨ payload.get "authorization_transition_id" ≠ .str permit.authorization_transition_id
      ∨ (payload.get "dispatch_owner_epoch").py_eq (.int permit.owner_epoch) = false
      ∨ payload.get "idempotency_key" ≠ Json.of_str? permit.idempotency_key) .ValueError
    "dispatch permit does not match durable effect authority"

def invocation_of_slot (permit : DispatchPermit) :
    Option EffectLedgerSlot → Except StoreError DurableEffectInvocation
  | none => raise .ValueError "dispatched effect slot does not exist"
  | some slot => do
      raise_if (slot.status ≠ EffectStatus.DISPATCHED.value) .ValueError
        "effect slot is not dispatched"
      check_slot_authority slot.payload permit
      let effect_kind ← require_identity (slot.payload.get "effect_kind")
        "durable effect kind is missing"
      let payload ← require_object (slot.payload.get "payload") "durable effect payload is missing"
      return {
        session_id := permit.session_id
        effect_id := permit.effect_id
        attempt_id := permit.attempt_id
        authorization_transition_id := permit.authorization_transition_id
        owner_epoch := permit.owner_epoch
        effect_kind
        payload
        idempotency_key := permit.idempotency_key }

def load_invocation (permit : DispatchPermit) : Task DurableEffectInvocation := do
  let loaded ← load_effect_slot permit.session_id permit.effect_id
  let slot ← lift loaded
  lift (invocation_of_slot permit slot)

def validate_authorized_attempt (permit : DispatchPermit) :
    Option ExecutorAttemptRecord → Except StoreError Unit
  | none => raise .ValueError "executor attempt does not exist"
  | some attempt => raise_if (attempt.session_id ≠ permit.session_id
      ∨ attempt.effect_id ≠ permit.effect_id ∨ attempt.attempt_id ≠ permit.attempt_id
      ∨ attempt.authorization_transition_id ≠ permit.authorization_transition_id
      ∨ attempt.dispatch_owner_epoch ≠ permit.owner_epoch
      ∨ attempt.status ≠ .AUTHORIZED_UNCLAIMED) .ValueError
      "executor attempt does not match claimed dispatch permit"

def returned_attempt : Except StoreError StoreAnswer → Except StoreError ExecutorAttemptRecord
  | .ok (.attempt attempt) => .ok attempt
  | .ok _ => raise .TypeError "store returned no executor attempt"
  | .error error => .error error

section

variable (executor : DurableEffectExecutor) (permit : DispatchPermit)

def claim_attempt : Task (DurableEffectInvocation × ExecutorAttemptRecord) := do
  let invocation ← load_invocation permit
  let loaded ← load_executor_attempt ((identity permit).key permit.session_id)
  let attempt ← lift loaded
  lift (validate_authorized_attempt permit attempt)
  let claimed_at ← clock
  let reserve_answer ← store (.reserve_executor_attempt (executor.authority permit)
    (identity permit) executor.executor_id (claimed_at + executor.reservation_lease))
  let reserved ← lift (returned_attempt reserve_answer)
  let now ← clock
  let start_answer ← store (.mark_executor_attempt_started (executor.authority permit)
    (identity permit) executor.executor_id reserved.claim_generation now)
  let started ← lift (returned_attempt start_answer)
  lift (raise_if (started.status ≠ .STARTED) .RuntimeError
    "executor attempt did not enter started state")
  return (invocation, started)

/-- The transaction that makes the attempt quiescent, under `evidence_ref`. -/
def quiesce_with (evidence_ref : String) : Task (Awaited Unit) := do
  lift (raise_if (evidence_ref = "") .ValueError
    "quiescence evidence reference must be non-empty")
  let now ← clock
  let answer ← store (.quiesce_claimed_executor_attempt (executor.authority permit)
    (identity permit) executor.executor_id now evidence_ref)
  let quiescent ← lift (returned_attempt answer)
  let caller_cancelled ← cancellation
  lift (raise_if (quiescent.status ≠ .QUIESCENT) .RuntimeError
    "executor attempt did not enter quiescent state")
  return if caller_cancelled then .cancelled else .returned ()

/-- `_quiesce_through_cancellation` of a claimed attempt. -/
def quiesce_claimed
    (invocation : DurableEffectInvocation) (claim_generation : Nat) : Task (Awaited Unit) :=
  executor.quiesce_with permit
    (executor.quiescence_evidence_factory invocation claim_generation)

/-- `_quiesce_after_claim_failure(authority, permit)`: the exception of the cleanup, if any. -/
def quiesce_after_claim_failure : Task (Awaited (Option StoreError)) :=
  let evidence_ref := "executor:" ++ executor.executor_id ++ ":" ++ permit.effect_id ++ ":"
    ++ permit.attempt_id ++ ":claim:quiescent"
  Dialogue.handle (fun error => .done (.returned (some error))) (do
    let outcome ← executor.quiesce_with permit evidence_ref
    match outcome with
    | .cancelled => return .cancelled
    | _ => return .returned none)

def claim_failed (error : StoreError) : Task (Awaited EffectExecutionResult) := do
  let cleanup ← executor.quiesce_after_claim_failure permit
  match cleanup with
  | .cancelled => return .cancelled
  | .raised raised => .fail raised
  | .returned cleanup_error =>
    return .returned (.indeterminate "durable_executor_claim_indeterminate"
      (exception_message (cleanup_error.getD error)) none)

section

variable (invocation : DurableEffectInvocation)

/-- A claimed attempt of a cancelled task is made quiescent, and the cancellation goes on. -/
def quiesce_cancelled (claim_generation : Nat) :
    Task (Awaited EffectExecutionResult) := do
  let _ ← executor.quiesce_claimed permit invocation claim_generation
  return .cancelled

/-- The result of the backend, once the attempt is quiescent. -/
def finish (claim_generation : Nat)
    (result : EffectExecutionResult) : Task (Awaited EffectExecutionResult) :=
  Dialogue.handle
    (fun error => .done (.returned (.indeterminate "executor_quiescence_failed"
      (exception_message error) none)))
    (do
      let outcome ← executor.quiesce_claimed permit invocation claim_generation
      match outcome with
      | .cancelled => return .cancelled
      | _ => return .returned result)

/-- The backend is called for a claimed attempt. -/
def run_backend (started : ExecutorAttemptRecord) :
    Task (Awaited EffectExecutionResult) := do
  let caller_cancelled ← cancellation
  if caller_cancelled then
    executor.quiesce_cancelled permit invocation started.claim_generation
  else do
    let outcome ← execute_backend permit invocation
    match outcome with
    | .cancelled => executor.quiesce_cancelled permit invocation started.claim_generation
    | .raised error =>
      executor.finish permit invocation started.claim_generation
        (.indeterminate "effect_backend_error" (exception_message error) none)
    | .returned result => executor.finish permit invocation started.claim_generation result

end

def attempt_claim : Task ((DurableEffectInvocation × ExecutorAttemptRecord) ⊕ StoreError) :=
  Dialogue.handle (fun error => .done (.inr error))
    (do let claimed ← executor.claim_attempt permit; return .inl claimed)

def execute : Task (Awaited EffectExecutionResult) := do
  lift (validate_permit permit)
  let claim ← executor.attempt_claim permit
  match claim with
  | .inr error => executor.claim_failed permit error
  | .inl (invocation, started) => executor.run_backend permit invocation started

end

end DurableEffectExecutor

end CodingAgentLoop
