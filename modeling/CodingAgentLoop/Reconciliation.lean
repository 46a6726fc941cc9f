/-
Settling an effect whose outcome was unknown.

Two functions of the source decide what a reconciliation may write. The first
(`state_value_with_reconciled_effect` in `harness.py`) computes the state value
that records the observed outcome from the committed state, the durable evidence
and the reconciliation record. The second (`_assert_reconciliation_preconditions`
in `uow.py`) makes the store recompute it: a unit is only accepted when the
ledger still holds the effect as `unknown`, the evidence and the executor attempt
agree with it, and the proposed state is the recomputed one.
-/
import CodingAgentLoop.Tables

open Lib

namespace CodingAgentLoop

def reconciled_effect_input_id (record : ReconciliationRecord) : String :=
  record.transition_id ++ ":settled"

/-- The fields an unknown effect shares with the authorization it was dispatched under. -/
def authorization_fields : List String :=
  ["effect_id", "attempt_id", "tool_call_id", "tool_name", "authorization_transition_id",
    "dispatch_owner_epoch"]

/-- `isinstance(value, dict)`, or the error raised without it. -/
def require_object (value : Json) (message : String) : Except StoreError JsonObject :=
  match value with
  | .obj fields => .ok fields
  | _ => raise .ValueError message

theorem require_object_eq_ok {value : Json} {message : String} {fields : JsonObject} :
    require_object value message = .ok fields ↔ value = .obj fields := by
  cases value <;> simp [require_object]

/-- The entry `reconciled_effect` of the runtime state. -/
def reconciled_effect_marker (unknown : JsonObject) (evidence : EffectReconciliationEvidence)
    (record : ReconciliationRecord) : JsonObject :=
  unknown.merge
    [("reconciliation_transition_id", .str record.transition_id),
     ("evidence_ref", .str evidence.evidence_ref),
     ("reconciliation_owner_epoch", .int evidence.reconciliation_owner_epoch),
     ("reconciled_input_id", .str (reconciled_effect_input_id record)),
     ("outcome", .str evidence.outcome.value),
     ("result", evidence.result),
     ("reason_code", Json.of_str? evidence.reason_code),
     ("reason_message", Json.of_str? evidence.reason_message)]

/-- The evidence and the record speak of one observation. -/
def check_evidence_matches_record (evidence : EffectReconciliationEvidence)
    (record : ReconciliationRecord) : Except StoreError Unit :=
  raise_if (evidence.effect_id ≠ record.effect_id ∨ evidence.attempt_id ≠ record.attempt_id
      ∨ evidence.reconciliation_owner_epoch ≠ record.owner_epoch
      ∨ evidence.outcome ≠ record.observed_outcome ∨ evidence.evidence_ref ≠ record.evidence_ref)
    .ValueError "evidence and reconciliation record do not match"

/-- The unknown effect is the one that was authorized and the one the evidence is about. -/
def check_unknown_effect (unknown active : JsonObject) (evidence : EffectReconciliationEvidence) :
    Except StoreError Unit := do
  raise_if (∃ field_name ∈ authorization_fields,
      (unknown.get field_name).py_eq (active.get field_name) = false) .ValueError
    "unknown effect does not match retained authorization"
  raise_if ((unknown.get "indeterminate_input_id").str? = none
      ∨ unknown.get "indeterminate_input_id" = .str "") .ValueError
    "unknown effect is missing its consume-once input"
  raise_if (unknown.get "effect_id" ≠ .str evidence.effect_id
      ∨ unknown.get "attempt_id" ≠ .str evidence.attempt_id
      ∨ unknown.get "authorization_transition_id" ≠ .str evidence.authorization_transition_id)
    .ValueError "unknown effect does not match reconciliation evidence"

def state_value_with_reconciled_effect (current_value : JsonObject)
    (evidence : EffectReconciliationEvidence) (record : ReconciliationRecord) :
    Except StoreError JsonObject := do
  check_evidence_matches_record evidence record
  let runtime_state ← require_object (current_value.get "_agentkit_runtime")
    "reconciliation requires committed runtime state"
  let unknown ← require_object (runtime_state.get "unknown_effect")
    "reconciliation requires a committed unknown effect"
  let active ← require_object (runtime_state.get "active_effect_authorization")
    "reconciliation requires retained authorization"
  raise_if ((runtime_state.get "pending_effect_plans").arr?.getD [] = []) .ValueError
    "reconciliation requires a retained effect plan"
  check_unknown_effect unknown active evidence
  return current_value.set "_agentkit_runtime"
    (.obj (runtime_state.set "reconciled_effect"
      (.obj (reconciled_effect_marker unknown evidence record))))

/-- **What a reconciliation changes**: the runtime state gains a `reconciled_effect`
entry, and nothing else moves. -/
theorem state_value_with_reconciled_effect_spec {current_value value : JsonObject}
    {evidence : EffectReconciliationEvidence} {record : ReconciliationRecord}
    (h : state_value_with_reconciled_effect current_value evidence record = .ok value) :
    ∃ runtime_state marker : JsonObject,
      current_value.get "_agentkit_runtime" = .obj runtime_state
        ∧ (runtime_state.get "pending_effect_plans").arr?.getD [] ≠ []
        ∧ value = current_value.set "_agentkit_runtime"
            (.obj (runtime_state.set "reconciled_effect" (.obj marker))) := by
  simp only [state_value_with_reconciled_effect, Result.bind_eq_ok, require_object_eq_ok,
    raise_if_eq_ok, Result.pure_eq_ok] at h
  obtain ⟨_, -, runtime_state, hruntime, unknown, -, active, -, _, hplans, _, -, hvalue⟩ := h
  exact ⟨runtime_state, reconciled_effect_marker unknown evidence record, hruntime, hplans,
    hvalue.symm⟩

/-! ## The store's side -/

/-- The payload the durable evidence of a reconciliation must have. -/
def expected_evidence (authority : OwnerAuthority) (evidence_ref : String)
    (expected_authorization : Option String) (mutation : EffectMutation)
    (record : ReconciliationRecord) : JsonObject :=
  [("evidence_ref", .str evidence_ref),
   ("session_id", .str authority.session_id),
   ("effect_id", .str mutation.effect_id),
   ("attempt_id", .str mutation.attempt_id),
   ("authorization_transition_id", Json.of_str? expected_authorization),
   ("reconciliation_owner_epoch", .int authority.epoch),
   ("outcome", .str record.observed_outcome.value),
   ("result", mutation.payload.get "result"),
   ("reason_code", mutation.payload.get "reason_code"),
   ("reason_message", mutation.payload.get "reason_message")]

section

variable (db : Tables) (authority : OwnerAuthority)

section

variable (mutation : EffectMutation) (expected_authorization : Option String)

/-- The effect slot a reconciliation starts from: durably `unknown`, under the
authorization the unit names. Returns the epoch that dispatched it. -/
def reconciled_slot_owner_epoch :
    Except StoreError Nat :=
  match db.session_effect_slots.row (authority.session_id, mutation.effect_id) with
  | none => raise .EffectMutationConflictError "reconciliation requires a durable UNKNOWN effect"
  | some slot => do
      raise_if (slot.status ≠ EffectStatus.UNKNOWN.value) .EffectMutationConflictError
        "reconciliation requires a durable UNKNOWN effect"
      raise_if (slot.payload.get "attempt_id" ≠ .str mutation.attempt_id
          ∨ slot.payload.get "authorization_transition_id" ≠ Json.of_str? expected_authorization)
        .EffectMutationConflictError "reconciliation retained authorization does not match"
      match slot.payload.get "dispatch_owner_epoch" with
      | .int epoch =>
        if 0 < epoch then return epoch.toNat
        else raise .EffectMutationConflictError "effect dispatch owner epoch is missing"
      | _ => raise .EffectMutationConflictError "effect dispatch owner epoch is missing"

/-- The executor attempt of a reconciled effect may no longer run: it is quiescent, or
its own owner reconciles it, or it was never claimed and its owner was replaced. -/
def check_reconciled_executor (dispatch_owner_epoch : Nat) : Except StoreError Unit :=
  match db.session_executor_attempts.row
      ⟨authority.session_id, mutation.effect_id, mutation.attempt_id,
        expected_authorization.getD ""⟩ with
  | none => raise .ExecutorAttemptConflictError "executor attempt does not exist"
  | some executor => do
      raise_if (executor.dispatch_owner_epoch ≠ dispatch_owner_epoch) .ExecutorAttemptConflictError
        "executor attempt dispatch owner does not match effect"
      raise_if (executor.status ≠ .QUIESCENT
          ∧ dispatch_owner_epoch ≠ authority.epoch
          ∧ ¬ (executor.status = .AUTHORIZED_UNCLAIMED ∧ dispatch_owner_epoch < authority.epoch))
        .ExecutorAttemptConflictError "executor attempt is not durably quiescent"

end

/-- The proposed state value is the one the evidence determines. -/
def check_reconciled_state (state_cas : OperationStateCAS) (state_value : JsonObject)
    (evidence : EffectReconciliationEvidence) (record : ReconciliationRecord)
    (dispatch_owner_epoch : Nat) : Except StoreError Unit :=
  match db.session_operation_states.row (authority.session_id, state_cas.run_id) with
  | none => raise .StateVersionConflictError "reconciliation operation state does not exist"
  | some current_state => do
      raise_if (current_state.cas ≠ state_cas) .StateVersionConflictError
        "operation state compare-and-swap conflict"
      let expected_state_value ←
        state_value_with_reconciled_effect current_state.value evidence record
      let expected_runtime ← require_object (expected_state_value.get "_agentkit_runtime")
        "reconciliation requires committed runtime state"
      let expected_unknown ← require_object (expected_runtime.get "unknown_effect")
        "reconciliation requires a committed unknown effect"
      raise_if ((expected_unknown.get "dispatch_owner_epoch").py_eq (.int dispatch_owner_epoch)
          = false) .EffectMutationConflictError
        "unknown effect dispatch owner does not match effect slot"
      raise_if ((Json.obj state_value).py_eq (.obj expected_state_value) = false)
        .EffectMutationConflictError "reconciliation state does not match canonical evidence"

def assert_reconciliation_preconditions
    (unit : AuthoritativeUnitOfWork) (state_cas : OperationStateCAS) (state_value : JsonObject) :
    Except StoreError Unit :=
  match unit.reconciliation_evidence_ref with
  | none => .ok ()
  | some evidence_ref =>
    match unit.normalized_effect_mutations.find? (·.reconciliation.isSome) with
    | none => raise .EffectMutationConflictError "reconciliation mutation is missing"
    | some mutation =>
      match mutation.reconciliation with
      | none => raise .EffectMutationConflictError "reconciliation mutation is missing"
      | some record => do
          let expected_authorization :=
            unit.expected_reconciliation_authorization_transition_id
          let dispatch_owner_epoch ←
            reconciled_slot_owner_epoch db authority mutation expected_authorization
          match db.session_effect_reconciliation_evidence.row
              (authority.session_id, evidence_ref) with
          | none =>
            raise .EffectMutationConflictError "reconciliation evidence does not exist"
          | some evidence => do
              raise_if ((Json.obj evidence.payload).py_eq (.obj (expected_evidence authority
                  evidence_ref expected_authorization mutation record)) = false)
                .EffectMutationConflictError
                "reconciliation evidence does not match terminal payload"
              check_reconciled_executor db authority mutation expected_authorization
                dispatch_owner_epoch
              check_reconciled_state db authority state_cas state_value evidence record
                dispatch_owner_epoch

end

end CodingAgentLoop
