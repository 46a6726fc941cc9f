/-
The host-neutral records the engine, the coordinator and the store exchange
(`agentkit/runtime/contracts.py`).

Each dataclass is a structure with the same fields, and its `__post_init__` is
`post_init`: the checks in the source's order, with the source's texts. An
instance of a class is a value its own `post_init` accepted, so where the source
asks `isinstance(x, C)` of a nested value the model asks `C.post_init x`.

Freezing a mapping leaves its contents alone, so a frozen payload is the object
itself. Sequence numbers and generations travel as decimal strings; `parse_u64`
and `format_u64` are inverse to each other on those strings, and the numbers
themselves stand for them here.
-/
import CodingAgentLoop.Errors
import CodingAgentLoop.Lib.Json

open Lib

namespace CodingAgentLoop

/-! ## Versions and receipts -/

/-- Store-stamped transition anchor and contiguous committed fact range. -/
structure CommitRef where
  transition_id : String
  fact_seq_start : Option Nat := none
  fact_seq_end : Option Nat := none
  deriving DecidableEq

/-- Logical state CAS identity, independent of the physical event log. -/
structure OperationStateCAS where
  run_id : String
  revision : Nat
  projection_epoch : Nat
  deriving DecidableEq

def OperationStateCAS.post_init (cas : OperationStateCAS) : Except StoreError Unit :=
  require_non_empty "run_id" cas.run_id

/-- Immutable committed engine state stamped by the authoritative store. -/
structure OperationStateVersion where
  run_id : String
  revision : Nat
  projection_epoch : Nat
  commit_ref : CommitRef
  value : JsonObject
  deriving DecidableEq

/-- The property `OperationStateVersion.cas`. -/
def OperationStateVersion.cas (version : OperationStateVersion) : OperationStateCAS where
  run_id := version.run_id
  revision := version.revision
  projection_epoch := version.projection_epoch

structure RuntimeCommand where
  command_id : String
  command_kind : String
  payload : JsonObject := []
  deriving DecidableEq

def RuntimeCommand.post_init (command : RuntimeCommand) : Except StoreError Unit := do
  require_non_empty "command_id" command.command_id
  require_non_empty "command_kind" command.command_kind

/-- `AppliedCommandDisposition | RejectedCommandDisposition | SupersededCommandDisposition`. -/
inductive CommandDisposition where
  | applied (command_id : String)
  | rejected (command_id reason_code : String)
  | superseded (command_id superseded_by_command_id : String)
  deriving DecidableEq

namespace CommandDisposition

def command_id : CommandDisposition → String
  | .applied command_id => command_id
  | .rejected command_id _ => command_id
  | .superseded command_id _ => command_id

/-- `disposition.kind.value`. -/
def kind : CommandDisposition → String
  | .applied _ => "applied"
  | .rejected _ _ => "rejected"
  | .superseded _ _ => "superseded"

def post_init : CommandDisposition → Except StoreError Unit
  | .applied command_id => require_non_empty "command_id" command_id
  | .rejected command_id reason_code => do
      require_non_empty "command_id" command_id
      require_non_empty "reason_code" reason_code
  | .superseded command_id superseded_by_command_id => do
      require_non_empty "command_id" command_id
      require_non_empty "superseded_by_command_id" superseded_by_command_id
      raise_if (command_id = superseded_by_command_id) .ValueError
        "a command cannot supersede itself"

end CommandDisposition

/-! ## Effects -/

/-- One planned tool execution. -/
structure EffectPlan where
  effect_id : String
  attempt_id : String
  effect_kind : String
  payload : JsonObject
  idempotency_key : Option String := none
  requires_approval : Bool := false
  approval_request_id : Option String := none
  deriving DecidableEq

def check_approval_request_id (requires_approval : Bool) (approval_request_id : Option String) :
    Except StoreError Unit :=
  if requires_approval then
    match approval_request_id with
    | none => raise .ValueError "approval_request_id is required when requires_approval is true"
    | some request_id => require_non_empty "approval_request_id" request_id
  else
    raise_if (approval_request_id ≠ none) .ValueError
      "approval_request_id is valid only when requires_approval is true"

def EffectPlan.post_init (plan : EffectPlan) : Except StoreError Unit := do
  require_non_empty "effect_id" plan.effect_id
  require_non_empty "attempt_id" plan.attempt_id
  require_non_empty "effect_kind" plan.effect_kind
  require_non_empty_if_set "idempotency_key" plan.idempotency_key
  check_approval_request_id plan.requires_approval plan.approval_request_id

inductive EffectStatus where
  | PREPARED
  | REJECTED
  | DISPATCHED
  | COMPLETED
  | FAILED
  | UNKNOWN
  deriving DecidableEq

/-- The text stored in the ledger's `status` column. -/
def EffectStatus.value : EffectStatus → String
  | .PREPARED => "prepared"
  | .REJECTED => "rejected"
  | .DISPATCHED => "dispatched"
  | .COMPLETED => "completed"
  | .FAILED => "failed"
  | .UNKNOWN => "unknown"

theorem EffectStatus.value_injective : Function.Injective EffectStatus.value := by
  intro a b h
  cases a <;> cases b <;> first | rfl | exact absurd h (by decide)

/-- What a reconciliation may observe. -/
inductive ReconciliationOutcome where
  | COMPLETED
  | FAILED
  deriving DecidableEq

/-- `EffectStatus(outcome.value)`. -/
def ReconciliationOutcome.status : ReconciliationOutcome → EffectStatus
  | .COMPLETED => .COMPLETED
  | .FAILED => .FAILED

def ReconciliationOutcome.value (outcome : ReconciliationOutcome) : String := outcome.status.value

/-- The record an operator or an owner reconciles an unknown effect with. -/
structure ReconciliationRecord where
  effect_id : String
  attempt_id : String
  observed_outcome : ReconciliationOutcome
  evidence_ref : String
  actor_id : String
  owner_epoch : Nat
  transition_id : String
  deriving DecidableEq

def ReconciliationRecord.post_init (record : ReconciliationRecord) : Except StoreError Unit := do
  require_non_empty "effect_id" record.effect_id
  require_non_empty "attempt_id" record.attempt_id
  require_non_empty "evidence_ref" record.evidence_ref
  require_non_empty "actor_id" record.actor_id
  require_positive_int "owner_epoch" record.owner_epoch
  require_non_empty "transition_id" record.transition_id

def LEGAL_EFFECT_TRANSITIONS : List (EffectStatus × EffectStatus) :=
  [(.PREPARED, .REJECTED),
   (.PREPARED, .DISPATCHED),
   (.DISPATCHED, .COMPLETED),
   (.DISPATCHED, .FAILED),
   (.DISPATCHED, .UNKNOWN),
   (.UNKNOWN, .COMPLETED),
   (.UNKNOWN, .FAILED)]

/-- One requested change of an effect slot. -/
structure EffectMutation where
  effect_id : String
  attempt_id : String
  status : EffectStatus
  payload : JsonObject
  expected_status : Option EffectStatus := none
  reconciliation : Option ReconciliationRecord := none
  deriving DecidableEq

namespace EffectMutation

/-- The checks on the reconciliation record of an `UNKNOWN` settlement. -/
def check_reconciliation (mutation : EffectMutation) : Except StoreError Unit :=
  if mutation.expected_status = some .UNKNOWN then
    match mutation.reconciliation with
    | none => raise .ValueError "unknown effect settlement requires a reconciliation record"
    | some record => do
        record.post_init
        raise_if (record.effect_id ≠ mutation.effect_id) .ValueError
          "reconciliation effect_id must match effect mutation"
        raise_if (record.attempt_id ≠ mutation.attempt_id) .ValueError
          "reconciliation attempt_id must match effect mutation"
        raise_if (record.observed_outcome.status ≠ mutation.status) .ValueError
          "reconciliation outcome must match effect mutation status"
  else
    raise_if (mutation.reconciliation ≠ none) .ValueError
      "reconciliation is valid only for an unknown effect settlement"

/-- The checks on the pair of expected and new status. -/
def check_transition (mutation : EffectMutation) : Except StoreError Unit :=
  match mutation.expected_status with
  | none => raise_if (mutation.status ≠ .PREPARED) .ValueError
      "a new effect must enter the prepared state"
  | some expected_status =>
    raise_if ((expected_status, mutation.status) ∉ LEGAL_EFFECT_TRANSITIONS) .ValueError
      ("invalid effect transition: " ++ expected_status.value ++ " -> " ++ mutation.status.value)

def post_init (mutation : EffectMutation) : Except StoreError Unit := do
  require_non_empty "effect_id" mutation.effect_id
  require_non_empty "attempt_id" mutation.attempt_id
  mutation.check_transition
  mutation.check_reconciliation

def prepare (plan : EffectPlan) : EffectMutation where
  effect_id := plan.effect_id
  attempt_id := plan.attempt_id
  status := .PREPARED
  payload :=
    [("effect_kind", .str plan.effect_kind),
     ("payload", .obj plan.payload),
     ("idempotency_key", Json.of_str? plan.idempotency_key)]

/-- `expected_status is PREPARED and status is DISPATCHED`. -/
def is_dispatch (mutation : EffectMutation) : Bool :=
  mutation.expected_status = some .PREPARED ∧ mutation.status = .DISPATCHED

@[simp] theorem is_dispatch_iff (mutation : EffectMutation) :
    mutation.is_dispatch = true ↔
      mutation.expected_status = some .PREPARED ∧ mutation.status = .DISPATCHED := by
  simp [is_dispatch]

/-- **The ledger graph.** A mutation that passed its constructor enters `PREPARED`
or follows an edge of `_LEGAL_EFFECT_TRANSITIONS`. -/
theorem legal_of_post_init {mutation : EffectMutation} (h : mutation.post_init = .ok ()) :
    match mutation.expected_status with
    | none => mutation.status = .PREPARED
    | some expected_status => (expected_status, mutation.status) ∈ LEGAL_EFFECT_TRANSITIONS := by
  simp only [post_init, Result.check_bind_eq_ok] at h
  obtain ⟨-, -, htransition, -⟩ := h
  unfold check_transition at htransition
  cases hexpected : mutation.expected_status with
  | none => simpa [hexpected] using htransition
  | some expected_status =>
    rw [hexpected] at htransition
    simpa using htransition

end EffectMutation

/-! ## Committed facts -/

/-- What a sink is told about one committed fact. -/
structure CommittedFactNotice where
  fact_id : String
  fact_kind : String
  payload : JsonObject
  session_seq : Option Nat := none
  projection_epoch : Option Nat := none
  event_record_id : Option String := none
  deriving DecidableEq

/-- The stored result of a committed transition. -/
structure TransitionReceipt where
  session_id : String
  projection_epoch : Nat
  transition_id : String
  mutation_fingerprint : String
  state_version : OperationStateVersion
  facts : List CommittedFactNotice
  effect_plans : List EffectPlan := []

end CodingAgentLoop
