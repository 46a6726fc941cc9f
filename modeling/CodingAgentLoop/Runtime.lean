/-
What the asynchronous functions of the runtime await.

The commit port, the executor and the coordinator are `async` functions. What they
await is a query here, and a run of one of them is a dialogue (`Lib.Dialogue`): the
store's transactions and reads, the clock, the control probe, the model adapter and
the effect backend. A storage exception is an answer like any other, so every answer
of the store is an `Except`.

`Task` is the type of such a function; `raise` ends it like the source's `raise`.
-/
import CodingAgentLoop.CommitContracts
import CodingAgentLoop.StoreRun
import CodingAgentLoop.Lib.Dialogue

namespace CodingAgentLoop

open Lib Dialogue

/-- `DurableEffectInvocation`: what an effect backend is asked to execute. -/
structure DurableEffectInvocation where
  session_id : String
  effect_id : String
  attempt_id : String
  authorization_transition_id : String
  owner_epoch : Nat
  effect_kind : String
  payload : JsonObject
  idempotency_key : Option String

/-- How a call that may be cancelled ends. -/
inductive Awaited (α : Type) where
  | returned (value : α)
  | raised (error : StoreError)
  | cancelled

/-- What an asynchronous function awaits. -/
inductive Query where
  /-- The clock of the component, and of its permit tokens. -/
  | clock
  | permit_token
  /-- `control_probe.observe()`. -/
  | observe
  /-- `model_adapter.generate(request, ...)`, watched by the control probe from `snapshot` on. -/
  | generate (request : ModelRequest) (snapshot : ControlSnapshot)
  /-- `store.commit_authoritative_uow(authority, unit)`. -/
  | commit (authority : OwnerAuthority) (unit : UnitOfWork)
  /-- A transaction on an executor attempt. -/
  | store (call : StoreCall)
  | load_operation_state (session_id run_id : String)
  | load_effect_slot (session_id effect_id : String)
  | load_executor_attempt (key : AttemptKey)
  | load_child_binding_of_effect (session_id parent_effect_id : String)
  | load_child_binding_of_run (session_id child_run_id : String)
  | load_effect_reconciliation_evidence (session_id evidence_ref : String)
  /-- `backend.execute(invocation, ...)`, called under `permit`. -/
  | execute_backend (permit : DispatchPermit) (invocation : DurableEffectInvocation)
  /-- Whether the awaiting task was cancelled by now. -/
  | cancellation

/-- The answers to a query. A generation ends with a result, or with the reason it was
interrupted for. -/
abbrev Answer : Query → Type
  | .clock => Datetime
  | .permit_token => String
  | .observe => ControlSnapshot
  | .generate _ _ => Except StoreError (Option ModelGenerationResult ⊕ String)
  | .commit _ _ => Except StoreError AuthoritativeCommit
  | .store _ => Except StoreError StoreAnswer
  | .load_operation_state _ _ => Except StoreError (Option OperationStateVersion)
  | .load_effect_slot _ _ => Except StoreError (Option EffectLedgerSlot)
  | .load_executor_attempt _ => Except StoreError (Option ExecutorAttemptRecord)
  | .load_child_binding_of_effect _ _ => Except StoreError (Option ChildExecutionBinding)
  | .load_child_binding_of_run _ _ => Except StoreError (Option ChildExecutionBinding)
  | .load_effect_reconciliation_evidence _ _ =>
    Except StoreError (Option EffectReconciliationEvidence)
  | .execute_backend _ _ => Awaited EffectExecutionResult
  | .cancellation => Bool

abbrev Task := Dialogue Query Answer StoreError

namespace Await

/-! The queries, as the tasks write them. -/

abbrev clock : Task Datetime := await Query.clock

abbrev permit_token : Task String := await Query.permit_token

abbrev observe : Task ControlSnapshot := await Query.observe

abbrev generate (request : ModelRequest) (snapshot : ControlSnapshot) :
    Task (Except StoreError (Option ModelGenerationResult ⊕ String)) :=
  await (Query.generate request snapshot)

abbrev commit (authority : OwnerAuthority) (unit : UnitOfWork) :
    Task (Except StoreError AuthoritativeCommit) :=
  await (Query.commit authority unit)

abbrev store (call : StoreCall) : Task (Except StoreError StoreAnswer) :=
  await (Query.store call)

abbrev load_operation_state (session_id run_id : String) :
    Task (Except StoreError (Option OperationStateVersion)) :=
  await (Query.load_operation_state session_id run_id)

abbrev load_effect_slot (session_id effect_id : String) :
    Task (Except StoreError (Option EffectLedgerSlot)) :=
  await (Query.load_effect_slot session_id effect_id)

abbrev load_executor_attempt (key : AttemptKey) :
    Task (Except StoreError (Option ExecutorAttemptRecord)) :=
  await (Query.load_executor_attempt key)

abbrev load_child_binding_of_effect (session_id parent_effect_id : String) :
    Task (Except StoreError (Option ChildExecutionBinding)) :=
  await (Query.load_child_binding_of_effect session_id parent_effect_id)

abbrev load_child_binding_of_run (session_id child_run_id : String) :
    Task (Except StoreError (Option ChildExecutionBinding)) :=
  await (Query.load_child_binding_of_run session_id child_run_id)

abbrev load_effect_reconciliation_evidence (session_id evidence_ref : String) :
    Task (Except StoreError (Option EffectReconciliationEvidence)) :=
  await (Query.load_effect_reconciliation_evidence session_id evidence_ref)

abbrev execute_backend (permit : DispatchPermit) (invocation : DurableEffectInvocation) :
    Task (Awaited EffectExecutionResult) :=
  await (Query.execute_backend permit invocation)

abbrev cancellation : Task Bool := await Query.cancellation

end Await

abbrev TaskHistory := History Query Answer

/-! ## The store's side

The store answers a query from its tables at the moment it is asked. A read may fail, and the
acknowledgement of a write may be lost: the caller sees an exception then, whatever the store
did. -/

def storage_error (message : String) : StoreError := .raised .RuntimeError message

def stored_effect_slot (db : Tables) (session_id effect_id : String) : Option EffectLedgerSlot :=
  (db.session_effect_slots.row (session_id, effect_id)).map (fun row =>
    { effect_id, status := row.status, payload := row.payload })

/-- What a read of the store returns on the tables. -/
def read_answer (db : Tables) : (query : Query) → Option (Answer query)
  | .load_operation_state session_id run_id =>
    some (.ok (db.session_operation_states.row (session_id, run_id)))
  | .load_effect_slot session_id effect_id =>
    some (.ok (stored_effect_slot db session_id effect_id))
  | .load_executor_attempt key => some (.ok (db.session_executor_attempts.row key))
  | .load_child_binding_of_effect session_id parent_effect_id =>
    some (.ok (db.session_child_bindings.row (session_id, parent_effect_id)))
  | .load_child_binding_of_run session_id child_run_id =>
    some (.ok (child_binding_of_run db session_id child_run_id))
  | .load_effect_reconciliation_evidence session_id evidence_ref =>
    some (.ok (db.session_effect_reconciliation_evidence.row (session_id, evidence_ref)))
  | _ => none

end CodingAgentLoop
