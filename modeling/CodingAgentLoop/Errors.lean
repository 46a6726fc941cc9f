/-
The exceptions of the runtime and of the durable store.

A Python function that raises is an `Except StoreError`. The class of an
exception is kept because callers branch on it (the commit port maps each class
to one result variant), and so is the text, which callers put into the results
they return. `StaleMailboxCutError` is the one exception that carries data.
-/
import CodingAgentLoop.Lib.Result

namespace CodingAgentLoop

/-- The exception classes the modelled code raises, under their own names. -/
inductive ErrorClass where
  | ValueError
  | TypeError
  | KeyError
  | RuntimeError
  | IntegrityError
  | SessionOwnershipConflictError
  | StateVersionConflictError
  | TransitionFingerprintMismatchError
  | CommandDispositionConflictError
  | RuntimeCommandAdmissionConflictError
  | EffectMutationConflictError
  | InvalidDispatchAuthorizationError
  | InvalidReconciliationPreconditionError
  | RecoveryEvidenceConflictError
  | ExecutorAttemptConflictError
  | ChildBindingConflictError
  | RecoveryLeaseConflictError
  | StaleRecoveryGuardError
  | UnknownRuntimeVersionError
  | CrossVersionWriteError
  | NewRuntimeSettledWriteError
  | NewRuntimeCheckpointRejectedError
  | ChatCommandConflictError
  | ResumeSourceUnsettledError
  | RootRunAlreadySettledError
  | TurnInProgressError
  | ChatProjectionCorruptionError
  | ChatCursorError
  | PipelineError
  | HookError
  | AttributeError
  | OverflowError
  | OSError
  deriving DecidableEq, Repr

/-- `type(exc).__name__`. -/
def ErrorClass.name : ErrorClass → String
  | .ValueError => "ValueError"
  | .TypeError => "TypeError"
  | .KeyError => "KeyError"
  | .RuntimeError => "RuntimeError"
  | .IntegrityError => "IntegrityError"
  | .SessionOwnershipConflictError => "SessionOwnershipConflictError"
  | .StateVersionConflictError => "StateVersionConflictError"
  | .TransitionFingerprintMismatchError => "TransitionFingerprintMismatchError"
  | .CommandDispositionConflictError => "CommandDispositionConflictError"
  | .RuntimeCommandAdmissionConflictError => "RuntimeCommandAdmissionConflictError"
  | .EffectMutationConflictError => "EffectMutationConflictError"
  | .InvalidDispatchAuthorizationError => "InvalidDispatchAuthorizationError"
  | .InvalidReconciliationPreconditionError => "InvalidReconciliationPreconditionError"
  | .RecoveryEvidenceConflictError => "RecoveryEvidenceConflictError"
  | .ExecutorAttemptConflictError => "ExecutorAttemptConflictError"
  | .ChildBindingConflictError => "ChildBindingConflictError"
  | .RecoveryLeaseConflictError => "RecoveryLeaseConflictError"
  | .StaleRecoveryGuardError => "StaleRecoveryGuardError"
  | .UnknownRuntimeVersionError => "UnknownRuntimeVersionError"
  | .CrossVersionWriteError => "CrossVersionWriteError"
  | .NewRuntimeSettledWriteError => "NewRuntimeSettledWriteError"
  | .NewRuntimeCheckpointRejectedError => "NewRuntimeCheckpointRejectedError"
  | .ChatCommandConflictError => "ChatCommandConflictError"
  | .ResumeSourceUnsettledError => "ResumeSourceUnsettledError"
  | .RootRunAlreadySettledError => "RootRunAlreadySettledError"
  | .TurnInProgressError => "TurnInProgressError"
  | .ChatProjectionCorruptionError => "ChatProjectionCorruptionError"
  | .ChatCursorError => "ChatCursorError"
  | .PipelineError => "PipelineError"
  | .HookError => "HookError"
  | .AttributeError => "AttributeError"
  | .OverflowError => "OverflowError"
  | .OSError => "OSError"

/-- `isinstance(exc, ValueError)`: the class and its subclasses. -/
def ErrorClass.is_value_error : ErrorClass → Bool
  | .ValueError
  | .InvalidDispatchAuthorizationError
  | .InvalidReconciliationPreconditionError
  | .UnknownRuntimeVersionError
  | .CrossVersionWriteError
  | .NewRuntimeSettledWriteError
  | .ChatCommandConflictError
  | .ResumeSourceUnsettledError
  | .RootRunAlreadySettledError
  | .TurnInProgressError
  | .ChatProjectionCorruptionError
  | .ChatCursorError => true
  | _ => false

/-- A raised exception. -/
inductive StoreError where
  | StaleMailboxCutError (expected_mailbox_cut current_mailbox_cut : Nat)
  | raised (cls : ErrorClass) (message : String)
  deriving DecidableEq, Repr

/-- `str(exc)`. -/
def StoreError.message : StoreError → String
  | .StaleMailboxCutError expected_mailbox_cut current_mailbox_cut =>
    "dispatch authorization mailbox cut is stale: expected " ++ toString expected_mailbox_cut
      ++ ", current " ++ toString current_mailbox_cut
  | .raised _ message => message

/-- `type(exc).__name__`. -/
def StoreError.name : StoreError → String
  | .StaleMailboxCutError _ _ => "StaleMailboxCutError"
  | .raised cls _ => cls.name

/-- `raise cls(message)`. -/
def raise {α : Type} (cls : ErrorClass) (message : String) : Except StoreError α :=
  .error (.raised cls message)

/-- `if condition: raise cls(message)`. -/
def raise_if (condition : Prop) [Decidable condition] (cls : ErrorClass) (message : String) :
    Except StoreError Unit :=
  if condition then raise cls message else .ok ()

@[simp] theorem raise_ne_ok {α : Type} (cls : ErrorClass) (message : String) (a : α) :
    raise cls message = .ok a ↔ False := by
  simp [raise]

variable {u : Unit}

@[simp] theorem raise_if_eq_ok {condition : Prop} [Decidable condition] {cls : ErrorClass}
    {message : String} : raise_if condition cls message = .ok u ↔ ¬ condition := by
  unfold raise_if
  split <;> simp_all

def require_non_empty (field_name value : String) : Except StoreError Unit :=
  raise_if (value = "") .ValueError (field_name ++ " must be non-empty")

/-- `_require_positive_int(field_name, value)` on an integer that is not negative. -/
def require_positive_int (field_name : String) (value : Nat) : Except StoreError Unit :=
  raise_if (value = 0) .ValueError (field_name ++ " must be positive")

@[simp] theorem require_non_empty_eq_ok {field_name value : String} :
    require_non_empty field_name value = .ok u ↔ value ≠ "" := by
  simp [require_non_empty]

@[simp] theorem require_positive_int_eq_ok {field_name : String} {value : Nat} :
    require_positive_int field_name value = .ok u ↔ 0 < value := by
  simp [require_positive_int, Nat.pos_iff_ne_zero]

/-- An optional string field that must not be empty when it is set. -/
def require_non_empty_if_set (field_name : String) (value : Option String) :
    Except StoreError Unit :=
  match value with
  | none => .ok ()
  | some text => require_non_empty field_name text

@[simp] theorem require_non_empty_if_set_eq_ok {field_name : String} {value : Option String} :
    require_non_empty_if_set field_name value = .ok u ↔ value ≠ some "" := by
  cases value <;> simp [require_non_empty_if_set]

end CodingAgentLoop
