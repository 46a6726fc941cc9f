/-
The reference model of compensations (`CompensationLedger` of
`coding_agent/harness/compensation.py`).

The ledger numbers effects. An effect that waits for an approval is an attempt of its own; a
compensation is an attempt under the original effect it makes good, and the attempts under one
original carry generations. An attempt is prepared, dispatched, perhaps unknown, and then failed
or completed; a completed attempt's settlement is resolved once.

Every method holds the ledger's lock from its first read on, so a call is one step. A method that
raises leaves what it wrote before: the actions below keep the state across an error.
-/
import CodingAgentLoop.Errors
import CodingAgentLoop.Lib.Json
import CodingAgentLoop.Lib.Stateful
import CodingAgentLoop.Lib.Table
import Mathlib.Data.List.MinMax

namespace CodingAgentLoop

open Lib Action

/-! ## States of an attempt -/

/-- `_ATTEMPT_STATES`. -/
inductive CompensationState where
  | prepared
  | dispatched
  | unknown
  | failed
  | completed
  deriving DecidableEq

def CompensationState.name : CompensationState → String
  | .prepared => "prepared"
  | .dispatched => "dispatched"
  | .unknown => "unknown"
  | .failed => "failed"
  | .completed => "completed"

/-- The state a text names, if `text in _ATTEMPT_STATES`. -/
def CompensationState.of_name? (text : String) : Option CompensationState :=
  [.prepared, .dispatched, .unknown, .failed, .completed].find? (fun state => state.name = text)

def ATTEMPT_TRANSITIONS : CompensationState → List CompensationState
  | .prepared => [.dispatched]
  | .dispatched => [.unknown, .failed, .completed]
  | .unknown => [.failed, .completed]
  | .failed => []
  | .completed => []

def TERMINAL_ATTEMPT_STATES : List CompensationState := [.failed, .completed]

/-- `_SETTLEMENT_STATES`. -/
inductive CompensationSettlement where
  | absent
  | resolved
  deriving DecidableEq

/-! ## Records -/

inductive CompensationError where
  | CompensationAdmissionError (code : String)
  | raised (cls : ErrorClass) (message : String)

structure ApprovalWait where
  session_id : String
  run_id : String
  approval_id : String
  effect_id : Int

structure ApprovalResult where
  effect_id : Int
  dispatched : Bool
  dispatch_count : Nat
  reason : Option String := none

structure CompensationReceipt where
  generation : Int
  compensation_effect_id : Int
  attempt_state : CompensationState
  settlement : CompensationSettlement

structure RepairResult where
  atomic_writes : List (String × String)
  transaction_count : Nat

/-- `_Attempt`. -/
structure CompensationAttempt where
  original_effect_id : Int
  generation : Int
  state : CompensationState
  settlement : CompensationSettlement
  session_id : String
  dispatch_count : Nat := 0

/-- `_ReceiptIdentity`. -/
structure ReceiptIdentity where
  generation : Int
  compensation_effect_id : Int

structure CompensationLedger where
  next_effect_id : Int
  approval_waits : Table String ApprovalWait := ∅
  attempts : Table Int CompensationAttempt := ∅
  attempts_by_original : Table Int (List Int) := ∅
  receipts : Table (String × Int × String) ReceiptIdentity := ∅
  cas : Table Int Nat := ∅
  projection_epoch : Int := 0
  checkpoint_id : Option String := none

abbrev LedgerAction (α : Type) : Type := Action CompensationLedger CompensationError α

/-! ## Reading the ledger -/

namespace CompensationLedger

/-- `CompensationLedger(first_effect_id=...)`. -/
def init (first_effect_id : Int) : Except CompensationError CompensationLedger :=
  if first_effect_id < 0 then
    .error (.raised .ValueError "first_effect_id must be non-negative")
  else .ok { next_effect_id := first_effect_id }

section

variable (ledger : CompensationLedger)

def attempt_ids (original_effect_id : Int) : List Int :=
  (ledger.attempts_by_original.row original_effect_id).getD []

/-- The generation of an attempt; the ids that are listed all have one. -/
def generation_of (effect_id : Int) : Int :=
  ((ledger.attempts.row effect_id).map (·.generation)).getD 0

def latest_attempt (original_effect_id : Int) : Option (Int × CompensationAttempt) :=
  (@List.argmax _ _ Int.instLinearOrder.toPreorder Int.decLt ledger.generation_of
      (ledger.attempt_ids original_effect_id)).bind
    (fun effect_id => (ledger.attempts.row effect_id).map (fun attempt => (effect_id, attempt)))

def compensation_cas (original_effect_id : Int) : Nat :=
  (ledger.cas.row original_effect_id).getD 0

def classify (original_effect_id : Int) : String :=
  match ledger.latest_attempt original_effect_id with
  | none => "admissible"
  | some (_, attempt) =>
    if attempt.settlement = .resolved then "already_resolved"
    else if attempt.state = .completed then "repair_only"
    else "admissible"

def put_attempt (effect_id : Int) (attempt : CompensationAttempt) : CompensationLedger :=
  { ledger with attempts := ledger.attempts.put effect_id attempt }

def bump_cas (original_effect_id : Int) : CompensationLedger :=
  { ledger with
    cas := ledger.cas.put original_effect_id (ledger.compensation_cas original_effect_id + 1) }

end

end CompensationLedger

/-! ## The checks of a call -/

namespace CompensationCall

def refuse {α : Type} (cls : ErrorClass) (message : String) : LedgerAction α :=
  Action.raise (.raised cls message)

def session_of? (fence : JsonObject) : Option String :=
  (fence.get "session_id").str?.filter (fun session_id => session_id ≠ "")

def session_id (fence : JsonObject) : LedgerAction String :=
  match session_of? fence with
  | none => refuse .ValueError "fence requires a non-empty session_id"
  | some session_id => pure session_id

def generation? : Json → Option Int
  | .int generation => if generation < 1 then none else some generation
  | _ => none

/-- `self._attempts[effect_id]`. -/
def get_attempt (effect_id : Int) : LedgerAction CompensationAttempt := do
  let ledger ← Action.get
  match ledger.attempts.row effect_id with
  | none => refuse .KeyError (toString effect_id)
  | some attempt => pure attempt

def require_target_owner (attempt : CompensationAttempt) (session_id : String) :
    LedgerAction Unit :=
  when (attempt.session_id ≠ session_id)
    (refuse .ValueError "target effect belongs to another session")

def receipt (identity : ReceiptIdentity) : LedgerAction CompensationReceipt := do
  let attempt ← get_attempt identity.compensation_effect_id
  pure
    { generation := identity.generation
      compensation_effect_id := identity.compensation_effect_id
      attempt_state := attempt.state
      settlement := attempt.settlement }

/-! ## The calls -/

def establish_approval_wait (fence : JsonObject) (run_id approval_id : String) :
    LedgerAction ApprovalWait := do
  let session_id ← session_id fence
  let ledger ← Action.get
  match ledger.approval_waits.row approval_id with
  | some existing => do
      when (existing.session_id ≠ session_id)
        (refuse .ValueError "approval_id belongs to another session")
      pure existing
  | none => do
      let effect_id := ledger.next_effect_id
      let wait : ApprovalWait := { session_id, run_id, approval_id, effect_id }
      Action.modify (fun ledger =>
        { ledger with
          next_effect_id := effect_id + 1
          approval_waits := ledger.approval_waits.put approval_id wait
          attempts := ledger.attempts.put effect_id
            { original_effect_id := effect_id
              generation := 0
              state := .prepared
              settlement := .absent
              session_id } })
      pure wait

def restore (checkpoint_id : String) (projection_epoch : Int) : LedgerAction Unit :=
  Action.modify (fun ledger =>
    { ledger with checkpoint_id := some checkpoint_id, projection_epoch })

def approve (fence : JsonObject) (approval_id : String) : LedgerAction ApprovalResult := do
  let session_id ← session_id fence
  let ledger ← Action.get
  match ledger.approval_waits.row approval_id with
  | none => refuse .KeyError approval_id
  | some wait => do
      when (wait.session_id ≠ session_id)
        (refuse .ValueError "approval_id belongs to another session")
      let attempt ← get_attempt wait.effect_id
      let blocked (dispatch_count : Nat) : ApprovalResult :=
        { effect_id := wait.effect_id
          dispatched := false
          dispatch_count
          reason := some ("attempt_" ++ attempt.state.name ++ "_blocks_redispatch") }
      match attempt.state with
      | .dispatched | .unknown => do
          let dispatch_count := if attempt.dispatch_count = 0 then 1 else attempt.dispatch_count
          when (attempt.dispatch_count = 0)
            (Action.modify (fun ledger =>
              ledger.put_attempt wait.effect_id { attempt with dispatch_count }))
          pure (blocked dispatch_count)
      | .prepared => do
          let dispatch_count := attempt.dispatch_count + 1
          Action.modify (fun ledger =>
            ledger.put_attempt wait.effect_id
              { attempt with state := .dispatched, dispatch_count })
          pure { effect_id := wait.effect_id, dispatched := true, dispatch_count }
      | .failed | .completed => pure (blocked attempt.dispatch_count)

/-- The attempt in its next state: dispatched for the first time, it counts as dispatched. -/
def moved (attempt : CompensationAttempt) (state : CompensationState) : CompensationAttempt :=
  { attempt with
    state
    dispatch_count :=
      if state = .dispatched ∧ attempt.dispatch_count = 0 then 1 else attempt.dispatch_count }

/-- The rest of `set_attempt_state`, once a prepared attempt is promoted. -/
def move_attempt (effect_id : Int) (state : CompensationState) : LedgerAction Unit := do
  let attempt ← get_attempt effect_id
  when (state ∉ ATTEMPT_TRANSITIONS attempt.state)
    (refuse .ValueError
      ("illegal attempt transition: " ++ attempt.state.name ++ " -> " ++ state.name))
  Action.modify (fun ledger => ledger.put_attempt effect_id (moved attempt state))

/-- `set_attempt_state(effect_id, state)`: a prepared attempt is first promoted to dispatched. -/
def set_attempt_state (effect_id : Int) (state : String) : LedgerAction Unit :=
  match CompensationState.of_name? state with
  | none => refuse .ValueError ("invalid attempt state: " ++ state)
  | some state => do
      let attempt ← get_attempt effect_id
      when (attempt.state = .prepared ∧ state ∈ [.unknown, .failed, .completed])
        (Action.modify (fun ledger =>
          ledger.put_attempt effect_id { attempt with state := .dispatched, dispatch_count := 1 }))
      move_attempt effect_id state

/-- A check of the latest attempt under an original, if there is one. -/
def check_latest (latest : Option (Int × CompensationAttempt))
    (check : CompensationAttempt → LedgerAction Unit) : LedgerAction Unit :=
  match latest with
  | none => pure ()
  | some (_, attempt) => check attempt

/-- The checks of `compensate` once the key is known to be new. -/
def check_admission (ledger : CompensationLedger) (original_effect_id : Int)
    (session_id : String) (generation : Int) : LedgerAction Unit := do
  let latest := ledger.latest_attempt original_effect_id
  check_latest latest (fun attempt => require_target_owner attempt session_id)
  let classification := ledger.classify original_effect_id
  when (classification ≠ "admissible")
    (Action.raise (.CompensationAdmissionError classification))
  check_latest latest (fun attempt =>
    when (generation ≠ attempt.generation + 1)
      (Action.raise (.CompensationAdmissionError "invalid_generation")))

/-- The writes of `compensate`: the attempt, its place under the original, and the receipt. -/
def record_admission (ledger : CompensationLedger) (session_id : String) (original_effect_id : Int)
    (client_key : String) (generation : Int) : CompensationLedger :=
  let effect_id := ledger.next_effect_id
  CompensationLedger.bump_cas
    { ledger with
      next_effect_id := effect_id + 1
      attempts := ledger.attempts.put effect_id
        { original_effect_id, generation, state := .prepared, settlement := .absent, session_id }
      attempts_by_original := ledger.attempts_by_original.put original_effect_id
        (ledger.attempt_ids original_effect_id ++ [effect_id])
      receipts := ledger.receipts.put (session_id, original_effect_id, client_key)
        { generation, compensation_effect_id := effect_id } }
    original_effect_id

def compensate (fence : JsonObject) (original_effect_id : Int) (client_key : String)
    (generation : Json) : LedgerAction CompensationReceipt :=
  match generation? generation with
  | none => Action.raise (.CompensationAdmissionError "invalid_generation")
  | some generation => do
      let session_id ← session_id fence
      let ledger ← Action.get
      match ledger.receipts.row (session_id, original_effect_id, client_key) with
      | some existing => receipt existing
      | none => do
          check_admission ledger original_effect_id session_id generation
          Action.modify (fun ledger =>
            record_admission ledger session_id original_effect_id client_key generation)
          receipt { generation, compensation_effect_id := ledger.next_effect_id }

def resolve_settlement (effect_id : Int) : LedgerAction Unit := do
  let attempt ← get_attempt effect_id
  when (attempt.state ≠ .completed)
    (refuse .ValueError "settlement requires a completed attempt")
  Action.modify (fun ledger =>
    ledger.put_attempt effect_id { attempt with settlement := .resolved })

/-- What `repair` does to the latest attempt, and the writes it lists. -/
def repaired (attempt : CompensationAttempt) (observation : String) :
    Except CompensationError (CompensationAttempt × List (String × String)) :=
  if attempt.settlement ≠ .resolved ∧ observation = "observed_failed" then
    if attempt.state ∉ TERMINAL_ATTEMPT_STATES then
      .ok ({ attempt with state := .failed }, [("attempt_a", "failed")])
    else .ok (attempt, [])
  else if attempt.settlement ≠ .resolved ∧ observation = "observed_completed" then
    if attempt.state = .failed then
      .error (.raised .ValueError "cannot repair failed attempt as completed")
    else if attempt.state ≠ .completed then
      .ok ({ attempt with state := .completed, settlement := .resolved },
        [("attempt_a", "completed"), ("settlement_b", "resolved")])
    else
      .ok ({ attempt with settlement := .resolved }, [("settlement_b", "resolved")])
  else .ok (attempt, [])

def repair (fence : JsonObject) (original_effect_id : Int) (observation : String) :
    LedgerAction RepairResult := do
  let session_id ← session_id fence
  when (observation ∉ ["unobserved", "observed_failed", "observed_completed"])
    (refuse .ValueError ("invalid repair observation: " ++ observation))
  let ledger ← Action.get
  match ledger.latest_attempt original_effect_id with
  | none => refuse .KeyError (toString original_effect_id)
  | some (effect_id, attempt) => do
      require_target_owner attempt session_id
      let repair ← lift (repaired attempt observation)
      when (repair.2 ≠ [])
        (Action.modify (fun ledger =>
          (ledger.put_attempt effect_id repair.1).bump_cas original_effect_id))
      pure { atomic_writes := repair.2, transaction_count := if repair.2 = [] then 0 else 1 }

end CompensationCall

end CodingAgentLoop
