/-
The SQLite tables of the local durable store
(`coding_agent/stores/local_durable/core.py`), and the reads every operation
starts with.

A row holds decoded values: a payload column is the record its JSON text was
written from. Columns that repeat a payload field and are never read on their
own are the record's fields. Every table is keyed by the primary key of its
schema; the `UNIQUE` constraints beside it are checked where a row is inserted.

A transaction runs on a copy of the tables: an operation returns the new tables
or raises, and raising rolls back, which is what leaving
`with self._connect() as connection` by an exception does after
`BEGIN IMMEDIATE`.
-/
import CodingAgentLoop.UnitOfWork
import CodingAgentLoop.Lib.Table

open Lib

namespace CodingAgentLoop

/-! ## Rows -/

/-- `session_owners`. -/
structure SessionOwnerRecord where
  owner_id : String
  lease_expires_at : Datetime
  fencing_token : Nat

/-- `session_fact_source`, without the trusted-handoff columns. -/
structure FactSource where
  session_seq : Nat
  retention_floor : Nat
  projection : String
  projection_epoch : Nat
  dispatch_generation : Nat

/-- `session_event_records`. -/
structure EventRow where
  event_id : String
  event_kind : String
  payload : JsonObject
  created_at : Datetime
  projection_epoch : Nat

/-- `session_mailbox_slots`. The admission columns are null on a legacy slot. -/
structure MailboxRow where
  lane : String
  disposition : String
  admitted_session_seq : Option Nat := none
  admitted_dispatch_generation : Option Nat := none
  payload : JsonObject

/-- `session_effect_slots`. -/
structure EffectRow where
  status : String
  payload : JsonObject

/-- The primary key of `session_executor_attempts`. -/
structure AttemptKey where
  session_id : String
  effect_id : String
  attempt_id : String
  authorization_transition_id : String
  deriving DecidableEq

def ExecutorAttemptRecord.key (attempt : ExecutorAttemptRecord) : AttemptKey where
  session_id := attempt.session_id
  effect_id := attempt.effect_id
  attempt_id := attempt.attempt_id
  authorization_transition_id := attempt.authorization_transition_id

/-- `session_recovery_leases`. -/
structure RecoveryLeaseRow where
  child_run_id : String
  status : String
  lease : RecoveredChildExecutionLease

/-- `session_receipt_slots`. -/
structure ReceiptSlotRow where
  generation : Nat
  payload : JsonObject
  compensation_effect_id : Option String

structure RawCursor where
  session_id : String
  session_seq : Nat

/-- The `result` column of `session_transition_receipts`: what
`transition_commit_payload` writes and `transition_commit_from_payload` reads. -/
structure TransitionResult where
  state_version : OperationStateVersion
  facts : List EventRecord
  raw_cursor : RawCursor
  effect_plans : List EffectPlan

/-- `session_transition_receipts`. -/
structure TransitionReceiptRow where
  mutation_fingerprint : String
  result : TransitionResult

/-! ## The database -/

structure Tables where
  session_owners : Table String SessionOwnerRecord := ∅
  new_sessions_enabled : Bool := false
  agent_http_sessions : Table String JsonObject := ∅
  session_tapes : Table String String := ∅
  agent_runs : Table String AgentRunRecord := ∅
  session_fact_source : Table String FactSource := ∅
  session_event_records : Table (String × Nat) EventRow := ∅
  session_mailbox_slots : Table (String × String) MailboxRow := ∅
  session_effect_slots : Table (String × String) EffectRow := ∅
  session_effect_reconciliation_evidence :
    Table (String × String) EffectReconciliationEvidence := ∅
  session_executor_attempts : Table AttemptKey ExecutorAttemptRecord := ∅
  session_child_bindings : Table (String × String) ChildExecutionBinding := ∅
  session_recovery_leases : Table (String × String) RecoveryLeaseRow := ∅
  session_receipt_slots : Table (String × String) ReceiptSlotRow := ∅
  session_operation_states : Table (String × String) OperationStateVersion := ∅
  session_transition_receipts : Table (String × Nat × String) TransitionReceiptRow := ∅

def Tables.empty : Tables := {}

def DEFAULT_HARNESS_PROJECTION : String := "default"

/-- The row `_ensure_fact_source` inserts for a new session. -/
def initial_fact_source : FactSource where
  session_seq := 0
  retention_floor := 0
  projection := DEFAULT_HARNESS_PROJECTION
  projection_epoch := 0
  dispatch_generation := 0

section

variable (db : Tables) (session_id : String)

/-- What `_ensure_fact_source` returns: the stored row, or the one it inserts. -/
def Tables.fact_source : FactSource :=
  (db.session_fact_source.row session_id).getD initial_fact_source

/-- `UPDATE session_fact_source`, the row having been ensured. -/
def Tables.set_fact_source (fact_source : FactSource) :
    Tables :=
  { db with session_fact_source := db.session_fact_source.put session_id fact_source }

/-- `_ensure_fact_source`: the database with the session's fact source in place. -/
def Tables.ensure_fact_source : Tables :=
  match db.session_fact_source.row session_id with
  | some _ => db
  | none => db.set_fact_source session_id initial_fact_source

end

@[simp] theorem Tables.fact_source_ensure (db : Tables) (session_id other : String) :
    (db.ensure_fact_source session_id).fact_source other = db.fact_source other := by
  unfold ensure_fact_source
  split
  · rfl
  · next hnone =>
    by_cases h : other = session_id
    · subst h
      simp [fact_source, set_fact_source, hnone]
    · simp [fact_source, set_fact_source, h]

@[simp] theorem Tables.fact_source_set (db : Tables) (session_id other : String)
    (fact_source : FactSource) :
    (db.set_fact_source session_id fact_source).fact_source other
      = if other = session_id then fact_source else db.fact_source other := by
  by_cases h : other = session_id <;> simp [Tables.fact_source, set_fact_source, h]

/-- `_assert_authority`: the session is owned, the lease is live, and the caller
holds it under the current fencing token. -/
def assert_authority (db : Tables) (clock : Datetime) (authority : OwnerAuthority) :
    Except StoreError Unit :=
  match db.session_owners.row authority.session_id with
  | none => raise .SessionOwnershipConflictError "session owner lease is missing"
  | some owner => do
      raise_if (owner.lease_expires_at ≤ clock) .SessionOwnershipConflictError
        "session owner lease has expired"
      raise_if (owner.owner_id ≠ authority.owner_id ∨ owner.fencing_token ≠ authority.epoch)
        .SessionOwnershipConflictError "stale owner or fencing token rejected"

/-- An `INSERT` that the schema refuses when a key is taken. -/
def insert_row {κ ν : Type} [DecidableEq κ] (table : Table κ ν) (key : κ) (value : ν) :
    Except StoreError (Table κ ν) :=
  match table.insert_new key value with
  | some table' => .ok table'
  | none => raise .IntegrityError "UNIQUE constraint failed"

theorem insert_row_eq_ok {κ ν : Type} [DecidableEq κ] {table table' : Table κ ν} {key : κ}
    {value : ν} :
    insert_row table key value = .ok table' ↔
      table.row key = none ∧ table' = table.put key value := by
  rw [← Table.insert_new_eq_some]
  unfold insert_row
  cases table.insert_new key value <;> simp

end CodingAgentLoop
