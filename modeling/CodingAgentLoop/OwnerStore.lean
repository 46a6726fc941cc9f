/-
The session owner stores (`server/stores/session_owner_store.py`,
`agentkit/storage/pg.py`).

A session has at most one owner row: who owns it, until when, under which fencing
token. SQLite runs each operation in one transaction; PostgreSQL runs each as one
statement, except `acquire_authority`, which locks the row. Five operations write the
row, under different conditions, and the sixth call is the check that every fenced
write makes.

Tokens and instants are integers, the latter in microseconds. A lease is given in
seconds; `timedelta` is the rounding of that number to microseconds, which SQLite
leaves to Python and PostgreSQL to `make_interval`. SQLite compares the ISO texts of
instants, in the order of the instants.
-/
import CodingAgentLoop.Tables
import CodingAgentLoop.Lib.Lease

open Lib

namespace CodingAgentLoop

/-- `session_owners`, without the audit columns. -/
structure OwnerRow where
  owner_id : String
  lease_expires_at : Int
  fencing_token : Int

abbrev OwnerRows := Table String OwnerRow

/-- `OwnerAuthority`, as the owner stores issue it. -/
structure SessionAuthority where
  session_id : String
  owner_id : String
  epoch : Int
  deriving DecidableEq

def require_owner_input (session_id owner_id : String) (lease_seconds : Rat)
    (fencing_token : Int) : Except StoreError Unit := do
  raise_if (is_blank session_id) .ValueError "session_id must be non-empty"
  raise_if (is_blank owner_id) .ValueError "owner_id must be non-empty"
  raise_if (lease_seconds ≤ 0) .ValueError "lease_seconds must be positive"
  raise_if (fencing_token ≤ 0) .ValueError "fencing_token must be positive"

def bind_integer (value : Int) : Except StoreError Unit :=
  raise_if (value < -9223372036854775808 ∨ 9223372036854775807 < value) .OverflowError
    "integer out of range"

/-- The row belongs to the owner, under the token, and its lease is live. -/
def OwnerRow.owned_by (row : OwnerRow) (now : Int) (owner_id : String) (fencing_token : Int) :
    Bool :=
  row.owner_id = owner_id ∧ now < row.lease_expires_at ∧ row.fencing_token = fencing_token

section Stores

variable (timedelta : Rat → Int) (rows : OwnerRows) (now : Int)

def leased (owner_id : String) (lease_seconds : Rat) (fencing_token : Int) : OwnerRow where
  owner_id
  lease_expires_at := now + timedelta lease_seconds
  fencing_token

namespace SQLiteSessionOwnerStore

/-- The answer of an acquisition that writes nothing. -/
def standing (row : Option OwnerRow) (owner_id : String) (fencing_token : Int) : Option Bool :=
  match row with
  | none => none
  | some row =>
    if now < row.lease_expires_at then
      some (row.owner_id = owner_id ∧ row.fencing_token = fencing_token)
    else if row.owner_id ≠ owner_id ∧ fencing_token ≤ row.fencing_token then some false
    else if row.owner_id = owner_id ∧ fencing_token < row.fencing_token then some false
    else none

section

variable (session_id owner_id : String)

def acquire (lease_seconds : Rat) (fencing_token : Int) :
    Except StoreError (OwnerRows × Bool) := do
  require_owner_input session_id owner_id lease_seconds fencing_token
  match standing now (rows.row session_id) owner_id fencing_token with
  | some answer => return (rows, answer)
  | none => do
      bind_integer fencing_token
      return (rows.put session_id (leased timedelta now owner_id lease_seconds fencing_token), true)

def renew (lease_seconds : Rat)
    (new_fencing_token current_fencing_token : Int) : Except StoreError (OwnerRows × Bool) := do
  require_owner_input session_id owner_id lease_seconds new_fencing_token
  raise_if (current_fencing_token ≤ 0) .ValueError "current_fencing_token must be positive"
  bind_integer new_fencing_token
  bind_integer current_fencing_token
  if (rows.row session_id).any (·.owned_by now owner_id current_fencing_token) then
    return (rows.put session_id
      (leased timedelta now owner_id lease_seconds new_fencing_token), true)
  else return (rows, false)

def release (fencing_token : Int) :
    Except StoreError (OwnerRows × Bool) := do
  require_owner_input session_id owner_id 1 fencing_token
  bind_integer fencing_token
  if (rows.row session_id).any (fun row =>
      row.owner_id = owner_id ∧ row.fencing_token = fencing_token) then
    return (rows.erase session_id, true)
  else return (rows, false)

end

/-- The epoch an authority gets. -/
def next_epoch (row : Option OwnerRow) (owner_id : String) : Except StoreError Int :=
  match row with
  | none => .ok 1
  | some row => do
      raise_if (now < row.lease_expires_at ∧ row.owner_id ≠ owner_id)
        .SessionOwnershipConflictError "stale owner or fencing token rejected"
      if now < row.lease_expires_at then return row.fencing_token
      else return row.fencing_token + 1

def acquire_authority (session_id owner_id : String) (lease_seconds : Rat) :
    Except StoreError (OwnerRows × SessionAuthority) := do
  require_owner_input session_id owner_id lease_seconds 1
  let epoch ← next_epoch now (rows.row session_id) owner_id
  bind_integer epoch
  return (rows.put session_id (leased timedelta now owner_id lease_seconds epoch),
    { session_id, owner_id, epoch })

def renew_authority (authority : SessionAuthority) (lease_seconds : Rat) :
    Except StoreError (OwnerRows × SessionAuthority) := do
  require_owner_input authority.session_id authority.owner_id lease_seconds authority.epoch
  bind_integer authority.epoch
  raise_if ((rows.row authority.session_id).any
      (·.owned_by now authority.owner_id authority.epoch) = false)
    .SessionOwnershipConflictError "stale owner or fencing token rejected"
  return (rows.put authority.session_id
    (leased timedelta now authority.owner_id lease_seconds authority.epoch), authority)

end SQLiteSessionOwnerStore

namespace PGSessionOwnerStore

section

variable (session_id owner_id : String)

/-- `acquire`: `_ACQUIRE_SQL`, which validates nothing. -/
def acquire (lease_seconds : Rat) (fencing_token : Int) :
    Except StoreError (OwnerRows × Bool) := do
  bind_integer fencing_token
  if (rows.row session_id).all (fun row => row.lease_expires_at ≤ now) then
    return (rows.put session_id (leased timedelta now owner_id lease_seconds fencing_token), true)
  else return (rows, false)

/-- `renew`: `_RENEW_SQL`. -/
def renew (lease_seconds : Rat)
    (new_fencing_token current_fencing_token : Int) : Except StoreError (OwnerRows × Bool) := do
  bind_integer new_fencing_token
  bind_integer current_fencing_token
  if (rows.row session_id).any (·.owned_by now owner_id current_fencing_token) then
    return (rows.put session_id
      (leased timedelta now owner_id lease_seconds new_fencing_token), true)
  else return (rows, false)

/-- `release`: `_RELEASE_SQL`. -/
def release (fencing_token : Int) :
    Except StoreError (OwnerRows × Bool) := do
  bind_integer fencing_token
  if (rows.row session_id).any (fun row =>
      row.owner_id = owner_id ∧ row.fencing_token = fencing_token) then
    return (rows.erase session_id, true)
  else return (rows, false)

end

end PGSessionOwnerStore

namespace SessionOwnerStore

/-- The lock of `acquire_authority`: the row that is there, or a new one at epoch 1. -/
def locked_row (row : Option OwnerRow) (owner_id : String) (lease_seconds : Rat) : OwnerRow :=
  row.getD (leased timedelta now owner_id lease_seconds 1)

/-- `acquire_authority`: a live row keeps its lease, an expired one is taken. -/
def acquire_authority (session_id owner_id : String) (lease_seconds : Rat) :
    Except StoreError (OwnerRows × SessionAuthority) := do
  raise_if (session_id = "") .ValueError "session_id must be non-empty"
  raise_if (owner_id = "") .ValueError "owner_id must be non-empty"
  raise_if (lease_seconds ≤ 0) .ValueError "lease_seconds must be positive"
  let row := locked_row timedelta now (rows.row session_id) owner_id lease_seconds
  if now < row.lease_expires_at then do
    raise_if (row.owner_id ≠ owner_id) .SessionOwnershipConflictError
      "stale owner or fencing token rejected"
    return (rows.put session_id row, { session_id, owner_id, epoch := row.fencing_token })
  else do
    bind_integer (row.fencing_token + 1)
    return (rows.put session_id
        (leased timedelta now owner_id lease_seconds (row.fencing_token + 1)),
      { session_id, owner_id, epoch := row.fencing_token + 1 })

def renew_authority (authority : SessionAuthority) (lease_seconds : Rat) :
    Except StoreError (OwnerRows × SessionAuthority) := do
  let (rows, renewed) ← PGSessionOwnerStore.renew timedelta rows now authority.session_id
    authority.owner_id lease_seconds authority.epoch authority.epoch
  raise_if (renewed = false) .SessionOwnershipConflictError "stale owner or fencing token rejected"
  return (rows, authority)

end SessionOwnerStore

/-- `_assert_authority` on the owner table. -/
def assert_session_authority (authority : SessionAuthority) : Except StoreError Unit :=
  match rows.row authority.session_id with
  | none => raise .SessionOwnershipConflictError "session owner lease is missing"
  | some row => do
      raise_if (row.lease_expires_at ≤ now) .SessionOwnershipConflictError
        "session owner lease has expired"
      raise_if (row.owner_id ≠ authority.owner_id ∨ row.fencing_token ≠ authority.epoch)
        .SessionOwnershipConflictError "stale owner or fencing token rejected"

end Stores

/-! ## Runs -/

inductive OwnerBackend where
  | sqlite
  | postgres

/-- The operations of an owner store, and the check of a fenced write. -/
inductive OwnerCall where
  | acquire (session_id owner_id : String) (lease_seconds : Rat) (fencing_token : Int)
  | renew (session_id owner_id : String) (lease_seconds : Rat)
      (new_fencing_token current_fencing_token : Int)
  | release (session_id owner_id : String) (fencing_token : Int)
  | acquire_authority (session_id owner_id : String) (lease_seconds : Rat)
  | renew_authority (authority : SessionAuthority) (lease_seconds : Rat)
  | assert_authority (authority : SessionAuthority)

/-- What a call returns. -/
inductive OwnerAnswer where
  | granted (granted : Bool)
  | authority (authority : SessionAuthority)
  | passed
  deriving DecidableEq

/-- A call, performed on the owner table at the clock reading `now`. -/
def OwnerBackend.perform (backend : OwnerBackend) (timedelta : Rat → Int) (rows : OwnerRows)
    (now : Int) : OwnerCall → Except StoreError (OwnerRows × OwnerAnswer)
  | .acquire session_id owner_id lease_seconds fencing_token =>
    Prod.map id .granted <$> match backend with
      | .sqlite => SQLiteSessionOwnerStore.acquire timedelta rows now session_id owner_id
          lease_seconds fencing_token
      | .postgres => PGSessionOwnerStore.acquire timedelta rows now session_id owner_id
          lease_seconds fencing_token
  | .renew session_id owner_id lease_seconds new_fencing_token current_fencing_token =>
    Prod.map id .granted <$> match backend with
      | .sqlite => SQLiteSessionOwnerStore.renew timedelta rows now session_id owner_id
          lease_seconds new_fencing_token current_fencing_token
      | .postgres => PGSessionOwnerStore.renew timedelta rows now session_id owner_id
          lease_seconds new_fencing_token current_fencing_token
  | .release session_id owner_id fencing_token =>
    Prod.map id .granted <$> match backend with
      | .sqlite => SQLiteSessionOwnerStore.release rows session_id owner_id fencing_token
      | .postgres => PGSessionOwnerStore.release rows session_id owner_id fencing_token
  | .acquire_authority session_id owner_id lease_seconds =>
    Prod.map id .authority <$> match backend with
      | .sqlite => SQLiteSessionOwnerStore.acquire_authority timedelta rows now session_id
          owner_id lease_seconds
      | .postgres => SessionOwnerStore.acquire_authority timedelta rows now session_id
          owner_id lease_seconds
  | .renew_authority authority lease_seconds =>
    Prod.map id .authority <$> match backend with
      | .sqlite => SQLiteSessionOwnerStore.renew_authority timedelta rows now authority
          lease_seconds
      | .postgres => SessionOwnerStore.renew_authority timedelta rows now authority
          lease_seconds
  | .assert_authority authority =>
    (fun _ => (rows, .passed)) <$> assert_session_authority rows now authority

/-- A call, when it was made, and what it returned or raised. -/
structure OwnerEvent where
  now : Int
  call : OwnerCall
  answer : Except StoreError OwnerAnswer

/-- The owner table and the last clock reading. -/
structure OwnerState where
  rows : OwnerRows
  clock : Int

/-- One call: an exception rolls its transaction back. -/
def OwnerStep (backend : OwnerBackend) (timedelta : Rat → Int) (state : OwnerState)
    (event : OwnerEvent) (state' : OwnerState) : Prop :=
  state.clock ≤ event.now ∧ state'.clock = event.now ∧
    match backend.perform timedelta state.rows event.now event.call with
    | .ok (rows, answer) => event.answer = .ok answer ∧ state'.rows = rows
    | .error error => event.answer = .error error ∧ state'.rows = state.rows

/-- A run of an owner store from an empty table, at non-decreasing times. -/
abbrev OwnerRun (backend : OwnerBackend) (timedelta : Rat → Int) (start : Int)
    (events : List OwnerEvent) (state : OwnerState) : Prop :=
  Run (OwnerStep backend timedelta) ⟨∅, start⟩ events state

/-! ## Scripts -/

section

variable (backend : OwnerBackend) (timedelta : Rat → Int) (state : OwnerState) (now : Int) (call : OwnerCall)

def OwnerState.event : OwnerEvent where
  now
  call
  answer := Prod.snd <$> backend.perform timedelta state.rows now call

def OwnerState.next : OwnerState where
  rows := match backend.perform timedelta state.rows now call with
    | .ok (rows, _) => rows
    | .error _ => state.rows
  clock := now

end

/-- The events and the last state of a script of calls. -/
def play_owner (backend : OwnerBackend) (timedelta : Rat → Int) :
    OwnerState → List (Int × OwnerCall) → List OwnerEvent × OwnerState
  | state, [] => ([], state)
  | state, (now, call) :: rest =>
    let played := play_owner backend timedelta (state.next backend timedelta now call) rest
    (state.event backend timedelta now call :: played.1, played.2)

theorem OwnerState.step {backend : OwnerBackend} {timedelta : Rat → Int} {state : OwnerState}
    {now : Int} (call : OwnerCall) (h : state.clock ≤ now) :
    OwnerStep backend timedelta state (state.event backend timedelta now call)
      (state.next backend timedelta now call) := by
  refine ⟨h, rfl, ?_⟩
  unfold OwnerState.event OwnerState.next
  cases hperform : backend.perform timedelta state.rows now call with
  | ok result => simp [hperform]
  | error error => simp [hperform]

/-- **Every script at non-decreasing times runs.** -/
theorem play_owner_run {backend : OwnerBackend} {timedelta : Rat → Int} {state : OwnerState}
    {script : List (Int × OwnerCall)}
    (h : List.IsChain (· ≤ ·) (state.clock :: script.map Prod.fst)) :
    Run (OwnerStep backend timedelta) state (play_owner backend timedelta state script).1
      (play_owner backend timedelta state script).2 := by
  induction script generalizing state with
  | nil => exact Run.refl
  | cons input rest ih =>
    obtain ⟨now, call⟩ := input
    rw [List.map_cons, List.isChain_cons_cons] at h
    have hfirst := Run.single (@OwnerState.step backend timedelta state now call h.1)
    exact hfirst.append (ih h.2)

end CodingAgentLoop
