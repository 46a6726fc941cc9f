/-
A session that goes back to a checkpoint (`coding_agent/runs/checkpoint_restore.py`,
`coding_agent/server/session/restore.py`).

`CheckpointRestoreService.restore` checks the snapshot, prepares a new runtime, closes the old
one, rewrites the session object and only then turns to the stores. What it does up to the
close changes nothing. What comes after it can still raise, and nothing is then put back, neither
on the session nor in the stores.

A transaction of a store goes through or raises and leaves the store as it was. The objects of a
runtime are known by their identities. `prepare_runtime`, the close of an adapter and the
session's payload are parameters.
-/
import CodingAgentLoop.ChildApproval
import CodingAgentLoop.TapeStoreAgreement

namespace CodingAgentLoop.CheckpointRestore

open Lib Action

open ChildApproval (ApprovalPolicy)

/-! ## The session and its runtime -/

abbrev ObjectId := Nat

/-- `RuntimeBindingSnapshot`: what a session is bound to. -/
structure RuntimeBinding where
  pipeline : Option ObjectId := none
  ctx : Option ObjectId := none
  adapter : Option ObjectId := none

/-- `CheckpointRestoredRuntime`, whose context has a tape. -/
structure CheckpointRestoredRuntime where
  pipeline : ObjectId
  ctx : ObjectId
  ctx_tape_id : String
  adapter : ObjectId

structure CheckpointSessionConfig where
  provider_name : Option String
  model_name : Option String
  base_url : Option String
  max_steps : Int
  approval_policy : ApprovalPolicy

/-- The part of a `Session` that is restored. -/
structure RestoreSession extends CheckpointSessionConfig where
  id : String
  tape_id : Option String
  provider : Option ObjectId := none
  runtime : RuntimeBinding := {}
  current_turn_id : Option String := none

def RestoreSession.detach_runtime_adapter (session : RestoreSession) : RestoreSession :=
  { session with runtime := {} }

def RestoreSession.attach_runtime_binding (session : RestoreSession)
    (pipeline ctx adapter : ObjectId) : RestoreSession :=
  { session with
    runtime := { pipeline := some pipeline, ctx := some ctx, adapter := some adapter } }

/-! ## The configuration of a checkpoint -/

def CHECKPOINT_SESSION_CONFIG_KEY : String := "session_restart_config"

/-- The keys a stored configuration must have, in the order they are reported in. -/
def required_config_keys : List String :=
  ["approval_policy", "base_url", "max_steps", "model_name", "provider_name"]

def config_name (raw : JsonObject) (key : String) : Except StoreError (Option String) :=
  match raw.get key with
  | .null => .ok none
  | .str value => .ok (some value)
  | _ => raise .TypeError ("checkpoint session config has invalid " ++ key)

/-- `max_steps`. A truth value is an integer. -/
def config_max_steps (raw : JsonObject) : Except StoreError Int :=
  match raw.get "max_steps" with
  | .int value => .ok value
  | .bool value => .ok value.toNat
  | _ => raise .TypeError "checkpoint session config has invalid max_steps"

/-- `ApprovalPolicy(value)`. -/
def config_approval_policy (raw : JsonObject) : Except StoreError ApprovalPolicy :=
  match raw.get "approval_policy" with
  | .str value =>
    match ChildApproval.approval_policy_map value with
    | some policy => .ok policy
    | none => raise .ValueError ("'" ++ value ++ "' is not a valid ApprovalPolicy")
  | _ => raise .TypeError "checkpoint session config has invalid approval_policy"

def checkpoint_session_config_from_extra (session : RestoreSession) (extra : JsonObject) :
    Except StoreError CheckpointSessionConfig :=
  match extra.get CHECKPOINT_SESSION_CONFIG_KEY with
  | .null => .ok session.toCheckpointSessionConfig
  | .obj raw => do
      let missing_keys := required_config_keys.filter (fun key => (JsonObject.find raw key).isNone)
      raise_if (missing_keys ≠ []) .TypeError
        ("checkpoint session config is missing " ++ ", ".intercalate missing_keys)
      let provider_name ← config_name raw "provider_name"
      let model_name ← config_name raw "model_name"
      let base_url ← config_name raw "base_url"
      let max_steps ← config_max_steps raw
      let approval_policy ← config_approval_policy raw
      return { provider_name, model_name, base_url, max_steps, approval_policy }
  | _ => raise .TypeError "checkpoint session config must be an object"

/-! ## The stores -/

/-- A stored `CheckpointSnapshot`, with the start of its window. -/
structure SavedCheckpoint extends CheckpointSnapshot where
  window_start : Nat := 0

/-- What `restore` works on: the session object and the stores. Without a durable store the
payloads of sessions are in a store of their own. -/
structure RestoreWorld where
  session : RestoreSession
  tables : Tables := {}
  checkpoints : Table String SavedCheckpoint := ∅
  tapes : SQLiteTapeStore := {}
  saved_sessions : Table String JsonObject := ∅

/-- The columns of `checkpoints` the restore transaction reads. -/
def RestoreWorld.checkpoint_rows (world : RestoreWorld) : Table String CheckpointRow :=
  (∅ : Table String CheckpointRow).put_all (world.checkpoints.entries.map (fun row =>
    (row.1, ⟨row.2.info.tape_id, row.2.info.session_id.getD "", row.2.info.entry_count⟩)))

inductive StorageCall where
  | load_checkpoint
  | list_agent_runs
  | truncate_tape
  | persist_session
  | list_checkpoints
  | delete_checkpoint (checkpoint_id : String)
  | restore_checkpoint_state

/-- Who restores the stores: `CheckpointRestoreService` itself, or the session manager, which may
have a durable store. -/
inductive RestoreBackend where
  | service
  | manager
  | manager_durable

/-- The surroundings of a restore. `outage` is what a call of a store raises before it does
anything. -/
structure RestoreHost where
  backend : RestoreBackend
  outage : StorageCall → Except StoreError Unit := fun _ => .ok ()
  has_runtime_store : Bool := true
  prepare_runtime : RestoreSession → Tape → CheckpointSessionConfig → JsonObject →
    Except StoreError CheckpointRestoredRuntime
  close_adapter : ObjectId → Except StoreError Unit := fun _ => .ok ()
  to_store_data : RestoreSession → Except StoreError JsonObject
  owner_authorities : String → Option OwnerAuthority := fun _ => none
  started_after : Datetime → Datetime → Bool := fun started_at created_at => created_at < started_at
  clock : Datetime := 0

/-- A part of `restore`. -/
abbrev Restoring := Action RestoreWorld StoreError

variable (host : RestoreHost)

/-! ## Up to the close -/

/-- `CheckpointService.restore(checkpoint_id)`. -/
def load_checkpoint (world : RestoreWorld) (checkpoint_id : String) :
    Except StoreError SavedCheckpoint := do
  host.outage .load_checkpoint
  require_non_empty "checkpoint_id" checkpoint_id
  match world.checkpoints.row checkpoint_id with
  | none => raise .KeyError ("Checkpoint '" ++ checkpoint_id ++ "' not found")
  | some snapshot => return snapshot

/-- `session.tape_id`, which must be set. -/
def stable_tape_id (session : RestoreSession) : Except StoreError String :=
  match session.tape_id with
  | none => raise .ValueError "session has no stable tape id"
  | some tape_id => .ok tape_id

/-- What a restore goes back to. -/
structure Prepared where
  snapshot : SavedCheckpoint
  config : CheckpointSessionConfig
  runtime : CheckpointRestoredRuntime

/-- What `restore` does before it closes the runtime. -/
def prepare (world : RestoreWorld) (checkpoint_id : String) : Except StoreError Prepared := do
  let snapshot ← load_checkpoint host world checkpoint_id
  let tape_id ← stable_tape_id world.session
  raise_if (snapshot.info.tape_id ≠ tape_id) .ValueError
    ("Checkpoint " ++ checkpoint_id ++ " belongs to tape " ++ snapshot.info.tape_id
      ++ ", not session tape " ++ tape_id)
  raise_if (snapshot.info.entry_count ≠ snapshot.tape_entries.length) .ValueError
    "checkpoint entry_count does not match snapshot tape_entries length"
  raise_if (snapshot.info.entry_count < snapshot.window_start) .ValueError
    "checkpoint window_start must be <= entry_count"
  let entries ← snapshot.tape_entries.mapM Entry.from_dict
  let restored_tape : Tape := { entries, tape_id, window_start := snapshot.window_start }
  let config ← checkpoint_session_config_from_extra world.session snapshot.extra
  let runtime ← host.prepare_runtime world.session restored_tape config snapshot.plugin_states
  return { snapshot, config, runtime }

/-- `close_adapter(adapter)` of the adapter the session is bound to. -/
def close_session_adapter (session : RestoreSession) : Except StoreError Unit :=
  match session.runtime.adapter with
  | none => .ok ()
  | some adapter => host.close_adapter adapter

/-- `RuntimeCloser.close(session)`: the adapter is detached first. -/
def close_runtime : Restoring Unit := do
  let world ← Action.get
  Action.modify (fun world => { world with session := world.session.detach_runtime_adapter })
  Action.lift (close_session_adapter host world.session)

/-! ## The session is rewritten -/

def RestoreSession.restored (session : RestoreSession) (config : CheckpointSessionConfig)
    (runtime : CheckpointRestoredRuntime) : RestoreSession :=
  let changed := session.provider_name ≠ config.provider_name
    ∨ session.model_name ≠ config.model_name ∨ session.base_url ≠ config.base_url
  let session := { session with
    toCheckpointSessionConfig := config
    tape_id := some runtime.ctx_tape_id
    provider := if changed then none else session.provider }
  session.attach_runtime_binding runtime.pipeline runtime.ctx runtime.adapter

/-! ## The stores follow -/

/-- `truncate(tape_id, keep)`, or what is raised in its place. -/
def truncated (tapes : SQLiteTapeStore) (tape_id : String) (keep : Nat) :
    Except StoreError SQLiteTapeStore := do
  host.outage .truncate_tape
  tapes.truncate tape_id keep

/-- `tape_store.truncate(tape_id, keep)`. -/
def truncate_tape (tape_id : String) (keep : Nat) : Restoring Unit := do
  let world ← Action.get
  let tapes ← Action.lift (truncated host world.tapes tape_id keep)
  Action.modify (fun world => { world with tapes })

/-- `_persist_session_async(session)`, where there is no durable store. -/
def persist_session : Restoring Unit := do
  let world ← Action.get
  let payload ← Action.lift (host.to_store_data world.session)
  Action.lift (host.outage .persist_session)
  Action.modify (fun world =>
    { world with saved_sessions := world.saved_sessions.put world.session.id payload })

/-- `CheckpointService.list(tape_id)`: the oldest first. -/
def list_checkpoints (tape_id : String) : Restoring (List CheckpointMeta) := do
  Action.lift (host.outage .list_checkpoints)
  Action.lift (require_non_empty "tape_id" tape_id)
  let world ← Action.get
  let rows := (world.checkpoints.select (fun _ saved => saved.info.tape_id = tape_id)).map
    (fun row => row.2.info)
  return rows.insertionSort (fun one other => one.created_at < other.created_at
    ∨ (one.created_at = other.created_at ∧ one.checkpoint_id ≤ other.checkpoint_id))

/-- `CheckpointService.delete(checkpoint_id)`. -/
def delete_checkpoint (checkpoint_id : String) : Restoring Unit := do
  Action.lift (host.outage (.delete_checkpoint checkpoint_id))
  Action.lift (require_non_empty "checkpoint_id" checkpoint_id)
  Action.modify (fun world =>
    { world with checkpoints := world.checkpoints.delete_where (fun key _ => key = checkpoint_id) })

/-- The stores are cut back one after another. -/
def rewind_stores (tape_id : String) (entry_count : Nat) : Restoring Unit := do
  truncate_tape host tape_id entry_count
  persist_session host
  let checkpoints ← list_checkpoints host tape_id
  Action.each checkpoints (fun info =>
    Action.when (entry_count < info.entry_count) (delete_checkpoint host info.checkpoint_id))

def list_active_runtime_runs (world : RestoreWorld) : Except StoreError (List AgentRunRecord) :=
  if host.has_runtime_store then do
    host.outage .list_agent_runs
    return ((world.tables.agent_runs.select (fun _ run =>
      run.session_id = world.session.id ∧ run.superseded_at = none)).map Prod.snd)
  else .ok []

/-- `max(runs, key=lambda run: (run.started_at, run.run_id))`: the first of the largest. -/
def latest_run : List AgentRunRecord → Option AgentRunRecord
  | [] => none
  | run :: rest => some (rest.foldl (fun latest run =>
    if latest.started_at < run.started_at
        ∨ (latest.started_at = run.started_at ∧ latest.run_id < run.run_id) then run
    else latest) run)

def turn_at_checkpoint (runs : List AgentRunRecord) (info : CheckpointMeta) : Option String :=
  (latest_run (runs.filter (fun run => run.started_at ≤ info.created_at))).map (·.run_id)

def owner_authority_for_session (session_id : String) : Except StoreError OwnerAuthority :=
  match host.owner_authorities session_id with
  | some authority => .ok authority
  | none => raise .SessionOwnershipConflictError "durable mutation requires owner authority"

/-- The transaction of `restore_checkpoint_state`, with the rows of the tape. -/
def restored_world (world : RestoreWorld) (authority : OwnerAuthority) (snapshot : SavedCheckpoint)
    (session_payload : JsonObject) : Except StoreError RestoreWorld := do
  check_restore_request authority snapshot.toCheckpointSnapshot session_payload
  host.outage .restore_checkpoint_state
  let store ← CodingAgentLoop.restore_checkpoint_state host.started_after
    { tables := world.tables, checkpoints := world.checkpoint_rows } host.clock authority
    snapshot.toCheckpointSnapshot session_payload
  let rows ← snapshot.tape_entries.mapM SQLiteTapeStore.row_of_entry
  return { world with
    tables := store.tables
    checkpoints := world.checkpoints.delete_where (fun _ saved =>
      saved.info.tape_id = snapshot.info.tape_id
        ∧ saved.info.session_id = some authority.session_id
        ∧ snapshot.info.entry_count < saved.info.entry_count)
    tapes := world.tapes.put snapshot.info.tape_id (Numbered.empty.append_all rows) }

def restore_checkpoint_state (snapshot : SavedCheckpoint) : Restoring Unit := do
  let world ← Action.get
  let authority ← Action.lift (owner_authority_for_session host world.session.id)
  let payload ← Action.lift (host.to_store_data world.session)
  let restored ← Action.lift (restored_world host world authority snapshot payload)
  Action.modify (fun _ => restored)

/-- `_restore_checkpoint_durable_state(session, snapshot)`, with what goes on after the run that
is current has been found. -/
def restore_durable_state (snapshot : SavedCheckpoint) (rest : Restoring Unit) : Restoring Unit := do
  let world ← Action.get
  let runs ← Action.lift (list_active_runtime_runs host world)
  Action.modify (fun world => { world with
    session := { world.session with current_turn_id := turn_at_checkpoint runs snapshot.info } })
  rest

/-- What `restore` does once the session is rewritten. -/
def restore_stores (prepared : Prepared) : Restoring Unit :=
  let entry_count := prepared.snapshot.info.entry_count
  match host.backend with
  | .service => rewind_stores host prepared.runtime.ctx_tape_id entry_count
  | .manager =>
    restore_durable_state host prepared.snapshot
      (rewind_stores host prepared.runtime.ctx_tape_id entry_count)
  | .manager_durable =>
    restore_durable_state host prepared.snapshot (restore_checkpoint_state host prepared.snapshot)

def restore (checkpoint_id : String) : Restoring Unit := do
  let world ← Action.get
  let prepared ← Action.lift (prepare host world checkpoint_id)
  close_runtime host
  Action.modify (fun world =>
    { world with session := world.session.restored prepared.config prepared.runtime })
  restore_stores host prepared

/-! ## All or nothing -/

def RestoreSession.values (session : RestoreSession) : RestoreSession :=
  { session with current_turn_id := none }

/-- The session has its old values, and the stores are as they were. -/
structure Untouched (before after : RestoreWorld) : Prop where
  session : after.session.values = before.session.values
  tapes : after.tapes = before.tapes
  checkpoints : after.checkpoints = before.checkpoints

/-- The session has the restored values, and its tape holds the checkpoint's entries. -/
structure Restored (prepared : Prepared) (before after : RestoreWorld) : Prop where
  session : after.session.values
    = (before.session.restored prepared.config prepared.runtime).values
  tape : after.tapes.load prepared.runtime.ctx_tape_id = .ok prepared.snapshot.tape_entries

def AllOrNothing (checkpoint_id : String) (before after : RestoreWorld) : Prop :=
  Untouched before after ∨
    ∃ prepared, prepare host before checkpoint_id = .ok prepared ∧ Restored prepared before after

def BuildsAnew : Prop :=
  ∀ session tape config plugin_states runtime,
    host.prepare_runtime session tape config plugin_states = .ok runtime →
      session.runtime.adapter ≠ some runtime.adapter

/-- The tapes a restore leaves that raises after the close: the session's is cut if the cut is
reached and goes through, and rewritten by no restore transaction that raises. -/
def tapes_left (world : RestoreWorld) (prepared : Prepared) : SQLiteTapeStore :=
  let cut := (truncated host world.tapes prepared.runtime.ctx_tape_id
    prepared.snapshot.info.entry_count).toOption.getD world.tapes
  match host.backend with
  | .service => cut
  | .manager => if (list_active_runtime_runs host world).toOption.isSome then cut else world.tapes
  | .manager_durable => world.tapes

/-- The snapshot is rejected or no runtime is prepared; or else the old adapter closes and the
tape that is left holds the checkpoint's entries. -/
def LeavesWhole (world : RestoreWorld) (checkpoint_id : String) : Prop :=
  ∀ prepared, prepare host world checkpoint_id = .ok prepared →
    close_session_adapter host world.session = .ok () ∧
      (tapes_left host world prepared).load prepared.runtime.ctx_tape_id
        = .ok prepared.snapshot.tape_entries

variable {host}

/-- What is left by the calls after the rewrite: the values of the session, and these tapes. -/
def Left (session : RestoreSession) (tapes : SQLiteTapeStore) (world : RestoreWorld) : Prop :=
  world.session.values = session.values ∧ world.tapes = tapes

variable {session : RestoreSession} {tapes : SQLiteTapeStore}

theorem persist_session_keeps :
    Preserves (Left session tapes) (persist_session host) :=
  Preserves.get.seq (fun _ => Preserves.lift.seq (fun _ =>
    Preserves.lift.seq (fun _ => Preserves.modify (fun _ h => h))))

theorem list_checkpoints_keeps (tape_id : String) :
    Preserves (Left session tapes) (list_checkpoints host tape_id) :=
  Preserves.lift.seq (fun _ => Preserves.lift.seq (fun _ =>
    Preserves.get.seq (fun _ => Preserves.pure)))

theorem delete_checkpoint_keeps (checkpoint_id : String) :
    Preserves (Left session tapes) (delete_checkpoint host checkpoint_id) :=
  Preserves.lift.seq (fun _ => Preserves.lift.seq (fun _ => Preserves.modify (fun _ h => h)))

theorem truncate_tape_leaves (tape_id : String) (keep : Nat) :
    Ensures (Left session tapes) (truncate_tape host tape_id keep)
      (fun _ => Left session ((truncated host tapes tape_id keep).toOption.getD tapes))
      (Left session ((truncated host tapes tape_id keep).toOption.getD tapes)) := by
  refine Ensures.bind (Q := fun read world => read = world ∧ Left session tapes world)
    (Ensures.get (fun world h => ⟨rfl, h⟩)) (fun read => ?_)
  refine Ensures.bind (Q := fun cut world => truncated host tapes tape_id keep = .ok cut ∧
    Left session tapes world) (Ensures.lift ?_ ?_) (fun cut => Ensures.modify ?_)
  · rintro cut hcut world ⟨rfl, hleft⟩
    exact ⟨hleft.2 ▸ hcut, hleft⟩
  · rintro error herror world ⟨rfl, hleft⟩
    rw [hleft.2] at herror
    rw [herror]
    exact hleft
  · rintro world ⟨hcut, hleft⟩
    rw [hcut]
    exact ⟨hleft.1, rfl⟩

theorem rewind_stores_leaves {session : RestoreSession} {tapes : SQLiteTapeStore} (tape_id : String)
    (entry_count : Nat) :
    Ensures (Left session tapes) (rewind_stores host tape_id entry_count) (fun _ _ => True)
      (Left session ((truncated host tapes tape_id entry_count).toOption.getD tapes)) := by
  refine (truncate_tape_leaves tape_id entry_count).bind (fun _ => ?_)
  refine Ensures.mono (Preserves.seq persist_session_keeps (fun _ =>
    (list_checkpoints_keeps tape_id).seq (fun checkpoints => ?_)))
    (fun _ h => h) (fun _ _ _ => True.intro) (fun _ h => h)
  exact Ensures.each (fun info _ => Preserves.when (delete_checkpoint_keeps info.checkpoint_id))

theorem restore_durable_state_leaves {start : RestoreWorld} {snapshot : SavedCheckpoint}
    {rest : Restoring Unit} (hsession : start.session.values = session.values)
    (hrest : Ensures (Left session start.tapes) rest (fun _ _ => True) (Left session tapes)) :
    Ensures (fun world => world = start) (restore_durable_state host snapshot rest)
      (fun _ _ => True)
      (Left session (if (list_active_runtime_runs host start).toOption.isSome then tapes
        else start.tapes)) := by
  refine Ensures.bind (Q := fun read world => read = start ∧ world = start)
    (Ensures.get (fun world h => ⟨h, h⟩)) (fun read => ?_)
  refine Ensures.bind (Q := fun runs world => list_active_runtime_runs host start = .ok runs ∧
    world = start) (Ensures.lift ?_ ?_) (fun runs => ?_)
  · rintro runs hruns world ⟨rfl, rfl⟩
    exact ⟨hruns, rfl⟩
  · rintro error herror world ⟨rfl, rfl⟩
    rw [herror]
    exact ⟨hsession, rfl⟩
  · refine Ensures.bind (Q := fun _ world => list_active_runtime_runs host start = .ok runs ∧
      Left session start.tapes world) (Ensures.modify ?_) (fun _ => ?_)
    · rintro world ⟨hruns, rfl⟩
      exact ⟨hruns, hsession, rfl⟩
    · refine Ensures.mono (Ensures.given (fun hruns => ?_)) (fun world h => ⟨h.2, h.1⟩)
        (fun _ _ h => h) (fun _ h => h)
      rw [hruns]
      exact hrest

theorem restore_checkpoint_state_leaves (snapshot : SavedCheckpoint) :
    Ensures (Left session tapes) (restore_checkpoint_state host snapshot) (fun _ _ => True)
      (Left session tapes) := by
  refine Ensures.bind Preserves.get (fun world => ?_)
  refine Ensures.bind Preserves.lift (fun authority => ?_)
  refine Ensures.bind Preserves.lift (fun payload => ?_)
  exact Ensures.bind Preserves.lift (fun restored => Ensures.modify (fun _ _ => True.intro))

/-- **Where the stores raise, the session stays rewritten.** -/
theorem restore_stores_leaves (start : RestoreWorld) (prepared : Prepared) :
    Ensures (fun world => world = start) (restore_stores host prepared) (fun _ _ => True)
      (Left start.session (tapes_left host start prepared)) := by
  have hrewind := @rewind_stores_leaves host start.session start.tapes
    prepared.runtime.ctx_tape_id prepared.snapshot.info.entry_count
  unfold restore_stores tapes_left
  cases host.backend with
  | service => exact hrewind.requires (fun world h => h ▸ ⟨rfl, rfl⟩)
  | manager => exact restore_durable_state_leaves rfl hrewind
  | manager_durable =>
    refine (restore_durable_state_leaves rfl (restore_checkpoint_state_leaves _)).mono
      (fun _ h => h) (fun _ _ h => h) (fun world h => ?_)
    rwa [ite_self] at h

/-! ## The three places a restore raises at -/

variable {before after : RestoreWorld} {checkpoint_id : String} {prepared : Prepared}
  {error : StoreError}

theorem restore_unprepared (hprepare : prepare host before checkpoint_id = .error error) :
    restore host checkpoint_id before = (.error error, before) := by
  unfold restore
  rw [bind_ok (get_run before)]
  exact bind_error (by rw [lift_run, hprepare])

theorem restore_unclosed (hprepare : prepare host before checkpoint_id = .ok prepared)
    (hclose : close_session_adapter host before.session = .error error) :
    restore host checkpoint_id before
      = (.error error, { before with session := before.session.detach_runtime_adapter }) := by
  have hprepared : Action.lift (prepare host before checkpoint_id) before
      = (.ok prepared, before) := by rw [lift_run, hprepare]
  unfold restore close_runtime
  rw [bind_ok (get_run before), bind_ok hprepared]
  refine bind_error ?_
  rw [bind_ok (get_run before), bind_ok (modify_run _ before),
    lift_run, hclose]

theorem restore_closed (hprepare : prepare host before checkpoint_id = .ok prepared)
    (hclose : close_session_adapter host before.session = .ok ()) :
    restore host checkpoint_id before
      = restore_stores host prepared { before with
          session := before.session.detach_runtime_adapter.restored prepared.config
            prepared.runtime } := by
  have hprepared : Action.lift (prepare host before checkpoint_id) before
      = (.ok prepared, before) := by rw [lift_run, hprepare]
  have hclosed : close_runtime host before
      = (.ok (), { before with session := before.session.detach_runtime_adapter }) := by
    unfold close_runtime
    rw [bind_ok (get_run before), bind_ok (modify_run _ before),
      lift_run, hclose]
  unfold restore
  rw [bind_ok (get_run before), bind_ok hprepared, bind_ok hclosed]
  exact bind_ok (modify_run _ _)

theorem prepare_anew (hanew : BuildsAnew host)
    (hprepare : prepare host before checkpoint_id = .ok prepared) :
    before.session.runtime.adapter ≠ some prepared.runtime.adapter := by
  simp only [prepare, Result.bind_eq_ok, Result.pure_eq_ok] at hprepare
  obtain ⟨snapshot, -, tape_id, -, -, -, -, -, -, -, entries, -, config, -, runtime, hruntime, rfl⟩ :=
    hprepare
  exact hanew _ _ _ _ _ hruntime

theorem unclosed_torn (hclose : close_session_adapter host before.session = .error error) :
    ¬ AllOrNothing host checkpoint_id before
      { before with session := before.session.detach_runtime_adapter } := by
  rintro (huntouched | ⟨restored, -, hrestored⟩)
  · have hadapter : none = before.session.runtime.adapter :=
      congrArg (fun session : RestoreSession => session.runtime.adapter) huntouched.session
    unfold close_session_adapter at hclose
    rw [← hadapter] at hclose
    cases hclose
  · have hadapter : none = some restored.runtime.adapter :=
      congrArg (fun session : RestoreSession => session.runtime.adapter) hrestored.session
    cases hadapter

theorem closed_whole_iff (hanew : BuildsAnew host)
    (hprepare : prepare host before checkpoint_id = .ok prepared)
    (hsession : after.session.values
      = (before.session.restored prepared.config prepared.runtime).values) :
    AllOrNothing host checkpoint_id before after ↔
      after.tapes.load prepared.runtime.ctx_tape_id = .ok prepared.snapshot.tape_entries := by
  constructor
  · rintro (huntouched | ⟨restored, hrestored, hwhole⟩)
    · have hadapter : some prepared.runtime.adapter = before.session.runtime.adapter :=
        congrArg (fun session : RestoreSession => session.runtime.adapter)
          (hsession.symm.trans huntouched.session)
      exact absurd hadapter.symm (prepare_anew hanew hprepare)
    · obtain rfl : prepared = restored := Except.ok.inj (hprepare.symm.trans hrestored)
      exact hwhole.tape
  · exact fun htape => Or.inr ⟨prepared, hprepare, ⟨hsession, htape⟩⟩

/-- **When a restore that raises has restored all or nothing.** -/
theorem restore_all_or_nothing_iff (host : RestoreHost) (hanew : BuildsAnew host)
    (before after : RestoreWorld) (checkpoint_id : String) (error : StoreError)
    (hraised : restore host checkpoint_id before = (.error error, after)) :
    AllOrNothing host checkpoint_id before after ↔ LeavesWhole host before checkpoint_id := by
  cases hprepare : prepare host before checkpoint_id with
  | error cause =>
    rw [restore_unprepared hprepare] at hraised
    obtain ⟨-, rfl⟩ := Prod.mk.inj hraised
    refine iff_of_true (Or.inl ⟨rfl, rfl, rfl⟩) (fun prepared hprepared => ?_)
    rw [hprepare] at hprepared
    cases hprepared
  | ok prepared =>
    cases hclose : close_session_adapter host before.session with
    | error cause =>
      rw [restore_unclosed hprepare hclose] at hraised
      obtain ⟨-, rfl⟩ := Prod.mk.inj hraised
      refine iff_of_false (unclosed_torn hclose) (fun hwhole => ?_)
      have hclosed := (hwhole prepared hprepare).1
      rw [hclose] at hclosed
      cases hclosed
    | ok _ =>
      rw [restore_closed hprepare hclose] at hraised
      obtain ⟨hsession, htapes⟩ := (restore_stores_leaves _ prepared).error rfl hraised
      rw [closed_whole_iff hanew hprepare hsession, htapes]
      constructor
      · intro htape prepared' hprepared'
        obtain rfl : prepared = prepared' := Except.ok.inj (hprepare.symm.trans hprepared')
        exact ⟨hclose, htape⟩
      · exact fun hwhole => (hwhole prepared hprepare).2

/-! ## An owner that has lost its lease -/

def sample_entry (id : String) : JsonObject :=
  [("id", .str id), ("kind", .str "message"), ("payload", .obj []), ("timestamp", .int 0)]

def sample_checkpoint : SavedCheckpoint where
  info := {
    checkpoint_id := "c", tape_id := "t", session_id := some "s", entry_count := 1
    created_at := 5 }
  tape_entries := [sample_entry "e"]
  plugin_states := []
  extra := [(CHECKPOINT_SESSION_CONFIG_KEY, .obj
    [("provider_name", .str "openai"), ("model_name", .str "m"), ("base_url", .null),
      ("max_steps", .int 3), ("approval_policy", .str "auto")])]

def sample_restore_world : RestoreWorld where
  session := {
    id := "s", tape_id := some "t", provider_name := some "openai", model_name := some "m"
    base_url := none, max_steps := 30, approval_policy := .AUTO
    runtime := { pipeline := some 0, ctx := some 1, adapter := some 2 } }
  tables := {
    session_owners := (∅ : Table String SessionOwnerRecord).put "s" ⟨"other", 1000, 2⟩
    session_tapes := (∅ : Table String String).put "s" "t" }
  checkpoints := (∅ : Table String SavedCheckpoint).put "c" sample_checkpoint
  tapes := {
    tape_entries := (∅ : Table String (Numbered TapeRow)).put "t" (Numbered.empty.append_all
      [⟨sample_entry "e", some "message"⟩, ⟨sample_entry "f", some "message"⟩]) }

def sample_restore_host : RestoreHost where
  backend := .manager_durable
  prepare_runtime session tape _ _ :=
    .ok ⟨10, 11, tape.tape_id, session.runtime.adapter.getD 0 + 1⟩
  to_store_data session := .ok [("id", .str session.id),
    ("tape_id", (session.tape_id.map Json.str).getD .null)]
  owner_authorities session_id := some ⟨session_id, "worker", 1⟩

theorem sample_builds_anew : BuildsAnew sample_restore_host := by
  intro session tape config plugin_states runtime hruntime hadapter
  obtain rfl := Except.ok.inj hruntime
  have hnext : session.runtime.adapter = some (session.runtime.adapter.getD 0 + 1) := hadapter
  cases hcurrent : session.runtime.adapter with
  | none =>
    rw [hcurrent] at hnext
    cases hnext
  | some adapter =>
    rw [hcurrent, Option.getD_some] at hnext
    exact absurd (Option.some.inj hnext) (Nat.ne_add_one adapter)

def sample_short_world : RestoreWorld :=
  { sample_restore_world with
    tapes := sample_restore_world.tapes.put "t"
      (Numbered.empty.append_all [⟨sample_entry "e", some "message"⟩]) }

theorem short_prepares : (prepare sample_restore_host sample_short_world "c").toOption.map
    (fun prepared => (prepared.runtime.ctx_tape_id, prepared.snapshot.tape_entries))
      = some ("t", [sample_entry "e"]) := by
  decide +kernel

theorem short_rejected : (restore sample_restore_host "c" sample_short_world).1
    = raise .SessionOwnershipConflictError "stale owner or fencing token rejected" := rfl

/-- Where the tape is at the checkpoint, the lost lease does no harm. -/
theorem sample_restored_whole :
    AllOrNothing sample_restore_host "c" sample_short_world
      (restore sample_restore_host "c" sample_short_world).2 := by
  refine (restore_all_or_nothing_iff sample_restore_host sample_builds_anew sample_short_world _ "c"
    _ (Prod.ext short_rejected rfl)).mpr (fun prepared hprepared => ?_)
  have hfound := short_prepares
  rw [hprepared] at hfound
  obtain ⟨htape, hentries⟩ := Prod.mk.inj (Option.some.inj hfound)
  refine ⟨rfl, ?_⟩
  show sample_short_world.tapes.load _ = _
  rw [htape, hentries]
  decide +kernel

theorem sample_rejected : (restore sample_restore_host "c" sample_restore_world).1
    = raise .SessionOwnershipConflictError "stale owner or fencing token rejected" := rfl

/-- **The rejected session is limited to three steps, and its tape still has both entries.** -/
theorem stale_owner_tears_session :
    ¬ ∀ (host : RestoreHost), BuildsAnew host →
      ∀ (before after : RestoreWorld) (checkpoint_id : String) (error : StoreError),
        restore host checkpoint_id before = (.error error, after) →
          AllOrNothing host checkpoint_id before after := by
  intro hall
  have hwhole := hall sample_restore_host sample_builds_anew sample_restore_world _ "c" _
    (Prod.ext sample_rejected rfl)
  rcases hwhole with huntouched | ⟨prepared, hprepared, hrestored⟩
  · have hsteps := congrArg (fun session : RestoreSession => session.max_steps) huntouched.session
    revert hsteps
    decide +kernel
  · have hfound : (prepare sample_restore_host sample_restore_world "c").toOption.map
        (fun prepared => (prepared.runtime.ctx_tape_id, prepared.snapshot.tape_entries))
          = some ("t", [sample_entry "e"]) := by decide +kernel
    rw [hprepared] at hfound
    obtain ⟨htape, hentries⟩ := Prod.mk.inj (Option.some.inj hfound)
    have hload := hrestored.tape
    rw [htape, hentries] at hload
    revert hload
    decide +kernel

end CodingAgentLoop.CheckpointRestore
