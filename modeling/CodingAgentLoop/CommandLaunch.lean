/-
The execution of an admitted chat command (`_launch_admitted_command` in
`coding_agent/server/session/manager.py`, `coding_agent/runs/resume.py`).

An admission marks the session object, and so does the launch. A prompt then goes to the turn lock,
which never looks at the marks; a resume looks at them first, and takes them for a turn of another.
The chat calls (`ChatManager.lean`) and the calls at the turn lock (`TurnExclusion.lean`) run
beside the executions, on one manager.
-/
import CodingAgentLoop.TurnExclusion
import CodingAgentLoop.TurnNaming

namespace CodingAgentLoop

open Lib EventLoop

/-! ## The manager and the lock -/

/-- The chat side of a manager, the turn lock and the count of exports of its session, and what is
left of the session object: whether its task is done, its cloud workspace, and whether its run
target is an attached executor. -/
structure CommandMemory (session_id : String) where
  manager : ChatManager session_id
  locked : Bool := false
  export_count : Nat := 0
  task : Option Bool := none
  workspace : Option String := none
  session_is_attached : Bool := false

namespace CommandMemory

variable {session_id : String}

section

variable (memory : CommandMemory session_id)

def door : SessionDoor where
  locked := memory.locked
  export_count := memory.export_count
  session :=
    { turn_in_progress := memory.manager.session.turn_in_progress
      task := memory.task
      workspace := memory.workspace }

def put_manager (manager : ChatManager session_id) : CommandMemory session_id :=
  { memory with manager }

def put_door (door : SessionDoor) : CommandMemory session_id :=
  { memory with
    manager := memory.manager.put_session
      { memory.manager.session with turn_in_progress := door.session.turn_in_progress }
    locked := door.locked
    export_count := door.export_count
    task := door.session.task
    workspace := door.session.workspace }

@[simp] theorem door_put_door (door : SessionDoor) : (memory.put_door door).door = door := rfl

/-- The marks that `_launch_admitted_command` puts on the session object. -/
def launch (run_id : String) : CommandMemory session_id :=
  { memory with
    manager := memory.manager.put_session (ManagerTask.begin_turn run_id memory.manager.session)
    task := some false }

end

end CommandMemory

/-! ## Executions -/

/-- What the calls await: what the chat calls do, what the calls at the turn lock do, and of an
execution the first step of its task and its reads and writes. -/
inductive CommandQuery (B : Type) where
  | manager (query : ManagerQuery)
  | door (query : ExclusionQuery B)
  | first_step
  | command_prompt
  | assert_owner
  | load_session
  | load_runtime_run (run_id : String)
  | build_context
  | save_tape_entries

def CommandQuery.Answer {B : Type} (R : B → Type) : CommandQuery B → Type
  | manager query => query.Answer
  | door query => query.Answer R
  | first_step => Unit
  | command_prompt => Except StoreError String
  | assert_owner => Except StoreError Unit
  | load_session => Except StoreError Unit
  | load_runtime_run _ => Option AgentRunRecord
  | build_context => Except StoreError Unit
  | save_tape_entries => Except StoreError Unit

section Calls

variable {B : Type} {R : B → Type} {session_id : String}

abbrev CommandTask (session_id : String) (B : Type) (R : B → Type) (α : Type) : Type :=
  Coroutine (CommandMemory session_id) (CommandQuery B) (CommandQuery.Answer R) ExclusionError α

namespace CommandTask

def awaited (query : CommandQuery B) : CommandTask session_id B R (query.Answer R) :=
  Coroutine.ask query

def chat {α : Type} (code : ManagerTask session_id α) : CommandTask session_id B R α :=
  code.zoom CommandMemory.manager CommandMemory.put_manager .manager (fun _ answer => answer) .raised

def at_door {α : Type} (code : ExclusionTask B R α) : CommandTask session_id B R α :=
  code.zoom CommandMemory.door CommandMemory.put_door .door (fun _ answer => answer) id

theorem at_door_bind {α β : Type} (first : ExclusionTask B R α) (next : α → ExclusionTask B R β) :
    (at_door (first >>= next) : CommandTask session_id B R β)
      = at_door first >>= fun value => at_door (next value) :=
  Coroutine.zoom_bind first next

theorem at_door_ensuring {α : Type} (cleanup : SessionDoor → SessionDoor) (code : ExclusionTask B R α) :
    (at_door (code.ensuring cleanup) : CommandTask session_id B R α)
      = (at_door code).ensuring (fun memory => memory.put_door (cleanup memory.door)) :=
  Coroutine.zoom_ensuring cleanup code

def required {α : Type} (answer : Except StoreError α) : CommandTask session_id B R α :=
  Coroutine.lift (Except.mapError .raised answer)

def raise_error {α : Type} (cls : ErrorClass) (message : String) : CommandTask session_id B R α :=
  .fail (.raised (.raised cls message))

/-- `raise RemoteLoopOwnershipRetired()`. -/
def remote_loop_retired {α : Type} : CommandTask session_id B R α :=
  raise_error .RuntimeError
    "remote loop ownership has been retired; the agent loop lives in-process"

/-- `run_agent(session_id, prompt, run_id_override=run_id, ...)`; `body` is what it runs under the
turn lock. -/
def run_agent (body : SessionBody B R) : CommandTask session_id B R Unit := do
  let memory ← Coroutine.get
  if memory.session_is_attached then remote_loop_retired
  else at_door (turn_run_exclusive body)

/-- `session.turn_in_progress or session.turn_status in {"running", "cancelling"}`. -/
def turn_marked (session : ChatSession) : Bool :=
  session.turn_in_progress || session.turn_status ∈ ["running", "cancelling"]

/-- A session without a tape takes that of the run it resumes. -/
def keep_tape (previous_run : AgentRunRecord) : CommandTask session_id B R Unit := do
  let memory ← Coroutine.get
  if memory.manager.session.tape_id = none ∧ previous_run.tape_id ≠ none then
    Coroutine.modify (fun memory => memory.put_manager (memory.manager.put_session
      { memory.manager.session with tape_id := previous_run.tape_id }))
    chat ManagerTask.persist_session_async
  else pure ()

def append_boundary_anchor : CommandTask session_id B R Unit := do
  let memory ← Coroutine.get
  if memory.manager.session.tape_id.getD "" = "" then
    raise_error .RuntimeError "session tape_id is required to append resume boundary"
  else
    let saved : Except StoreError Unit ← awaited .save_tape_entries
    required saved

/-- What a resume does once it has its source. -/
def resume_from (body : SessionBody B R) : Option AgentRunRecord → CommandTask session_id B R Unit
  | none => raise_error .RuntimeError "session has no previous run to resume"
  | some previous_run =>
    if previous_run.status ∈ active_run_statuses then
      raise_error .RuntimeError "latest run is still active"
    else do
      keep_tape previous_run
      let built : Except StoreError Unit ← awaited .build_context
      required built
      append_boundary_anchor
      run_agent body

def resume (parent_run_id : String) (body : SessionBody B R) : CommandTask session_id B R Unit := do
  let memory ← Coroutine.get
  if turn_marked memory.manager.session then .fail turn_already_in_progress
  else if memory.session_is_attached then remote_loop_retired
  else
    let previous_run : Option AgentRunRecord ← awaited (.load_runtime_run parent_run_id)
    resume_from body previous_run

def resume_session (parent_run_id : String) (body : SessionBody B R) :
    CommandTask session_id B R Unit := do
  let owner : Except StoreError Unit ← awaited .assert_owner
  required owner
  let loaded : Except StoreError Unit ← awaited .load_session
  required loaded
  resume parent_run_id body

def execute (parent_run_id : Option String) (body : SessionBody B R) :
    CommandTask session_id B R Unit :=
  match parent_run_id with
  | none => run_agent body
  | some parent_run_id => resume_session parent_run_id body

/-- `_launch_admitted_command(session_id, admission)`: the marks, and the task up to what it makes of
the outcome of the execution. -/
def launch_admitted_command (parent_run_id : Option String) (run_id : String)
    (body : SessionBody B R) : CommandTask session_id B R Unit := do
  Coroutine.modify (fun memory => memory.launch run_id)
  let _ : Unit ← awaited .first_step
  let prompt : Except StoreError String ← awaited .command_prompt
  let _ ← required prompt
  execute parent_run_id body

end CommandTask

inductive CommandCall (B : Type) (R : B → Type) where
  | chat (call : ManagerCall)
  | at_door (call : ExclusionCall B R)
  | command (parent_run_id : Option String) (run_id : String) (body : SessionBody B R)

def CommandCall.code (host : SessionHost) : CommandCall B R → CommandTask session_id B R Unit
  | .chat call => CommandTask.chat (call.code host)
  | .at_door call => CommandTask.at_door call.code
  | .command parent_run_id run_id body =>
    CommandTask.launch_admitted_command parent_run_id run_id body

/-- An owner check fails with the conflict of owners, and a load with the session that is missing. -/
def FailsWith (cls : ErrorClass) (answer : Except StoreError Unit) : Prop :=
  ∀ error, answer = .error error → ∃ message, error = .raised cls message

/-- Chat calls are answered as they are alone, a runtime run by the store, and the rest in any way. -/
def CommandAnswers (host : SessionHost) (B : Type) (R : B → Type)
    (memory : CommandMemory session_id) :
    (query : CommandQuery B) → query.Answer R → CommandMemory session_id → Prop
  | .manager query, answer, memory' =>
    ∃ manager, ManagerAnswers host memory.manager query answer manager
      ∧ memory' = memory.put_manager manager
  | .door (.assert_owner _), answer, memory' =>
    FailsWith .SessionOwnershipConflictError answer ∧ memory' = memory
  | .door .load_session, answer, memory' => FailsWith .KeyError answer ∧ memory' = memory
  | .load_runtime_run run_id, answer, memory' =>
    answer = memory.manager.store.tables.agent_runs.row run_id ∧ memory' = memory
  | _, _, memory' => memory' = memory

/-- From elsewhere anything changes but the lock and the count of exports. -/
def CommandChanges (memory memory' : CommandMemory session_id) : Prop :=
  memory'.locked = memory.locked ∧ memory'.export_count = memory.export_count

abbrev CommandLoop (session_id : String) (B : Type) (R : B → Type) : Type :=
  EventLoop (CommandCall B R) (CommandMemory session_id) (CommandQuery B) (CommandQuery.Answer R)
    ExclusionError Unit

abbrev CommandEvent (session_id : String) (B : Type) (R : B → Type) : Type :=
  LoopEvent (CommandCall B R) (CommandMemory session_id) (CommandQuery B) (CommandQuery.Answer R)

abbrev CommandStep (host : SessionHost) (session_id : String) (B : Type) (R : B → Type) :
    CommandLoop session_id B R → CommandEvent session_id B R → CommandLoop session_id B R → Prop :=
  Step (CommandCall.code host) (CommandAnswers host B R) CommandChanges

/-! ## What is to hold -/

/-- What the turn lock sees of a call; a chat call is no more to it than an export that never
begins. -/
def CommandCall.at_lock : CommandCall B R → ExclusionCall B R
  | .chat _ => .export_archive
  | .at_door call => call
  | .command _ _ body => .turn body

section

variable (loop : CommandLoop session_id B R)

/-- A turn body or a maintenance body is running, or an export is in progress. -/
def BodyRuns (pid : Nat) : Prop :=
  ∃ call query resume, loop.tasks pid = some ⟨call, .await (.door query) resume⟩
    ∧ ((∃ wait, query = .body wait) ∨ query = .to_thread ∨ query = .assert_owner true)

/-- A turn or a maintenance operation holds the lock and its body has not begun. -/
def Enters (pid : Nat) : Prop :=
  ∃ call query resume, loop.tasks pid = some ⟨call, .await (.door query) resume⟩
    ∧ call.at_lock.takes_lock = true ∧ (query = .assert_owner false ∨ query = .load_session)

/-- The step does not refuse an execution for a turn in progress, unless another body is running or
an export is in progress. -/
def StartsUnlessRunning (event : CommandEvent session_id B R)
    (loop' : CommandLoop session_id B R) : Prop :=
  ∀ pid parent_run_id run_id body, event.pid = some pid →
    loop'.tasks pid = some ⟨.command parent_run_id run_id body, .fail turn_already_in_progress⟩ →
    ∃ other, other ≠ pid ∧ BodyRuns loop other

end

abbrev CommandGiven (B : Type) (R : B → Type) : Type :=
  Option ((query : CommandQuery B) × query.Answer R)

def looks_at_session : CommandCall B R → CommandGiven B R → Bool
  | .command (some _) _ _, some ⟨.load_session, .ok _⟩ => true
  | _, _ => false

def comes_to_lock : CommandCall B R → CommandGiven B R → Bool
  | .command none _ _, some ⟨.command_prompt, .ok _⟩ => true
  | .command (some _) _ _, some ⟨.save_tape_entries, .ok _⟩ => true
  | _, _ => false

/-- A resume finds no turn marked, and an execution that comes to the lock finds nobody there whose
body has not begun; or something is running anyway. -/
structure StartsClear (loop : CommandLoop session_id B R) (event : CommandEvent session_id B R) :
    Prop where
  unmarked : ∀ pid call given, event.segment = some (pid, call, given) →
    looks_at_session call given = true →
    CommandTask.turn_marked event.before.manager.session = true → ∃ other, BodyRuns loop other
  unlocked : ∀ pid call given, event.segment = some (pid, call, given) →
    comes_to_lock call given = true → event.before.session_is_attached = false →
    (∃ other, Enters loop other) → ∃ other, BodyRuns loop other

/-! ## Where a call stands -/

/-- Where a call stands at the lock, and whether it was refused for a turn in progress. -/
structure CommandPlace where
  place : Place := .away
  refused : Bool := false

def lock_refuses (memory : CommandMemory session_id) : Bool :=
  !memory.session_is_attached && (memory.locked || 0 < memory.export_count)

def refuses (call : CommandCall B R) (given : CommandGiven B R) (memory : CommandMemory session_id) :
    Bool :=
  (looks_at_session call given && CommandTask.turn_marked memory.manager.session)
    || (comes_to_lock call given && lock_refuses memory)

def door_given : CommandGiven B R → Option ((query : ExclusionQuery B) × query.Answer R)
  | some ⟨.door query, answer⟩ => some ⟨query, answer⟩
  | _ => none

def CommandAwaits (call : CommandCall B R) (state : CommandPlace) : CommandQuery B → Prop
  | .door query => state.refused = false ∧ AwaitsAt call.at_lock state.place query
  | _ => state.refused = false ∧ state.place = .away

/-- Where a call is when it is over. -/
structure CommandEnds (call : CommandCall B R) (state : CommandPlace)
    (result : Except ExclusionError Unit) : Prop where
  outside : state.place.holds = false ∧ state.place ≠ .exporting
  refused : ∀ parent_run_id run_id body, call = .command parent_run_id run_id body →
    (result = .error turn_already_in_progress ↔ state.refused = true)

/-- A segment makes a move at the lock, of a session that may have changed, and refuses or not. -/
def CommandMoves (call : CommandCall B R)
    (opening : Opening CommandPlace (CommandMemory session_id) (CommandQuery B)
      (CommandQuery.Answer R)) (state : CommandPlace) (memory : CommandMemory session_id) : Prop :=
  (∃ session, DoorMove call.at_lock (door_given opening.given) opening.state.place
      { opening.memory.door with session } state.place memory.door)
    ∧ state.refused = refuses call opening.given opening.memory

variable (session_id B R) in
def command_outline (host : SessionHost) :
    Outline (CommandCall B R) CommandPlace (CommandMemory session_id) (CommandQuery B)
      (CommandQuery.Answer R) ExclusionError Unit where
  knows := fun _ _ => True
  answers := CommandAnswers host B R
  moves := CommandMoves
  asks := CommandAwaits
  ends := CommandEnds

/-! ## What a call does, segment by segment -/

section Segments

variable {host : SessionHost} {call : CommandCall B R} {α β : Type}
  {opening : Opening CommandPlace (CommandMemory session_id) (CommandQuery B) (CommandQuery.Answer R)}
  {memory : CommandMemory session_id}

/-- The segment is away from the lock so far, and refuses nothing. -/
structure Away (call : CommandCall B R)
    (opening : Opening CommandPlace (CommandMemory session_id) (CommandQuery B)
      (CommandQuery.Answer R)) (memory : CommandMemory session_id) : Prop where
  place : opening.state.place = .away
  locked : memory.locked = opening.memory.locked
  export_count : memory.export_count = opening.memory.export_count

theorem Away.moves (h : Away call opening memory) (refused : Bool)
    (hrefuses : refused = refuses call opening.given opening.memory) :
    CommandMoves call opening ⟨.away, refused⟩ memory := by
  refine ⟨⟨memory.door.session, ?_⟩, hrefuses⟩
  have hdoor : memory.door = { opening.memory.door with session := memory.door.session } := by
    unfold CommandMemory.door
    rw [h.locked, h.export_count]
  rw [h.place, ← hdoor]
  exact .stays

/-- It accepts, too. -/
structure Spared (call : CommandCall B R)
    (opening : Opening CommandPlace (CommandMemory session_id) (CommandQuery B)
      (CommandQuery.Answer R)) (memory : CommandMemory session_id) : Prop
    extends Away call opening memory where
  accepts : refuses call opening.given opening.memory = false

theorem Spared.moves (h : Spared call opening memory) :
    CommandMoves call opening ⟨.away, false⟩ memory :=
  h.toAway.moves false h.accepts.symm

theorem Spared.over (h : Spared call opening memory) {result : Except ExclusionError Unit}
    (hresult : result ≠ .error turn_already_in_progress) :
    Coroutine.Over (command_outline B R session_id host) call result opening memory := by
  refine ⟨⟨.away, false⟩, h.moves, ⟨rfl, Place.noConfusion⟩, ?_⟩
  intro _ _ _ _
  exact ⟨fun hrefused => absurd hrefused hresult, fun hrefused => by cases hrefused⟩

theorem raised_ne (error : StoreError) {α : Type} :
    (.error (.raised error) : Except ExclusionError α) ≠ .error turn_already_in_progress := by
  intro h
  cases h

theorem refuses_manager (query : ManagerQuery) (answer : query.Answer)
    (memory : CommandMemory session_id) :
    refuses call (some ⟨.manager query, answer⟩) memory = false := by
  rcases call with _ | _ | ⟨_ | _, _, _⟩ <;> rfl

theorem refuses_door (query : ExclusionQuery B) (answer : query.Answer R)
    (memory : CommandMemory session_id) :
    refuses call (some ⟨.door query, answer⟩) memory = false := by
  rcases call with _ | _ | ⟨_ | _, _, _⟩ <;> rfl

theorem spared_chat (code : ManagerTask session_id α) (h : Spared call opening memory) :
    Coroutine.Meets (command_outline B R session_id host) call
      (fun result opening memory => Spared call opening memory
        ∧ ∀ error, result = .error error → ∃ inner, error = .raised inner)
      (CommandTask.chat code) opening memory := by
  refine Coroutine.Meets.renamed ?_
  induction code generalizing opening memory with
  | done value => exact h
  | fail error => exact h
  | await query resume ih =>
    refine ⟨⟨.away, false⟩, h.moves, ⟨rfl, rfl⟩, ?_⟩
    rintro answer before after - ⟨manager, -, rfl⟩
    exact ih answer ⟨⟨rfl, rfl, rfl⟩, refuses_manager query answer before⟩
  | access change next ih => exact ih _ ⟨⟨h.place, h.locked, h.export_count⟩, h.accepts⟩

/-! ### At the lock -/

theorem exclusion_answers {query : ExclusionQuery B} {answer : query.Answer R}
    {before after : CommandMemory session_id}
    (h : CommandAnswers host B R before (.door query) answer after) : after = before := by
  cases query with
  | assert_owner again => exact h.2
  | load_session => exact h.2
  | to_thread => exact h
  | body query => exact h

/-- How a segment looks from the door. -/
def SeenAtDoor (call : CommandCall B R)
    (opening : Opening CommandPlace (CommandMemory session_id) (CommandQuery B)
      (CommandQuery.Answer R))
    (seen : Opening Place SessionDoor (ExclusionQuery B) (ExclusionQuery.Answer R)) : Prop :=
  seen = ⟨door_given opening.given, opening.state.place, opening.memory.door⟩
    ∧ refuses call opening.given opening.memory = false

theorem meets_at_door {post' : Except ExclusionError α →
      Opening Place SessionDoor (ExclusionQuery B) (ExclusionQuery.Answer R) → SessionDoor → Prop}
    {post : Except ExclusionError α →
      Opening CommandPlace (CommandMemory session_id) (CommandQuery B) (CommandQuery.Answer R) →
        CommandMemory session_id → Prop}
    {code : ExclusionTask B R α}
    {seen : Opening Place SessionDoor (ExclusionQuery B) (ExclusionQuery.Answer R)}
    (hpost : ∀ result opening seen (memory : CommandMemory session_id), SeenAtDoor call opening seen →
      post' result seen memory.door → post result opening memory)
    (hseen : SeenAtDoor call opening seen)
    (h : Coroutine.Meets (door_outline B R) call.at_lock post' code seen memory.door) :
    Coroutine.Meets (command_outline B R session_id host) call post (CommandTask.at_door code) opening
      memory := by
  refine Coroutine.Meets.zoom (SeenAtDoor call) (fun place => ⟨place, false⟩) CommandMemory.door_put_door ?_ ?_
    ?_ ?_ hseen h
  · rintro opening seen place memory ⟨rfl, haccepts⟩ hmove
    exact ⟨⟨opening.memory.door.session, hmove⟩, haccepts.symm⟩
  · intro place query hasks
    exact ⟨rfl, hasks⟩
  · intro place query answer before after _ _ hanswer
    have hsame := exclusion_answers hanswer
    subst hsame
    exact ⟨trivial, rfl, rfl, refuses_door query answer after⟩
  · intro result opening seen memory hseen hended
    cases result with
    | ok value => exact hpost _ _ _ _ hseen hended
    | error error => exact hpost _ _ _ _ hseen hended

theorem ends_outside {place : Place} {result : Except ExclusionError Unit} (h : EndsAt place result) :
    place.holds = false ∧ place ≠ .exporting := by
  unfold EndsAt at h
  split at h
  · rw [h]
    exact ⟨rfl, Place.noConfusion⟩
  · rcases h with rfl | rfl
    · exact ⟨rfl, Place.noConfusion⟩
    · exact ⟨rfl, Place.noConfusion⟩

theorem meets_door_call (exclusion : ExclusionCall B R) (memory : CommandMemory session_id) :
    Coroutine.Meets (command_outline B R session_id host) (.at_door exclusion)
      (Coroutine.Over (command_outline B R session_id host) (.at_door exclusion))
      (CommandTask.at_door exclusion.code) ⟨none, {}, memory⟩ memory := by
  refine meets_at_door ?_ ⟨rfl, rfl⟩ (meets_code exclusion memory.door)
  rintro result opening seen memory ⟨rfl, haccepts⟩ ⟨place, hmove, hends⟩
  refine ⟨⟨place, false⟩, ⟨⟨opening.memory.door.session, hmove⟩, haccepts.symm⟩, ends_outside hends, ?_⟩
  intro _ _ _ hcall
  cases hcall

/-! ### An execution -/

section Execution

variable {parent_run_id : Option String} {run_id : String} {body : SessionBody B R}

/-- What an execution owes under the lock: the release. -/
def ReleasedAt (host : SessionHost) (call : CommandCall B R) (result : Except ExclusionError Unit)
    (opening : Opening CommandPlace (CommandMemory session_id) (CommandQuery B)
      (CommandQuery.Answer R)) (memory : CommandMemory session_id) : Prop :=
  Coroutine.Over (command_outline B R session_id host) call result opening
    (memory.put_door memory.door.release)

theorem released_failure {query : ExclusionQuery B} {answer : query.Answer R}
    {cls : ErrorClass} (hcls : cls ≠ .RuntimeError) (message : String)
    (memory : CommandMemory session_id) :
    ReleasedAt host (.command parent_run_id run_id body)
      (.error (.refused (.raised cls message))) ⟨some ⟨.door query, answer⟩, ⟨.holding, false⟩, memory⟩
      memory := by
  refine ⟨⟨.away, false⟩, ⟨⟨memory.door.session, .refused⟩, (refuses_door query answer memory).symm⟩,
    ⟨rfl, Place.noConfusion⟩, ?_⟩
  intro _ _ _ _
  constructor
  · intro hresult
    cases hresult
    exact absurd rfl hcls
  · intro hrefused
    cases hrefused

theorem meets_body_at_door {query : ExclusionQuery B} {answer : query.Answer R}
    (memory : CommandMemory session_id) :
    Coroutine.Meets (command_outline B R session_id host) (.command parent_run_id run_id body)
      (ReleasedAt host (.command parent_run_id run_id body)) (CommandTask.at_door (run_body body))
      ⟨some ⟨.door query, answer⟩, ⟨.holding, false⟩, memory⟩ memory := by
  have hraised : Coroutine.Meets (door_outline B R) (.turn body)
      (fun result opening door => Released (.turn body) result opening door
        ∧ ∀ error, result = .error error → ∃ inner, error = .raised inner) (run_body body)
      ⟨some ⟨query, answer⟩, .holding, memory.door⟩ memory.door :=
    Coroutine.Meets.renamed (meets_run_body rfl body rfl memory.door.session rfl)
  refine meets_at_door ?_ ⟨rfl, refuses_door query answer memory⟩ hraised
  rintro result opening seen memory ⟨rfl, haccepts⟩ ⟨⟨place, hmove, hends⟩, herrors⟩
  refine ⟨⟨place, false⟩, ⟨⟨opening.memory.door.session, hmove⟩, haccepts.symm⟩, ends_outside hends, ?_⟩
  intro _ _ _ _
  constructor
  · intro hresult
    obtain ⟨inner, hinner⟩ := herrors _ hresult
    cases hinner
  · intro hrefused
    cases hrefused

theorem meets_under_lock (memory : CommandMemory session_id)
    (hmoves : CommandMoves (.command parent_run_id run_id body) opening ⟨.holding, false⟩ memory) :
    Coroutine.Meets (command_outline B R session_id host) (.command parent_run_id run_id body)
      (ReleasedAt host (.command parent_run_id run_id body)) (CommandTask.at_door (do
        assert_owner false .refused
        load_session
        run_body body)) opening memory := by
  refine ⟨⟨.holding, false⟩, hmoves, ⟨rfl, rfl⟩, ?_⟩
  rintro answer before after - ⟨hfails, rfl⟩
  rcases answer with error | _
  · obtain ⟨message, rfl⟩ := hfails error rfl
    exact released_failure (by decide) message after
  have hstays : CommandMoves (.command parent_run_id run_id body)
      ⟨some ⟨.door (.assert_owner false), (.ok () : Except StoreError Unit)⟩, ⟨.holding, false⟩, after⟩
      ⟨.holding, false⟩ after :=
    ⟨⟨after.door.session, .waits⟩, (refuses_door (.assert_owner false) _ after).symm⟩
  refine ⟨⟨.holding, false⟩, hstays, ⟨rfl, rfl⟩, ?_⟩
  rintro answer before after - ⟨hfails, rfl⟩
  rcases answer with error | _
  · obtain ⟨message, rfl⟩ := hfails error rfl
    exact released_failure (by decide) message after
  · exact meets_body_at_door after

/-- An execution that comes to the lock is refused there exactly when it is not free, or an export
is in progress. -/
theorem meets_run_agent {given : CommandGiven B R} {memory : CommandMemory session_id}
    (hlooks : looks_at_session (.command parent_run_id run_id body) given = false)
    (hcomes : comes_to_lock (.command parent_run_id run_id body) given = true) :
    Coroutine.Meets (command_outline B R session_id host) (.command parent_run_id run_id body)
      (Coroutine.Over (command_outline B R session_id host) (.command parent_run_id run_id body))
      (CommandTask.run_agent body) ⟨given, ⟨.away, false⟩, memory⟩ memory := by
  have hrefuses : refuses (.command parent_run_id run_id body) given memory = lock_refuses memory := by
    rw [refuses, hlooks, hcomes, Bool.false_and, Bool.true_and, Bool.false_or]
  have haway : Away (.command parent_run_id run_id body) ⟨given, ⟨.away, false⟩, memory⟩ memory :=
    ⟨rfl, rfl, rfl⟩
  have hrefused (h : lock_refuses memory = true) :
      Coroutine.Over (command_outline B R session_id host) (.command parent_run_id run_id body)
        (.error turn_already_in_progress) ⟨given, ⟨.away, false⟩, memory⟩ memory := by
    refine ⟨⟨.away, true⟩, haway.moves true (by rw [hrefuses, h]), ⟨rfl, Place.noConfusion⟩, ?_⟩
    intro _ _ _ _
    exact ⟨fun _ => rfl, fun _ => rfl⟩
  show Coroutine.Meets _ _ _ (if memory.session_is_attached then _ else _) _ memory
  split
  · next hattached =>
    have haccepts : refuses (.command parent_run_id run_id body) given memory = false := by
      rw [hrefuses, lock_refuses, hattached]
      rfl
    exact Spared.over ⟨haway, haccepts⟩ (raised_ne _)
  · next hattached =>
    rw [Bool.not_eq_true] at hattached
    show Coroutine.Meets _ _ _ (CommandTask.at_door (refuse_if memory.locked >>= fun _ => _)) _ memory
    rw [CommandTask.at_door_bind]
    cases hlocked : memory.locked with
    | true =>
      refine hrefused ?_
      rw [lock_refuses, hattached, hlocked]
      rfl
    | false =>
      have hback : (memory.put_door memory.door.acquire).put_door
          (memory.put_door memory.door.acquire).door.release = memory := by
        rw [CommandMemory.door_put_door, release_acquire hlocked]
        rfl
      show Coroutine.Meets _ _ _ (CommandTask.at_door (Coroutine.ensuring SessionDoor.release _)) _
        (memory.put_door memory.door.acquire)
      rw [CommandTask.at_door_ensuring]
      refine Coroutine.Meets.ensuring ?_
      show Coroutine.Meets _ _ _
        (CommandTask.at_door (refuse_if (0 < memory.export_count : Bool) >>= fun _ => _)) _
        (memory.put_door memory.door.acquire)
      rw [CommandTask.at_door_bind]
      cases hcount : decide (0 < memory.export_count) with
      | true =>
        show Coroutine.Over _ _ _ _ ((memory.put_door memory.door.acquire).put_door _)
        rw [hback]
        refine hrefused ?_
        rw [lock_refuses, hattached, hlocked, hcount]
        rfl
      | false =>
        refine meets_under_lock _ ⟨⟨memory.door.session, .takes rfl hlocked ?_⟩, ?_⟩
        · intro _ _
          have hle := of_decide_eq_false hcount
          show memory.export_count = 0
          omega
        · rw [hrefuses, lock_refuses, hattached, hlocked, hcount]
          rfl

theorem spared_keep_tape (previous_run : AgentRunRecord) (h : Spared call opening memory) :
    Coroutine.Meets (command_outline B R session_id host) call
      (fun result opening memory => Spared call opening memory
        ∧ ∀ error, result = .error error → ∃ inner, error = .raised inner)
      (CommandTask.keep_tape previous_run) opening memory := by
  show Coroutine.Meets _ _ _ (if _ then _ else _) opening memory
  split
  · exact spared_chat _ ⟨⟨h.place, h.locked, h.export_count⟩, h.accepts⟩
  · exact ⟨h, fun _ herror => by cases herror⟩

theorem meets_away_await {query : CommandQuery B} {next : query.Answer R → CommandTask session_id B R Unit}
    {post : Except ExclusionError Unit → Opening CommandPlace (CommandMemory session_id)
      (CommandQuery B) (CommandQuery.Answer R) → CommandMemory session_id → Prop}
    (hspared : Spared call opening memory) (haway : CommandAwaits call ⟨.away, false⟩ query)
    (hsame : ∀ answer (before after : CommandMemory session_id),
      CommandAnswers host B R before query answer after → after = before)
    (hnext : ∀ answer memory, Coroutine.Meets (command_outline B R session_id host) call post
      (next answer) ⟨some ⟨query, answer⟩, ⟨.away, false⟩, memory⟩ memory) :
    Coroutine.Meets (command_outline B R session_id host) call post
      (CommandTask.awaited query >>= next) opening memory := by
  refine ⟨⟨.away, false⟩, hspared.moves, haway, ?_⟩
  intro answer before after _ hanswer
  have heq := hsame answer before after hanswer
  subst heq
  exact hnext answer after

theorem spared_after {query : CommandQuery B} {answer : query.Answer R}
    (haccepts : refuses call (some ⟨query, answer⟩) memory = false) :
    Spared call ⟨some ⟨query, answer⟩, ⟨.away, false⟩, memory⟩ memory :=
  ⟨⟨rfl, rfl, rfl⟩, haccepts⟩

theorem meets_resume_from {parent : String} (previous_run : Option AgentRunRecord)
    (hspared : Spared (.command (some parent) run_id body) opening memory) :
    Coroutine.Meets (command_outline B R session_id host) (.command (some parent) run_id body)
      (Coroutine.Over (command_outline B R session_id host) (.command (some parent) run_id body))
      (CommandTask.resume_from body previous_run) opening memory := by
  unfold CommandTask.resume_from
  split
  · exact hspared.over (raised_ne _)
  split
  · exact hspared.over (raised_ne _)
  refine Coroutine.Meets.bind ((spared_keep_tape _ hspared).imp ?_)
  rintro (error | _) opening memory ⟨hspared, herrors⟩
  · obtain ⟨inner, rfl⟩ := herrors error rfl
    exact hspared.over (raised_ne inner)
  refine meets_away_await hspared ⟨rfl, rfl⟩ (fun _ _ _ h => h) (fun built memory => ?_)
  have hbuilt : Spared (.command (some parent) run_id body)
      ⟨some ⟨.build_context, built⟩, ⟨.away, false⟩, memory⟩ memory := spared_after rfl
  rcases built with error | _
  · exact hbuilt.over (raised_ne error)
  show Coroutine.Meets _ _ _
    (CommandTask.append_boundary_anchor >>= fun _ => CommandTask.run_agent body) _ memory
  refine Coroutine.Meets.bind ?_
  show Coroutine.Meets _ _ _ (if memory.manager.session.tape_id.getD "" = "" then _ else _) _ memory
  split
  · exact hbuilt.over (raised_ne _)
  refine meets_away_await hbuilt ⟨rfl, rfl⟩ (fun _ _ _ h => h) (fun saved memory => ?_)
  rcases saved with error | _
  · have hsaved : Spared (.command (some parent) run_id body)
        ⟨some ⟨.save_tape_entries, (.error error : Except StoreError Unit)⟩, ⟨.away, false⟩, memory⟩
        memory := spared_after rfl
    exact hsaved.over (raised_ne error)
  · exact meets_run_agent rfl rfl

/-- A resume is refused where it looks at the session exactly when a turn is marked. -/
theorem meets_resume {parent : String} {memory : CommandMemory session_id} :
    Coroutine.Meets (command_outline B R session_id host) (.command (some parent) run_id body)
      (Coroutine.Over (command_outline B R session_id host) (.command (some parent) run_id body))
      (CommandTask.resume parent body)
      ⟨some ⟨.load_session, (.ok () : Except StoreError Unit)⟩, ⟨.away, false⟩, memory⟩ memory := by
  have hrefuses : refuses (.command (some parent) run_id body)
      (some ⟨.load_session, (.ok () : Except StoreError Unit)⟩) memory
        = CommandTask.turn_marked memory.manager.session := by
    show (true && _ || false && _) = _
    rw [Bool.true_and, Bool.false_and, Bool.or_false]
  have haway : Away (.command (some parent) run_id body)
      ⟨some ⟨.load_session, (.ok () : Except StoreError Unit)⟩, ⟨.away, false⟩, memory⟩ memory :=
    ⟨rfl, rfl, rfl⟩
  show Coroutine.Meets _ _ _ (if CommandTask.turn_marked memory.manager.session then _ else _) _ memory
  split
  · next hmarked =>
    refine ⟨⟨.away, true⟩, haway.moves true (by rw [hrefuses, hmarked]), ⟨rfl, Place.noConfusion⟩, ?_⟩
    intro _ _ _ _
    exact ⟨fun _ => rfl, fun _ => rfl⟩
  · next hmarked =>
    rw [Bool.not_eq_true] at hmarked
    have hspared : Spared (.command (some parent) run_id body)
        ⟨some ⟨.load_session, (.ok () : Except StoreError Unit)⟩, ⟨.away, false⟩, memory⟩ memory :=
      ⟨haway, by rw [hrefuses, hmarked]⟩
    split
    · exact hspared.over (raised_ne _)
    · refine meets_away_await hspared ⟨rfl, rfl⟩ (fun _ _ _ h => h.2) (fun previous_run memory => ?_)
      exact meets_resume_from previous_run (spared_after rfl)

theorem meets_command_launch (memory : CommandMemory session_id) :
    Coroutine.Meets (command_outline B R session_id host) (.command parent_run_id run_id body)
      (Coroutine.Over (command_outline B R session_id host) (.command parent_run_id run_id body))
      (CommandTask.launch_admitted_command parent_run_id run_id body) ⟨none, {}, memory⟩ memory := by
  have hlaunched : Spared (.command parent_run_id run_id body)
      (⟨none, {}, memory⟩ : Opening CommandPlace (CommandMemory session_id) (CommandQuery B)
        (CommandQuery.Answer R)) (memory.launch run_id) := by
    refine ⟨⟨rfl, rfl, rfl⟩, ?_⟩
    cases parent_run_id <;> rfl
  refine meets_away_await hlaunched ⟨rfl, rfl⟩ (fun _ _ _ h => h) (fun started memory => ?_)
  have hstarted : Spared (.command parent_run_id run_id body)
      ⟨some ⟨.first_step, started⟩, ⟨.away, false⟩, memory⟩ memory :=
    spared_after (by cases parent_run_id <;> rfl)
  refine meets_away_await hstarted ⟨rfl, rfl⟩ (fun _ _ _ h => h) (fun prompt memory => ?_)
  rcases prompt with error | prompt
  · have hfailed : Spared (.command parent_run_id run_id body)
        ⟨some ⟨.command_prompt, (.error error : Except StoreError String)⟩, ⟨.away, false⟩, memory⟩
        memory := spared_after (by cases parent_run_id <;> rfl)
    exact hfailed.over (raised_ne error)
  cases parent_run_id with
  | none => exact meets_run_agent rfl rfl
  | some parent =>
    have hprompted : Spared (.command (some parent) run_id body)
        ⟨some ⟨.command_prompt, (.ok prompt : Except StoreError String)⟩, ⟨.away, false⟩, memory⟩
        memory := spared_after rfl
    refine meets_away_await hprompted ⟨rfl, rfl⟩ (fun _ _ _ h => h) (fun owner memory => ?_)
    have howner : Spared (.command (some parent) run_id body)
        ⟨some ⟨.assert_owner, owner⟩, ⟨.away, false⟩, memory⟩ memory := spared_after rfl
    rcases owner with error | _
    · exact howner.over (raised_ne error)
    refine meets_away_await howner ⟨rfl, rfl⟩ (fun _ _ _ h => h) (fun loaded memory => ?_)
    rcases loaded with error | _
    · have hloaded : Spared (.command (some parent) run_id body)
          ⟨some ⟨.load_session, (.error error : Except StoreError Unit)⟩, ⟨.away, false⟩, memory⟩
          memory := spared_after rfl
      exact hloaded.over (raised_ne error)
    · exact meets_resume

theorem meets_command_code (call : CommandCall B R) (memory : CommandMemory session_id) :
    Coroutine.Meets (command_outline B R session_id host) call
      (Coroutine.Over (command_outline B R session_id host) call) (call.code host) ⟨none, {}, memory⟩
      memory := by
  cases call with
  | chat manager_call =>
    have hspared : Spared (.chat manager_call)
        (⟨none, {}, memory⟩ : Opening CommandPlace (CommandMemory session_id) (CommandQuery B)
          (CommandQuery.Answer R)) memory := ⟨⟨rfl, rfl, rfl⟩, rfl⟩
    refine (spared_chat _ hspared).imp ?_
    rintro result opening memory ⟨hspared, herrors⟩
    refine hspared.over ?_
    rintro rfl
    obtain ⟨inner, hinner⟩ := herrors _ rfl
    cases hinner
  | at_door exclusion => exact meets_door_call exclusion memory
  | command parent_run_id run_id body => exact meets_command_launch memory

end Execution

end Segments

/-! ## Every run -/

section Runs

variable {host : SessionHost} {loop loop' start : CommandLoop session_id B R}
  {event : CommandEvent session_id B R} {events : List (CommandEvent session_id B R)}
  {states : Nat → CommandPlace} {pid : Nat}

/-- What every step preserves. -/
structure LaunchKept (host : SessionHost) (states : Nat → CommandPlace)
    (loop : CommandLoop session_id B R) : Prop where
  outlined : Outlined (command_outline B R session_id host) {} states loop
  lock : LockHeld (CommandPlace.place ∘ states) loop.memory.door
  count : ExportsCounted (CommandPlace.place ∘ states) loop.memory.door

theorem command_step (h : LaunchKept host states loop)
    (hstep : CommandStep host session_id B R loop event loop') :
    (∃ pid call given state,
        Moved (command_outline B R session_id host) {} states event pid call given state
          ∧ LaunchKept host (Function.update states pid state) loop')
      ∨ event.segment = none ∧ LaunchKept host states loop' := by
  obtain ⟨hbefore, hafter⟩ := hstep.memory
  have hmeets : ∀ call memory, (command_outline B R session_id host).knows {} memory →
      Coroutine.Meets (command_outline B R session_id host) call
        (Coroutine.Over (command_outline B R session_id host) call) (call.code host)
        ⟨none, {}, memory⟩ memory := fun call memory _ => meets_command_code call memory
  rcases h.outlined.step rfl hmeets (fun _ => trivial) hstep with
    ⟨pid, call, given, state, hmoved, houtlined⟩ | ⟨hsegment, hchanges, houtlined⟩
  · obtain ⟨⟨session, hmove⟩, -⟩ := hmoved.moves
    have hlock : LockHeld (CommandPlace.place ∘ states) { event.before.door with session } := by
      rw [hbefore]
      exact h.lock
    have hcount : ExportsCounted (CommandPlace.place ∘ states) { event.before.door with session } := by
      rw [hbefore]
      exact h.count
    refine .inl ⟨pid, call, given, state, hmoved, houtlined, ?_, ?_⟩
    · rw [Function.comp_update, ← hafter]
      exact hlock.move hmove
    · rw [Function.comp_update, ← hafter]
      exact hcount.move hmove
  · obtain ⟨hlocked, hexports⟩ := hchanges
    rw [hbefore, hafter] at hlocked hexports
    have hdoor : loop'.memory.door = { loop.memory.door with session := loop'.memory.door.session } := by
      unfold CommandMemory.door
      rw [hlocked, hexports]
    refine .inr ⟨hsegment, houtlined, ?_, ?_⟩
    · rw [hdoor]
      exact h.lock
    · rw [hdoor]
      exact h.count

section

variable (h : Outlined (command_outline B R session_id host) {} states loop)

include h

theorem stands_where (hplace : (states pid).place.holds = true ∨ (states pid).place = .exporting) :
    ∃ call query resume, loop.tasks pid = some ⟨call, .await (.door query) resume⟩
      ∧ AwaitsAt call.at_lock (states pid).place query := by
  have haway : (states pid).place ≠ .away := by
    rintro heq
    rw [heq] at hplace
    rcases hplace with hholds | hexports
    · cases hholds
    · cases hexports
  have hpid := h pid
  have hended {result : Except ExclusionError Unit} {call : CommandCall B R}
      (hends : CommandEnds call (states pid) result) : False := by
    rcases hplace with hholds | hexports
    · rw [hends.outside.1] at hholds
      cases hholds
    · exact hends.outside.2 hexports
  split at hpid
  · rw [hpid] at haway
    exact absurd rfl haway
  · next task htask =>
    obtain ⟨call, rest⟩ := task
    cases rest with
    | done value => exact (hended hpid).elim
    | fail error => exact (hended hpid).elim
    | access change next => exact hpid.elim
    | await query resume =>
      have hasks : CommandAwaits call (states pid) query := hpid.1
      cases query with
      | door query => exact ⟨call, query, resume, htask, hasks.2⟩
      | _ => exact absurd hasks.2 haway

theorem enters_or_runs
    (hholds : (states pid).place.holds = true) : Enters loop pid ∨ BodyRuns loop pid := by
  obtain ⟨call, query, resume, htask, hawaits⟩ := stands_where h (.inl hholds)
  have hlock := (awaits_place hawaits).1.mp hholds
  cases query with
  | assert_owner again =>
    cases again with
    | false => exact .inl ⟨call, _, resume, htask, hlock, .inl rfl⟩
    | true => exact .inr ⟨call, _, resume, htask, .inr (.inr rfl)⟩
  | load_session => exact .inl ⟨call, _, resume, htask, hlock, .inr rfl⟩
  | to_thread => exact .inr ⟨call, _, resume, htask, .inr (.inl rfl)⟩
  | body wait => exact .inr ⟨call, _, resume, htask, .inl ⟨wait, rfl⟩⟩

theorem exporting_runs (hexporting : (states pid).place = .exporting) : BodyRuns loop pid := by
  obtain ⟨call, query, resume, htask, hawaits⟩ := stands_where h (.inr hexporting)
  exact ⟨call, query, resume, htask, .inr ((awaits_place hawaits).2.mp hexporting)⟩

end

variable {call : CommandCall B R}

section

variable (h : Outlined (command_outline B R session_id host) {} states loop)

include h

theorem door_awaits {query : ExclusionQuery B}
    {resume : (CommandQuery.door query).Answer R → CommandTask session_id B R Unit}
    (htask : loop.tasks pid = some ⟨call, .await (.door query) resume⟩) :
    AwaitsAt call.at_lock (states pid).place query :=
  (h.waiting htask).2

theorem enters_holds (henters : Enters loop pid) : (states pid).place.holds = true := by
  obtain ⟨call, query, resume, htask, hlock, -⟩ := henters
  exact (awaits_place (door_awaits h htask)).1.mpr hlock

theorem runs_not_away (hruns : BodyRuns loop pid) : (states pid).place ≠ .away := by
  obtain ⟨call, query, resume, htask, hquery⟩ := hruns
  have hawaits := door_awaits h htask
  intro haway
  rw [haway] at hawaits
  rcases hquery with ⟨wait, rfl⟩ | hquery
  · cases hawaits.2
  · have hexporting := (awaits_place hawaits).2.mpr hquery
    cases hexporting

end

theorem LaunchKept.lock_refused (h : LaunchKept host states loop)
    (hrefuses : lock_refuses loop.memory = true) :
    loop.memory.session_is_attached = false ∧ ∃ pid, Enters loop pid ∨ BodyRuns loop pid := by
  rw [lock_refuses, Bool.and_eq_true, Bool.or_eq_true, Bool.not_eq_true'] at hrefuses
  obtain ⟨hattached, hlocked | hcounted⟩ := hrefuses
  · obtain ⟨holder, hholds⟩ := h.lock.1.mp hlocked
    exact ⟨hattached, holder, enters_or_runs h.outlined hholds⟩
  · obtain ⟨exporting, hmem, hcard⟩ := h.count
    have hpos : 0 < exporting.card := by
      rw [← hcard]
      exact of_decide_eq_true hcounted
    obtain ⟨exporter, hexporter⟩ := Finset.card_pos.mp hpos
    exact ⟨hattached, exporter, .inr (exporting_runs h.outlined ((hmem exporter).mp hexporter))⟩

theorem refuses_away {given : CommandGiven B R} {state : CommandPlace}
    (hmoved : Moved (command_outline B R session_id host) {} states event pid call given state)
    (hrefuses : refuses call given event.before = true) : (states pid).place = .away := by
  cases given with
  | none =>
    have hfirst : states pid = {} := hmoved.stood
    rw [hfirst]
  | some told =>
    obtain ⟨query, answer⟩ := told
    have hstood : CommandAwaits call (states pid) query := hmoved.stood
    cases query with
    | door query =>
      rw [refuses_door query answer event.before] at hrefuses
      cases hrefuses
    | _ => exact hstood.2

theorem LaunchKept.starts_unless (h : LaunchKept host states loop)
    (hstep : CommandStep host session_id B R loop event loop') (hclear : StartsClear loop event) :
    StartsUnlessRunning loop event loop' := by
  intro pid parent_run_id run_id body hpid htask
  rcases command_step h hstep with ⟨moved, call, given, state, hmoved, hkept⟩ | ⟨hsegment, -⟩
  · have hsame : moved = pid := by
      rw [LoopEvent.pid_eq_segment, hmoved.segment] at hpid
      exact Option.some.inj hpid
    subst hsame
    have hends : CommandEnds (.command parent_run_id run_id body) state
        (.error turn_already_in_progress) := by
      have hrests := hkept.outlined.failed htask
      rwa [Function.update_self] at hrests
    have hrefused : state.refused = true := (hends.refused _ _ _ rfl).mp rfl
    have hrefuses : refuses call given event.before = true := hmoved.moves.2.symm.trans hrefused
    have hother : ∀ other, BodyRuns loop other → other ≠ moved := by
      rintro other hruns rfl
      exact runs_not_away h.outlined hruns (refuses_away hmoved hrefuses)
    rw [refuses, Bool.or_eq_true, Bool.and_eq_true, Bool.and_eq_true] at hrefuses
    rcases hrefuses with ⟨hlooks, hmarked⟩ | ⟨hcomes, hlock⟩
    · obtain ⟨other, hruns⟩ := hclear.unmarked moved call given hmoved.segment hlooks hmarked
      exact ⟨other, hother other hruns, hruns⟩
    · have hbefore := hstep.memory.1
      rw [hbefore] at hlock
      obtain ⟨hattached, other, henters | hruns⟩ := h.lock_refused hlock
      · rw [← hbefore] at hattached
        obtain ⟨running, hruns⟩ :=
          hclear.unlocked moved call given hmoved.segment hcomes hattached ⟨other, henters⟩
        exact ⟨running, hother running hruns, hruns⟩
      · exact ⟨other, hother other hruns, hruns⟩
  · rw [LoopEvent.pid_eq_segment, hsegment] at hpid
    cases hpid

theorem LaunchKept.refused_task {given : CommandGiven B R} {state : CommandPlace}
    (hkept : LaunchKept host (Function.update states pid state) loop')
    (hstep : CommandStep host session_id B R loop event loop')
    (hmoved : Moved (command_outline B R session_id host) {} states event pid call given state)
    (hrefuses : refuses call given event.before = true) :
    ∃ parent_run_id run_id body, loop'.tasks pid
      = some ⟨.command parent_run_id run_id body, .fail turn_already_in_progress⟩ := by
  have hrefused : state.refused = true := hmoved.moves.2.trans hrefuses
  obtain ⟨rest, htask⟩ := hstep.ran_task hmoved.segment
  have hrests := hkept.outlined pid
  rw [htask] at hrests
  simp only [Function.update_self] at hrests
  cases call with
  | chat manager_call =>
    rcases given with _ | ⟨_ | _, _⟩ <;> cases hrefuses
  | at_door exclusion =>
    rcases given with _ | ⟨_ | _, _⟩ <;> cases hrefuses
  | command parent_run_id run_id body =>
    refine ⟨parent_run_id, run_id, body, ?_⟩
    rw [htask]
    cases rest with
    | done value =>
      have hends : CommandEnds (.command parent_run_id run_id body) state (.ok value) := hrests
      cases (hends.refused _ _ _ rfl).mpr hrefused
    | fail error =>
      have hends : CommandEnds (.command parent_run_id run_id body) state (.error error) := hrests
      cases (hends.refused _ _ _ rfl).mpr hrefused
      rfl
    | access change next => exact hrests.elim
    | await query resume =>
      have hawaits : CommandAwaits (.command parent_run_id run_id body) state query := hrests.1
      have haccepts : state.refused = false := by
        cases query with
        | door query => exact hawaits.1
        | _ => exact hawaits.1
      rw [haccepts] at hrefused
      cases hrefused

theorem LaunchKept.clear_of (h : LaunchKept host states loop)
    (hstep : CommandStep host session_id B R loop event loop')
    (hstarts : StartsUnlessRunning loop event loop') : StartsClear loop event := by
  rcases command_step h hstep with ⟨moved, call, given, state, hmoved, hkept⟩ | ⟨hsegment, -⟩
  · have hruns (hrefuses : refuses call given event.before = true) : ∃ other, BodyRuns loop other := by
      obtain ⟨parent_run_id, run_id, body, htask⟩ := hkept.refused_task hstep hmoved hrefuses
      have hpid : event.pid = some moved := by rw [LoopEvent.pid_eq_segment, hmoved.segment]; rfl
      obtain ⟨other, -, hruns⟩ := hstarts moved parent_run_id run_id body hpid htask
      exact ⟨other, hruns⟩
    constructor
    · intro pid call' given' hsegment hlooks hmarked
      rw [hmoved.segment] at hsegment
      cases hsegment
      exact hruns (by rw [refuses, hlooks, hmarked]; rfl)
    · rintro pid call' given' hsegment hcomes hattached ⟨other, henters⟩
      rw [hmoved.segment] at hsegment
      cases hsegment
      have hlocked : event.before.locked = true := by
        rw [hstep.memory.1]
        exact h.lock.1.mpr ⟨other, enters_holds h.outlined henters⟩
      refine hruns ?_
      rw [refuses, hcomes, lock_refuses, hattached, hlocked, Bool.or_eq_true]
      exact .inr rfl
  · constructor
    · intro pid call given hsome
      rw [hsegment] at hsome
      cases hsome
    · intro pid call given hsome
      rw [hsegment] at hsome
      cases hsome

theorem launch_kept (hidle : start.Idle) (hfree : start.memory.locked = false)
    (hnone : start.memory.export_count = 0)
    (hrun : Run (CommandStep host session_id B R) start events loop) :
    ∃ states, LaunchKept host states loop := by
  refine hrun.invariant (I := fun loop => ∃ states, LaunchKept host states loop) ?_ ?_
  · refine ⟨fun _ => {}, hidle.outlined, ?_, ⟨∅, by simp, hnone⟩⟩
    have hunlocked : start.memory.door.locked = false := hfree
    constructor
    · simp [hunlocked, Place.holds]
    · intro pid other hholds
      cases hholds
  · rintro loop event loop' ⟨states, h⟩ hstep
    rcases command_step h hstep with ⟨pid, call, given, state, -, hkept⟩ | ⟨-, hkept⟩
    · exact ⟨_, hkept⟩
    · exact ⟨_, hkept⟩

/-- **An execution is refused for a turn in progress only where one is running exactly when** a resume
finds no turn marked, and an execution that comes to the lock finds nobody before its body. -/
theorem commands_start_iff (hidle : start.Idle) (hfree : start.memory.locked = false)
    (hnone : start.memory.export_count = 0)
    (hrun : Run (CommandStep host session_id B R) start events loop)
    (hstep : CommandStep host session_id B R loop event loop') :
    StartsUnlessRunning loop event loop' ↔ StartsClear loop event := by
  obtain ⟨states, h⟩ := launch_kept hidle hfree hnone hrun
  exact ⟨h.clear_of hstep, h.starts_unless hstep⟩

end Runs

end Calls

/-! ### A prompt and a resume -/

def sample_command_loop : CommandLoop "s" Unit (fun _ => Unit) where
  memory := { manager := sample_chat_loop.memory }
  tasks := fun _ => none

/-- Every await is answered as hoped. -/
def command_reply (clock : Datetime) (memory : CommandMemory "s") :
    (query : CommandQuery Unit) → query.Answer (fun _ => Unit) × CommandMemory "s"
  | .manager query =>
    ((manager_reply clock memory.manager query).1,
      memory.put_manager (manager_reply clock memory.manager query).2)
  | .door query => ((exclusion_reply () memory.door query).1, memory)
  | .first_step => ((), memory)
  | .command_prompt => ((.ok "go" : Except StoreError String), memory)
  | .assert_owner => ((.ok () : Except StoreError Unit), memory)
  | .load_session => ((.ok () : Except StoreError Unit), memory)
  | .load_runtime_run run_id => (memory.manager.store.tables.agent_runs.row run_id, memory)
  | .build_context => ((.ok () : Except StoreError Unit), memory)
  | .save_tape_entries => ((.ok () : Except StoreError Unit), memory)

theorem fails_with_ok (cls : ErrorClass) : FailsWith cls (.ok ()) := by
  intro error h
  cases h

theorem command_reply_answers (clock : Datetime) (memory : CommandMemory "s")
    (query : CommandQuery Unit) :
    CommandAnswers sample_session_host Unit (fun _ => Unit) memory query
      (command_reply clock memory query).1 (command_reply clock memory query).2 := by
  cases query with
  | manager query => exact ⟨_, manager_reply_answers clock memory.manager query, rfl⟩
  | door query =>
    cases query with
    | assert_owner again => exact ⟨fails_with_ok _, rfl⟩
    | load_session => exact ⟨fails_with_ok _, rfl⟩
    | _ => rfl
  | load_runtime_run run_id => exact ⟨rfl, rfl⟩
  | _ => rfl

abbrev CommandInput : Type := Input (CommandCall Unit (fun _ => Unit)) Datetime

abbrev play_commands (script : List CommandInput) :
    List (CommandEvent "s" Unit (fun _ => Unit)) × CommandLoop "s" Unit (fun _ => Unit) :=
  EventLoop.play (CommandCall.code sample_session_host) command_reply sample_command_loop script

def asked (pid : Nat) (call : CommandCall Unit (fun _ => Unit)) (answers : Nat) : List CommandInput :=
  .start pid call :: List.replicate answers (.answer pid 1)

def prompt_launched : List CommandInput :=
  asked 0 (.chat (.admit_chat_command "go" "c" none)) 6
    ++ asked 1 (.command none "s:c" waiting_body) 1

/-- A command is settled, and a resume of it is admitted and launched. -/
def resume_launched : List CommandInput :=
  asked 0 (.chat (.admit_chat_command "go" "c" none)) 6
    ++ asked 1 (.chat (.settle_root_run { run_id := "s:c", outcome := "completed" })) 8
    ++ asked 2 (.chat (.admit_chat_command "go on" "d" (some "s:c"))) 6
    ++ asked 3 (.command (some "s:c") "s:d" waiting_body) 3

theorem played_commands (script : List CommandInput) :
    Run (CommandStep sample_session_host "s" Unit (fun _ => Unit)) sample_command_loop
      (play_commands script).1 (play_commands script).2 :=
  EventLoop.play_run command_reply_answers sample_command_loop script

def waits_at_door {B : Type} {R : B → Type}
    (task : LoopTask (CommandCall B R) (CommandMemory "s") (CommandQuery B) (CommandQuery.Answer R)
      ExclusionError Unit) : Bool :=
  match task.awaits with
  | some (.door _) => true
  | _ => false

/-- No call below `bound` awaits anything at the turn lock. -/
def door_deserted (bound : Nat) (loop : CommandLoop "s" Unit (fun _ => Unit)) : Bool :=
  (List.range bound).all (fun pid => !(loop.tasks pid).any waits_at_door)

theorem not_at_door {bound : Nat} {script : List CommandInput}
    (hbelow : script.all (fun input => input.pid < bound) = true)
    (hdeserted : door_deserted bound (play_commands script).2 = true) (pid : Nat) :
    ¬ Enters (play_commands script).2 pid ∧ ¬ BodyRuns (play_commands script).2 pid := by
  have hnone : ∀ call query resume,
      (play_commands script).2.tasks pid ≠ some ⟨call, .await (.door query) resume⟩ := by
    intro call query resume htask
    by_cases hpid : pid < bound
    · have hwaits := List.all_eq_true.mp hdeserted pid (List.mem_range.mpr hpid)
      rw [htask] at hwaits
      cases hwaits
    · have hother : ∀ input ∈ script, pid ≠ input.pid := by
        intro input hmem
        have hlt := of_decide_eq_true (List.all_eq_true.mp hbelow input hmem)
        omega
      have hfree : (play_commands script).2.tasks pid = none :=
        play_tasks hother sample_command_loop
      rw [hfree] at htask
      cases htask
  constructor
  · rintro ⟨call, query, resume, htask, -⟩
    exact hnone call query resume htask
  · rintro ⟨call, query, resume, htask, -⟩
    exact hnone call query resume htask

abbrev taken_after (script : List CommandInput) (pid : Nat) :
    Option (CommandEvent "s" Unit (fun _ => Unit) × CommandLoop "s" Unit (fun _ => Unit)) :=
  Input.take (CommandCall.code sample_session_host) command_reply (play_commands script).2
    (.answer pid 1)

/-- A prompt comes to a free lock. -/
theorem commands_start_iff_prompt :
    ∃ event loop', taken_after prompt_launched 1 = some (event, loop')
      ∧ StartsUnlessRunning (play_commands prompt_launched).2 event loop' := by
  have htaken : (taken_after prompt_launched 1).isSome = true := by decide +kernel
  have hlooks : (taken_after prompt_launched 1).all (fun taken => taken.1.segment.all
      (fun segment => !looks_at_session segment.2.1 segment.2.2)) = true := by decide +kernel
  have hbelow : prompt_launched.all (fun input => input.pid < 2) = true := by decide
  have hdeserted := not_at_door hbelow (by decide +kernel)
  obtain ⟨⟨event, loop'⟩, heq⟩ := Option.isSome_iff_exists.mp htaken
  rw [heq, Option.all_some] at hlooks
  refine ⟨event, loop', heq, ?_⟩
  refine (commands_start_iff (fun _ => rfl) rfl rfl (played_commands prompt_launched)
    (Input.take_step command_reply_answers heq)).mpr ⟨?_, ?_⟩
  · intro pid call given hsegment hlooking
    rw [hsegment, Option.all_some, hlooking] at hlooks
    cases hlooks
  · rintro pid call given - - - ⟨other, henters⟩
    exact absurd henters (hdeserted other).1

def accepts_in_launch (event : CommandEvent "s" Unit (fun _ => Unit)) : Bool :=
  match event.segment with
  | some (_, _, some ⟨.manager query, answer⟩) => accepts_admission (some ⟨query, answer⟩)
  | _ => false

/-- The task is an execution that was refused for a turn in progress. -/
def is_refused (task : LoopTask (CommandCall Unit (fun _ => Unit)) (CommandMemory "s")
    (CommandQuery Unit) (CommandQuery.Answer (fun _ : Unit => Unit)) ExclusionError Unit) : Bool :=
  match task with
  | ⟨.command _ _ _, .fail error⟩ => error == turn_already_in_progress
  | _ => false

theorem is_refused_iff {task : LoopTask (CommandCall Unit (fun _ => Unit)) (CommandMemory "s")
    (CommandQuery Unit) (CommandQuery.Answer (fun _ : Unit => Unit)) ExclusionError Unit} :
    is_refused task = true ↔ ∃ parent_run_id run_id body,
      task = ⟨.command parent_run_id run_id body, .fail turn_already_in_progress⟩ := by
  constructor
  · intro h
    unfold is_refused at h
    split at h
    · next parent_run_id run_id body error =>
      exact ⟨parent_run_id, run_id, body, by rw [beq_iff_eq.mp h]⟩
    · cases h
  · rintro ⟨parent_run_id, run_id, body, rfl⟩
    exact beq_iff_eq.mpr rfl

/-- A resume of a settled run is admitted, launched, and refused for a turn in progress, while no
body is running and no export is in progress. -/
theorem resume_refused_by_its_own_marks :
    ((play_commands resume_launched).1.filter accepts_in_launch).length = 2
      ∧ ∃ event loop', CommandStep sample_session_host "s" Unit (fun _ => Unit)
          (play_commands resume_launched).2 event loop'
        ∧ ¬ StartsUnlessRunning (play_commands resume_launched).2 event loop' := by
  have htaken : (taken_after resume_launched 3).isSome = true := by decide +kernel
  have hrefused : (taken_after resume_launched 3).all (fun taken => (taken.1.pid == some 3)
      && (taken.2.tasks 3).any is_refused) = true := by decide +kernel
  obtain ⟨⟨event, loop'⟩, heq⟩ := Option.isSome_iff_exists.mp htaken
  rw [heq, Option.all_some, Bool.and_eq_true, beq_iff_eq, Option.any_eq_true] at hrefused
  obtain ⟨hpid, task, htask, his_refused⟩ := hrefused
  obtain ⟨parent_run_id, run_id, body, rfl⟩ := is_refused_iff.mp his_refused
  refine ⟨by decide +kernel, event, loop', Input.take_step command_reply_answers heq, ?_⟩
  intro hstarts
  obtain ⟨other, -, hruns⟩ := hstarts 3 parent_run_id run_id body hpid htask
  have hbelow : resume_launched.all (fun input => input.pid < 4) = true := by decide
  exact (not_at_door hbelow (by decide +kernel) other).2 hruns

end CodingAgentLoop
