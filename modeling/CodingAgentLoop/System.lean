/-
Any number of segments on one store.

A world is the store's tables and the segments that run against them, each with the
task it is in and the queries it has had answered. A step answers the query one
segment waits for, lets a segment go on to the next head of its loop, starts a
segment, or is something another client does to the store. Nothing says which comes
next: that a segment is never resumed is a crash, that two segments work on one run is
a duplicate, and an answer may be a storage failure although the write happened.

The events of a run carry what their segment had seen before, so a statement about one
segment is a statement about the events of the run. `segment_meets` is the rule for
such statements: an invariant of the heads that every round preserves, and what a round
guarantees about its queries.
-/
import CodingAgentLoop.Segment
import CodingAgentLoop.StoreSteps

open Lib Dialogue

namespace CodingAgentLoop

/-! ## Answers -/

def commit_answer : Except StoreError StoreAnswer → Except StoreError AuthoritativeCommit
  | .ok (.commit commit) => .ok commit
  | .ok _ => raise .TypeError "store returned no commit"
  | .error error => .error error

/-- The answer of a query that the storage layer failed on. -/
def storage_failure_answer (message : String) : (query : Query) → Option (Answer query)
  | .commit _ _ => some (.error (storage_error message))
  | .store _ => some (.error (storage_error message))
  | .load_operation_state _ _ => some (.error (storage_error message))
  | .load_effect_slot _ _ => some (.error (storage_error message))
  | .load_executor_attempt _ => some (.error (storage_error message))
  | .load_child_binding_of_effect _ _ => some (.error (storage_error message))
  | .load_child_binding_of_run _ _ => some (.error (storage_error message))
  | .load_effect_reconciliation_evidence _ _ => some (.error (storage_error message))
  | _ => none

def Query.outside : Query → Bool
  | .clock => true
  | .permit_token => true
  | .observe => true
  | .generate _ _ => true
  | .execute_backend _ _ => true
  | .cancellation => true
  | _ => false

/-- How a query may be answered on the tables, what the store did for it, and the tables left. -/
inductive Answers (host : Host) (db : Tables) :
    (query : Query) → Answer query → List StoreEvent → Tables → Prop
  /-- A transaction and its answer. -/
  | committed {authority : OwnerAuthority} {unit : UnitOfWork} {clock : Datetime}
      {stored : Option JsonObject} {new_sessions_enabled : Bool}
      {answer : Except StoreError StoreAnswer} {db' : Tables}
      (step : StoreStep host db (.call clock
        (.commit_authoritative_uow authority unit stored new_sessions_enabled) answer) db') :
      Answers host db (.commit authority unit) (commit_answer answer)
        [.call clock (.commit_authoritative_uow authority unit stored new_sessions_enabled) answer]
        db'
  | performed {clock : Datetime} {call : StoreCall} {answer : Except StoreError StoreAnswer}
      {db' : Tables} (step : StoreStep host db (.call clock call answer) db') :
      Answers host db (.store call) answer [.call clock call answer] db'
  /-- A transaction whose acknowledgement was lost. -/
  | commit_unacknowledged {authority : OwnerAuthority} {unit : UnitOfWork} {clock : Datetime}
      {stored : Option JsonObject} {new_sessions_enabled : Bool}
      {answer : Except StoreError StoreAnswer} {db' : Tables} {message : String}
      (step : StoreStep host db (.call clock
        (.commit_authoritative_uow authority unit stored new_sessions_enabled) answer) db') :
      Answers host db (.commit authority unit) (.error (storage_error message))
        [.call clock (.commit_authoritative_uow authority unit stored new_sessions_enabled) answer]
        db'
  | call_unacknowledged {clock : Datetime} {call : StoreCall}
      {answer : Except StoreError StoreAnswer} {db' : Tables} {message : String}
      (step : StoreStep host db (.call clock call answer) db') :
      Answers host db (.store call) (.error (storage_error message)) [.call clock call answer] db'
  /-- A read. -/
  | read {query : Query} {answer : Answer query} (found : read_answer db query = some answer) :
      Answers host db query answer [] db
  /-- A query the storage layer failed on before it did anything. -/
  | failed {query : Query} {answer : Answer query} {message : String}
      (found : storage_failure_answer message query = some answer) :
      Answers host db query answer [] db
  /-- The clock, the probe, the model and the backend answer what they like. -/
  | outside {query : Query} {answer : Answer query} (h : query.outside = true) :
      Answers host db query answer [] db

/-! ## Worlds -/

/-- A running segment: the head it started its round from, and where it is in it. -/
structure Process where
  head : Segment
  task : Task Segment
  history : TaskHistory

/-- The tables and the segments. -/
structure World where
  tables : Tables
  processes : Nat → Option Process

inductive WorldEvent where
  | spawned (pid : Nat) (segment : Segment)
  | answered (pid : Nat) (head : Segment) (history : TaskHistory) (query : Query)
      (answer : Answer query) (stored : List StoreEvent)
  | looped (pid : Nat) (segment : Segment)
  | client (event : StoreEvent)

def WorldEvent.stored : WorldEvent → List StoreEvent
  | .spawned _ _ => []
  | .answered _ _ _ _ _ stored => stored
  | .looped _ _ => []
  | .client event => [event]

/-- A segment as it is started: `run` of a valid request, or a reconciliation. -/
def Segment.Entry (segment : Segment) : Prop :=
  (∃ request, request.post_init = .ok () ∧ Segment.run request = .ok segment)
    ∨ ∃ frame, segment = .reconciling frame

/-- `processes` with the process `pid` replaced. -/
def World.resumed (world : World) (pid : Nat) (process : Process) (tables : Tables) : World where
  tables
  processes := Function.update world.processes pid (some process)

/-- One step of a world. `hosts` are the runtimes of its segments. -/
inductive WorldStep (host : Host) (hosts : Nat → DurableRuntime) :
    World → WorldEvent → World → Prop
  | spawned {world : World} {pid : Nat} {segment : Segment}
      (free : world.processes pid = none) (entry : segment.Entry) :
      WorldStep host hosts world (.spawned pid segment)
        (world.resumed pid ⟨segment, segment.advance (hosts pid).host, []⟩ world.tables)
  | answered {world : World} {pid : Nat} {head : Segment} {history : TaskHistory} {query : Query}
      {resume : Answer query → Task Segment} {answer : Answer query} {stored : List StoreEvent}
      {tables : Tables}
      (waiting : world.processes pid = some ⟨head, .ask query resume, history⟩)
      (answers : Answers host world.tables query answer stored tables) :
      WorldStep host hosts world (.answered pid head history query answer stored)
        (world.resumed pid ⟨head, resume answer, history ++ [⟨query, answer⟩]⟩ tables)
  | looped {world : World} {pid : Nat} {head segment : Segment} {history : TaskHistory}
      (done : world.processes pid = some ⟨head, .done segment, history⟩) :
      WorldStep host hosts world (.looped pid segment)
        (world.resumed pid ⟨segment, segment.advance (hosts pid).host, history⟩ world.tables)
  | client {world : World} {event : StoreEvent} {tables : Tables}
      (step : StoreStep host world.tables event tables) :
      WorldStep host hosts world (.client event) { world with tables }

def World.empty : World := ⟨Tables.empty, fun _ => none⟩

abbrev WorldRun (host : Host) (hosts : Nat → DurableRuntime) (events : List WorldEvent)
    (world : World) : Prop :=
  Run (WorldStep host hosts) World.empty events world

/-! ## The store of a world -/

section Runs

variable {host : Host} {hosts : Nat → DurableRuntime} {events : List WorldEvent}
  {world world' : World} {event : WorldEvent}

theorem Answers.stored_run {db db' : Tables} {query : Query} {answer : Answer query}
    {stored : List StoreEvent} (h : Answers host db query answer stored db') :
    Run (StoreStep host) db stored db' := by
  cases h with
  | committed step => exact Run.single step
  | performed step => exact Run.single step
  | commit_unacknowledged step => exact Run.single step
  | call_unacknowledged step => exact Run.single step
  | read _ => exact Run.refl
  | failed _ => exact Run.refl
  | outside _ => exact Run.refl

theorem WorldStep.stored_run (h : WorldStep host hosts world event world') :
    Run (StoreStep host) world.tables event.stored world'.tables := by
  cases h with
  | spawned _ _ => exact Run.refl
  | answered _ answers => exact answers.stored_run
  | looped _ => exact Run.refl
  | client step => exact Run.single step

def store_events (events : List WorldEvent) : List StoreEvent := events.flatMap WorldEvent.stored

theorem stored_run_from (h : Run (WorldStep host hosts) world events world') :
    Run (StoreStep host) world.tables (store_events events) world'.tables := by
  induction h with
  | refl => exact Run.refl
  | snoc _ hstep ih =>
    have hstored := ih.append hstep.stored_run
    simpa [store_events] using hstored

/-- **The store of a world runs like a store.** -/
theorem WorldRun.stored_run (h : WorldRun host hosts events world) :
    StoreRun host (store_events events) world.tables :=
  stored_run_from h

/-! ## The rule for segments -/

section

variable (rely : TaskHistory → (query : Query) → Answer query → Prop)

def WorldEvent.Relies :
    WorldEvent → Prop
  | .answered _ _ history query answer _ => rely history query answer
  | _ => True

/-- What holds of a segment between its heads: the invariant held at its head, and the rest of
its round meets its guarantee and leads to the invariant again. -/
def Process.Meets
    (guard : Segment → TaskHistory → Query → Prop) (invariant : TaskHistory → Segment → Prop)
    (process : Process) : Prop :=
  Dialogue.Meets rely (guard process.head)
    (fun history result => ∀ segment, result = .ok segment → invariant history segment)
    process.task process.history

end

/-- **The segment rule.** When an invariant holds at every start and every round from a head with
it meets its guarantee and ends with it, then every segment of a run meets its guarantee. -/
theorem segment_meets {rely : TaskHistory → (query : Query) → Answer query → Prop}
    {guard : Segment → TaskHistory → Query → Prop} {invariant : TaskHistory → Segment → Prop}
    (hentry : ∀ segment, segment.Entry → invariant [] segment)
    (hround : ∀ pid segment history, invariant history segment →
      Process.Meets rely guard invariant ⟨segment, segment.advance (hosts pid).host, history⟩)
    (hrun : WorldRun host hosts events world) (hrely : ∀ event ∈ events, event.Relies rely) :
    ∀ pid process, world.processes pid = some process →
      process.Meets rely guard invariant := by
  refine Run.invariant_where (I := fun world => ∀ pid process, world.processes pid = some process →
    process.Meets rely guard invariant) hrun hrely ?_ ?_
  · intro pid process hprocess
    simp [World.empty] at hprocess
  · intro world event world' hworld hevent hstep pid process hprocess
    cases hstep with
    | client step => exact hworld pid process hprocess
    | @spawned spawned segment _ entry =>
      by_cases hpid : pid = spawned
      · subst hpid
        simp only [World.resumed, Function.update_self, Option.some.injEq] at hprocess
        subst hprocess
        exact hround pid segment [] (hentry segment entry)
      · simp only [World.resumed, Function.update_of_ne hpid] at hprocess
        exact hworld pid process hprocess
    | @answered resumed head history query resume answer stored tables waiting answers =>
      by_cases hpid : pid = resumed
      · subst hpid
        simp only [World.resumed, Function.update_self, Option.some.injEq] at hprocess
        subst hprocess
        exact (hworld pid _ waiting).2 answer hevent
      · simp only [World.resumed, Function.update_of_ne hpid] at hprocess
        exact hworld pid process hprocess
    | @looped resumed head segment history done =>
      by_cases hpid : pid = resumed
      · subst hpid
        simp only [World.resumed, Function.update_self, Option.some.injEq] at hprocess
        subst hprocess
        exact hround pid segment history (hworld pid _ done segment rfl)
      · simp only [World.resumed, Function.update_of_ne hpid] at hprocess
        exact hworld pid process hprocess

theorem guard_of_answered {rely : TaskHistory → (query : Query) → Answer query → Prop}
    {guard : Segment → TaskHistory → Query → Prop} {invariant : TaskHistory → Segment → Prop}
    (hworld : ∀ pid process, world.processes pid = some process →
      process.Meets rely guard invariant)
    {pid : Nat} {head : Segment} {history : TaskHistory} {query : Query} {answer : Answer query}
    {stored : List StoreEvent}
    (hstep : WorldStep host hosts world (.answered pid head history query answer stored) world') :
    guard head history query := by
  cases hstep with
  | answered waiting answers => exact (hworld pid _ waiting).1

end Runs

/-! ## Scripts

The answers of the store follow from its tables, so a list of inputs has one run. -/

/-- How a query is answered in a script. -/
inductive Reply where
  | clock (reading : Datetime)
  | permit_token (token : String)
  | observed (snapshot : ControlSnapshot)
  | generated (answer : Except StoreError (Option ModelGenerationResult ⊕ String))
  | transaction (clock : Datetime) (stored : Option JsonObject) (new_sessions_enabled : Bool)
  | read
  | executed (outcome : Awaited EffectExecutionResult)
  | cancellation (cancelled : Bool)

/-- The answer of a reply, what the store did for it, and the tables left. -/
def Reply.answer (host : Host) (db : Tables) : Reply → (query : Query) →
    Option (Answer query × List StoreEvent × Tables)
  | .clock reading, .clock => some (reading, [], db)
  | .permit_token token, .permit_token => some (token, [], db)
  | .observed snapshot, .observe => some (snapshot, [], db)
  | .generated answer, .generate _ _ => some (answer, [], db)
  | .transaction now stored new_sessions_enabled, .commit authority unit =>
    let call := .commit_authoritative_uow authority unit stored new_sessions_enabled
    let result := CodingAgentLoop.transaction db (perform host db now call)
    some (commit_answer result.2, [.call now call result.2], result.1)
  | .transaction now _ _, .store call =>
    let result := CodingAgentLoop.transaction db (perform host db now call)
    some (result.2, [.call now call result.2], result.1)
  | .read, query => (read_answer db query).map (fun answer => (answer, [], db))
  | .executed outcome, .execute_backend _ _ => some (outcome, [], db)
  | .cancellation value, .cancellation => some (value, [], db)
  | _, _ => none

variable {host : Host}

theorem Reply.answers {db tables : Tables} {reply : Reply} {query : Query} {answer : Answer query}
    {stored : List StoreEvent} (h : reply.answer host db query = some (answer, stored, tables)) :
    Answers host db query answer stored tables := by
  unfold Reply.answer at h
  split at h
  all_goals first
    | (cases h; exact .outside rfl)
    | (cases h; exact .committed rfl)
    | (cases h; exact .performed rfl)
    | skip
  · obtain ⟨found, hfound, heq⟩ := Option.map_eq_some_iff.mp h
    cases heq
    exact .read hfound
  · cases h

inductive WorldInput where
  | spawned (pid : Nat) (request : RunSegmentRequest)
  | replied (pid : Nat) (reply : Reply)
  | looped (pid : Nat)
  | client (input : StoreInput)

/-- A segment started for a request, when the request is valid. -/
def started_segment (request : RunSegmentRequest) : Option Segment :=
  match request.post_init, Segment.run request with
  | .ok _, .ok segment => some segment
  | _, _ => none

def WorldInput.take (host : Host) (hosts : Nat → DurableRuntime) (world : World) :
    WorldInput → Option (WorldEvent × World)
  | .spawned pid request =>
    match world.processes pid, started_segment request with
    | none, some segment => some (.spawned pid segment,
        world.resumed pid ⟨segment, segment.advance (hosts pid).host, []⟩ world.tables)
    | _, _ => none
  | .replied pid reply =>
    match world.processes pid with
    | some ⟨head, .ask query resume, history⟩ =>
      (reply.answer host world.tables query).map (fun answered =>
        (.answered pid head history query answered.1 answered.2.1,
          world.resumed pid
            ⟨head, resume answered.1, history ++ [⟨query, answered.1⟩]⟩ answered.2.2))
    | _ => none
  | .looped pid =>
    match world.processes pid with
    | some ⟨_, .done segment, history⟩ => some (.looped pid segment,
        world.resumed pid ⟨segment, segment.advance (hosts pid).host, history⟩ world.tables)
    | _ => none
  | .client input =>
    some (.client (input.event host world.tables),
      { world with tables := input.tables host world.tables })

theorem WorldInput.take_step {hosts : Nat → DurableRuntime} {world world' : World}
    {input : WorldInput} {event : WorldEvent}
    (h : input.take host hosts world = some (event, world')) :
    WorldStep host hosts world event world' := by
  cases input with
  | client input =>
    cases h
    exact .client (StoreInput.step host world.tables input)
  | spawned pid request =>
    simp only [take] at h
    split at h
    · next segment hfree hstarted =>
      cases h
      refine .spawned hfree (Or.inl ⟨request, ?_⟩)
      unfold started_segment at hstarted
      split at hstarted
      · next hvalid hrun =>
        cases hstarted
        exact ⟨hvalid, hrun⟩
      · cases hstarted
    · cases h
  | looped pid =>
    simp only [take] at h
    split at h
    · next hdone =>
      cases h
      exact .looped hdone
    · cases h
  | replied pid reply =>
    simp only [take] at h
    split at h
    · next head query resume history hwaiting =>
      obtain ⟨⟨answer, stored, tables⟩, hanswer, heq⟩ := Option.map_eq_some_iff.mp h
      cases heq
      exact .answered hwaiting (Reply.answers hanswer)
    · cases h

/-- The events of a script and the world it leads to, when every input of it can be taken. -/
def play_world (host : Host) (hosts : Nat → DurableRuntime) :
    World → List WorldInput → Option (List WorldEvent × World)
  | world, [] => some ([], world)
  | world, input :: rest =>
    match input.take host hosts world with
    | none => none
    | some (event, next) =>
      (play_world host hosts next rest).map (fun played => (event :: played.1, played.2))

/-- **Every script that can be taken runs.** -/
theorem play_world_run {hosts : Nat → DurableRuntime} {world world' : World}
    {script : List WorldInput} {events : List WorldEvent}
    (h : play_world host hosts world script = some (events, world')) :
    Run (WorldStep host hosts) world events world' := by
  induction script generalizing world events with
  | nil =>
    cases h
    exact Run.refl
  | cons input rest ih =>
    simp only [play_world] at h
    split at h
    · cases h
    · next event next htake =>
      obtain ⟨⟨later, last⟩, hplayed, heq⟩ := Option.map_eq_some_iff.mp h
      cases heq
      exact (Run.single (WorldInput.take_step htake)).append (ih hplayed)

end CodingAgentLoop
