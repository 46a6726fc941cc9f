/-
One turn of the agent (`agentkit/runtime/pipeline.py`).

`run_turn` runs the stages in order on a `PipelineContext`: it builds the messages, calls
the provider and the tools round by round, and saves. Where the storage has a `begin` the
stages work on a fork of the tape, which `commit` writes and a failure throws away.

What answers the pipeline from outside -- hooks, provider, tools, the message bus, the
backing store -- is given with the turn as `TurnInputs`; each answer may be an exception.

`ctx.tape` is a reference: first to the tape the turn was given, from `begin` on to its
fork, and to a new tape when a hook summarizes the context. `TurnState` keeps the contents
of the objects it no longer refers to, since a failure goes back to the first and `commit`
writes the second.

The journal is not part of the program. It notes what the provider was given and what
the context was built from.
-/
import CodingAgentLoop.ContextBuilder
import CodingAgentLoop.Toolset

namespace CodingAgentLoop

open Lib Action

/-! ## The storage -/

/-- `ForkTapeStore`. The backing store is append-only: a list of entries a tape id. -/
structure ForkTapeStore where
  backing : String → List JsonObject := fun _ => []
  finalized : List String := []
  base_lengths : String → Option Nat := fun _ => none
  base_tape_ids : String → Option String := fun _ => none

namespace ForkTapeStore

/-- `begin(tape)`, whose fork gets the id `fork_id`. -/
def begin_fork (store : ForkTapeStore) (tape : Tape) (fork_id : String) : Tape × ForkTapeStore :=
  (tape.fork fork_id,
    { store with
      base_lengths := Function.update store.base_lengths fork_id (some tape.entries.length)
      base_tape_ids := Function.update store.base_tape_ids fork_id (some tape.tape_id) })

def forget (store : ForkTapeStore) (fork_id : String) : ForkTapeStore :=
  { store with
    base_lengths := Function.update store.base_lengths fork_id none
    base_tape_ids := Function.update store.base_tape_ids fork_id none }

/-- `commit(fork)`, where `saved` is what `save` of the backing store came to; one that raises
stores nothing. -/
def commit (fork : Tape) (saved : Except TurnError Unit) :
    Action ForkTapeStore TurnError String := do
  let store ← Action.get
  if fork.tape_id ∈ store.finalized then
    Action.raise (.raised (.raised .ValueError ("tape '" ++ fork.tape_id ++ "' already finalized")))
  else
    match store.base_lengths fork.tape_id, store.base_tape_ids fork.tape_id with
    | some base_length, some stable_tape_id =>
      let delta := Tape.lines (fork.entries.drop base_length)
      match saved with
      | .ok () => do
          Action.modify (fun store => { store.forget fork.tape_id with
            finalized := fork.tape_id :: store.finalized
            backing := Function.update store.backing stable_tape_id
              (store.backing stable_tape_id ++ delta) })
          pure stable_tape_id
      | .error (.raised error) => Action.raise (.raised error)
      | .error error => do
          -- `except Exception` does not see it: the fork stays finalized
          Action.modify (fun store =>
            { store with finalized := fork.tape_id :: store.finalized })
          Action.raise error
    | _, _ => Action.raise (.raised (.raised .KeyError fork.tape_id))

/-- `rollback(fork)`; `run_turn` swallows what it raises. -/
def rollback (store : ForkTapeStore) (fork : Tape) : ForkTapeStore :=
  if fork.tape_id ∈ store.finalized then store
  else { store.forget fork.tape_id with finalized := fork.tape_id :: store.finalized }

end ForkTapeStore

/-! ## The context of a turn -/

/-- The configuration the stages read. -/
structure PipelineConfig where
  incremental_context : Bool := false
  incremental_context_rebuild_interval : Int := 5
  max_tool_rounds : Int := 20
  max_tool_result_size : Nat := 10000
  structured_results : Bool := false

/-- `PipelineContext`. `system_prompt` is the one of its context builder. -/
structure PipelineContext where
  tape : Tape
  config : PipelineConfig := {}
  system_prompt : String := "You are a helpful assistant."
  storage : Option ForkTapeStore := none
  llm_provider : Bool := false
  messages : List Message := []
  incremental_core_messages : List Message := []
  incremental_entry_count : Nat := 0
  incremental_tool_round_count : Nat := 0
  incremental_grounding_start : Nat := 0
  incremental_grounding_count : Nat := 0
  incremental_window_start : Nat := 0
  incremental_requires_full_rebuild : Bool := false

/-- A call of the provider, with the tape at that moment and the grounding of the last build. -/
structure ProviderCall where
  messages : List Message
  tape : Tape
  grounding : List Message

/-- An incremental build: the tape the build before it was completed on, none where one has
broken off since, and the tape it found. -/
structure Patch where
  built : Option Tape
  tape : Tape

/-- What happened, for the statements about it. -/
structure Journal where
  sent : List ProviderCall := []
  patches : List Patch := []
  window_moves : Nat := 0
  built : Option Tape := none
  grounding : List Message := []

structure TurnState where
  ctx : PipelineContext
  left_original : Option Tape := none
  forked : Bool := false
  left_fork : Option Tape := none
  journal : Journal := {}

namespace TurnState

section

variable (state : TurnState)

def original_tape : Tape := state.left_original.getD state.ctx.tape

def fork : Option Tape :=
  if state.forked then some (state.left_fork.getD state.ctx.tape) else none

/-- A change of the object `ctx.tape` refers to. -/
def with_tape (tape : Tape) : TurnState :=
  { state with ctx := { state.ctx with tape } }

def append (entry : Entry) : TurnState :=
  state.with_tape (state.ctx.tape.append entry)

/-- `ctx.tape = storage.begin(ctx.tape)`. -/
def begin_fork (store : ForkTapeStore) (fork_id : String) : TurnState :=
  let (forked, store) := store.begin_fork state.ctx.tape fork_id
  { state with
    ctx := { state.ctx with tape := forked, storage := some store }
    left_original := some state.ctx.tape
    forked := true }

/-- `ctx.tape = Tape(entries, tape_id=ctx.tape.tape_id, parent_id=ctx.tape.parent_id)`. -/
def replace_tape (entries : List Entry) : TurnState :=
  { state with
    ctx := { state.ctx with tape :=
      { entries, tape_id := state.ctx.tape.tape_id, parent_id := state.ctx.tape.parent_id } }
    left_original := some state.original_tape
    left_fork := state.fork
    journal := { state.journal with window_moves := state.journal.window_moves + 1 } }

def handoff (summary_anchor : Entry) (abs_window_start : Nat) : TurnState :=
  { state.with_tape (state.ctx.tape.handoff summary_anchor (some abs_window_start)) with
    journal := { state.journal with window_moves := state.journal.window_moves + 1 } }

/-- `llm_provider.stream(ctx.messages)` is called. -/
def send : TurnState :=
  { state with journal := { state.journal with
      sent := state.journal.sent ++
        [{ messages := state.ctx.messages
           tape := state.ctx.tape
           grounding := state.journal.grounding }] } }

end

end TurnState

abbrev TurnAction := Action TurnState TurnError

def TurnAction.of {α : Type} (result : Except StoreError α) : TurnAction α :=
  lift (result.mapError .raised)

/-! ## Building the context -/

/-- What `resolve_context_window` returns. -/
inductive WindowAnswer where
  | unanswered
  | unexpected
  | window (window_start : Int) (summary_anchor : Option Entry)

/-- What `_stage_build_context` is answered by the hooks -- the window or a summary, and the
grounding -- and the lines of the runtime context. -/
structure BuildInputs where
  resolve_context_window : Except TurnError WindowAnswer := .ok .unanswered
  summarize_context : Except TurnError (Option (List Entry)) := .ok none
  build_context : Except TurnError (List (List Message)) := .ok []
  runtime_lines : List String := ["elapsed_seconds: 0"]

def runtime_context_grounding (lines : List String) : List Message :=
  if lines = [] then []
  else [[("role", .str "system"),
    ("content", .str ("Runtime context\n" ++ String.intercalate "\n" lines))]]

/-- The first part of `_stage_build_context`: the window. Returns `force_full_rebuild`. -/
def advance_window (inputs : BuildInputs) : TurnAction Bool := do
  match ← lift inputs.resolve_context_window with
  | .unexpected => pure false
  | .window window_start (some summary_anchor) => do
      let state ← Action.get
      let tape := state.ctx.tape
      if 0 < window_start ∧ window_start ≤ tape.windowed_entries.length then do
        Action.modify (·.handoff summary_anchor (tape.window_start + window_start.toNat))
        pure true
      else pure false
  | .window _ none => pure false
  | .unanswered => do
      match ← lift inputs.summarize_context with
      | some summary => do
          Action.modify (·.replace_tape summary)
          pure true
      | none => pure false

def should_full_rebuild (ctx : PipelineContext) (force_full_rebuild : Bool) : Bool :=
  let interval := max 1 ctx.config.incremental_context_rebuild_interval
  !ctx.config.incremental_context
    ∨ force_full_rebuild
    ∨ ctx.incremental_requires_full_rebuild
    ∨ ctx.incremental_entry_count = 0
    ∨ ctx.tape.entries.length < ctx.incremental_entry_count
    ∨ ctx.incremental_window_start ≠ ctx.tape.window_start
    ∨ (ctx.incremental_tool_round_count : Int) % interval = 0

namespace PipelineContext

/-- The context after a full rebuild to `core_messages`. -/
def rebuilt (ctx : PipelineContext) (core_messages grounding : List Message) : PipelineContext :=
  let messages := compose_messages ctx.system_prompt core_messages grounding
  { ctx with
    messages
    incremental_core_messages := core_messages
    incremental_entry_count := ctx.tape.entries.length
    incremental_window_start := ctx.tape.window_start
    incremental_grounding_start :=
      if grounding = [] then messages.length else 1 + grounding_insert_index core_messages
    incremental_grounding_count := grounding.length
    incremental_requires_full_rebuild := false }

/-- `view.entries[visible_start:]`. -/
def new_entries (ctx : PipelineContext) : List Entry :=
  (TapeView.from_tape ctx.tape).entries.drop (ctx.incremental_entry_count - ctx.tape.window_start)

end PipelineContext

namespace TurnState

section

variable (state : TurnState)

def rebuilt (core_messages grounding : List Message) : TurnState :=
  { state with
    ctx := state.ctx.rebuilt core_messages grounding
    journal := { state.journal with built := some state.ctx.tape, grounding } }

/-- The core messages are extended, as far as that came. -/
def extended (core_messages : List Message) : TurnState :=
  { state with
    ctx := { state.ctx with incremental_core_messages := core_messages }
    journal := { state.journal with
      patches := state.journal.patches ++ [{ built := state.journal.built, tape := state.ctx.tape }]
      built := none } }

def counted : TurnState :=
  { state with ctx := { state.ctx with
      incremental_entry_count := state.ctx.tape.entries.length
      incremental_window_start := state.ctx.tape.window_start } }

/-- `ctx.messages` is patched in place. -/
def with_messages (messages : List Message) : TurnState :=
  { state with ctx := { state.ctx with messages } }

/-- An incremental build is completed. -/
def patched (grounding : List Message) (placed : Nat × Nat) : TurnState :=
  { state with
    ctx := { state.ctx with
      incremental_grounding_start := placed.1
      incremental_grounding_count := placed.2 }
    journal := { state.journal with built := some state.ctx.tape, grounding } }

end

end TurnState

def rebuild_context (text : JsonText) (grounding : List Message) : TurnAction Unit := do
  let state ← Action.get
  let view := TapeView.from_tape state.ctx.tape
  let core_messages ← TurnAction.of (build_core_messages text view.entries)
  Action.modify (·.rebuilt core_messages grounding)

/-- The incremental build. -/
def patch_context (text : JsonText) (grounding : List Message) : TurnAction Unit := do
  let ctx := (← Action.get).ctx
  let appended := append_to_core_messages text ctx.incremental_core_messages ctx.new_entries
  Action.modify (·.extended appended.2)
  TurnAction.of appended.1
  Action.modify (·.counted)
  let patched := patch_messages ctx.system_prompt ctx.messages appended.2 grounding
    ctx.incremental_grounding_start ctx.incremental_grounding_count
  Action.modify (·.with_messages patched.2)
  let placed ← TurnAction.of patched.1
  Action.modify (·.patched grounding placed)

def stage_build_context (text : JsonText) (inputs : BuildInputs) : TurnAction Unit := do
  let force_full_rebuild ← advance_window inputs
  let results ← lift inputs.build_context
  let grounding := runtime_context_grounding inputs.runtime_lines ++ results.flatten
  let state ← Action.get
  if should_full_rebuild state.ctx force_full_rebuild then rebuild_context text grounding
  else patch_context text grounding

/-! ## Running the model -/

/-- The id and the timestamp a new entry draws. -/
structure EntryStamp where
  id : String
  timestamp : ℚ

/-- `Entry(kind=kind, payload=payload)`. -/
def Entry.new (kind : String) (payload : JsonObject) (stamp : EntryStamp) : Entry :=
  .entry kind { payload, id := stamp.id, timestamp := stamp.timestamp }

/-- The events of a stream the loop tells apart. -/
inductive StreamEvent where
  | thinking (text : String)
  | text (text : String)
  | tool_call (call : ToolCallRequest)
  | usage
  | done

/-- What is collected from a stream. -/
structure Response where
  text_chunks : List String := []
  tool_calls : List ToolCallRequest := []
  thinking_chunks : List String := []

/-- The loop over a stream, which a `DoneEvent` ends: the response, and whether it was ended. -/
def collect_response : List StreamEvent → Response → Response × Bool
  | [], response => (response, false)
  | .done :: _, response => (response, true)
  | .usage :: rest, response => collect_response rest response
  | .thinking text :: rest, response =>
    collect_response rest
      { response with thinking_chunks := response.thinking_chunks ++ [text] }
  | .text text :: rest, response =>
    collect_response rest { response with text_chunks := response.text_chunks ++ [text] }
  | .tool_call call :: rest, response =>
    collect_response rest { response with tool_calls := response.tool_calls ++ [call] }

structure ToolApprovalResult where
  approved : Bool
  reason : String := ""

/-- What a tool call meets before it is executed: the schema's verdict, the policy's, and the
listener's when it is rejected. -/
structure CallInputs where
  validation : Option String := none
  approval : Except TurnError ToolApprovalResult := .ok { approved := true }
  notified : Except TurnError Unit := .ok ()
  call_stamp : EntryStamp
  rejection_stamp : EntryStamp

/-- What a round meets. `broken` is an exception of the stream, or of the listener it is passed
to, after the events. -/
structure RoundInputs where
  consumed : Except TurnError Bool := .ok false
  prompt_context : BuildInputs := {}
  events : List StreamEvent
  broken : Option TurnError := none
  text_stamp : EntryStamp
  calls : Nat → CallInputs
  interrupted : Except TurnError Unit := .ok ()
  execution : ExecutionInputs := {}
  result_stamps : Nat → EntryStamp
  results_notified : Nat → Except TurnError Unit := fun _ => .ok ()
  context : BuildInputs := {}

namespace Response

def text_payload (response : Response) : JsonObject :=
  [("role", .str "assistant"), ("content", .str (String.join response.text_chunks))]
    ++ if response.thinking_chunks = [] then []
      else [("reasoning_content", .str (String.join response.thinking_chunks))]

/-- The payload of the tool call at `index`; the thinking goes with the first one if there is no
text. -/
def call_payload (response : Response) (call : ToolCallRequest) (index : Nat) : JsonObject :=
  [("id", .str call.tool_call_id),
   ("name", .str call.name),
   ("arguments", .obj call.arguments),
   ("role", .str "assistant")]
    ++ if index = 0 ∧ response.thinking_chunks ≠ [] ∧ response.text_chunks = [] then
        [("reasoning_content", .str (String.join response.thinking_chunks))]
      else []

end Response

def result_payload (tool_call_id content : String) : JsonObject :=
  [("tool_call_id", .str tool_call_id), ("content", .str content)]

def format_result (text : JsonText) (result : Json) (structured : Bool) (max_size : Nat) : String :=
  let result_str :=
    match result with
    | .null => ""
    | .obj fields => if structured then text.dumps (.obj fields) else text.str (.obj fields)
    | result => text.str result
  if max_size < result_str.length then
    String.ofList (result_str.toList.take max_size) ++ "\n... ("
      ++ toString (result_str.length - max_size) ++ " chars truncated)"
  else result_str

/-- A call that is rejected gets its result at once. -/
def reject_call (inputs : CallInputs) (call : ToolCallRequest) (rejection_msg : String) :
    TurnAction (Option ToolCallRequest) := do
  Action.modify (·.append
    (.new "tool_result" (result_payload call.tool_call_id rejection_msg) inputs.rejection_stamp))
  lift inputs.notified
  pure none

/-- The loop body over the tool calls of a response: the call, if it is to be executed. -/
def offer_call (response : Response) (inputs : CallInputs) (call : ToolCallRequest) (index : Nat) :
    TurnAction (Option ToolCallRequest) := do
  Action.modify (·.append
    (.new "tool_call" (response.call_payload call index) inputs.call_stamp))
  match inputs.validation with
  | some message => reject_call inputs call ("Tool call validation failed: " ++ message)
  | none =>
    if is_proxy_affordance call.name then pure (some call)
    else do
      let approval ← lift inputs.approval
      if approval.approved then pure (some call)
      else
        reject_call inputs call
          ("Tool call rejected: " ++ if approval.reason = "" then "policy" else approval.reason)

def offer_calls (response : Response) (inputs : Nat → CallInputs)
    (items : List (ToolCallRequest × Nat)) : TurnAction (List (Option ToolCallRequest)) :=
  collect items (fun (call, index) => offer_call response (inputs index) call index)

/-- The loop body over the execution results. -/
def record_result (text : JsonText) (inputs : RoundInputs) (result : ToolExecutionResult)
    (index : Nat) : TurnAction Unit := do
  let state ← Action.get
  let result_str :=
    if result.is_error then result.error_message
    else format_result text result.result state.ctx.config.structured_results
      state.ctx.config.max_tool_result_size
  Action.modify (·.append
    (.new "tool_result" (result_payload result.tool_call_id result_str)
      (inputs.result_stamps index)))
  lift (inputs.results_notified index)

/-- The execution of the accepted calls; returns the length of the tape before it. -/
def execute_calls (text : JsonText) (inputs : RoundInputs)
    (executable_calls : List ToolCallRequest) : TurnAction Nat := do
  lift inputs.interrupted
  let state ← Action.get
  let results ← (execute_tools inputs.execution executable_calls).zoom (·.ctx.tape)
    TurnState.with_tape
  each results.zipIdx (fun (result, index) => record_result text inputs result index)
  pure state.ctx.tape.entries.length

namespace TurnState

/-- `ctx.incremental_tool_round_count += 1`. -/
def count_tool_round (state : TurnState) : TurnState :=
  { state with ctx := { state.ctx with
      incremental_tool_round_count := state.ctx.incremental_tool_round_count + 1 } }

/-- The counters start over if the tape has another length than expected. -/
def expect_length (state : TurnState) (length : Nat) : TurnState :=
  if state.ctx.tape.entries.length ≠ length then
    { state with ctx := { state.ctx with
        incremental_tool_round_count := 0
        incremental_entry_count := 0 } }
  else state

def append_text (state : TurnState) (response : Response) (stamp : EntryStamp) : TurnState :=
  state.append (.new "message" response.text_payload stamp)

end TurnState

/-- The part of a round after the stream when there are tool calls. -/
def run_tool_calls (text : JsonText) (inputs : RoundInputs) (response : Response) :
    TurnAction Unit := do
  when (response.text_chunks ≠ [])
    (Action.modify (·.append_text response inputs.text_stamp))
  let offered ← offer_calls response inputs.calls response.tool_calls.zipIdx
  let executable_calls := offered.reduceOption
  if executable_calls = [] then stage_build_context text inputs.context
  else do
    let checkpoint_entry_count ← execute_calls text inputs executable_calls
    Action.modify (·.count_tool_round)
    stage_build_context text inputs.context
    Action.modify (·.expect_length (checkpoint_entry_count + executable_calls.length))

def read_stream (inputs : RoundInputs) : Except TurnError Response :=
  let (response, ended) := collect_response inputs.events {}
  match inputs.broken with
  | some error => if ended then .ok response else .error error
  | none => .ok response

/-- The part of a round after the stream: whether there is another round. -/
def finish_round (text : JsonText) (inputs : RoundInputs) (response : Response) : TurnAction Bool :=
  if response.tool_calls ≠ [] then do
    run_tool_calls text inputs response
    pure true
  else do
    when (response.text_chunks ≠ [])
      (Action.modify (·.append_text response inputs.text_stamp))
    pure false

/-- One round of `_stage_run_model`. -/
def run_round (text : JsonText) (inputs : RoundInputs) : TurnAction Bool := do
  let runtime_prompt_changed ← lift inputs.consumed
  when runtime_prompt_changed (stage_build_context text inputs.prompt_context)
  Action.modify (·.send)
  let response ← lift (read_stream inputs)
  finish_round text inputs response

/-- The rounds from `index` on, `remaining` of them at most. -/
def run_rounds (text : JsonText) (rounds : Nat → RoundInputs) : Nat → Nat → TurnAction Unit
  | 0, _ => pure ()
  | remaining + 1, index => do
      let more ← run_round text (rounds index)
      when more (run_rounds text rounds remaining (index + 1))

def stage_run_model (text : JsonText) (rounds : Nat → RoundInputs) : TurnAction Unit := do
  let state ← Action.get
  when state.ctx.llm_provider
    (run_rounds text rounds state.ctx.config.max_tool_rounds.toNat 0)

/-! ## The turn -/

/-- What a turn meets, stage by stage. `resolve_session` and its like are what the message bus
answers before the stage. -/
structure TurnInputs where
  resolve_session : Except TurnError Bool := .ok false
  load_state : Except TurnError Bool := .ok false
  provide_storage : Except TurnError (Option ForkTapeStore) := .ok none
  provide_llm : Except TurnError Bool := .ok true
  collect_schemas : Except TurnError Unit := .ok ()
  fork_id : String
  build_context : Except TurnError Bool := .ok false
  context : BuildInputs := {}
  run_model : Except TurnError Bool := .ok false
  prompt_context : BuildInputs := {}
  rounds : Nat → RoundInputs
  save_state : Except TurnError Unit := .ok ()
  checkpoint : PluginReply Unit := { outcome := .ok () }
  render : Except TurnError Unit := .ok ()
  directives : Except TurnError Unit := .ok ()
  dispatch : Except TurnError Unit := .ok ()
  saved : Except TurnError Unit := .ok ()

/-- What `run_turn` makes of an exception of a stage. -/
def stage_error : TurnError → TurnError
  | .raised (.raised .PipelineError message) => .raised (.raised .PipelineError message)
  | .raised error => .raised (.raised .PipelineError error.message)
  | error => error

namespace TurnState

def with_storage (state : TurnState) (storage : Option ForkTapeStore) : TurnState :=
  { state with ctx := { state.ctx with storage } }

def with_llm_provider (state : TurnState) (llm_provider : Bool) : TurnState :=
  { state with ctx := { state.ctx with llm_provider } }

/-- The fork after `load_state`, if there is a storage. -/
def forked_by (state : TurnState) (fork_id : String) : TurnState :=
  match state.ctx.storage with
  | some store => state.begin_fork store fork_id
  | none => state

/-- A checkpoint hook that appends to the tape asks for a full rebuild. -/
def after_checkpoint (state : TurnState) (tape_len_before_checkpoint : Nat) : TurnState :=
  if state.ctx.tape.entries.length ≠ tape_len_before_checkpoint then
    { state with ctx := { state.ctx with incremental_requires_full_rebuild := true } }
  else state

end TurnState

/-- `_stage_load_state(ctx)`, and the fork after it. -/
def stage_load_state (inputs : TurnInputs) : TurnAction Unit := do
  let ctx := (← Action.get).ctx
  when ctx.storage.isNone (do
    let storage ← lift inputs.provide_storage
    Action.modify (·.with_storage storage))
  when (!ctx.llm_provider) (do
    let llm_provider ← lift inputs.provide_llm
    Action.modify (·.with_llm_provider llm_provider))
  lift inputs.collect_schemas
  Action.modify (·.forked_by inputs.fork_id)

def stage_save_state (inputs : TurnInputs) : TurnAction Unit := do
  let tape := (← Action.get).ctx.tape
  inputs.checkpoint.run.zoom (·.ctx.tape) TurnState.with_tape
  Action.modify (·.after_checkpoint tape.entries.length)

def run_stages (text : JsonText) (inputs : TurnInputs) : TurnAction Unit := do
  let _ ← lift inputs.resolve_session
  let _ ← lift inputs.load_state
  stage_load_state inputs
  let _ ← lift inputs.build_context
  stage_build_context text inputs.context
  let runtime_prompt_changed ← lift inputs.run_model
  when runtime_prompt_changed (stage_build_context text inputs.prompt_context)
  stage_run_model text inputs.rounds
  lift inputs.save_state
  stage_save_state inputs
  lift inputs.render
  lift inputs.directives
  lift inputs.dispatch

def commit_fork (inputs : TurnInputs) : TurnAction Unit := do
  let state ← Action.get
  match state.fork, state.ctx.storage with
  | some fork, some store => do
      let committed := ForkTapeStore.commit fork inputs.saved store
      Action.modify (·.with_storage (some committed.2))
      let stable_tape_id ← lift committed.1
      Action.modify (fun state => state.with_tape { state.ctx.tape with tape_id := stable_tape_id })
  | _, _ => pure ()

/-- A context between turns, with its journal. -/
structure PipelineSession where
  ctx : PipelineContext
  journal : Journal := {}

/-- `except BaseException` of `run_turn`: the fork is rolled back and the tape is the one the
turn was given. -/
def TurnState.abandoned (state : TurnState) : PipelineContext :=
  { state.ctx with
    tape := state.original_tape
    storage :=
      match state.fork, state.ctx.storage with
      | some fork, some store => some (store.rollback fork)
      | _, storage => storage }

/-- The body of the `try` of `run_turn`. -/
def turn_body (text : JsonText) (inputs : TurnInputs) : TurnAction Unit := do
  (run_stages text inputs).map_error stage_error
  commit_fork inputs

def run_turn (text : JsonText) (inputs : TurnInputs) (session : PipelineSession) :
    Except TurnError Unit × PipelineSession :=
  match turn_body text inputs { ctx := session.ctx, journal := session.journal } with
  | (.ok (), state) => (.ok (), { ctx := state.ctx, journal := state.journal })
  | (.error error, state) => (.error error, { ctx := state.abandoned, journal := state.journal })

/-- What happens to a context: entries are appended between turns, and turns are run. -/
inductive ContextEvent where
  | append (entry : Entry)
  | turn (inputs : TurnInputs)

def PipelineSession.after (text : JsonText) (session : PipelineSession) :
    ContextEvent → PipelineSession
  | .append entry => { session with ctx := { session.ctx with tape := session.ctx.tape.append entry } }
  | .turn inputs => (run_turn text inputs session).2

end CodingAgentLoop
