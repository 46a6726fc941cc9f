/-
The runtime messages of a turn (`agentkit/runtime/pipeline.py`).

The turns of `Pipeline.lean` on a context with an `InMemoryRuntimeMessageBus`: what the bus
answers at the safe points is computed from the messages published until then, and the runtime
context shows the messages consumed in the turn. The other answers are those of `TurnInputs`.

Others publish whenever the turn awaits. A message acts at the first safe point after it, so
the publications are given by the safe point they come before.

The log is not part of the program.
-/
import CodingAgentLoop.TurnPersistence
import CodingAgentLoop.RuntimeMessages

namespace CodingAgentLoop

open Lib Action

def PIPELINE_RUNTIME_MESSAGE_KINDS : List RuntimeMessageKind :=
  [.INTERRUPT, .USER_STEER, .SUBAGENT_MESSAGE, .SYSTEM_NOTICE]

def PROMPT_RUNTIME_MESSAGE_KINDS : List RuntimeMessageKind :=
  [.USER_STEER, .SUBAGENT_MESSAGE, .SYSTEM_NOTICE]

def format_runtime_prompt_messages (messages : List SequencedRuntimeMessage) : List String :=
  (messages.filter (fun item => item.message.kind ∈ PROMPT_RUNTIME_MESSAGE_KINDS)).map (fun item =>
    let message := item.message
    let text := string_payload_value message.payload ["text", "message", "content"]
    if text = "" then message.kind.value ++ " " ++ message.message_id
    else message.kind.value ++ " " ++ message.message_id ++ ": " ++ text)

/-- What happened to the messages of a context. A request shows the messages of the last build. -/
inductive MessageEvent where
  | published (item : SequencedRuntimeMessage)
  | started (turn : Nat)
  | consumed (turn : Nat) (items : List SequencedRuntimeMessage)
  | requested (turn : Nat) (call : ProviderCall) (grounded : List SequencedRuntimeMessage)
  | interrupted (turn : Nat) (item : SequencedRuntimeMessage)
  | returned (turn : Nat)
  | raised (turn : Nat) (error : TurnError)

/-- The messages of a `PipelineContext`, with the bus and the log. -/
structure MessageBoard where
  runtime_message_bus : InMemoryRuntimeMessageBus := {}
  runtime_message_cursor : RuntimeMessageCursor := {}
  runtime_messages : List SequencedRuntimeMessage := []
  grounded : List SequencedRuntimeMessage := []
  turn : Nat := 0
  log : List MessageEvent := []

namespace MessageBoard

section

variable (board : MessageBoard)

def note (event : MessageEvent) : MessageBoard :=
  { board with log := board.log ++ [event] }

@[simp] theorem note_log (event : MessageEvent) :
    (board.note event).log = board.log ++ [event] := rfl

@[simp] theorem note_turn (event : MessageEvent) : (board.note event).turn = board.turn := rfl

/-- Someone calls `publish(message)`; a message id that is taken is refused. -/
def publish (message : RuntimeMessage) : MessageBoard :=
  match board.runtime_message_bus.publish message with
  | .ok (item, runtime_message_bus) => { board with runtime_message_bus }.note (.published item)
  | .error _ => board

def publish_all (messages : List RuntimeMessage) : MessageBoard :=
  messages.foldl publish board

/-- `ctx.runtime_messages.extend(batch.messages)` and the cursor of the batch. -/
def extended (batch : RuntimeMessageBatch) : MessageBoard :=
  { board with
    runtime_messages := board.runtime_messages ++ batch.messages
    runtime_message_cursor := batch.cursor }.note (.consumed board.turn batch.messages)

/-- `ctx.runtime_messages = []`. -/
def started : MessageBoard :=
  { board with runtime_messages := [], turn := board.turn + 1 }.note (.started (board.turn + 1))

end

end MessageBoard

structure MessageTurn where
  state : TurnState
  board : MessageBoard

abbrev MessageAction := Action MessageTurn TurnError

namespace MessageAction

def on_state {α : Type} (action : TurnAction α) : MessageAction α :=
  action.zoom MessageTurn.state (fun turn state => { turn with state })

def on_board (change : MessageBoard → MessageBoard) : MessageAction Unit :=
  Action.modify (fun turn => { turn with board := change turn.board })

end MessageAction

open MessageAction

/-- `PipelineError(f"runtime interrupted: {reason}")`. -/
def interrupt_error (message : RuntimeMessage) : TurnError :=
  let reason := string_payload_value message.payload ["reason", "text"]
  .raised (.raised .PipelineError
    ("runtime interrupted: " ++ if reason = "" then message.message_id else reason))

def interrupt (item : SequencedRuntimeMessage) : MessageAction Unit := do
  on_board (fun board => board.note (.interrupted board.turn item))
  Action.raise (interrupt_error item.message)

def consume_runtime_messages : MessageAction Bool := do
  let board := (← Action.get).board
  let batch ← lift ((board.runtime_message_bus.consume_after board.runtime_message_cursor
    PIPELINE_RUNTIME_MESSAGE_KINDS none).mapError .raised)
  match batch.messages.find? (fun item => item.message.kind = .INTERRUPT) with
  | some item => do
      interrupt item
      pure false
  | none => do
      on_board (·.extended batch)
      pure (batch.messages.any (fun item => item.message.kind ∈ PROMPT_RUNTIME_MESSAGE_KINDS))

def raise_if_runtime_interrupted : MessageAction Unit := do
  let board := (← Action.get).board
  let batch ← lift ((board.runtime_message_bus.consume_after board.runtime_message_cursor
    [.INTERRUPT] none).mapError .raised)
  match batch.messages with
  | [] => pure ()
  | item :: _ => interrupt item

def BuildInputs.with_messages (inputs : BuildInputs) (messages : List SequencedRuntimeMessage) :
    BuildInputs :=
  { inputs with runtime_lines := inputs.runtime_lines ++ format_runtime_prompt_messages messages }

/-- `_stage_build_context(ctx)`. -/
def build_message_context (text : JsonText) (inputs : BuildInputs) : MessageAction Unit := do
  let board := (← Action.get).board
  on_state (stage_build_context text (inputs.with_messages board.runtime_messages))
  on_board (fun board => { board with grounded := board.runtime_messages })

/-- `llm_provider.stream(ctx.messages)` is called. -/
def request_model : MessageAction Unit := do
  let ctx := (← Action.get).state
  on_state (Action.modify (·.send))
  on_board (fun board => board.note (.requested board.turn
    { messages := ctx.ctx.messages, tape := ctx.ctx.tape, grounding := ctx.journal.grounding }
    board.grounded))

/-- What is published in a round: before its messages are consumed, before the request, and
before the tools are executed. -/
structure RoundPublications where
  consume : List RuntimeMessage := []
  request : List RuntimeMessage := []
  tools : List RuntimeMessage := []

/-- What is published in a turn, by the stage it is before. -/
structure TurnPublications where
  resolve_session : List RuntimeMessage := []
  load_state : List RuntimeMessage := []
  build_context : List RuntimeMessage := []
  run_model : List RuntimeMessage := []
  rounds : Nat → RoundPublications := fun _ => {}
  save_state : List RuntimeMessage := []
  render : List RuntimeMessage := []
  dispatch : List RuntimeMessage := []

section

variable (text : JsonText) (inputs : RoundInputs) (published : RoundPublications)

/-- The part of a round after the stream when there are tool calls. -/
def run_message_tools (response : Response) : MessageAction Unit := do
  on_state (when (response.text_chunks ≠ [])
    (Action.modify (·.append_text response inputs.text_stamp)))
  let offered ← on_state (offer_calls response inputs.calls response.tool_calls.zipIdx)
  let executable_calls := offered.reduceOption
  on_board (·.publish_all published.tools)
  if executable_calls = [] then build_message_context text inputs.context
  else do
    raise_if_runtime_interrupted
    let checkpoint_entry_count ←
      on_state (execute_calls text { inputs with interrupted := .ok () } executable_calls)
    on_state (Action.modify (·.count_tool_round))
    build_message_context text inputs.context
    on_state (Action.modify (·.expect_length (checkpoint_entry_count + executable_calls.length)))

/-- The part of a round after the stream: whether there is another round. -/
def finish_message_round (response : Response) : MessageAction Bool :=
  if response.tool_calls ≠ [] then do
    run_message_tools text inputs published response
    pure true
  else do
    on_state (when (response.text_chunks ≠ [])
      (Action.modify (·.append_text response inputs.text_stamp)))
    pure false

/-- One round of `_stage_run_model`. -/
def run_message_round : MessageAction Bool := do
  on_board (·.publish_all published.consume)
  let runtime_prompt_changed ← consume_runtime_messages
  when runtime_prompt_changed (build_message_context text inputs.prompt_context)
  on_board (·.publish_all published.request)
  request_model
  let response ← lift (read_stream inputs)
  finish_message_round text inputs published response

end

/-- The rounds from `index` on, `remaining` of them at most. -/
def run_message_rounds (text : JsonText) (rounds : Nat → RoundInputs)
    (published : Nat → RoundPublications) : Nat → Nat → MessageAction Unit
  | 0, _ => pure ()
  | remaining + 1, index => do
      let more ← run_message_round text (rounds index) (published index)
      when more (run_message_rounds text rounds published remaining (index + 1))

/-- `_stage_run_model(ctx)`. -/
def run_message_model (text : JsonText) (rounds : Nat → RoundInputs)
    (published : Nat → RoundPublications) : MessageAction Unit := do
  let ctx := (← Action.get).state.ctx
  when ctx.llm_provider
    (run_message_rounds text rounds published ctx.config.max_tool_rounds.toNat 0)

section

variable (text : JsonText) (inputs : TurnInputs) (published : TurnPublications)

def run_message_stages :
    MessageAction Unit := do
  on_board (·.publish_all published.resolve_session)
  let _ ← consume_runtime_messages
  on_board (·.publish_all published.load_state)
  let _ ← consume_runtime_messages
  on_state (stage_load_state inputs)
  on_board (·.publish_all published.build_context)
  let _ ← consume_runtime_messages
  build_message_context text inputs.context
  on_board (·.publish_all published.run_model)
  let runtime_prompt_changed ← consume_runtime_messages
  when runtime_prompt_changed (build_message_context text inputs.prompt_context)
  run_message_model text inputs.rounds published.rounds
  on_board (·.publish_all published.save_state)
  raise_if_runtime_interrupted
  on_state (stage_save_state inputs)
  on_board (·.publish_all published.render)
  raise_if_runtime_interrupted
  lift inputs.directives
  on_board (·.publish_all published.dispatch)
  raise_if_runtime_interrupted

/-- The body of the `try` of `run_turn`. -/
def message_turn_body :
    MessageAction Unit := do
  (run_message_stages text inputs published).map_error stage_error
  on_state (commit_fork inputs)

end

structure MessageSession where
  session : PipelineSession
  board : MessageBoard := {}

/-- `run_turn(ctx)`. -/
def run_message_turn (text : JsonText) (inputs : TurnInputs) (published : TurnPublications)
    (context : MessageSession) : Except TurnError Unit × MessageSession :=
  match message_turn_body text inputs published
    { state := { ctx := context.session.ctx, journal := context.session.journal }
      board := context.board.started } with
  | (.ok (), turn) =>
    (.ok (), { session := { ctx := turn.state.ctx, journal := turn.state.journal }
               board := turn.board.note (.returned turn.board.turn) })
  | (.error error, turn) =>
    (.error error, { session := { ctx := turn.state.abandoned, journal := turn.state.journal }
                     board := turn.board.note (.raised turn.board.turn error) })

/-- What happens to a context and its bus. -/
inductive MessageStep where
  | publish (message : RuntimeMessage)
  | append (entry : Entry)
  | turn (inputs : TurnInputs) (published : TurnPublications)

/-- The context after a step. -/
def MessageSession.next (text : JsonText) (context : MessageSession) : MessageStep → MessageSession
  | .publish message => { context with board := context.board.publish message }
  | .append entry => { context with session := context.session.append entry }
  | .turn inputs published => (run_message_turn text inputs published context).2

end CodingAgentLoop
