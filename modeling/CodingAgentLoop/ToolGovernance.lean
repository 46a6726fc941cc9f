/-
Validation, approval and execution of tool calls, and their trace (`Toolset` of
`agentkit/tools/toolset.py` under `Pipeline._stage_run_model`).

A call the model makes is validated and approved in the loop over the response's calls, and
executed after it: by the batch hooks, or by the host's executor and the hooks. The two proxy
affordances are executed by the toolset itself; `call_tool` names a further call, which is
validated and approved inside it and goes to the hooks of the proxied tools.

Hooks, executors and the directive executor are a `ToolHost`: each answers as it likes, by
everything that has happened so far, and may append to the tape. The trace is not part of the
program. It notes what each check said and what was executed; a call is known in it by its place,
since the model may give two calls the same id.
-/
import CodingAgentLoop.Pipeline
import CodingAgentLoop.SchemaCheck
import CodingAgentLoop.Topics

namespace CodingAgentLoop

open Lib Action

/-! ## Calls and what is noted of them -/

/-- The round, the place in its response, and whether it is the call that a `call_tool` names. -/
structure CallRef where
  round : Nat
  index : Nat
  proxied : Bool := false

attribute [ext] CallRef

structure GovernedCall where
  ref : CallRef
  call : ToolCallRequest

/-- The four ways a call reaches code outside the toolset. -/
inductive ExecutionPath where
  | host_executor
  | execute_tool
  | execute_tools_batch
  | execute_proxy_tool
  deriving DecidableEq

inductive ToolEvent where
  | round_started (round : Nat)
  /-- The stage appended a `tool_call` entry for the call. -/
  | called (call : GovernedCall)
  | validated (call : GovernedCall) (schemas : List ToolSchema) (error : Option String)
  /-- An approval hook raised or returned no directive, or the directive was not carried out. -/
  | refused (ref : CallRef)
  | decided (call : GovernedCall) (approved : Bool)
  | executed (path : ExecutionPath) (calls : List GovernedCall)
  /-- The stage appended a `tool_result` entry for the call. -/
  | answered (ref : CallRef) (tool_call_id : String)

/-- A turn and its trace. -/
structure GovernedState where
  turn : TurnState
  trace : List ToolEvent := []

abbrev GovernedAction := Action GovernedState TurnError

/-! ## The host -/

/-- `Directive`, by what the toolset reads of it: its kind and its reason, if it has one. -/
structure Directive where
  kind : String
  reason : Option String := none

/-- What an approval hook returns. -/
inductive ApprovalAnswer where
  | unanswered
  | not_a_directive
  | directive (directive : Directive)

/-- What is registered, and what it answers. -/
structure ToolHost where
  str : Json → String
  casefold : String → String
  approval_hooks : GovernedState → Except TurnError Nat
  approve_tool_call : GovernedState → GovernedCall → Nat → PluginReply ApprovalAnswer
  directive_executor : Option (GovernedState → Directive → PluginReply Bool)
  batch_hooks : GovernedState → Nat
  execute_tools_batch : GovernedState → List GovernedCall → Nat → PluginReply BatchReply
  host_executor : Option (GovernedState → GovernedCall → PluginReply RawToolResult)
  tool_hooks : GovernedState → Nat
  execute_tool : GovernedState → GovernedCall → Nat → PluginReply RawToolResult
  proxy_hooks : GovernedState → Nat
  execute_proxy_tool : GovernedState → GovernedCall → Nat → PluginReply RawToolResult
  get_proxy_tools : GovernedState → Except TurnError (List ToolSchema)

namespace GovernedAction

def on_turn {α : Type} (action : TurnAction α) : GovernedAction α :=
  action.zoom (·.turn) (fun state turn => { state with turn })

def note (event : ToolEvent) : GovernedAction Unit :=
  Action.modify (fun state => { state with trace := state.trace ++ [event] })

def ask {α : Type} (reply : GovernedState → PluginReply α) : GovernedAction α := do
  let state ← Action.get
  on_turn ((reply state).run.zoom (·.ctx.tape) TurnState.with_tape)

/-- Whether `except Exception` sees an error. -/
def is_exception : TurnError → Bool
  | .raised _ => true
  | .FatalToolExecutionError _ => true
  | .KeyboardInterrupt => false
  | .CancelledError => false

end GovernedAction

open GovernedAction

namespace Toolset

/-! ## Approval -/

def refuse (call : GovernedCall) (reason : String) : GovernedAction ToolApprovalResult := do
  note (.refused call.ref)
  pure { approved := false, reason }

/-- The directive of a hook is carried out. -/
def execute_directive (host : ToolHost) (call : GovernedCall) (directive : Directive) :
    GovernedAction ToolApprovalResult :=
  match host.directive_executor with
  | none => refuse call "missing directive executor"
  | some execute => do
      let reason := directive.reason.getD "policy"
      match ← attempt (ask (fun state => execute state directive)) with
      | .ok true => pure { approved := true, reason }
      | .ok false => refuse call reason
      | .error error => do
          note (.refused call.ref)
          if is_exception error then pure { approved := false, reason } else Action.raise error

/-- The loop over the approval hooks: the first directive decides. -/
def consult_hooks (host : ToolHost) (call : GovernedCall) :
    List Nat → GovernedAction ToolApprovalResult
  | [] => pure { approved := true }
  | hook :: rest => do
      match ← attempt (ask (fun state => host.approve_tool_call state call hook)) with
      | .ok .unanswered => consult_hooks host call rest
      | .ok .not_a_directive => refuse call "policy"
      | .ok (.directive directive) => execute_directive host call directive
      | .error error => do
          note (.refused call.ref)
          if is_exception error then pure { approved := false, reason := "policy" }
          else Action.raise error

def approve_tool_call (host : ToolHost) (call : GovernedCall) :
    GovernedAction ToolApprovalResult := do
  let state ← Action.get
  let result ← (match host.approval_hooks state with
    | .ok hooks => consult_hooks host call (List.range hooks)
    | .error error =>
      if is_exception error then refuse call "policy" else Action.raise error)
  note (.decided call result.approved)
  pure result

/-- `validate_tool_call(call, schemas)`. -/
def validate (host : ToolHost) (call : GovernedCall) (schemas : List ToolSchema) :
    GovernedAction (Option String) := do
  let error := validate_tool_call host.str call.call schemas
  note (.validated call schemas error)
  pure error

/-! ## Execution -/

/-- `_invoke_executor(execute, call)`: the exception, or the result. -/
def invoke_executor (path : ExecutionPath) (call : GovernedCall)
    (execute : GovernedState → PluginReply RawToolResult) :
    GovernedAction (Except String RawToolResult) := do
  note (.executed path [call])
  match ← attempt (ask execute) with
  | .ok result => pure (.ok result)
  | .error (.raised error) => pure (.error error.message)
  | .error error => Action.raise error

/-- What `_execute_one_from_hook` makes of an executor's answer; none for the next executor. -/
def envelope_answer (call : ToolCallRequest) :
    Except String RawToolResult → Except TurnError (Option ToolExecutionResult)
  | .error message => (envelope_raw_result call (.error message)).map some
  | .ok .unhandled => .ok none
  | .ok result => (envelope_raw_result call result).map some

/-- The loop over the hooks. -/
def execute_from_hooks (path : ExecutionPath) (call : GovernedCall)
    (execute : GovernedState → Nat → PluginReply RawToolResult) :
    List Nat → GovernedAction ToolExecutionResult
  | [] => lift (envelope_raw_result call.call .unhandled)
  | hook :: rest => do
      let answer ← invoke_executor path call (fun state => execute state hook)
      match ← lift (envelope_answer call.call answer) with
      | some result => pure result
      | none => execute_from_hooks path call execute rest

/-- `_execute_one_from_hook("execute_tool", call)`: the host's executor and the hooks. -/
def execute_tool (host : ToolHost) (call : GovernedCall) : GovernedAction ToolExecutionResult := do
  let hooked : GovernedAction ToolExecutionResult := do
    let state ← Action.get
    execute_from_hooks .execute_tool call (fun state => host.execute_tool state call)
      (List.range (host.tool_hooks state))
  match host.host_executor with
  | none => hooked
  | some execute => do
      let answer ← invoke_executor .host_executor call (fun state => execute state call)
      match ← lift (envelope_answer call.call answer) with
      | some result => pure result
      | none => hooked

/-- `_execute_one_from_hook("execute_proxy_tool", call)`. -/
def execute_proxy_tool (host : ToolHost) (call : GovernedCall) :
    GovernedAction ToolExecutionResult := do
  let state ← Action.get
  execute_from_hooks .execute_proxy_tool call (fun state => host.execute_proxy_tool state call)
    (List.range (host.proxy_hooks state))

/-- `text.split()`. -/
def split_terms (text : String) : List String :=
  ((text.toList.splitOnP Char.isWhitespace).filter (· ≠ [])).map String.ofList

def proxy_schema_descriptor (schema : ToolSchema) : Json :=
  .obj [("name", .str schema.name), ("description", .str schema.description),
    ("parameters", .obj schema.parameters)]

/-- The schemas `search_tools` finds. -/
def search_schemas (host : ToolHost) (query : String) (limit : Nat) (schemas : List ToolSchema) :
    List ToolSchema :=
  let terms := split_terms (host.casefold query)
  (schemas.filter (fun schema =>
    terms.all (has_part (host.casefold (schema.name ++ " " ++ schema.description))))).take limit

def search_limit? : Json → Option Nat
  | .int limit => if limit < 1 ∨ 50 < limit then none else some limit.toNat
  | _ => none

def failed (call : GovernedCall) (message : String) : ToolExecutionResult :=
  { tool_call_id := call.call.tool_call_id, name := call.call.name, error := some message }

def returned (call : GovernedCall) (result : Json) : ToolExecutionResult :=
  { tool_call_id := call.call.tool_call_id, name := call.call.name, result }

def execute_search_tools (host : ToolHost) (call : GovernedCall) :
    GovernedAction ToolExecutionResult :=
  match JsonObject.get_or call.call.arguments "query" (.str ""),
      search_limit? (JsonObject.get_or call.call.arguments "limit" (.int 20)) with
  | .str query, some limit => do
      let state ← Action.get
      let schemas ← lift (host.get_proxy_tools state)
      let found := search_schemas host query limit schemas
      pure (returned call (.obj [("tools", .arr (found.map proxy_schema_descriptor)),
        ("count", .int found.length)]))
  | .str _, none => pure (failed call "search_tools.limit must be an integer from 1 to 50")
  | _, _ => pure (failed call "search_tools.query must be a string")

/-- The call that a `call_tool` names. -/
def target_call (call : GovernedCall) (name : String) (arguments : JsonObject) : GovernedCall :=
  { ref := { call.ref with proxied := true }
    call := { tool_call_id := call.call.tool_call_id ++ ":" ++ name, name, arguments } }

/-- The approval and the execution of the call that a `call_tool` names. -/
def execute_target (host : ToolHost) (call target : GovernedCall) :
    GovernedAction ToolExecutionResult := do
  let approval ← approve_tool_call host target
  if !approval.approved then
    pure (failed call ("Tool call rejected: "
      ++ if approval.reason = "" then "policy" else approval.reason))
  else do
    let result ← execute_proxy_tool host target
    if result.is_error then pure (failed call (result.error.getD result.error_message))
    else pure (returned call result.result)

def execute_call_tool (host : ToolHost) (call : GovernedCall) :
    GovernedAction ToolExecutionResult :=
  match call.call.arguments.get "name", call.call.arguments.get "arguments" with
  | .str name, .obj arguments =>
    if name = "" then pure (failed call "call_tool.name must be a non-empty string")
    else do
      let state ← Action.get
      let proxy_schemas ← lift (host.get_proxy_tools state)
      if (proxy_schemas.find? (fun schema => schema.name = name)).isNone then
        pure (failed call ("proxied tool '" ++ name ++ "' not found"))
      else do
        let target := target_call call name arguments
        match ← validate host target proxy_schemas with
        | some message =>
          pure (failed call ("Tool call validation failed for '" ++ name ++ "': " ++ message))
        | none => execute_target host call target
  | .str name, _ =>
    pure (failed call (if name = "" then "call_tool.name must be a non-empty string"
      else "call_tool.arguments must be an object"))
  | _, _ => pure (failed call "call_tool.name must be a non-empty string")

def execute_one (host : ToolHost) (call : GovernedCall) : GovernedAction ToolExecutionResult :=
  if call.call.name = "search_tools" then execute_search_tools host call
  else if call.call.name = "call_tool" then execute_call_tool host call
  else execute_tool host call

/-- The loop over the batch hooks of `_execute_batch(calls)`: none if no hook takes the calls. -/
def execute_batch (host : ToolHost) (calls : List GovernedCall) :
    List Nat → GovernedAction (Option (List ToolExecutionResult))
  | [] => pure none
  | hook :: rest => do
      note (.executed .execute_tools_batch calls)
      match ← attempt (ask (fun state => host.execute_tools_batch state calls hook)) with
      | .error (.raised error) =>
        pure (some (error_results (calls.map (·.call)) error.message))
      | .error error => Action.raise error
      | .ok .unhandled => execute_batch host calls rest
      | .ok (.not_a_list type_name) =>
        pure (some (error_results (calls.map (·.call))
          ("execute_tools_batch returned " ++ type_name ++ ", expected list")))
      | .ok (.results results) =>
        if results.length ≠ calls.length then
          Action.raise (.raised (.raised .ValueError
            ("execute_tools_batch returned " ++ toString results.length ++ " results for "
              ++ toString calls.length ++ " tool calls")))
        else do
          let enveloped ← lift ((calls.zip results).mapM (fun (call, result) =>
            envelope_raw_result call.call result))
          pure (some enveloped)

/-- The batch part of `execute_tools`: several calls, none of them a proxy affordance. -/
def try_batch (host : ToolHost) (calls : List GovernedCall) :
    GovernedAction (Option (List ToolExecutionResult)) :=
  if 1 < calls.length ∧ !calls.any (fun call => is_proxy_affordance call.call.name) then do
    let state ← Action.get
    execute_batch host calls (List.range (host.batch_hooks state))
  else pure none

def execute_tools (host : ToolHost) (calls : List GovernedCall) :
    GovernedAction (List ToolExecutionResult) := do
  match ← try_batch host calls with
  | some results => pure results
  | none => collect calls (execute_one host)

end Toolset

/-! ## The stage -/

/-- A call that is rejected gets its result at once. -/
def answer_rejected (inputs : CallInputs) (call : GovernedCall) (rejection_msg : String) :
    GovernedAction (Option GovernedCall) := do
  on_turn (Action.modify (·.append (.new "tool_result"
    (result_payload call.call.tool_call_id rejection_msg) inputs.rejection_stamp)))
  note (.answered call.ref call.call.tool_call_id)
  lift inputs.notified
  pure none

/-- The loop body over the tool calls of a response: the call, if it is to be executed. The
answers of the toolset in `inputs` are not read. -/
def govern_call (host : ToolHost) (tool_schemas : List ToolSchema) (response : Response)
    (inputs : CallInputs) (call : GovernedCall) : GovernedAction (Option GovernedCall) := do
  on_turn (Action.modify (·.append (.new "tool_call"
    (response.call_payload call.call call.ref.index) inputs.call_stamp)))
  note (.called call)
  match ← Toolset.validate host call tool_schemas with
  | some message => answer_rejected inputs call ("Tool call validation failed: " ++ message)
  | none =>
    if is_proxy_affordance call.call.name then pure (some call)
    else do
      let approval ← Toolset.approve_tool_call host call
      if approval.approved then pure (some call)
      else
        answer_rejected inputs call
          ("Tool call rejected: " ++ if approval.reason = "" then "policy" else approval.reason)

/-- The loop body over the execution results, each with its call. -/
def answer_executed (text : JsonText) (inputs : RoundInputs)
    (item : (GovernedCall × ToolExecutionResult) × Nat) : GovernedAction Unit := do
  let state ← Action.get
  let result := item.1.2
  let config := state.turn.ctx.config
  let result_str :=
    if result.is_error then result.error_message
    else format_result text result.result config.structured_results config.max_tool_result_size
  on_turn (Action.modify (·.append (.new "tool_result"
    (result_payload result.tool_call_id result_str) (inputs.result_stamps item.2))))
  note (.answered item.1.1.ref result.tool_call_id)
  lift (inputs.results_notified item.2)

/-- The execution of the accepted calls; returns the length of the tape before it. -/
def execute_governed (text : JsonText) (host : ToolHost) (inputs : RoundInputs)
    (executable_calls : List GovernedCall) : GovernedAction Nat := do
  lift inputs.interrupted
  let state ← Action.get
  let results ← Toolset.execute_tools host executable_calls
  each (executable_calls.zip results).zipIdx (answer_executed text inputs)
  pure state.turn.ctx.tape.entries.length

def governed_calls (round : Nat) (response : Response) : List GovernedCall :=
  response.tool_calls.zipIdx.map (fun (call, index) => { ref := { round, index }, call })

/-- The part of a round after the stream when there are tool calls. -/
def govern_tool_calls (text : JsonText) (host : ToolHost) (tool_schemas : List ToolSchema)
    (inputs : RoundInputs) (round : Nat) (response : Response) : GovernedAction Unit := do
  on_turn (when (response.text_chunks ≠ [])
    (Action.modify (·.append_text response inputs.text_stamp)))
  let offered ← collect (governed_calls round response) (fun call =>
    govern_call host tool_schemas response (inputs.calls call.ref.index) call)
  let executable_calls := offered.reduceOption
  if executable_calls = [] then on_turn (stage_build_context text inputs.context)
  else do
    let checkpoint_entry_count ← execute_governed text host inputs executable_calls
    on_turn (do
      Action.modify (·.count_tool_round)
      stage_build_context text inputs.context
      Action.modify (·.expect_length (checkpoint_entry_count + executable_calls.length)))

/-- One round of `_stage_run_model`: whether there is another. -/
def govern_round (text : JsonText) (host : ToolHost) (tool_schemas : List ToolSchema)
    (inputs : RoundInputs) (round : Nat) : GovernedAction Bool := do
  note (.round_started round)
  let response ← on_turn (do
    let runtime_prompt_changed ← lift inputs.consumed
    when runtime_prompt_changed (stage_build_context text inputs.prompt_context)
    Action.modify (·.send)
    lift (read_stream inputs))
  if response.tool_calls ≠ [] then do
    govern_tool_calls text host tool_schemas inputs round response
    pure true
  else do
    on_turn (when (response.text_chunks ≠ [])
      (Action.modify (·.append_text response inputs.text_stamp)))
    pure false

/-- The rounds from `round` on, `remaining` of them at most. -/
def govern_rounds (text : JsonText) (host : ToolHost) (tool_schemas : List ToolSchema)
    (rounds : Nat → RoundInputs) : Nat → Nat → GovernedAction Unit
  | 0, _ => pure ()
  | remaining + 1, round => do
      let more ← govern_round text host tool_schemas (rounds round) round
      when more (govern_rounds text host tool_schemas rounds remaining (round + 1))

/-- `_stage_run_model(ctx)`, with the schemas collected for the turn. -/
def govern_run_model (text : JsonText) (host : ToolHost) (tool_schemas : List ToolSchema)
    (rounds : Nat → RoundInputs) : GovernedAction Unit := do
  let state ← Action.get
  when state.turn.ctx.llm_provider
    (govern_rounds text host tool_schemas rounds state.turn.ctx.config.max_tool_rounds.toNat 0)

end CodingAgentLoop
