/-
How a response's tool calls are executed (`agentkit/tools/toolset.py`).

Several calls go to the batch hooks together, unless a proxy affordance is among them;
a call no batch hook takes goes to the executors one by one. Whatever an executor does,
the call gets a `ToolExecutionResult` under its own id -- or the turn ends.

What the plugins do is given: `PluginReply` is a call of one of them, with the entries it
appended to the tape and what it returned or raised.
-/
import CodingAgentLoop.Lib.Stateful
import CodingAgentLoop.Tape

namespace CodingAgentLoop

open Lib List

/-- What ends a turn: an exception, or one of those no `except Exception` sees. A
`FatalToolExecutionError` is an exception the tool code passes on. -/
inductive TurnError where
  | raised (error : StoreError)
  | FatalToolExecutionError (message : String)
  | KeyboardInterrupt
  | CancelledError
  deriving DecidableEq, Repr

/-- What a plugin that was called did. -/
structure PluginReply (α : Type) where
  appended : List Entry := []
  outcome : Except TurnError α

def PluginReply.run {α : Type} (reply : PluginReply α) : Action Tape TurnError α := do
  Action.modify (fun tape => reply.appended.foldl Tape.append tape)
  Action.lift reply.outcome

structure ToolCallRequest where
  tool_call_id : String
  name : String
  arguments : JsonObject
  deriving DecidableEq

structure ToolExecutionResult where
  tool_call_id : String
  name : String
  result : Json := .null
  error : Option String := none
  missing : Bool := false

namespace ToolExecutionResult

def is_error (result : ToolExecutionResult) : Bool := result.error.isSome ∨ result.missing

def error_message (result : ToolExecutionResult) : String :=
  match result.error with
  | some error => "Error executing tool '" ++ result.name ++ "': " ++ error
  | none =>
    if result.missing then
      "Error executing tool '" ++ result.name ++ "': tool '" ++ result.name ++ "' not found"
    else ""

end ToolExecutionResult

/-- What an executor returns for one call: an exception is a value too. -/
inductive RawToolResult where
  | fatal (message : String)
  | error (message : String)
  | unhandled
  | value (result : Json)

/-- What a batch hook returns. -/
inductive BatchReply where
  | unhandled
  | not_a_list (type_name : String)
  | results (results : List RawToolResult)

def is_proxy_affordance (tool_name : String) : Bool := tool_name ∈ ["search_tools", "call_tool"]

def envelope_raw_result (call : ToolCallRequest) :
    RawToolResult → Except TurnError ToolExecutionResult
  | .fatal message => .error (.FatalToolExecutionError message)
  | .error message =>
    .ok { tool_call_id := call.tool_call_id, name := call.name, error := some message }
  | .unhandled => .ok { tool_call_id := call.tool_call_id, name := call.name, missing := true }
  | .value result => .ok { tool_call_id := call.tool_call_id, name := call.name, result }

def error_results (calls : List ToolCallRequest) (message : String) : List ToolExecutionResult :=
  calls.map (fun call =>
    { tool_call_id := call.tool_call_id, name := call.name, error := some message })

/-- `_invoke_executor(execute, call)`: the exception, or the result. -/
def invoke_executor (reply : PluginReply RawToolResult) :
    Action Tape TurnError (Except String RawToolResult) := do
  match ← Action.attempt reply.run with
  | .ok result => pure (.ok result)
  | .error (.raised error) => pure (.error error.message)
  | .error error => Action.raise error

/-- `_execute_one_from_hook(hook_name, call)`: the host's executor and the hooks, in order. -/
def execute_one_from_hook (call : ToolCallRequest) :
    List (PluginReply RawToolResult) → Action Tape TurnError ToolExecutionResult
  | [] => Action.lift (envelope_raw_result call .unhandled)
  | reply :: rest => do
      match ← invoke_executor reply with
      | .error message => Action.lift (envelope_raw_result call (.error message))
      | .ok .unhandled => execute_one_from_hook call rest
      | .ok result => Action.lift (envelope_raw_result call result)

/-- What the executors do when `execute_tools` calls them: the batch hooks, the executors of each
call, and the proxied tool of a call that is a proxy affordance (its result, or the text of its
error). -/
structure ExecutionInputs where
  batch_hooks : List (PluginReply BatchReply) := []
  executors : Nat → List (PluginReply RawToolResult) := fun _ => []
  proxied : Nat → PluginReply (Except String Json) := fun _ => { outcome := .ok (.ok .null) }

def execute_one (inputs : ExecutionInputs) (call : ToolCallRequest) (index : Nat) :
    Action Tape TurnError ToolExecutionResult :=
  if is_proxy_affordance call.name then do
    match ← (inputs.proxied index).run with
    | .ok result => Action.lift (envelope_raw_result call (.value result))
    | .error message => Action.lift (envelope_raw_result call (.error message))
  else execute_one_from_hook call (inputs.executors index)

/-- `_execute_batch(calls)`: none if no hook takes the calls. -/
def execute_batch (calls : List ToolCallRequest) :
    List (PluginReply BatchReply) → Action Tape TurnError (Option (List ToolExecutionResult))
  | [] => pure none
  | reply :: rest => do
      match ← Action.attempt reply.run with
      | .error (.raised error) => pure (some (error_results calls error.message))
      | .error error => Action.raise error
      | .ok .unhandled => execute_batch calls rest
      | .ok (.not_a_list type_name) =>
        pure (some (error_results calls
          ("execute_tools_batch returned " ++ type_name ++ ", expected list")))
      | .ok (.results results) =>
        if results.length ≠ calls.length then
          Action.raise (.raised (.raised .ValueError
            ("execute_tools_batch returned " ++ toString results.length ++ " results for "
              ++ toString calls.length ++ " tool calls")))
        else do
          let enveloped ← Action.lift ((calls.zip results).mapM (fun (call, result) =>
            envelope_raw_result call result))
          pure (some enveloped)

/-- The batch part of `execute_tools`: several calls, none of them a proxy affordance. -/
def try_batch (inputs : ExecutionInputs) (calls : List ToolCallRequest) :
    Action Tape TurnError (Option (List ToolExecutionResult)) :=
  if 1 < calls.length ∧ !calls.any (fun call => is_proxy_affordance call.name) then
    execute_batch calls inputs.batch_hooks
  else pure none

def execute_tools (inputs : ExecutionInputs) (calls : List ToolCallRequest) :
    Action Tape TurnError (List ToolExecutionResult) := do
  match ← try_batch inputs calls with
  | some results => pure results
  | none => Action.collect calls.zipIdx (fun (call, index) => execute_one inputs call index)

/-! ## What the executions leave

Every call gets a result of its own id. An invariant of the tape that the appended entries
leave goes through. -/

/-- The entries the executors append leave the invariant. -/
structure ExecutionInputs.Leaves (inputs : ExecutionInputs) (inv : Tape → Prop) : Prop where
  batch_hooks : ∀ reply ∈ inputs.batch_hooks, ∀ entry ∈ reply.appended, ∀ tape, inv tape →
    inv (tape.append entry)
  executors : ∀ index, ∀ reply ∈ inputs.executors index, ∀ entry ∈ reply.appended, ∀ tape,
    inv tape → inv (tape.append entry)
  proxied : ∀ index, ∀ entry ∈ (inputs.proxied index).appended, ∀ tape, inv tape →
    inv (tape.append entry)

section Leaves

variable {inv : Tape → Prop}

theorem leaves_run {α : Type} {reply : PluginReply α}
    (h : ∀ entry ∈ reply.appended, ∀ tape, inv tape → inv (tape.append entry)) :
    Preserves inv reply.run := by
  unfold PluginReply.run
  refine Ensures.bind (Q := fun _ => inv) (Ensures.modify (fun tape htape => ?_))
    (fun () => Ensures.lift (fun _ _ _ h => h) (fun _ _ _ h => h))
  generalize reply.appended = entries at h
  induction entries generalizing tape with
  | nil => exact htape
  | cons entry rest ih =>
    exact ih _ (h entry mem_cons_self tape htape)
      (fun other hother => h other (mem_cons_of_mem _ hother))

theorem envelope_id {call : ToolCallRequest} {raw : RawToolResult} {result : ToolExecutionResult}
    (h : envelope_raw_result call raw = .ok result) : result.tool_call_id = call.tool_call_id := by
  cases raw with
  | fatal message => cases h
  | error message => cases h; rfl
  | unhandled => cases h; rfl
  | value value => cases h; rfl

theorem ensures_envelope (call : ToolCallRequest) (raw : RawToolResult) :
    Ensures inv (Action.lift (envelope_raw_result call raw))
      (fun result tape => result.tool_call_id = call.tool_call_id ∧ inv tape) inv :=
  Ensures.lift (fun _ hresult _ h => ⟨envelope_id hresult, h⟩) (fun _ _ _ h => h)

theorem execute_from_hook_spec (call : ToolCallRequest) :
    ∀ replies : List (PluginReply RawToolResult),
      (∀ reply ∈ replies, ∀ entry ∈ reply.appended, ∀ tape, inv tape → inv (tape.append entry)) →
      Ensures inv (execute_one_from_hook call replies)
        (fun result tape => result.tool_call_id = call.tool_call_id ∧ inv tape)
        inv
  | [], _ => ensures_envelope call _
  | reply :: rest, h => by
      have hinvoke : Preserves inv (invoke_executor reply) := by
        unfold invoke_executor
        refine Ensures.bind (leaves_run (h reply mem_cons_self)).attempt (fun outcome => ?_)
        split
        · exact Ensures.pure (fun _ h => h)
        · exact Ensures.pure (fun _ h => h)
        · exact Ensures.raise (fun _ h => h)
      unfold execute_one_from_hook
      refine hinvoke.bind (fun outcome => ?_)
      split
      · exact ensures_envelope call _
      · exact execute_from_hook_spec call rest
          (fun other hother => h other (mem_cons_of_mem _ hother))
      · exact ensures_envelope call _

theorem execute_one_spec {inputs : ExecutionInputs} (h : inputs.Leaves inv)
    (call : ToolCallRequest) (index : Nat) :
    Ensures inv (execute_one inputs call index)
      (fun result tape => result.tool_call_id = call.tool_call_id ∧ inv tape)
      inv := by
  unfold execute_one
  split
  · refine (leaves_run (h.proxied index)).bind (fun outcome => ?_)
    split
    · exact ensures_envelope call _
    · exact ensures_envelope call _
  · exact execute_from_hook_spec call _ (h.executors index)

def result_ids (results : List ToolExecutionResult) : List String := results.map (·.tool_call_id)

theorem result_ids_eq {α : Type} {id : α → String} {items : List α}
    {results : List ToolExecutionResult}
    (h : List.Forall₂ (fun item result => result.tool_call_id = id item) items results) :
    result_ids results = items.map id := by
  induction h with
  | nil => rfl
  | cons hhead _ ih =>
    rw [map_cons, ← ih, ← hhead]
    rfl

theorem error_results_ids (calls : List ToolCallRequest) (message : String) :
    result_ids (error_results calls message) = calls.map (·.tool_call_id) := by
  unfold result_ids error_results
  rw [map_map]
  rfl

theorem enveloped_ids {calls : List ToolCallRequest} {raws : List RawToolResult}
    {results : List ToolExecutionResult} (hlength : raws.length = calls.length)
    (h : (calls.zip raws).mapM (fun (call, raw) => envelope_raw_result call raw) = .ok results) :
    result_ids results = calls.map (·.tool_call_id) := by
  rw [Result.mapM_eq_ok] at h
  have hzip : calls = (calls.zip raws).map Prod.fst :=
    (map_fst_zip (by rw [hlength])).symm
  have hids : List.Forall₂ (fun (item : ToolCallRequest × RawToolResult) result =>
      result.tool_call_id = item.1.tool_call_id) (calls.zip raws) results :=
    h.imp (fun _ _ hresult => envelope_id hresult)
  rw [result_ids_eq hids, hzip, map_map, ← hzip]
  rfl

theorem execute_batch_spec (calls : List ToolCallRequest) :
    ∀ replies : List (PluginReply BatchReply),
      (∀ reply ∈ replies, ∀ entry ∈ reply.appended, ∀ tape, inv tape → inv (tape.append entry)) →
      Ensures inv (execute_batch calls replies)
        (fun batched tape => (∀ results, batched = some results →
          result_ids results = calls.map (·.tool_call_id)) ∧ inv tape)
        inv
  | [], _ => Ensures.pure (fun _ h => ⟨fun _ hnone => (by cases hnone), h⟩)
  | reply :: rest, h => by
      have herrors : ∀ message : String, Ensures inv
          (pure (some (error_results calls message)) :
            Action Tape TurnError (Option (List ToolExecutionResult)))
          (fun batched tape => (∀ results, batched = some results →
            result_ids results = calls.map (·.tool_call_id)) ∧ inv tape)
          inv := fun message => Ensures.pure (fun tape htape =>
            ⟨fun results hresults => by
              rw [← Option.some.inj hresults]
              exact error_results_ids calls message, htape⟩)
      unfold execute_batch
      refine Ensures.bind (leaves_run (h reply mem_cons_self)).attempt (fun outcome => ?_)
      split
      · exact herrors _
      · exact Ensures.raise (fun _ h => h)
      · exact execute_batch_spec calls rest
          (fun other hother => h other (mem_cons_of_mem _ hother))
      · exact herrors _
      · split
        · exact Ensures.raise (fun _ h => h)
        · next hlength =>
          refine Ensures.bind (Q := fun results tape =>
              result_ids results = calls.map (·.tool_call_id) ∧ inv tape)
            (Ensures.lift (fun results hresults _ h => ⟨enveloped_ids (not_not.mp hlength) hresults, h⟩)
              (fun _ _ _ h => h)) (fun results => Ensures.pure (fun tape htape =>
                ⟨fun other hother => by rw [← Option.some.inj hother]; exact htape.1, htape.2⟩))

theorem execute_tools_spec {inputs : ExecutionInputs} (h : inputs.Leaves inv)
    (calls : List ToolCallRequest) :
    Ensures inv (execute_tools inputs calls)
      (fun results tape => result_ids results = calls.map (·.tool_call_id)
        ∧ inv tape) inv := by
  unfold execute_tools
  refine Ensures.bind
    (Q := fun batched tape => (∀ results, batched = some results →
      result_ids results = calls.map (·.tool_call_id)) ∧ inv tape) ?_
    (fun batched => ?_)
  · unfold try_batch
    split
    · exact execute_batch_spec calls _ h.batch_hooks
    · exact Ensures.pure (fun _ h => ⟨fun _ hnone => (by cases hnone), h⟩)
  · split
    · next results => exact Ensures.pure (fun _ h => ⟨h.1 results rfl, h.2⟩)
    · refine ((Ensures.collect (G := fun item result =>
          result.tool_call_id = item.1.tool_call_id)
        (fun item _ => execute_one_spec h item.1 item.2)).mono (fun _ h => h.2)
          (fun results tape hresults => ⟨?_, hresults.2⟩) (fun _ h => h))
      have hcalls : calls.map (·.tool_call_id) = calls.zipIdx.map (·.1.tool_call_id) := by
        calc calls.map (·.tool_call_id)
            = (calls.zipIdx.map Prod.fst).map (·.tool_call_id) := by rw [zipIdx_map_fst]
          _ = calls.zipIdx.map (·.1.tool_call_id) := by rw [map_map]; rfl
      rw [hcalls]
      exact result_ids_eq hresults.1

end Leaves

end CodingAgentLoop
