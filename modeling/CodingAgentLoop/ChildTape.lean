/-
The tape a sub-agent starts from, and what it leaves on its parent's (`_fork_child_tape` and
`_append_child_trace_to_parent` of `tools/subagent.py`).

The fork leaves out the tool calls the parent's tape ends with, which are not answered yet: the
call that dispatches the sub-agent is one of them. The entries a child gained are copied to the
parent under a mark that keeps them out of its context.

A `Dispatch` is the moment a call of a response dispatches a sub-agent: the response has been
offered, and children dispatched before have left their traces.
-/
import CodingAgentLoop.ProviderMessages
import Mathlib.Data.List.DropRight

open Lib

namespace CodingAgentLoop.ChildTape

/-- `_fork_child_tape(parent_tape)`, under a fresh id. -/
def fork_child_tape (parent_tape : Tape) (tape_id : String) : Tape where
  entries := parent_tape.entries.rdropWhile fun entry => entry.kind = "tool_call"
  tape_id
  parent_id := some parent_tape.tape_id
  window_start := parent_tape.window_start

/-- An entry of a child as it is copied to its parent's tape. -/
def traced_entry (child_agent_id source_tape_id : String) (stamp : EntryStamp) (entry : Entry) :
    Entry :=
  .entry entry.kind
    { payload := entry.payload
      id := stamp.id
      timestamp := stamp.timestamp
      meta_ := JsonObject.merge entry.meta_
        [("skip_context", .bool true), ("subagent_child", .bool true),
         ("child_agent_id", .str child_agent_id), ("source_tape_id", .str source_tape_id),
         ("source_entry_id", .str entry.id)] }

/-- A child whose turn is over: its tape, and how long it was at first. -/
structure FinishedChild where
  tape : Tape
  base_length : Nat
  child_agent_id : String
  stamps : Nat → EntryStamp

def FinishedChild.gained (child : FinishedChild) : List Entry :=
  child.tape.entries.drop child.base_length

def FinishedChild.trace (child : FinishedChild) : List Entry :=
  child.gained.zipIdx.map fun (entry, index) =>
    traced_entry child.child_agent_id child.tape.tape_id (child.stamps index) entry

def append_child_trace_to_parent (parent_tape : Tape) (child : FinishedChild) : Tape :=
  child.trace.foldl Tape.append parent_tape

/-- The part of a round that comes before the execution of the calls (`run_tool_calls`). -/
def offer_response (inputs : RoundInputs) (response : Response) :
    TurnAction (List (Option ToolCallRequest)) := do
  Action.when (response.text_chunks ≠ [])
    (Action.modify (·.append_text response inputs.text_stamp))
  offer_calls response inputs.calls response.tool_calls.zipIdx

def accepted_calls (inputs : Nat → CallInputs) (items : List (ToolCallRequest × Nat)) :
    List Bool :=
  items.map fun item => accepts (inputs item.2) item.1

/-- The dispatch of a sub-agent by a call of a response, in a turn whose conversation was well
formed before it: with no call left open, and calls of their own ids in the response. -/
structure Dispatch (text : JsonText) where
  inputs : RoundInputs
  response : Response
  before : TurnState
  offered : List (Option ToolCallRequest)
  after : TurnState
  /-- The children of this response that are over by now. -/
  earlier : List FinishedChild
  well_formed : before.ctx.tape.Tidy text
  answered : ends_with_call before.ctx.tape.entries = false
  distinct : (response.tool_calls.map (·.tool_call_id)).Nodup
  offers : offer_response inputs response before = (.ok offered, after)
  dispatched : ∃ call ∈ offered.reduceOption, call.name = "subagent"

namespace Dispatch

variable {text : JsonText}

def parent_tape (dispatch : Dispatch text) : Tape :=
  dispatch.earlier.foldl append_child_trace_to_parent dispatch.after.ctx.tape

def accepted (dispatch : Dispatch text) : List Bool :=
  accepted_calls dispatch.inputs.calls dispatch.response.tool_calls.zipIdx

end Dispatch

def accepted_last : List Bool → Bool
  | [] => true
  | false :: rest => accepted_last rest
  | true :: rest => rest.all id

def Starts (text : JsonText) (tape : Tape) : Prop :=
  ∃ core, build_core_messages text (TapeView.visible_entries tape) = .ok core ∧ WellFormed core

end CodingAgentLoop.ChildTape
