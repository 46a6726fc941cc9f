/-
The plugin that runs the tool calls of one response in batches.

A batch is begun by the first call that is left, and every later call that can run in parallel with
all of it joins. Batches run one after another, the calls of a batch at the same time, and the
results come back in the order of the calls.
-/
import CodingAgentLoop.Lib.FirstFit
import CodingAgentLoop.Lib.Json
import CodingAgentLoop.Lib.Reordering

namespace CodingAgentLoop.ParallelExecutor

open Lib

def file_tools : List String := ["file_read", "file_write", "file_replace"]

def conflict_pairs : List (String × String) :=
  [("file_write", "file_write"), ("file_replace", "file_write"), ("file_write", "file_replace"),
   ("file_replace", "file_replace"), ("file_read", "file_write"), ("file_write", "file_read"),
   ("file_read", "file_replace"), ("file_replace", "file_read")]

def read_write_pairs : List (String × String) :=
  [("file_read", "file_write"), ("file_write", "file_read"), ("file_read", "file_replace"),
   ("file_replace", "file_read")]

structure ToolCallDict where
  name : String
  arguments : JsonObject

/-! ## Grouping -/

/-- `None` is `null`. -/
def get_file_path (tool_name : String) (args : JsonObject) : Json :=
  if tool_name ∈ file_tools then args.get "path" else .null

def ToolCallDict.path (call : ToolCallDict) : Json := get_file_path call.name call.arguments

def can_run_in_parallel (call1 call2 : ToolCallDict) : Bool :=
  if !conflict_pairs.contains (call1.name, call2.name) then true
  else if call1.path.truthy && call2.path.truthy && call1.path.py_eq call2.path then false
  else if read_write_pairs.contains (call1.name, call2.name) && !call1.path.py_eq call2.path then true
  else false

def enumerate (tool_calls : List ToolCallDict) : List (Nat × ToolCallDict) :=
  tool_calls.mapIdx Prod.mk

def group_by_dependencies (tool_calls : List ToolCallDict) : List (List (Nat × ToolCallDict)) :=
  FirstFit.groups (fun existing candidate => can_run_in_parallel existing.2 candidate.2)
    tool_calls.length (enumerate tool_calls)

/-! ## Running -/

section Running

variable {ν : Type}

abbrev Files (ν : Type) : Type := String → ν

/-- What a tool does: it returns a value, or raises an exception with a text, and has changed files;
`none` is a `FatalToolExecutionError`. -/
abbrev ExecuteFn (ν : Type) : Type := ToolCallDict → Files ν → Option (Except String Json × Files ν)

variable (dumps : Json → String) (execute_fn : ExecuteFn ν)

def result_of (dumps : Json → String) : Except String Json → Json
  | .ok result => result
  | .error message => .str (dumps (.obj [("error", .str message)]))

def run_one (call : ToolCallDict) (files : Files ν) : Option (Json × Files ν) :=
  (execute_fn call files).map fun done => (result_of dumps done.1, done.2)

/-- The batches one after another, each in the order its calls run in. -/
def run_batches : List (List (Nat × ToolCallDict)) → (Nat → Option Json) × Files ν →
    Option ((Nat → Option Json) × Files ν)
  | [], state => some state
  | batch :: batches, state =>
    (Reordering.run (Reordering.recorded (run_one dumps execute_fn)) batch state).bind
      (run_batches batches)

/-- `[results_by_index[i] for i in range(len(tool_calls))]`. -/
def results_in_order (count : Nat) (results_by_index : Nat → Option Json) : Option (List Json) :=
  (List.range count).mapM results_by_index

/-- `order` is the batches of the calls, each in the order in which its calls happen to run. -/
def execute_batch (order : List (List (Nat × ToolCallDict))) (tool_calls : List ToolCallDict)
    (files : Files ν) : Option (List Json × Files ν) :=
  (run_batches dumps execute_fn order (fun _ => none, files)).bind fun state =>
    (results_in_order tool_calls.length state.1).map fun results => (results, state.2)

def one_by_one : List ToolCallDict → Files ν → Option (List Json × Files ν)
  | [], files => some ([], files)
  | call :: calls, files =>
    (run_one dumps execute_fn call files).bind fun done =>
      (one_by_one calls done.2).map fun rest => (done.1 :: rest.1, rest.2)

end Running

/-! ## What the batches say about two calls -/

def ToolCallDict.is_read (call : ToolCallDict) : Bool := call.name == "file_read"

def ToolCallDict.is_write (call : ToolCallDict) : Bool :=
  call.name == "file_write" || call.name == "file_replace"

theorem can_run_in_parallel_eq_false {call1 call2 : ToolCallDict} :
    can_run_in_parallel call1 call2 = false ↔ (call1.is_write = true ∧ call2.is_write = true)
      ∨ ((call1.is_read = true ∧ call2.is_write = true
          ∨ call1.is_write = true ∧ call2.is_read = true)
        ∧ call1.path.py_eq call2.path = true) := by
  unfold can_run_in_parallel ToolCallDict.is_read ToolCallDict.is_write
  generalize call1.path = path1
  generalize call2.path = path2
  by_cases hpair : (call1.name, call2.name) ∈ conflict_pairs
  · rw [if_neg (by simpa using hpair)]
    simp only [conflict_pairs, List.mem_cons, Prod.mk.injEq, List.not_mem_nil, or_false] at hpair
    cases path1.py_eq path2 <;>
      rcases hpair with ⟨h1, h2⟩ | ⟨h1, h2⟩ | ⟨h1, h2⟩ | ⟨h1, h2⟩ | ⟨h1, h2⟩ | ⟨h1, h2⟩ | ⟨h1, h2⟩ |
        ⟨h1, h2⟩ <;>
      simp [h1, h2, read_write_pairs]
  · rw [if_pos (by simpa using hpair)]
    simp only [conflict_pairs, List.mem_cons, Prod.mk.injEq, List.not_mem_nil, or_false] at hpair
    simp only [Bool.or_eq_true, beq_iff_eq]
    tauto

end CodingAgentLoop.ParallelExecutor
