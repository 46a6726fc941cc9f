/-
Advancing the context window (`coding_agent/plugins/summarizer.py`, under `_stage_build_context`
of `Pipeline.lean`).

When more entries are visible than it allows, the summarizer plugin names a place to cut them, one
past the last fold boundary or `keep_recent` from the end, and an anchor that sums up what is in
front of it. The stage hands the tape off to the anchor: it goes to the end of the tape, and the
window starts at the cut.

A turn writes the result of a tool call behind the call, so what is visible behind a cut is paired
exactly when no call in front of it is answered behind it (`window_kept_iff`). A cut between two
turns separates nothing (`turns_not_severed`); one that is counted off from the end may.
-/
import CodingAgentLoop.Pipeline

namespace CodingAgentLoop

open Lib Preserves List Result

/-! ## The plugin -/

structure SummarizerPlugin where
  max_entries : Int := 100
  keep_recent : Int := 10

namespace SummarizerPlugin

/-- `entry` is an anchor with a fold boundary. -/
def folds (entry : Entry) : Bool :=
  entry.fold_boundary || entry.kind = "anchor" && (entry.meta_.get "fold_boundary").truthy

def find_last_finalized : List Entry → Option Nat
  | [] => none
  | entry :: rest =>
    match find_last_finalized rest with
    | some index => some (index + 1)
    | none => if folds entry then some 0 else none

/-- `entries[:stop]`. -/
def entries_until (entries : List Entry) (stop : Int) : List Entry :=
  entries.take (if 0 ≤ stop then stop else entries.length + stop).toNat

/-- `(old_entries[0].id, old_entries[-1].id)`, if there are any. -/
def source_ids (old_entries : List Entry) : List String :=
  match old_entries.head?, old_entries.getLast? with
  | some first, some last => [first.id, last.id]
  | _, _ => []

def topic_ids (old_entries : List Entry) : List Json :=
  old_entries.foldl (fun ids entry =>
    let topic_id := entry.meta_.get "topic_id"
    if topic_id.truthy && !ids.any (fun other => Json.py_eq topic_id other) then ids ++ [topic_id]
    else ids) []

/-- What `files.extend(value)` adds. -/
def iterated : Json → Except StoreError (List Json)
  | .arr items => .ok items
  | .str text => .ok (text.toList.map (fun character => .str (String.singleton character)))
  | .obj fields => .ok (fields.map (fun field => .str field.1))
  | value => raise .TypeError ("'" ++ value.type_name ++ "' object is not iterable")

def folded_files (old_entries : List Entry) : Except StoreError (List Json) := do
  let files ← (old_entries.filter folds).mapM
    (fun entry => iterated (entry.meta_.get_or "files" (.arr [])))
  return files.flatten

/-- `', '.join(sorted(set(files))[:10])`. Files that are no strings cannot be sorted or joined. -/
def files_text (files : List Json) : Except StoreError String := do
  let names ← files.mapM (fun file =>
    match file with
    | .str name => .ok name
    | file => raise .TypeError ("sequence item: expected str instance, " ++ file.type_name
        ++ " found"))
  return ", ".intercalate ((names.dedup.insertionSort (fun name other => name ≤ other)).take 10)

def build_topic_summary (old_entries : List Entry) (stamp : EntryStamp) :
    Except StoreError Entry := do
  let topics := topic_ids old_entries
  let files ← folded_files old_entries
  let names ← files_text files
  let summary_text := "[Summarized " ++ toString old_entries.length ++ " entries from "
    ++ toString (if topics = [] then 1 else topics.length) ++ " completed topic(s)]"
    ++ if files = [] then "" else "\nFiles involved: " ++ names
  return .anchor
    { payload := [("content", .str summary_text)]
      id := stamp.id
      timestamp := stamp.timestamp
      meta_ := [("folded_topics", .arr topics), ("prefix", .str "Context Summary")] }
    "handoff" (source_ids old_entries)

/-- `content[:100] + "..." if len(content) > 100 else content`, as text. -/
def preview (text : JsonText) : Json → Except StoreError String
  | .str content =>
    .ok (if 100 < content.length then String.ofList (content.toList.take 100) ++ "..."
      else content)
  | .arr items =>
    if 100 < items.length then
      raise .TypeError "can only concatenate list (not \"str\") to list"
    else .ok (text.str (.arr items))
  | .obj fields =>
    if 100 < fields.length then raise .TypeError "unhashable type: 'slice'"
    else .ok (text.str (.obj fields))
  | content => raise .TypeError ("object of type '" ++ content.type_name ++ "' has no len()")

/-- The line an entry has in a summary. -/
def summary_part (text : JsonText) (entry : Entry) : Except StoreError (Option String) :=
  if entry.kind = "message" then do
    let content ← preview text (entry.payload.get_or "content" (.str ""))
    return some ("[" ++ text.str (entry.payload.get_or "role" (.str "?")) ++ "] " ++ content)
  else if entry.kind = "tool_call" then
    .ok (some ("[tool_call] " ++ text.str (entry.payload.get_or "name" (.str "?"))))
  else if entry.kind = "tool_result" then .ok (some "[tool_result] ...")
  else .ok none

def build_entry_summary (text : JsonText) (old_entries : List Entry) (stamp : EntryStamp) :
    Except StoreError Entry := do
  let parts ← old_entries.mapM (summary_part text)
  let summary_parts := parts.reduceOption
  let summary_text := "[Summarized " ++ toString old_entries.length ++ " earlier entries]\n"
    ++ "\n".intercalate (summary_parts.drop (summary_parts.length - 10))
  return .anchor
    { payload := [("content", .str summary_text)]
      id := stamp.id
      timestamp := stamp.timestamp
      meta_ := [("prefix", .str "Context Summary")] }
    "handoff" (source_ids old_entries)

variable (plugin : SummarizerPlugin)

/-- Where the visible entries are cut: one past the last fold boundary, or else `keep_recent` from
the end. -/
def split_point (visible : List Entry) : Int :=
  match find_last_finalized visible with
  | some last_finalized_idx => last_finalized_idx + 1
  | none => visible.length - plugin.keep_recent

/-- The anchor for what is in front of the cut. -/
def summary_anchor (text : JsonText) (visible : List Entry) (stamp : EntryStamp) :
    Except StoreError Entry :=
  let old_entries := entries_until visible (plugin.split_point visible)
  match find_last_finalized visible with
  | some _ => build_topic_summary old_entries stamp
  | none => build_entry_summary text old_entries stamp

def resolve_context_window (text : JsonText) (stamp : EntryStamp) (tape : Option Tape) :
    Except StoreError (Option (Int × Entry)) :=
  match tape with
  | none => .ok none
  | some tape =>
    let visible := tape.windowed_entries
    if visible.length ≤ plugin.max_entries then .ok none
    else do
      let anchor ← plugin.summary_anchor text visible stamp
      return some (plugin.split_point visible, anchor)

theorem resolve_context_window_eq {plugin : SummarizerPlugin} {text : JsonText} {stamp : EntryStamp}
    {tape : Tape} {window_start : Int} {anchor : Entry}
    (h : plugin.resolve_context_window text stamp (some tape) = .ok (some (window_start, anchor))) :
    window_start = plugin.split_point tape.windowed_entries ∧ anchor.kind = "anchor" := by
  dsimp only [resolve_context_window] at h
  split at h
  · cases h
  · simp only [bind_eq_ok, pure_eq_ok, Option.some.injEq, Prod.mk.injEq] at h
    obtain ⟨_, hanchor, rfl, rfl⟩ := h
    refine ⟨rfl, ?_⟩
    dsimp only [summary_anchor] at hanchor
    split at hanchor
    · simp only [build_topic_summary, bind_eq_ok, pure_eq_ok] at hanchor
      obtain ⟨_, -, _, -, rfl⟩ := hanchor
      rfl
    · simp only [build_entry_summary, bind_eq_ok, pure_eq_ok] at hanchor
      obtain ⟨_, -, rfl⟩ := hanchor
      rfl

end SummarizerPlugin

/-! ## Tool exchanges -/

def Entry.call_id (entry : Entry) : Option Json :=
  if entry.kind = "tool_call" then some (entry.payload.get "id") else none

def Entry.result_id (entry : Entry) : Option Json :=
  if entry.kind = "tool_result" then some (entry.payload.get "tool_call_id") else none

namespace ContextWindow

def Calls (entries : List Entry) (id : Json) : Prop := ∃ entry ∈ entries, entry.call_id = some id

def Results (entries : List Entry) (id : Json) : Prop :=
  ∃ entry ∈ entries, entry.result_id = some id

/-- Each call is followed by its result, and each result is behind its call. -/
structure Exchanged (entries : List Entry) : Prop where
  answered : ∀ before entry after id, entries = before ++ entry :: after →
    entry.call_id = some id → Results after id
  asked : ∀ before entry after id, entries = before ++ entry :: after →
    entry.result_id = some id → Calls before id

/-- The entries of turns, one after another, in each of which the calls are answered. -/
def BuiltByTurns (entries : List Entry) : Prop :=
  ∃ turns : List (List Entry), entries = turns.flatten ∧ ∀ turn ∈ turns, Exchanged turn

/-- A call in front of the cut is answered behind it, and is not made again there. -/
def Severs (entries : List Entry) (split : Nat) : Prop :=
  ∃ id, Calls (entries.take split) id ∧ Results (entries.drop split) id
    ∧ ¬ Calls (entries.drop split) id

/-- What is claimed of an advance of the window. -/
structure WindowKept (before after : List Entry) : Prop where
  paired : ∀ id, Results after id ↔ Calls after id
  smaller : after.length < before.length
  inhabited : after ≠ []

/-- The cut is behind the second visible entry, at most behind the last, and in no exchange. -/
def CutsBetween (plugin : SummarizerPlugin) (tape : Tape) : Prop :=
  2 ≤ plugin.split_point tape.windowed_entries
    ∧ plugin.split_point tape.windowed_entries ≤ tape.windowed_entries.length
    ∧ ¬ Severs tape.entries
        (tape.window_start + (plugin.split_point tape.windowed_entries).toNat)

variable {first second : List Entry} {id : Json}

theorem calls_append :
    Calls (first ++ second) id ↔ Calls first id ∨ Calls second id := by
  simp only [Calls, mem_append, or_and_right, exists_or]

theorem results_append :
    Results (first ++ second) id ↔ Results first id ∨ Results second id := by
  simp only [Results, mem_append, or_and_right, exists_or]

theorem no_part_of_exchange {entry : Entry} (h : entry.kind = "anchor") :
    entry.call_id = none ∧ entry.result_id = none := by
  rw [Entry.call_id, Entry.result_id, h]
  exact ⟨rfl, rfl⟩

variable {entries : List Entry} {anchor : Entry}

theorem calls_snoc_anchor (h : anchor.kind = "anchor") (id : Json) :
    Calls (entries ++ [anchor]) id ↔ Calls entries id := by
  rw [calls_append, or_iff_left]
  rintro ⟨entry, hmem, hid⟩
  rw [mem_singleton.mp hmem, (no_part_of_exchange h).1] at hid
  cases hid

theorem results_snoc_anchor (h : anchor.kind = "anchor") (id : Json) :
    Results (entries ++ [anchor]) id ↔ Results entries id := by
  rw [results_append, or_iff_left]
  rintro ⟨entry, hmem, hid⟩
  rw [mem_singleton.mp hmem, (no_part_of_exchange h).2] at hid
  cases hid

theorem Exchanged.append (hfirst : Exchanged first) (hsecond : Exchanged second) :
    Exchanged (first ++ second) := by
  constructor
  · intro before entry after id hsplit hid
    rcases append_eq_append_iff.mp hsplit with ⟨rest, rfl, htail⟩ | ⟨rest, hhead, htail⟩
    · exact hsecond.answered rest entry after id htail hid
    · cases rest with
      | nil =>
        exact hsecond.answered [] entry after id htail.symm hid
      | cons head rest =>
        obtain ⟨rfl, rfl⟩ := List.cons.inj htail
        exact results_append.mpr (.inl (hfirst.answered before entry rest id hhead hid))
  · intro before entry after id hsplit hid
    rcases append_eq_append_iff.mp hsplit with ⟨rest, rfl, htail⟩ | ⟨rest, hhead, htail⟩
    · exact calls_append.mpr (.inr (hsecond.asked rest entry after id htail hid))
    · cases rest with
      | nil =>
        have hnone : Calls [] id := hsecond.asked [] entry after id htail.symm hid
        obtain ⟨_, hmem, -⟩ := hnone
        cases hmem
      | cons head rest =>
        obtain ⟨rfl, rfl⟩ := List.cons.inj htail
        exact hfirst.asked before entry rest id hhead hid

theorem exchanged_plain (h : ∀ entry ∈ entries, entry.call_id = none ∧ entry.result_id = none) :
    Exchanged entries := by
  constructor
  · rintro before entry after id rfl hid
    rw [(h entry (mem_append_right _ mem_cons_self)).1] at hid
    cases hid
  · rintro before entry after id rfl hid
    rw [(h entry (mem_append_right _ mem_cons_self)).2] at hid
    cases hid

theorem exchanged_pair {call result : Entry} (hcall : call.call_id = some id)
    (hcall_result : call.result_id = none) (hresult : result.result_id = some id)
    (hresult_call : result.call_id = none) : Exchanged [call, result] := by
  constructor
  · intro before entry after other hsplit hid
    match before with
    | [] =>
      obtain ⟨rfl, rfl⟩ := List.cons.inj hsplit
      rw [hcall] at hid
      obtain rfl := Option.some.inj hid
      exact ⟨result, mem_singleton_self _, hresult⟩
    | [_] =>
      obtain ⟨-, htail⟩ := List.cons.inj hsplit
      obtain ⟨rfl, -⟩ := List.cons.inj htail
      rw [hresult_call] at hid
      cases hid
    | _ :: _ :: _ => simp at hsplit
  · intro before entry after other hsplit hid
    match before with
    | [] =>
      obtain ⟨rfl, rfl⟩ := List.cons.inj hsplit
      rw [hcall_result] at hid
      cases hid
    | [_] =>
      obtain ⟨rfl, htail⟩ := List.cons.inj hsplit
      obtain ⟨rfl, -⟩ := List.cons.inj htail
      rw [hresult] at hid
      obtain rfl := Option.some.inj hid
      exact ⟨call, mem_singleton_self _, hcall⟩
    | _ :: _ :: _ => simp at hsplit

/-- **What turns build is exchanged.** -/
theorem BuiltByTurns.exchanged (h : BuiltByTurns entries) :
    Exchanged entries := by
  obtain ⟨turns, rfl, hturns⟩ := h
  induction turns with
  | nil =>
    constructor
    · intro before entry after id hsplit _
      simp at hsplit
    · intro before entry after id hsplit _
      simp at hsplit
  | cons turn rest ih =>
    rw [flatten_cons]
    exact (hturns turn mem_cons_self).append
      (ih (fun other hmem => hturns other (mem_cons_of_mem _ hmem)))

/-- **A cut between two turns severs nothing.** -/
theorem turns_not_severed (first : List Entry) {second : List Entry} (hsecond : BuiltByTurns second) :
    ¬ Severs (first ++ second) first.length := by
  rintro ⟨id, -, ⟨entry, hmem, hid⟩, hcalls⟩
  rw [drop_left] at hmem hcalls
  obtain ⟨before, after, rfl⟩ := append_of_mem hmem
  exact hcalls (calls_append.mpr (.inl (hsecond.exchanged.asked before entry after id rfl hid)))

theorem paired_iff (hexchanged : Exchanged entries) (split : Nat) :
    (∀ id, Results (entries.drop split) id ↔ Calls (entries.drop split) id)
      ↔ ¬ Severs entries split := by
  constructor
  · rintro hpaired ⟨id, -, hresults, hcalls⟩
    exact hcalls ((hpaired id).mp hresults)
  · intro hnot id
    have hentries : entries = entries.take split ++ entries.drop split :=
      (take_append_drop split entries).symm
    constructor
    · intro hresults
      obtain ⟨entry, hmem, hid⟩ := hresults
      obtain ⟨before, after, hdrop⟩ := append_of_mem hmem
      -- its call is behind the cut, or the cut severs it
      have hcall : Calls (entries.take split ++ before) id := by
        refine hexchanged.asked _ entry after id ?_ hid
        rw [append_assoc, ← hdrop]
        exact hentries
      by_contra hcalls
      rcases calls_append.mp hcall with hfront | hbehind
      · exact hnot ⟨id, hfront, ⟨entry, hmem, hid⟩, hcalls⟩
      · rw [hdrop] at hcalls
        exact hcalls (calls_append.mpr (.inl hbehind))
    · rintro ⟨entry, hmem, hid⟩
      obtain ⟨before, after, hdrop⟩ := append_of_mem hmem
      obtain ⟨result, hlater, hresult⟩ : Results after id := by
        refine hexchanged.answered (entries.take split ++ before) entry after id ?_ hid
        rw [append_assoc, ← hdrop]
        exact hentries
      rw [hdrop]
      exact results_append.mpr (.inr ⟨result, mem_cons_of_mem _ hlater, hresult⟩)

/-! ## The stage -/

def advanced (tape : Tape) (window_start : Int) (anchor : Entry) : Tape :=
  if 0 < window_start ∧ window_start ≤ tape.windowed_entries.length then
    tape.handoff anchor (some (tape.window_start + window_start.toNat))
  else tape

variable {window_start : Int} {inputs : BuildInputs}

theorem advance_window_run
    (hwindow : inputs.resolve_context_window = .ok (.window window_start (some anchor)))
    (state : TurnState) :
    (advance_window inputs state).2.ctx.tape = advanced state.ctx.tape window_start anchor := by
  unfold advance_window advanced
  rw [hwindow, Action.bind_ok (Action.lift_run _ _)]
  dsimp only
  rw [Action.bind_ok (Action.get_run _)]
  split
  · rfl
  · rfl

theorem handed_off_advance_window
    (hwindow : inputs.resolve_context_window = .ok (.window window_start (some anchor)))
    (tape : Tape) :
    Ensures (fun state : TurnState => state.ctx.tape = tape) (advance_window inputs)
      (fun _ state => state.ctx.tape = advanced tape window_start anchor)
      (fun state => state.ctx.tape = advanced tape window_start anchor) := by
  rintro state rfl
  have hrun := advance_window_run hwindow state
  exact ⟨fun _ _ => hrun, fun _ _ => hrun⟩

theorem keeps_tape_rebuild_context (text : JsonText) (grounding : List Message) (tape : Tape) :
    Preserves (fun state : TurnState => state.ctx.tape = tape)
      (rebuild_context text grounding) := by
  unfold rebuild_context
  refine seq Preserves.get (fun start => ?_)
  exact seq lift (fun core_messages => Preserves.modify (fun _ h => h))

theorem keeps_tape_patch_context (text : JsonText) (grounding : List Message) (tape : Tape) :
    Preserves (fun state : TurnState => state.ctx.tape = tape) (patch_context text grounding) := by
  unfold patch_context
  refine seq Preserves.get (fun start => ?_)
  refine seq (Preserves.modify (fun _ h => h)) (fun _ => ?_)
  refine seq lift (fun _ => ?_)
  refine seq (Preserves.modify (fun _ h => h)) (fun _ => ?_)
  refine seq (Preserves.modify (fun _ h => h)) (fun _ => ?_)
  exact seq lift (fun _ => Preserves.modify (fun _ h => h))

/-- **The stage hands the tape off**, and does nothing else to it. -/
theorem stage_build_context_tape
    (hwindow : inputs.resolve_context_window = .ok (.window window_start (some anchor)))
    (text : JsonText) (state : TurnState) :
    (stage_build_context text inputs state).2.ctx.tape
      = advanced state.ctx.tape window_start anchor := by
  have hstage : Ensures (fun start : TurnState => start.ctx.tape = state.ctx.tape)
      (stage_build_context text inputs)
      (fun _ after => after.ctx.tape = advanced state.ctx.tape window_start anchor)
      (fun after => after.ctx.tape = advanced state.ctx.tape window_start anchor) := by
    unfold stage_build_context
    refine Ensures.bind (handed_off_advance_window hwindow state.ctx.tape) (fun force => ?_)
    refine seq lift (fun results => ?_)
    refine seq Preserves.get (fun start => ?_)
    split
    · exact keeps_tape_rebuild_context text _ _
    · exact keeps_tape_patch_context text _ _
  exact hstage.final rfl

theorem windowed_entries_handoff {tape : Tape} (anchor : Entry) (hfrom : 0 < window_start)
    (hto : window_start ≤ tape.windowed_entries.length) :
    (advanced tape window_start anchor).windowed_entries
      = tape.entries.drop (tape.window_start + window_start.toNat) ++ [anchor] := by
  have hlength : tape.window_start + window_start.toNat ≤ tape.entries.length := by
    rw [Tape.windowed_entries, length_drop] at hto
    omega
  rw [advanced, if_pos ⟨hfrom, hto⟩]
  show (tape.entries ++ [anchor]).drop (tape.window_start + window_start.toNat) = _
  rw [drop_append_of_le_length hlength]

/-- **The window is advanced as claimed exactly when the cut is between exchanges.** For every tape
built by turns and every cut the plugin returns, what is visible behind the stage is paired, less
than before and not nothing if and only if the cut is behind the second visible entry, at most
behind the last one, and between the exchanges. -/
theorem window_kept_iff {plugin : SummarizerPlugin} {text : JsonText} {stamp : EntryStamp}
    {state : TurnState} {inputs : BuildInputs} {window_start : Int} {anchor : Entry}
    (hbuilt : BuiltByTurns state.ctx.tape.entries)
    (hresolve : plugin.resolve_context_window text stamp (some state.ctx.tape)
      = .ok (some (window_start, anchor)))
    (hwindow : inputs.resolve_context_window = .ok (.window window_start (some anchor))) :
    WindowKept state.ctx.tape.windowed_entries
        (stage_build_context text inputs state).2.ctx.tape.windowed_entries
      ↔ CutsBetween plugin state.ctx.tape := by
  obtain ⟨rfl, hanchor⟩ := SummarizerPlugin.resolve_context_window_eq hresolve
  rw [stage_build_context_tape hwindow, CutsBetween]
  generalize state.ctx.tape = tape at hbuilt
  generalize plugin.split_point tape.windowed_entries = split
  have hvisible : tape.windowed_entries.length = tape.entries.length - tape.window_start :=
    length_drop
  have hpaired := paired_iff hbuilt.exchanged (tape.window_start + split.toNat)
  by_cases hcut : 0 < split ∧ split ≤ tape.windowed_entries.length
  · have hafter := windowed_entries_handoff anchor hcut.1 hcut.2
    rw [hafter]
    have hlength : (tape.entries.drop (tape.window_start + split.toNat) ++ [anchor]).length
        = tape.windowed_entries.length - split.toNat + 1 := by
      rw [length_append, length_drop, length_singleton, hvisible]
      omega
    constructor
    · rintro ⟨hkept, hsmaller, -⟩
      rw [hlength] at hsmaller
      refine ⟨by omega, hcut.2, hpaired.mp (fun id => ?_)⟩
      rw [← results_snoc_anchor hanchor, ← calls_snoc_anchor hanchor]
      exact hkept id
    · rintro ⟨hsecond, -, hclean⟩
      refine ⟨fun id => ?_, ?_, by simp⟩
      · rw [results_snoc_anchor hanchor, calls_snoc_anchor hanchor]
        exact hpaired.mpr hclean id
      · rw [hlength]
        omega
  · -- the stage leaves the window as it is
    rw [advanced, if_neg hcut]
    constructor
    · rintro ⟨-, hsmaller, -⟩
      exact absurd hsmaller (Nat.lt_irrefl _)
    · rintro ⟨hsecond, hlast, -⟩
      exact absurd ⟨by omega, hlast⟩ hcut

/-! ## Samples -/

def sample_json_text : JsonText where
  dumps := fun _ => ""
  str := fun value =>
    match value with
    | .str content => content
    | _ => ""

def sample_user_message : Entry :=
  .new "message" [("role", .str "user"), ("content", .str "hi")] ⟨"m1", 0⟩

def sample_tool_call : Entry :=
  .new "tool_call" [("id", .str "c"), ("name", .str "read")] ⟨"c1", 1⟩

def sample_tool_result : Entry :=
  .new "tool_result" [("tool_call_id", .str "c"), ("content", .str "text")] ⟨"r1", 2⟩

def sample_reply : Entry :=
  .new "message" [("role", .str "assistant"), ("content", .str "done")] ⟨"m2", 3⟩

def sample_window_tape : Tape where
  entries := [sample_user_message] ++ [sample_tool_call, sample_tool_result] ++ [sample_reply]
  tape_id := "tape"

def sample_window_state : TurnState := { ctx := { tape := sample_window_tape } }

def sample_anchor (keep_recent : Int) : Entry :=
  match SummarizerPlugin.summary_anchor ⟨2, keep_recent⟩ sample_json_text
      sample_window_tape.windowed_entries ⟨"anchor", 4⟩ with
  | .ok anchor => anchor
  | .error _ => sample_reply

theorem sample_exchanged : Exchanged sample_window_tape.entries := by
  refine ((exchanged_plain ?_).append (exchanged_pair rfl rfl rfl rfl)).append (exchanged_plain ?_)
  · intro entry hmem
    rw [mem_singleton.mp hmem]
    exact ⟨rfl, rfl⟩
  · intro entry hmem
    rw [mem_singleton.mp hmem]
    exact ⟨rfl, rfl⟩

theorem sample_built_by_turns : BuiltByTurns sample_window_tape.entries :=
  ⟨[sample_window_tape.entries], (append_nil _).symm,
    fun _ hturn => mem_singleton.mp hturn ▸ sample_exchanged⟩

/-- Keeping one entry cuts the sample behind its exchange. -/
theorem sample_window_kept :
    WindowKept sample_window_tape.windowed_entries
      (stage_build_context sample_json_text
        { resolve_context_window := .ok (.window 3 (some (sample_anchor 1))) }
        sample_window_state).2.ctx.tape.windowed_entries := by
  have hresolve : SummarizerPlugin.resolve_context_window ⟨2, 1⟩ sample_json_text ⟨"anchor", 4⟩
      (some sample_window_state.ctx.tape) = .ok (some (3, sample_anchor 1)) := by decide +kernel
  have hreply : BuiltByTurns [sample_reply] := by
    refine ⟨[[sample_reply]], rfl, fun turn hturn => ?_⟩
    rw [mem_singleton.mp hturn]
    refine exchanged_plain (fun entry hmem => ?_)
    rw [mem_singleton.mp hmem]
    exact ⟨rfl, rfl⟩
  have hclean := turns_not_severed
    ([sample_user_message] ++ [sample_tool_call, sample_tool_result]) hreply
  exact (window_kept_iff sample_built_by_turns hresolve rfl).mpr ⟨by decide, by decide, hclean⟩

/-- **Counting entries off cuts an exchange in two.** Keeping two entries leaves the result of the
sample's call without the call. -/
theorem counting_splits_exchange :
    ¬ ∀ (plugin : SummarizerPlugin) (text : JsonText) (stamp : EntryStamp) (state : TurnState)
      (inputs : BuildInputs) (window_start : Int) (anchor : Entry),
      BuiltByTurns state.ctx.tape.entries →
      plugin.resolve_context_window text stamp (some state.ctx.tape)
        = .ok (some (window_start, anchor)) →
      inputs.resolve_context_window = .ok (.window window_start (some anchor)) →
      WindowKept state.ctx.tape.windowed_entries
        (stage_build_context text inputs state).2.ctx.tape.windowed_entries := by
  intro hall
  have hresolve : SummarizerPlugin.resolve_context_window ⟨2, 2⟩ sample_json_text ⟨"anchor", 4⟩
      (some sample_window_state.ctx.tape) = .ok (some (2, sample_anchor 2)) := by decide +kernel
  have hkept := hall ⟨2, 2⟩ sample_json_text ⟨"anchor", 4⟩ sample_window_state
    { resolve_context_window := .ok (.window 2 (some (sample_anchor 2))) } 2 (sample_anchor 2)
    sample_built_by_turns hresolve rfl
  have hpaired := hkept.paired (.str "c")
  rw [stage_build_context_tape rfl,
    windowed_entries_handoff (sample_anchor 2) (by decide) (by decide)] at hpaired
  obtain ⟨entry, hmem, hid⟩ := hpaired.mp ⟨sample_tool_result, mem_cons_self, rfl⟩
  have hnone : ∀ other ∈ [sample_tool_result, sample_reply, sample_anchor 2],
      other.call_id ≠ some (.str "c") := by decide +kernel
  exact hnone entry hmem hid

end ContextWindow

end CodingAgentLoop
