/-
The tool calls a provider puts together out of the parts of a response
(`providers/openai_compat.py`, `providers/anthropic.py`).

A response carries the arguments of each call as a text in pieces. Chat completions are read until
a finish reason releases the calls, messages until the block of a call ends; no exception comes
from a text that cannot be read. So the calls that are passed on are the ones the response has
exactly when all of them can be read, each keeps the id and the name it began with, and what
releases them comes: `completion_iff` and `message_iff`.
-/
import CodingAgentLoop.ProviderStreams
import CodingAgentLoop.Lib.JsonText
import CodingAgentLoop.Lib.History
import Mathlib.Data.List.Dedup
import Mathlib.Data.List.Induction

namespace CodingAgentLoop.CallFragments

open Lib Lib.Retry ProviderStreams List

/-! ## Calls and what is passed on of them -/

/-- A call of a response. `complete` says whether the model came to the end of its arguments. -/
structure WrittenCall where
  id : String
  name : String
  text : String
  complete : Bool

def is_object : Json → Bool
  | .obj _ => true
  | _ => false

def called {α : Type} : ProviderEvent α → Option (String × String × α)
  | .tool_call tool_call_id name arguments => some (tool_call_id, name, arguments)
  | .thinking _ | .text _ | .usage _ _ _ | .done => none

section Calls

variable (numbers : JsonText.Numbers)

def loads (raw : String) : Option Json := JsonText.loads numbers raw.toList

/-- The arguments a complete text stands for, where no text stands for no arguments. -/
def WrittenCall.arguments (call : WrittenCall) : Option Json :=
  if call.complete = true then
    if call.text = "" then some (.obj []) else (loads numbers call.text).filter is_object
  else none

def WrittenCall.decoded (call : WrittenCall) : Option (String × String × Json) :=
  (call.arguments numbers).map fun arguments => (call.id, call.name, arguments)

/-- The consumer has the calls that can be read, in their order, and an exception when there are
others. -/
structure Decoded (calls : List WrittenCall)
    (delivery : Delivery (ProviderEvent Json) ApiException) : Prop where
  received : delivery.received.filterMap called = calls.filterMap (WrittenCall.decoded numbers)
  reported : ∀ call ∈ calls, call.arguments numbers = none → delivery.raised ≠ none

/-- What `json.loads(raw) if raw else {}` makes of the text of a call. -/
def WrittenCall.parsed (call : WrittenCall) : String × String × Json :=
  (call.id, call.name, parse_arguments (loads numbers) (.obj []) call.text)

variable {numbers}

theorem WrittenCall.parsed_of_arguments {call : WrittenCall}
    (h : call.arguments numbers ≠ none) : call.decoded numbers = some (call.parsed numbers) := by
  obtain ⟨arguments, harguments⟩ := Option.ne_none_iff_exists'.mp h
  have hparse : parse_arguments (loads numbers) (.obj []) call.text = arguments := by
    unfold WrittenCall.arguments at harguments
    unfold parse_arguments
    by_cases hcomplete : call.complete = true
    · rw [if_pos hcomplete] at harguments
      by_cases htext : call.text = ""
      · rw [if_pos htext] at harguments ⊢
        exact Option.some.inj harguments
      · rw [if_neg htext] at harguments ⊢
        rw [(Option.filter_eq_some_iff.mp harguments).1, Option.getD_some]
    · rw [if_neg hcomplete] at harguments
      cases harguments
  rw [WrittenCall.decoded, harguments, Option.map_some, WrittenCall.parsed, hparse]

theorem decoded_iff_of_quiet {calls : List WrittenCall}
    {delivery : Delivery (ProviderEvent Json) ApiException} (hquiet : delivery.raised = none) :
    Decoded numbers calls delivery
      ↔ (∀ call ∈ calls, call.arguments numbers ≠ none)
        ∧ delivery.received.filterMap called = calls.map (WrittenCall.parsed numbers) := by
  have hmap : (∀ call ∈ calls, call.arguments numbers ≠ none) →
      calls.filterMap (WrittenCall.decoded numbers) = calls.map (WrittenCall.parsed numbers) := by
    intro hread
    rw [← filterMap_eq_map]
    apply filterMap_congr
    intro call hcall
    exact WrittenCall.parsed_of_arguments (hread call hcall)
  constructor
  · intro h
    have hread : ∀ call ∈ calls, call.arguments numbers ≠ none := by
      intro call hcall hnone
      exact h.reported call hcall hnone hquiet
    exact ⟨hread, h.received.trans (hmap hread)⟩
  · rintro ⟨hread, hcalls⟩
    refine ⟨hcalls.trans (hmap hread).symm, ?_⟩
    intro call hcall hnone
    exact absurd hnone (hread call hcall)

end Calls

/-! ## Chat completions -/

def Chunk.choice (chunk : Chunk) : Option Choice := chunk.choices.head?

def Chunk.finish_reason (chunk : Chunk) : Option String :=
  (Chunk.choice chunk).bind fun choice => choice.finish_reason

def Chunk.tool_calls (chunk : Chunk) : List ToolCallDelta :=
  ((Chunk.choice chunk).map fun choice => choice.tool_calls).getD []

/-- A response of the API: after the finish reason only token counts follow. -/
structure Completion where
  chunks : List Chunk
  complete : Int → Bool
  finished_last : chunks.Pairwise fun chunk later =>
    Chunk.finish_reason chunk ≠ none → later.choices = []

def first_text (texts : List (Option String)) : String :=
  ((texts.map fun text => text.getD "").find? fun text => text ≠ "").getD ""

def ToolCallDelta.name (tc : ToolCallDelta) : Option String := tc.function.bind fun f => f.name

def ToolCallDelta.arguments (tc : ToolCallDelta) : String :=
  (tc.function.bind fun f => f.arguments).getD ""

def of_index (index : Int) (fragments : List ToolCallDelta) : List ToolCallDelta :=
  fragments.filter fun tc => tc.index = index

namespace Completion

variable (response : Completion)

def fragments : List ToolCallDelta := response.chunks.flatMap Chunk.tool_calls

def own (index : Int) : List ToolCallDelta := of_index index response.fragments

def finish_reason : Option String := response.chunks.findSome? Chunk.finish_reason

def indices : List Int :=
  (response.fragments.map fun tc => tc.index).dedup.insertionSort fun a b => a ≤ b

def call (index : Int) : WrittenCall where
  id := first_text ((response.own index).map fun tc => tc.id)
  name := first_text ((response.own index).map ToolCallDelta.name)
  text := String.join ((response.own index).map ToolCallDelta.arguments)
  complete := response.complete index

def calls : List WrittenCall := response.indices.map response.call

/-- The first fragment of a call has its id, if there is one, and none has another name. -/
def Steady (own : List ToolCallDelta) : Prop :=
  ((own.head?.bind fun tc => tc.id).getD "") = first_text (own.map fun tc => tc.id)
    ∧ first_text (own.map ToolCallDelta.name).reverse = first_text (own.map ToolCallDelta.name)

end Completion

def Releases (reason : Option String) : Prop := reason = some "tool_calls" ∨ reason = some "stop"

instance (reason : Option String) : Decidable (Releases reason) :=
  inferInstanceAs (Decidable (_ ∨ _))

/-- Every call can be read and keeps the id and the name it began with, and the response finishes
in one of the two ways, if it has calls. -/
structure Completion.Sound (numbers : JsonText.Numbers) (response : Completion) : Prop where
  read : ∀ call ∈ response.calls, call.arguments numbers ≠ none
  steady : ∀ index ∈ response.indices, Completion.Steady (response.own index)
  released : response.calls ≠ [] → Releases response.finish_reason

/-! ### What is gathered of one call -/

/-- The rest of the body of `for tc in delta.tool_calls`, once there is an entry. -/
def extended (call : PartialCall) (tc : ToolCallDelta) : PartialCall :=
  match tc.function with
  | none => call
  | some function => call.extend function

def gathered (own : List ToolCallDelta) : PartialCall :=
  own.foldl extended { id := (own.head?.bind fun tc => tc.id).getD "" }

theorem gathered_snoc {own : List ToolCallDelta} (h : own ≠ []) (tc : ToolCallDelta) :
    gathered (own ++ [tc]) = extended (gathered own) tc := by
  obtain ⟨first, rest, rfl⟩ := exists_cons_of_ne_nil h
  unfold gathered
  rw [foldl_append]
  rfl

theorem gathered_one (tc : ToolCallDelta) :
    gathered [tc] = extended { id := tc.id.getD "" } tc := rfl

theorem extended_id (call : PartialCall) (tc : ToolCallDelta) :
    (extended call tc).id = call.id := by
  unfold extended
  cases tc.function <;> rfl

theorem extended_arguments (call : PartialCall) (tc : ToolCallDelta) :
    (extended call tc).arguments = call.arguments ++ ToolCallDelta.arguments tc := by
  unfold extended ToolCallDelta.arguments
  cases tc.function with
  | none => simp
  | some function => rfl

theorem partial_call_ext {call other : PartialCall} (hid : call.id = other.id)
    (hname : call.name = other.name) (harguments : call.arguments = other.arguments) :
    call = other := by
  cases call
  cases other
  cases hid
  cases hname
  cases harguments
  rfl

theorem first_text_cons (text : Option String) (texts : List (Option String)) :
    first_text (text :: texts) = if text.getD "" = "" then first_text texts else text.getD "" := by
  unfold first_text
  rw [map_cons, List.find?_cons]
  by_cases h : text.getD "" = ""
  · simp [h]
  · simp [h]

theorem extended_name (call : PartialCall) (tc : ToolCallDelta) :
    (extended call tc).name
      = if (ToolCallDelta.name tc).getD "" = "" then call.name
        else (ToolCallDelta.name tc).getD "" := by
  unfold extended ToolCallDelta.name
  cases tc.function with
  | none => simp
  | some function => rfl

theorem gathered_eq (own : List ToolCallDelta) :
    gathered own
      = { id := (own.head?.bind fun tc => tc.id).getD ""
          name := first_text (own.map ToolCallDelta.name).reverse
          arguments := String.join (own.map ToolCallDelta.arguments) } := by
  have hfold : ∀ id : String, own.foldl extended { id }
      = { id
          name := first_text (own.map ToolCallDelta.name).reverse
          arguments := String.join (own.map ToolCallDelta.arguments) } := by
    intro id
    induction own using List.reverseRecOn with
    | nil => rfl
    | append_singleton own tc ih =>
      have hid := extended_id (own.foldl extended { id }) tc
      have hname := extended_name (own.foldl extended { id }) tc
      have harguments := extended_arguments (own.foldl extended { id }) tc
      rw [ih] at hid hname harguments
      rw [foldl_append, foldl_cons, foldl_nil, ih]
      apply partial_call_ext
      · exact hid
      · rw [hname, map_append, map_singleton, reverse_append,
          reverse_singleton, singleton_append, first_text_cons]
      · rw [harguments, map_append, map_singleton]
        simp [String.join_append]
  exact hfold _

/-! ### The entries of all calls -/

theorem of_index_snoc (index : Int) (fragments : List ToolCallDelta) (tc : ToolCallDelta) :
    of_index index (fragments ++ [tc])
      = if tc.index = index then of_index index fragments ++ [tc] else of_index index fragments := by
  unfold of_index
  rw [filter_append]
  by_cases h : tc.index = index
  · simp [h]
  · simp [h]

/-- There is one entry for each index, made of its fragments. -/
structure Entries (fragments : List ToolCallDelta) (calls : List (Int × PartialCall)) : Prop where
  once : (calls.map fun call => call.1).Nodup
  made : ∀ index call, (index, call) ∈ calls
    ↔ of_index index fragments ≠ [] ∧ call = gathered (of_index index fragments)

theorem Entries.mem_keys {fragments : List ToolCallDelta} {calls : List (Int × PartialCall)}
    (h : Entries fragments calls) (index : Int) :
    index ∈ (calls.map fun call => call.1) ↔ of_index index fragments ≠ [] := by
  constructor
  · intro hmem
    obtain ⟨⟨found, call⟩, hcall, rfl⟩ := mem_map.mp hmem
    exact ((h.made found call).mp hcall).1
  · intro hown
    exact mem_map.mpr ⟨_, (h.made index _).mpr ⟨hown, rfl⟩, rfl⟩

theorem accumulate_eq (calls : List (Int × PartialCall)) (tc : ToolCallDelta) :
    accumulate calls tc
      = (with_entry calls tc).map fun call =>
          if call.1 = tc.index then (call.1, extended call.2 tc) else call := by
  unfold accumulate extended
  cases tc.function with
  | some function => rfl
  | none =>
    symm
    apply map_id''
    intro call
    split_ifs <;> rfl

theorem keys_accumulate (calls : List (Int × PartialCall)) (tc : ToolCallDelta) :
    (accumulate calls tc).map (fun call => call.1)
      = (with_entry calls tc).map fun call => call.1 := by
  rw [accumulate_eq, map_map]
  apply map_congr_left
  intro call _
  rw [Function.comp_apply]
  split_ifs <;> rfl

theorem mem_accumulate_same {calls : List (Int × PartialCall)} {tc : ToolCallDelta}
    {call : PartialCall} :
    (tc.index, call) ∈ accumulate calls tc
      ↔ ∃ old, (tc.index, old) ∈ with_entry calls tc ∧ call = extended old tc := by
  rw [accumulate_eq, mem_map]
  constructor
  · rintro ⟨⟨index, old⟩, hmem, heq⟩
    by_cases h : index = tc.index
    · rw [if_pos h] at heq
      cases h
      exact ⟨old, hmem, (Prod.mk.inj heq).2.symm⟩
    · rw [if_neg h] at heq
      exact absurd (Prod.mk.inj heq).1 h
  · rintro ⟨old, hmem, rfl⟩
    exact ⟨_, hmem, if_pos rfl⟩

variable {index : Int}

theorem mem_accumulate_other {calls : List (Int × PartialCall)} {tc : ToolCallDelta}
    {call : PartialCall} (hne : index ≠ tc.index) :
    (index, call) ∈ accumulate calls tc ↔ (index, call) ∈ with_entry calls tc := by
  rw [accumulate_eq, mem_map]
  constructor
  · rintro ⟨⟨other, old⟩, hmem, heq⟩
    by_cases h : other = tc.index
    · rw [if_pos h] at heq
      exact absurd ((Prod.mk.inj heq).1.symm.trans h) hne
    · rw [if_neg h] at heq
      rw [← heq]
      exact hmem
  · intro hmem
    exact ⟨_, hmem, if_neg hne⟩

theorem any_index_iff (calls : List (Int × PartialCall)) (index : Int) :
    (calls.any fun call => call.1 = index) = true ↔ index ∈ calls.map fun call => call.1 := by
  rw [any_eq_true, mem_map]
  simp only [decide_eq_true_eq]

theorem Entries.accumulate {fragments : List ToolCallDelta} {calls : List (Int × PartialCall)}
    (h : Entries fragments calls) (tc : ToolCallDelta) :
    Entries (fragments ++ [tc]) (accumulate calls tc) := by
  by_cases hknown : of_index tc.index fragments = []
  · -- the first fragment of its call
    have hfresh : tc.index ∉ calls.map fun call => call.1 := by
      rw [h.mem_keys]
      exact not_not_intro hknown
    have hentry : with_entry calls tc = calls ++ [(tc.index, { id := tc.id.getD "" })] := by
      unfold with_entry
      rw [if_neg (by rwa [any_index_iff])]
    refine ⟨?_, ?_⟩
    · rw [keys_accumulate, hentry, map_append, map_singleton]
      exact nodup_append.mpr ⟨h.once, nodup_singleton _, by
        intro index hindex other hother heq
        have hsame : index = tc.index := by
          rw [heq, mem_singleton.mp hother]
        exact hfresh (hsame ▸ hindex)⟩
    · intro index call
      by_cases hindex : index = tc.index
      · cases hindex
        rw [mem_accumulate_same, of_index_snoc, if_pos rfl, hknown, nil_append, gathered_one,
          hentry]
        constructor
        · rintro ⟨old, hold, rfl⟩
          rcases mem_snoc hold with hold | hold
          · exact absurd (mem_map.mpr ⟨_, hold, rfl⟩) hfresh
          · cases hold
            exact ⟨cons_ne_nil _ _, rfl⟩
        · rintro ⟨-, rfl⟩
          exact ⟨_, mem_append_right _ (mem_singleton.mpr rfl), rfl⟩
      · rw [mem_accumulate_other hindex, of_index_snoc, if_neg (Ne.symm hindex), hentry,
          ← h.made index call, mem_append]
        constructor
        · rintro (hmem | hmem)
          · exact hmem
          · exact absurd (Prod.mk.inj (mem_singleton.mp hmem)).1 hindex
        · intro hmem
          exact Or.inl hmem
  · -- a further fragment
    have hentry : with_entry calls tc = calls := by
      unfold with_entry
      rw [if_pos (by rwa [any_index_iff, h.mem_keys])]
    refine ⟨?_, ?_⟩
    · rw [keys_accumulate, hentry]
      exact h.once
    · intro index call
      by_cases hindex : index = tc.index
      · cases hindex
        rw [mem_accumulate_same, of_index_snoc, if_pos rfl, gathered_snoc hknown, hentry]
        constructor
        · rintro ⟨old, hold, rfl⟩
          rw [((h.made _ _).mp hold).2]
          exact ⟨by simp, rfl⟩
        · rintro ⟨-, rfl⟩
          exact ⟨_, (h.made _ _).mpr ⟨hknown, rfl⟩, rfl⟩
      · rw [mem_accumulate_other hindex, of_index_snoc, if_neg (Ne.symm hindex), hentry,
          ← h.made index call]

theorem entries_of_fragments (fragments : List ToolCallDelta) :
    Entries fragments (fragments.foldl accumulate []) := by
  induction fragments using List.reverseRecOn with
  | nil =>
    refine ⟨nodup_nil, ?_⟩
    intro index call
    simp [of_index]
  | append_singleton fragments tc ih =>
    rw [foldl_append]
    exact ih.accumulate tc

theorem mem_indices {fragments : List ToolCallDelta} :
    index ∈ (fragments.map fun tc => tc.index) ↔ of_index index fragments ≠ [] := by
  unfold of_index
  rw [mem_map, Ne, filter_eq_nil_iff]
  simp only [decide_eq_true_eq, not_forall, not_not, exists_prop]

theorem sorted_entries (fragments : List ToolCallDelta) :
    ((fragments.foldl accumulate []).insertionSort fun a b => a.1 ≤ b.1)
      = ((fragments.map fun tc => tc.index).dedup.insertionSort fun a b => a ≤ b).map
          fun index => (index, gathered (of_index index fragments)) := by
  have hentries := entries_of_fragments fragments
  have htotal : Std.Total fun a b : Int × PartialCall => a.1 ≤ b.1 :=
    ⟨fun a b => Int.le_total a.1 b.1⟩
  have htrans : IsTrans (Int × PartialCall) fun a b => a.1 ≤ b.1 :=
    ⟨fun a b c hab hbc => Int.le_trans hab hbc⟩
  have hsort : ((fragments.map fun tc => tc.index).dedup.insertionSort fun a b => a ≤ b).Perm
      (fragments.map fun tc => tc.index).dedup := perm_insertionSort _ _
  refine @List.Perm.eq_of_pairwise _ (fun a b => a.1 ≤ b.1) _ _ ?_ ?_ ?_ ?_
  · rintro ⟨first, call⟩ other hcall hother hle hge
    obtain ⟨index, -, rfl⟩ := mem_map.mp hother
    have hindex : first = index := Int.le_antisymm hle hge
    cases hindex
    rw [((hentries.made _ _).mp ((mem_insertionSort _).mp hcall)).2]
  · exact pairwise_insertionSort _ _
  · rw [pairwise_map]
    exact pairwise_insertionSort _ _
  · refine (perm_insertionSort _ _).trans ?_
    rw [perm_ext_iff_of_nodup hentries.once.of_map]
    · rintro ⟨index, call⟩
      rw [hentries.made, mem_map]
      constructor
      · rintro ⟨hown, rfl⟩
        refine ⟨index, ?_, rfl⟩
        rw [hsort.mem_iff, mem_dedup]
        exact mem_indices.mpr hown
      · rintro ⟨found, hfound, heq⟩
        cases heq
        rw [hsort.mem_iff, mem_dedup] at hfound
        exact ⟨mem_indices.mp hfound, rfl⟩
    · refine ((hsort.nodup_iff).mpr (nodup_dedup _)).map ?_
      intro first second heq
      exact (Prod.mk.inj heq).1

/-! ### The loop over the chunks -/

variable {numbers : JsonText.Numbers}

theorem called_spoken {event : String → ProviderEvent Json}
    (h : ∀ text, called (event text) = none) (text : Option String) :
    (spoken event text).filterMap called = [] := by
  unfold spoken
  split_ifs
  · rfl
  · rw [filterMap_cons, h]
    rfl

theorem called_events (calls : List (Int × PartialCall)) :
    (call_events (loads numbers) (.obj []) calls).filterMap called
      = (calls.insertionSort fun a b => a.1 ≤ b.1).map fun call =>
          (call.2.id, call.2.name,
            parse_arguments (loads numbers) (.obj []) call.2.arguments) := by
  unfold call_events
  rw [filterMap_map, ← filterMap_eq_map]
  rfl

theorem read_chunk_of_empty {reader : CompletionReader} {chunk : Chunk} (h : chunk.choices = []) :
    read_chunk (loads numbers) (.obj []) reader chunk = ([], reader.count chunk.usage) := by
  unfold read_chunk
  rw [h]

theorem count_calls (reader : CompletionReader) (usage : Option ChunkUsage) :
    (reader.count usage).accumulating_calls = reader.accumulating_calls := by
  cases usage <;> rfl

theorem read_trailing {chunks : List Chunk} (h : ∀ chunk ∈ chunks, chunk.choices = []) :
    ∀ reader : CompletionReader,
      (read_parts (read_chunk (loads numbers) (.obj [])) reader chunks).1 = [] := by
  induction chunks with
  | nil =>
    intro reader
    rfl
  | cons chunk rest ih =>
    intro reader
    rw [read_parts, read_chunk_of_empty (h chunk mem_cons_self)]
    exact ih (fun later hlater => h later (mem_cons_of_mem _ hlater)) _

theorem read_chunk_of_choice {reader : CompletionReader} {chunk : Chunk} {choice : Choice}
    {others : List Choice} (h : chunk.choices = choice :: others) :
    (read_chunk (loads numbers) (.obj []) reader chunk).1.filterMap called
        = (if Releases choice.finish_reason then
            (call_events (loads numbers) (.obj [])
              (choice.tool_calls.foldl accumulate reader.accumulating_calls)).filterMap called
          else [])
      ∧ (¬ Releases choice.finish_reason →
          (read_chunk (loads numbers) (.obj []) reader chunk).2.accumulating_calls
            = choice.tool_calls.foldl accumulate reader.accumulating_calls) := by
  have hthinking := @called_spoken .thinking (fun _ => rfl) choice.reasoning_content
  have htext := @called_spoken .text (fun _ => rfl) choice.content
  have hfinishes : finishes choice = true ↔ Releases choice.finish_reason := by
    unfold finishes Releases
    rw [Bool.or_eq_true, decide_eq_true_eq, decide_eq_true_eq]
  unfold read_chunk
  rw [h]
  simp only [count_calls, hfinishes]
  by_cases hreleases : Releases choice.finish_reason
  · refine ⟨?_, fun hnot => absurd hreleases hnot⟩
    by_cases hcalls : choice.tool_calls.foldl accumulate reader.accumulating_calls = []
    · simp only [hcalls, ne_eq, not_true_eq_false, and_false, if_false, filterMap_append,
        hthinking, htext, if_pos hreleases]
      rfl
    · simp only [hcalls, ne_eq, not_false_eq_true, and_true, if_pos hreleases,
        filterMap_append, hthinking, htext, nil_append]
  · simp only [hreleases, false_and, if_false, filterMap_append, hthinking, htext,
      append_nil, not_false_eq_true, forall_const, and_self]

/-- The calls are passed on once, with all the fragments there are, and only by the two finish
reasons. -/
theorem called_read_chunks : ∀ {chunks : List Chunk} (reader : CompletionReader),
    (chunks.Pairwise fun chunk later => Chunk.finish_reason chunk ≠ none → later.choices = []) →
    (read_parts (read_chunk (loads numbers) (.obj [])) reader chunks).1.filterMap called
      = if Releases (chunks.findSome? Chunk.finish_reason) then
          (call_events (loads numbers) (.obj [])
            ((chunks.flatMap Chunk.tool_calls).foldl accumulate
              reader.accumulating_calls)).filterMap called
        else [] := by
  intro chunks
  induction chunks with
  | nil =>
    intro reader _
    rw [if_neg (by simp [Releases])]
    rfl
  | cons chunk rest ih =>
    intro reader hpairs
    obtain ⟨hlast, hrest⟩ := pairwise_cons.mp hpairs
    rw [read_parts, filterMap_append, List.findSome?_cons, flatMap_cons]
    cases hchoices : chunk.choices with
    | nil =>
      have hreason : Chunk.finish_reason chunk = none := by
        simp [Chunk.finish_reason, Chunk.choice, hchoices]
      have htools : Chunk.tool_calls chunk = [] := by
        simp [Chunk.tool_calls, Chunk.choice, hchoices]
      rw [read_chunk_of_empty hchoices, ih _ hrest, hreason, htools, count_calls]
      rfl
    | cons choice others =>
      have hreason : Chunk.finish_reason chunk = choice.finish_reason := by
        simp [Chunk.finish_reason, Chunk.choice, hchoices]
      have htools : Chunk.tool_calls chunk = choice.tool_calls := by
        simp [Chunk.tool_calls, Chunk.choice, hchoices]
      obtain ⟨hcalled, hkept⟩ := @read_chunk_of_choice numbers reader _ _ _ hchoices
      rw [hcalled, hreason, htools]
      cases hfinish : choice.finish_reason with
      | none =>
        have hnot : ¬ Releases none := by simp [Releases]
        rw [hfinish] at hkept
        rw [if_neg hnot, ih _ hrest, hkept hnot, foldl_append]
        rfl
      | some reason =>
        have hempty : ∀ later ∈ rest, later.choices = [] := by
          intro later hlater
          exact hlast later hlater (by rw [hreason, hfinish]; exact Option.some_ne_none _)
        have hnone : rest.flatMap Chunk.tool_calls = [] := by
          rw [flatMap_eq_nil_iff]
          intro later hlater
          simp [Chunk.tool_calls, Chunk.choice, hempty later hlater]
        rw [read_trailing hempty, hnone, append_nil]
        exact append_nil _

theorem called_completion (response : Completion) :
    (read_parts (read_chunk (loads numbers) (.obj [])) {} response.chunks).1.filterMap called
      = if Releases response.finish_reason then
          response.indices.map fun index =>
            ((gathered (response.own index)).id, (gathered (response.own index)).name,
              parse_arguments (loads numbers) (.obj []) (gathered (response.own index)).arguments)
        else [] := by
  rw [called_read_chunks {} response.finished_last, called_events]
  show (if Releases response.finish_reason then
    List.map _ ((response.fragments.foldl accumulate []).insertionSort fun a b => a.1 ≤ b.1)
      else []) = _
  rw [sorted_entries, map_map]
  rfl

theorem parsed_eq_iff (response : Completion) (index : Int) :
    ((gathered (response.own index)).id, (gathered (response.own index)).name,
        parse_arguments (loads numbers) (.obj []) (gathered (response.own index)).arguments)
      = (response.call index).parsed numbers
      ↔ Completion.Steady (response.own index) := by
  rw [gathered_eq]
  unfold WrittenCall.parsed Completion.call Completion.Steady
  simp only [Prod.mk.injEq, and_true]

theorem retry_loop_of_answer {ε : Type} (max_retries : Nat)
    {attempts : Nat → Attempt ε ApiException} (h : (attempts 0).failure = none) :
    retry_loop RETRYABLE_STATUS_CODES max_retries attempts
      = { received := (attempts 0).items, made := 1 } := by
  unfold retry_loop
  rw [if_neg (by omega), retried_of_ended h]

theorem completion_iff (model : String) (max_retries : Nat) (response : Completion) :
    Decoded numbers response.calls
        (openai_stream (loads numbers) (.obj []) model max_retries fun _ => ⟨response.chunks, none⟩)
      ↔ response.Sound numbers := by
  have hstream : openai_stream (loads numbers) (.obj []) model max_retries
      (fun _ => ⟨response.chunks, none⟩) = { received := _, made := 1 } :=
    retry_loop_of_answer max_retries rfl
  rw [decoded_iff_of_quiet (by rw [hstream])]
  have hreceived : (openai_stream (loads numbers) (.obj []) model max_retries
      (fun _ => ⟨response.chunks, none⟩)).received.filterMap called
        = (read_parts (read_chunk (loads numbers) (.obj [])) {} response.chunks).1.filterMap
            called := by
    rw [hstream]
    show List.filterMap called (_ ++ [_, _]) = _
    rw [filterMap_append]
    exact append_nil _
  rw [hreceived, called_completion]
  have hcalls : response.calls.map (WrittenCall.parsed numbers)
      = response.indices.map fun index => (response.call index).parsed numbers := by
    unfold Completion.calls
    rw [map_map]
    rfl
  rw [hcalls]
  by_cases hreleases : Releases response.finish_reason
  · rw [if_pos hreleases, map_inj_left]
    constructor
    · rintro ⟨hread, hsame⟩
      refine ⟨hread, ?_, fun _ => hreleases⟩
      intro index hindex
      exact (parsed_eq_iff response index).mp (hsame index hindex)
    · intro hsound
      refine ⟨hsound.read, ?_⟩
      intro index hindex
      exact (parsed_eq_iff response index).mpr (hsound.steady index hindex)
  · rw [if_neg hreleases]
    constructor
    · rintro ⟨hread, hsame⟩
      have hnone : response.indices = [] := map_eq_nil_iff.mp hsame.symm
      refine ⟨hread, ?_, ?_⟩
      · intro index hindex
        rw [hnone] at hindex
        cases hindex
      · intro hcalls
        exact absurd (by rw [Completion.calls, hnone]; rfl) hcalls
    · intro hsound
      refine ⟨hsound.read, ?_⟩
      have hnone : response.calls = [] := by
        by_contra hcalls
        exact hreleases (hsound.released hcalls)
      rw [map_eq_nil_iff.mp hnone]
      rfl

/-! ## Messages -/

inductive BlockPart where
  | start (id name : String)
  | json (text : String)
  | stop

def block_part (index : Int) : MessageEvent → Option BlockPart
  | .content_block_start found (.tool_use id name) =>
    if found = index then some (.start id name) else none
  | .content_block_delta found (.input_json_delta partial_json) =>
    if found = index then some (.json partial_json) else none
  | .content_block_stop found => if found = index then some .stop else none
  | _ => none

/-- A block of a call: its text in pieces, whether the model came to the end of it, and whether
the API says that the block ends. -/
structure Block where
  id : String
  name : String
  pieces : List String
  complete : Bool
  stops : Bool

def Block.parts (block : Block) : List BlockPart :=
  .start block.id block.name :: block.pieces.map .json ++ if block.stops then [.stop] else []

def Block.call (block : Block) : WrittenCall where
  id := block.id
  name := block.name
  text := String.join block.pieces
  complete := block.complete

def BlockPart.starts : BlockPart → Prop
  | .start _ _ => True
  | .json _ | .stop => False

/-- A message of the API with its blocks of calls, in the order of their indices. -/
structure Message where
  events : List MessageEvent
  blocks : List (Int × Block)
  ordered : blocks.Pairwise fun first second => first.1 < second.1
  ids_differ : ∀ first ∈ blocks, ∀ second ∈ blocks, first.2.id = second.2.id → first = second
  written : ∀ index block, (index, block) ∈ blocks →
    events.filterMap (block_part index) = block.parts
  no_others : ∀ index, index ∉ blocks.map (fun block => block.1) →
    ∀ part ∈ events.filterMap (block_part index), ¬ part.starts

def stopped : MessageEvent → Option Int
  | .content_block_stop index => some index
  | _ => none

namespace Message

variable (message : Message)

def calls : List WrittenCall := message.blocks.map fun block => block.2.call

def block (index : Int) : Option (Int × Block) :=
  message.blocks.find? fun block => block.1 = index

def ended : List (Int × Block) := (message.events.filterMap stopped).filterMap message.block

/-- Every call can be read, and the blocks end, in the order of their indices. -/
structure Sound (numbers : JsonText.Numbers) (message : Message) : Prop where
  read : ∀ call ∈ message.calls, call.arguments numbers ≠ none
  ends : message.ended = message.blocks

end Message

/-! ### The block at an index -/

/-- `tool_blocks.get(index)` after these parts of the block. -/
def opened : Option PartialCall → List BlockPart → Option PartialCall
  | current, [] => current
  | _, .start id name :: parts => opened (some { id, name }) parts
  | current, .json text :: parts =>
    opened (current.map fun call => { call with arguments := call.arguments ++ text }) parts
  | _, .stop :: parts => opened none parts

theorem opened_append (parts later : List BlockPart) : ∀ current : Option PartialCall,
    opened current (parts ++ later) = opened (opened current parts) later := by
  induction parts with
  | nil =>
    intro current
    rfl
  | cons part parts ih =>
    intro current
    cases part <;> exact ih _

theorem opened_none {parts : List BlockPart} (h : ∀ part ∈ parts, ¬ part.starts) :
    opened none parts = none := by
  induction parts with
  | nil => rfl
  | cons part parts ih =>
    have hrest : ∀ part ∈ parts, ¬ part.starts := by
      intro later hlater
      exact h later (mem_cons_of_mem _ hlater)
    cases part with
    | start id name => exact absurd trivial (h _ mem_cons_self)
    | json text => exact ih hrest
    | stop => exact ih hrest

theorem opened_pieces (pieces : List String) : ∀ call : PartialCall,
    opened (some call) (pieces.map .json)
      = some { call with arguments := call.arguments ++ String.join pieces } := by
  induction pieces with
  | nil =>
    intro call
    simp [opened]
  | cons piece pieces ih =>
    intro call
    rw [map_cons, opened, Option.map_some, ih]
    simp [String.join_cons, String.append_assoc]

theorem parts_before_stop {block : Block} {before after : List BlockPart}
    (h : block.parts = before ++ .stop :: after) :
    opened none before
      = some { id := block.id, name := block.name, arguments := String.join block.pieces } := by
  have hbefore : before = .start block.id block.name :: block.pieces.map .json := by
    unfold Block.parts at h
    rcases append_eq_append_iff.mp h with ⟨rest, hrest, htail⟩ | ⟨rest, hrest, htail⟩
    · cases rest with
      | nil => rw [hrest, append_nil]
      | cons part rest =>
        exfalso
        split_ifs at htail
        · simp at htail
        · simp at htail
    · cases rest with
      | nil => rw [hrest, append_nil]
      | cons part rest =>
        exfalso
        have hstop : BlockPart.stop ∈
            BlockPart.start block.id block.name :: block.pieces.map .json := by
          rw [hrest, (List.cons.inj htail).1]
          simp
        simp at hstop
  rw [hbefore, opened, opened_pieces]
  simp

/-! ### The loop over the events -/

theorem read_event_blocks (reader : MessageReader) (event : MessageEvent) (index : Int) :
    (read_event (loads numbers) (.obj []) reader event).2.tool_blocks index
      = opened (reader.tool_blocks index) (block_part index event).toList := by
  have hupdate : ∀ (found : Int) (block : Option PartialCall),
      Function.update reader.tool_blocks found block index
        = if found = index then block else reader.tool_blocks index := by
    intro found block
    rw [Function.update_apply]
    by_cases h : found = index
    · rw [if_pos h, if_pos h.symm]
    · rw [if_neg h, if_neg (Ne.symm h)]
  cases event with
  | message_start tokens => cases tokens <;> rfl
  | message_delta tokens => cases tokens <;> rfl
  | other => rfl
  | content_block_start found block =>
    cases block with
    | other => rfl
    | tool_use id name =>
      refine (hupdate found _).trans ?_
      rw [block_part]
      split_ifs <;> rfl
  | content_block_delta found delta =>
    cases delta with
    | text_delta text => rfl
    | other => rfl
    | input_json_delta partial_json =>
      rw [read_event, block_part]
      by_cases h : found = index
      · subst h
        rw [if_pos rfl]
        cases hblock : reader.tool_blocks found with
        | none => exact hblock
        | some block => exact (hupdate found _).trans (if_pos rfl)
      · rw [if_neg h]
        cases hblock : reader.tool_blocks found with
        | none => rfl
        | some block => exact (hupdate found _).trans (if_neg h)
  | content_block_stop found =>
    rw [read_event, block_part]
    by_cases h : found = index
    · subst h
      rw [if_pos rfl]
      cases hblock : reader.tool_blocks found with
      | none => exact hblock
      | some block => exact (hupdate found _).trans (if_pos rfl)
    · rw [if_neg h]
      cases hblock : reader.tool_blocks found with
      | none => rfl
      | some block => exact (hupdate found _).trans (if_neg h)

theorem called_read_event (reader : MessageReader) (event : MessageEvent) :
    (read_event (loads numbers) (.obj []) reader event).1.filterMap called
      = ((stopped event).bind reader.tool_blocks).toList.map fun block =>
          (block.id, block.name, parse_arguments (loads numbers) (.obj []) block.arguments) := by
  cases event with
  | message_start tokens => cases tokens <;> rfl
  | message_delta tokens => cases tokens <;> rfl
  | other => rfl
  | content_block_start found block => cases block <;> rfl
  | content_block_delta found delta =>
    cases delta with
    | text_delta text => rfl
    | other => rfl
    | input_json_delta partial_json =>
      rw [read_event]
      cases reader.tool_blocks found <;> rfl
  | content_block_stop found =>
    rw [read_event, stopped, Option.bind_some]
    cases reader.tool_blocks found <;> rfl

theorem stopped_eq_some {event : MessageEvent} (h : stopped event = some index) :
    event = .content_block_stop index := by
  cases event with
  | content_block_stop found => rw [Option.some.inj h]
  | message_start _ | message_delta _ | other | content_block_start _ _
  | content_block_delta _ _ => cases h

theorem Message.block_eq_some {message : Message} {block : Int × Block}
    (h : message.block index = some block) : block.1 = index ∧ block ∈ message.blocks := by
  refine ⟨?_, List.mem_of_find?_eq_some h⟩
  simpa using List.find?_some h

theorem Message.opened_at_stop (message : Message) {before after : List MessageEvent}
    {index : Int} (hevents : message.events = before ++ .content_block_stop index :: after) :
    (opened none (before.filterMap (block_part index))).map
        (fun block => (block.id, block.name,
          parse_arguments (loads numbers) (.obj []) block.arguments))
      = (message.block index).map fun block => block.2.call.parsed numbers := by
  have hparts : message.events.filterMap (block_part index)
      = before.filterMap (block_part index)
        ++ .stop :: after.filterMap (block_part index) := by
    rw [hevents, filterMap_append, filterMap_cons, block_part, if_pos rfl]
  cases hblock : message.block index with
  | none =>
    have hother : index ∉ message.blocks.map fun block => block.1 := by
      intro hmem
      obtain ⟨block, hmem, hindex⟩ := mem_map.mp hmem
      have := List.find?_eq_none.mp hblock block hmem
      exact this (by simpa using hindex)
    rw [opened_none]
    · rfl
    · intro part hpart
      apply message.no_others index hother part
      rw [hparts]
      exact mem_append_left _ hpart
  | some found =>
    obtain ⟨hindex, hmem⟩ := Message.block_eq_some hblock
    obtain ⟨at_index, block⟩ := found
    cases hindex
    have hwritten := message.written _ _ hmem
    rw [hparts] at hwritten
    rw [parts_before_stop hwritten.symm]
    rfl

theorem Message.called_read (message : Message) : ∀ (rest before : List MessageEvent)
    (reader : MessageReader), message.events = before ++ rest →
    (∀ index, reader.tool_blocks index = opened none (before.filterMap (block_part index))) →
    (read_parts (read_event (loads numbers) (.obj [])) reader rest).1.filterMap called
      = ((rest.filterMap stopped).filterMap message.block).map fun block =>
          block.2.call.parsed numbers := by
  intro rest
  induction rest with
  | nil =>
    intro before reader _ _
    rfl
  | cons event rest ih =>
    intro before reader hevents hopened
    have hnext : ∀ index, (read_event (loads numbers) (.obj []) reader event).2.tool_blocks index
        = opened none ((before ++ [event]).filterMap (block_part index)) := by
      intro index
      rw [read_event_blocks, hopened, ← opened_append, filterMap_append]
      congr 2
    rw [read_parts, filterMap_append, called_read_event,
      ih (before ++ [event]) _ (by rw [hevents, append_assoc]; rfl) hnext,
      filterMap_cons]
    cases hstop : stopped event with
    | none => rfl
    | some index =>
      have hevent := stopped_eq_some hstop
      subst hevent
      have hcalled := @opened_at_stop numbers message _ _ _ hevents
      rw [filterMap_cons, Option.bind_some, hopened]
      cases hblock : message.block index with
      | none =>
        rw [hblock, Option.map_none, Option.map_eq_none_iff] at hcalled
        rw [hcalled]
        rfl
      | some block =>
        rw [hblock, Option.map_some] at hcalled
        obtain ⟨call, hcall, hparsed⟩ := Option.map_eq_some_iff.mp hcalled
        rw [hcall, map_cons, ← hparsed]
        rfl

theorem eq_of_map_eq {α β : Type} {f : α → β} {first second : List α}
    (hinj : ∀ a ∈ first, ∀ b ∈ second, f a = f b → a = b) (h : first.map f = second.map f) :
    first = second := by
  induction first generalizing second with
  | nil => exact (map_eq_nil_iff.mp h.symm).symm
  | cons a first ih =>
    cases second with
    | nil => cases h
    | cons b second =>
      obtain ⟨hhead, htail⟩ := List.cons.inj h
      rw [hinj a mem_cons_self b mem_cons_self hhead, ih _ htail]
      intro c hc d hd
      exact hinj c (mem_cons_of_mem _ hc) d (mem_cons_of_mem _ hd)

theorem message_iff (model : String) (max_retries : Nat) (message : Message) :
    Decoded numbers message.calls
        (anthropic_stream (loads numbers) (.obj []) model max_retries
          fun _ => ⟨message.events, none⟩)
      ↔ message.Sound numbers := by
  have hstream : anthropic_stream (loads numbers) (.obj []) model max_retries
      (fun _ => ⟨message.events, none⟩) = { received := _, made := 1 } :=
    retry_loop_of_answer max_retries rfl
  rw [decoded_iff_of_quiet (by rw [hstream])]
  have hreceived : (anthropic_stream (loads numbers) (.obj []) model max_retries
      (fun _ => ⟨message.events, none⟩)).received.filterMap called
        = message.ended.map fun block => block.2.call.parsed numbers := by
    rw [hstream]
    show List.filterMap called (_ ++ [_, _]) = _
    rw [filterMap_append, message.called_read message.events [] {} rfl (fun _ => rfl)]
    exact append_nil _
  have hcalls : message.calls.map (WrittenCall.parsed numbers)
      = message.blocks.map fun block => block.2.call.parsed numbers := by
    unfold Message.calls
    rw [map_map]
    rfl
  rw [hreceived, hcalls]
  constructor
  · rintro ⟨hread, hsame⟩
    refine ⟨hread, eq_of_map_eq ?_ hsame⟩
    intro first hfirst second hsecond heq
    obtain ⟨index, -, hindex⟩ := mem_filterMap.mp hfirst
    -- an id tells which block a call is of
    exact message.ids_differ first (Message.block_eq_some hindex).2 second hsecond
      (Prod.mk.inj heq).1
  · intro hsound
    refine ⟨hsound.read, ?_⟩
    rw [hsound.ends]

/-! ## Both providers -/

/-- The calls of a response come through exactly, or as an exception, when nothing is cut off and
what releases them comes; this is all that either provider asks. -/
theorem calls_decoded_iff (numbers : JsonText.Numbers) (model : String) (max_retries : Nat) :
    (∀ response : Completion,
      Decoded numbers response.calls
          (openai_stream (loads numbers) (.obj []) model max_retries
            fun _ => ⟨response.chunks, none⟩)
        ↔ response.Sound numbers)
      ∧ ∀ message : Message,
        Decoded numbers message.calls
            (anthropic_stream (loads numbers) (.obj []) model max_retries
              fun _ => ⟨message.events, none⟩)
          ↔ message.Sound numbers :=
  ⟨completion_iff model max_retries, message_iff model max_retries⟩

/-! ### Two calls that are cut off -/

def sample_numbers : JsonText.Numbers where
  parse_float _ := .null
  parse_constant _ := .null

/-- `max_tokens` is reached inside the arguments of `bash_run`. -/
def cut_message : Message where
  events := [
    .message_start (some (some 12)),
    .content_block_start 0 (.tool_use "toolu_1" "bash_run"),
    .content_block_delta 0 (.input_json_delta "\x7b\"command\": \"ls"),
    .content_block_stop 0,
    .message_delta (some (some 9))]
  blocks := [(0, {
    id := "toolu_1"
    name := "bash_run"
    pieces := ["\x7b\"command\": \"ls"]
    complete := false
    stops := true })]
  ordered := pairwise_singleton _ _
  ids_differ := by simp
  written := by
    intro index block hmem
    obtain ⟨rfl, rfl⟩ := Prod.mk.inj (mem_singleton.mp hmem)
    rfl
  no_others := by
    intro index hother part hpart
    have hne : ¬ 0 = index := by
      intro h
      exact hother (by simp [← h])
    simp [block_part, hne] at hpart

/-- A call that is complete, in a response that ends with the finish reason `length`. -/
def long_completion : Completion where
  chunks := [
    { choices := [{ tool_calls := [{
        index := 0
        id := some "call_1"
        function := some { name := some "bash_run", arguments := some "\x7b\x7d" } }] }] },
    { choices := [{ finish_reason := some "length" }] }]
  complete _ := true
  finished_last := by simp [Chunk.finish_reason, Chunk.choice]

/-- The first call is run without its arguments and the second one is not run; neither is
reported. -/
theorem cut_call_runs :
    (¬ Decoded sample_numbers cut_message.calls
        (anthropic_stream (loads sample_numbers) (.obj []) "m" 0
          fun _ => ⟨cut_message.events, none⟩))
      ∧ ((anthropic_stream (loads sample_numbers) (.obj []) "m" 0
          fun _ => ⟨cut_message.events, none⟩).received.filterMap called
        = [("toolu_1", "bash_run", .obj [])])
      ∧ ¬ Decoded sample_numbers long_completion.calls
        (openai_stream (loads sample_numbers) (.obj []) "m" 0
          fun _ => ⟨long_completion.chunks, none⟩) := by
  refine ⟨?_, by rfl, ?_⟩
  · intro h
    exact h.reported _ (mem_singleton.mpr rfl) rfl rfl
  · intro h
    have hreceived := h.received
    have hcalls : long_completion.calls.filterMap (WrittenCall.decoded sample_numbers)
        = [("call_1", "bash_run", .obj [])] := by rfl
    rw [hcalls] at hreceived
    cases hreceived

end CodingAgentLoop.CallFragments
