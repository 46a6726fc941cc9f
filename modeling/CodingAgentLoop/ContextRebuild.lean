/-
When the incremental context is the rebuilt one.

Between two builds the context keeps the core messages of the entries it has seen, their
number, and the place of the grounding. A build that is not forced to start over extends
them. That is right if the entries the model sees now are the ones the last completed
build saw, followed by new ones over a clean seam (`Patch.Clean`). The journal holds the
tapes of every incremental build, so a run says of itself whether this was so.

It is not so by itself: a turn that fails gives its tape back and not its counters, and an
entry between two turns makes up for the ones that are gone.
-/
import CodingAgentLoop.ContextSeam
import CodingAgentLoop.Pipeline
import CodingAgentLoop.Lib.History

open Lib Lib.Result

namespace CodingAgentLoop

open TapeView PipelineSession TurnState List

/-! ## The statement -/

def full_rebuild (text : JsonText) (system_prompt : String) (tape : Tape)
    (grounding : List Message) : Except StoreError (List Message) := do
  let core_messages ← build_core_messages text (from_tape tape).entries
  return compose_messages system_prompt core_messages grounding

def ProviderCall.Rebuilt (text : JsonText) (system_prompt : String) (call : ProviderCall) : Prop :=
  full_rebuild text system_prompt call.tape call.grounding = .ok call.messages

instance (text : JsonText) (system_prompt : String) (call : ProviderCall) :
    Decidable (call.Rebuilt text system_prompt) :=
  inferInstanceAs (Decidable (_ = _))

/-- An incremental build finds what the last build saw and new entries after it. -/
def Patch.Clean (text : JsonText) (patch : Patch) : Prop :=
  ∃ built new, patch.built = some built
    ∧ visible_entries patch.tape = visible_entries built ++ new
    ∧ CleanSeam text (visible_entries built) new

instance (text : JsonText) (patch : Patch) : Decidable (patch.Clean text) :=
  decidable_of_iff (∃ built ∈ patch.built,
      visible_entries built <+: visible_entries patch.tape
      ∧ CleanSeam text (visible_entries built)
        ((visible_entries patch.tape).drop (visible_entries built).length))
    ⟨fun ⟨built, hbuilt, ⟨new, hview⟩, hseam⟩ => by
        rw [← hview, drop_left] at hseam
        exact ⟨built, new, hbuilt, hview.symm, hseam⟩,
      fun ⟨built, new, hbuilt, hview, hseam⟩ =>
        ⟨built, hbuilt, ⟨new, hview.symm⟩, by rw [hview, drop_left]; exact hseam⟩⟩

/-! ## The state between builds -/

/-- What the context keeps from one build to the next. -/
structure IncrementalState where
  messages : List Message
  core_messages : List Message
  entry_count : Nat
  grounding_start : Nat
  grounding_count : Nat
  window_start : Nat

/-- The part of a context a build leaves behind. -/
def PipelineContext.incremental (ctx : PipelineContext) : IncrementalState where
  messages := ctx.messages
  core_messages := ctx.incremental_core_messages
  entry_count := ctx.incremental_entry_count
  grounding_start := ctx.incremental_grounding_start
  grounding_count := ctx.incremental_grounding_count
  window_start := ctx.incremental_window_start

/-- What is kept is what a full rebuild of `built` makes. -/
structure Synced (text : JsonText) (system_prompt : String) (kept : IncrementalState)
    (built : Tape) (grounding : List Message) : Prop where
  core_messages : build_core_messages text (visible_entries built) = .ok kept.core_messages
  messages : kept.messages = compose_messages system_prompt kept.core_messages grounding
  entry_count : kept.entry_count = built.entries.length ∨ kept.entry_count = 0
  window_start : kept.window_start = built.window_start
  grounding_start : grounding ≠ [] →
    kept.grounding_start = 1 + grounding_insert_index kept.core_messages
  grounding_count : kept.grounding_count = grounding.length

/-- As long as the incremental builds were clean, everything sent was rebuilt, and what is kept
belongs to the tape of the last completed build. -/
structure Faithful (text : JsonText) (system_prompt : String) (ctx_prompt : String)
    (kept : IncrementalState) (journal : Journal) : Prop where
  prompt : ctx_prompt = system_prompt
  sent : (∀ patch ∈ journal.patches, patch.Clean text) →
    ∀ call ∈ journal.sent, call.Rebuilt text system_prompt
  synced : (∀ patch ∈ journal.patches, patch.Clean text) →
    ∀ built, journal.built = some built →
      Synced text system_prompt kept built journal.grounding

namespace TurnState

section

variable (text : JsonText) (system_prompt : String) (state : TurnState)

def Keeps : Prop :=
  Faithful text system_prompt state.ctx.system_prompt state.ctx.incremental state.journal

def Ready : Prop :=
  state.Keeps text system_prompt ∧ state.journal.built = some state.ctx.tape

end

end TurnState

variable {text : JsonText} {system_prompt : String}

/-! ## The entries of a view -/

theorem visible_entries_length (tape : Tape) :
    (visible_entries tape).length = tape.entries.length - tape.window_start := by
  unfold visible_entries Tape.windowed_entries
  by_cases hwindow : 0 < tape.window_start
  · have hpartition : ∀ entries : List Entry,
        (entries.filter (·.marked_handoff)).length + (entries.filter (!·.marked_handoff)).length
          = entries.length := by
      intro entries
      induction entries with
      | nil => rfl
      | cons entry rest ih =>
        cases hmarked : entry.marked_handoff <;> simp [hmarked] <;> omega
    rw [if_pos hwindow, length_append, hpartition, length_drop]
  · rw [if_neg hwindow]
    omega

/-- A tape that goes on after the one before has new entries at the end of its view, unless one
of them is a handoff that the window puts in front. -/
theorem visible_entries_extend {built tape : Tape} {new : List Entry}
    (hentries : tape.entries = built.entries ++ new)
    (hwindow : tape.window_start = built.window_start)
    (hinside : built.window_start ≤ built.entries.length)
    (hmarked : 0 < built.window_start → ∀ entry ∈ new, entry.marked_handoff = false) :
    visible_entries tape = visible_entries built ++ new := by
  unfold visible_entries Tape.windowed_entries
  rw [hwindow, hentries]
  by_cases hpos : 0 < built.window_start
  · have hnone : new.filter (·.marked_handoff) = [] := by
      rw [filter_eq_nil_iff]
      intro entry hentry
      simp [hmarked hpos entry hentry]
    have hall : new.filter (!·.marked_handoff) = new := by
      rw [filter_eq_self]
      intro entry hentry
      simp [hmarked hpos entry hentry]
    rw [if_pos hpos, if_pos hpos, drop_append_of_le_length hinside, filter_append,
      filter_append, hnone, hall, append_nil, append_assoc]
  · rw [if_neg hpos, if_neg hpos]

/-! ## Builds -/

variable {ctx : PipelineContext} {core : List Message}

theorem synced_rebuilt (grounding : List Message)
    (hbuild : build_core_messages text (visible_entries ctx.tape) = .ok core) :
    Synced text ctx.system_prompt (ctx.rebuilt core grounding).incremental ctx.tape grounding where
  core_messages := hbuild
  messages := rfl
  entry_count := Or.inl rfl
  window_start := rfl
  grounding_start := by
    intro hgrounding
    show (if grounding = [] then _ else 1 + grounding_insert_index core) = _
    rw [if_neg hgrounding]
    rfl
  grounding_count := rfl

theorem new_entries_of_synced {built : Tape} {grounding : List Message} {new : List Entry}
    (hsynced : Synced text system_prompt ctx.incremental built grounding)
    (hcount : ctx.incremental_entry_count ≠ 0)
    (hwindow : ctx.incremental_window_start = ctx.tape.window_start)
    (hview : visible_entries ctx.tape = visible_entries built ++ new) :
    ctx.new_entries = new := by
  have hlength : ctx.incremental_entry_count - ctx.tape.window_start
      = (visible_entries built).length := by
    have hbuilt : ctx.incremental_entry_count = built.entries.length :=
      hsynced.entry_count.resolve_right hcount
    have hstart : ctx.incremental_window_start = built.window_start := hsynced.window_start
    rw [visible_entries_length, hbuilt, ← hstart, hwindow]
  show (visible_entries ctx.tape).drop _ = new
  rw [hlength, hview, drop_left]

theorem patched_of_not_full {force : Bool} (h : ¬ should_full_rebuild ctx force = true) :
    ctx.incremental_entry_count ≠ 0 ∧ ctx.incremental_window_start = ctx.tape.window_start := by
  simp only [should_full_rebuild, decide_eq_true_eq, not_or, not_not] at h
  exact ⟨h.2.2.2.1, h.2.2.2.2.2.1⟩

theorem ensures_answer {α : Type} {inv : TurnState → Prop} (answer : Except TurnError α) :
    Preserves inv (Action.lift answer) :=
  Ensures.lift (fun _ _ _ hstate => hstate) (fun _ _ _ hstate => hstate)

theorem rebuild_context_run (grounding : List Message) (state : TurnState) :
    rebuild_context text grounding state
      = match build_core_messages text (visible_entries state.ctx.tape) with
        | .ok core => (.ok (), state.rebuilt core grounding)
        | .error error => (.error (.raised error), state) := by
  show (Action.get >>= fun state => TurnAction.of (build_core_messages text
    (visible_entries state.ctx.tape)) >>= fun core =>
      Action.modify (·.rebuilt core grounding) : TurnAction Unit) state = _
  have hget : (Action.get : TurnAction TurnState) state = (.ok state, state) := rfl
  rw [Action.bind_ok hget]
  generalize build_core_messages text (visible_entries state.ctx.tape) = result
  cases result with
  | error error => rfl
  | ok core => rfl

theorem patch_context_run (grounding : List Message) (state : TurnState) :
    patch_context text grounding state
      = match append_to_core_messages text state.ctx.incremental_core_messages
          state.ctx.new_entries with
        | (.error error, core) => (.error (.raised error), state.extended core)
        | (.ok (), core) =>
          match patch_messages state.ctx.system_prompt state.ctx.messages core grounding
            state.ctx.incremental_grounding_start state.ctx.incremental_grounding_count with
          | (.error error, messages) =>
            (.error (.raised error), (state.extended core).counted.with_messages messages)
          | (.ok placed, messages) =>
            (.ok (),
              ((state.extended core).counted.with_messages messages).patched grounding placed) := by
  have hget : (Action.get : TurnAction TurnState) state = (.ok state, state) := rfl
  unfold patch_context
  rw [Action.bind_ok hget]
  generalize append_to_core_messages text state.ctx.incremental_core_messages
    state.ctx.new_entries = appended
  obtain ⟨error | ⟨⟩, core⟩ := appended
  · rfl
  · generalize hpatched : patch_messages state.ctx.system_prompt state.ctx.messages core grounding
      state.ctx.incremental_grounding_start state.ctx.incremental_grounding_count = patched
    obtain ⟨error | placed, messages⟩ := patched
    · simp only [hpatched]
      rfl
    · simp only [hpatched]
      rfl

theorem keeps_rebuild_context (grounding : List Message) :
    Ensures (TurnState.Keeps text system_prompt) (rebuild_context text grounding)
      (fun _ => TurnState.Ready text system_prompt) (TurnState.Keeps text system_prompt) := by
  refine Ensures.of_run (fun state hkeeps () state' hrun => ?_)
    (fun state hkeeps error state' hrun => ?_)
  · rw [rebuild_context_run] at hrun
    cases hbuild : build_core_messages text (visible_entries state.ctx.tape) with
    | error error => rw [hbuild] at hrun; cases hrun
    | ok core =>
      rw [hbuild] at hrun
      obtain rfl : state.rebuilt core grounding = state' := by simpa using hrun
      have hsynced := synced_rebuilt grounding hbuild
      rw [hkeeps.prompt] at hsynced
      refine ⟨⟨hkeeps.prompt, hkeeps.sent, fun _ built hbuilt => ?_⟩, rfl⟩
      obtain rfl : state.ctx.tape = built := Option.some.inj hbuilt
      exact hsynced
  · rw [rebuild_context_run] at hrun
    cases hbuild : build_core_messages text (visible_entries state.ctx.tape) with
    | error error =>
      rw [hbuild] at hrun
      obtain rfl : state = state' := by simpa using congrArg Prod.snd hrun
      exact hkeeps
    | ok core => rw [hbuild] at hrun; cases hrun

variable {state : TurnState}

theorem clean_of_extended (h : ∀ patch ∈ (state.extended core).journal.patches, patch.Clean text) :
    (∀ patch ∈ state.journal.patches, patch.Clean text)
      ∧ Patch.Clean text { built := state.journal.built, tape := state.ctx.tape } :=
  ⟨fun patch hpatch => h patch (mem_append_left _ hpatch),
    h _ (mem_append_right _ mem_cons_self)⟩

theorem keeps_extended (h : state.Keeps text system_prompt) (core : List Message) :
    (state.extended core).Keeps text system_prompt where
  prompt := h.prompt
  sent := fun hclean => h.sent (clean_of_extended hclean).1
  synced := fun _ built hbuilt => by cases hbuilt

theorem synced_patched (grounding : List Message) (h : state.Keeps text system_prompt)
    (hpatches : ∀ patch ∈ (state.extended core).journal.patches, patch.Clean text)
    (hcount : state.ctx.incremental_entry_count ≠ 0)
    (hwindow : state.ctx.incremental_window_start = state.ctx.tape.window_start)
    (happend : append_to_core_messages text state.ctx.incremental_core_messages
      state.ctx.new_entries = (.ok (), core)) :
    ∃ placed messages,
      patch_messages state.ctx.system_prompt state.ctx.messages core grounding
          state.ctx.incremental_grounding_start state.ctx.incremental_grounding_count
        = (.ok placed, messages)
      ∧ Synced text system_prompt
        (((state.extended core).counted.with_messages messages).patched grounding
          placed).ctx.incremental state.ctx.tape grounding := by
  obtain ⟨hearlier, built, new, hbuilt, hview, hseam⟩ := clean_of_extended hpatches
  have hsynced := h.synced hearlier built hbuilt
  have hnew : state.ctx.new_entries = new := new_entries_of_synced hsynced hcount hwindow hview
  rw [hnew] at happend
  obtain ⟨hbuild, hinitial⟩ := append_eq_build hseam hsynced.core_messages happend
  have hmessages : state.ctx.messages = compose_messages system_prompt
      state.ctx.incremental_core_messages state.journal.grounding := hsynced.messages
  have hgrounding : state.ctx.incremental_grounding_count = state.journal.grounding.length :=
    hsynced.grounding_count
  have hpatch : patch_messages state.ctx.system_prompt state.ctx.messages core grounding
      state.ctx.incremental_grounding_start state.ctx.incremental_grounding_count
      = (.ok (if grounding = [] then (compose_messages system_prompt core grounding).length
            else 1 + grounding_insert_index core, grounding.length),
          compose_messages system_prompt core grounding) := by
    rw [h.prompt, hmessages, hgrounding]
    exact patch_compose hinitial hsynced.grounding_start
  refine ⟨_, _, hpatch, ?_⟩
  exact {
    core_messages := by rw [hview]; exact hbuild
    messages := rfl
    entry_count := Or.inl rfl
    window_start := rfl
    grounding_start := fun hne => if_neg hne
    grounding_count := rfl }

theorem keeps_patch_context (grounding : List Message) (force : Bool) :
    Ensures (fun state => state.Keeps text system_prompt ∧
        ¬ should_full_rebuild state.ctx force = true)
      (patch_context text grounding)
      (fun _ => TurnState.Ready text system_prompt) (TurnState.Keeps text system_prompt) := by
  have hcases : ∀ state : TurnState, state.Keeps text system_prompt →
      ¬ should_full_rebuild state.ctx force = true →
      (∀ state', patch_context text grounding state = (.ok (), state') →
        state'.Ready text system_prompt)
      ∧ ∀ error state', patch_context text grounding state = (.error error, state') →
        state'.Keeps text system_prompt := by
    intro state hkeeps hfull
    obtain ⟨hcount, hwindow⟩ := patched_of_not_full hfull
    rw [patch_context_run]
    rcases happend : append_to_core_messages text state.ctx.incremental_core_messages
      state.ctx.new_entries with ⟨error | ⟨⟩, core⟩
    · refine ⟨fun state' hrun => (by cases hrun), fun error' state' hrun => ?_⟩
      obtain rfl : state.extended core = state' := by simpa using congrArg Prod.snd hrun
      exact keeps_extended hkeeps core
    · rcases hpatch : patch_messages state.ctx.system_prompt state.ctx.messages core grounding
        state.ctx.incremental_grounding_start state.ctx.incremental_grounding_count with
        ⟨error | placed, messages⟩
      · simp only [hpatch]
        refine ⟨fun state' hrun => (by cases hrun), fun error' state' hrun => ?_⟩
        obtain rfl : (state.extended core).counted.with_messages messages = state' := by
          simpa using congrArg Prod.snd hrun
        have hextended := keeps_extended hkeeps core
        exact ⟨hextended.prompt, hextended.sent, fun _ built hbuilt => by cases hbuilt⟩
      · simp only [hpatch]
        refine ⟨fun state' hrun => ?_, fun error' state' hrun => by cases hrun⟩
        obtain rfl : ((state.extended core).counted.with_messages messages).patched grounding placed
          = state' := by simpa using hrun
        refine ⟨⟨hkeeps.prompt, (keeps_extended hkeeps core).sent, fun hclean built hbuilt => ?_⟩,
          rfl⟩
        obtain rfl : state.ctx.tape = built := Option.some.inj hbuilt
        obtain ⟨placed', messages', hpatch', hsynced⟩ :=
          synced_patched grounding hkeeps hclean hcount hwindow happend
        rw [hpatch] at hpatch'
        obtain ⟨hplaced, rfl⟩ := Prod.mk.inj hpatch'
        obtain rfl : placed = placed' := by simpa using hplaced
        exact hsynced
  exact Ensures.of_run (fun state ⟨hkeeps, hfull⟩ () state' hrun => (hcases state hkeeps hfull).1 _ hrun)
    (fun state ⟨hkeeps, hfull⟩ error state' hrun => (hcases state hkeeps hfull).2 error _ hrun)

/-! ## A turn -/

theorem keeps_advance_window (inputs : BuildInputs) :
    Ensures (TurnState.Keeps text system_prompt) (advance_window inputs)
      (fun _ => TurnState.Keeps text system_prompt) (TurnState.Keeps text system_prompt) := by
  unfold advance_window
  refine Ensures.bind (ensures_answer _) (fun answer => ?_)
  cases answer with
  | unexpected => exact Ensures.pure (fun _ h => h)
  | unanswered =>
    refine Ensures.bind (ensures_answer _) (fun summary => ?_)
    cases summary with
    | none => exact Ensures.pure (fun _ h => h)
    | some entries =>
      refine Ensures.bind (Q := fun _ => TurnState.Keeps text system_prompt)
        (Ensures.modify (fun state h => ?_)) (fun _ => Ensures.pure (fun _ h => h))
      exact ⟨h.prompt, h.sent, h.synced⟩
  | window window_start summary_anchor =>
    cases summary_anchor with
    | none => exact Ensures.pure (fun _ h => h)
    | some anchor =>
      refine Ensures.reading (fun start => ?_)
      dsimp only
      split
      · refine Ensures.bind (Q := fun _ => TurnState.Keeps text system_prompt)
          (Ensures.modify (fun state h => ?_)) (fun _ => Ensures.pure (fun _ h => h))
        exact ⟨h.prompt, h.sent, h.synced⟩
      · exact Ensures.pure (fun _ h => h)

theorem keeps_build_context (inputs : BuildInputs) :
    Ensures (TurnState.Keeps text system_prompt) (stage_build_context text inputs)
      (fun _ => TurnState.Ready text system_prompt) (TurnState.Keeps text system_prompt) := by
  unfold stage_build_context
  refine Ensures.bind (keeps_advance_window inputs) (fun force => ?_)
  refine Ensures.bind (ensures_answer _) (fun results => ?_)
  refine Ensures.bind
    (Q := fun start state => state.Keeps text system_prompt ∧ state = start)
    (Ensures.get (fun state h => ⟨h, rfl⟩)) (fun start => ?_)
  split
  · next hfull => exact (keeps_rebuild_context _).requires (fun _ h => h.1)
  · next hfull =>
    refine (keeps_patch_context _ force).requires (fun state h => ⟨h.1, ?_⟩)
    rw [h.2]
    exact hfull

/-! ### What is not a build

Between the builds a round only appends to the tape, so an invariant that appended entries
leave goes through. Most of a turn changes neither what is kept nor the journal: an invariant
that looks at nothing else goes through loading and saving too. -/

def LeftByAppends (inv : TurnState → Prop) : Prop :=
  ∀ (state : TurnState) (entry : Entry), inv state → inv (state.append entry)

/-- The invariant looks at the prompt, what is kept and the journal only. -/
def KeptOnly (inv : TurnState → Prop) : Prop :=
  ∀ state : TurnState, inv state → ∀ state' : TurnState,
    state'.ctx.system_prompt = state.ctx.system_prompt →
    state'.ctx.incremental = state.ctx.incremental → state'.journal = state.journal → inv state'

section Appends

variable {inv : TurnState → Prop}

section

variable (hinv : LeftByAppends inv)

include hinv

theorem appends_append (entry : Entry) :
    Preserves inv (Action.modify (·.append entry) : TurnAction Unit) :=
  Ensures.modify (fun state h => hinv state entry h)

theorem appends_reject_call (inputs : CallInputs) (call : ToolCallRequest) (message : String) :
    Preserves inv (reject_call inputs call message) :=
  (appends_append hinv _).bind
    (fun () => (ensures_answer _).bind (fun () => Ensures.pure (fun _ h => h)))

theorem appends_offer_call (response : Response) (inputs : CallInputs)
    (call : ToolCallRequest) (index : Nat) :
    Preserves inv (offer_call response inputs call index) := by
  unfold offer_call
  refine (appends_append hinv _).bind (fun () => ?_)
  split
  · exact appends_reject_call hinv inputs call _
  · split
    · exact Ensures.pure (fun _ h => h)
    · refine (ensures_answer _).bind (fun approval => ?_)
      split
      · exact Ensures.pure (fun _ h => h)
      · exact appends_reject_call hinv inputs call _

theorem appends_offer_calls (response : Response)
    (inputs : Nat → CallInputs) (items : List (ToolCallRequest × Nat)) :
    Preserves inv (offer_calls response inputs items) := by
  have hoffered : Ensures inv (offer_calls response inputs items)
      (fun offered state => List.Forall₂ (fun _ _ => True) items offered ∧ inv state) inv :=
    Ensures.collect (fun item _ => (appends_offer_call hinv response (inputs item.2) item.1
      item.2).mono (fun _ h => h) (fun _ _ h => ⟨trivial, h⟩) (fun _ h => h))
  exact hoffered.mono (fun _ h => h) (fun _ _ h => h.2) (fun _ h => h)

theorem appends_record_result (inputs : RoundInputs) (result : ToolExecutionResult) (index : Nat) :
    Preserves inv (record_result text inputs result index) :=
  Ensures.bind (Ensures.get (Q := fun _ => inv) (fun _ h => h))
    (fun _ => (appends_append hinv _).bind (fun () => ensures_answer _))

theorem appends_plugin {α : Type} (reply : PluginReply α) :
    Preserves inv (reply.run.zoom (·.ctx.tape) with_tape) := by
  intro state h
  have hrun : Preserves (fun tape => inv (state.with_tape tape)) reply.run :=
    leaves_run (fun entry _ tape htape => hinv _ entry htape)
  exact hrun state.ctx.tape h

theorem appends_execute_tools (inputs : ExecutionInputs) (calls : List ToolCallRequest) :
    Preserves inv ((execute_tools inputs calls).zoom (·.ctx.tape) with_tape) := by
  intro state h
  have hleaves : inputs.Leaves (fun tape => inv (state.with_tape tape)) :=
    ⟨fun _ _ entry _ tape htape => hinv _ entry htape,
      fun _ _ _ entry _ tape htape => hinv _ entry htape,
      fun _ entry _ tape htape => hinv _ entry htape⟩
  obtain ⟨hok, herror⟩ := execute_tools_spec hleaves calls state.ctx.tape h
  exact ⟨fun results hresults => (hok results hresults).2, herror⟩

theorem appends_execute_calls (inputs : RoundInputs) (calls : List ToolCallRequest) :
    Preserves inv (execute_calls text inputs calls) := by
  unfold execute_calls
  refine (ensures_answer _).bind (fun () => ?_)
  refine Ensures.bind (Ensures.get (Q := fun _ => inv) (fun _ h => h)) (fun start => ?_)
  refine (appends_execute_tools hinv _ _).bind (fun results => ?_)
  exact (Ensures.each (fun result _ => appends_record_result hinv inputs result.1 result.2)).bind
    (fun () => Ensures.pure (fun _ h => h))

end

end Appends

section KeptOnly

variable {inv : TurnState → Prop}

theorem KeptOnly.appends (hinv : KeptOnly inv) : LeftByAppends inv :=
  fun state _ h => hinv state h _ rfl rfl rfl

theorem keptOnly_keeps : KeptOnly (TurnState.Keeps text system_prompt) := by
  intro state h state' hprompt hkept hjournal
  unfold TurnState.Keeps
  rw [hprompt, hkept, hjournal]
  exact h

theorem kept_load_state (hinv : KeptOnly inv) (inputs : TurnInputs) :
    Preserves inv (stage_load_state inputs) := by
  unfold stage_load_state
  refine Ensures.bind (Ensures.get (Q := fun _ => inv) (fun _ h => h)) (fun start => ?_)
  refine Ensures.bind (Q := fun _ => inv) ?_ (fun () => ?_)
  · exact Ensures.when (fun _ => (ensures_answer _).bind
      (fun _ => Ensures.modify (fun _ h => hinv _ h _ rfl rfl rfl))) (fun _ h => h)
  refine Ensures.bind (Q := fun _ => inv) ?_ (fun () => ?_)
  · exact Ensures.when (fun _ => (ensures_answer _).bind
      (fun _ => Ensures.modify (fun _ h => hinv _ h _ rfl rfl rfl))) (fun _ h => h)
  refine (ensures_answer _).bind (fun () => Ensures.modify (fun state h => ?_))
  unfold forked_by
  split
  · exact hinv _ h _ rfl rfl rfl
  · exact h

theorem kept_save_state (hinv : KeptOnly inv) (inputs : TurnInputs) :
    Preserves inv (stage_save_state inputs) := by
  unfold stage_save_state
  refine Ensures.bind (Ensures.get (Q := fun _ => inv) (fun _ h => h)) (fun start => ?_)
  refine (appends_plugin hinv.appends _).bind (fun () => Ensures.modify (fun state h => ?_))
  unfold after_checkpoint
  split
  · exact hinv _ h _ rfl rfl rfl
  · exact h

theorem kept_commit_fork (hinv : KeptOnly inv) (inputs : TurnInputs) :
    Preserves inv (commit_fork inputs) := by
  unfold commit_fork
  refine Ensures.bind (Ensures.get (Q := fun _ => inv) (fun _ h => h)) (fun start => ?_)
  split
  · refine Ensures.bind (Q := fun _ => inv)
      (Ensures.modify (fun _ h => hinv _ h _ rfl rfl rfl)) (fun () => ?_)
    exact (ensures_answer _).bind (fun _ => Ensures.modify (fun _ h => hinv _ h _ rfl rfl rfl))
  · exact Ensures.pure (fun _ h => h)

end KeptOnly

/-! ### The rounds -/

theorem ready_expect_length (h : state.Ready text system_prompt) (length : Nat) :
    (state.expect_length length).Ready text system_prompt := by
  unfold expect_length
  split
  · refine ⟨⟨h.1.prompt, h.1.sent, fun hclean built hbuilt => ?_⟩, h.2⟩
    have hsynced := h.1.synced hclean built hbuilt
    exact {
      core_messages := hsynced.core_messages
      messages := hsynced.messages
      entry_count := Or.inr rfl
      window_start := hsynced.window_start
      grounding_start := hsynced.grounding_start
      grounding_count := hsynced.grounding_count }
  · exact h

theorem ready_tool_calls (inputs : RoundInputs) (response : Response) :
    Ensures (TurnState.Keeps text system_prompt) (run_tool_calls text inputs response)
      (fun _ => TurnState.Ready text system_prompt) (TurnState.Keeps text system_prompt) := by
  unfold run_tool_calls
  refine (Ensures.when (fun _ => appends_append keptOnly_keeps.appends _) (fun _ h => h)).bind (fun () => ?_)
  refine (appends_offer_calls keptOnly_keeps.appends response inputs.calls _).bind (fun offered => ?_)
  dsimp only
  split
  · exact keeps_build_context inputs.context
  · refine (appends_execute_calls keptOnly_keeps.appends inputs _).bind (fun checkpoint => ?_)
    refine Ensures.bind (Q := fun _ => TurnState.Keeps text system_prompt)
      (Ensures.modify (fun _ h => h)) (fun () => ?_)
    refine (keeps_build_context inputs.context).bind (fun () => ?_)
    exact Ensures.modify (fun _ h => ready_expect_length h _)

theorem ready_send (h : state.Ready text system_prompt) :
    state.send.Ready text system_prompt := by
  refine ⟨⟨h.1.prompt, fun hclean call hcall => ?_, h.1.synced⟩, h.2⟩
  rcases mem_snoc hcall with hearlier | rfl
  · exact h.1.sent hclean call hearlier
  · have hsynced := h.1.synced hclean state.ctx.tape h.2
    have hbuild : build_core_messages text (from_tape state.ctx.tape).entries
        = .ok state.ctx.incremental_core_messages := hsynced.core_messages
    have hmessages : state.ctx.messages = compose_messages system_prompt
        state.ctx.incremental_core_messages state.journal.grounding := hsynced.messages
    show full_rebuild text system_prompt state.ctx.tape state.journal.grounding
      = .ok state.ctx.messages
    rw [full_rebuild, hbuild, ok_bind, hmessages]
    rfl

theorem ready_run_round (inputs : RoundInputs) :
    Ensures (TurnState.Ready text system_prompt) (run_round text inputs)
      (fun more state => state.Keeps text system_prompt
        ∧ (more = true → state.Ready text system_prompt))
      (TurnState.Keeps text system_prompt) := by
  unfold run_round
  refine Ensures.bind (Q := fun _ => TurnState.Ready text system_prompt)
    ((ensures_answer _).breaks (fun _ h => h.1))
    (fun runtime_prompt_changed => ?_)
  refine Ensures.bind (Q := fun _ => TurnState.Ready text system_prompt)
    (Ensures.when (fun _ => (keeps_build_context inputs.prompt_context).requires (fun _ h => h.1))
      (fun _ h => h)) (fun () => ?_)
  refine Ensures.bind (Q := fun _ => TurnState.Keeps text system_prompt)
    (Ensures.modify (fun _ h => (ready_send h).1)) (fun () => ?_)
  refine (ensures_answer _).bind (fun response => ?_)
  unfold finish_round
  split
  · exact (ready_tool_calls inputs response).bind (fun () => Ensures.pure (fun _ h => ⟨h.1, fun _ => h⟩))
  · refine (Ensures.when (fun _ => appends_append keptOnly_keeps.appends _) (fun _ h => h)).bind (fun () => ?_)
    exact Ensures.pure (fun _ h => ⟨h, fun hmore => by cases hmore⟩)

theorem keeps_run_rounds (rounds : Nat → RoundInputs) (remaining index : Nat) :
    Ensures (TurnState.Ready text system_prompt) (run_rounds text rounds remaining index)
      (fun _ => TurnState.Keeps text system_prompt) (TurnState.Keeps text system_prompt) := by
  induction remaining generalizing index with
  | zero => exact Ensures.pure (fun _ h => h.1)
  | succ remaining ih =>
    refine (ready_run_round (rounds index)).bind (fun more => ?_)
    exact Ensures.when (fun hmore => (ih (index + 1)).requires (fun _ h => h.2 hmore)) (fun _ h => h.1)

theorem keeps_run_stages (inputs : TurnInputs) :
    Ensures (TurnState.Keeps text system_prompt) (run_stages text inputs)
      (fun _ => TurnState.Keeps text system_prompt) (TurnState.Keeps text system_prompt) := by
  unfold run_stages stage_run_model
  refine (ensures_answer _).bind (fun _ => (ensures_answer _).bind (fun _ => ?_))
  refine (kept_load_state keptOnly_keeps inputs).bind (fun () => (ensures_answer _).bind (fun _ => ?_))
  refine (keeps_build_context inputs.context).bind (fun () => ?_)
  refine Ensures.bind (Q := fun _ => TurnState.Ready text system_prompt)
    ((ensures_answer _).breaks (fun _ h => h.1)) (fun _ => ?_)
  refine Ensures.bind (Q := fun _ => TurnState.Ready text system_prompt)
    (Ensures.when (fun _ => (keeps_build_context inputs.prompt_context).requires (fun _ h => h.1))
      (fun _ h => h)) (fun () => ?_)
  refine Ensures.bind (Q := fun _ => TurnState.Keeps text system_prompt)
    (Ensures.bind (Ensures.get (Q := fun _ => TurnState.Ready text system_prompt)
      (fun _ h => h)) (fun _ => Ensures.when (fun _ => keeps_run_rounds inputs.rounds _ 0)
        (fun _ h => h.1))) (fun () => ?_)
  refine (ensures_answer _).bind (fun () => (kept_save_state keptOnly_keeps inputs).bind (fun () => ?_))
  exact (ensures_answer _).bind (fun () => (ensures_answer _).bind (fun () => ensures_answer _))

/-! ## A session -/

def PipelineSession.Keeps (text : JsonText) (system_prompt : String)
    (session : PipelineSession) : Prop :=
  Faithful text system_prompt session.ctx.system_prompt session.ctx.incremental session.journal

variable {session : PipelineSession}

theorem keeps_run_turn (h : session.Keeps text system_prompt) (inputs : TurnInputs) :
    (run_turn text inputs session).2.Keeps text system_prompt := by
  have hbody : Ensures (TurnState.Keeps text system_prompt) (turn_body text inputs)
      (fun _ => TurnState.Keeps text system_prompt) (TurnState.Keeps text system_prompt) :=
    (keeps_run_stages inputs).map_error.bind (fun () => kept_commit_fork keptOnly_keeps inputs)
  have hstart : TurnState.Keeps text system_prompt
      { ctx := session.ctx, journal := session.journal } := h
  have hfinal : TurnState.Keeps text system_prompt
      (turn_body text inputs { ctx := session.ctx, journal := session.journal }).2 :=
    hbody.final hstart
  unfold run_turn
  rcases hrun : turn_body text inputs { ctx := session.ctx, journal := session.journal } with
    ⟨error | ⟨⟩, state⟩
  · rw [hrun] at hfinal
    exact hfinal
  · rw [hrun] at hfinal
    exact hfinal

theorem run_turn_journal (text : JsonText) (inputs : TurnInputs) (session : PipelineSession) :
    (run_turn text inputs session).2.journal
      = (turn_body text inputs { ctx := session.ctx, journal := session.journal }).2.journal := by
  unfold run_turn
  rcases turn_body text inputs { ctx := session.ctx, journal := session.journal } with
    ⟨error | ⟨⟩, state⟩
  · rfl
  · rfl

theorem keeps_after (h : session.Keeps text system_prompt) (event : ContextEvent) :
    (session.after text event).Keeps text system_prompt := by
  cases event with
  | append entry => exact h
  | turn inputs => exact keeps_run_turn h inputs

theorem keeps_events (h : session.Keeps text system_prompt) (events : List ContextEvent) :
    (events.foldl (after text) session).Keeps text system_prompt := by
  induction events generalizing session with
  | nil => exact h
  | cons event rest ih => exact ih (keeps_after h event)

theorem keeps_start (ctx : PipelineContext) :
    PipelineSession.Keeps text ctx.system_prompt { ctx } :=
  ⟨rfl, fun _ call hcall => (by cases hcall), fun _ built hbuilt => (by cases hbuilt)⟩

/-- In a session whose incremental builds were all clean, every list given to the provider is the
one a full rebuild of the same tape with the same grounding gives. -/
theorem incremental_context_rebuilt (text : JsonText) (ctx : PipelineContext)
    (events : List ContextEvent) :
    let session := events.foldl (after text) { ctx }
    (∀ patch ∈ session.journal.patches, patch.Clean text) →
      ∀ call ∈ session.journal.sent, call.Rebuilt text ctx.system_prompt := by
  intro session hclean
  exact (keeps_events (keeps_start ctx) events).sent hclean

/-! ## A turn that is rolled back -/

/-- A rendering that is right for strings and for the empty object. -/
def plain_text : JsonText where
  dumps := fun _ => "{}"
  str := fun value => value.str?.getD "{}"

def user_message (id content : String) : Entry :=
  .new "message" [("role", .str "user"), ("content", .str content)] ⟨id, 0⟩

/-- A round in which the model streams `events`; its calls are accepted and their tools return. -/
def plain_round (events : List StreamEvent) : RoundInputs where
  events
  text_stamp := ⟨"text", 0⟩
  calls := fun index =>
    { call_stamp := ⟨"call-" ++ toString index, 0⟩
      rejection_stamp := ⟨"rejection-" ++ toString index, 0⟩ }
  execution := { executors := fun _ => [{ outcome := .ok (.value (.str "done")) }] }
  result_stamps := fun index => ⟨"result-" ++ toString index, 0⟩

/-- A turn whose rounds stream what `streams` says. -/
def plain_turn (fork_id : String) (streams : List (List StreamEvent)) : TurnInputs where
  fork_id
  rounds := fun index => plain_round (streams.getD index [.done])

/-- A turn with one tool call that is interrupted before it is saved. -/
def interrupted_turn : TurnInputs :=
  { plain_turn "fork-1" [[.tool_call ⟨"call-1", "demo_tool", []⟩, .done], [.text "done", .done]] with
    save_state := .error (.raised (.raised .PipelineError "runtime interrupted: stop")) }

/-- A context with incremental builds and a storage, before its first turn. -/
def incremental_context : PipelineContext where
  tape := { tape_id := "main" }
  config := { incremental_context := true }
  storage := some {}
  llm_provider := true

/-- The interrupted turn, two messages after it, and a turn that answers them. -/
def rolled_back_events : List ContextEvent :=
  [.append (user_message "user-1" "first"), .turn interrupted_turn,
   .append (user_message "user-2" "second"), .append (user_message "user-3" "third"),
   .turn (plain_turn "fork-2" [[.text "answer", .done]])]

/-- The last turn finds as many entries as the interrupted one had counted. The provider is given
the tool call that was rolled back, and not the two messages. -/
theorem rolled_back_turn_not_rebuilt :
    incremental_context.config.incremental_context = true
    ∧ ∃ call ∈ (rolled_back_events.foldl (after plain_text)
        { ctx := incremental_context }).journal.sent,
      ¬ call.Rebuilt plain_text incremental_context.system_prompt := by
  decide +kernel

/-- A turn with one tool call, whose second build is incremental. -/
def two_round_events : List ContextEvent :=
  [.append (user_message "user-1" "first"),
   .turn (plain_turn "fork-1"
    [[.tool_call ⟨"call-1", "demo_tool", []⟩, .done], [.text "done", .done]])]

/-- What the provider is given in its second round is what a full rebuild gives. -/
theorem two_round_turn_rebuilt :
    let session := two_round_events.foldl (after plain_text)
      { ctx := incremental_context }
    session.journal.patches.length = 1
      ∧ ∀ call ∈ session.journal.sent, call.Rebuilt plain_text incremental_context.system_prompt :=
  ⟨by decide +kernel,
    incremental_context_rebuilt plain_text incremental_context two_round_events (by decide +kernel)⟩

end CodingAgentLoop
