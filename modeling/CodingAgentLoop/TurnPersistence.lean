/-
What the store holds after a turn (`coding_agent/adapter/pipeline.py`).

`PipelineAdapter.run_turn` appends the user's message to the tape and runs the pipeline on it. A
fork is saved from the length of the tape it was begun from, and by then the message is in that
tape: what `commit` saves is what comes after it. The store holds the tape after a turn only if
it held the message before.

When a hook summarizes the tape in mid-turn, what is saved ends there, and the tape goes on from
the summary.
-/
import CodingAgentLoop.ContextRebuild

namespace CodingAgentLoop

open Lib Preserves Action Tape List

/-! ## The adapter -/

/-- How a call of the adapter ends when it returns; its `TurnOutcome` reads the rest off the
tape. -/
inductive TurnEnd where
  | completed
  | interrupted
  | failed (error : String)
  deriving DecidableEq

/-- A call of `PipelineAdapter.run_turn`: what `initialize` comes to, the user's input, and what
the pipeline meets. -/
structure AdapterTurn where
  initialized : Except TurnError Unit := .ok ()
  user_input : String
  user_stamp : EntryStamp
  inputs : TurnInputs

def AdapterTurn.user_entry (turn : AdapterTurn) : Entry :=
  .new "message" [("role", .str "user"), ("content", .str turn.user_input)] turn.user_stamp

def PipelineSession.append (session : PipelineSession) (entry : Entry) : PipelineSession :=
  { session with ctx := { session.ctx with tape := session.ctx.tape.append entry } }

def PipelineSession.ensure_user_message (session : PipelineSession) (user_entry : Entry) :
    PipelineSession :=
  if user_entry ∈ session.ctx.tape.entries then session else session.append user_entry

/-- `run_turn(user_input)` of the adapter. -/
def AdapterTurn.run (text : JsonText) (turn : AdapterTurn) (session : PipelineSession) :
    Except TurnError TurnEnd × PipelineSession :=
  match turn.initialized with
  | .error error => (.error error, session)
  | .ok () =>
    match run_turn text turn.inputs (session.append turn.user_entry) with
    | (.ok (), session) => (.ok .completed, session)
    | (.error .KeyboardInterrupt, session) =>
      (.ok .interrupted, session.ensure_user_message turn.user_entry)
    | (.error (.FatalToolExecutionError message), session) =>
      (.error (.FatalToolExecutionError message), session.ensure_user_message turn.user_entry)
    | (.error (.raised error), session) =>
      (.ok (.failed error.message), session.ensure_user_message turn.user_entry)
    | (.error .CancelledError, session) => (.error .CancelledError, session)

/-- What happens to the context of an adapter. -/
inductive AdapterEvent where
  | append (entry : Entry)
  | turn (turn : AdapterTurn)

def PipelineSession.next (text : JsonText) (session : PipelineSession) :
    AdapterEvent → PipelineSession
  | .append entry => session.append entry
  | .turn turn => (turn.run text session).2

/-! ## The statement -/

namespace PipelineContext

def stored (ctx : PipelineContext) : List JsonObject :=
  match ctx.storage with
  | some store => store.backing ctx.tape.tape_id
  | none => []

def Persisted (ctx : PipelineContext) : Prop := ctx.stored = lines ctx.tape.entries

instance (ctx : PipelineContext) : Decidable ctx.Persisted :=
  inferInstanceAs (Decidable (_ = _))

end PipelineContext

def BuildInputs.Summary (inputs : BuildInputs) (summary : List Entry) : Prop :=
  inputs.resolve_context_window = .ok .unanswered ∧ inputs.summarize_context = .ok (some summary)

def RoundInputs.Summary (inputs : RoundInputs) (summary : List Entry) : Prop :=
  inputs.prompt_context.Summary summary ∨ inputs.context.Summary summary

/-- The hooks have this summary for the turn, should it come to that build. -/
def TurnInputs.Summary (inputs : TurnInputs) (summary : List Entry) : Prop :=
  inputs.context.Summary summary ∨ inputs.prompt_context.Summary summary
    ∨ ∃ index, (inputs.rounds index).Summary summary

/-! ## The fork -/

namespace ForkTapeStore

theorem commit_begun {store store' : ForkTapeStore} {base fork : Tape} {stable_tape_id : String}
    {saved : Except TurnError Unit}
    (hcommit : commit fork saved (store.begin_fork base fork.tape_id).2
      = (.ok stable_tape_id, store')) :
    stable_tape_id = base.tape_id
      ∧ store'.backing = Function.update store.backing base.tape_id
          (store.backing base.tape_id
            ++ lines (fork.entries.drop base.entries.length)) := by
  have hlength : (store.begin_fork base fork.tape_id).2.base_lengths fork.tape_id
      = some base.entries.length := Function.update_self _ _ _
  have hid : (store.begin_fork base fork.tape_id).2.base_tape_ids fork.tape_id
      = some base.tape_id := Function.update_self _ _ _
  unfold commit at hcommit
  obtain ⟨_, mid, hget, hcommit⟩ := bind_eq_ok.mp hcommit
  obtain ⟨hstart, rfl⟩ := Prod.mk.inj hget
  obtain rfl := Except.ok.inj hstart
  split at hcommit
  · cases hcommit
  · rw [hlength, hid] at hcommit
    cases saved with
    | ok _ =>
      obtain ⟨_, mid, hmodify, hpure⟩ := bind_eq_ok.mp hcommit
      obtain ⟨hstable, rfl⟩ := pure_eq_ok.mp hpure
      obtain ⟨_, rfl⟩ := Prod.mk.inj hmodify
      exact ⟨hstable.symm, rfl⟩
    | error error =>
      cases error with
      | raised error => cases hcommit
      | FatalToolExecutionError message => cases hcommit
      | KeyboardInterrupt => cases hcommit
      | CancelledError => cases hcommit

theorem commit_failed {store store' : ForkTapeStore} {fork : Tape} {error : TurnError}
    {saved : Except TurnError Unit} (hcommit : commit fork saved store = (.error error, store')) :
    store'.backing = store.backing := by
  have hspec : Ensures (fun other => other.backing = store.backing) (commit fork saved)
      (fun _ _ => True) (fun other => other.backing = store.backing) := by
    unfold commit
    refine Ensures.bind (Q := fun _ other => other.backing = store.backing)
      (Ensures.get (fun _ h => h)) (fun start => ?_)
    split
    · exact Ensures.raise (fun _ h => h)
    · split
      · split
        · exact Ensures.bind (Q := fun _ _ => True) (Ensures.modify (fun _ _ => trivial))
            (fun _ => Ensures.pure (fun _ _ => trivial))
        · exact Ensures.raise (fun _ h => h)
        · exact Ensures.bind (Q := fun _ other => other.backing = store.backing)
            (Ensures.modify (fun _ h => h)) (fun _ => Ensures.raise (fun _ h => h))
      · exact Ensures.raise (fun _ h => h)
  exact hspec.error rfl hcommit

theorem rollback_backing (store : ForkTapeStore) (fork : Tape) :
    (store.rollback fork).backing = store.backing := by
  unfold rollback
  split
  · rfl
  · rfl

end ForkTapeStore

/-! ## A turn

From `begin` on the fork only grows, whatever `ctx.tape` is; where that is another tape, it
goes on from a summary. -/

namespace TurnState

def objects (state : TurnState) : Tape × Option ForkTapeStore × Option Tape × Bool × Option Tape :=
  (state.ctx.tape, state.ctx.storage, state.left_original, state.forked, state.left_fork)

/-- Before `begin`. -/
def Given (base : Tape) (store : ForkTapeStore) (state : TurnState) : Prop :=
  state.objects = (base, some store, none, false, none)

/-- A turn that has forked `base`, as long as it goes well. -/
structure OnFork (base : Tape) (store : ForkTapeStore) (fork_id : String)
    (given : List Entry → Prop) (state : TurnState) : Prop where
  forked : state.forked = true
  original : state.left_original = some base
  storage : state.ctx.storage = some (store.begin_fork base fork_id).2
  fork_id : (state.left_fork.getD state.ctx.tape).tape_id = fork_id
  grown : base.entries <+: (state.left_fork.getD state.ctx.tape).entries
  summarized : state.left_fork = none ∨ ∃ summary, given summary
    ∧ summary <+: state.ctx.tape.entries

/-- What a turn that fails goes back to. -/
structure GoesBack (base : Tape) (backing : String → List JsonObject) (state : TurnState) :
    Prop where
  original : state.original_tape = base
  storage : ∃ store, state.ctx.storage = some store ∧ store.backing = backing

variable {base : Tape} {store : ForkTapeStore} {fork_id : String} {given : List Entry → Prop}
  {state state' : TurnState}

section

variable (h : state.OnFork base store fork_id given)

include h

theorem OnFork.elsewhere
    (hobjects : state'.objects = state.objects) : state'.OnFork base store fork_id given := by
  obtain ⟨htape, hstorage, horiginal, hforked, hfork⟩ :=
    (by simpa [objects] using hobjects : state'.ctx.tape = state.ctx.tape
      ∧ state'.ctx.storage = state.ctx.storage ∧ state'.left_original = state.left_original
      ∧ state'.forked = state.forked ∧ state'.left_fork = state.left_fork)
  refine ⟨?_, ?_, ?_, ?_, ?_, ?_⟩
  · rw [hforked]; exact h.forked
  · rw [horiginal]; exact h.original
  · rw [hstorage]; exact h.storage
  · rw [hfork, htape]; exact h.fork_id
  · rw [hfork, htape]; exact h.grown
  · rw [hfork, htape]; exact h.summarized

theorem OnFork.extended {tape : Tape} (hid : tape.tape_id = state.ctx.tape.tape_id)
    (hentries : state.ctx.tape.entries <+: tape.entries) :
    (state.with_tape tape).OnFork base store fork_id given := by
  refine ⟨h.forked, h.original, h.storage, ?_, ?_, ?_⟩
  · have hfork_id := h.fork_id
    show (state.left_fork.getD tape).tape_id = fork_id
    cases hfork : state.left_fork with
    | none =>
      rw [hfork] at hfork_id
      exact hid.trans hfork_id
    | some fork =>
      rw [hfork] at hfork_id
      exact hfork_id
  · have hgrown := h.grown
    show base.entries <+: (state.left_fork.getD tape).entries
    cases hfork : state.left_fork with
    | none =>
      rw [hfork] at hgrown
      exact hgrown.trans hentries
    | some fork =>
      rw [hfork] at hgrown
      exact hgrown
  · exact h.summarized.imp_right
      (fun ⟨summary, hgiven, hsummary⟩ => ⟨summary, hgiven, hsummary.trans hentries⟩)

theorem OnFork.replaced {summary : List Entry} (hgiven : given summary) :
    (state.replace_tape summary).OnFork base store fork_id given := by
  have hfork : state.fork = some (state.left_fork.getD state.ctx.tape) := by
    unfold fork
    rw [if_pos h.forked]
  refine ⟨h.forked, ?_, h.storage, ?_, ?_, .inr ⟨summary, hgiven, prefix_rfl⟩⟩
  · show some (state.left_original.getD state.ctx.tape) = some base
    rw [h.original]
    rfl
  · show (state.fork.getD _).tape_id = fork_id
    rw [hfork]
    exact h.fork_id
  · show base.entries <+: (state.fork.getD _).entries
    rw [hfork]
    exact h.grown

theorem OnFork.goesBack :
    state.GoesBack base store.backing :=
  ⟨by unfold original_tape; rw [h.original]; rfl, _, h.storage, rfl⟩

end

theorem Given.goesBack (h : state.Given base store) : state.GoesBack base store.backing := by
  obtain ⟨htape, hstorage, horiginal, _⟩ :=
    (by simpa [Given, objects] using h : state.ctx.tape = base ∧ state.ctx.storage = some store
      ∧ state.left_original = none ∧ state.forked = false ∧ state.left_fork = none)
  exact ⟨by unfold original_tape; rw [horiginal, htape]; rfl, store, hstorage, rfl⟩

theorem Given.begun (h : state.Given base store) (fork_id : String)
    (given : List Entry → Prop) : (state.forked_by fork_id).OnFork base store fork_id given := by
  obtain ⟨htape, hstorage, horiginal, hforked, hfork⟩ :=
    (by simpa [Given, objects] using h : state.ctx.tape = base ∧ state.ctx.storage = some store
      ∧ state.left_original = none ∧ state.forked = false ∧ state.left_fork = none)
  unfold forked_by
  rw [hstorage]
  unfold begin_fork
  rw [htape]
  refine ⟨rfl, rfl, rfl, ?_, ?_, .inl hfork⟩
  · rw [hfork]
    rfl
  · rw [hfork]
    exact prefix_rfl

end TurnState

section OnFork

variable {text : JsonText} {base : Tape} {store : ForkTapeStore} {fork_id : String}
  {given : List Entry → Prop}

theorem onFork_appends : LeftByAppends (TurnState.OnFork base store fork_id given) :=
  fun _ entry h => h.extended rfl (prefix_append _ [entry])

theorem onFork_elsewhere {change : TurnState → TurnState}
    (hchange : ∀ state : TurnState, (change state).objects = state.objects) :
    Preserves (TurnState.OnFork base store fork_id given)
      (Action.modify change : TurnAction Unit) :=
  Preserves.modify (fun state h => h.elsewhere (hchange state))

theorem onFork_advance_window {inputs : BuildInputs}
    (hgiven : ∀ summary, inputs.Summary summary → given summary) :
    Preserves (TurnState.OnFork base store fork_id given) (advance_window inputs) := by
  unfold advance_window
  refine Ensures.bind (Q := fun answer state => inputs.resolve_context_window = .ok answer
      ∧ state.OnFork base store fork_id given)
    (Ensures.lift (fun _ hanswer _ h => ⟨hanswer, h⟩) (fun _ _ _ h => h)) (fun answer => ?_)
  split
  · exact Ensures.pure (fun _ h => h.2)
  · next window_start summary_anchor =>
    refine Ensures.bind (Q := fun _ => TurnState.OnFork base store fork_id given)
      (Ensures.get (fun _ h => h.2)) (fun start => ?_)
    dsimp only
    split
    · refine seq (Preserves.modify (fun state h => ?_)) (fun _ => Preserves.pure)
      have hextended : (state.with_tape (state.ctx.tape.handoff summary_anchor
          (some (start.ctx.tape.window_start + window_start.toNat)))).OnFork
          base store fork_id given := h.extended rfl (prefix_append _ _)
      exact hextended.elsewhere rfl
    · exact Preserves.pure
  · exact Ensures.pure (fun _ h => h.2)
  · refine Ensures.bind (Q := fun summary state => (∀ entries, summary = some entries →
        given entries) ∧ state.OnFork base store fork_id given)
      (Ensures.lift (fun summary hsummary _ h => ⟨fun entries hentries =>
        hgiven entries ⟨h.1, hentries ▸ hsummary⟩, h.2⟩) (fun _ _ _ h => h.2)) (fun summary => ?_)
    split
    · next entries =>
      exact Ensures.bind (Q := fun _ => TurnState.OnFork base store fork_id given)
        (Ensures.modify (fun _ h => h.2.replaced (h.1 entries rfl))) (fun _ => Preserves.pure)
    · exact Ensures.pure (fun _ h => h.2)

theorem onFork_rebuild_context (grounding : List Message) :
    Preserves (TurnState.OnFork base store fork_id given) (rebuild_context text grounding) := by
  unfold rebuild_context
  refine seq Preserves.get (fun start => ?_)
  exact seq Preserves.lift (fun core_messages => onFork_elsewhere (fun _ => rfl))

theorem onFork_patch_context (grounding : List Message) :
    Preserves (TurnState.OnFork base store fork_id given) (patch_context text grounding) := by
  unfold patch_context
  refine seq Preserves.get (fun start => ?_)
  refine seq (onFork_elsewhere (fun _ => rfl)) (fun _ => ?_)
  refine seq Preserves.lift (fun _ => ?_)
  refine seq (onFork_elsewhere (fun _ => rfl)) (fun _ => ?_)
  refine seq (onFork_elsewhere (fun _ => rfl)) (fun _ => ?_)
  exact seq Preserves.lift (fun _ => onFork_elsewhere (fun _ => rfl))

theorem onFork_build_context {inputs : BuildInputs}
    (hgiven : ∀ summary, inputs.Summary summary → given summary) :
    Preserves (TurnState.OnFork base store fork_id given) (stage_build_context text inputs) := by
  unfold stage_build_context
  refine seq (onFork_advance_window hgiven) (fun force_full_rebuild => ?_)
  refine seq Preserves.lift (fun results => ?_)
  refine seq Preserves.get (fun start => ?_)
  split
  · exact onFork_rebuild_context _
  · exact onFork_patch_context _

theorem onFork_run_tool_calls {inputs : RoundInputs} (response : Response)
    (hgiven : ∀ summary, inputs.Summary summary → given summary) :
    Preserves (TurnState.OnFork base store fork_id given)
      (run_tool_calls text inputs response) := by
  have hcontext : Preserves (TurnState.OnFork base store fork_id given)
      (stage_build_context text inputs.context) :=
    onFork_build_context (fun summary h => hgiven summary (.inr h))
  unfold run_tool_calls
  refine seq (Preserves.when (appends_append onFork_appends _)) (fun _ => ?_)
  refine seq (appends_offer_calls onFork_appends response inputs.calls _)
    (fun offered => ?_)
  dsimp only
  split
  · exact hcontext
  · refine seq (appends_execute_calls onFork_appends inputs _) (fun length => ?_)
    refine seq (onFork_elsewhere (fun _ => rfl)) (fun _ => ?_)
    refine seq hcontext (fun _ => onFork_elsewhere (fun state => ?_))
    unfold TurnState.expect_length
    split
    · rfl
    · rfl

theorem onFork_run_round {inputs : RoundInputs}
    (hgiven : ∀ summary, inputs.Summary summary → given summary) :
    Preserves (TurnState.OnFork base store fork_id given) (run_round text inputs) := by
  unfold run_round
  refine seq Preserves.lift (fun runtime_prompt_changed => ?_)
  refine seq (Preserves.when
    (onFork_build_context (fun summary h => hgiven summary (.inl h)))) (fun _ => ?_)
  refine seq (onFork_elsewhere (fun _ => rfl)) (fun _ => ?_)
  refine seq Preserves.lift (fun response => ?_)
  unfold finish_round
  split
  · exact seq (onFork_run_tool_calls response hgiven) (fun _ => Preserves.pure)
  · exact seq (Preserves.when (appends_append onFork_appends _))
      (fun _ => Preserves.pure)

theorem onFork_run_rounds {rounds : Nat → RoundInputs}
    (hgiven : ∀ index summary, (rounds index).Summary summary → given summary)
    (remaining index : Nat) :
    Preserves (TurnState.OnFork base store fork_id given)
      (run_rounds text rounds remaining index) := by
  induction remaining generalizing index with
  | zero => exact Preserves.pure
  | succ remaining ih =>
    exact seq (onFork_run_round (hgiven index))
      (fun more => Preserves.when (ih (index + 1)))

theorem onFork_save_state (inputs : TurnInputs) :
    Preserves (TurnState.OnFork base store fork_id given) (stage_save_state inputs) := by
  unfold stage_save_state
  refine seq Preserves.get (fun start => ?_)
  refine seq (appends_plugin onFork_appends _)
    (fun _ => onFork_elsewhere (fun state => ?_))
  unfold TurnState.after_checkpoint
  split
  · rfl
  · rfl

theorem load_state_forks (inputs : TurnInputs) :
    Ensures (TurnState.Given base store) (stage_load_state inputs)
      (fun _ => TurnState.OnFork base store inputs.fork_id given)
      (TurnState.GoesBack base store.backing) := by
  unfold stage_load_state
  refine Ensures.bind (Q := fun start state => start.ctx.storage = some store
      ∧ TurnState.Given base store state)
    (Ensures.get (fun state h => ⟨congrArg (fun objects => objects.2.1) h, h⟩)) (fun start => ?_)
  refine Ensures.bind (Q := fun _ => TurnState.Given base store)
    (Ensures.when (fun hnone state h => ?_) (fun _ h => h.2)) (fun _ => ?_)
  · rw [h.1] at hnone
    cases hnone
  refine Ensures.bind (Q := fun _ => TurnState.Given base store) ?_ (fun _ => ?_)
  · refine Ensures.when (fun _ => ?_) (fun _ h => h)
    exact Ensures.lifting (fun _ h => h.goesBack) (fun _ => Ensures.modify (fun _ h => h))
  exact Ensures.lifting (fun _ h => h.goesBack) (fun _ => Ensures.modify (fun _ h => h.begun _ _))

theorem run_stages_fork (inputs : TurnInputs) :
    Ensures (TurnState.Given base store) (run_stages text inputs)
      (fun _ => TurnState.OnFork base store inputs.fork_id inputs.Summary)
      (TurnState.GoesBack base store.backing) := by
  have hgiven : ∀ {α : Type} (answer : Except TurnError α),
      Ensures (TurnState.Given base store) (Action.lift answer)
        (fun _ => TurnState.Given base store) (TurnState.GoesBack base store.backing) :=
    fun _ => Ensures.lift (fun _ _ _ h => h) (fun _ _ _ h => h.goesBack)
  unfold run_stages
  refine (hgiven _).bind (fun _ => (hgiven _).bind (fun _ => ?_))
  refine Ensures.bind (Q := fun _ => TurnState.OnFork base store inputs.fork_id inputs.Summary)
    (load_state_forks inputs) (fun _ => ?_)
  have hforked : Preserves (TurnState.OnFork base store inputs.fork_id inputs.Summary)
      (do
        let _ ← Action.lift inputs.build_context
        stage_build_context text inputs.context
        let runtime_prompt_changed ← Action.lift inputs.run_model
        Action.when runtime_prompt_changed (stage_build_context text inputs.prompt_context)
        stage_run_model text inputs.rounds
        Action.lift inputs.save_state
        stage_save_state inputs
        Action.lift inputs.render
        Action.lift inputs.directives
        Action.lift inputs.dispatch) := by
    refine seq Preserves.lift (fun _ => ?_)
    refine seq (onFork_build_context (fun summary h => .inl h)) (fun _ => ?_)
    refine seq Preserves.lift (fun _ => ?_)
    refine seq (Preserves.when (onFork_build_context (fun summary h => .inr (.inl h))))
      (fun _ => ?_)
    refine seq ?_ (fun _ => seq Preserves.lift (fun _ => ?_))
    · unfold stage_run_model
      exact seq Preserves.get (fun start => Preserves.when
        (onFork_run_rounds (fun index summary h => .inr (.inr ⟨index, h⟩)) _ 0))
    refine seq (onFork_save_state inputs) (fun _ => ?_)
    exact seq Preserves.lift (fun _ => seq Preserves.lift
      (fun _ => Preserves.lift))
  exact hforked.breaks (fun _ h => h.goesBack)

end OnFork

/-- A turn on `base` was saved, with the store holding `stored` before. -/
structure Committed (base : Tape) (stored : List JsonObject) (given : List Entry → Prop)
    (saved : List Entry) (ctx : PipelineContext) : Prop where
  storage : ctx.storage.isSome = true
  tape_id : ctx.tape.tape_id = base.tape_id
  stored : ctx.stored = stored ++ lines saved
  entries : ctx.tape.entries = base.entries ++ saved
    ∨ ∃ summary, given summary ∧ summary <+: ctx.tape.entries

theorem commit_fork_saves {base : Tape} {store : ForkTapeStore} {given : List Entry → Prop}
    (inputs : TurnInputs) :
    Ensures (TurnState.OnFork base store inputs.fork_id given) (commit_fork inputs)
      (fun _ state => ∃ saved, Committed base (store.backing base.tape_id) given saved state.ctx)
      (TurnState.GoesBack base store.backing) := by
  intro start h
  obtain ⟨fork, hfork, hfork_id, hgrown⟩ : ∃ fork, start.fork = some fork
      ∧ fork.tape_id = inputs.fork_id ∧ base.entries <+: fork.entries :=
    ⟨start.left_fork.getD start.ctx.tape, by unfold TurnState.fork; rw [if_pos h.forked],
      h.fork_id, h.grown⟩
  obtain ⟨saved, hsaved⟩ := hgrown
  have hdrop : fork.entries.drop base.entries.length = saved := by
    rw [← hsaved, drop_left]
  have hstorage := h.storage
  rw [← hfork_id] at hstorage
  have hget : (Action.get : TurnAction TurnState) start = (.ok start, start) := rfl
  rcases hcommit : ForkTapeStore.commit fork inputs.saved
      (store.begin_fork base fork.tape_id).2 with ⟨error | stable_tape_id, store'⟩
  · have hrun : commit_fork inputs start = (.error error, start.with_storage (some store')) := by
      unfold commit_fork
      rw [bind_ok hget]
      rw [hfork, hstorage]
      dsimp only
      rw [hcommit]
      rfl
    rw [hrun]
    have hbacking := ForkTapeStore.commit_failed hcommit
    exact ⟨fun _ hok => (by cases hok), fun _ _ => ⟨h.goesBack.original, store', rfl, hbacking⟩⟩
  · obtain ⟨rfl, hbacking⟩ := ForkTapeStore.commit_begun hcommit
    have hrun : commit_fork inputs start = (.ok (), (start.with_storage (some store')).with_tape
        { start.ctx.tape with tape_id := base.tape_id }) := by
      unfold commit_fork
      rw [bind_ok hget]
      rw [hfork, hstorage]
      dsimp only
      rw [hcommit]
      rfl
    rw [hrun]
    refine ⟨fun _ _ => ⟨saved, rfl, rfl, ?_, ?_⟩, fun _ herror => (by cases herror)⟩
    · show store'.backing base.tape_id = _
      rw [hbacking, Function.update_self, hdrop]
    · rcases h.summarized with hnone | hsummary
      · left
        have : start.fork = some start.ctx.tape := by
          unfold TurnState.fork
          rw [if_pos h.forked, hnone]
          rfl
        show start.ctx.tape.entries = _
        rw [hsaved, ← Option.some.inj (hfork.symm.trans this)]
      · exact .inr hsummary

variable {session : PipelineSession}

/-- A turn of the pipeline: it is saved, or the tape and the store are as they were. -/
theorem run_turn_saves (text : JsonText) (inputs : TurnInputs)
    (hstorage : session.ctx.storage.isSome = true) :
    match run_turn text inputs session with
    | (.ok (), after) =>
      ∃ saved, Committed session.ctx.tape session.ctx.stored inputs.Summary saved after.ctx
    | (.error _, after) => after.ctx.storage.isSome = true ∧ after.ctx.tape = session.ctx.tape
        ∧ after.ctx.stored = session.ctx.stored := by
  obtain ⟨store, hstore⟩ := Option.isSome_iff_exists.mp hstorage
  have hstored : session.ctx.stored = store.backing session.ctx.tape.tape_id := by
    unfold PipelineContext.stored
    rw [hstore]
  have hstart : TurnState.Given session.ctx.tape store
      { ctx := session.ctx, journal := session.journal } := by
    unfold TurnState.Given TurnState.objects
    rw [hstore]
  have hbody : Ensures (TurnState.Given session.ctx.tape store) (turn_body text inputs)
      (fun _ state => ∃ saved, Committed session.ctx.tape (store.backing session.ctx.tape.tape_id)
        inputs.Summary saved state.ctx) (TurnState.GoesBack session.ctx.tape store.backing) :=
    (run_stages_fork inputs).map_error.bind (fun _ => commit_fork_saves inputs)
  unfold run_turn
  rcases hrun : turn_body text inputs { ctx := session.ctx, journal := session.journal } with
    ⟨error | ⟨⟩, state⟩
  · obtain ⟨horiginal, left, hleft, hbacking⟩ := hbody.error hstart hrun
    have habandoned : ∃ kept : ForkTapeStore, state.abandoned.storage = some kept
        ∧ kept.backing = store.backing := by
      unfold TurnState.abandoned
      rw [hleft]
      cases state.fork with
      | none => exact ⟨left, rfl, hbacking⟩
      | some fork => exact ⟨_, rfl, (left.rollback_backing fork).trans hbacking⟩
    obtain ⟨kept, hkept, hsame⟩ := habandoned
    refine ⟨by rw [hkept]; rfl, horiginal, ?_⟩
    rw [hstored]
    show PipelineContext.stored state.abandoned = _
    unfold PipelineContext.stored
    rw [hkept, ← hsame]
    exact congrArg kept.backing (congrArg Tape.tape_id horiginal)
  · rw [hstored]
    exact hbody.ok hstart hrun

/-! ## A call of the adapter -/

theorem ensure_user_message_appended (session : PipelineSession) (entry : Entry)
    (h : entry ∈ session.ctx.tape.entries) : session.ensure_user_message entry = session :=
  if_pos h

/-- What a call of the adapter that is not completed leaves: the store, and a tape with the
message at most. -/
structure LeftAlone (before : PipelineContext) (entry : Entry) (after : PipelineContext) :
    Prop where
  storage : after.storage.isSome = true
  stored : after.stored = before.stored
  tape : after.tape = before.tape ∨ after.tape = before.tape.append entry

theorem adapter_turn_saves (text : JsonText) (turn : AdapterTurn)
    (hstorage : session.ctx.storage.isSome = true) :
    ((turn.run text session).1 = .ok .completed ∧
        ∃ saved, Committed (session.ctx.tape.append turn.user_entry) session.ctx.stored
          turn.inputs.Summary saved (turn.run text session).2.ctx)
      ∨ ((turn.run text session).1 ≠ .ok .completed
        ∧ LeftAlone session.ctx turn.user_entry (turn.run text session).2.ctx) := by
  have hasked : (session.append turn.user_entry).ctx.storage.isSome = true := hstorage
  have hsaves := run_turn_saves text turn.inputs hasked
  unfold AdapterTurn.run
  cases turn.initialized with
  | error error => exact .inr ⟨(fun h => by cases h), hstorage, rfl, .inl rfl⟩
  | ok _ =>
    rcases hrun : run_turn text turn.inputs (session.append turn.user_entry) with
      ⟨error | ⟨⟩, after⟩
    · rw [hrun] at hsaves
      obtain ⟨hsome, htape, hstored⟩ := hsaves
      have hmem : turn.user_entry ∈ after.ctx.tape.entries := by
        rw [htape]
        exact mem_append_right _ (mem_singleton_self _)
      have hleft : LeftAlone session.ctx turn.user_entry after.ctx :=
        ⟨hsome, hstored, .inr htape⟩
      right
      cases error with
      | raised error =>
        simp only [ensure_user_message_appended after _ hmem]
        exact ⟨(fun h => by cases h), hleft⟩
      | FatalToolExecutionError message =>
        simp only [ensure_user_message_appended after _ hmem]
        exact ⟨(fun h => by cases h), hleft⟩
      | KeyboardInterrupt =>
        simp only [ensure_user_message_appended after _ hmem]
        exact ⟨(fun h => by cases h), hleft⟩
      | CancelledError => exact ⟨(fun h => by cases h), hleft⟩
    · rw [hrun] at hsaves
      exact .inl ⟨rfl, hsaves⟩

/-! ## A session of the adapter -/

theorem storage_kept (text : JsonText) (hstorage : session.ctx.storage.isSome = true)
    (events : List AdapterEvent) :
    (events.foldl (PipelineSession.next text) session).ctx.storage.isSome = true := by
  induction events generalizing session with
  | nil => exact hstorage
  | cons event rest ih =>
    refine ih ?_
    cases event with
    | append entry => exact hstorage
    | turn turn =>
      rcases adapter_turn_saves text turn hstorage with ⟨_, saved, hcommitted⟩ | ⟨_, hleft⟩
      · exact hcommitted.storage
      · exact hleft.storage

def AdapterEvent.Unsummarized : AdapterEvent → Prop
  | .append _ => True
  | .turn call => ∀ summary, ¬ call.inputs.Summary summary

theorem lines_length (entries : List Entry) : (lines entries).length = entries.length :=
  length_map _

theorem committed_behind {ctx : PipelineContext} {tape : Tape} {entry : Entry}
    {stored : List JsonObject} {given : List Entry → Prop} {saved : List Entry}
    (h : Committed (tape.append entry) stored given saved ctx)
    (hgiven : ∀ summary, ¬ given summary) (hbehind : stored.length ≤ tape.entries.length) :
    ctx.stored.length < ctx.tape.entries.length := by
  rcases h.entries with hentries | ⟨summary, hsummary, _⟩
  · rw [h.stored, hentries, length_append, length_append, lines_length]
    have : (tape.append entry).entries.length = tape.entries.length + 1 :=
      length_append
    omega
  · exact absurd hsummary (hgiven summary)

theorem stored_behind (text : JsonText) (hstorage : session.ctx.storage.isSome = true)
    (hbehind : session.ctx.stored.length ≤ session.ctx.tape.entries.length)
    {events : List AdapterEvent} (hevents : ∀ event ∈ events, event.Unsummarized) :
    (events.foldl (PipelineSession.next text) session).ctx.stored.length
      ≤ (events.foldl (PipelineSession.next text) session).ctx.tape.entries.length := by
  induction events generalizing session with
  | nil => exact hbehind
  | cons event rest ih =>
    have hevent : event.Unsummarized := hevents event mem_cons_self
    refine ih (storage_kept text hstorage [event]) ?_
      (fun other hother => hevents other (mem_cons_of_mem _ hother))
    cases event with
    | append entry =>
      show session.ctx.stored.length ≤ (session.ctx.tape.append entry).entries.length
      exact hbehind.trans (length_append ▸ Nat.le_add_right _ _)
    | turn turn =>
      show (turn.run text session).2.ctx.stored.length
        ≤ (turn.run text session).2.ctx.tape.entries.length
      rcases adapter_turn_saves text turn hstorage with ⟨_, saved, hcommitted⟩ | ⟨_, hleft⟩
      · exact le_of_lt (committed_behind hcommitted hevent hbehind)
      · rw [hleft.stored]
        rcases hleft.tape with htape | htape
        · rw [htape]
          exact hbehind
        · rw [htape]
          exact hbehind.trans (length_append ▸ Nat.le_add_right _ _)

/-- A completed turn adds what was appended to its fork to the store. The tape is the one the
fork was begun from with that, and then it is stored just when the whole of that one, with the
user's message, was stored before; or a hook's summary took its place. Without summaries, a
store that starts in step with the tape never holds it after a turn. -/
theorem turn_persisted_iff (text : JsonText) (ctx : PipelineContext)
    (hstorage : ctx.storage.isSome = true) (events : List AdapterEvent) (turn : AdapterTurn) :
    let session := events.foldl (PipelineSession.next text) { ctx }
    let before := session.ctx
    let after := (turn.run text session).2.ctx
    let asked := before.tape.entries ++ [turn.user_entry]
    (turn.run text session).1 = .ok .completed →
      (∃ saved, after.stored = before.stored ++ lines saved
        ∧ ((after.tape.entries = asked ++ saved
              ∧ (after.Persisted ↔ before.stored = lines asked))
          ∨ ∃ summary later, turn.inputs.Summary summary
              ∧ after.tape.entries = summary ++ later
              ∧ (after.Persisted
                ↔ before.stored ++ lines saved = lines (summary ++ later))))
      ∧ (ctx.stored.length ≤ ctx.tape.entries.length →
          (∀ event ∈ events, event.Unsummarized) →
          (∀ summary, ¬ turn.inputs.Summary summary) → ¬ after.Persisted) := by
  intro session before after asked hcompleted
  have hkept : session.ctx.storage.isSome = true := storage_kept text hstorage events
  obtain ⟨saved, hcommitted⟩ : ∃ saved, Committed (before.tape.append turn.user_entry)
      before.stored turn.inputs.Summary saved after := by
    rcases adapter_turn_saves text turn hkept with ⟨_, hsaved⟩ | ⟨hother, _⟩
    · exact hsaved
    · exact absurd hcompleted hother
  refine ⟨⟨saved, hcommitted.stored, ?_⟩, fun hbehind hevents hsummaries hpersisted => ?_⟩
  · rcases hcommitted.entries with hentries | ⟨summary, hgiven, later, hlater⟩
    · refine .inl ⟨hentries, ?_⟩
      unfold PipelineContext.Persisted
      rw [hcommitted.stored, hentries]
      unfold lines
      rw [map_append]
      exact append_left_inj _
    · refine .inr ⟨summary, later, hgiven, hlater.symm, ?_⟩
      unfold PipelineContext.Persisted
      rw [hcommitted.stored, hlater]
  · have hfewer : after.stored.length < after.tape.entries.length :=
      committed_behind hcommitted hsummaries (stored_behind text hstorage hbehind hevents)
    unfold PipelineContext.Persisted at hpersisted
    rw [hpersisted, lines_length] at hfewer
    exact lt_irrefl _ hfewer

/-! ## The first turn -/

/-- A context that starts with nothing on its tape and nothing stored. -/
def fresh_context : PipelineContext where
  tape := { tape_id := "main", entries := [] }
  storage := some {}
  llm_provider := true

def answered_turn : AdapterTurn where
  user_input := "hello"
  user_stamp := ⟨"user-1", 0⟩
  inputs := plain_turn "fork-1" [[.text "hi"]]

/-- After the first turn the tape is the message and the answer, the store has the answer. -/
theorem first_message_not_persisted :
    let called := answered_turn.run plain_text { ctx := fresh_context }
    called.1 = .ok .completed ∧ called.2.ctx.tape.entries.length = 2
      ∧ called.2.ctx.stored.length = 1 ∧ ¬ called.2.ctx.Persisted := by
  decide +kernel

theorem answered_turn_persists_answer :
    let called := answered_turn.run plain_text { ctx := fresh_context }
    called.1 = .ok .completed ∧ ∃ saved, called.2.ctx.stored = lines saved := by
  have hcompleted : (answered_turn.run plain_text { ctx := fresh_context }).1 = .ok .completed := by
    decide +kernel
  obtain ⟨⟨saved, hsaved, _⟩, _⟩ :=
    turn_persisted_iff plain_text fresh_context rfl [] answered_turn hcompleted
  exact ⟨hcompleted, saved, hsaved⟩

end CodingAgentLoop
