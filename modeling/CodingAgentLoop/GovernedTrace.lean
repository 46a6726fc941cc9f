/-
No call is executed that was not validated and approved.

The argument follows the trace. While a call is checked, everything noted concerns that call; so
what was found of the calls accepted before it stays true, and a call that comes to be executed
was validated, then approved, in this round, and nothing has refused it. The call that a
`call_tool` names has a place of its own and goes through the same checks inside the execution.

Answers are counted beside it: the calls of a response are answered where they are rejected, or
wait until they are executed. Where the stage raises, some are left without an answer.
-/
import CodingAgentLoop.ToolGovernance
import CodingAgentLoop.Lib.History
import Mathlib.Data.List.ReduceOption

namespace CodingAgentLoop

open Lib Toolset List Result

/-! ## Reading the trace -/

def this_round (trace : List ToolEvent) : List ToolEvent :=
  trace.foldl (fun noted event =>
    match event with
    | .round_started _ => []
    | event => noted ++ [event]) []

def ToolEvent.Starts : ToolEvent → Prop
  | .round_started _ => True
  | _ => False

def ToolEvent.Concerns (ref : CallRef) : ToolEvent → Prop
  | .refused place => place = ref
  | .executed _ calls => ∃ call ∈ calls, call.ref = ref
  | _ => False

variable {event : ToolEvent}

theorem this_round_snoc {trace : List ToolEvent} (h : ¬ event.Starts) :
    this_round (trace ++ [event]) = this_round trace ++ [event] := by
  unfold this_round
  rw [foldl_append]
  cases event with
  | round_started round => exact absurd trivial h
  | called call => rfl
  | validated call schemas error => rfl
  | refused ref => rfl
  | decided call approved => rfl
  | executed path calls => rfl
  | answered ref tool_call_id => rfl

section

variable (schemas : List ToolSchema) (trace : List ToolEvent) (call : GovernedCall)

/-- In this round the call passed the schemas and was then approved. -/
def Checked : Prop :=
  [ToolEvent.validated call schemas none, .decided call true].Sublist (this_round trace)

def Cleared : Prop :=
  Checked schemas trace call ∧ .refused call.ref ∉ trace

end

/-- What the trace of a stage must be like. -/
structure Governed (tool_schemas : List ToolSchema) (trace : List ToolEvent) : Prop where
  /-- What is executed was checked before: against the schemas of the turn, or, if `call_tool`
  named it, against those of the proxied tools. -/
  checked : ∀ earlier path calls later, trace = earlier ++ .executed path calls :: later →
    ∀ call ∈ calls, (call.ref.proxied ↔ path = .execute_proxy_tool)
      ∧ ∃ schemas, (path ≠ .execute_proxy_tool → schemas = tool_schemas)
        ∧ Checked schemas earlier call
  /-- What is refused is not executed. -/
  unrefused : ∀ path calls, .executed path calls ∈ trace → ∀ call ∈ calls,
    .refused call.ref ∉ trace

theorem snoc_eq_append_cons {α : Type} {items earlier later : List α} {last item : α}
    (h : items ++ [last] = earlier ++ item :: later) :
    (later = [] ∧ item = last ∧ earlier = items)
      ∨ ∃ rest, later = rest ++ [last] ∧ items = earlier ++ item :: rest := by
  rcases eq_nil_or_concat later with rfl | ⟨rest, final, rfl⟩
  · obtain ⟨hitems, hlast⟩ := append_inj' h rfl
    exact .inl ⟨rfl, (singleton_inj.mp hlast).symm, hitems.symm⟩
  · rw [concat_eq_append, ← cons_append, ← append_assoc] at h
    obtain ⟨hitems, hlast⟩ := append_inj' h rfl
    obtain rfl := singleton_inj.mp hlast
    exact .inr ⟨rest, concat_eq_append, hitems⟩

section Governed

variable {tool_schemas schemas : List ToolSchema} {trace : List ToolEvent} {event : ToolEvent}
  {call : GovernedCall}

theorem Checked.snoc (h : Checked schemas trace call) (hstarts : ¬ event.Starts) :
    Checked schemas (trace ++ [event]) call := by
  unfold Checked
  rw [this_round_snoc hstarts]
  exact List.Sublist.trans h (sublist_append_left _ _)

theorem Cleared.snoc (h : Cleared schemas trace call) (hstarts : ¬ event.Starts)
    (hrefused : event ≠ .refused call.ref) : Cleared schemas (trace ++ [event]) call := by
  refine ⟨h.1.snoc hstarts, fun hmem => ?_⟩
  rcases mem_snoc hmem with hmem | hmem
  · exact h.2 hmem
  · exact hrefused hmem.symm

theorem governed_nil : Governed tool_schemas [] := by
  constructor
  · intro earlier path calls later h
    exact absurd h (by simp)
  · intro path calls hmem
    cases hmem

theorem Governed.snoc (h : Governed tool_schemas trace)
    (hexecuted : ∀ path calls, event ≠ .executed path calls)
    (hrefused : ∀ ref, event = .refused ref → ∀ path calls, .executed path calls ∈ trace →
      ∀ call ∈ calls, call.ref ≠ ref) : Governed tool_schemas (trace ++ [event]) := by
  constructor
  · intro earlier path calls later heq
    rcases snoc_eq_append_cons heq with ⟨_, hevent, _⟩ | ⟨rest, _, heq⟩
    · exact absurd hevent.symm (hexecuted path calls)
    · exact h.checked earlier path calls rest heq
  · intro path calls hmem call hcall hrefusal
    rcases mem_snoc hmem with hmem | hmem
    · rcases mem_snoc hrefusal with hrefusal | hrefusal
      · exact h.unrefused path calls hmem call hcall hrefusal
      · exact hrefused call.ref hrefusal.symm path calls hmem call hcall rfl
    · exact absurd hmem.symm (hexecuted path calls)

theorem Governed.executed (h : Governed tool_schemas trace) {path : ExecutionPath}
    {calls : List GovernedCall}
    (hcalls : ∀ call ∈ calls, (call.ref.proxied ↔ path = .execute_proxy_tool)
      ∧ ∃ schemas, (path ≠ .execute_proxy_tool → schemas = tool_schemas)
        ∧ Cleared schemas trace call) :
    Governed tool_schemas (trace ++ [.executed path calls]) := by
  constructor
  · intro earlier path' calls' later heq
    rcases snoc_eq_append_cons heq with ⟨_, hevent, rfl⟩ | ⟨rest, _, heq⟩
    · obtain ⟨rfl, rfl⟩ := ToolEvent.executed.inj hevent
      intro call hcall
      obtain ⟨hproxied, schemas, hschemas, hcleared⟩ := hcalls call hcall
      exact ⟨hproxied, schemas, hschemas, hcleared.1⟩
    · exact h.checked earlier path' calls' rest heq
  · intro path' calls' hmem call hcall hrefusal
    have hbefore : ToolEvent.refused call.ref ∈ trace := by
      rcases mem_snoc hrefusal with hrefusal | hrefusal
      · exact hrefusal
      · cases hrefusal
    rcases mem_snoc hmem with hmem | hmem
    · exact h.unrefused path' calls' hmem call hcall hbefore
    · obtain ⟨rfl, rfl⟩ := ToolEvent.executed.inj hmem
      obtain ⟨_, _, _, hcleared⟩ := hcalls call hcall
      exact hcleared.2 hbefore

end Governed

/-! ## What each action notes -/

abbrev Noted (F : List ToolEvent → Prop) (state : GovernedState) : Prop := F state.trace

/-- The event is part of the approval of the call at that place. -/
def ToolEvent.About (ref : CallRef) : ToolEvent → Prop
  | .validated call _ _ => call.ref = ref
  | .refused place => place = ref
  | .decided call _ => call.ref = ref
  | _ => False

theorem ToolEvent.About.not_starts {ref : CallRef} (h : event.About ref) :
    ¬ event.Starts := by
  cases event with
  | round_started round => cases h
  | _ => exact id

section Notes

open GovernedAction

variable {F V : List ToolEvent → Prop}

theorem keeps_on_turn {α : Type} (action : TurnAction α) :
    Preserves (Noted F) (on_turn action) :=
  fun _ h => ⟨fun _ _ => h, fun _ _ => h⟩

theorem keeps_ask {α : Type} (reply : GovernedState → PluginReply α) :
    Preserves (Noted F) (ask reply) := by
  unfold ask
  refine Ensures.reading (fun state => ?_)
  exact keeps_on_turn _

theorem ensures_note {event : ToolEvent} {B : GovernedState → Prop}
    (h : ∀ trace, F trace → V (trace ++ [event])) :
    Ensures (Noted F) (note event) (fun _ => Noted V) B :=
  Ensures.modify (fun state hstate => h state.trace hstate)

abbrev Approves (F V : List ToolEvent → Prop) (action : GovernedAction ToolApprovalResult) : Prop :=
  Ensures (Noted (fun trace => F trace ∧ V trace)) action
    (fun result => Noted (fun trace => F trace ∧ (result.approved = true → V trace))) (Noted F)

section Approval

variable {call : GovernedCall}
  (hF : ∀ trace event, F trace → event.About call.ref → F (trace ++ [event]))

include hF

theorem refuse_spec (reason : String) :
    Ensures (Noted F) (refuse call reason)
      (fun result => Noted (fun trace => F trace ∧ (result.approved = true → V trace)))
      (Noted F) := by
  unfold refuse
  refine Ensures.bind (ensures_note (V := F) (fun trace h => hF trace _ h rfl)) (fun _ => ?_)
  exact Ensures.pure (fun _ h => ⟨h, fun happroved => by cases happroved⟩)

theorem refused_error_spec (error : TurnError) (reason : String) :
    Ensures (Noted F)
      (do
        note (.refused call.ref)
        if is_exception error then pure { approved := false, reason } else Action.raise error
        : GovernedAction ToolApprovalResult)
      (fun result => Noted (fun trace => F trace ∧ (result.approved = true → V trace)))
      (Noted F) := by
  refine Ensures.bind (ensures_note (V := F) (fun trace h => hF trace _ h rfl)) (fun _ => ?_)
  split
  · exact Ensures.pure (fun _ h => ⟨h, fun happroved => by cases happroved⟩)
  · exact Ensures.raise (fun _ h => h)

theorem execute_directive_spec (host : ToolHost) (directive : Directive) :
    Approves F V (execute_directive host call directive) := by
  unfold execute_directive
  split
  · exact (refuse_spec hF _).requires (fun _ h => h.1)
  · refine Ensures.bind (keeps_ask _).attempt (fun outcome => ?_)
    split
    · exact Ensures.pure (fun _ h => ⟨h.1, fun _ => h.2⟩)
    · exact (refuse_spec hF _).requires (fun _ h => h.1)
    · exact (refused_error_spec hF _ _).requires (fun _ h => h.1)

theorem consult_hooks_spec (host : ToolHost) (hooks : List Nat) :
    Approves F V (consult_hooks host call hooks) := by
  induction hooks with
  | nil => exact Ensures.pure (fun _ h => ⟨h.1, fun _ => h.2⟩)
  | cons hook rest ih =>
    unfold consult_hooks
    refine Ensures.bind (keeps_ask _).attempt (fun outcome => ?_)
    split
    · exact ih
    · exact (refuse_spec hF _).requires (fun _ h => h.1)
    · exact execute_directive_spec hF host _
    · exact (refused_error_spec hF _ _).requires (fun _ h => h.1)

theorem approve_spec (host : ToolHost) (schemas : List ToolSchema) :
    Ensures
      (Noted (fun trace => F trace ∧ (.validated call schemas none ∈ this_round trace
        ∧ .refused call.ref ∉ trace)))
      (Toolset.approve_tool_call host call)
      (fun result => Noted (fun trace => F trace ∧
        (result.approved = true → Cleared schemas trace call))) (Noted F) := by
  unfold Toolset.approve_tool_call
  refine Ensures.reading (fun state => ?_)
  refine Ensures.bind (Q := fun result => Noted (fun trace => F trace ∧
    (result.approved = true → .validated call schemas none ∈ this_round trace
      ∧ .refused call.ref ∉ trace))) ?_ (fun result => ?_)
  · split
    · exact consult_hooks_spec hF host _
    · split
      · exact (refuse_spec hF _).requires (fun _ h => h.1)
      · exact Ensures.raise (fun _ h => h.1)
  · refine Ensures.bind (ensures_note (V := fun trace => F trace ∧
      (result.approved = true → Cleared schemas trace call)) (fun trace h => ?_))
      (fun _ => Ensures.pure (fun _ h => h))
    refine ⟨hF trace _ h.1 rfl, fun happroved => ?_⟩
    obtain ⟨hvalidated, hrefused⟩ := h.2 happroved
    constructor
    · unfold Checked
      rw [this_round_snoc id, happroved]
      exact (singleton_sublist.mpr hvalidated).append (List.Sublist.refl _)
    · intro hmem
      rcases mem_snoc hmem with hmem | hmem
      · exact hrefused hmem
      · cases hmem

theorem validate_spec (host : ToolHost) (schemas : List ToolSchema) :
    Ensures (Noted (fun trace => F trace ∧ .refused call.ref ∉ trace))
      (validate host call schemas)
      (fun error => Noted (fun trace => F trace ∧ (error = none →
        .validated call schemas none ∈ this_round trace ∧ .refused call.ref ∉ trace)))
      (Noted F) := by
  unfold validate
  refine Ensures.bind (ensures_note (V := fun trace => F trace ∧
    (validate_tool_call host.str call.call schemas = none →
      .validated call schemas none ∈ this_round trace ∧ .refused call.ref ∉ trace))
    (fun trace h => ?_)) (fun _ => Ensures.pure (fun _ h => h))
  refine ⟨hF trace _ h.1 rfl, fun hpassed => ?_⟩
  rw [this_round_snoc id, hpassed]
  refine ⟨mem_append_right _ (mem_singleton.mpr rfl), fun hmem => ?_⟩
  rcases mem_snoc hmem with hmem | hmem
  · exact h.2 hmem
  · cases hmem

end Approval

/-! ## Executors -/

theorem envelope_answer_id {call : ToolCallRequest} {answer : Except String RawToolResult}
    {result : ToolExecutionResult} (h : envelope_answer call answer = .ok (some result)) :
    result.tool_call_id = call.tool_call_id := by
  unfold envelope_answer at h
  split at h
  · obtain ⟨enveloped, henveloped, hsome⟩ := map_eq_ok.mp h
    obtain rfl := Option.some.inj hsome
    exact envelope_id henveloped
  · cases h
  · obtain ⟨enveloped, henveloped, hsome⟩ := map_eq_ok.mp h
    obtain rfl := Option.some.inj hsome
    exact envelope_id henveloped

abbrev AnswersCall (F : List ToolEvent → Prop) (call : GovernedCall)
    (action : GovernedAction ToolExecutionResult) : Prop :=
  Ensures (Noted F) action
    (fun result => Noted (fun trace => result.tool_call_id = call.call.tool_call_id ∧ F trace))
    (Noted F)

variable {call : GovernedCall}

theorem answers_lift {raw : RawToolResult} :
    AnswersCall F call (Action.lift (envelope_raw_result call.call raw)) :=
  Ensures.lift (fun _ hresult _ h => ⟨envelope_id hresult, h⟩) (fun _ _ _ h => h)

theorem answers_pure {result : ToolExecutionResult}
    (hid : result.tool_call_id = call.call.tool_call_id) : AnswersCall F call (pure result) :=
  Ensures.pure (fun _ h => ⟨hid, h⟩)

section Executors

variable {call : GovernedCall} {path : ExecutionPath}
  (hF : ∀ trace, F trace → F (trace ++ [.executed path [call]]))

include hF

theorem invoke_executor_spec (execute : GovernedState → PluginReply RawToolResult) :
    Preserves (Noted F) (Toolset.invoke_executor path call execute) := by
  unfold Toolset.invoke_executor
  refine Preserves.seq (ensures_note hF) (fun _ => ?_)
  refine Ensures.bind (keeps_ask _).attempt (fun outcome => ?_)
  split
  · exact Preserves.pure
  · exact Preserves.pure
  · exact Ensures.raise (fun _ h => h)

theorem answer_or_next (execute : GovernedState → PluginReply RawToolResult)
    {next : GovernedAction ToolExecutionResult} (hnext : AnswersCall F call next) :
    AnswersCall F call
      (do
        let answer ← Toolset.invoke_executor path call execute
        match ← Action.lift (envelope_answer call.call answer) with
        | some result => pure result
        | none => next) := by
  refine Ensures.bind (invoke_executor_spec hF execute) (fun answer => ?_)
  refine Ensures.bind (Q := fun found => Noted (fun trace => F trace ∧
    ∀ result, found = some result → result.tool_call_id = call.call.tool_call_id))
    (Ensures.lift (fun found hfound _ h => ⟨h, fun result hresult =>
      envelope_answer_id (hresult ▸ hfound)⟩) (fun _ _ _ h => h)) (fun found => ?_)
  split
  · exact Ensures.pure (fun _ h => ⟨h.2 _ rfl, h.1⟩)
  · exact hnext.requires (fun _ h => h.1)

theorem execute_from_hooks_spec (execute : GovernedState → Nat → PluginReply RawToolResult)
    (hooks : List Nat) : AnswersCall F call (execute_from_hooks path call execute hooks) := by
  induction hooks with
  | nil => exact answers_lift
  | cons hook rest ih => exact answer_or_next hF _ ih

end Executors

theorem execute_tool_spec (host : ToolHost)
    (hF : ∀ path trace, path ≠ .execute_proxy_tool → F trace →
      F (trace ++ [.executed path [call]])) :
    AnswersCall F call (Toolset.execute_tool host call) := by
  have hhooked : AnswersCall F call (do
      let state ← Action.get
      execute_from_hooks .execute_tool call (fun state => host.execute_tool state call)
        (List.range (host.tool_hooks state))) :=
    Ensures.reading (fun state =>
      execute_from_hooks_spec (fun trace h => hF _ trace (by decide) h) _ _)
  unfold Toolset.execute_tool
  split
  · exact hhooked
  · exact answer_or_next (fun trace h => hF _ trace (by decide) h) _ hhooked

theorem execute_proxy_tool_spec (host : ToolHost)
    (hF : ∀ trace, F trace → F (trace ++ [.executed .execute_proxy_tool [call]])) :
    AnswersCall F call (Toolset.execute_proxy_tool host call) := by
  unfold Toolset.execute_proxy_tool
  exact Ensures.reading (fun state =>
    execute_from_hooks_spec hF _ _)

theorem execute_search_tools_spec (host : ToolHost) :
    AnswersCall F call (execute_search_tools host call) := by
  unfold execute_search_tools
  split
  · refine Ensures.reading (fun state => ?_)
    exact Ensures.bind (Q := fun _ => Noted F) Preserves.lift (fun schemas => answers_pure rfl)
  · exact answers_pure rfl
  · exact answers_pure rfl

end Notes

/-! ## The accepted calls -/

/-- The place of the call that a `call_tool` names. -/
def CallRef.target (ref : CallRef) : CallRef := { ref with proxied := true }

def ToolEvent.Of (round : Nat) : ToolEvent → Prop
  | .validated call _ _ => call.ref.round = round
  | .refused ref => ref.round = round
  | .decided call _ => call.ref.round = round
  | .executed _ calls => ∀ call ∈ calls, call.ref.round = round
  | _ => False

theorem ToolEvent.About.of {ref : CallRef} (h : event.About ref) :
    event.Of ref.round := by
  cases event with
  | validated call schemas error => exact congrArg CallRef.round h
  | refused place => exact congrArg CallRef.round h
  | decided call approved => exact congrArg CallRef.round h
  | _ => cases h

/-- Calls that the model made itself, each in its own place of the round. -/
structure Placed (round : Nat) (calls : List GovernedCall) : Prop where
  direct : ∀ call ∈ calls, call.ref.proxied = false ∧ call.ref.round = round
  distinct : (calls.map (·.ref)).Nodup

theorem Placed.tail {round : Nat} {call : GovernedCall} {rest : List GovernedCall}
    (h : Placed round (call :: rest)) : Placed round rest :=
  ⟨fun other hother => h.direct other (mem_cons_of_mem _ hother),
    (nodup_cons.mp h.distinct).2⟩

theorem Placed.ne {round : Nat} {call other : GovernedCall} {rest : List GovernedCall}
    (h : Placed round (call :: rest)) (hother : other ∈ rest) : other.ref ≠ call.ref := by
  intro heq
  refine (nodup_cons.mp h.distinct).1 ?_
  show call.ref ∈ rest.map (·.ref)
  rw [← heq]
  exact mem_map_of_mem hother

/-- The calls may be executed as far as the trace goes. -/
structure Ready (tool_schemas : List ToolSchema) (calls : List GovernedCall)
    (trace : List ToolEvent) : Prop where
  governed : Governed tool_schemas trace
  cleared : ∀ call ∈ calls, is_proxy_affordance call.call.name = false →
    Cleared tool_schemas trace call
  untouched : ∀ call ∈ calls, ∀ event ∈ trace, ¬ event.Concerns call.ref.target

section Ready

variable {tool_schemas : List ToolSchema} {round : Nat} {call : GovernedCall}
  {calls rest : List GovernedCall} {trace : List ToolEvent} {event : ToolEvent}
  {G : List ToolEvent → Prop}

theorem Ready.tail (h : Ready tool_schemas (call :: rest) trace) :
    Ready tool_schemas rest trace :=
  ⟨h.governed, fun other hother => h.cleared other (mem_cons_of_mem _ hother),
    fun other hother => h.untouched other (mem_cons_of_mem _ hother)⟩

theorem Ready.about (h : Ready tool_schemas calls trace) {ref : CallRef} (habout : event.About ref)
    (hexecuted : ∀ path executed, .executed path executed ∈ trace →
      ∀ call ∈ executed, call.ref ≠ ref)
    (hother : ∀ call ∈ calls, call.ref ≠ ref ∧ call.ref.target ≠ ref) :
    Ready tool_schemas calls (trace ++ [event]) where
  governed := by
    refine h.governed.snoc (fun path executed heq => ?_) (fun place heq => ?_)
    · rw [heq] at habout
      exact habout
    · rw [heq] at habout
      obtain rfl : place = ref := habout
      exact hexecuted
  cleared call hcall hdirect := by
    refine (h.cleared call hcall hdirect).snoc habout.not_starts (fun heq => ?_)
    rw [heq] at habout
    exact (hother call hcall).1 habout
  untouched call hcall found hfound := by
    rcases mem_snoc hfound with hfound | rfl
    · exact h.untouched call hcall found hfound
    · intro hconcerns
      cases found with
      | refused place => exact (hother call hcall).2 (hconcerns.symm.trans habout)
      | executed path executed => exact habout
      | _ => exact hconcerns

theorem Ready.executed (h : Ready tool_schemas calls trace) {path : ExecutionPath}
    {executed : List GovernedCall}
    (hcleared : ∀ call ∈ executed, (call.ref.proxied ↔ path = .execute_proxy_tool)
      ∧ ∃ schemas, (path ≠ .execute_proxy_tool → schemas = tool_schemas)
        ∧ Cleared schemas trace call)
    (hother : ∀ call ∈ calls, ∀ found ∈ executed, found.ref ≠ call.ref.target) :
    Ready tool_schemas calls (trace ++ [.executed path executed]) where
  governed := h.governed.executed hcleared
  cleared call hcall hdirect :=
    (h.cleared call hcall hdirect).snoc id (fun heq => by cases heq)
  untouched call hcall found hfound := by
    rcases mem_snoc hfound with hfound | rfl
    · exact h.untouched call hcall found hfound
    · rintro ⟨other, hmem, heq⟩
      exact hother call hcall other hmem heq

abbrev Serves (tool_schemas : List ToolSchema) (G : List ToolEvent → Prop) (call : GovernedCall)
    (rest : List GovernedCall) (before : List ToolEvent → Prop)
    (action : GovernedAction ToolExecutionResult) : Prop :=
  Ensures (Noted before) action
    (fun result => Noted (fun trace => result.tool_call_id = call.call.tool_call_id
      ∧ Ready tool_schemas rest trace ∧ G trace))
    (Noted (fun trace => Ready tool_schemas rest trace ∧ G trace))

theorem execute_direct_spec (host : ToolHost) (hplaced : Placed round (call :: rest))
    (hdirect : is_proxy_affordance call.call.name = false)
    (hG : ∀ trace event, G trace → event.Of round → G (trace ++ [event])) :
    Serves tool_schemas G call rest (fun trace => Ready tool_schemas (call :: rest) trace ∧ G trace)
      (Toolset.execute_tool host call) := by
  obtain ⟨hproxied, hround⟩ := hplaced.direct call mem_cons_self
  refine (execute_tool_spec (F := fun trace => Ready tool_schemas (call :: rest) trace ∧ G trace)
    host ?_).mono (fun _ h => h) (fun _ _ h => ⟨h.1, h.2.1.tail, h.2.2⟩)
    (fun _ h => ⟨h.1.tail, h.2⟩)
  rintro path trace hpath ⟨hready, hnoted⟩
  refine ⟨hready.executed ?_ ?_, hG _ _ hnoted ?_⟩
  · intro found hfound
    obtain rfl := mem_singleton.mp hfound
    refine ⟨⟨fun htrue => ?_, fun heq => absurd heq hpath⟩, tool_schemas, fun _ => rfl,
      hready.cleared found mem_cons_self hdirect⟩
    rw [hproxied] at htrue
    cases htrue
  · intro other _ found hfound heq
    obtain rfl := mem_singleton.mp hfound
    rw [heq] at hproxied
    cases hproxied
  · intro found hfound
    obtain rfl := mem_singleton.mp hfound
    exact hround

theorem Placed.target_ne (h : Placed round (call :: rest)) {other : GovernedCall}
    (hother : other ∈ rest) :
    other.ref ≠ call.ref.target ∧ other.ref.target ≠ call.ref.target := by
  obtain ⟨hproxied, _⟩ := h.direct call mem_cons_self
  obtain ⟨hproxied', _⟩ := h.direct other (mem_cons_of_mem _ hother)
  constructor
  · intro heq
    rw [heq] at hproxied'
    cases hproxied'
  · intro heq
    refine h.ne hother ?_
    obtain ⟨hround, hindex, _⟩ := CallRef.mk.inj heq
    exact CallRef.ext hround hindex (hproxied'.trans hproxied.symm)

def Unexecuted (ref : CallRef) (trace : List ToolEvent) : Prop :=
  ∀ path executed, .executed path executed ∈ trace → ∀ call ∈ executed, call.ref ≠ ref

abbrev Checking (tool_schemas : List ToolSchema) (G : List ToolEvent → Prop)
    (call : GovernedCall) (rest : List GovernedCall) (trace : List ToolEvent) : Prop :=
  (Ready tool_schemas rest trace ∧ G trace) ∧ Unexecuted call.ref.target trace

theorem checking_about (hplaced : Placed round (call :: rest))
    (hG : ∀ trace event, G trace → event.Of round → G (trace ++ [event]))
    (h : Checking tool_schemas G call rest trace) (habout : event.About call.ref.target) :
    Checking tool_schemas G call rest (trace ++ [event]) := by
  obtain ⟨⟨hready, hnoted⟩, hexecuted⟩ := h
  refine ⟨⟨hready.about habout hexecuted (fun other hother => hplaced.target_ne hother),
    hG _ _ hnoted ?_⟩, fun path executed hmem => ?_⟩
  · have hof := habout.of
    rw [show call.ref.target.round = round from (hplaced.direct call mem_cons_self).2] at hof
    exact hof
  · rcases mem_snoc hmem with hmem | hmem
    · exact hexecuted path executed hmem
    · rw [← hmem] at habout
      cases habout

section

variable (host : ToolHost) (hplaced : Placed round (call :: rest))
  (hG : ∀ trace event, G trace → event.Of round → G (trace ++ [event]))

include host hplaced hG

theorem execute_target_spec
    {target : GovernedCall} (htarget : target.ref = call.ref.target) (schemas : List ToolSchema) :
    Serves tool_schemas G call rest
      (fun trace => Checking tool_schemas G call rest trace
        ∧ (.validated target schemas none ∈ this_round trace ∧ .refused target.ref ∉ trace))
      (execute_target host call target) := by
  unfold execute_target
  refine Ensures.bind (((approve_spec (F := Checking tool_schemas G call rest)
    (fun trace event h habout => checking_about hplaced hG h (htarget ▸ habout)) host
    schemas)).breaks (fun _ h => h.1)) (fun approval => ?_)
  split
  · exact Ensures.pure (fun _ h => ⟨rfl, h.1.1⟩)
  · next happroved =>
    have happroved : approval.approved = true := by simpa using happroved
    refine Ensures.bind ((execute_proxy_tool_spec
      (F := fun trace => (Ready tool_schemas rest trace ∧ G trace)
        ∧ Cleared schemas trace target) host ?_).mono
      (fun _ h => ⟨h.1.1, h.2 happroved⟩) (fun _ _ h => h) (fun _ h => h.1)) (fun result => ?_)
    · rintro trace ⟨⟨hready, hnoted⟩, hcleared⟩
      refine ⟨⟨hready.executed ?_ ?_, hG _ _ hnoted ?_⟩,
        hcleared.snoc id (fun heq => by cases heq)⟩
      · intro found hfound
        obtain rfl := mem_singleton.mp hfound
        exact ⟨⟨fun _ => rfl, fun _ => by rw [htarget]; rfl⟩, schemas,
          fun hne => absurd rfl hne, hcleared⟩
      · intro other hother found hfound heq
        obtain rfl := mem_singleton.mp hfound
        exact (hplaced.target_ne hother).2 (heq.symm.trans htarget)
      · intro found hfound
        obtain rfl := mem_singleton.mp hfound
        rw [htarget]
        exact (hplaced.direct call mem_cons_self).2
    · split
      · exact Ensures.pure (fun _ h => ⟨rfl, h.2.1⟩)
      · exact Ensures.pure (fun _ h => ⟨rfl, h.2.1⟩)

theorem execute_call_tool_spec :
    Serves tool_schemas G call rest (fun trace => Ready tool_schemas (call :: rest) trace ∧ G trace)
      (execute_call_tool host call) := by
  have hfailed {message : String} : Serves tool_schemas G call rest
      (fun trace => Ready tool_schemas (call :: rest) trace ∧ G trace)
      (pure (failed call message)) :=
    Ensures.pure (fun _ h => ⟨rfl, h.1.tail, h.2⟩)
  unfold execute_call_tool
  split
  · next name arguments _ _ =>
    split
    · exact hfailed
    · refine Ensures.reading (fun state => ?_)
      refine Ensures.lifting (fun _ h => ⟨h.1.tail, h.2⟩) (fun schemas => ?_)
      split
      · exact hfailed
      · have habout : ∀ trace (event : ToolEvent), Checking tool_schemas G call rest trace →
            event.About (target_call call name arguments).ref →
            Checking tool_schemas G call rest (trace ++ [event]) :=
          fun trace event h habout => checking_about hplaced hG h habout
        refine Ensures.bind ((validate_spec habout host schemas).mono
          (fun state h => ⟨⟨⟨h.1.tail, h.2⟩, ?_⟩, ?_⟩) (fun _ _ h => h) (fun _ h => h.1))
          (fun error => ?_)
        · intro path executed hmem found hfound heq
          exact h.1.untouched call mem_cons_self _ hmem ⟨found, hfound, heq⟩
        · exact fun hmem => h.1.untouched call mem_cons_self _ hmem rfl
        · split
          · exact Ensures.pure (fun _ h => ⟨rfl, h.1.1⟩)
          · exact (execute_target_spec host hplaced hG rfl schemas).mono
              (fun _ h => ⟨h.1, h.2 rfl⟩) (fun _ _ h => h) (fun _ h => h)
  · exact hfailed
  · exact hfailed

theorem execute_one_governed :
    Serves tool_schemas G call rest (fun trace => Ready tool_schemas (call :: rest) trace ∧ G trace)
      (Toolset.execute_one host call) := by
  unfold Toolset.execute_one
  split
  · exact (execute_search_tools_spec host).requires (fun _ h => ⟨h.1.tail, h.2⟩)
  · next hsearch =>
    split
    · exact execute_call_tool_spec host hplaced hG
    · next hcall =>
      refine execute_direct_spec host hplaced ?_ hG
      unfold is_proxy_affordance
      rw [decide_eq_false]
      intro hmem
      rcases mem_cons.mp hmem with hmem | hmem
      · exact hsearch hmem
      · exact hcall (mem_singleton.mp hmem)

end

abbrev AnswerEach (calls : List GovernedCall) (results : List ToolExecutionResult) : Prop :=
  List.Forall₂ (fun call result => result.tool_call_id = call.call.tool_call_id) calls results

theorem error_results_each (calls : List GovernedCall) (message : String) :
    AnswerEach calls (error_results (calls.map (·.call)) message) := by
  unfold error_results
  induction calls with
  | nil => exact .nil
  | cons call rest ih => exact .cons rfl ih

theorem enveloped_each {raws : List RawToolResult} {results : List ToolExecutionResult}
    (hlength : raws.length = calls.length)
    (h : (calls.zip raws).mapM (fun (call, raw) => envelope_raw_result call.call raw)
      = .ok results) : AnswerEach calls results := by
  rw [mapM_eq_ok] at h
  induction calls generalizing raws results with
  | nil =>
    cases h
    exact .nil
  | cons call rest ih =>
    cases raws with
    | nil => cases hlength
    | cons raw raws =>
      cases h with
      | cons hfirst hrest =>
        exact .cons (envelope_id hfirst) (ih (Nat.succ.inj hlength) hrest)

theorem execute_batch_governed (host : ToolHost) (hplaced : Placed round calls)
    (hdirect : ∀ call ∈ calls, is_proxy_affordance call.call.name = false)
    (hG : ∀ trace event, G trace → event.Of round → G (trace ++ [event])) (hooks : List Nat) :
    Ensures (Noted (fun trace => Ready tool_schemas calls trace ∧ G trace))
      (Toolset.execute_batch host calls hooks)
      (fun batched => Noted (fun trace => (∀ results, batched = some results →
        AnswerEach calls results) ∧ Ready tool_schemas calls trace ∧ G trace))
      (Noted (fun trace => Governed tool_schemas trace ∧ G trace)) := by
  have herrors {message : String} : Ensures
      (Noted (fun trace => Ready tool_schemas calls trace ∧ G trace))
      (pure (some (error_results (calls.map (·.call)) message)) :
        GovernedAction (Option (List ToolExecutionResult)))
      (fun batched => Noted (fun trace => (∀ results, batched = some results →
        AnswerEach calls results) ∧ Ready tool_schemas calls trace ∧ G trace))
      (Noted (fun trace => Governed tool_schemas trace ∧ G trace)) :=
    Ensures.pure (fun _ h => ⟨fun results hresults => by
      rw [← Option.some.inj hresults]
      exact error_results_each calls message, h⟩)
  have hbroken (state : GovernedState)
      (h : Noted (fun trace => Ready tool_schemas calls trace ∧ G trace) state) :
      Noted (fun trace => Governed tool_schemas trace ∧ G trace) state := ⟨h.1.governed, h.2⟩
  induction hooks with
  | nil => exact Ensures.pure (fun _ h => ⟨fun _ hnone => (by cases hnone), h⟩)
  | cons hook rest ih =>
    unfold Toolset.execute_batch
    refine Ensures.bind (ensures_note (V := fun trace => Ready tool_schemas calls trace ∧ G trace)
      (fun trace h => ⟨h.1.executed ?_ ?_, hG _ _ h.2 ?_⟩)) (fun _ => ?_)
    · intro call hcall
      refine ⟨⟨fun htrue => ?_, fun heq => by cases heq⟩, tool_schemas, fun _ => rfl,
        h.1.cleared call hcall (hdirect call hcall)⟩
      rw [(hplaced.direct call hcall).1] at htrue
      cases htrue
    · intro call _ found hfound heq
      have hproxied := (hplaced.direct found hfound).1
      rw [heq] at hproxied
      cases hproxied
    · exact fun found hfound => (hplaced.direct found hfound).2
    · refine Ensures.bind (keeps_ask _).attempt (fun outcome => ?_)
      split
      · exact herrors
      · exact Ensures.raise hbroken
      · exact ih
      · exact herrors
      · split
        · exact Ensures.raise hbroken
        · next hlength =>
          refine Ensures.bind (Q := fun results => Noted (fun trace =>
            AnswerEach calls results ∧ Ready tool_schemas calls trace ∧ G trace))
            (Ensures.lift (fun results hresults _ h =>
              ⟨enveloped_each (not_not.mp hlength) hresults, h⟩) (fun _ _ => hbroken))
            (fun results => Ensures.pure (fun _ h =>
              ⟨fun other hother => by rw [← Option.some.inj hother]; exact h.1, h.2⟩))

theorem execute_tools_governed (host : ToolHost) (hplaced : Placed round calls)
    (hG : ∀ trace event, G trace → event.Of round → G (trace ++ [event])) :
    Ensures (Noted (fun trace => Ready tool_schemas calls trace ∧ G trace))
      (Toolset.execute_tools host calls)
      (fun results => Noted (fun trace => AnswerEach calls results
        ∧ Governed tool_schemas trace ∧ G trace))
      (Noted (fun trace => Governed tool_schemas trace ∧ G trace)) := by
  unfold Toolset.execute_tools
  refine Ensures.bind (Q := fun batched => Noted (fun trace => (∀ results, batched = some results →
    AnswerEach calls results) ∧ Ready tool_schemas calls trace ∧ G trace)) ?_ (fun batched => ?_)
  · unfold Toolset.try_batch
    split
    · next hbatch =>
      refine Ensures.reading (fun state => ?_)
      refine execute_batch_governed host hplaced (fun call hcall => ?_) hG _
      have hnone := hbatch.2
      rw [Bool.not_eq_true', any_eq_false] at hnone
      exact Bool.eq_false_iff.mpr (hnone call hcall)
    · exact Ensures.pure (fun _ h => ⟨fun _ hnone => (by cases hnone), h⟩)
  · split
    · exact Ensures.pure (fun _ h => ⟨h.1 _ rfl, h.2.1.governed, h.2.2⟩)
    · refine (Ensures.collect_from (I := fun done rest => Noted (fun trace =>
        ∃ executed, calls = executed ++ rest ∧ AnswerEach executed done ∧ Placed round rest
          ∧ Ready tool_schemas rest trace ∧ G trace)) (fun done call rest => ?_) []).mono
        (fun _ h => ⟨[], rfl, .nil, hplaced, h.2⟩) ?_ (fun _ h => h)
      · rintro state ⟨executed, hcalls, hdone, hrest, hready⟩
        refine (execute_one_governed host hrest hG).mono (fun _ h => h) ?_
          (fun _ h => ⟨h.1.governed, h.2⟩) state hready
        rintro result after ⟨hresult, hready⟩
        refine ⟨executed ++ [call], by rw [hcalls, append_assoc]; rfl, ?_, hrest.tail, hready⟩
        exact rel_append hdone (.cons hresult .nil)
      · rintro results state ⟨executed, hcalls, hdone, _, hready, hnoted⟩
        rw [append_nil] at hcalls
        rw [nil_append] at hdone
        exact ⟨hcalls ▸ hdone, hready.governed, hnoted⟩

end Ready

/-! ## Calls and answers -/

def called_keys (trace : List ToolEvent) : List (CallRef × String) :=
  trace.filterMap (fun event =>
    match event with
    | .called call => some (call.ref, call.call.tool_call_id)
    | _ => none)

def answered_keys (trace : List ToolEvent) : List (CallRef × String) :=
  trace.filterMap (fun event =>
    match event with
    | .answered ref tool_call_id => some (ref, tool_call_id)
    | _ => none)

def GovernedCall.key (call : GovernedCall) : CallRef × String := (call.ref, call.call.tool_call_id)

/-- Where the stage may break off: the calls are each in a place of their own, and each answer is
one of a call. -/
structure Accounted (trace : List ToolEvent) : Prop where
  distinct : ((called_keys trace).map Prod.fst).Nodup
  answered : (answered_keys trace).Subperm (called_keys trace)

/-- All calls but those waiting are answered, and all are of rounds before the bound. -/
structure Waiting (bound : Nat) (waiting : List (CallRef × String)) (trace : List ToolEvent) :
    Prop where
  distinct : ((called_keys trace).map Prod.fst).Nodup
  account : (answered_keys trace ++ waiting).Perm (called_keys trace)
  called : ∀ key ∈ called_keys trace, key.1.round < bound
  concerned : ∀ event ∈ trace, ∀ ref, event.Concerns ref → ref.round < bound

theorem Waiting.accounted {bound : Nat} {waiting : List (CallRef × String)}
    {trace : List ToolEvent} (h : Waiting bound waiting trace) : Accounted trace :=
  ⟨h.distinct, (sublist_append_left _ _).subperm.trans h.account.subperm⟩

theorem Waiting.nil : Waiting 0 [] [] :=
  ⟨nodup_nil, .nil, (fun _ h => by cases h), (fun _ h => by cases h)⟩

section Waiting

variable {bound : Nat} {waiting rest : List (CallRef × String)} {trace : List ToolEvent}
  {event : ToolEvent} {key : CallRef × String}

theorem called_keys_snoc (trace : List ToolEvent) (event : ToolEvent) :
    called_keys (trace ++ [event]) = called_keys trace ++ called_keys [event] :=
  filterMap_append

theorem answered_keys_snoc (trace : List ToolEvent) (event : ToolEvent) :
    answered_keys (trace ++ [event]) = answered_keys trace ++ answered_keys [event] :=
  filterMap_append

theorem Waiting.of (h : Waiting bound waiting trace) {round : Nat} (hof : event.Of round)
    (hround : round < bound) : Waiting bound waiting (trace ++ [event]) := by
  have hcalled : called_keys (trace ++ [event]) = called_keys trace := by
    rw [called_keys_snoc]
    cases event with
    | called call => cases hof
    | _ => exact append_nil _
  have hanswered : answered_keys (trace ++ [event]) = answered_keys trace := by
    rw [answered_keys_snoc]
    cases event with
    | answered ref tool_call_id => cases hof
    | _ => exact append_nil _
  refine ⟨hcalled ▸ h.distinct, ?_, hcalled ▸ h.called, fun found hfound ref hconcerns => ?_⟩
  · rw [hcalled, hanswered]
    exact h.account
  · rcases mem_snoc hfound with hfound | rfl
    · exact h.concerned found hfound ref hconcerns
    · cases found with
      | refused place =>
        obtain rfl : place = ref := hconcerns
        exact lt_of_eq_of_lt hof hround
      | executed path calls =>
        obtain ⟨call, hcall, rfl⟩ := hconcerns
        exact lt_of_eq_of_lt (hof call hcall) hround
      | _ => cases hconcerns

theorem Waiting.call {call : GovernedCall} (h : Waiting bound waiting trace)
    (hround : call.ref.round < bound) (hnew : call.ref ∉ (called_keys trace).map Prod.fst) :
    Waiting bound (waiting ++ [call.key]) (trace ++ [.called call]) := by
  have hcalled : called_keys (trace ++ [.called call]) = called_keys trace ++ [call.key] :=
    called_keys_snoc _ _
  have hanswered : answered_keys (trace ++ [.called call]) = answered_keys trace := by
    rw [answered_keys_snoc]
    exact append_nil _
  refine ⟨?_, ?_, ?_, ?_⟩
  · rw [hcalled, map_append]
    refine nodup_append.mpr ⟨h.distinct, nodup_singleton _, ?_⟩
    rintro ref href found hfound rfl
    rw [map_singleton, mem_singleton] at hfound
    rw [hfound] at href
    exact hnew href
  · rw [hcalled, hanswered, ← append_assoc]
    exact h.account.append_right _
  · intro key hkey
    rw [hcalled] at hkey
    rcases mem_snoc hkey with hkey | hkey
    · exact h.called key hkey
    · rw [hkey]
      exact hround
  · intro found hfound ref hconcerns
    rcases mem_snoc hfound with hfound | hfound
    · exact h.concerned found hfound ref hconcerns
    · rw [hfound] at hconcerns
      cases hconcerns

theorem Waiting.answer (h : Waiting bound (key :: rest) trace) :
    Waiting bound rest (trace ++ [.answered key.1 key.2]) := by
  have hcalled : called_keys (trace ++ [.answered key.1 key.2]) = called_keys trace := by
    rw [called_keys_snoc]
    exact append_nil _
  have hanswered : answered_keys (trace ++ [.answered key.1 key.2])
      = answered_keys trace ++ [key] := answered_keys_snoc _ _
  refine ⟨hcalled ▸ h.distinct, ?_, hcalled ▸ h.called, fun found hfound ref hconcerns => ?_⟩
  · rw [hcalled, hanswered, append_assoc]
    exact h.account
  · rcases mem_snoc hfound with hfound | hfound
    · exact h.concerned found hfound ref hconcerns
    · rw [hfound] at hconcerns
      cases hconcerns

theorem Waiting.perm {waiting' : List (CallRef × String)} (h : Waiting bound waiting trace)
    (hperm : waiting.Perm waiting') : Waiting bound waiting' trace :=
  ⟨h.distinct, (hperm.symm.append_left _).trans h.account, h.called, h.concerned⟩

theorem Waiting.later {later : Nat} (h : Waiting bound waiting trace) (hlater : bound ≤ later) :
    Waiting later waiting trace :=
  ⟨h.distinct, h.account, fun key hkey => Nat.lt_of_lt_of_le (h.called key hkey) hlater,
    fun event hevent ref hconcerns =>
      Nat.lt_of_lt_of_le (h.concerned event hevent ref hconcerns) hlater⟩

end Waiting

/-! ## The stage -/

/-- While the calls of a response are offered: those accepted so far may be executed, and of
those to come nothing has been noted. -/
structure Offering (tool_schemas : List ToolSchema) (round : Nat)
    (offered : List (Option GovernedCall)) (rest : List GovernedCall) (trace : List ToolEvent) :
    Prop where
  placed : Placed round (offered.reduceOption ++ rest)
  ready : Ready tool_schemas offered.reduceOption trace
  fresh : ∀ call ∈ rest, (∀ event ∈ trace,
      ¬ event.Concerns call.ref ∧ ¬ event.Concerns call.ref.target)
    ∧ call.ref ∉ (called_keys trace).map Prod.fst
  waiting : Waiting (round + 1) (offered.reduceOption.map GovernedCall.key) trace

/-- What stays while one of the calls is checked. -/
structure OfferingOne (tool_schemas : List ToolSchema) (round : Nat)
    (accepted : List GovernedCall) (call : GovernedCall) (rest : List GovernedCall)
    (trace : List ToolEvent) : Prop where
  ready : Ready tool_schemas accepted trace
  unexecuted : Unexecuted call.ref trace
  untouched : ∀ event ∈ trace, ¬ event.Concerns call.ref.target
  fresh : ∀ call ∈ rest, (∀ event ∈ trace,
      ¬ event.Concerns call.ref ∧ ¬ event.Concerns call.ref.target)
    ∧ call.ref ∉ (called_keys trace).map Prod.fst
  waiting : Waiting (round + 1) (accepted.map GovernedCall.key ++ [call.key]) trace

abbrev Kept (tool_schemas : List ToolSchema) (trace : List ToolEvent) : Prop :=
  Governed tool_schemas trace ∧ Accounted trace

section Offering

variable {tool_schemas : List ToolSchema} {round : Nat} {offered : List (Option GovernedCall)}
  {accepted rest : List GovernedCall} {call : GovernedCall} {trace : List ToolEvent}
  {event : ToolEvent}

theorem Offering.kept (h : Offering tool_schemas round offered rest trace) :
    Kept tool_schemas trace := ⟨h.ready.governed, h.waiting.accounted⟩

theorem OfferingOne.kept (h : OfferingOne tool_schemas round accepted call rest trace) :
    Kept tool_schemas trace := ⟨h.ready.governed, h.waiting.accounted⟩

theorem Placed.around (h : Placed round (accepted ++ call :: rest)) :
    (∀ other ∈ accepted, other.ref ≠ call.ref ∧ other.ref.proxied = false)
      ∧ (∀ other ∈ rest, other.ref ≠ call.ref ∧ other.ref.proxied = false)
      ∧ call.ref.proxied = false ∧ call.ref.round = round := by
  have hnodup := h.distinct
  rw [map_append, map_cons, nodup_append] at hnodup
  obtain ⟨_, hrest, hdisjoint⟩ := hnodup
  have hdirect (other : GovernedCall) (hother : other ∈ accepted ++ call :: rest) :=
    (h.direct other hother).1
  refine ⟨fun other hother => ⟨?_, hdirect other (mem_append_left _ hother)⟩,
    fun other hother => ⟨fun heq => ?_,
      hdirect other (mem_append_right _ (mem_cons_of_mem _ hother))⟩,
    hdirect call (mem_append_right _ mem_cons_self),
    (h.direct call (mem_append_right _ mem_cons_self)).2⟩
  · exact hdisjoint other.ref (mem_map_of_mem hother) call.ref mem_cons_self
  · refine (nodup_cons.mp hrest).1 ?_
    rw [← heq]
    exact mem_map_of_mem hother

theorem mem_snoc_concerns {ref : CallRef} (h : ∀ event ∈ trace, ¬ event.Concerns ref)
    (hevent : ¬ event.Concerns ref) : ∀ found ∈ trace ++ [event], ¬ found.Concerns ref := by
  intro found hfound
  rcases mem_snoc hfound with hfound | hfound
  · exact h found hfound
  · rw [hfound]
    exact hevent

theorem ToolEvent.About.not_concerns {ref other : CallRef} (h : event.About ref)
    (hne : other ≠ ref) : ¬ event.Concerns other := by
  intro hconcerns
  cases event with
  | refused place => exact hne (hconcerns.symm.trans h)
  | executed path calls => exact h
  | _ => exact hconcerns

theorem called_keys_about {ref : CallRef} (h : event.About ref) :
    called_keys (trace ++ [event]) = called_keys trace := by
  rw [called_keys_snoc]
  cases event with
  | called call => cases h
  | _ => exact append_nil _

theorem OfferingOne.about (hplaced : Placed round (accepted ++ call :: rest))
    (h : OfferingOne tool_schemas round accepted call rest trace) (habout : event.About call.ref) :
    OfferingOne tool_schemas round accepted call rest (trace ++ [event]) := by
  obtain ⟨haccepted, hrest, hproxied, hround⟩ := hplaced.around
  have htarget {other : CallRef} : other.target ≠ call.ref := by
    intro heq
    rw [← heq] at hproxied
    cases hproxied
  constructor
  · exact h.ready.about habout h.unexecuted (fun other hother =>
      ⟨(haccepted other hother).1, htarget⟩)
  · intro path executed hmem
    rcases mem_snoc hmem with hmem | hmem
    · exact h.unexecuted path executed hmem
    · rw [← hmem] at habout
      cases habout
  · exact mem_snoc_concerns h.untouched (habout.not_concerns htarget)
  · intro other hother
    obtain ⟨hconcerns, hcalled⟩ := h.fresh other hother
    rw [called_keys_about habout]
    refine ⟨fun found hfound => ⟨?_, ?_⟩, hcalled⟩
    · exact mem_snoc_concerns (fun event hevent => (hconcerns event hevent).1)
        (habout.not_concerns (hrest other hother).1) found hfound
    · exact mem_snoc_concerns (fun event hevent => (hconcerns event hevent).2)
        (habout.not_concerns htarget) found hfound
  · have hof : event.Of round := hround ▸ habout.of
    exact h.waiting.of hof (Nat.lt_succ_self _)

theorem Ready.neutral (h : Ready tool_schemas accepted trace) (hstarts : ¬ event.Starts)
    (hconcerns : ∀ ref, ¬ event.Concerns ref) (hexecuted : ∀ path calls, event ≠ .executed path calls) :
    Ready tool_schemas accepted (trace ++ [event]) where
  governed := h.governed.snoc hexecuted (fun ref heq => absurd (heq ▸ rfl) (hconcerns ref))
  cleared call hcall hdirect := (h.cleared call hcall hdirect).snoc hstarts
    (fun heq => hconcerns call.ref (heq ▸ rfl))
  untouched call hcall := mem_snoc_concerns (h.untouched call hcall) (hconcerns _)

theorem Offering.call_made (h : Offering tool_schemas round offered (call :: rest) trace) :
    OfferingOne tool_schemas round offered.reduceOption call rest (trace ++ [.called call]) := by
  obtain ⟨_, hrest, _, hround⟩ := h.placed.around
  obtain ⟨hconcerns, hcalled⟩ := h.fresh call mem_cons_self
  have hneutral (ref : CallRef) : ¬ (ToolEvent.called call).Concerns ref := id
  constructor
  · exact h.ready.neutral id hneutral (fun _ _ heq => by cases heq)
  · intro path executed hmem found hfound heq
    rcases mem_snoc hmem with hmem | hmem
    · exact (hconcerns _ hmem).1 ⟨found, hfound, heq⟩
    · cases hmem
  · exact mem_snoc_concerns (fun event hevent => (hconcerns event hevent).2) (hneutral _)
  · intro other hother
    obtain ⟨hbefore, hnew⟩ := h.fresh other (mem_cons_of_mem _ hother)
    refine ⟨fun found hfound => ⟨?_, ?_⟩, ?_⟩
    · exact mem_snoc_concerns (fun event hevent => (hbefore event hevent).1) (hneutral _) found hfound
    · exact mem_snoc_concerns (fun event hevent => (hbefore event hevent).2) (hneutral _) found hfound
    · rw [called_keys_snoc, map_append, mem_append]
      rintro (hmem | hmem)
      · exact hnew hmem
      · exact (hrest other hother).1 (mem_singleton.mp hmem)
  · exact h.waiting.call (by omega) hcalled

section

variable (hplaced : Placed round (offered.reduceOption ++ call :: rest))
  (h : OfferingOne tool_schemas round offered.reduceOption call rest trace)

include hplaced h

theorem OfferingOne.reject :
    Offering tool_schemas round (offered ++ [none]) rest
      (trace ++ [.answered call.ref call.call.tool_call_id]) := by
  have hsame : (offered ++ [none]).reduceOption = offered.reduceOption := by
    rw [reduceOption_append]
    exact append_nil _
  have hneutral (ref : CallRef) :
      ¬ (ToolEvent.answered call.ref call.call.tool_call_id).Concerns ref := id
  constructor
  · rw [hsame]
    refine ⟨fun other hother => hplaced.direct other ?_, ?_⟩
    · exact (List.Sublist.append_left (sublist_cons_self _ _) _).subset hother
    · exact (List.Sublist.map _ (List.Sublist.append_left (sublist_cons_self _ _) _)).nodup
        hplaced.distinct
  · rw [hsame]
    exact h.ready.neutral id hneutral (fun _ _ heq => by cases heq)
  · intro other hother
    obtain ⟨hbefore, hnew⟩ := h.fresh other hother
    refine ⟨fun found hfound => ⟨?_, ?_⟩, ?_⟩
    · exact mem_snoc_concerns (fun event hevent => (hbefore event hevent).1) (hneutral _) found hfound
    · exact mem_snoc_concerns (fun event hevent => (hbefore event hevent).2) (hneutral _) found hfound
    · rw [called_keys_snoc]
      exact (append_nil (called_keys trace)).symm ▸ hnew
  · rw [hsame]
    exact (h.waiting.perm perm_append_comm).answer

theorem OfferingOne.accept
    (hcleared : is_proxy_affordance call.call.name = false → Cleared tool_schemas trace call) :
    Offering tool_schemas round (offered ++ [some call]) rest trace := by
  have hmore : (offered ++ [some call]).reduceOption = offered.reduceOption ++ [call] := by
    rw [reduceOption_append]
    rfl
  constructor
  · rw [hmore, append_assoc]
    exact hplaced
  · rw [hmore]
    refine ⟨h.ready.governed, fun other hother => ?_, fun other hother => ?_⟩
    · rcases mem_snoc hother with hother | hother
      · exact h.ready.cleared other hother
      · rw [hother]
        exact hcleared
    · rcases mem_snoc hother with hother | hother
      · exact h.ready.untouched other hother
      · rw [hother]
        exact h.untouched
  · exact h.fresh
  · rw [hmore, map_append]
    exact h.waiting

end

theorem govern_call_spec (host : ToolHost) (response : Response) (inputs : CallInputs) :
    Ensures (Noted (Offering tool_schemas round offered (call :: rest)))
      (govern_call host tool_schemas response inputs call)
      (fun accepted => Noted (Offering tool_schemas round (offered ++ [accepted]) rest))
      (Noted (Kept tool_schemas)) := by
  intro state hstate
  have hplaced := hstate.placed
  have habout (trace : List ToolEvent) (event : ToolEvent)
      (h : OfferingOne tool_schemas round offered.reduceOption call rest trace)
      (hevent : event.About call.ref) :
      OfferingOne tool_schemas round offered.reduceOption call rest (trace ++ [event]) :=
    h.about hplaced hevent
  have hrejected (message : String) :
      Ensures (Noted (OfferingOne tool_schemas round offered.reduceOption call rest))
        (answer_rejected inputs call message)
        (fun accepted => Noted (Offering tool_schemas round (offered ++ [accepted]) rest))
        (Noted (Kept tool_schemas)) := by
    unfold answer_rejected
    refine Ensures.bind (Q := fun _ =>
      Noted (OfferingOne tool_schemas round offered.reduceOption call rest))
      ((keeps_on_turn _).breaks (fun _ h => h.kept)) (fun _ => ?_)
    refine Ensures.bind (ensures_note (V := Offering tool_schemas round (offered ++ [none]) rest)
      (fun trace h => h.reject hplaced)) (fun _ => ?_)
    exact Ensures.lifting (fun _ h => h.kept) (fun _ => Ensures.pure (fun _ h => h))
  have hbroken (state : GovernedState)
      (h : Noted (OfferingOne tool_schemas round offered.reduceOption call rest) state) :
      Noted (Kept tool_schemas) state := h.kept
  unfold govern_call
  refine (Ensures.bind (Q := fun _ => Noted (Offering tool_schemas round offered (call :: rest)))
    ((keeps_on_turn _).breaks (fun _ h => h.kept)) (fun _ => ?_))
    state hstate
  refine Ensures.bind (ensures_note (V := fun trace =>
    OfferingOne tool_schemas round offered.reduceOption call rest trace
      ∧ .refused call.ref ∉ trace) (fun trace h => ⟨h.call_made, fun hmem => ?_⟩)) (fun _ => ?_)
  · rcases mem_snoc hmem with hmem | hmem
    · exact ((h.fresh call mem_cons_self).1 _ hmem).1 rfl
    · cases hmem
  refine Ensures.bind ((validate_spec habout host tool_schemas).breaks hbroken) (fun error => ?_)
  split
  · exact (hrejected _).requires (fun _ h => h.1)
  · split
    · next hproxy =>
      refine Ensures.pure (fun _ h => h.1.accept hplaced (fun hdirect => ?_))
      rw [hproxy] at hdirect
      cases hdirect
    · refine Ensures.bind ((approve_spec habout host tool_schemas).mono
        (fun _ h => ⟨h.1, h.2 rfl⟩) (fun _ _ h => h) hbroken) (fun approval => ?_)
      split
      · next happroved =>
        exact Ensures.pure (fun _ h => h.1.accept hplaced (fun _ => h.2 happroved))
      · exact (hrejected _).requires (fun _ h => h.1)

theorem offer_spec (host : ToolHost) (response : Response) (inputs : Nat → CallInputs)
    (calls : List GovernedCall) :
    Ensures (Noted (Offering tool_schemas round [] calls))
      (Action.collect calls (fun call =>
        govern_call host tool_schemas response (inputs call.ref.index) call))
      (fun offered => Noted (Offering tool_schemas round offered []))
      (Noted (Kept tool_schemas)) :=
  Ensures.collect_from (I := fun offered rest => Noted (Offering tool_schemas round offered rest))
    (fun _ call _ => govern_call_spec host response (inputs call.ref.index)) []

end Offering

section Rounds

variable {tool_schemas : List ToolSchema} {round : Nat}

abbrev Between (tool_schemas : List ToolSchema) (round : Nat) (trace : List ToolEvent) : Prop :=
  Governed tool_schemas trace ∧ Waiting round [] trace

variable {trace : List ToolEvent}

theorem Between.kept (h : Between tool_schemas round trace) :
    Kept tool_schemas trace := ⟨h.1, h.2.accounted⟩

/-- What is waited for while the results of executed calls are recorded. -/
abbrev item_key (item : (GovernedCall × ToolExecutionResult) × Nat) : CallRef × String :=
  (item.1.1.ref, item.1.2.tool_call_id)

theorem answer_executed_spec (text : JsonText) (inputs : RoundInputs)
    (item : (GovernedCall × ToolExecutionResult) × Nat)
    (rest : List ((GovernedCall × ToolExecutionResult) × Nat)) :
    Ensures (Noted (fun trace => Governed tool_schemas trace
        ∧ Waiting round ((item :: rest).map item_key) trace))
      (answer_executed text inputs item)
      (fun _ => Noted (fun trace => Governed tool_schemas trace
        ∧ Waiting round (rest.map item_key) trace))
      (Noted (Kept tool_schemas)) := by
  have hbroken {waiting : List (CallRef × String)} (state : GovernedState)
      (h : Noted (fun trace => Governed tool_schemas trace ∧ Waiting round waiting trace) state) :
      Noted (Kept tool_schemas) state := ⟨h.1, h.2.accounted⟩
  unfold answer_executed
  refine Ensures.reading (fun state => ?_)
  refine Ensures.bind ((keeps_on_turn _).breaks hbroken)
    (fun _ => ?_)
  refine Ensures.bind (ensures_note (V := fun trace => Governed tool_schemas trace
    ∧ Waiting round (rest.map item_key) trace) (fun trace h => ⟨?_, h.2.answer⟩)) (fun _ => ?_)
  · exact h.1.snoc (fun _ _ heq => by cases heq) (fun _ heq => by cases heq)
  · exact Ensures.lift (fun _ _ _ h => h) (fun _ _ => hbroken)

theorem map_item_key {calls : List GovernedCall} {results : List ToolExecutionResult}
    (h : AnswerEach calls results) :
    ((calls.zip results).zipIdx).map item_key = calls.map GovernedCall.key := by
  have hzip : (calls.zip results).map (fun pair => (pair.1.ref, pair.2.tool_call_id))
      = calls.map GovernedCall.key := by
    induction h with
    | nil => rfl
    | cons hfirst _ ih =>
      rw [zip_cons_cons, map_cons, map_cons, ih, hfirst]
      rfl
  have hfst : ((calls.zip results).zipIdx).map item_key
      = (((calls.zip results).zipIdx).map Prod.fst).map
        (fun pair => (pair.1.ref, pair.2.tool_call_id)) := by
    rw [map_map]
    rfl
  rw [hfst, zipIdx_map_fst, hzip]

theorem execute_governed_spec (text : JsonText) (host : ToolHost) (inputs : RoundInputs)
    {calls : List GovernedCall} (hplaced : Placed round calls) :
    Ensures (Noted (fun trace => Ready tool_schemas calls trace
        ∧ Waiting (round + 1) (calls.map GovernedCall.key) trace))
      (execute_governed text host inputs calls)
      (fun _ => Noted (Between tool_schemas (round + 1))) (Noted (Kept tool_schemas)) := by
  unfold execute_governed
  refine Ensures.lifting (fun _ h => ⟨h.1.governed, h.2.accounted⟩) (fun _ => ?_)
  refine Ensures.reading (fun state => ?_)
  refine Ensures.bind ((execute_tools_governed host hplaced
    (fun trace event h hof => h.of hof (Nat.lt_succ_self round))).breaks
    (fun _ h => ⟨h.1, h.2.accounted⟩)) (fun results => ?_)
  refine Ensures.bind (Q := fun _ => Noted (Between tool_schemas (round + 1))) ?_
    (fun _ => Ensures.pure (fun _ h => h))
  exact (Ensures.each_from (I := fun items => Noted (fun trace => Governed tool_schemas trace
      ∧ Waiting (round + 1) (items.map item_key) trace))
    (fun item rest => answer_executed_spec text inputs item rest)).mono
    (fun _ h => ⟨h.2.1, (map_item_key h.1).symm ▸ h.2.2⟩) (fun _ _ h => h) (fun _ h => h)

theorem offering_of_between (h : Between tool_schemas round trace) (response : Response) :
    Offering tool_schemas round [] (governed_calls round response) trace := by
  have hround (call : GovernedCall) (hcall : call ∈ governed_calls round response) :
      call.ref.proxied = false ∧ call.ref.round = round := by
    obtain ⟨item, _, rfl⟩ := mem_map.mp hcall
    exact ⟨rfl, rfl⟩
  have hearlier {ref : CallRef} (href : ref.round = round) :
      ∀ event ∈ trace, ¬ event.Concerns ref := by
    intro event hevent hconcerns
    have hlt : ref.round < round := h.2.concerned event hevent ref hconcerns
    omega
  constructor
  · refine ⟨hround, ?_⟩
    have hindex : (governed_calls round response).map (·.ref)
        = (response.tool_calls.zipIdx.map Prod.snd).map (fun index => { round, index }) := by
      unfold governed_calls
      rw [map_map, map_map]
      rfl
    show ((governed_calls round response).map (·.ref)).Nodup
    rw [hindex, zipIdx_map_snd]
    exact (nodup_range' _).map (fun i j hij => (CallRef.mk.inj hij).2.1)
  · exact ⟨h.1, (fun _ hcall => by cases hcall), (fun _ hcall => by cases hcall)⟩
  · intro call hcall
    have htarget : call.ref.target.round = round := (hround call hcall).2
    refine ⟨fun event hevent => ⟨hearlier (hround call hcall).2 event hevent,
      hearlier htarget event hevent⟩, fun hmem => ?_⟩
    obtain ⟨key, hkey, href⟩ := mem_map.mp hmem
    have hlt : key.1.round < round := h.2.called key hkey
    have hround := (hround call hcall).2
    rw [← href] at hround
    omega
  · exact h.2.later (Nat.le_succ round)

theorem govern_tool_calls_spec (text : JsonText) (host : ToolHost) (inputs : RoundInputs)
    (response : Response) :
    Ensures (Noted (Between tool_schemas round))
      (govern_tool_calls text host tool_schemas inputs round response)
      (fun _ => Noted (Between tool_schemas (round + 1))) (Noted (Kept tool_schemas)) := by
  have hturn {α : Type} {later : Nat} (action : TurnAction α) :
      Ensures (Noted (Between tool_schemas later)) (GovernedAction.on_turn action)
        (fun _ => Noted (Between tool_schemas later)) (Noted (Kept tool_schemas)) :=
    (keeps_on_turn action).breaks (fun _ h => h.kept)
  unfold govern_tool_calls
  refine Ensures.bind (hturn _) (fun _ => ?_)
  refine Ensures.bind ((offer_spec host response inputs.calls (governed_calls round response)).mono
    (fun _ h => offering_of_between h response) (fun _ _ h => h) (fun _ h => h)) (fun offered => ?_)
  dsimp only
  split
  · next hnone =>
    refine (hturn _).requires (fun state h => ⟨h.ready.governed, ?_⟩)
    have hwaiting := h.waiting
    rw [hnone] at hwaiting
    exact hwaiting
  · intro state hstate
    have hplaced : Placed round offered.reduceOption := by
      have hplaced := hstate.placed
      rwa [append_nil] at hplaced
    exact Ensures.bind ((execute_governed_spec text host inputs hplaced).mono (fun _ h => h)
      (fun _ _ h => h) (fun _ h => h)) (fun _ => hturn _) state ⟨hstate.ready, hstate.waiting⟩

theorem this_round_started (trace : List ToolEvent) (round : Nat) :
    this_round (trace ++ [.round_started round]) = [] := by
  unfold this_round
  rw [foldl_append]
  rfl

theorem between_started (h : Between tool_schemas round trace) :
    Between tool_schemas round (trace ++ [.round_started round]) := by
  refine ⟨h.1.snoc (fun _ _ heq => by cases heq) (fun _ heq => by cases heq), ?_⟩
  have hcalled : called_keys (trace ++ [.round_started round]) = called_keys trace := by
    rw [called_keys_snoc]
    exact append_nil _
  have hanswered : answered_keys (trace ++ [.round_started round]) = answered_keys trace := by
    rw [answered_keys_snoc]
    exact append_nil _
  refine ⟨hcalled ▸ h.2.distinct, ?_, hcalled ▸ h.2.called, ?_⟩
  · rw [hcalled, hanswered]
    exact h.2.account
  · intro event hevent ref hconcerns
    rcases mem_snoc hevent with hevent | hevent
    · exact h.2.concerned event hevent ref hconcerns
    · rw [hevent] at hconcerns
      cases hconcerns

theorem govern_round_spec (text : JsonText) (host : ToolHost) (inputs : RoundInputs) :
    Ensures (Noted (Between tool_schemas round))
      (govern_round text host tool_schemas inputs round)
      (fun _ => Noted (Between tool_schemas (round + 1))) (Noted (Kept tool_schemas)) := by
  have hlater (state : GovernedState) (h : Noted (Between tool_schemas round) state) :
      Noted (Between tool_schemas (round + 1)) state := ⟨h.1, h.2.later (Nat.le_succ round)⟩
  unfold govern_round
  refine Ensures.bind (ensures_note (fun trace h => between_started h)) (fun _ => ?_)
  refine Ensures.bind ((keeps_on_turn _).breaks (fun _ h => h.kept)) (fun response => ?_)
  split
  · exact Ensures.bind (govern_tool_calls_spec text host inputs response)
      (fun _ => Ensures.pure (fun _ h => h))
  · refine Ensures.bind ((keeps_on_turn (F := Between tool_schemas round) _).mono (fun _ h => h)
      (fun _ => hlater) (fun _ h => h.kept)) (fun _ => Ensures.pure (fun _ h => h))

theorem govern_rounds_spec (text : JsonText) (host : ToolHost) (rounds : Nat → RoundInputs) :
    ∀ remaining round, Ensures (Noted (Between tool_schemas round))
      (govern_rounds text host tool_schemas rounds remaining round)
      (fun _ => Noted (fun trace => ∃ last, Between tool_schemas last trace))
      (Noted (Kept tool_schemas))
  | 0, round => Ensures.pure (fun _ h => ⟨round, h⟩)
  | remaining + 1, round => by
      unfold govern_rounds
      refine Ensures.bind (govern_round_spec text host (rounds round)) (fun more => ?_)
      exact Ensures.when (fun _ => govern_rounds_spec text host rounds remaining (round + 1))
        (fun _ h => ⟨_, h⟩)

end Rounds

/-- In every run of the stage, whatever is registered: each call that is executed was validated
and approved in its round, and nothing that was refused is executed; each answer is one of a call
of the model, and a run that returns has answered each call once. -/
theorem tool_calls_governed (text : JsonText) (host : ToolHost) (tool_schemas : List ToolSchema)
    (rounds : Nat → RoundInputs) (turn : TurnState) :
    let run := govern_run_model text host tool_schemas rounds { turn }
    Governed tool_schemas run.2.trace
      ∧ ((called_keys run.2.trace).map Prod.fst).Nodup
      ∧ (answered_keys run.2.trace).Subperm (called_keys run.2.trace)
      ∧ (run.1 = .ok () → (answered_keys run.2.trace).Perm (called_keys run.2.trace)) := by
  have hstart : Noted (Between tool_schemas 0) { turn } := ⟨governed_nil, Waiting.nil⟩
  have hrun : Ensures (Noted (Between tool_schemas 0))
      (govern_run_model text host tool_schemas rounds)
      (fun _ => Noted (fun trace => ∃ last, Between tool_schemas last trace))
      (Noted (Kept tool_schemas)) := by
    unfold govern_run_model
    refine Ensures.reading (fun state => ?_)
    exact Ensures.when (fun _ => govern_rounds_spec text host rounds _ 0) (fun _ h => ⟨0, h⟩)
  obtain ⟨hok, herror⟩ := hrun _ hstart
  intro run
  cases houtcome : run.1 with
  | error error =>
    obtain ⟨hgoverned, haccounted⟩ := herror error houtcome
    exact ⟨hgoverned, haccounted.distinct, haccounted.answered, fun h => by cases h⟩
  | ok returned =>
    obtain ⟨last, hgoverned, hwaiting⟩ := hok returned houtcome
    refine ⟨hgoverned, hwaiting.distinct, hwaiting.accounted.answered, fun _ => ?_⟩
    have haccount := hwaiting.account
    rwa [append_nil] at haccount

/-! ## A call without an answer -/

/-- No hooks, and a host's executor whose failure is fatal. -/
def fatal_host : ToolHost where
  str _ := ""
  casefold text := text
  approval_hooks _ := .ok 0
  approve_tool_call _ _ _ := { outcome := .ok .unanswered }
  directive_executor := none
  batch_hooks _ := 0
  execute_tools_batch _ _ _ := { outcome := .ok .unhandled }
  host_executor := some (fun _ _ => { outcome := .error (.FatalToolExecutionError "disk is gone") })
  tool_hooks _ := 0
  execute_tool _ _ _ := { outcome := .ok .unhandled }
  proxy_hooks _ := 0
  execute_proxy_tool _ _ _ := { outcome := .ok .unhandled }
  get_proxy_tools _ := .ok []

def any_stamp : EntryStamp := { id := "entry", timestamp := 0 }

def one_call_round : RoundInputs where
  events := [.tool_call { tool_call_id := "call-1", name := "file_read", arguments := [] }, .done]
  text_stamp := any_stamp
  calls _ := { call_stamp := any_stamp, rejection_stamp := any_stamp }
  result_stamps _ := any_stamp

def provided_turn : TurnState := { ctx := { tape := { tape_id := "tape-1" }, llm_provider := true } }

/-- A fatal failure ends the stage: the call has no result. -/
theorem fatal_call_unanswered :
    let run := govern_run_model { dumps := fun _ => "", str := fun _ => "" } fatal_host []
      (fun _ => one_call_round) { turn := provided_turn }
    run.1 = .error (.FatalToolExecutionError "disk is gone")
      ∧ called_keys run.2.trace = [({ round := 0, index := 0 }, "call-1")]
      ∧ answered_keys run.2.trace = [] :=
  ⟨rfl, rfl, rfl⟩

end CodingAgentLoop
