/-
When a sub-agent is granted no more than its parent.

The theorem is `child_grants_contained`. One half follows the trace of a child's stage: what is
executed was decided in its favour (`GovernedTrace`), and what is decided so was granted by the
child's plugin and consumer (`approve_granted`, carried through the stage by `stage_decided`).

The other half compares the two sets of layers call by call. Each is a small formula
(`grants_built`), in the blocked tools, the policy and the reply, and the child's differs from the
parent's in all three.
-/
import CodingAgentLoop.ChildApproval

namespace CodingAgentLoop.ChildApproval

open Lib GovernedAction List Preserves Toolset

/-! ## What is decided is granted -/

/-- Every decision in favour of a call is one that `P` bears out. -/
def Decided (P : GovernedCall → Prop) (trace : List ToolEvent) : Prop :=
  ∀ call, .decided call true ∈ trace → P call

section Decisions

variable {P : GovernedCall → Prop}

theorem Decided.snoc {trace : List ToolEvent} {event : ToolEvent} (h : Decided P trace)
    (hevent : ∀ call, event = .decided call true → P call) : Decided P (trace ++ [event]) := by
  intro call hmem
  rcases mem_snoc hmem with hmem | hmem
  · exact h call hmem
  · exact hevent call hmem.symm

theorem note_decided {event : ToolEvent} (h : ∀ call, event ≠ .decided call true) :
    Preserves (Noted (Decided P)) (note event) :=
  ensures_note fun _ hnoted => hnoted.snoc fun call heq => absurd heq (h call)

theorem ask_spec {α : Type} {F : List ToolEvent → Prop} {G : α → Prop}
    {reply : GovernedState → PluginReply α}
    (h : ∀ state, F state.trace → ∀ a, (reply state).outcome = .ok a → G a) :
    Ensures (Noted F) (ask reply) (fun a => Noted fun trace => F trace ∧ G a) (Noted F) := by
  intro state hstate
  constructor
  · intro a ha
    exact ⟨hstate, h state hstate a ha⟩
  · intro error _
    exact hstate

variable {base : ToolHost} {str : JsonObject → String} {plugin : Option ApprovalPlugin}
  {consumer : GovernedCall → Option WireConsumer}

abbrev Granted (str : JsonObject → String) (plugin : Option ApprovalPlugin)
    (consumer : GovernedCall → Option WireConsumer) (call : GovernedCall) : Prop :=
  grants str plugin (consumer call) call.call.name call.call.arguments = true

theorem refuse_decided (call : GovernedCall) (reason : String) {G : Prop} :
    Ensures (Noted (Decided P)) (refuse call reason)
      (fun result => Noted fun trace => Decided P trace ∧ (result.approved = true → G))
      (Noted (Decided P)) := by
  unfold refuse
  refine Ensures.bind (note_decided fun _ heq => by cases heq) fun _ => ?_
  exact Ensures.pure fun _ h => ⟨h, fun happroved => by cases happroved⟩

theorem refused_error_decided (call : GovernedCall) (error : TurnError) (reason : String)
    {G : Prop} :
    Ensures (Noted (Decided P))
      (do
        note (.refused call.ref)
        if is_exception error then pure { approved := false, reason } else Action.raise error
        : GovernedAction ToolApprovalResult)
      (fun result => Noted fun trace => Decided P trace ∧ (result.approved = true → G))
      (Noted (Decided P)) := by
  refine Ensures.bind (note_decided fun _ heq => by cases heq) fun _ => ?_
  split
  · exact Ensures.pure fun _ h => ⟨h, fun happroved => by cases happroved⟩
  · exact Ensures.raise fun _ h => h

/-- The directive of the agent's plugin is carried out for the call that was validated last. -/
theorem execute_directive_granted {set : ApprovalPlugin} (call : GovernedCall)
    (directive : Directive) :
    Ensures (Noted fun trace => Decided P trace ∧ asked_call trace = some call)
      (execute_directive (agent_host base str (some set) consumer) call directive)
      (fun result => Noted fun trace =>
        Decided P trace ∧ (result.approved = true → Granted str (some set) consumer call))
      (Noted (Decided P)) := by
  unfold execute_directive agent_host
  dsimp only
  refine Ensures.bind (Q := fun outcome => Noted fun trace =>
    Decided P trace ∧ (outcome = .ok true → Granted str (some set) consumer call))
    (Ensures.attempt (ask_spec (G := fun approved => approved = true →
      Granted str (some set) consumer call) ?_) ?_ ?_) fun outcome => ?_
  · intro state hstate approved houtcome happroved
    rw [hstate.2, happroved] at houtcome
    unfold Granted grants
    dsimp only at houtcome ⊢
    rw [houtcome]
  · rintro approved state ⟨hnoted, hgranted⟩
    exact ⟨hnoted.1, fun heq => hgranted (Except.ok.inj heq)⟩
  · intro error state hnoted
    exact ⟨hnoted.1, fun heq => by cases heq⟩
  · split
    · exact Ensures.pure fun _ h => ⟨h.1, fun _ => h.2 rfl⟩
    · exact (refuse_decided call _).requires (fun _ h => h.1)
    · exact (refused_error_decided call _ _).requires (fun _ h => h.1)

theorem consult_granted (call : GovernedCall) :
    Ensures (Noted fun trace => Decided P trace ∧ asked_call trace = some call)
      (consult_hooks (agent_host base str plugin consumer) call
        (List.range (if plugin.isSome then 1 else 0)))
      (fun result => Noted fun trace =>
        Decided P trace ∧ (result.approved = true → Granted str plugin consumer call))
      (Noted (Decided P)) := by
  cases plugin with
  | none => exact Ensures.pure fun _ h => ⟨h.1, fun _ => rfl⟩
  | some plugin =>
    show Ensures _ (consult_hooks (agent_host base str (some plugin) consumer) call [0]) _ _
    unfold consult_hooks
    refine Ensures.bind (Q := fun outcome => Noted fun trace =>
      (Decided P trace ∧ asked_call trace = some call) ∧ ∃ directive,
        outcome = .ok (.directive directive)) ?_ fun outcome => ?_
    · intro state hstate
      refine ⟨?_, fun _ heq => by cases heq⟩
      intro outcome houtcome
      refine ⟨hstate, (plugin.approve_tool_call str call.call.name call.call.arguments).read, ?_⟩
      exact (Except.ok.inj houtcome).symm
    · split
      · exact fun state hstate => by obtain ⟨_, _, heq⟩ := hstate; cases heq
      · exact fun state hstate => by obtain ⟨_, _, heq⟩ := hstate; cases heq
      · exact (execute_directive_granted call _).requires (fun _ h => h.1)
      · exact fun state hstate => by obtain ⟨_, _, heq⟩ := hstate; cases heq

theorem approve_granted (call : GovernedCall) :
    Ensures (Noted fun trace =>
        Decided (Granted str plugin consumer) trace ∧ asked_call trace = some call)
      (approve_tool_call (agent_host base str plugin consumer) call)
      (fun _ => Noted (Decided (Granted str plugin consumer)))
      (Noted (Decided (Granted str plugin consumer))) := by
  unfold approve_tool_call
  refine Ensures.bind (Ensures.get (Q := fun _ => Noted fun trace =>
    Decided (Granted str plugin consumer) trace ∧ asked_call trace = some call)
    (fun _ h => h)) fun state => ?_
  refine Ensures.bind (consult_granted call) fun result => ?_
  refine Ensures.bind (Q := fun _ => Noted (Decided (Granted str plugin consumer)))
    (ensures_note fun trace hnoted => hnoted.1.snoc ?_) fun _ => Preserves.pure
  intro decided heq
  obtain ⟨rfl, happroved⟩ := ToolEvent.decided.inj heq
  exact hnoted.2 happroved

theorem validate_asked (host : ToolHost) (call : GovernedCall) (schemas : List ToolSchema) :
    Ensures (Noted (Decided P)) (validate host call schemas)
      (fun _ => Noted fun trace => Decided P trace ∧ asked_call trace = some call)
      (Noted (Decided P)) := by
  unfold validate
  refine Ensures.bind (ensures_note fun trace hnoted => ⟨hnoted.snoc ?_, ?_⟩) fun _ =>
    Ensures.pure fun _ h => h
  · intro _ heq
    cases heq
  · unfold asked_call
    rw [List.getLast?_concat]

end Decisions

/-! ## The stage of an agent -/

section Stage

variable {base : ToolHost} {str : JsonObject → String} {plugin : Option ApprovalPlugin}
  {consumer : GovernedCall → Option WireConsumer}

abbrev Kept (str : JsonObject → String) (plugin : Option ApprovalPlugin)
    (consumer : GovernedCall → Option WireConsumer) : GovernedState → Prop :=
  Noted (Decided (Granted str plugin consumer))

theorem executed_decided {path : ExecutionPath} {calls : List GovernedCall}
    {trace : List ToolEvent} (h : Decided (Granted str plugin consumer) trace) :
    Decided (Granted str plugin consumer) (trace ++ [.executed path calls]) :=
  h.snoc fun _ heq => by cases heq

theorem execute_target_kept (call target : GovernedCall) :
    Ensures (Noted fun trace =>
        Decided (Granted str plugin consumer) trace ∧ asked_call trace = some target)
      (execute_target (agent_host base str plugin consumer) call target)
      (fun _ => Kept str plugin consumer) (Kept str plugin consumer) := by
  unfold execute_target
  refine Ensures.bind (approve_granted target) fun approval => ?_
  split
  · exact Preserves.pure
  · refine Ensures.bind (Q := fun _ => Kept str plugin consumer)
      ((execute_proxy_tool_spec _ fun _ => executed_decided).mono (fun _ h => h)
        (fun _ _ h => h.2) (fun _ h => h)) fun result => ?_
    split
    · exact Preserves.pure
    · exact Preserves.pure

theorem execute_call_tool_kept (call : GovernedCall) :
    Preserves (Kept str plugin consumer)
      (execute_call_tool (agent_host base str plugin consumer) call) := by
  unfold execute_call_tool
  split
  · split
    · exact Preserves.pure
    · refine seq Preserves.get fun state => ?_
      refine seq lift fun proxy_schemas => ?_
      split
      · exact Preserves.pure
      · refine Ensures.bind (validate_asked _ _ _) fun error => ?_
        split
        · exact Ensures.pure fun _ h => h.1
        · exact execute_target_kept call _
  · exact Preserves.pure
  · exact Preserves.pure

theorem execute_one_kept (call : GovernedCall) :
    Preserves (Kept str plugin consumer)
      (Toolset.execute_one (agent_host base str plugin consumer) call) := by
  unfold Toolset.execute_one
  split
  · exact (execute_search_tools_spec _).mono (fun _ h => h) (fun _ _ h => h.2) (fun _ h => h)
  · split
    · exact execute_call_tool_kept call
    · exact (execute_tool_spec _ fun _ _ _ => executed_decided).mono (fun _ h => h)
        (fun _ _ h => h.2) (fun _ h => h)

theorem execute_batch_kept (host : ToolHost) (calls : List GovernedCall) (hooks : List Nat) :
    Preserves (Kept str plugin consumer) (Toolset.execute_batch host calls hooks) := by
  induction hooks with
  | nil => exact Preserves.pure
  | cons hook rest ih =>
    unfold Toolset.execute_batch
    refine seq (ensures_note fun _ => executed_decided) fun _ => ?_
    refine Ensures.bind (keeps_ask _).attempt (fun outcome => ?_)
    split
    · exact Preserves.pure
    · exact Ensures.raise fun _ h => h
    · exact ih
    · exact Preserves.pure
    · split
      · exact Ensures.raise fun _ h => h
      · exact seq lift fun _ => Preserves.pure

theorem execute_tools_kept (calls : List GovernedCall) :
    Preserves (Kept str plugin consumer)
      (Toolset.execute_tools (agent_host base str plugin consumer) calls) := by
  unfold Toolset.execute_tools
  refine seq ?_ fun batched => ?_
  · unfold Toolset.try_batch
    split
    · exact seq Preserves.get fun state => execute_batch_kept _ calls _
    · exact Preserves.pure
  · split
    · exact Preserves.pure
    · exact (Ensures.collect (G := fun _ _ => True) fun call _ =>
        (execute_one_kept call).mono (fun _ h => h) (fun _ _ h => ⟨trivial, h⟩)
          (fun _ h => h)).mono (fun _ h => h) (fun _ _ h => h.2) (fun _ h => h)

theorem answer_rejected_kept (inputs : CallInputs) (call : GovernedCall) (message : String) :
    Preserves (Kept str plugin consumer) (answer_rejected inputs call message) := by
  unfold answer_rejected
  refine seq (keeps_on_turn _) fun _ => ?_
  refine seq (note_decided fun _ heq => by cases heq) fun _ => ?_
  exact seq lift fun _ => Preserves.pure

theorem govern_call_kept (tool_schemas : List ToolSchema) (response : Response)
    (inputs : CallInputs) (call : GovernedCall) :
    Preserves (Kept str plugin consumer)
      (govern_call (agent_host base str plugin consumer) tool_schemas response inputs call) := by
  unfold govern_call
  refine seq (keeps_on_turn _) fun _ => ?_
  refine seq (note_decided fun _ heq => by cases heq) fun _ => ?_
  refine Ensures.bind (validate_asked _ _ _) fun error => ?_
  split
  · exact (answer_rejected_kept inputs call _).requires (fun _ h => h.1)
  · split
    · exact Ensures.pure fun _ h => h.1
    · refine Ensures.bind (approve_granted call) fun approval => ?_
      split
      · exact Preserves.pure
      · exact answer_rejected_kept inputs call _

theorem answer_executed_kept (text : JsonText) (inputs : RoundInputs)
    (item : (GovernedCall × ToolExecutionResult) × Nat) :
    Preserves (Kept str plugin consumer) (answer_executed text inputs item) := by
  unfold answer_executed
  refine seq Preserves.get fun state => ?_
  refine seq (keeps_on_turn _) fun _ => ?_
  exact seq (note_decided fun _ heq => by cases heq) fun _ => lift

theorem govern_tool_calls_kept (text : JsonText) (tool_schemas : List ToolSchema)
    (inputs : RoundInputs) (round : Nat) (response : Response) :
    Preserves (Kept str plugin consumer)
      (govern_tool_calls text (agent_host base str plugin consumer) tool_schemas inputs round
        response) := by
  unfold govern_tool_calls
  refine seq (keeps_on_turn _) fun _ => ?_
  refine Ensures.bind (Q := fun _ => Kept str plugin consumer)
    ((Ensures.collect (G := fun _ _ => True) fun call _ =>
      (govern_call_kept tool_schemas response _ call).mono (fun _ h => h)
        (fun _ _ h => ⟨trivial, h⟩) (fun _ h => h)).mono (fun _ h => h) (fun _ _ h => h.2)
      (fun _ h => h)) fun offered => ?_
  dsimp only
  split
  · exact keeps_on_turn _
  · refine seq ?_ fun _ => keeps_on_turn _
    unfold execute_governed
    refine seq lift fun _ => ?_
    refine seq Preserves.get fun state => ?_
    refine seq (execute_tools_kept _) fun results => ?_
    refine seq (Ensures.each fun item _ => answer_executed_kept text inputs item) ?_
    exact fun _ => Preserves.pure

theorem govern_rounds_kept (text : JsonText) (tool_schemas : List ToolSchema)
    (rounds : Nat → RoundInputs) (remaining round : Nat) :
    Preserves (Kept str plugin consumer)
      (govern_rounds text (agent_host base str plugin consumer) tool_schemas rounds remaining
        round) := by
  induction remaining generalizing round with
  | zero => exact Preserves.pure
  | succ remaining ih =>
    unfold govern_rounds
    refine seq ?_ fun more => when (ih (round + 1))
    unfold govern_round
    refine seq (note_decided fun _ heq => by cases heq) fun _ => ?_
    refine seq (keeps_on_turn _) fun response => ?_
    split
    · exact seq (govern_tool_calls_kept text tool_schemas _ round response)
        fun _ => Preserves.pure
    · exact seq (keeps_on_turn _) fun _ => Preserves.pure

theorem mem_of_this_round {trace : List ToolEvent} {event : ToolEvent}
    (h : event ∈ this_round trace) : event ∈ trace := by
  induction trace using List.reverseRecOn with
  | nil => cases h
  | append_singleton trace last ih =>
    by_cases hstarts : last.Starts
    · cases last with
      | round_started round =>
        rw [this_round_started] at h
        cases h
      | _ => exact absurd hstarts id
    · rw [this_round_snoc hstarts] at h
      rcases mem_append.mp h with h | h
      · exact mem_append_left _ (ih h)
      · exact mem_append_right _ h

/-- In every run of the stage the calls that are executed were granted by the agent's layers. -/
theorem executed_granted (text : JsonText) (tool_schemas : List ToolSchema)
    (rounds : Nat → RoundInputs) (turn : TurnState) {path : ExecutionPath}
    {calls : List GovernedCall}
    (h : .executed path calls ∈ (govern_run_model text (agent_host base str plugin consumer)
      tool_schemas rounds { turn }).2.trace) :
    ∀ call ∈ calls, Granted str plugin consumer call := by
  have hstart : Noted (Between tool_schemas 0) { turn } := ⟨governed_nil, Waiting.nil⟩
  have hdecided : Kept str plugin consumer (govern_run_model text
      (agent_host base str plugin consumer) tool_schemas rounds { turn }).2 := by
    refine Ensures.final (P := Kept str plugin consumer) ?_ (fun _ hmem => by cases hmem)
    unfold govern_run_model
    refine seq Preserves.get fun state => when ?_
    exact govern_rounds_kept text tool_schemas rounds _ 0
  have hgoverned : Noted (Governed tool_schemas) (govern_run_model text
      (agent_host base str plugin consumer) tool_schemas rounds { turn }).2 := by
    refine Ensures.final (P := Noted (Between tool_schemas 0)) ?_ hstart
    unfold govern_run_model
    refine Ensures.bind (Ensures.get (Q := fun _ => Noted (Between tool_schemas 0))
      (fun _ h => h)) fun state => ?_
    refine Ensures.when (fun _ => ?_) (fun _ h => h.1)
    exact (govern_rounds_spec text _ rounds _ 0).mono (fun _ h => h)
      (fun _ _ ⟨_, h⟩ => h.1) (fun _ h => h.1)
  intro call hcall
  obtain ⟨earlier, later, heq⟩ := append_of_mem h
  obtain ⟨-, schemas, -, hchecked⟩ := hgoverned.checked earlier path calls later heq call hcall
  refine hdecided call ?_
  rw [heq]
  refine mem_append_left _ (mem_of_this_round ?_)
  exact hchecked.subset (mem_cons_of_mem _ mem_cons_self)

end Stage

/-! ## The layers of one call -/

section Layers

variable {str : JsonObject → String} {tool_name : String} {arguments : JsonObject}

theorem execute_built {set : ApprovalPlugin} (hsafe : set.safe_tools = [])
    (ask_user : Option AskUserHandler) :
    ∃ question, execute ask_user (set.approve_tool_call str tool_name arguments)
      = if tool_name ∈ set.blocked_tools then .ok false
        else if set.policy = .YOLO then .ok true
        else execute ask_user (.AskUser question tool_name arguments) := by
  unfold ApprovalPlugin.approve_tool_call
  by_cases hblocked : tool_name ∈ set.blocked_tools
  · simp only [if_pos hblocked]
    exact ⟨"", rfl⟩
  · by_cases hexternal : tool_name ∈ set.external_request_tools
    · simp only [if_neg hblocked, if_pos hexternal]
      by_cases hyolo : set.policy = .YOLO
      · simp only [if_pos hyolo]
        exact ⟨"", rfl⟩
      · simp only [if_neg hyolo]
        exact ⟨_, rfl⟩
    · simp only [if_neg hblocked, if_neg hexternal]
      cases hpolicy : set.policy with
      | YOLO => exact ⟨"", rfl⟩
      | INTERACTIVE => exact ⟨_, rfl⟩
      | AUTO =>
        simp only [hsafe, not_mem_nil, if_false]
        exact ⟨_, rfl⟩

theorem grants_built {set : ApprovalPlugin} (hsafe : set.safe_tools = [])
    (reply : Option (Except TurnError Bool)) :
    grants str (some set) (reply.map replies) tool_name arguments = true
      ↔ tool_name ∉ set.blocked_tools ∧ (set.policy = .YOLO ∨ reply = some (.ok true)) := by
  obtain ⟨question, hexecute⟩ := @execute_built str tool_name arguments set hsafe
    ((reply.map replies).map make_ask_user_handler)
  unfold grants
  dsimp only
  rw [hexecute]
  by_cases hblocked : tool_name ∈ set.blocked_tools
  · simp [hblocked]
  · by_cases hyolo : set.policy = .YOLO
    · simp [hblocked, hyolo]
    · rw [if_neg hblocked, if_neg hyolo]
      cases reply with
      | none => simp [execute, hyolo]
      | some reply =>
        cases reply with
        | error error => simp [execute, make_ask_user_handler, replies, hyolo]
        | ok approved => simp [execute, make_ask_user_handler, replies, hyolo, hblocked]

theorem child_grants_eq (built : Option ApprovalPlugin) (reply : Option (Except TurnError Bool)) :
    child_grants str built reply tool_name arguments
      = grants str built ((some (reply.getD (.ok true))).map replies) tool_name arguments := by
  cases reply with
  | none => rfl
  | some reply => rfl

theorem set_policies (set : ApprovalPlugin) (policies : List ApprovalPolicy) :
    policies.foldl ApprovalPlugin.set_policy set
      = { set with policy := policies.getLast?.getD set.policy } := by
  induction policies using List.reverseRecOn with
  | nil => rfl
  | append_singleton policies policy ih =>
    rw [foldl_append, ih, List.getLast?_concat]
    rfl

end Layers

/-! ## A parent and its child -/

def approval_enabled (file : AgentFile) : Prop := file.plugins = [] ∨ "approval" ∈ file.plugins

def policy_now (file : AgentFile) (approval_mode_override : Option String)
    (policies : List ApprovalPolicy) : Option ApprovalPolicy :=
  policies.getLast?.or (approval_policy_map (policy_str file approval_mode_override))

theorem create_built {file : AgentFile} {override : Option String}
    {built : Option ApprovalPlugin} (h : create_child_pipeline file override = .ok built) :
    (¬ approval_enabled file ∧ built = none)
      ∨ approval_enabled file ∧ ∃ policy,
          approval_policy_map (policy_str file override) = some policy
          ∧ built = some { policy, blocked_tools := file.blocked_tools } := by
  unfold create_child_pipeline at h
  cases hpolicy : approval_policy_map (policy_str file override) with
  | none =>
    rw [hpolicy] at h
    cases h
  | some policy =>
    rw [hpolicy] at h
    dsimp only at h
    have hbuilt := Except.ok.inj h
    by_cases henabled : file.plugins = [] ∨ "approval" ∈ file.plugins
    · rw [if_pos henabled] at hbuilt
      exact Or.inr ⟨henabled, policy, rfl, hbuilt.symm⟩
    · rw [if_neg henabled] at hbuilt
      exact Or.inl ⟨henabled, hbuilt.symm⟩

/-- What keeps a child from more than its parent has, for one tool: the parent is not governed, or
the default configuration blocks the tool, or the parent does not block it and either approves
everything or asks the user, as the default configuration does then. -/
def Contained (parent_file child_file : AgentFile) (approval_mode_override : Option String)
    (policies : List ApprovalPolicy) (wire_consumer : Bool) (tool_name : String) : Prop :=
  ¬ approval_enabled parent_file
    ∨ (approval_enabled child_file ∧ tool_name ∈ child_file.blocked_tools)
    ∨ (tool_name ∉ parent_file.blocked_tools
      ∧ (policy_now parent_file approval_mode_override policies = some .YOLO
        ∨ (wire_consumer = true ∧ approval_enabled child_file
          ∧ policy_now child_file none [] ≠ some .YOLO)))

def asked (wire_consumer : Bool) (reply : Except TurnError Bool) :
    Option (Except TurnError Bool) :=
  if wire_consumer then some reply else none

section Child

variable {str : JsonObject → String} {files : Option String → AgentFile}
  {config_path approval_mode_override : Option String} {parent child : Option ApprovalPlugin}

theorem parent_grants_iff (hparent : create_agent files config_path approval_mode_override
      = .ok parent) (policies : List ApprovalPolicy) (reply : Option (Except TurnError Bool))
    (tool_name : String) (arguments : JsonObject) :
    parent_grants str parent policies reply tool_name arguments = true
      ↔ ¬ approval_enabled (files config_path)
        ∨ (tool_name ∉ (files config_path).blocked_tools
          ∧ (policy_now (files config_path) approval_mode_override policies = some .YOLO
            ∨ reply = some (.ok true))) := by
  rcases create_built hparent with ⟨hdisabled, rfl⟩ | ⟨henabled, policy, hpolicy, rfl⟩
  · simp [parent_grants, grants, hdisabled]
  · unfold parent_grants policy_now
    rw [Option.map_some, set_policies, grants_built rfl, hpolicy]
    cases policies.getLast? with
    | none => simp [henabled]
    | some last => simp [henabled]

theorem child_grants_iff (hchild : child_pipeline_builder files = .ok child)
    (reply : Option (Except TurnError Bool)) (tool_name : String) (arguments : JsonObject) :
    child_grants str child reply tool_name arguments = true
      ↔ ¬ approval_enabled (files none)
        ∨ (tool_name ∉ (files none).blocked_tools
          ∧ (policy_now (files none) none [] = some .YOLO
            ∨ reply.getD (.ok true) = .ok true)) := by
  rw [child_grants_eq]
  rcases create_built hchild with ⟨hdisabled, rfl⟩ | ⟨henabled, policy, hpolicy, rfl⟩
  · simp [grants, hdisabled]
  · unfold policy_now
    rw [grants_built rfl, hpolicy]
    simp [henabled]

/-- What a child executes it was granted by its own layers; and these grant it no more of a tool
than the parent's do, whatever the user answers, exactly when the settings contain it. -/
theorem child_grants_contained (hparent : create_agent files config_path approval_mode_override
      = .ok parent) (hchild : child_pipeline_builder files = .ok child) :
    (∀ (base : ToolHost) (text : JsonText) (tool_schemas : List ToolSchema)
        (rounds : Nat → RoundInputs) (turn : TurnState)
        (reply : GovernedCall → Option (Except TurnError Bool)) (path : ExecutionPath)
        (calls : List GovernedCall),
      .executed path calls ∈ (govern_run_model text (child_host base str child reply)
          tool_schemas rounds { turn }).2.trace →
        ∀ call ∈ calls,
          child_grants str child (reply call) call.call.name call.call.arguments = true)
    ∧ ∀ (policies : List ApprovalPolicy) (wire_consumer : Bool) (tool_name : String),
        (∀ arguments reply,
          child_grants str child (asked wire_consumer reply) tool_name arguments = true →
          parent_grants str parent policies (asked wire_consumer reply) tool_name arguments = true)
        ↔ Contained (files config_path) (files none) approval_mode_override policies wire_consumer
            tool_name := by
  constructor
  · intro base text tool_schemas rounds turn reply path calls hexecuted
    exact executed_granted text tool_schemas rounds turn hexecuted
  · intro policies wire_consumer tool_name
    simp only [child_grants_iff hchild, parent_grants_iff hparent]
    unfold Contained
    constructor
    · intro hall
      have hyes := hall [] (.ok true)
      have hno := hall [] (.ok false)
      cases wire_consumer with
      | false => simp [asked] at hyes hno ⊢; tauto
      | true => simp [asked] at hyes hno ⊢; tauto
    · intro hcontained arguments reply
      cases wire_consumer with
      | false => simp [asked] at hcontained ⊢; tauto
      | true => simp [asked] at hcontained ⊢; tauto

end Child

/-- An interactive parent whose child asks the same user. -/
theorem interactive_parent_contains :
    parent_grants (fun _ => "") (some { policy := .INTERACTIVE }) [] (asked true (.ok true))
      "bash_run" [] = true := by
  refine ((@child_grants_contained (fun _ => "") (fun _ => {}) none (some "interactive") _ _
    rfl rfl).2 [] true "bash_run").mpr ?_ [] (.ok true) (by decide)
  refine Or.inr (Or.inr ⟨by simp, Or.inr ⟨rfl, Or.inl rfl, ?_⟩⟩)
  decide

/-- Where nobody can be asked the child's call is executed and the parent's would be refused. -/
theorem unasked_child_executes :
    create_agent (fun _ => {}) none none = .ok (some {})
    ∧ child_pipeline_builder (fun _ => {}) = .ok (some {})
    ∧ .executed .host_executor
        [{ ref := { round := 0, index := 0 }
           call := { tool_call_id := "call-1", name := "file_read", arguments := [] } }]
      ∈ (govern_run_model { dumps := fun _ => "", str := fun _ => "" }
          (child_host fatal_host (fun _ => "") (some {}) fun _ => none) []
          (fun _ => one_call_round) { turn := provided_turn }).2.trace
    ∧ parent_grants (fun _ => "") (some {}) [] none "file_read" [] = false := by
  refine ⟨rfl, rfl, ?_, by decide⟩
  have htrace : (govern_run_model { dumps := fun _ => "", str := fun _ => "" }
      (child_host fatal_host (fun _ => "") (some {}) fun _ => none) []
      (fun _ => one_call_round) { turn := provided_turn }).2.trace.getLast?
      = some (.executed .host_executor
        [{ ref := { round := 0, index := 0 }
           call := { tool_call_id := "call-1", name := "file_read", arguments := [] } }]) := rfl
  exact List.mem_of_getLast? htrace

end CodingAgentLoop.ChildApproval
