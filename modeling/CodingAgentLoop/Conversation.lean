/-
The conversation an engine run keeps, and its queue of calls.

Two parts of the state value say the same thing twice. The messages of the context
show which tool calls the model made and which of them were answered; the runtime
state holds the queue `pending_effect_plans` of the calls that were not. Four
proposal functions edit both, the coordinator's authorization and the store's
reconciliation rewrite the runtime state around them.

The messages are read as a log of questions and answers (`Lib.Exchange`). A state is
`Conversing` when the calls that log leaves open are the queued ones, and no model
request is active while there are any. Every step keeps that except one: an initial
input empties the queue without answering the calls in it
(`AgentEngine.propose_initial`). So a run keeps the conversation well formed exactly
when each of its initial inputs finds the queue empty (`conversation_well_formed_iff`).
-/
import CodingAgentLoop.Coordinator
import CodingAgentLoop.Reconciliation
import CodingAgentLoop.Lib.Exchange
import CodingAgentLoop.Lib.Transition

namespace CodingAgentLoop

open Lib AgentEngine TransitionProposal Exchange JsonObject ModelToolCall List Result

/-! ## Reading the state -/

/-- A tool call, as an assistant message shows it and as a plan's payload repeats it. -/
structure ToolCall where
  tool_call_id : String
  name : String
  arguments : JsonObject
  deriving DecidableEq

/-- The tool call under `tool_call_id`, `name_key` and `arguments` of an object. -/
def read_tool_call (name_key : String) (raw : JsonObject) : Option ToolCall := do
  let tool_call_id ← (raw.get "tool_call_id").str?
  let name ← (raw.get name_key).str?
  let arguments ← (raw.get "arguments").obj?
  return { tool_call_id, name, arguments }

/-- One entry of an assistant message's `tool_calls`. -/
def message_tool_call (raw : Json) : Option ToolCall :=
  raw.obj?.bind (read_tool_call "name")

def message_tool_calls (message : JsonObject) : Option (List ToolCall) :=
  match message.get "tool_calls" with
  | .null => some []
  | .arr calls => calls.mapM message_tool_call
  | _ => none

def message_exchange (message : Json) : Option (Exchange ToolCall String) :=
  match message with
  | .obj message =>
    if JsonObject.get message "role" = .str "assistant" then
      .ask <$> message_tool_calls message
    else if JsonObject.get message "role" = .str "tool" then
      .answer <$> (JsonObject.get message "tool_call_id").str?
    else some .remark
  | _ => none

/-- `state_value["context"]["messages"]`. -/
def state_messages (state_value : JsonObject) : Except StoreError (List Json) := do
  let context ← state_context state_value
  context_messages context

/-- The conversation of a state, as a log of calls and answers. -/
def conversation (state_value : JsonObject) : Option (List (Exchange ToolCall String)) :=
  (state_messages state_value).toOption.bind (List.mapM message_exchange)

def queued_calls (runtime : JsonObject) : Option (List ToolCall) :=
  (pending_effect_plans runtime).toOption.bind
    (List.mapM (fun plan => read_tool_call "tool_name" plan.payload))

def pending_calls (state_value : JsonObject) : Option (List ToolCall) :=
  (runtime_state state_value).toOption.bind queued_calls

def AwaitsModel (state_value : JsonObject) : Prop :=
  ∃ runtime request_id, runtime_state state_value = .ok runtime
    ∧ require_active_model_request runtime request_id = .ok ()

/-- The messages and the queue agree on the calls that are open. -/
structure Conversing (state_value : JsonObject) (calls : List ToolCall) : Prop where
  messages : ∃ log, conversation state_value = some log
    ∧ AnsweredExcept ToolCall.tool_call_id calls log
  queue : pending_calls state_value = some calls
  idle : AwaitsModel state_value → calls = []

/-! ## Lemmas about the readers -/

variable {before after : JsonObject}

theorem state_messages_congr (h : after.find "context" = before.find "context") :
    state_messages after = state_messages before := by
  unfold state_messages state_context
  rw [h]

theorem runtime_state_with_runtime_state (state_value runtime : JsonObject) :
    runtime_state (with_runtime_state state_value runtime) = .ok runtime := by
  unfold runtime_state with_runtime_state
  rw [get_set_self]

theorem state_messages_with_runtime_state (state_value runtime : JsonObject) :
    state_messages (with_runtime_state state_value runtime) = state_messages state_value := by
  apply state_messages_congr
  rw [with_runtime_state, find_set, if_neg (by decide)]

theorem append_conversation_messages_spec {appended : List JsonObject}
    (h : append_conversation_messages before appended = .ok after) :
    (∃ messages, state_messages before = .ok messages
        ∧ state_messages after = .ok (messages ++ appended.map Json.obj))
      ∧ runtime_state after = runtime_state before := by
  simp only [append_conversation_messages, bind_eq_ok, pure_eq_ok] at h
  obtain ⟨context, hcontext, messages, hmessages, rfl⟩ := h
  constructor
  · refine ⟨messages, ?_, ?_⟩
    · rw [state_messages, hcontext]
      exact hmessages
    · have hobjects : ∀ message ∈ messages, message.obj? ≠ none := by
        unfold context_messages at hmessages
        split at hmessages
        · simp only [Except.ok.injEq] at hmessages
          subst hmessages
          simp
        · simp only [check_bind_eq_ok, raise_if_eq_ok, pure_eq_ok, not_exists,
            not_and] at hmessages
          obtain ⟨hobjects, rfl⟩ := hmessages
          exact hobjects
        · simp at hmessages
      unfold state_messages state_context
      rw [find_set, if_pos rfl]
      simp only [ok_bind, context_messages, find_set, if_pos]
      rw [check_bind_eq_ok, raise_if_eq_ok, pure_eq_ok]
      refine ⟨?_, rfl⟩
      rintro ⟨message, hmem, hnone⟩
      rcases mem_append.mp hmem with hold | hnew
      · exact hobjects message hold hnone
      · obtain ⟨fields, -, rfl⟩ := mem_map.mp hnew
        simp at hnone
  · unfold runtime_state
    rw [get_set_of_ne _ _ (by decide)]

theorem conversation_append {before after message : JsonObject} {entry : Exchange ToolCall String}
    (h : append_conversation_messages before [message] = .ok after)
    (hentry : message_exchange (.obj message) = some entry) :
    conversation after = (conversation before).map (· ++ [entry]) := by
  obtain ⟨⟨messages, hbefore, hafter⟩, -⟩ := append_conversation_messages_spec h
  unfold conversation
  rw [hbefore, hafter]
  simp only [Except.toOption, Option.bind_some, map_cons, map_nil, mapM_append,
    mapM_cons, mapM_nil, hentry]
  cases messages.mapM message_exchange <;> rfl

theorem pending_calls_of_plans {state_value runtime : JsonObject} {plans : List EffectPlan}
    (hruntime : runtime_state state_value = .ok runtime)
    (hplans : pending_effect_plans runtime = .ok plans) :
    pending_calls state_value
      = plans.mapM (fun plan => read_tool_call "tool_name" plan.payload) := by
  rw [pending_calls, hruntime, Except.toOption, Option.bind_some, queued_calls, hplans,
    Except.toOption, Option.bind_some]

theorem pending_calls_congr {before after old new : JsonObject}
    (hbefore : runtime_state before = .ok old) (hafter : runtime_state after = .ok new)
    (h : new.find "pending_effect_plans" = old.find "pending_effect_plans") :
    pending_calls after = pending_calls before := by
  rw [pending_calls, pending_calls, hbefore, hafter]
  simp only [Except.toOption, Option.bind_some, queued_calls, pending_effect_plans, h]

theorem awaits_model_congr {before after old new : JsonObject}
    (hbefore : runtime_state before = .ok old) (hafter : runtime_state after = .ok new)
    (h : new.find "active_model_request_id" = old.find "active_model_request_id") :
    AwaitsModel after → AwaitsModel before := by
  rintro ⟨runtime, request_id, hruntime, hactive⟩
  rw [hafter, Except.ok.injEq] at hruntime
  subst hruntime
  refine ⟨old, request_id, hbefore, ?_⟩
  have hget : old.get "active_model_request_id" = new.get "active_model_request_id" := by
    rw [JsonObject.get, JsonObject.get, h]
  rw [require_active_model_request, hget]
  exact hactive

/-! ## What a step does to the conversation -/

def NextAction.turn_is_over : NextAction → Bool
  | .ModelGenerationAction _ => true
  | .TerminalAction _ _ => true
  | _ => false

/-- What a step other than an initial input does to the messages and to the queue.
`turn_is_over` says that its next action is a model request or the end of the run. -/
inductive ConversationMove (before after : JsonObject) (turn_is_over : Bool) : Prop where
  /-- A model completion: its calls are asked, and they are the new queue. -/
  | asked (calls : List ToolCall)
      (awaited : AwaitsModel before)
      (messages : conversation after = (conversation before).map (· ++ [.ask calls]))
      (queue : pending_calls after = some calls)
      (idle : ¬ AwaitsModel after)
      (finished : turn_is_over = true → calls = [])
  /-- A settlement or a denial: the first call of the queue is answered and leaves it. -/
  | answered (tool_call_id : String)
      (messages : conversation after = (conversation before).map (· ++ [.answer tool_call_id]))
      (queue : ∀ calls, pending_calls before = some calls → ∃ call rest, calls = call :: rest
        ∧ call.tool_call_id = tool_call_id ∧ pending_calls after = some rest
        ∧ (AwaitsModel after → rest = [] ∨ AwaitsModel before)
        ∧ (turn_is_over = true → rest = []))
  /-- Every other step: what the conversation depends on stays. -/
  | kept
      (messages : conversation after = conversation before)
      (queue : pending_calls after = pending_calls before)
      (idle : AwaitsModel after → AwaitsModel before)
      (finished : turn_is_over = false)

variable {calls : List ToolCall}

theorem ConversationMove.conversing {turn_is_over : Bool}
    (hmove : ConversationMove before after turn_is_over) (h : Conversing before calls) :
    ∃ calls', Conversing after calls' ∧ (turn_is_over = true → calls' = []) := by
  obtain ⟨log, hlog, hexcept⟩ := h.messages
  have hopen := outstanding_eq_some_iff.mpr hexcept
  cases hmove with
  | asked asked awaited messages queue idle finished =>
    -- a completion is only accepted while nothing is open
    have hnone : calls = [] := h.idle awaited
    subst hnone
    refine ⟨asked, ⟨⟨log ++ [.ask asked], ?_, ?_⟩, queue, fun hawaits => absurd hawaits idle⟩,
      finished⟩
    · rw [messages, hlog]
      rfl
    · exact outstanding_eq_some_iff.mp (outstanding_ask asked hopen)
  | answered tool_call_id messages queue =>
    obtain ⟨call, rest, rfl, rfl, hqueue, hawaits, hover⟩ := queue calls h.queue
    refine ⟨rest, ⟨⟨log ++ [.answer call.tool_call_id], ?_, ?_⟩, hqueue, ?_⟩, hover⟩
    · rw [messages, hlog]
      rfl
    · exact outstanding_eq_some_iff.mp (outstanding_answer hopen)
    · intro hafter
      rcases hawaits hafter with hrest | hbefore
      · exact hrest
      · exact absurd (h.idle hbefore) (cons_ne_nil _ _)
  | kept messages queue idle finished =>
    refine ⟨calls, ⟨?_, ?_, fun hafter => h.idle (idle hafter)⟩, by simp [finished]⟩
    · rw [messages]
      exact h.messages
    · rw [queue]
      exact h.queue

/-- An initial input leaves the messages alone and empties the queue. -/
structure Restarts (before after : JsonObject) : Prop where
  messages : conversation after = conversation before
  queue : pending_calls after = some []

theorem Restarts.conversing (hmove : Restarts before after) (h : Conversing before []) :
    Conversing after [] where
  messages := by
    rw [hmove.messages]
    exact h.messages
  queue := hmove.queue
  idle := fun _ => rfl

/-! ## The proposals of the engine -/

theorem activate_model_request_spec {run_id : String} {request : ModelRequest}
    (h : activate_model_request run_id before = .ok (after, request)) :
    conversation after = conversation before ∧ pending_calls after = pending_calls before := by
  simp only [activate_model_request, bind_eq_ok, pure_eq_ok, Prod.mk.injEq] at h
  obtain ⟨_, -, runtime, hruntime, rfl, -⟩ := h
  constructor
  · rw [conversation, conversation, state_messages_with_runtime_state]
  · apply pending_calls_congr hruntime (runtime_state_with_runtime_state _ _)
    rw [find_set, if_neg (by decide)]

variable {proposal : TransitionProposal} {request : EngineStepRequest}

theorem propose_initial_restarts {step_input : Initial}
    (h : propose_initial request step_input = .ok proposal) :
    Restarts request.state_version.value proposal.state_value := by
  simp only [propose_initial, bind_eq_ok,
    checked_eq_ok] at h
  obtain ⟨⟨state_value, model_request⟩, hactivate, -, rfl⟩ := h
  obtain ⟨hmessages, hqueue⟩ := activate_model_request_spec hactivate
  constructor
  · rw [hmessages, conversation, conversation, state_messages_with_runtime_state]
  · rw [hqueue]
    have hnone : pending_effect_plans [("round_index", .int 0),
        ("mailbox_cut", .int step_input.mailbox_cut),
        ("commands", .arr (step_input.command_batch.map command_value)),
        ("pending_effect_plans", .arr [])] = .ok [] := rfl
    exact pending_calls_of_plans (runtime_state_with_runtime_state _ _) hnone

def ModelToolCall.shown (call : ModelToolCall) : ToolCall where
  tool_call_id := call.tool_call_id
  name := call.name
  arguments := call.arguments

private theorem mapM_map_eq_some {α β γ : Type} {l : List α} {f : α → β} {g : β → Option γ}
    {k : α → γ} (h : ∀ a, g (f a) = some (k a)) : (l.map f).mapM g = some (l.map k) := by
  induction l with
  | nil => rfl
  | cons a rest ih =>
    rw [map_cons, mapM_cons, h a, ih]
    rfl

theorem assistant_message_asks (result : ModelGenerationResult) :
    message_exchange (.obj (assistant_message result))
      = some (.ask (result.tool_calls.map shown)) := by
  have hcalls : message_tool_calls (assistant_message result)
      = some (result.tool_calls.map shown) :=
    mapM_map_eq_some (fun _ => rfl)
  have hrole : JsonObject.get (assistant_message result) "role" = .str "assistant" := rfl
  rw [message_exchange, if_pos hrole, hcalls]
  rfl

theorem call_plans_spec {transition_id : String} {index : Nat} {calls : List ModelToolCall}
    {plans : List EffectPlan} (h : call_plans transition_id index calls = .ok plans) :
    (∀ plan ∈ plans, plan.post_init = .ok ())
      ∧ plans.mapM (fun plan => read_tool_call "tool_name" plan.payload)
          = some (calls.map shown) := by
  induction calls generalizing index plans with
  | nil =>
    simp only [call_plans, Except.ok.injEq] at h
    subst h
    exact ⟨by simp, rfl⟩
  | cons call rest ih =>
    simp only [call_plans, bind_eq_ok, EffectPlan.checked_eq_ok,
      pure_eq_ok] at h
    obtain ⟨plan, ⟨hvalid, rfl⟩, plans, hplans, rfl⟩ := h
    obtain ⟨hrest, hread⟩ := ih hplans
    constructor
    · intro plan hmem
      rcases mem_cons.mp hmem with rfl | hin
      · exact hvalid
      · exact hrest plan hin
    · rw [mapM_cons, hread]
      rfl

theorem propose_model_completion_asks {result : ModelGenerationResult}
    (h : propose_model_completion request result = .ok proposal) :
    ConversationMove request.state_version.value proposal.state_value
      proposal.next_action.turn_is_over := by
  simp only [propose_model_completion, bind_eq_ok,
    checked_eq_ok] at h
  obtain ⟨runtime, hruntime, _, hactive, last_round, -, plans, hplans, state_value, happend, -,
    rfl⟩ := h
  obtain ⟨hvalid, hread⟩ := call_plans_spec hplans
  obtain ⟨-, hafter⟩ := append_conversation_messages_spec happend
  rw [runtime_state_with_runtime_state] at hafter
  refine .asked (result.tool_calls.map shown) ⟨runtime, result.request_id, hruntime,
    hactive⟩ ?_ ?_ ?_ ?_
  · have hmessages := conversation_append happend (assistant_message_asks result)
    rw [hmessages, conversation, conversation, state_messages_with_runtime_state]
  · rw [← hread]
    apply pending_calls_of_plans hafter
    apply pending_effect_plans_of_values _ hvalid
    simp
  · rintro ⟨runtime', request_id, hruntime', hactive'⟩
    rw [hafter, Except.ok.injEq] at hruntime'
    subst hruntime'
    simp only [require_active_model_request, bind_eq_ok, require_identity_eq_ok] at hactive'
    obtain ⟨_, ⟨hstr, -⟩, -⟩ := hactive'
    rw [get_eq_str] at hstr
    simp at hstr
  · intro hover
    cases plans with
    | nil =>
      have hnone : result.tool_calls.map shown = [] := by
        simpa [eq_comm] using hread
      exact hnone
    | cons plan rest => simp [prepared_action, NextAction.turn_is_over] at hover

theorem require_next_effect_spec {plans remaining : List EffectPlan} {plan : EffectPlan}
    {identity : EffectIdentity} (h : require_next_effect plans identity = .ok (plan, remaining)) :
    plans = plan :: remaining
      ∧ plan.payload.get "tool_call_id" = .str identity.tool_call_id := by
  cases plans with
  | nil => simp [require_next_effect] at h
  | cons next_plan rest =>
    simp only [require_next_effect, bind_eq_ok, raise_if_eq_ok, not_not,
      pure_eq_ok, Prod.mk.injEq, required_string, require_identity_eq_ok] at h
    obtain ⟨_, -, _, -, tool_call_id, ⟨hread, -⟩, _, hsame, _, -, _, -, rfl, rfl⟩ := h
    rw [hsame] at hread
    exact ⟨rfl, hread⟩

theorem after_answer_spec {run_id : String} {remaining : List EffectPlan} {action : NextAction}
    (h : after_answer run_id before remaining = .ok (after, action)) :
    conversation after = conversation before ∧ pending_calls after = pending_calls before
      ∧ (remaining ≠ [] → after = before ∧ action.turn_is_over = false) := by
  cases remaining with
  | nil =>
    simp only [after_answer, bind_eq_ok, pure_eq_ok,
      Prod.mk.injEq] at h
    obtain ⟨⟨state_value, model_request⟩, hactivate, rfl, -⟩ := h
    obtain ⟨hmessages, hqueue⟩ := activate_model_request_spec hactivate
    exact ⟨hmessages, hqueue, fun hne => absurd rfl hne⟩
  | cons plan rest =>
    simp only [after_answer, Except.ok.injEq, Prod.mk.injEq] at h
    obtain ⟨rfl, rfl⟩ := h
    exact ⟨rfl, rfl, fun _ => ⟨rfl, rfl⟩⟩

/-- **Answering the first call.** What a settlement and a denial have in common: the queue
loses its first plan and the conversation gains the message that answers it. -/
theorem answer_move {run_id tool_call_id tool_name : String} {content : Json} {is_error : Bool}
    {before answered after runtime updated : JsonObject} {plan : EffectPlan}
    {remaining : List EffectPlan} {action : NextAction}
    (hruntime : runtime_state before = .ok runtime)
    (hplans : pending_effect_plans runtime = .ok (plan :: remaining))
    (hcall : plan.payload.get "tool_call_id" = .str tool_call_id)
    (hqueue : updated.find "pending_effect_plans"
      = some (.arr (remaining.map effect_plan_value)))
    (hactive : updated.find "active_model_request_id" = runtime.find "active_model_request_id")
    (happend : append_conversation_messages (with_runtime_state before updated)
      [tool_message tool_call_id tool_name content is_error] = .ok answered)
    (hnext : after_answer run_id answered remaining = .ok (after, action)) :
    ConversationMove before after action.turn_is_over := by
  obtain ⟨-, hanswered⟩ := append_conversation_messages_spec happend
  rw [runtime_state_with_runtime_state] at hanswered
  obtain ⟨hmessages, hpending, hmore⟩ := after_answer_spec hnext
  have hvalid := pending_effect_plans_valid hplans
  have hremaining : pending_effect_plans updated = .ok remaining :=
    pending_effect_plans_of_values hqueue
      (fun plan hmem => hvalid plan (mem_cons_of_mem _ hmem))
  refine .answered tool_call_id ?_ ?_
  · have hentry : message_exchange (.obj (tool_message tool_call_id tool_name content
        is_error)) = some (.answer tool_call_id) := rfl
    rw [hmessages, conversation_append happend hentry, conversation, conversation,
      state_messages_with_runtime_state]
  · intro calls hcalls
    rw [pending_calls_of_plans hruntime hplans, mapM_cons] at hcalls
    simp only [Option.bind_eq_bind, Option.bind_eq_some_iff, Option.pure_def,
      Option.some.injEq] at hcalls
    obtain ⟨call, hread, rest, hrest, rfl⟩ := hcalls
    have hid : call.tool_call_id = tool_call_id := by
      simp only [read_tool_call, hcall, Json.str?_str, Option.bind_eq_bind, Option.bind_some,
        Option.bind_eq_some_iff, Option.pure_def, Option.some.injEq] at hread
      obtain ⟨_, -, _, -, rfl⟩ := hread
      rfl
    have hempty : remaining = [] → rest = [] := by
      rintro rfl
      simpa [eq_comm] using hrest
    refine ⟨call, rest, rfl, hid, ?_, ?_, ?_⟩
    · rw [hpending, pending_calls_of_plans hanswered hremaining, hrest]
    · intro hawaits
      by_cases hlast : remaining = []
      · exact .inl (hempty hlast)
      · obtain ⟨rfl, -⟩ := hmore hlast
        exact .inr (awaits_model_congr hruntime hanswered hactive hawaits)
    · intro hover
      by_cases hlast : remaining = []
      · exact hempty hlast
      · rw [(hmore hlast).2] at hover
        exact absurd hover Bool.false_ne_true

theorem keep_move {before runtime updated : JsonObject}
    (hruntime : runtime_state before = .ok runtime)
    (hqueue : updated.find "pending_effect_plans" = runtime.find "pending_effect_plans")
    (hactive : updated.find "active_model_request_id" = runtime.find "active_model_request_id") :
    ConversationMove before (with_runtime_state before updated) false := by
  have hafter := runtime_state_with_runtime_state before updated
  refine .kept ?_ ?_ ?_ rfl
  · rw [conversation, conversation, state_messages_with_runtime_state]
  · exact pending_calls_congr hruntime hafter hqueue
  · exact awaits_model_congr hruntime hafter hactive

theorem propose_effect_settlement_moves {settlement : EffectSettlement}
    (h : propose_effect_settlement request settlement = .ok proposal) :
    ConversationMove request.state_version.value proposal.state_value
      proposal.next_action.turn_is_over := by
  simp only [propose_effect_settlement, bind_eq_ok] at h
  obtain ⟨runtime, hruntime, plans, hplans, _, -, ⟨plan, remaining⟩, hnext, _, -, h⟩ := h
  obtain ⟨rfl, hcall⟩ := require_next_effect_spec hnext
  split at h
  · simp only [block_on_unknown, bind_eq_ok,
      checked_eq_ok] at h
    obtain ⟨active, -, effect, -, -, rfl⟩ := h
    exact keep_move hruntime (by simp) (by simp)
  · simp only [answer_settlement, bind_eq_ok,
      checked_eq_ok] at h
    obtain ⟨answered, happend, ⟨state_value, action⟩, hafter, -, rfl⟩ := h
    exact answer_move hruntime hplans hcall (by simp) (by simp) happend hafter

theorem propose_approval_resolution_moves {settlement : ApprovalSettlement}
    (h : propose_approval_resolution request settlement = .ok proposal) :
    ConversationMove request.state_version.value proposal.state_value
      proposal.next_action.turn_is_over := by
  simp only [propose_approval_resolution, bind_eq_ok] at h
  obtain ⟨runtime, hruntime, plans, hplans, _, -, ⟨plan, remaining⟩, hnext, _, -, h⟩ := h
  obtain ⟨rfl, hcall⟩ := require_next_effect_spec hnext
  split at h
  · simp only [approve, checked_eq_ok] at h
    obtain ⟨-, rfl⟩ := h
    exact .kept rfl rfl id rfl
  · split at h
    · simp at h
    · simp only [deny, bind_eq_ok, checked_eq_ok] at h
      obtain ⟨answered, happend, ⟨state_value, action⟩, hafter, -, rfl⟩ := h
      exact answer_move hruntime hplans hcall (by simp) (by simp) happend hafter

/-! ## Authorizations and reconciliations -/

/-- An authorization marks the effect in the runtime state and keeps the conversation. -/
theorem with_active_effect_authorization_keeps {authorization proposal : TransitionProposal}
    {owner_epoch : Nat}
    (h : with_active_effect_authorization authorization owner_epoch = .ok proposal) :
    ConversationMove authorization.state_value proposal.state_value false := by
  unfold with_active_effect_authorization at h
  split at h
  · next plan _ _ =>
    simp only [bind_eq_ok, checked_eq_ok] at h
    obtain ⟨tool_call_id, -, tool_name, -, runtime, hruntime, -, rfl⟩ := h
    unfold authorized_runtime at hruntime
    split at hruntime
    · next hnone =>
      -- without a runtime state the queue reads as empty, before and after
      rw [Except.ok.injEq] at hruntime
      subst hruntime
      have hbefore : runtime_state authorization.state_value = .ok initial_runtime_state := by
        rw [runtime_state, JsonObject.get, RUNTIME_STATE_KEY, hnone]
        rfl
      have hafter := runtime_state_with_runtime_state authorization.state_value
        (JsonObject.set [] "active_effect_authorization" (.obj (active_authorization_marker
          plan tool_call_id tool_name authorization.transition_id owner_epoch)))
      refine .kept ?_ ?_ (awaits_model_congr hbefore hafter rfl) rfl
      · exact congrArg (fun messages => (Except.toOption messages).bind _)
          (state_messages_with_runtime_state _ _)
      · rw [pending_calls_of_plans hbefore rfl]
        have hempty : pending_effect_plans (JsonObject.set [] "active_effect_authorization"
            (.obj (active_authorization_marker plan tool_call_id tool_name
              authorization.transition_id owner_epoch))) = .ok [] := rfl
        exact pending_calls_of_plans hafter hempty
    · next runtime' hsome =>
      rw [Except.ok.injEq] at hruntime
      subst hruntime
      have hbefore : runtime_state authorization.state_value = .ok runtime' := by
        rw [runtime_state, JsonObject.get, RUNTIME_STATE_KEY, hsome]
        rfl
      exact keep_move hbefore (by simp) (by simp)
    · simp at hruntime
  · simp at h

theorem with_active_effect_authorization_action {authorization proposal : TransitionProposal}
    {owner_epoch : Nat}
    (h : with_active_effect_authorization authorization owner_epoch = .ok proposal) :
    proposal.next_action = authorization.next_action := by
  unfold with_active_effect_authorization at h
  split at h
  · simp only [bind_eq_ok, checked_eq_ok] at h
    obtain ⟨_, -, _, -, _, -, -, rfl⟩ := h
    rfl
  · simp at h

theorem reconciliation_keeps {evidence : EffectReconciliationEvidence}
    {record : ReconciliationRecord}
    (h : state_value_with_reconciled_effect before evidence record = .ok after) :
    ConversationMove before after false := by
  obtain ⟨runtime, marker, hruntime, -, rfl⟩ := state_value_with_reconciled_effect_spec h
  have hbefore : runtime_state before = .ok runtime := by
    rw [runtime_state, RUNTIME_STATE_KEY, hruntime]
  exact keep_move hbefore (by simp) (by simp)

/-! ## Runs of the engine -/

/-- What produced the next state of an operation. -/
inductive EngineAction where
  /-- A proposal of the engine, committed. -/
  | proposed (step_input : EngineStepInput) (proposal : TransitionProposal)
  /-- A dispatch authorization. `preserve_pending` says that the proposal of an approval is
  committed with it. -/
  | authorized (prepared : TransitionProposal) (preserve_pending : Bool) (owner_epoch : Nat)
      (proposal : TransitionProposal)
  /-- A reconciliation of an effect whose outcome was unknown. -/
  | reconciled (evidence : EffectReconciliationEvidence) (record : ReconciliationRecord)

/-- One step of an operation, with the states around it. -/
structure EngineEvent where
  before : OperationStateVersion
  action : EngineAction
  after : OperationStateVersion

/-- `value` becomes the next state, committed under `transition_id`. -/
structure Adopted (before : OperationStateVersion) (transition_id : String) (value : JsonObject)
    (after : OperationStateVersion) : Prop where
  run_id : after.run_id = before.run_id
  transition : after.commit_ref.transition_id = transition_id
  value_eq : after.value = value

/-- What an action may turn a state into. -/
def EngineAction.Leads (before : OperationStateVersion) (after : OperationStateVersion) :
    EngineAction → Prop
  | .proposed step_input proposal =>
    propose ⟨before, step_input⟩ = .ok proposal
      ∧ Adopted before proposal.transition_id proposal.state_value after
  | .authorized prepared preserve_pending owner_epoch proposal =>
    ∃ authorization,
      (preserve_pending = true → ∃ settlement, settlement.approved = true
        ∧ propose ⟨before, .ApprovalResolved settlement⟩ = .ok prepared)
      ∧ authorization_proposal prepared before preserve_pending = .ok authorization
      ∧ with_active_effect_authorization authorization owner_epoch = .ok proposal
      ∧ Adopted before proposal.transition_id proposal.state_value after
  | .reconciled evidence record =>
    ∃ value, state_value_with_reconciled_effect before.value evidence record = .ok value
      ∧ Adopted before record.transition_id value after

def EngineStep (before : OperationStateVersion) (event : EngineEvent)
    (after : OperationStateVersion) : Prop :=
  event.before = before ∧ event.after = after ∧ event.action.Leads before after

namespace EngineEvent

def turn_is_over (event : EngineEvent) : Bool :=
  match event.action with
  | .proposed _ proposal => proposal.next_action.turn_is_over
  | .authorized _ _ _ proposal => proposal.next_action.turn_is_over
  | .reconciled _ _ => false

def is_initial (event : EngineEvent) : Prop :=
  ∃ step_input proposal, event.action = .proposed (.Initial step_input) proposal

/-- The messages of the state behind the step are well formed: the calls without an answer are
the last ones of the last assistant message, they are the queue, and there are none when the
model is asked next or the run ends. -/
structure WellFormed (event : EngineEvent) : Prop where
  queue : ∃ log calls, conversation event.after.value = some log
    ∧ AnsweredExcept ToolCall.tool_call_id calls log
    ∧ pending_calls event.after.value = some calls
  finished : event.turn_is_over = true → ∃ log, conversation event.after.value = some log
    ∧ AnsweredInOrder ToolCall.tool_call_id log

end EngineEvent

theorem propose_moves (h : propose request = .ok proposal)
    (hinput : ∀ step_input, request.step_input ≠ .Initial step_input) :
    ConversationMove request.state_version.value proposal.state_value
      proposal.next_action.turn_is_over := by
  unfold propose at h
  split at h
  · next step_input hinitial => exact absurd hinitial (hinput step_input)
  · exact propose_model_completion_asks h
  · exact propose_effect_settlement_moves h
  · exact propose_approval_resolution_moves h

theorem approved_keeps_value {before : OperationStateVersion} {settlement : ApprovalSettlement}
    (happroved : settlement.approved = true)
    (h : propose ⟨before, .ApprovalResolved settlement⟩ = .ok proposal) :
    proposal.state_value = before.value := by
  simp only [propose, propose_approval_resolution, bind_eq_ok,
    happroved, if_true, approve, checked_eq_ok] at h
  obtain ⟨_, -, _, -, _, -, _, -, _, -, -, rfl⟩ := h
  rfl

theorem authorization_proposal_keeps {prepared authorization : TransitionProposal}
    {current_state : OperationStateVersion} {preserve_pending : Bool}
    (h : authorization_proposal prepared current_state preserve_pending = .ok authorization)
    (hprepared : preserve_pending = true → prepared.state_value = current_state.value) :
    authorization.state_value = current_state.value
      ∧ authorization.next_action.turn_is_over = false := by
  unfold authorization_proposal at h
  split at h
  · next plan action_kind haction =>
    rw [checked_eq_ok] at h
    obtain ⟨-, rfl⟩ := h
    refine ⟨?_, by rw [haction]; rfl⟩
    by_cases hpending : preserve_pending = true
    · simp only [hpending, if_true]
      exact hprepared hpending
    · simp only [hpending, if_false, Bool.false_eq_true]
  · simp at h

variable {event : EngineEvent}

/-- Every step is an initial input that restarts the queue, or a move of the conversation. -/
theorem engine_step_moves {before after : OperationStateVersion}
    (h : EngineStep before event after) :
    (event.is_initial ∧ Restarts before.value after.value)
      ∨ (¬ event.is_initial ∧ ConversationMove before.value after.value event.turn_is_over) := by
  obtain ⟨before', action, after'⟩ := event
  obtain ⟨hbefore, hafter, h⟩ := h
  simp only at hbefore hafter h
  subst hbefore hafter
  cases action with
  | proposed step_input proposal =>
    obtain ⟨hpropose, hadopted⟩ := h
    by_cases hinitial : ∃ initial, step_input = .Initial initial
    · obtain ⟨initial, rfl⟩ := hinitial
      refine .inl ⟨⟨initial, proposal, rfl⟩, ?_⟩
      rw [hadopted.value_eq]
      exact propose_initial_restarts hpropose
    · refine .inr ⟨?_, ?_⟩
      · rintro ⟨initial, other, heq⟩
        simp only [EngineAction.proposed.injEq] at heq
        exact hinitial ⟨initial, heq.1⟩
      · rw [hadopted.value_eq]
        exact propose_moves hpropose (fun initial heq => hinitial ⟨initial, heq⟩)
  | authorized prepared preserve_pending owner_epoch proposal =>
    obtain ⟨authorization, happroval, hauthorization, hactive, hadopted⟩ := h
    have hprepared : preserve_pending = true → prepared.state_value = before'.value := by
      intro hpending
      obtain ⟨settlement, happroved, hpropose⟩ := happroval hpending
      exact approved_keeps_value happroved hpropose
    obtain ⟨hvalue, hover⟩ := authorization_proposal_keeps hauthorization hprepared
    have hmove := with_active_effect_authorization_keeps hactive
    rw [hvalue, ← hadopted.value_eq] at hmove
    refine .inr ⟨?_, ?_⟩
    · rintro ⟨initial, other, heq⟩
      simp at heq
    · have hturn : proposal.next_action.turn_is_over = false := by
        rw [with_active_effect_authorization_action hactive, hover]
      simp only [EngineEvent.turn_is_over, hturn]
      exact hmove
  | reconciled evidence record =>
    obtain ⟨value, hreconciled, hadopted⟩ := h
    refine .inr ⟨?_, ?_⟩
    · rintro ⟨initial, proposal, heq⟩
      simp at heq
    · rw [hadopted.value_eq]
      exact reconciliation_keeps hreconciled

def EngineEvent.FindsQueueEmpty (event : EngineEvent) : Prop :=
  event.is_initial → pending_calls event.before.value = some []

/-- **One step.** Behind a state in which messages and queue agree, a step leaves a well-formed
conversation exactly when it is no initial input over a queue that is not empty; and then they
agree again. -/
theorem engine_step_well_formed {before after : OperationStateVersion}
    (h : EngineStep before event after) (hbefore : Conversing before.value calls) :
    (event.WellFormed ↔ event.FindsQueueEmpty)
      ∧ (event.FindsQueueEmpty → ∃ calls', Conversing after.value calls') := by
  have hevent : event.before = before ∧ event.after = after := ⟨h.1, h.2.1⟩
  obtain ⟨rfl, rfl⟩ := hevent
  rcases engine_step_moves h with ⟨hinitial, hrestarts⟩ | ⟨hother, hmove⟩
  · -- an initial input: the messages keep the open calls, the queue loses them
    by_cases hcalls : calls = []
    · subst hcalls
      have hafter := hrestarts.conversing hbefore
      have hempty : event.FindsQueueEmpty := fun _ => hbefore.queue
      refine ⟨⟨fun _ => hempty, fun _ => ⟨?_, ?_⟩⟩, fun _ => ⟨[], hafter⟩⟩
      · obtain ⟨log, hlog, hexcept⟩ := hafter.messages
        exact ⟨log, [], hlog, hexcept, hafter.queue⟩
      · intro _
        obtain ⟨log, hlog, hexcept⟩ := hafter.messages
        exact ⟨log, hlog, hexcept.answered⟩
    · have hfull : ¬ event.FindsQueueEmpty := by
        intro hempty
        have hqueue := hempty hinitial
        rw [hbefore.queue, Option.some.injEq] at hqueue
        exact hcalls hqueue
      have hbroken : ¬ event.WellFormed := by
        rintro ⟨⟨log, calls', hlog, hexcept, hqueue⟩, -⟩
        obtain ⟨log', hlog', hexcept'⟩ := hbefore.messages
        rw [hrestarts.messages, hlog', Option.some.injEq] at hlog
        subst hlog
        rw [hrestarts.queue, Option.some.injEq] at hqueue
        exact hcalls (hexcept'.unique (hqueue ▸ hexcept))
      exact ⟨⟨fun hwell => absurd hwell hbroken, fun hempty => absurd hempty hfull⟩,
        fun hempty => absurd hempty hfull⟩
  · obtain ⟨calls', hafter, hover⟩ := hmove.conversing hbefore
    have hempty : event.FindsQueueEmpty := fun hinitial => absurd hinitial hother
    obtain ⟨log, hlog, hexcept⟩ := hafter.messages
    refine ⟨⟨fun _ => hempty, fun _ => ⟨⟨log, calls', hlog, hexcept, hafter.queue⟩, ?_⟩⟩,
      fun _ => ⟨calls', hafter⟩⟩
    intro hturn
    have hnone := hover hturn
    subst hnone
    exact ⟨log, hlog, hexcept.answered⟩

/-- A run in which every initial input finds the queue empty keeps messages and queue in
agreement. -/
theorem conversing_of_run {start final : OperationStateVersion} {events : List EngineEvent}
    (hrun : Run EngineStep start events final) (hstart : Conversing start.value calls)
    (hevents : ∀ event ∈ events, event.FindsQueueEmpty) :
    ∃ calls', Conversing final.value calls' := by
  refine Run.invariant_where (I := fun state => ∃ calls', Conversing state.value calls') hrun
    hevents ⟨calls, hstart⟩ ?_
  rintro before event after ⟨calls', hbefore⟩ hempty hstep
  exact (engine_step_well_formed hstep hbefore).2 hempty

/-- **The conversation of a run is well formed exactly when its initial inputs find the queue
empty.** The start is any state whose messages are well formed and whose queue holds the calls
they leave open, with no model request active while there are any. -/
theorem conversation_well_formed_iff {start final : OperationStateVersion}
    {events : List EngineEvent} {calls : List ToolCall}
    (hrun : Run EngineStep start events final) (hstart : Conversing start.value calls) :
    (∀ event ∈ events, event.WellFormed) ↔ (∀ event ∈ events, event.FindsQueueEmpty) := by
  induction hrun with
  | refl => simp
  | @snoc trace middle final event hrun hstep ih =>
    -- both sides grow by the last event, and the state before it is in agreement either way
    have hlast : (∀ e ∈ trace, e.FindsQueueEmpty) →
        (event.WellFormed ↔ event.FindsQueueEmpty) := by
      intro htrace
      obtain ⟨calls', hmiddle⟩ := conversing_of_run hrun hstart htrace
      exact (engine_step_well_formed hstep hmiddle).1
    simp only [mem_append, mem_singleton, or_imp, forall_and, forall_eq, ih]
    constructor
    · rintro ⟨htrace, hevent⟩
      exact ⟨htrace, (hlast htrace).mp hevent⟩
    · rintro ⟨htrace, hevent⟩
      exact ⟨htrace, (hlast htrace).mpr hevent⟩

/-! ## A run that loses a call -/

/-- The step of an input, with the state its proposal becomes. -/
def engine_event (before : OperationStateVersion) (step_input : EngineStepInput) :
    Except StoreError EngineEvent := do
  let proposal ← propose ⟨before, step_input⟩
  return {
    before
    action := .proposed step_input proposal
    after := { before with
      revision := before.revision + 1
      commit_ref := { transition_id := proposal.transition_id }
      value := proposal.state_value } }

def sample_operation : OperationStateVersion where
  run_id := "run"
  revision := 0
  projection_epoch := 0
  commit_ref := { transition_id := "created" }
  value := []

def sample_initial (input_id : String) : EngineStepInput :=
  .Initial { input_id, command_batch := [], mailbox_cut := 0 }

def sample_completion : EngineStepInput :=
  .ModelGenerationCompleted
    { result_id := "result"
      request_id := "run:model:1"
      assistant_content := "looking"
      tool_calls := [{ tool_call_id := "call", name := "read", arguments := [] }] }

theorem engine_event_step {before : OperationStateVersion} {step_input : EngineStepInput}
    (h : engine_event before step_input = .ok event) :
    EngineStep before event event.after := by
  simp only [engine_event, bind_eq_ok, pure_eq_ok] at h
  obtain ⟨proposal, hpropose, rfl⟩ := h
  exact ⟨rfl, rfl, hpropose, ⟨rfl, rfl, rfl⟩⟩

def sample_turn : Except StoreError (EngineEvent × EngineEvent) := do
  let started ← engine_event sample_operation (sample_initial "first")
  let asked ← engine_event started.after sample_completion
  return (started, asked)

theorem sample_operation_conversing : Conversing sample_operation.value [] where
  messages := ⟨[], rfl, .settled .nil rfl⟩
  queue := rfl
  idle := fun _ => rfl

/-- A turn that asks a call, with nothing open before it. -/
theorem sample_turn_well_formed : ∃ started asked, sample_turn = .ok (started, asked)
    ∧ started.WellFormed ∧ asked.WellFormed := by
  have hok : sample_turn.toOption.isSome = true := by decide +kernel
  cases hturn : sample_turn with
  | error error => simp [hturn, Except.toOption] at hok
  | ok turn =>
    have hsteps := hturn
    simp only [sample_turn, bind_eq_ok, pure_eq_ok] at hsteps
    obtain ⟨started, hstarted, asked, hasked, rfl⟩ := hsteps
    have hrun : Run EngineStep sample_operation ([started] ++ [asked]) asked.after :=
      (Run.single (engine_event_step hstarted)).append (Run.single (engine_event_step hasked))
    have hempty : ∀ event ∈ [started] ++ [asked], event.FindsQueueEmpty := by
      simp only [engine_event, bind_eq_ok, pure_eq_ok] at hstarted hasked
      obtain ⟨_, -, rfl⟩ := hstarted
      obtain ⟨_, -, rfl⟩ := hasked
      intro event hmem
      simp only [cons_append, nil_append, mem_cons, not_mem_nil,
        or_false] at hmem
      rcases hmem with rfl | rfl
      · exact fun _ => sample_operation_conversing.queue
      · rintro ⟨step_input, proposal, heq⟩
        simp [sample_completion] at heq
    have hwell := (conversation_well_formed_iff hrun sample_operation_conversing).mpr hempty
    exact ⟨started, asked, rfl, hwell started (by simp), hwell asked (by simp)⟩

def sample_restart : Except StoreError (EngineEvent × EngineEvent × EngineEvent) := do
  let (started, asked) ← sample_turn
  let restarted ← engine_event asked.after (sample_initial "second")
  return (started, asked, restarted)

/-- **A second initial input loses a call**: the conversation still asks it, the queue does
not, and the model is asked next. -/
theorem restart_loses_call : ∃ events final, Conversing sample_operation.value []
    ∧ Run EngineStep sample_operation events final ∧ ¬ ∀ event ∈ events, event.WellFormed := by
  -- the conversation and the queue behind the last step, computed
  have hlast : sample_restart.toOption.map (fun turn =>
      ((conversation turn.2.2.after.value).bind (outstanding ToolCall.tool_call_id),
        pending_calls turn.2.2.after.value)) = some (some [⟨"call", "read", []⟩], some []) := by
    decide +kernel
  cases hturn : sample_restart with
  | error error => simp [hturn, Except.toOption] at hlast
  | ok turn =>
    have hsteps := hturn
    simp only [sample_restart, sample_turn, bind_eq_ok, pure_eq_ok] at hsteps
    obtain ⟨_, ⟨started, hstarted, asked, hasked, rfl⟩, restarted, hrestarted, rfl⟩ := hsteps
    refine ⟨[started] ++ [asked] ++ [restarted], restarted.after, sample_operation_conversing,
      ((Run.single (engine_event_step hstarted)).append
        (Run.single (engine_event_step hasked))).append
        (Run.single (engine_event_step hrestarted)), ?_⟩
    intro hwell
    obtain ⟨⟨log, calls, hlog, hexcept, hqueue⟩, -⟩ := hwell restarted (by simp)
    simp only [hturn, Except.toOption, Option.map_some, hlog, Option.bind_some, hqueue,
      Option.some.injEq, Prod.mk.injEq, outstanding_eq_some_iff] at hlast
    have hcalls := hlast.1.unique hexcept
    rw [hlast.2] at hcalls
    simp at hcalls

end CodingAgentLoop
