/-
The model requests of a run, and their answers.

The identity of a model request is made from the run and from `round_index`, the number of
completions the state has counted (`_model_request`). A completion is accepted only for the
request the state names as active, and erases that name; the next request is made when the
calls of the completion are all answered. So requests and completions alternate, and the
requests of a run are numbered from one -- except that an initial input sets the counter to
zero again (`AgentEngine.propose_initial`), whatever the run has counted before.

A run therefore keeps its requests apart exactly when no two of its inputs are initial ones
(`requests_kept_iff`).
-/
import CodingAgentLoop.Conversation
import Std.Data.String.ToNat

namespace CodingAgentLoop

open Lib AgentEngine TransitionProposal JsonObject List Result

/-! ## Reading the state -/

/-- `f"{run_id}:model:{round_index}"`. -/
def model_request_id (run_id : String) (round_index : Nat) : String :=
  run_id ++ ":model:" ++ toString round_index

def state_round (state_value : JsonObject) : Except StoreError Nat := do
  let runtime ← runtime_state state_value
  runtime_int runtime "round_index"

/-- A completion of `request_id` would be accepted for this state. -/
def Awaits (state_value : JsonObject) (request_id : String) : Prop :=
  ∃ runtime, runtime_state state_value = .ok runtime
    ∧ require_active_model_request runtime request_id = .ok ()

def Queued (state_value : JsonObject) : Prop :=
  ∃ runtime plan rest, runtime_state state_value = .ok runtime
    ∧ pending_effect_plans runtime = .ok (plan :: rest)

/-! ## The requests and completions of a run -/

def NextAction.request? : NextAction → Option ModelRequest
  | .ModelGenerationAction request => some request
  | _ => none

namespace EngineEvent

def proposal? (event : EngineEvent) : Option TransitionProposal :=
  match event.action with
  | .proposed _ proposal => some proposal
  | .authorized _ _ _ proposal => some proposal
  | .reconciled _ _ => none

def request? (event : EngineEvent) : Option ModelRequest :=
  event.proposal?.bind (fun proposal => proposal.next_action.request?)

def completion? (event : EngineEvent) : Option ModelGenerationResult :=
  match event.action with
  | .proposed (.ModelGenerationCompleted result) _ => some result
  | _ => none

end EngineEvent

/-- `request_id` is the request that was emitted last, and nothing has answered it. -/
def AskedLast (trace : List EngineEvent) (request_id : String) : Prop :=
  ∃ earlier asking between request, trace = earlier ++ asking :: between
    ∧ asking.request? = some request ∧ request.request_id = request_id
    ∧ ∀ other ∈ between, other.request? = none ∧ other.completion? = none

/-- A completion answers the request that was emitted last, and that nothing has answered. -/
def EngineEvent.Answers (before : List EngineEvent) (event : EngineEvent) : Prop :=
  ∀ result, event.completion? = some result → AskedLast before result.request_id

def request_ids (trace : List EngineEvent) : List String :=
  (trace.filterMap EngineEvent.request?).map ModelRequest.request_id

def completions (trace : List EngineEvent) : Nat :=
  (trace.filterMap EngineEvent.completion?).length

/-- **What is said of the requests of a run.** -/
structure RequestsKept (trace : List EngineEvent) : Prop where
  unique : (request_ids trace).Nodup
  answered : Throughout EngineEvent.Answers trace
  rounds : Throughout (fun before event =>
    state_round event.after.value = .ok (completions (before ++ [event]))) trace

def OneInitial (trace : List EngineEvent) : Prop :=
  trace.Pairwise (fun earlier later => ¬ (earlier.is_initial ∧ later.is_initial))

/-! ## Lemmas about the readers -/

variable {run_id : String}

theorem model_request_id_inj {m n : Nat}
    (h : model_request_id run_id m = model_request_id run_id n) : m = n := by
  rw [model_request_id, model_request_id] at h
  have hrepr : toString m = toString n := by simpa using h
  exact Nat.repr_injective hrepr

theorem state_round_with_runtime_state (state_value runtime : JsonObject) :
    state_round (with_runtime_state state_value runtime) = runtime_int runtime "round_index" := by
  rw [state_round, runtime_state_with_runtime_state, ok_bind]

variable {state_value runtime : JsonObject}

theorem state_round_of_runtime (h : runtime_state state_value = .ok runtime) :
    state_round state_value = runtime_int runtime "round_index" := by
  rw [state_round, h, ok_bind]

theorem runtime_int_congr {old new : JsonObject} {key : String} (h : new.find key = old.find key) :
    runtime_int new key = runtime_int old key := by
  unfold runtime_int
  rw [h]

theorem runtime_int_of_find {runtime : JsonObject} {key : String} {count : Nat}
    (h : runtime.find key = some (.int count)) : runtime_int runtime key = .ok count := by
  rw [runtime_int, h]
  exact if_pos (Int.natCast_nonneg count)

theorem awaits_of_runtime {request_id : String} (h : runtime_state state_value = .ok runtime) :
    Awaits state_value request_id
      ↔ runtime.get "active_model_request_id" = .str request_id ∧ request_id ≠ "" := by
  have hactive : require_active_model_request runtime request_id = .ok ()
      ↔ runtime.get "active_model_request_id" = .str request_id ∧ request_id ≠ "" := by
    simp only [require_active_model_request, bind_eq_ok, require_identity_eq_ok,
      raise_if_eq_ok, not_not]
    constructor
    · rintro ⟨active, ⟨hget, hne⟩, rfl⟩
      exact ⟨hget, hne⟩
    · rintro ⟨hget, hne⟩
      exact ⟨request_id, ⟨hget, hne⟩, rfl⟩
  unfold Awaits
  rw [h]
  simp only [Except.ok.injEq, exists_eq_left']
  exact hactive

theorem queued_of_runtime (h : runtime_state state_value = .ok runtime) :
    Queued state_value ↔ ∃ plan rest, pending_effect_plans runtime = .ok (plan :: rest) := by
  unfold Queued
  rw [h]
  simp only [Except.ok.injEq, exists_and_left, exists_eq_left']

/-! ## What a step does to the requests -/

/-- What a step other than an initial input does to the counter, the active request and the
queue, with the request it emits and the completion it accepts. -/
inductive RequestMove (run_id : String) (before after : JsonObject) :
    Option ModelRequest → Option ModelGenerationResult → Prop
  /-- The last queued call is answered: the next request is made. -/
  | asked (request : ModelRequest) (round_index : Nat)
      (queued : Queued before)
      (counted : state_round before = .ok round_index)
      (named : request.request_id = model_request_id run_id (round_index + 1))
      (rounds : state_round after = .ok round_index)
      (active : ∀ request_id, Awaits after request_id → request_id = request.request_id)
      (empty : ¬ Queued after) :
      RequestMove run_id before after (some request) none
  /-- A completion: it is counted, and no request is active behind it. -/
  | completed (result : ModelGenerationResult) (round_index : Nat)
      (awaited : Awaits before result.request_id)
      (counted : state_round before = .ok round_index)
      (rounds : state_round after = .ok (round_index + 1))
      (idle : ∀ request_id, ¬ Awaits after request_id) :
      RequestMove run_id before after none (some result)
  /-- Every other step. -/
  | kept
      (rounds : state_round after = state_round before)
      (active : ∀ request_id, Awaits after request_id → Awaits before request_id)
      (queue : Queued after → Queued before) :
      RequestMove run_id before after none none

/-- What an initial input does to them. -/
structure FirstRequest (run_id : String) (after : JsonObject) (request : ModelRequest) : Prop where
  named : request.request_id = model_request_id run_id 1
  rounds : state_round after = .ok 0
  active : ∀ request_id, Awaits after request_id → request_id = request.request_id
  empty : ¬ Queued after

/-- **Making a request.** It is numbered by the rounds so far, and is the active one. -/
theorem activate_model_request_names {before after runtime : JsonObject} {request : ModelRequest}
    (hruntime : runtime_state before = .ok runtime)
    (h : activate_model_request run_id before = .ok (after, request)) :
    (∃ round_index, state_round before = .ok round_index
        ∧ request.request_id = model_request_id run_id (round_index + 1)
        ∧ state_round after = .ok round_index)
      ∧ (∀ request_id, Awaits after request_id → request_id = request.request_id)
      ∧ (Queued after ↔ Queued before) := by
  simp only [activate_model_request, model_request, hruntime, bind_eq_ok, ok_bind,
    pure_eq_ok, Prod.mk.injEq] at h
  obtain ⟨_, ⟨last_round, hround, context, -, commands, -, _, -, rfl⟩, rfl, rfl⟩ := h
  have hafter := runtime_state_with_runtime_state before (runtime.set "active_model_request_id"
    (.str (run_id ++ ":model:" ++ toString (last_round + 1))))
  refine ⟨⟨last_round, ?_, rfl, ?_⟩, ?_, ?_⟩
  · rw [state_round_of_runtime hruntime, hround]
  · rw [state_round_of_runtime hafter, ← hround]
    apply runtime_int_congr
    simp
  · intro request_id hawaits
    obtain ⟨hget, -⟩ := (awaits_of_runtime hafter).mp hawaits
    rw [get_set_self, Json.str.injEq] at hget
    exact hget.symm
  · rw [queued_of_runtime hafter, queued_of_runtime hruntime]
    simp only [pending_effect_plans, find_set, String.reduceEq, if_false]

variable {proposal : TransitionProposal} {request : EngineStepRequest}

theorem propose_initial_first {step_input : Initial}
    (h : propose_initial request step_input = .ok proposal) :
    ∃ model_request, proposal.next_action.request? = some model_request
      ∧ FirstRequest request.state_version.run_id proposal.state_value model_request := by
  simp only [propose_initial, bind_eq_ok, checked_eq_ok] at h
  obtain ⟨⟨state_value, model_request⟩, hactivate, -, rfl⟩ := h
  have hruntime := runtime_state_with_runtime_state request.state_version.value
    [("round_index", .int 0), ("mailbox_cut", .int step_input.mailbox_cut),
      ("commands", .arr (step_input.command_batch.map command_value)),
      ("pending_effect_plans", .arr [])]
  obtain ⟨⟨round_index, hcounted, hnamed, hrounds⟩, hactive, hqueue⟩ :=
    activate_model_request_names hruntime hactivate
  have hzero : round_index = 0 := by
    rw [state_round_of_runtime hruntime] at hcounted
    exact (Except.ok.inj hcounted).symm
  subst hzero
  refine ⟨model_request, rfl, hnamed, hrounds, hactive, ?_⟩
  rw [hqueue, queued_of_runtime hruntime]
  rintro ⟨plan, rest, hplans⟩
  cases hplans

theorem propose_model_completion_requests_none {result : ModelGenerationResult}
    (h : propose_model_completion request result = .ok proposal) :
    proposal.next_action.request? = none := by
  simp only [propose_model_completion, bind_eq_ok,
    checked_eq_ok] at h
  obtain ⟨_, -, _, -, _, -, plans, -, _, -, -, rfl⟩ := h
  cases plans with
  | nil => rfl
  | cons plan rest => rfl

theorem propose_model_completion_counts {result : ModelGenerationResult} (run_id : String)
    (h : propose_model_completion request result = .ok proposal) :
    RequestMove run_id request.state_version.value proposal.state_value
      proposal.next_action.request? (some result) := by
  rw [propose_model_completion_requests_none h]
  simp only [propose_model_completion, bind_eq_ok,
    checked_eq_ok] at h
  obtain ⟨runtime, hruntime, _, hactive, last_round, hround, plans, hplans, state_value, happend, -,
    rfl⟩ := h
  obtain ⟨-, hafter⟩ := append_conversation_messages_spec happend
  rw [runtime_state_with_runtime_state] at hafter
  refine .completed result last_round ⟨runtime, hruntime, hactive⟩ ?_ ?_ ?_
  · rw [state_round_of_runtime hruntime, hround]
  · rw [state_round_of_runtime hafter]
    apply runtime_int_of_find
    rw [find_set, if_neg (by decide), find_set, if_neg (by decide),
      find_set, if_pos rfl]
    rfl
  · intro request_id hawaits
    obtain ⟨hget, -⟩ := (awaits_of_runtime hafter).mp hawaits
    rw [get_eq_str, find_set, if_neg (by decide), find_set,
      if_neg (by decide), find_set, if_neg (by decide), find_erase,
      if_pos rfl] at hget
    cases hget

/-- **Answering the first call.** The queue was not empty; when it is now, the next request is
made. -/
theorem answer_requests {before answered after runtime updated message : JsonObject}
    {plan : EffectPlan} {remaining : List EffectPlan} {action : NextAction}
    (hruntime : runtime_state before = .ok runtime)
    (hplans : pending_effect_plans runtime = .ok (plan :: remaining))
    (hqueue : updated.find "pending_effect_plans"
      = some (.arr (remaining.map effect_plan_value)))
    (hround : updated.find "round_index" = runtime.find "round_index")
    (hactive : updated.find "active_model_request_id" = runtime.find "active_model_request_id")
    (happend : append_conversation_messages (with_runtime_state before updated) [message]
      = .ok answered)
    (hnext : after_answer run_id answered remaining = .ok (after, action)) :
    RequestMove run_id before after action.request? none := by
  obtain ⟨-, hanswered⟩ := append_conversation_messages_spec happend
  rw [runtime_state_with_runtime_state] at hanswered
  have hqueued : Queued before := ⟨runtime, plan, remaining, hruntime, hplans⟩
  have hcounted : state_round answered = state_round before := by
    rw [state_round_of_runtime hanswered, state_round_of_runtime hruntime]
    exact runtime_int_congr hround
  cases remaining with
  | nil =>
    simp only [after_answer, bind_eq_ok, pure_eq_ok,
      Prod.mk.injEq] at hnext
    obtain ⟨⟨state_value, request⟩, hactivate, rfl, rfl⟩ := hnext
    obtain ⟨⟨round_index, hround, hnamed, hrounds⟩, hawaits, hsame⟩ :=
      activate_model_request_names hanswered hactivate
    refine .asked request round_index hqueued (hcounted ▸ hround) hnamed hrounds hawaits ?_
    rw [hsame, queued_of_runtime hanswered]
    rintro ⟨other, rest, hother⟩
    rw [pending_effect_plans_of_values hqueue (by simp)] at hother
    cases hother
  | cons next rest =>
    simp only [after_answer, Except.ok.injEq, Prod.mk.injEq] at hnext
    obtain ⟨rfl, rfl⟩ := hnext
    refine .kept hcounted (fun request_id hawaits => ?_) (fun _ => hqueued)
    rw [awaits_of_runtime hanswered] at hawaits
    rw [awaits_of_runtime hruntime]
    rwa [JsonObject.get, hactive] at hawaits

theorem keep_requests {before after runtime updated : JsonObject}
    (hbefore : runtime_state before = .ok runtime) (hafter : runtime_state after = .ok updated)
    (hround : updated.find "round_index" = runtime.find "round_index")
    (hactive : updated.find "active_model_request_id" = runtime.find "active_model_request_id")
    (hqueue : updated.find "pending_effect_plans" = runtime.find "pending_effect_plans") :
    RequestMove run_id before after none none := by
  refine .kept ?_ (fun request_id => ?_) ?_
  · rw [state_round_of_runtime hafter, state_round_of_runtime hbefore]
    exact runtime_int_congr hround
  · rw [awaits_of_runtime hafter, awaits_of_runtime hbefore, JsonObject.get, JsonObject.get, hactive]
    exact id
  · rw [queued_of_runtime hafter, queued_of_runtime hbefore]
    simp only [pending_effect_plans, hqueue]
    exact id

theorem propose_effect_settlement_requests {settlement : EffectSettlement}
    (h : propose_effect_settlement request settlement = .ok proposal) :
    RequestMove request.state_version.run_id request.state_version.value proposal.state_value
      proposal.next_action.request? none := by
  simp only [propose_effect_settlement, bind_eq_ok] at h
  obtain ⟨runtime, hruntime, plans, hplans, _, -, ⟨plan, remaining⟩, hnext, _, -, h⟩ := h
  obtain ⟨rfl, -⟩ := require_next_effect_spec hnext
  split at h
  · simp only [block_on_unknown, bind_eq_ok,
      checked_eq_ok] at h
    obtain ⟨active, -, effect, -, -, rfl⟩ := h
    exact keep_requests hruntime (runtime_state_with_runtime_state _ _) (by simp) (by simp) (by simp)
  · simp only [answer_settlement, bind_eq_ok,
      checked_eq_ok] at h
    obtain ⟨answered, happend, ⟨state_value, action⟩, hafter, -, rfl⟩ := h
    exact answer_requests hruntime hplans (by simp) (by simp) (by simp) happend hafter

theorem propose_approval_resolution_requests {settlement : ApprovalSettlement}
    (h : propose_approval_resolution request settlement = .ok proposal) :
    RequestMove request.state_version.run_id request.state_version.value proposal.state_value
      proposal.next_action.request? none := by
  simp only [propose_approval_resolution, bind_eq_ok] at h
  obtain ⟨runtime, hruntime, plans, hplans, _, -, ⟨plan, remaining⟩, hnext, _, -, h⟩ := h
  obtain ⟨rfl, -⟩ := require_next_effect_spec hnext
  split at h
  · simp only [approve, checked_eq_ok] at h
    obtain ⟨-, rfl⟩ := h
    exact .kept rfl (fun _ => id) id
  · split at h
    · cases h
    · simp only [deny, bind_eq_ok, checked_eq_ok] at h
      obtain ⟨answered, happend, ⟨state_value, action⟩, hafter, -, rfl⟩ := h
      exact answer_requests hruntime hplans (by simp) (by simp) (by simp) happend hafter

/-- An authorization marks the effect in the runtime state, which it makes when there is none. -/
theorem with_active_effect_authorization_requests {authorization proposal : TransitionProposal}
    {owner_epoch : Nat} (run_id : String)
    (h : with_active_effect_authorization authorization owner_epoch = .ok proposal) :
    RequestMove run_id authorization.state_value proposal.state_value none none := by
  unfold with_active_effect_authorization at h
  split at h
  · simp only [bind_eq_ok, checked_eq_ok] at h
    obtain ⟨tool_call_id, -, tool_name, -, runtime, hruntime, -, rfl⟩ := h
    have hafter := runtime_state_with_runtime_state authorization.state_value
    unfold authorized_runtime at hruntime
    split at hruntime
    · next hnone =>
      obtain rfl := Except.ok.inj hruntime
      have hbefore : runtime_state authorization.state_value = .ok initial_runtime_state := by
        rw [runtime_state, JsonObject.get, RUNTIME_STATE_KEY, hnone]
        rfl
      refine .kept ?_ (fun request_id hawaits => ?_) ?_
      · rw [state_round_of_runtime hbefore]
        exact state_round_with_runtime_state _ _
      · obtain ⟨hget, -⟩ := (awaits_of_runtime (hafter _)).mp hawaits
        cases hget
      · intro hqueued
        obtain ⟨plan, rest, hplans⟩ := (queued_of_runtime (hafter _)).mp hqueued
        cases hplans
    · next runtime' hsome =>
      obtain rfl := Except.ok.inj hruntime
      have hbefore : runtime_state authorization.state_value = .ok runtime' := by
        rw [runtime_state, JsonObject.get, RUNTIME_STATE_KEY, hsome]
        rfl
      exact keep_requests hbefore (hafter _) (by simp) (by simp) (by simp)
    · cases hruntime
  · cases h

variable {before after : JsonObject}

theorem reconciliation_requests {evidence : EffectReconciliationEvidence}
    {record : ReconciliationRecord} (run_id : String)
    (h : state_value_with_reconciled_effect before evidence record = .ok after) :
    RequestMove run_id before after none none := by
  obtain ⟨runtime, marker, hruntime, -, rfl⟩ := state_value_with_reconciled_effect_spec h
  have hbefore : runtime_state before = .ok runtime := by
    rw [runtime_state, RUNTIME_STATE_KEY, hruntime]
  exact keep_requests hbefore (runtime_state_with_runtime_state _ _) (by simp) (by simp) (by simp)

theorem authorization_proposal_requests_none {prepared authorization proposal : TransitionProposal}
    {current_state : OperationStateVersion} {preserve_pending : Bool} {owner_epoch : Nat}
    (h : authorization_proposal prepared current_state preserve_pending = .ok authorization)
    (hactive : with_active_effect_authorization authorization owner_epoch = .ok proposal) :
    proposal.next_action.request? = none := by
  rw [with_active_effect_authorization_action hactive]
  unfold authorization_proposal at h
  split at h
  · next plan action_kind haction =>
    rw [checked_eq_ok] at h
    obtain ⟨-, rfl⟩ := h
    rw [haction]
    rfl
  · cases h

variable {event : EngineEvent}

/-- **One step.** An initial input starts the numbers again; every other step is a move. -/
theorem engine_step_requests {before after : OperationStateVersion}
    (h : EngineStep before event after) :
    (event.is_initial ∧ event.completion? = none ∧ ∃ request, event.request? = some request
        ∧ FirstRequest before.run_id after.value request)
      ∨ (¬ event.is_initial
        ∧ RequestMove before.run_id before.value after.value event.request? event.completion?) := by
  obtain ⟨before', action, after'⟩ := event
  obtain ⟨hbefore, hafter, h⟩ := h
  simp only at hbefore hafter h
  subst hbefore hafter
  cases action with
  | proposed step_input proposal =>
    obtain ⟨hpropose, hadopted⟩ := h
    have hother (hne : ∀ initial, step_input ≠ .Initial initial) :
        ¬ EngineEvent.is_initial ⟨before', .proposed step_input proposal, after'⟩ := by
      rintro ⟨initial, other, heq⟩
      exact hne initial (EngineAction.proposed.inj heq).1
    rw [hadopted.value_eq]
    cases step_input with
    | Initial initial =>
      obtain ⟨request, hrequest, hfirst⟩ := propose_initial_first hpropose
      exact .inl ⟨⟨initial, proposal, rfl⟩, rfl, request, hrequest, hfirst⟩
    | ModelGenerationCompleted result =>
      exact .inr ⟨hother (fun _ heq => by cases heq),
        propose_model_completion_counts before'.run_id hpropose⟩
    | EffectSettled settlement =>
      exact .inr ⟨hother (fun _ heq => by cases heq),
        propose_effect_settlement_requests hpropose⟩
    | ApprovalResolved settlement =>
      exact .inr ⟨hother (fun _ heq => by cases heq),
        propose_approval_resolution_requests hpropose⟩
  | authorized prepared preserve_pending owner_epoch proposal =>
    obtain ⟨authorization, happroval, hauthorization, hactive, hadopted⟩ := h
    have hprepared : preserve_pending = true → prepared.state_value = before'.value := by
      intro hpending
      obtain ⟨settlement, happroved, hpropose⟩ := happroval hpending
      exact approved_keeps_value happroved hpropose
    obtain ⟨hvalue, -⟩ := authorization_proposal_keeps hauthorization hprepared
    have hmove := with_active_effect_authorization_requests before'.run_id hactive
    rw [hvalue, ← hadopted.value_eq] at hmove
    have hrequest : EngineEvent.request?
        ⟨before', .authorized prepared preserve_pending owner_epoch proposal, after'⟩ = none :=
      authorization_proposal_requests_none hauthorization hactive
    rw [hrequest]
    exact .inr ⟨fun ⟨_, _, heq⟩ => (by cases heq), hmove⟩
  | reconciled evidence record =>
    obtain ⟨value, hreconciled, hadopted⟩ := h
    rw [hadopted.value_eq]
    exact .inr ⟨fun ⟨_, _, heq⟩ => (by cases heq), reconciliation_requests before'.run_id hreconciled⟩

/-! ## Runs -/

theorem request_ids_snoc (trace : List EngineEvent) (event : EngineEvent) :
    request_ids (trace ++ [event])
      = request_ids trace ++ (event.request?.map ModelRequest.request_id).toList := by
  rw [request_ids, request_ids, filterMap_append, map_append]
  cases hrequest : event.request? <;> simp [hrequest]

theorem completions_snoc (trace : List EngineEvent) (event : EngineEvent) :
    completions (trace ++ [event]) = completions trace + event.completion?.toList.length := by
  rw [completions, completions, filterMap_append, length_append]
  cases hcompletion : event.completion? <;> simp [hcompletion]

variable {trace : List EngineEvent}

theorem AskedLast.of_request {request : ModelRequest} (h : event.request? = some request) :
    AskedLast (trace ++ [event]) request.request_id :=
  ⟨trace, event, [], request, rfl, h, rfl, by simp⟩

theorem AskedLast.snoc {trace : List EngineEvent} {event : EngineEvent} {request_id : String}
    (h : AskedLast trace request_id) (hrequest : event.request? = none)
    (hcompletion : event.completion? = none) : AskedLast (trace ++ [event]) request_id := by
  obtain ⟨earlier, asking, between, request, rfl, hasking, hnamed, hquiet⟩ := h
  refine ⟨earlier, asking, between ++ [event], request, by simp, hasking, hnamed, ?_⟩
  intro other hmem
  rcases mem_snoc hmem with hold | rfl
  · exact hquiet other hold
  · exact ⟨hrequest, hcompletion⟩

section

variable (run_id : String) (count : Nat)

/-- The identities of the first `count` requests of a run. -/
def numbered_ids : List String :=
  (List.range count).map (fun index => model_request_id run_id (index + 1))

theorem numbered_ids_succ : numbered_ids run_id (count + 1)
      = numbered_ids run_id count ++ [model_request_id run_id (count + 1)] := by
  rw [numbered_ids, range_succ, map_append]
  rfl

theorem numbered_ids_length : (numbered_ids run_id count).length = count := by
  rw [numbered_ids, length_map, length_range]

theorem numbered_ids_nodup : (numbered_ids run_id count).Nodup := by
  apply List.Nodup.map _ nodup_range
  intro m n h
  exact Nat.succ.inj (model_request_id_inj h)

end

/-- What a run with at most one initial input keeps: the requests are numbered from one, and
there is one more than the completions while the model is awaited, and as many while calls are
queued. -/
structure Counted (run_id : String) (trace : List EngineEvent) (value : JsonObject) : Prop where
  rounds : state_round value = .ok (completions trace)
  issued : ∃ count, request_ids trace = numbered_ids run_id count
  awaited : ∀ request_id, Awaits value request_id →
    (request_ids trace).length = completions trace + 1 ∧ AskedLast trace request_id
  queued : Queued value → (request_ids trace).length = completions trace
  unstarted : (∀ event ∈ trace, ¬ event.is_initial) →
    request_ids trace = [] ∧ completions trace = 0 ∧ ¬ Queued value

theorem counted_fresh {value : JsonObject} (hfresh : value.get RUNTIME_STATE_KEY = .null) :
    Counted run_id [] value := by
  have hruntime : runtime_state value = .ok initial_runtime_state := by
    rw [runtime_state, hfresh]
  have hqueue : ¬ Queued value := by
    rw [queued_of_runtime hruntime]
    rintro ⟨plan, rest, hplans⟩
    cases hplans
  refine ⟨?_, ⟨0, rfl⟩, fun request_id hawaits => ?_, fun h => absurd h hqueue,
    fun _ => ⟨rfl, rfl, hqueue⟩⟩
  · rw [state_round_of_runtime hruntime]
    rfl
  · obtain ⟨hget, -⟩ := (awaits_of_runtime hruntime).mp hawaits
    cases hget

theorem Counted.first {request : ModelRequest} (h : Counted run_id trace before)
    (hnone : ∀ earlier ∈ trace, ¬ earlier.is_initial) (hinitial : event.is_initial)
    (hcompletion : event.completion? = none) (hrequest : event.request? = some request)
    (hfirst : FirstRequest run_id after request) : Counted run_id (trace ++ [event]) after := by
  obtain ⟨hids, hcount, -⟩ := h.unstarted hnone
  have hids' : request_ids (trace ++ [event]) = [request.request_id] := by
    rw [request_ids_snoc, hids, hrequest]
    rfl
  have hcount' : completions (trace ++ [event]) = 0 := by
    rw [completions_snoc, hcount, hcompletion]
    rfl
  refine ⟨?_, ⟨1, ?_⟩, fun request_id hawaits => ⟨?_, ?_⟩, fun h => absurd h hfirst.empty,
    fun hstill => absurd hinitial (hstill event (by simp))⟩
  · rw [hcount', hfirst.rounds]
  · rw [hids', hfirst.named]
    rfl
  · rw [hids', hcount']
    rfl
  · obtain rfl := hfirst.active request_id hawaits
    exact .of_request hrequest

/-- **Every other step keeps the numbers, and answers the request that is open.** -/
theorem Counted.move (h : Counted run_id trace before) (hother : ¬ event.is_initial)
    (hmove : RequestMove run_id before after event.request? event.completion?) :
    Counted run_id (trace ++ [event]) after ∧ event.Answers trace := by
  have hids := request_ids_snoc trace event
  have hcount := completions_snoc trace event
  generalize hrequest : event.request? = request at hmove hids
  generalize hcompletion : event.completion? = completion at hmove hcount
  have hstarted {P : Prop} (hstill : ∀ other ∈ trace ++ [event], ¬ other.is_initial)
      (hthen : (∀ other ∈ trace, ¬ other.is_initial) → P) : P :=
    hthen (fun other hmem => hstill other (mem_append_left _ hmem))
  cases hmove with
  | asked request round_index queued counted named rounds active empty =>
    have hrounds : completions trace = round_index := by
      rw [h.rounds] at counted
      exact Except.ok.inj counted
    have hlength : (request_ids trace).length = round_index := (h.queued queued).trans hrounds
    obtain ⟨count, hissued⟩ := h.issued
    have hsame : count = round_index := by
      rw [← hlength, hissued, numbered_ids_length]
    refine ⟨⟨?_, ⟨round_index + 1, ?_⟩, fun request_id hawaits => ⟨?_, ?_⟩,
      fun h => absurd h empty, fun hstill => hstarted hstill fun hnone => ?_⟩, ?_⟩
    · rw [rounds, hcount, hrounds]
      rfl
    · rw [hids, hissued, hsame, numbered_ids_succ, ← named]
      rfl
    · rw [hids, hcount, length_append, hlength, hrounds]
      rfl
    · obtain rfl := active request_id hawaits
      exact .of_request hrequest
    · exact absurd queued (h.unstarted hnone).2.2
    · intro result heq
      rw [hcompletion] at heq
      cases heq
  | completed result round_index awaited counted rounds idle =>
    obtain ⟨hlength, hlast⟩ := h.awaited result.request_id awaited
    have hrounds : completions trace = round_index := by
      rw [h.rounds] at counted
      exact Except.ok.inj counted
    have hids' : request_ids (trace ++ [event]) = request_ids trace := by
      rw [hids]
      exact append_nil _
    refine ⟨⟨?_, ?_, fun request_id hawaits => absurd hawaits (idle request_id), fun _ => ?_,
      fun hstill => hstarted hstill fun hnone => ?_⟩, ?_⟩
    · rw [rounds, hcount, hrounds]
      rfl
    · rw [hids']
      exact h.issued
    · rw [hids', hlength, hcount]
      rfl
    · obtain ⟨hnil, -, -⟩ := h.unstarted hnone
      rw [hnil] at hlength
      cases hlength
    · intro other heq
      rw [hcompletion] at heq
      cases heq
      exact hlast
  | kept rounds active queue =>
    have hids' : request_ids (trace ++ [event]) = request_ids trace := by
      rw [hids]
      exact append_nil _
    have hcount' : completions (trace ++ [event]) = completions trace := hcount
    refine ⟨⟨?_, ?_, fun request_id hawaits => ?_, fun hqueued => ?_,
      fun hstill => hstarted hstill fun hnone => ?_⟩, ?_⟩
    · rw [rounds, hcount', h.rounds]
    · rw [hids']
      exact h.issued
    · obtain ⟨hlength, hlast⟩ := h.awaited request_id (active request_id hawaits)
      rw [hids', hcount']
      exact ⟨hlength, hlast.snoc hrequest hcompletion⟩
    · rw [hids', hcount']
      exact h.queued (queue hqueued)
    · obtain ⟨hnil, hzero, hempty⟩ := h.unstarted hnone
      rw [hids', hcount']
      exact ⟨hnil, hzero, fun hqueued => hempty (queue hqueued)⟩
    · intro result heq
      rw [hcompletion] at heq
      cases heq

theorem engine_step_run_id {before after : OperationStateVersion}
    (h : EngineStep before event after) : after.run_id = before.run_id := by
  obtain ⟨before', action, after'⟩ := event
  obtain ⟨hbefore, hafter, h⟩ := h
  simp only at hbefore hafter h
  subst hbefore hafter
  cases action with
  | proposed step_input proposal => exact h.2.run_id
  | authorized prepared preserve_pending owner_epoch proposal =>
    obtain ⟨_, -, -, -, hadopted⟩ := h
    exact hadopted.run_id
  | reconciled evidence record =>
    obtain ⟨_, -, hadopted⟩ := h
    exact hadopted.run_id

/-- **A run with one initial input** keeps its requests apart, answers each at most once, and
counts the answers. -/
theorem requests_kept_of_one_initial {start final : OperationStateVersion}
    (hrun : Run EngineStep start trace final) (hfresh : start.value.get RUNTIME_STATE_KEY = .null)
    (hone : OneInitial trace) :
    RequestsKept trace := by
  have hkept := hrun.history
    (P := fun trace state => OneInitial trace → state.run_id = start.run_id
      ∧ Counted start.run_id trace state.value ∧ Throughout EngineEvent.Answers trace
      ∧ Throughout (fun before event =>
          state_round event.after.value = .ok (completions (before ++ [event]))) trace)
    (fun _ => ⟨rfl, counted_fresh hfresh, .nil, .nil⟩) (by
      intro trace before event after _ ih hstep hone
      obtain ⟨htrace, -, hlast⟩ := pairwise_append.mp hone
      obtain ⟨hrun_id, hcounted, hanswers, hrounds⟩ := ih htrace
      have hevent : event.after = after := hstep.2.1
      have hafter : Counted start.run_id (trace ++ [event]) after.value
          ∧ event.Answers trace := by
        rcases engine_step_requests hstep with
          ⟨hinitial, hcompletion, request, hrequest, hfirst⟩ | ⟨hother, hmove⟩
        · have hnone : ∀ earlier ∈ trace, ¬ earlier.is_initial := fun earlier hmem hearlier =>
            hlast earlier hmem event (mem_singleton_self _) ⟨hearlier, hinitial⟩
          refine ⟨hcounted.first hnone hinitial hcompletion hrequest (hrun_id ▸ hfirst), ?_⟩
          intro result heq
          rw [hcompletion] at heq
          cases heq
        · exact hcounted.move hother (hrun_id ▸ hmove)
      refine ⟨(engine_step_run_id hstep).trans hrun_id, hafter.1, hanswers.snoc hafter.2,
        hrounds.snoc ?_⟩
      rw [hevent]
      exact hafter.1.rounds)
  obtain ⟨-, hcounted, hanswers, hrounds⟩ := hkept hone
  obtain ⟨count, hissued⟩ := hcounted.issued
  refine ⟨?_, hanswers, hrounds⟩
  rw [hissued]
  exact numbered_ids_nodup start.run_id count

theorem initial_asks_first {start final : OperationStateVersion}
    (hrun : Run EngineStep start trace final) (hmem : event ∈ trace) (hinitial : event.is_initial) :
    ∃ request, event.request? = some request
      ∧ request.request_id = model_request_id start.run_id 1 := by
  have hall := hrun.history
    (P := fun trace state => state.run_id = start.run_id ∧ ∀ event ∈ trace, event.is_initial →
      ∃ request, event.request? = some request
        ∧ request.request_id = model_request_id start.run_id 1)
    ⟨rfl, by simp⟩ (by
      rintro trace before event after - ⟨hrun_id, ih⟩ hstep
      refine ⟨(engine_step_run_id hstep).trans hrun_id, ?_⟩
      intro other hother hinitial
      rcases mem_snoc hother with hold | rfl
      · exact ih other hold hinitial
      · rcases engine_step_requests hstep with ⟨-, -, request, hrequest, hfirst⟩ | ⟨hnot, -⟩
        · exact ⟨request, hrequest, hrun_id ▸ hfirst.named⟩
        · exact absurd hinitial hnot)
  exact hall.2 event hmem hinitial

/-- **The requests of a run are kept apart exactly when no two of its inputs are initial ones.** -/
theorem requests_kept_iff {start final : OperationStateVersion} {trace : List EngineEvent}
    (hrun : Run EngineStep start trace final)
    (hfresh : start.value.get RUNTIME_STATE_KEY = .null) :
    RequestsKept trace ↔ OneInitial trace := by
  refine ⟨fun hkept => ?_, requests_kept_of_one_initial hrun hfresh⟩
  have hunique := hkept.unique
  rw [request_ids, List.Nodup, pairwise_map, pairwise_filterMap] at hunique
  refine hunique.imp_of_mem ?_
  rintro earlier later hearlier hlater hne ⟨hfirst, hsecond⟩
  obtain ⟨request, hrequest, hnamed⟩ := initial_asks_first hrun hearlier hfirst
  obtain ⟨other, hother, hsame⟩ := initial_asks_first hrun hlater hsecond
  exact hne request hrequest other hother (hnamed.trans hsame.symm)

/-- A turn with one initial input. -/
theorem requests_kept_sample_turn : ∃ started asked, sample_turn = .ok (started, asked)
    ∧ RequestsKept ([started] ++ [asked]) := by
  have hok : sample_turn.toOption.isSome = true := by decide +kernel
  cases hturn : sample_turn with
  | error error => simp [hturn, Except.toOption] at hok
  | ok turn =>
    have hsteps := hturn
    simp only [sample_turn, bind_eq_ok, pure_eq_ok] at hsteps
    obtain ⟨started, hstarted, asked, hasked, rfl⟩ := hsteps
    have hrun : Run EngineStep sample_operation ([started] ++ [asked]) asked.after :=
      (Run.single (engine_event_step hstarted)).append (Run.single (engine_event_step hasked))
    refine ⟨started, asked, rfl, (requests_kept_iff hrun rfl).mpr ?_⟩
    simp only [engine_event, bind_eq_ok, pure_eq_ok] at hasked
    obtain ⟨_, -, rfl⟩ := hasked
    rw [OneInitial, singleton_append, pairwise_pair]
    rintro ⟨-, step_input, proposal, heq⟩
    cases heq

/-! ## A run that asks twice under one number -/

/-- The request that opens a segment with the input of the step is accepted. -/
def EngineEvent.Accepted (event : EngineEvent) : Prop :=
  ∀ step_input proposal, event.action = .proposed step_input proposal →
    ∃ request : RunSegmentRequest, request.state_version = event.before
      ∧ request.step_input = step_input ∧ request.post_init = .ok ()

def sample_answer : EngineStepInput :=
  .ModelGenerationCompleted
    { result_id := "result"
      request_id := "run:model:1"
      assistant_content := "done"
      tool_calls := [] }

def sample_second_segment : Except StoreError (EngineEvent × EngineEvent × EngineEvent) := do
  let started ← engine_event sample_operation (sample_initial "first")
  let answered ← engine_event started.after sample_answer
  let restarted ← engine_event answered.after (sample_initial "second")
  return (started, answered, restarted)

def sample_request (state_version : OperationStateVersion) (step_input : EngineStepInput) :
    RunSegmentRequest where
  session_id := "session"
  owner_id := "owner"
  owner_epoch := 1
  state_version
  step_input
  max_rounds := 1

theorem sample_accepted {before : OperationStateVersion} {step_input : EngineStepInput}
    (h : engine_event before step_input = .ok event)
    (haccepted : (sample_request before step_input).post_init = .ok ()) : event.Accepted := by
  simp only [engine_event, bind_eq_ok, pure_eq_ok] at h
  obtain ⟨proposal, -, rfl⟩ := h
  rintro other _ heq
  cases heq
  exact ⟨sample_request before step_input, rfl, rfl, haccepted⟩

/-- **The second segment of a run asks under the number of the first.** -/
theorem second_segment_asks_again : ∃ trace final,
    sample_operation.value.get RUNTIME_STATE_KEY = .null
      ∧ Run EngineStep sample_operation trace final
      ∧ (∀ event ∈ trace, event.Accepted) ∧ ¬ RequestsKept trace := by
  have hlast : sample_second_segment.toOption.map (fun turn =>
      (request_ids [turn.1, turn.2.1, turn.2.2],
        (sample_request turn.1.before (sample_initial "first")).post_init,
        (sample_request turn.2.1.before sample_answer).post_init,
        (sample_request turn.2.2.before (sample_initial "second")).post_init))
      = some (["run:model:1", "run:model:1"], .ok (), .ok (), .ok ()) := by decide +kernel
  cases hturn : sample_second_segment with
  | error error => simp [hturn, Except.toOption] at hlast
  | ok turn =>
    have hsteps := hturn
    simp only [sample_second_segment, bind_eq_ok, pure_eq_ok] at hsteps
    obtain ⟨started, hstarted, answered, hanswered, restarted, hrestarted, rfl⟩ := hsteps
    simp only [hturn, Except.toOption, Option.map_some, Option.some.injEq,
      Prod.mk.injEq] at hlast
    obtain ⟨hids, hfirst, hsecond, hthird⟩ := hlast
    have hbefore {before : OperationStateVersion} {step_input : EngineStepInput}
        {event : EngineEvent} (h : engine_event before step_input = .ok event) :
        event.before = before := (engine_event_step h).1
    rw [hbefore hstarted] at hfirst
    rw [hbefore hanswered] at hsecond
    rw [hbefore hrestarted] at hthird
    refine ⟨[started] ++ [answered] ++ [restarted], restarted.after, rfl,
      ((Run.single (engine_event_step hstarted)).append
        (Run.single (engine_event_step hanswered))).append
        (Run.single (engine_event_step hrestarted)), ?_, ?_⟩
    · intro event hmem
      simp only [cons_append, nil_append, mem_cons, not_mem_nil,
        or_false] at hmem
      rcases hmem with rfl | rfl | rfl
      · exact sample_accepted hstarted hfirst
      · exact sample_accepted hanswered hsecond
      · exact sample_accepted hrestarted hthird
    · intro hkept
      have hunique := hkept.unique
      have htrace : [started] ++ [answered] ++ [restarted] = [started, answered, restarted] := rfl
      rw [htrace, hids] at hunique
      exact absurd hunique (by decide)

end CodingAgentLoop
