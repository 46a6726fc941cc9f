/-
When the messages given to the provider are well formed.

A rejected call gets its result on the tape at once, an accepted one when all are executed.
The calls of one response are one message as long as no result stands between them, so a
rejected call ends the group it is in. The calls accepted before it are answered only
after everything else of the response: that is too late if another call follows.

`in_order` says that none does. Then the tape of a turn goes from one well-formed state to
the next round by round, and with the messages rebuilt from it (`ContextRebuild.lean`) so
does what the provider is given.
-/
import CodingAgentLoop.ContextRebuild
import CodingAgentLoop.MessageBlocks

open Lib Lib.Result

namespace CodingAgentLoop

open TurnState Action ToolCallRequest TapeView JsonObject List

/-! ## The statement -/

def accepts (inputs : CallInputs) (call : ToolCallRequest) : Bool :=
  inputs.validation = none
    ∧ (is_proxy_affordance call.name ∨ (inputs.approval.toOption.any (·.approved)) = true)

/-- After an accepted call: the others are accepted too, save the last. -/
def accepted_to_last : List Bool → Bool
  | [] => true
  | true :: rest => accepted_to_last rest
  | false :: rest => rest.isEmpty

/-- No call follows a rejected one that an accepted one precedes. -/
def in_order : List Bool → Bool
  | [] => true
  | false :: rest => in_order rest
  | true :: rest => accepted_to_last rest

def unseen (text : JsonText) (entry : Entry) : Prop :=
  quiet text entry = true ∧ entry.marked_handoff = false

/-- The executors append nothing the model sees. -/
structure ExecutionInputs.Unseen (text : JsonText) (inputs : ExecutionInputs) : Prop where
  batch_hooks : ∀ reply ∈ inputs.batch_hooks, ∀ entry ∈ reply.appended, unseen text entry
  executors : ∀ index, ∀ reply ∈ inputs.executors index, ∀ entry ∈ reply.appended,
    unseen text entry
  proxied : ∀ index, ∀ entry ∈ (inputs.proxied index).appended, unseen text entry

def BuildInputs.WellGrounded (inputs : BuildInputs) : Prop :=
  ∀ results, inputs.build_context = .ok results → WellFormed results.flatten

/-- What is asked of a round: calls with distinct ids, rejected in order, executed without other
entries, and a well-formed grounding. -/
structure RoundInputs.Orderly (text : JsonText) (inputs : RoundInputs) : Prop where
  distinct : ∀ response, read_stream inputs = .ok response →
    (response.tool_calls.map (·.tool_call_id)).Nodup
  in_order : ∀ response, read_stream inputs = .ok response →
    in_order (response.tool_calls.zipIdx.map (fun (call, index) =>
      accepts (inputs.calls index) call)) = true
  unseen : inputs.execution.Unseen text
  prompt_context : inputs.prompt_context.WellGrounded
  context : inputs.context.WellGrounded

/-- What is asked of a turn. -/
structure TurnInputs.Orderly (text : JsonText) (inputs : TurnInputs) : Prop where
  context : inputs.context.WellGrounded
  prompt_context : inputs.prompt_context.WellGrounded
  rounds : ∀ index, (inputs.rounds index).Orderly text

/-- The messages built from a tape are well formed, and its window lies in it. -/
structure Tape.Tidy (text : JsonText) (tape : Tape) : Prop where
  inside : tape.window_start ≤ tape.entries.length
  built : ∃ core, build_core_messages text (visible_entries tape) = .ok core
    ∧ WellFormed core

instance (text : JsonText) (tape : Tape) : Decidable (tape.Tidy text) :=
  decidable_of_iff (tape.window_start ≤ tape.entries.length
      ∧ ∃ core ∈ (build_core_messages text (visible_entries tape)).toOption,
        WellFormed core)
    ⟨fun ⟨hinside, core, hcore, hformed⟩ => ⟨hinside, core, by
        cases hbuild : build_core_messages text (visible_entries tape) with
        | error error => rw [hbuild] at hcore; cases hcore
        | ok core' =>
          rw [hbuild] at hcore
          obtain rfl : core' = core := Option.some.inj hcore
          rfl, hformed⟩,
      fun ⟨hinside, core, hbuild, hformed⟩ => ⟨hinside, core, by rw [hbuild]; rfl, hformed⟩⟩

variable {text : JsonText}

/-! ## The block a tape ends in -/

/-- The entries the model sees end in a block; `opened` tells whether a group is open. -/
structure Tape.Ends (text : JsonText) (tape : Tape) (block : Block) (opened : Bool) : Prop where
  inside : tape.window_start ≤ tape.entries.length
  reaches : ∃ state, each (visible_entries tape) (take_entry text) {}
    = (.ok (), state) ∧ Reaches text state block ∧ state.pending.isSome = opened

variable {tape : Tape}

theorem tidy_iff :
    tape.Tidy text ↔ ∃ block opened, tape.Ends text block opened ∧ block.Complete := by
  constructor
  · rintro ⟨hinside, core, hbuild, block, hblock, hcomplete⟩
    obtain ⟨state, heach, hclose⟩ := build_eq_ok hbuild
    exact ⟨block, _, ⟨hinside, state, heach, ⟨core, hclose, hblock⟩, rfl⟩, hcomplete⟩
  · rintro ⟨block, opened, ⟨hinside, state, heach, ⟨core, hclose, hblock⟩, _⟩, hcomplete⟩
    refine ⟨hinside, core, ?_, block, hblock, hcomplete⟩
    have hrun : take_entries text (visible_entries tape) {}
        = (.ok (), { messages := core }) := (bind_ok heach).trans hclose
    unfold build_core_messages append_to_core_messages
    rw [hrun]

variable {entry : Entry}

theorem Tape.Ends.append {block block' : Block} {opened opened' : Bool}
    (h : tape.Ends text block opened) (hmarked : entry.marked_handoff = false)
    (hstep : ∀ state, Reaches text state block → state.pending.isSome = opened →
      ∃ state', take_entry text entry state = (.ok (), state') ∧ state'.pending.isSome = opened'
        ∧ Reaches text state' block') : (tape.append entry).Ends text block' opened' := by
  obtain ⟨hinside, state, heach, hreaches, hopened⟩ := h
  obtain ⟨state', htake, hopened', hreaches'⟩ := hstep state hreaches hopened
  have hview : visible_entries (tape.append entry)
      = visible_entries tape ++ [entry] :=
    visible_entries_extend rfl rfl hinside (fun _ other hother => by
      rw [mem_singleton.mp hother]
      exact hmarked)
  refine ⟨?_, state', ?_, hreaches', hopened'⟩
  · show tape.window_start ≤ (tape.entries ++ [entry]).length
    rw [length_append]
    omega
  · rw [hview, each_append, bind_ok heach]
    exact bind_ok htake

variable {block : Block} {opened : Bool}

theorem Tape.Ends.unseen (h : tape.Ends text block opened) (hunseen : unseen text entry) :
    (tape.append entry).Ends text block (if entry.kind = "tool_call" then opened else false) := by
  refine h.append hunseen.2 (fun state hreaches hopened => ?_)
  obtain ⟨state', htake, hreaches'⟩ := hreaches.quiet hunseen.1
  refine ⟨state', htake, ?_, hreaches'⟩
  rw [take_entry_pending htake, hopened]
  by_cases hkind : entry.kind = "tool_call"
  · have hskip : entry.skip_context = true := by
      have := hunseen.1
      rwa [quiet, if_pos hkind] at this
    rw [if_pos hkind, if_pos hkind, hskip, Bool.not_true, Bool.or_false]
  · rw [if_neg hkind, if_neg hkind]

/-! ## The entries of a round -/

theorem new_unmarked {kind : String} (payload : JsonObject) (stamp : EntryStamp)
    (hkind : kind ≠ "anchor") : (Entry.new kind payload stamp).marked_handoff = false := by
  simp [Entry.new, Entry.marked_handoff, Entry.kind, hkind]

theorem call_entry_isCall (response : Response) (call : ToolCallRequest) (index : Nat)
    (stamp : EntryStamp) :
    IsCall (.new "tool_call" (response.call_payload call index) stamp) (.str call.tool_call_id) := by
  refine ⟨rfl, rfl, ?_, ?_⟩
  · show get_or (response.call_payload call index) "role" (.str "assistant") = _
    unfold Response.call_payload
    split
    · rfl
    · rfl
  · refine ⟨[("id", .str call.tool_call_id), ("name", .str call.name),
      ("arguments", .obj call.arguments)], ?_, rfl⟩
    unfold Entry.calls Response.call_payload
    by_cases hfirst : index = 0 ∧ response.thinking_chunks ≠ [] ∧ response.text_chunks = []
    · rw [if_pos hfirst]
      rfl
    · rw [if_neg hfirst]
      rfl

theorem Tape.Ends.open_call {id : Json} (h : tape.Ends text block opened)
    (hcomplete : block.Complete) (hcall : IsCall entry id)
    (hmarked : entry.marked_handoff = false) :
    (tape.append entry).Ends text { call_ids := [id] } true :=
  h.append hmarked (fun _ hreaches _ => hreaches.open hcomplete hcall)

theorem Tape.Ends.more_call {id : Json} (h : tape.Ends text block true) (hcall : IsCall entry id)
    (hmarked : entry.marked_handoff = false) :
    (tape.append entry).Ends text { call_ids := block.call_ids ++ [id] } true :=
  h.append hmarked (fun _ hreaches hopened => hreaches.more hopened hcall)

theorem Tape.Ends.result (id content : String) (stamp : EntryStamp)
    (h : tape.Ends text block opened) (hid : .str id ∈ block.call_ids) :
    (tape.append (.new "tool_result" (result_payload id content) stamp)).Ends text
      { block with answered := block.answered ++ [.str id] } false := by
  refine h.append (new_unmarked _ _ (by decide)) (fun state hreaches _ => ?_)
  have hadded : added_message text (.new "tool_result" (result_payload id content) stamp)
      = [[("role", .str "tool"), ("tool_call_id", .str id), ("content", .str content)]] := rfl
  have hnext : block.next [("role", .str "tool"), ("tool_call_id", .str id),
      ("content", .str content)] = some { block with answered := block.answered ++ [.str id] } := by
    unfold Block.next
    rw [if_pos (by rfl)]
    exact if_pos hid
  have hkind : (Entry.new "tool_result" (result_payload id content) stamp).kind ≠ "tool_call" := by
    show "tool_result" ≠ "tool_call"
    decide
  obtain ⟨state', htake, hpending, hreaches'⟩ := hreaches.message hkind hadded hnext
  exact ⟨state', htake, by rw [hpending]; rfl, hreaches'⟩

theorem Tape.Ends.assistant_text (response : Response) (stamp : EntryStamp)
    (h : tape.Ends text block opened) (hcomplete : block.Complete) :
    (tape.append (.new "message" response.text_payload stamp)).Ends text {} false := by
  refine h.append (new_unmarked _ _ (by decide)) (fun state hreaches _ => ?_)
  obtain ⟨message, hadded, hplain, hcalls⟩ : ∃ message,
      added_message text (.new "message" response.text_payload stamp) = [message]
        ∧ message.is_answer = false ∧ message.call_ids = [] := by
    refine ⟨_, rfl, ?_, ?_⟩
    · have hrole : find response.text_payload "role" = some (.str "assistant") := by
        unfold Response.text_payload
        split <;> rfl
      simp [Message.is_answer, JsonObject.get, with_reasoning_find, find_cons,
        Entry.new, Entry.payload, Entry.fields, get_or, hrole]
    · simp [Message.call_ids, JsonObject.get, with_reasoning_find, find_cons]
  have hnext : block.next message = some {} := by
    rw [next_plain hplain, if_pos hcomplete, hcalls]
  have hkind : (Entry.new "message" response.text_payload stamp).kind ≠ "tool_call" := by
    show "message" ≠ "tool_call"
    decide
  obtain ⟨state', htake, hpending, hreaches'⟩ := hreaches.message hkind hadded hnext
  exact ⟨state', htake, by rw [hpending]; rfl, hreaches'⟩

/-! ## The execution -/

def EndsIn (text : JsonText) (block : Block) (tape : Tape) : Prop :=
  ∃ opened, tape.Ends text block opened

theorem ExecutionInputs.Unseen.leaves {inputs : ExecutionInputs} (h : inputs.Unseen text)
    (block : Block) : inputs.Leaves (EndsIn text block) where
  batch_hooks reply hreply entry hentry tape := fun ⟨_, hends⟩ =>
    ⟨_, hends.unseen (h.batch_hooks reply hreply entry hentry)⟩
  executors index reply hreply entry hentry tape := fun ⟨_, hends⟩ =>
    ⟨_, hends.unseen (h.executors index reply hreply entry hentry)⟩
  proxied index entry hentry tape := fun ⟨_, hends⟩ =>
    ⟨_, hends.unseen (h.proxied index entry hentry)⟩

/-! ## The calls of a response -/

def ToolCallRequest.json_id (call : ToolCallRequest) : Json := .str call.tool_call_id

def accepted_ids (offered : List (Option ToolCallRequest)) : List Json :=
  offered.reduceOption.map json_id

variable {state state' : TurnState}

theorem reject_call_run {inputs : CallInputs} {call : ToolCallRequest} {message : String}
    {offered : Option ToolCallRequest}
    (h : reject_call inputs call message state = (.ok offered, state')) :
    offered = none ∧ state' = state.append
      (.new "tool_result" (result_payload call.tool_call_id message) inputs.rejection_stamp) := by
  obtain ⟨_, mid, hmodify, hrest⟩ := bind_eq_ok.mp h
  obtain ⟨_, mid', hlift, hpure⟩ := bind_eq_ok.mp hrest
  obtain ⟨rfl, rfl⟩ := pure_eq_ok.mp hpure
  obtain rfl := (Prod.mk.inj hmodify).2
  obtain rfl := (Prod.mk.inj hlift).2
  exact ⟨rfl, rfl⟩

def call_entry (response : Response) (inputs : CallInputs) (call : ToolCallRequest)
    (index : Nat) : Entry :=
  .new "tool_call" (response.call_payload call index) inputs.call_stamp

variable {response : Response}

/-- A call that is offered, run: an accepted one has its entry on the tape, a rejected one its
result too. -/
theorem offer_call_run {inputs : CallInputs} {call : ToolCallRequest} {index : Nat}
    {offered : Option ToolCallRequest}
    (h : offer_call response inputs call index state = (.ok offered, state')) :
    (accepts inputs call = true ∧ offered = some call
        ∧ state' = state.append (call_entry response inputs call index))
      ∨ (accepts inputs call = false ∧ offered = none ∧ ∃ message,
        state' = (state.append (call_entry response inputs call index)).append
          (.new "tool_result" (result_payload call.tool_call_id message)
            inputs.rejection_stamp)) := by
  obtain ⟨_, mid, hmodify, hrest⟩ := bind_eq_ok.mp h
  obtain rfl : state.append (call_entry response inputs call index) = mid :=
    (Prod.mk.inj hmodify).2
  cases hvalidation : inputs.validation with
  | some message =>
    simp only [hvalidation] at hrest
    obtain ⟨rfl, rfl⟩ := reject_call_run hrest
    exact Or.inr ⟨by simp [accepts, hvalidation], rfl, _, rfl⟩
  | none =>
    simp only [hvalidation] at hrest
    by_cases hproxy : is_proxy_affordance call.name = true
    · rw [if_pos hproxy] at hrest
      obtain ⟨rfl, rfl⟩ := pure_eq_ok.mp hrest
      exact Or.inl ⟨by simp [accepts, hvalidation, hproxy], rfl, rfl⟩
    · rw [if_neg hproxy] at hrest
      obtain ⟨approval, mid', hlift, hdecide⟩ := bind_eq_ok.mp hrest
      obtain ⟨happroval, rfl⟩ := Prod.mk.inj hlift
      by_cases happroved : approval.approved = true
      · rw [if_pos happroved] at hdecide
        obtain ⟨rfl, rfl⟩ := pure_eq_ok.mp hdecide
        refine Or.inl ⟨?_, rfl, rfl⟩
        simp [accepts, hvalidation, happroval, happroved, Except.toOption]
      · rw [if_neg happroved] at hdecide
        obtain ⟨rfl, rfl⟩ := reject_call_run hdecide
        refine Or.inr ⟨?_, rfl, _, rfl⟩
        simp [accepts, hvalidation, hproxy, happroval, happroved, Except.toOption]

variable {offered : List (Option ToolCallRequest)}

theorem offer_calls_more {inputs : Nat → CallInputs} {items : List (ToolCallRequest × Nat)}
    {call_ids : List Json}
    (horder : accepted_to_last (items.map (fun (call, index) => accepts (inputs index) call)) = true)
    (hends : state.ctx.tape.Ends text { call_ids } true)
    (hrun : offer_calls response inputs items state = (.ok offered, state')) :
    ∃ rejected, accepted_ids offered ++ rejected = items.map (·.1.json_id)
      ∧ EndsIn text { call_ids := call_ids ++ (accepted_ids offered ++ rejected)
                      answered := rejected } state'.ctx.tape := by
  induction items generalizing call_ids state offered with
  | nil =>
    obtain ⟨rfl, rfl⟩ := pure_eq_ok.mp hrun
    refine ⟨[], rfl, true, ?_⟩
    show state.ctx.tape.Ends text { call_ids := call_ids ++ [] } true
    rw [append_nil]
    exact hends
  | cons item rest ih =>
    obtain ⟨call, index⟩ := item
    obtain ⟨first, mid, offered', hfirst, hrest, rfl⟩ := collect_cons_eq_ok.mp hrun
    have hjoined : (state.append (call_entry response (inputs index) call index)).ctx.tape.Ends
        text { call_ids := call_ids ++ [call.json_id] } true :=
      hends.more_call (call_entry_isCall response call index _) (new_unmarked _ _ (by decide))
    rcases offer_call_run hfirst with
      ⟨haccepted, rfl, rfl⟩ | ⟨hrejected, rfl, message, rfl⟩
    · have horder' : accepted_to_last
          (rest.map (fun (call, index) => accepts (inputs index) call)) = true := by
        simpa [accepted_to_last, haccepted] using horder
      obtain ⟨rejected, hids, hmore⟩ := ih horder' hjoined hrest
      refine ⟨rejected, ?_, ?_⟩
      · show call.json_id :: (accepted_ids offered' ++ rejected) = _
        rw [hids]
        rfl
      · rw [append_assoc] at hmore
        exact hmore
    · -- a rejected call is the last one
      have hlast : rest = [] := by
        simpa [accepted_to_last, hrejected] using horder
      subst hlast
      obtain ⟨rfl, rfl⟩ := pure_eq_ok.mp hrest
      refine ⟨[call.json_id], rfl, false, ?_⟩
      exact hjoined.result call.tool_call_id message (inputs index).rejection_stamp
        (by simp [json_id])

/-- The calls of a response, by induction: a rejected one is a block of its own until one is
accepted. -/
theorem offer_calls_spec {inputs : Nat → CallInputs} {items : List (ToolCallRequest × Nat)}
    (horder : in_order (items.map (fun (call, index) => accepts (inputs index) call)) = true)
    (hdistinct : (items.map (·.1.json_id)).Nodup) (htidy : state.ctx.tape.Tidy text)
    (hrun : offer_calls response inputs items state = (.ok offered, state')) :
    (offered.reduceOption = [] ∧ state'.ctx.tape.Tidy text)
      ∨ ∃ rejected, (accepted_ids offered ++ rejected).Nodup
        ∧ EndsIn text { call_ids := accepted_ids offered ++ rejected, answered := rejected }
          state'.ctx.tape := by
  induction items generalizing state offered with
  | nil =>
    obtain ⟨rfl, rfl⟩ := pure_eq_ok.mp hrun
    exact Or.inl ⟨rfl, htidy⟩
  | cons item rest ih =>
    obtain ⟨call, index⟩ := item
    obtain ⟨first, mid, offered', hfirst, hrest, rfl⟩ := collect_cons_eq_ok.mp hrun
    obtain ⟨block, opened, hends, hcomplete⟩ := tidy_iff.mp htidy
    have hopened : (state.append (call_entry response (inputs index) call index)).ctx.tape.Ends
        text { call_ids := [call.json_id] } true :=
      hends.open_call hcomplete (call_entry_isCall response call index _)
        (new_unmarked _ _ (by decide))
    rcases offer_call_run hfirst with
      ⟨haccepted, rfl, rfl⟩ | ⟨hrejected, rfl, message, rfl⟩
    · have horder' : accepted_to_last
          (rest.map (fun (call, index) => accepts (inputs index) call)) = true := by
        simpa [in_order, haccepted] using horder
      obtain ⟨rejected, hids, hmore⟩ := offer_calls_more horder' hopened hrest
      refine Or.inr ⟨rejected, ?_, hmore⟩
      show (call.json_id :: (accepted_ids offered' ++ rejected)).Nodup
      rw [hids]
      exact hdistinct
    · have hanswered := hopened.result call.tool_call_id message (inputs index).rejection_stamp
        (by simp [json_id])
      have htidy' : ((state.append (call_entry response (inputs index) call index)).append
          (.new "tool_result" (result_payload call.tool_call_id message)
            (inputs index).rejection_stamp)).ctx.tape.Tidy text := by
        refine tidy_iff.mpr ⟨_, _, hanswered, fun id hid => ?_⟩
        obtain rfl := mem_singleton.mp hid
        simp [json_id]
      have horder' : in_order
          (rest.map (fun (call, index) => accepts (inputs index) call)) = true := by
        simpa [in_order, hrejected] using horder
      have hmore := ih horder' (nodup_cons.mp hdistinct).2 htidy' hrest
      exact hmore

/-! ## The results -/

variable {inputs : RoundInputs}

theorem record_result_run {result : ToolExecutionResult} {index : Nat}
    (h : record_result text inputs result index state = (.ok (), state')) :
    ∃ content, state' = state.append (.new "tool_result"
      (result_payload result.tool_call_id content) (inputs.result_stamps index)) := by
  obtain ⟨start, mid, hget, hrest⟩ := bind_eq_ok.mp h
  obtain ⟨_, mid', hmodify, hlift⟩ := bind_eq_ok.mp hrest
  obtain rfl := (Prod.mk.inj hget).2
  obtain rfl := (Prod.mk.inj hmodify).2
  exact ⟨_, (Prod.mk.inj hlift).2.symm⟩

theorem record_results_spec {results : List ToolExecutionResult} {start : Nat}
    (hends : EndsIn text block state.ctx.tape)
    (hids : ∀ id ∈ result_ids results, .str id ∈ block.call_ids)
    (hrun : each (results.zipIdx start) (fun (result, index) =>
      record_result text inputs result index) state = (.ok (), state')) :
    EndsIn text { block with answered := block.answered ++ (result_ids results).map .str }
      state'.ctx.tape := by
  induction results generalizing start block state with
  | nil =>
    obtain ⟨_, rfl⟩ := pure_eq_ok.mp hrun
    show EndsIn text { block with answered := block.answered ++ [] } _
    rw [append_nil]
    exact hends
  | cons result rest ih =>
    rw [zipIdx_cons] at hrun
    obtain ⟨mid, hfirst, hrest⟩ := each_cons_eq_ok.mp hrun
    obtain ⟨content, rfl⟩ := record_result_run hfirst
    obtain ⟨opened, hends⟩ := hends
    have hanswered : EndsIn text
        { block with answered := block.answered ++ [.str result.tool_call_id] }
        (state.append (.new "tool_result" (result_payload result.tool_call_id content)
          (inputs.result_stamps start))).ctx.tape :=
      ⟨_, hends.result result.tool_call_id content (inputs.result_stamps start)
        (hids _ mem_cons_self)⟩
    have := ih hanswered (fun id hid => hids id (mem_cons_of_mem _ hid)) hrest
    simpa [result_ids, append_assoc] using this

theorem complete_of_nodup {accepted rejected : List Json} (h : (accepted ++ rejected).Nodup) :
    Block.Complete { call_ids := accepted ++ rejected, answered := rejected ++ accepted } := by
  intro id hid
  have hperm : (rejected ++ accepted).Perm (accepted ++ rejected) := perm_append_comm
  show (rejected ++ accepted).count id = 1
  rw [hperm.count_eq]
  exact count_eq_one_of_mem h hid

theorem execute_calls_spec (hunseen : inputs.execution.Unseen text) {calls : List ToolCallRequest}
    {rejected : List Json} {length : Nat}
    (hnodup : (calls.map json_id ++ rejected).Nodup)
    (hends : EndsIn text { call_ids := calls.map json_id ++ rejected
                           answered := rejected } state.ctx.tape)
    (hrun : execute_calls text inputs calls state = (.ok length, state')) :
    state'.ctx.tape.Tidy text := by
  obtain ⟨_, mid, hinterrupt, hrun⟩ := bind_eq_ok.mp hrun
  obtain rfl := (Prod.mk.inj hinterrupt).2
  obtain ⟨start, mid, hget, hrun⟩ := bind_eq_ok.mp hrun
  obtain rfl := (Prod.mk.inj hget).2
  obtain ⟨results, mid, hexecute, hrun⟩ := bind_eq_ok.mp hrun
  obtain ⟨_, final, hrecord, hpure⟩ := bind_eq_ok.mp hrun
  obtain ⟨_, rfl⟩ := pure_eq_ok.mp hpure
  have hzoomed : Ensures (fun state : TurnState => EndsIn text
        { call_ids := calls.map json_id ++ rejected, answered := rejected }
        state.ctx.tape)
      ((execute_tools inputs.execution calls).zoom (·.ctx.tape) with_tape)
      (fun results state => result_ids results = calls.map (·.tool_call_id)
        ∧ EndsIn text { call_ids := calls.map json_id ++ rejected
                        answered := rejected } state.ctx.tape) (fun _ => True) :=
    Ensures.zoom (execute_tools_spec (hunseen.leaves _) calls) (fun _ h => h) (fun _ _ _ _ h => h)
      (fun _ _ _ _ => trivial)
  obtain ⟨hids, hmid⟩ := hzoomed.ok hends hexecute
  have hjson : (result_ids results).map Json.str = calls.map json_id := by
    rw [hids, map_map]
    rfl
  have hmem : ∀ id ∈ result_ids results,
      .str id ∈ calls.map json_id ++ rejected := fun id hid =>
    mem_append_left _ (by rw [← hjson]; exact mem_map_of_mem hid)
  obtain ⟨opened, hfinal⟩ := record_results_spec hmid hmem hrecord
  refine tidy_iff.mpr ⟨_, opened, hfinal, ?_⟩
  rw [hjson]
  exact complete_of_nodup hnodup

theorem tidy_of_offered (hnil : offered.reduceOption = [])
    (h : (offered.reduceOption = [] ∧ tape.Tidy text)
      ∨ ∃ rejected, (accepted_ids offered ++ rejected).Nodup
        ∧ EndsIn text { call_ids := accepted_ids offered ++ rejected, answered := rejected } tape) :
    tape.Tidy text := by
  rcases h with ⟨_, htidy⟩ | ⟨rejected, hnodup, opened, hends⟩
  · exact htidy
  · refine tidy_iff.mpr ⟨_, opened, hends, ?_⟩
    have hids : accepted_ids offered = [] := by
      unfold accepted_ids
      rw [hnil]
      rfl
    have := complete_of_nodup hnodup
    rw [hids, append_nil, nil_append] at this
    rw [hids, nil_append]
    exact this

/-! ## A turn -/

/-- The window has moved since the turn began, or what was sent is in order and the state is as
`inv` says. -/
def SendsOrderly (text : JsonText) (moves sent : Nat) (inv : TurnState → Prop) (state : TurnState) :
    Prop :=
  moves < state.journal.window_moves
    ∨ (state.journal.window_moves = moves
      ∧ (∀ call ∈ state.journal.sent.drop sent, call.tape.Tidy text ∧ WellFormed call.grounding)
      ∧ inv state)

def TurnState.Tidy (text : JsonText) (state : TurnState) : Prop := state.ctx.tape.Tidy text

def TurnState.Grounded (text : JsonText) (state : TurnState) : Prop :=
  state.Tidy text ∧ WellFormed state.journal.grounding

variable {moves sent : Nat}

theorem SendsOrderly.mono {inv inv' : TurnState → Prop} {state : TurnState}
    (h : SendsOrderly text moves sent inv state) (himp : inv state → inv' state) :
    SendsOrderly text moves sent inv' state :=
  h.imp_right (fun ⟨hmoves, hsent, hinv⟩ => ⟨hmoves, hsent, himp hinv⟩)

theorem guarded_kept {α : Type} {action : TurnAction α} {inv : TurnState → Prop}
    {result : α → TurnState → Prop}
    (hkept : ∀ {inv : TurnState → Prop}, KeptOnly inv → Ensures inv action (fun _ => inv) inv)
    (hrun : ∀ state a state', inv state → action state = (.ok a, state') → result a state') :
    Ensures (SendsOrderly text moves sent inv) action (fun a => SendsOrderly text moves sent (result a))
      (SendsOrderly text moves sent (fun _ => True)) := by
  have hjournal : ∀ state : TurnState, Ensures
      (fun other : TurnState => other.journal = state.journal) action
      (fun _ other => other.journal = state.journal) (fun other => other.journal = state.journal) :=
    fun state => hkept (fun _ h _ _ _ hsame => hsame.trans h)
  refine Ensures.of_run (fun state h a state' hok => ?_) (fun state h error state' herror => ?_)
  · have hsame := (hjournal state).ok rfl hok
    unfold SendsOrderly at h ⊢
    rw [hsame]
    exact h.imp_right (fun ⟨hmoves, hsent, hinv⟩ => ⟨hmoves, hsent, hrun state a state' hinv hok⟩)
  · have hsame := (hjournal state).error rfl herror
    unfold SendsOrderly at h ⊢
    rw [hsame]
    exact h.imp_right (fun ⟨hmoves, hsent, _⟩ => ⟨hmoves, hsent, trivial⟩)

theorem keptOnly_guarded : KeptOnly (SendsOrderly text moves sent (fun _ => True)) := by
  intro state h state' _ _ hsame
  unfold SendsOrderly
  rw [hsame]
  exact h

theorem guarded_answer {α : Type} {inv : TurnState → Prop} (answer : Except TurnError α) :
    Ensures (SendsOrderly text moves sent inv) (lift answer)
      (fun a state => answer = .ok a ∧ SendsOrderly text moves sent inv state)
      (SendsOrderly text moves sent (fun _ => True)) :=
  Ensures.lift (fun _ ha _ h => ⟨ha, h⟩) (fun _ _ _ h => h.mono (fun _ => trivial))

theorem guarded_advance_window (inputs : BuildInputs) :
    Ensures (SendsOrderly text moves sent (Tidy text)) (advance_window inputs)
      (fun _ => SendsOrderly text moves sent (Tidy text))
      (SendsOrderly text moves sent (fun _ => True)) := by
  have hmoved : ∀ state state' : TurnState, SendsOrderly text moves sent (Tidy text) state →
      state'.journal.window_moves = state.journal.window_moves + 1 →
      SendsOrderly text moves sent (Tidy text) state' := by
    intro state state' h hmoves
    refine Or.inl ?_
    rcases h with h | ⟨h, _⟩ <;> omega
  unfold advance_window
  refine (guarded_answer _).bind (fun answer => ?_)
  cases answer with
  | unexpected => exact Ensures.pure (fun _ h => h.2)
  | unanswered =>
    refine Ensures.bind (Q := fun _ => SendsOrderly text moves sent (Tidy text))
      ((guarded_answer _).mono (fun _ h => h.2) (fun _ _ h => h.2) (fun _ h => h))
      (fun summary => ?_)
    cases summary with
    | none => exact Ensures.pure (fun _ h => h)
    | some entries =>
      exact Ensures.bind (Q := fun _ => SendsOrderly text moves sent (Tidy text))
        (Ensures.modify (fun state h => hmoved state _ h rfl))
        (fun _ => Ensures.pure (fun _ h => h))
  | window window_start summary_anchor =>
    cases summary_anchor with
    | none => exact Ensures.pure (fun _ h => h.2)
    | some anchor =>
      refine Ensures.bind (Q := fun _ => SendsOrderly text moves sent (Tidy text))
        (Ensures.get (fun _ h => h.2)) (fun start => ?_)
      dsimp only
      split
      · exact Ensures.bind (Q := fun _ => SendsOrderly text moves sent (Tidy text))
          (Ensures.modify (fun state h => hmoved state _ h rfl))
          (fun _ => Ensures.pure (fun _ h => h))
      · exact Ensures.pure (fun _ h => h)

/-- A completed build has its grounding in the journal; one that breaks off changes nothing that
was sent. -/
theorem guarded_rebuild_context {grounding : List Message} (hgrounding : WellFormed grounding) :
    Ensures (SendsOrderly text moves sent (Tidy text)) (rebuild_context text grounding)
      (fun _ => SendsOrderly text moves sent (TurnState.Grounded text))
      (SendsOrderly text moves sent (fun _ => True)) := by
  refine Ensures.of_run (fun state h _ state' hrun => ?_) (fun state h error state' hrun => ?_)
  · rw [rebuild_context_run] at hrun
    cases hbuild : build_core_messages text (visible_entries state.ctx.tape) with
    | error error => rw [hbuild] at hrun; cases hrun
    | ok core =>
      rw [hbuild] at hrun
      obtain rfl : state.rebuilt core grounding = state' := (Prod.mk.inj hrun).2
      exact h.imp_right (fun ⟨hmoves, hsent, htidy⟩ => ⟨hmoves, hsent, htidy, hgrounding⟩)
  · rw [rebuild_context_run] at hrun
    cases hbuild : build_core_messages text (visible_entries state.ctx.tape) with
    | error error =>
      rw [hbuild] at hrun
      obtain rfl : state = state' := (Prod.mk.inj hrun).2
      exact h.mono (fun _ => trivial)
    | ok core => rw [hbuild] at hrun; cases hrun

theorem guarded_patch_context {grounding : List Message} (hgrounding : WellFormed grounding) :
    Ensures (SendsOrderly text moves sent (Tidy text)) (patch_context text grounding)
      (fun _ => SendsOrderly text moves sent (TurnState.Grounded text))
      (SendsOrderly text moves sent (fun _ => True)) := by
  refine Ensures.of_run (fun state h _ state' hrun => ?_) (fun state h error state' hrun => ?_)
  · rw [patch_context_run] at hrun
    rcases happend : append_to_core_messages text state.ctx.incremental_core_messages
      state.ctx.new_entries with ⟨error | ⟨⟩, core⟩
    · rw [happend] at hrun
      cases hrun
    · rw [happend] at hrun
      rcases hpatch : patch_messages state.ctx.system_prompt state.ctx.messages core grounding
        state.ctx.incremental_grounding_start state.ctx.incremental_grounding_count with
        ⟨error | placed, messages⟩
      · simp only [hpatch] at hrun
        cases hrun
      · simp only [hpatch] at hrun
        obtain rfl := (Prod.mk.inj hrun).2
        exact h.imp_right (fun ⟨hmoves, hsent, htidy⟩ => ⟨hmoves, hsent, htidy, hgrounding⟩)
  · rw [patch_context_run] at hrun
    rcases happend : append_to_core_messages text state.ctx.incremental_core_messages
      state.ctx.new_entries with ⟨error | ⟨⟩, core⟩
    · rw [happend] at hrun
      obtain rfl := (Prod.mk.inj hrun).2
      exact h.imp_right (fun ⟨hmoves, hsent, _⟩ => ⟨hmoves, hsent, trivial⟩)
    · rw [happend] at hrun
      rcases hpatch : patch_messages state.ctx.system_prompt state.ctx.messages core grounding
        state.ctx.incremental_grounding_start state.ctx.incremental_grounding_count with
        ⟨error | placed, messages⟩
      · simp only [hpatch] at hrun
        obtain rfl := (Prod.mk.inj hrun).2
        exact h.imp_right (fun ⟨hmoves, hsent, _⟩ => ⟨hmoves, hsent, trivial⟩)
      · simp only [hpatch] at hrun
        cases hrun

theorem wellFormed_runtime_context (lines : List String) :
    WellFormed (runtime_context_grounding lines) := by
  unfold runtime_context_grounding
  split
  · exact wellFormed_nil
  · refine ⟨{}, ?_, complete_empty⟩
    unfold last_block
    rw [foldlM_cons, next_plain (by rfl), if_pos complete_empty]
    rfl

theorem guarded_build_context {inputs : BuildInputs} (hgrounded : inputs.WellGrounded) :
    Ensures (SendsOrderly text moves sent (Tidy text)) (stage_build_context text inputs)
      (fun _ => SendsOrderly text moves sent (TurnState.Grounded text))
      (SendsOrderly text moves sent (fun _ => True)) := by
  unfold stage_build_context
  refine (guarded_advance_window inputs).bind (fun force => ?_)
  refine (guarded_answer _).bind (fun results => ?_)
  intro start ⟨hresults, hstart⟩
  have hgrounding : WellFormed (runtime_context_grounding inputs.runtime_lines ++ results.flatten) :=
    (wellFormed_runtime_context _).append (hgrounded results hresults)
  refine Ensures.bind (P := SendsOrderly text moves sent (Tidy text))
    (Q := fun _ => SendsOrderly text moves sent (Tidy text))
    (Ensures.get (fun _ h => h)) (fun current => ?_) start hstart
  split
  · exact guarded_rebuild_context hgrounding
  · exact guarded_patch_context hgrounding

theorem guarded_tool_calls (horderly : inputs.Orderly text)
    (hresponse : read_stream inputs = .ok response) :
    Ensures (SendsOrderly text moves sent (Tidy text)) (run_tool_calls text inputs response)
      (fun _ => SendsOrderly text moves sent (TurnState.Grounded text))
      (SendsOrderly text moves sent (fun _ => True)) := by
  have htext : Ensures (SendsOrderly text moves sent (Tidy text))
      (when (response.text_chunks ≠ [])
        (Action.modify (·.append_text response inputs.text_stamp)) : TurnAction Unit)
      (fun _ => SendsOrderly text moves sent (Tidy text))
      (SendsOrderly text moves sent (fun _ => True)) := by
    refine guarded_kept (fun hinv => Ensures.when (fun _ => appends_append hinv.appends _) (fun _ h => h)) ?_
    intro state _ state' htidy hrun
    unfold when at hrun
    split at hrun
    · obtain rfl := (Prod.mk.inj hrun).2
      obtain ⟨block, opened, hends, hcomplete⟩ := tidy_iff.mp htidy
      exact tidy_iff.mpr ⟨_, _, hends.assistant_text response inputs.text_stamp hcomplete,
        complete_empty⟩
    · obtain rfl := (Prod.mk.inj hrun).2
      exact htidy
  have hnodup : (response.tool_calls.zipIdx.map (·.1.json_id)).Nodup := by
    have hids : response.tool_calls.zipIdx.map (·.1.json_id)
        = (response.tool_calls.map (·.tool_call_id)).map Json.str := by
      calc response.tool_calls.zipIdx.map (·.1.json_id)
          = (response.tool_calls.zipIdx.map Prod.fst).map json_id := by
            rw [map_map]; rfl
        _ = (response.tool_calls.map (·.tool_call_id)).map Json.str := by
            rw [zipIdx_map_fst, map_map]; rfl
    rw [hids]
    exact (horderly.distinct response hresponse).map (fun _ _ h => Json.str.inj h)
  unfold run_tool_calls
  refine htext.bind (fun _ => ?_)
  refine (guarded_kept (fun hinv => appends_offer_calls hinv.appends response inputs.calls _)
    (fun state offered state' htidy hrun => offer_calls_spec (horderly.in_order response hresponse)
      hnodup htidy hrun)).bind (fun offered => ?_)
  dsimp only
  split
  · next hnil =>
    exact (guarded_build_context horderly.context).mono
      (fun _ h => h.mono (fun hoffered => tidy_of_offered hnil hoffered)) (fun _ _ h => h)
      (fun _ h => h)
  · next hsome =>
    refine Ensures.bind (Q := fun _ => SendsOrderly text moves sent (Tidy text))
      (guarded_kept (fun hinv => appends_execute_calls hinv.appends inputs _)
        (fun state length state' hoffered hrun => ?_)) (fun checkpoint => ?_)
    · rcases hoffered with ⟨hnil, _⟩ | ⟨rejected, hdistinct, hends⟩
      · exact absurd hnil hsome
      · exact execute_calls_spec horderly.unseen hdistinct hends hrun
    · refine Ensures.bind (Q := fun _ => SendsOrderly text moves sent (Tidy text))
        (Ensures.modify (fun _ h => h)) (fun _ => ?_)
      refine (guarded_build_context horderly.context).bind (fun _ => Ensures.modify
        (fun state h => ?_))
      unfold expect_length
      split
      · exact h
      · exact h

theorem guarded_send {state : TurnState}
    (h : SendsOrderly text moves sent (TurnState.Grounded text) state) :
    SendsOrderly text moves sent (TurnState.Grounded text) state.send := by
  rcases h with hmoved | ⟨hmoves, hsent, hgrounded⟩
  · exact Or.inl hmoved
  · refine Or.inr ⟨hmoves, fun call hcall => ?_, hgrounded⟩
    have hcall : call ∈ (state.journal.sent ++ [ProviderCall.mk state.ctx.messages state.ctx.tape
      state.journal.grounding]).drop sent := hcall
    rw [drop_append] at hcall
    rcases mem_append.mp hcall with hearlier | hnow
    · exact hsent call hearlier
    · obtain rfl := mem_singleton.mp (mem_of_mem_drop hnow)
      exact hgrounded

theorem guarded_finish_round (horderly : inputs.Orderly text)
    (hresponse : read_stream inputs = .ok response) :
    Ensures (SendsOrderly text moves sent (TurnState.Grounded text)) (finish_round text inputs response)
      (fun more => SendsOrderly text moves sent (fun state => more = true → state.Grounded text))
      (SendsOrderly text moves sent (fun _ => True)) := by
  unfold finish_round
  split
  · refine Ensures.bind (Q := fun _ => SendsOrderly text moves sent (TurnState.Grounded text)) ?_
      (fun _ => Ensures.pure (fun _ h => h.mono (fun hgrounded _ => hgrounded)))
    exact (guarded_tool_calls horderly hresponse).mono
      (fun _ h => h.mono (fun hgrounded => hgrounded.1)) (fun _ _ h => h) (fun _ h => h)
  · refine Ensures.bind (Q := fun _ => SendsOrderly text moves sent (fun _ => True)) ?_
      (fun _ => Ensures.pure (fun _ h => h.mono (fun _ hmore => (by cases hmore))))
    exact guarded_kept (fun hinv => Ensures.when (fun _ => appends_append hinv.appends _) (fun _ h => h))
      (fun _ _ _ _ _ => trivial)

theorem guarded_round (horderly : inputs.Orderly text) :
    Ensures (SendsOrderly text moves sent (TurnState.Grounded text)) (run_round text inputs)
      (fun more => SendsOrderly text moves sent (fun state => more = true → state.Grounded text))
      (SendsOrderly text moves sent (fun _ => True)) := by
  unfold run_round
  refine (guarded_answer _).bind (fun runtime_prompt_changed => ?_)
  refine Ensures.bind (Q := fun _ => SendsOrderly text moves sent (TurnState.Grounded text)) ?_
    (fun _ => ?_)
  · exact Ensures.when (fun _ => (guarded_build_context horderly.prompt_context).mono
      (fun _ h => h.2.mono (fun hgrounded => hgrounded.1)) (fun _ _ h => h) (fun _ h => h))
      (fun _ h => h.2)
  refine Ensures.bind (Q := fun _ => SendsOrderly text moves sent (TurnState.Grounded text))
    (Ensures.modify (fun _ h => guarded_send h)) (fun _ => ?_)
  refine (guarded_answer _).bind (fun response => ?_)
  exact fun state ⟨hresponse, hstate⟩ => guarded_finish_round horderly hresponse state hstate

theorem guarded_rounds {rounds : Nat → RoundInputs}
    (horderly : ∀ index, (rounds index).Orderly text) (remaining index : Nat) :
    Ensures (SendsOrderly text moves sent (TurnState.Grounded text))
      (run_rounds text rounds remaining index)
      (fun _ => SendsOrderly text moves sent (fun _ => True))
      (SendsOrderly text moves sent (fun _ => True)) := by
  induction remaining generalizing index with
  | zero => exact Ensures.pure (fun _ h => h.mono (fun _ => trivial))
  | succ remaining ih =>
    refine (guarded_round (horderly index)).bind (fun more => ?_)
    exact Ensures.when (fun hmore => (ih (index + 1)).mono
      (fun _ h => h.mono (fun hgrounded => hgrounded hmore)) (fun _ _ h => h) (fun _ h => h))
      (fun _ h => h.mono (fun _ => trivial))

theorem load_state_tidy {inputs : TurnInputs} (htidy : state.Tidy text)
    (hrun : stage_load_state inputs state = (.ok (), state')) : state'.Tidy text := by
  have htape : ∀ action : TurnAction Unit,
      Ensures (Tidy text) action (fun _ => Tidy text) (fun _ => True) →
      ∀ condition : Bool, Ensures (Tidy text) (when (condition = true) action)
        (fun _ => Tidy text) (fun _ => True) :=
    fun action h condition => Ensures.when (fun _ => h) (fun _ h => h)
  have hload : Ensures (Tidy text) (stage_load_state inputs)
      (fun _ => Tidy text) (fun _ => True) := by
    unfold stage_load_state
    refine Ensures.reading (fun start => ?_)
    refine (htape _ ?_ _).bind (fun _ => ?_)
    · exact Ensures.bind (Q := fun _ => Tidy text)
        (Ensures.lift (fun _ _ _ h => h) (fun _ _ _ _ => trivial))
        (fun _ => Ensures.modify (fun _ h => h))
    refine (htape _ ?_ _).bind (fun _ => ?_)
    · exact Ensures.bind (Q := fun _ => Tidy text)
        (Ensures.lift (fun _ _ _ h => h) (fun _ _ _ _ => trivial))
        (fun _ => Ensures.modify (fun _ h => h))
    refine Ensures.bind (Q := fun _ => Tidy text)
      (Ensures.lift (fun _ _ _ h => h) (fun _ _ _ _ => trivial))
      (fun _ => Ensures.modify (fun state h => ?_))
    unfold forked_by
    split
    · exact ⟨h.inside, h.built⟩
    · exact h
  exact hload.ok htidy hrun

theorem guarded_stages {inputs : TurnInputs} (horderly : inputs.Orderly text) :
    Ensures (SendsOrderly text moves sent (Tidy text)) (run_stages text inputs)
      (fun _ => SendsOrderly text moves sent (fun _ => True))
      (SendsOrderly text moves sent (fun _ => True)) := by
  unfold run_stages stage_run_model
  refine (guarded_answer _).bind (fun _ => ?_)
  refine Ensures.bind (Q := fun _ => SendsOrderly text moves sent (Tidy text))
    ((guarded_answer _).mono (fun _ h => h.2) (fun _ _ h => h.2) (fun _ h => h)) (fun _ => ?_)
  refine Ensures.bind (Q := fun _ => SendsOrderly text moves sent (Tidy text))
    (guarded_kept (fun hinv => kept_load_state hinv inputs)
      (fun _ _ _ htidy hrun => load_state_tidy htidy hrun)) (fun _ => ?_)
  refine (guarded_answer _).bind (fun _ => ?_)
  refine Ensures.bind (Q := fun _ => SendsOrderly text moves sent (TurnState.Grounded text))
    ((guarded_build_context horderly.context).requires (fun _ h => h.2)) (fun _ => ?_)
  refine (guarded_answer _).bind (fun runtime_prompt_changed => ?_)
  refine Ensures.bind (Q := fun _ => SendsOrderly text moves sent (TurnState.Grounded text)) ?_
    (fun _ => ?_)
  · exact Ensures.when (fun _ => (guarded_build_context horderly.prompt_context).mono
      (fun _ h => h.2.mono (fun hgrounded => hgrounded.1)) (fun _ _ h => h) (fun _ h => h))
      (fun _ h => h.2)
  refine Ensures.bind (Q := fun _ => SendsOrderly text moves sent (fun _ => True)) ?_ (fun _ => ?_)
  · refine Ensures.reading (fun start => ?_)
    exact Ensures.when (fun _ => guarded_rounds horderly.rounds _ 0)
      (fun _ h => h.mono (fun _ => trivial))
  -- the stages after the model leave the journal alone
  refine (ensures_answer _).bind (fun _ => ?_)
  refine (kept_save_state keptOnly_guarded inputs).bind (fun _ => ?_)
  exact (ensures_answer _).bind (fun _ => (ensures_answer _).bind (fun _ => ensures_answer _))

/-- In a turn that is orderly, begins with a tape in order and does not move the window, and
whose incremental builds are clean, every list given to the provider is well formed. -/
theorem provider_messages_well_formed (text : JsonText) (ctx : PipelineContext)
    (events : List ContextEvent) (inputs : TurnInputs) :
    let before := events.foldl (PipelineSession.after text) { ctx }
    let after := (run_turn text inputs before).2
    (∀ patch ∈ after.journal.patches, patch.Clean text) →
    after.journal.window_moves = before.journal.window_moves →
    before.ctx.tape.Tidy text → inputs.Orderly text →
      ∀ call ∈ after.journal.sent.drop before.journal.sent.length, WellFormed call.messages := by
  intro before after hclean hmoves htidy horderly call hcall
  have hrebuilt : call.Rebuilt text ctx.system_prompt :=
    (keeps_run_turn (keeps_events (keeps_start ctx) events) inputs).sent hclean call
      (mem_of_mem_drop hcall)
  have hbody : Ensures (SendsOrderly text before.journal.window_moves before.journal.sent.length
        (Tidy text)) (turn_body text inputs)
      (fun _ => SendsOrderly text before.journal.window_moves before.journal.sent.length
        (fun _ => True))
      (SendsOrderly text before.journal.window_moves before.journal.sent.length (fun _ => True)) :=
    (guarded_stages horderly).map_error.bind (fun _ => kept_commit_fork keptOnly_guarded inputs)
  have hstart : SendsOrderly text before.journal.window_moves before.journal.sent.length
      (Tidy text) { ctx := before.ctx, journal := before.journal } := by
    refine Or.inr ⟨rfl, fun other hother => ?_, htidy⟩
    have hnone : before.journal.sent.drop before.journal.sent.length = [] := drop_length
    rw [hnone] at hother
    cases hother
  have hguarded := hbody.final hstart
  have hafter : after.journal
      = (turn_body text inputs { ctx := before.ctx, journal := before.journal }).2.journal :=
    run_turn_journal text inputs before
  unfold SendsOrderly at hguarded
  rw [← hafter] at hguarded
  rcases hguarded with hmoved | ⟨_, hsent, _⟩
  · omega
  · obtain ⟨⟨_, core, hbuild, hcore⟩, hgrounding⟩ := hsent call hcall
    have hview : build_core_messages text (from_tape call.tape).entries = .ok core := hbuild
    have hmessages : compose_messages ctx.system_prompt core call.grounding = call.messages := by
      have := hrebuilt
      rw [ProviderCall.Rebuilt, full_rebuild, hview, ok_bind] at this
      exact Except.ok.inj this
    rw [← hmessages]
    exact wellFormed_compose _ hcore hgrounding

/-! ## A rejected call in the middle -/

/-- A context without incremental builds, at its first message. -/
def first_message : PipelineContext where
  tape := { tape_id := "main", entries := [user_message "user-1" "first"] }
  llm_provider := true

def demo_call (id : String) : StreamEvent := .tool_call ⟨id, "demo_tool", []⟩

/-- A turn whose first round has these calls, the second of which does not fit its schema. -/
def second_call_rejected (ids : List String) : TurnInputs where
  fork_id := "fork-1"
  rounds := fun index =>
    if index = 0 then
      { plain_round (ids.map demo_call) with
        calls := fun index =>
          { validation := if index = 1 then some "invalid argument <root>" else none
            call_stamp := ⟨"call-" ++ toString index, 0⟩
            rejection_stamp := ⟨"rejection-" ++ toString index, 0⟩ } }
    else plain_round [.text "done"]

/-- Of three calls the second is rejected: the first one's answer comes after the third call. -/
theorem split_response_not_well_formed :
    let after := (run_turn plain_text (second_call_rejected ["a", "b", "c"])
      { ctx := first_message }).2
    first_message.tape.Tidy plain_text ∧ after.journal.window_moves = 0
      ∧ ∃ call ∈ after.journal.sent, ¬ WellFormed call.messages := by
  decide +kernel

theorem second_of_two_orderly : (second_call_rejected ["a", "b"]).Orderly plain_text := by
  have hgrounded : BuildInputs.WellGrounded {} := by
    intro results hresults
    obtain rfl : [] = results := Except.ok.inj hresults
    exact wellFormed_nil
  have hunseen : ExecutionInputs.Unseen plain_text
      { executors := fun _ => [{ outcome := .ok (.value (.str "done")) }] } := by
    refine ⟨fun reply hreply => (by cases hreply), fun _ reply hreply entry hentry => ?_,
      fun _ entry hentry => (by cases hentry)⟩
    obtain rfl := mem_singleton.mp hreply
    cases hentry
  refine ⟨hgrounded, hgrounded, fun index => ?_⟩
  unfold second_call_rejected
  by_cases hfirst : index = 0
  · simp only [if_pos hfirst]
    refine ⟨fun response hresponse => ?_, fun response hresponse => ?_, hunseen, hgrounded,
      hgrounded⟩
    · obtain rfl := Except.ok.inj hresponse
      decide
    · obtain rfl := Except.ok.inj hresponse
      decide
  · simp only [if_neg hfirst]
    refine ⟨fun response hresponse => ?_, fun response hresponse => ?_, hunseen, hgrounded,
      hgrounded⟩
    · obtain rfl := Except.ok.inj hresponse
      decide
    · obtain rfl := Except.ok.inj hresponse
      decide

theorem second_of_two_well_formed :
    let after := (run_turn plain_text (second_call_rejected ["a", "b"]) { ctx := first_message }).2
    after.journal.sent.length = 2 ∧ ∀ call ∈ after.journal.sent, WellFormed call.messages :=
  ⟨by decide +kernel,
    provider_messages_well_formed plain_text first_message [] (second_call_rejected ["a", "b"])
      (by decide +kernel) (by decide +kernel) (by decide +kernel) second_of_two_orderly⟩

end CodingAgentLoop
