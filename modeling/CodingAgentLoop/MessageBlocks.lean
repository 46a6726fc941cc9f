/-
The blocks of tool calls and answers in a list of messages.

A provider takes a message with tool calls only if the tool messages right after it
answer each of its calls once, and nothing else. `Block.next` reads a list message by
message: what it keeps is the block it is in, the calls of the last message that is no
answer and the answers since. A list is `WellFormed` if no message is out of place and
the last block is complete.

The second half follows the blocks through the builder. `Reaches` says in which block the
messages would end if the group that is open were closed now.
-/
import CodingAgentLoop.ContextSeam

open Lib Lib.Result

namespace CodingAgentLoop

open JsonObject ToolCallGroup List

/-! ## Blocks -/

namespace Message

def is_answer (message : Message) : Bool :=
  JsonObject.get message "role" = .str "tool" ∧ !message.has_tool_calls

def call_ids (message : Message) : List Json :=
  match JsonObject.get message "tool_calls" with
  | .arr tool_calls => tool_calls.map (fun tool_call => JsonObject.get (tool_call.obj?.getD []) "id")
  | _ => []

def answer_id (message : Message) : Json := JsonObject.get message "tool_call_id"

end Message

structure Block where
  call_ids : List Json := []
  answered : List Json := []

namespace Block

def Complete (block : Block) : Prop := ∀ id ∈ block.call_ids, block.answered.count id = 1

instance (block : Block) : Decidable block.Complete :=
  inferInstanceAs (Decidable (∀ id ∈ block.call_ids, _))

/-- The block after one more message, if the message is not out of place. -/
def next (block : Block) (message : Message) : Option Block :=
  if message.is_answer then
    if message.answer_id ∈ block.call_ids then
      some { block with answered := block.answered ++ [message.answer_id] }
    else none
  else if block.Complete then some { call_ids := message.call_ids }
  else none

end Block

def last_block (messages : List Message) : Option Block := messages.foldlM Block.next {}

/-- Each message with tool calls is followed by exactly one answer to each of them, before any
other message, and no answer is to another call. -/
def WellFormed (messages : List Message) : Prop := ∃ block ∈ last_block messages, block.Complete

instance (messages : List Message) : Decidable (WellFormed messages) :=
  inferInstanceAs (Decidable (∃ block ∈ last_block messages, block.Complete))

theorem complete_empty : Block.Complete {} := fun _ hid => by cases hid

theorem wellFormed_nil : WellFormed [] := ⟨{}, rfl, complete_empty⟩

theorem last_block_concat (messages : List Message) (message : Message) :
    last_block (messages ++ [message])
      = (last_block messages).bind (fun block => block.next message) := by
  unfold last_block
  rw [foldlM_append]
  cases messages.foldlM Block.next {} with
  | none => rfl
  | some block =>
    show (block.next message >>= fun block => pure block) = _
    rw [bind_pure]
    rfl

variable {block : Block}

theorem next_plain {message : Message} (h : message.is_answer = false) :
    block.next message = if block.Complete then some { call_ids := message.call_ids } else none := by
  unfold Block.next
  rw [if_neg (by simp [h])]

variable {messages : List Message}

theorem foldlM_complete (hcomplete : block.Complete) (hne : messages ≠ [])
    (hhead : ∀ message ∈ messages.head?, message.is_answer = false) :
    messages.foldlM Block.next block = last_block messages := by
  cases messages with
  | nil => exact absurd rfl hne
  | cons message rest =>
    have hplain : message.is_answer = false := hhead message rfl
    unfold last_block
    rw [foldlM_cons, foldlM_cons, next_plain hplain, next_plain hplain,
      if_pos hcomplete, if_pos complete_empty]

theorem WellFormed.head (h : WellFormed messages) :
    ∀ message ∈ messages.head?, message.is_answer = false := by
  intro message hmessage
  cases messages with
  | nil => cases hmessage
  | cons first rest =>
    obtain rfl : first = message := Option.some.inj hmessage
    obtain ⟨block, hblock, _⟩ := h
    by_contra hanswer
    have hnone : Block.next {} first = none := by
      unfold Block.next
      rw [if_pos (by simpa using hanswer), if_neg (by simp)]
    have : last_block (first :: rest) = none := by
      unfold last_block
      rw [foldlM_cons, hnone]
      rfl
    rw [this] at hblock
    cases hblock

theorem WellFormed.append {first second : List Message} (hfirst : WellFormed first)
    (hsecond : WellFormed second) : WellFormed (first ++ second) := by
  obtain ⟨block, hblock, hcomplete⟩ := hfirst
  have hsplit : last_block (first ++ second) = second.foldlM Block.next block := by
    unfold last_block at hblock ⊢
    rw [foldlM_append, hblock]
    rfl
  by_cases hnil : second = []
  · rw [hnil, append_nil]
    exact ⟨block, hblock, hcomplete⟩
  · unfold WellFormed
    rw [hsplit, foldlM_complete hcomplete hnil hsecond.head]
    exact hsecond

theorem WellFormed.split {first second : List Message} (h : WellFormed (first ++ second))
    (hhead : ∀ message ∈ second.head?, message.is_answer = false) :
    WellFormed first ∧ WellFormed second := by
  obtain ⟨final, hfinal, hcomplete⟩ := h
  unfold last_block at hfinal
  rw [foldlM_append] at hfinal
  cases hblock : first.foldlM Block.next {} with
  | none => rw [hblock] at hfinal; cases hfinal
  | some block =>
    have hrest : second.foldlM Block.next block = some final := by
      rw [hblock] at hfinal
      exact hfinal
    cases second with
    | nil =>
      obtain rfl : block = final := Option.some.inj hrest
      exact ⟨⟨block, hblock, hcomplete⟩, wellFormed_nil⟩
    | cons message rest =>
      -- a message that is no answer ends the block before it, which must be complete
      have hbefore : block.Complete := by
        by_contra hnot
        rw [foldlM_cons, next_plain (hhead message rfl), if_neg hnot] at hrest
        cases hrest
      rw [foldlM_complete hbefore (cons_ne_nil _ _) hhead] at hrest
      exact ⟨⟨block, hblock, hbefore⟩, ⟨final, hrest, hcomplete⟩⟩

/-! ## Composing -/

theorem py_eq_str {value : Json} {s : String} (h : value.py_eq (.str s) = true) :
    value = .str s := by
  cases value <;> simp_all [Json.py_eq, Json.number?]

theorem grounding_insert_index_spec (core : List Message) :
    ∀ message ∈ (core.drop (grounding_insert_index core)).head?, message.is_answer = false := by
  intro message hmessage
  unfold grounding_insert_index at hmessage
  cases hback : core.reverse.findIdx? (fun message =>
      (JsonObject.get message "role").py_eq (.str "user")) with
  | none =>
    rw [hback] at hmessage
    simp at hmessage
  | some back =>
    rw [hback] at hmessage
    obtain ⟨hlt, huser, _⟩ := List.findIdx?_eq_some_iff_getElem.mp hback
    have hlength : back < core.length := by simpa using hlt
    have hget : message = core.reverse[back] := by
      rw [getElem_reverse]
      have hindex : core.length - 1 - back < core.length := by omega
      rw [List.head?_drop, List.getElem?_eq_getElem hindex] at hmessage
      exact (Option.some.inj hmessage).symm
    have hrole : JsonObject.get message "role" = .str "user" := by
      rw [hget]
      exact py_eq_str huser
    simp [Message.is_answer, hrole]

theorem wellFormed_compose {core grounding : List Message} (system_prompt : String)
    (hcore : WellFormed core) (hgrounding : WellFormed grounding) :
    WellFormed (compose_messages system_prompt core grounding) := by
  have hsystem : WellFormed [system_message system_prompt] := by
    refine ⟨{}, ?_, complete_empty⟩
    show (Block.next {} (system_message system_prompt) >>= fun block => pure block) = _
    rw [bind_pure, next_plain (by rfl), if_pos complete_empty]
    rfl
  unfold compose_messages
  by_cases hnil : grounding = []
  · rw [if_pos hnil]
    exact hsystem.append hcore
  · rw [if_neg hnil]
    have hcut := WellFormed.split
      (by rw [take_append_drop]; exact hcore :
        WellFormed (core.take (grounding_insert_index core)
          ++ core.drop (grounding_insert_index core))) (grounding_insert_index_spec core)
    exact hsystem.append ((hcut.1.append hgrounding).append hcut.2)

/-! ## Through the builder -/

variable {text : JsonText}

/-- The block in which the messages would end if the open group were closed now. -/
def Reaches (text : JsonText) (state : Building) (block : Block) : Prop :=
  ∃ core, close_group text state = (.ok (), { messages := core }) ∧ last_block core = some block

def quiet (text : JsonText) (entry : Entry) : Bool :=
  if entry.kind = "tool_call" then entry.skip_context else added_message text entry = []

theorem close_group_closed (core : List Message) :
    close_group text { messages := core } = (.ok (), { messages := core }) :=
  close_group_none rfl

theorem reaches_closed {core : List Message} (h : last_block core = some block) :
    Reaches text { messages := core } block :=
  ⟨core, close_group_closed core, h⟩

variable {entry : Entry} {state : Building}

theorem Reaches.quiet (h : Reaches text state block) (hquiet : quiet text entry = true) :
    ∃ state', take_entry text entry state = (.ok (), state') ∧ Reaches text state' block := by
  obtain ⟨core, hclose, hblock⟩ := h
  unfold CodingAgentLoop.quiet at hquiet
  by_cases hkind : entry.kind = "tool_call"
  · rw [if_pos hkind] at hquiet
    exact ⟨state, take_entry_skipped_call hkind hquiet state, core, hclose, hblock⟩
  · rw [if_neg hkind] at hquiet
    refine ⟨_, take_entry_other hkind hclose, ?_⟩
    rw [of_decide_eq_true hquiet, append_nil]
    exact reaches_closed hblock

theorem Reaches.message {block block' : Block} {message : Message} (h : Reaches text state block)
    (hkind : entry.kind ≠ "tool_call") (hadded : added_message text entry = [message])
    (hnext : block.next message = some block') :
    ∃ state', take_entry text entry state = (.ok (), state') ∧ state'.pending = none
      ∧ Reaches text state' block' := by
  obtain ⟨core, hclose, hblock⟩ := h
  refine ⟨_, take_entry_other hkind hclose, rfl, ?_⟩
  rw [hadded]
  refine reaches_closed ?_
  rw [last_block_concat, hblock]
  exact hnext

theorem with_reasoning_find {message : Message} {reasoning_content : Json} {key : String}
    (hkey : key ≠ "reasoning_content") :
    find (message.with_reasoning reasoning_content) key
      = find message key := by
  unfold Message.with_reasoning
  split
  · rw [find_set, if_neg hkey]
  · rfl

theorem merged_message_find (group : ToolCallGroup) (tool_calls : List Json) (last : Message) :
    find (group.merged_message tool_calls last) "tool_calls"
      = find (group.message tool_calls) "tool_calls" := by
  unfold merged_message
  dsimp only
  split
  · rw [with_reasoning_find (by decide), find_set, if_neg (by decide)]
  · rw [find_set, if_neg (by decide)]

def rendered_ids (tool_calls : List Json) : List Json :=
  tool_calls.map (fun tool_call => JsonObject.get (tool_call.obj?.getD []) "id")

variable {tool_calls : List Json}

theorem call_message {message : Message} (h : find message "tool_calls" = some (.arr tool_calls)) :
    message.is_answer = false ∧ message.call_ids = rendered_ids tool_calls := by
  have hget : JsonObject.get message "tool_calls" = .arr tool_calls := by
    unfold JsonObject.get
    rw [h]
    rfl
  constructor
  · simp [Message.is_answer, Message.has_tool_calls, h]
  · unfold Message.call_ids
    rw [hget]
    rfl

/-- The messages before the one a group of `role` is closed to. -/
def before_group (messages : List Message) (role : Json) : List Message :=
  match messages.getLast? with
  | some last => if last.absorbed_by role then messages.dropLast else messages
  | none => []

theorem append_group_calls (messages : List Message) (group : ToolCallGroup)
    (tool_calls : List Json) :
    ∃ message, append_group messages group tool_calls
        = before_group messages group.role ++ [message]
      ∧ message.is_answer = false ∧ message.call_ids = rendered_ids tool_calls := by
  have hgroup : find (group.message tool_calls) "tool_calls" = some (.arr tool_calls) := by
    unfold ToolCallGroup.message
    cases group.reasoning_content with
    | none => rfl
    | some reasoning_content => rfl
  unfold append_group before_group
  cases hlast : messages.getLast? with
  | none => exact ⟨_, rfl, call_message hgroup⟩
  | some last =>
    by_cases habsorbed : last.absorbed_by group.role = true
    · simp only [if_pos habsorbed]
      exact ⟨_, rfl, call_message (by rw [merged_message_find]; exact hgroup)⟩
    · simp only [if_neg habsorbed]
      exact ⟨_, rfl, call_message hgroup⟩

theorem last_block_append_group {group : ToolCallGroup} :
    last_block (append_group messages group tool_calls) = some block ↔
      WellFormed (before_group messages group.role)
        ∧ block = { call_ids := rendered_ids tool_calls } := by
  obtain ⟨message, heq, hplain, hcalls⟩ := append_group_calls messages group tool_calls
  rw [heq, last_block_concat, Option.bind_eq_some_iff]
  constructor
  · rintro ⟨before, hbefore, hnext⟩
    rw [next_plain hplain, hcalls] at hnext
    by_cases hcomplete : before.Complete
    · rw [if_pos hcomplete] at hnext
      exact ⟨⟨before, hbefore, hcomplete⟩, (Option.some.inj hnext).symm⟩
    · rw [if_neg hcomplete] at hnext
      cases hnext
  · rintro ⟨⟨before, hbefore, hcomplete⟩, rfl⟩
    refine ⟨before, hbefore, ?_⟩
    rw [next_plain hplain, hcalls, if_pos hcomplete]

/-- An entry that is one tool call of the assistant, with this id. -/
structure IsCall (entry : Entry) (id : Json) : Prop where
  kind : entry.kind = "tool_call"
  skip_context : entry.skip_context = false
  role : entry.call_role = .str "assistant"
  calls : ∃ fields, entry.calls = [.obj fields] ∧ get_or fields "id" (.str "") = id

theorem render_take (group : ToolCallGroup) {id : Json} (hcall : IsCall entry id)
    (hrender : group.tool_calls.mapM (tool_call_to_message text) = .ok tool_calls) :
    ∃ tool_calls', (group.take entry).tool_calls.mapM (tool_call_to_message text) = .ok tool_calls'
      ∧ rendered_ids tool_calls' = rendered_ids tool_calls ++ [id] := by
  obtain ⟨fields, hcalls, hid⟩ := hcall.calls
  obtain ⟨rendered, hrendered, hget⟩ : ∃ rendered,
      tool_call_to_message text (.obj fields) = .ok (.obj rendered)
        ∧ JsonObject.get rendered "id" = id := ⟨_, rfl, by rw [← hid]; rfl⟩
  refine ⟨tool_calls ++ [.obj rendered], ?_, ?_⟩
  · show (group.tool_calls ++ entry.calls).mapM (tool_call_to_message text) = _
    rw [hcalls, mapM_append, hrender, ok_bind, mapM_cons, hrendered]
    rfl
  · simp [rendered_ids, hget]

theorem Reaches.more {id : Json} (h : Reaches text state block)
    (hopen : state.pending.isSome = true) (hcall : IsCall entry id) :
    ∃ state', take_entry text entry state = (.ok (), state') ∧ state'.pending.isSome = true
      ∧ Reaches text state' { call_ids := block.call_ids ++ [id] } := by
  obtain ⟨core, hclose, hblock⟩ := h
  obtain ⟨group, hgroup⟩ := Option.isSome_iff_exists.mp hopen
  refine ⟨_, take_entry_call hcall.kind hcall.skip_context state, rfl, ?_⟩
  rw [close_group_some hgroup] at hclose
  cases hrender : group.tool_calls.mapM (tool_call_to_message text) with
  | error error => rw [hrender] at hclose; cases hclose
  | ok tool_calls =>
    rw [hrender] at hclose
    have hcore : append_group state.messages group tool_calls = core := by simpa using hclose
    rw [← hcore] at hblock
    obtain ⟨hbefore, rfl⟩ := last_block_append_group.mp hblock
    obtain ⟨tool_calls', hrender', hids⟩ := render_take group hcall hrender
    have hpending : (state.take_call entry).pending = some (group.take entry) := by
      simp [Building.take_call, hgroup]
    refine ⟨append_group state.messages (group.take entry) tool_calls', ?_, ?_⟩
    · rw [close_group_some hpending, hrender']
      rfl
    · exact last_block_append_group.mpr ⟨hbefore, by rw [hids]⟩

theorem Reaches.open {id : Json} (h : Reaches text state block) (hcomplete : block.Complete)
    (hcall : IsCall entry id) :
    ∃ state', take_entry text entry state = (.ok (), state') ∧ state'.pending.isSome = true
      ∧ Reaches text state' { call_ids := [id] } := by
  cases hpending : state.pending with
  | some group =>
    -- a group that is complete without an answer has no calls
    have hopen : state.pending.isSome = true := by rw [hpending]; rfl
    obtain ⟨state', htake, hopen', hmore⟩ := h.more hopen hcall
    obtain ⟨core, hclose, hblock⟩ := h
    rw [close_group_some hpending] at hclose
    have hnil : block.call_ids = [] := by
      cases hrender : group.tool_calls.mapM (tool_call_to_message text) with
      | error error => rw [hrender] at hclose; cases hclose
      | ok tool_calls =>
        rw [hrender] at hclose
        have hcore : append_group state.messages group tool_calls = core := by
          simpa using hclose
        rw [← hcore] at hblock
        obtain ⟨_, rfl⟩ := last_block_append_group.mp hblock
        rw [eq_nil_iff_forall_not_mem]
        intro id hid
        have := hcomplete id hid
        simp at this
    rw [hnil] at hmore
    exact ⟨state', htake, hopen', hmore⟩
  | none =>
    obtain ⟨core, hclose, hblock⟩ := h
    rw [close_group_none hpending] at hclose
    have hmessages : state.messages = core := by
      have := congrArg Building.messages (congrArg Prod.snd hclose)
      exact this
    refine ⟨_, take_entry_call hcall.kind hcall.skip_context state, rfl, ?_⟩
    have hgroup : (state.take_call entry).pending
        = some ((opened entry).take entry) := by
      simp [Building.take_call, hpending]
    have hnone : (opened entry).tool_calls.mapM (tool_call_to_message text)
        = .ok [] := rfl
    obtain ⟨tool_calls, hrender, hids⟩ :=
      render_take (opened entry) hcall hnone
    refine ⟨append_group core ((opened entry).take entry) tool_calls, ?_, ?_⟩
    · rw [close_group_some hgroup, hrender, ← hmessages]
      rfl
    · refine last_block_append_group.mpr ⟨?_, by rw [hids]; rfl⟩
      -- what the group takes the place of is an assistant text, not an answer
      have hrole : ((opened entry).take entry).role = .str "assistant" := hcall.role
      rw [hrole]
      rcases eq_nil_or_concat core with rfl | ⟨init, last, rfl⟩
      · exact wellFormed_nil
      · unfold before_group
        rw [concat_eq_append, List.getLast?_concat]
        have hwhole : WellFormed (init ++ [last]) := by
          rw [concat_eq_append] at hblock
          exact ⟨block, hblock, hcomplete⟩
        by_cases habsorbed : last.absorbed_by (.str "assistant") = true
        · simp only [if_pos habsorbed, dropLast_concat]
          refine (WellFormed.split hwhole ?_).1
          intro message hmessage
          obtain rfl : last = message := Option.some.inj hmessage
          simp only [Message.absorbed_by, decide_eq_true_eq] at habsorbed
          simp [Message.is_answer, py_eq_str habsorbed.1]
        · simp only [if_neg habsorbed]
          exact hwhole

end CodingAgentLoop
