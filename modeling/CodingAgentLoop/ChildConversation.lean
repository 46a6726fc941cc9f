/-
When a sub-agent starts from a well-formed conversation.

The theorem is `child_starts_iff`. As long as the calls of a response are rejected the parent's
tape is in order, each call with its result. The first call that is accepted is open from then on:
it is `Stuck`, and stays so whatever the response and the children append, since nothing of theirs
answers it. The fork leaves it out only if all that follows it on the tape are tool calls.
-/
import CodingAgentLoop.ChildTape
import Mathlib.Data.List.ReduceOption

open Lib Lib.Result

namespace CodingAgentLoop.ChildTape

open Action TapeView List

variable {text : JsonText}

/-! ## An unanswered call -/

/-- The messages, were the open group closed now, end in a block in which `id` has no answer, or
they are malformed already. -/
def Stuck (text : JsonText) (id : Json) (state : Building) : Prop :=
  ∃ core, close_group text state = (.ok (), { messages := core })
    ∧ ∀ block, last_block core = some block → id ∈ block.call_ids ∧ id ∉ block.answered

theorem stuck_incomplete {id : Json} {block : Block}
    (h : id ∈ block.call_ids ∧ id ∉ block.answered) : ¬ block.Complete := by
  intro hcomplete
  have hcount := hcomplete id h.1
  rw [count_eq_zero_of_not_mem h.2] at hcount
  omega

variable {entry : Entry} {state : Building}

theorem Stuck.quiet {id : Json} (h : Stuck text id state) (hskip : entry.skip_context = true) :
    ∃ state', take_entry text entry state = (.ok (), state') ∧ Stuck text id state' := by
  obtain ⟨core, hclose, hblock⟩ := h
  by_cases hkind : entry.kind = "tool_call"
  · exact ⟨state, take_entry_skipped_call hkind hskip state, core, hclose, hblock⟩
  · refine ⟨_, take_entry_other hkind hclose, core, ?_, hblock⟩
    have hadded : added_message text entry = [] := by
      unfold added_message
      rw [if_pos hskip]
    rw [hadded, append_nil]
    exact close_group_none rfl

theorem Stuck.result {id : Json} {call_id content : String} {stamp : EntryStamp}
    (h : Stuck text id state) (hid : id ≠ .str call_id) :
    ∃ state', take_entry text (.new "tool_result" (result_payload call_id content) stamp) state
        = (.ok (), state') ∧ Stuck text id state' := by
  obtain ⟨core, hclose, hblock⟩ := h
  have hkind : (Entry.new "tool_result" (result_payload call_id content) stamp).kind
      ≠ "tool_call" := by
    show "tool_result" ≠ "tool_call"
    decide
  refine ⟨_, take_entry_other hkind hclose, _, close_group_none rfl, ?_⟩
  intro block' hblock'
  have hadded : added_message text (.new "tool_result" (result_payload call_id content) stamp)
      = [[("role", .str "tool"), ("tool_call_id", .str call_id), ("content", .str content)]] := rfl
  rw [hadded, last_block_concat, Option.bind_eq_some_iff] at hblock'
  obtain ⟨block, hlast, hnext⟩ := hblock'
  obtain ⟨hcalled, hunanswered⟩ := hblock block hlast
  unfold Block.next at hnext
  rw [if_pos (by rfl)] at hnext
  split at hnext
  · have heq := Option.some.inj hnext
    rw [← heq]
    refine ⟨hcalled, ?_⟩
    intro hmem
    rcases mem_snoc hmem with hmem | hmem
    · exact hunanswered hmem
    · exact hid hmem
  · cases hnext

theorem stuck_next {id : Json} {core : List Message} {message : Message}
    (h : ∀ block, last_block core = some block → id ∈ block.call_ids ∧ id ∉ block.answered)
    (hplain : message.is_answer = false) : last_block (core ++ [message]) = none := by
  rw [last_block_concat]
  cases hlast : last_block core with
  | none => rfl
  | some block =>
    rw [Option.bind_some, next_plain hplain, if_neg (stuck_incomplete (h block hlast))]

theorem stuck_before_group {id : Json} {core : List Message} {message : Message}
    (h : ∀ block, last_block core = some block → id ∈ block.call_ids ∧ id ∉ block.answered)
    (hplain : message.is_answer = false) :
    last_block (before_group core (.str "assistant") ++ [message]) = none := by
  rcases eq_nil_or_concat core with rfl | ⟨init, last, rfl⟩
  · obtain ⟨hcalled, -⟩ := h {} rfl
    cases hcalled
  · rw [concat_eq_append] at h ⊢
    unfold before_group
    rw [List.getLast?_concat]
    by_cases habsorbed : last.absorbed_by (.str "assistant") = true
    · simp only [if_pos habsorbed, dropLast_concat]
      simp only [Message.absorbed_by, Message.has_tool_calls, decide_eq_true_eq,
        Bool.not_eq_true', Option.isSome_eq_false_iff, Option.isNone_iff_eq_none] at habsorbed
      have hlast : last.is_answer = false := by
        simp [Message.is_answer, py_eq_str habsorbed.1]
      have hcalls : last.call_ids = [] := by
        simp [Message.call_ids, JsonObject.get, habsorbed.2.2]
      rw [last_block_concat]
      cases hinit : last_block init with
      | none => rfl
      | some block =>
        -- a complete block would have been ended by the text
        have hincomplete : ¬ block.Complete := by
          intro hcomplete
          obtain ⟨hcalled, -⟩ := h { call_ids := last.call_ids } (by
            rw [last_block_concat, hinit, Option.bind_some, next_plain hlast, if_pos hcomplete])
          rw [hcalls] at hcalled
          cases hcalled
        rw [Option.bind_some, next_plain hplain, if_neg hincomplete]
    · simp only [if_neg habsorbed]
      exact stuck_next h hplain

theorem Stuck.call {id call_id : Json} (h : Stuck text id state) (hcall : IsCall entry call_id) :
    ∃ state', take_entry text entry state = (.ok (), state') ∧ Stuck text id state' := by
  obtain ⟨core, hclose, hblock⟩ := h
  refine ⟨_, take_entry_call hcall.kind hcall.skip_context state, ?_⟩
  cases hpending : state.pending with
  | none =>
    rw [close_group_none hpending] at hclose
    have hmessages : state.messages = core := congrArg Building.messages (Prod.mk.inj hclose).2
    have hgroup : (state.take_call entry).pending
        = some ((ToolCallGroup.opened entry).take entry) := by
      simp [Building.take_call, hpending]
    have hnone : (ToolCallGroup.opened entry).tool_calls.mapM (tool_call_to_message text)
        = .ok [] := rfl
    obtain ⟨tool_calls, hrender, -⟩ := render_take (ToolCallGroup.opened entry) hcall hnone
    refine ⟨append_group core ((ToolCallGroup.opened entry).take entry) tool_calls, ?_, ?_⟩
    · rw [close_group_some hgroup, hrender, ← hmessages]
      rfl
    · obtain ⟨message, heq, hplain, -⟩ := append_group_calls core
        ((ToolCallGroup.opened entry).take entry) tool_calls
      have hrole : ((ToolCallGroup.opened entry).take entry).role = .str "assistant" := hcall.role
      rw [heq, hrole, stuck_before_group hblock hplain]
      intro block hnone
      cases hnone
  | some group =>
    rw [close_group_some hpending] at hclose
    cases hrender : group.tool_calls.mapM (tool_call_to_message text) with
    | error error =>
      rw [hrender] at hclose
      cases hclose
    | ok tool_calls =>
      rw [hrender] at hclose
      have hcore : append_group state.messages group tool_calls = core := by simpa using hclose
      obtain ⟨tool_calls', hrender', hids⟩ := render_take group hcall hrender
      have hgroup : (state.take_call entry).pending = some (group.take entry) := by
        simp [Building.take_call, hpending]
      refine ⟨append_group state.messages (group.take entry) tool_calls', ?_, ?_⟩
      · rw [close_group_some hgroup, hrender']
        rfl
      · intro block hlast
        obtain ⟨hbefore, rfl⟩ := last_block_append_group.mp hlast
        have hopen := hblock { call_ids := rendered_ids tool_calls } (by
          rw [← hcore]
          exact last_block_append_group.mpr ⟨hbefore, rfl⟩)
        refine ⟨?_, not_mem_nil⟩
        rw [hids]
        exact mem_append_left _ hopen.1

/-! ## On the tape -/

/-- The call is open on the tape. -/
structure StuckOn (text : JsonText) (id : Json) (tape : Tape) : Prop where
  inside : tape.window_start ≤ tape.entries.length
  reached : ∃ state, each (visible_entries tape) (take_entry text) {}
    = (.ok (), state) ∧ Stuck text id state

variable {tape : Tape}

theorem StuckOn.not_starts {id : Json} (h : StuckOn text id tape) :
    ¬ Starts text tape := by
  rintro ⟨core, hbuild, block, hblock, hcomplete⟩
  obtain ⟨state, heach, hclose⟩ := build_eq_ok hbuild
  obtain ⟨state', heach', core', hclose', hstuck⟩ := h.reached
  have hstate : state = state' := (Prod.mk.inj (heach.symm.trans heach')).2
  rw [← hstate] at hclose'
  have hcore : core = core' :=
    congrArg Building.messages (Prod.mk.inj (hclose.symm.trans hclose')).2
  rw [← hcore] at hstuck
  exact stuck_incomplete (hstuck block hblock) hcomplete

/-- What may follow an open call: entries kept out of the context, calls of the assistant, and
answers to other calls. -/
def Follows (id : Json) (entry : Entry) : Prop :=
  entry.skip_context = true ∨ (∃ call_id, IsCall entry call_id)
    ∨ ∃ call_id content stamp, id ≠ .str call_id
      ∧ entry = .new "tool_result" (result_payload call_id content) stamp

theorem Stuck.step {id : Json} {state : Building} {entry : Entry} (h : Stuck text id state)
    (hfollows : Follows id entry) :
    ∃ state', take_entry text entry state = (.ok (), state') ∧ Stuck text id state' := by
  rcases hfollows with hskip | ⟨call_id, hcall⟩ | ⟨call_id, content, stamp, hne, rfl⟩
  · exact h.quiet hskip
  · exact h.call hcall
  · exact h.result hne

theorem Follows.marked {id : Json} (h : Follows id entry) (hmarked : entry.marked_handoff = true) :
    entry.kind ≠ "tool_call" ∧ entry.skip_context = true := by
  have hkind : entry.kind = "anchor" := by
    simp only [Entry.marked_handoff, decide_eq_true_eq] at hmarked
    exact hmarked.1
  rcases h with hskip | ⟨call_id, hcall⟩ | ⟨call_id, content, stamp, -, rfl⟩
  · refine ⟨?_, hskip⟩
    rw [hkind]
    decide
  · have := hcall.kind
    rw [hkind] at this
    exact absurd this (by decide)
  · have hresult : "tool_result" = "anchor" := hkind
    exact absurd hresult (by decide)

/-- The state of the builder after entries, where there is one, has no open group if they end in
anchors only. -/
theorem each_anchors {entries : List Entry} {state state' : Building}
    (hanchors : ∀ entry ∈ entries, entry.marked_handoff = true) (hstate : state.pending = none)
    (h : each entries (take_entry text) state = (.ok (), state')) :
    state'.pending = none := by
  have hpending := each_pending h
  rw [hstate] at hpending
  have hfold : ∀ (entries : List Entry), (∀ entry ∈ entries, entry.marked_handoff = true) →
      entries.foldl (fun in_group entry =>
        if entry.kind = "tool_call" then in_group || !entry.skip_context else false) false
        = false := by
    intro entries hmarked
    induction entries with
    | nil => rfl
    | cons entry rest ih =>
      have hkind : entry.kind ≠ "tool_call" := by
        have hentry := hmarked entry mem_cons_self
        simp only [Entry.marked_handoff, decide_eq_true_eq] at hentry
        rw [hentry.1]
        decide
      rw [foldl_cons, if_neg hkind]
      exact ih fun other hother => hmarked other (mem_cons_of_mem _ hother)
  rw [Option.isSome_none, hfold entries hanchors, Option.isSome_eq_false_iff,
    Option.isNone_iff_eq_none] at hpending
  exact hpending

theorem take_entry_nothing (hkind : entry.kind ≠ "tool_call") (hskip : entry.skip_context = true)
    (hpending : state.pending = none) :
    take_entry text entry state = (.ok (), state) := by
  have hadded : added_message text entry = [] := by
    unfold added_message
    rw [if_pos hskip]
  rw [take_entry_other hkind (close_group_none hpending), hadded, append_nil]

theorem StuckOn.append {id : Json} (h : StuckOn text id tape) (hfollows : Follows id entry) :
    StuckOn text id (tape.append entry) := by
  obtain ⟨hinside, state, heach, hstuck⟩ := h
  have hlength : (tape.append entry).window_start ≤ (tape.append entry).entries.length := by
    show tape.window_start ≤ (tape.entries ++ [entry]).length
    rw [length_append]
    omega
  by_cases hmoved : 0 < tape.window_start ∧ entry.marked_handoff = true
  · obtain ⟨hkind, hskip⟩ := hfollows.marked hmoved.2
    refine ⟨hlength, state, ?_, hstuck⟩
    have hbefore : visible_entries tape
        = tape.windowed_entries.filter (·.marked_handoff)
          ++ tape.windowed_entries.filter (!·.marked_handoff) := by
      unfold visible_entries
      rw [if_pos hmoved.1]
    have hafter : visible_entries (tape.append entry)
        = tape.windowed_entries.filter (·.marked_handoff)
          ++ (entry :: tape.windowed_entries.filter (!·.marked_handoff)) := by
      have hwindowed : (tape.append entry).windowed_entries
          = tape.windowed_entries ++ [entry] := by
        unfold Tape.windowed_entries
        exact drop_append_of_le_length hinside
      unfold visible_entries
      rw [if_pos (show 0 < (tape.append entry).window_start from hmoved.1), hwindowed,
        filter_append, filter_append]
      simp [hmoved.2]
    rw [hbefore, each_append] at heach
    rw [hafter, each_append]
    obtain ⟨_, mid, hfirst, hrest⟩ := bind_eq_ok.mp heach
    have hpending : mid.pending = none := by
      refine each_anchors ?_ rfl hfirst
      intro anchor hanchor
      exact (mem_filter.mp hanchor).2
    rw [bind_ok hfirst]
    exact (bind_ok (take_entry_nothing hkind hskip hpending)).trans hrest
  · obtain ⟨state', htake, hstuck'⟩ := hstuck.step hfollows
    refine ⟨hlength, state', ?_, hstuck'⟩
    have hview : visible_entries (tape.append entry)
        = visible_entries tape ++ [entry] := by
      refine visible_entries_extend rfl rfl hinside ?_
      intro hpos other hother
      rw [mem_singleton.mp hother]
      exact Bool.not_eq_true _ ▸ fun hmarked => hmoved ⟨hpos, hmarked⟩
    rw [hview, each_append, bind_ok heach]
    exact bind_ok htake

def extended (tape : Tape) (entries : List Entry) : Tape :=
  { tape with entries := tape.entries ++ entries }

theorem extended_cons (tape : Tape) (entry : Entry) (entries : List Entry) :
    extended tape (entry :: entries) = extended (tape.append entry) entries := by
  unfold extended Tape.append
  rw [append_assoc]
  rfl

theorem StuckOn.extended {id : Json} {entries : List Entry} (h : StuckOn text id tape)
    (hfollow : ∀ entry ∈ entries, Follows id entry) :
    StuckOn text id (extended tape entries) := by
  induction entries generalizing tape with
  | nil =>
    unfold ChildTape.extended
    rw [append_nil]
    exact h
  | cons entry rest ih =>
    rw [extended_cons]
    exact ih (h.append (hfollow entry mem_cons_self))
      fun other hother => hfollow other (mem_cons_of_mem _ hother)

/-! ## What the fork leaves out -/

theorem rdropWhile_append {α : Type} (p : α → Bool) (front back : List α) :
    (front ++ back).rdropWhile p
      = if back.all p = true then front.rdropWhile p else front ++ back.rdropWhile p := by
  induction back using List.reverseRecOn with
  | nil => simp
  | append_singleton back last ih =>
    rw [← append_assoc]
    by_cases hlast : p last = true
    · rw [rdropWhile_concat_pos _ _ _ hlast, rdropWhile_concat_pos _ _ _ hlast, ih]
      simp [hlast]
    · rw [rdropWhile_concat_neg _ _ _ hlast, rdropWhile_concat_neg _ _ _ hlast]
      simp [hlast, append_assoc]

/-- The tape without the tool calls it ends in, as the fork has it. -/
def trimmed (tape : Tape) : Tape :=
  { tape with entries := tape.entries.rdropWhile fun entry => entry.kind = "tool_call" }

theorem starts_fork (tape : Tape) (tape_id : String) :
    Starts text (fork_child_tape tape tape_id) ↔ Starts text (trimmed tape) := Iff.rfl

theorem starts_of_skipped (hkind : entry.kind = "tool_call") (hskip : entry.skip_context = true)
    (h : Starts text (tape.append entry)) :
    Starts text tape := by
  have hmarked : entry.marked_handoff = false := by
    simp [Entry.marked_handoff, hkind]
  by_cases hinside : tape.window_start ≤ tape.entries.length
  · have hview : visible_entries (tape.append entry)
        = visible_entries tape ++ [entry] := by
      refine visible_entries_extend rfl rfl hinside ?_
      intro _ other hother
      rw [mem_singleton.mp hother]
      exact hmarked
    obtain ⟨core, hbuild, hformed⟩ := h
    obtain ⟨state, heach, hclose⟩ := build_eq_ok hbuild
    rw [hview, each_append] at heach
    obtain ⟨_, mid, hfirst, hlast⟩ := bind_eq_ok.mp heach
    have hmid : mid = state := by
      have hstep : each [entry] (take_entry text) mid = (.ok (), mid) :=
        bind_ok (take_entry_skipped_call hkind hskip mid)
      exact (Prod.mk.inj (hstep.symm.trans hlast)).2
    refine ⟨core, ?_, hformed⟩
    have hrun : take_entries text (visible_entries tape) {}
        = (.ok (), { messages := core }) := by
      rw [hmid] at hfirst
      exact (bind_ok hfirst).trans hclose
    unfold build_core_messages append_to_core_messages
    rw [hrun]
  · -- the window is past the end either way
    have hnone : visible_entries tape = [] := by
      unfold visible_entries Tape.windowed_entries
      rw [if_pos (by omega), drop_of_length_le (by omega)]
      rfl
    refine ⟨[], ?_, wellFormed_nil⟩
    rw [hnone]
    rfl

theorem ends_with_call_concat (entries : List Entry) (entry : Entry) :
    ends_with_call (entries ++ [entry])
      = if entry.kind = "tool_call" then ends_with_call entries || !entry.skip_context
        else false := by
  unfold ends_with_call
  rw [foldl_append]
  rfl

theorem starts_trimmed (hends : ends_with_call tape.entries = false) (h : Starts text tape) :
    Starts text (trimmed tape) := by
  obtain ⟨entries, tape_id, parent_id, window_start, persisted_count⟩ := tape
  induction entries using List.reverseRecOn with
  | nil => exact h
  | append_singleton entries entry ih =>
    unfold trimmed
    by_cases hkind : entry.kind = "tool_call"
    · rw [ends_with_call_concat, if_pos hkind, Bool.or_eq_false_iff] at hends
      dsimp only
      rw [rdropWhile_concat_pos _ _ _ (by simpa using hkind)]
      have hshorter : Starts text ⟨entries, tape_id, parent_id, window_start, persisted_count⟩ :=
        starts_of_skipped hkind (by simpa using hends.2) h
      exact ih hends.1 hshorter
    · dsimp only
      rw [rdropWhile_concat_neg _ _ _ (by simpa using hkind)]
      exact h

/-! ## The calls of the response -/

def Offered (response : Response) (inputs : Nat → CallInputs) (item : ToolCallRequest × Nat)
    (entries : List Entry) : Prop :=
  (accepts (inputs item.2) item.1 = true
      ∧ entries = [call_entry response (inputs item.2) item.1 item.2])
    ∨ (accepts (inputs item.2) item.1 = false ∧ ∃ message,
        entries = [call_entry response (inputs item.2) item.1 item.2,
          .new "tool_result" (result_payload item.1.tool_call_id message)
            (inputs item.2).rejection_stamp])

theorem offer_calls_entries {response : Response} {inputs : Nat → CallInputs}
    {items : List (ToolCallRequest × Nat)} {state state' : TurnState}
    {offered : List (Option ToolCallRequest)}
    (hrun : offer_calls response inputs items state = (.ok offered, state')) :
    ∃ parts, List.Forall₂ (Offered response inputs) items parts
      ∧ state'.ctx.tape = extended state.ctx.tape parts.flatten
      ∧ (offered.reduceOption = [] ↔
          ∀ item ∈ items, accepts (inputs item.2) item.1 = false) := by
  induction items generalizing state offered with
  | nil =>
    obtain ⟨rfl, rfl⟩ := pure_eq_ok.mp hrun
    refine ⟨[], .nil, ?_, ?_⟩
    · unfold extended
      rw [flatten_nil, append_nil]
    · simp
  | cons item rest ih =>
    obtain ⟨call, index⟩ := item
    obtain ⟨first, mid, offered', hfirst, hrest, rfl⟩ := collect_cons_eq_ok.mp hrun
    obtain ⟨parts, hparts, htape, hnone⟩ := ih hrest
    rcases offer_call_run hfirst with
      ⟨haccepted, rfl, rfl⟩ | ⟨hrejected, rfl, message, rfl⟩
    · refine ⟨_ :: parts, .cons (Or.inl ⟨haccepted, rfl⟩) hparts, ?_, ?_⟩
      · rw [htape, flatten_cons, singleton_append, extended_cons]
        rfl
      · constructor
        · intro hnil
          rw [reduceOption_cons_of_some] at hnil
          cases hnil
        · intro hall
          have hfalse := hall (call, index) mem_cons_self
          rw [haccepted] at hfalse
          cases hfalse
    · refine ⟨_ :: parts, .cons (Or.inr ⟨hrejected, message, rfl⟩) hparts, ?_, ?_⟩
      · rw [htape, flatten_cons, cons_append, singleton_append, extended_cons,
          extended_cons]
        rfl
      · rw [reduceOption_cons_of_none, hnone]
        simp [hrejected]

/-- `entry.kind == "tool_call"`. -/
abbrev is_tool_call (entry : Entry) : Bool := entry.kind = "tool_call"

section Response

variable {response : Response} {inputs : Nat → CallInputs} {items : List (ToolCallRequest × Nat)}
  {parts : List (List Entry)} {tape : Tape}

theorem offered_all_calls (h : List.Forall₂ (Offered response inputs) items parts) :
    parts.flatten.all is_tool_call
      = (accepted_calls inputs items).all id := by
  unfold accepted_calls
  induction h with
  | nil => rfl
  | cons hfirst _ ih =>
    rw [flatten_cons, all_append, map_cons, all_cons, ih]
    rcases hfirst with ⟨haccepted, rfl⟩ | ⟨hrejected, message, rfl⟩
    · simp [haccepted, call_entry, Entry.new, Entry.kind]
    · simp [hrejected, call_entry, Entry.new, Entry.kind]

theorem offered_follow {id : Json} (h : List.Forall₂ (Offered response inputs) items parts)
    (hother : ∀ item ∈ items, id ≠ item.1.json_id) :
    ∀ entry ∈ parts.flatten, Follows id entry := by
  induction h with
  | nil =>
    intro entry hentry
    cases hentry
  | @cons item part _ _ hfirst _ ih =>
    intro entry hentry
    rw [flatten_cons] at hentry
    rcases mem_append.mp hentry with hentry | hentry
    · rcases hfirst with ⟨-, rfl⟩ | ⟨-, message, rfl⟩
      · rw [mem_singleton.mp hentry]
        exact Or.inr (Or.inl ⟨_, call_entry_isCall response item.1 item.2 _⟩)
      · rcases mem_cons.mp hentry with hentry | hentry
        · rw [hentry]
          exact Or.inr (Or.inl ⟨_, call_entry_isCall response item.1 item.2 _⟩)
        · rw [mem_singleton.mp hentry]
          exact Or.inr (Or.inr ⟨_, _, _, hother item mem_cons_self, rfl⟩)
    · exact ih (fun other hmem => hother other (mem_cons_of_mem _ hmem)) entry hentry

theorem stuckOn_of_accepted (htidy : tape.Tidy text) (call : ToolCallRequest) (index : Nat)
    (stamp : CallInputs) :
    StuckOn text call.json_id (tape.append (call_entry response stamp call index)) := by
  obtain ⟨block, opened, hends, hcomplete⟩ := tidy_iff.mp htidy
  obtain ⟨hinside, state, heach, ⟨core, hclose, hblock⟩, -⟩ := hends.open_call hcomplete
    (call_entry_isCall response call index stamp.call_stamp) (new_unmarked _ _ (by decide))
  refine ⟨hinside, state, heach, core, hclose, ?_⟩
  intro found hfound
  have heq : { call_ids := [call.json_id] } = found :=
    Option.some.inj (hblock.symm.trans hfound)
  rw [← heq]
  exact ⟨mem_singleton.mpr rfl, not_mem_nil⟩

theorem tidy_of_rejected (htidy : tape.Tidy text) (call : ToolCallRequest) (index : Nat)
    (stamp : CallInputs) (message : String) :
    ((tape.append (call_entry response stamp call index)).append
      (.new "tool_result" (result_payload call.tool_call_id message) stamp.rejection_stamp)).Tidy
        text := by
  obtain ⟨block, opened, hends, hcomplete⟩ := tidy_iff.mp htidy
  have hopened := hends.open_call hcomplete
    (call_entry_isCall response call index stamp.call_stamp) (new_unmarked _ _ (by decide))
  have hanswered := hopened.result call.tool_call_id message stamp.rejection_stamp
    (mem_singleton.mpr rfl)
  refine tidy_iff.mpr ⟨_, _, hanswered, ?_⟩
  intro id hid
  rw [mem_singleton.mp hid]
  simp

/-- The fork of a tape on which calls have been offered and children have left their traces, by
induction on the calls: rejected ones up to the first that is accepted. -/
theorem offered_starts_iff (hparts : List.Forall₂ (Offered response inputs) items parts)
    (hdistinct : (items.map (·.1.json_id)).Nodup) (htidy : tape.Tidy text)
    (hends : ends_with_call tape.entries = false)
    (hsome : ¬ ∀ item ∈ items, accepts (inputs item.2) item.1 = false) {traces : List Entry}
    (htraces : ∀ entry ∈ traces, entry.skip_context = true) :
    Starts text (trimmed (extended tape (parts.flatten ++ traces)))
      ↔ accepted_last (accepted_calls inputs items) = true ∧ traces.all is_tool_call = true := by
  induction hparts generalizing tape with
  | nil => exact absurd (fun item hitem => by cases hitem) hsome
  | @cons item part rest parts hfirst hrest ih =>
    obtain ⟨call, index⟩ := item
    have hdistinct' := (nodup_cons.mp hdistinct).2
    rcases hfirst with ⟨haccepted, rfl⟩ | ⟨hrejected, message, rfl⟩
    · have hcalls : (parts.flatten ++ traces).all is_tool_call = true
          ↔ (accepted_calls inputs rest).all id = true ∧ traces.all is_tool_call = true := by
        rw [all_append, offered_all_calls hrest, Bool.and_eq_true]
      have hlast : accepted_last (accepted_calls inputs ((call, index) :: rest))
          = (accepted_calls inputs rest).all id := by
        unfold accepted_calls
        rw [map_cons, haccepted]
        rfl
      have hentries : (extended tape
            (([call_entry response (inputs index) call index] :: parts).flatten ++ traces)).entries
          = (tape.append (call_entry response (inputs index) call index)).entries
            ++ (parts.flatten ++ traces) := by
        show tape.entries ++ (_ :: parts.flatten ++ traces) = (tape.entries ++ [_]) ++ _
        rw [append_assoc]
        rfl
      rw [hlast, ← hcalls]
      by_cases hall : (parts.flatten ++ traces).all is_tool_call = true
      · -- the open calls and all after them are left out
        have htrimmed : trimmed (extended tape
              (([call_entry response (inputs index) call index] :: parts).flatten ++ traces))
            = trimmed tape := by
          unfold trimmed
          rw [hentries, rdropWhile_append, if_pos hall]
          unfold Tape.append
          rw [rdropWhile_concat_pos _ _ _ (by rfl)]
          rfl
        rw [htrimmed]
        exact iff_of_true (starts_trimmed hends htidy.built) hall
      · -- the first open call stays
        have htrimmed : trimmed (extended tape
              (([call_entry response (inputs index) call index] :: parts).flatten ++ traces))
            = extended (tape.append (call_entry response (inputs index) call index))
                ((parts.flatten ++ traces).rdropWhile is_tool_call) := by
          unfold trimmed
          rw [hentries, rdropWhile_append, if_neg hall]
          rfl
        have hother : ∀ item ∈ rest, call.json_id ≠ item.1.json_id := by
          intro item hitem heq
          refine (nodup_cons.mp hdistinct).1 ?_
          show call.json_id ∈ rest.map (·.1.json_id)
          rw [heq]
          exact mem_map_of_mem hitem
        have hfollow : ∀ entry ∈ (parts.flatten ++ traces).rdropWhile is_tool_call,
            Follows call.json_id entry := by
          intro entry hentry
          have hmem := (List.rdropWhile_prefix is_tool_call _).subset hentry
          rcases mem_append.mp hmem with hmem | hmem
          · exact offered_follow hrest hother entry hmem
          · exact Or.inl (htraces entry hmem)
        have hopen : StuckOn text call.json_id
            (tape.append (call_entry response (inputs index) call index)) :=
          stuckOn_of_accepted htidy call index (inputs index)
        have hstuck := hopen.extended hfollow
        rw [htrimmed]
        exact iff_of_false hstuck.not_starts hall
    · have htape : extended tape (([call_entry response (inputs index) call index,
            .new "tool_result" (result_payload call.tool_call_id message)
              (inputs index).rejection_stamp] :: parts).flatten ++ traces)
          = extended ((tape.append (call_entry response (inputs index) call index)).append
              (.new "tool_result" (result_payload call.tool_call_id message)
                (inputs index).rejection_stamp)) (parts.flatten ++ traces) := by
        unfold extended Tape.append
        simp [flatten_cons]
      have hends' : ends_with_call ((tape.append (call_entry response (inputs index) call
          index)).append (.new "tool_result" (result_payload call.tool_call_id message)
            (inputs index).rejection_stamp)).entries = false :=
        (ends_with_call_concat _ _).trans (if_neg (by show "tool_result" ≠ "tool_call"; decide))
      have hsome' : ¬ ∀ item ∈ rest, accepts (inputs item.2) item.1 = false := by
        intro hnone
        refine hsome ?_
        intro other hother
        rcases mem_cons.mp hother with rfl | hother
        · exact hrejected
        · exact hnone other hother
      have hlast : accepted_last (accepted_calls inputs ((call, index) :: rest))
          = accepted_last (accepted_calls inputs rest) := by
        unfold accepted_calls
        rw [map_cons, hrejected]
        rfl
      rw [htape, hlast]
      exact ih hdistinct' (tidy_of_rejected htidy call index (inputs index) message) hends' hsome'

end Response

/-! ## The dispatch -/

theorem append_trace (tape : Tape) (entries : List Entry) :
    entries.foldl Tape.append tape = extended tape entries := by
  induction entries generalizing tape with
  | nil =>
    unfold extended
    rw [append_nil]
    rfl
  | cons entry rest ih => rw [foldl_cons, ih, extended_cons]

theorem append_traces (tape : Tape) (children : List FinishedChild) :
    children.foldl append_child_trace_to_parent tape
      = extended tape (children.flatMap FinishedChild.trace) := by
  induction children generalizing tape with
  | nil =>
    unfold extended
    rw [flatMap_nil, append_nil]
    rfl
  | cons child rest ih =>
    rw [foldl_cons, ih, append_child_trace_to_parent, append_trace]
    unfold extended
    rw [flatMap_cons, append_assoc]

theorem traced_entry_skipped (child_agent_id source_tape_id : String) (stamp : EntryStamp)
    (entry : Entry) :
    (traced_entry child_agent_id source_tape_id stamp entry).skip_context = true := by
  simp [traced_entry, Entry.skip_context, Entry.meta_, Entry.fields, JsonObject.get,
    JsonObject.find_merge, JsonObject.find_cons, Json.truthy]

theorem trace_skipped (child : FinishedChild) :
    ∀ entry ∈ child.trace, entry.skip_context = true := by
  intro entry hentry
  obtain ⟨item, -, rfl⟩ := mem_map.mp hentry
  exact traced_entry_skipped _ _ _ _

theorem trace_all_calls (child : FinishedChild) :
    child.trace.all is_tool_call = true ↔ ∀ entry ∈ child.gained, entry.kind = "tool_call" := by
  have hkinds : child.trace.map Entry.kind = child.gained.map Entry.kind := by
    unfold FinishedChild.trace
    rw [map_map]
    calc child.gained.zipIdx.map (Entry.kind ∘ _)
        = child.gained.zipIdx.map (Entry.kind ∘ Prod.fst) := rfl
      _ = child.gained.map Entry.kind := by rw [← map_map, zipIdx_map_fst]
  have hall : child.trace.all is_tool_call = (child.trace.map Entry.kind).all (· = "tool_call") := by
    rw [all_map]
    rfl
  rw [hall, hkinds]
  simp

theorem tidy_of_text (htidy : tape.Tidy text) (response : Response) (stamp : EntryStamp) :
    (tape.append (.new "message" response.text_payload stamp)).Tidy text := by
  obtain ⟨block, opened, hends, hcomplete⟩ := tidy_iff.mp htidy
  exact tidy_iff.mpr ⟨_, _, hends.assistant_text response stamp hcomplete, complete_empty⟩

theorem json_ids (calls : List ToolCallRequest) :
    calls.zipIdx.map (·.1.json_id) = (calls.map (·.tool_call_id)).map Json.str := by
  calc calls.zipIdx.map (·.1.json_id)
      = (calls.zipIdx.map Prod.fst).map ToolCallRequest.json_id := by
        rw [map_map]
        rfl
    _ = (calls.map (·.tool_call_id)).map Json.str := by
        rw [zipIdx_map_fst, map_map]
        rfl

/-- A sub-agent starts from a well-formed conversation exactly when no rejected call of the
response comes after an accepted one, and no child dispatched before has left anything but tool
calls on the tape. -/
theorem child_starts_iff (dispatch : Dispatch text) (tape_id : String) :
    Starts text (fork_child_tape dispatch.parent_tape tape_id)
      ↔ accepted_last dispatch.accepted = true
        ∧ ∀ child ∈ dispatch.earlier, ∀ entry ∈ child.gained, entry.kind = "tool_call" := by
  obtain ⟨inputs, response, before, offered, after, earlier, htidy, hends, hdistinct, hoffers,
    call, hcall, -⟩ := dispatch
  obtain ⟨_, mid, htext, hrun⟩ := bind_eq_ok.mp hoffers
  have hmid : mid.ctx.tape.Tidy text ∧ ends_with_call mid.ctx.tape.entries = false := by
    unfold when at htext
    split at htext
    · rw [← (Prod.mk.inj htext).2]
      refine ⟨tidy_of_text htidy response inputs.text_stamp, ?_⟩
      refine (ends_with_call_concat _ _).trans (if_neg ?_)
      show "message" ≠ "tool_call"
      decide
    · rw [← (Prod.mk.inj htext).2]
      exact ⟨htidy, hends⟩
  obtain ⟨parts, hparts, htape, hnone⟩ := offer_calls_entries hrun
  have hsome : ¬ ∀ item ∈ response.tool_calls.zipIdx,
      accepts (inputs.calls item.2) item.1 = false := by
    rw [← hnone]
    exact ne_nil_of_mem hcall
  have hids : (response.tool_calls.zipIdx.map (·.1.json_id)).Nodup := by
    rw [json_ids]
    exact hdistinct.map fun _ _ heq => Json.str.inj heq
  have hskipped : ∀ entry ∈ earlier.flatMap FinishedChild.trace, entry.skip_context = true := by
    intro entry hentry
    obtain ⟨child, -, hmem⟩ := mem_flatMap.mp hentry
    exact trace_skipped child entry hmem
  have htraces : (earlier.flatMap FinishedChild.trace).all is_tool_call = true
      ↔ ∀ child ∈ earlier, ∀ entry ∈ child.gained, entry.kind = "tool_call" := by
    rw [all_flatMap, all_eq_true]
    exact forall₂_congr fun child _ => trace_all_calls child
  have hparent : earlier.foldl append_child_trace_to_parent after.ctx.tape
      = extended mid.ctx.tape (parts.flatten ++ earlier.flatMap FinishedChild.trace) := by
    rw [append_traces, htape]
    unfold extended
    rw [append_assoc]
  rw [starts_fork, ← htraces]
  unfold Dispatch.parent_tape Dispatch.accepted
  dsimp only
  rw [hparent]
  exact offered_starts_iff hparts hids hmid.1 hmid.2 hsome hskipped

/-! ## A call that is left open -/

def subagent_call : ToolCallRequest :=
  { tool_call_id := "call-1", name := "subagent", arguments := [("goal", .str "look")] }

def blocked_call : ToolCallRequest :=
  { tool_call_id := "call-2", name := "bash_run", arguments := [] }

/-- A response with a call for a sub-agent and one that policy rejects after it. -/
def mixed_round : RoundInputs where
  events := [.tool_call subagent_call, .tool_call blocked_call, .done]
  text_stamp := { id := "text", timestamp := 0 }
  calls index :=
    { approval := .ok { approved := index = 0, reason := "blocked" }
      call_stamp := { id := "call", timestamp := 0 }
      rejection_stamp := { id := "rejection", timestamp := 0 } }
  result_stamps _ := { id := "result", timestamp := 0 }

def empty_turn : TurnState := { ctx := { tape := { tape_id := "tape-1" } } }

def plain_text : JsonText := { dumps := fun _ => "", str := fun _ => "" }

/-- The sub-agent is dispatched, and the rejected call has its result. -/
def mixed_dispatch : Dispatch plain_text where
  inputs := mixed_round
  response := { tool_calls := [subagent_call, blocked_call] }
  before := empty_turn
  offered := [some subagent_call, none]
  after := (offer_response mixed_round { tool_calls := [subagent_call, blocked_call] } empty_turn).2
  earlier := []
  well_formed := by decide
  answered := rfl
  distinct := by decide
  offers := rfl
  dispatched := ⟨subagent_call, by decide, rfl⟩

theorem dispatching_call_left_open :
    ¬ Starts plain_text (fork_child_tape mixed_dispatch.parent_tape "child-1") := by
  rintro ⟨core, hbuild, hformed⟩
  have hcore : build_core_messages plain_text
      (visible_entries (fork_child_tape mixed_dispatch.parent_tape "child-1"))
      = .ok
        [[("role", .str "assistant"), ("content", .null),
          ("tool_calls", .arr
            [.obj [("id", .str "call-1"), ("type", .str "function"),
              ("function", .obj [("name", .str "subagent"), ("arguments", .str "")])],
             .obj [("id", .str "call-2"), ("type", .str "function"),
              ("function", .obj [("name", .str "bash_run"), ("arguments", .str "")])]])],
         [("role", .str "tool"), ("tool_call_id", .str "call-2"),
          ("content", .str "Tool call rejected: blocked")]] := by
    rfl
  rw [← Except.ok.inj (hcore.symm.trans hbuild)] at hformed
  revert hformed
  decide

end CodingAgentLoop.ChildTape
