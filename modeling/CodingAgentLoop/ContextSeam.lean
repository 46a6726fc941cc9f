/-
Extending the core messages by new entries.

`append_to_core_messages` on the messages of some entries should give the messages of
these entries and the new ones. Two things can go wrong at the seam: a group of tool
calls that the old entries end with is already closed, so tool calls at the start of the
new entries do not join it; and a group at the start of the new entries may take the place
of the last old message. `CleanSeam` says that neither happens, in terms of the entries.
Then the extension is right (`append_eq_build`), and the old messages stay as they are at
the front of it, on which `patch_messages` relies (`patch_compose`).
-/
import CodingAgentLoop.ContextBuilder

open Lib Lib.Result

namespace CodingAgentLoop

open Action List

/-! ## The seam -/

def ends_with_call (entries : List Entry) : Bool :=
  entries.foldl (fun in_group entry =>
    if entry.kind = "tool_call" then in_group || !entry.skip_context else false) false

/-- Entries begin with a tool call that joins a group before them. -/
def begins_with_call : List Entry → Bool
  | [] => false
  | entry :: rest =>
    if entry.kind = "tool_call" then !entry.skip_context || begins_with_call rest else false

/-- The role of the group whose message is the first one the entries make, if it is a group. -/
def opening_role (text : JsonText) : List Entry → Option Json
  | [] => none
  | entry :: rest =>
    if entry.kind = "tool_call" then
      if entry.skip_context then opening_role text rest else some entry.call_role
    else if entry.skip_context ∨ entry_to_message text entry = none then opening_role text rest
    else none

/-- Nothing of the old entries' messages changes when the new entries come after them. -/
structure CleanSeam (text : JsonText) (old new : List Entry) : Prop where
  not_continued : ends_with_call old = true → begins_with_call new = false
  not_merged : ∀ core last role, build_core_messages text old = .ok core →
    core.getLast? = some last → opening_role text new = some role → last.absorbed_by role = false

instance (text : JsonText) (old new : List Entry) : Decidable (CleanSeam text old new) :=
  decidable_of_iff ((ends_with_call old = true → begins_with_call new = false)
      ∧ ∀ core ∈ (build_core_messages text old).toOption, ∀ last ∈ core.getLast?,
        ∀ role ∈ opening_role text new, last.absorbed_by role = false)
    ⟨fun ⟨hcontinued, hmerged⟩ => ⟨hcontinued, fun core last role hbuild hlast hrole =>
        hmerged core (by rw [hbuild]; rfl) last hlast role hrole⟩,
      fun h => ⟨h.not_continued, fun core hbuild last hlast role hrole =>
        h.not_merged core last role (by
          cases hresult : build_core_messages text old with
          | error error => rw [hresult] at hbuild; cases hbuild
          | ok core' =>
            rw [hresult] at hbuild
            obtain rfl : core' = core := Option.some.inj hbuild
            rfl) hlast hrole⟩⟩

/-! ## Closing a group -/

variable {text : JsonText}

theorem close_group_none {state : Building} (h : state.pending = none) :
    close_group text state = (.ok (), state) := by
  have hget : (Action.get : Action Building StoreError Building) state = (.ok state, state) := rfl
  unfold close_group
  rw [bind_ok hget]
  simp only [h]
  rfl

theorem close_group_some {state : Building} {group : ToolCallGroup}
    (h : state.pending = some group) :
    close_group text state = match group.tool_calls.mapM (tool_call_to_message text) with
      | .ok tool_calls => (.ok (), { messages := append_group state.messages group tool_calls })
      | .error error => (.error error, state) := by
  have hget : (Action.get : Action Building StoreError Building) state = (.ok state, state) := rfl
  unfold close_group
  rw [bind_ok hget]
  simp only [h]
  cases hcalls : group.tool_calls.mapM (tool_call_to_message text) with
  | error error => exact bind_error (by rw [lift_run])
  | ok tool_calls => exact bind_ok (by rw [lift_run])

variable {state state' : Building}

theorem close_group_pending (h : close_group text state = (.ok (), state')) :
    state'.pending = none := by
  cases hpending : state.pending with
  | none =>
    rw [close_group_none hpending] at h
    obtain rfl : state = state' := by simpa using h
    exact hpending
  | some group =>
    rw [close_group_some hpending] at h
    cases hcalls : group.tool_calls.mapM (tool_call_to_message text) with
    | error error => rw [hcalls] at h; cases h
    | ok tool_calls =>
      rw [hcalls] at h
      obtain rfl : { messages := append_group state.messages group tool_calls } = state' := by
        simpa using h
      rfl

/-! ## One entry -/

variable {entry : Entry}

theorem take_entry_skipped_call (hkind : entry.kind = "tool_call")
    (hskip : entry.skip_context = true) (state : Building) :
    take_entry text entry state = (.ok (), state) := by
  unfold take_entry
  rw [if_pos hkind, if_pos hskip]
  rfl

theorem take_entry_call (hkind : entry.kind = "tool_call") (hskip : entry.skip_context = false)
    (state : Building) :
    take_entry text entry state = (.ok (), state.take_call entry) := by
  unfold take_entry
  rw [if_pos hkind, if_neg (by simp [hskip])]
  rfl

def added_message (text : JsonText) (entry : Entry) : List Message :=
  if entry.skip_context then [] else (entry_to_message text entry).toList

theorem take_entry_other (hkind : entry.kind ≠ "tool_call") {state closed : Building}
    (hclose : close_group text state = (.ok (), closed)) :
    take_entry text entry state
      = (.ok (), { closed with messages := closed.messages ++ added_message text entry }) := by
  unfold take_entry added_message
  rw [if_neg hkind, bind_ok hclose]
  by_cases hskip : entry.skip_context = true
  · rw [if_pos hskip, if_pos hskip, append_nil]
    rfl
  · rw [if_neg hskip, if_neg hskip]
    cases entry_to_message text entry with
    | none =>
      rw [Option.toList_none, append_nil]
      rfl
    | some message => rfl

theorem take_entry_other_error (hkind : entry.kind ≠ "tool_call") {state closed : Building}
    {error : StoreError} (hclose : close_group text state = (.error error, closed)) :
    take_entry text entry state = (.error error, closed) := by
  unfold take_entry
  rw [if_neg hkind, bind_error hclose]

theorem take_entry_pending (h : take_entry text entry state = (.ok (), state')) :
    state'.pending.isSome
      = if entry.kind = "tool_call" then state.pending.isSome || !entry.skip_context else false := by
  by_cases hkind : entry.kind = "tool_call"
  · rw [if_pos hkind]
    cases hskip : entry.skip_context with
    | true =>
      rw [take_entry_skipped_call hkind hskip] at h
      obtain rfl : state = state' := by simpa using h
      simp
    | false =>
      rw [take_entry_call hkind hskip] at h
      obtain rfl : state.take_call entry = state' := by simpa using h
      simp [Building.take_call]
  · rw [if_neg hkind]
    rcases hclose : close_group text state with ⟨error | ⟨⟩, closed⟩
    · rw [take_entry_other_error hkind hclose] at h
      cases h
    · rw [take_entry_other hkind hclose] at h
      have hstate' : state'.pending = closed.pending := by
        obtain rfl : { closed with messages := closed.messages ++ added_message text entry }
            = state' := by simpa using h
        rfl
      rw [hstate', close_group_pending hclose]
      rfl

variable {entries : List Entry}

theorem each_pending (h : each entries (take_entry text) state = (.ok (), state')) :
    state'.pending.isSome = entries.foldl (fun in_group entry =>
      if entry.kind = "tool_call" then in_group || !entry.skip_context else false)
      state.pending.isSome := by
  induction entries generalizing state with
  | nil =>
    obtain rfl : state = state' := by simpa [each] using h
    rfl
  | cons entry rest ih =>
    rcases hentry : take_entry text entry state with ⟨error | ⟨⟩, mid⟩
    · have := h.symm.trans (bind_error hentry)
      cases this
    · have hrest : each rest (take_entry text) mid = (.ok (), state') :=
        (bind_ok hentry).symm.trans h
      rw [ih hrest, foldl_cons, take_entry_pending hentry]

/-! ## A closed group in place of an open one -/

theorem take_entries_closed {state closed : Building}
    (hclose : close_group text state = (.ok (), closed)) (h : begins_with_call entries = false) :
    take_entries text entries state = take_entries text entries closed := by
  have hagain : close_group text closed = (.ok (), closed) :=
    close_group_none (close_group_pending hclose)
  induction entries with
  | nil =>
    have hstart : take_entries text [] state = close_group text state := bind_ok rfl
    have hend : take_entries text [] closed = close_group text closed := bind_ok rfl
    rw [hstart, hend, hclose, hagain]
  | cons entry rest ih =>
    have hcons : ∀ start after : Building, take_entry text entry start = (.ok (), after) →
        take_entries text (entry :: rest) start = take_entries text rest after := by
      intro start after hentry
      have heach : each (entry :: rest) (take_entry text) start
          = each rest (take_entry text) after := bind_ok hentry
      unfold take_entries
      rcases hrest : each rest (take_entry text) after with ⟨error | ⟨⟩, final⟩
      · rw [bind_error hrest, bind_error (heach.trans hrest)]
      · rw [bind_ok hrest, bind_ok (heach.trans hrest)]
    by_cases hkind : entry.kind = "tool_call"
    · -- a tool call that is left out is passed over on both sides
      simp only [begins_with_call, hkind, if_true, Bool.or_eq_false_iff] at h
      have hskip : entry.skip_context = true := by simpa using h.1
      rw [hcons _ _ (take_entry_skipped_call hkind hskip state),
        hcons _ _ (take_entry_skipped_call hkind hskip closed), ih h.2]
    · rw [hcons _ _ (take_entry_other hkind hclose), hcons _ _ (take_entry_other hkind hagain)]

/-! ## The old messages stay in front -/

/-- The state has gone past `core`: more messages, or a group that will not touch it. -/
def PastCore (core : List Message) (state : Building) : Prop :=
  ∃ ext, state.messages = core ++ ext ∧ (ext = [] → ∃ group, state.pending = some group ∧
    ∀ last, core.getLast? = some last → last.absorbed_by group.role = false)

theorem append_group_eq (messages : List Message) (group : ToolCallGroup) (tool_calls : List Json) :
    (append_group messages group tool_calls = messages ++ [group.message tool_calls]
        ∧ ∀ last, messages.getLast? = some last → last.absorbed_by group.role = false)
      ∨ ∃ init last, messages = init ++ [last] ∧ last.absorbed_by group.role = true
        ∧ append_group messages group tool_calls
          = init ++ [group.merged_message tool_calls last] := by
  unfold append_group
  rcases eq_nil_or_concat messages with rfl | ⟨init, last, rfl⟩
  · exact Or.inl ⟨rfl, fun last hlast => by cases hlast⟩
  · rw [concat_eq_append, List.getLast?_concat]
    by_cases habsorbed : last.absorbed_by group.role = true
    · refine Or.inr ⟨init, last, rfl, habsorbed, ?_⟩
      simp only [if_pos habsorbed, dropLast_concat]
    · refine Or.inl ⟨by simp only [if_neg habsorbed], fun other hother => ?_⟩
      obtain rfl : last = other := by simpa using hother
      simpa using habsorbed

theorem append_group_prefix {core ext : List Message} {group : ToolCallGroup}
    {tool_calls : List Json}
    (h : ext = [] → ∀ last, core.getLast? = some last → last.absorbed_by group.role = false) :
    ∃ ext', append_group (core ++ ext) group tool_calls = core ++ ext' ∧ ext' ≠ [] := by
  rcases append_group_eq (core ++ ext) group tool_calls with
    ⟨heq, _⟩ | ⟨init, last, hsplit, habsorbed, heq⟩
  · exact ⟨ext ++ [group.message tool_calls], by rw [heq, append_assoc], by simp⟩
  · -- the message that is replaced is not one of the core
    rcases eq_nil_or_concat ext with rfl | ⟨ext', last', rfl⟩
    · have hlast : core.getLast? = some last := by
        rw [append_nil] at hsplit
        rw [hsplit, List.getLast?_concat]
      rw [h rfl last hlast] at habsorbed
      cases habsorbed
    · have hinit : core ++ ext' = init := by
        rw [concat_eq_append, ← append_assoc] at hsplit
        exact (append_inj' hsplit rfl).1
      exact ⟨ext' ++ [group.merged_message tool_calls last], by rw [heq, ← hinit, append_assoc], by simp⟩

variable {core : List Message}

theorem PastCore.close {state closed : Building} (h : PastCore core state)
    (hclose : close_group text state = (.ok (), closed)) :
    ∃ ext, closed.messages = core ++ ext ∧ ext ≠ [] := by
  obtain ⟨ext, hmessages, hext⟩ := h
  cases hpending : state.pending with
  | none =>
    rw [close_group_none hpending] at hclose
    obtain rfl : state = closed := by simpa using hclose
    refine ⟨ext, hmessages, fun hnil => ?_⟩
    obtain ⟨group, hgroup, _⟩ := hext hnil
    rw [hpending] at hgroup
    cases hgroup
  | some group =>
    rw [close_group_some hpending] at hclose
    cases hcalls : group.tool_calls.mapM (tool_call_to_message text) with
    | error error => rw [hcalls] at hclose; cases hclose
    | ok tool_calls =>
      rw [hcalls] at hclose
      obtain rfl : { messages := append_group state.messages group tool_calls } = closed := by
        simpa using hclose
      rw [hmessages]
      refine append_group_prefix (fun hnil => ?_)
      obtain ⟨group', hgroup', habsorbed⟩ := hext hnil
      obtain rfl : group = group' := Option.some.inj (hpending.symm.trans hgroup')
      exact habsorbed

theorem PastCore.take_entry (h : PastCore core state)
    (hentry : take_entry text entry state = (.ok (), state')) :
    PastCore core state' := by
  by_cases hkind : entry.kind = "tool_call"
  · cases hskip : entry.skip_context with
    | true =>
      rw [take_entry_skipped_call hkind hskip] at hentry
      obtain rfl : state = state' := by simpa using hentry
      exact h
    | false =>
      rw [take_entry_call hkind hskip] at hentry
      obtain rfl : state.take_call entry = state' := by simpa using hentry
      obtain ⟨ext, hmessages, hext⟩ := h
      refine ⟨ext, hmessages, fun hnil => ?_⟩
      obtain ⟨group, hgroup, habsorbed⟩ := hext hnil
      exact ⟨group.take entry, by simp [Building.take_call, hgroup], habsorbed⟩
  · rcases hclose : close_group text state with ⟨error | ⟨⟩, closed⟩
    · rw [take_entry_other_error hkind hclose] at hentry
      cases hentry
    · rw [take_entry_other hkind hclose] at hentry
      obtain rfl : { closed with messages := closed.messages ++ added_message text entry }
          = state' := by simpa using hentry
      obtain ⟨ext, hmessages, hext⟩ := h.close hclose
      exact ⟨ext ++ added_message text entry, by simp [hmessages], fun hnil => by simp [hext] at hnil⟩

/-- From the old messages on, new entries with a clean opening leave them in front. -/
theorem take_entries_prefix {state' : Building}
    (hopening : ∀ last role, core.getLast? = some last → opening_role text entries = some role →
      last.absorbed_by role = false)
    (h : take_entries text entries { messages := core } = (.ok (), state')) :
    core <+: state'.messages := by
  have hpast : ∀ (rest : List Entry) (state : Building), PastCore core state →
      ∀ final, take_entries text rest state = (.ok (), final) → core <+: final.messages := by
    intro rest state hpast final hrun
    have heach : Ensures (PastCore core) (each rest (take_entry text))
        (fun _ => PastCore core) (fun _ => True) :=
      Ensures.each (fun entry _ => Ensures.of_run
        (fun _ hstate () _ hentry => hstate.take_entry hentry) (fun _ _ _ _ _ => trivial))
    rcases hmid : each rest (take_entry text) state with ⟨error | ⟨⟩, mid⟩
    · have := hrun.symm.trans (bind_error hmid)
      cases this
    · have hclose : close_group text mid = (.ok (), final) := (bind_ok hmid).symm.trans hrun
      obtain ⟨ext, hmessages, _⟩ := (heach.ok hpast hmid).close hclose
      exact ⟨ext, hmessages.symm⟩
  have hclosed : close_group text { messages := core } = (.ok (), { messages := core }) :=
    close_group_none rfl
  -- until the first message is made the state is the one the entries began with
  induction entries with
  | nil =>
    have hrun : close_group text { messages := core } = (.ok (), state') :=
      (bind_ok rfl).symm.trans h
    obtain rfl : { messages := core } = state' := by simpa using hclosed.symm.trans hrun
    exact prefix_rfl
  | cons entry rest ih =>
    have hcons : ∀ after : Building, take_entry text entry { messages := core } = (.ok (), after) →
        take_entries text rest after = (.ok (), state') := by
      intro after hentry
      have heach : each (entry :: rest) (take_entry text) { messages := core }
          = each rest (take_entry text) after := bind_ok hentry
      unfold take_entries at h ⊢
      rcases hrest : each rest (take_entry text) after with ⟨error | ⟨⟩, final⟩
      · rw [bind_error (heach.trans hrest)] at h
        cases h
      · rw [bind_ok (heach.trans hrest)] at h
        rw [bind_ok hrest]
        exact h
    by_cases hkind : entry.kind = "tool_call"
    · cases hskip : entry.skip_context with
      | true =>
        refine ih (fun last role hlast hrole => hopening last role hlast ?_)
          (hcons _ (take_entry_skipped_call hkind hskip _))
        simpa [opening_role, hkind, hskip] using hrole
      | false =>
        refine hpast rest _ ?_ state' (hcons _ (take_entry_call hkind hskip _))
        refine ⟨[], by simp [Building.take_call], fun _ =>
          ⟨(ToolCallGroup.opened entry).take entry, rfl, fun last hlast => ?_⟩⟩
        have hrole : opening_role text (entry :: rest) = some entry.call_role := by
          simp [opening_role, hkind, hskip]
        exact hopening last entry.call_role hlast hrole
    · have hentry := hcons _ (take_entry_other hkind hclosed)
      by_cases hsilent : added_message text entry = []
      · rw [hsilent, append_nil] at hentry
        refine ih (fun last role hlast hrole => hopening last role hlast ?_) hentry
        have hleft : entry.skip_context = true ∨ entry_to_message text entry = none := by
          by_cases hskip : entry.skip_context = true
          · exact Or.inl hskip
          · right
            simpa [added_message, hskip] using hsilent
        simpa [opening_role, hkind, hleft] using hrole
      · exact hpast rest _ ⟨added_message text entry, rfl, fun hnil => absurd hnil hsilent⟩ state'
          hentry

/-! ## The extension is the rebuild -/

theorem build_eq_ok (h : build_core_messages text entries = .ok core) :
    ∃ state, each entries (take_entry text) {} = (.ok (), state)
      ∧ close_group text state = (.ok (), { messages := core }) := by
  have happend : take_entries text entries {} = (.ok (), { messages := core }) := by
    unfold build_core_messages append_to_core_messages at h
    rcases hrun : take_entries text entries { messages := [] } with ⟨error | ⟨⟩, state⟩
    · rw [hrun] at h
      cases h
    · rw [hrun] at h
      have hcore : state.messages = core := by simpa using h
      have hpending : state.pending = none := by
        unfold take_entries at hrun
        rcases heach : each entries (take_entry text) {} with ⟨error | ⟨⟩, mid⟩
        · rw [bind_error heach] at hrun
          cases hrun
        · rw [bind_ok heach] at hrun
          exact close_group_pending hrun
      obtain ⟨messages, pending⟩ := state
      obtain rfl : messages = core := hcore
      obtain rfl : pending = none := hpending
      rfl
  unfold take_entries at happend
  rcases heach : each entries (take_entry text) {} with ⟨error | ⟨⟩, state⟩
  · rw [bind_error heach] at happend
    cases happend
  · rw [bind_ok heach] at happend
    exact ⟨state, rfl, happend⟩

/-- Over a clean seam the extension of the old messages is the messages of all entries, with the
old ones in front. -/
theorem append_eq_build {old new : List Entry} {core core' : List Message}
    (hseam : CleanSeam text old new) (hbuild : build_core_messages text old = .ok core)
    (happend : append_to_core_messages text core new = (.ok (), core')) :
    build_core_messages text (old ++ new) = .ok core' ∧ core <+: core' := by
  obtain ⟨state, heach, hclose⟩ := build_eq_ok hbuild
  have hnew : ∃ final, take_entries text new { messages := core } = (.ok (), final)
      ∧ final.messages = core' := by
    unfold append_to_core_messages at happend
    rcases hrun : take_entries text new { messages := core } with ⟨outcome, final⟩
    rw [hrun] at happend
    simp only [Prod.mk.injEq] at happend
    exact ⟨final, by rw [happend.1], happend.2⟩
  obtain ⟨final, hfinal, rfl⟩ := hnew
  have hsame : take_entries text new state = take_entries text new { messages := core } := by
    cases hpending : state.pending with
    | none =>
      rw [close_group_none hpending] at hclose
      obtain rfl : state = { messages := core } := by simpa using hclose
      rfl
    | some group =>
      refine take_entries_closed hclose (hseam.not_continued ?_)
      have := each_pending heach
      rw [hpending] at this
      exact this.symm
  refine ⟨?_, take_entries_prefix (fun last role => hseam.not_merged core last role hbuild) hfinal⟩
  have hall : take_entries text (old ++ new) {} = (.ok (), final) := by
    rw [← hfinal, ← hsame]
    unfold take_entries
    have hsplit := each_append old new (take_entry text) {}
    rw [bind_ok heach] at hsplit
    rcases hrest : each new (take_entry text) state with ⟨error | ⟨⟩, mid⟩
    · rw [bind_error hrest, bind_error (hsplit.trans hrest)]
    · rw [bind_ok hrest, bind_ok (hsplit.trans hrest)]
  unfold build_core_messages append_to_core_messages
  rw [hall]

/-! ## Composing and patching -/

theorem grounding_insert_index_le (core : List Message) :
    grounding_insert_index core ≤ core.length := by
  unfold grounding_insert_index
  split
  · omega
  · exact Nat.le_refl _

theorem insert_at_removed {messages : List Message} (inserted : List Message) {index : Nat}
    (h : index ≤ messages.length) :
    (insert_at messages index inserted).take index
      ++ (insert_at messages index inserted).drop (index + inserted.length) = messages := by
  have hlength : (messages.take index).length = index := length_take_of_le h
  unfold insert_at
  have htake : (messages.take index ++ inserted ++ messages.drop index).take index
      = messages.take index := by
    rw [append_assoc, take_append_of_le_length (by omega), take_take, Nat.min_self]
  have hdrop : (messages.take index ++ inserted ++ messages.drop index).drop
      (index + inserted.length) = messages.drop index := by
    have : index + inserted.length = (messages.take index ++ inserted).length := by
      rw [length_append, hlength]
    rw [this, drop_left]
  rw [htake, hdrop, take_append_drop]

theorem composed_ungrounded {system_prompt : String} {core grounding : List Message}
    {grounding_start : Nat}
    (hstart : grounding ≠ [] → grounding_start = 1 + grounding_insert_index core) :
    (compose_messages system_prompt core grounding).take grounding_start
      ++ (compose_messages system_prompt core grounding).drop (grounding_start + grounding.length)
      = system_message system_prompt :: core := by
  by_cases hgrounding : grounding = []
  · rw [hgrounding, length_nil, Nat.add_zero, take_append_drop]
    rfl
  · have hremoved := insert_at_removed grounding (grounding_insert_index_le core)
    have hindex : 1 + grounding_insert_index core + grounding.length
        = (grounding_insert_index core + grounding.length) + 1 := by omega
    unfold compose_messages
    rw [hstart hgrounding, if_neg hgrounding, hindex, Nat.add_comm 1, take_succ_cons,
      drop_succ_cons, cons_append, hremoved]

/-- A patched list is the composed one, if the old core messages are in front of the new ones. -/
theorem patch_compose {system_prompt : String} {core core' grounding grounding' : List Message}
    {grounding_start : Nat} (hinitial : core <+: core')
    (hstart : grounding ≠ [] → grounding_start = 1 + grounding_insert_index core) :
    patch_messages system_prompt (compose_messages system_prompt core grounding) core' grounding'
        grounding_start grounding.length
      = (.ok (if grounding' = [] then (compose_messages system_prompt core' grounding').length
            else 1 + grounding_insert_index core', grounding'.length),
          compose_messages system_prompt core' grounding') := by
  obtain ⟨ext, rfl⟩ := hinitial
  have hhead : system_message system_prompt :: (compose_messages system_prompt core grounding).tail
      = compose_messages system_prompt core grounding := rfl
  unfold patch_messages
  simp only [hhead, composed_ungrounded hstart, length_cons, Nat.add_sub_cancel]
  rw [if_neg (by rw [length_append]; omega), drop_left, cons_append]
  by_cases hgrounding : grounding' = []
  · rw [if_pos hgrounding, if_pos hgrounding, hgrounding]
    rfl
  · rw [if_neg hgrounding, if_neg hgrounding]
    have hinsert : insert_at (system_message system_prompt :: (core ++ ext))
        (1 + grounding_insert_index (core ++ ext)) grounding'
        = system_message system_prompt ::
          insert_at (core ++ ext) (grounding_insert_index (core ++ ext)) grounding' := by
      unfold insert_at
      rw [Nat.add_comm 1, take_succ_cons, drop_succ_cons]
      rfl
    rw [hinsert]
    unfold compose_messages
    rw [if_neg hgrounding]

end CodingAgentLoop
