/-
What the Codex stream loses.

A body is written as frames: an event line that may be missing, a data line with one JSON object,
and a blank line, which the last frame may lack. JSON lets the characters that `str.splitlines`
takes for line ends stand inside of strings, and then the data line is cut in a string: what is left
is no document, and the payload is passed over. `codex_decoded_iff` says of a body whether each
payload gives its own events where it stands, and whether a body without a completion is an error.
-/
import CodingAgentLoop.CodexStream
import CodingAgentLoop.SseStream
import Mathlib.Data.List.Induction

open Lib Lib.TextLines Lib.JsonText

namespace CodingAgentLoop.CodexStream

open ProviderStreams List
open SseStream (LineEnd)

/-! ## Emissions one after the other -/

section Emissions

variable {α β : Type}

theorem Emission.nil_then (second : Emission α) : Emission.then {} second = second := rfl

theorem Emission.then_nil (first : Emission α) : first.then {} = first := by
  unfold Emission.then
  cases first with
  | mk events raised =>
    cases raised with
    | some error => rfl
    | none => simp

theorem Emission.then_assoc (first second third : Emission α) :
    (first.then second).then third = first.then (second.then third) := by
  cases first with
  | mk events raised =>
    cases raised with
    | some error => rfl
    | none =>
      cases second with
      | mk events' raised' =>
        cases raised' with
        | some error => rfl
        | none => simp [Emission.then]

theorem Emission.then_cancel {first second third : Emission α} (h : first.raised = none)
    (hsame : first.then second = first.then third) : second = third := by
  unfold Emission.then at hsame
  rw [h] at hsame
  have hevents := congrArg Emission.events hsame
  have hraised := congrArg Emission.raised hsame
  cases second
  cases third
  simp only [append_cancel_left_eq] at hevents hraised
  rw [hevents, hraised]

def chain (emissions : List (Emission α)) : Emission α := emissions.foldr Emission.then {}

theorem chain_append (first second : List (Emission α)) :
    chain (first ++ second) = (chain first).then (chain second) := by
  induction first with
  | nil => rfl
  | cons emission first ih =>
    have hcons : chain (emission :: (first ++ second)) = emission.then (chain (first ++ second)) :=
      rfl
    rw [cons_append, hcons, ih, ← Emission.then_assoc]
    rfl

theorem raised_then {first second : Emission α} :
    (first.then second).raised = none ↔ first.raised = none ∧ second.raised = none := by
  cases first with
  | mk events raised =>
    cases raised with
    | some error => simp [Emission.then]
    | none => simp [Emission.then]

theorem raised_chain {emissions : List (Emission α)} :
    (chain emissions).raised = none ↔ ∀ emission ∈ emissions, emission.raised = none := by
  induction emissions with
  | nil => simp [chain]
  | cons emission emissions ih =>
    have hcons : chain (emission :: emissions) = emission.then (chain emissions) := rfl
    rw [hcons, raised_then, ih, forall_mem_cons]

/-- Two lists of emissions agree at every point where they are the same one by one, up to the first
exception. -/
theorem chains_agree_iff {γ : Type} {parts : List γ} {one other : γ → Emission α} :
    (∀ before after, parts = before ++ after →
      chain (before.map one) = chain (before.map other)) ↔
    ∀ before part after, parts = before ++ part :: after →
      (∀ earlier ∈ before, (other earlier).raised = none) → one part = other part := by
  have hsnoc : ∀ (emit : γ → Emission α) (before : List γ) (part : γ),
      chain ((before ++ [part]).map emit) = (chain (before.map emit)).then (emit part) := by
    intro emit before part
    rw [map_append, chain_append]
    congr 1
    exact Emission.then_nil _
  constructor
  · intro h before part after hparts hquiet
    have hbefore := h before (part :: after) hparts
    have hwith := h (before ++ [part]) after (by rw [hparts]; simp)
    rw [hsnoc, hsnoc, hbefore] at hwith
    refine Emission.then_cancel (raised_chain.mpr ?_) hwith
    simpa using hquiet
  · intro h before
    induction before using List.reverseRecOn with
    | nil => intro after _; rfl
    | append_singleton before part ih =>
      intro after hparts
      rw [append_assoc, singleton_append] at hparts
      rw [hsnoc, hsnoc, ih _ hparts]
      by_cases hraised : (chain (before.map other)).raised = none
      · rw [h before part after hparts (by simpa using raised_chain.mp hraised)]
      · unfold Emission.then
        obtain ⟨error, herror⟩ := Option.ne_none_iff_exists'.mp hraised
        rw [herror]

end Emissions

/-! ## Written bodies -/

/-- A Responses event: its name, where there is an event line, and its payload as one JSON object on
one line. -/
structure CodexFrame (numbers : Numbers) where
  event : Option Text
  data : Text
  payload : JsonObject
  event_pad : Nat
  data_pad : Nat
  event_end : LineEnd
  loaded : loads numbers data = some (.obj payload)
  opens : data.head? = some '{'
  one_line : ∀ char ∈ data, 0x20 ≤ char.toNat ∨ char = '\t'
  named : ∀ name ∈ event, ∀ char ∈ name, is_space char = false

/-- A frame with the ends of its data line and of itself: the last one may lack both. -/
structure Part (numbers : Numbers) where
  frame : CodexFrame numbers
  data_end : Text
  blank : Text

/-- A body: frames, and a last one that lacks its blank line. -/
structure WrittenBody (numbers : Numbers) where
  frames : List (CodexFrame numbers × LineEnd × LineEnd)
  last : Option (CodexFrame numbers × Option LineEnd)

section Body

variable {numbers : Numbers}

def pad (count : Nat) : Text := List.replicate count ' '

def CodexFrame.event_line (frame : CodexFrame numbers) : Option Text :=
  frame.event.map (fun name => "event:".toList ++ (pad frame.event_pad ++ name))

def Part.text (part : Part numbers) : Text :=
  (part.frame.event_line.map (· ++ part.frame.event_end.text)).getD []
    ++ ("data:".toList ++ (pad part.frame.data_pad ++ (part.frame.data ++ part.data_end))
      ++ part.blank)

def full_part (written : CodexFrame numbers × LineEnd × LineEnd) : Part numbers :=
  ⟨written.1, written.2.1.text, written.2.2.text⟩

def last_part (written : CodexFrame numbers × Option LineEnd) : Part numbers :=
  ⟨written.1, (written.2.map LineEnd.text).getD [], []⟩

def WrittenBody.parts (body : WrittenBody numbers) : List (Part numbers) :=
  body.frames.map full_part ++ (body.last.map last_part).toList

def parts_text (parts : List (Part numbers)) : Text := parts.flatMap Part.text

def WrittenBody.text (body : WrittenBody numbers) : Text := parts_text body.parts

def Part.pieces (part : Part numbers) : List Text :=
  splitlines (part.frame.data ++ part.data_end) false

def CodexFrame.Clean (frame : CodexFrame numbers) : Prop :=
  ∀ char ∈ frame.data, is_line_boundary char = false

/-! ### What a payload should give -/

/-- The arguments of a call, where they are a JSON object. -/
def exact_arguments (numbers : Numbers) (item : JsonObject) : Option JsonObject :=
  match item.get "arguments" with
  | .str arguments_raw =>
    if arguments_raw = "" then some []
    else
      match loads numbers arguments_raw.toList with
      | some (.obj parsed) => some parsed
      | _ => none
  | .obj arguments_raw => some arguments_raw
  | _ => some []

variable (model : String)

/-- The events of the payload, with the arguments it has for a call. -/
def Part.expected (part : Part numbers) : Emission (Option JsonObject) :=
  payload_emission (exact_arguments numbers) model part.frame.event part.frame.payload

def with_arguments {α β : Type} (f : α → β) : ProviderEvent α → ProviderEvent β
  | .thinking text => .thinking text
  | .text text => .text text
  | .tool_call tool_call_id name arguments => .tool_call tool_call_id name (f arguments)
  | .usage input_tokens output_tokens provider_name =>
    .usage input_tokens output_tokens provider_name
  | .done => .done

def Emission.exact (emission : Emission JsonObject) : Emission (Option JsonObject) :=
  ⟨emission.events.map (with_arguments some), emission.raised⟩

/-- What is read of a body up to the end of any frame is what the payloads up to there give. -/
def Decoded (body : WrittenBody numbers) : Prop :=
  ∀ before after, body.parts = before ++ after →
    (events_from_response numbers model (parts_text before)).exact
      = chain (before.map (Part.expected model))

def Part.kind (part : Part numbers) : Option String :=
  payload_kind part.frame.event part.frame.payload

def Part.Completes (part : Part numbers) : Prop := part.kind = some "response.completed"

def Part.Fails (part : Part numbers) : Prop :=
  part.kind = some "response.failed" ∨ part.kind = some "response.incomplete"

def BreaksOff (body : WrittenBody numbers) : Prop :=
  (∀ part ∈ body.parts, ¬ part.Completes) →
    (events_from_response numbers model body.text).raised ≠ none

/-! ### When it does -/

/-- The arguments of the call, if the payload is one, are a JSON object. -/
def Part.ArgumentsRead (part : Part numbers) : Prop :=
  part.kind = some "response.output_item.done" →
    ∀ item, function_call_item part.frame.payload = some item →
      exact_arguments numbers item ≠ none

def after_blank (lines : List Text) : List Text :=
  (lines.dropWhile (fun line => rstrip_return line ≠ [])).tail

/-- What is read of the data that is cut: the lines after a blank one are frames of their own. -/
def Part.cut_emission (part : Part numbers) : Emission JsonObject :=
  read_lines numbers model none [] (after_blank part.pieces.tail)

/-- The data is on one line and its call, if it is one, has arguments; or the data is cut, and what
is read of its lines is what the payload gives. -/
def Part.Readable (part : Part numbers) : Prop :=
  (part.frame.Clean → part.ArgumentsRead)
    ∧ (¬ part.frame.Clean → (part.cut_emission model).exact = part.expected model)

end Body

/-! ## Payloads -/

variable {numbers : Numbers} {model : String}

theorem exact_arguments_cases (item : JsonObject) :
    exact_arguments numbers item = none
      ∨ exact_arguments numbers item = some (tool_arguments numbers item) := by
  unfold exact_arguments tool_arguments
  generalize JsonObject.get item "arguments" = value
  cases value with
  | str arguments_raw =>
    dsimp only
    by_cases hempty : arguments_raw = ""
    · rw [if_pos hempty, if_pos hempty]
      exact .inr rfl
    · rw [if_neg hempty, if_neg hempty]
      cases loads numbers arguments_raw.toList with
      | none => exact .inl rfl
      | some parsed =>
        cases parsed with
        | obj fields => exact .inr rfl
        | _ => exact .inl rfl
  | _ => exact .inr rfl

theorem payload_emission_congr {α : Type} {one other : JsonObject → α} {event : Option Text}
    {payload : JsonObject} (h : payload_kind event payload ≠ some "response.output_item.done") :
    payload_emission one model event payload = payload_emission other model event payload := by
  unfold payload_emission
  dsimp only
  rw [if_neg h, if_neg h]

theorem payload_emission_exact (read_arguments : JsonObject → JsonObject) (event : Option Text)
    (payload : JsonObject) :
    (payload_emission read_arguments model event payload).exact
      = payload_emission (fun item => some (read_arguments item)) model event payload := by
  unfold payload_emission
  dsimp only
  split
  · unfold Emission.exact delta_events
    split <;> rfl
  · split
    · unfold Emission.exact delta_events
      split <;> rfl
    · split
      · cases function_call_item payload <;> rfl
      · split
        · rfl
        · split
          · rfl
          · split
            · cases completed_usage payload <;> rfl
            · rfl

theorem payload_exact_iff (part : Part numbers) :
    (payload_emission (tool_arguments numbers) model part.frame.event part.frame.payload).exact
      = part.expected model ↔ part.ArgumentsRead := by
  rw [payload_emission_exact, Part.expected, Part.ArgumentsRead, Part.kind]
  by_cases hkind : payload_kind part.frame.event part.frame.payload
      = some "response.output_item.done"
  · have hcall : ∀ read_arguments : JsonObject → Option JsonObject,
        payload_emission read_arguments model part.frame.event part.frame.payload
          = { events := ((function_call_item part.frame.payload).map
            (tool_call_event_from_item read_arguments)).toList } := by
      intro read_arguments
      unfold payload_emission
      dsimp only
      rw [hkind, if_neg (by decide), if_neg (by decide), if_pos rfl]
    rw [hcall, hcall]
    cases hitem : function_call_item part.frame.payload with
    | none => simp
    | some item =>
      have hcases := @exact_arguments_cases numbers item
      constructor
      · intro hsame _ other hother hnone
        obtain rfl := Option.some.inj hother
        simp [tool_call_event_from_item, hnone] at hsame
      · intro hread
        have hexact := hcases.resolve_left (hread hkind item rfl)
        simp [tool_call_event_from_item, hexact]
  · exact iff_of_true (payload_emission_congr hkind) (fun h => absurd h hkind)

theorem expected_raised (part : Part numbers) :
    (part.expected model).raised ≠ none ↔ part.Fails := by
  unfold Part.expected payload_emission Part.Fails Part.kind
  dsimp only
  generalize payload_kind part.frame.event part.frame.payload = kind
  split
  · rename_i hkind
    rw [hkind]
    exact iff_of_false (fun h => h rfl) (by decide)
  · split
    · rename_i hkind
      rcases hkind with hkind | hkind
      · rw [hkind]
        exact iff_of_false (fun h => h rfl) (by decide)
      · rw [hkind]
        exact iff_of_false (fun h => h rfl) (by decide)
    · split
      · rename_i hkind
        rw [hkind]
        exact iff_of_false (fun h => h rfl) (by decide)
      · split
        · rename_i hkind
          exact iff_of_true (Option.some_ne_none _) (.inl hkind)
        · split
          · rename_i hkind
            exact iff_of_true (Option.some_ne_none _) (.inr hkind)
          · rename_i hfailed hincomplete
            have hnot : ¬ (kind = some "response.failed" ∨ kind = some "response.incomplete") :=
              fun h => h.elim hfailed hincomplete
            split
            · exact iff_of_false (fun h => h rfl) hnot
            · exact iff_of_false (fun h => h rfl) hnot

/-! ## Reading lines -/

theorem payload_of_nil (pending_event : Option Text) :
    events_from_sse_payload numbers model pending_event (join_data []) = {} := if_pos (.inl rfl)

theorem read_lines_nil (pending_event : Option Text) (data_lines : List Text) :
    read_lines numbers model pending_event data_lines []
      = events_from_sse_payload numbers model pending_event (join_data data_lines) := by
  rw [read_lines]
  by_cases hnil : data_lines = []
  · rw [if_pos hnil, hnil, payload_of_nil]
  · rw [if_neg hnil]

theorem read_lines_blank (lines rest : List Text) : ∀ (pending_event : Option Text)
    (data_lines : List Text),
    read_lines numbers model pending_event data_lines (lines ++ [] :: rest)
      = (read_lines numbers model pending_event data_lines lines).then
        (read_lines numbers model none [] rest) := by
  induction lines with
  | nil =>
    intro pending_event data_lines
    rw [read_lines_nil, nil_append, read_lines]
    rfl
  | cons line lines ih =>
    intro pending_event data_lines
    rw [cons_append, read_lines, read_lines]
    by_cases hblank : rstrip_return line = []
    · rw [if_pos hblank, if_pos hblank, ih, Emission.then_assoc]
    · rw [if_neg hblank, if_neg hblank]
      split
      · exact ih _ _
      · exact ih _ _
      · exact ih _ _

def Broken (numbers : Numbers) (first : Text) : Prop :=
  first.head? = some '{' ∧ ∀ rest : Text, (∀ next ∈ rest.head?, next = '\n') →
    loads numbers (first ++ rest) = none

theorem broken_payload {first : Text} (h : Broken numbers first) (pending_event : Option Text)
    (more : List Text) :
    events_from_sse_payload numbers model pending_event (join_data (first :: more)) = {} := by
  have hjoin : ∃ rest : Text, join_data (first :: more) = first ++ rest
      ∧ ∀ next ∈ rest.head?, next = '\n' := by
    cases more with
    | nil => exact ⟨[], by simp [join_data, List.intercalate], by simp⟩
    | cons second more =>
      refine ⟨'\n' :: join_data (second :: more), ?_, by simp⟩
      rw [join_data, intercalate_cons_cons]
      simp [join_data]
  obtain ⟨rest, hjoin, hrest⟩ := hjoin
  have hhead : (first ++ rest).head? = some '{' := by
    rw [List.head?_append, h.1]
    rfl
  have hnot : ¬ (first ++ rest = [] ∨ first ++ rest = "[DONE]".toList) := by
    rintro (heq | heq)
    · rw [heq] at hhead
      cases hhead
    · rw [heq] at hhead
      cases hhead
  rw [hjoin, events_from_sse_payload, if_neg hnot, h.2 rest hrest]

theorem read_lines_broken {first : Text} (h : Broken numbers first) (lines : List Text) :
    ∀ (pending_event : Option Text) (more : List Text),
      read_lines numbers model pending_event (first :: more) lines
        = read_lines numbers model none [] (after_blank lines) := by
  induction lines with
  | nil =>
    intro pending_event more
    rw [read_lines_nil, broken_payload h]
    rfl
  | cons line lines ih =>
    intro pending_event more
    rw [read_lines]
    by_cases hblank : rstrip_return line = []
    · rw [if_pos hblank, broken_payload h, Emission.nil_then, after_blank,
        dropWhile_cons_of_neg (by simpa using hblank)]
      rfl
    · have hafter : after_blank (line :: lines) = after_blank lines := by
        rw [after_blank, dropWhile_cons_of_pos (by simpa using hblank), after_blank]
      rw [if_neg hblank, hafter]
      split
      · exact ih _ _
      · exact ih _ _
      · exact ih _ _

/-! ## The lines of a part -/

variable {text : Text}

theorem cut_lines_plain (h : ∀ char ∈ text, is_line_boundary char = false) {rest : Text}
    {line : Line} {lines : List Line} (hrest : cut_lines rest = line :: lines) :
    cut_lines (text ++ rest) = ⟨text ++ line.text, line.ending⟩ :: lines := by
  induction text with
  | nil => exact hrest
  | cons char text ih =>
    rw [cons_append, cut_lines_char _ (h char mem_cons_self),
      ih (fun other hother => h other (mem_cons_of_mem _ hother))]
    rfl

theorem cut_lines_alone (h : ∀ char ∈ text, is_line_boundary char = false) (hne : text ≠ []) :
    cut_lines text = [⟨text, []⟩] := by
  induction text with
  | nil => exact absurd rfl hne
  | cons char text ih =>
    rw [cut_lines_char _ (h char mem_cons_self)]
    cases text with
    | nil => rfl
    | cons second text =>
      rw [ih (fun other hother => h other (mem_cons_of_mem _ hother))
        (cons_ne_nil _ _)]

def IsEnd (ending : Text) : Prop := ending = [] ∨ ending = ['\n'] ∨ ending = ['\r', '\n']

theorem isEnd_text (ending : LineEnd) : IsEnd ending.text := by
  cases ending with
  | lf => exact .inr (.inl rfl)
  | crlf => exact .inr (.inr rfl)

theorem line_ends (ending : LineEnd) : ending.text = ['\n'] ∨ ending.text = ['\r', '\n'] := by
  cases ending with
  | lf => exact .inl rfl
  | crlf => exact .inr rfl

theorem complete_append_ending (text : Text) (ending : LineEnd) : Complete (text ++ ending.text) := by
  intro char hchar
  cases ending with
  | lf =>
    rw [LineEnd.text, List.getLast?_concat] at hchar
    exact (Option.some.inj hchar).symm
  | crlf =>
    have htext : text ++ LineEnd.crlf.text = (text ++ ['\r']) ++ ['\n'] := by simp [LineEnd.text]
    rw [htext, List.getLast?_concat] at hchar
    exact (Option.some.inj hchar).symm

theorem CodexFrame.data_eq (frame : CodexFrame numbers) : ∃ rest, frame.data = '{' :: rest := by
  have hopens := frame.opens
  cases hdata : frame.data with
  | nil =>
    rw [hdata] at hopens
    cases hopens
  | cons char rest =>
    rw [hdata] at hopens
    rw [Option.some.inj hopens]
    exact ⟨rest, rfl⟩

variable {part : Part numbers}

theorem pieces_clean (hend : IsEnd part.data_end) (h : part.frame.Clean) :
    part.pieces = [part.frame.data] := by
  obtain ⟨rest, hdata⟩ := part.frame.data_eq
  unfold Part.pieces splitlines
  rcases hend with hnone | hend
  · have hne : part.frame.data ≠ [] := by
      rw [hdata]
      exact cons_ne_nil _ _
    rw [hnone, append_nil, cut_lines_alone h hne]
    rfl
  · have hline := cut_lines_line h hend []
    rw [append_nil] at hline
    rw [hline]
    rfl

theorem pieces_cut (h : ¬ part.frame.Clean) :
    ∃ first others, part.pieces = first :: others ∧ Broken numbers first
      ∧ ∀ char ∈ first, is_line_boundary char = false := by
  -- The data is cut at the first character that ends a line, which is not one of ASCII.
  have hfound : ∃ char, part.frame.data.find? is_line_boundary = some char := by
    unfold CodexFrame.Clean at h
    push Not at h
    obtain ⟨char, hchar, hends⟩ := h
    exact Option.isSome_iff_exists.mp
      (List.find?_isSome.mpr ⟨char, hchar, eq_true_of_ne_false hends⟩)
  obtain ⟨char, hfound⟩ := hfound
  obtain ⟨hends, before, post, hdata, hplain⟩ := List.find?_eq_some_iff_append.mp hfound
  have hbefore : ∀ other ∈ before, is_line_boundary other = false := fun other hother => by
    simpa using hplain other hother
  have hmem : char ∈ line_boundaries := by simpa [is_line_boundary] using hends
  have hboundaries : ∀ other ∈ line_boundaries,
      (0x20 ≤ other.toNat ∨ other = '\t') → ¬ Ascii other ∧ other ≠ '\r' :=
    forall_mem_of_all (by decide)
  have hin : char ∈ part.frame.data := by
    rw [hdata]
    exact mem_append_right _ mem_cons_self
  have hline := part.frame.one_line char hin
  obtain ⟨hascii, hreturn⟩ := hboundaries char hmem hline
  have hcut : cut_lines (part.frame.data ++ part.data_end)
      = ⟨before ++ [], [char]⟩ :: cut_lines (post ++ part.data_end) := by
    rw [hdata, append_assoc, cons_append]
    exact cut_lines_plain hbefore
      (cut_lines_boundary hends (fun _ hsame _ => hreturn hsame))
  refine ⟨before, (cut_lines (post ++ part.data_end)).map Line.text, ?_, ⟨?_, fun rest hrest => ?_⟩,
    hbefore⟩
  · unfold Part.pieces splitlines
    rw [hcut, append_nil]
    rfl
  · have hopens := part.frame.opens
    cases before with
    | nil =>
      rw [hdata] at hopens
      rw [Option.some.inj hopens] at hends
      cases hends
    | cons first before =>
      rw [hdata] at hopens
      exact hopens
  · have hloaded : loads numbers (before ++ char :: post) ≠ none := by
      rw [← hdata, part.frame.loaded]
      exact Option.some_ne_none _
    exact loads_cut hascii hloaded hrest

def Part.lines (part : Part numbers) : List Text :=
  part.frame.event_line.toList
    ++ ("data:".toList ++ (pad part.frame.data_pad ++ part.pieces.headD []))
      :: part.pieces.tail

theorem pad_plain (count : Nat) : ∀ char ∈ pad count, is_line_boundary char = false := by
  intro char hchar
  rw [eq_of_mem_replicate hchar]
  rfl

theorem is_space_of_boundary {char : Char} (h : is_space char = false) :
    is_line_boundary char = false := by
  by_contra hends
  have hmem : char ∈ line_boundaries := by
    simpa [is_line_boundary] using eq_true_of_ne_false hends
  have hspaces : ∀ other ∈ line_boundaries, is_space other = true :=
    forall_mem_of_all (by decide)
  rw [hspaces char hmem] at h
  cases h

theorem event_line_plain (frame : CodexFrame numbers) :
    ∀ line ∈ frame.event_line, ∀ char ∈ line, is_line_boundary char = false := by
  intro line hline char hchar
  obtain ⟨name, hname, rfl⟩ := Option.map_eq_some_iff.mp hline
  rcases mem_append.mp hchar with hfield | hrest
  · have hall : ∀ other ∈ "event:".toList, is_line_boundary other = false :=
      forall_mem_of_all (by decide)
    exact hall char hfield
  · rcases mem_append.mp hrest with hpad | hmem
    · exact pad_plain _ char hpad
    · exact is_space_of_boundary (frame.named name hname char hmem)

theorem pieces_ne_nil (hend : IsEnd part.data_end) :
    ∃ first others, part.pieces = first :: others
      ∧ ∀ char ∈ first, is_line_boundary char = false := by
  by_cases hclean : part.frame.Clean
  · exact ⟨part.frame.data, [], pieces_clean hend hclean, hclean⟩
  · obtain ⟨first, others, hpieces, -, hplain⟩ := pieces_cut hclean
    exact ⟨first, others, hpieces, hplain⟩

theorem cut_part (hend : IsEnd part.data_end) {rest : Text}
    (hrest : cut_lines (part.frame.data ++ part.data_end ++ rest)
      = cut_lines (part.frame.data ++ part.data_end) ++ cut_lines rest) :
    (cut_lines ((part.frame.event_line.map (· ++ part.frame.event_end.text)).getD []
        ++ ("data:".toList ++ (pad part.frame.data_pad
          ++ (part.frame.data ++ part.data_end)) ++ rest))).map Line.text
      = part.lines ++ (cut_lines rest).map Line.text := by
  obtain ⟨first, others, hpieces, -⟩ := pieces_ne_nil hend
  -- The line of the data, and what it is cut into.
  have hdata : (cut_lines ("data:".toList ++ (pad part.frame.data_pad
      ++ (part.frame.data ++ part.data_end)) ++ rest)).map Line.text
      = ("data:".toList ++ (pad part.frame.data_pad ++ first)) :: others
        ++ (cut_lines rest).map Line.text := by
    have hcut : (cut_lines (part.frame.data ++ part.data_end)).map Line.text = first :: others :=
      hpieces
    cases hlines : cut_lines (part.frame.data ++ part.data_end) with
    | nil =>
      rw [hlines] at hcut
      cases hcut
    | cons line lines =>
      rw [hlines] at hcut hrest
      obtain ⟨rfl, rfl⟩ := List.cons.inj hcut
      have hstart : ∀ char ∈ "data:".toList ++ pad part.frame.data_pad,
          is_line_boundary char = false := by
        intro char hchar
        rcases mem_append.mp hchar with hfield | hpad
        · have hall : ∀ other ∈ "data:".toList, is_line_boundary other = false :=
            forall_mem_of_all (by decide)
          exact hall char hfield
        · exact pad_plain _ char hpad
      have hplain := cut_lines_plain hstart hrest
      rw [append_assoc] at hplain
      rw [append_assoc, append_assoc, hplain]
      simp
  have hlines : part.lines = part.frame.event_line.toList
      ++ ("data:".toList ++ (pad part.frame.data_pad ++ first)) :: others := by
    rw [Part.lines, hpieces]
    rfl
  rw [hlines]
  cases hevent : part.frame.event_line with
  | none =>
    rw [Option.map_none, Option.getD_none, nil_append, hdata]
    rfl
  | some line =>
    rw [Option.map_some, Option.getD_some,
      cut_lines_line (event_line_plain part.frame line hevent) (line_ends _), map_cons,
      hdata]
    rfl

/-! ### What is read of a part -/

theorem rstrip_return_plain {line : Text} (h : ∀ char ∈ line, is_line_boundary char = false) :
    rstrip_return line = line := by
  unfold rstrip_return
  cases hreverse : line.reverse with
  | nil =>
    rw [reverse_eq_nil_iff.mp hreverse]
    rfl
  | cons last others =>
    have hlast : last ≠ '\r' := by
      rintro rfl
      have hmem : '\r' ∈ line := by
        rw [← mem_reverse, hreverse]
        exact mem_cons_self
      cases h '\r' hmem
    rw [dropWhile_cons_of_neg (by simpa using hlast), ← hreverse, reverse_reverse]

theorem lstrip_pad (count : Nat) (h : ∀ char ∈ text.head?, is_space char = false) :
    lstrip (pad count ++ text) = text := by
  unfold lstrip
  have hpad : ∀ char ∈ pad count, is_space char = true := by
    intro char hchar
    rw [eq_of_mem_replicate hchar]
    rfl
  rw [dropWhile_append_of_pos hpad]
  cases text with
  | nil => rfl
  | cons char text => exact dropWhile_cons_of_neg (by rw [h char rfl]; exact Bool.false_ne_true)

theorem strip_pad {name : Text} (count : Nat) (h : ∀ char ∈ name, is_space char = false) :
    strip (pad count ++ name) = name := by
  unfold strip
  have hhead : ∀ char ∈ name.head?, is_space char = false :=
    fun char hchar => h char (List.mem_of_mem_head? hchar)
  have hlast : ∀ char ∈ name.reverse.head?, is_space char = false :=
    fun char hchar => h char (mem_reverse.mp (List.mem_of_mem_head? hchar))
  have hreverse := lstrip_pad 0 hlast
  rw [lstrip_pad count hhead]
  exact (congrArg List.reverse hreverse).trans (reverse_reverse _)

theorem read_event_line (frame : CodexFrame numbers) (rest : List Text) :
    read_lines numbers model none [] (frame.event_line.toList ++ rest)
      = read_lines numbers model frame.event [] rest := by
  unfold CodexFrame.event_line
  cases hevent : frame.event with
  | none => rfl
  | some name =>
    have hline := rstrip_return_plain (event_line_plain frame
      ("event:".toList ++ (pad frame.event_pad ++ name)) (by rw [CodexFrame.event_line, hevent]; rfl))
    have hexpect : expect "event:".toList ("event:".toList ++ (pad frame.event_pad ++ name))
        = some (pad frame.event_pad ++ name) := rfl
    have hne : ¬ "event:".toList ++ (pad frame.event_pad ++ name) = [] := cons_ne_nil _ _
    rw [Option.map_some, Option.toList_some, singleton_append, read_lines, hline, if_neg hne,
      hexpect]
    dsimp only
    rw [strip_pad _ (frame.named name (by rw [hevent]; rfl))]

theorem read_data_line {first : Text} (count : Nat) (rest : List Text) (event : Option Text)
    (hopens : first.head? = some '{') (hplain : ∀ char ∈ first, is_line_boundary char = false) :
    read_lines numbers model event [] (("data:".toList ++ (pad count ++ first)) :: rest)
      = read_lines numbers model event [first] rest := by
  have hline : rstrip_return ("data:".toList ++ (pad count ++ first))
      = "data:".toList ++ (pad count ++ first) := by
    refine rstrip_return_plain (fun char hchar => ?_)
    rcases mem_append.mp hchar with hfield | hrest
    · have hall : ∀ other ∈ "data:".toList, is_line_boundary other = false :=
        forall_mem_of_all (by decide)
      exact hall char hfield
    · rcases mem_append.mp hrest with hpad | hmem
      · exact pad_plain _ char hpad
      · exact hplain char hmem
  have hevent : expect "event:".toList ("data:".toList ++ (pad count ++ first)) = none := rfl
  have hdata : expect "data:".toList ("data:".toList ++ (pad count ++ first))
      = some (pad count ++ first) := rfl
  have hne : ¬ "data:".toList ++ (pad count ++ first) = [] := cons_ne_nil _ _
  have hspace : ∀ char ∈ first.head?, is_space char = false := by
    intro char hchar
    rw [hopens] at hchar
    rw [← Option.mem_some_iff.mp hchar]
    rfl
  rw [read_lines, hline, if_neg hne, hevent, hdata]
  dsimp only
  rw [lstrip_pad count hspace]
  rfl

def Part.emission (model : String) (part : Part numbers) : Emission JsonObject :=
  read_lines numbers model none [] part.lines

theorem emission_clean (hend : IsEnd part.data_end) (h : part.frame.Clean) :
    part.emission model
      = payload_emission (tool_arguments numbers) model part.frame.event part.frame.payload := by
  have hnot : ¬ (part.frame.data = [] ∨ part.frame.data = "[DONE]".toList) := by
    obtain ⟨rest, hdata⟩ := part.frame.data_eq
    rw [hdata]
    rintro (heq | heq)
    · cases heq
    · cases heq
  have hjoin : join_data [part.frame.data] = part.frame.data := by
    simp [join_data, List.intercalate]
  rw [Part.emission, Part.lines, pieces_clean hend h, read_event_line]
  rw [headD_cons, tail_cons, read_data_line _ _ _ part.frame.opens h, read_lines_nil,
    hjoin, events_from_sse_payload, if_neg hnot, part.frame.loaded]

theorem emission_cut (h : ¬ part.frame.Clean) :
    part.emission model = part.cut_emission model := by
  obtain ⟨first, others, hpieces, hbroken, hplain⟩ := pieces_cut h
  rw [Part.emission, Part.lines, Part.cut_emission, hpieces, read_event_line]
  rw [headD_cons, tail_cons, read_data_line _ _ _ hbroken.1 hplain,
    read_lines_broken hbroken]

/-- **A part is read as it should where it is readable.** -/
theorem emission_exact_iff (hend : IsEnd part.data_end) :
    (part.emission model).exact = part.expected model ↔ part.Readable model := by
  by_cases hclean : part.frame.Clean
  · rw [emission_clean hend hclean, payload_exact_iff]
    exact ⟨fun h => ⟨fun _ => h, fun hcut => absurd hclean hcut⟩, fun h => h.1 hclean⟩
  · rw [emission_cut hclean]
    exact ⟨fun h => ⟨fun hin => absurd hin hclean, fun _ => h⟩, fun h => h.2 hclean⟩

/-! ### What is read of a body -/

theorem read_full_part (written : CodexFrame numbers × LineEnd × LineEnd) (rest : Text) :
    events_from_response numbers model ((full_part written).text ++ rest)
      = ((full_part written).emission model).then (events_from_response numbers model rest) := by
  have hend : IsEnd (full_part written).data_end := isEnd_text _
  have hblank := cut_lines_line (forall_mem_nil _) (line_ends written.2.2) rest
  have hcut := cut_part hend (cut_lines_append (complete_append_ending _ written.2.1)
    (written.2.2.text ++ rest))
  rw [nil_append] at hblank
  rw [hblank, map_cons] at hcut
  have htext : (full_part written).text ++ rest
      = ((full_part written).frame.event_line.map
          (· ++ (full_part written).frame.event_end.text)).getD []
        ++ ("data:".toList ++ (pad (full_part written).frame.data_pad
          ++ ((full_part written).frame.data ++ (full_part written).data_end))
          ++ (written.2.2.text ++ rest)) := by
    rw [Part.text, append_assoc, append_assoc]
    rfl
  unfold events_from_response splitlines
  simp only [Bool.false_eq_true, if_false]
  rw [htext, hcut, read_lines_blank, Part.emission]

theorem read_last_part (written : CodexFrame numbers × Option LineEnd) :
    events_from_response numbers model (last_part written).text
      = (last_part written).emission model := by
  have hend : IsEnd (last_part written).data_end := by
    cases hlast : written.2 with
    | none =>
      refine .inl ?_
      rw [last_part, hlast]
      rfl
    | some ending =>
      rw [last_part, hlast]
      exact isEnd_text ending
  have hcut := cut_part hend (by rw [append_nil]; exact (append_nil _).symm)
  have htext : (last_part written).text
      = ((last_part written).frame.event_line.map
          (· ++ (last_part written).frame.event_end.text)).getD []
        ++ ("data:".toList ++ (pad (last_part written).frame.data_pad
          ++ ((last_part written).frame.data ++ (last_part written).data_end))) := by
    have hblank : (last_part written).blank = [] := rfl
    rw [Part.text, hblank, append_nil]
  have hnil : (cut_lines []).map Line.text = [] := rfl
  rw [hnil, append_nil] at hcut
  unfold events_from_response splitlines
  simp only [Bool.false_eq_true, if_false]
  rw [htext, hcut, append_nil, Part.emission]

theorem read_parts (last : Option (CodexFrame numbers × Option LineEnd))
    (frames : List (CodexFrame numbers × LineEnd × LineEnd)) : ∀ before after,
    frames.map full_part ++ (last.map last_part).toList = before ++ after →
      events_from_response numbers model (parts_text before)
        = chain (before.map (Part.emission model)) := by
  induction frames with
  | nil =>
    intro before after hparts
    cases before with
    | nil => rfl
    | cons part before =>
      cases last with
      | none => cases hparts
      | some written =>
        obtain ⟨rfl, hrest⟩ := List.cons.inj hparts
        obtain ⟨rfl, -⟩ := append_eq_nil_iff.mp hrest.symm
        rw [parts_text, flatMap_singleton, read_last_part]
        exact (Emission.then_nil _).symm
  | cons written frames ih =>
    intro before after hparts
    cases before with
    | nil => rfl
    | cons part before =>
      rw [map_cons, cons_append, cons_append] at hparts
      obtain ⟨rfl, hrest⟩ := List.cons.inj hparts
      rw [parts_text, flatMap_cons, read_full_part]
      exact congrArg _ (ih before after hrest)

theorem exact_then (first second : Emission JsonObject) :
    (first.then second).exact = first.exact.then second.exact := by
  cases first with
  | mk events raised =>
    cases raised with
    | some error => rfl
    | none => simp [Emission.then, Emission.exact]

theorem exact_chain (emissions : List (Emission JsonObject)) :
    (chain emissions).exact = chain (emissions.map Emission.exact) := by
  induction emissions with
  | nil => rfl
  | cons emission emissions ih =>
    have hcons : chain (emission :: emissions) = emission.then (chain emissions) := rfl
    rw [hcons, exact_then, ih]
    rfl

theorem isEnd_of_mem {body : WrittenBody numbers} (h : part ∈ body.parts) :
    IsEnd part.data_end := by
  rcases mem_append.mp h with hfull | hlast
  · obtain ⟨written, -, rfl⟩ := mem_map.mp hfull
    exact isEnd_text _
  · obtain ⟨written, -, rfl⟩ := Option.map_eq_some_iff.mp (Option.mem_toList.mp hlast)
    cases hends : written.2 with
    | none =>
      refine .inl ?_
      rw [last_part, hends]
      rfl
    | some ending =>
      rw [last_part, hends]
      exact isEnd_text ending

theorem decoded_iff (body : WrittenBody numbers) :
    Decoded model body ↔ ∀ before part after, body.parts = before ++ part :: after →
      (∀ earlier ∈ before, ¬ earlier.Fails) → part.Readable model := by
  have hchains := @chains_agree_iff (Option JsonObject) (Part numbers) body.parts
    (fun part => (part.emission model).exact) (Part.expected model)
  have hread : ∀ before after, body.parts = before ++ after →
      (events_from_response numbers model (parts_text before)).exact
        = chain (before.map (fun part => (part.emission model).exact)) := by
    intro before after hparts
    rw [read_parts body.last body.frames before after hparts, exact_chain, map_map]
    rfl
  have hquiet : ∀ before : List (Part numbers),
      (∀ earlier ∈ before, (earlier.expected model).raised = none)
        ↔ ∀ earlier ∈ before, ¬ earlier.Fails := by
    intro before
    refine forall₂_congr (fun earlier _ => ?_)
    rw [← not_iff_not, not_not]
    exact expected_raised earlier
  have hpart : ∀ before part after, body.parts = before ++ part :: after →
      ((part.emission model).exact = part.expected model ↔ part.Readable model) := by
    intro before part after hparts
    have hmem : part ∈ body.parts := by
      rw [hparts]
      exact mem_append_right _ mem_cons_self
    exact emission_exact_iff (isEnd_of_mem hmem)
  constructor
  · intro h before part after hparts hfails
    refine (hpart before part after hparts).mp (hchains.mp (fun earlier later hearlier => ?_)
      before part after hparts ((hquiet before).mpr hfails))
    rw [← hread earlier later hearlier]
    exact h earlier later hearlier
  · intro h before after hparts
    rw [hread before after hparts]
    refine hchains.mpr (fun earlier part later hearlier hraised => ?_) before after hparts
    exact (hpart earlier part later hearlier).mpr
      (h earlier part later hearlier ((hquiet earlier).mp hraised))

/-- **A body is decoded without loss, and not taken for complete when it is not**, exactly where all
of its payloads are readable up to the first failure, and it has a completion or a failure. -/
theorem codex_decoded_iff (numbers : Numbers) (model : String) (body : WrittenBody numbers) :
    Decoded model body ∧ BreaksOff model body ↔
      (∀ before part after, body.parts = before ++ part :: after →
        (∀ earlier ∈ before, ¬ earlier.Fails) → part.Readable model)
        ∧ ∃ part ∈ body.parts, part.Completes ∨ part.Fails := by
  rw [← decoded_iff]
  refine and_congr_right (fun hdecoded => ?_)
  have hraised : (events_from_response numbers model body.text).raised
      = (chain (body.parts.map (Part.expected model))).raised := by
    have hall := hdecoded body.parts [] (append_nil _).symm
    exact congrArg Emission.raised hall
  have hfails : (events_from_response numbers model body.text).raised ≠ none
      ↔ ∃ part ∈ body.parts, part.Fails := by
    rw [hraised, ne_eq, raised_chain, forall_mem_map]
    push Not
    exact exists_congr (fun part => and_congr_right (fun _ => expected_raised part))
  unfold BreaksOff
  rw [hfails]
  constructor
  · intro h
    by_cases hcompletes : ∃ part ∈ body.parts, part.Completes
    · obtain ⟨part, hpart, hcomplete⟩ := hcompletes
      exact ⟨part, hpart, .inl hcomplete⟩
    · push Not at hcompletes
      obtain ⟨part, hpart, hfail⟩ := h hcompletes
      exact ⟨part, hpart, .inr hfail⟩
  · rintro ⟨part, hpart, hcomplete | hfail⟩ hnone
    · exact absurd hcomplete (hnone part hpart)
    · exact ⟨part, hpart, hfail⟩

def sample_numbers : Numbers := ⟨fun _ => .null, fun _ => .null⟩

/-- A delta with a line separator in it. -/
def separated_frame : CodexFrame sample_numbers where
  event := none
  data := "\x7b\"type\":\"response.output_text.delta\",\"delta\":\"a\u2028b\"\x7d".toList
  payload := [("type", .str "response.output_text.delta"), ("delta", .str "a\u2028b")]
  event_pad := 0
  data_pad := 1
  event_end := .lf
  loaded := by decide +kernel
  opens := rfl
  one_line := forall_mem_of_all (by decide)
  named := by simp

def separated_body : WrittenBody sample_numbers where
  frames := [(separated_frame, .lf, .lf)]
  last := none

/-- **A delta with a line separator in it is lost.** -/
theorem separator_loses_delta :
    ¬ ∀ (numbers : Numbers) (model : String) (body : WrittenBody numbers),
      Decoded model body ∧ BreaksOff model body := by
  intro hall
  have hdecoded := (hall sample_numbers "" separated_body).1 separated_body.parts []
    (append_nil _).symm
  have hread : (events_from_response sample_numbers "" separated_body.text).exact = {} := by rfl
  have hexpected : chain (separated_body.parts.map (Part.expected ""))
      = { events := [.text "a\u2028b"] } := by rfl
  have hlost : ({} : Emission (Option JsonObject)) = { events := [.text "a\u2028b"] } :=
    hread.symm.trans (hdecoded.trans hexpected)
  cases hlost

end CodingAgentLoop.CodexStream
