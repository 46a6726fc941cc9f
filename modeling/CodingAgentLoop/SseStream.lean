/-
`parseSseStream` of the connected chat client.

The parser decodes what it reads of the response body into a buffer, cuts frames off the buffer at
blank lines, and flushes what is left when the body ends. A stream is written as blocks of lines, a
blank line after each; a block with a data line is a frame, and a block of comments is nothing. Line
ends may be LF or CRLF, each by itself, comment lines may stand anywhere, and the last block need
not have its blank line. `stream_decoded` says that the frames are yielded as they were written,
wherever the bytes are cut.
-/
import CodingAgentLoop.Lib.TextLines
import CodingAgentLoop.Lib.Utf8Decoder
import CodingAgentLoop.Lib.History

open Lib Lib.TextLines Lib.Utf8Decoder

namespace CodingAgentLoop.SseStream

open List

/-! ## The parser -/

structure SseFrame where
  event : Text
  data : Text
  /-- The SSE `id` field, if present. -/
  id : Option Text
  deriving DecidableEq, Repr

/-- `text.split("\n")`. -/
def split_feeds : Text → List Text
  | [] => [[]]
  | char :: rest =>
    if char = '\n' then [] :: split_feeds rest
    else (char :: (split_feeds rest).headD []) :: (split_feeds rest).tail

/-- `rawLine.endsWith("\r") ? rawLine.slice(0, -1) : rawLine`. -/
def strip_return (raw_line : Text) : Text :=
  if raw_line.getLast? = some '\r' then raw_line.dropLast else raw_line

/-- `line.slice(0, colon)` and `line.slice(colon + 1)` for the first colon of a line. -/
def cut_colon : Text → Option (Text × Text)
  | [] => none
  | char :: rest =>
    if char = ':' then some ([], rest)
    else (cut_colon rest).map (fun cut => (char :: cut.1, cut.2))

/-- `value.replace(/^ /, "")`. -/
def strip_space (value : Text) : Text := if value.head? = some ' ' then value.tail else value

/-- What `flushFrame` has read of a frame. -/
structure Fields where
  event : Text := "message".toList
  id : Option Text := none
  data_lines : List Text := []
  deriving DecidableEq, Repr

/-- One line of `flushFrame`, without a return at its end. -/
def read_field (fields : Fields) (line : Text) : Fields :=
  if line.head? = some ':' then fields
  else
    match cut_colon line with
    | none => fields
    | some (field, rest) =>
      let value := strip_space rest
      if field = "event".toList then { fields with event := value }
      else if field = "data".toList then
        { fields with data_lines := fields.data_lines ++ [value] }
      else if field = "id".toList then { fields with id := some value }
      else fields

/-- One line of `flushFrame`. -/
def read_line (fields : Fields) (raw_line : Text) : Fields :=
  read_field fields (strip_return raw_line)

/-- `data_lines.join("\n")`. -/
def join_feeds (data_lines : List Text) : Text := ['\n'].intercalate data_lines

def Fields.frame (fields : Fields) : Option SseFrame :=
  if fields.data_lines = [] then none
  else some ⟨fields.event, join_feeds fields.data_lines, fields.id⟩

/-- `flushFrame(frame)`. -/
def flush_frame (frame : Text) : Option SseFrame :=
  ((split_feeds frame).foldl read_line {}).frame

/-- What follows a separator, `/^\r?\n\r?\n/`, at the beginning of the text. -/
def separator : Text → Option Text
  | '\n' :: '\n' :: rest | '\n' :: '\r' :: '\n' :: rest | '\r' :: '\n' :: '\n' :: rest
  | '\r' :: '\n' :: '\r' :: '\n' :: rest => some rest
  | _ => none

/-- What stands before and after the first separator, `buffer.search(/\r?\n\r?\n/)`. -/
def cut_frame (buffer : Text) : Option (Text × Text) :=
  match separator buffer with
  | some rest => some ([], rest)
  | none =>
    match buffer with
    | [] => none
    | char :: rest => (cut_frame rest).map (fun cut => (char :: cut.1, cut.2))

theorem separator_length {text rest : Text} (h : separator text = some rest) :
    rest.length < text.length := by
  unfold separator at h
  split at h
  all_goals first | cases h | skip
  all_goals simp only [length_cons]
  all_goals omega

variable {buffer : Text}

theorem cut_frame_length : ∀ {frame rest : Text},
    cut_frame buffer = some (frame, rest) → rest.length < buffer.length := by
  induction buffer with
  | nil =>
    intro frame rest h
    cases h
  | cons char buffer ih =>
    intro frame rest h
    rw [cut_frame] at h
    cases hseparator : separator (char :: buffer) with
    | some after =>
      rw [hseparator] at h
      obtain ⟨-, rfl⟩ := Prod.mk.inj (Option.some.inj h)
      exact separator_length hseparator
    | none =>
      rw [hseparator] at h
      obtain ⟨cut, hcut, heq⟩ := Option.map_eq_some_iff.mp h
      obtain ⟨-, rfl⟩ := Prod.mk.inj heq
      have hshorter := ih hcut
      rw [length_cons]
      omega

/-- The loop that cuts frames off the buffer: the frames that are yielded, and the buffer after
them. -/
def drain (buffer : Text) : List SseFrame × Text :=
  match _h : cut_frame buffer with
  | none => ([], buffer)
  | some (frame, rest) => ((flush_frame frame).toList ++ (drain rest).1, (drain rest).2)
termination_by buffer.length
decreasing_by all_goals exact cut_frame_length _h

/-- What `reader.read()` gives before the body ends: a chunk, or that the signal has aborted. -/
inductive Read where
  | chunk (value : List UInt8)
  | aborted
  deriving DecidableEq, Repr

/-- The loop of `parseSseStream`. -/
def read_stream (decoder : TextDecoder) (buffer : Text) : List Read → List SseFrame
  | [] => (flush_frame buffer).toList
  | .aborted :: _ => []
  | .chunk value :: rest =>
    let decoded := decoder.decode value
    let drained := drain (buffer ++ decoded.1)
    drained.1 ++ read_stream decoded.2 drained.2 rest

/-- `parseSseStream(stream, signal)`: the frames it yields. -/
def parse_sse_stream (stream : List Read) : List SseFrame := read_stream {} [] stream

/-! ## Cutting frames off a growing buffer -/

theorem drain_of_none (h : cut_frame buffer = none) :
    drain buffer = ([], buffer) := by
  rw [drain]
  split
  · rfl
  · rename_i hcut
    rw [h] at hcut
    cases hcut

theorem drain_of_some {buffer frame rest : Text} (h : cut_frame buffer = some (frame, rest)) :
    drain buffer = ((flush_frame frame).toList ++ (drain rest).1, (drain rest).2) := by
  rw [drain]
  split
  · rename_i hcut
    rw [h] at hcut
    cases hcut
  · rename_i hcut
    rw [h] at hcut
    cases hcut
    rfl

theorem separator_append {text rest : Text} (h : separator text = some rest) (more : Text) :
    separator (text ++ more) = some (rest ++ more) := by
  unfold separator at h
  split at h
  all_goals first | cases h | skip
  all_goals rfl

theorem separator_cases {text rest : Text} (h : separator text = some rest) :
    text = '\n' :: '\n' :: rest ∨ text = '\n' :: '\r' :: '\n' :: rest
      ∨ text = '\r' :: '\n' :: '\n' :: rest ∨ text = '\r' :: '\n' :: '\r' :: '\n' :: rest := by
  unfold separator at h
  split at h
  · exact .inl (by rw [Option.some.inj h])
  · exact .inr (.inl (by rw [Option.some.inj h]))
  · exact .inr (.inr (.inl (by rw [Option.some.inj h])))
  · exact .inr (.inr (.inr (by rw [Option.some.inj h])))
  · cases h

theorem separator_append_none {char : Char} {buffer frame rest : Text}
    (hnone : separator (char :: buffer) = none) (hcut : cut_frame buffer = some (frame, rest))
    (more : Text) : separator (char :: buffer ++ more) = none := by
  by_contra hsome
  obtain ⟨after, hafter⟩ := Option.ne_none_iff_exists'.mp hsome
  -- The buffer has at least two characters, since there is a separator in it.
  cases buffer with
  | nil => cases hcut
  | cons first buffer =>
    cases buffer with
    | nil => simp [cut_frame, separator] at hcut
    | cons second tail =>
      rcases separator_cases hafter with h | h | h | h
      · simp only [cons_append, List.cons.injEq] at h
        obtain ⟨rfl, rfl, -⟩ := h
        cases hnone
      · simp only [cons_append, List.cons.injEq] at h
        obtain ⟨rfl, rfl, rfl, -⟩ := h
        cases hnone
      · simp only [cons_append, List.cons.injEq] at h
        obtain ⟨rfl, rfl, rfl, -⟩ := h
        cases hnone
      · simp only [cons_append, List.cons.injEq] at h
        obtain ⟨rfl, rfl, rfl, h⟩ := h
        cases tail with
        | nil => simp [cut_frame, separator] at hcut
        | cons third tail =>
          obtain ⟨rfl, -⟩ := List.cons.inj h
          cases hnone

theorem cut_frame_append : ∀ {frame rest : Text},
    cut_frame buffer = some (frame, rest) → ∀ more,
      cut_frame (buffer ++ more) = some (frame, rest ++ more) := by
  induction buffer with
  | nil =>
    intro frame rest h
    cases h
  | cons char buffer ih =>
    intro frame rest h more
    rw [cut_frame] at h
    rw [cons_append, cut_frame]
    cases hseparator : separator (char :: buffer) with
    | some after =>
      rw [hseparator] at h
      have happend := separator_append hseparator more
      rw [cons_append] at happend
      rw [happend]
      obtain ⟨rfl, rfl⟩ := Prod.mk.inj (Option.some.inj h)
      rfl
    | none =>
      rw [hseparator] at h
      obtain ⟨⟨before, after⟩, hcut, heq⟩ := Option.map_eq_some_iff.mp h
      obtain ⟨rfl, rfl⟩ := Prod.mk.inj heq
      have hnone := separator_append_none hseparator hcut more
      rw [cons_append] at hnone
      rw [hnone]
      dsimp only
      rw [ih hcut more]
      rfl

theorem drain_append (buffer more : Text) :
    drain (buffer ++ more) = ((drain buffer).1 ++ (drain ((drain buffer).2 ++ more)).1,
      (drain ((drain buffer).2 ++ more)).2) := by
  induction hlength : buffer.length using Nat.strongRecOn generalizing buffer with
  | ind length ih =>
    cases hcut : cut_frame buffer with
    | none =>
      rw [drain_of_none hcut]
      rfl
    | some cut =>
      obtain ⟨frame, rest⟩ := cut
      have hshorter := cut_frame_length hcut
      rw [drain_of_some hcut, drain_of_some (cut_frame_append hcut more),
        ih rest.length (by omega) rest rfl]
      simp only [append_assoc]

theorem cut_frame_drain (buffer : Text) : cut_frame (drain buffer).2 = none := by
  induction hlength : buffer.length using Nat.strongRecOn generalizing buffer with
  | ind length ih =>
    cases hcut : cut_frame buffer with
    | none => rwa [drain_of_none hcut]
    | some cut =>
      obtain ⟨frame, rest⟩ := cut
      have hshorter := cut_frame_length hcut
      rw [drain_of_some hcut]
      exact ih rest.length (by omega) rest rfl

theorem read_stream_eq (chunks : List (List UInt8)) : ∀ (decoder : TextDecoder) (buffer : Text),
    cut_frame buffer = none →
      read_stream decoder buffer (chunks.map .chunk)
        = (drain (buffer ++ decoder.decode_all chunks)).1
          ++ (flush_frame (drain (buffer ++ decoder.decode_all chunks)).2).toList := by
  induction chunks with
  | nil =>
    intro decoder buffer hnone
    rw [TextDecoder.decode_all, append_nil, drain_of_none hnone]
    rfl
  | cons chunk rest ih =>
    intro decoder buffer hnone
    rw [map_cons, read_stream, TextDecoder.decode_all, ← append_assoc,
      drain_append (buffer ++ (decoder.decode chunk).1)]
    dsimp only
    rw [ih _ _ (cut_frame_drain _)]
    simp only [append_assoc]

/-! ## Written streams -/

inductive FieldName where
  | event
  | data
  | id
  deriving DecidableEq, Repr

def FieldName.text : FieldName → Text
  | .event => "event".toList
  | .data => "data".toList
  | .id => "id".toList

/-- A line of a block; the space after the colon is not part of the value. -/
inductive SseLine where
  | comment (text : Text)
  | field (name : FieldName) (space : Bool) (value : Text)
  deriving DecidableEq, Repr

def SseLine.text : SseLine → Text
  | .comment text => ':' :: text
  | .field name space value => name.text ++ ':' :: ((if space then [' '] else []) ++ value)

def SseLine.Spaced : SseLine → Prop
  | .comment _ => True
  | .field _ space value => space = false → value.head? ≠ some ' '

inductive LineEnd where
  | lf
  | crlf
  deriving DecidableEq, Repr

def LineEnd.text : LineEnd → Text
  | .lf => ['\n']
  | .crlf => ['\r', '\n']

def Plain (char : Char) : Prop := char ≠ '\n' ∧ char ≠ '\r'

structure WrittenLine where
  line : SseLine
  ending : LineEnd
  plain : ∀ char ∈ line.text, Plain char
  spaced : line.Spaced

def lines_text (lines : List WrittenLine) : Text :=
  lines.flatMap (fun written => written.line.text ++ written.ending.text)

/-- Lines with a blank line after them. -/
structure WrittenBlock where
  lines : List WrittenLine
  last : WrittenLine
  blank : LineEnd

def WrittenBlock.frame_text (block : WrittenBlock) : Text :=
  lines_text block.lines ++ block.last.line.text

def WrittenBlock.text (block : WrittenBlock) : Text :=
  block.frame_text ++ (block.last.ending.text ++ block.blank.text)

/-- Blocks, and a last one without its blank line, whose last line may be without its end. -/
structure WrittenStream where
  blocks : List WrittenBlock
  tail : List WrittenLine
  last : Option WrittenLine

def WrittenStream.tail_text (stream : WrittenStream) : Text :=
  lines_text stream.tail ++ (stream.last.map (fun written => written.line.text)).getD []

def WrittenStream.text (stream : WrittenStream) : Text :=
  stream.blocks.flatMap WrittenBlock.text ++ stream.tail_text

/-! ### What is written -/

def SseLine.value (name : FieldName) : SseLine → Option Text
  | .comment _ => none
  | .field other _ value => if other = name then some value else none

/-- The frame of a block: the last event name and the last id, and the lines of the data. -/
def written_frame (lines : List SseLine) : Option SseFrame :=
  if lines.filterMap (SseLine.value .data) = [] then none
  else some ⟨(lines.filterMap (SseLine.value .event)).getLast?.getD "message".toList,
    join_feeds (lines.filterMap (SseLine.value .data)),
    (lines.filterMap (SseLine.value .id)).getLast?⟩

def WrittenBlock.all_lines (block : WrittenBlock) : List SseLine :=
  block.lines.map WrittenLine.line ++ [block.last.line]

def WrittenStream.tail_lines (stream : WrittenStream) : List SseLine :=
  stream.tail.map WrittenLine.line ++ (stream.last.map WrittenLine.line).toList

def WrittenStream.frames (stream : WrittenStream) : List SseFrame :=
  stream.blocks.filterMap (fun block => written_frame block.all_lines)
    ++ (written_frame stream.tail_lines).toList

/-! ### Reading a line -/

def Fields.add (fields : Fields) : SseLine → Fields
  | .comment _ => fields
  | .field .event _ value => { fields with event := value }
  | .field .data _ value => { fields with data_lines := fields.data_lines ++ [value] }
  | .field .id _ value => { fields with id := some value }

theorem cut_colon_name {name : Text} (h : ∀ char ∈ name, char ≠ ':') (rest : Text) :
    cut_colon (name ++ ':' :: rest) = some (name, rest) := by
  induction name with
  | nil => rfl
  | cons char name ih =>
    rw [cons_append, cut_colon, if_neg (h char mem_cons_self),
      ih (fun other hother => h other (mem_cons_of_mem _ hother))]
    rfl

theorem FieldName.not_mem_text (name : FieldName) : ∀ char ∈ name.text, char ≠ ':' := by
  cases name <;> exact forall_mem_of_all (by decide)

theorem read_field_text (fields : Fields) {line : SseLine} (hspaced : line.Spaced) :
    read_field fields line.text = fields.add line := by
  cases line with
  | comment text => rw [read_field, SseLine.text, List.head?_cons, if_pos rfl]; rfl
  | field name space value =>
    have hspace : strip_space ((if space then [' '] else []) ++ value) = value := by
      cases space with
      | true => exact if_pos rfl
      | false => exact if_neg (hspaced rfl)
    have hhead : (name.text ++ ':' :: ((if space then [' '] else []) ++ value)).head?
        ≠ some ':' := by
      cases name <;> simp [FieldName.text]
    rw [read_field, SseLine.text, if_neg hhead, cut_colon_name name.not_mem_text]
    dsimp only
    rw [hspace]
    cases name <;> rfl

theorem strip_return_append (line : Text) : strip_return (line ++ ['\r']) = line := by
  rw [strip_return, List.getLast?_concat, if_pos rfl, dropLast_concat]

theorem strip_return_plain {line : Text} (h : ∀ char ∈ line, Plain char) :
    strip_return line = line := by
  refine if_neg (fun hlast => ?_)
  exact (h '\r' (List.mem_of_getLast? hlast)).2 rfl

theorem split_feeds_plain {text : Text} (h : ∀ char ∈ text, char ≠ '\n') (rest : Text) :
    split_feeds (text ++ '\n' :: rest) = text :: split_feeds rest := by
  induction text with
  | nil => rw [nil_append, split_feeds, if_pos rfl]
  | cons char text ih =>
    rw [cons_append, split_feeds, if_neg (h char mem_cons_self),
      ih (fun other hother => h other (mem_cons_of_mem _ hother))]
    rfl

theorem split_feeds_last {text : Text} (h : ∀ char ∈ text, char ≠ '\n') :
    split_feeds text = [text] := by
  induction text with
  | nil => rfl
  | cons char text ih =>
    rw [split_feeds, if_neg (h char mem_cons_self),
      ih (fun other hother => h other (mem_cons_of_mem _ hother))]
    rfl

variable {rest : Text}

theorem foldl_lines (lines : List WrittenLine) (hrest : ∀ char ∈ rest, char ≠ '\n') :
    ∀ fields : Fields, (split_feeds (lines_text lines ++ rest)).foldl read_line fields
      = read_line ((lines.map WrittenLine.line).foldl Fields.add fields) rest := by
  induction lines with
  | nil =>
    intro fields
    rw [lines_text, flatMap_nil, nil_append, split_feeds_last hrest]
    rfl
  | cons written lines ih =>
    intro fields
    have hplain : ∀ char ∈ written.line.text, char ≠ '\n' :=
      fun char hchar => (written.plain char hchar).1
    have hfirst : ∃ raw_line, split_feeds (lines_text (written :: lines) ++ rest)
        = raw_line :: split_feeds (lines_text lines ++ rest)
          ∧ strip_return raw_line = written.line.text := by
      rw [lines_text, flatMap_cons]
      cases hending : written.ending with
      | lf =>
        refine ⟨written.line.text, ?_, strip_return_plain written.plain⟩
        rw [LineEnd.text, append_assoc, append_assoc, singleton_append,
          split_feeds_plain hplain]
        rfl
      | crlf =>
        refine ⟨written.line.text ++ ['\r'], ?_, strip_return_append _⟩
        have hall : ∀ char ∈ written.line.text ++ ['\r'], char ≠ '\n' := by
          intro char hchar
          rcases mem_snoc hchar with hline | hreturn
          · exact hplain char hline
          · rw [hreturn]
            decide
        have htext : written.line.text ++ LineEnd.crlf.text
            ++ lines.flatMap (fun written => written.line.text ++ written.ending.text) ++ rest
          = (written.line.text ++ ['\r']) ++ '\n' :: (lines_text lines ++ rest) := by
          simp [LineEnd.text, lines_text]
        rw [htext, split_feeds_plain hall]
    obtain ⟨raw_line, hsplit, hstrip⟩ := hfirst
    have hread : read_line fields raw_line = fields.add written.line := by
      rw [read_line, hstrip, read_field_text fields written.spaced]
    rw [hsplit, foldl_cons, ih, hread, map_cons, foldl_cons]

theorem foldl_add (lines : List SseLine) : ∀ fields : Fields,
    lines.foldl Fields.add fields
      = ⟨(lines.filterMap (SseLine.value .event)).getLast?.getD fields.event,
        ((lines.filterMap (SseLine.value .id)).getLast?).or fields.id,
        fields.data_lines ++ lines.filterMap (SseLine.value .data)⟩ := by
  induction lines with
  | nil =>
    intro fields
    simp
  | cons line lines ih =>
    intro fields
    rw [foldl_cons, ih]
    cases line with
    | comment text => rfl
    | field name space value =>
      cases name with
      | event => simp [Fields.add, SseLine.value, List.getLast?_cons]
      | data => simp [Fields.add, SseLine.value]
      | id =>
        cases hlast : (lines.filterMap (SseLine.value .id)).getLast? with
        | none => simp [Fields.add, SseLine.value, List.getLast?_cons, hlast]
        | some later => simp [Fields.add, SseLine.value, List.getLast?_cons, hlast]

theorem frame_add (lines : List SseLine) :
    (lines.foldl Fields.add {}).frame = written_frame lines := by
  rw [foldl_add, Fields.frame, written_frame]
  simp

theorem WrittenLine.not_feed (written : WrittenLine) : ∀ char ∈ written.line.text, char ≠ '\n' :=
  fun char hchar => (written.plain char hchar).1

theorem flush_frame_text (block : WrittenBlock) :
    flush_frame block.frame_text = written_frame block.all_lines := by
  rw [flush_frame, WrittenBlock.frame_text, foldl_lines block.lines block.last.not_feed, read_line,
    strip_return_plain block.last.plain, read_field_text _ block.last.spaced, ← frame_add,
    WrittenBlock.all_lines, foldl_append]
  rfl

theorem flush_tail_text (stream : WrittenStream) :
    flush_frame stream.tail_text = written_frame stream.tail_lines := by
  rw [flush_frame, WrittenStream.tail_text, ← frame_add, WrittenStream.tail_lines,
    foldl_append]
  cases stream.last with
  | none =>
    rw [foldl_lines stream.tail (by simp)]
    rfl
  | some last =>
    rw [Option.map_some, Option.getD_some, foldl_lines stream.tail last.not_feed, read_line,
      strip_return_plain last.plain, read_field_text _ last.spaced]
    rfl

/-! ### Finding the blank lines -/

def Begins (text : Text) : Prop := ∀ char ∈ text.head?, Plain char

theorem separator_plain {char : Char} (h : Plain char) (rest : Text) :
    separator (char :: rest) = none := by
  by_contra hsome
  obtain ⟨after, hafter⟩ := Option.ne_none_iff_exists'.mp hsome
  rcases separator_cases hafter with heq | heq | heq | heq
  · exact h.1 (List.cons.inj heq).1
  · exact h.1 (List.cons.inj heq).1
  · exact h.2 (List.cons.inj heq).1
  · exact h.2 (List.cons.inj heq).1

def before (text : Text) (cut : Text × Text) : Text × Text := (text ++ cut.1, cut.2)

theorem map_before_nil (cut : Option (Text × Text)) : cut.map (before []) = cut := by
  cases cut <;> rfl

theorem cut_frame_separator {text rest : Text} (h : separator text = some rest) :
    cut_frame text = some ([], rest) := by
  cases text with
  | nil => cases h
  | cons char text => rw [cut_frame, h]

theorem cut_frame_plain {text : Text} (h : ∀ char ∈ text, Plain char) (rest : Text) :
    cut_frame (text ++ rest) = (cut_frame rest).map (before text) := by
  induction text with
  | nil => rw [nil_append, map_before_nil]
  | cons char text ih =>
    have hseparator := separator_plain (h char mem_cons_self) (text ++ rest)
    rw [cons_append, cut_frame, hseparator]
    dsimp only
    rw [ih (fun other hother => h other (mem_cons_of_mem _ hother)), Option.map_map]
    rfl

theorem cut_frame_ending (ending : LineEnd) (h : Begins rest) :
    cut_frame (ending.text ++ rest) = (cut_frame rest).map (before ending.text) := by
  have hfeed : separator ('\n' :: rest) = none := by
    by_contra hsome
    obtain ⟨after, hafter⟩ := Option.ne_none_iff_exists'.mp hsome
    cases rest with
    | nil => simp [separator] at hafter
    | cons char rest =>
      have hplain := h char rfl
      rcases separator_cases hafter with heq | heq | heq | heq
      · exact hplain.1 (List.cons.inj (List.cons.inj heq).2).1
      · exact hplain.2 (List.cons.inj (List.cons.inj heq).2).1
      · simp at heq
      · simp at heq
  have hreturn : separator ('\r' :: '\n' :: rest) = none := by
    by_contra hsome
    obtain ⟨after, hafter⟩ := Option.ne_none_iff_exists'.mp hsome
    cases rest with
    | nil => simp [separator] at hafter
    | cons char rest =>
      have hplain := h char rfl
      rcases separator_cases hafter with heq | heq | heq | heq
      · simp at heq
      · simp at heq
      · exact hplain.1 (List.cons.inj (List.cons.inj (List.cons.inj heq).2).2).1
      · exact hplain.2 (List.cons.inj (List.cons.inj (List.cons.inj heq).2).2).1
  cases ending with
  | lf =>
    rw [LineEnd.text, singleton_append, cut_frame, hfeed]
    rfl
  | crlf =>
    have htext : LineEnd.crlf.text ++ rest = '\r' :: '\n' :: rest := rfl
    rw [htext, cut_frame, hreturn]
    dsimp only
    rw [cut_frame, hfeed]
    dsimp only
    rw [Option.map_map]
    rfl

theorem WrittenLine.text_ne_nil (written : WrittenLine) : written.line.text ≠ [] := by
  cases written.line with
  | comment text => exact cons_ne_nil _ _
  | field name space value => exact append_ne_nil_of_right_ne_nil _ (cons_ne_nil _ _)

theorem begins_line (written : WrittenLine) (rest : Text) : Begins (written.line.text ++ rest) := by
  intro char hchar
  obtain ⟨first, others, htext⟩ := exists_cons_of_ne_nil written.text_ne_nil
  rw [htext] at hchar
  obtain rfl := Option.mem_some_iff.mp hchar
  exact written.plain first (by rw [htext]; exact mem_cons_self)

theorem begins_lines (lines : List WrittenLine) (h : Begins rest) :
    Begins (lines_text lines ++ rest) := by
  cases lines with
  | nil => exact h
  | cons written lines =>
    rw [lines_text, flatMap_cons, append_assoc, append_assoc]
    exact begins_line written _

theorem cut_frame_lines (lines : List WrittenLine) (h : Begins rest) :
    cut_frame (lines_text lines ++ rest) = (cut_frame rest).map (before (lines_text lines)) := by
  induction lines with
  | nil => rw [lines_text, flatMap_nil, nil_append, map_before_nil]
  | cons written lines ih =>
    have htext : lines_text (written :: lines) ++ rest
        = written.line.text ++ (written.ending.text ++ (lines_text lines ++ rest)) := by
      simp [lines_text]
    rw [htext, cut_frame_plain written.plain, cut_frame_ending _ (begins_lines lines h), ih,
      Option.map_map, Option.map_map]
    congr 1
    funext cut
    simp [before, lines_text]

theorem cut_frame_block (block : WrittenBlock) (rest : Text) :
    cut_frame (block.text ++ rest) = some (block.frame_text, rest) := by
  have hseparator : separator (block.last.ending.text ++ (block.blank.text ++ rest))
      = some rest := by
    cases block.last.ending <;> cases block.blank <;> rfl
  have hblank := cut_frame_separator hseparator
  have htext : block.text ++ rest = lines_text block.lines ++ (block.last.line.text
      ++ (block.last.ending.text ++ (block.blank.text ++ rest))) := by
    simp [WrittenBlock.text, WrittenBlock.frame_text]
  rw [htext, cut_frame_lines block.lines (begins_line block.last _),
    cut_frame_plain block.last.plain, hblank]
  simp [before, WrittenBlock.frame_text]

theorem cut_frame_tail (stream : WrittenStream) : cut_frame stream.tail_text = none := by
  have hnil : cut_frame [] = none := rfl
  rw [WrittenStream.tail_text]
  cases stream.last with
  | none =>
    rw [cut_frame_lines stream.tail (by intro char hchar; cases hchar)]
    rfl
  | some last =>
    have hlast := cut_frame_plain last.plain []
    rw [append_nil, hnil] at hlast
    have hbegins := begins_line last []
    rw [append_nil] at hbegins
    rw [Option.map_some, Option.getD_some, cut_frame_lines stream.tail hbegins, hlast]
    rfl

/-! ### What is read of a stream -/

theorem drain_blocks (blocks : List WrittenBlock) {tail : Text} (h : cut_frame tail = none) :
    drain (blocks.flatMap WrittenBlock.text ++ tail)
      = (blocks.filterMap (fun block => written_frame block.all_lines), tail) := by
  induction blocks with
  | nil => exact drain_of_none h
  | cons block blocks ih =>
    rw [flatMap_cons, append_assoc, drain_of_some (cut_frame_block block _), ih,
      flush_frame_text]
    cases hframe : written_frame block.all_lines with
    | none =>
      simp only [filterMap_cons, hframe]
      rfl
    | some frame =>
      simp only [filterMap_cons, hframe]
      rfl

theorem head_line (written : WrittenLine) (rest : Text) :
    (written.line.text ++ rest).head? ≠ some byte_order_mark := by
  cases written.line with
  | comment text => simp [SseLine.text, byte_order_mark]
  | field name space value => cases name <;> simp [SseLine.text, FieldName.text, byte_order_mark]

theorem head_lines (lines : List WrittenLine) (h : rest.head? ≠ some byte_order_mark) :
    (lines_text lines ++ rest).head? ≠ some byte_order_mark := by
  cases lines with
  | nil => exact h
  | cons written lines =>
    rw [lines_text, flatMap_cons, append_assoc, append_assoc]
    exact head_line written _

theorem head_stream (stream : WrittenStream) : stream.text.head? ≠ some byte_order_mark := by
  rw [WrittenStream.text]
  cases stream.blocks with
  | nil =>
    refine head_lines stream.tail ?_
    cases stream.last with
    | none => exact Option.some_ne_none _ |>.symm
    | some last =>
      have hlast := head_line last []
      rwa [append_nil] at hlast
  | cons block blocks =>
    have htext : (block :: blocks).flatMap WrittenBlock.text ++ stream.tail_text
        = lines_text block.lines ++ (block.last.line.text ++ (block.last.ending.text
          ++ (block.blank.text ++ (blocks.flatMap WrittenBlock.text ++ stream.tail_text)))) := by
      simp [WrittenBlock.text, WrittenBlock.frame_text]
    rw [htext]
    exact head_lines block.lines (head_line block.last _)

/-- **The frames are yielded as they were written, wherever the bytes are cut.** -/
theorem stream_decoded (stream : WrittenStream) (chunks : List (List UInt8))
    (h : chunks.flatten = encode stream.text) :
    parse_sse_stream (chunks.map .chunk) = stream.frames := by
  rw [parse_sse_stream, read_stream_eq chunks {} [] rfl, nil_append,
    decode_all_encode h (head_stream stream), WrittenStream.text,
    drain_blocks stream.blocks (cut_frame_tail stream)]
  dsimp only
  rw [flush_tail_text, WrittenStream.frames]

def sample_stream : WrittenStream where
  blocks :=
    [⟨[⟨.comment " ping".toList, .lf, by simp [SseLine.text, Plain], trivial⟩],
      ⟨.field .data true "é".toList, .crlf, by simp [SseLine.text, FieldName.text, Plain],
        by simp [SseLine.Spaced]⟩, .crlf⟩]
  tail := []
  last := none

def sample_chunks : List (List UInt8) :=
  [(encode sample_stream.text).take 14, ((encode sample_stream.text).drop 14).take 2,
    ((encode sample_stream.text).drop 14).drop 2]

theorem sample_decoded :
    parse_sse_stream (sample_chunks.map .chunk) = [⟨"message".toList, "é".toList, none⟩] :=
  (stream_decoded sample_stream sample_chunks
    (by simp only [sample_chunks, flatten_cons, flatten_nil, append_nil,
      take_append_drop])).trans (by decide)

/-! ### Every frame can be written -/

end CodingAgentLoop.SseStream
