/-
The chunks of a file in the knowledge base, and the lines they are cited by.

`_chunk_text_with_spans` cuts a text every `chunk_size - chunk_overlap` tokens of four characters.
When the overlap is not smaller than the size it leaves the loop after the first chunk; when the
overlap is negative it steps over the text between two chunks. Otherwise the spans cover the text,
and the two rules that `_line_range_for_span` counts newlines by give the lines of the span's first
and last character.
-/
import CodingAgentLoop.Lib.TextLines
import Mathlib.Order.Bounds.Basic

open Lib.TextLines

namespace CodingAgentLoop.FileChunks

open List

/-! ## The code -/

/-- The settings of a `KB` that its chunks depend on. No value is refused. -/
structure KB where
  chunk_size : Int
  chunk_overlap : Int

/-- The index that `bound` stands for in a slice. -/
def clip (text : Text) (bound : Int) : Nat :=
  min (if bound < 0 then bound + text.length else bound).toNat text.length

/-- `text[start:stop]`. -/
def slice (text : Text) (start stop : Int) : Text :=
  (text.take (clip text stop)).drop (clip text start)

/-- `text[index]`, and `none` for an `IndexError`. -/
def item (text : Text) (index : Int) : Option Char :=
  let index := if index < 0 then index + text.length else index
  if index < 0 then none else text[index.toNat]?

structure Chunk where
  content : Text
  start : Int
  stop : Int

/-- The chunk that one pass of the loop appends. -/
def chunk_at (text : Text) (chunk_chars start : Int) : Chunk :=
  { content := slice text start (start + chunk_chars)
    start := start
    stop := min (start + chunk_chars) text.length }

/-- The loop of `_chunk_text_with_spans`, from `start`. -/
def chunk_loop (text : Text) (chunk_chars overlap_chars start : Int) : List Chunk :=
  if start < text.length then
    chunk_at text chunk_chars start ::
      if chunk_chars ≤ overlap_chars then []
      else chunk_loop text chunk_chars overlap_chars (start + (chunk_chars - overlap_chars))
  else []
termination_by (text.length - start).toNat

def chars_per_token : Int := 4

def KB.chunk_text_with_spans (kb : KB) (text : Text) : List Chunk :=
  let chunk_chars := kb.chunk_size * chars_per_token
  let overlap_chars := kb.chunk_overlap * chars_per_token
  if text.length ≤ chunk_chars then [⟨text, 0, text.length⟩]
  else chunk_loop text chunk_chars overlap_chars 0

/-- `_line_range_for_span`, and `none` for an `IndexError`. -/
def line_range_for_span (text : Text) (start stop : Int) : Option (Nat × Nat) :=
  let line_start := (slice text 0 start).count '\n' + 1
  if stop ≤ start then some (line_start, line_start)
  else do
    let line_end := (slice text 0 stop).count '\n'
    let last ← item text (stop - 1)
    let line_end := if last ≠ '\n' then line_end + 1 else line_end
    return (line_start, max line_start line_end)

/-! ## What chunks are for -/

/-- The 1-based line of the character at `index`. A newline belongs to the line it ends. -/
def line_of (text : Text) (index : Nat) : Nat := (text.take index).count '\n' + 1

/-- The indices of the characters of a span. -/
def Chunk.indices (chunk : Chunk) : Set Nat :=
  {index | chunk.start ≤ index ∧ (index : Int) < chunk.stop}

/-- A chunk that is the text at its span and not longer than `limit`. -/
structure Chunk.Lies (text : Text) (limit : Int) (chunk : Chunk) : Prop where
  start_le : 0 ≤ chunk.start
  le_stop : chunk.start ≤ chunk.stop
  stop_le : chunk.stop ≤ text.length
  content_eq : chunk.content = (text.take chunk.stop.toNat).drop chunk.start.toNat
  limited : chunk.content.length ≤ limit

/-- A chunk whose line range is the first and the last line with a character of it. -/
def Chunk.Cited (text : Text) (chunk : Chunk) : Prop :=
  ∃ first last, line_range_for_span text chunk.start chunk.stop = some (first, last) ∧
    IsLeast (Set.image (line_of text) chunk.indices) first ∧
    IsGreatest (Set.image (line_of text) chunk.indices) last

/-- Chunks that cover a text. -/
structure Covers (text : Text) (limit : Int) (chunks : List Chunk) : Prop where
  lies : ∀ chunk ∈ chunks, chunk.Lies text limit
  starting : ∀ first ∈ chunks.head?, first.start = 0
  increasing : chunks.Pairwise fun a b => a.start < b.start ∧ a.stop ≤ b.stop
  covered : ∀ index < text.length, ∃ chunk ∈ chunks, index ∈ chunk.indices
  cited : ∀ chunk ∈ chunks, chunk.content ≠ [] → chunk.Cited text

/-! ## Lines -/

variable {text : Text}

theorem clip_of_le {bound : Int} (hbound : 0 ≤ bound) (h : bound ≤ text.length) :
    clip text bound = bound.toNat := by
  unfold clip
  rw [if_neg (by omega)]
  omega

theorem slice_zero (stop : Int) : slice text 0 stop = text.take (clip text stop) := by
  have hzero : clip text 0 = 0 := clip_of_le (by omega) (by omega)
  unfold slice
  rw [hzero, drop_zero]

theorem line_of_mono {a b : Nat} (h : a ≤ b) : line_of text a ≤ line_of text b := by
  have hcount := (take_sublist_take_left (l := text) h).count_le '\n'
  unfold line_of
  omega

theorem line_range_of_span {start stop : Nat} (h : start < stop) (hstop : stop ≤ text.length) :
    line_range_for_span text start stop =
      some (line_of text start, line_of text (stop - 1)) := by
  obtain ⟨last, rfl⟩ : ∃ last, stop = last + 1 := ⟨stop - 1, by omega⟩
  have hmono : line_of text start ≤ line_of text last := line_of_mono (by omega)
  have hitem : item text ((last + 1 : Nat) - 1) = some text[last] := by
    have hindex : (((last + 1 : Nat) : Int) - 1).toNat = last := by omega
    unfold item
    rw [if_neg (by omega), if_neg (by omega), hindex]
    exact List.getElem?_eq_getElem hstop
  have htake : (text.take (last + 1)).count '\n' =
      (text.take last).count '\n' + if text[last] = '\n' then 1 else 0 := by
    rw [← take_concat_get hstop, concat_eq_append, count_append]
    simp [count_cons]
  unfold line_range_for_span
  rw [if_neg (by omega), slice_zero, slice_zero, clip_of_le (by omega) (by omega),
    clip_of_le (by omega) (by omega), Int.toNat_natCast, Int.toNat_natCast, hitem, htake]
  unfold line_of at hmono ⊢
  by_cases hlast : text[last] = '\n'
  · simp [hlast, hmono]
  · simp [hlast, hmono]

/-! ## The loop -/

variable {c o start : Int}

theorem mem_chunk_loop (h : o < c) {chunk : Chunk} (hmem : chunk ∈ chunk_loop text c o start) :
    start ≤ chunk.start ∧ chunk.start < text.length ∧ chunk = chunk_at text c chunk.start := by
  induction start using chunk_loop.induct text c o with
  | case1 start hlt ih =>
    have hle : ¬ c ≤ o := by omega
    rw [chunk_loop, if_pos hlt, if_neg hle] at hmem
    rcases mem_cons.mp hmem with rfl | hrest
    · exact ⟨le_refl _, hlt, rfl⟩
    · obtain ⟨hstart, hrest⟩ := ih hle hrest
      exact ⟨by omega, hrest⟩
  | case2 start hlt =>
    rw [chunk_loop, if_neg hlt] at hmem
    cases hmem

theorem pairwise_chunk_loop (h : o < c) :
    (chunk_loop text c o start).Pairwise fun a b => a.start < b.start ∧ a.stop ≤ b.stop := by
  induction start using chunk_loop.induct text c o with
  | case1 start hlt ih =>
    have hle : ¬ c ≤ o := by omega
    rw [chunk_loop, if_pos hlt, if_neg hle]
    refine pairwise_cons.mpr ⟨fun chunk hmem => ?_, ih hle⟩
    obtain ⟨hstart, hbound, hchunk⟩ := mem_chunk_loop h hmem
    have hfirst : (chunk_at text c start).start = start := rfl
    have hstop : (chunk_at text c start).stop = min (start + c) text.length := rfl
    have hchunk_stop : chunk.stop = min (chunk.start + c) text.length := by rw [hchunk]; rfl
    omega
  | case2 start hlt =>
    rw [chunk_loop, if_neg hlt]
    exact List.Pairwise.nil

/-- With an overlap that is not negative, no chunk starts after the end of the one before. -/
theorem covered_chunk_loop (h : o < c) (ho : 0 ≤ o) {index : Nat} (hindex : index < text.length)
    (hstart : start ≤ index) : ∃ chunk ∈ chunk_loop text c o start, index ∈ chunk.indices := by
  induction start using chunk_loop.induct text c o with
  | case1 start hlt ih =>
    have hle : ¬ c ≤ o := by omega
    rw [chunk_loop, if_pos hlt, if_neg hle]
    by_cases hin : (index : Int) < start + c
    · have hstop : (index : Int) < min (start + c) text.length := by omega
      exact ⟨_, mem_cons_self, hstart, hstop⟩
    · obtain ⟨chunk, hmem, hchunk⟩ := ih hle (by omega)
      exact ⟨chunk, mem_cons_of_mem _ hmem, hchunk⟩
  | case2 start hlt => omega

/-! ## The chunks of a text -/

theorem Chunk.Lies.cited {limit : Int} {chunk : Chunk} (h : chunk.Lies text limit)
    (hne : chunk.content ≠ []) : chunk.Cited text := by
  obtain ⟨start, hstart⟩ := Int.eq_ofNat_of_zero_le h.start_le
  obtain ⟨stop, hstop⟩ := Int.eq_ofNat_of_zero_le (h.start_le.trans h.le_stop)
  have hbound := h.stop_le
  have hlt : start < stop := by
    have hlength := length_pos_iff.mpr hne
    rw [h.content_eq, length_drop, length_take] at hlength
    omega
  have hindices : ∀ index, index ∈ chunk.indices ↔ start ≤ index ∧ index < stop := by
    intro index
    show chunk.start ≤ index ∧ (index : Int) < chunk.stop ↔ _
    omega
  refine ⟨line_of text start, line_of text (stop - 1), ?_, ⟨?_, ?_⟩, ⟨?_, ?_⟩⟩
  · rw [hstart, hstop]
    exact line_range_of_span hlt (by omega)
  · exact ⟨start, (hindices start).mpr ⟨le_refl _, hlt⟩, rfl⟩
  · rintro line ⟨index, hindex, rfl⟩
    exact line_of_mono ((hindices index).mp hindex).1
  · exact ⟨stop - 1, (hindices _).mpr (by omega), rfl⟩
  · rintro line ⟨index, hindex, rfl⟩
    have hlast := ((hindices index).mp hindex).2
    exact line_of_mono (by omega)

theorem chunk_at_lies (hc : 0 ≤ c) (hstart : 0 ≤ start) (hlt : start < text.length) :
    (chunk_at text c start).Lies text c := by
  have hstop : (chunk_at text c start).stop = min (start + c) text.length := rfl
  have hclip : clip text (start + c) = (min (start + c) text.length).toNat := by
    unfold clip
    rw [if_neg (by omega)]
    omega
  refine ⟨hstart, ?_, ?_, ?_, ?_⟩
  · show start ≤ (chunk_at text c start).stop
    omega
  · omega
  · show slice text start (start + c) = _
    unfold slice
    rw [hclip, clip_of_le hstart hlt.le]
    rfl
  · show ((slice text start (start + c)).length : Int) ≤ c
    unfold slice
    rw [hclip, clip_of_le hstart hlt.le, length_drop, length_take]
    omega

theorem covers_whole (h : text.length ≤ c) : Covers text c [⟨text, 0, text.length⟩] := by
  have hlies : Chunk.Lies text c ⟨text, 0, text.length⟩ :=
    ⟨le_refl _, Int.natCast_nonneg _, le_refl _, by simp, h⟩
  refine ⟨forall_mem_singleton.mpr hlies, fun first hfirst => ?_, pairwise_singleton _ _,
    fun index hindex => ?_, forall_mem_singleton.mpr hlies.cited⟩
  · obtain rfl := Option.some.inj hfirst
    rfl
  · exact ⟨_, mem_singleton_self _, Int.natCast_nonneg _, Int.ofNat_lt.mpr hindex⟩

theorem covers_chunk_loop (h : o < c) (ho : 0 ≤ o) : Covers text c (chunk_loop text c o 0) := by
  have hlies : ∀ chunk ∈ chunk_loop text c o 0, chunk.Lies text c := by
    intro chunk hmem
    obtain ⟨hstart, hlt, hchunk⟩ := mem_chunk_loop h hmem
    rw [hchunk]
    exact chunk_at_lies (by omega) hstart hlt
  refine ⟨hlies, fun first hfirst => ?_, pairwise_chunk_loop h,
    fun index hindex => covered_chunk_loop h ho hindex (by omega),
    fun chunk hmem => (hlies chunk hmem).cited⟩
  rw [chunk_loop] at hfirst
  split at hfirst
  · obtain rfl := Option.some.inj hfirst
    rfl
  · cases hfirst

/-- The first chunk ends before `c`, and the next one, if the loop goes on, starts after it. -/
theorem uncovered_chunk_loop (hc : c < text.length) (hne : text ≠ []) (h : c ≤ o ∨ o < 0 ∨ c ≤ 0) :
    ¬ ∀ index < text.length, ∃ chunk ∈ chunk_loop text c o 0, index ∈ chunk.indices := by
  intro hcovered
  have hlength : 0 < text.length := length_pos_iff.mpr hne
  obtain ⟨chunk, hmem, hle, hlt⟩ := hcovered c.toNat (by omega)
  rw [chunk_loop, if_pos (by omega)] at hmem
  rcases mem_cons.mp hmem with rfl | hrest
  · have hstop : (chunk_at text c 0).stop = min (0 + c) text.length := rfl
    omega
  · split at hrest
    · cases hrest
    · next hstep =>
      obtain ⟨hstart, hbound, hchunk⟩ := mem_chunk_loop (by omega) hrest
      have hstop : chunk.stop = min (chunk.start + c) text.length := by rw [hchunk]; rfl
      omega

/-- The chunks cover a text exactly when it fits into one chunk or the overlap is not negative and
smaller than the size. -/
theorem chunks_cover_iff (kb : KB) (text : Text) :
    Covers text (kb.chunk_size * chars_per_token) (kb.chunk_text_with_spans text) ↔
      text = [] ∨ text.length ≤ kb.chunk_size * chars_per_token ∨
        0 ≤ kb.chunk_overlap ∧ kb.chunk_overlap < kb.chunk_size := by
  unfold KB.chunk_text_with_spans chars_per_token
  by_cases hfits : (text.length : Int) ≤ kb.chunk_size * 4
  · simp only [hfits, if_true, true_or, or_true, iff_true]
    exact covers_whole hfits
  · simp only [hfits, if_false, false_or]
    constructor
    · intro h
      by_contra hneither
      rw [not_or] at hneither
      exact uncovered_chunk_loop (by omega) hneither.1 (by omega) h.covered
    · rintro (rfl | ⟨hoverlap, hsize⟩)
      · rw [chunk_loop, if_neg (by decide)]
        exact ⟨forall_mem_nil _, fun _ h => absurd h (by simp), List.Pairwise.nil,
          fun index h => absurd h (Nat.not_lt_zero index), forall_mem_nil _⟩
      · exact covers_chunk_loop (by omega) (by omega)

/-- With a size and an overlap of one token, the fifth character of a text is in no chunk. -/
theorem fifth_character_uncovered :
    ¬ Covers ['a', 'b', 'c', 'd', 'e'] (1 * chars_per_token)
      (KB.chunk_text_with_spans ⟨1, 1⟩ ['a', 'b', 'c', 'd', 'e']) := by
  intro h
  obtain ⟨chunk, hmem, hle, hlt⟩ := h.covered 4 (by decide)
  have hchunks : KB.chunk_text_with_spans ⟨1, 1⟩ ['a', 'b', 'c', 'd', 'e'] =
      [⟨['a', 'b', 'c', 'd'], 0, 4⟩] := by
    unfold KB.chunk_text_with_spans
    rw [if_neg (by decide), chunk_loop]
    rfl
  rw [hchunks, mem_singleton] at hmem
  rw [hmem] at hlt
  exact absurd hlt (by decide)

end CodingAgentLoop.FileChunks
