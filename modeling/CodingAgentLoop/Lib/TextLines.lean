/-
Lines of text, as Python's string methods see them.

`cut_lines` is `str.splitlines`: a line ends at any of ten characters, or at a carriage return with
a line feed, and `kept` is the line with its ending. `expect` and `number` read a literal and a
decimal number off the front of a text; what follows the end of a line is not looked at by either
(`expect_append`, `number_append`), so reading a line with its ending and without it is the same.
-/

namespace Lib.TextLines

open List

abbrev Text : Type := List Char

variable {text : Text}

theorem forall_mem_of_all {P : Char → Prop} [DecidablePred P]
    (h : text.all (fun char => decide (P char)) = true) : ∀ char ∈ text, P char := by
  intro char hchar
  exact of_decide_eq_true (all_eq_true.mp h char hchar)

/-! ## Lines -/

/-- The characters that `str.splitlines` breaks a line at. -/
def line_boundaries : List Char :=
  ['\n', '\r', '\x0b', '\x0c', '\x1c', '\x1d', '\x1e', '\u0085', '\u2028', '\u2029']

def is_line_boundary (c : Char) : Bool := line_boundaries.contains c

/-- A line and the characters that ended it. -/
structure Line where
  text : Text
  ending : Text

/-- The line as `splitlines(keepends=True)` gives it. -/
def Line.kept (line : Line) : Text := line.text ++ line.ending

def cut_lines : Text → List Line
  | [] => []
  | '\r' :: '\n' :: rest => ⟨[], ['\r', '\n']⟩ :: cut_lines rest
  | c :: rest =>
    if is_line_boundary c then ⟨[], [c]⟩ :: cut_lines rest
    else
      match cut_lines rest with
      | [] => [⟨[c], []⟩]
      | line :: lines => ⟨c :: line.text, line.ending⟩ :: lines

def splitlines (text : Text) (keepends : Bool) : List Text :=
  (cut_lines text).map fun line => if keepends then line.kept else line.text

theorem cut_lines_crlf (rest : Text) :
    cut_lines ('\r' :: '\n' :: rest) = ⟨[], ['\r', '\n']⟩ :: cut_lines rest := by
  rw [cut_lines]

variable {c : Char} {rest : Text}

theorem cut_lines_boundary (hc : is_line_boundary c = true)
    (hcrlf : ∀ rest', c = '\r' → rest ≠ '\n' :: rest') :
    cut_lines (c :: rest) = ⟨[], [c]⟩ :: cut_lines rest := by
  rw [cut_lines]
  · rw [if_pos hc]
  · exact hcrlf

theorem cut_lines_char (rest : Text) (hc : is_line_boundary c = false) :
    cut_lines (c :: rest) = match cut_lines rest with
      | [] => [⟨[c], []⟩]
      | line :: lines => ⟨c :: line.text, line.ending⟩ :: lines := by
  rw [cut_lines]
  · rw [if_neg (by rw [hc]; simp)]
  · rintro rest' rfl -
    cases hc

/-- A line has no boundary inside, and is ended by one unless the text ends there. -/
structure Line.WellFormed (line : Line) : Prop where
  plain : ∀ c ∈ line.text, is_line_boundary c = false
  ended : ∀ c ∈ line.ending.head?, is_line_boundary c = true
  present : line.text = [] → line.ending ≠ []

theorem cut_lines_well_formed (text : Text) : ∀ line ∈ cut_lines text, line.WellFormed := by
  induction text using cut_lines.induct with
  | case1 => simp [cut_lines]
  | case2 rest ih =>
    rw [cut_lines_crlf]
    intro line hmem
    rcases mem_cons.mp hmem with rfl | hmem
    · exact ⟨by simp, by simp [is_line_boundary, line_boundaries], by simp⟩
    · exact ih line hmem
  | case3 c rest hcrlf hc ih =>
    rw [cut_lines_boundary hc hcrlf]
    intro line hmem
    rcases mem_cons.mp hmem with rfl | hmem
    · exact ⟨by simp, by simpa using hc, by simp⟩
    · exact ih line hmem
  | case4 c rest hcrlf hc hnone ih =>
    rw [Bool.not_eq_true] at hc
    rw [cut_lines_char rest hc, hnone]
    intro line hmem
    rw [mem_singleton.mp hmem]
    exact ⟨by simpa using hc, by simp, by simp⟩
  | case5 c rest hcrlf hc first lines hlines ih =>
    rw [Bool.not_eq_true] at hc
    rw [cut_lines_char rest hc, hlines]
    rw [hlines] at ih
    have hfirst := ih first mem_cons_self
    intro line hmem
    rcases mem_cons.mp hmem with rfl | hmem
    · exact ⟨by simpa [hc] using hfirst.plain, hfirst.ended, by simp⟩
    · exact ih line (mem_cons_of_mem _ hmem)

theorem flatten_kept (text : Text) : ((cut_lines text).map Line.kept).flatten = text := by
  induction text using cut_lines.induct with
  | case1 => rfl
  | case2 rest ih =>
    rw [cut_lines_crlf, map_cons, flatten_cons, ih]
    rfl
  | case3 c rest hcrlf hc ih =>
    rw [cut_lines_boundary hc hcrlf, map_cons, flatten_cons, ih]
    rfl
  | case4 c rest hcrlf hc hnone ih =>
    rw [Bool.not_eq_true] at hc
    rw [hnone] at ih
    rw [cut_lines_char rest hc, hnone, ← ih]
    rfl
  | case5 c rest hcrlf hc first lines hlines ih =>
    rw [Bool.not_eq_true] at hc
    rw [hlines] at ih
    rw [cut_lines_char rest hc, hlines, ← ih]
    rfl

def Complete (text : Text) : Prop := ∀ c ∈ text.getLast?, c = '\n'

theorem Complete.tail (h : Complete (c :: rest)) : Complete rest := by
  intro d hd
  apply h d
  cases rest with
  | nil => cases hd
  | cons e rest => rwa [List.getLast?_cons_cons]

theorem cut_lines_append (h : Complete text) (rest : Text) :
    cut_lines (text ++ rest) = cut_lines text ++ cut_lines rest := by
  induction text using cut_lines.induct with
  | case1 => rfl
  | case2 text ih =>
    rw [cons_append, cons_append, cut_lines_crlf, cut_lines_crlf, ih h.tail.tail]
    rfl
  | case3 c text hcrlf hc ih =>
    have hcrlf' : ∀ rest', c = '\r' → text ++ rest ≠ '\n' :: rest' := by
      rintro rest' rfl heq
      cases text with
      | nil =>
        have := h '\r' rfl
        simp at this
      | cons d text =>
        obtain ⟨rfl, -⟩ := List.cons.inj heq
        exact hcrlf text rfl rfl
    rw [cons_append, cut_lines_boundary hc hcrlf', cut_lines_boundary hc hcrlf, ih h.tail]
    rfl
  | case4 c text hcrlf hc hnone ih =>
    -- a line that nothing ends is the last of a text that is not complete
    rw [Bool.not_eq_true] at hc
    have htext : text = [] := by
      rw [← flatten_kept text, hnone]
      rfl
    rw [htext] at h
    have hlast := h c rfl
    rw [hlast] at hc
    cases hc
  | case5 c text hcrlf hc first lines hlines ih =>
    rw [Bool.not_eq_true] at hc
    rw [cons_append, cut_lines_char _ hc, cut_lines_char _ hc, ih h.tail, hlines]
    rfl

theorem cut_lines_line {text ending : Text} (hplain : ∀ c ∈ text, is_line_boundary c = false)
    (hending : ending = ['\n'] ∨ ending = ['\r', '\n']) (rest : Text) :
    cut_lines (text ++ ending ++ rest) = ⟨text, ending⟩ :: cut_lines rest := by
  induction text with
  | nil =>
    rcases hending with rfl | rfl
    · exact cut_lines_boundary rfl (by simp)
    · exact cut_lines_crlf rest
  | cons c text ih =>
    rw [cons_append, cons_append, cut_lines_char _ (hplain c mem_cons_self),
      ih fun d hd => hplain d (mem_cons_of_mem _ hd)]

/-! ## Reading off the front -/

def expect : Text → Text → Option Text
  | [], text => some text
  | c :: literal, d :: text => if c = d then expect literal text else none
  | _ :: _, [] => none

def startswith (text literal : Text) : Bool := (expect literal text).isSome

/-- The first digit of each script that has decimal digits. -/
def decimal_zeros : List Nat :=
  [0x30, 0x660, 0x6F0, 0x7C0, 0x966, 0x9E6, 0xA66, 0xAE6, 0xB66, 0xBE6, 0xC66, 0xCE6, 0xD66, 0xDE6,
   0xE50, 0xED0, 0xF20, 0x1040, 0x1090, 0x17E0, 0x1810, 0x1946, 0x19D0, 0x1A80, 0x1A90, 0x1B50,
   0x1BB0, 0x1C40, 0x1C50, 0xA620, 0xA8D0, 0xA900, 0xA9D0, 0xA9F0, 0xAA50, 0xABF0, 0xFF10, 0x104A0,
   0x10D30, 0x11066, 0x110F0, 0x11136, 0x111D0, 0x112F0, 0x11450, 0x114D0, 0x11650, 0x116C0,
   0x11730, 0x118E0, 0x11950, 0x11C50, 0x11D50, 0x11DA0, 0x11F50, 0x16A60, 0x16AC0, 0x16B50,
   0x1D7CE, 0x1D7D8, 0x1D7E2, 0x1D7EC, 0x1D7F6, 0x1E140, 0x1E2F0, 0x1E4F0, 0x1E950, 0x1FBF0]

def digit (c : Char) : Option Nat :=
  (decimal_zeros.find? fun first => first ≤ c.toNat && c.toNat < first + 10).map fun first =>
    c.toNat - first

/-- The digits at the front, read on from `value`, and what follows them. -/
def digits (value : Nat) : Text → Nat × Text
  | [] => (value, [])
  | c :: text =>
    match digit c with
    | some d => digits (10 * value + d) text
    | none => (value, c :: text)

/-- `int` of `\d+`, and what follows it. -/
def number : Text → Option (Nat × Text)
  | [] => none
  | c :: text => (digit c).map fun d => digits d text

variable {literal text ending : Text}

theorem boundary_free {text : Text} (h : (text.all fun c => !is_line_boundary c) = true) :
    ∀ c ∈ text, is_line_boundary c = false := by
  simpa using h

theorem expect_append (hliteral : ∀ c ∈ literal, is_line_boundary c = false)
    (hending : ∀ c ∈ ending.head?, is_line_boundary c = true) :
    expect literal (text ++ ending) = (expect literal text).map (· ++ ending) := by
  induction literal generalizing text with
  | nil => rfl
  | cons c literal ih =>
    have hrest := fun d hd => hliteral d (mem_cons_of_mem _ hd)
    cases text with
    | nil =>
      cases ending with
      | nil => rfl
      | cons d ending =>
        have hne : c ≠ d := by
          rintro rfl
          have hplain := hliteral c mem_cons_self
          rw [hending c rfl] at hplain
          cases hplain
        rw [nil_append, expect, if_neg hne]
        rfl
    | cons d text =>
      rw [cons_append, expect, expect]
      by_cases hcd : c = d
      · rw [if_pos hcd, if_pos hcd, ih hrest]
      · rw [if_neg hcd, if_neg hcd]
        rfl

theorem expect_concat (literal literal' text : Text) :
    expect (literal ++ literal') text = (expect literal text).bind (expect literal') := by
  induction literal generalizing text with
  | nil => rfl
  | cons c literal ih =>
    cases text with
    | nil => rfl
    | cons d text =>
      rw [cons_append, expect, expect]
      by_cases hcd : c = d
      · rw [if_pos hcd, if_pos hcd]
        exact ih text
      · rw [if_neg hcd, if_neg hcd]
        rfl

theorem startswith_append (hliteral : ∀ c ∈ literal, is_line_boundary c = false)
    (hending : ∀ c ∈ ending.head?, is_line_boundary c = true) :
    startswith (text ++ ending) literal = startswith text literal := by
  unfold startswith
  rw [expect_append hliteral hending, Option.isSome_map]

theorem digit_boundary (hc : is_line_boundary c = true) : digit c = none := by
  unfold is_line_boundary line_boundaries at hc
  simp only [contains_cons, contains_nil, Bool.or_false, Bool.or_eq_true, beq_iff_eq] at hc
  rcases hc with rfl | rfl | rfl | rfl | rfl | rfl | rfl | rfl | rfl | rfl <;> decide

theorem digits_append (hending : ∀ c ∈ ending.head?, is_line_boundary c = true) (value : Nat) :
    digits value (text ++ ending) = ((digits value text).1, (digits value text).2 ++ ending) := by
  induction text generalizing value with
  | nil =>
    cases ending with
    | nil => rfl
    | cons d ending =>
      simp only [nil_append, digits, digit_boundary (hending d rfl)]
  | cons c text ih =>
    rw [cons_append, digits, digits]
    cases digit c with
    | none => rfl
    | some d => exact ih _

theorem number_append (hending : ∀ c ∈ ending.head?, is_line_boundary c = true) :
    number (text ++ ending) = (number text).map fun read => (read.1, read.2 ++ ending) := by
  cases text with
  | nil =>
    cases ending with
    | nil => rfl
    | cons d ending =>
      simp only [nil_append, number, digit_boundary (hending d rfl), Option.map_none]
  | cons c text =>
    rw [cons_append, number, number]
    cases digit c with
    | none => rfl
    | some d => exact congrArg some (digits_append hending d)

/-! ## Decimal numbers -/

/-- `str(n)`. -/
def decimal (n : Nat) : Text := Nat.toDigits 10 n

def feed_lines : Text → List Text
  | [] => []
  | c :: rest =>
    if c = '\n' then ['\n'] :: feed_lines rest
    else
      match feed_lines rest with
      | [] => [[c]]
      | line :: lines => (c :: line) :: lines

end Lib.TextLines
