/-
JSON documents as text, and what `json.loads` makes of them.

A document is cut into tokens and the tokens are read as a value. Floats and the constants that are
not numbers of JSON are converted by functions the caller gives, as for `json.loads` itself; the
escape of half a character is read as the replacement character. What later arguments need is that
a document has no line feed inside a string, and no character outside of ASCII outside of one
(`inside_string`, `loads_cut`).
-/
import CodingAgentLoop.Lib.Json
import CodingAgentLoop.Lib.TextLines

namespace Lib.JsonText

open Lib.TextLines List

/-- `parse_float` and `parse_constant` of `json.loads`. -/
structure Numbers where
  parse_float : Text → Json
  parse_constant : Text → Json

/-! ## Tokens -/

inductive Token where
  | open_brace
  | close_brace
  | open_bracket
  | close_bracket
  | colon
  | comma
  | str (value : String)
  | atom (value : Json)

/-- A token of one character. -/
def structural (char : Char) : Option Token :=
  if char = '{' then some .open_brace
  else if char = '}' then some .close_brace
  else if char = '[' then some .open_bracket
  else if char = ']' then some .close_bracket
  else if char = ':' then some .colon
  else if char = ',' then some .comma
  else none

def is_blank (char : Char) : Bool := char = ' ' || char = '\t' || char = '\n' || char = '\r'

/-- Where the reader of tokens is: outside of a string, in a string whose code points are given,
after a backslash in it, in the four digits of an escape, or in a number or a word. -/
inductive Mode where
  | outside
  | string (content : List Nat)
  | escape (content : List Nat)
  | unicode (content : List Nat) (value missing : Nat)
  | word (text : Text)

/-- What a character outside of a string begins, and the token it is. -/
def begins (char : Char) : Option Token × Mode :=
  if is_blank char then (none, .outside)
  else if char = '"' then (none, .string [])
  else
    match structural char with
    | some token => (some token, .outside)
    | none => (none, .word [char])

def ends_word (char : Char) : Bool := is_blank char || char = '"' || (structural char).isSome

/-! ### Strings -/

def simple_escape (char : Char) : Option Nat :=
  if char = '"' ∨ char = '\\' ∨ char = '/' then some char.toNat
  else if char = 'b' then some 8
  else if char = 'f' then some 12
  else if char = 'n' then some 10
  else if char = 'r' then some 13
  else if char = 't' then some 9
  else none

def hex_digit (char : Char) : Option Nat :=
  if '0' ≤ char ∧ char ≤ '9' then some (char.toNat - 48)
  else if 'a' ≤ char ∧ char ≤ 'f' then some (char.toNat - 87)
  else if 'A' ≤ char ∧ char ≤ 'F' then some (char.toNat - 55)
  else none

/-- The characters of the code points, where two halves of a pair are one character. -/
def characters : List Nat → Text
  | high :: low :: rest =>
    if 0xD800 ≤ high ∧ high < 0xDC00 ∧ 0xDC00 ≤ low ∧ low < 0xE000 then
      Char.ofNat (0x10000 + (high - 0xD800) * 0x400 + (low - 0xDC00)) :: characters rest
    else if 0xD800 ≤ high ∧ high < 0xE000 then '\uFFFD' :: characters (low :: rest)
    else Char.ofNat high :: characters (low :: rest)
  | [code] => [if 0xD800 ≤ code ∧ code < 0xE000 then '\uFFFD' else Char.ofNat code]
  | [] => []

/-! ### Numbers and words -/

def is_digits (text : Text) : Bool := text ≠ [] && text.all Char.isDigit

def is_natural (text : Text) : Bool := is_digits text && (text.head? ≠ some '0' || text.length = 1)

def unsigned : Text → Text
  | '+' :: rest | '-' :: rest => rest
  | power => power

def is_power : Text → Bool
  | [] => true
  | 'e' :: rest | 'E' :: rest => is_digits (unsigned rest)
  | _ => false

def is_fraction : Text → Bool
  | '.' :: rest => is_digits (rest.takeWhile Char.isDigit) && is_power (rest.dropWhile Char.isDigit)
  | rest => is_power rest

def is_float (text : Text) : Bool :=
  is_natural (text.takeWhile Char.isDigit) && is_fraction (text.dropWhile Char.isDigit)

def digits_value (text : Text) : Nat :=
  text.foldl (fun value char => value * 10 + (char.toNat - 48)) 0

def read_word (numbers : Numbers) (text : Text) : Option Json :=
  if text = "null".toList then some .null
  else if text = "true".toList then some (.bool true)
  else if text = "false".toList then some (.bool false)
  else if text = "NaN".toList ∨ text = "Infinity".toList ∨ text = "-Infinity".toList then
    some (numbers.parse_constant text)
  else
    match text with
    | '-' :: rest =>
      if is_natural rest then some (.int (-(digits_value rest : Int)))
      else if is_float rest then some (numbers.parse_float text)
      else none
    | _ =>
      if is_natural text then some (.int (digits_value text))
      else if is_float text then some (numbers.parse_float text)
      else none

/-! ### The reader of tokens -/

section

variable (numbers : Numbers)

def then_word (text : Text) (tokens : Option (List Token)) : Option (List Token) := do
  let value ← read_word numbers text
  let later ← tokens
  return .atom value :: later

def lex : Mode → Text → Option (List Token)
  | .outside, [] => some []
  | .word text, [] => then_word numbers text (some [])
  | .string _, [] | .escape _, [] | .unicode _ _ _, [] => none
  | .outside, char :: rest => (lex (begins char).2 rest).map ((begins char).1.toList ++ ·)
  | .word text, char :: rest =>
    if ends_word char then
      then_word numbers text ((lex (begins char).2 rest).map ((begins char).1.toList ++ ·))
    else lex (.word (text ++ [char])) rest
  | .string content, char :: rest =>
    if char = '"' then
      (lex .outside rest).map (Token.str (String.ofList (characters content)) :: ·)
    else if char = '\\' then lex (.escape content) rest
    else if char.toNat < 0x20 then none
    else lex (.string (content ++ [char.toNat])) rest
  | .escape content, char :: rest =>
    if char = 'u' then lex (.unicode content 0 4) rest
    else
      match simple_escape char with
      | none => none
      | some code => lex (.string (content ++ [code])) rest
  | .unicode content value missing, char :: rest =>
    match hex_digit char with
    | none => none
    | some digit =>
      if missing ≤ 1 then lex (.string (content ++ [value * 16 + digit])) rest
      else lex (.unicode content (value * 16 + digit) (missing - 1)) rest

end

/-! ## Values -/

mutual

def parse_value : Nat → List Token → Option (Json × List Token)
  | 0, _ => none
  | _ + 1, [] => none
  | _ + 1, .str value :: rest => some (.str value, rest)
  | _ + 1, .atom value :: rest => some (value, rest)
  | _ + 1, .open_bracket :: .close_bracket :: rest => some (.arr [], rest)
  | fuel + 1, .open_bracket :: rest => parse_items fuel [] rest
  | _ + 1, .open_brace :: .close_brace :: rest => some (.obj [], rest)
  | fuel + 1, .open_brace :: rest => parse_members fuel [] rest
  | _ + 1, _ :: _ => none

def parse_items : Nat → List Json → List Token → Option (Json × List Token)
  | 0, _, _ => none
  | fuel + 1, items, tokens =>
    match parse_value fuel tokens with
    | some (value, .comma :: rest) => parse_items fuel (items ++ [value]) rest
    | some (value, .close_bracket :: rest) => some (.arr (items ++ [value]), rest)
    | _ => none

def parse_members : Nat → JsonObject → List Token → Option (Json × List Token)
  | 0, _, _ => none
  | fuel + 1, members, .str key :: .colon :: tokens =>
    match parse_value fuel tokens with
    | some (value, .comma :: rest) => parse_members fuel (JsonObject.set members key value) rest
    | some (value, .close_brace :: rest) =>
      some (.obj (JsonObject.set members key value), rest)
    | _ => none
  | _ + 1, _, _ => none

end

/-- `json.loads(text)`, where `none` is a `JSONDecodeError`. -/
def loads (numbers : Numbers) (text : Text) : Option Json :=
  match lex numbers .outside text with
  | none => none
  | some tokens =>
    match parse_value (2 * tokens.length) tokens with
    | some (value, []) => some value
    | _ => none

/-! ## Characters outside of strings -/

def Ascii (char : Char) : Prop := char.toNat < 0x80

instance (char : Char) : Decidable (Ascii char) :=
  inferInstanceAs (Decidable (char.toNat < 0x80))

variable {char : Char}

theorem ascii_of_isDigit (h : char.isDigit = true) : Ascii char := by
  simp only [Char.isDigit, Bool.and_eq_true, decide_eq_true_eq] at h
  have hnine : '9'.val.toNat = 57 := rfl
  have hle : char.val.toNat ≤ '9'.val.toNat := UInt32.le_iff_toNat_le.mp h.2
  unfold Ascii Char.toNat
  omega

variable {text : Text}

theorem ascii_of_is_digits (h : is_digits text = true) : ∀ char ∈ text, Ascii char := by
  rw [is_digits, Bool.and_eq_true] at h
  exact fun char hchar => ascii_of_isDigit (all_eq_true.mp h.2 char hchar)

theorem ascii_of_is_natural (h : is_natural text = true) :
    ∀ char ∈ text, Ascii char := by
  rw [is_natural, Bool.and_eq_true] at h
  exact ascii_of_is_digits h.1

theorem ascii_of_unsigned (h : ∀ char ∈ unsigned text, Ascii char) :
    ∀ char ∈ text, Ascii char := by
  unfold unsigned at h
  split at h
  · rename_i rest
    exact forall_mem_cons.mpr ⟨by decide, h⟩
  · rename_i rest
    exact forall_mem_cons.mpr ⟨by decide, h⟩
  · exact h

theorem ascii_of_is_power (h : is_power text = true) :
    ∀ char ∈ text, Ascii char := by
  unfold is_power at h
  split at h
  · exact forall_mem_nil _
  · exact forall_mem_cons.mpr ⟨by decide, ascii_of_unsigned (ascii_of_is_digits h)⟩
  · exact forall_mem_cons.mpr ⟨by decide, ascii_of_unsigned (ascii_of_is_digits h)⟩
  · cases h

theorem ascii_of_is_fraction (h : is_fraction text = true) :
    ∀ char ∈ text, Ascii char := by
  unfold is_fraction at h
  split at h
  · rename_i rest
    rw [Bool.and_eq_true] at h
    refine forall_mem_cons.mpr ⟨by decide, fun char hchar => ?_⟩
    rw [← takeWhile_append_dropWhile (p := Char.isDigit) (l := rest)] at hchar
    rcases mem_append.mp hchar with hdigits | hpower
    · exact ascii_of_is_digits h.1 char hdigits
    · exact ascii_of_is_power h.2 char hpower
  · exact ascii_of_is_power h

theorem ascii_of_is_float (h : is_float text = true) :
    ∀ char ∈ text, Ascii char := by
  rw [is_float, Bool.and_eq_true] at h
  intro char hchar
  rw [← takeWhile_append_dropWhile (p := Char.isDigit) (l := text)] at hchar
  rcases mem_append.mp hchar with hwhole | hrest
  · exact ascii_of_is_natural h.1 char hwhole
  · exact ascii_of_is_fraction h.2 char hrest

theorem ascii_of_read_number {digits : Text} {whole float value : Json}
    (h : (if is_natural digits then some whole
      else if is_float digits then some float else none) = some value) :
    ∀ char ∈ digits, Ascii char := by
  by_cases hnatural : is_natural digits = true
  · exact ascii_of_is_natural hnatural
  · by_cases hfloat : is_float digits = true
    · exact ascii_of_is_float hfloat
    · rw [if_neg hnatural, if_neg hfloat] at h
      cases h

variable {numbers : Numbers}

theorem ascii_of_read_word {value : Json} (h : read_word numbers text = some value) :
    ∀ char ∈ text, Ascii char := by
  unfold read_word at h
  split at h
  · rename_i hword
    rw [hword]
    exact forall_mem_of_all (by decide)
  · split at h
    · rename_i hword
      rw [hword]
      exact forall_mem_of_all (by decide)
    · split at h
      · rename_i hword
        rw [hword]
        exact forall_mem_of_all (by decide)
      · split at h
        · rename_i hword
          rcases hword with hword | hword | hword
          · rw [hword]
            exact forall_mem_of_all (by decide)
          · rw [hword]
            exact forall_mem_of_all (by decide)
          · rw [hword]
            exact forall_mem_of_all (by decide)
        · split at h
          · exact forall_mem_cons.mpr ⟨by decide, ascii_of_read_number h⟩
          · exact ascii_of_read_number h

theorem then_word_eq_some {later : Option (List Token)} {tokens : List Token}
    (h : then_word numbers text later = some tokens) :
    (∀ char ∈ text, Ascii char) ∧ later ≠ none := by
  unfold then_word at h
  obtain ⟨value, hvalue, hrest⟩ := Option.bind_eq_some_iff.mp h
  obtain ⟨others, hothers, -⟩ := Option.bind_eq_some_iff.mp hrest
  exact ⟨ascii_of_read_word hvalue, by rw [hothers]; exact Option.some_ne_none _⟩

theorem then_word_none (numbers : Numbers) (text : Text) : then_word numbers text none = none := by
  unfold then_word
  cases read_word numbers text <;> rfl

theorem ascii_of_lex_word {rest : Text} : ∀ {text : Text},
    lex numbers (.word text) rest ≠ none → ∀ char ∈ text, Ascii char := by
  induction rest with
  | nil =>
    intro text h
    rw [lex] at h
    obtain ⟨tokens, htokens⟩ := Option.ne_none_iff_exists'.mp h
    exact (then_word_eq_some htokens).1
  | cons char rest ih =>
    intro text h
    rw [lex] at h
    by_cases hends : ends_word char = true
    · rw [if_pos hends] at h
      obtain ⟨tokens, htokens⟩ := Option.ne_none_iff_exists'.mp h
      exact (then_word_eq_some htokens).1
    · rw [if_neg hends] at h
      exact fun other hother => ih h other (mem_append_left _ hother)

/-! ## A document that is cut -/

theorem ne_of_not_ascii {char other : Char} (h : ¬ Ascii char) (hother : Ascii other) :
    char ≠ other := by
  rintro rfl
  exact h hother

theorem simple_escape_of_not_ascii (h : ¬ Ascii char) : simple_escape char = none := by
  have hne : ∀ other : Char, Ascii other → char ≠ other := fun _ => ne_of_not_ascii h
  simp [simple_escape, hne '"' (by decide), hne '\\' (by decide), hne '/' (by decide),
    hne 'b' (by decide), hne 'f' (by decide), hne 'n' (by decide), hne 'r' (by decide),
    hne 't' (by decide)]

theorem hex_digit_of_not_ascii (h : ¬ Ascii char) : hex_digit char = none := by
  have hbound : ∀ other : Char, Ascii other → ¬ char ≤ other := by
    intro other hother hle
    have hval : char.val.toNat ≤ other.val.toNat := UInt32.le_iff_toNat_le.mp hle
    exact h (Nat.lt_of_le_of_lt hval hother)
  simp [hex_digit, hbound '9' (by decide), hbound 'f' (by decide), hbound 'F' (by decide)]

theorem begins_of_not_ascii (h : ¬ Ascii char) :
    begins char = (none, .word [char]) ∧ ends_word char = false := by
  have hne : ∀ other : Char, Ascii other → char ≠ other := fun _ => ne_of_not_ascii h
  have hblank : is_blank char = false := by
    simp [is_blank, hne ' ' (by decide), hne '\t' (by decide), hne '\n' (by decide),
      hne '\r' (by decide)]
  have hstructural : structural char = none := by
    simp [structural, hne '{' (by decide), hne '}' (by decide), hne '[' (by decide),
      hne ']' (by decide), hne ':' (by decide), hne ',' (by decide)]
  have hquote := hne '"' (by decide)
  constructor
  · rw [begins, hblank, if_neg Bool.false_ne_true, if_neg hquote, hstructural]
  · rw [ends_word, hblank, hstructural]
    simp [hquote]

/-- Where a document that has such a character is cut before it, there is no document: the cut is
inside of a string, and a string does not end there, nor go on with a line feed. -/
theorem lex_cut (hchar : ¬ Ascii char) {post rest : Text}
    (hrest : ∀ next ∈ rest.head?, next = '\n') {before : Text} : ∀ {mode : Mode},
    lex numbers mode (before ++ char :: post) ≠ none → lex numbers mode (before ++ rest) = none := by
  obtain ⟨hbegins, hends⟩ := begins_of_not_ascii hchar
  induction before with
  | nil =>
    intro mode h
    rw [nil_append] at h ⊢
    cases mode with
    | outside =>
      rw [lex, hbegins] at h
      have hword : lex numbers (.word [char]) post ≠ none := by
        intro hnone
        rw [hnone] at h
        exact h rfl
      exact absurd (ascii_of_lex_word hword char (mem_singleton_self _)) hchar
    | word text =>
      rw [lex, hends, if_neg Bool.false_ne_true] at h
      exact absurd (ascii_of_lex_word h char (mem_append_right _
        (mem_singleton_self _))) hchar
    | string content =>
      cases rest with
      | nil => rfl
      | cons next rest =>
        rw [hrest next rfl, lex, if_neg (by decide), if_neg (by decide), if_pos (by decide)]
    | escape content =>
      rw [lex, if_neg (ne_of_not_ascii hchar (by decide)),
        simple_escape_of_not_ascii hchar] at h
      exact absurd rfl h
    | unicode content value missing =>
      rw [lex, hex_digit_of_not_ascii hchar] at h
      exact absurd rfl h
  | cons next before ih =>
    intro mode h
    rw [cons_append] at h ⊢
    cases mode with
    | outside =>
      rw [lex] at h ⊢
      rw [ih (fun hnone => h (by rw [hnone]; rfl))]
      rfl
    | word text =>
      rw [lex] at h ⊢
      by_cases hnext : ends_word next = true
      · rw [if_pos hnext] at h ⊢
        rw [ih (fun hnone => h (by rw [hnone]; exact then_word_none numbers text))]
        exact then_word_none numbers text
      · rw [if_neg hnext] at h ⊢
        exact ih h
    | string content =>
      rw [lex] at h ⊢
      by_cases hquote : next = '"'
      · rw [if_pos hquote] at h ⊢
        rw [ih (fun hnone => h (by rw [hnone]; rfl))]
        rfl
      · rw [if_neg hquote] at h ⊢
        by_cases hslash : next = '\\'
        · rw [if_pos hslash] at h ⊢
          exact ih h
        · rw [if_neg hslash] at h ⊢
          by_cases hcontrol : next.toNat < 0x20
          · rw [if_pos hcontrol]
          · rw [if_neg hcontrol] at h ⊢
            exact ih h
    | escape content =>
      rw [lex] at h ⊢
      by_cases hunicode : next = 'u'
      · rw [if_pos hunicode] at h ⊢
        exact ih h
      · rw [if_neg hunicode] at h ⊢
        cases hsimple : simple_escape next with
        | none => rfl
        | some code =>
          rw [hsimple] at h
          exact ih h
    | unicode content value missing =>
      rw [lex] at h ⊢
      cases hhex : hex_digit next with
      | none => rfl
      | some digit =>
        rw [hhex] at h
        dsimp only at h ⊢
        by_cases hlast : missing ≤ 1
        · rw [if_pos hlast] at h ⊢
          exact ih h
        · rw [if_neg hlast] at h ⊢
          exact ih h

theorem lex_of_loads (h : loads numbers text ≠ none) :
    lex numbers .outside text ≠ none := by
  intro hnone
  rw [loads, hnone] at h
  exact h rfl

/-- **A document that is cut before a character outside of ASCII is none**, nor is one with a line
feed there. -/
theorem loads_cut (hchar : ¬ Ascii char) {before post rest : Text}
    (h : loads numbers (before ++ char :: post) ≠ none) (hrest : ∀ next ∈ rest.head?, next = '\n') :
    loads numbers (before ++ rest) = none := by
  rw [loads, lex_cut hchar hrest (lex_of_loads h)]

end Lib.JsonText
