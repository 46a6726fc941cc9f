/-
The words of a command line, as `shlex.split` reads them.

`split` is the reader of POSIX words: blanks separate words, a backslash keeps the next character,
single quotes keep all, and double quotes keep all but a backslash before a quote or a backslash.
Nothing of the text but blanks, quotes and backslashes is lost (`mem_split`), and `join` writes a
text for any list of words (`split_join`).
-/
import CodingAgentLoop.Lib.Result
import CodingAgentLoop.Lib.TextLines

namespace Lib.ShellWords

open Lib.TextLines List

/-- What `split` raises a `ValueError` for. -/
inductive Unclosed where
  | closing_quotation
  | escaped_character
  deriving DecidableEq, Repr

inductive Quote where
  | single
  | double
  deriving DecidableEq, Repr

def Quote.char : Quote → Char
  | .single => '\''
  | .double => '"'

/-- Where the reader is: between two words, in a word, after a quote that is still open, or after a
backslash, with the quote to go back to. -/
inductive Mode where
  | between
  | word
  | quoted (quote : Quote)
  | escaped (back : Option Quote)
  deriving DecidableEq, Repr

def whitespace : List Char := [' ', '\t', '\r', '\n']

/-- The word that ends here: an empty one counts where something of it was quoted. -/
def finish (token : Text) (quoted : Bool) : List Text :=
  if token ≠ [] ∨ quoted then [token] else []

def unescape (back : Option Quote) (char : Char) : Text :=
  match back with
  | none => [char]
  | some quote => if char ≠ '\\' ∧ char ≠ quote.char then ['\\', char] else [char]

def Mode.back : Option Quote → Mode
  | none => .word
  | some quote => .quoted quote

def read : Mode → Text → Bool → Text → Except Unclosed (List Text)
  | .between, token, quoted, [] | .word, token, quoted, [] => .ok (finish token quoted)
  | .quoted _, _, _, [] => .error .closing_quotation
  | .escaped _, _, _, [] => .error .escaped_character
  | .between, token, quoted, char :: rest | .word, token, quoted, char :: rest =>
    if char ∈ whitespace then (finish token quoted ++ ·) <$> read .between [] false rest
    else if char = Quote.single.char then read (.quoted .single) token quoted rest
    else if char = Quote.double.char then read (.quoted .double) token quoted rest
    else if char = '\\' then read (.escaped none) token quoted rest
    else read .word (token ++ [char]) quoted rest
  | .quoted quote, token, _, char :: rest =>
    if char = quote.char then read .word token true rest
    else if char = '\\' ∧ quote = .double then read (.escaped (some quote)) token true rest
    else read (.quoted quote) (token ++ [char]) true rest
  | .escaped back, token, quoted, char :: rest =>
    read (Mode.back back) (token ++ unescape back char) quoted rest

def split (text : Text) : Except Unclosed (List Text) := read .between [] false text

/-! ## No character is lost -/

/-- The characters that `split` reads as syntax. -/
def is_special (char : Char) : Bool :=
  char ∈ whitespace ∨ char = Quote.single.char ∨ char = Quote.double.char ∨ char = '\\'

theorem ne_of_is_special {char other : Char} (h : is_special char = false)
    (hother : is_special other = true) : char ≠ other := by
  rintro rfl
  rw [h] at hother
  cases hother

variable {char : Char}

theorem mem_finish {token : Text} {quoted : Bool} :
    (∃ word ∈ finish token quoted, char ∈ word) ↔ char ∈ token := by
  unfold finish
  by_cases hsome : token ≠ [] ∨ quoted
  · rw [if_pos hsome]
    simp
  · rw [if_neg hsome]
    have hnil : token = [] := by
      by_contra hne
      exact hsome (.inl hne)
    simp [hnil]

theorem mem_unescape {char other : Char} (h : is_special char = false) (back : Option Quote) :
    char ∈ unescape back other ↔ char = other := by
  have hslash : char ≠ '\\' := ne_of_is_special h rfl
  cases back with
  | none => simp [unescape]
  | some quote =>
    unfold unescape
    dsimp only
    by_cases hkeep : other ≠ '\\' ∧ other ≠ quote.char
    · rw [if_pos hkeep]
      simp [hslash]
    · rw [if_neg hkeep]
      simp

theorem mem_read (h : is_special char = false) {text : Text} :
    ∀ {mode : Mode} {token : Text} {quoted : Bool} {words : List Text},
      read mode token quoted text = .ok words →
        ((∃ word ∈ words, char ∈ word) ↔ char ∈ token ∨ char ∈ text) := by
  induction text with
  | nil =>
    intro mode token quoted words hread
    cases mode with
    | between | word =>
      rw [read] at hread
      cases hread
      rw [mem_finish]
      simp
    | quoted | escaped =>
      rw [read] at hread
      cases hread
  | cons next rest ih =>
    -- A character that is dropped is not the one that is looked for.
    have hdrop : ∀ {mode : Mode} {token : Text} {quoted : Bool} {words : List Text},
        is_special next = true → read mode token quoted rest = .ok words →
          ((∃ word ∈ words, char ∈ word) ↔ char ∈ token ∨ char ∈ next :: rest) := by
      intro mode token quoted words hnext hread
      rw [ih hread, mem_cons]
      simp [ne_of_is_special h hnext]
    have hkeep : ∀ {mode : Mode} {token : Text} {quoted : Bool} {words : List Text},
        read mode (token ++ [next]) quoted rest = .ok words →
          ((∃ word ∈ words, char ∈ word) ↔ char ∈ token ∨ char ∈ next :: rest) := by
      intro mode token quoted words hread
      rw [ih hread, mem_append, mem_singleton, mem_cons, or_assoc]
    intro mode token quoted words hread
    cases mode with
    | between | word =>
      rw [read] at hread
      by_cases hblank : next ∈ whitespace
      · rw [if_pos hblank] at hread
        have hnext : char ≠ next := ne_of_is_special h (by simp [is_special, hblank])
        obtain ⟨later, hlater, rfl⟩ := Result.map_eq_ok.mp hread
        simp only [mem_append, or_and_right, exists_or, mem_finish, ih hlater,
          not_mem_nil, false_or, mem_cons, hnext]
      · rw [if_neg hblank] at hread
        by_cases hsingle : next = Quote.single.char
        · rw [if_pos hsingle] at hread
          exact hdrop (by simp [is_special, hsingle]) hread
        · rw [if_neg hsingle] at hread
          by_cases hdouble : next = Quote.double.char
          · rw [if_pos hdouble] at hread
            exact hdrop (by simp [is_special, hdouble]) hread
          · rw [if_neg hdouble] at hread
            by_cases hslash : next = '\\'
            · rw [if_pos hslash] at hread
              exact hdrop (by simp [is_special, hslash]) hread
            · rw [if_neg hslash] at hread
              exact hkeep hread
    | quoted quote =>
      rw [read] at hread
      by_cases hend : next = quote.char
      · rw [if_pos hend] at hread
        exact hdrop (by rw [hend]; cases quote <;> rfl) hread
      · rw [if_neg hend] at hread
        by_cases hslash : next = '\\' ∧ quote = .double
        · rw [if_pos hslash] at hread
          exact hdrop (by simp [is_special, hslash.1]) hread
        · rw [if_neg hslash] at hread
          exact hkeep hread
    | escaped back =>
      rw [read] at hread
      rw [ih hread, mem_append, mem_unescape h, mem_cons, or_assoc]

theorem mem_split (h : is_special char = false) {text : Text} {words : List Text}
    (hsplit : split text = .ok words) : (∃ word ∈ words, char ∈ word) ↔ char ∈ text := by
  rw [mem_read h hsplit]
  simp

/-! ## A text for any words -/

/-- A quote cannot stand between single quotes, so it is put between double ones. -/
def quote_char (char : Char) : Text :=
  if char = '\'' then ['\'', '"', '\'', '"', '\''] else [char]

theorem single_char : Quote.single.char = '\'' := rfl

/-- `shlex.quote(word)`, with the quotes also where they are not needed. -/
def quote (word : Text) : Text := '\'' :: (word.flatMap quote_char ++ ['\''])

def join : List Text → Text
  | [] => []
  | word :: rest => quote word ++ ' ' :: join rest

theorem read_quote_char (char : Char) (token rest : Text) :
    read (.quoted .single) token true (quote_char char ++ rest)
      = read (.quoted .single) (token ++ [char]) true rest := by
  unfold quote_char
  by_cases hquote : char = '\''
  · rw [if_pos hquote, hquote]
    simp [read, whitespace, Quote.char]
  · rw [if_neg hquote, singleton_append, read, single_char, if_neg hquote, if_neg (by simp)]

theorem read_quoted (word : Text) : ∀ (token rest : Text),
    read (.quoted .single) token true (word.flatMap quote_char ++ '\'' :: rest)
      = read .word (token ++ word) true rest := by
  induction word with
  | nil =>
    intro token rest
    rw [flatMap_nil, nil_append, read, single_char, if_pos rfl, append_nil]
  | cons char word ih =>
    intro token rest
    rw [flatMap_cons, append_assoc, read_quote_char, ih, append_assoc,
      singleton_append]

theorem read_open_quote (text : Text) (hne : text ≠ []) :
    read .between [] false ('\'' :: text) = read (.quoted .single) [] true text := by
  have hblank : '\'' ∉ whitespace := by decide
  rw [read, if_neg hblank, single_char, if_pos rfl]
  cases text with
  | nil => exact absurd rfl hne
  | cons char rest => rw [read, read]

theorem split_join (words : List Text) : split (join words) = .ok words := by
  induction words with
  | nil => rfl
  | cons word rest ih =>
    have hquoted : split (join (word :: rest)) = read .word word true (' ' :: join rest) := by
      have hquote : quote word ++ ' ' :: join rest
          = '\'' :: (word.flatMap quote_char ++ '\'' :: ' ' :: join rest) := by
        simp [quote]
      rw [split, join, hquote, read_open_quote _ (by simp), read_quoted, nil_append]
    have hblank : ' ' ∈ whitespace := by decide
    have hfinish : finish word true = [word] := if_pos (.inr rfl)
    rw [split] at ih
    rw [hquoted, read, if_pos hblank, ih, hfinish]
    rfl

end Lib.ShellWords
