/-
Decoding UTF-8 byte by byte.

The decoder is the one of the Encoding Standard: what it has read of a character is its state, so a
text may be cut anywhere between two bytes. `feed_encode` says that the bytes of a text are decoded
to the text, and `TextDecoder.decode` drops a byte order mark at the very beginning.
-/

namespace Lib.Utf8Decoder

open List

/-- What has been read of a character: its code point so far, how many bytes are missing, and
between which bounds the next one has to be. -/
structure State where
  code_point : Nat
  missing : Nat
  lower : Nat
  upper : Nat
  deriving DecidableEq, Repr

def initial : State := ⟨0, 0, 0x80, 0xBF⟩

def replacement : Char := '\uFFFD'

def first_byte (byte : Nat) : List Char × State :=
  if byte ≤ 0x7F then ([Char.ofNat byte], initial)
  else if 0xC2 ≤ byte ∧ byte ≤ 0xDF then ([], ⟨byte % 0x20, 1, 0x80, 0xBF⟩)
  else if 0xE0 ≤ byte ∧ byte ≤ 0xEF then
    ([], ⟨byte % 0x10, 2, if byte = 0xE0 then 0xA0 else 0x80, if byte = 0xED then 0x9F else 0xBF⟩)
  else if 0xF0 ≤ byte ∧ byte ≤ 0xF4 then
    ([], ⟨byte % 0x08, 3, if byte = 0xF0 then 0x90 else 0x80, if byte = 0xF4 then 0x8F else 0xBF⟩)
  else ([replacement], initial)

/-- A byte after a state: one that does not belong to the character begins a new one. -/
def step (state : State) (byte : Nat) : List Char × State :=
  if state.missing = 0 then first_byte byte
  else if byte < state.lower ∨ state.upper < byte then
    (replacement :: (first_byte byte).1, (first_byte byte).2)
  else if state.missing = 1 then
    ([Char.ofNat (state.code_point * 0x40 + byte % 0x40)], initial)
  else ([], ⟨state.code_point * 0x40 + byte % 0x40, state.missing - 1, 0x80, 0xBF⟩)

/-- The characters that bytes after a state complete, and the state after them. -/
def feed (state : State) : List UInt8 → List Char × State
  | [] => ([], state)
  | byte :: rest =>
    let read := step state byte.toNat
    let later := feed read.2 rest
    (read.1 ++ later.1, later.2)

theorem feed_append (bytes rest : List UInt8) : ∀ state : State,
    feed state (bytes ++ rest)
      = ((feed state bytes).1 ++ (feed (feed state bytes).2 rest).1,
        (feed (feed state bytes).2 rest).2) := by
  induction bytes with
  | nil => intro state; rfl
  | cons byte bytes ih =>
    intro state
    simp only [cons_append, feed, ih, append_assoc]

/-! ## The bytes of a text -/

def encode (text : List Char) : List UInt8 := text.flatMap String.utf8EncodeChar

theorem toNat_ofNat {byte : Nat} (h : byte < 256) : (UInt8.ofNat byte).toNat = byte := by
  rw [UInt8.toNat_ofNat']
  exact Nat.mod_eq_of_lt h

theorem feed_cons {state : State} {byte : Nat} (h : byte < 256) (rest : List UInt8) :
    feed state (UInt8.ofNat byte :: rest)
      = ((step state byte).1 ++ (feed (step state byte).2 rest).1,
        (feed (step state byte).2 rest).2) := by
  rw [feed, toNat_ofNat h]

theorem step_initial (byte : Nat) : step initial byte = first_byte byte := if_pos rfl

theorem step_last {code_point lower upper byte : Nat} (hlower : lower ≤ byte)
    (hupper : byte ≤ upper) :
    step ⟨code_point, 1, lower, upper⟩ byte
      = ([Char.ofNat (code_point * 0x40 + byte % 0x40)], initial) := by
  unfold step
  dsimp only
  rw [if_neg (by omega), if_neg (by omega), if_pos rfl]

theorem step_more {code_point missing lower upper byte : Nat} (hlower : lower ≤ byte)
    (hupper : byte ≤ upper) :
    step ⟨code_point, missing + 2, lower, upper⟩ byte
      = ([], ⟨code_point * 0x40 + byte % 0x40, missing + 1, 0x80, 0xBF⟩) := by
  unfold step
  dsimp only
  rw [if_neg (by omega), if_neg (by omega), if_neg (by omega)]
  rfl

theorem feed_char (char : Char) :
    feed initial (String.utf8EncodeChar char) = ([char], initial) := by
  have hvalid : char.toNat < 0xD800 ∨ 0xDFFF < char.toNat ∧ char.toNat < 0x110000 := char.valid
  have hchar : ∀ value, value = char.toNat → Char.ofNat value = char := by
    rintro value rfl
    exact Char.ofNat_toNat char
  have hval : char.val.toNat = char.toNat := rfl
  unfold String.utf8EncodeChar
  dsimp only
  rw [hval]
  generalize char.toNat = value at hvalid hchar
  by_cases hone : value ≤ 0x7F
  · rw [if_pos hone, feed_cons (by omega), step_initial, first_byte, if_pos hone, hchar value rfl]
    rfl
  · rw [if_neg hone]
    by_cases htwo : value ≤ 0x7FF
    · have hlead : first_byte (value / 64 % 0x20 + 0xC0)
          = ([], ⟨(value / 64 % 0x20 + 0xC0) % 0x20, 1, 0x80, 0xBF⟩) := by
        rw [first_byte, if_neg (by omega), if_pos (by omega)]
      rw [if_pos htwo, feed_cons (by omega), step_initial, hlead, feed_cons (by omega),
        step_last (by omega) (by omega), hchar _ (by omega)]
      rfl
    · rw [if_neg htwo]
      by_cases hthree : value ≤ 0xFFFF
      · -- The bounds of the second byte keep out what two bytes can say, and the surrogates.
        have hlead : first_byte (value / 4096 % 0x10 + 0xE0)
            = ([], ⟨(value / 4096 % 0x10 + 0xE0) % 0x10, 0 + 2,
              if value / 4096 % 0x10 + 0xE0 = 0xE0 then 0xA0 else 0x80,
              if value / 4096 % 0x10 + 0xE0 = 0xED then 0x9F else 0xBF⟩) := by
          rw [first_byte, if_neg (by omega), if_neg (by omega), if_pos (by omega)]
        rw [if_pos hthree, feed_cons (by omega), step_initial, hlead, feed_cons (by omega),
          step_more (by split <;> omega) (by split <;> omega), feed_cons (by omega),
          step_last (by omega) (by omega), hchar _ (by omega)]
        rfl
      · have hlead : first_byte (value / 262144 % 0x08 + 0xF0)
            = ([], ⟨(value / 262144 % 0x08 + 0xF0) % 0x08, 1 + 2,
              if value / 262144 % 0x08 + 0xF0 = 0xF0 then 0x90 else 0x80,
              if value / 262144 % 0x08 + 0xF0 = 0xF4 then 0x8F else 0xBF⟩) := by
          rw [first_byte, if_neg (by omega), if_neg (by omega), if_neg (by omega),
            if_pos (by omega)]
        rw [if_neg hthree, feed_cons (by omega), step_initial, hlead, feed_cons (by omega),
          step_more (by split <;> omega) (by split <;> omega), feed_cons (by omega),
          step_more (by omega) (by omega), feed_cons (by omega),
          step_last (by omega) (by omega), hchar _ (by omega)]
        rfl

/-- **The bytes of a text are decoded to the text.** -/
theorem feed_encode (text : List Char) : feed initial (encode text) = (text, initial) := by
  induction text with
  | nil => rfl
  | cons char rest ih =>
    rw [encode, flatMap_cons, feed_append, feed_char]
    rw [encode] at ih
    rw [ih]
    rfl

/-! ## A text in pieces -/

/-- `new TextDecoder()`. -/
structure TextDecoder where
  state : State := initial
  bom_seen : Bool := false
  deriving DecidableEq, Repr

def byte_order_mark : Char := '\uFEFF'

def TextDecoder.decode (decoder : TextDecoder) (chunk : List UInt8) : List Char × TextDecoder :=
  let read := feed decoder.state chunk
  match decoder.bom_seen, read.1 with
  | true, text => (text, ⟨read.2, true⟩)
  | false, [] => ([], ⟨read.2, false⟩)
  | false, char :: rest =>
    (if char = byte_order_mark then rest else char :: rest, ⟨read.2, true⟩)

def TextDecoder.decode_all (decoder : TextDecoder) : List (List UInt8) → List Char
  | [] => []
  | chunk :: rest => (decoder.decode chunk).1 ++ (decoder.decode chunk).2.decode_all rest

theorem decode_all_seen (chunks : List (List UInt8)) : ∀ state : State,
    TextDecoder.decode_all ⟨state, true⟩ chunks = (feed state chunks.flatten).1 := by
  induction chunks with
  | nil => intro state; rfl
  | cons chunk rest ih =>
    intro state
    have hdecode : TextDecoder.decode ⟨state, true⟩ chunk
        = ((feed state chunk).1, ⟨(feed state chunk).2, true⟩) := rfl
    rw [TextDecoder.decode_all, hdecode, flatten_cons, feed_append, ih]

theorem decode_all_unseen (chunks : List (List UInt8)) : ∀ state : State,
    (feed state chunks.flatten).1.head? ≠ some byte_order_mark →
      TextDecoder.decode_all ⟨state, false⟩ chunks = (feed state chunks.flatten).1 := by
  induction chunks with
  | nil => intro state _; rfl
  | cons chunk rest ih =>
    intro state hmark
    rw [flatten_cons, feed_append] at hmark ⊢
    dsimp only at hmark ⊢
    rw [TextDecoder.decode_all]
    cases hread : (feed state chunk).1 with
    | nil =>
      have hdecode : TextDecoder.decode ⟨state, false⟩ chunk
          = ([], ⟨(feed state chunk).2, false⟩) := by
        unfold TextDecoder.decode
        dsimp only
        rw [hread]
      rw [hread, nil_append] at hmark
      rw [hdecode, nil_append, nil_append]
      exact ih _ hmark
    | cons char text =>
      have hne : char ≠ byte_order_mark := by
        rintro rfl
        rw [hread] at hmark
        exact hmark rfl
      have hdecode : TextDecoder.decode ⟨state, false⟩ chunk
          = (char :: text, ⟨(feed state chunk).2, true⟩) := by
        unfold TextDecoder.decode
        dsimp only
        rw [hread]
        dsimp only
        rw [if_neg hne]
      rw [hdecode, decode_all_seen]

/-- **However the bytes of a text are cut, its pieces are decoded to it.** -/
theorem decode_all_encode {text : List Char} {chunks : List (List UInt8)}
    (h : chunks.flatten = encode text) (hmark : text.head? ≠ some byte_order_mark) :
    TextDecoder.decode_all {} chunks = text := by
  have hfeed : (feed initial chunks.flatten).1 = text := by rw [h, feed_encode]
  have hall := decode_all_unseen chunks initial (by rw [hfeed]; exact hmark)
  rw [hfeed] at hall
  exact hall

end Lib.Utf8Decoder
