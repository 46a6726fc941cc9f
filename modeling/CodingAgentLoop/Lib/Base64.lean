/-
Bytes as text.

Three bytes are four digits of six bits each; one or two bytes at the end are padded. What
is decoded is what was encoded (`decode_encode`), and a text is four characters for every
three bytes begun (`length_encode`). A decoder does not look at the bits padding leaves over.
-/

namespace Lib.Base64

open List

def alphabet : List Char :=
  "ABCDEFGHIJKLMNOPQRSTUVWXYZabcdefghijklmnopqrstuvwxyz0123456789+/".toList

def digit (value : Nat) : Char := alphabet.getD value '='

def value (digit : Char) : Option Nat := alphabet.idxOf? digit

/-! ## Encoding -/

def quantum (a b c : Nat) : List Char :=
  [digit (a / 4), digit (a % 4 * 16 + b / 16), digit (b % 16 * 4 + c / 64), digit (c % 64)]

def encode : List UInt8 → List Char
  | [] => []
  | [a] => (quantum a.toNat 0 0).take 2 ++ ['=', '=']
  | [a, b] => (quantum a.toNat b.toNat 0).take 3 ++ ['=']
  | a :: b :: c :: rest => quantum a.toNat b.toNat c.toNat ++ encode rest

/-! ## Decoding -/

def first_byte (v w : Nat) : UInt8 := UInt8.ofNat (v * 4 + w / 16)

def second_byte (w x : Nat) : UInt8 := UInt8.ofNat (w % 16 * 16 + x / 4)

def third_byte (x y : Nat) : UInt8 := UInt8.ofNat (x % 4 * 64 + y)

def decode_padded (p q r : Char) : Option (List UInt8) := do
  let v ← value p
  let w ← value q
  if r = '=' then return [first_byte v w]
  else do
    let x ← value r
    return [first_byte v w, second_byte w x]

def decode : List Char → Option (List UInt8)
  | [] => some []
  | p :: q :: r :: s :: rest =>
    if rest = [] ∧ s = '=' then decode_padded p q r
    else do
      let v ← value p
      let w ← value q
      let x ← value r
      let y ← value s
      let bytes ← decode rest
      return first_byte v w :: second_byte w x :: third_byte x y :: bytes
  | _ => none

/-! ## The two agree -/

theorem value_digit : ∀ n < 64, value (digit n) = some n := by decide +kernel

theorem digit_ne_pad : ∀ n < 64, digit n ≠ '=' := by decide +kernel

theorem first_byte_eq (a : UInt8) (n : Nat) (h : n < 16) :
    first_byte (a.toNat / 4) (a.toNat % 4 * 16 + n) = a := by
  have hlt := a.toNat_lt
  have hvalue : a.toNat / 4 * 4 + (a.toNat % 4 * 16 + n) / 16 = a.toNat := by omega
  unfold first_byte
  rw [hvalue, UInt8.ofNat_toNat]

theorem second_byte_eq (b : UInt8) (m n : Nat) (h : n < 4) :
    second_byte (m * 16 + b.toNat / 16) (b.toNat % 16 * 4 + n) = b := by
  have hlt := b.toNat_lt
  have hvalue : (m * 16 + b.toNat / 16) % 16 * 16 + (b.toNat % 16 * 4 + n) / 4 = b.toNat := by
    omega
  unfold second_byte
  rw [hvalue, UInt8.ofNat_toNat]

theorem third_byte_eq (c : UInt8) (m : Nat) :
    third_byte (m * 4 + c.toNat / 64) (c.toNat % 64) = c := by
  have hlt := c.toNat_lt
  have hvalue : (m * 4 + c.toNat / 64) % 4 * 64 + c.toNat % 64 = c.toNat := by omega
  unfold third_byte
  rw [hvalue, UInt8.ofNat_toNat]

/-- **What was encoded is decoded.** -/
theorem decode_encode (bytes : List UInt8) : decode (encode bytes) = some bytes := by
  fun_induction encode bytes with
  | case1 => rfl
  | case2 a =>
    have hlt := a.toNat_lt
    have hfirst := value_digit (a.toNat / 4) (by omega)
    have hsecond := value_digit (a.toNat % 4 * 16 + 0 / 16) (by omega)
    have hbyte := first_byte_eq a (0 / 16) (by decide)
    simp only [quantum, List.take, cons_append, nil_append, decode, decode_padded,
      and_self, if_true, hfirst, hsecond, Option.bind_eq_bind, Option.bind_some, hbyte]
    rfl
  | case3 a b =>
    have hlt := a.toNat_lt
    have hlt' := b.toNat_lt
    have hfirst := value_digit (a.toNat / 4) (by omega)
    have hsecond := value_digit (a.toNat % 4 * 16 + b.toNat / 16) (by omega)
    have hthird := value_digit (b.toNat % 16 * 4 + 0 / 64) (by omega)
    have hpad := digit_ne_pad (b.toNat % 16 * 4 + 0 / 64) (by omega)
    have hbyte := first_byte_eq a (b.toNat / 16) (by omega)
    have hbyte' := second_byte_eq b (a.toNat % 4) (0 / 64) (by decide)
    simp only [quantum, List.take, cons_append, nil_append, decode, decode_padded,
      and_self, if_true, if_neg hpad, hfirst, hsecond, hthird, Option.bind_eq_bind,
      Option.bind_some, hbyte, hbyte']
    rfl
  | case4 a b c rest ih =>
    have hlt := a.toNat_lt
    have hlt' := b.toNat_lt
    have hlt'' := c.toNat_lt
    have hfirst := value_digit (a.toNat / 4) (by omega)
    have hsecond := value_digit (a.toNat % 4 * 16 + b.toNat / 16) (by omega)
    have hthird := value_digit (b.toNat % 16 * 4 + c.toNat / 64) (by omega)
    have hfourth := value_digit (c.toNat % 64) (by omega)
    have hpad : ¬ (encode rest = [] ∧ digit (c.toNat % 64) = '=') :=
      fun h => digit_ne_pad (c.toNat % 64) (by omega) h.2
    have hbyte := first_byte_eq a (b.toNat / 16) (by omega)
    have hbyte' := second_byte_eq b (a.toNat % 4) (c.toNat / 64) (by omega)
    have hbyte'' := third_byte_eq c (b.toNat % 16)
    simp only [quantum, cons_append, nil_append, decode, if_neg hpad, hfirst, hsecond,
      hthird, hfourth, ih, Option.bind_eq_bind, Option.bind_some, hbyte, hbyte', hbyte'']
    rfl

/-- **Four characters for every three bytes begun.** -/
theorem length_encode (bytes : List UInt8) :
    (encode bytes).length = 4 * ((bytes.length + 2) / 3) := by
  fun_induction encode bytes with
  | case1 => rfl
  | case2 a => simp [quantum]
  | case3 a b => simp [quantum]
  | case4 a b c rest ih =>
    rw [length_append, ih]
    simp only [quantum, length_cons, length_nil]
    omega

end Lib.Base64
