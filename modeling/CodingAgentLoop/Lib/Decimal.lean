/-
Decimal texts of natural numbers.

`str(n)` is `toString n`. `isdigit` and `int_of` are `str.isdigit()` and `int(text)` on ASCII
digits. What is written reads back (`int_of_toString`), is all digits (`isdigit_toString`), and has
no leading zero (`leading_zero_toString`), which are the three things a reader checks.
-/
import Mathlib.Data.Nat.Digits.Defs

namespace Lib

def isdigit (text : String) : Bool := text.toList ≠ [] ∧ text.toList.all Char.isDigit

/-- `int(text)` of a text of digits. -/
def int_of (text : String) : Nat := Nat.ofDigitChars 10 text.toList 0

/-- `len(text) > 1 and text.startswith("0")`. -/
def leading_zero (text : String) : Bool := 1 < text.toList.length ∧ text.toList.head? = some '0'

theorem toList_toString (n : Nat) : (toString n).toList = Nat.toDigits 10 n := by
  rw [Nat.toString_eq_ofList_toDigits, String.toList_ofList]

theorem int_of_toString (n : Nat) : int_of (toString n) = n := by
  rw [int_of, toList_toString, Nat.ofDigitChars_ten_toDigits]

theorem isdigit_toString (n : Nat) : isdigit (toString n) = true := by
  simp only [isdigit, toList_toString, decide_eq_true_eq]
  refine ⟨Nat.toDigits_ne_nil, List.all_eq_true.mpr (fun c hc => ?_)⟩
  exact Nat.isDigit_of_mem_toDigits (by decide) (by decide) hc

theorem head_toDigits (n : Nat) (hn : 0 < n) : (Nat.toDigits 10 n).head? ≠ some '0' := by
  induction n using Nat.strong_induction_on with
  | _ n ih =>
    by_cases hsmall : n < 10
    · rw [Nat.toDigits_of_lt_base hsmall]
      intro hzero
      have hdigit : n.digitChar = '0' := by simpa using hzero
      have hback := Nat.ofDigitChars_ten_toDigits (n := n)
      rw [Nat.toDigits_of_lt_base hsmall, hdigit, Nat.ofDigitChars_cons] at hback
      have hzero' : n = 0 := by simpa using hback.symm
      omega
    · have hdiv : 0 < n / 10 := by omega
      rw [Nat.toDigits_of_base_le (by decide) (by omega), List.head?_append,
        List.head?_eq_some_head Nat.toDigits_ne_nil]
      have hrest := ih (n / 10) (by omega) hdiv
      rw [List.head?_eq_some_head Nat.toDigits_ne_nil] at hrest
      exact hrest

theorem leading_zero_toString (n : Nat) : leading_zero (toString n) = false := by
  rw [leading_zero, decide_eq_false_iff_not, toList_toString]
  rintro ⟨hlong, hzero⟩
  rcases Nat.eq_zero_or_pos n with rfl | hn
  · rw [Nat.toDigits_zero] at hlong
    exact absurd hlong (by decide)
  · exact head_toDigits n hn hzero

theorem toString_ne_empty (n : Nat) : toString n ≠ "" := by
  intro hempty
  have hlist := toList_toString n
  rw [hempty] at hlist
  exact Nat.toDigits_ne_nil hlist.symm

theorem toString_injective : Function.Injective (fun n : Nat => toString n) := by
  intro n m h
  rw [← int_of_toString n, ← int_of_toString m]
  exact congrArg int_of h

end Lib
