/-
A producer that is started over when it fails.

Every attempt delivers items and then ends or fails, and what it has delivered is not taken back.
The delivery of a whole run is therefore the deliveries of all its attempts in a row
(`retried_endsAt`), and it is that of the last one exactly when the others delivered nothing
(`received_eq_iff`).
-/

namespace Lib.Retry

open List

/-- One attempt: what it delivers, and the failure it breaks off with. -/
structure Attempt (ε φ : Type) where
  items : List ε
  failure : Option φ := none

/-- What the consumer of a whole run sees: the items, how many attempts were made, and what is
raised at the end. -/
structure Delivery (ε φ : Type) where
  received : List ε
  made : Nat
  raised : Option φ := none

section

variable {ε φ : Type} (again : φ → Bool) (attempts : Nat → Attempt ε φ)

/-- Attempt `attempt` as the last one. -/
def last_attempt (attempt : Nat) : Delivery ε φ :=
  { received := (attempts attempt).items
    made := attempt + 1
    raised := (attempts attempt).failure }

/-- The attempts from number `attempt` on, where `left` more may follow it. -/
def retried : Nat → Nat → Delivery ε φ
  | 0, attempt => last_attempt attempts attempt
  | left + 1, attempt =>
    if (attempts attempt).failure.any again then
      { retried left (attempt + 1) with
        received := (attempts attempt).items ++ (retried left (attempt + 1)).received }
    else last_attempt attempts attempt

/-- From `first` on, attempt `last` is the first one that does not fail, and all the failures
before it are to be retried. -/
def EndsAt (first last : Nat) : Prop :=
  first ≤ last ∧ (attempts last).failure = none
    ∧ ∀ i, first ≤ i → i < last → (attempts i).failure.any again = true

variable {again attempts}

theorem EndsAt.next {first last : Nat} (h : EndsAt again attempts first last)
    (hlt : first < last) : EndsAt again attempts (first + 1) last := by
  obtain ⟨-, hended, hfailed⟩ := h
  refine ⟨hlt, hended, ?_⟩
  intro i hi hlast
  exact hfailed i (by omega) hlast

theorem retried_of_ended {left attempt : Nat} (h : (attempts attempt).failure = none) :
    retried again attempts left attempt
      = { received := (attempts attempt).items, made := attempt + 1 } := by
  cases left <;> simp [retried, last_attempt, h]

theorem retried_of_failed {left attempt : Nat} (h : (attempts attempt).failure.any again = true) :
    retried again attempts (left + 1) attempt
      = { retried again attempts left (attempt + 1) with
          received := (attempts attempt).items
            ++ (retried again attempts left (attempt + 1)).received } := by
  rw [retried, if_pos h]

theorem retried_endsAt {left first last : Nat} (h : EndsAt again attempts first last)
    (hleft : last ≤ first + left) :
    retried again attempts left first
      = { received := (List.range' first (last + 1 - first)).flatMap fun i => (attempts i).items
          made := last + 1 } := by
  induction left generalizing first with
  | zero =>
    have hfirst : first = last := by
      have := h.1
      omega
    subst hfirst
    rw [retried_of_ended h.2.1]
    simp
  | succ left ih =>
    by_cases hlt : first < last
    · have hfailed := h.2.2 first (Nat.le_refl _) hlt
      have hrest := ih (h.next hlt) (by omega)
      have hcount : last + 1 - first = (last + 1 - (first + 1)) + 1 := by omega
      rw [retried_of_failed hfailed, hrest, hcount, range'_succ, flatMap_cons]
    · have hfirst : first = last := by
        have := h.1
        omega
      subst hfirst
      rw [retried_of_ended h.2.1]
      simp

theorem endsAt_self {attempt : Nat} (h : (attempts attempt).failure = none) :
    EndsAt again attempts attempt attempt := by
  refine ⟨Nat.le_refl _, h, ?_⟩
  intro i hi hlast
  omega

theorem endsAt_of_retried {left first : Nat}
    (h : (retried again attempts left first).raised = none) :
    ∃ last, last ≤ first + left ∧ EndsAt again attempts first last := by
  induction left generalizing first with
  | zero => exact ⟨first, by omega, endsAt_self h⟩
  | succ left ih =>
    by_cases hfailed : (attempts first).failure.any again = true
    · rw [retried_of_failed hfailed] at h
      obtain ⟨last, hlast, hfirst, hended, hbefore⟩ := ih h
      refine ⟨last, by omega, by omega, hended, ?_⟩
      intro i hi hilast
      by_cases heq : i = first
      · rw [heq]
        exact hfailed
      · exact hbefore i (by omega) hilast
    · rw [retried, if_neg hfailed] at h
      exact ⟨first, by omega, endsAt_self h⟩

/-- The consumer has the items of the last attempt and nothing else exactly when the attempts
before it delivered nothing. -/
theorem received_eq_iff {left first last : Nat} (h : EndsAt again attempts first last)
    (hleft : last ≤ first + left) :
    (retried again attempts left first).received = (attempts last).items
      ↔ ∀ i, first ≤ i → i < last → (attempts i).items = [] := by
  have hcount : last + 1 - first = (last - first) + 1 := by
    have := h.1
    omega
  have hlast : first + (last - first) = last := by
    have := h.1
    omega
  rw [retried_endsAt h hleft, hcount, range'_concat, flatMap_append]
  simp only [Nat.one_mul, hlast, flatMap_cons, flatMap_nil, append_nil,
    append_left_eq_self, flatMap_eq_nil_iff, mem_range'_1]
  constructor
  · intro hnone i hi hilast
    exact hnone i ⟨hi, by omega⟩
  · intro hnone i hi
    exact hnone i hi.1 (by omega)

end

end Lib.Retry
