/-
When two JSON values are the same value.

Numbers are the same when they have the same mathematical value, lists when they have the same items
in the same order, and objects when they have the same members in any order. Values of different
kinds are different: `true` is no number, as it is for Python's `==`.
-/
import CodingAgentLoop.Lib.Json

namespace Lib.Json

/-! ## Induction over parts -/

/-- **What holds of a value when it holds of its members and items holds of every value.** -/
theorem of_parts {P : Json → Prop}
    (step : ∀ value : Json, (∀ fields field, value = .obj fields → field ∈ fields → P field.2) →
      (∀ items item, value = .arr items → item ∈ items → P item) → P value)
    (value : Json) : P value := by
  have scalar (value : Json) (hobj : ∀ fields, value ≠ .obj fields)
      (harr : ∀ items, value ≠ .arr items) : P value :=
    step value (fun fields _ heq => absurd heq (hobj fields))
      (fun items _ heq => absurd heq (harr items))
  refine @Json.rec P (fun items => ∀ item ∈ items, P item) (fun fields => ∀ field ∈ fields, P field.2)
    (fun field => P field.2) ?_ ?_ ?_ ?_ ?_ ?_ ?_ ?_ ?_ ?_ ?_ ?_ value
  · exact scalar .null (fun _ h => by cases h) (fun _ h => by cases h)
  · exact fun b => scalar (.bool b) (fun _ h => by cases h) (fun _ h => by cases h)
  · exact fun n => scalar (.int n) (fun _ h => by cases h) (fun _ h => by cases h)
  · exact fun q => scalar (.float q) (fun _ h => by cases h) (fun _ h => by cases h)
  · exact fun s => scalar (.str s) (fun _ h => by cases h) (fun _ h => by cases h)
  · intro items hitems
    refine step (.arr items) (fun _ _ h => by cases h) (fun other item heq hmem => ?_)
    cases heq
    exact hitems item hmem
  · intro fields hfields
    refine step (.obj fields) (fun other field heq hmem => ?_) (fun _ _ h => by cases h)
    cases heq
    exact hfields field hmem
  · intro item hmem
    cases hmem
  · intro head tail hhead htail item hmem
    rcases List.mem_cons.mp hmem with rfl | hrest
    · exact hhead
    · exact htail item hrest
  · intro field hmem
    cases hmem
  · intro head tail hhead htail field hmem
    rcases List.mem_cons.mp hmem with rfl | hrest
    · exact hhead
    · exact htail field hrest
  · exact fun _ _ h => h

/-! ## Equality -/

def numeric : Json → Option ℚ
  | .int n => some n
  | .float q => some q
  | _ => none

mutual

def same : Json → Json → Bool
  | .null, .null => true
  | .bool a, .bool b => a == b
  | .str a, .str b => a == b
  | .arr a, .arr b => same_items a b
  | .obj a, .obj b => a.length == b.length && same_fields a b
  | .int a, b => b.numeric == some (a : ℚ)
  | .float a, b => b.numeric == some a
  | _, _ => false

def same_items : List Json → List Json → Bool
  | [], [] => true
  | a :: as, b :: bs => same a b && same_items as bs
  | _, _ => false

def same_fields : List (String × Json) → List (String × Json) → Bool
  | [], _ => true
  | (k, a) :: as, bs =>
    (match bs.lookup k with
      | some b => same a b
      | none => false) && same_fields as bs

end

theorem number_of_numeric {value : Json} {q : ℚ} (h : value.numeric = some q) :
    value.number? = some q := by
  cases value with
  | int n => exact h
  | float r => exact h
  | _ => cases h

mutual

/-- **Python's `==` holds of what is the same.** -/
theorem py_eq_of_same : ∀ a b : Json, same a b = true → py_eq a b = true
  | .null, b => by
      intro h
      cases b with
      | null => rfl
      | _ => cases h
  | .bool a, b => by
      intro h
      cases b with
      | bool b =>
        have heq : a = b := eq_of_beq h
        subst heq
        unfold py_eq
        exact beq_self_eq_true _
      | _ => cases h
  | .int a, b => by
      intro h
      unfold same at h
      unfold py_eq
      rw [number_of_numeric (eq_of_beq h)]
      exact beq_self_eq_true _
  | .float a, b => by
      intro h
      unfold same at h
      unfold py_eq
      rw [number_of_numeric (eq_of_beq h)]
      exact beq_self_eq_true _
  | .str a, b => by
      intro h
      cases b with
      | str b => exact h
      | _ => cases h
  | .arr a, b => by
      intro h
      cases b with
      | arr b =>
        unfold same at h
        unfold py_eq
        exact py_eq_items_of_same a b h
      | _ => cases h
  | .obj a, b => by
      intro h
      cases b with
      | obj b =>
        unfold same at h
        unfold py_eq
        rw [Bool.and_eq_true] at h ⊢
        exact ⟨h.1, py_eq_fields_of_same a b h.2⟩
      | _ => cases h

theorem py_eq_items_of_same : ∀ as bs : List Json, same_items as bs = true → py_eq_items as bs = true
  | [], bs => by
      intro h
      cases bs with
      | nil => rfl
      | cons b bs => cases h
  | a :: as, bs => by
      intro h
      cases bs with
      | nil => cases h
      | cons b bs =>
        unfold same_items at h
        unfold py_eq_items
        rw [Bool.and_eq_true] at h ⊢
        exact ⟨py_eq_of_same a b h.1, py_eq_items_of_same as bs h.2⟩

theorem py_eq_fields_of_same : ∀ as bs : List (String × Json), same_fields as bs = true →
    py_eq_fields as bs = true
  | [], bs => fun _ => rfl
  | (k, a) :: as, bs => by
      intro h
      unfold same_fields at h
      unfold py_eq_fields
      rw [Bool.and_eq_true] at h ⊢
      refine ⟨?_, py_eq_fields_of_same as bs h.2⟩
      cases hfound : bs.lookup k with
      | none =>
        rw [hfound] at h
        cases h.1
      | some b =>
        rw [hfound] at h
        exact py_eq_of_same a b h.1

end

end Lib.Json
