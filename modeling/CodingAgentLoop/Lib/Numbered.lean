/-
Rows with sequence numbers.

A table whose rows carry a number can keep a list: new rows are numbered from one above
the largest number, and reading in the order of the numbers gives the list back. Rows
deleted from the middle leave their numbers unused, and from then on the number of a row
is no longer its position. `position_le` says which way the two can differ, and
`items_below_iff` when cutting the table at a number cuts the list at that length.
-/
import Mathlib.Data.List.Basic

namespace Lib

open List

/-- Rows in the order of their sequence numbers. No number occurs twice. -/
structure Numbered (α : Type) where
  rows : List (Nat × α)
  ordered : rows.Pairwise (fun left right => left.1 < right.1)

namespace Numbered

variable {α : Type}

def empty : Numbered α := ⟨[], List.Pairwise.nil⟩

/-- `SELECT item ORDER BY seq`. -/
def items (numbered : Numbered α) : List α := numbered.rows.map Prod.snd

/-- `COALESCE(MAX(seq), -1) + 1`. -/
def next (numbered : Numbered α) : Nat :=
  (numbered.rows.map (fun row => row.1 + 1)).foldr max 0

theorem lt_next {numbered : Numbered α} {row : Nat × α} (h : row ∈ numbered.rows) :
    row.1 < numbered.next := by
  unfold next
  generalize numbered.rows = rows at h
  induction rows with
  | nil => exact absurd h not_mem_nil
  | cons first rest ih =>
    rw [map_cons, foldr_cons]
    rcases mem_cons.mp h with rfl | hrest
    · omega
    · have hlt := ih hrest
      omega

section

variable (numbered : Numbered α)

/-- `INSERT` of items numbered from `next` on. -/
def append_all (new : List α) : Numbered α where
  rows := numbered.rows ++ (new.zipIdx numbered.next).map Prod.swap
  ordered := by
    rw [pairwise_append]
    refine ⟨numbered.ordered, ?_, ?_⟩
    · generalize numbered.next = start
      induction new generalizing start with
      | nil => exact List.Pairwise.nil
      | cons item rest ih =>
        rw [zipIdx_cons, map_cons, pairwise_cons]
        refine ⟨fun row hrow => ?_, ih (start + 1)⟩
        obtain ⟨numbered_item, hmem, rfl⟩ := mem_map.mp hrow
        have hle := (mem_zipIdx hmem).1
        show start < numbered_item.2
        omega
    · intro old hold row hrow
      obtain ⟨numbered_item, hmem, rfl⟩ := mem_map.mp hrow
      have hlt := lt_next hold
      have hle := (mem_zipIdx hmem).1
      show old.1 < numbered_item.2
      omega

/-- `DELETE` of the rows a condition holds of. -/
def delete_where (condition : Nat → α → Bool) : Numbered α where
  rows := numbered.rows.filter (fun row => !condition row.1 row.2)
  ordered := numbered.ordered.sublist filter_sublist

/-- `DELETE ... WHERE seq >= keep`. -/
def below (keep : Nat) : Numbered α :=
  numbered.delete_where (fun seq _ => keep ≤ seq)

@[simp] theorem items_append_all (new : List α) :
    (numbered.append_all new).items = numbered.items ++ new := by
  unfold items append_all
  rw [map_append, map_map]
  congr 1
  exact zipIdx_map_fst _ new

theorem items_delete_where (condition : α → Bool) :
    (numbered.delete_where (fun _ item => condition item)).items
      = numbered.items.filter (fun item => !condition item) := by
  unfold items delete_where
  rw [filter_map]
  rfl

end

/-- **A row's number is at least its position.** -/
theorem position_le {numbered : Numbered α} {position : Nat} {row : Nat × α}
    (h : numbered.rows[position]? = some row) : position ≤ row.1 := by
  induction position generalizing row with
  | zero => exact Nat.zero_le _
  | succ position ih =>
    obtain ⟨hlt, hrow⟩ := List.getElem?_eq_some_iff.mp h
    have hbefore : numbered.rows[position]? = some (numbered.rows[position]) :=
      List.getElem?_eq_getElem (by omega)
    have hle := ih hbefore
    have hstep := pairwise_iff_getElem.mp numbered.ordered position (position + 1)
      (by omega) hlt (by omega)
    rw [hrow] at hstep
    omega

/-- No number under `keep` is missing before the row at position `keep`. -/
def DenseBelow (numbered : Numbered α) (keep : Nat) : Prop :=
  ∀ row ∈ numbered.rows.take keep, row.1 < keep

instance (numbered : Numbered α) (keep : Nat) : Decidable (numbered.DenseBelow keep) :=
  inferInstanceAs (Decidable (∀ row ∈ numbered.rows.take keep, row.1 < keep))

theorem below_rows (numbered : Numbered α) (keep : Nat) :
    (numbered.below keep).rows = (numbered.rows.take keep).filter (fun row => row.1 < keep) := by
  have hrest : (numbered.rows.drop keep).filter (fun row => decide (row.1 < keep)) = [] := by
    rw [filter_eq_nil_iff]
    intro row hrow
    obtain ⟨index, hindex⟩ := mem_iff_getElem?.mp hrow
    rw [List.getElem?_drop] at hindex
    have hle := position_le hindex
    rw [decide_eq_true_iff]
    omega
  have hsplit : numbered.rows.filter (fun row => decide (row.1 < keep))
      = (numbered.rows.take keep).filter (fun row => decide (row.1 < keep)) := by
    conv_lhs => rw [← take_append_drop keep numbered.rows]
    rw [filter_append, hrest, append_nil]
  rw [← hsplit]
  unfold below delete_where
  refine filter_congr (fun row _ => ?_)
  by_cases hlt : row.1 < keep
  · have hnle : ¬ keep ≤ row.1 := by omega
    simp [hlt]
  · have hle : keep ≤ row.1 := by omega
    simp [hlt, hle]

/-- **Cutting at a number cuts the list at that length exactly when no number under it is
missing.** -/
theorem items_below_iff (numbered : Numbered α) (keep : Nat) :
    (numbered.below keep).items = numbered.items.take keep ↔ numbered.DenseBelow keep := by
  unfold items DenseBelow
  rw [below_rows, ← map_take]
  constructor
  · intro h
    have hlength := congrArg List.length h
    rw [length_map, length_map] at hlength
    intro row hrow
    have hall := length_filter_eq_length_iff.mp hlength row hrow
    exact of_decide_eq_true hall
  · intro h
    congr 1
    rw [filter_eq_self]
    exact fun row hrow => decide_eq_true (h row hrow)

/-! ## Tables nothing was deleted from but their end -/

end Numbered

end Lib
