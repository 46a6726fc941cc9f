/-
Relational tables with a primary key.

A table is a finite map from its primary key to the rest of the row: Mathlib's
`AList`, whose entries carry the proof that no key occurs twice, so a table that
violates its `PRIMARY KEY` cannot be built. The definitions here give the SQL
statements a store uses over it -- `SELECT` by key and by other columns,
`INSERT`, `INSERT ... ON CONFLICT DO UPDATE` -- and the rewriting rules that
say which rows a statement leaves alone. Row order is never observed: a query
that needs an order sorts its answer.
-/
import Mathlib.Data.List.AList

namespace Lib

open List

/-- A table with primary key `κ` and remaining columns `ν`. -/
abbrev Table (κ ν : Type) := AList (fun _ : κ => ν)

namespace Table

variable {κ ν : Type} [DecidableEq κ]

section

variable (t : Table κ ν)

/-- `SELECT ... WHERE` the whole primary key. -/
def row (k : κ) : Option ν := AList.lookup k t

/-- `INSERT ... ON CONFLICT (key) DO UPDATE`, and `UPDATE` of a row that exists. -/
def put (k : κ) (v : ν) : Table κ ν := AList.insert k v t

def put_all (rows : List (κ × ν)) : Table κ ν :=
  rows.foldl (fun t r => t.put r.1 r.2) t

/-- `INSERT`: refused when the key is taken. -/
def insert_new (k : κ) (v : ν) : Option (Table κ ν) :=
  if (t.row k).isSome then none else some (t.put k v)

/-- `SELECT ... WHERE` a condition on any columns: the rows as a list. -/
def select (p : κ → ν → Bool) : List (κ × ν) :=
  (t.entries.map (fun e => (e.1, e.2))).filter (fun r => p r.1 r.2)

/-- `select(...).fetchone()`. -/
def first (p : κ → ν → Bool) : Option (κ × ν) := (t.select p).head?

/-- `DELETE ... WHERE` a condition on any columns. -/
def delete_where (p : κ → ν → Bool) : Table κ ν :=
  ⟨t.entries.filter (fun e => !p e.1 e.2), t.nodupKeys.sublist filter_sublist⟩

/-- `UPDATE` of the columns beside the key, row by row. -/
def update (f : κ → ν → ν) : Table κ ν :=
  ⟨t.entries.map (fun e => ⟨e.1, f e.1 e.2⟩), by
    have hkeys : (t.entries.map (fun e => (⟨e.1, f e.1 e.2⟩ : (_ : κ) × ν))).keys
        = t.entries.keys := by
      simp [List.keys, Function.comp_def]
    rw [List.NodupKeys, hkeys]
    exact t.nodupKeys⟩

end

@[simp] theorem row_empty (k : κ) : row (∅ : Table κ ν) k = none := AList.lookup_empty k

@[simp] theorem row_put (t : Table κ ν) (k : κ) (v : ν) (k' : κ) :
    (t.put k v).row k' = if k' = k then some v else t.row k' := by
  unfold row put
  split
  · next h => subst h; exact AList.lookup_insert t
  · next h => exact AList.lookup_insert_ne h

theorem row_put_self (t : Table κ ν) (k : κ) (v : ν) : (t.put k v).row k = some v := by
  rw [row_put, if_pos rfl]

theorem row_put_of_ne (t : Table κ ν) {k k' : κ} (v : ν) (h : k' ≠ k) :
    (t.put k v).row k' = t.row k' := by
  rw [row_put, if_neg h]

theorem put_put (t : Table κ ν) (k : κ) (v v' : ν) : (t.put k v).put k v' = t.put k v' :=
  AList.insert_insert t

variable {k : κ} {v : ν}

theorem insert_new_eq_some {t t' : Table κ ν} :
    t.insert_new k v = some t' ↔ t.row k = none ∧ t' = t.put k v := by
  unfold insert_new
  cases t.row k <;> simp [eq_comm]

variable {t : Table κ ν}

theorem mem_keys_of_row (h : t.row k = some v) : k ∈ t.keys :=
  AList.mem_keys.mp (AList.lookup_isSome.mp (Option.isSome_of_eq_some h))

theorem row_update (t : Table κ ν) (f : κ → ν → ν) (k : κ) :
    (t.update f).row k = (t.row k).map (f k) := by
  refine Option.ext (fun v => ?_)
  rw [Option.map_eq_some_iff]
  unfold row update
  rw [← Option.mem_def, AList.mem_lookup_iff, mem_map]
  constructor
  · rintro ⟨⟨k', v'⟩, hmem, heq⟩
    cases heq
    exact ⟨v', AList.mem_lookup_iff.mpr hmem, rfl⟩
  · rintro ⟨v', hlookup, rfl⟩
    exact ⟨⟨k, v'⟩, AList.mem_lookup_iff.mp hlookup, rfl⟩

/-! ## Loops of upserts -/

section

variable (t : Table κ ν) (rows : List (κ × ν))

theorem row_put_all_of_not_mem (k : κ)
    (h : k ∉ rows.map Prod.fst) : (t.put_all rows).row k = t.row k := by
  induction rows generalizing t with
  | nil => rfl
  | cons r rest ih =>
    simp only [map_cons, mem_cons, not_or] at h
    have hstep : (t.put_all (r :: rest)).row k = ((t.put r.1 r.2).put_all rest).row k := rfl
    rw [hstep, ih (t.put r.1 r.2) h.2, row_put_of_ne t r.2 h.1]

theorem row_put_all_of_mem (hnodup : (rows.map Prod.fst).Nodup) (h : (k, v) ∈ rows) :
    (t.put_all rows).row k = some v := by
  induction rows generalizing t with
  | nil => cases h
  | cons r rest ih =>
    simp only [map_cons, nodup_cons] at hnodup
    have hstep : (t.put_all (r :: rest)).row k = ((t.put r.1 r.2).put_all rest).row k := rfl
    rw [hstep]
    rcases mem_cons.mp h with rfl | hrest
    · rw [row_put_all_of_not_mem _ rest _ hnodup.1, row_put_self]
    · exact ih (t.put r.1 r.2) hnodup.2 hrest

theorem row_put_all_cases
    (h : (t.put_all rows).row k = some v) : (k, v) ∈ rows ∨ t.row k = some v := by
  induction rows generalizing t with
  | nil => exact Or.inr h
  | cons r rest ih =>
    have hstep : (t.put_all (r :: rest)).row k = ((t.put r.1 r.2).put_all rest).row k := rfl
    rw [hstep] at h
    rcases ih (t.put r.1 r.2) h with hmem | hold
    · exact Or.inl (mem_cons_of_mem _ hmem)
    · rw [row_put] at hold
      split at hold
      · next hk =>
        cases hold
        subst hk
        exact Or.inl mem_cons_self
      · exact Or.inr hold

end

/-! ## Tables that look alike -/

section Agree

variable {μ : Type} {view : ν → μ}

def Agree (view : ν → μ) (t t' : Table κ ν) : Prop :=
  ∀ k, (t.row k).map view = (t'.row k).map view

theorem Agree.refl (t : Table κ ν) : Agree view t t := fun _ => rfl

theorem Agree.put {t t' : Table κ ν} (h : Agree view t t') (k : κ) {v v' : ν}
    (hv : view v = view v') : Agree view (t.put k v) (t'.put k v') := by
  intro k'
  rw [row_put, row_put]
  split
  · rw [Option.map_some, Option.map_some, hv]
  · exact h k'

theorem Agree.put_all {t t' : Table κ ν} (h : Agree view t t') {rows rows' : List (κ × ν)}
    (hrows : rows.map (fun row => (row.1, view row.2))
      = rows'.map (fun row => (row.1, view row.2))) :
    Agree view (t.put_all rows) (t'.put_all rows') := by
  induction rows generalizing t t' rows' with
  | nil =>
    cases rows' with
    | nil => exact h
    | cons row rest => cases hrows
  | cons row rest ih =>
    cases rows' with
    | nil => cases hrows
    | cons row' rest' =>
      rw [map_cons, map_cons, List.cons.injEq, Prod.mk.injEq] at hrows
      obtain ⟨⟨hkey, hview⟩, hrest⟩ := hrows
      have hput : Agree view (t.put row.1 row.2) (t'.put row'.1 row'.2) := by
        rw [hkey]
        exact h.put row'.1 hview
      have hall : Agree view ((t.put row.1 row.2).put_all rest)
          ((t'.put row'.1 row'.2).put_all rest') := ih hput hrest
      exact hall

end Agree

/-! ## Queries on other columns -/

variable {p : κ → ν → Bool}

theorem mem_select : (k, v) ∈ t.select p ↔ t.row k = some v ∧ p k v = true := by
  unfold select row
  rw [mem_filter]
  refine and_congr_left (fun _ => ?_)
  rw [← Option.mem_def, AList.mem_lookup_iff, mem_map]
  constructor
  · rintro ⟨⟨k', v'⟩, hmem, heq⟩
    cases heq
    exact hmem
  · intro hmem
    exact ⟨⟨k, v⟩, hmem, rfl⟩

theorem nodup_select (t : Table κ ν) (p : κ → ν → Bool) : ((t.select p).map Prod.fst).Nodup := by
  unfold select
  have hkeys : (t.entries.map (fun e => (e.1, e.2))).map Prod.fst = t.entries.keys := by
    rw [map_map]
    rfl
  refine List.Nodup.sublist (List.Sublist.map Prod.fst filter_sublist) ?_
  rw [hkeys]
  exact t.nodupKeys

theorem row_of_delete_where (h : (t.delete_where p).row k = some v) : t.row k = some v := by
  have hmem : (⟨k, v⟩ : (_ : κ) × ν) ∈ (t.delete_where p).entries := AList.mem_lookup_iff.mp h
  exact AList.mem_lookup_iff.mpr (mem_of_mem_filter hmem)

theorem row_delete_where_eq_some :
    (t.delete_where p).row k = some v ↔ t.row k = some v ∧ p k v = false := by
  have hleft : (t.delete_where p).row k = some v ↔
      (⟨k, v⟩ : (_ : κ) × ν) ∈ t.entries.filter (fun e => !p e.1 e.2) := AList.mem_lookup_iff
  have hright : t.row k = some v ↔ (⟨k, v⟩ : (_ : κ) × ν) ∈ t.entries := AList.mem_lookup_iff
  rw [hleft, hright, mem_filter]
  simp

theorem first_eq_none : t.first p = none ↔ ∀ k v, t.row k = some v → p k v = false := by
  unfold first
  rw [List.head?_eq_none_iff, eq_nil_iff_forall_not_mem]
  constructor
  · intro h k v hrow
    have hnot := h (k, v)
    rw [mem_select] at hnot
    cases hp : p k v with
    | false => rfl
    | true => exact absurd ⟨hrow, hp⟩ hnot
  · rintro h ⟨k, v⟩ hmem
    rw [mem_select] at hmem
    rw [h k v hmem.1] at hmem
    exact absurd hmem.2 Bool.false_ne_true

theorem first_eq_some (h : t.first p = some (k, v)) : t.row k = some v ∧ p k v = true :=
  mem_select.mp (List.mem_of_mem_head? h)

end Table

end Lib
