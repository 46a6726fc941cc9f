/-
Cutting a list into groups greedily.

A group is begun by the first item that is left, and every later item that goes with all members so
far joins it; what did not join is cut the same way. `before` is the order the list is in. Members of
a group go with every later member of it (`groups_compatible`), and an item is only in a later group
because an earlier item of each group before it does not go with it (`groups_crowded`).
-/
import CodingAgentLoop.Lib.History
import Mathlib.Data.List.Nodup

namespace Lib.FirstFit

open List

variable {α : Type} (fits : α → α → Bool)

/-- The group that `group` grows to along `rest`, and the items that did not join it. -/
def fill (group : List α) : List α → List α × List α
  | [] => (group, [])
  | item :: rest =>
    if group.all (fun member => fits member item) then fill (group ++ [item]) rest
    else
      let filled := fill group rest
      (filled.1, item :: filled.2)

/-- The groups of a list that is not longer than `fuel`. -/
def groups : Nat → List α → List (List α)
  | 0, _ => []
  | _ + 1, [] => []
  | fuel + 1, first :: rest =>
    let filled := fill fits [first] rest
    filled.1 :: groups fuel filled.2

variable {fits} {before : α → α → Prop}

/-! ## One group -/

theorem fill_perm (group rest : List α) :
    ((fill fits group rest).1 ++ (fill fits group rest).2).Perm (group ++ rest) := by
  induction rest generalizing group with
  | nil => rw [fill]
  | cons item rest ih =>
    rw [fill]
    by_cases hall : group.all (fun member => fits member item)
    · rw [if_pos hall]
      have hfilled := ih (group ++ [item])
      rwa [append_assoc, singleton_append] at hfilled
    · rw [if_neg hall]
      have hgrown : (item :: ((fill fits group rest).1 ++ (fill fits group rest).2)).Perm
          (group ++ item :: rest) := ((ih group).cons item).trans perm_middle.symm
      exact perm_middle.trans hgrown

theorem fill_left_length (group rest : List α) : (fill fits group rest).2.length ≤ rest.length := by
  induction rest generalizing group with
  | nil => simp [fill]
  | cons item rest ih =>
    rw [fill]
    by_cases hall : group.all (fun member => fits member item)
    · rw [if_pos hall]
      have hfilled := ih (group ++ [item])
      simp only [length_cons]
      omega
    · rw [if_neg hall]
      have hfilled := ih group
      simp only [length_cons]
      omega

theorem fill_left_sublist (group rest : List α) : (fill fits group rest).2.Sublist rest := by
  induction rest generalizing group with
  | nil => rw [fill]
  | cons item rest ih =>
    rw [fill]
    by_cases hall : group.all (fun member => fits member item)
    · rw [if_pos hall]
      exact (ih (group ++ [item])).cons item
    · rw [if_neg hall]
      exact (ih group).cons_cons item

variable {group rest : List α} {x : α}

theorem mem_fill_group (hmem : x ∈ group) :
    x ∈ (fill fits group rest).1 := by
  induction rest generalizing group with
  | nil => rwa [fill]
  | cons item rest ih =>
    rw [fill]
    by_cases hall : group.all (fun member => fits member item)
    · rw [if_pos hall]
      exact ih (mem_append_left _ hmem)
    · rw [if_neg hall]
      exact ih hmem

theorem fill_pairwise (hgroup : group.Pairwise (fun x y => before x y ∧ fits x y = true))
    (hrest : rest.Pairwise before) (hsplit : ∀ x ∈ group, ∀ y ∈ rest, before x y) :
    (fill fits group rest).1.Pairwise (fun x y => before x y ∧ fits x y = true) := by
  induction rest generalizing group with
  | nil => rwa [fill]
  | cons item rest ih =>
    obtain ⟨hitem, hrest⟩ := pairwise_cons.mp hrest
    rw [fill]
    by_cases hall : group.all (fun member => fits member item)
    · rw [if_pos hall]
      apply ih _ hrest
      · intro x hx y hy
        rcases mem_snoc hx with hx | hx
        · exact hsplit x hx y (mem_cons_of_mem _ hy)
        · rw [hx]
          exact hitem y hy
      · rw [pairwise_append]
        refine ⟨hgroup, pairwise_singleton _ _, fun x hx y hy => ?_⟩
        rw [mem_singleton.mp hy]
        exact ⟨hsplit x hx item mem_cons_self, all_eq_true.mp hall x hx⟩
    · rw [if_neg hall]
      exact ih hgroup hrest fun x hx y hy => hsplit x hx y (mem_cons_of_mem _ hy)

theorem fill_left (hrest : rest.Pairwise before) (hsplit : ∀ x ∈ group, ∀ y ∈ rest, before x y)
    (hx : x ∈ (fill fits group rest).2) :
    ∃ y ∈ (fill fits group rest).1, before y x ∧ fits y x = false := by
  induction rest generalizing group with
  | nil =>
    rw [fill] at hx
    cases hx
  | cons item rest ih =>
    obtain ⟨hitem, hrest⟩ := pairwise_cons.mp hrest
    rw [fill] at hx ⊢
    by_cases hall : group.all (fun member => fits member item)
    · rw [if_pos hall] at hx ⊢
      refine ih hrest (fun x hx y hy => ?_) hx
      rcases mem_snoc hx with hx | hx
      · exact hsplit x hx y (mem_cons_of_mem _ hy)
      · rw [hx]
        exact hitem y hy
    · rw [if_neg hall] at hx ⊢
      rcases mem_cons.mp hx with rfl | hx
      · obtain ⟨y, hy, hfits⟩ := any_eq_true.mp
          (by rwa [Bool.not_eq_true, all_eq_not_any_not, Bool.not_eq_false'] at hall)
        rw [Bool.not_eq_true'] at hfits
        exact ⟨y, mem_fill_group hy, hsplit y hy x mem_cons_self, hfits⟩
      · exact ih hrest (fun x hx y hy => hsplit x hx y (mem_cons_of_mem _ hy)) hx

/-! ## All groups -/

theorem groups_perm {fuel : Nat} {items : List α} (hfuel : items.length ≤ fuel) :
    (groups fits fuel items).flatten.Perm items := by
  induction fuel generalizing items with
  | zero =>
    rw [eq_nil_of_length_eq_zero (Nat.le_zero.mp hfuel)]
    rfl
  | succ fuel ih =>
    cases items with
    | nil => rfl
    | cons first rest =>
      have hleft : (fill fits [first] rest).2.length ≤ rest.length := fill_left_length [first] rest
      have hfuel_left : (fill fits [first] rest).2.length ≤ fuel := by
        simp only [length_cons] at hfuel
        omega
      have hperm := ih hfuel_left
      rw [groups, flatten_cons]
      exact (hperm.append_left _).trans (fill_perm [first] rest)

theorem groups_disjoint {fuel m n : Nat} {items early late : List α} (hfuel : items.length ≤ fuel)
    (hnodup : items.Nodup) (hearly : (groups fits fuel items)[m]? = some early)
    (hlate : (groups fits fuel items)[n]? = some late) (hx : x ∈ early) (hx' : x ∈ late) :
    m = n := by
  have hflat : (groups fits fuel items).flatten.Nodup := (groups_perm hfuel).nodup_iff.mpr hnodup
  have hapart := pairwise_iff_getElem.mp (nodup_flatten.mp hflat).2
  obtain ⟨hm, rfl⟩ := List.getElem?_eq_some_iff.mp hearly
  obtain ⟨hn, rfl⟩ := List.getElem?_eq_some_iff.mp hlate
  rcases Nat.lt_trichotomy m n with hlt | heq | hlt
  · exact absurd hx' (hapart m n hm hn hlt hx)
  · exact heq
  · exact absurd hx (hapart n m hn hm hlt hx')

theorem groups_compatible {fuel : Nat} {items group : List α} (hitems : items.Pairwise before)
    (hgroup : group ∈ groups fits fuel items) :
    group.Pairwise (fun x y => before x y ∧ fits x y = true) := by
  induction fuel generalizing items with
  | zero => cases hgroup
  | succ fuel ih =>
    cases items with
    | nil => cases hgroup
    | cons first rest =>
      obtain ⟨hfirst, hrest⟩ := pairwise_cons.mp hitems
      rw [groups] at hgroup
      rcases mem_cons.mp hgroup with rfl | hgroup
      · apply fill_pairwise (pairwise_singleton _ _) hrest
        intro x hx y hy
        rw [mem_singleton.mp hx]
        exact hfirst y hy
      · exact ih (hrest.sublist (fill_left_sublist [first] rest)) hgroup

/-- An item of a later group met, in each group before it, an earlier item that it does not go
with. -/
theorem groups_crowded {fuel m n : Nat} {items early late : List α} (hfuel : items.length ≤ fuel)
    (hitems : items.Pairwise before) (hlt : m < n)
    (hearly : (groups fits fuel items)[m]? = some early)
    (hlate : (groups fits fuel items)[n]? = some late) (hx : x ∈ late) :
    ∃ y ∈ early, before y x ∧ fits y x = false := by
  induction fuel generalizing items m n with
  | zero => cases hlate
  | succ fuel ih =>
    cases items with
    | nil => cases hlate
    | cons first rest =>
      obtain ⟨hfirst, hrest⟩ := pairwise_cons.mp hitems
      have hlength : (fill fits [first] rest).2.length ≤ rest.length := fill_left_length [first] rest
      have hfuel_left : (fill fits [first] rest).2.length ≤ fuel := by
        simp only [length_cons] at hfuel
        omega
      obtain ⟨n, rfl⟩ : ∃ k, n = k + 1 := ⟨n - 1, by omega⟩
      rw [groups] at hearly hlate
      rw [List.getElem?_cons_succ] at hlate
      cases m with
      | zero =>
        rw [List.getElem?_cons_zero] at hearly
        obtain rfl := Option.some.inj hearly
        -- `x` is in some group of what was left over, so it was left over
        have hleft : x ∈ (fill fits [first] rest).2 :=
          (groups_perm hfuel_left).mem_iff.mp
            (mem_flatten.mpr ⟨late, mem_of_getElem? hlate, hx⟩)
        refine fill_left hrest (fun z hz y hy => ?_) hleft
        rw [mem_singleton.mp hz]
        exact hfirst y hy
      | succ m =>
        rw [List.getElem?_cons_succ] at hearly
        exact ih hfuel_left (hrest.sublist (fill_left_sublist [first] rest)) (by omega) hearly hlate

end Lib.FirstFit
