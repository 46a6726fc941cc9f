/-
Values with the same JSON text.

`json.dumps(..., sort_keys=True)` writes the members of an object in the order of their keys,
whatever order they were put in, and `json.loads` reads them back in that order: the round trip
is `canonical`. Two values have the same text when their canonical forms are equal.

A sorted list of members is determined by the members under each key (`sorted_eq_iff`), since
sorting keeps the order of members that share one. So whether two objects have the same text can
be asked key by key (`same_obj_iff`), and what is built from objects key by key -- a look-up, an
update, a merge -- has the same text when the parts do.
-/
import CodingAgentLoop.Lib.JsonEquality

namespace Lib

open List

/-! ## Sorting by key -/

section Sorting

variable {α : Type}

def key_le (x y : String × α) : Bool := decide (x.1 ≤ y.1)

def under (key : String) (fields : List (String × α)) : List (String × α) :=
  fields.filter (fun field => field.1 = key)

theorem key_le_trans (x y z : String × α) (h : key_le x y = true) (h' : key_le y z = true) :
    key_le x z = true := by
  simp only [key_le, decide_eq_true_eq] at h h' ⊢
  exact String.le_trans h h'

theorem key_le_total (x y : String × α) : (key_le x y || key_le y x) = true := by
  simp only [key_le, Bool.or_eq_true, decide_eq_true_eq]
  exact String.le_total x.1 y.1

theorem under_mergeSort (key : String) (fields : List (String × α)) :
    under key (fields.mergeSort key_le) = under key fields := by
  have hsorted : (under key fields).Pairwise (fun x y => key_le x y = true) := by
    apply pairwise_of_forall_mem_list
    intro x hx y hy
    have hx' := (mem_filter.mp hx).2
    have hy' := (mem_filter.mp hy).2
    simp only [decide_eq_true_eq] at hx' hy'
    rw [key_le, hx', hy']
    exact decide_eq_true (String.le_refl key)
  have hsub : (under key fields).Sublist (fields.mergeSort key_le) :=
    sublist_mergeSort key_le_trans key_le_total hsorted filter_sublist
  have hsub' : (under key fields).Sublist (under key (fields.mergeSort key_le)) := by
    have hfilter := hsub.filter (fun field => decide (field.1 = key))
    simp only [under, filter_filter, Bool.and_self] at hfilter
    exact hfilter
  refine (hsub'.eq_of_length ?_).symm
  exact ((mergeSort_perm fields key_le).filter _).length_eq.symm

theorem sorted_ext {fields others : List (String × α)}
    (hfields : fields.Pairwise (fun x y => key_le x y = true))
    (hothers : others.Pairwise (fun x y => key_le x y = true))
    (h : ∀ key, under key fields = under key others) : fields = others := by
  induction fields generalizing others with
  | nil =>
    cases others with
    | nil => rfl
    | cons other rest =>
      have hnone := h other.1
      simp [under] at hnone
  | cons field rest ih =>
    cases others with
    | nil =>
      have hnone := h field.1
      simp [under] at hnone
    | cons other rest' =>
      rw [pairwise_cons] at hfields hothers
      -- the heads have the least key of both lists
      have hkey : field.1 = other.1 := by
        apply String.le_antisymm
        · have hmem : other ∈ under other.1 (field :: rest) := by
            rw [h other.1]
            simp [under]
          rcases mem_cons.mp (mem_filter.mp hmem).1 with rfl | hin
          · exact String.le_refl _
          · exact of_decide_eq_true (hfields.1 other hin)
        · have hmem : field ∈ under field.1 (other :: rest') := by
            rw [← h field.1]
            simp [under]
          rcases mem_cons.mp (mem_filter.mp hmem).1 with rfl | hin
          · exact String.le_refl _
          · exact of_decide_eq_true (hothers.1 field hin)
      have hhead := h field.1
      simp only [under, filter_cons, decide_true, if_true, hkey] at hhead
      obtain ⟨rfl, -⟩ := List.cons.inj hhead
      congr 1
      refine ih hfields.2 hothers.2 (fun key => ?_)
      have hall := h key
      simp only [under, filter_cons] at hall ⊢
      split at hall
      · exact (List.cons.inj hall).2
      · exact hall

/-- **A sorted list is determined by the members under each key.** -/
theorem sorted_eq_iff {fields others : List (String × α)} :
    fields.mergeSort key_le = others.mergeSort key_le
      ↔ ∀ key, under key fields = under key others := by
  constructor
  · intro h key
    rw [← under_mergeSort key fields, h, under_mergeSort]
  · intro h
    apply sorted_ext (pairwise_mergeSort key_le_trans key_le_total _)
      (pairwise_mergeSort key_le_trans key_le_total _)
    intro key
    rw [under_mergeSort, under_mergeSort, h]

end Sorting

/-! ## Canonical forms -/

namespace Json

theorem canonical_items_eq_map (items : List Json) :
    canonical_items items = items.map canonical := by
  induction items with
  | nil => rfl
  | cons item rest ih => rw [canonical_items, ih, map_cons]

theorem canonical_fields_eq_map (fields : List (String × Json)) :
    canonical_fields fields = fields.map (fun field => (field.1, field.2.canonical)) := by
  induction fields with
  | nil => rfl
  | cons field rest ih =>
    obtain ⟨key, value⟩ := field
    rw [canonical_fields, ih, map_cons]

theorem canonical_arr (items : List Json) :
    (Json.arr items).canonical = .arr (items.map canonical) := by
  rw [canonical, canonical_items_eq_map]

theorem canonical_arr_map {α : Type} {encode : α → Json} {left right : List α}
    (h : (Json.arr (left.map encode)).canonical = (Json.arr (right.map encode)).canonical) :
    left.map (fun value => (encode value).canonical)
      = right.map (fun value => (encode value).canonical) := by
  rw [canonical_arr, canonical_arr, map_map, map_map] at h
  exact Json.arr.inj h

end Json

namespace JsonObject

def canonical (fields : JsonObject) : JsonObject :=
  (Json.canonical_fields fields).mergeSort key_le

theorem canonical_obj (fields : JsonObject) :
    (Json.obj fields).canonical = .obj (JsonObject.canonical fields) := by
  rw [Json.canonical]
  rfl

theorem under_canonical_fields (key : String) (fields : JsonObject) :
    under key (Json.canonical_fields fields)
      = (under key fields).map (fun field => (field.1, field.2.canonical)) := by
  rw [Json.canonical_fields_eq_map, under, under, filter_map]
  rfl

section

variable (fields : JsonObject) (key : String)

theorem find_eq_under : fields.find key = (under key fields).head?.map Prod.snd := by
  induction fields with
  | nil => rfl
  | cons field rest ih =>
    obtain ⟨k, value⟩ := field
    rw [find_cons, under, filter_cons]
    by_cases hkey : k = key
    · simp [hkey]
    · have hkey' : ¬ key = k := fun h => hkey h.symm
      simp only [hkey, hkey', decide_false, if_false, Bool.false_eq_true]
      exact ih

/-- **Looking a key up in the canonical form.** -/
theorem find_canonical :
    (JsonObject.canonical fields).find key = (fields.find key).map Json.canonical := by
  rw [find_eq_under, find_eq_under, canonical, under_mergeSort, under_canonical_fields,
    List.head?_map, Option.map_map, Option.map_map]
  rfl

theorem get_canonical : (JsonObject.canonical fields).get key = (fields.get key).canonical := by
  rw [get, get, find_canonical]
  cases fields.find key <;> rfl

theorem get_or_canonical (default : Json) :
    (JsonObject.canonical fields).get_or key default.canonical
      = (fields.get_or key default).canonical := by
  rw [get_or, get_or, find_canonical]
  cases fields.find key <;> rfl

end

def Same (left right : JsonObject) : Prop :=
  JsonObject.canonical left = JsonObject.canonical right

theorem same_iff {left right : JsonObject} : Same left right
    ↔ ∀ key, under key (Json.canonical_fields left) = under key (Json.canonical_fields right) :=
  sorted_eq_iff

theorem same_iff_json {left right : JsonObject} :
    Same left right ↔ (Json.obj left).canonical = (Json.obj right).canonical := by
  rw [canonical_obj, canonical_obj, Json.obj.injEq]
  rfl

end JsonObject

namespace JsonObject

variable {left right : JsonObject}

theorem Same.find (h : Same left right) (key : String) :
    (left.find key).map Json.canonical = (right.find key).map Json.canonical := by
  rw [← find_canonical, ← find_canonical, h]

theorem Same.get (h : Same left right) (key : String) :
    (JsonObject.get left key).canonical = (JsonObject.get right key).canonical := by
  rw [← get_canonical, ← get_canonical, h]

theorem same_of_members
    (h : List.Forall₂ (fun x y => x.1 = y.1 ∧ x.2.canonical = y.2.canonical) left right) :
    Same left right := by
  have hfields : Json.canonical_fields left = Json.canonical_fields right := by
    rw [Json.canonical_fields_eq_map, Json.canonical_fields_eq_map]
    induction h with
    | nil => rfl
    | cons hhead _ ih => rw [map_cons, map_cons, hhead.1, hhead.2, ih]
  rw [Same, canonical, canonical, hfields]

/-! ## Objects built from others -/

theorem under_merge (left right : JsonObject) (key : String) : under key (merge left right)
      = (under key left).map (fun field => (field.1, (right.find key).getD field.2))
        ++ if under key left = [] then under key right else [] := by
  have hleft : under key (left.map (fun field => (field.1, (right.find field.1).getD field.2)))
      = (under key left).map (fun field => (field.1, (right.find key).getD field.2)) := by
    rw [under, under, filter_map]
    apply map_congr_left
    intro field hmem
    have hkey := of_decide_eq_true (mem_filter.mp hmem).2
    simp only [Function.comp_apply] at hkey
    rw [hkey]
  have hright : under key (right.filter (fun field => (left.find field.1).isNone))
      = if under key left = [] then under key right else [] := by
    rw [under, filter_filter]
    have habsent : (left.find key).isNone = true ↔ under key left = [] := by
      rw [find_eq_under, Option.isNone_iff_eq_none, Option.map_eq_none_iff, List.head?_eq_none_iff]
    split
    · next hnil =>
      rw [under]
      apply filter_congr
      intro field _
      by_cases hkey : field.1 = key
      · simp [hkey, habsent.mpr hnil]
      · simp [hkey]
    · next hsome =>
      rw [filter_eq_nil_iff]
      intro field _
      by_cases hkey : field.1 = key
      · simp [hkey, mt habsent.mp hsome]
      · simp [hkey]
  rw [merge, under, filter_append, ← under, ← under, hleft, hright]

/-- **Merges of objects with the same texts have the same text.** -/
theorem Same.merge {left left' right right' : JsonObject} (hleft : Same left left')
    (hright : Same right right') :
    Same (JsonObject.merge left right) (JsonObject.merge left' right') := by
  have hmerged (left right : JsonObject) (key : String) :
      under key (Json.canonical_fields (JsonObject.merge left right))
        = (under key (Json.canonical_fields left)).map (fun field =>
            (field.1, ((right.find key).map Json.canonical).getD field.2))
          ++ if under key (Json.canonical_fields left) = [] then
              under key (Json.canonical_fields right) else [] := by
    rw [under_canonical_fields, under_merge, map_append, map_map,
      under_canonical_fields, map_map]
    congr 1
    · apply map_congr_left
      intro field _
      cases right.find key <;> rfl
    · by_cases hnone : under key left = []
      · rw [if_pos hnone, hnone, map_nil, if_pos rfl, under_canonical_fields]
      · rw [if_neg hnone, if_neg (mt map_eq_nil_iff.mp hnone), map_nil]
  refine same_iff.mpr (fun key => ?_)
  rw [hmerged, hmerged, same_iff.mp hleft key, same_iff.mp hright key, hright.find key]

theorem Same.set {left right : JsonObject} (h : Same left right) (key : String) {value value' : Json}
    (hvalue : value.canonical = value'.canonical) : Same (left.set key value) (right.set key value') := by
  apply h.merge
  have hsingle : Json.canonical_fields [(key, value)] = Json.canonical_fields [(key, value')] := by
    rw [Json.canonical_fields_eq_map, Json.canonical_fields_eq_map, map_cons, map_cons,
      hvalue]
  rw [Same, canonical, canonical, hsingle]

theorem Same.refl (fields : JsonObject) : Same fields fields := rfl

end JsonObject

end Lib
