/-
Computations that stop at their first error.

A function that raises is an `Except`. Everything proved about one starts by
asking what its success tells about the steps inside it: `bind_eq_ok` peels one
step off, `check_each_eq_ok` and `mapM_eq_ok` do the same for a loop that only
checks and for a loop that collects.
-/
import Mathlib.Data.List.Forall2

namespace Lib.Result

open List

variable {ε α β : Type}

variable {f : α → Except ε β} {b : β}

theorem bind_eq_ok {x : Except ε α} :
    (x >>= f) = .ok b ↔ ∃ a, x = .ok a ∧ f a = .ok b := by
  cases x with
  | error e => simp [bind, Except.bind]
  | ok a => simp [bind, Except.bind]

theorem check_bind_eq_ok {x : Except ε Unit} {f : Unit → Except ε β} :
    (x >>= f) = .ok b ↔ x = .ok () ∧ f () = .ok b := by
  rw [bind_eq_ok]
  exact ⟨fun ⟨(), hx, hf⟩ => ⟨hx, hf⟩, fun ⟨hx, hf⟩ => ⟨(), hx, hf⟩⟩

@[simp] theorem ok_bind (a : α) (f : α → Except ε β) : (Except.ok a >>= f) = f a := rfl

@[simp] theorem error_bind (e : ε) (f : α → Except ε β) :
    ((Except.error e : Except ε α) >>= f) = .error e := rfl

theorem map_eq_ok {x : Except ε α} {f : α → β} :
    (f <$> x) = .ok b ↔ ∃ a, x = .ok a ∧ f a = b := by
  cases x with
  | error e => simp [Functor.map, Except.map]
  | ok a => simp [Functor.map, Except.map]

@[simp] theorem pure_eq_ok {a b : α} : (pure a : Except ε α) = .ok b ↔ a = b := by
  simp [pure, Except.pure]

def check_each : List α → (α → Except ε Unit) → Except ε Unit
  | [], _ => .ok ()
  | a :: rest, f => f a >>= fun _ => check_each rest f

variable {l : List α}

theorem check_each_eq_ok {f : α → Except ε Unit} {u : Unit} :
    check_each l f = .ok u ↔ ∀ a ∈ l, f a = .ok () := by
  induction l with
  | nil => simp [check_each]
  | cons a rest ih =>
    simp only [check_each, bind_eq_ok, mem_cons, forall_eq_or_imp, ih]
    constructor
    · rintro ⟨⟨⟩, ha, hrest⟩
      exact ⟨ha, hrest⟩
    · rintro ⟨ha, hrest⟩
      exact ⟨(), ha, hrest⟩

variable {l' : List β}

theorem mapM_eq_ok :
    l.mapM f = .ok l' ↔ List.Forall₂ (fun a b => f a = .ok b) l l' := by
  induction l generalizing l' with
  | nil => simp [pure, Except.pure, eq_comm]
  | cons a rest ih =>
    rw [mapM_cons, bind_eq_ok, forall₂_cons_left_iff]
    constructor
    · rintro ⟨b, hb, hrest⟩
      obtain ⟨bs, hbs, hpure⟩ := bind_eq_ok.mp hrest
      rw [pure_eq_ok] at hpure
      exact ⟨b, bs, hb, ih.mp hbs, hpure.symm⟩
    · rintro ⟨b, bs, hb, hbs, rfl⟩
      refine ⟨b, hb, bind_eq_ok.mpr ⟨bs, ih.mpr hbs, ?_⟩⟩
      rfl

theorem exists_of_mem_mapM (h : l.mapM f = .ok l') (hb : b ∈ l') : ∃ a ∈ l, f a = .ok b := by
  rw [mapM_eq_ok] at h
  induction h with
  | nil => simp at hb
  | @cons a b' rest rest' hhead _ ih =>
    rcases mem_cons.mp hb with rfl | hrest
    · exact ⟨a, mem_cons_self, hhead⟩
    · obtain ⟨a', hmem, ha'⟩ := ih hrest
      exact ⟨a', mem_cons_of_mem _ hmem, ha'⟩

theorem exists_result_of_mem (h : l.mapM f = .ok l') {a : α} (ha : a ∈ l) :
    ∃ b ∈ l', f a = .ok b := by
  rw [mapM_eq_ok] at h
  induction h with
  | nil => simp at ha
  | @cons a' b rest rest' hhead _ ih =>
    rcases mem_cons.mp ha with rfl | hrest
    · exact ⟨b, mem_cons_self, hhead⟩
    · obtain ⟨b', hmem, hb'⟩ := ih hrest
      exact ⟨b', mem_cons_of_mem _ hmem, hb'⟩

theorem exists_mapM_eq_ok (h : ∀ a ∈ l, ∃ b, f a = .ok b) :
    ∃ l', l.mapM f = .ok l' := by
  induction l with
  | nil => exact ⟨[], rfl⟩
  | cons a rest ih =>
    obtain ⟨b, hb⟩ := h a mem_cons_self
    obtain ⟨bs, hbs⟩ := ih (fun other hother => h other (mem_cons_of_mem _ hother))
    refine ⟨b :: bs, ?_⟩
    rw [mapM_cons, hb, ok_bind, hbs]
    rfl

theorem mapM_map_eq_ok {l : List β} {write : β → α} (h : ∀ b ∈ l, f (write b) = .ok b) :
    (l.map write).mapM f = .ok l := by
  rw [mapM_eq_ok, forall₂_map_left_iff, forall₂_same]
  exact h

theorem mapM_agree {γ δ : Type} {view : α → γ} {shown : β → δ}
    (hstep : ∀ a b x y, view a = view b → f a = .ok x → f b = .ok y → shown x = shown y) :
    ∀ {l m : List α} {s t : List β}, l.map view = m.map view → l.mapM f = .ok s →
      m.mapM f = .ok t → s.map shown = t.map shown := by
  intro l m s t hview hl hm
  rw [mapM_eq_ok] at hl hm
  induction hl generalizing m t with
  | nil =>
    cases hm with
    | nil => rfl
    | cons _ _ => cases hview
  | cons ha _ ih =>
    cases hm with
    | nil => cases hview
    | cons hb hrest =>
      rw [map_cons, map_cons, List.cons.injEq] at hview
      rw [map_cons, map_cons, ih hview.2 hrest, hstep _ _ _ _ hview.1 ha hb]

end Lib.Result
