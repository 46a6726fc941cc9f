/-
The order in which independent actions run.

`run` folds actions that may fail over a state. Two orders of the same actions lead to the same
state when each pair that stands the other way round commutes: `run_reordered`. Actions on a store
with cells that each have their own cell commute unless they share it and one of them writes:
`Footprint.commute`.
-/
import Mathlib.Data.List.Perm.Basic

namespace Lib.Reordering

open List

variable {τ σ : Type}

/-- The actions of a list, one after another; the first that fails ends the run. -/
def run (act : τ → σ → Option σ) : List τ → σ → Option σ
  | [], state => some state
  | task :: rest, state => (act task state).bind (run act rest)

variable {act : τ → σ → Option σ}

def Commute (act : τ → σ → Option σ) (x y : τ) : Prop :=
  ∀ state, (act x state).bind (act y) = (act y state).bind (act x)

theorem run_append (earlier later : List τ) (state : σ) :
    run act (earlier ++ later) state = (run act earlier state).bind (run act later) := by
  induction earlier generalizing state with
  | nil => rfl
  | cons task rest ih =>
    rw [cons_append, run, run, Option.bind_assoc]
    congr 1
    funext state'
    exact ih state'

theorem run_moved {task : τ} {earlier : List τ} (hcommute : ∀ other ∈ earlier, Commute act other task)
    (later : List τ) (state : σ) :
    run act (earlier ++ task :: later) state = run act (task :: (earlier ++ later)) state := by
  induction earlier generalizing state with
  | nil => rfl
  | cons other rest ih =>
    have hrest := ih fun other' hmem => hcommute other' (mem_cons_of_mem _ hmem)
    have hswap := hcommute other mem_cons_self state
    calc run act (other :: rest ++ task :: later) state
        = (act other state).bind (run act (rest ++ task :: later)) := rfl
      _ = (act other state).bind (run act (task :: (rest ++ later))) := by rw [funext hrest]
      _ = ((act other state).bind (act task)).bind (run act (rest ++ later)) := by
          rw [Option.bind_assoc]
          rfl
      _ = ((act task state).bind (act other)).bind (run act (rest ++ later)) := by rw [hswap]
      _ = (act task state).bind (run act (other :: (rest ++ later))) := by
          rw [Option.bind_assoc]
          rfl

/-- Two orders of the same actions lead to the same state, when each pair that stands the other way
round commutes. `before` is the first order. -/
theorem run_reordered {before : τ → τ → Prop} {first second : List τ} (hperm : first.Perm second)
    (hfirst : first.Pairwise before)
    (hsecond : second.Pairwise (fun x y => before y x → Commute act x y)) (state : σ) :
    run act first state = run act second state := by
  induction first generalizing second state with
  | nil => rw [hperm.nil_eq]
  | cons task rest ih =>
    obtain ⟨htask, hrest⟩ := pairwise_cons.mp hfirst
    -- what `second` runs before `task` comes later in `first`, so it commutes with `task`
    obtain ⟨earlier, later, rfl⟩ :=
      append_of_mem (hperm.mem_iff.mp mem_cons_self)
    have hperm_rest : rest.Perm (earlier ++ later) :=
      (hperm.trans perm_middle).cons_inv
    have hcommute : ∀ other ∈ earlier, Commute act other task := by
      intro other hmem
      have hbefore := htask other (hperm_rest.mem_iff.mpr (mem_append_left _ hmem))
      exact (pairwise_append.mp hsecond).2.2 other hmem task mem_cons_self hbefore
    have hsecond_rest := hsecond.sublist
      ((List.Sublist.refl earlier).append (sublist_cons_self task later))
    rw [run_moved hcommute, run, run]
    congr 1
    funext state'
    exact ih hperm_rest hrest hsecond_rest state'

/-! ## Actions on cells -/

section Footprint

variable {κ ν ρ : Type}

def recorded (perform : τ → (κ → ν) → Option (ρ × (κ → ν))) (item : Nat × τ)
    (state : (Nat → Option ρ) × (κ → ν)) : Option ((Nat → Option ρ) × (κ → ν)) :=
  (perform item.2 state.2).map fun done => (Function.update state.1 item.1 (some done.1), done.2)

def Clash (cell : τ → Option κ) (writes : τ → Bool) (x y : τ) : Prop :=
  (∃ key, cell x = some key ∧ cell y = some key) ∧ (writes x = true ∨ writes y = true)

variable {cell : τ → Option κ} {writes : τ → Bool} {perform : τ → (κ → ν) → Option (ρ × (κ → ν))}

theorem recorded_bind (x y : Nat × τ) (results : Nat → Option ρ) (store : κ → ν) :
    (recorded perform x (results, store)).bind (recorded perform y)
      = (perform x.2 store).bind fun done => (perform y.2 done.2).map fun done' =>
          (Function.update (Function.update results x.1 (some done.1)) y.1 (some done'.1), done'.2) := by
  unfold recorded
  rw [Option.bind_map]
  rfl

variable [DecidableEq κ]

/-- `perform` gives a result and a store, or fails. A task reads and changes its own cell only, one
that does not write changes nothing, and one without a cell neither reads nor changes the store. -/
structure Footprint (cell : τ → Option κ) (writes : τ → Bool)
    (perform : τ → (κ → ν) → Option (ρ × (κ → ν))) : Prop where
  own : ∀ task key, cell task = some key → ∃ alone : ν → Option (ρ × ν), ∀ store,
    perform task store
      = (alone (store key)).map fun done => (done.1, Function.update store key done.2)
  leaves : ∀ task store done, writes task = false → perform task store = some done → done.2 = store
  apart : ∀ task, cell task = none → ∃ outcome : Option ρ, ∀ store,
    perform task store = outcome.map fun result => (result, store)

theorem Footprint.map_result {ρ' : Type} (h : Footprint cell writes perform) (f : ρ → ρ') :
    Footprint cell writes fun task store =>
      (perform task store).map fun done => (f done.1, done.2) where
  own := by
    intro task key hcell
    obtain ⟨alone, halone⟩ := h.own task key hcell
    refine ⟨fun value => (alone value).map fun done => (f done.1, done.2), fun store => ?_⟩
    rw [halone, Option.map_map, Option.map_map]
    rfl
  leaves := by
    intro task store done hwrites hdone
    obtain ⟨done', hdone', rfl⟩ := Option.map_eq_some_iff.mp hdone
    exact h.leaves task store done' hwrites hdone'
  apart := by
    intro task hcell
    obtain ⟨outcome, houtcome⟩ := h.apart task hcell
    refine ⟨outcome.map f, fun store => ?_⟩
    rw [houtcome, Option.map_map, Option.map_map]
    rfl

theorem Footprint.commute (h : Footprint cell writes perform) {x y : Nat × τ} (hne : x.1 ≠ y.1)
    (hclash : ¬ Clash cell writes x.2 y.2) : Commute (recorded perform) x y := by
  rintro ⟨results, store⟩
  rw [recorded_bind, recorded_bind]
  have hresults (a b : Option ρ) : Function.update (Function.update results x.1 a) y.1 b
      = Function.update (Function.update results y.1 b) x.1 a := Function.update_comm hne a b results
  by_cases hwrites : writes x.2 = true ∨ writes y.2 = true
  · cases hx : cell x.2 with
    | none =>
      obtain ⟨outcome, houtcome⟩ := h.apart x.2 hx
      cases outcome with
      | none => simp [houtcome]
      | some result =>
        cases hdone : perform y.2 store <;> simp [houtcome, hdone, hresults]
    | some key =>
      obtain ⟨alone, halone⟩ := h.own x.2 key hx
      cases hy : cell y.2 with
      | none =>
        obtain ⟨outcome, houtcome⟩ := h.apart y.2 hy
        cases outcome with
        | none => simp [houtcome]
        | some result =>
          cases hdone : perform x.2 store <;> simp [houtcome, hdone, hresults]
      | some key' =>
        obtain ⟨alone', halone'⟩ := h.own y.2 key' hy
        have hkeys : key ≠ key' := by
          rintro rfl
          exact hclash ⟨⟨key, hx, hy⟩, hwrites⟩
        -- each finds its own cell as it was, and the two cells are written in either order
        cases hmine : alone (store key) <;> cases hother : alone' (store key') <;>
          simp [halone, halone', hmine, hother, hresults, Function.update_of_ne hkeys,
            Function.update_of_ne hkeys.symm, Function.update_comm hkeys]
  · rw [not_or, Bool.not_eq_true, Bool.not_eq_true] at hwrites
    cases hmine : perform x.2 store with
    | none => cases hother : perform y.2 store with
      | none => rfl
      | some done' => simp [h.leaves y.2 store done' hwrites.2 hother, hmine]
    | some done => cases hother : perform y.2 store with
      | none => simp [h.leaves x.2 store done hwrites.1 hmine, hother]
      | some done' =>
        simp [h.leaves x.2 store done hwrites.1 hmine, h.leaves y.2 store done' hwrites.2 hother,
          hmine, hother, hresults]

end Footprint

end Lib.Reordering
