/-
Runs of a labelled transition relation and their rules.

A system is a relation `step s e s'` between states, labelled by the event `e`
the step shows to the outside. A run is a list of events together with the
states it leads between; runs grow at the end, so a claim about a history is
proved by looking at its last event only. The rules are the usual ones:

* `Run.invariant` -- what holds initially and is preserved by a step holds after
  every run; `Run.invariant_where` lets the step use an assumption that every
  event of the run meets;
* `Run.history` -- the same for a statement about the whole history;
* `Run.split` -- a run through an event passes through the states around it;
* `RunWhere.history` -- the history rule for runs whose steps meet a condition.
-/
import CodingAgentLoop.Lib.History
import Mathlib.Data.List.Chain
import Mathlib.Data.List.Nodup

namespace Lib

open List

variable {σ ε : Type*}

/-- `Run step s tr s'`: the events `tr`, in order, lead from `s` to `s'`. -/
inductive Run (step : σ → ε → σ → Prop) (s : σ) : List ε → σ → Prop
  | refl : Run step s [] s
  | snoc {tr : List ε} {m s' : σ} {e : ε} :
      Run step s tr m → step m e s' → Run step s (tr ++ [e]) s'

namespace Run

variable {step : σ → ε → σ → Prop} {s m s' : σ} {tr tr₁ tr₂ : List ε} {e : ε}

theorem single (h : step s e s') : Run step s [e] s' := by
  have hrun : Run step s ([] ++ [e]) s' := snoc refl h
  simpa using hrun

theorem append (h₁ : Run step s tr₁ m) (h₂ : Run step m tr₂ s') :
    Run step s (tr₁ ++ tr₂) s' := by
  induction h₂ with
  | refl => simpa using h₁
  | snoc _ hstep ih =>
    rw [← append_assoc]
    exact snoc ih hstep

theorem of_append (h : Run step s (tr₁ ++ tr₂) s') :
    ∃ m, Run step s tr₁ m ∧ Run step m tr₂ s' := by
  induction tr₂ using List.reverseRecOn generalizing s' with
  | nil =>
    rw [append_nil] at h
    exact ⟨s', h, refl⟩
  | append_singleton tr₂ e ih =>
    rw [← append_assoc] at h
    generalize hfull : tr₁ ++ tr₂ ++ [e] = full at h
    cases h with
    | refl => simp at hfull
    | snoc hrun hstep =>
      obtain ⟨htr, he⟩ := append_inj' hfull rfl
      cases he
      subst htr
      obtain ⟨m, h₁, h₂⟩ := ih hrun
      exact ⟨m, h₁, snoc h₂ hstep⟩

theorem of_single (h : Run step s [e] s') : step s e s' := by
  generalize hfull : [e] = full at h
  cases h with
  | refl => cases hfull
  | snoc hrun hstep =>
    rename_i tr m e'
    have hnil : tr = [] := by
      cases tr with
      | nil => rfl
      | cons a rest => simp at hfull
    subst hnil
    cases hfull
    generalize hempty : ([] : List ε) = empty at hrun
    cases hrun with
    | refl => exact hstep
    | snoc _ _ => simp at hempty

theorem split (h : Run step s (tr₁ ++ e :: tr₂) s') :
    ∃ before after, Run step s tr₁ before ∧ step before e after ∧ Run step after tr₂ s' := by
  rw [← singleton_append] at h
  obtain ⟨before, h₁, hrest⟩ := of_append h
  obtain ⟨after, h₂, h₃⟩ := of_append hrest
  exact ⟨before, after, h₁, of_single h₂, h₃⟩

theorem of_mem (h : Run step s tr s') (he : e ∈ tr) :
    ∃ before after, ∃ earlier, Run step s earlier before ∧ step before e after := by
  obtain ⟨earlier, later, rfl⟩ := append_of_mem he
  obtain ⟨before, after, hrun, hstep, _⟩ := h.split
  exact ⟨before, after, earlier, hrun, hstep⟩

/-! ## Induction rules -/

theorem history {P : List ε → σ → Prop} (h : Run step s tr s') (hinit : P [] s)
    (hstep : ∀ tr m e m', Run step s tr m → P tr m → step m e m' → P (tr ++ [e]) m') :
    P tr s' := by
  induction h with
  | refl => exact hinit
  | snoc hrun hst ih => exact hstep _ _ _ _ hrun ih hst

theorem history_where {P : List ε → σ → Prop} {Ok : ε → Prop} (h : Run step s tr s')
    (hok : ∀ e ∈ tr, Ok e) (hinit : P [] s)
    (hstep : ∀ tr m e m', Run step s tr m → P tr m → Ok e → step m e m' → P (tr ++ [e]) m') :
    P tr s' := by
  induction h with
  | refl => exact hinit
  | snoc hrun hst ih =>
    have hpre := ih (fun e he => hok e (mem_append_left _ he))
    exact hstep _ _ _ _ hrun hpre (hok _ (mem_append_right _ mem_cons_self)) hst

theorem invariant_where {I : σ → Prop} {Ok : ε → Prop} (h : Run step s tr s')
    (hok : ∀ e ∈ tr, Ok e) (hinit : I s)
    (hstep : ∀ m e m', I m → Ok e → step m e m' → I m') : I s' :=
  history_where (P := fun _ m => I m) h hok hinit
    (fun _ m e m' _ hI he hst => hstep m e m' hI he hst)

theorem invariant {I : σ → Prop} (h : Run step s tr s') (hinit : I s)
    (hstep : ∀ m e m', I m → step m e m' → I m') : I s' :=
  invariant_where h (fun _ _ => True.intro) hinit
    (fun m e m' hI _ hst => hstep m e m' hI hst)

end Run

/-! ## Runs whose steps are as they should be

A condition on a step may look at the history so far and at the state the step is taken in. -/

/-- A run every step of which meets `ok`. -/
inductive RunWhere (step : σ → ε → σ → Prop) (ok : List ε → σ → ε → Prop) (s : σ) :
    List ε → σ → Prop
  | refl : RunWhere step ok s [] s
  | snoc {tr : List ε} {m s' : σ} {e : ε} :
      RunWhere step ok s tr m → ok tr m e → step m e s' → RunWhere step ok s (tr ++ [e]) s'

namespace RunWhere

variable {step : σ → ε → σ → Prop} {ok : List ε → σ → ε → Prop} {s s' : σ} {tr : List ε}

theorem run (h : RunWhere step ok s tr s') : Run step s tr s' := by
  induction h with
  | refl => exact .refl
  | snoc _ _ hstep ih => exact .snoc ih hstep

theorem last {e : ε} (h : RunWhere step ok s (tr ++ [e]) s') :
    ∃ m, RunWhere step ok s tr m ∧ ok tr m e ∧ step m e s' := by
  generalize hfull : tr ++ [e] = full at h
  cases h with
  | refl => simp at hfull
  | snoc hrun hok hstep =>
    obtain ⟨rfl, hlast⟩ := append_inj' hfull rfl
    obtain rfl := singleton_injective hlast
    exact ⟨_, hrun, hok, hstep⟩

theorem of_run (h : Run step s tr s') (hok : ∀ e ∈ tr, ∀ earlier m, ok earlier m e) :
    RunWhere step ok s tr s' := by
  induction h with
  | refl => exact .refl
  | @snoc tr m s' e _ hstep ih =>
    have hbefore := ih (fun e he => hok e (mem_append_left _ he))
    exact .snoc hbefore (hok e (mem_append_right _ mem_cons_self) tr m) hstep

theorem history {P : List ε → σ → Prop} (h : RunWhere step ok s tr s') (hinit : P [] s)
    (hstep : ∀ tr m e m', Run step s tr m → P tr m → ok tr m e → step m e m' →
      P (tr ++ [e]) m') : P tr s' := by
  induction h with
  | refl => exact hinit
  | snoc hrun hok hst ih => exact hstep _ _ _ _ hrun.run ih hok hst

end RunWhere

/-! ## Paths

A history of values is a path of a relation when it is empty or starts at an
initial value and each later value is reached from the one before it. -/

/-- `Path init edge l`: `l` starts at an initial value and follows `edge`. -/
def Path {α : Type*} (init : α → Prop) (edge : α → α → Prop) (l : List α) : Prop :=
  (∀ a ∈ l.head?, init a) ∧ l.IsChain edge

namespace Path

variable {α : Type*} {init : α → Prop} {edge : α → α → Prop}

theorem nil : Path init edge [] := ⟨by simp, isChain_nil⟩

theorem snoc {l : List α} {a : α} (h : Path init edge l) (hstep : match l.getLast? with
      | none => init a
      | some b => edge b a) : Path init edge (l ++ [a]) := by
  rcases eq_nil_or_concat l with rfl | ⟨front, b, rfl⟩
  · refine ⟨?_, isChain_singleton a⟩
    intro x hx
    simp only [nil_append, List.head?_cons, Option.mem_some_iff] at hx
    subst hx
    simpa using hstep
  · have hlast : edge b a := by simpa using hstep
    refine ⟨?_, ?_⟩
    · intro x hx
      refine h.1 x ?_
      cases front with
      | nil => simpa using hx
      | cons c rest => simpa using hx
    · rw [isChain_append]
      refine ⟨h.2, isChain_singleton a, ?_⟩
      intro x hx y hy
      simp at hx hy
      subst hx
      subst hy
      exact hlast

theorem nodup_of_rank {l : List α} (rank : α → Nat) (h : Path init edge l)
    (hrank : ∀ a b, edge a b → rank a < rank b) : l.Nodup := by
  have hsorted : (l.map rank).IsChain (· < ·) := by
    rw [isChain_map]
    exact h.2.imp (fun a b hab => hrank a b hab)
  have hpair : (l.map rank).Pairwise (· < ·) := isChain_iff_pairwise.mp hsorted
  exact List.Nodup.of_map rank (hpair.imp (fun hab => Nat.ne_of_lt hab))

theorem getLast_of_terminal {l : List α} {a : α} (h : Path init edge l) (hmem : a ∈ l)
    (hterminal : ∀ b, ¬ edge a b) : l.getLast? = some a := by
  obtain ⟨front, back, rfl⟩ := append_of_mem hmem
  cases back with
  | nil => simp
  | cons b rest =>
    have hchain := (isChain_append.mp h.2).2.1
    rw [isChain_cons_cons] at hchain
    exact absurd hchain.1 (hterminal b)

end Path

end Lib
