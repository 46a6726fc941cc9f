/-
Statements about every event of a log.

A log grows at its end. `Throughout P log` says that every event of the log meets `P` together
with what came before it; a log that grows by one event owes `P` of that event only.
-/
import Mathlib.Data.List.Basic

namespace Lib

open List

variable {α : Type*} {P Q : List α → α → Prop} {log : List α}

theorem mem_snoc {item last : α} (h : item ∈ log ++ [last]) : item ∈ log ∨ item = last :=
  (mem_append.mp h).imp id mem_singleton.mp

def Throughout (P : List α → α → Prop) (log : List α) : Prop :=
  ∀ before event after, log = before ++ event :: after → P before event

namespace Throughout

theorem nil : Throughout P [] := by
  intro before event after h
  simp at h

theorem snoc (h : Throughout P log) {event : α} (hevent : P log event) :
    Throughout P (log ++ [event]) := by
  intro before other after heq
  rcases eq_nil_or_concat' after with rfl | ⟨front, last, rfl⟩
  · -- the event is the last one
    obtain ⟨rfl, hlast⟩ := append_inj' heq rfl
    obtain rfl := singleton_injective hlast
    exact hevent
  · rw [← cons_append, ← append_assoc] at heq
    obtain ⟨hlog, -⟩ := append_inj' heq rfl
    exact h before other front hlog

end Throughout

/-- Once an event has met `P`, every later one meets `ok`. -/
def Since (P ok : α → Prop) (log : List α) : Prop :=
  ∀ before event after, log = before ++ event :: after → P event → ∀ later ∈ after, ok later

theorem Since.of_all {P ok : α → Prop} (h : ∀ event ∈ log, ok event) : Since P ok log := by
  intro before event after hlog _ later hlater
  apply h
  rw [hlog]
  exact mem_append_right _ (mem_cons_of_mem _ hlater)

end Lib
