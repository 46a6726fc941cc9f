/-
Questions answered in order.

A log in which one party asks batches of calls and another answers them one by
one. The discipline is that a batch is answered completely, in the order it was
asked, before anything else is said. It is stated twice:

* `AnsweredInOrder` is the grammar: such a log is a sequence of remarks and of
  batches that are followed by their answers;
* `outstanding` reads a log from the left and keeps the calls that are still to be
  answered; it fails where the discipline is broken.

`outstanding_eq_some_iff` ties the two: what `outstanding` accepts is a log of the
grammar, up to one last batch whose first calls are answered.
-/
import Mathlib.Data.List.Induction

namespace Lib

variable {κ ι : Type}

/-- One entry of the log. -/
inductive Exchange (κ ι : Type) where
  | ask (calls : List κ)
  | answer (id : ι)
  | remark

namespace Exchange

def answers (key : κ → ι) (calls : List κ) : List (Exchange κ ι) :=
  calls.map (fun call => .answer (key call))

/-- Every batch is followed by its answers, in order, and nothing else is answered. -/
inductive AnsweredInOrder (key : κ → ι) : List (Exchange κ ι) → Prop where
  | nil : AnsweredInOrder key []
  | remark {log : List (Exchange κ ι)} (h : AnsweredInOrder key log) :
      AnsweredInOrder key (log ++ [.remark])
  | batch {log : List (Exchange κ ι)} (h : AnsweredInOrder key log) (calls : List κ) :
      AnsweredInOrder key (log ++ .ask calls :: answers key calls)

/-- A log of the grammar, up to a last batch whose calls `open_calls` have no answer yet. -/
inductive AnsweredExcept (key : κ → ι) (open_calls : List κ) : List (Exchange κ ι) → Prop where
  | settled {log : List (Exchange κ ι)} (h : AnsweredInOrder key log) (hnone : open_calls = []) :
      AnsweredExcept key open_calls log
  | batch {log : List (Exchange κ ι)} (h : AnsweredInOrder key log) (given : List κ) :
      AnsweredExcept key open_calls (log ++ .ask (given ++ open_calls) :: answers key given)

theorem AnsweredExcept.answered {key : κ → ι} {log : List (Exchange κ ι)}
    (h : AnsweredExcept key [] log) : AnsweredInOrder key log := by
  cases h with
  | settled h _ => exact h
  | batch h given =>
    rw [List.append_nil]
    exact .batch h given

/-! ## The reader -/

variable [DecidableEq ι]

/-- One entry read while `open_calls` wait for an answer. -/
def read (key : κ → ι) : List κ → Exchange κ ι → Option (List κ)
  | [], .ask calls => some calls
  | [], .remark => some []
  | call :: rest, .answer id => if key call = id then some rest else none
  | _, _ => none

def outstanding (key : κ → ι) (log : List (Exchange κ ι)) : Option (List κ) :=
  log.foldlM (read key) []

theorem outstanding_snoc (key : κ → ι) (log : List (Exchange κ ι)) (entry : Exchange κ ι) :
    outstanding key (log ++ [entry])
      = (outstanding key log).bind (fun open_calls => read key open_calls entry) := by
  unfold outstanding
  rw [List.foldlM_append]
  cases log.foldlM (read key) [] <;> simp

variable {log : List (Exchange κ ι)} {key : κ → ι}

theorem outstanding_ask (calls : List κ) (h : outstanding key log = some []) :
    outstanding key (log ++ [.ask calls]) = some calls := by
  rw [outstanding_snoc, h]
  rfl

theorem outstanding_answer {call : κ} {rest : List κ}
    (h : outstanding key log = some (call :: rest)) :
    outstanding key (log ++ [.answer (key call)]) = some rest := by
  rw [outstanding_snoc, h]
  simp [read]

/-- **What the reader accepts.** Read from the right: the last entry opened the batch that
is open now, or answered the first of its open calls. -/
theorem answered_of_outstanding {open_calls : List κ} (h : outstanding key log = some open_calls) :
    AnsweredExcept key open_calls log := by
  induction log using List.reverseRecOn generalizing open_calls with
  | nil =>
    have hnone : open_calls = [] := by simpa [outstanding, eq_comm] using h
    exact .settled .nil hnone
  | append_singleton log entry ih =>
    rw [outstanding_snoc, Option.bind_eq_some_iff] at h
    obtain ⟨before, hbefore, hread⟩ := h
    have hlog := ih hbefore
    cases before with
    | nil =>
      have hanswered : AnsweredInOrder key log := hlog.answered
      cases entry with
      | ask calls =>
        have hcalls : calls = open_calls := by simpa [read] using hread
        subst hcalls
        have hbatch : AnsweredExcept key calls _ := .batch hanswered []
        simpa [answers] using hbatch
      | answer id => simp [read] at hread
      | remark =>
        have hnone : open_calls = [] := by simpa [read, eq_comm] using hread
        exact .settled (.remark hanswered) hnone
    | cons call rest =>
      cases entry with
      | ask calls => simp [read] at hread
      | remark => simp [read] at hread
      | answer id =>
        simp only [read, Option.ite_none_right_eq_some, Option.some.injEq] at hread
        obtain ⟨hid, hrest⟩ := hread
        subst hid hrest
        cases hlog with
        | settled _ hnone => exact absurd hnone (List.cons_ne_nil _ _)
        | batch hsettled given =>
          -- the answered call moves from the open ones to the given ones
          have hbatch : AnsweredExcept key rest _ := .batch hsettled (given ++ [call])
          simpa [answers] using hbatch

theorem outstanding_batch (h : outstanding key log = some []) (given rest : List κ) :
    outstanding key (log ++ .ask (given ++ rest) :: answers key given) = some rest := by
  induction given using List.reverseRecOn generalizing rest with
  | nil => exact outstanding_ask rest h
  | append_singleton given call ih =>
    have hopen := ih (call :: rest)
    have hread := outstanding_answer hopen
    simpa [answers] using hread

theorem outstanding_of_answered (h : AnsweredInOrder key log) : outstanding key log = some [] := by
  induction h with
  | nil => rfl
  | remark _ ih =>
    rw [outstanding_snoc, ih]
    rfl
  | batch _ calls ih =>
    have hbatch := outstanding_batch ih calls []
    rwa [List.append_nil] at hbatch

/-- **The reader and the grammar agree** on which calls are open. -/
theorem outstanding_eq_some_iff {open_calls : List κ} :
    outstanding key log = some open_calls ↔ AnsweredExcept key open_calls log := by
  constructor
  · exact answered_of_outstanding
  · intro h
    cases h with
    | settled hanswered hnone =>
      rw [hnone]
      exact outstanding_of_answered hanswered
    | batch hanswered given =>
      exact outstanding_batch (outstanding_of_answered hanswered) given open_calls

theorem AnsweredExcept.unique {calls calls' : List κ} (h : AnsweredExcept key calls log)
    (h' : AnsweredExcept key calls' log) : calls = calls' := by
  have hread := outstanding_eq_some_iff.mpr h
  have hread' := outstanding_eq_some_iff.mpr h'
  rw [hread, Option.some.injEq] at hread'
  exact hread'

end Exchange

end Lib
