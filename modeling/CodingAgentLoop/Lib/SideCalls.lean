/-
Calls that a computation makes on the side.

A dialogue over `Side Q S` asks two kinds of queries: main ones, whose answers it lives by, and
side ones, to an object with a state of its own. `serve` runs the object beside the dialogue: each
side query becomes a call of a method, which may ask queries of a third kind and answers with a
result or an exception.

`mute` is the dialogue whose side queries are all answered at once with success. An object whose
methods always succeed and ask no main query cannot be told from that (`served_hides`): what the
served dialogue asks on the main line, and how it ends, is what the muted one does. For a loop of
such dialogues this is a simulation (`Hides.loop`), so two served loops that the same world answers
make the same main calls and come to the same end (`RunWhere.quiet_end`).
-/
import CodingAgentLoop.Lib.Dialogue

namespace Lib

open List

/-! ## Deterministic runs -/

namespace RunWhere

variable {σ ε : Type} {step : σ → ε → σ → Prop} {ok : List ε → σ → ε → Prop} {s : σ}

/-- In every state, after every history, there is at most one step. -/
def Deterministic (step : σ → ε → σ → Prop) (ok : List ε → σ → ε → Prop) : Prop :=
  ∀ tr m e e' n n', ok tr m e → step m e n → ok tr m e' → step m e' n' → e = e' ∧ n = n'

theorem unique (hdet : Deterministic step ok) {tr tr' : List ε} {m m' : σ}
    (h : RunWhere step ok s tr m) (h' : RunWhere step ok s tr' m')
    (hlength : tr.length = tr'.length) : tr = tr' ∧ m = m' := by
  induction h generalizing tr' m' with
  | refl =>
    cases h' with
    | refl => exact ⟨rfl, rfl⟩
    | snoc _ _ _ => simp at hlength
  | @snoc tr n m e _ hok hstep ih =>
    cases h' with
    | refl => simp at hlength
    | @snoc tr' n' _ e' hrun' hok' hstep' =>
      simp only [length_append, length_singleton, Nat.add_right_cancel_iff] at hlength
      obtain ⟨rfl, rfl⟩ := ih hrun' hlength
      obtain ⟨rfl, rfl⟩ := hdet _ _ _ _ _ _ hok hstep hok' hstep'
      exact ⟨rfl, rfl⟩

/-- **A deterministic run that comes to rest is the beginning of every longer one**: from a state
that only silent steps leave, and only into itself, nothing more happens. -/
theorem quiet_end (hdet : Deterministic step ok) {silent : ε → Prop} {tr tr' : List ε} {m m' : σ}
    (hrest : ∀ e n, step m e n → silent e ∧ n = m) (h : RunWhere step ok s tr m)
    (h' : RunWhere step ok s tr' m') (hle : tr.length ≤ tr'.length) :
    ∃ later, tr' = tr ++ later ∧ (∀ e ∈ later, silent e) ∧ m' = m := by
  induction h' with
  | refl =>
    have hzero : tr.length = ([] : List ε).length := by simpa using hle
    obtain ⟨rfl, rfl⟩ := unique hdet h .refl hzero
    exact ⟨[], rfl, (fun e he => by cases he), rfl⟩
  | @snoc tr' n m' e hrun' hok' hstep' ih =>
    rcases Nat.lt_or_ge tr'.length tr.length with hlt | hge
    · have hlength : tr.length = (tr' ++ [e]).length := by
        simp only [length_append, length_singleton] at hle ⊢
        omega
      obtain ⟨rfl, rfl⟩ := unique hdet h (.snoc hrun' hok' hstep') hlength
      exact ⟨[], (append_nil _).symm, (fun e he => by cases he), rfl⟩
    · obtain ⟨later, rfl, hlater, rfl⟩ := ih hge
      obtain ⟨hsilent, rfl⟩ := hrest e m' hstep'
      refine ⟨later ++ [e], by rw [append_assoc], fun e' he' => ?_, rfl⟩
      rcases mem_append.mp he' with hold | hnew
      · exact hlater e' hold
      · rw [mem_singleton.mp hnew]
        exact hsilent

end RunWhere

/-! ## Two kinds of queries -/

/-- A query on the main line, or on the side. -/
inductive Side (Q S : Type) where
  | main (query : Q)
  | side (query : S)

abbrev Side.Answer {Q S : Type} (A : Q → Type) (B : S → Type) : Side Q S → Type
  | .main query => A query
  | .side query => B query

namespace Dialogue

variable {Q S T σ ε α β : Type} {A : Q → Type} {B : S → Type} {C : T → Type}

def mains (history : History (Side Q S) (Side.Answer A B)) : History Q A :=
  history.filterMap (fun told =>
    match told with
    | ⟨.main query, answer⟩ => some ⟨query, answer⟩
    | ⟨.side _, _⟩ => none)

theorem mains_append (first second : History (Side Q S) (Side.Answer A B)) :
    mains (first ++ second) = mains first ++ mains second :=
  filterMap_append

/-- The dialogue beside an object with state `σ`: a side query is a call of `method`. -/
def serve (method : (query : S) → σ → Dialogue (Side Q T) (Side.Answer A C) ε (B query × σ)) :
    Dialogue (Side Q S) (Side.Answer A B) ε α → σ →
      Dialogue (Side Q T) (Side.Answer A C) ε (α × σ)
  | .done value, state => .done (value, state)
  | .fail error, _ => .fail error
  | .ask (.main query) resume, state =>
    .ask (.main query) (fun answer => serve method (resume answer) state)
  | .ask (.side query) resume, state =>
    (method query state).bind (fun answered => serve method (resume answered.1) answered.2)

/-- The dialogue with every side query answered by `answer`. -/
def mute (answer : (query : S) → B query) :
    Dialogue (Side Q S) (Side.Answer A B) ε α → Dialogue Q A ε α
  | .done value => .done value
  | .fail error => .fail error
  | .ask (.main query) resume => .ask query (fun told => mute answer (resume told))
  | .ask (.side query) resume => mute answer (resume (answer query))

/-- A method that asks no main query and returns `answer`. -/
def Discreet {γ : Type} (answer : γ) : Dialogue (Side Q T) (Side.Answer A C) ε (γ × σ) → Prop
  | .done value => value.1 = answer
  | .fail _ => False
  | .ask (.main _) _ => False
  | .ask (.side _) resume => ∀ told, Discreet answer (resume told)

/-! ## Hiding -/

/-- The dialogue on the left does what the one on the right does, and asks side queries besides. -/
inductive Hides (agree : β → α → Prop) :
    Dialogue (Side Q T) (Side.Answer A C) ε β → Dialogue Q A ε α → Prop
  | done {value : β} {value' : α} (h : agree value value') : Hides agree (.done value) (.done value')
  | fail (error : ε) : Hides agree (.fail error) (.fail error)
  | main {query : Q} {resume : A query → Dialogue (Side Q T) (Side.Answer A C) ε β}
      {resume' : A query → Dialogue Q A ε α} (h : ∀ told, Hides agree (resume told) (resume' told)) :
      Hides agree (.ask (.main query) resume) (.ask query resume')
  | side {query : T} {resume : C query → Dialogue (Side Q T) (Side.Answer A C) ε β}
      {right : Dialogue Q A ε α} (h : ∀ told, Hides agree (resume told) right) :
      Hides agree (.ask (.side query) resume) right

variable {agree : β → α → Prop}

theorem Discreet.bind {γ : Type} {answer : γ}
    {method : Dialogue (Side Q T) (Side.Answer A C) ε (γ × σ)}
    {next : γ × σ → Dialogue (Side Q T) (Side.Answer A C) ε β} {right : Dialogue Q A ε α}
    (h : Discreet answer method) (hnext : ∀ state, Hides agree (next (answer, state)) right) :
    Hides agree (method.bind next) right := by
  induction method with
  | done value =>
    obtain ⟨told, state⟩ := value
    cases h
    exact hnext state
  | fail error => exact h.elim
  | ask query resume ih =>
    cases query with
    | main query => exact h.elim
    | side query => exact .side (fun told => ih told (h told))

/-- **Served by discreet methods, a dialogue does what it does muted.** -/
theorem served_hides
    {method : (query : S) → σ → Dialogue (Side Q T) (Side.Answer A C) ε (B query × σ)}
    {answer : (query : S) → B query} (hmethod : ∀ query state, Discreet (answer query)
      (method query state)) (dialogue : Dialogue (Side Q S) (Side.Answer A B) ε α) (state : σ) :
    Hides (fun served value => served.1 = value) (serve method dialogue state)
      (mute answer dialogue) := by
  induction dialogue generalizing state with
  | done value => exact .done rfl
  | fail error => exact .fail error
  | ask query resume ih =>
    cases query with
    | main query => exact .main (fun told => ih told state)
    | side query => exact (hmethod query state).bind (fun state' => ih _ state')

/-! ## The logic

A guarantee of the dialogue is one of the served dialogue when the object keeps a relation between
its state, what the dialogue has asked and what has been asked on its behalf. -/

section Serving

variable {method : (query : S) → σ → Dialogue (Side Q T) (Side.Answer A C) ε (B query × σ)}
  {kept : σ → History (Side Q S) (Side.Answer A B) → History (Side Q T) (Side.Answer A C) → Prop}
  {guard : History (Side Q S) (Side.Answer A B) → Side Q S → Prop}
  {guard' : History (Side Q T) (Side.Answer A C) → Side Q T → Prop}
  {post : History (Side Q S) (Side.Answer A B) → Except ε α → Prop}

def SideEnd {q : S}
    (kept : σ → History (Side Q S) (Side.Answer A B) → History (Side Q T) (Side.Answer A C) → Prop)
    (outer : History (Side Q S) (Side.Answer A B)) (inner : History (Side Q T) (Side.Answer A C)) :
    Except ε (B q × σ) → Prop
  | .ok (answer, state) => kept state (outer ++ [⟨.side q, answer⟩]) inner
  | .error _ => False

/-- The end of a served dialogue. -/
def Served
    (kept : σ → History (Side Q S) (Side.Answer A B) → History (Side Q T) (Side.Answer A C) → Prop)
    (post : History (Side Q S) (Side.Answer A B) → Except ε α → Prop)
    (inner : History (Side Q T) (Side.Answer A C)) : Except ε (α × σ) → Prop
  | .ok (value, state) => ∃ outer, kept state outer inner ∧ post outer (.ok value)
  | .error error => ∃ state outer, kept state outer inner ∧ post outer (.error error)

/-- The object keeps the relation, over main queries and over its own methods. -/
structure Keeps (method : (query : S) → σ → Dialogue (Side Q T) (Side.Answer A C) ε (B query × σ))
    (kept : σ → History (Side Q S) (Side.Answer A B) → History (Side Q T) (Side.Answer A C) → Prop)
    (guard : History (Side Q S) (Side.Answer A B) → Side Q S → Prop)
    (guard' : History (Side Q T) (Side.Answer A C) → Side Q T → Prop) : Prop where
  asks : ∀ state outer inner query, kept state outer inner → guard outer (.main query) →
    guard' inner (.main query)
  main : ∀ state outer inner query (answer : A query), kept state outer inner →
    guard outer (.main query) →
    kept state (outer ++ [⟨.main query, answer⟩]) (inner ++ [⟨.main query, answer⟩])
  side : ∀ state outer inner query, kept state outer inner → guard outer (.side query) →
    Meets (fun _ _ _ => True) guard' (SideEnd kept outer) (method query state) inner

/-- **The rule for serving.** -/
theorem Keeps.serve_meets (hkeeps : Keeps method kept guard guard')
    {dialogue : Dialogue (Side Q S) (Side.Answer A B) ε α} {state : σ}
    {outer : History (Side Q S) (Side.Answer A B)} {inner : History (Side Q T) (Side.Answer A C)}
    (h : Meets (fun _ _ _ => True) guard post dialogue outer) (hkept : kept state outer inner) :
    Meets (fun _ _ _ => True) guard' (Served kept post) (serve method dialogue state) inner := by
  induction dialogue generalizing state outer inner with
  | done value => exact ⟨outer, hkept, h⟩
  | fail error => exact ⟨state, outer, hkept, h⟩
  | ask query resume ih =>
    cases query with
    | main query =>
      refine ⟨hkeeps.asks _ _ _ _ hkept h.1, fun answer _ => ?_⟩
      exact ih answer (h.2 answer trivial) (hkeeps.main _ _ _ _ answer hkept h.1)
    | side query =>
      refine Meets.bind ((hkeeps.side _ _ _ _ hkept h.1).imp (fun inner' result hend => ?_))
      match result with
      | .ok (answer, state') => exact ih answer (h.2 answer trivial) hend
      | .error error => exact hend.elim

end Serving

/-! ## Loops -/

/-- The steps of a loop on the main line: a round starts, or a main query is answered. -/
def main_step : Option ((query : Side Q S) × Side.Answer A B query) →
    Option (Option ((query : Q) × A query))
  | none => some none
  | some ⟨.main query, answer⟩ => some (some ⟨query, answer⟩)
  | some ⟨.side _, _⟩ => none

theorem mains_reduceOption (steps : List (Option ((query : Side Q S) × Side.Answer A B query))) :
    mains steps.reduceOption = (steps.filterMap main_step).reduceOption := by
  induction steps with
  | nil => rfl
  | cons step rest ih =>
    cases step with
    | none => exact ih
    | some told =>
      obtain ⟨query, answer⟩ := told
      cases query with
      | main query => exact congrArg (⟨query, answer⟩ :: ·) ih
      | side query => exact ih

section

variable (world : History Q A → (query : Q) → A query)

/-- The main queries are answered as the world answers them after what it was asked before. -/
def Answered (earlier : List (Option ((query : Q) × A query))) (_ : Dialogue Q A ε α)
    (step : Option ((query : Q) × A query)) : Prop :=
  ∀ query answer, step = some ⟨query, answer⟩ → answer = world earlier.reduceOption query

/-- The same of a loop with side queries, which may be answered in any way. -/
def MainAnswered (earlier : List (Option ((query : Side Q T) × Side.Answer A C query)))
    (_ : Dialogue (Side Q T) (Side.Answer A C) ε β)
    (step : Option ((query : Side Q T) × Side.Answer A C query)) : Prop :=
  ∀ query answer, step = some ⟨.main query, answer⟩ →
    answer = world (mains earlier.reduceOption) query

theorem answered_deterministic (next : α → Dialogue Q A ε α) :
    RunWhere.Deterministic (LoopStep next) (Answered world) := by
  intro tr m e e' n n' hok hstep hok' hstep'
  cases hstep with
  | answered answer =>
    cases hstep' with
    | answered answer' =>
      have hanswer := hok _ _ rfl
      have hanswer' := hok' _ _ rfl
      rw [hanswer, hanswer']
      exact ⟨rfl, rfl⟩
  | looped =>
    cases hstep' with
    | looped => exact ⟨rfl, rfl⟩

end

/-- **A loop of dialogues that hide others runs as their loop**, its side steps left out. -/
theorem Hides.loop {served : β → Dialogue (Side Q T) (Side.Answer A C) ε β}
    {next : α → Dialogue Q A ε α} {world : History Q A → (query : Q) → A query}
    (hnext : ∀ value value', agree value value' → Hides agree (served value) (next value'))
    {start rest : Dialogue (Side Q T) (Side.Answer A C) ε β} {start' : Dialogue Q A ε α}
    (hstart : Hides agree start start')
    {steps : List (Option ((query : Side Q T) × Side.Answer A C query))}
    (hrun : RunWhere (LoopStep served) (MainAnswered world) start steps rest) :
    ∃ rest', RunWhere (LoopStep next) (Answered world) start' (steps.filterMap main_step) rest'
      ∧ Hides agree rest rest' := by
  induction hrun with
  | refl => exact ⟨start', .refl, hstart⟩
  | @snoc tr m s' e hbefore hok hstep ih =>
    obtain ⟨m', hrun', hhides⟩ := ih
    rw [filterMap_append]
    cases hstep with
    | looped =>
      cases hhides with
      | done hagree =>
        refine ⟨_, .snoc hrun' ?_ .looped, hnext _ _ hagree⟩
        intro query answer hnone
        cases hnone
    | @answered query resume answer =>
      cases query with
      | main query =>
        cases hhides with
        | @main _ _ resume' hmain =>
          have hanswered (told : A query) : LoopStep next (.ask query resume')
              (some ⟨query, told⟩) (resume' told) := .answered told
          refine ⟨_, .snoc hrun' ?_ (hanswered answer), hmain answer⟩
          intro asked told heq
          cases heq
          rw [hok query answer rfl, mains_reduceOption]
      | side query =>
        cases hhides with
        | side hside =>
          refine ⟨m', ?_, hside answer⟩
          simp only [filterMap_cons, main_step, filterMap_nil, append_nil]
          exact hrun'

/-- **Two served loops that one world answers agree.** When both are over, they have asked the same
main queries and stand at the same end. -/
theorem Hides.agree_end {served : β → Dialogue (Side Q T) (Side.Answer A C) ε β}
    {next : α → Dialogue Q A ε α} {world : History Q A → (query : Q) → A query}
    (hnext : ∀ value value', agree value value' → Hides agree (served value) (next value'))
    {start other : Dialogue (Side Q T) (Side.Answer A C) ε β} {start' : Dialogue Q A ε α}
    (hstart : Hides agree start start') (hother : Hides agree other start')
    {steps steps' : List (Option ((query : Side Q T) × Side.Answer A C query))} {value value' : β}
    (hrun : RunWhere (LoopStep served) (MainAnswered world) start steps (.done value))
    (hrun' : RunWhere (LoopStep served) (MainAnswered world) other steps' (.done value'))
    (hover : ∀ result, agree value result → next result = .done result)
    (hover' : ∀ result, agree value' result → next result = .done result) :
    mains steps.reduceOption = mains steps'.reduceOption
      ∧ ∃ result, agree value result ∧ agree value' result := by
  obtain ⟨rest, hmain, hhides⟩ := Hides.loop hnext hstart hrun
  obtain ⟨rest', hmain', hhides'⟩ := Hides.loop hnext hother hrun'
  cases hhides with
  | @done _ result hagree =>
  cases hhides' with
  | @done _ result' hagree' =>
  have hrests (result : α) (h : next result = .done result) (e : Option ((query : Q) × A query))
      (n : Dialogue Q A ε α) (hstep : LoopStep next (.done result) e n) :
      e = none ∧ n = .done result := by
    cases hstep with
    | looped => exact ⟨rfl, h⟩
  have hquiet (first second : List (Option ((query : Q) × A query)))
      (hlater : ∃ later, second = first ++ later ∧ ∀ e ∈ later, e = none) :
      first.reduceOption = second.reduceOption := by
    obtain ⟨later, rfl, hnone⟩ := hlater
    rw [reduceOption_append]
    have hempty : later.reduceOption = [] := filterMap_eq_nil_iff.mpr hnone
    rw [hempty, append_nil]
  rw [mains_reduceOption, mains_reduceOption]
  rcases Nat.le_total (steps.filterMap main_step).length (steps'.filterMap main_step).length
    with hle | hle
  · obtain ⟨later, hlater, hnone, hend⟩ := RunWhere.quiet_end (answered_deterministic world next)
      (hrests result (hover result hagree)) hmain hmain' hle
    cases hend
    exact ⟨hquiet _ _ ⟨later, hlater, hnone⟩, _, hagree, hagree'⟩
  · obtain ⟨later, hlater, hnone, hend⟩ := RunWhere.quiet_end (answered_deterministic world next)
      (hrests result' (hover' result' hagree')) hmain' hmain hle
    cases hend
    exact ⟨(hquiet _ _ ⟨later, hlater, hnone⟩).symm, _, hagree, hagree'⟩

end Dialogue

end Lib
