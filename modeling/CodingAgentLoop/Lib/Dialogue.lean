/-
Computations that ask their environment and wait for answers.

An asynchronous function runs alone until it awaits something, and by the time it is
resumed the world may have changed. A `Dialogue` is such a function: it is done, has
failed, or asks a query and says how it goes on for each answer. Nothing is assumed
about who answers or when, so the same dialogue can be run alone, among others, or be
abandoned at a query.

`Meets` is its rely-guarantee logic. From a history of answered queries, and as long
as every answer satisfies `rely`, each query the dialogue asks satisfies `guard` and
its end satisfies `post`. All three may look at the history. `Meets.bind` and `Meets.handle` are the rules by which a sequence is taken apart.
`Always` is the same without histories, for the parts of a dialogue that only ask
harmless queries; `Always.meets` leads from it into the logic. A dialogue that is run
again and again is a loop, and `loop_meets` its rule.
-/
import CodingAgentLoop.Lib.Transition
import Mathlib.Data.List.ReduceOption

namespace Lib

open List

variable {Q : Type} {A : Q → Type} {ε α β : Type}

/-- A computation that awaits answers `A q` to queries `q`. -/
inductive Dialogue (Q : Type) (A : Q → Type) (ε α : Type) where
  | done (value : α)
  | fail (error : ε)
  | ask (query : Q) (resume : A query → Dialogue Q A ε α)

namespace Dialogue

abbrev History (Q : Type) (A : Q → Type) := List ((query : Q) × A query)

def bind : Dialogue Q A ε α → (α → Dialogue Q A ε β) → Dialogue Q A ε β
  | .done value, f => f value
  | .fail error, _ => .fail error
  | .ask query resume, f => .ask query (fun answer => (resume answer).bind f)

instance : Monad (Dialogue Q A ε) where
  pure := .done
  bind := bind

def await (query : Q) : Dialogue Q A ε (A query) := .ask query .done

def lift : Except ε α → Dialogue Q A ε α
  | .ok value => .done value
  | .error error => .fail error

/-- `try: ... except: handler`. -/
def handle (handler : ε → Dialogue Q A ε α) : Dialogue Q A ε α → Dialogue Q A ε α
  | .done value => .done value
  | .fail error => handler error
  | .ask query resume => .ask query (fun answer => handle handler (resume answer))

/-! ## The logic -/

/-- Under answers that satisfy `rely`, every query satisfies `guard` and the end `post`. -/
def Meets (rely : History Q A → (query : Q) → A query → Prop)
    (guard : History Q A → Q → Prop) (post : History Q A → Except ε α → Prop) :
    Dialogue Q A ε α → History Q A → Prop
  | .done value, history => post history (.ok value)
  | .fail error, history => post history (.error error)
  | .ask query resume, history =>
    guard history query ∧ ∀ answer, rely history query answer →
      Meets rely guard post (resume answer) (history ++ [⟨query, answer⟩])

variable {rely : History Q A → (query : Q) → A query → Prop} {guard : History Q A → Q → Prop}

variable {history : History Q A} {dialogue : Dialogue Q A ε α}

theorem Meets.imp {post post' : History Q A → Except ε α → Prop}
    (h : Meets rely guard post dialogue history)
    (himp : ∀ history result, post history result → post' history result) :
    Meets rely guard post' dialogue history := by
  induction dialogue generalizing history with
  | done value => exact himp _ _ h
  | fail error => exact himp _ _ h
  | ask query resume ih => exact ⟨h.1, fun answer hrely => ih answer (h.2 answer hrely)⟩

variable {post : History Q A → Except ε α → Prop}

theorem Meets.guard_imp {guard' : History Q A → Q → Prop}
    (h : Meets rely guard post dialogue history)
    (himp : ∀ history query, guard history query → guard' history query) :
    Meets rely guard' post dialogue history := by
  induction dialogue generalizing history with
  | done value => exact h
  | fail error => exact h
  | ask query resume ih => exact ⟨himp _ _ h.1, fun answer hrely => ih answer (h.2 answer hrely)⟩

variable {next : α → Dialogue Q A ε β} {first : Dialogue Q A ε α}

theorem Meets.bind {post : History Q A → Except ε β → Prop}
    (h : Meets rely guard (fun history result =>
      match result with
      | .ok value => Meets rely guard post (next value) history
      | .error error => post history (.error error)) first history) :
    Meets rely guard post (first >>= next) history := by
  induction first generalizing history with
  | done value => exact h
  | fail error => exact h
  | ask query resume ih => exact ⟨h.1, fun answer hrely => ih answer (h.2 answer hrely)⟩

theorem Meets.handle {body : Dialogue Q A ε α} {handler : ε → Dialogue Q A ε α}
    (h : Meets rely guard (fun history result =>
      match result with
      | .ok value => post history (.ok value)
      | .error error => Meets rely guard post (handler error) history) body history) :
    Meets rely guard post (body.handle handler) history := by
  induction body generalizing history with
  | done value => exact h
  | fail error => exact h
  | ask query resume ih => exact ⟨h.1, fun answer hrely => ih answer (h.2 answer hrely)⟩

theorem Meets.handle_bind {post : History Q A → Except ε β → Prop} {handler : ε → Dialogue Q A ε β}
    (h : Meets rely guard (fun history result =>
      match result with
      | .ok value => Meets rely guard post ((next value).handle handler) history
      | .error error => Meets rely guard post (handler error) history) first history) :
    Meets rely guard post ((first >>= next).handle handler) history := by
  induction first generalizing history with
  | done value => exact h
  | fail error => exact h
  | ask query resume ih => exact ⟨h.1, fun answer hrely => ih answer (h.2 answer hrely)⟩

variable {result : Except ε α}

theorem Meets.lift (h : post history result) :
    Meets rely guard post (lift result) history := by
  cases result with
  | ok value => exact h
  | error error => exact h

variable {query : Q}

theorem Meets.await_bind {post : History Q A → Except ε β → Prop}
    {next : A query → Dialogue Q A ε β} (hguard : guard history query)
    (h : ∀ answer, rely history query answer →
      Meets rely guard post (next answer) (history ++ [⟨query, answer⟩])) :
    Meets rely guard post (Dialogue.await query >>= next) history :=
  ⟨hguard, h⟩

theorem Meets.lift_bind {post : History Q A → Except ε β → Prop}
    (hok : ∀ value, result = .ok value → Meets rely guard post (next value) history)
    (herror : ∀ error, result = .error error → post history (.error error)) :
    Meets rely guard post (Dialogue.lift result >>= next) history := by
  cases result with
  | ok value => exact hok value rfl
  | error error => exact herror error rfl

/-! ## Queries whatever was answered -/

/-- Whatever is answered, every query satisfies `asks` and a returned value `returns`. -/
def Always (asks : Q → Prop) (returns : α → Prop) : Dialogue Q A ε α → Prop
  | .done value => returns value
  | .fail _ => True
  | .ask query resume => asks query ∧ ∀ answer, Always asks returns (resume answer)

variable {asks : Q → Prop}

theorem always_trivial (dialogue : Dialogue Q A ε α) :
    Always (fun _ => True) (fun _ => True) dialogue := by
  induction dialogue with
  | done value => trivial
  | fail error => trivial
  | ask query resume ih => exact ⟨trivial, ih⟩

theorem Always.imp {returns returns' : α → Prop} (h : Always asks returns dialogue)
    (himp : ∀ value, returns value → returns' value) :
    Always asks returns' dialogue := by
  induction dialogue with
  | done value => exact himp value h
  | fail error => trivial
  | ask query resume ih => exact ⟨h.1, fun answer => ih answer (h.2 answer)⟩

theorem Always.bind {middle : α → Prop} {returns : β → Prop} (h : Always asks middle first)
    (hnext : ∀ value, middle value → Always asks returns (next value)) :
    Always asks returns (first >>= next) := by
  induction first with
  | done value => exact hnext value h
  | fail error => trivial
  | ask query resume ih => exact ⟨h.1, fun answer => ih answer (h.2 answer)⟩

variable {returns : α → Prop}

theorem Always.handle {body : Dialogue Q A ε α} {handler : ε → Dialogue Q A ε α}
    (h : Always asks returns body) (hhandler : ∀ error, Always asks returns (handler error)) :
    Always asks returns (body.handle handler) := by
  induction body with
  | done value => exact h
  | fail error => exact hhandler error
  | ask query resume ih => exact ⟨h.1, fun answer => ih answer (h.2 answer)⟩

theorem Always.lift (h : ∀ value, result = .ok value → returns value) :
    Always asks returns (lift result : Dialogue Q A ε α) := by
  cases result with
  | ok value => exact h value rfl
  | error error => trivial

theorem Always.await {returns : A query → Prop} (hasks : asks query)
    (h : ∀ answer, returns answer) :
    Always asks returns (await query : Dialogue Q A ε (A query)) :=
  ⟨hasks, h⟩

theorem Always.await_bind {returns : β → Prop} {next : A query → Dialogue Q A ε β}
    (hasks : asks query) (h : ∀ answer, Always asks returns (next answer)) :
    Always asks returns (Dialogue.await query >>= next) :=
  ⟨hasks, h⟩

theorem Always.lift_bind {returns : β → Prop}
    (h : ∀ value, result = .ok value → Always asks returns (next value)) :
    Always asks returns (Dialogue.lift result >>= next) := by
  cases result with
  | ok value => exact h value rfl
  | error error => trivial

/-- A dialogue that always asks and returns so meets every guarantee that follows from it: behind
its own queries, whatever they were answered, a query it may ask is guarded and its end is met. -/
theorem Always.meets_asked (h : Always asks returns dialogue)
    (hguard : ∀ asked : History Q A, (∀ told ∈ asked, asks told.1) → ∀ query, asks query →
      guard (history ++ asked) query)
    (hok : ∀ asked : History Q A, (∀ told ∈ asked, asks told.1) → ∀ value, returns value →
      post (history ++ asked) (.ok value))
    (herror : ∀ asked : History Q A, (∀ told ∈ asked, asks told.1) → ∀ error,
      post (history ++ asked) (.error error)) :
    Meets rely guard post dialogue history := by
  have hnone : ∀ told ∈ ([] : History Q A), asks told.1 := fun told htold => by cases htold
  induction dialogue generalizing history with
  | done value =>
    have hend := hok [] hnone value h
    rwa [append_nil] at hend
  | fail error =>
    have hend := herror [] hnone error
    rwa [append_nil] at hend
  | ask query resume ih =>
    have hstart := hguard [] hnone query h.1
    rw [append_nil] at hstart
    refine ⟨hstart, fun answer _ => ?_⟩
    -- what is asked behind the answer was asked behind this query and that
    have hcons : ∀ asked : History Q A, (∀ told ∈ asked, asks told.1) →
        ∀ told ∈ (⟨query, answer⟩ :: asked : History Q A), asks told.1 := by
      intro asked hasked told htold
      rcases mem_cons.mp htold with rfl | hrest
      · exact h.1
      · exact hasked told hrest
    refine ih answer (h.2 answer) ?_ ?_ ?_
    · intro asked hasked next hnext
      rw [append_assoc]
      exact hguard _ (hcons asked hasked) next hnext
    · intro asked hasked value hvalue
      rw [append_assoc]
      exact hok _ (hcons asked hasked) value hvalue
    · intro asked hasked error
      rw [append_assoc]
      exact herror _ (hcons asked hasked) error

/-- The same, for what follows whatever was asked: the history at the end extends the one at the
start. -/
theorem Always.meets (h : Always asks returns dialogue)
    (hguard : ∀ later query, history <+: later → asks query → guard later query)
    (hok : ∀ later value, history <+: later → returns value → post later (.ok value))
    (herror : ∀ later error, history <+: later → post later (.error error)) :
    Meets rely guard post dialogue history :=
  h.meets_asked (fun asked _ query => hguard _ query (prefix_append history asked))
    (fun asked _ value => hok _ value (prefix_append history asked))
    (fun asked _ error => herror _ error (prefix_append history asked))

/-! ## Loops

A dialogue that ends with where it goes on is a loop: `next` is one way through its body. -/

/-- One step of a loop: a query is answered, or the next round starts. -/
inductive LoopStep (next : α → Dialogue Q A ε α) :
    Dialogue Q A ε α → Option ((query : Q) × A query) → Dialogue Q A ε α → Prop
  | answered {query : Q} {resume : A query → Dialogue Q A ε α} (answer : A query) :
      LoopStep next (.ask query resume) (some ⟨query, answer⟩) (resume answer)
  | looped {value : α} : LoopStep next (.done value) none (next value)

variable {next : α → Dialogue Q A ε α} {post : History Q A → Except ε α → Prop}
  {start rest : Dialogue Q A ε α} {steps : List (Option ((query : Q) × A query))}

section

variable (hnext : ∀ history value, post history (.ok value) → Meets (fun _ _ _ => True) guard post (next value) history)
  (hstart : Meets (fun _ _ _ => True) guard post start history)
  (hrun : Run (LoopStep next) start steps rest)

include hnext hstart hrun

/-- **The loop rule**: when every round that starts as the last one ended meets its guarantee and
ends so again, the loop does. -/
theorem loop_meets :
    Meets (fun _ _ _ => True) guard post rest (history ++ steps.reduceOption) := by
  induction hrun with
  | refl =>
    rw [reduceOption_nil, append_nil]
    exact hstart
  | snoc _ hstep ih =>
    rw [reduceOption_append, ← append_assoc]
    cases hstep with
    | answered answer => exact ih.2 answer trivial
    | looped =>
      rw [reduceOption_cons_of_none, reduceOption_nil, append_nil]
      exact hnext _ _ ih

theorem loop_asked {earlier later : History Q A} {answer : A query}
    (hasked : steps.reduceOption = earlier ++ ⟨query, answer⟩ :: later) :
    guard (history ++ earlier) query := by
  obtain ⟨first, others, rfl, rfl, hothers⟩ := filterMap_eq_append_iff.mp hasked
  obtain ⟨silent, step, last, rfl, hsilent, hstep, -⟩ := filterMap_eq_cons_iff.mp hothers
  cases hstep
  rw [← append_assoc] at hrun
  obtain ⟨before, after, hbefore, htaken, -⟩ := hrun.split
  have hmeets := loop_meets hnext hstart hbefore
  -- the rounds that start in between answer nothing
  have hquiet : (first ++ silent).reduceOption = first.reduceOption := by
    rw [reduceOption_append, List.reduceOption, filterMap_eq_nil_iff.mpr hsilent,
      append_nil]
  rw [hquiet] at hmeets
  cases htaken with
  | answered => exact hmeets.1

end

/-! A loop can be run by a script: an answer for each query, and `none` where the next round
starts. -/

/-- The steps of a script and where it leads. An input that cannot be taken is skipped. -/
def loop_play (next : α → Dialogue Q A ε α) :
    Dialogue Q A ε α → List (Option ((query : Q) → A query)) →
      List (Option ((query : Q) × A query)) × Dialogue Q A ε α
  | dialogue, [] => ([], dialogue)
  | .ask query resume, some reply :: inputs =>
    let played := loop_play next (resume (reply query)) inputs
    (some ⟨query, reply query⟩ :: played.1, played.2)
  | .done value, none :: inputs =>
    let played := loop_play next (next value) inputs
    (none :: played.1, played.2)
  | dialogue, _ :: inputs => loop_play next dialogue inputs

/-- **Every script runs.** -/
theorem loop_play_run (next : α → Dialogue Q A ε α) (dialogue : Dialogue Q A ε α)
    (inputs : List (Option ((query : Q) → A query))) :
    Run (LoopStep next) dialogue (loop_play next dialogue inputs).1 (loop_play next dialogue inputs).2 := by
  induction inputs generalizing dialogue with
  | nil =>
    rw [loop_play]
    exact Run.refl
  | cons input inputs ih =>
    cases dialogue with
    | done value =>
      cases input with
      | none => exact (Run.single LoopStep.looped).append (ih (next value))
      | some reply => exact ih (.done value)
    | fail error =>
      cases input with
      | none => exact ih (.fail error)
      | some reply => exact ih (.fail error)
    | ask query resume =>
      cases input with
      | none => exact ih (.ask query resume)
      | some reply =>
        exact (Run.single (LoopStep.answered (reply query))).append (ih (resume (reply query)))

theorem loop_play_replies (reply : (query : Q) → A query) {next : α → Dialogue Q A ε α}
    {inputs : List (Option ((query : Q) → A query))}
    (hinputs : ∀ input ∈ inputs, ∀ other, input = some other → other = reply)
    (dialogue : Dialogue Q A ε α) {answer : A query}
    (h : some ⟨query, answer⟩ ∈ (loop_play next dialogue inputs).1) : answer = reply query := by
  induction inputs generalizing dialogue with
  | nil =>
    rw [loop_play] at h
    cases h
  | cons input inputs ih =>
    have hrest := ih (fun input hmem => hinputs input (mem_cons_of_mem _ hmem))
    cases dialogue with
    | done value =>
      cases input with
      | none =>
        rw [loop_play] at h
        rcases mem_cons.mp h with hhead | htail
        · cases hhead
        · exact hrest _ htail
      | some other => exact hrest _ h
    | fail error =>
      cases input with
      | none => exact hrest _ h
      | some other => exact hrest _ h
    | ask asked resume =>
      cases input with
      | none => exact hrest _ h
      | some other =>
        rw [loop_play] at h
        rcases mem_cons.mp h with hhead | htail
        · cases hhead
          rw [hinputs _ mem_cons_self other rfl]
        · exact hrest _ htail

end Dialogue

end Lib
