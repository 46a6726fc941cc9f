/-
Coroutines over one shared memory.

A coroutine runs alone from one await to the next: it may read and change the memory as often as it
likes, and nobody sees the states in between. At an await it is suspended, others run, and it goes
on with an answer. `settle` runs a coroutine to its next await.

`Outline` is the logic of such code. The prover names a local state of each coroutine (which lock
it holds, what it has entered) and says what one segment, from an await to the next, may do to it
and to the memory. `Meets` checks a coroutine against an outline, segment by segment; the rules
below take its code apart. What all coroutines together do follows from the outline alone.
-/
import CodingAgentLoop.Lib.Dialogue

namespace Lib

/-- A computation that accesses a memory `σ` and awaits answers `A q` to queries `q`. An access
goes on with the memory as it was before the change. -/
inductive Coroutine (σ Q : Type) (A : Q → Type) (ε α : Type) where
  | done (value : α)
  | fail (error : ε)
  | await (query : Q) (resume : A query → Coroutine σ Q A ε α)
  | access (change : σ → σ) (next : σ → Coroutine σ Q A ε α)

namespace Coroutine

variable {σ τ Q Q' : Type} {A : Q → Type} {A' : Q' → Type} {ε ε' α β γ : Type}

def bind : Coroutine σ Q A ε α → (α → Coroutine σ Q A ε β) → Coroutine σ Q A ε β
  | .done value, f => f value
  | .fail error, _ => .fail error
  | .await query resume, f => .await query (fun answer => (resume answer).bind f)
  | .access change next, f => .access change (fun memory => (next memory).bind f)

instance : Monad (Coroutine σ Q A ε) where
  pure := .done
  bind := bind

def get : Coroutine σ Q A ε σ := .access id .done

def modify (change : σ → σ) : Coroutine σ Q A ε Unit := .access change (fun _ => .done ())

def lift : Except ε α → Coroutine σ Q A ε α
  | .ok value => .done value
  | .error error => .fail error

def ask (query : Q) : Coroutine σ Q A ε (A query) := .await query .done

/-- `try: ... except: handler`. -/
def handle (handler : ε → Coroutine σ Q A ε α) : Coroutine σ Q A ε α → Coroutine σ Q A ε α
  | .done value => .done value
  | .fail error => handler error
  | .await query resume => .await query (fun answer => handle handler (resume answer))
  | .access change next => .access change (fun memory => handle handler (next memory))

/-- `try: ... finally: cleanup`, for a cleanup that awaits nothing. -/
def ensuring (cleanup : σ → σ) : Coroutine σ Q A ε α → Coroutine σ Q A ε α
  | .done value => .access cleanup (fun _ => .done value)
  | .fail error => .access cleanup (fun _ => .fail error)
  | .await query resume => .await query (fun answer => ensuring cleanup (resume answer))
  | .access change next => .access change (fun memory => ensuring cleanup (next memory))

/-- Code that knows a part of the memory only, under queries and errors of its own. -/
def zoom (part : σ → τ) (put : σ → τ → σ) (wrap : Q' → Q)
    (unwrap : ∀ query, A (wrap query) → A' query) (rename : ε' → ε) :
    Coroutine τ Q' A' ε' α → Coroutine σ Q A ε α
  | .done value => .done value
  | .fail error => .fail (rename error)
  | .await query resume =>
    .await (wrap query) (fun answer =>
      zoom part put wrap unwrap rename (resume (unwrap query answer)))
  | .access change next =>
    .access (fun memory => put memory (change (part memory)))
      (fun memory => zoom part put wrap unwrap rename (next (part memory)))

/-- A dialogue held at awaits of its own: how it ended. -/
def attempt (wrap : Q' → Q) (unwrap : ∀ query, A (wrap query) → A' query) :
    Dialogue Q' A' ε' α → Coroutine σ Q A ε (Except ε' α)
  | .done value => .done (.ok value)
  | .fail error => .done (.error error)
  | .ask query resume =>
    .await (wrap query) (fun answer => attempt wrap unwrap (resume (unwrap query answer)))

section

variable (wrap : Q' → Q) (unwrap : ∀ query, A (wrap query) → A' query)

def attempt_rest (next : α → Dialogue Q' A' ε' β) : Except ε' α → Coroutine σ Q A ε (Except ε' β)
  | .ok value => attempt wrap unwrap (next value)
  | .error error => .done (.error error)

theorem attempt_bind (first : Dialogue Q' A' ε' α) (next : α → Dialogue Q' A' ε' β) :
    (attempt wrap unwrap (first >>= next) : Coroutine σ Q A ε (Except ε' β))
      = attempt wrap unwrap first >>= attempt_rest wrap unwrap next := by
  induction first with
  | done value => rfl
  | fail error => rfl
  | ask query resume ih =>
    show Coroutine.await (wrap query) (fun answer => attempt wrap unwrap
        (resume (unwrap query answer) >>= next))
      = .await (wrap query) (fun answer =>
        attempt wrap unwrap (resume (unwrap query answer)) >>= attempt_rest wrap unwrap next)
    exact congrArg _ (funext (fun answer => ih (unwrap query answer)))

end

theorem bind_assoc (first : Coroutine σ Q A ε α) (next : α → Coroutine σ Q A ε β)
    (last : β → Coroutine σ Q A ε γ) :
    (first >>= next) >>= last = first >>= fun value => next value >>= last := by
  induction first with
  | done value => rfl
  | fail error => rfl
  | await query resume ih =>
    show Coroutine.await query (fun answer => (resume answer >>= next) >>= last)
      = .await query (fun answer => resume answer >>= fun value => next value >>= last)
    exact congrArg _ (funext ih)
  | access change following ih =>
    show Coroutine.access change (fun memory => (following memory >>= next) >>= last)
      = .access change (fun memory => following memory >>= fun value => next value >>= last)
    exact congrArg _ (funext ih)

section Zoom

variable {part : σ → τ} {put : σ → τ → σ} {wrap : Q' → Q} {unwrap : ∀ query, A (wrap query) → A' query}
  {rename : ε' → ε}

theorem zoom_bind (first : Coroutine τ Q' A' ε' α) (next : α → Coroutine τ Q' A' ε' β) :
    (zoom part put wrap unwrap rename (first >>= next) : Coroutine σ Q A ε β)
      = zoom part put wrap unwrap rename first
        >>= fun value => zoom part put wrap unwrap rename (next value) := by
  induction first with
  | done value => rfl
  | fail error => rfl
  | await query resume ih =>
    show Coroutine.await (wrap query) (fun answer =>
        zoom part put wrap unwrap rename (resume (unwrap query answer) >>= next))
      = .await (wrap query) (fun answer =>
        zoom part put wrap unwrap rename (resume (unwrap query answer))
          >>= fun value => zoom part put wrap unwrap rename (next value))
    exact congrArg _ (funext (fun answer => ih (unwrap query answer)))
  | access change following ih =>
    show Coroutine.access (fun memory => put memory (change (part memory)))
        (fun memory => zoom part put wrap unwrap rename (following (part memory) >>= next))
      = .access (fun memory => put memory (change (part memory)))
        (fun memory => zoom part put wrap unwrap rename (following (part memory))
          >>= fun value => zoom part put wrap unwrap rename (next value))
    exact congrArg _ (funext (fun memory => ih (part memory)))

theorem zoom_ensuring (cleanup : τ → τ) (code : Coroutine τ Q' A' ε' α) :
    (zoom part put wrap unwrap rename (code.ensuring cleanup) : Coroutine σ Q A ε α)
      = (zoom part put wrap unwrap rename code).ensuring
        (fun memory => put memory (cleanup (part memory))) := by
  induction code with
  | done value => rfl
  | fail error => rfl
  | await query resume ih =>
    show Coroutine.await (wrap query) (fun answer =>
        zoom part put wrap unwrap rename ((resume (unwrap query answer)).ensuring cleanup))
      = .await (wrap query) (fun answer =>
        (zoom part put wrap unwrap rename (resume (unwrap query answer))).ensuring
          (fun memory => put memory (cleanup (part memory))))
    exact congrArg _ (funext (fun answer => ih (unwrap query answer)))
  | access change following ih =>
    show Coroutine.access (fun memory => put memory (change (part memory)))
        (fun memory => zoom part put wrap unwrap rename ((following (part memory)).ensuring cleanup))
      = .access (fun memory => put memory (change (part memory)))
        (fun memory => (zoom part put wrap unwrap rename (following (part memory))).ensuring
          (fun memory => put memory (cleanup (part memory))))
    exact congrArg _ (funext (fun memory => ih (part memory)))

end Zoom

/-- Run to the next await, or to the end. -/
def settle : Coroutine σ Q A ε α → σ → Coroutine σ Q A ε α × σ
  | .done value, memory => (.done value, memory)
  | .fail error, memory => (.fail error, memory)
  | .await query resume, memory => (.await query resume, memory)
  | .access change next, memory => settle (next memory) (change memory)

end Coroutine

/-! ## Outlines -/

/-- How a segment begins: with an answer or, the first one, without; in which local state, and with
which memory. -/
structure Opening (μ σ Q : Type) (A : Q → Type) where
  given : Option ((query : Q) × A query)
  state : μ
  memory : σ

/-- What the coroutines of the calls `κ` may do. `μ` is the local state of one: `knows` is what it
says of the memory whenever the coroutine goes on, `answers` what may be answered and what an
answer does to the memory, `moves` what a segment does, `asks` and `ends` where the coroutine may
be suspended or over. -/
structure Outline (κ μ σ Q : Type) (A : Q → Type) (ε α : Type) where
  knows : μ → σ → Prop
  answers : σ → (query : Q) → A query → σ → Prop
  moves : κ → Opening μ σ Q A → μ → σ → Prop
  asks : κ → μ → Q → Prop
  ends : κ → μ → Except ε α → Prop

namespace Coroutine

variable {κ μ σ τ Q Q' : Type} {A : Q → Type} {A' : Q' → Type} {ε ε' α β γ : Type}

/-- The coroutine of the call follows the outline, in a segment that has come to `memory`. `post`
is owed where the code ends. -/
def Meets (o : Outline κ μ σ Q A ε γ) (call : κ) (post : Except ε α → Opening μ σ Q A → σ → Prop) :
    Coroutine σ Q A ε α → Opening μ σ Q A → σ → Prop
  | .done value, opening, memory => post (.ok value) opening memory
  | .fail error, opening, memory => post (.error error) opening memory
  | .await query resume, opening, memory =>
    ∃ state, o.moves call opening state memory ∧ o.asks call state query
      ∧ ∀ answer before after, o.knows state before → o.answers before query answer after →
        Meets o call post (resume answer) ⟨some ⟨query, answer⟩, state, before⟩ after
  | .access change next, opening, memory => Meets o call post (next memory) opening (change memory)

variable {o : Outline κ μ σ Q A ε γ} {call : κ}
  {post post' : Except ε α → Opening μ σ Q A → σ → Prop} {opening : Opening μ σ Q A} {memory : σ}

variable {code : Coroutine σ Q A ε α}

theorem Meets.imp (h : Meets o call post code opening memory)
    (himp : ∀ result opening memory, post result opening memory → post' result opening memory) :
    Meets o call post' code opening memory := by
  induction code generalizing opening memory with
  | done value => exact himp _ _ _ h
  | fail error => exact himp _ _ _ h
  | await query resume ih =>
    obtain ⟨state, hmoves, hasks, hresume⟩ := h
    exact ⟨state, hmoves, hasks, fun answer before after hknows hanswers =>
      ih answer (hresume answer before after hknows hanswers)⟩
  | access change next ih => exact ih memory h

theorem Meets.bind {post : Except ε β → Opening μ σ Q A → σ → Prop} {first : Coroutine σ Q A ε α}
    {next : α → Coroutine σ Q A ε β}
    (h : Meets o call (fun result opening memory =>
      match result with
      | .ok value => Meets o call post (next value) opening memory
      | .error error => post (.error error) opening memory) first opening memory) :
    Meets o call post (first >>= next) opening memory := by
  induction first generalizing opening memory with
  | done value => exact h
  | fail error => exact h
  | await query resume ih =>
    obtain ⟨state, hmoves, hasks, hresume⟩ := h
    exact ⟨state, hmoves, hasks, fun answer before after hknows hanswers =>
      ih answer (hresume answer before after hknows hanswers)⟩
  | access change next ih => exact ih memory h

theorem Meets.ensuring {cleanup : σ → σ}
    (h : Meets o call (fun result opening memory => post result opening (cleanup memory)) code
      opening memory) : Meets o call post (code.ensuring cleanup) opening memory := by
  induction code generalizing opening memory with
  | done value => exact h
  | fail error => exact h
  | await query resume ih =>
    obtain ⟨state, hmoves, hasks, hresume⟩ := h
    exact ⟨state, hmoves, hasks, fun answer before after hknows hanswers =>
      ih answer (hresume answer before after hknows hanswers)⟩
  | access change next ih => exact ih memory h

theorem Meets.handle {handler : ε → Coroutine σ Q A ε α}
    (h : Meets o call (fun result opening memory =>
      match result with
      | .ok value => post (.ok value) opening memory
      | .error error => Meets o call post (handler error) opening memory) code opening memory) :
    Meets o call post (code.handle handler) opening memory := by
  induction code generalizing opening memory with
  | done value => exact h
  | fail error => exact h
  | await query resume ih =>
    obtain ⟨state, hmoves, hasks, hresume⟩ := h
    exact ⟨state, hmoves, hasks, fun answer before after hknows hanswers =>
      ih answer (hresume answer before after hknows hanswers)⟩
  | access change next ih => exact ih memory h

theorem Meets.lift {result : Except ε α} (h : post result opening memory) :
    Meets o call post (Coroutine.lift result) opening memory := by
  cases result with
  | ok value => exact h
  | error error => exact h

section Zoom

variable {κ' μ' γ' : Type} {o' : Outline κ' μ' τ Q' A' ε' γ'} {call' : κ'} {part : σ → τ}
  {put : σ → τ → σ} {wrap : Q' → Q} {unwrap : ∀ query, A (wrap query) → A' query} {rename : ε' → ε}

/-- The rule for code that knows a part of the memory: what it meets there is met here, when the
outlines correspond. `view` relates how a segment begins, `raised` the local states. -/
theorem Meets.zoom (view : Opening μ σ Q A → Opening μ' τ Q' A' → Prop) (raised : μ' → μ)
    {post' : Except ε' α → Opening μ' τ Q' A' → τ → Prop} {code : Coroutine τ Q' A' ε' α}
    {opening' : Opening μ' τ Q' A'} (hput : ∀ memory value, part (put memory value) = value)
    (hmoves : ∀ opening opening' state memory, view opening opening' →
      o'.moves call' opening' state (part memory) → o.moves call opening (raised state) memory)
    (hasks : ∀ state query, o'.asks call' state query → o.asks call (raised state) (wrap query))
    (hanswers : ∀ state query answer before after, o'.asks call' state query →
      o.knows (raised state) before → o.answers before (wrap query) answer after →
      o'.knows state (part before)
        ∧ o'.answers (part before) query (unwrap query answer) (part after)
        ∧ view ⟨some ⟨wrap query, answer⟩, raised state, before⟩
          ⟨some ⟨query, unwrap query answer⟩, state, part before⟩)
    (hpost : ∀ result opening opening' memory, view opening opening' →
      post' result opening' (part memory) → post (result.mapError rename) opening memory)
    (hview : view opening opening') (h : Meets o' call' post' code opening' (part memory)) :
    Meets o call post (code.zoom part put wrap unwrap rename) opening memory := by
  induction code generalizing opening opening' memory with
  | done value => exact hpost _ _ _ _ hview h
  | fail error => exact hpost _ _ _ _ hview h
  | await query resume ih =>
    obtain ⟨state, hmove, hask, hresume⟩ := h
    refine ⟨raised state, hmoves _ _ _ _ hview hmove, hasks _ _ hask, ?_⟩
    intro answer before after hknows hanswer
    obtain ⟨hknows', hanswer', hview'⟩ := hanswers _ _ _ _ _ hask hknows hanswer
    exact ih _ hview' (hresume _ _ _ hknows' hanswer')
  | access change next ih =>
    refine ih _ hview ?_
    rw [hput]
    exact h

theorem Meets.renamed {code : Coroutine τ Q' A' ε' α}
    (h : Meets o call post (code.zoom part put wrap unwrap rename) opening memory) :
    Meets o call (fun result opening memory => post result opening memory
        ∧ ∀ error, result = .error error → ∃ inner, error = rename inner)
      (code.zoom part put wrap unwrap rename) opening memory := by
  induction code generalizing opening memory with
  | done value => exact ⟨h, fun _ herror => by cases herror⟩
  | fail error => exact ⟨h, fun _ herror => ⟨error, (Except.error.inj herror).symm⟩⟩
  | await query resume ih =>
    obtain ⟨state, hmove, hask, hresume⟩ := h
    exact ⟨state, hmove, hask, fun answer before after hknows hanswer =>
      ih (unwrap query answer) (hresume answer before after hknows hanswer)⟩
  | access change next ih => exact ih (part memory) h

end Zoom

/-- Where the whole code ends, the segment made a move and the local state allows the end. -/
def Over (o : Outline κ μ σ Q A ε α) (call : κ) (result : Except ε α) (opening : Opening μ σ Q A)
    (memory : σ) : Prop :=
  ∃ state, o.moves call opening state memory ∧ o.ends call state result

/-- A coroutine that is suspended or over, in a local state. -/
def Rests (o : Outline κ μ σ Q A ε α) (call : κ) (state : μ) : Coroutine σ Q A ε α → Prop
  | .done value => o.ends call state (.ok value)
  | .fail error => o.ends call state (.error error)
  | .await query resume => o.asks call state query
      ∧ ∀ answer before after, o.knows state before → o.answers before query answer after →
        Meets o call (Over o call) (resume answer) ⟨some ⟨query, answer⟩, state, before⟩ after
  | .access _ _ => False

/-- **One segment**: code that meets the outline makes a move of it and rests. -/
theorem Meets.settle {o : Outline κ μ σ Q A ε α}
    (h : Meets o call (Over o call) code opening memory) :
    ∃ state, o.moves call opening state (code.settle memory).2
      ∧ Rests o call state (code.settle memory).1 := by
  induction code generalizing memory with
  | done value => exact h
  | fail error => exact h
  | await query resume _ => exact h
  | access change next ih => exact ih memory h

end Coroutine

end Lib
