/-
Calls in progress over one shared store.

Several callers run a dialogue each, and every query of theirs is one atomic access to
what they share. A step of the crew starts a call, answers the query one call waits
for, or changes the store from elsewhere; which comes next is free, and a call that is
never resumed is one that crashed. An event of a run shows the store before and after
it and what its call had been told until then, so a statement about one access is a
statement about an event.

A call acts on what it was told earlier. The two rules below say what may be relied on
when it does: `Disciplined` -- it asks what its own code guarantees on the answers it
had; `Remembers` -- what every step keeps of an answer still holds.
-/
import CodingAgentLoop.Lib.Dialogue

namespace Lib

open Dialogue List

variable {κ σ Q : Type} {A : Q → Type} {ε α : Type}

/-- A call in progress: which one, what is left of it, and the answers it had. -/
structure Caller (κ Q : Type) (A : Q → Type) (ε α : Type) where
  call : κ
  rest : Dialogue Q A ε α
  history : History Q A

/-- The store and the calls in progress. -/
structure Crew (κ σ Q : Type) (A : Q → Type) (ε α : Type) where
  shared : σ
  callers : Nat → Option (Caller κ Q A ε α)

inductive CrewEvent (κ σ Q : Type) (A : Q → Type) where
  | started (pid : Nat) (call : κ)
  | answered (pid : Nat) (call : κ) (history : History Q A) (query : Q) (answer : A query)
      (before after : σ)
  | elsewhere (before after : σ)

def CrewEvent.access : CrewEvent κ σ Q A → Option (σ × σ)
  | .started _ _ => none
  | .answered _ _ _ _ _ before after => some (before, after)
  | .elsewhere before after => some (before, after)

/-- The event takes the store out of `P`. -/
def CrewEvent.Leaves (P : σ → Prop) (event : CrewEvent κ σ Q A) : Prop :=
  ∃ before after, event.access = some (before, after) ∧ P before ∧ ¬ P after

namespace Crew

def Idle (crew : Crew κ σ Q A ε α) : Prop := ∀ pid, crew.callers pid = none

/-- `crew` with the caller `pid` replaced. -/
def resumed (crew : Crew κ σ Q A ε α) (pid : Nat) (caller : Caller κ Q A ε α) (shared : σ) :
    Crew κ σ Q A ε α where
  shared
  callers := Function.update crew.callers pid (some caller)

/-- One step of a crew. `body` is the code of a call, `answers` what an access may do. -/
inductive Step (body : κ → Dialogue Q A ε α) (answers : σ → (query : Q) → A query → σ → Prop)
    (outside : σ → σ → Prop) : Crew κ σ Q A ε α → CrewEvent κ σ Q A → Crew κ σ Q A ε α → Prop
  | started {crew : Crew κ σ Q A ε α} {pid : Nat} {call : κ} (free : crew.callers pid = none) :
      Step body answers outside crew (.started pid call)
        (crew.resumed pid ⟨call, body call, []⟩ crew.shared)
  | answered {crew : Crew κ σ Q A ε α} {pid : Nat} {call : κ} {history : History Q A} {query : Q}
      {resume : A query → Dialogue Q A ε α} {answer : A query} {shared : σ}
      (waiting : crew.callers pid = some ⟨call, .ask query resume, history⟩)
      (answered : answers crew.shared query answer shared) :
      Step body answers outside crew (.answered pid call history query answer crew.shared shared)
        (crew.resumed pid ⟨call, resume answer, history ++ [⟨query, answer⟩]⟩ shared)
  | elsewhere {crew : Crew κ σ Q A ε α} {shared : σ} (moved : outside crew.shared shared) :
      Step body answers outside crew (.elsewhere crew.shared shared) { crew with shared }

variable {body : κ → Dialogue Q A ε α} {answers : σ → (query : Q) → A query → σ → Prop}
  {outside : σ → σ → Prop} {crew crew' : Crew κ σ Q A ε α} {event : CrewEvent κ σ Q A}
  {events : List (CrewEvent κ σ Q A)}

theorem resumed_callers (crew : Crew κ σ Q A ε α) (pid other : Nat) (caller : Caller κ Q A ε α)
    (shared : σ) : (crew.resumed pid caller shared).callers other
      = if other = pid then some caller else crew.callers other :=
  Function.update_apply crew.callers pid (some caller) other

theorem Step.shared (h : Step body answers outside crew event crew') :
    match event.access with
    | none => crew'.shared = crew.shared
    | some (before, after) => crew.shared = before ∧ crew'.shared = after := by
  cases h with
  | started => rfl
  | answered => exact ⟨rfl, rfl⟩
  | elsewhere => exact ⟨rfl, rfl⟩

variable {start : Crew κ σ Q A ε α}

theorem stays_in {P : σ → Prop} (hrun : Run (Step body answers outside) start events crew')
    (hleaves : ∀ event ∈ events, ¬ event.Leaves P) (h : P start.shared) : P crew'.shared := by
  refine hrun.invariant_where (I := fun crew => P crew.shared) hleaves h ?_
  intro crew event crew' hbefore hstays hstep
  have hshared := hstep.shared
  cases haccess : event.access with
  | none =>
    rw [haccess] at hshared
    rw [hshared]
    exact hbefore
  | some access =>
    obtain ⟨before, after⟩ := access
    rw [haccess] at hshared
    obtain ⟨rfl, rfl⟩ := hshared
    by_contra hafter
    exact hstays ⟨_, _, haccess, hbefore, hafter⟩

/-! ## The callers of a run -/

theorem Step.keeps (h : Step body answers outside crew event crew') {pid : Nat}
    {caller : Caller κ Q A ε α} (hcaller : crew.callers pid = some caller) :
    ∃ caller', crew'.callers pid = some caller' ∧ caller'.call = caller.call
      ∧ caller.history <+: caller'.history := by
  cases h with
  | @started other call free =>
    have hne : pid ≠ other := by
      rintro rfl
      rw [free] at hcaller
      cases hcaller
    rw [resumed_callers, if_neg hne]
    exact ⟨caller, hcaller, rfl, prefix_rfl⟩
  | @answered other call history query resume answer shared waiting _ =>
    rw [resumed_callers]
    by_cases heq : pid = other
    · subst heq
      rw [waiting] at hcaller
      cases hcaller
      rw [if_pos rfl]
      exact ⟨_, rfl, rfl, prefix_append _ _⟩
    · rw [if_neg heq]
      exact ⟨caller, hcaller, rfl, prefix_rfl⟩
  | elsewhere => exact ⟨caller, hcaller, rfl, prefix_rfl⟩

/-- **An answered call stays**, with what it was told. -/
theorem stays (hrun : Run (Step body answers outside) start events crew') :
    ∀ pid call history query answer before after,
      .answered pid call history query answer before after ∈ events →
        ∃ caller, crew'.callers pid = some caller ∧ caller.call = call
          ∧ history ++ [⟨query, answer⟩] <+: caller.history := by
  induction hrun with
  | refl =>
    intro pid call history query answer before after hmem
    cases hmem
  | snoc _ hstep ih =>
    intro pid call history query answer before after hmem
    rcases mem_snoc hmem with hold | hnew
    · obtain ⟨caller, hcaller, hcall, hhistory⟩ := ih pid call history query answer before after hold
      obtain ⟨caller', hcaller', hcall', hhistory'⟩ := hstep.keeps hcaller
      exact ⟨caller', hcaller', hcall'.trans hcall, hhistory.trans hhistory'⟩
    · cases hnew
      cases hstep with
      | answered =>
        rw [resumed_callers, if_pos rfl]
        exact ⟨_, rfl, rfl, prefix_rfl⟩

/-- **What a caller was told, an event told it.** -/
theorem heard (hidle : Idle start) (hrun : Run (Step body answers outside) start events crew') :
    ∀ pid caller told, crew'.callers pid = some caller → told ∈ caller.history →
      ∃ history before after,
        .answered pid caller.call history told.1 told.2 before after ∈ events := by
  induction hrun with
  | refl =>
    intro pid caller told hcaller
    rw [hidle pid] at hcaller
    cases hcaller
  | snoc _ hstep ih =>
    intro pid caller told hcaller hmem
    have hold {caller : Caller κ Q A ε α} {tr : List (CrewEvent κ σ Q A)}
        {event : CrewEvent κ σ Q A}
        (h : ∃ history before after,
          .answered pid caller.call history told.1 told.2 before after ∈ tr) :
        ∃ history before after,
          .answered pid caller.call history told.1 told.2 before after ∈ tr ++ [event] := by
      obtain ⟨history, before, after, hmem⟩ := h
      exact ⟨history, before, after, mem_append_left _ hmem⟩
    cases hstep with
    | started =>
      rw [resumed_callers] at hcaller
      split at hcaller
      · cases hcaller
        cases hmem
      · exact hold (ih pid caller told hcaller hmem)
    | answered waiting =>
      rw [resumed_callers] at hcaller
      split at hcaller
      · next heq =>
        cases hcaller
        subst heq
        rcases mem_snoc hmem with hmem | hmem
        · have htold := ih _ _ told waiting hmem
          exact hold htold
        · cases hmem
          exact ⟨_, _, _, mem_append_right _ (mem_singleton_self _)⟩
      · exact hold (ih pid caller told hcaller hmem)
    | elsewhere => exact hold (ih pid caller told hcaller hmem)

/-! ## What a call asks and how it ends -/

/-- The rest of every call meets the guarantee and the end of its call. -/
def Follows (guard : κ → History Q A → Q → Prop) (post : κ → History Q A → Except ε α → Prop)
    (crew : Crew κ σ Q A ε α) : Prop :=
  ∀ pid caller, crew.callers pid = some caller →
    Meets (fun _ _ _ => True) (guard caller.call) (post caller.call) caller.rest caller.history

section Follows

variable {guard : κ → History Q A → Q → Prop} {post : κ → History Q A → Except ε α → Prop}

theorem Idle.follows (h : Idle crew) : Follows guard post crew := by
  intro pid caller hcaller
  rw [h pid] at hcaller
  cases hcaller

theorem Follows.step
    (hbody : ∀ call, Meets (fun _ _ _ => True) (guard call) (post call) (body call) [])
    (h : Follows guard post crew) (hstep : Step body answers outside crew event crew') :
    Follows guard post crew' := by
  intro other caller hcaller
  cases hstep with
  | @started pid call _ =>
    rw [resumed_callers] at hcaller
    split at hcaller
    · cases hcaller
      exact hbody call
    · exact h other caller hcaller
  | @answered pid call history query resume answer shared waiting _ =>
    rw [resumed_callers] at hcaller
    split at hcaller
    · cases hcaller
      exact (h pid _ waiting).2 answer trivial
    · exact h other caller hcaller
  | elsewhere => exact h other caller hcaller

theorem Follows.asked (h : Follows guard post crew) {pid : Nat} {call : κ} {history : History Q A}
    {query : Q} {answer : A query} {before after : σ}
    (hstep : Step body answers outside crew
      (.answered pid call history query answer before after) crew') : guard call history query := by
  cases hstep with
  | answered waiting _ => exact (h pid _ waiting).1

theorem Follows.ended (h : Follows guard post crew) {pid : Nat} {call : κ} {value : α}
    {history : History Q A} (hdone : crew.callers pid = some ⟨call, .done value, history⟩) :
    post call history (.ok value) :=
  h pid _ hdone

end Follows

def Disciplined (guard : κ → History Q A → Q → Prop) (crew : Crew κ σ Q A ε α) : Prop :=
  ∀ pid caller, crew.callers pid = some caller →
    Meets (fun _ _ _ => True) (guard caller.call) (fun _ _ => True) caller.rest caller.history

def Guarantees (body : κ → Dialogue Q A ε α) (guard : κ → History Q A → Q → Prop) : Prop :=
  ∀ call, Meets (fun _ _ _ => True) (guard call) (fun _ _ => True) (body call) []

variable {guard : κ → History Q A → Q → Prop}

theorem Idle.disciplined (h : Idle crew) : Disciplined guard crew := by
  intro pid caller hcaller
  rw [h pid] at hcaller
  cases hcaller

theorem Disciplined.step (hbody : Guarantees body guard) (h : Disciplined guard crew)
    (hstep : Step body answers outside crew event crew') : Disciplined guard crew' :=
  Follows.step hbody h hstep

/-- **A call asks only what its code guarantees** on the answers it had. -/
theorem asked (hbody : Guarantees body guard) (hidle : Idle start)
    (hrun : Run (Step body answers outside) start events crew') :
    ∀ pid call history query answer before after,
      .answered pid call history query answer before after ∈ events → guard call history query := by
  intro pid call history query answer before after hmem
  obtain ⟨earlier, later, rfl⟩ := append_of_mem hmem
  obtain ⟨crew₁, crew₂, hfirst, hstep, -⟩ := hrun.split
  have hdisciplined : Disciplined guard crew₁ :=
    hfirst.invariant hidle.disciplined (fun _ _ _ hbefore hst => hbefore.step hbody hst)
  cases hstep with
  | answered waiting _ => exact (hdisciplined pid _ waiting).1

/-! ## What a call was told -/

/-- `kept` holds of the store and every answer a caller had. -/
def Remembers (kept : σ → (query : Q) → A query → Prop) (crew : Crew κ σ Q A ε α) : Prop :=
  ∀ pid caller, crew.callers pid = some caller →
    ∀ told ∈ caller.history, kept crew.shared told.1 told.2

variable {kept : σ → (query : Q) → A query → Prop}

theorem Idle.remembers (h : Idle crew) : Remembers kept crew := by
  intro pid caller hcaller
  rw [h pid] at hcaller
  cases hcaller

theorem Remembers.step (h : Remembers kept crew)
    (htold : ∀ pid call history query answer before after,
      event = .answered pid call history query answer before after → kept after query answer)
    (hkeep : ∀ before after, event.access = some (before, after) →
      ∀ query answer, kept before query answer → kept after query answer)
    (hstep : Step body answers outside crew event crew') : Remembers kept crew' := by
  intro other caller hcaller told hmem
  cases hstep with
  | started =>
    rw [resumed_callers] at hcaller
    split at hcaller
    · cases hcaller
      cases hmem
    · exact h other caller hcaller told hmem
  | answered waiting =>
    rw [resumed_callers] at hcaller
    split at hcaller
    · cases hcaller
      rcases mem_snoc hmem with hold | rfl
      · exact hkeep _ _ rfl _ _ (h _ _ waiting told hold)
      · exact htold _ _ _ _ _ _ _ rfl
    · exact hkeep _ _ rfl _ _ (h other caller hcaller told hmem)
  | elsewhere => exact hkeep _ _ rfl _ _ (h other caller hcaller told hmem)

theorem Remembers.answered (h : Remembers kept crew) {pid : Nat} {call : κ} {history : History Q A}
    {query : Q} {answer : A query} {before after : σ}
    (hstep : Step body answers outside crew
      (.answered pid call history query answer before after) crew') :
    ∀ told ∈ history, kept before told.1 told.2 := by
  cases hstep with
  | answered waiting _ => exact h pid _ waiting

/-! ## Scripts

Where an access is a function of the store and of what the outside brings (a clock reading),
a list of inputs has one run. -/

/-- Who goes next. -/
inductive Input (κ τ : Type) where
  | start (pid : Nat) (call : κ)
  | access (pid : Nat) (given : τ)

variable {τ : Type} {respond : τ → σ → (query : Q) → A query × σ}

def Responds (respond : τ → σ → (query : Q) → A query × σ) (shared : σ) (query : Q)
    (answer : A query) (shared' : σ) : Prop :=
  ∃ given, respond given shared query = (answer, shared')

/-- The step an input takes, if it can be taken. -/
def Input.take (body : κ → Dialogue Q A ε α) (respond : τ → σ → (query : Q) → A query × σ)
    (crew : Crew κ σ Q A ε α) : Input κ τ → Option (CrewEvent κ σ Q A × Crew κ σ Q A ε α)
  | .start pid call =>
    match crew.callers pid with
    | none => some (.started pid call, crew.resumed pid ⟨call, body call, []⟩ crew.shared)
    | some _ => none
  | .access pid given =>
    match crew.callers pid with
    | some ⟨call, .ask query resume, history⟩ =>
      let (answer, shared) := respond given crew.shared query
      some (.answered pid call history query answer crew.shared shared,
        crew.resumed pid ⟨call, resume answer, history ++ [⟨query, answer⟩]⟩ shared)
    | _ => none

theorem Input.take_step {input : Input κ τ}
    (hanswers : ∀ given shared query, answers shared query (respond given shared query).1
      (respond given shared query).2)
    (h : input.take body respond crew = some (event, crew')) :
    Step body answers outside crew event crew' := by
  cases input with
  | start pid call =>
    simp only [Input.take] at h
    split at h
    · next hfree =>
      cases h
      exact .started hfree
    · cases h
  | access pid given =>
    simp only [Input.take] at h
    split at h
    · next hwaiting =>
      cases h
      exact .answered hwaiting (hanswers given _ _)
    · cases h

/-- The events of a script and the crew it leaves. An input that cannot be taken is skipped. -/
def play (body : κ → Dialogue Q A ε α) (respond : τ → σ → (query : Q) → A query × σ) :
    Crew κ σ Q A ε α → List (Input κ τ) → List (CrewEvent κ σ Q A) × Crew κ σ Q A ε α
  | crew, [] => ([], crew)
  | crew, input :: rest =>
    match input.take body respond crew with
    | none => play body respond crew rest
    | some (event, next) =>
      (event :: (play body respond next rest).1, (play body respond next rest).2)

/-- **Every script runs**, when its accesses are answered as they may be. -/
theorem play_answers
    (hanswers : ∀ given shared query, answers shared query (respond given shared query).1
      (respond given shared query).2) (crew : Crew κ σ Q A ε α) (script : List (Input κ τ)) :
    Run (Step body answers outside) crew (play body respond crew script).1
      (play body respond crew script).2 := by
  induction script generalizing crew with
  | nil => exact Run.refl
  | cons input rest ih =>
    rw [play]
    split
    · exact ih crew
    · next event next htake =>
      exact (Run.single (Input.take_step hanswers htake)).append (ih next)

theorem play_started {crew : Crew κ σ Q A ε α} {script : List (Input κ τ)} {pid : Nat} {call : κ}
    (h : .started pid call ∈ (play body respond crew script).1) : .start pid call ∈ script := by
  induction script generalizing crew with
  | nil => cases h
  | cons input rest ih =>
    rw [play] at h
    cases htake : input.take body respond crew with
    | none =>
      rw [htake] at h
      exact mem_cons_of_mem _ (ih h)
    | some taken =>
      rw [htake] at h
      rcases mem_cons.mp h with heq | hlater
      · cases input with
        | start other started =>
          simp only [Input.take] at htake
          split at htake
          · cases htake
            cases heq
            exact mem_cons_self
          · cases htake
        | access other given =>
          simp only [Input.take] at htake
          split at htake
          · cases htake
            cases heq
          · cases htake
      · exact mem_cons_of_mem _ (ih hlater)

theorem play_run (crew : Crew κ σ Q A ε α) (script : List (Input κ τ)) :
    Run (Step body (Responds respond) outside) crew (play body respond crew script).1
      (play body respond crew script).2 :=
  play_answers (fun given _ _ => ⟨given, rfl⟩) crew script

end Crew

end Lib
