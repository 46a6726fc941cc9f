/-
Coroutines that take turns on one memory.

A step of the loop starts a call, which runs to its first await, or answers the await a call is
suspended at, which runs to its next, or changes the memory from elsewhere; which comes next is
free, and a call that is never resumed is one that hangs. When every call meets an outline, a step
is a move of the outline: `Outlined.step`, from which an invariant of the local states and the
memory is carried along a run.
-/
import CodingAgentLoop.Lib.Coroutine

namespace Lib

open List

variable {κ μ σ Q : Type} {A : Q → Type} {ε α : Type}

/-- A call and what is left of it. -/
structure LoopTask (κ σ Q : Type) (A : Q → Type) (ε α : Type) where
  call : κ
  rest : Coroutine σ Q A ε α

def LoopTask.awaits (task : LoopTask κ σ Q A ε α) : Option Q :=
  match task.rest with
  | .await query _ => some query
  | _ => none

/-- The memory and the calls. -/
structure EventLoop (κ σ Q : Type) (A : Q → Type) (ε α : Type) where
  memory : σ
  tasks : Nat → Option (LoopTask κ σ Q A ε α)

inductive LoopEvent (κ σ Q : Type) (A : Q → Type) where
  | started (pid : Nat) (call : κ) (before after : σ)
  | resumed (pid : Nat) (call : κ) (query : Q) (answer : A query) (before after : σ)
  | elsewhere (before after : σ)

namespace LoopEvent

def pid : LoopEvent κ σ Q A → Option Nat
  | started pid _ _ _ => some pid
  | resumed pid _ _ _ _ _ => some pid
  | elsewhere _ _ => none

def before : LoopEvent κ σ Q A → σ
  | started _ _ before _ => before
  | resumed _ _ _ _ before _ => before
  | elsewhere before _ => before

def after : LoopEvent κ σ Q A → σ
  | started _ _ _ after => after
  | resumed _ _ _ _ _ after => after
  | elsewhere _ after => after

def segment : LoopEvent κ σ Q A → Option (Nat × κ × Option ((query : Q) × A query))
  | started pid call _ _ => some (pid, call, none)
  | resumed pid call query answer _ _ => some (pid, call, some ⟨query, answer⟩)
  | elsewhere _ _ => none

theorem pid_eq_segment (event : LoopEvent κ σ Q A) : event.pid = event.segment.map Prod.fst := by
  cases event <;> rfl

end LoopEvent

namespace EventLoop

def Idle (loop : EventLoop κ σ Q A ε α) : Prop := ∀ pid, loop.tasks pid = none

/-- `loop` with the call `pid` run to its next await. -/
def ran (loop : EventLoop κ σ Q A ε α) (pid : Nat) (call : κ)
    (segment : Coroutine σ Q A ε α × σ) : EventLoop κ σ Q A ε α where
  memory := segment.2
  tasks := Function.update loop.tasks pid (some ⟨call, segment.1⟩)

/-- One step. `body` is the code of a call, `answers` what may be answered, and what an answer does
to the memory before its call goes on. -/
inductive Step (body : κ → Coroutine σ Q A ε α) (answers : σ → (query : Q) → A query → σ → Prop)
    (outside : σ → σ → Prop) : EventLoop κ σ Q A ε α → LoopEvent κ σ Q A → EventLoop κ σ Q A ε α →
      Prop
  | started {loop : EventLoop κ σ Q A ε α} {pid : Nat} {call : κ}
      (free : loop.tasks pid = none) :
      Step body answers outside loop
        (.started pid call loop.memory ((body call).settle loop.memory).2)
        (loop.ran pid call ((body call).settle loop.memory))
  | resumed {loop : EventLoop κ σ Q A ε α} {pid : Nat} {call : κ} {query : Q}
      {resume : A query → Coroutine σ Q A ε α} {answer : A query} {memory : σ}
      (waiting : loop.tasks pid = some ⟨call, .await query resume⟩)
      (answered : answers loop.memory query answer memory) :
      Step body answers outside loop
        (.resumed pid call query answer loop.memory ((resume answer).settle memory).2)
        (loop.ran pid call ((resume answer).settle memory))
  | elsewhere {loop : EventLoop κ σ Q A ε α} {memory : σ} (moved : outside loop.memory memory) :
      Step body answers outside loop (.elsewhere loop.memory memory) { loop with memory }

variable {body : κ → Coroutine σ Q A ε α} {answers : σ → (query : Q) → A query → σ → Prop}
  {outside : σ → σ → Prop} {loop loop' : EventLoop κ σ Q A ε α} {event : LoopEvent κ σ Q A}
  {events : List (LoopEvent κ σ Q A)}

theorem ran_tasks (loop : EventLoop κ σ Q A ε α) (pid other : Nat) (call : κ)
    (segment : Coroutine σ Q A ε α × σ) : (loop.ran pid call segment).tasks other
      = if other = pid then some ⟨call, segment.1⟩ else loop.tasks other :=
  Function.update_apply loop.tasks pid (some ⟨call, segment.1⟩) other

theorem Step.memory (h : Step body answers outside loop event loop') :
    event.before = loop.memory ∧ event.after = loop'.memory := by
  cases h with
  | started => exact ⟨rfl, rfl⟩
  | resumed => exact ⟨rfl, rfl⟩
  | elsewhere => exact ⟨rfl, rfl⟩

variable {call : κ}

theorem Step.ran_task (h : Step body answers outside loop event loop') {pid : Nat}
    {given : Option ((query : Q) × A query)} (hsegment : event.segment = some (pid, call, given)) :
    ∃ rest, loop'.tasks pid = some ⟨call, rest⟩ := by
  cases h with
  | started free =>
    cases hsegment
    exact ⟨_, (ran_tasks _ _ _ _ _).trans (if_pos rfl)⟩
  | resumed waiting answered =>
    cases hsegment
    exact ⟨_, (ran_tasks _ _ _ _ _).trans (if_pos rfl)⟩
  | elsewhere moved => cases hsegment

/-! ## Calls that meet an outline -/

/-- Every call rests in its local state; a call that was not started is in the first one. -/
def Outlined (o : Outline κ μ σ Q A ε α) (first : μ) (states : Nat → μ)
    (loop : EventLoop κ σ Q A ε α) : Prop :=
  ∀ pid, match loop.tasks pid with
    | none => states pid = first
    | some task => Coroutine.Rests o task.call (states pid) task.rest

variable {o : Outline κ μ σ Q A ε α} {first : μ} {states : Nat → μ}

theorem Idle.outlined (h : Idle loop) : Outlined o first (fun _ => first) loop := by
  intro pid
  rw [h pid]

theorem Outlined.ran (h : Outlined o first states loop) {pid : Nat} {m : μ}
    {segment : Coroutine σ Q A ε α × σ} (hrests : Coroutine.Rests o call m segment.1) :
    Outlined o first (Function.update states pid m) (loop.ran pid call segment) := by
  intro other
  rw [ran_tasks]
  by_cases heq : other = pid
  · subst heq
    rw [if_pos rfl, Function.update_self]
    exact hrests
  · rw [if_neg heq, Function.update_of_ne heq]
    exact h other

/-- The segment an event is, as a move of the outline to the local state `m`. -/
structure Moved (o : Outline κ μ σ Q A ε α) (first : μ) (states : Nat → μ)
    (event : LoopEvent κ σ Q A) (pid : Nat) (call : κ) (given : Option ((query : Q) × A query))
    (m : μ) : Prop where
  segment : event.segment = some (pid, call, given)
  stood : match given with
    | none => states pid = first
    | some told => o.asks call (states pid) told.1
  moves : o.moves call ⟨given, states pid, event.before⟩ m event.after

/-- **A step is a move of the outline**, or comes from elsewhere. -/
theorem Outlined.step (hanswers : o.answers = answers)
    (hbody : ∀ call memory, o.knows first memory →
      Coroutine.Meets o call (Coroutine.Over o call) (body call) ⟨none, first, memory⟩ memory)
    (h : Outlined o first states loop) (hknows : ∀ pid, o.knows (states pid) loop.memory)
    (hstep : Step body answers outside loop event loop') :
    (∃ pid call given m, Moved o first states event pid call given m
        ∧ Outlined o first (Function.update states pid m) loop')
      ∨ event.segment = none ∧ outside event.before event.after ∧ Outlined o first states loop' := by
  cases hstep with
  | @started pid call free =>
    have hfirst : states pid = first := by
      have hpid := h pid
      rwa [free] at hpid
    have hmeets := hbody call loop.memory (hfirst ▸ hknows pid)
    obtain ⟨m, hmoves, hrests⟩ := hmeets.settle
    rw [← hfirst] at hmoves
    exact .inl ⟨pid, call, none, m, ⟨rfl, hfirst, hmoves⟩, h.ran hrests⟩
  | @resumed pid call query resume answer memory waiting answered =>
    have hpid := h pid
    rw [waiting] at hpid
    obtain ⟨hasks, hresume⟩ := hpid
    rw [← hanswers] at answered
    obtain ⟨m, hmoves, hrests⟩ := (hresume answer loop.memory memory (hknows pid) answered).settle
    exact .inl ⟨pid, call, some ⟨query, answer⟩, m, ⟨rfl, hasks, hmoves⟩, h.ran hrests⟩
  | elsewhere moved => exact .inr ⟨rfl, moved, h⟩

theorem Outlined.waiting (h : Outlined o first states loop) {pid : Nat} {query : Q}
    {resume : A query → Coroutine σ Q A ε α}
    (hwaiting : loop.tasks pid = some ⟨call, .await query resume⟩) :
    o.asks call (states pid) query := by
  have hpid := h pid
  rw [hwaiting] at hpid
  exact hpid.1

theorem Outlined.failed (h : Outlined o first states loop) {pid : Nat} {error : ε}
    (hfailed : loop.tasks pid = some ⟨call, .fail error⟩) :
    o.ends call (states pid) (.error error) := by
  have hpid := h pid
  rw [hfailed] at hpid
  exact hpid

/-! ## Scripts

Where an await is answered by a function of the memory and of what the outside brings, a list of
inputs has one run. -/

/-- Who goes next. -/
inductive Input (κ τ : Type) where
  | start (pid : Nat) (call : κ)
  | answer (pid : Nat) (given : τ)

variable {τ : Type} {respond : τ → σ → (query : Q) → A query × σ}

/-- The step an input takes, if it can be taken. -/
def Input.take (body : κ → Coroutine σ Q A ε α) (respond : τ → σ → (query : Q) → A query × σ)
    (loop : EventLoop κ σ Q A ε α) : Input κ τ → Option (LoopEvent κ σ Q A × EventLoop κ σ Q A ε α)
  | .start pid call =>
    match loop.tasks pid with
    | none =>
      let segment := (body call).settle loop.memory
      some (.started pid call loop.memory segment.2, loop.ran pid call segment)
    | some _ => none
  | .answer pid given =>
    match loop.tasks pid with
    | some ⟨call, .await query resume⟩ =>
      let replied := respond given loop.memory query
      let segment := (resume replied.1).settle replied.2
      some (.resumed pid call query replied.1 loop.memory segment.2, loop.ran pid call segment)
    | _ => none

theorem Input.take_step {input : Input κ τ}
    (hanswers : ∀ given memory query, answers memory query (respond given memory query).1
      (respond given memory query).2)
    (h : input.take body respond loop = some (event, loop')) :
    Step body answers outside loop event loop' := by
  cases input with
  | start pid call =>
    simp only [Input.take] at h
    split at h
    · next hfree =>
      cases h
      exact .started hfree
    · cases h
  | answer pid given =>
    simp only [Input.take] at h
    split at h
    · next hwaiting =>
      cases h
      exact .resumed hwaiting (hanswers given _ _)
    · cases h

/-- The events of a script and the loop it leaves. An input that cannot be taken is skipped. -/
def play (body : κ → Coroutine σ Q A ε α) (respond : τ → σ → (query : Q) → A query × σ) :
    EventLoop κ σ Q A ε α → List (Input κ τ) → List (LoopEvent κ σ Q A) × EventLoop κ σ Q A ε α
  | loop, [] => ([], loop)
  | loop, input :: rest =>
    match input.take body respond loop with
    | none => play body respond loop rest
    | some (event, next) =>
      (event :: (play body respond next rest).1, (play body respond next rest).2)

/-- **Every script runs**, when its awaits are answered as they may be. -/
theorem play_run
    (hanswers : ∀ given memory query, answers memory query (respond given memory query).1
      (respond given memory query).2) (loop : EventLoop κ σ Q A ε α) (script : List (Input κ τ)) :
    Run (Step body answers outside) loop (play body respond loop script).1
      (play body respond loop script).2 := by
  induction script generalizing loop with
  | nil => exact Run.refl
  | cons input rest ih =>
    rw [play]
    split
    · exact ih loop
    · next event next htake =>
      exact (Run.single (Input.take_step hanswers htake)).append (ih next)

def Input.pid : Input κ τ → Nat
  | .start pid _ => pid
  | .answer pid _ => pid

theorem Input.take_tasks {input : Input κ τ} (h : input.take body respond loop = some (event, loop'))
    {other : Nat} (hne : other ≠ input.pid) : loop'.tasks other = loop.tasks other := by
  cases input with
  | start pid call =>
    simp only [Input.take] at h
    split at h
    · cases h
      exact (ran_tasks loop pid other call _).trans (if_neg hne)
    · cases h
  | answer pid given =>
    simp only [Input.take] at h
    split at h
    · cases h
      exact (ran_tasks loop pid other _ _).trans (if_neg hne)
    · cases h

theorem play_tasks {script : List (Input κ τ)} {other : Nat}
    (hother : ∀ input ∈ script, other ≠ input.pid) (loop : EventLoop κ σ Q A ε α) :
    (play body respond loop script).2.tasks other = loop.tasks other := by
  induction script generalizing loop with
  | nil => rfl
  | cons input rest ih =>
    have hrest : ∀ input ∈ rest, other ≠ input.pid :=
      fun input hmem => hother input (mem_cons_of_mem _ hmem)
    rw [play]
    split
    · exact ih hrest loop
    · next event next htake =>
      exact (ih hrest next).trans (Input.take_tasks htake (hother input mem_cons_self))

/-- The events of a script pass the check, each on the loop it comes to. -/
def play_checks (body : κ → Coroutine σ Q A ε α) (respond : τ → σ → (query : Q) → A query × σ)
    (check : EventLoop κ σ Q A ε α → LoopEvent κ σ Q A → Bool) :
    EventLoop κ σ Q A ε α → List (Input κ τ) → Bool
  | _, [] => true
  | loop, input :: rest =>
    match input.take body respond loop with
    | none => play_checks body respond check loop rest
    | some (event, next) => check loop event && play_checks body respond check next rest

/-- **A script whose events pass the check runs where a condition holds**, when the check is enough
for the condition on loops whose calls are below the bound. -/
theorem play_where {ok : List (LoopEvent κ σ Q A) → EventLoop κ σ Q A ε α → LoopEvent κ σ Q A → Prop}
    {check : EventLoop κ σ Q A ε α → LoopEvent κ σ Q A → Bool} {bound : Nat}
    (hanswers : ∀ given memory query, answers memory query (respond given memory query).1
      (respond given memory query).2)
    (hcheck : ∀ earlier loop event, (∀ pid, bound ≤ pid → loop.tasks pid = none) →
      check loop event = true → ok earlier loop event) {start : EventLoop κ σ Q A ε α}
    {script : List (Input κ τ)} (hidle : start.Idle) (hbelow : ∀ input ∈ script, input.pid < bound)
    (h : play_checks body respond check start script = true) :
    RunWhere (Step body answers outside) ok start (play body respond start script).1
      (play body respond start script).2 := by
  have hplays : ∀ (script : List (Input κ τ)) (earlier : List (LoopEvent κ σ Q A))
      (loop : EventLoop κ σ Q A ε α), (∀ pid, bound ≤ pid → loop.tasks pid = none) →
      (∀ input ∈ script, input.pid < bound) → play_checks body respond check loop script = true →
      RunWhere (Step body answers outside) ok start earlier loop →
      RunWhere (Step body answers outside) ok start (earlier ++ (play body respond loop script).1)
        (play body respond loop script).2 := by
    intro script
    induction script with
    | nil =>
      intro earlier loop _ _ _ hrun
      rw [play, append_nil]
      exact hrun
    | cons input rest ih =>
      intro earlier loop hfree hbelow hchecks hrun
      have hrest : ∀ input ∈ rest, input.pid < bound :=
        fun input hmem => hbelow input (mem_cons_of_mem _ hmem)
      simp only [play_checks] at hchecks
      rw [play]
      cases htake : input.take body respond loop with
      | none =>
        rw [htake] at hchecks
        exact ih earlier loop hfree hrest hchecks hrun
      | some taken =>
        obtain ⟨event, next⟩ := taken
        rw [htake] at hchecks
        obtain ⟨hevent, hchecks⟩ := Bool.and_eq_true_iff.mp hchecks
        have hnext : ∀ pid, bound ≤ pid → next.tasks pid = none := by
          intro pid hpid
          have hlt := hbelow input mem_cons_self
          rw [Input.take_tasks htake (by omega), hfree pid hpid]
        have hok := hcheck earlier loop event hfree hevent
        have happended := ih (earlier ++ [event]) next hnext hrest hchecks
          (.snoc hrun hok (Input.take_step hanswers htake))
        rwa [append_assoc] at happended
  have hrun := hplays script [] start (fun pid _ => hidle pid) hbelow h .refl
  rwa [nil_append] at hrun

end EventLoop

end Lib
