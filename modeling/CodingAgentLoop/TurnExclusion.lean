/-
Turns, maintenance and workspace exports of one session (`coding_agent/runs/lifecycle.py`,
`coding_agent/runs/workspace_export.py`).

A turn and a maintenance operation run under the turn lock of the session, an export under a count
of exports. A turn looks at the count once it has the lock; a maintenance operation never does, and
an export looks at the lock before its awaits only. What keeps them apart is therefore the order in
which they come.
-/
import CodingAgentLoop.Errors
import CodingAgentLoop.Lib.EventLoop
import Mathlib.Data.Finset.Card

namespace CodingAgentLoop

open Lib EventLoop

/-! ## The session and its door -/

/-- What the three look at in a session: `task` is whether the task of the session is done,
`workspace` the cloud workspace of its default target. -/
structure ExclusionSession where
  turn_in_progress : Bool := false
  task : Option Bool := none
  workspace : Option String := none

/-- `session.turn_in_progress or (session.task is not None and not session.task.done())`. -/
def ExclusionSession.busy (session : ExclusionSession) : Bool :=
  session.turn_in_progress || session.task = some false

/-- The turn lock of a session, its count of exports, and the session. -/
structure SessionDoor where
  locked : Bool := false
  export_count : Nat := 0
  session : ExclusionSession := {}

namespace SessionDoor

section

variable (door : SessionDoor)

def workspace_export_in_progress : Bool := 0 < door.export_count

/-- `_begin_workspace_export(session_id)`. -/
def begin_export : SessionDoor :=
  { door with export_count := door.export_count + 1 }

/-- `_end_workspace_export(session_id)`. -/
def end_export : SessionDoor :=
  { door with export_count := door.export_count - 1 }

def acquire : SessionDoor := { door with locked := true }

def release : SessionDoor := { door with locked := false }

end

end SessionDoor

/-! ## The calls -/

/-- What the calls await; `again` is the second check of an export. The body of a turn or of a
maintenance operation has awaits `B` of its own. -/
inductive ExclusionQuery (B : Type) where
  | assert_owner (again : Bool)
  | load_session
  | to_thread
  | body (query : B)

def ExclusionQuery.Answer {B : Type} (R : B → Type) : ExclusionQuery B → Type
  | assert_owner _ => Except StoreError Unit
  | load_session => Except StoreError Unit
  | to_thread => Except StoreError String
  | body query => R query

/-- How a call fails: it is refused before it does what it came for, or that failed. -/
inductive ExclusionError where
  | refused (error : StoreError)
  | raised (error : StoreError)
  deriving DecidableEq

section Calls

variable {B : Type} {R : B → Type}

/-- The body of a turn or of a maintenance operation: any code on the session. -/
abbrev SessionBody (B : Type) (R : B → Type) : Type := Coroutine ExclusionSession B R StoreError Unit

abbrev ExclusionTask (B : Type) (R : B → Type) (α : Type) : Type :=
  Coroutine SessionDoor (ExclusionQuery B) (ExclusionQuery.Answer R) ExclusionError α

def turn_already_in_progress : ExclusionError :=
  .refused (.raised .RuntimeError "turn already in progress")

/-- `if condition: raise RuntimeError("turn already in progress")`. -/
def refuse_if (condition : Bool) : ExclusionTask B R Unit :=
  if condition then .fail turn_already_in_progress else pure ()

def awaited (query : ExclusionQuery B) : ExclusionTask B R (query.Answer R) := Coroutine.ask query

/-- `await self.assert_owner(session_id)`. -/
def assert_owner (again : Bool) (wrap : StoreError → ExclusionError) : ExclusionTask B R Unit := do
  let answer : Except StoreError Unit ← awaited (.assert_owner again)
  Coroutine.lift (Except.mapError wrap answer)

/-- `await self.load_session(session_id)`; the session is the one in the cache. -/
def load_session : ExclusionTask B R Unit := do
  let answer : Except StoreError Unit ← awaited .load_session
  Coroutine.lift (Except.mapError .refused answer)

/-- `await body(session)`. -/
def run_body (body : SessionBody B R) : ExclusionTask B R Unit :=
  body.zoom SessionDoor.session (fun door session => { door with session }) .body (fun _ answer => answer)
    .raised

/-- `async with lock`, for a lock that is free. -/
def with_lock (code : ExclusionTask B R Unit) : ExclusionTask B R Unit := do
  Coroutine.modify SessionDoor.acquire
  code.ensuring SessionDoor.release

/-- `RuntimeTurnAdmissionService.run_exclusive(session_id, body)`. -/
def turn_run_exclusive (body : SessionBody B R) : ExclusionTask B R Unit := do
  let door ← Coroutine.get
  refuse_if door.locked
  with_lock (do
    let door ← Coroutine.get
    refuse_if door.workspace_export_in_progress
    assert_owner false .refused
    load_session
    run_body body)

/-- `RuntimeMaintenanceAdmissionService.run_exclusive(session_id, body)`. -/
def maintenance_run_exclusive (body : SessionBody B R) : ExclusionTask B R Unit := do
  let door ← Coroutine.get
  refuse_if door.locked
  with_lock (do
    assert_owner false .refused
    load_session
    let door ← Coroutine.get
    refuse_if door.session.busy
    run_body body)

/-- What `export_archive` does while it is counted. -/
def export_counted : ExclusionTask B R Unit := do
  let answer : Except StoreError String ← awaited .to_thread
  let _ ← Coroutine.lift (Except.mapError .raised answer)
  assert_owner true .raised

def export_archive : ExclusionTask B R Unit := do
  let door ← Coroutine.get
  refuse_if door.locked
  assert_owner false .refused
  load_session
  let door ← Coroutine.get
  refuse_if door.session.busy
  match door.session.workspace with
  | none => .fail (.refused (.raised .ValueError "Workspace export requires cloud session"))
  | some _ => do
      Coroutine.modify SessionDoor.begin_export
      export_counted.ensuring SessionDoor.end_export

inductive ExclusionCall (B : Type) (R : B → Type) where
  | turn (body : SessionBody B R)
  | maintenance (body : SessionBody B R)
  | export_archive

def ExclusionCall.code : ExclusionCall B R → ExclusionTask B R Unit
  | .turn body => turn_run_exclusive body
  | .maintenance body => maintenance_run_exclusive body
  | .export_archive => CodingAgentLoop.export_archive

/-- Owner checks, loads, archives and awaits of a body are answered in any way; none of them
touches the door. -/
def ExclusionAnswers (B : Type) (R : B → Type) (door : SessionDoor) (query : ExclusionQuery B)
    (_ : query.Answer R) (door' : SessionDoor) : Prop := door' = door

/-- From elsewhere the session changes, never its lock and count. -/
def SessionChanges (door door' : SessionDoor) : Prop := ∃ session, door' = { door with session }

abbrev ExclusionLoop (B : Type) (R : B → Type) : Type :=
  EventLoop (ExclusionCall B R) SessionDoor (ExclusionQuery B) (ExclusionQuery.Answer R)
    ExclusionError Unit

abbrev ExclusionEvent (B : Type) (R : B → Type) : Type :=
  LoopEvent (ExclusionCall B R) SessionDoor (ExclusionQuery B) (ExclusionQuery.Answer R)

abbrev ExclusionStep (B : Type) (R : B → Type) :
    ExclusionLoop B R → ExclusionEvent B R → ExclusionLoop B R → Prop :=
  EventLoop.Step ExclusionCall.code (ExclusionAnswers B R) SessionChanges

/-! ## Where a call stands -/

/-- Where a call stands: away from the session (not begun, or refused), under the lock, in its
body, past it, in an export, or past that. -/
inductive Place where
  | away
  | holding
  | inside
  | left
  | exporting
  | exported

def Place.holds : Place → Bool
  | holding => true
  | inside => true
  | _ => false

def Place.spares : Place → Bool
  | away => true
  | holding => true
  | _ => false

def ExclusionCall.takes_lock : ExclusionCall B R → Bool
  | turn _ => true
  | maintenance _ => true
  | export_archive => false

def session_loaded : (query : ExclusionQuery B) × query.Answer R :=
  ⟨.load_session, (.ok () : Except StoreError Unit)⟩

/-- What one segment of a call does to its place and to the door. -/
inductive DoorMove (call : ExclusionCall B R) :
    Option ((query : ExclusionQuery B) × query.Answer R) → Place → SessionDoor → Place →
      SessionDoor → Prop
  | stays {given} {door : SessionDoor} : DoorMove call given .away door .away door
  | takes {given} {door : SessionDoor} (lock : call.takes_lock = true) (free : door.locked = false)
      (looked : ∀ body, call = .turn body → door.export_count = 0) :
      DoorMove call given .away door .holding door.acquire
  | waits {given} {door : SessionDoor} : DoorMove call given .holding door .holding door
  | refused {given} {door : SessionDoor} : DoorMove call given .holding door .away door.release
  | enters {given} {door : SessionDoor} (session : ExclusionSession) :
      DoorMove call given .holding door .inside { door with session }
  | passes {given} {door : SessionDoor} (session : ExclusionSession) :
      DoorMove call given .holding door .left ({ door with session } : SessionDoor).release
  | works {given} {door : SessionDoor} (session : ExclusionSession) :
      DoorMove call given .inside door .inside { door with session }
  | leaves {given} {door : SessionDoor} (session : ExclusionSession) :
      DoorMove call given .inside door .left ({ door with session } : SessionDoor).release
  | begins {door : SessionDoor} (kind : call = .export_archive) (idle : door.session.busy = false)
      (cloud : door.session.workspace ≠ none) :
      DoorMove call (some session_loaded) .away door .exporting door.begin_export
  | archives {given} {door : SessionDoor} : DoorMove call given .exporting door .exporting door
  | ends {given} {door : SessionDoor} :
      DoorMove call given .exporting door .exported door.end_export

def AwaitsAt (call : ExclusionCall B R) (place : Place) : ExclusionQuery B → Prop
  | .assert_owner false => place = if call.takes_lock then .holding else .away
  | .load_session => place = if call.takes_lock then .holding else .away
  | .body _ => call.takes_lock = true ∧ place = .inside
  | .to_thread => call.takes_lock = false ∧ place = .exporting
  | .assert_owner true => call.takes_lock = false ∧ place = .exporting

def EndsAt (place : Place) : Except ExclusionError Unit → Prop
  | .error (.refused _) => place = .away
  | _ => place = .left ∨ place = .exported

variable (B R) in
def door_outline : Outline (ExclusionCall B R) Place SessionDoor (ExclusionQuery B)
    (ExclusionQuery.Answer R) ExclusionError Unit where
  knows := fun _ _ => True
  answers := ExclusionAnswers B R
  moves := fun call opening place door =>
    DoorMove call opening.given opening.state opening.memory place door
  asks := AwaitsAt
  ends := fun _ => EndsAt

/-! ## What a call does, segment by segment -/

section Segments

variable {call : ExclusionCall B R}
  {opening : Opening Place SessionDoor (ExclusionQuery B) (ExclusionQuery.Answer R)}
  {door : SessionDoor}

def Released (call : ExclusionCall B R) (result : Except ExclusionError Unit)
    (opening : Opening Place SessionDoor (ExclusionQuery B) (ExclusionQuery.Answer R))
    (door : SessionDoor) : Prop :=
  Coroutine.Over (door_outline B R) call result opening door.release

/-- A body changes the session, at every await and at its end. The induction is on its code. -/
theorem meets_run_body (hlock : call.takes_lock = true) (body : SessionBody B R)
    (hheld : opening.state.holds = true) (session : ExclusionSession)
    (hdoor : door = { opening.memory with session }) :
    Coroutine.Meets (door_outline B R) call (Released call) (run_body body) opening door := by
  induction body generalizing opening door session with
  | done value =>
    subst hdoor
    obtain ⟨given, place, memory⟩ := opening
    cases place with
    | holding => exact ⟨.left, .passes session, .inl rfl⟩
    | inside => exact ⟨.left, .leaves session, .inl rfl⟩
    | _ => cases hheld
  | fail error =>
    subst hdoor
    obtain ⟨given, place, memory⟩ := opening
    cases place with
    | holding => exact ⟨.left, .passes session, .inl rfl⟩
    | inside => exact ⟨.left, .leaves session, .inl rfl⟩
    | _ => cases hheld
  | await query resume ih =>
    subst hdoor
    have hresume : ∀ answer (before after : SessionDoor), after = before →
        Coroutine.Meets (door_outline B R) call (Released call) (run_body (resume answer))
          ⟨some ⟨.body query, answer⟩, .inside, before⟩ after := by
      rintro answer before after rfl
      exact ih answer rfl after.session rfl
    obtain ⟨given, place, memory⟩ := opening
    cases place with
    | holding =>
      exact ⟨.inside, .enters session, ⟨hlock, rfl⟩, fun answer before after _ => hresume answer before after⟩
    | inside =>
      exact ⟨.inside, .works session, ⟨hlock, rfl⟩, fun answer before after _ => hresume answer before after⟩
    | _ => cases hheld
  | access change next ih =>
    subst hdoor
    exact ih session hheld (change session) rfl

theorem refused_released (call : ExclusionCall B R)
    (given : Option ((query : ExclusionQuery B) × query.Answer R)) (door : SessionDoor)
    (error : StoreError) :
    Released call (.error (.refused error)) ⟨given, .holding, door⟩ door :=
  ⟨.away, .refused, rfl⟩

theorem meets_admission {next : ExclusionTask B R Unit} (hlock : call.takes_lock = true)
    (hmoves : DoorMove call opening.given opening.state opening.memory .holding door)
    (hnext : ∀ given memory, Coroutine.Meets (door_outline B R) call (Released call) next
      ⟨given, .holding, memory⟩ memory) :
    Coroutine.Meets (door_outline B R) call (Released call) (do
      assert_owner false .refused
      load_session
      next) opening door := by
  have hwaits {query : ExclusionQuery B} (hasks : AwaitsAt call .holding query)
      {opening : Opening Place SessionDoor (ExclusionQuery B) (ExclusionQuery.Answer R)}
      {door : SessionDoor} {following : query.Answer R → ExclusionTask B R Unit}
      (hmoves : DoorMove call opening.given opening.state opening.memory .holding door)
      (hfollowing : ∀ answer memory, Coroutine.Meets (door_outline B R) call (Released call)
        (following answer) ⟨some ⟨query, answer⟩, .holding, memory⟩ memory) :
      Coroutine.Meets (door_outline B R) call (Released call) (awaited query >>= following)
        opening door := by
    refine ⟨.holding, hmoves, hasks, ?_⟩
    rintro answer before after - rfl
    exact hfollowing answer after
  have hholding : Place.holding = if call.takes_lock then .holding else .away := by
    rw [if_pos hlock]
  have howner : AwaitsAt call .holding (.assert_owner false) := hholding
  have hload : AwaitsAt call .holding .load_session := hholding
  refine hwaits howner hmoves (fun answer memory => ?_)
  rcases answer with error | _
  · exact refused_released call _ memory error
  refine hwaits hload .waits (fun answer memory => ?_)
  rcases answer with error | _
  · exact refused_released call _ memory error
  · exact hnext _ memory

theorem meets_refuse_if {condition : Bool} {next : Unit → ExclusionTask B R Unit}
    {post : Except ExclusionError Unit →
      Opening Place SessionDoor (ExclusionQuery B) (ExclusionQuery.Answer R) → SessionDoor → Prop}
    (hrefused : condition = true → post (.error turn_already_in_progress) opening door)
    (hnext : condition = false → Coroutine.Meets (door_outline B R) call post (next ()) opening door) :
    Coroutine.Meets (door_outline B R) call post (refuse_if condition >>= next) opening door := by
  unfold refuse_if
  cases condition with
  | true => exact hrefused rfl
  | false => exact hnext rfl

theorem refused_away (call : ExclusionCall B R)
    (given : Option ((query : ExclusionQuery B) × query.Answer R)) (door : SessionDoor)
    (error : StoreError) :
    Coroutine.Over (door_outline B R) call (.error (.refused error)) ⟨given, .away, door⟩ door :=
  ⟨.away, .stays, rfl⟩

theorem release_acquire (h : door.locked = false) : door.acquire.release = door := by
  unfold SessionDoor.acquire SessionDoor.release
  cases door
  simp_all

theorem meets_turn (body : SessionBody B R) (door : SessionDoor) :
    Coroutine.Meets (door_outline B R) (.turn body) (Coroutine.Over (door_outline B R) (.turn body))
      (turn_run_exclusive body) ⟨none, .away, door⟩ door := by
  refine meets_refuse_if (fun _ => refused_away _ _ door _) (fun hfree => ?_)
  refine Coroutine.Meets.ensuring (meets_refuse_if (fun _ => ?_) (fun hcount => ?_))
  · have hback := release_acquire hfree
    show Coroutine.Over _ _ _ _ door.acquire.release
    rw [hback]
    exact refused_away _ _ door _
  · have hnone : door.export_count = 0 := by
      have hcount : decide (0 < door.export_count) = false := hcount
      have hle := of_decide_eq_false hcount
      omega
    refine meets_admission rfl (.takes rfl hfree (fun _ _ => hnone)) (fun given memory => ?_)
    exact meets_run_body rfl body rfl memory.session rfl

theorem meets_maintenance (body : SessionBody B R) (door : SessionDoor) :
    Coroutine.Meets (door_outline B R) (.maintenance body)
      (Coroutine.Over (door_outline B R) (.maintenance body)) (maintenance_run_exclusive body)
      ⟨none, .away, door⟩ door := by
  refine meets_refuse_if (fun _ => refused_away _ _ door _) (fun hfree => ?_)
  have hturn : ∀ other, ExclusionCall.maintenance body = .turn other → door.export_count = 0 := by
    intro other heq
    cases heq
  refine Coroutine.Meets.ensuring (meets_admission rfl (.takes rfl hfree hturn) (fun given memory => ?_))
  refine meets_refuse_if (fun _ => refused_released _ _ memory _) (fun _ => ?_)
  exact meets_run_body rfl body rfl memory.session rfl

theorem meets_export (door : SessionDoor) :
    Coroutine.Meets (door_outline B R) .export_archive
      (Coroutine.Over (door_outline B R) .export_archive) export_archive ⟨none, .away, door⟩ door := by
  refine meets_refuse_if (fun _ => refused_away _ _ door _) (fun _ => ?_)
  refine ⟨.away, .stays, rfl, ?_⟩
  rintro answer before after - rfl
  rcases answer with error | _
  · exact refused_away _ _ after error
  refine ⟨.away, .stays, rfl, ?_⟩
  rintro answer before after - rfl
  rcases answer with error | ⟨⟩
  · exact refused_away _ _ after error
  refine meets_refuse_if (fun _ => refused_away _ _ after _) (fun hidle => ?_)
  split
  · exact refused_away _ _ after _
  · next workspace hworkspace =>
    have hcloud : after.session.workspace ≠ none := by
      rw [hworkspace]
      exact Option.some_ne_none workspace
    refine ⟨.exporting, .begins rfl hidle hcloud, ⟨rfl, rfl⟩, ?_⟩
    rintro answer before after - rfl
    rcases answer with error | archive
    · exact ⟨.exported, .ends, .inr rfl⟩
    refine ⟨.exporting, .archives, ⟨rfl, rfl⟩, ?_⟩
    rintro answer before after - rfl
    rcases answer with error | _
    · exact ⟨.exported, .ends, .inr rfl⟩
    · exact ⟨.exported, .ends, .inr rfl⟩

theorem meets_code (call : ExclusionCall B R) (door : SessionDoor) :
    Coroutine.Meets (door_outline B R) call (Coroutine.Over (door_outline B R) call) call.code
      ⟨none, .away, door⟩ door := by
  cases call with
  | turn body => exact meets_turn body door
  | maintenance body => exact meets_maintenance body door
  | export_archive => exact meets_export door

end Segments

/-! ## What is to hold -/

section

variable (loop : ExclusionLoop B R) (pid : Nat)

/-- A turn or a maintenance operation is under way: it was let in and is not over. -/
def Holds : Prop :=
  ∃ call query resume, loop.tasks pid = some ⟨call, .await query resume⟩ ∧ call.takes_lock = true

def InBody : Prop :=
  ∃ call query resume, loop.tasks pid = some ⟨call, .await (.body query) resume⟩

def Exports : Prop :=
  ∃ query resume, loop.tasks pid = some ⟨.export_archive, .await query resume⟩
    ∧ (query = .to_thread ∨ query = .assert_owner true)

end

def RunsBody : ExclusionEvent B R → Prop
  | .resumed _ call .load_session _ _ _ => call.takes_lock = true
  | .resumed _ _ (.body _) _ _ _ => True
  | _ => False

/-- The segment leaves the session and the count of exports as they were. -/
def LeavesSession (event : ExclusionEvent B R) : Prop :=
  event.after.session = event.before.session
    ∧ event.after.export_count = event.before.export_count

/-- Turns, maintenance and exports exclude each other, and a refused call has done nothing. -/
structure Excluded (events : List (ExclusionEvent B R)) (loop : ExclusionLoop B R) : Prop where
  one : ∀ pid other, InBody loop pid → InBody loop other → pid = other
  apart : ∀ pid other, InBody loop pid → ¬ Exports loop other
  segments : ∀ event ∈ events, RunsBody event → event.before.export_count = 0
  lock : loop.memory.locked = true ↔ ∃ pid, Holds loop pid
  count : ∃ exporting : Finset Nat, (∀ pid, pid ∈ exporting ↔ Exports loop pid)
    ∧ loop.memory.export_count = exporting.card
  refused : ∀ pid call error, loop.tasks pid = some ⟨call, .fail (.refused error)⟩ →
    ∀ event ∈ events, event.pid = some pid → LeavesSession event

/-- What keeps them apart: a maintenance operation finds no export when it takes the lock, and an
export that goes on to begin finds the lock free. -/
def enters_alone : ExclusionEvent B R → Bool
  | .started _ (.maintenance _) before _ => before.locked || before.export_count = 0
  | .resumed _ .export_archive .load_session (.ok ()) before _ =>
    !before.locked || before.session.busy || before.session.workspace.isNone
  | _ => true

def EntersAlone (_ : List (ExclusionEvent B R)) (_ : ExclusionLoop B R)
    (event : ExclusionEvent B R) : Prop := enters_alone event = true

/-! ## The invariant -/

def LockHeld (places : Nat → Place) (door : SessionDoor) : Prop :=
  (door.locked = true ↔ ∃ pid, (places pid).holds = true)
    ∧ ∀ pid other, (places pid).holds = true → (places other).holds = true → pid = other

def ExportsCounted (places : Nat → Place) (door : SessionDoor) : Prop :=
  ∃ exporting : Finset Nat, (∀ pid, pid ∈ exporting ↔ places pid = .exporting)
    ∧ door.export_count = exporting.card

section Moves

variable {places : Nat → Place} {door door' : SessionDoor} {pid : Nat} {place' : Place}
  {call : ExclusionCall B R} {given : Option ((query : ExclusionQuery B) × query.Answer R)}

theorem LockHeld.move (h : LockHeld places door)
    (hmove : DoorMove call given (places pid) door place' door') :
    LockHeld (Function.update places pid place') door' := by
  obtain ⟨hlock, hone⟩ := h
  generalize hplace : places pid = place at hmove
  -- a call that does not hold the lock before or after leaves the holders as they are
  have hsame (hbefore : (places pid).holds = place'.holds) (hlocked : door'.locked = door.locked) :
      LockHeld (Function.update places pid place') door' := by
    have hholds : ∀ other, ((Function.update places pid place') other).holds = (places other).holds := by
      intro other
      by_cases heq : other = pid
      · rw [heq, Function.update_self, hbefore]
      · rw [Function.update_of_ne heq]
    constructor
    · simp only [hholds, hlocked, hlock]
    · intro first second hfirst hsecond
      rw [hholds] at hfirst hsecond
      exact hone first second hfirst hsecond
  have hfreed (hheld : (places pid).holds = true) (hafter : place'.holds = false)
      (hlocked : door'.locked = false) : LockHeld (Function.update places pid place') door' := by
    have hnobody : ∀ other, ((Function.update places pid place') other).holds = false := by
      intro other
      by_cases heq : other = pid
      · rw [heq, Function.update_self, hafter]
      · rw [Function.update_of_ne heq]
        by_contra hother
        rw [Bool.not_eq_false] at hother
        exact heq (hone other pid hother hheld)
    constructor
    · simp [hlocked, hnobody]
    · intro first second hfirst
      rw [hnobody] at hfirst
      cases hfirst
  cases hmove with
  | takes _ free _ =>
    have hnobody : ∀ other, (places other).holds = false := by
      intro other
      by_contra hother
      rw [Bool.not_eq_false] at hother
      have hlocked := hlock.mpr ⟨other, hother⟩
      rw [free] at hlocked
      cases hlocked
    have hholder : ∀ other, ((Function.update places pid .holding) other).holds = true →
        other = pid := by
      intro other hother
      by_contra hne
      rw [Function.update_of_ne hne, hnobody] at hother
      cases hother
    constructor
    · refine ⟨fun _ => ⟨pid, ?_⟩, fun _ => rfl⟩
      rw [Function.update_self]
      rfl
    · intro first second hfirst hsecond
      rw [hholder first hfirst, hholder second hsecond]
  | refused => exact hfreed (congrArg Place.holds hplace) rfl rfl
  | passes session => exact hfreed (congrArg Place.holds hplace) rfl rfl
  | leaves session => exact hfreed (congrArg Place.holds hplace) rfl rfl
  | _ => exact hsame (by simp [hplace, Place.holds]) rfl

theorem ExportsCounted.move (h : ExportsCounted places door)
    (hmove : DoorMove call given (places pid) door place' door') :
    ExportsCounted (Function.update places pid place') door' := by
  obtain ⟨exporting, hmem, hcount⟩ := h
  generalize hplace : places pid = place at hmove
  have hsame (hbefore : places pid = .exporting ↔ place' = .exporting)
      (hafter : door'.export_count = door.export_count) :
      ExportsCounted (Function.update places pid place') door' := by
    refine ⟨exporting, fun other => ?_, hafter.trans hcount⟩
    by_cases heq : other = pid
    · rw [heq, Function.update_self, hmem, hbefore]
    · rw [Function.update_of_ne heq, hmem]
  cases hmove with
  | begins _ _ _ =>
    have hnew : pid ∉ exporting := by
      rw [hmem, hplace]
      exact Place.noConfusion
    refine ⟨insert pid exporting, fun other => ?_, ?_⟩
    · by_cases heq : other = pid
      · simp [heq]
      · rw [Finset.mem_insert, or_iff_right heq, Function.update_of_ne heq, hmem]
    · rw [Finset.card_insert_of_notMem hnew, ← hcount]
      rfl
  | ends =>
    have hold : pid ∈ exporting := (hmem pid).mpr hplace
    refine ⟨exporting.erase pid, fun other => ?_, ?_⟩
    · by_cases heq : other = pid
      · simp [heq]
      · rw [Finset.mem_erase, and_iff_right heq, Function.update_of_ne heq, hmem]
    · rw [Finset.card_erase_of_mem hold, ← hcount]
      rfl
  | _ => exact hsame (by simp [hplace]) rfl

end Moves

/-- What every step preserves. -/
structure DoorKept (events : List (ExclusionEvent B R)) (places : Nat → Place)
    (loop : ExclusionLoop B R) : Prop where
  outlined : Outlined (door_outline B R) .away places loop
  lock : LockHeld places loop.memory
  count : ExportsCounted places loop.memory
  apart : loop.memory.locked = true → loop.memory.export_count = 0
  spared : ∀ pid, (places pid).spares = true → ∀ event ∈ events, event.pid = some pid →
    LeavesSession event
  segments : ∀ event ∈ events, RunsBody event → event.before.export_count = 0

section Step

variable {events : List (ExclusionEvent B R)} {loop loop' : ExclusionLoop B R}
  {event : ExclusionEvent B R} {places : Nat → Place} {pid : Nat} {place' : Place}
  {call : ExclusionCall B R} {given : Option ((query : ExclusionQuery B) × query.Answer R)}

theorem away_starts {m : Place}
    (hmoved : Moved (door_outline B R) .away places event pid call given m)
    (hlock : call.takes_lock = true) (haway : places pid = .away) : given = none := by
  cases given with
  | none => rfl
  | some told =>
    obtain ⟨query, answer⟩ := told
    have hasks : AwaitsAt call (places pid) query := hmoved.stood
    rw [haway] at hasks
    unfold AwaitsAt at hasks
    split at hasks
    · rw [if_pos hlock] at hasks
      cases hasks
    · rw [if_pos hlock] at hasks
      cases hasks
    · cases hasks.2
    · cases hasks.2
    · cases hasks.2

theorem alone_moves (hok : EntersAlone events loop event)
    (hmoved : Moved (door_outline B R) .away places event pid call given place')
    (haway : places pid = .away) :
    (∀ body, call = .maintenance body → event.before.locked = false →
        event.before.export_count = 0)
      ∧ (call = .export_archive → given = some session_loaded → event.before.locked = true →
          event.before.session.busy = true ∨ event.before.session.workspace = none) := by
  have hsegment := hmoved.segment
  constructor
  · rintro body rfl hfree
    obtain rfl := away_starts hmoved rfl haway
    cases event with
    | started other started before after =>
      cases hsegment
      have hok : (before.locked || decide (before.export_count = 0)) = true := hok
      have hfree : before.locked = false := hfree
      rw [hfree, Bool.false_or, decide_eq_true_eq] at hok
      exact hok
    | resumed other resumed query answer before after => cases hsegment
    | elsewhere before after => cases hsegment
  · rintro rfl rfl hlocked
    cases event with
    | started other started before after => cases hsegment
    | resumed other resumed query answer before after =>
      cases hsegment
      have hok : (!before.locked || before.session.busy || before.session.workspace.isNone) = true :=
        hok
      have hlocked : before.locked = true := hlocked
      rw [hlocked, Bool.not_true, Bool.false_or, Bool.or_eq_true, Option.isNone_iff_eq_none] at hok
      exact hok
    | elsewhere before after => cases hsegment

theorem apart_step (h : event.before.locked = true → event.before.export_count = 0)
    (hok : EntersAlone events loop event)
    (hmoved : Moved (door_outline B R) .away places event pid call given place') :
    event.after.locked = true → event.after.export_count = 0 := by
  have hmove : DoorMove call given (places pid) event.before place' event.after := hmoved.moves
  have halone := alone_moves hok hmoved
  generalize hplace : places pid = place at hmove halone
  generalize event.before = before at h hmove halone
  generalize event.after = after at hmove
  cases hmove with
  | takes lock free looked =>
    intro _
    cases call with
    | turn body => exact looked body rfl
    | maintenance body => exact (halone rfl).1 body rfl free
    | export_archive => cases lock
  | begins kind idle cloud =>
    intro hlocked
    rcases (halone rfl).2 kind rfl hlocked with hbusy | hnone
    · rw [idle] at hbusy
      cases hbusy
    · exact absurd hnone cloud
  | refused =>
    intro hlocked
    cases hlocked
  | passes session =>
    intro hlocked
    cases hlocked
  | leaves session =>
    intro hlocked
    cases hlocked
  | ends =>
    intro hlocked
    show before.export_count - 1 = 0
    have hnone := h hlocked
    omega
  | _ => exact h

theorem spares_move {before after : SessionDoor} {place : Place}
    (hmove : DoorMove call given place before place' after) (hspares : place'.spares = true) :
    place.spares = true ∧ after.session = before.session
      ∧ after.export_count = before.export_count := by
  cases hmove with
  | stays => exact ⟨rfl, rfl, rfl⟩
  | takes _ _ _ => exact ⟨rfl, rfl, rfl⟩
  | waits => exact ⟨rfl, rfl, rfl⟩
  | refused => exact ⟨rfl, rfl, rfl⟩
  | _ => cases hspares

theorem runs_body_holds (hmoved : Moved (door_outline B R) .away places event pid call
    given place') (hruns : RunsBody event) : (places pid).holds = true := by
  have hsegment := hmoved.segment
  cases event with
  | started other started before after => exact hruns.elim
  | elsewhere before after => exact hruns.elim
  | resumed other resumed query answer before after =>
    cases hsegment
    have hstood : AwaitsAt call (places pid) query := hmoved.stood
    cases query with
    | assert_owner again => exact hruns.elim
    | to_thread => exact hruns.elim
    | load_session =>
      have hlock : call.takes_lock = true := hruns
      unfold AwaitsAt at hstood
      rw [if_pos hlock] at hstood
      rw [hstood]
      rfl
    | body query =>
      rw [hstood.2]
      rfl

/-- **What one step preserves.** -/
theorem kept_moved (h : DoorKept events places loop) (hok : EntersAlone events loop event)
    (hstep : ExclusionStep B R loop event loop')
    (hmoved : Moved (door_outline B R) .away places event pid call given place')
    (houtlined : Outlined (door_outline B R) .away (Function.update places pid place')
      loop') : DoorKept (events ++ [event]) (Function.update places pid place') loop' := by
  obtain ⟨hbefore, hafter⟩ := hstep.memory
  have hmove : DoorMove call given (places pid) event.before place' event.after := hmoved.moves
  have hlock := h.lock
  have hcount := h.count
  have hapart := h.apart
  rw [← hbefore] at hlock hcount hapart
  refine { outlined := houtlined, lock := ?_, count := ?_, apart := ?_, spared := ?_,
           segments := ?_ }
  · rw [← hafter]
    exact hlock.move hmove
  · rw [← hafter]
    exact hcount.move hmove
  · rw [← hafter]
    exact apart_step hapart hok hmoved
  · intro other hspares past hmem hpast
    rcases mem_snoc hmem with hold | rfl
    · refine h.spared other ?_ past hold hpast
      by_cases heq : other = pid
      · subst heq
        rw [Function.update_self] at hspares
        exact (spares_move hmove hspares).1
      · rwa [Function.update_of_ne heq] at hspares
    · have heq : other = pid := by
        have hsegment := hmoved.segment
        cases past with
        | started first started before after =>
          cases hsegment
          exact (Option.some.inj hpast).symm
        | resumed first resumed query answer before after =>
          cases hsegment
          exact (Option.some.inj hpast).symm
        | elsewhere before after => cases hsegment
      subst heq
      rw [Function.update_self] at hspares
      exact (spares_move hmove hspares).2
  · intro past hmem hruns
    rcases mem_snoc hmem with hold | rfl
    · exact h.segments past hold hruns
    · have hheld := runs_body_holds hmoved hruns
      exact hapart (hlock.1.mpr ⟨pid, hheld⟩)

theorem kept_elsewhere (h : DoorKept events places loop) (hstep : ExclusionStep B R loop event loop')
    (hsegment : event.segment = none) (hchanges : SessionChanges event.before event.after)
    (houtlined : Outlined (door_outline B R) .away places loop') :
    DoorKept (events ++ [event]) places loop' := by
  obtain ⟨hbefore, hafter⟩ := hstep.memory
  obtain ⟨session, hsession⟩ := hchanges
  have hmemory : loop'.memory = { loop.memory with session } := by rw [← hafter, hsession, hbefore]
  refine { outlined := houtlined, lock := ?_, count := ?_, apart := ?_, spared := ?_,
           segments := ?_ }
  · rw [hmemory]
    exact h.lock
  · rw [hmemory]
    exact h.count
  · rw [hmemory]
    exact h.apart
  · intro pid hspares past hmem hpast
    rcases mem_snoc hmem with hold | rfl
    · exact h.spared pid hspares past hold hpast
    · cases past with
      | started first started before after => cases hsegment
      | resumed first resumed query answer before after => cases hsegment
      | elsewhere before after => cases hpast
  · intro past hmem hruns
    rcases mem_snoc hmem with hold | rfl
    · exact h.segments past hold hruns
    · cases past with
      | started first started before after => cases hsegment
      | resumed first resumed query answer before after => cases hsegment
      | elsewhere before after => exact hruns.elim

end Step

/-! ## Every run -/

section Runs

variable {start loop : ExclusionLoop B R} {events : List (ExclusionEvent B R)}
  {places : Nat → Place} {pid : Nat}

theorem entry_place {call : ExclusionCall B R} {place : Place}
    (h : place = if call.takes_lock then .holding else .away) :
    (place.holds = true ↔ call.takes_lock = true) ∧ place ≠ .exporting := by
  cases hlock : call.takes_lock with
  | true =>
    rw [hlock, if_pos rfl] at h
    simp [h, Place.holds]
  | false =>
    rw [hlock, if_neg Bool.false_ne_true] at h
    simp [h, Place.holds]

theorem awaits_place {call : ExclusionCall B R} {place : Place} {query : ExclusionQuery B}
    (h : AwaitsAt call place query) :
    (place.holds = true ↔ call.takes_lock = true)
      ∧ (place = .exporting ↔ query = .to_thread ∨ query = .assert_owner true) := by
  cases query with
  | assert_owner again =>
    cases again with
    | false =>
      obtain ⟨hholds, hnot⟩ := entry_place h
      exact ⟨hholds, by simp [hnot]⟩
    | true =>
      obtain ⟨hlock, hplace⟩ := h
      simp [hlock, hplace, Place.holds]
  | load_session =>
    obtain ⟨hholds, hnot⟩ := entry_place h
    exact ⟨hholds, by simp [hnot]⟩
  | to_thread =>
    obtain ⟨hlock, hplace⟩ := h
    simp [hlock, hplace, Place.holds]
  | body query =>
    obtain ⟨hlock, hplace⟩ := h
    simp [hlock, hplace, Place.holds]

section

variable (h : Outlined (door_outline B R) .away places loop)

include h

theorem idle_place
    (hidle : ∀ call query resume, loop.tasks pid ≠ some ⟨call, .await query resume⟩) :
    (places pid).holds = false ∧ places pid ≠ .exporting := by
  have hpid := h pid
  have hended {result : Except ExclusionError Unit} (hends : EndsAt (places pid) result) :
      (places pid).holds = false ∧ places pid ≠ .exporting := by
    unfold EndsAt at hends
    split at hends
    · rw [hends]
      exact ⟨rfl, Place.noConfusion⟩
    · rcases hends with hplace | hplace
      · rw [hplace]
        exact ⟨rfl, Place.noConfusion⟩
      · rw [hplace]
        exact ⟨rfl, Place.noConfusion⟩
  split at hpid
  · rw [hpid]
    exact ⟨rfl, Place.noConfusion⟩
  · next task htask =>
    obtain ⟨call, rest⟩ := task
    cases rest with
    | done value =>
      have hends : EndsAt (places pid) (.ok value) := hpid
      exact hended hends
    | fail error =>
      have hends : EndsAt (places pid) (.error error) := hpid
      exact hended hends
    | access change next => exact hpid.elim
    | await query resume => exact absurd htask (hidle call query resume)

theorem holds_place :
    (places pid).holds = true ↔ Holds loop pid := by
  constructor
  · intro hheld
    by_contra hnone
    by_cases hwaiting : ∃ call query resume, loop.tasks pid = some ⟨call, .await query resume⟩
    · obtain ⟨call, query, resume, htask⟩ := hwaiting
      exact hnone ⟨call, query, resume, htask, (awaits_place (h.waiting htask)).1.mp hheld⟩
    · push Not at hwaiting
      rw [(idle_place h hwaiting).1] at hheld
      cases hheld
  · rintro ⟨call, query, resume, htask, hlock⟩
    exact (awaits_place (h.waiting htask)).1.mpr hlock

theorem exporting_place :
    places pid = .exporting ↔ Exports loop pid := by
  constructor
  · intro hexporting
    by_cases hwaiting : ∃ call query resume, loop.tasks pid = some ⟨call, .await query resume⟩
    · obtain ⟨call, query, resume, htask⟩ := hwaiting
      obtain ⟨hholds, hexports⟩ := awaits_place (h.waiting htask)
      have hlock : ¬ call.takes_lock = true := by
        intro hlock
        have hheld := hholds.mpr hlock
        rw [hexporting] at hheld
        cases hheld
      cases call with
      | turn body => exact absurd rfl hlock
      | maintenance body => exact absurd rfl hlock
      | export_archive => exact ⟨query, resume, htask, hexports.mp hexporting⟩
    · push Not at hwaiting
      exact absurd hexporting (idle_place h hwaiting).2
  · rintro ⟨query, resume, htask, hquery⟩
    exact (awaits_place (h.waiting htask)).2.mpr hquery

theorem in_body_place (hbody : InBody loop pid) : (places pid).holds = true := by
  obtain ⟨call, query, resume, htask⟩ := hbody
  obtain ⟨-, hplace⟩ : AwaitsAt call (places pid) (.body query) := h.waiting htask
  rw [hplace]
  rfl

end

theorem door_kept (hidle : start.Idle) (hfree : start.memory.locked = false)
    (hnone : start.memory.export_count = 0)
    (hrun : RunWhere (ExclusionStep B R) EntersAlone start events loop) :
    ∃ places, DoorKept events places loop := by
  refine hrun.history (P := fun events loop => ∃ places, DoorKept events places loop) ?_ ?_
  · refine ⟨fun _ => .away, ?_⟩
    refine { outlined := hidle.outlined, lock := ?_, count := ?_, apart := ?_, spared := ?_,
             segments := ?_ }
    · simp [LockHeld, hfree, Place.holds]
    · exact ⟨∅, by simp, hnone⟩
    · simp [hnone]
    · simp
    · simp
  · rintro earlier before event after - ⟨places, h⟩ hok hstep
    have hmeets : ∀ call memory, (door_outline B R).knows .away memory →
        Coroutine.Meets (door_outline B R) call (Coroutine.Over (door_outline B R) call) call.code
          ⟨none, .away, memory⟩ memory := fun call memory _ => meets_code call memory
    rcases h.outlined.step rfl hmeets (fun _ => trivial) hstep with
      ⟨pid, call, given, place, hmoved, houtlined⟩ | ⟨hsegment, hchanges, houtlined⟩
    · exact ⟨_, kept_moved h hok hstep hmoved houtlined⟩
    · exact ⟨places, kept_elsewhere h hstep hsegment hchanges houtlined⟩

/-- **Turns, maintenance and exports exclude each other** in every run whose calls enter alone. -/
theorem turns_maintenance_exports_excluded (hidle : start.Idle)
    (hfree : start.memory.locked = false) (hnone : start.memory.export_count = 0)
    (hrun : RunWhere (ExclusionStep B R) EntersAlone start events loop) : Excluded events loop := by
  obtain ⟨places, h⟩ := door_kept hidle hfree hnone hrun
  have hholds (pid : Nat) : (places pid).holds = true ↔ Holds loop pid := holds_place h.outlined
  have hexporting (pid : Nat) : places pid = .exporting ↔ Exports loop pid :=
    exporting_place h.outlined
  obtain ⟨hlocked, hone⟩ := h.lock
  refine { one := ?_, apart := ?_, segments := h.segments, lock := ?_, count := ?_, refused := ?_ }
  · intro pid other hbody hother
    exact hone pid other (in_body_place h.outlined hbody) (in_body_place h.outlined hother)
  · intro pid other hbody hexports
    have hnone := h.apart (hlocked.mpr ⟨pid, in_body_place h.outlined hbody⟩)
    obtain ⟨exporting, hmem, hcount⟩ := h.count
    have hpos : 0 < exporting.card :=
      Finset.card_pos.mpr ⟨other, (hmem other).mpr ((hexporting other).mpr hexports)⟩
    omega
  · simp only [hlocked, hholds]
  · obtain ⟨exporting, hmem, hcount⟩ := h.count
    exact ⟨exporting, fun pid => (hmem pid).trans (hexporting pid), hcount⟩
  · intro pid call error hrefused
    have hplace : places pid = .away := h.outlined.failed hrefused
    exact h.spared pid (by rw [hplace]; rfl)

end Runs

end Calls

/-! ### A turn and then an export, and two that meet -/

def sample_exclusion_loop : ExclusionLoop Unit (fun _ => Unit) where
  memory := { session := { workspace := some "workspace" } }
  tasks := fun _ => none

def waiting_body : SessionBody Unit (fun _ => Unit) := Coroutine.ask ()

/-- Every await is answered as hoped. -/
def exclusion_reply (_ : Unit) (door : SessionDoor) :
    (query : ExclusionQuery Unit) → query.Answer (fun _ => Unit) × SessionDoor
  | .assert_owner _ => ((.ok () : Except StoreError Unit), door)
  | .load_session => ((.ok () : Except StoreError Unit), door)
  | .to_thread => ((.ok "archive" : Except StoreError String), door)
  | .body _ => ((), door)

theorem exclusion_reply_answers (given : Unit) (door : SessionDoor) (query : ExclusionQuery Unit) :
    ExclusionAnswers Unit (fun _ => Unit) door query (exclusion_reply given door query).1
      (exclusion_reply given door query).2 := by
  cases query <;> rfl

abbrev ExclusionInput : Type := Input (ExclusionCall Unit (fun _ => Unit)) Unit

abbrev play_exclusion (script : List ExclusionInput) :
    List (ExclusionEvent Unit (fun _ => Unit)) × ExclusionLoop Unit (fun _ => Unit) :=
  EventLoop.play ExclusionCall.code exclusion_reply sample_exclusion_loop script

/-- A turn, a maintenance operation that is refused meanwhile, and an export after it. -/
def turn_then_export : List ExclusionInput :=
  [.start 0 (.turn waiting_body), .start 1 (.maintenance waiting_body), .answer 0 (), .answer 0 (),
   .answer 0 (), .start 2 .export_archive, .answer 2 (), .answer 2 ()]

/-- An export finds the lock free, and begins once a turn has taken it. -/
def turn_in_export : List ExclusionInput :=
  [.start 0 .export_archive, .start 1 (.turn waiting_body), .answer 0 (), .answer 0 (), .answer 1 (),
   .answer 1 ()]

/-- A maintenance operation comes while an export is in progress. -/
def maintenance_in_export : List ExclusionInput :=
  [.start 0 .export_archive, .answer 0 (), .answer 0 (), .start 1 (.maintenance waiting_body),
   .answer 1 (), .answer 1 ()]

theorem turns_maintenance_exports_excluded_turn :
    Excluded (play_exclusion turn_then_export).1 (play_exclusion turn_then_export).2 := by
  have hrun : Run (ExclusionStep Unit (fun _ => Unit)) sample_exclusion_loop
      (play_exclusion turn_then_export).1 (play_exclusion turn_then_export).2 :=
    EventLoop.play_run exclusion_reply_answers sample_exclusion_loop turn_then_export
  have halone : (play_exclusion turn_then_export).1.all enters_alone = true := by decide +kernel
  have hwhere : RunWhere (ExclusionStep Unit (fun _ => Unit)) EntersAlone sample_exclusion_loop
      (play_exclusion turn_then_export).1 (play_exclusion turn_then_export).2 :=
    .of_run hrun (fun event hmem _ _ => List.all_eq_true.mp halone event hmem)
  exact turns_maintenance_exports_excluded (fun _ => rfl) rfl rfl hwhere

/-- A body runs while the workspace is exported. -/
theorem bodies_meet_exports :
    ¬ Excluded (play_exclusion turn_in_export).1 (play_exclusion turn_in_export).2
      ∧ ¬ Excluded (play_exclusion maintenance_in_export).1
        (play_exclusion maintenance_in_export).2 := by
  constructor
  · intro h
    exact h.apart 1 0 ⟨_, (), _, rfl⟩ ⟨_, _, rfl, .inl rfl⟩
  · intro h
    exact h.apart 1 0 ⟨_, (), _, rfl⟩ ⟨_, _, rfl, .inl rfl⟩

end CodingAgentLoop
