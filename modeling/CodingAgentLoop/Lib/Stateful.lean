/-
Actions on a state that outlives an error.

A method that changes an object and then raises leaves the changes behind: whoever
catches the error goes on with the state as it was when it was raised. An `Action`
therefore returns a state in both cases.

`Ensures pre action post broken` says what is left: started in a state with `pre`, the
action returns `a` in a state with `post a`, or raises in a state with `broken`.
-/
import CodingAgentLoop.Lib.Result

namespace Lib

open List

/-- What a computation does to a state, and what it returns or raises. -/
def Action (σ ε α : Type) : Type := σ → Except ε α × σ

namespace Action

variable {σ τ ε ε' α β : Type}

instance : Monad (Action σ ε) where
  pure a := fun state => (.ok a, state)
  bind action next := fun state =>
    match action state with
    | (.ok a, state) => next a state
    | (.error error, state) => (.error error, state)

def raise (error : ε) : Action σ ε α := fun state => (.error error, state)

def get : Action σ ε σ := fun state => (.ok state, state)

def modify (change : σ → σ) : Action σ ε Unit := fun state => (.ok (), change state)

def lift (result : Except ε α) : Action σ ε α := fun state => (result, state)

/-- `if condition: action`. -/
def when (condition : Prop) [Decidable condition] (action : Action σ ε Unit) : Action σ ε Unit :=
  if condition then action else pure ()

def zoom (part : σ → τ) (put : σ → τ → σ) (action : Action τ ε α) : Action σ ε α :=
  fun state => ((action (part state)).1, put state (action (part state)).2)

/-- `try: action`: the error is returned and not raised. -/
def attempt (action : Action σ ε α) : Action σ ε' (Except ε α) :=
  fun state => (.ok (action state).1, (action state).2)

def map_error (rename : ε → ε') (action : Action σ ε α) : Action σ ε' α :=
  fun state => ((action state).1.mapError rename, (action state).2)

/-- `for item in items: body(item)`. -/
def each (items : List α) (body : α → Action σ ε Unit) : Action σ ε Unit :=
  match items with
  | [] => pure ()
  | item :: rest => body item >>= fun _ => each rest body

/-- `[body(item) for item in items]`. -/
def collect (items : List α) (body : α → Action σ ε β) : Action σ ε (List β) :=
  match items with
  | [] => pure []
  | item :: rest => body item >>= fun b => collect rest body >>= fun bs => pure (b :: bs)

/-! ## Running an action -/

@[simp] theorem pure_run (a : α) (state : σ) :
    (pure a : Action σ ε α) state = (.ok a, state) := rfl

@[simp] theorem get_run (state : σ) : (get : Action σ ε σ) state = (.ok state, state) := rfl

@[simp] theorem modify_run (change : σ → σ) (state : σ) :
    (modify change : Action σ ε Unit) state = (.ok (), change state) := rfl

@[simp] theorem lift_run (result : Except ε α) (state : σ) :
    (lift result : Action σ ε α) state = (result, state) := rfl

variable {state state' : σ} {next : α → Action σ ε β} {action : Action σ ε α}

theorem bind_ok {a : α} (h : action state = (.ok a, state')) :
    (action >>= next) state = next a state' := by
  show (match action state with
    | (.ok a, state) => next a state
    | (.error error, state) => (.error error, state)) = _
  rw [h]

theorem bind_error {error : ε} (h : action state = (.error error, state')) :
    (action >>= next) state = (.error error, state') := by
  show (match action state with
    | (.ok a, state) => next a state
    | (.error error, state) => (.error error, state)) = _
  rw [h]

theorem lift_ok {result : Except ε α} {rename : ε → ε'} {state : σ} {a : α} (h : result = .ok a) :
    (lift (result.mapError rename) : Action σ ε' α) state = (.ok a, state) := by
  rw [h]
  rfl

theorem lift_error {result : Except ε α} {rename : ε → ε'} {state : σ} {error : ε}
    (h : result = .error error) :
    (lift (result.mapError rename) : Action σ ε' α) state = (.error (rename error), state) := by
  rw [h]
  rfl

theorem bind_eq_ok {b : β} :
    (action >>= next) state = (.ok b, state') ↔
      ∃ a mid, action state = (.ok a, mid) ∧ next a mid = (.ok b, state') := by
  rcases hrun : action state with ⟨error | a, mid⟩
  · rw [bind_error hrun]
    constructor
    · intro h
      cases h
    · rintro ⟨a, mid', h, _⟩
      cases h
  · rw [bind_ok hrun]
    constructor
    · exact fun h => ⟨a, mid, rfl, h⟩
    · rintro ⟨a', mid', h, hnext⟩
      obtain ⟨ha, rfl⟩ := Prod.mk.inj h
      obtain rfl : a = a' := Except.ok.inj ha
      exact hnext

theorem pure_eq_ok {a b : α} :
    (pure a : Action σ ε α) state = (.ok b, state') ↔ a = b ∧ state = state' := by
  simp

theorem collect_cons_eq_ok {item : α} {rest : List α} {body : α → Action σ ε β} {bs : List β} :
    collect (item :: rest) body state = (.ok bs, state') ↔
      ∃ b mid bs', body item state = (.ok b, mid) ∧ collect rest body mid = (.ok bs', state')
        ∧ bs = b :: bs' := by
  show (body item >>= fun b => collect rest body >>= fun bs => pure (b :: bs)) state = _ ↔ _
  rw [bind_eq_ok]
  constructor
  · rintro ⟨b, mid, hb, hrest⟩
    obtain ⟨bs', mid', hbs', hpure⟩ := bind_eq_ok.mp hrest
    obtain ⟨rfl, rfl⟩ := pure_eq_ok.mp hpure
    exact ⟨b, mid, bs', hb, hbs', rfl⟩
  · rintro ⟨b, mid, bs', hb, hbs', rfl⟩
    exact ⟨b, mid, hb, bind_eq_ok.mpr ⟨bs', state', hbs', rfl⟩⟩

theorem each_cons_eq_ok {item : α} {rest : List α} {body : α → Action σ ε Unit} :
    each (item :: rest) body state = (.ok (), state') ↔
      ∃ mid, body item state = (.ok (), mid) ∧ each rest body mid = (.ok (), state') := by
  show (body item >>= fun _ => each rest body) state = _ ↔ _
  rw [bind_eq_ok]
  exact ⟨fun ⟨(), mid, h⟩ => ⟨mid, h⟩, fun ⟨mid, h⟩ => ⟨(), mid, h⟩⟩

theorem each_append (first second : List α) (body : α → Action σ ε Unit) (state : σ) :
    each (first ++ second) body state = (each first body >>= fun _ => each second body) state := by
  induction first generalizing state with
  | nil => rfl
  | cons item rest ih =>
    rcases hitem : body item state with ⟨error | ⟨⟩, state'⟩
    · have hrest : each (item :: rest) body state = (.error error, state') := bind_error hitem
      rw [bind_error hrest]
      exact bind_error hitem
    · have hstart : each (item :: rest ++ second) body state = each (rest ++ second) body state' :=
        bind_ok hitem
      have hmid : each (item :: rest) body state = each rest body state' := bind_ok hitem
      rw [hstart, ih]
      rcases hend : each rest body state' with ⟨error | ⟨⟩, state''⟩
      · rw [bind_error hend, bind_error (hmid.trans hend)]
      · rw [bind_ok hend, bind_ok (hmid.trans hend)]

end Action

/-! ## What an action leaves behind -/

/-- From a state with `pre`: `post` of what is returned and the state, or `broken` of the state
where an error is raised. -/
def Ensures {σ ε α : Type} (pre : σ → Prop) (action : Action σ ε α) (post : α → σ → Prop)
    (broken : σ → Prop) : Prop :=
  ∀ state, pre state →
    (∀ a, (action state).1 = .ok a → post a (action state).2)
      ∧ ∀ error, (action state).1 = .error error → broken (action state).2

namespace Ensures

open Action

variable {σ τ ε ε' α β : Type} {P : σ → Prop} {Q : α → σ → Prop} {B : σ → Prop}
  {action : Action σ ε α}

theorem ok (h : Ensures P action Q B) {state state' : σ} {a : α} (hpre : P state)
    (hrun : action state = (.ok a, state')) : Q a state' := by
  have := (h state hpre).1 a (by rw [hrun])
  rwa [hrun] at this

theorem error (h : Ensures P action Q B) {state state' : σ} {error : ε}
    (hpre : P state) (hrun : action state = (.error error, state')) : B state' := by
  have := (h state hpre).2 error (by rw [hrun])
  rwa [hrun] at this

variable {I : σ → Prop}

theorem final (h : Ensures P action (fun _ => I) I) {state : σ} (hpre : P state) :
    I (action state).2 := by
  rcases hrun : action state with ⟨error | a, state'⟩
  · exact h.error hpre hrun
  · exact h.ok hpre hrun

theorem of_run (hok : ∀ state, P state → ∀ a state', action state = (.ok a, state') → Q a state')
    (herror : ∀ state, P state → ∀ error state', action state = (.error error, state') →
      B state') : Ensures P action Q B := by
  intro state hpre
  rcases hrun : action state with ⟨error | a, state'⟩
  · exact ⟨fun _ h => (by cases h), fun error' _ => herror state hpre error state' hrun⟩
  · refine ⟨fun a' h => ?_, fun _ h => (by cases h)⟩
    obtain rfl : a = a' := by simpa using h
    exact hok state hpre a state' hrun

theorem trivial : Ensures P action (fun _ _ => True) (fun _ => True) :=
  fun _ _ => ⟨fun _ _ => True.intro, fun _ _ => True.intro⟩

theorem pure {a : α} (h : ∀ state, P state → Q a state) :
    Ensures P (Pure.pure a : Action σ ε α) Q B := by
  intro state hpre
  refine ⟨fun a' ha' => ?_, fun _ h => (by cases h)⟩
  obtain rfl : a = a' := by simpa using ha'
  exact h state hpre

theorem raise {error : ε} (h : ∀ state, P state → B state) :
    Ensures P (Action.raise error : Action σ ε α) Q B := by
  intro state hpre
  exact ⟨fun _ h => (by cases h), fun _ _ => h state hpre⟩

theorem get {Q : σ → σ → Prop} (h : ∀ state, P state → Q state state) :
    Ensures P (Action.get : Action σ ε σ) Q B := by
  intro state hpre
  refine ⟨fun state' hstate' => ?_, fun _ h => (by cases h)⟩
  obtain rfl : state = state' := by simpa using hstate'
  exact h state hpre

theorem modify {change : σ → σ} {Q : Unit → σ → Prop} (h : ∀ state, P state → Q () (change state)) :
    Ensures P (Action.modify change : Action σ ε Unit) Q B := by
  intro state hpre
  exact ⟨fun () _ => h state hpre, fun _ h => (by cases h)⟩

theorem lift {result : Except ε α} (hok : ∀ a, result = .ok a → ∀ state, P state → Q a state)
    (herror : ∀ error, result = .error error → ∀ state, P state → B state) :
    Ensures P (Action.lift result : Action σ ε α) Q B := by
  intro state hpre
  exact ⟨fun a ha => hok a ha state hpre, fun error he => herror error he state hpre⟩

variable {R : β → σ → Prop}

theorem bind {next : α → Action σ ε β} (h : Ensures P action Q B)
    (hnext : ∀ a, Ensures (Q a) (next a) R B) :
    Ensures P (action >>= next) R B := by
  intro state hpre
  rcases hrun : action state with ⟨error | a, state'⟩
  · rw [bind_error hrun]
    exact ⟨fun _ h => (by cases h), fun _ _ => h.error hpre hrun⟩
  · rw [bind_ok hrun]
    exact hnext a state' (h.ok hpre hrun)

theorem when_else {condition : Prop} [Decidable condition] {action : Action σ ε Unit}
    {Q : Unit → σ → Prop} (h : condition → Ensures P action Q B)
    (hskip : ¬ condition → ∀ state, P state → Q () state) :
    Ensures P (Action.when condition action) Q B := by
  unfold Action.when
  split
  · next hcondition => exact h hcondition
  · next hcondition => exact Ensures.pure (hskip hcondition)

theorem when {condition : Prop} [Decidable condition] {action : Action σ ε Unit}
    {Q : Unit → σ → Prop} (h : condition → Ensures P action Q B)
    (hskip : ∀ state, P state → Q () state) :
    Ensures P (Action.when condition action) Q B :=
  when_else h (fun _ => hskip)

variable {broken' : σ → Prop}

theorem mono {pre' : σ → Prop} {post' : α → σ → Prop} (h : Ensures P action Q B)
    (hpre : ∀ state, pre' state → P state) (hpost : ∀ a state, Q a state → post' a state)
    (hbroken : ∀ state, B state → broken' state) : Ensures pre' action post' broken' := by
  intro state hstate
  obtain ⟨hok, herror⟩ := h state (hpre state hstate)
  exact ⟨fun a ha => hpost a _ (hok a ha), fun error he => hbroken _ (herror error he)⟩

theorem requires {pre' : σ → Prop} (h : Ensures P action Q B)
    (hpre : ∀ state, pre' state → P state) : Ensures pre' action Q B :=
  h.mono hpre (fun _ _ h => h) (fun _ h => h)

theorem breaks (h : Ensures P action Q B) (hbroken : ∀ state, B state → broken' state) :
    Ensures P action Q broken' :=
  h.mono (fun _ h => h) (fun _ _ h => h) hbroken

theorem reading {next : σ → Action σ ε β} (h : ∀ state, Ensures P (next state) R B) :
    Ensures P (Action.get >>= next) R B :=
  bind (Q := fun _ => P) (get (fun _ h => h)) h

theorem lifting {result : Except ε α} {next : α → Action σ ε β}
    (hstop : ∀ state, P state → B state) (h : ∀ a, Ensures P (next a) R B) :
    Ensures P (Action.lift result >>= next) R B :=
  bind (Q := fun _ => P) (lift (fun _ _ _ h => h) (fun _ _ => hstop)) h

theorem given {fact : Prop} (h : fact → Ensures P action Q B) :
    Ensures (fun state => P state ∧ fact) action Q B :=
  fun state hstate => h hstate.2 state hstate.1

theorem check {result : Except ε Unit} {next : Unit → Action σ ε β}
    (h : result = .ok () → Ensures P (next ()) R B) (hstop : ∀ state, P state → B state) :
    Ensures P (Action.lift result >>= next) R B := by
  refine Ensures.bind (Q := fun _ state => P state ∧ result = .ok ()) ?_ (fun _ => ?_)
  · exact lift (fun _ hresult _ hstate => ⟨hstate, hresult⟩) (fun _ _ state hstate => hstop state hstate)
  · exact given h

theorem attempt {post' : Except ε α → σ → Prop} (h : Ensures P action Q B)
    (hok : ∀ a state, Q a state → post' (.ok a) state)
    (herror : ∀ error state, B state → post' (.error error) state) :
    Ensures P (action.attempt : Action σ ε' (Except ε α)) post' broken' := by
  intro state hpre
  refine ⟨fun outcome houtcome => ?_, fun _ h => (by cases h)⟩
  obtain rfl : (action state).1 = outcome := by simpa [Action.attempt] using houtcome
  obtain ⟨hstate, hbroken⟩ := h state hpre
  show post' (action state).1 (action state).2
  rcases hrun : action state with ⟨error | a, state'⟩
  · exact herror error state' (h.error hpre hrun)
  · exact hok a state' (h.ok hpre hrun)

theorem map_error {rename : ε → ε'} (h : Ensures P action Q B) :
    Ensures P (action.map_error rename) Q B := by
  intro state hpre
  obtain ⟨hok, herror⟩ := h state hpre
  refine ⟨fun a ha => hok a ?_, fun error he => ?_⟩
  · have ha : (action state).1.mapError rename = .ok a := ha
    cases hrun : (action state).1 with
    | error error => rw [hrun] at ha; cases ha
    | ok a' =>
      rw [hrun] at ha
      obtain rfl : a' = a := by simpa [Except.mapError] using ha
      rfl
  · have he : (action state).1.mapError rename = .error error := he
    cases hrun : (action state).1 with
    | error error' => exact herror error' hrun
    | ok a => rw [hrun] at he; cases he

theorem zoom {part : σ → τ} {put : σ → τ → σ} {action : Action τ ε α} {p : τ → Prop}
    {q : α → τ → Prop} {b : τ → Prop} (h : Ensures p action q b)
    (hpre : ∀ state, P state → p (part state))
    (hpost : ∀ state, P state → ∀ a left, q a left → Q a (put state left))
    (hbroken : ∀ state, P state → ∀ left, b left → B (put state left)) :
    Ensures P (action.zoom part put) Q B := by
  intro state hstate
  obtain ⟨hok, herror⟩ := h (part state) (hpre state hstate)
  exact ⟨fun a ha => hpost state hstate a _ (hok a ha),
    fun error he => hbroken state hstate _ (herror error he)⟩

variable {items : List α}

theorem each {body : α → Action σ ε Unit}
    (h : ∀ item ∈ items, Ensures I (body item) (fun _ => I) B) :
    Ensures I (Action.each items body) (fun _ => I) B := by
  induction items with
  | nil => exact Ensures.pure (fun _ hstate => hstate)
  | cons item rest ih =>
    exact (h item mem_cons_self).bind
      (fun _ => ih (fun other hother => h other (mem_cons_of_mem _ hother)))

theorem each_from {body : α → Action σ ε Unit} {I : List α → σ → Prop}
    (h : ∀ item rest, Ensures (I (item :: rest)) (body item) (fun _ => I rest) B) :
    Ensures (I items) (Action.each items body) (fun _ => I []) B := by
  induction items with
  | nil => exact Ensures.pure (fun _ hstate => hstate)
  | cons item rest ih => exact (h item rest).bind (fun _ => ih)

theorem collect {body : α → Action σ ε β} {G : α → β → Prop}
    (h : ∀ item ∈ items, Ensures I (body item) (fun b state => G item b ∧ I state) B) :
    Ensures I (Action.collect items body)
      (fun bs state => List.Forall₂ G items bs ∧ I state) B := by
  induction items with
  | nil => exact Ensures.pure (fun _ hstate => ⟨List.Forall₂.nil, hstate⟩)
  | cons item rest ih =>
    refine (h item mem_cons_self).bind (fun b => ?_)
    intro state ⟨hgood, hinv⟩
    have hrest := (ih (fun other hother => h other (mem_cons_of_mem _ hother))).bind
      (fun bs => Ensures.pure (ε := ε) (a := b :: bs) (B := B)
        (Q := fun bs state => List.Forall₂ G (item :: rest) bs ∧ I state)
        (fun _ (h : List.Forall₂ G rest bs ∧ I _) => ⟨h.1.cons hgood, h.2⟩))
    exact hrest state hinv

theorem collect_from {body : α → Action σ ε β} {I : List β → List α → σ → Prop}
    (h : ∀ done item rest,
      Ensures (I done (item :: rest)) (body item) (fun b => I (done ++ [b]) rest) B)
    (done : List β) :
    Ensures (I done items) (Action.collect items body) (fun bs => I (done ++ bs) []) B := by
  induction items generalizing done with
  | nil =>
    refine Ensures.pure (fun _ hstate => ?_)
    rw [append_nil]
    exact hstate
  | cons item rest ih =>
    refine (h done item rest).bind (fun b => (ih (done ++ [b])).bind (fun bs => ?_))
    refine Ensures.pure (fun _ hstate => ?_)
    rw [append_assoc] at hstate
    exact hstate

end Ensures

abbrev Preserves {σ ε α : Type} (I : σ → Prop) (action : Action σ ε α) : Prop :=
  Ensures I action (fun _ => I) I

namespace Preserves

variable {σ ε α β : Type} {I : σ → Prop} {action : Action σ ε α}

theorem pure {a : α} : Preserves I (Pure.pure a : Action σ ε α) := Ensures.pure (fun _ h => h)

theorem lift {result : Except ε α} : Preserves I (Action.lift result : Action σ ε α) :=
  Ensures.lift (fun _ _ _ h => h) (fun _ _ _ h => h)

theorem get : Preserves I (Action.get : Action σ ε σ) := Ensures.get (fun _ h => h)

theorem modify {change : σ → σ} (h : ∀ state, I state → I (change state)) :
    Preserves I (Action.modify change : Action σ ε Unit) := Ensures.modify h

theorem attempt {ε' : Type} {B : σ → Prop} (h : Preserves I action) :
    Ensures I (action.attempt : Action σ ε' (Except ε α)) (fun _ => I) B :=
  Ensures.attempt h (fun _ _ h => h) (fun _ _ h => h)

theorem seq {next : α → Action σ ε β} (h : Preserves I action)
    (hnext : ∀ a, Preserves I (next a)) : Preserves I (action >>= next) := Ensures.bind h hnext

theorem when {condition : Prop} [Decidable condition] {action : Action σ ε Unit}
    (h : Preserves I action) : Preserves I (Action.when condition action) :=
  Ensures.when (fun _ => h) (fun _ h => h)

end Preserves

end Lib
