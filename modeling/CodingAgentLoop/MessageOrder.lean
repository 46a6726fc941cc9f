/-
What the turns of a context make of its messages.

A message the prompt shows is consumed once, in one turn, and the requests of that turn from
then on are grounded in it. An interrupt leaves the cursor where it was: the turn it ends is
followed by turns it ends again, and what was published with it stays behind the cursor.
-/
import CodingAgentLoop.MessageTurns

namespace CodingAgentLoop

open Lib InMemoryRuntimeMessageBus List

/-! ## Reading the log -/

namespace MessageEvent

def items : MessageEvent → List SequencedRuntimeMessage
  | .consumed _ items => items
  | _ => []

/-- The messages a consumption of `turn` took. -/
def items_in (turn : Nat) : MessageEvent → List SequencedRuntimeMessage
  | .consumed consumer items => if consumer = turn then items else []
  | _ => []

def published_item : MessageEvent → Option SequencedRuntimeMessage
  | .published item => some item
  | _ => none

def ends : MessageEvent → Option Nat
  | .returned turn => some turn
  | .raised turn _ => some turn
  | _ => none

def goes_on : MessageEvent → Bool
  | .consumed _ _ => true
  | .requested _ _ _ => true
  | .returned _ => true
  | _ => false

def plain : MessageEvent → Bool
  | .published _ => false
  | .consumed _ _ => false
  | _ => true

theorem plain_spec {event : MessageEvent} (h : event.plain = true) :
    event.published_item = none ∧ event.items = [] ∧ ∀ turn, event.items_in turn = [] := by
  cases event <;> simp_all [plain, published_item, items, items_in]

end MessageEvent

def published_items (log : List MessageEvent) : List SequencedRuntimeMessage :=
  log.filterMap MessageEvent.published_item

def consumed_items (log : List MessageEvent) : List SequencedRuntimeMessage :=
  log.flatMap MessageEvent.items

/-- The messages consumed in `turn`. -/
def consumed_in (turn : Nat) (log : List MessageEvent) : List SequencedRuntimeMessage :=
  log.flatMap (MessageEvent.items_in turn)

/-- The runtime context of the grounding shows `messages`. -/
def Shows (grounding : List Message) (messages : List SequencedRuntimeMessage) : Prop :=
  ∃ lines rest, grounding
    = runtime_context_grounding (lines ++ format_runtime_prompt_messages messages) ++ rest

/-- A consumption takes all that was published and not consumed. -/
def Complete (before : List MessageEvent) (event : MessageEvent) : Prop :=
  ∀ turn items, event = .consumed turn items → ∀ item, .published item ∈ before →
    item.message.kind ∈ PROMPT_RUNTIME_MESSAGE_KINDS → item ∈ consumed_items before ∨ item ∈ items

/-- A request shows what its turn has consumed, and follows a consumption of its turn with
nothing but publications in between. -/
def Grounded (before : List MessageEvent) (event : MessageEvent) : Prop :=
  ∀ turn call grounded, event = .requested turn call grounded →
    grounded = consumed_in turn before ∧ Shows call.grounding grounded
      ∧ ∃ earlier items since, before = earlier ++ .consumed turn items :: since
        ∧ ∀ other ∈ since, ∃ item, other = .published item

/-- Every message consumed in `turn` is shown by a request of it. -/
def Shown (turn : Nat) (log : List MessageEvent) : Prop :=
  ∀ item ∈ consumed_in turn log, ∃ call grounded, .requested turn call grounded ∈ log ∧ item ∈ grounded

/-- A turn that returns has asked the model with all it consumed, or not at all. -/
def Answered (before : List MessageEvent) (event : MessageEvent) : Prop :=
  ∀ turn, event = .returned turn →
    Shown turn before ∨ ∀ call grounded, .requested turn call grounded ∉ before

/-- An interrupt that has ended a turn ends every turn, and no turn goes on. -/
def Interrupted (before : List MessageEvent) (event : MessageEvent) : Prop :=
  ∀ turn item, .interrupted turn item ∈ before →
    event.goes_on = false ∧ ∀ later, event.ends = some later → .interrupted later item ∈ before

/-- Messages act in the order of their publication. -/
structure ActsInOrder (board : MessageBoard) : Prop where
  published : published_items board.log = board.runtime_message_bus.messages
  once : (consumed_items board.log).Nodup
  complete : Throughout Complete board.log
  grounded : Throughout Grounded board.log
  answered : Throughout Answered board.log
  interrupted : Throughout Interrupted board.log

@[simp] theorem published_items_snoc (log : List MessageEvent) (event : MessageEvent) :
    published_items (log ++ [event]) = published_items log ++ event.published_item.toList := by
  cases h : event.published_item <;> simp [published_items, h]

@[simp] theorem consumed_items_snoc (log : List MessageEvent) (event : MessageEvent) :
    consumed_items (log ++ [event]) = consumed_items log ++ event.items := by
  simp [consumed_items]

@[simp] theorem consumed_in_snoc (turn : Nat) (log : List MessageEvent) (event : MessageEvent) :
    consumed_in turn (log ++ [event]) = consumed_in turn log ++ event.items_in turn := by
  simp [consumed_in]

theorem mem_published_items {log : List MessageEvent} {item : SequencedRuntimeMessage} :
    item ∈ published_items log ↔ .published item ∈ log := by
  unfold published_items
  rw [mem_filterMap]
  constructor
  · rintro ⟨event, hmem, hitem⟩
    cases event <;> simp only [MessageEvent.published_item] at hitem <;> cases hitem
    exact hmem
  · intro hmem
    exact ⟨_, hmem, rfl⟩

/-! ## What the board keeps -/

namespace MessageBoard

def pending (board : MessageBoard) (kinds : List RuntimeMessageKind) :
    List SequencedRuntimeMessage :=
  board.runtime_message_bus.pending board.runtime_message_cursor kinds

/-- The log is that of the board's messages. -/
structure Recorded (board : MessageBoard) : Prop where
  published : published_items board.log = board.runtime_message_bus.messages
  within : board.runtime_message_cursor.sequence ≤ board.runtime_message_bus.messages.length
  consumed : consumed_items board.log
    = Cursor.upto (·.sequence)
        (board.runtime_message_bus.of_kinds PIPELINE_RUNTIME_MESSAGE_KINDS)
        board.runtime_message_cursor.sequence
  current : board.runtime_messages = consumed_in board.turn board.log
  unstarted : ∀ turn, board.turn < turn → consumed_in turn board.log = []
    ∧ ∀ call grounded, .requested turn call grounded ∉ board.log
  waiting : ∀ turn item, .interrupted turn item ∈ board.log →
    (board.pending [.INTERRUPT]).head? = some item
  complete : Throughout Complete board.log
  grounded : Throughout Grounded board.log
  answered : Throughout Answered board.log
  interrupted : Throughout Interrupted board.log

def Uninterrupted (board : MessageBoard) : Prop := ∀ turn item, .interrupted turn item ∉ board.log

def Over (board : MessageBoard) : Prop :=
  ∀ turn item, .interrupted turn item ∈ board.log → .interrupted board.turn item ∈ board.log

theorem Uninterrupted.over {board : MessageBoard} (h : board.Uninterrupted) : board.Over :=
  fun turn item hmem => absurd hmem (h turn item)

variable {board : MessageBoard} {message : RuntimeMessage}

theorem publish_cases (board : MessageBoard) (message : RuntimeMessage) :
    board.publish message = board ∨
      ∃ item bus, board.runtime_message_bus.publish message = .ok (item, bus)
        ∧ board.publish message
          = { board with runtime_message_bus := bus, log := board.log ++ [.published item] } := by
  unfold publish
  split
  · next item bus hpublish => exact .inr ⟨item, bus, hpublish, rfl⟩
  · exact .inl rfl

theorem Recorded.publish (h : board.Recorded) (message : RuntimeMessage) :
    (board.publish message).Recorded := by
  rcases board.publish_cases message with heq | ⟨item, bus, hpublish, heq⟩
  · rw [heq]
    exact h
  rw [heq]
  obtain ⟨hitem, hmessages, -⟩ := board.runtime_message_bus.publish_eq_ok hpublish
  have hsequence : board.runtime_message_cursor.sequence < item.sequence := by
    rw [hitem]
    exact Nat.lt_succ_of_le h.within
  constructor
  · show published_items (board.log ++ [.published item]) = bus.messages
    rw [published_items_snoc, h.published, hmessages]
    rfl
  · show _ ≤ bus.messages.length
    rw [hmessages, length_append]
    exact Nat.le_add_right_of_le h.within
  · show consumed_items (board.log ++ [.published item]) = Cursor.upto (·.sequence)
      (bus.of_kinds PIPELINE_RUNTIME_MESSAGE_KINDS) board.runtime_message_cursor.sequence
    unfold of_kinds
    rw [consumed_items_snoc, h.consumed, hmessages, Cursor.upto_filter_snoc _ hsequence]
    exact append_nil _
  · show board.runtime_messages = consumed_in board.turn (board.log ++ [.published item])
    rw [consumed_in_snoc, ← h.current]
    exact (append_nil _).symm
  · intro turn hturn
    obtain ⟨hnone, hunasked⟩ := h.unstarted turn hturn
    show consumed_in turn (board.log ++ [.published item]) = [] ∧ _
    rw [consumed_in_snoc, hnone]
    refine ⟨rfl, fun call grounded hmem => ?_⟩
    rcases mem_snoc hmem with hmem | hmem
    · exact hunasked call grounded hmem
    · cases hmem
  · intro turn other hmem
    have hmem' : .interrupted turn other ∈ board.log := by
      rcases mem_snoc hmem with hmem | hmem
      · exact hmem
      · cases hmem
    have hwaiting := h.waiting turn other hmem'
    show ((bus.messages.filter _).filter _).head? = some other
    rw [hmessages, filter_append, filter_append, List.head?_append]
    rw [show ((board.runtime_message_bus.messages.filter _).filter _).head? = some other from hwaiting]
    rfl
  · exact h.complete.snoc (fun turn items heq => by cases heq)
  · exact h.grounded.snoc (fun turn call grounded heq => by cases heq)
  · exact h.answered.snoc (fun turn heq => by cases heq)
  · exact h.interrupted.snoc (fun turn other _ => ⟨rfl, fun later hends => by cases hends⟩)

theorem Uninterrupted.publish (h : board.Uninterrupted) (message : RuntimeMessage) :
    (board.publish message).Uninterrupted := by
  rcases board.publish_cases message with heq | ⟨item, bus, -, heq⟩
  · rw [heq]
    exact h
  · rw [heq]
    intro turn other hmem
    rcases mem_snoc hmem with hmem | hmem
    · exact h turn other hmem
    · cases hmem

theorem Recorded.note (h : board.Recorded) {event : MessageEvent} (hplain : event.plain = true)
    (hasked : ∀ turn call grounded, event = .requested turn call grounded → turn ≤ board.turn)
    (hwaiting : ∀ turn item, event = .interrupted turn item →
      (board.pending [.INTERRUPT]).head? = some item)
    (hgrounded : Grounded board.log event) (hanswered : Answered board.log event)
    (hinterrupted : Interrupted board.log event) : (board.note event).Recorded := by
  obtain ⟨hpublished, hitems, hitems_in⟩ := event.plain_spec hplain
  constructor
  · show published_items (board.log ++ [event]) = _
    rw [published_items_snoc, hpublished]
    exact (append_nil _).trans h.published
  · exact h.within
  · show consumed_items (board.log ++ [event]) = _
    rw [consumed_items_snoc, hitems]
    exact (append_nil _).trans h.consumed
  · show _ = consumed_in board.turn (board.log ++ [event])
    rw [consumed_in_snoc, hitems_in, append_nil]
    exact h.current
  · intro turn hturn
    obtain ⟨hnone, hunasked⟩ := h.unstarted turn hturn
    show consumed_in turn (board.log ++ [event]) = [] ∧ _
    rw [consumed_in_snoc, hitems_in, hnone]
    refine ⟨rfl, fun call grounded hmem => ?_⟩
    rcases mem_snoc hmem with hmem | hmem
    · exact hunasked call grounded hmem
    · have hle := hasked turn call grounded hmem.symm
      exact absurd hturn (Nat.not_lt.mpr hle)
  · intro turn item hmem
    rcases mem_snoc hmem with hmem | hmem
    · exact h.waiting turn item hmem
    · exact hwaiting turn item hmem.symm
  · refine h.complete.snoc ?_
    intro turn items heq
    rw [heq] at hplain
    cases hplain
  · exact h.grounded.snoc hgrounded
  · exact h.answered.snoc hanswered
  · exact h.interrupted.snoc hinterrupted

theorem Recorded.started (h : board.Recorded) : board.started.Recorded := by
  have hfresh : Recorded { board with runtime_messages := [], turn := board.turn + 1 } := {
    published := h.published
    within := h.within
    consumed := h.consumed
    current := (h.unstarted (board.turn + 1) (Nat.lt_succ_self _)).1.symm
    unstarted := fun turn hturn => h.unstarted turn (Nat.lt_of_succ_lt hturn)
    waiting := h.waiting
    complete := h.complete
    grounded := h.grounded
    answered := h.answered
    interrupted := h.interrupted }
  exact hfresh.note rfl (fun _ _ _ heq => by cases heq) (fun _ _ heq => by cases heq)
    (fun _ _ _ heq => by cases heq) (fun _ heq => by cases heq)
    (fun _ _ _ => ⟨rfl, fun _ hends => by cases hends⟩)

theorem Recorded.note_interrupted (h : board.Recorded) {item : SequencedRuntimeMessage}
    (hfirst : (board.pending [.INTERRUPT]).head? = some item) :
    (board.note (.interrupted board.turn item)).Recorded :=
  h.note rfl (fun _ _ _ heq => by cases heq)
    (fun turn other heq => by cases heq; exact hfirst)
    (fun _ _ _ heq => by cases heq) (fun _ heq => by cases heq)
    (fun _ _ _ => ⟨rfl, fun _ hends => by cases hends⟩)

theorem Recorded.interrupted_over (h : board.Recorded) {item : SequencedRuntimeMessage}
    (hfirst : (board.pending [.INTERRUPT]).head? = some item) :
    (board.note (.interrupted board.turn item)).Over := by
  intro turn other hmem
  rcases mem_snoc hmem with hmem | hmem
  · have hsame := h.waiting turn other hmem
    rw [hfirst] at hsame
    cases hsame
    exact mem_append_right _ (mem_singleton_self _)
  · cases hmem
    exact mem_append_right _ (mem_singleton_self _)

theorem prompt_kind_pipeline {kind : RuntimeMessageKind}
    (h : kind ∈ PROMPT_RUNTIME_MESSAGE_KINDS) : kind ∈ PIPELINE_RUNTIME_MESSAGE_KINDS :=
  mem_cons_of_mem _ h

theorem Recorded.extended (h : board.Recorded) (hopen : board.Uninterrupted) :
    (board.extended (batch_of
      (board.pending PIPELINE_RUNTIME_MESSAGE_KINDS) board.runtime_message_cursor)).Recorded := by
  have hbatch : board.pending PIPELINE_RUNTIME_MESSAGE_KINDS
      <+: board.runtime_message_bus.pending board.runtime_message_cursor
        PIPELINE_RUNTIME_MESSAGE_KINDS := prefix_rfl
  have hconsumed := board.runtime_message_bus.upto_batch hbatch
  constructor
  · show published_items (board.log ++ [.consumed _ _]) = _
    rw [published_items_snoc]
    exact (append_nil _).trans h.published
  · exact board.runtime_message_bus.batch_cursor_le hbatch h.within
  · show consumed_items (board.log ++ [.consumed _ _]) = _
    rw [consumed_items_snoc, h.consumed]
    exact hconsumed.symm
  · show board.runtime_messages ++ _ = consumed_in board.turn (board.log ++ [.consumed _ _])
    rw [consumed_in_snoc, ← h.current]
    show _ = board.runtime_messages ++ if board.turn = board.turn then _ else []
    rw [if_pos rfl]
  · intro turn hturn
    obtain ⟨hnone, hunasked⟩ := h.unstarted turn hturn
    show consumed_in turn (board.log ++ [.consumed _ _]) = [] ∧ _
    rw [consumed_in_snoc, hnone]
    refine ⟨if_neg (Nat.ne_of_lt hturn), fun call grounded hmem => ?_⟩
    rcases mem_snoc hmem with hmem | hmem
    · exact hunasked call grounded hmem
    · cases hmem
  · intro turn item hmem
    rcases mem_snoc hmem with hmem | hmem
    · exact absurd hmem (hopen turn item)
    · cases hmem
  · refine h.complete.snoc ?_
    intro turn items heq item hbefore hkind
    cases heq
    have hmem : item ∈ board.runtime_message_bus.messages := by
      rw [← h.published]
      exact mem_published_items.mpr hbefore
    have hpipeline := prompt_kind_pipeline hkind
    -- the cursor has passed the message, or it is in the batch
    by_cases hle : item.sequence ≤ board.runtime_message_cursor.sequence
    · refine .inl ?_
      rw [h.consumed, Cursor.mem_upto]
      exact ⟨mem_filter.mpr ⟨hmem, decide_eq_true hpipeline⟩, hle⟩
    · refine .inr ?_
      exact board.runtime_message_bus.mem_pending.mpr ⟨hmem, Nat.lt_of_not_le hle, hpipeline⟩
  · exact h.grounded.snoc (fun turn call grounded heq => by cases heq)
  · exact h.answered.snoc (fun turn heq => by cases heq)
  · exact h.interrupted.snoc (fun turn item hmem => absurd hmem (hopen turn item))

theorem Uninterrupted.note (h : board.Uninterrupted) {event : MessageEvent}
    (hevent : ∀ turn item, event ≠ .interrupted turn item) : (board.note event).Uninterrupted := by
  intro turn item hmem
  rcases mem_snoc hmem with hmem | hmem
  · exact h turn item hmem
  · exact hevent turn item hmem.symm

theorem publish_all_induction {P : MessageBoard → Prop}
    (hpublish : ∀ board message, P board → P (board.publish message)) (h : P board)
    (messages : List RuntimeMessage) : P (board.publish_all messages) := by
  induction messages generalizing board with
  | nil => exact h
  | cons message rest ih => exact ih (hpublish board message h)

end MessageBoard

open MessageAction

/-! ## What the parts of a turn do

Until an interrupt ends the turn, the board is recorded and no turn has ended by an interrupt;
`Goes P action Q` carries that through a part of the turn, and says how it ends otherwise. -/

/-- The turn goes on, with `P`. -/
def Going (P : MessageTurn → Prop) (turn : MessageTurn) : Prop :=
  turn.board.Recorded ∧ turn.board.Uninterrupted ∧ P turn

def Ended (turn : MessageTurn) : Prop := turn.board.Recorded ∧ turn.board.Over

theorem Going.ended {P : MessageTurn → Prop} {turn : MessageTurn} (h : Going P turn) : Ended turn :=
  ⟨h.1, h.2.1.over⟩

abbrev Goes {α : Type} (P : MessageTurn → Prop) (action : MessageAction α)
    (Q : α → MessageTurn → Prop) : Prop :=
  Ensures (Going P) action (fun a => Going (Q a)) Ended

/-- The log of the turn meets `L`. -/
def OnLog (L : Nat → List MessageEvent → Prop) (turn : MessageTurn) : Prop :=
  L turn.board.turn turn.board.log

/-- The grounding of the last build shows the messages of the turn. -/
def Built (turn : MessageTurn) : Prop :=
  turn.board.grounded = turn.board.runtime_messages
    ∧ Shows turn.state.journal.grounding turn.board.grounded

def Unasked (turn : Nat) (log : List MessageEvent) : Prop :=
  ∀ call grounded, .requested turn call grounded ∉ log

/-- Since the last consumption of the turn there were publications only. -/
def JustConsumed (turn : Nat) (log : List MessageEvent) : Prop :=
  ∃ earlier items since, log = earlier ++ .consumed turn items :: since
    ∧ ∀ other ∈ since, ∃ item, other = .published item

/-- A publication leaves `L`. -/
def LeftByPublications (L : Nat → List MessageEvent → Prop) : Prop :=
  ∀ turn log item, L turn log → L turn (log ++ [.published item])

theorem unasked_left : LeftByPublications Unasked := by
  intro turn log item h call grounded hmem
  rcases mem_snoc hmem with hmem | hmem
  · exact h call grounded hmem
  · cases hmem

theorem shown_left : LeftByPublications Shown := by
  intro turn log item h other hother
  rw [consumed_in_snoc] at hother
  obtain ⟨call, grounded, hmem, hshown⟩ := h other (by simpa [MessageEvent.items_in] using hother)
  exact ⟨call, grounded, mem_append_left _ hmem, hshown⟩

theorem justConsumed_left : LeftByPublications JustConsumed := by
  rintro turn log item ⟨earlier, items, since, rfl, hsince⟩
  refine ⟨earlier, items, since ++ [.published item], by simp, fun other hother => ?_⟩
  rcases mem_snoc hother with hother | hother
  · exact hsince other hother
  · exact ⟨item, hother⟩

section Parts

variable {P : MessageTurn → Prop} {L : Nat → List MessageEvent → Prop} {α : Type}
  {text : JsonText}

theorem goes_answer (answer : Except TurnError α) : Goes P (Action.lift answer) (fun _ => P) :=
  Ensures.lift (fun _ _ _ h => h) (fun _ _ _ h => h.ended)

theorem goes_publish (hP : ∀ turn message, P turn →
      P { turn with board := turn.board.publish message }) (messages : List RuntimeMessage) :
    Goes P (on_board (·.publish_all messages)) (fun _ => P) := by
  refine Ensures.modify (fun turn h => ?_)
  refine MessageBoard.publish_all_induction
    (P := fun board => Going P { turn with board }) ?_ h messages
  rintro board message ⟨hrecorded, hopen, hboard⟩
  exact ⟨hrecorded.publish message, hopen.publish message, hP _ message hboard⟩

theorem onLog_publish (hL : LeftByPublications L) (turn : MessageTurn) (message : RuntimeMessage)
    (h : OnLog L turn) : OnLog L { turn with board := turn.board.publish message } := by
  unfold OnLog
  rcases turn.board.publish_cases message with heq | ⟨item, bus, -, heq⟩
  · rw [heq]
    exact h
  · rw [heq]
    exact hL _ _ item h

theorem built_publish (turn : MessageTurn) (message : RuntimeMessage) (h : Built turn) :
    Built { turn with board := turn.board.publish message } := by
  unfold Built
  rcases turn.board.publish_cases message with heq | ⟨item, bus, -, heq⟩
  · rw [heq]
    exact h
  · rw [heq]
    exact h

theorem goes_on_state {action : TurnAction α}
    (h : ∀ board, Preserves (fun state => P { state, board }) action) :
    Goes P (on_state action) (fun _ => P) := by
  intro turn hgoing
  obtain ⟨hok, herror⟩ := h turn.board turn.state hgoing.2.2
  exact ⟨fun a ha => ⟨hgoing.1, hgoing.2.1, hok a ha⟩, fun _ _ => ⟨hgoing.1, hgoing.2.1.over⟩⟩

theorem goes_interrupt {item : SequencedRuntimeMessage} {Q : Unit → MessageTurn → Prop}
    (hfirst : ∀ turn, P turn → (turn.board.pending [.INTERRUPT]).head? = some item) :
    Ensures (fun turn => turn.board.Recorded ∧ P turn) (interrupt item) Q Ended := by
  refine Ensures.bind (Q := fun _ => Ended) (Ensures.modify (fun turn h => ?_))
    (fun _ => Ensures.raise (fun _ h => h))
  exact ⟨h.1.note_interrupted (hfirst turn h.2), h.1.interrupted_over (hfirst turn h.2)⟩

theorem goes_raise_if_interrupted : Goes P raise_if_runtime_interrupted (fun _ => P) := by
  unfold raise_if_runtime_interrupted
  refine Ensures.bind (Q := fun start turn => Going P turn ∧ turn = start)
    (Ensures.get (fun turn h => ⟨h, rfl⟩)) (fun start => ?_)
  dsimp only
  rw [consume_after_unlimited]
  refine Ensures.bind (Q := fun batch turn => (Going P turn ∧ turn = start)
      ∧ batch.messages = start.board.pending [.INTERRUPT])
    (Ensures.lift (fun batch heq turn h => ⟨h, by cases heq; rfl⟩)
      (fun error heq => by cases heq)) (fun batch => ?_)
  split
  · exact Ensures.pure (fun turn h => h.1.1)
  · next item rest hmessages =>
    refine (goes_interrupt (P := fun turn => turn = start
      ∧ batch.messages = start.board.pending [.INTERRUPT]) ?_).mono
      (fun turn h => ⟨h.1.1.1, h.1.2, h.2⟩) (fun _ _ h => h) (fun _ h => h)
    rintro turn ⟨rfl, hbatch⟩
    rw [← hbatch, hmessages]
    rfl

theorem find_interrupt (board : MessageBoard) :
    (board.pending PIPELINE_RUNTIME_MESSAGE_KINDS).find?
        (fun item => item.message.kind = .INTERRUPT)
      = (board.pending [.INTERRUPT]).head? := by
  rw [← List.head?_filter]
  unfold MessageBoard.pending InMemoryRuntimeMessageBus.pending
  rw [filter_filter]
  congr 1
  refine filter_congr ?_
  intro item _
  cases item.message.kind <;> rfl

theorem pending_prompt {board : MessageBoard} {item : SequencedRuntimeMessage}
    (hnone : (board.pending PIPELINE_RUNTIME_MESSAGE_KINDS).find?
      (fun item => item.message.kind = .INTERRUPT) = none)
    (hmem : item ∈ board.pending PIPELINE_RUNTIME_MESSAGE_KINDS) :
    item.message.kind ∈ PROMPT_RUNTIME_MESSAGE_KINDS := by
  have hkind := (board.runtime_message_bus.mem_pending.mp hmem).2.2
  have hnot := List.find?_eq_none.mp hnone item hmem
  rw [decide_eq_true_iff] at hnot
  rcases mem_cons.mp hkind with heq | hprompt
  · exact absurd heq hnot
  · exact hprompt

/-- A consumption of what waits on the board: an interrupt ends the turn. -/
theorem ensures_consume {before : MessageTurn → Prop} {Q : Bool → MessageTurn → Prop}
    (hrecorded : ∀ turn, before turn → turn.board.Recorded)
    (hquiet : ∀ start : MessageTurn, (start.board.pending PIPELINE_RUNTIME_MESSAGE_KINDS).find?
        (fun item => item.message.kind = .INTERRUPT) = none →
      Ensures (fun turn => before turn ∧ turn = start) (do
        let batch := batch_of
          (start.board.pending PIPELINE_RUNTIME_MESSAGE_KINDS) start.board.runtime_message_cursor
        on_board (·.extended batch)
        pure (batch.messages.any fun item => item.message.kind ∈ PROMPT_RUNTIME_MESSAGE_KINDS))
        Q Ended) : Ensures before consume_runtime_messages Q Ended := by
  unfold consume_runtime_messages
  refine Ensures.bind (Q := fun start turn => before turn ∧ turn = start)
    (Ensures.get (fun turn h => ⟨h, rfl⟩)) (fun start => ?_)
  dsimp only
  rw [consume_after_unlimited]
  refine Ensures.bind (Q := fun batch turn => (before turn ∧ turn = start)
      ∧ batch = batch_of
        (start.board.pending PIPELINE_RUNTIME_MESSAGE_KINDS) start.board.runtime_message_cursor)
    (Ensures.lift (fun batch heq turn h => ⟨h, by cases heq; rfl⟩)
      (fun error heq => by cases heq)) (fun batch => ?_)
  refine Ensures.given (fun hbatch => ?_)
  subst hbatch
  dsimp only [batch_of]
  split
  · next item hfound =>
    refine Ensures.bind (Q := fun _ _ => False)
      ((goes_interrupt (P := fun turn => turn = start) ?_).mono
        (fun turn h => ⟨hrecorded turn h.1, h.2⟩) (fun _ _ h => h) (fun _ h => h))
      (fun _ => Ensures.pure (fun _ h => h.elim))
    rintro turn rfl
    rw [← find_interrupt]
    exact hfound
  · next hnone => exact hquiet start hnone

/-- The turn after a consumption of what waited on `board`. -/
def Consumed (P : MessageTurn → Prop) (changed : Bool) (turn : MessageTurn) : Prop :=
  ∃ board, P { turn with board }
    ∧ turn.board = board.extended (batch_of
        (board.pending PIPELINE_RUNTIME_MESSAGE_KINDS) board.runtime_message_cursor)
    ∧ (changed = false → board.pending PIPELINE_RUNTIME_MESSAGE_KINDS = [])

theorem goes_consume : Goes P consume_runtime_messages (Consumed P) := by
  refine ensures_consume (fun _ h => h.1) fun start hnone => ?_
  refine Ensures.bind (Q := fun _ => Going (fun turn => ∃ board, P { turn with board }
      ∧ turn.board = board.extended (batch_of
          (board.pending PIPELINE_RUNTIME_MESSAGE_KINDS) board.runtime_message_cursor)
      ∧ board = start.board))
    (Ensures.modify ?_) (fun _ => Ensures.pure ?_)
  · rintro turn ⟨⟨hrecorded, hopen, hturn⟩, rfl⟩
    exact ⟨hrecorded.extended hopen, hopen.note (fun _ _ heq => by cases heq),
      turn.board, hturn, rfl, rfl⟩
  · rintro turn ⟨hrecorded, hopen, board, hturn, hboard, rfl⟩
    refine ⟨hrecorded, hopen, start.board, hturn, hboard, fun hunchanged => ?_⟩
    refine eq_nil_iff_forall_not_mem.mpr (fun item hmem => ?_)
    have hnot := any_eq_false.mp hunchanged item hmem
    exact hnot (decide_eq_true (pending_prompt hnone hmem))

variable {turn : MessageTurn}

theorem Consumed.onLog {changed : Bool} (h : Consumed (OnLog L) changed turn)
    (hL : ∀ turn log items, L turn log → L turn (log ++ [.consumed turn items])) :
    OnLog L turn := by
  obtain ⟨board, hboard, heq, -⟩ := h
  unfold OnLog
  rw [heq]
  exact hL board.turn board.log _ hboard

theorem Consumed.justConsumed {changed : Bool} (h : Consumed P changed turn) :
    OnLog JustConsumed turn := by
  obtain ⟨board, -, heq, -⟩ := h
  unfold OnLog
  rw [heq]
  exact ⟨board.log, _, [], rfl, fun _ hmem => by cases hmem⟩

theorem Consumed.built (h : Consumed Built false turn) : Built turn := by
  obtain ⟨board, ⟨hgrounded, hshows⟩, heq, hnone⟩ := h
  unfold Built
  rw [heq, hnone rfl]
  exact ⟨hgrounded.trans (append_nil _).symm, hshows⟩

/-! ### Building the context and asking the model -/

theorem build_context_grounding (text : JsonText) (inputs : BuildInputs) :
    Ensures (fun _ => True) (stage_build_context text inputs)
      (fun _ state => ∃ rest, state.journal.grounding
        = runtime_context_grounding inputs.runtime_lines ++ rest) (fun _ => True) := by
  have htrivial {β : Type} (action : TurnAction β) :
      Ensures (fun _ => True) action (fun _ _ => True) (fun _ => True) := Ensures.trivial
  unfold stage_build_context
  refine Ensures.bind (htrivial _) (fun force => ?_)
  refine Ensures.bind (htrivial _) (fun results => ?_)
  refine Ensures.bind (htrivial _) (fun start => ?_)
  split
  · unfold rebuild_context
    refine Ensures.bind (htrivial _) (fun state => ?_)
    refine Ensures.bind (htrivial _) (fun core => ?_)
    exact Ensures.modify (fun _ _ => ⟨_, rfl⟩)
  · unfold patch_context
    refine Ensures.bind (htrivial _) (fun state => ?_)
    refine Ensures.bind (htrivial _) (fun _ => ?_)
    refine Ensures.bind (htrivial _) (fun _ => ?_)
    refine Ensures.bind (htrivial _) (fun _ => ?_)
    refine Ensures.bind (htrivial _) (fun _ => ?_)
    refine Ensures.bind (htrivial _) (fun placed => ?_)
    exact Ensures.modify (fun _ _ => ⟨_, rfl⟩)

theorem goes_build (inputs : BuildInputs) :
    Goes (OnLog L) (build_message_context text inputs) (fun _ turn => OnLog L turn ∧ Built turn) := by
  unfold build_message_context
  refine Ensures.bind (Q := fun start turn => Going (OnLog L) turn ∧ turn = start)
    (Ensures.get (fun turn h => ⟨h, rfl⟩)) (fun start => ?_)
  refine Ensures.bind (Q := fun _ turn => Going (OnLog L) turn ∧ turn.board = start.board
      ∧ Shows turn.state.journal.grounding start.board.runtime_messages) ?_ (fun _ => ?_)
  · rintro turn ⟨hgoing, rfl⟩
    obtain ⟨hok, -⟩ := build_context_grounding text
      (inputs.with_messages turn.board.runtime_messages) turn.state trivial
    refine ⟨fun a ha => ⟨hgoing, rfl, ?_⟩, fun _ _ => hgoing.ended⟩
    obtain ⟨rest, hrest⟩ := hok a ha
    exact ⟨inputs.runtime_lines, rest, hrest⟩
  · refine Ensures.modify (fun turn h => ?_)
    obtain ⟨⟨hrecorded, hopen, hlog⟩, hboard, hshows⟩ := h
    refine ⟨?_, hopen, hlog, rfl, ?_⟩
    · exact {
        published := hrecorded.published
        within := hrecorded.within
        consumed := hrecorded.consumed
        current := hrecorded.current
        unstarted := hrecorded.unstarted
        waiting := hrecorded.waiting
        complete := hrecorded.complete
        grounded := hrecorded.grounded
        answered := hrecorded.answered
        interrupted := hrecorded.interrupted }
    · show Shows turn.state.journal.grounding turn.board.runtime_messages
      rw [hboard]
      exact hshows

theorem goes_request :
    Goes (fun turn => OnLog JustConsumed turn ∧ Built turn) request_model
      (fun _ turn => OnLog Shown turn ∧ Built turn) := by
  unfold request_model
  refine Ensures.bind (Q := fun start turn =>
      Going (fun turn => OnLog JustConsumed turn ∧ Built turn) turn ∧ turn = start)
    (Ensures.get (fun turn h => ⟨h, rfl⟩)) (fun start => ?_)
  refine Ensures.bind (Q := fun _ turn =>
      Going (fun turn => OnLog JustConsumed turn ∧ Built turn) turn ∧ turn.board = start.board
        ∧ turn.state.journal.grounding = start.state.journal.grounding) ?_ (fun _ => ?_)
  · rintro turn ⟨hgoing, rfl⟩
    exact ⟨fun _ _ => ⟨hgoing, rfl, rfl⟩, fun _ _ => hgoing.ended⟩
  · refine Ensures.modify (fun turn h => ?_)
    obtain ⟨⟨hrecorded, hopen, ⟨earlier, items, since, hlog, hsince⟩, hgrounded, hshows⟩, hboard,
      hjournal⟩ := h
    have hcurrent : turn.board.grounded = consumed_in turn.board.turn turn.board.log := by
      rw [hgrounded, hrecorded.current]
    refine ⟨?_, hopen.note (fun _ _ heq => by cases heq), ?_, hgrounded, hshows⟩
    · refine hrecorded.note rfl (fun _ _ _ heq => by cases heq; exact Nat.le_refl _)
        (fun _ _ heq => by cases heq) ?_ (fun _ heq => by cases heq)
        (fun asked item hmem => absurd hmem (hopen asked item))
      intro asked call grounded heq
      cases heq
      refine ⟨hcurrent, ?_, earlier, items, since, hlog, hsince⟩
      show Shows start.state.journal.grounding turn.board.grounded
      rw [← hjournal]
      exact hshows
    · intro item hitem
      have hmem : item ∈ turn.board.grounded := by
        rw [MessageBoard.note_log, MessageBoard.note_turn, consumed_in_snoc] at hitem
        rw [hcurrent]
        simpa [MessageEvent.items_in] using hitem
      exact ⟨_, _, mem_append_right _ (mem_singleton_self _), hmem⟩

/-! ### The rounds -/

theorem built_appends (board : MessageBoard) :
    LeftByAppends (fun state => OnLog L { state, board } ∧ Built { state, board }) :=
  fun _ _ h => h

theorem goes_tools (hL : LeftByPublications L) (inputs : RoundInputs)
    (published : RoundPublications) (response : Response) :
    Goes (fun turn => OnLog L turn ∧ Built turn) (run_message_tools text inputs published response)
      (fun _ turn => OnLog L turn ∧ Built turn) := by
  have hpublish : ∀ turn message, (OnLog L turn ∧ Built turn) →
      OnLog L { turn with board := turn.board.publish message }
        ∧ Built { turn with board := turn.board.publish message } :=
    fun turn message h => ⟨onLog_publish hL turn message h.1, built_publish turn message h.2⟩
  have hbuild : Goes (fun turn => OnLog L turn ∧ Built turn)
      (build_message_context text inputs.context) (fun _ turn => OnLog L turn ∧ Built turn) :=
    (goes_build inputs.context).requires (fun _ h => ⟨h.1, h.2.1, h.2.2.1⟩)
  unfold run_message_tools
  refine (goes_on_state (fun board => Preserves.when (appends_append (built_appends board) _))).bind
    (fun _ => ?_)
  refine (goes_on_state (fun board => appends_offer_calls (built_appends board) _ _ _)).bind
    (fun offered => ?_)
  dsimp only
  refine (goes_publish hpublish _).bind (fun _ => ?_)
  split
  · exact hbuild
  · refine goes_raise_if_interrupted.bind (fun _ => ?_)
    refine (goes_on_state (fun board => appends_execute_calls (built_appends board) _ _)).bind
      (fun _ => ?_)
    refine Ensures.bind (Q := fun _ => Going (fun turn => OnLog L turn ∧ Built turn))
      (goes_on_state (fun board => Preserves.modify (fun _ h => h))) (fun _ => ?_)
    refine hbuild.bind (fun _ => ?_)
    refine goes_on_state (fun board => Preserves.modify (fun state h => ?_))
    unfold TurnState.expect_length
    split
    · exact h
    · exact h

theorem goes_round (inputs : RoundInputs) (published : RoundPublications) :
    Goes Built (run_message_round text inputs published)
      (fun _ turn => OnLog Shown turn ∧ Built turn) := by
  unfold run_message_round
  refine (goes_publish built_publish _).bind (fun _ => ?_)
  refine goes_consume.bind (fun changed => ?_)
  refine Ensures.bind (Q := fun _ => Going (fun turn => OnLog JustConsumed turn ∧ Built turn)) ?_
    (fun _ => ?_)
  · refine Ensures.when_else (fun _ => ?_) (fun hunchanged turn h => ?_)
    · exact (goes_build inputs.prompt_context).mono
        (fun _ h => ⟨h.1, h.2.1, h.2.2.justConsumed⟩) (fun _ _ h => h) (fun _ h => h)
    · obtain rfl : changed = false := by simpa using hunchanged
      exact ⟨h.1, h.2.1, h.2.2.justConsumed, h.2.2.built⟩
  refine (goes_publish (fun turn message h =>
    ⟨onLog_publish justConsumed_left turn message h.1, built_publish turn message h.2⟩) _).bind
    (fun _ => ?_)
  refine goes_request.bind (fun _ => ?_)
  refine (goes_answer _).bind (fun response => ?_)
  unfold finish_message_round
  split
  · exact (goes_tools shown_left inputs published response).bind
      (fun _ => Ensures.pure (fun _ h => h))
  · exact (goes_on_state (fun board => Preserves.when (appends_append (built_appends board) _))).bind
      (fun _ => Ensures.pure (fun _ h => h))

/-- The turn has asked the model with all it consumed, or not at all. -/
def Asked (turn : Nat) (log : List MessageEvent) : Prop := Shown turn log ∨ Unasked turn log

theorem asked_left : LeftByPublications Asked :=
  fun turn log item h => h.imp (shown_left turn log item) (unasked_left turn log item)

section

variable (rounds : Nat → RoundInputs) (published : Nat → RoundPublications)

theorem goes_rounds (remaining index : Nat) :
    Goes (fun turn => OnLog Asked turn ∧ Built turn)
      (run_message_rounds text rounds published remaining index)
      (fun _ => OnLog Asked) := by
  induction remaining generalizing index with
  | zero => exact Ensures.pure (fun _ h => ⟨h.1, h.2.1, h.2.2.1⟩)
  | succ remaining ih =>
    unfold run_message_rounds
    refine Ensures.bind (Q := fun _ => Going (fun turn => OnLog Asked turn ∧ Built turn))
      ((goes_round (rounds index) (published index)).mono (fun _ h => ⟨h.1, h.2.1, h.2.2.2⟩)
        (fun _ _ h => ⟨h.1, h.2.1, .inl h.2.2.1, h.2.2.2⟩) (fun _ h => h)) (fun more => ?_)
    exact Ensures.when (fun _ => ih (index + 1)) (fun _ h => ⟨h.1, h.2.1, h.2.2.1⟩)

theorem goes_model :
    Goes (fun turn => OnLog Unasked turn ∧ Built turn) (run_message_model text rounds published)
      (fun _ => OnLog Asked) := by
  unfold run_message_model
  refine Ensures.reading (fun start => ?_)
  refine Ensures.when (fun _ => ?_) (fun _ h => ⟨h.1, h.2.1, .inr h.2.2.1⟩)
  exact (goes_rounds rounds published _ _).requires (fun _ h => ⟨h.1, h.2.1, .inr h.2.2.1, h.2.2.2⟩)

end

/-! ### The turn -/

theorem unasked_consumed (turn : Nat) (log : List MessageEvent)
    (items : List SequencedRuntimeMessage) (h : Unasked turn log) :
    Unasked turn (log ++ [.consumed turn items]) := by
  intro call grounded hmem
  rcases mem_snoc hmem with hmem | hmem
  · exact h call grounded hmem
  · cases hmem

theorem goes_stages (inputs : TurnInputs) (published : TurnPublications) :
    Goes (OnLog Unasked) (run_message_stages text inputs published) (fun _ => OnLog Asked) := by
  have hunasked (messages : List RuntimeMessage) :
      Goes (OnLog Unasked) (on_board (·.publish_all messages)) (fun _ => OnLog Unasked) :=
    goes_publish (onLog_publish unasked_left) messages
  have hasked (messages : List RuntimeMessage) :
      Goes (OnLog Asked) (on_board (·.publish_all messages)) (fun _ => OnLog Asked) :=
    goes_publish (onLog_publish asked_left) messages
  have hconsume : Goes (OnLog Unasked) consume_runtime_messages (fun _ => OnLog Unasked) :=
    goes_consume.mono (fun _ h => h)
      (fun _ _ h => ⟨h.1, h.2.1, h.2.2.onLog unasked_consumed⟩) (fun _ h => h)
  unfold run_message_stages
  refine (hunasked _).bind (fun _ => ?_)
  refine hconsume.bind (fun _ => ?_)
  refine (hunasked _).bind (fun _ => ?_)
  refine hconsume.bind (fun _ => ?_)
  refine (goes_on_state (fun board => (fun _ h => ⟨fun _ _ => h, fun _ _ => h⟩))).bind (fun _ => ?_)
  refine (hunasked _).bind (fun _ => ?_)
  refine hconsume.bind (fun _ => ?_)
  refine (goes_build inputs.context).bind (fun _ => ?_)
  refine (goes_publish (fun turn message h =>
    ⟨onLog_publish unasked_left turn message h.1, built_publish turn message h.2⟩) _).bind
    (fun _ => ?_)
  refine goes_consume.bind (fun changed => ?_)
  refine Ensures.bind (Q := fun _ => Going (fun turn => OnLog Unasked turn ∧ Built turn)) ?_
    (fun _ => ?_)
  · refine Ensures.when_else (fun _ => ?_) (fun hunchanged turn h => ?_)
    · refine (goes_build inputs.prompt_context).requires (fun turn h => ?_)
      obtain ⟨hrecorded, hopen, board, hboard, heq, hnone⟩ := h
      exact ⟨hrecorded, hopen, Consumed.onLog ⟨board, hboard.1, heq, hnone⟩ unasked_consumed⟩
    · obtain rfl : changed = false := by simpa using hunchanged
      obtain ⟨hrecorded, hopen, board, hboard, heq, hnone⟩ := h
      exact ⟨hrecorded, hopen, Consumed.onLog ⟨board, hboard.1, heq, hnone⟩ unasked_consumed,
        Consumed.built ⟨board, hboard.2, heq, hnone⟩⟩
  refine (goes_model inputs.rounds published.rounds).bind (fun _ => ?_)
  refine (hasked _).bind (fun _ => ?_)
  refine goes_raise_if_interrupted.bind (fun _ => ?_)
  refine (goes_on_state (fun board => (fun _ h => ⟨fun _ _ => h, fun _ _ => h⟩))).bind (fun _ => ?_)
  refine (hasked _).bind (fun _ => ?_)
  refine goes_raise_if_interrupted.bind (fun _ => ?_)
  refine (goes_answer _).bind (fun _ => ?_)
  exact (hasked _).bind (fun _ => goes_raise_if_interrupted)

def Stopped (turn : MessageTurn) : Prop :=
  turn.board.Recorded ∧ ∃ ended item, .interrupted ended item ∈ turn.board.log

theorem stopped_consume :
    Ensures Stopped consume_runtime_messages (fun _ _ => False) Ended := by
  refine ensures_consume (fun _ h => h.1) fun start hnone => ?_
  rintro turn ⟨⟨hrecorded, ended, item, hmem⟩, rfl⟩
  have hwaiting := hrecorded.waiting ended item hmem
  rw [← find_interrupt] at hwaiting
  exact absurd (hnone.symm.trans hwaiting) (by simp)

theorem stopped_stages (inputs : TurnInputs) (published : TurnPublications) :
    Ensures Stopped (run_message_stages text inputs published) (fun _ _ => False) Ended := by
  have hpublish : Ensures Stopped (on_board (·.publish_all published.resolve_session))
      (fun _ => Stopped) Ended := by
    refine Ensures.modify (fun turn h => ?_)
    refine MessageBoard.publish_all_induction
      (P := fun board => Stopped { turn with board }) ?_ h published.resolve_session
    rintro board message ⟨hrecorded, ended, item, hmem⟩
    refine ⟨hrecorded.publish message, ended, item, ?_⟩
    rcases board.publish_cases message with heq | ⟨other, bus, -, heq⟩
    · show .interrupted ended item ∈ (board.publish message).log
      rw [heq]
      exact hmem
    · show .interrupted ended item ∈ (board.publish message).log
      rw [heq]
      exact mem_append_left _ hmem
  unfold run_message_stages
  refine hpublish.bind (fun _ => ?_)
  exact stopped_consume.bind (fun _ => fun _ h => h.elim)

theorem ensures_body (text : JsonText) (inputs : TurnInputs) (published : TurnPublications) :
    Goes (OnLog Unasked) (message_turn_body text inputs published) (fun _ => OnLog Asked)
      ∧ Ensures Stopped (message_turn_body text inputs published) (fun _ _ => False) Ended := by
  unfold message_turn_body
  constructor
  · refine (goes_stages inputs published).map_error.bind (fun _ => ?_)
    exact goes_on_state (fun board => (fun _ h => ⟨fun _ _ => h, fun _ _ => h⟩))
  · exact (stopped_stages inputs published).map_error.bind (fun _ => fun _ h => h.elim)

end Parts

/-! ## The messages of a context -/

variable {context : MessageSession}

theorem recorded_turn (text : JsonText) (inputs : TurnInputs) (published : TurnPublications)
    (h : context.board.Recorded) :
    (run_message_turn text inputs published context).2.board.Recorded := by
  obtain ⟨hgoes, hstopped⟩ := ensures_body text inputs published
  generalize hstart : ({
      state := { ctx := context.session.ctx, journal := context.session.journal }
      board := context.board.started } : MessageTurn) = start at *
  have hrecorded : start.board.Recorded := by
    rw [← hstart]
    exact h.started
  have hunasked : OnLog Unasked start := by
    rw [← hstart]
    intro call grounded hmem
    rcases mem_snoc hmem with hmem | hmem
    · exact (h.unstarted (context.board.turn + 1) (Nat.lt_succ_self _)).2 call grounded hmem
    · cases hmem
  have hraised : ∀ turn error, Ended turn →
      (turn.board.note (.raised turn.board.turn error)).Recorded := by
    rintro turn error ⟨hboard, hover⟩
    refine hboard.note rfl (fun _ _ _ heq => by cases heq) (fun _ _ heq => by cases heq)
      (fun _ _ _ heq => by cases heq) (fun _ heq => by cases heq) (fun ended item hmem => ?_)
    refine ⟨rfl, fun later hends => ?_⟩
    cases hends
    exact hover ended item hmem
  have hend : (∀ state, message_turn_body text inputs published start = (.ok (), state) →
        Going (OnLog Asked) state)
      ∧ ∀ error state, message_turn_body text inputs published start = (.error error, state) →
        Ended state := by
    by_cases hopen : start.board.Uninterrupted
    · exact ⟨fun state hrun => hgoes.ok ⟨hrecorded, hopen, hunasked⟩ hrun,
        fun error state hrun => hgoes.error ⟨hrecorded, hopen, hunasked⟩ hrun⟩
    · have hexists : ∃ ended item, .interrupted ended item ∈ start.board.log := by
        unfold MessageBoard.Uninterrupted at hopen
        push Not at hopen
        exact hopen
      exact ⟨fun state hrun => (hstopped.ok ⟨hrecorded, hexists⟩ hrun).elim,
        fun error state hrun => hstopped.error ⟨hrecorded, hexists⟩ hrun⟩
  unfold run_message_turn
  rw [hstart]
  split
  · next turn hrun =>
    obtain ⟨hboard, hopen, hasked⟩ := hend.1 turn hrun
    exact hboard.note rfl (fun _ _ _ heq => by cases heq) (fun _ _ heq => by cases heq)
      (fun _ _ _ heq => by cases heq) (fun _ heq => by cases heq; exact hasked)
      (fun ended item hmem => absurd hmem (hopen ended item))
  · next error turn hrun => exact hraised turn error (hend.2 error turn hrun)

theorem recorded_next (text : JsonText) (h : context.board.Recorded) (step : MessageStep) :
    (context.next text step).board.Recorded := by
  cases step with
  | publish message => exact h.publish message
  | append entry => exact h
  | turn inputs published => exact recorded_turn text inputs published h

theorem recorded_steps (text : JsonText) (h : context.board.Recorded) (steps : List MessageStep) :
    (steps.foldl (MessageSession.next text) context).board.Recorded := by
  induction steps generalizing context with
  | nil => exact h
  | cons step rest ih => exact ih (recorded_next text h step)

theorem recorded_start : ({} : MessageBoard).Recorded where
  published := rfl
  within := Nat.le_refl _
  consumed := rfl
  current := rfl
  unstarted := fun _ _ => ⟨rfl, fun _ _ hmem => by cases hmem⟩
  waiting := fun _ _ hmem => by cases hmem
  complete := Throughout.nil
  grounded := Throughout.nil
  answered := Throughout.nil
  interrupted := Throughout.nil

/-- Messages act in the order of their publication, whatever is published while the turns of a
context run. What a consumption takes is all that was published and not consumed; it is not
consumed again, and the requests of the turn from then on show it. A turn that returns has shown
all it consumed, if it asked the model at all. The interrupt that ends a turn ends every turn
after it, and none of those consumes a message or asks the model. -/
theorem runtime_messages_in_order (text : JsonText) (ctx : PipelineContext)
    (steps : List MessageStep) :
    ActsInOrder (steps.foldl (MessageSession.next text) { session := { ctx } }).board := by
  have h : (steps.foldl (MessageSession.next text) { session := { ctx } }).board.Recorded :=
    recorded_steps text recorded_start steps
  refine ⟨h.published, ?_, h.complete, h.grounded, h.answered, h.interrupted⟩
  rw [h.consumed]
  exact ((of_kinds_increasing _).filter _).nodup

/-! ## Acting once -/

def grounded_items (log : List MessageEvent) : List SequencedRuntimeMessage :=
  log.flatMap (fun
    | .requested _ _ grounded => grounded
    | _ => [])

/-- An interrupt ends one turn at most, and what is consumed is shown by a request. -/
def ActsOnce (log : List MessageEvent) : Prop :=
  (∀ item turn later, .interrupted turn item ∈ log → .interrupted later item ∈ log → turn = later)
    ∧ ∀ item ∈ consumed_items log, item ∈ grounded_items log

def sample_steer : RuntimeMessage where
  message_id := "steer-1"
  kind := .USER_STEER
  payload := [("text", .str "be brief")]

def sample_interrupt : RuntimeMessage where
  message_id := "stop-1"
  kind := .INTERRUPT
  payload := [("reason", .str "stop")]

/-- A steer and an interrupt are published, and two turns are run. -/
def interrupted_steps : List MessageStep :=
  [.publish sample_steer,
   .publish sample_interrupt,
   .turn (plain_turn "fork-1" [[.text "hi", .done]]) {},
   .turn (plain_turn "fork-2" [[.text "hi", .done]]) {}]

/-- A steer is consumed by a turn whose tools cannot be loaded, and the next turn is answered. -/
def failed_steps : List MessageStep :=
  [.publish sample_steer,
   .turn { plain_turn "fork-1" [[.text "hi", .done]] with
     collect_schemas := .error (.raised (.raised .HookError "tools are gone")) } {},
   .turn (plain_turn "fork-2" [[.text "hi", .done]]) {}]

def message_log (steps : List MessageStep) : List MessageEvent :=
  (steps.foldl (MessageSession.next plain_text) { session := { ctx := fresh_context } }).board.log

theorem messages_act_twice_or_never :
    ¬ ActsOnce (message_log interrupted_steps) ∧ ¬ ActsOnce (message_log failed_steps) := by
  constructor
  · rintro ⟨honce, -⟩
    have hfirst : (message_log interrupted_steps)[3]?
        = some (.interrupted 1 ⟨2, sample_interrupt⟩) := rfl
    have hsecond : (message_log interrupted_steps)[6]?
        = some (.interrupted 2 ⟨2, sample_interrupt⟩) := rfl
    have hturn : 1 = 2 :=
      honce _ 1 2 (mem_of_getElem? hfirst) (mem_of_getElem? hsecond)
    cases hturn
  · rintro ⟨-, hshown⟩
    have hnone : grounded_items (message_log failed_steps) = [] := rfl
    have hconsumed : (consumed_items (message_log failed_steps)).length = 1 := rfl
    obtain ⟨item, hitem⟩ := length_eq_one_iff.mp hconsumed
    have hmem : item ∈ grounded_items (message_log failed_steps) := by
      refine hshown item ?_
      rw [hitem]
      exact mem_singleton_self _
    rw [hnone] at hmem
    cases hmem

end CodingAgentLoop
