/-
The inbound message bus (`agentkit/runtime/messages.py`).

The bus keeps every message it was given, numbered from 1 on, and takes a message id once. A
consumer holds a cursor of its own: it is handed the messages with greater numbers, of the kinds
it asks for, and a cursor at the last of them. Its lock is held over no await, so a call of
`publish` or `consume_after` is one step.
-/
import CodingAgentLoop.Errors
import CodingAgentLoop.Lib.Cursor
import CodingAgentLoop.Lib.Json

namespace CodingAgentLoop

open Lib List

inductive RuntimeMessageKind where
  | INTERRUPT
  | USER_STEER
  | APPROVAL_DECISION
  | SUBAGENT_MESSAGE
  | SYSTEM_NOTICE
  deriving DecidableEq, Repr

def RuntimeMessageKind.value : RuntimeMessageKind → String
  | .INTERRUPT => "interrupt"
  | .USER_STEER => "user_steer"
  | .APPROVAL_DECISION => "approval_decision"
  | .SUBAGENT_MESSAGE => "subagent_message"
  | .SYSTEM_NOTICE => "system_notice"

structure RuntimeMessage where
  message_id : String
  kind : RuntimeMessageKind
  payload : JsonObject := []
  named : message_id ≠ "" := by decide

structure SequencedRuntimeMessage where
  sequence : Nat
  message : RuntimeMessage

structure RuntimeMessageCursor where
  sequence : Nat := 0
  deriving DecidableEq, Repr

structure RuntimeMessageBatch where
  messages : List SequencedRuntimeMessage
  cursor : RuntimeMessageCursor

structure DuplicateRuntimeMessageError where
  message_id : String
  deriving DecidableEq, Repr

def string_payload_value (payload : JsonObject) : List String → String
  | [] => ""
  | name :: names =>
    match (payload.get name).str? with
    | some value => if value = "" then string_payload_value payload names else value
    | none => string_payload_value payload names

/-- `InMemoryRuntimeMessageBus`; its set of message ids is that of its messages. -/
structure InMemoryRuntimeMessageBus where
  messages : List SequencedRuntimeMessage := []
  numbered : messages.map (·.sequence) = List.range' 1 messages.length := by rfl
  distinct : (messages.map (·.message.message_id)).Nodup := by decide

namespace InMemoryRuntimeMessageBus

section

variable (bus : InMemoryRuntimeMessageBus)

def message_ids : List String :=
  bus.messages.map (·.message.message_id)

/-- The message as `publish` numbers it. -/
def sequenced (message : RuntimeMessage) : SequencedRuntimeMessage where
  sequence := bus.messages.length + 1
  message

def appended (message : RuntimeMessage)
    (hnew : message.message_id ∉ bus.message_ids) : InMemoryRuntimeMessageBus where
  messages := bus.messages ++ [bus.sequenced message]
  numbered := by
    rw [map_append, bus.numbered, length_append, length_singleton,
      range'_append_1.symm]
    simp [sequenced, Nat.add_comm]
  distinct := by
    rw [map_append, nodup_append]
    refine ⟨bus.distinct, nodup_singleton _, ?_⟩
    intro message_id hmem other hother heq
    rw [map_singleton, mem_singleton] at hother
    subst heq
    rw [hother] at hmem
    exact hnew hmem

def publish (message : RuntimeMessage) :
    Except DuplicateRuntimeMessageError (SequencedRuntimeMessage × InMemoryRuntimeMessageBus) :=
  if hnew : message.message_id ∉ bus.message_ids then
    .ok (bus.sequenced message, bus.appended message hnew)
  else .error { message_id := message.message_id }

/-- The messages of `kinds` past the cursor. -/
def pending (cursor : RuntimeMessageCursor)
    (kinds : List RuntimeMessageKind) : List SequencedRuntimeMessage :=
  (bus.messages.filter (fun item => cursor.sequence < item.sequence)).filter
    (fun item => item.message.kind ∈ kinds)

end

/-- The batch of `messages`. -/
def batch_of (messages : List SequencedRuntimeMessage) (cursor : RuntimeMessageCursor) :
    RuntimeMessageBatch where
  messages
  cursor := ⟨Cursor.advanced (·.sequence) messages cursor.sequence⟩

/-- `consume_after(cursor, kinds=..., limit=...)`; the callers name kinds. -/
def consume_after (bus : InMemoryRuntimeMessageBus) (cursor : RuntimeMessageCursor)
    (kinds : List RuntimeMessageKind) (limit : Option Int) : Except StoreError RuntimeMessageBatch :=
  match limit with
  | none => .ok (batch_of (bus.pending cursor kinds) cursor)
  | some limit =>
    if limit ≤ 0 then raise .ValueError "limit must be positive"
    else .ok (batch_of ((bus.pending cursor kinds).take limit.toNat) cursor)

/-! ## What the bus keeps -/

variable (bus : InMemoryRuntimeMessageBus) {message : RuntimeMessage}
  {kinds : List RuntimeMessageKind} {cursor : RuntimeMessageCursor}

theorem increasing : Cursor.Increasing (·.sequence) bus.messages := by
  have h : (bus.messages.map (·.sequence)).Pairwise (· < ·) := by
    rw [bus.numbered]
    exact pairwise_lt_range'
  exact pairwise_map.mp h

variable {item : SequencedRuntimeMessage}

theorem sequence_le (h : item ∈ bus.messages) : item.sequence ≤ bus.messages.length := by
  have hmem : item.sequence ∈ bus.messages.map (·.sequence) := mem_map_of_mem h
  rw [bus.numbered] at hmem
  have := mem_range'_1.mp hmem
  omega

theorem eq_of_message_id {item other : SequencedRuntimeMessage} (hitem : item ∈ bus.messages)
    (hother : other ∈ bus.messages) (h : item.message.message_id = other.message.message_id) :
    item = other :=
  inj_on_of_nodup_map bus.distinct hitem hother h

theorem publish_eq_ok {bus' : InMemoryRuntimeMessageBus}
    (h : bus.publish message = .ok (item, bus')) :
    item = bus.sequenced message ∧ bus'.messages = bus.messages ++ [item]
      ∧ message.message_id ∉ bus.message_ids := by
  unfold publish at h
  split at h
  · next hnew =>
    cases h
    exact ⟨rfl, rfl, hnew⟩
  · cases h

/-- The messages of `kinds`, in the order of their publication. -/
def of_kinds (kinds : List RuntimeMessageKind) : List SequencedRuntimeMessage :=
  bus.messages.filter (fun item => item.message.kind ∈ kinds)

theorem of_kinds_increasing : Cursor.Increasing (·.sequence) (bus.of_kinds kinds) :=
  bus.increasing.filter _

theorem pending_eq :
    bus.pending cursor kinds = Cursor.after (·.sequence) (bus.of_kinds kinds) cursor.sequence := by
  unfold pending Cursor.after of_kinds
  rw [filter_filter, filter_filter]
  refine filter_congr ?_
  intro item _
  rw [Bool.and_comm]

@[simp] theorem mem_pending : item ∈ bus.pending cursor kinds ↔
      item ∈ bus.messages ∧ cursor.sequence < item.sequence ∧ item.message.kind ∈ kinds := by
  unfold pending
  rw [mem_filter, mem_filter, decide_eq_true_iff, decide_eq_true_iff, and_assoc]

theorem consume_after_unlimited :
    bus.consume_after cursor kinds none = .ok (batch_of (bus.pending cursor kinds) cursor) := rfl

theorem consume_after_eq_ok {limit : Option Int} {batch : RuntimeMessageBatch}
    (h : bus.consume_after cursor kinds limit = .ok batch) :
    batch = batch_of batch.messages cursor ∧ batch.messages <+: bus.pending cursor kinds
      ∧ (limit = none → batch.messages = bus.pending cursor kinds) := by
  unfold consume_after at h
  split at h
  · cases h
    exact ⟨rfl, prefix_rfl, fun _ => rfl⟩
  · split at h
    · cases h
    · cases h
      exact ⟨rfl, take_prefix _ _, fun hnone => by cases hnone⟩

theorem upto_batch {batch : List SequencedRuntimeMessage} (h : batch <+: bus.pending cursor kinds) :
    Cursor.upto (·.sequence) (bus.of_kinds kinds) (batch_of batch cursor).cursor.sequence
      = Cursor.upto (·.sequence) (bus.of_kinds kinds) cursor.sequence ++ batch := by
  obtain ⟨later, hlater⟩ := h
  rw [pending_eq] at hlater
  exact Cursor.upto_advanced bus.of_kinds_increasing hlater.symm

theorem batch_cursor_le {batch : List SequencedRuntimeMessage}
    (h : batch <+: bus.pending cursor kinds) (hcursor : cursor.sequence ≤ bus.messages.length) :
    (batch_of batch cursor).cursor.sequence ≤ bus.messages.length := by
  rcases eq_nil_or_concat' batch with rfl | ⟨front, last, rfl⟩
  · exact hcursor
  · have hlast : last ∈ bus.pending cursor kinds := h.subset (by simp)
    show Cursor.advanced (·.sequence) (front ++ [last]) cursor.sequence ≤ _
    rw [Cursor.advanced_snoc]
    exact bus.sequence_le (bus.mem_pending.mp hlast).1

end InMemoryRuntimeMessageBus

end CodingAgentLoop
