/-
The topics in the store and the anchors on the tape.

The two agree when every topic's seqs are the positions of its anchors. A call appends its
anchor first, so an anchor that cannot be written is taken off again and both are as they were;
but a row that is already written stays when recording its anchor fails, and then the anchor it
points at is gone. Exactly the calls to which that happens break the agreement.
-/
import CodingAgentLoop.TopicLifecycle

namespace CodingAgentLoop

open Lib Action TopicTables TopicWorld Table PendingCall List

/-! ## The statement -/

/-- The mark of the entry at `index`. -/
def mark_at (entries : List Entry) (index : Nat) : Option (String × String) :=
  entries[index]?.bind Entry.topic_mark

def TopicRow.end_type (row : TopicRow) : Option String :=
  match row.status with
  | .open => none
  | .finalized => some TOPIC_FINALIZED
  | .aborted => some TOPIC_ABORTED

namespace TopicWorld

/-- Topics and tape agree: a topic's initial seq is where its initial anchor is and nowhere
else, a closed topic's final seq is where the anchor of its end is, and a stored anchor names
the entry at its seq. -/
structure Agrees (world : TopicWorld) : Prop where
  tape : ∀ topic_id row, world.tables.topics.row topic_id = some row →
    row.tape_id = world.tape.tape_id
  begun : ∀ topic_id row, world.tables.topics.row topic_id = some row → ∀ index,
    mark_at world.tape.entries index = some (topic_id, TOPIC_INITIAL)
      ↔ index = row.topic_initial_seq
  closed : ∀ topic_id row, world.tables.topics.row topic_id = some row →
    row.status ≠ .open → row.topic_finalized_seq.isSome = true
  ended : ∀ topic_id row, world.tables.topics.row topic_id = some row → ∀ index,
    ∀ anchor_type ∈ [TOPIC_FINALIZED, TOPIC_ABORTED],
      mark_at world.tape.entries index = some (topic_id, anchor_type)
        ↔ row.end_type = some anchor_type ∧ row.topic_finalized_seq = some index
  named : ∀ key row, world.tables.topic_anchors.row key = some row →
    ∃ entry, world.tape.entries[key.2.1]? = some entry ∧ row.entry_id = some entry.id

def Fresh (world : TopicWorld) (topic_id : String) : Prop :=
  world.tables.topics.row topic_id = none
    ∧ ∀ index anchor_type, mark_at world.tape.entries index ≠ some (topic_id, anchor_type)

end TopicWorld

namespace TopicCall

def writing : TopicCall → PendingCall
  | .create call => call.writing
  | .close call => call.writing

def recording : TopicCall → PendingCall
  | .create call => call.recording
  | .close call => call.recording

def Fresh (world : TopicWorld) : TopicCall → Prop
  | .create call => world.Fresh call.topic_id
  | .close _ => True

/-- The call leaves topics and tape in agreement, and when a store call has failed both are as
they were, but for entries appended meanwhile. -/
def Sound (casefold : String → String) (world : TopicWorld) (call : TopicCall) : Prop :=
  let (outcome, after) := call.run casefold world
  after.Agrees ∧ ∀ error, outcome = .error (.store error) →
    after.tables = world.tables ∧ after.tape.tape_id = world.tape.tape_id
      ∧ ∃ meanwhile : List OrdinaryEntry,
          meanwhile <+: call.writing.appended ++ call.recording.appended
            ∧ after.tape.entries = world.tape.entries ++ meanwhile.map Subtype.val

/-- The store takes the topic's row. -/
def Written (casefold : String → String) (world : TopicWorld) : TopicCall → Prop
  | .create call =>
    let record := call.record world.tape.tape_id world.tape.entries.length
    record.post_init casefold = .ok () ∧ call.writing.failure = none
      ∧ ∃ stored, world.tables.create_topic record = .ok stored
  | .close call =>
    call.topic_tape_id = world.tape.tape_id ∧ call.writing.failure = none
      ∧ ∃ stored, call.write casefold world.tape.entries.length world.tables = .ok stored

/-- The anchor record a call makes for a row that was written. -/
def anchor_record (world : TopicWorld) : TopicCall → TopicAnchorRecord
  | .create call =>
    { topic_id := call.topic_id
      tape_id := world.tape.tape_id
      seq := world.tape.entries.length
      anchor_type := TOPIC_INITIAL
      entry_id := some call.anchor.id
      metadata := [("encoded_anchor_type", .str "topic_start"),
        ("product_anchor_type", .str TOPIC_INITIAL)] }
  | .close call =>
    { topic_id := call.topic_id
      tape_id := world.tape.tape_id
      seq := world.tape.entries.length
      anchor_type := call.product_anchor_type
      entry_id := some call.anchor.id
      metadata := [("encoded_anchor_type", .str "topic_end"),
        ("product_anchor_type", .str call.product_anchor_type)] }

/-- When the row is written, recording its anchor does not fail. -/
def Recorded (casefold : String → String) (world : TopicWorld) (call : TopicCall) : Prop :=
  call.Written casefold world →
    (call.anchor_record world).post_init casefold = .ok () ∧ call.recording.failure = none

end TopicCall

/-- A condition on the calls of a history, each with the world it finds. -/
def Along (casefold : String → String) (condition : TopicWorld → TopicCall → Prop) :
    TopicWorld → List TopicEvent → Prop
  | _, [] => True
  | world, .append entry :: rest => Along casefold condition (world.append_all [entry.val]) rest
  | world, .call call :: rest =>
    condition world call ∧ Along casefold condition (call.run casefold world).2 rest

/-! ## Marks -/

theorem getElem?_of_prefix {entries entries' : List Entry} (h : entries <+: entries')
    {index : Nat} {entry : Entry} (hentry : entries[index]? = some entry) :
    entries'[index]? = some entry := by
  obtain ⟨more, rfl⟩ := h
  obtain ⟨hlt, _⟩ := List.getElem?_eq_some_iff.mp hentry
  rw [List.getElem?_append_left hlt, hentry]

section

variable (entries : List Entry)

theorem mark_at_ordinary (ordinary : List OrdinaryEntry) (index : Nat) :
    mark_at (entries ++ ordinary.map Subtype.val) index = mark_at entries index := by
  unfold mark_at
  by_cases hlt : index < entries.length
  · rw [List.getElem?_append_left hlt]
  · have hle : entries.length ≤ index := Nat.le_of_not_lt hlt
    rw [List.getElem?_append_right hle, List.getElem?_eq_none hle, List.getElem?_map]
    cases ordinary[index - entries.length]? with
    | none => rfl
    | some entry => exact entry.property

theorem mark_at_anchor (anchor : Entry) (index : Nat) :
    mark_at (entries ++ [anchor]) index
      = if index = entries.length then anchor.topic_mark else mark_at entries index := by
  unfold mark_at
  by_cases hlt : index < entries.length
  · rw [List.getElem?_append_left hlt, if_neg (by omega)]
  · have hle : entries.length ≤ index := Nat.le_of_not_lt hlt
    rw [List.getElem?_append_right hle]
    by_cases heq : index = entries.length
    · rw [if_pos heq, heq, Nat.sub_self]
      rfl
    · rw [if_neg heq, List.getElem?_eq_none hle, List.getElem?_eq_none]
      show 1 ≤ index - entries.length
      omega

theorem mark_at_length : mark_at entries entries.length = none := by
  unfold mark_at
  rw [List.getElem?_eq_none (Nat.le_refl _)]
  rfl

theorem mark_at_anchored (anchor : Entry) (ordinary : List OrdinaryEntry) (index : Nat) :
    mark_at (entries ++ [anchor] ++ ordinary.map Subtype.val) index
      = if index = entries.length then anchor.topic_mark else mark_at entries index := by
  rw [mark_at_ordinary, mark_at_anchor]

theorem mark_at_kept {anchor : Entry} (ordinary : List OrdinaryEntry)
    (index : Nat) {mark : String × String} (hother : anchor.topic_mark ≠ some mark) :
    mark_at (entries ++ [anchor] ++ ordinary.map Subtype.val) index = some mark
      ↔ mark_at entries index = some mark := by
  rw [mark_at_anchored]
  by_cases heq : index = entries.length
  · rw [if_pos heq, heq, mark_at_length]
    exact ⟨fun h => absurd h hother, fun h => by cases h⟩
  · rw [if_neg heq]

end

/-! ## Runs of the store calls -/

section Runs

variable {α : Type} {world : TopicWorld} {pending : PendingCall}
  {call : TopicTables → Except StoreError (α × TopicTables)}

theorem pending_refused (h : pending.failure = none → ∃ error, call world.tables = .error error) :
    ∃ error, pending.run call world
      = (.error (.store error), world.append_all (pending.appended.map Subtype.val)) := by
  cases hfailure : pending.failure with
  | some error =>
    refine ⟨error, ?_⟩
    unfold run
    rw [hfailure]
    rfl
  | none =>
    obtain ⟨error, herror⟩ := h hfailure
    refine ⟨error, ?_⟩
    have hmodify : (Action.modify (·.append_all (pending.appended.map Subtype.val)) :
        TopicAction Unit) world = (.ok (), world.append_all (pending.appended.map Subtype.val)) :=
      rfl
    unfold run
    rw [bind_ok hmodify, hfailure]
    exact (bind_ok rfl).trans (bind_error (lift_error herror))

theorem pending_taken {returned : α} {tables : TopicTables} (hfailure : pending.failure = none)
    (hcall : call world.tables = .ok (returned, tables)) :
    pending.run call world
      = (.ok returned, { world.append_all (pending.appended.map Subtype.val) with tables }) := by
  unfold run
  rw [hfailure]
  exact bind_ok (lift_ok hcall)

theorem remove_anchor_appended (world : TopicWorld) (anchor : Entry) (later : List Entry) :
    ((world.append_all [anchor]).append_all later).remove_anchor world.tape.entries.length
      anchor.id = world.append_all later := by
  have hentry : (world.tape.entries ++ [anchor] ++ later)[world.tape.entries.length]?
      = some anchor := by
    rw [append_assoc, List.getElem?_append_right (Nat.le_refl _), Nat.sub_self]
    rfl
  have herase : (world.tape.entries ++ [anchor] ++ later).eraseIdx world.tape.entries.length
      = world.tape.entries ++ later := by
    rw [append_assoc, eraseIdx_append_of_length_le (Nat.le_refl _), Nat.sub_self]
    rfl
  unfold remove_anchor append_all
  dsimp only
  rw [hentry]
  dsimp only
  rw [if_pos rfl, herase]

theorem removing_ok {seq : Nat} {entry_id : String} {action : TopicAction α} {returned : α}
    {after : TopicWorld} (h : action world = (.ok returned, after)) :
    removing_anchor seq entry_id action world = (.ok returned, after) := by
  have hattempt : attempt action world
      = ((.ok (.ok returned), after) : Except LifecycleError _ × TopicWorld) := by
    unfold attempt
    rw [h]
  unfold removing_anchor
  exact bind_ok hattempt

theorem removing_error {seq : Nat} {entry_id : String} {action : TopicAction α}
    {error : LifecycleError} {after : TopicWorld} (h : action world = (.error error, after)) :
    removing_anchor seq entry_id action world
      = (.error error, after.remove_anchor seq entry_id) := by
  have hattempt : attempt action world
      = ((.ok (.error error), after) : Except LifecycleError _ × TopicWorld) := by
    unfold attempt
    rw [h]
  unfold removing_anchor
  exact bind_ok hattempt

end Runs

def recorded_anchor (topic_id tape_id : String) (seq : Nat)
    (product_anchor_type entry_id encoded_anchor_type : String) : TopicAnchorRecord where
  topic_id := topic_id
  seq := seq
  tape_id := tape_id
  anchor_type := product_anchor_type
  entry_id := some entry_id
  metadata := [("encoded_anchor_type", .str encoded_anchor_type),
    ("product_anchor_type", .str product_anchor_type)]

def TopicTables.with_topic (tables : TopicTables) (topic_id : String) (row : TopicRow) :
    TopicTables :=
  { tables with topics := tables.topics.put topic_id row }

def TopicTables.with_anchor (tables : TopicTables) (record : TopicAnchorRecord) : TopicTables :=
  { tables with
    topic_anchors := tables.topic_anchors.put
      (record.topic_id, record.seq, record.anchor_type) record.toTopicAnchorRow }

section Body

variable {casefold : String → String} {writing recording : PendingCall}
  {write : TopicTables → Except StoreError (TopicRow × TopicTables)} {world : TopicWorld}
  {topic_id product_anchor_type entry_id encoded_anchor_type : String} {anchor : Entry}
  {stored : TopicRow} {tables : TopicTables} {seq : Nat}

theorem record_refused
    (h : (recorded_anchor topic_id stored.tape_id seq product_anchor_type entry_id
        encoded_anchor_type).post_init casefold = .ok () → recording.failure ≠ none) :
    ∃ error after, record_anchor casefold recording topic_id stored seq product_anchor_type
        entry_id encoded_anchor_type world = (.error (.store error), after)
      ∧ after.tables = world.tables := by
  unfold record_anchor
  cases hcheck : (recorded_anchor topic_id stored.tape_id seq product_anchor_type entry_id
      encoded_anchor_type).post_init casefold with
  | error error =>
    exact ⟨error, world, bind_error (lift_error hcheck), rfl⟩
  | ok _ =>
    obtain ⟨error, hrun⟩ : ∃ error, recording.run (fun tables =>
          (fun tables => ((), tables)) <$> tables.record_topic_anchor (recorded_anchor topic_id
            stored.tape_id seq product_anchor_type entry_id encoded_anchor_type)) world
        = (.error (.store error), world.append_all (recording.appended.map Subtype.val)) :=
      pending_refused (fun hnone => absurd hnone (h hcheck))
    exact ⟨error, _, (bind_ok (lift_ok hcheck)).trans hrun, rfl⟩

theorem record_taken
    (hcheck : (recorded_anchor topic_id stored.tape_id seq product_anchor_type entry_id
      encoded_anchor_type).post_init casefold = .ok ())
    (hfailure : recording.failure = none)
    (hrow : world.tables.topics.row topic_id = some stored) :
    record_anchor casefold recording topic_id stored seq product_anchor_type entry_id
        encoded_anchor_type world
      = (.ok (), { world.append_all (recording.appended.map Subtype.val) with
          tables := world.tables.with_anchor (recorded_anchor topic_id stored.tape_id seq
            product_anchor_type entry_id encoded_anchor_type) }) := by
  have hcall : (fun tables : TopicTables => (fun tables => ((), tables)) <$>
      tables.record_topic_anchor (recorded_anchor topic_id stored.tape_id seq product_anchor_type
        entry_id encoded_anchor_type)) world.tables
      = .ok ((), world.tables.with_anchor (recorded_anchor topic_id stored.tape_id seq
          product_anchor_type entry_id encoded_anchor_type)) := by
    have hrecorded : world.tables.record_topic_anchor (recorded_anchor topic_id stored.tape_id seq
        product_anchor_type entry_id encoded_anchor_type)
          = .ok (world.tables.with_anchor (recorded_anchor topic_id stored.tape_id seq
              product_anchor_type entry_id encoded_anchor_type)) := by
      have hid : (recorded_anchor topic_id stored.tape_id seq product_anchor_type entry_id
          encoded_anchor_type).topic_id = topic_id := rfl
      unfold record_topic_anchor
      rw [hid, hrow]
      dsimp only
      unfold raise_if
      rw [if_neg (fun hne => hne rfl)]
      rfl
    show Except.map _ _ = _
    rw [hrecorded]
    rfl
  unfold record_anchor
  exact (bind_ok (lift_ok hcheck)).trans (pending_taken hfailure hcall)

theorem body_refused (h : writing.failure = none → ∃ error, write world.tables = .error error) :
    ∃ error, removing_anchor world.tape.entries.length anchor.id
        (write_and_record casefold writing recording write topic_id world.tape.entries.length
          product_anchor_type anchor.id encoded_anchor_type) (world.append_all [anchor])
      = (.error (.store error), world.append_all (writing.appended.map Subtype.val)) := by
  have hstart : writing.failure = none →
      ∃ error, write (world.append_all [anchor]).tables = .error error := h
  obtain ⟨error, hrun⟩ := pending_refused hstart
  refine ⟨error, ?_⟩
  have hbody : write_and_record casefold writing recording write topic_id
      world.tape.entries.length product_anchor_type anchor.id encoded_anchor_type
      (world.append_all [anchor])
        = (.error (.store error),
            (world.append_all [anchor]).append_all (writing.appended.map Subtype.val)) :=
    bind_error hrun
  rw [removing_error hbody]
  exact congrArg (Prod.mk _) (remove_anchor_appended world anchor _)

theorem body_unrecorded (hfailure : writing.failure = none)
    (hwrite : write world.tables = .ok (stored, tables))
    (h : (recorded_anchor topic_id stored.tape_id world.tape.entries.length product_anchor_type
        anchor.id encoded_anchor_type).post_init casefold = .ok () → recording.failure ≠ none) :
    ∃ error after, removing_anchor world.tape.entries.length anchor.id
        (write_and_record casefold writing recording write topic_id world.tape.entries.length
          product_anchor_type anchor.id encoded_anchor_type) (world.append_all [anchor])
      = (.error (.store error), after) ∧ after.tables = tables := by
  have hstart : write (world.append_all [anchor]).tables = .ok (stored, tables) := hwrite
  have hwritten := pending_taken hfailure hstart
  obtain ⟨error, after, hrun, htables⟩ := record_refused h
  refine ⟨error, after.remove_anchor world.tape.entries.length anchor.id, ?_, ?_⟩
  · exact removing_error ((bind_ok hwritten).trans (bind_error hrun))
  · unfold remove_anchor
    split
    · exact htables
    · split
      · exact htables
      · exact htables

theorem body_recorded (hfailure : writing.failure = none)
    (hwrite : write world.tables = .ok (stored, tables))
    (hrow : tables.topics.row topic_id = some stored)
    (hcheck : (recorded_anchor topic_id stored.tape_id world.tape.entries.length
      product_anchor_type anchor.id encoded_anchor_type).post_init casefold = .ok ())
    (hrecording : recording.failure = none) :
    removing_anchor world.tape.entries.length anchor.id
        (write_and_record casefold writing recording write topic_id world.tape.entries.length
          product_anchor_type anchor.id encoded_anchor_type) (world.append_all [anchor])
      = (.ok stored,
          { (world.append_all [anchor]).append_all
              ((writing.appended ++ recording.appended).map Subtype.val) with
            tables := tables.with_anchor (recorded_anchor topic_id stored.tape_id
              world.tape.entries.length product_anchor_type anchor.id encoded_anchor_type) }) := by
  have hstart : write (world.append_all [anchor]).tables = .ok (stored, tables) := hwrite
  have hwritten := pending_taken hfailure hstart
  have hrow' : ({ (world.append_all [anchor]).append_all (writing.appended.map Subtype.val) with
      tables } : TopicWorld).tables.topics.row topic_id = some stored := hrow
  have hrecorded := record_taken hcheck hrecording hrow'
  refine removing_ok ?_
  unfold write_and_record
  rw [bind_ok hwritten, bind_ok hrecorded]
  unfold append_all
  rw [map_append, ← append_assoc]
  rfl

end Body

/-! ## What a call leaves of the agreement -/

namespace TopicWorld

variable {world world' : TopicWorld}

theorem Agrees.extended (h : world.Agrees) (htables : world'.tables = world.tables)
    (htape_id : world'.tape.tape_id = world.tape.tape_id)
    (hentries : world.tape.entries <+: world'.tape.entries)
    (hmarks : ∀ topic_id row, world.tables.topics.row topic_id = some row → ∀ index anchor_type,
      mark_at world'.tape.entries index = some (topic_id, anchor_type)
        ↔ mark_at world.tape.entries index = some (topic_id, anchor_type)) :
    world'.Agrees where
  tape topic_id row hrow := by
    rw [htables] at hrow
    rw [htape_id]
    exact h.tape topic_id row hrow
  begun topic_id row hrow index := by
    rw [htables] at hrow
    rw [hmarks topic_id row hrow]
    exact h.begun topic_id row hrow index
  closed topic_id row hrow := by
    rw [htables] at hrow
    exact h.closed topic_id row hrow
  ended topic_id row hrow index anchor_type htype := by
    rw [htables] at hrow
    rw [hmarks topic_id row hrow]
    exact h.ended topic_id row hrow index anchor_type htype
  named key row hrow := by
    rw [htables] at hrow
    obtain ⟨entry, hentry, hid⟩ := h.named key row hrow
    exact ⟨entry, getElem?_of_prefix hentries hentry, hid⟩

theorem Agrees.appended (h : world.Agrees) (ordinary : List OrdinaryEntry) :
    (world.append_all (ordinary.map Subtype.val)).Agrees :=
  h.extended rfl rfl (prefix_append _ _)
    (fun _ _ _ index _ => by
      show mark_at (world.tape.entries ++ _) index = _ ↔ _
      rw [mark_at_ordinary])

/-- The agreement once a topic's row was put and its anchor recorded at the end of the tape. -/
theorem Agrees.put (h : world.Agrees) {topic_id anchor_type : String} {row : TopicRow}
    {anchor : Entry} {ordinary : List OrdinaryEntry} {record : TopicAnchorRecord}
    (hanchor : anchor.topic_mark = some (topic_id, anchor_type))
    (htape : row.tape_id = world.tape.tape_id)
    (hbegun : ∀ index,
      mark_at (world.tape.entries ++ [anchor] ++ ordinary.map Subtype.val) index
        = some (topic_id, TOPIC_INITIAL) ↔ index = row.topic_initial_seq)
    (hclosed : row.status ≠ .open → row.topic_finalized_seq.isSome = true)
    (hended : ∀ index, ∀ end_type ∈ [TOPIC_FINALIZED, TOPIC_ABORTED],
      mark_at (world.tape.entries ++ [anchor] ++ ordinary.map Subtype.val) index
        = some (topic_id, end_type)
        ↔ row.end_type = some end_type ∧ row.topic_finalized_seq = some index)
    (hseq : record.seq = world.tape.entries.length) (hid : record.entry_id = some anchor.id) :
    ({ (world.append_all [anchor]).append_all (ordinary.map Subtype.val) with
        tables := (world.tables.with_topic topic_id row).with_anchor record } :
      TopicWorld).Agrees := by
  have hother : ∀ other, other ≠ topic_id → ∀ type,
      anchor.topic_mark ≠ some (other, type) := by
    intro other hne type heq
    rw [hanchor] at heq
    exact hne (Prod.mk.inj (Option.some.inj heq)).1.symm
  have hgrown : world.tape.entries
      <+: world.tape.entries ++ [anchor] ++ ordinary.map Subtype.val := by
    rw [append_assoc]
    exact prefix_append _ _
  have hrows : ∀ other other_row,
      (world.tables.topics.put topic_id row).row other = some other_row →
      (other = topic_id ∧ other_row = row)
        ∨ (other ≠ topic_id ∧ world.tables.topics.row other = some other_row) := by
    intro other other_row hrow
    rw [row_put] at hrow
    by_cases heq : other = topic_id
    · rw [if_pos heq] at hrow
      exact .inl ⟨heq, (Option.some.inj hrow).symm⟩
    · rw [if_neg heq] at hrow
      exact .inr ⟨heq, hrow⟩
  refine ⟨fun other other_row hrow => ?_, fun other other_row hrow index => ?_,
    fun other other_row hrow => ?_, fun other other_row hrow index type htype => ?_,
    fun key anchor_row hrow => ?_⟩
  · rcases hrows other other_row hrow with ⟨rfl, rfl⟩ | ⟨_, hold⟩
    · exact htape
    · exact h.tape other other_row hold
  · rcases hrows other other_row hrow with ⟨rfl, rfl⟩ | ⟨hne, hold⟩
    · exact hbegun index
    · exact (mark_at_kept _ ordinary index (hother other hne _)).trans
        (h.begun other other_row hold index)
  · rcases hrows other other_row hrow with ⟨rfl, rfl⟩ | ⟨_, hold⟩
    · exact hclosed
    · exact h.closed other other_row hold
  · rcases hrows other other_row hrow with ⟨rfl, rfl⟩ | ⟨hne, hold⟩
    · exact hended index type htype
    · exact (mark_at_kept _ ordinary index (hother other hne _)).trans
        (h.ended other other_row hold index type htype)
  · have hput : (world.tables.topic_anchors.put (record.topic_id, record.seq, record.anchor_type)
        record.toTopicAnchorRow).row key = some anchor_row := hrow
    rw [row_put] at hput
    by_cases heq : key = (record.topic_id, record.seq, record.anchor_type)
    · rw [if_pos heq] at hput
      refine ⟨anchor, ?_, ?_⟩
      · rw [heq]
        show (world.tape.entries ++ [anchor] ++ ordinary.map Subtype.val)[record.seq]? = _
        rw [hseq, append_assoc, List.getElem?_append_right (Nat.le_refl _), Nat.sub_self]
        rfl
      · rw [← Option.some.inj hput]
        exact hid
    · rw [if_neg heq] at hput
      obtain ⟨entry, hentry, hnamed⟩ := h.named key anchor_row hput
      exact ⟨entry, getElem?_of_prefix hgrown hentry, hnamed⟩

end TopicWorld

/-! ## A call of `create_topic` -/

section Create

variable {casefold : String → String} {world : TopicWorld} {call : CreateCall}

theorem create_invalid {error : StoreError}
    (h : (call.record world.tape.tape_id world.tape.entries.length).post_init casefold
      = .error error) :
    (TopicCall.create call).run casefold world
      = (.error (.other error), world.append_all [call.anchor]) := by
  show create_topic casefold call world = _
  unfold create_topic
  rw [bind_ok (get_run _)]
  exact (bind_ok rfl).trans (bind_error (lift_error h))

theorem create_valid
    (h : (call.record world.tape.tape_id world.tape.entries.length).post_init casefold = .ok ()) :
    (TopicCall.create call).run casefold world
      = call.guarded casefold (call.record world.tape.tape_id world.tape.entries.length)
          world.tape.entries.length (world.append_all [call.anchor]) := by
  show create_topic casefold call world = _
  unfold create_topic
  rw [bind_ok (get_run _)]
  exact (bind_ok rfl).trans (bind_ok (lift_ok h))

theorem create_topic_new {tables tables' : TopicTables} {record : TopicRecord} {stored : TopicRow}
    (hnew : tables.topics.row record.topic_id = none)
    (h : tables.create_topic record = .ok (stored, tables')) :
    stored = record.toTopicRow
      ∧ tables' = tables.with_topic record.topic_id record.toTopicRow := by
  unfold TopicTables.create_topic at h
  rw [hnew] at h
  dsimp only at h
  split at h
  · cases h
  · obtain ⟨hstored, htables⟩ := Prod.mk.inj (Except.ok.inj h)
    exact ⟨hstored.symm, htables.symm⟩

theorem agrees_with_stray (h : world.Agrees) {topic_id anchor_type : String} {anchor : Entry}
    (hanchor : anchor.topic_mark = some (topic_id, anchor_type))
    (hnew : world.tables.topics.row topic_id = none) : (world.append_all [anchor]).Agrees := by
  refine h.extended rfl rfl (prefix_append _ _) (fun other row hrow index type => ?_)
  have hother : anchor.topic_mark ≠ some (other, type) := by
    intro heq
    rw [hanchor] at heq
    rw [(Prod.mk.inj (Option.some.inj heq)).1] at hnew
    rw [hnew] at hrow
    cases hrow
  have hkept := mark_at_kept world.tape.entries [] index hother
  rw [map_nil, append_nil] at hkept
  exact hkept

theorem agrees_created (h : world.Agrees) (hfresh : world.Fresh call.topic_id) :
    ({ (world.append_all [call.anchor]).append_all
          ((call.writing.appended ++ call.recording.appended).map Subtype.val) with
        tables := (world.tables.with_topic call.topic_id (call.record world.tape.tape_id
          world.tape.entries.length).toTopicRow).with_anchor (recorded_anchor call.topic_id
            world.tape.tape_id world.tape.entries.length TOPIC_INITIAL call.anchor.id
            "topic_start") } : TopicWorld).Agrees := by
  have hmark : call.anchor.topic_mark = some (call.topic_id, TOPIC_INITIAL) := rfl
  refine h.put hmark rfl (fun index => ?_) (fun hopen => absurd rfl hopen)
    (fun index end_type htype => ?_) rfl rfl
  · rw [mark_at_anchored, hmark]
    by_cases heq : index = world.tape.entries.length
    · rw [if_pos heq]
      exact ⟨fun _ => heq, fun _ => rfl⟩
    · rw [if_neg heq]
      exact ⟨fun hold => absurd hold (hfresh.2 index _), fun hseq => absurd hseq heq⟩
  · have hne : call.anchor.topic_mark ≠ some (call.topic_id, end_type) := by
      rw [hmark]
      intro heq
      rw [← (Prod.mk.inj (Option.some.inj heq)).2] at htype
      exact absurd htype (by decide)
    rw [mark_at_kept _ _ _ hne]
    exact ⟨fun hold => absurd hold (hfresh.2 index _), fun hended => by cases hended.1⟩

theorem sound_of_run {call : TopicCall} {outcome : Except LifecycleError TopicRow}
    {after : TopicWorld} (hrun : call.run casefold world = (outcome, after)) :
    call.Sound casefold world ↔ after.Agrees ∧ ∀ error, outcome = .error (.store error) →
      after.tables = world.tables ∧ after.tape.tape_id = world.tape.tape_id
        ∧ ∃ meanwhile : List OrdinaryEntry,
            meanwhile <+: call.writing.appended ++ call.recording.appended
              ∧ after.tape.entries = world.tape.entries ++ meanwhile.map Subtype.val := by
  unfold TopicCall.Sound
  rw [hrun]

theorem sound_of_refused {call : TopicCall} {error : StoreError} (h : world.Agrees)
    (hrun : call.run casefold world
      = (.error (.store error), world.append_all (call.writing.appended.map Subtype.val))) :
    call.Sound casefold world :=
  (sound_of_run hrun).mpr ⟨h.appended _, fun _ _ => ⟨rfl, rfl, call.writing.appended,
    prefix_append _ _, rfl⟩⟩

theorem create_refused
    (hcheck : (call.record world.tape.tape_id world.tape.entries.length).post_init casefold
      = .ok ()) (hwritten : ¬ (TopicCall.create call).Written casefold world) :
    ∃ error, (TopicCall.create call).run casefold world
      = (.error (.store error), world.append_all (call.writing.appended.map Subtype.val)) := by
  have hrefused : call.writing.failure = none → ∃ error,
      world.tables.create_topic (call.record world.tape.tape_id world.tape.entries.length)
        = .error error := by
    intro hnone
    cases hwrite : world.tables.create_topic
        (call.record world.tape.tape_id world.tape.entries.length) with
    | error error => exact ⟨error, rfl⟩
    | ok stored => exact absurd ⟨hcheck, hnone, stored, hwrite⟩ hwritten
  obtain ⟨error, hrun⟩ : ∃ error, call.guarded casefold
        (call.record world.tape.tape_id world.tape.entries.length) world.tape.entries.length
        (world.append_all [call.anchor])
      = (.error (.store error), world.append_all (call.writing.appended.map Subtype.val)) :=
    body_refused hrefused
  exact ⟨error, (create_valid hcheck).trans hrun⟩

theorem create_unrecorded (hfresh : world.Fresh call.topic_id)
    (hwritten : (TopicCall.create call).Written casefold world)
    (hrecorded : ¬ (TopicCall.create call).Recorded casefold world) :
    ∃ error after, (TopicCall.create call).run casefold world = (.error (.store error), after)
      ∧ after.tables ≠ world.tables := by
  obtain ⟨hcheck, hfailure, ⟨stored, tables⟩, hwrite⟩ := hwritten
  obtain ⟨rfl, rfl⟩ := create_topic_new hfresh.1 hwrite
  obtain ⟨error, after, hrun, htables⟩ : ∃ error after, call.guarded casefold
        (call.record world.tape.tape_id world.tape.entries.length) world.tape.entries.length
        (world.append_all [call.anchor]) = (.error (.store error), after)
      ∧ after.tables = world.tables.with_topic call.topic_id
          (call.record world.tape.tape_id world.tape.entries.length).toTopicRow :=
    body_unrecorded hfailure hwrite (fun hok hnone => hrecorded (fun _ => ⟨hok, hnone⟩))
  refine ⟨error, after, (create_valid hcheck).trans hrun, fun hsame => ?_⟩
  have hrow : after.tables.topics.row call.topic_id
      = some (call.record world.tape.tape_id world.tape.entries.length).toTopicRow := by
    rw [htables]
    exact row_put_self _ _ _
  rw [hsame, hfresh.1] at hrow
  cases hrow

theorem create_recorded (h : world.Agrees) (hfresh : world.Fresh call.topic_id)
    (hwritten : (TopicCall.create call).Written casefold world)
    (hrecorded : (TopicCall.create call).Recorded casefold world) :
    ∃ stored after, (TopicCall.create call).run casefold world = (.ok stored, after)
      ∧ after.Agrees := by
  obtain ⟨hcheck, hrecording⟩ := hrecorded hwritten
  obtain ⟨hvalid, hfailure, ⟨stored, tables⟩, hwrite⟩ := hwritten
  obtain ⟨rfl, rfl⟩ := create_topic_new hfresh.1 hwrite
  have hrow : (world.tables.with_topic call.topic_id (call.record world.tape.tape_id
      world.tape.entries.length).toTopicRow).topics.row call.topic_id
        = some (call.record world.tape.tape_id world.tape.entries.length).toTopicRow :=
    row_put_self _ _ _
  have hrun : call.guarded casefold (call.record world.tape.tape_id world.tape.entries.length)
      world.tape.entries.length (world.append_all [call.anchor]) = (.ok _, _) :=
    body_recorded hfailure hwrite hrow hcheck hrecording
  exact ⟨_, _, (create_valid hvalid).trans hrun, agrees_created h hfresh⟩

theorem sound_create_iff (h : world.Agrees) (hfresh : world.Fresh call.topic_id) :
    (TopicCall.create call).Sound casefold world
      ↔ (TopicCall.create call).Recorded casefold world := by
  by_cases hwritten : (TopicCall.create call).Written casefold world
  · by_cases hrecorded : (TopicCall.create call).Recorded casefold world
    · obtain ⟨stored, after, hrun, hagrees⟩ := create_recorded h hfresh hwritten hrecorded
      exact iff_of_true ((sound_of_run hrun).mpr
        ⟨hagrees, fun _ hstore => by cases hstore⟩) hrecorded
    · obtain ⟨error, after, hrun, hchanged⟩ := create_unrecorded hfresh hwritten hrecorded
      refine iff_of_false (fun hsound => hchanged ?_) hrecorded
      exact (((sound_of_run hrun).mp hsound).2 error rfl).1
  · refine iff_of_true ?_ (fun h => absurd h hwritten)
    cases hcheck : (call.record world.tape.tape_id
        world.tape.entries.length).post_init casefold with
    | error error =>
      exact (sound_of_run (create_invalid hcheck)).mpr
        ⟨agrees_with_stray h rfl hfresh.1, fun _ hstore => by cases hstore⟩
    | ok _ =>
      obtain ⟨error, hrun⟩ := create_refused hcheck hwritten
      exact sound_of_refused h hrun

end Create

/-! ## A call of `finalize_topic` or `abort_topic` -/

section Close

variable {casefold : String → String} {world : TopicWorld} {call : CloseCall}

theorem close_mismatched (h : call.topic_tape_id ≠ world.tape.tape_id) :
    ∃ error, (TopicCall.close call).run casefold world = (.error (.other error), world) := by
  refine ⟨.raised .ValueError
    ("topic " ++ call.topic_id ++ " belongs to tape " ++ call.topic_tape_id), ?_⟩
  show close_topic casefold call world = _
  unfold close_topic
  rw [bind_ok (get_run _)]
  refine bind_error ?_
  unfold when
  rw [if_pos h.symm]
  rfl

theorem close_matched {outcome : Except LifecycleError TopicRow} {after : TopicWorld}
    (h : call.topic_tape_id = world.tape.tape_id)
    (hrun : call.guarded casefold world.tape.entries.length (world.append_all [call.anchor])
      = (outcome, after)) :
    (∀ error, outcome = .error error →
        (TopicCall.close call).run casefold world = (.error error, after))
      ∧ ∀ stored, outcome = .ok stored → ∃ ended, (∀ error, ended ≠ .error (.store error))
        ∧ (TopicCall.close call).run casefold world = (ended, after) := by
  have hmatch : (when (world.tape.tape_id ≠ call.topic_tape_id) (Action.raise
      (.other (.raised .ValueError ("topic " ++ call.topic_id ++ " belongs to tape "
        ++ call.topic_tape_id)))) : TopicAction Unit) world = (.ok (), world) := by
    unfold when
    rw [if_neg (fun hne => hne h.symm)]
    rfl
  have hanchored : (Action.modify (fun world => world.append_all [call.anchor])
      : TopicAction Unit) world = (.ok (), world.append_all [call.anchor]) := rfl
  show (∀ error, outcome = .error error → close_topic casefold call world = (.error error, after))
    ∧ ∀ stored, outcome = .ok stored → ∃ ended, (∀ error, ended ≠ .error (.store error))
      ∧ close_topic casefold call world = (ended, after)
  unfold close_topic
  rw [bind_ok (get_run _), bind_ok hmatch, bind_ok hanchored]
  refine ⟨fun error herror => ?_, fun stored hstored => ?_⟩
  · subst herror
    exact bind_error hrun
  · subst hstored
    rw [bind_ok hrun]
    cases call.deferred with
    | none => exact ⟨.ok stored, (fun _ h => by cases h), rfl⟩
    | some error => exact ⟨.error (.other error), (fun _ h => by cases h), rfl⟩

theorem close_topic_eq_ok {tables tables' : TopicTables} {status : TopicStatus}
    {operation topic_id : String} {summary : Option String} {seq : Nat} {finalized_at : Datetime}
    {metadata : JsonObject} {stored : TopicRow}
    (h : tables.close_topic casefold status operation topic_id summary seq finalized_at metadata
      = .ok (stored, tables')) :
    ∃ row, tables.topics.row topic_id = some row ∧ row.status = .open
      ∧ stored = closed_row row status summary seq finalized_at metadata
      ∧ tables' = tables.with_topic topic_id stored := by
  unfold TopicTables.close_topic at h
  obtain ⟨_, _, h⟩ := Result.bind_eq_ok.mp h
  cases hrow : tables.topics.row topic_id with
  | none =>
    rw [hrow] at h
    cases h
  | some row =>
    rw [hrow] at h
    dsimp only at h
    split at h
    · next hopen =>
      obtain ⟨hstored, htables⟩ := Prod.mk.inj (Except.ok.inj h)
      exact ⟨row, rfl, hopen.1, hstored.symm, by rw [← htables, ← hstored]; rfl⟩
    · cases h

theorem write_eq_ok {tables tables' : TopicTables} {seq : Nat} {stored : TopicRow}
    (h : call.write casefold seq tables = .ok (stored, tables')) :
    ∃ row, tables.topics.row call.topic_id = some row ∧ row.status = .open
      ∧ stored = closed_row row call.close_status call.summary seq call.finalized_at
          call.metadata
      ∧ tables' = tables.with_topic call.topic_id stored := by
  unfold CloseCall.write at h
  unfold CloseCall.close_status
  cases haborts : call.aborts with
  | true =>
    rw [if_pos haborts] at h
    exact close_topic_eq_ok h
  | false =>
    rw [haborts] at h
    exact close_topic_eq_ok h

theorem closed_row_end_type (call : CloseCall) (row : TopicRow) (seq : Nat) :
    (closed_row row call.close_status call.summary seq call.finalized_at
      call.metadata).end_type = some call.product_anchor_type := by
  unfold TopicRow.end_type closed_row CloseCall.close_status
    CloseCall.product_anchor_type
  cases call.aborts with
  | true => rfl
  | false => rfl

theorem product_anchor_type_ne (call : CloseCall) : call.product_anchor_type ≠ TOPIC_INITIAL := by
  unfold CloseCall.product_anchor_type
  cases call.aborts with
  | true => decide
  | false => decide

theorem agrees_closed (h : world.Agrees) {row : TopicRow}
    (hrow : world.tables.topics.row call.topic_id = some row) (hopen : row.status = .open)
    (ordinary : List OrdinaryEntry) {record : TopicAnchorRecord}
    (hseq : record.seq = world.tape.entries.length)
    (hid : record.entry_id = some call.anchor.id) :
    ({ (world.append_all [call.anchor]).append_all (ordinary.map Subtype.val) with
        tables := (world.tables.with_topic call.topic_id (closed_row row
          call.close_status call.summary world.tape.entries.length call.finalized_at
          call.metadata)).with_anchor record } : TopicWorld).Agrees := by
  have hmark : call.anchor.topic_mark = some (call.topic_id, call.product_anchor_type) := rfl
  refine h.put hmark (h.tape _ row hrow) (fun index => ?_) (fun _ => rfl)
    (fun index end_type htype => ?_) hseq hid
  · have hne : call.anchor.topic_mark ≠ some (call.topic_id, TOPIC_INITIAL) := by
      rw [hmark]
      exact fun heq => product_anchor_type_ne call (Prod.mk.inj (Option.some.inj heq)).2
    rw [mark_at_kept _ _ _ hne]
    exact h.begun _ row hrow index
  · rw [mark_at_anchored, closed_row_end_type, hmark]
    by_cases heq : index = world.tape.entries.length
    · rw [if_pos heq]
      constructor
      · intro hsame
        exact ⟨congrArg some (Prod.mk.inj (Option.some.inj hsame)).2, congrArg some heq.symm⟩
      · intro hended
        rw [Option.some.inj hended.1]
    · rw [if_neg heq, h.ended _ row hrow index end_type htype]
      constructor
      · intro hended
        have hnone : row.end_type = none := by
          unfold TopicRow.end_type
          rw [hopen]
        rw [hnone] at hended
        cases hended.1
      · intro hended
        exact absurd (Option.some.inj hended.2).symm heq

theorem close_refused (hmatch : call.topic_tape_id = world.tape.tape_id)
    (hwritten : ¬ (TopicCall.close call).Written casefold world) :
    ∃ error, (TopicCall.close call).run casefold world
      = (.error (.store error), world.append_all (call.writing.appended.map Subtype.val)) := by
  have hrefused : call.writing.failure = none → ∃ error,
      call.write casefold world.tape.entries.length world.tables = .error error := by
    intro hnone
    cases hwrite : call.write casefold world.tape.entries.length world.tables with
    | error error => exact ⟨error, rfl⟩
    | ok stored => exact absurd ⟨hmatch, hnone, stored, hwrite⟩ hwritten
  obtain ⟨error, hrun⟩ : ∃ error, call.guarded casefold world.tape.entries.length
        (world.append_all [call.anchor])
      = (.error (.store error), world.append_all (call.writing.appended.map Subtype.val)) :=
    body_refused hrefused
  exact ⟨error, (close_matched hmatch hrun).1 _ rfl⟩

theorem close_unrecorded (h : world.Agrees)
    (hwritten : (TopicCall.close call).Written casefold world)
    (hrecorded : ¬ (TopicCall.close call).Recorded casefold world) :
    ∃ error after, (TopicCall.close call).run casefold world = (.error (.store error), after)
      ∧ after.tables ≠ world.tables := by
  obtain ⟨hmatch, hfailure, ⟨stored, tables⟩, hwrite⟩ := hwritten
  obtain ⟨row, hrow, hopen, hstored, rfl⟩ := write_eq_ok hwrite
  have htape : stored.tape_id = world.tape.tape_id := by
    rw [hstored]
    exact h.tape _ row hrow
  obtain ⟨error, after, hrun, htables⟩ : ∃ error after, call.guarded casefold
        world.tape.entries.length (world.append_all [call.anchor]) = (.error (.store error), after)
      ∧ after.tables = world.tables.with_topic call.topic_id stored :=
    body_unrecorded hfailure hwrite (fun hok hnone =>
      hrecorded (fun _ => ⟨by rw [htape] at hok; exact hok, hnone⟩))
  refine ⟨error, after, (close_matched hmatch hrun).1 _ rfl, fun hsame => ?_⟩
  have hclosed : after.tables.topics.row call.topic_id = some stored := by
    rw [htables]
    exact row_put_self _ _ _
  rw [hsame, hrow, Option.some.injEq] at hclosed
  have hended : row.end_type = some call.product_anchor_type := by
    rw [hclosed, hstored]
    exact closed_row_end_type call row _
  unfold TopicRow.end_type at hended
  rw [hopen] at hended
  cases hended

theorem close_recorded (h : world.Agrees) (hwritten : (TopicCall.close call).Written casefold world)
    (hrecorded : (TopicCall.close call).Recorded casefold world) :
    ∃ ended after, (TopicCall.close call).run casefold world = (ended, after)
      ∧ (∀ error, ended ≠ .error (.store error)) ∧ after.Agrees := by
  obtain ⟨hcheck, hrecording⟩ := hrecorded hwritten
  obtain ⟨hmatch, hfailure, ⟨stored, tables⟩, hwrite⟩ := hwritten
  obtain ⟨row, hrow, hopen, hstored, rfl⟩ := write_eq_ok hwrite
  have htape : stored.tape_id = world.tape.tape_id := by
    rw [hstored]
    exact h.tape _ row hrow
  have hput : (world.tables.with_topic call.topic_id stored).topics.row call.topic_id
      = some stored := row_put_self _ _ _
  have hvalid : (recorded_anchor call.topic_id stored.tape_id world.tape.entries.length
      call.product_anchor_type call.anchor.id "topic_end").post_init casefold = .ok () := by
    rw [htape]
    exact hcheck
  have hrun : call.guarded casefold world.tape.entries.length (world.append_all [call.anchor])
      = (.ok _, _) := body_recorded hfailure hwrite hput hvalid hrecording
  obtain ⟨ended, hended, hclosed⟩ := (close_matched hmatch hrun).2 _ rfl
  refine ⟨ended, _, hclosed, hended, ?_⟩
  rw [hstored]
  exact agrees_closed h hrow hopen _ rfl rfl

theorem sound_close_iff (h : world.Agrees) :
    (TopicCall.close call).Sound casefold world
      ↔ (TopicCall.close call).Recorded casefold world := by
  by_cases hwritten : (TopicCall.close call).Written casefold world
  · by_cases hrecorded : (TopicCall.close call).Recorded casefold world
    · obtain ⟨ended, after, hrun, hended, hagrees⟩ := close_recorded h hwritten hrecorded
      exact iff_of_true ((sound_of_run hrun).mpr
        ⟨hagrees, fun error hstore => absurd hstore (hended error)⟩) hrecorded
    · obtain ⟨error, after, hrun, hchanged⟩ := close_unrecorded h hwritten hrecorded
      refine iff_of_false (fun hsound => hchanged ?_) hrecorded
      exact (((sound_of_run hrun).mp hsound).2 error rfl).1
  · refine iff_of_true ?_ (fun h => absurd h hwritten)
    by_cases hmatch : call.topic_tape_id = world.tape.tape_id
    · obtain ⟨error, hrun⟩ := close_refused hmatch hwritten
      exact sound_of_refused h hrun
    · obtain ⟨error, hrun⟩ := close_mismatched hmatch
      exact (sound_of_run hrun).mpr ⟨h, fun _ hstore => by cases hstore⟩

end Close

/-! ## A history of calls -/

theorem sound_iff {casefold : String → String} {world : TopicWorld} {call : TopicCall}
    (h : world.Agrees) (hfresh : call.Fresh world) :
    call.Sound casefold world ↔ call.Recorded casefold world := by
  cases call with
  | create call => exact sound_create_iff h hfresh
  | close call => exact sound_close_iff h

/-- From topics and a tape that agree, through any history of calls whose topic ids are new and
of entries appended between them: every call is sound just when in every call the anchor of a
row that is written is recorded. -/
theorem topics_agree_iff (casefold : String → String) (world : TopicWorld) (h : world.Agrees)
    (events : List TopicEvent)
    (hfresh : Along casefold (fun world call => call.Fresh world) world events) :
    Along casefold (fun world call => call.Sound casefold world) world events
      ↔ Along casefold (fun world call => call.Recorded casefold world) world events := by
  induction events generalizing world with
  | nil => exact Iff.rfl
  | cons event rest ih =>
    cases event with
    | append entry => exact ih (world.append_all [entry.val]) (h.appended [entry]) hfresh
    | call call =>
      have hcall : call.Sound casefold world ↔ call.Recorded casefold world :=
        sound_iff h hfresh.1
      constructor
      · rintro ⟨hsound, hrest⟩
        exact ⟨hcall.mp hsound, (ih _ hsound.1 hfresh.2).mp hrest⟩
      · rintro ⟨hrecorded, hrest⟩
        have hsound := hcall.mpr hrecorded
        exact ⟨hsound, (ih _ hsound.1 hfresh.2).mpr hrest⟩

/-! ## A topic whose anchor is not recorded -/

def empty_world : TopicWorld where
  tape := { tape_id := "tape-1" }

theorem empty_world_agrees : empty_world.Agrees where
  tape _ _ hrow := by cases hrow
  begun _ _ hrow := by cases hrow
  closed _ _ hrow := by cases hrow
  ended _ _ hrow := by cases hrow
  named _ _ hrow := by cases hrow

/-- A topic is created; recording its anchor meets this failure. -/
def created_topic (failure : Option StoreError) : TopicCall :=
  .create
    { topic_id := "topic-1"
      session_id := "session-1"
      kind := "coding"
      created_at := 0
      stamp := ⟨"anchor-1", 0⟩
      recording := { failure } }

/-- The topic stays in the store, open, at a position that is not on the tape any more. -/
theorem unrecorded_topic_stays :
    let called := (created_topic (some (.raised .RuntimeError "database is locked"))).run id
      empty_world
    called.2.tape.entries = []
      ∧ (called.2.tables.topics.row "topic-1").map (·.topic_initial_seq) = some 0
      ∧ ¬ (created_topic (some (.raised .RuntimeError "database is locked"))).Sound id
        empty_world := by
  have hrows : ((created_topic (some (.raised .RuntimeError "database is locked"))).run id
      empty_world).2.tables.topics.row "topic-1" ≠ none := by
    decide +kernel
  refine ⟨by decide +kernel, by decide +kernel, fun hsound => hrows ?_⟩
  have hraised : ((created_topic (some (.raised .RuntimeError "database is locked"))).run id
      empty_world).1 = .error (.store (.raised .RuntimeError "database is locked")) := rfl
  have hsame : ((created_topic (some (.raised .RuntimeError "database is locked"))).run id
      empty_world).2.tables = empty_world.tables := (hsound.2 _ hraised).1
  exact (congrArg (fun tables : TopicTables => tables.topics.row "topic-1") hsame).trans rfl

def created_events : List TopicEvent :=
  [.call (created_topic none), .append ⟨.entry "message" ⟨[], "entry-1", 0, []⟩, rfl⟩]

theorem created_events_sound :
    Along id (fun world call => call.Sound id world) empty_world created_events := by
  refine (topics_agree_iff id empty_world empty_world_agrees created_events
    ⟨⟨rfl, fun _ _ h => by cases h⟩, trivial⟩).mpr ⟨fun _ => ⟨?_, rfl⟩, trivial⟩
  decide +kernel

end CodingAgentLoop
