/-
The stored result of a transition, as JSON (`transition_commit_payload` and
`transition_commit_from_payload` in `coding_agent/stores/rtstore/harness.py`).

The encoder writes one object; the store keeps its text with the keys sorted, and the decoder reads
what that text loads as: the canonical form of the object. A look-up in a canonical form is the
look-up in the object itself, up to the value's own order of keys (`find_canonical`), so each record
is read back field by field, and the payloads it carries come back in canonical form, which is the
same dictionary.

Frozen and plain values are the same JSON here: freezing turns lists into tuples and objects into
read-only views, and the decoder's constructors freeze again.
-/
import CodingAgentLoop.SequenceAllocation
import CodingAgentLoop.Lib.CanonicalJson
import CodingAgentLoop.Lib.Decimal

namespace CodingAgentLoop

open Lib JsonObject AuthoritativeUnitOfWork List Result

/-! ## Encoding -/

/-- The host with `datetime.fromisoformat`, which reads what `isoformat` writes. -/
structure PayloadHost extends Host where
  fromisoformat : String → Option Datetime
  sha256_ne : ∀ tree, sha256 tree ≠ ""
  isoformat_ne : ∀ instant, isoformat instant ≠ ""
  fromisoformat_isoformat : ∀ instant, fromisoformat (isoformat instant) = some instant

theorem PayloadHost.isoformat_injective (host : PayloadHost) :
    Function.Injective host.isoformat := by
  intro a b h
  have hread := congrArg host.fromisoformat h
  rw [host.fromisoformat_isoformat, host.fromisoformat_isoformat] at hread
  exact Option.some.inj hread

def commit_ref_payload (ref : CommitRef) : JsonObject :=
  [("transition_id", .str ref.transition_id),
   ("fact_seq_start", json_or_null json_u64 ref.fact_seq_start),
   ("fact_seq_end", json_or_null json_u64 ref.fact_seq_end)]

def state_version_payload (version : OperationStateVersion) : JsonObject :=
  [("run_id", .str version.run_id),
   ("revision", .int version.revision),
   ("projection_epoch", .int version.projection_epoch),
   ("commit_ref", .obj (commit_ref_payload version.commit_ref)),
   ("value", .obj version.value)]

/-- An entry of the payload's `facts`. -/
def committed_fact_payload (host : PayloadHost) (fact : EventRecord) : JsonObject :=
  [("event_id", .str fact.event_id),
   ("session_id", .str fact.session_id),
   ("event_kind", .str fact.event_kind),
   ("payload", .obj fact.payload),
   ("created_at", .str (host.isoformat fact.created_at)),
   ("session_seq", json_or_null json_u64 fact.session_seq),
   ("projection_epoch", json_or_null json_u64 fact.projection_epoch)]

def raw_cursor_payload (cursor : RawCursor) : JsonObject :=
  [("session_id", .str cursor.session_id),
   ("session_seq", json_u64 cursor.session_seq)]

def transition_commit_payload (host : PayloadHost) (result : TransitionResult) : JsonObject :=
  [("state_version", .obj (state_version_payload result.state_version)),
   ("facts", .arr (result.facts.map (fun fact => .obj (committed_fact_payload host fact)))),
   ("effect_plans", .arr (result.effect_plans.map effect_plan_payload)),
   ("raw_cursor", .obj (raw_cursor_payload result.raw_cursor))]

/-! ## Reading fields -/

section

variable (payload : JsonObject) (key context : String)

def required_mapping : Except StoreError JsonObject :=
  match JsonObject.get payload key with
  | .obj fields => .ok fields
  | _ => raise .TypeError (context ++ " must include object " ++ key)

def required_payload_str :
    Except StoreError String :=
  match JsonObject.get payload key with
  | .str text =>
    if text = "" then raise .TypeError (context ++ " must include non-empty string " ++ key)
    else .ok text
  | _ => raise .TypeError (context ++ " must include non-empty string " ++ key)

/-- `_required_payload_int(payload, key, context=...)`: a boolean is no integer. -/
def required_payload_int : Except StoreError Int :=
  match JsonObject.get payload key with
  | .int value => .ok value
  | _ => raise .TypeError (context ++ " must include integer " ++ key)

end

/-- `isinstance(value, list)`. -/
def require_list (value : Json) (message : String) : Except StoreError (List Json) :=
  match value with
  | .arr items => .ok items
  | _ => raise .TypeError message

/-- `isinstance(value, bool)`. -/
def require_bool (value : Json) (message : String) : Except StoreError Bool :=
  match value with
  | .bool flag => .ok flag
  | _ => raise .TypeError message

/-- `isinstance(item, Mapping)`. -/
def require_mapping (item : Json) (message : String) : Except StoreError JsonObject :=
  match item with
  | .obj fields => .ok fields
  | _ => raise .TypeError message

/-- `parse_u64(value, field_name=...)`. -/
def parse_u64 (text field_name : String) : Except StoreError Nat := do
  raise_if (isdigit text = false) .ValueError (field_name ++ " must be a decimal u64 string")
  raise_if (leading_zero text) .ValueError (field_name ++ " must be a decimal u64 string")
  return int_of text

/-- `_require_optional_sequence(value, field_name=...)`: the number the text stands for. -/
def require_optional_sequence (value : Json) (field_name : String) :
    Except StoreError (Option Nat) :=
  match value with
  | .null => .ok none
  | .str text =>
    if isdigit text ∧ 0 < int_of text then .ok (some (int_of text))
    else raise .ValueError (field_name ++ " must be a positive decimal string")
  | _ => raise .ValueError (field_name ++ " must be a positive decimal string")

def require_non_negative_int (field_name : String) (value : Int) : Except StoreError Nat :=
  if value < 0 then raise .ValueError (field_name ++ " must be non-negative") else .ok value.toNat

def optional_payload_str (payload : JsonObject) (key : String) :
    Except StoreError (Option String) :=
  match JsonObject.get payload key with
  | .null => .ok none
  | .str text => .ok (some text)
  | _ => raise .TypeError ("transition effect plan " ++ key ++ " must be a string or null")

/-! ## Decoding -/

/-- `CommitRef.__post_init__`'s checks of the bounds. -/
def CommitRef.check_bounds (ref : CommitRef) : Except StoreError Unit := do
  raise_if (ref.fact_seq_start.isNone ≠ ref.fact_seq_end.isNone) .ValueError
    "fact sequence bounds must both be set or both be absent"
  raise_if (∃ first ∈ ref.fact_seq_start, ∃ last ∈ ref.fact_seq_end, last < first) .ValueError
    "fact_seq_start must not exceed fact_seq_end"

/-- The decoder's `commit_ref`. -/
def commit_ref_from_payload (payload : JsonObject) : Except StoreError CommitRef := do
  let transition_id ← required_payload_str payload "transition_id" "transition commit_ref"
  let fact_seq_start ←
    require_optional_sequence (JsonObject.get payload "fact_seq_start") "fact_seq_start"
  let fact_seq_end ←
    require_optional_sequence (JsonObject.get payload "fact_seq_end") "fact_seq_end"
  let ref : CommitRef := { transition_id, fact_seq_start, fact_seq_end }
  ref.check_bounds
  return ref

/-- The decoder's `state_version`. -/
def state_version_from_payload (state_payload : JsonObject) (transition_id : String)
    (projection_epoch : Nat) : Except StoreError OperationStateVersion := do
  let commit_payload ← required_mapping state_payload "commit_ref" "transition state"
  let commit_ref ← commit_ref_from_payload commit_payload
  raise_if (commit_ref.transition_id ≠ transition_id) .ValueError
    "stored transition result has the wrong transition_id"
  let value ← required_mapping state_payload "value" "transition state"
  let run_id ← required_payload_str state_payload "run_id" "transition state"
  let revision ← required_payload_int state_payload "revision" "transition state"
  let epoch ← required_payload_int state_payload "projection_epoch" "transition state"
  let revision ← require_non_negative_int "revision" revision
  let epoch ← require_non_negative_int "projection_epoch" epoch
  raise_if (epoch ≠ projection_epoch) .ValueError
    "stored transition result has the wrong projection_epoch"
  return { run_id, revision, projection_epoch := epoch, commit_ref, value }

def fromisoformat (host : PayloadHost) (text : String) : Except StoreError Datetime :=
  match host.fromisoformat text with
  | some instant => .ok instant
  | none => raise .ValueError ("Invalid isoformat string: '" ++ text ++ "'")

/-- One of the decoder's facts. -/
def fact_from_payload (host : PayloadHost) (session_id : String) (item : Json) :
    Except StoreError EventRecord := do
  let raw_fact ← require_mapping item "transition result facts must contain objects"
  let payload ← required_mapping raw_fact "payload" "transition fact"
  let event_id ← required_payload_str raw_fact "event_id" "transition fact"
  let fact_session_id ← required_payload_str raw_fact "session_id" "transition fact"
  let event_kind ← required_payload_str raw_fact "event_kind" "transition fact"
  let created_at_text ← required_payload_str raw_fact "created_at" "transition fact"
  let created_at ← fromisoformat host created_at_text
  let session_seq_text ← required_payload_str raw_fact "session_seq" "transition fact"
  let projection_epoch_text ← required_payload_str raw_fact "projection_epoch" "transition fact"
  let session_seq ← parse_u64 session_seq_text "session_seq"
  let projection_epoch ← parse_u64 projection_epoch_text "projection_epoch"
  raise_if (fact_session_id ≠ session_id) .ValueError
    "stored transition fact belongs to another session"
  return { event_id, session_id := fact_session_id, event_kind, payload, created_at
           session_seq := some session_seq, projection_epoch := some projection_epoch }


def effect_plan_from_payload (item : Json) : Except StoreError EffectPlan := do
  let raw_plan ← require_mapping item "transition result effect_plans must contain objects"
  let payload ← required_mapping raw_plan "payload" "transition effect plan"
  let idempotency_key ← optional_payload_str raw_plan "idempotency_key"
  let requires_approval ← require_bool (raw_plan.get_or "requires_approval" (.bool false))
    "transition effect plan requires_approval must be a boolean"
  let approval_request_id ← optional_payload_str raw_plan "approval_request_id"
  let effect_id ← required_payload_str raw_plan "effect_id" "transition effect plan"
  let attempt_id ← required_payload_str raw_plan "attempt_id" "transition effect plan"
  let effect_kind ← required_payload_str raw_plan "effect_kind" "transition effect plan"
  let plan : EffectPlan :=
    { effect_id, attempt_id, effect_kind, payload, idempotency_key, requires_approval
      approval_request_id }
  plan.post_init
  return plan

/-- The decoder's `raw_cursor`. -/
def raw_cursor_from_payload (session_id : String) (payload : JsonObject) :
    Except StoreError RawCursor := do
  let cursor_session_id ← required_payload_str payload "session_id" "transition raw_cursor"
  let session_seq_text ← required_payload_str payload "session_seq" "transition raw_cursor"
  let session_seq ← parse_u64 session_seq_text "session_seq"
  raise_if (cursor_session_id ≠ session_id) .ValueError
    "stored transition cursor belongs to another session"
  return ⟨cursor_session_id, session_seq⟩

/-- The notice of a decoded fact: its epoch is the one it was stored with. -/
def stored_fact_notice (fact : EventRecord) : CommittedFactNotice where
  fact_id := fact.event_id
  fact_kind := fact.event_kind
  payload := fact.payload
  session_seq := fact.session_seq
  projection_epoch := fact.projection_epoch

def CommittedFactNotice.post_init (notice : CommittedFactNotice) : Except StoreError Unit := do
  require_non_empty "fact_id" notice.fact_id
  require_non_empty "fact_kind" notice.fact_kind
  raise_if (notice.session_seq = some 0) .ValueError
    "session_seq must be a positive decimal string"
  require_non_empty_if_set "event_record_id" notice.event_record_id

def TransitionReceipt.post_init (receipt : TransitionReceipt) : Except StoreError Unit := do
  require_non_empty "session_id" receipt.session_id
  require_non_empty "transition_id" receipt.transition_id
  require_non_empty "mutation_fingerprint" receipt.mutation_fingerprint
  raise_if (receipt.state_version.projection_epoch ≠ receipt.projection_epoch) .ValueError
    "state_version projection_epoch must match receipt"
  raise_if (receipt.state_version.commit_ref.transition_id ≠ receipt.transition_id) .ValueError
    "state_version transition_id must match receipt"
  raise_if (∃ fact ∈ receipt.facts, ∃ epoch ∈ fact.projection_epoch,
      epoch ≠ receipt.projection_epoch) .ValueError "fact projection_epoch must match receipt"
  raise_if (¬ (receipt.effect_plans.map (·.effect_id)).Nodup) .ValueError
    "effect_plans must contain unique effect identities"

structure DecodedTransition where
  state_version : OperationStateVersion
  facts : List EventRecord
  receipt : TransitionReceipt
  raw_cursor : RawCursor

def transition_commit_from_payload (host : PayloadHost) (session_id transition_id : String)
    (projection_epoch : Nat) (mutation_fingerprint : String) (payload : JsonObject) :
    Except StoreError DecodedTransition := do
  let state_payload ← required_mapping payload "state_version" "transition"
  let state_version ← state_version_from_payload state_payload transition_id projection_epoch
  let raw_facts ← require_list (JsonObject.get payload "facts")
    "transition result must include facts list"
  let facts ← raw_facts.mapM (fact_from_payload host session_id)
  let raw_plans ← require_list (get_or payload "effect_plans" (.arr []))
    "transition result effect_plans must be a list"
  let effect_plans ← raw_plans.mapM effect_plan_from_payload
  let raw_cursor_payload ← required_mapping payload "raw_cursor" "transition"
  let raw_cursor ← raw_cursor_from_payload session_id raw_cursor_payload
  let notices := facts.map stored_fact_notice
  check_each notices CommittedFactNotice.post_init
  let receipt : TransitionReceipt :=
    { session_id, projection_epoch, transition_id, mutation_fingerprint, state_version
      facts := notices, effect_plans }
  receipt.post_init
  return { state_version, facts, receipt, raw_cursor }

section

variable (commit : AuthoritativeCommit)

/-- `AuthoritativeCommit.__post_init__`, for a commit with an event. -/
def AuthoritativeCommit.check_event (event : EventRecord) :
    Except StoreError Unit := do
  raise_if (event.session_seq = none) .ValueError "committed event must include session_seq"
  raise_if (event.projection_epoch = none) .ValueError
    "committed event must include projection_epoch"
  raise_if (commit.raw_cursor.session_id ≠ event.session_id) .ValueError
    "raw cursor session_id must match the event"
  raise_if (some commit.raw_cursor.session_seq ≠ event.session_seq) .ValueError
    "raw cursor must land on the committed session_seq"
  raise_if (event.projection_epoch ≠ some commit.projection_epoch) .ValueError
    "committed event.projection_epoch must match commit.projection_epoch"
  raise_if (commit.state_version ≠ none ∨ commit.facts ≠ [] ∨ commit.transition_receipt ≠ none)
    .ValueError "legacy commit cannot include transition result fields"

def AuthoritativeCommit.check_fact (fact : EventRecord) :
    Except StoreError Unit := do
  raise_if (fact.session_id ≠ commit.raw_cursor.session_id) .ValueError
    "committed fact belongs to another session"
  raise_if (fact.session_seq = none ∨ fact.projection_epoch = none) .ValueError
    "committed facts must include store sequence and epoch"
  raise_if (fact.projection_epoch ≠ some commit.projection_epoch) .ValueError
    "committed fact projection_epoch must match commit"

/-- The bounds of a transition commit are those of its facts. -/
def AuthoritativeCommit.check_range (commit_ref : CommitRef) :
    Except StoreError Unit :=
  match commit.facts.head?, commit.facts.getLast? with
  | some first, some last => do
      raise_if (commit_ref.fact_seq_start ≠ first.session_seq) .ValueError
        "commit_ref start must match first committed fact"
      raise_if (commit_ref.fact_seq_end ≠ last.session_seq) .ValueError
        "commit_ref end must match last committed fact"
      raise_if (some commit.raw_cursor.session_seq ≠ last.session_seq) .ValueError
        "raw cursor must land on the last committed fact"
  | _, _ =>
    raise_if (commit_ref.fact_seq_start ≠ none ∨ commit_ref.fact_seq_end ≠ none) .ValueError
      "fact-free transition must have empty commit_ref bounds"

def AuthoritativeCommit.post_init : Except StoreError Unit := do
  require_non_empty "projection" commit.projection
  match commit.event with
  | some event => commit.check_event event
  | none =>
    match commit.state_version, commit.transition_receipt with
    | some state_version, some receipt => do
        raise_if (state_version.projection_epoch ≠ commit.projection_epoch) .ValueError
          "state version projection_epoch must match commit"
        raise_if (receipt.state_version ≠ state_version) .ValueError
          "transition receipt state version must match commit"
        raise_if (receipt.session_id ≠ commit.raw_cursor.session_id) .ValueError
          "transition receipt session_id must match raw cursor"
        raise_if (receipt.projection_epoch ≠ commit.projection_epoch) .ValueError
          "transition receipt projection_epoch must match commit"
        check_each commit.facts commit.check_fact
        commit.check_range state_version.commit_ref
    | _, _ => raise .ValueError "transition commit requires state version and receipt"

end

/-- The commit `_commit_transition` answers a stored transition with. -/
def stored_commit (fact_source : FactSource) (decoded : DecodedTransition) :
    AuthoritativeCommit where
  projection := fact_source.projection
  projection_epoch := fact_source.projection_epoch
  raw_cursor := decoded.raw_cursor
  idempotent := true
  state_version := some decoded.state_version
  facts := decoded.facts
  transition_receipt := some decoded.receipt

/-! ## Reading back what was written -/

section Reading

variable {fields : JsonObject} {key context field_name : String}

theorem required_mapping_canonical {value : JsonObject}
    (h : JsonObject.get fields key = .obj value) :
    required_mapping (JsonObject.canonical fields) key context
      = .ok (JsonObject.canonical value) := by
  rw [required_mapping, get_canonical, h, canonical_obj]

theorem required_payload_str_canonical {text : String} (h : JsonObject.get fields key = .str text)
    (htext : text ≠ "") :
    required_payload_str (JsonObject.canonical fields) key context = .ok text := by
  rw [required_payload_str, get_canonical, h]
  exact if_neg htext

theorem required_payload_int_canonical {value : Int} (h : JsonObject.get fields key = .int value) :
    required_payload_int (JsonObject.canonical fields) key context = .ok value := by
  rw [required_payload_int, get_canonical, h]
  rfl

theorem optional_payload_str_canonical {value : Option String}
    (h : JsonObject.get fields key = Json.of_str? value) :
    optional_payload_str (JsonObject.canonical fields) key = .ok value := by
  rw [optional_payload_str, get_canonical, h]
  cases value <;> rfl

theorem parse_u64_toString (n : Nat) : parse_u64 (toString n) field_name = .ok n := by
  rw [parse_u64, isdigit_toString, leading_zero_toString, int_of_toString]
  rfl

theorem require_optional_sequence_canonical {value : Option Nat}
    (h : JsonObject.get fields key = json_or_null json_u64 value) (hvalue : value ≠ some 0) :
    require_optional_sequence (JsonObject.get (JsonObject.canonical fields) key) field_name
      = .ok value := by
  rw [require_optional_sequence.eq_def, get_canonical, h]
  cases value with
  | none => rfl
  | some n =>
    have hn : 0 < n := Nat.pos_of_ne_zero (fun hzero => hvalue (by rw [hzero]))
    show (if isdigit (toString n) ∧ 0 < int_of (toString n) then _ else _) = _
    rw [int_of_toString, if_pos ⟨isdigit_toString n, hn⟩]

theorem require_non_negative_int_natCast (n : Nat) :
    require_non_negative_int field_name (n : Int) = .ok n := by
  rw [require_non_negative_int, if_neg (by omega), Int.toNat_natCast]

end Reading

/-! ## Records read back

A record that holds a payload is read back with the payload in canonical form. -/

def OperationStateVersion.canonical (version : OperationStateVersion) : OperationStateVersion :=
  { version with value := JsonObject.canonical version.value }

def EventRecord.canonical (event : EventRecord) : EventRecord :=
  { event with payload := JsonObject.canonical event.payload }

def EffectPlan.canonical (plan : EffectPlan) : EffectPlan :=
  { plan with payload := JsonObject.canonical plan.payload }

def CommittedFactNotice.canonical (notice : CommittedFactNotice) : CommittedFactNotice :=
  { notice with payload := JsonObject.canonical notice.payload }

def TransitionReceipt.canonical (receipt : TransitionReceipt) : TransitionReceipt :=
  { receipt with
    state_version := receipt.state_version.canonical
    facts := receipt.facts.map CommittedFactNotice.canonical
    effect_plans := receipt.effect_plans.map EffectPlan.canonical }

def CommitRef.Valid (ref : CommitRef) : Prop :=
  ref.transition_id ≠ "" ∧ ref.fact_seq_start ≠ some 0 ∧ ref.fact_seq_end ≠ some 0
    ∧ ref.check_bounds = .ok ()

theorem commit_ref_read {ref : CommitRef} (h : ref.Valid) :
    commit_ref_from_payload (JsonObject.canonical (commit_ref_payload ref)) = .ok ref := by
  obtain ⟨hid, hstart, hend, hbounds⟩ := h
  have hread_id : required_payload_str (JsonObject.canonical (commit_ref_payload ref))
      "transition_id" "transition commit_ref" = .ok ref.transition_id :=
    required_payload_str_canonical rfl hid
  have hread_start : require_optional_sequence
      (JsonObject.get (JsonObject.canonical (commit_ref_payload ref)) "fact_seq_start")
      "fact_seq_start" = .ok ref.fact_seq_start :=
    require_optional_sequence_canonical rfl hstart
  have hread_end : require_optional_sequence
      (JsonObject.get (JsonObject.canonical (commit_ref_payload ref)) "fact_seq_end")
      "fact_seq_end" = .ok ref.fact_seq_end :=
    require_optional_sequence_canonical rfl hend
  rw [commit_ref_from_payload, hread_id, hread_start, hread_end]
  simp only [ok_bind, hbounds]
  rfl

theorem state_version_read {version : OperationStateVersion} (hrun : version.run_id ≠ "")
    (href : version.commit_ref.Valid) :
    state_version_from_payload (JsonObject.canonical (state_version_payload version))
        version.commit_ref.transition_id version.projection_epoch
      = .ok version.canonical := by
  have hread_ref : required_mapping (JsonObject.canonical (state_version_payload version))
      "commit_ref" "transition state"
        = .ok (JsonObject.canonical (commit_ref_payload version.commit_ref)) :=
    required_mapping_canonical rfl
  have hread_value : required_mapping (JsonObject.canonical (state_version_payload version))
      "value" "transition state" = .ok (JsonObject.canonical version.value) :=
    required_mapping_canonical rfl
  have hread_run : required_payload_str (JsonObject.canonical (state_version_payload version))
      "run_id" "transition state" = .ok version.run_id :=
    required_payload_str_canonical rfl hrun
  have hread_revision : required_payload_int
      (JsonObject.canonical (state_version_payload version)) "revision" "transition state"
        = .ok (version.revision : Int) :=
    required_payload_int_canonical rfl
  have hread_epoch : required_payload_int
      (JsonObject.canonical (state_version_payload version)) "projection_epoch" "transition state"
        = .ok (version.projection_epoch : Int) :=
    required_payload_int_canonical rfl
  rw [state_version_from_payload, hread_ref]
  simp only [ok_bind, commit_ref_read href, hread_value, hread_run, hread_revision,
    hread_epoch, require_non_negative_int_natCast, raise_if, ne_eq, not_true, if_false]
  rfl

/-- A committed fact, as the store stamps it. -/
structure Stamped (session_id : String) (projection_epoch : Nat) (fact : EventRecord) : Prop where
  accepted : fact.post_init = .ok ()
  session : fact.session_id = session_id
  sequence : ∃ session_seq, fact.session_seq = some session_seq ∧ 0 < session_seq
  epoch : fact.projection_epoch = some projection_epoch

variable {projection_epoch : Nat} {fact : EventRecord}

theorem fact_read (host : PayloadHost) {session_id : String}
    (h : Stamped session_id projection_epoch fact) :
    fact_from_payload host session_id (.obj (JsonObject.canonical (committed_fact_payload host fact)))
      = .ok fact.canonical := by
  obtain ⟨haccepted, hsession, ⟨session_seq, hseq, -⟩, hepoch⟩ := h
  simp only [EventRecord.post_init, check_bind_eq_ok, require_non_empty_eq_ok] at haccepted
  obtain ⟨hevent, hsession_ne, hkind⟩ := haccepted
  have hread_payload : required_mapping (JsonObject.canonical (committed_fact_payload host fact))
      "payload" "transition fact" = .ok (JsonObject.canonical fact.payload) :=
    required_mapping_canonical rfl
  have hread (key text : String)
      (hget : JsonObject.get (committed_fact_payload host fact) key = .str text) (hne : text ≠ "") :
      required_payload_str (JsonObject.canonical (committed_fact_payload host fact)) key
        "transition fact" = .ok text :=
    required_payload_str_canonical hget hne
  have hread_event := hread "event_id" fact.event_id rfl hevent
  have hread_session := hread "session_id" fact.session_id rfl hsession_ne
  have hread_kind := hread "event_kind" fact.event_kind rfl hkind
  have hread_created := hread "created_at" (host.isoformat fact.created_at) rfl
    (host.isoformat_ne fact.created_at)
  have hread_seq := hread "session_seq" (toString session_seq) (by
    show json_or_null json_u64 fact.session_seq = _
    rw [hseq]
    rfl) (toString_ne_empty session_seq)
  have hread_epoch := hread "projection_epoch" (toString projection_epoch) (by
    show json_or_null json_u64 fact.projection_epoch = _
    rw [hepoch]
    rfl) (toString_ne_empty projection_epoch)
  have hcreated : fromisoformat host (host.isoformat fact.created_at) = .ok fact.created_at := by
    rw [fromisoformat, host.fromisoformat_isoformat]
  rw [fact_from_payload]
  simp only [require_mapping, ok_bind, hread_payload, hread_event, hread_session, hread_kind,
    hread_created, hcreated, hread_seq, hread_epoch, parse_u64_toString, raise_if, hsession, ne_eq,
    not_true, if_false]
  rw [EventRecord.canonical, ← hseq, ← hepoch, ← hsession]
  rfl

/-- The fields of `_effect_plan_payload(plan)`. -/
def effect_plan_members (plan : EffectPlan) : JsonObject :=
  [("effect_id", .str plan.effect_id),
   ("attempt_id", .str plan.attempt_id),
   ("effect_kind", .str plan.effect_kind),
   ("payload", .obj plan.payload),
   ("idempotency_key", Json.of_str? plan.idempotency_key),
   ("requires_approval", .bool plan.requires_approval),
   ("approval_request_id", Json.of_str? plan.approval_request_id)]

theorem effect_plan_read {plan : EffectPlan} (h : plan.post_init = .ok ()) :
    effect_plan_from_payload (effect_plan_payload plan).canonical = .ok plan.canonical := by
  have hpayload : (effect_plan_payload plan).canonical
      = .obj (JsonObject.canonical (effect_plan_members plan)) :=
    canonical_obj (effect_plan_members plan)
  have hcanonical : plan.canonical.post_init = .ok () := h
  simp only [EffectPlan.post_init, check_bind_eq_ok, require_non_empty_eq_ok] at h
  obtain ⟨heffect, hattempt, hkind, -⟩ := h
  have hread_payload : required_mapping (JsonObject.canonical (effect_plan_members plan)) "payload"
      "transition effect plan" = .ok (JsonObject.canonical plan.payload) :=
    required_mapping_canonical rfl
  have hread (key text : String) (hget : JsonObject.get (effect_plan_members plan) key = .str text)
      (hne : text ≠ "") :
      required_payload_str (JsonObject.canonical (effect_plan_members plan)) key
        "transition effect plan" = .ok text :=
    required_payload_str_canonical hget hne
  have hread_effect := hread "effect_id" plan.effect_id rfl heffect
  have hread_attempt := hread "attempt_id" plan.attempt_id rfl hattempt
  have hread_kind := hread "effect_kind" plan.effect_kind rfl hkind
  have hread_key : optional_payload_str (JsonObject.canonical (effect_plan_members plan))
      "idempotency_key" = .ok plan.idempotency_key :=
    optional_payload_str_canonical rfl
  have hread_request : optional_payload_str (JsonObject.canonical (effect_plan_members plan))
      "approval_request_id" = .ok plan.approval_request_id :=
    optional_payload_str_canonical rfl
  have hread_approval : get_or (JsonObject.canonical (effect_plan_members plan))
      "requires_approval" (.bool false) = .bool plan.requires_approval :=
    get_or_canonical (effect_plan_members plan) "requires_approval" (.bool false)
  rw [hpayload, effect_plan_from_payload]
  simp only [require_mapping, ok_bind, hread_payload, hread_key, hread_approval,
    require_bool, hread_request, hread_effect, hread_attempt, hread_kind]
  exact congrArg (· >>= fun _ => Except.ok plan.canonical) hcanonical

theorem raw_cursor_read {cursor : RawCursor} (h : cursor.session_id ≠ "") :
    raw_cursor_from_payload cursor.session_id (JsonObject.canonical (raw_cursor_payload cursor))
      = .ok cursor := by
  have hread_session : required_payload_str (JsonObject.canonical (raw_cursor_payload cursor))
      "session_id" "transition raw_cursor" = .ok cursor.session_id :=
    required_payload_str_canonical rfl h
  have hread_seq : required_payload_str (JsonObject.canonical (raw_cursor_payload cursor))
      "session_seq" "transition raw_cursor" = .ok (toString cursor.session_seq) :=
    required_payload_str_canonical rfl (toString_ne_empty cursor.session_seq)
  rw [raw_cursor_from_payload, hread_session, ok_bind, hread_seq, ok_bind,
    parse_u64_toString]
  simp only [ok_bind, raise_if, ne_eq, not_true, if_false]
  rfl

/-! ## The whole result -/

/-- A result as `_commit_transition` builds it. -/
structure Storable (session_id transition_id : String) (projection_epoch : Nat)
    (result : TransitionResult) : Prop where
  session : session_id ≠ ""
  run : result.state_version.run_id ≠ ""
  ref : result.state_version.commit_ref.Valid
  transition : result.state_version.commit_ref.transition_id = transition_id
  epoch : result.state_version.projection_epoch = projection_epoch
  facts : ∀ fact ∈ result.facts, Stamped session_id projection_epoch fact
  plans : ∀ plan ∈ result.effect_plans, plan.post_init = .ok ()
  plan_ids : (result.effect_plans.map (·.effect_id)).Nodup
  cursor : result.raw_cursor.session_id = session_id
  first : result.state_version.commit_ref.fact_seq_start
    = result.facts.head?.bind (·.session_seq)
  last : result.state_version.commit_ref.fact_seq_end
    = result.facts.getLast?.bind (·.session_seq)
  landed : ∀ fact ∈ result.facts.getLast?, fact.session_seq = some result.raw_cursor.session_seq

theorem Stamped.notice {session_id : String} (h : Stamped session_id projection_epoch fact) :
    stored_fact_notice fact.canonical = (committed_fact_notice projection_epoch fact).canonical := by
  rw [stored_fact_notice, CommittedFactNotice.canonical, committed_fact_notice, EventRecord.canonical,
    h.epoch]

theorem Stamped.notice_accepted {session_id : String}
    (h : Stamped session_id projection_epoch fact) :
    (stored_fact_notice fact.canonical).post_init = .ok () := by
  have haccepted := h.accepted
  simp only [EventRecord.post_init, check_bind_eq_ok, require_non_empty_eq_ok] at haccepted
  obtain ⟨hevent, -, hkind⟩ := haccepted
  obtain ⟨session_seq, hseq, hpos⟩ := h.sequence
  simp only [CommittedFactNotice.post_init, check_bind_eq_ok, require_non_empty_eq_ok,
    raise_if_eq_ok, require_non_empty_if_set_eq_ok]
  refine ⟨hevent, hkind, ?_, fun hnone => by cases hnone⟩
  show fact.session_seq ≠ some 0
  rw [hseq]
  intro hzero
  cases hzero
  exact Nat.lt_irrefl 0 hpos

variable {session_id transition_id : String} {row : TransitionReceiptRow}

theorem Storable.receipt_accepted
    (h : Storable session_id transition_id projection_epoch row.result)
    (hfingerprint : row.mutation_fingerprint ≠ "") :
    (transition_receipt session_id projection_epoch transition_id row).canonical.post_init
      = .ok () := by
  have hids : (transition_receipt session_id projection_epoch transition_id
      row).canonical.effect_plans.map (·.effect_id) = row.result.effect_plans.map (·.effect_id) := by
    show (row.result.effect_plans.map EffectPlan.canonical).map (·.effect_id) = _
    rw [map_map]
    rfl
  simp only [TransitionReceipt.post_init, check_bind_eq_ok, require_non_empty_eq_ok,
    raise_if_eq_ok, not_not, hids]
  refine ⟨h.session, h.transition ▸ h.ref.1, hfingerprint, h.epoch, h.transition, ?_, h.plan_ids⟩
  rintro ⟨notice, hmem, epoch, hepoch, hne⟩
  obtain ⟨_, hnotice, rfl⟩ := mem_map.mp hmem
  obtain ⟨fact, _, rfl⟩ := mem_map.mp hnotice
  cases hepoch
  exact hne rfl

/-- **A stored result is read back.** -/
theorem transition_commit_read (host : PayloadHost)
    (h : Storable session_id transition_id projection_epoch row.result)
    (hfingerprint : row.mutation_fingerprint ≠ "") :
    transition_commit_from_payload host session_id transition_id projection_epoch
        row.mutation_fingerprint
        (JsonObject.canonical (transition_commit_payload host row.result))
      = .ok
        { state_version := row.result.state_version.canonical
          facts := row.result.facts.map EventRecord.canonical
          receipt := (transition_receipt session_id projection_epoch transition_id row).canonical
          raw_cursor := row.result.raw_cursor } := by
  have hread_state : required_mapping
      (JsonObject.canonical (transition_commit_payload host row.result)) "state_version"
      "transition" = .ok (JsonObject.canonical (state_version_payload row.result.state_version)) :=
    required_mapping_canonical rfl
  have hread_version := state_version_read h.run h.ref
  rw [h.transition, h.epoch] at hread_version
  have hread_cursor_payload : required_mapping
      (JsonObject.canonical (transition_commit_payload host row.result)) "raw_cursor"
      "transition" = .ok (JsonObject.canonical (raw_cursor_payload row.result.raw_cursor)) :=
    required_mapping_canonical rfl
  have hread_cursor : raw_cursor_from_payload session_id
      (JsonObject.canonical (raw_cursor_payload row.result.raw_cursor))
        = .ok row.result.raw_cursor := by
    have hsession := h.cursor ▸ h.session
    rw [← h.cursor]
    exact raw_cursor_read hsession
  have hread_facts : (JsonObject.get
      (JsonObject.canonical (transition_commit_payload host row.result)) "facts")
        = .arr (row.result.facts.map (fun fact =>
            .obj (JsonObject.canonical (committed_fact_payload host fact)))) := by
    have hget : JsonObject.get (transition_commit_payload host row.result) "facts"
        = .arr (row.result.facts.map (fun fact => .obj (committed_fact_payload host fact))) := rfl
    rw [get_canonical, hget, Json.canonical_arr, map_map]
    rfl
  have hread_plans : (get_or
      (JsonObject.canonical (transition_commit_payload host row.result)) "effect_plans" (.arr []))
        = .arr (row.result.effect_plans.map (fun plan => (effect_plan_payload plan).canonical)) := by
    have hget := get_or_canonical (transition_commit_payload host row.result)
      "effect_plans" (.arr [])
    have hor : get_or (transition_commit_payload host row.result) "effect_plans"
        (.arr []) = .arr (row.result.effect_plans.map effect_plan_payload) := rfl
    rw [hor, Json.canonical_arr (row.result.effect_plans.map effect_plan_payload),
      map_map] at hget
    exact hget
  have hfacts : (row.result.facts.map (fun fact =>
      Json.obj (JsonObject.canonical (committed_fact_payload host fact)))).mapM
        (fact_from_payload host session_id) = .ok (row.result.facts.map EventRecord.canonical) := by
    rw [mapM_eq_ok, forall₂_map_left_iff, forall₂_map_right_iff,
      forall₂_same]
    intro fact hmem
    exact fact_read host (h.facts fact hmem)
  have hplans : (row.result.effect_plans.map (fun plan => (effect_plan_payload plan).canonical)).mapM
      effect_plan_from_payload = .ok (row.result.effect_plans.map EffectPlan.canonical) := by
    rw [mapM_eq_ok, forall₂_map_left_iff, forall₂_map_right_iff,
      forall₂_same]
    intro plan hmem
    exact effect_plan_read (h.plans plan hmem)
  have hnotices : check_each
      ((row.result.facts.map EventRecord.canonical).map stored_fact_notice)
      CommittedFactNotice.post_init = .ok () := by
    rw [check_each_eq_ok, forall_mem_map, forall_mem_map]
    intro fact hmem
    exact (h.facts fact hmem).notice_accepted
  have hreported : (row.result.facts.map EventRecord.canonical).map stored_fact_notice
      = (row.result.facts.map (committed_fact_notice projection_epoch)).map
          CommittedFactNotice.canonical := by
    rw [map_map, map_map]
    apply map_congr_left
    intro fact hmem
    exact (h.facts fact hmem).notice
  have hreceipt := h.receipt_accepted hfingerprint
  have hshape : (transition_receipt session_id projection_epoch transition_id row).canonical
      = { session_id, projection_epoch, transition_id
          mutation_fingerprint := row.mutation_fingerprint
          state_version := row.result.state_version.canonical
          facts := (row.result.facts.map (committed_fact_notice projection_epoch)).map
            CommittedFactNotice.canonical
          effect_plans := row.result.effect_plans.map EffectPlan.canonical } := rfl
  rw [transition_commit_from_payload]
  simp only [hread_state, ok_bind, hread_version, hread_facts, require_list, hfacts,
    hread_plans, hplans, hread_cursor_payload, hread_cursor, hnotices]
  rw [hreported, ← hshape, hreceipt]
  rfl

/-- **The commit rebuilt from a stored result passes its own validation.** -/
theorem Storable.rebuilt_accepted {fact_source : FactSource}
    (h : Storable session_id transition_id fact_source.projection_epoch row.result)
    (hprojection : fact_source.projection ≠ "") :
    (stored_commit fact_source
      { state_version := row.result.state_version.canonical
        facts := row.result.facts.map EventRecord.canonical
        receipt := (transition_receipt session_id fact_source.projection_epoch transition_id
          row).canonical
        raw_cursor := row.result.raw_cursor }).post_init = .ok () := by
  rw [AuthoritativeCommit.post_init, check_bind_eq_ok, require_non_empty_eq_ok]
  dsimp only [stored_commit]
  simp only [check_bind_eq_ok, raise_if_eq_ok, not_not, check_each_eq_ok]
  refine ⟨hprojection, raise_if_eq_ok.mpr (not_not.mpr h.epoch), rfl,
    raise_if_eq_ok.mpr (not_not.mpr h.cursor.symm), raise_if_eq_ok.mpr (not_not.mpr rfl), ?_, ?_⟩
  · rw [forall_mem_map]
    intro fact hmem
    have hstamped := h.facts fact hmem
    obtain ⟨session_seq, hseq, -⟩ := hstamped.sequence
    simp only [AuthoritativeCommit.check_fact, check_bind_eq_ok, raise_if_eq_ok, not_not,
      not_or]
    refine ⟨hstamped.session.trans h.cursor.symm, ⟨fun hnone => ?_, fun hnone => ?_⟩,
      hstamped.epoch⟩
    · rw [show fact.canonical.session_seq = fact.session_seq from rfl, hseq] at hnone
      cases hnone
    · rw [show fact.canonical.projection_epoch = fact.projection_epoch from rfl, hstamped.epoch]
        at hnone
      cases hnone
  · rw [AuthoritativeCommit.check_range.eq_def]
    simp only [List.head?_map, List.getLast?_map]
    have hfirst := h.first
    have hlast := h.last
    have hlanded := h.landed
    cases hhead : row.result.facts.head? with
    | none =>
      rw [List.head?_eq_none_iff] at hhead
      rw [hhead] at hfirst hlast
      simp only [hhead, List.getLast?_nil, Option.map_none, raise_if_eq_ok, not_or, not_not]
      exact ⟨hfirst, hlast⟩
    | some first =>
      cases hend : row.result.facts.getLast? with
      | none =>
        rw [List.getLast?_eq_none_iff] at hend
        rw [hend] at hhead
        cases hhead
      | some last =>
        rw [hhead, Option.bind_some] at hfirst
        rw [hend, Option.bind_some] at hlast
        have hland := hlanded last hend
        simp only [Option.map_some, check_bind_eq_ok, raise_if_eq_ok, not_not]
        exact ⟨hfirst, hlast, hland.symm⟩

/-! ## What a commit stores -/

theorem mem_stamp_facts {projection_epoch session_seq : Nat} {facts : List EventRecord}
    {stamped : EventRecord} (h : stamped ∈ stamp_facts projection_epoch session_seq facts) :
    ∃ fact ∈ facts, ∃ number, 0 < number ∧ stamped = { fact with
      session_seq := some number, projection_epoch := some projection_epoch } := by
  induction facts generalizing session_seq with
  | nil => cases h
  | cons fact rest ih =>
    rw [stamp_facts, mem_cons] at h
    rcases h with rfl | hrest
    · exact ⟨fact, mem_cons_self, session_seq + 1, Nat.succ_pos _, rfl⟩
    · obtain ⟨other, hmem, number, hpos, rfl⟩ := ih hrest
      exact ⟨other, mem_cons_of_mem _ hmem, number, hpos, rfl⟩

section Stored

variable {host : Host} {db db' : Tables}

theorem mem_facts_to_commit {session_id : String} {unit : AuthoritativeUnitOfWork}
    {state_cas : OperationStateCAS} {fact : EventRecord}
    (h : fact ∈ facts_to_commit db session_id unit state_cas) :
    ∃ original ∈ unit.facts, fact.event_id = original.event_id
      ∧ fact.session_id = original.session_id ∧ fact.event_kind = original.event_kind := by
  unfold facts_to_commit at h
  cases hbinding : child_binding_of_run db session_id state_cas.run_id with
  | none =>
    rw [hbinding] at h
    exact ⟨fact, h, rfl, rfl, rfl⟩
  | some binding =>
    rw [hbinding] at h
    obtain ⟨original, hmem, rfl⟩ := mem_map.mp h
    exact ⟨original, hmem, rfl, rfl, rfl⟩

variable {facts : List EventRecord}

theorem commit_ref_transition {transition_id : String} {session_seq : Nat} :
    (commit_ref transition_id session_seq facts).transition_id = transition_id := by
  unfold commit_ref
  split <;> rfl

theorem commit_ref_valid {transition_id : String} {session_seq : Nat} (hid : transition_id ≠ "") :
    (commit_ref transition_id session_seq facts).Valid := by
  refine ⟨commit_ref_transition ▸ hid, ?_⟩
  unfold commit_ref
  split
  · exact ⟨by simp, by simp, rfl⟩
  · next hfacts =>
    have hlength : 0 < facts.length := length_pos_iff.mpr hfacts
    refine ⟨by simp, fun hzero => ?_, ?_⟩
    · have hend := Option.some.inj hzero
      omega
    · simp only [CommitRef.check_bounds, check_bind_eq_ok, raise_if_eq_ok]
      refine ⟨by simp, ?_⟩
      rintro ⟨first, hfirst, last, hlast, hlt⟩
      cases hfirst
      cases hlast
      omega

theorem last_stamped {projection_epoch session_seq : Nat} {last : EventRecord}
    (h : last ∈ (stamp_facts projection_epoch session_seq facts).getLast?) :
    last.session_seq = some (session_seq + facts.length) := by
  have hrange := (commit_ref_range "" projection_epoch session_seq facts).2
  rw [Option.mem_def] at h
  rw [h, Option.bind_some] at hrange
  rw [← hrange]
  cases facts with
  | nil => cases h
  | cons fact rest => rfl

/-- **What a fresh commit stores is storable.** -/
theorem FreshCommit.storable {authority : OwnerAuthority} {unit : UnitOfWork}
    {state_cas : OperationStateCAS} {transition_id : String} {state_value : JsonObject}
    {receipt : TransitionReceiptRow} {plan : CommitPlan} {commit : AuthoritativeCommit}
    (h : FreshCommit db authority unit.val state_cas transition_id state_value receipt plan db'
      commit) (hsession : authority.session_id ≠ "")
    (htyped : unit.val.transition_id = some transition_id)
    (hcas : unit.val.state_cas = some state_cas) :
    Storable authority.session_id transition_id state_cas.projection_epoch receipt.result := by
  obtain ⟨hid, ⟨cas, hcas', hrun⟩, -, -⟩ :=
    transition_complete unit.property htyped
  rw [hcas] at hcas'
  cases hcas'
  have hchecks := unit.property
  simp only [AuthoritativeUnitOfWork.post_init, check_bind_eq_ok,
    check_facts_and_dispositions,
    check_effect_plans, check_each_eq_ok, raise_if_eq_ok,
    not_not] at hchecks
  obtain ⟨-, -, ⟨hfacts, -, -⟩, -, ⟨hplans, hplan_ids, -⟩, -⟩ := hchecks
  have hrange := commit_ref_range transition_id
    (db.fact_source authority.session_id).projection_epoch
    (db.fact_source authority.session_id).session_seq plan.facts_to_commit
  rw [h.result]
  exact {
    session := hsession
    run := hrun
    ref := commit_ref_valid hid
    transition := commit_ref_transition
    epoch := rfl
    facts := by
      intro stamped hmem
      obtain ⟨fact, hfact, number, hpos, rfl⟩ := mem_stamp_facts hmem
      rw [h.facts] at hfact
      obtain ⟨original, horiginal, hevent, hsession_id, hkind⟩ := mem_facts_to_commit hfact
      have haccepted := hfacts original horiginal
      simp only [EventRecord.post_init, check_bind_eq_ok, require_non_empty_eq_ok]
        at haccepted
      refine ⟨?_, hsession_id.trans (h.fact_sessions original horiginal), ⟨number, rfl, hpos⟩,
        congrArg some h.epoch.symm⟩
      simp only [EventRecord.post_init, check_bind_eq_ok, require_non_empty_eq_ok, hevent,
        hsession_id, hkind]
      exact haccepted
    plans := hplans
    plan_ids := hplan_ids
    cursor := rfl
    first := hrange.1
    last := hrange.2
    landed := fun fact hlast => last_stamped hlast }

/-- **Stored transition results decode to what was committed.** Whatever a fresh typed commit
stores under its receipt, decoding the JSON text of it gives the committed state version, facts,
receipt -- with the key, the approval flag and the request id of every plan -- and cursor, each
payload the same dictionary with its keys in order; and the commit rebuilt from them passes its own
validation. A cursor with an empty session id is one the commit itself refuses to build. -/
theorem stored_transition_decodes (host : PayloadHost) {db db' : Tables} {clock : Datetime}
    {authority : OwnerAuthority} {unit : UnitOfWork} {transition_id : String}
    {stored : Option JsonObject} {new_sessions_enabled : Bool} {commit : AuthoritativeCommit}
    (htyped : unit.val.transition_id = some transition_id)
    (hsession : authority.session_id ≠ "")
    (hcommit : commit_authoritative_uow host.toHost db clock authority unit stored
      new_sessions_enabled = .ok (db', commit)) (hfresh : commit.idempotent = false) :
    ∃ state_cas row, unit.val.state_cas = some state_cas
      ∧ db'.session_transition_receipts.row
          (authority.session_id, state_cas.projection_epoch, transition_id) = some row
      ∧ row.result.effect_plans = unit.val.effect_plans
      ∧ ∃ state_version receipt decoded,
          commit.state_version = some state_version
          ∧ commit.transition_receipt = some receipt
          ∧ receipt.effect_plans = unit.val.effect_plans
          ∧ transition_commit_from_payload host authority.session_id transition_id
              state_cas.projection_epoch row.mutation_fingerprint
              (JsonObject.canonical (transition_commit_payload host row.result)) = .ok decoded
          ∧ decoded.state_version = state_version.canonical
          ∧ decoded.facts = commit.facts.map EventRecord.canonical
          ∧ decoded.receipt = receipt.canonical
          ∧ decoded.raw_cursor = commit.raw_cursor
          ∧ ∀ fact_source : FactSource, fact_source.projection ≠ "" →
              fact_source.projection_epoch = state_cas.projection_epoch →
              (stored_commit fact_source decoded).post_init = .ok () := by
  obtain ⟨state_cas, state_value, hcas, -, -, hcases⟩ := typed_commit_cases htyped hcommit
  rcases hcases with hreplayed | ⟨plan, row, hfingerprint, hcommitted⟩
  · obtain ⟨found_id, found, -, rfl⟩ := hreplayed.receipt
    cases hfresh
  · have hstorable := hcommitted.storable hsession htyped hcas
    have hdigest : row.mutation_fingerprint ≠ "" := by
      rw [hfingerprint]
      exact host.sha256_ne _
    have hplans : row.result.effect_plans = unit.val.effect_plans := by rw [hcommitted.result]; rfl
    have hread := transition_commit_read host hstorable hdigest
    refine ⟨state_cas, row, hcas, ?_, hplans, row.result.state_version,
      transition_receipt authority.session_id state_cas.projection_epoch transition_id row, _, ?_,
      ?_, hplans, hread, rfl, ?_, rfl, ?_, ?_⟩
    · rw [hcommitted.receipts_eq, Table.row_put_self]
    · rw [hcommitted.commit_eq]
      rfl
    · rw [hcommitted.commit_eq, fresh_commit, hstorable.epoch]
    · rw [hcommitted.commit_eq]
      rfl
    · rw [hcommitted.commit_eq]
      rfl
    · intro fact_source hprojection hepoch
      rw [← hepoch] at hstorable ⊢
      exact hstorable.rebuilt_accepted hprojection

end Stored

/-! ## A stored result, worked out -/

def sample_payload_host : PayloadHost where
  toHost := sample_host
  fromisoformat := fun text => if isdigit text then some (int_of text) else none
  sha256_ne := fun _ => (by decide : "digest" ≠ "")
  isoformat_ne := toString_ne_empty
  fromisoformat_isoformat := fun instant => by
    show (if isdigit (toString instant) then some (int_of (toString instant)) else none) = _
    rw [isdigit_toString, if_pos rfl, int_of_toString]

def sample_owned : Tables := play sample_host Tables.empty [.owner_changed "s" ⟨"worker", 1000, 1⟩]

def sample_prepared : Except StoreError (Tables × AuthoritativeCommit) :=
  commit_authoritative_uow sample_host sample_owned 1 sample_owner sample_prepare none false

/-- It is read back, and the commit rebuilt from it is a valid one. -/
theorem sample_transition_decodes :
    ∃ (row : TransitionReceiptRow) (decoded : DecodedTransition),
      transition_commit_from_payload sample_payload_host "s" "t1" 0 row.mutation_fingerprint
          (JsonObject.canonical (transition_commit_payload sample_payload_host row.result))
        = .ok decoded
      ∧ (stored_commit ⟨1, 1, "canonical", 0, 0⟩ decoded).post_init = .ok () := by
  have hfresh : (sample_prepared.toOption.map (fun answer => answer.2.idempotent)) = some false := by
    decide +kernel
  cases hcommit : sample_prepared with
  | error error =>
    rw [hcommit] at hfresh
    cases hfresh
  | ok answer =>
    rw [hcommit] at hfresh
    have hcommitted : commit_authoritative_uow sample_payload_host.toHost sample_owned 1
        sample_owner sample_prepare none false = .ok (answer.1, answer.2) := hcommit
    have htyped : sample_prepare.val.transition_id = some "t1" := rfl
    obtain ⟨state_cas, row, hcas, -, -, _, _, decoded, -, -, -, hread, -, -, -, -, hrebuilt⟩ :=
      stored_transition_decodes sample_payload_host htyped (by decide) hcommitted
        (Option.some.inj hfresh)
    cases hcas
    exact ⟨row, decoded, hread, hrebuilt ⟨1, 1, "canonical", 0, 0⟩ (by decide) rfl⟩

end CodingAgentLoop
