/-
Reviews of memory candidates and the file they are kept in (`topics/memory.py`).

A decision is made in memory and then the file is written again. When the write fails the call
raises, but the decision stays in memory, and a repeated call finds it there and writes nothing. So
the file has what the calls report exactly when no write fails and no candidate is added while
candidate writes are off: `reviews_kept_iff`.
-/
import CodingAgentLoop.Topics
import CodingAgentLoop.Lib.Stateful
import Mathlib.Data.List.Dedup

namespace CodingAgentLoop.MemoryReview

open Lib List Result Table

/-! ## Checks of texts -/

/-- `str.casefold` and `str.isspace`. -/
structure TextHost where
  casefold : String → String
  is_space : Char → Bool

def ALLOWED_KINDS : List String :=
  ["procedure", "decision", "incident", "fact", "command_memory", "project_convention"]

def FORBIDDEN_TEXT_MARKERS : List String :=
  ["-----begin ", "command:", "command=", "command_output", "content:", "content=", "env:", "env=",
    "message:", "message=", "password=", "password:", "private key", "prompt:", "prompt=",
    "raw log", "raw_log", "result:", "result=", "secret:", "secret=", "stderr:", "stderr=",
    "stdout:", "stdout=", "text:", "text=", "token:", "token="]

section Checks

variable (host : TextHost)

def require_recall_safe_text (field_name value : String) : Except StoreError Unit := do
  raise_if (value.toList.all host.is_space) .ValueError
    (field_name ++ " must be a non-empty string")
  raise_if (FORBIDDEN_TEXT_MARKERS.any (has_part (host.casefold value))) .ValueError
    (field_name ++ " contains forbidden raw content marker")

def require_safe_scope (value : String) : Except StoreError Unit := do
  require_recall_safe_text host "scope" value
  raise_if (value.toList.any host.is_space) .ValueError
    "scope-like values must not contain whitespace"

/-- The loop over `tags`, from `index` on. -/
def require_tags (index : Nat) : List String → Except StoreError Unit
  | [] => .ok ()
  | tag :: tags => do
    let field_name := "tags[" ++ toString index ++ "]"
    require_recall_safe_text host field_name tag
    raise_if (tag.toList.any host.is_space) .ValueError
      (field_name ++ " must not contain whitespace")
    require_tags (index + 1) tags

def require_json_list (field_name : String) (index : Nat) : List Json → Except StoreError Unit
  | [] => .ok ()
  | value :: values => do
    let item_name := field_name ++ "[" ++ toString index ++ "]"
    match value with
    | .str text => require_recall_safe_text host item_name text
    | .obj fields => check_each fields fun field =>
        match field.2 with
        | .str text => require_recall_safe_text host (item_name ++ "." ++ field.1) text
        | _ => .ok ()
    | _ => .ok ()
    require_json_list field_name (index + 1) values

section

variable (provenance : JsonObject)

/-- One of the names of `_require_provenance` that may be left out. -/
def require_optional_scope (key : String) : Except StoreError Unit :=
  match provenance.get key with
  | .null => .ok ()
  | .str value => do
    raise_if (value = "") .ValueError
      ("memory candidate provenance " ++ key ++ " must be a non-empty string")
    require_safe_scope host value
  | _ => raise .ValueError
      ("memory candidate provenance " ++ key ++ " must be a non-empty string")

def require_topic_id : Except StoreError Unit :=
  match provenance.get "topic_id" with
  | .str topic_id => do
    raise_if (topic_id = "") .ValueError "memory candidate provenance requires topic_id"
    require_safe_scope host topic_id
  | _ => raise .ValueError "memory candidate provenance requires topic_id"

def has_source_ranges : Bool :=
  match provenance.get "source_entry_ranges" with
  | .arr (_ :: _) => true
  | _ => false

def require_provenance : Except StoreError Unit := do
  require_topic_id host provenance
  check_each ["session_id", "tape_id", "profile", "profile_id", "domain_profile"]
    (require_optional_scope host provenance)
  raise_if (has_source_ranges provenance = false) .ValueError
    "memory candidate provenance requires source_entry_ranges"
  check_each provenance fun field =>
    match field.2 with
    | .str value => require_recall_safe_text host ("provenance." ++ field.1) value
    | .arr values => require_json_list host ("provenance." ++ field.1) 0 values
    | _ => .ok ()

end

end Checks

/-! ## Candidates -/

/-- `TopicDerivedMemoryCandidate`, whose own `status` is always `candidate`. -/
structure TopicDerivedMemoryCandidate where
  kind : String
  title : String
  summary : String
  scope : String
  tags : List String
  confidence : ℚ
  provenance : JsonObject
  candidate_id : String

/-- `tuple(sorted(set(tags)))`. -/
def sorted_tags (tags : List String) : List String :=
  tags.dedup.insertionSort fun tag other => tag ≤ other

/-- `item if isinstance(item, str) and item else None`. -/
def optional_str (value : JsonObject) (key : String) : Option String :=
  match value.get key with
  | .str item => if item = "" then none else some item
  | _ => none

/-- `str | tuple[str, str]`: the session of a record, if it has one, and the candidate's id. -/
abbrev ReviewRecordKey := Option String × String

namespace TopicDerivedMemoryCandidate

def session_id (candidate : TopicDerivedMemoryCandidate) : Option String :=
  optional_str candidate.provenance "session_id"

def review_record_key (candidate : TopicDerivedMemoryCandidate) : ReviewRecordKey :=
  (candidate.session_id, candidate.candidate_id)

variable (host : TextHost)

/-- `__post_init__` of a candidate that has an id. -/
def post_init (candidate : TopicDerivedMemoryCandidate) :
    Except StoreError TopicDerivedMemoryCandidate := do
  raise_if (candidate.kind ∉ ALLOWED_KINDS) .ValueError
    ("memory candidate kind is not supported: " ++ candidate.kind)
  require_recall_safe_text host "title" candidate.title
  require_recall_safe_text host "summary" candidate.summary
  require_safe_scope host candidate.scope
  require_tags host 0 candidate.tags
  raise_if (¬ (0 ≤ candidate.confidence ∧ candidate.confidence ≤ 1)) .ValueError
    "confidence must be between 0 and 1"
  require_provenance host candidate.provenance
  require_safe_scope host candidate.candidate_id
  return { candidate with tags := sorted_tags candidate.tags }

/-- A candidate as it is after `__post_init__`. -/
def Valid (candidate : TopicDerivedMemoryCandidate) : Prop := candidate.post_init host = .ok candidate

end TopicDerivedMemoryCandidate

inductive ReviewStatus where
  | candidate
  | accepted
  | rejected
  | archived
  deriving DecidableEq

def ReviewStatus.value : ReviewStatus → String
  | .candidate => "candidate"
  | .accepted => "accepted"
  | .rejected => "rejected"
  | .archived => "archived"

def ReviewStatus.read (text : String) : Option ReviewStatus :=
  [ReviewStatus.candidate, .accepted, .rejected, .archived].find? fun status => status.value = text

/-- `if self.review_reason is not None: require_recall_safe_text(...)`. -/
def require_reason (host : TextHost) : Option String → Except StoreError Unit
  | none => .ok ()
  | some reason => require_recall_safe_text host "review_reason" reason

/-- `ReviewedMemoryRecord`: what its constructor has accepted. -/
structure ReviewedMemoryRecord (host : TextHost) where
  candidate : TopicDerivedMemoryCandidate
  status : ReviewStatus
  review_reason : Option String
  valid : candidate.Valid host
  safe_reason : require_reason host review_reason = .ok ()

namespace ReviewedMemoryRecord

variable {host : TextHost}

def key (record : ReviewedMemoryRecord host) : ReviewRecordKey := record.candidate.review_record_key

def to_dict (record : ReviewedMemoryRecord host) : JsonObject :=
  [("candidate_id", .str record.candidate.candidate_id),
    ("kind", .str record.candidate.kind),
    ("title", .str record.candidate.title),
    ("summary", .str record.candidate.summary),
    ("scope", .str record.candidate.scope),
    ("tags", .arr (record.candidate.tags.map .str)),
    ("confidence", .float record.candidate.confidence),
    ("status", .str record.status.value),
    ("reference_mode", .str "reference_only"),
    ("provenance", .obj record.candidate.provenance)]
    ++ record.review_reason.toList.map fun reason => ("review_reason", .str reason)

end ReviewedMemoryRecord

/-! ## Reading records back -/

section

variable (payload : JsonObject)

def required_str (key : String) : Except StoreError String :=
  match payload.get key with
  | .str value =>
    if value = "" then raise .ValueError ("memory review record requires string " ++ key)
    else .ok value
  | _ => raise .ValueError ("memory review record requires string " ++ key)

def required_string_tuple (key : String) : Except StoreError (List String) :=
  match payload.get key with
  | .arr items =>
    if items.all (fun item => item.str?.isSome) then .ok (items.filterMap Json.str?)
    else raise .ValueError ("memory review record requires string list " ++ key)
  | _ => raise .ValueError ("memory review record requires string list " ++ key)

def required_confidence (key : String) : Except StoreError ℚ :=
  match payload.get key with
  | .int value => .ok value
  | .float value => .ok value
  | _ => raise .ValueError ("memory review record requires numeric " ++ key)

def required_json_object (key : String) : Except StoreError JsonObject :=
  match payload.get key with
  | .obj fields => .ok fields
  | _ => raise .ValueError ("memory review record requires object " ++ key)

def optional_reason : Except StoreError (Option String) :=
  match payload.get "review_reason" with
  | .null => .ok none
  | .str reason => .ok (some reason)
  | _ => raise .ValueError "review_reason must be a string"

/-- The candidate of a record, before its `__post_init__`. -/
def candidate_fields : Except StoreError TopicDerivedMemoryCandidate := do
  return {
    kind := ← required_str payload "kind"
    title := ← required_str payload "title"
    summary := ← required_str payload "summary"
    scope := ← required_str payload "scope"
    tags := ← required_string_tuple payload "tags"
    confidence := ← required_confidence payload "confidence"
    provenance := ← required_json_object payload "provenance"
    candidate_id := ← required_str payload "candidate_id" }

def require_candidate_status : Except StoreError Unit :=
  raise_if (payload.get "candidate_status" ≠ .null
      ∧ payload.get "candidate_status" ≠ .str "candidate") .ValueError
    "reviewed memory candidate_status must be candidate"

end

def read_status (text : String) : Except StoreError ReviewStatus :=
  match ReviewStatus.read text with
  | some status => .ok status
  | none => raise .ValueError ("memory review status is not supported: " ++ text)

theorem mem_sorted_tags {tags : List String} {tag : String} : tag ∈ sorted_tags tags ↔ tag ∈ tags := by
  rw [sorted_tags, mem_insertionSort, mem_dedup]

theorem sorted_tags_sorted_tags (tags : List String) :
    sorted_tags (sorted_tags tags) = sorted_tags tags := by
  have hsorted : (sorted_tags tags).Pairwise fun tag other => tag ≤ other :=
    pairwise_insertionSort _ _
  have hnodup : (sorted_tags tags).Nodup :=
    (perm_insertionSort _ _).nodup_iff.mpr (nodup_dedup tags)
  rw [sorted_tags, hnodup.dedup]
  exact hsorted.insertionSort_eq

section Reading

variable {host : TextHost}

theorem require_tags_eq_ok {tags : List String} : ∀ {index : Nat},
    require_tags host index tags = .ok () ↔ ∀ tag ∈ tags,
      ¬ tag.toList.all host.is_space = true
        ∧ ¬ FORBIDDEN_TEXT_MARKERS.any (has_part (host.casefold tag)) = true
        ∧ ¬ tag.toList.any host.is_space = true := by
  induction tags with
  | nil =>
    intro index
    simp [require_tags]
  | cons tag tags ih =>
    intro index
    rw [require_tags]
    simp only [require_recall_safe_text, check_bind_eq_ok, raise_if_eq_ok, ih,
      forall_mem_cons, and_assoc]

theorem TopicDerivedMemoryCandidate.valid_of_post_init {fields candidate : TopicDerivedMemoryCandidate}
    (h : fields.post_init host = .ok candidate) : candidate.Valid host := by
  unfold TopicDerivedMemoryCandidate.post_init at h
  simp only [check_bind_eq_ok, raise_if_eq_ok, pure_eq_ok] at h
  obtain ⟨hkind, htitle, hsummary, hscope, htags, hconfidence, hprovenance, hid, rfl⟩ := h
  unfold TopicDerivedMemoryCandidate.Valid TopicDerivedMemoryCandidate.post_init
  simp only [check_bind_eq_ok, raise_if_eq_ok, pure_eq_ok]
  refine ⟨hkind, htitle, hsummary, hscope, ?_, hconfidence, hprovenance, hid, ?_⟩
  · rw [require_tags_eq_ok] at htags ⊢
    intro tag htag
    exact htags tag (mem_sorted_tags.mp htag)
  · rw [sorted_tags_sorted_tags]

/-- The last line of `_reviewed_memory_record_from_dict`: both constructors. -/
def constructed (host : TextHost) (fields : TopicDerivedMemoryCandidate) (status : ReviewStatus)
    (review_reason : Option String) : Except StoreError (ReviewedMemoryRecord host) :=
  match hcandidate : fields.post_init host with
  | .error error => .error error
  | .ok candidate =>
    match hreason : require_reason host review_reason with
    | .error error => .error error
    | .ok () => .ok {
        candidate, status, review_reason
        valid := TopicDerivedMemoryCandidate.valid_of_post_init hcandidate
        safe_reason := hreason }

/-- `_reviewed_memory_record_from_dict(payload)`. -/
def record_from_dict (host : TextHost) (payload : JsonObject) :
    Except StoreError (ReviewedMemoryRecord host) := do
  let status ← required_str payload "status"
  require_candidate_status payload
  let fields ← candidate_fields payload
  let candidate ← fields.post_init host
  let review_reason ← optional_reason payload
  let status ← read_status status
  constructed host candidate status review_reason

theorem constructed_record (record : ReviewedMemoryRecord host) :
    constructed host record.candidate record.status record.review_reason = .ok record := by
  unfold constructed
  split
  · next error h => rw [record.valid] at h; cases h
  · next candidate h =>
    have hcandidate : candidate = record.candidate := by
      rw [record.valid] at h
      exact (Except.ok.inj h).symm
    subst hcandidate
    split
    · next error h => rw [record.safe_reason] at h; cases h
    · rfl

theorem read_status_value (status : ReviewStatus) : read_status status.value = .ok status := by
  cases status <;> rfl

theorem ne_empty_of_safe {field_name value : String}
    (h : require_recall_safe_text host field_name value = .ok ()) : value ≠ "" := by
  rintro rfl
  unfold require_recall_safe_text at h
  rw [check_bind_eq_ok, raise_if_eq_ok] at h
  exact h.1 rfl

theorem safe_of_scope {value : String} (h : require_safe_scope host value = .ok ()) :
    require_recall_safe_text host "scope" value = .ok () :=
  (check_bind_eq_ok.mp h).1

theorem required_str_of_ne {payload : JsonObject} {key value : String}
    (hget : payload.get key = .str value) (hvalue : value ≠ "") :
    required_str payload key = .ok value := by
  unfold required_str
  rw [hget]
  exact if_neg hvalue

theorem required_string_tuple_map {payload : JsonObject} {key : String} {items : List String}
    (hget : payload.get key = .arr (items.map .str)) :
    required_string_tuple payload key = .ok items := by
  unfold required_string_tuple
  rw [hget]
  have hall : ((items.map Json.str).all fun item => item.str?.isSome) = true := by simp
  have hitems : (items.map Json.str).filterMap Json.str? = items := by
    rw [filterMap_map]
    exact filterMap_some
  simp only [hall, if_true, hitems]

/-- **A record is read back as it was written.** -/
theorem record_from_dict_to_dict (record : ReviewedMemoryRecord host) :
    record_from_dict host record.to_dict = .ok record := by
  have hvalid := record.valid
  unfold TopicDerivedMemoryCandidate.Valid TopicDerivedMemoryCandidate.post_init at hvalid
  simp only [check_bind_eq_ok, raise_if_eq_ok, pure_eq_ok] at hvalid
  obtain ⟨hkind, htitle, hsummary, hscope, -, -, -, hid, -⟩ := hvalid
  have hkind' : record.candidate.kind ≠ "" := by
    intro h
    rw [h] at hkind
    exact hkind (by decide)
  have hfields : candidate_fields record.to_dict = .ok record.candidate := by
    unfold candidate_fields
    rw [required_str_of_ne rfl hkind', ok_bind,
      required_str_of_ne rfl (ne_empty_of_safe htitle), ok_bind,
      required_str_of_ne rfl (ne_empty_of_safe hsummary), ok_bind,
      required_str_of_ne rfl (ne_empty_of_safe (safe_of_scope hscope)), ok_bind,
      required_string_tuple_map rfl, ok_bind]
    have hconfidence : required_confidence record.to_dict "confidence"
        = .ok record.candidate.confidence := rfl
    have hprovenance : required_json_object record.to_dict "provenance"
        = .ok record.candidate.provenance := rfl
    rw [hconfidence, ok_bind, hprovenance, ok_bind,
      required_str_of_ne rfl (ne_empty_of_safe (safe_of_scope hid)), ok_bind]
    rfl
  have hstatus : require_candidate_status record.to_dict = .ok () := by
    unfold require_candidate_status
    rw [raise_if_eq_ok]
    intro hnot
    apply hnot.1
    unfold ReviewedMemoryRecord.to_dict
    cases record.review_reason <;> rfl
  have hreason : optional_reason record.to_dict = .ok record.review_reason := by
    unfold optional_reason ReviewedMemoryRecord.to_dict
    cases record.review_reason <;> rfl
  have hvalue : record.status.value ≠ "" := by
    cases record.status <;> decide
  unfold record_from_dict
  rw [required_str_of_ne rfl hvalue, ok_bind, hstatus, ok_bind, hfields,
    ok_bind, record.valid, ok_bind, hreason, ok_bind, read_status_value,
    ok_bind, constructed_record]

end Reading

/-! ## The store -/

/-- `ReviewRecordKey`s in the order of `_review_record_sort_key`. -/
def sort_key : ReviewRecordKey → List String
  | (none, candidate_id) => ["legacy", candidate_id]
  | (some session_id, candidate_id) => ["session", session_id, candidate_id]

def key_le (one other : ReviewRecordKey) : Bool :=
  @decide _ (@List.decidableLE String instDecidableEqString String.instLT String.decidableLT
    (sort_key one) (sort_key other))

/-- A line of the file: `value` holds the document on it, and a `broken` one has none. -/
inductive ReviewLine where
  | blank
  | broken
  | value (payload : Json)

/-- `MemoryReviewStore`, with the file at its path. -/
structure MemoryReviewStore (host : TextHost) where
  candidate_writes_enabled : Bool
  records : Table ReviewRecordKey (ReviewedMemoryRecord host)
  file : Option (List ReviewLine)

abbrev ReviewAction (host : TextHost) := Action (MemoryReviewStore host) StoreError

section Store

variable {host : TextHost}

/-- `_review_record_key(candidate)`, which checks both parts of a key. -/
def checked_key (host : TextHost) (candidate : TopicDerivedMemoryCandidate) :
    Except StoreError ReviewRecordKey :=
  match candidate.session_id with
  | none => .ok (none, candidate.candidate_id)
  | some session_id => do
    require_safe_scope host session_id
    require_safe_scope host candidate.candidate_id
    return (some session_id, candidate.candidate_id)

/-- The loop over the lines of the file, with the number of the next one. -/
def load_lines (line_number : Nat) (records : Table ReviewRecordKey (ReviewedMemoryRecord host)) :
    List ReviewLine → Except StoreError (Table ReviewRecordKey (ReviewedMemoryRecord host))
  | [] => .ok records
  | .blank :: lines => load_lines (line_number + 1) records lines
  | .broken :: _ => raise .ValueError
      ("invalid memory review JSONL at line " ++ toString line_number)
  | .value (.obj payload) :: lines => do
    let record ← record_from_dict host payload
    let key ← checked_key host record.candidate
    load_lines (line_number + 1) (records.put key record) lines
  | .value _ :: _ => raise .ValueError
      ("memory review record at line " ++ toString line_number ++ " must be an object")

def load : ReviewAction host Unit := do
  let store ← Action.get
  match store.file with
  | none => pure ()
  | some lines => do
    let records ← Action.lift (load_lines 1 ∅ lines)
    Action.modify fun store => { store with records }

/-- `list_memories(status=...)`. -/
def MemoryReviewStore.list_memories (store : MemoryReviewStore host)
    (status : Option ReviewStatus) : List (ReviewedMemoryRecord host) :=
  ((store.records.select fun _ record => status.all (· = record.status)).map
    fun row => row.2).insertionSort fun record other => key_le record.key other.key

/-- The lines `save` writes. -/
def dump (store : MemoryReviewStore host) : List ReviewLine :=
  (store.list_memories none).map fun record => .value (.obj record.to_dict)

/-- `save()`, where `fails` says that it raises before the file is replaced. -/
def save (fails : Bool) : ReviewAction host Unit := do
  Action.lift (raise_if (fails = true) .OSError "memory review file was not replaced")
  Action.modify fun store => { store with file := some (dump store) }

def put_record (key : ReviewRecordKey) (record : ReviewedMemoryRecord host) : ReviewAction host Unit :=
  Action.modify fun store => { store with records := store.records.put key record }

def new_record (candidate : TopicDerivedMemoryCandidate) (valid : candidate.Valid host) :
    ReviewedMemoryRecord host :=
  { candidate, status := .candidate, review_reason := none, valid, safe_reason := rfl }

/-- What a call comes to: a record that stays as it is, or a row that is written. -/
inductive Found (host : TextHost) where
  | kept (record : ReviewedMemoryRecord host)
  | row (key : ReviewRecordKey) (record : ReviewedMemoryRecord host)

def write_back (fails : Bool) : Found host → ReviewAction host (ReviewedMemoryRecord host)
  | .kept record => pure record
  | .row key record => do
    put_record key record
    save fails
    pure record

/-- `add_candidate`, up to its write. -/
def MemoryReviewStore.added (store : MemoryReviewStore host)
    (candidate : TopicDerivedMemoryCandidate) (valid : candidate.Valid host) :
    Except StoreError (Found host) :=
  if store.candidate_writes_enabled then do
    let key ← checked_key host candidate
    match store.records.row key with
    | some existing => return .kept existing
    | none => return .row key (new_record candidate valid)
  else .ok (.kept (new_record candidate valid))

def settle (fails : Bool) (find : MemoryReviewStore host → Except StoreError (Found host)) :
    ReviewAction host (ReviewedMemoryRecord host) := do
  let store ← Action.get
  let found ← Action.lift (find store)
  write_back fails found

def add_candidate (fails : Bool) (candidate : TopicDerivedMemoryCandidate)
    (valid : candidate.Valid host) : ReviewAction host (ReviewedMemoryRecord host) :=
  settle fails fun store => store.added candidate valid

section

variable (store : MemoryReviewStore host) (candidate_id : String)

def MemoryReviewStore.only_match : Option (ReviewedMemoryRecord host) :=
  match store.records.select fun _ record => record.candidate.candidate_id = candidate_id with
  | [row] => some row.2
  | _ => none

/-- `load_memory(candidate_id)`. -/
def MemoryReviewStore.load_memory : Except StoreError (Option (ReviewedMemoryRecord host)) := do
  require_safe_scope host candidate_id
  return (store.records.row (none, candidate_id)).or (store.only_match candidate_id)

def MemoryReviewStore.legacy_record : Option (ReviewedMemoryRecord host) :=
  (store.records.row (none, candidate_id)).filter fun record =>
    record.candidate.session_id.isNone

/-- The record `_transition` is about, with the key it is put under again. -/
def MemoryReviewStore.addressed :
    Option String → Except StoreError (Option (ReviewRecordKey × ReviewedMemoryRecord host))
  | none => do
    match ← store.load_memory candidate_id with
    | none => return none
    | some record =>
      let key ← checked_key host record.candidate
      return some (key, record)
  | some session_id => do
    require_safe_scope host session_id
    require_safe_scope host candidate_id
    match store.records.row (some session_id, candidate_id) with
    | some record => return some ((some session_id, candidate_id), record)
    | none => return (store.legacy_record candidate_id).map fun record =>
        ((none, candidate_id), record)

/-- `_transition`, up to its write. -/
def MemoryReviewStore.decided (status : ReviewStatus) (reason session_id : Option String) :
    Except StoreError (Found host) := do
  require_safe_scope host candidate_id
  match ← store.addressed candidate_id session_id with
  | none => raise .KeyError ("memory candidate not found: " ++ candidate_id)
  | some (key, record) =>
    if record.status = status then return .kept record
    else do
      raise_if (record.status ≠ .candidate) .ValueError
        ("memory candidate " ++ candidate_id ++ " is already " ++ record.status.value)
      let updated ← constructed host record.candidate status reason
      return .row key updated

end

section

variable (fails : Bool)

/-- `_transition(candidate_id, status, reason=..., session_id=...)`. -/
def transition (candidate_id : String) (status : ReviewStatus)
    (reason session_id : Option String) : ReviewAction host (ReviewedMemoryRecord host) :=
  settle fails fun store => store.decided candidate_id status reason session_id

def accept_candidate (candidate_id : String) (reason : Option String) :
    ReviewAction host (ReviewedMemoryRecord host) :=
  transition fails candidate_id .accepted reason none

def accept_candidate_for_session (session_id candidate_id : String)
    (reason : Option String) : ReviewAction host (ReviewedMemoryRecord host) :=
  transition fails candidate_id .accepted reason (some session_id)

def reject_candidate (candidate_id : String) (reason : Option String) :
    ReviewAction host (ReviewedMemoryRecord host) :=
  transition fails candidate_id .rejected reason none

def reject_candidate_for_session (session_id candidate_id : String)
    (reason : Option String) : ReviewAction host (ReviewedMemoryRecord host) :=
  transition fails candidate_id .rejected reason (some session_id)

def archive_candidate (candidate_id : String) (reason : Option String) :
    ReviewAction host (ReviewedMemoryRecord host) :=
  transition fails candidate_id .archived reason none

def archive_candidate_for_session (session_id candidate_id : String)
    (reason : Option String) : ReviewAction host (ReviewedMemoryRecord host) :=
  transition fails candidate_id .archived reason (some session_id)

end

/-! ## Calls -/

inductive Decision where
  | accept
  | reject
  | archive

def Decision.status : Decision → ReviewStatus
  | .accept => .accepted
  | .reject => .rejected
  | .archive => .archived

/-- A call of the store; a decision may name a session. -/
inductive ReviewCall (host : TextHost) where
  | add (candidate : TopicDerivedMemoryCandidate) (valid : candidate.Valid host)
  | decide (decision : Decision) (session_id : Option String) (candidate_id : String)
    (reason : Option String)
  | load

/-- A call, where `fails` says that the file cannot be replaced. -/
def perform (fails : Bool) : ReviewCall host → ReviewAction host (Option (ReviewedMemoryRecord host))
  | .add candidate valid => some <$> add_candidate fails candidate valid
  | .decide .accept none id reason => some <$> accept_candidate fails id reason
  | .decide .accept (some session_id) id reason =>
    some <$> accept_candidate_for_session fails session_id id reason
  | .decide .reject none id reason => some <$> reject_candidate fails id reason
  | .decide .reject (some session_id) id reason =>
    some <$> reject_candidate_for_session fails session_id id reason
  | .decide .archive none id reason => some <$> archive_candidate fails id reason
  | .decide .archive (some session_id) id reason =>
    some <$> archive_candidate_for_session fails session_id id reason
  | .load => (fun _ => none) <$> load

/-- What a call other than `load` comes to. -/
def MemoryReviewStore.found (store : MemoryReviewStore host) :
    ReviewCall host → Option (Except StoreError (Found host))
  | .add candidate valid => some (store.added candidate valid)
  | .decide decision session_id candidate_id reason =>
    some (store.decided candidate_id decision.status reason session_id)
  | .load => none

/-! ### What calls leave -/

def reopened (store : MemoryReviewStore host) : Except StoreError Unit × MemoryReviewStore host :=
  load { store with records := ∅ }

def ReviewCall.session : ReviewCall host → Option String
  | .decide _ session_id _ _ => session_id
  | .add _ _ | .load => none

def ReviewCall.decision : ReviewCall host → Option Decision
  | .decide decision _ _ _ => some decision
  | .add _ _ | .load => none

/-- What is promised of one call. -/
structure Kept (before : MemoryReviewStore host) (call : ReviewCall host)
    (answer : Except StoreError (Option (ReviewedMemoryRecord host)))
    (after : MemoryReviewStore host) : Prop where
  on_disk : ∀ record, answer = .ok (some record) → (reopened after).1 = .ok ()
    ∧ (reopened after).2.list_memories none = after.list_memories none
    ∧ record ∈ after.list_memories none
    ∧ ∀ decision, call.decision = some decision → record.status = decision.status
  unchanged : ∀ error, answer = .error error →
    (∀ status, after.list_memories status = before.list_memories status)
      ∧ ∀ candidate_id, after.load_memory candidate_id = before.load_memory candidate_id
  decided : ∀ key record, before.records.row key = some record → record.status ≠ .candidate →
    ∃ later, after.records.row key = some later ∧ later.status = record.status
  elsewhere : ∀ session_id, call.session = some session_id → ∀ key : ReviewRecordKey,
    key.1 ≠ none → key.1 ≠ some session_id → after.records.row key = before.records.row key

/-- What is asked of one call: it does not come to a write that fails, and it adds no candidate
while candidate writes are off, except one that is there. -/
structure Sound (before : MemoryReviewStore host) (call : ReviewCall host) (fails : Bool) : Prop where
  replaced : ∀ key row, before.found call = some (.ok (.row key row)) → fails = false
  enabled : ∀ candidate valid, call = .add candidate valid →
    before.candidate_writes_enabled = true
      ∨ new_record candidate valid ∈ before.list_memories none

/-! ### Keys and lists -/

variable {candidate : TopicDerivedMemoryCandidate} {key : ReviewRecordKey}

theorem checked_key_eq_ok (h : checked_key host candidate = .ok key) :
    key = candidate.review_record_key := by
  unfold checked_key at h
  unfold TopicDerivedMemoryCandidate.review_record_key
  cases hsession : candidate.session_id with
  | none =>
    rw [hsession] at h
    exact (Except.ok.inj h).symm
  | some session_id =>
    rw [hsession] at h
    simp only [check_bind_eq_ok, pure_eq_ok] at h
    exact h.2.2.symm

theorem checked_key_of_valid (h : candidate.Valid host) :
    checked_key host candidate = .ok candidate.review_record_key := by
  unfold TopicDerivedMemoryCandidate.Valid TopicDerivedMemoryCandidate.post_init at h
  simp only [check_bind_eq_ok, raise_if_eq_ok, pure_eq_ok] at h
  obtain ⟨-, -, -, -, -, -, hprovenance, hid, -⟩ := h
  unfold require_provenance at hprovenance
  simp only [check_bind_eq_ok, check_each_eq_ok] at hprovenance
  have hsession := hprovenance.2.1 "session_id" (by simp)
  unfold checked_key TopicDerivedMemoryCandidate.review_record_key
    TopicDerivedMemoryCandidate.session_id optional_str
  unfold require_optional_scope at hsession
  cases hvalue : candidate.provenance.get "session_id" with
  | str value =>
    rw [hvalue] at hsession
    simp only [check_bind_eq_ok, raise_if_eq_ok] at hsession
    simp only [if_neg hsession.1, hsession.2, hid, ok_bind]
    rfl
  | null | bool _ | int _ | float _ | arr _ | obj _ => rfl

theorem key_le_iff (one other : ReviewRecordKey) : key_le one other = true
    ↔ @LE.le _ (@List.instLE String String.instLT) (sort_key one) (sort_key other) := by
  unfold key_le
  exact decide_eq_true_iff

theorem key_le_antisymm {one other : ReviewRecordKey} (h : key_le one other = true)
    (h' : key_le other one = true) : one = other := by
  rw [key_le_iff] at h h'
  have hsame := List.le_antisymm h h'
  obtain ⟨_ | session_id, id⟩ := one
  · obtain ⟨_ | other_id, id'⟩ := other
    · cases hsame
      rfl
    · simp [sort_key] at hsame
  · obtain ⟨_ | other_id, id'⟩ := other
    · simp [sort_key] at hsame
    · cases hsame
      rfl

variable {store : MemoryReviewStore host} {record : ReviewedMemoryRecord host}

theorem mem_list_memories {status : Option ReviewStatus} : record ∈ store.list_memories status
      ↔ ∃ key, store.records.row key = some record ∧ status.all (· = record.status) = true := by
  unfold MemoryReviewStore.list_memories
  rw [mem_insertionSort, mem_map]
  constructor
  · rintro ⟨⟨key, found⟩, hmem, rfl⟩
    exact ⟨key, mem_select.mp hmem⟩
  · rintro ⟨key, hrow⟩
    exact ⟨(key, record), mem_select.mpr hrow, rfl⟩

def MemoryReviewStore.Keyed (store : MemoryReviewStore host) : Prop :=
  ∀ key record, store.records.row key = some record → record.key = key

theorem list_memories_congr {store other : MemoryReviewStore host} (hkeyed : store.Keyed)
    (hrows : ∀ key, store.records.row key = other.records.row key) (status : Option ReviewStatus) :
    store.list_memories status = other.list_memories status := by
  have htotal : Std.Total fun record other : ReviewedMemoryRecord host =>
      key_le record.key other.key = true :=
    ⟨fun a b => by rw [key_le_iff, key_le_iff]; exact List.le_total _ _⟩
  have htrans : IsTrans (ReviewedMemoryRecord host) fun record other =>
      key_le record.key other.key = true :=
    ⟨fun a b c hab hbc => by rw [key_le_iff] at *; exact List.le_trans hab hbc⟩
  refine @List.Perm.eq_of_pairwise _ (fun a b => key_le a.key b.key = true) _ _ ?_
    (pairwise_insertionSort _ _) (pairwise_insertionSort _ _) ?_
  · intro a b ha hb hab hba
    obtain ⟨key, hkey, -⟩ := mem_list_memories.mp ha
    obtain ⟨key', hkey', -⟩ := mem_list_memories.mp hb
    rw [← hrows] at hkey'
    have hsame : key = key' := by
      rw [← hkeyed key a hkey, ← hkeyed key' b hkey']
      exact key_le_antisymm hab hba
    rw [hsame, hkey'] at hkey
    exact (Option.some.inj hkey).symm
  · refine (perm_insertionSort _ _).trans (List.Perm.trans ?_ (perm_insertionSort _ _).symm)
    apply List.Perm.map
    rw [perm_ext_iff_of_nodup (nodup_select _ _).of_map (nodup_select _ _).of_map]
    rintro ⟨key, record⟩
    rw [mem_select, mem_select, hrows]

/-! ### What a call comes to -/

variable {candidate_id : String}

theorem addressed_spec (hkeyed : store.Keyed) {session_id : Option String}
    (h : store.addressed candidate_id session_id = .ok (some (key, record))) :
    store.records.row key = some record
      ∧ ∀ session, session_id = some session → key.1 = none ∨ key.1 = some session := by
  cases session_id with
  | none =>
    refine ⟨?_, fun session hsession => by cases hsession⟩
    unfold MemoryReviewStore.addressed MemoryReviewStore.load_memory at h
    rw [bind_eq_ok] at h
    obtain ⟨loaded, hloaded, h⟩ := h
    rw [check_bind_eq_ok, pure_eq_ok] at hloaded
    cases loaded with
    | none => cases h
    | some loaded =>
      obtain ⟨found, hfound, hsame⟩ := bind_eq_ok.mp h
      cases hsame
      have hkey : ∃ key, store.records.row key = some record := by
        cases hlegacy : store.records.row (none, candidate_id) with
        | some legacy =>
          rw [hlegacy] at hloaded
          exact ⟨_, hlegacy.trans hloaded.2⟩
        | none =>
          rw [hlegacy, Option.none_or] at hloaded
          unfold MemoryReviewStore.only_match at hloaded
          split at hloaded
          · next row hselect =>
            have hmem : (row.1, row.2) ∈ store.records.select fun _ record =>
                decide (record.candidate.candidate_id = candidate_id) := by
              rw [hselect]
              exact mem_singleton.mpr rfl
            exact ⟨row.1, (mem_select.mp hmem).1.trans hloaded.2⟩
          · cases hloaded.2
      obtain ⟨own, hown⟩ := hkey
      rw [checked_key_eq_ok hfound]
      rw [← hkeyed own record hown] at hown
      exact hown
  | some session_id =>
    unfold MemoryReviewStore.addressed at h
    rw [check_bind_eq_ok, check_bind_eq_ok] at h
    obtain ⟨-, -, h⟩ := h
    cases hrow : store.records.row (some session_id, candidate_id) with
    | some found =>
      rw [hrow] at h
      cases h
      refine ⟨hrow, ?_⟩
      intro session hsession
      exact .inr hsession
    | none =>
      rw [hrow] at h
      obtain ⟨legacy, hlegacy, hsame⟩ := Option.map_eq_some_iff.mp (Except.ok.inj h)
      cases hsame
      exact ⟨(Option.filter_eq_some_iff.mp hlegacy).1, fun _ _ => .inl rfl⟩

theorem constructed_eq_ok {fields : TopicDerivedMemoryCandidate} {status : ReviewStatus}
    {reason : Option String} (h : constructed host fields status reason = .ok record) :
    fields.post_init host = .ok record.candidate ∧ record.status = status := by
  unfold constructed at h
  split at h
  · cases h
  · next candidate hcandidate =>
    split at h
    · cases h
    · cases h
      exact ⟨hcandidate, rfl⟩

variable {row : ReviewedMemoryRecord host}

/-- The row of a decision: it was a candidate, is decided as the call says, and belongs to the
session that is named or to none. -/
theorem decided_row (hkeyed : store.Keyed) {decision : Decision} {reason session_id : Option String}
    (h : store.decided candidate_id decision.status reason session_id = .ok (.row key row)) :
    row.key = key ∧ row.status = decision.status
      ∧ (∃ old, store.records.row key = some old ∧ old.status = .candidate)
      ∧ ∀ session, session_id = some session → key.1 = none ∨ key.1 = some session := by
  unfold MemoryReviewStore.decided at h
  rw [check_bind_eq_ok, bind_eq_ok] at h
  obtain ⟨-, addressed, haddressed, h⟩ := h
  cases addressed with
  | none => cases h
  | some found =>
    obtain ⟨found_key, record⟩ := found
    obtain ⟨hrow, hsession⟩ := addressed_spec hkeyed haddressed
    by_cases hstatus : record.status = decision.status
    · simp only [if_pos hstatus] at h
      cases h
    · simp only [if_neg hstatus] at h
      rw [check_bind_eq_ok, raise_if_eq_ok, bind_eq_ok] at h
      obtain ⟨hcandidate, updated, hupdated, hsame⟩ := h
      cases hsame
      obtain ⟨hfields, hdecided⟩ := constructed_eq_ok hupdated
      rw [record.valid] at hfields
      have hkey : row.key = record.key := by
        unfold ReviewedMemoryRecord.key
        rw [← Except.ok.inj hfields]
      exact ⟨hkey.trans (hkeyed _ _ hrow), hdecided, ⟨record, hrow, not_not.mp hcandidate⟩, hsession⟩

theorem decided_kept (hkeyed : store.Keyed) {status : ReviewStatus}
    {reason session_id : Option String}
    (h : store.decided candidate_id status reason session_id = .ok (.kept record)) :
    record.status = status ∧ ∃ key, store.records.row key = some record := by
  unfold MemoryReviewStore.decided at h
  rw [check_bind_eq_ok, bind_eq_ok] at h
  obtain ⟨-, addressed, haddressed, h⟩ := h
  cases addressed with
  | none => cases h
  | some found =>
    obtain ⟨key, found⟩ := found
    by_cases hstatus : found.status = status
    · simp only [if_pos hstatus] at h
      cases h
      exact ⟨hstatus, key, (addressed_spec hkeyed haddressed).1⟩
    · simp only [if_neg hstatus] at h
      rw [check_bind_eq_ok, bind_eq_ok] at h
      obtain ⟨-, updated, -, hsame⟩ := h
      cases hsame

theorem added_row {valid : candidate.Valid host}
    (h : store.added candidate valid = .ok (.row key row)) :
    row.key = key ∧ store.records.row key = none := by
  unfold MemoryReviewStore.added at h
  split at h
  · obtain ⟨found, hfound, h⟩ := bind_eq_ok.mp h
    cases hrow : store.records.row found with
    | some existing =>
      rw [hrow] at h
      cases h
    | none =>
      rw [hrow] at h
      cases h
      exact ⟨(checked_key_eq_ok hfound).symm, hrow⟩
  · cases h

theorem added_kept {valid : candidate.Valid host}
    (h : store.added candidate valid = .ok (.kept record)) :
    (∃ key, store.records.row key = some record)
      ∨ store.candidate_writes_enabled = false ∧ record = new_record candidate valid := by
  unfold MemoryReviewStore.added at h
  split at h
  · obtain ⟨found, hfound, h⟩ := bind_eq_ok.mp h
    cases hrow : store.records.row found with
    | some existing =>
      rw [hrow] at h
      cases h
      exact .inl ⟨found, hrow⟩
    | none =>
      rw [hrow] at h
      cases h
  · next henabled =>
    cases h
    exact .inr ⟨by simpa using henabled, rfl⟩

/-! ### Running a call -/

def MemoryReviewStore.with_row (store : MemoryReviewStore host) (key : ReviewRecordKey)
    (row : ReviewedMemoryRecord host) : MemoryReviewStore host :=
  { store with records := store.records.put key row }

theorem perform_settle (fails : Bool) (call : ReviewCall host) :
    call = .load ∨ ∃ find, perform fails call = some <$> settle fails find
      ∧ ∀ store : MemoryReviewStore host, store.found call = some (find store) := by
  cases call with
  | load => exact .inl rfl
  | add candidate valid => exact .inr ⟨_, rfl, fun _ => rfl⟩
  | decide decision session_id candidate_id reason =>
    refine .inr ⟨fun store => store.decided candidate_id decision.status reason session_id, ?_,
      fun _ => rfl⟩
    cases decision <;> cases session_id <;> rfl

/-- What is found of a call, and what then happens: the cases of one step. -/
inductive Step (fails : Bool) (store : MemoryReviewStore host) (call : ReviewCall host) :
    Except StoreError (Option (ReviewedMemoryRecord host)) × MemoryReviewStore host → Prop where
  | refused (error : StoreError) (h : ∀ found, store.found call ≠ some (.ok found)) :
    Step fails store call (.error error, store)
  | kept (record : ReviewedMemoryRecord host) (h : store.found call = some (.ok (.kept record))) :
    Step fails store call (.ok (some record), store)
  | failed (key : ReviewRecordKey) (row : ReviewedMemoryRecord host) (error : StoreError)
    (hfails : fails = true) (h : store.found call = some (.ok (.row key row))) :
    Step fails store call (.error error, store.with_row key row)
  | saved (key : ReviewRecordKey) (row : ReviewedMemoryRecord host) (hfails : fails = false)
    (h : store.found call = some (.ok (.row key row))) :
    Step fails store call (.ok (some row),
      { store.with_row key row with file := some (dump (store.with_row key row)) })
  | loaded (h : store.found call = none) : Step fails store call (.ok none, (load store).2)

theorem load_run (store : MemoryReviewStore host) :
    (load : ReviewAction host Unit) store = match store.file with
      | none => (.ok (), store)
      | some lines => match load_lines 1 ∅ lines with
        | .error error => (.error error, store)
        | .ok records => (.ok (), { store with records }) := by
  unfold load
  rw [Action.bind_ok (Action.get_run _)]
  cases hfile : store.file with
  | none => rfl
  | some lines =>
    show (Action.lift (load_lines 1 ∅ lines) >>= _ : ReviewAction host Unit) store
      = match (load_lines 1 ∅ lines : Except StoreError _) with
        | .error error => (.error error, store)
        | .ok records => (.ok (), { store with file := some lines, records })
    have hstore : store = { store with file := some lines } := by rw [← hfile]
    cases hlines : load_lines 1 (∅ : Table ReviewRecordKey (ReviewedMemoryRecord host)) lines with
    | error error => rw [Action.bind_error (Action.lift_run _ _)]
    | ok records =>
      rw [Action.bind_ok (Action.lift_run _ _)]
      exact congrArg (fun store => (Except.ok (), { store with records })) hstore

theorem load_of_error {error : StoreError} (h : (load store).1 = .error error) :
    (load store).2 = store := by
  rw [load_run] at h ⊢
  split
  · rfl
  · split
    · rfl
    · next hfile _ _ hlines =>
      rw [hfile] at h
      simp only [hlines] at h
      cases h

theorem perform_step (fails : Bool) (call : ReviewCall host) (store : MemoryReviewStore host) :
    Step fails store call (perform fails call store) := by
  rcases perform_settle fails call with rfl | ⟨find, hperform, hfind⟩
  · show Step fails store _ ((load >>= fun _ => pure none) store)
    rcases hload : (load : ReviewAction host Unit) store with ⟨error | done, after⟩
    · have hsame : after = store := by
        rw [← load_of_error (congrArg Prod.fst hload), hload]
      rw [Action.bind_error hload, hsame]
      exact .refused error (fun found hfound => by cases hfound)
    · have hloaded : Step fails store .load (.ok none, (load store).2) := .loaded rfl
      rw [Action.bind_ok hload]
      rw [hload] at hloaded
      exact hloaded
  · rw [hperform]
    have hfound := hfind store
    show Step fails store call ((settle fails find >>= fun record => pure (some record)) store)
    cases hresult : find store with
    | error error =>
      have hsettle : settle fails find store = (.error error, store) := by
        unfold settle
        rw [Action.bind_ok (Action.get_run _), Action.bind_error (by rw [Action.lift_run, hresult])]
      rw [Action.bind_error hsettle]
      refine .refused error ?_
      intro found hok
      rw [hfound, hresult] at hok
      cases hok
    | ok found =>
      have hsettle : settle fails find store = write_back fails found store := by
        unfold settle
        rw [Action.bind_ok (Action.get_run _), Action.bind_ok (by rw [Action.lift_run, hresult])]
      rw [hresult] at hfound
      cases found with
      | kept record =>
        rw [Action.bind_ok (hsettle.trans (Action.pure_run _ _))]
        exact .kept record hfound
      | row key row =>
        cases fails with
        | true =>
          rw [Action.bind_error hsettle]
          exact .failed key row _ rfl hfound
        | false =>
          rw [Action.bind_ok hsettle]
          exact .saved key row rfl hfound

/-! ### The file -/

def InSync (store : MemoryReviewStore host) : Prop :=
  (reopened store).1 = .ok ()
    ∧ ∀ key, (reopened store).2.records.row key = store.records.row key

theorem load_lines_dump (records : List (ReviewedMemoryRecord host)) :
    ∀ (line_number : Nat) (table : Table ReviewRecordKey (ReviewedMemoryRecord host)),
      load_lines line_number table
          (records.map fun record => ReviewLine.value (.obj record.to_dict))
        = .ok (table.put_all (records.map fun record => (record.key, record))) := by
  induction records with
  | nil =>
    intro line_number table
    rfl
  | cons record records ih =>
    intro line_number table
    rw [map_cons, load_lines, record_from_dict_to_dict, ok_bind,
      checked_key_of_valid record.valid, ok_bind, ih]
    rfl

theorem reopened_of_file {lines : List ReviewLine}
    {records : Table ReviewRecordKey (ReviewedMemoryRecord host)}
    (hfile : store.file = some lines) (hlines : load_lines 1 ∅ lines = .ok records) :
    reopened store = (.ok (), { store with records := records }) := by
  unfold reopened
  rw [load_run]
  simp only [hfile, hlines]

theorem in_sync_of_dump (hkeyed : store.Keyed) (hfile : store.file = some (dump store)) :
    InSync store := by
  have hlines := load_lines_dump (store.list_memories none) 1 ∅
  have hreopened := reopened_of_file hfile hlines
  unfold InSync
  rw [hreopened]
  refine ⟨rfl, ?_⟩
  intro key
  have hkeys : ((store.list_memories none).map fun record => (record.key, record)).map Prod.fst
      = (store.list_memories none).map ReviewedMemoryRecord.key := by
    rw [map_map]
    rfl
  have hnodup : ((store.list_memories none).map ReviewedMemoryRecord.key).Nodup := by
    refine ((perm_insertionSort _ _).map _).nodup_iff.mpr ?_
    rw [map_map, map_congr_left (g := Prod.fst)]
    · exact nodup_select _ _
    · rintro ⟨key, record⟩ hmem
      exact hkeyed key record (mem_select.mp hmem).1
  cases hrow : store.records.row key with
  | some record =>
    have hmem : record ∈ store.list_memories none := mem_list_memories.mpr ⟨key, hrow, rfl⟩
    apply row_put_all_of_mem
    · rw [hkeys]
      exact hnodup
    · exact mem_map.mpr ⟨record, hmem, by rw [hkeyed key record hrow]⟩
  | none =>
    show (put_all ∅ _).row key = none
    rw [row_put_all_of_not_mem, row_empty]
    rw [hkeys]
    intro hmem
    obtain ⟨record, hrecord, rfl⟩ := mem_map.mp hmem
    obtain ⟨own, hown, -⟩ := mem_list_memories.mp hrecord
    rw [hkeyed own record hown] at hrow
    rw [hrow] at hown
    cases hown

/-! ### One step -/

theorem keyed_with_row (hkeyed : store.Keyed) (hrow : row.key = key) :
    (store.with_row key row).Keyed := by
  intro other record hother
  by_cases hsame : other = key
  · subst hsame
    rw [MemoryReviewStore.with_row, row_put_self] at hother
    rw [← Option.some.inj hother]
    exact hrow
  · rw [MemoryReviewStore.with_row, row_put_of_ne _ _ hsame] at hother
    exact hkeyed other record hother

variable {call : ReviewCall host}

/-- The row a call writes is under its own key, is new or decides a candidate, and belongs to the
session that is named or to none. -/
theorem found_row (hkeyed : store.Keyed) (h : store.found call = some (.ok (.row key row))) :
    row.key = key
      ∧ (∀ old, store.records.row key = some old →
          old.status = .candidate ∧ row.status ≠ .candidate)
      ∧ (∀ decision, call.decision = some decision → row.status = decision.status)
      ∧ ∀ session_id, call.session = some session_id → key.1 = none ∨ key.1 = some session_id := by
  cases call with
  | load => cases h
  | add candidate valid =>
    obtain ⟨hkey, hnew⟩ := added_row (Option.some.inj h)
    refine ⟨hkey, ?_, ?_, ?_⟩
    · intro old hold
      rw [hnew] at hold
      cases hold
    · intro decision hdecision
      cases hdecision
    · intro session_id hsession
      cases hsession
  | decide decision session_id candidate_id reason =>
    obtain ⟨hkey, hstatus, ⟨old, hold, hcandidate⟩, hsession⟩ := decided_row hkeyed (Option.some.inj h)
    refine ⟨hkey, ?_, ?_, fun session hnamed => hsession session hnamed⟩
    · intro other hother
      rw [hold] at hother
      rw [← Option.some.inj hother, hstatus]
      exact ⟨hcandidate, by cases decision <;> decide⟩
    · rintro other ⟨⟩
      exact hstatus

theorem listed_with_row (hkeyed : store.Keyed) (h : store.found call = some (.ok (.row key row))) :
    row ∈ (store.with_row key row).list_memories none ∧ row ∉ store.list_memories none := by
  obtain ⟨hkey, hold, -⟩ := found_row hkeyed h
  refine ⟨mem_list_memories.mpr ⟨key, row_put_self _ _ _, rfl⟩, ?_⟩
  intro hmem
  obtain ⟨own, hown, -⟩ := mem_list_memories.mp hmem
  have hsame : own = key := (hkeyed own row hown).symm.trans hkey
  rw [hsame] at hown
  obtain ⟨hcandidate, hdecided⟩ := hold row hown
  exact hdecided hcandidate

theorem loaded_rows (hsync : InSync store) (key : ReviewRecordKey) :
    (load store).2.records.row key = store.records.row key
      ∧ (load store).2.file = store.file := by
  obtain ⟨hread, hrows⟩ := hsync
  have hrow := hrows key
  rw [reopened, load_run] at hread hrow
  rw [load_run]
  cases hfile : store.file with
  | none => exact ⟨rfl, hfile⟩
  | some lines =>
    simp only [hfile] at hread hrow ⊢
    cases hlines : load_lines 1 (∅ : Table ReviewRecordKey (ReviewedMemoryRecord host)) lines with
    | error error =>
      rw [hlines] at hread
      cases hread
    | ok records =>
      simp only [hlines] at hrow ⊢
      exact ⟨hrow, trivial⟩

theorem in_sync_congr {store other : MemoryReviewStore host} (hfile : other.file = store.file)
    (hrows : ∀ key, other.records.row key = store.records.row key) (hsync : InSync store) :
    InSync other := by
  have hsame : (reopened other).1 = (reopened store).1
      ∧ (reopened other).2.records = (reopened store).2.records := by
    unfold reopened
    rw [load_run, load_run]
    simp only [hfile]
    cases store.file with
    | none => exact ⟨rfl, rfl⟩
    | some lines =>
      cases hlines : load_lines 1 (∅ : Table ReviewRecordKey (ReviewedMemoryRecord host)) lines <;>
        simp only [hlines, and_self]
  refine ⟨hsame.1.trans hsync.1, ?_⟩
  intro key
  rw [hsame.2, hsync.2, hrows]

theorem listed_by_reopened (hkeyed : store.Keyed) (hsync : InSync store) :
    (reopened store).2.list_memories none = store.list_memories none :=
  (list_memories_congr hkeyed (fun key => (hsync.2 key).symm) none).symm

/-- **A call that meets the conditions keeps the promises, and the file in step.** -/
theorem kept_of_sound (hkeyed : store.Keyed) (hsync : InSync store) {fails : Bool}
    (hsound : Sound store call fails) :
    Kept store call (perform fails call store).1 (perform fails call store).2
      ∧ (perform fails call store).2.Keyed ∧ InSync (perform fails call store).2 := by
  have hstep := perform_step fails call store
  generalize perform fails call store = result at hstep
  cases hstep with
  | refused error _ =>
    refine ⟨⟨?_, ?_, ?_, ?_⟩, hkeyed, hsync⟩
    · intro record hanswer
      cases hanswer
    · intro _ _
      exact ⟨fun _ => rfl, fun _ => rfl⟩
    · intro key record hrow _
      exact ⟨record, hrow, rfl⟩
    · intro _ _ _ _ _
      rfl
  | kept record h =>
    refine ⟨⟨?_, ?_, ?_, ?_⟩, hkeyed, hsync⟩
    · rintro _ ⟨⟩
      refine ⟨hsync.1, listed_by_reopened hkeyed hsync, ?_, ?_⟩
      · cases call with
        | load => cases h
        | add candidate valid =>
          rcases added_kept (Option.some.inj h) with ⟨key, hrow⟩ | ⟨hoff, rfl⟩
          · exact mem_list_memories.mpr ⟨key, hrow, rfl⟩
          · rcases hsound.enabled candidate valid rfl with hon | hmem
            · rw [hoff] at hon
              cases hon
            · exact hmem
        | decide decision session_id candidate_id reason =>
          obtain ⟨key, hrow⟩ := (decided_kept hkeyed (Option.some.inj h)).2
          exact mem_list_memories.mpr ⟨key, hrow, rfl⟩
      · intro decision hdecision
        cases call with
        | load | add _ _ => cases hdecision
        | decide _ _ _ _ =>
          cases hdecision
          exact (decided_kept hkeyed (Option.some.inj h)).1
    · intro error hanswer
      cases hanswer
    · intro key old hrow _
      exact ⟨old, hrow, rfl⟩
    · intro _ _ _ _ _
      rfl
  | failed key row error hfails h =>
    rw [hsound.replaced key row h] at hfails
    cases hfails
  | saved key row hfails h =>
    obtain ⟨hkey, hold, hdecision, hsession⟩ := found_row hkeyed h
    have hkeyed' : (store.with_row key row).Keyed := keyed_with_row hkeyed hkey
    have hsync' : InSync { store.with_row key row with
        file := some (dump (store.with_row key row)) } := in_sync_of_dump hkeyed' rfl
    refine ⟨⟨?_, ?_, ?_, ?_⟩, hkeyed', hsync'⟩
    · rintro _ ⟨⟩
      exact ⟨hsync'.1, listed_by_reopened hkeyed' hsync', (listed_with_row hkeyed h).1, hdecision⟩
    · intro error hanswer
      cases hanswer
    · intro other record hrow hstatus
      by_cases hsame : other = key
      · subst hsame
        exact absurd (hold record hrow).1 hstatus
      · exact ⟨record, (row_put_of_ne _ _ hsame).trans hrow, rfl⟩
    · intro session_id hnamed other hother hforeign
      apply row_put_of_ne
      rintro rfl
      rcases hsession session_id hnamed with hnone | hsame
      · exact hother hnone
      · exact hforeign hsame
  | loaded h =>
    have hrows : ∀ key, (load store).2.records.row key = store.records.row key :=
      fun key => (loaded_rows hsync key).1
    refine ⟨⟨?_, ?_, ?_, ?_⟩, ?_, in_sync_congr (loaded_rows hsync (none, "")).2 hrows hsync⟩
    · intro record hanswer
      cases hanswer
    · intro error hanswer
      cases hanswer
    · intro key record hrow _
      exact ⟨record, (hrows key).trans hrow, rfl⟩
    · intro _ _ key _ _
      exact hrows key
    · intro key record hrow
      exact hkeyed key record ((hrows key).symm.trans hrow)

theorem sound_of_kept (hkeyed : store.Keyed) {fails : Bool}
    (hkept : Kept store call (perform fails call store).1 (perform fails call store).2) :
    Sound store call fails := by
  refine ⟨?_, ?_⟩
  · intro key row h
    cases fails with
    | false => rfl
    | true =>
      exfalso
      have hstep := perform_step true call store
      generalize perform true call store = result at hstep hkept
      cases hstep with
      | failed other found error _ hfound =>
        -- the row is in memory and was not
        obtain ⟨hafter, hbefore⟩ := listed_with_row hkeyed hfound
        rw [(hkept.unchanged error rfl).1 none] at hafter
        exact hbefore hafter
      | refused error hnone => exact hnone _ h
      | kept record hfound =>
        rw [h] at hfound
        cases hfound
      | saved _ _ hfails _ => cases hfails
      | loaded hnone =>
        rw [h] at hnone
        cases hnone
  · rintro candidate valid rfl
    by_cases hon : store.candidate_writes_enabled = true
    · exact .inl hon
    · have hfound : store.found (.add candidate valid)
          = some (.ok (.kept (new_record candidate valid))) :=
        congrArg some (if_neg hon)
      have hstep := perform_step fails (.add candidate valid) store
      generalize perform fails (.add candidate valid) store = result at hstep hkept
      cases hstep with
      | refused error hnone => exact absurd hfound (hnone _)
      | kept record h =>
        rw [hfound] at h
        cases h
        exact .inr (hkept.on_disk _ rfl).2.2.1
      | failed _ _ _ _ h | saved _ _ _ h | loaded h =>
        rw [hfound] at h
        cases h

/-! ### Runs -/

/-- A store as `__init__` leaves it. -/
structure Opened (store : MemoryReviewStore host) : Prop where
  read : (reopened store).1 = .ok ()
  held : store = (reopened store).2

theorem keyed_of_load_lines (lines : List ReviewLine) : ∀ (line_number : Nat)
    (store after : MemoryReviewStore host), store.Keyed →
    load_lines line_number store.records lines = .ok after.records → after.Keyed := by
  induction lines with
  | nil =>
    intro line_number store after hkeyed h
    unfold MemoryReviewStore.Keyed
    rw [← Except.ok.inj h]
    exact hkeyed
  | cons line lines ih =>
    intro line_number store after hkeyed h
    cases line with
    | blank => exact ih _ store after hkeyed h
    | broken => cases h
    | value payload =>
      cases payload with
      | obj fields =>
        rw [load_lines, bind_eq_ok] at h
        obtain ⟨record, -, h⟩ := h
        obtain ⟨key, hkey, h⟩ := bind_eq_ok.mp h
        exact ih _ (store.with_row key record) after
          (keyed_with_row hkeyed (checked_key_eq_ok hkey).symm) h
      | null | bool _ | int _ | float _ | str _ | arr _ => cases h

theorem Opened.keyed (h : Opened store) : store.Keyed := by
  obtain ⟨hread, hheld⟩ := h
  have hempty : ∀ key record, ¬ ((∅ : Table ReviewRecordKey (ReviewedMemoryRecord host)).row key
      = some record) := by
    intro key record hrow
    rw [row_empty] at hrow
    cases hrow
  rw [reopened, load_run] at hread hheld
  cases hfile : store.file with
  | none =>
    simp only [hfile] at hheld
    intro key record hrow
    rw [hheld] at hrow
    exact absurd hrow (hempty key record)
  | some lines =>
    simp only [hfile] at hread hheld
    cases hlines : load_lines 1 (∅ : Table ReviewRecordKey (ReviewedMemoryRecord host)) lines with
    | error error =>
      simp only [hlines] at hread
      cases hread
    | ok records =>
      simp only [hlines] at hheld
      apply keyed_of_load_lines lines 1 { store with records := ∅ } store
      · intro key record hrow
        exact absurd hrow (hempty key record)
      · rw [hheld]
        exact hlines

def Throughout (P : MemoryReviewStore host → ReviewCall host → Bool → Prop) :
    MemoryReviewStore host → List (ReviewCall host × Bool) → Prop
  | _, [] => True
  | store, (call, fails) :: calls =>
    P store call fails ∧ Throughout P (perform fails call store).2 calls

/-- **The file has what the calls of a run report, and no decision is lost or changed, exactly when
no write fails and no candidate is added while candidate writes are off.** -/
theorem reviews_kept_iff (host : TextHost) (store : MemoryReviewStore host)
    (calls : List (ReviewCall host × Bool)) (hopened : Opened store) :
    Throughout (fun store call fails =>
        Kept store call (perform fails call store).1 (perform fails call store).2) store calls
      ↔ Throughout Sound store calls := by
  have hsync : InSync store := ⟨hopened.read, fun key => by rw [← hopened.held]⟩
  have hkeyed := hopened.keyed
  clear hopened
  induction calls generalizing store with
  | nil => exact Iff.rfl
  | cons step calls ih =>
    obtain ⟨call, fails⟩ := step
    constructor
    · rintro ⟨hkept, hrest⟩
      have hsound := sound_of_kept hkeyed hkept
      obtain ⟨-, hkeyed', hsync'⟩ := kept_of_sound hkeyed hsync hsound
      exact ⟨hsound, (ih _ hsync' hkeyed').mp hrest⟩
    · rintro ⟨hsound, hrest⟩
      obtain ⟨hkept, hkeyed', hsync'⟩ := kept_of_sound hkeyed hsync hsound
      exact ⟨hkept, (ih _ hsync' hkeyed').mpr hrest⟩

end Store

/-! ## A write that fails -/

def sample_host : TextHost where
  casefold text := text
  is_space char := char = ' '

def sample_candidate : TopicDerivedMemoryCandidate where
  kind := "fact"
  title := "t"
  summary := "s"
  scope := "topic:1"
  tags := []
  confidence := 1
  provenance := [("topic_id", .str "1"), ("source_entry_ranges", .arr [.int 0])]
  candidate_id := "c"

theorem sample_valid : sample_candidate.Valid sample_host := by
  unfold TopicDerivedMemoryCandidate.Valid TopicDerivedMemoryCandidate.post_init
  simp only [check_bind_eq_ok, raise_if_eq_ok, pure_eq_ok]
  have hconfidence : ¬ ¬ (0 ≤ sample_candidate.confidence ∧ sample_candidate.confidence ≤ 1) := by
    exact not_not.mpr ⟨by decide, by decide⟩
  exact ⟨by decide, by rfl, by rfl, by rfl, by rfl, hconfidence, by rfl, by rfl, by rfl⟩

def sample_store : MemoryReviewStore sample_host where
  candidate_writes_enabled := true
  records := ∅
  file := none

theorem sample_opened : Opened sample_store := ⟨rfl, rfl⟩

def sample_add : ReviewCall sample_host := .add sample_candidate sample_valid

theorem sample_reviews_kept : Opened sample_store ∧ (Throughout (fun store call fails =>
        Kept store call (perform fails call store).1 (perform fails call store).2)
          sample_store [(sample_add, false)]
      ↔ Throughout Sound sample_store [(sample_add, false)]) :=
  ⟨sample_opened, reviews_kept_iff sample_host sample_store _ sample_opened⟩

/-- The second call returns the record, and the file is not there. -/
theorem retried_add_not_saved :
    (perform false sample_add (perform true sample_add sample_store).2).1
        = .ok (some (new_record sample_candidate sample_valid))
      ∧ (perform false sample_add (perform true sample_add sample_store).2).2.file = none
      ∧ ¬ Throughout (fun store call fails =>
        Kept store call (perform fails call store).1 (perform fails call store).2)
          sample_store [(sample_add, true), (sample_add, false)] := by
  refine ⟨by rfl, by rfl, ?_⟩
  rintro ⟨hfirst, -⟩
  have hlisted := (hfirst.unchanged _ rfl).1 none
  have hmem : new_record sample_candidate sample_valid
      ∈ (perform true sample_add sample_store).2.list_memories none :=
    mem_list_memories.mpr ⟨(none, "c"), by rfl, rfl⟩
  rw [hlisted] at hmem
  obtain ⟨key, hkey, -⟩ := mem_list_memories.mp hmem
  cases hkey

end CodingAgentLoop.MemoryReview
