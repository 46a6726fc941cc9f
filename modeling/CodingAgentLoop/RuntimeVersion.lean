/-
Does a session keep the runtime it started on?

A save reads the stored payload inside its transaction and so never moves the version.
A commit stamps on a payload and a flag it read before: when it read a payload, the
stored version is still the one it read; when it read none, another writer may have
stored a payload, or the flag may have been switched off, by the time it writes. A
restore stamps nothing. `VersionStands` is what the last two need, and
`runtime_version_fixed` that they need nothing else: along any run of the calls, the
versions are kept exactly when it holds at each such write.
-/
import CodingAgentLoop.SessionWrites
import CodingAgentLoop.AttemptMachine

open Lib Dialogue

namespace CodingAgentLoop

open Crew

/-! ## Versions -/

/-- `parse_runtime_version` of the session's stored payload. -/
def stored_version (store : DurableStore) (session_id : String) :
    Option (Except StoreError String) :=
  (store.tables.agent_http_sessions.row session_id).map parse_runtime_version

def RunsNew (store : DurableStore) (session_id : String) : Prop :=
  stored_version store session_id = some (.ok RUNTIME_VERSION_NEW)

/-- An access that moves no stored version, and makes no session `agentkit-1` while activation
is off. -/
def KeepsVersion (before after : DurableStore) : Prop :=
  ∀ session_id,
    (∀ version, stored_version before session_id = some version →
        stored_version after session_id = some version)
      ∧ (RunsNew after session_id → RunsNew before session_id
          ∨ before.tables.new_sessions_enabled = true)

/-- The version may be written on the session: it is the stored one, or the session is new and
activation is on if the version is `agentkit-1`. -/
def VersionStands (store : DurableStore) (session_id : String)
    (version : Except StoreError String) : Prop :=
  match stored_version store session_id with
  | some stored => version = stored
  | none => version = .ok RUNTIME_VERSION_NEW → store.tables.new_sessions_enabled = true

/-- The version that goes through a write whose call read no stored payload, and the session:
a fresh legacy commit stamps on nothing then, and a restore writes the version of its payload. -/
def unread_version : (query : SessionQuery) → SessionAnswer query →
    Option (String × Except StoreError String)
  | .commit authority unit none new_sessions_enabled, .ok commit =>
    if unit.val.transition_id = none ∧ commit.idempotent = false then
      some (authority.session_id,
        stamped_version unit.val.session_state none new_sessions_enabled)
    else none
  | .restore_checkpoint_state authority _ session_payload, .ok () =>
    some (authority.session_id, parse_runtime_version session_payload)
  | _, _ => none

def UnreadVersionStands : SessionEvent → Prop
  | .answered _ _ _ query answer before _ =>
    ∀ written ∈ unread_version query answer, VersionStands before written.1 written.2
  | _ => True

def EventKeepsVersion (event : SessionEvent) : Prop :=
  ∀ access ∈ event.access, KeepsVersion access.1 access.2

variable {host : SessionHost} {clock : Datetime} {store store' : DurableStore}

theorem stored_version_congr
    (h : store'.tables.agent_http_sessions = store.tables.agent_http_sessions)
    (session_id : String) : stored_version store' session_id = stored_version store session_id := by
  rw [stored_version, h]
  rfl

variable {payload : JsonObject}

theorem stored_version_put {session_id : String} (h : store'.tables.agent_http_sessions
      = store.tables.agent_http_sessions.put session_id payload) (other : String) :
    stored_version store' other
      = if other = session_id then some (parse_runtime_version payload)
        else stored_version store other := by
  rw [stored_version, h, Table.row_put]
  split
  · rfl
  · rfl

theorem KeepsVersion.of_same
    (h : store'.tables.agent_http_sessions = store.tables.agent_http_sessions) :
    KeepsVersion store store' := by
  intro session_id
  have hsame := stored_version_congr h session_id
  refine ⟨fun version hversion => by rw [hsame, hversion], ?_⟩
  intro hnew
  rw [RunsNew, hsame] at hnew
  exact Or.inl hnew

/-- **Writing a payload keeps the versions exactly when its version stands.** -/
theorem keeps_version_put {session_id : String} (h : store'.tables.agent_http_sessions
      = store.tables.agent_http_sessions.put session_id payload) :
    KeepsVersion store store' ↔ VersionStands store session_id (parse_runtime_version payload) := by
  have hafter := stored_version_put h
  constructor
  · intro hkeeps
    obtain ⟨hkept, hnew⟩ := hkeeps session_id
    rw [RunsNew, hafter, if_pos rfl] at hnew
    unfold VersionStands
    cases hstored : stored_version store session_id with
    | some stored =>
      have heq := hkept stored hstored
      rw [hafter, if_pos rfl] at heq
      exact Option.some.inj heq
    | none =>
      intro hversion
      rcases hnew (by rw [hversion]) with hold | henabled
      · rw [RunsNew, hstored] at hold
        cases hold
      · exact henabled
  · intro hstands other
    rw [RunsNew, RunsNew, hafter]
    by_cases hother : other = session_id
    · subst hother
      rw [if_pos rfl]
      unfold VersionStands at hstands
      cases hstored : stored_version store other with
      | some stored =>
        rw [hstored] at hstands
        rw [hstands]
        exact ⟨fun version hversion => hversion, fun hnew => Or.inl hnew⟩
      | none =>
        rw [hstored] at hstands
        refine ⟨fun version hversion => (by cases hversion), ?_⟩
        intro hnew
        exact Or.inr (hstands (Option.some.inj hnew))
    · rw [if_neg hother]
      exact ⟨fun version hversion => hversion, fun hnew => Or.inl hnew⟩

/-! ## One access -/

/-- A payload that was read before is of the version that is stored now. -/
def StillStored (store : DurableStore) : (query : SessionQuery) → SessionAnswer query → Prop
  | .load_session session_id, some payload =>
    stored_version store session_id = some (parse_runtime_version payload)
  | _, _ => True

variable {authority : OwnerAuthority}

theorem save_keeps_version {answer : Except StoreError Unit}
    (h : respond host clock store (.save_session authority payload) = (answer, store')) :
    KeepsVersion store store' := by
  rcases save_access h with rfl | ⟨version, hversion, hsessions, -, -⟩
  · exact KeepsVersion.of_same rfl
  · rw [keeps_version_put hsessions, parse_set_version payload (stamped_version_known hversion)]
    unfold VersionStands stored_version
    cases hrow : store.tables.agent_http_sessions.row authority.session_id with
    | some stored =>
      rw [hrow] at hversion
      exact (stamped_version_stored hversion).symm
    | none =>
      rw [hrow] at hversion
      intro hnew
      exact (stamped_version_new hversion).2 (Except.ok.inj hnew)

theorem restore_keeps_version {snapshot : CheckpointSnapshot} {session_payload : JsonObject}
    {answer : Except StoreError Unit}
    (h : respond host clock store (.restore_checkpoint_state authority snapshot session_payload)
      = (answer, store')) :
    KeepsVersion store store' ↔
      ∀ written ∈ unread_version (.restore_checkpoint_state authority snapshot session_payload)
        answer, VersionStands store written.1 written.2 := by
  rcases restore_access h with ⟨⟨error, rfl⟩, rfl⟩ | ⟨rfl, htables⟩
  · simp only [unread_version, Option.mem_def, reduceCtorEq, false_implies, implies_true, iff_true]
    exact KeepsVersion.of_same rfl
  · have hsessions : store'.tables.agent_http_sessions
        = store.tables.agent_http_sessions.put authority.session_id session_payload := by
      rw [htables, restored_sessions]
    rw [keeps_version_put hsessions]
    simp [unread_version]

/-- A commit on what its call was told keeps the versions, unless it was told that no payload is
stored: then it does exactly when the version it stamps stands. -/
theorem commit_keeps_version {unit : UnitOfWork} {stored : Option JsonObject}
    {new_sessions_enabled : Bool} {answer : Except StoreError AuthoritativeCommit}
    (htold : StillStored store (.load_session authority.session_id) stored)
    (h : respond host clock store (.commit authority unit stored new_sessions_enabled)
      = (answer, store')) :
    KeepsVersion store store' ↔
      ∀ written ∈ unread_version (.commit authority unit stored new_sessions_enabled) answer,
        VersionStands store written.1 written.2 := by
  rcases commit_access h with ⟨hother, hreplay⟩ |
    ⟨commit, event, version, rfl, hfresh, hlegacy, -, hversion, hcommit⟩
  · refine iff_of_true (KeepsVersion.of_same hother.1) ?_
    intro written hwritten
    -- nothing was written: the answer is no fresh commit of a legacy unit
    cases stored with
    | some payload => cases hwritten
    | none =>
      cases answer with
      | error error => cases hwritten
      | ok commit =>
        simp only [unread_version, Option.mem_def, Option.ite_none_right_eq_some] at hwritten
        obtain ⟨⟨hlegacy, hfresh⟩, -⟩ := hwritten
        rw [hreplay commit rfl hlegacy] at hfresh
        cases hfresh
  · rw [keeps_version_put hcommit.sessions, AuthoritativeUnitOfWork.stamped,
      parse_set_version _ (stamped_version_known hversion)]
    cases stored with
    | none => simp [unread_version, hlegacy, hfresh, hversion]
    | some payload =>
      refine iff_of_true ?_ (fun written hwritten => by cases hwritten)
      have hstored : stored_version store authority.session_id = some (.ok version) := by
        rw [← stamped_version_stored hversion]
        exact htold
      unfold VersionStands
      rw [hstored]

variable {query : SessionQuery}

variable {answer : SessionAnswer query}

/-- **One access keeps the versions exactly when its unread version stands**, for a call that
remembers what it read. -/
theorem access_keeps_version {call : SessionCall} {history : History SessionQuery SessionAnswer}
    (hasked : AskedAsTold call history query)
    (htold : ∀ told ∈ history, StillStored store told.1 told.2)
    (h : respond host clock store query = (answer, store')) :
    KeepsVersion store store' ↔
      ∀ written ∈ unread_version query answer, VersionStands store written.1 written.2 := by
  cases query with
  | commit authority unit stored new_sessions_enabled =>
    exact commit_keeps_version (htold _ hasked.1) h
  | restore_checkpoint_state authority snapshot session_payload => exact restore_keeps_version h
  | save_session authority payload =>
    exact iff_of_true (save_keeps_version h) (fun written hwritten => by cases hwritten)
  | set_new_session_runtime_activation enabled =>
    cases h
    exact iff_of_true (KeepsVersion.of_same rfl) (fun written hwritten => by cases hwritten)
  | now =>
    cases h
    exact iff_of_true (KeepsVersion.of_same rfl) (fun written hwritten => by cases hwritten)
  | load_agent_run run_id =>
    cases h
    exact iff_of_true (KeepsVersion.of_same rfl) (fun written hwritten => by cases hwritten)
  | load_session session_id =>
    cases h
    exact iff_of_true (KeepsVersion.of_same rfl) (fun written hwritten => by cases hwritten)
  | load_runtime_activation =>
    cases h
    exact iff_of_true (KeepsVersion.of_same rfl) (fun written hwritten => by cases hwritten)

theorem read_is_stored (h : respond host clock store query = (answer, store')) :
    StillStored store' query answer := by
  cases query with
  | load_session session_id =>
    cases h
    unfold StillStored
    split
    · next hcall hrow =>
      cases hcall
      rw [stored_version, hrow]
      rfl
    · trivial
  | _ => trivial

theorem StillStored.kept (h : StillStored store query answer) (hkeeps : KeepsVersion store store') :
    StillStored store' query answer := by
  cases query with
  | load_session session_id =>
    cases answer with
    | none => trivial
    | some payload => exact (hkeeps session_id).1 _ h
  | _ => trivial

/-! ## Runs of the calls -/

variable {crew crew' start : SessionCrew} {event : SessionEvent} {events past : List SessionEvent}

/-- What a run of the calls preserves: every caller is still in its code and remembers what it
read. -/
def CallsInOrder (crew : SessionCrew) : Prop :=
  Disciplined AskedAsTold crew ∧ Remembers StillStored crew

theorem event_keeps_version_iff (horder : CallsInOrder crew) (h : SessionStep host crew event crew') :
    EventKeepsVersion event ↔ UnreadVersionStands event := by
  cases h with
  | started => simp [EventKeepsVersion, UnreadVersionStands, CrewEvent.access]
  | elsewhere moved =>
    simp only [EventKeepsVersion, UnreadVersionStands, CrewEvent.access, Option.mem_def,
      Option.some.injEq, forall_eq', iff_true]
    exact KeepsVersion.of_same moved.1
  | @answered pid call history query resume answer shared waiting responds =>
    obtain ⟨clock, hrespond⟩ := responds
    simp only [EventKeepsVersion, UnreadVersionStands, CrewEvent.access, Option.mem_def,
      Option.some.injEq, forall_eq']
    exact access_keeps_version (horder.1 pid _ waiting).1 (horder.2 pid _ waiting) hrespond

theorem CallsInOrder.step (horder : CallsInOrder crew) (hkeeps : EventKeepsVersion event)
    (h : SessionStep host crew event crew') : CallsInOrder crew' := by
  refine ⟨horder.1.step (session_calls_as_told host) h, horder.2.step ?_ ?_ h⟩
  · rintro pid call history query answer before after rfl
    cases h with
    | answered _ responds =>
      obtain ⟨clock, hrespond⟩ := responds
      exact read_is_stored hrespond
  · intro before after haccess query answer hstored
    exact hstored.kept (hkeeps _ haccess)

section

variable (hidle : start.Idle) (h : Run (SessionStep host) start events crew)
  (hevents : ∀ event ∈ events, UnreadVersionStands event ∨ EventKeepsVersion event)

include hidle h hevents

theorem calls_in_order_run :
    CallsInOrder crew := by
  refine h.invariant_where hevents ⟨hidle.disciplined, hidle.remembers⟩ ?_
  intro before event after horder hevent hstep
  have hiff := event_keeps_version_iff horder hstep
  exact horder.step (hevent.elim hiff.mpr id) hstep

theorem run_keeps_version_iff :
    ∀ event ∈ events, EventKeepsVersion event ↔ UnreadVersionStands event := by
  intro event hmem
  obtain ⟨earlier, later, rfl⟩ := List.append_of_mem hmem
  obtain ⟨before, after, hfirst, hstep, -⟩ := h.split
  have horder := calls_in_order_run hidle hfirst
    (fun e he => hevents e (List.mem_append_left _ he))
  exact event_keeps_version_iff horder hstep

end

theorem versions_kept_run (h : Run (SessionStep host) crew events crew')
    (hkeeps : ∀ event ∈ events, EventKeepsVersion event) (session_id : String)
    (version : Except StoreError String)
    (hversion : stored_version crew.shared session_id = some version) :
    stored_version crew'.shared session_id = some version := by
  refine h.invariant_where hkeeps
    (I := fun c => stored_version c.shared session_id = some version) hversion ?_
  intro before event after hbefore hevent hstep
  cases hstep with
  | started => exact hbefore
  | answered => exact ((hevent _ rfl) session_id).1 version hbefore
  | elsewhere => exact ((hevent _ rfl) session_id).1 version hbefore

/-- **A session keeps its runtime version along a run of the calls exactly when every write
whose call read no stored payload finds its version standing**: then, too, the version stored in
any state of the run is the one stored in every later state. -/
theorem runtime_version_fixed (hidle : start.Idle) (hpast : Run (SessionStep host) start past crew)
    (hrun : Run (SessionStep host) crew events crew') :
    ((∀ event ∈ past ++ events, EventKeepsVersion event)
        ↔ ∀ event ∈ past ++ events, UnreadVersionStands event)
      ∧ ((∀ event ∈ past ++ events, UnreadVersionStands event) →
          ∀ session_id version, stored_version crew.shared session_id = some version →
            stored_version crew'.shared session_id = some version) := by
  have hwhole := hpast.append hrun
  have hkeeps : (∀ event ∈ past ++ events, UnreadVersionStands event) →
      ∀ event ∈ past ++ events, EventKeepsVersion event := by
    intro hstands event hmem
    have hiff := run_keeps_version_iff hidle hwhole (fun e he => Or.inl (hstands e he)) event hmem
    exact hiff.mpr (hstands event hmem)
  refine ⟨⟨?_, hkeeps⟩, ?_⟩
  · intro hall event hmem
    have hiff := run_keeps_version_iff hidle hwhole (fun e he => Or.inr (hall e he)) event hmem
    exact hiff.mp (hall event hmem)
  · intro hstands session_id version hversion
    exact versions_kept_run hrun
      (fun e he => hkeeps hstands e (List.mem_append_right _ he)) session_id version hversion

/-! ## A first commit and a first save -/

instance (store : DurableStore) (session_id : String) (version : Except StoreError String) :
    Decidable (VersionStands store session_id version) := by
  unfold VersionStands
  split <;> infer_instance

def unread_version_stands : SessionEvent → Bool
  | .answered _ _ _ query answer before _ =>
    (unread_version query answer).all (fun written => VersionStands before written.1 written.2)
  | _ => true

theorem unread_version_stands_iff (event : SessionEvent) :
    unread_version_stands event = true ↔ UnreadVersionStands event := by
  cases event with
  | answered _ _ _ query answer before after =>
    simp [unread_version_stands, UnreadVersionStands, Option.all_eq_true]
  | _ => simp [unread_version_stands, UnreadVersionStands]

def sample_session_host : SessionHost where
  toHost := sample_host
  chat_run_id session_id command_id := session_id ++ ":" ++ command_id
  started_after started_at created_at := created_at < started_at

def sample_new_store : SessionCrew where
  shared :=
    { tables :=
        { session_owners := (∅ : Table String SessionOwnerRecord).put "s" ⟨"worker", 1000, 1⟩
          new_sessions_enabled := true } }
  callers _ := none

def sample_session_unit : UnitOfWork :=
  ⟨{ session_state := [("id", .str "s")]
     event := some
       { event_id := "turn", session_id := "s", event_kind := "turn", payload := [], created_at := 1 } },
    by decide⟩

def sample_legacy_save : List (Input SessionCall Datetime) :=
  [.start 1 (.set_new_session_runtime_activation false), .access 1 1,
   .start 2 (.save_session sample_owner [("id", .str "s")]), .access 2 1]

def sample_overtaken : List (Input SessionCall Datetime) :=
  [.start 0 (.commit_authoritative_uow sample_owner sample_session_unit), .access 0 1, .access 0 1]
    ++ sample_legacy_save

abbrev sample_calls (crew : SessionCrew) (script : List (Input SessionCall Datetime)) :
    List SessionEvent × SessionCrew :=
  Crew.play (SessionCall.body sample_session_host) (respond sample_session_host) crew script

/-- A commit that reads the saved session keeps it on the legacy runtime. -/
theorem sample_version_fixed :
    stored_version (sample_calls (sample_calls sample_new_store sample_legacy_save).2
        [.start 0 (.commit_authoritative_uow sample_owner sample_session_unit),
          .access 0 2, .access 0 2, .access 0 2]).2.shared "s"
      = some (.ok RUNTIME_VERSION_LEGACY) :=
  (@runtime_version_fixed sample_session_host _ _ sample_new_store _ _ (fun _ => rfl)
    (Crew.play_run _ sample_legacy_save) (Crew.play_run _ _)).2
    (fun event hmem => (unread_version_stands_iff event).mp
      (List.all_eq_true.mp (by decide +kernel) event hmem))
    "s" (.ok RUNTIME_VERSION_LEGACY) (by decide +kernel)

/-- **A commit that was overtaken by the first save moves the session to the new runtime**, and
while activation is off. -/
theorem overtaken_commit_changes_version :
    ¬ ∀ (host : SessionHost) (start crew crew' : SessionCrew) (past events : List SessionEvent),
      start.Idle → Run (SessionStep host) start past crew →
        Run (SessionStep host) crew events crew' →
          ∀ session_id version, stored_version crew.shared session_id = some version →
            stored_version crew'.shared session_id = some version := by
  intro hall
  have hkept := hall sample_session_host sample_new_store _ _ _ _ (fun _ => rfl)
    (Crew.play_run _ sample_overtaken)
    (Crew.play_run _ [Input.access 0 2]) "s" (.ok RUNTIME_VERSION_LEGACY)
    (by decide +kernel)
  exact absurd hkept (by decide +kernel)

end CodingAgentLoop
