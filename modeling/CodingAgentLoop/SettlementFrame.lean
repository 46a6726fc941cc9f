/-
What settling a root run leaves alone.

A settlement reads the run and the session's payload, builds the whole new payload and
the whole new run record from them, and writes both in a later transaction, which looks
at the stored run's status only. Meant to change are the turn fields of the payload and
the outcome of the run (`SettlesOnly`); what is written beside them is what was read. So
`settlement_frame`: a settlement changes nothing else exactly when the stored payload and
the stored run still read as they did, outside what it is meant to change.
-/
import CodingAgentLoop.RuntimeVersion

open Lib Dialogue

namespace CodingAgentLoop

open JsonObject AuthoritativeUnitOfWork SessionTask List Result

def turn_fields : List String := ["turn_id", "turn_in_progress", "turn_status"]

def SameOutsideTurn (old new : JsonObject) : Prop :=
  ∀ key ∉ turn_fields, new.find key = old.find key

/-- Two runs agree outside the status, the end, the result, the error and `extra_metadata`. -/
structure SameOutsideOutcome (extra_metadata : JsonObject) (old new : AgentRunRecord) : Prop where
  session_id : new.session_id = old.session_id
  tape_id : new.tape_id = old.tape_id
  parent_run_id : new.parent_run_id = old.parent_run_id
  agent_id : new.agent_id = old.agent_id
  started_at : new.started_at = old.started_at
  superseded_by_checkpoint_id : new.superseded_by_checkpoint_id = old.superseded_by_checkpoint_id
  superseded_at : new.superseded_at = old.superseded_at
  metadata : ∀ key, extra_metadata.find key = none → new.metadata.find key = old.metadata.find key

/-- A settlement changed the turn fields and the outcome of the run, and no more. -/
structure SettlesOnly (session_id run_id : String) (settlement : RootSettlement)
    (before after : DurableStore) : Prop where
  session : ∃ old new, before.tables.agent_http_sessions.row session_id = some old
    ∧ after.tables.agent_http_sessions.row session_id = some new ∧ SameOutsideTurn old new
  run : ∃ old new, before.tables.agent_runs.row run_id = some old
    ∧ after.tables.agent_runs.row run_id = some new
    ∧ SameOutsideOutcome (settlement.extra_metadata.getD []) old new

/-- The stored payload still reads as the settlement read it, outside the turn fields, and
names the version that is stamped on it. -/
def SessionReadStands (session_id : String) (session_state : JsonObject)
    (stored : Option JsonObject) (new_sessions_enabled : Bool) (before : DurableStore) : Prop :=
  ∃ old, before.tables.agent_http_sessions.row session_id = some old
    ∧ (∀ key ∉ turn_fields, key ≠ "runtime_version" → old.find key = session_state.find key)
    ∧ ∃ version, stamped_version session_state stored new_sessions_enabled = .ok version
        ∧ old.find "runtime_version" = some (.str version)

/-- The stored run still reads as the settlement read it, outside its outcome. -/
def RunReadStands (run : AgentRunRecord) (extra_metadata : JsonObject) (before : DurableStore) :
    Prop :=
  ∃ old, before.tables.agent_runs.row run.run_id = some old
    ∧ old.tape_id = run.tape_id ∧ old.parent_run_id = run.parent_run_id
    ∧ old.agent_id = run.agent_id ∧ old.started_at = run.started_at
    ∧ ∀ key, extra_metadata.find key = none → old.metadata.find key = run.metadata.find key

/-- The run and the payload a settlement had read, from what its call was told. -/
def settlement_reads : History SessionQuery SessionAnswer → Option (AgentRunRecord × JsonObject)
  | ⟨.load_agent_run _, some run⟩ :: ⟨.load_session _, some session_state⟩ :: _ =>
    some (run, session_state)
  | _ => none

/-- The event is no fresh commit of a settlement, or it settles only. -/
def EventSettlesOnly : SessionEvent → Prop
  | .answered _ (.settle_root_run authority settlement) history (.commit _ _ _ _) (.ok commit)
      before after =>
      commit.idempotent = false → ∃ run session_state,
        settlement_reads history = some (run, session_state)
          ∧ SettlesOnly authority.session_id run.run_id settlement before after
  | _ => True

/-- The event is no fresh commit of a settlement, or what the settlement read still stands. -/
def EventReadsStand : SessionEvent → Prop
  | .answered _ (.settle_root_run authority settlement) history
      (.commit _ _ stored new_sessions_enabled) (.ok commit) before _ =>
      commit.idempotent = false → ∃ run session_state,
        settlement_reads history = some (run, session_state)
          ∧ SessionReadStands authority.session_id session_state stored new_sessions_enabled before
          ∧ RunReadStands run (settlement.extra_metadata.getD []) before
  | _ => True

/-! ## What a settlement asks -/

/-- A settlement asks for the commit of the unit it built from the run and the payload it was
told first. -/
def AskedAsBuilt (call : SessionCall) (history : History SessionQuery SessionAnswer) :
    SessionQuery → Prop
  | .commit authority unit stored new_sessions_enabled =>
    match call with
    | .settle_root_run own_authority settlement =>
      authority = own_authority ∧ ∃ run session_state built_at,
        build_root_settlement run session_state settlement built_at = .ok unit
          ∧ history =
            [⟨.load_agent_run settlement.run_id, some run⟩,
             ⟨.load_session authority.session_id, some session_state⟩,
             ⟨.now, built_at⟩,
             ⟨.load_session authority.session_id, stored⟩,
             ⟨.load_runtime_activation, new_sessions_enabled⟩]
    | _ => True
  | _ => True

theorem settlements_as_built (host : SessionHost) :
    Crew.Guarantees (SessionCall.body host) AskedAsBuilt := by
  intro call
  cases call with
  | settle_root_run authority settlement =>
    refine Meets.bind (Meets.await_bind trivial (fun stored_run _ => ?_))
    refine Meets.lift_bind (fun run hrun => ?_) (fun _ _ => trivial)
    refine Meets.await_bind trivial (fun stored_session _ => ?_)
    refine Meets.lift_bind (fun session_state hsession => ?_) (fun _ _ => trivial)
    refine Meets.await_bind trivial (fun built_at _ => ?_)
    refine Meets.lift_bind (fun unit hunit => ?_) (fun _ _ => trivial)
    -- the two reads were answered with what the settlement went on with
    have hstored_run : stored_run = some run := by
      cases stored_run with
      | none => simp [required_run] at hrun
      | some found =>
        simp only [required_run, check_bind_eq_ok, pure_eq_ok] at hrun
        rw [hrun.2]
    have hstored_session : stored_session = some session_state := by
      cases stored_session with
      | none => simp [required_session] at hsession
      | some found =>
        rw [required_session, Except.ok.injEq] at hsession
        rw [hsession]
    subst hstored_run hstored_session
    refine Meets.lift_bind (fun _ _ => ?_) (fun _ _ => trivial)
    refine Meets.await_bind trivial (fun stored _ => ?_)
    refine Meets.await_bind trivial (fun new_sessions_enabled _ => ?_)
    refine Meets.await_bind ⟨rfl, run, session_state, built_at, hunit, rfl⟩ (fun answer _ => ?_)
    exact Meets.lift (by cases answer <;> trivial)
  | save_session authority payload =>
    refine Meets.bind (Meets.lift_bind (fun _ _ => ?_) (fun _ _ => trivial))
    exact Meets.await_bind trivial (fun answer _ => Meets.lift (by cases answer <;> trivial))
  | commit_authoritative_uow authority unit =>
    refine Meets.bind (Meets.lift_bind (fun _ _ => ?_) (fun _ _ => trivial))
    refine Meets.await_bind trivial (fun stored _ => ?_)
    refine Meets.await_bind trivial (fun new_sessions_enabled _ => ?_)
    exact Meets.await_bind trivial (fun answer _ => Meets.lift (by cases answer <;> trivial))
  | admit_chat_command authority command =>
    refine Meets.bind (Meets.await_bind trivial (fun built_at _ => ?_))
    refine Meets.lift_bind (fun built _ => ?_) (fun _ _ => trivial)
    refine Meets.bind (Meets.lift_bind (fun _ _ => ?_) (fun _ _ => trivial))
    refine Meets.await_bind trivial (fun stored _ => ?_)
    refine Meets.await_bind trivial (fun new_sessions_enabled _ => ?_)
    exact Meets.await_bind trivial (fun answer _ => Meets.lift (by cases answer <;> trivial))
  | restore_checkpoint_state authority snapshot session_payload =>
    refine Meets.bind (Meets.lift_bind (fun _ _ => ?_) (fun _ _ => trivial))
    exact Meets.await_bind trivial (fun answer _ => Meets.lift (by cases answer <;> trivial))
  | set_new_session_runtime_activation enabled => exact ⟨trivial, fun _ _ => trivial⟩

/-! ## The payload -/

theorem settled_session_find (session_state : JsonObject) (run_id outcome : String) {key : String}
    (h : key ∉ turn_fields) :
    (settled_session session_state run_id outcome).find key = session_state.find key := by
  simp only [turn_fields, mem_cons, not_mem_nil, or_false, not_or] at h
  simp [settled_session, h]

theorem stamped_version_settled (session_state : JsonObject) (run_id outcome : String)
    (stored : Option JsonObject) (new_sessions_enabled : Bool) :
    stamped_version (settled_session session_state run_id outcome) stored new_sessions_enabled
      = stamped_version session_state stored new_sessions_enabled := by
  have hget : (settled_session session_state run_id outcome).get "runtime_version"
      = session_state.get "runtime_version" := by
    rw [JsonObject.get, settled_session_find _ _ _ (by decide), JsonObject.get]
  simp only [stamped_version, incoming_runtime_version, parse_runtime_version, hget]

/-- The payload that is written agrees with the stored one exactly when the read one does. -/
theorem settled_session_same_iff {session_state old : JsonObject} {run_id outcome version : String}
    {stored : Option JsonObject} {new_sessions_enabled : Bool}
    (h : stamped_version session_state stored new_sessions_enabled = .ok version) :
    SameOutsideTurn old ((settled_session session_state run_id outcome).set "runtime_version"
        (.str version))
      ↔ (∀ key ∉ turn_fields, key ≠ "runtime_version" → old.find key = session_state.find key)
        ∧ ∃ version, stamped_version session_state stored new_sessions_enabled = .ok version
            ∧ old.find "runtime_version" = some (.str version) := by
  constructor
  · intro hsame
    refine ⟨?_, version, h, ?_⟩
    · intro key hkey hversion
      have heq := hsame key hkey
      rw [find_set, if_neg hversion, settled_session_find _ _ _ hkey] at heq
      exact heq.symm
    · have heq := hsame "runtime_version" (by decide)
      rw [find_set, if_pos rfl] at heq
      exact heq.symm
  · rintro ⟨hread, version', hversion', hstored⟩ key hkey
    have hsame : version' = version := by
      rw [h] at hversion'
      exact (Except.ok.inj hversion').symm
    rw [find_set]
    by_cases hversion : key = "runtime_version"
    · rw [if_pos hversion, hversion, hstored, hsame]
    · rw [if_neg hversion, settled_session_find _ _ _ hkey, hread key hkey hversion]

/-! ## The run -/

/-- The run record that is stored over `old`. -/
def stored_settled_run (run old : AgentRunRecord) (settlement : RootSettlement) (now : Datetime) :
    AgentRunRecord :=
  { settled_run run settlement now with
    session_id := old.session_id
    superseded_by_checkpoint_id := old.superseded_by_checkpoint_id
    superseded_at := old.superseded_at }

variable {settlement : RootSettlement}

theorem stored_settled_run_same_iff {run old : AgentRunRecord} {now : Datetime} :
    SameOutsideOutcome (settlement.extra_metadata.getD []) old
        (stored_settled_run run old settlement now)
      ↔ old.tape_id = run.tape_id ∧ old.parent_run_id = run.parent_run_id
        ∧ old.agent_id = run.agent_id ∧ old.started_at = run.started_at
        ∧ ∀ key, (settlement.extra_metadata.getD []).find key = none →
            old.metadata.find key = run.metadata.find key := by
  have hmetadata : ∀ key, (settlement.extra_metadata.getD []).find key = none →
      (stored_settled_run run old settlement now).metadata.find key = run.metadata.find key := by
    intro key hkey
    change find (merge run.metadata _) key = _
    rw [find_merge, hkey, Option.none_or]
  constructor
  · intro hsame
    refine ⟨hsame.tape_id.symm, hsame.parent_run_id.symm, hsame.agent_id.symm,
      hsame.started_at.symm, ?_⟩
    intro key hkey
    rw [← hsame.metadata key hkey, hmetadata key hkey]
  · rintro ⟨htape, hparent, hagent, hstarted, hread⟩
    refine ⟨rfl, htape.symm, hparent.symm, hagent.symm, hstarted.symm, rfl, rfl, ?_⟩
    intro key hkey
    rw [hmetadata key hkey, hread key hkey]

/-! ## One settlement -/

variable {host : SessionHost} {clock : Datetime} {store store' : DurableStore}

/-- What a settlement that commits now writes: the payload it built, stamped, and the run it
built over the stored one. -/
theorem settlement_written {authority : OwnerAuthority} {run : AgentRunRecord}
    {session_state : JsonObject} {built_at : Datetime} {unit : UnitOfWork} {event : EventRecord}
    {version : String} {db db' : Tables}
    (hbuilt : build_root_settlement run session_state settlement built_at = .ok unit)
    (h : SessionCommit db authority (unit.val.stamped version) event db') :
    db'.agent_http_sessions.row authority.session_id
        = some ((settled_session session_state run.run_id settlement.outcome).set "runtime_version"
            (.str version))
      ∧ ∃ old, db.agent_runs.row run.run_id = some old
        ∧ db'.agent_runs.row run.run_id = some (stored_settled_run run old settlement built_at) := by
  simp only [build_root_settlement, check_bind_eq_ok] at hbuilt
  obtain ⟨-, -, hmade⟩ := hbuilt
  have hunit := UnitOfWork.make_eq_ok hmade
  obtain ⟨run_state, hresumed, hput⟩ := h.runs
  have hrun_state : run_state = some (settled_run run settlement built_at) := by
    rw [resumed_run_state, stamped, hunit] at hresumed
    exact (Except.ok.inj hresumed).symm
  subst hrun_state
  refine ⟨?_, ?_⟩
  · rw [h.sessions, Table.row_put_self, stamped, hunit]
  · -- the transaction has checked that the run is there
    have hsettled := h.unsettled
    rw [settled_root_replay, stamped, hunit] at hsettled
    simp only at hsettled
    cases hrow : db.agent_runs.row run.run_id with
    | none => simp [hrow] at hsettled
    | some old =>
      refine ⟨old, rfl, ?_⟩
      have hid : (settled_run run settlement built_at).run_id = run.run_id := rfl
      simp only [put_agent_run, hid, hrow, check_bind_eq_ok, pure_eq_ok] at hput
      obtain ⟨-, hruns⟩ := hput
      rw [← hruns, Table.row_put_self]
      rfl

/-- **One settlement changes only what it is meant to exactly when its reads still stand.** -/
theorem settlement_frame_step {authority : OwnerAuthority} {run : AgentRunRecord}
    {session_state : JsonObject} {built_at : Datetime} {unit : UnitOfWork}
    {stored : Option JsonObject} {new_sessions_enabled : Bool} {commit : AuthoritativeCommit}
    (hbuilt : build_root_settlement run session_state settlement built_at = .ok unit)
    (hfresh : commit.idempotent = false)
    (h : respond host clock store (.commit authority unit stored new_sessions_enabled)
      = (.ok commit, store')) :
    SettlesOnly authority.session_id run.run_id settlement store store'
      ↔ SessionReadStands authority.session_id session_state stored new_sessions_enabled store
        ∧ RunReadStands run (settlement.extra_metadata.getD []) store := by
  have hunit : unit.val.transition_id = none
      ∧ unit.val.session_state = settled_session session_state run.run_id settlement.outcome := by
    simp only [build_root_settlement, check_bind_eq_ok] at hbuilt
    rw [UnitOfWork.make_eq_ok hbuilt.2.2]
    exact ⟨rfl, rfl⟩
  rcases commit_access h with ⟨-, hreplay⟩ | ⟨_, event, version, -, -, -, -, hversion, hcommit⟩
  · rw [hreplay commit rfl hunit.1] at hfresh
    cases hfresh
  · rw [hunit.2, stamped_version_settled] at hversion
    obtain ⟨hsession, old_run, hold_run, hnew_run⟩ := settlement_written hbuilt hcommit
    constructor
    · rintro ⟨⟨old, new, hold, hnew, hsame⟩, ⟨old', new', hold', hnew', hsame'⟩⟩
      rw [hsession, Option.some.injEq] at hnew
      rw [hold_run, Option.some.injEq] at hold'
      rw [hnew_run, Option.some.injEq] at hnew'
      subst hnew hold' hnew'
      exact ⟨⟨old, hold, (settled_session_same_iff hversion).mp hsame⟩,
        ⟨old_run, hold_run, stored_settled_run_same_iff.mp hsame'⟩⟩
    · rintro ⟨⟨old, hold, hread⟩, ⟨old', hold', hread'⟩⟩
      rw [hold_run, Option.some.injEq] at hold'
      subst hold'
      exact ⟨⟨old, _, hold, hsession, (settled_session_same_iff hversion).mpr hread⟩,
        ⟨old_run, _, hold_run, hnew_run, stored_settled_run_same_iff.mpr hread'⟩⟩

/-- **In any run of the calls, a settlement loses no update exactly when what it read still
stands when it commits.** -/
theorem settlement_frame {start crew : SessionCrew} {events : List SessionEvent}
    (hidle : start.Idle) (hrun : Run (SessionStep host) start events crew) :
    ∀ event ∈ events, EventSettlesOnly event ↔ EventReadsStand event := by
  intro event hmem
  unfold EventSettlesOnly EventReadsStand
  split
  · next pid authority settlement history asked unit stored new_sessions_enabled commit before
      after =>
      obtain ⟨rfl, run, session_state, built_at, hbuilt, hhistory⟩ :=
        Crew.asked (settlements_as_built host) hidle hrun _ _ _ _ _ _ _ hmem
      obtain ⟨earlier, later, rfl⟩ := append_of_mem hmem
      obtain ⟨_, _, -, hstep, -⟩ := hrun.split
      cases hstep with
      | answered _ responds =>
        obtain ⟨clock, hrespond⟩ := responds
        refine forall_congr' (fun hfresh => ?_)
        have hstep := settlement_frame_step hbuilt hfresh hrespond
        subst hhistory
        simp only [settlement_reads, Option.some.injEq, Prod.mk.injEq]
        constructor
        · rintro ⟨_, _, ⟨rfl, rfl⟩, hsettles⟩
          exact ⟨_, _, ⟨rfl, rfl⟩, hstep.mp hsettles⟩
        · rintro ⟨_, _, ⟨rfl, rfl⟩, hreads⟩
          exact ⟨_, _, ⟨rfl, rfl⟩, hstep.mpr hreads⟩
  · rfl

/-! ## A save during a settlement -/

def sample_turn_store : SessionCrew where
  shared :=
    { tables :=
        { session_owners := (∅ : Table String SessionOwnerRecord).put "s" ⟨"worker", 1000, 1⟩
          session_tapes := (∅ : Table String String).put "s" "t"
          agent_http_sessions := (∅ : Table String JsonObject).put "s"
            [("id", .str "s"), ("runtime_version", .str RUNTIME_VERSION_LEGACY),
             ("topic", .str "before")]
          agent_runs := (∅ : Table String AgentRunRecord).put "r"
            { run_id := "r", session_id := "s", tape_id := some "t", parent_run_id := none
              agent_id := none, status := "running", started_at := 1 } } }
  callers _ := none

def sample_settlement : List (Crew.Input SessionCall Datetime) :=
  [.start 0 (.settle_root_run sample_owner { run_id := "r", outcome := "completed" }),
   .access 0 2, .access 0 2, .access 0 2]

def sample_settlement_commit : List (Crew.Input SessionCall Datetime) :=
  [.access 0 4, .access 0 4, .access 0 4]

def sample_topic_save : List (Crew.Input SessionCall Datetime) :=
  [.start 1 (.save_session sample_owner [("id", .str "s"), ("topic", .str "after")]), .access 1 3]

/-- Whether the event keeps a field of the session's payload, if it commits a settlement. -/
def keeps_field (key : String) : SessionEvent → Bool
  | .answered _ (.settle_root_run authority _) _ (.commit _ _ _ _) (.ok commit) before after =>
    commit.idempotent
      || (after.tables.agent_http_sessions.row authority.session_id).map (·.find key)
        = (before.tables.agent_http_sessions.row authority.session_id).map (·.find key)
  | _ => true

theorem EventSettlesOnly.keeps_field {event : SessionEvent} (h : EventSettlesOnly event)
    {key : String} (hkey : key ∉ turn_fields) : keeps_field key event = true := by
  unfold CodingAgentLoop.keeps_field
  split
  · next pid authority settlement history asked unit stored new_sessions_enabled commit before
      after =>
      cases hfresh : commit.idempotent with
      | true => rfl
      | false =>
        obtain ⟨_, _, -, ⟨old, new, hold, hnew, hsame⟩, -⟩ := h hfresh
        rw [hold, hnew, Option.map_some, Option.map_some, hsame key hkey]
        simp
  · rfl

def sample_overwriting : List (Crew.Input SessionCall Datetime) :=
  sample_settlement ++ sample_topic_save ++ sample_settlement_commit

theorem sample_topic_lost :
    (sample_calls sample_turn_store sample_overwriting).1.all (keeps_field "topic") = false := by
  decide +kernel

/-- What the sample settlement read does not stand when it commits. -/
theorem sample_reads_overtaken :
    ¬ ∀ event ∈ (sample_calls sample_turn_store sample_overwriting).1, EventReadsStand event := by
  intro hreads
  have hframe := @settlement_frame sample_session_host _ _ _ (fun _ => rfl)
    (Crew.play_run sample_turn_store sample_overwriting)
  have hkept : (sample_calls sample_turn_store sample_overwriting).1.all (keeps_field "topic")
      = true :=
    all_eq_true.mpr (fun event hmem =>
      EventSettlesOnly.keeps_field ((hframe event hmem).mpr (hreads event hmem)) (by decide))
  rw [sample_topic_lost] at hkept
  cases hkept

/-- **A save between the reads of a settlement and its commit is lost.** -/
theorem settlement_loses_save :
    ¬ ∀ (host : SessionHost) (start crew : SessionCrew) (events : List SessionEvent),
      start.Idle → Run (SessionStep host) start events crew →
        ∀ event ∈ events, EventSettlesOnly event := by
  intro hall
  have hsettles := hall sample_session_host sample_turn_store _ _ (fun _ => rfl)
    (Crew.play_run _ sample_overwriting)
  have hkept : (sample_calls sample_turn_store sample_overwriting).1.all (keeps_field "topic")
      = true :=
    all_eq_true.mpr (fun event hmem => (hsettles event hmem).keeps_field (by decide))
  rw [sample_topic_lost] at hkept
  cases hkept

end CodingAgentLoop
