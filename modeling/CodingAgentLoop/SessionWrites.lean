/-
What each access of a session call writes.

Of the tables, only three things matter to a session call: the session payloads, the
runs and the activation flag. Here every access is described by what it does to those:
a save and a restore write the payload, a legacy commit writes the payload and the run
of its unit (`SessionCommit`), `set_new_session_runtime_activation` writes the flag, and
everything else -- reads, replays, rejected calls and typed transitions -- leaves them
as they were (`OtherWrites`).
-/
import CodingAgentLoop.SessionCalls
import CodingAgentLoop.StoreSteps

open Lib Dialogue

namespace CodingAgentLoop

open Result

variable {host : SessionHost} {clock : Datetime} {store store' : DurableStore}

theorem OtherWrites.refl (store : DurableStore) : OtherWrites store store := ⟨rfl, rfl, rfl⟩

theorem OtherWrites.ensure_fact_source (db : Tables) (session_id : String)
    (tapes : Table String String) :
    OtherWrites { store with tables := db } { store with
      tables := Tables.ensure_fact_source { db with session_tapes := tapes } session_id } := by
  unfold Tables.ensure_fact_source
  split <;> exact ⟨rfl, rfl, rfl⟩

/-! ## Transactions -/

theorem transaction_cases {α : Type} {body : Except StoreError (DurableStore × α)}
    {answer : Except StoreError α} (h : store.transaction body = (answer, store')) :
    (∃ error, answer = .error error ∧ store' = store)
      ∨ ∃ result, answer = .ok result ∧ body = .ok (store', result) := by
  unfold DurableStore.transaction at h
  cases body with
  | error error =>
    cases h
    exact Or.inl ⟨error, rfl, rfl⟩
  | ok written =>
    cases h
    exact Or.inr ⟨_, rfl, rfl⟩

variable {authority : OwnerAuthority}

theorem save_access {payload : JsonObject} {answer : Except StoreError Unit}
    (h : respond host clock store (.save_session authority payload) = (answer, store')) :
    store' = store ∨ ∃ version,
      stamped_version payload (store.tables.agent_http_sessions.row authority.session_id)
          store.tables.new_sessions_enabled = .ok version
        ∧ store'.tables.agent_http_sessions = store.tables.agent_http_sessions.put
            authority.session_id (payload.set "runtime_version" (.str version))
        ∧ store'.tables.agent_runs = store.tables.agent_runs
        ∧ store'.tables.new_sessions_enabled = store.tables.new_sessions_enabled := by
  rcases transaction_cases h with ⟨_, -, hsame⟩ | ⟨_, -, hbody⟩
  · exact Or.inl hsame
  · simp only [save_session, bind_eq_ok, pure_eq_ok, Prod.mk.injEq] at hbody
    obtain ⟨tables, ⟨_, -, stamped, hstamped, bound, hbound, rfl⟩, rfl, -⟩ := hbody
    obtain ⟨version, hversion, rfl⟩ := stamp_eq_ok.mp hstamped
    obtain ⟨tapes, rfl⟩ := bind_session_tape_cases hbound
    exact Or.inr ⟨version, hversion, rfl, rfl, rfl⟩

theorem restore_access {snapshot : CheckpointSnapshot} {session_payload : JsonObject}
    {answer : Except StoreError Unit}
    (h : respond host clock store (.restore_checkpoint_state authority snapshot session_payload)
      = (answer, store')) :
    ((∃ error, answer = .error error) ∧ store' = store)
      ∨ answer = .ok () ∧ store'.tables = restored_tables host.started_after store.tables clock
          authority.session_id snapshot.info session_payload := by
  rcases transaction_cases h with ⟨error, hanswer, hsame⟩ | ⟨_, hanswer, hbody⟩
  · exact Or.inl ⟨⟨error, hanswer⟩, hsame⟩
  · simp only [bind_eq_ok, pure_eq_ok, Prod.mk.injEq] at hbody
    obtain ⟨restored, hrestored, rfl, -⟩ := hbody
    exact Or.inr ⟨hanswer, restore_eq_ok hrestored⟩

/-- A legacy unit committed now: what it wrote on the session, the runs and the flag. -/
structure SessionCommit (db : Tables) (authority : OwnerAuthority) (unit : AuthoritativeUnitOfWork)
    (event : EventRecord) (db' : Tables) : Prop where
  unsettled : settled_root_replay db authority.session_id unit event = .ok none
  sessions : db'.agent_http_sessions
    = db.agent_http_sessions.put authority.session_id unit.session_state
  runs : ∃ run_state, resumed_run_state db authority.session_id unit = .ok run_state
    ∧ put_agent_run db authority.session_id run_state = .ok db'.agent_runs
  activation : db'.new_sessions_enabled = db.new_sessions_enabled

/-- The unit with its payload stamped as `version`. -/
def AuthoritativeUnitOfWork.stamped (unit : AuthoritativeUnitOfWork) (version : String) :
    AuthoritativeUnitOfWork :=
  { unit with session_state := unit.session_state.set "runtime_version" (.str version) }

/-- A commit of a legacy unit writes it, stamped on what its call had read, or writes nothing
of the session; a commit of a typed unit never does. -/
theorem commit_access {unit : UnitOfWork} {stored : Option JsonObject}
    {new_sessions_enabled : Bool} {answer : Except StoreError AuthoritativeCommit}
    (h : respond host clock store (.commit authority unit stored new_sessions_enabled)
      = (answer, store')) :
    (OtherWrites store store' ∧ ∀ commit, answer = .ok commit → unit.val.transition_id = none →
        commit.idempotent = true)
      ∨ ∃ commit event version, answer = .ok commit ∧ commit.idempotent = false
        ∧ unit.val.transition_id = none ∧ unit.val.event = some event
        ∧ stamped_version unit.val.session_state stored new_sessions_enabled = .ok version
        ∧ SessionCommit store.tables authority (unit.val.stamped version) event store'.tables := by
  rcases transaction_cases h with ⟨error, rfl, rfl⟩ | ⟨commit, rfl, hbody⟩
  · refine Or.inl ⟨OtherWrites.refl _, ?_⟩
    intro commit hanswer
    cases hanswer
  · rw [bind_eq_ok] at hbody
    obtain ⟨⟨tables, made⟩, hcommit, hpure⟩ := hbody
    rw [pure_eq_ok, Prod.mk.injEq] at hpure
    obtain ⟨rfl, rfl⟩ := hpure
    cases htyped : unit.val.transition_id with
    | some transition_id =>
      refine Or.inl ⟨?_, fun _ _ hlegacy => by cases hlegacy⟩
      obtain ⟨_, _, -, -, -, hreplay | ⟨plan, receipt, -, hfresh⟩⟩ :=
        typed_commit_cases htyped hcommit
      · obtain ⟨-, -, rfl⟩ := hreplay
        exact OtherWrites.ensure_fact_source store.tables _ store.tables.session_tapes
      · obtain ⟨_, _, -, -, rfl⟩ := hfresh.tables
        exact ⟨rfl, rfl, rfl⟩
    | none =>
      simp only [commit_authoritative_uow, prepare_unit, bind_eq_ok, pure_eq_ok]
        at hcommit
      obtain ⟨_, ⟨_, -, payload, hstamped, _, -, _, -, _, -, rfl⟩, hcommit⟩ := hcommit
      obtain ⟨version, hversion, rfl⟩ := stamp_eq_ok.mp hstamped
      simp only [commit_prepared, htyped] at hcommit
      cases hevent : unit.val.event with
      | none => simp [hevent] at hcommit
      | some event =>
        rw [hevent] at hcommit
        rcases commit_legacy_written hcommit with
          ⟨hreplay, tapes, rfl⟩ | ⟨tapes, run_state, hsettled, hrun, hwritten⟩
        · refine Or.inl ⟨OtherWrites.ensure_fact_source store.tables _ tapes, ?_⟩
          rintro _ ⟨⟩ -
          exact hreplay
        · simp only [write_legacy, bind_eq_ok, pure_eq_ok, Prod.mk.injEq]
            at hwritten
          obtain ⟨events, -, runs, hruns, rfl, rfl⟩ := hwritten
          exact Or.inr ⟨_, event, version, rfl, rfl, rfl, rfl, hversion,
            hsettled, rfl, ⟨run_state, hrun, hruns⟩, rfl⟩

theorem check_chat_receipt_idle {db : Tables} {session_id : String} {event : EventRecord}
    {unit : AuthoritativeUnitOfWork} {receipt : OperationReceiptSlot}
    (hreceipt : chat_receipt unit = some receipt)
    (h : check_chat_receipt db session_id unit event = .ok none) :
    check_no_active_turn db session_id = .ok () := by
  simp only [check_chat_receipt, hreceipt, bind_eq_ok] at h
  obtain ⟨replay, -, h⟩ := h
  cases replay with
  | some replay => cases h
  | none =>
    rw [bind_eq_ok] at h
    obtain ⟨⟨⟩, hidle, -⟩ := h
    exact hidle

theorem commit_access_idle {unit : UnitOfWork} {stored : Option JsonObject}
    {new_sessions_enabled : Bool} {commit : AuthoritativeCommit} {receipt : OperationReceiptSlot}
    (h : respond host clock store (.commit authority unit stored new_sessions_enabled)
      = (.ok commit, store')) (hlegacy : unit.val.transition_id = none)
    (hreceipt : chat_receipt unit.val = some receipt) (hfresh : commit.idempotent = false) :
    check_no_active_turn store.tables authority.session_id = .ok () := by
  rcases transaction_cases h with ⟨error, hanswer, -⟩ | ⟨result, hanswer, hbody⟩
  · cases hanswer
  · cases hanswer
    rw [bind_eq_ok] at hbody
    obtain ⟨⟨tables, made⟩, hcommit, hpure⟩ := hbody
    rw [pure_eq_ok, Prod.mk.injEq] at hpure
    obtain ⟨-, rfl⟩ := hpure
    simp only [commit_authoritative_uow, prepare_unit, bind_eq_ok, pure_eq_ok]
      at hcommit
    obtain ⟨_, ⟨_, -, payload, -, _, -, _, -, _, -, rfl⟩, hcommit⟩ := hcommit
    simp only [commit_prepared, hlegacy] at hcommit
    cases hevent : unit.val.event with
    | none => simp [hevent] at hcommit
    | some event =>
      rw [hevent] at hcommit
      have hchecked := commit_legacy_checked hcommit hfresh
      exact check_chat_receipt_idle hreceipt hchecked

/-! ## What a call had read -/

/-- A commit is asked on the payload and the flag that its call was told, and a restore with
what its checks accepted. -/
def AskedAsTold (_call : SessionCall) (history : History SessionQuery SessionAnswer) :
    SessionQuery → Prop
  | .commit authority _ stored new_sessions_enabled =>
    ⟨.load_session authority.session_id, stored⟩ ∈ history
      ∧ ⟨.load_runtime_activation, new_sessions_enabled⟩ ∈ history
  | _ => True

theorem commit_uow_as_told (call : SessionCall) (authority : OwnerAuthority) (unit : UnitOfWork)
    (history : History SessionQuery SessionAnswer) :
    Meets (fun _ _ _ => True) (AskedAsTold call) (fun _ _ => True)
      (SessionTask.commit_authoritative_uow authority unit) history := by
  refine Meets.lift_bind (fun _ _ => ?_) (fun _ _ => trivial)
  refine Meets.await_bind trivial (fun stored _ => ?_)
  refine Meets.await_bind trivial (fun new_sessions_enabled _ => ?_)
  refine Meets.await_bind ⟨?_, ?_⟩ (fun answer _ => Meets.lift trivial)
  · simp
  · simp

/-- **Every call asks for its commit on what it was told.** -/
theorem session_calls_as_told (host : SessionHost) :
    Crew.Guarantees (SessionCall.body host) AskedAsTold := by
  intro call
  have hcommit := commit_uow_as_told call
  cases call with
  | save_session authority payload =>
    refine Meets.bind (Meets.lift_bind (fun _ _ => ?_) (fun _ _ => trivial))
    exact Meets.await_bind trivial (fun answer _ => Meets.lift (by cases answer <;> trivial))
  | commit_authoritative_uow authority unit =>
    exact Meets.bind ((hcommit authority unit []).imp
      (fun _ result _ => by cases result <;> trivial))
  | settle_root_run authority settlement =>
    refine Meets.bind (Meets.await_bind trivial (fun stored_run _ => ?_))
    refine Meets.lift_bind (fun run _ => ?_) (fun _ _ => trivial)
    refine Meets.await_bind trivial (fun stored_session _ => ?_)
    refine Meets.lift_bind (fun session_state _ => ?_) (fun _ _ => trivial)
    refine Meets.await_bind trivial (fun built_at _ => ?_)
    refine Meets.lift_bind (fun unit _ => ?_) (fun _ _ => trivial)
    exact (hcommit authority unit _).imp (fun _ result _ => by cases result <;> trivial)
  | admit_chat_command authority command =>
    refine Meets.bind (Meets.await_bind trivial (fun built_at _ => ?_))
    refine Meets.lift_bind (fun built _ => ?_) (fun _ _ => trivial)
    refine Meets.bind ((hcommit authority built.1 _).imp (fun _ result _ => ?_))
    cases result <;> trivial
  | restore_checkpoint_state authority snapshot session_payload =>
    refine Meets.bind (Meets.lift_bind (fun _ _ => ?_) (fun _ _ => trivial))
    exact Meets.await_bind trivial (fun answer _ => Meets.lift (by cases answer <;> trivial))
  | set_new_session_runtime_activation enabled =>
    exact ⟨trivial, fun _ _ => trivial⟩

end CodingAgentLoop
