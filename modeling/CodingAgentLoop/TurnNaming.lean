/-
Whether the stored payload of a session names its unsettled run.

An admission looks at the run that the stored payload names, and at no other. So the payload must
keep naming a run until it is settled. An admission writes the name of its run and a settlement
the name of the one it settles; a save and a chat event write the turn of the session object, as it
was when they took their payload. The invariant is about the payloads that were taken and not yet
written, and two conditions on the order of the calls keep it.
-/
import CodingAgentLoop.ChatManager
import CodingAgentLoop.RuntimeVersion

namespace CodingAgentLoop

open Lib ManagerTask EventLoop UnitOfWork JsonObject Result

/-! ## What a transaction does to the turn of a session -/

def stored_turn_id (db : Tables) (session_id : String) : Json :=
  match db.agent_http_sessions.row session_id with
  | none => .null
  | some payload => payload.get "turn_id"

def Unsettled (db : Tables) (session_id run_id : String) : Prop :=
  ∃ run, db.agent_runs.row run_id = some run ∧ run.session_id = session_id
    ∧ run.status ∉ settled_run_statuses

/-- An unsettled run is active, and the stored payload names it. -/
def TurnNamed (db : Tables) (session_id : String) : Prop :=
  ∀ run_id run, db.agent_runs.row run_id = some run → run.session_id = session_id →
    run.status ∉ settled_run_statuses →
    run.status ∈ active_run_statuses ∧ stored_turn_id db session_id = .str run_id

/-- A save or a chat event writes a payload with this turn. -/
structure WritesTurn (session_id : String) (turn_id : Option String) (db db' : Tables) : Prop where
  runs : db'.agent_runs = db.agent_runs
  named : stored_turn_id db' session_id = Json.of_str? turn_id

/-- An admission writes its run and names it, after it has looked at the stored turn. -/
structure AdmitsRun (session_id run_id : String) (db db' : Tables) : Prop where
  idle : check_no_active_turn db session_id = .ok ()
  runs : ∃ run, run.status = "requested" ∧ db'.agent_runs = db.agent_runs.put run_id run
  named : stored_turn_id db' session_id = .str run_id

/-- A settlement settles a run that is not, and names it. -/
structure SettlesRun (session_id run_id : String) (db db' : Tables) : Prop where
  unsettled : Unsettled db session_id run_id
  runs : ∃ run, run.status ∈ settled_run_statuses
    ∧ db'.agent_runs = db.agent_runs.put run_id run
  named : stored_turn_id db' session_id = .str run_id

section Transactions

variable {db db' : Tables} {session_id run_id : String}

theorem stored_turn_id_put {payload : JsonObject}
    (h : db'.agent_http_sessions = db.agent_http_sessions.put session_id payload) :
    stored_turn_id db' session_id = payload.get "turn_id" := by
  rw [stored_turn_id, h, Table.row_put_self]

theorem get_turn_id_stamped (payload : JsonObject) (version : Json) :
    (payload.set "runtime_version" version).get "turn_id" = payload.get "turn_id" :=
  get_set_of_ne payload version (by decide)

theorem turn_id_to_store_data (session : ChatSession) (session_id : String) :
    (session.to_store_data session_id).get "turn_id" = Json.of_str? session.current_turn_id := rfl

theorem TurnNamed.idle (h : TurnNamed db session_id)
    (hidle : check_no_active_turn db session_id = .ok ()) : ¬ Unsettled db session_id run_id := by
  rintro ⟨run, hrow, hsession, hstatus⟩
  obtain ⟨hactive, hnamed⟩ := h run_id run hrow hsession hstatus
  unfold stored_turn_id at hnamed
  unfold check_no_active_turn at hidle
  cases hstored : db.agent_http_sessions.row session_id with
  | none =>
    rw [hstored] at hnamed
    cases hnamed
  | some payload =>
    simp only [hstored] at hnamed hidle
    simp only [hnamed, hrow, raise_if_eq_ok] at hidle
    apply hidle
    intro found hfound
    rw [Option.mem_def, Option.filter_eq_some_iff] at hfound
    obtain ⟨hsame, -⟩ := hfound
    cases hsame
    exact hactive

theorem TurnNamed.same (h : TurnNamed db session_id)
    (hsessions : db'.agent_http_sessions = db.agent_http_sessions)
    (hruns : db'.agent_runs = db.agent_runs) : TurnNamed db' session_id := by
  unfold TurnNamed stored_turn_id at h ⊢
  rw [hsessions, hruns]
  exact h

theorem TurnNamed.written (h : TurnNamed db session_id) {turn_id : Option String}
    (hwrites : WritesTurn session_id turn_id db db')
    (hfits : ∀ run_id, Unsettled db session_id run_id → turn_id = some run_id) :
    TurnNamed db' session_id := by
  intro run_id run hrow hsession hstatus
  rw [hwrites.runs] at hrow
  obtain ⟨hactive, -⟩ := h run_id run hrow hsession hstatus
  refine ⟨hactive, ?_⟩
  rw [hwrites.named, hfits run_id ⟨run, hrow, hsession, hstatus⟩]
  rfl

theorem TurnNamed.admitted (h : TurnNamed db session_id)
    (hadmits : AdmitsRun session_id run_id db db') : TurnNamed db' session_id := by
  obtain ⟨admitted, hrequested, hruns⟩ := hadmits.runs
  intro other run hrow hsession hstatus
  rw [hruns, Table.row_put] at hrow
  by_cases heq : other = run_id
  · rw [if_pos heq] at hrow
    cases hrow
    rw [hrequested, heq]
    exact ⟨by decide, hadmits.named⟩
  · rw [if_neg heq] at hrow
    exact absurd ⟨run, hrow, hsession, hstatus⟩ (h.idle hadmits.idle)

theorem SettlesRun.unsettled_of (hsettles : SettlesRun session_id run_id db db') {other : String}
    (hother : Unsettled db' session_id other) :
    other ≠ run_id ∧ Unsettled db session_id other := by
  obtain ⟨settled, hstatus, hruns⟩ := hsettles.runs
  obtain ⟨run, hrow, hsession, hunsettled⟩ := hother
  rw [hruns, Table.row_put] at hrow
  by_cases heq : other = run_id
  · rw [if_pos heq] at hrow
    cases hrow
    exact absurd hstatus hunsettled
  · rw [if_neg heq] at hrow
    exact ⟨heq, run, hrow, hsession, hunsettled⟩

theorem TurnNamed.settled (h : TurnNamed db session_id)
    (hsettles : SettlesRun session_id run_id db db') : TurnNamed db' session_id := by
  intro other run hrow hsession hstatus
  obtain ⟨hne, found, hfound, hof, hunsettled⟩ :=
    hsettles.unsettled_of ⟨run, hrow, hsession, hstatus⟩
  obtain ⟨-, hother⟩ := h other found hfound hof hunsettled
  obtain ⟨settling, hsettling, hits, hbefore⟩ := hsettles.unsettled
  obtain ⟨-, hnamed⟩ := h run_id settling hsettling hits hbefore
  rw [hnamed] at hother
  cases hother
  exact absurd rfl hne

end Transactions

/-! ## The transactions of the calls -/

section Accesses

variable {host : SessionHost} {clock : Datetime} {store store' : DurableStore}
  {authority : OwnerAuthority} {unit : UnitOfWork} {stored : Option JsonObject}
  {new_sessions_enabled : Bool}

theorem save_turn {payload : JsonObject} {turn_id : Option String} {answer : Except StoreError Unit}
    (h : respond host clock store (.save_session authority payload) = (answer, store'))
    (hturn : payload.get "turn_id" = Json.of_str? turn_id) :
    OtherWrites store store' ∨ WritesTurn authority.session_id turn_id store.tables store'.tables := by
  rcases save_access h with rfl | ⟨version, -, hsessions, hruns, -⟩
  · exact .inl (OtherWrites.refl _)
  · refine .inr ⟨hruns, ?_⟩
    rw [stored_turn_id_put hsessions, get_turn_id_stamped, hturn]

variable {answer : Except StoreError AuthoritativeCommit}

theorem chat_event_turn {turn_id : Option String}
    (h : respond host clock store (.commit authority unit stored new_sessions_enabled)
      = (answer, store')) (hrun : unit.val.run_state = none)
    (hparent : unit.val.require_settled_parent_run_id = none)
    (hturn : unit.val.session_state.get "turn_id" = Json.of_str? turn_id) :
    OtherWrites store store' ∨ WritesTurn authority.session_id turn_id store.tables store'.tables := by
  rcases commit_access h with ⟨hother, -⟩ | ⟨_, _, version, -, -, -, -, -, hcommit⟩
  · exact .inl hother
  · obtain ⟨run_state, hresumed, hput⟩ := hcommit.runs
    rw [resumed_run_state, AuthoritativeUnitOfWork.stamped, hparent, hrun] at hresumed
    cases hresumed
    refine .inr ⟨(Except.ok.inj hput).symm, ?_⟩
    rw [stored_turn_id_put hcommit.sessions, AuthoritativeUnitOfWork.stamped, get_turn_id_stamped,
      hturn]

variable {run : AgentRunRecord}

theorem put_agent_run_status {db : Tables} {session_id : String}
    {runs : Table String AgentRunRecord} (h : put_agent_run db session_id (some run) = .ok runs) :
    ∃ written : AgentRunRecord, written.status = run.status
      ∧ runs = db.agent_runs.put run.run_id written := by
  unfold put_agent_run at h
  cases hrow : db.agent_runs.row run.run_id with
  | none =>
    simp only [hrow] at h
    exact ⟨run, rfl, (Except.ok.inj h).symm⟩
  | some existing =>
    simp only [hrow, check_bind_eq_ok, pure_eq_ok] at h
    obtain ⟨-, hruns⟩ := h
    refine ⟨_, ?_, hruns.symm⟩
    rfl

theorem settlement_turn {session_state : JsonObject} {settlement : RootSettlement}
    {built_at : Datetime}
    (hbuilt : build_root_settlement run session_state settlement built_at = .ok unit)
    (h : respond host clock store (.commit authority unit stored new_sessions_enabled)
      = (answer, store')) :
    OtherWrites store store'
      ∨ SettlesRun authority.session_id run.run_id store.tables store'.tables := by
  rcases commit_access h with ⟨hother, -⟩ | ⟨_, event, version, -, -, -, -, -, hcommit⟩
  · exact .inl hother
  · simp only [build_root_settlement, check_bind_eq_ok] at hbuilt
    obtain ⟨houtcome, -, hmade⟩ := hbuilt
    have hunit := make_eq_ok hmade
    refine .inr { unsettled := ?_, runs := ?_, named := ?_ }
    · have hsettled := hcommit.unsettled
      rw [settled_root_replay, AuthoritativeUnitOfWork.stamped, hunit] at hsettled
      simp only at hsettled
      cases hrow : store.tables.agent_runs.row run.run_id with
      | none => simp [hrow] at hsettled
      | some found =>
        simp only [hrow, check_bind_eq_ok] at hsettled
        obtain ⟨hsession, hsettled⟩ := hsettled
        refine ⟨found, hrow, not_not.mp (raise_if_eq_ok.mp hsession), ?_⟩
        intro hstatus
        rw [if_neg (not_not.mpr hstatus)] at hsettled
        simp only [check_bind_eq_ok] at hsettled
        obtain ⟨-, hsettled⟩ := hsettled
        split at hsettled
        · cases hsettled
        · simp only [check_bind_eq_ok] at hsettled
          cases hsettled.2
    · obtain ⟨run_state, hresumed, hput⟩ := hcommit.runs
      rw [resumed_run_state, AuthoritativeUnitOfWork.stamped, hunit] at hresumed
      cases hresumed
      obtain ⟨written, hstatus, hruns⟩ := put_agent_run_status hput
      exact ⟨written, by rw [hstatus]; exact not_not.mp (raise_if_eq_ok.mp houtcome), hruns⟩
    · rw [stored_turn_id_put hcommit.sessions, AuthoritativeUnitOfWork.stamped, hunit,
        get_turn_id_stamped]
      simp [settled_session, get_set_of_ne, get_set_self]

theorem resumed_run_requested {db : Tables} {session_id : String} {unit : AuthoritativeUnitOfWork}
    {run_state : Option AgentRunRecord} (hrun : unit.run_state = some run)
    (h : resumed_run_state db session_id unit = .ok run_state) :
    ∃ resumed : AgentRunRecord, run_state = some resumed ∧ resumed.run_id = run.run_id
      ∧ resumed.status = run.status := by
  unfold resumed_run_state at h
  split at h
  · cases h
    exact ⟨run, hrun, rfl, rfl⟩
  · split at h
    · cases h
    · simp only [hrun, check_bind_eq_ok] at h
      obtain ⟨-, h⟩ := h
      simp only [bind_eq_ok, pure_eq_ok] at h
      obtain ⟨_, -, rfl⟩ := h
      exact ⟨_, rfl, rfl, rfl⟩

theorem admission_turn {command : ChatCommand} {admission : ChatCommandAdmission}
    {built_at : Datetime}
    (hbuilt : build_chat_admission host authority.session_id command built_at
      = .ok (unit, admission))
    (h : respond host clock store (.commit authority unit stored new_sessions_enabled)
      = (answer, store')) :
    (OtherWrites store store' ∧ ∀ commit, answer = .ok commit → commit.idempotent = true)
      ∨ (∃ commit, answer = .ok commit ∧ commit.idempotent = false)
        ∧ AdmitsRun authority.session_id admission.run_id store.tables store'.tables := by
  simp only [build_chat_admission, bind_eq_ok, pure_eq_ok, Prod.mk.injEq] at hbuilt
  obtain ⟨_, -, _, -, _, -, tape_id, -, _, -, made, hmade, rfl, rfl⟩ := hbuilt
  have hunit := make_eq_ok hmade
  have hlegacy : made.val.transition_id = none := by rw [hunit]; rfl
  rcases commit_access h with ⟨hother, hreplay⟩ | ⟨commit, event, version, rfl, hfresh, -, -, -, hcommit⟩
  · exact .inl ⟨hother, fun commit hanswer => hreplay commit hanswer hlegacy⟩
  · refine .inr ⟨⟨commit, rfl, hfresh⟩, { idle := ?_, runs := ?_, named := ?_ }⟩
    · have hreceipt : ∃ receipt, chat_receipt made.val = some receipt := by
        rw [hunit]
        refine ⟨_, Option.filter_eq_some_iff.mpr ⟨rfl, ?_⟩⟩
        rw [String.isPrefixOf]
        simp
      obtain ⟨receipt, hreceipt⟩ := hreceipt
      exact commit_access_idle h hlegacy hreceipt hfresh
    · obtain ⟨run_state, hresumed, hput⟩ := hcommit.runs
      have hrun : (made.val.stamped version).run_state
          = (chat_admission_unit authority.session_id
              (host.chat_run_id authority.session_id command.command_id) tape_id command
              built_at).run_state := by
        rw [AuthoritativeUnitOfWork.stamped, hunit]
      obtain ⟨resumed, rfl, hid, hstatus⟩ := resumed_run_requested hrun hresumed
      obtain ⟨written, hwritten, hruns⟩ := put_agent_run_status hput
      rw [hid] at hruns
      exact ⟨written, hwritten.trans hstatus, hruns⟩
    · rw [stored_turn_id_put hcommit.sessions, AuthoritativeUnitOfWork.stamped, hunit,
        get_turn_id_stamped]
      simp [chat_admission_unit, get_set_of_ne, get_set_self]

end Accesses

/-! ## Where a call stands -/

/-- A call that has taken a payload and not yet written it carries the turn of it. -/
inductive TurnPlace where
  | away
  | carrying (turn_id : Option String)

abbrev ManagerGiven : Type := Option ((query : ManagerQuery) × query.Answer)

/-- The await is one of a save or of a chat event: a payload is taken and not yet written. -/
def ManagerQuery.carries : ManagerQuery → Bool
  | .store .save_session _ => true
  | .store .commit_authoritative_uow _ => true
  | _ => false

def takes_payload (call : ManagerCall) : ManagerGiven → Bool
  | none => match call with
    | .persist_session_async => true
    | _ => false
  | some ⟨.build_runtime, .ok _⟩ => true
  | some ⟨.projection_epoch, .ok _⟩ => true
  | _ => false

/-- The segment begins with the transaction of an admission that accepts its command. -/
def accepts_admission : ManagerGiven → Bool
  | some ⟨.store .admit_chat_command (.commit _ _ _ _), .ok commit⟩ => !commit.idempotent
  | _ => false

def SessionQuery.reads : SessionQuery → Bool
  | .now => true
  | .load_agent_run _ => true
  | .load_session _ => true
  | .load_runtime_activation => true
  | _ => false

theorem reads_same {host : SessionHost} {clock : Datetime} {store : DurableStore}
    {query : SessionQuery} (h : query.reads = true) : (respond host clock store query).2 = store := by
  cases query with
  | now => rfl
  | load_agent_run => rfl
  | load_session => rfl
  | load_runtime_activation => rfl
  | _ => cases h

theorem reads_rejects {method : StoreMethod} {query : SessionQuery} {answer : SessionAnswer query}
    (h : query.reads = true) : accepts_admission (some ⟨.store method query, answer⟩) = false := by
  cases query with
  | commit => cases h
  | _ => cases method <;> rfl

/-- What one segment of a call does to its place, to the session's payload and to the runs. -/
inductive TurnMove {session_id : String} (call : ManagerCall) (given : ManagerGiven) :
    TurnPlace → ChatManager session_id → TurnPlace → ChatManager session_id → Prop
  | quiet {place : TurnPlace} {manager manager' : ChatManager session_id}
      (writes : OtherWrites manager.store manager'.store)
      (rejects : accepts_admission given = false) : TurnMove call given place manager .away manager'
  | reads {turn_id : Option String} {manager manager' : ChatManager session_id}
      (writes : OtherWrites manager.store manager'.store)
      (rejects : accepts_admission given = false) :
      TurnMove call given (.carrying turn_id) manager (.carrying turn_id) manager'
  | takes {manager manager' : ChatManager session_id}
      (writes : OtherWrites manager.store manager'.store)
      (rejects : accepts_admission given = false) (taken : takes_payload call given = true) :
      TurnMove call given .away manager (.carrying manager.session.current_turn_id) manager'
  | writes {turn_id : Option String} {manager manager' : ChatManager session_id}
      (written : WritesTurn session_id turn_id manager.store.tables manager'.store.tables)
      (rejects : accepts_admission given = false) :
      TurnMove call given (.carrying turn_id) manager .away manager'
  | admits {run_id : String} {manager manager' : ChatManager session_id}
      (admitted : AdmitsRun session_id run_id manager.store.tables manager'.store.tables)
      (accepted : accepts_admission given = true) : TurnMove call given .away manager .away manager'
  | settles {run_id : String} {manager manager' : ChatManager session_id}
      (settled : SettlesRun session_id run_id manager.store.tables manager'.store.tables)
      (rejects : accepts_admission given = false) : TurnMove call given .away manager .away manager'

def TurnAwaits (place : TurnPlace) (query : ManagerQuery) : Prop :=
  (∃ turn_id, place = .carrying turn_id) ↔ query.carries = true

def turn_outline (host : SessionHost) (session_id : String) :
    Outline ManagerCall TurnPlace (ChatManager session_id) ManagerQuery ManagerQuery.Answer StoreError
      Unit where
  knows := fun _ _ => True
  answers := ManagerAnswers host
  moves := fun call opening place manager =>
    TurnMove call opening.given opening.state opening.memory place manager
  asks := fun _ => TurnAwaits
  ends := fun _ place _ => place = .away

/-! ## What a call does, segment by segment -/

section Segments

variable {host : SessionHost} {session_id : String} {call : ManagerCall} {α β : Type}
  {opening : Opening TurnPlace (ChatManager session_id) ManagerQuery ManagerQuery.Answer}
  {manager : ChatManager session_id}

/-- Nothing has happened yet in the segment. -/
structure Still (opening : Opening TurnPlace (ChatManager session_id) ManagerQuery ManagerQuery.Answer)
    (manager : ChatManager session_id) : Prop where
  away : opening.state = .away
  writes : OtherWrites opening.memory.store manager.store
  rejects : accepts_admission opening.given = false

theorem Still.quiet (h : Still opening manager) :
    TurnMove call opening.given opening.state opening.memory .away manager :=
  .quiet h.writes h.rejects

theorem Still.change (h : Still opening manager) {manager' : ChatManager session_id}
    (hstore : manager'.store = manager.store) : Still opening manager' :=
  ⟨h.away, hstore ▸ h.writes, h.rejects⟩

abbrev OwedStill (post : Except StoreError α →
    Opening TurnPlace (ChatManager session_id) ManagerQuery ManagerQuery.Answer →
      ChatManager session_id → Prop) : Prop :=
  ∀ result opening manager, Still opening manager → post result opening manager

theorem owed_over (call : ManagerCall) :
    OwedStill (Coroutine.Over (turn_outline host session_id) call) :=
  fun _ _ _ h => ⟨.away, h.quiet, rfl⟩

variable (host call) in
/-- Code that makes moves of the outline and ends where nothing has happened yet. -/
def Clean (code : ManagerTask session_id α)
    (opening : Opening TurnPlace (ChatManager session_id) ManagerQuery ManagerQuery.Answer)
    (manager : ChatManager session_id) : Prop :=
  ∀ post, OwedStill post → Coroutine.Meets (turn_outline host session_id) call post code opening manager

variable {first : ManagerTask session_id α} {next : α → ManagerTask session_id β}

theorem Clean.bind (h : Clean host call first opening manager)
    (hnext : ∀ value opening manager, Still opening manager →
      Clean host call (next value) opening manager) :
    Clean host call (first >>= next) opening manager := by
  intro post hpost
  refine Coroutine.Meets.bind (h _ ?_)
  intro result opening manager hstill
  cases result with
  | error error => exact hpost _ _ _ hstill
  | ok value => exact hnext value _ _ hstill post hpost

theorem Still.clean_fail (h : Still opening manager) (error : StoreError) :
    Clean host call (.fail error : ManagerTask session_id α) opening manager :=
  fun _ hpost => hpost _ _ _ h

theorem Still.clean_pure (h : Still opening manager) (value : α) :
    Clean host call (pure value : ManagerTask session_id α) opening manager :=
  fun _ hpost => hpost _ _ _ h

theorem Still.clean_lift (h : Still opening manager) (result : Except StoreError α) :
    Clean host call (Coroutine.lift result : ManagerTask session_id α) opening manager :=
  fun _ hpost => Coroutine.Meets.lift (hpost _ _ _ h)

theorem still_after (query : ManagerQuery) (answer : query.Answer) (manager : ChatManager session_id)
    (h : accepts_admission (some ⟨query, answer⟩) = false) :
    Still ⟨some ⟨query, answer⟩, .away, manager⟩ manager :=
  ⟨rfl, OtherWrites.refl _, h⟩

variable {query : ManagerQuery}

theorem awaits_away (h : query.carries = false) : TurnAwaits .away query := by
  constructor
  · rintro ⟨turn_id, hplace⟩
    cases hplace
  · intro hcarries
    rw [h] at hcarries
    cases hcarries

def ManagerQuery.leaves : ManagerQuery → Bool
  | .store _ _ => false
  | _ => true

theorem leaves_same {answer : query.Answer} {before after : ChatManager session_id}
    (h : query.leaves = true) (hanswer : ManagerAnswers host before query answer after) :
    after = before := by
  cases query with
  | store method query => cases h
  | _ => exact hanswer

theorem clean_awaited {next : query.Answer → ManagerTask session_id β}
    (hmove : TurnMove call opening.given opening.state opening.memory .away manager)
    (hleaves : query.leaves = true)
    (hnext : ∀ answer manager, Still ⟨some ⟨query, answer⟩, .away, manager⟩ manager →
      Clean host call (next answer) ⟨some ⟨query, answer⟩, .away, manager⟩ manager) :
    Clean host call (ManagerTask.awaited query >>= next) opening manager := by
  intro post hpost
  have hcarries : query.carries = false := by
    cases query with
    | store method query => cases hleaves
    | _ => rfl
  refine ⟨.away, hmove, awaits_away hcarries, ?_⟩
  intro answer before after _ hanswer
  have hsame := leaves_same hleaves hanswer
  subst hsame
  have hrejects : accepts_admission (some ⟨query, answer⟩) = false := by
    cases query with
    | store method query => cases hleaves
    | _ => rfl
  exact hnext answer after (still_after query answer after hrejects) post hpost

variable {method : StoreMethod}

theorem clean_returned {result : Except StoreError β}
    (hmove : TurnMove call opening.given opening.state opening.memory .away manager) :
    Clean host call (do
      let _ ← ManagerTask.awaited (.returned method)
      Coroutine.lift result) opening manager :=
  clean_awaited hmove rfl (fun _ _ hstill => hstill.clean_lift result)

theorem clean_read {query : SessionQuery} {place : TurnPlace}
    {resume : SessionAnswer query → ManagerTask session_id β} (hreads : query.reads = true)
    (hmove : TurnMove call opening.given opening.state opening.memory place manager)
    (hasks : TurnAwaits place (.store method query))
    (hresume : ∀ answer manager,
      Clean host call (resume answer) ⟨some ⟨.store method query, answer⟩, place, manager⟩ manager) :
    Clean host call (.await (.store method query) resume) opening manager := by
  intro post hpost
  refine ⟨place, hmove, hasks, ?_⟩
  rintro answer before after - ⟨clock, store, hrespond, rfl⟩
  have hsame : (respond host clock before.store query).2 = before.store := reads_same hreads
  rw [hrespond] at hsame
  subst hsame
  exact hresume answer before post hpost

section StoreCalls

variable {γ δ : Type} {method : StoreMethod} {next : Except StoreError δ → ManagerTask session_id β}

theorem clean_attempt_lift {result : Except StoreError γ} {rest : γ → SessionTask δ}
    (hfailed : ∀ error, Clean host call (next (.error error)) opening manager)
    (hrest : ∀ value, result = .ok value → Clean host call
      (Coroutine.attempt (.store method) (fun _ answer => answer) (rest value) >>= next) opening
      manager) :
    Clean host call (Coroutine.attempt (.store method) (fun _ answer => answer)
      (Dialogue.lift result >>= rest) >>= next) opening manager := by
  cases result with
  | error error => exact hfailed error
  | ok value => exact hrest value rfl

theorem clean_attempt_read {query : SessionQuery} {rest : SessionAnswer query → SessionTask δ}
    (hreads : query.reads = true) (hcarries : ∀ query, (ManagerQuery.store method query).carries = false)
    (hstill : Still opening manager)
    (hrest : ∀ answer opening manager, Still opening manager → Clean host call
      (Coroutine.attempt (.store method) (fun _ answer => answer) (rest answer) >>= next) opening
      manager) :
    Clean host call (Coroutine.attempt (.store method) (fun _ answer => answer)
      (Dialogue.await query >>= rest) >>= next) opening manager :=
  clean_read hreads hstill.quiet (awaits_away (hcarries query)) (fun answer manager =>
    hrest answer _ _ (still_after _ answer manager (reads_rejects hreads)))

end StoreCalls

variable {authority : OwnerAuthority}

theorem clean_commit_uow {unit : UnitOfWork} {place : TurnPlace}
    {next : Except StoreError AuthoritativeCommit → ManagerTask session_id β}
    (hasks : ∀ query, TurnAwaits place (.store method query))
    (hmove : TurnMove call opening.given opening.state opening.memory place manager)
    (hstays : ∀ given (manager : ChatManager session_id), accepts_admission given = false →
      TurnMove call given place manager place manager)
    (hfailed : ∀ error, Clean host call (next (.error error)) opening manager)
    (hnext : ∀ stored new_sessions_enabled clock (before : ChatManager session_id) answer store,
      respond host clock before.store (.commit authority unit stored new_sessions_enabled)
        = (answer, store) →
      Clean host call (next answer)
        ⟨some ⟨.store method (.commit authority unit stored new_sessions_enabled), answer⟩, place,
          before⟩ (before.put_store store)) :
    Clean host call
      (Coroutine.attempt (.store method) (fun _ answer => answer)
        (SessionTask.commit_authoritative_uow authority unit) >>= next) opening manager := by
  unfold SessionTask.commit_authoritative_uow
  cases check_session_state authority.session_id unit.val.session_state with
  | error error => exact hfailed error
  | ok _ =>
    refine clean_read rfl hmove (hasks _) (fun stored manager => ?_)
    refine clean_read rfl (hstays _ _ (reads_rejects rfl)) (hasks _) (fun enabled manager => ?_)
    intro post hpost
    refine ⟨place, hstays _ _ (reads_rejects rfl), hasks _, ?_⟩
    rintro answer before after - ⟨clock, store, hrespond, rfl⟩
    have hclean := hnext stored enabled clock before answer store hrespond post hpost
    cases answer with
    | error error => exact hclean
    | ok commit => exact hclean

theorem clean_owner_authority {message : String} {next : OwnerAuthority → ManagerTask session_id β}
    (hstill : Still opening manager)
    (hnext : ∀ authority, authority.session_id = session_id →
      Clean host call (next authority) opening manager) :
    Clean host call (ManagerTask.owner_authority message >>= next) opening manager := by
  show Clean host call
    (held_authority message manager.owner_authority >>= next) opening manager
  cases manager.owner_authority with
  | none => exact hstill.clean_fail _
  | some authority => exact hnext authority.val authority.property

/-! ### Saves and chat events -/

theorem takes_turn (hstill : Still opening manager)
    (htaken : takes_payload call opening.given = true)
    (hturn : manager.session.current_turn_id = opening.memory.session.current_turn_id) :
    TurnMove call opening.given opening.state opening.memory
      (.carrying manager.session.current_turn_id) manager := by
  obtain ⟨given, place, memory⟩ := opening
  obtain ⟨haway, hwrites, hrejects⟩ := hstill
  subst haway
  rw [hturn]
  exact .takes hwrites hrejects htaken

variable {payload : JsonObject}

theorem clean_save {turn_id : Option String} (hsession : authority.session_id = session_id)
    (hturn : payload.get "turn_id" = Json.of_str? turn_id) (hstill : Still opening manager)
    (htakes : TurnMove call opening.given opening.state opening.memory (.carrying turn_id) manager) :
    Clean host call
      (call_store .save_session (SessionTask.save_session authority payload)) opening
      manager := by
  unfold call_store SessionTask.save_session
  cases check_session_state authority.session_id payload with
  | error error => exact clean_returned hstill.quiet
  | ok _ =>
    intro post hpost
    refine ⟨.carrying turn_id, htakes, ⟨fun _ => rfl, fun _ => ⟨turn_id, rfl⟩⟩, ?_⟩
    rintro answer before after - ⟨clock, store, hrespond, rfl⟩
    have hmove : TurnMove call (some ⟨.store .save_session (.save_session authority payload), answer⟩)
        (.carrying turn_id) before .away (before.put_store store) := by
      rcases save_turn hrespond hturn with hother | hwrites
      · exact .quiet hother rfl
      · rw [hsession] at hwrites
        exact .writes hwrites rfl
    cases answer with
    | error error => exact clean_returned hmove post hpost
    | ok _ => exact clean_returned hmove post hpost

theorem clean_persist_session (hstill : Still opening manager)
    (htaken : takes_payload call opening.given = true)
    (hturn : manager.session.current_turn_id = opening.memory.session.current_turn_id) :
    Clean host call ManagerTask.persist_session_async opening manager :=
  clean_owner_authority hstill (fun _ hsession =>
    clean_save hsession (turn_id_to_store_data _ _) hstill (takes_turn hstill htaken hturn))

theorem clean_ensure_session_runtime (hstill : Still opening manager) :
    Clean host call ensure_session_runtime opening manager := by
  refine clean_awaited hstill.quiet rfl (fun owner manager howner => ?_)
  refine (howner.clean_lift owner).bind (fun _ opening manager hstill => ?_)
  show Clean host call (if manager.session.runtime_attached then _ else _) opening manager
  split
  · exact hstill.clean_pure ()
  · refine clean_awaited hstill.quiet rfl (fun built manager hbuilt => ?_)
    rcases built with error | tape_id
    · exact hbuilt.clean_fail error
    · exact clean_persist_session (hbuilt.change rfl) rfl rfl

theorem clean_commit_chat_event {event_kind run_id : String} {stamp : ChatStamp}
    (hsession : authority.session_id = session_id) (hstill : Still opening manager)
    (htaken : takes_payload call opening.given = true)
    (hturn : manager.session.current_turn_id = opening.memory.session.current_turn_id) :
    Clean host call
      (commit_chat_event authority event_kind payload run_id stamp) opening manager := by
  show Clean host call (Coroutine.lift (make
    (chat_event_unit session_id manager.session event_kind payload run_id stamp)) >>= _)
    opening manager
  cases hmade : make
      (chat_event_unit session_id manager.session event_kind payload run_id stamp) with
  | error error => exact hstill.clean_fail error
  | ok unit =>
    have hunit := make_eq_ok hmade
    have hasks : ∀ query, TurnAwaits (.carrying manager.session.current_turn_id)
        (.store .commit_authoritative_uow query) := fun _ => ⟨fun _ => rfl, fun _ => ⟨_, rfl⟩⟩
    suffices hcall : Clean host call (call_store .commit_authoritative_uow
        (SessionTask.commit_authoritative_uow authority unit)) opening manager from
      hcall.bind (fun _ _ _ h => h.clean_pure true)
    refine clean_commit_uow hasks (takes_turn hstill htaken hturn)
      (fun _ _ hrejects => .reads (OtherWrites.refl _) hrejects)
      (fun error => clean_returned hstill.quiet) ?_
    intro stored enabled clock before answer store hrespond
    refine clean_returned ?_
    rcases chat_event_turn hrespond (by rw [hunit]; rfl) (by rw [hunit]; rfl)
      (by rw [hunit]; exact turn_id_to_store_data _ _) with hother | hwrites
    · exact .quiet hother rfl
    · rw [hsession] at hwrites
      exact .writes hwrites rfl

theorem clean_publish (hstill : Still opening manager) :
    Clean host call publish_chat_commit opening manager :=
  clean_awaited hstill.quiet rfl (fun published _ h => h.clean_lift published)

theorem clean_commit_and_publish {event_kind run_id : String} (hstill : Still opening manager) :
    Clean host call (commit_and_publish_chat_event event_kind payload run_id) opening
      manager := by
  refine clean_owner_authority hstill (fun authority hsession => ?_)
  refine clean_awaited hstill.quiet rfl (fun stamped manager hstamped => ?_)
  rcases stamped with error | stamp
  · exact hstamped.clean_fail error
  have hcommit : Clean host call
      ((commit_chat_event authority event_kind payload run_id stamp).handle
        unless_settled)
      ⟨some ⟨.projection_epoch, .ok stamp⟩, .away, manager⟩ manager := by
    intro post hpost
    refine Coroutine.Meets.handle (clean_commit_chat_event hsession hstamped rfl rfl _ ?_)
    intro result opening manager h
    cases result with
    | ok committed => exact hpost _ _ _ h
    | error error =>
      show Coroutine.Meets _ _ _ (unless_settled error) opening manager
      unfold unless_settled
      split
      · exact hpost _ _ _ h
      · exact hpost _ _ _ h
  refine hcommit.bind (fun committed opening manager h => ?_)
  cases committed with
  | true => exact clean_publish h
  | false => exact h.clean_pure ()

theorem clean_flush (hstill : Still opening manager) :
    Clean host call flush_chat_assistant_buffer opening manager := by
  have hcleared : Still opening (manager.put_buffer none) := hstill.change rfl
  show Clean host call (flush_buffered manager.chat_assistant_buffer) opening
    (manager.put_buffer none)
  unfold flush_buffered
  split
  · exact hcleared.clean_pure ()
  · split
    · exact hcleared.clean_pure ()
    · exact clean_commit_and_publish hcleared

theorem clean_buffer_piece {run_id content : String} (hstill : Still opening manager) :
    Clean host call (buffer_piece run_id content) opening manager :=
  fun _ hpost => hpost _ _ _ (hstill.change rfl)

theorem clean_persist_wire_message {message : ChatWireMessage} (hstill : Still opening manager) :
    Clean host call (ManagerTask.persist_chat_wire_message message) opening manager := by
  show Clean host call (persist_in_turn message manager.session.current_turn_id) opening
    manager
  unfold persist_in_turn
  split
  · exact hstill.clean_pure ()
  · unfold persist_message
    split
    · show Clean host call (if _ then _ else _) opening manager
      split
      · exact (clean_flush hstill).bind (fun _ _ _ h => clean_buffer_piece h)
      · exact clean_buffer_piece hstill
    · refine (clean_flush hstill).bind (fun _ opening manager h => ?_)
      unfold persist_chat_event
      split
      · exact h.clean_pure ()
      · exact clean_commit_and_publish h

/-! ### Settlements and admissions -/

theorem clean_settle_root_run {settlement : RootSettlement} (hstill : Still opening manager) :
    Clean host call (ManagerTask.settle_root_run settlement) opening manager := by
  refine clean_owner_authority hstill (fun authority hsession => ?_)
  refine (clean_flush hstill).bind (fun _ opening manager hflushed => ?_)
  refine Clean.bind ?_ (fun _ opening manager h => (clean_publish (h.change rfl)))
  refine clean_attempt_read rfl (fun _ => rfl) hflushed (fun stored_run opening manager h => ?_)
  refine clean_attempt_lift (fun error => clean_returned h.quiet) (fun run _ => ?_)
  refine clean_attempt_read rfl (fun _ => rfl) h (fun stored_session opening manager h => ?_)
  refine clean_attempt_lift (fun error => clean_returned h.quiet) (fun session_state _ => ?_)
  refine clean_attempt_read rfl (fun _ => rfl) h (fun built_at opening manager h => ?_)
  refine clean_attempt_lift (fun error => clean_returned h.quiet) (fun unit hbuilt => ?_)
  refine clean_commit_uow (fun _ => awaits_away rfl) h.quiet
    (fun _ _ hrejects => .quiet (OtherWrites.refl _) hrejects) (fun error => clean_returned h.quiet) ?_
  intro stored enabled clock before answer store hrespond
  refine clean_returned ?_
  rcases settlement_turn hbuilt hrespond with hother | hsettles
  · exact .quiet hother rfl
  · rw [hsession] at hsettles
    exact .settles hsettles rfl

theorem rejects_replay {unit : UnitOfWork} {stored : Option JsonObject}
    {new_sessions_enabled : Bool} {answer : Except StoreError AuthoritativeCommit}
    (h : ∀ commit, answer = .ok commit → commit.idempotent = true) :
    accepts_admission (some ⟨.store .admit_chat_command
      (.commit authority unit stored new_sessions_enabled), answer⟩) = false := by
  cases answer with
  | error error => rfl
  | ok commit =>
    show (!commit.idempotent) = false
    rw [h commit rfl]
    rfl

theorem clean_admit_on_tape {prompt command_id : String} {parent_run_id : Option String}
    (hsession : authority.session_id = session_id) (hstill : Still opening manager) :
    Clean host call (admit_on_tape host authority prompt command_id parent_run_id) opening
      manager := by
  show Clean host call (call_store .admit_chat_command
    (SessionTask.admit_chat_command host authority _) >>= ManagerTask.admitted) opening manager
  refine Clean.bind ?_ (fun admission opening manager h => ?_)
  · refine clean_attempt_read rfl (fun _ => rfl) hstill (fun built_at opening manager h => ?_)
    refine clean_attempt_lift (fun error => clean_returned h.quiet) (fun built hbuilt => ?_)
    obtain ⟨unit, admission⟩ := built
    show Clean host call (Coroutine.attempt _ _
      (SessionTask.commit_authoritative_uow authority unit >>= _) >>= _) opening manager
    rw [Coroutine.attempt_bind, Coroutine.bind_assoc]
    refine clean_commit_uow (fun _ => awaits_away rfl) h.quiet
      (fun _ _ hrejects => .quiet (OtherWrites.refl _) hrejects)
      (fun error => clean_returned h.quiet) ?_
    intro stored enabled clock before answer store hrespond
    have hmove : TurnMove call (some ⟨.store .admit_chat_command
        (.commit authority unit stored enabled), answer⟩) .away before .away
        (before.put_store store) := by
      rcases admission_turn hbuilt hrespond with ⟨hother, hreplay⟩ | ⟨⟨commit, hanswer, hfresh⟩, hadmits⟩
      · exact .quiet hother (rejects_replay hreplay)
      · subst hanswer
        rw [hsession] at hadmits
        have haccepts : (!commit.idempotent) = true := by rw [hfresh]; rfl
        exact .admits hadmits haccepts
    cases answer with
    | error error => exact clean_returned hmove
    | ok commit => exact clean_returned hmove
  · unfold ManagerTask.admitted
    split
    · exact h.clean_pure ()
    · exact clean_publish (h.change rfl)

theorem clean_admit_chat_command {prompt command_id : String} {parent_run_id : Option String}
    (hstill : Still opening manager) :
    Clean host call (ManagerTask.admit_chat_command host prompt command_id parent_run_id) opening
      manager := by
  refine clean_owner_authority hstill (fun authority hsession => ?_)
  show Clean host call (if _ then _ else _) opening manager
  split
  · refine (clean_ensure_session_runtime hstill).bind (fun _ opening manager h => ?_)
    exact clean_admit_on_tape hsession h
  · exact clean_admit_on_tape hsession hstill

theorem meets_manager_code (host : SessionHost) (call : ManagerCall)
    (manager : ChatManager session_id) :
    Coroutine.Meets (turn_outline host session_id) call
      (Coroutine.Over (turn_outline host session_id) call) (call.code host) ⟨none, .away, manager⟩
      manager := by
  have hstill : Still (⟨none, .away, manager⟩ :
      Opening TurnPlace (ChatManager session_id) ManagerQuery ManagerQuery.Answer) manager :=
    ⟨rfl, OtherWrites.refl _, rfl⟩
  cases call with
  | admit_chat_command prompt command_id parent_run_id =>
    exact clean_admit_chat_command hstill _ (owed_over _)
  | settle_root_run settlement => exact clean_settle_root_run hstill _ (owed_over _)
  | persist_chat_wire_message message => exact clean_persist_wire_message hstill _ (owed_over _)
  | persist_session_async => exact clean_persist_session hstill rfl rfl _ (owed_over _)

end Segments

/-! ## What is to hold -/

section Runs

variable {host : SessionHost} {session_id : String}

def takes_turn_event (event : ManagerEvent session_id) : Bool :=
  event.segment.any (fun segment => takes_payload segment.2.1 segment.2.2)

def accepts_command (event : ManagerEvent session_id) : Bool :=
  event.segment.any (fun segment => accepts_admission segment.2.2)

/-- The stored payload names every unsettled run, and a command is accepted where there is none. -/
structure TurnsNamed (events : List (ManagerEvent session_id)) (loop : ManagerLoop session_id) :
    Prop where
  named : ∀ run_id, Unsettled loop.memory.store.tables session_id run_id →
    stored_turn_id loop.memory.store.tables session_id = .str run_id
  one : ∀ event ∈ events, accepts_command event = true →
    ∀ run_id, ¬ Unsettled event.before.store.tables session_id run_id

/-- The run that the stored payload names is settled, or there is none. -/
def stored_turn_settled (db : Tables) (session_id : String) : Bool :=
  match stored_turn_id db session_id with
  | .str run_id => ((db.agent_runs.row run_id).filter (·.session_id = session_id)).all
      (fun run => run.status ∈ settled_run_statuses)
  | _ => true

/-- The session object has the stored turn, or that turn is settled. -/
def knows_turn (manager : ChatManager session_id) : Bool :=
  stored_turn_id manager.store.tables session_id = Json.of_str? manager.session.current_turn_id
    || stored_turn_settled manager.store.tables session_id

/-- A save and a chat event take their payload when the session object knows the stored turn, and
none of them is on its way to the store when a command is accepted. -/
structure PayloadsCurrent (_ : List (ManagerEvent session_id)) (loop : ManagerLoop session_id)
    (event : ManagerEvent session_id) : Prop where
  taken : takes_turn_event event = true → knows_turn event.before = true
  alone : accepts_command event = true → ∀ pid call query resume,
    loop.tasks pid = some ⟨call, .await query resume⟩ → query.carries = false

/-! ## The invariant -/

/-- A payload that was taken has the turn of every unsettled run. -/
def PayloadsFit (places : Nat → TurnPlace) (db : Tables) (session_id : String) : Prop :=
  ∀ pid turn_id, places pid = .carrying turn_id →
    ∀ run_id, Unsettled db session_id run_id → turn_id = some run_id

/-- What every step preserves. -/
structure TurnKept (host : SessionHost) (events : List (ManagerEvent session_id))
    (places : Nat → TurnPlace) (loop : ManagerLoop session_id) : Prop where
  outlined : Outlined (turn_outline host session_id) .away places loop
  named : TurnNamed loop.memory.store.tables session_id
  fits : PayloadsFit places loop.memory.store.tables session_id
  one : ∀ event ∈ events, accepts_command event = true →
    ∀ run_id, ¬ Unsettled event.before.store.tables session_id run_id

variable {events : List (ManagerEvent session_id)} {loop loop' : ManagerLoop session_id}
  {event : ManagerEvent session_id} {places : Nat → TurnPlace} {pid : Nat} {place' : TurnPlace}
  {call : ManagerCall} {given : ManagerGiven} {db db' : Tables}
  {manager manager' : ChatManager session_id}

theorem TurnNamed.fits_taken (h : TurnNamed manager.store.tables session_id)
    (hknows : knows_turn manager = true) {run_id : String}
    (hunsettled : Unsettled manager.store.tables session_id run_id) :
    manager.session.current_turn_id = some run_id := by
  obtain ⟨run, hrow, hsession, hstatus⟩ := hunsettled
  obtain ⟨-, hnamed⟩ := h run_id run hrow hsession hstatus
  rw [knows_turn, Bool.or_eq_true] at hknows
  rcases hknows with hsame | hsettled
  · rw [decide_eq_true_eq, hnamed] at hsame
    cases hcurrent : manager.session.current_turn_id with
    | none =>
      rw [hcurrent] at hsame
      cases hsame
    | some turn_id =>
      rw [hcurrent] at hsame
      cases hsame
      rfl
  · have hfilter : Option.filter (fun found : AgentRunRecord => decide (found.session_id = session_id))
        (some run) = some run := by simp [hsession]
    simp only [stored_turn_settled, hnamed, hrow, hfilter, Option.all_some, decide_eq_true_eq]
      at hsettled
    exact absurd hsettled hstatus

theorem PayloadsFit.moved (h : PayloadsFit places db session_id)
    (hfewer : ∀ run_id, Unsettled db' session_id run_id → Unsettled db session_id run_id)
    (hplace : ∀ turn_id, place' = .carrying turn_id →
      ∀ run_id, Unsettled db session_id run_id → turn_id = some run_id) :
    PayloadsFit (Function.update places pid place') db' session_id := by
  intro other turn_id hother run_id hunsettled
  by_cases heq : other = pid
  · rw [heq, Function.update_self] at hother
    exact hplace turn_id hother run_id (hfewer run_id hunsettled)
  · rw [Function.update_of_ne heq] at hother
    exact h other turn_id hother run_id (hfewer run_id hunsettled)

theorem unsettled_same (hruns : db'.agent_runs = db.agent_runs) {run_id : String}
    (h : Unsettled db' session_id run_id) : Unsettled db session_id run_id := by
  unfold Unsettled at h ⊢
  rwa [hruns] at h

/-- **One segment** keeps the payload naming its run, and the payloads on their way fitting. -/
theorem TurnMove.keeps (hmove : TurnMove call given (places pid) manager place' manager')
    (hnamed : TurnNamed manager.store.tables session_id)
    (hfits : PayloadsFit places manager.store.tables session_id)
    (htaken : takes_payload call given = true → knows_turn manager = true)
    (halone : accepts_admission given = true →
      ∀ other turn_id, places other ≠ .carrying turn_id) :
    TurnNamed manager'.store.tables session_id
      ∧ PayloadsFit (Function.update places pid place') manager'.store.tables session_id
      ∧ (accepts_admission given = true →
        ∀ run_id, ¬ Unsettled manager.store.tables session_id run_id) := by
  generalize hplace : places pid = place at hmove
  cases hmove with
  | quiet writes rejects =>
    obtain ⟨hsessions, hruns, -⟩ := writes
    refine ⟨hnamed.same hsessions hruns, ?_, fun haccepts => ?_⟩
    · exact hfits.moved (fun _ => unsettled_same hruns) (fun _ h => by cases h)
    · rw [rejects] at haccepts
      cases haccepts
  | reads writes rejects =>
    obtain ⟨hsessions, hruns, -⟩ := writes
    refine ⟨hnamed.same hsessions hruns, ?_, fun haccepts => ?_⟩
    · refine hfits.moved (fun _ => unsettled_same hruns) (fun turn_id h => ?_)
      rw [← hplace] at h
      exact hfits pid turn_id h
    · rw [rejects] at haccepts
      cases haccepts
  | takes writes rejects taken =>
    obtain ⟨hsessions, hruns, -⟩ := writes
    refine ⟨hnamed.same hsessions hruns, ?_, fun haccepts => ?_⟩
    · refine hfits.moved (fun _ => unsettled_same hruns) (fun turn_id h run_id hunsettled => ?_)
      cases h
      exact hnamed.fits_taken (htaken taken) hunsettled
    · rw [rejects] at haccepts
      cases haccepts
  | @writes turn_id _ _ written rejects =>
    refine ⟨hnamed.written written (hfits pid turn_id hplace), ?_, fun haccepts => ?_⟩
    · exact hfits.moved (fun _ => unsettled_same written.runs) (fun _ h => by cases h)
    · rw [rejects] at haccepts
      cases haccepts
  | admits admitted accepted =>
    refine ⟨hnamed.admitted admitted, ?_, fun _ run_id => hnamed.idle admitted.idle⟩
    intro other turn_id hother
    by_cases heq : other = pid
    · rw [heq, Function.update_self] at hother
      cases hother
    · rw [Function.update_of_ne heq] at hother
      exact absurd hother (halone accepted other turn_id)
  | settles settled rejects =>
    refine ⟨hnamed.settled settled, ?_, fun haccepts => ?_⟩
    · exact hfits.moved (fun _ h => (settled.unsettled_of h).2) (fun _ h => by cases h)
    · rw [rejects] at haccepts
      cases haccepts

theorem carrying_awaits (h : Outlined (turn_outline host session_id) .away places loop)
    {turn_id : Option String} (hplace : places pid = .carrying turn_id) :
    ∃ call query resume, loop.tasks pid = some ⟨call, .await query resume⟩
      ∧ query.carries = true := by
  have hpid := h pid
  have hended {result : Except StoreError Unit} (call : ManagerCall)
      (hends : (turn_outline host session_id).ends call (places pid) result) : False := by
    have haway : places pid = .away := hends
    rw [hplace] at haway
    cases haway
  split at hpid
  · rw [hplace] at hpid
    cases hpid
  · next task htask =>
    obtain ⟨call, rest⟩ := task
    cases rest with
    | done value => exact (hended call hpid).elim
    | fail error => exact (hended call hpid).elim
    | access change next => exact hpid.elim
    | await query resume =>
      have hasks : TurnAwaits (places pid) query := hpid.1
      exact ⟨call, query, resume, htask, hasks.mp ⟨turn_id, hplace⟩⟩

theorem turn_kept_moved (h : TurnKept host events places loop)
    (hok : PayloadsCurrent events loop event) (hstep : ManagerStep host loop event loop')
    (hmoved : Moved (turn_outline host session_id) .away places event pid call given place')
    (houtlined : Outlined (turn_outline host session_id) .away
      (Function.update places pid place') loop') :
    TurnKept host (events ++ [event]) (Function.update places pid place') loop' := by
  obtain ⟨hbefore, hafter⟩ := hstep.memory
  have hmove : TurnMove call given (places pid) event.before place' event.after := hmoved.moves
  have hnamed := h.named
  have hfits := h.fits
  rw [← hbefore] at hnamed hfits
  have htaken : takes_payload call given = true → knows_turn event.before = true := by
    intro htakes
    refine hok.taken ?_
    rw [takes_turn_event, hmoved.segment]
    exact htakes
  have haccepts : accepts_command event = accepts_admission given := by
    rw [accepts_command, hmoved.segment]
    rfl
  have halone : accepts_admission given = true →
      ∀ other turn_id, places other ≠ .carrying turn_id := by
    intro haccepted other turn_id hother
    rw [← haccepts] at haccepted
    obtain ⟨call, query, resume, htask, hcarries⟩ := carrying_awaits h.outlined hother
    rw [hok.alone haccepted other call query resume htask] at hcarries
    cases hcarries
  obtain ⟨hnamed', hfits', hidle⟩ := hmove.keeps hnamed hfits htaken halone
  rw [hafter] at hnamed' hfits'
  refine ⟨houtlined, hnamed', hfits', ?_⟩
  intro past hmem haccepted
  rcases mem_snoc hmem with hold | rfl
  · exact h.one past hold haccepted
  · rw [haccepts] at haccepted
    exact hidle haccepted

theorem turn_kept_elsewhere (h : TurnKept host events places loop)
    (hstep : ManagerStep host loop event loop') (hsegment : event.segment = none)
    (hchanges : ManagerChanges event.before event.after)
    (houtlined : Outlined (turn_outline host session_id) .away places loop') :
    TurnKept host (events ++ [event]) places loop' := by
  obtain ⟨hbefore, hafter⟩ := hstep.memory
  obtain ⟨⟨hsessions, hruns, -⟩, -⟩ := hchanges
  rw [hbefore, hafter] at hsessions hruns
  refine ⟨houtlined, h.named.same hsessions hruns, ?_, ?_⟩
  · intro other turn_id hother run_id hunsettled
    exact h.fits other turn_id hother run_id (unsettled_same hruns hunsettled)
  · intro past hmem haccepted
    rcases mem_snoc hmem with hold | rfl
    · exact h.one past hold haccepted
    · rw [accepts_command, hsegment] at haccepted
      cases haccepted

variable {start : ManagerLoop session_id}

theorem turn_kept (hidle : start.Idle) (hstart : TurnNamed start.memory.store.tables session_id)
    (hrun : RunWhere (ManagerStep host) PayloadsCurrent start events loop) :
    ∃ places, TurnKept host events places loop := by
  refine hrun.history (P := fun events loop => ∃ places, TurnKept host events places loop) ?_ ?_
  · refine ⟨fun _ => .away, hidle.outlined, hstart, ?_, ?_⟩
    · intro pid turn_id hplace
      cases hplace
    · simp
  · rintro earlier before event after - ⟨places, h⟩ hok hstep
    have hmeets : ∀ call memory, (turn_outline host session_id).knows .away memory →
        Coroutine.Meets (turn_outline host session_id) call
          (Coroutine.Over (turn_outline host session_id) call) (call.code host)
          ⟨none, .away, memory⟩ memory := fun call memory _ => meets_manager_code host call memory
    rcases h.outlined.step rfl hmeets (fun _ => trivial) hstep with
      ⟨pid, call, given, place, hmoved, houtlined⟩ | ⟨hsegment, hchanges, houtlined⟩
    · exact ⟨_, turn_kept_moved h hok hstep hmoved houtlined⟩
    · exact ⟨places, turn_kept_elsewhere h hstep hsegment hchanges houtlined⟩

/-- **The stored payload names the unsettled run** in every run whose payloads are current, and no
command is accepted before the run of the one before is settled. -/
theorem stored_turn_named (hidle : start.Idle)
    (hstart : TurnNamed start.memory.store.tables session_id)
    (hrun : RunWhere (ManagerStep host) PayloadsCurrent start events loop) :
    TurnsNamed events loop := by
  obtain ⟨places, h⟩ := turn_kept hidle hstart hrun
  refine ⟨?_, h.one⟩
  rintro run_id ⟨run, hrow, hsession, hstatus⟩
  exact (h.named run_id run hrow hsession hstatus).2

/-! ### Two commands in turn, and a save that an admission overtakes -/

def sample_chat_loop : ManagerLoop "s" where
  memory :=
    { store := { tables :=
        { session_owners := (∅ : Table String SessionOwnerRecord).put "s" ⟨"worker", 1000, 1⟩ } }
      session := { tape_id := some "tape" }
      owner_authority := some ⟨sample_owner, rfl⟩ }
  tasks := fun _ => none

/-- The store answers at a clock reading, and every other await is answered as hoped. -/
def manager_reply (clock : Datetime) (manager : ChatManager "s") :
    (query : ManagerQuery) → query.Answer × ChatManager "s"
  | .store _ query =>
    ((respond sample_session_host clock manager.store query).1,
      manager.put_store (respond sample_session_host clock manager.store query).2)
  | .returned _ => ((), manager)
  | .projection_epoch => (.ok ⟨"0", "fresh", clock⟩, manager)
  | .assert_owner => (.ok (), manager)
  | .build_runtime => (.ok "tape", manager)
  | .publish => (.ok (), manager)

theorem manager_reply_answers (clock : Datetime) (manager : ChatManager "s") (query : ManagerQuery) :
    ManagerAnswers sample_session_host manager query (manager_reply clock manager query).1
      (manager_reply clock manager query).2 := by
  cases query with
  | store method query => exact ⟨clock, _, rfl, rfl⟩
  | _ => rfl

abbrev ManagerInput : Type := Input ManagerCall Datetime

abbrev play_manager (script : List ManagerInput) : List (ManagerEvent "s") × ManagerLoop "s" :=
  EventLoop.play (ManagerCall.code sample_session_host) manager_reply sample_chat_loop script

def called (pid : Nat) (call : ManagerCall) (answers : Nat) : List ManagerInput :=
  .start pid call :: List.replicate answers (.answer pid 1)

/-- A command, a message and a save of its turn, its settlement, and a second command. -/
def two_commands : List ManagerInput :=
  called 0 (.admit_chat_command "go" "c" none) 6
    ++ called 1 (.persist_chat_wire_message (.ThinkingDelta "hm")) 6
    ++ called 2 .persist_session_async 2
    ++ called 3 (.settle_root_run { run_id := "s:c", outcome := "completed" }) 8
    ++ called 4 (.admit_chat_command "go on" "d" (some "s:c")) 6

/-- A save has taken its payload when a command is accepted, and is written after it. -/
def overtaken_save : List ManagerInput :=
  .start 0 .persist_session_async :: called 1 (.admit_chat_command "go" "c" none) 6
    ++ [.answer 0 1] ++ called 2 (.admit_chat_command "go on" "d" none) 6

/-- The conditions on one event, for calls below `bound`. -/
def payloads_current_below (bound : Nat) (loop : ManagerLoop session_id)
    (event : ManagerEvent session_id) : Bool :=
  (!takes_turn_event event || knows_turn event.before)
    && (!accepts_command event || (List.range bound).all (fun pid =>
      ((loop.tasks pid).bind LoopTask.awaits).all (fun query => !query.carries)))

theorem payloads_current_of_below {bound : Nat} (hfree : ∀ pid, bound ≤ pid → loop.tasks pid = none)
    (h : payloads_current_below bound loop event = true) : PayloadsCurrent events loop event := by
  rw [payloads_current_below, Bool.and_eq_true, Bool.or_eq_true, Bool.or_eq_true] at h
  obtain ⟨htaken, halone⟩ := h
  refine ⟨fun htakes => ?_, fun haccepts pid call query resume htask => ?_⟩
  · simpa [htakes] using htaken
  · have hbelow : pid < bound := by
      by_contra hle
      rw [hfree pid (by omega)] at htask
      cases htask
    rw [haccepts, Bool.not_true, or_iff_right Bool.false_ne_true, List.all_eq_true] at halone
    have hpid := halone pid (List.mem_range.mpr hbelow)
    simpa [htask, LoopTask.awaits] using hpid

theorem stored_turn_named_two_commands :
    TurnsNamed (play_manager two_commands).1 (play_manager two_commands).2 := by
  have hbelow : ∀ input ∈ two_commands, input.pid < 5 := by
    have hall : two_commands.all (fun input => input.pid < 5) = true := by decide +kernel
    intro input hmem
    simpa using List.all_eq_true.mp hall input hmem
  have hrun : RunWhere (ManagerStep sample_session_host) PayloadsCurrent sample_chat_loop
      (play_manager two_commands).1 (play_manager two_commands).2 :=
    play_where manager_reply_answers
      (fun _ _ _ hfree h => payloads_current_of_below hfree h) (fun _ => rfl) hbelow
      (by decide +kernel)
  refine stored_turn_named (fun _ => rfl) ?_ hrun
  intro run_id run hrow
  cases hrow

/-- The save takes the turn back, and a second command is accepted while the first one runs. -/
theorem save_takes_turn_back :
    ∃ events loop, Run (ManagerStep sample_session_host) sample_chat_loop events loop
      ∧ ¬ TurnsNamed events loop := by
  refine ⟨(play_manager overtaken_save).1, (play_manager overtaken_save).2,
    EventLoop.play_run manager_reply_answers sample_chat_loop overtaken_save, ?_⟩
  intro h
  have hsecond : (play_manager overtaken_save).1.any (fun event => accepts_command event
      && (event.before.store.tables.agent_runs.row "s:c").any (fun run =>
        run.session_id = "s" && run.status ∉ settled_run_statuses)) = true := by decide +kernel
  obtain ⟨event, hmem, hevent⟩ := List.any_eq_true.mp hsecond
  obtain ⟨haccepts, hrun⟩ := Bool.and_eq_true_iff.mp hevent
  rw [Option.any_eq_true] at hrun
  obtain ⟨run, hrow, hstatus⟩ := hrun
  rw [Bool.and_eq_true, decide_eq_true_eq, decide_eq_true_eq] at hstatus
  exact h.one event hmem haccepts "s:c" ⟨run, hrow, hstatus⟩

end Runs

end CodingAgentLoop
