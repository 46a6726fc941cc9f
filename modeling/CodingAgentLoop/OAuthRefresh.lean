/-
Logins, logouts and token refreshes over one store of OAuth records (`oauth/store.py`,
`oauth/auth.py`).

A refresh reads the record under the store's lock, sends its refresh token without the lock and
writes under the lock again, where it compares the whole record with the one it read. Nothing newer
is overwritten and no provider that was logged out comes back, but two calls may send the same
refresh token, and the one that comes second raises although a fresh token is stored:
`refresh_compared` and `second_refresh_raises`.
-/
import CodingAgentLoop.Errors
import CodingAgentLoop.Lib.Crew
import CodingAgentLoop.Lib.Table

namespace CodingAgentLoop.OAuthRefresh

open Lib Dialogue List

/-! ## Records -/

structure OAuthTokens where
  id_token : Option String
  access_token : String
  refresh_token : Option String
  deriving DecidableEq

structure OAuthAccount where
  email : Option String
  chatgpt_user_id : Option String
  chatgpt_account_id : Option String
  chatgpt_plan_type : Option String
  chatgpt_account_is_fedramp : Bool
  deriving DecidableEq

structure OAuthProviderRecord where
  type : String
  issuer : String
  client_id : String
  token_endpoint : String
  revoke_endpoint : Option String
  base_url : Option String
  scopes : List String
  tokens : OAuthTokens
  account : OAuthAccount
  last_refresh_at : Option Nat
  deriving DecidableEq

/-- The `providers` of the file. -/
abbrev AuthFile := Table String OAuthProviderRecord

structure TokenSnapshot where
  provider_name : String
  access_token : String
  account : OAuthAccount
  base_url : Option String

/-- `_snapshot(provider_name, record)`. -/
def snapshot (provider_name : String) (record : OAuthProviderRecord) : TokenSnapshot where
  provider_name
  access_token := record.tokens.access_token
  account := record.account
  base_url := record.base_url

/-! ## Updates of the file -/

/-- The updaters that are given to `OAuthStore.update`. -/
inductive AuthFileUpdate where
  | persist (record refreshed : OAuthProviderRecord)
  | set_provider (record : OAuthProviderRecord)
  | delete_provider

def not_logged_in (provider_name : String) : StoreError :=
  .raised .RuntimeError ("OAuth provider is not logged in: " ++ provider_name)

/-- What an updater makes of the file, and the record it hands out. -/
def AuthFileUpdate.updated (provider_name : String) (auth_file : AuthFile) :
    AuthFileUpdate → Except StoreError (AuthFile × Option OAuthProviderRecord)
  | .persist record refreshed =>
    match auth_file.row provider_name with
    | none => .error (not_logged_in provider_name)
    | some current => do
      raise_if (current ≠ record) .RuntimeError
        ("OAuth provider changed during refresh: " ++ provider_name)
      return (auth_file.put provider_name refreshed, none)
  | .set_provider record => .ok (auth_file.put provider_name record, none)
  | .delete_provider =>
    .ok (auth_file.delete_where fun name _ => name = provider_name, auth_file.row provider_name)

theorem persist_updated (provider_name : String) (auth_file : AuthFile)
    (record refreshed : OAuthProviderRecord) :
    auth_file.row provider_name = some record
        ∧ (AuthFileUpdate.persist record refreshed).updated provider_name auth_file
          = .ok (auth_file.put provider_name refreshed, none)
      ∨ auth_file.row provider_name ≠ some record
        ∧ ∃ message, (AuthFileUpdate.persist record refreshed).updated provider_name auth_file
          = .error (.raised .RuntimeError message) := by
  unfold AuthFileUpdate.updated
  cases hrow : auth_file.row provider_name with
  | none => exact .inr ⟨nofun, _, rfl⟩
  | some current =>
    by_cases hsame : current = record
    · left
      refine ⟨congrArg some hsame, ?_⟩
      simp only [hsame, ne_eq, not_true_eq_false, raise_if, if_false]
      rfl
    · right
      refine ⟨fun h => hsame (Option.some.inj h),
        "OAuth provider changed during refresh: " ++ provider_name, ?_⟩
      simp only [ne_eq, hsame, not_false_eq_true, raise_if, if_true]
      rfl

/-! ## Calls -/

/-- What a call waits for: an access to the locked file, the provider, or a response. -/
inductive OAuthQuery where
  | load
  | refresh_provider (record : OAuthProviderRecord)
  | update (change : AuthFileUpdate)
  | send (access_token : String)

abbrev OAuthQuery.Answer : OAuthQuery → Type
  | .load => AuthFile
  | .refresh_provider _ => Except StoreError OAuthProviderRecord
  | .update _ => Except StoreError (Option OAuthProviderRecord)
  | .send _ => Nat

abbrev OAuthTask := Dialogue OAuthQuery OAuthQuery.Answer StoreError

section Calls

variable (provider_name : String)

def get_provider : OAuthTask (Option OAuthProviderRecord) := do
  let auth_file : AuthFile ← await OAuthQuery.load
  return auth_file.row provider_name

def update (change : AuthFileUpdate) : OAuthTask (Option OAuthProviderRecord) := do
  lift (← await (OAuthQuery.update change))

def get_token : OAuthTask TokenSnapshot := do
  match ← get_provider provider_name with
  | none => .fail (.raised .RuntimeError ("OAuth provider is not logged in: " ++ provider_name
      ++ ". Run `coding-agent oauth login " ++ provider_name ++ "` first."))
  | some record => return snapshot provider_name record

def refresh_and_store : OAuthTask OAuthProviderRecord := do
  match ← get_provider provider_name with
  | none => .fail (not_logged_in provider_name)
  | some record =>
    let refreshed ← lift (← await (OAuthQuery.refresh_provider record))
    let _ ← update (.persist record refreshed)
    return refreshed

def refresh_token : OAuthTask TokenSnapshot := do
  return snapshot provider_name (← refresh_and_store provider_name)

/-- `async_auth_flow`, with the status code of the last response. -/
def async_auth_flow : OAuthTask Nat := do
  let token ← get_token provider_name
  let status_code : Nat ← await (OAuthQuery.send token.access_token)
  if status_code = 401 then do
    let token ← refresh_token provider_name
    await (OAuthQuery.send token.access_token)
  else return status_code

inductive OAuthCall where
  | request
  | refresh
  | login (record : OAuthProviderRecord)
  | logout

inductive OAuthResult where
  | response (status_code : Nat)
  | token (snapshot : TokenSnapshot)
  | updated (record : Option OAuthProviderRecord)

def OAuthCall.body : OAuthCall → OAuthTask OAuthResult
  | .request => do return .response (← async_auth_flow provider_name)
  | .refresh => do return .token (← refresh_token provider_name)
  | .login record => do return .updated (← update (.set_provider record))
  | .logout => do return .updated (← update .delete_provider)

/-! ## The store and the provider -/

/-- The file, and the refresh tokens the provider has accepted. -/
structure OAuthWorld where
  auth_file : AuthFile
  accepted : List String

/-- What a query may be answered. The provider accepts a refresh token once; its answer to an
accepted one may be lost or be of no use. -/
inductive Answers : OAuthWorld → (query : OAuthQuery) → query.Answer → OAuthWorld → Prop
  | loaded {world : OAuthWorld} : Answers world .load world.auth_file world
  | accepted {world : OAuthWorld} {record : OAuthProviderRecord} {token : String}
      (answer : Except StoreError OAuthProviderRecord)
      (htoken : record.tokens.refresh_token = some token) (hnew : token ∉ world.accepted) :
      Answers world (.refresh_provider record) answer
        { world with accepted := token :: world.accepted }
  | refused {world : OAuthWorld} {record : OAuthProviderRecord} (error : StoreError) :
      Answers world (.refresh_provider record) (.error error) world
  | updated {world : OAuthWorld} {change : AuthFileUpdate} {auth_file : AuthFile}
      {value : Option OAuthProviderRecord}
      (h : change.updated provider_name world.auth_file = .ok (auth_file, value)) :
      Answers world (.update change) (.ok value) { world with auth_file }
  | raised {world : OAuthWorld} {change : AuthFileUpdate} {error : StoreError}
      (h : change.updated provider_name world.auth_file = .error error) :
      Answers world (.update change) (.error error) world
  | sent {world : OAuthWorld} {access_token : String} (status_code : Nat) :
      Answers world (.send access_token) status_code world

/-- What other processes do: they log in to and out of other providers and refresh their tokens. -/
def Elsewhere (world world' : OAuthWorld) : Prop :=
  world'.auth_file.row provider_name = world.auth_file.row provider_name
    ∧ world.accepted ⊆ world'.accepted

abbrev OAuthCrew := Crew OAuthCall OAuthWorld OAuthQuery OAuthQuery.Answer StoreError OAuthResult

abbrev OAuthEvent := CrewEvent OAuthCall OAuthWorld OAuthQuery OAuthQuery.Answer

abbrev OAuthStep : OAuthCrew → OAuthEvent → OAuthCrew → Prop :=
  Crew.Step (OAuthCall.body provider_name) (Answers provider_name) (Elsewhere provider_name)

end Calls

/-! ## What is promised -/

abbrev Told := (query : OAuthQuery) × query.Answer

def accepted_token : Told → Option String
  | ⟨.refresh_provider record, .ok _⟩ => record.tokens.refresh_token
  | _ => none

def stored_token : OAuthEvent → Option String
  | .answered _ _ _ (.update (.persist record _)) (.ok _) _ _ => record.tokens.refresh_token
  | _ => none

def submitted_token : OAuthEvent → Option String
  | .answered _ _ _ (.refresh_provider record) _ _ _ => record.tokens.refresh_token
  | _ => none

def is_persist : OAuthQuery → Bool
  | .update (.persist _ _) => true
  | _ => false

def Stored (history : History OAuthQuery OAuthQuery.Answer)
    (refreshed : OAuthProviderRecord) : Prop :=
  ∃ record value, (⟨.update (.persist record refreshed), .ok value⟩ : Told) ∈ history

/-- What holds of the calls of a run. -/
structure RefreshesCompared (provider_name : String) (events : List OAuthEvent) (crew : OAuthCrew) :
    Prop where
  compared : ∀ pid call history record refreshed answer before after,
    .answered pid call history (.update (.persist record refreshed)) answer before after ∈ events →
      (∃ auth_file : AuthFile, (⟨.load, auth_file⟩ : Told) ∈ history
        ∧ auth_file.row provider_name = some record)
      ∧ (⟨.refresh_provider record, .ok refreshed⟩ : Told) ∈ history
      ∧ (before.auth_file.row provider_name = some record ∧ answer = .ok none
          ∧ after.auth_file = before.auth_file.put provider_name refreshed
        ∨ before.auth_file.row provider_name ≠ some record
          ∧ (∃ message, answer = .error (.raised .RuntimeError message)) ∧ after = before)
  once : (events.filterMap stored_token).Nodup
  returned : ∀ pid token history,
    crew.callers pid = some ⟨.refresh, .done (.token token), history⟩ →
      ∃ refreshed, Stored history refreshed ∧ token = snapshot provider_name refreshed
  failed : ∀ pid error history, crew.callers pid = some ⟨.refresh, .fail error, history⟩ →
    ∀ refreshed, ¬ Stored history refreshed
  repeated : ∀ pid history access_token status_code before after,
    .answered pid .request history (.send access_token) status_code before after ∈ events →
      (∀ told ∈ history, told.1 = .load)
        ∨ ∃ refreshed, Stored history refreshed ∧ access_token = refreshed.tokens.access_token

/-! ## One call -/

section Calls

variable {provider_name : String}

def guard (provider_name : String) (history : History OAuthQuery OAuthQuery.Answer) :
    OAuthQuery → Prop
  | .update (.persist record refreshed) =>
    (∃ auth_file : AuthFile, (⟨.load, auth_file⟩ : Told) ∈ history
        ∧ auth_file.row provider_name = some record)
      ∧ (⟨.refresh_provider record, .ok refreshed⟩ : Told) ∈ history
      ∧ ∀ told ∈ history, is_persist told.1 = false
  | .send access_token => (∀ told ∈ history, told.1 = .load)
      ∨ ∃ refreshed, Stored history refreshed ∧ access_token = refreshed.tokens.access_token
  | _ => True

def ends (provider_name : String) (call : OAuthCall)
    (history : History OAuthQuery OAuthQuery.Answer) (result : Except StoreError OAuthResult) : Prop :=
  match call, result with
  | .refresh, .ok (.token token) =>
    ∃ refreshed, Stored history refreshed ∧ token = snapshot provider_name refreshed
  | .refresh, .error _ => ∀ refreshed, ¬ Stored history refreshed
  | _, _ => True

theorem not_stored {history : History OAuthQuery OAuthQuery.Answer}
    (h : ∀ told ∈ history, is_persist told.1 = false) (refreshed : OAuthProviderRecord) :
    ¬ Stored history refreshed := by
  rintro ⟨record, value, hmem⟩
  cases h _ hmem

theorem forall_mem_snoc {α : Type} {P : α → Prop} {items : List α} {item : α}
    (h : ∀ item ∈ items, P item) (hitem : P item) : ∀ other ∈ items ++ [item], P other := by
  intro other hmem
  rcases mem_snoc hmem with hold | hnew
  · exact h other hold
  · rw [hnew]
    exact hitem

theorem refresh_and_store_meets {history : History OAuthQuery OAuthQuery.Answer}
    {post : History OAuthQuery OAuthQuery.Answer → Except StoreError OAuthProviderRecord → Prop}
    (hclean : ∀ told ∈ history, is_persist told.1 = false)
    (hok : ∀ later refreshed, Stored later refreshed → post later (.ok refreshed))
    (herror : ∀ later error, (∀ refreshed, ¬ Stored later refreshed) → post later (.error error)) :
    Meets (fun _ _ _ => True) (guard provider_name) post (refresh_and_store provider_name) history := by
  apply Meets.bind
  apply Meets.await_bind trivial
  intro auth_file _
  have hloaded : ∀ told ∈ history ++ [(⟨.load, auth_file⟩ : Told)], is_persist told.1 = false :=
    forall_mem_snoc hclean rfl
  cases hrow : auth_file.row provider_name with
  | none => exact herror _ _ (not_stored hloaded)
  | some record =>
    refine ⟨trivial, fun answer _ => ?_⟩
    have hanswered : ∀ told ∈ history ++ [⟨.load, auth_file⟩]
        ++ [(⟨.refresh_provider record, answer⟩ : Told)], is_persist told.1 = false :=
      forall_mem_snoc hloaded rfl
    cases answer with
    | error error => exact herror _ _ (not_stored hanswered)
    | ok refreshed =>
      refine ⟨⟨⟨auth_file, ?_, hrow⟩, ?_, hanswered⟩, fun value _ => ?_⟩
      · exact mem_append_left _ (mem_append_right _ (mem_singleton_self _))
      · exact mem_append_right _ (mem_singleton_self _)
      · cases value with
        | ok value =>
          exact hok _ _ ⟨record, value, mem_append_right _ (mem_singleton_self _)⟩
        | error error =>
          apply herror
          rintro other ⟨record', value, hmem⟩
          rcases mem_snoc hmem with hold | hnew
          · cases hanswered _ hold
          · cases hnew

theorem body_meets (call : OAuthCall) :
    Meets (fun _ _ _ => True) (guard provider_name) (ends provider_name call)
      (call.body provider_name) [] := by
  have hnone : ∀ told ∈ ([] : History OAuthQuery OAuthQuery.Answer), is_persist told.1 = false :=
    fun _ hmem => absurd hmem not_mem_nil
  cases call with
  | login _ | logout =>
    unfold OAuthCall.body update
    apply Meets.bind
    apply Meets.await_bind trivial
    intro answer _
    apply Meets.lift
    cases answer with
    | ok value => exact trivial
    | error error => exact trivial
  | refresh =>
    apply Meets.bind
    apply Meets.bind
    apply refresh_and_store_meets hnone
    · intro later refreshed hstored
      exact ⟨refreshed, hstored, rfl⟩
    · intro later error hnot
      exact hnot
  | request =>
    apply Meets.bind
    apply Meets.bind
    apply Meets.bind
    apply Meets.await_bind trivial
    intro auth_file _
    cases hrow : auth_file.row provider_name with
    | none => exact trivial
    | some record =>
      have hloaded : ∀ told ∈ [(⟨.load, auth_file⟩ : Told)], told.1 = .load := by
        intro told hmem
        rw [mem_singleton.mp hmem]
      refine ⟨.inl hloaded, ?_⟩
      intro status_code _
      show Meets _ _ _ (if status_code = 401 then (do
          let token ← refresh_token provider_name
          await (OAuthQuery.send token.access_token)) else pure status_code) _
      split
      · apply Meets.bind
        apply Meets.bind
        apply refresh_and_store_meets
        · exact forall_mem_snoc (forall_mem_snoc hnone rfl) rfl
        · intro later refreshed hstored
          exact ⟨.inr ⟨refreshed, hstored, rfl⟩, fun _ _ => trivial⟩
        · intro later error _
          exact trivial
      · exact trivial

end Calls

/-! ## Calls that hold fresh tokens -/

section Runs

variable {provider_name : String} {start crew crew' : OAuthCrew} {event : OAuthEvent}
  {events : List OAuthEvent}

/-- The call `pid` was given fresh tokens for the refresh token. -/
def Holds (crew : OAuthCrew) (pid : Nat) (token : String) : Prop :=
  ∃ caller, crew.callers pid = some caller
    ∧ ∃ told ∈ caller.history, accepted_token told = some token

theorem Answers.accepted_subset {world world' : OAuthWorld} {query : OAuthQuery}
    {answer : query.Answer} (h : Answers provider_name world query answer world') :
    world.accepted ⊆ world'.accepted := by
  cases h with
  | accepted answer htoken hnew => exact subset_cons_self _ _
  | loaded | refused _ | updated _ | raised _ | sent _ => exact List.Subset.refl _

variable {token : String}

theorem Answers.accepted_new {world world' : OAuthWorld} {query : OAuthQuery}
    {answer : query.Answer} (h : Answers provider_name world query answer world')
    (htoken : accepted_token ⟨query, answer⟩ = some token) :
    token ∉ world.accepted ∧ token ∈ world'.accepted := by
  cases h with
  | accepted answer hrecord hnew =>
    cases answer with
    | error error => cases htoken
    | ok refreshed =>
      rw [accepted_token, hrecord] at htoken
      cases htoken
      exact ⟨hnew, mem_cons_self⟩
  | loaded | refused _ | updated _ | raised _ | sent _ => cases htoken

/-- A step gives fresh tokens to the call it answers, and for a token not accepted before. -/
theorem holds_step (hstep : OAuthStep provider_name crew event crew') {pid : Nat}
    (h : Holds crew' pid token) : Holds crew pid token
      ∨ token ∉ crew.shared.accepted ∧ token ∈ crew'.shared.accepted
        ∧ ∃ call history query answer before after,
          event = .answered pid call history query answer before after := by
  obtain ⟨caller, hcaller, told, hmem, htoken⟩ := h
  cases hstep with
  | elsewhere => exact .inl ⟨caller, hcaller, told, hmem, htoken⟩
  | @started other call free =>
    rw [Crew.resumed_callers] at hcaller
    split at hcaller
    · cases hcaller
      cases hmem
    · exact .inl ⟨caller, hcaller, told, hmem, htoken⟩
  | @answered other call history query resume answer shared waiting hanswers =>
    rw [Crew.resumed_callers] at hcaller
    split at hcaller
    · next heq =>
      cases hcaller
      subst heq
      rcases mem_snoc hmem with hold | hnew
      · exact .inl ⟨_, waiting, told, hold, htoken⟩
      · rw [hnew] at htoken
        obtain ⟨hbefore, hafter⟩ := hanswers.accepted_new htoken
        exact .inr ⟨hbefore, hafter, _, _, _, _, _, _, rfl⟩
    · exact .inl ⟨caller, hcaller, told, hmem, htoken⟩

theorem accepted_step (hstep : OAuthStep provider_name crew event crew') :
    crew.shared.accepted ⊆ crew'.shared.accepted := by
  cases hstep with
  | started => exact List.Subset.refl _
  | answered _ hanswers => exact hanswers.accepted_subset
  | elsewhere hmoved => exact hmoved.2

/-- The tokens that calls hold were accepted, and two calls hold none in common. -/
structure Apart (crew : OAuthCrew) : Prop where
  known : ∀ pid token, Holds crew pid token → token ∈ crew.shared.accepted
  apart : ∀ pid other token, Holds crew pid token → Holds crew other token → pid = other

theorem Apart.step (h : Apart crew) (hstep : OAuthStep provider_name crew event crew') :
    Apart crew' := by
  constructor
  · intro pid token hholds
    rcases holds_step hstep hholds with hold | ⟨-, hafter, -⟩
    · exact accepted_step hstep (h.known pid token hold)
    · exact hafter
  · intro pid other token hpid hother
    rcases holds_step hstep hpid with hold | ⟨hnew, -, _, _, _, _, _, _, hevent⟩
    · rcases holds_step hstep hother with hold' | ⟨hnew, -⟩
      · exact h.apart pid other token hold hold'
      · exact absurd (h.known pid token hold) hnew
    · rcases holds_step hstep hother with hold' | ⟨-, -, _, _, _, _, _, _, hevent'⟩
      · exact absurd (h.known other token hold') hnew
      · rw [hevent] at hevent'
        cases hevent'
        rfl

theorem apart_of_run (hidle : start.Idle) (hrun : Run (OAuthStep provider_name) start events crew) :
    Apart crew := by
  refine hrun.invariant ⟨?_, ?_⟩ (fun _ _ _ hbefore hstep => hbefore.step hstep)
  · rintro pid token ⟨caller, hcaller, -⟩
    rw [hidle pid] at hcaller
    cases hcaller
  · rintro pid other token ⟨caller, hcaller, -⟩ -
    rw [hidle pid] at hcaller
    cases hcaller

/-! ## Whole runs -/

theorem asked_of_run (hidle : start.Idle) (hrun : Run (OAuthStep provider_name) start events crew) :
    ∀ pid call history query answer before after,
      .answered pid call history query answer before after ∈ events →
        guard provider_name history query :=
  Crew.asked (fun call => (body_meets call).imp fun _ _ _ => trivial) hidle hrun

theorem stored_token_eq_some (h : stored_token event = some token) :
    ∃ pid call history record refreshed value before after,
      event = .answered pid call history (.update (.persist record refreshed)) (.ok value)
        before after ∧ record.tokens.refresh_token = some token := by
  unfold stored_token at h
  split at h
  · exact ⟨_, _, _, _, _, _, _, _, rfl, h⟩
  · cases h

theorem stored_once (hidle : start.Idle) (hrun : Run (OAuthStep provider_name) start events crew) :
    (events.filterMap stored_token).Nodup := by
  induction hrun with
  | refl => exact nodup_nil
  | @snoc events middle crew event hrun hstep ih =>
    rw [filterMap_append]
    cases hevent : stored_token event with
    | none =>
      rw [filterMap_cons_none hevent, filterMap_nil, append_nil]
      exact ih
    | some token =>
      rw [filterMap_cons_some hevent, filterMap_nil, nodup_append]
      refine ⟨ih, nodup_singleton _, ?_⟩
      intro earlier hearlier last hlast heq
      rw [heq, mem_singleton.mp hlast] at hearlier
      obtain ⟨pid, call, history, record, refreshed, value, before, after, rfl, htoken⟩ :=
        stored_token_eq_some hevent
      obtain ⟨_, hmem, hearlier⟩ := mem_filterMap.mp hearlier
      obtain ⟨pid', call', history', record', refreshed', value', before', after', rfl, htoken'⟩ :=
        stored_token_eq_some hearlier
      -- both calls hold fresh tokens for the token, so they are one call
      obtain ⟨-, hfresh, hclean⟩ := asked_of_run hidle (hrun.snoc hstep) _ _ _ _ _ _ _
        (mem_append_right _ (mem_singleton_self _))
      obtain ⟨-, hfresh', -⟩ := asked_of_run hidle hrun _ _ _ _ _ _ _ hmem
      obtain ⟨caller, hcaller, -, hkept⟩ := Crew.stays hrun _ _ _ _ _ _ _ hmem
      have hholds' : Holds middle pid' token :=
        ⟨caller, hcaller, _, hkept.subset (mem_append_left _ hfresh'), htoken'⟩
      cases hstep with
      | answered waiting _ =>
        have hholds : Holds middle pid token := ⟨_, waiting, _, hfresh, htoken⟩
        have hsame := (apart_of_run hidle hrun).apart pid pid' token hholds hholds'
        subst hsame
        rw [waiting] at hcaller
        cases hcaller
        -- and it has asked for one write before
        cases hclean _ (hkept.subset (mem_append_right _ (mem_singleton_self _)))

/-- **What a refresh writes over is the record it read**, so nothing newer is lost and nobody is
logged in again; of the calls that send one refresh token, one stores its answer at most; and a call
whose record was replaced in the meantime raises and changes nothing. -/
theorem refresh_compared (provider_name : String) {start crew : OAuthCrew}
    {events : List OAuthEvent} (hidle : start.Idle)
    (hrun : Run (OAuthStep provider_name) start events crew) :
    RefreshesCompared provider_name events crew := by
  have hasked := asked_of_run hidle hrun
  have hfollows : Crew.Follows (fun _ => guard provider_name) (ends provider_name) crew :=
    hrun.invariant hidle.follows fun _ _ _ hbefore hstep =>
      hbefore.step (fun call => body_meets call) hstep
  refine ⟨?_, stored_once hidle hrun, ?_, ?_, ?_⟩
  · intro pid call history record refreshed answer before after hmem
    obtain ⟨hread, hfresh, -⟩ := hasked _ _ _ _ _ _ _ hmem
    refine ⟨hread, hfresh, ?_⟩
    obtain ⟨_, _, rfl⟩ := append_of_mem hmem
    obtain ⟨_, _, -, hstep, -⟩ := hrun.split
    have hupdate := persist_updated provider_name before.auth_file record refreshed
    cases hstep with
    | answered _ hanswers =>
      rcases hupdate with ⟨hrow, hupdated⟩ | ⟨hrow, message, hupdated⟩
      · left
        cases hanswers with
        | updated h =>
          rw [hupdated] at h
          cases h
          exact ⟨hrow, rfl, rfl⟩
        | raised h =>
          rw [hupdated] at h
          cases h
      · right
        cases hanswers with
        | updated h =>
          rw [hupdated] at h
          cases h
        | raised h =>
          rw [hupdated] at h
          cases h
          exact ⟨hrow, ⟨message, rfl⟩, rfl⟩
  · intro pid token history hdone
    exact hfollows pid _ hdone
  · intro pid error history hfailed
    exact hfollows pid _ hfailed
  · intro pid history access_token status_code before after hmem
    exact hasked _ _ _ _ _ _ _ hmem

end Runs

/-! ## Two refreshes of one record -/

/-- The provider's answer to a refresh token that was not accepted before, if it is asked. -/
def respond (given : OAuthProviderRecord) (world : OAuthWorld) :
    (query : OAuthQuery) → query.Answer × OAuthWorld
  | .load => (world.auth_file, world)
  | .refresh_provider record =>
    match record.tokens.refresh_token with
    | none => (.error (.raised .RuntimeError "no refresh token"), world)
    | some token =>
      if token ∈ world.accepted then (.error (.raised .RuntimeError "token was used"), world)
      else (.ok given, { world with accepted := token :: world.accepted })
  | .update change =>
    match change.updated "codex" world.auth_file with
    | .ok (auth_file, value) => (.ok value, { world with auth_file })
    | .error error => (.error error, world)
  | .send _ => (200, world)

theorem respond_answers (given : OAuthProviderRecord) (world : OAuthWorld) (query : OAuthQuery) :
    Answers "codex" world query (respond given world query).1 (respond given world query).2 := by
  cases query with
  | load => exact .loaded
  | send access_token => exact .sent 200
  | refresh_provider record =>
    dsimp only [respond]
    split
    · exact .refused _
    · next token htoken =>
      split
      · exact .refused _
      · next hnew => exact .accepted _ htoken hnew
  | update change =>
    dsimp only [respond]
    split
    · next h => exact .updated h
    · next h => exact .raised h

def sample_record (access_token refresh_token : String) : OAuthProviderRecord where
  type := "oauth2"
  issuer := "https://auth.openai.com"
  client_id := "client"
  token_endpoint := "https://auth.openai.com/oauth/token"
  revoke_endpoint := none
  base_url := none
  scopes := []
  tokens := { id_token := none, access_token, refresh_token := some refresh_token }
  account := {
    email := none, chatgpt_user_id := none, chatgpt_account_id := none, chatgpt_plan_type := none
    chatgpt_account_is_fedramp := false }
  last_refresh_at := none

def sample_crew : OAuthCrew where
  shared := { auth_file := Table.put ∅ "codex" (sample_record "a" "r"), accepted := [] }
  callers _ := none

def sample_script : List (Crew.Input OAuthCall OAuthProviderRecord) :=
  [.start 0 .refresh, .start 1 .refresh, .access 0 (sample_record "b" "s"),
    .access 1 (sample_record "b" "s"), .access 0 (sample_record "b" "s"),
    .access 0 (sample_record "b" "s"), .access 1 (sample_record "c" "t")]

abbrev sample_run : List OAuthEvent × OAuthCrew :=
  Crew.play (OAuthCall.body "codex") respond sample_crew sample_script

theorem sample_refresh_compared : RefreshesCompared "codex" sample_run.1 sample_run.2 :=
  refresh_compared "codex" (show sample_crew.Idle from fun _ => rfl)
    (Crew.play_answers respond_answers sample_crew sample_script)

/-- Both calls send one refresh token, and the second raises while a fresh token is stored. -/
theorem second_refresh_raises :
    Run (OAuthStep "codex") sample_crew sample_run.1 sample_run.2
      ∧ sample_run.1.filterMap submitted_token = ["r", "r"]
      ∧ (∃ history, sample_run.2.callers 0
          = some ⟨.refresh, .done (.token (snapshot "codex" (sample_record "b" "s"))), history⟩)
      ∧ sample_run.2.shared.auth_file.row "codex" = some (sample_record "b" "s")
      ∧ ∃ error history, sample_run.2.callers 1 = some ⟨.refresh, .fail error, history⟩ :=
  ⟨Crew.play_answers respond_answers sample_crew sample_script, by rfl, ⟨_, by rfl⟩, by rfl, _, _, by rfl⟩

end CodingAgentLoop.OAuthRefresh
