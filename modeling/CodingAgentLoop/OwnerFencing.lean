/-
Whether the owner stores fence.

The abstract lease (`Lib/Lease.lean`) says what a fencing token is for: a grant that
fails the check once fails it for good. Its moves are those that keep the tokens in
order, and the file shows that both stores make such moves as long as no call brings
the order down (`TokensRise`). Three calls can: an acquisition of a session whose row
was deleted by a release starts again from its own token, or from 1; an acquisition of
an expired row compares its token too little (SQLite) or not at all (PostgreSQL); a
renewal writes the token it is given.
-/
import CodingAgentLoop.OwnerStore
import Mathlib

namespace CodingAgentLoop

open Lib Lease Table OwnerState List Result

variable {backend : OwnerBackend} {timedelta : Rat → Int}

/-! ## What was issued -/

def OwnerCall.session_id : OwnerCall → String
  | .acquire session_id .. => session_id
  | .renew session_id .. => session_id
  | .release session_id .. => session_id
  | .acquire_authority session_id .. => session_id
  | .renew_authority authority _ => authority.session_id
  | .assert_authority authority => authority.session_id

def OwnerEvent.granted (event : OwnerEvent) : Option (String × Int) :=
  match event.call, event.answer with
  | .acquire _ owner_id _ fencing_token, .ok (.granted true) => some (owner_id, fencing_token)
  | .renew _ owner_id _ new_fencing_token _, .ok (.granted true) =>
    some (owner_id, new_fencing_token)
  | _, .ok (.authority authority) => some (authority.owner_id, authority.epoch)
  | _, _ => none

def OwnerEvent.grant (session_id : String) (event : OwnerEvent) : Option (String × Int) :=
  if event.call.session_id = session_id then event.granted else none

def issued (session_id : String) (events : List OwnerEvent) : List (String × Int) :=
  events.filterMap (OwnerEvent.grant session_id)

theorem issued_snoc (session_id : String) (events : List OwnerEvent) (event : OwnerEvent) :
    issued session_id (events ++ [event])
      = issued session_id events ++ (event.grant session_id).toList := by
  rw [issued, filterMap_append]
  cases hgrant : event.grant session_id <;> simp [issued, hgrant]

/-! ## The condition -/

def OwnerBackend.accepts (backend : OwnerBackend) : OwnerCall → Prop
  | .acquire session_id owner_id lease_seconds fencing_token =>
    match backend with
    | .sqlite => require_owner_input session_id owner_id lease_seconds fencing_token = .ok ()
    | .postgres => bind_integer fencing_token = .ok ()
  | .renew session_id owner_id lease_seconds new_fencing_token current_fencing_token =>
    match backend with
    | .sqlite => require_owner_input session_id owner_id lease_seconds new_fencing_token = .ok ()
        ∧ 0 < current_fencing_token
    | .postgres => bind_integer new_fencing_token = .ok ()
  | .acquire_authority session_id owner_id lease_seconds =>
    match backend with
    | .sqlite => require_owner_input session_id owner_id lease_seconds 1 = .ok ()
    | .postgres => session_id ≠ "" ∧ owner_id ≠ "" ∧ 0 < lease_seconds
  | _ => True

section

variable (backend : OwnerBackend) (timedelta : Rat → Int)

/-- The epoch `acquire_authority` starts a session without a row at. PostgreSQL inserts the row
first, and takes it at once when its lease is rounded to nothing. -/
def OwnerBackend.first_epoch (lease_seconds : Rat) : Int :=
  match backend with
  | .sqlite => 1
  | .postgres => if 0 < timedelta lease_seconds then 1 else 2

/-- A call does not bring the tokens down: the token it may write over a missing row is above
every token issued, the one it may write over an expired row is not the row's (SQLite, for its
owner) or is above it (PostgreSQL), and a renewal does not lower the token. -/
def TokenRises (row : Option OwnerRow)
    (granted : List (String × Int)) (now : Int) : OwnerCall → Prop
  | .acquire _ owner_id _ fencing_token =>
    match row with
    | none => ∀ grant ∈ granted, grant.2 < fencing_token
    | some row => row.lease_expires_at ≤ now →
        match backend with
        | .sqlite => row.owner_id = owner_id → fencing_token ≠ row.fencing_token
        | .postgres => row.fencing_token < fencing_token
  | .renew _ owner_id _ new_fencing_token current_fencing_token =>
    ∀ found ∈ row, found.owned_by now owner_id current_fencing_token →
      current_fencing_token ≤ new_fencing_token
  | .acquire_authority _ _ lease_seconds =>
    row = none → ∀ grant ∈ granted, grant.2 < backend.first_epoch timedelta lease_seconds
  | _ => True

/-- No call of the run that the store accepts brings the session's tokens down. -/
def TokensRise (start : Int) (session_id : String) (events : List OwnerEvent) : Prop :=
  ∀ pre event post before, events = pre ++ event :: post →
    OwnerRun backend timedelta start pre before → event.call.session_id = session_id →
      backend.accepts event.call → TokenRises backend timedelta (before.rows.row session_id)
        (issued session_id pre) event.now event.call

end

variable {session_id : String} {start : Int}

theorem TokensRise.prefix {events later : List OwnerEvent}
    (h : TokensRise backend timedelta start session_id (events ++ later)) :
    TokensRise backend timedelta start session_id events := by
  intro pre event post before heq hrun hsession haccepts
  refine h pre event (post ++ later) before ?_ hrun hsession haccepts
  rw [heq, append_assoc, cons_append]

/-! ## The stores move a lease -/

def OwnerRow.lease (row : OwnerRow) : Lease String Int Int where
  holder := row.owner_id
  token := row.fencing_token
  expires := row.lease_expires_at

def OwnerState.cell (state : OwnerState) (session_id : String) (events : List OwnerEvent) :
    Cell String Int Int where
  lease := (state.rows.row session_id).map OwnerRow.lease
  clock := state.clock
  issued := issued session_id events

section Moves

variable {now clock : Int} {granted : List (String × Int)} {old new : Option OwnerRow}

theorem moves_renewed {row : OwnerRow} {owner_id : String} {fencing_token : Int}
    {lease_seconds : Rat} (later : clock ≤ now) (hold : old = some row)
    (live : now < row.lease_expires_at) (hnew : new = some (leased timedelta now owner_id
      lease_seconds fencing_token)) (howner : row.owner_id = owner_id)
    (hrises : row.fencing_token ≤ fencing_token) :
    Lease.Moves ⟨old.map OwnerRow.lease, clock, granted⟩ (now, some (owner_id, fencing_token))
      ⟨new.map OwnerRow.lease, now, granted ++ [(owner_id, fencing_token)]⟩ := by
  subst hold hnew howner
  have hmove := @Lease.Moves.renewed _ _ _ _ _ ⟨some row.lease, clock, granted⟩ now row.lease
    (leased timedelta now row.owner_id lease_seconds fencing_token).lease later rfl live rfl hrises
  exact hmove

theorem moves_taken {owner_id : String} {fencing_token : Int} {lease_seconds : Rat}
    (later : clock ≤ now) (hfree : ∀ row ∈ old, row.lease_expires_at ≤ now)
    (hnew : new = some (leased timedelta now owner_id lease_seconds fencing_token))
    (habove : ∀ grant ∈ granted, grant.2 < fencing_token) :
    Lease.Moves ⟨old.map OwnerRow.lease, clock, granted⟩ (now, some (owner_id, fencing_token))
      ⟨new.map OwnerRow.lease, now, granted ++ [(owner_id, fencing_token)]⟩ := by
  subst hnew
  have hdead : ∀ l ∈ old.map OwnerRow.lease, l.expires ≤ now := by
    intro l hl
    obtain ⟨row, hrow, rfl⟩ := Option.map_eq_some_iff.mp hl
    exact hfree row hrow
  have hmove := @Lease.Moves.taken _ _ _ _ _ ⟨old.map OwnerRow.lease, clock, granted⟩ now
    (leased timedelta now owner_id lease_seconds fencing_token).lease later hdead habove
  exact hmove

theorem moves_standing {row : OwnerRow} (later : clock ≤ now) (hold : old = some row)
    (live : now < row.lease_expires_at) (hnew : new = some row) :
    Lease.Moves ⟨old.map OwnerRow.lease, clock, granted⟩
      (now, some (row.owner_id, row.fencing_token))
      ⟨new.map OwnerRow.lease, now, granted ++ [(row.owner_id, row.fencing_token)]⟩ := by
  subst hold hnew
  have hmove := @Lease.Moves.renewed _ _ _ _ _ ⟨some row.lease, clock, granted⟩ now row.lease
    row.lease later rfl live rfl (le_refl _)
  exact hmove

theorem moves_kept (later : clock ≤ now) (hsame : new = old) :
    Lease.Moves ⟨old.map OwnerRow.lease, clock, granted⟩ (now, none)
      ⟨new.map OwnerRow.lease, now, granted⟩ := by
  subst hsame
  exact .kept later

theorem moves_released (later : clock ≤ now) (hnew : new = none) :
    Lease.Moves ⟨old.map OwnerRow.lease, clock, granted⟩ (now, none)
      ⟨new.map OwnerRow.lease, now, granted⟩ := by
  subst hnew
  exact .released later

end Moves

/-! ## One call -/

/-- A call moved the lease of its session. -/
def CallMoves (rows : OwnerRows) (clock : Int) (granted : List (String × Int))
    (event : OwnerEvent) (rows' : OwnerRows) : Prop :=
  Lease.Moves ⟨(rows.row event.call.session_id).map OwnerRow.lease, clock, granted⟩
    (event.now, event.granted)
    ⟨(rows'.row event.call.session_id).map OwnerRow.lease, event.now,
      granted ++ event.granted.toList⟩

section Calls

variable {rows rows' : OwnerRows} {now clock : Int} {granted : List (String × Int)}
  {session_id owner_id : String} {lease_seconds : Rat}

theorem CallMoves.nothing {call : OwnerCall} {answer : Except StoreError OwnerAnswer}
    (later : clock ≤ now) (hgranted : (OwnerEvent.mk now call answer).granted = none) :
    CallMoves rows clock granted ⟨now, call, answer⟩ rows := by
  rw [CallMoves, hgranted, Option.toList_none, append_nil]
  exact moves_kept later rfl

variable {fencing_token : Int}

theorem sqlite_acquire_cases {answer : Bool}
    (h : SQLiteSessionOwnerStore.acquire timedelta rows now session_id owner_id lease_seconds
      fencing_token = .ok (rows', answer)) :
    require_owner_input session_id owner_id lease_seconds fencing_token = .ok () ∧
    ((answer = false ∧ rows' = rows)
      ∨ (answer = true ∧ rows' = rows ∧ ∃ row, rows.row session_id = some row
        ∧ now < row.lease_expires_at ∧ row.owner_id = owner_id ∧ row.fencing_token = fencing_token)
      ∨ (answer = true
        ∧ rows' = rows.put session_id (leased timedelta now owner_id lease_seconds fencing_token)
        ∧ ∀ row ∈ rows.row session_id, row.lease_expires_at ≤ now
          ∧ row.fencing_token ≤ fencing_token
          ∧ (row.owner_id ≠ owner_id → row.fencing_token < fencing_token))) := by
  simp only [SQLiteSessionOwnerStore.acquire, bind_eq_ok] at h
  obtain ⟨_, hinput, h⟩ := h
  refine ⟨hinput, ?_⟩
  cases hstanding : SQLiteSessionOwnerStore.standing now (rows.row session_id) owner_id
      fencing_token with
  | some standing =>
    rw [hstanding, pure_eq_ok, Prod.mk.injEq] at h
    obtain ⟨rfl, rfl⟩ := h
    unfold SQLiteSessionOwnerStore.standing at hstanding
    cases hrow : rows.row session_id with
    | none => simp [hrow] at hstanding
    | some row =>
      rw [hrow] at hstanding
      simp only at hstanding
      split at hstanding
      · next hlive =>
        by_cases hown : row.owner_id = owner_id ∧ row.fencing_token = fencing_token
        · refine Or.inr (Or.inl ⟨?_, rfl, row, rfl, hlive, hown⟩)
          simpa [hown] using hstanding.symm
        · refine Or.inl ⟨?_, rfl⟩
          simpa [hown] using hstanding.symm
      · split at hstanding
        · exact Or.inl ⟨(Option.some.inj hstanding).symm, rfl⟩
        · split at hstanding
          · exact Or.inl ⟨(Option.some.inj hstanding).symm, rfl⟩
          · cases hstanding
  | none =>
    simp only [hstanding, bind_eq_ok, pure_eq_ok, Prod.mk.injEq] at h
    obtain ⟨_, -, rfl, rfl⟩ := h
    refine Or.inr (Or.inr ⟨rfl, rfl, ?_⟩)
    intro row hrow
    unfold SQLiteSessionOwnerStore.standing at hstanding
    rw [Option.mem_def.mp hrow] at hstanding
    simp only at hstanding
    split at hstanding
    · cases hstanding
    · next hexpired =>
      split at hstanding
      · cases hstanding
      · next hother =>
        split at hstanding
        · cases hstanding
        · next hsame =>
          rw [not_and, not_le] at hother
          rw [not_and, not_lt] at hsame
          refine ⟨not_lt.mp hexpired, ?_, hother⟩
          by_cases howner : row.owner_id = owner_id
          · exact hsame howner
          · exact le_of_lt (hother howner)

variable {new_fencing_token current_fencing_token : Int}

theorem renew_cases {answer : Bool} (h : OwnerBackend.perform backend timedelta rows now
      (.renew session_id owner_id lease_seconds new_fencing_token current_fencing_token)
        = .ok (rows', .granted answer)) :
    backend.accepts (.renew session_id owner_id lease_seconds new_fencing_token
      current_fencing_token) ∧
    ((answer = false ∧ rows' = rows)
      ∨ (answer = true
        ∧ rows' = rows.put session_id (leased timedelta now owner_id lease_seconds
          new_fencing_token)
        ∧ ∃ row ∈ rows.row session_id, row.owned_by now owner_id current_fencing_token)) := by
  have hwritten : ∀ {body : OwnerRows × Bool},
      (if (rows.row session_id).any (·.owned_by now owner_id current_fencing_token) then
        (pure (rows.put session_id (leased timedelta now owner_id lease_seconds new_fencing_token),
          true) : Except StoreError (OwnerRows × Bool))
      else pure (rows, false)) = .ok body →
      (body.2 = false ∧ body.1 = rows) ∨ (body.2 = true
        ∧ body.1 = rows.put session_id (leased timedelta now owner_id lease_seconds
          new_fencing_token)
        ∧ ∃ row ∈ rows.row session_id, row.owned_by now owner_id current_fencing_token) := by
    intro body hbody
    split at hbody
    · next hany =>
      cases hbody
      refine Or.inr ⟨rfl, rfl, ?_⟩
      cases hrow : rows.row session_id with
      | none => simp [hrow] at hany
      | some row => exact ⟨row, rfl, by simpa [hrow] using hany⟩
    · cases hbody
      exact Or.inl ⟨rfl, rfl⟩
  obtain ⟨⟨found, granted⟩, hbody, heq⟩ := map_eq_ok.mp h
  simp only [Prod.map_apply, id_eq, Prod.mk.injEq, OwnerAnswer.granted.injEq] at heq
  obtain ⟨rfl, rfl⟩ := heq
  cases backend with
  | sqlite =>
    simp only [SQLiteSessionOwnerStore.renew, bind_eq_ok, raise_if_eq_ok, not_le] at hbody
    obtain ⟨_, hinput, _, hcurrent, _, -, _, -, hbody⟩ := hbody
    exact ⟨⟨hinput, hcurrent⟩, hwritten hbody⟩
  | postgres =>
    simp only [PGSessionOwnerStore.renew, bind_eq_ok] at hbody
    obtain ⟨_, hbound, _, -, hbody⟩ := hbody
    exact ⟨hbound, hwritten hbody⟩

theorem OwnerRow.owned_by_iff {row : OwnerRow} : row.owned_by now owner_id fencing_token = true ↔
      row.owner_id = owner_id ∧ now < row.lease_expires_at ∧ row.fencing_token = fencing_token := by
  simp [OwnerRow.owned_by]

variable (later : clock ≤ now)
  (hhighest : ∀ row ∈ rows.row session_id, ∀ grant ∈ granted, grant.2 ≤ row.fencing_token)

include later hhighest

variable {answer : OwnerAnswer}

theorem acquire_moves
    (hrises : backend.accepts (.acquire session_id owner_id lease_seconds fencing_token) →
      TokenRises backend timedelta (rows.row session_id) granted now
        (.acquire session_id owner_id lease_seconds fencing_token))
    (h : backend.perform timedelta rows now
      (.acquire session_id owner_id lease_seconds fencing_token) = .ok (rows', answer)) :
    CallMoves rows clock granted
      ⟨now, .acquire session_id owner_id lease_seconds fencing_token, .ok answer⟩ rows' := by
  -- a token above the row's is above everything issued
  have habove : (∀ row ∈ rows.row session_id, row.fencing_token < fencing_token) →
      (rows.row session_id = none → ∀ grant ∈ granted, grant.2 < fencing_token) →
        ∀ grant ∈ granted, grant.2 < fencing_token := by
    intro hsome hnone grant hgrant
    cases hrow : rows.row session_id with
    | none => exact hnone hrow grant hgrant
    | some row => exact lt_of_le_of_lt (hhighest row hrow grant hgrant) (hsome row hrow)
  have htaken : (∀ row ∈ rows.row session_id, row.lease_expires_at ≤ now) →
      (∀ grant ∈ granted, grant.2 < fencing_token) →
        CallMoves rows clock granted
          ⟨now, .acquire session_id owner_id lease_seconds fencing_token, .ok (.granted true)⟩
          (rows.put session_id (leased timedelta now owner_id lease_seconds fencing_token)) := by
    intro hfree hfresh
    exact moves_taken later hfree (row_put_self _ _ _) hfresh
  obtain ⟨⟨found, given⟩, hbody, heq⟩ := map_eq_ok.mp h
  simp only [Prod.map_apply, id_eq, Prod.mk.injEq] at heq
  obtain ⟨rfl, rfl⟩ := heq
  cases backend with
  | sqlite =>
    obtain ⟨hinput, ⟨rfl, rfl⟩ | ⟨rfl, rfl, row, hrow, hlive, rfl, rfl⟩ | ⟨rfl, rfl, hexpired⟩⟩ :=
      sqlite_acquire_cases hbody
    · exact CallMoves.nothing later rfl
    · exact moves_standing later hrow hlive hrow
    · have hcondition := hrises hinput
      refine htaken (fun row hrow => (hexpired row hrow).1) (habove ?_ ?_)
      · intro row hrow
        obtain ⟨hdead, hle, hother⟩ := hexpired row hrow
        by_cases howner : row.owner_id = owner_id
        · simp only [TokenRises, Option.mem_def.mp hrow] at hcondition
          exact lt_of_le_of_ne hle (Ne.symm (hcondition hdead howner))
        · exact hother howner
      · intro hnone
        simpa only [TokenRises, hnone] using hcondition
  | postgres =>
    simp only [PGSessionOwnerStore.acquire, bind_eq_ok] at hbody
    obtain ⟨_, hbound, hbody⟩ := hbody
    have hcondition := hrises hbound
    split at hbody
    · next hall =>
      cases hbody
      have hexpired : ∀ row ∈ rows.row session_id, row.lease_expires_at ≤ now := by
        intro row hrow
        simpa [Option.mem_def.mp hrow] using hall
      refine htaken hexpired (habove ?_ ?_)
      · intro row hrow
        simp only [TokenRises, Option.mem_def.mp hrow] at hcondition
        exact hcondition (hexpired row hrow)
      · intro hnone
        simpa only [TokenRises, hnone] using hcondition
    · cases hbody
      exact CallMoves.nothing later rfl

omit hhighest in
theorem renewed_moves {call : OwnerCall} {row : OwnerRow} (hsession : call.session_id = session_id)
    (hgranted : (OwnerEvent.mk now call (.ok answer)).granted = some (owner_id, new_fencing_token))
    (hrow : row ∈ rows.row session_id) (howned : row.owned_by now owner_id current_fencing_token)
    (hle : current_fencing_token ≤ new_fencing_token) :
    CallMoves rows clock granted ⟨now, call, .ok answer⟩
      (rows.put session_id (leased timedelta now owner_id lease_seconds new_fencing_token)) := by
  obtain ⟨howner, hlive, htoken⟩ := OwnerRow.owned_by_iff.mp howned
  rw [CallMoves, hgranted]
  simp only [hsession]
  refine moves_renewed later hrow hlive (row_put_self _ _ _) howner ?_
  rw [htoken]
  exact hle

omit hhighest in
theorem renew_moves (hrises : backend.accepts
        (.renew session_id owner_id lease_seconds new_fencing_token current_fencing_token) →
      TokenRises backend timedelta (rows.row session_id) granted now
        (.renew session_id owner_id lease_seconds new_fencing_token current_fencing_token))
    (h : backend.perform timedelta rows now
      (.renew session_id owner_id lease_seconds new_fencing_token current_fencing_token)
        = .ok (rows', answer)) :
    CallMoves rows clock granted
      ⟨now, .renew session_id owner_id lease_seconds new_fencing_token current_fencing_token,
        .ok answer⟩ rows' := by
  obtain ⟨⟨found, given⟩, -, heq⟩ := map_eq_ok.mp h
  simp only [Prod.map_apply, id_eq, Prod.mk.injEq] at heq
  obtain ⟨rfl, rfl⟩ := heq
  obtain ⟨haccepts, ⟨rfl, rfl⟩ | ⟨rfl, rfl, row, hrow, howned⟩⟩ := renew_cases h
  · exact CallMoves.nothing later rfl
  · exact renewed_moves later rfl rfl hrow howned (hrises haccepts row hrow howned)

omit hhighest in
theorem release_moves
    (h : backend.perform timedelta rows now (.release session_id owner_id fencing_token)
      = .ok (rows', answer)) :
    CallMoves rows clock granted
      ⟨now, .release session_id owner_id fencing_token, .ok answer⟩ rows' := by
  have hdeleted : ∀ {body : OwnerRows × Bool},
      (if (rows.row session_id).any (fun row =>
          row.owner_id = owner_id ∧ row.fencing_token = fencing_token) then
        (pure (rows.erase session_id, true) : Except StoreError (OwnerRows × Bool))
      else pure (rows, false)) = .ok body →
        body.1 = rows ∨ body.1 = rows.erase session_id := by
    intro body hbody
    split at hbody
    · cases hbody
      exact Or.inr rfl
    · cases hbody
      exact Or.inl rfl
  obtain ⟨⟨found, given⟩, hbody, heq⟩ := map_eq_ok.mp h
  simp only [Prod.map_apply, id_eq, Prod.mk.injEq] at heq
  obtain ⟨rfl, rfl⟩ := heq
  have hrows : found = rows ∨ found = rows.erase session_id := by
    cases backend with
    | sqlite =>
      simp only [SQLiteSessionOwnerStore.release, bind_eq_ok] at hbody
      obtain ⟨_, -, _, -, hbody⟩ := hbody
      exact hdeleted hbody
    | postgres =>
      simp only [PGSessionOwnerStore.release, bind_eq_ok] at hbody
      obtain ⟨_, -, hbody⟩ := hbody
      exact hdeleted hbody
  rcases hrows with rfl | rfl
  · exact CallMoves.nothing later rfl
  · have hgranted : (OwnerEvent.mk now (.release session_id owner_id fencing_token)
        (.ok (.granted given))).granted = none := rfl
    rw [CallMoves, hgranted, Option.toList_none, append_nil]
    exact moves_released later (AList.lookup_erase session_id rows)

theorem acquire_authority_moves
    (hrises : backend.accepts (.acquire_authority session_id owner_id lease_seconds) →
      TokenRises backend timedelta (rows.row session_id) granted now
        (.acquire_authority session_id owner_id lease_seconds))
    (h : backend.perform timedelta rows now (.acquire_authority session_id owner_id lease_seconds)
      = .ok (rows', answer)) :
    CallMoves rows clock granted
      ⟨now, .acquire_authority session_id owner_id lease_seconds, .ok answer⟩ rows' := by
  obtain ⟨⟨found, authority⟩, hbody, heq⟩ := map_eq_ok.mp h
  simp only [Prod.map_apply, id_eq, Prod.mk.injEq] at heq
  obtain ⟨rfl, rfl⟩ := heq
  -- an expired row is taken one above its token
  have hnext : ∀ row ∈ rows.row session_id, ∀ grant ∈ granted, grant.2 < row.fencing_token + 1 :=
    fun row hrow grant hgrant => Int.lt_add_one_of_le (hhighest row hrow grant hgrant)
  cases backend with
  | sqlite =>
    simp only [SQLiteSessionOwnerStore.acquire_authority, bind_eq_ok, pure_eq_ok,
      Prod.mk.injEq] at hbody
    obtain ⟨_, hinput, epoch, hepoch, _, -, rfl, rfl⟩ := hbody
    cases hrow : rows.row session_id with
    | none =>
      rw [hrow] at hepoch
      cases hepoch
      refine moves_taken later (fun row hmem => ?_) (row_put_self _ _ _) ?_
      · simp only [OwnerCall.session_id, hrow] at hmem
        cases hmem
      · exact hrises hinput hrow
    | some row =>
      simp only [hrow, SQLiteSessionOwnerStore.next_epoch, bind_eq_ok, raise_if_eq_ok,
        not_and, not_not] at hepoch
      obtain ⟨_, howner, hepoch⟩ := hepoch
      split at hepoch
      · next hlive =>
        cases hepoch
        exact moves_renewed later hrow hlive (row_put_self _ _ _) (howner hlive)
          (le_refl _)
      · next hexpired =>
        cases hepoch
        refine moves_taken later (fun found hfound => ?_) (row_put_self _ _ _)
          (hnext row hrow)
        rw [Option.mem_unique hfound hrow]
        exact not_lt.mp hexpired
  | postgres =>
    simp only [SessionOwnerStore.acquire_authority, bind_eq_ok, raise_if_eq_ok]
      at hbody
    obtain ⟨_, hsession, _, howner, _, hlease, hbody⟩ := hbody
    have hcondition := hrises ⟨hsession, howner, Rat.not_le.mp hlease⟩
    cases hrow : rows.row session_id with
    | some row =>
      simp only [SessionOwnerStore.locked_row, hrow, Option.getD_some] at hbody
      split at hbody
      · next hlive =>
        simp only [bind_eq_ok, raise_if_eq_ok, not_not, pure_eq_ok,
          Prod.mk.injEq] at hbody
        obtain ⟨_, rfl, rfl, rfl⟩ := hbody
        exact moves_standing later hrow hlive (row_put_self _ _ _)
      · next hexpired =>
        simp only [bind_eq_ok, pure_eq_ok, Prod.mk.injEq] at hbody
        obtain ⟨_, -, rfl, rfl⟩ := hbody
        refine moves_taken later (fun found hfound => ?_) (row_put_self _ _ _)
          (hnext row hrow)
        rw [Option.mem_unique hfound hrow]
        exact not_lt.mp hexpired
    | none =>
      have hfree : ∀ row ∈ rows.row session_id, row.lease_expires_at ≤ now := by
        intro row hmem
        rw [hrow] at hmem
        cases hmem
      have habove := hcondition hrow
      simp only [SessionOwnerStore.locked_row, hrow, Option.getD_none, leased] at hbody
      by_cases hpositive : 0 < timedelta lease_seconds
      · rw [if_pos (by omega)] at hbody
        simp only [bind_eq_ok, raise_if_eq_ok, not_not, pure_eq_ok,
          Prod.mk.injEq] at hbody
        obtain ⟨_, -, rfl, rfl⟩ := hbody
        rw [OwnerBackend.first_epoch, if_pos hpositive] at habove
        exact moves_taken later hfree (row_put_self _ _ _) habove
      · -- the inserted row is expired, and is taken in the same transaction
        rw [if_neg (by omega)] at hbody
        simp only [bind_eq_ok, pure_eq_ok, Prod.mk.injEq] at hbody
        obtain ⟨_, -, rfl, rfl⟩ := hbody
        rw [OwnerBackend.first_epoch, if_neg hpositive] at habove
        exact moves_taken later hfree (row_put_self _ _ _) habove

end Calls

variable {authority : SessionAuthority}

theorem renew_authority_moves {rows rows' : OwnerRows} {now clock : Int}
    {granted : List (String × Int)} {lease_seconds : Rat} {answer : OwnerAnswer}
    (later : clock ≤ now)
    (h : backend.perform timedelta rows now (.renew_authority authority lease_seconds)
      = .ok (rows', answer)) :
    CallMoves rows clock granted ⟨now, .renew_authority authority lease_seconds, .ok answer⟩
      rows' := by
  obtain ⟨⟨found, renewed⟩, hbody, heq⟩ := map_eq_ok.mp h
  simp only [Prod.map_apply, id_eq, Prod.mk.injEq] at heq
  obtain ⟨rfl, rfl⟩ := heq
  cases backend with
  | sqlite =>
    simp only [SQLiteSessionOwnerStore.renew_authority, bind_eq_ok, raise_if_eq_ok,
      Bool.not_eq_false, pure_eq_ok, Prod.mk.injEq] at hbody
    obtain ⟨_, -, _, -, _, hany, rfl, rfl⟩ := hbody
    cases hrow : rows.row authority.session_id with
    | none => simp [hrow] at hany
    | some row =>
      exact renewed_moves later rfl rfl hrow (by simpa [hrow] using hany) (le_refl _)
  | postgres =>
    simp only [SessionOwnerStore.renew_authority, bind_eq_ok] at hbody
    obtain ⟨⟨written, granted_again⟩, hrenew, hbody⟩ := hbody
    simp only [raise_if_eq_ok, Bool.not_eq_false, pure_eq_ok, Prod.mk.injEq] at hbody
    obtain ⟨_, rfl, rfl, rfl⟩ := hbody
    have hperform : OwnerBackend.perform .postgres timedelta rows now (.renew authority.session_id
        authority.owner_id lease_seconds authority.epoch authority.epoch)
          = .ok (written, .granted true) := map_eq_ok.mpr ⟨_, hrenew, rfl⟩
    obtain ⟨-, ⟨hfalse, -⟩ | ⟨-, rfl, row, hrow, howned⟩⟩ := renew_cases hperform
    · cases hfalse
    · exact renewed_moves later rfl rfl hrow howned (le_refl _)

/-! ## Runs -/

variable {event : OwnerEvent}

theorem OwnerEvent.grant_of_error {error : StoreError} (h : event.answer = .error error)
    (session_id : String) : event.grant session_id = none := by
  unfold OwnerEvent.grant OwnerEvent.granted
  rw [h]
  cases event.call <;> simp

section

variable (session_id : String)

def SameOthers (rows rows' : OwnerRows) : Prop :=
  ∀ other, other ≠ session_id → rows'.row other = rows.row other

theorem SameOthers.refl (rows : OwnerRows) : SameOthers session_id rows rows :=
  fun _ _ => rfl

theorem SameOthers.put (rows : OwnerRows) (row : OwnerRow) :
    SameOthers session_id rows (rows.put session_id row) :=
  fun _ hother => row_put_of_ne _ _ hother

theorem SameOthers.erase (rows : OwnerRows) :
    SameOthers session_id rows (rows.erase session_id) :=
  fun _ hother => AList.lookup_erase_ne hother

end

theorem SameOthers.of_conditional {rows written : OwnerRows} {condition : Prop}
    [Decidable condition] {body : OwnerRows × Bool}
    (hwritten : SameOthers session_id rows written)
    (h : (if condition then (pure (written, true) : Except StoreError (OwnerRows × Bool))
      else pure (rows, false)) = .ok body) : SameOthers session_id rows body.1 := by
  split at h
  · cases h
    exact hwritten
  · cases h
    exact SameOthers.refl session_id rows

/-- **A call writes the row of its own session at most.** -/
theorem perform_others {rows rows' : OwnerRows} {now : Int} {call : OwnerCall}
    {answer : OwnerAnswer} (h : backend.perform timedelta rows now call = .ok (rows', answer)) :
    SameOthers call.session_id rows rows' := by
  have hput := SameOthers.put call.session_id rows
  have herase := SameOthers.erase call.session_id rows
  cases call with
  | acquire session_id owner_id lease_seconds fencing_token =>
    obtain ⟨⟨found, given⟩, hbody, heq⟩ := map_eq_ok.mp h
    obtain ⟨rfl, -⟩ := Prod.mk.inj heq
    cases backend with
    | sqlite =>
      obtain ⟨-, ⟨-, rfl⟩ | ⟨-, rfl, -⟩ | ⟨-, rfl, -⟩⟩ := sqlite_acquire_cases hbody
      · exact SameOthers.refl _ _
      · exact SameOthers.refl _ _
      · exact hput _
    | postgres =>
      simp only [PGSessionOwnerStore.acquire, bind_eq_ok] at hbody
      obtain ⟨_, -, hbody⟩ := hbody
      exact SameOthers.of_conditional (hput _) hbody
  | renew session_id owner_id lease_seconds new_fencing_token current_fencing_token =>
    obtain ⟨⟨found, given⟩, -, heq⟩ := map_eq_ok.mp h
    obtain ⟨rfl, rfl⟩ := Prod.mk.inj heq
    obtain ⟨-, ⟨-, rfl⟩ | ⟨-, rfl, -⟩⟩ := renew_cases h
    · exact SameOthers.refl _ _
    · exact hput _
  | release session_id owner_id fencing_token =>
    obtain ⟨⟨found, given⟩, hbody, heq⟩ := map_eq_ok.mp h
    obtain ⟨rfl, -⟩ := Prod.mk.inj heq
    cases backend with
    | sqlite =>
      simp only [SQLiteSessionOwnerStore.release, bind_eq_ok] at hbody
      obtain ⟨_, -, _, -, hbody⟩ := hbody
      exact SameOthers.of_conditional herase hbody
    | postgres =>
      simp only [PGSessionOwnerStore.release, bind_eq_ok] at hbody
      obtain ⟨_, -, hbody⟩ := hbody
      exact SameOthers.of_conditional herase hbody
  | acquire_authority session_id owner_id lease_seconds =>
    obtain ⟨⟨found, given⟩, hbody, heq⟩ := map_eq_ok.mp h
    obtain ⟨rfl, -⟩ := Prod.mk.inj heq
    cases backend with
    | sqlite =>
      simp only [SQLiteSessionOwnerStore.acquire_authority, bind_eq_ok,
        pure_eq_ok, Prod.mk.injEq] at hbody
      obtain ⟨_, -, _, -, _, -, rfl, -⟩ := hbody
      exact hput _
    | postgres =>
      simp only [SessionOwnerStore.acquire_authority, bind_eq_ok] at hbody
      obtain ⟨_, -, _, -, _, -, hbody⟩ := hbody
      split at hbody
      · simp only [bind_eq_ok, pure_eq_ok, Prod.mk.injEq] at hbody
        obtain ⟨_, -, rfl, -⟩ := hbody
        exact hput _
      · simp only [bind_eq_ok, pure_eq_ok, Prod.mk.injEq] at hbody
        obtain ⟨_, -, rfl, -⟩ := hbody
        exact hput _
  | renew_authority authority lease_seconds =>
    obtain ⟨⟨found, given⟩, hbody, heq⟩ := map_eq_ok.mp h
    obtain ⟨rfl, -⟩ := Prod.mk.inj heq
    cases backend with
    | sqlite =>
      simp only [SQLiteSessionOwnerStore.renew_authority, bind_eq_ok,
        pure_eq_ok, Prod.mk.injEq] at hbody
      obtain ⟨_, -, _, -, _, -, rfl, -⟩ := hbody
      exact hput _
    | postgres =>
      simp only [SessionOwnerStore.renew_authority, bind_eq_ok] at hbody
      obtain ⟨⟨written, again⟩, hrenew, hbody⟩ := hbody
      simp only [pure_eq_ok, Prod.mk.injEq] at hbody
      obtain ⟨_, -, rfl, -⟩ := hbody
      have hperform : OwnerBackend.perform .postgres timedelta rows now
          (.renew authority.session_id authority.owner_id lease_seconds authority.epoch
            authority.epoch) = .ok (written, .granted again) :=
        map_eq_ok.mpr ⟨_, hrenew, rfl⟩
      obtain ⟨-, ⟨-, rfl⟩ | ⟨-, rfl, -⟩⟩ := renew_cases hperform
      · exact SameOthers.refl _ _
      · exact hput _
  | assert_authority authority =>
    obtain ⟨_, -, heq⟩ := map_eq_ok.mp h
    cases heq
    exact SameOthers.refl _ _

/-- **Every call of an owner store is a move of the lease**, while the tokens rise. -/
theorem owner_step_moves {state state' : OwnerState} {events : List OwnerEvent}
    (htight : Tight (state.cell session_id events))
    (hstep : OwnerStep backend timedelta state event state')
    (hrises : event.call.session_id = session_id → backend.accepts event.call →
      TokenRises backend timedelta (state.rows.row session_id) (issued session_id events) event.now
        event.call) :
    Lease.Moves (state.cell session_id events) (event.now, event.grant session_id)
      (state'.cell session_id (events ++ [event])) := by
  obtain ⟨now, call, given⟩ := event
  obtain ⟨later, hclock, hanswer⟩ := hstep
  simp only at later hclock hanswer
  unfold cell
  rw [hclock, issued_snoc]
  cases hperform : backend.perform timedelta state.rows now call with
  | error error =>
    rw [hperform] at hanswer
    obtain ⟨herror, hrows⟩ := hanswer
    rw [OwnerEvent.grant_of_error herror, hrows, Option.toList_none, append_nil]
    exact moves_kept later rfl
  | ok result =>
    obtain ⟨rows, answer⟩ := result
    rw [hperform] at hanswer
    obtain ⟨rfl, hrows⟩ := hanswer
    rw [hrows]
    by_cases hsession : call.session_id = session_id
    · have hgrant : (OwnerEvent.mk now call (.ok answer)).grant session_id
          = (OwnerEvent.mk now call (.ok answer)).granted := if_pos hsession
      rw [hgrant]
      subst hsession
      have hhighest : ∀ row ∈ state.rows.row call.session_id,
          ∀ grant ∈ issued call.session_id events, grant.2 ≤ row.fencing_token := by
        intro row hrow grant hgranted
        refine htight.highest row.lease ?_ grant hgranted
        simp only [cell, Option.mem_def.mp hrow]
        rfl
      have hrises := hrises rfl
      cases call with
      | acquire => exact acquire_moves later hhighest hrises hperform
      | renew => exact renew_moves later hrises hperform
      | release => exact release_moves later hperform
      | acquire_authority => exact acquire_authority_moves later hhighest hrises hperform
      | renew_authority => exact renew_authority_moves later hperform
      | assert_authority authority =>
        obtain ⟨_, -, heq⟩ := map_eq_ok.mp hperform
        cases heq
        exact CallMoves.nothing later rfl
    · have hgrant : (OwnerEvent.mk now call (.ok answer)).grant session_id = none := if_neg hsession
      rw [hgrant, Option.toList_none, append_nil]
      exact moves_kept later (perform_others hperform session_id (Ne.symm hsession))

theorem owner_run_moves {pre events : List OwnerEvent} {before state : OwnerState}
    (hpre : OwnerRun backend timedelta start pre before)
    (htight : Tight (before.cell session_id pre))
    (h : Run (OwnerStep backend timedelta) before events state)
    (hrises : TokensRise backend timedelta start session_id (pre ++ events)) :
    Run Lease.Moves (before.cell session_id pre)
      (events.map (fun event => (event.now, event.grant session_id)))
      (state.cell session_id (pre ++ events)) := by
  induction h with
  | refl =>
    rw [append_nil]
    exact Run.refl
  | @snoc history middle after event hrun hstep ih =>
    rw [← append_assoc] at hrises ⊢
    have hmoves := ih hrises.prefix
    rw [map_append, map_singleton]
    refine hmoves.snoc (owner_step_moves (tight_run hmoves htight) hstep ?_)
    exact hrises (pre ++ history) event [] middle rfl (hpre.append hrun)

theorem owner_tight {events : List OwnerEvent} {state : OwnerState}
    (h : OwnerRun backend timedelta start events state)
    (hrises : TokensRise backend timedelta start session_id events) :
    Tight (state.cell session_id events) :=
  tight_run (owner_run_moves Run.refl (Tight.init start) h hrises)
    (Tight.init start)

theorem assert_session_authority_eq_ok {rows : OwnerRows} {now : Int} :
    assert_session_authority rows now authority = .ok () ↔
      Passes ((rows.row authority.session_id).map OwnerRow.lease) now
        (authority.owner_id, authority.epoch) := by
  unfold assert_session_authority Passes
  cases rows.row authority.session_id with
  | none => simp
  | some row => simp [check_bind_eq_ok, OwnerRow.lease]

/-! ## The claim -/

/-- An owner store fences a session along a run. -/
structure OwnerFencing (backend : OwnerBackend) (timedelta : Rat → Int) (start : Int)
    (session_id : String) (events : List OwnerEvent) : Prop where
  kept : ∀ pre event post before after, events = pre ++ event :: post →
    OwnerRun backend timedelta start pre before → OwnerStep backend timedelta before event after →
      ∀ row ∈ before.rows.row session_id, ∀ row' ∈ after.rows.row session_id,
        row.fencing_token ≤ row'.fencing_token
  fresh : ∀ pre event post before after grant, events = pre ++ event :: post →
    OwnerRun backend timedelta start pre before → OwnerStep backend timedelta before event after →
      event.grant session_id = some grant →
        (∀ row ∈ before.rows.row session_id,
          row.lease_expires_at ≤ event.now ∨ row.owner_id ≠ grant.1) →
            ∀ earlier ∈ issued session_id pre, earlier.2 < grant.2
  stale : ∀ pre check between again post authority,
    events = pre ++ check :: between ++ again :: post → authority.session_id = session_id →
      (authority.owner_id, authority.epoch) ∈ issued session_id pre →
        check.call = .assert_authority authority → again.call = .assert_authority authority →
          check.answer ≠ .ok .passed → again.answer ≠ .ok .passed

theorem check_answer {state state' : OwnerState}
    (h : OwnerStep backend timedelta state event state')
    (hcall : event.call = .assert_authority authority) :
    state'.rows = state.rows ∧ (event.answer = .ok .passed ↔
      Passes ((state.rows.row authority.session_id).map OwnerRow.lease) event.now
        (authority.owner_id, authority.epoch)) := by
  obtain ⟨-, -, hanswer⟩ := h
  rw [hcall] at hanswer
  rw [← assert_session_authority_eq_ok]
  cases hcheck : assert_session_authority state.rows event.now authority with
  | error error =>
    simp only [OwnerBackend.perform, hcheck, Except.map_error] at hanswer
    obtain ⟨herror, hrows⟩ := hanswer
    exact ⟨hrows, by simp [herror]⟩
  | ok _ =>
    simp only [OwnerBackend.perform, hcheck] at hanswer
    obtain ⟨hok, hrows⟩ := hanswer
    exact ⟨hrows, by simp [hok]⟩

/-- **Owner fencing.** In every run of either store in which no call brings the session's tokens
down, the current token never falls, a session that changes hands or is acquired again gets a
token above every earlier one, and an authority that failed the check never passes it again. -/
theorem owner_fencing {start : Int} {session_id : String} {events : List OwnerEvent}
    {state : OwnerState} (hrun : OwnerRun backend timedelta start events state)
    (hrises : TokensRise backend timedelta start session_id events) :
    OwnerFencing backend timedelta start session_id events := by
  -- the session's lease at any point of the run, and the move that an event makes there
  have htight : ∀ {pre rest before}, events = pre ++ rest →
      OwnerRun backend timedelta start pre before → Tight (before.cell session_id pre) := by
    rintro pre rest before rfl hpre
    exact owner_tight hpre hrises.prefix
  have hmove : ∀ {pre event post before after}, events = pre ++ event :: post →
      OwnerRun backend timedelta start pre before → OwnerStep backend timedelta before event after →
        Lease.Moves (before.cell session_id pre) (event.now, event.grant session_id)
          (after.cell session_id (pre ++ [event])) := by
    intro pre event post before after heq hpre hstep
    exact owner_step_moves (htight heq hpre) hstep (hrises pre event post before heq hpre)
  have hlease : ∀ {current : OwnerState} {history : List OwnerEvent} {row : OwnerRow},
      row ∈ current.rows.row session_id → row.lease ∈ (current.cell session_id history).lease := by
    intro current history row hrow
    simp only [cell, Option.mem_def.mp hrow]
    rfl
  refine ⟨?_, ?_, ?_⟩
  · intro pre event post before after heq hpre hstep row hrow row' hrow'
    exact ((hmove heq hpre hstep).token_rises (htight heq hpre)).1 row.lease (hlease hrow) row'.lease
      (hlease hrow')
  · intro pre event post before after grant heq hpre hstep hgrant hfree
    refine ((hmove heq hpre hstep).token_rises (htight heq hpre)).2 grant hgrant ?_
    intro l hl
    obtain ⟨row, hrow, rfl⟩ := Option.map_eq_some_iff.mp hl
    exact hfree row hrow
  · rintro pre check between again post authority rfl rfl hissued hcheck hagain hfailed hpassed
    -- the states around the two checks
    obtain ⟨late, after, hlate, hagain_step, -⟩ := hrun.split
    obtain ⟨before, middle, hpre, hcheck_step, hbetween⟩ := hlate.split
    have hrises_late : TokensRise backend timedelta start authority.session_id
        (pre ++ [check] ++ between) := by
      have hlate_events := hrises.prefix
      rwa [← singleton_append, ← append_assoc] at hlate_events
    have hmiddle := hpre.snoc hcheck_step
    have htight_middle := owner_tight hmiddle hrises_late.prefix
    -- the check that failed changed nothing, so the authority is stale after it
    have hstale : ¬ Passes (middle.cell authority.session_id (pre ++ [check])).lease
        (middle.cell authority.session_id (pre ++ [check])).clock
        (authority.owner_id, authority.epoch) := by
      obtain ⟨hrows, hanswer⟩ := check_answer hcheck_step hcheck
      simp only [cell, hrows, hcheck_step.2.1]
      rwa [Ne, hanswer] at hfailed
    have hissued_middle : (authority.owner_id, authority.epoch)
        ∈ (middle.cell authority.session_id (pre ++ [check])).issued := by
      simp only [cell, issued_snoc]
      exact mem_append_left _ hissued
    have hstays := stale_run (owner_run_moves hmiddle htight_middle hbetween hrises_late)
      htight_middle hissued_middle hstale
    rw [(check_answer hagain_step hagain).2] at hpassed
    exact stale_mono hstays hagain_step.1 hpassed

/-! ## Runs, worked out -/

def sample_timedelta (seconds : Rat) : Int := (seconds * 1000000).floor

def sample_authority : SessionAuthority where
  session_id := "s"
  owner_id := "worker"
  epoch := 1

def sample_lease_script : List (Int × OwnerCall) :=
  [(0, .acquire_authority "s" "worker" 1),
   (500000, .renew_authority sample_authority 1),
   (1000000, .assert_authority sample_authority),
   (1500000, .assert_authority sample_authority)]

def sample_lease_run : List OwnerEvent × OwnerState :=
  play_owner .sqlite sample_timedelta ⟨∅, 0⟩ sample_lease_script

def sample_release_script : List (Int × OwnerCall) :=
  [(0, .acquire_authority "s" "worker" 30),
   (1, .release "s" "worker" 1),
   (2, .assert_authority sample_authority),
   (3, .acquire_authority "s" "worker" 30),
   (4, .assert_authority sample_authority)]

def sample_release_run : List OwnerEvent × OwnerState :=
  play_owner .sqlite sample_timedelta ⟨∅, 0⟩ sample_release_script

def sample_released : OwnerState :=
  (play_owner .sqlite sample_timedelta ⟨∅, 0⟩ (sample_release_script.take 2)).2

def sample_reacquired : OwnerState :=
  (play_owner .sqlite sample_timedelta ⟨∅, 0⟩ (sample_release_script.take 4)).2

theorem TokensRise.of_renewals {first : OwnerEvent} {rest : List OwnerEvent} {owner_id : String}
    {lease_seconds : Rat}
    (hfirst : first.call = .acquire_authority session_id owner_id lease_seconds)
    (hrest : ∀ event ∈ rest, match event.call with
      | .renew_authority _ _ => True
      | .assert_authority _ => True
      | _ => False) :
    TokensRise backend timedelta start session_id (first :: rest) := by
  intro pre event post before heq hrun hsession haccepts
  cases pre with
  | nil =>
    obtain ⟨rfl, -⟩ := List.cons.inj heq
    rw [hfirst]
    intro _ grant hgrant
    cases hgrant
  | cons head tail =>
    obtain ⟨-, htail⟩ := List.cons.inj heq
    have hevent := hrest event (by rw [htail]; exact mem_append_right _ mem_cons_self)
    cases hcall : event.call with
    | renew_authority => exact True.intro
    | assert_authority => exact True.intro
    | acquire => rw [hcall] at hevent; exact hevent.elim
    | renew => rw [hcall] at hevent; exact hevent.elim
    | release => rw [hcall] at hevent; exact hevent.elim
    | acquire_authority => rw [hcall] at hevent; exact hevent.elim

/-- The first worked run is fenced. -/
theorem sample_lease_fenced : OwnerFencing .sqlite sample_timedelta 0 "s" sample_lease_run.1 := by
  refine owner_fencing (play_owner_run (by decide)) (TokensRise.of_renewals rfl ?_)
  refine forall_mem_cons.mpr ⟨True.intro, ?_⟩
  refine forall_mem_cons.mpr ⟨True.intro, ?_⟩
  refine forall_mem_cons.mpr ⟨True.intro, ?_⟩
  exact forall_mem_nil _

/-- **A release starts the tokens again**: the authority that was released passes the check
again after it has failed it. -/
theorem release_revives_authority :
    ¬ ∀ (backend : OwnerBackend) (timedelta : Rat → Int) (start : Int) (session_id : String)
        (events : List OwnerEvent) (state : OwnerState),
      OwnerRun backend timedelta start events state →
        OwnerFencing backend timedelta start session_id events := by
  intro hall
  have hfenced := hall .sqlite sample_timedelta 0 "s" sample_release_run.1 sample_release_run.2
    (play_owner_run (by decide))
  have hnever := hfenced.stale (sample_release_run.1.take 2)
    (sample_released.event .sqlite sample_timedelta 2 (.assert_authority sample_authority))
    ((sample_release_run.1.drop 3).take 1)
    (sample_reacquired.event .sqlite sample_timedelta 4 (.assert_authority sample_authority)) []
    sample_authority rfl rfl (by decide) rfl rfl
  exact hnever (by decide) (by decide +kernel)

end CodingAgentLoop
