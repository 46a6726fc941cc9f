/-
What the durable store never takes back.

A fresh commit writes one receipt, a binding names one child, and no event of a run removes
either. So a transition id is committed once in its epoch, whoever submits it again and with
whatever unit; and a child stays bound to the effect that started it.
-/
import CodingAgentLoop.ParentSettlement
import CodingAgentLoop.TransitionPayload

namespace CodingAgentLoop

open Lib Table List Result

variable {host : Host} {db first later last : Tables} {before events : List RecoveryEvent}

variable {transition_id : String} {receipt row : TransitionReceiptRow}

theorem receipt_lasts (hrun : Run (RecoveryStep host) first events later)
    {key : String × Nat × String} (h : first.session_transition_receipts.row key = some receipt) :
    later.session_transition_receipts.row key = some receipt :=
  hrun.invariant (I := fun db => db.session_transition_receipts.row key = some receipt) h
    fun _ _ _ h hstep => receipt_kept hstep h

/-- Beside the receipt of the unit's own id no other is adopted. -/
theorem adopt_own_receipt {adopted_rows : List (String × Option TransitionReceiptRow)}
    {parent_effect_status : Option String} {found : Option (String × TransitionReceiptRow)}
    (h : adopt_parent_settlement_receipt transition_id (some receipt) adopted_rows
      parent_effect_status = .ok found) : found = some (transition_id, receipt) := by
  simp only [adopt_parent_settlement_receipt, filterMap_cons, Option.map_some] at h
  split at h
  · cases h
  · next hpresent =>
    rw [(List.cons.inj hpresent).1]
    exact (Except.ok.inj h).symm
  · next hpresent => cases hpresent

theorem find_own_receipt {session_id fingerprint found_id : String} {projection_epoch : Nat}
    {unit : AuthoritativeUnitOfWork}
    (hown : db.session_transition_receipts.row (session_id, projection_epoch, transition_id)
      = some receipt)
    (h : find_receipt db session_id unit projection_epoch transition_id fingerprint
      = .ok (some (found_id, row))) :
    found_id = transition_id ∧ row = receipt ∧ row.mutation_fingerprint = fingerprint := by
  unfold find_receipt at h
  simp only [hown] at h
  split at h
  · simp only [bind_eq_ok] at h
    obtain ⟨adopted, hadopted, h⟩ := h
    rw [adopt_own_receipt hadopted] at h
    simp only [bind_eq_ok, raise_if_eq_ok, pure_eq_ok, Option.some.injEq, Prod.mk.injEq,
      true_and, not_not] at h
    obtain ⟨_, hfingerprint, rfl, rfl⟩ := h
    exact ⟨rfl, rfl, hfingerprint⟩
  · simp only [check_fingerprint, bind_eq_ok, raise_if_eq_ok, pure_eq_ok, Option.some.injEq,
      Prod.mk.injEq, not_not] at h
    obtain ⟨_, hfingerprint, rfl, rfl⟩ := h
    exact ⟨rfl, rfl, hfingerprint⟩

/-- The fingerprint a typed unit is committed under. -/
def UnitOfWork.fingerprint (host : Host) (unit : UnitOfWork) : Option String :=
  unit.val.state_cas.bind fun state_cas =>
    unit.val.state_value.map (transition_mutation_fingerprint host unit.val state_cas)

/-- **A transition id is committed once.** Whatever is done with the store in between: a later
commit under the id of a committed transition, in the epoch it was committed in, is the same
mutation, answers with what was committed then, and writes nothing. -/
theorem transition_committed_once {unit again : UnitOfWork} {authority owner : OwnerAuthority}
    {clock later_clock : Datetime} {stored later_stored : Option JsonObject}
    {enabled later_enabled : Bool} {commit repeated : AuthoritativeCommit}
    (htyped : unit.val.transition_id = some transition_id)
    (hcommitted : commit_authoritative_uow host db clock authority unit stored enabled
      = .ok (first, commit)) (hnew : commit.idempotent = false)
    (hrun : Run (RecoveryStep host) first events later)
    (hsame : again.val.transition_id = some transition_id)
    (hsession : owner.session_id = authority.session_id)
    (hepoch : (later.fact_source authority.session_id).projection_epoch
      = (db.fact_source authority.session_id).projection_epoch)
    (hagain : commit_authoritative_uow host later later_clock owner again later_stored
      later_enabled = .ok (last, repeated)) :
    again.fingerprint host = unit.fingerprint host
      ∧ repeated = { commit with
          idempotent := true
          projection := (later.fact_source authority.session_id).projection }
      ∧ last = later.ensure_fact_source authority.session_id := by
  obtain ⟨cas, value, hcas, hvalue, -, ⟨-, ⟨_, _, -, rfl⟩, -⟩ | ⟨plan, receipt, hwritten, hfresh⟩⟩ :=
    typed_commit_cases htyped hcommitted
  · cases hnew
  have hstored : first.session_transition_receipts.row
      (authority.session_id, cas.projection_epoch, transition_id) = some receipt :=
    hfresh.receipts_eq ▸ row_put_self ..
  have hkept := receipt_lasts hrun hstored
  obtain ⟨again_cas, again_value, hcas', hvalue', -, hreplayed | ⟨_, _, -, hfresh'⟩⟩ :=
    typed_commit_cases hsame hagain
  · obtain ⟨hcut, ⟨found_id, row, hfound, rfl⟩, rfl⟩ := hreplayed
    rw [hsession, hepoch, ← hfresh.epoch] at hcut
    rw [hsession, hcut] at hfound
    obtain ⟨rfl, rfl, hfingerprint⟩ := find_own_receipt hkept hfound
    refine ⟨?_, ?_, by rw [hsession]⟩
    · simp only [UnitOfWork.fingerprint, hcas, hvalue, hcas', hvalue', Option.bind_some,
        Option.map_some]
      rw [← hwritten, hfingerprint]
    · rw [hfresh.commit_eq]
      simp only [replay_commit, fresh_commit, hfresh.result, hsession, hcut]
      rw [hepoch]
      rfl
  · have hunwritten := hfresh'.receipt_new
    rw [hsession, hfresh'.epoch, hsession, hepoch, ← hfresh.epoch, hkept] at hunwritten
    cases hunwritten

def sample_between (first : Tables) : Tables :=
  play_recovery sample_host first
    [.store (.call 2 (.commit_authoritative_uow sample_owner sample_dispatch none false))]

/-- A commit that is repeated after the effect it prepared was dispatched. -/
theorem sample_committed_once : ∃ first commit last repeated, sample_prepared = .ok (first, commit)
    ∧ commit_authoritative_uow sample_host (sample_between first) 3 sample_owner sample_prepare none
      false = .ok (last, repeated) ∧ repeated.facts = commit.facts := by
  have hplayed : (sample_prepared >>= fun answer => commit_authoritative_uow sample_host
      (sample_between answer.1) 3 sample_owner sample_prepare none false >>= fun _ =>
        pure (answer.2.idempotent, ((sample_between answer.1).fact_source "s").projection_epoch))
      = .ok (false, 0) := by
    decide +kernel
  simp only [bind_eq_ok, pure_eq_ok, Prod.mk.injEq] at hplayed
  obtain ⟨⟨first, commit⟩, hcommitted, ⟨last, repeated⟩, hagain, hnew, hepoch⟩ := hplayed
  obtain ⟨-, hrepeated, -⟩ := transition_committed_once rfl hcommitted hnew
    (play_recovery_run ..) rfl rfl (hepoch.trans (by decide +kernel)) hagain
  exact ⟨first, commit, last, repeated, hcommitted, hagain, hrepeated ▸ rfl⟩

/-- **A child stays bound.** From the commit that binds it on, whatever is done with the store:
its binding keeps all but its lease, the effect that started it keeps a slot, and no other effect
of the session has its run. -/
theorem child_stays_bound (hbefore : RecoveryRun host before db)
    (hrun : Run (RecoveryStep host) db events later) {key : String × String}
    {binding : ChildExecutionBinding}
    (hrow : db.session_child_bindings.row key = some binding) :
    ∃ found, later.session_child_bindings.row key = some found
      ∧ found.identity = binding.identity ∧ effect_status later key ≠ none
      ∧ ∀ other another, later.session_child_bindings.row other = some another →
          other.1 = key.1 → another.child_run_id = binding.child_run_id → other = key := by
  have hlater := children_bound (hbefore.append hrun)
  obtain ⟨-, found, hfound, hidentity⟩ := hrun.invariant
    (I := fun db => ChildUnique db.session_child_bindings
      ∧ ∃ found, db.session_child_bindings.row key = some found
        ∧ found.identity = binding.identity)
    ⟨(children_bound hbefore).unique, binding, hrow, rfl⟩
    fun _ _ _ ⟨hunique, found, hfound, hidentity⟩ hstep => by
      obtain ⟨hunique, hkept⟩ := bindings_keep hunique hstep
      obtain ⟨next, hnext, hsame⟩ := hkept key found hfound
      exact ⟨hunique, next, hnext, hsame.trans hidentity⟩
  refine ⟨found, hfound, hidentity, hlater.slots key found hfound, ?_⟩
  intro other another hother hsession hchild
  have hrun_id : found.identity.child_run_id = binding.identity.child_run_id := by rw [hidentity]
  exact hlater.unique _ _ _ _ hother hfound hsession (hchild.trans hrun_id.symm)

/-- The child that is recovered twice. -/
theorem sample_child_stays_bound : ∃ binding found,
    (play_recovery sample_host Tables.empty (sample_recovery.take 2)).session_child_bindings.row
        ("s", "e") = some binding
      ∧ (play_recovery sample_host Tables.empty sample_recovery).session_child_bindings.row
        ("s", "e") = some found
      ∧ found.identity = binding.identity := by
  cases hrow : (play_recovery sample_host Tables.empty
      (sample_recovery.take 2)).session_child_bindings.row ("s", "e") with
  | none => exact absurd hrow (by decide +kernel)
  | some binding =>
    obtain ⟨found, hfound, hidentity, -⟩ := child_stays_bound
      (play_recovery_run sample_host Tables.empty (sample_recovery.take 2))
      (play_recovery_run sample_host _ (sample_recovery.drop 2)) hrow
    exact ⟨binding, found, rfl, hfound, hidentity⟩

end CodingAgentLoop
