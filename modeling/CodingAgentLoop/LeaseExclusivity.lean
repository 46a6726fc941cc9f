/-
A recovered child has one owner at a time.

The invariant is that the two places a lease is kept in are in step (`LeasesInStep`):
the lease of a binding is active in the ledger with the same content, and an active
lease of the ledger is the one of its binding. Each event either leaves both alone,
inserts bindings that have no lease, or writes one lease into both. From the
invariant follow the statements about any run: a child has at most one active lease,
each lease of a binding has a higher generation than the one before, and a lease id
is issued once.

A guarded commit compares the cut of the lease with the session's dispatch
generation. `CutTaken` says what that comparison means: since the event that took the
cut, the generation has grown by the invalidating commands admitted since.
-/
import CodingAgentLoop.RecoveryLeases
import CodingAgentLoop.MailboxLedger
import CodingAgentLoop.CommitPort

namespace CodingAgentLoop

open Lib Table Tables AuthoritativeUnitOfWork List Result

variable {host : Host} {db db' : Tables} {clock : Datetime}

/-! ## What an event of the store does to the bindings -/

variable {authority : OwnerAuthority} {commit : AuthoritativeCommit}

theorem commit_legacy_leases {unit : AuthoritativeUnitOfWork} {event : EventRecord}
    (h : commit_legacy db clock authority unit event = .ok (db', commit)) : LeasesKept db db' := by
  rcases commit_legacy_written h with ⟨-, tapes, rfl⟩ | ⟨tapes, run_state, -, -, hwritten⟩
  · have hkept := LeasesKept.ensure_fact_source { db with session_tapes := tapes }
      authority.session_id
    exact ⟨hkept.bindings, hkept.leases⟩
  · simp only [write_legacy, bind_eq_ok, pure_eq_ok, Prod.mk.injEq] at hwritten
    obtain ⟨events, -, runs, -, rfl, -⟩ := hwritten
    exact ⟨rfl, rfl⟩

theorem admit_runtime_command_leases {command : RuntimeCommand}
    {admission : RuntimeCommandAdmission}
    (h : admit_runtime_command db clock authority command = .ok (db', admission)) :
    LeasesKept db db' := by
  simp only [admit_runtime_command, bind_eq_ok] at h
  obtain ⟨invalidates_dispatch, -, _, -, h⟩ := h
  split at h
  · simp only [bind_eq_ok, pure_eq_ok, Prod.mk.injEq] at h
    obtain ⟨answer, -, rfl, -⟩ := h
    exact LeasesKept.ensure_fact_source db _
  · rw [pure_eq_ok, Prod.mk.injEq] at h
    obtain ⟨rfl, -⟩ := h
    exact ⟨rfl, rfl⟩

theorem record_evidence_leases {evidence recorded : EffectReconciliationEvidence}
    (h : record_effect_reconciliation_evidence db clock authority evidence = .ok (db', recorded)) :
    LeasesKept db db' := by
  simp only [record_effect_reconciliation_evidence, bind_eq_ok] at h
  obtain ⟨_, -, _, -, _, -, h⟩ := h
  split at h
  · simp only [bind_eq_ok, pure_eq_ok, Prod.mk.injEq] at h
    obtain ⟨_, -, rfl, -⟩ := h
    exact ⟨rfl, rfl⟩
  · simp only [bind_eq_ok, pure_eq_ok, Prod.mk.injEq] at h
    obtain ⟨_, -, rfl, -⟩ := h
    exact ⟨rfl, rfl⟩

theorem AttemptWritten.leases {call : StoreCall} {key : AttemptKey}
    {updated : ExecutorAttemptRecord} (h : AttemptWritten db call key db' updated) :
    LeasesKept db db' := by
  obtain ⟨_, -, -, rfl, -⟩ := h
  exact ⟨rfl, rfl⟩

/-- What an event of the store does to bindings and leases: nothing, or it inserts the bindings of
a unit that commits now. -/
inductive BindingStep (db : Tables) : StoreEvent → Tables → Prop
  | kept {event : StoreEvent} {db' : Tables} (h : LeasesKept db db') : BindingStep db event db'
  | bound {clock : Datetime} {authority : OwnerAuthority} {unit : UnitOfWork}
      {stored : Option JsonObject} {new_sessions_enabled : Bool} {commit : AuthoritativeCommit}
      {db' : Tables}
      (inserted : insert_child_bindings authority.session_id db.session_child_bindings
        unit.val.child_bindings = .ok db'.session_child_bindings)
      (leases : db'.session_recovery_leases = db.session_recovery_leases)
      (slots : ∀ mutation ∈ unit.val.normalized_effect_mutations,
        db'.session_effect_slots.row (authority.session_id, mutation.effect_id) ≠ none) :
      BindingStep db (.call clock
        (.commit_authoritative_uow authority unit stored new_sessions_enabled)
        (.ok (.commit commit))) db'

theorem FreshCommit.slots_written {unit : AuthoritativeUnitOfWork} {state_cas : OperationStateCAS}
    {transition_id : String} {state_value : JsonObject} {receipt : TransitionReceiptRow}
    {plan : CommitPlan} (hvalid : unit.post_init = .ok ())
    (h : FreshCommit db authority unit state_cas transition_id state_value receipt plan db'
      commit) :
    ∀ mutation ∈ unit.normalized_effect_mutations,
      db'.session_effect_slots.row (authority.session_id, mutation.effect_id) ≠ none := by
  intro mutation hmem
  rcases h.effect_row (effect_ids_nodup hvalid) authority.session_id
    mutation.effect_id with ⟨-, hother⟩ | ⟨-, written, -, -, slot, -, hrow⟩
  · exact absurd rfl (hother rfl mutation hmem)
  · rw [hrow]
    exact Option.some_ne_none _

theorem binding_step {event : StoreEvent} (h : StoreStep host db event db') :
    BindingStep db event db' := by
  cases event with
  | owner_changed session_id owner =>
    cases h
    exact .kept ⟨rfl, rfl⟩
  | owner_released session_id =>
    cases h
    exact .kept ⟨rfl, rfl⟩
  | projection_epoch_opened session_id =>
    cases h
    exact .kept ⟨rfl, rfl⟩
  | call clock call answer =>
    cases answer with
    | error error =>
      rw [rejected_unchanged h]
      exact .kept ⟨rfl, rfl⟩
    | ok answer =>
      have hperform := accepted h
      cases call with
      | commit_authoritative_uow authority unit stored new_sessions_enabled =>
        obtain ⟨commit, hcommit, rfl⟩ := map_answer_eq_ok hperform
        cases htyped : unit.val.transition_id with
        | none =>
          obtain ⟨session_state, event, -, hlegacy⟩ := legacy_commit_cases htyped hcommit
          exact .kept (commit_legacy_leases hlegacy)
        | some transition_id =>
          obtain ⟨state_cas, state_value, -, -, -, hreplay | ⟨plan, receipt, -, hfresh⟩⟩ :=
            typed_commit_cases htyped hcommit
          · rw [hreplay.tables]
            exact .kept (LeasesKept.ensure_fact_source db _)
          · refine .bound ?_ ?_ (hfresh.slots_written unit.property)
            · obtain ⟨events, bindings, -, hbindings, rfl⟩ := hfresh.tables
              exact hbindings
            · obtain ⟨events, bindings, -, -, rfl⟩ := hfresh.tables
              rfl
      | admit_runtime_command authority command =>
        obtain ⟨admission, hadmission, rfl⟩ := map_answer_eq_ok hperform
        exact .kept (admit_runtime_command_leases hadmission)
      | record_effect_reconciliation_evidence authority evidence =>
        obtain ⟨recorded, hrecorded, rfl⟩ := map_answer_eq_ok hperform
        exact .kept (record_evidence_leases hrecorded)
      | reserve_executor_attempt authority identity executor_id lease_expires_at =>
        obtain ⟨updated, hupdated, rfl⟩ := map_answer_eq_ok hperform
        obtain ⟨-, ⟨rfl, -⟩ | hwritten⟩ := reserve_cases hupdated
        · exact .kept ⟨rfl, rfl⟩
        · exact .kept hwritten.leases
      | mark_executor_attempt_started authority identity executor_id claim_generation now =>
        obtain ⟨updated, hupdated, rfl⟩ := map_answer_eq_ok hperform
        obtain ⟨-, ⟨rfl, -⟩ | hwritten⟩ := started_cases hupdated
        · exact .kept ⟨rfl, rfl⟩
        · exact .kept hwritten.leases
      | mark_executor_attempt_quiescent authority identity executor_id claim_generation now
          evidence_ref =>
          obtain ⟨updated, hupdated, rfl⟩ := map_answer_eq_ok hperform
          obtain ⟨-, rfl | hwritten⟩ := quiescent_cases hupdated
          · exact .kept ⟨rfl, rfl⟩
          · exact .kept hwritten.leases
      | quiesce_claimed_executor_attempt authority identity executor_id now evidence_ref =>
        obtain ⟨updated, hupdated, rfl⟩ := map_answer_eq_ok hperform
        obtain ⟨-, rfl | hwritten⟩ := quiesce_claimed_cases hupdated
        · exact .kept ⟨rfl, rfl⟩
        · exact .kept hwritten.leases
      | revoke_expired_executor_reservation authority identity executor_id claim_generation now
          evidence_ref =>
          obtain ⟨updated, hupdated, rfl⟩ := map_answer_eq_ok hperform
          obtain ⟨-, rfl | hwritten⟩ := revoke_cases hupdated
          · exact .kept ⟨rfl, rfl⟩
          · exact .kept hwritten.leases

/-! ## The bindings of a session -/

abbrev BindingTable := Table (String × String) ChildExecutionBinding

/-- `UNIQUE (session_id, child_run_id)`. -/
def ChildUnique (bindings : BindingTable) : Prop :=
  ∀ key other binding binding', bindings.row key = some binding →
    bindings.row other = some binding' → key.1 = other.1 →
    binding.child_run_id = binding'.child_run_id → key = other

variable {binding : ChildExecutionBinding} {session_id child_run_id : String}

theorem child_binding_row (h : child_binding_of_run db session_id child_run_id = some binding) :
    ∃ key, db.session_child_bindings.row key = some binding ∧ key.1 = session_id
      ∧ binding.child_run_id = child_run_id := by
  unfold child_binding_of_run at h
  obtain ⟨⟨key, stored⟩, hfirst, rfl⟩ := Option.map_eq_some_iff.mp h
  obtain ⟨hrow, hkey⟩ := first_eq_some hfirst
  simp only [decide_eq_true_eq] at hkey
  exact ⟨key, hrow, hkey⟩

variable {key : String × String}

theorem child_binding_of_row (hunique : ChildUnique db.session_child_bindings)
    (h : db.session_child_bindings.row key = some binding) :
    child_binding_of_run db key.1 binding.child_run_id = some binding := by
  cases hfound : child_binding_of_run db key.1 binding.child_run_id with
  | none =>
    unfold child_binding_of_run at hfound
    rw [Option.map_eq_none_iff, first_eq_none] at hfound
    have hnot := hfound key binding h
    simp at hnot
  | some found =>
    obtain ⟨other, hother, hsession, hchild⟩ := child_binding_row hfound
    have hkey := hunique other key found binding hother h hsession hchild
    rw [hkey, h] at hother
    exact hother.symm

/-- The rows behind the insertion of bindings: the old ones, and the new ones under keys that were
free. -/
theorem insert_child_bindings_row {session_id : String} {bindings after : BindingTable}
    {inserted : List ChildExecutionBinding}
    (h : insert_child_bindings session_id bindings inserted = .ok after) :
    (∀ key binding, bindings.row key = some binding → after.row key = some binding)
      ∧ (∀ key binding, after.row key = some binding →
          bindings.row key = some binding
            ∨ binding ∈ inserted ∧ key = (session_id, binding.parent_effect_id))
      ∧ (ChildUnique bindings → ChildUnique after) := by
  induction inserted generalizing bindings with
  | nil =>
    cases h
    exact ⟨fun _ _ hrow => hrow, fun _ _ hrow => Or.inl hrow, fun hunique => hunique⟩
  | cons binding rest ih =>
    simp only [insert_child_bindings, bind_eq_ok, raise_if_eq_ok, insert_row_eq_ok] at h
    obtain ⟨_, hchild, _, ⟨hfree, rfl⟩, h⟩ := h
    rw [Option.not_isSome_iff_eq_none, first_eq_none] at hchild
    obtain ⟨hkept, hnew, hunique⟩ := ih h
    refine ⟨?_, ?_, ?_⟩
    · intro key stored hrow
      refine hkept key stored ?_
      rw [row_put_of_ne _ _ (fun heq => by rw [heq, hfree] at hrow; cases hrow)]
      exact hrow
    · intro key stored hrow
      rcases hnew key stored hrow with hput | ⟨hmem, hkey⟩
      · rw [row_put] at hput
        split at hput
        · next hkey =>
          cases hput
          exact Or.inr ⟨mem_cons_self, hkey⟩
        · exact Or.inl hput
      · exact Or.inr ⟨mem_cons_of_mem _ hmem, hkey⟩
    · intro hbefore
      refine hunique ?_
      -- the child of the new binding was bound nowhere in the session
      have hfresh : ∀ key stored, bindings.row key = some stored → key.1 = session_id →
          stored.child_run_id ≠ binding.child_run_id := by
        intro key stored hrow hsession heq
        have hnot := hchild key stored hrow
        simp [hsession, heq] at hnot
      intro key other stored stored' hrow hother hsession heq
      rw [row_put] at hrow hother
      by_cases hkey : key = (session_id, binding.parent_effect_id)
      · by_cases hkey' : other = (session_id, binding.parent_effect_id)
        · rw [hkey, hkey']
        · rw [if_pos hkey, Option.some.injEq] at hrow
          rw [if_neg hkey'] at hother
          subst hrow
          exact (hfresh other stored' hother (hsession.symm.trans (by rw [hkey])) heq.symm).elim
      · by_cases hkey' : other = (session_id, binding.parent_effect_id)
        · rw [if_pos hkey', Option.some.injEq] at hother
          rw [if_neg hkey] at hrow
          subst hother
          exact (hfresh key stored hrow (hsession.trans (by rw [hkey'])) heq).elim
        · rw [if_neg hkey] at hrow
          rw [if_neg hkey'] at hother
          exact hbefore key other stored stored' hrow hother hsession heq

theorem set_child_binding_row {bindings : BindingTable} {binding updated : ChildExecutionBinding}
    (hunique : ChildUnique bindings) (hkey : bindings.row key = some binding)
    (hsession : key.1 = session_id) (hchild : binding.child_run_id = child_run_id)
    (other : String × String) :
    (set_child_binding bindings session_id child_run_id updated).row other
      = if other = key then some updated else bindings.row other := by
  unfold set_child_binding
  rw [row_update]
  by_cases hother : other = key
  · rw [hother, hkey, if_pos rfl, Option.map_some, if_pos ⟨hsession, hchild⟩]
  · rw [if_neg hother]
    cases hrow : bindings.row other with
    | none => rfl
    | some stored =>
      rw [Option.map_some, if_neg]
      rintro ⟨hsession', hchild'⟩
      exact hother (hunique other key stored binding hrow hkey (hsession'.trans hsession.symm)
        (hchild'.trans hchild.symm))

theorem ChildUnique.updated {bindings after : BindingTable}
    {binding updated : ChildExecutionBinding} (hunique : ChildUnique bindings)
    (hkey : bindings.row key = some binding)
    (hchild : updated.child_run_id = binding.child_run_id)
    (hafter : ∀ other, after.row other = if other = key then some updated else bindings.row other) :
    ChildUnique after := by
  -- each row has the child that the row under its key had before
  have hbefore : ∀ other stored, after.row other = some stored →
      ∃ old, bindings.row other = some old ∧ old.child_run_id = stored.child_run_id := by
    intro other stored hrow
    rw [hafter] at hrow
    split at hrow
    · next heq =>
      cases hrow
      exact ⟨binding, heq ▸ hkey, hchild.symm⟩
    · exact ⟨stored, hrow, rfl⟩
  intro first second stored stored' hfirst hsecond hsession hsame
  obtain ⟨old, hold, hchild_old⟩ := hbefore first stored hfirst
  obtain ⟨old', hold', hchild_old'⟩ := hbefore second stored' hsecond
  exact hunique first second old old' hold hold' hsession
    (hchild_old.trans (hsame.trans hchild_old'.symm))

/-! ## The invariant -/

/-- The two places a lease is kept in are in step. -/
structure LeasesInStep (db : Tables) : Prop where
  child_unique : ChildUnique db.session_child_bindings
  ledgered : ∀ key binding lease, db.session_child_bindings.row key = some binding →
    binding.active_lease = some lease →
    db.session_recovery_leases.row (key.1, lease.lease_id)
      = some { child_run_id := binding.child_run_id, status := "active", lease }
  standing : ∀ key row, db.session_recovery_leases.row key = some row → row.status = "active" →
    ∃ bound binding, db.session_child_bindings.row bound = some binding ∧ bound.1 = key.1
      ∧ binding.child_run_id = row.child_run_id ∧ binding.active_lease = some row.lease
  named : ∀ key row, db.session_recovery_leases.row key = some row →
    row.lease.lease_id = key.2 ∧ row.lease.child_run_id = row.child_run_id

namespace LeasesInStep

variable {key other : String × String} {binding stored : ChildExecutionBinding}
  {lease active : RecoveredChildExecutionLease}

theorem owner (hstep : LeasesInStep db) (hkey : db.session_child_bindings.row key = some binding)
    (hlease : binding.active_lease = some lease)
    (hother : db.session_child_bindings.row other = some stored)
    (hactive : stored.active_lease = some active)
    (hsame : (other.1, active.lease_id) = (key.1, lease.lease_id)) : other = key := by
  have hrow := hstep.ledgered key binding lease hkey hlease
  have hrow' := hstep.ledgered other stored active hother hactive
  rw [hsame, hrow, Option.some.injEq, RecoveryLeaseRow.mk.injEq] at hrow'
  rw [Prod.mk.injEq] at hsame
  exact hstep.child_unique other key stored binding hother hkey hsame.1 hrow'.1.symm

theorem kept (hstep : LeasesInStep db) (h : LeasesKept db db') : LeasesInStep db' := by
  obtain ⟨hunique, hledgered, hstanding, hnamed⟩ := hstep
  rw [← h.bindings] at hunique hledgered hstanding
  rw [← h.leases] at hledgered hstanding hnamed
  exact ⟨hunique, hledgered, hstanding, hnamed⟩

theorem bound {session_id : String} {inserted : List ChildExecutionBinding}
    (hstep : LeasesInStep db) (hunleased : ∀ binding ∈ inserted, binding.active_lease = none)
    (hinserted : insert_child_bindings session_id db.session_child_bindings inserted
      = .ok db'.session_child_bindings)
    (hleases : db'.session_recovery_leases = db.session_recovery_leases) : LeasesInStep db' := by
  obtain ⟨hkept, hnew, hunique⟩ := insert_child_bindings_row hinserted
  refine ⟨hunique hstep.child_unique, ?_, ?_, ?_⟩
  · intro key binding lease hrow hlease
    rw [hleases]
    rcases hnew key binding hrow with hold | ⟨hmem, -⟩
    · exact hstep.ledgered key binding lease hold hlease
    · rw [hunleased binding hmem] at hlease
      cases hlease
  · intro key row hrow hactive
    rw [hleases] at hrow
    obtain ⟨bound, binding, hbound, hrest⟩ := hstep.standing key row hrow hactive
    exact ⟨bound, binding, hkept bound binding hbound, hrest⟩
  · intro key row hrow
    rw [hleases] at hrow
    exact hstep.named key row hrow

end LeasesInStep

/-! ## What an operation on a lease does -/

/-- A lease written into its binding and its ledger row, over the one the binding had. -/
structure LeaseWritten (db : Tables) (key : String × String) (binding : ChildExecutionBinding)
    (lease : RecoveredChildExecutionLease) (db' : Tables) : Prop where
  row : db.session_child_bindings.row key = some binding
  child : lease.child_run_id = binding.child_run_id
  advances : ∀ active, binding.active_lease = some active →
    active.resume_generation < lease.resume_generation ∧ active.owner_epoch ≤ lease.owner_epoch
  identity : (db.session_recovery_leases.row (key.1, lease.lease_id) = none)
    ∨ ∃ active, binding.active_lease = some active ∧ active.lease_id = lease.lease_id
        ∧ active.owner_epoch = lease.owner_epoch
  bindings : ∀ other, db'.session_child_bindings.row other
    = if other = key then some { binding with active_lease := some lease }
      else db.session_child_bindings.row other
  leases : ∀ other, db'.session_recovery_leases.row other
    = if other = (key.1, lease.lease_id) then
        some { child_run_id := binding.child_run_id, status := "active", lease }
      else if ∃ active ∈ binding.active_lease, other = (key.1, active.lease_id) then
        (db.session_recovery_leases.row other).map ({ · with status := "superseded" })
      else db.session_recovery_leases.row other

namespace LeaseWritten

variable {key : String × String} {binding : ChildExecutionBinding}
  {lease : RecoveredChildExecutionLease}

theorem spares (h : LeaseWritten db key binding lease db') (hstep : LeasesInStep db)
    {other : String × String} {stored : ChildExecutionBinding}
    {active : RecoveredChildExecutionLease} (hother : other ≠ key)
    (hrow : db.session_child_bindings.row other = some stored)
    (hactive : stored.active_lease = some active) :
    db'.session_recovery_leases.row (other.1, active.lease_id)
      = db.session_recovery_leases.row (other.1, active.lease_id) := by
  rw [h.leases, if_neg, if_neg]
  · rintro ⟨overtaken, hovertaken, hsame⟩
    exact hother (hstep.owner h.row hovertaken hrow hactive hsame)
  · intro hsame
    rcases h.identity with hfree | ⟨overtaken, hovertaken, hid, -⟩
    · rw [← hsame, hstep.ledgered other stored active hrow hactive] at hfree
      cases hfree
    · rw [← hid] at hsame
      exact hother (hstep.owner h.row hovertaken hrow hactive hsame)

theorem in_step (h : LeaseWritten db key binding lease db') (hstep : LeasesInStep db) :
    LeasesInStep db' := by
  have hchild : ({ binding with active_lease := some lease } : ChildExecutionBinding).child_run_id
      = binding.child_run_id := rfl
  refine ⟨hstep.child_unique.updated h.row hchild h.bindings, ?_, ?_, ?_⟩
  · intro other stored active hrow hactive
    rw [h.bindings] at hrow
    split at hrow
    · next heq =>
      subst heq
      cases hrow
      cases hactive
      rw [h.leases, if_pos rfl]
    · next hother =>
      rw [h.spares hstep hother hrow hactive]
      exact hstep.ledgered other stored active hrow hactive
  · intro other row hrow hactive
    rw [h.leases] at hrow
    split at hrow
    · next heq =>
      subst heq
      cases hrow
      exact ⟨key, _, (h.bindings key).trans (if_pos rfl), rfl, rfl, rfl⟩
    · split at hrow
      · -- a superseded row is not active
        obtain ⟨old, -, rfl⟩ := Option.map_eq_some_iff.mp hrow
        simp at hactive
      · next hovertaken =>
        obtain ⟨bound, stored, hbound, hsession, hchild, hstored⟩ :=
          hstep.standing other row hrow hactive
        refine ⟨bound, stored, ?_, hsession, hchild, hstored⟩
        rw [h.bindings, if_neg, hbound]
        rintro rfl
        rw [h.row, Option.some.injEq] at hbound
        subst hbound
        refine hovertaken ⟨row.lease, hstored, ?_⟩
        rw [hsession, (hstep.named other row hrow).1]
  · intro other row hrow
    rw [h.leases] at hrow
    split at hrow
    · next heq =>
      cases hrow
      exact ⟨by rw [heq], h.child⟩
    · split at hrow
      · obtain ⟨old, hold, rfl⟩ := Option.map_eq_some_iff.mp hrow
        exact hstep.named other old hold
      · exact hstep.named other row hrow

end LeaseWritten

variable {lease : RecoveredChildExecutionLease}

theorem LeaseIssued.written {child_run_id lease_id : String}
    (h : LeaseIssued db authority child_run_id lease_id binding lease db')
    (hstep : LeasesInStep db) :
    ∃ key, key.1 = authority.session_id ∧ LeaseWritten db key binding lease db' := by
  obtain ⟨key, hrow, hsession, hchild⟩ := child_binding_row h.found
  have hnew := h.new
  rw [← hsession] at hnew
  refine ⟨key, hsession, hrow, h.child, ?_, Or.inl (h.named ▸ hnew), ?_, ?_⟩
  · intro active hactive
    refine ⟨?_, ?_⟩
    · rw [h.generation, hactive]
      exact Nat.lt_succ_self _
    · rcases h.overtakes active hactive with hid | hlater
      · -- the lease the binding has is in the ledger, the new id is not
        rw [← hid, hstep.ledgered key binding active hrow hactive] at hnew
        cases hnew
      · rw [h.epoch]
        exact Nat.le_of_lt hlater
  · intro other
    rw [h.bindings, set_child_binding_row hstep.child_unique hrow hsession hchild]
  · intro other
    rw [h.leases, row_put, h.named, h.child, hsession]
    cases hactive : binding.active_lease with
    | none => simp
    | some active =>
      simp only [Option.elim_some, supersede_lease, row_update, Option.mem_some_iff,
        exists_eq_left']
      by_cases hid : other = (authority.session_id, active.lease_id)
      · simp [hid]
      · simp [hid]

theorem LeaseUpdated.written {session_id : String} {lease updated : RecoveredChildExecutionLease}
    {resume_cut : Nat} (h : LeaseUpdated db session_id binding lease resume_cut updated db')
    (hstep : LeasesInStep db) :
    ∃ key, key.1 = session_id ∧ LeaseWritten db key binding updated db' := by
  obtain ⟨key, hrow, hsession, hchild⟩ := child_binding_row h.found
  have hledgered := hstep.ledgered key binding lease hrow h.standing
  refine ⟨key, hsession, hrow, h.child.trans hchild.symm, ?_,
    Or.inr ⟨lease, h.standing, h.named.symm, h.epoch.symm⟩, ?_, ?_⟩
  · intro active hactive
    rw [h.standing, Option.some.injEq] at hactive
    subst hactive
    rw [h.generation, h.epoch]
    exact ⟨Nat.lt_succ_self _, le_refl _⟩
  · intro other
    rw [h.bindings, set_child_binding_row hstep.child_unique hrow hsession hchild]
  · intro other
    rw [h.leases, set_active_lease, row_update, h.standing, h.named, ← hsession]
    by_cases hid : other = (key.1, lease.lease_id)
    · simp [hid, hledgered]
    · simp [hid]

/-! ## What an event does -/

/-- The event took the cut of the lease: an acquisition or a rebase in the session answered it. -/
def RecoveryEvent.took_cut (session_id : String) (lease : RecoveredChildExecutionLease) :
    RecoveryEvent → Prop
  | .lease _ (.acquire_recovered_child_execution_lease authority _ _) (.ok answered) =>
    authority.session_id = session_id ∧ answered.lease_id = lease.lease_id
      ∧ answered.resume_cut = lease.resume_cut
  | .lease _ (.rebase_recovered_child_execution_lease authority _) (.ok answered) =>
    authority.session_id = session_id ∧ answered.lease_id = lease.lease_id
      ∧ answered.resume_cut = lease.resume_cut
  | _ => False

/-- The lease an acquisition under the id answered. -/
def RecoveryEvent.acquired (session_id lease_id : String) :
    RecoveryEvent → Option RecoveredChildExecutionLease
  | .lease _ (.acquire_recovered_child_execution_lease authority _ acquired_id) (.ok answered) =>
    if authority.session_id = session_id ∧ acquired_id = lease_id then some answered else none
  | _ => none

def RecoveryEvent.admitted (session_id : String) :
    RecoveryEvent → Option (RuntimeCommand × RuntimeCommandAdmission)
  | .store event => event.admitted session_id
  | .lease _ _ _ => none

/-- A unit that is committed binds children that have no lease yet: a lease is written by the
operations on leases alone. -/
def BindsUnleased : RecoveryEvent → Prop
  | .store (.call _ (.commit_authoritative_uow _ unit _ _) _) =>
    ∀ binding ∈ unit.val.child_bindings, binding.active_lease = none
  | _ => True

theorem child_bindings_unleased (session_id parent_run_id prepared_transition_id : String)
    (plans : List EffectPlan) :
    ∀ binding ∈ child_bindings session_id parent_run_id prepared_transition_id plans,
      binding.active_lease = none := by
  intro binding hmem
  unfold child_bindings at hmem
  obtain ⟨plan, -, rfl⟩ := mem_map.mp hmem
  rfl

/-- What an event does to bindings and leases. -/
inductive LeaseStep (db : Tables) (event : RecoveryEvent) (db' : Tables) : Prop
  | kept (h : LeasesKept db db')
  | bound {session_id : String} {bindings : List ChildExecutionBinding}
      (unleased : ∀ binding ∈ bindings, binding.active_lease = none)
      (inserted : insert_child_bindings session_id db.session_child_bindings bindings
        = .ok db'.session_child_bindings)
      (leases : db'.session_recovery_leases = db.session_recovery_leases)
  | taken {key : String × String} {binding : ChildExecutionBinding}
      {lease : RecoveredChildExecutionLease} (written : LeaseWritten db key binding lease db')
      (took : event.took_cut key.1 lease)
      (cut : lease.resume_cut = (db.fact_source key.1).dispatch_generation)
  | refreshed {key : String × String} {binding : ChildExecutionBinding}
      {lease old : RecoveredChildExecutionLease} (written : LeaseWritten db key binding lease db')
      (standing : binding.active_lease = some old) (named : lease.lease_id = old.lease_id)
      (cut : lease.resume_cut = old.resume_cut)

theorem LeaseStands.kept {session_id : String} (h : LeaseStands db session_id lease db') :
    LeasesKept db db' := by
  rw [h.tables]
  exact LeasesKept.ensure_fact_source db session_id

theorem lease_call_step {call : LeaseCall} {answered : RecoveredChildExecutionLease}
    (hstep : LeasesInStep db) (h : perform_lease db clock call = .ok (db', answered)) :
    LeaseStep db (.lease clock call (.ok answered)) db' := by
  cases call with
  | acquire_recovered_child_execution_lease authority child_run_id lease_id =>
    rcases acquire_cases h with ⟨_, _, -, -, -, -, rfl⟩ | ⟨binding, hissued⟩
    · exact .kept (LeasesKept.ensure_fact_source db _)
    · obtain ⟨key, hsession, hwritten⟩ := hissued.written hstep
      exact .taken hwritten ⟨hsession.symm, rfl, rfl⟩ (hsession ▸ hissued.cut)
  | rebase_recovered_child_execution_lease authority lease =>
    rcases rebase_cases h with ⟨-, hstands⟩ | ⟨binding, hupdated⟩
    · exact .kept hstands.kept
    · obtain ⟨key, hsession, hwritten⟩ := hupdated.written hstep
      exact .taken hwritten ⟨hsession.symm, rfl, rfl⟩ (hsession ▸ hupdated.cut)
  | refresh_recovered_child_execution_lease_for_approval authority lease state_version approval
      expected_dispatch_cut =>
      rcases refresh_cases h with ⟨-, hstands⟩ | ⟨binding, hupdated⟩
      · exact .kept hstands.kept
      · obtain ⟨key, -, hwritten⟩ := hupdated.written hstep
        exact .refreshed hwritten hupdated.standing hupdated.named hupdated.cut

theorem lease_step {event : RecoveryEvent} (hunleased : BindsUnleased event)
    (hstep : LeasesInStep db) (h : RecoveryStep host db event db') : LeaseStep db event db' := by
  cases event with
  | store event =>
    cases binding_step h with
    | kept hkept => exact .kept hkept
    | bound inserted leases slots => exact .bound hunleased inserted leases
  | lease clock call answer =>
    rcases answered_cases h with ⟨_, -, rfl⟩ | ⟨answered, rfl, hperform⟩
    · exact .kept ⟨rfl, rfl⟩
    · exact lease_call_step hstep hperform

theorem recovery_generation_step {event : RecoveryEvent} (h : RecoveryStep host db event db')
    (session_id : String) :
    (db'.fact_source session_id).dispatch_generation
      = (db.fact_source session_id).dispatch_generation
        + invalidations (event.admitted session_id).toList := by
  cases event with
  | store event => exact (generation_step h session_id).1
  | lease clock call answer =>
    rcases answered_cases h with ⟨_, -, rfl⟩ | ⟨_, -, hperform⟩
    · rfl
    · rw [(perform_lease_quiet hperform).dispatch_generation session_id]
      rfl

/-! ## Runs -/

theorem LeaseStep.in_step {event : RecoveryEvent} (h : LeaseStep db event db')
    (hstep : LeasesInStep db) : LeasesInStep db' := by
  cases h with
  | kept hkept => exact hstep.kept hkept
  | bound unleased inserted leases => exact hstep.bound unleased inserted leases
  | taken written took cut => exact written.in_step hstep
  | refreshed written standing named cut => exact written.in_step hstep

theorem leases_in_step_empty : LeasesInStep empty where
  child_unique := by
    intro key _ binding _ hrow
    cases hrow.symm.trans (row_empty key)
  ledgered := by
    intro key binding lease hrow
    cases hrow.symm.trans (row_empty key)
  standing := by
    intro key row hrow
    cases hrow.symm.trans (row_empty key)
  named := by
    intro key row hrow
    cases hrow.symm.trans (row_empty key)

/-! ### The lease of a child moves on -/

def lease_of_child (db : Tables) (session_id child_run_id : String) :
    Option RecoveredChildExecutionLease :=
  (child_binding_of_run db session_id child_run_id).bind (·.active_lease)

theorem lease_of_child_eq_some (hunique : ChildUnique db.session_child_bindings) :
    lease_of_child db session_id child_run_id = some lease ↔
      ∃ key binding, db.session_child_bindings.row key = some binding ∧ key.1 = session_id
        ∧ binding.child_run_id = child_run_id ∧ binding.active_lease = some lease := by
  unfold lease_of_child
  rw [Option.bind_eq_some_iff]
  constructor
  · rintro ⟨binding, hbinding, hlease⟩
    obtain ⟨key, hrow, hsession, hchild⟩ := child_binding_row hbinding
    exact ⟨key, binding, hrow, hsession, hchild, hlease⟩
  · rintro ⟨key, binding, hrow, rfl, rfl, hlease⟩
    exact ⟨binding, child_binding_of_row hunique hrow, hlease⟩

/-- A lease after another: the same one, or one of a later generation, and of no older epoch. -/
structure LeaseFollows (lease later : RecoveredChildExecutionLease) : Prop where
  generation : later = lease ∨ lease.resume_generation < later.resume_generation
  epoch : lease.owner_epoch ≤ later.owner_epoch

theorem LeaseFollows.refl (lease : RecoveredChildExecutionLease) : LeaseFollows lease lease :=
  ⟨Or.inl rfl, le_refl _⟩

theorem LeaseFollows.trans {first second third : RecoveredChildExecutionLease}
    (h : LeaseFollows first second) (h' : LeaseFollows second third) :
    LeaseFollows first third := by
  refine ⟨?_, le_trans h.epoch h'.epoch⟩
  rcases h.generation with rfl | hless
  · exact h'.generation
  · rcases h'.generation with rfl | hless'
    · exact Or.inr hless
    · exact Or.inr (Nat.lt_trans hless hless')

/-- A child that has a lease keeps having one, and it only moves on. -/
def LeasesFollow (db db' : Tables) : Prop :=
  ∀ session_id child_run_id lease, lease_of_child db session_id child_run_id = some lease →
    ∃ later, lease_of_child db' session_id child_run_id = some later ∧ LeaseFollows lease later

theorem LeasesFollow.trans {db'' : Tables} (h : LeasesFollow db db') (h' : LeasesFollow db' db'') :
    LeasesFollow db db'' := by
  intro session_id child_run_id lease hlease
  obtain ⟨second, hsecond, hfollows⟩ := h session_id child_run_id lease hlease
  obtain ⟨third, hthird, hfollows'⟩ := h' session_id child_run_id second hsecond
  exact ⟨third, hthird, hfollows.trans hfollows'⟩

theorem LeaseWritten.follow (h : LeaseWritten db key binding lease db') (hstep : LeasesInStep db) :
    LeasesFollow db db' := by
  intro session_id child_run_id old hold
  have hunique := (h.in_step hstep).child_unique
  obtain ⟨other, stored, hrow, hsession, hchild, hlease⟩ :=
    (lease_of_child_eq_some hstep.child_unique).mp hold
  have hafter := h.bindings other
  by_cases hother : other = key
  · subst hother
    rw [h.row, Option.some.injEq] at hrow
    subst hrow
    rw [if_pos rfl] at hafter
    obtain ⟨hgeneration, hepoch⟩ := h.advances old hlease
    exact ⟨lease, (lease_of_child_eq_some hunique).mpr ⟨other, _, hafter, hsession, hchild, rfl⟩,
      Or.inr hgeneration, hepoch⟩
  · rw [if_neg hother, hrow] at hafter
    exact ⟨old,
      (lease_of_child_eq_some hunique).mpr ⟨other, stored, hafter, hsession, hchild, hlease⟩,
      LeaseFollows.refl old⟩

theorem LeaseStep.follow {event : RecoveryEvent} (h : LeaseStep db event db')
    (hstep : LeasesInStep db) : LeasesFollow db db' := by
  have hunique := (h.in_step hstep).child_unique
  cases h with
  | kept hkept =>
    intro session_id child_run_id lease hlease
    refine ⟨lease, ?_, LeaseFollows.refl lease⟩
    unfold lease_of_child child_binding_of_run at hlease ⊢
    rw [hkept.bindings]
    exact hlease
  | bound unleased inserted leases =>
    intro session_id child_run_id lease hlease
    obtain ⟨key, binding, hrow, hrest⟩ :=
      (lease_of_child_eq_some hstep.child_unique).mp hlease
    have hafter := (insert_child_bindings_row inserted).1 key binding hrow
    exact ⟨lease, (lease_of_child_eq_some hunique).mpr ⟨key, binding, hafter, hrest⟩,
      LeaseFollows.refl lease⟩
  | taken written took cut => exact written.follow hstep
  | refreshed written standing named cut => exact written.follow hstep

/-- **Generations rise and epochs do not fall** between any two states of a run. -/
theorem leases_follow {later : List RecoveryEvent} (hstep : LeasesInStep db)
    (hrun : Run (RecoveryStep host) db later db')
    (hunleased : ∀ event ∈ later, BindsUnleased event) : LeasesFollow db db' := by
  have hboth : LeasesInStep db' ∧ LeasesFollow db db' := by
    refine hrun.invariant_where hunleased (I := fun m => LeasesInStep m ∧ LeasesFollow db m)
      ⟨hstep, fun _ _ lease hlease => ⟨lease, hlease, LeaseFollows.refl lease⟩⟩ ?_
    intro m event m' ⟨hin, hfollow⟩ hevent h
    have hlease := lease_step hevent hin h
    exact ⟨hlease.in_step hin, hfollow.trans (hlease.follow hin)⟩
  exact hboth.2

/-! ### A lease id is issued once -/

/-- The ledger row of a lease stays: it keeps its child and its epoch, and its generation does not
fall. -/
structure RowFollows (row later : RecoveryLeaseRow) : Prop where
  child : later.child_run_id = row.child_run_id
  epoch : later.lease.owner_epoch = row.lease.owner_epoch
  generation : row.lease.resume_generation ≤ later.lease.resume_generation

theorem LeaseWritten.row_follows {key other : String × String} {row : RecoveryLeaseRow}
    (h : LeaseWritten db key binding lease db') (hstep : LeasesInStep db)
    (hrow : db.session_recovery_leases.row other = some row) :
    ∃ later, db'.session_recovery_leases.row other = some later ∧ RowFollows row later := by
  rw [h.leases]
  split
  · next heq =>
    subst heq
    refine ⟨_, rfl, ?_⟩
    rcases h.identity with hfree | ⟨active, hactive, hid, hepoch⟩
    · rw [hfree] at hrow
      cases hrow
    · -- the row is the one of the lease that was brought up to date
      rw [← hid, hstep.ledgered key binding active h.row hactive] at hrow
      cases hrow
      exact ⟨rfl, hepoch.symm, Nat.le_of_lt (h.advances active hactive).1⟩
  · split
    · rw [hrow]
      exact ⟨_, rfl, rfl, rfl, le_refl _⟩
    · exact ⟨row, hrow, rfl, rfl, le_refl _⟩

theorem LeaseStep.row_follows {event : RecoveryEvent} {row : RecoveryLeaseRow}
    (h : LeaseStep db event db') (hstep : LeasesInStep db)
    (hrow : db.session_recovery_leases.row key = some row) :
    ∃ later, db'.session_recovery_leases.row key = some later ∧ RowFollows row later := by
  cases h with
  | kept hkept =>
    rw [hkept.leases]
    exact ⟨row, hrow, rfl, rfl, le_refl _⟩
  | bound unleased inserted leases =>
    rw [leases]
    exact ⟨row, hrow, rfl, rfl, le_refl _⟩
  | taken written took cut => exact written.row_follows hstep hrow
  | refreshed written standing named cut => exact written.row_follows hstep hrow

/-- **What an acquisition answers**: the lease that stands, and nothing changes, or a new entry of
the ledger. -/
theorem acquired_cases {event : RecoveryEvent} {session_id lease_id : String}
    (hstep : LeasesInStep db) (h : RecoveryStep host db event db')
    (hacquired : event.acquired session_id lease_id = some lease) :
    (LeasesKept db db' ∧ lease_of_child db session_id lease.child_run_id = some lease
        ∧ ∃ row, db.session_recovery_leases.row (session_id, lease_id) = some row
          ∧ row.lease = lease ∧ row.child_run_id = lease.child_run_id)
      ∨ (db.session_recovery_leases.row (session_id, lease_id) = none
        ∧ ∃ row, db'.session_recovery_leases.row (session_id, lease_id) = some row
          ∧ row.lease = lease ∧ row.child_run_id = lease.child_run_id) := by
  unfold RecoveryEvent.acquired at hacquired
  split at hacquired
  · next clock authority child_run_id acquired_id answered =>
    split at hacquired
    · next hnamed =>
      obtain ⟨rfl, rfl⟩ := hnamed
      cases hacquired
      rcases answered_cases h with ⟨_, herror, -⟩ | ⟨_, hanswered, hperform⟩
      · cases herror
      · cases hanswered
        rcases acquire_cases hperform with
          ⟨row, binding, hrow, hbinding, hactive, hlease, rfl⟩ | ⟨binding, hissued⟩
        · obtain ⟨key, hkey, hsession, hchild⟩ := child_binding_row hbinding
          have hnamed := hstep.named _ row hrow
          have hledgered := hstep.ledgered key binding lease hkey hactive
          have hid : lease.lease_id = acquired_id := hlease ▸ hnamed.1
          rw [hsession, hid, hrow, Option.some.injEq] at hledgered
          have hchild_row : row.child_run_id = binding.child_run_id := by rw [hledgered]
          have hchild_lease : row.child_run_id = lease.child_run_id := by
            rw [← hlease]
            exact hnamed.2.symm
          refine Or.inl ⟨LeasesKept.ensure_fact_source db _, ?_, row, hrow, hlease,
            hchild_lease⟩
          exact (lease_of_child_eq_some hstep.child_unique).mpr
            ⟨key, binding, hkey, hsession, hchild_row.symm.trans hchild_lease, hactive⟩
        · refine Or.inr ⟨hissued.new, ⟨lease.child_run_id, "active", lease⟩, ?_, rfl, rfl⟩
          rw [hissued.leases, row_put_self]
    · cases hacquired
  · cases hacquired

/-- The leases acquired so far are in the ledger. -/
def AcquiredLedgered (events : List RecoveryEvent) (db : Tables) : Prop :=
  ∀ event ∈ events, ∀ session_id lease_id first, event.acquired session_id lease_id = some first →
    ∃ row, db.session_recovery_leases.row (session_id, lease_id) = some row
      ∧ row.child_run_id = first.child_run_id ∧ row.lease.owner_epoch = first.owner_epoch
      ∧ first.resume_generation ≤ row.lease.resume_generation

theorem AcquiredLedgered.step {events : List RecoveryEvent} {event : RecoveryEvent}
    (hledgered : AcquiredLedgered events db) (hunleased : BindsUnleased event)
    (hstep : LeasesInStep db) (h : RecoveryStep host db event db') :
    AcquiredLedgered (events ++ [event]) db' := by
  have hlease := lease_step hunleased hstep h
  intro earlier hmem session_id lease_id first hfirst
  rcases mem_snoc hmem with hold | rfl
  · obtain ⟨row, hrow, hchild, hepoch, hgeneration⟩ :=
      hledgered earlier hold session_id lease_id first hfirst
    obtain ⟨later, hlater, hfollows⟩ := hlease.row_follows hstep hrow
    exact ⟨later, hlater, hfollows.child.trans hchild, hfollows.epoch.trans hepoch,
      le_trans hgeneration hfollows.generation⟩
  · rcases acquired_cases hstep h hfirst with ⟨hkept, -, row, hrow, rfl, hchild⟩ |
      ⟨-, row, hrow, rfl, hchild⟩
    · rw [← hkept.leases] at hrow
      exact ⟨row, hrow, hchild, rfl, le_refl _⟩
    · exact ⟨row, hrow, hchild, rfl, le_refl _⟩

/-! ### The cut of a lease -/

/-- The cut of the lease was taken by an event of the run, and the generation has grown since by the
invalidating commands admitted since. -/
def CutTaken (host : Host) (events : List RecoveryEvent) (db : Tables) (session_id : String)
    (lease : RecoveredChildExecutionLease) : Prop :=
  ∃ early taking late before, events = early ++ taking :: late ∧ RecoveryRun host early before
    ∧ taking.took_cut session_id lease
    ∧ (before.fact_source session_id).dispatch_generation = lease.resume_cut
    ∧ (db.fact_source session_id).dispatch_generation
      = lease.resume_cut + invalidations (late.filterMap (RecoveryEvent.admitted session_id))

section CutTaken

variable {events : List RecoveryEvent} {event : RecoveryEvent} {session_id : String}
  {lease later : RecoveredChildExecutionLease}

theorem CutTaken.step (hcut : CutTaken host events db session_id lease)
    (h : RecoveryStep host db event db') :
    CutTaken host (events ++ [event]) db' session_id lease := by
  obtain ⟨early, taking, late, before, rfl, hearly, htook, htaken, hgeneration⟩ := hcut
  refine ⟨early, taking, late ++ [event], before, by simp, hearly, htook, htaken, ?_⟩
  rw [recovery_generation_step h session_id, hgeneration, filterMap_append, invalidations,
    invalidations, invalidations, countP_append, Nat.add_assoc]
  cases hadmitted : event.admitted session_id <;> simp [hadmitted]

theorem CutTaken.refreshed (hcut : CutTaken host events db session_id lease)
    (hnamed : later.lease_id = lease.lease_id) (hsame : later.resume_cut = lease.resume_cut) :
    CutTaken host events db session_id later := by
  obtain ⟨early, taking, late, before, hevents, hearly, htook, htaken, hgeneration⟩ := hcut
  refine ⟨early, taking, late, before, hevents, hearly, ?_, hsame ▸ htaken, hsame ▸ hgeneration⟩
  unfold RecoveryEvent.took_cut at htook ⊢
  rw [hnamed, hsame]
  exact htook

end CutTaken

def CutsTaken (host : Host) (events : List RecoveryEvent) (db : Tables) : Prop :=
  ∀ key binding lease, db.session_child_bindings.row key = some binding →
    binding.active_lease = some lease → CutTaken host events db key.1 lease

theorem CutsTaken.written {events : List RecoveryEvent} {event : RecoveryEvent}
    (hcuts : CutsTaken host events db) (h : RecoveryStep host db event db')
    (hwritten : LeaseWritten db key binding lease db')
    (hlease : CutTaken host (events ++ [event]) db' key.1 lease) :
    CutsTaken host (events ++ [event]) db' := by
  intro other stored active hrow hactive
  rw [hwritten.bindings] at hrow
  split at hrow
  · next heq =>
    subst heq
    cases hrow
    cases hactive
    exact hlease
  · exact (hcuts other stored active hrow hactive).step h

theorem CutsTaken.step {events : List RecoveryEvent} {event : RecoveryEvent}
    (hcuts : CutsTaken host events db) (hrun : RecoveryRun host events db)
    (h : RecoveryStep host db event db') (hlease : LeaseStep db event db') :
    CutsTaken host (events ++ [event]) db' := by
  cases hlease with
  | kept hkept =>
    intro key binding lease hrow hactive
    rw [hkept.bindings] at hrow
    exact (hcuts key binding lease hrow hactive).step h
  | bound unleased inserted leases =>
    intro key binding lease hrow hactive
    rcases (insert_child_bindings_row inserted).2.1 key binding hrow with hold | ⟨hnew, -⟩
    · exact (hcuts key binding lease hold hactive).step h
    · rw [unleased binding hnew] at hactive
      cases hactive
  | @taken key binding lease written took cut =>
    refine hcuts.written h written ⟨events, event, [], db, rfl, hrun, took, cut.symm, ?_⟩
    -- an operation on a lease admits no command
    have hnone : event.admitted key.1 = none := by
      cases event with
      | store event => exact took.elim
      | lease clock call answer => rfl
    rw [recovery_generation_step h key.1, hnone, cut]
    rfl
  | @refreshed key binding lease old written standing named cut =>
    have hold := (hcuts key binding old written.row standing).step h
    exact hcuts.written h written (hold.refreshed named cut)

/-! ## The claim about runs -/

/-- The lease a guarded commit is made under: its child's, named by the guard, of the committing
owner, and with no invalidating command admitted to the session since its cut was taken. -/
structure GuardHolds (host : Host) (events : List RecoveryEvent) (db : Tables)
    (authority : OwnerAuthority) (guard : RecoveryTransitionGuard)
    (lease : RecoveredChildExecutionLease) : Prop where
  current : lease_of_child db authority.session_id guard.child_run_id = some lease
  named : lease.lease_id = guard.lease_id ∧ lease.resume_generation = guard.resume_generation
  epoch : lease.owner_epoch = authority.epoch
  undisturbed : ∃ early taking late before, events = early ++ taking :: late
    ∧ RecoveryRun host early before ∧ taking.took_cut authority.session_id lease
    ∧ (before.fact_source authority.session_id).dispatch_generation = lease.resume_cut
    ∧ ∀ admitted ∈ late.filterMap (RecoveryEvent.admitted authority.session_id),
        admitted.1.invalidates_dispatch = false

theorem guard_holds {events : List RecoveryEvent} {unit : UnitOfWork} {stored : Option JsonObject}
    {new_sessions_enabled : Bool} {guard : RecoveryTransitionGuard}
    (hcuts : CutsTaken host events db)
    (h : StoreStep host db (.call clock
      (.commit_authoritative_uow authority unit stored new_sessions_enabled)
      (.ok (.commit commit))) db') (hfresh : commit.idempotent = false)
    (hguard : unit.val.recovery_guard = some guard) :
    ∃ lease, GuardHolds host events db authority guard lease := by
  obtain ⟨_, hcommit, hanswer⟩ := map_answer_eq_ok (accepted h)
  cases hanswer
  have htyped : ∃ transition_id, unit.val.transition_id = some transition_id := by
    cases htransition : unit.val.transition_id with
    | none =>
      rw [legacy_unguarded unit.property htransition] at hguard
      cases hguard
    | some transition_id => exact ⟨transition_id, rfl⟩
  obtain ⟨transition_id, htransition⟩ := htyped
  obtain ⟨state_cas, state_value, plan, -, -, hplan⟩ :=
    fresh_commit_planned htransition hcommit hfresh
  simp only [plan_commit, bind_eq_ok] at hplan
  obtain ⟨_, hguarded, -⟩ := hplan
  unfold assert_recovery_guard at hguarded
  rw [hguard] at hguarded
  cases hbinding : child_binding_of_run db authority.session_id guard.child_run_id with
  | none => simp [hbinding] at hguarded
  | some binding =>
    simp only [hbinding, bind_eq_ok] at hguarded
    obtain ⟨_, -, hguarded⟩ := hguarded
    cases hactive : binding.active_lease with
    | none => simp [hactive] at hguarded
    | some lease =>
      simp only [hactive, raise_if_eq_ok, not_or, not_not] at hguarded
      obtain ⟨hid, hgeneration, hcut, hepoch, hcurrent⟩ := hguarded
      obtain ⟨key, hrow, hsession, -⟩ := child_binding_row hbinding
      obtain ⟨early, taking, late, before, hevents, hearly, htook, htaken, hgrown⟩ :=
        hcuts key binding lease hrow hactive
      rw [hsession] at htook htaken hgrown
      refine ⟨lease, ?_, ⟨hid, hgeneration⟩, hepoch, early, taking, late, before, hevents,
        hearly, htook, htaken, ?_⟩
      · unfold lease_of_child
        rw [hbinding]
        exact hactive
      · -- the generation is still the cut
        have hnone : invalidations
            (late.filterMap (RecoveryEvent.admitted authority.session_id)) = 0 := by
          rw [hcurrent, ← hcut] at hgrown
          omega
        intro admitted hmem
        unfold invalidations at hnone
        rw [countP_eq_zero] at hnone
        simpa using hnone admitted hmem

/-- What holds of recovery leases after the events of a run. -/
structure LeasesExclusive (host : Host) (events : List RecoveryEvent) (db : Tables) : Prop where
  one_active : ∀ session_id lease_id other row row',
    db.session_recovery_leases.row (session_id, lease_id) = some row →
    db.session_recovery_leases.row (session_id, other) = some row' →
    row.status = "active" → row'.status = "active" → row.child_run_id = row'.child_run_id →
    lease_id = other
  of_child : ∀ session_id lease_id row,
    db.session_recovery_leases.row (session_id, lease_id) = some row → row.status = "active" →
    row.lease.lease_id = lease_id
      ∧ lease_of_child db session_id row.child_run_id = some row.lease
  moves_on : ∀ later db', Run (RecoveryStep host) db later db' →
    (∀ event ∈ later, BindsUnleased event) → LeasesFollow db db'
  issued_once : ∀ event db' session_id lease_id lease, RecoveryStep host db event db' →
    event.acquired session_id lease_id = some lease →
    (∀ earlier ∈ events, earlier.acquired session_id lease_id = none)
      ∨ LeasesKept db db' ∧ lease_of_child db session_id lease.child_run_id = some lease
        ∧ ∀ earlier ∈ events, ∀ first, earlier.acquired session_id lease_id = some first →
            first.child_run_id = lease.child_run_id ∧ first.owner_epoch = lease.owner_epoch
              ∧ first.resume_generation ≤ lease.resume_generation
  guarded : ∀ clock authority unit stored new_sessions_enabled commit guard db',
    StoreStep host db (.call clock
      (.commit_authoritative_uow authority unit stored new_sessions_enabled)
      (.ok (.commit commit))) db' →
    commit.idempotent = false → unit.val.recovery_guard = some guard →
    ∃ lease, GuardHolds host events db authority guard lease

/-- **Recovery leases are exclusive** in every run of the store. -/
theorem leases_exclusive {events : List RecoveryEvent} (hrun : RecoveryRun host events db)
    (hunleased : ∀ event ∈ events, BindsUnleased event) : LeasesExclusive host events db := by
  have hhistory : LeasesInStep db ∧ AcquiredLedgered events db ∧ CutsTaken host events db := by
    refine hrun.history_where hunleased
      (P := fun tr m => LeasesInStep m ∧ AcquiredLedgered tr m ∧ CutsTaken host tr m) ?_ ?_
    · refine ⟨leases_in_step_empty, ?_, ?_⟩
      · intro event hmem
        cases hmem
      · intro key binding lease hrow
        cases hrow.symm.trans (row_empty key)
    · intro tr m event m' hrun ⟨hstep, hledgered, hcuts⟩ hevent h
      have hlease := lease_step hevent hstep h
      exact ⟨hlease.in_step hstep, hledgered.step hevent hstep h, hcuts.step hrun h hlease⟩
  obtain ⟨hstep, hledgered, hcuts⟩ := hhistory
  have hof_child : ∀ session_id lease_id row,
      db.session_recovery_leases.row (session_id, lease_id) = some row → row.status = "active" →
      row.lease.lease_id = lease_id
        ∧ lease_of_child db session_id row.child_run_id = some row.lease := by
    intro session_id lease_id row hrow hactive
    obtain ⟨key, binding, hkey, hsession, hchild, hlease⟩ := hstep.standing _ row hrow hactive
    exact ⟨(hstep.named _ row hrow).1, (lease_of_child_eq_some hstep.child_unique).mpr
      ⟨key, binding, hkey, hsession, hchild, hlease⟩⟩
  refine
    { one_active := ?_, of_child := hof_child, issued_once := ?_,
      moves_on := fun later db' => leases_follow hstep,
      guarded := fun clock authority unit stored new_sessions_enabled commit guard db' =>
        guard_holds hcuts }
  · intro session_id lease_id other row row' hrow hrow' hactive hactive' hchild
    obtain ⟨hid, hlease⟩ := hof_child session_id lease_id row hrow hactive
    obtain ⟨hid', hlease'⟩ := hof_child session_id other row' hrow' hactive'
    rw [hchild, hlease', Option.some.injEq] at hlease
    rw [← hid, ← hid', hlease]
  · intro event db' session_id lease_id lease h hacquired
    rcases acquired_cases hstep h hacquired with ⟨hkept, hchild, row, hrow, rfl, hrow_child⟩ |
      ⟨hnew, -⟩
    · refine Or.inr ⟨hkept, hchild, ?_⟩
      intro earlier hmem first hfirst
      obtain ⟨row', hrow', hchild', hepoch, hgeneration⟩ :=
        hledgered earlier hmem session_id lease_id first hfirst
      rw [hrow, Option.some.injEq] at hrow'
      subst hrow'
      exact ⟨hchild'.symm.trans hrow_child, hepoch.symm, hgeneration⟩
    · refine Or.inl (fun earlier hmem => ?_)
      cases hfirst : earlier.acquired session_id lease_id with
      | none => rfl
      | some first =>
        obtain ⟨row, hrow, -⟩ := hledgered earlier hmem session_id lease_id first hfirst
        rw [hnew] at hrow
        cases hrow

/-! ## A child recovered twice

A subagent's executor goes away. The owner of epoch 2 acquires its child, the owner of epoch 3
takes it over, and ends it under a guard that names the second lease. -/

/-- What a client or the outside submits to a store whose children are recovered. -/
inductive RecoveryInput where
  | store (input : StoreInput)
  | lease (clock : Datetime) (call : LeaseCall)

def RecoveryInput.event (host : Host) (db : Tables) : RecoveryInput → RecoveryEvent
  | .store input => .store (input.event host db)
  | .lease clock call => .lease clock call (transaction db (perform_lease db clock call)).2

def RecoveryInput.tables (host : Host) (db : Tables) : RecoveryInput → Tables
  | .store input => input.tables host db
  | .lease clock call => (transaction db (perform_lease db clock call)).1

def play_recovery (host : Host) (db : Tables) (script : List RecoveryInput) : Tables :=
  script.foldl (fun db input => input.tables host db) db

def recovery_events (host : Host) : Tables → List RecoveryInput → List RecoveryEvent
  | _, [] => []
  | db, input :: rest => input.event host db :: recovery_events host (input.tables host db) rest

theorem play_recovery_run (host : Host) (db : Tables) (script : List RecoveryInput) :
    Run (RecoveryStep host) db (recovery_events host db script) (play_recovery host db script) := by
  induction script generalizing db with
  | nil => exact Run.refl
  | cons input rest ih =>
    have hstep : RecoveryStep host db (input.event host db) (input.tables host db) := by
      cases input with
      | store input => exact StoreInput.step host db input
      | lease clock call => rfl
    exact (Run.single hstep).append (ih (input.tables host db))

theorem recovery_events_unleased (host : Host) (db : Tables) (script : List RecoveryInput)
    (h : ∀ input ∈ script, ∀ db, BindsUnleased (input.event host db)) :
    ∀ event ∈ recovery_events host db script, BindsUnleased event := by
  induction script generalizing db with
  | nil => exact forall_mem_nil _
  | cons input rest ih =>
    rw [forall_mem_cons] at h
    exact forall_mem_cons.mpr ⟨h.1 db, ih (input.tables host db) h.2⟩

def sample_subagent_plan : EffectPlan where
  effect_id := "e"
  attempt_id := "a"
  effect_kind := "tool"
  payload := [("tool_call_id", .str "call"), ("tool_name", .str "subagent"), ("arguments", .obj [])]

def sample_bind : UnitOfWork :=
  ⟨{ session_state := [("id", .str "s")]
     transition_id := some "t1"
     state_cas := some ⟨"r", 0, 0⟩
     state_value := some []
     effect_mutations := [EffectMutation.prepare sample_subagent_plan]
     effect_plans := [sample_subagent_plan]
     child_bindings := child_bindings "s" "r" "t1" [sample_subagent_plan] }, by decide⟩

def sample_subagent_dispatch : UnitOfWork :=
  ⟨{ session_state := [("id", .str "s")]
     transition_id := some "t1:dispatch:e:a"
     state_cas := some ⟨"r", 1, 0⟩
     state_value := some []
     effect_mutations := [
       { effect_id := "e"
         attempt_id := "a"
         status := .DISPATCHED
         expected_status := some .PREPARED
         payload := [
           ("attempt_id", .str "a"),
           ("authorization_transition_id", .str "t1:dispatch:e:a")] }]
     expected_mailbox_cut := some 0 }, by decide⟩

def sample_subagent_identity : AttemptIdentity where
  effect_id := "e"
  attempt_id := "a"
  authorization_transition_id := "t1:dispatch:e:a"

def sample_child_terminal : UnitOfWork :=
  ⟨{ session_state := [("id", .str "s")]
     transition_id := some "t2"
     state_cas := some ⟨"s:r:child:e:a", 0, 0⟩
     state_value := some []
     terminal_action := true
     recovery_guard := some
       { lease_id := "second"
         child_run_id := "s:r:child:e:a"
         resume_generation := 2
         expected_recovery_cut := 0
         kind := .CHILD_TERMINAL } }, by decide⟩

def sample_recovery : List RecoveryInput :=
  [.store (.owner_changed "s" ⟨"worker", 1000, 1⟩),
   .store (.call 1 (.commit_authoritative_uow sample_owner sample_bind none false)),
   .store (.call 2 (.commit_authoritative_uow sample_owner sample_subagent_dispatch none false)),
   .store (.call 3 (.reserve_executor_attempt sample_owner sample_subagent_identity "x" 100)),
   .store (.call 4 (.mark_executor_attempt_started sample_owner sample_subagent_identity "x" 1 4)),
   .store (.call 5
     (.mark_executor_attempt_quiescent sample_owner sample_subagent_identity "x" 1 5 "gone")),
   .store (.owner_changed "s" ⟨"worker", 1000, 2⟩),
   .lease 6 (.acquire_recovered_child_execution_lease { sample_owner with epoch := 2 }
     "s:r:child:e:a" "first"),
   .store (.owner_changed "s" ⟨"worker", 1000, 3⟩),
   .lease 7 (.acquire_recovered_child_execution_lease { sample_owner with epoch := 3 }
     "s:r:child:e:a" "second")]

/-- The run of the child that is recovered twice, and its end. -/
theorem sample_leases_exclusive :
    LeasesExclusive sample_host (recovery_events sample_host empty sample_recovery)
        (play_recovery sample_host empty sample_recovery)
      ∧ (lease_of_child (play_recovery sample_host empty sample_recovery) "s"
          "s:r:child:e:a").map (fun lease => (lease.lease_id, lease.resume_generation))
        = some ("second", 2)
      ∧ ((commit_authoritative_uow sample_host
          (play_recovery sample_host empty sample_recovery) 8
          { sample_owner with epoch := 3 } sample_child_terminal none false).toOption.map
          (fun result => result.2.idempotent)) = some false := by
  refine ⟨leases_exclusive (play_recovery_run sample_host empty sample_recovery)
    (recovery_events_unleased sample_host empty sample_recovery ?_),
    by decide +kernel, by decide +kernel⟩
  -- two of the inputs commit a unit, one of them binds a child
  have hbind : ∀ binding ∈ sample_bind.val.child_bindings, binding.active_lease = none :=
    child_bindings_unleased "s" "r" "t1" [sample_subagent_plan]
  have hdispatch : ∀ binding ∈ sample_subagent_dispatch.val.child_bindings,
      binding.active_lease = none := forall_mem_nil _
  simp only [sample_recovery, forall_mem_cons]
  exact ⟨fun _ => True.intro, fun _ => hbind, fun _ => hdispatch, fun _ => True.intro,
    fun _ => True.intro, fun _ => True.intro, fun _ => True.intro, fun _ => True.intro,
    fun _ => True.intro, fun _ => True.intro, forall_mem_nil _⟩

end CodingAgentLoop
