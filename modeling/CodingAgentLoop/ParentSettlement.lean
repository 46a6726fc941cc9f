/-
An effect whose child was recovered is settled once.

Two parties may settle the effect that started a child: the coordinator that runs the
parent, and an owner that recovers the child under a lease. Each uses a transition id
of its own and adopts the receipts of the ids it knows, but what it knows is read
before it commits, and leases come and go in between. So the ids do not close every
gap; the status of the effect does. A settlement's mutation starts at `PREPARED` or
`DISPATCHED` and ends at a terminal status, and nothing leaves those (`SettledOnce`):
as long as no settlement has a receipt the effect may be open, and once one has, it is
terminal and a second one finds the receipt or is refused.

The attempts are calls of the commit port in progress (`Lib.Crew`).
-/
import CodingAgentLoop.EffectLedger
import CodingAgentLoop.LeaseExclusivity
import CodingAgentLoop.SegmentQueries
import CodingAgentLoop.Lib.Crew

open Lib Dialogue

namespace CodingAgentLoop

open DurableCommitPort AuthoritativeUnitOfWork Table Crew List Result

variable {host : Host} {db db' : Tables} {clock : Datetime}

/-! ## What the store keeps -/

def ChildExecutionBinding.identity (binding : ChildExecutionBinding) : ChildExecutionBinding :=
  { binding with active_lease := none }

/-- Children stay unique and a binding keeps its identity. -/
structure BindingsKeep (db db' : Tables) : Prop where
  unique : ChildUnique db'.session_child_bindings
  kept : ∀ key binding, db.session_child_bindings.row key = some binding →
    ∃ later, db'.session_child_bindings.row key = some later
      ∧ later.identity = binding.identity

theorem BindingsKeep.of_eq (hunique : ChildUnique db.session_child_bindings)
    (h : db'.session_child_bindings = db.session_child_bindings) : BindingsKeep db db' := by
  refine ⟨h ▸ hunique, fun key binding hrow => ⟨binding, ?_, rfl⟩⟩
  rw [h]
  exact hrow

theorem BindingsKeep.of_lease {session_id child_run_id : String} {binding : ChildExecutionBinding}
    {lease : RecoveredChildExecutionLease} (hunique : ChildUnique db.session_child_bindings)
    (hfound : child_binding_of_run db session_id child_run_id = some binding)
    (h : db'.session_child_bindings = set_child_binding db.session_child_bindings session_id
      child_run_id { binding with active_lease := some lease }) : BindingsKeep db db' := by
  obtain ⟨key, hrow, hsession, hchild⟩ := child_binding_row hfound
  have hafter : ∀ other, db'.session_child_bindings.row other
      = if other = key then some { binding with active_lease := some lease }
        else db.session_child_bindings.row other := by
    intro other
    rw [h, set_child_binding_row hunique hrow hsession hchild]
  have hsame : ({ binding with active_lease := some lease } : ChildExecutionBinding).child_run_id
      = binding.child_run_id := rfl
  refine ⟨hunique.updated hrow hsame hafter, ?_⟩
  intro other stored hother
  rw [hafter]
  split
  · next heq =>
    subst heq
    rw [hrow, Option.some.injEq] at hother
    subst hother
    exact ⟨_, rfl, rfl⟩
  · exact ⟨stored, hother, rfl⟩

theorem perform_lease_bindings {call : LeaseCall} {answered : RecoveredChildExecutionLease}
    (hunique : ChildUnique db.session_child_bindings)
    (h : perform_lease db clock call = .ok (db', answered)) : BindingsKeep db db' := by
  cases call with
  | acquire_recovered_child_execution_lease authority child_run_id lease_id =>
    rcases acquire_cases h with ⟨_, _, -, -, -, -, rfl⟩ | ⟨_, hissued⟩
    · exact .of_eq hunique (LeasesKept.ensure_fact_source db _).bindings
    · exact .of_lease hunique hissued.found hissued.bindings
  | rebase_recovered_child_execution_lease authority lease =>
    rcases rebase_cases h with ⟨-, hstands⟩ | ⟨_, hupdated⟩
    · exact .of_eq hunique hstands.kept.bindings
    · exact .of_lease hunique hupdated.found hupdated.bindings
  | refresh_recovered_child_execution_lease_for_approval authority lease state_version approval
      expected_dispatch_cut =>
      rcases refresh_cases h with ⟨-, hstands⟩ | ⟨_, hupdated⟩
      · exact .of_eq hunique hstands.kept.bindings
      · exact .of_lease hunique hupdated.found hupdated.bindings

theorem perform_lease_binds_nothing {call : LeaseCall} {answered : RecoveredChildExecutionLease}
    (h : perform_lease db clock call = .ok (db', answered)) {key : String × String}
    (hnone : db.session_child_bindings.row key = none) :
    db'.session_child_bindings.row key = none := by
  have hset : ∀ session_id child_run_id updated,
      (set_child_binding db.session_child_bindings session_id child_run_id updated).row key = none
      := by
    intro session_id child_run_id updated
    unfold set_child_binding
    rw [row_update, hnone]
    rfl
  cases call with
  | acquire_recovered_child_execution_lease authority child_run_id lease_id =>
    rcases acquire_cases h with ⟨_, _, -, -, -, -, rfl⟩ | ⟨_, hissued⟩
    · rw [(LeasesKept.ensure_fact_source db _).bindings, hnone]
    · rw [hissued.bindings, hset]
  | rebase_recovered_child_execution_lease authority lease =>
    rcases rebase_cases h with ⟨-, hstands⟩ | ⟨_, hupdated⟩
    · rw [hstands.kept.bindings, hnone]
    · rw [hupdated.bindings, hset]
  | refresh_recovered_child_execution_lease_for_approval authority lease state_version approval
      expected_dispatch_cut =>
      rcases refresh_cases h with ⟨-, hstands⟩ | ⟨_, hupdated⟩
      · rw [hstands.kept.bindings, hnone]
      · rw [hupdated.bindings, hset]

variable {event : RecoveryEvent}

theorem bindings_keep (hunique : ChildUnique db.session_child_bindings)
    (h : RecoveryStep host db event db') : BindingsKeep db db' := by
  cases event with
  | store event =>
    cases binding_step h with
    | kept hkept => exact .of_eq hunique hkept.bindings
    | bound inserted leases slots =>
      obtain ⟨hkept, -, hafter⟩ := insert_child_bindings_row inserted
      exact ⟨hafter hunique, fun key binding hrow => ⟨binding, hkept key binding hrow, rfl⟩⟩
  | lease clock call answer =>
    rcases answered_cases h with ⟨_, -, rfl⟩ | ⟨_, -, hperform⟩
    · exact .of_eq hunique rfl
    · exact perform_lease_bindings hunique hperform

theorem receipt_kept (h : RecoveryStep host db event db') {key : String × Nat × String}
    {receipt : TransitionReceiptRow}
    (hrow : db.session_transition_receipts.row key = some receipt) :
    db'.session_transition_receipts.row key = some receipt := by
  cases event with
  | store event =>
    cases step_kind h with
    | quiet replayed hquiet => rw [hquiet.transition_receipts, hrow]
    | legacy untyped event_eq hlegacy => rw [hlegacy.transition_receipts, hrow]
    | admitted hadmitted =>
      obtain ⟨_, -, _, -, rfl, -⟩ := hadmitted.tables
      exact hrow
    | attempt target owner hwritten =>
      obtain ⟨_, -, -, rfl, -⟩ := hwritten
      exact hrow
    | typed hcommit =>
      rw [hcommit.fresh.receipts_eq, row_put_of_ne _ _ ?_, hrow]
      rintro rfl
      rw [hcommit.fresh.receipt_new] at hrow
      cases hrow
  | lease clock call answer =>
    rcases answered_cases h with ⟨_, -, rfl⟩ | ⟨_, -, hperform⟩
    · exact hrow
    · rw [(perform_lease_quiet hperform).transition_receipts, hrow]

/-! ## What becomes of the status of an effect -/

def effect_status (db : Tables) (key : String × String) : Option String :=
  (db.session_effect_slots.row key).map (·.status)

/-- What a fresh typed commit does to the status of an effect: nothing, or it follows the one
mutation about the effect. -/
theorem FreshCommit.effect_status_cases {authority : OwnerAuthority} {unit : UnitOfWork}
    {state_cas : OperationStateCAS} {transition_id : String} {state_value : JsonObject}
    {receipt : TransitionReceiptRow} {plan : CommitPlan} {commit : AuthoritativeCommit}
    (h : FreshCommit db authority unit.val state_cas transition_id state_value receipt plan db'
      commit) (session_id effect_id : String) :
    (effect_status db' (session_id, effect_id) = effect_status db (session_id, effect_id)
      ∧ (session_id = authority.session_id →
          ∀ mutation ∈ unit.val.normalized_effect_mutations, mutation.effect_id ≠ effect_id))
    ∨ ∃ mutation ∈ unit.val.normalized_effect_mutations, mutation.effect_id = effect_id
        ∧ effect_status db' (session_id, effect_id) = some mutation.status.value
        ∧ match mutation.expected_status with
          | none => effect_status db (session_id, effect_id) = none
          | some expected_status =>
            effect_status db (session_id, effect_id) = some expected_status.value
              ∧ (expected_status, mutation.status) ∈ LEGAL_EFFECT_TRANSITIONS := by
  rcases h.effect_row (effect_ids_nodup unit.property) session_id effect_id
    with ⟨hrow, hother⟩ | ⟨rfl, mutation, hmem, rfl, slot, hslot, hrow⟩
  · refine Or.inl ⟨?_, hother⟩
    unfold effect_status
    rw [hrow]
  · refine Or.inr ⟨mutation, hmem, rfl, ?_, ?_⟩
    · unfold effect_status
      rw [hrow, Option.map_some, (effect_slot_identity hslot).2.1]
    · have hlegal := EffectMutation.legal_of_post_init
        (mutation_post_init unit.property hmem)
      obtain ⟨merged, hmerged, -⟩ := effect_slot_eq_ok.mp hslot
      unfold effect_status
      rcases merged_effect_slot_cases hmerged with
        ⟨hexpected, hnone, -⟩ | ⟨expected_status, current, hexpected, hcurrent, hstatus, -, -⟩
      · rw [hexpected, hnone]
        rfl
      · rw [hexpected] at hlegal ⊢
        rw [hcurrent, Option.map_some, hstatus]
        exact ⟨rfl, hlegal⟩

/-- The event carries no legacy slot of the effect. -/
def NoLegacySlot (session_id effect_id : String) : RecoveryEvent → Prop
  | .store (.call _ (.commit_authoritative_uow authority unit _ _) _) =>
    authority.session_id = session_id → unit.val.transition_id = none →
      ∀ slot ∈ unit.val.effect, slot.effect_id ≠ effect_id
  | _ => True

/-- Without a legacy slot, an event leaves the status of an effect or moves it along an edge. -/
theorem effect_status_step {session_id effect_id : String}
    (hlegacy : NoLegacySlot session_id effect_id event) (h : RecoveryStep host db event db') :
    effect_status db' (session_id, effect_id) = effect_status db (session_id, effect_id)
      ∨ (effect_status db (session_id, effect_id) = none
        ∧ effect_status db' (session_id, effect_id) ≠ none)
      ∨ ∃ old new, effect_status db (session_id, effect_id) = some (EffectStatus.value old)
        ∧ effect_status db' (session_id, effect_id) = some (EffectStatus.value new)
        ∧ (old, new) ∈ LEGAL_EFFECT_TRANSITIONS := by
  have hsame : db'.session_effect_slots = db.session_effect_slots →
      effect_status db' (session_id, effect_id) = effect_status db (session_id, effect_id) := by
    intro hslots
    unfold effect_status
    rw [hslots]
  cases event with
  | store event =>
    cases step_kind h with
    | quiet replayed hquiet => exact Or.inl (hsame hquiet.effect_slots)
    | admitted hadmitted =>
      obtain ⟨_, -, _, -, rfl, -⟩ := hadmitted.tables
      exact Or.inl rfl
    | attempt target owner hwritten =>
      obtain ⟨_, -, -, rfl, -⟩ := hwritten
      exact Or.inl rfl
    | legacy untyped event_eq hcommit =>
      refine Or.inl ?_
      unfold effect_status
      rw [hcommit.effect_slots, put_legacy_effect_row]
      intro slot hslot hsession heffect
      exact absurd heffect (hlegacy hsession untyped slot hslot)
    | typed hcommit =>
      rcases hcommit.fresh.effect_status_cases session_id effect_id with
        ⟨hkept, -⟩ | ⟨mutation, -, -, hafter, hbefore⟩
      · exact Or.inl hkept
      · cases hexpected : mutation.expected_status with
        | none =>
          rw [hexpected] at hbefore
          refine Or.inr (Or.inl ⟨hbefore, ?_⟩)
          rw [hafter]
          exact Option.some_ne_none _
        | some expected_status =>
          rw [hexpected] at hbefore
          exact Or.inr (Or.inr ⟨expected_status, mutation.status, hbefore.1, hafter,
            hbefore.2⟩)
  | lease clock call answer =>
    rcases answered_cases h with ⟨_, -, rfl⟩ | ⟨_, -, hperform⟩
    · exact Or.inl rfl
    · exact Or.inl (hsame (perform_lease_quiet hperform).effect_slots)

def EffectClosed (db : Tables) (key : String × String) : Prop :=
  ∃ status ∈ effect_status db key, status ∈ TERMINAL_PARENT_EFFECT_STATUSES

theorem EffectClosed.step {event : RecoveryEvent} {session_id effect_id : String}
    (hclosed : EffectClosed db (session_id, effect_id))
    (hlegacy : NoLegacySlot session_id effect_id event) (h : RecoveryStep host db event db') :
    EffectClosed db' (session_id, effect_id) := by
  obtain ⟨status, hstatus, hterminal⟩ := hclosed
  rw [Option.mem_def] at hstatus
  rcases effect_status_step hlegacy h with hkept | ⟨hnone, -⟩ | ⟨old, new, hold, hnew, hlegal⟩
  · exact ⟨status, hkept.trans hstatus, hterminal⟩
  · rw [hnone] at hstatus
    cases hstatus
  · rw [hold, Option.some.injEq] at hstatus
    subst hstatus
    refine ⟨new.value, hnew, ?_⟩
    -- the one edge from a terminal status is a reconciliation
    cases old <;> cases new <;> revert hterminal hlegal <;> decide

theorem effect_status_kept {key : String × String} (hslot : effect_status db key ≠ none)
    (h : RecoveryStep host db event db') :
    effect_status db' key ≠ none := by
  have hsame : db'.session_effect_slots = db.session_effect_slots →
      effect_status db' key ≠ none := by
    intro hslots
    unfold effect_status
    rw [hslots]
    exact hslot
  cases event with
  | store event =>
    cases step_kind h with
    | quiet replayed hquiet => exact hsame hquiet.effect_slots
    | admitted hadmitted =>
      obtain ⟨_, -, _, -, rfl, -⟩ := hadmitted.tables
      exact hslot
    | attempt target owner hwritten =>
      obtain ⟨_, -, -, rfl, -⟩ := hwritten
      exact hslot
    | legacy untyped event_eq hcommit =>
      unfold effect_status at hslot ⊢
      rw [hcommit.effect_slots]
      unfold put_legacy_effect
      split
      · exact hslot
      · dsimp only
        split
        · rw [row_put]
          split
          · exact Option.some_ne_none _
          · exact hslot
        · exact hslot
    | typed hcommit =>
      rcases hcommit.fresh.effect_status_cases key.1 key.2 with
        ⟨hkept, -⟩ | ⟨mutation, -, -, hafter, -⟩
      · rw [hkept]
        exact hslot
      · rw [hafter]
        exact Option.some_ne_none _
  | lease clock call answer =>
    rcases answered_cases h with ⟨_, -, rfl⟩ | ⟨_, -, hperform⟩
    · exact hslot
    · exact hsame (perform_lease_quiet hperform).effect_slots

/-- Children are unique, and the effect of a binding has a slot. -/
structure ChildrenBound (db : Tables) : Prop where
  unique : ChildUnique db.session_child_bindings
  slots : ∀ key binding, db.session_child_bindings.row key = some binding →
    effect_status db key ≠ none

theorem ChildrenBound.step {event : RecoveryEvent} (hbound : ChildrenBound db)
    (h : RecoveryStep host db event db') : ChildrenBound db' := by
  refine ⟨(bindings_keep hbound.unique h).unique, ?_⟩
  intro key binding hrow
  have hkept : db.session_child_bindings.row key ≠ none → effect_status db' key ≠ none := by
    intro hsome
    obtain ⟨old, hold⟩ := Option.ne_none_iff_exists'.mp hsome
    exact effect_status_kept (hbound.slots key old hold) h
  cases event with
  | lease clock call answer =>
    rcases answered_cases h with ⟨_, -, rfl⟩ | ⟨_, -, hperform⟩
    · exact hbound.slots key binding hrow
    · refine hkept (fun hnone => ?_)
      rw [perform_lease_binds_nothing hperform hnone] at hrow
      cases hrow
  | store event =>
    cases binding_step h with
    | kept hbindings =>
      rw [hbindings.bindings] at hrow
      exact hkept (by rw [hrow]; exact Option.some_ne_none _)
    | @bound _ _ unit _ _ _ _ inserted leases slots =>
      rcases (insert_child_bindings_row inserted).2.1 key binding hrow with hold | ⟨hnew, rfl⟩
      · exact hkept (by rw [hold]; exact Option.some_ne_none _)
      · obtain ⟨mutation, hmutation, heffect⟩ :=
          binding_prepared unit.property hnew
        have hslot := slots mutation hmutation
        rw [heffect] at hslot
        unfold effect_status
        exact fun hnone => hslot (Option.map_eq_none_iff.mp hnone)

theorem children_bound {events : List RecoveryEvent} (hrun : RecoveryRun host events db) :
    ChildrenBound db := by
  refine hrun.invariant ⟨?_, ?_⟩ (fun _ _ _ hbound h => hbound.step h)
  · exact leases_in_step_empty.child_unique
  · intro key binding hrow
    cases hrow.symm.trans (row_empty key)

/-! ## The attempts to settle -/

/-- An effect that started a child, and the transition ids its settlements are proposed under. -/
structure ParentEffect where
  session_id : String
  binding : ChildExecutionBinding
  proposed : String → Prop

def ParentEffect.key (parent : ParentEffect) : String × String :=
  (parent.session_id, parent.binding.parent_effect_id)

/-- The transition ids of its settlements: the live one, those of the proposals, and those of the
recovery guards. -/
inductive ParentEffect.Settles (parent : ParentEffect) : String → Prop
  | live : parent.Settles parent.binding.live_parent_settlement_transition_id
  | proposal {transition_id : String} (h : parent.proposed transition_id) :
      parent.Settles transition_id
  | recovery (guard : RecoveryTransitionGuard) :
      parent.Settles (recovery_parent_settlement_transition_id parent.binding guard)
  | guarded {transition_id : String} (h : parent.proposed transition_id)
      (guard : RecoveryTransitionGuard) :
      parent.Settles (guarded_transition_id transition_id guard)

/-- A call of the commit port that settles the effect: a live one, or one under a recovery guard. -/
structure ParentEffect.Attempt (parent : ParentEffect) where
  session_state : JsonObject
  request : CommitSettlementRequest
  guard : Option RecoveryTransitionGuard
  valid : request.post_init = .ok ()
  session : request.session_id = parent.session_id
  effect : request.settlement.effect_id = parent.binding.parent_effect_id
  proposed : parent.proposed request.proposal.transition_id
  child : ∀ guarded ∈ guard, guarded.child_run_id = parent.binding.child_run_id

namespace ParentEffect

variable {parent : ParentEffect}

def Attempt.body (attempt : parent.Attempt) : Task CommitResult :=
  match attempt.guard with
  | none => commit_settlement attempt.session_state attempt.request
  | some guard =>
    commit_settlement_with_recovery_guard attempt.session_state attempt.request
      guard

/-- The binding that a query found is the effect's. -/
def ReadsChild (parent : ParentEffect) : (query : Query) → Answer query → Prop
  | .load_child_binding_of_effect session_id parent_effect_id, answer =>
    ∀ binding, answer = .ok (some binding) → (session_id, parent_effect_id) = parent.key →
      binding.identity = parent.binding.identity
  | .load_child_binding_of_run session_id child_run_id, answer =>
    ∀ binding, answer = .ok (some binding) → session_id = parent.session_id →
      child_run_id = parent.binding.child_run_id →
      binding.identity = parent.binding.identity
  | _, _ => True

/-- A unit that settles the effect. -/
structure SettlementUnit (parent : ParentEffect) (authority : OwnerAuthority) (unit : UnitOfWork) :
    Prop where
  session : authority.session_id = parent.session_id
  typed : ∃ transition_id, unit.val.transition_id = some transition_id
    ∧ parent.Settles transition_id
  adopts : ∀ adopted ∈ unit.val.adopt_transition_ids, parent.Settles adopted
  settles : ∃ mutation ∈ unit.val.normalized_effect_mutations,
    mutation.effect_id = parent.binding.parent_effect_id
  no_cut : unit.val.expected_mailbox_cut = none
  no_evidence : unit.val.reconciliation_evidence_ref = none

/-- What an attempt asks: it writes by its one unit, which settles the effect. -/
def Asks (parent : ParentEffect) (history : TaskHistory) : Query → Prop
  | .commit authority unit =>
    (∀ told ∈ history, parent.ReadsChild told.1 told.2) → parent.SettlementUnit authority unit
  | .store _ => False
  | _ => True

/-- The commit that an attempt was answered with. -/
def Answered (history : TaskHistory) (idempotent : Bool) (state_version : OperationStateVersion)
    (receipt : TransitionReceipt) : Prop :=
  ∃ authority unit commit, ⟨.commit authority unit, .ok commit⟩ ∈ history
    ∧ commit.idempotent = idempotent ∧ commit.state_version = some state_version
    ∧ commit.transition_receipt = some receipt

/-- What an attempt returns: the result of the commit it was answered with, or a rejection. -/
def Returns (history : TaskHistory) : Except StoreError CommitResult → Prop
  | .ok (.Committed state_version _ receipt) => Answered history false state_version receipt
  | .ok (.ExactReplay state_version receipt) => Answered history true state_version receipt
  | .ok (.DispatchAuthorized _ _ _ _) => False
  | _ => True

/-! ### The code of an attempt -/

variable {commit : AuthoritativeCommit}

theorem required_transition_result_eq_ok {result : OperationStateVersion × TransitionReceipt} :
    required_transition_result commit = .ok result ↔
      commit.state_version = some result.1 ∧ commit.transition_receipt = some result.2 := by
  obtain ⟨state_version, receipt⟩ := result
  unfold required_transition_result
  cases commit.state_version <;> cases commit.transition_receipt <;> simp

variable {authority : OwnerAuthority} {unit : UnitOfWork} {history : TaskHistory}

theorem ordinary_result_returns
    (hmem : (⟨.commit authority unit, .ok commit⟩ : (query : Query) × Answer query) ∈ history) :
    Returns history (ordinary_result commit) := by
  cases hresult : ordinary_result commit with
  | error error => exact True.intro
  | ok result =>
    unfold ordinary_result at hresult
    split at hresult
    · next hidempotent =>
      simp only [exact_replay, bind_eq_ok, pure_eq_ok,
        required_transition_result_eq_ok] at hresult
      obtain ⟨_, ⟨hstate, hreceipt⟩, rfl⟩ := hresult
      exact ⟨authority, unit, commit, hmem, hidempotent, hstate, hreceipt⟩
    · next hfresh =>
      simp only [bind_eq_ok, pure_eq_ok, required_transition_result_eq_ok]
        at hresult
      obtain ⟨_, ⟨hstate, hreceipt⟩, rfl⟩ := hresult
      exact ⟨authority, unit, commit, hmem, Bool.eq_false_of_not_eq_true hfresh, hstate,
        hreceipt⟩

theorem rejected_result_meets (session_id run_id : String) (owner_epoch : Nat) (error : StoreError)
    (history : TaskHistory) :
    Meets (fun _ _ _ => True) parent.Asks Returns
      (rejected_result session_id run_id owner_epoch error) history := by
  unfold rejected_result
  split
  · exact True.intro
  · split
    · refine Meets.await_bind True.intro (fun current _ => ?_)
      rcases current with error | found
      · exact True.intro
      · cases found with
        | none => exact True.intro
        | some current_state => exact True.intro
    · split
      · exact True.intro
      · split
        · exact True.intro
        · exact True.intro

theorem Attempt.mutation_effect (attempt : parent.Attempt) :
    attempt.request.effect_mutation.effect_id = parent.binding.parent_effect_id := by
  have hvalid := attempt.valid
  simp only [CommitSettlementRequest.post_init, check_bind_eq_ok, raise_if_eq_ok, not_not]
    at hvalid
  obtain ⟨-, -, -, heffect, -⟩ := hvalid
  exact heffect.trans attempt.effect

variable {transition_id : String}

theorem Attempt.commits (attempt : parent.Attempt) {options : TransitionOptions}
    {preparations : List EffectMutation}
    (hmutations : options.effect_mutations = attempt.request.effect_mutation :: preparations)
    (hcut : options.expected_mailbox_cut = none)
    (htransition : options.transition_id = some transition_id)
    (hids : (∀ told ∈ history, parent.ReadsChild told.1 told.2) → parent.Settles transition_id
      ∧ ∀ adopted ∈ options.adopt_transition_ids, parent.Settles adopted) :
    Meets (fun _ _ _ => True) parent.Asks Returns (do
      let unit ← transition_unit attempt.session_state
        (settlement_core attempt.request) options
      commit_unit (DurableCommitPort.authority (settlement_core attempt.request))
        unit (fun commit => lift (ordinary_result commit))) history := by
  have hunits : Always (fun query => ∀ history, parent.Asks history query) _
      (transition_unit attempt.session_state
        (settlement_core attempt.request) options) :=
    transition_unit_asks (fun _ => True.intro) _ options
  refine Meets.bind (hunits.meets ?_ ?_ ?_)
  · exact fun later query _ hasks => hasks later
  · rintro later unit hlater ⟨facts, hunit⟩
    have hsettles : parent.Asks later (.commit
        (DurableCommitPort.authority (settlement_core attempt.request)) unit) := by
      intro hreads
      obtain ⟨hid, hadopts⟩ := hids (fun told hmem => hreads told (hlater.subset hmem))
      refine
        { session := attempt.session, typed := ⟨transition_id, ?_, hid⟩, adopts := ?_,
          settles := ⟨attempt.request.effect_mutation, ?_, attempt.mutation_effect⟩,
          no_cut := ?_, no_evidence := ?_ }
      · rw [hunit, transition_unit_of_facts, htransition]
        rfl
      · rw [hunit]
        exact hadopts
      · rw [hunit]
        show attempt.request.effect_mutation ∈ options.effect_mutations
        rw [hmutations]
        exact mem_cons_self
      · rw [hunit]
        exact hcut
      · rw [hunit]
        rfl
    refine Meets.await_bind hsettles (fun answer _ => ?_)
    rcases answer with error | commit
    · exact rejected_result_meets _ _ _ error _
    · exact Meets.lift (ordinary_result_returns (mem_append_right _ (mem_singleton_self _)))
  · intro later error _
    exact True.intro

theorem settlement_ids_of_identity {binding : ChildExecutionBinding}
    (h : binding.identity = parent.binding.identity) :
    parent.Settles binding.live_parent_settlement_transition_id
      ∧ ∀ guard, parent.Settles (recovery_parent_settlement_transition_id binding guard) := by
  have hlive : binding.live_parent_settlement_transition_id
      = parent.binding.live_parent_settlement_transition_id := by
    show binding.identity.live_parent_settlement_transition_id = _
    rw [h]
    rfl
  refine ⟨hlive ▸ Settles.live, fun guard => ?_⟩
  have hrecovery : recovery_parent_settlement_transition_id binding guard
      = recovery_parent_settlement_transition_id parent.binding guard := by
    unfold recovery_parent_settlement_transition_id
    rw [hlive]
  rw [hrecovery]
  exact Settles.recovery guard

section

variable (attempt : parent.Attempt)

theorem Attempt.live_ids {binding : Option ChildExecutionBinding}
    {transition_ids : String × List String}
    (hbinding : ∀ found, binding = some found → found.identity = parent.binding.identity)
    (h : settlement_transition_ids attempt.request binding = .ok transition_ids) :
    parent.Settles transition_ids.1 ∧ ∀ adopted ∈ transition_ids.2, parent.Settles adopted := by
  cases binding with
  | none =>
    cases h
    exact ⟨Settles.proposal attempt.proposed, forall_mem_nil _⟩
  | some binding =>
    obtain ⟨hlive, hrecovery⟩ := settlement_ids_of_identity (hbinding binding rfl)
    simp only [settlement_transition_ids, bind_eq_ok,
      pure_eq_ok] at h
    obtain ⟨_, -, rfl⟩ := h
    refine ⟨hlive, fun adopted hadopted => ?_⟩
    rcases mem_cons.mp (mem_distinct_transition_ids hadopted) with rfl | hlease
    · exact Settles.proposal attempt.proposed
    · rw [Option.mem_toList] at hlease
      obtain ⟨lease, -, rfl⟩ := Option.map_eq_some_iff.mp hlease
      exact hrecovery _

theorem Attempt.reads_meet : Meets (fun _ _ _ => True) parent.Asks
      (fun history result => ∀ reads, result = .ok reads →
        (∀ told ∈ history, parent.ReadsChild told.1 told.2) →
          parent.Settles reads.1.1 ∧ ∀ adopted ∈ reads.1.2, parent.Settles adopted)
      (DurableCommitPort.settlement_reads attempt.request) [] := by
  have hloads : parent.Asks [] (.load_child_binding_of_effect attempt.request.session_id
      attempt.request.settlement.effect_id) := True.intro
  refine Meets.bind (Meets.await_bind hloads (fun loaded _ => ?_))
  refine Meets.lift_bind (fun binding hbinding => ?_) (fun _ _ => ?_)
  · refine Meets.lift ?_
    cases hids : settlement_transition_ids attempt.request binding with
    | error error => exact fun _ hresult => by cases hresult
    | ok transition_ids =>
      -- the guard of an attempt that was never claimed reads the attempt and the clock
      have hcloseout : Always (fun query => ∀ history, parent.Asks history query) (fun _ => True)
          (unstarted_closeout_guard attempt.request) :=
        unstarted_closeout_guard_asks (fun _ => True.intro) (fun _ _ => True.intro) _
      refine Meets.bind (hcloseout.meets ?_ ?_ ?_)
      · exact fun later query _ hasks => hasks later
      · rintro later closeout_guard hlater - reads hreads hchild
        cases hreads
        refine attempt.live_ids ?_ hids
        rintro found rfl
        subst hbinding
        have htold := hchild _ (hlater.subset (mem_singleton_self _))
        exact htold found rfl (by rw [attempt.session, attempt.effect]; rfl)
      · exact fun later error _ _ hresult => by cases hresult
  · exact fun _ hresult => by cases hresult

theorem Attempt.live_meets : Meets (fun _ _ _ => True) parent.Asks Returns
      (commit_settlement attempt.session_state attempt.request) [] := by
  refine Meets.bind (Meets.handle (Meets.bind (attempt.reads_meet.imp ?_)))
  intro history result hreads
  cases result with
  | error error => exact True.intro
  | ok reads => exact attempt.commits rfl rfl rfl (hreads reads rfl)

theorem Attempt.recovery_meets {guard : RecoveryTransitionGuard}
    (hguard : attempt.guard = some guard) :
    Meets (fun _ _ _ => True) parent.Asks Returns
      (commit_settlement_with_recovery_guard attempt.session_state
        attempt.request guard) [] := by
  unfold commit_settlement_with_recovery_guard
  cases guard.kind with
  | CHILD_TERMINAL =>
    exact attempt.commits rfl rfl rfl
      (fun _ => ⟨Settles.guarded attempt.proposed guard, forall_mem_nil _⟩)
  | PARENT_SETTLEMENT =>
    refine Meets.await_bind True.intro (fun loaded _ => ?_)
    rcases loaded with error | found
    · exact True.intro
    · cases found with
      | none => exact True.intro
      | some binding =>
        refine attempt.commits rfl rfl rfl (fun hchild => ?_)
        have htold := hchild _ (mem_singleton_self _)
        obtain ⟨hlive, hrecovery⟩ := settlement_ids_of_identity
          (htold binding rfl attempt.session (attempt.child guard hguard))
        refine ⟨hrecovery guard, fun adopted hadopted => ?_⟩
        rcases mem_cons.mp (mem_distinct_transition_ids hadopted) with rfl | hadopted
        · exact Settles.proposal attempt.proposed
        · rw [mem_singleton] at hadopted
          rw [hadopted]
          exact hlive

theorem Attempt.meets : Meets (fun _ _ _ => True) parent.Asks Returns attempt.body [] := by
  unfold Attempt.body
  cases hguard : attempt.guard with
  | none => exact attempt.live_meets
  | some guard => exact attempt.recovery_meets hguard

end

/-! ## What an attempt does to the store -/

/-- A receipt of a settlement of the effect. -/
structure ReceiptOf (parent : ParentEffect) (db : Tables) (projection_epoch : Nat)
    (transition_id : String) (row : TransitionReceiptRow) : Prop where
  settles : parent.Settles transition_id
  stored : db.session_transition_receipts.row
    (parent.session_id, projection_epoch, transition_id) = some row

/-- The commit reports what a receipt of a settlement holds. -/
def Reports (parent : ParentEffect) (db : Tables) (commit : AuthoritativeCommit) : Prop :=
  ∃ projection_epoch transition_id row, parent.ReceiptOf db projection_epoch transition_id row
    ∧ commit.state_version = some row.result.state_version ∧ commit.facts = row.result.facts
    ∧ commit.transition_receipt
      = some (transition_receipt parent.session_id projection_epoch transition_id row)

/-- The effect has its child, its slot, and at most one settlement, which closed it. -/
structure SettledOnce (parent : ParentEffect) (db : Tables) : Prop where
  unique : ChildUnique db.session_child_bindings
  bound : ∃ binding, db.session_child_bindings.row parent.key = some binding
    ∧ binding.identity = parent.binding.identity
  slot : effect_status db parent.key ≠ none
  closed : ∀ projection_epoch transition_id row,
    parent.ReceiptOf db projection_epoch transition_id row → EffectClosed db parent.key
  once : ∀ projection_epoch transition_id row projection_epoch' transition_id' row',
    parent.ReceiptOf db projection_epoch transition_id row →
    parent.ReceiptOf db projection_epoch' transition_id' row' →
    projection_epoch = projection_epoch' ∧ transition_id = transition_id'

/-- What one access of an attempt comes to on the tables, when it is answered with a commit or
rejected. -/
inductive Outcome (parent : ParentEffect) (db : Tables) :
    Except StoreError StoreAnswer → Tables → Prop
  | rejected {error : StoreError} : parent.Outcome db (.error error) db
  | replayed {commit : AuthoritativeCommit} {db' : Tables} (idempotent : commit.idempotent = true)
      (reports : parent.Reports db commit) (quiet : Quiet db db')
      (bindings : db'.session_child_bindings = db.session_child_bindings) :
      parent.Outcome db (.ok (.commit commit)) db'
  | settled {commit : AuthoritativeCommit} {db' : Tables} (fresh : commit.idempotent = false)
      (first : ∀ projection_epoch transition_id row,
        ¬ parent.ReceiptOf db projection_epoch transition_id row)
      (reports : parent.Reports db' commit)
      (once : ∀ projection_epoch transition_id row projection_epoch' transition_id' row',
        parent.ReceiptOf db' projection_epoch transition_id row →
        parent.ReceiptOf db' projection_epoch' transition_id' row' →
        projection_epoch = projection_epoch' ∧ transition_id = transition_id')
      (closed : EffectClosed db' parent.key) :
      parent.Outcome db (.ok (.commit commit)) db'

theorem adopt_receipt_mem {ρ : Type} {current_id found_id : String} {current_row : Option ρ}
    {adopted_rows : List (String × Option ρ)} {parent_effect_status : Option String} {row : ρ}
    (h : adopt_parent_settlement_receipt current_id current_row adopted_rows parent_effect_status
      = .ok (some (found_id, row))) :
    (found_id, some row) ∈ (current_id, current_row) :: adopted_rows := by
  unfold adopt_parent_settlement_receipt at h
  dsimp only at h
  split at h
  · cases h
  · next found hpresent =>
    rw [Except.ok.injEq, Option.some.injEq] at h
    subst h
    have hmem := mem_singleton_self (found_id, row)
    rw [← hpresent, mem_filterMap] at hmem
    obtain ⟨⟨id, loaded⟩, hcandidate, hloaded⟩ := hmem
    obtain ⟨_, hsome, heq⟩ := Option.map_eq_some_iff.mp hloaded
    cases heq
    dsimp only at hsome
    subst hsome
    exact hcandidate
  · split at h <;> cases h

variable {row : TransitionReceiptRow} {projection_epoch : Nat}

theorem find_receipt_row {session_id : String} {unit : AuthoritativeUnitOfWork}
    {transition_id fingerprint found_id : String}
    (h : find_receipt db session_id unit projection_epoch transition_id fingerprint
      = .ok (some (found_id, row))) :
    (found_id = transition_id ∨ found_id ∈ unit.adopt_transition_ids)
      ∧ db.session_transition_receipts.row (session_id, projection_epoch, found_id) = some row := by
  unfold find_receipt at h
  split at h
  · simp only [bind_eq_ok] at h
    obtain ⟨adopted, hadopted, h⟩ := h
    cases adopted with
    | none => cases h
    | some found =>
      obtain ⟨adopted_id, adopted_row⟩ := found
      simp only [bind_eq_ok, pure_eq_ok, Option.some.injEq, Prod.mk.injEq] at h
      obtain ⟨_, -, rfl, rfl⟩ := h
      rcases mem_cons.mp (adopt_receipt_mem hadopted) with hown | hadopted
      · rw [Prod.mk.injEq] at hown
        rw [hown.1]
        exact ⟨Or.inl rfl, hown.2.symm⟩
      · obtain ⟨id, hid, heq⟩ := mem_map.mp hadopted
        rw [Prod.mk.injEq] at heq
        rw [← heq.1]
        exact ⟨Or.inr hid, heq.2⟩
  · cases hfound : db.session_transition_receipts.row
        (session_id, projection_epoch, transition_id) with
    | none => simp [hfound] at h
    | some found =>
      simp only [hfound, bind_eq_ok, pure_eq_ok, Option.some.injEq,
        Prod.mk.injEq] at h
      obtain ⟨_, -, rfl, rfl⟩ := h
      exact ⟨Or.inl rfl, hfound⟩

theorem SettlementUnit.closes {state_cas : OperationStateCAS} {state_value : JsonObject}
    {receipt : TransitionReceiptRow} {plan : CommitPlan}
    (hunit : parent.SettlementUnit authority unit) (hslot : effect_status db parent.key ≠ none)
    (h : FreshCommit db authority unit.val state_cas transition_id state_value receipt plan db'
      commit) : ¬ EffectClosed db parent.key ∧ EffectClosed db' parent.key := by
  obtain ⟨settling, hsettling, heffect⟩ := hunit.settles
  rcases h.effect_status_cases parent.session_id parent.binding.parent_effect_id with
    ⟨-, hother⟩ | ⟨mutation, hmem, hmutation, hafter, hbefore⟩
  · exact absurd heffect (hother hunit.session.symm settling hsettling)
  · -- it is no dispatch and no reconciliation
    have hdispatch : mutation.is_dispatch = false := by
      cases hdispatch : mutation.is_dispatch with
      | false => rfl
      | true =>
        have halone := dispatch_alone unit.property hmem hdispatch
        exact absurd hunit.no_cut halone.2
    have hunknown : mutation.expected_status ≠ some .UNKNOWN := by
      intro hunknown
      exact reconciliation_evidenced unit.property hmem hunknown
        hunit.no_evidence
    cases hexpected : mutation.expected_status with
    | none =>
      rw [hexpected] at hbefore
      exact absurd hbefore hslot
    | some expected_status =>
      rw [hexpected] at hbefore hunknown
      obtain ⟨hcurrent, hlegal⟩ := hbefore
      have hedges : expected_status.value ∉ TERMINAL_PARENT_EFFECT_STATUSES
          ∧ mutation.status.value ∈ TERMINAL_PARENT_EFFECT_STATUSES := by
        rw [EffectMutation.is_dispatch, decide_eq_false_iff_not, hexpected] at hdispatch
        revert hlegal hdispatch hunknown
        generalize mutation.status = status
        cases expected_status <;> cases status <;> decide
      refine ⟨?_, mutation.status.value, hafter, hedges.2⟩
      rintro ⟨status, hstatus, hterminal⟩
      rw [Option.mem_def, ParentEffect.key, hcurrent, Option.some.injEq] at hstatus
      exact hedges.1 (hstatus ▸ hterminal)

variable {answer : Except StoreError StoreAnswer} {new_sessions_enabled : Bool}
  {stored : Option JsonObject}

/-- **An attempt on the store**: it is rejected, it replays the one receipt there is, or it is the
first to settle. -/
theorem settlement_outcome (hunit : parent.SettlementUnit authority unit)
    (honce : parent.SettledOnce db)
    (h : StoreStep host db (.call clock
      (.commit_authoritative_uow authority unit stored new_sessions_enabled) answer) db') :
    parent.Outcome db answer db' := by
  cases answer with
  | error error =>
    rw [rejected_unchanged h]
    exact .rejected
  | ok answer =>
    obtain ⟨commit, hcommit, rfl⟩ := map_answer_eq_ok (accepted h)
    obtain ⟨transition_id, htransition, hsettles⟩ := hunit.typed
    obtain ⟨state_cas, state_value, -, -, -, hreplay | ⟨plan, receipt, -, hfresh⟩⟩ :=
      typed_commit_cases htransition hcommit
    · obtain ⟨-, ⟨found_id, row, hfound, rfl⟩, rfl⟩ := hreplay
      obtain ⟨hid, hrow⟩ := find_receipt_row hfound
      rw [hunit.session] at hrow
      have hfound_settles : parent.Settles found_id := by
        rcases hid with rfl | hadopted
        · exact hsettles
        · exact hunit.adopts found_id hadopted
      refine .replayed rfl ⟨_, found_id, row, ⟨hfound_settles, hrow⟩, rfl, rfl, ?_⟩
        (Quiet.ensure_fact_source db _) (LeasesKept.ensure_fact_source db _).bindings
      rw [← hunit.session]
      rfl
    · obtain ⟨hopen, hclosed⟩ := hunit.closes honce.slot hfresh
      have hfirst : ∀ projection_epoch transition_id row,
          ¬ parent.ReceiptOf db projection_epoch transition_id row :=
        fun _ _ _ hreceipt => hopen (honce.closed _ _ _ hreceipt)
      -- the only receipt there is now is the new one
      have honly : ∀ epoch id row, parent.ReceiptOf db' epoch id row →
          epoch = state_cas.projection_epoch ∧ id = transition_id := by
        intro epoch id row hreceipt
        have hstored := hreceipt.stored
        rw [hfresh.receipts_eq, row_put] at hstored
        split at hstored
        · next hkey =>
          rw [Prod.mk.injEq, Prod.mk.injEq] at hkey
          exact hkey.2
        · exact absurd ⟨hreceipt.settles, hstored⟩ (hfirst epoch id row)
      have hnew : parent.ReceiptOf db' state_cas.projection_epoch transition_id receipt := by
        refine ⟨hsettles, ?_⟩
        rw [← hunit.session, hfresh.receipts_eq, row_put_self]
      refine .settled (by rw [hfresh.commit_eq]; rfl) hfirst ⟨_, transition_id, receipt, hnew, ?_⟩
        ?_ hclosed
      · rw [hfresh.commit_eq]
        refine ⟨rfl, rfl, ?_⟩
        rw [← hunit.session, fresh_commit, hfresh.result]
        rfl
      · intro epoch id row epoch' id' row' hreceipt hreceipt'
        obtain ⟨hepoch, hid⟩ := honly epoch id row hreceipt
        obtain ⟨hepoch', hid'⟩ := honly epoch' id' row' hreceipt'
        exact ⟨hepoch.trans hepoch'.symm, hid.trans hid'.symm⟩

/-! ## Everything else -/

/-- An event that is no attempt to settle the effect: it commits under other transition ids, and
carries no legacy slot of the effect. -/
def Spares (parent : ParentEffect) (event : RecoveryEvent) : Prop :=
  NoLegacySlot parent.session_id parent.binding.parent_effect_id event
    ∧ match event with
      | .store (.call _ (.commit_authoritative_uow authority unit _ _) (.ok (.commit commit))) =>
        authority.session_id = parent.session_id → commit.idempotent = false →
          ∀ transition_id ∈ unit.val.transition_id, ¬ parent.Settles transition_id
      | _ => True

theorem Spares.receipt {event : RecoveryEvent} (hspares : parent.Spares event)
    (h : RecoveryStep host db event db')
    (hreceipt : parent.ReceiptOf db' projection_epoch transition_id row) :
    parent.ReceiptOf db projection_epoch transition_id row := by
  refine ⟨hreceipt.settles, ?_⟩
  have hstored := hreceipt.stored
  cases event with
  | store event =>
    cases step_kind h with
    | quiet replayed hquiet => rwa [hquiet.transition_receipts] at hstored
    | legacy untyped event_eq hlegacy => rwa [hlegacy.transition_receipts] at hstored
    | admitted hadmitted =>
      obtain ⟨_, -, _, -, rfl, -⟩ := hadmitted.tables
      exact hstored
    | attempt target owner hwritten =>
      obtain ⟨_, -, -, rfl, -⟩ := hwritten
      exact hstored
    | typed hcommit =>
      rw [hcommit.fresh.receipts_eq, row_put] at hstored
      split at hstored
      · next hkey =>
        rw [Prod.mk.injEq, Prod.mk.injEq] at hkey
        obtain ⟨hsession, -, hid⟩ := hkey
        have hnot := hspares.2 hsession.symm (by rw [hcommit.fresh.commit_eq]; rfl) _
          hcommit.typed
        exact absurd (hid ▸ hreceipt.settles) hnot
      · exact hstored
  | lease clock call answer =>
    rcases answered_cases h with ⟨_, -, rfl⟩ | ⟨_, -, hperform⟩
    · exact hstored
    · rwa [(perform_lease_quiet hperform).transition_receipts] at hstored

theorem SettledOnce.elsewhere {event : RecoveryEvent} (honce : parent.SettledOnce db)
    (hspares : parent.Spares event) (h : RecoveryStep host db event db') :
    parent.SettledOnce db' := by
  have hbindings := bindings_keep honce.unique h
  obtain ⟨binding, hbinding, hidentity⟩ := honce.bound
  obtain ⟨later, hlater, hsame⟩ := hbindings.kept _ binding hbinding
  refine ⟨hbindings.unique, ⟨later, hlater, hsame.trans hidentity⟩,
    effect_status_kept honce.slot h, ?_, ?_⟩
  · intro epoch id row hreceipt
    exact (honce.closed epoch id row (hspares.receipt h hreceipt)).step hspares.1 h
  · intro epoch id row epoch' id' row' hreceipt hreceipt'
    exact honce.once epoch id row epoch' id' row' (hspares.receipt h hreceipt)
      (hspares.receipt h hreceipt')

theorem SettledOnce.attempted (honce : parent.SettledOnce db)
    (hunit : parent.SettlementUnit authority unit)
    (h : StoreStep host db (.call clock
      (.commit_authoritative_uow authority unit stored new_sessions_enabled) answer) db') :
    parent.SettledOnce db' := by
  have hrecovery : RecoveryStep host db (.store (.call clock
      (.commit_authoritative_uow authority unit stored new_sessions_enabled) answer)) db' := h
  have hbindings := bindings_keep honce.unique hrecovery
  obtain ⟨binding, hbinding, hidentity⟩ := honce.bound
  obtain ⟨later, hlater, hsame⟩ := hbindings.kept _ binding hbinding
  have hlegacy : NoLegacySlot parent.session_id parent.binding.parent_effect_id (.store (.call clock
      (.commit_authoritative_uow authority unit stored new_sessions_enabled) answer)) := by
    intro _ huntyped
    obtain ⟨_, htyped, -⟩ := hunit.typed
    rw [htyped] at huntyped
    cases huntyped
  have hslot := effect_status_kept honce.slot hrecovery
  cases settlement_outcome hunit honce h with
  | rejected => exact honce
  | replayed idempotent reports quiet bindings =>
    have hreceipt : ∀ epoch id row, parent.ReceiptOf db' epoch id row →
        parent.ReceiptOf db epoch id row := by
      intro epoch id row hreceipt
      exact ⟨hreceipt.settles, quiet.transition_receipts ▸ hreceipt.stored⟩
    refine ⟨hbindings.unique, ⟨later, hlater, hsame.trans hidentity⟩, hslot, ?_, ?_⟩
    · intro epoch id row hstored
      exact (honce.closed epoch id row (hreceipt epoch id row hstored)).step hlegacy hrecovery
    · intro epoch id row epoch' id' row' hstored hstored'
      exact honce.once epoch id row epoch' id' row' (hreceipt epoch id row hstored)
        (hreceipt epoch' id' row' hstored')
  | settled fresh first reports once closed =>
    exact ⟨hbindings.unique, ⟨later, hlater, hsame.trans hidentity⟩, hslot,
      fun _ _ _ _ => closed, once⟩

/-! ## The race

Any number of attempts, live or under any guard, with anything else in between. -/

def StoreAccess (host : Host) (db : Tables) (query : Query) (answer : Answer query)
    (db' : Tables) : Prop :=
  ∃ stored, Answers host db query answer stored db'

def Elsewhere (host : Host) (parent : ParentEffect) (db db' : Tables) : Prop :=
  ∃ event, RecoveryStep host db event db' ∧ parent.Spares event

abbrev Race (parent : ParentEffect) :=
  Crew parent.Attempt Tables Query Answer StoreError CommitResult

abbrev RaceStep (host : Host) (parent : ParentEffect) : Race parent →
    CrewEvent parent.Attempt Tables Query Answer → Race parent → Prop :=
  Step Attempt.body (StoreAccess host) (Elsewhere host parent)

/-- What an attempt was told and may rely on: its effect's binding, and the receipt it was answered
with. -/
def Told (parent : ParentEffect) (db : Tables) (query : Query) (answer : Answer query) : Prop :=
  parent.ReadsChild query answer ∧ match query, answer with
    | .commit _ _, answer => ∀ commit, answer = .ok commit → parent.Reports db commit
    | _, _ => True

theorem Reports.kept {event : RecoveryEvent} (hreports : parent.Reports db commit)
    (h : RecoveryStep host db event db') :
    parent.Reports db' commit := by
  obtain ⟨epoch, id, row, hreceipt, hcommit⟩ := hreports
  exact ⟨epoch, id, row, ⟨hreceipt.settles, receipt_kept h hreceipt.stored⟩, hcommit⟩

variable {query : Query}

theorem Told.kept {event : RecoveryEvent} {answer : Answer query}
    (htold : parent.Told db query answer) (h : RecoveryStep host db event db') :
    parent.Told db' query answer := by
  refine ⟨htold.1, ?_⟩
  cases query with
  | commit authority unit => exact fun commit hcommit => (htold.2 commit hcommit).kept h
  | _ => exact True.intro

theorem read_child {answer : Answer query} (honce : parent.SettledOnce db)
    (hread : read_answer db query = some answer) : parent.ReadsChild query answer := by
  obtain ⟨binding, hbinding, hidentity⟩ := honce.bound
  cases query with
  | load_child_binding_of_effect session_id parent_effect_id =>
    rw [read_answer, Option.some.injEq] at hread
    rintro found rfl hkey
    rw [Except.ok.injEq, hkey, hbinding, Option.some.injEq] at hread
    rw [← hread]
    exact hidentity
  | load_child_binding_of_run session_id child_run_id =>
    rw [read_answer, Option.some.injEq] at hread
    rintro found rfl rfl rfl
    have hchild : binding.child_run_id = parent.binding.child_run_id := by
      show binding.identity.child_run_id = _
      rw [hidentity]
      rfl
    have hrow := child_binding_of_row honce.unique hbinding
    rw [hchild] at hrow
    rw [Except.ok.injEq] at hread
    cases hread.symm.trans hrow
    exact hidentity
  | _ => exact True.intro

theorem failed_told {message : String} {answer : Answer query}
    (hfailed : storage_failure_answer message query = some answer) :
    parent.Told db query answer := by
  cases query with
  | commit authority unit =>
    cases hfailed
    refine ⟨True.intro, fun _ hcommit => ?_⟩
    cases hcommit
  | load_child_binding_of_effect session_id parent_effect_id =>
    cases hfailed
    refine ⟨fun _ hfound => ?_, True.intro⟩
    cases hfound
  | load_child_binding_of_run session_id child_run_id =>
    cases hfailed
    refine ⟨fun _ hfound => ?_, True.intro⟩
    cases hfound
  | _ => exact ⟨True.intro, True.intro⟩

def FirstReceipt (parent : ParentEffect) (db db' : Tables) : Prop :=
  (∀ projection_epoch transition_id row, ¬ parent.ReceiptOf db projection_epoch transition_id row)
    ∧ ∃ projection_epoch transition_id row,
        parent.ReceiptOf db' projection_epoch transition_id row

def FreshAnswer (told : (query : Query) × Answer query) : Prop :=
  ∃ authority unit commit, told = ⟨.commit authority unit, .ok commit⟩ ∧ commit.idempotent = false

structure Accessed (host : Host) (parent : ParentEffect) (db : Tables) (query : Query)
    (answer : Answer query) (db' : Tables) : Prop where
  once : parent.SettledOnce db'
  told : parent.Told db' query answer
  step : db' = db ∨ ∃ event, RecoveryStep host db event db'
  writes : Quiet db db' ∨ parent.FirstReceipt db db'
  fresh : FreshAnswer ⟨query, answer⟩ → parent.FirstReceipt db db'

theorem Accessed.of_read {answer : Answer query} (honce : parent.SettledOnce db)
    (htold : parent.Told db query answer) (hfresh : ¬ FreshAnswer ⟨query, answer⟩) :
    Accessed host parent db query answer db where
  once := honce
  told := htold
  step := Or.inl rfl
  writes := Or.inl (Quiet.refl db)
  fresh := fun h => absurd h hfresh

/-- What a commit of an attempt's unit does, whether or not its acknowledgement arrives. -/
theorem commit_accessed {told : Except StoreError AuthoritativeCommit}
    (honce : parent.SettledOnce db) (hunit : parent.SettlementUnit authority unit)
    (h : StoreStep host db (.call clock
      (.commit_authoritative_uow authority unit stored new_sessions_enabled) answer) db')
    (htold : told = commit_answer answer ∨ ∃ error, told = .error error) :
    Accessed host parent db (.commit authority unit) told db' := by
  have hafter := honce.attempted hunit h
  have hanswered : ∀ commit, told = .ok commit → answer = .ok (.commit commit) := by
    intro commit hcommit
    rcases htold with rfl | ⟨error, rfl⟩
    · unfold commit_answer at hcommit
      split at hcommit
      · cases hcommit
        rfl
      · cases hcommit
      · cases hcommit
    · cases hcommit
  have hrecovery : RecoveryStep host db (.store (.call clock
      (.commit_authoritative_uow authority unit stored new_sessions_enabled) answer)) db' := h
  have hstep : db' = db ∨ ∃ event, RecoveryStep host db event db' := Or.inr ⟨_, hrecovery⟩
  cases settlement_outcome hunit honce h with
  | rejected =>
    refine ⟨hafter, ⟨True.intro, fun commit hcommit => ?_⟩, hstep, Or.inl (Quiet.refl _), ?_⟩
    · cases hanswered commit hcommit
    · rintro ⟨_, _, commit, heq, -⟩
      cases heq
      cases hanswered commit rfl
  | @replayed replay _ idempotent reports quiet bindings =>
    have hreports : parent.Reports db' replay := reports.kept hrecovery
    refine ⟨hafter, ⟨True.intro, fun commit hcommit => ?_⟩, hstep, Or.inl quiet, ?_⟩
    · cases hanswered commit hcommit
      exact hreports
    · rintro ⟨_, _, commit, heq, hfresh⟩
      cases heq
      cases hanswered commit rfl
      rw [idempotent] at hfresh
      cases hfresh
  | @settled settlement _ fresh first reports once closed =>
    have hfirst : parent.FirstReceipt db db' := by
      obtain ⟨epoch, id, row, hreceipt, -⟩ := reports
      exact ⟨first, epoch, id, row, hreceipt⟩
    refine ⟨hafter, ⟨True.intro, fun commit hcommit => ?_⟩, hstep, Or.inr hfirst,
      fun _ => hfirst⟩
    cases hanswered commit hcommit
    exact reports

/-- **One access of an attempt** that asks what its code says. -/
theorem accessed {answer : Answer query} (honce : parent.SettledOnce db)
    (hasks : parent.Asks history query)
    (hhistory : ∀ told ∈ history, parent.ReadsChild told.1 told.2)
    (h : StoreAccess host db query answer db') : Accessed host parent db query answer db' := by
  obtain ⟨stored, hanswers⟩ := h
  cases hanswers with
  | committed step => exact commit_accessed honce (hasks hhistory) step (Or.inl rfl)
  | commit_unacknowledged step => exact commit_accessed honce (hasks hhistory) step (Or.inr ⟨_, rfl⟩)
  | performed step => exact hasks.elim
  | call_unacknowledged step => exact hasks.elim
  | read found =>
    refine .of_read honce ⟨read_child honce found, ?_⟩ ?_
    · cases query with
      | commit authority unit => cases found
      | _ => exact True.intro
    · rintro ⟨_, _, _, heq, -⟩
      cases heq
      cases found
  | failed found =>
    refine .of_read honce (failed_told found) ?_
    rintro ⟨_, _, _, heq, -⟩
    cases heq
    cases found
  | outside houtside =>
    refine .of_read honce ?_ ?_
    · cases query <;> first | exact ⟨True.intro, True.intro⟩ | cases houtside
    · rintro ⟨_, _, _, heq, -⟩
      cases heq
      cases houtside

/-! ### What holds along a race -/

/-- The access of an attempt that moved more than owners and bindings. -/
def Disturbs : CrewEvent parent.Attempt Tables Query Answer → Prop
  | .answered _ _ _ _ _ before after => ¬ Quiet before after
  | _ => False

def HasCommitted (history : TaskHistory) : Prop := ∃ told ∈ history, FreshAnswer told

structure RaceInvariant (parent : ParentEffect)
    (events : List (CrewEvent parent.Attempt Tables Query Answer)) (race : Race parent) : Prop where
  once : parent.SettledOnce race.shared
  follows : Follows (fun _ => parent.Asks) (fun _ => Returns) race
  told : Remembers parent.Told race
  pairwise : events.Pairwise (fun first second => ¬ (Disturbs first ∧ Disturbs second))
  recorded : ∀ event ∈ events, Disturbs event →
    ∃ projection_epoch transition_id row,
      parent.ReceiptOf race.shared projection_epoch transition_id row
  accesses : ∀ pid attempt history query answer before after,
    .answered pid attempt history query answer before after ∈ events →
    Quiet before after ∨ parent.FirstReceipt before after
  committed : ∀ pid pid' caller caller', race.callers pid = some caller →
    race.callers pid' = some caller' → HasCommitted caller.history →
    HasCommitted caller'.history → pid = pid'

variable {events : List (CrewEvent parent.Attempt Tables Query Answer)} {race race' : Race parent}
  {event : CrewEvent parent.Attempt Tables Query Answer}

section

variable (hrace : RaceInvariant parent events race)

include hrace

theorem RaceInvariant.accessed {pid : Nat}
    {attempt : parent.Attempt} {answer : Answer query} {before after : Tables}
    (hstep : RaceStep host parent race (.answered pid attempt history query answer before after)
      race') :
    race.shared = before ∧ Accessed host parent before query answer after := by
  have hasks := hrace.follows.asked hstep
  have htold := hrace.told.answered hstep
  cases hstep with
  | answered waiting answered =>
    exact ⟨rfl, ParentEffect.accessed hrace.once hasks (fun told hmem => (htold told hmem).1)
      answered⟩

theorem RaceInvariant.store_step (hstep : RaceStep host parent race event race') :
    race'.shared = race.shared ∨ ∃ stored, RecoveryStep host race.shared stored race'.shared := by
  cases event with
  | started pid attempt =>
    cases hstep
    exact Or.inl rfl
  | answered pid attempt history query answer before after =>
    obtain ⟨hshared, haccessed⟩ := hrace.accessed hstep
    cases hstep with
    | answered waiting answered => exact haccessed.step
  | elsewhere before after =>
    cases hstep with
    | elsewhere moved =>
      obtain ⟨stored, hstored, -⟩ := moved
      exact Or.inr ⟨stored, hstored⟩

theorem RaceInvariant.receipt_kept (hstep : RaceStep host parent race event race')
    (hreceipt : parent.ReceiptOf race.shared projection_epoch transition_id row) :
    parent.ReceiptOf race'.shared projection_epoch transition_id row := by
  rcases hrace.store_step hstep with hsame | ⟨stored, hstored⟩
  · rw [hsame]
    exact hreceipt
  · exact ⟨hreceipt.settles, CodingAgentLoop.receipt_kept hstored hreceipt.stored⟩

theorem RaceInvariant.receipt_of_committed {pid : Nat}
    {caller : Caller parent.Attempt Query Answer StoreError CommitResult}
    (hcaller : race.callers pid = some caller) (hcommitted : HasCommitted caller.history) :
    ∃ projection_epoch transition_id row,
      parent.ReceiptOf race.shared projection_epoch transition_id row := by
  obtain ⟨told, hmem, authority, unit, commit, rfl, -⟩ := hcommitted
  obtain ⟨epoch, id, row, hreceipt, -⟩ := (hrace.told pid caller hcaller _ hmem).2 commit rfl
  exact ⟨epoch, id, row, hreceipt⟩

theorem RaceInvariant.once_step
    (hstep : RaceStep host parent race event race') : parent.SettledOnce race'.shared := by
  cases event with
  | started pid attempt =>
    cases hstep
    exact hrace.once
  | answered pid attempt history query answer before after =>
    obtain ⟨hshared, haccessed⟩ := hrace.accessed hstep
    cases hstep with
    | answered waiting answered => exact haccessed.once
  | elsewhere before after =>
    cases hstep with
    | elsewhere moved =>
      obtain ⟨stored, hstored, hspares⟩ := moved
      exact hrace.once.elsewhere hspares hstored

theorem RaceInvariant.told_step
    (hstep : RaceStep host parent race event race') : Remembers parent.Told race' := by
  refine hrace.told.step ?_ ?_ hstep
  · rintro pid attempt history query answer before after rfl
    exact (hrace.accessed hstep).2.told
  · intro before after haccess query answer htold
    have hshared := hstep.shared
    rw [haccess] at hshared
    obtain ⟨rfl, rfl⟩ := hshared
    rcases hrace.store_step hstep with hsame | ⟨stored, hstored⟩
    · rw [hsame]
      exact htold
    · exact htold.kept hstored

theorem RaceInvariant.committed_step (hstep : RaceStep host parent race event race') :
    ∀ pid pid' caller caller', race'.callers pid = some caller →
      race'.callers pid' = some caller' → HasCommitted caller.history →
      HasCommitted caller'.history → pid = pid' := by
  cases event with
  | elsewhere before after =>
    cases hstep
    exact hrace.committed
  | started started attempt =>
    cases hstep
    have hother : ∀ pid caller, (race.resumed started ⟨attempt, attempt.body, []⟩
        race.shared).callers pid = some caller → HasCommitted caller.history →
        race.callers pid = some caller := by
      intro pid caller hcaller hcommitted
      rw [resumed_callers] at hcaller
      split at hcaller
      · cases hcaller
        obtain ⟨_, hmem, -⟩ := hcommitted
        cases hmem
      · exact hcaller
    intro pid pid' caller caller' hcaller hcaller' hcommitted hcommitted'
    exact hrace.committed pid pid' caller caller' (hother pid caller hcaller hcommitted)
      (hother pid' caller' hcaller' hcommitted') hcommitted hcommitted'
  | answered answered attempt history query answer before after =>
    obtain ⟨rfl, haccessed⟩ := hrace.accessed hstep
    cases hstep with
    | @answered _ _ _ _ resume _ _ waiting access =>
      -- it committed before, or this access is its commit
      have hcases : ∀ pid caller, (race.resumed answered ⟨attempt, resume answer,
          history ++ [⟨query, answer⟩]⟩ after).callers pid = some caller →
          HasCommitted caller.history →
          (∃ old, race.callers pid = some old ∧ HasCommitted old.history)
            ∨ pid = answered ∧ FreshAnswer ⟨query, answer⟩ := by
        intro pid caller hcaller hcommitted
        rw [resumed_callers] at hcaller
        split at hcaller
        · next hpid =>
          cases hcaller
          obtain ⟨told, hmem, hfresh⟩ := hcommitted
          rcases mem_snoc hmem with hold | hnew
          · exact Or.inl ⟨_, hpid ▸ waiting, told, hold, hfresh⟩
          · exact Or.inr ⟨hpid, hnew ▸ hfresh⟩
        · exact Or.inl ⟨caller, hcaller, hcommitted⟩
      -- before the one commit there was no receipt, so nobody had committed
      have hfirst : FreshAnswer ⟨query, answer⟩ → ∀ pid old, race.callers pid = some old →
          ¬ HasCommitted old.history := by
        intro hfresh pid old hold hcommitted
        obtain ⟨epoch, id, row, hreceipt⟩ := hrace.receipt_of_committed hold hcommitted
        exact (haccessed.fresh hfresh).1 epoch id row hreceipt
      intro pid pid' caller caller' hcaller hcaller' hcommitted hcommitted'
      rcases hcases pid caller hcaller hcommitted with ⟨old, hold, hdone⟩ | ⟨rfl, hfresh⟩
      · rcases hcases pid' caller' hcaller' hcommitted' with
          ⟨old', hold', hdone'⟩ | ⟨-, hfresh⟩
        · exact hrace.committed pid pid' old old' hold hold' hdone hdone'
        · exact absurd hdone (hfirst hfresh pid old hold)
      · rcases hcases pid' caller' hcaller' hcommitted' with
          ⟨old', hold', hdone'⟩ | ⟨rfl, -⟩
        · exact absurd hdone' (hfirst hfresh pid' old' hold')
        · rfl

theorem RaceInvariant.step (hstep : RaceStep host parent race event race') :
    RaceInvariant parent (events ++ [event]) race' := by
  -- an event that disturbs the store is the access that makes the first receipt
  have hdisturbs : Disturbs event → parent.FirstReceipt race.shared race'.shared := by
    intro hdisturbed
    cases event with
    | started pid attempt => exact hdisturbed.elim
    | elsewhere before after => exact hdisturbed.elim
    | answered pid attempt history query answer before after =>
      obtain ⟨rfl, haccessed⟩ := hrace.accessed hstep
      cases hstep with
      | answered waiting access => exact haccessed.writes.resolve_left hdisturbed
  refine
    { once := hrace.once_step hstep, follows := hrace.follows.step Attempt.meets hstep,
      told := hrace.told_step hstep, pairwise := ?_, recorded := ?_, accesses := ?_,
      committed := hrace.committed_step hstep }
  · rw [pairwise_append]
    refine ⟨hrace.pairwise, pairwise_singleton _ _, ?_⟩
    rintro first hfirst second hsecond ⟨hdisturbs_first, hdisturbs_second⟩
    rw [mem_singleton] at hsecond
    subst hsecond
    obtain ⟨epoch, id, row, hreceipt⟩ := hrace.recorded first hfirst hdisturbs_first
    exact (hdisturbs hdisturbs_second).1 epoch id row hreceipt
  · intro first hfirst hdisturbs_first
    rcases mem_snoc hfirst with hold | rfl
    · obtain ⟨epoch, id, row, hreceipt⟩ := hrace.recorded first hold hdisturbs_first
      exact ⟨epoch, id, row, hrace.receipt_kept hstep hreceipt⟩
    · exact (hdisturbs hdisturbs_first).2
  · intro pid attempt history query answer before after hmem
    rcases mem_snoc hmem with hold | rfl
    · exact hrace.accesses pid attempt history query answer before after hold
    · exact (hrace.accessed hstep).2.writes

end

/-! ## The claim about races -/

/-- The row is the receipt a result speaks of. -/
def ResultOf (parent : ParentEffect) (db : Tables) (state_version : OperationStateVersion)
    (receipt : TransitionReceipt) : Prop :=
  ∃ projection_epoch transition_id row, parent.ReceiptOf db projection_epoch transition_id row
    ∧ state_version = row.result.state_version
    ∧ receipt = transition_receipt parent.session_id projection_epoch transition_id row

/-- What an attempt that is over has returned: the result of the one receipt, or a rejection. -/
def Concluded (parent : ParentEffect) (db : Tables) : CommitResult → Prop
  | .Committed state_version _ receipt => parent.ResultOf db state_version receipt
  | .ExactReplay state_version receipt => parent.ResultOf db state_version receipt
  | .DispatchAuthorized _ _ _ _ => False
  | _ => True

/-- **One settlement for an effect**: what holds after every race of its attempts. -/
structure SettledByOne (parent : ParentEffect)
    (events : List (CrewEvent parent.Attempt Tables Query Answer)) (race : Race parent) : Prop where
  one_receipt : ∀ projection_epoch transition_id row projection_epoch' transition_id' row',
    parent.ReceiptOf race.shared projection_epoch transition_id row →
    parent.ReceiptOf race.shared projection_epoch' transition_id' row' →
    projection_epoch = projection_epoch' ∧ transition_id = transition_id'
  written_once : events.Pairwise (fun first second => ¬ (Disturbs first ∧ Disturbs second))
  accesses : ∀ pid attempt history query answer before after,
    .answered pid attempt history query answer before after ∈ events →
    Quiet before after ∨ parent.FirstReceipt before after
  concluded : ∀ pid attempt result history,
    race.callers pid = some ⟨attempt, .done result, history⟩ → parent.Concluded race.shared result
  committed_once : ∀ pid pid' attempt attempt' history history' state_version state_version' notices
      notices' receipt receipt',
    race.callers pid = some ⟨attempt, .done (.Committed state_version notices receipt), history⟩ →
    race.callers pid'
      = some ⟨attempt', .done (.Committed state_version' notices' receipt'), history'⟩ →
    pid = pid'

theorem RaceInvariant.answered (hrace : RaceInvariant parent events race) {pid : Nat}
    {caller : Caller parent.Attempt Query Answer StoreError CommitResult} {idempotent : Bool}
    {state_version : OperationStateVersion} {receipt : TransitionReceipt}
    (hcaller : race.callers pid = some caller)
    (hanswered : Answered caller.history idempotent state_version receipt) :
    parent.ResultOf race.shared state_version receipt := by
  obtain ⟨authority, unit, commit, hmem, -, hstate, hreceipt⟩ := hanswered
  obtain ⟨epoch, id, row, hstored, hstate', -, hreceipt'⟩ :=
    (hrace.told pid caller hcaller _ hmem).2 commit rfl
  refine ⟨epoch, id, row, hstored, ?_, ?_⟩
  · rw [hstate, Option.some.injEq] at hstate'
    exact hstate'
  · rw [hreceipt, Option.some.injEq] at hreceipt'
    exact hreceipt'

theorem RaceInvariant.settled_by_one (hrace : RaceInvariant parent events race) :
    SettledByOne parent events race := by
  refine
    { one_receipt := hrace.once.once, written_once := hrace.pairwise, accesses := hrace.accesses,
      concluded := ?_, committed_once := ?_ }
  · intro pid attempt result history hdone
    have hreturns := hrace.follows.ended hdone
    cases result with
    | Committed state_version notices receipt => exact hrace.answered hdone hreturns
    | ExactReplay state_version receipt => exact hrace.answered hdone hreturns
    | DispatchAuthorized state_version permit notices receipt => exact hreturns
    | _ => exact True.intro
  · intro pid pid' attempt attempt' history history' _ _ _ _ _ _ hdone hdone'
    have hcommitted : ∀ {pid attempt history state_version notices receipt},
        race.callers pid
          = some ⟨attempt, .done (.Committed state_version notices receipt), history⟩ →
        HasCommitted history := by
      intro pid attempt history state_version notices receipt hdone
      obtain ⟨authority, unit, commit, hmem, hfresh, -⟩ := hrace.follows.ended hdone
      exact ⟨_, hmem, authority, unit, commit, rfl, hfresh⟩
    exact hrace.committed pid pid' _ _ hdone hdone' (hcommitted hdone) (hcommitted hdone')

/-- **A parent effect is settled once**, by whichever attempts race for it: from any reachable store
that has the child's binding and no settlement of its effect. -/
theorem parent_settled_once {earlier : List RecoveryEvent} {start : Race parent}
    {binding : ChildExecutionBinding} (hearlier : RecoveryRun host earlier start.shared)
    (hbinding : start.shared.session_child_bindings.row parent.key = some binding)
    (hidentity : binding.identity = parent.binding.identity)
    (hunsettled : ∀ projection_epoch transition_id row,
      ¬ parent.ReceiptOf start.shared projection_epoch transition_id row)
    (hidle : Idle start) (hrun : Run (RaceStep host parent) start events race) :
    SettledByOne parent events race := by
  have hbound := children_bound hearlier
  have honce : parent.SettledOnce start.shared :=
    ⟨hbound.unique, ⟨binding, hbinding, hidentity⟩, hbound.slots parent.key binding hbinding,
      fun _ _ _ hreceipt => absurd hreceipt (hunsettled _ _ _),
      fun _ _ _ _ _ _ hreceipt _ => absurd hreceipt (hunsettled _ _ _)⟩
  have hstart : RaceInvariant parent [] start := by
    refine
      { once := honce, follows := hidle.follows, told := hidle.remembers,
        pairwise := List.Pairwise.nil, recorded := forall_mem_nil _, accesses := ?_,
        committed := ?_ }
    · intro pid attempt history query answer before after hmem
      cases hmem
    · intro pid pid' caller caller' hcaller
      rw [hidle pid] at hcaller
      cases hcaller
  have hrace : RaceInvariant parent events race :=
    hrun.history hstart (fun _ _ _ _ _ hbefore hstep => hbefore.step hstep)
  exact hrace.settled_by_one

end ParentEffect

/-! ## A race, run

The subagent of the run that was recovered twice: its effect is settled under the second lease
while the settlement of the run itself has read the binding and not committed yet. -/

/-- A storage layer that answers everything at the reading `now`. -/
def race_respond (host : Host) (now : Datetime) (db : Tables) :
    (query : Query) → Answer query × Tables
  | .clock => (now, db)
  | .permit_token => ("", db)
  | .observe => ({ generation := 0 }, db)
  | .generate _ _ => (.error (storage_error "unavailable"), db)
  | .execute_backend _ _ => (.cancelled, db)
  | .cancellation => (false, db)
  | .commit authority unit =>
    let result := transaction db
      (perform host db now (.commit_authoritative_uow authority unit none false))
    (commit_answer result.2, result.1)
  | .store call =>
    let result := transaction db (perform host db now call)
    (result.2, result.1)
  | .load_operation_state session_id run_id =>
    (.ok (db.session_operation_states.row (session_id, run_id)), db)
  | .load_effect_slot session_id effect_id => (.ok (stored_effect_slot db session_id effect_id), db)
  | .load_executor_attempt key => (.ok (db.session_executor_attempts.row key), db)
  | .load_child_binding_of_effect session_id parent_effect_id =>
    (.ok (db.session_child_bindings.row (session_id, parent_effect_id)), db)
  | .load_child_binding_of_run session_id child_run_id =>
    (.ok (child_binding_of_run db session_id child_run_id), db)
  | .load_effect_reconciliation_evidence session_id evidence_ref =>
    (.ok (db.session_effect_reconciliation_evidence.row (session_id, evidence_ref)), db)

theorem race_respond_access (host : Host) (now : Datetime) (db : Tables) (query : Query) :
    ParentEffect.StoreAccess host db query (race_respond host now db query).1
      (race_respond host now db query).2 := by
  cases query with
  | commit authority unit => exact ⟨_, .committed rfl⟩
  | store call => exact ⟨_, .performed rfl⟩
  | clock => exact ⟨_, .outside rfl⟩
  | permit_token => exact ⟨_, .outside rfl⟩
  | observe => exact ⟨_, .outside rfl⟩
  | generate request snapshot => exact ⟨_, .outside rfl⟩
  | execute_backend permit invocation => exact ⟨_, .outside rfl⟩
  | cancellation => exact ⟨_, .outside rfl⟩
  | _ => exact ⟨_, .read rfl⟩

def sample_parent_state : OperationStateVersion where
  run_id := "r"
  revision := 2
  projection_epoch := 0
  commit_ref := { transition_id := "t1:dispatch:e:a" }
  value :=
    [("_agentkit_runtime", .obj
      [("active_effect_authorization", .obj
        [("authorization_transition_id", .str "t1:dispatch:e:a"),
         ("effect_id", .str "e"),
         ("attempt_id", .str "a")]),
       ("pending_effect_plans", .arr [effect_plan_value sample_subagent_plan])])]

def sample_child_settlement : EffectSettlement where
  input_id := "t1:dispatch:e:a:settlement:a"
  tool_call_id := "call"
  tool_name := "subagent"
  effect_id := "e"
  attempt_id := "a"
  authorization_transition_id := "t1:dispatch:e:a"
  owner_epoch := 3
  outcome := .COMPLETED
  result := .str "done"

def sample_settlement_request : CommitSettlementRequest where
  session_id := "s"
  owner_id := "worker"
  owner_epoch := 3
  engine_request :=
    { state_version := sample_parent_state, step_input := .EffectSettled sample_child_settlement }
  proposal :=
    { transition_id := "proposed", state_value := [], next_action := .SafeYieldAction "settled" }
  settlement := .effect sample_child_settlement
  effect_mutation :=
    { effect_id := "e"
      attempt_id := "a"
      status := .COMPLETED
      expected_status := some .DISPATCHED
      payload := [("result", .str "done")] }

def sample_parent : ParentEffect where
  session_id := "s"
  binding := child_execution_binding "s" "r" "t1" sample_subagent_plan
  proposed := (· = "proposed")

def sample_live_attempt : sample_parent.Attempt where
  session_state := [("id", .str "s")]
  request := sample_settlement_request
  guard := none
  valid := by decide
  session := rfl
  effect := rfl
  proposed := rfl
  child := by
    intro guard hguard
    cases hguard

def sample_recovery_attempt : sample_parent.Attempt where
  session_state := [("id", .str "s")]
  request := sample_settlement_request
  guard := some
    { lease_id := "second"
      child_run_id := "s:r:child:e:a"
      resume_generation := 2
      expected_recovery_cut := 0
      kind := .PARENT_SETTLEMENT }
  valid := by decide
  session := rfl
  effect := rfl
  proposed := rfl
  child := by
    rintro guard ⟨⟩
    decide

def sample_race_start : ParentEffect.Race sample_parent where
  shared := play_recovery sample_host Tables.empty sample_recovery
  callers := fun _ => none

def sample_race_script : List (Input sample_parent.Attempt Datetime) :=
  [.start 0 sample_live_attempt, .start 1 sample_recovery_attempt, .access 0 8, .access 1 9,
   .access 1 10, .access 0 11]

def sample_race : List (CrewEvent sample_parent.Attempt Tables Query Answer)
    × ParentEffect.Race sample_parent :=
  Crew.play ParentEffect.Attempt.body (race_respond sample_host) sample_race_start
    sample_race_script

/-- What an attempt has returned, when it is over. -/
def returned (race : ParentEffect.Race sample_parent) (pid : Nat) : Option (Bool × String) :=
  match race.callers pid with
  | some ⟨_, .done (.Committed _ _ receipt), _⟩ => some (true, receipt.transition_id)
  | some ⟨_, .done (.ExactReplay _ receipt), _⟩ => some (false, receipt.transition_id)
  | _ => none

theorem sample_settles_head {transition_id : String} (h : sample_parent.Settles transition_id) :
    transition_id.toList.head? ≠ some 't' := by
  cases h with
  | live => decide
  | proposal hproposed =>
    cases hproposed
    decide
  | recovery guard =>
    unfold recovery_parent_settlement_transition_id
    simp only [String.toList_append, append_assoc]
    rw [List.head?_append_of_ne_nil _ (by decide)]
    decide
  | guarded hproposed guard =>
    cases hproposed
    unfold guarded_transition_id
    simp only [String.toList_append, append_assoc]
    rw [List.head?_append_of_ne_nil _ (by decide)]
    decide

/-- The recovery commits, and the run's own settlement replays its receipt. -/
theorem sample_settled_once : ParentEffect.SettledByOne sample_parent sample_race.1 sample_race.2
      ∧ returned sample_race.2 1
        = some (true, "r:transition:EffectSettled:t1:dispatch:e:a:settlement:a:recovery:second:2:0")
      ∧ returned sample_race.2 0
        = some (false, "r:transition:EffectSettled:t1:dispatch:e:a:settlement:a:recovery:second:2:0")
      := by
  have hbinding : (sample_race_start.shared.session_child_bindings.row sample_parent.key).map
      (·.identity) = some sample_parent.binding.identity := by decide +kernel
  obtain ⟨binding, hrow, hidentity⟩ := Option.map_eq_some_iff.mp hbinding
  have hkeys : ∀ key ∈ sample_race_start.shared.session_transition_receipts.keys,
      key.2.2.toList.head? = some 't' := by decide +kernel
  refine ⟨ParentEffect.parent_settled_once
    (play_recovery_run sample_host Tables.empty sample_recovery) hrow hidentity ?_ (fun _ => rfl)
    (play_answers (race_respond_access sample_host) sample_race_start sample_race_script),
    by decide +kernel, by decide +kernel⟩
  intro projection_epoch transition_id row hreceipt
  exact sample_settles_head hreceipt.settles (hkeys _ (mem_keys_of_row hreceipt.stored))

end CodingAgentLoop
