/-
The unit a transaction commits, and the fingerprint that recognises it again
(`coding_agent/stores/rtstore/harness.py`).

`AuthoritativeUnitOfWork.post_init` is the source's `__post_init__`, one `check_`
definition for each group of its checks. Three of them carry the ledger's
safety: effect ids are distinct within a unit, a dispatch rides alone and names
the mailbox cut it was computed at, and a closeout guard rides alone with the
`DISPATCHED -> UNKNOWN` mutation of the attempt it closes.
-/
import CodingAgentLoop.Harness

namespace CodingAgentLoop

open Lib List Result

structure AuthoritativeUnitOfWork where
  event : Option EventRecord := none
  session_state : JsonObject := []
  mailbox : Option MailboxDispositionSlot := none
  effect : Option EffectLedgerSlot := none
  receipt : Option OperationReceiptSlot := none
  run_state : Option AgentRunRecord := none
  require_settled_parent_run_id : Option String := none
  require_unsettled_root_run_id : Option String := none
  transition_id : Option String := none
  adopt_transition_ids : List String := []
  state_cas : Option OperationStateCAS := none
  state_value : Option JsonObject := none
  facts : List EventRecord := []
  dispositions : List CommandDisposition := []
  effect_mutation : Option EffectMutation := none
  effect_mutations : List EffectMutation := []
  effect_plans : List EffectPlan := []
  expected_mailbox_cut : Option Nat := none
  expected_reconciliation_authorization_transition_id : Option String := none
  reconciliation_evidence_ref : Option String := none
  child_bindings : List ChildExecutionBinding := []
  recovery_guard : Option RecoveryTransitionGuard := none
  terminal_action : Bool := false
  unstarted_dispatch_closeout : Option UnstartedDispatchCloseoutGuard := none

namespace AuthoritativeUnitOfWork

def normalized_effect_mutations (unit : AuthoritativeUnitOfWork) : List EffectMutation :=
  match unit.effect_mutation with
  | some mutation => [mutation]
  | none => unit.effect_mutations

def is_transition (unit : AuthoritativeUnitOfWork) : Bool := unit.transition_id.isSome

/-! ## `__post_init__` -/

def check_instance {α : Type} (post_init : α → Except StoreError Unit) :
    Option α → Except StoreError Unit
  | none => .ok ()
  | some value => post_init value

section

variable (unit : AuthoritativeUnitOfWork)

/-- The legacy fields: the event, the slots and the run a legacy unit writes. -/
def check_legacy_fields : Except StoreError Unit := do
  check_instance EventRecord.post_init unit.event
  check_instance MailboxDispositionSlot.post_init unit.mailbox
  check_instance EffectLedgerSlot.post_init unit.effect
  check_instance OperationReceiptSlot.post_init unit.receipt
  check_instance AgentRunRecord.post_init unit.run_state
  require_non_empty_if_set "require_settled_parent_run_id" unit.require_settled_parent_run_id
  match unit.require_unsettled_root_run_id with
  | none => .ok ()
  | some root_run_id => do
      require_non_empty "require_unsettled_root_run_id" root_run_id
      raise_if (∃ run ∈ unit.run_state, run.run_id ≠ root_run_id) .ValueError
        "root settlement run_state does not match required run"

def check_adopt_transition_ids : Except StoreError Unit := do
  raise_if ("" ∈ unit.adopt_transition_ids) .ValueError
    "adopt_transition_ids must be non-empty strings"
  raise_if (¬ unit.adopt_transition_ids.Nodup) .ValueError "adopt_transition_ids must be unique"
  raise_if (∃ transition_id ∈ unit.transition_id, transition_id ∈ unit.adopt_transition_ids)
    .ValueError "adopt_transition_ids cannot contain the current transition"

def check_facts_and_dispositions : Except StoreError Unit := do
  check_each unit.facts EventRecord.post_init
  check_each unit.dispositions CommandDisposition.post_init
  raise_if (¬ (unit.dispositions.map (·.command_id)).Nodup) .ValueError
    "a transition may disposition each command at most once"

def check_effect_mutations : Except StoreError Unit := do
  check_instance EffectMutation.post_init unit.effect_mutation
  check_each unit.effect_mutations EffectMutation.post_init
  raise_if (unit.effect_mutation ≠ none ∧ unit.effect_mutations ≠ []) .ValueError
    "singular and plural effect mutation inputs are mutually exclusive"
  raise_if (¬ (unit.normalized_effect_mutations.map (·.effect_id)).Nodup) .ValueError
    "effect_mutations contain duplicate effect_id values"

def prepared_mutations : List EffectMutation :=
  unit.normalized_effect_mutations.filter (fun mutation => mutation.expected_status = none)

def check_effect_plans : Except StoreError Unit := do
  check_each unit.effect_plans EffectPlan.post_init
  raise_if (¬ (unit.effect_plans.map (·.effect_id)).Nodup) .ValueError
    "effect_plans contain duplicate effect_id values"
  raise_if (unit.effect_plans ≠ []
      ∧ unit.effect_plans.map (·.effect_id) ≠ unit.prepared_mutations.map (·.effect_id))
    .ValueError "effect_plans must match ordered prepared effect mutations"

def check_child_bindings : Except StoreError Unit := do
  check_each unit.child_bindings ChildExecutionBinding.post_init
  raise_if (¬ (unit.child_bindings.map (·.parent_effect_id)).Nodup) .ValueError
    "child_bindings contain duplicate parent effect IDs"
  raise_if (¬ (unit.child_bindings.map (·.child_run_id)).Nodup) .ValueError
    "child_bindings contain duplicate child run IDs"
  raise_if (∃ binding ∈ unit.child_bindings,
      (binding.parent_effect_id, binding.parent_attempt_id)
        ∉ unit.prepared_mutations.map (fun mutation => (mutation.effect_id, mutation.attempt_id)))
    .ValueError "child binding must match a prepared effect mutation"

def check_recovery_guard : Except StoreError Unit := do
  check_instance RecoveryTransitionGuard.post_init unit.recovery_guard
  raise_if (unit.recovery_guard ≠ none ∧ unit.expected_mailbox_cut ≠ none) .ValueError
    "recovery_guard and dispatch mailbox cut are mutually exclusive"

/-- The `DISPATCHED -> UNKNOWN` mutations that a closeout guard is about. -/
def closeout_mutations (closeout : UnstartedDispatchCloseoutGuard) : List EffectMutation :=
  unit.normalized_effect_mutations.filter (fun mutation =>
    mutation.effect_id = closeout.effect_id
      ∧ mutation.attempt_id = closeout.attempt_id
      ∧ mutation.expected_status = some .DISPATCHED
      ∧ mutation.status = .UNKNOWN
      ∧ mutation.payload.get "authorization_transition_id"
          = .str closeout.authorization_transition_id)

def check_unstarted_dispatch_closeout : Except StoreError Unit :=
  match unit.unstarted_dispatch_closeout with
  | none => .ok ()
  | some closeout => do
      closeout.post_init
      raise_if (unit.normalized_effect_mutations.length ≠ 1
          ∨ (unit.closeout_mutations closeout).length ≠ 1) .ValueError
        "unstarted dispatch closeout requires its single DISPATCHED -> UNKNOWN mutation"

/-- The `PREPARED -> DISPATCHED` mutations of the unit. -/
def dispatch_mutations : List EffectMutation :=
  unit.normalized_effect_mutations.filter EffectMutation.is_dispatch

def check_dispatch_authorization : Except StoreError Unit := do
  raise_if (unit.dispatch_mutations ≠ [] ∧ unit.normalized_effect_mutations.length ≠ 1)
    .InvalidDispatchAuthorizationError
    "dispatch authorization requires exactly one effect mutation"
  raise_if (unit.dispatch_mutations.length = 1 ∧ unit.expected_mailbox_cut = none)
    .InvalidDispatchAuthorizationError
    "expected_mailbox_cut is required for PREPARED -> DISPATCHED"
  raise_if (unit.dispatch_mutations.length ≠ 1 ∧ unit.expected_mailbox_cut ≠ none)
    .InvalidDispatchAuthorizationError
    "expected_mailbox_cut is forbidden outside PREPARED -> DISPATCHED"
  raise_if (∃ cut ∈ unit.expected_mailbox_cut, MAX_U64 < cut)
    .InvalidDispatchAuthorizationError "expected_mailbox_cut must be a decimal u64 string"

/-- The `UNKNOWN` settlements that carry a reconciliation record. -/
def reconciliation_mutations : List EffectMutation :=
  unit.normalized_effect_mutations.filter (fun mutation =>
    mutation.expected_status = some .UNKNOWN
      ∧ (mutation.status = .COMPLETED ∨ mutation.status = .FAILED)
      ∧ mutation.reconciliation ≠ none)

def check_reconciliation : Except StoreError Unit := do
  raise_if (1 < unit.reconciliation_mutations.length) .InvalidReconciliationPreconditionError
    "a transition may reconcile at most one effect"
  raise_if (unit.reconciliation_mutations ≠ []
      ∧ (unit.expected_reconciliation_authorization_transition_id = none
        ∨ unit.reconciliation_evidence_ref = none)) .InvalidReconciliationPreconditionError
    "reconciliation requires retained authorization and durable evidence"
  raise_if (unit.reconciliation_mutations = []
      ∧ (unit.expected_reconciliation_authorization_transition_id ≠ none
        ∨ unit.reconciliation_evidence_ref ≠ none)) .InvalidReconciliationPreconditionError
    "reconciliation preconditions are forbidden outside UNKNOWN settlement"
  require_non_empty_if_set "expected_reconciliation_authorization_transition_id"
    unit.expected_reconciliation_authorization_transition_id
  require_non_empty_if_set "reconciliation_evidence_ref" unit.reconciliation_evidence_ref
  raise_if (∃ evidence_ref ∈ unit.reconciliation_evidence_ref,
      ∃ mutation ∈ unit.reconciliation_mutations.head?,
        ∃ record ∈ mutation.reconciliation, record.evidence_ref ≠ evidence_ref)
    .InvalidReconciliationPreconditionError
    "reconciliation evidence_ref must match the mutation record"

end

/-- `isinstance(self.state_cas, OperationStateCAS)`. -/
def check_state_cas : Option OperationStateCAS → Except StoreError Unit
  | none => raise .TypeError "transition state_cas must be an OperationStateCAS"
  | some state_cas => state_cas.post_init

section

variable (unit : AuthoritativeUnitOfWork)

/-- The typed and the legacy half of a unit exclude each other. -/
def check_transition_fields : Except StoreError Unit :=
  match unit.transition_id with
  | none => do
      raise_if (unit.event = none) .ValueError "legacy unit of work requires an event"
      raise_if (unit.state_cas ≠ none ∨ unit.state_value ≠ none ∨ unit.facts ≠ []
          ∨ unit.dispositions ≠ [] ∨ unit.normalized_effect_mutations ≠ []
          ∨ unit.effect_plans ≠ [] ∨ unit.child_bindings ≠ [] ∨ unit.recovery_guard ≠ none
          ∨ unit.terminal_action ∨ unit.unstarted_dispatch_closeout ≠ none) .ValueError
        "transition fields require transition_id, state_cas, and state_value"
  | some transition_id => do
      require_non_empty "transition_id" transition_id
      check_state_cas unit.state_cas
      raise_if (unit.state_value = none) .TypeError "transition state_value must be a mapping"
      raise_if (unit.event ≠ none) .ValueError "transition facts must use facts, not legacy event"
      raise_if (unit.mailbox ≠ none ∨ unit.effect ≠ none ∨ unit.receipt ≠ none
          ∨ unit.run_state ≠ none ∨ unit.require_settled_parent_run_id ≠ none
          ∨ unit.require_unsettled_root_run_id ≠ none) .ValueError
        "typed transitions cannot mix legacy unit-of-work mutations"
      check_each unit.normalized_effect_mutations (fun mutation =>
        raise_if (∃ record ∈ mutation.reconciliation, record.transition_id ≠ transition_id)
          .ValueError "reconciliation transition_id must match the unit of work")

/-- Sequence numbers and epochs are the store's to allocate. -/
def check_unallocated : Except StoreError Unit :=
  check_each (unit.event.toList ++ unit.facts) (fun event => do
    raise_if (event.session_seq ≠ none) .ValueError "event.session_seq is allocated by the store"
    raise_if (event.projection_epoch ≠ none) .ValueError
      "event.projection_epoch is allocated by the store")

def post_init : Except StoreError Unit := do
  unit.check_legacy_fields
  unit.check_adopt_transition_ids
  unit.check_facts_and_dispositions
  unit.check_effect_mutations
  unit.check_effect_plans
  unit.check_child_bindings
  unit.check_recovery_guard
  unit.check_unstarted_dispatch_closeout
  unit.check_dispatch_authorization
  unit.check_reconciliation
  unit.check_transition_fields
  unit.check_unallocated

end

/-! ## What a constructed unit guarantees -/

section Guarantees

variable {unit : AuthoritativeUnitOfWork} (h : unit.post_init = .ok ())

include h

theorem checks_of_post_init : unit.check_effect_mutations = .ok ()
      ∧ unit.check_unstarted_dispatch_closeout = .ok ()
      ∧ unit.check_dispatch_authorization = .ok ()
      ∧ unit.check_transition_fields = .ok ()
      ∧ unit.check_child_bindings = .ok () := by
  simp only [post_init, check_bind_eq_ok] at h
  obtain ⟨-, -, -, hmutations, -, hbindings, -, hcloseout, hdispatch, -, htransition, -⟩ := h
  exact ⟨hmutations, hcloseout, hdispatch, htransition, hbindings⟩

variable {mutation : EffectMutation}

theorem mutation_post_init (hmem : mutation ∈ unit.normalized_effect_mutations) :
    mutation.post_init = .ok () := by
  have hmutations := (checks_of_post_init h).1
  simp only [check_effect_mutations, check_bind_eq_ok, check_each_eq_ok]
    at hmutations
  obtain ⟨hsingular, hplural, -, -⟩ := hmutations
  unfold normalized_effect_mutations at hmem
  cases heq : unit.effect_mutation with
  | none =>
    rw [heq] at hmem
    exact hplural mutation hmem
  | some only =>
    rw [heq] at hmem hsingular
    rw [mem_singleton] at hmem
    subst hmem
    exact hsingular

theorem effect_ids_nodup : (unit.normalized_effect_mutations.map (·.effect_id)).Nodup := by
  have hmutations := (checks_of_post_init h).1
  simp only [check_effect_mutations, check_bind_eq_ok, raise_if_eq_ok, not_not]
    at hmutations
  exact hmutations.2.2.2

/-- **A dispatch rides alone** and names the cut it was computed at. -/
theorem dispatch_alone (hmem : mutation ∈ unit.normalized_effect_mutations)
    (hdispatch : mutation.is_dispatch) :
    unit.normalized_effect_mutations = [mutation] ∧ unit.expected_mailbox_cut ≠ none := by
  have hchecks := (checks_of_post_init h).2.2.1
  simp only [check_dispatch_authorization, check_bind_eq_ok, raise_if_eq_ok] at hchecks
  obtain ⟨hsingle, hcut, -, -⟩ := hchecks
  have hin : mutation ∈ unit.dispatch_mutations := mem_filter.mpr ⟨hmem, hdispatch⟩
  have hlength : unit.normalized_effect_mutations.length = 1 := by
    by_contra hne
    exact hsingle ⟨ne_nil_of_mem hin, hne⟩
  obtain ⟨only, honly⟩ := length_eq_one_iff.mp hlength
  rw [honly, mem_singleton] at hmem
  subst hmem
  refine ⟨honly, fun hnone => hcut ⟨?_, hnone⟩⟩
  rw [dispatch_mutations, honly, filter_cons_of_pos hdispatch]
  rfl

/-- **A closeout rides alone** with the mutation of the attempt it closes. -/
theorem closeout_alone {closeout : UnstartedDispatchCloseoutGuard}
    (hcloseout : unit.unstarted_dispatch_closeout = some closeout) :
    ∃ mutation, unit.normalized_effect_mutations = [mutation]
      ∧ mutation.effect_id = closeout.effect_id
      ∧ mutation.attempt_id = closeout.attempt_id
      ∧ mutation.expected_status = some .DISPATCHED
      ∧ mutation.status = .UNKNOWN
      ∧ mutation.payload.get "authorization_transition_id"
          = .str closeout.authorization_transition_id := by
  have hchecks := (checks_of_post_init h).2.1
  simp only [check_unstarted_dispatch_closeout, hcloseout, check_bind_eq_ok,
    raise_if_eq_ok, not_or, not_not] at hchecks
  obtain ⟨-, hlength, hmatch⟩ := hchecks
  obtain ⟨mutation, honly⟩ := length_eq_one_iff.mp hlength
  obtain ⟨found, hfound⟩ := length_eq_one_iff.mp hmatch
  have hin : found ∈ unit.closeout_mutations closeout := by
    rw [hfound]
    exact mem_singleton_self found
  rw [closeout_mutations, mem_filter, honly, mem_singleton] at hin
  obtain ⟨rfl, hshape⟩ := hin
  exact ⟨found, honly, by simpa using hshape⟩

/-- **A reconciliation names its evidence.** -/
theorem reconciliation_evidenced (hmem : mutation ∈ unit.normalized_effect_mutations)
    (hunknown : mutation.expected_status = some .UNKNOWN) :
    unit.reconciliation_evidence_ref ≠ none := by
  have hmutation := mutation_post_init h hmem
  have hlegal := EffectMutation.legal_of_post_init hmutation
  simp only [EffectMutation.post_init, EffectMutation.check_reconciliation,
    check_bind_eq_ok, hunknown, if_pos] at hmutation hlegal
  obtain ⟨-, -, -, hrecord⟩ := hmutation
  simp only [post_init, check_bind_eq_ok, check_reconciliation, raise_if_eq_ok] at h
  obtain ⟨-, -, -, -, -, -, -, -, -, ⟨-, hevidence, -⟩, -⟩ := h
  intro hnone
  refine hevidence ⟨ne_nil_of_mem (mem_filter.mpr ⟨hmem, ?_⟩), Or.inr hnone⟩
  rw [decide_eq_true_eq]
  refine ⟨hunknown, ?_, fun hmissing => ?_⟩
  · cases hstatus : mutation.status <;> rw [hstatus] at hlegal <;> revert hlegal <;> decide
  · rw [hmissing] at hrecord
    cases hrecord

/-- **A child is bound to an effect of its unit.** -/
theorem binding_prepared {binding : ChildExecutionBinding} (hmem : binding ∈ unit.child_bindings) :
    ∃ mutation ∈ unit.normalized_effect_mutations,
      mutation.effect_id = binding.parent_effect_id := by
  have hbindings := (checks_of_post_init h).2.2.2.2
  simp only [check_child_bindings, check_bind_eq_ok, raise_if_eq_ok, not_exists, not_and,
    not_not] at hbindings
  obtain ⟨mutation, hmutation, heq⟩ := mem_map.mp (hbindings.2.2.2 binding hmem)
  exact ⟨mutation, (mem_filter.mp hmutation).1, (Prod.mk.inj heq).1⟩

theorem transition_complete {transition_id : String}
    (htransition : unit.transition_id = some transition_id) :
    transition_id ≠ "" ∧ (∃ state_cas, unit.state_cas = some state_cas ∧ state_cas.run_id ≠ "")
      ∧ (∃ state_value, unit.state_value = some state_value) ∧ unit.event = none := by
  have hchecks := (checks_of_post_init h).2.2.2.1
  simp only [check_transition_fields, htransition, check_bind_eq_ok, raise_if_eq_ok,
    require_non_empty_eq_ok, not_not] at hchecks
  obtain ⟨hid, hcas, hvalue, hevent, -, -⟩ := hchecks
  refine ⟨hid, ?_, Option.ne_none_iff_exists'.mp hvalue, hevent⟩
  cases heq : unit.state_cas with
  | none => simp [heq, check_state_cas] at hcas
  | some state_cas =>
    rw [heq] at hcas
    exact ⟨state_cas, rfl, by simpa [check_state_cas, OperationStateCAS.post_init] using hcas⟩

theorem legacy_unguarded (hlegacy : unit.transition_id = none) : unit.recovery_guard = none := by
  have hfields := (checks_of_post_init h).2.2.2.1
  simp only [check_transition_fields, hlegacy, check_bind_eq_ok, raise_if_eq_ok, not_or,
    not_not] at hfields
  exact hfields.2.2.2.2.2.2.2.2.1

theorem legacy_mutations (hlegacy : unit.transition_id = none) :
    unit.normalized_effect_mutations = [] := by
  have hfields := (checks_of_post_init h).2.2.2.1
  simp only [check_transition_fields, hlegacy, check_bind_eq_ok, raise_if_eq_ok, not_or,
    not_not] at hfields
  exact hfields.2.2.2.2.2.1

theorem legacy_mailbox_cut (hlegacy : unit.transition_id = none) :
    unit.expected_mailbox_cut = none := by
  have hmutations := legacy_mutations h hlegacy
  have hchecks := (checks_of_post_init h).2.2.1
  simp only [check_dispatch_authorization, check_bind_eq_ok, raise_if_eq_ok] at hchecks
  by_contra hcut
  refine hchecks.2.2.1 ⟨?_, hcut⟩
  rw [dispatch_mutations, hmutations]
  decide

end Guarantees

end AuthoritativeUnitOfWork

/-- A unit of work that its constructor accepted: the only kind a store is handed. -/
def UnitOfWork := {unit : AuthoritativeUnitOfWork // unit.post_init = .ok ()}

/-- `AuthoritativeUnitOfWork(...)`: the unit, when its constructor accepts it. -/
def UnitOfWork.make (unit : AuthoritativeUnitOfWork) : Except StoreError UnitOfWork :=
  match h : unit.post_init with
  | .ok _ => .ok ⟨unit, h⟩
  | .error error => .error error

theorem UnitOfWork.make_eq_ok {unit : AuthoritativeUnitOfWork} {made : UnitOfWork}
    (h : UnitOfWork.make unit = .ok made) : made.val = unit := by
  unfold UnitOfWork.make at h
  split at h
  · cases h
    rfl
  · cases h

/-- `snapshot_transition_unit(unit)`: copies the JSON values out of the caller's hands
and puts a singular effect mutation into the plural field. -/
def snapshot_transition_unit (unit : AuthoritativeUnitOfWork) : AuthoritativeUnitOfWork :=
  if unit.is_transition then
    { event := none
      session_state := unit.session_state
      transition_id := unit.transition_id
      state_cas := unit.state_cas
      adopt_transition_ids := unit.adopt_transition_ids
      state_value := unit.state_value
      facts := unit.facts
      dispositions := unit.dispositions
      effect_mutations := unit.normalized_effect_mutations
      effect_plans := unit.effect_plans
      expected_mailbox_cut := unit.expected_mailbox_cut
      expected_reconciliation_authorization_transition_id :=
        unit.expected_reconciliation_authorization_transition_id
      reconciliation_evidence_ref := unit.reconciliation_evidence_ref
      child_bindings := unit.child_bindings
      recovery_guard := unit.recovery_guard
      terminal_action := unit.terminal_action
      unstarted_dispatch_closeout := unit.unstarted_dispatch_closeout }
  else unit

/-! ## The fingerprint

`transition_mutation_fingerprint` hashes the canonical JSON text of everything a
typed unit writes. The hash and the rendering of instants come from the standard
library, so they are parameters: the model says which tree is hashed. -/

/-- The host's `hashlib.sha256(json.dumps(tree, sort_keys=True))` and
`datetime.isoformat()`. -/
structure Host where
  sha256 : Json → String
  isoformat : Datetime → String

def json_or_null {α : Type} (encode : α → Json) : Option α → Json
  | none => .null
  | some value => encode value

/-- `format_u64(value)` inside a payload. -/
def json_u64 (value : Nat) : Json := .str (toString value)

def mailbox_slot_from_disposition (disposition : CommandDisposition) : MailboxDispositionSlot where
  slot_id := disposition.command_id
  lane := "runtime"
  disposition := disposition.kind
  payload :=
    match disposition with
    | .applied _ => []
    | .rejected _ reason_code => [("reason_code", .str reason_code)]
    | .superseded _ superseded_by_command_id =>
      [("superseded_by_command_id", .str superseded_by_command_id)]

def reconciliation_payload (record : ReconciliationRecord) : Json :=
  .obj
    [("effect_id", .str record.effect_id),
     ("attempt_id", .str record.attempt_id),
     ("observed_outcome", .str record.observed_outcome.value),
     ("evidence_ref", .str record.evidence_ref),
     ("actor_id", .str record.actor_id),
     ("owner_epoch", .int record.owner_epoch),
     ("transition_id", .str record.transition_id)]

def effect_slot_from_mutation (mutation : EffectMutation) : EffectLedgerSlot where
  effect_id := mutation.effect_id
  status := mutation.status.value
  payload :=
    let payload : JsonObject := mutation.payload.set "attempt_id" (.str mutation.attempt_id)
    match mutation.reconciliation with
    | none => payload
    | some record => payload.set "reconciliation" (reconciliation_payload record)

def effect_plan_payload (plan : EffectPlan) : Json :=
  .obj
    [("effect_id", .str plan.effect_id),
     ("attempt_id", .str plan.attempt_id),
     ("effect_kind", .str plan.effect_kind),
     ("payload", .obj plan.payload),
     ("idempotency_key", Json.of_str? plan.idempotency_key),
     ("requires_approval", .bool plan.requires_approval),
     ("approval_request_id", Json.of_str? plan.approval_request_id)]

def recovery_mailbox_entry_payload (entry : CommandMailboxEntry) : Json :=
  .obj
    [("command_id", .str entry.command.command_id),
     ("command_kind", .str entry.command.command_kind),
     ("command_payload", .obj entry.command.payload),
     ("admitted_session_seq", json_u64 entry.admitted_session_seq),
     ("admitted_dispatch_generation", json_u64 entry.admitted_dispatch_generation),
     ("disposition", .str entry.disposition)]

def recovered_child_lease_payload (lease : RecoveredChildExecutionLease) : Json :=
  .obj
    [("session_id", .str lease.session_id),
     ("child_run_id", .str lease.child_run_id),
     ("lease_id", .str lease.lease_id),
     ("resume_generation", .int lease.resume_generation),
     ("resume_cut", json_u64 lease.resume_cut),
     ("owner_epoch", .int lease.owner_epoch),
     ("prior_session_seq", json_u64 lease.prior_session_seq),
     ("resume_session_seq", json_u64 lease.resume_session_seq),
     ("mailbox_snapshot", .arr (lease.mailbox_snapshot.map recovery_mailbox_entry_payload))]

def child_execution_binding_payload (binding : ChildExecutionBinding) : Json :=
  .obj
    [("session_id", .str binding.session_id),
     ("parent_run_id", .str binding.parent_run_id),
     ("parent_effect_id", .str binding.parent_effect_id),
     ("parent_attempt_id", .str binding.parent_attempt_id),
     ("child_run_id", .str binding.child_run_id),
     ("authorization_transition_id", .str binding.authorization_transition_id),
     ("live_parent_settlement_transition_id",
       .str binding.live_parent_settlement_transition_id),
     ("active_lease", json_or_null recovered_child_lease_payload binding.active_lease)]

def recovery_transition_guard_payload (guard : RecoveryTransitionGuard) : Json :=
  .obj
    [("lease_id", .str guard.lease_id),
     ("child_run_id", .str guard.child_run_id),
     ("resume_generation", .int guard.resume_generation),
     ("expected_recovery_cut", json_u64 guard.expected_recovery_cut),
     ("kind", .str guard.kind.value)]

def unstarted_dispatch_closeout_guard_payload (host : Host)
    (guard : UnstartedDispatchCloseoutGuard) : Json :=
  .obj
    [("effect_id", .str guard.effect_id),
     ("attempt_id", .str guard.attempt_id),
     ("authorization_transition_id", .str guard.authorization_transition_id),
     ("executor_id", .str guard.executor_id),
     ("evidence_ref", .str guard.evidence_ref),
     ("closed_at", .str (host.isoformat guard.closed_at))]

def disposition_fingerprint_value (disposition : CommandDisposition) : Json :=
  .obj
    [("command_id", .str disposition.command_id),
     ("kind", .str disposition.kind),
     ("payload", .obj (mailbox_slot_from_disposition disposition).payload)]

def effect_fingerprint_value (mutation : EffectMutation) : Json :=
  .obj
    [("effect_id", .str mutation.effect_id),
     ("attempt_id", .str mutation.attempt_id),
     ("expected_status",
       json_or_null (fun status => .str (EffectStatus.value status)) mutation.expected_status),
     ("status", .str mutation.status.value),
     ("payload", .obj mutation.payload),
     ("reconciliation", json_or_null reconciliation_payload mutation.reconciliation)]

def fact_fingerprint_value (host : Host) (fact : EventRecord) : Json :=
  .obj
    [("event_id", .str fact.event_id),
     ("session_id", .str fact.session_id),
     ("event_kind", .str fact.event_kind),
     ("payload", .obj fact.payload),
     ("created_at", .str (host.isoformat fact.created_at))]

/-- The tree `transition_mutation_fingerprint` hashes. -/
def mutation_tree (host : Host) (unit : AuthoritativeUnitOfWork) (state_cas : OperationStateCAS)
    (state_value : JsonObject) : Json :=
  .obj
    [("state", .obj
        [("run_id", .str state_cas.run_id),
         ("revision", .int (state_cas.revision + 1)),
         ("projection_epoch", .int state_cas.projection_epoch),
         ("value", .obj state_value)]),
     ("facts", .arr (unit.facts.map (fact_fingerprint_value host))),
     ("dispositions", .arr (unit.dispositions.map disposition_fingerprint_value)),
     ("effect_mutations", .arr (unit.normalized_effect_mutations.map effect_fingerprint_value)),
     ("effect_plans", .arr (unit.effect_plans.map effect_plan_payload)),
     ("child_bindings", .arr (unit.child_bindings.map child_execution_binding_payload)),
     ("recovery_guard", json_or_null recovery_transition_guard_payload unit.recovery_guard),
     ("terminal_action", .bool unit.terminal_action),
     ("unstarted_dispatch_closeout",
       json_or_null (unstarted_dispatch_closeout_guard_payload host)
         unit.unstarted_dispatch_closeout),
     ("expected_mailbox_cut", json_or_null json_u64 unit.expected_mailbox_cut),
     ("expected_reconciliation_authorization_transition_id",
       Json.of_str? unit.expected_reconciliation_authorization_transition_id),
     ("reconciliation_evidence_ref", Json.of_str? unit.reconciliation_evidence_ref)]

/-- `transition_mutation_fingerprint(unit)` of a typed unit. -/
def transition_mutation_fingerprint (host : Host) (unit : AuthoritativeUnitOfWork)
    (state_cas : OperationStateCAS) (state_value : JsonObject) : String :=
  host.sha256 (mutation_tree host unit state_cas state_value).canonical

end CodingAgentLoop
