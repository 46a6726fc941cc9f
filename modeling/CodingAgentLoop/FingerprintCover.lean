/-
The mutation fingerprint covers every durable write.

Two typed units with the same pre-image -- the canonical JSON of `transition_mutation_fingerprint`
-- agree field by field: each encoder is undone by reading its keys back (`Same.get`), identifiers
exactly and payloads up to the order of their keys. Every row a fresh commit writes is computed
from the store and from those fields, and each step of that computation keeps payloads that have
the same text apart from nothing else: a projection, a merge, an update. So both commits leave rows
with the same text in every table.

What a unit carries beside the fingerprinted fields -- the ids it would adopt, its guard, its
preconditions, the session state -- is only checked, never written.
-/
import CodingAgentLoop.TransitionPayload

namespace CodingAgentLoop

open Lib JsonObject AuthoritativeUnitOfWork Json Table List Result

/-! ## What the pre-image determines -/

section Decoding

theorem str_of_canonical {a b : String} (h : (str a).canonical = (str b).canonical) :
    a = b :=
  str.inj h

theorem nat_of_canonical {a b : Nat}
    (h : (int (a : Int)).canonical = (int (b : Int)).canonical) : a = b :=
  Int.ofNat.inj (int.inj h)

theorem obj_of_canonical {a b : JsonObject}
    (h : (obj a).canonical = (obj b).canonical) : Same a b :=
  same_iff_json.mpr h

theorem of_str?_of_canonical {a b : Option String}
    (h : (Json.of_str? a).canonical = (Json.of_str? b).canonical) : a = b := by
  cases a with
  | none =>
    cases b with
    | none => rfl
    | some y => cases h
  | some x =>
    cases b with
    | none => cases h
    | some y => exact congrArg some (str_of_canonical h)

theorem optional_of_canonical {α : Type} {encode : α → Json} {a b : Option α}
    (hvalue : ∀ x y, (encode x).canonical = (encode y).canonical → x = y)
    (hnull : ∀ x, (encode x).canonical ≠ .null)
    (h : (json_or_null encode a).canonical = (json_or_null encode b).canonical) : a = b := by
  cases a with
  | none =>
    cases b with
    | none => rfl
    | some y => exact absurd h.symm (hnull y)
  | some x =>
    cases b with
    | none => exact absurd h (hnull x)
    | some y => exact congrArg some (hvalue x y h)

theorem u64_of_canonical {a b : Nat} (h : (json_u64 a).canonical = (json_u64 b).canonical) :
    a = b :=
  toString_injective (str_of_canonical h)

end Decoding

def EffectMutation.canonical (mutation : EffectMutation) : EffectMutation :=
  { mutation with payload := JsonObject.canonical mutation.payload }

theorem reconciliation_of_payload {a b : ReconciliationRecord}
    (h : (reconciliation_payload a).canonical = (reconciliation_payload b).canonical) : a = b := by
  have hsame := obj_of_canonical h
  have heffect := str_of_canonical (hsame.get "effect_id")
  have hattempt := str_of_canonical (hsame.get "attempt_id")
  have houtcome := str_of_canonical (hsame.get "observed_outcome")
  have hevidence := str_of_canonical (hsame.get "evidence_ref")
  have hactor := str_of_canonical (hsame.get "actor_id")
  have hepoch := nat_of_canonical (hsame.get "owner_epoch")
  have htransition := str_of_canonical (hsame.get "transition_id")
  have hobserved : a.observed_outcome = b.observed_outcome := by
    have hstatus := EffectStatus.value_injective houtcome
    cases ha : a.observed_outcome <;> cases hb : b.observed_outcome <;> first
      | rfl
      | rw [ha, hb] at hstatus
        cases hstatus
  cases a
  cases b
  simp only at heffect hattempt hobserved hevidence hactor hepoch htransition
  subst heffect hattempt hobserved hevidence hactor hepoch htransition
  rfl

theorem mutation_of_fingerprint {a b : EffectMutation}
    (h : (effect_fingerprint_value a).canonical = (effect_fingerprint_value b).canonical) :
    a.canonical = b.canonical := by
  have hsame := obj_of_canonical h
  have heffect := str_of_canonical (hsame.get "effect_id")
  have hattempt := str_of_canonical (hsame.get "attempt_id")
  have hexpected : a.expected_status = b.expected_status :=
    optional_of_canonical (fun x y hxy => EffectStatus.value_injective (str_of_canonical hxy))
      (fun x hx => by cases hx) (hsame.get "expected_status")
  have hstatus := EffectStatus.value_injective (str_of_canonical (hsame.get "status"))
  have hpayload : Same a.payload b.payload := obj_of_canonical (hsame.get "payload")
  have hrecord : a.reconciliation = b.reconciliation :=
    optional_of_canonical (fun x y => reconciliation_of_payload) (fun x hx => by cases hx)
      (hsame.get "reconciliation")
  cases a
  cases b
  simp only at heffect hattempt hexpected hstatus hrecord hpayload
  subst heffect hattempt hexpected hstatus hrecord
  rw [EffectMutation.canonical, EffectMutation.canonical, EffectMutation.mk.injEq]
  exact ⟨rfl, rfl, rfl, hpayload, rfl, rfl⟩

theorem fact_of_fingerprint (host : PayloadHost) {a b : EventRecord}
    (ha : a.session_seq = none ∧ a.projection_epoch = none)
    (hb : b.session_seq = none ∧ b.projection_epoch = none)
    (h : (fact_fingerprint_value host.toHost a).canonical
      = (fact_fingerprint_value host.toHost b).canonical) : a.canonical = b.canonical := by
  have hsame := obj_of_canonical h
  have hevent := str_of_canonical (hsame.get "event_id")
  have hsession := str_of_canonical (hsame.get "session_id")
  have hkind := str_of_canonical (hsame.get "event_kind")
  have hpayload : Same a.payload b.payload := obj_of_canonical (hsame.get "payload")
  have hcreated := host.isoformat_injective (str_of_canonical (hsame.get "created_at"))
  rw [EventRecord.canonical, EventRecord.canonical, EventRecord.mk.injEq]
  exact ⟨hevent, hsession, hkind, hpayload, hcreated, ha.1.trans hb.1.symm, ha.2.trans hb.2.symm⟩

theorem disposition_of_fingerprint {a b : CommandDisposition}
    (h : (disposition_fingerprint_value a).canonical
      = (disposition_fingerprint_value b).canonical) : a = b := by
  have hsame := obj_of_canonical h
  have hcommand : a.command_id = b.command_id := str_of_canonical (hsame.get "command_id")
  have hkind : a.kind = b.kind := str_of_canonical (hsame.get "kind")
  have hpayload : Same (mailbox_slot_from_disposition a).payload
      (mailbox_slot_from_disposition b).payload := obj_of_canonical (hsame.get "payload")
  cases a with
  | applied command_id =>
    cases b with
    | applied other =>
      cases hcommand
      rfl
    | rejected _ _ => simp [CommandDisposition.kind] at hkind
    | superseded _ _ => simp [CommandDisposition.kind] at hkind
  | rejected command_id reason_code =>
    cases b with
    | applied _ => simp [CommandDisposition.kind] at hkind
    | rejected other other_code =>
      cases hcommand
      have hcode : reason_code = other_code := str_of_canonical (hpayload.get "reason_code")
      rw [hcode]
    | superseded _ _ => simp [CommandDisposition.kind] at hkind
  | superseded command_id superseded_by =>
    cases b with
    | applied _ => simp [CommandDisposition.kind] at hkind
    | rejected _ _ => simp [CommandDisposition.kind] at hkind
    | superseded other other_by =>
      cases hcommand
      have hby : superseded_by = other_by :=
        str_of_canonical (hpayload.get "superseded_by_command_id")
      rw [hby]

theorem plan_of_payload {a b : EffectPlan}
    (h : (effect_plan_payload a).canonical = (effect_plan_payload b).canonical) :
    a.canonical = b.canonical := by
  have hsame := obj_of_canonical h
  have heffect := str_of_canonical (hsame.get "effect_id")
  have hattempt := str_of_canonical (hsame.get "attempt_id")
  have hkind := str_of_canonical (hsame.get "effect_kind")
  have hpayload : Same a.payload b.payload := obj_of_canonical (hsame.get "payload")
  have hkey : a.idempotency_key = b.idempotency_key :=
    of_str?_of_canonical (hsame.get "idempotency_key")
  have happroval : a.requires_approval = b.requires_approval :=
    Json.bool.inj (hsame.get "requires_approval")
  have hrequest : a.approval_request_id = b.approval_request_id :=
    of_str?_of_canonical (hsame.get "approval_request_id")
  rw [EffectPlan.canonical, EffectPlan.canonical, EffectPlan.mk.injEq]
  exact ⟨heffect, hattempt, hkind, hpayload, hkey, happroval, hrequest⟩

theorem closeout_of_payload (host : PayloadHost) {a b : UnstartedDispatchCloseoutGuard}
    (h : (unstarted_dispatch_closeout_guard_payload host.toHost a).canonical
      = (unstarted_dispatch_closeout_guard_payload host.toHost b).canonical) : a = b := by
  have hsame := obj_of_canonical h
  have heffect := str_of_canonical (hsame.get "effect_id")
  have hattempt := str_of_canonical (hsame.get "attempt_id")
  have hauthorization := str_of_canonical (hsame.get "authorization_transition_id")
  have hexecutor := str_of_canonical (hsame.get "executor_id")
  have hevidence := str_of_canonical (hsame.get "evidence_ref")
  have hclosed := host.isoformat_injective (str_of_canonical (hsame.get "closed_at"))
  cases a
  cases b
  simp only at heffect hattempt hauthorization hexecutor hevidence hclosed
  subst heffect hattempt hauthorization hexecutor hevidence hclosed
  rfl

/-! ## Units with the same pre-image -/

/-- Two typed units that agree on everything a commit writes. -/
structure SameWrites (unit other : AuthoritativeUnitOfWork) (state_cas other_cas : OperationStateCAS)
    (state_value other_value : JsonObject) : Prop where
  state_cas : state_cas = other_cas
  state_value : Same state_value other_value
  facts : unit.facts.map EventRecord.canonical = other.facts.map EventRecord.canonical
  dispositions : unit.dispositions = other.dispositions
  effect_mutations : unit.normalized_effect_mutations.map EffectMutation.canonical
    = other.normalized_effect_mutations.map EffectMutation.canonical
  effect_plans : unit.effect_plans.map EffectPlan.canonical
    = other.effect_plans.map EffectPlan.canonical
  child_bindings : unit.child_bindings.map (fun binding =>
      (child_execution_binding_payload binding).canonical)
    = other.child_bindings.map (fun binding =>
      (child_execution_binding_payload binding).canonical)
  unstarted_dispatch_closeout : unit.unstarted_dispatch_closeout = other.unstarted_dispatch_closeout
  expected_mailbox_cut : unit.expected_mailbox_cut = other.expected_mailbox_cut

theorem map_view {α β γ : Type} {fine : α → β} {coarse : α → γ} {left right : List α}
    (hview : ∀ a ∈ left, ∀ b ∈ right, fine a = fine b → coarse a = coarse b)
    (h : left.map fine = right.map fine) : left.map coarse = right.map coarse := by
  induction left generalizing right with
  | nil =>
    cases right with
    | nil => rfl
    | cons b rest => cases h
  | cons a rest ih =>
    cases right with
    | nil => cases h
    | cons b rest' =>
      rw [map_cons, map_cons, List.cons.injEq] at h
      rw [map_cons, map_cons,
        hview a mem_cons_self b mem_cons_self h.1,
        ih (fun x hx y hy => hview x (mem_cons_of_mem _ hx) y
          (mem_cons_of_mem _ hy)) h.2]

theorem facts_unallocated {unit : AuthoritativeUnitOfWork} (h : unit.post_init = .ok ())
    {fact : EventRecord} (hmem : fact ∈ unit.facts) :
    fact.session_seq = none ∧ fact.projection_epoch = none := by
  simp only [AuthoritativeUnitOfWork.post_init, check_bind_eq_ok,
    check_unallocated, check_each_eq_ok, raise_if_eq_ok,
    not_not] at h
  obtain ⟨-, -, -, -, -, -, -, -, -, -, -, hunallocated⟩ := h
  exact hunallocated fact (mem_append_right _ hmem)

variable {unit other : AuthoritativeUnitOfWork}

/-- **The pre-image determines what is written.** -/
theorem same_writes_of_tree (host : PayloadHost) {state_cas other_cas : OperationStateCAS}
    {state_value other_value : JsonObject} (hunit : unit.post_init = .ok ())
    (hother : other.post_init = .ok ())
    (h : (mutation_tree host.toHost unit state_cas state_value).canonical
      = (mutation_tree host.toHost other other_cas other_value).canonical) :
    SameWrites unit other state_cas other_cas state_value other_value := by
  have hsame := obj_of_canonical h
  have hstate := obj_of_canonical (hsame.get "state")
  have hrun := str_of_canonical (hstate.get "run_id")
  have hrevision : state_cas.revision + 1 = other_cas.revision + 1 :=
    nat_of_canonical (hstate.get "revision")
  have hepoch := nat_of_canonical (hstate.get "projection_epoch")
  exact {
    state_cas := by
      cases state_cas
      cases other_cas
      simp only at hrun hrevision hepoch
      subst hrun hepoch
      rw [Nat.succ.inj hrevision]
    state_value := obj_of_canonical (hstate.get "value")
    facts := map_view (fun a ha b hb hab => fact_of_fingerprint host
      (facts_unallocated hunit ha) (facts_unallocated hother hb) hab)
      (canonical_arr_map (hsame.get "facts"))
    dispositions := by
      have hmap : unit.dispositions.map id = other.dispositions.map id :=
        map_view (fun a _ b _ => disposition_of_fingerprint)
          (canonical_arr_map (hsame.get "dispositions"))
      rwa [map_id, map_id] at hmap
    effect_mutations := map_view (fun a _ b _ => mutation_of_fingerprint)
      (canonical_arr_map (hsame.get "effect_mutations"))
    effect_plans := map_view (fun a _ b _ => plan_of_payload)
      (canonical_arr_map (hsame.get "effect_plans"))
    child_bindings := canonical_arr_map (hsame.get "child_bindings")
    unstarted_dispatch_closeout :=
      optional_of_canonical (fun x y => closeout_of_payload host) (fun x hx => by cases hx)
        (hsame.get "unstarted_dispatch_closeout")
    expected_mailbox_cut :=
      optional_of_canonical (fun x y => u64_of_canonical) (fun x hx => by cases hx)
        (hsame.get "expected_mailbox_cut") }

/-! ## Writes of payloads with the same text -/

def EffectLedgerSlot.canonical (slot : EffectLedgerSlot) : EffectLedgerSlot :=
  { slot with payload := JsonObject.canonical slot.payload }

def EffectRow.canonical (row : EffectRow) : EffectRow :=
  { row with payload := JsonObject.canonical row.payload }

def EventRow.canonical (row : EventRow) : EventRow :=
  { row with payload := JsonObject.canonical row.payload }

def receipt_text (host : PayloadHost) (row : TransitionReceiptRow) : String × JsonObject :=
  (row.mutation_fingerprint, JsonObject.canonical (transition_commit_payload host row.result))

def binding_text (binding : ChildExecutionBinding) : Json :=
  (child_execution_binding_payload binding).canonical

/-- Two databases whose rows hold the same values and the same texts. -/
structure SameRows (host : PayloadHost) (db other : Tables) : Prop where
  session_transition_receipts : Agree (receipt_text host) db.session_transition_receipts
    other.session_transition_receipts
  session_event_records :
    Agree EventRow.canonical db.session_event_records other.session_event_records
  session_operation_states : Agree OperationStateVersion.canonical
    db.session_operation_states other.session_operation_states
  session_effect_slots :
    Agree EffectRow.canonical db.session_effect_slots other.session_effect_slots
  session_child_bindings :
    Agree binding_text db.session_child_bindings other.session_child_bindings
  session_fact_source : db.session_fact_source = other.session_fact_source
  session_mailbox_slots : db.session_mailbox_slots = other.session_mailbox_slots
  session_executor_attempts : db.session_executor_attempts = other.session_executor_attempts
  session_owners : db.session_owners = other.session_owners
  new_sessions_enabled : db.new_sessions_enabled = other.new_sessions_enabled
  agent_http_sessions : db.agent_http_sessions = other.agent_http_sessions
  session_tapes : db.session_tapes = other.session_tapes
  agent_runs : db.agent_runs = other.agent_runs
  session_effect_reconciliation_evidence :
    db.session_effect_reconciliation_evidence = other.session_effect_reconciliation_evidence
  session_recovery_leases : db.session_recovery_leases = other.session_recovery_leases
  session_receipt_slots : db.session_receipt_slots = other.session_receipt_slots

theorem effect_slot_from_mutation_same {a b : EffectMutation} (h : a.canonical = b.canonical) :
    (effect_slot_from_mutation a).canonical = (effect_slot_from_mutation b).canonical := by
  rw [EffectMutation.canonical, EffectMutation.canonical, EffectMutation.mk.injEq] at h
  obtain ⟨heffect, hattempt, hstatus, hpayload, -, hrecord⟩ := h
  have hset : Same (a.payload.set "attempt_id" (.str a.attempt_id))
      (b.payload.set "attempt_id" (.str b.attempt_id)) := by
    rw [hattempt]
    exact Same.set hpayload "attempt_id" rfl
  rw [EffectLedgerSlot.canonical, EffectLedgerSlot.canonical, EffectLedgerSlot.mk.injEq,
    effect_slot_from_mutation, effect_slot_from_mutation, heffect, hstatus, hrecord]
  refine ⟨rfl, rfl, ?_⟩
  cases b.reconciliation with
  | none => exact hset
  | some record => exact Same.set hset "reconciliation" rfl

section Slots

variable {db : Tables} {authority : OwnerAuthority} {transition_id : String}

variable {a b : EffectMutation}

theorem merged_effect_slot_same {session_id : String} {x y : EffectLedgerSlot}
    (h : a.canonical = b.canonical) (hx : merged_effect_slot db session_id a = .ok x)
    (hy : merged_effect_slot db session_id b = .ok y) : x.canonical = y.canonical := by
  have hslot := effect_slot_from_mutation_same h
  rw [EffectMutation.canonical, EffectMutation.canonical, EffectMutation.mk.injEq] at h
  obtain ⟨heffect, -, -, -, hexpected, -⟩ := h
  unfold merged_effect_slot at hx hy
  rw [heffect, hexpected] at hx
  cases hstatus : b.expected_status with
  | none =>
    rw [hstatus] at hx hy
    cases hrow : db.session_effect_slots.row (session_id, b.effect_id) with
    | none =>
      rw [hrow] at hx hy
      cases hx
      cases hy
      exact hslot
    | some current =>
      rw [hrow] at hx
      cases hx
  | some expected =>
    rw [hstatus] at hx hy
    cases hrow : db.session_effect_slots.row (session_id, b.effect_id) with
    | none =>
      rw [hrow] at hx
      cases hx
    | some current =>
      rw [hrow] at hx hy
      simp only [check_bind_eq_ok, pure_eq_ok] at hx hy
      obtain ⟨-, -, rfl⟩ := hx
      obtain ⟨-, -, rfl⟩ := hy
      rw [EffectLedgerSlot.canonical, EffectLedgerSlot.canonical, EffectLedgerSlot.mk.injEq]
        at hslot ⊢
      exact ⟨hslot.1, hslot.2.1,
        (Same.refl current.payload).merge hslot.2.2⟩

theorem is_dispatch_same (h : a.canonical = b.canonical) :
    a.is_dispatch = b.is_dispatch := by
  rw [EffectMutation.canonical, EffectMutation.canonical, EffectMutation.mk.injEq] at h
  obtain ⟨-, -, hstatus, -, hexpected, -⟩ := h
  rw [EffectMutation.is_dispatch, EffectMutation.is_dispatch, hstatus, hexpected]

theorem effect_slot_same {x y : EffectLedgerSlot} (h : a.canonical = b.canonical)
    (hx : effect_slot db authority transition_id a = .ok x)
    (hy : effect_slot db authority transition_id b = .ok y) : x.canonical = y.canonical := by
  have hdispatch := is_dispatch_same h
  simp only [effect_slot, bind_eq_ok] at hx hy
  obtain ⟨first, hfirst, hx⟩ := hx
  obtain ⟨second, hsecond, hy⟩ := hy
  have hmerged := merged_effect_slot_same h hfirst hsecond
  rw [hdispatch] at hx
  split at hx
  · next hyes =>
    rw [if_pos hyes, pure_eq_ok] at hy
    rw [pure_eq_ok] at hx
    rw [← hx, ← hy]
    rw [EffectLedgerSlot.canonical, EffectLedgerSlot.canonical, EffectLedgerSlot.mk.injEq]
      at hmerged ⊢
    exact ⟨hmerged.1, hmerged.2.1, Same.merge hmerged.2.2 (Same.refl _)⟩
  · next hno =>
    rw [if_neg hno, pure_eq_ok] at hy
    rw [pure_eq_ok] at hx
    rw [← hx, ← hy]
    exact hmerged

end Slots

/-! ## Facts -/

theorem project_child_fact_same (binding : ChildExecutionBinding) {a b : EventRecord}
    (h : a.canonical = b.canonical) :
    (project_child_fact binding a).canonical = (project_child_fact binding b).canonical := by
  rw [EventRecord.canonical, EventRecord.canonical, EventRecord.mk.injEq] at h ⊢
  obtain ⟨hevent, hsession, hkind, hpayload, hcreated, hseq, hepoch⟩ := h
  refine ⟨hevent, hsession, hkind, ?_, hcreated, hseq, hepoch⟩
  simp only [project_child_fact]
  rw [hkind]
  exact Same.merge hpayload (Same.refl _)

variable {session_id : String} {db : Tables}

theorem facts_to_commit_same {state_cas : OperationStateCAS}
    (h : unit.facts.map EventRecord.canonical = other.facts.map EventRecord.canonical) :
    (facts_to_commit db session_id unit state_cas).map EventRecord.canonical
      = (facts_to_commit db session_id other state_cas).map EventRecord.canonical := by
  unfold facts_to_commit
  cases child_binding_of_run db session_id state_cas.run_id with
  | none => exact h
  | some binding =>
    rw [map_map, map_map]
    exact map_view (fun a _ b _ => project_child_fact_same binding) h

variable {facts others : List EventRecord}

theorem stamp_facts_same (projection_epoch : Nat)
    (h : facts.map EventRecord.canonical = others.map EventRecord.canonical) :
    ∀ session_seq, (stamp_facts projection_epoch session_seq facts).map EventRecord.canonical
      = (stamp_facts projection_epoch session_seq others).map EventRecord.canonical := by
  induction facts generalizing others with
  | nil =>
    cases others with
    | nil => exact fun _ => rfl
    | cons other rest => cases h
  | cons fact rest ih =>
    cases others with
    | nil => cases h
    | cons other rest' =>
      intro session_seq
      rw [map_cons, map_cons, List.cons.injEq] at h
      obtain ⟨hhead, htail⟩ := h
      rw [EventRecord.canonical, EventRecord.canonical, EventRecord.mk.injEq] at hhead
      obtain ⟨hevent, hsession, hkind, hpayload, hcreated, -, -⟩ := hhead
      rw [stamp_facts, stamp_facts, map_cons, map_cons, ih htail (session_seq + 1)]
      congr 1
      rw [EventRecord.canonical, EventRecord.canonical, EventRecord.mk.injEq]
      exact ⟨hevent, hsession, hkind, hpayload, hcreated, rfl, rfl⟩

theorem insert_event_records_same {projection_epoch : Nat}
    {events events' stored stored' : Table (String × Nat) EventRow}
    (hevents : Agree EventRow.canonical events events')
    (h : facts.map EventRecord.canonical = others.map EventRecord.canonical)
    (hfacts : insert_event_records session_id projection_epoch events facts = .ok stored)
    (hothers : insert_event_records session_id projection_epoch events' others = .ok stored') :
    Agree EventRow.canonical stored stored' := by
  induction facts generalizing others events events' with
  | nil =>
    cases others with
    | nil =>
      cases hfacts
      cases hothers
      exact hevents
    | cons other rest => cases h
  | cons fact rest ih =>
    cases others with
    | nil => cases h
    | cons other rest' =>
      rw [map_cons, map_cons, List.cons.injEq] at h
      obtain ⟨hhead, htail⟩ := h
      rw [EventRecord.canonical, EventRecord.canonical, EventRecord.mk.injEq] at hhead
      obtain ⟨hevent, -, hkind, hpayload, hcreated, hseq, -⟩ := hhead
      simp only [insert_event_records, insert_event_record, bind_eq_ok,
        insert_row_eq_ok] at hfacts hothers
      obtain ⟨_, ⟨_, -, -, rfl⟩, hfacts⟩ := hfacts
      obtain ⟨_, ⟨_, -, -, rfl⟩, hothers⟩ := hothers
      rw [hseq] at hfacts
      refine ih (hevents.put (session_id, other.session_seq.getD 0) ?_) htail hfacts hothers
      rw [EventRow.canonical, EventRow.canonical, EventRow.mk.injEq]
      exact ⟨hevent, hkind, hpayload, hcreated, rfl⟩

/-! ## Bindings and attempts -/

theorem insert_child_bindings_same {bindings others : List ChildExecutionBinding}
    {table table' stored stored' : Table (String × String) ChildExecutionBinding}
    (htable : Agree binding_text table table')
    (h : bindings.map binding_text = others.map binding_text)
    (hbindings : insert_child_bindings session_id table bindings = .ok stored)
    (hothers : insert_child_bindings session_id table' others = .ok stored') :
    Agree binding_text stored stored' := by
  induction bindings generalizing others table table' with
  | nil =>
    cases others with
    | nil =>
      cases hbindings
      cases hothers
      exact htable
    | cons other rest => cases h
  | cons binding rest ih =>
    cases others with
    | nil => cases h
    | cons other rest' =>
      rw [map_cons, map_cons, List.cons.injEq] at h
      obtain ⟨hhead, htail⟩ := h
      -- the key of the row is read off the text
      have heffect : binding.parent_effect_id = other.parent_effect_id :=
        str_of_canonical ((obj_of_canonical hhead).get "parent_effect_id")
      simp only [insert_child_bindings, bind_eq_ok, insert_row_eq_ok]
        at hbindings hothers
      obtain ⟨_, -, _, ⟨-, rfl⟩, hbindings⟩ := hbindings
      obtain ⟨_, -, _, ⟨-, rfl⟩, hothers⟩ := hothers
      rw [heffect] at hbindings
      exact ih (htable.put _ hhead) htail hbindings hothers

variable {authority : OwnerAuthority}

theorem closeout_attempt_same
    (h : unit.unstarted_dispatch_closeout = other.unstarted_dispatch_closeout) :
    closeout_attempt db authority unit = closeout_attempt db authority other := by
  unfold closeout_attempt
  rw [h]

variable {transition_id : String}

theorem dispatched_attempt_same (h : unit.normalized_effect_mutations.map EffectMutation.canonical
      = other.normalized_effect_mutations.map EffectMutation.canonical)
    (hcut : unit.expected_mailbox_cut = other.expected_mailbox_cut) :
    dispatched_attempt db authority unit transition_id
      = dispatched_attempt db authority other transition_id := by
  have hfind (mutations : List EffectMutation) :
      (mutations.find? (·.is_dispatch)).map EffectMutation.canonical
        = (mutations.map EffectMutation.canonical).find? (·.is_dispatch) := by
    rw [List.find?_map]
    rfl
  have hfound := congrArg (List.find? (·.is_dispatch)) h
  rw [← hfind, ← hfind] at hfound
  unfold dispatched_attempt
  rw [hcut]
  cases hunit : unit.normalized_effect_mutations.find? (·.is_dispatch) with
  | none =>
    cases hother : other.normalized_effect_mutations.find? (·.is_dispatch) with
    | none => rfl
    | some mutation =>
      rw [hunit, hother] at hfound
      cases hfound
  | some mutation =>
    cases hother : other.normalized_effect_mutations.find? (·.is_dispatch) with
    | none =>
      rw [hunit, hother] at hfound
      cases hfound
    | some again =>
      rw [hunit, hother, Option.map_some, Option.map_some, Option.some.injEq,
        EffectMutation.canonical, EffectMutation.canonical, EffectMutation.mk.injEq] at hfound
      dsimp only
      rw [hfound.1, hfound.2.1]

/-! ## The stored result -/

theorem commit_ref_same (transition_id : String) (session_seq : Nat)
    (h : facts.map EventRecord.canonical = others.map EventRecord.canonical) :
    commit_ref transition_id session_seq facts = commit_ref transition_id session_seq others := by
  have hlength : facts.length = others.length := by
    have hmapped := congrArg List.length h
    rwa [length_map, length_map] at hmapped
  have hempty : facts = [] ↔ others = [] := by
    rw [← length_eq_zero_iff, hlength, length_eq_zero_iff]
  unfold commit_ref
  rw [hlength]
  by_cases hnil : facts = []
  · rw [if_pos hnil, if_pos (hempty.mp hnil)]
  · rw [if_neg hnil, if_neg (mt hempty.mpr hnil)]

theorem fact_payload_same (host : PayloadHost) {a b : EventRecord} (h : a.canonical = b.canonical) :
    (obj (committed_fact_payload host a)).canonical
      = (obj (committed_fact_payload host b)).canonical := by
  rw [EventRecord.canonical, EventRecord.canonical, EventRecord.mk.injEq] at h
  obtain ⟨hevent, hsession, hkind, hpayload, hcreated, hseq, hepoch⟩ := h
  have htext := same_iff_json.mp hpayload
  refine same_iff_json.mp (same_of_members ?_)
  rw [committed_fact_payload, committed_fact_payload, hevent, hsession, hkind, hcreated, hseq,
    hepoch]
  simp only [forall₂_cons, forall₂_nil_left_iff, htext, and_self]

theorem plan_payload_same {a b : EffectPlan} (h : a.canonical = b.canonical) :
    (effect_plan_payload a).canonical = (effect_plan_payload b).canonical := by
  rw [EffectPlan.canonical, EffectPlan.canonical, EffectPlan.mk.injEq] at h
  obtain ⟨heffect, hattempt, hkind, hpayload, hkey, happroval, hrequest⟩ := h
  have htext := same_iff_json.mp hpayload
  refine same_iff_json.mp (same_of_members ?_)
  rw [heffect, hattempt, hkind, hkey, happroval, hrequest]
  simp only [forall₂_cons, forall₂_nil_left_iff, htext, and_self]

/-- **Results whose payloads have the same texts have the same text.** -/
theorem transition_payload_same (host : PayloadHost) {result other : TransitionResult}
    (hversion : result.state_version.canonical = other.state_version.canonical)
    (hfacts : result.facts.map EventRecord.canonical = other.facts.map EventRecord.canonical)
    (hplans : result.effect_plans.map EffectPlan.canonical
      = other.effect_plans.map EffectPlan.canonical)
    (hcursor : result.raw_cursor = other.raw_cursor) :
    JsonObject.canonical (transition_commit_payload host result)
      = JsonObject.canonical (transition_commit_payload host other) := by
  rw [OperationStateVersion.canonical, OperationStateVersion.canonical,
    OperationStateVersion.mk.injEq] at hversion
  obtain ⟨hrun, hrevision, hepoch, href, hvalue⟩ := hversion
  have hstate : (obj (state_version_payload result.state_version)).canonical
      = (obj (state_version_payload other.state_version)).canonical := by
    have htext := same_iff_json.mp hvalue
    refine same_iff_json.mp (same_of_members ?_)
    rw [state_version_payload, state_version_payload, hrun, hrevision, hepoch, href]
    simp only [forall₂_cons, forall₂_nil_left_iff, htext, and_self]
  have hfact_list : (arr (result.facts.map (fun fact =>
      .obj (committed_fact_payload host fact)))).canonical
        = (arr (other.facts.map (fun fact =>
            .obj (committed_fact_payload host fact)))).canonical := by
    rw [canonical_arr, canonical_arr, map_map, map_map]
    exact congrArg arr (map_view (fun a _ b _ => fact_payload_same host) hfacts)
  have hplan_list : (arr (result.effect_plans.map effect_plan_payload)).canonical
      = (arr (other.effect_plans.map effect_plan_payload)).canonical := by
    rw [canonical_arr, canonical_arr, map_map, map_map]
    exact congrArg arr (map_view (fun a _ b _ => plan_payload_same) hplans)
  refine same_of_members ?_
  rw [transition_commit_payload, transition_commit_payload, hcursor]
  simp only [forall₂_cons, forall₂_nil_left_iff, hstate, hfact_list, hplan_list, and_self]

/-! ## Two commits -/

/-- **Fresh commits of units that agree on their writes leave the same rows.** -/
theorem FreshCommit.same_rows (host : PayloadHost) {db after other_after : Tables}
    {state_cas other_cas : OperationStateCAS} {state_value other_value : JsonObject}
    {row other_row : TransitionReceiptRow} {plan other_plan : CommitPlan}
    {commit other_commit : AuthoritativeCommit}
    (hsame : SameWrites unit other state_cas other_cas state_value other_value)
    (hfingerprint : row.mutation_fingerprint = other_row.mutation_fingerprint)
    (h : FreshCommit db authority unit state_cas transition_id state_value row plan after commit)
    (h' : FreshCommit db authority other other_cas transition_id other_value other_row other_plan
      other_after other_commit) : SameRows host after other_after := by
  obtain ⟨rfl, hvalue, hfacts, hdispositions, hmutations, hplans, hbindings, hcloseout, hcut⟩ :=
    hsame
  -- the plans agree
  have hcloseout_attempt : plan.closeout_attempt = other_plan.closeout_attempt :=
    Except.ok.inj (h.closeout.symm.trans ((closeout_attempt_same hcloseout).trans h'.closeout))
  have hattempt : plan.executor_attempt = other_plan.executor_attempt :=
    Except.ok.inj (h.executor_attempt.symm.trans
      ((dispatched_attempt_same hmutations hcut).trans h'.executor_attempt))
  have hslots : plan.disposition_slots = other_plan.disposition_slots := by
    have hplanned := h.dispositions
    rw [hdispositions] at hplanned
    exact Except.ok.inj (hplanned.symm.trans h'.dispositions)
  have heffects : plan.effect_slots.map EffectLedgerSlot.canonical
      = other_plan.effect_slots.map EffectLedgerSlot.canonical :=
    mapM_agree (fun a b x y hab hx hy => effect_slot_same hab hx hy) hmutations h.effects
      h'.effects
  have hcommitted : plan.facts_to_commit.map EventRecord.canonical
      = other_plan.facts_to_commit.map EventRecord.canonical := by
    rw [h.facts, h'.facts]
    exact facts_to_commit_same hfacts
  -- so do the stored results
  have hstamped : row.result.facts.map EventRecord.canonical
      = other_row.result.facts.map EventRecord.canonical := by
    rw [h.result, h'.result]
    exact stamp_facts_same _ hcommitted _
  have hlength : row.result.facts.length = other_row.result.facts.length := by
    have hmapped := congrArg List.length hstamped
    rwa [length_map, length_map] at hmapped
  have hversion : row.result.state_version.canonical = other_row.result.state_version.canonical := by
    rw [h.result, h'.result, OperationStateVersion.canonical, OperationStateVersion.canonical,
      OperationStateVersion.mk.injEq]
    exact ⟨rfl, rfl, rfl, commit_ref_same _ _ hcommitted, hvalue⟩
  have hcursor : row.result.raw_cursor = other_row.result.raw_cursor := by
    have hcount := congrArg List.length hcommitted
    rw [length_map, length_map] at hcount
    rw [h.result, h'.result, transition_result, transition_result, hcount]
  have hreceipt : receipt_text host row = receipt_text host other_row := by
    refine Prod.ext hfingerprint (transition_payload_same host hversion hstamped ?_ hcursor)
    rw [h.result, h'.result]
    exact hplans
  have hrows : (effect_rows authority.session_id plan.effect_slots).map
        (fun row => (row.1, row.2.canonical))
      = (effect_rows authority.session_id other_plan.effect_slots).map
        (fun row => (row.1, row.2.canonical)) := by
    rw [effect_rows, effect_rows, map_map, map_map]
    refine map_view (fun a _ b _ hab => ?_) heffects
    rw [EffectLedgerSlot.canonical, EffectLedgerSlot.canonical, EffectLedgerSlot.mk.injEq] at hab
    obtain ⟨heffect, hstatus, hpayload⟩ := hab
    simp only [Function.comp_apply, EffectRow.canonical, heffect, hstatus, hpayload]
  -- and every table
  obtain ⟨events, bindings, hevents, hinserted, rfl⟩ := h.tables
  obtain ⟨events', bindings', hevents', hinserted', rfl⟩ := h'.tables
  exact {
    session_transition_receipts := (Agree.refl _).put _ hreceipt
    session_event_records :=
      insert_event_records_same (Agree.refl _) hstamped hevents hevents'
    session_operation_states := (Agree.refl _).put _ hversion
    session_effect_slots := (Agree.refl _).put_all hrows
    session_child_bindings :=
      insert_child_bindings_same (Agree.refl _) hbindings hinserted hinserted'
    session_fact_source := by rw [hlength]
    session_mailbox_slots := by rw [hslots]
    session_executor_attempts := by rw [hcloseout_attempt, hattempt]
    session_owners := rfl
    new_sessions_enabled := rfl
    agent_http_sessions := rfl
    session_tapes := rfl
    agent_runs := rfl
    session_effect_reconciliation_evidence := rfl
    session_recovery_leases := rfl
    session_receipt_slots := rfl }

theorem snapshot_post_init {unit : AuthoritativeUnitOfWork} (h : unit.post_init = .ok ())
    (htyped : unit.transition_id = some transition_id) :
    (snapshot_transition_unit unit).post_init = .ok () := by
  have hmutations : ∀ mutation ∈ unit.normalized_effect_mutations, mutation.post_init = .ok () :=
    fun mutation hmem => mutation_post_init h hmem
  have hids := effect_ids_nodup h
  have htransition : unit.is_transition = true := by
    simp [is_transition, htyped]
  rw [snapshot_transition_unit, if_pos htransition]
  simp only [AuthoritativeUnitOfWork.post_init, check_bind_eq_ok] at h ⊢
  obtain ⟨-, hadopt, hfacts, -, hplans, hbindings, hguard, hcloseout, hdispatch, hreconciliation,
    hfields, hunallocated⟩ := h
  refine ⟨rfl, hadopt, hfacts, ?_, hplans, hbindings, hguard, hcloseout, hdispatch,
    hreconciliation, ?_, ?_⟩
  · simp only [check_effect_mutations, check_bind_eq_ok,
      check_each_eq_ok, raise_if_eq_ok, not_not]
    exact ⟨rfl, hmutations, fun hboth => hboth.1 rfl, hids⟩
  · simp only [check_transition_fields, htyped, check_bind_eq_ok]
      at hfields ⊢
    obtain ⟨hid, hcas, hvalue, -, -, hrecords⟩ := hfields
    exact ⟨hid, hcas, hvalue, rfl, rfl, hrecords⟩
  · simp only [check_unallocated, check_each_eq_ok] at hunallocated ⊢
    intro fact hmem
    exact hunallocated fact (mem_append_right _ hmem)

/-- **The mutation fingerprint covers every durable write.** Two typed units committed now, under
one transition id, by one owner, from one state of the store, whose fingerprints hash the same
canonical JSON, leave rows with the same values and texts in every table; and the snapshot of a
typed unit is a valid unit with the fingerprint and the writes of the unit itself. -/
theorem fingerprint_covers_writes (host : PayloadHost) (db : Tables) (authority : OwnerAuthority)
    (transition_id : String) :
    (∀ (unit other : UnitOfWork) (state_cas other_cas : OperationStateCAS)
        (state_value other_value : JsonObject) (clock other_clock : Datetime)
        (after other_after : Tables) (commit other_commit : AuthoritativeCommit),
      commit_transition host.toHost db clock authority unit.val state_cas transition_id state_value
          = .ok (after, commit) → commit.idempotent = false →
      commit_transition host.toHost db other_clock authority other.val other_cas transition_id
          other_value = .ok (other_after, other_commit) → other_commit.idempotent = false →
      (mutation_tree host.toHost unit.val state_cas state_value).canonical
          = (mutation_tree host.toHost other.val other_cas other_value).canonical →
      SameRows host after other_after)
    ∧ ∀ (unit : UnitOfWork) (state_cas : OperationStateCAS) (state_value : JsonObject)
        (clock : Datetime), unit.val.transition_id = some transition_id →
      (snapshot_transition_unit unit.val).post_init = .ok ()
      ∧ transition_mutation_fingerprint host.toHost (snapshot_transition_unit unit.val) state_cas
          state_value = transition_mutation_fingerprint host.toHost unit.val state_cas state_value
      ∧ commit_transition host.toHost db clock authority (snapshot_transition_unit unit.val)
          state_cas transition_id state_value
        = commit_transition host.toHost db clock authority unit.val state_cas transition_id
            state_value := by
  constructor
  · intro unit other state_cas other_cas state_value other_value clock other_clock after other_after
      commit other_commit hcommit hfresh hcommit' hfresh' htree
    have hsame := same_writes_of_tree host unit.property other.property htree
    obtain ⟨-, hcases⟩ := commit_transition_cases hcommit
    obtain ⟨-, hcases'⟩ := commit_transition_cases hcommit'
    rcases hcases with hreplayed | ⟨plan, row, hfingerprint, hcommitted⟩
    · obtain ⟨_, _, -, rfl⟩ := hreplayed.receipt
      cases hfresh
    · rcases hcases' with hreplayed' | ⟨plan', row', hfingerprint', hcommitted'⟩
      · obtain ⟨_, _, -, rfl⟩ := hreplayed'.receipt
        cases hfresh'
      · have hdigest : row.mutation_fingerprint = row'.mutation_fingerprint := by
          rw [hfingerprint, hfingerprint', transition_mutation_fingerprint,
            transition_mutation_fingerprint, htree]
        exact hcommitted.same_rows host hsame hdigest hcommitted'
  · intro unit state_cas state_value clock htyped
    refine ⟨snapshot_post_init unit.property htyped, ?_, commit_transition_snapshot htyped⟩
    have htransition : unit.val.is_transition = true := by
      simp [is_transition, htyped]
    rw [snapshot_transition_unit, if_pos htransition]
    rfl

/-! ## One dictionary in two orders -/

theorem same_swap {key other : String} (hne : key ≠ other) (value value' : Json) :
    Same [(key, value), (other, value')] [(other, value'), (key, value)] := by
  refine same_iff.mpr (fun asked => ?_)
  rw [canonical_fields_eq_map, canonical_fields_eq_map]
  simp only [map_cons, map_nil, under, filter_cons, filter_nil]
  by_cases hkey : key = asked
  · have hother : ¬ other = asked := fun h => hne (hkey.trans h.symm)
    simp [hkey, hother]
  · by_cases hother : other = asked <;> simp [hkey, hother]

def sample_noted (payload : JsonObject) : AuthoritativeUnitOfWork :=
  sample_unit "t1" 0
    [{ event_id := "f1", session_id := "s", event_kind := "planned", payload, created_at := 1 }]
    { effect_id := "e", attempt_id := "a", status := .PREPARED, payload := [] } none

def sample_note : UnitOfWork := ⟨sample_noted [("a", .int 1), ("b", .int 2)], by decide⟩

def sample_note_again : UnitOfWork := ⟨sample_noted [("b", .int 2), ("a", .int 1)], by decide⟩

def sample_commit (unit : UnitOfWork) : Except StoreError (Tables × AuthoritativeCommit) :=
  commit_transition sample_payload_host.toHost sample_owned 1 sample_owner unit.val ⟨"r", 0, 0⟩
    "t1" []

theorem sample_trees_same :
    (mutation_tree sample_payload_host.toHost sample_note.val ⟨"r", 0, 0⟩ []).canonical
      = (mutation_tree sample_payload_host.toHost sample_note_again.val ⟨"r", 0, 0⟩
          []).canonical := by
  have hpayload := same_iff_json.mp
    (same_swap (by decide : "a" ≠ "b") (.int 1) (.int 2))
  have hfact : (fact_fingerprint_value sample_payload_host.toHost
      { event_id := "f1", session_id := "s", event_kind := "planned",
        payload := [("a", .int 1), ("b", .int 2)], created_at := 1 }).canonical
      = (fact_fingerprint_value sample_payload_host.toHost
      { event_id := "f1", session_id := "s", event_kind := "planned",
        payload := [("b", .int 2), ("a", .int 1)], created_at := 1 }).canonical := by
    refine same_iff_json.mp (same_of_members ?_)
    simp only [forall₂_cons, forall₂_nil_left_iff, hpayload, and_self]
  refine same_iff_json.mp (same_of_members ?_)
  have hfacts : (arr (sample_note.val.facts.map
        (fact_fingerprint_value sample_payload_host.toHost))).canonical
      = (arr (sample_note_again.val.facts.map
        (fact_fingerprint_value sample_payload_host.toHost))).canonical := by
    rw [canonical_arr, canonical_arr]
    exact congrArg (fun text => arr [text]) hfact
  exact .cons ⟨rfl, rfl⟩ (.cons ⟨rfl, hfacts⟩ (forall₂_same.mpr (fun _ _ => ⟨rfl, rfl⟩)))

theorem sample_orders_same_rows :
    ∃ after other_after commit other_commit, sample_commit sample_note = .ok (after, commit)
      ∧ sample_commit sample_note_again = .ok (other_after, other_commit)
      ∧ SameRows sample_payload_host after other_after := by
  have hfresh (unit : UnitOfWork) (h : ((sample_commit unit).toOption.map
      (fun answer => answer.2.idempotent)) = some false) :
      ∃ after commit, sample_commit unit = .ok (after, commit) ∧ commit.idempotent = false := by
    cases hcommit : sample_commit unit with
    | error error =>
      rw [hcommit] at h
      cases h
    | ok answer =>
      rw [hcommit] at h
      exact ⟨answer.1, answer.2, rfl, Option.some.inj h⟩
  obtain ⟨after, commit, hcommit, hnew⟩ := hfresh sample_note (by decide +kernel)
  obtain ⟨other_after, other_commit, hcommit', hnew'⟩ := hfresh sample_note_again (by decide +kernel)
  exact ⟨after, other_after, commit, other_commit, hcommit, hcommit',
    (fingerprint_covers_writes sample_payload_host sample_owned sample_owner "t1").1 sample_note
      sample_note_again _ _ _ _ _ _ _ _ _ _ hcommit hnew hcommit' hnew' sample_trees_same⟩

end CodingAgentLoop
