/-
The operation states of a run form a chain.

A typed commit carries the compare-and-swap identity of the state it was proposed
on, and the store accepts it only while that state is the stored one. So the
committed transitions of one run follow each other: each starts from the version
the one before it produced. The file reads the committed transitions off the
events and keeps, along a run, what the state table and the receipt table say
about them (`StateChain`); the rest is read off that invariant.
-/
import CodingAgentLoop.AttemptMachine

namespace CodingAgentLoop

open Lib List

variable {host : Host} {db db' : Tables}

/-! ## Committed transitions -/

/-- A transition the store committed: its base and what it produced. -/
structure CommittedTransition where
  transition_id : String
  state_cas : OperationStateCAS
  state_version : OperationStateVersion

/-- The transition an event committed: a fresh typed commit of the session. -/
def StoreEvent.committed (session_id : String) : StoreEvent → Option CommittedTransition
  | .call _ (.commit_authoritative_uow authority unit _ _) (.ok (.commit commit)) =>
    if authority.session_id = session_id ∧ commit.idempotent = false then
      match unit.val.transition_id, unit.val.state_cas, commit.state_version with
      | some transition_id, some state_cas, some state_version =>
        some ⟨transition_id, state_cas, state_version⟩
      | _, _, _ => none
    else none
  | _ => none

def committed_transitions (session_id : String) (events : List StoreEvent) :
    List CommittedTransition :=
  events.filterMap (StoreEvent.committed session_id)

def committed_of_run (session_id run_id : String) (events : List StoreEvent) :
    List CommittedTransition :=
  (committed_transitions session_id events).filter (·.state_cas.run_id = run_id)

theorem committed_transitions_snoc (session_id : String) (events : List StoreEvent)
    (event : StoreEvent) :
    committed_transitions session_id (events ++ [event])
      = committed_transitions session_id events ++ (event.committed session_id).toList := by
  unfold committed_transitions
  rw [filterMap_append]
  cases heq : event.committed session_id <;> simp [heq]

theorem StoreEvent.committed_of_not_fresh {event : StoreEvent} (h : event.fresh = false)
    (session_id : String) : event.committed session_id = none := by
  unfold committed
  split
  · rw [if_neg]
    intro hboth
    simp [StoreEvent.fresh, StoreAnswer.fresh, hboth.2] at h
  · rfl

theorem check_operation_state_eq_ok {session_id : String} {state_cas : OperationStateCAS} :
    check_operation_state db session_id state_cas = .ok () ↔
      match db.session_operation_states.row (session_id, state_cas.run_id) with
      | none => state_cas.revision = 0
      | some current_state => current_state.cas = state_cas := by
  unfold check_operation_state
  cases db.session_operation_states.row (session_id, state_cas.run_id) <;> simp

/-! ## One event -/

/-- What a fresh commit did to the states and the receipts. -/
structure StateAdvanced (db db' : Tables) (session_id : String) (committed : CommittedTransition) :
    Prop where
  compared : check_operation_state db session_id committed.state_cas = .ok ()
  produced : committed.state_version.cas
    = { committed.state_cas with revision := committed.state_cas.revision + 1 }
  states : db'.session_operation_states = db.session_operation_states.put
    (session_id, committed.state_cas.run_id) committed.state_version
  unused : db.session_transition_receipts.row
    (session_id, committed.state_cas.projection_epoch, committed.transition_id) = none
  receipts : ∃ receipt, receipt.result.state_version = committed.state_version
    ∧ db'.session_transition_receipts = db.session_transition_receipts.put
        (session_id, committed.state_cas.projection_epoch, committed.transition_id) receipt

/-- **Every event advances one operation state at most.** -/
theorem state_step {event : StoreEvent} (h : StoreStep host db event db') :
    (∀ session_id, event.committed session_id = none)
        ∧ db'.session_operation_states = db.session_operation_states
        ∧ db'.session_transition_receipts = db.session_transition_receipts
      ∨ ∃ session_id committed, event.committed session_id = some committed
        ∧ (∀ other, other ≠ session_id → event.committed other = none)
        ∧ StateAdvanced db db' session_id committed := by
  cases step_kind h with
  | quiet replayed hquiet =>
    exact Or.inl ⟨StoreEvent.committed_of_not_fresh replayed, hquiet.operation_states,
      hquiet.transition_receipts⟩
  | legacy untyped _ hlegacy =>
    refine Or.inl ⟨fun session_id => ?_, hlegacy.operation_states, hlegacy.transition_receipts⟩
    simp only [StoreEvent.committed, untyped]
    split <;> rfl
  | admitted hadmitted =>
    obtain ⟨_, -, _, -, rfl, -⟩ := hadmitted.tables
    exact Or.inl ⟨fun _ => rfl, rfl, rfl⟩
  | attempt target _ hwritten =>
    obtain ⟨_, -, -, rfl, -⟩ := hwritten
    refine Or.inl ⟨fun session_id => ?_, rfl, rfl⟩
    unfold StoreEvent.committed
    split
    · next heq => cases heq
    · rfl
  | @typed clock authority unit stored flag transition_id state_cas state_value plan receipt _ commit
      hcommit =>
      have hfresh := hcommit.fresh
      have hversion : commit.state_version = some receipt.result.state_version := by
        rw [hfresh.commit_eq]
        rfl
      have hidempotent : commit.idempotent = false := by
        rw [hfresh.commit_eq]
        rfl
      have hevent : ∀ session_id, (StoreEvent.call clock
          (.commit_authoritative_uow authority unit stored flag) (.ok (.commit commit))).committed
            session_id = if authority.session_id = session_id then
              some ⟨transition_id, state_cas, receipt.result.state_version⟩ else none := by
        intro session_id
        simp only [StoreEvent.committed, hidempotent, and_true, hcommit.typed, hcommit.cas, hversion]
      refine Or.inr ⟨authority.session_id, ⟨transition_id, state_cas, receipt.result.state_version⟩,
        by rw [hevent, if_pos rfl], fun other hother => by rw [hevent, if_neg (Ne.symm hother)], ?_⟩
      exact {
        compared := hfresh.operation_state
        produced := by rw [hfresh.result]; rfl
        states := hfresh.states_eq
        unused := hfresh.receipt_new
        receipts := ⟨receipt, rfl, hfresh.receipts_eq⟩ }

/-! ## The chain -/

/-- What the tables say about the transitions committed so far. -/
structure StateChain (db : Tables) (session_id : String) (committed : List CommittedTransition) :
    Prop where
  chain : ∀ run_id, Path (fun first => first.state_cas.revision = 0)
    (fun earlier later => later.state_cas = earlier.state_version.cas)
    (committed.filter (·.state_cas.run_id = run_id))
  produced : ∀ transition ∈ committed, transition.state_version.cas
    = { transition.state_cas with revision := transition.state_cas.revision + 1 }
  current : ∀ run_id, db.session_operation_states.row (session_id, run_id)
    = (committed.filter (·.state_cas.run_id = run_id)).getLast?.map (·.state_version)
  behind : ∀ transition ∈ committed, ∃ version,
    db.session_operation_states.row (session_id, transition.state_cas.run_id) = some version
      ∧ transition.state_cas.revision < version.revision
  receipts : ∀ transition ∈ committed, ∃ receipt,
    db.session_transition_receipts.row
        (session_id, transition.state_cas.projection_epoch, transition.transition_id) = some receipt
      ∧ receipt.result.state_version = transition.state_version
  bases : (committed.map (·.state_cas)).Nodup
  ids : (committed.map (fun transition =>
    (transition.state_cas.projection_epoch, transition.transition_id))).Nodup

namespace StateChain

variable {session_id : String} {committed : List CommittedTransition}

theorem of_rows (h : StateChain db session_id committed)
    (hstates : ∀ run_id, db'.session_operation_states.row (session_id, run_id)
      = db.session_operation_states.row (session_id, run_id))
    (hreceipts : ∀ epoch transition_id,
      db'.session_transition_receipts.row (session_id, epoch, transition_id)
        = db.session_transition_receipts.row (session_id, epoch, transition_id)) :
    StateChain db' session_id committed := by
  refine ⟨h.chain, h.produced, ?_, ?_, ?_, h.bases, h.ids⟩
  · intro run_id
    rw [hstates]
    exact h.current run_id
  · intro transition hmem
    rw [hstates]
    exact h.behind transition hmem
  · intro transition hmem
    rw [hreceipts]
    exact h.receipts transition hmem

variable {next : CommittedTransition}

section

variable (h : StateChain db session_id committed)
  (hcompared : check_operation_state db session_id next.state_cas = .ok ())

include h hcompared

theorem chain_snoc (run_id : String) :
    Path (fun first => first.state_cas.revision = 0)
      (fun earlier later => later.state_cas = earlier.state_version.cas)
      ((committed ++ [next]).filter (·.state_cas.run_id = run_id)) := by
  rw [filter_append, filter_singleton]
  by_cases hrun : next.state_cas.run_id = run_id
  · rw [check_operation_state_eq_ok, hrun, h.current run_id] at hcompared
    simp only [hrun, decide_true, cond_true]
    refine (h.chain run_id).snoc ?_
    cases hlast : (committed.filter (·.state_cas.run_id = run_id)).getLast? with
    | none =>
      rw [hlast] at hcompared
      exact hcompared
    | some last =>
      rw [hlast] at hcompared
      exact hcompared.symm
  · simp only [hrun, decide_false, cond_false, append_nil]
    exact h.chain run_id

theorem revision_lt {earlier : CommittedTransition} (hmem : earlier ∈ committed)
    (hrun : earlier.state_cas.run_id = next.state_cas.run_id) :
    earlier.state_cas.revision < next.state_cas.revision := by
  obtain ⟨version, hrow, hlt⟩ := h.behind earlier hmem
  rw [check_operation_state_eq_ok, ← hrun, hrow] at hcompared
  have hrevision : version.revision = next.state_cas.revision := by
    rw [← hcompared]
    rfl
  rw [hrevision] at hlt
  exact hlt

end

/-- **A committed transition extends the chain.** -/
theorem advance (h : StateChain db session_id committed)
    (hnext : StateAdvanced db db' session_id next) :
    StateChain db' session_id (committed ++ [next]) := by
  have hnew : ∀ run_id, db'.session_operation_states.row (session_id, run_id)
      = if run_id = next.state_cas.run_id then some next.state_version
        else db.session_operation_states.row (session_id, run_id) := by
    intro run_id
    rw [hnext.states, Table.row_put]
    simp only [Prod.mk.injEq, true_and]
  obtain ⟨receipt, hreceipt, hreceipts⟩ := hnext.receipts
  have hahead : next.state_cas.revision < next.state_version.revision := by
    have hrevision := congrArg OperationStateCAS.revision hnext.produced
    have heq : next.state_version.revision = next.state_cas.revision + 1 := hrevision
    omega
  refine ⟨h.chain_snoc hnext.compared, ?_, ?_, ?_, ?_, ?_, ?_⟩
  · intro transition hmem
    rcases mem_snoc hmem with hold | hlast
    · exact h.produced transition hold
    · rw [hlast]
      exact hnext.produced
  · intro run_id
    rw [hnew, filter_append, filter_singleton]
    by_cases hrun : run_id = next.state_cas.run_id
    · rw [if_pos hrun]
      simp only [hrun, decide_true, cond_true, List.getLast?_concat, Option.map_some]
    · simp only [hrun, Ne.symm hrun, decide_false, cond_false, append_nil]
      exact h.current run_id
  · intro transition hmem
    rw [hnew]
    rcases mem_snoc hmem with hold | hlast
    · by_cases hrun : transition.state_cas.run_id = next.state_cas.run_id
      · rw [if_pos hrun]
        have hlt := h.revision_lt hnext.compared hold hrun
        exact ⟨next.state_version, rfl, Nat.lt_trans hlt hahead⟩
      · rw [if_neg hrun]
        exact h.behind transition hold
    · rw [hlast, if_pos rfl]
      exact ⟨next.state_version, rfl, hahead⟩
  · intro transition hmem
    rw [hreceipts, Table.row_put]
    rcases mem_snoc hmem with hold | hlast
    · obtain ⟨stored, hrow, hversion⟩ := h.receipts transition hold
      rw [if_neg]
      · exact ⟨stored, hrow, hversion⟩
      · -- a stored receipt is not under the new transition's key, which was free
        intro hkey
        rw [hkey, hnext.unused] at hrow
        cases hrow
    · rw [hlast, if_pos rfl]
      exact ⟨receipt, rfl, hreceipt⟩
  · rw [map_append, map_singleton, nodup_append]
    refine ⟨h.bases, nodup_singleton _, ?_⟩
    intro base hbase last hlast heq
    obtain ⟨earlier, hmem, rfl⟩ := mem_map.mp hbase
    rw [mem_singleton.mp hlast] at heq
    have hlt := h.revision_lt hnext.compared hmem (congrArg OperationStateCAS.run_id heq)
    rw [heq] at hlt
    exact Nat.lt_irrefl _ hlt
  · rw [map_append, map_singleton, nodup_append]
    refine ⟨h.ids, nodup_singleton _, ?_⟩
    intro id hid last hlast heq
    obtain ⟨earlier, hmem, rfl⟩ := mem_map.mp hid
    rw [mem_singleton.mp hlast] at heq
    obtain ⟨hepoch, hid_eq⟩ := Prod.mk.inj heq
    obtain ⟨stored, hrow, -⟩ := h.receipts earlier hmem
    rw [hepoch, hid_eq, hnext.unused] at hrow
    cases hrow

end StateChain

/-- **The chain holds after every run.** -/
theorem state_chain {events : List StoreEvent} (h : StoreRun host events db) (session_id : String) :
    StateChain db session_id (committed_transitions session_id events) := by
  refine h.history (P := fun events tables =>
    StateChain tables session_id (committed_transitions session_id events)) ?_ ?_
  · refine ⟨fun _ => Path.nil, ?_, fun _ => rfl, ?_, ?_, nodup_nil, nodup_nil⟩ <;>
    · intro transition hmem
      cases hmem
  · intro history before event after _ hchain hstep
    rw [committed_transitions_snoc]
    rcases state_step hstep with ⟨hnone, hstates, hreceipts⟩ | ⟨owner, next, hnext, hother, hadvanced⟩
    · rw [hnone, Option.toList_none, append_nil]
      exact hchain.of_rows (fun _ => by rw [hstates]) (fun _ _ => by rw [hreceipts])
    · by_cases hsession : session_id = owner
      · subst hsession
        rw [hnext, Option.toList_some]
        exact hchain.advance hadvanced
      · rw [hother session_id hsession, Option.toList_none, append_nil]
        obtain ⟨receipt, -, hreceipts⟩ := hadvanced.receipts
        refine hchain.of_rows (fun run_id => ?_) (fun epoch transition_id => ?_)
        · rw [hadvanced.states, Table.row_put_of_ne]
          exact fun hkey => hsession (Prod.mk.inj hkey).1
        · rw [hreceipts, Table.row_put_of_ne]
          exact fun hkey => hsession (Prod.mk.inj hkey).1

/-- **Operation-state linearity.** After every run, the transitions committed for a run of
the session form a chain from revision 0 in which each starts from the version the one before
it produced and raises the revision by one; no base and no transition id is used twice; the
stored state is the last version, which its receipt holds; and a rejected call leaves every
table as it was. -/
theorem operation_state_linearity {events : List StoreEvent} (hrun : StoreRun host events db)
    (session_id run_id : String) :
    Path (fun first => first.state_cas.revision = 0)
      (fun earlier later => later.state_cas = earlier.state_version.cas)
      (committed_of_run session_id run_id events)
    ∧ (∀ transition ∈ committed_transitions session_id events, transition.state_version.cas
        = { transition.state_cas with revision := transition.state_cas.revision + 1 })
    ∧ ((committed_transitions session_id events).map (·.state_cas)).Nodup
    ∧ ((committed_transitions session_id events).map (fun transition =>
        (transition.state_cas.projection_epoch, transition.transition_id))).Nodup
    ∧ db.session_operation_states.row (session_id, run_id)
        = (committed_of_run session_id run_id events).getLast?.map (·.state_version)
    ∧ (∀ transition ∈ committed_transitions session_id events, ∃ receipt,
        db.session_transition_receipts.row (session_id, transition.state_cas.projection_epoch,
            transition.transition_id) = some receipt
          ∧ receipt.result.state_version = transition.state_version)
    ∧ (∀ clock call error after,
        StoreStep host db (.call clock call (.error error)) after → after = db) := by
  have hchain := state_chain hrun session_id
  exact ⟨hchain.chain run_id, hchain.produced, hchain.bases, hchain.ids, hchain.current run_id,
    hchain.receipts, fun _ _ _ _ hstep => rejected_unchanged hstep⟩

/-- The worked run's two commits: `r` is at revision 2, under the dispatch's receipt. -/
theorem sample_linearity :
    (committed_of_run "s" "r" (play_events sample_host Tables.empty sample_script)).map
        (·.state_cas.revision) = [0, 1]
      ∧ (sample_reserved.session_operation_states.row ("s", "r")
          = (committed_of_run "s" "r" (play_events sample_host Tables.empty
              sample_script)).getLast?.map (·.state_version)) :=
  ⟨by decide, (operation_state_linearity
    (play_run sample_host Tables.empty sample_script) "s" "r").2.2.2.2.1⟩

end CodingAgentLoop
