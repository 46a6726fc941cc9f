/-
What a call of the ledger does.

`LedgerStep` lists what a call that returns may have done. Every method raises before it writes,
so a call that raises did nothing: `run_steps`. The invariant of the ledger is proved by the cases
of `LedgerStep`. It says that ids are fresh, that only a completed attempt is settled, and that
the generations under one original are consecutive, so that the latest attempt is the last listed.
-/
import CodingAgentLoop.Compensation
import Mathlib.Data.List.Chain

namespace CodingAgentLoop

open Lib Table Action CompensationLedger List

/-! ## Calls -/

inductive LedgerCall where
  | establish_approval_wait (fence : JsonObject) (run_id approval_id : String)
  | restore (checkpoint_id : String) (projection_epoch : Int)
  | approve (fence : JsonObject) (approval_id : String)
  | set_attempt_state (effect_id : Int) (state : String)
  | compensate (fence : JsonObject) (original_effect_id : Int) (client_key : String)
      (generation : Json)
  | resolve_settlement (effect_id : Int)
  | repair (fence : JsonObject) (original_effect_id : Int) (observation : String)

/-- What a call returns. -/
inductive LedgerResult where
  | done
  | wait (wait : ApprovalWait)
  | approval (result : ApprovalResult)
  | receipt (receipt : CompensationReceipt)
  | repair (result : RepairResult)

/-- The call's own action. -/
def LedgerCall.run : LedgerCall → LedgerAction LedgerResult
  | .establish_approval_wait fence run_id approval_id => do
      let wait ← CompensationCall.establish_approval_wait fence run_id approval_id
      pure (.wait wait)
  | .restore checkpoint_id projection_epoch => do
      CompensationCall.restore checkpoint_id projection_epoch
      pure .done
  | .approve fence approval_id => do
      let result ← CompensationCall.approve fence approval_id
      pure (.approval result)
  | .set_attempt_state effect_id state => do
      CompensationCall.set_attempt_state effect_id state
      pure .done
  | .compensate fence original_effect_id client_key generation => do
      let receipt ← CompensationCall.compensate fence original_effect_id client_key generation
      pure (.receipt receipt)
  | .resolve_settlement effect_id => do
      CompensationCall.resolve_settlement effect_id
      pure .done
  | .repair fence original_effect_id observation => do
      let result ← CompensationCall.repair fence original_effect_id observation
      pure (.repair result)

/-! ## What a call does -/

/-- How a call other than `repair` changes the attempt it writes. -/
inductive AttemptChange : LedgerCall → Int → CompensationAttempt → CompensationAttempt → Prop
  | counted {fence : JsonObject} {approval_id : String} {effect_id : Int}
      {attempt : CompensationAttempt}
      (hstate : attempt.state = .dispatched ∨ attempt.state = .unknown)
      (hcount : attempt.dispatch_count = 0) :
      AttemptChange (.approve fence approval_id) effect_id attempt
        { attempt with dispatch_count := 1 }
  | approved {fence : JsonObject} {approval_id : String} {effect_id : Int}
      {attempt : CompensationAttempt}
      (hstate : attempt.state = .prepared) :
      AttemptChange (.approve fence approval_id) effect_id attempt
        { attempt with state := .dispatched, dispatch_count := attempt.dispatch_count + 1 }
  | set {effect_id : Int} {text : String} {state : CompensationState}
      {attempt : CompensationAttempt} (hstate : state ∈ ATTEMPT_TRANSITIONS attempt.state) :
      AttemptChange (.set_attempt_state effect_id text) effect_id attempt
        (CompensationCall.moved attempt state)
  | promoted {effect_id : Int} {text : String} {state : CompensationState}
      {attempt : CompensationAttempt} (hprepared : attempt.state = .prepared)
      (hstate : state ∈ ATTEMPT_TRANSITIONS .dispatched) :
      AttemptChange (.set_attempt_state effect_id text) effect_id attempt
        { attempt with state, dispatch_count := 1 }
  | resolved {effect_id : Int} {attempt : CompensationAttempt}
      (hstate : attempt.state = .completed) :
      AttemptChange (.resolve_settlement effect_id) effect_id attempt
        { attempt with settlement := .resolved }

/-- What a call that returns has done to the ledger. -/
inductive LedgerStep (ledger : CompensationLedger) :
    LedgerCall → LedgerResult → CompensationLedger → Prop
  | waits {fence : JsonObject} {run_id approval_id : String} {wait : ApprovalWait} :
      LedgerStep ledger (.establish_approval_wait fence run_id approval_id) (.wait wait) ledger
  | waited {fence : JsonObject} {run_id approval_id session_id : String} {wait : ApprovalWait}
      (hwait : wait = { session_id, run_id, approval_id, effect_id := ledger.next_effect_id }) :
      LedgerStep ledger (.establish_approval_wait fence run_id approval_id) (.wait wait)
        { ledger with
          next_effect_id := ledger.next_effect_id + 1
          approval_waits := ledger.approval_waits.put approval_id wait
          attempts := ledger.attempts.put ledger.next_effect_id
            { original_effect_id := ledger.next_effect_id
              generation := 0
              state := .prepared
              settlement := .absent
              session_id } }
  | restored {checkpoint_id : String} {projection_epoch : Int} :
      LedgerStep ledger (.restore checkpoint_id projection_epoch) .done
        { ledger with checkpoint_id := some checkpoint_id, projection_epoch }
  | blocked {fence : JsonObject} {approval_id : String} {result : ApprovalResult} :
      LedgerStep ledger (.approve fence approval_id) (.approval result) ledger
  | changed {call : LedgerCall} {result : LedgerResult} {effect_id : Int}
      {attempt attempt' : CompensationAttempt}
      (hattempt : ledger.attempts.row effect_id = some attempt)
      (hchange : AttemptChange call effect_id attempt attempt') :
      LedgerStep ledger call result (ledger.put_attempt effect_id attempt')
  | replayed {fence : JsonObject} {original_effect_id : Int} {client_key session_id : String}
      {generation : Json} {identity : ReceiptIdentity} {receipt : CompensationReceipt}
      (hsession : CompensationCall.session_of? fence = some session_id)
      (hreceipt : ledger.receipts.row (session_id, original_effect_id, client_key)
        = some identity)
      (hgeneration : receipt.generation = identity.generation)
      (heffect : receipt.compensation_effect_id = identity.compensation_effect_id) :
      LedgerStep ledger (.compensate fence original_effect_id client_key generation)
        (.receipt receipt) ledger
  | admitted {fence : JsonObject} {original_effect_id : Int} {client_key session_id : String}
      {generation : Json} {receipt : CompensationReceipt}
      (hsession : CompensationCall.session_of? fence = some session_id)
      (hreceipt : ledger.receipts.row (session_id, original_effect_id, client_key) = none)
      (hlatest : ∀ latest, ledger.latest_attempt original_effect_id = some latest →
        receipt.generation = latest.2.generation + 1)
      (heffect : receipt.compensation_effect_id = ledger.next_effect_id) :
      LedgerStep ledger (.compensate fence original_effect_id client_key generation)
        (.receipt receipt)
        (CompensationCall.record_admission ledger session_id original_effect_id client_key
          receipt.generation)
  | observed {fence : JsonObject} {original_effect_id : Int} {observation : String}
      {result : RepairResult} (hwrites : result.atomic_writes = []) :
      LedgerStep ledger (.repair fence original_effect_id observation) (.repair result) ledger
  | repaired {fence : JsonObject} {original_effect_id effect_id : Int} {observation : String}
      {result : RepairResult} {attempt attempt' : CompensationAttempt}
      (hsession : CompensationCall.session_of? fence = some attempt.session_id)
      (hlatest : ledger.latest_attempt original_effect_id = some (effect_id, attempt))
      (hrepaired : CompensationCall.repaired attempt observation
        = .ok (attempt', result.atomic_writes))
      (hwrites : result.atomic_writes ≠ []) :
      LedgerStep ledger (.repair fence original_effect_id observation) (.repair result)
        ((ledger.put_attempt effect_id attempt').bump_cas original_effect_id)

/-- The action does what a step of the call does, and changes nothing where it raises. -/
abbrev Steps (ledger : CompensationLedger) (call : LedgerCall) {α : Type}
    (result : α → LedgerResult) (action : LedgerAction α) : Prop :=
  Ensures (fun state => state = ledger) action
    (fun a after => LedgerStep ledger call (result a) after) (fun state => state = ledger)

/-- The action only looks at the ledger, and returns something of which `found` is true. -/
abbrev Finds (ledger : CompensationLedger) {α : Type} (action : LedgerAction α)
    (found : α → Prop) : Prop :=
  Ensures (fun state => state = ledger) action (fun a state => state = ledger ∧ found a)
    (fun state => state = ledger)

section Steps

open CompensationCall

variable {ledger : CompensationLedger}

theorem Finds.before {α β : Type} {action : LedgerAction α} {found : α → Prop}
    {next : α → LedgerAction β} {post : β → CompensationLedger → Prop}
    (h : Finds ledger action found)
    (hnext : ∀ a, found a → Ensures (fun state => state = ledger) (next a) post
      (fun state => state = ledger)) :
    Ensures (fun state => state = ledger) (action >>= next) post (fun state => state = ledger) :=
  Ensures.bind h (fun a => Ensures.given (hnext a))

theorem finds_get : Finds ledger Action.get (fun state => state = ledger) :=
  Ensures.get (fun _ h => ⟨h, h⟩)

theorem finds_refuse {α : Type} {cls : ErrorClass} {message : String} {found : α → Prop} :
    Finds ledger (refuse cls message) found :=
  Ensures.raise (fun _ h => h)

theorem finds_when {condition : Prop} [Decidable condition] {error : CompensationError} :
    Finds ledger (when condition (Action.raise error)) (fun _ => ¬ condition) := by
  unfold when
  by_cases h : condition
  · rw [if_pos h]
    exact Ensures.raise (fun _ h => h)
  · rw [if_neg h]
    exact Ensures.pure (fun _ hstate => ⟨hstate, h⟩)

theorem finds_session_id (fence : JsonObject) :
    Finds ledger (session_id fence) (fun found => session_of? fence = some found) := by
  unfold CompensationCall.session_id
  cases h : session_of? fence with
  | none => exact finds_refuse
  | some found => exact Ensures.pure (fun _ hstate => ⟨hstate, rfl⟩)

theorem get_attempt_run {effect_id : Int} {attempt : CompensationAttempt}
    (h : ledger.attempts.row effect_id = some attempt) :
    get_attempt effect_id ledger = (.ok attempt, ledger) := by
  unfold get_attempt
  rw [bind_ok (get_run ledger), h]
  rfl

theorem finds_attempt (effect_id : Int) :
    Finds ledger (get_attempt effect_id)
      (fun attempt => ledger.attempts.row effect_id = some attempt) := by
  unfold get_attempt
  refine finds_get.before (fun state hstate => ?_)
  subst hstate
  cases h : state.attempts.row effect_id with
  | none => exact finds_refuse
  | some attempt => exact Ensures.pure (fun _ hstate => ⟨hstate, rfl⟩)

theorem finds_receipt (identity : ReceiptIdentity) :
    Finds ledger (receipt identity) (fun receipt => receipt.generation = identity.generation
      ∧ receipt.compensation_effect_id = identity.compensation_effect_id) := by
  unfold receipt
  exact (finds_attempt _).before (fun attempt _ =>
    Ensures.pure (fun _ hstate => ⟨hstate, rfl, rfl⟩))

theorem writes_then {α : Type} {change : CompensationLedger → CompensationLedger} {a : α}
    {post : α → CompensationLedger → Prop} (h : post a (change ledger)) :
    Ensures (fun state => state = ledger)
      (do Action.modify change; pure a : LedgerAction α) post (fun state => state = ledger) := by
  intro state hstate
  subst hstate
  refine ⟨fun a' ha' => ?_, fun error herror => by cases herror⟩
  obtain rfl : a = a' := Except.ok.inj ha'
  exact h

theorem receipt_run {identity : ReceiptIdentity} {attempt : CompensationAttempt}
    (h : ledger.attempts.row identity.compensation_effect_id = some attempt) :
    receipt identity ledger = (.ok
      { generation := identity.generation
        compensation_effect_id := identity.compensation_effect_id
        attempt_state := attempt.state
        settlement := attempt.settlement }, ledger) := by
  unfold receipt
  rw [bind_ok (get_attempt_run h)]
  rfl

theorem establish_approval_wait_steps (fence : JsonObject) (run_id approval_id : String) :
    Steps ledger (.establish_approval_wait fence run_id approval_id) .wait
      (establish_approval_wait fence run_id approval_id) := by
  unfold establish_approval_wait
  refine (finds_session_id fence).before (fun session_id hsession => ?_)
  refine finds_get.before (fun state hstate => ?_)
  subst hstate
  cases hwait : state.approval_waits.row approval_id with
  | some existing =>
    refine finds_when.before (fun _ _ => ?_)
    exact Ensures.pure (fun _ hstate => hstate ▸ .waits)
  | none => exact writes_then (.waited rfl)

theorem restore_steps (checkpoint_id : String) (projection_epoch : Int) :
    Steps ledger (.restore checkpoint_id projection_epoch) (fun _ => .done)
      (restore checkpoint_id projection_epoch) :=
  Ensures.modify (fun _ hstate => hstate ▸ .restored)

theorem approve_steps (fence : JsonObject) (approval_id : String) :
    Steps ledger (.approve fence approval_id) .approval (approve fence approval_id) := by
  unfold approve
  refine (finds_session_id fence).before (fun session_id hsession => ?_)
  refine finds_get.before (fun state hstate => ?_)
  subst hstate
  cases hwait : state.approval_waits.row approval_id with
  | none => exact Ensures.raise (fun _ h => h)
  | some wait =>
    refine finds_when.before (fun _ _ => ?_)
    refine (finds_attempt wait.effect_id).before (fun attempt hattempt => ?_)
    have hblocked {result : ApprovalResult} : Ensures (fun after => after = state)
        (pure result : LedgerAction ApprovalResult)
        (fun a after => LedgerStep state (.approve fence approval_id) (.approval a) after)
        (fun after => after = state) := Ensures.pure (fun _ hstate => hstate ▸ .blocked)
    have hcounted {result : ApprovalResult}
        (h : attempt.state = .dispatched ∨ attempt.state = .unknown) :
        Ensures (fun after => after = state)
          (do
            when (attempt.dispatch_count = 0)
              (Action.modify (fun ledger => ledger.put_attempt wait.effect_id
                { attempt with
                  dispatch_count :=
                    if attempt.dispatch_count = 0 then 1 else attempt.dispatch_count }))
            pure result : LedgerAction ApprovalResult)
          (fun a after => LedgerStep state (.approve fence approval_id) (.approval a) after)
          (fun after => after = state) := by
      unfold when
      by_cases hcount : attempt.dispatch_count = 0
      · rw [if_pos hcount, if_pos hcount]
        exact writes_then (.changed hattempt (.counted h hcount))
      · rw [if_neg hcount]
        exact hblocked
    dsimp only
    split
    · next h => exact hcounted (.inl h)
    · next h => exact hcounted (.inr h)
    · next h => exact writes_then (.changed hattempt (.approved h))
    · exact hblocked
    · exact hblocked


theorem move_attempt_steps (effect_id : Int) (text : String) (state : CompensationState) :
    Steps ledger (.set_attempt_state effect_id text) (fun _ => .done)
      (move_attempt effect_id state) := by
  unfold move_attempt
  refine (finds_attempt effect_id).before (fun attempt hattempt => ?_)
  refine finds_when.before (fun _ hstate => ?_)
  exact Ensures.modify (fun _ h => by subst h; exact .changed hattempt (.set (not_not.mp hstate)))

theorem move_attempt_run {effect_id : Int} {attempt : CompensationAttempt}
    {state : CompensationState} (hattempt : ledger.attempts.row effect_id = some attempt)
    (hstate : state ∈ ATTEMPT_TRANSITIONS attempt.state) :
    move_attempt effect_id state ledger
      = (.ok (), ledger.put_attempt effect_id (moved attempt state)) := by
  unfold move_attempt when
  rw [bind_ok (get_attempt_run hattempt), if_neg (not_not.mpr hstate)]
  rfl

theorem set_attempt_state_steps (effect_id : Int) (text : String) :
    Steps ledger (.set_attempt_state effect_id text) (fun _ => .done)
      (set_attempt_state effect_id text) := by
  unfold set_attempt_state
  cases CompensationState.of_name? text with
  | none => exact Ensures.raise (fun _ h => h)
  | some state =>
    refine (finds_attempt effect_id).before (fun attempt hattempt => ?_)
    unfold when
    by_cases hpromoted : attempt.state = .prepared ∧ state ∈ [.unknown, .failed, .completed]
    · rw [if_pos hpromoted]
      intro before hbefore
      subst hbefore
      -- a dispatched attempt may go to each of the states it is promoted for
      have hrun : move_attempt effect_id state (before.put_attempt effect_id
          { attempt with state := .dispatched, dispatch_count := 1 }) = _ :=
        move_attempt_run (row_put_self _ _ _) hpromoted.2
      rw [bind_ok (modify_run _ _), hrun]
      refine ⟨fun _ _ => ?_, fun _ herror => by cases herror⟩
      have hmoved : moved { attempt with state := .dispatched, dispatch_count := 1 } state
          = { attempt with state, dispatch_count := 1 } := by
        unfold moved
        rw [if_neg (fun h => Nat.one_ne_zero h.2)]
      rw [hmoved]
      unfold CompensationLedger.put_attempt
      rw [put_put]
      exact .changed hattempt (.promoted hpromoted.1 hpromoted.2)
    · rw [if_neg hpromoted]
      exact Ensures.bind (Ensures.pure (fun _ h => h)) (fun _ => move_attempt_steps _ _ _)

theorem check_latest_finds (latest : Option (Int × CompensationAttempt))
    {check : CompensationAttempt → LedgerAction Unit} {fact : CompensationAttempt → Prop}
    (h : ∀ attempt, Finds ledger (check attempt) (fun _ => fact attempt)) :
    Finds ledger (check_latest latest check)
      (fun _ => ∀ found, latest = some found → fact found.2) := by
  unfold check_latest
  cases latest with
  | none => exact Ensures.pure (fun _ hstate => ⟨hstate, fun _ hfound => by cases hfound⟩)
  | some found =>
    refine (h found.2).mono (fun _ hstate => hstate) ?_ (fun _ hstate => hstate)
    rintro _ state ⟨hstate, hfact⟩
    refine ⟨hstate, fun other hother => ?_⟩
    obtain rfl : found = other := Option.some.inj hother
    exact hfact

theorem check_admission_finds (original_effect_id : Int) (session_id : String) (generation : Int) :
    Finds ledger (check_admission ledger original_effect_id session_id generation)
      (fun _ => ∀ latest, ledger.latest_attempt original_effect_id = some latest →
        generation = latest.2.generation + 1) := by
  unfold check_admission
  refine Finds.before (check_latest_finds _ (fun attempt => finds_when)) (fun _ _ => ?_)
  refine finds_when.before (fun _ _ => ?_)
  refine (check_latest_finds _ (fun attempt => finds_when)).mono (fun _ h => h) ?_ (fun _ h => h)
  rintro _ state ⟨hstate, hlatest⟩
  exact ⟨hstate, fun latest hfound => not_not.mp (hlatest latest hfound)⟩

theorem compensate_steps (fence : JsonObject) (original_effect_id : Int) (client_key : String)
    (generation : Json) :
    Steps ledger (.compensate fence original_effect_id client_key generation) .receipt
      (compensate fence original_effect_id client_key generation) := by
  unfold compensate
  cases hgeneration : generation? generation with
  | none => exact Ensures.raise (fun _ h => h)
  | some number =>
    refine (finds_session_id fence).before (fun session_id hsession => ?_)
    refine finds_get.before (fun state hstate => ?_)
    subst hstate
    cases hreceipt : state.receipts.row (session_id, original_effect_id, client_key) with
    | some existing =>
      refine (finds_receipt existing).mono (fun _ h => h) ?_ (fun _ h => h)
      rintro receipt after ⟨rfl, hnumber, heffect⟩
      exact .replayed hsession hreceipt hnumber heffect
    | none =>
      refine (check_admission_finds original_effect_id session_id number).before
        (fun _ hlatest => ?_)
      intro before hbefore
      subst hbefore
      have hadmitted : (record_admission before session_id original_effect_id client_key
          number).attempts.row before.next_effect_id = some
            { original_effect_id, generation := number, state := .prepared,
              settlement := .absent, session_id } := row_put_self _ _ _
      have hrun : receipt
          { generation := number, compensation_effect_id := before.next_effect_id }
          (record_admission before session_id original_effect_id client_key number) = _ :=
        receipt_run hadmitted
      rw [bind_ok (modify_run _ _), hrun]
      refine ⟨fun found hfound => ?_, fun _ herror => by cases herror⟩
      obtain rfl := Except.ok.inj hfound
      exact .admitted hsession hreceipt hlatest rfl

theorem resolve_settlement_steps (effect_id : Int) :
    Steps ledger (.resolve_settlement effect_id) (fun _ => .done)
      (resolve_settlement effect_id) := by
  unfold resolve_settlement
  refine (finds_attempt effect_id).before (fun attempt hattempt => ?_)
  refine finds_when.before (fun _ hstate => ?_)
  exact Ensures.modify (fun _ h => by
    subst h
    exact .changed hattempt (.resolved (not_not.mp hstate)))

theorem repair_steps (fence : JsonObject) (original_effect_id : Int) (observation : String) :
    Steps ledger (.repair fence original_effect_id observation) .repair
      (repair fence original_effect_id observation) := by
  unfold repair
  refine (finds_session_id fence).before (fun session_id hsession => ?_)
  refine finds_when.before (fun _ _ => ?_)
  refine finds_get.before (fun state hstate => ?_)
  subst hstate
  cases hlatest : state.latest_attempt original_effect_id with
  | none => exact Ensures.raise (fun _ h => h)
  | some latest =>
    obtain ⟨effect_id, attempt⟩ := latest
    refine finds_when.before (fun _ howner => ?_)
    have hsession : session_of? fence = some attempt.session_id := by
      rw [hsession, not_not.mp howner]
    cases hrepaired : repaired attempt observation with
    | error error => exact Ensures.raise (fun _ h => h)
    | ok repair =>
      obtain ⟨attempt', writes⟩ := repair
      refine Ensures.bind
        (Ensures.lift (Q := fun a after => after = state ∧ a = (attempt', writes))
        (fun a ha _ h => ⟨h, (Except.ok.inj ha).symm⟩) (fun _ h => by cases h)) ?_
      rintro repair
      refine Ensures.given (fun hrepair => ?_)
      subst hrepair
      unfold when
      by_cases hwrites : writes = []
      · rw [if_neg (not_not.mpr hwrites)]
        exact Ensures.pure (fun _ h => h ▸ .observed hwrites)
      · rw [if_pos hwrites]
        exact writes_then (.repaired hsession hlatest hrepaired hwrites)

theorem run_steps (call : LedgerCall) : Steps ledger call id call.run := by
  have hreturned {α : Type} {result : α → LedgerResult} {action : LedgerAction α}
      (h : Steps ledger call result action) :
      Steps ledger call id (do let a ← action; pure (result a)) :=
    Ensures.bind h (fun _ => Ensures.pure (fun _ hstep => hstep))
  cases call with
  | establish_approval_wait fence run_id approval_id =>
    exact hreturned (establish_approval_wait_steps fence run_id approval_id)
  | restore checkpoint_id projection_epoch =>
    exact hreturned (restore_steps checkpoint_id projection_epoch)
  | approve fence approval_id => exact hreturned (approve_steps fence approval_id)
  | set_attempt_state effect_id state =>
    exact hreturned (set_attempt_state_steps effect_id state)
  | compensate fence original_effect_id client_key generation =>
    exact hreturned (compensate_steps fence original_effect_id client_key generation)
  | resolve_settlement effect_id => exact hreturned (resolve_settlement_steps effect_id)
  | repair fence original_effect_id observation =>
    exact hreturned (repair_steps fence original_effect_id observation)

end Steps

/-! ## The ledger's invariant -/

abbrev Consecutive (generations : List Int) : Prop :=
  generations.IsChain (fun generation next => next = generation + 1)

/-- What holds of the ledger after every history. -/
structure CompensationLedger.Sound (ledger : CompensationLedger) : Prop where
  fresh : ∀ effect_id, ledger.next_effect_id ≤ effect_id → ledger.attempts.row effect_id = none
  settled : ∀ effect_id attempt, ledger.attempts.row effect_id = some attempt →
    attempt.settlement = .resolved → attempt.state = .completed
  listed : ∀ original_effect_id, ∀ effect_id ∈ ledger.attempt_ids original_effect_id,
    (ledger.attempts.row effect_id).isSome
  consecutive : ∀ original_effect_id,
    Consecutive ((ledger.attempt_ids original_effect_id).map ledger.generation_of)
  receipted : ∀ key identity, ledger.receipts.row key = some identity →
    (ledger.attempts.row identity.compensation_effect_id).isSome

theorem CompensationLedger.init_sound {first_effect_id : Int} {ledger : CompensationLedger}
    (h : init first_effect_id = .ok ledger) : ledger.Sound := by
  unfold init at h
  by_cases hneg : first_effect_id < 0
  · rw [if_pos hneg] at h
    cases h
  · rw [if_neg hneg] at h
    obtain rfl := Except.ok.inj h
    exact
      { fresh := fun _ _ => rfl
        settled := fun _ _ hattempt => by cases hattempt
        listed := fun _ _ hlisted => by cases hlisted
        consecutive := fun _ => List.IsChain.nil
        receipted := fun _ _ hreceipt => by cases hreceipt }

theorem Consecutive.le_last {generations : List Int} {last : Int} (h : Consecutive generations)
    (hlast : last ∈ generations.getLast?) {generation : Int} (hmem : generation ∈ generations) :
    generation ≤ last := by
  have hsorted : generations.Pairwise (· < ·) := by
    rw [← isChain_iff_pairwise]
    exact h.imp (fun _ _ hnext => by omega)
  obtain ⟨earlier, rfl⟩ : ∃ earlier, generations = earlier ++ [last] :=
    ⟨generations.dropLast, (dropLast_append_getLast? last hlast).symm⟩
  rw [mem_append, mem_singleton] at hmem
  rcases hmem with hmem | rfl
  · have hlt : generation < last :=
      (pairwise_append.mp hsorted).2.2 generation hmem last (mem_singleton.mpr rfl)
    omega
  · exact le_rfl

theorem row_of_latest {ledger : CompensationLedger} {original_effect_id effect_id : Int}
    {attempt : CompensationAttempt}
    (h : ledger.latest_attempt original_effect_id = some (effect_id, attempt)) :
    ledger.attempts.row effect_id = some attempt := by
  unfold CompensationLedger.latest_attempt at h
  obtain ⟨latest, _, hrow⟩ := Option.bind_eq_some_iff.mp h
  obtain ⟨found, hfound, hpair⟩ := Option.map_eq_some_iff.mp hrow
  obtain ⟨rfl, rfl⟩ := Prod.mk.inj hpair
  exact hfound

variable {attempt attempt' : CompensationAttempt}

theorem AttemptChange.generation {call : LedgerCall} {effect_id : Int}
    (h : AttemptChange call effect_id attempt attempt') :
    attempt'.generation = attempt.generation := by
  cases h <;> rfl

theorem AttemptChange.settled {call : LedgerCall} {effect_id : Int}
    {attempt attempt' : CompensationAttempt}
    (hsettled : attempt.settlement = .resolved → attempt.state = .completed)
    (h : AttemptChange call effect_id attempt attempt') :
    attempt'.settlement = .resolved → attempt'.state = .completed := by
  intro hresolved
  cases h with
  | counted _ _ => exact hsettled hresolved
  | approved hstate =>
    rw [hsettled hresolved] at hstate
    cases hstate
  | set hstate =>
    rw [hsettled hresolved] at hstate
    cases hstate
  | promoted hprepared _ =>
    rw [hsettled hresolved] at hprepared
    cases hprepared
  | resolved hstate => exact hstate

/-- What `repair` makes of an attempt. -/
inductive RepairChange (attempt : CompensationAttempt) :
    CompensationAttempt → List (String × String) → Prop
  | nothing : RepairChange attempt attempt []
  | failed (hsettlement : attempt.settlement ≠ .resolved)
      (hstate : attempt.state ∉ TERMINAL_ATTEMPT_STATES) :
      RepairChange attempt { attempt with state := .failed } [("attempt_a", "failed")]
  | completed (hstate : attempt.state ≠ .failed ∧ attempt.state ≠ .completed) :
      RepairChange attempt { attempt with state := .completed, settlement := .resolved }
        [("attempt_a", "completed"), ("settlement_b", "resolved")]
  | settled (hstate : attempt.state = .completed) :
      RepairChange attempt { attempt with settlement := .resolved } [("settlement_b", "resolved")]

variable {writes : List (String × String)} {observation : String}

theorem repaired_change
    (h : CompensationCall.repaired attempt observation = .ok (attempt', writes)) :
    RepairChange attempt attempt' writes := by
  unfold CompensationCall.repaired at h
  split at h
  · next hfailed =>
    split at h
    · next hstate =>
      cases h
      exact .failed hfailed.1 hstate
    · cases h
      exact .nothing
  · split at h
    · split at h
      · cases h
      · next hnot =>
        split at h
        · next hstate =>
          cases h
          exact .completed ⟨hnot, hstate⟩
        · next hstate =>
          cases h
          exact .settled (not_not.mp hstate)
    · cases h
      exact .nothing

theorem repaired_generation
    (h : CompensationCall.repaired attempt observation = .ok (attempt', writes)) :
    attempt'.generation = attempt.generation := by
  cases repaired_change h <;> rfl

theorem repaired_settled (hsettled : attempt.settlement = .resolved → attempt.state = .completed)
    (h : CompensationCall.repaired attempt observation = .ok (attempt', writes)) :
    attempt'.settlement = .resolved → attempt'.state = .completed := by
  intro hresolved
  cases repaired_change h with
  | nothing => exact hsettled hresolved
  | failed hsettlement _ => exact absurd hresolved hsettlement
  | completed _ => rfl
  | settled hstate => exact hstate

namespace CompensationLedger.Sound

variable {ledger : CompensationLedger}

variable {effect_id : Int}

theorem ne_next (h : ledger.Sound) (hattempt : (ledger.attempts.row effect_id).isSome) :
    effect_id ≠ ledger.next_effect_id := by
  rintro rfl
  rw [h.fresh _ le_rfl] at hattempt
  cases hattempt

theorem latest_of_last (h : ledger.Sound) {original_effect_id last : Int}
    (hlast : last ∈ ((ledger.attempt_ids original_effect_id).map ledger.generation_of).getLast?) :
    ∃ effect_id attempt, ledger.latest_attempt original_effect_id = some (effect_id, attempt)
      ∧ attempt.generation = last := by
  obtain ⟨listed, hlisted, hgeneration⟩ := mem_map.mp (List.mem_of_getLast? hlast)
  cases hmax : (ledger.attempt_ids original_effect_id).argmax ledger.generation_of with
  | none =>
    rw [argmax_eq_none.mp hmax] at hlisted
    cases hlisted
  | some effect_id =>
    have hmem : effect_id ∈ ledger.attempt_ids original_effect_id := argmax_mem hmax
    obtain ⟨attempt, hattempt⟩ := Option.isSome_iff_exists.mp (h.listed _ _ hmem)
    refine ⟨effect_id, attempt, ?_, ?_⟩
    · unfold latest_attempt
      rw [hmax, Option.bind_some, hattempt]
      rfl
    · have hvalue : ledger.generation_of effect_id = attempt.generation := by
        unfold generation_of
        rw [hattempt]
        rfl
      have hle : ledger.generation_of effect_id ≤ last :=
        (h.consecutive original_effect_id).le_last hlast (mem_map_of_mem hmem)
      have hge : ledger.generation_of listed ≤ ledger.generation_of effect_id :=
        le_of_mem_argmax hlisted hmax
      omega

theorem generation_put_attempt (_ : ledger.Sound) {attempt attempt' : CompensationAttempt}
    (hattempt : ledger.attempts.row effect_id = some attempt)
    (hgeneration : attempt'.generation = attempt.generation) :
    (ledger.put_attempt effect_id attempt').generation_of = ledger.generation_of := by
  funext other
  unfold generation_of CompensationLedger.put_attempt
  by_cases hother : other = effect_id
  · rw [hother, row_put_self, hattempt]
    exact hgeneration
  · rw [row_put_of_ne _ _ hother]

theorem put_attempt (h : ledger.Sound) {attempt attempt' : CompensationAttempt}
    (hattempt : ledger.attempts.row effect_id = some attempt)
    (hgeneration : attempt'.generation = attempt.generation)
    (hsettled : attempt'.settlement = .resolved → attempt'.state = .completed) :
    (ledger.put_attempt effect_id attempt').Sound := by
  have hsome (other : Int) (hother : (ledger.attempts.row other).isSome) :
      ((ledger.attempts.put effect_id attempt').row other).isSome := by
    rw [row_put]
    split
    · rfl
    · exact hother
  have hgenerations := h.generation_put_attempt hattempt hgeneration
  exact
    { fresh := fun other hother => by
        have hne : other ≠ effect_id := by
          rintro rfl
          rw [h.fresh _ hother] at hattempt
          cases hattempt
        exact (row_put_of_ne _ _ hne).trans (h.fresh _ hother)
      settled := fun other found hfound hresolved => by
        by_cases hother : other = effect_id
        · subst hother
          obtain rfl : attempt' = found :=
            Option.some.inj ((row_put_self _ _ _).symm.trans hfound)
          exact hsettled hresolved
        · exact h.settled other found ((row_put_of_ne _ _ hother).symm.trans hfound) hresolved
      listed := fun original other hother => hsome other (h.listed original other hother)
      consecutive := fun original => by
        rw [hgenerations]
        exact h.consecutive original
      receipted := fun key identity hidentity => hsome _ (h.receipted key identity hidentity) }

section Next

variable (h : ledger.Sound) (attempt : CompensationAttempt)

include h

theorem row_put_next {effect_id : Int} {found : CompensationAttempt}
    (hfound : ledger.attempts.row effect_id = some found) :
    (ledger.attempts.put ledger.next_effect_id attempt).row effect_id = some found := by
  rw [row_put_of_ne _ _ (h.ne_next (by rw [hfound]; rfl))]
  exact hfound

theorem isSome_put_next {effect_id : Int} (hsome : (ledger.attempts.row effect_id).isSome) :
    ((ledger.attempts.put ledger.next_effect_id attempt).row effect_id).isSome := by
  rw [row_put_of_ne _ _ (h.ne_next hsome)]
  exact hsome

theorem map_generation_put_next (original_effect_id : Int) :
    (ledger.attempt_ids original_effect_id).map (fun effect_id =>
        (((ledger.attempts.put ledger.next_effect_id attempt).row effect_id).map
          (·.generation)).getD 0)
      = (ledger.attempt_ids original_effect_id).map ledger.generation_of := by
  refine map_congr_left (fun effect_id hlisted => ?_)
  rw [row_put_of_ne _ _ (h.ne_next (h.listed original_effect_id effect_id hlisted))]
  rfl

theorem put_next (hsettlement : attempt.settlement = .absent) :
    Sound { ledger with
      next_effect_id := ledger.next_effect_id + 1
      attempts := ledger.attempts.put ledger.next_effect_id attempt } where
  fresh effect_id hnext := by
    have hnext : ledger.next_effect_id + 1 ≤ effect_id := hnext
    show (ledger.attempts.put ledger.next_effect_id attempt).row effect_id = none
    rw [row_put_of_ne _ _ (by omega)]
    exact h.fresh effect_id (by omega)
  settled effect_id found hfound hresolved := by
    by_cases hnew : effect_id = ledger.next_effect_id
    · subst hnew
      obtain rfl : attempt = found :=
        Option.some.inj ((row_put_self _ _ _).symm.trans hfound)
      rw [hsettlement] at hresolved
      cases hresolved
    · exact h.settled effect_id found ((row_put_of_ne _ _ hnew).symm.trans hfound) hresolved
  listed original_effect_id effect_id hlisted :=
    h.isSome_put_next attempt (h.listed original_effect_id effect_id hlisted)
  consecutive original_effect_id := by
    have hsame := h.map_generation_put_next attempt original_effect_id
    exact (congrArg Consecutive hsame).mpr (h.consecutive original_effect_id)
  receipted key identity hidentity :=
    h.isSome_put_next attempt (h.receipted key identity hidentity)

end Next

theorem attempt_ids_admitted (session_id client_key : String)
    (original_effect_id generation other : Int) :
    (CompensationCall.record_admission ledger session_id original_effect_id client_key
        generation).attempt_ids other
      = if other = original_effect_id then
          ledger.attempt_ids original_effect_id ++ [ledger.next_effect_id]
        else ledger.attempt_ids other := by
  unfold attempt_ids CompensationCall.record_admission bump_cas
  show ((ledger.attempts_by_original.put original_effect_id
    (ledger.attempt_ids original_effect_id ++ [ledger.next_effect_id])).row other).getD [] = _
  rw [row_put]
  split
  · rfl
  · rfl

theorem generations_admitted (h : ledger.Sound) (session_id client_key : String)
    (original_effect_id generation other : Int) :
    ((CompensationCall.record_admission ledger session_id original_effect_id client_key
        generation).attempt_ids other).map
      (CompensationCall.record_admission ledger session_id original_effect_id client_key
        generation).generation_of
      = if other = original_effect_id then
          (ledger.attempt_ids original_effect_id).map ledger.generation_of ++ [generation]
        else (ledger.attempt_ids other).map ledger.generation_of := by
  have hnew : (CompensationCall.record_admission ledger session_id original_effect_id client_key
      generation).generation_of ledger.next_effect_id = generation := by
    unfold generation_of
    show (((ledger.attempts.put ledger.next_effect_id _).row ledger.next_effect_id).map
      (·.generation)).getD 0 = generation
    rw [row_put_self]
    rfl
  rw [attempt_ids_admitted]
  by_cases hother : other = original_effect_id
  · rw [if_pos hother, if_pos hother, map_append, map_singleton, hnew]
    exact congrArg (· ++ [generation]) (h.map_generation_put_next _ original_effect_id)
  · rw [if_neg hother, if_neg hother]
    exact h.map_generation_put_next _ other

theorem record_admission (h : ledger.Sound) {session_id client_key : String}
    {original_effect_id generation : Int}
    (hlatest : ∀ latest, ledger.latest_attempt original_effect_id = some latest →
      generation = latest.2.generation + 1) :
    (CompensationCall.record_admission ledger session_id original_effect_id client_key generation).Sound := by
  have hnext := h.put_next
    { original_effect_id, generation, state := .prepared, settlement := .absent, session_id } rfl
  have hnew : ((ledger.attempts.put ledger.next_effect_id
      { original_effect_id, generation, state := .prepared, settlement := .absent,
        session_id }).row ledger.next_effect_id).isSome := by
    rw [row_put_self]
    rfl
  refine
    { fresh := hnext.fresh
      settled := hnext.settled
      listed := fun other effect_id hlisted => ?_
      consecutive := fun other => ?_
      receipted := fun key identity hidentity => ?_ }
  · rw [attempt_ids_admitted] at hlisted
    by_cases hother : other = original_effect_id
    · rw [if_pos hother, mem_append, mem_singleton] at hlisted
      rcases hlisted with hlisted | rfl
      · exact hnext.listed original_effect_id effect_id hlisted
      · exact hnew
    · rw [if_neg hother] at hlisted
      exact hnext.listed other effect_id hlisted
  · rw [h.generations_admitted]
    by_cases hother : other = original_effect_id
    · rw [if_pos hother]
      refine (h.consecutive original_effect_id).append (isChain_singleton _) ?_
      intro last hlast first hfirst
      obtain rfl : generation = first := Option.some.inj hfirst
      obtain ⟨effect_id, attempt, hfound, rfl⟩ := h.latest_of_last hlast
      exact hlatest _ hfound
    · rw [if_neg hother]
      exact h.consecutive other
  · by_cases hkey : key = (session_id, original_effect_id, client_key)
    · subst hkey
      obtain rfl : _ = identity := Option.some.inj ((row_put_self _ _ _).symm.trans hidentity)
      exact hnew
    · exact hnext.receipted key identity ((row_put_of_ne _ _ hkey).symm.trans hidentity)

theorem step {call : LedgerCall} {result : LedgerResult} {ledger' : CompensationLedger}
    (h : ledger.Sound) (hstep : LedgerStep ledger call result ledger') : ledger'.Sound := by
  cases hstep with
  | waits => exact h
  | @waited _ _ _ session_id _ _ =>
    have hnext := h.put_next
      { original_effect_id := ledger.next_effect_id, generation := 0, state := .prepared,
        settlement := .absent, session_id } rfl
    exact ⟨hnext.fresh, hnext.settled, hnext.listed, hnext.consecutive, hnext.receipted⟩
  | restored => exact ⟨h.fresh, h.settled, h.listed, h.consecutive, h.receipted⟩
  | blocked => exact h
  | changed hattempt hchange =>
    exact h.put_attempt hattempt hchange.generation
      (hchange.settled (h.settled _ _ hattempt))
  | replayed _ _ _ _ => exact h
  | admitted _ _ hlatest _ => exact h.record_admission hlatest
  | observed _ => exact h
  | repaired _ hlatest hrepaired _ =>
    have hattempt := row_of_latest hlatest
    have hput := h.put_attempt hattempt (repaired_generation hrepaired)
      (repaired_settled (h.settled _ _ hattempt) hrepaired)
    exact ⟨hput.fresh, hput.settled, hput.listed, hput.consecutive, hput.receipted⟩

end CompensationLedger.Sound

end CodingAgentLoop
