/-
Session runtime versions and the activation fence
(`coding_agent/runtime_activation.py`).

A session belongs to one runtime for life. Every save of a session payload goes
through `stamp_session_payload_for_save`, which fixes the version of a new
session and refuses a payload that would change the version of an existing one.
-/
import CodingAgentLoop.Errors
import CodingAgentLoop.Lib.Json

namespace CodingAgentLoop

open Lib Result

def RUNTIME_VERSION_LEGACY : String := "legacy"

def RUNTIME_VERSION_NEW : String := "agentkit-1"

def KNOWN_RUNTIME_VERSIONS : List String := [RUNTIME_VERSION_LEGACY, RUNTIME_VERSION_NEW]

/-- `parse_runtime_version(payload)`. The error's text goes on with the value it refuses. -/
def parse_runtime_version (payload : JsonObject) : Except StoreError String :=
  match payload.get "runtime_version" with
  | .null => .ok RUNTIME_VERSION_LEGACY
  | .str value =>
    if value ∈ KNOWN_RUNTIME_VERSIONS then .ok value
    else raise .UnknownRuntimeVersionError "unknown runtime_version"
  | _ => raise .UnknownRuntimeVersionError "unknown runtime_version"

def version_for_new_session (new_sessions_enabled : Bool) : String :=
  if new_sessions_enabled then RUNTIME_VERSION_NEW else RUNTIME_VERSION_LEGACY

def incoming_runtime_version (incoming : JsonObject) : Except StoreError (Option String) :=
  if incoming.get "runtime_version" = .null then .ok none
  else some <$> parse_runtime_version incoming

section

variable (incoming : JsonObject) (stored : Option JsonObject) (new_sessions_enabled : Bool)

def stamped_version : Except StoreError String := do
  let parsed_incoming ← incoming_runtime_version incoming
  match stored with
  | none =>
    match parsed_incoming with
    | none => return version_for_new_session new_sessions_enabled
    | some version => do
        raise_if (new_sessions_enabled = false ∧ version = RUNTIME_VERSION_NEW)
          .CrossVersionWriteError
          "new-runtime sessions cannot be created while activation is off"
        return version
  | some stored => do
      let stored_version ← parse_runtime_version stored
      raise_if (∃ version ∈ parsed_incoming, version ≠ stored_version) .CrossVersionWriteError
        "session runtime_version is immutable"
      return stored_version

def stamp_session_payload_for_save : Except StoreError JsonObject := do
  let version ← stamped_version incoming stored new_sessions_enabled
  return incoming.set "runtime_version" (.str version)

end

def assert_effect_status_allowed (status runtime_version : String) : Except StoreError Unit := do
  raise_if (status = "") .ValueError "status must be non-empty"
  raise_if (runtime_version ∉ KNOWN_RUNTIME_VERSIONS) .UnknownRuntimeVersionError
    "unknown runtime_version"
  raise_if (runtime_version = RUNTIME_VERSION_NEW ∧ status = "settled")
    .NewRuntimeSettledWriteError "new-runtime sessions cannot write settled"

/-! ## What a stamp says -/

variable {version : String}

theorem parse_runtime_version_known {payload : JsonObject}
    (h : parse_runtime_version payload = .ok version) : version ∈ KNOWN_RUNTIME_VERSIONS := by
  unfold parse_runtime_version at h
  split at h
  · cases h
    decide
  · split at h
    · next hmem =>
      cases h
      exact hmem
    · exact absurd h (by simp)
  · exact absurd h (by simp)

theorem parse_set_version (payload : JsonObject) (h : version ∈ KNOWN_RUNTIME_VERSIONS) :
    parse_runtime_version (payload.set "runtime_version" (.str version)) = .ok version := by
  unfold parse_runtime_version
  rw [JsonObject.get_set_self]
  simp [h]

variable {new_sessions_enabled : Bool}

theorem stamp_eq_ok {incoming stamped : JsonObject} {stored : Option JsonObject} :
    stamp_session_payload_for_save incoming stored new_sessions_enabled = .ok stamped ↔
      ∃ version, stamped_version incoming stored new_sessions_enabled = .ok version
        ∧ stamped = incoming.set "runtime_version" (.str version) := by
  simp only [stamp_session_payload_for_save, bind_eq_ok, pure_eq_ok,
    eq_comm (b := stamped)]

theorem stamped_version_stored {incoming stored : JsonObject}
    (h : stamped_version incoming (some stored) new_sessions_enabled = .ok version) :
    parse_runtime_version stored = .ok version := by
  simp only [stamped_version, bind_eq_ok, pure_eq_ok] at h
  obtain ⟨_, -, stored_version, hparse, _, -, rfl⟩ := h
  exact hparse

theorem stamped_version_new {incoming : JsonObject}
    (h : stamped_version incoming none new_sessions_enabled = .ok version) :
    version ∈ KNOWN_RUNTIME_VERSIONS
      ∧ (version = RUNTIME_VERSION_NEW → new_sessions_enabled = true) := by
  simp only [stamped_version, bind_eq_ok] at h
  obtain ⟨parsed_incoming, hincoming, h⟩ := h
  cases parsed_incoming with
  | none =>
    rw [pure_eq_ok] at h
    subst h
    cases new_sessions_enabled <;> decide
  | some incoming_version =>
    simp only [check_bind_eq_ok, raise_if_eq_ok, pure_eq_ok] at h
    obtain ⟨hoff, rfl⟩ := h
    have hparse : parse_runtime_version incoming = .ok incoming_version := by
      unfold incoming_runtime_version at hincoming
      split at hincoming
      · cases hincoming
      · obtain ⟨_, hparse, hsome⟩ := map_eq_ok.mp hincoming
        cases hsome
        exact hparse
    refine ⟨parse_runtime_version_known hparse, ?_⟩
    intro hnew
    by_contra hdisabled
    exact hoff ⟨Bool.eq_false_iff.mpr hdisabled, hnew⟩

theorem stamped_version_known {incoming : JsonObject} {stored : Option JsonObject}
    (h : stamped_version incoming stored new_sessions_enabled = .ok version) :
    version ∈ KNOWN_RUNTIME_VERSIONS := by
  cases stored with
  | none => exact (stamped_version_new h).1
  | some stored => exact parse_runtime_version_known (stamped_version_stored h)

end CodingAgentLoop
