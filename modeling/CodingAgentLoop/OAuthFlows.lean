/-
Device login flows beside each other (`server/oauth_flows.py`).

The task of a flow polls and exchanges in a thread and then stores its record. `cancel` marks the
flow and its task at once, so that a cancelled flow never comes to the store. But the store is
written outside the error handling: where an access fails the task ends and the flow stays pending.
`flows_end_truthfully` is about the runs in which no access fails.
-/
import CodingAgentLoop.OAuthRefresh
import CodingAgentLoop.Lib.Decimal
import CodingAgentLoop.Lib.TextLines
import Mathlib.Data.Fintype.EquivFin
import Mathlib.Data.List.DropRight

open Lib Lib.TextLines List Option

namespace CodingAgentLoop.OAuthFlows

open OAuthRefresh (AuthFile OAuthAccount OAuthProviderRecord)

/-! ## Labels -/

/-- `[a-z0-9]`. -/
def is_alnum (char : Char) : Bool := char.isLower || char.isDigit

/-- `re.sub(r"[^a-z0-9]+", "-", text)`, inside a match or not. -/
def dashed : Bool → Text → Text
  | _, [] => []
  | inside, char :: rest =>
    if is_alnum char then char :: dashed false rest
    else if inside then dashed true rest
    else '-' :: dashed true rest

def rstrip_dashes (text : Text) : Text := text.rdropWhile (· = '-')

def strip_dashes (text : Text) : Text := rstrip_dashes (text.dropWhile (· = '-'))

/-- `lower` is `str.lower`. -/
def sanitize_label (lower : Text → Text) (raw : Text) : Text :=
  strip_dashes ((strip_dashes (dashed false (lower raw))).take 31)

/-- The label of a claim, unless one of them is empty. -/
def claim_label (lower : Text → Text) (claim : Option Text) : Option Text := do
  let claim ← claim
  guard (claim ≠ [])
  let label := sanitize_label lower claim
  guard (label ≠ [])
  return label

def derive_label (lower : Text → Text) (account : OAuthAccount) : Text :=
  ((claim_label lower (account.email.map String.toList)).orElse fun _ =>
    claim_label lower (account.chatgpt_account_id.map (·.toList.take 12))).getD "account".toList

def provider_key (label : Text) : String := "codex:" ++ String.ofList label

/-- The candidates of `_allocate_label`. -/
def candidate (base : Text) : Nat → Text
  | 0 => base
  | n + 1 => rstrip_dashes (base.take 28) ++ '-' :: (toString (n + 2)).toList

theorem provider_key_toList (label : Text) :
    (provider_key label).toList = "codex:".toList ++ label := by
  simp [provider_key]

theorem exists_free (base : Text) (auth : AuthFile) :
    ∃ n, auth.row (provider_key (candidate base n)) = none := by
  by_contra hnone
  have hmem : ∀ n, provider_key (candidate base (n + 1)) ∈ auth.keys := fun n =>
    AList.mem_keys.mp (AList.lookup_isSome.mp (ne_none_iff_isSome.mp
      fun h => hnone ⟨n + 1, h⟩))
  refine not_injective_infinite_finite
    (fun n => (⟨_, hmem n⟩ : {key // key ∈ auth.keys})) (fun a b h => ?_)
  have hkeys := congrArg String.toList (congrArg Subtype.val h)
  simp only [provider_key_toList, candidate, append_cancel_left_eq, List.cons.injEq,
    true_and] at hkeys
  have hnumber := toString_injective (String.toList_injective hkeys)
  omega

/-- `_allocate_label`: the first candidate that no account has. -/
def allocate_label (lower : Text → Text) (account : OAuthAccount) (auth : AuthFile) : Text :=
  candidate (derive_label lower account) (Nat.find (exists_free (derive_label lower account) auth))

/-- A match of `CODEX_PROVIDER_KEY_PATTERN`, whose `$` also matches before a last newline. -/
def KeyMatches (key : String) : Prop :=
  ∃ label ending, key.toList = "codex".toList ++ label ++ ending ∧ ending ∈ [[], ['\n']] ∧
    (label = [] ∨ ∃ first rest, label = ':' :: first :: rest ∧ is_alnum first ∧
      (∀ char ∈ rest, is_alnum char ∨ char = '-') ∧ rest.length ≤ 30)

/-! ## Flows -/

inductive FlowState where
  | pending | authorized | error | expired | cancelled
  deriving DecidableEq

structure CodexOAuthFlow where
  requested_label : Option Text
  expires_at : Nat
  state : FlowState := .pending
  account_label : Option Text := none

/-- `flow.requested_label`, if it is true. -/
def CodexOAuthFlow.chosen (flow : CodexOAuthFlow) : Option Text :=
  flow.requested_label.filter (· ≠ [])

/-- What a call in a thread raises. -/
inductive Raised where
  | cancelled
  | http_status (status_code : Nat)
  | exception
  | base_exception

/-- The `except` clauses of `_run`. -/
def CodexOAuthFlow.failed (flow : CodexOAuthFlow) : Raised → CodexOAuthFlow
  | .cancelled => if flow.state = .pending then { flow with state := .cancelled } else flow
  | .http_status status_code =>
    { flow with state := if status_code = 403 ∨ status_code = 404 then .expired else .error }
  | .exception => { flow with state := .error }
  | .base_exception => flow

/-- Where the task of a flow is. -/
inductive Place where
  | scheduled | polling | exchanging | ended
  deriving DecidableEq

/-- A record that was stored, and the one its key had before. -/
structure Write where
  key : String
  record : OAuthProviderRecord
  replaced : Option OAuthProviderRecord

/-- A flow, its task, whether `_flows` has it, and what it stored. -/
structure FlowTask where
  flow : CodexOAuthFlow
  place : Place := .scheduled
  cancelling : Bool := false
  registered : Bool := true
  write : Option Write := none

inductive UpdateEnd where
  | returned | raised_before | raised_after

/-- How the store answers a flow, and what another process makes of the file between the accesses. -/
structure StoreAccess where
  load_raises : Bool := false
  meanwhile : Option AuthFile := none
  update : UpdateEnd := .returned

/-- The label of a record, or `none` when the load raises. -/
def label_for (lower : Text → Text) (flow : CodexOAuthFlow) (record : OAuthProviderRecord)
    (access : StoreAccess) (auth : AuthFile) : Option Text :=
  match flow.chosen with
  | some label => some label
  | none => if access.load_raises then none else some (allocate_label lower record.account auth)

/-- What happens to a flow: a call of `cancel`, or a step of its task up to the next await. -/
inductive Move where
  | cancel
  | start
  | poll (result : Except Raised Unit)
  | exchange (result : Except Raised OAuthProviderRecord) (access : StoreAccess)

namespace FlowTask

def cancel (task : FlowTask) : FlowTask :=
  if task.flow.state = .pending then
    { task with flow := { task.flow with state := .cancelled }, cancelling := true }
  else task

/-- `_prune`. -/
def prune (now : Nat) (task : FlowTask) : FlowTask :=
  { task with
    registered := task.registered ∧ ¬ (task.flow.state ≠ .pending ∧ task.flow.expires_at < now) }

/-- A task that is cancelled before it starts never runs. -/
def start (task : FlowTask) : FlowTask :=
  { task with place := if task.cancelling then .ended else .polling }

/-- What the await of a thread gives: `CancelledError` once the task is cancelled. -/
def receive {α : Type} (task : FlowTask) (result : Except Raised α) : Except Raised α :=
  if task.cancelling then .error .cancelled else result

def fail (task : FlowTask) (raised : Raised) : FlowTask :=
  { task with flow := task.flow.failed raised, place := .ended }

def poll (task : FlowTask) (result : Except Raised Unit) : FlowTask :=
  match task.receive result with
  | .error raised => task.fail raised
  | .ok () => { task with place := .exchanging }

/-- `_run` after the exchange. -/
def store_record (lower : Text → Text) (auth : AuthFile) (task : FlowTask)
    (record : OAuthProviderRecord) (access : StoreAccess) : FlowTask × AuthFile :=
  let ended := { task with place := .ended }
  if task.flow.state ≠ .pending then (ended, auth)
  else match label_for lower task.flow record access auth with
    | none => (ended, auth)
    | some label =>
      let auth := access.meanwhile.getD auth
      let key := provider_key label
      let stored := { ended with write := some ⟨key, record, auth.row key⟩ }
      match access.update with
      | .raised_before => (ended, auth)
      | .raised_after => (stored, auth.put key record)
      | .returned => ({ stored with
          flow := { task.flow with account_label := some label, state := .authorized } },
          auth.put key record)

def exchange (lower : Text → Text) (auth : AuthFile) (task : FlowTask)
    (result : Except Raised OAuthProviderRecord) (access : StoreAccess) : FlowTask × AuthFile :=
  match task.receive result with
  | .error raised => (task.fail raised, auth)
  | .ok record => task.store_record lower auth record access

def take (lower : Text → Text) (auth : AuthFile) (task : FlowTask) :
    Move → Option (FlowTask × AuthFile)
  | .cancel => if task.registered then some (task.cancel, auth) else none
  | .start => if task.place = .scheduled then some (task.start, auth) else none
  | .poll result => if task.place = .polling then some (task.poll result, auth) else none
  | .exchange result access =>
    if task.place = .exchanging then some (task.exchange lower auth result access) else none

end FlowTask

/-! ## Runs -/

structure World where
  tasks : Nat → Option FlowTask
  auth : AuthFile

/-- `start`, the pruning of `get_flow` and `list_flows`, a move of a flow, or another process that
stores something. -/
inductive Event where
  | started (id : Nat) (label : Option Text) (expires_at : Nat)
  | pruned (now : Nat)
  | moved (id : Nat) (move : Move)
  | elsewhere (auth : AuthFile)

def World.put (world : World) (id : Nat) (moved : FlowTask × AuthFile) : World where
  tasks := Function.update world.tasks id (some moved.1)
  auth := moved.2

def World.step (lower : Text → Text) (world : World) : Event → Option World
  | .started id label expires_at =>
    match world.tasks id with
    | none => some (world.put id ({ flow := { requested_label := label, expires_at } }, world.auth))
    | some _ => none
  | .pruned now => some { world with tasks := fun id => (world.tasks id).map (FlowTask.prune now) }
  | .moved id move => do
    let task ← world.tasks id
    let moved ← task.take lower world.auth move
    return world.put id moved
  | .elsewhere auth => some { world with auth }

abbrev Step (lower : Text → Text) (world : World) (event : Event) (world' : World) : Prop :=
  world.step lower event = some world'

/-- The store answers a flow, nobody takes its key between the accesses, and without a requested
label some candidate that fits the pattern is free. -/
structure StoreAccess.Undisturbed (lower : Text → Text) (auth : AuthFile) (flow : CodexOAuthFlow)
    (record : OAuthProviderRecord) (access : StoreAccess) : Prop where
  updated : access.update = .returned
  loaded : flow.chosen = none → access.load_raises = false
  untaken : flow.chosen = none → ∀ meanwhile ∈ access.meanwhile,
    meanwhile.row (provider_key (allocate_label lower record.account auth)) = none
  short : flow.chosen = none → ∃ n,
    auth.row (provider_key (candidate (derive_label lower record.account) n)) = none ∧
    (candidate (derive_label lower record.account) n).length ≤ 31

/-- A move that finds no failure outside the error handling of `_run`. -/
def FlowTask.Undisturbed (lower : Text → Text) (auth : AuthFile) (task : FlowTask) : Move → Prop
  | .poll result => task.cancelling = false → result ≠ .error .base_exception
  | .exchange result access => task.cancelling = false → result ≠ .error .base_exception ∧
      ∀ record, result = .ok record → access.Undisturbed lower auth task.flow record
  | _ => True

def World.Undisturbed (lower : Text → Text) (world : World) : Event → Prop
  | .moved id move => ∀ task ∈ world.tasks id, task.Undisturbed lower world.auth move
  | _ => True

/-- A flow that says what became of it. -/
structure FlowTask.Truthful (task : FlowTask) : Prop where
  ended : task.place = .ended → task.flow.state ≠ .pending
  authorized : task.flow.state = .authorized → ∃ write ∈ task.write,
    ∃ label ∈ task.flow.account_label, write.key = provider_key label
  stored : ∀ write ∈ task.write, task.flow.state = .authorized
    ∧ (task.flow.chosen = none → write.replaced = none)
    ∧ ((∀ label ∈ task.flow.chosen, KeyMatches (provider_key label)) → KeyMatches write.key)

def World.Truthful (world : World) : Prop :=
  ∀ id, ∀ task ∈ world.tasks id, task.Truthful

/-- A flow that is not pending stays as it is. -/
def Final (world world' : World) : Prop :=
  ∀ id, ∀ task ∈ world.tasks id, task.flow.state ≠ .pending →
    ∃ task', world'.tasks id = some task' ∧ task'.flow = task.flow

/-! ## Labels match the pattern -/

/-- What a label may hold, after a first character that is no dash. -/
structure Slug (text : Text) : Prop where
  chars : ∀ char ∈ text, is_alnum char ∨ char = '-'
  head : ∀ first ∈ text.head?, is_alnum first

variable {text base : Text} {lower : Text → Text}

theorem Slug.of_prefix {part : Text} (h : Slug text) (hpart : part <+: text) : Slug part := by
  refine ⟨fun char hmem => h.chars char (hpart.subset hmem), fun first hfirst => ?_⟩
  obtain ⟨rest, rfl⟩ := hpart
  cases part with
  | nil => cases hfirst
  | cons head tail => exact h.head first hfirst

theorem dashed_chars (inside : Bool) (text : Text) :
    ∀ char ∈ dashed inside text, is_alnum char ∨ char = '-' := by
  induction text generalizing inside with
  | nil => exact forall_mem_nil _
  | cons first rest ih =>
    rw [dashed]
    split
    · next hfirst => exact forall_mem_cons.mpr ⟨.inl hfirst, ih false⟩
    · split
      · exact ih true
      · exact forall_mem_cons.mpr ⟨.inr rfl, ih true⟩

theorem slug_strip (h : ∀ char ∈ text, is_alnum char ∨ char = '-') : Slug (strip_dashes text) := by
  have hdropped : Slug (text.dropWhile (· = '-')) := by
    have hsubset := (dropWhile_suffix (l := text) (· = '-')).subset
    refine ⟨fun char hmem => h char (hsubset hmem), fun first hfirst => ?_⟩
    have hnot := List.head?_dropWhile_not (· = '-') text
    rw [mem_def.mp hfirst] at hnot
    exact (h first (hsubset (mem_of_mem_head? hfirst))).resolve_right (of_decide_eq_false hnot)
  exact hdropped.of_prefix (List.rdropWhile_prefix _ _)

theorem strip_dashes_length (text : Text) : (strip_dashes text).length ≤ text.length :=
  (List.rdropWhile_prefix _ _).length_le.trans (dropWhile_suffix _).length_le

theorem sanitize_label_slug (raw : Text) :
    Slug (sanitize_label lower raw) ∧ (sanitize_label lower raw).length ≤ 31 := by
  have hinner := slug_strip (dashed_chars false (lower raw))
  refine ⟨slug_strip (hinner.of_prefix (List.take_prefix _ _)).chars, ?_⟩
  exact (strip_dashes_length _).trans (length_take_le _ _)

theorem claim_label_slug {claim : Option Text} {label : Text}
    (h : claim_label lower claim = some label) : Slug label ∧ label ≠ [] ∧ label.length ≤ 31 := by
  simp only [claim_label, bind_eq_bind, bind_eq_some_iff, guard_eq_some', Option.pure_def,
    Option.some.injEq] at h
  obtain ⟨claim, -, -, -, -, hne, rfl⟩ := h
  exact ⟨(sanitize_label_slug claim).1, hne, (sanitize_label_slug claim).2⟩

theorem derive_label_slug (account : OAuthAccount) : Slug (derive_label lower account) ∧
    derive_label lower account ≠ [] ∧ (derive_label lower account).length ≤ 31 := by
  unfold derive_label
  cases hemail : claim_label lower (account.email.map String.toList) with
  | some label => exact claim_label_slug hemail
  | none =>
    cases hid : claim_label lower (account.chatgpt_account_id.map (·.toList.take 12)) with
    | some label => exact claim_label_slug hid
    | none =>
      have hchars : "account".toList.all is_alnum = true := by decide
      refine ⟨⟨fun char hmem => .inl (all_eq_true.mp hchars char hmem), fun first hfirst => ?_⟩,
        by decide, by decide⟩
      cases hfirst
      rfl

theorem candidate_slug (h : Slug base) (hne : base ≠ []) (n : Nat) :
    Slug (candidate base n) ∧ candidate base n ≠ [] := by
  cases n with
  | zero => exact ⟨h, hne⟩
  | succ n =>
    have htrimmed : Slug (rstrip_dashes (base.take 28)) :=
      h.of_prefix ((List.rdropWhile_prefix _ _).trans (List.take_prefix _ _))
    obtain ⟨first, rest, rfl⟩ := exists_cons_of_ne_nil hne
    have hfirst := h.head first rfl
    cases hcut : rstrip_dashes ((first :: rest).take 28) with
    | nil =>
      have hdash := of_decide_eq_true (rdropWhile_eq_nil_iff.mp hcut first mem_cons_self)
      rw [hdash] at hfirst
      cases hfirst
    | cons head tail =>
      rw [hcut] at htrimmed
      rw [candidate, hcut, toList_toString]
      refine ⟨⟨forall_mem_append.mpr ⟨htrimmed.chars, forall_mem_cons.mpr ⟨.inr rfl,
        fun digit hmem => .inl ?_⟩⟩, fun other hother => htrimmed.head other hother⟩, by simp⟩
      rw [is_alnum, Nat.isDigit_of_mem_toDigits (by decide) (by decide) hmem, Bool.or_true]

theorem candidate_length_mono {m n : Nat} (hm : m ≠ 0) (h : m ≤ n) :
    (candidate base m).length ≤ (candidate base n).length := by
  obtain ⟨m, rfl⟩ := Nat.exists_eq_succ_of_ne_zero hm
  obtain ⟨n, rfl⟩ : ∃ k, n = k + 1 := ⟨n - 1, by omega⟩
  have hdigits : (Nat.toDigits 10 (m + 2)).length ≤ (Nat.toDigits 10 (n + 2)).length := by
    have hlt := (Nat.length_toDigits_le_iff (by decide) Nat.length_toDigits_pos).mp
      (le_refl (Nat.toDigits 10 (n + 2)).length)
    exact (Nat.length_toDigits_le_iff (by decide) Nat.length_toDigits_pos).mpr (by omega)
  simp only [candidate, length_append, length_cons, toList_toString]
  omega

theorem key_matches {label : Text} (h : Slug label) (hne : label ≠ []) (hlength : label.length ≤ 31) :
    KeyMatches (provider_key label) := by
  obtain ⟨first, rest, rfl⟩ := exists_cons_of_ne_nil hne
  refine ⟨':' :: first :: rest, [], ?_, mem_cons_self, .inr ⟨first, rest, rfl, h.head first rfl,
    fun char hmem => h.chars char (mem_cons_of_mem _ hmem), Nat.le_of_succ_le_succ hlength⟩⟩
  rw [provider_key_toList, append_nil]
  rfl

/-- Where some free candidate is short enough, so is the first one. -/
theorem allocate_label_matches {account : OAuthAccount} {auth : AuthFile}
    (h : ∃ n, auth.row (provider_key (candidate (derive_label lower account) n)) = none ∧
      (candidate (derive_label lower account) n).length ≤ 31) :
    KeyMatches (provider_key (allocate_label lower account auth)) := by
  obtain ⟨hslug, hne, hlength⟩ := derive_label_slug account
  obtain ⟨n, hfree, hshort⟩ := h
  have hfirst := Nat.find_min' (exists_free (derive_label lower account) auth) hfree
  obtain ⟨hslug, hne⟩ := candidate_slug hslug hne
    (Nat.find (exists_free (derive_label lower account) auth))
  refine key_matches hslug hne ?_
  unfold allocate_label
  by_cases hzero : Nat.find (exists_free (derive_label lower account) auth) = 0
  · rw [hzero]
    exact hlength
  · exact (candidate_length_mono hzero hfirst).trans hshort

/-! ## What a run keeps -/

/-- A truthful flow whose state is the one of its task as long as that runs. -/
structure FlowTask.Told (task : FlowTask) : Prop extends task.Truthful where
  live : task.place ≠ .ended → task.flow.state = if task.cancelling then .cancelled else .pending

variable {task : FlowTask} {auth : AuthFile}

theorem FlowTask.Told.of_unwritten (hwrite : task.write = none)
    (hstate : task.flow.state ≠ .authorized) (hended : task.place = .ended → task.flow.state ≠ .pending)
    (hlive : task.place ≠ .ended →
      task.flow.state = if task.cancelling then .cancelled else .pending) : task.Told :=
  { ended := hended
    authorized := fun h => absurd h hstate
    stored := fun write h => by rw [hwrite] at h; cases h
    live := hlive }

theorem FlowTask.Told.unwritten (h : task.Told) (hstate : task.flow.state ≠ .authorized) :
    task.write = none :=
  eq_none_iff_forall_ne_some.mpr fun write hwrite => hstate (h.stored write hwrite).1

theorem FlowTask.Told.live_states (h : task.Told) (hplace : task.place ≠ .ended) :
    task.cancelling = true ∧ task.flow.state = .cancelled ∨
      task.cancelling = false ∧ task.flow.state = .pending := by
  have hlive := h.live hplace
  cases hcancelling : task.cancelling with
  | true => exact .inl ⟨rfl, by rw [hlive, hcancelling, if_pos rfl]⟩
  | false => exact .inr ⟨rfl, by rw [hlive, hcancelling, if_neg Bool.false_ne_true]⟩

theorem failed_state {flow : CodexOAuthFlow} {raised : Raised} (h : flow.state = .pending)
    (hraised : raised ≠ .base_exception) :
    (flow.failed raised).state ≠ .pending ∧ (flow.failed raised).state ≠ .authorized := by
  unfold CodexOAuthFlow.failed
  cases raised with
  | cancelled => simp [h]
  | http_status status_code =>
    dsimp only
    split <;> decide
  | exception => simp
  | base_exception => exact absurd rfl hraised

/-- The end of a task at a failure; once it is cancelled the flow stays as it is. -/
theorem FlowTask.Told.fail (h : task.Told) (hplace : task.place ≠ .ended) {α : Type}
    {result : Except Raised α} {raised : Raised} (hreceive : task.receive result = .error raised)
    (hok : task.cancelling = false → result ≠ .error .base_exception) :
    (task.fail raised).Told ∧ (task.flow.state ≠ .pending → (task.fail raised).flow = task.flow) := by
  unfold FlowTask.receive at hreceive
  rcases h.live_states hplace with ⟨hcancelling, hstate⟩ | ⟨hcancelling, hstate⟩
  · rw [if_pos hcancelling] at hreceive
    obtain rfl := Except.error.inj hreceive
    have hsame : task.flow.failed .cancelled = task.flow := if_neg (by rw [hstate]; decide)
    have hwrite := h.unwritten (by rw [hstate]; decide)
    refine ⟨.of_unwritten hwrite ?_ (fun _ => ?_) (fun hne => absurd rfl hne), fun _ => hsame⟩
    · rw [FlowTask.fail, hsame, hstate]
      decide
    · rw [FlowTask.fail, hsame, hstate]
      decide
  · rw [if_neg (Bool.eq_false_iff.mp hcancelling)] at hreceive
    have hwrite := h.unwritten (by rw [hstate]; decide)
    have hraised : raised ≠ .base_exception := by
      rintro rfl
      exact hok hcancelling hreceive
    obtain ⟨hpending, hauthorized⟩ := failed_state hstate hraised
    exact ⟨.of_unwritten hwrite hauthorized (fun _ => hpending) (fun hne => absurd rfl hne),
      fun hne => absurd hstate hne⟩

theorem FlowTask.Told.store_record (h : task.Told) (hplace : task.place ≠ .ended)
    {record : OAuthProviderRecord} {access : StoreAccess}
    (hok : access.Undisturbed lower auth task.flow record) (hstate : task.flow.state = .pending) :
    (task.store_record lower auth record access).1.Told := by
  have hauthorized {label : Text} {write : Write} (hkey : write.key = provider_key label)
      (hstored : (task.flow.chosen = none → write.replaced = none)
        ∧ ((∀ label ∈ task.flow.chosen, KeyMatches (provider_key label)) → KeyMatches write.key)) :
      FlowTask.Told { task with
        flow := { task.flow with account_label := some label, state := .authorized }
        place := .ended, write := some write } :=
    { ended := fun _ h => by cases h
      authorized := fun _ => ⟨write, rfl, label, rfl, hkey⟩
      stored := fun other hother => by cases hother; exact ⟨rfl, hstored⟩
      live := fun hne => absurd rfl hne }
  unfold FlowTask.store_record label_for
  rw [if_neg (not_not.mpr hstate), hok.updated]
  cases hchosen : task.flow.chosen with
  | some label =>
    refine hauthorized rfl ⟨fun hnone => ?_, fun hmatches => hmatches label hchosen⟩
    rw [hchosen] at hnone
    cases hnone
  | none =>
    rw [hok.loaded hchosen]
    refine hauthorized rfl ⟨fun _ => ?_, fun _ => allocate_label_matches (hok.short hchosen)⟩
    cases hmeanwhile : access.meanwhile with
    | some meanwhile => exact hok.untaken hchosen meanwhile hmeanwhile
    | none => exact Nat.find_spec (exists_free (derive_label lower record.account) auth)

/-- **One move** keeps a flow truthful, and leaves it alone once it is not pending. -/
theorem FlowTask.Told.take (h : task.Told) {move : Move} {moved : FlowTask × AuthFile}
    (hok : task.Undisturbed lower auth move) (htake : task.take lower auth move = some moved) :
    moved.1.Told ∧ (task.flow.state ≠ .pending → moved.1.flow = task.flow) := by
  cases move with
  | cancel =>
    obtain ⟨-, htask⟩ := ite_none_right_eq_some.mp htake
    obtain rfl := Option.some.inj htask
    unfold FlowTask.cancel
    by_cases hstate : task.flow.state = .pending
    · have hwrite := h.unwritten (by rw [hstate]; decide)
      rw [if_pos hstate]
      exact ⟨.of_unwritten hwrite (fun h => by cases h) (fun _ h => by cases h) (fun _ => rfl),
        fun hne => absurd hstate hne⟩
    · rw [if_neg hstate]
      exact ⟨h, fun _ => rfl⟩
  | start =>
    obtain ⟨hplace, htask⟩ := ite_none_right_eq_some.mp htake
    obtain rfl := Option.some.inj htask
    have hne : task.place ≠ .ended := by rw [hplace]; decide
    refine ⟨?_, fun _ => rfl⟩
    rcases h.live_states hne with ⟨hcancelling, hstate⟩ | ⟨hcancelling, hstate⟩
    · refine .of_unwritten (h.unwritten ?_) ?_ (fun _ => ?_) (fun _ => h.live hne)
      all_goals simp [FlowTask.start, hstate]
    · refine .of_unwritten (h.unwritten ?_) ?_ (fun hended => ?_) (fun _ => h.live hne)
      all_goals simp_all [FlowTask.start]
  | poll result =>
    obtain ⟨hplace, htask⟩ := ite_none_right_eq_some.mp htake
    obtain rfl := Option.some.inj htask
    have hne : task.place ≠ .ended := by rw [hplace]; decide
    unfold FlowTask.poll
    cases hreceive : task.receive result with
    | error raised => exact h.fail hne hreceive hok
    | ok =>
      have hended : Place.exchanging ≠ .ended := by decide
      exact ⟨{ h with ended := fun h => absurd h hended, live := fun _ => h.live hne },
        fun _ => rfl⟩
  | exchange result access =>
    obtain ⟨hplace, htask⟩ := ite_none_right_eq_some.mp htake
    obtain rfl := Option.some.inj htask
    have hne : task.place ≠ .ended := by rw [hplace]; decide
    unfold FlowTask.exchange
    cases hreceive : task.receive result with
    | error raised => exact h.fail hne hreceive fun hcancelling => (hok hcancelling).1
    | ok record =>
      unfold FlowTask.receive at hreceive
      rcases h.live_states hne with ⟨hcancelling, hstate⟩ | ⟨hcancelling, hstate⟩
      · rw [if_pos hcancelling] at hreceive
        cases hreceive
      · rw [if_neg (Bool.eq_false_iff.mp hcancelling)] at hreceive
        exact ⟨h.store_record hne ((hok hcancelling).2 record hreceive) hstate,
          fun hne => absurd hstate hne⟩

/-- Every flow is as its task has it. -/
def World.Kept (world : World) : Prop := ∀ id, ∀ task ∈ world.tasks id, task.Told

variable {world world' : World} {event : Event} {events : List Event}

theorem World.put_tasks (world : World) (id other : Nat) (moved : FlowTask × AuthFile) :
    (world.put id moved).tasks other = if other = id then some moved.1 else world.tasks other :=
  Function.update_apply _ _ _ _

theorem World.Kept.put (h : world.Kept) {id : Nat} {moved : FlowTask × AuthFile}
    (hmoved : moved.1.Told) (hfinal : ∀ task ∈ world.tasks id,
      task.flow.state ≠ .pending → moved.1.flow = task.flow) :
    (world.put id moved).Kept ∧ Final world (world.put id moved) := by
  refine ⟨fun other found hfound => ?_, fun other found hfound hstate => ?_⟩
  · rw [put_tasks] at hfound
    split at hfound
    · obtain rfl := Option.some.inj hfound
      exact hmoved
    · exact h other found hfound
  · rw [put_tasks]
    split
    · next hid => exact ⟨moved.1, rfl, hfinal found (hid ▸ hfound) hstate⟩
    · exact ⟨found, hfound, rfl⟩

theorem World.Kept.step (h : world.Kept) (hok : world.Undisturbed lower event)
    (hstep : Step lower world event world') : world'.Kept ∧ Final world world' := by
  cases event with
  | started id label expires_at =>
    simp only [Step, World.step] at hstep
    split at hstep
    · next hfree =>
      obtain rfl := Option.some.inj hstep
      refine h.put (.of_unwritten rfl (fun h => by cases h) (fun h => by cases h) fun _ => rfl)
        fun task hfound => ?_
      rw [hfree] at hfound
      cases hfound
    · cases hstep
  | pruned now =>
    obtain rfl := Option.some.inj hstep
    refine ⟨fun id task hfound => ?_, fun id task hfound _ => ?_⟩
    · obtain ⟨before, hbefore, rfl⟩ := map_eq_some_iff.mp hfound
      exact { h id before hbefore with }
    · exact ⟨task.prune now, map_eq_some_iff.mpr ⟨task, hfound, rfl⟩, rfl⟩
  | moved id move =>
    obtain ⟨task, hfound, hmoved⟩ := bind_eq_some_iff.mp hstep
    obtain ⟨moved, htake, hworld⟩ := bind_eq_some_iff.mp hmoved
    obtain rfl := Option.some.inj hworld
    obtain ⟨htold, hfinal⟩ := (h id task hfound).take (hok task hfound) htake
    refine h.put htold fun other hother => ?_
    rw [hfound] at hother
    obtain rfl := Option.some.inj hother
    exact hfinal
  | elsewhere auth =>
    obtain rfl := Option.some.inj hstep
    exact ⟨h, fun id task hfound _ => ⟨task, hfound, rfl⟩⟩

/-- The runs of the manager whose moves are undisturbed. -/
abbrev FlowRun (lower : Text → Text) : World → List Event → World → Prop :=
  RunWhere (Step lower) fun _ world event => world.Undisturbed lower event

theorem World.Kept.run (h : world.Kept) (hrun : FlowRun lower world events world') :
    world'.Kept ∧ Final world world' := by
  induction hrun with
  | refl => exact ⟨h, fun id task hfound _ => ⟨task, hfound, rfl⟩⟩
  | snoc hrun hok hstep ih =>
    obtain ⟨hkept, hfinal⟩ := ih
    obtain ⟨hkept, hlast⟩ := hkept.step hok hstep
    refine ⟨hkept, fun id task hfound hstate => ?_⟩
    obtain ⟨middle, hmiddle, hflow⟩ := hfinal id task hfound hstate
    obtain ⟨last, hlast, hsame⟩ := hlast id middle hmiddle (by rwa [hflow])
    exact ⟨last, hlast, hsame.trans hflow⟩

/-- Before any flow was started. -/
def World.initial (auth : AuthFile) : World := ⟨fun _ => none, auth⟩

/-- **Login flows end once and truthfully** in every run whose moves are undisturbed. -/
theorem flows_end_truthfully {later : List Event} (hrun : FlowRun lower (.initial auth) events world)
    (hlater : FlowRun lower world later world') : world.Truthful ∧ Final world world' := by
  have hinitial : (World.initial auth).Kept := fun id task hfound => by cases hfound
  obtain ⟨hkept, -⟩ := hinitial.run hrun
  exact ⟨fun id task hfound => (hkept id task hfound).toTruthful, (hkept.run hlater).2⟩

/-- A login with a requested label up to the exchange. -/
def login : List Event := [.started 0 (some ['a']) 600, .moved 0 .start, .moved 0 (.poll (.ok ()))]

def logged_in (access : StoreAccess) : Event :=
  .moved 0 (.exchange (.ok (OAuthRefresh.sample_record "b" "s")) access)

theorem login_run : ∃ world, FlowRun id (.initial ∅) login world ∧
    world.tasks 0 = some ⟨⟨some ['a'], 600, .pending, none⟩, .exchanging, false, true, none⟩ := by
  have hstarted : FlowRun id (.initial ∅) _ _ :=
    .snoc (e := Event.started 0 (some ['a']) 600) .refl True.intro rfl
  have hbegun := hstarted.snoc (e := Event.moved 0 .start) (fun _ _ => True.intro) rfl
  have hpolled := hbegun.snoc (e := Event.moved 0 (.poll (.ok ()))) (fun _ _ _ h => by cases h) rfl
  exact ⟨_, hpolled, rfl⟩

theorem sample_login_truthful : ∃ world world',
    FlowRun id (.initial ∅) login world ∧ FlowRun id world [logged_in {}] world' ∧
    world.Truthful ∧ Final world world' := by
  obtain ⟨world, hrun, htask⟩ := login_run
  have hundisturbed : world.Undisturbed id (logged_in {}) := by
    intro task hfound
    rw [htask] at hfound
    obtain rfl := Option.some.inj hfound
    have hchosen : some ['a'] ≠ none := some_ne_none _
    exact fun _ => ⟨(fun h => by cases h), fun record _ => ⟨rfl, fun h => absurd h hchosen,
      fun h => absurd h hchosen, fun h => absurd h hchosen⟩⟩
  have hlater : FlowRun id world _ _ :=
    .snoc .refl hundisturbed (by rw [Step, logged_in, World.step, htask]; rfl)
  exact ⟨world, _, hrun, hlater, flows_end_truthfully hrun hlater⟩

/-- The write fails after the exchange: the task has ended and the flow is pending for good. -/
theorem failed_write_leaves_pending : ∃ world,
    Run (Step id) (.initial ∅) (login ++ [logged_in { update := .raised_before }]) world ∧
    ¬ world.Truthful := by
  obtain ⟨world, hrun, htask⟩ := login_run
  refine ⟨_, .snoc hrun.run (by rw [Step, logged_in, World.step, htask]; rfl), fun h => ?_⟩
  exact (h 0 _ (World.put_tasks world 0 0 _)).ended rfl rfl

end CodingAgentLoop.OAuthFlows
