/-
The working directory and the environment of a shell session.

`bash_run` answers a `cd` with a line that names the directory and an `export` with one that names
the variable. The executor reads the new state of the session off the answer: it strips what
follows the first words of the line and takes that. A program that is run may print such a line as
well, and a name or a value may begin or end with a space. Where neither happens, the session is
what the `cd` and `export` calls made of it.
-/
import CodingAgentLoop.CodexStream
import CodingAgentLoop.CommandPolicy
import CodingAgentLoop.Lib.Table

open Lib Lib.TextLines

namespace CodingAgentLoop.ShellSession

open Table List Result

open CommandPolicy
open CodexStream (is_space lstrip strip)

/-! ## `bash_run` -/

abbrev Env : Type := Table Text Text

structure CompletedProcess where
  stdout : Text
  stderr : Text
  returncode : Int

/-- The dict of a structured result. -/
structure ShellResult where
  stdout : Text
  stderr : Text
  exit_code : Int
  error_type : Option Text := none

/-- An exception in `bash_run`. Those of the sandbox have an error type. -/
structure ShellFailure where
  text : Text
  error_type : Option Text := none

structure ShellSettings where
  /-- `sandbox_mode` is not `"none"`. -/
  sandboxed : Bool
  workspace_root : Option Text
  additional_workspace_roots : List Text

/-- What a call of `bash_run` finds. -/
structure Surroundings where
  host : Host
  settled : ∀ path resolved, host.realpath path = .ok resolved →
    host.realpath resolved = .ok resolved
  is_dir : Parts → Bool
  /-- What its timeout and the shell configuration are read as. -/
  settings : Except ShellFailure ShellSettings
  structured : Bool
  /-- The checks of the parsed command's paths, and the process or the sandbox. -/
  ran : List Text → Option Text → Option Env → Except ShellFailure CompletedProcess
  /-- What `str` puts between the braces of a dict. -/
  shown : ShellResult → Text

def shell_error {α : Type} (text : Text) : Except ShellFailure α := .error { text }

/-- `raise SandboxError(text)`. -/
def denied {α : Type} (text : Text) : Except ShellFailure α :=
  .error { text, error_type := some "sandbox_denied".toList }

def failing {α : Type} (result : Except StoreError α) : Except ShellFailure α :=
  match result with
  | .error (.raised _ message) => shell_error message.toList
  | .error error => shell_error error.name.toList
  | .ok value => .ok value

/-- `shlex.split(command)`. -/
def shlex_split (command : Text) : Except ShellFailure (List Text) :=
  match ShellWords.split command with
  | .error .closing_quotation => shell_error "No closing quotation".toList
  | .error .escaped_character => shell_error "No escaped character".toList
  | .ok args => .ok args

/-- `str(path)` of an absolute path. -/
def path_text (path : Parts) : Text := '/' :: List.intercalate ['/'] path

/-- `value or default`. -/
def or_else (value : Option Text) (default : Text) : Text :=
  (value.filter (fun text => text ≠ [])).getD default

/-- `_resolve_workspace_root` and `_resolve_additional_workspace_roots`. -/
def resolve_roots (given : Surroundings) (settings : ShellSettings) (cwd : Option Text) :
    Except ShellFailure (List Parts) :=
  (settings.workspace_root.getD (or_else cwd ['.']) :: settings.additional_workspace_roots).mapM
    (fun root => failing (resolve given.host root))

def path_under_any_root (path : Parts) (roots : List Parts) : Bool :=
  roots.any (·.isPrefixOf path)

def outside_text (what : Text) (path : Parts) (roots : List Parts) : Text :=
  what ++ path_text path ++ ". Use a path under workspace root: ".toList
    ++ path_text (roots.headD [])

def validated_execution_cwd (given : Surroundings) (settings : ShellSettings) (cwd : Option Text) :
    Except ShellFailure (Option Text) :=
  match cwd with
  | none => .ok none
  | some text => do
    let roots ← resolve_roots given settings cwd
    let resolved_cwd ← failing (resolve given.host text)
    if path_under_any_root resolved_cwd roots then return some (path_text resolved_cwd)
    else shell_error (outside_text "Working directory is outside sandbox workspace: ".toList
      resolved_cwd roots)

def apply_cd (given : Surroundings) (command : Text) (cwd : Option Text) :
    Except ShellFailure (Option Parts) := do
  let args ← shlex_split command
  match args with
  | [] => return none
  | word :: targets =>
    if word = "cd".toList then
      match targets with
      | [target] =>
        let base ← failing (expanduser given.host given.host.getcwd (or_else cwd ['.']))
        let path ← failing (expanduser given.host base target)
        let resolved ← failing (given.host.realpath path)
        if given.is_dir resolved then return some resolved
        else shell_error ("Directory not found: ".toList ++ target)
      | _ => shell_error "cd requires exactly one target directory".toList
    else return none

/-- The check of the directory, `_validate_cwd` where commands are sandboxed. -/
def validate_cwd (given : Surroundings) (settings : ShellSettings) (changed_dir : Parts)
    (roots : List Parts) : Except ShellFailure Unit :=
  if settings.sandboxed then do
    let resolved_cwd ← failing (given.host.realpath changed_dir)
    let roots ← roots.mapM (fun root => failing (given.host.realpath root))
    if path_under_any_root resolved_cwd roots then
      if given.is_dir resolved_cwd then return ()
      else denied ("Working directory does not exist: ".toList ++ path_text resolved_cwd)
    else denied ("Working directory is outside sandbox workspace: ".toList
      ++ path_text resolved_cwd)
  else if path_under_any_root changed_dir roots then .ok ()
  else shell_error (outside_text "Directory is outside sandbox workspace: ".toList
    changed_dir roots)

/-- `text.split("=", 1)`. -/
def split_once (text : Text) : Text × Text :=
  (text.takeWhile (· ≠ '='), (text.dropWhile (· ≠ '=')).tail)

def apply_export (command : Text) : Except ShellFailure (Option (Text × Text)) := do
  let args ← shlex_split command
  match args with
  | [] => return none
  | word :: assignments =>
    if word = "export".toList then
      match assignments with
      | [assignment] =>
        if assignment.contains '=' then
          if (split_once assignment).1 = [] then
            shell_error "export requires a non-empty variable name".toList
          else return some (split_once assignment)
        else shell_error "export requires KEY=VALUE".toList
      | _ => shell_error "export requires KEY=VALUE".toList
    else return none

def parse_command (command : Text) : Except ShellFailure (List Text) := do
  let args ← shlex_split command
  if args.isEmpty then shell_error "Command cannot be empty".toList
  else if args.any (fun arg => DISALLOWED_SHELL_TOKENS.any (· = arg)) then
    shell_error ("Unsupported shell syntax in command. Run commands separately; ".toList
      ++ "bash_run does not support &&, ||, |, ;, redirects, or backgrounding.".toList)
  else return args

/-- What a command came to. -/
inductive Outcome where
  | changed (dir : Parts)
  | exported (key value : Text)
  | ran (result : CompletedProcess)

/-- `bash_run` up to what it returns. -/
def bash_outcome (given : Surroundings) (command : Text) (cwd : Option Text)
    (env : Option Env) : Except ShellFailure Outcome := do
  let settings ← given.settings
  let execution_cwd ← validated_execution_cwd given settings cwd
  match ← apply_cd given command cwd with
  | some dir => do
    let roots ← resolve_roots given settings cwd
    validate_cwd given settings dir roots
    return .changed dir
  | none =>
    match ← apply_export command with
    | some (key, value) => return .exported key value
    | none => do
      let args ← parse_command command
      let result ← given.ran args execution_cwd env
      return .ran result

inductive Answer where
  | plain (text : Text)
  | dict (result : ShellResult)

def plain_output (result : CompletedProcess) : Text :=
  let output := strip (result.stdout
    ++ (if result.stderr = [] then [] else "\nSTDERR:\n".toList ++ result.stderr)
    ++ (if result.returncode = 0 then []
      else "\nExit code: ".toList ++ (toString result.returncode).toList))
  if output = [] then "(no output)".toList else output

def changed_text (dir : Parts) : Text := "Changed directory to ".toList ++ path_text dir

def exported_text (key value : Text) : Text := "Exported ".toList ++ (key ++ '=' :: value)

/-- `return` and the `except` of `bash_run`. -/
def answer (structured : Bool) : Except ShellFailure Outcome → Answer
  | .ok (.changed dir) => .plain (changed_text dir)
  | .ok (.exported key value) => .plain (exported_text key value)
  | .ok (.ran result) =>
    if structured then
      .dict { stdout := result.stdout, stderr := result.stderr, exit_code := result.returncode }
    else .plain (plain_output result)
  | .error failure =>
    if structured ∧ failure.error_type.isSome then
      .dict { stdout := [], stderr := failure.text, exit_code := 126,
              error_type := failure.error_type }
    else .plain ("Error: ".toList ++ failure.text)

/-- The environment that was passed, as `bash_run` leaves it. -/
def env_left (env : Env) : Except ShellFailure Outcome → Env
  | .ok (.exported key value) => env.put key value
  | _ => env

/-! ## The session -/

structure Session where
  cwd : Text
  env_vars : Env := ∅

/-- `arguments`, where a `cwd` that is absent and one that is `None` are the same. -/
structure ShellCall where
  command : Text
  cwd : Option Text := none
  /-- The `env` of the arguments, when they have one. It may be `None`. -/
  env : Option (Option Env) := none
  given : Surroundings

structure CoreToolExecutor where
  workspace_root : Option Text
  default_cwd : Text

inductive Update where
  | cwd (new_cwd : Text)
  | env (key value : Text)

/-- What `_sync_shell_session` reads in the text of a result. -/
def read_update (result_text : Text) : Option Update :=
  if "Changed directory to ".toList.isPrefixOf result_text then
    let new_cwd := strip (result_text.drop 21)
    if new_cwd = [] then none else some (.cwd new_cwd)
  else if "Exported ".toList.isPrefixOf result_text then
    let exported := strip (result_text.drop 9)
    if exported.contains '=' then
      if (split_once exported).1 = [] then none
      else some (.env (split_once exported).1 (split_once exported).2)
    else none
  else none

def Answer.str (shown : ShellResult → Text) : Answer → Text
  | .plain text => text
  | .dict result => '{' :: (shown result ++ ['}'])

namespace Session

def update (session : Session) : Option Update → Session
  | none => session
  | some (.cwd new_cwd) => { session with cwd := new_cwd }
  | some (.env key value) => { session with env_vars := session.env_vars.put key value }

end Session

section

variable (executor : CoreToolExecutor) (session : Session) (call : ShellCall)

/-- `_prepare_arguments`: the `cwd` of a call. -/
def CoreToolExecutor.call_cwd : Option Text :=
  some (call.cwd.getD (or_else (some session.cwd)
    (or_else executor.workspace_root executor.default_cwd)))

def CoreToolExecutor.outcome : Except ShellFailure Outcome :=
  bash_outcome call.given call.command (executor.call_cwd session call)
    (call.env.getD (some session.env_vars))

/-- `execute_tool("bash_run", arguments)`. An environment that is not among the arguments is the
session's own, and `bash_run` writes into it. -/
def CoreToolExecutor.execute_tool : Session :=
  let outcome := executor.outcome session call
  let session := if call.env.isNone then
      { session with env_vars := env_left session.env_vars outcome }
    else session
  session.update (read_update ((answer call.given.structured outcome).str call.given.shown))

end

/-! ## What the session should be -/

/-- What a `cd` or an `export` that succeeds makes of the session. -/
def made : Except ShellFailure Outcome → Option Update
  | .ok (.changed dir) => some (.cwd (path_text dir))
  | .ok (.exported key value) => some (.env key value)
  | _ => none

structure Session.Same (session other : Session) : Prop where
  cwd : session.cwd = other.cwd
  env_vars : ∀ key, session.env_vars.row key = other.env_vars.row key

/-- The directory lies under a root of the call. -/
def Inside (executor : CoreToolExecutor) (session : Session) (call : ShellCall) (cwd : Text) :
    Prop :=
  ∃ dir settings roots, cwd = path_text dir ∧ call.given.settings = .ok settings
    ∧ resolve_roots call.given settings (executor.call_cwd session call) = .ok roots
    ∧ path_under_any_root dir roots = true

/-- After each call the session is `applied` with the `cd` and `export` calls so far, and its
directory is the one it was or inside the workspace. -/
def Follows (executor : CoreToolExecutor) : Session → Session → List ShellCall → Prop
  | _, _, [] => True
  | session, applied, call :: rest =>
    let after := executor.execute_tool session call
    let applied := applied.update (made (executor.outcome session call))
    after.Same applied ∧ (after.cwd = session.cwd ∨ Inside executor session call after.cwd)
      ∧ Follows executor after applied rest

/-- The session has what is read. -/
def Session.Has (session : Session) : Option Update → Prop
  | none => True
  | some (.cwd new_cwd) => session.cwd = new_cwd
  | some (.env key value) => session.env_vars.row key = some value

/-- Stripping leaves the directory or the assignment as it is, and a program prints no line that
names another directory or value than the session's. -/
def Unmistaken (session : Session) (call : ShellCall) : Except ShellFailure Outcome → Prop
  | .ok (.changed dir) => strip (path_text dir) = path_text dir
  | .ok (.exported key value) =>
    strip (key ++ '=' :: value) = key ++ '=' :: value
      ∨ (call.env = none ∨ session.env_vars.row key = some value)
        ∧ (session.update (some (.env key value))).Has (read_update (exported_text key value))
  | .ok (.ran result) => call.given.structured = true ∨ session.Has (read_update (plain_output result))
  | .error _ => True

/-- Each call of a run is unmistaken in the session it finds. -/
def AllUnmistaken (executor : CoreToolExecutor) : Session → List ShellCall → Prop
  | _, [] => True
  | session, call :: rest => Unmistaken session call (executor.outcome session call)
      ∧ AllUnmistaken executor (executor.execute_tool session call) rest

/-! ## Texts -/

section Texts

variable {text key value : Text} {char : Char}

theorem mem_lstrip (hspace : is_space char = false) (h : char ∈ text) : char ∈ lstrip text := by
  unfold lstrip
  induction text with
  | nil => exact h
  | cons first rest ih =>
    rw [dropWhile_cons]
    split
    · next hfirst =>
      rcases mem_cons.mp h with rfl | hrest
      · rw [hspace] at hfirst
        cases hfirst
      · exact ih hrest
    · exact h

theorem mem_strip (hspace : is_space char = false) (h : char ∈ text) : char ∈ strip text := by
  unfold strip
  rw [mem_reverse]
  exact mem_lstrip hspace (mem_reverse.mpr (mem_lstrip hspace h))

theorem split_once_joined (h : '=' ∈ text) :
    (split_once text).1 ++ '=' :: (split_once text).2 = text := by
  unfold split_once
  induction text with
  | nil => cases h
  | cons first rest ih =>
    by_cases hfirst : first = '='
    · rw [hfirst]
      rfl
    · rw [takeWhile_cons_of_pos (by simpa using hfirst),
        dropWhile_cons_of_pos (by simpa using hfirst)]
      exact congrArg (first :: ·) (ih ((mem_cons.mp h).resolve_left (Ne.symm hfirst)))

theorem split_once_key (text : Text) : '=' ∉ (split_once text).1 := by
  intro hmem
  have hne := all_eq_true.mp all_takeWhile _ hmem
  simp at hne

theorem split_once_assignment (h : '=' ∉ key) : split_once (key ++ '=' :: value) = (key, value) := by
  have hkey : ∀ char ∈ key, decide (char ≠ '=') = true :=
    fun char hmem => decide_eq_true (ne_of_mem_of_not_mem hmem h)
  unfold split_once
  rw [takeWhile_append_of_pos hkey, dropWhile_append_of_pos hkey]
  simp

theorem read_changed (dir : Parts) :
    read_update (changed_text dir) = some (.cwd (strip (path_text dir))) := by
  have hslash : is_space '/' = false := by decide
  have hne : strip (path_text dir) ≠ [] :=
    ne_nil_of_mem (mem_strip hslash mem_cons_self)
  exact if_neg hne

theorem read_exported (key value : Text) : read_update (exported_text key value)
      = if (split_once (strip (key ++ '=' :: value))).1 = [] then none
        else some (.env (split_once (strip (key ++ '=' :: value))).1
          (split_once (strip (key ++ '=' :: value))).2) := by
  have hmem : '=' ∈ strip (key ++ '=' :: value) :=
    mem_strip (by decide) (mem_append_right _ mem_cons_self)
  exact if_pos (contains_iff_mem.mpr hmem)

end Texts

/-! ## Outcomes -/

section Outcomes

variable {given : Surroundings} {settings : ShellSettings} {command key value : Text}
  {cwd : Option Text} {env : Option Env} {roots : List Parts} {dir : Parts}

theorem failing_eq_ok {α : Type} {result : Except StoreError α} {found : α} :
    failing result = .ok found ↔ result = .ok found := by
  unfold failing
  split
  · exact iff_of_false nofun nofun
  · exact iff_of_false nofun nofun
  · rw [Except.ok.injEq, Except.ok.injEq]

theorem apply_cd_settled (h : apply_cd given command cwd = .ok (some dir)) :
    given.host.realpath dir = .ok dir := by
  obtain ⟨args, -, h⟩ := bind_eq_ok.mp h
  split at h
  · cases h
  · split at h
    · split at h
      · obtain ⟨base, -, h⟩ := bind_eq_ok.mp h
        obtain ⟨path, -, h⟩ := bind_eq_ok.mp h
        obtain ⟨resolved, hresolved, h⟩ := bind_eq_ok.mp h
        split at h
        · obtain rfl := Option.some.inj (pure_eq_ok.mp h)
          exact given.settled path resolved (failing_eq_ok.mp hresolved)
        · cases h
      · cases h
    · cases h

theorem roots_settled (h : resolve_roots given settings cwd = .ok roots) :
    roots.mapM (fun root => failing (given.host.realpath root)) = .ok roots := by
  have hmap : roots.map id = roots := map_id roots
  conv_lhs => rw [← hmap]
  refine mapM_map_eq_ok fun root hmem => ?_
  obtain ⟨text, -, hroot⟩ := exists_of_mem_mapM h hmem
  obtain ⟨path, -, hpath⟩ := bind_eq_ok.mp (failing_eq_ok.mp hroot)
  exact failing_eq_ok.mpr (given.settled path root hpath)

theorem validate_cwd_inside (hdir : given.host.realpath dir = .ok dir)
    (hroots : resolve_roots given settings cwd = .ok roots)
    (h : validate_cwd given settings dir roots = .ok ()) : path_under_any_root dir roots = true := by
  unfold validate_cwd at h
  split at h
  · rw [failing_eq_ok.mpr hdir, roots_settled hroots, ok_bind, ok_bind] at h
    split at h
    · next hinside => exact hinside
    · cases h
  · split at h
    · next hinside => exact hinside
    · cases h

theorem apply_export_key (h : apply_export command = .ok (some (key, value))) :
    key ≠ [] ∧ '=' ∉ key := by
  obtain ⟨args, -, h⟩ := bind_eq_ok.mp h
  split at h
  · cases h
  · split at h
    · split at h
      · next assignment =>
        split at h
        · split at h
          · cases h
          · next hne =>
            have hpair : split_once assignment = (key, value) :=
              Option.some.inj (pure_eq_ok.mp h)
            have hkey : (split_once assignment).1 = key := congrArg Prod.fst hpair
            rw [← hkey]
            exact ⟨hne, split_once_key assignment⟩
        · cases h
      · cases h
    · cases h

/-- A directory that is changed to lies under a root, and a variable that is exported has a name
without an equals sign. -/
theorem outcome_spec {outcome : Outcome} (h : bash_outcome given command cwd env = .ok outcome) :
    match outcome with
    | .changed dir => ∃ settings roots, given.settings = .ok settings
      ∧ resolve_roots given settings cwd = .ok roots ∧ path_under_any_root dir roots = true
    | .exported key _ => key ≠ [] ∧ '=' ∉ key
    | .ran _ => True := by
  obtain ⟨settings, hsettings, h⟩ := bind_eq_ok.mp h
  obtain ⟨execution_cwd, -, h⟩ := bind_eq_ok.mp h
  obtain ⟨changed, hchanged, h⟩ := bind_eq_ok.mp h
  cases changed with
  | some dir =>
    obtain ⟨roots, hroots, h⟩ := bind_eq_ok.mp h
    obtain ⟨⟨⟩, hvalid, h⟩ := bind_eq_ok.mp h
    obtain rfl := pure_eq_ok.mp h
    exact ⟨settings, roots, hsettings, hroots,
      validate_cwd_inside (apply_cd_settled hchanged) hroots hvalid⟩
  | none =>
    obtain ⟨exported, hexported, h⟩ := bind_eq_ok.mp h
    cases exported with
    | some pair =>
      obtain rfl := pure_eq_ok.mp h
      exact apply_export_key hexported
    | none =>
      obtain ⟨args, -, h⟩ := bind_eq_ok.mp h
      obtain ⟨result, -, h⟩ := bind_eq_ok.mp h
      obtain rfl := pure_eq_ok.mp h
      trivial

end Outcomes

/-! ## One call -/

namespace Session

variable {session other third : Session} {read : Option Update}

theorem Same.symm (h : session.Same other) : other.Same session :=
  ⟨h.cwd.symm, fun key => (h.env_vars key).symm⟩

theorem Same.trans (h : session.Same other) (h' : other.Same third) : session.Same third :=
  ⟨h.cwd.trans h'.cwd, fun key => (h.env_vars key).trans (h'.env_vars key)⟩

theorem Same.update (h : session.Same other) : (session.update read).Same (other.update read) := by
  rcases read with _ | ⟨new_cwd⟩ | ⟨key, value⟩
  · exact h
  · exact ⟨rfl, h.env_vars⟩
  · refine ⟨h.cwd, fun found => ?_⟩
    show (session.env_vars.put key value).row found = (other.env_vars.put key value).row found
    rw [row_put, row_put, h.env_vars found]

theorem same_update_iff : (session.update read).Same session ↔ session.Has read := by
  rcases read with _ | ⟨new_cwd⟩ | ⟨key, value⟩
  · exact iff_of_true ⟨rfl, fun _ => rfl⟩ trivial
  · exact ⟨fun h => h.cwd.symm, fun h => ⟨Eq.symm h, fun _ => rfl⟩⟩
  · constructor
    · intro h
      exact (h.env_vars key).symm.trans (row_put_self _ _ _)
    · intro h
      refine ⟨rfl, fun found => ?_⟩
      show (session.env_vars.put key value).row found = _
      rw [row_put]
      split
      · next hkey => rw [hkey, show session.env_vars.row key = some value from h]
      · rfl

/-- The environment was not the session's own, and the assignment is read otherwise than it was. -/
theorem same_exported_iff {key value : Text} (hread : read ≠ some (.env key value))
    (hcwd : ∀ new_cwd, read ≠ some (.cwd new_cwd)) :
    (session.update read).Same (session.update (some (.env key value)))
      ↔ session.env_vars.row key = some value
        ∧ (session.update (some (.env key value))).Has read := by
  constructor
  · intro h
    have hput := row_put_self session.env_vars key value
    rcases read with _ | ⟨new_cwd⟩ | ⟨found, other⟩
    · exact ⟨(h.env_vars key).trans hput, trivial⟩
    · exact absurd rfl (hcwd new_cwd)
    · have hother : (session.env_vars.put key value).row found = some other :=
        (h.env_vars found).symm.trans (row_put_self _ _ _)
      refine ⟨?_, hother⟩
      by_cases hkey : key = found
      · rw [← hkey, hput] at hother
        rw [← hkey, ← Option.some.inj hother] at hread
        exact absurd rfl hread
      · rw [← row_put_of_ne session.env_vars other hkey]
        exact (h.env_vars key).trans hput
  · rintro ⟨hrow, hhas⟩
    have hsame : (session.update (some (.env key value))).Same session := same_update_iff.mpr hrow
    exact hsame.symm.update.trans (same_update_iff.mpr hhas)

end Session

section Calls

variable {executor : CoreToolExecutor} {session : Session} {call : ShellCall}

theorem execute_unwritten
    (h : env_left session.env_vars (executor.outcome session call) = session.env_vars) :
    executor.execute_tool session call = session.update (read_update
      ((answer call.given.structured (executor.outcome session call)).str call.given.shown)) := by
  unfold CoreToolExecutor.execute_tool
  dsimp only
  rw [h, ite_self]

theorem exported_iff {key value : Text}
    (houtcome : executor.outcome session call = .ok (.exported key value)) :
    (executor.execute_tool session call).Same (session.update (some (.env key value)))
      ↔ Unmistaken session call (.ok (.exported key value)) := by
  obtain ⟨hne, hfree⟩ := outcome_spec houtcome
  have hexecute : executor.execute_tool session call
      = (if call.env.isNone then session.update (some (.env key value)) else session).update
          (read_update (exported_text key value)) := by
    unfold CoreToolExecutor.execute_tool
    rw [houtcome]
    rfl
  rw [hexecute]
  by_cases hstrip : strip (key ++ '=' :: value) = key ++ '=' :: value
  · refine iff_of_true ?_ (.inl hstrip)
    rw [read_exported, hstrip, split_once_assignment hfree, if_neg hne]
    split
    · exact Session.same_update_iff.mpr (row_put_self _ _ _)
    · exact ⟨rfl, fun _ => rfl⟩
  · unfold Unmistaken
    dsimp only
    rw [or_iff_right hstrip]
    cases henv : call.env with
    | none =>
      rw [if_pos Option.isNone_none, Session.same_update_iff]
      exact ⟨fun h => ⟨.inl rfl, h⟩, fun h => h.2⟩
    | some env =>
      rw [if_neg (by simp), Session.same_exported_iff, or_iff_right (by simp)]
      · intro hread
        rw [read_exported] at hread
        split at hread
        · cases hread
        · obtain ⟨hkey, hvalue⟩ := Update.env.inj (Option.some.inj hread)
          have hmem : '=' ∈ strip (key ++ '=' :: value) :=
            mem_strip (by decide) (mem_append_right _ mem_cons_self)
          have hjoined := split_once_joined hmem
          rw [hkey, hvalue] at hjoined
          exact hstrip hjoined.symm
      · intro new_cwd hread
        rw [read_exported] at hread
        split at hread
        · cases hread
        · cases hread

theorem changed_iff {dir : Parts} (houtcome : executor.outcome session call = .ok (.changed dir)) :
    (executor.execute_tool session call).Same (session.update (some (.cwd (path_text dir))))
      ↔ strip (path_text dir) = path_text dir := by
  have hread : read_update ((answer call.given.structured (.ok (.changed dir))).str
      call.given.shown) = some (.cwd (strip (path_text dir))) := read_changed dir
  rw [execute_unwritten (by rw [houtcome]; rfl), houtcome, hread]
  exact ⟨fun h => h.cwd, fun h => ⟨h, fun _ => rfl⟩⟩

/-- **One call.** -/
theorem call_followed_iff : (executor.execute_tool session call).Same
        (session.update (made (executor.outcome session call)))
      ↔ Unmistaken session call (executor.outcome session call) := by
  have hquiet (h : env_left session.env_vars (executor.outcome session call) = session.env_vars)
      (hread : read_update ((answer call.given.structured (executor.outcome session call)).str
        call.given.shown) = none) : (executor.execute_tool session call).Same session := by
    rw [execute_unwritten h, hread]
    exact ⟨rfl, fun _ => rfl⟩
  rcases houtcome : executor.outcome session call with failure | dir | ⟨key, value⟩ | result
  · rw [houtcome] at hquiet
    refine iff_of_true (hquiet rfl ?_) trivial
    unfold answer
    dsimp only
    split <;> rfl
  · exact changed_iff houtcome
  · exact exported_iff houtcome
  · cases hstructured : call.given.structured with
    | true =>
      rw [houtcome, hstructured] at hquiet
      exact iff_of_true (hquiet rfl rfl) (.inl hstructured)
    | false =>
      have hread : read_update ((answer call.given.structured (.ok (.ran result))).str
          call.given.shown) = read_update (plain_output result) := by
        rw [hstructured]
        rfl
      rw [execute_unwritten (by rw [houtcome]; rfl), houtcome, hread]
      refine Session.same_update_iff.trans (or_iff_right ?_).symm
      rw [hstructured]
      exact Bool.false_ne_true

theorem cwd_inside (h : (executor.execute_tool session call).Same
      (session.update (made (executor.outcome session call)))) :
    (executor.execute_tool session call).cwd = session.cwd
      ∨ Inside executor session call (executor.execute_tool session call).cwd := by
  rw [h.cwd]
  rcases houtcome : executor.outcome session call with failure | dir | ⟨key, value⟩ | result
  · exact .inl rfl
  · obtain ⟨settings, roots, hroots⟩ := outcome_spec houtcome
    exact .inr ⟨dir, settings, roots, rfl, hroots⟩
  · exact .inl rfl
  · exact .inl rfl

end Calls

/-! ## Any calls -/

/-- **The session is what the `cd` and `export` calls made of it, and its directory stays inside the
workspace, exactly when** stripping changes no directory and no assignment, and no output of a
program names another directory or value than the session's at its start. -/
theorem session_followed_iff (executor : CoreToolExecutor) (session : Session)
    (calls : List ShellCall) :
    Follows executor session session calls ↔ AllUnmistaken executor session calls := by
  suffices h : ∀ applied, session.Same applied →
      (Follows executor session applied calls ↔ AllUnmistaken executor session calls) from
    h session ⟨rfl, fun _ => rfl⟩
  induction calls generalizing session with
  | nil => exact fun _ _ => Iff.rfl
  | cons call rest ih =>
    intro applied hsame
    have happlied : (session.update (made (executor.outcome session call))).Same
        (applied.update (made (executor.outcome session call))) := hsame.update
    constructor
    · rintro ⟨hafter, -, hrest⟩
      exact ⟨call_followed_iff.mp (hafter.trans happlied.symm),
        (ih _ _ hafter).mp hrest⟩
    · rintro ⟨hunmistaken, hrest⟩
      have hafter := call_followed_iff.mpr hunmistaken
      exact ⟨hafter.trans happlied, cwd_inside hafter, (ih _ _ (hafter.trans happlied)).mpr hrest⟩

/-! ## A program that prints such a line -/

def sample_given (stdout : String) : Surroundings where
  host := { home := fun _ => none, getcwd := ["work".toList], realpath := .ok }
  settled _ _ _ := rfl
  is_dir _ := true
  settings := .ok
    { sandboxed := false, workspace_root := some "/work".toList, additional_workspace_roots := [] }
  structured := false
  ran _ _ _ := .ok { stdout := stdout.toList, stderr := [], returncode := 0 }
  shown _ := []

def sample_executor : CoreToolExecutor := ⟨some "/work".toList, "/work".toList⟩

/-- `echo "Changed directory to /etc"` moves the session out of the workspace. -/
theorem echo_changes_directory : ¬ Follows sample_executor ⟨"/work".toList, ∅⟩ ⟨"/work".toList, ∅⟩
      [{ command := "echo \"Changed directory to /etc\"".toList
         given := sample_given "Changed directory to /etc\n" }] := by
  rintro ⟨hsame, -⟩
  exact absurd hsame.cwd (by decide)

end CodingAgentLoop.ShellSession
