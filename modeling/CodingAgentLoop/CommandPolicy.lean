/-
Which commands run without an approval.

`evaluate_command_policy` looks at a command in four ways: at its text (shell syntax), at the words
`shlex.split` makes of it (destructive and network commands, by the words themselves), at the paths
that a regular expression finds in the words, and at the base name of the first word (the commands
that are safe). What the host answers is a parameter: the home directory that `expanduser` puts for
a leading `~`, the working directory of the process, and `realpath`, which follows links.
-/
import CodingAgentLoop.Errors
import CodingAgentLoop.Lib.ShellWords

open Lib Lib.TextLines

namespace CodingAgentLoop.CommandPolicy

/-! ## Texts and verdicts -/

def DEFAULT_MAX_TIMEOUT_SECONDS : Nat := 600

def DISALLOWED_SHELL_TOKENS : List Text :=
  ["&&".toList, "||".toList, "|".toList, ";".toList, ">".toList, ">>".toList, "<".toList,
    "2>".toList, "&".toList]

def SAFE_COMMANDS : List Text :=
  ["cat".toList, "echo".toList, "git".toList, "ls".toList, "python".toList, "python3".toList,
    "pytest".toList, "rg".toList, "ruff".toList, "test".toList, "uv".toList]

def APPROVAL_COMMANDS : List Text :=
  ["chmod".toList, "chown".toList, "cp".toList, "curl".toList, "docker".toList, "git".toList,
    "make".toList, "mv".toList, "pip".toList, "python".toList, "python3".toList, "rm".toList,
    "sh".toList, "uv".toList]

def DESTRUCTIVE_PATTERNS : List (Text × Text) :=
  [("rm".toList, "-rf".toList), ("rm".toList, "-fr".toList), ("git".toList, "clean".toList),
    ("git".toList, "reset".toList)]

inductive EnvironmentKind where
  | local
  | cloud
  deriving DecidableEq, Repr

inductive CommandPolicyDecision where
  | ALLOW
  | DENY
  | APPROVAL_REQUIRED
  deriving DecidableEq, Repr

inductive CommandPolicyReason where
  | SAFE_COMMAND
  | VALIDATION_COMMAND
  | EMPTY_COMMAND
  | SHELL_SYNTAX
  | CWD_ESCAPE
  | PATH_ESCAPE
  | UNSAFE_ENV_KEY
  | TIMEOUT_EXCEEDS_LIMIT
  | DESTRUCTIVE_COMMAND
  | NETWORK_COMMAND
  | UNKNOWN_COMMAND
  deriving DecidableEq, Repr

structure CommandPolicyVerdict where
  decision : CommandPolicyDecision
  reasons : List CommandPolicyReason
  command_name : Option Text
  environment_kind : EnvironmentKind
  timeout_seconds : Int
  deriving DecidableEq, Repr

/-! ## Paths -/

abbrev Parts : Type := List Text

structure Host where
  /-- `os.path.expanduser(part)` for a first part with a leading `~`. -/
  home : Text → Option Parts
  /-- `os.getcwd()`. -/
  getcwd : Parts
  /-- `os.path.realpath(path)` for an absolute path. -/
  realpath : Parts → Except StoreError Parts

def slash_parts : Text → Parts
  | [] => [[]]
  | char :: rest =>
    if char = '/' then [] :: slash_parts rest
    else (char :: (slash_parts rest).headD []) :: (slash_parts rest).tail

/-- `Path(text).parts`, but for the root of an absolute path. -/
def path_parts (text : Text) : Parts :=
  (slash_parts text).filter (fun part => part ≠ [] ∧ part ≠ ['.'])

/-- `Path(text).is_absolute()`. -/
def is_absolute (text : Text) : Bool := text.head? = some '/'

/-- The first part of a path that `expanduser` replaces. -/
def tilde (text : Text) : Option Text :=
  if is_absolute text then none
  else (path_parts text).head?.filter (fun part => part.head? = some '~')

/-- The path as the parts of an absolute one, where `base` is the directory it is relative to. -/
def absolute_parts (base : Parts) (text : Text) : Parts :=
  if is_absolute text then path_parts text else base ++ path_parts text

/-- `Path(text).expanduser()`, as the parts of an absolute path. -/
def expanduser (host : Host) (base : Parts) (text : Text) : Except StoreError Parts :=
  match tilde text with
  | none => .ok (absolute_parts base text)
  | some part =>
    match host.home part with
    | none => raise .RuntimeError "Could not determine home directory."
    | some home => .ok (home ++ (path_parts text).tail)

/-- `Path(text).expanduser().resolve()`. -/
def resolve (host : Host) (text : Text) : Except StoreError Parts := do
  let parts ← expanduser host host.getcwd text
  host.realpath parts

def path_inside_workspace (host : Host) (path : Text) (root : Parts) : Except StoreError Bool := do
  let resolved ← resolve host path
  return root.isPrefixOf resolved

/-- The characters that the regular expression for paths reads. -/
def is_path_char (char : Char) : Bool :=
  char.isAlphanum || char = '_' || char = '.' || char = '/' || char = '-'

/-- The rest of what `re.findall` finds: a slash and at least one such character after it, as many
as there are. `found` is what has been read of a match, from its slash. -/
def find_paths : Option Text → Text → List Text
  | none, [] => []
  | some found, [] => if found = ['/'] then [] else [found]
  | none, char :: rest =>
    if char = '/' then find_paths (some ['/']) rest else find_paths none rest
  | some found, char :: rest =>
    if is_path_char char then find_paths (some (found ++ [char])) rest
    else (if found = ['/'] then [] else [found]) ++ find_paths none rest

/-- `any(... for path in paths)` for a check that may raise. -/
def any_outside (host : Host) (root : Parts) : List Text → Except StoreError Bool
  | [] => .ok false
  | path :: rest => do
      let inside ← path_inside_workspace host path root
      if inside then any_outside host root rest else .ok true

def has_path_escape (host : Host) (args : List Text) (root : Parts) : Except StoreError Bool :=
  any_outside host root (args.flatMap (find_paths none))

/-! ## The checks -/

/-- `token in text`. -/
def contains_text (token text : Text) : Bool := text.tails.any token.isPrefixOf

def has_shell_syntax_risk (command : Text) : Bool :=
  DISALLOWED_SHELL_TOKENS.any (fun token => contains_text token command)

/-- `[A-Za-z_][A-Za-z0-9_]*`. -/
def safe_env_key (key : Text) : Bool :=
  key.head?.any (fun char => char.isAlpha || char = '_')
    && key.all (fun char => char.isAlphanum || char = '_')

/-- `Path(text).name`. -/
def path_name (text : Text) : Text := (path_parts text).getLast?.getD []

def safe_command_name (first_token : Text) : Option Text :=
  if '=' ∈ first_token then none
  else
    if path_name first_token ≠ [] ∧ (path_name first_token).all (fun char =>
        char.isAlphanum || char = '_' || char = '.' || char = '+' || char = '-') then
      some (path_name first_token)
    else none

def is_destructive (args : List Text) : Bool :=
  match args with
  | [] => false
  | command :: rest =>
    (command = "rm".toList ∧ rest.any (fun flag => flag = "-rf".toList ∨ flag = "-fr".toList))
      ∨ DESTRUCTIVE_PATTERNS.any (fun pattern =>
        command = pattern.1 ∧ rest.head? = some pattern.2)

def is_package_install (args : List Text) : Bool :=
  match args with
  | [] => false
  | command :: rest =>
    (command = "uv".toList ∧ rest.head? = some "pip".toList ∧ 2 ≤ rest.length)
      ∨ (command = "pip".toList ∧ rest.head? = some "install".toList)
      ∨ ((command = "python".toList ∨ command = "python3".toList)
        ∧ rest.take 3 = ["-m".toList, "pip".toList, "install".toList])

def is_network_client (args : List Text) : Bool :=
  args.head? = some "curl".toList ∨ args.head? = some "wget".toList

def approval_reasons (args : List Text) : List CommandPolicyReason :=
  if is_destructive args then [.DESTRUCTIVE_COMMAND]
  else if is_network_client args then [.NETWORK_COMMAND]
  else if is_package_install args then [.NETWORK_COMMAND]
  else if args.head?.any (fun command => command ∈ APPROVAL_COMMANDS ∧ command ∉ SAFE_COMMANDS) then
    [.UNKNOWN_COMMAND]
  else []

/-- What `evaluate_command_policy` is given beside the command. -/
structure Circumstances where
  environment_kind : EnvironmentKind
  workspace_root : Option Text := none
  cwd : Option Text := none
  env : Option (List Text) := none
  timeout_seconds : Int := 120
  validation_command : Bool := false
  max_timeout_seconds : Int := DEFAULT_MAX_TIMEOUT_SECONDS

/-- `cwd is None or _path_inside_workspace(cwd, root)`. -/
def cwd_inside (host : Host) (root : Parts) : Option Text → Except StoreError Bool
  | none => .ok true
  | some cwd => path_inside_workspace host cwd root

def workspace_reasons (host : Host) (args : List Text) (given : Circumstances) :
    Except StoreError (List CommandPolicyReason) :=
  match given.workspace_root with
  | none => .ok []
  | some workspace_root => do
      let root ← resolve host workspace_root
      let inside ← cwd_inside host root given.cwd
      let escape ← has_path_escape host args root
      return (if inside then [] else [.CWD_ESCAPE]) ++ (if escape then [.PATH_ESCAPE] else [])

def deny_reasons (host : Host) (raw_syntax_risk : Bool) (args : List Text)
    (given : Circumstances) : Except StoreError (List CommandPolicyReason) := do
  let syntax_reasons :=
    if raw_syntax_risk ∨ args.any (· ∈ DISALLOWED_SHELL_TOKENS) then
      [CommandPolicyReason.SHELL_SYNTAX]
    else []
  let timeout_reasons :=
    if given.max_timeout_seconds < given.timeout_seconds then
      [CommandPolicyReason.TIMEOUT_EXCEEDS_LIMIT]
    else []
  let env_reasons :=
    if (given.env.getD []).any (fun key => !safe_env_key key) then
      [CommandPolicyReason.UNSAFE_ENV_KEY]
    else []
  let outside ← workspace_reasons host args given
  return syntax_reasons ++ timeout_reasons ++ env_reasons ++ outside

def evaluate_command_policy (host : Host) (command : Text) (given : Circumstances) :
    Except StoreError CommandPolicyVerdict :=
  let verdict := fun decision reasons command_name => CommandPolicyVerdict.mk decision reasons
    command_name given.environment_kind given.timeout_seconds
  match ShellWords.split command with
  | .error _ => .ok (verdict .DENY [.SHELL_SYNTAX] none)
  | .ok [] => .ok (verdict .DENY [.EMPTY_COMMAND] none)
  | .ok (first :: rest) => do
      let command_name := safe_command_name first
      let denied ← deny_reasons host (has_shell_syntax_risk command) (first :: rest) given
      if denied ≠ [] then return verdict .DENY denied command_name
      else if approval_reasons (first :: rest) ≠ [] then
        return verdict .APPROVAL_REQUIRED (approval_reasons (first :: rest)) command_name
      else if given.validation_command ∧ command_name.any (· ∈ SAFE_COMMANDS) then
        return verdict .ALLOW [.VALIDATION_COMMAND] command_name
      else if command_name.any (· ∈ SAFE_COMMANDS) then
        return verdict .ALLOW [.SAFE_COMMAND] command_name
      else return verdict .APPROVAL_REQUIRED [.UNKNOWN_COMMAND] command_name

end CodingAgentLoop.CommandPolicy
