/-
Whether the views of `evaluate_command_policy` agree.

Two things are asked of the policy. Where it allows a command, every path that an argument spells is
in the workspace; and a destructive or network command that is not allowed does not become allowed
when its first word is given as a path, or when options are put before the subcommand. The path scan
reads an argument as the path it spells only where the regular expression matches all of it
(`ReadAsSpelled`), and the lists of destructive and network commands go by the words as they stand,
while the list of safe commands goes by the base name. `command_policy_iff` says for which commands
nothing comes of this.
-/
import CodingAgentLoop.CommandPolicy
import Mathlib.Data.List.Infix

open Lib Lib.TextLines

namespace CodingAgentLoop.CommandPolicy

open List Result

variable {host : Host} {command : Text} {given : Circumstances} {args : List Text}

/-! ## What an argument spells -/

/-- `os.path.normpath` of an absolute path: a parent step takes the last part away. -/
def normalize (parts : Parts) : Parts :=
  parts.foldl (fun above part => if part = "..".toList then above.dropLast else above ++ [part]) []

def option_values : Text → List Text
  | [] => []
  | char :: rest => if char = '=' then rest :: option_values rest else option_values rest

def spelled_texts (word : Text) : List Text := word :: option_values word

/-- The path that a text spells in the directory `dir`: an absolute one, one below a home directory,
or a relative one with parent steps. -/
def spelled_path (host : Host) (dir : Parts) (text : Text) : Option Parts :=
  if is_absolute text then some (normalize (path_parts text))
  else
    match (tilde text).bind host.home with
    | some home => some (normalize (home ++ (path_parts text).tail))
    | none =>
      if (path_parts text).any fun part => part = "..".toList then
        some (normalize (dir ++ path_parts text))
      else none

def SpellsInside (host : Host) (workspace_root cwd text : Text) : Prop :=
  ∀ root dir path, expanduser host host.getcwd workspace_root = .ok root →
    expanduser host host.getcwd cwd = .ok dir → spelled_path host dir text = some path →
      normalize root <+: path

/-- The regular expression matches the whole text, and no link is on the way to it, nor on the way
to the root. -/
def ReadAsSpelled (host : Host) (workspace_root text : Text) : Prop :=
  (∃ rest, text = '/' :: rest ∧ rest ≠ [] ∧ ∀ char ∈ rest, is_path_char char = true)
    ∧ host.realpath (path_parts text) = .ok (normalize (path_parts text))
    ∧ ∀ root, expanduser host host.getcwd workspace_root = .ok root →
      host.realpath root = .ok (normalize root)

/-! ## What the scan finds -/

theorem find_paths_append (pre rest : Text) : ∀ found : Option Text,
    find_paths found (pre ++ '=' :: rest) = find_paths found pre ++ find_paths none rest := by
  have hequals : is_path_char '=' = false := by decide
  have hslash : ¬ '=' = '/' := by decide
  induction pre with
  | nil =>
    intro found
    cases found with
    | none => simp [find_paths, hslash]
    | some found => simp [find_paths, hequals]
  | cons char pre ih =>
    intro found
    rw [cons_append]
    cases found with
    | none =>
      rw [find_paths, find_paths]
      by_cases hchar : char = '/'
      · rw [if_pos hchar, if_pos hchar, ih]
      · rw [if_neg hchar, if_neg hchar, ih]
    | some found =>
      rw [find_paths, find_paths]
      by_cases hchar : is_path_char char = true
      · rw [if_pos hchar, if_pos hchar, ih]
      · rw [if_neg hchar, if_neg hchar, ih, append_assoc]

theorem find_paths_match {rest : Text} : ∀ {found : Text},
    (∀ char ∈ rest, is_path_char char = true) → found ++ rest ≠ ['/'] →
      find_paths (some found) rest = [found ++ rest] := by
  induction rest with
  | nil =>
    intro found _ hne
    rw [append_nil] at hne ⊢
    rw [find_paths, if_neg hne]
  | cons char rest ih =>
    intro found hall hne
    have happend : found ++ char :: rest = (found ++ [char]) ++ rest := by simp
    rw [happend] at hne ⊢
    rw [find_paths, if_pos (hall char mem_cons_self)]
    exact ih (fun other hother => hall other (mem_cons_of_mem _ hother)) hne

theorem find_paths_whole {rest : Text} (hne : rest ≠ [])
    (hall : ∀ char ∈ rest, is_path_char char = true) :
    find_paths none ('/' :: rest) = ['/' :: rest] := by
  rw [find_paths, if_pos rfl, find_paths_match hall]
  · rfl
  · intro hslash
    exact hne (List.cons.inj hslash).2

theorem mem_option_values {word text : Text} (h : text ∈ option_values word) :
    ∃ pre, word = pre ++ '=' :: text := by
  induction word with
  | nil => cases h
  | cons char rest ih =>
    rw [option_values] at h
    by_cases hequals : char = '='
    · rw [if_pos hequals] at h
      rcases mem_cons.mp h with rfl | hrest
      · exact ⟨[], by rw [hequals, nil_append]⟩
      · obtain ⟨pre, rfl⟩ := ih hrest
        exact ⟨char :: pre, rfl⟩
    · rw [if_neg hequals] at h
      obtain ⟨pre, rfl⟩ := ih h
      exact ⟨char :: pre, rfl⟩

theorem find_paths_spelled {word rest : Text} (h : '/' :: rest ∈ spelled_texts word)
    (hne : rest ≠ []) (hall : ∀ char ∈ rest, is_path_char char = true) :
    '/' :: rest ∈ find_paths none word := by
  have hwhole := find_paths_whole hne hall
  rcases mem_cons.mp h with hword | hvalue
  · rw [← hword, hwhole]
    exact mem_singleton_self _
  · obtain ⟨pre, rfl⟩ := mem_option_values hvalue
    rw [find_paths_append, hwhole]
    exact mem_append_right _ (mem_singleton_self _)

theorem any_outside_eq_ok_false {root : Parts} {paths : List Text} :
    any_outside host root paths = .ok false ↔
      ∀ path ∈ paths, path_inside_workspace host path root = .ok true := by
  induction paths with
  | nil => simp [any_outside]
  | cons path rest ih =>
    rw [any_outside, bind_eq_ok, forall_mem_cons]
    constructor
    · rintro ⟨inside, hinside, hrest⟩
      cases inside with
      | true => exact ⟨hinside, ih.mp hrest⟩
      | false => cases hrest
    · rintro ⟨hinside, hrest⟩
      exact ⟨true, hinside, ih.mpr hrest⟩

/-! ## When no reason to deny is found -/

def is_shell_char (char : Char) : Bool := char ∈ ['&', '|', ';', '<', '>']

theorem shell_char_of_token {token : Text} (h : token ∈ DISALLOWED_SHELL_TOKENS) :
    ∃ char ∈ token, is_shell_char char = true := by
  have hany : ∀ token ∈ DISALLOWED_SHELL_TOKENS, token.any is_shell_char = true := by decide
  exact any_eq_true.mp (hany token h)

theorem token_of_shell_char {char : Char} (h : is_shell_char char = true) :
    [char] ∈ DISALLOWED_SHELL_TOKENS := by
  have hall : ∀ char ∈ ['&', '|', ';', '<', '>'], [char] ∈ DISALLOWED_SHELL_TOKENS :=
    forall_mem_of_all (by decide)
  exact hall char (by simpa [is_shell_char] using h)

theorem has_shell_syntax_risk_iff (text : Text) :
    has_shell_syntax_risk text = true ↔ ∃ char ∈ text, is_shell_char char = true := by
  unfold has_shell_syntax_risk contains_text
  rw [any_eq_true]
  constructor
  · rintro ⟨token, htoken, hfound⟩
    obtain ⟨later, hlater, hstart⟩ := any_eq_true.mp hfound
    obtain ⟨char, hchar, hshell⟩ := shell_char_of_token htoken
    have hinside := (List.isPrefixOf_iff_prefix.mp hstart).subset hchar
    exact ⟨char, ((mem_tails _ _).mp hlater).subset hinside, hshell⟩
  · rintro ⟨char, hchar, hshell⟩
    obtain ⟨before, later, rfl⟩ := append_of_mem hchar
    refine ⟨[char], token_of_shell_char hshell, any_eq_true.mpr ⟨char :: later, ?_, ?_⟩⟩
    · exact (mem_tails _ _).mpr (suffix_append _ _)
    · simp [List.isPrefixOf]

theorem shell_char_plain {char : Char} (h : is_shell_char char = true) :
    ShellWords.is_special char = false := by
  have hall : ∀ char ∈ ['&', '|', ';', '<', '>'], ShellWords.is_special char = false :=
    forall_mem_of_all (by decide)
  exact hall char (by simpa [is_shell_char] using h)

/-- What is looked at has no reason to be denied. -/
structure Clear (host : Host) (args : List Text) (given : Circumstances) : Prop where
  plain : ∀ word ∈ args, ∀ char ∈ word, is_shell_char char = false
  in_time : ¬ given.max_timeout_seconds < given.timeout_seconds
  keys : (given.env.getD []).any (fun key => !safe_env_key key) = false
  inside : ∀ workspace_root, given.workspace_root = some workspace_root →
    ∃ root, resolve host workspace_root = .ok root
      ∧ (∀ cwd, given.cwd = some cwd → path_inside_workspace host cwd root = .ok true)
      ∧ ∀ word ∈ args, ∀ path ∈ find_paths none word,
        path_inside_workspace host path root = .ok true

theorem cwd_inside_eq_ok_true {root : Parts} {cwd : Option Text} :
    cwd_inside host root cwd = .ok true ↔
      ∀ dir, cwd = some dir → path_inside_workspace host dir root = .ok true := by
  cases cwd with
  | none => simp [cwd_inside]
  | some dir => simp [cwd_inside]

theorem workspace_reasons_eq_nil : workspace_reasons host args given = .ok [] ↔
    ∀ workspace_root, given.workspace_root = some workspace_root →
      ∃ root, resolve host workspace_root = .ok root
        ∧ (∀ cwd, given.cwd = some cwd → path_inside_workspace host cwd root = .ok true)
        ∧ ∀ word ∈ args, ∀ path ∈ find_paths none word,
          path_inside_workspace host path root = .ok true := by
  have hscan : ∀ root, has_path_escape host args root = .ok false ↔
      ∀ word ∈ args, ∀ path ∈ find_paths none word,
        path_inside_workspace host path root = .ok true := by
    intro root
    rw [has_path_escape, any_outside_eq_ok_false]
    simp only [mem_flatMap, forall_exists_index, and_imp]
    exact ⟨fun h word hword path hpath => h path word hword hpath,
      fun h path word hword hpath => h word hword path hpath⟩
  unfold workspace_reasons
  cases given.workspace_root with
  | none => simp
  | some workspace_root =>
    dsimp only
    simp only [Option.some.injEq, forall_eq', bind_eq_ok]
    refine exists_congr (fun root => and_congr_right (fun _ => ?_))
    rw [← cwd_inside_eq_ok_true, ← hscan]
    constructor
    · rintro ⟨inside, hinside, escape, hescape, hreasons⟩
      cases inside with
      | false => cases hreasons
      | true =>
        cases escape with
        | false => exact ⟨hinside, hescape⟩
        | true => cases hreasons
    · rintro ⟨hinside, hescape⟩
      exact ⟨true, hinside, false, hescape, rfl⟩

theorem deny_reasons_eq_nil (hsplit : ShellWords.split command = .ok args) :
    deny_reasons host (has_shell_syntax_risk command) args given = .ok [] ↔
      Clear host args given := by
  have hspecial : (has_shell_syntax_risk command = true ∨ args.any (· ∈ DISALLOWED_SHELL_TOKENS))
      ↔ ¬ ∀ word ∈ args, ∀ char ∈ word, is_shell_char char = false := by
    have hrisk : has_shell_syntax_risk command = true ↔
        ∃ char, is_shell_char char = true ∧ ∃ word ∈ args, char ∈ word := by
      rw [has_shell_syntax_risk_iff]
      constructor
      · rintro ⟨char, hchar, hshell⟩
        exact ⟨char, hshell,
          (ShellWords.mem_split (shell_char_plain hshell) hsplit).mpr hchar⟩
      · rintro ⟨char, hshell, hword⟩
        exact ⟨char, (ShellWords.mem_split (shell_char_plain hshell) hsplit).mp hword, hshell⟩
    have htoken : args.any (· ∈ DISALLOWED_SHELL_TOKENS) = true →
        ∃ char, is_shell_char char = true ∧ ∃ word ∈ args, char ∈ word := by
      intro hany
      obtain ⟨word, hword, hmem⟩ := any_eq_true.mp hany
      obtain ⟨char, hchar, hshell⟩ := shell_char_of_token (of_decide_eq_true hmem)
      exact ⟨char, hshell, word, hword, hchar⟩
    rw [hrisk, or_iff_left_of_imp htoken]
    constructor
    · rintro ⟨char, hshell, word, hword, hchar⟩ hplain
      rw [hplain word hword char hchar] at hshell
      cases hshell
    · intro hnot
      push Not at hnot
      obtain ⟨word, hword, char, hchar, hshell⟩ := hnot
      exact ⟨char, eq_true_of_ne_false hshell, word, hword, hchar⟩
  unfold deny_reasons
  dsimp only
  rw [bind_eq_ok]
  constructor
  · rintro ⟨outside, houtside, hreasons⟩
    have hnil := Except.ok.inj hreasons
    simp only [append_eq_nil_iff, ite_eq_right_iff, cons_ne_nil, imp_false] at hnil
    obtain ⟨⟨⟨hplain, htime⟩, hkeys⟩, rfl⟩ := hnil
    exact ⟨not_not.mp (fun h => hplain (hspecial.mpr h)), htime, Bool.eq_false_iff.mpr hkeys,
      workspace_reasons_eq_nil.mp houtside⟩
  · intro hclear
    refine ⟨[], workspace_reasons_eq_nil.mpr hclear.inside, ?_⟩
    rw [if_neg (fun h => hspecial.mp h hclear.plain), if_neg hclear.in_time,
      if_neg (by rw [hclear.keys]; exact Bool.false_ne_true)]
    rfl

/-! ## When a command is allowed -/

/-- The command is answered with `ALLOW`. -/
def Allowed (host : Host) (command : Text) (given : Circumstances) : Prop :=
  ∃ verdict, evaluate_command_policy host command given = .ok verdict ∧ verdict.decision = .ALLOW

/-- No list has anything against the words, and the base name of the first is a safe command. -/
structure Passes (host : Host) (args : List Text) (given : Circumstances) : Prop where
  clear : Clear host args given
  unlisted : approval_reasons args = []
  safe : ∃ first, args.head? = some first ∧ (safe_command_name first).any (· ∈ SAFE_COMMANDS) = true

theorem allowed_iff (hsplit : ShellWords.split command = .ok args) :
    Allowed host command given ↔ Passes host args given := by
  unfold Allowed evaluate_command_policy
  rw [hsplit]
  cases args with
  | nil =>
    constructor
    · rintro ⟨verdict, hverdict, hallow⟩
      cases Except.ok.inj hverdict
      cases hallow
    · intro hpasses
      obtain ⟨first, hfirst, -⟩ := hpasses.safe
      cases hfirst
  | cons first rest =>
    dsimp only
    constructor
    · rintro ⟨verdict, hverdict, hallow⟩
      obtain ⟨denied, hdenied, hanswer⟩ := bind_eq_ok.mp hverdict
      by_cases hnone : denied = []
      · rw [if_neg (not_not.mpr hnone)] at hanswer
        by_cases hunlisted : approval_reasons (first :: rest) = []
        · rw [if_neg (not_not.mpr hunlisted)] at hanswer
          by_cases hsafe : (safe_command_name first).any (· ∈ SAFE_COMMANDS) = true
          · exact ⟨(deny_reasons_eq_nil hsplit).mp (hnone ▸ hdenied), hunlisted,
              first, rfl, hsafe⟩
          · rw [if_neg (fun h => hsafe h.2), if_neg hsafe] at hanswer
            cases Except.ok.inj hanswer
            cases hallow
        · rw [if_pos hunlisted] at hanswer
          cases Except.ok.inj hanswer
          cases hallow
      · rw [if_pos hnone] at hanswer
        cases Except.ok.inj hanswer
        cases hallow
    · rintro ⟨hclear, hunlisted, head, hhead, hsafe⟩
      obtain rfl : first = head := Option.some.inj hhead
      rw [(deny_reasons_eq_nil hsplit).mpr hclear, ok_bind,
        if_neg (not_not.mpr rfl), if_neg (not_not.mpr hunlisted)]
      by_cases hvalidation : given.validation_command = true
      · rw [if_pos ⟨hvalidation, hsafe⟩]
        exact ⟨_, rfl, rfl⟩
      · rw [if_neg (fun h => hvalidation h.1), if_pos hsafe]
        exact ⟨_, rfl, rfl⟩

/-! ## Paths of an allowed command -/

/-- Where the command is allowed, what its arguments spell is in the workspace. -/
def PathsInside (host : Host) (command : Text) (given : Circumstances) : Prop :=
  ∀ workspace_root cwd args, given.workspace_root = some workspace_root → given.cwd = some cwd →
    ShellWords.split command = .ok args → Allowed host command given →
      ∀ word ∈ args, ∀ text ∈ spelled_texts word, SpellsInside host workspace_root cwd text

/-- What the arguments spell that the scan does not read as it is spelled is in the workspace. -/
def UnreadInside (host : Host) (command : Text) (given : Circumstances) : Prop :=
  ∀ workspace_root cwd args, given.workspace_root = some workspace_root → given.cwd = some cwd →
    ShellWords.split command = .ok args → Passes host args given →
      ∀ word ∈ args, ∀ text ∈ spelled_texts word, ¬ ReadAsSpelled host workspace_root text →
        SpellsInside host workspace_root cwd text

theorem Clear.spells_inside (h : Clear host args given) {workspace_root cwd word text : Text}
    (hroot : given.workspace_root = some workspace_root) (hword : word ∈ args)
    (htext : text ∈ spelled_texts word) (hread : ReadAsSpelled host workspace_root text) :
    SpellsInside host workspace_root cwd text := by
  obtain ⟨⟨rest, rfl, hne, hall⟩, hpath, hlinks⟩ := hread
  intro base dir path hbase hdir hspelled
  obtain ⟨root, hresolved, -, hscan⟩ := h.inside workspace_root hroot
  have habsolute : is_absolute ('/' :: rest) = true := rfl
  -- The root and the path are what they spell.
  have hreal : root = normalize base := by
    rw [resolve, hbase, ok_bind, hlinks base hbase] at hresolved
    exact (Except.ok.inj hresolved).symm
  have hsame : path = normalize (path_parts ('/' :: rest)) := by
    rw [spelled_path, if_pos habsolute] at hspelled
    exact (Option.some.inj hspelled).symm
  have hinside := hscan word hword _ (find_paths_spelled htext hne hall)
  have htilde : tilde ('/' :: rest) = none := if_pos habsolute
  have hparts : absolute_parts host.getcwd ('/' :: rest) = path_parts ('/' :: rest) :=
    if_pos habsolute
  rw [path_inside_workspace, resolve, expanduser, htilde] at hinside
  dsimp only at hinside
  rw [ok_bind, hparts, hpath, ok_bind] at hinside
  rw [hsame, ← hreal]
  exact isPrefixOf_iff_prefix.mp (Except.ok.inj hinside)

theorem paths_inside_iff : PathsInside host command given ↔ UnreadInside host command given := by
  constructor
  · intro h workspace_root cwd args hroot hcwd hsplit hpasses word hword text htext _
    exact h workspace_root cwd args hroot hcwd hsplit ((allowed_iff hsplit).mpr hpasses) word hword
      text htext
  · intro h workspace_root cwd args hroot hcwd hsplit hallowed word hword text htext
    have hpasses := (allowed_iff hsplit).mp hallowed
    by_cases hread : ReadAsSpelled host workspace_root text
    · exact hpasses.clear.spells_inside hroot hword htext hread
    · exact h workspace_root cwd args hroot hcwd hsplit hpasses word hword text htext hread

/-! ## Variants of a command -/

/-- A command of the lists of destructive and network commands. -/
def is_listed (args : List Text) : Bool :=
  is_destructive args || is_network_client args || is_package_install args

/-- The first word is given as a path, or options stand before the subcommand. -/
def Variant (args args' : List Text) : Prop :=
  ∃ first rest, args = first :: rest
    ∧ ((∃ path, path_name path = first ∧ args' = path :: rest)
      ∨ ∃ options, (∀ option ∈ options.head?, option.head? = some '-')
        ∧ args' = first :: (options ++ rest))

/-- A listed command that is not allowed has no variant that is. -/
def VariantsHeld (host : Host) (command : Text) (given : Circumstances) : Prop :=
  ∀ args verdict, ShellWords.split command = .ok args → is_listed args = true →
    evaluate_command_policy host command given = .ok verdict → verdict.decision ≠ .ALLOW →
      ∀ command' args', ShellWords.split command' = .ok args' → Variant args args' →
        ¬ Allowed host command' given

/-- A listed command of a program that is safe otherwise has a reason to be denied. -/
def ListedDenied (host : Host) (command : Text) (given : Circumstances) : Prop :=
  ∀ first rest, ShellWords.split command = .ok (first :: rest) →
    is_listed (first :: rest) = true → first ∈ SAFE_COMMANDS →
      ¬ Clear host (first :: rest) given

def LISTED_COMMANDS : List Text :=
  ["rm".toList, "git".toList, "curl".toList, "wget".toList, "uv".toList, "pip".toList,
    "python".toList, "python3".toList]

variable {first : Text}

theorem listed_command {rest : List Text} (h : is_listed (first :: rest) = true) :
    first ∈ LISTED_COMMANDS := by
  have hpattern : ∀ pattern ∈ DESTRUCTIVE_PATTERNS, pattern.1 ∈ LISTED_COMMANDS := by decide
  rw [is_listed, Bool.or_eq_true, Bool.or_eq_true] at h
  rcases h with (hdestructive | hnetwork) | hpackage
  · rcases of_decide_eq_true hdestructive with ⟨rfl, -⟩ | hlisted
    · decide
    · obtain ⟨pattern, hmem, hsame⟩ := any_eq_true.mp hlisted
      rw [(of_decide_eq_true hsame).1]
      exact hpattern pattern hmem
  · rcases of_decide_eq_true hnetwork with hcurl | hwget
    · rw [Option.some.inj hcurl]
      decide
    · rw [Option.some.inj hwget]
      decide
  · rcases of_decide_eq_true hpackage with ⟨rfl, -⟩ | ⟨rfl, -⟩ | ⟨rfl | rfl, -⟩ <;> decide

theorem listed_command_plain (h : first ∈ LISTED_COMMANDS) :
    path_name first = first ∧ find_paths none first = []
      ∧ ∀ char ∈ first, is_shell_char char = false := by
  have hall : ∀ first ∈ LISTED_COMMANDS, path_name first = first ∧ find_paths none first = []
      ∧ first.all (fun char => decide (is_shell_char char = false)) = true := by decide
  obtain ⟨hname, hpaths, hplain⟩ := hall first h
  exact ⟨hname, hpaths, forall_mem_of_all hplain⟩

theorem approval_reasons_ne_nil (h : is_listed args = true) : approval_reasons args ≠ [] := by
  unfold approval_reasons
  by_cases hdestructive : is_destructive args = true
  · rw [if_pos hdestructive]
    exact cons_ne_nil _ _
  · by_cases hnetwork : is_network_client args = true
    · rw [if_neg hdestructive, if_pos hnetwork]
      exact cons_ne_nil _ _
    · have hpackage : is_package_install args = true := by
        simpa [is_listed, hdestructive, hnetwork] using h
      rw [if_neg hdestructive, if_neg hnetwork, if_pos hpackage]
      exact cons_ne_nil _ _

theorem approval_reasons_option (h : first ∈ SAFE_COMMANDS) (rest : List Text) :
    approval_reasons (first :: "-q".toList :: rest) = [] := by
  have hname : ∀ name ∈ SAFE_COMMANDS, name ≠ "rm".toList ∧ name ≠ "curl".toList
      ∧ name ≠ "wget".toList := by decide
  have hpattern : ∀ pattern ∈ DESTRUCTIVE_PATTERNS, pattern.2 ≠ "-q".toList := by decide
  obtain ⟨hrm, hcurl, hwget⟩ := hname first h
  have hdestructive : is_destructive (first :: "-q".toList :: rest) = false := by
    refine decide_eq_false ?_
    rintro (⟨hsame, -⟩ | hlisted)
    · exact hrm hsame
    · obtain ⟨pattern, hmem, hsame⟩ := any_eq_true.mp hlisted
      exact hpattern pattern hmem (Option.some.inj (of_decide_eq_true hsame).2).symm
  have hnetwork : is_network_client (first :: "-q".toList :: rest) = false := by
    refine decide_eq_false ?_
    rintro (hsame | hsame)
    · exact hcurl (Option.some.inj hsame)
    · exact hwget (Option.some.inj hsame)
  have hpackage : is_package_install (first :: "-q".toList :: rest) = false := by
    refine decide_eq_false ?_
    rintro (⟨-, hsame, -⟩ | ⟨-, hsame⟩ | ⟨-, hsame⟩)
    · exact absurd (Option.some.inj hsame) (by decide)
    · exact absurd (Option.some.inj hsame) (by decide)
    · exact absurd (List.cons.inj hsame).1 (by decide)
  unfold approval_reasons
  rw [hdestructive, hnetwork, hpackage]
  simp [h]

theorem Clear.mono {args' : List Text} (h : Clear host args' given)
    (hwords : ∀ word ∈ args, word ∈ args' ∨ word ∈ LISTED_COMMANDS) : Clear host args given where
  plain word hword := by
    rcases hwords word hword with hsame | hlisted
    · exact h.plain word hsame
    · exact (listed_command_plain hlisted).2.2
  in_time := h.in_time
  keys := h.keys
  inside workspace_root hroot := by
    obtain ⟨root, hresolved, hcwd, hscan⟩ := h.inside workspace_root hroot
    refine ⟨root, hresolved, hcwd, fun word hword path hpath => ?_⟩
    rcases hwords word hword with hsame | hlisted
    · exact hscan word hsame path hpath
    · rw [(listed_command_plain hlisted).2.1] at hpath
      cases hpath

theorem Clear.option {rest : List Text} (h : Clear host (first :: rest) given) :
    Clear host (first :: "-q".toList :: rest) given where
  plain word hword := by
    rcases mem_cons.mp hword with rfl | hword
    · exact h.plain _ mem_cons_self
    · rcases mem_cons.mp hword with rfl | hword
      · exact forall_mem_of_all (by decide)
      · exact h.plain word (mem_cons_of_mem _ hword)
  in_time := h.in_time
  keys := h.keys
  inside workspace_root hroot := by
    obtain ⟨root, hresolved, hcwd, hscan⟩ := h.inside workspace_root hroot
    refine ⟨root, hresolved, hcwd, fun word hword path hpath => ?_⟩
    rcases mem_cons.mp hword with rfl | hword
    · exact hscan _ mem_cons_self path hpath
    · rcases mem_cons.mp hword with rfl | hword
      · cases hpath
      · exact hscan word (mem_cons_of_mem _ hword) path hpath

theorem safe_command_name_eq_some {first name : Text} (h : safe_command_name first = some name) :
    name = path_name first := by
  unfold safe_command_name at h
  split at h
  · cases h
  · split at h
    · exact (Option.some.inj h).symm
    · cases h

theorem safe_command_name_safe (h : first ∈ SAFE_COMMANDS) :
    (safe_command_name first).any (· ∈ SAFE_COMMANDS) = true := by
  revert first
  decide

theorem variants_held_iff : VariantsHeld host command given ↔ ListedDenied host command given := by
  constructor
  · intro h first rest hsplit hlisted hsafe hclear
    have hunlisted := approval_reasons_ne_nil hlisted
    have hdeny := (deny_reasons_eq_nil hsplit).mpr hclear
    -- The command is not allowed as it stands, and it is with an option.
    have hanswer : ∃ verdict, evaluate_command_policy host command given = .ok verdict
        ∧ verdict.decision ≠ .ALLOW := by
      unfold evaluate_command_policy
      rw [hsplit]
      dsimp only
      rw [hdeny, ok_bind, if_neg (not_not.mpr rfl), if_pos hunlisted]
      exact ⟨_, rfl, by simp⟩
    obtain ⟨verdict, hverdict, hheld⟩ := hanswer
    have hjoin := ShellWords.split_join (first :: "-q".toList :: rest)
    refine h _ verdict hsplit hlisted hverdict hheld _ _ hjoin
      ⟨first, rest, rfl, .inr ⟨["-q".toList], ?_, rfl⟩⟩ ((allowed_iff hjoin).mpr ?_)
    · rintro option hoption
      obtain rfl := Option.mem_some_iff.mp hoption
      rfl
    · exact ⟨hclear.option, approval_reasons_option hsafe rest, first, rfl,
        safe_command_name_safe hsafe⟩
  · rintro h args verdict hsplit hlisted hverdict hheld command' args' hsplit' hvariant hallowed
    obtain ⟨hclear, hunlisted, head, hhead, hsafe⟩ := (allowed_iff hsplit').mp hallowed
    obtain ⟨first, rest, rfl, hcases⟩ := hvariant
    have hcommand := listed_command hlisted
    -- The base name is that of the first word.
    have hname : path_name head = first := by
      rcases hcases with ⟨path, hpath, rfl⟩ | ⟨options, -, rfl⟩
      · rw [← Option.some.inj hhead, hpath]
      · rw [← Option.some.inj hhead]
        exact (listed_command_plain hcommand).1
    have hfirst : first ∈ SAFE_COMMANDS := by
      cases hsome : safe_command_name head with
      | none =>
        rw [hsome] at hsafe
        cases hsafe
      | some name =>
        rw [hsome] at hsafe
        rw [← hname, ← safe_command_name_eq_some hsome]
        exact of_decide_eq_true hsafe
    refine h first rest hsplit hlisted hfirst (hclear.mono (fun word hword => ?_))
    rcases mem_cons.mp hword with rfl | hrest
    · exact .inr hcommand
    · refine .inl ?_
      rcases hcases with ⟨path, -, rfl⟩ | ⟨options, -, rfl⟩
      · exact mem_cons_of_mem _ hrest
      · exact mem_cons_of_mem _ (mem_append_right _ hrest)

/-! ## Both together -/

def AllowsWhatItMeans (host : Host) (command : Text) (given : Circumstances) : Prop :=
  PathsInside host command given ∧ VariantsHeld host command given

/-- **The policy allows only what it means to allow** where what the scan cannot read is in the
workspace, and a listed command of a safe program has a reason to be denied. -/
theorem command_policy_iff (host : Host) (command : Text) (given : Circumstances) :
    AllowsWhatItMeans host command given ↔
      UnreadInside host command given ∧ ListedDenied host command given :=
  and_congr paths_inside_iff variants_held_iff

def plain_host : Host where
  home _ := none
  getcwd := []
  realpath parts := .ok (normalize parts)

/-- **`ls ..` is allowed in the workspace root.** -/
theorem parent_listing_allowed :
    ¬ ∀ (host : Host) (command : Text) (given : Circumstances),
      AllowsWhatItMeans host command given := by
  intro hall
  have hpaths := (hall plain_host "ls ..".toList
    { environment_kind := .local, workspace_root := some "/ws".toList,
      cwd := some "/ws".toList }).1
  have hinside := hpaths "/ws".toList "/ws".toList ["ls".toList, "..".toList] rfl rfl
    (by decide +kernel) ⟨_, rfl, by decide +kernel⟩ "..".toList (by decide) "..".toList (by decide)
    ["ws".toList] ["ws".toList] [] (by decide +kernel) (by decide +kernel) (by decide +kernel)
  revert hinside
  decide

end CodingAgentLoop.CommandPolicy
