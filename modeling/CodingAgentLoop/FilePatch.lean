/-
The tool that applies a unified diff to a file, and the plan it checks first.

Two parsers read the same patch text. `parse_unified_diff` keeps the line endings and collects the
lines of each hunk; `parse_hunk_plans` drops them and counts. The lines of a hunk are then looked
for in the file, at the line its header names or near it, and replaced there, hunk after hunk.
-/
import CodingAgentLoop.Errors
import CodingAgentLoop.Lib.TextLines
import Mathlib.Algebra.GroupWithZero.Nat

namespace CodingAgentLoop.FilePatch

open Lib Lib.TextLines

/-! ## Hunk headers -/

structure HunkHeader where
  old_start : Nat
  old_count : Nat
  new_start : Nat
  new_count : Nat
  deriving DecidableEq

/-- `(?:,(\d+))?`, where a count that is left out is one. -/
def optional_count (text : Text) : Nat × Text :=
  match (expect [','] text).bind number with
  | some read => read
  | none => (1, text)

/-- `^@@ -(\d+)(?:,(\d+))? \+(\d+)(?:,(\d+))? @@`. -/
def match_header (line : Text) : Option HunkHeader := do
  let rest ← expect ['@', '@', ' ', '-'] line
  let old_start ← number rest
  let old_count := optional_count old_start.2
  let rest ← expect [' ', '+'] old_count.2
  let new_start ← number rest
  let new_count := optional_count new_start.2
  let _ ← expect [' ', '@', '@'] new_count.2
  some ⟨old_start.1, old_count.1, new_start.1, new_count.1⟩

def opens_hunk (raw : Text) : Bool := startswith raw ['@', '@', ' ']

def no_newline_marker : Text := "\\ No newline at end of file".toList

def is_no_newline_marker (raw : Text) : Bool := startswith raw no_newline_marker

/-! ## The hunks that are applied -/

structure Hunk where
  header : HunkHeader
  lines : List (Char × Text)
  deriving DecidableEq

def line_tags : List Char := [' ', '+', '-']

/-- The lines of a hunk, and the lines from the one that ends it. -/
def hunk_lines : List Text → List (Char × Text) × List Text
  | [] => ([], [])
  | raw :: rest =>
    if opens_hunk raw then ([], raw :: rest)
    else if is_no_newline_marker raw then hunk_lines rest
    else if raw = ['\n'] ∨ raw = ['\r', '\n'] then
      ((' ', raw) :: (hunk_lines rest).1, (hunk_lines rest).2)
    else
      match raw with
      | [] => ([], raw :: rest)
      | tag :: text =>
        if tag ∈ line_tags then ((tag, text) :: (hunk_lines rest).1, (hunk_lines rest).2)
        else ([], raw :: rest)

theorem hunk_lines_tagged {c : Char} {text : Text} {rest : List Text}
    (hopens : opens_hunk (c :: text) = false) (hmarker : is_no_newline_marker (c :: text) = false)
    (hblank : ¬ (c :: text = ['\n'] ∨ c :: text = ['\r', '\n'])) :
    hunk_lines ((c :: text) :: rest)
      = if c ∈ line_tags then ((c, text) :: (hunk_lines rest).1, (hunk_lines rest).2)
        else ([], (c :: text) :: rest) := by
  rw [hunk_lines, if_neg (by rw [hopens]; simp), if_neg (by rw [hmarker]; simp), if_neg hblank]

/-- The hunks in the lines of a patch, of which there are at most `fuel`. -/
def parse_hunks : Nat → List Text → List Hunk
  | 0, _ => []
  | _ + 1, [] => []
  | fuel + 1, line :: rest =>
    match match_header line with
    | none => parse_hunks fuel rest
    | some header => ⟨header, (hunk_lines rest).1⟩ :: parse_hunks fuel (hunk_lines rest).2

def parse_unified_diff (patch_text : Text) : Except StoreError (List Hunk) :=
  let lines := splitlines patch_text true
  let hunks := parse_hunks lines.length lines
  if hunks = [] then raise .ValueError "No hunks found in patch" else .ok hunks

def Hunk.expected (hunk : Hunk) : List Text :=
  (hunk.lines.filter fun line => line.1 = ' ' ∨ line.1 = '-').map Prod.snd

def matches_at (file_lines expected : List Text) (pos : Nat) : Bool :=
  decide (pos + expected.length ≤ file_lines.length)
    && (file_lines.drop pos).take expected.length == expected

def search_window : Nat := 50

def find_hunk_pos (file_lines : List Text) (hunk : Hunk) : Option Nat :=
  if hunk.expected = [] then some (min file_lines.length (hunk.header.old_start - 1))
  else
    let preferred := hunk.header.old_start - 1
    if matches_at file_lines hunk.expected preferred then some preferred
    else
      let first := preferred - search_window
      let last := min file_lines.length (preferred + search_window)
      (List.range' first (last + 1 - first)).find? (matches_at file_lines hunk.expected)

/-- The block that replaces the lines of a hunk from `cursor` on, and the line after them. -/
def apply_lines (out : List Text) : Nat → List (Char × Text) →
    Except StoreError (List Text × Nat)
  | cursor, [] => .ok ([], cursor)
  | cursor, (tag, text) :: lines =>
    if tag = ' ' then do
      raise_if (out[cursor]? ≠ some text) .ValueError "Context mismatch while applying hunk"
      let applied ← apply_lines out (cursor + 1) lines
      .ok (text :: applied.1, applied.2)
    else if tag = '-' then do
      raise_if (out[cursor]? ≠ some text) .ValueError "Deletion mismatch while applying hunk"
      apply_lines out (cursor + 1) lines
    else if tag = '+' then do
      let applied ← apply_lines out cursor lines
      .ok (text :: applied.1, applied.2)
    else apply_lines out cursor lines

structure HunkResult where
  hunk : Nat
  status : String
  applied_at : Nat
  old_start : Nat
  new_start : Nat
  deriving DecidableEq

def apply_hunk (out : List Text) (idx : Nat) (hunk : Hunk) :
    Except StoreError (List Text × HunkResult) :=
  match find_hunk_pos out hunk with
  | none => raise .ValueError "Context not found for hunk"
  | some pos => do
    let applied ← apply_lines out pos hunk.lines
    .ok (out.take pos ++ applied.1 ++ out.drop applied.2,
      { hunk := idx, status := "applied", applied_at := pos + 1, old_start := hunk.header.old_start,
        new_start := hunk.header.new_start })

def apply_from (idx : Nat) (out : List Text) : List Hunk →
    Except StoreError (List Text × List HunkResult)
  | [] => .ok (out, [])
  | hunk :: hunks => do
    let applied ← apply_hunk out idx hunk
    let rest ← apply_from (idx + 1) applied.1 hunks
    .ok (rest.1, applied.2 :: rest.2)

def apply_hunks_to_lines (file_lines : List Text) (hunks : List Hunk) :
    Except StoreError (List Text × List HunkResult) :=
  apply_from 0 file_lines hunks

/-! ## The plan -/

structure PatchHunkPlan where
  index : Nat
  header : HunkHeader
  additions : Nat
  deletions : Nat
  context_lines : Nat
  deriving DecidableEq

/-- The counts of a hunk so far. -/
structure Tally where
  additions : Nat := 0
  deletions : Nat := 0
  context_lines : Nat := 0

/-- The counts of the lines of a hunk, and the lines from the one that ends it. -/
def tally_lines (tally : Tally) : List Text → Tally × List Text
  | [] => (tally, [])
  | raw :: rest =>
    if opens_hunk raw then (tally, raw :: rest)
    else if is_no_newline_marker raw then tally_lines tally rest
    else
      match raw with
      | [] => tally_lines { tally with context_lines := tally.context_lines + 1 } rest
      | tag :: _ =>
        if tag = '+' then tally_lines { tally with additions := tally.additions + 1 } rest
        else if tag = '-' then tally_lines { tally with deletions := tally.deletions + 1 } rest
        else if tag = ' ' then
          tally_lines { tally with context_lines := tally.context_lines + 1 } rest
        else (tally, raw :: rest)

def count_mismatch (header : HunkHeader) (tally : Tally) : String :=
  "Hunk body does not match header counts: expected -" ++ toString header.old_count ++ " +"
    ++ toString header.new_count ++ ", got -" ++ toString (tally.deletions + tally.context_lines)
    ++ " +" ++ toString (tally.additions + tally.context_lines)

/-- The plans of the hunks in the lines of a patch, numbered from `index`. -/
def plan_hunks : Nat → Nat → List Text → Except StoreError (List PatchHunkPlan)
  | 0, _, _ => .ok []
  | _ + 1, _, [] => .ok []
  | fuel + 1, index, line :: rest =>
    match match_header line with
    | none => plan_hunks fuel index rest
    | some header => do
      let tallied := tally_lines {} rest
      raise_if (tallied.1.deletions + tallied.1.context_lines ≠ header.old_count
          ∨ tallied.1.additions + tallied.1.context_lines ≠ header.new_count)
        .ValueError (count_mismatch header tallied.1)
      let plans ← plan_hunks fuel (index + 1) tallied.2
      .ok ({ index, header, additions := tallied.1.additions, deletions := tallied.1.deletions,
             context_lines := tallied.1.context_lines } :: plans)

def header_count (lines : List Text) (literal : String) : Nat :=
  lines.countP fun line => startswith line literal.toList

def reject_multi_file_patch (lines : List Text) : Except StoreError Unit := do
  raise_if (1 < header_count lines "diff --git ") .ValueError
    "Patch plan supports a single target file"
  raise_if (1 < header_count lines "--- " ∨ 1 < header_count lines "+++ ") .ValueError
    "Patch plan supports a single target file"

def parse_hunk_plans (patch : Text) : Except StoreError (List PatchHunkPlan) := do
  let lines := splitlines patch false
  reject_multi_file_patch lines
  let hunks ← plan_hunks lines.length 0 lines
  if hunks = [] then raise .ValueError "No hunks found in patch" else .ok hunks

inductive PatchOperation where
  | MODIFY
  | CREATE
  | DELETE
  deriving DecidableEq

inductive PatchRiskLevel where
  | LOW
  | MEDIUM
  | HIGH

def PatchOperation.value : PatchOperation → String
  | .MODIFY => "modify"
  | .CREATE => "create"
  | .DELETE => "delete"

def total_additions (hunks : List PatchHunkPlan) : Nat := (hunks.map PatchHunkPlan.additions).sum

def total_deletions (hunks : List PatchHunkPlan) : Nat := (hunks.map PatchHunkPlan.deletions).sum

def classify_operation (hunks : List PatchHunkPlan) (file_exists : Option Bool) : PatchOperation :=
  if file_exists = some false ∧ 0 < total_additions hunks ∧ total_deletions hunks = 0 then .CREATE
  else if total_additions hunks = 0 ∧ 0 < total_deletions hunks then .DELETE
  else .MODIFY

def risk_reasons (operation : PatchOperation) (hunk_count changed_lines : Nat) : List String :=
  (if operation = .CREATE ∨ operation = .DELETE then ["operation_" ++ operation.value] else [])
    ++ (if 1 < hunk_count then ["multiple_hunks"] else [])
    ++ (if 200 < changed_lines then ["large_change"]
        else if 25 < changed_lines then ["moderate_change"] else [])

def classify_risk (operation : PatchOperation) (hunk_count additions deletions : Nat) :
    PatchRiskLevel × List String :=
  let reasons := risk_reasons operation hunk_count (additions + deletions)
  if "large_change" ∈ reasons ∨ operation = .DELETE then (.HIGH, reasons)
  else if reasons ≠ [] then (.MEDIUM, reasons)
  else (.LOW, ["small_modify"])

structure PatchPlan where
  path : String
  operation : PatchOperation
  file_exists : Option Bool
  hunk_count : Nat
  additions : Nat
  deletions : Nat
  risk_level : PatchRiskLevel
  risk_reasons : List String
  hunks : List PatchHunkPlan

def build_patch_plan (path : String) (patch : Text) (file_exists : Option Bool) :
    Except StoreError PatchPlan := do
  let hunks ← parse_hunk_plans patch
  let operation := classify_operation hunks file_exists
  let risk := classify_risk operation hunks.length (total_additions hunks) (total_deletions hunks)
  .ok { path, operation, file_exists, hunk_count := hunks.length,
        additions := total_additions hunks, deletions := total_deletions hunks,
        risk_level := risk.1, risk_reasons := risk.2, hunks }

/-! ## The tool -/

/-- What a call that reports success says, and the content it leaves. -/
structure FilePatchSuccess where
  plan : PatchPlan
  changed : Bool
  hunks : List HunkResult
  content : Text

/-- The call on a file that exists, may be edited and holds `original`; an exception is the error of
its report. -/
def bound_file_patch (path : String) (patch original : Text) (dry_run : Bool) :
    Except StoreError FilePatchSuccess := do
  let plan ← build_patch_plan path patch (some true)
  let hunks ← parse_unified_diff patch
  let applied ← apply_hunks_to_lines (splitlines original true) hunks
  let new_content := applied.1.flatten
  .ok { plan, changed := new_content ≠ original, hunks := applied.2,
        content := if dry_run then original else new_content }

end CodingAgentLoop.FilePatch
