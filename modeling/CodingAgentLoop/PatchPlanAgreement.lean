/-
When the plan of a patch counts the lines that are applied.

The parsers agree on every line but one kind: a line that is empty up to its ending. The plan counts
it as context whatever ended it; the parser of the edit knows the empty line by `\n` and `\r\n` only
and takes any other ending for the end of the hunk. `hunk_agrees` compares the two along one hunk,
`plans_agree` along the patch.
-/
import CodingAgentLoop.FilePatch

namespace CodingAgentLoop.FilePatch

open Lib Lib.TextLines List Result

/-! ## One line with and without its ending -/

section Lines

variable {line : Line}

theorem opens_hunk_kept (h : line.WellFormed) : opens_hunk line.kept = opens_hunk line.text :=
  startswith_append (boundary_free rfl) h.ended

theorem is_no_newline_marker_kept (h : line.WellFormed) :
    is_no_newline_marker line.kept = is_no_newline_marker line.text :=
  startswith_append (boundary_free rfl) h.ended

theorem optional_count_append {text ending : Text}
    (hending : ∀ c ∈ ending.head?, is_line_boundary c = true) :
    optional_count (text ++ ending)
      = ((optional_count text).1, (optional_count text).2 ++ ending) := by
  unfold optional_count
  rw [expect_append (boundary_free rfl) hending]
  cases hcomma : expect [','] text with
  | none => rfl
  | some rest =>
    simp only [Option.map_some, Option.bind_some]
    rw [number_append hending]
    cases number rest <;> rfl

theorem match_header_kept (h : line.WellFormed) : match_header line.kept = match_header line.text := by
  have hending := h.ended
  unfold Line.kept match_header
  rw [expect_append (boundary_free rfl) hending]
  cases expect ['@', '@', ' ', '-'] line.text with
  | none => rfl
  | some rest =>
    simp only [Option.map_some, Option.bind_eq_bind, Option.bind_some]
    rw [number_append hending]
    cases number rest with
    | none => rfl
    | some old_start =>
      simp only [Option.map_some, Option.bind_some]
      rw [optional_count_append hending, expect_append (boundary_free rfl) hending]
      cases expect [' ', '+'] (optional_count old_start.2).2 with
      | none => rfl
      | some rest =>
        simp only [Option.map_some, Option.bind_some]
        rw [number_append hending]
        cases number rest with
        | none => rfl
        | some new_start =>
          simp only [Option.map_some, Option.bind_some]
          rw [optional_count_append hending, expect_append (boundary_free rfl) hending]
          cases expect [' ', '@', '@'] (optional_count new_start.2).2 <;> rfl

theorem opens_hunk_of_header {text : Text} (h : (match_header text).isSome = true) :
    opens_hunk text = true := by
  unfold match_header at h
  have hsplit := expect_concat ['@', '@', ' '] ['-'] text
  unfold opens_hunk startswith
  cases hopens : expect ['@', '@', ' '] text with
  | some rest => rfl
  | none =>
    rw [hopens] at hsplit
    rw [show ['@', '@', ' ', '-'] = ['@', '@', ' '] ++ ['-'] from rfl, hsplit] at h
    cases h

/-- An empty line that neither `\n` nor `\r\n` ends. -/
def OddBlank (line : Line) : Prop :=
  line.text = [] ∧ line.ending ≠ ['\n'] ∧ line.ending ≠ ['\r', '\n']

def in_hunk (line : Line) : Bool :=
  !opens_hunk line.text
    && (is_no_newline_marker line.text
      || match line.text with
        | [] => true
        | tag :: _ => decide (tag ∈ line_tags))

theorem kept_blank (h : line.WellFormed) :
    (line.kept = ['\n'] ∨ line.kept = ['\r', '\n']) ↔ line.text = [] ∧ ¬ OddBlank line := by
  unfold OddBlank Line.kept
  cases htext : line.text with
  | nil =>
    rw [nil_append]
    tauto
  | cons c text =>
    have hplain := h.plain c (by rw [htext]; exact mem_cons_self)
    simp only [cons_append, List.cons.injEq, reduceCtorEq, false_and, iff_false, not_or, not_and]
    constructor
    · rintro rfl
      cases hplain
    · rintro rfl
      cases hplain

end Lines

/-! ## One hunk -/

def Tally.add (tally : Tally) (lines : List (Char × Text)) : Tally where
  additions := tally.additions + lines.countP fun line => line.1 = '+'
  deletions := tally.deletions + lines.countP fun line => line.1 = '-'
  context_lines := tally.context_lines + lines.countP fun line => line.1 = ' '

def HunkPlain (lines : List Line) : Prop := ∀ line ∈ lines.takeWhile in_hunk, ¬ OddBlank line

theorem Tally.add_append (tally : Tally) (lines lines' : List (Char × Text)) :
    (tally.add lines).add lines' = tally.add (lines ++ lines') := by
  unfold Tally.add
  simp only [countP_append, Nat.add_assoc]

theorem tally_context_le (tally : Tally) (lines : List Text) :
    tally.context_lines ≤ (tally_lines tally lines).1.context_lines := by
  induction lines generalizing tally with
  | nil => exact Nat.le_refl _
  | cons raw rest ih =>
    have hcontext := ih { tally with context_lines := tally.context_lines + 1 }
    have haddition := ih { tally with additions := tally.additions + 1 }
    have hdeletion := ih { tally with deletions := tally.deletions + 1 }
    simp only at hcontext haddition hdeletion
    unfold tally_lines
    split
    · exact Nat.le_refl _
    · split
      · exact ih tally
      · split
        · omega
        · split
          · omega
          · split
            · omega
            · split
              · omega
              · exact Nat.le_refl _

/-- The two parsers along a hunk: they read the same lines when it is plain, and otherwise the plan
counts more context. -/
structure HunkAgrees (tally : Tally) (lines : List Line) : Prop where
  same : HunkPlain lines →
    (tally_lines tally (lines.map Line.text)).1 = tally.add (hunk_lines (lines.map Line.kept)).1
      ∧ (tally_lines tally (lines.map Line.text)).2 = (lines.dropWhile in_hunk).map Line.text
      ∧ (hunk_lines (lines.map Line.kept)).2 = (lines.dropWhile in_hunk).map Line.kept
  short : ¬ HunkPlain lines →
    (tally.add (hunk_lines (lines.map Line.kept)).1).context_lines
      < (tally_lines tally (lines.map Line.text)).1.context_lines

variable {rest : List Line} {line : Line}

theorem HunkAgrees.stop {tally : Tally} (hout : in_hunk line = false)
    (htally : tally_lines tally ((line :: rest).map Line.text) = (tally, (line :: rest).map Line.text))
    (hlines : hunk_lines ((line :: rest).map Line.kept) = ([], (line :: rest).map Line.kept)) :
    HunkAgrees tally (line :: rest) := by
  have hdrop : (line :: rest).dropWhile in_hunk = line :: rest :=
    dropWhile_cons_of_neg (by rw [hout]; simp)
  constructor
  · intro _
    rw [htally, hlines, hdrop]
    exact ⟨rfl, rfl, rfl⟩
  · intro hplain
    have htake : (line :: rest).takeWhile in_hunk = [] :=
      takeWhile_cons_of_neg (by rw [hout]; simp)
    unfold HunkPlain at hplain
    rw [htake] at hplain
    exact absurd (fun _ hmem => by cases hmem) hplain

theorem HunkAgrees.take {tally tally' : Tally} {taken : List (Char × Text)}
    (hin : in_hunk line = true) (hodd : ¬ OddBlank line)
    (hadd : ∀ lines, tally'.add lines = tally.add (taken ++ lines))
    (htally : tally_lines tally ((line :: rest).map Line.text)
      = tally_lines tally' (rest.map Line.text))
    (hlines : hunk_lines ((line :: rest).map Line.kept)
      = (taken ++ (hunk_lines (rest.map Line.kept)).1, (hunk_lines (rest.map Line.kept)).2))
    (h : HunkAgrees tally' rest) : HunkAgrees tally (line :: rest) := by
  have hdrop : (line :: rest).dropWhile in_hunk = rest.dropWhile in_hunk :=
    dropWhile_cons_of_pos hin
  have hplain : HunkPlain (line :: rest) ↔ HunkPlain rest := by
    unfold HunkPlain
    rw [takeWhile_cons_of_pos hin]
    constructor
    · intro h other hmem
      exact h other (mem_cons_of_mem _ hmem)
    · intro h other hmem
      rcases mem_cons.mp hmem with rfl | hmem
      · exact hodd
      · exact h other hmem
  constructor
  · intro hplain'
    rw [htally, hlines, hdrop, ← hadd]
    exact h.same (hplain.mp hplain')
  · intro hplain'
    rw [htally, hlines, ← hadd]
    exact h.short fun hrest => hplain' (hplain.mpr hrest)

theorem add_nothing (tally : Tally) (lines : List (Char × Text)) :
    tally.add lines = tally.add ([] ++ lines) := rfl

theorem hunk_agrees (lines : List Line) (hlines : ∀ line ∈ lines, line.WellFormed) (tally : Tally) :
    HunkAgrees tally lines := by
  induction lines generalizing tally with
  | nil => exact ⟨fun _ => ⟨rfl, rfl, rfl⟩, fun h => absurd (fun _ hmem => by cases hmem) h⟩
  | cons line rest ih =>
    have hline := hlines line mem_cons_self
    have hrest := ih fun other hmem => hlines other (mem_cons_of_mem _ hmem)
    by_cases hopens : opens_hunk line.text = true
    · apply HunkAgrees.stop
      · simp [in_hunk, hopens]
      · simp [tally_lines, hopens]
      · simp [hunk_lines, opens_hunk_kept hline, hopens]
    rw [Bool.not_eq_true] at hopens
    by_cases hmarker : is_no_newline_marker line.text = true
    · have htext : line.text ≠ [] := by
        intro htext
        rw [htext] at hmarker
        cases hmarker
      apply HunkAgrees.take (by simp [in_hunk, hopens, hmarker]) (fun hodd => htext hodd.1)
        (add_nothing tally) _ _ (hrest tally)
      · simp [tally_lines, hopens, hmarker]
      · simp [hunk_lines, opens_hunk_kept hline, is_no_newline_marker_kept hline, hopens, hmarker]
    rw [Bool.not_eq_true] at hmarker
    have hopens' : opens_hunk line.kept = false := (opens_hunk_kept hline).trans hopens
    have hmarker' : is_no_newline_marker line.kept = false :=
      (is_no_newline_marker_kept hline).trans hmarker
    have hblank := kept_blank hline
    cases htext : line.text with
    | nil =>
      have hin : in_hunk line = true := by
        rw [htext] at hopens
        simp [in_hunk, htext, hopens]
      have htally : tally_lines tally ((line :: rest).map Line.text)
          = tally_lines (tally.add [(' ', line.kept)]) (rest.map Line.text) := by
        rw [htext] at hopens hmarker
        simp [tally_lines, htext, hopens, hmarker, Tally.add]
      by_cases hodd : OddBlank line
      · -- the edit's hunk ends here, the plan's does not
        obtain ⟨c, ending, hending⟩ := exists_cons_of_ne_nil (hline.present htext)
        have hcons : line.kept = c :: ending := by rw [Line.kept, htext, hending, nil_append]
        have hc : is_line_boundary c = true := hline.ended c (by rw [hending]; rfl)
        have htag : c ∉ line_tags := by
          intro htag
          simp only [line_tags, mem_cons, not_mem_nil, or_false] at htag
          rcases htag with rfl | rfl | rfl <;> cases hc
        have hkept : ¬ (c :: ending = ['\n'] ∨ c :: ending = ['\r', '\n']) := by
          rw [← hcons]
          exact fun hkept => (hblank.mp hkept).2 hodd
        rw [hcons] at hopens' hmarker'
        have hlines : hunk_lines ((line :: rest).map Line.kept) = ([], (line :: rest).map Line.kept) := by
          rw [map_cons, hcons, hunk_lines_tagged hopens' hmarker' hkept, if_neg htag]
        constructor
        · intro hplain
          refine absurd hodd (hplain line ?_)
          rw [takeWhile_cons_of_pos hin]
          exact mem_cons_self
        · intro _
          rw [htally, hlines]
          have hle := tally_context_le (tally.add [(' ', line.kept)]) (rest.map Line.text)
          have hgrown : (tally.add [(' ', line.kept)]).context_lines = tally.context_lines + 1 := by
            simp [Tally.add]
          show tally.context_lines < _
          omega
      · have hkept := hblank.mpr ⟨htext, hodd⟩
        apply HunkAgrees.take hin hodd (Tally.add_append tally [(' ', line.kept)]) htally _ (hrest _)
        simp [hunk_lines, hopens', hmarker', hkept]
    | cons c text =>
      have hodd : ¬ OddBlank line := by
        rintro ⟨hnil, -⟩
        rw [htext] at hnil
        cases hnil
      have hkept : ¬ (line.kept = ['\n'] ∨ line.kept = ['\r', '\n']) := by
        intro hkept
        rw [(hblank.mp hkept).1] at htext
        cases htext
      have hcons : line.kept = c :: (text ++ line.ending) := by rw [Line.kept, htext, cons_append]
      rw [htext] at hopens hmarker
      rw [hcons] at hopens' hmarker' hkept
      by_cases htag : c ∈ line_tags
      · have htally : tally_lines tally ((line :: rest).map Line.text)
            = tally_lines (tally.add [(c, text ++ line.ending)]) (rest.map Line.text) := by
          simp only [line_tags, mem_cons, not_mem_nil, or_false] at htag
          rcases htag with rfl | rfl | rfl <;>
            simp [tally_lines, htext, hopens, hmarker, Tally.add]
        apply HunkAgrees.take (by simp [in_hunk, htext, hopens, htag]) hodd
          (Tally.add_append tally [(c, text ++ line.ending)]) htally _ (hrest _)
        rw [map_cons, hcons, hunk_lines_tagged hopens' hmarker' hkept, if_pos htag]
        rfl
      · apply HunkAgrees.stop
        · simp [in_hunk, htext, hopens, hmarker, htag]
        · simp only [line_tags, mem_cons, not_mem_nil, or_false, not_or] at htag
          simp [tally_lines, htext, hopens, hmarker, htag]
        · rw [map_cons, hcons, hunk_lines_tagged hopens' hmarker' hkept, if_neg htag]

/-! ## The whole patch -/

/-- The plan has the header of the hunk, and counts its lines. -/
structure Describes (plan : PatchHunkPlan) (hunk : Hunk) : Prop where
  header : plan.header = hunk.header
  additions : plan.additions = hunk.lines.countP fun line => line.1 = '+'
  deletions : plan.deletions = hunk.lines.countP fun line => line.1 = '-'
  context_lines : plan.context_lines = hunk.lines.countP fun line => line.1 = ' '

def HunksPlain (lines : List Line) : Prop :=
  ∀ before header after, lines = before ++ header :: after →
    (match_header header.text).isSome = true → HunkPlain after

theorem hunks_plain_cons : HunksPlain (line :: rest) ↔
    ((match_header line.text).isSome = true → HunkPlain rest) ∧ HunksPlain rest := by
  constructor
  · intro h
    refine ⟨h [] line rest rfl, fun before header after heq => ?_⟩
    exact h (line :: before) header after (by rw [heq, cons_append])
  · rintro ⟨hline, hrest⟩ before header after heq hheader
    cases before with
    | nil =>
      obtain ⟨rfl, rfl⟩ := List.cons.inj heq
      exact hline hheader
    | cons first before =>
      exact hrest before header after (List.cons.inj heq).2 hheader

theorem hunks_plain_drop (lines : List Line) :
    HunksPlain lines ↔ HunksPlain (lines.dropWhile in_hunk) := by
  induction lines with
  | nil => exact Iff.rfl
  | cons line rest ih =>
    by_cases hin : in_hunk line = true
    · rw [dropWhile_cons_of_pos hin, ← ih, hunks_plain_cons]
      have hheader : ¬ (match_header line.text).isSome = true := by
        intro hheader
        simp [in_hunk, opens_hunk_of_header hheader] at hin
      exact ⟨And.right, fun h => ⟨fun hline => absurd hline hheader, h⟩⟩
    · rw [dropWhile_cons_of_neg hin]

theorem plans_agree (fuel : Nat) (index : Nat) (lines : List Line)
    (hlines : ∀ line ∈ lines, line.WellFormed) (hfuel : lines.length ≤ fuel)
    {plans : List PatchHunkPlan} (hplans : plan_hunks fuel index (lines.map Line.text) = .ok plans) :
    List.Forall₂ Describes plans (parse_hunks fuel (lines.map Line.kept)) ↔ HunksPlain lines := by
  induction fuel generalizing index lines plans with
  | zero =>
    cases hplans
    rw [eq_nil_of_length_eq_zero (Nat.le_zero.mp hfuel)]
    exact ⟨fun _ before header after heq => by simp at heq, fun _ => List.Forall₂.nil⟩
  | succ fuel ih =>
    cases lines with
    | nil =>
      cases hplans
      exact ⟨fun _ before header after heq => by simp at heq, fun _ => List.Forall₂.nil⟩
    | cons line rest =>
      have hline := hlines line mem_cons_self
      have hrest : ∀ other ∈ rest, other.WellFormed :=
        fun other hmem => hlines other (mem_cons_of_mem _ hmem)
      have hfuel_rest : rest.length ≤ fuel := by
        simp only [length_cons] at hfuel
        omega
      rw [map_cons, plan_hunks] at hplans
      rw [map_cons, parse_hunks, match_header_kept hline, hunks_plain_cons]
      cases hheader : match_header line.text with
      | none =>
        rw [hheader] at hplans
        simp only [Option.isSome_none, Bool.false_eq_true, false_implies, true_and]
        exact ih index rest hrest hfuel_rest hplans
      | some header =>
        rw [hheader] at hplans
        simp only at hplans
        rw [check_bind_eq_ok, bind_eq_ok] at hplans
        obtain ⟨-, later, hlater, heq⟩ := hplans
        cases heq
        have hagrees := hunk_agrees rest hrest {}
        rw [forall₂_cons]
        simp only [Option.isSome_some, true_implies]
        by_cases hplain : HunkPlain rest
        · obtain ⟨hcounts, hleft, hleft'⟩ := hagrees.same hplain
          have hdrop : (rest.dropWhile in_hunk).length ≤ rest.length :=
            (dropWhile_sublist _).length_le
          have hwf : ∀ other ∈ rest.dropWhile in_hunk, other.WellFormed :=
            fun other hmem => hrest other ((dropWhile_sublist _).subset hmem)
          rw [hleft] at hlater
          have hagree := ih (index + 1) (rest.dropWhile in_hunk) hwf (by omega) hlater
          rw [hleft', hagree, ← hunks_plain_drop]
          refine ⟨fun h => ⟨hplain, h.2⟩, fun h => ⟨⟨rfl, ?_, ?_, ?_⟩, h.2⟩⟩
          all_goals
            rw [hcounts]
            exact Nat.zero_add _
        · have hshort := hagrees.short hplain
          constructor
          · rintro ⟨hdescribes, -⟩
            have hcontext := hdescribes.context_lines
            simp only at hcontext
            rw [hcontext] at hshort
            have hsame : (Tally.add {} (hunk_lines (rest.map Line.kept)).1).context_lines
                = (hunk_lines (rest.map Line.kept)).1.countP fun line => line.1 = ' ' :=
              Nat.zero_add _
            omega
          · rintro ⟨h, -⟩
            exact absurd h hplain

theorem parse_hunk_plans_eq_ok {patch : Text} {plans : List PatchHunkPlan}
    (h : parse_hunk_plans patch = .ok plans) :
    plan_hunks (splitlines patch false).length 0 (splitlines patch false) = .ok plans := by
  unfold parse_hunk_plans at h
  rw [check_bind_eq_ok, bind_eq_ok] at h
  obtain ⟨-, hunks, hhunks, h⟩ := h
  by_cases hnone : hunks = []
  · rw [if_pos hnone] at h
    cases h
  · rw [if_neg hnone] at h
    cases h
    exact hhunks

theorem parse_unified_diff_eq_ok {patch : Text} {hunks : List Hunk}
    (h : parse_unified_diff patch = .ok hunks) :
    parse_hunks (splitlines patch true).length (splitlines patch true) = hunks := by
  unfold parse_unified_diff at h
  dsimp only at h
  by_cases hnone : parse_hunks (splitlines patch true).length (splitlines patch true) = []
  · rw [if_pos hnone] at h
    cases h
  · rw [if_neg hnone] at h
    exact Except.ok.inj h

theorem apply_from_length {idx : Nat} {out : List Text} {hunks : List Hunk}
    {applied : List Text × List HunkResult} (h : apply_from idx out hunks = .ok applied) :
    applied.2.length = hunks.length := by
  induction hunks generalizing idx out applied with
  | nil =>
    cases h
    rfl
  | cons hunk hunks ih =>
    rw [apply_from, bind_eq_ok] at h
    obtain ⟨first, -, h⟩ := h
    rw [bind_eq_ok] at h
    obtain ⟨rest, hrest, h⟩ := h
    cases h
    rw [length_cons, length_cons, ih hrest]

theorem bound_file_patch_eq_ok {path : String} {patch original : Text} {dry_run : Bool}
    {done : FilePatchSuccess} (h : bound_file_patch path patch original dry_run = .ok done) :
    parse_hunk_plans patch = .ok done.plan.hunks
      ∧ ∃ hunks, parse_unified_diff patch = .ok hunks ∧ done.hunks.length = hunks.length := by
  unfold bound_file_patch at h
  rw [bind_eq_ok] at h
  obtain ⟨plan, hplan, h⟩ := h
  rw [bind_eq_ok] at h
  obtain ⟨hunks, hhunks, h⟩ := h
  rw [bind_eq_ok] at h
  obtain ⟨applied, happlied, h⟩ := h
  cases h
  unfold build_patch_plan at hplan
  rw [bind_eq_ok] at hplan
  obtain ⟨plans, hplans, hplan⟩ := hplan
  cases hplan
  exact ⟨hplans, hunks, hhunks, apply_from_length happlied⟩

/-- The plans describe the hunks one by one, and so does the plan of every call that reports
success, which has applied as many. -/
def PlanDescribesEdit (patch : Text) (plans : List PatchHunkPlan) (hunks : List Hunk) : Prop :=
  List.Forall₂ Describes plans hunks ∧
    ∀ path original dry_run done, bound_file_patch path patch original dry_run = .ok done →
      List.Forall₂ Describes done.plan.hunks hunks ∧ done.hunks.length = hunks.length

/-- Where both parsers accept a patch, the plan describes the edit exactly when no hunk has an empty
line that neither `\n` nor `\r\n` ends. -/
theorem plan_describes_edit_iff {patch : Text} {plans : List PatchHunkPlan} {hunks : List Hunk}
    (hplans : parse_hunk_plans patch = .ok plans) (hhunks : parse_unified_diff patch = .ok hunks) :
    PlanDescribesEdit patch plans hunks ↔ HunksPlain (cut_lines patch) := by
  have hparsed := parse_hunk_plans_eq_ok hplans
  have hread := parse_unified_diff_eq_ok hhunks
  have hlength (keepends : Bool) :
      (splitlines patch keepends).length = (cut_lines patch).length := length_map _
  rw [hlength] at hparsed hread
  have hagree := plans_agree (cut_lines patch).length 0 (cut_lines patch)
    (cut_lines_well_formed patch) (Nat.le_refl _) hparsed
  have hkept : (cut_lines patch).map Line.kept = splitlines patch true := rfl
  rw [hkept, hread] at hagree
  rw [← hagree]
  constructor
  · intro h
    exact h.1
  · intro h
    refine ⟨h, fun path original dry_run done hdone => ?_⟩
    obtain ⟨hplans', hunks', hhunks', hlength'⟩ := bound_file_patch_eq_ok hdone
    rw [hplans] at hplans'
    rw [hhunks] at hhunks'
    cases hhunks'
    rw [← Except.ok.inj hplans']
    exact ⟨h, hlength'⟩

def plain_patch : Text := "@@ -1,2 +1,2 @@\n a\n-b\n+c\n".toList

theorem plan_describes_plain_patch : ∃ plans hunks, parse_hunk_plans plain_patch = .ok plans
    ∧ parse_unified_diff plain_patch = .ok hunks
    ∧ (PlanDescribesEdit plain_patch plans hunks ↔ HunksPlain (cut_lines plain_patch)) :=
  ⟨[⟨0, ⟨1, 2, 1, 2⟩, 1, 1, 1⟩],
    [⟨⟨1, 2, 1, 2⟩, [(' ', ['a', '\n']), ('-', ['b', '\n']), ('+', ['c', '\n'])]⟩],
    by decide +kernel, by decide +kernel,
    plan_describes_edit_iff (by decide +kernel) (by decide +kernel)⟩

def form_feed_patch : Text := "@@ -1,2 +1,3 @@\n a\n\x0c+b\n".toList

/-- The plan counts an addition that the edit leaves out. -/
theorem addition_left_out : ∃ plans hunks, parse_hunk_plans form_feed_patch = .ok plans
    ∧ parse_unified_diff form_feed_patch = .ok hunks
    ∧ ¬ PlanDescribesEdit form_feed_patch plans hunks := by
  refine ⟨[⟨0, ⟨1, 2, 1, 3⟩, 1, 0, 2⟩], [⟨⟨1, 2, 1, 3⟩, [(' ', ['a', '\n'])]⟩], by decide +kernel,
    by decide +kernel, ?_⟩
  rintro ⟨h, -⟩
  have hadditions := (forall₂_cons.mp h).1.additions
  revert hadditions
  decide

end CodingAgentLoop.FilePatch
