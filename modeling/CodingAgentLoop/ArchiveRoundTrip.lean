/-
Which workspaces come back from their archive.

What is archived of a workspace has a `shape`: its files and the directories they are in. The
unpacked tree is in this shape from the first member on, so no member is in another's way, and at
the end it is all of it; the same holds of the workspace root while the unpacked tree is copied
into it. Two things can go wrong. The stream of the archive is longer than the reader reads
(`stream_bytes`), though the writer did not mind. Or the workspace root is a directory above the
temporary one, and emptying it takes away what was unpacked.
-/
import CodingAgentLoop.WorkspaceArchive
import CodingAgentLoop.Lib.Decimal
import CodingAgentLoop.Lib.History
import Mathlib.Logic.Equiv.List

open Lib Lib.FileTree

namespace CodingAgentLoop.WorkspaceArchive

open Action Table List

/-! ## What is archived -/

abbrev ArchivedFile := TreePath String × FileData

def archived_file (row : TreePath String × Node FileData) : Option ArchivedFile :=
  if should_exclude_workspace_archive_path row.1 then none
  else
    match row.2 with
    | .file data => some (row.1, data)
    | _ => none

def archived (nodes : Workspace) : List ArchivedFile := (sorted_nodes nodes).filterMap archived_file

def tar_member (file : ArchivedFile) : TarMember where
  name := as_posix file.1
  mode := file.2.mode &&& 511
  mtime := file.2.mtime
  data := file.2.contents

def unpacked (data : FileData) : FileData where
  contents := data.contents
  mode := member_mode (data.mode &&& 511)
  mtime := data.mtime

def file_bytes (files : List ArchivedFile) : Nat :=
  (files.map (fun file => file.2.contents.length)).sum

def stream_bytes (files : List ArchivedFile) : Nat :=
  records_read ((files.map (fun file => member_bytes (tar_member file))).sum + 512)

variable {rows : List (TreePath String × Node FileData)}

theorem archive_members_eq_ok {member_count total_input_bytes : Nat} {members : List TarMember}
    (h : archive_members member_count total_input_bytes rows = .ok members)
    (hcount : member_count ≤ MAX_WORKSPACE_ARCHIVE_MEMBERS)
    (htotal : total_input_bytes ≤ MAX_WORKSPACE_ARCHIVE_BYTES) :
    members = (rows.filterMap archived_file).map tar_member
      ∧ member_count + (rows.filterMap archived_file).length ≤ MAX_WORKSPACE_ARCHIVE_MEMBERS
      ∧ total_input_bytes + file_bytes (rows.filterMap archived_file)
        ≤ MAX_WORKSPACE_ARCHIVE_BYTES := by
  induction rows generalizing member_count total_input_bytes members with
  | nil =>
    obtain rfl := Except.ok.inj h
    exact ⟨rfl, hcount, htotal⟩
  | cons row rest ih =>
    obtain ⟨relative, node⟩ := row
    unfold archive_members at h
    by_cases hexcluded : should_exclude_workspace_archive_path relative = true
    · have hnone : archived_file (relative, node) = none := if_pos hexcluded
      rw [if_pos hexcluded] at h
      rw [filterMap_cons_none hnone]
      exact ih h hcount htotal
    · rw [if_neg hexcluded] at h
      cases node with
      | symlink => cases h
      | dir =>
        have hnone : archived_file (relative, .dir) = none := if_neg hexcluded
        rw [filterMap_cons_none hnone]
        exact ih h hcount htotal
      | special =>
        have hnone : archived_file (relative, .special) = none := if_neg hexcluded
        rw [filterMap_cons_none hnone]
        exact ih h hcount htotal
      | file data =>
        have hsome : archived_file (relative, .file data) = some (relative, data) :=
          if_neg hexcluded
        simp only [Result.check_bind_eq_ok, raise_if_eq_ok, raise_if_archive_too_large,
          Result.bind_eq_ok, Result.pure_eq_ok] at h
        obtain ⟨_, hmembers, _, hbytes, others, hothers, rfl⟩ := h
        obtain ⟨rfl, hlength, hsum⟩ := ih hothers (by omega) (by omega)
        rw [filterMap_cons_some hsome]
        refine ⟨rfl, ?_, ?_⟩
        · rw [length_cons]
          omega
        · have hfile : file_bytes ((relative, data) :: rest.filterMap archived_file)
              = data.contents.length + file_bytes (rest.filterMap archived_file) := by
            simp [file_bytes]
          omega

/-! ## Names there and back -/

/-- A path whose parts are file names. -/
structure Named (path : TreePath String) : Prop where
  nonempty : path ≠ []
  part : ∀ part ∈ path, part ≠ "" ∧ part ≠ "." ∧ part ≠ ".." ∧ '/' ∉ part.toList
    ∧ Char.ofNat 0 ∉ part.toList

theorem as_posix_toList (path : TreePath String) :
    (as_posix path).toList = ['/'].intercalate (path.map String.toList) := by
  unfold as_posix
  rw [String.toList_intercalate]
  rfl

variable {path : TreePath String}

/-- **The parts of a joined path are its parts.** -/
theorem path_parts_as_posix (h : Named path) :
    path_parts (as_posix path) = path := by
  have hsplit : (as_posix path).toList.splitOn '/' = path.map String.toList := by
    rw [as_posix_toList, splitOn_intercalate]
    · intro chars hchars
      obtain ⟨part, hpart, rfl⟩ := mem_map.mp hchars
      exact (h.part part hpart).2.2.2.1
    · exact fun hnil => h.nonempty (map_eq_nil_iff.mp hnil)
  unfold path_parts
  rw [hsplit, map_map]
  have hback : path.map (String.ofList ∘ String.toList) = path := by
    conv_rhs => rw [← map_id path]
    exact map_congr_left (fun part _ => String.ofList_toList)
  rw [hback]
  refine filter_eq_self.mpr (fun part hpart => ?_)
  rw [decide_eq_true_iff]
  exact ⟨(h.part part hpart).1, (h.part part hpart).2.1⟩

/-- The first and the last character of a joined path are of its first and last part. -/
theorem as_posix_edges (h : Named path) :
    (∃ char rest, (as_posix path).toList = char :: rest ∧ char ≠ '/')
      ∧ (as_posix path).toList.getLast? ≠ some '/' := by
  have hpart : ∀ part ∈ path, part.toList ≠ [] ∧ '/' ∉ part.toList := by
    intro part hmem
    refine ⟨fun hnil => (h.part part hmem).1 (String.toList_inj.mp hnil),
      (h.part part hmem).2.2.2.1⟩
  rw [as_posix_toList]
  have hne := h.nonempty
  clear h
  induction path with
  | nil => exact absurd rfl hne
  | cons first rest ih =>
    have hfirst := hpart first mem_cons_self
    obtain ⟨char, chars, hchars⟩ := exists_cons_of_ne_nil hfirst.1
    have hchar : char ≠ '/' := fun hslash => hfirst.2 (hchars ▸ hslash ▸ mem_cons_self)
    cases rest with
    | nil =>
      have hjoined : ['/'].intercalate ([first].map String.toList) = first.toList := by simp
      rw [hjoined]
      refine ⟨⟨char, chars, hchars, hchar⟩, fun hlast => hfirst.2 ?_⟩
      exact List.mem_of_getLast? hlast
    | cons second others =>
      have hjoined : ['/'].intercalate ((first :: second :: others).map String.toList)
          = first.toList
            ++ '/' :: ['/'].intercalate ((second :: others).map String.toList) := by
        simp [intercalate_cons_cons]
      rw [hjoined]
      obtain ⟨⟨char', chars', hchars', -⟩, hlast⟩ :=
        ih (fun part hmem => hpart part (mem_cons_of_mem _ hmem)) (cons_ne_nil _ _)
      refine ⟨⟨char, _, by rw [hchars]; rfl, hchar⟩, ?_⟩
      rw [hchars', List.getLast?_append_cons, List.getLast?_cons_cons, ← hchars']
      exact hlast

theorem nul_as_posix (h : Named path) :
    Char.ofNat 0 ∉ (as_posix path).toList := by
  have hpart : ∀ part ∈ path, Char.ofNat 0 ∉ part.toList :=
    fun part hmem => (h.part part hmem).2.2.2.2
  rw [as_posix_toList]
  clear h
  induction path with
  | nil => simp
  | cons first rest ih =>
    have hfirst := hpart first mem_cons_self
    cases rest with
    | nil => simpa using hfirst
    | cons second others =>
      have hjoined : ['/'].intercalate ((first :: second :: others).map String.toList)
          = first.toList
            ++ '/' :: ['/'].intercalate ((second :: others).map String.toList) := by
        simp [intercalate_cons_cons]
      have hrest := ih (fun part hmem => hpart part (mem_cons_of_mem _ hmem))
      rw [hjoined, mem_append, mem_cons]
      rintro (hmem | hslash | hmem)
      · exact hfirst hmem
      · revert hslash
        decide
      · exact hrest hmem

variable {file : ArchivedFile}

theorem tar_member_storable (h : Named file.1) :
    (tar_member file).Storable := by
  obtain ⟨⟨char, rest, hchars, -⟩, hlast⟩ := as_posix_edges h
  refine ⟨fun hempty => ?_, nul_as_posix h, hlast, Nat.and_le_right⟩
  have hnil : (as_posix file.1).toList = [] := congrArg String.toList hempty
  rw [hchars] at hnil
  cases hnil

theorem safe_target (h : Named path) (hpreserved : is_preserved path = false) :
    reject_preserved_root_member (as_posix path) = .ok ()
      ∧ safe_archive_target (as_posix path) = .ok path := by
  obtain ⟨⟨char, rest, hchars, hchar⟩, -⟩ := as_posix_edges h
  have hrelative : is_absolute (as_posix path) = false := by
    unfold is_absolute
    rw [hchars, List.head?_cons]
    simpa using hchar
  have hparts := path_parts_as_posix h
  constructor
  · unfold reject_preserved_root_member
    rw [raise_if_eq_ok, hparts, hpreserved]
    simp
  · unfold safe_archive_target
    rw [hparts, hrelative]
    simp only [raise_if_eq_ok, Result.pure_eq_ok, Result.bind_eq_ok]
    have hup : ".." ∉ path := fun hmem => (h.part ".." hmem).2.2.1 rfl
    simp [hup, h.nonempty, nul_as_posix h]

/-! ## The shape of an archive -/

/-- Files that can be in one workspace, outside of `.git`. -/
structure Sound (files : List ArchivedFile) : Prop where
  nodup : (files.map Prod.fst).Nodup
  named : ∀ file ∈ files, Named file.1
  unpreserved : ∀ file ∈ files, is_preserved file.1 = false
  apart : ∀ file ∈ files, ∀ other ∈ files, file.1 <+: other.1 → file.1 = other.1

def shape (files : List ArchivedFile) (path : TreePath String) : Option (Node FileData) :=
  match files.lookup path with
  | some data => some (.file (unpacked data))
  | none =>
    if path ≠ [] ∧ files.any (fun file => path.isPrefixOf file.1) then some .dir else none

variable {files : List ArchivedFile} {file : ArchivedFile} {path : TreePath String}

theorem lookup_of_mem (h : (files.map Prod.fst).Nodup) (hfile : file ∈ files) :
    files.lookup file.1 = some file.2 := by
  induction files with
  | nil => cases hfile
  | cons first rest ih =>
    rw [map_cons, nodup_cons] at h
    rcases mem_cons.mp hfile with rfl | hrest
    · exact lookup_cons_self
    · have hne : file.1 ≠ first.1 := fun heq => h.1 (heq ▸ mem_map_of_mem hrest)
      rw [lookup_cons, beq_eq_false_iff_ne.mpr hne]
      exact ih h.2 hrest

theorem mem_of_lookup {data : FileData} (h : files.lookup path = some data) :
    (path, data) ∈ files := by
  induction files with
  | nil => cases h
  | cons first rest ih =>
    rw [lookup_cons] at h
    by_cases hsame : path = first.1
    · simp only [hsame, beq_self_eq_true] at h
      rw [hsame, ← Option.some.inj h]
      exact mem_cons_self
    · simp only [beq_eq_false_iff_ne.mpr hsame] at h
      exact mem_cons_of_mem _ (ih h)

theorem Sound.shape_file (h : Sound files) (hfile : file ∈ files) :
    shape files file.1 = some (.file (unpacked file.2)) := by
  unfold shape
  rw [lookup_of_mem h.nodup hfile]

variable {parent : TreePath String}

theorem Sound.shape_parent (h : Sound files) (hfile : file ∈ files) (hne : parent ≠ [])
    (habove : parent <+: file.1.dropLast) : shape files parent = some .dir := by
  have hover : parent <+: file.1 := habove.trans (List.dropLast_prefix _)
  have hnone : files.lookup parent = none := by
    cases hlookup : files.lookup parent with
    | none => rfl
    | some data =>
      have hsame : parent = file.1 := h.apart _ (mem_of_lookup hlookup) file hfile hover
      have hlength := habove.length_le
      have hpos := length_pos_of_ne_nil (h.named file hfile).nonempty
      rw [hsame, length_dropLast] at hlength
      omega
  unfold shape
  rw [hnone]
  have hany : files.any (fun file => parent.isPrefixOf file.1) = true :=
    any_eq_true.mpr ⟨file, hfile, isPrefixOf_iff_prefix.mpr hover⟩
  exact if_pos ⟨hne, hany⟩

theorem under_of_over (hover : parent <+: path) (hne : parent ≠ path) :
    parent <+: path.dropLast := by
  obtain ⟨below, rfl⟩ := hover
  rcases below.eq_nil_or_concat with rfl | ⟨upper, last, rfl⟩
  · exact absurd (append_nil parent).symm hne
  · rw [concat_eq_append, ← append_assoc, dropLast_concat]
    exact prefix_append _ _

theorem Sound.of_shape (h : Sound files) (hsome : (shape files path).isSome) :
    ∃ file ∈ files, path = file.1 ∨ (path ≠ [] ∧ path <+: file.1.dropLast) := by
  unfold shape at hsome
  cases hlookup : files.lookup path with
  | some data => exact ⟨_, mem_of_lookup hlookup, .inl rfl⟩
  | none =>
    rw [hlookup] at hsome
    by_cases habove : path ≠ [] ∧ files.any (fun file => path.isPrefixOf file.1) = true
    · obtain ⟨file, hfile, hover⟩ := any_eq_true.mp habove.2
      have hover := isPrefixOf_iff_prefix.mp hover
      by_cases hsame : path = file.1
      · exact ⟨file, hfile, .inl hsame⟩
      · exact ⟨file, hfile, .inr ⟨habove.1, under_of_over hover hsame⟩⟩
    · have hnone : (none : Option (Node FileData)).isSome := by
        simpa only [if_neg habove] using hsome
      cases hnone

/-! ## The stream -/

theorem records_read_mono {low high : Nat} (h : low ≤ high) :
    records_read low ≤ records_read high := by
  unfold records_read
  omega

theorem le_block_bytes (size : Nat) : size ≤ block_bytes size := by
  unfold block_bytes
  omega

def members_bytes (files : List ArchivedFile) : Nat :=
  (files.map (fun file => member_bytes (tar_member file))).sum

theorem members_bytes_cons (file : ArchivedFile) (rest : List ArchivedFile) :
    members_bytes (file :: rest)
      = header_bytes (tar_member file) + block_bytes file.2.contents.length
        + members_bytes rest := by
  simp [members_bytes, member_bytes, tar_member]

theorem file_bytes_cons (file : ArchivedFile) (rest : List ArchivedFile) :
    file_bytes (file :: rest) = file.2.contents.length + file_bytes rest := by
  simp [file_bytes]

/-! ## Unpacking -/

/-- The tree is in the shape, and has the files that are done and their directories. -/
structure Unpacking (files done : List ArchivedFile) (nodes : Workspace) : Prop where
  in_shape : InShape nodes (shape files)
  there : ∀ file ∈ done, (nodes.row file.1).isSome
  above : ∀ file ∈ done, ∀ parent, parent ≠ [] → parent <+: file.1.dropLast →
    (nodes.row parent).isSome

theorem nothing_unpacked (files : List ArchivedFile) : Unpacking files [] ∅ where
  in_shape path node hrow := by
    rw [row_empty] at hrow
    cases hrow
  there _ hmem := absurd hmem not_mem_nil
  above _ hmem := absurd hmem not_mem_nil

def member_info (file : ArchivedFile) : TarInfo where
  name := as_posix file.1
  type := .file
  size := file.2.contents.length
  mode := file.2.mode &&& 511
  mtime := file.2.mtime

variable {staging : Staging}

/-- **A member is unpacked.** -/
theorem extract_member_ok (h : Sound files) (hfile : file ∈ files) {done : List ArchivedFile}
    (hstaging : Unpacking files done staging.nodes)
    (hcount : staging.member_count + 1 ≤ MAX_WORKSPACE_ARCHIVE_MEMBERS)
    (hbytes : staging.extracted_bytes + file.2.contents.length ≤ MAX_WORKSPACE_ARCHIVE_BYTES)
    {read : Nat} (hread : read ≤ MAX_WORKSPACE_TAR_STREAM_BYTES) :
    ∃ nodes, extract_member staging (member_info file) ⟨read, .ok (some file.2.contents)⟩
        = .ok ⟨nodes, staging.member_count + 1,
          staging.extracted_bytes + file.2.contents.length⟩
      ∧ Unpacking files (done ++ [file]) nodes := by
  obtain ⟨opened, hwrite, hopened, hgrows, habove⟩ :=
    write_file_within hstaging.in_shape (h.shape_file hfile)
      (fun parent hne hunder => h.shape_parent hfile hne hunder) ⟨[], 0, 0⟩
  obtain ⟨hreject, htarget⟩ := safe_target (h.named file hfile) (h.unpreserved file hfile)
  have hcopy : copy_archive_file staging.nodes file.1 (member_info file)
      ⟨read, .ok (some file.2.contents)⟩ = .ok (opened.put file.1 (.file (unpacked file.2))) := by
    have hcounted : counted read = .ok () := raise_if_eq_ok.mpr (by omega)
    have hsize : ¬ ((file.2.contents.length : Int) ≠ (member_info file).size) := fun hne => hne rfl
    unfold copy_archive_file read_body
    rw [hwrite]
    simp only [os_call, hcounted, Result.ok_bind]
    rw [(raise_if_eq_ok (u := ())).mpr hsize, Result.ok_bind]
    simp only [member_info, Result.ok_bind, put_put]
    rfl
  refine ⟨opened.put file.1 (.file (unpacked file.2)), ?_, ?_, ?_, ?_⟩
  · have hnegative : ¬ (member_info file).size < 0 := by
      show ¬ (file.2.contents.length : Int) < 0
      omega
    unfold extract_member raise_if_archive_too_large
    simp only [Result.bind_eq_ok, Result.pure_eq_ok]
    refine ⟨(), raise_if_eq_ok.mpr (by omega), (), hreject, file.1, htarget, ?_⟩
    show (do
      raise_if ((member_info file).size < 0) .ValueError not_a_tar_gz
      raise_if_archive_too_large (staging.extracted_bytes + (member_info file).size.toNat)
      let nodes ← copy_archive_file staging.nodes file.1 (member_info file)
        ⟨read, .ok (some file.2.contents)⟩
      return (⟨nodes, staging.member_count + 1,
        staging.extracted_bytes + (member_info file).size.toNat⟩ : Staging)) = _
    rw [(raise_if_eq_ok (u := ())).mpr hnegative, Result.ok_bind, raise_if_archive_too_large,
      (raise_if_eq_ok (u := ())).mpr (by
        show ¬ MAX_WORKSPACE_ARCHIVE_BYTES < staging.extracted_bytes + file.2.contents.length
        omega), Result.ok_bind, hcopy]
    rfl
  · exact hopened.put (h.shape_file hfile)
  · intro other hother
    rcases mem_snoc hother with hdone | rfl
    · exact grows_put _ _ _ _ (hgrows _ (hstaging.there other hdone))
    · rw [row_put_self]
      rfl
  · intro other hother parent hne hunder
    rcases mem_snoc hother with hdone | rfl
    · exact grows_put _ _ _ _ (hgrows _ (hstaging.above other hdone parent hne hunder))
    · exact grows_put _ _ _ _ (habove parent hne hunder)

/-- **A stream that is short enough is unpacked whole.** -/
theorem extract_read_back_ok (h : Sound files) {rest done : List ArchivedFile} {offset : Nat}
    {staging : Staging} (hrest : ∀ file ∈ rest, file ∈ files)
    (hstaging : Unpacking files done staging.nodes)
    (hcount : staging.member_count + rest.length ≤ MAX_WORKSPACE_ARCHIVE_MEMBERS)
    (hbytes : staging.extracted_bytes + file_bytes rest ≤ MAX_WORKSPACE_ARCHIVE_BYTES)
    (hread : records_read (offset + members_bytes rest + 512) ≤ MAX_WORKSPACE_TAR_STREAM_BYTES) :
    ∃ staging', extract_to_temp staging (read_back offset (rest.map tar_member)) = .ok staging'
      ∧ Unpacking files (done ++ rest) staging'.nodes := by
  induction rest generalizing done offset staging with
  | nil =>
    refine ⟨staging, ?_, by rwa [append_nil]⟩
    have hcounted : counted (records_read (offset + 512)) = .ok () :=
      raise_if_eq_ok.mpr (by simpa [members_bytes] using hread)
    show (counted (records_read (offset + 512)) >>= fun _ => pure staging) = _
    rw [hcounted]
    rfl
  | cons file rest ih =>
    rw [file_bytes_cons] at hbytes
    rw [members_bytes_cons] at hread
    rw [length_cons] at hcount
    have hblock := le_block_bytes file.2.contents.length
    have hstart : records_read (offset + header_bytes (tar_member file))
        ≤ MAX_WORKSPACE_TAR_STREAM_BYTES := (records_read_mono (by omega)).trans hread
    have hbody : records_read (offset + header_bytes (tar_member file)
        + file.2.contents.length) ≤ MAX_WORKSPACE_TAR_STREAM_BYTES :=
      (records_read_mono (by omega)).trans hread
    obtain ⟨nodes, hmember, hunpacking⟩ := extract_member_ok h (hrest file mem_cons_self)
      hstaging (by omega) (by omega) hbody
    obtain ⟨staging', hfinal, hdone⟩ := @ih (done ++ [file])
      (offset + member_bytes (tar_member file))
      ⟨nodes, staging.member_count + 1, staging.extracted_bytes + file.2.contents.length⟩
      (fun other hother => hrest other (mem_cons_of_mem _ hother)) hunpacking
      (by show staging.member_count + 1 + rest.length ≤ _; omega)
      (by show staging.extracted_bytes + file.2.contents.length + file_bytes rest ≤ _; omega)
      (by
        have hsize : member_bytes (tar_member file)
            = header_bytes (tar_member file) + block_bytes file.2.contents.length := rfl
        rw [hsize, Nat.add_assoc offset]
        exact hread)
    refine ⟨staging', ?_, ?_⟩
    · show (counted (records_read (offset + header_bytes (tar_member file))) >>= fun _ =>
        extract_member staging (member_info file) ⟨records_read (offset
          + header_bytes (tar_member file) + file.2.contents.length),
          .ok (some file.2.contents)⟩ >>= fun staging =>
        extract_to_temp staging (read_back (offset + member_bytes (tar_member file))
          (rest.map tar_member))) = _
      have hcounted : counted (records_read (offset + header_bytes (tar_member file))) = .ok () :=
        raise_if_eq_ok.mpr (by omega)
      rw [hcounted, Result.ok_bind, hmember, Result.ok_bind]
      exact hfinal
    · rwa [append_assoc] at hdone

/-- **A stream that is too long is not.** -/
theorem extract_read_back_fails {rest : List ArchivedFile} {offset : Nat}
    (hread : MAX_WORKSPACE_TAR_STREAM_BYTES < records_read (offset + members_bytes rest + 512))
    (staging' : Staging) :
    extract_to_temp staging (read_back offset (rest.map tar_member)) ≠ .ok staging' := by
  intro hok
  induction rest generalizing offset staging with
  | nil =>
    have hrun : (counted (records_read (offset + 512)) >>= fun _ => pure staging)
        = Except.ok staging' := hok
    rw [Result.check_bind_eq_ok, counted, raise_if_eq_ok] at hrun
    exact hrun.1 (by simpa [members_bytes] using hread)
  | cons file rest ih =>
    have hrun : (counted (records_read (offset + header_bytes (tar_member file))) >>= fun _ =>
        extract_member staging (member_info file) ⟨records_read (offset
          + header_bytes (tar_member file) + file.2.contents.length),
          .ok (some file.2.contents)⟩ >>= fun staging =>
        extract_to_temp staging (read_back (offset + member_bytes (tar_member file))
          (rest.map tar_member))) = .ok staging' := hok
    rw [Result.check_bind_eq_ok, Result.bind_eq_ok] at hrun
    obtain ⟨-, staging'', -, hrest⟩ := hrun
    refine ih ?_ hrest
    rw [members_bytes_cons] at hread
    have hsize : member_bytes (tar_member file)
        = header_bytes (tar_member file) + block_bytes file.2.contents.length := rfl
    rw [hsize, Nat.add_assoc offset]
    exact hread

/-! ## A workspace has a shape -/

variable {row : TreePath String × Node FileData}

theorem mem_sorted_nodes {nodes : Workspace} :
    row ∈ sorted_nodes nodes ↔ nodes.row row.1 = some row.2 := by
  unfold sorted_nodes
  rw [mem_insertionSort, mem_select]
  simp

theorem nodup_sorted_nodes (nodes : Workspace) : ((sorted_nodes nodes).map Prod.fst).Nodup := by
  have hperm := perm_insertionSort
    (fun one other : TreePath String × Node FileData => path_le one.1 other.1)
    (nodes.select (fun _ _ => true))
  exact ((hperm.map Prod.fst).nodup_iff).mpr (nodup_select _ _)

theorem archived_file_eq_some :
    archived_file row = some file ↔
      row = (file.1, .file file.2) ∧ should_exclude_workspace_archive_path file.1 = false := by
  obtain ⟨path, node⟩ := row
  unfold archived_file
  by_cases hexcluded : should_exclude_workspace_archive_path path = true
  · rw [if_pos hexcluded]
    constructor
    · intro h
      cases h
    · rintro ⟨hrow, hkept⟩
      obtain ⟨rfl, -⟩ := Prod.mk.inj hrow
      rw [hexcluded] at hkept
      cases hkept
  · rw [if_neg hexcluded]
    cases node with
    | file data =>
      constructor
      · intro h
        obtain rfl := Option.some.inj h
        exact ⟨rfl, Bool.not_eq_true _ ▸ hexcluded⟩
      · rintro ⟨hrow, -⟩
        obtain ⟨rfl, hnode⟩ := Prod.mk.inj hrow
        obtain rfl := Node.file.inj hnode
        rfl
    | dir => simp
    | symlink => simp
    | special => simp

theorem mem_archived {nodes : Workspace} :
    file ∈ archived nodes ↔ nodes.row file.1 = some (.file file.2)
      ∧ should_exclude_workspace_archive_path file.1 = false := by
  unfold archived
  rw [mem_filterMap]
  constructor
  · rintro ⟨row, hrow, hfile⟩
    obtain ⟨rfl, hkept⟩ := archived_file_eq_some.mp hfile
    exact ⟨mem_sorted_nodes.mp hrow, hkept⟩
  · rintro ⟨hrow, hkept⟩
    exact ⟨_, mem_sorted_nodes.mpr hrow, archived_file_eq_some.mpr ⟨rfl, hkept⟩⟩

theorem archived_paths_sublist (rows : List (TreePath String × Node FileData)) :
    ((rows.filterMap archived_file).map Prod.fst).Sublist (rows.map Prod.fst) := by
  induction rows with
  | nil => exact List.Sublist.slnil
  | cons row rest ih =>
    cases hrow : archived_file row with
    | none =>
      rw [filterMap_cons_none hrow, map_cons]
      exact ih.cons _
    | some file =>
      rw [filterMap_cons_some hrow, map_cons, map_cons,
        (archived_file_eq_some.mp hrow).1]
      exact ih.cons_cons _

/-- **The archived files of a workspace are in a shape.** -/
theorem archived_sound (tree : WorkspaceTree) : Sound (archived tree.nodes) where
  nodup := (nodup_sorted_nodes tree.nodes).sublist (archived_paths_sublist _)
  named file hfile := by
    obtain ⟨hne, hpart⟩ := tree.named _ _ (mem_archived.mp hfile).1
    exact ⟨hne, hpart⟩
  unpreserved file hfile := by
    have hkept := (mem_archived.mp hfile).2
    unfold should_exclude_workspace_archive_path at hkept
    simp only [Bool.or_eq_false_iff] at hkept
    exact hkept.1.1.2
  apart file hfile other hother hover := by
    by_contra hne
    have hfound := (mem_archived.mp hfile).1
    have hdir := tree.closed _ _ (mem_archived.mp hother).1 file.1
      (tree.named _ _ hfound).1 hover hne
    rw [hfound] at hdir
    cases hdir

/-! ## Copying into the workspace root -/

theorem is_preserved_above (hne : parent ≠ []) (hover : parent <+: path) :
    is_preserved parent = is_preserved path := by
  obtain ⟨first, rest, rfl⟩ := exists_cons_of_ne_nil hne
  obtain ⟨below, rfl⟩ := hover
  rfl

theorem Sound.shape_unpreserved (h : Sound files) (hsome : (shape files path).isSome) :
    is_preserved path = false := by
  obtain ⟨file, hfile, rfl | ⟨hne, hunder⟩⟩ := h.of_shape hsome
  · exact h.unpreserved file hfile
  · rw [is_preserved_above hne (hunder.trans (List.dropLast_prefix _))]
    exact h.unpreserved file hfile

def restored_shape (before : Workspace) (files : List ArchivedFile) (path : TreePath String) :
    Option (Node FileData) :=
  if is_preserved path then before.row path else shape files path

variable {node : Node FileData}

theorem Sound.restored (h : Sound files) (before : Workspace)
    (hnode : shape files path = some node) : restored_shape before files path = some node := by
  have hpreserved := h.shape_unpreserved (by rw [hnode]; rfl)
  unfold restored_shape
  rw [hpreserved]
  exact hnode

theorem Sound.shape_above (h : Sound files) (hnode : shape files path = some node)
    (hne : parent ≠ []) (habove : parent <+: path.dropLast) : shape files parent = some .dir := by
  obtain ⟨file, hfile, rfl | ⟨-, hunder⟩⟩ := h.of_shape (by rw [hnode]; rfl)
  · exact h.shape_parent hfile hne habove
  · exact h.shape_parent hfile hne ((habove.trans (List.dropLast_prefix _)).trans hunder)

/-- **A node of the shape is copied.** -/
theorem copy_node_ok (h : Sound files) {before nodes : Workspace}
    (hin : InShape nodes (restored_shape before files)) (hnode : shape files path = some node) :
    ∃ copied, copy_node nodes path node = some copied
      ∧ InShape copied (restored_shape before files) ∧ Grows nodes copied
      ∧ (copied.row path).isSome := by
  have hparents : ∀ parent, parent ≠ [] → parent <+: path.dropLast →
      restored_shape before files parent = some .dir :=
    fun parent hne habove => h.restored before (h.shape_above hnode hne habove)
  have hpath := h.restored before hnode
  cases node with
  | file data =>
    obtain ⟨made, hwrite, hmade, hgrows, -⟩ := write_file_within hin hpath hparents data
    refine ⟨_, hwrite, hmade.put hpath, hgrows.trans (grows_put _ _ _), ?_⟩
    rw [row_put_self]
    rfl
  | dir =>
    have hne : path ≠ [] := by
      obtain ⟨file, hfile, rfl | ⟨hne, -⟩⟩ := h.of_shape (by rw [hnode]; rfl)
      · exact (h.named file hfile).nonempty
      · exact hne
    have hdirs : ∀ parent, parent ≠ [] → parent <+: path →
        restored_shape before files parent = some .dir := by
      intro parent hparent hover
      by_cases hsame : parent = path
      · rw [hsame]
        exact hpath
      · exact hparents parent hparent (under_of_over hover hsame)
    obtain ⟨made, hwrite, hmade, hgrows, hthere⟩ := make_directory_within hin hdirs
    exact ⟨made, hwrite, hmade, hgrows, hthere path hne (prefix_refl _)⟩
  | symlink =>
    unfold shape at hnode
    split at hnode
    · cases hnode
    · split at hnode <;> cases hnode
  | special =>
    unfold shape at hnode
    split at hnode
    · cases hnode
    · split at hnode <;> cases hnode

theorem copy_nodes_ok (h : Sound files) {before nodes : Workspace}
    (hin : InShape nodes (restored_shape before files))
    (hrows : ∀ row ∈ rows, shape files row.1 = some row.2) :
    ∃ copied, copy_nodes rows nodes = (.ok (), copied)
      ∧ InShape copied (restored_shape before files) ∧ Grows nodes copied
      ∧ ∀ row ∈ rows, (copied.row row.1).isSome := by
  induction rows generalizing nodes with
  | nil => exact ⟨nodes, rfl, hin, Grows.refl _, fun _ hmem => absurd hmem not_mem_nil⟩
  | cons row rest ih =>
    obtain ⟨path, node⟩ := row
    obtain ⟨copied, hcopy, hcopied, hgrows, hthere⟩ :=
      copy_node_ok h hin (hrows (path, node) mem_cons_self)
    obtain ⟨final, hrest, hfinal, hgrows', hall⟩ :=
      ih hcopied (fun row hrow => hrows row (mem_cons_of_mem _ hrow))
    refine ⟨final, ?_, hfinal, hgrows.trans hgrows', fun row hrow => ?_⟩
    · have hcall : lift (os_call (copy_node nodes path node)) nodes
          = (.ok copied, nodes) := by
        rw [lift_run, hcopy]
        rfl
      unfold copy_nodes
      rw [bind_ok (get_run nodes), bind_ok hcall,
        bind_ok (modify_run _ nodes)]
      exact hrest
    · rcases mem_cons.mp hrow with rfl | hrow
      · exact hgrows' _ hthere
      · exact hall row hrow

/-! ## The round trip -/

def Root.nodes : Root → Workspace
  | .directory nodes => nodes
  | _ => ∅

/-- The extraction succeeds, and leaves what is preserved and the archived files, and no other
file. -/
def RoundTrips (archive before : Workspace) (outcome : Except StoreError Unit × Root) : Prop :=
  ∃ after, outcome = (.ok (), .directory after)
    ∧ (∀ path, is_preserved path = true → after.row path = before.row path)
    ∧ (∀ path contents, is_preserved path = false →
      ((∃ mode mtime, after.row path = some (.file ⟨contents, mode, mtime⟩)) ↔
        ∃ data, (path, data) ∈ archived archive ∧ data.contents = contents))
    ∧ ∀ path, is_preserved path = false →
      after.row path ≠ some .symlink ∧ after.row path ≠ some .special

variable {format : TarGz} {tree : WorkspaceTree} {text : String}

variable {archive_root : TreePath String}

theorem extracted_eq
    (hcreate : create_workspace_archive_base64 format archive_root (.directory tree.nodes)
      = .ok text) :
    extracted format text = extract_to_temp {} (read_back 0 ((archived tree.nodes).map tar_member))
      ∧ (archived tree.nodes).length ≤ MAX_WORKSPACE_ARCHIVE_MEMBERS
      ∧ file_bytes (archived tree.nodes) ≤ MAX_WORKSPACE_ARCHIVE_BYTES := by
  simp only [create_workspace_archive_base64, raise_if_archive_too_large, Result.bind_eq_ok,
    Result.pure_eq_ok, raise_if_eq_ok] at hcreate
  obtain ⟨members, hmembers, _, hsize, rfl⟩ := hcreate
  obtain ⟨rfl, hcount, hbytes⟩ := archive_members_eq_ok hmembers (Nat.zero_le _) (Nat.zero_le _)
  refine ⟨?_, by simpa [archived] using hcount, by simpa [archived] using hbytes⟩
  have hstorable : ∀ tar_member' ∈ (archived tree.nodes).map tar_member, tar_member'.Storable := by
    intro member' hmember
    obtain ⟨file, hfile, rfl⟩ := mem_map.mp hmember
    exact tar_member_storable ((archived_sound tree).named file hfile)
  have htext : (b64encode (format.pack ((archived tree.nodes).map tar_member))).toList
      = Base64.encode (format.pack ((archived tree.nodes).map tar_member)) :=
    String.toList_ofList
  have hlength : ¬ MAX_WORKSPACE_ARCHIVE_BASE64_CHARS
      < (b64encode (format.pack ((archived tree.nodes).map tar_member))).toList.length := by
    rw [htext, Base64.length_encode, MAX_WORKSPACE_ARCHIVE_BASE64_CHARS]
    have hsize' : (format.pack ((archived tree.nodes).map tar_member)).length
        ≤ MAX_WORKSPACE_ARCHIVE_BYTES := Nat.not_lt.mp hsize
    omega
  have hdecode : b64decode (b64encode (format.pack ((archived tree.nodes).map tar_member)))
      = .ok (format.pack ((archived tree.nodes).map tar_member)) := by
    unfold b64decode
    rw [htext, Base64.decode_encode]
  have hshort : raise_if_archive_base64_too_large
      (b64encode (format.pack ((archived tree.nodes).map tar_member))) = .ok () :=
    raise_if_eq_ok.mpr hlength
  have hsmall : raise_if_archive_too_large
      (format.pack ((archived tree.nodes).map tar_member)).length = .ok () :=
    raise_if_eq_ok.mpr hsize
  unfold extracted
  rw [show b64encode (format.pack (((sorted_nodes tree.nodes).filterMap archived_file).map
    tar_member)) = b64encode (format.pack ((archived tree.nodes).map tar_member)) from rfl,
    hshort, Result.ok_bind, hdecode, Result.ok_bind, hsmall, Result.ok_bind,
    format.unpack_pack _ hstorable]

/-- **The unpacked tree is the shape of the archive**, or the stream is too long. -/
theorem extracted_shape
    (hcreate : create_workspace_archive_base64 format archive_root (.directory tree.nodes)
      = .ok text) :
    (stream_bytes (archived tree.nodes) ≤ MAX_WORKSPACE_TAR_STREAM_BYTES →
      ∃ staging, extracted format text = .ok staging
        ∧ ∀ path, staging.nodes.row path = shape (archived tree.nodes) path)
    ∧ (MAX_WORKSPACE_TAR_STREAM_BYTES < stream_bytes (archived tree.nodes) →
      ∀ staging, extracted format text ≠ .ok staging) := by
  obtain ⟨hextracted, hcount, hbytes⟩ := extracted_eq hcreate
  have hsound := archived_sound tree
  have hstream : records_read (0 + members_bytes (archived tree.nodes) + 512)
      = stream_bytes (archived tree.nodes) := by
    rw [Nat.zero_add]
    rfl
  constructor
  · intro hfits
    obtain ⟨staging, hok, hunpacked⟩ := @extract_read_back_ok (archived tree.nodes) hsound
      (archived tree.nodes) [] 0 {} (fun _ h => h)
      (nothing_unpacked _)
      (by simpa using hcount) (by simpa using hbytes) (by rw [hstream]; exact hfits)
    refine ⟨staging, hextracted.trans hok, hunpacked.in_shape.eq (fun path hsome => ?_)⟩
    obtain ⟨file, hfile, rfl | ⟨hne, hunder⟩⟩ := hsound.of_shape hsome
    · exact hunpacked.there file hfile
    · exact hunpacked.above file hfile path hne hunder
  · intro hlong staging hok
    exact extract_read_back_fails (by rw [hstream]; exact hlong) staging (hextracted.symm.trans hok)

theorem round_trips_of_rows (hsound : Sound (archived tree.nodes)) {before after : Workspace}
    (hrows : ∀ path, after.row path = restored_shape before (archived tree.nodes) path) :
    RoundTrips tree.nodes before (.ok (), .directory after) := by
  have hkept : ∀ path, is_preserved path = false →
      after.row path = shape (archived tree.nodes) path := by
    intro path hpath
    rw [hrows, restored_shape, hpath]
    rfl
  refine ⟨after, rfl, fun path hpath => ?_, fun path contents hpath => ?_, fun path hpath => ?_⟩
  · rw [hrows, restored_shape, if_pos hpath]
  · rw [hkept path hpath]
    constructor
    · rintro ⟨mode, mtime, hfile⟩
      unfold shape at hfile
      cases hlookup : (archived tree.nodes).lookup path with
      | some data =>
        rw [hlookup] at hfile
        have hdata := Node.file.inj (Option.some.inj hfile)
        exact ⟨data, mem_of_lookup hlookup, congrArg FileData.contents hdata⟩
      | none =>
        rw [hlookup] at hfile
        dsimp only at hfile
        split at hfile <;> cases hfile
    · rintro ⟨data, hdata, rfl⟩
      exact ⟨_, _, hsound.shape_file hdata⟩
  · rw [hkept path hpath]
    unfold shape
    cases (archived tree.nodes).lookup path with
    | some data => exact ⟨fun h => (by cases h), fun h => (by cases h)⟩
    | none =>
      dsimp only
      split
      · exact ⟨fun h => (by cases h), fun h => (by cases h)⟩
      · exact ⟨fun h => (by cases h), fun h => (by cases h)⟩

theorem row_clear_extract_target (nodes : Workspace) (path : TreePath String) :
    (clear_extract_target nodes).row path
      = if is_preserved path then nodes.row path else none := by
  have hiff : ∀ node, (clear_extract_target nodes).row path = some node ↔
      nodes.row path = some node ∧ is_preserved path = true := by
    intro node
    rw [clear_extract_target, row_delete_where_eq_some]
    simp
  by_cases hpath : is_preserved path = true
  · rw [if_pos hpath]
    refine Option.ext (fun node => ?_)
    rw [hiff]
    exact and_iff_left hpath
  · rw [if_neg hpath]
    refine Option.ext (fun node => ?_)
    rw [hiff]
    exact ⟨fun h => absurd h.2 hpath, fun h => (by cases h)⟩

/-- Where the temporary root is not cleared, the workspace root gets the shape of the archive. -/
theorem copied_rows (hsound : Sound (archived tree.nodes)) {before staged : Workspace}
    (hstaged : ∀ path, staged.row path = shape (archived tree.nodes) path) :
    ∃ after, copy_nodes (sorted_nodes staged) (clear_extract_target before) = (.ok (), after)
      ∧ ∀ path, after.row path = restored_shape before (archived tree.nodes) path := by
  have hin : InShape (clear_extract_target before)
      (restored_shape before (archived tree.nodes)) := by
    intro path node hrow
    rw [row_clear_extract_target] at hrow
    by_cases hpath : is_preserved path = true
    · rw [if_pos hpath] at hrow
      rw [restored_shape, if_pos hpath, hrow]
    · rw [if_neg hpath] at hrow
      cases hrow
  have hrows : ∀ row ∈ sorted_nodes staged, shape (archived tree.nodes) row.1 = some row.2 := by
    intro row hrow
    rw [← hstaged]
    exact mem_sorted_nodes.mp hrow
  obtain ⟨after, hcopy, hafter, hgrows, hall⟩ := copy_nodes_ok hsound hin hrows
  refine ⟨after, hcopy, hafter.eq (fun path hsome => ?_)⟩
  by_cases hpath : is_preserved path = true
  · refine hgrows path ?_
    rw [row_clear_extract_target, if_pos hpath]
    rwa [restored_shape, if_pos hpath] at hsome
  · rw [restored_shape, if_neg hpath] at hsome
    obtain ⟨node, hnode⟩ := Option.isSome_iff_exists.mp hsome
    exact hall (path, node) (mem_sorted_nodes.mpr ((hstaged path).trans hnode))

theorem extract_eq {root : Root} (hroot : root ≠ .other)
    (workspace_root temp_root : TreePath String) :
    extract_workspace_archive_base64 format workspace_root temp_root root text
      = ((extract_into format workspace_root temp_root text root.nodes).1,
        .directory (extract_into format workspace_root temp_root text root.nodes).2) := by
  cases root with
  | missing => rfl
  | directory nodes => rfl
  | other => exact absurd rfl hroot

variable {workspace_root temp_root : TreePath String} {error : StoreError}

theorem extract_into_raised {nodes : Workspace} (h : extracted format text = .error error) :
    extract_into format workspace_root temp_root text nodes = (.error error, nodes) := by
  unfold extract_into
  exact bind_error (by rw [lift_run, h])

theorem extract_into_unpacked {nodes : Workspace} (h : extracted format text = .ok staging) :
    extract_into format workspace_root temp_root text nodes
      = (if clears_temp workspace_root temp_root then pure ()
        else copy_nodes (sorted_nodes staging.nodes)) (clear_extract_target nodes) := by
  have hstaged : lift (extracted format text) nodes = (.ok staging, nodes) := by
    rw [lift_run, h]
  unfold extract_into
  rw [bind_ok hstaged, bind_ok (modify_run _ nodes)]

/-- **When a workspace comes back from its archive.** -/
theorem round_trips_iff
    (hcreate : create_workspace_archive_base64 format archive_root (.directory tree.nodes)
      = .ok text) (workspace_root temp_root : TreePath String) {root : Root}
    (hroot : root ≠ .other) :
    RoundTrips tree.nodes root.nodes
        (extract_workspace_archive_base64 format workspace_root temp_root root text) ↔
      stream_bytes (archived tree.nodes) ≤ MAX_WORKSPACE_TAR_STREAM_BYTES
        ∧ (clears_temp workspace_root temp_root = false ∨ archived tree.nodes = []) := by
  have hsound := archived_sound tree
  obtain ⟨hshort, hlong⟩ := extracted_shape hcreate
  rw [extract_eq hroot]
  by_cases hfits : stream_bytes (archived tree.nodes) ≤ MAX_WORKSPACE_TAR_STREAM_BYTES
  · obtain ⟨staging, hstaging, hrows⟩ := hshort hfits
    rw [extract_into_unpacked hstaging]
    by_cases hclears : clears_temp workspace_root temp_root = true
    · rw [if_pos hclears, pure_run]
      constructor
      · -- Nothing was copied, so nothing is archived.
        rintro ⟨after, houtcome, -, hfiles, -⟩
        obtain rfl := Root.directory.inj (Prod.mk.inj houtcome).2
        refine ⟨hfits, .inr (eq_nil_iff_forall_not_mem.mpr (fun file hfile => ?_))⟩
        have hpath := hsound.unpreserved file hfile
        obtain ⟨mode, mtime, hrow⟩ := (hfiles file.1 file.2.contents hpath).mpr ⟨file.2, hfile, rfl⟩
        rw [row_clear_extract_target, hpath] at hrow
        cases hrow
      · rintro ⟨-, hkept | hnothing⟩
        · rw [hclears] at hkept
          cases hkept
        · refine round_trips_of_rows hsound (fun path => ?_)
          rw [row_clear_extract_target, restored_shape, hnothing]
          by_cases hpath : is_preserved path = true
          · rw [if_pos hpath, if_pos hpath]
          · rw [if_neg hpath, if_neg hpath]
            simp [shape]
    · rw [if_neg hclears]
      obtain ⟨after, hcopy, hafter⟩ := copied_rows hsound hrows
      rw [hcopy]
      exact iff_of_true (round_trips_of_rows hsound hafter)
        ⟨hfits, .inl (Bool.not_eq_true _ ▸ hclears)⟩
  · refine iff_of_false ?_ (fun h => hfits h.1)
    rintro ⟨after, houtcome, -⟩
    cases hresult : extracted format text with
    | error error =>
      rw [extract_into_raised hresult] at houtcome
      cases (Prod.mk.inj houtcome).1
    | ok staging => exact hlong (Nat.lt_of_not_le hfits) staging hresult

/-! ## What raises a `ValueError` -/

/-- `isinstance(exc, ValueError)`. -/
def is_value_error : StoreError → Bool
  | .raised cls _ => cls.is_value_error
  | .StaleMailboxCutError _ _ => false

theorem copy_nodes_raises {nodes after : Workspace}
    (h : copy_nodes rows nodes = (.error error, after)) :
    is_value_error error = false := by
  induction rows generalizing nodes with
  | nil => cases h
  | cons row rest ih =>
    obtain ⟨path, node⟩ := row
    unfold copy_nodes at h
    rw [bind_ok (get_run nodes)] at h
    cases hcopy : copy_node nodes path node with
    | none =>
      have hcall : lift (os_call (copy_node nodes path node)) nodes
          = (.error (.raised .OSError "file system"), nodes) := by
        rw [lift_run, hcopy]
        rfl
      rw [bind_error hcall] at h
      obtain rfl := Except.error.inj (Prod.mk.inj h).1
      rfl
    | some copied =>
      have hcall : lift (os_call (copy_node nodes path node)) nodes
          = (.ok copied, nodes) := by
        rw [lift_run, hcopy]
        rfl
      rw [bind_ok hcall, bind_ok (modify_run _ nodes)] at h
      exact ih h

/-- **A `ValueError` leaves the workspace root as it was.** -/
theorem value_error_unchanged {nodes : Workspace} {after : Root}
    (h : extract_workspace_archive_base64 format workspace_root temp_root (.directory nodes) text
      = (.error error, after)) (herror : is_value_error error = true) :
    after = .directory nodes := by
  rw [extract_eq (fun hother => by cases hother)] at h
  cases hresult : extracted format text with
  | error cause =>
    rw [extract_into_raised hresult] at h
    exact (Prod.mk.inj h).2.symm
  | ok staging =>
    rw [extract_into_unpacked hresult] at h
    by_cases hclears : clears_temp workspace_root temp_root = true
    · rw [if_pos hclears] at h
      cases (Prod.mk.inj h).1
    · rw [if_neg hclears] at h
      have hraised := copy_nodes_raises (Prod.ext (Prod.mk.inj h).1 rfl)
      rw [herror] at hraised
      cases hraised

/-- **Archives round-trip exactly when the reader can hold them and the unpacked tree outlives the
clearing; a `ValueError` changes no file.** -/
theorem workspace_archive_iff (format : TarGz) :
    (∀ (tree : WorkspaceTree) (archive_root : TreePath String) (text : String),
      create_workspace_archive_base64 format archive_root (.directory tree.nodes) = .ok text →
        ∀ (workspace_root temp_root : TreePath String) (root : Root), root ≠ .other →
          (RoundTrips tree.nodes root.nodes
              (extract_workspace_archive_base64 format workspace_root temp_root root text) ↔
            stream_bytes (archived tree.nodes) ≤ MAX_WORKSPACE_TAR_STREAM_BYTES
              ∧ (clears_temp workspace_root temp_root = false ∨ archived tree.nodes = [])))
    ∧ ∀ (workspace_root temp_root : TreePath String) (nodes : Workspace) (text : String)
        (error : StoreError) (after : Root),
        extract_workspace_archive_base64 format workspace_root temp_root (.directory nodes) text
            = (.error error, after) →
          is_value_error error = true → after = .directory nodes :=
  ⟨fun _ _ _ hcreate workspace_root temp_root _ hroot =>
      round_trips_iff hcreate workspace_root temp_root hroot,
    fun _ _ _ _ _ _ h herror => value_error_unchanged h herror⟩

/-! ## A format for two archives

The parameter is instantiated with a function that packs one list of members as `gzip` does, and
any other as its number. -/

def TarMember.numbers (tar_member : TarMember) : List Nat × Nat × Int × List Nat :=
  (tar_member.name.toList.map Char.toNat, tar_member.mode, tar_member.mtime,
    tar_member.data.map UInt8.toNat)

def of_numbers (numbers : List Nat × Nat × Int × List Nat) : TarMember where
  name := String.ofList (numbers.1.map Char.ofNat)
  mode := numbers.2.1
  mtime := numbers.2.2.1
  data := numbers.2.2.2.map UInt8.ofNat

theorem of_numbers_numbers (tar_member : TarMember) :
    of_numbers tar_member.numbers = tar_member := by
  have hname : (tar_member.name.toList.map Char.toNat).map Char.ofNat = tar_member.name.toList := by
    rw [map_map]
    conv_rhs => rw [← map_id tar_member.name.toList]
    exact map_congr_left (fun char _ => Char.ofNat_toNat char)
  have hdata : (tar_member.data.map UInt8.toNat).map UInt8.ofNat = tar_member.data := by
    rw [map_map]
    conv_rhs => rw [← map_id tar_member.data]
    exact map_congr_left (fun byte _ => UInt8.ofNat_toNat)
  unfold of_numbers TarMember.numbers
  rw [hname, hdata, String.ofList_toList]

instance : Encodable TarMember :=
  Encodable.ofLeftInverse TarMember.numbers of_numbers of_numbers_numbers

/-- What is read of the bytes of `tar_gz`. -/
def unpack_chosen (chosen : List TarMember) : List UInt8 → TarReading
  | [] => .broken 0 .format
  | first :: zeros =>
    if first = 31 then read_back 0 chosen
    else
      match (Encodable.decode zeros.length : Option (List TarMember)) with
      | some members => read_back 0 members
      | none => .broken 0 .format

/-- The chosen members are packed as `31 :: packed`. -/
def tar_gz (chosen : List TarMember) (packed : List UInt8) : TarGz where
  pack members :=
    if members = chosen then 31 :: packed else 0 :: List.replicate (Encodable.encode members) 0
  unpack := unpack_chosen chosen
  unpack_pack members _ := by
    by_cases hchosen : members = chosen
    · rw [if_pos hchosen, hchosen]
      rfl
    · have hzero : ¬ (0 : UInt8) = 31 := by decide
      rw [if_neg hchosen, unpack_chosen, if_neg hzero, length_replicate, Encodable.encodek]

theorem tar_gz_pack (chosen : List TarMember) (packed : List UInt8) :
    (tar_gz chosen packed).pack chosen = 31 :: packed := if_pos rfl

def sample_workspace : WorkspaceTree where
  nodes := (∅ : Workspace).put ["a"] (.file ⟨[104, 105], 420, 5⟩)
  named path node hrow := by
    rw [row_put] at hrow
    by_cases hpath : path = ["a"]
    · subst hpath
      refine ⟨cons_ne_nil _ _, fun part hpart => ?_⟩
      obtain rfl := mem_singleton.mp hpart
      decide
    · rw [if_neg hpath, row_empty] at hrow
      cases hrow
  closed path node hrow parent hne hover hsame := by
    rw [row_put] at hrow
    by_cases hpath : path = ["a"]
    · subst hpath
      obtain ⟨first, rest, rfl⟩ := exists_cons_of_ne_nil hne
      obtain ⟨rfl, hrest⟩ := cons_prefix_cons.mp hover
      exact absurd (by rw [prefix_nil.mp hrest]) hsame
    · rw [if_neg hpath, row_empty] at hrow
      cases hrow

def sample_packed : List UInt8 :=
  [ 139, 8, 0, 243, 84, 255, 106, 2, 255, 237, 206, 185, 13, 128, 48, 16, 69, 65, 151, 66, 9, 6,
    25, 247, 227, 12, 82, 142, 254, 89, 17, 33, 114, 144, 16, 51, 201, 251, 217, 110, 75, 207,
    203, 161, 150, 114, 54, 220, 27, 134, 203, 30, 99, 215, 62, 210, 229, 23, 126, 75, 251, 186,
    181, 37, 78, 166, 127, 154, 230, 4, 0, 0, 0, 0, 0, 0, 0, 0, 192, 7, 29, 183, 96, 65, 214, 0,
    40, 0, 0]

def sample_format : TarGz := tar_gz [⟨"a", 420, 5, [104, 105]⟩] sample_packed

theorem sample_created :
    create_workspace_archive_base64 sample_format ["w"] (.directory sample_workspace.nodes)
      = .ok (b64encode (31 :: sample_packed)) := rfl

/-- The file comes back next to what is preserved; a text that is not base64 changes nothing. -/
theorem sample_comes_back :
    RoundTrips sample_workspace.nodes ((∅ : Workspace).put [".git"] .dir)
        (extract_workspace_archive_base64 sample_format ["v"] ["tmp", "t"]
          (.directory ((∅ : Workspace).put [".git"] .dir)) (b64encode (31 :: sample_packed)))
      ∧ (extract_workspace_archive_base64 sample_format ["v"] ["tmp", "t"]
          (.directory sample_workspace.nodes) "!").2 = .directory sample_workspace.nodes :=
  ⟨((workspace_archive_iff sample_format).1 sample_workspace ["w"] _ sample_created ["v"]
      ["tmp", "t"] (.directory ((∅ : Workspace).put [".git"] .dir)) (fun h => (by cases h))).mpr
      ⟨by decide +kernel, .inl (by decide)⟩,
    (workspace_archive_iff sample_format).2 ["v"] ["tmp", "t"] sample_workspace.nodes "!"
      (.raised .ValueError "workspace archive must be valid base64") _ rfl rfl⟩

/-! ## Many files with long names

4096 empty files, in a directory fourteen levels down whose name is as long as names can be. -/

theorem archive_members_ok {member_count total_input_bytes : Nat}
    (hlinks : ∀ row ∈ rows, row.2 ≠ .symlink)
    (hcount : member_count + (rows.filterMap archived_file).length
      ≤ MAX_WORKSPACE_ARCHIVE_MEMBERS)
    (htotal : total_input_bytes + file_bytes (rows.filterMap archived_file)
      ≤ MAX_WORKSPACE_ARCHIVE_BYTES) :
    archive_members member_count total_input_bytes rows
      = .ok ((rows.filterMap archived_file).map tar_member) := by
  induction rows generalizing member_count total_input_bytes with
  | nil => rfl
  | cons row rest ih =>
    obtain ⟨relative, node⟩ := row
    have hrest : ∀ row ∈ rest, row.2 ≠ .symlink :=
      fun row hrow => hlinks row (mem_cons_of_mem _ hrow)
    unfold archive_members
    by_cases hexcluded : should_exclude_workspace_archive_path relative = true
    · have hnone : archived_file (relative, node) = none := if_pos hexcluded
      rw [filterMap_cons_none hnone] at hcount htotal ⊢
      rw [if_pos hexcluded]
      exact ih hrest hcount htotal
    · rw [if_neg hexcluded]
      cases node with
      | symlink => exact absurd rfl (hlinks _ mem_cons_self)
      | dir =>
        have hnone : archived_file (relative, .dir) = none := if_neg hexcluded
        rw [filterMap_cons_none hnone] at hcount htotal ⊢
        exact ih hrest hcount htotal
      | special =>
        have hnone : archived_file (relative, .special) = none := if_neg hexcluded
        rw [filterMap_cons_none hnone] at hcount htotal ⊢
        exact ih hrest hcount htotal
      | file data =>
        have hsome : archived_file (relative, .file data) = some (relative, data) :=
          if_neg hexcluded
        rw [filterMap_cons_some hsome] at hcount htotal ⊢
        rw [file_bytes_cons] at htotal
        rw [length_cons] at hcount
        dsimp only at htotal
        have hmembers := @ih (member_count + 1) (total_input_bytes + data.contents.length) hrest
          (by omega) (by omega)
        simp only [raise_if_archive_too_large]
        rw [(raise_if_eq_ok (u := ())).mpr (by omega), Result.ok_bind,
          (raise_if_eq_ok (u := ())).mpr (by omega), Result.ok_bind, hmembers]
        rfl

def long_name : String := String.ofList (List.replicate 255 'd')

def long_names (count : Nat) : TreePath String := List.replicate count long_name

def long_directories : List (TreePath String × Node FileData) :=
  (List.range 14).map (fun above => (long_names (above + 1), .dir))

def long_file (number : Nat) : ArchivedFile := (long_names 14 ++ [toString number], ⟨[], 420, 0⟩)

def long_files : List ArchivedFile := (List.range 4096).map long_file

def long_nodes : Workspace :=
  ((∅ : Workspace).put_all long_directories).put_all
    (long_files.map (fun file => (file.1, .file file.2)))

theorem long_files_paths : (long_files.map Prod.fst).Nodup := by
  rw [long_files, map_map]
  refine nodup_range.map (fun one other heq => ?_)
  have hlast : [toString one] = [toString other] := append_cancel_left heq
  exact toString_injective (List.cons.inj hlast).1

theorem long_nodes_file (h : file ∈ long_files) :
    long_nodes.row file.1 = some (.file file.2) := by
  refine row_put_all_of_mem _ _ ?_ (mem_map_of_mem h)
  rw [map_map]
  exact long_files_paths

theorem long_nodes_cases (h : long_nodes.row path = some node) :
    (∃ file ∈ long_files, path = file.1 ∧ node = .file file.2)
      ∨ (∃ above < 14, path = long_names (above + 1)) ∧ node = .dir := by
  rcases row_put_all_cases _ _ h with hfile | hrest
  · obtain ⟨file, hmem, hrow⟩ := mem_map.mp hfile
    obtain ⟨rfl, rfl⟩ := Prod.mk.inj hrow
    exact .inl ⟨file, hmem, rfl, rfl⟩
  · rcases row_put_all_cases _ _ hrest with hdir | hnone
    · obtain ⟨above, hmem, hrow⟩ := mem_map.mp hdir
      obtain ⟨rfl, rfl⟩ := Prod.mk.inj hrow
      exact .inr ⟨⟨above, mem_range.mp hmem, rfl⟩, rfl⟩
    · rw [row_empty] at hnone
      cases hnone

theorem long_nodes_dir {above : Nat} (h : above < 14) :
    long_nodes.row (long_names (above + 1)) = some .dir := by
  have hdirs : ((∅ : Workspace).put_all long_directories).row (long_names (above + 1))
      = some .dir := by
    refine row_put_all_of_mem _ _ ?_ (mem_map_of_mem (mem_range.mpr h))
    rw [long_directories, map_map]
    refine nodup_range.map (fun one other heq => ?_)
    have hlength := congrArg List.length heq
    simpa [long_names] using hlength
  rw [long_nodes, row_put_all_of_not_mem, hdirs]
  intro hmem
  rw [map_map] at hmem
  obtain ⟨file, hfile, hpath⟩ := mem_map.mp hmem
  obtain ⟨number, -, rfl⟩ := mem_map.mp hfile
  have hlength := congrArg List.length hpath
  simp only [Function.comp_apply, long_file, long_names, length_append,
    length_replicate, length_singleton] at hlength
  omega

theorem long_name_toList : long_name.toList = List.replicate 255 'd' :=
  String.toList_ofList

theorem long_name_ne {name : String} (h : name.toList.length ≠ 255) : long_name ≠ name := by
  intro hname
  have hlength : name.toList.length = 255 := by
    rw [← hname, long_name_toList, length_replicate]
  exact h hlength

theorem not_mem_long_name {char : Char} (h : char ≠ 'd') : char ∉ long_name.toList := by
  rw [long_name_toList]
  intro hmem
  exact h (eq_of_mem_replicate hmem)

theorem not_mem_toString {char : Char} (h : char.isDigit = false) (number : Nat) :
    char ∉ (toString number).toList := by
  intro hmem
  have hdigit := isdigit_toString number
  rw [isdigit, decide_eq_true_iff] at hdigit
  rw [all_eq_true.mp hdigit.2 char hmem] at h
  cases h

theorem long_part {part : String} (h : part = long_name ∨ ∃ number : Nat, part = toString number) :
    part ≠ "" ∧ part ≠ "." ∧ part ≠ ".." ∧ '/' ∉ part.toList ∧ Char.ofNat 0 ∉ part.toList := by
  rcases h with rfl | ⟨number, rfl⟩
  · exact ⟨long_name_ne (by decide), long_name_ne (by decide), long_name_ne (by decide),
      not_mem_long_name (by decide), not_mem_long_name (by decide)⟩
  · refine ⟨toString_ne_empty number, ?_, ?_, not_mem_toString rfl number,
      not_mem_toString rfl number⟩
    · intro hdot
      exact @not_mem_toString '.' rfl number (by rw [hdot]; decide)
    · intro hdots
      exact @not_mem_toString '.' rfl number (by rw [hdots]; decide)

/-- The workspace with many files. -/
def long_workspace : WorkspaceTree where
  nodes := long_nodes
  named path node hrow := by
    rcases long_nodes_cases hrow with ⟨file, hfile, rfl, -⟩ | ⟨⟨above, -, rfl⟩, -⟩
    · obtain ⟨number, -, rfl⟩ := mem_map.mp hfile
      refine ⟨concat_ne_nil _ _, fun part hpart => long_part ?_⟩
      rcases mem_snoc hpart with hdir | hlast
      · exact .inl (eq_of_mem_replicate hdir)
      · exact .inr ⟨number, hlast⟩
    · exact ⟨cons_ne_nil _ _,
        fun part hpart => long_part (.inl (eq_of_mem_replicate hpart))⟩
  closed path node hrow parent hne hover hsame := by
    have hdir : ∀ count ≤ 14, parent <+: long_names count → long_nodes.row parent = some .dir := by
      intro count hcount hunder
      obtain ⟨hlength, hparent⟩ := prefix_replicate_iff.mp hunder
      have hpos := length_pos_of_ne_nil hne
      have hrow := @long_nodes_dir (parent.length - 1) (by omega)
      rw [Nat.sub_add_cancel hpos] at hrow
      rw [hparent]
      simpa [long_names] using hrow
    rcases long_nodes_cases hrow with ⟨file, hfile, rfl, -⟩ | ⟨⟨above, habove, rfl⟩, -⟩
    · obtain ⟨number, -, rfl⟩ := mem_map.mp hfile
      have hunder := under_of_over hover hsame
      rw [long_file, dropLast_concat] at hunder
      exact hdir 14 (Nat.le_refl _) hunder
    · exact hdir (above + 1) (by omega) hover

theorem long_workspace_nodes : long_workspace.nodes = long_nodes := by
  rw [long_workspace]

theorem long_file_kept (number : Nat) :
    should_exclude_workspace_archive_path (long_file number).1 = false := by
  have hdots : ∀ suffix ∈ EXCLUDED_FILE_SUFFIXES, '.' ∈ suffix.toList := by decide
  have hsuffix : ∀ suffix ∈ EXCLUDED_FILE_SUFFIXES,
      suffix.toList.isSuffixOf (toString number).toList = false := by
    intro suffix hsuffix
    by_contra htrue
    obtain ⟨before, hend⟩ := isSuffixOf_iff_suffix.mp (Bool.not_eq_false _ ▸ htrue)
    exact @not_mem_toString '.' rfl number
      (hend ▸ mem_append_right _ (hdots suffix hsuffix))
  have hnumber : toString number ∉ EXCLUDED_DIRECTORY_NAMES := by
    intro hmem
    have hname : toString number = "__pycache__" := mem_singleton.mp hmem
    exact @not_mem_toString '_' rfl number (by rw [hname]; decide)
  have hlong : ∀ part ∈ long_names 14, part ∉ EXCLUDED_DIRECTORY_NAMES := by
    intro part hpart
    rw [eq_of_mem_replicate hpart]
    intro hmem
    exact long_name_ne (by decide) (mem_singleton.mp hmem)
  have hparts : (long_file number).1.any (· ∈ EXCLUDED_DIRECTORY_NAMES) = false := by
    refine any_eq_false.mpr (fun part hpart => ?_)
    rcases mem_snoc hpart with hdir | rfl
    · simpa using hlong part hdir
    · simpa using hnumber
  have hends : EXCLUDED_FILE_SUFFIXES.any (fun suffix => suffix.toList.isSuffixOf
      ((long_file number).1.getLast?.getD "").toList) = false := by
    refine any_eq_false.mpr (fun suffix hmem => ?_)
    have hlast : (long_file number).1.getLast?.getD "" = toString number := by
      rw [long_file, List.getLast?_concat]
      rfl
    rw [hlast, hsuffix suffix hmem]
    exact Bool.false_ne_true
  have hpreserved : is_preserved (long_file number).1 = false := by
    have hhead : (long_file number).1.head? = some long_name := by
      rw [long_file, long_names, replicate_succ, cons_append, List.head?_cons]
    rw [is_preserved, hhead, Option.any_some, decide_eq_false_iff_not]
    intro hmem
    exact long_name_ne (by decide) (mem_singleton.mp hmem)
  have hempty : (long_file number).1.isEmpty = false := by
    rw [isEmpty_eq_false_iff]
    exact concat_ne_nil _ _
  unfold should_exclude_workspace_archive_path
  rw [hempty, hparts, hends, hpreserved]
  decide

theorem long_archived : (archived long_nodes).Perm long_files := by
  have hpaths := (archived_sound long_workspace).nodup
  rw [long_workspace_nodes] at hpaths
  have hnodup : (archived long_nodes).Nodup := List.Nodup.of_map Prod.fst hpaths
  have hfiles : long_files.Nodup := List.Nodup.of_map Prod.fst long_files_paths
  refine (perm_ext_iff_of_nodup hnodup hfiles).mpr (fun file => ?_)
  rw [mem_archived]
  constructor
  · rintro ⟨hrow, -⟩
    rcases long_nodes_cases hrow with ⟨other, hother, hpath, hnode⟩ | ⟨-, hnode⟩
    · rwa [Prod.ext hpath (Node.file.inj hnode)]
    · cases hnode
  · intro hfile
    obtain ⟨number, -, rfl⟩ := mem_map.mp hfile
    exact ⟨long_nodes_file hfile, long_file_kept number⟩

theorem long_files_length : long_files.length = 4096 := by
  rw [long_files, length_map, length_range]

theorem sum_replicate_zero (count : Nat) : (List.replicate count 0).sum = 0 := by
  induction count with
  | zero => rfl
  | succ count ih => rw [replicate_succ, sum_cons, ih]

theorem long_files_bytes : file_bytes long_files = 0 := by
  have hzero : long_files.map (fun file => file.2.contents.length) = List.replicate 4096 0 := by
    rw [eq_replicate_iff]
    refine ⟨by rw [length_map, long_files_length], fun length hlength => ?_⟩
    obtain ⟨file, hfile, rfl⟩ := mem_map.mp hlength
    obtain ⟨number, -, rfl⟩ := mem_map.mp hfile
    rfl
  rw [file_bytes, hzero]
  exact sum_replicate_zero 4096

/-! ### How long the names are -/

theorem length_le_utf8_size (text : String) : text.toList.length ≤ utf8_size text := by
  unfold utf8_size
  induction text.toList with
  | nil => exact Nat.le_refl _
  | cons char rest ih =>
    rw [map_cons, sum_cons, length_cons]
    have hpos := Char.utf8Size_pos char
    omega

theorem long_name_length (count : Nat) (last : String) :
    (as_posix (long_names count ++ [last])).toList.length
      = count * 256 + last.toList.length := by
  induction count with
  | zero =>
    rw [as_posix_toList]
    simp [long_names]
  | succ count ih =>
    obtain ⟨second, others, hrest⟩ := exists_cons_of_ne_nil
      (concat_ne_nil last (long_names count))
    have hjoined : (as_posix (long_names (count + 1) ++ [last])).toList
        = long_name.toList ++ '/' :: (as_posix (long_names count ++ [last])).toList := by
      have hpath : long_names (count + 1) ++ [last] = long_name :: second :: others := by
        rw [← hrest, long_names, replicate_succ, cons_append, long_names]
      rw [as_posix_toList, as_posix_toList, hpath, hrest]
      simp [intercalate_cons_cons]
    have hname : long_name.toList.length = 255 := by
      rw [long_name_toList, length_replicate]
    rw [hjoined, length_append, length_cons, ih, hname]
    omega

theorem long_member_bytes (h : file ∈ long_files) :
    5120 ≤ member_bytes (tar_member file) := by
  obtain ⟨number, -, rfl⟩ := mem_map.mp h
  have hlength := long_name_length 14 (toString number)
  have hdigits : 0 < (toString number).toList.length :=
    length_pos_of_ne_nil (fun hnil => toString_ne_empty number (String.toList_inj.mp hnil))
  have hsize := length_le_utf8_size (as_posix (long_file number).1)
  have hrecord : 3592 ≤ pax_records_size (tar_member (long_file number)) := by
    have hlong : ¬ ((tar_member (long_file number)).name.toList.length ≤ 100
        ∧ (tar_member (long_file number)).name.toList.all (fun char => char.toNat < 128)) := by
      rintro ⟨hshort, -⟩
      have hshort' : (as_posix (long_names 14 ++ [toString number])).toList.length ≤ 100 := hshort
      omega
    unfold pax_records_size
    dsimp only
    rw [if_neg hlong, pax_record_size, pax_record_step]
    have hname : (tar_member (long_file number)).name = as_posix (long_file number).1 := rfl
    have hpath : (long_file number).1 = long_names 14 ++ [toString number] := rfl
    rw [hname]
    rw [hpath] at hsize ⊢
    omega
  unfold member_bytes header_bytes block_bytes
  dsimp only
  rw [if_neg (by omega)]
  omega

theorem le_members_bytes {bound : Nat}
    (h : ∀ file ∈ files, bound ≤ member_bytes (tar_member file)) :
    files.length * bound ≤ members_bytes files := by
  induction files with
  | nil => simp [members_bytes]
  | cons file rest ih =>
    have hfile := h file mem_cons_self
    have hrest := ih (fun other hother => h other (mem_cons_of_mem _ hother))
    have hsum : members_bytes (file :: rest)
        = member_bytes (tar_member file) + members_bytes rest := by simp [members_bytes]
    rw [hsum, length_cons, Nat.add_mul, Nat.one_mul]
    omega

theorem lt_stream_bytes (h : ∀ file ∈ files, 5120 ≤ member_bytes (tar_member file))
    (hmany : 4096 ≤ files.length) : MAX_WORKSPACE_TAR_STREAM_BYTES < stream_bytes files := by
  have hbytes := le_members_bytes h
  have hstream : stream_bytes files = records_read (members_bytes files + 512) := by
    rw [stream_bytes, members_bytes]
  rw [hstream]
  unfold records_read MAX_WORKSPACE_TAR_STREAM_BYTES
  omega

theorem long_stream : MAX_WORKSPACE_TAR_STREAM_BYTES < stream_bytes (archived long_nodes) := by
  refine lt_stream_bytes (fun file hfile => ?_) ?_
  · exact long_member_bytes (long_archived.mem_iff.mp hfile)
  · rw [long_archived.length_eq, long_files_length]

/-- The format that packs the files in as many bytes as `gzip` does. -/
def long_format : TarGz :=
  tar_gz ((archived long_nodes).map tar_member) (List.replicate 116546 0)

theorem create_workspace_archive_base64_ok {nodes : Workspace} (archive_root : TreePath String)
    (hlinks : ∀ row ∈ sorted_nodes nodes, row.2 ≠ .symlink)
    (hcount : (archived nodes).length ≤ MAX_WORKSPACE_ARCHIVE_MEMBERS)
    (htotal : file_bytes (archived nodes) ≤ MAX_WORKSPACE_ARCHIVE_BYTES)
    (hsize : ¬ MAX_WORKSPACE_ARCHIVE_BYTES
      < (format.pack ((archived nodes).map tar_member)).length) :
    create_workspace_archive_base64 format archive_root (.directory nodes)
      = .ok (b64encode (format.pack ((archived nodes).map tar_member))) := by
  have hmembers := archive_members_ok hlinks
    (by rw [Nat.zero_add]; exact hcount) (by rw [Nat.zero_add]; exact htotal)
  have harchived : (sorted_nodes nodes).filterMap archived_file = archived nodes := rfl
  rw [harchived] at hmembers
  rw [create_workspace_archive_base64, hmembers, Result.ok_bind]
  dsimp only
  rw [raise_if_archive_too_large, (raise_if_eq_ok (u := ())).mpr hsize, Result.ok_bind]
  rfl

theorem long_nodes_not_symlink (h : row ∈ sorted_nodes long_nodes) : row.2 ≠ .symlink := by
  intro hlink
  rcases long_nodes_cases (mem_sorted_nodes.mp h) with ⟨file, -, -, hnode⟩ | ⟨-, hnode⟩
  · rw [hlink] at hnode
    cases hnode
  · rw [hlink] at hnode
    cases hnode

theorem long_archived_bytes : file_bytes (archived long_nodes) = 0 := by
  rw [← long_files_bytes, file_bytes, file_bytes]
  exact (long_archived.map _).sum_nat

theorem long_packed : (long_format.pack ((archived long_nodes).map tar_member)).length
    = 116547 := by
  rw [long_format, tar_gz_pack, length_cons, length_replicate]

/-- **The writer accepts the files, and the reader rejects their archive.** -/
theorem long_names_rejected :
    ¬ ∀ (format : TarGz) (tree : WorkspaceTree) (archive_root : TreePath String) (text : String),
      create_workspace_archive_base64 format archive_root (.directory tree.nodes) = .ok text →
        ∀ (workspace_root temp_root : TreePath String) (root : Root), root ≠ .other →
          RoundTrips tree.nodes root.nodes
            (extract_workspace_archive_base64 format workspace_root temp_root root text) := by
  intro hall
  have hcount : (archived long_nodes).length ≤ MAX_WORKSPACE_ARCHIVE_MEMBERS := by
    rw [long_archived.length_eq, long_files_length]
    decide
  have htotal : file_bytes (archived long_nodes) ≤ MAX_WORKSPACE_ARCHIVE_BYTES := by
    rw [long_archived_bytes]
    decide
  have hsize : ¬ MAX_WORKSPACE_ARCHIVE_BYTES
      < (long_format.pack ((archived long_nodes).map tar_member)).length := by
    rw [long_packed]
    decide
  have hcreate := create_workspace_archive_base64_ok [] (fun row => long_nodes_not_symlink)
    hcount htotal hsize
  rw [← long_workspace_nodes] at hcreate
  have hmissing : (.missing : Root) ≠ .other := fun h => by cases h
  have hround := (round_trips_iff hcreate [] [] hmissing).mp
    (hall long_format long_workspace [] _ hcreate [] [] .missing hmissing)
  rw [long_workspace_nodes] at hround
  exact absurd hround.1 (Nat.not_le_of_lt long_stream)

end CodingAgentLoop.WorkspaceArchive
