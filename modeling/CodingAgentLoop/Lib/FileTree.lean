/-
Directories and files under a root.

A tree is a table of paths. The two ways to write to it, `make_directory` and `write_file`,
also make the directories above, and fail where one of these is something else. Whether a
series of writes goes through is seen from its outcome: if what each write makes is part of
one `shape`, no write is in another's way (`make_directory_within`, `write_file_within`),
and the tree never leaves the shape.
-/
import CodingAgentLoop.Lib.Table
import Mathlib.Data.List.Infix

namespace Lib.FileTree

open List

variable {N F : Type} [DecidableEq N]

abbrev TreePath (N : Type) := List N

inductive Node (F : Type) where
  | dir
  | file (data : F)
  | symlink
  | special

abbrev Tree (N F : Type) [DecidableEq N] := Table (TreePath N) (Node F)

/-! ## Writing -/

section

variable (tree : Tree N F) (path : TreePath N)

def ensure_directory : Option (Tree N F) :=
  match tree.row path with
  | none | some .dir => some (tree.put path .dir)
  | some _ => none

def make_directory : Option (Tree N F) :=
  path.inits.tail.foldlM ensure_directory tree

def write_file (data : F) : Option (Tree N F) := do
  let tree ← make_directory tree path.dropLast
  match tree.row path with
  | none | some (.file _) => some (tree.put path (.file data))
  | some _ => none

end

/-! ## Shapes -/

def InShape (tree : Tree N F) (shape : TreePath N → Option (Node F)) : Prop :=
  ∀ path node, tree.row path = some node → shape path = some node

def Grows (tree tree' : Tree N F) : Prop := ∀ path, (tree.row path).isSome → (tree'.row path).isSome

variable {tree tree' : Tree N F} {shape : TreePath N → Option (Node F)} {path : TreePath N}

theorem Grows.refl (tree : Tree N F) : Grows tree tree := fun _ h => h

theorem Grows.trans {tree'' : Tree N F} (h : Grows tree tree') (h' : Grows tree' tree'') :
    Grows tree tree'' := fun path hsome => h' path (h path hsome)

theorem InShape.put (h : InShape tree shape) {node : Node F} (hnode : shape path = some node) :
    InShape (tree.put path node) shape := by
  intro other found hfound
  rw [Table.row_put] at hfound
  by_cases hsame : other = path
  · rw [if_pos hsame] at hfound
    rw [hsame, hnode, ← hfound]
  · rw [if_neg hsame] at hfound
    exact h other found hfound

theorem grows_put (tree : Tree N F) (path : TreePath N) (node : Node F) :
    Grows tree (tree.put path node) := by
  intro other hsome
  rw [Table.row_put]
  by_cases hsame : other = path
  · rw [if_pos hsame]
    rfl
  · rwa [if_neg hsame]

theorem InShape.eq (h : InShape tree shape)
    (hall : ∀ path, (shape path).isSome → (tree.row path).isSome) (path : TreePath N) :
    tree.row path = shape path := by
  cases hrow : tree.row path with
  | some node => exact (h path node hrow).symm
  | none =>
    cases hshape : shape path with
    | none => rfl
    | some node =>
      have hsome := hall path (by rw [hshape]; rfl)
      rw [hrow] at hsome
      cases hsome

/-! ## Writes within a shape -/

theorem ensure_directory_within (h : InShape tree shape) (hdir : shape path = some .dir) :
    ensure_directory tree path = some (tree.put path .dir) := by
  unfold ensure_directory
  cases hrow : tree.row path with
  | none => rfl
  | some node =>
    obtain rfl : node = .dir := Option.some.inj ((h path node hrow).symm.trans hdir)
    rfl

theorem ensure_directories_within (h : InShape tree shape) {paths : List (TreePath N)}
    (hdirs : ∀ path ∈ paths, shape path = some .dir) :
    ∃ tree', paths.foldlM ensure_directory tree = some tree' ∧ InShape tree' shape
      ∧ Grows tree tree' ∧ ∀ path ∈ paths, (tree'.row path).isSome := by
  induction paths generalizing tree with
  | nil => exact ⟨tree, rfl, h, Grows.refl tree, fun _ hmem => absurd hmem not_mem_nil⟩
  | cons first rest ih =>
    have hfirst := hdirs first mem_cons_self
    obtain ⟨tree', hrest, hwithin, hgrows, hmade⟩ :=
      ih (h.put hfirst) (fun path hmem => hdirs path (mem_cons_of_mem _ hmem))
    refine ⟨tree', ?_, hwithin, (grows_put _ _ _).trans hgrows, fun path hmem => ?_⟩
    · rw [foldlM_cons, ensure_directory_within h hfirst]
      exact hrest
    · rcases mem_cons.mp hmem with rfl | hmem
      · exact hgrows _ (by rw [Table.row_put_self]; rfl)
      · exact hmade path hmem

theorem mem_inits_tail {parent : TreePath N} :
    parent ∈ path.inits.tail ↔ parent ≠ [] ∧ parent <+: path := by
  cases path with
  | nil => simp
  | cons name rest =>
    rw [inits_cons, tail_cons, mem_map]
    constructor
    · rintro ⟨above, habove, rfl⟩
      exact ⟨cons_ne_nil _ _,
        (prefix_cons_inj name).mpr ((mem_inits _ _).mp habove)⟩
    · rintro ⟨hne, hstart⟩
      obtain ⟨first, above, rfl⟩ := exists_cons_of_ne_nil hne
      obtain ⟨rfl, habove⟩ := cons_prefix_cons.mp hstart
      exact ⟨above, (mem_inits _ _).mpr habove, rfl⟩

/-- **A directory of the shape is made.** -/
theorem make_directory_within (h : InShape tree shape)
    (hdirs : ∀ parent, parent ≠ [] → parent <+: path → shape parent = some .dir) :
    ∃ tree', make_directory tree path = some tree' ∧ InShape tree' shape ∧ Grows tree tree'
      ∧ ∀ parent, parent ≠ [] → parent <+: path → (tree'.row parent).isSome := by
  obtain ⟨tree', hmade, hwithin, hgrows, hthere⟩ := ensure_directories_within h
    (fun parent hmem => hdirs parent (mem_inits_tail.mp hmem).1 (mem_inits_tail.mp hmem).2)
  exact ⟨tree', hmade, hwithin, hgrows,
    fun parent hne hstart => hthere parent (mem_inits_tail.mpr ⟨hne, hstart⟩)⟩

/-- **A file of the shape is written.** -/
theorem write_file_within (h : InShape tree shape) {data : F}
    (hfile : shape path = some (.file data))
    (hdirs : ∀ parent, parent ≠ [] → parent <+: path.dropLast → shape parent = some .dir)
    (written : F) :
    ∃ tree', write_file tree path written = some (tree'.put path (.file written))
      ∧ InShape tree' shape ∧ Grows tree tree'
      ∧ ∀ parent, parent ≠ [] → parent <+: path.dropLast → (tree'.row parent).isSome := by
  obtain ⟨tree', hmade, hwithin, hgrows, hthere⟩ := make_directory_within h hdirs
  refine ⟨tree', ?_, hwithin, hgrows, hthere⟩
  unfold write_file
  rw [hmade, Option.bind_eq_bind, Option.bind_some]
  cases hrow : tree'.row path with
  | none => rfl
  | some node =>
    obtain rfl : node = .file data := Option.some.inj ((hwithin path node hrow).symm.trans hfile)
    rfl

end Lib.FileTree
