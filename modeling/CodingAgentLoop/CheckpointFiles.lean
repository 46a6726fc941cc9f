/-
Checkpoints as three files each (`agentkit/storage/checkpoint_fs.py`).

A save replaces the three files one after another, and after an error it deletes those it has
replaced, whatever stood there before. So what is read is whole as long as no save of a new
checkpoint fails behind its last file, none of a checkpoint that is there fails behind its first,
and no such checkpoint is loaded while it is replaced: `checkpoints_whole`.
-/
import CodingAgentLoop.Errors
import CodingAgentLoop.Lib.Json
import CodingAgentLoop.Lib.Stateful
import CodingAgentLoop.Lib.Table

namespace CodingAgentLoop.CheckpointFiles

open Lib List Result Action Table

/-! ## Checkpoints -/

/-- A `datetime`: the point in time, and whether it has a time zone. -/
structure CreatedAt where
  time : Int
  aware : Bool

structure CheckpointMeta where
  checkpoint_id : String
  tape_id : String
  session_id : Option String
  entry_count : Int
  window_start : Int
  created_at : CreatedAt
  label : Option String

/-- `CheckpointSnapshot`. `info` is the source's `meta`. -/
structure CheckpointSnapshot where
  info : CheckpointMeta
  tape_entries : List JsonObject
  plugin_states : JsonObject
  extra : JsonObject

inductive FileKind where
  | entries
  | state
  | info
  deriving DecidableEq

def FileKind.Content : FileKind → Type
  | .entries => List JsonObject
  | .state => JsonObject × JsonObject
  | .info => CheckpointMeta

def CheckpointSnapshot.content (snapshot : CheckpointSnapshot) : (kind : FileKind) → kind.Content
  | .entries => snapshot.tape_entries
  | .state => (snapshot.plugin_states, snapshot.extra)
  | .info => snapshot.info

/-- The files of the base directory, by what their names have before the suffix. -/
abbrev Files := (kind : FileKind) → Table String kind.Content

/-- The parts of `Path(text)`, but for the root, from what stands between the slashes. -/
def path_parts (segments : List (List Char)) : List (List Char) :=
  segments.filter fun segment => segment ≠ [] ∧ segment ≠ ['.']

/-- The name, before its suffix, of the files of a checkpoint that `_validated_checkpoint_id`
accepts. An id that ends with a slash names files in a directory that is not there. -/
def located (checkpoint_id : String) : Except StoreError (Option String) := do
  let segments := checkpoint_id.toList.splitOn '/'
  raise_if (checkpoint_id = "") .ValueError "checkpoint_id must not be empty"
  raise_if (checkpoint_id.toList.head? = some '/') .ValueError
    "checkpoint_id must be a single relative path component"
  raise_if ((path_parts segments).length ≠ 1) .ValueError
    "checkpoint_id must be a single path component"
  raise_if (path_parts segments = [['.', '.']]) .ValueError
    "checkpoint_id must not contain path traversal components"
  raise_if ('\\' ∈ checkpoint_id.toList) .ValueError
    "checkpoint_id must not contain path separators"
  return if path_parts segments.dropLast = [] then segments.getLast?.map String.ofList else none

/-! ## File operations -/

/-- The file operations of `_atomic_write_text`: those on the temporary file, up to its
`os.replace`, and those on the directory behind it. -/
inductive WriteStep where
  | temp_file
  | directory
  deriving DecidableEq

/-- The file operation of a save that raises. -/
structure Failure where
  kind : FileKind
  step : WriteStep
  deriving DecidableEq

def Files.replaced (files : Files) (kind : FileKind) (name : String)
    (snapshot : CheckpointSnapshot) : Files :=
  Function.update files kind ((files kind).put name (snapshot.content kind))

def Files.unlinked (files : Files) (kind : FileKind) (name : String) : Files :=
  Function.update files kind ((files kind).delete_where fun other _ => other = name)

/-- The directory and what it was after each of its changes; `published_paths` of a save. -/
structure Disk where
  files : Files
  trail : List Files
  published_paths : List FileKind

abbrev DiskAction := Action Disk StoreError

def change (next : Files → Files) : DiskAction Unit :=
  Action.modify fun disk =>
    { disk with files := next disk.files, trail := disk.trail ++ [next disk.files] }

def unlink (name : String) (kind : FileKind) : DiskAction Unit :=
  change fun files => files.unlinked kind name

/-- The files of a checkpoint in the base directory, or what is done where there can be none. -/
def at_files (checkpoint_id : String) (absent : DiskAction Unit) (body : String → DiskAction Unit) :
    DiskAction Unit := do
  match ← lift (located checkpoint_id) with
  | none => absent
  | some name => body name

section Store

variable (fails : Option Failure) (name : String) (snapshot : CheckpointSnapshot)

/-- `self._atomic_write_text(path, ...)`, and the path is published. -/
def atomic_write_text (kind : FileKind) : DiskAction Unit := do
  lift (raise_if (fails.any (fun failure =>
    failure.kind = kind ∧ failure.step = .temp_file) = true) .OSError "file was not replaced")
  change fun files => files.replaced kind name snapshot
  lift (raise_if (fails = some ⟨kind, .directory⟩) .OSError "directory was not synced")
  Action.modify fun disk => { disk with published_paths := disk.published_paths ++ [kind] }

def write_files : DiskAction Unit := do
  atomic_write_text fails name snapshot .entries
  atomic_write_text fails name snapshot .state
  atomic_write_text fails name snapshot .info

/-- `_write()` of a save, for files in the base directory. -/
def write : DiskAction Unit := do
  match ← attempt (write_files fails name snapshot) with
  | .ok () => pure ()
  | .error error => do
    let disk ← Action.get
    each disk.published_paths (unlink name)
    Action.raise error

def save : DiskAction Unit :=
  at_files snapshot.info.checkpoint_id (Action.raise (.raised .OSError "No such file or directory"))
    fun name => write fails name snapshot

/-- `delete(checkpoint_id)`; a file that does not exist is left alone. -/
def delete (checkpoint_id : String) : DiskAction Unit :=
  at_files checkpoint_id (pure ()) fun name =>
    each [FileKind.info, .entries, .state] (unlink name)

end Store

def no_such_file {α : Type} : Except StoreError α := raise .OSError "No such file or directory"

/-- `_read()` of a load, for files in the base directory. -/
def Files.read (files : Files) (name : String) : Except StoreError (Option CheckpointSnapshot) :=
  match (files .info).row name, (files .state).row name, (files .entries).row name with
  | none, _, _ => .ok none
  | some info, some (plugin_states, extra), some tape_entries =>
    .ok (some { info, tape_entries, plugin_states, extra })
  | some _, _, _ => no_such_file

def load (files : Files) (checkpoint_id : String) :
    Except StoreError (Option CheckpointSnapshot) := do
  match ← located checkpoint_id with
  | none => return none
  | some name => files.read name

def Files.metas (files : Files) (tape_id : String) : List CheckpointMeta :=
  ((files .info).select fun _ info => info.tape_id = tape_id).map fun row => row.2

/-- Datetimes with a time zone and without one are not compared. -/
def Mixed (metas : List CheckpointMeta) : Prop :=
  (∃ info ∈ metas, info.created_at.aware = true) ∧ ∃ info ∈ metas, info.created_at.aware = false

instance (metas : List CheckpointMeta) : Decidable (Mixed metas) := by
  unfold Mixed
  infer_instance

def list_by_tape (files : Files) (tape_id : String) : Except StoreError (List CheckpointMeta) := do
  raise_if (Mixed (files.metas tape_id)) .TypeError
    "can't compare offset-naive and offset-aware datetimes"
  return (files.metas tape_id).insertionSort fun info other =>
    info.created_at.time ≤ other.created_at.time

/-! ## Calls -/

inductive CheckpointRead where
  | load (checkpoint_id : String)
  | list_by_tape (tape_id : String)

inductive CheckpointCall where
  | save (snapshot : CheckpointSnapshot) (fails : Option Failure)
  | delete (checkpoint_id : String)
  | read (read : CheckpointRead)

def CheckpointCall.perform : CheckpointCall → DiskAction Unit
  | .save snapshot fails => CheckpointFiles.save fails snapshot
  | .delete checkpoint_id => CheckpointFiles.delete checkpoint_id
  | .read _ => pure ()

def CheckpointCall.run (call : CheckpointCall) (files : Files) : Except StoreError Unit × Disk :=
  call.perform { files, trail := [], published_paths := [] }

/-- A call, and the reads that run when it has changed the directory as often, less one. -/
structure CheckpointStep where
  call : CheckpointCall
  during : List (Nat × CheckpointRead)

def CheckpointStep.reads (step : CheckpointStep) (files : Files) : List (Files × CheckpointRead) :=
  (match step.call with
    | .read read => [(files, read)]
    | .save _ _ | .delete _ => [])
    ++ step.during.filterMap fun (index, read) =>
      (step.call.run files).2.trail[index]?.map fun found => (found, read)

def CheckpointCall.saving : CheckpointCall → List CheckpointSnapshot
  | .save snapshot _ => [snapshot]
  | .delete _ | .read _ => []

def CheckpointCall.completed (call : CheckpointCall) (files : Files) : List CheckpointSnapshot :=
  match (call.run files).1 with
  | .ok () => call.saving
  | .error _ => []

/-- What is promised of a read. -/
def ReadKept (saved : List CheckpointSnapshot) (files : Files) : CheckpointRead → Prop
  | .load checkpoint_id => ∃ answer, load files checkpoint_id = .ok answer
      ∧ ∀ snapshot, answer = some snapshot → snapshot ∈ saved
  | .list_by_tape tape_id => ∃ metas, list_by_tape files tape_id = .ok metas
      ∧ metas.Pairwise (fun info other => info.created_at.time ≤ other.created_at.time)
      ∧ metas.Nodup
      ∧ ∀ info, info ∈ metas ↔ info.tape_id = tape_id
        ∧ ∃ checkpoint_id snapshot, load files checkpoint_id = .ok (some snapshot)
          ∧ snapshot.info = info

/-- What is promised of a step, where `saved` was saved before. -/
structure Kept (saved : List CheckpointSnapshot) (files : Files) (step : CheckpointStep) : Prop where
  reads : ∀ read ∈ step.reads files, ReadKept (step.call.saving ++ saved) read.1 read.2
  unchanged : ∀ error, (step.call.run files).1 = .error error →
    ∀ checkpoint_id, load (step.call.run files).2.files checkpoint_id = load files checkpoint_id

/-- A read of a valid id, or a list of datetimes that can be compared. -/
def ReadSound (files : Files) : CheckpointRead → Prop
  | .load checkpoint_id => ∃ name, located checkpoint_id = .ok name
  | .list_by_tape tape_id => ¬ Mixed (files.metas tape_id)

/-- What is asked of a step. A save of a new checkpoint does not fail when all is replaced, and one of
a checkpoint that is there fails before it replaces anything, or behind entries that stay as they
are; and a load of that checkpoint while its first files are replaced finds a snapshot that was
saved. -/
structure Sound (saved : List CheckpointSnapshot) (files : Files) (step : CheckpointStep) : Prop where
  reads : ∀ read ∈ step.reads files, ReadSound read.1 read.2
  first : ∀ snapshot fails name, step.call = .save snapshot fails →
    located snapshot.info.checkpoint_id = .ok (some name) → files.read name = .ok none →
      fails ≠ some ⟨.info, .directory⟩
  again : ∀ snapshot fails name old, step.call = .save snapshot fails →
    located snapshot.info.checkpoint_id = .ok (some name) → files.read name = .ok (some old) →
      (∀ failure, fails = some failure → failure.kind = .entries
        ∧ (failure.step = .directory → old.tape_entries = snapshot.tape_entries))
      ∧ ∀ checkpoint_id, located checkpoint_id = .ok (some name) →
        ((0, .load checkpoint_id) ∈ step.during →
          { old with tape_entries := snapshot.tape_entries } ∈ snapshot :: saved)
        ∧ ((1, .load checkpoint_id) ∈ step.during →
          { snapshot with info := old.info } ∈ snapshot :: saved)

/-! ## What the files hold -/

variable {files files' : Files} {name other : String} {snapshot : CheckpointSnapshot}
  {saved : List CheckpointSnapshot} {P : CheckpointSnapshot → Prop}

theorem replaced_row (files : Files) (kind : FileKind) (name : String) (snapshot : CheckpointSnapshot)
    (found : FileKind) (other : String) : ((files.replaced kind name snapshot) found).row other
      = if found = kind ∧ other = name then some (snapshot.content found)
        else (files found).row other := by
  unfold Files.replaced
  by_cases hkind : found = kind
  · subst hkind
    rw [Function.update_self, row_put]
    simp
  · rw [Function.update_of_ne hkind, if_neg (fun h => hkind h.1)]

theorem unlinked_row (files : Files) (kind : FileKind) (name : String) (found : FileKind)
    (other : String) : ((files.unlinked kind name) found).row other
      = if found = kind ∧ other = name then none else (files found).row other := by
  unfold Files.unlinked
  by_cases hkind : found = kind
  · subst hkind
    rw [Function.update_self]
    ext content
    rw [row_delete_where_eq_some]
    by_cases hname : other = name <;> simp [hname]
  · rw [Function.update_of_ne hkind, if_neg (fun h => hkind h.1)]

/-- The name has no checkpoint, or a whole one that meets `P`. -/
def Held (P : CheckpointSnapshot → Prop) (files : Files) (name : String) : Prop :=
  (files .info).row name = none ∨ ∃ snapshot, P snapshot
    ∧ located snapshot.info.checkpoint_id = .ok (some name)
    ∧ ∀ kind, (files kind).row name = some (snapshot.content kind)

def Whole (saved : List CheckpointSnapshot) (files : Files) : Prop :=
  ∀ name, Held (· ∈ saved) files name

theorem Held.congr (hrows : ∀ kind, (files' kind).row name = (files kind).row name)
    (h : Held P files name) : Held P files' name := by
  unfold Held
  simp only [hrows]
  exact h

theorem Held.imp {Q : CheckpointSnapshot → Prop} (h : Held P files name)
    (himp : ∀ snapshot, P snapshot → Q snapshot) : Held Q files name :=
  Or.imp_right (fun ⟨snapshot, hp, hrest⟩ => ⟨snapshot, himp snapshot hp, hrest⟩) h

theorem read_of_none (h : (files .info).row name = none) : files.read name = .ok none := by
  unfold Files.read
  rw [h]

theorem read_of_rows (h : ∀ kind, (files kind).row name = some (snapshot.content kind)) :
    files.read name = .ok (some snapshot) := by
  unfold Files.read
  rw [h .info, h .state, h .entries]
  rfl

theorem info_of_read (h : files.read name = .ok (some snapshot)) :
    (files .info).row name = some snapshot.info := by
  unfold Files.read at h
  split at h
  · cases h
  · next hinfo _ _ =>
    cases h
    exact hinfo
  · cases h

theorem read_congr (hrows : ∀ kind, (files' kind).row name = (files kind).row name) :
    files'.read name = files.read name := by
  unfold Files.read
  rw [hrows, hrows, hrows]

theorem load_of_located {checkpoint_id : String} (h : located checkpoint_id = .ok (some name)) :
    load files checkpoint_id = files.read name := by
  unfold load
  rw [h, ok_bind]

theorem mem_metas {tape_id : String} {info : CheckpointMeta} :
    info ∈ files.metas tape_id ↔ ∃ name, (files .info).row name = some info ∧ info.tape_id = tape_id := by
  constructor
  · intro h
    obtain ⟨⟨name, found⟩, hmem, rfl⟩ := mem_map.mp h
    obtain ⟨hrow, htape⟩ := mem_select.mp hmem
    exact ⟨name, hrow, of_decide_eq_true htape⟩
  · rintro ⟨name, hrow, htape⟩
    exact mem_map.mpr
      ⟨(name, info), mem_select.mpr ⟨hrow, decide_eq_true htape⟩, rfl⟩

theorem list_kept (hheld : ∀ name, Held (fun _ => True) files name) {tape_id : String}
    (hsound : ¬ Mixed (files.metas tape_id)) : ReadKept saved files (.list_by_tape tape_id) := by
  have htotal : Std.Total fun info other : CheckpointMeta =>
      info.created_at.time ≤ other.created_at.time := ⟨fun _ _ => Int.le_total _ _⟩
  have htrans : IsTrans CheckpointMeta fun info other =>
      info.created_at.time ≤ other.created_at.time := ⟨fun _ _ _ => Int.le_trans⟩
  have hplace : ∀ name info, (files .info).row name = some info →
      located info.checkpoint_id = .ok (some name) ∧ ∃ snapshot, files.read name = .ok (some snapshot)
        ∧ snapshot.info = info := by
    intro name info hrow
    rcases hheld name with hnone | ⟨snapshot, -, hlocated, hrows⟩
    · rw [hrow] at hnone
      cases hnone
    · have hinfo := hrows .info
      rw [hrow] at hinfo
      cases hinfo
      exact ⟨hlocated, snapshot, read_of_rows hrows, rfl⟩
  refine ⟨(files.metas tape_id).insertionSort _, ?_, pairwise_insertionSort _ _,
    (perm_insertionSort _ _).nodup_iff.mpr ?_, ?_⟩
  · unfold list_by_tape
    rw [(raise_if_eq_ok (u := ())).mpr hsound, ok_bind]
    rfl
  · have hnames := nodup_select (files .info) fun _ info => decide (info.tape_id = tape_id)
    refine List.Nodup.map_on ?_ hnames.of_map
    rintro ⟨name, info⟩ hmem ⟨other, _⟩ hother ⟨⟩
    have hname := (hplace _ _ (mem_select.mp hmem).1).1
    rw [(hplace _ _ (mem_select.mp hother).1).1] at hname
    cases hname
    rfl
  · intro info
    rw [mem_insertionSort, mem_metas]
    constructor
    · rintro ⟨name, hrow, htape⟩
      obtain ⟨hlocated, snapshot, hread, hinfo⟩ := hplace name info hrow
      exact ⟨htape, _, snapshot, (load_of_located hlocated).trans hread, hinfo⟩
    · rintro ⟨htape, checkpoint_id, snapshot, hload, rfl⟩
      unfold load at hload
      obtain ⟨place, hplaced, hload⟩ := bind_eq_ok.mp hload
      cases place with
      | none => cases hload
      | some name => exact ⟨name, info_of_read hload, htape⟩

theorem read_kept (hheld : ∀ name, Held (fun _ => True) files name) {read : CheckpointRead}
    (hload : ∀ checkpoint_id name, read = .load checkpoint_id →
      located checkpoint_id = .ok (some name) → Held (· ∈ saved) files name)
    (hsound : ReadSound files read) : ReadKept saved files read := by
  cases read with
  | list_by_tape tape_id => exact list_kept hheld hsound
  | load checkpoint_id =>
    obtain ⟨place, hplace⟩ := hsound
    cases place with
    | none =>
      refine ⟨none, ?_, nofun⟩
      unfold load
      rw [hplace, ok_bind]
      rfl
    | some name =>
      rcases hload checkpoint_id name rfl hplace with hnone | ⟨snapshot, hsaved, -, hrows⟩
      · exact ⟨none, (load_of_located hplace).trans (read_of_none hnone), nofun⟩
      · refine ⟨_, (load_of_located hplace).trans (read_of_rows hrows), ?_⟩
        rintro _ ⟨⟩
        exact hsaved

theorem Whole.read_kept (h : Whole saved files) {read : CheckpointRead}
    (hsound : ReadSound files read) : ReadKept saved files read :=
  CheckpointFiles.read_kept (fun name => (h name).imp fun _ _ => trivial)
    (fun _ name _ _ => h name) hsound

/-! ## One step -/

def Elsewhere (name : String) (files files' : Files) : Prop :=
  ∀ other, other ≠ name → ∀ kind, (files' kind).row other = (files kind).row other

theorem Elsewhere.replaced (h : Elsewhere name files files') (kind : FileKind) :
    Elsewhere name files (files'.replaced kind name snapshot) := by
  intro other hne found
  rw [replaced_row, if_neg (fun hsame => hne hsame.2), h other hne]

theorem Elsewhere.unlinked (h : Elsewhere name files files') (kind : FileKind) :
    Elsewhere name files (files'.unlinked kind name) := by
  intro other hne found
  rw [unlinked_row, if_neg (fun hsame => hne hsame.2), h other hne]

theorem Whole.changed (h : Whole saved files) (helse : Elsewhere name files files')
    (hname : Held (· ∈ saved) files' name) : Whole saved files' := by
  intro other
  by_cases hsame : other = name
  · rw [hsame]
    exact hname
  · exact (h other).congr (helse other hsame)

theorem Whole.cons (h : Whole saved files) : Whole (snapshot :: saved) files :=
  fun name => (h name).imp fun _ hmem => mem_cons_of_mem _ hmem

/-- Where the checkpoint is not there before nor after, every load finds what it found. -/
theorem load_unchanged (helse : Elsewhere name files files')
    (hname : files'.read name = files.read name) (checkpoint_id : String) :
    load files' checkpoint_id = load files checkpoint_id := by
  unfold load
  congr 1
  funext place
  cases place with
  | none => rfl
  | some other =>
    by_cases hsame : other = name
    · rw [hsame]
      exact hname
    · exact read_congr (helse other hsame)

theorem at_files_cases (checkpoint_id : String) (absent : DiskAction Unit)
    (body : String → DiskAction Unit) (disk : Disk) :
    (∃ error, at_files checkpoint_id absent body disk = (.error error, disk))
      ∨ at_files checkpoint_id absent body disk = absent disk
      ∨ ∃ name, located checkpoint_id = .ok (some name)
        ∧ at_files checkpoint_id absent body disk = body name disk := by
  unfold at_files
  cases hlocated : located checkpoint_id with
  | error error => exact .inl ⟨error, by rw [bind_error (lift_run _ _)]⟩
  | ok place =>
    rw [bind_ok (lift_run _ _)]
    cases place with
    | none => exact .inr (.inl rfl)
    | some name => exact .inr (.inr ⟨name, rfl, rfl⟩)

/-- What a save leaves: its result, the directory, and the directory after each change. -/
def written (fails : Option Failure) (name : String) (snapshot : CheckpointSnapshot)
    (files : Files) : Bool × Files × List Files :=
  let one := files.replaced .entries name snapshot
  let two := one.replaced .state name snapshot
  let three := two.replaced .info name snapshot
  let undone (found : Files) := found.unlinked .entries name
  let undone_both (found : Files) := (undone found).unlinked .state name
  match fails with
  | none => (true, three, [one, two, three])
  | some ⟨.entries, .temp_file⟩ => (false, files, [])
  | some ⟨.entries, .directory⟩ => (false, one, [one])
  | some ⟨.state, .temp_file⟩ => (false, undone one, [one, undone one])
  | some ⟨.state, .directory⟩ => (false, undone two, [one, two, undone two])
  | some ⟨.info, .temp_file⟩ => (false, undone_both two, [one, two, undone two, undone_both two])
  | some ⟨.info, .directory⟩ =>
    (false, undone_both three, [one, two, three, undone three, undone_both three])

theorem save_run (fails : Option Failure) (hsave : (CheckpointCall.save snapshot fails).run files
      = write fails name snapshot ⟨files, [], []⟩) :
    let result := (CheckpointCall.save snapshot fails).run files
    let expected := written fails name snapshot files
    (result.1 = .ok () ↔ expected.1 = true) ∧ result.2.files = expected.2.1
      ∧ result.2.trail = expected.2.2 := by
  simp only [hsave]
  rcases fails with _ | ⟨kind, step⟩
  · exact ⟨⟨fun _ => rfl, fun _ => rfl⟩, rfl, rfl⟩
  · cases kind <;> cases step <;> exact ⟨⟨nofun, nofun⟩, rfl, rfl⟩

theorem written_elsewhere (fails : Option Failure) (name : String) (snapshot : CheckpointSnapshot)
    (files : Files) : Elsewhere name files (written fails name snapshot files).2.1
      ∧ ∀ found ∈ (written fails name snapshot files).2.2, Elsewhere name files found := by
  have hrefl : Elsewhere name files files := fun _ _ _ => rfl
  rcases fails with _ | ⟨kind, step⟩
  on_goal 2 => cases kind <;> cases step
  all_goals
    simp only [written, forall_mem_cons]
    and_intros
    all_goals
      repeat' first
        | exact hrefl
        | exact forall_mem_nil _
        | apply Elsewhere.replaced
        | apply Elsewhere.unlinked

theorem replaced_rows (files : Files) (name : String) (snapshot : CheckpointSnapshot)
    (kind : FileKind) :
    ((((files.replaced .entries name snapshot).replaced .state name snapshot).replaced .info name
      snapshot) kind).row name = some (snapshot.content kind) := by
  cases kind <;> simp [replaced_row]

theorem written_first (snapshot : CheckpointSnapshot) {fails : Option Failure}
    (hnone : (files .info).row name = none) (hfails : fails ≠ some ⟨.info, .directory⟩) :
    (∀ found ∈ (written fails name snapshot files).2.2, (found .info).row name = none
        ∨ ∀ kind, (found kind).row name = some (snapshot.content kind))
      ∧ ((written fails name snapshot files).1 = true →
        ∀ kind, ((written fails name snapshot files).2.1 kind).row name
          = some (snapshot.content kind))
      ∧ ((written fails name snapshot files).1 = false →
        ((written fails name snapshot files).2.1 .info).row name = none) := by
  rcases fails with _ | ⟨kind, step⟩
  · refine ⟨?_, fun _ => replaced_rows files name snapshot, fun hundone => by cases hundone⟩
    simp only [written, forall_mem_cons]
    refine ⟨.inl ?_, .inl ?_, .inr (replaced_rows files name snapshot),
      forall_mem_nil _⟩ <;> simp [replaced_row, hnone]
  · cases kind <;> cases step
    on_goal 6 => exact absurd rfl hfails
    all_goals
      refine ⟨?_, (fun hdone => by cases hdone), fun _ => ?_⟩ <;>
        simp [written, replaced_row, unlinked_row, hnone]

variable {step : CheckpointStep}

theorem reads_cases {read : Files × CheckpointRead} (h : read ∈ step.reads files) :
    step.call = .read read.2 ∧ read.1 = files
      ∨ ∃ index, (index, read.2) ∈ step.during
        ∧ (step.call.run files).2.trail[index]? = some read.1 := by
  rcases mem_append.mp h with hcall | hduring
  · left
    split at hcall
    · next hread =>
      rw [mem_singleton.mp hcall]
      exact ⟨hread, rfl⟩
    · cases hcall
    · cases hcall
  · obtain ⟨⟨index, during⟩, hmem, hfound⟩ := mem_filterMap.mp hduring
    obtain ⟨found, htrail, rfl⟩ := Option.map_eq_some_iff.mp hfound
    exact .inr ⟨index, hmem, htrail⟩

theorem kept_of_whole (hwhole : Whole saved files)
    (hsound : ∀ read ∈ step.reads files, ReadSound read.1 read.2)
    (htrail : ∀ found ∈ (step.call.run files).2.trail, Whole (step.call.saving ++ saved) found)
    (hunchanged : ∀ error, (step.call.run files).1 = .error error →
      ∀ checkpoint_id, load (step.call.run files).2.files checkpoint_id = load files checkpoint_id) :
    Kept saved files step := by
  refine ⟨?_, hunchanged⟩
  rintro read hmem
  have hread := hsound read hmem
  rcases reads_cases hmem with ⟨hcall, hfiles⟩ | ⟨index, -, hfound⟩
  · rw [hfiles] at hread ⊢
    rw [hcall]
    exact hwhole.read_kept hread
  · exact (htrail _ (mem_of_getElem? hfound)).read_kept hread

theorem read_kept_of_mix (mix : CheckpointSnapshot) {found : Files} {read : CheckpointRead}
    (hwhole : Whole saved files) (helse : Elsewhere name files found)
    (hplace : located mix.info.checkpoint_id = .ok (some name))
    (hrows : ∀ kind, (found kind).row name = some (mix.content kind))
    (hload : ∀ checkpoint_id, read = .load checkpoint_id →
      located checkpoint_id = .ok (some name) → mix ∈ saved) (hsound : ReadSound found read) :
    ReadKept saved found read := by
  refine read_kept ?_ ?_ hsound
  · intro other
    by_cases hsame : other = name
    · rw [hsame]
      exact .inr ⟨mix, trivial, hplace, hrows⟩
    · exact ((hwhole other).congr (helse other hsame)).imp fun _ _ => trivial
  · intro checkpoint_id other hread hlocated
    by_cases hsame : other = name
    · rw [hsame] at hlocated ⊢
      exact .inr ⟨mix, hload checkpoint_id hread hlocated, hplace, hrows⟩
    · exact (hwhole other).congr (helse other hsame)

theorem kept_save {fails : Option Failure} (hcall : step.call = .save snapshot fails)
    (hwhole : Whole saved files) (hsound : Sound saved files step)
    (hlocated : located snapshot.info.checkpoint_id = .ok (some name))
    (hsave : (CheckpointCall.save snapshot fails).run files
      = write fails name snapshot ⟨files, [], []⟩) :
    Kept saved files step
      ∧ Whole (step.call.completed files ++ saved) (step.call.run files).2.files := by
  obtain ⟨hresult, hfiles, htrail⟩ := save_run fails hsave
  obtain ⟨helse, helse_trail⟩ := written_elsewhere fails name snapshot files
  rw [← hcall] at hresult hfiles htrail
  rw [← hfiles] at helse
  rw [← htrail] at helse_trail
  have hsaving : step.call.saving = [snapshot] := by rw [hcall]; rfl
  have hnew : ∀ found, Elsewhere name files found →
      (∀ kind, (found kind).row name = some (snapshot.content kind)) →
        Whole (snapshot :: saved) found := by
    intro found helse hrows
    exact hwhole.cons.changed helse (.inr ⟨snapshot, mem_cons_self, hlocated, hrows⟩)
  have hcompleted : (written fails name snapshot files).1 = true →
      step.call.completed files = [snapshot] := by
    intro hdone
    unfold CheckpointCall.completed
    rw [hresult.mpr hdone]
    exact hsaving
  have hfailed : (written fails name snapshot files).1 = false →
      step.call.completed files = [] := by
    intro hfail
    unfold CheckpointCall.completed
    split
    · next hdone =>
      rw [hresult.mp hdone] at hfail
      cases hfail
    · rfl
  have hraised : ∀ error, (step.call.run files).1 = .error error →
      (written fails name snapshot files).1 = false := by
    intro error herror
    by_contra hdone
    rw [Bool.not_eq_false, ← hresult, herror] at hdone
    cases hdone
  rcases hwhole name with hnone | ⟨old, hold, hplace, hrows⟩
  · have hfails := hsound.first snapshot fails name hcall hlocated (read_of_none hnone)
    obtain ⟨hstates, hdone, hundone⟩ := written_first snapshot hnone hfails
    rw [← htrail] at hstates
    rw [← hfiles] at hdone hundone
    refine ⟨kept_of_whole hwhole hsound.reads ?_ ?_, ?_⟩
    · intro found hfound
      rw [hsaving]
      rcases hstates found hfound with hinfo | hrows
      · exact hwhole.cons.changed (helse_trail found hfound) (.inl hinfo)
      · exact hnew found (helse_trail found hfound) hrows
    · intro error herror
      apply load_unchanged helse
      rw [read_of_none (hundone (hraised error herror)), read_of_none hnone]
    · cases hend : (written fails name snapshot files).1 with
      | true =>
        rw [hcompleted hend]
        exact hnew _ helse (hdone hend)
      | false =>
        rw [hfailed hend]
        exact hwhole.changed helse (.inl (hundone hend))
  · obtain ⟨hkinds, hmixes⟩ := hsound.again snapshot fails name old hcall hlocated (read_of_rows hrows)
    rcases fails with _ | ⟨kind, last⟩
    · have hdone := hcompleted rfl
      have hlast := replaced_rows files name snapshot
      rw [hdone]
      refine ⟨⟨?_, ?_⟩, hnew _ helse (by rw [hfiles]; exact hlast)⟩
      · intro read hmem
        have hread := hsound.reads read hmem
        rw [hsaving]
        rcases reads_cases hmem with ⟨hother, -⟩ | ⟨index, hduring, hfound⟩
        · rw [hcall] at hother
          cases hother
        · have helse_found := helse_trail _ (mem_of_getElem? hfound)
          rw [htrail] at hfound
          -- the entries are replaced, then the state, then all is
          match index, hfound with
          | 0, hfound =>
            refine read_kept_of_mix { old with tape_entries := snapshot.tape_entries }
              hwhole.cons helse_found hplace ?_ ?_ hread
            · rw [← Option.some.inj hfound]
              intro kind
              cases kind <;> simp [replaced_row, hrows, CheckpointSnapshot.content]
            · intro checkpoint_id hload hid
              rw [hload] at hduring
              exact (hmixes checkpoint_id hid).1 hduring
          | 1, hfound =>
            refine read_kept_of_mix { snapshot with info := old.info }
              hwhole.cons helse_found hplace ?_ ?_ hread
            · rw [← Option.some.inj hfound]
              intro kind
              cases kind <;> simp [replaced_row, hrows, CheckpointSnapshot.content]
            · intro checkpoint_id hload hid
              rw [hload] at hduring
              exact (hmixes checkpoint_id hid).2 hduring
          | 2, hfound =>
            refine (hnew _ helse_found ?_).read_kept hread
            rw [← Option.some.inj hfound]
            exact hlast
      · intro error herror
        cases hraised error herror
    · obtain ⟨hkind, hsame⟩ := hkinds _ rfl
      obtain rfl : kind = .entries := hkind
      have hheld : ∀ kind, ((step.call.run files).2.files kind).row name = (files kind).row name := by
        rw [hfiles]
        cases last with
        | temp_file => exact fun _ => rfl
        | directory =>
          intro kind
          have hentries := hrows .entries
          cases kind <;> simp [written, replaced_row, hrows, CheckpointSnapshot.content, hsame rfl]
      have hafter : Whole saved (step.call.run files).2.files :=
        hwhole.changed helse ((hwhole name).congr hheld)
      have hend : (written (some ⟨.entries, last⟩) name snapshot files).1 = false := by
        cases last <;> rfl
      rw [hfailed hend]
      refine ⟨kept_of_whole hwhole hsound.reads ?_ ?_, hafter⟩
      · intro found hfound
        rw [hsaving]
        have hlast : found = (step.call.run files).2.files := by
          rw [htrail] at hfound
          rw [hfiles]
          cases last with
          | temp_file => cases hfound
          | directory => exact mem_singleton.mp hfound
        rw [hlast]
        exact hafter.cons
      · intro error _
        exact load_unchanged helse (read_congr hheld)

theorem kept_of_sound (hwhole : Whole saved files) (hsound : Sound saved files step) :
    Kept saved files step
      ∧ Whole (step.call.completed files ++ saved) (step.call.run files).2.files := by
  have hstay : ∀ result, step.call.run files = (result, ⟨files, [], []⟩) →
      step.call.completed files = [] → Kept saved files step
        ∧ Whole (step.call.completed files ++ saved) (step.call.run files).2.files := by
    intro result hrun hnone
    rw [hnone]
    refine ⟨kept_of_whole hwhole hsound.reads ?_ ?_, ?_⟩
    · intro found hfound
      rw [hrun] at hfound
      cases hfound
    · intro _ _ checkpoint_id
      rw [hrun]
    · rw [hrun]
      exact hwhole
  have hraised : ∀ error, step.call.run files = (.error error, ⟨files, [], []⟩) →
      Kept saved files step
        ∧ Whole (step.call.completed files ++ saved) (step.call.run files).2.files := by
    intro error hrun
    apply hstay _ hrun
    unfold CheckpointCall.completed
    rw [hrun]
  cases hcall : step.call with
  | read read => rw [← hcall]; exact hstay (.ok ()) (by rw [hcall]; rfl) (by rw [hcall]; rfl)
  | save snapshot fails =>
    rw [hcall] at hraised
    rcases at_files_cases snapshot.info.checkpoint_id
        (Action.raise (.raised .OSError "No such file or directory"))
        (fun name => write fails name snapshot) ⟨files, [], []⟩ with
      ⟨error, hrun⟩ | hrun | ⟨name, hlocated, hrun⟩
    · exact hraised error hrun
    · exact hraised _ hrun
    · rw [← hcall]
      exact kept_save hcall hwhole hsound hlocated hrun
  | delete checkpoint_id =>
    have hnone : (CheckpointCall.delete checkpoint_id).completed files = [] := by
      unfold CheckpointCall.completed
      split <;> rfl
    rw [hcall] at hraised hstay
    rcases at_files_cases checkpoint_id (pure ())
        (fun name => each [FileKind.info, .entries, .state] (unlink name)) ⟨files, [], []⟩ with
      ⟨error, hrun⟩ | hrun | ⟨name, hlocated, hrun⟩
    · exact hraised error hrun
    · exact hstay _ hrun hnone
    · have hdeleted : ∀ found ∈ [files.unlinked .info name,
          (files.unlinked .info name).unlinked .entries name,
          ((files.unlinked .info name).unlinked .entries name).unlinked .state name],
          Whole saved found := by
        intro found hfound
        have hrefl : Elsewhere name files files := fun _ _ _ => rfl
        have helse := hrefl.unlinked .info
        simp only [mem_cons, not_mem_nil, or_false] at hfound
        rcases hfound with rfl | rfl | rfl
        · exact hwhole.changed helse (.inl (by simp [unlinked_row]))
        · exact hwhole.changed (helse.unlinked .entries) (.inl (by simp [unlinked_row]))
        · exact hwhole.changed ((helse.unlinked .entries).unlinked .state)
            (.inl (by simp [unlinked_row]))
      have hbody : step.call.run files = _ := (congrArg (·.run files) hcall).trans hrun
      rw [hnone, ← hcall]
      refine ⟨kept_of_whole hwhole hsound.reads ?_ ?_, ?_⟩
      · intro found hfound
        rw [hbody] at hfound
        rw [hcall]
        exact hdeleted found hfound
      · intro error herror
        rw [hbody] at herror
        cases herror
      · rw [hbody]
        exact hdeleted _ (mem_cons_of_mem _ (mem_cons_of_mem _ mem_cons_self))

/-! ## Runs -/

/-- What holds of every step of a run, with what was saved and what is there before it. -/
def Throughout (P : List CheckpointSnapshot → Files → CheckpointStep → Prop) :
    List CheckpointSnapshot → Files → List CheckpointStep → Prop
  | _, _, [] => True
  | saved, files, step :: steps => P saved files step
    ∧ Throughout P (step.call.completed files ++ saved) (step.call.run files).2.files steps

end CodingAgentLoop.CheckpointFiles
