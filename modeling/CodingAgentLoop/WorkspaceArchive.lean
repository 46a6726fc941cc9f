/-
A workspace as one text, and back (`coding_agent/environment/archive.py`).

`create_workspace_archive_base64` packs the files of a workspace into a compressed tar archive,
and `extract_workspace_archive_base64` unpacks an archive next to the workspace, empties the
workspace but for its `.git` and copies what was unpacked into it. The writer limits the bytes of
the files, the number of them and the bytes of the archive; the reader also the bytes of the tar
stream it has read, headers and padding included.

`tarfile` and `gzip` are parameters. What they write is assumed to be read back, from a stream
laid out as `tarfile` does it: blocks of 512 bytes, an extended header for a name or a time the
plain one has no room for, and records of 10240 bytes, which is also how the stream is read.
The file system raises where something is in the way and not otherwise; the modes of directories
are not in the model. Names are texts.
-/
import CodingAgentLoop.Errors
import CodingAgentLoop.Lib.Base64
import CodingAgentLoop.Lib.FileTree
import CodingAgentLoop.Lib.Stateful
import Mathlib.Algebra.GroupWithZero.Nat
import Mathlib.Data.List.Sort

open Lib Lib.FileTree

namespace CodingAgentLoop.WorkspaceArchive

/-! ## Limits -/

def MAX_WORKSPACE_ARCHIVE_BYTES : Nat := 8 * 1024 * 1024

def MAX_WORKSPACE_ARCHIVE_BASE64_CHARS : Nat := 4 * ((MAX_WORKSPACE_ARCHIVE_BYTES + 2) / 3)

def MAX_WORKSPACE_TAR_STREAM_BYTES : Nat := 16 * 1024 * 1024

def MAX_WORKSPACE_ARCHIVE_MEMBERS : Nat := 4096

def raise_if_archive_too_large (size_bytes : Nat) : Except StoreError Unit :=
  raise_if (MAX_WORKSPACE_ARCHIVE_BYTES < size_bytes) .ValueError
    "workspace archive exceeds 8 MiB limit"

/-- `_raise_if_archive_base64_too_large(archive_base64)`. -/
def raise_if_archive_base64_too_large (archive_base64 : String) : Except StoreError Unit :=
  raise_if (MAX_WORKSPACE_ARCHIVE_BASE64_CHARS < archive_base64.toList.length) .ValueError
    "workspace archive exceeds 8 MiB limit"

/-! ## Paths -/

def PRESERVED_ROOT_NAMES : List String := [".git"]

def EXCLUDED_DIRECTORY_NAMES : List String := ["__pycache__"]

def EXCLUDED_FILE_SUFFIXES : List String := [".pyc", ".pyo"]

/-- `parts[0] in _PRESERVED_ROOT_NAMES`. -/
def is_preserved (path : TreePath String) : Bool := path.head?.any (· ∈ PRESERVED_ROOT_NAMES)

def should_exclude_workspace_archive_path (relative : TreePath String) : Bool :=
  relative.isEmpty || is_preserved relative || relative.any (· ∈ EXCLUDED_DIRECTORY_NAMES)
    || EXCLUDED_FILE_SUFFIXES.any (fun suffix =>
      suffix.toList.isSuffixOf (relative.getLast?.getD "").toList)

def as_posix (relative : TreePath String) : String := "/".intercalate relative

/-- `Path(name).is_absolute()`. -/
def is_absolute (name : String) : Bool := name.toList.head? = some '/'

/-- `Path(name).parts`, but for the root of an absolute path. -/
def path_parts (name : String) : TreePath String :=
  ((name.toList.splitOn '/').map String.ofList).filter (fun part => part ≠ "" ∧ part ≠ ".")

/-- `str(root)`. -/
def path_text (root : TreePath String) : String := "/" ++ as_posix root

/-! ## Files -/

/-- A file: what is in it, its permissions and the time it was changed at. -/
structure FileData where
  contents : List UInt8
  mode : Nat
  mtime : Int

abbrev Workspace := Tree String FileData

/-- A workspace as it stands: each part of a path is a file name, and a file is in a directory. -/
structure WorkspaceTree where
  nodes : Workspace
  named : ∀ path node, nodes.row path = some node →
    path ≠ [] ∧ ∀ part ∈ path, part ≠ "" ∧ part ≠ "." ∧ part ≠ ".." ∧ '/' ∉ part.toList
      ∧ Char.ofNat 0 ∉ part.toList
  closed : ∀ path node, nodes.row path = some node →
    ∀ parent, parent ≠ [] → parent <+: path → parent ≠ path → nodes.row parent = some .dir

inductive Root where
  | missing
  | directory (nodes : Workspace)
  | other

/-! ## The tar stream -/

/-- What `archive.addfile` is given. -/
structure TarMember where
  name : String
  mode : Nat
  mtime : Int
  data : List UInt8
  deriving DecidableEq

def utf8_size (text : String) : Nat := (text.toList.map Char.utf8Size).sum

/-- One step of the loop that finds how long a record is whose length is written in it. -/
def pax_record_step (size length : Nat) : Nat := size + (toString length).toList.length

/-- The bytes of a record for a keyword and a value, each of so many bytes. Three steps reach the
length that stands for itself. -/
def pax_record_size (keyword value : Nat) : Nat :=
  let size := keyword + value + 3
  pax_record_step size (pax_record_step size (pax_record_step size 0))

/-- `size` bytes in blocks of 512. -/
def block_bytes (size : Nat) : Nat := (size + 511) / 512 * 512

/-- The records for what the plain header has no room for. -/
def pax_records_size (tar_member : TarMember) : Nat :=
  let name_fits := tar_member.name.toList.length ≤ 100
    ∧ tar_member.name.toList.all (fun char => char.toNat < 128)
  let mtime_fits := 0 ≤ tar_member.mtime ∧ tar_member.mtime < 8589934592
  (if name_fits then 0 else pax_record_size 4 (utf8_size tar_member.name))
    + (if mtime_fits then 0 else pax_record_size 5 (toString tar_member.mtime).toList.length)

def header_bytes (tar_member : TarMember) : Nat :=
  let records := pax_records_size tar_member
  (if records = 0 then 0 else 512 + block_bytes records) + 512

def member_bytes (tar_member : TarMember) : Nat :=
  header_bytes tar_member + block_bytes tar_member.data.length

/-- The bytes that have been read when `position` bytes are needed. -/
def records_read (position : Nat) : Nat := (position + 10239) / 10240 * 10240

inductive TarType where
  | file
  | dir
  | other

/-- A `TarInfo` that is read. `utime` is what `os.utime` makes of its time. -/
structure TarInfo where
  name : String
  type : TarType
  size : Int
  mode : Nat
  mtime : Int
  utime : Except StoreError Unit := .ok ()

/-- What reading an archive raises. -/
inductive TarFailure where
  /-- `TarError`, `BadGzipFile`, `EOFError` or `zlib.error`. -/
  | format
  | raised (error : StoreError)

/-- `archive.extractfile(member)`, and what it gives until it ends, at which point so many bytes
of the stream have been read. -/
structure TarBody where
  read : Nat
  contents : Except TarFailure (Option (List UInt8))

/-- An archive as it is read. `read` is how much of the stream has been read. -/
inductive TarReading where
  | ended (read : Nat)
  | broken (read : Nat) (failure : TarFailure)
  | next (read : Nat) (info : TarInfo) (body : TarBody) (rest : TarReading)

/-- What is read of the members written from `offset` on. -/
def read_back (offset : Nat) : List TarMember → TarReading
  | [] => .ended (records_read (offset + 512))
  | tar_member :: rest =>
    let start := offset + header_bytes tar_member
    .next (records_read start)
      { name := tar_member.name, type := .file, size := tar_member.data.length
        mode := tar_member.mode, mtime := tar_member.mtime }
      { read := records_read (start + tar_member.data.length)
        contents := .ok (some tar_member.data) }
      (read_back (offset + member_bytes tar_member) rest)

/-- A member whose name and permissions a header can hold. -/
structure TarMember.Storable (tar_member : TarMember) : Prop where
  named : tar_member.name ≠ ""
  whole : Char.ofNat 0 ∉ tar_member.name.toList
  plain : tar_member.name.toList.getLast? ≠ some '/'
  mode : tar_member.mode ≤ 511

/-- `tarfile` and `gzip`: what is packed is read back. -/
structure TarGz where
  pack : List TarMember → List UInt8
  unpack : List UInt8 → TarReading
  unpack_pack : ∀ members, (∀ tar_member ∈ members, tar_member.Storable) →
    unpack (pack members) = read_back 0 members

/-! ## Writing an archive -/

/-- `one <= other`, part by part. -/
def path_le (one other : TreePath String) : Bool :=
  @decide _ (@List.decidableLE String instDecidableEqString String.instLT String.decidableLT
    one other)

/-- `sorted(root.rglob("*"))`. -/
def sorted_nodes (nodes : Workspace) : List (TreePath String × Node FileData) :=
  (nodes.select (fun _ _ => true)).insertionSort (fun one other => path_le one.1 other.1)

/-- The loop over the paths of the workspace, after so many members of so many bytes. -/
def archive_members (member_count total_input_bytes : Nat) :
    List (TreePath String × Node FileData) → Except StoreError (List TarMember)
  | [] => .ok []
  | (relative, node) :: rest =>
    if should_exclude_workspace_archive_path relative then
      archive_members member_count total_input_bytes rest
    else
      match node with
      | .symlink => raise .ValueError
          ("workspace archive does not support symlinks: " ++ as_posix relative)
      | .dir => archive_members member_count total_input_bytes rest
      | .special => archive_members member_count total_input_bytes rest
      | .file data => do
          raise_if (MAX_WORKSPACE_ARCHIVE_MEMBERS < member_count + 1) .ValueError
            "workspace archive contains too many members"
          let total_input_bytes := total_input_bytes + data.contents.length
          raise_if_archive_too_large total_input_bytes
          let members ← archive_members (member_count + 1) total_input_bytes rest
          return { name := as_posix relative, mode := data.mode &&& 511, mtime := data.mtime
                   data := data.contents } :: members

/-- `base64.b64encode(archive_bytes).decode("ascii")`. -/
def b64encode (archive_bytes : List UInt8) : String := String.ofList (Base64.encode archive_bytes)

/-- `create_workspace_archive_base64(workspace_root)`. -/
def create_workspace_archive_base64 (format : TarGz) (workspace_root : TreePath String)
    (root : Root) : Except StoreError String :=
  match root with
  | .directory nodes => do
      let members ← archive_members 0 0 (sorted_nodes nodes)
      let archive_bytes := format.pack members
      raise_if_archive_too_large archive_bytes.length
      return b64encode archive_bytes
  | _ => raise .ValueError ("workspace root does not exist: " ++ path_text workspace_root)

/-! ## Reading an archive -/

def not_a_tar_gz : String := "workspace archive is not a valid tar.gz"

/-- The failure as it leaves `extract_workspace_archive_base64`. -/
def TarFailure.error : TarFailure → StoreError
  | .format => .raised .ValueError not_a_tar_gz
  | .raised error => error

/-- `_CountingReader.read`, after which so many bytes have been read. -/
def counted (read : Nat) : Except StoreError Unit :=
  raise_if (MAX_WORKSPACE_TAR_STREAM_BYTES < read) .ValueError
    "workspace archive exceeds 8 MiB limit"

def os_call (result : Option Workspace) : Except StoreError Workspace :=
  match result with
  | some nodes => .ok nodes
  | none => raise .OSError "file system"

def reject_preserved_root_member (member_name : String) : Except StoreError Unit :=
  raise_if (is_absolute member_name = false ∧ is_preserved (path_parts member_name)) .ValueError
    ("workspace archive must not contain preserved root entry: " ++ member_name)

/-- `_safe_archive_target(temp_root, member_name)`, below the temporary root. There are no links
in it to follow. -/
def safe_archive_target (member_name : String) : Except StoreError (TreePath String) := do
  raise_if (is_absolute member_name ∨ ".." ∈ path_parts member_name) .ValueError
    ("workspace archive member escapes workspace root: " ++ member_name)
  raise_if (path_parts member_name = []) .ValueError
    "workspace archive member name must be non-empty"
  raise_if (Char.ofNat 0 ∈ member_name.toList) .ValueError "embedded null byte"
  return path_parts member_name

/-- `_member_mode(member)`, of a file. -/
def member_mode (mode : Nat) : Nat := if mode &&& 511 ≠ 0 then mode &&& 511 else 420

/-- What has been unpacked so far. -/
structure Staging where
  nodes : Workspace := ∅
  member_count : Nat := 0
  extracted_bytes : Nat := 0

/-- The chunks of `file_obj`. -/
def read_body (info : TarInfo) (body : TarBody) : Except StoreError (List UInt8) := do
  counted body.read
  match body.contents with
  | .error failure => .error failure.error
  | .ok none => raise .ValueError ("workspace archive member is unreadable: " ++ info.name)
  | .ok (some contents) => .ok contents

def copy_archive_file (nodes : Workspace) (target_path : TreePath String) (info : TarInfo)
    (body : TarBody) : Except StoreError Workspace := do
  let opened ← os_call (write_file nodes target_path ⟨[], 0, 0⟩)
  let contents ← read_body info body
  raise_if ((contents.length : Int) ≠ info.size) .ValueError not_a_tar_gz
  info.utime
  return opened.put target_path (.file ⟨contents, member_mode info.mode, info.mtime⟩)

/-- The body of the loop over the members. -/
def extract_member (staging : Staging) (info : TarInfo) (body : TarBody) :
    Except StoreError Staging := do
  let member_count := staging.member_count + 1
  raise_if (MAX_WORKSPACE_ARCHIVE_MEMBERS < member_count) .ValueError
    "workspace archive contains too many members"
  reject_preserved_root_member info.name
  let target_path ← safe_archive_target info.name
  match info.type with
  | .dir => do
      let nodes ← os_call (make_directory staging.nodes target_path)
      return { staging with nodes, member_count }
  | .other =>
    raise .ValueError
      ("workspace archive only supports regular files and directories: " ++ info.name)
  | .file => do
      raise_if (info.size < 0) .ValueError not_a_tar_gz
      let extracted_bytes := staging.extracted_bytes + info.size.toNat
      raise_if_archive_too_large extracted_bytes
      let nodes ← copy_archive_file staging.nodes target_path info body
      return { nodes, member_count, extracted_bytes }

/-- `_extract_workspace_archive_to_temp(temp_root, archive_bytes)`. -/
def extract_to_temp (staging : Staging) : TarReading → Except StoreError Staging
  | .ended read => do
      counted read
      return staging
  | .broken read failure => do
      counted read
      .error failure.error
  | .next read info body rest => do
      counted read
      let staging ← extract_member staging info body
      extract_to_temp staging rest

/-- `base64.b64decode(archive_base64.encode("ascii"), validate=True)`. -/
def b64decode (archive_base64 : String) : Except StoreError (List UInt8) :=
  match Base64.decode archive_base64.toList with
  | some archive_bytes => .ok archive_bytes
  | none => raise .ValueError "workspace archive must be valid base64"

/-- Emptying the workspace root removes the temporary root with it. -/
def clears_temp (workspace_root temp_root : TreePath String) : Bool :=
  workspace_root.isPrefixOf temp_root && workspace_root.length < temp_root.length
    && !is_preserved (temp_root.drop workspace_root.length)

def clear_extract_target (nodes : Workspace) : Workspace :=
  nodes.delete_where (fun path _ => !is_preserved path)

/-- One path of `_copy_extracted_workspace`. -/
def copy_node (nodes : Workspace) (relative : TreePath String) (node : Node FileData) :
    Option Workspace :=
  match node with
  | .file data => write_file nodes relative data
  | _ => make_directory nodes relative

/-- The loop of `_copy_extracted_workspace(temp_root, workspace_root)`. -/
def copy_nodes : List (TreePath String × Node FileData) → Action Workspace StoreError Unit
  | [] => pure ()
  | (relative, node) :: rest => do
      let nodes ← Action.get
      let copied ← Action.lift (os_call (copy_node nodes relative node))
      Action.modify (fun _ => copied)
      copy_nodes rest

def extracted (format : TarGz) (archive_base64 : String) : Except StoreError Staging := do
  raise_if_archive_base64_too_large archive_base64
  let archive_bytes ← b64decode archive_base64
  raise_if_archive_too_large archive_bytes.length
  extract_to_temp {} (format.unpack archive_bytes)

section

variable (format : TarGz) (workspace_root temp_root : TreePath String)

/-- `extract_workspace_archive_base64(workspace_root, archive_base64)` into a directory. -/
def extract_into (archive_base64 : String) : Action Workspace StoreError Unit := do
  let staging ← Action.lift (extracted format archive_base64)
  Action.modify clear_extract_target
  if clears_temp workspace_root temp_root then pure ()
  else copy_nodes (sorted_nodes staging.nodes)

/-- `extract_workspace_archive_base64(workspace_root, archive_base64)`, unpacked at `temp_root`:
what is returned or raised, and the workspace root then. -/
def extract_workspace_archive_base64
    (root : Root) (archive_base64 : String) : Except StoreError Unit × Root :=
  let run := fun nodes =>
    let (result, nodes) := extract_into format workspace_root temp_root archive_base64 nodes
    (result, Root.directory nodes)
  match root with
  | .missing => run ∅
  | .directory nodes => run nodes
  | .other =>
    (raise .ValueError ("workspace root is not a directory: " ++ path_text workspace_root),
      .other)

end

end CodingAgentLoop.WorkspaceArchive
