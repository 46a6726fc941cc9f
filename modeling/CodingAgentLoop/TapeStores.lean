/-
The two local tape stores (`agentkit/storage/sqlite.py` and the class `JSONLTapeStore`
of `coding_agent/plugins/storage.py`).

Both keep the entries of each tape, and among them the session's memory records. The
JSONL store has a file for each tape and counts lines. The SQLite store numbers the rows
of a tape and compares numbers. A memory record that is replaced takes its row's number
with it, and `truncate` then cuts the two at different entries.

The files are those of one directory: `locate` is the file a name in it stands for, if
the file system can have one there. A JSON text is the object it encodes.
-/
import CodingAgentLoop.Checkpoint
import CodingAgentLoop.Lib.Numbered

open Lib

namespace CodingAgentLoop

/-- What a store draws for a memory record: `uuid.uuid4()` and the clock. -/
structure MemoryStamp where
  id : String
  timestamp : ℚ

def memory_entry (record : JsonObject) (stamp : MemoryStamp) : JsonObject :=
  [("id", .str stamp.id),
   ("kind", .str "memory_record"),
   ("payload", .obj record),
   ("timestamp", .float stamp.timestamp)]

/-- `entry.get("kind") == "memory_record"`. -/
def is_memory_record (entry : JsonObject) : Bool := entry.get "kind" = .str "memory_record"

/-! ## Files -/

/-- `JSONLTapeStore`: the lines of each file there is. -/
structure JSONLTapeStore where
  files : Table String (List JsonObject) := ∅

namespace JSONLTapeStore

/-- `open(path, ...)` for writing. -/
def open_path (path : Option String) : Except StoreError String :=
  match path with
  | some path => .ok path
  | none => raise .OSError "the file cannot be opened"

def read (store : JSONLTapeStore) (path : Option String) : List JsonObject :=
  ((path.bind store.files.row).getD [])

def write (store : JSONLTapeStore) (path : String) (lines : List JsonObject) : JSONLTapeStore where
  files := store.files.put path lines

section

variable (locate : String → Option String) (store : JSONLTapeStore) (tape_id : String)

def load : List JsonObject :=
  store.read (locate tape_id)

def save (entries : List JsonObject) : Except StoreError JSONLTapeStore := do
  let path ← open_path (locate tape_id)
  return store.write path (store.read (some path) ++ entries)

def truncate (keep : Int) : Except StoreError JSONLTapeStore := do
  raise_if (keep < 0) .ValueError "keep must be >= 0"
  match locate tape_id with
  | none => return store
  | some path =>
    match store.files.row path with
    | none => return store
    | some lines => return store.write path (lines.take keep.toNat)

def append_memory_record (record : JsonObject) (stamp : MemoryStamp) :
    Except StoreError JSONLTapeStore := do
  let path ← open_path (locate tape_id)
  return store.write path (store.read (some path) ++ [memory_entry record stamp])

def load_memory_records : List JsonObject :=
  ((store.load locate tape_id).filter is_memory_record).filterMap (fun entry =>
    (entry.get "payload").obj?)

def replace_memory_records (records : List (JsonObject × MemoryStamp)) :
    Except StoreError JSONLTapeStore := do
  let path ← open_path (locate tape_id)
  let retained := (store.read (some path)).filter (fun entry => !is_memory_record entry)
  let added := records.map (fun (record, stamp) => memory_entry record stamp)
  return store.write path (retained ++ added)

end

end JSONLTapeStore

/-! ## Rows -/

/-- A row of `tape_entries`: the entry, and the column its kind is in. The columns only
`search` reads are left out. -/
structure TapeRow where
  entry : JsonObject
  kind : Option String

/-- `SQLiteTapeStore`: the rows of each tape. -/
structure SQLiteTapeStore where
  tape_entries : Table String (Numbered TapeRow) := ∅

namespace SQLiteTapeStore

section

variable (store : SQLiteTapeStore) (tape_id : String)

def rows : Numbered TapeRow :=
  (store.tape_entries.row tape_id).getD Numbered.empty

def put (rows : Numbered TapeRow) :
    SQLiteTapeStore where
  tape_entries := store.tape_entries.put tape_id rows

def load : Except StoreError (List JsonObject) := do
  require_non_empty "tape_id" tape_id
  return (store.rows tape_id).items.map (·.entry)

end

def row_of_entry (entry : JsonObject) : Except StoreError TapeRow := do
  let kind ← optional_entry_str entry "kind"
  let _ ← entry_nested_str entry "run_id"
  let _ ← entry_nested_str entry "tool_call_id"
  let _ ← entry_anchor_type entry
  return { entry, kind }

def save (store : SQLiteTapeStore) (tape_id : String) (entries : List JsonObject) :
    Except StoreError SQLiteTapeStore := do
  require_non_empty "tape_id" tape_id
  if entries = [] then return store
  else do
    let values ← entries.mapM row_of_entry
    return store.put tape_id ((store.rows tape_id).append_all values)

def truncate (store : SQLiteTapeStore) (tape_id : String) (keep : Int) :
    Except StoreError SQLiteTapeStore := do
  require_non_empty "tape_id" tape_id
  raise_if (keep < 0) .ValueError "keep must be >= 0"
  return store.put tape_id ((store.rows tape_id).below keep.toNat)

def memory_row (record : JsonObject) (stamp : MemoryStamp) : TapeRow where
  entry := memory_entry record stamp
  kind := some "memory_record"

def append_memory_record (store : SQLiteTapeStore) (tape_id : String) (record : JsonObject)
    (stamp : MemoryStamp) : Except StoreError SQLiteTapeStore := do
  require_non_empty "tape_id" tape_id
  return store.put tape_id ((store.rows tape_id).append_all [memory_row record stamp])

def memory_payload (row : TapeRow) : Except StoreError JsonObject :=
  match row.entry.get "payload" with
  | .obj payload => .ok payload
  | _ => raise .TypeError "memory entry payload must be a JSON object"

def load_memory_records (store : SQLiteTapeStore) (tape_id : String) :
    Except StoreError (List JsonObject) := do
  require_non_empty "tape_id" tape_id
  ((store.rows tape_id).items.filter (·.kind = some "memory_record")).mapM memory_payload

def replace_memory_records (store : SQLiteTapeStore) (tape_id : String)
    (records : List (JsonObject × MemoryStamp)) : Except StoreError SQLiteTapeStore := do
  require_non_empty "tape_id" tape_id
  let retained := (store.rows tape_id).delete_where (fun _ row => row.kind = some "memory_record")
  let added := records.map (fun (record, stamp) => memory_row record stamp)
  return store.put tape_id (retained.append_all added)

end SQLiteTapeStore

end CodingAgentLoop
