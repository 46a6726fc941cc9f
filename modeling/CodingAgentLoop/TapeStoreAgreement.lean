/-
When the two tape stores hold the same tapes.

The same calls are made on both stores. They agree on a tape while the rows of the one,
in order, are the lines of the other, up to the ids and timestamps each draws for its
memory records. `save` breaks this where the SQLite store refuses an entry the JSONL
store writes, `truncate` where a row number under the cut is missing; nothing else does.

Each tape is taken to have a file of its own: `OwnFiles` names the tape ids for which
that is so.
-/
import CodingAgentLoop.TapeStores

namespace CodingAgentLoop

open Lib SQLiteTapeStore List Result

/-- A call on both stores. Where memory records are written, each store draws its own ids and
timestamps. -/
inductive TapeStoreCall where
  | save (tape_id : String) (entries : List JsonObject)
  | append_memory_record (tape_id : String) (record : JsonObject)
      (jsonl_stamp sqlite_stamp : MemoryStamp)
  | replace_memory_records (tape_id : String)
      (records : List (JsonObject × MemoryStamp × MemoryStamp))
  | truncate (tape_id : String) (keep : Int)

namespace TapeStoreCall

def tape_id : TapeStoreCall → String
  | .save tape_id _ => tape_id
  | .append_memory_record tape_id _ _ _ => tape_id
  | .replace_memory_records tape_id _ => tape_id
  | .truncate tape_id _ => tape_id

def on_jsonl (locate : String → Option String) (store : JSONLTapeStore) :
    TapeStoreCall → Except StoreError JSONLTapeStore
  | .save tape_id entries => store.save locate tape_id entries
  | .append_memory_record tape_id record stamp _ =>
    store.append_memory_record locate tape_id record stamp
  | .replace_memory_records tape_id records =>
    store.replace_memory_records locate tape_id
      (records.map (fun (record, stamp, _) => (record, stamp)))
  | .truncate tape_id keep => store.truncate locate tape_id keep

def on_sqlite (store : SQLiteTapeStore) : TapeStoreCall → Except StoreError SQLiteTapeStore
  | .save tape_id entries => store.save tape_id entries
  | .append_memory_record tape_id record _ stamp => store.append_memory_record tape_id record stamp
  | .replace_memory_records tape_id records =>
    store.replace_memory_records tape_id
      (records.map (fun (record, _, stamp) => (record, stamp)))
  | .truncate tape_id keep => store.truncate tape_id keep

end TapeStoreCall

structure TapeStores where
  jsonl : JSONLTapeStore := {}
  sqlite : SQLiteTapeStore := {}

/-- A call on both; one that raises leaves its store as it was. -/
def TapeStores.perform (locate : String → Option String) (stores : TapeStores)
    (call : TapeStoreCall) : TapeStores where
  jsonl := (call.on_jsonl locate stores.jsonl).toOption.getD stores.jsonl
  sqlite := (call.on_sqlite stores.sqlite).toOption.getD stores.sqlite

/-- An entry without what was drawn for it, if it is a memory record. -/
def unstamped (entry : JsonObject) : JsonObject :=
  if is_memory_record entry then (entry.erase "id").erase "timestamp" else entry

/-- The stores return the same lists for a tape. -/
structure AgreeOn (locate : String → Option String) (stores : TapeStores) (tape_id : String) :
    Prop where
  load : ∃ entries, stores.sqlite.load tape_id = .ok entries
    ∧ entries.map unstamped = (stores.jsonl.load locate tape_id).map unstamped
  load_memory_records : stores.sqlite.load_memory_records tape_id
    = .ok (stores.jsonl.load_memory_records locate tape_id)

/-- The tapes have names, and each has a file of its own. -/
structure OwnFiles (locate : String → Option String) (tape_ids : List String) : Prop where
  named : ∀ tape_id ∈ tape_ids, tape_id ≠ ""
  located : ∀ tape_id ∈ tape_ids, ∃ path, locate tape_id = some path
  own : ∀ tape_id ∈ tape_ids, ∀ other ∈ tape_ids, locate tape_id = locate other → tape_id = other

/-! ## Entries up to their stamps -/

theorem unstamped_get (entry : JsonObject) {key : String} (hid : key ≠ "id")
    (htimestamp : key ≠ "timestamp") : (unstamped entry).get key = entry.get key := by
  unfold unstamped
  by_cases hmemory : is_memory_record entry = true
  · rw [if_pos hmemory]
    simp [JsonObject.get, hid, htimestamp]
  · rw [if_neg hmemory]

@[simp] theorem is_memory_record_unstamped (entry : JsonObject) :
    is_memory_record (unstamped entry) = is_memory_record entry := by
  unfold is_memory_record
  rw [unstamped_get entry (by decide) (by decide)]

@[simp] theorem unstamped_payload (entry : JsonObject) :
    (unstamped entry).get "payload" = entry.get "payload" :=
  unstamped_get entry (by decide) (by decide)

def memory_records (entries : List JsonObject) : List JsonObject :=
  (entries.filter is_memory_record).filterMap (fun entry => (entry.get "payload").obj?)

theorem memory_records_unstamped (entries : List JsonObject) :
    memory_records (entries.map unstamped) = memory_records entries := by
  unfold memory_records
  induction entries with
  | nil => rfl
  | cons entry rest ih =>
    rw [map_cons, filter_cons, filter_cons, is_memory_record_unstamped]
    by_cases hmemory : is_memory_record entry = true
    · rw [if_pos hmemory, if_pos hmemory, filterMap_cons, filterMap_cons,
        unstamped_payload, ih]
    · rw [if_neg hmemory, if_neg hmemory, ih]

/-! ## Reads after writes -/

section Reads

variable {locate : String → Option String}

theorem JSONLTapeStore.load_write (store : JSONLTapeStore) {tape_id path : String}
    (hpath : locate tape_id = some path) (other : String) (lines : List JsonObject) :
    (store.write path lines).load locate other
      = if locate other = locate tape_id then lines else store.load locate other := by
  unfold JSONLTapeStore.load JSONLTapeStore.read JSONLTapeStore.write
  rw [hpath]
  cases hother : locate other with
  | none => simp
  | some found =>
    simp only [Option.bind_some, Table.row_put, Option.some.injEq]
    by_cases hsame : found = path <;> simp [hsame]

theorem SQLiteTapeStore.rows_put (store : SQLiteTapeStore) (tape_id other : String)
    (rows : Numbered TapeRow) :
    (store.put tape_id rows).rows other = if other = tape_id then rows else store.rows other := by
  unfold SQLiteTapeStore.rows put
  rw [Table.row_put]
  by_cases hsame : other = tape_id <;> simp [hsame]

theorem SQLiteTapeStore.load_eq_ok {store : SQLiteTapeStore} {tape_id : String}
    (hname : tape_id ≠ "") :
    store.load tape_id = .ok ((store.rows tape_id).items.map (·.entry)) := by
  unfold SQLiteTapeStore.load
  rw [check_bind_eq_ok]
  exact ⟨require_non_empty_eq_ok.mpr hname, rfl⟩

end Reads

/-! ## Rows and lines -/

/-- A row whose column is its entry's kind and which, if it is a memory record, has a record. -/
structure TapeRow.Sound (row : TapeRow) : Prop where
  kind : row.kind = (row.entry.get "kind").str?
  record : is_memory_record row.entry = true → (row.entry.get "payload").obj?.isSome

/-- The rows of one store are the lines of the other. -/
structure RowsMatch (rows : Numbered TapeRow) (lines : List JsonObject) : Prop where
  entries : rows.items.map (fun row => unstamped row.entry) = lines.map unstamped
  sound : ∀ row ∈ rows.items, row.Sound

theorem TapeRow.Sound.is_memory_record_iff {row : TapeRow} (h : row.Sound) :
    decide (row.kind = some "memory_record") = is_memory_record row.entry := by
  unfold is_memory_record
  rw [h.kind, decide_eq_decide]
  cases row.entry.get "kind" <;> simp [Json.str?]

theorem memory_row_sound (record : JsonObject) (stamp : MemoryStamp) :
    (memory_row record stamp).Sound :=
  ⟨rfl, fun _ => rfl⟩

theorem row_of_entry_eq_ok {entry : JsonObject} {row : TapeRow} (h : row_of_entry entry = .ok row) :
    row.entry = entry ∧ row.kind = (entry.get "kind").str? := by
  simp only [row_of_entry, bind_eq_ok, pure_eq_ok] at h
  obtain ⟨kind, hkind, _, -, _, -, _, -, rfl⟩ := h
  refine ⟨rfl, ?_⟩
  unfold optional_entry_str at hkind
  cases hget : entry.get "kind" <;> simp_all [Json.str?]

namespace RowsMatch

variable {rows : Numbered TapeRow} {lines : List JsonObject}

theorem empty : RowsMatch Numbered.empty [] := ⟨rfl, fun _ hrow => absurd hrow not_mem_nil⟩

theorem length (h : RowsMatch rows lines) : rows.items.length = lines.length := by
  have hlength := congrArg List.length h.entries
  rw [length_map, length_map] at hlength
  exact hlength

theorem append_all (h : RowsMatch rows lines) {new : List TapeRow} {added : List JsonObject}
    (hentries : new.map (fun row => unstamped row.entry) = added.map unstamped)
    (hsound : ∀ row ∈ new, row.Sound) : RowsMatch (rows.append_all new) (lines ++ added) := by
  constructor
  · rw [Numbered.items_append_all, map_append, map_append, h.entries, hentries]
  · intro row hrow
    rw [Numbered.items_append_all, mem_append] at hrow
    exact hrow.elim (h.sound row) (hsound row)

theorem below (h : RowsMatch rows lines) {keep : Nat} (hdense : rows.DenseBelow keep) :
    RowsMatch (rows.below keep) (lines.take keep) := by
  have hitems := (rows.items_below_iff keep).mpr hdense
  constructor
  · rw [hitems, map_take, h.entries, map_take]
  · intro row hrow
    rw [hitems] at hrow
    exact h.sound row (mem_of_mem_take hrow)

theorem filter_entries {items : List TapeRow} {lines : List JsonObject}
    {left : TapeRow → Bool} {right : JsonObject → Bool}
    (hentries : items.map (fun row => unstamped row.entry) = lines.map unstamped)
    (hleft : ∀ row ∈ items, left row = right (unstamped row.entry))
    (hright : ∀ line, right (unstamped line) = right line) :
    (items.filter left).map (fun row => unstamped row.entry)
      = (lines.filter right).map unstamped := by
  have hitems : items.filter left = items.filter (fun row => right (unstamped row.entry)) :=
    filter_congr hleft
  have hlines : lines.filter right = lines.filter (fun line => right (unstamped line)) :=
    filter_congr (fun line _ => (hright line).symm)
  have hfilter := congrArg (List.filter right) hentries
  rw [filter_map, filter_map] at hfilter
  rw [hitems, hlines]
  exact hfilter

theorem without_memory_records (h : RowsMatch rows lines) :
    RowsMatch (rows.delete_where (fun _ row => row.kind = some "memory_record"))
      (lines.filter (fun entry => !is_memory_record entry)) := by
  have hitems := rows.items_delete_where (fun row => decide (row.kind = some "memory_record"))
  constructor
  · rw [hitems]
    refine filter_entries h.entries (fun row hrow => ?_) (fun line => ?_)
    · rw [(h.sound row hrow).is_memory_record_iff, is_memory_record_unstamped]
    · rw [is_memory_record_unstamped]
  · intro row hrow
    rw [hitems] at hrow
    exact h.sound row (mem_of_mem_filter hrow)

theorem load_memory_records (h : RowsMatch rows lines) :
    (rows.items.filter (fun row => decide (row.kind = some "memory_record"))).mapM
        memory_payload
      = .ok (memory_records lines) := by
  rw [← memory_records_unstamped lines, ← h.entries]
  have hsound := h.sound
  generalize rows.items = items at hsound
  induction items with
  | nil => rfl
  | cons row rest ih =>
    have hrow := hsound row mem_cons_self
    have hrest := ih (fun other hother => hsound other (mem_cons_of_mem _ hother))
    unfold memory_records at hrest ⊢
    rw [filter_cons, hrow.is_memory_record_iff, map_cons, filter_cons,
      is_memory_record_unstamped]
    by_cases hmemory : is_memory_record row.entry = true
    · obtain ⟨payload, hpayload⟩ := Option.isSome_iff_exists.mp (hrow.record hmemory)
      rw [if_pos hmemory, if_pos hmemory, mapM_cons, filterMap_cons,
        unstamped_payload, hpayload]
      have hread : memory_payload row = .ok payload := by
        unfold memory_payload
        rw [Json.obj?_eq_some.mp hpayload]
      rw [hread, ok_bind, hrest]
      rfl
    · rw [if_neg hmemory, if_neg hmemory]
      exact hrest

end RowsMatch

/-! ## One call -/

/-- The condition on a call, in the state before it: what is saved can be a row, memory records
have records, and nothing under a cut is missing. -/
def Meets (stores : TapeStores) : TapeStoreCall → Prop
  | .save _ entries => ∀ entry ∈ entries,
      (∃ row, row_of_entry entry = .ok row)
        ∧ (is_memory_record entry = true → (entry.get "payload").obj?.isSome)
  | .append_memory_record _ _ _ _ => True
  | .replace_memory_records _ _ => True
  | .truncate tape_id keep => 0 ≤ keep → (stores.sqlite.rows tape_id).DenseBelow keep.toNat

/-- What the call does when it meets the condition: the stores agree on every tape after it, and
a truncation keeps the first entries of what was loaded before. -/
structure StepAgrees (locate : String → Option String) (tape_ids : List String)
    (stores : TapeStores) (call : TapeStoreCall) : Prop where
  agree : ∀ tape_id ∈ tape_ids, AgreeOn locate (stores.perform locate call) tape_id
  truncates : ∀ tape_id keep, call = .truncate tape_id keep → 0 ≤ keep →
    (stores.perform locate call).jsonl.load locate tape_id
        = (stores.jsonl.load locate tape_id).take keep.toNat
      ∧ (stores.perform locate call).sqlite.load tape_id
        = (stores.sqlite.load tape_id).map (List.take keep.toNat)

def InStep (locate : String → Option String) (tape_ids : List String) (stores : TapeStores) : Prop :=
  ∀ tape_id ∈ tape_ids,
    RowsMatch (stores.sqlite.rows tape_id) (stores.jsonl.load locate tape_id)

/-- A call leaves these lines and these rows for its tape, and the others as they were. -/
structure Leaves (locate : String → Option String) (stores : TapeStores) (call : TapeStoreCall)
    (lines : List JsonObject) (rows : Numbered TapeRow) : Prop where
  lines : ∀ other, (stores.perform locate call).jsonl.load locate other
    = if locate other = locate call.tape_id then lines else stores.jsonl.load locate other
  rows : ∀ other, (stores.perform locate call).sqlite.rows other
    = if other = call.tape_id then rows else stores.sqlite.rows other

section Calls

variable {locate : String → Option String} {tape_ids : List String} {stores : TapeStores}

theorem InStep.agree_on (hfiles : OwnFiles locate tape_ids) (hstep : InStep locate tape_ids stores)
    {tape_id : String} (hid : tape_id ∈ tape_ids) : AgreeOn locate stores tape_id := by
  have hmatch := hstep tape_id hid
  have hname := hfiles.named tape_id hid
  constructor
  · refine ⟨_, load_eq_ok hname, ?_⟩
    rw [map_map, ← hmatch.entries]
    rfl
  · unfold SQLiteTapeStore.load_memory_records
    rw [check_bind_eq_ok]
    exact ⟨require_non_empty_eq_ok.mpr hname, hmatch.load_memory_records⟩

variable {call : TapeStoreCall}

theorem InStep.leaves (hfiles : OwnFiles locate tape_ids) (hstep : InStep locate tape_ids stores)
    (hid : call.tape_id ∈ tape_ids) {lines : List JsonObject} {rows : Numbered TapeRow}
    (hleaves : Leaves locate stores call lines rows) (hmatch : RowsMatch rows lines) :
    InStep locate tape_ids (stores.perform locate call) := by
  intro other hother
  rw [hleaves.lines, hleaves.rows]
  by_cases hsame : other = call.tape_id
  · rw [if_pos hsame, hsame, if_pos rfl]
    exact hmatch
  · have hpath : locate other ≠ locate call.tape_id :=
      fun h => hsame (hfiles.own other hother _ hid h)
    rw [if_neg hsame, if_neg hpath]
    exact hstep other hother

theorem leaves_of_writes {path : String} (hpath : locate call.tape_id = some path)
    {lines : List JsonObject} {rows : Numbered TapeRow}
    (hjsonl : call.on_jsonl locate stores.jsonl = .ok (stores.jsonl.write path lines))
    (hsqlite : call.on_sqlite stores.sqlite = .ok (stores.sqlite.put call.tape_id rows)) :
    Leaves locate stores call lines rows := by
  constructor
  · intro other
    unfold TapeStores.perform
    rw [hjsonl]
    exact stores.jsonl.load_write hpath other lines
  · intro other
    unfold TapeStores.perform
    rw [hsqlite]
    exact stores.sqlite.rows_put call.tape_id other rows

variable {tape_id path : String}

theorem save_jsonl_eq (hpath : locate tape_id = some path) (entries : List JsonObject) :
    stores.jsonl.save locate tape_id entries
      = .ok (stores.jsonl.write path (stores.jsonl.load locate tape_id ++ entries)) := by
  unfold JSONLTapeStore.save JSONLTapeStore.load
  rw [hpath]
  rfl

variable {entries : List JsonObject} {values : List TapeRow}

theorem save_leaves (hname : tape_id ≠ "") (hpath : locate tape_id = some path)
    (hvalues : entries.mapM row_of_entry = .ok values) :
    Leaves locate stores (.save tape_id entries) (stores.jsonl.load locate tape_id ++ entries)
      ((stores.sqlite.rows tape_id).append_all values) := by
  have hnamed : require_non_empty "tape_id" tape_id = .ok () :=
    require_non_empty_eq_ok.mpr hname
  by_cases hempty : entries = []
  · subst hempty
    rw [mapM_nil, pure_eq_ok] at hvalues
    subst hvalues
    have hsqlite : stores.sqlite.save tape_id [] = .ok stores.sqlite := by
      unfold SQLiteTapeStore.save
      rw [hnamed]
      rfl
    constructor
    · intro other
      show ((stores.jsonl.save locate tape_id []).toOption.getD _).load locate other = _
      rw [save_jsonl_eq hpath]
      exact stores.jsonl.load_write hpath other _
    · intro other
      show ((stores.sqlite.save tape_id []).toOption.getD _).rows other = _
      rw [hsqlite]
      have hsame : (stores.sqlite.rows tape_id).append_all []
          = stores.sqlite.rows tape_id := by
        unfold Numbered.append_all
        simp
      rw [hsame]
      by_cases hother : other = tape_id
      · rw [hother]
        exact (if_pos rfl).symm
      · exact (if_neg hother).symm
  · refine leaves_of_writes hpath (save_jsonl_eq hpath entries) ?_
    show stores.sqlite.save tape_id entries = _
    unfold SQLiteTapeStore.save
    rw [hnamed, ok_bind, if_neg hempty, hvalues]
    rfl

variable {keep : Int}

theorem truncate_leaves (hname : tape_id ≠ "") (hpath : locate tape_id = some path)
    (hkeep : 0 ≤ keep) :
    Leaves locate stores (.truncate tape_id keep)
      ((stores.jsonl.load locate tape_id).take keep.toNat)
      ((stores.sqlite.rows tape_id).below keep.toNat) := by
  have hnamed : require_non_empty "tape_id" tape_id = .ok () :=
    require_non_empty_eq_ok.mpr hname
  have hlength : raise_if (keep < 0) .ValueError "keep must be >= 0" = .ok () :=
    raise_if_eq_ok.mpr (by omega)
  have hsqlite : stores.sqlite.truncate tape_id keep
      = .ok (stores.sqlite.put tape_id ((stores.sqlite.rows tape_id).below keep.toNat)) := by
    unfold SQLiteTapeStore.truncate
    rw [hnamed, hlength]
    rfl
  cases hlines : stores.jsonl.files.row path with
  | some lines =>
    refine leaves_of_writes hpath ?_ hsqlite
    show stores.jsonl.truncate locate tape_id keep = _
    unfold JSONLTapeStore.truncate JSONLTapeStore.load JSONLTapeStore.read
    rw [hlength, hpath, ok_bind, Option.bind_some]
    simp only [hlines]
    rfl
  | none =>
    -- there is no file to cut, and no line in it
    have hload : stores.jsonl.load locate tape_id = [] := by
      unfold JSONLTapeStore.load JSONLTapeStore.read
      rw [hpath, Option.bind_some, hlines]
      rfl
    have hjsonl : stores.jsonl.truncate locate tape_id keep = .ok stores.jsonl := by
      unfold JSONLTapeStore.truncate
      rw [hlength, hpath, ok_bind]
      simp only [hlines]
      rfl
    constructor
    · intro other
      show ((stores.jsonl.truncate locate tape_id keep).toOption.getD _).load locate other = _
      rw [hjsonl, hload]
      by_cases hother : locate other = locate tape_id
      · have hother_load : stores.jsonl.load locate other = stores.jsonl.load locate tape_id := by
          unfold JSONLTapeStore.load
          rw [hother]
        show stores.jsonl.load locate other = _
        rw [hother_load, hload, take_nil]
        exact (if_pos hother).symm
      · exact (if_neg hother).symm
    · intro other
      show ((stores.sqlite.truncate tape_id keep).toOption.getD _).rows other = _
      rw [hsqlite]
      exact stores.sqlite.rows_put tape_id other _

theorem truncate_negative {tape_id : String} (hkeep : keep < 0) (hname : tape_id ≠ "") :
    stores.perform locate (.truncate tape_id keep) = stores := by
  have hnamed : require_non_empty "tape_id" tape_id = .ok () :=
    require_non_empty_eq_ok.mpr hname
  have hsqlite : stores.sqlite.truncate tape_id keep
      = .error (.raised .ValueError "keep must be >= 0") := by
    unfold SQLiteTapeStore.truncate raise_if
    rw [hnamed, if_pos hkeep]
    rfl
  have hjsonl : stores.jsonl.truncate locate tape_id keep
      = .error (.raised .ValueError "keep must be >= 0") := by
    unfold JSONLTapeStore.truncate raise_if
    rw [if_pos hkeep]
    rfl
  unfold TapeStores.perform TapeStoreCall.on_jsonl TapeStoreCall.on_sqlite
  simp only [hsqlite, hjsonl]
  rfl

theorem append_memory_record_leaves (hname : tape_id ≠ "") (hpath : locate tape_id = some path)
    (record : JsonObject) (left right : MemoryStamp) :
    Leaves locate stores (.append_memory_record tape_id record left right)
      (stores.jsonl.load locate tape_id ++ [memory_entry record left])
      ((stores.sqlite.rows tape_id).append_all [memory_row record right]) := by
  have hnamed : require_non_empty "tape_id" tape_id = .ok () :=
    require_non_empty_eq_ok.mpr hname
  refine leaves_of_writes hpath ?_ ?_
  · show stores.jsonl.append_memory_record locate tape_id record left = _
    unfold JSONLTapeStore.append_memory_record JSONLTapeStore.load
    rw [hpath]
    rfl
  · show stores.sqlite.append_memory_record tape_id record right = _
    unfold SQLiteTapeStore.append_memory_record
    rw [hnamed]
    rfl

theorem replace_memory_records_leaves (hname : tape_id ≠ "") (hpath : locate tape_id = some path)
    (records : List (JsonObject × MemoryStamp × MemoryStamp)) :
    Leaves locate stores (.replace_memory_records tape_id records)
      ((stores.jsonl.load locate tape_id).filter (fun entry => !is_memory_record entry)
        ++ records.map (fun (record, stamp, _) => memory_entry record stamp))
      (((stores.sqlite.rows tape_id).delete_where
          (fun _ row => row.kind = some "memory_record")).append_all
        (records.map (fun (record, _, stamp) => memory_row record stamp))) := by
  have hnamed : require_non_empty "tape_id" tape_id = .ok () :=
    require_non_empty_eq_ok.mpr hname
  refine leaves_of_writes hpath ?_ ?_
  · show stores.jsonl.replace_memory_records locate tape_id _ = _
    unfold JSONLTapeStore.replace_memory_records JSONLTapeStore.load
    rw [hpath, map_map]
    rfl
  · show stores.sqlite.replace_memory_records tape_id _ = _
    unfold SQLiteTapeStore.replace_memory_records
    rw [hnamed, map_map]
    rfl

theorem row_entries (hvalues : entries.mapM row_of_entry = .ok values) :
    values.map (fun row => unstamped row.entry) = entries.map unstamped := by
  rw [mapM_eq_ok] at hvalues
  induction hvalues with
  | nil => rfl
  | cons hrow _ ih => rw [map_cons, map_cons, (row_of_entry_eq_ok hrow).1, ih]

/-- **A call that meets the condition keeps the stores in step**, one case for each call. -/
theorem InStep.perform (hfiles : OwnFiles locate tape_ids) (hstep : InStep locate tape_ids stores)
    (hid : call.tape_id ∈ tape_ids) (hmeets : Meets stores call) :
    InStep locate tape_ids (stores.perform locate call) := by
  have hname := hfiles.named _ hid
  obtain ⟨path, hpath⟩ := hfiles.located _ hid
  have hmatch := hstep _ hid
  cases call with
  | save tape_id entries =>
    obtain ⟨values, hvalues⟩ :=
      exists_mapM_eq_ok (fun entry hentry => (hmeets entry hentry).1)
    refine hstep.leaves hfiles hid (save_leaves hname hpath hvalues)
      (hmatch.append_all (row_entries hvalues) ?_)
    intro row hrow
    obtain ⟨entry, hentry, hvalue⟩ := exists_of_mem_mapM hvalues hrow
    obtain ⟨hsame, hkind⟩ := row_of_entry_eq_ok hvalue
    constructor
    · rw [hsame]
      exact hkind
    · rw [hsame]
      exact (hmeets entry hentry).2
  | append_memory_record tape_id record left right =>
    refine hstep.leaves hfiles hid (append_memory_record_leaves hname hpath record left right)
      (hmatch.append_all rfl ?_)
    intro row hrow
    rw [mem_singleton.mp hrow]
    exact memory_row_sound record right
  | replace_memory_records tape_id records =>
    refine hstep.leaves hfiles hid (replace_memory_records_leaves hname hpath records)
      (hmatch.without_memory_records.append_all ?_ ?_)
    · rw [map_map, map_map]
      rfl
    · intro row hrow
      obtain ⟨⟨record, left, right⟩, -, rfl⟩ := mem_map.mp hrow
      exact memory_row_sound record right
  | truncate tape_id keep =>
    by_cases hkeep : 0 ≤ keep
    · exact hstep.leaves hfiles hid (truncate_leaves hname hpath hkeep)
        (hmatch.below (hmeets hkeep))
    · have hsame : stores.perform locate (.truncate tape_id keep) = stores :=
        truncate_negative (by omega) hname
      rw [hsame]
      exact hstep

theorem InStep.step_agrees (hfiles : OwnFiles locate tape_ids)
    (hstep : InStep locate tape_ids stores) (hid : call.tape_id ∈ tape_ids)
    (hmeets : Meets stores call) : StepAgrees locate tape_ids stores call := by
  have hafter := hstep.perform hfiles hid hmeets
  refine ⟨fun tape_id htape => hafter.agree_on hfiles htape, ?_⟩
  rintro tape_id keep rfl hkeep
  have hname : tape_id ≠ "" := hfiles.named tape_id hid
  obtain ⟨path, hpath⟩ := hfiles.located tape_id hid
  have hleaves : Leaves locate stores (.truncate tape_id keep) _ _ :=
    truncate_leaves hname hpath hkeep
  have hitems := ((stores.sqlite.rows tape_id).items_below_iff keep.toNat).mpr (hmeets hkeep)
  constructor
  · rw [hleaves.lines]
    exact if_pos rfl
  · have hrows : (stores.perform locate (.truncate tape_id keep)).sqlite.rows tape_id
        = (stores.sqlite.rows tape_id).below keep.toNat := by
      rw [hleaves.rows]
      exact if_pos rfl
    rw [load_eq_ok hname, load_eq_ok hname, hrows, hitems,
      map_take]
    rfl

/-! ### What an agreement says about the call -/

section

variable (hname : tape_id ≠ "") (hpath : locate tape_id = some path)
  (hmatch : RowsMatch (stores.sqlite.rows tape_id) (stores.jsonl.load locate tape_id))

include hname hpath hmatch

theorem truncate_meets
    (hafter : ((stores.perform locate (.truncate tape_id keep)).sqlite.rows tape_id).items.length
      = ((stores.perform locate (.truncate tape_id keep)).jsonl.load locate tape_id).length) :
    Meets stores (.truncate tape_id keep) := by
  intro hkeep
  have hleaves : Leaves locate stores (.truncate tape_id keep) _ _ :=
    truncate_leaves hname hpath hkeep
  rw [hleaves.lines, hleaves.rows] at hafter
  simp only [TapeStoreCall.tape_id, if_true] at hafter
  have hbefore := hmatch.length
  unfold Numbered.items at hafter hbefore
  rw [length_map, length_take] at hafter
  rw [length_map] at hbefore
  -- the rows kept are among the first ones, and as many
  have hrows := (stores.sqlite.rows tape_id).below_rows keep.toNat
  have hcount : ((stores.sqlite.rows tape_id).below keep.toNat).rows.length
      = ((stores.sqlite.rows tape_id).rows.take keep.toNat).length := by
    rw [hafter, length_take, hbefore]
  rw [hrows, length_filter_eq_length_iff] at hcount
  exact fun row hrow => of_decide_eq_true (hcount row hrow)

/-- Lists that are as long after a save were given the same entries: the SQLite store refused
none. -/
theorem save_rows_of_agree
    (hafter : ((stores.perform locate (.save tape_id entries)).sqlite.rows tape_id).items.length
      = ((stores.perform locate (.save tape_id entries)).jsonl.load locate tape_id).length) :
    ∃ values, entries.mapM row_of_entry = .ok values := by
  cases hvalues : entries.mapM row_of_entry with
  | ok values => exact ⟨values, rfl⟩
  | error error =>
    exfalso
    have hne : entries ≠ [] := by
      rintro rfl
      cases hvalues
    have hnamed : require_non_empty "tape_id" tape_id = .ok () :=
      require_non_empty_eq_ok.mpr hname
    have hrefused : stores.sqlite.save tape_id entries = .error error := by
      unfold SQLiteTapeStore.save
      rw [hnamed, ok_bind, if_neg hne, hvalues]
      rfl
    have hrows : (stores.perform locate (.save tape_id entries)).sqlite = stores.sqlite := by
      show (stores.sqlite.save tape_id entries).toOption.getD _ = _
      rw [hrefused]
      rfl
    have hlines : (stores.perform locate (.save tape_id entries)).jsonl.load locate tape_id
        = stores.jsonl.load locate tape_id ++ entries := by
      show ((stores.jsonl.save locate tape_id entries).toOption.getD _).load locate tape_id = _
      rw [save_jsonl_eq hpath]
      show (stores.jsonl.write path _).load locate tape_id = _
      rw [stores.jsonl.load_write hpath, if_pos rfl]
    have hpos := length_pos_iff.mpr hne
    have hbefore := hmatch.length
    rw [hrows, hlines, length_append] at hafter
    omega

end

theorem save_records_of_agree (hname : tape_id ≠ "") (hpath : locate tape_id = some path)
    (hvalues : entries.mapM row_of_entry = .ok values) {records : List JsonObject}
    (hloaded : (stores.perform locate (.save tape_id entries)).sqlite.load_memory_records tape_id
      = .ok records) {entry : JsonObject} (hentry : entry ∈ entries)
    (hrecord : is_memory_record entry = true) : (entry.get "payload").obj?.isSome := by
  have hleaves : Leaves locate stores (.save tape_id entries) _ _ :=
    save_leaves hname hpath hvalues
  obtain ⟨row, hrow, hvalue⟩ := exists_result_of_mem hvalues hentry
  obtain ⟨hsame, hkind⟩ := row_of_entry_eq_ok hvalue
  unfold SQLiteTapeStore.load_memory_records at hloaded
  rw [check_bind_eq_ok] at hloaded
  have hpayloads := hloaded.2
  rw [hleaves.rows] at hpayloads
  simp only [TapeStoreCall.tape_id, if_true] at hpayloads
  have hmem : row ∈ ((stores.sqlite.rows tape_id).append_all values).items.filter
      (fun row => decide (row.kind = some "memory_record")) := by
    rw [mem_filter, Numbered.items_append_all]
    refine ⟨mem_append_right _ hrow, ?_⟩
    rw [hkind, of_decide_eq_true hrecord]
    rfl
  obtain ⟨payload, -, hpayload⟩ := exists_result_of_mem hpayloads hmem
  unfold memory_payload at hpayload
  rw [hsame] at hpayload
  cases hget : entry.get "payload" with
  | obj fields => rfl
  | _ =>
    rw [hget] at hpayload
    cases hpayload

/-- **A call that leaves the stores agreeing met the condition.** -/
theorem InStep.meets_of_agree (hfiles : OwnFiles locate tape_ids)
    (hstep : InStep locate tape_ids stores) (hid : call.tape_id ∈ tape_ids)
    (hagree : AgreeOn locate (stores.perform locate call) call.tape_id) : Meets stores call := by
  have hname := hfiles.named _ hid
  obtain ⟨path, hpath⟩ := hfiles.located _ hid
  have hmatch := hstep _ hid
  obtain ⟨⟨entries, hload, hentries⟩, hmemory⟩ := hagree
  rw [load_eq_ok hname, Except.ok.injEq] at hload
  subst hload
  have hafter := congrArg List.length hentries
  rw [length_map, length_map, length_map] at hafter
  cases call with
  | append_memory_record tape_id record left right => exact trivial
  | replace_memory_records tape_id records => exact trivial
  | truncate tape_id keep => exact truncate_meets hname hpath hmatch hafter
  | save tape_id entries =>
    obtain ⟨values, hvalues⟩ := save_rows_of_agree hname hpath hmatch hafter
    intro entry hentry
    obtain ⟨row, -, hrow⟩ := exists_result_of_mem hvalues hentry
    exact ⟨⟨row, hrow⟩, save_records_of_agree hname hpath hvalues hmemory hentry⟩

end Calls

/-! ## Every run -/

def EachStep (locate : String → Option String) (property : TapeStores → TapeStoreCall → Prop) :
    TapeStores → List TapeStoreCall → Prop
  | _, [] => True
  | stores, call :: rest =>
    property stores call ∧ EachStep locate property (stores.perform locate call) rest

theorem InStep.run_iff {locate : String → Option String} {tape_ids : List String}
    (hfiles : OwnFiles locate tape_ids) {calls : List TapeStoreCall}
    (hids : ∀ call ∈ calls, call.tape_id ∈ tape_ids) {stores : TapeStores}
    (hstep : InStep locate tape_ids stores) :
    EachStep locate (StepAgrees locate tape_ids) stores calls
      ↔ EachStep locate Meets stores calls := by
  induction calls generalizing stores with
  | nil => exact Iff.rfl
  | cons call rest ih =>
    have hid := hids call mem_cons_self
    have hrest := fun other hother => hids other (mem_cons_of_mem _ hother)
    constructor
    · rintro ⟨hagrees, hlater⟩
      have hmeets := hstep.meets_of_agree hfiles hid (hagrees.agree _ hid)
      exact ⟨hmeets, (ih hrest (hstep.perform hfiles hid hmeets)).mp hlater⟩
    · rintro ⟨hmeets, hlater⟩
      exact ⟨hstep.step_agrees hfiles hid hmeets,
        (ih hrest (hstep.perform hfiles hid hmeets)).mpr hlater⟩

theorem empty_in_step (locate : String → Option String) (tape_ids : List String) :
    InStep locate tape_ids {} := by
  intro tape_id _
  have hload : JSONLTapeStore.load locate {} tape_id = [] := by
    unfold JSONLTapeStore.load JSONLTapeStore.read
    cases locate tape_id <;> rfl
  have hrows : SQLiteTapeStore.rows {} tape_id = Numbered.empty := rfl
  rw [hload, hrows]
  exact RowsMatch.empty

/-- **The two stores agree throughout a run exactly when every call meets the condition.** For
tapes with a file of their own and calls on them in any order, from empty stores: after every
call both return the same entries and the same memory records for every tape, and every
truncation keeps exactly the first entries, if and only if every saved entry can be a row, every
saved memory record has a record, and no row number under a cut is missing. -/
theorem tape_stores_agree_iff {locate : String → Option String} {tape_ids : List String}
    (hfiles : OwnFiles locate tape_ids) {calls : List TapeStoreCall}
    (hids : ∀ call ∈ calls, call.tape_id ∈ tape_ids) :
    EachStep locate (StepAgrees locate tape_ids) {} calls ↔ EachStep locate Meets {} calls :=
  (empty_in_step locate tape_ids).run_iff hfiles hids

/-- A message, a memory record and a message on one tape; the record is removed, and two entries
are to be kept. -/
def removed_memory_calls : List TapeStoreCall :=
  [.save "t" [[("kind", .str "message"), ("payload", .obj [("content", .str "a")])]],
   .append_memory_record "t" [("summary", .str "s")] ⟨"j", 0⟩ ⟨"q", 0⟩,
   .save "t" [[("kind", .str "message"), ("payload", .obj [("content", .str "b")])]],
   .replace_memory_records "t" [],
   .truncate "t" 2]

theorem own_file : OwnFiles some ["t"] := by
  refine ⟨fun tape_id hid => ?_, fun tape_id _ => ⟨tape_id, rfl⟩,
    fun tape_id _ other _ h => Option.some.inj h⟩
  rw [mem_singleton.mp hid]
  decide

theorem removed_memory_ids : ∀ call ∈ removed_memory_calls, call.tape_id ∈ ["t"] := by
  unfold removed_memory_calls
  simp [TapeStoreCall.tape_id]

/-- The JSONL store keeps both messages, the SQLite store only the first: the second has number
two although it is the second entry. -/
theorem removed_memory_disagrees :
    ¬ EachStep some (StepAgrees some ["t"]) {} removed_memory_calls := by
  rw [(empty_in_step some ["t"]).run_iff own_file removed_memory_ids]
  rintro ⟨-, -, -, -, hdense, -⟩
  exact absurd (hdense (by decide)) (by decide +kernel)

/-- Before the cut the stores agree all along. -/
theorem removed_memory_agrees_before :
    EachStep some (StepAgrees some ["t"]) {} (removed_memory_calls.take 4) := by
  refine (tape_stores_agree_iff own_file
    (fun call hcall => removed_memory_ids call (mem_of_mem_take hcall))).mpr ?_
  refine ⟨?_, trivial, ?_, trivial, trivial⟩
  all_goals
    intro entry hentry
    rw [mem_singleton.mp hentry]
    exact ⟨⟨_, rfl⟩, fun _ => rfl⟩

/-! ## Runs that replace no memory records -/

end CodingAgentLoop
