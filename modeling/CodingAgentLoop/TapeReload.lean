/-
A tape read back from its file.

`save_jsonl` appends to a file the entries that are not on it yet, and `load_jsonl`
makes a tape of the whole file. The window is not on file: the loaded tape starts it at
the last handoff anchor, wherever the tape that was saved had started it. A context
window that `_stage_build_context` advances starts before its anchor, which is appended
at the end, and comes back narrower than it was.
-/
import CodingAgentLoop.Tape
import Mathlib.Data.List.Induction

namespace CodingAgentLoop

open Lib TapeView List Result

/-! ## One entry -/

/-- An entry that carries its own type: a plain entry is not an anchor, and an anchor has none
of the names anchor types had before. -/
def Entry.Typed : Entry → Prop
  | .entry kind _ => kind ≠ "anchor"
  | .anchor _ anchor_type _ => anchor_type ≠ "topic_initial" ∧ anchor_type ≠ "topic_finalized"

instance (entry : Entry) : Decidable entry.Typed := by
  cases entry <;> unfold Entry.Typed <;> infer_instance

namespace Entry

section

variable (kind : String) (fields : EntryFields) (rest : JsonObject)

theorem base_dict_get : JsonObject.get (base_dict kind fields ++ rest) "id" = .str fields.id
      ∧ JsonObject.get (base_dict kind fields ++ rest) "kind" = .str kind
      ∧ JsonObject.get (base_dict kind fields ++ rest) "payload" = .obj fields.payload
      ∧ JsonObject.get (base_dict kind fields ++ rest) "timestamp" = .float fields.timestamp :=
  ⟨rfl, rfl, rfl, rfl⟩

theorem optional_meta_base_dict (hrest : JsonObject.get rest "meta" = .null) :
    optional_json_dict (base_dict kind fields ++ rest) "meta" = .ok fields.meta_ := by
  unfold optional_json_dict
  by_cases hmeta : fields.meta_ = []
  · have hget : JsonObject.get (base_dict kind fields ++ rest) "meta" = .null := by
      rw [← hrest]
      simp only [base_dict, hmeta, if_true]
      rfl
    rw [hget, hmeta]
  · have hget : JsonObject.get (base_dict kind fields ++ rest) "meta" = .obj fields.meta_ := by
      simp only [base_dict, hmeta, if_false]
      rfl
    rw [hget]

theorem fields_from_base_dict (hrest : JsonObject.get rest "meta" = .null) :
    fields_from_dict (base_dict kind fields ++ rest) = .ok fields := by
  obtain ⟨hid, -, hpayload, htimestamp⟩ := base_dict_get kind fields rest
  unfold fields_from_dict require_str require_json_dict require_float
  rw [hid, hpayload, htimestamp, optional_meta_base_dict kind fields rest hrest]
  rfl

end

theorem optional_source_ids_anchor (fields : EntryFields) (anchor_type : String)
    (source_ids : List String) :
    optional_source_ids (Entry.anchor fields anchor_type source_ids).to_dict = .ok source_ids := by
  unfold optional_source_ids to_dict base_dict
  by_cases hids : source_ids = []
  · rw [hids]
    by_cases hmeta : fields.meta_ = [] <;> simp only [hmeta, if_true, if_false] <;> rfl
  · have hget : JsonObject.get ([("id", Json.str fields.id), ("kind", .str "anchor"),
          ("payload", .obj fields.payload), ("timestamp", .float fields.timestamp)]
          ++ (if fields.meta_ = [] then [] else [("meta", .obj fields.meta_)])
          ++ [("anchor_type", .str anchor_type)]
          ++ (if source_ids = [] then [] else [("source_ids", .arr (source_ids.map .str))]))
          "source_ids" = .arr (source_ids.map .str) := by
      by_cases hmeta : fields.meta_ = [] <;> simp only [hmeta, hids, if_true, if_false] <;> rfl
    rw [hget]
    exact mapM_map_eq_ok (fun _ _ => rfl)

def anchor_dict (anchor_type : String) (source_ids : List String) : JsonObject :=
  ("anchor_type", .str anchor_type)
    :: if source_ids = [] then [] else [("source_ids", .arr (source_ids.map .str))]

theorem to_dict_anchor (fields : EntryFields) (anchor_type : String) (source_ids : List String) :
    (Entry.anchor fields anchor_type source_ids).to_dict
      = base_dict "anchor" fields ++ anchor_dict anchor_type source_ids := by
  simp only [to_dict, anchor_dict, append_assoc]
  rfl

theorem anchor_dict_meta (anchor_type : String) (source_ids : List String) :
    JsonObject.get (anchor_dict anchor_type source_ids) "meta" = .null := by
  unfold anchor_dict
  by_cases hids : source_ids = [] <;> simp only [hids, if_true, if_false] <;> rfl

section

variable (fields : EntryFields) (anchor_type : String) (source_ids : List String)

theorem promoted_anchor_type_anchor :
    promoted_anchor_type (Entry.anchor fields anchor_type source_ids).to_dict
      = .ok (legacy_anchor_map anchor_type) := by
  have hget : JsonObject.get (Entry.anchor fields anchor_type source_ids).to_dict "anchor_type"
      = .str anchor_type := by
    rw [to_dict_anchor]
    unfold base_dict
    by_cases hmeta : fields.meta_ = [] <;> simp only [hmeta, if_true, if_false] <;> rfl
  unfold promoted_anchor_type declared_anchor_type
  rw [hget]
  rfl

theorem from_dict_anchor :
    from_dict (Entry.anchor fields anchor_type source_ids).to_dict
      = .ok (.anchor fields (legacy_anchor_map anchor_type) source_ids) := by
  have hkind : require_str (Entry.anchor fields anchor_type source_ids).to_dict "kind"
      = .ok "anchor" := by
    unfold require_str
    rw [to_dict_anchor, (base_dict_get "anchor" fields _).2.1]
  have hfields : fields_from_dict (Entry.anchor fields anchor_type source_ids).to_dict
      = .ok fields := by
    rw [to_dict_anchor]
    exact fields_from_base_dict _ _ _ (anchor_dict_meta _ _)
  unfold from_dict
  rw [hkind, promoted_anchor_type_anchor, hfields, optional_source_ids_anchor]
  rfl

end

theorem from_dict_plain {kind : String} (hkind : kind ≠ "anchor") (fields : EntryFields) :
    from_dict (Entry.entry kind fields).to_dict = .ok (.entry kind fields) := by
  have hdict : (Entry.entry kind fields).to_dict = base_dict kind fields ++ [] := by
    rw [append_nil]
    rfl
  rw [hdict]
  unfold from_dict require_str
  rw [(base_dict_get kind fields _).2.1, fields_from_base_dict _ _ _ rfl]
  show (if kind = "anchor" then _ else _) = _
  rw [if_neg hkind]
  rfl

theorem from_dict_plain_anchor (fields loaded : EntryFields) (kind : String) :
    from_dict (Entry.entry "anchor" fields).to_dict ≠ .ok (.entry kind loaded) := by
  intro h
  have hkind : require_str (Entry.entry "anchor" fields).to_dict "kind" = .ok "anchor" := by
    unfold require_str to_dict base_dict
    rfl
  simp only [from_dict, hkind, ok_bind, if_true, bind_eq_ok, pure_eq_ok] at h
  obtain ⟨_, _, _, _, _, _, h⟩ := h
  cases h

theorem legacy_anchor_map_eq_self {anchor_type : String} :
    legacy_anchor_map anchor_type = anchor_type
      ↔ anchor_type ≠ "topic_initial" ∧ anchor_type ≠ "topic_finalized" := by
  unfold legacy_anchor_map
  by_cases hinitial : anchor_type = "topic_initial"
  · simp [hinitial]
  · by_cases hfinalized : anchor_type = "topic_finalized"
    · simp [hfinalized]
    · simp [hinitial, hfinalized]

/-- **The round trip of an entry.** An entry is read back as it was exactly when it carries its
own type. -/
theorem from_dict_to_dict_iff (entry : Entry) : from_dict entry.to_dict = .ok entry ↔ entry.Typed := by
  cases entry with
  | entry kind fields =>
    by_cases hkind : kind = "anchor"
    · subst hkind
      exact iff_of_false (from_dict_plain_anchor fields fields "anchor") (fun h => h rfl)
    · exact iff_of_true (from_dict_plain hkind fields) hkind
  | anchor fields anchor_type source_ids =>
    rw [from_dict_anchor]
    simp only [Except.ok.injEq, Entry.anchor.injEq, true_and, and_true, Typed]
    exact legacy_anchor_map_eq_self

theorem Typed.marked_handoff {kind : String} {fields : EntryFields}
    (htyped : (Entry.entry kind fields).Typed) : (Entry.entry kind fields).marked_handoff = false := by
  have hkind : kind ≠ "anchor" := htyped
  simp [Entry.marked_handoff, Entry.kind, hkind]

end Entry

/-! ## The scan -/

def Entry.scanned_handoff : Entry → Bool
  | .anchor fields anchor_type source_ids => (Entry.anchor fields anchor_type source_ids).is_handoff
  | .entry kind fields => (Entry.entry kind fields).marked_handoff

theorem scan_window_start_snoc (entries : List Entry) (entry : Entry) :
    scan_window_start (entries ++ [entry])
      = if entry.scanned_handoff then entries.length else scan_window_start entries := by
  unfold scan_window_start
  rw [zipIdx_append, foldl_append, Nat.zero_add]
  cases entry <;> rfl

/-- The window starts at the last entry a predicate holds of, or at the first entry when it
holds of none. -/
structure StartsAtLast (handoff : Entry → Bool) (entries : List Entry) (window_start : Nat) : Prop where
  last : ∀ index entry, entries[index]? = some entry → handoff entry = true → index ≤ window_start
  here : window_start = 0 ∨ ∃ entry, entries[window_start]? = some entry ∧ handoff entry = true

variable {entries : List Entry} {handoff : Entry → Bool}

theorem StartsAtLast.unique {i j : Nat} (hi : StartsAtLast handoff entries i)
    (hj : StartsAtLast handoff entries j) : i = j := by
  have hle : ∀ {i j}, StartsAtLast handoff entries i → StartsAtLast handoff entries j → i ≤ j := by
    intro i j hi hj
    rcases hi.here with hzero | ⟨entry, hentry, hhandoff⟩
    · omega
    · exact hj.last i entry hentry hhandoff
  have hij := hle hi hj
  have hji := hle hj hi
  omega

variable {entry : Entry}

theorem StartsAtLast.append {window_start : Nat}
    (hstart : StartsAtLast handoff entries window_start) (hentry : handoff entry = false) :
    StartsAtLast handoff (entries ++ [entry]) window_start := by
  constructor
  · intro index other hother hhandoff
    by_cases hlt : index < entries.length
    · rw [List.getElem?_append_left hlt] at hother
      exact hstart.last index other hother hhandoff
    · have hmem : other ∈ [entry] := by
        rw [List.getElem?_append_right (by omega)] at hother
        exact mem_of_getElem? hother
      rw [mem_singleton.mp hmem, hentry] at hhandoff
      exact absurd hhandoff Bool.false_ne_true
  · rcases hstart.here with hzero | ⟨other, hother, hhandoff⟩
    · exact .inl hzero
    · refine .inr ⟨other, ?_, hhandoff⟩
      rw [List.getElem?_append_left (List.getElem?_eq_some_iff.mp hother).1]
      exact hother

theorem StartsAtLast.of_last (entries : List Entry) (hentry : handoff entry = true) :
    StartsAtLast handoff (entries ++ [entry]) entries.length := by
  refine ⟨fun index other hother _ => ?_, .inr ⟨entry, by simp, hentry⟩⟩
  have hlt := (List.getElem?_eq_some_iff.mp hother).1
  rw [length_append, length_singleton] at hlt
  omega

/-- **The scan finds the last handoff.** By induction on the entries, from their end. -/
theorem scan_starts_at_last (entries : List Entry) :
    StartsAtLast Entry.scanned_handoff entries (scan_window_start entries) := by
  induction entries using List.reverseRecOn with
  | nil => exact ⟨fun index entry hentry => by simp at hentry, .inl rfl⟩
  | append_singleton entries entry ih =>
    rw [scan_window_start_snoc]
    by_cases hhandoff : entry.scanned_handoff = true
    · rw [if_pos hhandoff]
      exact StartsAtLast.of_last entries hhandoff
    · rw [if_neg hhandoff]
      exact ih.append (by simpa using hhandoff)

theorem scanned_handoff_of_typed (htyped : entry.Typed) :
    entry.scanned_handoff = entry.is_handoff := by
  cases entry with
  | entry kind fields => exact htyped.marked_handoff
  | anchor fields anchor_type source_ids => rfl

/-! ## The file -/

/-- The calls on a tape that is saved to one path. -/
inductive TapeCall where
  | append (entry : Entry)
  | handoff (summary_anchor : Entry) (window_start : Option Nat)
  | save_jsonl

/-- A tape and the lines at the path it is saved to, if there is a file. -/
structure SavedTape where
  tape : Tape
  file : Option (List JsonObject)

def SavedTape.perform (saved : SavedTape) : TapeCall → SavedTape
  | .append entry => { saved with tape := saved.tape.append entry }
  | .handoff summary_anchor window_start =>
    { saved with tape := saved.tape.handoff summary_anchor window_start }
  | .save_jsonl =>
    let (tape, file) := saved.tape.save_jsonl saved.file
    ⟨tape, file⟩

def SavedTape.run (saved : SavedTape) (calls : List TapeCall) : SavedTape :=
  calls.foldl SavedTape.perform saved

/-- The entries the tape counts as persisted are the lines of the file. -/
structure SavedTape.InStep (saved : SavedTape) : Prop where
  counted : saved.tape.persisted_count ≤ saved.tape.entries.length
  written : saved.tape.persisted_count = 0
    ∨ saved.file = some (Tape.lines (saved.tape.entries.take saved.tape.persisted_count))

namespace SavedTape

variable {saved : SavedTape}

theorem InStep.save (hstep : saved.InStep) :
    (saved.perform .save_jsonl).file = some (Tape.lines saved.tape.entries) := by
  unfold perform Tape.save_jsonl
  rcases hstep.written with hzero | hfile
  · cases saved.file with
    | none => rfl
    | some old => simp [hzero]
  · by_cases hpersisted : 0 < saved.tape.persisted_count
    · simp only [hfile, if_pos hpersisted, Tape.lines]
      rw [← map_append, take_append_drop]
    · simp only [hfile, if_neg hpersisted]

theorem InStep.grow (hstep : saved.InStep) {tape : Tape} (entry : Entry)
    (hentries : tape.entries = saved.tape.entries ++ [entry])
    (hcount : tape.persisted_count = saved.tape.persisted_count) :
    InStep ⟨tape, saved.file⟩ := by
  constructor
  · show tape.persisted_count ≤ tape.entries.length
    rw [hentries, hcount, length_append]
    have hle := hstep.counted
    omega
  · show tape.persisted_count = 0 ∨ saved.file = some (Tape.lines (tape.entries.take _))
    rw [hentries, hcount, take_append_of_le_length hstep.counted]
    exact hstep.written

theorem InStep.perform (hstep : saved.InStep) (call : TapeCall) : (saved.perform call).InStep := by
  cases call with
  | append entry => exact hstep.grow entry rfl rfl
  | handoff summary_anchor window_start => exact hstep.grow summary_anchor rfl rfl
  | save_jsonl =>
    refine ⟨Nat.le_refl _, .inr ?_⟩
    rw [hstep.save]
    show _ = some (Tape.lines (saved.tape.entries.take saved.tape.entries.length))
    rw [take_length]

theorem InStep.run (hstep : saved.InStep) (calls : List TapeCall) : (saved.run calls).InStep := by
  induction calls generalizing saved with
  | nil => exact hstep
  | cons call rest ih => exact ih (hstep.perform call)

theorem fresh_in_step (tape_id : String) (file : Option (List JsonObject)) :
    InStep ⟨{ tape_id }, file⟩ :=
  ⟨Nat.le_refl 0, .inl rfl⟩

end SavedTape

/-! ## The reload -/

/-- `load_jsonl` of the lines gives the tape back: its entries, its window and its view. -/
def Reloads (tape : Tape) (lines : List JsonObject) : Prop :=
  ∃ reloaded, Tape.load_jsonl lines tape.tape_id = .ok reloaded
    ∧ reloaded.entries = tape.entries
    ∧ reloaded.window_start = tape.window_start
    ∧ from_tape reloaded = from_tape tape

/-- What a tape must be for its file to tell all of it: every entry carries its own type, and
the window starts at the last handoff anchor. -/
structure Reloadable (tape : Tape) : Prop where
  typed : ∀ entry ∈ tape.entries, entry.Typed
  window : StartsAtLast Entry.is_handoff tape.entries tape.window_start

theorem load_entries_iff (entries : List Entry) :
    (Tape.lines entries).mapM Entry.from_dict = .ok entries ↔ ∀ entry ∈ entries, entry.Typed := by
  unfold Tape.lines
  rw [mapM_eq_ok, forall₂_map_left_iff, forall₂_same]
  exact forall₂_congr (fun entry _ => Entry.from_dict_to_dict_iff entry)

theorem load_jsonl_lines (htyped : ∀ entry ∈ entries, entry.Typed) (tape_id : String) :
    Tape.load_jsonl (Tape.lines entries) tape_id
      = .ok { entries, tape_id, window_start := scan_window_start entries,
              persisted_count := entries.length } := by
  unfold Tape.load_jsonl
  rw [(load_entries_iff entries).mpr htyped]
  rfl

theorem from_tape_congr {left right : Tape} (hentries : left.entries = right.entries)
    (hid : left.tape_id = right.tape_id) (hwindow : left.window_start = right.window_start) :
    from_tape left = from_tape right := by
  have hvisible : visible_entries left = visible_entries right := by
    unfold visible_entries Tape.windowed_entries
    rw [hentries, hwindow]
  unfold from_tape
  rw [hvisible, hid, hwindow]

theorem scan_of_typed (htyped : ∀ entry ∈ entries, entry.Typed) :
    StartsAtLast Entry.is_handoff entries (scan_window_start entries) := by
  have hscan := scan_starts_at_last entries
  constructor
  · intro index entry hentry hhandoff
    refine hscan.last index entry hentry ?_
    rw [scanned_handoff_of_typed (htyped entry (mem_of_getElem? hentry))]
    exact hhandoff
  · rcases hscan.here with hzero | ⟨entry, hentry, hscanned⟩
    · exact .inl hzero
    · rw [scanned_handoff_of_typed (htyped entry (mem_of_getElem? hentry))] at hscanned
      exact .inr ⟨entry, hentry, hscanned⟩

theorem reloads_lines_iff (tape : Tape) : Reloads tape (Tape.lines tape.entries) ↔ Reloadable tape := by
  constructor
  · rintro ⟨reloaded, hload, hentries, hwindow, -⟩
    have htyped : ∀ entry ∈ tape.entries, entry.Typed := by
      unfold Tape.load_jsonl at hload
      obtain ⟨entries, hmap, hreloaded⟩ := bind_eq_ok.mp hload
      rw [pure_eq_ok] at hreloaded
      subst hreloaded
      rw [← load_entries_iff, hmap]
      exact congrArg Except.ok hentries
    rw [load_jsonl_lines htyped] at hload
    cases hload
    refine ⟨htyped, ?_⟩
    rw [← hwindow]
    exact scan_of_typed htyped
  · rintro ⟨htyped, hstart⟩
    have hwindow := (scan_of_typed htyped).unique hstart
    exact ⟨_, load_jsonl_lines htyped tape.tape_id, rfl, hwindow,
      from_tape_congr rfl rfl hwindow⟩

theorem SavedTape.InStep.reloads_iff {saved : SavedTape} (hstep : saved.InStep) :
    (∃ lines, (saved.perform .save_jsonl).file = some lines ∧ Reloads saved.tape lines)
      ↔ Reloadable saved.tape := by
  rw [← reloads_lines_iff, hstep.save]
  constructor
  · rintro ⟨lines, hlines, hreloads⟩
    cases hlines
    exact hreloads
  · exact fun hreloads => ⟨_, rfl, hreloads⟩

/-- **A saved tape comes back from its file exactly when the file tells all of it.** Whatever was
at the path before and whatever calls were made on a fresh tape, the tape that is loaded after
a save has the same entries, the same window and the same view if and only if every entry
carries its own type and the window starts at the last handoff anchor. -/
theorem tape_reload_iff (tape_id : String) (file : Option (List JsonObject))
    (calls : List TapeCall) :
    (∃ lines, ((SavedTape.run ⟨{ tape_id }, file⟩ calls).perform .save_jsonl).file = some lines
        ∧ Reloads (SavedTape.run ⟨{ tape_id }, file⟩ calls).tape lines)
      ↔ Reloadable (SavedTape.run ⟨{ tape_id }, file⟩ calls).tape :=
  ((SavedTape.fresh_in_step tape_id file).run calls).reloads_iff

/-- Two messages, and the window advanced past the first the way a context window is: the
anchor goes to the end, the window starts at the second message. -/
def advanced_window : List TapeCall :=
  [.append (.entry "message" ⟨[("role", .str "user")], "m0", 0, []⟩),
   .append (.entry "message" ⟨[("role", .str "assistant")], "m1", 1, []⟩),
   .handoff (.anchor ⟨[("content", .str "summary")], "a", 2, []⟩ "handoff" ["m0"]) (some 1)]

/-- The second message is inside the window before the save and outside it after the load. -/
theorem advanced_window_not_reloaded : ¬ ∃ lines,
      ((SavedTape.run ⟨{ tape_id := "t" }, none⟩ advanced_window).perform .save_jsonl).file
          = some lines
        ∧ Reloads (SavedTape.run ⟨{ tape_id := "t" }, none⟩ advanced_window).tape lines := by
  rw [((SavedTape.fresh_in_step "t" none).run advanced_window).reloads_iff]
  rintro ⟨-, hwindow⟩
  have hle := hwindow.last 2
    (.anchor ⟨[("content", .str "summary")], "a", 2, []⟩ "handoff" ["m0"]) rfl rfl
  have hstart : (SavedTape.run ⟨{ tape_id := "t" }, none⟩ advanced_window).tape.window_start = 1 :=
    rfl
  omega

/-! ## Handoffs that start the window at their anchor -/

end CodingAgentLoop
