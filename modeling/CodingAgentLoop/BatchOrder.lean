/-
When the batches keep the order of the calls.

A write clashes with every other write, and a read only with a write of its path; so a write that
was left for a later batch can be overtaken by a read of its path, and by nothing else. `Placed` is
where a call runs, with the two facts about greedy groups that every argument here is made of: calls
of one batch can run in parallel (`Placed.together`), and a call that is not in the first batch meets
an earlier call that it clashes with in each batch before its own (`Placed.crowded`).
-/
import CodingAgentLoop.ParallelExecutor

namespace CodingAgentLoop.ParallelExecutor

open Lib List

/-! ## Where a call runs -/

/-- `i` is the place of `call` in the list, and batch `n` runs it. -/
def Placed (tool_calls : List ToolCallDict) (n i : Nat) (call : ToolCallDict) : Prop :=
  ∃ batch, (group_by_dependencies tool_calls)[n]? = some batch ∧ (i, call) ∈ batch

variable {tool_calls : List ToolCallDict}

theorem mem_enumerate {i : Nat} {call : ToolCallDict} :
    (i, call) ∈ enumerate tool_calls ↔ tool_calls[i]? = some call := by
  unfold enumerate
  rw [mem_mapIdx]
  constructor
  · rintro ⟨k, hk, heq⟩
    obtain ⟨rfl, rfl⟩ := Prod.mk.inj heq
    exact List.getElem?_eq_getElem hk
  · intro h
    obtain ⟨hi, rfl⟩ := List.getElem?_eq_some_iff.mp h
    exact ⟨i, hi, rfl⟩

theorem enumerate_ordered : (enumerate tool_calls).Pairwise (fun x y => x.1 < y.1) := by
  unfold enumerate
  rw [pairwise_iff_getElem]
  intro i j hi hj hij
  simpa using hij

theorem enumerate_fuel : (enumerate tool_calls).length ≤ tool_calls.length := by
  simp [enumerate]

theorem enumerate_nodup : (enumerate tool_calls).Nodup :=
  enumerate_ordered.imp fun hlt heq => by
    rw [heq] at hlt
    omega

namespace Placed

variable {m n i j : Nat} {call call' : ToolCallDict}

theorem of_call (h : tool_calls[i]? = some call) : ∃ n, Placed tool_calls n i call := by
  have hmem : (i, call) ∈ (group_by_dependencies tool_calls).flatten :=
    (FirstFit.groups_perm enumerate_fuel).mem_iff.mpr (mem_enumerate.mpr h)
  obtain ⟨batch, hbatch, hmem⟩ := mem_flatten.mp hmem
  obtain ⟨n, hn⟩ := List.getElem?_of_mem hbatch
  exact ⟨n, batch, hn, hmem⟩

theorem call_eq (h : Placed tool_calls n i call) : tool_calls[i]? = some call := by
  obtain ⟨batch, hbatch, hmem⟩ := h
  have hflat : (i, call) ∈ (group_by_dependencies tool_calls).flatten :=
    mem_flatten.mpr ⟨batch, mem_of_getElem? hbatch, hmem⟩
  exact mem_enumerate.mp ((FirstFit.groups_perm enumerate_fuel).mem_iff.mp hflat)

theorem unique (h : Placed tool_calls m i call) (h' : Placed tool_calls n i call') : m = n := by
  obtain rfl := Option.some.inj (h.call_eq.symm.trans h'.call_eq)
  obtain ⟨batch, hbatch, hmem⟩ := h
  obtain ⟨batch', hbatch', hmem'⟩ := h'
  exact FirstFit.groups_disjoint enumerate_fuel enumerate_nodup hbatch hbatch' hmem hmem'

theorem together (h : Placed tool_calls n i call) (h' : Placed tool_calls n j call') (hlt : i < j) :
    can_run_in_parallel call call' = true := by
  obtain ⟨batch, hbatch, hmem⟩ := h
  obtain ⟨batch', hbatch', hmem'⟩ := h'
  obtain rfl := Option.some.inj (hbatch.symm.trans hbatch')
  have hpair := FirstFit.groups_compatible enumerate_ordered (mem_of_getElem? hbatch)
  rw [pairwise_iff_getElem] at hpair
  obtain ⟨a, ha, hcall⟩ := getElem_of_mem hmem
  obtain ⟨b, hb, hcall'⟩ := getElem_of_mem hmem'
  -- the batch is in the order of the list
  rcases Nat.lt_trichotomy a b with hab | rfl | hab
  · have hfits := (hpair a b ha hb hab).2
    rwa [hcall, hcall'] at hfits
  · have hsame := congrArg Prod.fst (hcall.symm.trans hcall')
    simp only at hsame
    omega
  · have hbefore := (hpair b a hb ha hab).1
    rw [hcall, hcall'] at hbefore
    simp only at hbefore
    omega

theorem crowded (h : Placed tool_calls n i call) (hlt : m < n) :
    ∃ k call', k < i ∧ Placed tool_calls m k call' ∧ can_run_in_parallel call' call = false := by
  obtain ⟨batch, hbatch, hmem⟩ := h
  obtain ⟨hn, -⟩ := List.getElem?_eq_some_iff.mp hbatch
  have hm : m < (group_by_dependencies tool_calls).length := hlt.trans hn
  obtain ⟨⟨k, call'⟩, hmem', hbefore, hfits⟩ := FirstFit.groups_crowded enumerate_fuel
    enumerate_ordered hlt (List.getElem?_eq_getElem hm) hbatch hmem
  exact ⟨k, call', hbefore, ⟨_, List.getElem?_eq_getElem hm, hmem'⟩, hfits⟩

end Placed

/-! ## The order of the calls -/

/-- Both calls are file tools on one path, and one of them writes. -/
def Depends (call call' : ToolCallDict) : Prop :=
  (∃ path, call.path = .str path ∧ call'.path = .str path)
    ∧ (call.is_write = true ∨ call'.is_write = true)

section

variable (tool_calls : List ToolCallDict)

/-- Of two calls that depend on each other, the earlier is run by an earlier batch. -/
def KeepsOrder : Prop :=
  ∀ i j call call', i < j → tool_calls[i]? = some call → tool_calls[j]? = some call' →
    Depends call call' →
    ∃ m n, Placed tool_calls m i call ∧ Placed tool_calls n j call' ∧ m < n

/-- Call `i` of the list is a write of `path`. -/
def WritesAt (i : Nat) (path : String) : Prop :=
  ∃ call, tool_calls[i]? = some call ∧ call.is_write = true ∧ call.path = .str path

/-- Call `i` of the list is a read of `path`. -/
def ReadsAt (i : Nat) (path : String) : Prop :=
  ∃ call, tool_calls[i]? = some call ∧ call.is_read = true ∧ call.path = .str path

/-- Call `k` of the list is `call`, a write of something else than `path`. -/
def WritesElsewhere (k : Nat) (call : ToolCallDict) (path : String) : Prop :=
  tool_calls[k]? = some call ∧ call.is_write = true ∧ call.path ≠ .str path

end

/-- Nothing keeps the write of `path` at `i` from a batch before that of a read at `j`. -/
structure WritesInTime (tool_calls : List ToolCallDict) (i j : Nat) (path : String) : Prop where
  unread : ∀ k, k < i → ¬ ReadsAt tool_calls k path
  delayed : ∀ k call, k < i → WritesElsewhere tool_calls k call path →
    ∃ r call', r < k ∧ tool_calls[r]? = some call' ∧ call'.is_read = true
      ∧ can_run_in_parallel call' call = false
  alone : ∀ k call, k < i → WritesElsewhere tool_calls k call path →
    ∀ l, l < j → WritesAt tool_calls l path → l = i

/-- Every write that is followed by a read of its path is in time for it. -/
def ReadsFindTheirWrites (tool_calls : List ToolCallDict) : Prop :=
  ∀ i j path, i < j → WritesAt tool_calls i path → ReadsAt tool_calls j path →
    WritesInTime tool_calls i j path

section Clashes

variable {call call' : ToolCallDict}

theorem writes_clash (h : call.is_write = true) (h' : call'.is_write = true) :
    can_run_in_parallel call call' = false :=
  can_run_in_parallel_eq_false.mpr (Or.inl ⟨h, h'⟩)

theorem read_not_write (h : call.is_read = true) : call.is_write = false := by
  unfold ToolCallDict.is_read at h
  unfold ToolCallDict.is_write
  rw [beq_iff_eq.mp h]
  rfl

variable {path : String}

theorem py_eq_path {value : Json} : (value.py_eq (.str path) = true ↔ value = .str path)
      ∧ ((Json.str path).py_eq value = true ↔ value = .str path) := by
  cases value with
  | str text =>
    rw [Json.py_eq, Json.py_eq, beq_iff_eq, beq_iff_eq, Json.str.injEq]
    exact ⟨Iff.rfl, eq_comm⟩
  | _ => simp [Json.py_eq, Json.number?]

theorem clash_read (hread : call'.is_read = true) (hpath : call'.path = .str path) :
    can_run_in_parallel call call' = false ↔ call.is_write = true ∧ call.path = .str path := by
  rw [can_run_in_parallel_eq_false, hpath, py_eq_path.1, read_not_write hread, hread]
  simp

theorem clash_with_read (hread : call.is_read = true) (hpath : call.path = .str path) :
    can_run_in_parallel call call' = false ↔ call'.is_write = true ∧ call'.path = .str path := by
  rw [can_run_in_parallel_eq_false, hpath, py_eq_path.2, read_not_write hread, hread]
  simp

theorem clash_cases (h : can_run_in_parallel call call' = false) :
    call.is_write = true ∨ call.is_read = true ∧ call.path.py_eq call'.path = true := by
  rw [can_run_in_parallel_eq_false] at h
  rcases h with ⟨hwrites, -⟩ | ⟨⟨hreads, -⟩ | ⟨hwrites, -⟩, hpath⟩
  · exact Or.inl hwrites
  · exact Or.inr ⟨hreads, hpath⟩
  · exact Or.inl hwrites

end Clashes

/-! ## When the order is kept -/

theorem Placed.same_write {n i j : Nat} {call call' : ToolCallDict}
    (h : Placed tool_calls n i call) (h' : Placed tool_calls n j call')
    (hwrite : call.is_write = true) (hwrite' : call'.is_write = true) : i = j := by
  rcases Nat.lt_trichotomy i j with hlt | heq | hlt
  · have hfits := h.together h' hlt
    rw [writes_clash hwrite hwrite'] at hfits
    cases hfits
  · exact heq
  · have hfits := h'.together h hlt
    rw [writes_clash hwrite' hwrite] at hfits
    cases hfits

theorem Placed.read_apart {n i j : Nat} {read write : ToolCallDict} {path : String}
    (h : Placed tool_calls n i read) (h' : Placed tool_calls n j write)
    (hread : read.is_read = true) (hpath : read.path = .str path)
    (hwrite : write.is_write = true) : write.path ≠ .str path := by
  intro hpath'
  have hne : i ≠ j := by
    rintro rfl
    obtain rfl := Option.some.inj (h.call_eq.symm.trans h'.call_eq)
    rw [read_not_write hread] at hwrite
    cases hwrite
  rcases Nat.lt_or_gt_of_ne hne with hlt | hlt
  · have hfits := h.together h' hlt
    rw [(clash_with_read hread hpath).mpr ⟨hwrite, hpath'⟩] at hfits
    cases hfits
  · have hfits := h'.together h hlt
    rw [(clash_read hread hpath).mpr ⟨hwrite, hpath'⟩] at hfits
    cases hfits

section Sufficient

variable {i j m n : Nat} {call call' : ToolCallDict} {path : String}

theorem write_before_write (hlt : i < j) (h : Placed tool_calls m i call)
    (h' : Placed tool_calls n j call') (hwrite : call.is_write = true)
    (hwrite' : call'.is_write = true) (hpath : call.path = .str path)
    (hpath' : call'.path = .str path) : m < n := by
  by_contra hnot
  have hne : m ≠ n := by
    rintro rfl
    have := h.same_write h' hwrite hwrite'
    omega
  obtain ⟨k, other, hk, hother, hclash⟩ := h.crowded (show n < m by omega)
  rcases clash_cases hclash with hwrites | ⟨hreads, hsame⟩
  · have := hother.same_write h' hwrites hwrite'
    omega
  · rw [hpath, py_eq_path.1] at hsame
    exact hother.read_apart h' hreads hsame hwrite' hpath'

theorem read_before_write (hlt : i < j) (h : Placed tool_calls m i call)
    (h' : Placed tool_calls n j call') (hread : call.is_read = true)
    (hwrite' : call'.is_write = true) (hpath : call.path = .str path)
    (hpath' : call'.path = .str path) : m < n := by
  by_contra hnot
  have hne : m ≠ n := by
    rintro rfl
    exact h.read_apart h' hread hpath hwrite' hpath'
  obtain ⟨k, other, hk, hother, hclash⟩ := h.crowded (show n < m by omega)
  have := hother.same_write h' ((clash_read hread hpath).mp hclash).1 hwrite'
  omega

theorem write_before_read (hlt : i < j) (h : Placed tool_calls m i call)
    (h' : Placed tool_calls n j call') (hwrite : call.is_write = true)
    (hread' : call'.is_read = true) (hpath : call.path = .str path)
    (hpath' : call'.path = .str path) (hintime : WritesInTime tool_calls i j path) : m < n := by
  by_contra hnot
  have hne : m ≠ n := by
    rintro rfl
    exact h'.read_apart h hread' hpath' hwrite hpath
  -- a call that keeps the write out of a batch is a write of something else
  have hkept : ∀ {k b : Nat} {other : ToolCallDict}, k < i → Placed tool_calls b k other →
      can_run_in_parallel other call = false → other.path ≠ .str path →
      WritesElsewhere tool_calls k other path := by
    intro k b other hk hother hclash hapart
    rcases clash_cases hclash with hwrites | ⟨hreads, hsame⟩
    · exact ⟨hother.call_eq, hwrites, hapart⟩
    · rw [hpath, py_eq_path.1] at hsame
      exact absurd hsame hapart
  have hreads : ∀ {k b : Nat} {other : ToolCallDict}, k < i → Placed tool_calls b k other →
      can_run_in_parallel other call = false → other.path = .str path → other.is_write = true := by
    intro k b other hk hother hclash hsame
    rcases clash_cases hclash with hwrites | ⟨hreads, -⟩
    · exact hwrites
    · exact absurd ⟨other, hother.call_eq, hreads, hsame⟩ (hintime.unread k hk)
  obtain ⟨k, other, hk, hother, hclash⟩ := h.crowded (show n < m by omega)
  have hapart : other.path ≠ .str path := by
    intro hsame
    exact h'.read_apart hother hread' hpath' (hreads hk hother hclash hsame) hsame
  have helsewhere := hkept hk hother hclash hapart
  -- so it is the path's only write, and the first batch keeps it out by another such write
  obtain ⟨k₀, other₀, hk₀, hother₀, hclash₀⟩ := h.crowded (show 0 < m by omega)
  have hapart₀ : other₀.path ≠ .str path := by
    intro hsame
    have := hintime.alone k other hk helsewhere k₀ (by omega)
      ⟨other₀, hother₀.call_eq, hreads hk₀ hother₀ hclash₀ hsame, hsame⟩
    omega
  have helsewhere₀ := hkept hk₀ hother₀ hclash₀ hapart₀
  obtain ⟨r, read, hr, hcall, hreads_r, hclash_r⟩ := hintime.delayed k₀ other₀ hk₀ helsewhere₀
  obtain ⟨b, hread⟩ := Placed.of_call hcall
  cases b with
  | zero =>
    have hfits := hread.together hother₀ hr
    rw [hclash_r] at hfits
    cases hfits
  | succ b =>
    obtain ⟨w, write, hw, hplaced, hclash_w⟩ := hread.crowded (Nat.succ_pos b)
    rcases can_run_in_parallel_eq_false.mp hclash_w with ⟨hwrites, -⟩ | ⟨⟨-, hwrites⟩ | ⟨hwrites, -⟩, -⟩
    · have := hplaced.same_write hother₀ hwrites helsewhere₀.2.1
      omega
    · rw [read_not_write hreads_r] at hwrites
      cases hwrites
    · have := hplaced.same_write hother₀ hwrites helsewhere₀.2.1
      omega

end Sufficient

section Necessary

variable {i j k l m n b : Nat} {path : String}

theorem KeepsOrder.lt (h : KeepsOrder tool_calls) {call call' : ToolCallDict} (hlt : i < j)
    (hm : Placed tool_calls m i call) (hn : Placed tool_calls n j call')
    (hpath : call.path = .str path) (hpath' : call'.path = .str path)
    (hwrites : call.is_write = true ∨ call'.is_write = true) : m < n := by
  obtain ⟨m', n', hm', hn', hlt'⟩ :=
    h i j call call' hlt hm.call_eq hn.call_eq ⟨⟨path, hpath, hpath'⟩, hwrites⟩
  rwa [hm.unique hm', hn.unique hn']

theorem KeepsOrder.unread (h : KeepsOrder tool_calls) (hij : i < j)
    (hi : WritesAt tool_calls i path) (hj : ReadsAt tool_calls j path) (hki : k < i) :
    ¬ ReadsAt tool_calls k path := by
  rintro ⟨early, hk, hread_k, hpath_k⟩
  obtain ⟨write, hi, hwrite, hpath⟩ := hi
  obtain ⟨read, hj, hread, hpath_j⟩ := hj
  obtain ⟨a, ha⟩ := Placed.of_call hk
  obtain ⟨m, hm⟩ := Placed.of_call hi
  obtain ⟨n, hn⟩ := Placed.of_call hj
  have ham : a < m := h.lt hki ha hm hpath_k hpath (Or.inr hwrite)
  have hmn : m < n := h.lt hij hm hn hpath hpath_j (Or.inl hwrite)
  -- the batch of the first read would hold a write that keeps the second one out
  obtain ⟨w, other, -, hother, hclash⟩ := hn.crowded (ham.trans hmn)
  obtain ⟨hwrites, hsame⟩ := (clash_read hread hpath_j).mp hclash
  exact ha.read_apart hother hread_k hpath_k hwrites hsame

theorem KeepsOrder.elsewhere_late {call read : ToolCallDict} (hk : Placed tool_calls b k call)
    (hwrite : call.is_write = true) (hapart : call.path ≠ .str path)
    (hn : Placed tool_calls n j read) (hread : read.is_read = true) (hpath : read.path = .str path) :
    n ≤ b := by
  by_contra hnot
  obtain ⟨w, other, -, hother, hclash⟩ := hn.crowded (show b < n by omega)
  obtain ⟨hwrites, hsame⟩ := (clash_read hread hpath).mp hclash
  obtain rfl := hother.same_write hk hwrites hwrite
  obtain rfl := Option.some.inj (hother.call_eq.symm.trans hk.call_eq)
  exact hapart hsame

theorem read_in_the_way {call write : ToolCallDict} (hki : k < i) (hk : Placed tool_calls b k call)
    (hm : Placed tool_calls m i write) (hwrite : write.is_write = true) (hlt : m < b) :
    ∃ r other, r < k ∧ Placed tool_calls m r other ∧ other.is_read = true
      ∧ can_run_in_parallel other call = false := by
  obtain ⟨r, other, hr, hother, hclash⟩ := hk.crowded hlt
  rcases clash_cases hclash with hwrites | ⟨hreads, -⟩
  · have := hother.same_write hm hwrites hwrite
    omega
  · exact ⟨r, other, hr, hother, hreads, hclash⟩

theorem write_before_late_read {write read : ToolCallDict} {r : Nat} (hm : Placed tool_calls m i write)
    (hwrite : write.is_write = true) (hn : Placed tool_calls n r read) (hread : read.is_read = true)
    (hlt : m < n) : i < r ∧ can_run_in_parallel write read = false := by
  obtain ⟨w, other, hw, hother, hclash⟩ := hn.crowded hlt
  have hwrites : other.is_write = true := by
    rcases can_run_in_parallel_eq_false.mp hclash with ⟨hwrites, -⟩ | ⟨⟨-, hreads⟩ | ⟨hwrites, -⟩, -⟩
    · exact hwrites
    · rw [read_not_write hread] at hreads
      cases hreads
    · exact hwrites
  obtain rfl := hother.same_write hm hwrites hwrite
  obtain rfl := Option.some.inj (hother.call_eq.symm.trans hm.call_eq)
  exact ⟨hw, hclash⟩

theorem KeepsOrder.in_time (h : KeepsOrder tool_calls) (hij : i < j)
    (hi : WritesAt tool_calls i path) (hj : ReadsAt tool_calls j path) :
    WritesInTime tool_calls i j path := by
  have hunread : ∀ k, k < i → ¬ ReadsAt tool_calls k path := fun k hk => h.unread hij hi hj hk
  obtain ⟨write, hi, hwrite, hpath⟩ := hi
  obtain ⟨read, hj, hread, hpath_j⟩ := hj
  obtain ⟨m, hm⟩ := Placed.of_call hi
  obtain ⟨n, hn⟩ := Placed.of_call hj
  have hmn : m < n := h.lt hij hm hn hpath hpath_j (Or.inl hwrite)
  refine ⟨hunread, ?_, ?_⟩
  · rintro k call hki ⟨hk, hwrite_k, hapart⟩
    obtain ⟨b, hb⟩ := Placed.of_call hk
    have hnb := KeepsOrder.elsewhere_late hb hwrite_k hapart hn hread hpath_j
    obtain ⟨r, other, hr, hother, hreads, hclash⟩ :=
      read_in_the_way hki hb hm hwrite (by omega)
    exact ⟨r, other, hr, hother.call_eq, hreads, hclash⟩
  · rintro k call hki ⟨hk, hwrite_k, hapart⟩ l hlj ⟨other, hl, hwrite_l, hpath_l⟩
    obtain ⟨b, hb⟩ := Placed.of_call hk
    obtain ⟨a, ha⟩ := Placed.of_call hl
    have hnb := KeepsOrder.elsewhere_late hb hwrite_k hapart hn hread hpath_j
    have han : a < n := h.lt hlj ha hn hpath_l hpath_j (Or.inl hwrite_l)
    by_contra hne
    have hle : l ≠ k := by
      rintro rfl
      obtain rfl := Option.some.inj (hk.symm.trans hl)
      exact hapart hpath_l
    obtain ⟨u, read_u, hu, hread_u, hreads_u, hclash_u⟩ :=
      read_in_the_way hki hb hm hwrite (by omega)
    rcases Nat.lt_or_gt_of_ne hle with hlk | hkl
    · -- the other write of the path is first of all, and its batch does not hold `u`
      have ham : a < m := h.lt (by omega) ha hm hpath_l hpath (Or.inl hwrite_l)
      obtain ⟨-, hclash⟩ := write_before_late_read ha hwrite_l hread_u hreads_u ham
      have hpath_u : read_u.path = .str path := by
        rcases can_run_in_parallel_eq_false.mp hclash with ⟨-, hwrite_u⟩ | ⟨-, hsame⟩
        · rw [read_not_write hreads_u] at hwrite_u
          cases hwrite_u
        · rwa [hpath_l, py_eq_path.2] at hsame
      exact hapart ((clash_with_read hreads_u hpath_u).mp hclash_u).2
    · -- both batches hold a read that keeps the write at `k` out of them
      obtain ⟨v, read_v, hv, hread_v, hreads_v, hclash_v⟩ :=
        read_in_the_way hkl hb ha hwrite_l (by omega)
      have hne_batch : a ≠ m := by
        rintro rfl
        exact hne (ha.same_write hm hwrite_l hwrite)
      rcases Nat.lt_or_gt_of_ne hne_batch with hlt | hlt
      · obtain ⟨hbefore, -⟩ := write_before_late_read ha hwrite_l hread_u hreads_u hlt
        omega
      · obtain ⟨hbefore, -⟩ := write_before_late_read hm hwrite hread_v hreads_v hlt
        omega

end Necessary

theorem is_read_of_path {call : ToolCallDict} {path : String} (hpath : call.path = .str path) :
    call.is_read = true ∨ call.is_write = true := by
  unfold ToolCallDict.path get_file_path at hpath
  unfold ToolCallDict.is_read ToolCallDict.is_write
  by_cases hfile : call.name ∈ file_tools
  · simp only [file_tools, mem_cons, not_mem_nil, or_false] at hfile
    rw [Bool.or_eq_true, beq_iff_eq, beq_iff_eq, beq_iff_eq]
    exact hfile
  · rw [if_neg hfile] at hpath
    cases hpath

theorem keeps_order_iff : KeepsOrder tool_calls ↔ ReadsFindTheirWrites tool_calls := by
  constructor
  · intro h i j path hij hi hj
    exact h.in_time hij hi hj
  · rintro h i j call call' hij hi hj ⟨⟨path, hpath, hpath'⟩, hwrites⟩
    obtain ⟨m, hm⟩ := Placed.of_call hi
    obtain ⟨n, hn⟩ := Placed.of_call hj
    refine ⟨m, n, hm, hn, ?_⟩
    rcases is_read_of_path hpath with hread | hwrite
    · have hwrite' : call'.is_write = true := by
        rw [read_not_write hread] at hwrites
        exact hwrites.resolve_left (by simp)
      exact read_before_write hij hm hn hread hwrite' hpath hpath'
    · rcases is_read_of_path hpath' with hread' | hwrite'
      · exact write_before_read hij hm hn hwrite hread' hpath hpath'
          (h i j path hij ⟨call, hi, hwrite, hpath⟩ ⟨call', hj, hread', hpath'⟩)
      · exact write_before_write hij hm hn hwrite hwrite' hpath hpath'

/-! ## Results and files -/

section Meaning

variable {ν : Type} {dumps : Json → String} {execute_fn : ExecuteFn ν}

def ToolCallDict.own_path (call : ToolCallDict) : Option String := call.path.str?

def OwnPathOnly (execute_fn : ExecuteFn ν) : Prop :=
  Reordering.Footprint ToolCallDict.own_path ToolCallDict.is_write execute_fn

def RunsBatches (tool_calls : List ToolCallDict) (order : List (List (Nat × ToolCallDict))) : Prop :=
  List.Forall₂ List.Perm (group_by_dependencies tool_calls) order

/-- Calls that depend on each other are run by batches in their order, and whenever each tool keeps
to its own path, the results and the files are those of the calls one by one. -/
def KeepsMeaning (tool_calls : List ToolCallDict) : Prop :=
  KeepsOrder tool_calls ∧
    ∀ (ν : Type) (dumps : Json → String) (execute_fn : ExecuteFn ν), OwnPathOnly execute_fn →
      ∀ order, RunsBatches tool_calls order → ∀ files,
        execute_batch dumps execute_fn order tool_calls files
          = one_by_one dumps execute_fn tool_calls files

theorem run_batches_eq (order : List (List (Nat × ToolCallDict)))
    (state : (Nat → Option Json) × Files ν) :
    run_batches dumps execute_fn order state
      = Reordering.run (Reordering.recorded (run_one dumps execute_fn)) order.flatten state := by
  induction order generalizing state with
  | nil => rfl
  | cons batch order ih =>
    rw [run_batches, flatten_cons, Reordering.run_append]
    congr 1
    funext state'
    exact ih state'

/-- The calls in their order, numbered from `k`, leave their results under their numbers. -/
theorem run_numbered (calls : List ToolCallDict) (k : Nat) (results : Nat → Option Json)
    (files : Files ν) (hfree : ∀ i, k ≤ i → results i = none) :
    Reordering.run (Reordering.recorded (run_one dumps execute_fn))
        (calls.mapIdx fun i call => (i + k, call)) (results, files)
      = (one_by_one dumps execute_fn calls files).map fun done =>
          (fun i => if i < k then results i else done.1[i - k]?, done.2) := by
  induction calls generalizing k results files with
  | nil =>
    have hsame : (fun i => if i < k then results i else none) = results := by
      funext i
      by_cases hi : i < k
      · rw [if_pos hi]
      · rw [if_neg hi, hfree i (by omega)]
    simp [one_by_one, Reordering.run, hsame]
  | cons call calls ih =>
    rw [mapIdx_cons, Reordering.run, one_by_one, Option.map_bind, Reordering.recorded]
    simp only [Nat.zero_add]
    rw [Option.bind_map]
    congr 1
    funext done
    have hfree' : ∀ i, k + 1 ≤ i → Function.update results k (some done.1) i = none := by
      intro i hi
      rw [Function.update_of_ne (by omega)]
      exact hfree i (by omega)
    have hrest := ih (k + 1) (Function.update results k (some done.1)) done.2 hfree'
    have hshift : (fun i call => ((i + 1) + k, call))
        = (fun i (call : ToolCallDict) => (i + (k + 1), call)) := by
      funext i call
      rw [Nat.add_assoc, Nat.add_comm 1 k]
    simp only [Function.comp_apply, hshift]
    rw [hrest, Option.map_map]
    congr 1
    funext rest
    have hresults : (fun i => if i < k + 1 then Function.update results k (some done.1) i
        else rest.1[i - (k + 1)]?)
        = fun i => if i < k then results i else (done.1 :: rest.1)[i - k]? := by
      funext i
      rcases Nat.lt_trichotomy i k with hlt | rfl | hlt
      · rw [if_pos (by omega), if_pos hlt, Function.update_of_ne (by omega)]
      · rw [if_pos (by omega), if_neg (by omega), Function.update_self]
        simp
      · rw [if_neg (by omega), if_neg (by omega)]
        obtain ⟨d, rfl⟩ : ∃ d, i = k + 1 + d := ⟨i - (k + 1), by omega⟩
        rw [show k + 1 + d - (k + 1) = d by omega, show k + 1 + d - k = d + 1 by omega,
          List.getElem?_cons_succ]
    simp only [Function.comp_apply]
    rw [hresults]

theorem one_by_one_length {calls : List ToolCallDict} {files : Files ν}
    {done : List Json × Files ν} (h : one_by_one dumps execute_fn calls files = some done) :
    done.1.length = calls.length := by
  induction calls generalizing files done with
  | nil =>
    cases h
    rfl
  | cons call calls ih =>
    rw [one_by_one, Option.bind_eq_some_iff] at h
    obtain ⟨first, -, h⟩ := h
    obtain ⟨rest, hrest, rfl⟩ := Option.map_eq_some_iff.mp h
    rw [length_cons, length_cons, ih hrest]

theorem range'_lookup (earlier results : List Json) :
    (List.range' earlier.length results.length).mapM (fun i => (earlier ++ results)[i]?)
      = some results := by
  induction results generalizing earlier with
  | nil => rfl
  | cons result results ih =>
    have hrest := ih (earlier ++ [result])
    rw [append_assoc, singleton_append, length_append] at hrest
    rw [length_cons, range'_succ, mapM_cons, List.getElem?_append_right (by omega)]
    simp only [Nat.sub_self, List.getElem?_cons_zero, Option.pure_def, Option.bind_eq_bind,
      Option.bind_some]
    rw [show earlier.length + 1 = earlier.length + [result].length by rfl, hrest]
    rfl

theorem results_in_order_eq (results : List Json) :
    results_in_order results.length (fun i => results[i]?) = some results := by
  unfold results_in_order
  rw [range_eq_range']
  exact range'_lookup [] results

variable {order : List (List (Nat × ToolCallDict))}

theorem RunsBatches.placed (h : RunsBatches tool_calls order) {n i : Nat}
    {batch : List (Nat × ToolCallDict)} {call : ToolCallDict} (hbatch : order[n]? = some batch)
    (hmem : (i, call) ∈ batch) :
    Placed tool_calls n i call := by
  obtain ⟨hlength, hget⟩ := forall₂_iff_get.mp h
  obtain ⟨hn, rfl⟩ := List.getElem?_eq_some_iff.mp hbatch
  have hn' : n < (group_by_dependencies tool_calls).length := by omega
  exact ⟨_, List.getElem?_eq_getElem hn', (hget n hn' hn).mem_iff.mpr hmem⟩

theorem RunsBatches.perm (h : RunsBatches tool_calls order) :
    (enumerate tool_calls).Perm order.flatten := by
  have hflat : (group_by_dependencies tool_calls).flatten.Perm order.flatten := by
    unfold RunsBatches at h
    generalize group_by_dependencies tool_calls = batches at h
    induction h with
    | nil => exact List.Perm.refl _
    | cons hbatch _ ih =>
      rw [flatten_cons, flatten_cons]
      exact hbatch.append ih
  exact (FirstFit.groups_perm enumerate_fuel).symm.trans hflat

theorem KeepsOrder.overtaken (h : KeepsOrder tool_calls) {m n i j : Nat} {call call' : ToolCallDict}
    (hm : Placed tool_calls m i call) (hn : Placed tool_calls n j call') (hlt : j < i) (hle : m ≤ n) :
    ¬ Reordering.Clash ToolCallDict.own_path ToolCallDict.is_write call call' := by
  rintro ⟨⟨path, hpath, hpath'⟩, hwrites⟩
  have hlate : n < m := h.lt hlt hn hm (Json.str?_eq_some.mp hpath') (Json.str?_eq_some.mp hpath)
    hwrites.symm
  omega

theorem KeepsOrder.same_state (h : KeepsOrder tool_calls) (howner : OwnPathOnly execute_fn)
    (hruns : RunsBatches tool_calls order) (state : (Nat → Option Json) × Files ν) :
    Reordering.run (Reordering.recorded (run_one dumps execute_fn)) (enumerate tool_calls) state
      = Reordering.run (Reordering.recorded (run_one dumps execute_fn)) order.flatten state := by
  have hfoot : Reordering.Footprint ToolCallDict.own_path ToolCallDict.is_write
      (run_one dumps execute_fn) := howner.map_result (result_of dumps)
  have hcommute : ∀ {m n : Nat} {batch batch' : List (Nat × ToolCallDict)}, m ≤ n →
      order[m]? = some batch → order[n]? = some batch' → ∀ x ∈ batch, ∀ y ∈ batch', y.1 < x.1 →
      Reordering.Commute (Reordering.recorded (run_one dumps execute_fn)) x y := by
    intro m n batch batch' hle hbatch hbatch' x hx y hy hlt
    apply hfoot.commute (by omega)
    exact h.overtaken (hruns.placed hbatch hx) (hruns.placed hbatch' hy) hlt hle
  apply Reordering.run_reordered hruns.perm enumerate_ordered
  rw [pairwise_flatten]
  constructor
  · intro batch hbatch
    obtain ⟨n, hn⟩ := List.getElem?_of_mem hbatch
    rw [pairwise_iff_getElem]
    intro a b ha hb _ hlt
    exact hcommute (Nat.le_refl n) hn hn _ (getElem_mem ha) _ (getElem_mem hb) hlt
  · rw [pairwise_iff_getElem]
    intro m n hm hn hmn x hx y hy hlt
    exact hcommute (Nat.le_of_lt hmn) (List.getElem?_eq_getElem hm) (List.getElem?_eq_getElem hn)
      x hx y hy hlt

theorem KeepsOrder.execute_batch_eq (h : KeepsOrder tool_calls) (howner : OwnPathOnly execute_fn)
    (hruns : RunsBatches tool_calls order) (files : Files ν) :
    execute_batch dumps execute_fn order tool_calls files
      = one_by_one dumps execute_fn tool_calls files := by
  have hnumbered := @run_numbered ν dumps execute_fn tool_calls 0 (fun _ => none) files
    fun _ _ => rfl
  unfold execute_batch
  rw [run_batches_eq, ← h.same_state howner hruns]
  unfold enumerate
  rw [show (Prod.mk : Nat → ToolCallDict → Nat × ToolCallDict) = fun i call => (i + 0, call) from rfl,
    hnumbered, Option.bind_map]
  cases hdone : one_by_one dumps execute_fn tool_calls files with
  | none => rfl
  | some done =>
    have hresults := results_in_order_eq done.1
    rw [one_by_one_length hdone] at hresults
    simp [hresults]

end Meaning

/-- The batches keep the sequential meaning of a list of calls exactly when every write that is
followed by a read of its path is in time for it. -/
theorem keeps_meaning_iff (tool_calls : List ToolCallDict) :
    KeepsMeaning tool_calls ↔ ReadsFindTheirWrites tool_calls := by
  constructor
  · intro h
    exact keeps_order_iff.mp h.1
  · intro h
    have horder := keeps_order_iff.mpr h
    refine ⟨horder, fun ν dumps execute_fn howner order hruns files => ?_⟩
    exact horder.execute_batch_eq howner hruns files

def overtaken_write : List ToolCallDict :=
  [⟨"file_write", [("path", .str "a")]⟩, ⟨"file_write", [("path", .str "b")]⟩,
   ⟨"file_read", [("path", .str "b")]⟩]

/-- The read is run with the first write, before the second. -/
theorem read_overtakes_write : ¬ KeepsMeaning overtaken_write := by
  rintro ⟨h, -⟩
  obtain ⟨m, n, hm, hn, hlt⟩ := h 1 2 _ _ (by decide) rfl rfl ⟨⟨"b", rfl, rfl⟩, Or.inl rfl⟩
  have hread : Placed overtaken_write 0 2 ⟨"file_read", [("path", .str "b")]⟩ :=
    ⟨_, rfl, mem_cons_of_mem _ mem_cons_self⟩
  have := hn.unique hread
  omega

end CodingAgentLoop.ParallelExecutor
