/-
Reading an append-only list by a cursor.

The items of the list carry increasing numbers, and a reader keeps the number of the last one
it took. What it has taken is `upto`, what it has not is `after`, and taking a batch off the
front of `after` moves the cursor to the number of the batch's last item.
-/
import CodingAgentLoop.Lib.History

namespace Lib.Cursor

open List

variable {α : Type} {number : α → Nat} {items batch : List α} {cursor : Nat}

def upto (number : α → Nat) (items : List α) (cursor : Nat) : List α :=
  items.filter (fun item => number item ≤ cursor)

def after (number : α → Nat) (items : List α) (cursor : Nat) : List α :=
  items.filter (fun item => cursor < number item)

/-- The cursor after `batch`. -/
def advanced (number : α → Nat) (batch : List α) (cursor : Nat) : Nat :=
  (batch.getLast?.map number).getD cursor

def Increasing (number : α → Nat) (items : List α) : Prop :=
  items.Pairwise (fun item later => number item < number later)

variable {item : α}

@[simp] theorem mem_upto :
    item ∈ upto number items cursor ↔ item ∈ items ∧ number item ≤ cursor := by
  simp [upto]

@[simp] theorem mem_after :
    item ∈ after number items cursor ↔ item ∈ items ∧ cursor < number item := by
  simp [after]

@[simp] theorem advanced_nil : advanced number [] cursor = cursor := rfl

@[simp] theorem advanced_snoc (item : α) :
    advanced number (batch ++ [item]) cursor = number item := by
  simp [advanced]

theorem Increasing.filter (h : Increasing number items) (p : α → Bool) :
    Increasing number (items.filter p) :=
  List.Pairwise.filter p h

theorem Increasing.nodup (h : Increasing number items) : items.Nodup := by
  refine List.Pairwise.imp ?_ h
  intro item later hlt heq
  rw [heq] at hlt
  exact Nat.lt_irrefl _ hlt

theorem upto_append_after (h : Increasing number items) (cursor : Nat) :
    upto number items cursor ++ after number items cursor = items := by
  induction items with
  | nil => rfl
  | cons item rest ih =>
    obtain ⟨hfirst, hrest⟩ := pairwise_cons.mp h
    by_cases hle : number item ≤ cursor
    · have hnot : ¬ cursor < number item := by omega
      simp only [upto, after, filter_cons, hle, hnot, decide_true, decide_false, if_true,
        cons_append] at ih ⊢
      rw [if_neg (by simp), ih hrest]
    · -- the rest has larger numbers still, so nothing of it was taken
      have hlt : cursor < number item := by omega
      have hnone : upto number (item :: rest) cursor = [] := by
        refine filter_eq_nil_iff.mpr ?_
        intro other hother
        rcases mem_cons.mp hother with rfl | hother
        · simpa using hlt
        · have hnumber := hfirst other hother
          simp only [decide_eq_true_eq]
          omega
      have hall : after number (item :: rest) cursor = item :: rest := by
        refine filter_eq_self.mpr ?_
        intro other hother
        rcases mem_cons.mp hother with rfl | hother
        · simpa using hlt
        · have hnumber := hfirst other hother
          simp only [decide_eq_true_eq]
          omega
      rw [hnone, hall, nil_append]

theorem upto_of_split {before later : List α} (hbefore : ∀ item ∈ before, number item ≤ cursor)
    (hlater : ∀ item ∈ later, cursor < number item) :
    upto number (before ++ later) cursor = before := by
  unfold upto
  rw [filter_append]
  have hkept : before.filter (fun item => decide (number item ≤ cursor)) = before := by
    refine filter_eq_self.mpr ?_
    intro item hitem
    simpa using hbefore item hitem
  have hleft : later.filter (fun item => decide (number item ≤ cursor)) = [] := by
    refine filter_eq_nil_iff.mpr ?_
    intro item hitem
    have := hlater item hitem
    simp only [decide_eq_true_eq]
    omega
  rw [hkept, hleft, append_nil]

/-- **A batch off the front of what was not taken** is added to what was. -/
theorem upto_advanced {later : List α} (h : Increasing number items)
    (hbatch : after number items cursor = batch ++ later) :
    upto number items (advanced number batch cursor) = upto number items cursor ++ batch := by
  rcases eq_nil_or_concat' batch with rfl | ⟨front, last, rfl⟩
  · rw [advanced_nil, append_nil]
  · have hsplit : items = (upto number items cursor ++ (front ++ [last])) ++ later := by
      rw [append_assoc, ← hbatch, upto_append_after h]
    have hordered : Increasing number ((upto number items cursor ++ (front ++ [last])) ++ later) := by
      rw [← hsplit]
      exact h
    have hmem : last ∈ after number items cursor := by
      rw [hbatch]
      simp
    rw [advanced_snoc]
    conv_lhs => rw [hsplit]
    obtain ⟨htaken, -, hcross⟩ := pairwise_append.mp hordered
    refine upto_of_split ?_ ?_
    · intro item hitem
      rcases mem_append.mp hitem with hitem | hitem
      · have hle := (mem_upto.mp hitem).2
        have hlt := (mem_after.mp hmem).2
        omega
      · rcases mem_snoc hitem with hfront | hlast
        · obtain ⟨-, hbatch', -⟩ := pairwise_append.mp htaken
          have hlt := (pairwise_append.mp hbatch').2.2 item hfront last (by simp)
          omega
        · have heq := hlast
          subst heq
          exact Nat.le_refl _
    · intro item hitem
      exact hcross last (by simp) item hitem

theorem upto_filter_snoc (p : α → Bool) (h : cursor < number item) :
    upto number ((items ++ [item]).filter p) cursor = upto number (items.filter p) cursor := by
  unfold upto
  have hnot : ¬ number item ≤ cursor := by omega
  rw [filter_append, filter_append]
  cases hp : p item <;> simp [hp, hnot]

end Lib.Cursor
