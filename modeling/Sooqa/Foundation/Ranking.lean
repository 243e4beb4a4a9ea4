import Mathlib.Data.List.Sort
import Mathlib.Tactic.Common

/-!
Ranked lists: the first elements of a sorted list are those with few ahead of
them, whatever the order they came in; equal neighbors of a sorted list are
merged.
-/
namespace Foundation
namespace Ranking

section Order
variable {α : Type} (before : α → α → Prop) {elements other : List α}

/-- No two elements of a list come before each other. -/
def Strict (elements : List α) : Prop :=
  ∀ x ∈ elements, ∀ y ∈ elements, before x y → before y x → x = y

variable {before}

theorem Strict.perm (strict : Strict before elements) (same : elements.Perm other) :
    Strict before other := by
  intro x hx y hy
  exact strict x (same.mem_iff.mpr hx) y (same.mem_iff.mpr hy)

/-- The order that elements come in is lost when they are sorted. -/
theorem insertionSort_perm [DecidableRel before] [Std.Total before] [IsTrans α before]
    (same : elements.Perm other) (strict : Strict before elements) :
    elements.insertionSort before = other.insertionSort before := by
  have perm := List.perm_insertionSort before elements
  have perm' := List.perm_insertionSort before other
  apply (perm.trans (same.trans perm'.symm)).eq_of_pairwise ?_
    (List.pairwise_insertionSort before elements) (List.pairwise_insertionSort before other)
  intro x y hx hy
  exact strict x (perm.mem_iff.mp hx) y (same.mem_iff.mpr (perm'.mem_iff.mp hy))

end Order

section Selection
variable {α : Type} [DecidableEq α] (before : α → α → Prop) [DecidableRel before]

/-- How many other elements of a list come before one. -/
def ahead (elements : List α) (x : α) : Nat :=
  (elements.filter fun y => decide (before y x ∧ y ≠ x)).length

variable {before} {elements other : List α} {x : α} {count : Nat}

theorem ahead_perm (same : elements.Perm other) :
    ahead before elements x = ahead before other x :=
  (same.filter _).length_eq

theorem mem_take_of_sorted (sorted : elements.Pairwise before) (distinct : elements.Nodup)
    (strict : Strict before elements) :
    x ∈ elements.take count ↔ x ∈ elements ∧ ahead before elements x < count := by
  induction elements generalizing count with
  | nil => simp
  | cons a elements ih =>
    obtain ⟨first, sorted⟩ := List.pairwise_cons.mp sorted
    obtain ⟨fresh, distinct⟩ := List.nodup_cons.mp distinct
    have tail : Strict before elements := fun x hx y hy =>
      strict x (List.mem_cons_of_mem a hx) y (List.mem_cons_of_mem a hy)
    cases count with
    | zero => simp
    | succ count =>
      rw [List.take_succ_cons, List.mem_cons, List.mem_cons, ih sorted distinct tail]
      by_cases head : x = a
      · have none_ahead : ahead before (a :: elements) a = 0 := by
          rw [ahead, List.length_eq_zero_iff, List.filter_eq_nil_iff]
          intro y member
          simp only [decide_eq_true_eq, not_and, not_not]
          intro earlier
          rcases List.mem_cons.mp member with rfl | below
          · rfl
          · exact strict y member a List.mem_cons_self earlier (first y below)
        simp [head, none_ahead]
      · have counted : x ∈ elements → ahead before (a :: elements) x =
            ahead before elements x + 1 := by
          intro member
          have kept : decide (before a x ∧ a ≠ x) = true := by
            simp only [decide_eq_true_eq]
            exact ⟨first x member, fun same => head same.symm⟩
          simp only [ahead, List.filter_cons, kept, if_true, List.length_cons]
        simp only [head, false_or]
        constructor
        · rintro ⟨member, few⟩
          exact ⟨member, by rw [counted member]; omega⟩
        · rintro ⟨member, few⟩
          rw [counted member] at few
          exact ⟨member, by omega⟩

variable [Std.Total before] [IsTrans α before]

/-- The first elements of a sorted list. -/
theorem mem_take_insertionSort (distinct : elements.Nodup) (strict : Strict before elements) :
    x ∈ (elements.insertionSort before).take count ↔
      x ∈ elements ∧ ahead before elements x < count := by
  have perm := List.perm_insertionSort before elements
  rw [mem_take_of_sorted (List.pairwise_insertionSort before elements)
    (perm.nodup_iff.mpr distinct) (strict.perm perm.symm), ahead_perm perm, perm.mem_iff]

end Selection

section Merging
variable {α : Type} [DecidableEq α] {a x : α} {elements : List α}

/-- Equal neighbors are merged. -/
def dedup : List α → List α
  | [] => []
  | [a] => [a]
  | a :: b :: rest => if a = b then dedup (b :: rest) else a :: dedup (b :: rest)

theorem mem_dedup : x ∈ dedup elements ↔ x ∈ elements := by
  induction elements using dedup.induct with
  | case1 => rfl
  | case2 a => rfl
  | case3 b rest ih =>
    rw [dedup, if_pos rfl, ih]
    simp
  | case4 a b rest different ih =>
    rw [dedup, if_neg different, List.mem_cons, ih, List.mem_cons, List.mem_cons, List.mem_cons]

theorem dedup_length_le (elements : List α) : (dedup elements).length ≤ elements.length := by
  induction elements using dedup.induct with
  | case1 => exact Nat.le_refl _
  | case2 a => exact Nat.le_refl _
  | case3 b rest ih =>
    rw [dedup, if_pos rfl]
    exact Nat.le_succ_of_le ih
  | case4 a b rest different ih =>
    rw [dedup, if_neg different]
    exact Nat.succ_le_succ ih

/-- A sorted list increases strictly once its equal neighbors are merged. -/
theorem dedup_strict [PartialOrder α] (sorted : elements.Pairwise (· ≤ ·)) :
    (dedup elements).Pairwise (· < ·) := by
  induction elements using dedup.induct with
  | case1 => exact List.Pairwise.nil
  | case2 a => exact List.pairwise_singleton _ a
  | case3 b rest ih =>
    rw [dedup, if_pos rfl]
    exact ih (List.pairwise_cons.mp sorted).2
  | case4 a b rest different ih =>
    obtain ⟨first, sorted⟩ := List.pairwise_cons.mp sorted
    rw [dedup, if_neg different, List.pairwise_cons]
    refine ⟨?_, ih sorted⟩
    intro c member
    rcases List.mem_cons.mp (mem_dedup.mp member) with rfl | below
    · exact lt_of_le_of_ne (first c List.mem_cons_self) different
    · have step := lt_of_le_of_ne (first b List.mem_cons_self) different
      exact lt_of_lt_of_le step ((List.pairwise_cons.mp sorted).1 c below)

end Merging

end Ranking
end Foundation
