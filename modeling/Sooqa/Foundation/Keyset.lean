import Mathlib.Data.List.Sort
import Mathlib.Tactic.Common

/-!
Pages of a table in the order of a key. A page holds the first rows behind a
cursor, and leads to a next page where one more row was found than it holds.
-/
namespace Foundation
namespace Keyset

section Pages
variable {Row K : Type} [LinearOrder K] (key : Row → K)

/-- The rows behind a cursor; without one, every row. -/
def behind (cursor : Option K) (row : Row) : Bool :=
  match cursor with
  | some last => decide (last < key row)
  | none => true

def ordered (rows : List Row) : List Row := rows.insertionSort (fun row other => key row ≤ key other)

/-- The rows behind a cursor in the order of their keys, up to a count. -/
def select (cursor : Option K) (count : Nat) (rows : List Row) : List Row :=
  (ordered key (rows.filter (behind key cursor))).take count

end Pages

section Walk
variable {C Item ε : Type}

/-- Following the cursors of the pages to the one without: what is visited. -/
inductive Visits (fetch : Option C → Except ε (List Item × Option C)) :
    Option C → List Item → Prop where
  | last {cursor : Option C} {items : List Item} (answer : fetch cursor = .ok (items, none)) :
      Visits fetch cursor items
  | next {cursor : Option C} {following : C} {items rest : List Item}
      (answer : fetch cursor = .ok (items, some following))
      (more : Visits fetch (some following) rest) : Visits fetch cursor (items ++ rest)

variable {fetch : Option C → Except ε (List Item × Option C)}

/-- There is one way to follow the cursors, and so one list that is visited. -/
theorem Visits.unique {cursor : Option C} {visited other : List Item}
    (first : Visits fetch cursor visited) (second : Visits fetch cursor other) :
    visited = other := by
  induction first generalizing other with
  | last answer =>
    cases second with
    | last answer' => rw [answer] at answer'; cases answer'; rfl
    | next answer' => rw [answer] at answer'; cases answer'
  | next answer _ ih =>
    cases second with
    | last answer' => rw [answer] at answer'; cases answer'
    | next answer' more' =>
      rw [answer] at answer'
      cases answer'
      rw [ih more']

end Walk

section Order
variable {Row K : Type} [LinearOrder K] {key : Row → K} {rows : List Row}

/-- Rows whose keys differ stand in strict order. -/
theorem ordered_strict (distinct : rows.Pairwise (fun row other => key row ≠ key other)) :
    (ordered key rows).Pairwise (fun row other => key row < key other) := by
  have total : Std.Total (fun row other : Row => key row ≤ key other) :=
    ⟨fun row other => le_total (key row) (key other)⟩
  have trans : IsTrans Row (fun row other => key row ≤ key other) :=
    ⟨fun _ _ _ first second => le_trans first second⟩
  have sorted := List.pairwise_insertionSort (fun row other => key row ≤ key other) rows
  have perm := List.perm_insertionSort (fun row other => key row ≤ key other) rows
  have apart := (perm.pairwise_iff (fun ne => Ne.symm ne)).mpr distinct
  exact (sorted.and apart).imp (fun both => lt_of_le_of_ne both.1 both.2)

theorem mem_ordered {row : Row} : row ∈ ordered key rows ↔ row ∈ rows :=
  (List.perm_insertionSort _ rows).mem_iff

theorem mem_of_select {cursor : Option K} {count : Nat} {row : Row}
    (member : row ∈ select key cursor count rows) : row ∈ rows :=
  List.mem_of_mem_filter (mem_ordered.mp (List.mem_of_mem_take member))

/-- Some of the rows, in order, are some of the ordered rows. -/
theorem ordered_filter (distinct : rows.Pairwise (fun row other => key row ≠ key other))
    (p : Row → Bool) : ordered key (rows.filter p) = (ordered key rows).filter p := by
  have perm : (ordered key (rows.filter p)).Perm ((ordered key rows).filter p) :=
    (List.perm_insertionSort _ _).trans ((List.perm_insertionSort _ rows).filter p).symm
  have strict := ordered_strict (distinct.filter p)
  have strict' := (ordered_strict distinct).filter p
  exact perm.eq_of_pairwise (fun _ _ _ _ less more => absurd less (lt_asymm more)) strict strict'

/-- Behind the key of a row are the rows that stand behind it. -/
theorem filter_behind {before after : List Row} {row : Row}
    (strict : (before ++ row :: after).Pairwise (fun row other => key row < key other)) :
    (before ++ row :: after).filter (behind key (some (key row))) = after := by
  obtain ⟨-, tail, cross⟩ := List.pairwise_append.mp strict
  obtain ⟨behindRow, -⟩ := List.pairwise_cons.mp tail
  have none : before.filter (behind key (some (key row))) = [] := by
    rw [List.filter_eq_nil_iff]
    intro other member
    have less := cross other member row List.mem_cons_self
    simp [behind, not_lt_of_gt less]
  have all : after.filter (behind key (some (key row))) = after := by
    rw [List.filter_eq_self]
    intro other member
    simp [behind, behindRow other member]
  rw [List.filter_append, none, List.filter_cons_of_neg (by simp [behind]), all]
  rfl

end Order

section Following
variable {Row : Type} {limit : Nat}

/-- The last row of a page that others follow. -/
def following (limit : Nat) (found : List Row) : Option Row :=
  if limit < found.length then (found.take limit).getLast? else none

theorem following_some {found : List Row} (more : limit < found.length) (positive : 0 < limit) :
    ∃ before row, found.take limit = before ++ [row] ∧ following limit found = some row := by
  have filled : found.take limit ≠ [] := by
    intro empty
    have := congrArg List.length empty
    rw [List.length_take, List.length_nil] at this
    omega
  refine ⟨(found.take limit).dropLast, (found.take limit).getLast filled, ?_, ?_⟩
  · exact (List.dropLast_append_getLast filled).symm
  · rw [following, if_pos more, List.getLast?_eq_some_getLast filled]

/-- One row more than the limit tells whether any are left. -/
theorem following_take {found : List Row} :
    following limit (found.take (limit + 1)) = following limit found := by
  have enough : limit < (found.take (limit + 1)).length ↔ limit < found.length := by
    rw [List.length_take]
    omega
  unfold following
  simp only [enough, List.take_take, Nat.min_eq_left (Nat.le_succ limit)]

end Following

section Completeness
variable {Row K C Item ε : Type} [LinearOrder K] {key : Row → K} {rows : List Row}
  {fetch : Option C → Except ε (List Item × Option C)} {item : Row → Option Item}
  {cursor : Row → C}
  {limit : Nat}

/-- A list whose pages are those behind a row is visited whole, in order. -/
theorem visits_ordered (positive : 0 < limit)
    (distinct : rows.Pairwise (fun row other => key row ≠ key other))
    (answers : ∀ last : Option Row, (∀ row, last = some row → row ∈ rows) →
      fetch (last.map cursor) =
        .ok (((select key (last.map key) (limit + 1) rows).take limit).filterMap item,
          (following limit (select key (last.map key) (limit + 1) rows)).map cursor)) :
    Visits fetch none ((ordered key rows).filterMap item) := by
  have strict := ordered_strict distinct
  -- What is left to visit shrinks with every page.
  have rest : ∀ (count : Nat) (before after : List Row) (last : Option Row),
      after.length ≤ count → ordered key rows = before ++ after →
      (ordered key rows).filter (behind key (last.map key)) = after →
      (∀ row, last = some row → row ∈ rows) →
      Visits fetch (last.map cursor) (after.filterMap item) := by
    intro count
    induction count with
    | zero =>
      intro before after last short _ left known
      have answer := answers last known
      rw [select, ordered_filter distinct, left, following_take, following,
        if_neg (by omega), List.length_eq_zero_iff.mp (Nat.le_zero.mp short)] at answer
      rw [List.length_eq_zero_iff.mp (Nat.le_zero.mp short)]
      exact Visits.last (by simpa using answer)
    | succ count ih =>
      intro before after last short whole left known
      have answer := answers last known
      rw [select, ordered_filter distinct, left, following_take, List.take_take,
        Nat.min_eq_left (Nat.le_succ limit)] at answer
      by_cases more : limit < after.length
      · obtain ⟨page, row, split, next⟩ := following_some more positive
        have whole' : ordered key rows = (before ++ page) ++ row :: after.drop limit := by
          rw [whole, List.append_assoc, ← List.singleton_append, ← List.append_assoc page,
            ← split, List.take_append_drop]
        have left' : (ordered key rows).filter (behind key (some (key row))) = after.drop limit := by
          rw [whole'] at strict ⊢
          exact filter_behind strict
        have inside : row ∈ rows := by
          rw [← @mem_ordered _ _ _ key, whole']
          exact List.mem_append_right _ List.mem_cons_self
        rw [next] at answer
        have visited := ih (before ++ after.take limit) (after.drop limit) (some row)
          (by rw [List.length_drop]; omega)
          (by rw [whole, List.append_assoc, List.take_append_drop]) left'
          (fun found is => Option.some.inj is ▸ inside)
        have all := Visits.next answer visited
        rwa [← List.filterMap_append, List.take_append_drop] at all
      · rw [following, if_neg more, List.take_of_length_le (by omega)] at answer
        exact Visits.last answer
  exact rest _ [] (ordered key rows) none (Nat.le_refl _) rfl
    (List.filter_eq_self.mpr (fun _ _ => rfl)) (fun _ absent => by cases absent)

end Completeness

end Keyset
end Foundation
