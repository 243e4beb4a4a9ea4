import Sooqa.Media.SequenceAlignment

/-!
The tables of an alignment hold the best score of every cell and where it came
from, and the way back from the best cell is a chain of that score.
-/
namespace Sooqa.Media
open Foundation LocalAlignment

section Cells
variable {columns a b c d : Nat}

theorem cellIndex_injective (left : b < columns) (right : d < columns)
    (same : a * columns + b = c * columns + d) : a = c ∧ b = d := by
  have rows := congrArg (· / columns) same
  have offsets := congrArg (· % columns) same
  have positive : 0 < columns := Nat.lt_of_le_of_lt (Nat.zero_le b) left
  simp only [Nat.mul_comm _ columns, Nat.mul_add_div positive, Nat.div_eq_of_lt left,
    Nat.div_eq_of_lt right, Nat.add_zero, Nat.mul_add_mod, Nat.mod_eq_of_lt left,
    Nat.mod_eq_of_lt right] at rows offsets
  exact ⟨rows, offsets⟩

theorem cellIndex_inside {n m : Nat} (row : a ≤ n) (column : b ≤ m) :
    a * (m + 1) + b < (n + 1) * (m + 1) := by
  calc a * (m + 1) + b < a * (m + 1) + (m + 1) := by omega
    _ = (a + 1) * (m + 1) := by rw [Nat.add_mul, Nat.one_mul]
    _ ≤ (n + 1) * (m + 1) := Nat.mul_le_mul_right _ (by omega)

theorem getD_set {α : Type} (cells : Array α) (i j : Nat) (value default : α)
    (inside : i < cells.size) :
    (cells.setIfInBounds i value).getD j default =
      if i = j then value else cells.getD j default := by
  rw [Array.getD_eq_getD_getElem?, Array.getD_eq_getD_getElem?, Array.getElem?_setIfInBounds]
  by_cases here : i = j
  · rw [if_pos here, if_pos here, if_pos inside, Option.getD_some]
  · rw [if_neg here, if_neg here]

theorem getD_replicate {α : Type} (size i : Nat) (value : α) :
    (Array.replicate size value).getD i value = value := by
  rw [Array.getD_eq_getD_getElem?, Array.getElem?_replicate]
  split <;> rfl

end Cells

section Filling
variable {incoming candidate : List VideoSequenceSample} {gapPenalty : Int} {tables : Tables}
  {i k : Nat}

/-- The direction of a cell, from the best scores of its neighbours. -/
def directionOf (score : Nat → Nat → Int) (penalty : Int) : Nat → Nat → Nat
  | i + 1, j + 1 =>
    (chooseCell (best score penalty i j + score i j) (best score penalty i (j + 1) - penalty)
      (best score penalty (i + 1) j - penalty)).2
  | _, _ => 0

theorem chooseCell_score (diagonal up left : Int) :
    (chooseCell diagonal up left).1 = max 0 (max diagonal (max up left)) := by
  unfold chooseCell
  split
  · omega
  · split
    · omega
    · split <;> omega

/-- The cells that are filled after `k` cells of row `i`. -/
def Done (i k a b : Nat) : Prop := a < i ∨ (a = i ∧ b ≤ k)

instance (i k a b : Nat) : Decidable (Done i k a b) := inferInstanceAs (Decidable (_ ∨ _))

/-- What the tables hold after `k` cells of row `i`. -/
structure Filled (incoming candidate : List VideoSequenceSample) (gapPenalty : Int) (i k : Nat)
    (tables : Tables) : Prop where
  scoresSize : tables.scores.size = (incoming.length + 1) * (candidate.length + 1)
  directionsSize : tables.directions.size = (incoming.length + 1) * (candidate.length + 1)
  scores : ∀ a b, a ≤ incoming.length → b ≤ candidate.length →
    tables.scores.getD (a * (candidate.length + 1) + b) 0 =
      if Done i k a b then best (scoreAt incoming candidate) gapPenalty a b else 0
  directions : ∀ a b, a ≤ incoming.length → b ≤ candidate.length →
    tables.directions.getD (a * (candidate.length + 1) + b) 0 =
      if Done i k a b then directionOf (scoreAt incoming candidate) gapPenalty a b else 0
  row : tables.best.1 ≤ incoming.length
  column : tables.best.2.1 ≤ candidate.length
  reached : tables.best.2.2 =
    best (scoreAt incoming candidate) gapPenalty tables.best.1 tables.best.2.1
  greatest : ∀ a b, a ≤ incoming.length → b ≤ candidate.length → Done i k a b →
    best (scoreAt incoming candidate) gapPenalty a b ≤ tables.best.2.2

theorem filled_empty :
    Filled incoming candidate gapPenalty 0 candidate.length
      (emptyTables ((incoming.length + 1) * (candidate.length + 1))) where
  scoresSize := by simp [emptyTables]
  directionsSize := by simp [emptyTables]
  scores := by
    intro a b _ _
    rw [emptyTables, getD_replicate]
    split
    · rename_i done
      obtain rfl : a = 0 := by simp only [Done] at done; omega
      rw [best_zero_left]
    · rfl
  directions := by
    intro a b _ _
    rw [emptyTables, getD_replicate]
    split
    · rename_i done
      obtain rfl : a = 0 := by simp only [Done] at done; omega
      simp [directionOf]
    · rfl
  row := Nat.zero_le _
  column := Nat.zero_le _
  reached := by rw [emptyTables, best_zero_left]
  greatest := by
    intro a b _ _ done
    obtain rfl : a = 0 := by simp only [Done] at done; omega
    rw [best_zero_left]
    exact le_rfl

/-- The first cell of a row is never filled; its score is zero. -/
theorem Filled.nextRow
    (filled : Filled incoming candidate gapPenalty i candidate.length tables) :
    Filled incoming candidate gapPenalty (i + 1) 0 tables where
  scoresSize := filled.scoresSize
  directionsSize := filled.directionsSize
  scores := by
    intro a b row column
    rw [filled.scores a b row column]
    by_cases first : a = i + 1 ∧ b = 0
    · obtain ⟨rfl, rfl⟩ := first
      rw [if_neg (by simp only [Done]; omega), best_zero_right, ite_self]
    · have same : Done i candidate.length a b ↔ Done (i + 1) 0 a b := by
        simp only [Done]
        omega
      simp only [same]
  directions := by
    intro a b row column
    rw [filled.directions a b row column]
    by_cases first : a = i + 1 ∧ b = 0
    · obtain ⟨rfl, rfl⟩ := first
      rw [if_neg (by simp only [Done]; omega)]
      simp [directionOf]
    · have same : Done i candidate.length a b ↔ Done (i + 1) 0 a b := by
        simp only [Done]
        omega
      simp only [same]
  row := filled.row
  column := filled.column
  reached := filled.reached
  greatest := by
    intro a b row column done
    by_cases first : a = i + 1 ∧ b = 0
    · obtain ⟨rfl, rfl⟩ := first
      rw [best_zero_right, filled.reached]
      exact best_nonneg _ _
    · refine filled.greatest a b row column ?_
      simp only [Done] at done ⊢
      omega

theorem Filled.cell (filled : Filled incoming candidate gapPenalty (i + 1) k tables)
    (row : i + 1 ≤ incoming.length) (column : k + 1 ≤ candidate.length) :
    Filled incoming candidate gapPenalty (i + 1) (k + 1)
      (fillCell incoming candidate gapPenalty (candidate.length + 1) tables (i + 1) (k + 1)) := by
  have diagonal := filled.scores i k (by omega) (by omega)
  have up := filled.scores i (k + 1) (by omega) column
  have left := filled.scores (i + 1) k row (by omega)
  have above : ∀ b, Done (i + 1) k i b := fun b => Or.inl (Nat.lt_succ_self i)
  have beside : Done (i + 1) k (i + 1) k := Or.inr ⟨rfl, le_rfl⟩
  rw [if_pos (above _)] at diagonal up
  rw [if_pos beside] at left
  have inside := cellIndex_inside row column
  have elsewhere : ∀ a b, b ≤ candidate.length →
      (i + 1) * (candidate.length + 1) + (k + 1) = a * (candidate.length + 1) + b →
      a = i + 1 ∧ b = k + 1 := by
    intro a b inRow same
    obtain ⟨rows, columns⟩ := cellIndex_injective (by omega) (by omega) same
    exact ⟨rows.symm, columns.symm⟩
  have here : Done (i + 1) (k + 1) (i + 1) (k + 1) := Or.inr ⟨rfl, le_rfl⟩
  have before : ∀ a b, ¬ (a = i + 1 ∧ b = k + 1) →
      (Done (i + 1) (k + 1) a b ↔ Done (i + 1) k a b) := by
    intro a b ne
    simp only [Done]
    omega
  have diagonalIndex : i * (candidate.length + 1) + (k + 1) - 1 =
      i * (candidate.length + 1) + k := by omega
  have leftIndex : (i + 1) * (candidate.length + 1) + (k + 1) - 1 =
      (i + 1) * (candidate.length + 1) + k := by omega
  have value : (chooseCell
      (best (scoreAt incoming candidate) gapPenalty i k + scoreAt incoming candidate i k)
      (best (scoreAt incoming candidate) gapPenalty i (k + 1) - gapPenalty)
      (best (scoreAt incoming candidate) gapPenalty (i + 1) k - gapPenalty)).1 =
        best (scoreAt incoming candidate) gapPenalty (i + 1) (k + 1) := by
    rw [chooseCell_score, best]
  unfold fillCell
  simp only [Nat.add_sub_cancel, diagonalIndex, leftIndex, diagonal, up, left]
  refine ⟨?_, ?_, ?_, ?_, ?_, ?_, ?_, ?_⟩
  · simpa using filled.scoresSize
  · simpa using filled.directionsSize
  · intro a b inRows inColumns
    rw [getD_set _ _ _ _ _ (filled.scoresSize ▸ inside)]
    by_cases same : a = i + 1 ∧ b = k + 1
    · obtain ⟨rfl, rfl⟩ := same
      rw [if_pos rfl, if_pos here, value]
    · rw [if_neg (fun index => same (elsewhere a b inColumns index)),
        filled.scores a b inRows inColumns]
      simp only [before a b same]
  · intro a b inRows inColumns
    rw [getD_set _ _ _ _ _ (filled.directionsSize ▸ inside)]
    by_cases same : a = i + 1 ∧ b = k + 1
    · obtain ⟨rfl, rfl⟩ := same
      rw [if_pos rfl, if_pos here, directionOf]
    · rw [if_neg (fun index => same (elsewhere a b inColumns index)),
        filled.directions a b inRows inColumns]
      simp only [before a b same]
  · dsimp only
    split
    · exact row
    · exact filled.row
  · dsimp only
    split
    · exact column
    · exact filled.column
  · dsimp only
    split
    · exact value
    · exact filled.reached
  · intro a b inRows inColumns done
    dsimp only
    by_cases same : a = i + 1 ∧ b = k + 1
    · obtain ⟨rfl, rfl⟩ := same
      rw [← value]
      split
      · exact le_rfl
      · rename_i lower
        exact not_lt.mp lower
    · have old := filled.greatest a b inRows inColumns ((before a b same).mp done)
      split
      · rename_i higher
        exact le_trans old (le_of_lt higher)
      · exact old

theorem Filled.row_filled
    (filled : Filled incoming candidate gapPenalty (i + 1) 0 tables) (row : i + 1 ≤ incoming.length)
    (column : k ≤ candidate.length) :
    Filled incoming candidate gapPenalty (i + 1) k
      (fillRow incoming candidate gapPenalty (candidate.length + 1) (i + 1) tables k) := by
  induction k with
  | zero => exact filled
  | succ k ih => exact (ih (by omega)).cell row column

theorem filled_rows (row : i ≤ incoming.length) :
    Filled incoming candidate gapPenalty i candidate.length
      (fillRows incoming candidate gapPenalty i) := by
  induction i with
  | zero => exact filled_empty
  | succ i ih => exact (ih (by omega)).nextRow.row_filled row le_rfl

/-- The filled tables: every score is the best of its cell, the directions are
    the ones of the best scores, and the best cell has the greatest score. -/
structure Tabulated (incoming candidate : List VideoSequenceSample) (gapPenalty : Int)
    (tables : Tables) : Prop where
  scores : ∀ a b, a ≤ incoming.length → b ≤ candidate.length →
    tables.scores.getD (a * (candidate.length + 1) + b) 0 =
      best (scoreAt incoming candidate) gapPenalty a b
  directions : ∀ a b, a ≤ incoming.length → b ≤ candidate.length →
    tables.directions.getD (a * (candidate.length + 1) + b) 0 =
      directionOf (scoreAt incoming candidate) gapPenalty a b
  row : tables.best.1 ≤ incoming.length
  column : tables.best.2.1 ≤ candidate.length
  reached : tables.best.2.2 =
    best (scoreAt incoming candidate) gapPenalty tables.best.1 tables.best.2.1
  greatest : ∀ a b, a ≤ incoming.length → b ≤ candidate.length →
    best (scoreAt incoming candidate) gapPenalty a b ≤ tables.best.2.2

theorem tabulated (incoming candidate : List VideoSequenceSample) (gapPenalty : Int) :
    Tabulated incoming candidate gapPenalty (fillTables incoming candidate gapPenalty) := by
  have filled : Filled incoming candidate gapPenalty incoming.length candidate.length
    (fillTables incoming candidate gapPenalty) := filled_rows le_rfl
  have done : ∀ a b, a ≤ incoming.length → b ≤ candidate.length →
      Done incoming.length candidate.length a b := by
    intro a b row column
    simp only [Done]
    omega
  refine ⟨?_, ?_, filled.row, filled.column, filled.reached, ?_⟩
  · intro a b row column
    rw [filled.scores a b row column, if_pos (done a b row column)]
  · intro a b row column
    rw [filled.directions a b row column, if_pos (done a b row column)]
  · intro a b row column
    exact filled.greatest a b row column (done a b row column)

end Filling

section Backtracking
variable {incoming candidate : List VideoSequenceSample} {gapPenalty : Int} {tables : Tables}

/-- The path that a chain draws. -/
def pathOf (incoming candidate : List VideoSequenceSample) : Cell → List Move → List PathStep
  | _, [] => []
  | c, .pair :: moves =>
    .matched c.1 c.2 (distanceAt incoming candidate c.1 c.2) ::
      pathOf incoming candidate (Move.target c .pair) moves
  | c, move :: moves => .gap :: pathOf incoming candidate (move.target c) moves

def stepOf (incoming candidate : List VideoSequenceSample) (c : Cell) : Move → PathStep
  | .pair => .matched c.1 c.2 (distanceAt incoming candidate c.1 c.2)
  | _ => .gap

theorem pathOf_snoc (c : Cell) (moves : List Move) (move : Move) :
    pathOf incoming candidate c (moves ++ [move]) =
      pathOf incoming candidate c moves ++ [stepOf incoming candidate (finish c moves) move] := by
  induction moves generalizing c with
  | nil => cases move <;> rfl
  | cons first moves ih =>
    cases first <;> simp only [List.cons_append, pathOf, finish, ih]

theorem chooseCell_cases (diagonal up left : Int) :
    chooseCell diagonal up left = (diagonal, 1) ∨ chooseCell diagonal up left = (up, 2) ∨
      chooseCell diagonal up left = (left, 3) ∨ chooseCell diagonal up left = (0, 0) := by
  unfold chooseCell
  split
  · exact Or.inl rfl
  · split
    · exact Or.inr (Or.inl rfl)
    · split
      · exact Or.inr (Or.inr (Or.inl rfl))
      · exact Or.inr (Or.inr (Or.inr rfl))

/-- A chain into a cell that scores the best of the cell, and something at
    every part. -/
structure Reaches (incoming candidate : List VideoSequenceSample) (gapPenalty : Int) (i j : Nat)
    (start : Cell) (moves : List Move) : Prop where
  finish : finish start moves = (i, j)
  total : total (scoreAt incoming candidate) gapPenalty start moves =
    best (scoreAt incoming candidate) gapPenalty i j
  gaining : Gaining (scoreAt incoming candidate) gapPenalty start moves

theorem Reaches.nil {i j : Nat} (none : best (scoreAt incoming candidate) gapPenalty i j = 0) :
    Reaches incoming candidate gapPenalty i j (i, j) [] :=
  ⟨rfl, none.symm, .nil _⟩

theorem Reaches.snoc {i j : Nat} {start : Cell} {moves : List Move}
    (reaches : Reaches incoming candidate gapPenalty i j start moves) (move : Move) {a b : Nat}
    (target : move.target (i, j) = (a, b))
    (value : best (scoreAt incoming candidate) gapPenalty a b =
      best (scoreAt incoming candidate) gapPenalty i j +
        move.gain (scoreAt incoming candidate) gapPenalty (i, j))
    (positive : 0 < best (scoreAt incoming candidate) gapPenalty a b) :
    Reaches incoming candidate gapPenalty a b start (moves ++ [move]) := by
  have scored : LocalAlignment.total (scoreAt incoming candidate) gapPenalty start
      (moves ++ [move]) = best (scoreAt incoming candidate) gapPenalty a b := by
    rw [total_snoc, reaches.total, reaches.finish, value]
  exact
    { finish := by rw [finish_snoc, reaches.finish, target]
      total := scored
      gaining := reaches.gaining.snoc (scored ▸ positive) }

/-- The way back from a cell draws a chain into it. -/
theorem Tabulated.backtrackLoop (tabulated : Tabulated incoming candidate gapPenalty tables)
    {fuel : Nat} : ∀ {i j : Nat} (path : List PathStep),
    i ≤ incoming.length → j ≤ candidate.length → i + j ≤ fuel →
    ∃ start moves, Reaches incoming candidate gapPenalty i j start moves ∧
      backtrackLoop tables (candidate.length + 1) incoming candidate fuel i j path =
        pathOf incoming candidate start moves ++ path := by
  induction fuel with
  | zero =>
    intro i j path _ _ enough
    obtain ⟨rfl, rfl⟩ : i = 0 ∧ j = 0 := by omega
    exact ⟨(0, 0), [], .nil (best_zero_left 0), rfl⟩
  | succ fuel ih =>
    intro i j path row column enough
    cases i with
    | zero =>
      refine ⟨(0, j), [], .nil (best_zero_left j), ?_⟩
      simp [Media.backtrackLoop, pathOf]
    | succ i =>
      cases j with
      | zero =>
        refine ⟨(i + 1, 0), [], .nil (best_zero_right (i + 1)), ?_⟩
        simp [Media.backtrackLoop, pathOf]
      | succ j =>
        unfold Media.backtrackLoop
        rw [if_pos ⟨Nat.succ_pos i, Nat.succ_pos j⟩, tabulated.scores _ _ row column]
        by_cases none : best (scoreAt incoming candidate) gapPenalty (i + 1) (j + 1) = 0
        · rw [if_pos none]
          exact ⟨(i + 1, j + 1), [], .nil none, rfl⟩
        · rw [if_neg none, tabulated.directions _ _ row column, directionOf]
          have positive : 0 < best (scoreAt incoming candidate) gapPenalty (i + 1) (j + 1) :=
            lt_of_le_of_ne (best_nonneg _ _) (Ne.symm none)
          have value : (chooseCell
              (best (scoreAt incoming candidate) gapPenalty i j + scoreAt incoming candidate i j)
              (best (scoreAt incoming candidate) gapPenalty i (j + 1) - gapPenalty)
              (best (scoreAt incoming candidate) gapPenalty (i + 1) j - gapPenalty)).1 =
                best (scoreAt incoming candidate) gapPenalty (i + 1) (j + 1) := by
            rw [chooseCell_score, best]
          rcases chooseCell_cases
            (best (scoreAt incoming candidate) gapPenalty i j + scoreAt incoming candidate i j)
            (best (scoreAt incoming candidate) gapPenalty i (j + 1) - gapPenalty)
            (best (scoreAt incoming candidate) gapPenalty (i + 1) j - gapPenalty)
            with chosen | chosen | chosen | chosen
          · rw [chosen] at value ⊢
            simp only [Nat.add_sub_cancel] at value ⊢
            obtain ⟨start, moves, reaches, drawn⟩ := @ih i j
              (.matched i j (distanceAt incoming candidate i j) :: path)
              (by omega) (by omega) (by omega)
            refine ⟨start, moves ++ [.pair],
              reaches.snoc .pair rfl value.symm positive, ?_⟩
            rw [pathOf_snoc, reaches.finish, List.append_assoc]
            exact drawn
          · rw [chosen] at value ⊢
            simp only [Nat.add_sub_cancel] at value ⊢
            obtain ⟨start, moves, reaches, drawn⟩ := @ih i (j + 1) (.gap :: path)
              (by omega) column (by omega)
            refine ⟨start, moves ++ [.skipFirst],
              reaches.snoc .skipFirst rfl value.symm positive, ?_⟩
            rw [pathOf_snoc, reaches.finish, List.append_assoc]
            exact drawn
          · rw [chosen] at value ⊢
            simp only [Nat.add_sub_cancel] at value ⊢
            obtain ⟨start, moves, reaches, drawn⟩ := @ih (i + 1) j (.gap :: path)
              row (by omega) (by omega)
            refine ⟨start, moves ++ [.skipSecond],
              reaches.snoc .skipSecond rfl value.symm positive, ?_⟩
            rw [pathOf_snoc, reaches.finish, List.append_assoc]
            exact drawn
          · rw [chosen] at value
            exact absurd value.symm none

end Backtracking

end Sooqa.Media
