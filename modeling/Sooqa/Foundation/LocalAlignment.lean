import Mathlib.Algebra.BigOperators.Intervals
import Mathlib.Algebra.Order.BigOperators.Group.Finset
import Mathlib.Algebra.Ring.Int.Defs
import Mathlib.Data.List.Induction
import Mathlib.Order.Bounds.Basic
import Mathlib.Tactic.Common

/-!
Local alignments of two sequences. A chain of moves leads from one cell of a
grid to a later one; a move pairs the next elements of both sequences or skips
one of either. A chain scores what its pairs score less a penalty for each
skip, and `best` is the recursion that gives the best score of a chain into a
cell.
-/
namespace Foundation.LocalAlignment

/-- How many elements of each sequence are behind. -/
abbrev Cell := Nat × Nat

inductive Move where
  | pair | skipFirst | skipSecond
  deriving DecidableEq, Repr

def Move.target (c : Cell) : Move → Cell
  | .pair => (c.1 + 1, c.2 + 1)
  | .skipFirst => (c.1 + 1, c.2)
  | .skipSecond => (c.1, c.2 + 1)

section Chains
variable (score : Nat → Nat → Int) (penalty : Int)

def Move.gain (c : Cell) : Move → Int
  | .pair => score c.1 c.2
  | .skipFirst | .skipSecond => -penalty

def finish : Cell → List Move → Cell
  | c, [] => c
  | c, move :: moves => finish (move.target c) moves

def total : Cell → List Move → Int
  | _, [] => 0
  | c, move :: moves => move.gain score penalty c + total (move.target c) moves

/-- Every part of a chain from its start scores something. -/
def Gaining (c : Cell) (moves : List Move) : Prop :=
  ∀ earlier later, moves = earlier ++ later → earlier ≠ [] → 0 < total score penalty c earlier

/-- The pairs of a chain, in their order. -/
def pairs : Cell → List Move → List Cell
  | _, [] => []
  | c, .pair :: moves => c :: pairs (Move.target c .pair) moves
  | c, move :: moves => pairs (move.target c) moves

/-- The chain stays within sequences of these lengths. -/
def Within (n m : Nat) (c : Cell) (moves : List Move) : Prop :=
  (finish c moves).1 ≤ n ∧ (finish c moves).2 ≤ m

/-- The scores of all local alignments. -/
def Scores (n m : Nat) : Set Int :=
  {value | ∃ c moves, Within n m c moves ∧ total score penalty c moves = value}

/-- A local alignment of the greatest score, without a part that gains nothing
    at its start. -/
structure Optimal (n m : Nat) (c : Cell) (moves : List Move) : Prop where
  within : Within n m c moves
  greatest : IsGreatest (Scores score penalty n m) (total score penalty c moves)
  gaining : Gaining score penalty c moves

def skips (moves : List Move) : Nat := (moves.filter (· ≠ .pair)).length

def best : Nat → Nat → Int
  | 0, _ => 0
  | _ + 1, 0 => 0
  | i + 1, j + 1 =>
    max 0 (max (best i j + score i j) (max (best i (j + 1) - penalty) (best (i + 1) j - penalty)))
termination_by i j => i + j

end Chains

section Facts
variable {score : Nat → Nat → Int} {penalty : Int}

theorem finish_append (c : Cell) (moves later : List Move) :
    finish c (moves ++ later) = finish (finish c moves) later := by
  induction moves generalizing c with
  | nil => rfl
  | cons move moves ih => exact ih (move.target c)

theorem total_append (c : Cell) (moves later : List Move) :
    total score penalty c (moves ++ later) =
      total score penalty c moves + total score penalty (finish c moves) later := by
  induction moves generalizing c with
  | nil => simp [total, finish]
  | cons move moves ih =>
    rw [List.cons_append, total, total, finish, ih, Int.add_assoc]

theorem finish_snoc (c : Cell) (moves : List Move) (move : Move) :
    finish c (moves ++ [move]) = move.target (finish c moves) := finish_append c moves [move]

theorem total_snoc (c : Cell) (moves : List Move) (move : Move) :
    total score penalty c (moves ++ [move]) =
      total score penalty c moves + move.gain score penalty (finish c moves) := by
  rw [total_append, total, total, Int.add_zero]

theorem Gaining.nil (c : Cell) : Gaining score penalty c [] := by
  intro earlier later parts nonempty
  exact absurd (List.append_eq_nil_iff.mp parts.symm).1 nonempty

theorem Gaining.snoc {c : Cell} {moves : List Move} (gaining : Gaining score penalty c moves)
    {move : Move} (positive : 0 < total score penalty c (moves ++ [move])) :
    Gaining score penalty c (moves ++ [move]) := by
  intro earlier later parts nonempty
  rcases List.eq_nil_or_concat later with rfl | ⟨later, last, rfl⟩
  · rw [List.append_nil] at parts
    exact parts ▸ positive
  · rw [List.concat_eq_append, ← List.append_assoc] at parts
    exact gaining earlier later (List.append_inj' parts rfl).1 nonempty

/-- A skip costs, so it does not come first. -/
theorem Gaining.opens {c : Cell} {moves : List Move} (gaining : Gaining score penalty c moves)
    (costs : 0 ≤ penalty) (nonempty : moves ≠ []) : moves.head? = some .pair := by
  cases moves with
  | nil => exact absurd rfl nonempty
  | cons move moves =>
    have first := gaining [move] moves rfl (List.cons_ne_nil _ _)
    rw [total, total, Int.add_zero] at first
    cases move with
    | pair => rfl
    | skipFirst =>
      rw [Move.gain] at first
      omega
    | skipSecond =>
      rw [Move.gain] at first
      omega

/-- What a chain scores, by its pairs and its skips. -/
theorem total_eq (c : Cell) (moves : List Move) :
    total score penalty c moves =
      ((pairs c moves).map (fun p => score p.1 p.2)).sum - skips moves * penalty := by
  induction moves generalizing c with
  | nil => simp [total, pairs, skips]
  | cons move moves ih =>
    rw [total, ih]
    cases move
    · simp only [Move.gain, pairs, List.map_cons, List.sum_cons, skips, ne_eq, not_true_eq_false,
        decide_false, Bool.false_eq_true, not_false_eq_true, List.filter_cons_of_neg]
      omega
    all_goals
      simp only [Move.gain, pairs, skips, ne_eq, reduceCtorEq, not_false_eq_true, decide_true,
        List.filter_cons_of_pos, List.length_cons, Int.natCast_add, Int.natCast_one, Int.add_mul,
        Int.one_mul]
      omega

theorem finish_ge (c : Cell) (moves : List Move) :
    c.1 ≤ (finish c moves).1 ∧ c.2 ≤ (finish c moves).2 := by
  induction moves generalizing c with
  | nil => exact ⟨le_rfl, le_rfl⟩
  | cons move moves ih =>
    obtain ⟨first, second⟩ := ih (move.target c)
    cases move <;> simp only [Move.target, finish] at * <;> omega

/-- The pairs of a chain lie between its ends. -/
theorem pairs_bounds {c : Cell} {moves : List Move} {p : Cell} (member : p ∈ pairs c moves) :
    c.1 ≤ p.1 ∧ c.2 ≤ p.2 ∧ p.1 < (finish c moves).1 ∧ p.2 < (finish c moves).2 := by
  induction moves generalizing c with
  | nil => cases member
  | cons move moves ih =>
    cases move
    · rcases List.mem_cons.mp member with rfl | later
      · have after := finish_ge (Move.target p .pair) moves
        simp only [Move.target] at after
        exact ⟨le_rfl, le_rfl, after.1, after.2⟩
      · have inner := ih later
        simp only [Move.target, finish] at inner ⊢
        omega
    all_goals
      have inner := ih member
      simp only [Move.target, finish] at inner ⊢
      omega

/-- The pairs of a chain go forward in both sequences. -/
theorem pairs_increase (c : Cell) (moves : List Move) :
    (pairs c moves).Pairwise (fun p q => p.1 < q.1 ∧ p.2 < q.2) := by
  induction moves generalizing c with
  | nil => exact .nil
  | cons move moves ih =>
    cases move
    · refine List.pairwise_cons.mpr ⟨fun q later => ?_, ih _⟩
      have after := pairs_bounds later
      simp only [Move.target] at after
      omega
    all_goals exact ih _

theorem best_nonneg (i j : Nat) : 0 ≤ best score penalty i j := by
  cases i with
  | zero => rw [best]
  | succ i =>
    cases j with
    | zero => rw [best]
    | succ j =>
      rw [best]
      exact le_max_left _ _

theorem best_zero_left (j : Nat) : best score penalty 0 j = 0 := by rw [best]

theorem best_zero_right (i : Nat) : best score penalty i 0 = 0 := by
  cases i <;> rw [best]

/-- No chain into a cell scores more than the recursion says. -/
theorem total_le_best (positive : 0 ≤ penalty) (c : Cell) (moves : List Move) :
    total score penalty c moves ≤
      best score penalty (finish c moves).1 (finish c moves).2 := by
  induction moves using List.reverseRecOn with
  | nil => exact best_nonneg _ _
  | append_singleton moves move ih =>
    rw [total_snoc, finish_snoc]
    generalize finish c moves = cell at ih ⊢
    obtain ⟨i, j⟩ := cell
    cases move with
    | pair =>
      simp only [Move.target, Move.gain, best] at ih ⊢
      omega
    | skipFirst =>
      simp only [Move.target, Move.gain] at ih ⊢
      cases j with
      | zero =>
        rw [best_zero_right] at ih ⊢
        omega
      | succ j =>
        rw [best]
        omega
    | skipSecond =>
      simp only [Move.target, Move.gain] at ih ⊢
      cases i with
      | zero =>
        rw [best_zero_left] at ih ⊢
        omega
      | succ i =>
        rw [best]
        omega

/-- A cell scores no more than its row or its column has pairs to offer. -/
theorem best_le {limit : Int} (costs : 0 ≤ penalty) (positive : 0 ≤ limit)
    (bound : ∀ i j, score i j ≤ limit) (i j : Nat) :
    best score penalty i j ≤ limit * i ∧ best score penalty i j ≤ limit * j := by
  fun_induction best score penalty i j with
  | case1 j => exact ⟨by simp, Int.mul_nonneg positive (Int.natCast_nonneg j)⟩
  | case2 i => exact ⟨Int.mul_nonneg positive (Int.natCast_nonneg _), by simp⟩
  | case3 i j diagonal up left =>
    have rows := Int.mul_nonneg positive (Int.natCast_nonneg i)
    have columns := Int.mul_nonneg positive (Int.natCast_nonneg j)
    have pair := bound i j
    simp only [Nat.succ_eq_add_one, Int.natCast_add, Int.natCast_one, Int.mul_add,
      Int.mul_one] at diagonal up left ⊢
    omega

/-- A skip costs, so an optimal alignment does not end with one. -/
theorem Optimal.closes {n m : Nat} {c : Cell} {moves : List Move}
    (optimal : Optimal score penalty n m c moves) (costs : 0 < penalty) (nonempty : moves ≠ []) :
    moves.getLast? = some .pair := by
  rcases List.eq_nil_or_concat moves with rfl | ⟨earlier, last, rfl⟩
  · exact absurd rfl nonempty
  · rw [List.concat_eq_append] at optimal ⊢
    have shorter : Within n m c earlier := by
      have within := optimal.within
      simp only [Within, finish_snoc] at within ⊢
      cases last <;> simp only [Move.target] at within <;> omega
    have bound := optimal.greatest.2 ⟨c, earlier, shorter, rfl⟩
    rw [total_snoc] at bound
    rw [List.getLast?_append, List.getLast?_singleton, Option.some_or]
    cases last with
    | pair => rfl
    | skipFirst =>
      rw [Move.gain] at bound
      omega
    | skipSecond =>
      rw [Move.gain] at bound
      omega

end Facts

/-! The same alignments with the sequences in the other order. -/
section Mirror
variable {score : Nat → Nat → Int} {penalty : Int} {n m : Nat}

def Move.mirror : Move → Move
  | .pair => .pair
  | .skipFirst => .skipSecond
  | .skipSecond => .skipFirst

def mirror (moves : List Move) : List Move := moves.map Move.mirror

theorem mirror_mirror (moves : List Move) : mirror (mirror moves) = moves := by
  have twice : Move.mirror ∘ Move.mirror = id := by
    funext move
    cases move <;> rfl
  rw [mirror, mirror, List.map_map, twice, List.map_id]

theorem target_mirror (c : Cell) (move : Move) :
    move.mirror.target c.swap = (move.target c).swap := by
  cases move <;> rfl

theorem finish_mirror (c : Cell) (moves : List Move) :
    finish c.swap (mirror moves) = (finish c moves).swap := by
  induction moves generalizing c with
  | nil => rfl
  | cons move moves ih =>
    rw [mirror, List.map_cons, finish, target_mirror]
    exact ih _

theorem total_mirror (c : Cell) (moves : List Move) :
    total (fun i j => score j i) penalty c.swap (mirror moves) = total score penalty c moves := by
  induction moves generalizing c with
  | nil => rfl
  | cons move moves ih =>
    rw [mirror, List.map_cons, total, total, target_mirror]
    have gain : move.mirror.gain (fun i j => score j i) penalty c.swap =
        move.gain score penalty c := by
      cases move <;> rfl
    rw [gain]
    exact congrArg _ (ih _)

theorem Within.mirror {c : Cell} {moves : List Move} (within : Within n m c moves) :
    Within m n c.swap (mirror moves) := by
  rw [Within, finish_mirror]
  exact ⟨within.2, within.1⟩

theorem scores_mirror : Scores (fun i j => score j i) penalty m n = Scores score penalty n m := by
  apply Set.eq_of_subset_of_subset
  · rintro value ⟨c, moves, within, rfl⟩
    refine ⟨c.swap, LocalAlignment.mirror moves, within.mirror, ?_⟩
    exact @total_mirror (fun i j => score j i) penalty c moves
  · rintro value ⟨c, moves, within, rfl⟩
    exact ⟨c.swap, LocalAlignment.mirror moves, within.mirror, total_mirror c moves⟩

theorem Optimal.mirror {c : Cell} {moves : List Move}
    (optimal : Optimal score penalty n m c moves) :
    Optimal (fun i j => score j i) penalty m n c.swap (mirror moves) where
  within := optimal.within.mirror
  greatest := by
    rw [total_mirror, scores_mirror]
    exact optimal.greatest
  gaining := by
    intro earlier later parts nonempty
    have split := congrArg LocalAlignment.mirror parts
    rw [mirror_mirror, LocalAlignment.mirror, List.map_append] at split
    have positive := optimal.gaining _ _ split (by simpa using nonempty)
    rw [← total_mirror, ← LocalAlignment.mirror, mirror_mirror] at positive
    exact positive

end Mirror

/-! A sequence whose elements are worth most with themselves. -/
section Own
variable {score : Nat → Nat → Int} {penalty : Int} {n : Nat}

/-- What the first elements are worth with themselves. -/
def ownWorth (score : Nat → Nat → Int) (i : Nat) : Int := ∑ k ∈ Finset.range i, score k k

@[simp] theorem ownWorth_zero : ownWorth score 0 = 0 := Finset.sum_range_zero _

@[simp] theorem ownWorth_succ (i : Nat) :
    ownWorth score (i + 1) = ownWorth score i + score i i := Finset.sum_range_succ _ i

theorem total_le_ownWorth (own : ∀ i j, score i j ≤ score i i) (nonneg : ∀ i, 0 ≤ score i i)
    (c : Cell) (moves : List Move) :
    total score penalty c moves + skips moves * penalty + ownWorth score c.1 ≤
      ownWorth score (finish c moves).1 := by
  induction moves generalizing c with
  | nil => simp [total, skips, finish]
  | cons move moves ih =>
    have rest := ih (move.target c)
    have here := own c.1 c.2
    have worth := nonneg c.1
    rw [total, finish]
    cases move
    · have count : skips (.pair :: moves) = skips moves := rfl
      rw [count]
      simp only [Move.target, Move.gain, ownWorth_succ] at rest ⊢
      omega
    · have count : skips (.skipFirst :: moves) = skips moves + 1 := rfl
      rw [count]
      simp only [Move.target, Move.gain, ownWorth_succ, Int.natCast_add, Int.natCast_one,
        Int.add_mul, Int.one_mul] at rest ⊢
      omega
    · have count : skips (.skipSecond :: moves) = skips moves + 1 := rfl
      rw [count]
      simp only [Move.target, Move.gain, Int.natCast_add, Int.natCast_one, Int.add_mul,
        Int.one_mul] at rest ⊢
      omega

theorem finish_diagonal (c : Cell) (k : Nat) :
    finish c (List.replicate k .pair) = (c.1 + k, c.2 + k) := by
  induction k with
  | zero => rfl
  | succ k ih =>
    rw [List.replicate_succ', finish_snoc, ih]
    rfl

theorem total_diagonal (k : Nat) :
    total score penalty (0, 0) (List.replicate k .pair) = ownWorth score k := by
  induction k with
  | zero => simp [total]
  | succ k ih =>
    rw [List.replicate_succ', total_snoc, ih, finish_diagonal, ownWorth_succ, Move.gain,
      Nat.zero_add]

theorem ownWorth_mono (nonneg : ∀ i, 0 ≤ score i i) {i j : Nat} (le : i ≤ j) :
    ownWorth score i ≤ ownWorth score j := by
  induction le with
  | refl => exact le_rfl
  | step _ ih =>
    rw [Nat.succ_eq_add_one, ownWorth_succ]
    exact le_trans ih (le_add_of_nonneg_right (nonneg _))

theorem no_skips {moves : List Move} (none : skips moves = 0) :
    moves = List.replicate moves.length .pair := by
  apply List.eq_replicate_of_mem
  intro move member
  by_contra skip
  have counted : move ∈ moves.filter (· ≠ .pair) :=
    List.mem_filter.mpr ⟨member, decide_eq_true skip⟩
  rw [List.length_eq_zero_iff.mp none] at counted
  cases counted

/-- The only optimal alignment of such a sequence with itself is the whole
    diagonal. -/
theorem Optimal.diagonal {c : Cell} {moves : List Move}
    (optimal : Optimal score penalty n n c moves) (costs : 0 < penalty)
    (own : ∀ i j, score i j ≤ score i i) (nonneg : ∀ i, 0 ≤ score i i)
    (positive : ∀ i < n, 0 < score i i) : c = (0, 0) ∧ moves = List.replicate n .pair := by
  have whole : Within n n (0, 0) (List.replicate n .pair) := by
    rw [Within, finish_diagonal, Nat.zero_add]
    exact ⟨le_rfl, le_rfl⟩
  have enough := optimal.greatest.2 ⟨_, _, whole, total_diagonal n⟩
  have bound := @total_le_ownWorth score penalty own nonneg c moves
  have ends := ownWorth_mono nonneg optimal.within.1
  have start := ownWorth_mono nonneg (Nat.zero_le c.1)
  rw [ownWorth_zero] at start
  have costless : (skips moves : Int) * penalty = 0 :=
    le_antisymm (by omega) (Int.mul_nonneg (Int.natCast_nonneg _) (le_of_lt costs))
  have none : skips moves = 0 := by
    rcases Int.mul_eq_zero.mp costless with none | free
    · exact Int.ofNat_eq_zero.mp none
    · omega
  have rows := (finish_ge c moves).1
  have first : c.1 = 0 := by
    by_contra later
    have one := ownWorth_mono nonneg (show 1 ≤ c.1 by omega)
    have worth := positive 0 (by have := optimal.within.1; omega)
    rw [ownWorth_succ, ownWorth_zero] at one
    omega
  have last : (finish c moves).1 = n := by
    by_contra short
    have before : (finish c moves).1 < n := lt_of_le_of_ne optimal.within.1 short
    have next := ownWorth_mono nonneg (Nat.succ_le_of_lt before)
    have worth := positive _ before
    rw [Nat.succ_eq_add_one, ownWorth_succ] at next
    omega
  have columns := optimal.within.2
  rw [no_skips none, finish_diagonal] at last columns
  simp only at last columns
  have length : moves.length = n := by omega
  have corner : c = (0, 0) := Prod.ext first (by simp only; omega)
  exact ⟨corner, length ▸ no_skips none⟩

end Own

end Foundation.LocalAlignment
