import Mathlib.Tactic.Linarith
import Mathlib.Tactic.FieldSimp
import Mathlib.Tactic.Positivity
import Sooqa.Media.NormalizationPlan

/-!
The sizes of a resolution ladder: they are even, no larger than the first one,
and no shorter than the floor.
-/
namespace Sooqa.Media
open Foundation

section Rounding
variable {value : ℚ} {n : Nat}

theorem le_round {k : Int} : k ≤ round value ↔ 2 * (k : ℚ) - 1 ≤ 2 * value := by
  rw [round, Int.le_floor]
  constructor <;> intro h <;> linarith

/-- The size before it is cut to a word. -/
theorem roundedEvenDimension_eq (value : ℚ) :
    roundedEvenDimension value = min (max (round (value / 2) * 2) 2).toNat (2 ^ 32 - 1) := rfl

/-- An even bound of a value bounds what it is rounded to. -/
theorem roundedEvenDimension_le (even : n % 2 = 0) (two : 2 ≤ n) (le : value ≤ n) :
    roundedEvenDimension value ≤ n := by
  have half : round (value / 2) ≤ ((n / 2 : Nat) : Int) := by
    by_contra above
    have next : ((n / 2 : Nat) : Int) + 1 ≤ round (value / 2) := by omega
    rw [le_round] at next
    have whole : 2 * (((n / 2 : Nat) : Int) : ℚ) = n := by
      have : 2 * (n / 2) = n := by omega
      exact_mod_cast this
    push_cast at next whole
    linarith
  rw [roundedEvenDimension_eq]
  omega

theorem le_roundedEvenDimension (small : n < 2 ^ 32) (le : (n : ℚ) ≤ value) :
    n ≤ roundedEvenDimension value := by
  have half : (((n + 1) / 2 : Nat) : Int) ≤ round (value / 2) := by
    have whole : 2 * ((n + 1) / 2) ≤ n + 1 := by omega
    generalize (n + 1) / 2 = half at whole ⊢
    have cast : (2 : ℚ) * half ≤ n + 1 := by exact_mod_cast whole
    rw [le_round, Int.cast_natCast]
    linarith
  rw [roundedEvenDimension_eq]
  omega

theorem two_le_roundedEvenDimension (value : ℚ) : 2 ≤ roundedEvenDimension value := by
  rw [roundedEvenDimension_eq]
  omega

/-- A size that a word can hold is even. -/
theorem roundedEvenDimension_even (small : roundedEvenDimension value < 2 ^ 32 - 1) :
    roundedEvenDimension value % 2 = 0 := by
  rw [roundedEvenDimension_eq] at small ⊢
  omega

end Rounding

section Canonical

/-- An even size that a word can hold. -/
structure VideoDimensions.Even (dimensions : VideoDimensions) : Prop where
  width : dimensions.width % 2 = 0 ∧ 2 ≤ dimensions.width ∧ dimensions.width < 2 ^ 32 - 1
  height : dimensions.height % 2 = 0 ∧ 2 ≤ dimensions.height ∧ dimensions.height < 2 ^ 32 - 1

/-- An edge of a first size, from the edge of the source and the scale. -/
theorem bounded_edge {edge bound : Nat} {scale : ℚ} (two : 2 ≤ edge) (word : edge < 2 ^ 32)
    (positive : 0 < bound) (fits : scale ≤ (bound : ℚ) / edge) {size : Nat}
    (is : size = max (min (roundedEvenDimension (edge * scale)) (evenDimension edge)) 2) :
    size % 2 = 0 ∧ 2 ≤ size ∧ size < 2 ^ 32 - 1 ∧ size ≤ edge ∧ size ≤ bound + 1 := by
  have le : (edge : ℚ) * scale ≤ ((bound + bound % 2 : Nat) : ℚ) := by
    have nonzero : (0 : ℚ) < edge := by exact_mod_cast (by omega : 0 < edge)
    have scaled := mul_le_mul_of_nonneg_left fits nonzero.le
    rw [mul_div_cancel₀ _ nonzero.ne'] at scaled
    have room : (bound : ℚ) ≤ ((bound + bound % 2 : Nat) : ℚ) := by
      exact_mod_cast Nat.le_add_right bound (bound % 2)
    linarith
  have inside := roundedEvenDimension_le (by omega) (by omega) le
  have lower := two_le_roundedEvenDimension (edge * scale)
  have parity := @roundedEvenDimension_even (edge * scale)
  unfold evenDimension at is
  omega

theorem boundedDimensions_some {width height maxWidth maxHeight : Nat} {initial : VideoDimensions}
    (bounded : boundedDimensions width height maxWidth maxHeight = some initial)
    (words : width < 2 ^ 32 ∧ height < 2 ^ 32) (positive : 0 < maxWidth ∧ 0 < maxHeight) :
    initial.Even ∧ initial.width ≤ width ∧ initial.height ≤ height ∧
      initial.width ≤ maxWidth + 1 ∧ initial.height ≤ maxHeight + 1 := by
  unfold boundedDimensions at bounded
  split at bounded
  · cases bounded
  · rename_i two
    push Not at two
    simp only [Option.some.injEq] at bounded
    rw [← bounded]
    have scale := min_le_left (min ((maxWidth : ℚ) / width) (maxHeight / height)) 1
    have wide := bounded_edge two.1 words.1 positive.1 (le_trans scale (min_le_left _ _)) rfl
    have tall := bounded_edge two.2 words.2 positive.2 (le_trans scale (min_le_right _ _)) rfl
    exact ⟨⟨⟨wide.1, wide.2.1, wide.2.2.1⟩, ⟨tall.1, tall.2.1, tall.2.2.1⟩⟩,
      wide.2.2.2.1, tall.2.2.2.1, wide.2.2.2.2, tall.2.2.2.2⟩

end Canonical

section Rungs
open NormalizationPlanner
variable {initial : VideoDimensions} {minimum shortEdge : Nat}

theorem VideoDimensions.Even.short (even : initial.Even) :
    initial.shortEdge % 2 = 0 ∧ 2 ≤ initial.shortEdge := by
  obtain ⟨width, height⟩ := even
  unfold VideoDimensions.shortEdge
  omega

/-- An edge that is scaled down with the short one. -/
theorem scaled_edge {edge short : Nat} (even : edge % 2 = 0 ∧ 2 ≤ edge ∧ edge < 2 ^ 32 - 1)
    (positive : 0 < short) (shortest : short ≤ edge) (smaller : shortEdge ≤ short) :
    let size := max (roundedEvenDimension (edge * ((shortEdge : ℚ) / short))) 2
    (size % 2 = 0 ∧ 2 ≤ size ∧ size < 2 ^ 32 - 1) ∧ size ≤ edge ∧ shortEdge ≤ size := by
  intro size
  have nonzero : (0 : ℚ) < short := by exact_mod_cast positive
  have below : (edge : ℚ) * ((shortEdge : ℚ) / short) ≤ edge := by
    have ratio : (shortEdge : ℚ) / short ≤ 1 := by
      rw [div_le_one nonzero]
      exact_mod_cast smaller
    exact mul_le_of_le_one_right (Nat.cast_nonneg edge) ratio
  have above : (shortEdge : ℚ) ≤ edge * ((shortEdge : ℚ) / short) := by
    rw [mul_div_assoc', le_div_iff₀ nonzero, mul_comm]
    have longer : (short : ℚ) ≤ edge := by exact_mod_cast shortest
    exact mul_le_mul_of_nonneg_right longer (Nat.cast_nonneg shortEdge)
  have upper := roundedEvenDimension_le even.1 even.2.1 below
  have lower := le_roundedEvenDimension (by omega) above
  have parity := @roundedEvenDimension_even (edge * ((shortEdge : ℚ) / short))
  omega

/-- A size of a ladder. -/
structure IsRung (initial : VideoDimensions) (minimum : Nat) (rung : VideoDimensions) : Prop where
  even : rung.Even
  width : rung.width ≤ initial.width
  height : rung.height ≤ initial.height
  tall : minimum ≤ rung.shortEdge

theorem scaledTo_isRung (even : initial.Even) (smaller : shortEdge ≤ initial.shortEdge) :
    IsRung initial shortEdge (scaledTo initial shortEdge) := by
  have positive : 0 < initial.shortEdge := by have := even.short.2; omega
  have wide := scaled_edge even.width positive (Nat.min_le_left _ _) smaller
  have tall := scaled_edge even.height positive (Nat.min_le_right _ _) smaller
  exact ⟨⟨wide.1, tall.1⟩, wide.2.1, tall.2.1, Nat.le_min.mpr ⟨wide.2.2, tall.2.2⟩⟩

theorem ladderBelow_isRung (even : initial.Even) (low : minimum ≤ initial.shortEdge) {fuel : Nat}
    {last rung : VideoDimensions} (within : shortEdge ≤ initial.shortEdge)
    (member : rung ∈ ladderBelow initial minimum fuel last shortEdge) :
    IsRung initial minimum rung := by
  induction fuel generalizing last shortEdge with
  | zero => cases member
  | succ fuel ih =>
    have next : min (max ((shortEdge * 3 + 2) / 4) minimum) (shortEdge - 2) ≤ initial.shortEdge := by
      omega
    have candidate := scaledTo_isRung even next
    rw [ladderBelow] at member
    split at member
    · simp only at member
      split at member
      · split at member
        · rw [List.mem_singleton.mp member]
          exact scaledTo_isRung even low
        · cases member
      · rename_i tall
        split at member
        · cases member
        · rcases List.mem_cons.mp member with rfl | below
          · exact { candidate with tall := Nat.le_of_not_lt tall }
          · refine ih ?_ below
            exact Nat.le_min.mpr
              ⟨le_trans (Nat.min_le_left _ _) candidate.width,
                le_trans (Nat.min_le_right _ _) candidate.height⟩
    · cases member

/-- The short edge of a size that is scaled to it, to the next even one. -/
theorem scaledTo_short (even : initial.Even) :
    (scaledTo initial shortEdge).shortEdge ≤ max (shortEdge + shortEdge % 2) 2 := by
  have positive : (0 : ℚ) < initial.shortEdge := by
    exact_mod_cast (by have := even.short.2; omega : 0 < initial.shortEdge)
  have exact : ∀ edge : Nat, edge = initial.shortEdge →
      max (roundedEvenDimension (edge * ((shortEdge : ℚ) / initial.shortEdge))) 2 ≤
        max (shortEdge + shortEdge % 2) 2 := by
    intro edge is
    rw [is, mul_div_cancel₀ _ positive.ne']
    have room : (shortEdge : ℚ) ≤ ((max (shortEdge + shortEdge % 2) 2 : Nat) : ℚ) := by
      exact_mod_cast le_trans (Nat.le_add_right _ _) (Nat.le_max_left _ _)
    have := roundedEvenDimension_le (by omega) (by omega) room
    omega
  rcases Nat.le_total initial.width initial.height with narrow | flat
  · have is : initial.width = initial.shortEdge := (Nat.min_eq_left narrow).symm
    exact le_trans (Nat.min_le_left _ _) (exact _ is)
  · have is : initial.height = initial.shortEdge := (Nat.min_eq_right flat).symm
    exact le_trans (Nat.min_le_right _ _) (exact _ is)

/-- The loop makes no more rounds than its edge is long: each takes two off the
    edge, but for the round that finds the smallest size of all a second time. -/
theorem ladderBelow_ends (even : initial.Even) {fuel : Nat} {last : VideoDimensions}
    (within : shortEdge ≤ initial.shortEdge) (parity : shortEdge % 2 = 0) (two : 2 ≤ shortEdge)
    (enough : shortEdge ≤ fuel ∨ shortEdge = 2 ∧ last = scaledTo initial 0 ∧ 1 ≤ fuel)
    (more : Nat) : ladderBelow initial minimum (fuel + more) last shortEdge =
      ladderBelow initial minimum fuel last shortEdge := by
  induction fuel generalizing last shortEdge with
  | zero => omega
  | succ fuel ih =>
    have shape : fuel + 1 + more = (fuel + more) + 1 := by omega
    rw [shape, ladderBelow, ladderBelow]
    by_cases above : shortEdge > minimum
    · rw [if_pos above, if_pos above]
      simp only
      have next : min (max ((shortEdge * 3 + 2) / 4) minimum) (shortEdge - 2) ≤ shortEdge - 2 :=
        Nat.min_le_right _ _
      generalize min (max ((shortEdge * 3 + 2) / 4) minimum) (shortEdge - 2) = nextShort at next ⊢
      have candidate := @scaledTo_isRung initial nextShort even (by omega)
      have short := @scaledTo_short initial nextShort even
      have evenShort := candidate.even.short
      split
      · rfl
      · split
        · rfl
        · rename_i other
          congr 1
          refine ih ?_ evenShort.1 evenShort.2 ?_
          · exact Nat.le_min.mpr
              ⟨le_trans (Nat.min_le_left _ _) candidate.width,
                le_trans (Nat.min_le_right _ _) candidate.height⟩
          · rcases Nat.eq_or_lt_of_le two with smallest | longer
            · have zero : nextShort = 0 := by omega
              rw [zero] at short evenShort other ⊢
              rcases enough with enough | ⟨_, again, _⟩
              · exact Or.inr ⟨by omega, rfl, by omega⟩
              · exact absurd again other
            · exact Or.inl (by omega)
    · rw [if_neg above, if_neg above]

end Rungs

section Planner
variable {planner : NormalizationPlanner} {video : MediaStream} {initial rung : VideoDimensions}

/-- The bounds of a validated profile are not zero. -/
theorem NormalizationPlanner.bounds (planner : NormalizationPlanner) :
    0 < planner.profile.maxWidth.toNat ∧ 0 < planner.profile.maxHeight.toNat ∧
      0 < planner.profile.minimumShortEdge.toNat := by
  have positive : ∀ {word : UInt32}, word ≠ 0 → 0 < word.toNat := by
    intro word nonzero
    rcases Nat.eq_zero_or_pos word.toNat with zero | positive
    · exact absurd (UInt32.toNat_inj.mp zero) nonzero
    · exact positive
  have valid := planner.valid
  obtain ⟨_, dimensions, valid⟩ := bind_ok.mp valid
  obtain ⟨_, _, valid⟩ := bind_ok.mp valid
  obtain ⟨_, _, valid⟩ := bind_ok.mp valid
  obtain ⟨_, _, valid⟩ := bind_ok.mp valid
  obtain ⟨_, shortEdge, _⟩ := bind_ok.mp valid
  have dimensions := require_ok.mp dimensions
  push Not at dimensions
  exact ⟨positive dimensions.1, positive dimensions.2, positive (require_ok.mp shortEdge)⟩

theorem canonicalDimensions_some {size : Nat × Nat} (coded : codedSize video = some size)
    (canonical : planner.canonicalDimensions video = some initial) :
    initial.Even ∧ initial.width ≤ planner.profile.maxWidth.toNat + 1 ∧
      initial.height ≤ planner.profile.maxHeight.toNat + 1 := by
  have words : size.1 < 2 ^ 32 ∧ size.2 < 2 ^ 32 := by
    unfold codedSize at coded
    split at coded
    · cases coded
      exact ⟨UInt32.toNat_lt _, UInt32.toNat_lt _⟩
    · cases coded
  rw [NormalizationPlanner.canonicalDimensions, coded, Option.bind_some] at canonical
  have bounded := boundedDimensions_some canonical words ⟨planner.bounds.1, planner.bounds.2.1⟩
  exact ⟨bounded.1, bounded.2.2.2⟩

/-- The first size of a ladder is the canonical one. -/
theorem resolutionLadder_head :
    (planner.resolutionLadder video).head? = planner.canonicalDimensions video := by
  unfold NormalizationPlanner.resolutionLadder
  split
  · rename_i none
    rw [none]
    rfl
  · rename_i initial canonical
    rw [canonical]
    simp only
    split <;> rfl

theorem resolutionLadder_isRung {size : Nat × Nat} (coded : codedSize video = some size)
    (canonical : planner.canonicalDimensions video = some initial)
    (member : rung ∈ planner.resolutionLadder video) :
    IsRung initial (min planner.profile.minimumShortEdge.toNat initial.shortEdge) rung := by
  have even := (canonicalDimensions_some coded canonical).1
  have first : IsRung initial (min planner.profile.minimumShortEdge.toNat initial.shortEdge)
      initial := ⟨even, Nat.le_refl _, Nat.le_refl _, Nat.min_le_right _ _⟩
  unfold NormalizationPlanner.resolutionLadder at member
  rw [canonical] at member
  simp only at member
  split at member
  · rw [List.mem_singleton.mp member]
    exact first
  · rename_i above
    rcases List.mem_cons.mp member with rfl | below
    · exact first
    · have low : planner.profile.minimumShortEdge.toNat ≤ initial.shortEdge := by omega
      rw [Nat.min_eq_left low]
      exact ladderBelow_isRung even low (Nat.le_refl _) below

/-- No size is missing from a ladder for want of rounds. -/
theorem resolutionLadder_ends {size : Nat × Nat} (coded : codedSize video = some size)
    (canonical : planner.canonicalDimensions video = some initial) (minimum more : Nat) :
    NormalizationPlanner.ladderBelow initial minimum (initial.shortEdge + more) initial
        initial.shortEdge =
      NormalizationPlanner.ladderBelow initial minimum initial.shortEdge initial
        initial.shortEdge := by
  have even := (canonicalDimensions_some coded canonical).1
  exact ladderBelow_ends even (Nat.le_refl _) even.short.1 even.short.2
    (Or.inl (Nat.le_refl _)) more

theorem twoPassCandidateOf_mem {probe : MediaProbe} {rate : UInt64}
    (candidate : planner.twoPassCandidateOf video probe = some (rung, rate)) :
    rung ∈ planner.resolutionLadder video := by
  unfold NormalizationPlanner.twoPassCandidateOf at candidate
  simp only [Option.bind_eq_bind, Option.bind_eq_some_iff, Option.pure_def] at candidate
  obtain ⟨_, _, _, _, found, selected, is⟩ := candidate
  cases is
  exact List.mem_of_find?_eq_some selected

end Planner

end Sooqa.Media
