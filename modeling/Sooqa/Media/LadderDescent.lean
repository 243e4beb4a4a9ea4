import Sooqa.Media.ResolutionLadder

/-!
The descent of a resolution ladder: each size lies inside the one before it, and
the checks that its plans make accept them all.
-/
namespace Sooqa.Media
open Foundation NormalizationPlanner

/-- A size that another one holds. -/
structure VideoDimensions.Inside (inner outer : VideoDimensions) : Prop where
  width : inner.width ≤ outer.width
  height : inner.height ≤ outer.height

/-- The step of a ladder: a different size inside the last one. -/
def StepsDown (last next : VideoDimensions) : Prop := next.Inside last ∧ next ≠ last

section Scaling
variable {initial : VideoDimensions} {shortEdge other : Nat}

theorem roundedEvenDimension_mono {value larger : ℚ} (le : value ≤ larger) :
    roundedEvenDimension value ≤ roundedEvenDimension larger := by
  have rounds : round (value / 2) ≤ round (larger / 2) := by
    unfold round
    apply Int.floor_le_floor
    linarith
  rw [roundedEvenDimension_eq, roundedEvenDimension_eq]
  omega

/-- A smaller short edge gives a size inside that of a larger one. -/
theorem scaledTo_mono (le : shortEdge ≤ other) :
    (scaledTo initial shortEdge).Inside (scaledTo initial other) := by
  have scale : (shortEdge : ℚ) / initial.shortEdge ≤ (other : ℚ) / initial.shortEdge := by
    apply div_le_div_of_nonneg_right
    · exact_mod_cast le
    · exact Nat.cast_nonneg _
  have edge : ∀ edge : Nat, roundedEvenDimension (edge * ((shortEdge : ℚ) / initial.shortEdge)) ≤
      roundedEvenDimension (edge * ((other : ℚ) / initial.shortEdge)) := by
    intro edge
    exact roundedEvenDimension_mono (mul_le_mul_of_nonneg_left scale (Nat.cast_nonneg edge))
  exact ⟨max_le_max_right 2 (edge _), max_le_max_right 2 (edge _)⟩

theorem scaledTo_inside (even : initial.Even) (le : shortEdge ≤ initial.shortEdge) :
    (scaledTo initial shortEdge).Inside initial :=
  ⟨(scaledTo_isRung even le).width, (scaledTo_isRung even le).height⟩

end Scaling

section Descent
variable {initial last : VideoDimensions} {minimum shortEdge : Nat}

/-- What holds of the last size of a ladder while the loop runs: every size that
    can follow lies inside it. -/
structure Descending (initial : VideoDimensions) (minimum : Nat) (last : VideoDimensions)
    (shortEdge reach : Nat) : Prop where
  reach_le : reach ≤ initial.shortEdge
  inside : ∀ edge ≤ reach, (scaledTo initial edge).Inside last
  next : shortEdge - 2 ≤ reach
  floor : 2 < minimum → minimum ≤ reach

/-- A candidate that is not below the floor takes the place of the last size. -/
theorem Descending.step {reach : Nat} (descending : Descending initial minimum last shortEdge reach)
    (even : initial.Even) (low : minimum ≤ initial.shortEdge) {next : Nat}
    (is : next = min (max ((shortEdge * 3 + 2) / 4) minimum) (shortEdge - 2))
    (parity : shortEdge % 2 = 0)
    (tall : ¬ (scaledTo initial next).shortEdge < minimum) :
    Descending initial minimum (scaledTo initial next) (scaledTo initial next).shortEdge next := by
  have reach_le := descending.reach_le
  have below := descending.next
  have short := @scaledTo_short initial next even
  refine ⟨by omega, fun edge le => scaledTo_mono le, by omega, ?_⟩
  intro more
  by_contra under
  have last_even : next % 2 = 0 := by omega
  omega

theorem ladderBelow_descends (even : initial.Even) (low : minimum ≤ initial.shortEdge)
    {fuel reach : Nat} (descending : Descending initial minimum last shortEdge reach)
    (parity : shortEdge % 2 = 0) :
    (last :: ladderBelow initial minimum fuel last shortEdge).IsChain StepsDown := by
  induction fuel generalizing last shortEdge reach with
  | zero => exact List.isChain_singleton _
  | succ fuel ih =>
    rw [ladderBelow]
    by_cases above : shortEdge > minimum
    · rw [if_pos above]
      simp only
      generalize is : min (max ((shortEdge * 3 + 2) / 4) minimum) (shortEdge - 2) = next
      have reachable : next ≤ reach := by have := descending.next; omega
      split
      · rename_i short
        -- The floor is tried once, and ends the ladder.
        have two := (scaledTo_isRung even
          (Nat.le_trans reachable descending.reach_le)).even.short.2
        split
        · rename_i different
          refine List.isChain_pair.mpr ⟨descending.inside minimum ?_, different.symm⟩
          exact descending.floor (by omega)
        · exact List.isChain_singleton _
      · rename_i tall
        split
        · exact List.isChain_singleton _
        · rename_i different
          have stepped := descending.step even low is.symm parity tall
          have candidate := scaledTo_isRung even
            (Nat.le_trans reachable descending.reach_le)
          refine List.isChain_cons_cons.mpr ⟨⟨descending.inside next reachable,
            fun same => different same.symm⟩, ih stepped candidate.even.short.1⟩
    · rw [if_neg above]
      exact List.isChain_singleton _

end Descent

section Planner
variable {planner : NormalizationPlanner} {video : MediaStream}
  {initial rung : VideoDimensions} {size : Nat × Nat}

/-- The even bounds of a profile bound its first sizes. -/
structure EvenBounds (profile : CanonicalVideoProfile) : Prop where
  width : profile.maxWidth.toNat % 2 = 0
  height : profile.maxHeight.toNat % 2 = 0

theorem canonicalDimensions_within (bounds : EvenBounds planner.profile)
    (coded : codedSize video = some size)
    (canonical : planner.canonicalDimensions video = some initial) :
    initial.Even ∧ initial.width ≤ size.1 ∧ initial.height ≤ size.2 ∧
      initial.width ≤ planner.profile.maxWidth.toNat ∧
      initial.height ≤ planner.profile.maxHeight.toNat := by
  have words : size.1 < 2 ^ 32 ∧ size.2 < 2 ^ 32 := by
    unfold codedSize at coded
    split at coded
    · cases coded
      exact ⟨UInt32.toNat_lt _, UInt32.toNat_lt _⟩
    · cases coded
  rw [NormalizationPlanner.canonicalDimensions, coded, Option.bind_some] at canonical
  have bounded := boundedDimensions_some canonical words
    ⟨planner.bounds.1, planner.bounds.2.1⟩
  obtain ⟨even, wide, tall, inner, upper⟩ := bounded
  have parity := even.width.1
  have parity' := even.height.1
  have evenWidth := bounds.width
  have evenHeight := bounds.height
  exact ⟨even, wide, tall, by omega, by omega⟩

variable (planner) in
theorem canonicalDimensions_exists (coded : codedSize video = some size)
    (two : 2 ≤ size.1 ∧ 2 ≤ size.2) :
    ∃ initial, planner.canonicalDimensions video = some initial := by
  rw [NormalizationPlanner.canonicalDimensions, coded, Option.bind_some, boundedDimensions,
    if_neg (by omega)]
  exact ⟨_, rfl⟩

theorem resolutionLadder_cons (canonical : planner.canonicalDimensions video = some initial) :
    planner.resolutionLadder video =
      initial ::
        if initial.shortEdge ≤ planner.profile.minimumShortEdge.toNat then []
        else ladderBelow initial planner.profile.minimumShortEdge.toNat initial.shortEdge initial
          initial.shortEdge := by
  unfold NormalizationPlanner.resolutionLadder
  rw [canonical]
  simp only
  split <;> rfl

theorem resolutionLadder_chain (coded : codedSize video = some size)
    (canonical : planner.canonicalDimensions video = some initial) :
    (planner.resolutionLadder video).IsChain StepsDown := by
  have even := (canonicalDimensions_some coded canonical).1
  rw [resolutionLadder_cons canonical]
  split
  · exact List.isChain_singleton _
  · rename_i above
    have start : Descending initial planner.profile.minimumShortEdge.toNat initial
        initial.shortEdge initial.shortEdge :=
      ⟨Nat.le_refl _, fun edge le => scaledTo_inside even le, Nat.sub_le _ _, fun _ => by omega⟩
    exact ladderBelow_descends even (by omega) start even.short.1

/-- Every size of a ladder passes the check that plans make of it. -/
theorem validateCandidateDimensions_rung (bounds : EvenBounds planner.profile)
    (coded : codedSize video = some size)
    (canonical : planner.canonicalDimensions video = some initial)
    (member : rung ∈ planner.resolutionLadder video) :
    validateCandidateDimensions rung video planner.profile = .ok () := by
  obtain ⟨_, wide, tall, inner, upper⟩ := canonicalDimensions_within bounds coded canonical
  have isRung := resolutionLadder_isRung coded canonical member
  have width := isRung.width
  have height := isRung.height
  have evenWidth := isRung.even.width
  have evenHeight := isRung.even.height
  have floor := isRung.tall
  have first : ((codedSize video).bind fun size => boundedDimensions size.1 size.2
      planner.profile.maxWidth.toNat planner.profile.maxHeight.toNat) = some initial := canonical
  have enough : ((some initial).map fun canonical : VideoDimensions =>
      min planner.profile.minimumShortEdge.toNat canonical.shortEdge).any
        (fun minimum => decide (rung.shortEdge < minimum)) = false := by
    simp only [Option.map_some, Option.any_some, decide_eq_false_iff_not]
    omega
  have smaller : (codedSize video).any
      (fun size => decide (rung.width > size.1 ∨ rung.height > size.2)) = false := by
    rw [coded]
    simp only [Option.any_some, decide_eq_false_iff_not]
    omega
  unfold validateCandidateDimensions
  simp only [bind_ok, require_ok, first, enough, smaller, Bool.false_eq_true, or_false,
    not_false_eq_true, and_true]
  exact ⟨(), by omega⟩

end Planner

/-- A resolution ladder starts with the canonical size and goes down from it,
    each size inside the one before and none of them above the source. Its loop
    ends by itself, and the plans of every size of it are made. -/
theorem resolution_ladder_descends (planner : NormalizationPlanner)
    (maxima : planner.profile.maxWidth = 1920 ∧ planner.profile.maxHeight = 1080)
    (video : MediaStream) (width height : UInt32)
    (size : video.width = some width ∧ video.height = some height)
    (two : 2 ≤ width.toNat ∧ 2 ≤ height.toNat) :
    ∃ initial, planner.canonicalDimensions video = some initial ∧
      (planner.resolutionLadder video).head? = some initial ∧
      (∀ fuel ≥ initial.shortEdge,
        ladderBelow initial planner.profile.minimumShortEdge.toNat fuel initial
            initial.shortEdge =
          ladderBelow initial planner.profile.minimumShortEdge.toNat initial.shortEdge initial
            initial.shortEdge) ∧
      (planner.resolutionLadder video).IsChain StepsDown ∧
      ∀ rung ∈ planner.resolutionLadder video,
        rung.width ≤ width.toNat ∧ rung.height ≤ height.toNat ∧
          validateCandidateDimensions rung video planner.profile = .ok () ∧
          ∀ (input output : String) (probe : MediaProbe), firstVideoStream probe = some video →
            (∃ plan, planner.planQualityCandidate input output probe rung = .ok plan) ∧
              ∀ (kbps : UInt64) (passlogPrefix : String), kbps ≠ 0 →
                ∃ plan, planner.planTwoPass input output probe rung kbps passlogPrefix =
                  .ok plan := by
  have coded : codedSize video = some (width.toNat, height.toNat) := by
    rw [codedSize, size.1, size.2]
  have bounds : EvenBounds planner.profile := by
    constructor
    · rw [maxima.1]
      decide
    · rw [maxima.2]
      decide
  obtain ⟨initial, canonical⟩ := canonicalDimensions_exists planner coded two
  obtain ⟨_, wide, tall, _⟩ := canonicalDimensions_within bounds coded canonical
  refine ⟨initial, canonical, ?_, ?_, resolutionLadder_chain coded canonical, ?_⟩
  · rw [resolutionLadder_head, canonical]
  · intro fuel enough
    obtain ⟨more, rfl⟩ := Nat.exists_eq_add_of_le enough
    exact resolutionLadder_ends coded canonical _ more
  · intro rung member
    have isRung := resolutionLadder_isRung coded canonical member
    have accepted := validateCandidateDimensions_rung bounds coded canonical member
    refine ⟨Nat.le_trans isRung.width wide, Nat.le_trans isRung.height tall, accepted, ?_⟩
    intro input output probe found
    constructor
    · exact ⟨_, bind_ok.mpr ⟨video, expect_ok.mpr found, bind_ok.mpr ⟨(), accepted, rfl⟩⟩⟩
    · intro kbps passlogPrefix some_bits
      exact ⟨_, bind_ok.mpr ⟨video, expect_ok.mpr found, bind_ok.mpr ⟨(), accepted,
        bind_ok.mpr ⟨(), require_ok.mpr some_bits, rfl⟩⟩⟩⟩

def canonicalPlanner : NormalizationPlanner := ⟨"ffmpeg", .default, default_valid⟩

/-- A video stream of which little more than its size is known. -/
def plainVideo (width height : UInt32) : MediaStream where
  index := 0
  kind := .video
  codec := none
  attachedPicture := false
  codecTag := none
  codecMime := none
  level := none
  profile := none
  pixelFormat := none
  width := some width
  height := some height
  displayAspectRatio := none
  frameRate := none
  rotationDegrees := none
  sampleRateHz := none
  channels := none
  bitRate := none

theorem odd_video_descends :
    (canonicalPlanner.resolutionLadder (plainVideo 1919 1079)).head? = some ⟨1918, 1078⟩ ∧
      (canonicalPlanner.resolutionLadder (plainVideo 1919 1079)).IsChain StepsDown := by
  obtain ⟨initial, canonical, head, _, chain, _⟩ := resolution_ladder_descends canonicalPlanner
    ⟨rfl, rfl⟩ (plainVideo 1919 1079) 1919 1079 ⟨rfl, rfl⟩ (by decide)
  have first : canonicalPlanner.canonicalDimensions (plainVideo 1919 1079) = some ⟨1918, 1078⟩ := by
    decide +kernel
  cases canonical.symm.trans first
  exact ⟨head, chain⟩

end Sooqa.Media
