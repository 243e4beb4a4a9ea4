import Sooqa.Media.ResolutionLadder
import Sooqa.Worker.PlannedStream

/-!
What the scale filter makes of a picture, and when the check that follows it
accepts the size.
-/
namespace Sooqa.Worker
open Foundation Media

section Filter

/-- The picture that is shown: a quarter turn swaps its edges. -/
def shownSize (video : MediaStream) (coded : Nat × Nat) : Nat × Nat :=
  if (video.rotationDegrees.getD 0).toInt % 180 = 90 then coded.swap else coded

/-- An edge in the proportions of the picture. -/
def proportional (edge above under : Nat) : Nat := (Media.round ((edge * above : ℚ) / under)).toNat

/-- The filter `scale` with `force_original_aspect_ratio=decrease` and
    `force_divisible_by=2`. -/
def scaleFilterSize (requested : VideoDimensions) (picture : Nat × Nat) : Nat × Nat :=
  (2 * (min requested.width (proportional requested.height picture.1 picture.2) / 2),
    2 * (min requested.height (proportional requested.width picture.2 picture.1) / 2))

/-- The size of the first video stream of an output. -/
def outputSize (output : MediaProbe) : Option (Nat × Nat) :=
  (output.streams.find? (·.kind == .video)).bind codedSize

/-- At the height of a requested size the picture is as wide as the even size
    at or above the floor, at its width it is as high as that, up to half a
    pixel; and an edge above the bound of the profile is not reached. -/
structure KeepsToLadder (planner : NormalizationPlanner) (floor : Nat)
    (requested : VideoDimensions) (picture : Nat × Nat) : Prop where
  wide : (2 * (floor + floor % 2) - 1) * picture.2 ≤ 2 * (requested.height * picture.1)
  tall : (2 * (floor + floor % 2) - 1) * picture.1 ≤ 2 * (requested.width * picture.2)
  width : requested.width ≤ planner.profile.maxWidth.toNat ∨
    2 * (requested.height * picture.1) < (2 * planner.profile.maxWidth.toNat + 1) * picture.2
  height : requested.height ≤ planner.profile.maxHeight.toNat ∨
    2 * (requested.width * picture.2) < (2 * planner.profile.maxHeight.toNat + 1) * picture.1

end Filter

section Acceptance
variable {planner : NormalizationPlanner} {video : MediaStream}

theorem le_proportional {k edge above under : Nat} (one : 1 ≤ k) (nonzero : 0 < under) :
    k ≤ proportional edge above under ↔ (2 * k - 1) * under ≤ 2 * (edge * above) := by
  have positive : (0 : ℚ) < under := by exact_mod_cast nonzero
  have word : k ≤ proportional edge above under ↔
      (k : Int) ≤ Media.round ((edge * above : ℚ) / under) := by
    unfold proportional
    omega
  rw [word, le_round, Int.cast_natCast, mul_div_assoc', le_div_iff₀ positive]
  have odd : ((2 * k - 1 : Nat) : ℚ) = 2 * k - 1 := by
    rw [Nat.cast_sub (by omega)]
    push_cast
    rfl
  rw [← odd]
  exact_mod_cast Iff.rfl

theorem proportional_le {edge above under bound : Nat} (nonzero : 0 < under) :
    proportional edge above under ≤ bound ↔ 2 * (edge * above) < (2 * bound + 1) * under := by
  have next := @le_proportional (bound + 1) edge above under (by omega) nonzero
  have odd : 2 * (bound + 1) - 1 = 2 * bound + 1 := by omega
  rw [odd] at next
  omega

/-- An edge of the filter's output against the floor and the bound. -/
theorem filtered_edge {edge fitted floor bound : Nat} (even : edge % 2 = 0) (tall : floor ≤ edge)
    (near : edge ≤ bound + 1) :
    (floor ≤ 2 * (min edge fitted / 2) ∧ 2 * (min edge fitted / 2) ≤ bound) ↔
      floor + floor % 2 ≤ fitted ∧ (edge ≤ bound ∨ fitted ≤ bound) := by
  omega

theorem validateAdaptedDimensions_ok {output : MediaProbe} {requested : VideoDimensions}
    {width height : Nat} (shown : outputSize output = some (width, height)) :
    validateAdaptedDimensions planner output requested video = .ok () ↔
      ¬ (width = 0 ∨ height = 0 ∨ width % 2 ≠ 0 ∨ height % 2 ≠ 0 ∨
        width > requested.width ∨ height > requested.height ∨
        width > planner.profile.maxWidth.toNat ∨ height > planner.profile.maxHeight.toNat ∨
        (planner.effectiveMinimumShortEdge video).any fun minimum =>
          min width height < minimum) := by
  obtain ⟨picture, first, coded⟩ := Option.bind_eq_some_iff.mp shown
  unfold validateAdaptedDimensions
  rw [first, expect, bind_ok_eq, coded, expect, bind_ok_eq]
  exact require_ok

/-- A size of the ladder passes the check behind the filter exactly where the
    picture, at that size, keeps to the floor and to the profile. -/
theorem rung_accepted_iff (planner : NormalizationPlanner) (video : MediaStream)
    {coded : Nat × Nat} (size : codedSize video = some coded) (two : 2 ≤ coded.1 ∧ 2 ≤ coded.2)
    {requested : VideoDimensions} (rung : requested ∈ planner.resolutionLadder video)
    {output : MediaProbe}
    (filtered : outputSize output = some (scaleFilterSize requested (shownSize video coded))) :
    validateAdaptedDimensions planner output requested video = .ok () ↔
      KeepsToLadder planner ((planner.effectiveMinimumShortEdge video).getD 0) requested
        (shownSize video coded) := by
  obtain ⟨initial, canonical⟩ : ∃ initial, planner.canonicalDimensions video = some initial := by
    cases canonical : planner.canonicalDimensions video with
    | some initial => exact ⟨initial, rfl⟩
    | none =>
      rw [NormalizationPlanner.resolutionLadder, canonical] at rung
      cases rung
  have least : planner.effectiveMinimumShortEdge video =
      some (min planner.profile.minimumShortEdge.toNat initial.shortEdge) := by
    rw [NormalizationPlanner.effectiveMinimumShortEdge, canonical, Option.map_some]
  obtain ⟨even, nearWidth, nearHeight⟩ := canonicalDimensions_some size canonical
  have is := resolutionLadder_isRung size canonical rung
  have one : 1 ≤ min planner.profile.minimumShortEdge.toNat initial.shortEdge := by
    have := planner.bounds.2.2
    have := even.short.2
    omega
  have shown : 2 ≤ (shownSize video coded).1 ∧ 2 ≤ (shownSize video coded).2 := by
    unfold shownSize
    split
    · exact two.symm
    · exact two
  rw [validateAdaptedDimensions_ok filtered, least, Option.any_some, Option.getD_some]
  generalize shownSize video coded = picture at shown ⊢
  generalize min planner.profile.minimumShortEdge.toNat initial.shortEdge = floor at one is ⊢
  have floors : floor ≤ requested.width ∧ floor ≤ requested.height := Nat.le_min.mp is.tall
  have wide := @filtered_edge _ (proportional requested.height picture.1 picture.2) _ _
    is.even.width.1 floors.1 (le_trans is.width nearWidth)
  have tall := @filtered_edge _ (proportional requested.width picture.2 picture.1) _ _
    is.even.height.1 floors.2 (le_trans is.height nearHeight)
  rw [le_proportional (by omega) (by omega), proportional_le (by omega)] at wide tall
  have keeps : KeepsToLadder planner floor requested picture ↔ (_ ∧ _) ∧ (_ ∧ _) :=
    ⟨fun keeps => ⟨⟨keeps.wide, keeps.width⟩, ⟨keeps.tall, keeps.height⟩⟩,
      fun both => ⟨both.1.1, both.2.1, both.1.2, both.2.2⟩⟩
  rw [keeps, ← wide, ← tall]
  simp only [decide_eq_true_eq]
  omega

theorem film_is_accepted :
    validateAdaptedDimensions standardPlanner (filmWith [film]) ⟨1280, 720⟩ film = .ok () :=
  (@rung_accepted_iff standardPlanner film (1280, 720) rfl (by decide) _ (by decide +kernel) _
    (by decide +kernel)).mpr
      ⟨by decide +kernel, by decide +kernel, by decide +kernel, by decide +kernel⟩

/-- A film of these edges. -/
def filmSized (width height : UInt32) : MediaStream :=
  { film with width := some width, height := some height }

/-- A telephone's video of 1080 by 1920, at 480 by 852, comes out at 478. -/
theorem upright_video_is_rejected : ¬ ∀ (planner : NormalizationPlanner) (video : MediaStream)
    (coded : Nat × Nat), codedSize video = some coded → 2 ≤ coded.1 ∧ 2 ≤ coded.2 →
      ∀ requested ∈ planner.resolutionLadder video, ∀ output,
        outputSize output = some (scaleFilterSize requested (shownSize video coded)) →
          validateAdaptedDimensions planner output requested video = .ok () := by
  intro claim
  have rung : ⟨480, 852⟩ ∈ standardPlanner.resolutionLadder (filmSized 1080 1920) := by
    decide +kernel
  have filtered : scaleFilterSize ⟨480, 852⟩ (shownSize (filmSized 1080 1920) (1080, 1920)) =
      (478, 852) := by decide +kernel
  have accepted := claim standardPlanner (filmSized 1080 1920) (1080, 1920) rfl (by decide)
    ⟨480, 852⟩ rung (filmWith [filmSized 478 852]) (by rw [filtered]; rfl)
  rw [@validateAdaptedDimensions_ok _ _ _ _ 478 852 rfl] at accepted
  exact accepted (by decide +kernel)

/- A quarter turn has the picture fitted into a size that lies across it. -/
example : scaleFilterSize ⟨1440, 810⟩ (1080, 1920) = (456, 810) := by decide +kernel

end Acceptance

end Sooqa.Worker
