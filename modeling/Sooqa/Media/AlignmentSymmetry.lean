import Sooqa.Media.SelfAlignment

/-!
Two fingerprints compared in either order. The best score is the same, and the
best path of one order is, mirrored, a best path of the other; which of several
best paths is taken depends on the order.
-/
namespace Sooqa.Media
open Foundation LocalAlignment

section Mirror
variable {incoming candidate : VideoSequenceFingerprint}

def PathStep.mirror : PathStep → PathStep
  | .matched i j distance => .matched j i distance
  | .gap => .gap

def Match.mirror (found : Match) : Match :=
  ⟨found.candidateIndex, found.incomingIndex, found.distanceBps⟩

def SequenceEvidence.mirror (evidence : SequenceEvidence) : SequenceEvidence :=
  { evidence with
    alignedOffsetMs := -evidence.alignedOffsetMs
    incomingCoverageBps := evidence.candidateCoverageBps
    candidateCoverageBps := evidence.incomingCoverageBps
    unmatchedIncomingPrefix := evidence.unmatchedCandidatePrefix
    unmatchedIncomingSuffix := evidence.unmatchedCandidateSuffix
    unmatchedCandidatePrefix := evidence.unmatchedIncomingPrefix
    unmatchedCandidateSuffix := evidence.unmatchedIncomingSuffix }

theorem scoreAt_mirror (incoming candidate : List VideoSequenceSample) :
    scoreAt candidate incoming = fun i j => scoreAt incoming candidate j i := by
  funext i j
  unfold scoreAt
  cases candidate[i]? with
  | none => cases incoming[j]? <;> rfl
  | some left =>
    cases incoming[j]? with
    | none => rfl
    | some right => exact pairScore_comm left right

theorem distanceAt_mirror (incoming candidate : List VideoSequenceSample) (i j : Nat) :
    distanceAt candidate incoming j i = distanceAt incoming candidate i j := by
  unfold distanceAt
  cases candidate[j]? with
  | none => cases incoming[i]? <;> rfl
  | some left =>
    cases incoming[i]? with
    | none => rfl
    | some right => exact pairDistanceBps_comm left right

theorem pathOf_mirror (incoming candidate : List VideoSequenceSample) (c : Cell)
    (moves : List Move) :
    pathOf candidate incoming c.swap (mirror moves) =
      (pathOf incoming candidate c moves).map PathStep.mirror := by
  induction moves generalizing c with
  | nil => rfl
  | cons move moves ih =>
    have later := ih (move.target c)
    rw [← target_mirror] at later
    rw [LocalAlignment.mirror, List.map_cons, ← LocalAlignment.mirror]
    cases move with
    | pair =>
      rw [pathOf, List.map_cons, ← later, Move.mirror, pathOf]
      congr 1
      exact congrArg _ (distanceAt_mirror _ _ _ _)
    | skipFirst => exact congrArg _ later
    | skipSecond => exact congrArg _ later

theorem matchesOf_mirror (path : List PathStep) :
    matchesOf (path.map PathStep.mirror) = (matchesOf path).map Match.mirror := by
  induction path with
  | nil => rfl
  | cons step path ih =>
    cases step with
    | matched i j distance => exact congrArg _ ih
    | gap => exact ih

theorem gapsOpened_mirror (afterGap : Bool) (path : List PathStep) :
    gapsOpened afterGap (path.map PathStep.mirror) = gapsOpened afterGap path := by
  induction path generalizing afterGap with
  | nil => rfl
  | cons step path ih =>
    cases step with
    | matched i j distance => exact ih false
    | gap => rw [List.map_cons, PathStep.mirror, gapsOpened, gapsOpened, ih]

theorem consecutive_mirror (first second : Match) :
    consecutive first.mirror second.mirror = consecutive first second := by
  unfold consecutive Match.mirror
  rw [Bool.and_comm (_ == _)]

theorem longestRun_mirror (found : List Match) :
    longestRun (found.map Match.mirror) = longestRun found := by
  have windows : ∀ (found : List Match) (current longest : Nat),
      longestWindows (found.map Match.mirror) current longest =
        longestWindows found current longest := by
    intro found
    induction found with
    | nil => intro _ _; rfl
    | cons first found ih =>
      intro current longest
      cases found with
      | nil => rfl
      | cons second found =>
        rw [List.map_cons, List.map_cons, longestWindows, longestWindows, consecutive_mirror]
        exact ih _ _
  unfold longestRun
  rw [windows, List.isEmpty_map]

theorem informative_mirror (incoming candidate : List VideoSequenceSample) (found : List Match) :
    (found.map Match.mirror).filter (isInformative candidate incoming) =
      (found.filter (isInformative incoming candidate)).map Match.mirror := by
  rw [List.filter_map]
  congr 1
  apply List.filter_congr
  intro m _
  rw [Function.comp_apply, isInformative, isInformative, Match.mirror]
  exact congrArg (· && _) (Bool.and_comm _ _)

theorem alignedOffset_mirror (first : Option Match) :
    alignedOffset candidate incoming (first.map Match.mirror) =
      -alignedOffset incoming candidate first := by
  cases first with
  | none => rfl
  | some m => exact (Int.neg_sub _ _).symm

theorem evidenceFromPath_mirror (path : List PathStep) (score : Int) :
    evidenceFromPath candidate incoming (path.map PathStep.mirror) score =
      (evidenceFromPath incoming candidate path score).mirror := by
  have distances : ((matchesOf path).filter
      (isInformative incoming.samples candidate.samples)).map
        ((·.distanceBps) ∘ Match.mirror) =
      ((matchesOf path).filter (isInformative incoming.samples candidate.samples)).map
        (·.distanceBps) := rfl
  unfold evidenceFromPath SequenceEvidence.mirror
  simp only [matchesOf_mirror, informative_mirror, List.map_map, distances, List.length_map,
    List.head?_map, List.getLast?_map, Option.elim_map, alignedOffset_mirror, longestRun_mirror,
    gapsOpened_mirror]
  rw [min_comm (basisPoints _ candidate.samples.length)]
  rfl

end Mirror

section Symmetry
variable {incoming candidate : VideoSequenceFingerprint}

theorem isStrong_mirror (evidence : SequenceEvidence) :
    isStrong evidence.mirror .default = isStrong evidence .default := by
  rw [Bool.eq_iff_iff]
  simp only [isStrong, Bool.and_eq_true, decide_eq_true_eq]
  simp only [SequenceEvidence.mirror, SequenceAlignmentConfig.default]
  tauto

theorem classify_strong_iff {evidence : SequenceEvidence} {config : SequenceAlignmentConfig} :
    classify evidence config = .strongDuplicate ↔ isStrong evidence config = true := by
  refine ⟨classify_strong, fun strong => ?_⟩
  rw [classify, if_pos strong]

/-- Two valid fingerprints can always be compared by default. -/
theorem VideoSequenceFingerprint.Valid.comparable (incomingValid : incoming.Valid)
    (candidateValid : candidate.Valid) : Comparable incoming candidate .default := by
  obtain ⟨incomingSome, incomingSmall⟩ := incomingValid.samples
  obtain ⟨candidateSome, candidateSmall⟩ := candidateValid.samples
  refine ⟨rfl, rfl, List.ne_nil_of_length_pos incomingSome,
    List.ne_nil_of_length_pos candidateSome, ?_⟩
  exact le_trans (Nat.mul_le_mul (Nat.succ_le_succ incomingSmall)
    (Nat.succ_le_succ candidateSmall)) (by decide)

theorem bestScore_symmetric (comparable : Comparable incoming candidate .default)
    (back : Comparable candidate incoming .default) :
    bestScore candidate incoming .default = bestScore incoming candidate .default := by
  obtain ⟨_, _, optimal, score, -⟩ := bestPath_optimal comparable
  obtain ⟨_, _, mirrored, mirroredScore, -⟩ := bestPath_optimal back
  have one := optimal.greatest
  have other := mirrored.greatest
  rw [score] at one
  rw [mirroredScore, scoreAt_mirror, scores_mirror] at other
  exact other.unique one

/-- The evidence that an optimal alignment of two fingerprints gives. -/
def evidenceOf (incoming candidate : VideoSequenceFingerprint) (start : Cell)
    (moves : List Move) : SequenceEvidence :=
  evidenceFromPath incoming candidate (pathOf incoming.samples candidate.samples start moves)
    (bestScore incoming candidate .default)

/-- Wherever the optimal alignments of two fingerprints agree about it, whether
    they are strong duplicates does not depend on their order. -/
theorem strong_duplicate_is_symmetric (incomingValid : incoming.Valid)
    (candidateValid : candidate.Valid)
    (agree : ∀ start moves other others,
      Optimal (scoreAt incoming.samples candidate.samples) 1200 incoming.samples.length
          candidate.samples.length start moves →
        Optimal (scoreAt incoming.samples candidate.samples) 1200 incoming.samples.length
          candidate.samples.length other others →
        (isStrong (evidenceOf incoming candidate start moves) .default ↔
          isStrong (evidenceOf incoming candidate other others) .default)) :
    ∃ alignment back,
      alignVideoSequences incoming candidate .default = .ok alignment ∧
        alignVideoSequences candidate incoming .default = .ok back ∧
        bestScore incoming candidate .default = bestScore candidate incoming .default ∧
        (alignment.classification = .strongDuplicate ↔
          back.classification = .strongDuplicate) := by
  have comparable := incomingValid.comparable candidateValid
  have back := candidateValid.comparable incomingValid
  have sameScore := bestScore_symmetric comparable back
  refine ⟨_, _, alignVideoSequences_ok_iff.mpr ⟨comparable, rfl⟩,
    alignVideoSequences_ok_iff.mpr ⟨back, rfl⟩, sameScore.symm, ?_⟩
  obtain ⟨start, moves, optimal, -, drawn⟩ := bestPath_optimal comparable
  obtain ⟨other, others, mirrored, -, drawnBack⟩ := bestPath_optimal back
  have unmirrored := mirrored.mirror
  rw [← scoreAt_mirror] at unmirrored
  have there : bestPath candidate incoming .default =
      (pathOf incoming.samples candidate.samples other.swap (mirror others)).map
        PathStep.mirror := by
    rw [drawnBack, ← pathOf_mirror, mirror_mirror, Prod.swap_swap]
  have evidence : bestEvidence candidate incoming .default =
      (evidenceOf incoming candidate other.swap (mirror others)).mirror := by
    rw [bestEvidence, there, evidenceFromPath_mirror, sameScore, evidenceOf]
  have one : bestEvidence incoming candidate .default =
      evidenceOf incoming candidate start moves := by
    rw [bestEvidence, drawn, evidenceOf]
  rw [classify_strong_iff, classify_strong_iff, evidence, isStrong_mirror, one]
  exact agree _ _ _ _ optimal unmirrored

/-- Thirteen faint samples over a given time. -/
def faintFrames (durationMs : UInt64) : VideoSequenceFingerprint :=
  ⟨.videoSequenceV1, durationMs, 500, List.replicate 13 ⟨5, 9, 100, 4, -6, 1000, 0⟩⟩

theorem faint_frames_are_symmetric :
    ∃ alignment back,
      alignVideoSequences (faintFrames 6500) (faintFrames 6400) .default = .ok alignment ∧
        alignVideoSequences (faintFrames 6400) (faintFrames 6500) .default = .ok back ∧
        (alignment.classification = .strongDuplicate ↔
          back.classification = .strongDuplicate) := by
  have informative : Informative (faintFrames 6500).samples := by
    unfold Informative
    decide
  have unique : ∀ start moves,
      Optimal (scoreAt (faintFrames 6500).samples (faintFrames 6400).samples) 1200 13 13 start
        moves → start = (0, 0) ∧ moves = List.replicate 13 .pair := by
    intro start moves optimal
    refine optimal.diagonal (by decide) (scoreAt_le_own informative)
      (scoreAt_own_nonneg informative) ?_
    intro i inside
    have positive := scoreAt_own_positive informative inside
    exact lt_of_lt_of_le (by decide) positive
  have first : (faintFrames 6500).Valid := rfl
  have second : (faintFrames 6400).Valid := rfl
  obtain ⟨alignment, back, aligned, alignedBack, -, same⟩ :=
    strong_duplicate_is_symmetric first second (by
      intro start moves other others optimal another
      obtain ⟨rfl, rfl⟩ := unique start moves optimal
      obtain ⟨rfl, rfl⟩ := unique other others another
      exact Iff.rfl)
  exact ⟨alignment, back, aligned, alignedBack, same⟩

def stillFrame : VideoSequenceSample := ⟨0, 0, 0, 0, 0, 4000, 0⟩

/-- A frame that one video opens with and the other shows after another one. -/
def movedFrame : VideoSequenceSample := ⟨0xFFFFFFFF, 0xFFFFFFFF, 0, 0, 0, 3960, 0⟩

def sharpFrame : VideoSequenceSample :=
  ⟨0xFFFFFFFF00000000, 0xFFFFFFFF00000000, 0, 0, 0, 10000, 0⟩

/-- The frame as the other video shows it; it scores what the moved frame does. -/
def alteredFrame : VideoSequenceSample :=
  ⟨0xFFFFFFFF3FFFFFFF, 0xFFFFFFFF0FFFFFFF, 0, 0, 0, 10000, 0⟩

def firstCut : VideoSequenceFingerprint :=
  ⟨.videoSequenceV1, 4500, 500, [movedFrame, sharpFrame] ++ List.replicate 7 stillFrame⟩

def secondCut : VideoSequenceFingerprint :=
  ⟨.videoSequenceV1, 4500, 500, [alteredFrame, movedFrame] ++ List.replicate 7 stillFrame⟩

theorem order_of_comparison_decides :
    firstCut.Valid ∧ secondCut.Valid ∧
      (alignVideoSequences firstCut secondCut .default).map (·.classification) =
        .ok .strongDuplicate ∧
      (alignVideoSequences secondCut firstCut .default).map (·.classification) =
        .ok .partialMatch := by
  refine ⟨rfl, rfl, ?_, ?_⟩
  · decide +kernel
  · decide +kernel

end Symmetry

end Sooqa.Media
