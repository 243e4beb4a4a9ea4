import Sooqa.Media.AlignmentTables
import Sooqa.Media.PairScores

/-!
The alignment of two fingerprints is optimal: its score is the greatest of all
local alignments of the samples, and the way back through the tables is one of
that score.
-/
namespace Sooqa.Media
open Foundation LocalAlignment

section Result
variable {incoming candidate : VideoSequenceFingerprint} {config : SequenceAlignmentConfig}

def tablesOf (incoming candidate : VideoSequenceFingerprint) (config : SequenceAlignmentConfig) :
    Tables :=
  fillTables incoming.samples candidate.samples config.gapPenaltyBps.toNat

def bestPath (incoming candidate : VideoSequenceFingerprint) (config : SequenceAlignmentConfig) :
    List PathStep :=
  backtrack (tablesOf incoming candidate config) incoming.samples candidate.samples

def bestScore (incoming candidate : VideoSequenceFingerprint) (config : SequenceAlignmentConfig) :
    Int :=
  (tablesOf incoming candidate config).best.2.2

def bestEvidence (incoming candidate : VideoSequenceFingerprint)
    (config : SequenceAlignmentConfig) : SequenceEvidence :=
  evidenceFromPath incoming candidate (bestPath incoming candidate config)
    (bestScore incoming candidate config)

/-- What an alignment asks of its inputs. -/
structure Comparable (incoming candidate : VideoSequenceFingerprint)
    (config : SequenceAlignmentConfig) : Prop where
  valid : config.validate = .ok ()
  version : incoming.version = candidate.version
  incomingSome : incoming.samples ≠ []
  candidateSome : candidate.samples ≠ []
  cells : (incoming.samples.length + 1) * (candidate.samples.length + 1) ≤ config.maxCells.toNat

theorem validate_ok_iff : config.validate = .ok () ↔
    config.minIncomingCoverageBps ≤ 10000 ∧ config.minCandidateCoverageBps ≤ 10000 ∧
      config.minInformativeMatches ≠ 0 ∧ config.maxMedianDistanceBps ≤ 10000 ∧
      config.maxHighPercentileDistanceBps ≤ 10000 ∧ config.minLongestRun ≠ 0 ∧
      config.minScoreBps ≤ 10000 ∧ config.gapPenaltyBps ≠ 0 ∧ config.maxCells ≠ 0 := by
  rw [SequenceAlignmentConfig.validate, require_ok]
  simp only [gt_iff_lt, not_or, UInt16.not_lt, ne_eq]

theorem Comparable.penalty (comparable : Comparable incoming candidate config) :
    (0 : Int) < (config.gapPenaltyBps.toNat : Int) := by
  have nonzero : config.gapPenaltyBps ≠ 0 :=
    (validate_ok_iff.mp comparable.valid).2.2.2.2.2.2.2.1
  have : config.gapPenaltyBps.toNat ≠ 0 := fun zero => nonzero (UInt16.toNat_inj.mp zero)
  omega

theorem alignVideoSequences_ok_iff {alignment : SequenceAlignment} :
    alignVideoSequences incoming candidate config = .ok alignment ↔
      Comparable incoming candidate config ∧
        alignment = ⟨classify (bestEvidence incoming candidate config) config,
          bestEvidence incoming candidate config⟩ := by
  unfold alignVideoSequences
  simp only [bind_ok, require_ok, expect_ok, pure_ok, not_or, List.isEmpty_iff]
  constructor
  · rintro ⟨_, valid, _, -, _, ⟨incomingSome, candidateSome⟩, cells, product, _, bound, rfl⟩
    have size : (incoming.samples.length + 1) * (candidate.samples.length + 1) = cells := by
      unfold checkedMul at product
      split at product
      · exact Option.some.inj product
      · cases product
    exact ⟨⟨valid, rfl, incomingSome, candidateSome, size ▸ bound⟩, rfl⟩
  · rintro ⟨comparable, rfl⟩
    have word := config.maxCells.toNat_lt
    have product : checkedMul (incoming.samples.length + 1) (candidate.samples.length + 1) =
        some ((incoming.samples.length + 1) * (candidate.samples.length + 1)) :=
      if_pos (Nat.lt_of_le_of_lt comparable.cells word)
    exact ⟨(), comparable.valid, (), trivial, (),
      ⟨comparable.incomingSome, comparable.candidateSome⟩, _, product, (), comparable.cells, rfl⟩

theorem bestPath_optimal (comparable : Comparable incoming candidate config) :
    ∃ start moves,
      Optimal (scoreAt incoming.samples candidate.samples) config.gapPenaltyBps.toNat
        incoming.samples.length candidate.samples.length start moves ∧
      total (scoreAt incoming.samples candidate.samples) config.gapPenaltyBps.toNat start moves =
        bestScore incoming candidate config ∧
      bestPath incoming candidate config =
        pathOf incoming.samples candidate.samples start moves := by
  have filled : Tabulated incoming.samples candidate.samples config.gapPenaltyBps.toNat
    (tablesOf incoming candidate config) := tabulated _ _ _
  obtain ⟨start, moves, reaches, drawn⟩ := filled.backtrackLoop [] filled.row filled.column le_rfl
  rw [List.append_nil] at drawn
  have score := reaches.total.trans filled.reached.symm
  refine ⟨start, moves, ⟨?_, ?_, reaches.gaining⟩, score, drawn⟩
  · rw [Within, reaches.finish]
    exact ⟨filled.row, filled.column⟩
  · refine ⟨⟨start, moves, ?_, rfl⟩, ?_⟩
    · rw [Within, reaches.finish]
      exact ⟨filled.row, filled.column⟩
    · rintro value ⟨c, chain, within, rfl⟩
      rw [score]
      exact le_trans (total_le_best (le_of_lt comparable.penalty) c chain)
        (filled.greatest _ _ within.1 within.2)

@[simp] theorem matchesOf_matched (i j distance : Nat) (path : List PathStep) :
    matchesOf (.matched i j distance :: path) = ⟨i, j, distance⟩ :: matchesOf path := rfl

@[simp] theorem matchesOf_gap (path : List PathStep) :
    matchesOf (.gap :: path) = matchesOf path := rfl

/-- The matches of a path are the pairs of its chain. -/
theorem matchesOf_pathOf {incoming candidate : List VideoSequenceSample} (c : Cell)
    (moves : List Move) :
    matchesOf (pathOf incoming candidate c moves) =
      (pairs c moves).map fun p => ⟨p.1, p.2, distanceAt incoming candidate p.1 p.2⟩ := by
  induction moves generalizing c with
  | nil => rfl
  | cons move moves ih =>
    cases move with
    | pair => simp only [pathOf, pairs, matchesOf_matched, List.map_cons, ih]
    | skipFirst => exact ih _
    | skipSecond => exact ih _

/-- The matches of a path go forward in both sequences. -/
theorem matches_increase {incoming candidate : List VideoSequenceSample} (c : Cell)
    (moves : List Move) :
    (matchesOf (pathOf incoming candidate c moves)).Pairwise
      (fun p q => p.incomingIndex < q.incomingIndex ∧ p.candidateIndex < q.candidateIndex) := by
  rw [matchesOf_pathOf, List.pairwise_map]
  exact pairs_increase c moves

theorem pathOf_opens {incoming candidate : List VideoSequenceSample} {c : Cell}
    {moves : List Move} (opens : moves.head? = some .pair) :
    ∃ i j distance, (pathOf incoming candidate c moves).head? = some (.matched i j distance) := by
  cases moves with
  | nil => cases opens
  | cons move moves =>
    obtain rfl := Option.some.inj opens
    exact ⟨_, _, _, rfl⟩

theorem pathOf_closes {incoming candidate : List VideoSequenceSample} {c : Cell}
    {moves : List Move} (closes : moves.getLast? = some .pair) :
    ∃ i j distance, (pathOf incoming candidate c moves).getLast? = some (.matched i j distance) := by
  obtain ⟨earlier, rfl⟩ := List.getLast?_eq_some_iff.mp closes
  rw [pathOf_snoc, List.getLast?_append, List.getLast?_singleton, Option.some_or]
  exact ⟨_, _, _, rfl⟩

/-- The score of an alignment is the greatest of all local alignments, and the
    way back through the tables is one of that score. -/
theorem alignment_is_optimal (comparable : Comparable incoming candidate config) :
    alignVideoSequences incoming candidate config =
        .ok ⟨classify (bestEvidence incoming candidate config) config,
          bestEvidence incoming candidate config⟩ ∧
      IsGreatest (Scores (scoreAt incoming.samples candidate.samples)
        config.gapPenaltyBps.toNat incoming.samples.length candidate.samples.length)
        (bestScore incoming candidate config) ∧
      (∃ start moves,
        Within incoming.samples.length candidate.samples.length start moves ∧
        bestPath incoming candidate config =
          pathOf incoming.samples candidate.samples start moves ∧
        total (scoreAt incoming.samples candidate.samples) config.gapPenaltyBps.toNat start
          moves = bestScore incoming candidate config) ∧
      (0 < bestScore incoming candidate config →
        (∃ i j distance,
          (bestPath incoming candidate config).head? = some (.matched i j distance)) ∧
        ∃ i j distance,
          (bestPath incoming candidate config).getLast? = some (.matched i j distance)) ∧
      (matchesOf (bestPath incoming candidate config)).Pairwise
        (fun p q => p.incomingIndex < q.incomingIndex ∧ p.candidateIndex < q.candidateIndex) := by
  obtain ⟨start, moves, optimal, score, drawn⟩ := bestPath_optimal comparable
  refine ⟨alignVideoSequences_ok_iff.mpr ⟨comparable, rfl⟩, score ▸ optimal.greatest,
    ⟨start, moves, optimal.within, drawn, score⟩, ?_, ?_⟩
  · intro positive
    have nonempty : moves ≠ [] := by
      rintro rfl
      rw [← score, total] at positive
      exact lt_irrefl 0 positive
    rw [drawn]
    exact ⟨pathOf_opens (optimal.gaining.opens (le_of_lt comparable.penalty) nonempty),
      pathOf_closes (optimal.closes comparable.penalty nonempty)⟩
  · rw [drawn]
    exact matches_increase start moves

def shortFingerprint : VideoSequenceFingerprint :=
  ⟨.videoSequenceV1, 500, 500, [⟨5, 9, 100, 4, -6, 8000, 0⟩]⟩

theorem one_sample_is_optimal :
    Comparable shortFingerprint shortFingerprint .default ∧
      IsGreatest (Scores (scoreAt shortFingerprint.samples shortFingerprint.samples) 1200 1 1)
        (bestScore shortFingerprint shortFingerprint .default) := by
  have comparable : Comparable shortFingerprint shortFingerprint .default :=
    ⟨rfl, rfl, by decide, by decide, by decide⟩
  exact ⟨comparable, (alignment_is_optimal comparable).2.1⟩

end Result

section Words
variable {incoming candidate : List VideoSequenceSample} {gapPenalty : Int} {i j : Nat}

def FitsI32 (value : Int) : Prop := -2 ^ 31 ≤ value ∧ value < 2 ^ 31

theorem scoreAt_bounds (incoming candidate : List VideoSequenceSample) (i j : Nat) :
    -4500 ≤ scoreAt incoming candidate i j ∧ scoreAt incoming candidate i j ≤ 38821 := by
  unfold scoreAt
  split
  · exact ⟨pairScore_ge _ _, pairScore_le _ _⟩
  · decide

/-- No value of the tables leaves the 32-bit words of the code, for as many
    samples as a fingerprint can have in one of the sequences. -/
theorem cells_fit (costs : 0 ≤ gapPenalty) (word : gapPenalty < 2 ^ 16)
    (short : i ≤ videoSequenceMaxSamples ∨ j ≤ videoSequenceMaxSamples) :
    FitsI32 (best (scoreAt incoming candidate) gapPenalty i j) ∧
      FitsI32 (best (scoreAt incoming candidate) gapPenalty i j +
        scoreAt incoming candidate i j) ∧
      FitsI32 (best (scoreAt incoming candidate) gapPenalty i j - gapPenalty) := by
  have low : 0 ≤ best (scoreAt incoming candidate) gapPenalty i j := best_nonneg i j
  have high := best_le costs (by decide) (fun a b => (scoreAt_bounds incoming candidate a b).2) i j
  have pair := scoreAt_bounds incoming candidate i j
  unfold videoSequenceMaxSamples at short
  unfold FitsI32
  omega

end Words

end Sooqa.Media
