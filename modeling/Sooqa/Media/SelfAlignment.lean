import Sooqa.Media.AlignmentEvidence

/-!
The alignment of a fingerprint with itself. Its whole diagonal is the only best
path as long as every sample carries information; whether that makes a strong
duplicate is up to the score.
-/
namespace Sooqa.Media
open Foundation LocalAlignment

section Diagonal
variable {samples : List VideoSequenceSample}

/-- Every sample carries information. -/
def Informative (samples : List VideoSequenceSample) : Prop :=
  ∀ sample ∈ samples, 1000 ≤ sample.informationBps.toNat

theorem scoreAt_own {i : Nat} (inside : i < samples.length) :
    scoreAt samples samples i i = selfScore (samples.get ⟨i, inside⟩) := by
  unfold scoreAt
  rw [List.getElem?_eq_getElem inside]
  exact pairScore_self _

theorem scoreAt_own_positive (informative : Informative samples) {i : Nat}
    (inside : i < samples.length) : 100 ≤ scoreAt samples samples i i := by
  rw [scoreAt_own inside]
  exact selfScore_positive (informative _ (List.get_mem samples _))

theorem scoreAt_own_nonneg (informative : Informative samples) (i : Nat) :
    0 ≤ scoreAt samples samples i i := by
  rcases Nat.lt_or_ge i samples.length with inside | outside
  · have positive := scoreAt_own_positive informative inside
    omega
  · unfold scoreAt
    rw [List.getElem?_eq_none outside]

theorem scoreAt_le_own (informative : Informative samples) (i j : Nat) :
    scoreAt samples samples i j ≤ scoreAt samples samples i i := by
  rcases Nat.lt_or_ge i samples.length with inside | outside
  · rcases Nat.lt_or_ge j samples.length with beside | outside
    · rw [scoreAt_own inside]
      unfold scoreAt
      rw [List.getElem?_eq_getElem inside, List.getElem?_eq_getElem beside]
      exact pairScore_le_self _ _
    · have positive := scoreAt_own_nonneg informative i
      have nothing : scoreAt samples samples i j = 0 := by
        unfold scoreAt
        rw [List.getElem?_eq_none outside]
        split
        · contradiction
        · rfl
      rw [nothing]
      exact positive
  · unfold scoreAt
    rw [List.getElem?_eq_none outside]

theorem distanceAt_own (i : Nat) : distanceAt samples samples i i = 0 := by
  unfold distanceAt
  cases samples[i]? with
  | none => rfl
  | some sample => exact pairDistanceBps_self sample

/-- What the samples score with themselves, one after the other. -/
theorem ownWorth_samples (samples : List VideoSequenceSample) (k : Nat) :
    ownWorth (scoreAt samples samples) k =
      ((samples.take k).map fun sample => pairScore sample sample).sum := by
  induction k with
  | zero => simp
  | succ k ih =>
    rw [ownWorth_succ, ih, List.take_add_one, List.map_append, List.sum_append]
    congr 1
    unfold scoreAt
    cases samples[k]? with
    | none => rfl
    | some sample => simp

theorem pathOf_diagonal (incoming candidate : List VideoSequenceSample) (k : Nat) :
    pathOf incoming candidate (0, 0) (List.replicate k .pair) =
      (List.range k).map fun i => .matched i i (distanceAt incoming candidate i i) := by
  induction k with
  | zero => rfl
  | succ k ih =>
    rw [List.replicate_succ', pathOf_snoc, ih, List.range_succ, List.map_append, finish_diagonal,
      Nat.zero_add]
    rfl

end Diagonal

section SelfAlignment
variable {fingerprint : VideoSequenceFingerprint} {config : SequenceAlignmentConfig}

/-- The whole diagonal of `n` samples. -/
def diagonal (n : Nat) : List PathStep := (List.range n).map fun i => .matched i i 0

theorem bestPath_self (comparable : Comparable fingerprint fingerprint config)
    (informative : Informative fingerprint.samples) :
    bestPath fingerprint fingerprint config = diagonal fingerprint.samples.length ∧
      bestScore fingerprint fingerprint config =
        (fingerprint.samples.map fun sample => pairScore sample sample).sum := by
  obtain ⟨start, moves, optimal, score, drawn⟩ := bestPath_optimal comparable
  obtain ⟨rfl, rfl⟩ := optimal.diagonal comparable.penalty (scoreAt_le_own informative)
    (scoreAt_own_nonneg informative)
    (fun i inside => by have := scoreAt_own_positive informative inside; omega)
  constructor
  · rw [drawn, pathOf_diagonal]
    simp only [distanceAt_own, diagonal]
  · rw [← score, total_diagonal, ownWorth_samples, List.take_length]

theorem matchesOf_diagonal (n : Nat) :
    matchesOf (diagonal n) = (List.range n).map fun i => ⟨i, i, 0⟩ := by
  unfold diagonal
  induction List.range n with
  | nil => rfl
  | cons i places ih => rw [List.map_cons, matchesOf_matched, ih, List.map_cons]

theorem gapsOpened_diagonal (n : Nat) : gapsOpened false (diagonal n) = 0 := by
  unfold diagonal
  induction List.range n with
  | nil => rfl
  | cons i places ih => exact ih

/-- A percentile of values that are all the same. -/
theorem percentile_replicate {n percent : Nat} (value : Nat) (some : 0 < n)
    (share : percent ≤ 100) : percentile (List.replicate n value) percent = Option.some value := by
  have index : divCeil ((n - 1) * percent) 100 < n := by
    have product : (n - 1) * percent ≤ (n - 1) * 100 := Nat.mul_le_mul_left _ share
    unfold divCeil
    split <;> omega
  cases found : percentile (List.replicate n value) percent with
  | none =>
    unfold percentile at found
    rw [if_neg (by simp; omega), List.getElem?_eq_none_iff, List.length_insertionSort,
      List.length_replicate] at found
    omega
  | some other => rw [List.eq_of_mem_replicate (percentile_mem found)]

theorem basisPoints_whole {n : Nat} (some : 0 < n) : basisPoints n n = 10000 := by
  rw [basisPoints, if_neg (by omega), min_self, Nat.mul_comm, Nat.mul_div_cancel _ some,
    min_self]

/-- Matches that are all in a row make the longest run. -/
theorem longestWindows_run {first : Match} {found : List Match} (isRun : IsRun (first :: found))
    (current longest : Nat) :
    longestWindows (first :: found) current longest =
      if found = [] then longest else max longest (current + found.length) := by
  induction found generalizing first current longest with
  | nil => rfl
  | cons second found ih =>
    obtain ⟨next, later⟩ := List.isChain_cons_cons.mp isRun
    rw [longestWindows, if_pos next, ih later, if_neg (List.cons_ne_nil _ _), List.length_cons]
    split
    · rename_i none
      rw [none, List.length_nil]
    · omega

theorem diagonal_isRun (start n : Nat) :
    IsRun ((List.range' start n).map fun i => ⟨i, i, 0⟩) := by
  induction n generalizing start with
  | zero => exact .nil
  | succ n ih =>
    cases n with
    | zero => exact .singleton _
    | succ n =>
      have later := ih (start + 1)
      rw [List.range'_succ, List.map_cons] at later ⊢
      rw [List.range'_succ, List.map_cons]
      refine List.isChain_cons_cons.mpr ⟨?_, later⟩
      simp [consecutive]

theorem longestRun_diagonal {n : Nat} (some : 0 < n) (word : n < 2 ^ 16) :
    longestRun ((List.range n).map fun i => ⟨i, i, 0⟩) = n := by
  obtain ⟨n, rfl⟩ : ∃ k, n = k + 1 := ⟨n - 1, by omega⟩
  have isRun := diagonal_isRun 0 (n + 1)
  rw [← List.range_eq_range', List.range_succ_eq_map, List.map_cons] at isRun
  unfold longestRun boundedU16
  rw [List.range_succ_eq_map, List.map_cons, longestWindows_run isRun]
  cases n with
  | zero => rfl
  | succ n =>
    rw [if_neg (by simp)]
    simp only [List.length_map, List.length_range, List.isEmpty_cons, Bool.false_eq_true,
      if_false]
    omega

theorem informative_diagonal (informative : Informative fingerprint.samples) :
    ((List.range fingerprint.samples.length).map fun i => (⟨i, i, 0⟩ : Match)).filter
        (isInformative fingerprint.samples fingerprint.samples) =
      (List.range fingerprint.samples.length).map fun i => ⟨i, i, 0⟩ := by
  apply List.filter_eq_self.mpr
  intro found member
  obtain ⟨i, inside, rfl⟩ := List.mem_map.mp member
  have own := informative _ (List.getElem_mem (List.mem_range.mp inside))
  simp only [isInformative, informationAt, List.getElem?_eq_getElem (List.mem_range.mp inside),
    Bool.and_eq_true, decide_eq_true_eq]
  exact ⟨⟨own, own⟩, by decide⟩

theorem diagonal_distances (n : Nat) :
    ((List.range n).map fun i => (⟨i, i, 0⟩ : Match)).map (·.distanceBps) =
      List.replicate n 0 := by
  rw [List.map_map]
  exact List.map_const' .. |>.trans (by rw [List.length_range])

/-- The score of a fingerprint with itself, of a hundred at least for each sample. -/
theorem ownScore_ge {samples : List VideoSequenceSample} (informative : Informative samples) :
    100 * (samples.length : Int) ≤ (samples.map fun sample => pairScore sample sample).sum := by
  induction samples with
  | nil => simp
  | cons sample samples ih =>
    have first := selfScore_positive (informative sample List.mem_cons_self)
    have rest := ih (fun later member => informative later (List.mem_cons_of_mem _ member))
    rw [List.map_cons, List.sum_cons, pairScore_self, List.length_cons]
    omega

/-- The score of a full match without a distance. -/
theorem alignmentScoreBps_whole {score : Int} {count : Nat} (positive : 0 < score)
    (some : 0 < count) :
    alignmentScoreBps score count (Option.some 0) 10000 =
      min score.toNat 10000 * 4 / 10 + 6000 := by
  unfold alignmentScoreBps
  rw [if_neg (by omega)]
  simp only [Option.getD_some, saturatingAdd]
  omega

theorem bestEvidence_self (valid : fingerprint.Valid)
    (comparable : Comparable fingerprint fingerprint config)
    (informative : Informative fingerprint.samples) :
    bestEvidence fingerprint fingerprint config =
      { algorithmVersion := fingerprint.version
        alignedOffsetMs := 0
        informativeMatchedSamples := fingerprint.samples.length
        incomingCoverageBps := 10000
        candidateCoverageBps := 10000
        medianDistanceBps := 0
        highPercentileDistanceBps := 0
        longestTemporallyConsistentRun := fingerprint.samples.length
        unmatchedIncomingPrefix := 0
        unmatchedIncomingSuffix := 0
        unmatchedCandidatePrefix := 0
        unmatchedCandidateSuffix := 0
        gapCount := 0
        scoreBps := min
          (fingerprint.samples.map fun sample => pairScore sample sample).sum.toNat 10000 * 4 / 10 +
            6000 } := by
  obtain ⟨positive, small⟩ := valid.samples
  obtain ⟨path, score⟩ := bestPath_self comparable informative
  have own := ownScore_ge informative
  have opens : ((List.range fingerprint.samples.length).map
      fun i => (⟨i, i, 0⟩ : Match)).head? = some ⟨0, 0, 0⟩ := by
    obtain ⟨n, size⟩ : ∃ k, fingerprint.samples.length = k + 1 :=
      ⟨fingerprint.samples.length - 1, by omega⟩
    rw [size, List.range_succ_eq_map]
    rfl
  have closes : ((List.range fingerprint.samples.length).map
      fun i => (⟨i, i, 0⟩ : Match)).getLast? =
        some ⟨fingerprint.samples.length - 1, fingerprint.samples.length - 1, 0⟩ := by
    obtain ⟨n, size⟩ : ∃ k, fingerprint.samples.length = k + 1 :=
      ⟨fingerprint.samples.length - 1, by omega⟩
    rw [size, List.range_succ, List.map_append, List.getLast?_append]
    rfl
  unfold bestEvidence evidenceFromPath
  simp only [path, score, matchesOf_diagonal, informative_diagonal informative,
    diagonal_distances, percentile_replicate 0 positive (show 50 ≤ 100 by decide),
    percentile_replicate 0 positive (show 95 ≤ 100 by decide), List.length_map,
    List.length_range, basisPoints_whole positive, longestRun_diagonal positive (by omega),
    gapsOpened_diagonal, opens, closes, Option.elim_some, Option.getD_some]
  have scored := alignmentScoreBps_whole (show 0 < (fingerprint.samples.map
    fun sample => pairScore sample sample).sum by omega) positive
  have count : boundedU16 fingerprint.samples.length = fingerprint.samples.length :=
    min_eq_left (by omega)
  have suffix : fingerprint.samples.length - (fingerprint.samples.length - 1 + 1) = 0 := by omega
  rw [min_self, scored, count, suffix, alignedOffset, Int.sub_self]
  rfl

/-- A fingerprint of informative samples is matched with itself sample by
    sample. It is a strong duplicate of itself if and only if its samples score
    enough, as thirteen of them always do. -/
theorem self_alignment_is_whole (valid : fingerprint.Valid)
    (eight : 8 ≤ fingerprint.samples.length)
    (informative : ∀ sample ∈ fingerprint.samples, 1000 ≤ sample.informationBps.toNat) :
    ∃ alignment, alignVideoSequences fingerprint fingerprint .default = .ok alignment ∧
      bestPath fingerprint fingerprint .default =
        (List.range fingerprint.samples.length).map (fun i => .matched i i 0) ∧
      alignment.evidence.incomingCoverageBps = 10000 ∧
      alignment.evidence.candidateCoverageBps = 10000 ∧
      alignment.evidence.medianDistanceBps = 0 ∧
      alignment.evidence.highPercentileDistanceBps = 0 ∧
      alignment.evidence.gapCount = 0 ∧
      alignment.evidence.alignedOffsetMs = 0 ∧
      alignment.evidence.longestTemporallyConsistentRun = fingerprint.samples.length ∧
      alignment.evidence.informativeMatchedSamples = fingerprint.samples.length ∧
      (alignment.classification = .strongDuplicate ↔
        1250 ≤ (fingerprint.samples.map fun sample => pairScore sample sample).sum) ∧
      (13 ≤ fingerprint.samples.length → alignment.classification = .strongDuplicate) := by
  have small := valid.samples.2
  have comparable : Comparable fingerprint fingerprint .default := by
    have nonempty : fingerprint.samples ≠ [] := by
      intro none
      rw [none, List.length_nil] at eight
      omega
    refine ⟨rfl, rfl, nonempty, nonempty, ?_⟩
    exact le_trans (Nat.mul_le_mul (Nat.succ_le_succ small) (Nat.succ_le_succ small)) (by decide)
  have evidence := bestEvidence_self valid comparable informative
  have own := ownScore_ge informative
  have strong : isStrong (bestEvidence fingerprint fingerprint .default) .default = true ↔
      1250 ≤ (fingerprint.samples.map fun sample => pairScore sample sample).sum := by
    have coverage : UInt16.toNat 7000 = 7000 := rfl
    have matched : UInt16.toNat 8 = 8 := rfl
    have run : UInt16.toNat 6 = 6 := rfl
    have score : UInt16.toNat 6500 = 6500 := rfl
    rw [evidence]
    simp only [isStrong, Bool.and_eq_true, decide_eq_true_eq]
    simp only [SequenceAlignmentConfig.default, coverage, matched, run, score]
    omega
  refine ⟨_, alignVideoSequences_ok_iff.mpr ⟨comparable, rfl⟩,
    (bestPath_self comparable informative).1, ?_⟩
  have classified : classify (bestEvidence fingerprint fingerprint .default) .default =
      .strongDuplicate ↔
        1250 ≤ (fingerprint.samples.map fun sample => pairScore sample sample).sum := by
    refine ⟨fun isStrong => strong.mp (classify_strong isStrong), fun enough => ?_⟩
    rw [classify, if_pos (strong.mpr enough)]
  rw [evidence] at classified ⊢
  exact ⟨rfl, rfl, rfl, rfl, rfl, rfl, rfl, rfl, classified,
    fun many => classified.mpr (by omega)⟩

/-- Eight samples that carry no more information than they have to. -/
def faintFingerprint : VideoSequenceFingerprint :=
  ⟨.videoSequenceV1, 4000, 500, List.replicate 8 ⟨5, 9, 100, 4, -6, 1000, 0⟩⟩

theorem faint_video_matches_itself :
    ∃ alignment, alignVideoSequences faintFingerprint faintFingerprint .default = .ok alignment ∧
      alignment.evidence.longestTemporallyConsistentRun = 8 := by
  have valid : faintFingerprint.Valid := rfl
  obtain ⟨alignment, aligned, -, -, -, -, -, -, -, run, -⟩ :=
    self_alignment_is_whole valid (by decide) (by decide)
  exact ⟨alignment, aligned, run⟩

theorem faint_video_is_no_strong_duplicate_of_itself :
    faintFingerprint.Valid ∧ 8 ≤ faintFingerprint.samples.length ∧
      (∀ sample ∈ faintFingerprint.samples, 1000 ≤ sample.informationBps.toNat) ∧
      (alignVideoSequences faintFingerprint faintFingerprint .default).map
        (·.classification) = .ok .partialMatch := by
  refine ⟨rfl, by decide, by decide, ?_⟩
  decide +kernel

end SelfAlignment

end Sooqa.Media
