import Mathlib.Data.List.Chain
import Sooqa.Media.OptimalAlignment

/-!
What the evidence of an alignment says about the matches it was drawn from.
-/
namespace Sooqa.Media
open Foundation LocalAlignment

section Counting

theorem basisPoints_le (numerator denominator : Nat) : basisPoints numerator denominator ≤ 10000 := by
  unfold basisPoints
  split
  · exact Nat.zero_le _
  · exact min_le_right _ _

theorem percentile_mem {values : List Nat} {percent value : Nat}
    (found : percentile values percent = some value) : value ∈ values := by
  unfold percentile at found
  split at found
  · cases found
  · exact (List.perm_insertionSort _ values).mem_iff.mp (List.mem_of_getElem? found)

/-- No percentile of distances exceeds the whole. -/
theorem percentile_le {values : List Nat} (bounded : ∀ value ∈ values, value ≤ 10000)
    (percent : Nat) : (percentile values percent).getD 10000 ≤ 10000 := by
  cases found : percentile values percent with
  | none => exact le_rfl
  | some value => exact bounded value (percentile_mem found)

theorem alignmentScoreBps_le (score : Int) (count : Nat) (median : Option Nat) (coverage : Nat) :
    alignmentScoreBps score count median coverage ≤ 10000 := by
  unfold alignmentScoreBps
  split
  · exact Nat.zero_le _
  · exact min_le_right _ _

/-- A strictly growing list takes as much room as it has entries. -/
theorem growing_room {α : Type} {place : α → Nat} {items : List α} {first last : α}
    (growing : items.Pairwise (fun a b => place a < place b))
    (opens : items.head? = some first) (closes : items.getLast? = some last) :
    place first + items.length ≤ place last + 1 := by
  induction items generalizing first with
  | nil => cases opens
  | cons a items ih =>
    obtain rfl := Option.some.inj opens
    cases items with
    | nil =>
      obtain rfl := Option.some.inj closes
      exact le_rfl
    | cons b items =>
      obtain ⟨above, growing⟩ := List.pairwise_cons.mp growing
      have later := ih growing rfl closes
      have step := above b List.mem_cons_self
      rw [List.length_cons]
      omega

end Counting

section Runs
variable {found : List Match}

/-- Matches that follow each other in both sequences, close in appearance. -/
def IsRun (run : List Match) : Prop := run.IsChain (fun first second => consecutive first second)

/-- The fold over the windows finds a run of the matches. The matches in `prior`
    stand in a row before the first one. -/
theorem longestWindows_cases (found prior : List Match) (longest : Nat)
    (chain : IsRun (prior ++ found.take 1)) :
    longestWindows found prior.length longest = longest ∨
      ∃ run, run <:+: prior ++ found ∧ IsRun run ∧
        run.length = longestWindows found prior.length longest + 1 := by
  induction found generalizing prior longest with
  | nil => exact Or.inl rfl
  | cons first found ih =>
    cases found with
    | nil => exact Or.inl rfl
    | cons second rest =>
      by_cases next : consecutive first second = true
      · have longer : IsRun ((prior ++ [first]) ++ [second]) := by
          rw [List.append_assoc]
          exact List.isChain_split.mpr ⟨chain, List.isChain_pair.mpr next⟩
        have rest := ih (prior ++ [first]) (max longest (prior.length + 1)) longer
        rw [List.length_append, List.length_singleton, List.append_assoc] at rest
        rw [longestWindows, if_pos next]
        rcases rest with same | run
        · rw [same]
          rcases le_total (prior.length + 1) longest with below | above
          · exact Or.inl (max_eq_left below)
          · right
            refine ⟨prior ++ [first] ++ [second], ?_, longer, ?_⟩
            · refine ⟨[], rest, ?_⟩
              simp
            · rw [max_eq_right above]
              simp
        · exact Or.inr run
      · have rest := ih [] (max longest 0) (List.isChain_singleton _)
        rw [longestWindows, if_neg next]
        rw [Nat.max_zero] at rest ⊢
        rcases rest with same | ⟨run, inside, isRun, length⟩
        · exact Or.inl same
        · refine Or.inr ⟨run, ?_, isRun, length⟩
          exact inside.trans ⟨prior ++ [first], [], by simp⟩

theorem IsRun.close {run : List Match} (isRun : IsRun run) (two : 2 ≤ run.length)
    {found : Match} (member : found ∈ run) : found.distanceBps ≤ 3500 := by
  induction run with
  | nil => cases member
  | cons first run ih =>
    cases run with
    | nil =>
      rw [List.length_singleton] at two
      omega
    | cons second run =>
      obtain ⟨next, later⟩ := List.isChain_cons_cons.mp isRun
      simp only [consecutive, informativeDistanceLimitBps, Bool.and_eq_true] at next
      rcases List.mem_cons.mp member with rfl | member
      · exact of_decide_eq_true next.1.2
      · rcases List.mem_cons.mp member with rfl | deeper
        · exact of_decide_eq_true next.2
        · refine ih later ?_ member
          have : 0 < run.length := List.length_pos_of_mem deeper
          rw [List.length_cons]
          omega

/-- A longest run of two or more is a run of the matches. -/
theorem longestRun_run {least : Nat} (two : 2 ≤ least) (enough : least ≤ longestRun found) :
    ∃ run, run <:+: found ∧ IsRun run ∧ least ≤ run.length ∧
      ∀ found ∈ run, found.distanceBps ≤ 3500 := by
  unfold longestRun boundedU16 at enough
  have bound : least ≤ longestWindows found 0 0 + 1 := by
    dsimp only at enough
    split at enough <;> omega
  have start : IsRun ([] ++ found.take 1) := by
    cases found with
    | nil => exact List.isChain_nil
    | cons first found => exact List.isChain_singleton first
  rcases longestWindows_cases found [] 0 start with none | ⟨run, inside, isRun, length⟩
  · rw [List.length_nil] at none
    omega
  · rw [List.length_nil] at length
    exact ⟨run, inside, isRun, by omega, fun _ member => isRun.close (by omega) member⟩

end Runs

section Evidence
variable {incoming candidate : VideoSequenceFingerprint} {config : SequenceAlignmentConfig}
  {alignment : SequenceAlignment}

/-- A fingerprint that its constructor accepts. -/
def VideoSequenceFingerprint.Valid (fingerprint : VideoSequenceFingerprint) : Prop :=
  VideoSequenceFingerprint.new fingerprint.durationMs fingerprint.intervalMs fingerprint.samples =
    .ok fingerprint

theorem VideoSequenceFingerprint.Valid.samples {fingerprint : VideoSequenceFingerprint}
    (valid : fingerprint.Valid) :
    0 < fingerprint.samples.length ∧ fingerprint.samples.length ≤ 2048 :=
  validateGrid_count (new_ok_iff.mp valid).1

/-- A match of two samples that both carry information. -/
def BothInformative (incoming candidate : VideoSequenceFingerprint) (found : Match) : Prop :=
  1000 ≤ informationAt incoming.samples found.incomingIndex ∧
    1000 ≤ informationAt candidate.samples found.candidateIndex

instance (incoming candidate : VideoSequenceFingerprint) (found : Match) :
    Decidable (BothInformative incoming candidate found) := inferInstanceAs (Decidable (_ ∧ _))

def matchesBetween (incoming candidate : VideoSequenceFingerprint)
    (config : SequenceAlignmentConfig) : List Match :=
  matchesOf (bestPath incoming candidate config)

theorem distanceAt_le (incoming candidate : List VideoSequenceSample) (i j : Nat) :
    distanceAt incoming candidate i j ≤ 10000 := by
  unfold distanceAt
  split
  · exact pairDistanceBps_le _ _
  · decide

/-- What the matches of an alignment are: they lie in both sequences, with the
    distance of their samples, and go forward in both. -/
structure MatchesWithin (incoming candidate : List VideoSequenceSample) (found : List Match) :
    Prop where
  inside : ∀ m ∈ found, m.incomingIndex < incoming.length ∧ m.candidateIndex < candidate.length
  distance : ∀ m ∈ found, m.distanceBps =
    distanceAt incoming candidate m.incomingIndex m.candidateIndex
  increase : found.Pairwise
    (fun p q => p.incomingIndex < q.incomingIndex ∧ p.candidateIndex < q.candidateIndex)

theorem matches_within (comparable : Comparable incoming candidate config) :
    MatchesWithin incoming.samples candidate.samples
      (matchesBetween incoming candidate config) := by
  obtain ⟨start, moves, optimal, -, drawn⟩ := bestPath_optimal comparable
  unfold matchesBetween
  rw [drawn]
  have within := optimal.within
  refine ⟨?_, ?_, matches_increase start moves⟩
  · intro m member
    rw [matchesOf_pathOf] at member
    obtain ⟨pair, paired, rfl⟩ := List.mem_map.mp member
    have bounds := pairs_bounds paired
    exact ⟨Nat.lt_of_lt_of_le bounds.2.2.1 within.1, Nat.lt_of_lt_of_le bounds.2.2.2 within.2⟩
  · intro m member
    rw [matchesOf_pathOf] at member
    obtain ⟨pair, paired, rfl⟩ := List.mem_map.mp member
    rfl

/-- What lies before the first match and after the last leaves room for the
    matches, in either sequence. -/
theorem matches_room {found : List Match} {size : Nat} (place : Match → Nat)
    (inside : ∀ m ∈ found, place m < size)
    (growing : found.Pairwise (fun p q => place p < place q)) (nonempty : found ≠ []) :
    boundedU16 (found.head?.elim size place) + found.length +
      boundedU16 (found.getLast?.elim size (fun last => size - (place last + 1))) ≤ size := by
  have opens := List.head?_eq_some_head nonempty
  have closes := List.getLast?_eq_some_getLast nonempty
  have room := growing_room growing opens closes
  have last := inside _ (List.getLast_mem nonempty)
  rw [opens, closes, Option.elim_some, Option.elim_some]
  unfold boundedU16
  omega

theorem isInformative_both {found : Match}
    (informative : isInformative incoming.samples candidate.samples found = true) :
    BothInformative incoming candidate found := by
  simp only [isInformative, Bool.and_eq_true, decide_eq_true_eq] at informative
  exact informative.1

/-- The matches that the evidence counts as informative. -/
def counted (incoming candidate : VideoSequenceFingerprint) (config : SequenceAlignmentConfig) :
    List Match :=
  (matchesBetween incoming candidate config).filter
    (isInformative incoming.samples candidate.samples)

theorem counted_sublist :
    (counted incoming candidate config).Sublist
      ((matchesBetween incoming candidate config).filter
        (BothInformative incoming candidate ·)) := by
  apply List.monotone_filter_right
  intro found informative
  exact decide_eq_true (isInformative_both informative)

theorem counted_distances (comparable : Comparable incoming candidate config) :
    ∀ value ∈ (counted incoming candidate config).map (·.distanceBps), value ≤ 10000 := by
  intro value member
  obtain ⟨found, informative, rfl⟩ := List.mem_map.mp member
  rw [(matches_within comparable).distance found (List.mem_filter.mp informative).1]
  exact distanceAt_le _ _ _ _

/-- Without two informative samples nothing is counted. -/
theorem counted_none (comparable : Comparable incoming candidate config)
    (none : ∀ left ∈ incoming.samples, ∀ right ∈ candidate.samples,
      ¬ (1000 ≤ left.informationBps.toNat ∧ 1000 ≤ right.informationBps.toNat)) :
    counted incoming candidate config = [] := by
  apply List.filter_eq_nil_iff.mpr
  intro found member informative
  obtain ⟨left, right⟩ := (matches_within comparable).inside found member
  have both := isInformative_both informative
  unfold BothInformative informationAt at both
  rw [List.getElem?_eq_getElem left, List.getElem?_eq_getElem right] at both
  exact none _ (List.getElem_mem left) _ (List.getElem_mem right) both

theorem classify_strong {evidence : SequenceEvidence}
    (strong : classify evidence config = .strongDuplicate) : isStrong evidence config = true := by
  unfold classify at strong
  split at strong
  · assumption
  · split at strong <;> cases strong

/-- Evidence without an informative match decides against a duplicate. -/
theorem classify_none {evidence : SequenceEvidence} (valid : config.validate = .ok ())
    (none : evidence.informativeMatchedSamples = 0) :
    classify evidence config = .notDuplicate := by
  have least : config.minInformativeMatches ≠ 0 := (validate_ok_iff.mp valid).2.2.1
  have positive : config.minInformativeMatches.toNat ≠ 0 := fun zero =>
    least (UInt16.toNat_inj.mp zero)
  have weak : isStrong evidence config = false := by
    unfold isStrong
    rw [none, decide_eq_false (by omega)]
    rfl
  rw [classify, weak, none]
  rfl

/-- The evidence of an alignment: its basis points are shares of a whole, the
    samples before, in and after the matches are no more than there are, only
    informative pairs are counted, and a strong duplicate has as many of them and
    as long a run as it takes. -/
theorem evidence_is_sound (incomingValid : incoming.Valid) (candidateValid : candidate.Valid)
    (aligned : alignVideoSequences incoming candidate config = .ok alignment) :
    (alignment.evidence.incomingCoverageBps ≤ 10000 ∧
      alignment.evidence.candidateCoverageBps ≤ 10000 ∧
      alignment.evidence.medianDistanceBps ≤ 10000 ∧
      alignment.evidence.highPercentileDistanceBps ≤ 10000 ∧
      alignment.evidence.scoreBps ≤ 10000) ∧
    (matchesBetween incoming candidate config ≠ [] →
      alignment.evidence.unmatchedIncomingPrefix +
          (matchesBetween incoming candidate config).length +
          alignment.evidence.unmatchedIncomingSuffix ≤ incoming.samples.length ∧
        alignment.evidence.unmatchedCandidatePrefix +
          (matchesBetween incoming candidate config).length +
          alignment.evidence.unmatchedCandidateSuffix ≤ candidate.samples.length) ∧
    (matchesBetween incoming candidate config = [] →
      alignment.evidence.unmatchedIncomingPrefix = incoming.samples.length ∧
        alignment.evidence.unmatchedIncomingSuffix = incoming.samples.length ∧
        alignment.evidence.unmatchedCandidatePrefix = candidate.samples.length ∧
        alignment.evidence.unmatchedCandidateSuffix = candidate.samples.length) ∧
    (∃ informative : List Match,
      informative.Sublist (matchesBetween incoming candidate config) ∧
        (∀ found ∈ informative, BothInformative incoming candidate found) ∧
        alignment.evidence.informativeMatchedSamples = informative.length) ∧
    (alignment.classification = .strongDuplicate →
      config.minInformativeMatches.toNat ≤
          ((matchesBetween incoming candidate config).filter
            (BothInformative incoming candidate ·)).length ∧
        (2 ≤ config.minLongestRun.toNat →
          ∃ run, run <:+: matchesBetween incoming candidate config ∧ IsRun run ∧
            config.minLongestRun.toNat ≤ run.length ∧ ∀ found ∈ run, found.distanceBps ≤ 3500)) ∧
    ((∀ left ∈ incoming.samples, ∀ right ∈ candidate.samples,
        ¬ (1000 ≤ left.informationBps.toNat ∧ 1000 ≤ right.informationBps.toNat)) →
      alignment.classification = .notDuplicate) := by
  obtain ⟨comparable, rfl⟩ := alignVideoSequences_ok_iff.mp aligned
  have within := matches_within comparable
  have incomingSize := incomingValid.samples
  have candidateSize := candidateValid.samples
  have few : (counted incoming candidate config).length ≤ 2048 := by
    have sublist : (counted incoming candidate config).length ≤
        (matchesBetween incoming candidate config).length := List.length_filter_le _ _
    by_cases none : matchesBetween incoming candidate config = []
    · rw [none, List.length_nil] at sublist
      omega
    · have room := matches_room (·.incomingIndex) (fun m member => (within.inside m member).1)
        (within.increase.imp And.left) none
      omega
  have count : (bestEvidence incoming candidate config).informativeMatchedSamples =
      (counted incoming candidate config).length := by
    show boundedU16 (counted incoming candidate config).length = _
    unfold boundedU16
    omega
  refine ⟨⟨basisPoints_le _ _, basisPoints_le _ _, percentile_le (counted_distances comparable) 50,
    percentile_le (counted_distances comparable) 95, alignmentScoreBps_le _ _ _ _⟩, ?_, ?_, ?_, ?_,
    ?_⟩
  · intro nonempty
    exact ⟨matches_room (·.incomingIndex) (fun m member => (within.inside m member).1)
        (within.increase.imp And.left) nonempty,
      matches_room (·.candidateIndex) (fun m member => (within.inside m member).2)
        (within.increase.imp And.right) nonempty⟩
  · intro empty
    unfold matchesBetween at empty
    simp only [bestEvidence, evidenceFromPath, empty, List.head?_nil, List.getLast?_nil,
      Option.elim_none, boundedU16]
    omega
  · refine ⟨counted incoming candidate config, List.filter_sublist, ?_, count⟩
    intro found member
    exact isInformative_both (List.mem_filter.mp member).2
  · intro strong
    have passed := classify_strong strong
    simp only [isStrong, Bool.and_eq_true, decide_eq_true_eq] at passed
    obtain ⟨⟨⟨⟨⟨⟨⟨informative, -⟩, -⟩, -⟩, -⟩, run⟩, -⟩, -⟩ := passed
    rw [count] at informative
    exact ⟨le_trans informative counted_sublist.length_le, fun two => longestRun_run two run⟩
  · intro none
    apply classify_none comparable.valid
    rw [count, counted_none comparable none, List.length_nil]

def blankFingerprint : VideoSequenceFingerprint :=
  ⟨.videoSequenceV1, 500, 500, [⟨0, 0, 0, 0, 0, 0, 0⟩]⟩

theorem blank_evidence_is_sound :
    ∃ alignment,
      alignVideoSequences blankFingerprint blankFingerprint .default = .ok alignment ∧
        alignment.classification = .notDuplicate := by
  have valid : blankFingerprint.Valid := rfl
  have aligned : alignVideoSequences blankFingerprint blankFingerprint .default =
      .ok ⟨classify (bestEvidence blankFingerprint blankFingerprint .default) .default,
        bestEvidence blankFingerprint blankFingerprint .default⟩ :=
    alignVideoSequences_ok_iff.mpr ⟨⟨rfl, rfl, by decide, by decide, by decide⟩, rfl⟩
  exact ⟨_, aligned, (evidence_is_sound valid valid aligned).2.2.2.2.2 (by decide)⟩

/-- Where nothing matches, every sample is before the first match and after the
    last. -/
theorem unmatched_samples_counted_twice :
    ∃ alignment, blankFingerprint.Valid ∧
      alignVideoSequences blankFingerprint blankFingerprint .default = .ok alignment ∧
      ¬ alignment.evidence.unmatchedIncomingPrefix +
        (matchesBetween blankFingerprint blankFingerprint .default).length +
        alignment.evidence.unmatchedIncomingSuffix ≤ blankFingerprint.samples.length := by
  refine ⟨⟨classify (bestEvidence blankFingerprint blankFingerprint .default) .default,
    bestEvidence blankFingerprint blankFingerprint .default⟩, rfl, ?_, ?_⟩
  · exact alignVideoSequences_ok_iff.mpr ⟨⟨rfl, rfl, by decide, by decide, by decide⟩, rfl⟩
  · decide +kernel

end Evidence

end Sooqa.Media
