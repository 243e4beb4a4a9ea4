import Sooqa.Media.AlignmentEvidence
import Sooqa.Media.CheckedAlignment

/-!
No operation of an alignment leaves the words it is made in: the checked
functions come through, and to what the others compute.
-/
namespace Sooqa.Media
open Foundation Checked LocalAlignment

section Scores
variable (left right : VideoSequenceSample)

theorem countOnes_le (word : UInt64) : countOnes word ≤ 64 := by
  unfold countOnes
  exact le_trans (List.length_filter_le _ _) (le_of_eq List.length_range)

theorem absDiff_lt (a b : UInt8) : absDiff a.toNat b.toNat < 256 := by
  have first := a.toNat_lt
  have second := b.toNat_lt
  unfold absDiff
  omega

theorem chroma_bounds (a b : Int8) : -255 ≤ a.toInt - b.toInt ∧ a.toInt - b.toInt ≤ 255 := by
  have first := a.toInt_lt
  have second := b.toInt_lt
  have first' := a.le_toInt
  have second' := b.le_toInt
  omega

theorem checkedPairDistanceBps_ok :
    checkedPairDistanceBps left right = .ok (pairDistanceBps left right) := by
  have phash := countOnes_le (left.phash ^^^ right.phash)
  have dhash := countOnes_le (left.dhash ^^^ right.dhash)
  have luma := absDiff_lt left.meanLuma right.meanLuma
  have chromaU := chroma_bounds left.meanChromaU right.meanChromaU
  have chromaV := chroma_bounds left.meanChromaV right.meanChromaV
  unfold checkedPairDistanceBps pairDistanceBps saturatingMul saturatingAdd
  generalize countOnes (left.phash ^^^ right.phash) = p at *
  generalize countOnes (left.dhash ^^^ right.dhash) = d at *
  generalize absDiff left.meanLuma.toNat right.meanLuma.toNat = l at *
  generalize left.meanChromaU.toInt - right.meanChromaU.toInt = u at *
  generalize left.meanChromaV.toInt - right.meanChromaV.toInt = v at *
  simp (disch := omega) only [mul_ok, signed_ok, saturatingMul_ok, saturatingAdd_ok, add_ok,
    capped_ok, cast_ok, bind_ok_eq]
  congr 1
  omega

theorem checkedMatchWeightBps_ok {information : Nat} (word : information < 2 ^ 16) :
    checkedMatchWeightBps information = .ok (matchWeightBps information) := by
  unfold checkedMatchWeightBps matchWeightBps saturatingMul videoSequenceInfoThresholdBps
    matchBaseWeightBps matchInformationWeightBps matchInformationSpanBps
  by_cases blank : information < 1000
  · rw [if_pos blank, if_pos blank]
    rfl
  · rw [if_neg blank, if_neg blank]
    have product : (information - 1000) * 5400 ≤ 2 ^ 32 - 1 := by omega
    rw [saturatingSub_ok (by omega), bind_ok_eq, saturatingMul_ok (by omega), bind_ok_eq,
      add_ok (by omega), min_eq_left product]

theorem checkedPairScore_ok : checkedPairScore left right = .ok (pairScore left right) := by
  have distance := pairDistanceBps_le left right
  have word : min left.informationBps.toNat right.informationBps.toNat < 2 ^ 16 :=
    lt_of_le_of_lt (min_le_left _ _) left.informationBps.toNat_lt
  have weight := matchWeightBps_le word
  unfold checkedPairScore pairScore
  rw [checkedPairDistanceBps_ok, bind_ok_eq, checkedMatchWeightBps_ok word, bind_ok_eq]
  dsimp only
  generalize pairDistanceBps left right = d at *
  generalize matchWeightBps (min left.informationBps.toNat right.informationBps.toNat) = w at *
  have product : (10000 - d) * w ≤ 10000 * 43321 := Nat.mul_le_mul (Nat.sub_le _ _) weight
  unfold maxDistanceBps saturatingMul
  rw [cast_ok (by decide), bind_ok_eq, sub_ok distance, bind_ok_eq, saturatingMul_ok (by omega),
    bind_ok_eq, min_eq_left (by omega), castSigned_ok (by omega), bind_ok_eq]
  exact signed_ok (by omega) (by omega)

end Scores

section Tables
variable {incoming candidate : List VideoSequenceSample} {gapPenalty : Int} {tables : Tables}
  {i j k : Nat}

/-- Two sequences of at most as many samples as a fingerprint has. -/
structure Short (incoming candidate : List VideoSequenceSample) : Prop where
  incoming : incoming.length ≤ 2048
  candidate : candidate.length ≤ 2048

/-- The rows and the cells of the table are numbered far below a word. -/
theorem Short.row (short : Short incoming candidate) (inside : i ≤ incoming.length) :
    i * (candidate.length + 1) ≤ 2048 * 2049 :=
  Nat.mul_le_mul (le_trans inside short.incoming) (Nat.succ_le_succ short.candidate)

theorem item_scoreAt (left : i < incoming.length) (right : j < candidate.length) :
    checkedPairScore incoming[i] candidate[j] = .ok (scoreAt incoming candidate i j) := by
  rw [checkedPairScore_ok, scoreAt, List.getElem?_eq_getElem left, List.getElem?_eq_getElem right]

theorem item_distanceAt (left : i < incoming.length) (right : j < candidate.length) :
    checkedPairDistanceBps incoming[i] candidate[j] = .ok (distanceAt incoming candidate i j) := by
  rw [checkedPairDistanceBps_ok, distanceAt, List.getElem?_eq_getElem left,
    List.getElem?_eq_getElem right]

theorem signed_ok_of_fits {value : Int} (fits : FitsI32 value) : signed 32 value = .ok value :=
  signed_ok fits.1 fits.2

theorem Filled.checked_cell (filled : Filled incoming candidate gapPenalty (i + 1) k tables)
    (short : Short incoming candidate) (costs : 0 ≤ gapPenalty) (word : gapPenalty < 2 ^ 16)
    (row : i + 1 ≤ incoming.length) (column : k + 1 ≤ candidate.length) :
    checkedFillCell incoming candidate gapPenalty (candidate.length + 1) tables (i + 1) (k + 1) =
      .ok (fillCell incoming candidate gapPenalty (candidate.length + 1) tables (i + 1)
        (k + 1)) := by
  have here := short.row row
  have above := short.row (Nat.le_of_succ_le row)
  have columns := short.candidate
  have inside := cellIndex_inside row column
  have insideUp := cellIndex_inside (Nat.le_of_succ_le row) column
  have sizes := filled.scoresSize
  have fits : ∀ a b, a ≤ incoming.length →
      FitsI32 (best (scoreAt incoming candidate) gapPenalty a b) ∧
      FitsI32 (best (scoreAt incoming candidate) gapPenalty a b + scoreAt incoming candidate a b) ∧
      FitsI32 (best (scoreAt incoming candidate) gapPenalty a b - gapPenalty) :=
    fun a b inRows => cells_fit costs word (Or.inl (le_trans inRows short.incoming))
  have diagonal := filled.scores i k (by omega) (by omega)
  have up := filled.scores i (k + 1) (by omega) column
  have left := filled.scores (i + 1) k row (by omega)
  have done : ∀ b, Done (i + 1) k i b := fun b => Or.inl (Nat.lt_succ_self i)
  have beside : Done (i + 1) k (i + 1) k := Or.inr ⟨rfl, le_rfl⟩
  rw [if_pos (done _)] at diagonal up
  rw [if_pos beside] at left
  have diagonalIndex : i * (candidate.length + 1) + (k + 1) - 1 =
      i * (candidate.length + 1) + k := by omega
  have leftIndex : (i + 1) * (candidate.length + 1) + (k + 1) - 1 =
      (i + 1) * (candidate.length + 1) + k := by omega
  have fitsDiagonal := signed_ok_of_fits (fits i k (by omega)).2.1
  have fitsUp := signed_ok_of_fits (fits i (k + 1) (by omega)).2.2
  have fitsLeft := signed_ok_of_fits (fits (i + 1) k row).2.2
  unfold checkedFillCell fillCell
  rw [mul_ok (by omega), bind_ok_eq, add_ok (by omega), bind_ok_eq, sub_ok (by omega), bind_ok_eq]
  simp only [Nat.add_sub_cancel]
  rw [mul_ok (by omega), bind_ok_eq, add_ok (by omega), bind_ok_eq, sub_ok (by omega), bind_ok_eq,
    sub_ok (by omega), bind_ok_eq, diagonalIndex, leftIndex, cell_ok 0 (by omega), bind_ok_eq,
    item_ok (by omega), bind_ok_eq, sub_ok (by omega), bind_ok_eq]
  simp only [Nat.add_sub_cancel]
  rw [item_ok (by omega), bind_ok_eq, item_scoreAt, bind_ok_eq, diagonal, fitsDiagonal, bind_ok_eq,
    cell_ok 0 (by omega), bind_ok_eq, up, fitsUp, bind_ok_eq, cell_ok 0 (by omega), bind_ok_eq,
    left, fitsLeft, bind_ok_eq, setCell_ok (by omega), bind_ok_eq,
    setCell_ok (by rw [filled.directionsSize]; exact inside), bind_ok_eq]
  rfl

theorem Filled.checked_row (filled : Filled incoming candidate gapPenalty (i + 1) 0 tables)
    (short : Short incoming candidate) (costs : 0 ≤ gapPenalty) (word : gapPenalty < 2 ^ 16)
    (row : i + 1 ≤ incoming.length) (column : k ≤ candidate.length) :
    checkedFillRow incoming candidate gapPenalty (candidate.length + 1) (i + 1) tables k =
      .ok (fillRow incoming candidate gapPenalty (candidate.length + 1) (i + 1) tables k) := by
  induction k with
  | zero => rfl
  | succ k ih =>
    have before := filled.row_filled row (Nat.le_of_succ_le column)
    rw [checkedFillRow, ih (Nat.le_of_succ_le column), bind_ok_eq]
    exact before.checked_cell short costs word row column

theorem checked_rows (short : Short incoming candidate) (costs : 0 ≤ gapPenalty)
    (word : gapPenalty < 2 ^ 16) (row : i ≤ incoming.length) :
    checkedFillRows incoming candidate gapPenalty (candidate.length + 1)
        ((incoming.length + 1) * (candidate.length + 1)) i =
      .ok (fillRows incoming candidate gapPenalty i) := by
  induction i with
  | zero => rfl
  | succ i ih =>
    have before : Filled incoming candidate gapPenalty i candidate.length
        (fillRows incoming candidate gapPenalty i) := filled_rows (Nat.le_of_succ_le row)
    rw [checkedFillRows, ih (Nat.le_of_succ_le row), bind_ok_eq]
    exact before.nextRow.checked_row short costs word row le_rfl

/-- The tables have a cell for each pair of prefixes. -/
structure Sized (incoming candidate : List VideoSequenceSample) (tables : Tables) : Prop where
  scores : tables.scores.size = (incoming.length + 1) * (candidate.length + 1)
  directions : tables.directions.size = (incoming.length + 1) * (candidate.length + 1)

theorem Sized.checked_backtrack (sized : Sized incoming candidate tables)
    (short : Short incoming candidate) {fuel : Nat} : ∀ {i j : Nat} (path : List PathStep),
    i ≤ incoming.length → j ≤ candidate.length →
    checkedBacktrackLoop tables (candidate.length + 1) incoming candidate fuel i j path =
      .ok (backtrackLoop tables (candidate.length + 1) incoming candidate fuel i j path) := by
  induction fuel with
  | zero =>
    intro i j path _ _
    rfl
  | succ fuel ih =>
    intro i j path row column
    have here := short.row row
    have columns := short.candidate
    have inside := cellIndex_inside row column
    have scores := sized.scores
    have directions := sized.directions
    unfold checkedBacktrackLoop backtrackLoop
    by_cases open_ : 0 < i ∧ 0 < j
    · rw [if_pos open_, if_pos open_, mul_ok (by omega), bind_ok_eq, add_ok (by omega), bind_ok_eq,
        cell_ok 0 (by omega), bind_ok_eq]
      by_cases none : tables.scores.getD (i * (candidate.length + 1) + j) 0 = 0
      · rw [if_pos none, if_pos none]
        rfl
      · rw [if_neg none, if_neg none, cell_ok 0 (by omega), bind_ok_eq]
        generalize tables.directions.getD (i * (candidate.length + 1) + j) 0 = direction
        rcases direction with _ | _ | _ | _ | _
        · rfl
        · rw [sub_ok (by omega), bind_ok_eq, sub_ok (by omega), bind_ok_eq, item_ok (by omega),
            bind_ok_eq, item_ok (by omega), bind_ok_eq, item_distanceAt, bind_ok_eq]
          exact ih _ (by omega) (by omega)
        · rw [sub_ok (by omega), bind_ok_eq]
          exact ih _ (by omega) column
        · rw [sub_ok (show 1 ≤ j by omega)]
          exact ih _ row (by omega)
        · rfl
    · rw [if_neg open_, if_neg open_]
      rfl

theorem backtrackLoop_length (tables : Tables) (columns : Nat)
    (incoming candidate : List VideoSequenceSample) (fuel : Nat) :
    ∀ (i j : Nat) (path : List PathStep),
    (backtrackLoop tables columns incoming candidate fuel i j path).length ≤
      fuel + path.length := by
  induction fuel with
  | zero =>
    intro i j path
    exact Nat.le_add_left _ _
  | succ fuel ih =>
    intro i j path
    unfold backtrackLoop
    split
    · split
      · omega
      · split
        · refine le_trans (ih _ _ _) ?_
          rw [List.length_cons]
          omega
        · refine le_trans (ih _ _ _) ?_
          rw [List.length_cons]
          omega
        · refine le_trans (ih _ _ _) ?_
          rw [List.length_cons]
          omega
        · omega
    · omega

end Tables

section Evidence
variable {incoming candidate : List VideoSequenceSample} {found : List Match}

/-- The matches lie within two sequences. -/
def Inside (incoming candidate : Nat) (found : List Match) : Prop :=
  ∀ m ∈ found, m.incomingIndex < incoming ∧ m.candidateIndex < candidate

theorem checkedInformative_ok (inside : Inside incoming.length candidate.length found) :
    checkedInformative incoming candidate found =
      .ok (found.filter (isInformative incoming candidate)) := by
  induction found with
  | nil => rfl
  | cons first rest ih =>
    obtain ⟨⟨left, right⟩, later⟩ := List.forall_mem_cons.mp inside
    have kept : isInformative incoming candidate first =
        (decide (videoSequenceInfoThresholdBps ≤
            incoming[first.incomingIndex].informationBps.toNat) &&
          decide (videoSequenceInfoThresholdBps ≤
            candidate[first.candidateIndex].informationBps.toNat) &&
          decide (first.distanceBps ≤ 8000)) := by
      unfold isInformative informationAt
      rw [List.getElem?_eq_getElem left, List.getElem?_eq_getElem right]
    rw [checkedInformative, item_ok left, bind_ok_eq, ih later, List.filter_cons, kept]
    by_cases informative : videoSequenceInfoThresholdBps ≤
        incoming[first.incomingIndex].informationBps.toNat
    · rw [if_pos informative, item_ok right, decide_eq_true informative, Bool.true_and]
      simp only [bind_ok_eq, pure, Except.pure]
    · rw [if_neg informative, decide_eq_false informative, Bool.false_and, Bool.false_and]
      rfl

theorem checkedBasisPoints_ok {numerator denominator : Nat} (short : denominator ≤ 2048) :
    checkedBasisPoints numerator denominator = .ok (basisPoints numerator denominator) := by
  unfold checkedBasisPoints basisPoints
  by_cases none : denominator = 0
  · rw [if_pos none, if_pos none]
    rfl
  · have cap : min numerator denominator * 10000 / denominator ≤ 10000 := by
      apply Nat.div_le_of_le_mul
      exact Nat.mul_le_mul_right _ (min_le_right _ _)
    rw [if_neg none, if_neg none, mul_ok (by omega), bind_ok_eq, capped_ok cap, bind_ok_eq,
      cast_ok (by omega), min_eq_left cap]

theorem checkedPercentile_ok {values : List Nat} {percent : Nat} (short : values.length ≤ 2048)
    (whole : percent ≤ 100) :
    checkedPercentile values percent = .ok (percentile values percent) := by
  unfold checkedPercentile percentile
  cases values with
  | nil => rfl
  | cons first rest =>
    have product : ((first :: rest).length - 1) * percent ≤ 2048 * 100 :=
      Nat.mul_le_mul (by omega) whole
    have some : 1 ≤ (first :: rest).length := List.length_pos_of_ne_nil (List.cons_ne_nil _ _)
    rw [if_neg (by simp), if_neg (by simp), sub_ok some, bind_ok_eq, mul_ok (by omega), bind_ok_eq]
    rfl

theorem checkedConsecutive_ok {first second : Match} (incoming : first.incomingIndex < 2048)
    (candidate : first.candidateIndex < 2048) :
    checkedConsecutive first second = .ok (consecutive first second) := by
  unfold checkedConsecutive consecutive
  rw [add_ok (by omega), bind_ok_eq]
  by_cases next : second.incomingIndex = first.incomingIndex + 1
  · rw [if_neg (not_not.mpr next), add_ok (by omega), bind_ok_eq, beq_iff_eq.mpr next,
      Bool.true_and]
    rfl
  · rw [if_pos next, beq_false_of_ne next, Bool.false_and, Bool.false_and, Bool.false_and]
    rfl

theorem checkedLongestWindows_ok {current longest : Nat} (inside : Inside 2048 2048 found)
    (room : current + found.length ≤ 2 ^ 32) :
    checkedLongestWindows found current longest = .ok (longestWindows found current longest) := by
  induction found generalizing current longest with
  | nil => rfl
  | cons first found ih =>
    cases found with
    | nil => rfl
    | cons second rest =>
      obtain ⟨⟨left, right⟩, later⟩ := List.forall_mem_cons.mp inside
      rw [List.length_cons] at room
      rw [checkedLongestWindows, longestWindows, checkedConsecutive_ok left right, bind_ok_eq]
      by_cases next : consecutive first second = true
      · rw [if_pos next, if_pos next, add_ok (by omega)]
        exact ih later (by omega)
      · rw [if_neg next, if_neg next]
        exact ih later (by omega)

theorem longestWindows_le (found : List Match) (current longest : Nat) :
    longestWindows found current longest ≤ max longest (current + found.length) := by
  induction found generalizing current longest with
  | nil => exact le_max_left _ _
  | cons first found ih =>
    cases found with
    | nil => exact le_max_left _ _
    | cons second rest =>
      rw [longestWindows]
      refine le_trans (ih _ _) ?_
      simp only [List.length_cons]
      split <;> omega

theorem checkedU16_ok {count : Nat} (fits : count < 2 ^ 16) :
    checkedU16 count = .ok (boundedU16 count) := by
  unfold checkedU16 boundedU16
  rw [capped_ok (by omega), bind_ok_eq, cast_ok fits, min_eq_left (by omega)]

theorem checkedLongestRun_ok (inside : Inside 2048 2048 found) (short : found.length ≤ 2048) :
    checkedLongestRun found = .ok (longestRun found) := by
  have bound := longestWindows_le found 0 0
  unfold checkedLongestRun longestRun
  rw [checkedLongestWindows_ok inside (by omega), bind_ok_eq]
  cases found with
  | nil => rfl
  | cons first rest =>
    rw [if_neg (by simp), add_ok (by omega), bind_ok_eq]
    exact checkedU16_ok (by omega)

theorem checkedSuffix_ok {samples : Nat} {last : Option Nat} (short : samples ≤ 2048)
    (inside : ∀ index, last = some index → index < samples) :
    checkedSuffix samples last =
      .ok (boundedU16 (last.elim samples (fun index => samples - (index + 1)))) := by
  cases last with
  | none => exact checkedU16_ok (by omega)
  | some index =>
    have within := inside index rfl
    rw [checkedSuffix, add_ok (by omega), bind_ok_eq, saturatingSub_ok within, bind_ok_eq]
    exact checkedU16_ok (by omega)

section Gaps

/-- A gap behind another step opens. -/
def opens (afterGap : Bool) : PathStep → Nat
  | .gap => if afterGap then 0 else 1
  | .matched _ _ _ => 0

theorem gapsOpened_snoc (afterGap : Bool) (path : List PathStep) (step : PathStep) :
    gapsOpened afterGap (path ++ [step]) =
      gapsOpened afterGap path + opens (path.getLast?.elim afterGap (· == .gap)) step := by
  induction path generalizing afterGap with
  | nil => cases step <;> cases afterGap <;> rfl
  | cons first path ih =>
    have last : ∀ b : Bool, (path.getLast?.elim b (· == PathStep.gap)) =
        ((first :: path).getLast?.elim afterGap (· == .gap)) ∨ path = [] := by
      intro b
      cases path with
      | nil => exact Or.inr rfl
      | cons second path =>
        left
        rw [List.getLast?_cons_cons, List.getLast?_eq_some_getLast (List.cons_ne_nil second path)]
        rfl
    cases first with
    | gap =>
      rw [List.cons_append, gapsOpened, gapsOpened, ih, Nat.add_assoc]
      rcases last true with same | rfl
      · rw [same]
      · rfl
    | matched i j distance =>
      rw [List.cons_append, gapsOpened, gapsOpened, ih]
      rcases last false with same | rfl
      · rw [same]
      · rfl

theorem gapsOpened_le (afterGap : Bool) (path : List PathStep) :
    gapsOpened afterGap path ≤ path.length := by
  induction path generalizing afterGap with
  | nil => exact le_rfl
  | cons step path ih =>
    cases step with
    | gap =>
      have rest := ih true
      rw [gapsOpened, List.length_cons]
      split <;> omega
    | matched i j distance =>
      have rest := ih false
      rw [gapsOpened, List.length_cons]
      omega

theorem checkedOpens_ok {path : List PathStep} {n : Nat} (inside : n < path.length) :
    checkedOpens path n =
      .ok (opens ((path.take n).getLast?.elim false (· == .gap)) path[n] == 1) := by
  unfold checkedOpens
  rw [item_ok inside, bind_ok_eq]
  cases step : path[n] with
  | matched i j distance => rfl
  | gap =>
    rw [if_neg (not_not.mpr rfl)]
    cases n with
    | zero => rfl
    | succ n =>
      have before : (path.take (n + 1)).getLast? = some path[n] := by
        rw [List.take_succ_eq_append_getElem (by omega), List.getLast?_append,
          List.getLast?_singleton, Option.some_or]
      rw [if_neg (Nat.succ_ne_zero n), sub_ok (by omega), bind_ok_eq, Nat.add_sub_cancel,
        item_ok (by omega), bind_ok_eq, before, Option.elim_some]
      cases path[n] <;> rfl

theorem checkedGapsOpened_ok {path : List PathStep} (short : path.length ≤ 4096) {n : Nat}
    (inside : n ≤ path.length) :
    checkedGapsOpened path n = .ok (gapsOpened false (path.take n)) := by
  induction n with
  | zero => rfl
  | succ n ih =>
    have bound := gapsOpened_le false (path.take n)
    rw [List.length_take_of_le (by omega)] at bound
    rw [checkedGapsOpened, ih (by omega), bind_ok_eq, checkedOpens_ok inside, bind_ok_eq,
      List.take_succ_eq_append_getElem inside, gapsOpened_snoc]
    generalize (path.take n).getLast?.elim false (· == PathStep.gap) = afterGap
    cases path[n] with
    | matched i j distance => rfl
    | gap =>
      cases afterGap with
      | true => rfl
      | false => exact add_ok (by omega)

end Gaps

theorem checkedAlignmentScoreBps_ok {score : Int} {count coverage : Nat} {median : Option Nat}
    (fits : FitsI32 score) (close : median.getD 10000 ≤ 10000) (covered : coverage ≤ 10000) :
    checkedAlignmentScoreBps score count median coverage =
      .ok (alignmentScoreBps score count median coverage) := by
  unfold FitsI32 at fits
  unfold checkedAlignmentScoreBps alignmentScoreBps saturatingAdd
  by_cases none : count = 0 ∨ score ≤ 0
  · rw [if_pos none, if_pos none]
    rfl
  · have bounded : min score.toNat 10000 ≤ 10000 := min_le_right _ _
    rw [if_neg none, if_neg none, saturatingSub_ok close, bind_ok_eq,
      toUnsigned_ok (by omega) (by omega), bind_ok_eq]
    generalize median.getD 10000 = distance at *
    generalize min score.toNat 10000 = scored at *
    simp (disch := omega) only [mul_ok, saturatingAdd_ok, capped_ok, cast_ok, bind_ok_eq]
    rw [min_eq_left (by omega), min_eq_left (by omega), min_eq_left (by omega)]

section Times
variable {fingerprint : VideoSequenceFingerprint} {index : Nat}

theorem sampleTimestampMs_lt (short : fingerprint.samples.length ≤ 2048) (index : Nat) :
    (sampleTimestampMs fingerprint index).getD 0 < 2 ^ 43 := by
  have interval := fingerprint.intervalMs.toNat_lt
  unfold sampleTimestampMs
  split
  · decide
  · rename_i inside
    have product : fingerprint.intervalMs.toNat * index ≤ (2 ^ 32 - 1) * 2047 :=
      Nat.mul_le_mul (by omega) (by omega)
    rw [Option.getD_some]
    omega

theorem checkedTimestampMs_ok (short : fingerprint.samples.length ≤ 2048) :
    checkedTimestampMs fingerprint index = .ok (sampleTimestampMs fingerprint index) := by
  have bound := sampleTimestampMs_lt short index
  unfold checkedTimestampMs
  unfold sampleTimestampMs at *
  by_cases outside : fingerprint.samples.length ≤ index
  · rw [if_pos outside, if_pos outside]
    rfl
  · rw [if_neg outside] at *
    rw [Option.getD_some] at bound
    rw [mul_ok (by omega), bind_ok_eq, if_neg outside]
    rfl

theorem checkedSignedMs_ok {value : Nat} (small : value < 2 ^ 43) :
    checkedSignedMs value = .ok (signedMs value) := by
  unfold checkedSignedMs signedMs
  rw [capped_ok (by omega), bind_ok_eq, castSigned_ok (by omega), if_pos (by omega)]

theorem checkedAlignedOffset_ok {incoming candidate : VideoSequenceFingerprint}
    (short : Short incoming.samples candidate.samples) (first : Option Match) :
    checkedAlignedOffset incoming candidate first =
      .ok (alignedOffset incoming candidate first) := by
  cases first with
  | none => rfl
  | some first =>
    have candidateTime := sampleTimestampMs_lt short.candidate first.candidateIndex
    have incomingTime := sampleTimestampMs_lt short.incoming first.incomingIndex
    rw [checkedAlignedOffset, alignedOffset, checkedTimestampMs_ok short.candidate, bind_ok_eq,
      checkedSignedMs_ok candidateTime, bind_ok_eq, checkedTimestampMs_ok short.incoming,
      bind_ok_eq, checkedSignedMs_ok incomingTime, bind_ok_eq]
    unfold signedMs
    rw [if_pos (by omega), if_pos (by omega)]
    exact signed_ok (by omega) (by omega)

end Times

end Evidence

section Alignment
variable {incoming candidate : VideoSequenceFingerprint} {config : SequenceAlignmentConfig}

/-- A growing list of matches within a sequence is no longer than it. -/
theorem matches_length {found : List Match}
    (within : MatchesWithin incoming.samples candidate.samples found) :
    found.length ≤ incoming.samples.length := by
  cases found with
  | nil => exact Nat.zero_le _
  | cons first rest =>
    have growing := within.increase.imp (fun both => both.1)
    have room := matches_room (·.incomingIndex) (fun m member => (within.inside m member).1) growing
      (List.cons_ne_nil first rest)
    omega

theorem checkedEvidence_ok (short : Short incoming.samples candidate.samples)
    {path : List PathStep} {score : Int} (fits : FitsI32 score)
    (within : MatchesWithin incoming.samples candidate.samples (matchesOf path))
    (length : path.length ≤ 4096) :
    checkedEvidenceFromPath incoming candidate path score =
      .ok (evidenceFromPath incoming candidate path score) := by
  have incomingShort := short.incoming
  have candidateShort := short.candidate
  have matched := matches_length within
  unfold checkedEvidenceFromPath evidenceFromPath
  dsimp only
  generalize matchesOf path = found at *
  have counted : (found.filter (isInformative incoming.samples candidate.samples)).length ≤
      found.length := List.length_filter_le _ _
  have distances : ∀ value ∈ (found.filter (isInformative incoming.samples candidate.samples)).map
      (·.distanceBps), value ≤ 10000 := by
    intro value member
    obtain ⟨m, informative, rfl⟩ := List.mem_map.mp member
    rw [within.distance m (List.mem_filter.mp informative).1]
    exact distanceAt_le _ _ _ _
  have inside : Inside 2048 2048 found := by
    intro m member
    obtain ⟨left, right⟩ := within.inside m member
    exact ⟨by omega, by omega⟩
  have gaps := gapsOpened_le false path
  have opening : ∀ m, found.head? = some m → m.incomingIndex < incoming.samples.length ∧
      m.candidateIndex < candidate.samples.length :=
    fun m opens => within.inside m (List.mem_of_head? opens)
  have closing : ∀ m, found.getLast? = some m → m.incomingIndex < incoming.samples.length ∧
      m.candidateIndex < candidate.samples.length :=
    fun m closes => within.inside m (List.mem_of_getLast? closes)
  rw [checkedInformative_ok within.inside, bind_ok_eq]
  generalize found.filter (isInformative incoming.samples candidate.samples) = informative at *
  have some : (informative.map (·.distanceBps)).length ≤ 2048 := by
    rw [List.length_map]
    omega
  have median := percentile_le distances 50
  have coverage := basisPoints_le found.length incoming.samples.length
  have openingFits : ∀ place : Match → Nat, (∀ m, found.head? = Option.some m → place m < 2048) →
      ∀ size ≤ 2048, found.head?.elim size place < 2 ^ 16 := by
    intro place within size bound
    cases first : found.head? with
    | none => exact lt_of_le_of_lt bound (by decide)
    | some m => exact lt_trans (within m first) (by decide)
  have suffix : ∀ (place : Match → Nat) (size : Nat),
      (found.getLast?.map place).elim size (fun index => size - (index + 1)) =
        found.getLast?.elim size (fun last => size - (place last + 1)) := by
    intro place size
    cases found.getLast? <;> rfl
  have closingFits : ∀ (place : Match → Nat) (size : Nat),
      (∀ m, found.getLast? = Option.some m → place m < size) →
      ∀ index, found.getLast?.map place = Option.some index → index < size := by
    intro place size within index there
    obtain ⟨m, closes, rfl⟩ := Option.map_eq_some_iff.mp there
    exact within m closes
  rw [checkedPercentile_ok some (by decide), bind_ok_eq, checkedPercentile_ok some (by decide),
    bind_ok_eq, checkedAlignedOffset_ok short, bind_ok_eq, checkedBasisPoints_ok incomingShort,
    bind_ok_eq, checkedBasisPoints_ok candidateShort, bind_ok_eq,
    checkedLongestRun_ok inside (by omega), bind_ok_eq, checkedGapsOpened_ok length le_rfl,
    bind_ok_eq, List.take_length, cast_ok (by omega), bind_ok_eq,
    checkedAlignmentScoreBps_ok fits median (le_trans (min_le_left _ _) coverage), bind_ok_eq,
    checkedU16_ok (by omega), bind_ok_eq,
    checkedU16_ok (openingFits (·.incomingIndex) (fun m opens => by
      have := (opening m opens).1
      omega) _ incomingShort), bind_ok_eq,
    checkedSuffix_ok incomingShort (closingFits _ _ (fun m closes => (closing m closes).1)),
    bind_ok_eq,
    checkedU16_ok (openingFits (·.candidateIndex) (fun m opens => by
      have := (opening m opens).2
      omega) _ candidateShort), bind_ok_eq,
    checkedSuffix_ok candidateShort (closingFits _ _ (fun m closes => (closing m closes).2)),
    bind_ok_eq, suffix, suffix, Nat.mod_eq_of_lt (by omega)]
  rfl

/-- The tables, the way back and the evidence of an alignment that is not refused. -/
theorem checked_result (comparable : Comparable incoming candidate config)
    (short : Short incoming.samples candidate.samples) :
    checkedFillRows incoming.samples candidate.samples config.gapPenaltyBps.toNat
        (candidate.samples.length + 1)
        ((incoming.samples.length + 1) * (candidate.samples.length + 1)) incoming.samples.length =
      .ok (tablesOf incoming candidate config) ∧
    checkedBacktrackLoop (tablesOf incoming candidate config) (candidate.samples.length + 1)
        incoming.samples candidate.samples
        ((tablesOf incoming candidate config).best.1 +
          (tablesOf incoming candidate config).best.2.1)
        (tablesOf incoming candidate config).best.1
        (tablesOf incoming candidate config).best.2.1 [] =
      .ok (bestPath incoming candidate config) ∧
    checkedEvidenceFromPath incoming candidate (bestPath incoming candidate config)
        (bestScore incoming candidate config) =
      .ok (bestEvidence incoming candidate config) := by
  have costs := le_of_lt comparable.penalty
  have word : (config.gapPenaltyBps.toNat : Int) < 2 ^ 16 := by
    have bound := config.gapPenaltyBps.toNat_lt
    omega
  have filled : Filled incoming.samples candidate.samples config.gapPenaltyBps.toNat
      incoming.samples.length candidate.samples.length (tablesOf incoming candidate config) :=
    filled_rows le_rfl
  have incomingShort := short.incoming
  have candidateShort := short.candidate
  have row := filled.row
  have column := filled.column
  refine ⟨checked_rows short costs word le_rfl, ?_, ?_⟩
  · have sized : Sized incoming.samples candidate.samples (tablesOf incoming candidate config) :=
      ⟨filled.scoresSize, filled.directionsSize⟩
    exact sized.checked_backtrack short [] row column
  · apply checkedEvidence_ok short
    · rw [bestScore, filled.reached]
      exact (cells_fit costs word (Or.inl (le_trans row incomingShort))).1
    · exact matches_within comparable
    · refine le_trans (backtrackLoop_length _ _ _ _ _ _ _ []) ?_
      rw [List.length_nil]
      omega

/-- The arithmetic of an alignment is exact: with every operation checked, it
    comes to the same refusal or to the same alignment. -/
theorem alignment_arithmetic_is_exact (incomingValid : incoming.Valid)
    (candidateValid : candidate.Valid) (config : SequenceAlignmentConfig) :
    checkedAlignVideoSequences incoming candidate config =
      .ok (alignVideoSequences incoming candidate config) := by
  obtain ⟨incomingSome, incomingShort⟩ := incomingValid.samples
  obtain ⟨candidateSome, candidateShort⟩ := candidateValid.samples
  have incomingFull := List.ne_nil_of_length_pos incomingSome
  have candidateFull := List.ne_nil_of_length_pos candidateSome
  have cells : (incoming.samples.length + 1) * (candidate.samples.length + 1) ≤ 2049 * 2049 :=
    Nat.mul_le_mul (Nat.succ_le_succ incomingShort) (Nat.succ_le_succ candidateShort)
  have product : checkedMul (incoming.samples.length + 1) (candidate.samples.length + 1) =
      some ((incoming.samples.length + 1) * (candidate.samples.length + 1)) := if_pos (by omega)
  have full : ¬ (incoming.samples.isEmpty || candidate.samples.isEmpty) = true := by
    simp [incomingFull, candidateFull]
  have full' : ¬ (incoming.samples.isEmpty = true ∨ candidate.samples.isEmpty = true) := by
    simp [incomingFull, candidateFull]
  unfold checkedAlignVideoSequences
  cases valid : config.validate with
  | error error =>
    unfold alignVideoSequences
    rw [valid]
    rfl
  | ok _ =>
    dsimp only
    by_cases version : incoming.version = candidate.version
    · rw [if_neg (not_not.mpr version), if_neg full, add_ok (by omega), bind_ok_eq,
        add_ok (by omega), bind_ok_eq, product]
      dsimp only
      by_cases large : (incoming.samples.length + 1) * (candidate.samples.length + 1) >
          config.maxCells.toNat
      · unfold alignVideoSequences
        rw [if_pos large, valid, bind_ok_eq, require_met version, bind_ok_eq, require_met full',
          bind_ok_eq, product, expect, bind_ok_eq, require, if_neg (not_le.mpr large)]
        rfl
      · have comparable : Comparable incoming candidate config :=
          ⟨valid, version, incomingFull, candidateFull, not_lt.mp large⟩
        obtain ⟨tables, path, evidence⟩ :=
          checked_result comparable ⟨incomingShort, candidateShort⟩
        rw [if_neg large, tables, bind_ok_eq, path, bind_ok_eq,
          alignVideoSequences_ok_iff.mpr ⟨comparable, rfl⟩]
        change (checkedEvidenceFromPath incoming candidate (bestPath incoming candidate config)
          (bestScore incoming candidate config) >>= _) = _
        rw [evidence]
        rfl
    · unfold alignVideoSequences
      rw [if_pos version, valid, bind_ok_eq, require, if_neg version]
      rfl

theorem short_alignment_is_exact :
    checkedAlignVideoSequences shortFingerprint shortFingerprint .default =
      .ok (alignVideoSequences shortFingerprint shortFingerprint .default) := by
  have valid : shortFingerprint.Valid := rfl
  exact alignment_arithmetic_is_exact valid valid .default

end Alignment

end Sooqa.Media
