import Sooqa.Media.LadderDescent

/-!
The bitrate of a two-pass encode. The arithmetic is stated once more with the
128-bit words of the source and the faults these can end in; for profiles of the
canonical size none of them happens. The bitrate is given in whole kilobits, so
the budget and the quality floor hold up to one of them.
-/
namespace Sooqa.Media
open Foundation NormalizationPlanner

section Words

/-- How unchecked arithmetic can go wrong. -/
inductive ArithmeticFault where
  | overflow
  | divisionByZero
  deriving DecidableEq, Repr

def mulU128 (a b : Nat) : Except ArithmeticFault Nat :=
  if a * b < 2 ^ 128 then .ok (a * b) else .error .overflow

def checkedMulU128 (a b : Nat) : Option Nat :=
  if a * b < 2 ^ 128 then some (a * b) else none

def divU128 (a b : Nat) : Except ArithmeticFault Nat :=
  if b = 0 then .error .divisionByZero else .ok (a / b)

def divCeilU128 (a b : Nat) : Except ArithmeticFault Nat :=
  if b = 0 then .error .divisionByZero else .ok (divCeil a b)

def checkedSub (a b : Nat) : Option Nat := if b ≤ a then some (a - b) else none

def requiresFrameRateCapWords (video : MediaStream) (maximum : FrameRate) :
    Except ArithmeticFault Bool :=
  match video.frameRate with
  | none => .ok true
  | some rate =>
    if rate.denominator = 0 then .ok true
    else do
      let left ← mulU128 rate.numerator.toNat maximum.denominator.toNat
      let right ← mulU128 maximum.numerator.toNat rate.denominator.toNat
      return decide (left > right)

def effectiveFrameRateWords (video : MediaStream) (maximum : FrameRate) :
    Except ArithmeticFault FrameRate :=
  match video.frameRate with
  | none => .ok maximum
  | some rate => do
    let capped ← requiresFrameRateCapWords video maximum
    return if capped then maximum else rate

def minimumVideoBitrateWords (dimensions : VideoDimensions) (frameRate : FrameRate) :
    Except ArithmeticFault Nat := do
  let pixels ← mulU128 dimensions.width dimensions.height
  let samples ← mulU128 pixels frameRate.numerator.toNat
  let numerator ← mulU128 samples 60000
  let denominator ← mulU128 frameRate.denominator.toNat 1000000
  divCeilU128 numerator denominator

/-- The first size whose bits the bitrate covers. -/
def firstCoveredWords (videoBitrate : Nat) (frameRate : FrameRate) :
    List VideoDimensions → Except ArithmeticFault (Option VideoDimensions)
  | [] => .ok none
  | dimensions :: rest => do
    let required ← minimumVideoBitrateWords dimensions frameRate
    if required ≤ videoBitrate then return some dimensions
    else firstCoveredWords videoBitrate frameRate rest

variable (planner : NormalizationPlanner)

def audioBitrateOf (probe : MediaProbe) : Nat :=
  if probe.streams.any (·.kind == .audio) then planner.profile.audioBitrateKbps.toNat * 1000
  else 0

/-- The bits that the target leaves for the streams, and what they come to in a
    second. -/
def targetBitsWords : Option Nat := do
  let bits ← checkedMulU128 planner.profile.targetMaxBytes.toNat 8
  let scaled ← checkedMulU128 bits (10000 - 200)
  return scaled / 10000

def kbpsOf (videoBitrate : Nat) : UInt64 :=
  UInt64.ofNat (max (min (videoBitrate / 1000) (2 ^ 64 - 1)) 1)

def twoPassCandidateWords (video : MediaStream) (probe : MediaProbe) :
    Except ArithmeticFault (Option (VideoDimensions × UInt64)) := do
  match probe.durationMs.filter (· > 0),
      (targetBitsWords planner).bind (checkedMulU128 · 1000) with
  | some durationMs, some milliBits =>
    let totalBitrate ← divU128 milliBits durationMs.toNat
    match checkedSub totalBitrate (audioBitrateOf planner probe) with
    | none => return none
    | some videoBitrate =>
      let frameRate ← effectiveFrameRateWords video planner.profile.maxFrameRate
      let dimensions ←
        firstCoveredWords videoBitrate frameRate (planner.resolutionLadder video)
      return dimensions.map fun dimensions => (dimensions, kbpsOf videoBitrate)
  | _, _ => return none

end Words

section Faultless
variable {planner : NormalizationPlanner} {video : MediaStream} {probe : MediaProbe}

theorem mulU128_fits {a b : Nat} (fits : a * b < 2 ^ 128) : mulU128 a b = .ok (a * b) :=
  if_pos fits

/-- Two 64-bit words multiply into 128 bits. -/
theorem words_fit (a b : UInt64) : a.toNat * b.toNat < 2 ^ 128 := by
  have product := Nat.mul_lt_mul'' a.toNat_lt b.toNat_lt
  omega

theorem requiresFrameRateCapWords_eq (maximum : FrameRate) :
    requiresFrameRateCapWords video maximum = .ok (requiresFrameRateCap video maximum) := by
  unfold requiresFrameRateCapWords requiresFrameRateCap
  cases video.frameRate with
  | none => rfl
  | some rate =>
    dsimp only
    by_cases zero : rate.denominator = 0
    · simp [zero]
    · rw [if_neg zero, mulU128_fits (words_fit _ _), bind_ok_eq, mulU128_fits (words_fit _ _),
        bind_ok_eq]
      simp [zero, pure, Except.pure]

theorem effectiveFrameRateWords_eq (maximum : FrameRate) :
    effectiveFrameRateWords video maximum = .ok (effectiveFrameRate video maximum) := by
  unfold effectiveFrameRateWords effectiveFrameRate
  cases video.frameRate with
  | none => rfl
  | some rate =>
    dsimp only
    rw [requiresFrameRateCapWords_eq, bind_ok_eq]
    rfl

theorem NormalizationPlanner.maxFrameRate_denominator (planner : NormalizationPlanner) :
    planner.profile.maxFrameRate.denominator ≠ 0 := by
  have valid := planner.valid
  obtain ⟨_, _, valid⟩ := bind_ok.mp valid
  obtain ⟨_, rate, _⟩ := bind_ok.mp valid
  have rate := require_ok.mp rate
  push Not at rate
  exact rate.2

/-- The frame rate that counts has a denominator. -/
theorem effectiveFrameRate_denominator (video : MediaStream) :
    (effectiveFrameRate video planner.profile.maxFrameRate).denominator ≠ 0 := by
  unfold effectiveFrameRate
  split
  · rename_i rate known
    split
    · exact planner.maxFrameRate_denominator
    · rename_i uncapped
      intro zero
      apply uncapped
      rw [requiresFrameRateCap, known]
      simp [zero]
  · exact planner.maxFrameRate_denominator

/-- A size within 1920 by 1080, up to the next even one. -/
def Canonical (dimensions : VideoDimensions) : Prop :=
  dimensions.width ≤ 1921 ∧ dimensions.height ≤ 1081

theorem minimumVideoBitrateWords_eq {dimensions : VideoDimensions} (canonical : Canonical dimensions)
    {frameRate : FrameRate} (nonzero : frameRate.denominator ≠ 0) :
    minimumVideoBitrateWords dimensions frameRate =
      .ok (minimumVideoBitrate dimensions frameRate) := by
  have pixels : dimensions.width * dimensions.height ≤ 1921 * 1081 :=
    Nat.mul_le_mul canonical.1 canonical.2
  have numerator := frameRate.numerator.toNat_lt
  have denominator := frameRate.denominator.toNat_lt
  have positive : frameRate.denominator.toNat ≠ 0 := by
    intro zero
    exact nonzero (UInt64.toNat_inj.mp zero)
  have samples : dimensions.width * dimensions.height * frameRate.numerator.toNat ≤
      1921 * 1081 * 2 ^ 64 := Nat.mul_le_mul pixels (Nat.le_of_lt numerator)
  unfold minimumVideoBitrateWords minimumVideoBitrate
  rw [mulU128_fits (by omega), bind_ok_eq, mulU128_fits (by omega), bind_ok_eq,
    mulU128_fits (by omega), bind_ok_eq, mulU128_fits (by omega), bind_ok_eq, divCeilU128,
    if_neg (by omega), Nat.mod_eq_of_lt (by omega)]

theorem firstCoveredWords_eq {rungs : List VideoDimensions}
    (canonical : ∀ rung ∈ rungs, Canonical rung) {frameRate : FrameRate}
    (nonzero : frameRate.denominator ≠ 0) (videoBitrate : Nat) :
    firstCoveredWords videoBitrate frameRate rungs =
      .ok (rungs.find? fun rung => decide (minimumVideoBitrate rung frameRate ≤ videoBitrate)) := by
  induction rungs with
  | nil => rfl
  | cons rung rungs ih =>
    have rest := ih fun other member => canonical other (List.mem_cons_of_mem _ member)
    rw [firstCoveredWords, minimumVideoBitrateWords_eq (canonical rung List.mem_cons_self) nonzero,
      bind_ok_eq, rest, List.find?_cons]
    by_cases covered : minimumVideoBitrate rung frameRate ≤ videoBitrate
    · simp [covered, pure, Except.pure]
    · simp [covered]

theorem targetBitsWords_eq (planner : NormalizationPlanner) :
    targetBitsWords planner = some (planner.profile.targetMaxBytes.toNat * 8 * 9800 / 10000) := by
  have bytes := planner.profile.targetMaxBytes.toNat_lt
  unfold targetBitsWords checkedMulU128
  rw [if_pos (by omega)]
  simp only [Option.bind_eq_bind, Option.bind_some, Nat.reduceSub]
  rw [if_pos (by omega)]
  rfl

theorem canonical_rungs (small : planner.profile.maxWidth.toNat ≤ 1920 ∧
    planner.profile.maxHeight.toNat ≤ 1080) :
    ∀ rung ∈ planner.resolutionLadder video, Canonical rung := by
  intro rung member
  cases coded : codedSize video with
  | none =>
    have none_canonical : planner.canonicalDimensions video = none := by
      rw [NormalizationPlanner.canonicalDimensions, coded]
      rfl
    rw [NormalizationPlanner.resolutionLadder, none_canonical] at member
    cases member
  | some size =>
    cases canonical : planner.canonicalDimensions video with
    | none =>
      rw [NormalizationPlanner.resolutionLadder, canonical] at member
      cases member
    | some initial =>
      have within := (canonicalDimensions_some coded canonical).2
      have isRung := resolutionLadder_isRung coded canonical member
      have width := isRung.width
      have height := isRung.height
      unfold Canonical
      omega

/-- The words of the source compute what the numbers do, without a fault. -/
theorem twoPassCandidateWords_eq (small : planner.profile.maxWidth.toNat ≤ 1920 ∧
    planner.profile.maxHeight.toNat ≤ 1080) (video : MediaStream) (probe : MediaProbe) :
    twoPassCandidateWords planner video probe = .ok (planner.twoPassCandidateOf video probe) := by
  have bytes := planner.profile.targetMaxBytes.toNat_lt
  have milli : (targetBitsWords planner).bind (checkedMulU128 · 1000) =
      some (planner.profile.targetMaxBytes.toNat * 8 * 9800 / 10000 * 1000) := by
    rw [targetBitsWords_eq, Option.bind_some, checkedMulU128, if_pos (by omega)]
  unfold twoPassCandidateWords NormalizationPlanner.twoPassCandidateOf
  rw [milli]
  cases duration : probe.durationMs.filter (· > 0) with
  | none => rfl
  | some durationMs =>
    have positive : durationMs.toNat ≠ 0 := by
      have some_time := (Option.filter_eq_some_iff.mp duration).2
      simp only [gt_iff_lt, decide_eq_true_eq, UInt64.lt_iff_toNat_lt] at some_time
      exact Nat.ne_of_gt some_time
    simp only
    rw [divU128, if_neg positive, bind_ok_eq]
    have audio : (if probe.streams.any (·.kind == .audio) then
        planner.profile.audioBitrateKbps.toNat * 1000 else 0) = audioBitrateOf planner probe := rfl
    simp only [Option.bind_eq_bind, Option.bind_some, Nat.reduceSub, audio]
    by_cases enough : audioBitrateOf planner probe ≤
        planner.profile.targetMaxBytes.toNat * 8 * 9800 / 10000 * 1000 / durationMs.toNat
    · rw [checkedSub, if_pos enough]
      simp only
      rw [effectiveFrameRateWords_eq, bind_ok_eq, firstCoveredWords_eq (canonical_rungs small)
        (effectiveFrameRate_denominator video), bind_ok_eq]
      simp only [guard, enough, if_true, Option.pure_def, Option.bind_some]
      cases (planner.resolutionLadder video).find? _ with
      | none => rfl
      | some rung => rfl
    · rw [checkedSub, if_neg enough]
      simp only [guard, enough, if_false]
      rfl

end Faultless

section Budget
variable {planner : NormalizationPlanner} {probe : MediaProbe} {dimensions : VideoDimensions}
  {kbps : UInt64}

/-- The bits a second that are left for the video. -/
def availableBitrate (planner : NormalizationPlanner) (probe : MediaProbe) (durationMs : UInt64) :
    Nat :=
  planner.profile.targetMaxBytes.toNat * 8 * 9800 / 10000 * 1000 / durationMs.toNat -
    audioBitrateOf planner probe

theorem kbpsOf_toNat (videoBitrate : Nat) :
    (kbpsOf videoBitrate).toNat = max (min (videoBitrate / 1000) (2 ^ 64 - 1)) 1 := by
  rw [kbpsOf, UInt64.toNat_ofNat', Nat.mod_eq_of_lt (by omega)]

theorem of_guard {condition : Prop} [Decidable condition] {u : Unit}
    (passed : (guard condition : Option Unit) = some u) : condition := by
  by_contra failed
  simp [guard, failed] at passed

theorem twoPassCandidate_some
    (candidate : planner.twoPassCandidate probe = some (dimensions, kbps)) :
    ∃ video durationMs, firstVideoStream probe = some video ∧
      probe.durationMs = some durationMs ∧
      audioBitrateOf planner probe ≤
        planner.profile.targetMaxBytes.toNat * 8 * 9800 / 10000 * 1000 / durationMs.toNat ∧
      (planner.resolutionLadder video).find? (fun rung =>
        decide (minimumVideoBitrate rung (effectiveFrameRate video planner.profile.maxFrameRate) ≤
          availableBitrate planner probe durationMs)) = some dimensions ∧
      kbps = kbpsOf (availableBitrate planner probe durationMs) := by
  unfold NormalizationPlanner.twoPassCandidate NormalizationPlanner.twoPassCandidateOf at candidate
  simp only [Option.bind_eq_bind, Option.bind_eq_some_iff, Option.pure_def,
    Option.some.injEq] at candidate
  obtain ⟨video, found, durationMs, duration, _, guarded, rung, first, same⟩ := candidate
  cases same
  have enough : audioBitrateOf planner probe ≤
      planner.profile.targetMaxBytes.toNat * 8 * 9800 / 10000 * 1000 / durationMs.toNat :=
    of_guard guarded
  exact ⟨video, durationMs, found, (Option.filter_eq_some_iff.mp duration).1, enough, first, rfl⟩

/-- The bits that the streams take stay within the target, less its headroom. -/
theorem budget_kept {durationMs : UInt64}
    (enough : audioBitrateOf planner probe ≤
      planner.profile.targetMaxBytes.toNat * 8 * 9800 / 10000 * 1000 / durationMs.toNat)
    (kilobit : 1000 ≤ availableBitrate planner probe durationMs) :
    ((kbpsOf (availableBitrate planner probe durationMs)).toNat * 1000 +
        audioBitrateOf planner probe) * durationMs.toNat * 100 ≤
      98 * (planner.profile.targetMaxBytes.toNat * 8) * 1000 := by
  have total : (kbpsOf (availableBitrate planner probe durationMs)).toNat * 1000 +
      audioBitrateOf planner probe ≤
        planner.profile.targetMaxBytes.toNat * 8 * 9800 / 10000 * 1000 / durationMs.toNat := by
    rw [kbpsOf_toNat]
    unfold availableBitrate at kilobit ⊢
    omega
  have spent := Nat.mul_le_mul_right durationMs.toNat total
  have given := Nat.div_mul_le_self
    (planner.profile.targetMaxBytes.toNat * 8 * 9800 / 10000 * 1000) durationMs.toNat
  omega

end Budget

/-- A probe of one video stream of a known duration. -/
def probeOf (video : MediaStream) (durationMs : UInt64) : MediaProbe :=
  ⟨none, some durationMs, 0, none, [video]⟩

end Sooqa.Media
