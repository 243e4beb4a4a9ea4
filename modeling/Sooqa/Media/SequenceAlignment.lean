import Mathlib.Data.List.Sort
import Sooqa.Foundation.LocalAlignment
import Sooqa.Media.VideoSequence

/-!
The comparison of two video fingerprints. A table of the best local alignments
is filled row by row, the way back from its best cell gives the matched
samples, and the evidence drawn from them is held against thresholds. Scores
are basis points; no value of the tables leaves the 32-bit range.
-/
namespace Sooqa.Media
open Foundation

section Model

def maxDistanceBps : Nat := 10000
def informativeDistanceLimitBps : Nat := 3500
def matchBaseWeightBps : Nat := 4600
def matchInformationWeightBps : Nat := 5400
def matchInformationSpanBps : Nat := 9000
def videoSequenceInfoThresholdBps : Nat := 1000

structure SequenceAlignmentConfig where
  minIncomingCoverageBps : UInt16
  minCandidateCoverageBps : UInt16
  minInformativeMatches : UInt16
  maxMedianDistanceBps : UInt16
  maxHighPercentileDistanceBps : UInt16
  minLongestRun : UInt16
  maxGapCount : UInt16
  minScoreBps : UInt16
  gapPenaltyBps : UInt16
  maxCells : UInt64
  deriving DecidableEq

inductive SequenceAlignmentError where
  | invalidConfig
  | fingerprintVersionMismatch
  | emptySequence
  | tooManyCells
  deriving DecidableEq, Repr

namespace SequenceAlignmentConfig

def default : SequenceAlignmentConfig where
  minIncomingCoverageBps := 7000
  minCandidateCoverageBps := 7000
  minInformativeMatches := 8
  maxMedianDistanceBps := 2200
  maxHighPercentileDistanceBps := 3500
  minLongestRun := 6
  maxGapCount := 8
  minScoreBps := 6500
  gapPenaltyBps := 1200
  maxCells := 4200000

def validate (config : SequenceAlignmentConfig) : Except SequenceAlignmentError Unit :=
  require (¬ (config.minIncomingCoverageBps > 10000 ∨ config.minCandidateCoverageBps > 10000 ∨
    config.minInformativeMatches = 0 ∨ config.maxMedianDistanceBps > 10000 ∨
    config.maxHighPercentileDistanceBps > 10000 ∨ config.minLongestRun = 0 ∨
    config.minScoreBps > 10000 ∨ config.gapPenaltyBps = 0 ∨ config.maxCells = 0)) .invalidConfig

end SequenceAlignmentConfig

inductive SequenceClassification where
  | strongDuplicate | partialMatch | notDuplicate
  deriving DecidableEq, Repr

structure SequenceEvidence where
  algorithmVersion : FingerprintVersion
  alignedOffsetMs : Int
  informativeMatchedSamples : Nat
  incomingCoverageBps : Nat
  candidateCoverageBps : Nat
  medianDistanceBps : Nat
  highPercentileDistanceBps : Nat
  longestTemporallyConsistentRun : Nat
  unmatchedIncomingPrefix : Nat
  unmatchedIncomingSuffix : Nat
  unmatchedCandidatePrefix : Nat
  unmatchedCandidateSuffix : Nat
  gapCount : Nat
  scoreBps : Nat
  deriving DecidableEq, Repr

structure SequenceAlignment where
  classification : SequenceClassification
  evidence : SequenceEvidence
  deriving DecidableEq, Repr

/-- `usize as u16` after a bound at `u16::MAX`. -/
def boundedU16 (value : Nat) : Nat := min value (2 ^ 16 - 1)

def saturatingMul (a b : Nat) : Nat := min (a * b) (2 ^ 32 - 1)

def saturatingAdd (a b : Nat) : Nat := min (a + b) (2 ^ 32 - 1)

def countOnes (word : UInt64) : Nat := ((List.range 64).filter (word.toNat.testBit ·)).length

def absDiff (a b : Nat) : Nat := max a b - min a b

def pairDistanceBps (left right : VideoSequenceSample) : Nat :=
  let phash := countOnes (left.phash ^^^ right.phash) * 10000 / 64
  let dhash := countOnes (left.dhash ^^^ right.dhash) * 10000 / 64
  let luma := absDiff left.meanLuma.toNat right.meanLuma.toNat * 10000 / 255
  let chromaU := (left.meanChromaU.toInt - right.meanChromaU.toInt).natAbs * 10000 / 255
  let chromaV := (left.meanChromaV.toInt - right.meanChromaV.toInt).natAbs * 10000 / 255
  min (saturatingAdd (saturatingAdd (saturatingMul phash 4) (saturatingMul dhash 4))
    ((luma + chromaU + chromaV) / 3 * 2) / 10) 10000

def matchWeightBps (information : Nat) : Nat :=
  if information < videoSequenceInfoThresholdBps then 0
  else
    matchBaseWeightBps +
      saturatingMul (information - videoSequenceInfoThresholdBps) matchInformationWeightBps /
        matchInformationSpanBps

def pairScore (left right : VideoSequenceSample) : Int :=
  let distance := pairDistanceBps left right
  let information := min left.informationBps.toNat right.informationBps.toNat
  (saturatingMul (maxDistanceBps - distance) (matchWeightBps information) / 10000 : Nat) - 4500

/-- The score of the samples at these places. -/
def scoreAt (incoming candidate : List VideoSequenceSample) (i j : Nat) : Int :=
  match incoming[i]?, candidate[j]? with
  | some left, some right => pairScore left right
  | _, _ => 0

structure Tables where
  scores : Array Int
  directions : Array Nat
  best : Nat × Nat × Int

def emptyTables (cells : Nat) : Tables := ⟨.replicate cells 0, .replicate cells 0, (0, 0, 0)⟩

/-- The score of a cell and where it came from: from the diagonal (1), from
    above (2), from the left (3), or from nowhere (0). -/
def chooseCell (diagonal up left : Int) : Int × Nat :=
  if diagonal > 0 ∧ diagonal ≥ up ∧ diagonal ≥ left then (diagonal, 1)
  else if up > 0 ∧ up ≥ left then (up, 2)
  else if left > 0 then (left, 3)
  else (0, 0)

def fillCell (incoming candidate : List VideoSequenceSample) (gapPenalty : Int) (columns : Nat)
    (tables : Tables) (i j : Nat) : Tables :=
  let diagonal := tables.scores.getD ((i - 1) * columns + j - 1) 0 +
    scoreAt incoming candidate (i - 1) (j - 1)
  let up := tables.scores.getD ((i - 1) * columns + j) 0 - gapPenalty
  let left := tables.scores.getD (i * columns + j - 1) 0 - gapPenalty
  let (score, direction) := chooseCell diagonal up left
  { scores := tables.scores.setIfInBounds (i * columns + j) score
    directions := tables.directions.setIfInBounds (i * columns + j) direction
    best := if score > tables.best.2.2 then (i, j, score) else tables.best }

/-- The first `width` cells of a row. -/
def fillRow (incoming candidate : List VideoSequenceSample) (gapPenalty : Int) (columns i : Nat)
    (tables : Tables) : Nat → Tables
  | 0 => tables
  | width + 1 =>
    fillCell incoming candidate gapPenalty columns
      (fillRow incoming candidate gapPenalty columns i tables width) i (width + 1)

def fillRows (incoming candidate : List VideoSequenceSample) (gapPenalty : Int) : Nat → Tables
  | 0 => emptyTables ((incoming.length + 1) * (candidate.length + 1))
  | i + 1 =>
    fillRow incoming candidate gapPenalty (candidate.length + 1) (i + 1)
      (fillRows incoming candidate gapPenalty i) candidate.length

def fillTables (incoming candidate : List VideoSequenceSample) (gapPenalty : Int) : Tables :=
  fillRows incoming candidate gapPenalty incoming.length

inductive PathStep where
  | matched (incomingIndex candidateIndex distanceBps : Nat)
  | gap
  deriving DecidableEq, Repr

def distanceAt (incoming candidate : List VideoSequenceSample) (i j : Nat) : Nat :=
  match incoming[i]?, candidate[j]? with
  | some left, some right => pairDistanceBps left right
  | _, _ => 0

/-- The way back from a cell, in front of the path that led to it. A step goes
    back in one of the two sequences at least, which bounds the loop. -/
def backtrackLoop (tables : Tables) (columns : Nat)
    (incoming candidate : List VideoSequenceSample) :
    Nat → Nat → Nat → List PathStep → List PathStep
  | 0, _, _, path => path
  | fuel + 1, i, j, path =>
    if 0 < i ∧ 0 < j then
      if tables.scores.getD (i * columns + j) 0 = 0 then path
      else
        match tables.directions.getD (i * columns + j) 0 with
        | 1 =>
          backtrackLoop tables columns incoming candidate fuel (i - 1) (j - 1)
            (.matched (i - 1) (j - 1) (distanceAt incoming candidate (i - 1) (j - 1)) :: path)
        | 2 => backtrackLoop tables columns incoming candidate fuel (i - 1) j (.gap :: path)
        | 3 => backtrackLoop tables columns incoming candidate fuel i (j - 1) (.gap :: path)
        | _ => path
    else path

def backtrack (tables : Tables) (incoming candidate : List VideoSequenceSample) : List PathStep :=
  backtrackLoop tables (candidate.length + 1) incoming candidate
    (tables.best.1 + tables.best.2.1) tables.best.1 tables.best.2.1 []

structure Match where
  incomingIndex : Nat
  candidateIndex : Nat
  distanceBps : Nat
  deriving DecidableEq, Repr

def matchesOf (path : List PathStep) : List Match :=
  path.filterMap fun
    | .matched i j distance => some ⟨i, j, distance⟩
    | .gap => none

def informationAt (samples : List VideoSequenceSample) (i : Nat) : Nat :=
  match samples[i]? with
  | some sample => sample.informationBps.toNat
  | none => 0

def isInformative (incoming candidate : List VideoSequenceSample) (found : Match) : Bool :=
  decide (videoSequenceInfoThresholdBps ≤ informationAt incoming found.incomingIndex) &&
    decide (videoSequenceInfoThresholdBps ≤ informationAt candidate found.candidateIndex) &&
    decide (found.distanceBps ≤ 8000)

def basisPoints (numerator denominator : Nat) : Nat :=
  if denominator = 0 then 0 else min (min numerator denominator * 10000 / denominator) 10000

def percentile (values : List Nat) (percent : Nat) : Option Nat :=
  if values.isEmpty then none
  else (values.insertionSort (· ≤ ·))[divCeil ((values.length - 1) * percent) 100]?

def consecutive (first second : Match) : Bool :=
  second.incomingIndex == first.incomingIndex + 1 &&
    second.candidateIndex == first.candidateIndex + 1 &&
    decide (first.distanceBps ≤ informativeDistanceLimitBps) &&
    decide (second.distanceBps ≤ informativeDistanceLimitBps)

/-- The windows of two matches; `current` counts the ones in a row. -/
def longestWindows : List Match → Nat → Nat → Nat
  | first :: second :: rest, current, longest =>
    let current := if consecutive first second then current + 1 else 0
    longestWindows (second :: rest) current (max longest current)
  | _, _, longest => longest

def longestRun (found : List Match) : Nat :=
  let longest := longestWindows found 0 0
  boundedU16 (if found.isEmpty then longest else longest + 1)

/-- The gaps that follow no gap. -/
def gapsOpened : Bool → List PathStep → Nat
  | _, [] => 0
  | afterGap, .gap :: path => (if afterGap then 0 else 1) + gapsOpened true path
  | _, .matched _ _ _ :: path => gapsOpened false path

def alignmentScoreBps (alignmentScore : Int) (informativeCount : Nat)
    (medianDistanceBps : Option Nat) (coverageBps : Nat) : Nat :=
  if informativeCount = 0 ∨ alignmentScore ≤ 0 then 0
  else
    let quality := 10000 - medianDistanceBps.getD 10000
    min (saturatingAdd (saturatingAdd (min alignmentScore.toNat 10000 * 4 / 10)
      (quality * 4 / 10)) (coverageBps * 2 / 10)) 10000

/-- A time in milliseconds as a signed word. -/
def signedMs (value : Nat) : Int := if value < 2 ^ 63 then value else 2 ^ 63 - 1

def sampleTimestampMs (fingerprint : VideoSequenceFingerprint) (index : Nat) : Option Nat :=
  if fingerprint.samples.length ≤ index then none
  else some (fingerprint.intervalMs.toNat * index)

def alignedOffset (incoming candidate : VideoSequenceFingerprint) : Option Match → Int
  | some first =>
    signedMs ((sampleTimestampMs candidate first.candidateIndex).getD 0) -
      signedMs ((sampleTimestampMs incoming first.incomingIndex).getD 0)
  | none => 0

def evidenceFromPath (incoming candidate : VideoSequenceFingerprint) (path : List PathStep)
    (alignmentScore : Int) : SequenceEvidence :=
  let found := matchesOf path
  let informative := found.filter (isInformative incoming.samples candidate.samples)
  let distances := informative.map (·.distanceBps)
  let medianDistance := percentile distances 50
  let highPercentileDistance := percentile distances 95
  let incomingCoverage := basisPoints found.length incoming.samples.length
  let candidateCoverage := basisPoints found.length candidate.samples.length
  { algorithmVersion := incoming.version
    alignedOffsetMs := alignedOffset incoming candidate found.head?
    informativeMatchedSamples := boundedU16 informative.length
    incomingCoverageBps := incomingCoverage
    candidateCoverageBps := candidateCoverage
    medianDistanceBps := medianDistance.getD 10000
    highPercentileDistanceBps := highPercentileDistance.getD 10000
    longestTemporallyConsistentRun := longestRun found
    unmatchedIncomingPrefix :=
      boundedU16 (found.head?.elim incoming.samples.length (·.incomingIndex))
    unmatchedIncomingSuffix :=
      boundedU16 (found.getLast?.elim incoming.samples.length
        (fun last => incoming.samples.length - (last.incomingIndex + 1)))
    unmatchedCandidatePrefix :=
      boundedU16 (found.head?.elim candidate.samples.length (·.candidateIndex))
    unmatchedCandidateSuffix :=
      boundedU16 (found.getLast?.elim candidate.samples.length
        (fun last => candidate.samples.length - (last.candidateIndex + 1)))
    gapCount := gapsOpened false path % 2 ^ 16
    scoreBps := alignmentScoreBps alignmentScore informative.length medianDistance
      (min incomingCoverage candidateCoverage) }

def isStrong (evidence : SequenceEvidence) (config : SequenceAlignmentConfig) : Bool :=
  decide (config.minInformativeMatches.toNat ≤ evidence.informativeMatchedSamples) &&
    decide (config.minIncomingCoverageBps.toNat ≤ evidence.incomingCoverageBps) &&
    decide (config.minCandidateCoverageBps.toNat ≤ evidence.candidateCoverageBps) &&
    decide (evidence.medianDistanceBps ≤ config.maxMedianDistanceBps.toNat) &&
    decide (evidence.highPercentileDistanceBps ≤ config.maxHighPercentileDistanceBps.toNat) &&
    decide (config.minLongestRun.toNat ≤ evidence.longestTemporallyConsistentRun) &&
    decide (evidence.gapCount ≤ config.maxGapCount.toNat) &&
    decide (config.minScoreBps.toNat ≤ evidence.scoreBps)

def classify (evidence : SequenceEvidence) (config : SequenceAlignmentConfig) :
    SequenceClassification :=
  if isStrong evidence config then .strongDuplicate
  else if 0 < evidence.informativeMatchedSamples then .partialMatch
  else .notDuplicate

def alignVideoSequences (incoming candidate : VideoSequenceFingerprint)
    (config : SequenceAlignmentConfig) : Except SequenceAlignmentError SequenceAlignment := do
  config.validate
  require (incoming.version = candidate.version) .fingerprintVersionMismatch
  require (¬ (incoming.samples.isEmpty = true ∨ candidate.samples.isEmpty = true)) .emptySequence
  let cells ← expect (checkedMul (incoming.samples.length + 1) (candidate.samples.length + 1))
    .tooManyCells
  require (cells ≤ config.maxCells.toNat) .tooManyCells
  let tables := fillTables incoming.samples candidate.samples config.gapPenaltyBps.toNat
  let path := backtrack tables incoming.samples candidate.samples
  let evidence := evidenceFromPath incoming candidate path tables.best.2.2
  return ⟨classify evidence config, evidence⟩

end Model

end Sooqa.Media
