import Sooqa.Foundation.CheckedArithmetic
import Sooqa.Media.SequenceAlignment

/-!
The alignment with every operation of the words of the code checked: each sum,
difference, product and cast, each saturating operation, each bound in front of
a cast and each index. The checked functions follow the code step by step.
-/
namespace Sooqa.Media
open Foundation Checked

section Scores

def checkedPairDistanceBps (left right : VideoSequenceSample) : Checked Nat := do
  let phash ← mul 32 (countOnes (left.phash ^^^ right.phash)) 10000
  let dhash ← mul 32 (countOnes (left.dhash ^^^ right.dhash)) 10000
  let luma ← mul 32 (absDiff left.meanLuma.toNat right.meanLuma.toNat) 10000
  let chromaU ← signed 16 (left.meanChromaU.toInt - right.meanChromaU.toInt)
  let chromaU ← mul 32 chromaU.natAbs 10000
  let chromaV ← signed 16 (left.meanChromaV.toInt - right.meanChromaV.toInt)
  let chromaV ← mul 32 chromaV.natAbs 10000
  let shapes ← Checked.saturatingMul 32 (phash / 64) 4
  let gradients ← Checked.saturatingMul 32 (dhash / 64) 4
  let hashes ← Checked.saturatingAdd 32 shapes gradients
  let light ← add 32 (luma / 255) (chromaU / 255)
  let colour ← add 32 light (chromaV / 255)
  let colour ← mul 32 (colour / 3) 2
  let total ← Checked.saturatingAdd 32 hashes colour
  let distance ← capped 10000 (total / 10)
  cast 16 distance

def checkedMatchWeightBps (information : Nat) : Checked Nat := do
  if information < videoSequenceInfoThresholdBps then return 0
  let above ← Checked.saturatingSub information videoSequenceInfoThresholdBps
  let product ← Checked.saturatingMul 32 above matchInformationWeightBps
  add 32 matchBaseWeightBps (product / matchInformationSpanBps)

def checkedPairScore (left right : VideoSequenceSample) : Checked Int := do
  let distance ← checkedPairDistanceBps left right
  let weight ← checkedMatchWeightBps (min left.informationBps.toNat right.informationBps.toNat)
  let cap ← cast 16 maxDistanceBps
  let closeness ← sub cap distance
  let product ← Checked.saturatingMul 32 closeness weight
  let score ← castSigned 32 (product / 10000)
  signed 32 (score - 4500)

end Scores

section Tables

def checkedFillCell (incoming candidate : List VideoSequenceSample) (gapPenalty : Int)
    (columns : Nat) (tables : Tables) (i j : Nat) : Checked Tables := do
  let row ← mul 64 i columns
  let index ← add 64 row j
  let above ← sub i 1
  let aboveRow ← mul 64 above columns
  let upIndex ← add 64 aboveRow j
  let diagonalIndex ← sub upIndex 1
  let leftIndex ← sub index 1
  let diagonalScore ← cell tables.scores diagonalIndex
  let left ← item incoming above
  let before ← sub j 1
  let right ← item candidate before
  let score ← checkedPairScore left right
  let diagonal ← signed 32 (diagonalScore + score)
  let upScore ← cell tables.scores upIndex
  let up ← signed 32 (upScore - gapPenalty)
  let leftScore ← cell tables.scores leftIndex
  let beside ← signed 32 (leftScore - gapPenalty)
  let (score, direction) := chooseCell diagonal up beside
  let scores ← setCell tables.scores index score
  let directions ← setCell tables.directions index direction
  return {
    scores, directions
    best := if score > tables.best.2.2 then (i, j, score) else tables.best }

def checkedFillRow (incoming candidate : List VideoSequenceSample) (gapPenalty : Int)
    (columns i : Nat) (tables : Tables) : Nat → Checked Tables
  | 0 => return tables
  | width + 1 => do
    let tables ← checkedFillRow incoming candidate gapPenalty columns i tables width
    checkedFillCell incoming candidate gapPenalty columns tables i (width + 1)

def checkedFillRows (incoming candidate : List VideoSequenceSample) (gapPenalty : Int)
    (columns cells : Nat) : Nat → Checked Tables
  | 0 => return emptyTables cells
  | i + 1 => do
    let tables ← checkedFillRows incoming candidate gapPenalty columns cells i
    checkedFillRow incoming candidate gapPenalty columns (i + 1) tables candidate.length

def checkedBacktrackLoop (tables : Tables) (columns : Nat)
    (incoming candidate : List VideoSequenceSample) :
    Nat → Nat → Nat → List PathStep → Checked (List PathStep)
  | 0, _, _, path => return path
  | fuel + 1, i, j, path => do
    if 0 < i ∧ 0 < j then
      let row ← mul 64 i columns
      let index ← add 64 row j
      let score ← cell tables.scores index
      if score = 0 then return path
      let direction ← cell tables.directions index
      match direction with
      | 1 =>
        let above ← sub i 1
        let before ← sub j 1
        let left ← item incoming above
        let right ← item candidate before
        let distance ← checkedPairDistanceBps left right
        checkedBacktrackLoop tables columns incoming candidate fuel above before
          (.matched above before distance :: path)
      | 2 =>
        let above ← sub i 1
        checkedBacktrackLoop tables columns incoming candidate fuel above j (.gap :: path)
      | 3 =>
        let before ← sub j 1
        checkedBacktrackLoop tables columns incoming candidate fuel i before (.gap :: path)
      | _ => return path
    else return path

end Tables

section Evidence

/-- The filter of the informative matches, which looks its samples up. -/
def checkedInformative (incoming candidate : List VideoSequenceSample) :
    List Match → Checked (List Match)
  | [] => return []
  | found :: rest => do
    let left ← item incoming found.incomingIndex
    let keep ← show Checked Bool from
      if videoSequenceInfoThresholdBps ≤ left.informationBps.toNat then do
        let right ← item candidate found.candidateIndex
        return decide (videoSequenceInfoThresholdBps ≤ right.informationBps.toNat) &&
          decide (found.distanceBps ≤ 8000)
      else return false
    let kept ← checkedInformative incoming candidate rest
    return if keep then found :: kept else kept

def checkedBasisPoints (numerator denominator : Nat) : Checked Nat := do
  if denominator = 0 then return 0
  let product ← mul 64 (min numerator denominator) 10000
  let points ← capped 10000 (product / denominator)
  cast 16 points

def checkedPercentile (values : List Nat) (percent : Nat) : Checked (Option Nat) := do
  if values.isEmpty then return none
  let last ← sub values.length 1
  let product ← mul 64 last percent
  return (values.insertionSort (· ≤ ·))[divCeil product 100]?

def checkedConsecutive (first second : Match) : Checked Bool := do
  let incomingNext ← add 64 first.incomingIndex 1
  if second.incomingIndex ≠ incomingNext then return false
  let candidateNext ← add 64 first.candidateIndex 1
  return second.candidateIndex == candidateNext &&
    decide (first.distanceBps ≤ informativeDistanceLimitBps) &&
    decide (second.distanceBps ≤ informativeDistanceLimitBps)

def checkedLongestWindows : List Match → Nat → Nat → Checked Nat
  | first :: second :: rest, current, longest => do
    let connected ← checkedConsecutive first second
    let current ← show Checked Nat from if connected then add 64 current 1 else return 0
    checkedLongestWindows (second :: rest) current (max longest current)
  | _, _, longest => return longest

/-- `count.min(u16::MAX as usize) as u16`. -/
def checkedU16 (count : Nat) : Checked Nat := do
  let bounded ← capped (2 ^ 16 - 1) count
  cast 16 bounded

def checkedLongestRun (found : List Match) : Checked Nat := do
  let longest ← checkedLongestWindows found 0 0
  let longest ← show Checked Nat from if found.isEmpty then return longest else add 64 longest 1
  checkedU16 longest

/-- The step at this index is a gap that follows no gap. -/
def checkedOpens (path : List PathStep) (index : Nat) : Checked Bool := do
  let step ← item path index
  if step ≠ .gap then return false
  if index = 0 then return true
  let before ← sub index 1
  let previous ← item path before
  return decide (previous ≠ .gap)

/-- The gaps that open among the first steps. -/
def checkedGapsOpened (path : List PathStep) : Nat → Checked Nat
  | 0 => return 0
  | index + 1 => do
    let opened ← checkedGapsOpened path index
    let opens ← checkedOpens path index
    if opens then add 64 opened 1 else return opened

def checkedAlignmentScoreBps (alignmentScore : Int) (informativeCount : Nat)
    (medianDistanceBps : Option Nat) (coverageBps : Nat) : Checked Nat := do
  if informativeCount = 0 ∨ alignmentScore ≤ 0 then return 0
  let quality ← Checked.saturatingSub 10000 (medianDistanceBps.getD 10000)
  let score ← toUnsigned 32 alignmentScore
  let score ← mul 32 (min score 10000) 4
  let quality ← mul 32 quality 4
  let total ← Checked.saturatingAdd 32 (score / 10) (quality / 10)
  let coverage ← mul 32 coverageBps 2
  let total ← Checked.saturatingAdd 32 total (coverage / 10)
  let total ← capped 10000 total
  cast 16 total

def checkedTimestampMs (fingerprint : VideoSequenceFingerprint) (index : Nat) :
    Checked (Option Nat) := do
  if fingerprint.samples.length ≤ index then return none
  let timestamp ← mul 64 fingerprint.intervalMs.toNat index
  return some timestamp

/-- A timestamp in a signed word, or the greatest one. -/
def checkedSignedMs (value : Nat) : Checked Int := do
  let bounded ← capped (2 ^ 63 - 1) value
  castSigned 64 bounded

def checkedAlignedOffset (incoming candidate : VideoSequenceFingerprint) :
    Option Match → Checked Int
  | some first => do
    let candidateTime ← checkedTimestampMs candidate first.candidateIndex
    let candidateMs ← checkedSignedMs (candidateTime.getD 0)
    let incomingTime ← checkedTimestampMs incoming first.incomingIndex
    let incomingMs ← checkedSignedMs (incomingTime.getD 0)
    signed 64 (candidateMs - incomingMs)
  | none => return 0

/-- The samples behind the last match. -/
def checkedSuffix (samples : Nat) (last : Option Nat) : Checked Nat :=
  match last with
  | some index => do
    let next ← add 64 index 1
    let suffix ← Checked.saturatingSub samples next
    checkedU16 suffix
  | none => checkedU16 samples

def checkedEvidenceFromPath (incoming candidate : VideoSequenceFingerprint) (path : List PathStep)
    (alignmentScore : Int) : Checked SequenceEvidence := do
  let found := matchesOf path
  let informative ← checkedInformative incoming.samples candidate.samples found
  let distances := informative.map (·.distanceBps)
  let medianDistance ← checkedPercentile distances 50
  let highPercentileDistance ← checkedPercentile distances 95
  let alignedOffsetMs ← checkedAlignedOffset incoming candidate found.head?
  let incomingCoverageBps ← checkedBasisPoints found.length incoming.samples.length
  let candidateCoverageBps ← checkedBasisPoints found.length candidate.samples.length
  let longestTemporallyConsistentRun ← checkedLongestRun found
  let gaps ← checkedGapsOpened path path.length
  let gapCount ← cast 16 gaps
  let scoreBps ← checkedAlignmentScoreBps alignmentScore informative.length medianDistance
    (min incomingCoverageBps candidateCoverageBps)
  let informativeMatchedSamples ← checkedU16 informative.length
  let unmatchedIncomingPrefix ←
    checkedU16 (found.head?.elim incoming.samples.length (·.incomingIndex))
  let unmatchedIncomingSuffix ←
    checkedSuffix incoming.samples.length (found.getLast?.map (·.incomingIndex))
  let unmatchedCandidatePrefix ←
    checkedU16 (found.head?.elim candidate.samples.length (·.candidateIndex))
  let unmatchedCandidateSuffix ←
    checkedSuffix candidate.samples.length (found.getLast?.map (·.candidateIndex))
  return {
    algorithmVersion := incoming.version
    alignedOffsetMs, informativeMatchedSamples, incomingCoverageBps, candidateCoverageBps
    medianDistanceBps := medianDistance.getD 10000
    highPercentileDistanceBps := highPercentileDistance.getD 10000
    longestTemporallyConsistentRun, unmatchedIncomingPrefix, unmatchedIncomingSuffix
    unmatchedCandidatePrefix, unmatchedCandidateSuffix, gapCount, scoreBps }

end Evidence

/-- The outcome is a refusal of the code or an alignment, if no fault stops it. -/
def checkedAlignVideoSequences (incoming candidate : VideoSequenceFingerprint)
    (config : SequenceAlignmentConfig) :
    Checked (Except SequenceAlignmentError SequenceAlignment) := do
  if let .error error := config.validate then return .error error
  if incoming.version ≠ candidate.version then return .error .fingerprintVersionMismatch
  if incoming.samples.isEmpty || candidate.samples.isEmpty then return .error .emptySequence
  let rows ← add 64 incoming.samples.length 1
  let columns ← add 64 candidate.samples.length 1
  let some cells := checkedMul rows columns | return .error .tooManyCells
  if cells > config.maxCells.toNat then return .error .tooManyCells
  let tables ← checkedFillRows incoming.samples candidate.samples config.gapPenaltyBps.toNat columns
    cells incoming.samples.length
  let path ← checkedBacktrackLoop tables columns incoming.samples candidate.samples
    (tables.best.1 + tables.best.2.1) tables.best.1 tables.best.2.1 []
  let evidence ← checkedEvidenceFromPath incoming candidate path tables.best.2.2
  return .ok ⟨classify evidence config, evidence⟩

end Sooqa.Media
