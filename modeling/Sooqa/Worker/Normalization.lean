import Sooqa.Media.NormalizationPlan
import Sooqa.Worker.MediaKind

/-!
The normalization of a video: the candidates it tries, and which of them it
keeps.
-/
namespace Sooqa.Worker
open Foundation Queue Media Envelope

section Execution

structure FileDigest where
  sha256 : String
  bytes : UInt64
  deriving DecidableEq, Repr

structure NormalizationResult where
  outputPath : String
  probe : MediaProbe
  digest : FileDigest
  deriving DecidableEq

inductive NormalizationExecutionError where
  /-- A command that failed, or an output that could not be read. -/
  | execution (message : String)
  | outputPublish (path message : String)
  | invalidOutputFormat (format : Option String)
  | outputHasNoVideo
  | invalidOutputProfile (message : String)
  | outputExceedsStorageLimit (bytes limit : UInt64)
  deriving DecidableEq

/-- What running the commands comes to. -/
structure FfmpegExecutor where
  run : ExternalCommand → Except NormalizationExecutionError (MediaProbe × FileDigest)
  analyse : ExternalCommand → Except NormalizationExecutionError Unit
  candidatePath : String → Nat → String
  reservePasslogs : String → Except NormalizationExecutionError String
  publishArtifact : String → String → Except String Unit

def isMp4Output (containerFormat : Option String) : Bool :=
  match containerFormat with
  | some value => (value.toList.splitOn ',').any fun format =>
    equalsIgnoringCase (.ofList (trimEnds isWhitespace format)) "mp4"
  | none => false

def validateOutputProbe (probe : MediaProbe) (profile : CanonicalVideoProfile) :
    Except NormalizationExecutionError Unit := do
  require (profile.container = .mp4 ∧ isMp4Output probe.containerFormat = true)
    (.invalidOutputFormat probe.containerFormat)
  let video ← expect (probe.streams.find? (·.kind == .video)) .outputHasNoVideo
  require (video.codec = some VideoCodec.h264.probeName)
    (.invalidOutputProfile "video codec is not H.264")
  require (video.pixelFormat = some PixelFormat.yuv420p.ffmpegName)
    (.invalidOutputProfile "video pixel format is not yuv420p")
  require (dimensionsWithinProfile video profile)
    (.invalidOutputProfile "video dimensions exceed the canonical profile")
  require (video.rotationDegrees.getD 0 = 0 ∧ ¬ requiresFrameRateCap video profile.maxFrameRate)
    (.invalidOutputProfile "video rotation or frame rate exceeds the canonical profile")
  require ((probe.streams.filter (·.kind == .audio)).all
      (·.codec == some AudioCodec.aac.probeName))
    (.invalidOutputProfile "audio codec is not AAC")

def FfmpegExecutor.execute (executor : FfmpegExecutor) (plan : NormalizationPlan) :
    Except NormalizationExecutionError NormalizationResult := do
  let (probe, digest) ← executor.run plan.command
  validateOutputProbe probe plan.profile
  return ⟨plan.output, probe, digest⟩

end Execution

section Candidates

inductive FallbackPolicy where
  | keepFirst | keepSmallest
  deriving DecidableEq, Repr

/-- The best candidate so far and what the others came to. -/
structure VideoCandidateSet where
  fallback : Option NormalizationResult
  largestOversizedCandidate : Option UInt64
  attempts : Nat
  targetMaxBytes : UInt64
  storageLimit : UInt64

namespace VideoCandidateSet

def new (targetMaxBytes storageLimit : UInt64) : VideoCandidateSet :=
  ⟨none, none, 0, targetMaxBytes, storageLimit⟩

def recordAttempt (candidates : VideoCandidateSet) : VideoCandidateSet :=
  { candidates with attempts := candidates.attempts + 1 }

def nextPath (candidates : VideoCandidateSet) (executor : FfmpegExecutor) (output : String) :
    String × VideoCandidateSet :=
  (executor.candidatePath output (candidates.attempts + 1), candidates.recordAttempt)

def selects (candidates : VideoCandidateSet) (result : NormalizationResult) :
    FallbackPolicy → Bool
  | .keepFirst => decide (result.digest.bytes ≤ candidates.targetMaxBytes)
  | .keepSmallest => match candidates.fallback with
    | some previous => decide (result.digest.bytes < previous.digest.bytes)
    | none => true

/-- A result that is selected, or the set after one that was not. -/
def consider (candidates : VideoCandidateSet) (result : NormalizationResult)
    (policy : FallbackPolicy) : Option NormalizationResult × VideoCandidateSet :=
  let fitsStorage := decide (result.digest.bytes ≤ candidates.storageLimit)
  if fitsStorage && candidates.selects result policy then
    (some result, { candidates with fallback := none })
  else
    let largest := if result.digest.bytes > candidates.storageLimit then
        some (max (candidates.largestOversizedCandidate.getD 0) result.digest.bytes)
      else candidates.largestOversizedCandidate
    let kept := fitsStorage && candidates.fallback.isNone && policy == .keepFirst
    (none, { candidates with
      largestOversizedCandidate := largest
      fallback := if kept then some result else candidates.fallback })

def takeFallback (candidates : VideoCandidateSet) :
    Except NormalizationExecutionError NormalizationResult :=
  expect candidates.fallback
    (.outputExceedsStorageLimit
      (candidates.largestOversizedCandidate.getD candidates.storageLimit) candidates.storageLimit)

end VideoCandidateSet

end Candidates

section Normalization

variable (planner : NormalizationPlanner) (executor : FfmpegExecutor)

def validateAdaptedDimensions (probe : MediaProbe) (requested : VideoDimensions)
    (source : MediaStream) : Except NormalizationExecutionError Unit := do
  let video ← expect (probe.streams.find? (·.kind == .video)) .outputHasNoVideo
  let (width, height) ← expect (codedSize video)
    (.invalidOutputProfile "adapted video dimensions are missing")
  require (¬ (width = 0 ∨ height = 0 ∨ width % 2 ≠ 0 ∨ height % 2 ≠ 0 ∨
      width > requested.width ∨ height > requested.height ∨
      width > planner.profile.maxWidth.toNat ∨ height > planner.profile.maxHeight.toNat ∨
      (planner.effectiveMinimumShortEdge source).any fun minimum => min width height < minimum))
    (.invalidOutputProfile "adapted video dimensions exceed the bounded ladder")

def publishVideoCandidate (selected : NormalizationResult) (output : String) :
    Except NormalizationExecutionError NormalizationResult :=
  match executor.publishArtifact selected.outputPath output with
  | .error message => .error (.outputPublish output message)
  | .ok () => .ok { selected with outputPath := output }

def mapCandidatePlanError {α : Type} :
    Except NormalizationError α → Except NormalizationExecutionError α
  | .ok plan => .ok plan
  | .error (.invalidCandidateDimensions _) =>
    .error (.invalidOutputProfile "candidate dimensions are outside the canonical profile")
  | .error _ => .error (.invalidOutputProfile "candidate normalization plan is invalid")

def executeQualityCandidate (plan : NormalizationPlan) (dimensions : VideoDimensions)
    (source : MediaStream) : Except NormalizationExecutionError NormalizationResult := do
  let result ← executor.execute plan
  validateAdaptedDimensions planner result.probe dimensions source
  return result

def executeTwoPassCandidate (plan : TwoPassNormalizationPlan) (dimensions : VideoDimensions)
    (source : MediaStream) : Except NormalizationExecutionError NormalizationResult := do
  executor.analyse plan.firstPass
  let result ← executor.execute plan.secondPass
  validateAdaptedDimensions planner result.probe dimensions source
  return result

/-- The sizes below the first, each tried once. -/
def executeLadder (input output : String) (probe : MediaProbe) (video : MediaStream) :
    VideoCandidateSet → List VideoDimensions →
      Except NormalizationExecutionError NormalizationResult
  | candidates, [] => do
    let selected ← candidates.takeFallback
    publishVideoCandidate executor selected output
  | candidates, dimensions :: rest => do
    let (path, candidates) := candidates.nextPath executor output
    let plan ← mapCandidatePlanError (planner.planQualityCandidate input path probe dimensions)
    let result ← executeQualityCandidate planner executor plan dimensions video
    match candidates.consider result .keepFirst with
    | (some selected, _) => publishVideoCandidate executor selected output
    | (none, candidates) => executeLadder input output probe video candidates rest

/-- What follows the one encode of constant quality. -/
def executeSmaller (input output : String) (probe : MediaProbe) (video : MediaStream)
    (candidates : VideoCandidateSet) : Except NormalizationExecutionError NormalizationResult := do
  match planner.twoPassCandidate probe with
  | some (dimensions, videoBitrateKbps) =>
    let (path, candidates) := candidates.nextPath executor output
    let passlogPrefix ← executor.reservePasslogs output
    let plan ← mapCandidatePlanError
      (planner.planTwoPass input path probe dimensions videoBitrateKbps passlogPrefix)
    let candidates := candidates.recordAttempt
    let result ← executeTwoPassCandidate planner executor plan dimensions video
    match candidates.consider result .keepSmallest with
    | (some selected, _) => publishVideoCandidate executor selected output
    | (none, candidates) => do
      let selected ← candidates.takeFallback
      publishVideoCandidate executor selected output
  | none =>
    executeLadder planner executor input output probe video candidates
      ((planner.resolutionLadder video).drop 1)

/-- The adaptation of a video stream that was found. -/
def executeAdaptation (input output : String) (probe : MediaProbe) (video : MediaStream)
    (candidates : VideoCandidateSet) (initialPlan : NormalizationPlan) :
    Except NormalizationExecutionError NormalizationResult := do
  let qualityDimensions ← expect (planner.resolutionLadder video).head?
    (.invalidOutputProfile "video dimensions are missing or invalid")
  let (path, candidates) := candidates.nextPath executor output
  let qualityPlan ← (if initialPlan.mode = .transcode then .ok (initialPlan.withOutput path)
    else mapCandidatePlanError
      (planner.planQualityCandidate input path probe qualityDimensions))
  let quality ← executeQualityCandidate planner executor qualityPlan qualityDimensions video
  match candidates.consider quality .keepFirst with
  | (some selected, _) => publishVideoCandidate executor selected output
  | (none, candidates) => executeSmaller planner executor input output probe video candidates

/-- The stream that the adaptation is worked out from. -/
def executionStream (probe : MediaProbe) : Option MediaStream :=
  probe.streams.find? (·.kind == .video)

/-- A remux that is tried before any adaptation. -/
def executeRemux (output : String) (candidates : VideoCandidateSet)
    (initialPlan : NormalizationPlan) :
    Except NormalizationExecutionError (Option NormalizationResult × VideoCandidateSet) :=
  if initialPlan.mode = .remux then do
    let (path, candidates) := candidates.nextPath executor output
    let result ← executor.execute (initialPlan.withOutput path)
    return candidates.consider result .keepFirst
  else .ok (none, candidates)

def executeVideoNormalization (input output : String) (probe : MediaProbe)
    (maxNormalizedStorageBytes : UInt64) (initialPlan : NormalizationPlan) :
    Except NormalizationExecutionError NormalizationResult := do
  let candidates := VideoCandidateSet.new planner.profile.targetMaxBytes maxNormalizedStorageBytes
  let (selected, candidates) ← executeRemux executor output candidates initialPlan
  match selected with
  | some selected => publishVideoCandidate executor selected output
  | none => do
    let video ← expect (executionStream probe) .outputHasNoVideo
    executeAdaptation planner executor input output probe video candidates initialPlan

end Normalization

end Sooqa.Worker
