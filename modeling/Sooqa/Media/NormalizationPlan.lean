import Sooqa.Media.Normalize
import Sooqa.Media.VideoSequence

/-!
The plans a normalization is carried out by: when a video is copied as it is,
and the commands that adapt it to a size.
-/
namespace Sooqa.Media
open Foundation

section Remux

def firstVideoStream (probe : MediaProbe) : Option MediaStream :=
  probe.streams.find? fun stream => stream.kind == .video

def isMp4Container (container : Option String) : Bool :=
  match container with
  | some value =>
    (value.toList.splitOn ',').any fun format =>
      let format := String.ofList (trimEnds isWhitespace format)
      equalsIgnoringCase format "mp4" || equalsIgnoringCase format "mov"
  | none => false

def h264ProfileIdc (profile : String) : Option Nat :=
  match lowercaseAscii profile with
  | "baseline" | "constrained baseline" => some 66
  | "main" => some 77
  | "extended" => some 88
  | "high" | "constrained high" => some 100
  | "high 10" => some 110
  | "high 4:2:2" => some 122
  | "high 4:4:4 predictive" => some 244
  | "cavlc 4:4:4 intra" => some 44
  | _ => none

/-- The macroblocks of a frame and of a second that a level allows. -/
def h264LevelLimits (level : Nat) : Option (Nat × Nat) :=
  match level with
  | 10 => some (99, 1485)
  | 11 => some (396, 3000)
  | 12 => some (396, 6000)
  | 13 => some (396, 11880)
  | 20 => some (396, 11880)
  | 21 => some (792, 19800)
  | 22 => some (1620, 20250)
  | 30 => some (1620, 40500)
  | 31 => some (3600, 108000)
  | 32 => some (5120, 216000)
  | 40 | 41 => some (8192, 245760)
  | 42 => some (8704, 522240)
  | 50 => some (22080, 589824)
  | 51 => some (36864, 983040)
  | 52 => some (36864, 2073600)
  | 60 => some (36864, 2073600)
  | 61 => some (69120, 4177920)
  | 62 => some (69120, 4177920)
  | _ => none

def h264MetadataIsCompatible (video : MediaStream) : Bool := Option.isSome do
  let codecTag ← video.codecTag
  guard (equalsIgnoringCase codecTag "avc1" || equalsIgnoringCase codecTag "avc3")
  let codecMime ← video.codecMime
  let (declaredCodec, profileLevelId) ← splitOnce '.' codecMime.toList
  guard (equalsIgnoringCase (.ofList declaredCodec) codecTag &&
    decide (profileLevelId.length = 6) && profileLevelId.all isHexDigit)
  let declaredProfile := hexNumber (profileLevelId.take 2)
  let authoritativeProfile ← video.profile.bind h264ProfileIdc
  guard (declaredProfile = authoritativeProfile)
  let declaredLevel := hexNumber (profileLevelId.drop 4)
  let level ← video.level
  guard (declaredLevel = level.toNat)
  let (width, height) ← codedSize video
  let macroblocks := divCeil width 16 * divCeil height 16
  let frameRate := match video.frameRate with
    | some rate =>
      if rate.denominator = 0 then 0 else divCeil rate.numerator.toNat rate.denominator.toNat
    | none => 0
  let macroblocksPerSecond := min (macroblocks * frameRate) (2 ^ 64 - 1)
  let (maxMacroblocks, maxMacroblocksPerSecond) ← h264LevelLimits level.toNat
  guard (macroblocks ≤ maxMacroblocks ∧ macroblocksPerSecond ≤ maxMacroblocksPerSecond)

def dimensionsWithinProfile (video : MediaStream) (profile : CanonicalVideoProfile) : Bool :=
  (codedSize video).any fun size =>
    decide (size.1 ≤ profile.maxWidth.toNat ∧ size.2 ≤ profile.maxHeight.toNat)

def requiresFrameRateCap (video : MediaStream) (maximum : FrameRate) : Bool :=
  match video.frameRate with
  | none => true
  | some rate =>
    decide (rate.denominator = 0 ∨
      rate.numerator.toNat * maximum.denominator.toNat >
        maximum.numerator.toNat * rate.denominator.toNat)

def isRemuxCompatible (probe : MediaProbe) (video : MediaStream)
    (profile : CanonicalVideoProfile) : Bool :=
  isMp4Container probe.containerFormat &&
    video.codec == some profile.videoCodec.probeName &&
    h264MetadataIsCompatible video &&
    video.pixelFormat == some profile.pixelFormat.ffmpegName &&
    dimensionsWithinProfile video profile &&
    !requiresFrameRateCap video profile.maxFrameRate &&
    video.rotationDegrees.getD 0 == 0 &&
    (probe.streams.filter (·.kind == .audio)).all
      (·.codec == some profile.audioCodec.probeName)

end Remux

section Commands

structure ExternalCommand where
  program : String
  args : List String
  deriving DecidableEq, Repr

def ExternalCommand.addArgs (command : ExternalCommand) (args : List String) : ExternalCommand :=
  { command with args := command.args ++ args }

def baseCommand (executable : String) : ExternalCommand :=
  ⟨executable, ["-hide_banner", "-loglevel", "error", "-nostdin", "-y"]⟩

def scaleFilter (dimensions : VideoDimensions) (pixelFormat : PixelFormat) : String :=
  s!"scale='{dimensions.width}':'{dimensions.height}':" ++
    s!"force_original_aspect_ratio=decrease:force_divisible_by=2,format={pixelFormat.ffmpegName}"

def frameRateArgument (rate : FrameRate) : String :=
  if rate.denominator = 1 then toString rate.numerator
  else s!"{rate.numerator}/{rate.denominator}"

namespace NormalizationPlanner
variable (planner : NormalizationPlanner)

def outputOptions : List String :=
  (if planner.profile.fastStart then ["-movflags", "+faststart"] else []) ++
    (if planner.profile.stripMetadata then ["-map_metadata", "-1"] else [])

def frameRateOptions (video : MediaStream) : List String :=
  if requiresFrameRateCap video planner.profile.maxFrameRate then
    ["-r", frameRateArgument planner.profile.maxFrameRate]
  else []

def remuxCommand (input output : String) : ExternalCommand :=
  (baseCommand planner.ffmpegExecutable).addArgs
    (["-i", input, "-map", "0:v:0", "-map", "0:a:0?", "-c", "copy"] ++
      planner.outputOptions ++ [output])

def transcodeCommand (input output : String) (dimensions : VideoDimensions) (crf : UInt8)
    (video : MediaStream) : ExternalCommand :=
  (baseCommand planner.ffmpegExecutable).addArgs
    (["-i", input, "-map", "0:v:0", "-map", "0:a:0?",
      "-vf", scaleFilter dimensions planner.profile.pixelFormat,
      "-c:v", planner.profile.videoCodec.ffmpegName,
      "-preset", planner.profile.videoPreset.ffmpegName,
      "-crf", toString crf,
      "-pix_fmt", planner.profile.pixelFormat.ffmpegName,
      "-c:a", planner.profile.audioCodec.ffmpegName,
      "-b:a", s!"{planner.profile.audioBitrateKbps}k"] ++
      planner.frameRateOptions video ++ planner.outputOptions ++ [output])

/-- The first pass analyses without sound and writes to the null muxer. -/
def twoPassCommand (input output : String) (dimensions : VideoDimensions)
    (videoBitrateKbps : UInt64) (passlogPrefix : String) (pass : Nat) (video : MediaStream) :
    ExternalCommand :=
  (baseCommand planner.ffmpegExecutable).addArgs
    (["-i", input, "-map", "0:v:0"] ++
      (if pass = 2 then ["-map", "0:a:0?"] else []) ++
      ["-vf", scaleFilter dimensions planner.profile.pixelFormat,
        "-c:v", planner.profile.videoCodec.ffmpegName,
        "-preset", planner.profile.videoPreset.ffmpegName,
        "-b:v", s!"{videoBitrateKbps}k",
        "-pass", toString pass,
        "-passlogfile", passlogPrefix,
        "-pix_fmt", planner.profile.pixelFormat.ffmpegName] ++
      (if pass = 2 then
        ["-c:a", planner.profile.audioCodec.ffmpegName,
          "-b:a", s!"{planner.profile.audioBitrateKbps}k"]
      else ["-an"]) ++
      planner.frameRateOptions video ++
      (if pass = 1 then ["-f", "null"] else planner.outputOptions) ++ [output])

end NormalizationPlanner

end Commands

section Plans

inductive NormalizationMode where
  | remux | transcode
  deriving DecidableEq, Repr

structure NormalizationPlan where
  mode : NormalizationMode
  command : ExternalCommand
  output : String
  profile : CanonicalVideoProfile
  deriving DecidableEq

/-- The same plan writing elsewhere: the output is the last argument. -/
def NormalizationPlan.withOutput (plan : NormalizationPlan) (output : String) :
    NormalizationPlan :=
  { plan with
    command := { plan.command with args := plan.command.args.dropLast ++ [output] }
    output := output }

structure TwoPassNormalizationPlan where
  firstPass : ExternalCommand
  secondPass : NormalizationPlan
  deriving DecidableEq

def validateCandidateDimensions (dimensions : VideoDimensions) (source : MediaStream)
    (profile : CanonicalVideoProfile) : Except NormalizationError Unit := do
  let effectiveMinimumShortEdge :=
    ((codedSize source).bind fun size =>
      boundedDimensions size.1 size.2 profile.maxWidth.toNat profile.maxHeight.toNat).map
        fun canonical => min profile.minimumShortEdge.toNat canonical.shortEdge
  require (¬ (dimensions.width = 0 ∨ dimensions.height = 0 ∨
      dimensions.width % 2 ≠ 0 ∨ dimensions.height % 2 ≠ 0 ∨
      dimensions.width > profile.maxWidth.toNat ∨ dimensions.height > profile.maxHeight.toNat ∨
      effectiveMinimumShortEdge.any fun minimum => dimensions.shortEdge < minimum))
    (.invalidCandidateDimensions dimensions)
  require (¬ ((codedSize source).any fun size =>
      dimensions.width > size.1 ∨ dimensions.height > size.2))
    (.invalidCandidateDimensions dimensions)

def effectiveFrameRate (video : MediaStream) (maximum : FrameRate) : FrameRate :=
  match video.frameRate with
  | some rate => if requiresFrameRateCap video maximum then maximum else rate
  | none => maximum

/-- The bits a second of these frames cannot do without, in 128-bit words. -/
def minimumVideoBitrate (dimensions : VideoDimensions) (frameRate : FrameRate) : Nat :=
  divCeil (dimensions.width * dimensions.height * frameRate.numerator.toNat * 60000 % 2 ^ 128)
    (frameRate.denominator.toNat * 1000000)

namespace NormalizationPlanner
variable (planner : NormalizationPlanner)

/-- The plan for a video stream that was found. -/
def planOf (video : MediaStream) (input output : String) (probe : MediaProbe) :
    Except NormalizationError NormalizationPlan := do
  if isRemuxCompatible probe video planner.profile then
    return ⟨.remux, planner.remuxCommand input output, output, planner.profile⟩
  else
    let dimensions ← expect (planner.canonicalDimensions video) .missingVideoDimensions
    let command :=
      planner.transcodeCommand input output dimensions planner.profile.qualityCrf video
    return ⟨.transcode, command, output, planner.profile⟩

def plan (input output : String) (probe : MediaProbe) :
    Except NormalizationError NormalizationPlan := do
  let video ← expect (firstVideoStream probe) .noVideoStream
  planner.planOf video input output probe

def planQualityCandidateOf (video : MediaStream) (input output : String)
    (dimensions : VideoDimensions) : Except NormalizationError NormalizationPlan := do
  validateCandidateDimensions dimensions video planner.profile
  let command :=
    planner.transcodeCommand input output dimensions planner.profile.qualityCrf video
  return ⟨.transcode, command, output, planner.profile⟩

def planQualityCandidate (input output : String) (probe : MediaProbe)
    (dimensions : VideoDimensions) : Except NormalizationError NormalizationPlan := do
  let video ← expect (firstVideoStream probe) .noVideoStream
  planner.planQualityCandidateOf video input output dimensions

def planTwoPassOf (video : MediaStream) (input output : String) (dimensions : VideoDimensions)
    (videoBitrateKbps : UInt64) (passlogPrefix : String) :
    Except NormalizationError TwoPassNormalizationPlan := do
  validateCandidateDimensions dimensions video planner.profile
  require (videoBitrateKbps ≠ 0) .invalidVideoBitrate
  let firstPass :=
    planner.twoPassCommand input "-" dimensions videoBitrateKbps passlogPrefix 1 video
  let command :=
    planner.twoPassCommand input output dimensions videoBitrateKbps passlogPrefix 2 video
  return ⟨firstPass, ⟨.transcode, command, output, planner.profile⟩⟩

def planTwoPass (input output : String) (probe : MediaProbe) (dimensions : VideoDimensions)
    (videoBitrateKbps : UInt64) (passlogPrefix : String) :
    Except NormalizationError TwoPassNormalizationPlan := do
  let video ← expect (firstVideoStream probe) .noVideoStream
  planner.planTwoPassOf video input output dimensions videoBitrateKbps passlogPrefix

/-- The highest size that the preferred bytes can fill well enough. None of the
    128-bit products here can overflow. -/
def twoPassCandidateOf (video : MediaStream) (probe : MediaProbe) :
    Option (VideoDimensions × UInt64) := do
  let durationMs ← probe.durationMs.filter (· > 0)
  let targetBits := planner.profile.targetMaxBytes.toNat * 8 * (10000 - 200) / 10000
  let totalBitrate := targetBits * 1000 / durationMs.toNat
  let audioBitrate :=
    if probe.streams.any (·.kind == .audio) then planner.profile.audioBitrateKbps.toNat * 1000
    else 0
  guard (audioBitrate ≤ totalBitrate)
  let videoBitrate := totalBitrate - audioBitrate
  let frameRate := effectiveFrameRate video planner.profile.maxFrameRate
  let dimensions ← (planner.resolutionLadder video).find? fun dimensions =>
    decide (minimumVideoBitrate dimensions frameRate ≤ videoBitrate)
  return (dimensions, UInt64.ofNat (max (min (videoBitrate / 1000) (2 ^ 64 - 1)) 1))

def twoPassCandidate (probe : MediaProbe) : Option (VideoDimensions × UInt64) := do
  let video ← firstVideoStream probe
  planner.twoPassCandidateOf video probe

end NormalizationPlanner

end Plans

end Sooqa.Media
