import Mathlib.Algebra.Order.Floor.Ring
import Mathlib.Data.Rat.Floor
import Sooqa.Foundation.Outcome
import Sooqa.Foundation.Text
import Sooqa.Foundation.Tokens
import Sooqa.Media.Probe

/-!
The planning of a normalization: the canonical profile, the sizes a video is
adapted to, and the commands that do it. Floating-point sizes are exact
rationals here.
-/
namespace Sooqa.Media
open Foundation

section Profile

inductive CanonicalContainer where
  | mp4
  deriving DecidableEq, Repr

inductive VideoCodec where
  | h264
  deriving DecidableEq, Repr

inductive PixelFormat where
  | yuv420p
  deriving DecidableEq, Repr

inductive AudioCodec where
  | aac
  deriving DecidableEq, Repr

inductive VideoPreset where
  | medium
  deriving DecidableEq, Repr

def VideoCodec.ffmpegName : VideoCodec → String
  | .h264 => "libx264"

def VideoCodec.probeName : VideoCodec → String
  | .h264 => "h264"

def PixelFormat.ffmpegName : PixelFormat → String
  | .yuv420p => "yuv420p"

def AudioCodec.ffmpegName : AudioCodec → String
  | .aac => "aac"

def AudioCodec.probeName : AudioCodec → String
  | .aac => "aac"

def VideoPreset.ffmpegName : VideoPreset → String
  | .medium => "medium"

structure CanonicalVideoProfile where
  container : CanonicalContainer
  videoCodec : VideoCodec
  pixelFormat : PixelFormat
  audioCodec : AudioCodec
  maxWidth : UInt32
  maxHeight : UInt32
  maxFrameRate : FrameRate
  videoPreset : VideoPreset
  targetMaxBytes : UInt64
  qualityCrf : UInt8
  minimumShortEdge : UInt32
  audioBitrateKbps : UInt32
  fastStart : Bool
  stripMetadata : Bool
  deriving DecidableEq

inductive ProfileError where
  | invalidDimensions (width height : UInt32)
  | invalidFrameRate (rate : FrameRate)
  | invalidQualityCrf (crf : UInt8)
  | invalidTargetBytes
  | invalidMinimumShortEdge
  | minimumShortEdgeExceedsProfile (minimum maxShortEdge : UInt32)
  | invalidAudioBitrate
  deriving DecidableEq

namespace CanonicalVideoProfile

def default : CanonicalVideoProfile where
  container := .mp4
  videoCodec := .h264
  pixelFormat := .yuv420p
  audioCodec := .aac
  maxWidth := 1920
  maxHeight := 1080
  maxFrameRate := ⟨60, 1⟩
  videoPreset := .medium
  targetMaxBytes := 14 * 1024 * 1024
  qualityCrf := 27
  minimumShortEdge := 480
  audioBitrateKbps := 128
  fastStart := true
  stripMetadata := true

def validate (profile : CanonicalVideoProfile) : Except ProfileError Unit := do
  require (¬ (profile.maxWidth = 0 ∨ profile.maxHeight = 0))
    (.invalidDimensions profile.maxWidth profile.maxHeight)
  require (¬ (profile.maxFrameRate.numerator = 0 ∨ profile.maxFrameRate.denominator = 0))
    (.invalidFrameRate profile.maxFrameRate)
  require (profile.qualityCrf ≤ 51) (.invalidQualityCrf profile.qualityCrf)
  require (profile.targetMaxBytes ≠ 0) .invalidTargetBytes
  require (profile.minimumShortEdge ≠ 0) .invalidMinimumShortEdge
  require (profile.minimumShortEdge ≤ min profile.maxWidth profile.maxHeight)
    (.minimumShortEdgeExceedsProfile profile.minimumShortEdge
      (min profile.maxWidth profile.maxHeight))
  require (profile.audioBitrateKbps ≠ 0) .invalidAudioBitrate

end CanonicalVideoProfile

end Profile

section Dimensions

structure VideoDimensions where
  width : Nat
  height : Nat
  deriving DecidableEq, Repr

def VideoDimensions.shortEdge (dimensions : VideoDimensions) : Nat :=
  min dimensions.width dimensions.height

/-- `f64::round` of a size: halves go up. -/
def round (value : ℚ) : Int := ⌊value + 1 / 2⌋

/-- A size as a 32-bit word, or the nearest one. -/
def asU32 (value : Int) : Nat := min value.toNat (2 ^ 32 - 1)

def evenDimension (value : Nat) : Nat := value - value % 2

def roundedEvenDimension (value : ℚ) : Nat := asU32 (max (round (value / 2) * 2) 2)

def boundedDimensions (width height maxWidth maxHeight : Nat) : Option VideoDimensions :=
  if width < 2 ∨ height < 2 then none
  else
    let scale : ℚ := min (min ((maxWidth : ℚ) / width) ((maxHeight : ℚ) / height)) 1
    some
      { width := max (min (roundedEvenDimension (width * scale)) (evenDimension width)) 2
        height := max (min (roundedEvenDimension (height * scale)) (evenDimension height)) 2 }

/-- The coded size of a stream. -/
def codedSize (video : MediaStream) : Option (Nat × Nat) :=
  match video.width, video.height with
  | some width, some height => some (width.toNat, height.toNat)
  | _, _ => none

end Dimensions

section Planner

inductive NormalizationError where
  | invalidProfile (error : ProfileError)
  | noVideoStream
  | missingVideoDimensions
  | invalidVideoBitrate
  | invalidCandidateDimensions (dimensions : VideoDimensions)
  deriving DecidableEq

theorem default_valid : CanonicalVideoProfile.validate .default = .ok () := rfl

/-- A planner keeps a profile that passed its check. -/
structure NormalizationPlanner where
  ffmpegExecutable : String
  profile : CanonicalVideoProfile
  valid : profile.validate = .ok ()

def NormalizationPlanner.new (ffmpegExecutable : String) (profile : CanonicalVideoProfile) :
    Except NormalizationError NormalizationPlanner :=
  match valid : profile.validate with
  | .ok _ => .ok ⟨ffmpegExecutable, profile, valid⟩
  | .error error => .error (.invalidProfile error)

variable (planner : NormalizationPlanner) (video : MediaStream)

namespace NormalizationPlanner

def canonicalDimensions : Option VideoDimensions :=
  (codedSize video).bind fun size =>
    boundedDimensions size.1 size.2 planner.profile.maxWidth.toNat planner.profile.maxHeight.toNat

def effectiveMinimumShortEdge : Option Nat :=
  (planner.canonicalDimensions video).map fun dimensions =>
    min planner.profile.minimumShortEdge.toNat dimensions.shortEdge

/-- The initial size scaled to a short edge. -/
def scaledTo (initial : VideoDimensions) (shortEdge : Nat) : VideoDimensions :=
  let scale : ℚ := (shortEdge : ℚ) / initial.shortEdge
  { width := max (roundedEvenDimension (initial.width * scale)) 2
    height := max (roundedEvenDimension (initial.height * scale)) 2 }

/-- The rest of the ladder below its last size. Each further size has a shorter
    edge, which bounds the loop. -/
def ladderBelow (initial : VideoDimensions) (minimum : Nat) :
    Nat → VideoDimensions → Nat → List VideoDimensions
  | 0, _, _ => []
  | fuel + 1, last, shortEdge =>
    if shortEdge > minimum then
      let next := (shortEdge * 3 + 2) / 4
      let nextShort := min (max next minimum) (shortEdge - 2)
      let candidate := scaledTo initial nextShort
      if candidate.shortEdge < minimum then
        let candidate := scaledTo initial minimum
        if last ≠ candidate then [candidate] else []
      else if last = candidate then []
      else candidate :: ladderBelow initial minimum fuel candidate candidate.shortEdge
    else []

def resolutionLadder : List VideoDimensions :=
  match planner.canonicalDimensions video with
  | none => []
  | some initial =>
    let minimum := planner.profile.minimumShortEdge.toNat
    if initial.shortEdge ≤ minimum then [initial]
    else initial :: ladderBelow initial minimum initial.shortEdge initial initial.shortEdge

end NormalizationPlanner

end Planner

end Sooqa.Media
