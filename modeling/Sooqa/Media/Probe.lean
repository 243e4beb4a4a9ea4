import Sooqa.Foundation.Json

/-!
What a media file is found to hold, and its form as a document.
-/
namespace Sooqa.Media
open Foundation

structure FrameRate where
  numerator : UInt64
  denominator : UInt64
  deriving DecidableEq, Repr

inductive MediaStreamKind where
  | video | audio | subtitle | data | attachment
  | other (name : String)
  deriving DecidableEq, Repr

structure MediaStream where
  index : UInt32
  kind : MediaStreamKind
  codec : Option String
  /-- Cover art rather than playable media. -/
  attachedPicture : Bool
  codecTag : Option String
  codecMime : Option String
  level : Option UInt32
  profile : Option String
  pixelFormat : Option String
  width : Option UInt32
  height : Option UInt32
  displayAspectRatio : Option String
  frameRate : Option FrameRate
  rotationDegrees : Option Int32
  sampleRateHz : Option UInt32
  channels : Option UInt16
  bitRate : Option UInt64
  deriving DecidableEq

structure MediaProbe where
  containerFormat : Option String
  durationMs : Option UInt64
  sizeBytes : UInt64
  bitRate : Option UInt64
  streams : List MediaStream
  deriving DecidableEq

section Documents

def FrameRate.toValue (rate : FrameRate) : Json :=
  .object [("numerator", .ofUInt64 rate.numerator), ("denominator", .ofUInt64 rate.denominator)]

/-- The named kinds are their names, any other one an object. -/
def MediaStreamKind.toValue : MediaStreamKind → Json
  | .video => .string "video"
  | .audio => .string "audio"
  | .subtitle => .string "subtitle"
  | .data => .string "data"
  | .attachment => .string "attachment"
  | .other name => .object [("other", .string name)]

def MediaStream.toValue (stream : MediaStream) : Json :=
  .object
    [("index", .ofUInt32 stream.index),
      ("kind", stream.kind.toValue),
      ("codec", .ofOption .string stream.codec),
      ("attached_picture", .bool stream.attachedPicture),
      ("codec_tag", .ofOption .string stream.codecTag),
      ("codec_mime", .ofOption .string stream.codecMime),
      ("level", .ofOption .ofUInt32 stream.level),
      ("profile", .ofOption .string stream.profile),
      ("pixel_format", .ofOption .string stream.pixelFormat),
      ("width", .ofOption .ofUInt32 stream.width),
      ("height", .ofOption .ofUInt32 stream.height),
      ("display_aspect_ratio", .ofOption .string stream.displayAspectRatio),
      ("frame_rate", .ofOption FrameRate.toValue stream.frameRate),
      ("rotation_degrees", .ofOption (fun degrees => .ofInt64 degrees.toInt64)
        stream.rotationDegrees),
      ("sample_rate_hz", .ofOption .ofUInt32 stream.sampleRateHz),
      ("channels", .ofOption (fun channels => .ofUInt64 channels.toUInt64) stream.channels),
      ("bit_rate", .ofOption .ofUInt64 stream.bitRate)]

def MediaProbe.toValue (probe : MediaProbe) : Json :=
  .object
    [("container_format", .ofOption .string probe.containerFormat),
      ("duration_ms", .ofOption .ofUInt64 probe.durationMs),
      ("size_bytes", .ofUInt64 probe.sizeBytes),
      ("bit_rate", .ofOption .ofUInt64 probe.bitRate),
      ("streams", .array (probe.streams.map MediaStream.toValue))]

theorem kind_toValue_injective {kind other : MediaStreamKind}
    (same : kind.toValue = other.toValue) : kind = other := by
  cases kind <;> cases other <;> simp_all [MediaStreamKind.toValue]

theorem ofOption_text (text : Option String) :
    (Json.ofOption .string text).asStr = text := by
  cases text <;> rfl

end Documents

end Sooqa.Media
