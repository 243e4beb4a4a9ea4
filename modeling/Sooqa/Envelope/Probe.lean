import Sooqa.Foundation.Json
import Sooqa.Foundation.Tokens
import Sooqa.Queue.Job

/-!
The probe document of an ingest, and the kind of media it tells of.
-/
namespace Sooqa.Envelope
open Foundation Queue

structure IngestProbe where
  value : Json

def isPlayableVideoStream (stream : Json) : Bool :=
  (stream.get "kind").bind Json.asStr == some "video" &&
    (stream.get "attached_picture").bind Json.asBool != some true

def IngestProbe.mediaKind (probe : IngestProbe) : Option SourceMediaKind :=
  let container := (probe.value.get "container_format").bind Json.asStr
  let codecs := ((((probe.value.get "streams").bind Json.asArray).getD []).filter
    isPlayableVideoStream).filterMap fun stream => (stream.get "codec").bind Json.asStr
  let container := container.map lowercaseAscii
  let isGif := container.any (containsText · "gif") ||
    codecs.any (fun value => containsText (lowercaseAscii value) "gif")
  let isImageContainer := container.any fun value =>
    ["image2", "png", "jpeg", "jpg", "webp", "avif", "mjpeg"].any (containsText value)
  let isImageCodec :=
    codecs.any (fun value => ["png", "webp"].any (equalsIgnoringCase value)) ||
      (container.isNone && codecs.any (equalsIgnoringCase · "mjpeg"))
  let streams := (probe.value.get "streams").bind Json.asArray
  if isGif then some .animation
  else if isImageContainer || isImageCodec then some .image
  else if streams.any (·.any isPlayableVideoStream) then some .video
  else if streams.any (·.any fun stream =>
    (stream.get "kind").bind Json.asStr == some "audio") then some .audio
  else none

end Sooqa.Envelope
