import Sooqa.Envelope.Probe
import Sooqa.Media.Probe

/-!
The worker's own reading of the kind of media a probe found. It is the reading
of the document that the probe is kept as.
-/
namespace Sooqa.Worker
open Foundation Queue Media Envelope

section Model

def isPlayable (stream : MediaStream) : Bool := stream.kind == .video && !stream.attachedPicture

def probeMediaKind (probe : MediaProbe) : Option SourceMediaKind :=
  let container := probe.containerFormat.map lowercaseAscii
  let videoStreams := probe.streams.filter isPlayable
  let codecs := videoStreams.filterMap (·.codec)
  let isGif := container.any (containsText · "gif") ||
    codecs.any (fun value => containsText (lowercaseAscii value) "gif")
  let isImageContainer := container.any fun value =>
    ["image2", "png", "jpeg", "jpg", "webp", "avif", "mjpeg"].any (containsText value)
  let isImageCodec :=
    codecs.any (fun value => ["png", "webp"].any (equalsIgnoringCase value)) ||
      (container.isNone && codecs.any (equalsIgnoringCase · "mjpeg"))
  if isGif then some .animation
  else if isImageContainer || isImageCodec then some .image
  else if !videoStreams.isEmpty then some .video
  else if probe.streams.any (·.kind == .audio) then some .audio
  else none

end Model

section Documents

theorem get_kind (stream : MediaStream) : stream.toValue.get "kind" = some stream.kind.toValue := rfl

theorem get_codec (stream : MediaStream) :
    (stream.toValue.get "codec").bind Json.asStr = stream.codec := ofOption_text stream.codec

theorem get_streams (probe : MediaProbe) :
    (probe.toValue.get "streams").bind Json.asArray =
      some (probe.streams.map MediaStream.toValue) := rfl

theorem get_container (probe : MediaProbe) :
    (probe.toValue.get "container_format").bind Json.asStr = probe.containerFormat :=
  ofOption_text probe.containerFormat

theorem kind_is (stream : MediaStream) (kind : MediaStreamKind) (name : String)
    (named : kind.toValue = .string name) :
    ((stream.toValue.get "kind").bind Json.asStr == some name) = (stream.kind == kind) := by
  rw [get_kind, Option.bind_some, Bool.eq_iff_iff, beq_iff_eq, beq_iff_eq, Json.asStr_eq, ← named]
  exact ⟨kind_toValue_injective, fun same => congrArg _ same⟩

theorem playable_document (stream : MediaStream) :
    isPlayableVideoStream stream.toValue = isPlayable stream := by
  have attached : (stream.toValue.get "attached_picture").bind Json.asBool =
    some stream.attachedPicture := rfl
  rw [isPlayableVideoStream, isPlayable, kind_is stream .video "video" rfl, attached]
  cases stream.attachedPicture <;> rfl

theorem documents_any (streams : List MediaStream) {document : Json → Bool}
    {typed : MediaStream → Bool} (same : ∀ stream, document stream.toValue = typed stream) :
    (streams.map MediaStream.toValue).any document = streams.any typed := by
  rw [List.any_map]
  congr 1
  funext stream
  exact same stream

theorem document_codecs (streams : List MediaStream) :
    ((streams.map MediaStream.toValue).filter isPlayableVideoStream).filterMap
        (fun stream => (stream.get "codec").bind Json.asStr) =
      (streams.filter isPlayable).filterMap (·.codec) := by
  rw [List.filter_map, List.filterMap_map]
  have playable : isPlayableVideoStream ∘ MediaStream.toValue = isPlayable :=
    funext playable_document
  have codec : (fun stream => (stream.get "codec").bind Json.asStr) ∘ MediaStream.toValue =
      fun stream => stream.codec := funext get_codec
  rw [playable, codec]

/-- The stage that enqueues and the stage that executes read the same kind. -/
theorem classifiers_agree (probe : MediaProbe) :
    probeMediaKind probe = (Envelope.IngestProbe.mk probe.toValue).mediaKind := by
  have playable : (!(probe.streams.filter isPlayable).isEmpty) =
      (probe.streams.map MediaStream.toValue).any isPlayableVideoStream := by
    rw [documents_any _ playable_document, Bool.eq_iff_iff]
    simp
  have audio : (probe.streams.map MediaStream.toValue).any
      (fun stream => (stream.get "kind").bind Json.asStr == some "audio") =
        probe.streams.any (·.kind == .audio) :=
    documents_any _ (fun stream => kind_is stream .audio "audio" rfl)
  unfold probeMediaKind Envelope.IngestProbe.mediaKind
  simp only [get_container, get_streams, Option.getD_some, document_codecs, Option.any_some,
    audio, playable]

end Documents

end Sooqa.Worker
