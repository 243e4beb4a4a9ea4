import Sooqa.Database
import Sooqa.Foundation.Records

/-!
What the stages of an ingest leave behind, as it is kept in the envelope.
-/
namespace Sooqa.Envelope
open Foundation
open Queue (SourceMediaKind)

section Kinds

def SourceMediaKind.codec : Codec SourceMediaKind :=
  .variants
    (fun kind => match kind with
      | .video => "video"
      | .image => "image"
      | .audio => "audio"
      | .animation => "animation"
      | .unknown => "unknown")
    [.video, .image, .audio, .animation, .unknown] (fun kind => by cases kind <;> rfl)

def RequestedAction.codec : Codec RequestedAction :=
  .variants
    (fun action => match action with
      | .save => "save"
      | .queue => "queue"
      | .postNow => "post_now")
    [.save, .queue, .postNow] (fun action => by cases action <;> rfl)

inductive DuplicateDecisionKind where
  | accepted
  deriving DecidableEq, Repr

def DuplicateDecisionKind.codec : Codec DuplicateDecisionKind :=
  .variants (fun _ => "accepted") [.accepted] (fun kind => by cases kind; rfl)

end Kinds

section Inspection

structure SourceInspection where
  adapter : String
  sourceUrl : String
  resolvedUrl : Option String
  mediaKind : SourceMediaKind
  mimeType : Option String
  contentLengthBytes : Option UInt64
  title : Option String
  metadata : Json

namespace SourceInspection

def fields : List (RecordField SourceInspection) :=
  [.required "adapter" .string (·.adapter),
    .required "source_url" .string (·.sourceUrl),
    .nullable "resolved_url" .string (·.resolvedUrl),
    .required "media_kind" SourceMediaKind.codec (·.mediaKind),
    .nullable "mime_type" .string (·.mimeType),
    .nullable "content_length_bytes" (.integer .u64) (·.contentLengthBytes),
    .nullable "title" .string (·.title),
    .document "metadata" (·.metadata)]

def read (entries : List (String × Json)) : Except DecodeError SourceInspection := do
  let adapter ← readRequired .string "adapter" entries
  let sourceUrl ← readRequired .string "source_url" entries
  let resolvedUrl ← readOptional .string "resolved_url" entries
  let mediaKind ← readRequired SourceMediaKind.codec "media_kind" entries
  let mimeType ← readOptional .string "mime_type" entries
  let contentLengthBytes ← readOptional (.integer .u64) "content_length_bytes" entries
  let title ← readOptional .string "title" entries
  let metadata ← readDocument "metadata" entries
  return ⟨adapter, sourceUrl, resolvedUrl, mediaKind, mimeType, contentLengthBytes, title, metadata⟩

def elements (items : List Json) : Except DecodeError SourceInspection := do
  let expected := "struct SourceInspection with 8 elements"
  let adapter ← element items expected 0 Codec.string.decode
  let sourceUrl ← element items expected 1 Codec.string.decode
  let resolvedUrl ← element items expected 2 Codec.string.orNull
  let mediaKind ← element items expected 3 SourceMediaKind.codec.decode
  let mimeType ← element items expected 4 Codec.string.orNull
  let contentLengthBytes ← element items expected 5 (Codec.integer .u64).orNull
  let title ← element items expected 6 Codec.string.orNull
  let metadata ← element items expected 7 Except.ok
  endOfElements items 8
  return ⟨adapter, sourceUrl, resolvedUrl, mediaKind, mimeType, contentLengthBytes, title, metadata⟩

theorem apart : Apart fields [] := ⟨by decide, fun _ member => by cases member⟩

theorem reads (inspection : SourceInspection) :
    read (present fields inspection ++ []) = .ok inspection := by
  unfold read
  rw [readRequired_present apart 0 rfl, bind_ok_eq,
    readRequired_present apart 1 rfl, bind_ok_eq,
    readOptional_nullable apart 2 rfl, bind_ok_eq,
    readRequired_present apart 3 rfl, bind_ok_eq,
    readOptional_nullable apart 4 rfl, bind_ok_eq,
    readOptional_nullable apart 5 rfl, bind_ok_eq,
    readOptional_nullable apart 6 rfl, bind_ok_eq,
    readDocument_present apart 7 rfl, bind_ok_eq]
  rfl

def codec : Codec SourceInspection := .record "SourceInspection" fields read elements apart reads

end SourceInspection

end Inspection

section Download

structure SourceDownload where
  bytes : UInt64
  mimeType : Option String
  mediaKind : SourceMediaKind
  selectedFormat : Option String

namespace SourceDownload

def fields : List (RecordField SourceDownload) :=
  [.required "bytes" (.integer .u64) (·.bytes),
    .nullable "mime_type" .string (·.mimeType),
    .required "media_kind" SourceMediaKind.codec (·.mediaKind),
    .skipped "selected_format" .string (·.selectedFormat)]

def read (entries : List (String × Json)) : Except DecodeError SourceDownload := do
  let bytes ← readRequired (.integer .u64) "bytes" entries
  let mimeType ← readOptional .string "mime_type" entries
  let mediaKind ← readRequired SourceMediaKind.codec "media_kind" entries
  let selectedFormat ← readOptional .string "selected_format" entries
  return ⟨bytes, mimeType, mediaKind, selectedFormat⟩

def elements (items : List Json) : Except DecodeError SourceDownload := do
  let expected := "struct SourceDownload with 4 elements"
  let bytes ← element items expected 0 (Codec.integer .u64).decode
  let mimeType ← element items expected 1 Codec.string.orNull
  let mediaKind ← element items expected 2 SourceMediaKind.codec.decode
  let selectedFormat ← elementOr items 3 Codec.string.orNull none
  endOfElements items 4
  return ⟨bytes, mimeType, mediaKind, selectedFormat⟩

theorem apart : Apart fields [] := ⟨by decide, fun _ member => by cases member⟩

theorem reads (download : SourceDownload) :
    read (present fields download ++ []) = .ok download := by
  unfold read
  rw [readRequired_present apart 0 rfl, bind_ok_eq,
    readOptional_nullable apart 1 rfl, bind_ok_eq,
    readRequired_present apart 2 rfl, bind_ok_eq,
    readOptional_skipped apart 3 rfl, bind_ok_eq]
  rfl

def codec : Codec SourceDownload := .record "SourceDownload" fields read elements apart reads

end SourceDownload

end Download

section Normalization

structure AssetThumbnailNormalization where
  localWorkPath : String
  fileSizeBytes : UInt64
  sha256 : String
  mimeType : Option String
  width : Option UInt32
  height : Option UInt32

namespace AssetThumbnailNormalization

def fields : List (RecordField AssetThumbnailNormalization) :=
  [.required "local_work_path" .string (·.localWorkPath),
    .required "file_size_bytes" (.integer .u64) (·.fileSizeBytes),
    .required "sha256" .string (·.sha256),
    .nullable "mime_type" .string (·.mimeType),
    .nullable "width" (.integer .u32) (·.width),
    .nullable "height" (.integer .u32) (·.height)]

def read (entries : List (String × Json)) : Except DecodeError AssetThumbnailNormalization := do
  let localWorkPath ← readRequired .string "local_work_path" entries
  let fileSizeBytes ← readRequired (.integer .u64) "file_size_bytes" entries
  let sha256 ← readRequired .string "sha256" entries
  let mimeType ← readOptional .string "mime_type" entries
  let width ← readOptional (.integer .u32) "width" entries
  let height ← readOptional (.integer .u32) "height" entries
  return ⟨localWorkPath, fileSizeBytes, sha256, mimeType, width, height⟩

def elements (items : List Json) : Except DecodeError AssetThumbnailNormalization := do
  let expected := "struct AssetThumbnailNormalization with 6 elements"
  let localWorkPath ← element items expected 0 Codec.string.decode
  let fileSizeBytes ← element items expected 1 (Codec.integer .u64).decode
  let sha256 ← element items expected 2 Codec.string.decode
  let mimeType ← element items expected 3 Codec.string.orNull
  let width ← element items expected 4 (Codec.integer .u32).orNull
  let height ← element items expected 5 (Codec.integer .u32).orNull
  endOfElements items 6
  return ⟨localWorkPath, fileSizeBytes, sha256, mimeType, width, height⟩

theorem apart : Apart fields [] := ⟨by decide, fun _ member => by cases member⟩

theorem reads (thumbnail : AssetThumbnailNormalization) :
    read (present fields thumbnail ++ []) = .ok thumbnail := by
  unfold read
  rw [readRequired_present apart 0 rfl, bind_ok_eq,
    readRequired_present apart 1 rfl, bind_ok_eq,
    readRequired_present apart 2 rfl, bind_ok_eq,
    readOptional_nullable apart 3 rfl, bind_ok_eq,
    readOptional_nullable apart 4 rfl, bind_ok_eq,
    readOptional_nullable apart 5 rfl, bind_ok_eq]
  rfl

def codec : Codec AssetThumbnailNormalization :=
  .record "AssetThumbnailNormalization" fields read elements apart reads

end AssetThumbnailNormalization

structure AssetNormalization where
  localWorkPath : String
  fileSizeBytes : UInt64
  sha256 : String
  mediaKind : SourceMediaKind
  profileVersion : Option String
  mimeType : Option String
  container : Option String
  videoCodec : Option String
  audioCodec : Option String
  width : Option UInt32
  height : Option UInt32
  durationMs : Option UInt64
  bitRate : Option UInt64
  thumbnail : Option AssetThumbnailNormalization

namespace AssetNormalization

def fields : List (RecordField AssetNormalization) :=
  [.required "local_work_path" .string (·.localWorkPath),
    .required "file_size_bytes" (.integer .u64) (·.fileSizeBytes),
    .required "sha256" .string (·.sha256),
    .required "media_kind" SourceMediaKind.codec (·.mediaKind),
    .skipped "profile_version" .string (·.profileVersion),
    .nullable "mime_type" .string (·.mimeType),
    .nullable "container" .string (·.container),
    .nullable "video_codec" .string (·.videoCodec),
    .nullable "audio_codec" .string (·.audioCodec),
    .nullable "width" (.integer .u32) (·.width),
    .nullable "height" (.integer .u32) (·.height),
    .nullable "duration_ms" (.integer .u64) (·.durationMs),
    .nullable "bit_rate" (.integer .u64) (·.bitRate),
    .skipped "thumbnail" AssetThumbnailNormalization.codec (·.thumbnail)]

def read (entries : List (String × Json)) : Except DecodeError AssetNormalization := do
  let localWorkPath ← readRequired .string "local_work_path" entries
  let fileSizeBytes ← readRequired (.integer .u64) "file_size_bytes" entries
  let sha256 ← readRequired .string "sha256" entries
  let mediaKind ← readRequired SourceMediaKind.codec "media_kind" entries
  let profileVersion ← readOptional .string "profile_version" entries
  let mimeType ← readOptional .string "mime_type" entries
  let container ← readOptional .string "container" entries
  let videoCodec ← readOptional .string "video_codec" entries
  let audioCodec ← readOptional .string "audio_codec" entries
  let width ← readOptional (.integer .u32) "width" entries
  let height ← readOptional (.integer .u32) "height" entries
  let durationMs ← readOptional (.integer .u64) "duration_ms" entries
  let bitRate ← readOptional (.integer .u64) "bit_rate" entries
  let thumbnail ← readOptional AssetThumbnailNormalization.codec "thumbnail" entries
  return ⟨localWorkPath, fileSizeBytes, sha256, mediaKind, profileVersion, mimeType, container,
    videoCodec, audioCodec, width, height, durationMs, bitRate, thumbnail⟩

def elements (items : List Json) : Except DecodeError AssetNormalization := do
  let expected := "struct AssetNormalization with 14 elements"
  let localWorkPath ← element items expected 0 Codec.string.decode
  let fileSizeBytes ← element items expected 1 (Codec.integer .u64).decode
  let sha256 ← element items expected 2 Codec.string.decode
  let mediaKind ← element items expected 3 SourceMediaKind.codec.decode
  let profileVersion ← elementOr items 4 Codec.string.orNull none
  let mimeType ← element items expected 5 Codec.string.orNull
  let container ← element items expected 6 Codec.string.orNull
  let videoCodec ← element items expected 7 Codec.string.orNull
  let audioCodec ← element items expected 8 Codec.string.orNull
  let width ← element items expected 9 (Codec.integer .u32).orNull
  let height ← element items expected 10 (Codec.integer .u32).orNull
  let durationMs ← element items expected 11 (Codec.integer .u64).orNull
  let bitRate ← element items expected 12 (Codec.integer .u64).orNull
  let thumbnail ← elementOr items 13 AssetThumbnailNormalization.codec.orNull none
  endOfElements items 14
  return ⟨localWorkPath, fileSizeBytes, sha256, mediaKind, profileVersion, mimeType, container,
    videoCodec, audioCodec, width, height, durationMs, bitRate, thumbnail⟩

theorem apart : Apart fields [] := ⟨by decide, fun _ member => by cases member⟩

theorem reads (normalization : AssetNormalization) :
    read (present fields normalization ++ []) = .ok normalization := by
  unfold read
  rw [readRequired_present apart 0 rfl, bind_ok_eq,
    readRequired_present apart 1 rfl, bind_ok_eq,
    readRequired_present apart 2 rfl, bind_ok_eq,
    readRequired_present apart 3 rfl, bind_ok_eq,
    readOptional_skipped apart 4 rfl, bind_ok_eq,
    readOptional_nullable apart 5 rfl, bind_ok_eq,
    readOptional_nullable apart 6 rfl, bind_ok_eq,
    readOptional_nullable apart 7 rfl, bind_ok_eq,
    readOptional_nullable apart 8 rfl, bind_ok_eq,
    readOptional_nullable apart 9 rfl, bind_ok_eq,
    readOptional_nullable apart 10 rfl, bind_ok_eq,
    readOptional_nullable apart 11 rfl, bind_ok_eq,
    readOptional_nullable apart 12 rfl, bind_ok_eq,
    readOptional_skipped apart 13 rfl, bind_ok_eq]
  rfl

def codec : Codec AssetNormalization :=
  .record "AssetNormalization" fields read elements apart reads

end AssetNormalization

end Normalization

section Finalization

structure IngestFinalization where
  mediaId : BitVec 128

namespace IngestFinalization

def fields : List (RecordField IngestFinalization) :=
  [.required "media_id" .uuid (·.mediaId)]

def read (entries : List (String × Json)) : Except DecodeError IngestFinalization := do
  let mediaId ← readRequired .uuid "media_id" entries
  return ⟨mediaId⟩

def elements (items : List Json) : Except DecodeError IngestFinalization := do
  let expected := "struct IngestFinalization with 1 element"
  let mediaId ← element items expected 0 Codec.uuid.decode
  endOfElements items 1
  return ⟨mediaId⟩

theorem apart : Apart fields [] := ⟨by decide, fun _ member => by cases member⟩

theorem reads (finalization : IngestFinalization) :
    read (present fields finalization ++ []) = .ok finalization := by
  unfold read
  rw [readRequired_present apart 0 rfl, bind_ok_eq]
  rfl

def codec : Codec IngestFinalization :=
  .record "IngestFinalization" fields read elements apart reads

end IngestFinalization

structure DuplicateDecisionData where
  version : UInt8
  kind : DuplicateDecisionKind
  mediaId : BitVec 128

namespace DuplicateDecisionData

def fields : List (RecordField DuplicateDecisionData) :=
  [.required "version" (.integer .u8) (·.version),
    .required "kind" DuplicateDecisionKind.codec (·.kind),
    .required "media_id" .uuid (·.mediaId)]

def read (entries : List (String × Json)) : Except DecodeError DuplicateDecisionData := do
  let version ← readRequired (.integer .u8) "version" entries
  let kind ← readRequired DuplicateDecisionKind.codec "kind" entries
  let mediaId ← readRequired .uuid "media_id" entries
  return ⟨version, kind, mediaId⟩

def elements (items : List Json) : Except DecodeError DuplicateDecisionData := do
  let expected := "struct DuplicateDecisionData with 3 elements"
  let version ← element items expected 0 (Codec.integer .u8).decode
  let kind ← element items expected 1 DuplicateDecisionKind.codec.decode
  let mediaId ← element items expected 2 Codec.uuid.decode
  endOfElements items 3
  return ⟨version, kind, mediaId⟩

theorem apart : Apart fields [] := ⟨by decide, fun _ member => by cases member⟩

theorem reads (decision : DuplicateDecisionData) :
    read (present fields decision ++ []) = .ok decision := by
  unfold read
  rw [readRequired_present apart 0 rfl, bind_ok_eq,
    readRequired_present apart 1 rfl, bind_ok_eq,
    readRequired_present apart 2 rfl, bind_ok_eq]
  rfl

def codec : Codec DuplicateDecisionData :=
  .record "DuplicateDecisionData" fields read elements apart reads

end DuplicateDecisionData

end Finalization

end Sooqa.Envelope
