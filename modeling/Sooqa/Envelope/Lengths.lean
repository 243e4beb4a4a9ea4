import Sooqa.Envelope.Data

/-!
The length of an envelope as it is written now. What was written before can be
shorter: fields that were left out stand there as nulls, and the source has an
object of its own.
-/
namespace Sooqa.Envelope
open Foundation
open Json (stringSize)
open Queue (SourceMediaKind)

section Lengths

def mediaKindLength : SourceMediaKind → Nat
  | .video => 7
  | .image => 7
  | .audio => 7
  | .animation => 11
  | .unknown => 9

def requestedActionLength : RequestedAction → Nat
  | .save => 6
  | .queue => 7
  | .postNow => 10

def uuidLength : Nat := 38

def inspectionLength (inspection : SourceInspection) : Nat :=
  objectLength
    [("adapter", some (stringSize inspection.adapter)),
      ("source_url", some (stringSize inspection.sourceUrl)),
      ("resolved_url", some (orNullLength stringSize inspection.resolvedUrl)),
      ("media_kind", some (mediaKindLength inspection.mediaKind)),
      ("mime_type", some (orNullLength stringSize inspection.mimeType)),
      ("content_length_bytes",
        some (orNullLength (naturalLength ·.toNat) inspection.contentLengthBytes)),
      ("title", some (orNullLength stringSize inspection.title)),
      ("metadata", some inspection.metadata.size)]

def downloadLength (download : SourceDownload) : Nat :=
  objectLength
    [("bytes", some (naturalLength download.bytes.toNat)),
      ("mime_type", some (orNullLength stringSize download.mimeType)),
      ("media_kind", some (mediaKindLength download.mediaKind)),
      ("selected_format", download.selectedFormat.map stringSize)]

def thumbnailLength (thumbnail : AssetThumbnailNormalization) : Nat :=
  objectLength
    [("local_work_path", some (stringSize thumbnail.localWorkPath)),
      ("file_size_bytes", some (naturalLength thumbnail.fileSizeBytes.toNat)),
      ("sha256", some (stringSize thumbnail.sha256)),
      ("mime_type", some (orNullLength stringSize thumbnail.mimeType)),
      ("width", some (orNullLength (naturalLength ·.toNat) thumbnail.width)),
      ("height", some (orNullLength (naturalLength ·.toNat) thumbnail.height))]

def normalizationLength (normalization : AssetNormalization) : Nat :=
  objectLength
    [("local_work_path", some (stringSize normalization.localWorkPath)),
      ("file_size_bytes", some (naturalLength normalization.fileSizeBytes.toNat)),
      ("sha256", some (stringSize normalization.sha256)),
      ("media_kind", some (mediaKindLength normalization.mediaKind)),
      ("profile_version", normalization.profileVersion.map stringSize),
      ("mime_type", some (orNullLength stringSize normalization.mimeType)),
      ("container", some (orNullLength stringSize normalization.container)),
      ("video_codec", some (orNullLength stringSize normalization.videoCodec)),
      ("audio_codec", some (orNullLength stringSize normalization.audioCodec)),
      ("width", some (orNullLength (naturalLength ·.toNat) normalization.width)),
      ("height", some (orNullLength (naturalLength ·.toNat) normalization.height)),
      ("duration_ms", some (orNullLength (naturalLength ·.toNat) normalization.durationMs)),
      ("bit_rate", some (orNullLength (naturalLength ·.toNat) normalization.bitRate)),
      ("thumbnail", normalization.thumbnail.map thumbnailLength)]

def finalizationLength : Nat := objectLength [("media_id", some uuidLength)]

def decisionLength (decision : DuplicateDecisionData) : Nat :=
  objectLength
    [("version", some (naturalLength decision.version.toNat)),
      ("kind", some (stringSize "accepted")),
      ("media_id", some uuidLength)]

def sourceLength (source : IngestSourceData) : Nat :=
  objectLength
    ([("url", source.url.map stringSize),
      ("page_url", source.pageUrl.map stringSize),
      ("page_title", source.pageTitle.map stringSize),
      ("selected_text", source.selectedText.map stringSize),
      ("description", source.description.map stringSize),
      ("tags", if source.tags.isEmpty then none else some (arrayLength (source.tags.map stringSize))),
      ("requested_action", source.requestedAction.map requestedActionLength),
      ("requested_publish_at", source.requestedPublishAt.map stringSize),
      ("requested_post_caption", source.requestedPostCaption.map stringSize),
      ("source_type", source.sourceType.map stringSize),
      ("telegram_update_id", source.telegramUpdateId.map (integerLength ·.toInt)),
      ("telegram_chat_id", source.telegramChatId.map (integerLength ·.toInt)),
      ("telegram_message_id", source.telegramMessageId.map (integerLength ·.toInt)),
      ("telegram_user_id", source.telegramUserId.map (integerLength ·.toInt)),
      ("telegram_file_id", source.telegramFileId.map stringSize),
      ("telegram_file_unique_id", source.telegramFileUniqueId.map stringSize),
      ("telegram_workspace_id", source.telegramWorkspaceId.map stringSize),
      ("file_size", source.fileSize.map (naturalLength ·.toNat)),
      ("mime_type", source.mimeType.map stringSize),
      ("file_name", source.fileName.map stringSize),
      ("media_kind", source.mediaKind.map mediaKindLength)] ++
      source.extensions.map fun entry => (entry.1, some entry.2.size))

/-- The length of an envelope from the lengths of what it holds. -/
def upgradedLength (data : IngestData) : Nat :=
  objectLength
    ([("version", some (naturalLength data.version.toNat)),
      ("source", some (sourceLength data.source)),
      ("inspection", data.inspection.map inspectionLength),
      ("download", data.download.map downloadLength),
      ("probe", data.probe.map (·.value.size)),
      ("probed_media_kind", data.probedMediaKind.map mediaKindLength),
      ("normalization", data.normalization.map normalizationLength),
      ("finalization", data.finalization.map fun _ => finalizationLength),
      (duplicateDecisionMarkerKey, data.duplicateDecision.map decisionLength)] ++
      data.extensions.map fun entry => (entry.1, some entry.2.size))

end Lengths

section Sizes

@[simp] theorem size_string (text : String) : (Codec.string.encode text).size = stringSize text := rfl

@[simp] theorem size_u64 (n : UInt64) :
    ((Codec.integer .u64).encode n).size = naturalLength n.toNat := size_integer .u64 n

@[simp] theorem size_u32 (n : UInt32) :
    ((Codec.integer .u32).encode n).size = naturalLength n.toNat := size_integer .u32 n

@[simp] theorem size_u16 (n : UInt16) :
    ((Codec.integer .u16).encode n).size = naturalLength n.toNat := size_integer .u16 n

@[simp] theorem size_u8 (n : UInt8) :
    ((Codec.integer .u8).encode n).size = naturalLength n.toNat := size_integer .u8 n

@[simp] theorem size_i64 (n : Int64) :
    ((Codec.integer .i64).encode n).size = integerLength n.toInt := size_integer .i64 n

@[simp] theorem size_mediaKind (kind : SourceMediaKind) :
    (SourceMediaKind.codec.encode kind).size = mediaKindLength kind := by
  cases kind <;> decide

@[simp] theorem size_requestedAction (action : RequestedAction) :
    (RequestedAction.codec.encode action).size = requestedActionLength action := by
  cases action <;> decide

@[simp] theorem size_mediaId (id : BitVec 128) : (Codec.uuid.encode id).size = uuidLength :=
  size_uuid id

@[simp] theorem size_inspection (inspection : SourceInspection) :
    (SourceInspection.codec.encode inspection).size = inspectionLength inspection := by
  refine (size_record SourceInspection.fields inspection).trans ?_
  simp [SourceInspection.fields, inspectionLength]

@[simp] theorem size_download (download : SourceDownload) :
    (SourceDownload.codec.encode download).size = downloadLength download := by
  refine (size_record SourceDownload.fields download).trans ?_
  simp [SourceDownload.fields, downloadLength]

@[simp] theorem size_thumbnail (thumbnail : AssetThumbnailNormalization) :
    (AssetThumbnailNormalization.codec.encode thumbnail).size = thumbnailLength thumbnail := by
  refine (size_record AssetThumbnailNormalization.fields thumbnail).trans ?_
  simp [AssetThumbnailNormalization.fields, thumbnailLength]

@[simp] theorem size_normalization (normalization : AssetNormalization) :
    (AssetNormalization.codec.encode normalization).size = normalizationLength normalization := by
  refine (size_record AssetNormalization.fields normalization).trans ?_
  simp [AssetNormalization.fields, normalizationLength]

@[simp] theorem size_finalization (finalization : IngestFinalization) :
    (IngestFinalization.codec.encode finalization).size = finalizationLength := by
  refine (size_record IngestFinalization.fields finalization).trans ?_
  simp [IngestFinalization.fields, finalizationLength]

@[simp] theorem size_decisionKind (kind : DuplicateDecisionKind) :
    (DuplicateDecisionKind.codec.encode kind).size = stringSize "accepted" := by
  cases kind
  rfl

@[simp] theorem size_decision (decision : DuplicateDecisionData) :
    (DuplicateDecisionData.codec.encode decision).size = decisionLength decision := by
  refine (size_record DuplicateDecisionData.fields decision).trans ?_
  simp [DuplicateDecisionData.fields, decisionLength]

theorem size_source (source : IngestSourceData) : source.toValue.size = sourceLength source := by
  refine (size_present IngestSourceData.fields source source.extensions).trans ?_
  simp [IngestSourceData.fields, sourceLength]

theorem size_toValue (data : IngestData.Valid) :
    (IngestData.toValue data).size = upgradedLength data.1 := by
  refine (size_present IngestData.fields data data.1.extensions).trans ?_
  simp [IngestData.fields, IngestData.sourceField, size_source, upgradedLength]
  rfl

end Sizes

section Stored

namespace IngestData
variable {texts : ErrorTexts} {data : IngestData} {value : Json}

/-- What is written is read back as it was. -/
theorem decode_encode (written : data.encode = .ok value) : decode texts value = .ok data := by
  obtain ⟨valid, is, small⟩ := encode_ok written
  rw [is]
  exact decode_toValue ⟨data, valid⟩ small

theorem encode_eq (valid : data.validateRef = .ok ()) : data.encode =
    if upgradedLength data ≤ maxIngestDataBytes then .ok (toValue ⟨data, valid⟩)
    else .error (.tooLarge maxIngestDataBytes) := by
  rw [← size_toValue ⟨data, valid⟩]
  exact encode_valid valid

theorem encode_iff_short (valid : data.validateRef = .ok ()) :
    (∃ canonical, data.encode = .ok canonical) ↔ upgradedLength data ≤ maxIngestDataBytes := by
  rw [encode_eq valid]
  by_cases short : upgradedLength data ≤ maxIngestDataBytes
  · simp [short]
  · simp [short]

/-- A row that was read and written again is handed on as it is. -/
theorem canonicalInput_stable {canonical : Json} (read : canonicalInput texts value = .ok canonical) :
    canonicalInput texts canonical = .ok canonical := by
  obtain ⟨data, _, written⟩ := bind_ok.mp read
  rw [canonicalInput, decode_encode written, bind_ok_eq, written]

/-- Decoded data can be written, and is then read back, exactly when its envelope
    of now is not too long. -/
theorem readable_iff_short (texts : ErrorTexts) :
    (∀ data value, encode data = .ok value → decode texts value = .ok data) ∧
      ∀ value data, decode texts value = .ok data →
        ((∃ canonical, encode data = .ok canonical ∧ decode texts canonical = .ok data) ↔
          upgradedLength data ≤ maxIngestDataBytes) := by
  refine ⟨fun data value written => decode_encode written, fun value data decoded => ?_⟩
  rw [← encode_iff_short (decode_valid decoded)]
  constructor
  · rintro ⟨canonical, written, _⟩
    exact ⟨canonical, written⟩
  · rintro ⟨canonical, written⟩
    exact ⟨canonical, written, decode_encode written⟩

/-- The data of an object that only had a description. -/
def described (text : String) : IngestData :=
  new { IngestSourceData.default with description := some text }

theorem decode_description (text : String) (short : stringSize text + 16 ≤ maxIngestDataBytes) :
    decode texts (.object [("description", .string text)]) = .ok (described text) := by
  have key : stringSize "description" = 13 := by decide
  have size : (Json.object [("description", .string text)]).size = stringSize text + 16 := by
    simp only [Json.size, Json.entriesSize, List.length_singleton, key]
    omega
  rw [decode, require_met (by omega), bind_ok_eq]
  rfl

theorem short_description_is_kept :
    ∃ canonical, encode (described "film") = .ok canonical ∧
      decode ⟨id, id⟩ canonical = .ok (described "film") :=
  ((readable_iff_short ⟨id, id⟩).2 _ _ (decode_description "film" (by decide))).mpr (by decide)

theorem stringSize_replicate (n : Nat) :
    stringSize (.ofList (List.replicate n 'a')) = n + 2 := by
  have one : Json.charSize 'a' = 1 := by decide
  rw [stringSize, String.toList_ofList, List.map_replicate, one, List.sum_replicate_nat]
  omega

theorem upgradedLength_described (text : String) :
    upgradedLength (described text) = stringSize text + 39 := by
  have version : stringSize "version" = 9 := by decide
  have source : stringSize "source" = 8 := by decide
  have key : stringSize "description" = 13 := by decide
  have one : naturalLength 1 = 1 := by decide
  simp [upgradedLength, described, new, sourceLength, IngestSourceData.default, objectLength,
    ingestDataVersion, version, source, key, one]
  omega

/-- The upgraded envelope of a description that just fits is too long. -/
theorem long_description_is_lost :
    let text := String.ofList (List.replicate 262126 'a')
    decode ⟨id, id⟩ (.object [("description", .string text)]) = .ok (described text) ∧
      encode (described text) = .error (.tooLarge maxIngestDataBytes) ∧
      canonicalInput ⟨id, id⟩ (.object [("description", .string text)]) =
        .error (.tooLarge maxIngestDataBytes) := by
  intro text
  have length : stringSize text = 262128 := stringSize_replicate 262126
  have decoded : decode ⟨id, id⟩ (.object [("description", .string text)]) = .ok (described text) :=
    decode_description text (by rw [length]; decide)
  have refused : encode (described text) = .error (.tooLarge maxIngestDataBytes) := by
    rw [encode_eq (decode_valid decoded), upgradedLength_described, length]
    rfl
  refine ⟨decoded, refused, ?_⟩
  rw [canonicalInput, decoded, bind_ok_eq, refused]

end IngestData

end Stored

end Sooqa.Envelope
