import Sooqa.Envelope.Probe
import Sooqa.Envelope.Source

/-!
The versioned envelope of an ingest, and the upgrade of the objects that were
written before there was one.
-/
namespace Sooqa.Envelope
open Foundation
open Queue (SourceMediaKind)

def ingestDataVersion : UInt16 := 1

def maxIngestDataBytes : Nat := 256 * 1024

def duplicateDecisionMarkerKey : String := "_sooqa_duplicate_decision_v1"

def duplicateDecisionVersion : UInt8 := 1

section Model

structure IngestData where
  version : UInt16
  source : IngestSourceData
  inspection : Option SourceInspection
  download : Option SourceDownload
  probe : Option IngestProbe
  probedMediaKind : Option SourceMediaKind
  normalization : Option AssetNormalization
  finalization : Option IngestFinalization
  duplicateDecision : Option DuplicateDecisionData
  /-- What a newer envelope holds beside them. -/
  extensions : List (String × Json)

inductive IngestDataError where
  | notAnObject
  | invalidVersion
  | unsupportedVersion (version : UInt64)
  | malformed (message : String)
  | tooLarge (limit : Nat)
  deriving DecidableEq, Repr

def isEnvelopeKey (key : String) : Bool :=
  key ∈ ["version", "source", "inspection", "download", "probe", "probed_media_kind",
    "normalization", "finalization", duplicateDecisionMarkerKey]

def isSourceKey (key : String) : Bool :=
  key ∈ ["url", "page_url", "page_title", "selected_text", "description", "tags",
    "requested_action", "requested_publish_at", "requested_post_caption", "source_type",
    "telegram_update_id", "telegram_chat_id", "telegram_message_id", "telegram_user_id",
    "telegram_file_id", "telegram_file_unique_id", "telegram_workspace_id", "file_size",
    "mime_type", "file_name", "media_kind"]

def validateExtensions (extensions : List (String × Json)) (scope : String) :
    Except IngestDataError Unit :=
  match extensions.find? fun entry =>
    if scope == "source" then isSourceKey entry.1 else isEnvelopeKey entry.1 with
  | some (key, _) => .error (.malformed s!"{scope} extension uses reserved key `{key}`")
  | none => .ok ()

namespace IngestData

def new (source : IngestSourceData) : IngestData where
  version := ingestDataVersion
  source := source
  inspection := none
  download := none
  probe := none
  probedMediaKind := none
  normalization := none
  finalization := none
  duplicateDecision := none
  extensions := []

def validateRef (data : IngestData) : Except IngestDataError Unit := do
  require (data.version = ingestDataVersion) (.unsupportedVersion data.version.toUInt64)
  validateExtensions data.source.extensions "source"
  validateExtensions data.extensions "envelope"
  validateSome (fun decision => require (decision.version = duplicateDecisionVersion)
    (.malformed s!"duplicate decision marker version {decision.version.toNat} is not supported"))
    data.duplicateDecision
  validateSome (fun probe => require (probe.value.isObject = true)
    (.malformed "probe must be a JSON object")) data.probe

def validate (data : IngestData) : Except IngestDataError IngestData := do
  data.validateRef
  return data

/-- The data that can be written. -/
abbrev Valid : Type := { data : IngestData // data.validateRef = .ok () }

end IngestData

end Model

section Validity
variable {data : IngestData}

theorem validateExtensions_ok {extensions : List (String × Json)} {scope : String} :
    validateExtensions extensions scope = .ok () ↔ ∀ entry ∈ extensions,
      (if scope == "source" then isSourceKey entry.1 else isEnvelopeKey entry.1) = false := by
  unfold validateExtensions
  split
  · rename_i key value found
    have reserved := List.find?_some found
    have member := List.mem_of_find?_eq_some found
    simp only [reduceCtorEq, false_iff]
    intro all
    rw [all _ member] at reserved
    cases reserved
  · rename_i absent
    simpa using List.find?_eq_none.mp absent

/-- Everything that valid data has passed. -/
theorem IngestData.validateRef_ok (valid : data.validateRef = .ok ()) :
    data.version = ingestDataVersion ∧ data.source.Separate ∧
      (∀ entry ∈ data.extensions, isEnvelopeKey entry.1 = false) ∧
      ∀ probe, data.probe = some probe → probe.value.isObject = true := by
  simp only [validateRef, bind_ok, require_ok, exists_const] at valid
  obtain ⟨version, _, source, _, envelope, _, _, probe⟩ := valid
  refine ⟨version, ?_, ?_, ?_⟩
  · rw [IngestSourceData.separate_iff]
    intro entry member
    have free := validateExtensions_ok.mp source entry member
    simpa [isSourceKey, IngestSourceData.fields, RecordField.skipped, RecordField.listed] using free
  · intro entry member
    simpa using validateExtensions_ok.mp envelope entry member
  · intro document is
    rw [is] at probe
    exact require_ok.mp probe

end Validity

section Documents
variable (texts : ErrorTexts)

namespace IngestData

def sourceField : RecordField Valid where
  name := "source"
  put := fun data => some data.1.source.toValue
  check := fun value => (IngestSourceData.fromValue value).map fun _ => ()
  sound := fun data _ is => by
    have separate := (validateRef_ok data.2).2.1
    rw [← Option.some.inj is, IngestSourceData.fromValue_toValue separate]
    rfl

def fields : List (RecordField Valid) :=
  [.required "version" (.integer .u16) (·.1.version),
    sourceField,
    .skipped "inspection" SourceInspection.codec (·.1.inspection),
    .skipped "download" SourceDownload.codec (·.1.download),
    .skippedDocument "probe" (fun data => data.1.probe.map (·.value)),
    .skipped "probed_media_kind" SourceMediaKind.codec (·.1.probedMediaKind),
    .skipped "normalization" AssetNormalization.codec (·.1.normalization),
    .skipped "finalization" IngestFinalization.codec (·.1.finalization),
    .skipped duplicateDecisionMarkerKey DuplicateDecisionData.codec (·.1.duplicateDecision)]

def toValue (data : Valid) : Json := .object (present fields data ++ data.1.extensions)

def readSource (entries : List (String × Json)) : Except DecodeError IngestSourceData :=
  match entries.lookup "source" with
  | some value => IngestSourceData.fromValue value
  | none => .error (.missingField "source")

def read (entries : List (String × Json)) : Except DecodeError IngestData := do
  let version ← readRequired (.integer .u16) "version" entries
  let source ← readSource entries
  let inspection ← readOptional SourceInspection.codec "inspection" entries
  let download ← readOptional SourceDownload.codec "download" entries
  let probedMediaKind ← readOptional SourceMediaKind.codec "probed_media_kind" entries
  let normalization ← readOptional AssetNormalization.codec "normalization" entries
  let finalization ← readOptional IngestFinalization.codec "finalization" entries
  let duplicateDecision ←
    readOptional DuplicateDecisionData.codec duplicateDecisionMarkerKey entries
  return {
    version := version
    source := source
    inspection := inspection
    download := download
    probe := (readOptionalDocument "probe" entries).map IngestProbe.mk
    probedMediaKind := probedMediaKind
    normalization := normalization
    finalization := finalization
    duplicateDecision := duplicateDecision
    extensions := others fields entries }

def fromValue : Json → Except DecodeError IngestData
  | .object entries => do
    visit fields entries
    read entries
  | other => .error (.invalidType other "struct IngestData")

end IngestData

/-- The stages of an object that has no version. A stage that is there is not
    null. -/
def decodeOptionalStage {α : Type} (object : List (String × Json)) (key : String)
    (decode : Json → Except DecodeError α) : Except IngestDataError (Option α) :=
  match object.lookup key with
  | some value =>
    match decode value with
    | .ok a => .ok (some a)
    | .error error => .error (.malformed s!"{key}: {error.text texts}")
  | none => .ok none

/-- An inspection that lacks fields is completed from what it has and from the
    source. -/
def decodeLegacyInspection (value : Json) (source : IngestSourceData) :
    Except IngestDataError SourceInspection :=
  match SourceInspection.codec.decode value with
  | .ok inspection => .ok inspection
  | .error error =>
    if value.isObject ∧ containsText (error.text texts) "missing field" then
      .ok {
        adapter := ((value.get "adapter").bind Json.asStr).getD "legacy"
        sourceUrl := (((value.get "source_url").bind Json.asStr).or source.url).getD ""
        resolvedUrl := (value.get "resolved_url").bind Json.asStr
        mediaKind := ((value.get "media_kind").bind fun value =>
          (SourceMediaKind.codec.decode value).toOption).getD .unknown
        mimeType := (value.get "mime_type").bind Json.asStr
        contentLengthBytes := (value.get "content_length_bytes").bind Json.asU64
        title := (value.get "title").bind Json.asStr
        metadata := (value.get "metadata").getD (.object []) }
    else .error (.malformed s!"inspection: {error.text texts}")

namespace IngestData

def decodeLegacy (object : List (String × Json)) : Except IngestDataError IngestData := do
  let (sourceValue, stageValues, wrappedSource) ← (match object.lookup "source" with
    | some source =>
      let stages := object.filter (·.1 != "source")
      match source with
      | .object source => .ok (source, stages, true)
      | .string source => .ok ([("url", .string source)], stages, true)
      | _ => .error (.malformed "legacy source field must be an object or URL string")
    | none =>
      let source := object.filter fun entry =>
        entry.1 ∉ ["inspection", "download", "probe", "probed_media_kind", "normalization",
          "finalization", duplicateDecisionMarkerKey]
      .ok (source, object, false))
  let source ← (IngestSourceData.fromValue (.object sourceValue)).mapError fun error =>
    IngestDataError.malformed s!"legacy source: {error.text texts}"
  let inspection ← (match stageValues.lookup "inspection" with
    | some value => (decodeLegacyInspection texts value source).map some
    | none => .ok none)
  let download ← decodeOptionalStage texts stageValues "download" SourceDownload.codec.decode
  let probe ← decodeOptionalStage texts stageValues "probe" fun value => .ok (IngestProbe.mk value)
  let probedMediaKind ←
    decodeOptionalStage texts stageValues "probed_media_kind" SourceMediaKind.codec.decode
  let normalization ←
    decodeOptionalStage texts stageValues "normalization" AssetNormalization.codec.decode
  let finalization ←
    decodeOptionalStage texts stageValues "finalization" IngestFinalization.codec.decode
  let duplicateDecision ← decodeOptionalStage texts stageValues duplicateDecisionMarkerKey
    DuplicateDecisionData.codec.decode
  validate {
    new source with
    inspection := inspection
    download := download
    probe := probe
    probedMediaKind := probedMediaKind
    normalization := normalization
    finalization := finalization
    duplicateDecision := duplicateDecision
    extensions := if wrappedSource then stageValues.filter (!isEnvelopeKey ·.1) else [] }

def decode (value : Json) : Except IngestDataError IngestData := do
  require (value.size ≤ maxIngestDataBytes) (.tooLarge maxIngestDataBytes)
  let object ← expect value.asObject .notAnObject
  match object.lookup "version" with
  | some version =>
    let version ← expect version.asU64 .invalidVersion
    require (version = ingestDataVersion.toUInt64) (.unsupportedVersion version)
    let data ← (fromValue value).mapError fun error =>
      let field :=
        if (object.lookup "inspection").isSome then " inspection"
        else if (object.lookup duplicateDecisionMarkerKey).isSome then " duplicate decision"
        else ""
      IngestDataError.malformed s!"versioned envelope{field}: {error.text texts}"
    data.validate
  | none => decodeLegacy texts object

def encode (data : IngestData) : Except IngestDataError Json :=
  match valid : data.validateRef with
  | .error error => .error error
  | .ok () =>
    let value := toValue ⟨data, valid⟩
    if value.size ≤ maxIngestDataBytes then .ok value else .error (.tooLarge maxIngestDataBytes)

/-- The input of a row as it is handed on. -/
def canonicalInput (value : Json) : Except IngestDataError Json := do
  let data ← decode texts value
  data.encode

end IngestData

end Documents

section RoundTrip
variable {texts : ErrorTexts} {data : IngestData} {value : Json}

namespace IngestData

theorem apart (data : Valid) : Apart fields data.1.extensions where
  names := by decide
  extensions := fun entry member => by
    have free := (validateRef_ok data.2).2.2.1 entry member
    simpa [isEnvelopeKey, fields, sourceField, RecordField.required, RecordField.skipped,
      RecordField.skippedDocument] using free

theorem readSource_present (data : Valid) :
    readSource (present fields data ++ data.1.extensions) = .ok data.1.source := by
  have found := lookup_present (apart data) (List.mem_of_getElem? (i := 1) rfl) data
  simp only [sourceField] at found
  rw [readSource, found]
  exact IngestSourceData.fromValue_toValue (validateRef_ok data.2).2.1

theorem readProbe_present (data : Valid) :
    readOptionalDocument "probe" (present fields data ++ data.1.extensions) =
      data.1.probe.map (·.value) := by
  refine readOptionalDocument_present (apart data) 4 rfl data ?_
  intro null
  obtain ⟨document, is, empty⟩ := Option.map_eq_some_iff.mp null
  have object := (validateRef_ok data.2).2.2.2 document is
  rw [empty] at object
  cases object

theorem read_present (data : Valid) :
    read (present fields data ++ data.1.extensions) = .ok data.1 := by
  unfold read
  rw [readRequired_present (apart data) 0 rfl, bind_ok_eq,
    readSource_present, bind_ok_eq,
    readOptional_skipped (apart data) 2 rfl, bind_ok_eq,
    readOptional_skipped (apart data) 3 rfl, bind_ok_eq,
    readOptional_skipped (apart data) 5 rfl, bind_ok_eq,
    readOptional_skipped (apart data) 6 rfl, bind_ok_eq,
    readOptional_skipped (apart data) 7 rfl, bind_ok_eq,
    readOptional_skipped (apart data) 8 rfl, bind_ok_eq,
    readProbe_present, Option.map_map, others_present (apart data)]
  exact congrArg Except.ok (congrArg (fun probe => { data.1 with probe := probe })
    Option.map_id')

theorem fromValue_toValue (data : Valid) : fromValue (toValue data) = .ok data.1 := by
  rw [toValue, fromValue, visit_present (apart data), bind_ok_eq]
  exact read_present data

theorem validate_ok {d : IngestData} :
    data.validate = .ok d ↔ data.validateRef = .ok () ∧ data = d := by
  simp only [validate, bind_ok, pure_ok, exists_and_right]
  exact and_congr_left fun _ => ⟨fun ⟨_, valid⟩ => valid, fun valid => ⟨(), valid⟩⟩

/-- Decoded data is valid. -/
theorem decode_valid (decoded : decode texts value = .ok data) : data.validateRef = .ok () := by
  simp only [decode, bind_ok, require_ok, exists_const] at decoded
  obtain ⟨_, object, _, decoded⟩ := decoded
  split at decoded
  · simp only [bind_ok, validate_ok] at decoded
    obtain ⟨_, _, _, _, _, _, valid, same⟩ := decoded
    exact same ▸ valid
  · simp only [decodeLegacy, bind_ok, validate_ok] at decoded
    obtain ⟨_, _, _, _, _, _, _, _, _, _, _, _, _, _, _, _, _, _, valid, same⟩ := decoded
    exact same ▸ valid

theorem version_asU64 :
    ((Codec.integer .u16).encode ingestDataVersion).asU64 = some ingestDataVersion.toUInt64 := rfl

/-- What is written within the limit is read back. -/
theorem decode_toValue (data : Valid) (small : (toValue data).size ≤ maxIngestDataBytes) :
    decode texts (toValue data) = .ok data.1 := by
  have version := lookup_present (apart data) (List.mem_of_getElem? (i := 0) rfl) data
  simp only [RecordField.required, (validateRef_ok data.2).1] at version
  have read := fromValue_toValue data
  have valid : data.1.validate = .ok data.1 := validate_ok.mpr ⟨data.2, rfl⟩
  rw [decode, require_met small, bind_ok_eq]
  rw [toValue] at read ⊢
  simp only [Json.asObject, expect, bind_ok_eq, version, version_asU64, read]
  rw [require_met trivial, bind_ok_eq]
  exact valid

theorem encode_valid (valid : data.validateRef = .ok ()) : data.encode =
    if (toValue ⟨data, valid⟩).size ≤ maxIngestDataBytes then .ok (toValue ⟨data, valid⟩)
    else .error (.tooLarge maxIngestDataBytes) := by
  unfold encode
  split
  · rename_i error invalid
    rw [valid] at invalid
    cases invalid
  · rfl

/-- What is written is valid and within the limit. -/
theorem encode_ok (written : data.encode = .ok value) :
    ∃ valid, value = toValue ⟨data, valid⟩ ∧ (toValue ⟨data, valid⟩).size ≤ maxIngestDataBytes := by
  have valid : data.validateRef = .ok () := by
    unfold encode at written
    split at written
    · cases written
    · assumption
  rw [encode_valid valid] at written
  split at written
  · rename_i small
    cases written
    exact ⟨valid, rfl, small⟩
  · cases written

end IngestData

end RoundTrip

end Sooqa.Envelope
