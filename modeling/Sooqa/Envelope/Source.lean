import Sooqa.Envelope.Stages

/-!
The source of an ingest as it came in. Fields that are not known here are kept
as extensions beside the known ones.
-/
namespace Sooqa.Envelope
open Foundation
open Queue (SourceMediaKind)

structure IngestSourceData where
  url : Option String
  pageUrl : Option String
  pageTitle : Option String
  selectedText : Option String
  description : Option String
  tags : List String
  requestedAction : Option RequestedAction
  requestedPublishAt : Option String
  requestedPostCaption : Option String
  sourceType : Option String
  telegramUpdateId : Option Int64
  telegramChatId : Option Int64
  telegramMessageId : Option Int64
  telegramUserId : Option Int64
  telegramFileId : Option String
  telegramFileUniqueId : Option String
  telegramWorkspaceId : Option String
  fileSize : Option UInt64
  mimeType : Option String
  fileName : Option String
  mediaKind : Option SourceMediaKind
  /-- What an adapter keeps beside them. -/
  extensions : List (String × Json)

namespace IngestSourceData

/-- A source that tells nothing. -/
def default : IngestSourceData where
  url := none
  pageUrl := none
  pageTitle := none
  selectedText := none
  description := none
  tags := []
  requestedAction := none
  requestedPublishAt := none
  requestedPostCaption := none
  sourceType := none
  telegramUpdateId := none
  telegramChatId := none
  telegramMessageId := none
  telegramUserId := none
  telegramFileId := none
  telegramFileUniqueId := none
  telegramWorkspaceId := none
  fileSize := none
  mimeType := none
  fileName := none
  mediaKind := none
  extensions := []

def fields : List (RecordField IngestSourceData) :=
  [.skipped "url" .string (·.url),
    .skipped "page_url" .string (·.pageUrl),
    .skipped "page_title" .string (·.pageTitle),
    .skipped "selected_text" .string (·.selectedText),
    .skipped "description" .string (·.description),
    .listed "tags" .string (·.tags),
    .skipped "requested_action" RequestedAction.codec (·.requestedAction),
    .skipped "requested_publish_at" .string (·.requestedPublishAt),
    .skipped "requested_post_caption" .string (·.requestedPostCaption),
    .skipped "source_type" .string (·.sourceType),
    .skipped "telegram_update_id" (.integer .i64) (·.telegramUpdateId),
    .skipped "telegram_chat_id" (.integer .i64) (·.telegramChatId),
    .skipped "telegram_message_id" (.integer .i64) (·.telegramMessageId),
    .skipped "telegram_user_id" (.integer .i64) (·.telegramUserId),
    .skipped "telegram_file_id" .string (·.telegramFileId),
    .skipped "telegram_file_unique_id" .string (·.telegramFileUniqueId),
    .skipped "telegram_workspace_id" .string (·.telegramWorkspaceId),
    .skipped "file_size" (.integer .u64) (·.fileSize),
    .skipped "mime_type" .string (·.mimeType),
    .skipped "file_name" .string (·.fileName),
    .skipped "media_kind" SourceMediaKind.codec (·.mediaKind)]

def toValue (source : IngestSourceData) : Json := .object (present fields source ++ source.extensions)

def read (entries : List (String × Json)) : Except DecodeError IngestSourceData := do
  let url ← readOptional .string "url" entries
  let pageUrl ← readOptional .string "page_url" entries
  let pageTitle ← readOptional .string "page_title" entries
  let selectedText ← readOptional .string "selected_text" entries
  let description ← readOptional .string "description" entries
  let tags ← readListed .string "tags" entries
  let requestedAction ← readOptional RequestedAction.codec "requested_action" entries
  let requestedPublishAt ← readOptional .string "requested_publish_at" entries
  let requestedPostCaption ← readOptional .string "requested_post_caption" entries
  let sourceType ← readOptional .string "source_type" entries
  let telegramUpdateId ← readOptional (.integer .i64) "telegram_update_id" entries
  let telegramChatId ← readOptional (.integer .i64) "telegram_chat_id" entries
  let telegramMessageId ← readOptional (.integer .i64) "telegram_message_id" entries
  let telegramUserId ← readOptional (.integer .i64) "telegram_user_id" entries
  let telegramFileId ← readOptional .string "telegram_file_id" entries
  let telegramFileUniqueId ← readOptional .string "telegram_file_unique_id" entries
  let telegramWorkspaceId ← readOptional .string "telegram_workspace_id" entries
  let fileSize ← readOptional (.integer .u64) "file_size" entries
  let mimeType ← readOptional .string "mime_type" entries
  let fileName ← readOptional .string "file_name" entries
  let mediaKind ← readOptional SourceMediaKind.codec "media_kind" entries
  return {
    url := url
    pageUrl := pageUrl
    pageTitle := pageTitle
    selectedText := selectedText
    description := description
    tags := tags
    requestedAction := requestedAction
    requestedPublishAt := requestedPublishAt
    requestedPostCaption := requestedPostCaption
    sourceType := sourceType
    telegramUpdateId := telegramUpdateId
    telegramChatId := telegramChatId
    telegramMessageId := telegramMessageId
    telegramUserId := telegramUserId
    telegramFileId := telegramFileId
    telegramFileUniqueId := telegramFileUniqueId
    telegramWorkspaceId := telegramWorkspaceId
    fileSize := fileSize
    mimeType := mimeType
    fileName := fileName
    mediaKind := mediaKind
    extensions := others fields entries }

/-- Fields are flattened into the object, which no array can stand for. -/
def fromValue : Json → Except DecodeError IngestSourceData
  | .object entries => do
    visit fields entries
    read entries
  | other => .error (.invalidType other "struct IngestSourceData")

/-- What is kept beside the fields has other names. -/
def Separate (source : IngestSourceData) : Prop := Apart fields source.extensions

theorem separate_iff {source : IngestSourceData} :
    source.Separate ↔ ∀ entry ∈ source.extensions, entry.1 ∉ fields.map (·.name) :=
  ⟨fun apart => apart.extensions, fun extensions => ⟨by decide, extensions⟩⟩

theorem read_present {source : IngestSourceData} (apart : source.Separate) :
    read (present fields source ++ source.extensions) = .ok source := by
  unfold read
  rw [readOptional_skipped apart 0 rfl, bind_ok_eq,
    readOptional_skipped apart 1 rfl, bind_ok_eq,
    readOptional_skipped apart 2 rfl, bind_ok_eq,
    readOptional_skipped apart 3 rfl, bind_ok_eq,
    readOptional_skipped apart 4 rfl, bind_ok_eq,
    readListed_present apart 5 rfl, bind_ok_eq,
    readOptional_skipped apart 6 rfl, bind_ok_eq,
    readOptional_skipped apart 7 rfl, bind_ok_eq,
    readOptional_skipped apart 8 rfl, bind_ok_eq,
    readOptional_skipped apart 9 rfl, bind_ok_eq,
    readOptional_skipped apart 10 rfl, bind_ok_eq,
    readOptional_skipped apart 11 rfl, bind_ok_eq,
    readOptional_skipped apart 12 rfl, bind_ok_eq,
    readOptional_skipped apart 13 rfl, bind_ok_eq,
    readOptional_skipped apart 14 rfl, bind_ok_eq,
    readOptional_skipped apart 15 rfl, bind_ok_eq,
    readOptional_skipped apart 16 rfl, bind_ok_eq,
    readOptional_skipped apart 17 rfl, bind_ok_eq,
    readOptional_skipped apart 18 rfl, bind_ok_eq,
    readOptional_skipped apart 19 rfl, bind_ok_eq,
    readOptional_skipped apart 20 rfl, bind_ok_eq,
    others_present apart]
  rfl

/-- A source that is written is read back. -/
theorem fromValue_toValue {source : IngestSourceData} (apart : source.Separate) :
    fromValue source.toValue = .ok source := by
  rw [toValue, fromValue, visit_present apart, bind_ok_eq]
  exact read_present apart

end IngestSourceData

end Sooqa.Envelope
