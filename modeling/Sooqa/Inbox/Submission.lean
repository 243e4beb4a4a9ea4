import Sooqa.Inbox.Repository

/-!
Submissions before they reach the store: what the two constructors accept, and
the request hash over the wire shape that older rows were hashed with. The URL
grammar, the JSON text, the digest and the envelope reader are parameters;
nothing here depends on what they answer.
-/
namespace Sooqa.Inbox.Submission
open Foundation Queue

inductive Json where
  | null
  | number (value : Int)
  | string (value : String)
  | array (items : List Json)
  | object (fields : List (String × Json))

def Json.ofOption {α : Type} (encode : α → Json) : Option α → Json
  | some value => encode value
  | none => .null

inductive SubmittedVia where
  | api | companion | telegramBot
  deriving DecidableEq, Repr

/-- The submission with every field the hash covers; the store keeps what
    `Inbox.IngestSubmission` holds of it. -/
structure IngestSubmission where
  kind : IngestKind
  submittedVia : SubmittedVia
  originalUrl : String
  normalizedUrl : String
  originalInput : Json
  pageUrl : Option String
  pageTitle : Option String
  suppliedCaption : Option String
  suppliedDescription : Option String
  suppliedTags : List String
  requestedAction : RequestedAction
  requestedPublishAt : Option Time
  requestedPostCaption : Option String
  idempotencyKey : Option String

/-- The shape that is hashed: the submission and a field no longer used. -/
structure LegacyIngestSubmission where
  kind : IngestKind
  submittedVia : SubmittedVia
  submittedByAdminId : Option Uuid
  originalUrl : String
  normalizedUrl : String
  originalInput : Json
  pageUrl : Option String
  pageTitle : Option String
  suppliedCaption : Option String
  suppliedDescription : Option String
  suppliedTags : List String
  requestedAction : RequestedAction
  requestedPublishAt : Option Time
  requestedPostCaption : Option String
  idempotencyKey : Option String

/-- The source fields of an envelope that creation reads. -/
structure IngestSourceData where
  telegramWorkspaceId : Option Uuid
  mimeType : Option String
  fileName : Option String
  mediaKind : Option SourceMediaKind
  deriving DecidableEq, Repr

inductive IngestValidationError where
  | emptyUrl (field : String)
  | invalidUrl (field : String)
  | unsupportedScheme (field : String)
  | missingHost (field : String)
  | credentialsNotAllowed (field : String)
  | emptyIdempotencyKey
  | idempotencyKeyTooLong
  | invalidInputEnvelope (error : String)
  | emptyTag
  | requestedPublishAtForbidden
  | requestedPublishAtForbiddenForPostNow
  | requestedPublishAtNotFuture
  | requestedPostCaptionForbidden
  | requestedPostCaptionTooLong (max : Nat)
  | requestedPostCaptionControlCharacter
  deriving DecidableEq, Repr

structure Libraries where
  normalizeUrl : String → String → Except IngestValidationError String
  formatRfc3339 : Time → String
  toVec : LegacyIngestSubmission → List UInt8
  sha256 : List UInt8 → String
  /-- `IngestData::decode`. -/
  decode : Json → Except String IngestSourceData
  /-- `IngestData::decode`, then `encode`: the envelope a row keeps. -/
  canonical : Json → Except String Json

section Hash

def legacyShape (submission : IngestSubmission) : LegacyIngestSubmission where
  kind := submission.kind
  submittedVia := submission.submittedVia
  submittedByAdminId := none
  originalUrl := submission.originalUrl
  normalizedUrl := submission.normalizedUrl
  originalInput := submission.originalInput
  pageUrl := submission.pageUrl
  pageTitle := submission.pageTitle
  suppliedCaption := submission.suppliedCaption
  suppliedDescription := submission.suppliedDescription
  suppliedTags := submission.suppliedTags
  requestedAction := submission.requestedAction
  requestedPublishAt := submission.requestedPublishAt
  requestedPostCaption := submission.requestedPostCaption
  idempotencyKey := submission.idempotencyKey

variable (libraries : Libraries)

def IngestSubmission.requestHash (submission : IngestSubmission) : String :=
  libraries.sha256 (libraries.toVec (legacyShape submission))

def IngestSubmission.inputKey (submission : IngestSubmission) : String :=
  submission.idempotencyKey.getD
    (IngestKind.asStr submission.kind ++ ":" ++ submission.normalizedUrl)

/-- The legacy shape forgets nothing of a submission. -/
theorem legacyShape_injective : Function.Injective legacyShape := by
  intro submission submission' same
  cases submission
  cases submission'
  simp only [legacyShape, LegacyIngestSubmission.mk.injEq] at same
  simp only [IngestSubmission.mk.injEq]
  obtain ⟨kind, via, -, rest⟩ := same
  exact ⟨kind, via, rest⟩

/-- SHA-256 does not collide on the inputs, and the JSON text of a shape
    determines it. -/
structure Libraries.CollisionFree (libraries : Libraries) : Prop where
  toVec : Function.Injective libraries.toVec
  sha256 : ∀ shape shape', libraries.sha256 (libraries.toVec shape) =
    libraries.sha256 (libraries.toVec shape') → libraries.toVec shape = libraries.toVec shape'

theorem requestHash_injective (free : libraries.CollisionFree)
    {submission submission' : IngestSubmission}
    (same : submission.requestHash libraries = submission'.requestHash libraries) :
    submission = submission' :=
  legacyShape_injective (free.toVec (free.sha256 _ _ same))

/-- What the store keeps of a submission, if its envelope can be read; the
    workspace is looked up in the envelope as kept. -/
def IngestSubmission.stored (submission : IngestSubmission) :
    Except String Inbox.IngestSubmission := do
  let envelope ← libraries.canonical submission.originalInput
  let source ← libraries.decode envelope
  pure {
    kind := submission.kind
    normalizedUrl := submission.normalizedUrl
    telegramWorkspaceId := source.telegramWorkspaceId
    mimeType := source.mimeType
    fileName := source.fileName
    mediaKind := source.mediaKind
    suppliedDescription := submission.suppliedDescription
    suppliedTags := submission.suppliedTags
    requestedAction := submission.requestedAction
    requestedPublishAt := submission.requestedPublishAt
    requestedPostCaption := submission.requestedPostCaption
    idempotencyKey := submission.idempotencyKey
    requestHash := submission.requestHash libraries }

theorem stored_ok {submission : IngestSubmission} {kept : Inbox.IngestSubmission}
    (h : submission.stored libraries = .ok kept) :
    kept.inputKey = submission.inputKey ∧ kept.requestHash = submission.requestHash libraries ∧
      kept.kind = submission.kind := by
  simp only [IngestSubmission.stored, bind_ok, pure_ok] at h
  obtain ⟨envelope, -, source, -, rfl⟩ := h
  exact ⟨rfl, rfl, rfl⟩

end Hash

section Construction

def maxIdempotencyKeyLength : Nat := 255
def maxRequestedPostCaptionLength : Nat := 1024

def normalizeIdempotencyKey : Option String → Except IngestValidationError (Option String)
  | none => .ok none
  | some value =>
    let value := Publisher.trim value
    if value.toList.isEmpty then .error .emptyIdempotencyKey
    else if maxIdempotencyKeyLength < value.toList.length then .error .idempotencyKeyTooLong
    else .ok (some value)

def normalizeOptionalText (value : Option String) : Option String :=
  (value.map Publisher.trim).filter (fun value => !value.toList.isEmpty)

/-- Tags trimmed and lowercased, each kept where it stands first. -/
def normalizeTags : List String → List String → Except IngestValidationError (List String)
  | kept, [] => .ok kept
  | kept, tag :: rest =>
    let tag := asciiLower (Publisher.trim tag)
    if tag.toList.isEmpty then .error .emptyTag
    else normalizeTags (if tag ∈ kept then kept else kept ++ [tag]) rest

def validateCaption : Option String → Except IngestValidationError Unit
  | none => .ok ()
  | some caption => do
    require (caption.toList.length ≤ maxRequestedPostCaptionLength)
      (.requestedPostCaptionTooLong maxRequestedPostCaptionLength)
    require (caption.toList.all (fun c => !Publisher.isControl c || c ∈ ['\n', '\r', '\t']) = true)
      .requestedPostCaptionControlCharacter

def validateRequestedIntent (action : RequestedAction) (requestedPublishAt : Option Time)
    (requestedPostCaption : Option String) (freshAt : Option Time) :
    Except IngestValidationError Unit := do
  validateCaption requestedPostCaption
  match action with
  | .save =>
    require (requestedPublishAt = none) .requestedPublishAtForbidden
    require (requestedPostCaption = none) .requestedPostCaptionForbidden
  | .queue =>
    require (¬ ∃ now ∈ freshAt, ∃ publishAt ∈ requestedPublishAt, publishAt ≤ now)
      .requestedPublishAtNotFuture
  | .postNow => require (requestedPublishAt = none) .requestedPublishAtForbiddenForPostNow

def RequestedAction.asStr : RequestedAction → String
  | .save => "save"
  | .queue => "queue"
  | .postNow => "post_now"

structure IngestSubmissionInput where
  sourceUrl : String
  submittedVia : SubmittedVia
  pageUrl : Option String := none
  pageTitle : Option String := none
  suppliedCaption : Option String := none
  suppliedDescription : Option String := none
  suppliedTags : List String := []
  requestedAction : RequestedAction := .save
  requestedPublishAt : Option Time := none
  requestedPostCaption : Option String := none
  idempotencyKey : Option String := none

variable (libraries : Libraries)

/-- The time stands for `enforce_publish_time_freshness` with the clock. -/
def tryNewInner (input : IngestSubmissionInput) (freshAt : Option Time) :
    Except IngestValidationError IngestSubmission := do
  let originalUrl := Publisher.trim input.sourceUrl
  let normalizedUrl ← libraries.normalizeUrl originalUrl "source URL"
  let pageUrl ← input.pageUrl.mapM (fun value => libraries.normalizeUrl value "page URL")
  let idempotencyKey ← normalizeIdempotencyKey input.idempotencyKey
  let suppliedTags ← normalizeTags [] input.suppliedTags
  let pageTitle := normalizeOptionalText input.pageTitle
  let suppliedCaption := normalizeOptionalText input.suppliedCaption
  let suppliedDescription := normalizeOptionalText input.suppliedDescription
  let requestedPostCaption := normalizeOptionalText input.requestedPostCaption
  validateRequestedIntent input.requestedAction input.requestedPublishAt requestedPostCaption
    freshAt
  pure {
    kind := .url
    submittedVia := input.submittedVia
    originalUrl
    normalizedUrl
    originalInput := .object [
      ("url", .string originalUrl),
      ("page_url", .ofOption .string pageUrl),
      ("page_title", .ofOption .string pageTitle),
      ("selected_text", .ofOption .string suppliedCaption),
      ("description", .ofOption .string suppliedDescription),
      ("tags", .array (suppliedTags.map .string)),
      ("requested_action", .string (RequestedAction.asStr input.requestedAction)),
      ("requested_publish_at",
        .ofOption .string (input.requestedPublishAt.map libraries.formatRfc3339)),
      ("requested_post_caption", .ofOption .string requestedPostCaption)]
    pageUrl
    pageTitle
    suppliedCaption
    suppliedDescription
    suppliedTags
    requestedAction := input.requestedAction
    requestedPublishAt := input.requestedPublishAt
    requestedPostCaption
    idempotencyKey }

def tryNew (now : Time) (input : IngestSubmissionInput) :
    Except IngestValidationError IngestSubmission :=
  tryNewInner libraries input (some now)

def tryNewForIdempotencyLookup (input : IngestSubmissionInput) :
    Except IngestValidationError IngestSubmission :=
  tryNewInner libraries input none

structure TelegramSubmissionInput where
  sourceReference : String
  submittedVia : SubmittedVia
  originalInput : Json
  suppliedCaption : Option String
  idempotencyKey : Option String

def tryNewTelegram (input : TelegramSubmissionInput) :
    Except IngestValidationError IngestSubmission := do
  let sourceReference := Publisher.trim input.sourceReference
  require (sourceReference.toList.isEmpty = false) (.emptyUrl "Telegram source reference")
  let idempotencyKey ← normalizeIdempotencyKey input.idempotencyKey
  let _ ← (libraries.decode input.originalInput).mapError .invalidInputEnvelope
  pure {
    kind := .telegramMessage
    submittedVia := input.submittedVia
    originalUrl := sourceReference
    normalizedUrl := sourceReference
    originalInput := input.originalInput
    pageUrl := none
    pageTitle := none
    suppliedCaption := normalizeOptionalText input.suppliedCaption
    suppliedDescription := none
    suppliedTags := []
    requestedAction := .save
    requestedPublishAt := none
    requestedPostCaption := none
    idempotencyKey }

/-- Nothing but the freshness of a requested time depends on the clock. -/
theorem tryNew_of_save {now now' : Time} {input : IngestSubmissionInput}
    (save : input.requestedAction = .save) :
    tryNew libraries now input = tryNew libraries now' input := by
  simp only [tryNew, tryNewInner, validateRequestedIntent, save]

end Construction

end Sooqa.Inbox.Submission
