import Sooqa.Library.Storage
import Sooqa.Publisher.Repository

/-!
Storage captions. The stored message of a media shows its description, tags
and source; a change of them opens the next caption generation and a job to
edit the message. A worker claims the edit of one generation with its lease
token and reports how it went.
-/
namespace Sooqa.Captions
open Foundation Queue Library

section Text

def maxStorageCaptionChars : Nat := 1024
def maxStorageCaptionTags : Nat := 32

def truncateChars (value : String) (maxChars : Nat) : String :=
  String.ofList (value.toList.take maxChars)

def cleanCaptionValue (value : String) (maxChars : Nat) : String :=
  Publisher.trim (truncateChars
    (String.ofList (value.toList.map (fun c => if Publisher.isControl c then ' ' else c))) maxChars)

/-- A line of the caption, unless its value is empty. -/
def captionLine (label value : String) : List String :=
  if value.toList.isEmpty then [] else [label ++ value]

def storageCaption (metadata : StorageCaptionMetadata) : String :=
  let description := metadata.description.elim []
    (fun value => captionLine "description: " (cleanCaptionValue value 512))
  let tags := captionLine "tags: " (", ".intercalate
    (((metadata.tags.take maxStorageCaptionTags).map (cleanCaptionValue · 64)).filter
      (fun tag => !tag.toList.isEmpty)))
  let source := metadata.sourceUrl.elim []
    (fun value => captionLine "source: " (cleanCaptionValue value 512))
  let caption := "\n".intercalate (description ++ tags ++ source)
  if caption.toList.isEmpty then "sooqa" else truncateChars caption maxStorageCaptionChars

end Text

section Edits

/-- An operator's edit, its tags normalized already. -/
structure MediaUpdate where
  description : Option String
  tags : List String
  expectedUpdatedAt : Time
  deriving DecidableEq, Repr

def updateMedia (db : Db) (id : Uuid) (update : MediaUpdate) : Except Error (Db × Media) := do
  let current ← lockMedia db id
  require (current.updatedAt = update.expectedUpdatedAt) (.optimisticConflict id)
  let captionChanged := update.description != current.description || update.tags != current.tags
  let captioned ← nextCaptionSyncValues id current captionChanged
  let updated := { captioned with
    description := update.description
    tags := update.tags
    updatedAt := db.now }
  pure (enqueueCaptionSyncIfPending (setMedia db id updated) id updated captionChanged, updated)

/-- A failed row with its edit opened again under the next generation. -/
def retriedCaption (now : Time) (row : Media) : Media :=
  { row with
    captionSyncGeneration := row.captionSyncGeneration + 1
    captionSyncState := .pending
    captionSyncError := none
    captionSyncClaimToken := none
    updatedAt := now }

def retryCaptionSync (db : Db) (id : Uuid) : Except Error (Db × Media) := do
  let row ← lockMedia db id
  require (hasStorageMessage row = true) (.captionSyncUnavailable id)
  if row.captionSyncState ≠ .failed then pure (db, row)
  else
    require (row.captionSyncGeneration < maxInteger) (.captionSyncGenerationOverflow id)
    let retried := retriedCaption db.now row
    pure (enqueueCaptionSyncJob (setMedia db id retried) id retried.captionSyncGeneration, retried)

end Edits

section Claims

structure CaptionSyncClaim where
  mediaId : Uuid
  generation : Nat
  claimToken : Uuid
  storageChatId : Int
  storageMessageId : Int
  metadata : StorageCaptionMetadata
  deriving DecidableEq, Repr

inductive CaptionSyncCompletion where
  | applied | stale
  deriving DecidableEq, Repr

def claimedCaption (now : Time) (claimToken : Uuid) (row : Media) : Media :=
  { row with
    captionSyncState := .syncing
    captionSyncError := none
    captionSyncClaimToken := some claimToken
    updatedAt := now }

/-- `begin_caption_sync`; nothing to do unless this generation is pending on a
    stored message. The job's lease is not looked at. -/
def beginCaptionSync (db : Db) (id : Uuid) (generation : Nat) (claimToken : Uuid) :
    Except Error (Db × Option CaptionSyncClaim) := do
  let row ← lockMedia db id
  if row.captionSyncGeneration ≠ generation ∨ hasStorageMessage row = false ∨
      row.captionSyncState ≠ .pending then
    pure (db, none)
  else match row.telegramStorageChatId, row.telegramStorageMessageId with
    | some chatId, some messageId =>
      pure (setMedia db id (claimedCaption db.now claimToken row),
        some ⟨id, generation, claimToken, chatId, messageId, captionMetadataOf row⟩)
    | _, _ => pure (db, none)

/-- The job that edits the message again after a stale edit may have landed. -/
def enqueueCaptionSyncReapplyJob (db : Db) (mediaId : Uuid) (generation staleGeneration : Nat)
    (staleClaimToken : Uuid) : Db :=
  db.enqueue (.syncCaption mediaId generation (some (staleGeneration, staleClaimToken)))
    (.syncStorageCaption mediaId generation) (by simp [JobKey.owns]) db.now 3

def reopenedCaption (now : Time) (row : Media) : Media :=
  { row with
    captionSyncState := .pending
    captionSyncError := none
    captionSyncClaimToken := none
    updatedAt := now }

def reportedCaption (now : Time) (succeeded retryable : Bool) (errorMessage : Option String)
    (row : Media) : Media :=
  { row with
    captionSyncState := if succeeded then .synced else if retryable then .pending else .failed
    captionSyncError :=
      if succeeded || retryable then none else errorMessage.map (truncateSyncError · 512)
    captionSyncClaimToken := none
    updatedAt := now }

def completeCaptionSync (db : Db) (id : Uuid) (generation : Nat) (claimToken : Uuid)
    (succeeded retryable : Bool) (errorMessage : Option String) :
    Except Error (Db × CaptionSyncCompletion) := do
  let row ← lockMedia db id
  if hasStorageMessage row = false ∨ row.captionSyncState = .notRequired then pure (db, .stale)
  else if row.captionSyncGeneration ≠ generation then
    pure (enqueueCaptionSyncReapplyJob (setMedia db id (reopenedCaption db.now row)) id
      row.captionSyncGeneration generation claimToken, .stale)
  else if row.captionSyncState ≠ .syncing ∨ row.captionSyncClaimToken ≠ some claimToken then
    pure (db, .stale)
  else
    pure (setMedia db id (reportedCaption db.now succeeded retryable errorMessage row), .applied)

/-- Retention fence of a caption job. -/
def captionJobRetentionEligible (db : Db) (mediaId : Uuid) : Bool :=
  match db.media.get mediaId with
  | none => false
  | some row =>
    match row.captionSyncState with
    | .notRequired | .synced | .failed => true
    | .pending | .syncing => false

end Claims

end Sooqa.Captions
