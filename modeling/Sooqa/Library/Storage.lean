import Sooqa.Library.Media

/-!
Storage uploads. A reservation is a fresh token in the media row; the worker
that holds it completes, releases or abandons the upload with it. The operator
may declare an upload unknown, attach its message or reset it, which opens the
next generation.
-/
namespace Sooqa.Library
open Foundation Queue

section Linked

/-- `error_code IN ('storage_upload', 'storage_unknown')`. -/
def storageFailed (ingest : Ingest) : Bool :=
  ingest.errorCode == some "storage_upload" || ingest.errorCode == some "storage_unknown"

/-- The linked ingests that a stored media completes. -/
def completable (ingest : Ingest) : Bool :=
  ingest.status == .storing ||
    (ingest.status == .failedRetryable && storageFailed ingest) ||
    (ingest.status == .failedTerminal && storageFailed ingest)

def completedIngest (now : Time) (ingest : Ingest) : Ingest :=
  { ingest with
    status := .completed, errorCode := none, errorMessage := none
    completedAt := some now, updatedAt := now }

def storageUnknownIngest (now : Time) (message : String) (ingest : Ingest) : Ingest :=
  { ingest with
    status := .failedTerminal, errorCode := some "storage_unknown", errorMessage := some message
    completedAt := some now, updatedAt := now }

/-- `UPDATE ingests SET … WHERE media_id = … AND …`. -/
def updateLinked (db : Db) (mediaId : Uuid) (affected : Ingest → Bool)
    (change : Ingest → Ingest) : Db :=
  { db with
    ingests := db.ingests.updateAll (fun _ ingest =>
      if ingest.mediaId = some mediaId ∧ affected ingest = true then change ingest else ingest) }

/-- The rows such an update returns that ask for a publication. -/
def linkedPublications (db : Db) (mediaId : Uuid) (affected : Ingest → Bool) : List Uuid :=
  (Table.rows db.ingests).filterMap (fun row =>
    if row.2.mediaId = some mediaId ∧ affected row.2 = true ∧ row.2.requestedAction ≠ .save then
      some row.1
    else none)

def completeLinkedIngestsForStorage (db : Db) (mediaId : Uuid) : Db :=
  insertMaterializationJobs (updateLinked db mediaId completable (completedIngest db.now))
    (linkedPublications db mediaId completable)

def reopenLinkedIngestsForStorage (db : Db) (mediaId : Uuid) : Db :=
  updateLinked db mediaId
    (fun ingest => ingest.status != .cancelled &&
      (ingest.status == .completed || ingest.status == .storing || storageFailed ingest))
    (fun ingest => { ingest with
      status := .storing, errorCode := none, errorMessage := none
      completedAt := none, updatedAt := db.now })

def reconciliationMessage : String := "media storage requires explicit reconciliation"

def markLinkedIngestsStorageUnknown (db : Db) (mediaId : Uuid) : Db :=
  updateLinked db mediaId
    (fun ingest => !(ingest.status == .cancelled || ingest.status == .failedTerminal) ||
      storageFailed ingest)
    (storageUnknownIngest db.now reconciliationMessage)

/-- Queued uploads of a media end failed; a running one is left to its worker. -/
def unknownUploadJob (now : Time) (mediaId : Uuid) (job : Job) : Job :=
  match job.command with
  | .uploadStorageAsset m _ =>
    if m = mediaId ∧ job.state = .queued then
      { job with
        state := .failed
        errorClass := some "storage_upload_unknown"
        errorMessage := some reconciliationMessage
        completedAt := some now
        updatedAt := now }
    else job
  | _ => job

theorem unknownUploadJob_id (now : Time) (mediaId : Uuid) (job : Job) :
    (unknownUploadJob now mediaId job).id = job.id := by
  unfold unknownUploadJob
  split
  · split <;> rfl
  · rfl

def settleQueuedStorageUploadJobs (db : Db) (mediaId : Uuid) : Db :=
  { db with
    jobs := db.jobs.updateAll (unknownUploadJob db.now mediaId) (unknownUploadJob_id db.now mediaId) }

end Linked

section Uploads

inductive StorageUploadReservation where
  | reused (receipt : StorageReceipt)
  | staleGeneration (currentGeneration : Nat)
  | reconciliationRequired
  | inProgress (retryAt : Option Time)
  | reserved (ownerToken : Uuid) (captionMetadata : StorageCaptionMetadata)
  deriving DecidableEq, Repr

structure StorageUploadAttachment where
  storageChatId : Int
  storageMessageId : Int
  telegramFileId : Option String
  telegramFileUniqueId : Option String
  captionMetadata : Option StorageCaptionMetadata
  deriving DecidableEq, Repr

def intoStorageReceipt (id : Uuid) (row : Media) : Except Error StorageReceipt :=
  expect row.intoStorageReceipt (.storageReceiptMissing id)

def lockMedia (db : Db) (id : Uuid) : Except Error Media :=
  expect (db.media.get id) (.resourceMissing id)

def captionMetadataOf (row : Media) : StorageCaptionMetadata :=
  ⟨row.description, row.tags, row.sourceUrl⟩

def reservedMedia (now : Time) (token : Uuid) (row : Media) : Media :=
  { row with storageToken := some token, storageStartedAt := some now, updatedAt := now }

def reserveStorageUpload (db : Db) (mediaId : Uuid) (generation : Nat) :
    Except Error (Db × StorageUploadReservation) := do
  let row ← lockMedia db mediaId
  if row.storageState = .ready then
    let receipt ← intoStorageReceipt mediaId row
    pure (db, .reused receipt)
  else if row.storageGeneration ≠ generation then
    pure (db, .staleGeneration row.storageGeneration)
  else if row.storageState = .unknown ∨ row.storageState = .missing then
    pure (db, .reconciliationRequired)
  else if row.storageToken.isSome then
    pure (db, .inProgress (row.storageStartedAt.map (· + 600 * second)))
  else
    pure ({ setMedia db mediaId (reservedMedia db.now db.fresh row) with fresh := db.fresh + 1 },
      .reserved db.fresh (captionMetadataOf row))

/-- A statement on the row that holds this reservation token. -/
def ownedUpload (db : Db) (mediaId ownerToken : Uuid) : Option Media :=
  (db.media.get mediaId).filter (fun row => row.storageToken == some ownerToken)

def renewStorageUpload (db : Db) (mediaId ownerToken : Uuid) : Except Error (Db × Time) := do
  let row ← expect (ownedUpload db mediaId ownerToken) (.storageUploadLeaseLost mediaId)
  pure (setMedia db mediaId (reservedMedia db.now ownerToken row), db.now)

def validateAttachment (attachment : StorageUploadAttachment) : Except Error Unit := do
  require (0 < attachment.storageMessageId)
    (.invalidStorageMessageId attachment.storageMessageId)
  require (attachment.telegramFileId ≠ some "") (.emptyStorageField "telegram_file_id")
  require (attachment.telegramFileUniqueId ≠ some "")
    (.emptyStorageField "telegram_file_unique_id")

/-- The row with its storage location; the CHECK constraint wants a file
    identifier on every ready row. -/
def readyMedia (now : Time) (attachment : StorageUploadAttachment) (row : Media) :
    Except Error Media := do
  require attachment.telegramFileId.isSome .database
  pure { row with
    storageState := .ready
    telegramStorageChatId := some attachment.storageChatId
    telegramStorageMessageId := some attachment.storageMessageId
    telegramFileId := attachment.telegramFileId
    telegramFileUniqueId := attachment.telegramFileUniqueId
    storageToken := none
    storageStartedAt := none
    localWorkPath := none
    storedAt := some now
    updatedAt := now }

def captionSyncValuesAfterStorageUpload (id : Uuid) (row : Media)
    (metadata : Option StorageCaptionMetadata) : Except Error Media :=
  if metadata = some (captionMetadataOf row) then
    .ok { row with
      captionSyncState := .synced, captionSyncError := none, captionSyncClaimToken := none }
  else nextCaptionSyncValues id row true

/-- What completion and attachment share: the stored row, its caption job, the
    linked ingests and their workspaces. The receipt is read after the commit,
    so its absence is an error of a transaction that happened. -/
def storeMedia (db : Db) (mediaId : Uuid) (attachment : StorageUploadAttachment) (row : Media) :
    Except Error (Db × Except Error StorageReceipt) := do
  let ready ← readyMedia db.now attachment row
  let stored ← captionSyncValuesAfterStorageUpload mediaId ready attachment.captionMetadata
  let captioned := enqueueCaptionSyncIfPending (setMedia db mediaId stored) mediaId stored true
  let completed := completeLinkedIngestsForStorage captioned mediaId
  pure (enqueueWorkspaceCleanupForMedia completed mediaId db.now,
    intoStorageReceipt mediaId stored)

def completeStorageUpload (db : Db) (mediaId ownerToken : Uuid)
    (attachment : StorageUploadAttachment) : Except Error (Db × Except Error StorageReceipt) := do
  validateAttachment attachment
  let row ← expect ((ownedUpload db mediaId ownerToken).filter (·.storageState == .pending))
    (.storageUploadLeaseLost mediaId)
  storeMedia db mediaId attachment row

def clearedReservation (now : Time) (state : MediaStorageState) (row : Media) : Media :=
  { row with
    storageState := state, storageToken := none, storageStartedAt := none, updatedAt := now }

def releaseStorageUpload (db : Db) (mediaId ownerToken : Uuid) : Except Error (Db × Unit) :=
  match ownedUpload db mediaId ownerToken with
  | none => .ok (db, ())
  | some row => .ok (setMedia db mediaId (clearedReservation db.now .pending row), ())

/-- An upload of unknown result, for its linked ingests and its queued jobs. -/
def markUnknown (db : Db) (mediaId : Uuid) (row : Media) : Db :=
  settleQueuedStorageUploadJobs
    (markLinkedIngestsStorageUnknown
      (setMedia db mediaId (clearedReservation db.now .unknown row)) mediaId) mediaId

/-- `mark_storage_upload_unknown` of the upload store, by the token's owner. -/
def markOwnedUploadUnknown (db : Db) (mediaId ownerToken : Uuid) : Except Error (Db × Unit) := do
  let row ← expect ((ownedUpload db mediaId ownerToken).filter (·.storageState == .pending))
    (.storageUploadLeaseLost mediaId)
  pure (markUnknown db mediaId row, ())

end Uploads

section Operator

/-- `mark_storage_upload_unknown` of the operator. Any state may be declared
    unknown; an active reservation only by force. -/
def markStorageUploadUnknown (db : Db) (id : Uuid) (force : Bool) : Except Error (Db × Unit) := do
  let row ← lockMedia db id
  require (¬ (row.storageToken.isSome ∧ force = false)) (.storageUploadActive id)
  pure (markUnknown db id row, ())

/-- A running cleanup of the current workspace of a linked ingest. -/
def cleanupRunning (db : Db) (mediaId : Uuid) : Bool :=
  db.jobs.any (fun job =>
    match job.state, job.command with
    | .running _, .cleanupWorkspace ingestId workspaceId =>
      match db.ingests.get ingestId with
      | some ingest => ingest.workspaceId == workspaceId && ingest.mediaId == some mediaId
      | none => false
    | _, _ => false)

def resetMedia (now : Time) (row : Media) : Media :=
  { row with
    storageState := .pending
    storageGeneration := row.storageGeneration + 1
    telegramStorageChatId := none
    telegramStorageMessageId := none
    telegramFileId := none
    telegramFileUniqueId := none
    storageToken := none
    storageStartedAt := none
    storedAt := none
    captionSyncState := .notRequired
    captionSyncError := none
    captionSyncClaimToken := none
    updatedAt := now }

def enqueueStorageUpload (db : Db) (mediaId : Uuid) (generation : Nat) : Db :=
  db.enqueue (.uploadStorage mediaId generation) (.uploadStorageAsset mediaId generation)
    (by simp [JobKey.owns]) db.now Db.defaultMaxAttempts

def resetStorageUpload (db : Db) (id : Uuid) : Except Error (Db × Unit) := do
  let row ← lockMedia db id
  require row.storageToken.isNone (.storageUploadActive id)
  require row.localWorkPath.isSome (.workspaceReclaimed id)
  require (cleanupRunning db id = false) (.workspaceReclaimed id)
  require (row.storageGeneration < maxInteger) (.storageGenerationOverflow id)
  let reopened := reopenLinkedIngestsForStorage (setMedia db id (resetMedia db.now row)) id
  pure (enqueueStorageUpload reopened id (row.storageGeneration + 1), ())

def attachStorageUpload (db : Db) (id : Uuid) (generation : Nat)
    (attachment : StorageUploadAttachment) : Except Error (Db × Except Error StorageReceipt) := do
  validateAttachment attachment
  let row ← expect ((db.media.get id).filter (fun row =>
    row.storageGeneration == generation && row.storageState == .unknown))
    (.storageUploadNotUnknown id)
  storeMedia db id attachment row

end Operator

section Settlement

/-- `reconcile_storage_terminal`. A reservation still open becomes unknown; a
    stored media completes its linked ingests, without their publications. -/
def reconcileStorageTerminal (db : Db) (mediaId : Uuid) (errorMessage : String) : Db :=
  match db.media.get mediaId with
  | none => db
  | some row =>
    match row.storageState with
    | .ready => updateLinked db mediaId completable (completedIngest db.now)
    | .pending =>
      updateLinked (setMedia db mediaId (clearedReservation db.now .unknown row)) mediaId
        (fun ingest => ingest.status != .cancelled &&
          (ingest.status != .failedTerminal || storageFailed ingest))
        (storageUnknownIngest db.now errorMessage)
    | .unknown =>
      updateLinked db mediaId
        (fun ingest => ingest.status != .cancelled && ingest.status != .failedTerminal)
        (storageUnknownIngest db.now errorMessage)
    | .missing => db

def settleStorageJob (db : Db) (lease : JobLease) (expected : JobCommand)
    (settlement : JobSettlement) : Except JobRepositoryError (Db × Job) := do
  let job ← expect (lockRunningJob db.jobs db.now lease settlement.allowsExpiredLease) .leaseLost
  match ← validateLockedCommand job expected with
  | .uploadStorageAsset mediaId _ =>
    let update := queueParameters job settlement
    let reconciled :=
      if update.terminal then reconcileStorageTerminal db mediaId update.errorMessage else db
    pure ({ reconciled with jobs := updateLockedJob reconciled.jobs db.now job update },
      job.settled db.now update)
  | _ => .error .leaseLost

def recoveryUnknownMessage : String :=
  "storage job lease expired; external storage result requires reconciliation"

/-- A reservation younger than a minute is left to its worker. -/
def freshReservation (now : Time) (row : Media) : Bool :=
  row.storageState == .pending && row.storageToken.isSome &&
    row.storageStartedAt.any (fun started => decide (now < started + minute))

def recoveredUpload (now : Time) (job : Job) (state : JobState) (errorClass errorMessage : String)
    (runAt : Time) (terminal nonConsuming : Bool) : Job :=
  job.settled now ⟨state, runAt, errorClass, errorMessage, terminal, nonConsuming⟩

/-- The recovery of an expired upload job by the state of its media. -/
def recoverUpload (db : Db) (job : Job) (mediaId : Uuid) (row : Media) : Db :=
  match row.storageState, row.storageToken with
  | .ready, _ =>
    let completed := updateLinked db mediaId completable (completedIngest db.now)
    let succeeded := recoveredUpload db.now job .succeeded "" "" job.runAt true false
    { completed with
      jobs := completed.jobs.put { succeeded with errorClass := none, errorMessage := none } }
  | .pending, none =>
    { db with
      jobs := db.jobs.put (recoveredUpload db.now job .queued "storage_upload_cancelled"
        "storage upload was safely cancelled before Telegram dispatch" db.now false true) }
  | _, _ =>
    let unknown := updateLinked
      (setMedia db mediaId (clearedReservation db.now .unknown row)) mediaId
      (fun ingest => ingest.status != .cancelled &&
        (ingest.status != .failedTerminal || storageFailed ingest))
      (storageUnknownIngest db.now recoveryUnknownMessage)
    { unknown with
      jobs := unknown.jobs.put (recoveredUpload db.now job .failed "storage_unknown"
        recoveryUnknownMessage db.now true false) }

/-- `recover_storage_job`; `false` when the row is no longer expired or its
    reservation is young. -/
def recoverStorageJob (db : Db) (id : JobId) (expected : JobCommand) :
    Except JobRepositoryError (Db × Bool) :=
  match lockExpiredJob db.jobs db.now id with
  | none => .ok (db, false)
  | some job => do
    match ← validateLockedCommand job expected with
    | .uploadStorageAsset mediaId _ =>
      match db.media.get mediaId with
      | none =>
        pure ({ db with
          jobs := db.jobs.put (recoveredUpload db.now job .failed "storage_unknown"
            "storage media row is missing; external storage result requires reconciliation"
            job.runAt true false) }, true)
      | some row =>
        if freshReservation db.now row then pure (db, false)
        else pure (recoverUpload db job mediaId row, true)
    | _ => .error .leaseLost

/-- The caption columns of a media whose claimed edit ended with its job. -/
def releasedCaption (now : Time) (generation : Nat) (terminal : Bool) (error : String)
    (row : Media) : Media :=
  if row.captionSyncGeneration = generation ∧ row.captionSyncState = .syncing then
    { row with
      captionSyncState := if terminal then .failed else .pending
      captionSyncError := if terminal then some error else none
      captionSyncClaimToken := none
      updatedAt := now }
  else row

def releaseCaption (db : Db) (mediaId : Uuid) (generation : Nat) (terminal : Bool)
    (error : String) : Db :=
  match db.media.get mediaId with
  | none => db
  | some row => setMedia db mediaId (releasedCaption db.now generation terminal error row)

def truncateSyncError (value : String) (maxChars : Nat) : String :=
  String.ofList (value.toList.take maxChars)

def settleCaptionJob (db : Db) (lease : JobLease) (expected : JobCommand)
    (settlement : JobSettlement) : Except JobRepositoryError (Db × Job) := do
  let job ← expect (lockRunningJob db.jobs db.now lease settlement.allowsExpiredLease) .leaseLost
  match ← validateLockedCommand job expected with
  | .syncStorageCaption mediaId generation =>
    let update := queueParameters job settlement
    let released := releaseCaption db mediaId generation update.terminal
      (truncateSyncError update.errorMessage 512)
    pure ({ released with jobs := updateLockedJob released.jobs db.now job update },
      job.settled db.now update)
  | _ => .error .leaseLost

def recoverCaptionJob (db : Db) (id : JobId) (expected : JobCommand) :
    Except JobRepositoryError (Db × Bool) :=
  match lockExpiredJob db.jobs db.now id with
  | none => .ok (db, false)
  | some job => do
    match ← validateLockedCommand job expected with
    | .syncStorageCaption mediaId generation =>
      let update := expiredUpdate db.now job
      let released := releaseCaption db mediaId generation update.terminal
        "caption sync job lease expired after the final attempt"
      pure ({ released with jobs := updateLockedJob released.jobs db.now job update }, true)
    | _ => .error .leaseLost

end Settlement
end Sooqa.Library
