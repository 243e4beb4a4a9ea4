import Sooqa.Library.Storage
import Sooqa.Publisher.Repository

/-!
The ingest transactions: creation, and for each of the six stages its begin,
complete and fail operation. An operation locks the ingest row, then the
job row of the attempt; a lost attempt changes nothing. Encoding limits of
the JSON envelope are left out.
-/
namespace Sooqa.Inbox
open Foundation Queue

inductive Error where
  | idempotencyConflict (key : String)
  | resourceMissing (id : Uuid)
  | missingMediaId (id : Uuid)
  | requestedPublishAtNotFuture
  | requestedChannelNotConfigured
  | requestedChannelAmbiguous
  | invalidFailureStatus (status : IngestStatus)
  | forceSaveNotAllowed (status : IngestStatus)
  | duplicateDecisionNotAllowed (status : IngestStatus)
  | duplicateEvidenceMissing (id : Uuid)
  | duplicateCandidateNotEvidenced (mediaId : Uuid)
  | duplicateCandidateMissing (mediaId : Uuid)
  | duplicateCandidateUnavailable (mediaId : Uuid) (state : MediaStorageState)
  | videoFinalizationNotAllowed
  | duplicateEvidenceTooManyMatches (max : Nat)
  | duplicateEvidenceTooLarge (max : Nat)
  | invalidStateTransition (source target : IngestStatus)
  | jobLeaseLost
  | database
  | library (error : Library.Error)
  deriving DecidableEq, Repr

def liftLibrary {α : Type} : Except Library.Error α → Except Error α
  | .ok value => .ok value
  | .error error => .error (.library error)

section Rows

def setIngest (db : Db) (id : Uuid) (request : Ingest) : Db :=
  { db with ingests := db.ingests.set id request }

def loadRequest (db : Db) (id : Uuid) : Except Error Ingest :=
  expect (db.ingests.get id) (.resourceMissing id)

def transitionTo (request : Ingest) (target : IngestStatus) : Except Error Ingest :=
  if request.status.canTransitionTo target then .ok { request with status := target }
  else .error (.invalidStateTransition request.status target)

def transitionAlong (request : Ingest) : List IngestStatus → Except Error Ingest
  | [] => .ok request
  | target :: rest => do transitionAlong (← transitionTo request target) rest

def clearErrors (now : Time) (request : Ingest) : Ingest :=
  { request with errorCode := none, errorMessage := none, completedAt := none, updatedAt := now }

def mediaKindOf (data : IngestData) : Option SourceMediaKind :=
  data.probedMediaKind <|> data.download.map (·.mediaKind) <|> data.mediaKind

def mimeTypeOf (data : IngestData) : Option String :=
  (data.download.bind (·.mimeType)) <|> data.mimeType

def normalizedMediaKind (request : Ingest) : Option SourceMediaKind :=
  request.data.normalization.map (·.mediaKind)

end Rows

section StageJobs

/-- `insert_job` under the stage key of the ingest's generation. -/
def insertStageJob (db : Db) (id : Uuid) (request : Ingest) (stage : Stage)
    (command : JobCommand) (owned : (JobKey.stage stage id request.forceSave).owns command = true) :
    Db :=
  db.enqueue (.stage stage id request.forceSave) command owned db.now Db.defaultMaxAttempts

def insertInspectJob (db : Db) (id : Uuid) (request : Ingest) : Db :=
  insertStageJob db id request .inspectSource (.inspectSource id)
    (by simp [JobKey.owns, JobCommand.jobType, JobCommand.stageIngest])

def insertDownloadJob (db : Db) (id : Uuid) (request : Ingest) (inspection : SourceInspection) :
    Db :=
  insertStageJob db id request .downloadSource (.downloadSource id inspection)
    (by simp [JobKey.owns, JobCommand.jobType, JobCommand.stageIngest])

def insertProbeJob (db : Db) (id : Uuid) (request : Ingest) : Db :=
  insertStageJob db id request .probeAsset (.probeAsset id)
    (by simp [JobKey.owns, JobCommand.jobType, JobCommand.stageIngest])

def insertNormalizeJob (db : Db) (id : Uuid) (request : Ingest) : Db :=
  insertStageJob db id request .normalizeAsset (.normalizeAsset id)
    (by simp [JobKey.owns, JobCommand.jobType, JobCommand.stageIngest])

def insertFingerprintJob (db : Db) (id : Uuid) (request : Ingest) : Db :=
  insertStageJob db id request .computeFingerprint (.computeFingerprint id)
    (by simp [JobKey.owns, JobCommand.jobType, JobCommand.stageIngest])

def insertFinalizeJob (db : Db) (id : Uuid) (request : Ingest) : Db :=
  insertStageJob db id request .finalizeIngest (.finalizeIngest id)
    (by simp [JobKey.owns, JobCommand.jobType, JobCommand.stageIngest])

/-- The job a fresh or resumed ingest starts with. -/
def insertFirstJob (db : Db) (id : Uuid) (request : Ingest) : Db :=
  match request.kind with
  | .url => insertInspectJob db id request
  | .telegramMessage | .upload => insertProbeJob db id request

def insertStorageJob (db : Db) (mediaId : Uuid) : Db :=
  match (db.media.get mediaId).filter (·.storageState == .pending) with
  | none => db
  | some media => Library.enqueueStorageUpload db mediaId media.storageGeneration

def succeedCurrentJobAttempt (db : Db) (attempt : JobLease) : Except Error Db := do
  let job ← expect (lockCurrentJobAttempt db.jobs db.now attempt) .jobLeaseLost
  pure { db with jobs := db.jobs.put (job.succeeded db.now) }

def isCurrent (db : Db) (attempt : JobLease) : Bool :=
  (lockCurrentJobAttempt db.jobs db.now attempt).isSome

end StageJobs

section Create

/-- A submission with the source fields of its envelope; the request hash
    covers all of it. -/
structure IngestSubmission where
  kind : IngestKind
  normalizedUrl : String
  telegramWorkspaceId : Option Uuid
  mimeType : Option String
  fileName : Option String
  mediaKind : Option SourceMediaKind
  suppliedDescription : Option String
  suppliedTags : List String
  requestedAction : RequestedAction
  requestedPublishAt : Option Time
  requestedPostCaption : Option String
  idempotencyKey : Option String
  requestHash : String
  deriving DecidableEq, Repr

def IngestKind.asStr : IngestKind → String
  | .url => "url"
  | .telegramMessage => "telegram_message"
  | .upload => "upload"

def IngestSubmission.inputKey (submission : IngestSubmission) : String :=
  submission.idempotencyKey.getD
    (IngestKind.asStr submission.kind ++ ":" ++ submission.normalizedUrl)

/-- `from_submission` moved on to queued, with the workspace of its uploader
    or, without one, its own identifier. -/
def queuedIngest (id : Uuid) (now : Time) (submission : IngestSubmission) : Ingest where
  inputKey := submission.inputKey
  requestHash := submission.requestHash
  kind := submission.kind
  status := .queued
  data := ⟨submission.telegramWorkspaceId, submission.mimeType, submission.fileName,
    submission.mediaKind, none, none, none, none, none, none, none⟩
  suppliedDescription := submission.suppliedDescription
  suppliedTags := submission.suppliedTags
  requestedAction := submission.requestedAction
  requestedPublishAt := submission.requestedPublishAt
  requestedPostCaption := submission.requestedPostCaption
  requestedChannelId := none
  workspaceId := submission.telegramWorkspaceId.getD id
  mediaId := none
  forceSave := false
  duplicateEvidence := none
  errorCode := none
  errorMessage := none
  createdAt := now
  updatedAt := now
  completedAt := none

def findByInputKey (db : Db) (key : String) : Option (Uuid × Ingest) :=
  (Table.rows db.ingests).find? (fun row => row.2.inputKey == key)

def requestedChannel (db : Db) : RequestedAction → Except Error (Option Uuid)
  | .save => .ok none
  | _ =>
    match Publisher.selectEnabledChannelCandidates db with
    | [] => .error .requestedChannelNotConfigured
    | [channelId] => .ok (some channelId)
    | _ => .error .requestedChannelAmbiguous

structure CreateIngestResult where
  id : Uuid
  ingest : Ingest
  created : Bool
  deriving DecidableEq, Repr

def createIngest (db : Db) (submission : IngestSubmission) :
    Except Error (Db × CreateIngestResult) :=
  match findByInputKey db submission.inputKey with
  | some (id, existing) => do
    require (existing.requestHash = submission.requestHash)
      (.idempotencyConflict submission.inputKey)
    pure (db, ⟨id, existing, false⟩)
  | none => do
    require (¬ (submission.requestedAction = .queue ∧
      ∃ publishAt ∈ submission.requestedPublishAt, publishAt ≤ db.now))
      .requestedPublishAtNotFuture
    let channelId ← requestedChannel db submission.requestedAction
    let request := { queuedIngest db.fresh db.now submission with requestedChannelId := channelId }
    let created := { setIngest db db.fresh request with fresh := db.fresh + 1 }
    pure (insertFirstJob created db.fresh request, ⟨db.fresh, request, true⟩)

end Create

section Begin

inductive StageStart where
  | ready (request : Ingest)
  | alreadyAdvanced (request : Ingest)
  deriving DecidableEq, Repr

/-- A begin operation: `skip` sees a stage already recorded, `resume` gives the
    statuses to pass through from the current one, none for no write. -/
def beginStage (db : Db) (id : Uuid) (attempt : JobLease) (skip : Ingest → Bool)
    (resume : IngestStatus → Option (List IngestStatus)) : Except Error (Db × StageStart) := do
  let request ← loadRequest db id
  if skip request || !isCurrent db attempt then pure (db, .alreadyAdvanced request)
  else match resume request.status with
    | none => pure (db, .alreadyAdvanced request)
    | some [] => pure (db, .ready request)
    | some path =>
      let moved ← transitionAlong request path
      let begun := clearErrors db.now moved
      pure (setIngest db id begun, .ready begun)

def beginSourceInspection (db : Db) (id : Uuid) (attempt : JobLease) :=
  beginStage db id attempt (fun _ => false) (fun
    | .queued => some []
    | .failedRetryable => some [.queued]
    | _ => none)

def beginSourceDownload (db : Db) (id : Uuid) (attempt : JobLease) :=
  beginStage db id attempt (fun request => request.data.download.isSome) (fun
    | .downloading => some []
    | .failedRetryable => some [.queued, .downloading]
    | _ => none)

def beginAssetProbe (db : Db) (id : Uuid) (attempt : JobLease) :=
  beginStage db id attempt (fun _ => false) (fun
    | .queued => some [.downloading, .probing]
    | .downloading => some [.probing]
    | .probing => some []
    | .failedRetryable => some [.queued, .downloading, .probing]
    | _ => none)

def beginAssetNormalization (db : Db) (id : Uuid) (attempt : JobLease) :=
  beginStage db id attempt
    (fun request => request.data.normalization.isSome && !request.forceSave) (fun
    | .normalizing => some []
    | .failedRetryable => some [.queued, .downloading, .probing, .normalizing]
    | _ => none)

def beginIngestFingerprinting (db : Db) (id : Uuid) (attempt : JobLease) :=
  beginStage db id attempt (fun _ => false) (fun
    | .fingerprinting => some []
    | .failedRetryable => some [.fingerprinting]
    | _ => none)

def beginIngestFinalization (db : Db) (id : Uuid) (attempt : JobLease) :=
  beginStage db id attempt (fun _ => false) (fun
    | .storing => some []
    | .failedRetryable => some [.storing]
    | _ => none)

/-- `begin_video_identity`, the second gate of the fingerprint stage. -/
def beginVideoIdentity (db : Db) (id : Uuid) (attempt : JobLease) (ingest : Library.MediaIngest)
    (fingerprint : Option Library.VideoFingerprintInput) :
    Except Error (Db × (StageStart × Option Uuid)) := do
  let request ← loadRequest db id
  if request.status ≠ .fingerprinting || !isCurrent db attempt then
    pure (db, .alreadyAdvanced request, none)
  else
    let preparation ← liftLibrary (Library.prepareVideoIdentity db ingest fingerprint)
    pure (db, .ready request, preparation.exactMediaId)

end Begin

section Fail

structure IngestFailureGuard where
  ignoreCompletedDownload : Bool
  attempt : JobLease
  expectedStatus : IngestStatus
  deriving DecidableEq, Repr

def IngestFailureGuard.ignores (guard : IngestFailureGuard) (db : Db) (request : Ingest) : Bool :=
  (guard.ignoreCompletedDownload && request.data.download.isSome) ||
    request.status != guard.expectedStatus || !isCurrent db guard.attempt ||
    request.status.isTerminal

def failIngestStep (db : Db) (id : Uuid) (status : IngestStatus) (errorCode errorMessage : String)
    (guard : IngestFailureGuard) : Except Error (Db × Ingest) := do
  require (status = .failedRetryable ∨ status = .failedTerminal) (.invalidFailureStatus status)
  let request ← loadRequest db id
  if guard.ignores db request then pure (db, request)
  else
    let moved ← transitionTo request status
    let failed := { moved with
      errorCode := some errorCode
      errorMessage := some errorMessage
      completedAt := if status = .failedTerminal then some db.now else none
      updatedAt := db.now }
    let stored := setIngest db id failed
    let settled :=
      if status = .failedTerminal then
        enqueueWorkspaceCleanup stored id failed.workspaceId (db.now + workspaceCleanupRetention)
      else stored
    pure (settled, failed)

def failSourceInspection (db : Db) (id : Uuid) (attempt : JobLease) (status : IngestStatus)
    (errorCode errorMessage : String) :=
  failIngestStep db id status errorCode errorMessage ⟨false, attempt, .queued⟩

def failSourceDownload (db : Db) (id : Uuid) (attempt : JobLease) (status : IngestStatus)
    (errorCode errorMessage : String) :=
  failIngestStep db id status errorCode errorMessage ⟨true, attempt, .downloading⟩

def failAssetProbe (db : Db) (id : Uuid) (attempt : JobLease) (status : IngestStatus)
    (errorCode errorMessage : String) :=
  failIngestStep db id status errorCode errorMessage ⟨false, attempt, .probing⟩

def failAssetNormalization (db : Db) (id : Uuid) (attempt : JobLease) (status : IngestStatus)
    (errorCode errorMessage : String) :=
  failIngestStep db id status errorCode errorMessage ⟨false, attempt, .normalizing⟩

def failIngestFingerprint (db : Db) (id : Uuid) (attempt : JobLease) (status : IngestStatus)
    (errorCode errorMessage : String) :=
  failIngestStep db id status errorCode errorMessage ⟨false, attempt, .fingerprinting⟩

def failIngestFinalization (db : Db) (id : Uuid) (attempt : JobLease) (status : IngestStatus)
    (errorCode errorMessage : String) :=
  failIngestStep db id status errorCode errorMessage ⟨false, attempt, .storing⟩

end Fail

section ImageFormat

inductive ImageFormatKind where
  | jpeg | png | unsupported | unknown
  deriving DecidableEq, Repr

def ImageFormatKind.debug : ImageFormatKind → String
  | .jpeg => "Jpeg"
  | .png => "Png"
  | .unsupported => "Unsupported"
  | .unknown => "Unknown"

def asciiLower (value : String) : String := String.ofList (value.toList.map Char.toLower)

def containsText (value pattern : String) : Bool :=
  value.toList.tails.any (fun rest => pattern.toList.isPrefixOf rest)

def imageFormatFromMime (mimeType : String) : ImageFormatKind :=
  let head := Publisher.trim (String.ofList (mimeType.toList.takeWhile (· != ';')))
  let head := asciiLower head
  if head == "image/jpeg" then .jpeg
  else if head == "image/png" then .png
  else if "image/".toList.isPrefixOf head.toList then .unsupported
  else .unknown

def imageFormatFromFileName (fileName : String) : ImageFormatKind :=
  let suffix := asciiLower
    (String.ofList (fileName.toList.reverse.takeWhile (· != '.')).reverse)
  if suffix == "jpg" || suffix == "jpeg" then .jpeg
  else if suffix == "png" then .png
  else if suffix == "gif" || suffix == "webp" || suffix == "avif" then .unsupported
  else .unknown

def probedImageFormat (probe : IngestProbe) : ImageFormatKind :=
  match probe.imageFormat.map asciiLower with
  | none => .unknown
  | some value =>
    if containsText value "jpeg" || containsText value "mjpeg" then .jpeg
    else if containsText value "png" then .png
    else if containsText value "gif" || containsText value "webp" || containsText value "avif" then
      .unsupported
    else .unknown

def declaredImageFormat (data : IngestData) : ImageFormatKind :=
  (((mimeTypeOf data).map imageFormatFromMime).filter (· != .unknown)
    <|> data.fileName.map imageFormatFromFileName).getD .unknown

def requestImageFormatIsSupported (request : Ingest) (probe : IngestProbe) : Bool :=
  match probedImageFormat probe with
  | .jpeg | .png => true
  | .unsupported => false
  | .unknown =>
    declaredImageFormat request.data == .jpeg || declaredImageFormat request.data == .png

def SourceMediaKind.debug : SourceMediaKind → String
  | .video => "Video"
  | .image => "Image"
  | .audio => "Audio"
  | .animation => "Animation"
  | .unknown => "Unknown"

def debugOption (value : Option String) : String :=
  match value with
  | some text => "Ok(Some(" ++ text.quote ++ "))"
  | none => "Ok(None)"

end ImageFormat

section Complete

/-- The last two writes of every completed stage: the successor's job, and the
    end of the attempt's own. -/
def finishStage (db : Db) (attempt : JobLease) (request : Ingest) :
    Except Error (Db × Ingest) := do
  let succeeded ← succeedCurrentJobAttempt db attempt
  pure (succeeded, request)

def completeSourceInspection (db : Db) (id : Uuid) (attempt : JobLease)
    (inspection : SourceInspection) : Except Error (Db × Ingest) := do
  let request ← loadRequest db id
  if request.status ≠ .queued || !isCurrent db attempt then pure (db, request)
  else
    let inspected := { request with data := { request.data with inspection := some inspection } }
    let moved ← transitionTo inspected .downloading
    let advanced := clearErrors db.now moved
    finishStage (insertDownloadJob (setIngest db id advanced) id advanced inspection) attempt
      advanced

def completeSourceDownload (db : Db) (id : Uuid) (attempt : JobLease)
    (download : SourceDownload) : Except Error (Db × Ingest) := do
  let request ← loadRequest db id
  if request.status ≠ .downloading || request.data.download.isSome || !isCurrent db attempt then
    pure (db, request)
  else
    let advanced := { request with
      data := { request.data with download := some download }
      errorCode := none, errorMessage := none, updatedAt := db.now }
    finishStage (insertProbeJob (setIngest db id advanced) id advanced) attempt advanced

/-- The kinds the composed normalizers accept. -/
def supportedMediaKind : Option SourceMediaKind → Bool
  | some .video | some .image | some .animation | some .audio => true
  | _ => false

def probedIngest (request : Ingest) (probe : IngestProbe) : Ingest :=
  { request with
    data := { request.data with probe := some probe, probedMediaKind := probe.mediaKind } }

def unsupportedCode (mediaKind : Option SourceMediaKind) (unsupportedImage : Bool) : String :=
  match mediaKind with
  | some .image => if unsupportedImage then "unsupported_image_format" else "unsupported_media_kind"
  | some _ => "unsupported_media_kind"
  | none => "invalid_ingest_state"

def unsupportedMessage (request : Ingest) (probe : IngestProbe)
    (mediaKind : Option SourceMediaKind) (unsupportedImage : Bool) : String :=
  let unsupportedKind (kind : SourceMediaKind) :=
    "asset media kind " ++ SourceMediaKind.debug kind ++
      " is not supported by the composed normalizers"
  match mediaKind with
  | some .image =>
    if unsupportedImage then
      "image input is not a supported JPEG/PNG (declared MIME " ++
        debugOption (mimeTypeOf request.data) ++ ", file name " ++
        debugOption request.data.fileName ++ ", probed format " ++
        (probedImageFormat probe).debug ++ ")"
    else unsupportedKind .image
  | some kind => unsupportedKind kind
  | none => "ingest request has no stored source media kind"

def completeAssetProbe (db : Db) (id : Uuid) (attempt : JobLease) (probe : IngestProbe) :
    Except Error (Db × Ingest) := do
  let request ← loadRequest db id
  if request.status ≠ .probing || !isCurrent db attempt then pure (db, request)
  else
    let mediaKind := probe.mediaKind <|> mediaKindOf request.data
    let unsupportedImage :=
      mediaKind == some .image && !requestImageFormatIsSupported request probe
    let probed := probedIngest request probe
    if !supportedMediaKind mediaKind || unsupportedImage then
      let moved ← transitionTo probed .failedTerminal
      let failed := { moved with
        errorCode := some (unsupportedCode mediaKind unsupportedImage)
        errorMessage := some (unsupportedMessage probed probe mediaKind unsupportedImage)
        completedAt := some db.now
        updatedAt := db.now }
      finishStage (enqueueWorkspaceCleanup (setIngest db id failed) id failed.workspaceId
        (db.now + workspaceCleanupRetention)) attempt failed
    else
      let moved ← transitionTo probed .normalizing
      let advanced := clearErrors db.now moved
      finishStage (insertNormalizeJob (setIngest db id advanced) id advanced) attempt advanced

def insertAfterNormalization (db : Db) (id : Uuid) (request : Ingest) (isVideo : Bool) : Db :=
  if isVideo then insertFingerprintJob db id request else insertFinalizeJob db id request

def completeAssetNormalization (db : Db) (id : Uuid) (attempt : JobLease)
    (normalization : AssetNormalization) : Except Error (Db × Ingest) := do
  let request ← loadRequest db id
  if request.status ≠ .normalizing || (request.data.normalization.isSome && !request.forceSave) ||
      !isCurrent db attempt then
    pure (db, request)
  else
    let normalized :=
      { request with data := { request.data with normalization := some normalization } }
    let isVideo := normalization.mediaKind == .video
    let moved ← transitionTo normalized (if isVideo then .fingerprinting else .storing)
    let advanced := clearErrors db.now moved
    finishStage (insertAfterNormalization (setIngest db id advanced) id advanced isVideo) attempt
      advanced

def storageUnknownAdvanceMessage : String :=
  "media storage requires explicit reconciliation before ingest can complete"

/-- `advance_after_media_processing`: the ingest follows the storage state of
    its media, which is read without a lock. -/
def advanceAfterMediaProcessing (db : Db) (id : Uuid) (request : Ingest) (mediaId : Uuid) :
    Except Error (Db × Ingest) := do
  let media ← expect (db.media.get mediaId) (.missingMediaId id)
  let linked := { request with
    mediaId := some mediaId
    errorCode := none, errorMessage := none, completedAt := none }
  match media.storageState with
  | .ready =>
    let moved ← transitionTo linked .completed
    let completed := { moved with completedAt := some db.now, updatedAt := db.now }
    let enqueued :=
      if request.requestedAction ≠ .save then insertMaterializationJob db id else db
    pure (setIngest (enqueueWorkspaceCleanup enqueued id request.workspaceId db.now) id completed,
      completed)
  | .pending =>
    let moved ← transitionTo linked .storing
    let storing := { moved with updatedAt := db.now }
    pure (setIngest (insertStorageJob db mediaId) id storing, storing)
  | .unknown | .missing =>
    let moved ← transitionTo linked .failedTerminal
    let failed := { moved with
      errorCode := some "storage_unknown"
      errorMessage := some storageUnknownAdvanceMessage
      completedAt := some db.now
      updatedAt := db.now }
    pure (setIngest (enqueueWorkspaceCleanup db id request.workspaceId
      (db.now + workspaceCleanupRetention)) id failed, failed)

def completeIngestFinalization (db : Db) (id : Uuid) (attempt : JobLease) (mediaId : Uuid) :
    Except Error (Db × Ingest) := do
  let request ← loadRequest db id
  if request.status ≠ .storing || request.data.finalization.isSome || !isCurrent db attempt then
    pure (db, request)
  else
    require (normalizedMediaKind request ≠ some .video) .videoFinalizationNotAllowed
    let finalized := { request with data := { request.data with finalization := some mediaId } }
    let (advancedDb, advanced) ← advanceAfterMediaProcessing db id finalized mediaId
    finishStage advancedDb attempt advanced

/-- The evidence of a pending duplicate, put before the operator. -/
def pendDuplicate (db : Db) (id : Uuid) (request : Ingest)
    (evidence : Library.VideoDuplicateEvidence) : Except Error (Db × Ingest) := do
  require (evidence.candidates.length ≤ Library.maxVideoDuplicateMatches)
    (.duplicateEvidenceTooManyMatches Library.maxVideoDuplicateMatches)
  require (evidence.encodedBytes ≤ Library.maxVideoDuplicateEvidenceBytes)
    (.duplicateEvidenceTooLarge Library.maxVideoDuplicateEvidenceBytes)
  let moved ← transitionTo request .duplicatePending
  let pending := { clearErrors db.now moved with
    mediaId := none
    duplicateEvidence := some (evidence.candidates.map (·.mediaId)) }
  pure (setIngest (enqueueWorkspaceCleanup db id request.workspaceId
    (db.now + workspaceCleanupRetention)) id pending, pending)

def applyIdentity (db : Db) (id : Uuid) (request : Ingest) :
    Library.VideoIdentityOutcome → Except Error (Db × Ingest)
  | .duplicatePending evidence => pendDuplicate db id request evidence
  | .exactDuplicate mediaId | .newMedia mediaId =>
    advanceAfterMediaProcessing db id { request with duplicateEvidence := none } mediaId

def completeVideoIdentity (db : Db) (id : Uuid) (attempt : JobLease)
    (ingest : Library.MediaIngest) (fingerprint : Option Library.VideoFingerprintInput)
    (decision : Library.VideoIdentityDecision) : Except Error (Db × Ingest) := do
  let request ← loadRequest db id
  if request.status ≠ .fingerprinting || !isCurrent db attempt then pure (db, request)
  else
    let (identified, outcome) ← liftLibrary
      (Library.persistVideoIdentity db ingest fingerprint decision request.forceSave)
    let (advancedDb, advanced) ← applyIdentity identified id request outcome
    finishStage advancedDb attempt advanced

end Complete
end Sooqa.Inbox
