import Sooqa.Inbox.Repository

/-!
What moves an ingest outside its stages: the operator's decisions on a pending
duplicate, the storage results of its media, workspace cleanup, settlement and
recovery of its stage jobs, and their retention.
-/
namespace Sooqa.Inbox
open Foundation Queue

section Decisions

def clearPipelineArtifacts (data : IngestData) : IngestData :=
  { data with
    inspection := none, download := none, probe := none, probedMediaKind := none
    normalization := none, finalization := none }

/-- The statuses in which a repeated force-save finds its work under way. -/
def forceSaveUnderWay : IngestStatus → Bool
  | .queued | .downloading | .probing | .normalizing | .fingerprinting | .storing
  | .completed => true
  | _ => false

def resumedIngest (now : Time) (workspaceId : Uuid) (request : Ingest) : Ingest :=
  { clearErrors now request with
    forceSave := true
    workspaceId := workspaceId
    duplicateEvidence := none
    data := clearPipelineArtifacts request.data }

structure ForceSaveResult where
  ingest : Ingest
  resumed : Bool
  deriving DecidableEq, Repr

def forceSave (db : Db) (id : Uuid) : Except Error (Db × ForceSaveResult) := do
  let request ← loadRequest db id
  if request.status = .duplicatePending then
    let resumed ← transitionTo (resumedIngest db.now db.fresh request) .queued
    let stored := { setIngest db id resumed with fresh := db.fresh + 1 }
    pure (insertFirstJob stored id resumed, ⟨resumed, true⟩)
  else
    require (forceSaveUnderWay request.status && request.forceSave)
      (.forceSaveNotAllowed request.status)
    pure (db, ⟨request, false⟩)

structure AcceptDuplicateResult where
  ingest : Ingest
  replayed : Bool
  deriving DecidableEq, Repr

/-- The accepted ingest: storing, or completed at once on a stored media. -/
def acceptedIngest (now : Time) (mediaId : Uuid) (ready : Bool) (request : Ingest) :
    Except Error Ingest := do
  let decided := { clearErrors now request with
    mediaId := some mediaId
    data := { request.data with duplicateDecision := some mediaId }
    duplicateEvidence := none }
  let storing ← transitionTo decided .storing
  if ready then
    let completed ← transitionTo storing .completed
    pure { completed with completedAt := some now }
  else pure storing

def mergedDuplicate (now : Time) (request : Ingest) (candidate : Media) : Media :=
  let supplied := (request.suppliedDescription.map Publisher.trim).filter
    (fun description => !description.toList.isEmpty)
  { candidate with
    tags := Library.mergeTags candidate.tags request.suppliedTags
    description := if supplied.isSome then supplied else candidate.description
    updatedAt := now }

/-- The decision itself, after the replay checks. No upload is enqueued: a
    pending media is being uploaded for another ingest. -/
def decideDuplicate (db : Db) (id : Uuid) (request : Ingest) (mediaId : Uuid) :
    Except Error (Db × Ingest) := do
  require (request.status = .duplicatePending) (.duplicateDecisionNotAllowed request.status)
  let evidence ← expect request.duplicateEvidence (.duplicateEvidenceMissing id)
  require (mediaId ∈ evidence) (.duplicateCandidateNotEvidenced mediaId)
  let candidate ← expect (db.media.get mediaId) (.duplicateCandidateMissing mediaId)
  require (candidate.storageState = .ready ∨ candidate.storageState = .pending)
    (.duplicateCandidateUnavailable mediaId candidate.storageState)
  let ready := candidate.storageState == .ready
  let accepted ← acceptedIngest db.now mediaId ready request
  let merged := Library.setMedia db mediaId (mergedDuplicate db.now request candidate)
  let enqueued :=
    if ready && request.requestedAction != .save then insertMaterializationJob merged id
    else merged
  pure (setIngest enqueued id accepted, accepted)

def acceptDuplicate (db : Db) (id mediaId : Uuid) : Except Error (Db × AcceptDuplicateResult) := do
  let request ← loadRequest db id
  match request.data.duplicateDecision with
  | some accepted =>
    require (request.forceSave = false ∧ request.mediaId = some accepted ∧ accepted = mediaId)
      (.duplicateDecisionNotAllowed request.status)
    pure (db, ⟨request, true⟩)
  | none =>
    let (decided, accepted) ← decideDuplicate db id request mediaId
    pure (decided, ⟨accepted, false⟩)

end Decisions

section Storage

/-- `UPDATE media SET local_work_path = NULL` in some storage states. -/
def clearLocalWorkPath (db : Db) (mediaId : Uuid) (states : List MediaStorageState)
    (updatedAt : Media → Time) : Db :=
  match db.media.get mediaId with
  | some row =>
    if row.storageState ∈ states then
      Library.setMedia db mediaId { row with localWorkPath := none, updatedAt := updatedAt row }
    else db
  | none => db

/-- `complete_storage_for_media`, by the worker whose upload succeeded or found
    the media stored. -/
def completeStorageForMedia (db : Db) (mediaId : Uuid) : Db :=
  let ready := (db.media.get mediaId).any (·.storageState == .ready)
  let affected (ingest : Ingest) := ready && Library.completable ingest
  let completed := insertMaterializationJobs
    (Library.updateLinked db mediaId affected (Library.completedIngest db.now))
    (Library.linkedPublications db mediaId affected)
  enqueueWorkspaceCleanupForMedia (clearLocalWorkPath completed mediaId [.ready] (·.updatedAt)) mediaId
    db.now

def failedStorageIngest (now : Time) (status : IngestStatus) (errorCode errorMessage : String)
    (ingest : Ingest) : Ingest :=
  { ingest with
    status := status
    errorCode := some errorCode
    errorMessage := some errorMessage
    completedAt := if status = .failedTerminal then some now else none
    updatedAt := now }

/-- A pending media whose upload failed for good. -/
def missStorage (db : Db) (mediaId : Uuid) : Db :=
  match db.media.get mediaId with
  | some row =>
    if row.storageState = .pending then
      enqueueWorkspaceCleanupForMedia
        (Library.setMedia db mediaId (Library.clearedReservation db.now .missing row)) mediaId
        (db.now + workspaceCleanupRetention)
    else db
  | none => db

/-- `fail_storage_for_media`. Neither the lease nor the generation of the
    failed attempt is looked at. -/
def failStorageForMedia (db : Db) (mediaId : Uuid) (status : IngestStatus)
    (errorCode errorMessage : String) : Except Error (Db × Unit) := do
  require (status = .failedRetryable ∨ status = .failedTerminal) (.invalidFailureStatus status)
  let failed := Library.updateLinked db mediaId
    (fun ingest => ingest.status == .storing ||
      (ingest.status == .failedRetryable && ingest.errorCode == some "storage_upload"))
    (failedStorageIngest db.now status errorCode errorMessage)
  pure (if status = .failedTerminal then missStorage failed mediaId else failed, ())

end Storage

section Cleanup

inductive WorkspaceCleanupStart where
  | ready | deferred | alreadyAdvanced
  deriving DecidableEq, Repr

/-- A live job other than this one, and not a cleanup, on the ingest or its media. -/
def hasActiveJob (db : Db) (self : JobId) (ingestId : Uuid) (mediaId : Option Uuid) : Bool :=
  db.jobs.any (fun job =>
    job.id != self && job.state.live && job.command.jobType != .cleanupWorkspace &&
      (job.command.payloadIngest == some ingestId ||
        (mediaId.isSome && job.command.payloadMedia == mediaId)))

def cleanupAllowed : IngestStatus → Bool
  | .completed | .duplicatePending | .failedTerminal | .cancelled | .storing => true
  | _ => false

def storageReleased (db : Db) (mediaId : Option Uuid) : Bool :=
  match mediaId.bind db.media.get with
  | none => true
  | some row => row.storageState == .ready || row.storageState == .missing

def releaseWorkPath (db : Db) : Option Uuid → Db
  | none => db
  | some mediaId =>
    clearLocalWorkPath db mediaId [.ready, .missing]
      (fun row => if row.localWorkPath.isSome then db.now else row.updatedAt)

def beginWorkspaceCleanup (db : Db) (attempt : JobLease) (ingestId workspaceId : Uuid) :
    Except Error (Db × WorkspaceCleanupStart) :=
  if !isCurrent db attempt then .ok (db, .alreadyAdvanced)
  else do
    let request ← loadRequest db ingestId
    -- An older generation's directory is orphaned; its cleanup always proceeds.
    if request.workspaceId ≠ workspaceId then pure (db, .ready)
    else if hasActiveJob db attempt.jobId ingestId request.mediaId then pure (db, .deferred)
    else if cleanupAllowed request.status && storageReleased db request.mediaId then
      pure (releaseWorkPath db request.mediaId, .ready)
    else pure (db, .deferred)

end Cleanup

section Settlement

/-- The ingest of a stage job that ended without it. -/
def abandonedIngest (now : Time) (request : Ingest) : Ingest :=
  if request.status.isTerminal then request
  else { request with
    status := .failedTerminal
    errorCode := some "job_lease_expired"
    errorMessage := some "job lease expired after the final attempt"
    completedAt := some now
    updatedAt := now }

def abandonIngest (db : Db) (ingestId : Uuid) : Db :=
  match db.ingests.get ingestId with
  | none => db
  | some request =>
    enqueueWorkspaceCleanup (setIngest db ingestId (abandonedIngest db.now request)) ingestId
      request.workspaceId (db.now + workspaceCleanupRetention)

/-- The queue update of a stage job, with its ingest when it is the last. -/
def settleStage (db : Db) (job : Job) (ingestId : Uuid) (update : QueueUpdate) : Db :=
  let abandoned := if update.terminal then abandonIngest db ingestId else db
  { abandoned with jobs := updateLockedJob abandoned.jobs db.now job update }

def settleJob (db : Db) (lease : JobLease) (expected : JobCommand) (settlement : JobSettlement) :
    Except JobRepositoryError (Db × Job) := do
  let _ ← expect expected.stageIngest .leaseLost
  let job ← expect (lockRunningJob db.jobs db.now lease settlement.allowsExpiredLease) .leaseLost
  let command ← validateLockedCommand job expected
  let ingestId ← expect command.stageIngest .leaseLost
  let update := queueParameters job settlement
  pure (settleStage db job ingestId update, job.settled db.now update)

def recoverJob (db : Db) (id : JobId) (expected : JobCommand) :
    Except JobRepositoryError (Db × Bool) := do
  let _ ← expect expected.stageIngest .leaseLost
  match lockExpiredJob db.jobs db.now id with
  | none => pure (db, false)
  | some job =>
    let command ← validateLockedCommand job expected
    let ingestId ← expect command.stageIngest .leaseLost
    pure (settleStage db job ingestId (expiredUpdate db.now job), true)

/-- Retention fence of a stage job: its ingest is over and nothing else of it
    is live. -/
def stageJobRetentionEligible (db : Db) (job : Job) (ingestId : Uuid) : Bool :=
  match db.ingests.get ingestId with
  | none => false
  | some request =>
    request.status.isTerminal && !hasActiveJob db job.id ingestId none

end Settlement
end Sooqa.Inbox
