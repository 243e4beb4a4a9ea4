import Sooqa.Inbox.Lifecycle
import Sooqa.Publisher.Attempt

/-!
Runs of the ingest handlers: the six stages, materialization and workspace
cleanup. A phase is a point where the handler waits for the database or works
on files; the result of that work is the environment's choice.
-/
namespace Sooqa.Inbox
open Foundation Queue Worker

section Texts

def IngestStatus.debug : IngestStatus → String
  | .received => "Received"
  | .queued => "Queued"
  | .downloading => "Downloading"
  | .probing => "Probing"
  | .exactDedupCheck => "ExactDedupCheck"
  | .normalizing => "Normalizing"
  | .fingerprinting => "Fingerprinting"
  | .duplicatePending => "DuplicatePending"
  | .storing => "Storing"
  | .completed => "Completed"
  | .failedRetryable => "FailedRetryable"
  | .failedTerminal => "FailedTerminal"
  | .cancelled => "Cancelled"

/-- The texts of the library errors an ingest handler can meet. -/
def libraryErrorText : Library.Error → String
  | .invalidFingerprint => "invalid video fingerprint"
  | .invalidVideoIdentityKind => "video identity requires a video media kind"
  | .duplicateEvidenceTooLarge max =>
    "duplicate evidence exceeds the " ++ toString max ++ "-byte limit"
  | .duplicateEvidenceEmpty => "duplicate evidence must contain at least one match"
  | .duplicateEvidenceTooManyMatches max =>
    "duplicate evidence contains more than " ++ toString max ++ " matches"
  | .duplicateEvidenceMissingStrongMatch =>
    "duplicate evidence does not contain a strong duplicate match"
  | .duplicateEvidenceAlgorithmVersionMismatch expected actual =>
    "duplicate evidence algorithm version " ++ actual ++ " does not match incoming version " ++
      expected
  | .duplicateEvidenceFingerprintVersionMismatch expected actual =>
    "duplicate evidence match fingerprint version " ++ actual ++
      " does not match incoming version " ++ expected
  | .resourceMissing id => "media " ++ toString id ++ " was not found"
  | .missingFingerprint =>
    "video identity requires a fingerprint when the exact SHA is absent"
  | .captionSyncGenerationOverflow id =>
    "caption-sync generation for media " ++ toString id ++ " overflowed"
  | .storageUploadActive id => "storage upload for media " ++ toString id ++ " is active"
  | .storageUploadLeaseLost id =>
    "storage upload lease for media " ++ toString id ++ " was lost"
  | .storageReceiptMissing id => "storage receipt for media " ++ toString id ++ " is incomplete"
  | _ => "database error"

def Error.text : Error → String
  | .resourceMissing id => "ingest " ++ toString id ++ " was not found"
  | .missingMediaId id => "ingest " ++ toString id ++ " has no media ID"
  | .invalidFailureStatus status => "invalid ingest failure status: " ++ IngestStatus.debug status
  | .videoFinalizationNotAllowed =>
    "video ingests must complete the identity gate before storage finalization"
  | .duplicateEvidenceTooLarge max =>
    "duplicate evidence exceeds the " ++ toString max ++ "-byte limit"
  | .duplicateEvidenceTooManyMatches max =>
    "duplicate evidence contains more than " ++ toString max ++ " matches"
  | .invalidStateTransition source target =>
    "invalid ingest state transition: invalid ingest state transition from " ++
      IngestStatus.debug source ++ " to " ++ IngestStatus.debug target
  | .jobLeaseLost => "job lease was lost before ingest completion could be committed"
  | .library error => "library identity operation failed: " ++ libraryErrorText error
  | _ => "database operation failed"

def mapLibraryError : Library.Error → HandlerFailure
  | .database => .retryableFailure "database_error" (libraryErrorText .database)
  | error => .permanent "library_error" (libraryErrorText error)

def mapInboxError : Error → HandlerFailure
  | .library error => mapLibraryError error
  | .resourceMissing id => .permanent "invalid_ingest_state" (Error.text (.resourceMissing id))
  | .invalidFailureStatus status =>
    .permanent "invalid_ingest_state" (Error.text (.invalidFailureStatus status))
  | .invalidStateTransition source target =>
    .permanent "invalid_ingest_state" (Error.text (.invalidStateTransition source target))
  | .videoFinalizationNotAllowed =>
    .permanent "invalid_ingest_state" (Error.text .videoFinalizationNotAllowed)
  | .duplicateEvidenceTooManyMatches max =>
    .permanent "invalid_ingest_state" (Error.text (.duplicateEvidenceTooManyMatches max))
  | .duplicateEvidenceTooLarge max =>
    .permanent "invalid_ingest_state" (Error.text (.duplicateEvidenceTooLarge max))
  | error => .retryableFailure "database_error" error.text

end Texts

/-- What a stage hands over to its completion. -/
inductive StageResult where
  | inspected (inspection : SourceInspection)
  | downloaded (download : SourceDownload)
  | probed (probe : IngestProbe)
  | normalized (normalization : AssetNormalization)
  | identified (ingest : Library.MediaIngest) (fingerprint : Option Library.VideoFingerprintInput)
      (decision : Library.VideoIdentityDecision)
  | finalized (mediaId : Uuid)
  deriving DecidableEq, Repr

/-- `admitted` holds the ingest read for admission, `working` the one the begin
    operation answered with. -/
inductive Phase where
  | started
  | admitted (snapshot : Ingest)
  | working (snapshot : Option Ingest) (request : Ingest)
  | resolving (ingest : Library.MediaIngest)
  | identifying (ingest : Library.MediaIngest)
      (fingerprint : Option Library.VideoFingerprintInput)
  | deciding (request : Ingest) (exactMediaId : Option Uuid) (ingest : Library.MediaIngest)
      (fingerprint : Option Library.VideoFingerprintInput)
  | completing (result : StageResult)
  | failing (failure : HandlerFailure)
  | cleaning
  | returned (result : Except HandlerFailure Unit)

structure Attempt where
  lease : JobLease
  command : JobCommand
  phase : Phase

section Calls

/-- The begin operation of a stage. -/
def beginOf (db : Db) (lease : JobLease) : JobCommand → Option (Except Error (Db × StageStart))
  | .inspectSource i => some (beginSourceInspection db i lease)
  | .downloadSource i _ => some (beginSourceDownload db i lease)
  | .probeAsset i => some (beginAssetProbe db i lease)
  | .normalizeAsset i => some (beginAssetNormalization db i lease)
  | .computeFingerprint i => some (beginIngestFingerprinting db i lease)
  | .finalizeIngest i => some (beginIngestFinalization db i lease)
  | _ => none

/-- The failed ingest's status follows the failure. -/
def failureStatus (failure : HandlerFailure) : IngestStatus :=
  if failure.retryable then .failedRetryable else .failedTerminal

def failOf (db : Db) (lease : JobLease) (failure : HandlerFailure) :
    JobCommand → Option (Except Error (Db × Ingest))
  | .inspectSource i => some (failSourceInspection db i lease (failureStatus failure)
      failure.errorClass failure.message)
  | .downloadSource i _ => some (failSourceDownload db i lease (failureStatus failure)
      failure.errorClass failure.message)
  | .probeAsset i => some (failAssetProbe db i lease (failureStatus failure)
      failure.errorClass failure.message)
  | .normalizeAsset i => some (failAssetNormalization db i lease (failureStatus failure)
      failure.errorClass failure.message)
  | .computeFingerprint i => some (failIngestFingerprint db i lease (failureStatus failure)
      failure.errorClass failure.message)
  | .finalizeIngest i => some (failIngestFinalization db i lease (failureStatus failure)
      failure.errorClass failure.message)
  | _ => none

def completeOf (db : Db) (lease : JobLease) :
    JobCommand → StageResult → Option (Except Error (Db × Ingest))
  | .inspectSource i, .inspected inspection =>
    some (completeSourceInspection db i lease inspection)
  | .downloadSource i _, .downloaded download => some (completeSourceDownload db i lease download)
  | .probeAsset i, .probed probe => some (completeAssetProbe db i lease probe)
  | .normalizeAsset i, .normalized normalization =>
    some (completeAssetNormalization db i lease normalization)
  | .computeFingerprint i, .identified ingest fingerprint decision =>
    some (completeVideoIdentity db i lease ingest fingerprint decision)
  | .finalizeIngest i, .finalized mediaId => some (completeIngestFinalization db i lease mediaId)
  | _, _ => none

/-- The handlers that read the ingest before they begin. -/
def loadsFirst : JobCommand → Bool
  | .downloadSource _ _ | .probeAsset _ | .normalizeAsset _ | .computeFingerprint _ => true
  | _ => false

def afterLoad (found : Option Ingest) : Phase :=
  match found with
  | some snapshot => .admitted snapshot
  | none => .returned (.error (.permanent "ingest_missing" "ingest request was not found"))

def afterBegin (snapshot : Option Ingest) : Except Error StageStart → Phase
  | .ok (.ready request) => .working snapshot request
  | .ok (.alreadyAdvanced _) => .returned (.ok ())
  | .error error => .returned (.error (mapInboxError error))

def afterComplete : Except Error Ingest → Phase
  | .ok _ => .returned (.ok ())
  | .error error => .returned (.error (mapInboxError error))

def afterFail (failure : HandlerFailure) : Except Error Ingest → Phase
  | .ok _ => .returned (.error failure)
  | .error error => .returned (.error (mapInboxError error))

def afterResolve : Except Library.Error Uuid → Phase
  | .ok mediaId => .completing (.finalized mediaId)
  | .error error => .failing (mapLibraryError error)

def afterIdentity (ingest : Library.MediaIngest)
    (fingerprint : Option Library.VideoFingerprintInput) :
    Except Error (StageStart × Option Uuid) → Phase
  | .ok (.ready request, exactMediaId) => .deciding request exactMediaId ingest fingerprint
  | .ok (.alreadyAdvanced _, _) => .returned (.ok ())
  | .error error => .returned (.error (mapInboxError error))

def afterMaterialize {α : Type} : Except Publisher.Error α → Phase
  | .ok _ => .returned (.ok ())
  | .error error => .returned (.error (Publisher.mapPublisherError error))

def afterCleanupStart (now : Time) : Except Error WorkspaceCleanupStart → Phase
  | .ok .ready => .cleaning
  | .ok .alreadyAdvanced => .returned (.ok ())
  | .ok .deferred => .returned (.error (.defer "workspace_protected"
      "workspace is still protected by durable ingest or storage state" (now + minute)))
  | .error error => .returned (.error (mapInboxError error))

end Calls

section Work

/-- What the work between two database calls came to. -/
inductive Report where
  | finished (result : StageResult)
  | resolve (ingest : Library.MediaIngest)
  | fingerprinted (ingest : Library.MediaIngest)
      (fingerprint : Option Library.VideoFingerprintInput)
  | aligned (decision : Library.VideoIdentityDecision)
  | failed (failure : HandlerFailure)
  | abandoned (failure : HandlerFailure)
  deriving DecidableEq, Repr

/-- A forced or already known video is never held as a duplicate. -/
def identityDecision (request : Ingest) (exactMediaId : Option Uuid)
    (alignment : Library.VideoIdentityDecision) : Library.VideoIdentityDecision :=
  if exactMediaId.isSome || request.forceSave then .noMatch else alignment

/-- The phase a report leads to, where the handler can give it. A handler may
    return a failure without recording it on the ingest from every phase. -/
def Attempt.report (attempt : Attempt) (report : Report) : Option Phase :=
  match attempt.phase, attempt.command, report with
  | .returned _, _, _ => none
  | _, _, .abandoned failure => some (.returned (.error failure))
  | .working _ _, _, .failed failure => some (.failing failure)
  | .working _ _, .finalizeIngest _, .resolve ingest => some (.resolving ingest)
  | .working _ _, .computeFingerprint _, .fingerprinted ingest fingerprint =>
    some (.identifying ingest fingerprint)
  | .deciding request exactMediaId ingest fingerprint, _, .aligned alignment =>
    some (.completing (.identified ingest fingerprint
      (identityDecision request exactMediaId alignment)))
  | .working _ _, .inspectSource _, .finished (.inspected inspection) =>
    some (.completing (.inspected inspection))
  | .working _ _, .downloadSource _ _, .finished (.downloaded download) =>
    some (.completing (.downloaded download))
  | .working _ _, .probeAsset _, .finished (.probed probe) => some (.completing (.probed probe))
  | .working _ _, .normalizeAsset _, .finished (.normalized normalization) =>
    some (.completing (.normalized normalization))
  | _, _, _ => none

/-- `probe_stage_may_run`: the statuses in which the Telegram preflight opens
    the workspace. -/
def probeStageMayRun : IngestStatus → Bool
  | .queued | .downloading | .probing | .failedRetryable => true
  | _ => false

/-- The workspace a working stage opens. The Telegram probe keeps the one its
    preflight opened; the download uses the ingest's identifier. -/
def stageWorkspace (command : JobCommand) (snapshot : Option Ingest) (request : Ingest) :
    Option Uuid :=
  match command, snapshot with
  | .downloadSource ingestId _, _ => some ingestId
  | .probeAsset _, some admitted =>
    if admitted.kind = .telegramMessage ∧ probeStageMayRun admitted.status = true then
      some admitted.workspaceId
    else some request.workspaceId
  | .probeAsset _, none | .normalizeAsset _, _ | .computeFingerprint _, _
  | .finalizeIngest _, _ => some request.workspaceId
  | _, _ => none

def Attempt.workspace (attempt : Attempt) : Option Uuid :=
  match attempt.phase with
  | .working snapshot request => stageWorkspace attempt.command snapshot request
  | _ => none

end Work
end Sooqa.Inbox
