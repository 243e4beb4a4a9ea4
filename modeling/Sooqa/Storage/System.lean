import Sooqa.Inbox.System

/-!
Storage uploads as a whole: any number of workers running upload attempts with
their reservations and what Telegram answers, the operator, stale recovery and
retention. The rest of the program may create media, edit the columns that are
not the storage's, enqueue uploads, rewrite ingests, and do anything to jobs of
other families. A reservation remembers its attempt and whether its upload was
sent, which the program does not store.
-/
namespace Sooqa.Storage
open Foundation Queue Library Worker

section Errors

inductive StorageUploadError where
  | mediaMissing (id : Uuid)
  | mediaMissingSha256 (id : Uuid)
  | workspaceReclaimed (id : Uuid)
  | invalidSha256Length (actual : Nat)
  | localFileUnavailable (path : String)
  | localFileOutsideWorkRoot (path root : String)
  | storageOutputLimitExceeded (size limit : Nat)
  | telegramUploadLimitExceeded (size limit : Nat)
  | hash (source : String)
  | hashMismatch (expected actual : String)
  | invalidVideoMetadata (field : String)
  | invalidVideoThumbnail (reason : String)
  | thumbnailStaging (path source : String)
  | inProgress (retryAt : Option Time)
  | reconciliationRequired (id : Uuid)
  | staleGeneration (requestedGeneration currentGeneration : Nat)
  | cancelledBeforeDispatch
  | cancelledAfterDispatch
  | persistence (source : String)
  | api (source : String) (retryable : Bool)
  | ambiguousApi (source : String)
  | ambiguousPersistence (source : String)
  deriving DecidableEq, Repr

namespace StorageUploadError

def text : StorageUploadError → String
  | .mediaMissing id => "media " ++ toString id ++ " was not found"
  | .mediaMissingSha256 id => "media " ++ toString id ++ " has no recorded SHA-256"
  | .workspaceReclaimed id =>
    "media " ++ toString id ++
      " workspace was reclaimed; reconstruction is required before storage upload"
  | .invalidSha256Length actual => "media SHA-256 must contain 32 bytes, got " ++ toString actual
  | .localFileUnavailable path => "media file is not available at " ++ path
  | .localFileOutsideWorkRoot path root =>
    "media file " ++ path ++ " is outside the configured work root " ++ root
  | .storageOutputLimitExceeded size limit =>
    "canonical media file is " ++ toString size ++
      " bytes, above the configured storage ceiling of " ++ toString limit ++ " bytes"
  | .telegramUploadLimitExceeded size limit =>
    "canonical media file is " ++ toString size ++
      " bytes, above the Telegram upload limit of " ++ toString limit ++ " bytes"
  | .hash source => "could not hash canonical asset: " ++ source
  | .hashMismatch expected actual =>
    "media hash mismatch: expected " ++ expected ++ ", got " ++ actual
  | .invalidVideoMetadata field => "video metadata field " ++ field ++ " is invalid"
  | .invalidVideoThumbnail reason => "video thumbnail is invalid: " ++ reason
  | .thumbnailStaging path source =>
    "could not stage video thumbnail " ++ path ++ ": " ++ source
  | .inProgress none => "storage upload is already in progress until None"
  | .inProgress (some retryAt) =>
    "storage upload is already in progress until Some(" ++ toString retryAt ++ ")"
  | .reconciliationRequired id =>
    "storage upload for media " ++ toString id ++ " requires explicit reconciliation"
  | .staleGeneration requestedGeneration currentGeneration =>
    "storage upload generation " ++ toString requestedGeneration ++
      " is stale; current generation is " ++ toString currentGeneration
  | .cancelledBeforeDispatch => "storage upload was cancelled before Telegram dispatch"
  | .cancelledAfterDispatch =>
    "storage upload was cancelled after Telegram dispatch; storage requires reconciliation"
  | .persistence source => "storage persistence failed: " ++ source
  | .api source _ => "Telegram storage API failed: " ++ source
  | .ambiguousApi source =>
    "Telegram storage API result is ambiguous; storage state requires reconciliation: " ++ source
  | .ambiguousPersistence source =>
    "storage state became ambiguous after a successful or uncertain Telegram effect: " ++ source

def isRetryable : StorageUploadError → Bool
  | .inProgress _ | .persistence _ | .cancelledBeforeDispatch => true
  | .api _ retryable => retryable
  | _ => false

def isAmbiguous : StorageUploadError → Bool
  | .ambiguousApi _ | .ambiguousPersistence _ | .cancelledAfterDispatch => true
  | _ => false

/-- What the checks of the local file and of the video can answer. -/
def isLocal : StorageUploadError → Bool
  | .localFileUnavailable _ | .localFileOutsideWorkRoot _ _ | .storageOutputLimitExceeded _ _
  | .telegramUploadLimitExceeded _ _ | .hash _ | .hashMismatch _ _ | .invalidVideoMetadata _
  | .persistence _ => true
  | _ => false

def isThumbnail : StorageUploadError → Bool
  | .invalidVideoThumbnail _ | .thumbnailStaging _ _ => true
  | _ => false

end StorageUploadError

def persistenceError (error : Error) : StorageUploadError :=
  .persistence (Inbox.libraryErrorText error)

def ambiguousPersistenceError (error : Error) : StorageUploadError :=
  .ambiguousPersistence (Inbox.libraryErrorText error)

end Errors

section Attempts

/-- Where an upload waits: for the two reads, the local checks and the
    reservation; then, with the reservation's token, to send, for the answer, for
    the transaction that completes, releases or abandons the upload; then for the
    ingests. -/
inductive Phase where
  | started
  | found (row : Media)
  | checking (row : Media)
  | reserving
  | reserved (ownerToken : Uuid) (metadata : StorageCaptionMetadata)
  | uploading (ownerToken : Uuid) (metadata : StorageCaptionMetadata)
  | completing (ownerToken : Uuid) (attachment : StorageUploadAttachment)
  | releasing (ownerToken : Uuid) (error : StorageUploadError) (ignored : Bool)
  | marking (ownerToken : Uuid) (error : StorageUploadError)
  | stored
  | failing (error : StorageUploadError)
  | returned (result : Except HandlerFailure Unit)

/-- The reservation a phase works with. -/
def Phase.owner : Phase → Option Uuid
  | .reserved ownerToken _ | .uploading ownerToken _ | .completing ownerToken _
  | .releasing ownerToken _ _ | .marking ownerToken _ => some ownerToken
  | _ => none

structure Attempt where
  lease : JobLease
  mediaId : Uuid
  generation : Nat
  maxAttempts : Nat
  phase : Phase

namespace Attempt

/-- What `upload_storage_asset` makes of an error. -/
def conclude (attempt : Attempt) (error : StorageUploadError) : Phase :=
  match error with
  | .staleGeneration _ _ => .returned (.ok ())
  | .cancelledBeforeDispatch =>
    .returned (.error
      (.retryableWithoutConsumingAttempt "storage_upload_cancelled" error.text))
  | .ambiguousPersistence _ => .returned (.error (.storageReconciliationRequired error.text))
  | .ambiguousApi _ | .cancelledAfterDispatch =>
    .returned (.error (.permanent "storage_upload_unknown" error.text))
  | .inProgress (some retryAt) =>
    if attempt.lease.attemptNumber < attempt.maxAttempts then
      .returned (.error (.defer "storage_upload_in_progress" error.text retryAt))
    else .failing error
  | _ => .failing error

def terminal (attempt : Attempt) (error : StorageUploadError) : Bool :=
  !error.isRetryable || decide (attempt.maxAttempts ≤ attempt.lease.attemptNumber)

def failureStatus (attempt : Attempt) (error : StorageUploadError) : IngestStatus :=
  if attempt.terminal error then .failedTerminal else .failedRetryable

def afterFailure (attempt : Attempt) (error : StorageUploadError) :
    Except Inbox.Error Unit → Phase
  | .ok _ =>
    .returned (.error (if attempt.terminal error then .permanent "storage_upload" error.text
      else .retryableFailure "storage_upload" error.text))
  | .error failed => .returned (.error (Inbox.mapInboxError failed))

def afterFind (attempt : Attempt) : Option Media → Phase
  | none => attempt.conclude (.mediaMissing attempt.mediaId)
  | some row => .found row

def afterReceipt (attempt : Attempt) (row : Media) : Except Error (Option StorageReceipt) → Phase
  | .ok (some _) => .stored
  | .ok none => .checking row
  | .error error => attempt.conclude (persistenceError error)

def afterReserve (attempt : Attempt) : Except Error StorageUploadReservation → Phase
  | .ok (.reserved ownerToken metadata) => .reserved ownerToken metadata
  | .ok (.reused _) => .stored
  | .ok (.inProgress retryAt) => attempt.conclude (.inProgress retryAt)
  | .ok .reconciliationRequired => attempt.conclude (.reconciliationRequired attempt.mediaId)
  | .ok (.staleGeneration current) => attempt.conclude (.staleGeneration attempt.generation current)
  | .error error => attempt.conclude (persistenceError error)

def afterCompletion (ownerToken : Uuid) : Except Error (Except Error StorageReceipt) → Phase
  | .ok (.ok _) => .stored
  | .ok (.error error) | .error error => .marking ownerToken (ambiguousPersistenceError error)

def afterRelease (attempt : Attempt) (error : StorageUploadError) (ignored : Bool) :
    Except Error Unit → Phase
  | .ok _ => attempt.conclude error
  | .error failed =>
    attempt.conclude (if ignored then error else persistenceError failed)

def afterMark (attempt : Attempt) (error : StorageUploadError) : Except Error Unit → Phase
  | .ok _ => attempt.conclude error
  | .error failed => attempt.conclude (ambiguousPersistenceError failed)

def afterRenewal (ownerToken : Uuid) (metadata : StorageCaptionMetadata) : Except Error Time → Phase
  | .ok _ => .uploading ownerToken metadata
  | .error error => .marking ownerToken (ambiguousPersistenceError error)

def afterStored : Except Inbox.Error Unit → Phase
  | .ok _ => .returned (.ok ())
  | .error error => .returned (.error (Inbox.mapInboxError error))

end Attempt

def findStorageReceipt (db : Db) (mediaId : Uuid) : Except Error (Option StorageReceipt) :=
  match db.media.get mediaId with
  | some row =>
    if row.storageState = .ready then (intoStorageReceipt mediaId row).map some else .ok none
  | none => .ok none

/-- What follows a read of the database that may get no answer. -/
def afterRead {α β : Type} (outcome : CallOutcome) (value : α) (lost : β) (next : α → β) : β :=
  match outcome with
  | .answered => next value
  | _ => lost

/-- The database call an attempt waits for. -/
def Attempt.call (attempt : Attempt) (db : Db) (outcome : CallOutcome) : Option (Db × Phase) :=
  match attempt.phase with
  | .started =>
    some (db, afterRead outcome (db.media.get attempt.mediaId)
      (attempt.conclude (persistenceError .database)) attempt.afterFind)
  | .found row =>
    some (db, afterRead outcome (findStorageReceipt db attempt.mediaId)
      (attempt.conclude (persistenceError .database)) (attempt.afterReceipt row))
  | .reserving =>
    some (outcome.conclude db .database
      (reserveStorageUpload db attempt.mediaId attempt.generation) attempt.afterReserve)
  | .completing ownerToken attachment =>
    some (outcome.conclude db .database
      (completeStorageUpload db attempt.mediaId ownerToken attachment)
      (afterCompletion ownerToken))
  | .releasing ownerToken error ignored =>
    some (outcome.conclude db .database (releaseStorageUpload db attempt.mediaId ownerToken)
      (attempt.afterRelease error ignored))
  | .marking ownerToken error =>
    some (outcome.conclude db .database (markOwnedUploadUnknown db attempt.mediaId ownerToken)
      (attempt.afterMark error))
  | .stored =>
    some (outcome.conclude db .database
      (.ok (Inbox.completeStorageForMedia db attempt.mediaId, ())) afterStored)
  | .failing error =>
    some (outcome.conclude db .database
      (Inbox.failStorageForMedia db attempt.mediaId (attempt.failureStatus error) "storage_upload"
        error.text) (attempt.afterFailure error))
  | _ => none

/-- The renewal of a reservation while its upload runs. -/
def Attempt.renew (attempt : Attempt) (db : Db) (outcome : CallOutcome) : Option (Db × Phase) :=
  match attempt.phase with
  | .uploading ownerToken metadata =>
    some (outcome.conclude db .database (renewStorageUpload db attempt.mediaId ownerToken)
      (afterRenewal ownerToken metadata))
  | _ => none

/-- The checks before the reservation come in this order: the digest, the file
    the row names, the file itself and the data of a video. -/
def admitsCheck (id : Uuid) (row : Media) : Option StorageUploadError → Bool
  | some (.mediaMissingSha256 media) => row.canonicalSha256.isNone && media == id
  | some (.invalidSha256Length _) => row.canonicalSha256.isSome
  | some (.workspaceReclaimed media) =>
    row.canonicalSha256.isSome && row.localWorkPath.isNone && media == id
  | some error => row.canonicalSha256.isSome && row.localWorkPath.isSome && error.isLocal
  | none => row.canonicalSha256.isSome && row.localWorkPath.isSome

def Attempt.check (attempt : Attempt) (fault : Option StorageUploadError) : Option Phase :=
  match attempt.phase with
  | .checking row =>
    if admitsCheck attempt.mediaId row fault then
      some (fault.elim .reserving attempt.conclude)
    else none
  | _ => none

def Attempt.command (attempt : Attempt) : JobCommand :=
  .uploadStorageAsset attempt.mediaId attempt.generation

def Attempt.settle (attempt : Attempt) (db : Db) (settlement : JobSettlement) : Db :=
  committed db (settleStorageJob db attempt.lease attempt.command settlement)

/-- A result that arrives after the heartbeat stopped is a failure. -/
def runnerResult (heartbeatLost : Bool) : Except HandlerFailure Unit → Except HandlerFailure Unit
  | .ok () =>
    if heartbeatLost then
      .error (.permanent "heartbeat_lost"
        "worker heartbeat stopped while the upload was active")
    else .ok ()
  | .error failure => .error failure

/-- `finish_job`. -/
def Attempt.finish (attempt : Attempt) (heartbeatLost : Bool) (db : Db) : Option Db :=
  match attempt.phase with
  | .returned result =>
    match runnerResult heartbeatLost result with
    | .ok _ =>
      match completeLease db.jobs db.now attempt.lease with
      | .ok (jobs, _) => some { db with jobs := jobs }
      | .error _ => some db
    | .error failure =>
      match finishSettlement db.now failure with
      | some settlement => some (attempt.settle db settlement)
      | none => some db
  | _ => none

end Attempts

section Worlds

/-- What became of a reservation: its upload was not sent yet, was sent, was
    refused by Telegram without an effect, or is not going to be sent. -/
inductive ReservationState where
  | unsent | sent | refused | abandoned
  deriving DecidableEq, Repr

structure Reservation where
  mediaId : Uuid
  generation : Nat
  attempt : Uuid
  state : ReservationState
  deriving DecidableEq, Repr

structure World where
  db : Db
  attempts : Table Uuid Attempt
  reservations : Table Uuid Reservation

def initial : World := ⟨Db.empty, ∅, ∅⟩

/-- What Telegram answers an upload. An error that is not ambiguous tells that
    no message was sent. -/
inductive Response where
  | uploaded (storageChatId messageId : Int) (fileId uniqueId : String)
  | ambiguous (source : String)
  | refused (source : String) (retryable : Bool)

inductive Action where
  | claimJob (worker : String) (leaseDuration : Time) (key : JobKey)
  | heartbeat (token : Uuid) (leaseDuration : Time)
  | call (token : Uuid) (outcome : CallOutcome)
  | check (token : Uuid) (fault : Option StorageUploadError)
  | stageFails (token : Uuid) (error : StorageUploadError)
  | cancel (token : Uuid) (outcome : CallOutcome)
  | dispatch (token : Uuid)
  | renew (token : Uuid) (outcome : CallOutcome)
  | answer (token : Uuid) (response : Response)
  | finish (token : Uuid) (heartbeatLost : Bool) (outcome : CallOutcome)
  | crash (token : Uuid)
  | recover (id : JobId) (expected : JobCommand)
  | prune (key : JobKey) (cutoff : Time)
  | markUnknown (mediaId : Uuid) (force : Bool)
  | reset (mediaId : Uuid)
  | attach (mediaId : Uuid) (generation : Nat) (attachment : StorageUploadAttachment)
  | tick (elapsed : Time)
  | createMedia (media : Media)
  | editMedia (id : Uuid) (media : Media)
  | enqueueUpload (mediaId : Uuid) (generation : Nat)
  | setIngest (id : Uuid) (ingest : Ingest)
  | putForeignJob (job : Job)
  | deleteForeignJob (key : JobKey)
  | drawUuid

def isUploadKey : JobKey → Bool
  | .uploadStorage _ _ => true
  | _ => false

namespace World

def advance (w : World) (token : Uuid) (attempt : Attempt) (db : Db) (phase : Phase) : World :=
  { w with db := db, attempts := w.attempts.set token { attempt with phase := phase } }

def retire (w : World) (token : Uuid) (db : Db) : World :=
  { w with db := db, attempts := w.attempts.remove token }

/-- The reservations after one of them came to this state. -/
def noted (w : World) (ownerToken : Uuid) (state : ReservationState) : Table Uuid Reservation :=
  match w.reservations.get ownerToken with
  | some reservation => w.reservations.set ownerToken { reservation with state := state }
  | none => w.reservations

end World

/-- The storage columns of a row. -/
structure StorageColumns where
  storageState : MediaStorageState
  storageToken : Option Uuid
  storageStartedAt : Option Time
  storageGeneration : Nat
  telegramStorageChatId : Option Int
  telegramStorageMessageId : Option Int
  telegramFileId : Option String
  telegramFileUniqueId : Option String
  deriving DecidableEq, Repr

def storageColumns (row : Media) : StorageColumns :=
  ⟨row.storageState, row.storageToken, row.storageStartedAt, row.storageGeneration,
    row.telegramStorageChatId, row.telegramStorageMessageId, row.telegramFileId,
    row.telegramFileUniqueId⟩

/-- The storage columns of a row that was just inserted. -/
def StorageColumns.inserted : StorageColumns := ⟨.pending, none, none, 0, none, none, none, none⟩

end Worlds

section Steps

def claimJob (w : World) (worker : String) (leaseDuration : Time) (key : JobKey) : Option World :=
  match claimNext w.db.jobs w.db.now w.db.fresh worker leaseDuration [.uploadStorageAsset] key with
  | .ok (jobs, some job) =>
    match job.lease, job.command with
    | some lease, .uploadStorageAsset mediaId generation =>
      some { w with
        db := { w.db with jobs := jobs, fresh := w.db.fresh + 1 }
        attempts := w.attempts.set lease.leaseToken
          ⟨lease, mediaId, generation, job.maxAttempts, .started⟩ }
    | _, _ => none
  | _ => none

/-- A granted reservation enters the record when its answer arrives. -/
def reserving (w : World) (token : Uuid) (attempt : Attempt) (phase : Phase) :
    Table Uuid Reservation :=
  match attempt.phase, phase with
  | .reserving, .reserved ownerToken _ =>
    w.reservations.set ownerToken ⟨attempt.mediaId, attempt.generation, token, .unsent⟩
  | _, _ => w.reservations

/-- A thumbnail that cannot be staged gives the reservation back. -/
def stageFails (w : World) (token : Uuid) (attempt : Attempt) (error : StorageUploadError) :
    Option World :=
  match attempt.phase with
  | .reserved ownerToken _ =>
    if error.isThumbnail then
      some { w.advance token attempt w.db (.releasing ownerToken error true) with
        reservations := w.noted ownerToken .abandoned }
    else none
  | _ => none

/-- A cancellation. It drops a completion that may have been applied. -/
def cancel (w : World) (token : Uuid) (attempt : Attempt) (outcome : CallOutcome) : Option World :=
  match attempt.phase with
  | .reserved ownerToken _ =>
    some { w.advance token attempt w.db (.releasing ownerToken .cancelledBeforeDispatch false) with
      reservations := w.noted ownerToken .abandoned }
  | .uploading ownerToken _ =>
    some (w.advance token attempt w.db (.marking ownerToken .cancelledAfterDispatch))
  | .completing ownerToken attachment =>
    let completed := committed w.db
      (completeStorageUpload w.db attempt.mediaId ownerToken attachment)
    some (w.advance token attempt (if outcome.applied then completed else w.db)
      (.marking ownerToken .cancelledAfterDispatch))
  | _ => none

def dispatch (w : World) (token : Uuid) (attempt : Attempt) : Option World :=
  match attempt.phase with
  | .reserved ownerToken metadata =>
    some { w.advance token attempt w.db (.uploading ownerToken metadata) with
      reservations := w.noted ownerToken .sent }
  | _ => none

def answer (w : World) (token : Uuid) (attempt : Attempt) (response : Response) : Option World :=
  match attempt.phase with
  | .uploading ownerToken metadata =>
    match response with
    | .uploaded storageChatId messageId fileId uniqueId =>
      some (w.advance token attempt w.db (.completing ownerToken
        ⟨storageChatId, messageId, some fileId, some uniqueId, some metadata⟩))
    | .ambiguous source =>
      some (w.advance token attempt w.db (.marking ownerToken (.ambiguousApi source)))
    | .refused source retryable =>
      some { w.advance token attempt w.db (.releasing ownerToken (.api source retryable) false) with
        reservations := w.noted ownerToken .refused }
  | _ => none

def uploadJobRetentionEligible (db : Db) (mediaId : Uuid) : Bool :=
  match db.media.get mediaId with
  | some row => row.storageState == .ready || row.storageState == .missing
  | none => false

/-- One candidate of `prune_terminal_jobs`. -/
def prune (db : Db) (key : JobKey) (cutoff : Time) : Option Db :=
  match key, db.jobs.get key with
  | .uploadStorage mediaId _, some job =>
    if !job.state.live && job.completedAt.any (fun done => decide (done ≤ cutoff ∧ cutoff < db.now)) &&
        uploadJobRetentionEligible db mediaId then
      some { db with jobs := db.jobs.delete key }
    else none
  | _, _ => none

def step (w : World) : Action → Option World
  | .claimJob worker leaseDuration key => claimJob w worker leaseDuration key
  | .heartbeat token leaseDuration => do
    let attempt ← w.attempts.get token
    match heartbeatLease w.db.jobs w.db.now attempt.lease leaseDuration with
    | .ok (jobs, _) => some { w with db := { w.db with jobs := jobs } }
    | .error _ => some w
  | .call token outcome => do
    let attempt ← w.attempts.get token
    let (db, phase) ← attempt.call w.db outcome
    some { w.advance token attempt db phase with
      reservations := reserving w token attempt phase }
  | .check token fault => do
    let attempt ← w.attempts.get token
    let phase ← attempt.check fault
    some (w.advance token attempt w.db phase)
  | .stageFails token error => do
    let attempt ← w.attempts.get token
    stageFails w token attempt error
  | .cancel token outcome => do
    let attempt ← w.attempts.get token
    cancel w token attempt outcome
  | .dispatch token => do
    let attempt ← w.attempts.get token
    dispatch w token attempt
  | .renew token outcome => do
    let attempt ← w.attempts.get token
    let (db, phase) ← attempt.renew w.db outcome
    some (w.advance token attempt db phase)
  | .answer token response => do
    let attempt ← w.attempts.get token
    answer w token attempt response
  | .finish token heartbeatLost outcome => do
    let attempt ← w.attempts.get token
    let db ← attempt.finish heartbeatLost w.db
    some (w.retire token (if outcome.applied then db else w.db))
  | .crash token => do
    let _ ← w.attempts.get token
    some (w.retire token w.db)
  | .recover id expected => some { w with db := committed w.db (recoverStorageJob w.db id expected) }
  | .prune key cutoff => do
    let db ← prune w.db key cutoff
    some { w with db := db }
  | .markUnknown mediaId force =>
    some { w with db := committed w.db (markStorageUploadUnknown w.db mediaId force) }
  | .reset mediaId => some { w with db := committed w.db (resetStorageUpload w.db mediaId) }
  | .attach mediaId generation attachment =>
    some { w with db := committed w.db (attachStorageUpload w.db mediaId generation attachment) }
  | .tick elapsed => some { w with db := { w.db with now := w.db.now + elapsed } }
  | .createMedia media =>
    if storageColumns media = .inserted then
      some { w with db := { setMedia w.db w.db.fresh media with fresh := w.db.fresh + 1 } }
    else none
  | .editMedia id media =>
    if (w.db.media.get id).any (fun row => storageColumns row == storageColumns media) then
      some { w with db := setMedia w.db id media }
    else none
  | .enqueueUpload mediaId generation =>
    -- The finalization of an ingest read the generation before it enqueues.
    if (w.db.media.get mediaId).any (fun row => generation ≤ row.storageGeneration) then
      some { w with db := enqueueStorageUpload w.db mediaId generation }
    else none
  | .setIngest id ingest =>
    some { w with db := { w.db with ingests := w.db.ingests.set id ingest } }
  | .putForeignJob job =>
    if isUploadKey job.id.key then none
    else some { w with db := { w.db with jobs := w.db.jobs.put job } }
  | .deleteForeignJob key =>
    if isUploadKey key then none
    else some { w with db := { w.db with jobs := w.db.jobs.delete key } }
  | .drawUuid => some { w with db := { w.db with fresh := w.db.fresh + 1 } }

end Steps

end Sooqa.Storage
