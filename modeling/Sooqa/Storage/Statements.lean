import Sooqa.Inbox.Lifecycle

/-!
The end of an upload beside the finalizations of other ingests, statement by
statement under READ COMMITTED. A statement sees what was committed before it.
The writes of a transaction reach the others at its commit, and until then the
rows it has locked are its own. The statements behind the reads that decide
what a transaction writes run with its commit.
-/
namespace Sooqa.Storage.Statements
open Foundation Queue Library

section Finalization

/-- What a finalization has seen of its media: its state, and while that was
    pending, the generation that a second statement found pending. -/
inductive Seen where
  | ready
  | pending (generation : Option Nat)
  | unavailable
  deriving DecidableEq, Repr

/-- `advance_after_media_processing` behind its reads. -/
def advanceSeen (db : Db) (id : Uuid) (request : Ingest) (mediaId : Uuid) :
    Seen → Except Inbox.Error (Db × Ingest)
  | .ready => do
    let moved ← Inbox.transitionTo { request with
      mediaId := some mediaId
      errorCode := none, errorMessage := none, completedAt := none } .completed
    let completed := { moved with completedAt := some db.now, updatedAt := db.now }
    let enqueued :=
      if request.requestedAction ≠ .save then insertMaterializationJob db id else db
    pure (Inbox.setIngest (enqueueWorkspaceCleanup enqueued id request.workspaceId db.now) id
      completed, completed)
  | .pending generation => do
    let moved ← Inbox.transitionTo { request with
      mediaId := some mediaId
      errorCode := none, errorMessage := none, completedAt := none } .storing
    let storing := { moved with updatedAt := db.now }
    let enqueued :=
      match generation with
      | some generation => enqueueStorageUpload db mediaId generation
      | none => db
    pure (Inbox.setIngest enqueued id storing, storing)
  | .unavailable => do
    let moved ← Inbox.transitionTo { request with
      mediaId := some mediaId
      errorCode := none, errorMessage := none, completedAt := none } .failedTerminal
    let failed := { moved with
      errorCode := some "storage_unknown"
      errorMessage := some Inbox.storageUnknownAdvanceMessage
      completedAt := some db.now
      updatedAt := db.now }
    pure (Inbox.setIngest (enqueueWorkspaceCleanup db id request.workspaceId
      (db.now + workspaceCleanupRetention)) id failed, failed)

inductive FinalizationPhase where
  /-- The row of the ingest and the job are locked. -/
  | locked
  /-- The media was pending; its generation is read next. -/
  | waiting
  | seen (what : Seen)
  deriving DecidableEq, Repr

/-- A transaction of `complete_ingest_finalization`, with the row it writes. -/
structure Finalization where
  id : Uuid
  lease : JobLease
  mediaId : Uuid
  request : Ingest
  phase : FinalizationPhase
  deriving DecidableEq, Repr

def beginFinalization (db : Db) (id : Uuid) (lease : JobLease) (mediaId : Uuid) :
    Option Finalization :=
  match db.ingests.get id with
  | none => none
  | some request =>
    if request.status ≠ .storing || request.data.finalization.isSome ||
        !Inbox.isCurrent db lease then none
    else if Inbox.normalizedMediaKind request = some .video then none
    else some {
      id, lease, mediaId
      request := { request with data := { request.data with finalization := some mediaId } }
      phase := .locked }

/-- The generation of a media that is pending. -/
def pendingGeneration (db : Db) (mediaId : Uuid) : Option Nat :=
  ((db.media.get mediaId).filter (·.storageState == .pending)).map (·.storageGeneration)

/-- Its next read of the media, without a lock. -/
def Finalization.read (f : Finalization) (db : Db) : Option FinalizationPhase :=
  match f.phase with
  | .locked =>
    match db.media.get f.mediaId with
    | none => none
    | some media =>
      match media.storageState with
      | .ready => some (.seen .ready)
      | .pending => some .waiting
      | .unknown | .missing => some (.seen .unavailable)
  | .waiting => some (.seen (.pending (pendingGeneration db f.mediaId)))
  | .seen _ => none

/-- Its writes, on what is committed by then. -/
def Finalization.commit (f : Finalization) (db : Db) : Option Db :=
  match f.phase with
  | .seen what =>
    match advanceSeen db f.id f.request f.mediaId what with
    | .ok (advancedDb, advanced) =>
      match Inbox.finishStage advancedDb f.lease advanced with
      | .ok (finished, _) => some finished
      | .error _ => none
    | .error _ => none
  | _ => none

end Finalization

section Uploads

/-- The ingests that the `UPDATE` of a stored media finds. -/
def linkedIngests (db : Db) (mediaId : Uuid) : List Uuid :=
  (Table.rows db.ingests).filterMap (fun row =>
    if row.2.mediaId = some mediaId ∧ completable row.2 = true then some row.1 else none)

/-- Such an `UPDATE` writes a row it found that still is one. -/
def updateFound (db : Db) (mediaId : Uuid) (found : List Uuid) : Db :=
  { db with
    ingests := db.ingests.updateAll (fun id ingest =>
      if id ∈ found ∧ ingest.mediaId = some mediaId ∧ completable ingest = true then
        completedIngest db.now ingest
      else ingest) }

def foundPublications (db : Db) (mediaId : Uuid) (found : List Uuid) : List Uuid :=
  (linkedPublications db mediaId completable).filter (fun id => decide (id ∈ found))

def completeFound (db : Db) (mediaId : Uuid) (found : List Uuid) : Db :=
  insertMaterializationJobs (updateFound db mediaId found) (foundPublications db mediaId found)

inductive UploadPhase where
  | claimed
  /-- The message is sent; `complete_storage_upload` is next. -/
  | sent (ownerToken : Uuid) (attachment : StorageUploadAttachment)
  /-- The transaction has written the media, which nobody else sees yet. -/
  | rowStored (row : Media)
  /-- Its `UPDATE` of the ingests has found these. -/
  | scanned (row : Media) (found : List Uuid)
  /-- It has committed; `complete_storage_for_media` is next. -/
  | completed
  /-- The `UPDATE` of that one has found these. -/
  | swept (found : List Uuid)
  | returned
  deriving DecidableEq, Repr

/-- The row of the media is locked. -/
def UploadPhase.holdsRow : UploadPhase → Bool
  | .rowStored _ | .scanned _ _ => true
  | _ => false

/-- The next statement writes a row of the media that it has not locked. -/
def UploadPhase.needsRow : UploadPhase → Bool
  | .sent _ _ | .swept _ => true
  | _ => false

/-- An attempt of an upload job whose two calls come through. -/
structure Upload where
  lease : JobLease
  mediaId : Uuid
  generation : Nat
  phase : UploadPhase
  deriving DecidableEq, Repr

/-- The reservation, or the media found stored. -/
def Upload.reserve (upload : Upload) (db : Db) (attachment : StorageUploadAttachment) :
    Option (Db × UploadPhase) :=
  match upload.phase with
  | .claimed =>
    match reserveStorageUpload db upload.mediaId upload.generation with
    | .ok (reserved, .reserved ownerToken _) => some (reserved, .sent ownerToken attachment)
    | .ok (_, .reused _) => some (db, .completed)
    | _ => none
  | _ => none

/-- The row that `complete_storage_upload` writes first. -/
def storedRow (db : Db) (mediaId ownerToken : Uuid) (attachment : StorageUploadAttachment) :
    Except Library.Error Media := do
  validateAttachment attachment
  let row ← expect ((ownedUpload db mediaId ownerToken).filter (·.storageState == .pending))
    (.storageUploadLeaseLost mediaId)
  let ready ← readyMedia db.now attachment row
  captionSyncValuesAfterStorageUpload mediaId ready attachment.captionMetadata

/-- The rest of it, for the ingests it found. -/
def commitStored (db : Db) (mediaId : Uuid) (row : Media) (found : List Uuid) : Db :=
  let captioned := enqueueCaptionSyncIfPending (setMedia db mediaId row) mediaId row true
  enqueueWorkspaceCleanupForMedia (completeFound captioned mediaId found) mediaId db.now

/-- What the `UPDATE` of `complete_storage_for_media` finds. -/
def sweptIngests (db : Db) (mediaId : Uuid) : List Uuid :=
  if (db.media.get mediaId).any (·.storageState == .ready) then linkedIngests db mediaId else []

def commitSwept (db : Db) (mediaId : Uuid) (found : List Uuid) : Db :=
  enqueueWorkspaceCleanupForMedia
    (Inbox.clearLocalWorkPath (completeFound db mediaId found) mediaId [.ready] (·.updatedAt))
    mediaId db.now

/-- The next statement of an upload; the list tells which rows it waits for. -/
def Upload.next (upload : Upload) (db : Db) : Option (Db × UploadPhase × List Uuid) :=
  match upload.phase with
  | .sent ownerToken attachment =>
    match storedRow db upload.mediaId ownerToken attachment with
    | .ok row => some (db, .rowStored row, [])
    | .error _ => none
  | .rowStored row => some (db, .scanned row (linkedIngests db upload.mediaId), [])
  | .scanned row found => some (commitStored db upload.mediaId row found, .completed, found)
  | .completed => some (db, .swept (sweptIngests db upload.mediaId), [])
  | .swept found => some (commitSwept db upload.mediaId found, .returned, found)
  | .claimed | .returned => none

end Uploads

section Worlds

structure World where
  db : Db
  finalizations : Table Uuid Finalization
  uploads : Table Uuid Upload

def initial : World := ⟨Db.empty, ∅, ∅⟩

inductive Action where
  | tick (elapsed : Time)
  | resolveMedia (ingest : MediaIngest)
  | prepare (id : Uuid) (ingest : Ingest)
  | enqueue (key : JobKey) (command : JobCommand)
  | claimJob (worker : String) (leaseDuration : Time) (capabilities : List JobType) (key : JobKey)
  | completeJob (lease : JobLease)
  | completeIdentity (id : Uuid) (lease : JobLease) (ingest : MediaIngest)
      (fingerprint : Option VideoFingerprintInput) (decision : VideoIdentityDecision)
  | acceptDuplicate (id mediaId : Uuid)
  | beginFinalization (id : Uuid) (lease : JobLease) (mediaId : Uuid)
  | read (token : Uuid)
  | commit (token : Uuid)
  | rollBack (token : Uuid)
  | reserve (token : Uuid) (attachment : StorageUploadAttachment)
  | next (token : Uuid)
  | finish (token : Uuid)

namespace World

/-- No finalization has locked the ingest. -/
def ingestFree (w : World) (id : Uuid) : Bool :=
  (Table.rows w.finalizations).all (fun row => row.2.id != id)

/-- No upload has locked the media. -/
def mediaFree (w : World) (mediaId : Uuid) : Bool :=
  (Table.rows w.uploads).all (fun row => row.2.mediaId != mediaId || !row.2.phase.holdsRow)

/-- The row of the media with these bytes, if there is one, is free. -/
def bytesFree (w : World) (sha256 : String) : Bool :=
  (findMediaBySha w.db sha256).all (fun found => w.mediaFree found.1)

end World

/-- A claim; an upload job starts an attempt. -/
def claimJob (w : World) (worker : String) (leaseDuration : Time) (capabilities : List JobType)
    (key : JobKey) : Option World :=
  match claimNext w.db.jobs w.db.now w.db.fresh worker leaseDuration capabilities key with
  | .ok (jobs, some job) =>
    let db := { w.db with jobs := jobs, fresh := w.db.fresh + 1 }
    match job.lease, job.command with
    | some lease, .uploadStorageAsset mediaId generation =>
      -- A drawn token is new.
      if (w.uploads.get lease.leaseToken).isNone then
        some { w with
          db := db
          uploads := w.uploads.set lease.leaseToken ⟨lease, mediaId, generation, .claimed⟩ }
      else none
    | _, _ => some { w with db := db }
  | _ => none

/-- The statement gets the rows it writes. -/
def admits (w : World) (upload : Upload) (rows : List Uuid) : Bool :=
  rows.all w.ingestFree && (!upload.phase.needsRow || w.mediaFree upload.mediaId)

/-- Identity and acceptance lock the media before they read it, so each of
    them is one step. -/
def step (w : World) : Action → Option World
  | .tick elapsed => some { w with db := { w.db with now := w.db.now + elapsed } }
  | .resolveMedia ingest =>
    if w.bytesFree ingest.sha256 then
      some { w with db := committed w.db (resolveMedia w.db ingest) }
    else none
  | .prepare id ingest =>
    -- Everything before the finalization leaves the ingest without a media.
    if ingest.mediaId.isNone && (w.db.ingests.get id).all (·.mediaId.isNone) && w.ingestFree id then
      some { w with db := Inbox.setIngest w.db id ingest }
    else none
  | .enqueue key command =>
    if owned : key.owns command = true then
      some { w with db := w.db.enqueue key command owned w.db.now Db.defaultMaxAttempts }
    else none
  | .claimJob worker leaseDuration capabilities key =>
    claimJob w worker leaseDuration capabilities key
  | .completeJob lease =>
    if (w.uploads.get lease.leaseToken).isNone then
      match completeLease w.db.jobs w.db.now lease with
      | .ok (jobs, _) => some { w with db := { w.db with jobs := jobs } }
      | .error _ => some w
    else none
  | .completeIdentity id lease ingest fingerprint decision =>
    if w.ingestFree id && w.bytesFree ingest.sha256 then
      some { w with
        db := committed w.db
          (Inbox.completeVideoIdentity w.db id lease ingest fingerprint decision) }
    else none
  | .acceptDuplicate id mediaId =>
    if w.ingestFree id && w.mediaFree mediaId then
      some { w with db := committed w.db (Inbox.acceptDuplicate w.db id mediaId) }
    else none
  | .beginFinalization id lease mediaId => do
    let f ← beginFinalization w.db id lease mediaId
    if w.ingestFree id && (w.finalizations.get lease.leaseToken).isNone then
      some { w with finalizations := w.finalizations.set lease.leaseToken f }
    else none
  | .read token => do
    let f ← w.finalizations.get token
    let phase ← f.read w.db
    some { w with finalizations := w.finalizations.set token { f with phase := phase } }
  | .commit token => do
    let f ← w.finalizations.get token
    let db ← f.commit w.db
    some { w with db := db, finalizations := w.finalizations.remove token }
  | .rollBack token => some { w with finalizations := w.finalizations.remove token }
  | .reserve token attachment => do
    let upload ← w.uploads.get token
    let (db, phase) ← upload.reserve w.db attachment
    if w.mediaFree upload.mediaId then
      some { w with db := db, uploads := w.uploads.set token { upload with phase := phase } }
    else none
  | .next token => do
    let upload ← w.uploads.get token
    let (db, phase, rows) ← upload.next w.db
    if admits w upload rows then
      some { w with db := db, uploads := w.uploads.set token { upload with phase := phase } }
    else none
  | .finish token => do
    let upload ← w.uploads.get token
    if upload.phase = .returned then
      match completeLease w.db.jobs w.db.now upload.lease with
      | .ok (jobs, _) =>
        some { w with db := { w.db with jobs := jobs }, uploads := w.uploads.remove token }
      | .error _ => some { w with uploads := w.uploads.remove token }
    else none

end Worlds

end Sooqa.Storage.Statements
