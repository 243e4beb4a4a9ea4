import Sooqa.Foundation.Transition
import Sooqa.Inbox.Attempt

/-!
The ingest side as a whole: submissions and decisions, direct publication
intents, any number of workers running stage, materialization and cleanup
attempts, storage results of media, stale recovery and retention. The rest of
the program may rewrite media and channels, edit posts without changing their
origin, and do anything to jobs of other families. Files carry the ingest and workspace generation they were
published for, and `failedStages` remembers the stage whose failure an ingest
last recorded; the program stores neither.
-/
namespace Sooqa.Inbox
open Foundation Queue Worker

inductive WorkspaceArea where
  | source | normalized | previews
  deriving DecidableEq, Repr

structure Path where
  workspaceId : Uuid
  area : WorkspaceArea
  name : String
  deriving DecidableEq, Repr

/-- The ingest and the generation a file was published for. -/
structure Origin where
  ingestId : Uuid
  workspaceId : Uuid
  deriving DecidableEq, Repr

structure World where
  db : Db
  attempts : Table Uuid Attempt
  files : Table Path Origin
  failedStages : Table Uuid Stage

def initial : World := ⟨Db.empty, ∅, ∅, ∅⟩

/-- The transactions of storage workers and of the operator. -/
inductive StorageCall where
  | completeUpload (mediaId ownerToken : Uuid) (attachment : Library.StorageUploadAttachment)
  | markOwnedUnknown (mediaId ownerToken : Uuid)
  | markUnknown (mediaId : Uuid) (force : Bool)
  | reset (mediaId : Uuid)
  | attach (mediaId : Uuid) (generation : Nat) (attachment : Library.StorageUploadAttachment)
  | completeForMedia (mediaId : Uuid)
  | failForMedia (mediaId : Uuid) (status : IngestStatus) (errorMessage : String)
  | settle (lease : JobLease) (expected : JobCommand) (settlement : JobSettlement)
  | recover (id : JobId) (expected : JobCommand)

def StorageCall.run (db : Db) : StorageCall → Db
  | .completeUpload mediaId ownerToken attachment =>
    committed db (Library.completeStorageUpload db mediaId ownerToken attachment)
  | .markOwnedUnknown mediaId ownerToken =>
    committed db (Library.markOwnedUploadUnknown db mediaId ownerToken)
  | .markUnknown mediaId force =>
    committed db (Library.markStorageUploadUnknown db mediaId force)
  | .reset mediaId => committed db (Library.resetStorageUpload db mediaId)
  | .attach mediaId generation attachment =>
    committed db (Library.attachStorageUpload db mediaId generation attachment)
  | .completeForMedia mediaId => completeStorageForMedia db mediaId
  | .failForMedia mediaId status errorMessage =>
    committed db (failStorageForMedia db mediaId status "storage_upload" errorMessage)
  | .settle lease expected settlement =>
    committed db (Library.settleStorageJob db lease expected settlement)
  | .recover id expected => committed db (Library.recoverStorageJob db id expected)

inductive Action where
  | createIngest (submission : IngestSubmission)
  | forceSave (id : Uuid)
  | acceptDuplicate (id mediaId : Uuid)
  | createIntent (mediaId : Uuid) (intent : PublicationIntent) (requestKey : String)
  | claimJob (worker : String) (leaseDuration : Time) (key : JobKey)
  | heartbeat (token : Uuid) (leaseDuration : Time)
  | call (token : Uuid) (outcome : CallOutcome)
  | report (token : Uuid) (report : Report)
  | publish (token : Uuid) (area : WorkspaceArea) (name : String)
  | removeFile (token : Uuid) (path : Path)
  | endCleanup (token : Uuid) (failure : Option HandlerFailure)
  | finish (token : Uuid) (outcome : CallOutcome)
  | shutdown (token : Uuid) (outcome : CallOutcome)
  | crash (token : Uuid)
  | recover (id : JobId) (expected : JobCommand)
  | prune (key : JobKey) (cutoff : Time)
  | storage (call : StorageCall)
  | tick (elapsed : Time)
  | setChannel (id : Uuid) (channel : Channel)
  | setMedia (id : Uuid) (media : Media)
  | editPost (id : Uuid) (post : Post)
  | putForeignJob (job : Job)
  | deleteForeignJob (key : JobKey)
  | drawUuid

/-- The jobs of the stages and of materialization. -/
def isIngestKey : JobKey → Bool
  | .stage _ _ _ | .materializePublication _ => true
  | _ => false

def ingestCapabilities : List JobType :=
  [.stage .inspectSource, .stage .downloadSource, .stage .probeAsset, .stage .normalizeAsset,
    .stage .computeFingerprint, .stage .finalizeIngest, .materializePublication,
    .cleanupWorkspace]

namespace World

def advance (w : World) (token : Uuid) (attempt : Attempt) (db : Db) (phase : Phase) : World :=
  { w with db := db, attempts := w.attempts.set token { attempt with phase := phase } }

def retire (w : World) (token : Uuid) (db : Db) : World :=
  { w with db := db, attempts := w.attempts.remove token }

end World

/-- The database call an attempt waits for, if its phase waits for one. -/
def Attempt.call (calendar : Publisher.Calendar) (attempt : Attempt) (db : Db)
    (outcome : CallOutcome) : Option (Db × Phase) :=
  match attempt.phase with
  | .started =>
    match attempt.command with
    | .materializePublication ingestId =>
      some (outcome.conclude db .database (Publisher.materializeIngest calendar db ingestId)
        afterMaterialize)
    | .cleanupWorkspace ingestId workspaceId =>
      some (outcome.conclude db .database
        (beginWorkspaceCleanup db attempt.lease ingestId workspaceId) (afterCleanupStart db.now))
    | command =>
      if loadsFirst command then
        match outcome with
        | .answered => some (db, afterLoad (command.stageIngest.bind db.ingests.get))
        | _ => some (db, .returned (.error (mapInboxError .database)))
      else (beginOf db attempt.lease command).map (fun result =>
        outcome.conclude db .database result (afterBegin none))
  | .admitted snapshot =>
    (beginOf db attempt.lease attempt.command).map (fun result =>
      outcome.conclude db .database result (afterBegin (some snapshot)))
  | .resolving ingest =>
    some (outcome.conclude db .database (Library.resolveMedia db ingest) afterResolve)
  | .identifying ingest fingerprint =>
    attempt.command.stageIngest.map (fun ingestId =>
      outcome.conclude db .database
        (beginVideoIdentity db ingestId attempt.lease ingest fingerprint)
        (afterIdentity ingest fingerprint))
  | .completing result =>
    (completeOf db attempt.lease attempt.command result).map (fun result =>
      outcome.conclude db .database result afterComplete)
  | .failing failure =>
    (failOf db attempt.lease failure attempt.command).map (fun result =>
      outcome.conclude db .database result (afterFail failure))
  | _ => none

/-- The stages recorded after a call: a recorded failure names its stage. -/
def recordFailure (w : World) (attempt : Attempt) (db : Db) : Table Uuid Stage :=
  match attempt.phase, attempt.command.jobType, attempt.command.stageIngest with
  | .failing _, .stage which, some ingestId =>
    if db.ingests.get ingestId = w.db.ingests.get ingestId then w.failedStages
    else w.failedStages.set ingestId which
  | _, _, _ => w.failedStages

/-- `settle_lease` for the families of this side. -/
def Attempt.settle (attempt : Attempt) (db : Db) (settlement : JobSettlement) : Db :=
  match attempt.command with
  | .materializePublication _ =>
    committed db (Publisher.settleMaterializeJob db attempt.lease attempt.command settlement)
  | .cleanupWorkspace _ _ =>
    match settleQueueInTransaction db.jobs db.now attempt.lease attempt.command settlement with
    | .ok (jobs, _) => { db with jobs := jobs }
    | .error _ => db
  | _ => committed db (settleJob db attempt.lease attempt.command settlement)

/-- `finish_job`. -/
def Attempt.finish (attempt : Attempt) (db : Db) : Option Db :=
  match attempt.phase with
  | .returned (.ok _) =>
    match completeLease db.jobs db.now attempt.lease with
    | .ok (jobs, _) => some { db with jobs := jobs }
    | .error _ => some db
  | .returned (.error failure) =>
    match finishSettlement db.now failure with
    | some settlement => some (attempt.settle db settlement)
    | none => some db
  | _ => none

def claimJob (w : World) (worker : String) (leaseDuration : Time) (key : JobKey) : Option World :=
  match claimNext w.db.jobs w.db.now w.db.fresh worker leaseDuration ingestCapabilities key with
  | .ok (jobs, some job) =>
    match job.lease with
    | some lease =>
      some { w with
        db := { w.db with jobs := jobs, fresh := w.db.fresh + 1 }
        attempts := w.attempts.set lease.leaseToken ⟨lease, job.command, .started⟩ }
    | none => none
  | _ => none

def recover (db : Db) (id : JobId) (expected : JobCommand) : Db :=
  match expected with
  | .materializePublication _ =>
    committed db (Publisher.recoverMaterializeJob db id expected)
  | _ => committed db (recoverJob db id expected)

/-- One candidate of `prune_terminal_jobs`. -/
def prune (db : Db) (key : JobKey) (cutoff : Time) : Option Db := do
  let job ← db.jobs.get key
  let completedAt ← job.completedAt
  let eligible := match key with
    | .stage _ ingestId _ => stageJobRetentionEligible db job ingestId
    | .materializePublication ingestId => Publisher.materializationRetentionEligible db ingestId
    | _ => false
  if !job.state.live && decide (completedAt ≤ cutoff ∧ cutoff < db.now) && eligible then
    some { db with jobs := db.jobs.delete key }
  else none

def sourceInput : String := "source.bin"
def telegramInput : String := "telegram-input.bin"

/-- The files a stage creates: the download and the probe their input with its
    temporary file, the normalizer anything in the other two areas. -/
def stageWrites (command : JobCommand) (area : WorkspaceArea) (name : String) : Bool :=
  match command with
  | .downloadSource _ _ =>
    area == .source && (name == sourceInput || ".sooqa-source-".toList.isPrefixOf name.toList)
  | .probeAsset _ =>
    area == .source &&
      (name == telegramInput || ".sooqa-telegram-source-".toList.isPrefixOf name.toList)
  | .normalizeAsset _ => area == .normalized || area == .previews
  | _ => false

/-- Publish a file of a working stage; an existing destination is kept. -/
def publishFile (w : World) (attempt : Attempt) (area : WorkspaceArea) (name : String) :
    Option World :=
  match attempt.phase, attempt.workspace, attempt.command.stageIngest with
  | .working _ request, some workspaceId, some ingestId =>
    if stageWrites attempt.command area name then
      some { w with
        files := w.files.insertAbsent ⟨workspaceId, area, name⟩ ⟨ingestId, request.workspaceId⟩ }
    else none
  | _, _, _ => none

/-- `cleanup_existing` removes the files of its directory one by one. -/
def removeFile (w : World) (attempt : Attempt) (path : Path) : Option World :=
  match attempt.phase, attempt.command with
  | .cleaning, .cleanupWorkspace _ workspaceId =>
    if path.workspaceId = workspaceId then some { w with files := w.files.remove path } else none
  | _, _ => none

/-- The result of a cleanup, with the error that stopped it. -/
def endCleanup (w : World) (token : Uuid) (attempt : Attempt) (failure : Option HandlerFailure) :
    Option World :=
  match attempt.phase with
  | .cleaning =>
    match failure with
    | none => some (w.advance token attempt w.db (.returned (.ok ())))
    | some failure => some (w.advance token attempt w.db (.returned (.error failure)))
  | _ => none

def step (calendar : Publisher.Calendar) (w : World) : Action → Option World
  | .createIngest submission =>
    -- A workspace that a submission names was drawn before it.
    if submission.telegramWorkspaceId.all (fun drawn => decide (drawn < w.db.fresh)) then
      some { w with db := committed w.db (createIngest w.db submission) }
    else none
  | .forceSave id => some { w with db := committed w.db (forceSave w.db id) }
  | .acceptDuplicate id mediaId =>
    some { w with db := committed w.db (acceptDuplicate w.db id mediaId) }
  | .createIntent mediaId intent requestKey =>
    some { w with
      db := committed w.db
        (Publisher.createPublicationIntent calendar w.db mediaId intent requestKey) }
  | .claimJob worker leaseDuration key => claimJob w worker leaseDuration key
  | .heartbeat token leaseDuration => do
    let attempt ← w.attempts.get token
    match heartbeatLease w.db.jobs w.db.now attempt.lease leaseDuration with
    | .ok (jobs, _) => some { w with db := { w.db with jobs := jobs } }
    | .error _ => some w
  | .call token outcome => do
    let attempt ← w.attempts.get token
    let (db, phase) ← attempt.call calendar w.db outcome
    some { w.advance token attempt db phase with failedStages := recordFailure w attempt db }
  | .report token report => do
    let attempt ← w.attempts.get token
    let phase ← attempt.report report
    some (w.advance token attempt w.db phase)
  | .publish token area name => do
    let attempt ← w.attempts.get token
    publishFile w attempt area name
  | .removeFile token path => do
    let attempt ← w.attempts.get token
    removeFile w attempt path
  | .endCleanup token failure => do
    let attempt ← w.attempts.get token
    endCleanup w token attempt failure
  | .finish token outcome => do
    let attempt ← w.attempts.get token
    let db ← attempt.finish w.db
    some (w.retire token (if outcome.applied then db else w.db))
  | .shutdown token outcome => do
    let attempt ← w.attempts.get token
    let db := attempt.settle w.db (shutdownSettlement w.db.now)
    some (w.retire token (if outcome.applied then db else w.db))
  | .crash token => do
    let _ ← w.attempts.get token
    some (w.retire token w.db)
  | .recover id expected => some { w with db := recover w.db id expected }
  | .prune key cutoff => do
    let db ← prune w.db key cutoff
    some { w with db := db }
  | .storage call => some { w with db := call.run w.db }
  | .tick elapsed => some { w with db := { w.db with now := w.db.now + elapsed } }
  | .setChannel id channel =>
    some { w with db := { w.db with channels := w.db.channels.set id channel } }
  | .setMedia id media => some { w with db := { w.db with media := w.db.media.set id media } }
  | .editPost id post =>
    if id < w.db.fresh ∧ (w.db.posts.get id).bind (·.originIngestId) = post.originIngestId then
      some { w with db := { w.db with posts := w.db.posts.set id post } }
    else none
  | .putForeignJob job =>
    if isIngestKey job.id.key then none
    else some { w with db := { w.db with jobs := w.db.jobs.put job } }
  | .deleteForeignJob key =>
    if isIngestKey key then none
    else some { w with db := { w.db with jobs := w.db.jobs.delete key } }
  | .drawUuid => some { w with db := { w.db with fresh := w.db.fresh + 1 } }

end Sooqa.Inbox
