import Sooqa.Captions.Repository
import Sooqa.Inbox.System

/-!
Caption edits as a whole: everything that edits a media or stores its message,
any number of workers running caption attempts, and the edits they have sent.
A sent edit takes effect at any later time or is lost; its worker may hear an
error from one that still takes effect. The ingest side may rewrite ingests,
and jobs of other families are the rest of the program's. A message remembers
the media it was sent for or attached to, which the program does not store.
-/
namespace Sooqa.Captions
open Foundation Queue Library Worker

structure MessageId where
  chatId : Int
  messageId : Int
  deriving DecidableEq, Repr

structure Message where
  caption : String
  owner : Option Uuid
  deriving DecidableEq, Repr

/-- A reserved upload with the metadata of its caption and the message it was
    sent as. -/
structure Upload where
  mediaId : Uuid
  metadata : StorageCaptionMetadata
  message : Option MessageId
  deriving DecidableEq, Repr

inductive EditState where
  | sent | applied | lost
  deriving DecidableEq, Repr

structure Edit where
  mediaId : Uuid
  generation : Nat
  message : MessageId
  caption : String
  state : EditState
  deriving DecidableEq, Repr

/-- Where `sync_storage_caption` waits: for its claim, to send its edit, for
    the answer, for its report. -/
inductive Phase where
  | started
  | claimed (claim : CaptionSyncClaim)
  | editing
  | completing (succeeded retryable : Bool) (message : String)
  | returned (result : Except HandlerFailure Unit)

structure Attempt where
  lease : JobLease
  mediaId : Uuid
  generation : Nat
  maxAttempts : Nat
  phase : Phase

structure World where
  db : Db
  attempts : Table Uuid Attempt
  edits : Table Uuid Edit
  uploads : Table Uuid Upload
  messages : Table MessageId Message

def initial : World := ⟨Db.empty, ∅, ∅, ∅, ∅⟩

inductive Action where
  | resolveMedia (ingest : MediaIngest)
  | identifyVideo (ingest : MediaIngest) (fingerprint : Option VideoFingerprintInput)
      (decision : VideoIdentityDecision) (forceSave : Bool)
  | acceptDuplicate (id mediaId : Uuid)
  | updateMedia (id : Uuid) (update : MediaUpdate)
  | retryCaptionSync (id : Uuid)
  | reserveUpload (mediaId : Uuid) (generation : Nat)
  | renewUpload (mediaId ownerToken : Uuid)
  | releaseUpload (mediaId ownerToken : Uuid)
  | sendMessage (ownerToken : Uuid) (message : MessageId)
  | completeUpload (ownerToken : Uuid) (telegramFileId telegramFileUniqueId : Option String)
  | postMessage (message : MessageId) (caption : String)
  | attachUpload (mediaId : Uuid) (generation : Nat) (message : MessageId)
      (telegramFileId telegramFileUniqueId : Option String)
  | storage (call : Inbox.StorageCall)
  | beginCleanup (lease : JobLease) (ingestId workspaceId : Uuid)
  | claimJob (worker : String) (leaseDuration : Time) (key : JobKey)
  | heartbeat (token : Uuid) (leaseDuration : Time)
  | call (token : Uuid) (outcome : CallOutcome)
  | sendEdit (token : Uuid)
  | applyEdit (token : Uuid)
  | loseEdit (token : Uuid)
  | answerEdit (token : Uuid) (error : Option (String × Bool))
  | finish (token : Uuid) (outcome : CallOutcome)
  | shutdown (token : Uuid) (outcome : CallOutcome)
  | crash (token : Uuid)
  | recover (id : JobId) (expected : JobCommand)
  | prune (key : JobKey) (cutoff : Time)
  | tick (elapsed : Time)
  | setIngest (id : Uuid) (ingest : Ingest)
  | putForeignJob (job : Job)
  | deleteForeignJob (key : JobKey)
  | drawUuid

def isCaptionKey : JobKey → Bool
  | .syncCaption _ _ _ => true
  | _ => false

/-- The storage transactions that leave a media its message. -/
def keepsMessage : Inbox.StorageCall → Bool
  | .completeUpload _ _ _ | .attach _ _ _ => false
  | _ => true

section Attempts

def afterBegin : Except Error (Option CaptionSyncClaim) → Phase
  | .ok (some claim) => .claimed claim
  | .ok none => .returned (.ok ())
  | .error error => .returned (.error (Inbox.mapLibraryError error))

def captionFailure (retryable : Bool) (message : String) : HandlerFailure :=
  if retryable then .retryableFailure "caption_sync" message else .permanent "caption_sync" message

def afterComplete (succeeded retryable : Bool) (message : String) :
    Except Error CaptionSyncCompletion → Phase
  | .ok _ => .returned (if succeeded then .ok () else .error (captionFailure retryable message))
  | .error error => .returned (.error (Inbox.mapLibraryError error))

/-- The database call an attempt waits for. -/
def Attempt.call (attempt : Attempt) (db : Db) (outcome : CallOutcome) : Option (Db × Phase) :=
  match attempt.phase with
  | .started =>
    some (outcome.conclude db .database
      (beginCaptionSync db attempt.mediaId attempt.generation attempt.lease.leaseToken) afterBegin)
  | .completing succeeded retryable message =>
    some (outcome.conclude db .database
      (completeCaptionSync db attempt.mediaId attempt.generation attempt.lease.leaseToken
        succeeded retryable (if succeeded then none else some message))
      (afterComplete succeeded retryable message))
  | _ => none

/-- The report an answer leads to: no retry of the last attempt. -/
def Attempt.report (attempt : Attempt) : Option (String × Bool) → Phase
  | none => .completing true false ""
  | some (message, retryable) =>
    .completing false (retryable && decide (attempt.lease.attemptNumber < attempt.maxAttempts)) message

def Attempt.command (attempt : Attempt) : JobCommand :=
  .syncStorageCaption attempt.mediaId attempt.generation

def Attempt.settle (attempt : Attempt) (db : Db) (settlement : JobSettlement) : Db :=
  committed db (settleCaptionJob db attempt.lease attempt.command settlement)

/-- `finish_job`. -/
def Attempt.finish (attempt : Attempt) (db : Db) : Option Db :=
  match attempt.phase with
  | .returned (.ok _) =>
    match completeLease db.jobs db.now attempt.lease with
    | .ok (jobs, _) => some { db with jobs := jobs }
    | .error _ => some db
  | .returned (.error failure) =>
    match finishSettlement db.now failure with
    | some settlement => some (attempt.settle db settlement)
    | none => some db
  | _ => none

end Attempts

namespace World

def advance (w : World) (token : Uuid) (attempt : Attempt) (db : Db) (phase : Phase) : World :=
  { w with db := db, attempts := w.attempts.set token { attempt with phase := phase } }

def retire (w : World) (token : Uuid) (db : Db) : World :=
  { w with db := db, attempts := w.attempts.remove token }

end World

section Steps

def claimJob (w : World) (worker : String) (leaseDuration : Time) (key : JobKey) : Option World :=
  match claimNext w.db.jobs w.db.now w.db.fresh worker leaseDuration [.syncStorageCaption] key with
  | .ok (jobs, some job) =>
    match job.lease, job.command with
    | some lease, .syncStorageCaption mediaId generation =>
      some { w with
        db := { w.db with jobs := jobs, fresh := w.db.fresh + 1 }
        attempts := w.attempts.set lease.leaseToken
          ⟨lease, mediaId, generation, job.maxAttempts, .started⟩ }
    | _, _ => none
  | _ => none

def reserveUpload (w : World) (mediaId : Uuid) (generation : Nat) : World :=
  match reserveStorageUpload w.db mediaId generation with
  | .ok (db, .reserved ownerToken metadata) =>
    { w with db := db, uploads := w.uploads.set ownerToken ⟨mediaId, metadata, none⟩ }
  | _ => w

/-- Telegram gives a new message an identifier that no message has. -/
def sendMessage (w : World) (ownerToken : Uuid) (message : MessageId) : Option World :=
  match w.uploads.get ownerToken with
  | some ⟨mediaId, metadata, none⟩ =>
    if (w.messages.get message).isNone then
      some { w with
        uploads := w.uploads.set ownerToken ⟨mediaId, metadata, some message⟩
        messages := w.messages.set message ⟨storageCaption metadata, some mediaId⟩ }
    else none
  | _ => none

def completeUpload (w : World) (ownerToken : Uuid)
    (telegramFileId telegramFileUniqueId : Option String) : Option World :=
  match w.uploads.get ownerToken with
  | some ⟨mediaId, metadata, some message⟩ =>
    some { w with
      db := committed w.db (completeStorageUpload w.db mediaId ownerToken
        ⟨message.chatId, message.messageId, telegramFileId, telegramFileUniqueId, some metadata⟩) }
  | _ => none

/-- The operator attaches a message that exists, whatever its caption. -/
def attachUpload (w : World) (mediaId : Uuid) (generation : Nat) (message : MessageId)
    (telegramFileId telegramFileUniqueId : Option String) : Option World :=
  match w.messages.get message with
  | none => none
  | some known =>
    match attachStorageUpload w.db mediaId generation
        ⟨message.chatId, message.messageId, telegramFileId, telegramFileUniqueId, none⟩ with
    | .error _ => some w
    | .ok (db, _) =>
      some { w with
        db := db, messages := w.messages.set message { known with owner := some mediaId } }

def sendEdit (w : World) (token : Uuid) (attempt : Attempt) : Option World :=
  match attempt.phase with
  | .claimed claim =>
    some { w with
      attempts := w.attempts.set token { attempt with phase := .editing }
      edits := w.edits.set token ⟨claim.mediaId, claim.generation,
        ⟨claim.storageChatId, claim.storageMessageId⟩, storageCaption claim.metadata, .sent⟩ }
  | _ => none

def applyEdit (w : World) (token : Uuid) : Option World :=
  match w.edits.get token with
  | none => none
  | some edit =>
    match edit.state, w.messages.get edit.message with
    | .sent, some message =>
      some { w with
        edits := w.edits.set token { edit with state := .applied }
        messages := w.messages.set edit.message { message with caption := edit.caption } }
    | _, _ => none

def loseEdit (w : World) (token : Uuid) : Option World :=
  match w.edits.get token with
  | none => none
  | some edit =>
    match edit.state with
    | .sent => some { w with edits := w.edits.set token { edit with state := .lost } }
    | _ => none

/-- An edit is acknowledged after it took effect; an error says nothing. -/
def answerEdit (w : World) (token : Uuid) (attempt : Attempt) (error : Option (String × Bool)) :
    Option World :=
  match attempt.phase, w.edits.get token with
  | .editing, some edit =>
    if error.isNone ∧ edit.state ≠ .applied then none
    else some (w.advance token attempt w.db (attempt.report error))
  | _, _ => none

/-- One candidate of `prune_terminal_jobs`. -/
def prune (db : Db) (key : JobKey) (cutoff : Time) : Option Db :=
  match key, db.jobs.get key with
  | .syncCaption mediaId _ _, some job =>
    if !job.state.live && job.completedAt.any (fun done => decide (done ≤ cutoff ∧ cutoff < db.now)) &&
        captionJobRetentionEligible db mediaId then
      some { db with jobs := db.jobs.delete key }
    else none
  | _, _ => none

def step (w : World) : Action → Option World
  | .resolveMedia ingest => some { w with db := committed w.db (Library.resolveMedia w.db ingest) }
  | .identifyVideo ingest fingerprint decision forceSave =>
    some { w with
      db := committed w.db (persistVideoIdentity w.db ingest fingerprint decision forceSave) }
  | .acceptDuplicate id mediaId =>
    some { w with db := committed w.db (Inbox.acceptDuplicate w.db id mediaId) }
  | .updateMedia id update => some { w with db := committed w.db (Captions.updateMedia w.db id update) }
  | .retryCaptionSync id => some { w with db := committed w.db (Captions.retryCaptionSync w.db id) }
  | .reserveUpload mediaId generation => some (reserveUpload w mediaId generation)
  | .renewUpload mediaId ownerToken =>
    some { w with db := committed w.db (renewStorageUpload w.db mediaId ownerToken) }
  | .releaseUpload mediaId ownerToken =>
    some { w with db := committed w.db (releaseStorageUpload w.db mediaId ownerToken) }
  | .sendMessage ownerToken message => sendMessage w ownerToken message
  | .completeUpload ownerToken fileId uniqueId => completeUpload w ownerToken fileId uniqueId
  | .postMessage message caption =>
    if (w.messages.get message).isNone then
      some { w with messages := w.messages.set message ⟨caption, none⟩ }
    else none
  | .attachUpload mediaId generation message fileId uniqueId =>
    attachUpload w mediaId generation message fileId uniqueId
  | .storage call => if keepsMessage call then some { w with db := call.run w.db } else none
  | .beginCleanup lease ingestId workspaceId =>
    some { w with
      db := committed w.db (Inbox.beginWorkspaceCleanup w.db lease ingestId workspaceId) }
  | .claimJob worker leaseDuration key => claimJob w worker leaseDuration key
  | .heartbeat token leaseDuration => do
    let attempt ← w.attempts.get token
    match heartbeatLease w.db.jobs w.db.now attempt.lease leaseDuration with
    | .ok (jobs, _) => some { w with db := { w.db with jobs := jobs } }
    | .error _ => some w
  | .call token outcome => do
    let attempt ← w.attempts.get token
    let (db, phase) ← attempt.call w.db outcome
    some (w.advance token attempt db phase)
  | .sendEdit token => do
    let attempt ← w.attempts.get token
    sendEdit w token attempt
  | .applyEdit token => applyEdit w token
  | .loseEdit token => loseEdit w token
  | .answerEdit token error => do
    let attempt ← w.attempts.get token
    answerEdit w token attempt error
  | .finish token outcome => do
    let attempt ← w.attempts.get token
    let db ← attempt.finish w.db
    some (w.retire token (if outcome.applied then db else w.db))
  | .shutdown token outcome => do
    let attempt ← w.attempts.get token
    let db := attempt.settle w.db (shutdownSettlement w.db.now)
    some (w.retire token (if outcome.applied then db else w.db))
  | .crash token => do
    let _ ← w.attempts.get token
    some (w.retire token w.db)
  | .recover id expected => some { w with db := committed w.db (recoverCaptionJob w.db id expected) }
  | .prune key cutoff => do
    let db ← prune w.db key cutoff
    some { w with db := db }
  | .tick elapsed => some { w with db := { w.db with now := w.db.now + elapsed } }
  | .setIngest id ingest =>
    some { w with db := { w.db with ingests := w.db.ingests.set id ingest } }
  | .putForeignJob job =>
    if isCaptionKey job.id.key then none
    else some { w with db := { w.db with jobs := w.db.jobs.put job } }
  | .deleteForeignJob key =>
    if isCaptionKey key then none
    else some { w with db := { w.db with jobs := w.db.jobs.delete key } }
  | .drawUuid => some { w with db := { w.db with fresh := w.db.fresh + 1 } }

end Steps

end Sooqa.Captions
