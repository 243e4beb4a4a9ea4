import Sooqa.Foundation.Transition
import Sooqa.Publisher.Posts
import Sooqa.Publisher.Attempt

/-!
The publisher as a whole: the API, any number of workers running publish
attempts, Telegram, stale recovery, retention and the rest of the program,
which may rewrite every table but `posts` and every job but publish jobs.
Attempts are filed under the token of their lease. An action carries every
choice its step leaves open: which row a claim takes, whether a call's answer
is lost, what Telegram does with a request and when.
-/
namespace Sooqa.Publisher
open Foundation Queue Worker

/-- What became of a dispatched request: a message, or nothing. -/
inductive Fate where
  | delivered (messageId : Int)
  | refused
  deriving DecidableEq, Repr

/-- A request on its way to Telegram or processed by it. -/
structure Flight where
  postId : Uuid
  token : Uuid
  fate : Option Fate
  deriving DecidableEq, Repr

structure World where
  db : Db
  attempts : Table Uuid Attempt
  flights : Table Uuid Flight

def initial : World := ⟨Db.empty, ∅, ∅⟩

inductive Action where
  | createPost (post : NewPost) (requestKey : String) (requestHash : Digest)
  | createIntent (mediaId : Uuid) (intent : PublicationIntent) (requestKey : String)
  | materialize (ingestId : Uuid)
  | updatePost (id : Uuid) (update : PostUpdate)
  | schedulePost (schedule : PostSchedule)
  | schedulePostExact (schedule : PostSchedule)
  | decidePost (id : Uuid) (decision : PublicationDecision) (requestKey : String)
      (expectedRevision : Int)
  | publishNow (id : Uuid) (requestKey : String) (expectedRevision : Int)
  | cancelPost (id : Uuid) (expectedRevision : Int)
  | claimJob (worker : String) (leaseDuration : Time) (postId : Uuid)
  | heartbeat (token : Uuid) (leaseDuration : Time)
  | call (token : Uuid) (outcome : CallOutcome)
  | dispatch (token : Uuid)
  | process (flight : Uuid) (fate : Fate)
  | answer (token : Uuid) (answer : TelegramAnswer)
  | finish (token : Uuid) (outcome : CallOutcome)
  | shutdown (token : Uuid) (outcome : CallOutcome)
  | crash (token : Uuid)
  | recover (id : JobId) (expected : JobCommand)
  | prune (postId : Uuid) (cutoff : Time)
  | tick (elapsed : Time)
  | setChannel (id : Uuid) (channel : Channel)
  | setMedia (id : Uuid) (media : Media)
  | setIngest (id : Uuid) (ingest : Ingest)
  | putForeignJob (job : Job)
  | deleteForeignJob (key : JobKey)
  | drawUuid

def isPublishKey : JobKey → Bool
  | .publish _ => true
  | _ => false

namespace World

/-- The attempt moves on, with the store its last call left. -/
def advance (w : World) (token : Uuid) (attempt : Attempt) (db : Db) (phase : Phase) : World :=
  { w with db := db, attempts := w.attempts.set token { attempt with phase := phase } }

/-- The attempt is over: it finished, was dropped, or died. -/
def retire (w : World) (token : Uuid) (db : Db) : World :=
  { w with db := db, attempts := w.attempts.remove token }

/-- Put a request of this claim on its way. -/
def launch (w : World) (token : Uuid) (attempt : Attempt) (claim : PublishClaim)
    (phase : Uuid → Phase) : World :=
  { db := { w.db with fresh := w.db.fresh + 1 }
    attempts := w.attempts.set token { attempt with phase := phase w.db.fresh }
    flights := w.flights.set w.db.fresh ⟨claim.postId, claim.token, none⟩ }

end World

/-- The store and the next phase after a database call with this result. -/
def callStep {α : Type} (db : Db) (outcome : CallOutcome) (result : Except Error (Db × α))
    (next : Except Error α → Phase) : Db × Phase :=
  match outcome with
  | .answered => (committed db result, next (result.map (·.2)))
  | .notApplied => (db, next (.error .database))
  | .answerLost => (committed db result, next (.error .database))

/-- The database call an attempt waits for, if its phase waits for one. -/
def Attempt.call (attempt : Attempt) (db : Db) (outcome : CallOutcome) : Option (Db × Phase) :=
  match attempt.phase with
  | .started =>
    some (callStep db outcome
      (claimPublish db attempt.postId attempt.expectedRevision attempt.lease) afterClaim)
  | .interrupted =>
    some (callStep db outcome
      (reconcileInterruptedPublish db attempt.postId attempt.lease) afterReconcile)
  | .claimed claim =>
    match outcome with
    | .answered => some (db, afterReceipt claim (findStorageReceipt db claim.post.mediaId))
    | _ => some (db, afterReceipt claim (.error .database))
  | .sent claim messageId =>
    some (callStep db outcome
      (completePublish db claim.postId (attempt.publishLease claim) messageId)
      (afterComplete claim))
  | .commitFailed claim message =>
    some (callStep db outcome
      (failPublish db claim.postId (attempt.publishLease claim) .unknown "publication_commit"
        message) (afterFence message))
  | .retrying claim errorClass message =>
    some (callStep db outcome
      (retryPublish db claim.postId (attempt.publishLease claim) errorClass message)
      (afterRetry errorClass message))
  | .failing claim state errorClass message =>
    some (callStep db outcome
      (failPublish db claim.postId (attempt.publishLease claim) state errorClass message)
      (afterFail errorClass message))
  | _ => none

/-- Which answers a request can get. A message identifier and an error without
    effect need Telegram to have processed the request so; an ambiguous error
    says nothing about it. -/
def answerable (flight : Flight) : TelegramAnswer → Bool
  | .sent messageId => flight.fate == some (.delivered messageId)
  | .error error => !error.noEffect || flight.fate == some .refused

def Attempt.answered (attempt : Attempt) (flights : Table Uuid Flight) (answer : TelegramAnswer) :
    Option Phase :=
  match attempt.phase with
  | .copying claim request id => do
    let flight ← flights.get id
    if answerable flight answer then some (afterCopy claim request answer) else none
  | .sendingFile claim id => do
    let flight ← flights.get id
    if answerable flight answer then some (afterFile claim answer) else none
  | _ => none

def Attempt.command (attempt : Attempt) : JobCommand :=
  .publishPost attempt.postId attempt.expectedRevision

def Attempt.settle (attempt : Attempt) (db : Db) (settlement : JobSettlement) : Db :=
  committed db (settlePublishJob db attempt.lease attempt.command settlement)

/-- `finish_job`. -/
def Attempt.finish (attempt : Attempt) (db : Db) : Option Db :=
  match attempt.phase with
  | .returned (.ok _) =>
    match completeLease db.jobs db.now attempt.lease with
    | .ok (jobs, _) => some { db with jobs := jobs }
    | .error _ => some db
  | .returned (.error failure) =>
    match finishSettlement db.now failure with
    | some settlement => some (attempt.settle db settlement)
    | none => some db
  | _ => none

def claimJob (w : World) (worker : String) (leaseDuration : Time) (postId : Uuid) :
    Option World :=
  match claimNext w.db.jobs w.db.now w.db.fresh worker leaseDuration [.publishPost]
      (.publish postId) with
  | .ok (jobs, some job) =>
    match job.lease, job.command with
    | some lease, .publishPost post expectedRevision =>
      some { w with
        db := { w.db with jobs := jobs, fresh := w.db.fresh + 1 }
        attempts := w.attempts.set lease.leaseToken ⟨lease, post, expectedRevision, .started⟩ }
    | _, _ => none
  | _ => none

/-- One candidate of `prune_terminal_jobs`. -/
def prune (db : Db) (postId : Uuid) (cutoff : Time) : Option Db :=
  match db.jobs.get (.publish postId) with
  | none => none
  | some job =>
    match job.completedAt with
    | none => none
    | some completedAt =>
      if !job.state.live && decide (completedAt ≤ cutoff ∧ cutoff < db.now) &&
          publishJobRetentionEligible db postId then
        some { db with jobs := db.jobs.delete (.publish postId) }
      else none

def step (calendar : Calendar) (w : World) : Action → Option World
  | .createPost post key hash =>
    some { w with db := committed w.db (createPostIdempotent w.db post key hash) }
  | .createIntent mediaId intent key =>
    some { w with db := committed w.db (createPublicationIntent calendar w.db mediaId intent key) }
  | .materialize ingestId =>
    some { w with db := committed w.db (materializeIngest calendar w.db ingestId) }
  | .updatePost id update => some { w with db := committed w.db (updatePost w.db id update) }
  | .schedulePost schedule =>
    some { w with db := committed w.db (schedulePost calendar w.db schedule) }
  | .schedulePostExact schedule =>
    some { w with db := committed w.db (schedulePostExact w.db schedule) }
  | .decidePost id decision key expectedRevision =>
    some { w with
      db := committed w.db (decidePost calendar w.db id decision key expectedRevision) }
  | .publishNow id key expectedRevision =>
    some { w with db := committed w.db (publishNow w.db id key expectedRevision) }
  | .cancelPost id expectedRevision =>
    some { w with db := committed w.db (cancelPost w.db id expectedRevision) }
  | .claimJob worker leaseDuration postId => claimJob w worker leaseDuration postId
  | .heartbeat token leaseDuration => do
    let attempt ← w.attempts.get token
    match heartbeatLease w.db.jobs w.db.now attempt.lease leaseDuration with
    | .ok (jobs, _) => some { w with db := { w.db with jobs := jobs } }
    | .error _ => some w
  | .call token outcome => do
    let attempt ← w.attempts.get token
    let (db, phase) ← attempt.call w.db outcome
    some (w.advance token attempt db phase)
  | .dispatch token => do
    let attempt ← w.attempts.get token
    match attempt.phase with
    | .prepared claim request => some (w.launch token attempt claim (.copying claim request))
    | .fallingBack claim _ => some (w.launch token attempt claim (.sendingFile claim))
    | _ => none
  | .process id fate => do
    let flight ← w.flights.get id
    if flight.fate.isNone then
      some { w with flights := w.flights.set id { flight with fate := some fate } }
    else none
  | .answer token answer => do
    let attempt ← w.attempts.get token
    let phase ← attempt.answered w.flights answer
    some (w.advance token attempt w.db phase)
  | .finish token outcome => do
    let attempt ← w.attempts.get token
    let db ← attempt.finish w.db
    some (w.retire token (if outcome.applied then db else w.db))
  | .shutdown token outcome => do
    let attempt ← w.attempts.get token
    let db := attempt.settle w.db (shutdownSettlement w.db.now)
    some (w.retire token (if outcome.applied then db else w.db))
  | .crash token => do
    let _ ← w.attempts.get token
    some (w.retire token w.db)
  | .recover id expected =>
    some { w with db := committed w.db (recoverPublishJob w.db id expected) }
  | .prune postId cutoff => do
    let db ← prune w.db postId cutoff
    some { w with db := db }
  | .tick elapsed => some { w with db := { w.db with now := w.db.now + elapsed } }
  | .setChannel id channel =>
    some { w with db := { w.db with channels := w.db.channels.set id channel } }
  | .setMedia id media => some { w with db := { w.db with media := w.db.media.set id media } }
  | .setIngest id ingest =>
    some { w with db := { w.db with ingests := w.db.ingests.set id ingest } }
  | .putForeignJob job =>
    if isPublishKey job.id.key then none
    else some { w with db := { w.db with jobs := w.db.jobs.put job } }
  | .deleteForeignJob key =>
    if isPublishKey key then none
    else some { w with db := { w.db with jobs := w.db.jobs.delete key } }
  | .drawUuid => some { w with db := { w.db with fresh := w.db.fresh + 1 } }

section Sample

/-- A channel without a posting window, whose calendar accepts every instant. -/
def sampleChannel : Channel := ⟨-1001, true, "UTC", 0, 86400, 30, none, false, 0⟩

def sampleCalendar : Calendar := fun requestedAt _ => .ok requestedAt

/-- A stored video with a complete receipt. -/
def sampleMedia : Media where
  kind := .video
  storageState := .ready
  canonicalSha256 := none
  description := none
  tags := []
  sourceUrl := none
  localWorkPath := none
  telegramStorageChatId := some (-5)
  telegramStorageMessageId := some 7
  telegramFileId := some "file"
  telegramFileUniqueId := none
  storageGeneration := 1
  storageToken := none
  storageStartedAt := none
  storedAt := some 0
  captionSyncGeneration := 0
  captionSyncState := .notRequired
  captionSyncError := none
  captionSyncClaimToken := none
  createdAt := 0
  updatedAt := 0

/-- One video posted at once: post 0, whose job is queued. -/
def sampleIntent : List Action :=
  [.setChannel 100 sampleChannel, .setMedia 200 sampleMedia,
    .createIntent 200 ⟨.postNow, none, none⟩ "key"]

end Sample

end Sooqa.Publisher
