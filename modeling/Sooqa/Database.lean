import Sooqa.Queue.Lease

/-!
The five tables. Rows carry the columns that the modelled transactions read or
write; enumerated text columns are inductive types, and a send token exists
exactly while a post is sending, as the CHECK constraint on `posts` says. The
store also holds its clock and the source of fresh identifiers: every
`now_v7` and `gen_random_uuid` draws a value never drawn before.
-/
namespace Sooqa
open Foundation Queue

structure Channel where
  telegramChatId : Int
  isEnabled : Bool
  timeZone : String
  windowStart : Nat
  windowEnd : Nat
  intervalMinutes : Int
  defaultParseMode : Option String
  defaultDisableNotification : Bool
  updatedAt : Time
  deriving DecidableEq, Repr

inductive MediaKind where
  | video | image | animation | audio
  deriving DecidableEq, Repr

inductive MediaStorageState where
  | pending | ready | unknown | missing
  deriving DecidableEq, Repr

def MediaStorageState.asStr : MediaStorageState → String
  | .pending => "pending_storage"
  | .ready => "ready"
  | .unknown => "storage_unknown"
  | .missing => "missing"

inductive CaptionSyncState where
  | notRequired | pending | syncing | synced | failed
  deriving DecidableEq, Repr

structure StorageCaptionMetadata where
  description : Option String
  tags : List String
  sourceUrl : Option String
  deriving DecidableEq, Repr

structure Media where
  kind : MediaKind
  storageState : MediaStorageState
  canonicalSha256 : Option String
  description : Option String
  tags : List String
  sourceUrl : Option String
  localWorkPath : Option (Uuid × String)
  telegramStorageChatId : Option Int
  telegramStorageMessageId : Option Int
  telegramFileId : Option String
  telegramFileUniqueId : Option String
  storageGeneration : Nat
  storageToken : Option Uuid
  storageStartedAt : Option Time
  storedAt : Option Time
  captionSyncGeneration : Nat
  captionSyncState : CaptionSyncState
  captionSyncError : Option String
  captionSyncClaimToken : Option Uuid
  createdAt : Time
  updatedAt : Time
  deriving DecidableEq, Repr

/-- The stored message of a media, as publication and reuse need it. -/
structure StorageReceipt where
  storageChatId : Int
  storageMessageId : Int
  telegramFileId : Option String
  mediaKind : MediaKind
  deriving DecidableEq, Repr

/-- `into_storage_receipt`: the location columns, when they name a message of a
    group or channel. -/
def Media.intoStorageReceipt (row : Media) : Option StorageReceipt :=
  match row.telegramStorageChatId, row.telegramStorageMessageId with
  | some chatId, some messageId =>
    if chatId < 0 ∧ 0 < messageId then
      some ⟨chatId, messageId, row.telegramFileId, row.kind⟩
    else none
  | _, _ => none

inductive PublicationAction where
  | queue | postNow
  deriving DecidableEq, Repr

inductive PublicationDecision where
  | postNowAnyway | queueAnyway | keepExactTime | cancel
  deriving DecidableEq, Repr

structure PublicationIntent where
  action : PublicationAction
  requestedPublishAt : Option Time
  caption : Option String
  deriving DecidableEq, Repr

/-- Request digests. SHA-256 is read as injective, so a digest is its
    preimage: the domain tag with the hashed fields. -/
inductive Digest where
  | schedule (requestedAt : Time)
  | publishNow (requestKey : String)
  | exactSchedule (requestedAt : Time)
  | decision (decision : PublicationDecision) (expectedRevision : Int)
  | intent (mediaId : Uuid) (intent : PublicationIntent)
  | caller (bytes : String)
  deriving DecidableEq, Repr

inductive PostState where
  | draft
  | queued
  | sending (token : Uuid) (startedAt : Time)
  | published
  | unknown
  | failed
  | cancelled
  deriving DecidableEq, Repr

def PostState.asStr : PostState → String
  | .draft => "draft"
  | .queued => "queued"
  | .sending _ _ => "sending"
  | .published => "published"
  | .unknown => "unknown"
  | .failed => "failed"
  | .cancelled => "cancelled"

def PostState.isQueueMutable : PostState → Bool
  | .draft | .queued | .failed => true
  | _ => false

/-- The states that no transaction leaves. -/
def PostState.isFinal : PostState → Bool
  | .published | .unknown | .cancelled => true
  | _ => false

def PostState.sendToken : PostState → Option Uuid
  | .sending token _ => some token
  | _ => none

structure RepeatConflict where
  postId : Uuid
  state : PostState
  instant : Time
  targetMessageLink : Option String
  deriving DecidableEq, Repr

structure Post where
  requestKey : Option String
  requestHash : Option Digest
  originIngestId : Option Uuid
  requestedAction : PublicationAction
  requestedPublishAt : Option Time
  repeatEvidence : Option (List RepeatConflict)
  decisionRequestKey : Option String
  decisionRequestHash : Option Digest
  scheduleRequestKey : Option String
  scheduleRequestHash : Option Digest
  mediaId : Uuid
  channelId : Uuid
  state : PostState
  caption : Option String
  parseMode : Option String
  disableNotification : Bool
  scheduledAt : Time
  cadenceSlotAt : Option Time
  sendGeneration : Nat
  telegramMessageId : Option Int
  publishedAt : Option Time
  errorClass : Option String
  errorMessage : Option String
  createdAt : Time
  updatedAt : Time
  revision : Nat
  deriving DecidableEq, Repr

inductive IngestKind where
  | url | telegramMessage | upload
  deriving DecidableEq, Repr

inductive RequestedAction where
  | save | queue | postNow
  deriving DecidableEq, Repr

inductive IngestStatus where
  | received | queued | downloading | probing | exactDedupCheck | normalizing | fingerprinting
  | duplicatePending | storing | completed | failedRetryable | failedTerminal | cancelled
  deriving DecidableEq, Repr

def IngestStatus.isTerminal : IngestStatus → Bool
  | .completed | .failedTerminal | .cancelled => true
  | _ => false

def IngestStatus.canTransitionTo (self target : IngestStatus) : Bool :=
  if self == target then true
  else if self.isTerminal then false
  else match self, target with
    | _, .failedRetryable | _, .failedTerminal | _, .cancelled => true
    | .failedRetryable, .queued | .received, .queued | .queued, .downloading
    | .downloading, .probing | .probing, .normalizing | .probing, .exactDedupCheck
    | .exactDedupCheck, .normalizing | .normalizing, .fingerprinting | .normalizing, .storing
    | .fingerprinting, .storing | .fingerprinting, .duplicatePending
    | .fingerprinting, .completed | .duplicatePending, .queued | .duplicatePending, .storing
    | .failedRetryable, .storing | .failedRetryable, .fingerprinting
    | .storing, .fingerprinting | .storing, .completed => true
    | _, _ => false

structure SourceDownload where
  bytes : Nat
  mimeType : Option String
  mediaKind : SourceMediaKind
  selectedFormat : Option String
  deriving DecidableEq, Repr

/-- What the pipeline reads of the probe document. -/
structure IngestProbe where
  mediaKind : Option SourceMediaKind
  imageFormat : Option String
  deriving DecidableEq, Repr

/-- The normalized file: the workspace it lies in and its name there. -/
structure AssetNormalization where
  localWorkPath : Uuid × String
  sha256 : String
  mediaKind : SourceMediaKind
  deriving DecidableEq, Repr

/-- The durable stage results kept in `input_json`. -/
structure IngestData where
  telegramWorkspaceId : Option Uuid
  mimeType : Option String
  fileName : Option String
  mediaKind : Option SourceMediaKind
  inspection : Option SourceInspection
  download : Option SourceDownload
  probe : Option IngestProbe
  probedMediaKind : Option SourceMediaKind
  normalization : Option AssetNormalization
  finalization : Option Uuid
  duplicateDecision : Option Uuid
  deriving DecidableEq, Repr

structure Ingest where
  inputKey : String
  requestHash : String
  kind : IngestKind
  status : IngestStatus
  data : IngestData
  suppliedDescription : Option String
  suppliedTags : List String
  requestedAction : RequestedAction
  requestedPublishAt : Option Time
  requestedPostCaption : Option String
  requestedChannelId : Option Uuid
  workspaceId : Uuid
  mediaId : Option Uuid
  forceSave : Bool
  duplicateEvidence : Option (List Uuid)
  errorCode : Option String
  errorMessage : Option String
  createdAt : Time
  updatedAt : Time
  completedAt : Option Time
  deriving DecidableEq, Repr

structure Db where
  channels : Table Uuid Channel
  media : Table Uuid Media
  posts : Table Uuid Post
  ingests : Table Uuid Ingest
  jobs : Jobs
  now : Time
  fresh : Uuid

namespace Db

def empty : Db := ⟨∅, ∅, ∅, ∅, .empty, 0, 0⟩

/-- `INSERT INTO queue.jobs … ON CONFLICT DO NOTHING` of a queued row. -/
def enqueue (db : Db) (key : JobKey) (command : JobCommand) (owned : key.owns command = true)
    (runAt : Time) (maxAttempts : Nat) : Db :=
  { db with
    jobs := db.jobs.insertAbsent (.new key command owned db.fresh db.now runAt maxAttempts)
    fresh := db.fresh + 1 }

/-- The default of `NewJob::new` and of the table. -/
def defaultMaxAttempts : Nat := 5

@[simp] theorem enqueue_posts (db : Db) (key command owned runAt maxAttempts) :
    (db.enqueue key command owned runAt maxAttempts).posts = db.posts := rfl

@[simp] theorem enqueue_ingests (db : Db) (key command owned runAt maxAttempts) :
    (db.enqueue key command owned runAt maxAttempts).ingests = db.ingests := rfl

@[simp] theorem enqueue_media (db : Db) (key command owned runAt maxAttempts) :
    (db.enqueue key command owned runAt maxAttempts).media = db.media := rfl

@[simp] theorem enqueue_now (db : Db) (key command owned runAt maxAttempts) :
    (db.enqueue key command owned runAt maxAttempts).now = db.now := rfl

@[simp] theorem enqueue_fresh (db : Db) (key command owned runAt maxAttempts) :
    (db.enqueue key command owned runAt maxAttempts).fresh = db.fresh + 1 := rfl

theorem enqueue_jobs_get (db : Db) (key command owned runAt maxAttempts) (other : JobKey) :
    (db.enqueue key command owned runAt maxAttempts).jobs.get other =
      if other = key then
        some ((db.jobs.get other).getD
          (.new key command owned db.fresh db.now runAt maxAttempts))
      else db.jobs.get other := Jobs.get_insertAbsent _ _ _

end Db
end Sooqa
