import Sooqa.Worker.Runner
import Sooqa.Publisher.Sending

/-!
One run of the `publish_post` handler as a state machine. A phase is a point
where the handler waits for the database or for Telegram; between two points
it does nothing that another party can observe. A Telegram error is its
classification, which is all the handler looks at.
-/
namespace Sooqa.Publisher
open Foundation Queue Worker

def PostState.debug : PostState → String
  | .draft => "Draft"
  | .queued => "Queued"
  | .sending _ _ => "Sending"
  | .published => "Published"
  | .unknown => "Unknown"
  | .failed => "Failed"
  | .cancelled => "Cancelled"

def ValidationError.text : ValidationError → String
  | .emptyRequestKey => "publication request key must not be empty"
  | .requestKeyTooLong => "publication request key must be at most 255 characters"
  | .captionTooLong => "caption must be at most 1024 characters"
  | .captionControlCharacter => "caption contains a disallowed control character"
  | .invalidParseMode => "invalid parse mode"
  | .invalidExpectedRevision => "expected revision must be non-negative"
  | .postNowTimeNotAllowed => "post-now requests must not include an explicit time"

/-- The texts of the errors that an attempt's transactions can return. -/
def Error.text : Error → String
  | .validation error => "publisher validation failed: " ++ error.text
  | .channelMissing id => "channel " ++ toString id ++ " was not found"
  | .channelDisabled id => "channel " ++ toString id ++ " is disabled"
  | .mediaMissing id => "media " ++ toString id ++ " was not found"
  | .mediaNotReady id state =>
    "media " ++ toString id ++ " is not ready for publication: " ++ state.asStr
  | .postMissing id => "post " ++ toString id ++ " was not found"
  | .postNotClaimable id state =>
    "post " ++ toString id ++ " is not claimable in state " ++ PostState.debug state
  | .publishLeaseLost id => "post " ++ toString id ++ " publication lease was lost"
  | .publishConflict id =>
    "post " ++ toString id ++ " publication result conflicts with the stored result"
  | .stalePublicationJob id => "post " ++ toString id ++ " has a stale publication job revision"
  | .revisionOverflow => "post revision overflowed"
  | .invalidPublishFailureState state =>
    "invalid publication failure state " ++ PostState.debug state
  | .invalidTelegramMessageId messageId =>
    "Telegram message ID must be positive, got " ++ toString messageId
  | .ingestMissing id =>
    "ingest " ++ toString id ++ " was not found for publication materialization"
  | .ingestMediaMissing id =>
    "ingest " ++ toString id ++ " has no resolved media for publication materialization"
  | .materializationNotReady id =>
    "ingest " ++ toString id ++ " is not ready for publication materialization"
  | .publicationChannelNotConfigured => "publication requires exactly one enabled target channel"
  | .exactScheduleInPast => "explicit publication time is in the past"
  | .cadenceSearchExhausted => "could not find an allowed cadence slot"
  | .publishJobRunning id => "post " ++ toString id ++ " publication job is already running"
  | .publishJobUnavailable id state =>
    "post " ++ toString id ++ " publication job is unavailable in state " ++ state.asStr
  | .publishJobUpdateLost id =>
    "post " ++ toString id ++ " publication job update affected no rows"
  | _ => "database error"

def mapPublisherError : Error → HandlerFailure
  | .database => .retryableFailure "database_error" (Error.text .database)
  | .channelDisabled id => .retryableFailure "publication_dependency" (Error.text (.channelDisabled id))
  | .mediaNotReady id state =>
    .retryableFailure "publication_dependency" (Error.text (.mediaNotReady id state))
  | .materializationNotReady id =>
    .retryableFailure "publication_dependency" (Error.text (.materializationNotReady id))
  | error => .permanent "publication_state" error.text

inductive ReceiptError where
  | receiptMissing
  | database
  deriving DecidableEq, Repr

def findStorageReceipt (db : Db) (mediaId : Uuid) : Except ReceiptError (Option StorageReceipt) :=
  match db.media.get mediaId with
  | none => .ok none
  | some media =>
    if media.storageState = .ready then
      match media.intoStorageReceipt with
      | some receipt => .ok (some receipt)
      | none => .error .receiptMissing
    else .ok none

structure TelegramPublicationRequest where
  targetChatId : Int
  storageChatId : Int
  storageMessageId : Int
  telegramFileId : Option String
  mediaKind : MediaKind
  caption : Option String
  parseMode : Option String
  disableNotification : Bool
  deriving DecidableEq, Repr

def publicationRequest (claim : PublishClaim) (receipt : StorageReceipt) :
    TelegramPublicationRequest where
  targetChatId := claim.channelChatId
  storageChatId := receipt.storageChatId
  storageMessageId := receipt.storageMessageId
  telegramFileId := receipt.telegramFileId
  mediaKind := receipt.mediaKind
  caption := claim.post.caption
  parseMode := claim.post.parseMode
  disableNotification := claim.post.disableNotification

structure TelegramError where
  copyUnavailable : Bool
  knownCaption : Bool
  retryableNoEffect : Bool
  ambiguous : Bool
  message : String
  deriving DecidableEq, Repr

/-- The errors taken to say that nothing was sent: copy-unavailable, retryable
    without effect, and every rejection, which is what is not ambiguous. -/
def TelegramError.noEffect (error : TelegramError) : Bool :=
  error.copyUnavailable || error.retryableNoEffect || error.knownCaption || !error.ambiguous

inductive TelegramAnswer where
  | sent (messageId : Int)
  | error (error : TelegramError)
  deriving DecidableEq, Repr

inductive Phase where
  /-- before `claim_publish` -/
  | started
  /-- the post was found sending: before `reconcile_interrupted_publish` -/
  | interrupted
  /-- claimed: before the storage receipt is looked up -/
  | claimed (claim : PublishClaim)
  /-- before `copy_from_storage` is dispatched -/
  | prepared (claim : PublishClaim) (request : TelegramPublicationRequest)
  | copying (claim : PublishClaim) (request : TelegramPublicationRequest) (flight : Uuid)
  /-- the copy was unavailable: before `send_storage_file` is dispatched -/
  | fallingBack (claim : PublishClaim) (request : TelegramPublicationRequest)
  | sendingFile (claim : PublishClaim) (flight : Uuid)
  /-- before `complete_publish` -/
  | sent (claim : PublishClaim) (messageId : Int)
  /-- the completion failed: before the post is fenced as unknown -/
  | commitFailed (claim : PublishClaim) (message : String)
  /-- before `retry_publish` -/
  | retrying (claim : PublishClaim) (errorClass message : String)
  /-- before `fail_publish` -/
  | failing (claim : PublishClaim) (state : PostState) (errorClass message : String)
  | returned (result : Except HandlerFailure Unit)

def Phase.claim? : Phase → Option PublishClaim
  | .claimed c | .prepared c _ | .copying c _ _ | .fallingBack c _ | .sendingFile c _
  | .sent c _ | .commitFailed c _ | .retrying c _ _ | .failing c _ _ _ => some c
  | .started | .interrupted | .returned _ => none

structure Attempt where
  lease : JobLease
  postId : Uuid
  expectedRevision : Int
  phase : Phase

def Attempt.publishLease (attempt : Attempt) (claim : PublishClaim) : PublishLease :=
  ⟨claim.post.sendGeneration, claim.token, attempt.lease⟩

def afterClaim : Except Error PublishClaim → Phase
  | .ok claim => .claimed claim
  | .error (.postNotClaimable _ (.sending _ _)) => .interrupted
  | .error (.postNotClaimable _ _) => .returned (.ok ())
  | .error (.stalePublicationJob _) => .returned (.ok ())
  | .error (.publishLeaseLost _) => .returned (.ok ())
  | .error error => .returned (.error (mapPublisherError error))

def afterReconcile : Except Error Bool → Phase
  | .ok _ => .returned (.ok ())
  | .error (.publishLeaseLost _) => .returned (.ok ())
  | .error error => .returned (.error (mapPublisherError error))

def afterReceipt (claim : PublishClaim) : Except ReceiptError (Option StorageReceipt) → Phase
  | .ok (some receipt) => .prepared claim (publicationRequest claim receipt)
  | .ok none =>
    .failing claim .failed "storage_receipt_missing" "media has no ready Telegram storage receipt"
  | .error .database => .retrying claim "storage_receipt_lookup" "database error"
  | .error .receiptMissing =>
    .failing claim .failed "storage_receipt_invalid"
      ("storage receipt for media " ++ toString claim.post.mediaId ++ " is incomplete")

/-- `settle_publication_transport_error`. -/
def afterTransportError (claim : PublishClaim) (error : TelegramError) : Phase :=
  if error.retryableNoEffect then .retrying claim "telegram_retryable" error.message
  else if error.knownCaption then .failing claim .failed "caption_rejected" error.message
  else if error.ambiguous then .failing claim .unknown "publication_unknown" error.message
  else .failing claim .failed "publication_rejected" error.message

def afterCopy (claim : PublishClaim) (request : TelegramPublicationRequest) :
    TelegramAnswer → Phase
  | .sent messageId => .sent claim messageId
  | .error error =>
    if error.copyUnavailable then
      if request.telegramFileId.isNone then
        .failing claim .failed "storage_file_reference_missing"
          "copyMessage was unavailable and the storage receipt has no file ID"
      else .fallingBack claim request
    else afterTransportError claim error

def afterFile (claim : PublishClaim) : TelegramAnswer → Phase
  | .sent messageId => .sent claim messageId
  | .error error => afterTransportError claim error

def afterComplete (claim : PublishClaim) : Except Error Post → Phase
  | .ok _ => .returned (.ok ())
  | .error (.publishConflict _) => .returned (.ok ())
  | .error (.publishLeaseLost _) => .returned (.ok ())
  | .error error => .commitFailed claim error.text

def afterFence (message : String) : Except Error Post → Phase
  | .ok _ => .returned (.error (.permanent "publication_commit" message))
  | .error (.publishLeaseLost _) => .returned (.ok ())
  | .error error =>
    .returned (.error (.permanent "publication_commit"
      (message ++ "; could not fence the publication as unknown: " ++ error.text)))

def afterRetry (errorClass message : String) : Except Error PublishRetry → Phase
  | .ok result =>
    if result.terminal then .returned (.error (.permanent errorClass message))
    else .returned (.error (.retryableFailure errorClass message))
  | .error (.publishLeaseLost _) => .returned (.ok ())
  | .error error =>
    .returned (.error (.permanent "publication_state"
      ("could not requeue a safe publication retry: " ++ error.text)))

def afterFail (errorClass message : String) : Except Error Post → Phase
  | .ok _ => .returned (.error (.permanent errorClass message))
  | .error (.publishLeaseLost _) => .returned (.ok ())
  | .error error =>
    .returned (.error (.permanent "publication_state"
      ("could not record publication outcome: " ++ error.text)))

end Sooqa.Publisher
