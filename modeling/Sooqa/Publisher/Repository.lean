import Mathlib.Algebra.Group.Nat.Defs
import Mathlib.Data.List.Sort
import Sooqa.Database
import Sooqa.Foundation.Outcome

/-!
The publication transactions. Each operation reads the store it is given and
returns the committed store with its answer, or an error, after which nothing
is committed. The channel calendar (time zone, window and interval of a
channel) is a parameter, as it rests on the time-zone database.
-/
namespace Sooqa.Publisher
open Foundation Queue

inductive ValidationError where
  | emptyRequestKey | requestKeyTooLong | captionTooLong | captionControlCharacter
  | invalidParseMode | invalidExpectedRevision | postNowTimeNotAllowed
  deriving DecidableEq, Repr

inductive Error where
  | validation (error : ValidationError)
  | channelMissing (id : Uuid)
  | channelDisabled (id : Uuid)
  | publicationChannelNotConfigured
  | publicationChannelAmbiguous
  | mediaMissing (id : Uuid)
  | mediaNotReady (id : Uuid) (state : MediaStorageState)
  | postMissing (id : Uuid)
  | postNotEditable (id : Uuid) (state : PostState)
  | postCannotBeScheduled (id : Uuid) (state : PostState)
  | ingestMissing (id : Uuid)
  | ingestMediaMissing (id : Uuid)
  | materializationNotReady (ingestId : Uuid)
  | invalidPublicationDecision (id : Uuid) (decision : PublicationDecision)
  | postDecisionNotAllowed (id : Uuid) (state : PostState)
  | repeatDecisionRequired (id : Uuid)
  | exactTimeMissing (id : Uuid)
  | postNotClaimable (id : Uuid) (state : PostState)
  | requestKeyConflict (key : String)
  | optimisticConflict (id : Uuid)
  | emptyUpdate
  | publishLeaseLost (id : Uuid)
  | publishConflict (id : Uuid)
  | stalePublicationJob (id : Uuid)
  | publishJobRunning (id : Uuid)
  | publishJobUnavailable (postId : Uuid) (state : JobState)
  | publishJobUpdateLost (id : Uuid)
  | revisionOverflow
  | invalidPublishFailureState (state : PostState)
  | invalidTelegramMessageId (messageId : Int)
  | invalidTimeZone
  | cadenceSearchExhausted
  | exactScheduleInPast
  | database
  deriving DecidableEq, Repr

/-- `next_allowed_slot`: the first instant of the channel's grid from a request on. -/
abbrev Calendar := Time → Channel → Except Error Time

def maxRequestKeyLength : Nat := 255
def maxCaptionLength : Nat := 1024
def maxRepeatEvidenceConflicts : Nat := 8

def isWhiteSpace (c : Char) : Bool :=
  let n := c.toNat
  (9 ≤ n && n ≤ 13) || n == 0x20 || n == 0x85 || n == 0xA0 || n == 0x1680 ||
    (0x2000 ≤ n && n ≤ 0x200A) || n == 0x2028 || n == 0x2029 || n == 0x202F || n == 0x205F ||
    n == 0x3000

def trim (value : String) : String :=
  String.ofList ((value.toList.dropWhile isWhiteSpace).reverse.dropWhile isWhiteSpace).reverse

def isControl (c : Char) : Bool := c.toNat < 0x20 || (0x7F ≤ c.toNat && c.toNat ≤ 0x9F)

def normalizeRequestKey (value : String) : Except Error String :=
  let value := trim value
  if value.toList.isEmpty then .error (.validation .emptyRequestKey)
  else if maxRequestKeyLength < value.toList.length then .error (.validation .requestKeyTooLong)
  else .ok value

def validateCaption (caption : String) : Except Error Unit :=
  if maxCaptionLength < caption.toList.length then .error (.validation .captionTooLong)
  else if caption.toList.any (fun c => isControl c && !(c == '\n' || c == '\r' || c == '\t')) then
    .error (.validation .captionControlCharacter)
  else .ok ()

def validateParseMode (mode : String) : Except Error Unit :=
  if mode == "HTML" || mode == "MarkdownV2" then .ok ()
  else .error (.validation .invalidParseMode)

def PublicationIntent.tryNew (action : PublicationAction) (requestedPublishAt : Option Time)
    (caption : Option String) : Except Error PublicationIntent := do
  require (¬ (action = .postNow ∧ requestedPublishAt.isSome)) (.validation .postNowTimeNotAllowed)
  let caption := (caption.map trim).filter (fun value => !value.toList.isEmpty)
  validateSome validateCaption caption
  pure ⟨action, requestedPublishAt, caption⟩

def lockChannel (db : Db) (id : Uuid) : Except Error Channel :=
  expect (db.channels.get id) (.channelMissing id)

def ensureChannelEnabled (id : Uuid) (channel : Channel) : Except Error Unit :=
  if channel.isEnabled then .ok () else .error (.channelDisabled id)

def lockPost (db : Db) (id : Uuid) : Except Error Post :=
  expect (db.posts.get id) (.postMissing id)

/-- `post_channel_id`, `lock_channel` and `lock_post`: the lock order of every
    publication mutation. -/
def lockChannelAndPost (db : Db) (id : Uuid) : Except Error (Channel × Post) := do
  let post ← lockPost db id
  let channel ← lockChannel db post.channelId
  pure (channel, post)

def ensureMediaReady (db : Db) (id : Uuid) : Except Error Unit :=
  match db.media.get id with
  | none => .error (.mediaMissing id)
  | some media =>
    if media.storageState = .ready then .ok ()
    else .error (.mediaNotReady id media.storageState)

def ensureRepeatDecisionResolved (id : Uuid) (post : Post) : Except Error Unit :=
  if post.repeatEvidence.isSome then .error (.repeatDecisionRequired id) else .ok ()

def checkExpectedRevision (id : Uuid) (post : Post) (expectedRevision : Int) : Except Error Unit :=
  if expectedRevision < 0 then .error (.validation .invalidExpectedRevision)
  else if expectedRevision ≠ post.revision then .error (.optimisticConflict id)
  else .ok ()

/-- `checked_add` on a 64-bit revision. -/
def nextRevision (current : Nat) : Except Error Nat :=
  if current < 2 ^ 63 - 1 then .ok (current + 1) else .error .revisionOverflow

/-- `revision + 1` computed by the database, which refuses to overflow. -/
def databaseIncrement (limit current : Nat) : Except Error Nat :=
  if current < limit then .ok (current + 1) else .error .database

def bumpRevision (current : Nat) : Except Error Nat := databaseIncrement (2 ^ 63 - 1) current

def ensurePublicationChannel (ids : List Uuid) : Except Error Uuid :=
  match ids with
  | [] => .error .publicationChannelNotConfigured
  | [id] => .ok id
  | _ => .error .publicationChannelAmbiguous

/-- `SELECT id FROM channels WHERE is_enabled ORDER BY id LIMIT 2`. -/
def selectEnabledChannelCandidates (db : Db) : List Uuid :=
  let enabled := (Table.rows db.channels).filter (fun row => row.2.isEnabled)
  ((enabled.map (·.1)).insertionSort (· ≤ ·)).take 2

def setPost (db : Db) (id : Uuid) (post : Post) : Db := { db with posts := db.posts.set id post }

def telegramMessageLink (chatId messageId : Int) : String :=
  let chat := (toString chatId).toList
  let chat := if "-100".toList.isPrefixOf chat then chat.drop 4 else chat
  "https://t.me/c/" ++ String.ofList chat ++ "/" ++ toString messageId

def occupiesRepeatWindow (intendedAt : Time) (post : Post) : Bool :=
  match post.state with
  | .queued | .sending _ _ => true
  | .published =>
    match post.publishedAt with
    | some publishedAt => decide (intendedAt < publishedAt + 14 * day ∧ publishedAt < intendedAt)
    | none => false
  | _ => false

def repeatConflict (db : Db) (id : Uuid) (post : Post) : RepeatConflict where
  postId := id
  state := post.state
  instant := post.publishedAt.getD post.scheduledAt
  targetMessageLink :=
    match post.state, post.telegramMessageId, db.channels.get post.channelId with
    | .published, some messageId, some channel =>
      some (telegramMessageLink channel.telegramChatId messageId)
    | _, _, _ => none

def findRepeatConflicts (db : Db) (mediaId : Uuid) (intendedAt : Time) (postId : Uuid) :
    List RepeatConflict :=
  let rows := (Table.rows db.posts).filter (fun row =>
    row.2.mediaId == mediaId && row.1 != postId && occupiesRepeatWindow intendedAt row.2)
  let ordered := (rows.map (fun row => repeatConflict db row.1 row.2)).insertionSort
    (fun a b => a.instant < b.instant ∨ (a.instant = b.instant ∧ a.postId ≤ b.postId))
  ordered.take maxRepeatEvidenceConflicts

/-- The cadence slots other posts of the channel hold. -/
def occupiedSlots (db : Db) (channelId postId : Uuid) : List Time :=
  (Table.rows db.posts).filterMap (fun row =>
    if row.2.channelId = channelId ∧ row.1 ≠ postId then
      match row.2.state with
      | .queued | .sending _ _ => row.2.cadenceSlotAt
      | _ => none
    else none)

def searchFreeSlot (calendar : Calendar) (channel : Channel) (occupied : List Time) :
    Nat → Time → Except Error Time
  | 0, _ => .error .cadenceSearchExhausted
  | fuel + 1, candidate =>
    if candidate ∉ occupied then .ok candidate
    else do
      let next ← calendar (candidate + second) channel
      searchFreeSlot calendar channel occupied fuel next

def nextFreeSlot (calendar : Calendar) (db : Db) (channelId : Uuid) (channel : Channel)
    (postId : Uuid) (requestedAt : Time) : Except Error Time := do
  let candidate ← calendar (max requestedAt db.now) channel
  searchFreeSlot calendar channel (occupiedSlots db channelId postId) 10000 candidate

section PublishJob

def publishJobRow (db : Db) (postId : Uuid) (runAt : Time) (revision : Nat) : Job :=
  .new (.publish postId) (.publishPost postId revision) (by simp [JobKey.owns]) db.fresh db.now
    runAt Db.defaultMaxAttempts

/-- Insert the job in state queued, or failed when its post is. -/
def insertPublishJobRow (db : Db) (postId : Uuid) (runAt : Time) (revision : Nat)
    (failed : Bool) : Except Error Db :=
  if (db.jobs.get (.publish postId)).isSome then .error (.publishJobUpdateLost postId)
  else
    let job := publishJobRow db postId runAt revision
    let job := if failed then { job with state := .failed, completedAt := some db.now } else job
    .ok { db with jobs := db.jobs.put job, fresh := db.fresh + 1 }

/-- The row `update_publish_job` writes. Attempts restart only from a failed job. -/
def requeuedPublishJob (now : Time) (job : Job) (runAt : Time) (revision : Nat) : Job :=
  { job.withRevision revision with
    runAt := runAt
    state := .queued
    attemptCount := if job.state = .failed then 0 else job.attemptCount
    errorClass := none
    errorMessage := none
    completedAt := none
    updatedAt := now }

def updatePublishJob (db : Db) (postId : Uuid) (runAt : Time) (revision : Nat) :
    Except Error Db :=
  match db.jobs.get (.publish postId) with
  | none => insertPublishJobRow db postId runAt revision false
  | some job =>
    match job.state with
    | .running _ => .error (.publishJobRunning postId)
    | .queued | .failed =>
      .ok { db with jobs := db.jobs.put (requeuedPublishJob db.now job runAt revision) }
    | state => .error (.publishJobUnavailable postId state)

def insertPublishJob (db : Db) (postId : Uuid) (runAt : Time) (revision : Nat) :
    Except Error Db :=
  match db.jobs.get (.publish postId) with
  | some job =>
    match job.state with
    | .running _ => .error (.publishJobRunning postId)
    | _ => updatePublishJob db postId runAt revision
  | none => insertPublishJobRow db postId runAt revision false

def editedPublishJob (now : Time) (job : Job) (revision : Nat) : Job :=
  { job.withRevision revision with updatedAt := now }

def cancelledPublishJob (now : Time) (job : Job) : Job :=
  { job with state := .cancelled, completedAt := some now, updatedAt := now }

def updateFailedPublishJob (db : Db) (postId : Uuid) (runAt : Time) (revision : Nat) :
    Except Error Db :=
  match db.jobs.get (.publish postId) with
  | none => insertPublishJobRow db postId runAt revision true
  | some job =>
    match job.state with
    | .failed =>
      .ok { db with jobs := db.jobs.put (editedPublishJob db.now job revision) }
    | state => .error (.publishJobUnavailable postId state)

def cancelPublishJob (db : Db) (postId : Uuid) : Except Error Db :=
  match db.jobs.get (.publish postId) with
  | none => .ok db
  | some job =>
    match job.state with
    | .running _ => .error (.publishJobRunning postId)
    | .queued | .failed =>
      .ok { db with jobs := db.jobs.put (cancelledPublishJob db.now job) }
    | state => .error (.publishJobUnavailable postId state)

end PublishJob

section Requests

structure PostUpdate where
  caption : Option (Option String)
  parseMode : Option (Option String)
  disableNotification : Option Bool
  expectedUpdatedAt : Option Time
  expectedRevision : Int
  deriving DecidableEq, Repr

/-- A cadence or exact schedule request. Both constructors normalize the key
    and refuse a negative revision. -/
structure PostSchedule where
  postId : Uuid
  requestedAt : Time
  requestKey : String
  expectedRevision : Int
  deriving DecidableEq, Repr

def PostSchedule.tryNew (postId : Uuid) (requestedAt : Time) (requestKey : String)
    (expectedRevision : Int) : Except Error PostSchedule := do
  let requestKey ← normalizeRequestKey requestKey
  require (0 ≤ expectedRevision) (.validation .invalidExpectedRevision)
  pure ⟨postId, requestedAt, requestKey, expectedRevision⟩

structure NewPost where
  mediaId : Uuid
  channelId : Uuid
  caption : Option String
  parseMode : Option String
  disableNotification : Bool
  deriving DecidableEq, Repr

end Requests

section Create

/-- A post row with the table's defaults. -/
def draftPost (now : Time) (mediaId channelId : Uuid) : Post where
  requestKey := none
  requestHash := none
  originIngestId := none
  requestedAction := .queue
  requestedPublishAt := none
  repeatEvidence := none
  decisionRequestKey := none
  decisionRequestHash := none
  scheduleRequestKey := none
  scheduleRequestHash := none
  mediaId := mediaId
  channelId := channelId
  state := .draft
  caption := none
  parseMode := none
  disableNotification := false
  scheduledAt := now
  cadenceSlotAt := none
  sendGeneration := 0
  telegramMessageId := none
  publishedAt := none
  errorClass := none
  errorMessage := none
  createdAt := now
  updatedAt := now
  revision := 0

def findPostByRequestKey (db : Db) (key : String) : Option (Uuid × Post) :=
  (Table.rows db.posts).find? (fun row => row.2.requestKey == some key)

def findPostByOrigin (db : Db) (ingestId : Uuid) : Option (Uuid × Post) :=
  (Table.rows db.posts).find? (fun row => row.2.originIngestId == some ingestId)

structure CreatePostResult where
  id : Uuid
  post : Post
  created : Bool
  deriving DecidableEq, Repr

/-- Insert a post under a fresh identifier. The unique indexes on the request
    key and on the origin ingest turn a second row into a database error. -/
def insertPost (db : Db) (post : Post) : Except Error (Db × Uuid) := do
  require (∀ key ∈ post.requestKey, (findPostByRequestKey db key).isNone) .database
  require (∀ ingest ∈ post.originIngestId, (findPostByOrigin db ingest).isNone) .database
  pure ({ setPost db db.fresh post with fresh := db.fresh + 1 }, db.fresh)

def createPostIdempotent (db : Db) (post : NewPost) (requestKey : String) (requestHash : Digest) :
    Except Error (Db × CreatePostResult) := do
  validateSome validateCaption post.caption
  validateSome validateParseMode post.parseMode
  let requestKey ← normalizeRequestKey requestKey
  require (db.media.get post.mediaId).isSome (.mediaMissing post.mediaId)
  let channel ← lockChannel db post.channelId
  ensureChannelEnabled post.channelId channel
  match findPostByRequestKey db requestKey with
  | some (id, existing) =>
    require (existing.requestHash = some requestHash) (.requestKeyConflict requestKey)
    pure (db, ⟨id, existing, false⟩)
  | none =>
    let row := { draftPost db.now post.mediaId post.channelId with
      requestKey := some requestKey
      requestHash := some requestHash
      caption := post.caption
      parseMode := post.parseMode
      disableNotification := post.disableNotification }
    let (db, id) ← insertPost db row
    pure (db, ⟨id, row, true⟩)

/-- The instant an intent is evaluated at: now, the requested future instant,
    or the next free cadence slot. -/
def evaluationInstant (calendar : Calendar) (db : Db) (channelId : Uuid) (channel : Channel)
    (intent : PublicationIntent) : Except Error Time :=
  match intent.action, intent.requestedPublishAt with
  | .postNow, none => .ok db.now
  | .postNow, some _ => .error (.validation .postNowTimeNotAllowed)
  | .queue, some requestedAt =>
    if requestedAt ≤ db.now then .error .exactScheduleInPast else .ok requestedAt
  | .queue, none => nextFreeSlot calendar db channelId channel db.fresh db.now

def intendedPost (db : Db) (requestKey : String) (requestHash : Digest)
    (originIngestId : Option Uuid) (mediaId channelId : Uuid) (channel : Channel)
    (intent : PublicationIntent) (evaluationAt : Time) : Post :=
  let conflicts := findRepeatConflicts db mediaId evaluationAt db.fresh
  { draftPost db.now mediaId channelId with
    requestKey := some requestKey
    requestHash := some requestHash
    originIngestId := originIngestId
    requestedAction := intent.action
    requestedPublishAt := intent.requestedPublishAt
    repeatEvidence := if conflicts.isEmpty then none else some conflicts
    state := if conflicts.isEmpty then .queued else .draft
    caption := intent.caption
    parseMode := channel.defaultParseMode
    disableNotification := channel.defaultDisableNotification
    scheduledAt := evaluationAt
    cadenceSlotAt :=
      if conflicts.isEmpty ∧ intent.action = .queue ∧ intent.requestedPublishAt = none then
        some evaluationAt
      else none }

def insertIntendedPost (calendar : Calendar) (db : Db) (requestKey : String)
    (requestHash : Digest) (originIngestId : Option Uuid) (mediaId channelId : Uuid)
    (channel : Channel) (intent : PublicationIntent) :
    Except Error (Db × CreatePostResult) := do
  let evaluationAt ← evaluationInstant calendar db channelId channel intent
  let row := intendedPost db requestKey requestHash originIngestId mediaId channelId channel
    intent evaluationAt
  let (db, id) ← insertPost db row
  if row.state = .queued then
    let db ← insertPublishJob db id evaluationAt row.revision
    pure (db, ⟨id, row, true⟩)
  else pure (db, ⟨id, row, true⟩)

def createPublicationIntent (calendar : Calendar) (db : Db) (mediaId : Uuid)
    (intent : PublicationIntent) (requestKey : String) :
    Except Error (Db × CreatePostResult) := do
  let requestKey ← normalizeRequestKey requestKey
  let requestHash := Digest.intent mediaId intent
  match findPostByRequestKey db requestKey with
  | some (id, existing) =>
    require (existing.requestHash = some requestHash) (.requestKeyConflict requestKey)
    pure (db, ⟨id, existing, false⟩)
  | none =>
    ensureMediaReady db mediaId
    let channelId ← ensurePublicationChannel (selectEnabledChannelCandidates db)
    let channel ← lockChannel db channelId
    insertIntendedPost calendar db requestKey requestHash none mediaId channelId channel intent

def RequestedAction.publication : RequestedAction → Option PublicationAction
  | .save => none
  | .queue => some .queue
  | .postNow => some .postNow

/-- `materialize_ingest`. The state is checked before an existing post is
    looked for, so a materialized ingest that was taken back is not ready. -/
def materializeIngest (calendar : Calendar) (db : Db) (ingestId : Uuid) :
    Except Error (Db × Option CreatePostResult) := do
  let ingest ← expect (db.ingests.get ingestId) (.ingestMissing ingestId)
  match RequestedAction.publication ingest.requestedAction with
  | none => pure (db, none)
  | some action =>
    require (ingest.status = .completed) (.materializationNotReady ingestId)
    match findPostByOrigin db ingestId with
    | some (id, existing) => pure (db, some ⟨id, existing, false⟩)
    | none =>
      let mediaId ← expect ingest.mediaId (.ingestMediaMissing ingestId)
      ensureMediaReady db mediaId
      let channelId ← expect ingest.requestedChannelId .publicationChannelNotConfigured
      let channel ← lockChannel db channelId
      ensureChannelEnabled channelId channel
      let intent ← PublicationIntent.tryNew action ingest.requestedPublishAt
        ingest.requestedPostCaption
      let requestKey := "ingest:" ++ toString ingestId ++ ":publication:v1"
      let (db, result) ← insertIntendedPost calendar db requestKey (.intent mediaId intent)
        (some ingestId) mediaId channelId channel intent
      pure (db, some result)

end Create
end Sooqa.Publisher
