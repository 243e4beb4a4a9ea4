import Sooqa.Publisher.Repository

/-!
Transactions of a publish attempt, and the settlement and recovery of its job.
Those of the attempt are fenced twice: by the job lease, checked under the row
lock, and, after the claim, by the send generation and token of the post.
-/
namespace Sooqa.Publisher
open Foundation Queue

structure PublishClaim where
  postId : Uuid
  post : Post
  token : Uuid
  channelChatId : Int
  deriving DecidableEq, Repr

structure PublishLease where
  generation : Nat
  token : Uuid
  attempt : JobLease
  deriving DecidableEq, Repr

def lockPublishAttempt (db : Db) (id : Uuid) (attempt : JobLease) : Except Error Job :=
  match lockCurrentJobAttempt db.jobs db.now attempt with
  | some job =>
    match job.command with
    | .publishPost postId _ =>
      if postId = id then .ok job else .error (.publishLeaseLost id)
    | _ => .error (.publishLeaseLost id)
  | none => .error (.publishLeaseLost id)

def claimPublish (db : Db) (id : Uuid) (expectedRevision : Int) (attempt : JobLease) :
    Except Error (Db × PublishClaim) := do
  let (channel, current) ← lockChannelAndPost db id
  let _ ← lockPublishAttempt db id attempt
  require (current.state = .queued) (.postNotClaimable id current.state)
  require ((current.revision : Int) = expectedRevision) (.stalePublicationJob id)
  ensureChannelEnabled current.channelId channel
  ensureMediaReady db current.mediaId
  let revision ← nextRevision current.revision
  let generation ← databaseIncrement (2 ^ 31 - 1) current.sendGeneration
  let token := db.fresh
  let row := { current with
    state := .sending token db.now
    sendGeneration := generation
    revision := revision
    updatedAt := db.now }
  pure ({ setPost db id row with fresh := db.fresh + 1 },
    ⟨id, row, token, channel.telegramChatId⟩)

/-- The post is sending under exactly this claim. -/
def holdsClaim (post : Post) (lease : PublishLease) : Bool :=
  match post.state with
  | .sending token _ => post.sendGeneration == lease.generation && token == lease.token
  | _ => false

def completePublish (db : Db) (id : Uuid) (lease : PublishLease) (telegramMessageId : Int) :
    Except Error (Db × Post) := do
  require (0 < telegramMessageId) (.invalidTelegramMessageId telegramMessageId)
  let (_, current) ← lockChannelAndPost db id
  let _ ← lockPublishAttempt db id lease.attempt
  if current.state = .published then
    require (current.sendGeneration = lease.generation ∧
      current.telegramMessageId = some telegramMessageId) (.publishConflict id)
    pure (db, current)
  else
    require (holdsClaim current lease) (.publishLeaseLost id)
    let revision ← bumpRevision current.revision
    let row := { current with
      state := .published
      telegramMessageId := some telegramMessageId
      publishedAt := some (current.publishedAt.getD db.now)
      errorClass := none
      errorMessage := none
      revision := revision
      updatedAt := db.now }
    pure (setPost db id row, row)

def failPublish (db : Db) (id : Uuid) (lease : PublishLease) (state : PostState)
    (errorClass errorMessage : String) : Except Error (Db × Post) := do
  require (state = .failed ∨ state = .unknown) (.invalidPublishFailureState state)
  let (_, current) ← lockChannelAndPost db id
  let _ ← lockPublishAttempt db id lease.attempt
  require (holdsClaim current lease) (.publishLeaseLost id)
  let revision ← bumpRevision current.revision
  let row := { current with
    state := state
    errorClass := some errorClass
    errorMessage := some errorMessage
    revision := revision
    updatedAt := db.now }
  pure (setPost db id row, row)

structure PublishRetry where
  post : Post
  terminal : Bool
  deriving DecidableEq, Repr

/-- Put a post whose send had no effect back into the queue, with the payload
    of its running job moved to the new revision, or fail it when this was
    the last attempt. -/
def retryPublish (db : Db) (id : Uuid) (lease : PublishLease) (errorClass errorMessage : String) :
    Except Error (Db × PublishRetry) := do
  let (_, current) ← lockChannelAndPost db id
  let job ← lockPublishAttempt db id lease.attempt
  require (holdsClaim current lease) (.publishLeaseLost id)
  let revision ← nextRevision current.revision
  let terminal := decide (job.maxAttempts ≤ job.attemptCount)
  let row := { current with
    state := if terminal then .failed else .queued
    errorClass := some errorClass
    errorMessage := some errorMessage
    revision := revision
    updatedAt := db.now }
  let written := setPost db id row
  if terminal then pure (written, ⟨row, true⟩)
  else
    let job := editedPublishJob db.now job revision
    pure ({ written with jobs := db.jobs.put job }, ⟨row, false⟩)

def reconcileInterruptedPublish (db : Db) (id : Uuid) (attempt : JobLease) :
    Except Error (Db × Bool) := do
  let (_, current) ← lockChannelAndPost db id
  let _ ← lockPublishAttempt db id attempt
  match current.state with
  | .sending _ _ =>
    let revision ← bumpRevision current.revision
    let row := { current with
      state := .unknown
      errorClass := some "publication_interrupted"
      errorMessage := some "a previous publication attempt lost its job lease"
      revision := revision
      updatedAt := db.now }
    pure (setPost db id row, true)
  | _ => pure (db, false)

/-- What a terminal queue transition does to the post: a queued post of the
    job's own revision fails, a sending one becomes unknown. -/
def settleTerminalPublicationPost (db : Db) (id : Uuid) (expectedRevision : Int)
    (errorClass errorMessage : String) : Except Error Db :=
  match db.posts.get id with
  | none => .ok db
  | some post =>
    let settled (state : PostState) : Except Error Db := do
      let revision ← bumpRevision post.revision
      pure (setPost db id { post with
        state := state
        errorClass := some errorClass
        errorMessage := some errorMessage
        revision := revision
        updatedAt := db.now })
    match post.state with
    | .queued => if expectedRevision = post.revision then settled .failed else .ok db
    | .sending _ _ => settled .unknown
    | _ => .ok db

def settlePublishJob (db : Db) (lease : JobLease) (expected : JobCommand)
    (settlement : JobSettlement) : Except JobRepositoryError (Db × Job) :=
  match expected with
  | .publishPost _ _ =>
    match lockRunningJob db.jobs db.now lease settlement.allowsExpiredLease with
    | none => .error .leaseLost
    | some job =>
      match validateLockedCommand job expected with
      | .ok (.publishPost postId expectedRevision) =>
        let update := queueParameters job settlement
        let settled := if update.terminal then
            settleTerminalPublicationPost db postId expectedRevision update.errorClass
              update.errorMessage
          else .ok db
        match settled with
        | .error _ => .error .database
        | .ok db =>
          .ok ({ db with jobs := updateLockedJob db.jobs db.now job update },
            job.settled db.now update)
      | _ => .error .leaseLost
  | _ => .error .leaseLost

/-- The diagnostic a final expired attempt leaves on its post. -/
def interruptedError (post : Post) (job : Job) : String × String :=
  match post.state with
  | .sending _ _ =>
    ("publication_interrupted", "publication job lease expired after the final attempt")
  | _ => (job.errorClass.getD "lease_expired", job.errorMessage.getD "job lease expired")

def recoverPublishJob (db : Db) (id : JobId) (expected : JobCommand) :
    Except JobRepositoryError (Db × Bool) :=
  match expected with
  | .publishPost _ _ =>
    match lockExpiredJob db.jobs db.now id with
    | none => .ok (db, false)
    | some job =>
      match validateLockedCommand job expected with
      | .ok (.publishPost postId expectedRevision) =>
        let update := expiredUpdate db.now job
        let settled := match update.terminal, db.posts.get postId with
          | true, some post =>
            let (errorClass, errorMessage) := interruptedError post job
            settleTerminalPublicationPost db postId expectedRevision errorClass errorMessage
          | _, _ => .ok db
        match settled with
        | .error _ => .error .database
        | .ok db => .ok ({ db with jobs := updateLockedJob db.jobs db.now job update }, true)
      | _ => .error .leaseLost
  | _ => .error .leaseLost

/-- `settle_materialize_job`: the queue row alone. -/
def settleMaterializeJob (db : Db) (lease : JobLease) (expected : JobCommand)
    (settlement : JobSettlement) : Except JobRepositoryError (Db × Job) :=
  match expected with
  | .materializePublication _ => do
    let (jobs, job) ← settleQueueInTransaction db.jobs db.now lease expected settlement
    pure ({ db with jobs := jobs }, job)
  | _ => .error .leaseLost

def recoverMaterializeJob (db : Db) (id : JobId) (expected : JobCommand) :
    Except JobRepositoryError (Db × Bool) :=
  match expected with
  | .materializePublication _ => do
    match ← recoverQueueOnlyInTransaction db.jobs db.now id expected with
    | some jobs => pure ({ db with jobs := jobs }, true)
    | none => pure (db, false)
  | _ => .error .leaseLost

/-- Retention fence of a publish job: no state that could still be sent. -/
def publishJobRetentionEligible (db : Db) (postId : Uuid) : Bool :=
  match db.posts.get postId with
  | none => false
  | some post => post.state == .published || post.state == .failed || post.state == .cancelled

/-- Retention fence of a materialization job: its origin post exists, or none
    was asked for. -/
def materializationRetentionEligible (db : Db) (ingestId : Uuid) : Bool :=
  match db.ingests.get ingestId with
  | none => false
  | some ingest =>
    ingest.requestedAction == .save ||
      (ingest.status == .completed && (findPostByOrigin db ingestId).isSome)

end Sooqa.Publisher
