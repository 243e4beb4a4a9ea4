import Sooqa.Publisher.Effects
import Sooqa.Publisher.Channels

/-!
The publication transactions under their locks. A transaction takes its locks,
reads, and commits later; in between any other transaction may begin and
commit that needs none of its locks. The reads are taken together, at any
instant after the last lock, and the write reaches the store at the commit:
one post with its job, or one channel. A call may come from anyone with any
arguments, so nothing here rests on what workers do between their calls.
-/
namespace Sooqa.Publisher
open Foundation Queue

inductive Call where
  | createPost (post : NewPost) (requestKey : String) (requestHash : Digest)
  | createIntent (mediaId : Uuid) (intent : PublicationIntent) (requestKey : String)
  | materialize (ingestId : Uuid)
  | updatePost (id : Uuid) (update : PostUpdate)
  | schedulePost (schedule : PostSchedule)
  | schedulePostExact (schedule : PostSchedule)
  | decidePost (id : Uuid) (decision : PublicationDecision) (requestKey : String)
      (expectedRevision : Int)
  | publishNow (id : Uuid) (requestKey : String) (expectedRevision : Int)
  | cancelPost (id : Uuid) (expectedRevision : Int)
  | claimPublish (id : Uuid) (expectedRevision : Int) (attempt : JobLease)
  | completePublish (id : Uuid) (lease : PublishLease) (telegramMessageId : Int)
  | failPublish (id : Uuid) (lease : PublishLease) (state : PostState)
      (errorClass errorMessage : String)
  | retryPublish (id : Uuid) (lease : PublishLease) (errorClass errorMessage : String)
  | reconcileInterruptedPublish (id : Uuid) (attempt : JobLease)
  | settlePublishJob (lease : JobLease) (postId : Uuid) (expectedRevision : Int)
      (settlement : JobSettlement)
  | recoverPublishJob (id : JobId) (postId : Uuid) (expectedRevision : Int)
  | createChannel (channel : NewChannel)
  | updateChannel (id : Uuid) (update : ChannelUpdate)

/-- The row a transaction writes. -/
inductive Target where
  | post (id : Uuid)
  | channel (id : Uuid)
  deriving DecidableEq, Repr

/-- What a transaction holds exclusively until it ends. -/
inductive Resource where
  | configuration
  | request (key : String)
  | ingest (id : Uuid)
  | media (id : Uuid)
  | channel (id : Uuid)
  | post (id : Uuid)
  deriving DecidableEq, Repr

/-- The store a call would leave, if it succeeds. -/
def stored {ε α : Type} (result : Except ε (Db × α)) : Option Db :=
  match result with
  | .ok (db, _) => some db
  | .error _ => none

theorem stored_some {ε α : Type} {result : Except ε (Db × α)} {db : Db}
    (h : stored result = some db) : ∃ answer, result = .ok (db, answer) := by
  unfold stored at h
  split at h
  · rename_i db' answer
    cases h
    exact ⟨answer, rfl⟩
  · cases h

namespace Call

/-- The call run on the store it reads. -/
def run (calendar : Calendar) (isTimeZone : String → Bool) (db : Db) : Call → Option Db
  | .createPost post key hash => stored (createPostIdempotent db post key hash)
  | .createIntent mediaId intent key =>
    stored (createPublicationIntent calendar db mediaId intent key)
  | .materialize ingestId => stored (materializeIngest calendar db ingestId)
  | .updatePost id update => stored (Publisher.updatePost db id update)
  | .schedulePost schedule => stored (Publisher.schedulePost calendar db schedule)
  | .schedulePostExact schedule => stored (Publisher.schedulePostExact db schedule)
  | .decidePost id decision key expectedRevision =>
    stored (Publisher.decidePost calendar db id decision key expectedRevision)
  | .publishNow id key expectedRevision => stored (Publisher.publishNow db id key expectedRevision)
  | .cancelPost id expectedRevision => stored (Publisher.cancelPost db id expectedRevision)
  | .claimPublish id expectedRevision attempt =>
    stored (Publisher.claimPublish db id expectedRevision attempt)
  | .completePublish id lease messageId => stored (Publisher.completePublish db id lease messageId)
  | .failPublish id lease state errorClass errorMessage =>
    stored (Publisher.failPublish db id lease state errorClass errorMessage)
  | .retryPublish id lease errorClass errorMessage =>
    stored (Publisher.retryPublish db id lease errorClass errorMessage)
  | .reconcileInterruptedPublish id attempt =>
    stored (Publisher.reconcileInterruptedPublish db id attempt)
  | .settlePublishJob lease postId expectedRevision settlement =>
    stored (Publisher.settlePublishJob db lease (.publishPost postId expectedRevision) settlement)
  | .recoverPublishJob id postId expectedRevision =>
    stored (Publisher.recoverPublishJob db id (.publishPost postId expectedRevision))
  | .createChannel channel => stored (createChannelUnambiguous isTimeZone db channel)
  | .updateChannel id update => stored (Publisher.updateChannel isTimeZone db id update)

/-- The row the call writes in the store it reads; a new row gets the next
    identifier. -/
def target (db : Db) : Call → Target
  | .createPost _ _ _ | .createIntent _ _ _ | .materialize _ => .post db.fresh
  | .updatePost id _ | .decidePost id _ _ _ | .publishNow id _ _ | .cancelPost id _
  | .claimPublish id _ _ | .completePublish id _ _ | .failPublish id _ _ _ _
  | .retryPublish id _ _ _ | .reconcileInterruptedPublish id _ | .settlePublishJob _ id _ _
  | .recoverPublishJob _ id _ => .post id
  | .schedulePost schedule | .schedulePostExact schedule => .post schedule.postId
  | .createChannel _ => .channel db.fresh
  | .updateChannel id _ => .channel id

/-- The channel and the post that a call on an existing post locks. -/
def postLocks (db : Db) (id : Uuid) : List Resource :=
  match db.posts.get id with
  | some post => [.channel post.channelId, .post id]
  | none => []

/-- What the call holds from its reads to its commit. A new post is locked by
    the transaction that inserts it. -/
def locks (db : Db) : Call → List Resource
  | .createPost _ _ _ => [.post db.fresh]
  | .createIntent mediaId _ key =>
    [.request (trim key), .media mediaId, .post db.fresh] ++
      (selectEnabledChannelCandidates db).map .channel
  | .materialize ingestId =>
    match db.ingests.get ingestId with
    | some ingest =>
      [.ingest ingestId, .post db.fresh] ++ ingest.mediaId.toList.map .media ++
        ingest.requestedChannelId.toList.map .channel
    | none => []
  | .updatePost id _ | .decidePost id _ _ _ | .publishNow id _ _ | .cancelPost id _
  | .claimPublish id _ _ | .completePublish id _ _ | .failPublish id _ _ _ _
  | .retryPublish id _ _ _ | .reconcileInterruptedPublish id _ | .settlePublishJob _ id _ _
  | .recoverPublishJob _ id _ => postLocks db id
  | .schedulePost schedule | .schedulePostExact schedule => postLocks db schedule.postId
  | .createChannel _ => [.configuration]
  | .updateChannel id _ => [.configuration, .channel id]

end Call

section World
variable (calendar : Calendar) (isTimeZone : String → Bool)

/-- A transaction that has read and not committed. -/
structure Transaction where
  call : Call
  read : Db
  result : Db
  ran : call.run calendar isTimeZone read = some result

namespace Concurrent

structure World where
  db : Db
  transactions : Table Uuid (Transaction calendar isTimeZone)

def initial : World calendar isTimeZone := ⟨Db.empty, ∅⟩

inductive Action where
  | begin (id : Uuid) (call : Call)
  | commit (id : Uuid)
  | abort (id : Uuid)
  | tick (elapsed : Time)
  | setChannel (id : Uuid) (channel : Channel)
  | setMedia (id : Uuid) (media : Media)
  | setIngest (id : Uuid) (ingest : Ingest)
  | setJobs (jobs : Jobs)
  | drawUuid

end Concurrent

end World

namespace Transaction
variable {calendar : Calendar} {isTimeZone : String → Bool}

def locks (tx : Transaction calendar isTimeZone) : List Resource := tx.call.locks tx.read
def target (tx : Transaction calendar isTimeZone) : Target := tx.call.target tx.read

/-- The store after the transaction's write reaches it. -/
def apply (tx : Transaction calendar isTimeZone) (db : Db) : Db :=
  match tx.target with
  | .post id =>
    { db with
      posts := match tx.result.posts.get id with
        | some row => db.posts.set id row
        | none => db.posts
      jobs := match tx.result.jobs.get (.publish id) with
        | some job => db.jobs.put job
        | none => db.jobs }
  | .channel id =>
    match tx.result.channels.get id with
    | some row => setChannel db id row
    | none => db

end Transaction

namespace Concurrent
variable {calendar : Calendar} {isTimeZone : String → Bool}

/-- No open transaction holds one of these. -/
def World.free (w : World calendar isTimeZone) (needed : List Resource) : Bool :=
  (Table.rows w.transactions).all (fun row =>
    needed.all (fun resource => !(row.2.locks.contains resource)))

/-- The identifiers a transaction uses are drawn when it begins, at least the
    one of a row it may insert. -/
def begin (w : World calendar isTimeZone) (id : Uuid) (call : Call) :
    Option (World calendar isTimeZone) :=
  match ran : call.run calendar isTimeZone w.db with
  | none => none
  | some result =>
    if w.free (call.locks w.db) ∧ (w.transactions.get id).isNone then
      some ⟨{ w.db with fresh := max result.fresh (w.db.fresh + 1) },
        w.transactions.set id ⟨call, w.db, result, ran⟩⟩
    else none

def step (w : World calendar isTimeZone) : Action → Option (World calendar isTimeZone)
  | .begin id call => begin w id call
  | .commit id => do
    let tx ← w.transactions.get id
    some ⟨tx.apply w.db, w.transactions.remove id⟩
  | .abort id => some { w with transactions := w.transactions.remove id }
  | .tick elapsed => some { w with db := { w.db with now := w.db.now + elapsed } }
  | .setChannel id channel => some { w with db := setChannel w.db id channel }
  | .setMedia id media => some { w with db := { w.db with media := w.db.media.set id media } }
  | .setIngest id ingest =>
    some { w with db := { w.db with ingests := w.db.ingests.set id ingest } }
  | .setJobs jobs => some { w with db := { w.db with jobs := jobs } }
  | .drawUuid => some { w with db := { w.db with fresh := w.db.fresh + 1 } }

end Concurrent

end Sooqa.Publisher
