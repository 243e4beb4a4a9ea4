import Sooqa.Foundation.Transition
import Sooqa.Publisher.Moves
import Sooqa.Inbox.LifecycleEffects
import Sooqa.Workspace.System

/-!
The whole job queue. Every statement that writes a job row is a step: inserts,
claims, heartbeats, completion, the settlements and recoveries of all the
families, the job writes of the publisher and the library, and retention. The
rows of the other tables may change in between in any way. A log keeps which
leases were granted and how they ended.
-/
namespace Sooqa.Jobs
open Foundation Queue

section Dispatch

inductive EnqueueError where
  | invalidMaxAttempts
  | database
  deriving DecidableEq, Repr

structure NewJob where
  key : JobKey
  command : JobCommand
  owned : key.owns command = true
  priority : Int
  runAt : Option Time
  maxAttempts : Int

/-- `JobRepository::enqueue`; a taken dedupe key is a database error. -/
def enqueue (db : Db) (newJob : NewJob) : Except EnqueueError (Db × Job) :=
  if newJob.maxAttempts ≤ 0 then .error .invalidMaxAttempts
  else if (db.jobs.get newJob.key).isSome then .error .database
  else
    let job := { Job.new newJob.key newJob.command newJob.owned db.fresh db.now
      (newJob.runAt.getD db.now) newJob.maxAttempts.toNat with priority := newJob.priority }
    .ok ({ db with jobs := db.jobs.put job, fresh := db.fresh + 1 }, job)

/-- `complete_lease` over the database. -/
def complete (db : Db) (lease : JobLease) : Except JobRepositoryError (Db × Job) := do
  let (jobs, job) ← completeLease db.jobs db.now lease
  pure ({ db with jobs := jobs }, job)

/-- The last statement of a stage transaction. -/
def succeed (db : Db) (attempt : JobLease) : Except Inbox.Error (Db × Unit) := do
  let succeeded ← Inbox.succeedCurrentJobAttempt db attempt
  pure (succeeded, ())

/-- `settle_job` of the cleanup family: the queue row alone. -/
def settleCleanupJob (db : Db) (lease : JobLease) (expected : JobCommand)
    (settlement : JobSettlement) : Except JobRepositoryError (Db × Job) := do
  let (jobs, job) ← settleQueueInTransaction db.jobs db.now lease expected settlement
  pure ({ db with jobs := jobs }, job)

def settleFamily (db : Db) (lease : JobLease) (command : JobCommand)
    (settlement : JobSettlement) : Except JobRepositoryError (Db × Job) :=
  match command with
  | .publishPost _ _ => Publisher.settlePublishJob db lease command settlement
  | .uploadStorageAsset _ _ => Library.settleStorageJob db lease command settlement
  | .syncStorageCaption _ _ => Library.settleCaptionJob db lease command settlement
  | .inspectSource _ | .downloadSource _ _ | .probeAsset _ | .normalizeAsset _
  | .computeFingerprint _ | .finalizeIngest _ => Inbox.settleJob db lease command settlement
  | .materializePublication _ => Publisher.settleMaterializeJob db lease command settlement
  | .cleanupWorkspace _ _ => settleCleanupJob db lease command settlement

/-- Dispatch to the family; a lost lease may be answered from the row. -/
def settle (db : Db) (command : JobCommand) (lease : JobLease) (settlement : JobSettlement) :
    Except JobRepositoryError (Db × Job) :=
  match settleFamily db lease command settlement with
  | .error .leaseLost =>
    if settlement.allowsExpiredLease then do
      let job ← loadAlreadyRequeued db.jobs lease settlement command
      pure (db, job)
    else .error .leaseLost
  | result => result

def settleLease (db : Db) (job : Job) (lease : JobLease) (settlement : JobSettlement) :
    Except JobRepositoryError (Db × Job) :=
  if leaseMatchesJob job lease then settle db job.command lease settlement else .error .leaseLost

/-- `recover_one`, for a candidate whose command was read as `expected`. -/
def recoverOne (db : Db) (id : JobId) (expected : JobCommand) : Db :=
  match expected with
  | .publishPost _ _ => committed db (Publisher.recoverPublishJob db id expected)
  | .uploadStorageAsset _ _ => committed db (Library.recoverStorageJob db id expected)
  | .syncStorageCaption _ _ => committed db (Library.recoverCaptionJob db id expected)
  | .inspectSource _ | .downloadSource _ _ | .probeAsset _ | .normalizeAsset _
  | .computeFingerprint _ | .finalizeIngest _ => committed db (Inbox.recoverJob db id expected)
  | .materializePublication _ => committed db (Publisher.recoverMaterializeJob db id expected)
  | .cleanupWorkspace _ _ => Workspace.recoverCleanupJob db id expected

/-- Recovery of a row whose payload does not decode. -/
def recoverQueueOnlyUntyped (db : Db) (id : JobId) : Db :=
  match lockExpiredJob db.jobs db.now id with
  | none => db
  | some job => { db with jobs := updateLockedJob db.jobs db.now job (expiredUpdate db.now job) }

/-- The payload of a running publish job follows the revision of its post. -/
def followRevision (db : Db) (attempt : JobLease) (revision : Nat) : Db :=
  match lockCurrentJobAttempt db.jobs db.now attempt with
  | none => db
  | some job => { db with jobs := db.jobs.put (Publisher.editedPublishJob db.now job revision) }

/-- Retention removes ended rows only. -/
def prune (db : Db) (key : JobKey) : Db :=
  match db.jobs.get key with
  | none => db
  | some job => if job.state.live then db else { db with jobs := db.jobs.delete key }

end Dispatch

section Steps

/-- Whether a lease was ended by somebody who presented it, or by recovery. -/
inductive Cause where
  | operation
  | recovery
  deriving DecidableEq, Repr

inductive Entry where
  | granted (lease : JobLease)
  | succeeded (lease : JobLease) (cause : Cause)
  | requeued (lease : JobLease) (cause : Cause) (errorClass : Option String)
  deriving DecidableEq, Repr

/-- The log is kept newest first. -/
structure World where
  db : Db
  log : List Entry

inductive Action where
  | tick (elapsed : Time)
  | domain (channels : Table Uuid Channel) (media : Table Uuid Media) (posts : Table Uuid Post)
      (ingests : Table Uuid Ingest)
  | enqueue (newJob : NewJob)
  | insert (key : JobKey) (command : JobCommand) (owned : key.owns command = true) (runAt : Time)
      (maxAttempts : Nat)
  | insertPublish (postId : Uuid) (runAt : Time) (revision : Nat)
  | updatePublish (postId : Uuid) (runAt : Time) (revision : Nat)
  | updateFailedPublish (postId : Uuid) (runAt : Time) (revision : Nat)
  | cancelPublish (postId : Uuid)
  | followRevision (attempt : JobLease) (revision : Nat)
  | unknownUploads (mediaId : Uuid)
  | claim (worker : String) (duration : Time) (capabilities : List JobType) (candidate : JobKey)
  | heartbeat (lease : JobLease) (duration : Time)
  | complete (lease : JobLease)
  | succeed (attempt : JobLease)
  | settle (job : Job) (lease : JobLease) (settlement : JobSettlement)
  | recover (id : JobId) (expected : JobCommand)
  | recoverUntyped (id : JobId)
  | prune (key : JobKey)

/-- How the row of a lease looks after the lease was ended. -/
def outcome (lease : JobLease) (cause : Cause) (job : Job) : List Entry :=
  match job.state with
  | .succeeded => [.succeeded lease cause]
  | .queued => [.requeued lease cause job.errorClass]
  | _ => []

/-- What became of a row that was running under a lease. -/
def ending (before after : Jobs) (lease : JobLease) (cause : Cause) : List Entry :=
  match (before.find lease.jobId).bind Job.lease, after.find lease.jobId with
  | some _, some job => outcome lease cause job
  | _, _ => []

namespace World

def granted (w : World) (lease : JobLease) : Prop := Entry.granted lease ∈ w.log

instance (w : World) (lease : JobLease) : Decidable (w.granted lease) :=
  inferInstanceAs (Decidable (Entry.granted lease ∈ w.log))

/-- A write of job rows that ends no lease. -/
def write (w : World) (db : Db) : World := { w with db := db }

/-- A transaction under a presented lease; an error leaves everything. -/
def presenting {ε α : Type} (w : World) (lease : JobLease) (result : Except ε (Db × α)) : World :=
  match result with
  | .ok (db, _) => ⟨db, ending w.db.jobs db.jobs lease .operation ++ w.log⟩
  | .error _ => w

/-- A recovery, which ends whatever lease the row shows. -/
def recovering (w : World) (id : JobId) (db : Db) : World :=
  match (w.db.jobs.find id).bind Job.lease with
  | some lease => ⟨db, ending w.db.jobs db.jobs lease .recovery ++ w.log⟩
  | none => ⟨db, w.log⟩

def claim (w : World) (worker : String) (duration : Time) (capabilities : List JobType)
    (candidate : JobKey) : World :=
  match claimNext w.db.jobs w.db.now w.db.fresh worker duration capabilities candidate with
  | .ok (jobs, some job) =>
    let db := { w.db with jobs := jobs, fresh := w.db.fresh + 1 }
    match job.lease with
    | some lease => ⟨db, .granted lease :: w.log⟩
    | none => w.write db
  | _ => w

/-- A write of the publisher, rolled back on an error. -/
def publishing (w : World) (result : Except Publisher.Error Db) : World :=
  match result with
  | .ok db => w.write db
  | .error _ => w

def step (w : World) : Action → Option World
  | .tick elapsed => some (w.write { w.db with now := w.db.now + elapsed })
  | .domain channels media posts ingests =>
    some (w.write { w.db with channels, media, posts, ingests })
  | .enqueue newJob => some (w.write (committed w.db (Jobs.enqueue w.db newJob)))
  | .insert key command owned runAt maxAttempts =>
    -- The table refuses a row without attempts.
    if 0 < maxAttempts then some (w.write (w.db.enqueue key command owned runAt maxAttempts))
    else none
  | .insertPublish postId runAt revision =>
    some (w.publishing (Publisher.insertPublishJob w.db postId runAt revision))
  | .updatePublish postId runAt revision =>
    some (w.publishing (Publisher.updatePublishJob w.db postId runAt revision))
  | .updateFailedPublish postId runAt revision =>
    some (w.publishing (Publisher.updateFailedPublishJob w.db postId runAt revision))
  | .cancelPublish postId => some (w.publishing (Publisher.cancelPublishJob w.db postId))
  | .followRevision attempt revision => some (w.write (Jobs.followRevision w.db attempt revision))
  | .unknownUploads mediaId => some (w.write (Library.settleQueuedStorageUploadJobs w.db mediaId))
  | .claim worker duration capabilities candidate =>
    some (w.claim worker duration capabilities candidate)
  | .heartbeat lease duration =>
    if w.granted lease then
      match heartbeatLease w.db.jobs w.db.now lease duration with
      | .ok (jobs, _) => some (w.write { w.db with jobs := jobs })
      | .error _ => some w
    else none
  | .complete lease =>
    if w.granted lease then some (w.presenting lease (Jobs.complete w.db lease)) else none
  | .succeed attempt =>
    if w.granted attempt then some (w.presenting attempt (Jobs.succeed w.db attempt)) else none
  | .settle job lease settlement =>
    if w.granted lease then some (w.presenting lease (settleLease w.db job lease settlement))
    else none
  | .recover id expected => some (w.recovering id (recoverOne w.db id expected))
  | .recoverUntyped id => some (w.recovering id (recoverQueueOnlyUntyped w.db id))
  | .prune key => some (w.write (Jobs.prune w.db key))

def initial : World := ⟨.empty, []⟩

end World
end Steps

end Sooqa.Jobs
