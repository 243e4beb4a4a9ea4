import Sooqa.Foundation.Table

/-!
Durable jobs and their leases. A job row is stored under its dedupe key, as
every production enqueue carries one; its primary key is the pair of that key
and a serial drawn at insertion, so a row pruned and inserted again is a
different job. The lease columns live inside the running state, which is what
the table's CHECK constraint on them says.
-/
namespace Sooqa.Queue
open Foundation

abbrev Uuid := Nat
abbrev Time := Nat

/-- One second of the store's clock, which counts microseconds. -/
def second : Nat := 1000000
def minute : Nat := 60 * second
def day : Nat := 24 * 60 * minute

inductive SourceMediaKind where
  | video | image | audio | animation | unknown
  deriving DecidableEq, Repr

structure SourceInspection where
  adapter : String
  sourceUrl : String
  resolvedUrl : Option String
  mediaKind : SourceMediaKind
  mimeType : Option String
  contentLengthBytes : Option Nat
  title : Option String
  deriving DecidableEq, Repr

/-- The six ingest stages, in pipeline order. -/
inductive Stage where
  | inspectSource | downloadSource | probeAsset | normalizeAsset | computeFingerprint
  | finalizeIngest
  deriving DecidableEq, Repr

inductive JobType where
  | stage (stage : Stage)
  | materializePublication | uploadStorageAsset | syncStorageCaption | publishPost
  | cleanupWorkspace
  deriving DecidableEq, Repr

/-- Dedupe keys. A stage key carries the `force_save` suffix, a storage key its
    generation, a caption key its generation and, for a reapply, the stale
    generation and claim it follows, a cleanup key its workspace. -/
inductive JobKey where
  | stage (stage : Stage) (ingestId : Uuid) (forceSave : Bool)
  | materializePublication (ingestId : Uuid)
  | uploadStorage (mediaId : Uuid) (generation : Nat)
  | syncCaption (mediaId : Uuid) (generation : Nat) (after : Option (Nat × Uuid))
  | publish (postId : Uuid)
  | cleanupWorkspace (ingestId : Uuid) (workspaceId : Uuid)
  deriving DecidableEq, Repr

structure JobId where
  key : JobKey
  serial : Uuid
  deriving DecidableEq, Repr

inductive JobCommand where
  | inspectSource (ingestId : Uuid)
  | downloadSource (ingestId : Uuid) (inspection : SourceInspection)
  | probeAsset (ingestId : Uuid)
  | normalizeAsset (ingestId : Uuid)
  | computeFingerprint (ingestId : Uuid)
  | finalizeIngest (ingestId : Uuid)
  | materializePublication (ingestId : Uuid)
  | uploadStorageAsset (mediaId : Uuid) (generation : Nat)
  | syncStorageCaption (mediaId : Uuid) (generation : Nat)
  | publishPost (postId : Uuid) (expectedRevision : Int)
  | cleanupWorkspace (ingestId : Uuid) (workspaceId : Uuid)
  deriving DecidableEq, Repr

namespace JobCommand

def jobType : JobCommand → JobType
  | inspectSource _ => .stage .inspectSource
  | downloadSource _ _ => .stage .downloadSource
  | probeAsset _ => .stage .probeAsset
  | normalizeAsset _ => .stage .normalizeAsset
  | computeFingerprint _ => .stage .computeFingerprint
  | finalizeIngest _ => .stage .finalizeIngest
  | materializePublication _ => .materializePublication
  | uploadStorageAsset _ _ => .uploadStorageAsset
  | syncStorageCaption _ _ => .syncStorageCaption
  | publishPost _ _ => .publishPost
  | cleanupWorkspace _ _ => .cleanupWorkspace

/-- The ingest of a stage command. -/
def stageIngest : JobCommand → Option Uuid
  | inspectSource i | downloadSource i _ | probeAsset i | normalizeAsset i
  | computeFingerprint i | finalizeIngest i => some i
  | _ => none

/-- `payload->>'ingest_id'`. -/
def payloadIngest : JobCommand → Option Uuid
  | materializePublication i | cleanupWorkspace i _ => some i
  | command => command.stageIngest

/-- `payload->>'media_id'`. -/
def payloadMedia : JobCommand → Option Uuid
  | uploadStorageAsset m _ | syncStorageCaption m _ => some m
  | _ => none

/-- Two payloads of one aggregate. A publish payload may differ in its
    revision, which `retry_publish` rewrites while the job runs. -/
def sameOwner : JobCommand → JobCommand → Bool
  | inspectSource a, inspectSource b => a == b
  | downloadSource a _, downloadSource b _ => a == b
  | probeAsset a, probeAsset b => a == b
  | normalizeAsset a, normalizeAsset b => a == b
  | computeFingerprint a, computeFingerprint b => a == b
  | finalizeIngest a, finalizeIngest b => a == b
  | materializePublication a, materializePublication b => a == b
  | uploadStorageAsset a g, uploadStorageAsset b h => a == b && g == h
  | syncStorageCaption a g, syncStorageCaption b h => a == b && g == h
  | publishPost a _, publishPost b _ => a == b
  | cleanupWorkspace a v, cleanupWorkspace b w => a == b && v == w
  | _, _ => false

/-- The payload rewritten for a new revision of its post. -/
def withRevision (revision : Int) : JobCommand → JobCommand
  | publishPost p _ => publishPost p revision
  | command => command

end JobCommand

/-- A key and a payload that name the same aggregate. -/
def JobKey.owns : JobKey → JobCommand → Bool
  | .stage which i _, command =>
    command.jobType == .stage which && command.stageIngest == some i
  | .materializePublication i, .materializePublication j => i == j
  | .uploadStorage m g, .uploadStorageAsset n h => m == n && g == h
  | .syncCaption m g _, .syncStorageCaption n h => m == n && g == h
  | .publish p, .publishPost q _ => p == q
  | .cleanupWorkspace i w, .cleanupWorkspace j v => i == j && w == v
  | _, _ => false

theorem JobKey.owns_withRevision {key : JobKey} {command : JobCommand} (revision : Int)
    (owned : key.owns command = true) : key.owns (command.withRevision revision) = true := by
  cases command <;> cases key <;> exact owned

theorem JobKey.owns_publish {p : Uuid} {command : JobCommand}
    (owned : (JobKey.publish p).owns command = true) :
    ∃ revision, command = .publishPost p revision := by
  cases command <;> simp [JobKey.owns] at owned
  rename_i q revision
  exact ⟨revision, by rw [owned]⟩

theorem JobKey.owns_publishPost {key : JobKey} {p : Uuid} {revision : Int}
    (owned : key.owns (.publishPost p revision) = true) : key = .publish p := by
  cases key <;> simp [JobKey.owns, JobCommand.jobType, JobCommand.stageIngest] at owned
  rw [owned]

structure LeaseColumns where
  token : Uuid
  owner : String
  expiresAt : Time
  heartbeatAt : Time
  deriving DecidableEq, Repr

inductive JobState where
  | queued
  | running (lease : LeaseColumns)
  | succeeded
  | failed
  | cancelled
  deriving DecidableEq, Repr

def JobState.live : JobState → Bool
  | .queued | .running _ => true
  | _ => false

/-- `state` as the status text stored beside the lease columns. -/
def JobState.asStr : JobState → String
  | .queued => "queued"
  | .running _ => "running"
  | .succeeded => "succeeded"
  | .failed => "failed"
  | .cancelled => "cancelled"

/-- A row of the queue. `owned` is what every enqueue site guarantees: the
    dedupe key names the aggregate of the payload. -/
structure Job where
  id : JobId
  command : JobCommand
  owned : id.key.owns command = true
  state : JobState
  priority : Int
  runAt : Time
  attemptCount : Nat
  maxAttempts : Nat
  errorClass : Option String
  errorMessage : Option String
  createdAt : Time
  updatedAt : Time
  completedAt : Option Time
  deriving DecidableEq, Repr

/-- A row as an insert writes it, with the table's defaults. -/
def Job.new (key : JobKey) (command : JobCommand) (owned : key.owns command = true)
    (serial : Uuid) (now runAt : Time) (maxAttempts : Nat) : Job where
  id := ⟨key, serial⟩
  command := command
  owned := owned
  state := .queued
  priority := 0
  runAt := runAt
  attemptCount := 0
  maxAttempts := maxAttempts
  errorClass := none
  errorMessage := none
  createdAt := now
  updatedAt := now
  completedAt := none

def Job.withRevision (job : Job) (revision : Int) : Job :=
  { job with
    command := job.command.withRevision revision
    owned := JobKey.owns_withRevision revision job.owned }

structure JobLease where
  jobId : JobId
  attemptNumber : Nat
  leaseOwner : String
  leaseToken : Uuid
  deriving DecidableEq, Repr

def Job.lease (job : Job) : Option JobLease :=
  match job.state with
  | .running columns => some ⟨job.id, job.attemptCount, columns.owner, columns.token⟩
  | _ => none

/-- A queue settlement requested after the handler has finished. -/
inductive JobSettlement where
  | retry (runAt : Time) (errorClass errorMessage : String) (nonConsuming : Bool)
  | defer (runAt : Time) (errorClass errorMessage : String) (nonConsuming : Bool)
  | fail (errorClass errorMessage : String)
  deriving DecidableEq, Repr

def JobSettlement.allowsExpiredLease : JobSettlement → Bool
  | .retry _ _ _ nonConsuming | .defer _ _ _ nonConsuming => nonConsuming
  | .fail _ _ => false

def JobSettlement.errorClass : JobSettlement → String
  | .retry _ c _ _ | .defer _ c _ _ | .fail c _ => c

structure QueueUpdate where
  state : JobState
  runAt : Time
  errorClass : String
  errorMessage : String
  terminal : Bool
  nonConsuming : Bool
  deriving DecidableEq, Repr

def queueParameters (job : Job) : JobSettlement → QueueUpdate
  | .retry runAt errorClass errorMessage nonConsuming
  | .defer runAt errorClass errorMessage nonConsuming =>
    let terminal := !nonConsuming && decide (job.maxAttempts ≤ job.attemptCount)
    { state := if terminal then .failed else .queued
      runAt := if terminal then job.runAt else runAt
      errorClass, errorMessage, terminal, nonConsuming }
  | .fail errorClass errorMessage =>
    { state := .failed, runAt := job.runAt, errorClass, errorMessage
      terminal := true, nonConsuming := false }

/-- The update every family but storage applies to an expired lease. -/
def expiredUpdate (now : Time) (job : Job) : QueueUpdate :=
  let terminal := decide (job.maxAttempts ≤ job.attemptCount)
  { state := if terminal then .failed else .queued
    runAt := now
    errorClass := job.errorClass.getD "lease_expired"
    errorMessage := job.errorMessage.getD "job lease expired"
    terminal, nonConsuming := false }

theorem queueParameters_state_not_running (job : Job) (settlement : JobSettlement)
    (columns : LeaseColumns) : (queueParameters job settlement).state ≠ .running columns := by
  cases settlement <;> simp only [queueParameters] <;> (try split) <;> simp

theorem expiredUpdate_state_not_running (now : Time) (job : Job) (columns : LeaseColumns) :
    (expiredUpdate now job).state ≠ .running columns := by
  simp only [expiredUpdate]
  split <;> simp

/-- A settlement leaves the job queued unless it is terminal, and then failed. -/
theorem queueParameters_state (job : Job) (settlement : JobSettlement) :
    (queueParameters job settlement).state =
      if (queueParameters job settlement).terminal then .failed else .queued := by
  cases settlement <;> simp [queueParameters]

theorem expiredUpdate_state (now : Time) (job : Job) :
    (expiredUpdate now job).state =
      if (expiredUpdate now job).terminal then .failed else .queued := by
  simp [expiredUpdate]

end Sooqa.Queue
