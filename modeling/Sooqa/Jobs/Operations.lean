import Sooqa.Jobs.Steps

/-!
Every operation that is presented with a lease: those of the queue, the stages
of an ingest, the cleanup of a workspace and the sending of a post. They run
beside the statements that carry no lease, in any order.
-/
namespace Sooqa.Jobs
open Foundation Queue

section Operations

inductive Operation where
  | heartbeatLease (duration : Time)
  | completeLease
  | settleLease (job : Job) (settlement : JobSettlement)
  | beginSourceInspection (id : Uuid)
  | beginSourceDownload (id : Uuid)
  | beginAssetProbe (id : Uuid)
  | beginAssetNormalization (id : Uuid)
  | beginIngestFingerprinting (id : Uuid)
  | beginIngestFinalization (id : Uuid)
  | beginVideoIdentity (id : Uuid) (ingest : Library.MediaIngest)
      (fingerprint : Option Library.VideoFingerprintInput)
  | completeSourceInspection (id : Uuid) (inspection : SourceInspection)
  | completeSourceDownload (id : Uuid) (download : SourceDownload)
  | completeAssetProbe (id : Uuid) (probe : IngestProbe)
  | completeAssetNormalization (id : Uuid) (normalization : AssetNormalization)
  | completeIngestFinalization (id mediaId : Uuid)
  | completeVideoIdentity (id : Uuid) (ingest : Library.MediaIngest)
      (fingerprint : Option Library.VideoFingerprintInput)
      (decision : Library.VideoIdentityDecision)
  | failSourceInspection (id : Uuid) (status : IngestStatus) (errorCode errorMessage : String)
  | failSourceDownload (id : Uuid) (status : IngestStatus) (errorCode errorMessage : String)
  | failAssetProbe (id : Uuid) (status : IngestStatus) (errorCode errorMessage : String)
  | failAssetNormalization (id : Uuid) (status : IngestStatus) (errorCode errorMessage : String)
  | failIngestFingerprint (id : Uuid) (status : IngestStatus) (errorCode errorMessage : String)
  | failIngestFinalization (id : Uuid) (status : IngestStatus) (errorCode errorMessage : String)
  | beginWorkspaceCleanup (ingestId workspaceId : Uuid)
  | claimPublish (id : Uuid) (expectedRevision : Int)
  | completePublish (id : Uuid) (generation : Nat) (token : Uuid) (telegramMessageId : Int)
  | failPublish (id : Uuid) (generation : Nat) (token : Uuid) (state : PostState)
      (errorClass errorMessage : String)
  | retryPublish (id : Uuid) (generation : Nat) (token : Uuid) (errorClass errorMessage : String)
  | reconcileInterruptedPublish (id : Uuid)

/-- What a transaction committed, unless it failed. -/
def written {ε α : Type} : Except ε (Db × α) → Option Db
  | .ok (db, _) => some db
  | .error _ => none

def beat (db : Db) (lease : JobLease) (duration : Time) :
    Except JobRepositoryError (Db × Job) := do
  let (jobs, job) ← heartbeatLease db.jobs db.now lease duration
  pure ({ db with jobs := jobs }, job)

def Operation.perform (db : Db) (lease : JobLease) : Operation → Option Db
  | .heartbeatLease duration => written (beat db lease duration)
  | .completeLease => written (Jobs.complete db lease)
  | .settleLease job settlement => written (Jobs.settleLease db job lease settlement)
  | .beginSourceInspection id => written (Inbox.beginSourceInspection db id lease)
  | .beginSourceDownload id => written (Inbox.beginSourceDownload db id lease)
  | .beginAssetProbe id => written (Inbox.beginAssetProbe db id lease)
  | .beginAssetNormalization id => written (Inbox.beginAssetNormalization db id lease)
  | .beginIngestFingerprinting id => written (Inbox.beginIngestFingerprinting db id lease)
  | .beginIngestFinalization id => written (Inbox.beginIngestFinalization db id lease)
  | .beginVideoIdentity id ingest fingerprint =>
    written (Inbox.beginVideoIdentity db id lease ingest fingerprint)
  | .completeSourceInspection id inspection =>
    written (Inbox.completeSourceInspection db id lease inspection)
  | .completeSourceDownload id download =>
    written (Inbox.completeSourceDownload db id lease download)
  | .completeAssetProbe id probe => written (Inbox.completeAssetProbe db id lease probe)
  | .completeAssetNormalization id normalization =>
    written (Inbox.completeAssetNormalization db id lease normalization)
  | .completeIngestFinalization id mediaId =>
    written (Inbox.completeIngestFinalization db id lease mediaId)
  | .completeVideoIdentity id ingest fingerprint decision =>
    written (Inbox.completeVideoIdentity db id lease ingest fingerprint decision)
  | .failSourceInspection id status errorCode errorMessage =>
    written (Inbox.failSourceInspection db id lease status errorCode errorMessage)
  | .failSourceDownload id status errorCode errorMessage =>
    written (Inbox.failSourceDownload db id lease status errorCode errorMessage)
  | .failAssetProbe id status errorCode errorMessage =>
    written (Inbox.failAssetProbe db id lease status errorCode errorMessage)
  | .failAssetNormalization id status errorCode errorMessage =>
    written (Inbox.failAssetNormalization db id lease status errorCode errorMessage)
  | .failIngestFingerprint id status errorCode errorMessage =>
    written (Inbox.failIngestFingerprint db id lease status errorCode errorMessage)
  | .failIngestFinalization id status errorCode errorMessage =>
    written (Inbox.failIngestFinalization db id lease status errorCode errorMessage)
  | .beginWorkspaceCleanup ingestId workspaceId =>
    written (Inbox.beginWorkspaceCleanup db lease ingestId workspaceId)
  | .claimPublish id expectedRevision =>
    written (Publisher.claimPublish db id expectedRevision lease)
  | .completePublish id generation token telegramMessageId =>
    written (Publisher.completePublish db id ⟨generation, token, lease⟩ telegramMessageId)
  | .failPublish id generation token state errorClass errorMessage =>
    written (Publisher.failPublish db id ⟨generation, token, lease⟩ state errorClass errorMessage)
  | .retryPublish id generation token errorClass errorMessage =>
    written (Publisher.retryPublish db id ⟨generation, token, lease⟩ errorClass errorMessage)
  | .reconcileInterruptedPublish id =>
    written (Publisher.reconcileInterruptedPublish db id lease)

/-- The lease that a statement of the queue is presented with. -/
def Action.lease : Action → Option JobLease
  | .followRevision attempt _ => some attempt
  | .heartbeat lease _ => some lease
  | .complete lease => some lease
  | .succeed attempt => some attempt
  | .settle _ lease _ => some lease
  | _ => none

/-- Operations present leases that were granted; everything else carries none. -/
inductive Event where
  | queue (action : Action)
  | present (lease : JobLease) (operation : Operation)

/-- A transaction under a presented lease, which may end it. -/
def World.present (w : World) (lease : JobLease) : Option Db → World
  | some db => ⟨db, ending w.db.jobs db.jobs lease .operation ++ w.log⟩
  | none => w

def World.advance (w : World) : Event → Option World
  | .queue action => if action.lease = none then w.step action else none
  | .present lease operation =>
    if w.granted lease then some (w.present lease (operation.perform w.db lease)) else none

end Operations

section Presented
variable {db db' : Db} {lease : JobLease} {kept : Jobs}

/-- The leases of the later rows were there before, shown by the same rows. -/
def Inherits (jobs jobs' : Jobs) : Prop :=
  ∀ key job' lease, jobs'.get key = some job' → job'.lease = some lease →
    ∃ job, jobs.get key = some job ∧ job.lease = some lease

theorem Inherits.refl (jobs : Jobs) : Inherits jobs jobs :=
  fun _ job _ found shows => ⟨job, found, shows⟩

theorem inherits_of_fenced {now : Time} {jobs jobs' : Jobs} (fenced : Fenced now jobs jobs') :
    Inherits jobs jobs' := by
  intro key job' lease found shows
  obtain ⟨job, present, showed, -⟩ := fenced key job' lease found shows
  exact ⟨job, present, showed⟩

theorem Inherits.put_idle {jobs jobs' : Jobs} (inherits : Inherits jobs jobs') {job : Job}
    (idle : job.lease = none) : Inherits jobs (jobs'.put job) := by
  intro key job' lease found shows
  rw [Jobs.get_put] at found
  split at found
  · cases found
    rw [idle] at shows
    cases shows
  · exact inherits key job' lease found shows

theorem Edit.lease_of {old new : Job} (edit : Edit old new) (shows : new.lease = some lease) :
    old.lease = some lease := by
  cases edit with
  | kept same _ _ _ _ => exact same ▸ shows
  | withdrawn idle ended attempts =>
    obtain ⟨columns, running, -⟩ := Job.lease_eq_some.mp shows
    rcases ended with state | state <;> rw [state] at running <;> cases running
  | restarted idle state attempts plain =>
    obtain ⟨columns, running, -⟩ := Job.lease_eq_some.mp shows
    rw [state] at running
    cases running

theorem Quiet.inherits {low high : Uuid} {jobs jobs' : Jobs} (quiet : Quiet low high jobs jobs') :
    Inherits jobs jobs' := by
  intro key job' lease found shows
  rcases quiet.rows key job' found with ⟨old, present, same, edit⟩ | ⟨absent, inserted⟩
  · exact ⟨old, present, edit.lease_of shows⟩
  · obtain ⟨columns, running, -⟩ := Job.lease_eq_some.mp shows
    rcases inserted.state with state | state <;> rw [state] at running <;> cases running

theorem Ending.idle {old new : Job} (ending : Ending old new) : new.lease = none := by
  cases ending with
  | succeeded state _ => exact Job.lease_eq_none (by simp [state])
  | retried state _ _ _ => exact Job.lease_eq_none (by simp [state])
  | refunded state _ _ => exact Job.lease_eq_none (by simp [state])
  | failed state _ => exact Job.lease_eq_none (by simp [state])

theorem Ends.inherits {old new : Job} (ends : Ends db db' lease old new) :
    Inherits db.jobs db'.jobs := by
  obtain ⟨middle, quiet, -, jobs⟩ := ends.rest
  rw [jobs]
  exact quiet.inherits.put_idle ends.ending.idle

theorem Ends.fresh {old new : Job} (ends : Ends db db' lease old new) : db.fresh ≤ db'.fresh := by
  obtain ⟨middle, quiet, -, -⟩ := ends.rest
  exact quiet.grown

/-- The row of a lease shows its token. -/
def Held (db : Db) (lease : JobLease) : Prop :=
  ∃ job shown, db.jobs.get lease.jobId.key = some job ∧ job.lease = some shown ∧
    shown.leaseToken = lease.leaseToken

/-- What an operation does to the leases of the queue: it brings none, and
    changes nothing at all unless its own is still shown. -/
structure Presented (db db' : Db) (lease : JobLease) : Prop where
  fresh : db.fresh ≤ db'.fresh
  inherits : Inherits db.jobs db'.jobs
  held : db' = db ∨ Held db lease

theorem Presented.same (db : Db) (lease : JobLease) : Presented db db lease :=
  ⟨le_rfl, .refl _, Or.inl rfl⟩

theorem Presented.of_ends {shown : JobLease} {old new : Job} (ends : Ends db db' shown old new)
    (named : lease.jobId = shown.jobId) (token : lease.leaseToken = shown.leaseToken) :
    Presented db db' lease :=
  ⟨ends.fresh, ends.inherits,
    Or.inr ⟨old, shown, by rw [named]; exact ends.found, ends.shows, token.symm⟩⟩

theorem held_of_current (current : Inbox.isCurrent db lease = true) : Held db lease := by
  obtain ⟨job, locked⟩ := Inbox.isCurrent_eq_true.mp current
  obtain ⟨found, shows, -⟩ := lockCurrentJobAttempt_eq_some.mp locked
  exact ⟨job, lease, found, shows, rfl⟩

end Presented

end Sooqa.Jobs
