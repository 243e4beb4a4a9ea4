import Sooqa.Inbox.System

/-!
The ingest side with its workspaces in view. The steps are those of the ingest
side; recovery and retention of cleanup jobs are added, and the rest of the
program keeps to what it does: it edits a media without touching its storage
columns and leaves cleanup jobs alone, and a stage reports a file of the
workspace it works in. Two records go beyond the program's: the cleanup
attempts that were told to go ahead, and the workspaces
such an attempt has finished with.
-/
namespace Sooqa.Workspace
open Foundation Queue Worker

structure World where
  inbox : Inbox.World
  handed : Table Uuid (Uuid × Uuid)
  released : Table (Uuid × Uuid) Unit

def initial : World := ⟨Inbox.initial, ∅, ∅⟩

inductive Action where
  | inbox (act : Inbox.Action)
  | recoverCleanup (id : JobId) (expected : JobCommand)
  | pruneCleanup (ingestId workspaceId : Uuid) (cutoff : Time)

section Cleanup

/-- `recover_job` of the cleanup family. -/
def recoverCleanupJob (db : Db) (id : JobId) (expected : JobCommand) : Db :=
  match expected with
  | .cleanupWorkspace _ _ =>
    match recoverQueueOnlyInTransaction db.jobs db.now id expected with
    | .ok (some jobs) => { db with jobs := jobs }
    | _ => db
  | _ => db

/-- `terminal_job_retention_eligible`. The current generation keeps its job
    until it has succeeded and the path of its media is cleared. -/
def cleanupRetentionEligible (db : Db) (job : Job) (ingestId workspaceId : Uuid) : Bool :=
  match db.ingests.get ingestId with
  | none => false
  | some request =>
    if request.workspaceId ≠ workspaceId then true
    else if job.state ≠ .succeeded then false
    else if !Inbox.cleanupAllowed request.status then false
    else match request.mediaId with
      | none => true
      | some mediaId =>
        match db.media.get mediaId with
        | none => false
        | some row =>
          (row.storageState == .ready || row.storageState == .missing) && row.localWorkPath.isNone

/-- One candidate of `prune_terminal_jobs`. -/
def pruneCleanupJob (db : Db) (ingestId workspaceId : Uuid) (cutoff : Time) : Option Db := do
  let job ← db.jobs.get (.cleanupWorkspace ingestId workspaceId)
  let completedAt ← job.completedAt
  if !job.state.live && decide (completedAt ≤ cutoff ∧ cutoff < db.now) &&
      cleanupRetentionEligible db job ingestId workspaceId then
    some { db with jobs := db.jobs.delete (.cleanupWorkspace ingestId workspaceId) }
  else none

end Cleanup

section Environment

def isCleanupKey : JobKey → Bool
  | .cleanupWorkspace _ _ => true
  | _ => false

def reportedIngest : Inbox.Report → Option Library.MediaIngest
  | .resolve ingest | .fingerprinted ingest _ => some ingest
  | _ => none

/-- The storage columns of a row are those of another. -/
def sameStorage (media row : Media) : Bool :=
  media.storageState == row.storageState && media.localWorkPath == row.localWorkPath &&
    media.storageGeneration == row.storageGeneration &&
    media.canonicalSha256 == row.canonicalSha256

/-- What the rest of the program and the workers keep to. -/
def admitted (w : Inbox.World) : Inbox.Action → Bool
  | .setMedia id media => (w.db.media.get id).any (sameStorage media)
  | .putForeignJob job => !isCleanupKey job.id.key
  | .deleteForeignJob key => !isCleanupKey key
  | .report token report =>
    match w.attempts.get token, reportedIngest report with
    | some attempt, some ingest => ingest.localWorkPath.map (·.1) == attempt.workspace
    | _, _ => true
  | _ => true

end Environment

section Steps

/-- A cleanup that was told to go ahead is remembered. -/
def handedAfter (w : World) (after : Inbox.World) : Inbox.Action → Table Uuid (Uuid × Uuid)
  | .call token _ =>
    match after.attempts.get token with
    | some ⟨_, .cleanupWorkspace ingestId workspaceId, .cleaning⟩ =>
      w.handed.set token (ingestId, workspaceId)
    | _ => w.handed
  | _ => w.handed

/-- And so is the end of one whose job has succeeded. -/
def releasedAfter (w : World) (after : Inbox.World) : Inbox.Action → Table (Uuid × Uuid) Unit
  | .finish token _ =>
    match w.inbox.attempts.get token, w.handed.get token with
    | some ⟨_, _, .returned (.ok _)⟩, some (ingestId, workspaceId) =>
      match after.db.jobs.get (.cleanupWorkspace ingestId workspaceId) with
      | some job =>
        if job.state = .succeeded then w.released.set (ingestId, workspaceId) () else w.released
      | none => w.released
    | _, _ => w.released
  | _ => w.released

def step (calendar : Publisher.Calendar) (w : World) : Action → Option World
  | .inbox act =>
    if admitted w.inbox act then do
      let after ← Inbox.step calendar w.inbox act
      some ⟨after, handedAfter w after act, releasedAfter w after act⟩
    else none
  | .recoverCleanup id expected =>
    some { w with
      inbox := { w.inbox with db := recoverCleanupJob w.inbox.db id expected } }
  | .pruneCleanup ingestId workspaceId cutoff => do
    let db ← pruneCleanupJob w.inbox.db ingestId workspaceId cutoff
    some { w with inbox := { w.inbox with db := db } }

end Steps
end Sooqa.Workspace
