import Sooqa.Captions.System
import Sooqa.Publisher.System
import Sooqa.Storage.System
import Sooqa.Workspace.System

/-!
Retention of finished jobs. Each candidate of a scan gets a transaction of its
own: the owner of its aggregate decides, then the queue row is locked in the
state the scan saw, checked against the payload of the candidate and deleted.
-/
namespace Sooqa.Retention
open Foundation Queue

inductive JobRetentionError where
  | invalidBatchSize | invalidHorizon | invalidScanSize
  deriving DecidableEq, Repr

/-- Horizons are durations of the store's clock; a batch bounds the rows one
    invocation deletes, a scan the ones it looks at. -/
structure JobRetentionPolicy where
  succeededAfter : Int
  cancelledAfter : Int
  failedAfter : Int
  batchSize : Nat
  scanSize : Nat
  deriving DecidableEq, Repr

namespace JobRetentionPolicy

def maxHorizon : Int := 3650 * day

def validate (policy : JobRetentionPolicy) : Except JobRetentionError Unit := do
  require (0 < policy.succeededAfter ∧ policy.succeededAfter ≤ maxHorizon ∧
    0 < policy.cancelledAfter ∧ policy.cancelledAfter ≤ maxHorizon ∧
    0 < policy.failedAfter ∧ policy.failedAfter ≤ maxHorizon) .invalidHorizon
  require (policy.batchSize ≠ 0 ∧ policy.batchSize ≤ 10000) .invalidBatchSize
  require (policy.batchSize ≤ policy.scanSize ∧ policy.scanSize ≤ 100000) .invalidScanSize

def cutoff (policy : JobRetentionPolicy) (state : JobState) (now : Time) : Option Int :=
  match state with
  | .succeeded => some (now - policy.succeededAfter)
  | .cancelled => some (now - policy.cancelledAfter)
  | .failed => some (now - policy.failedAfter)
  | .queued | .running _ => none

end JobRetentionPolicy

def ownerAllowsPrune (db : Db) (job : Job) : Bool :=
  match job.command with
  | .inspectSource ingestId | .downloadSource ingestId _ | .probeAsset ingestId
  | .normalizeAsset ingestId | .computeFingerprint ingestId | .finalizeIngest ingestId =>
    Inbox.stageJobRetentionEligible db job ingestId
  | .materializePublication ingestId => Publisher.materializationRetentionEligible db ingestId
  | .publishPost postId _ => Publisher.publishJobRetentionEligible db postId
  | .uploadStorageAsset mediaId _ => Storage.uploadJobRetentionEligible db mediaId
  | .syncStorageCaption mediaId _ => Captions.captionJobRetentionEligible db mediaId
  | .cleanupWorkspace ingestId workspaceId =>
    Workspace.cleanupRetentionEligible db job ingestId workspaceId

/-- `WHERE id = … AND state = … AND completed_at <= …`. -/
def lockTerminalCandidate (jobs : Jobs) (job : Job) (cutoff : Int) : Option Job :=
  (jobs.find job.id).filter (fun locked =>
    locked.state == job.state &&
      locked.completedAt.any (fun done : Time => decide ((done : Int) ≤ cutoff)))

/-- The transaction of one candidate, which the scan read some time ago. -/
def pruneCandidate (db : Db) (policy : JobRetentionPolicy) (now : Time) (job : Job) :
    Option Db := do
  let cutoff ← policy.cutoff job.state now
  let completedAt ← job.completedAt
  if (completedAt : Int) ≤ cutoff ∧ ownerAllowsPrune db job = true then
    let locked ← lockTerminalCandidate db.jobs job cutoff
    match validateLockedCommand locked job.command with
    | .ok _ => some { db with jobs := db.jobs.delete locked.id.key }
    | .error _ => none
  else none

/-- A candidate of each family, as the owner of the family sees it. -/
def prune (db : Db) (key : JobKey) (cutoff : Time) : Option Db :=
  match key with
  | .stage _ _ _ | .materializePublication _ => Inbox.prune db key cutoff
  | .publish postId => Publisher.prune db postId cutoff
  | .uploadStorage _ _ => Storage.prune db key cutoff
  | .syncCaption _ _ _ => Captions.prune db key cutoff
  | .cleanupWorkspace ingestId workspaceId =>
    Workspace.pruneCleanupJob db ingestId workspaceId cutoff

section Rows
variable {db db' : Db} {policy : JobRetentionPolicy} {now cutoff : Time} {job : Job} {key : JobKey}

/-- One row that is not live is deleted, and nothing else happens. -/
structure Pruned (db db' : Db) (key : JobKey) : Prop where
  row : ∃ job, db.jobs.get key = some job ∧ job.state.live = false
  written : db' = { db with jobs := db.jobs.delete key }

theorem cutoff_not_live {state : JobState} {limit : Int}
    (h : policy.cutoff state now = some limit) : state.live = false := by
  cases state <;> simp [JobRetentionPolicy.cutoff, JobState.live] at h ⊢

theorem cutoff_past (valid : policy.validate = .ok ()) {state : JobState} {limit : Int}
    (h : policy.cutoff state now = some limit) : limit < now := by
  simp only [JobRetentionPolicy.validate, bind_ok, require_ok] at valid
  obtain ⟨-, horizons, -⟩ := valid
  cases state <;> simp only [JobRetentionPolicy.cutoff, Option.some.injEq, reduceCtorEq] at h
  all_goals omega

theorem lockTerminalCandidate_eq_some {jobs : Jobs} {locked : Job} {limit : Int}
    (h : lockTerminalCandidate jobs job limit = some locked) :
    jobs.get job.id.key = some locked ∧ locked.id = job.id ∧ locked.state = job.state ∧
      ∃ done, locked.completedAt = some done ∧ (done : Int) ≤ limit := by
  simp only [lockTerminalCandidate, Option.filter_eq_some_iff, Jobs.find_eq_some, Bool.and_eq_true,
    beq_iff_eq, Option.any_eq_true_iff_get, decide_eq_true_eq] at h
  obtain ⟨⟨found, same⟩, state, present, inTime⟩ := h
  exact ⟨found, same, state, _, (Option.some_get present).symm, inTime⟩

/-- What the transaction of a candidate has checked when it deletes. -/
structure Checked (db db' : Db) (policy : JobRetentionPolicy) (now : Time) (job : Job) : Prop where
  row : ∃ locked limit done, db.jobs.get job.id.key = some locked ∧ locked.id = job.id ∧
    locked.state = job.state ∧ locked.completedAt = some done ∧
    policy.cutoff job.state now = some limit ∧ (done : Int) ≤ limit
  allowed : ownerAllowsPrune db job = true
  written : db' = { db with jobs := db.jobs.delete job.id.key }

theorem pruneCandidate_ok (h : pruneCandidate db policy now job = some db') :
    Checked db db' policy now job := by
  simp only [pruneCandidate, Option.bind_eq_bind, Option.bind_eq_some_iff,
    Option.ite_none_right_eq_some] at h
  obtain ⟨limit, horizon, completedAt, -, ⟨-, allowed⟩, locked, held, h⟩ := h
  obtain ⟨found, same, state, done, ended, inTime⟩ := lockTerminalCandidate_eq_some held
  split at h
  · cases h
    exact ⟨⟨locked, limit, done, found, same, state, ended, horizon, inTime⟩, allowed, by rw [same]⟩
  · cases h

theorem pruneCandidate_pruned (h : pruneCandidate db policy now job = some db') :
    Pruned db db' job.id.key := by
  have checked := pruneCandidate_ok h
  obtain ⟨locked, limit, done, found, -, state, -, horizon, -⟩ := checked.row
  exact ⟨⟨locked, found, state ▸ cutoff_not_live horizon⟩, checked.written⟩

/-- No job that waits or runs is deleted. -/
theorem Pruned.keeps (pruned : Pruned db db' key) {other : JobKey} {row : Job}
    (found : db.jobs.get other = some row) (live : row.state.live = true) :
    db'.jobs.get other = some row := by
  obtain ⟨job, there, dead⟩ := pruned.row
  rw [pruned.written, Jobs.get_delete, if_neg, found]
  rintro rfl
  rw [there] at found
  cases found
  rw [dead] at live
  cases live

/-- The fence of a stage job reads only the identity of the job. -/
theorem stageEligible_id {locked : Job} (same : locked.id = job.id) (ingestId : Uuid) :
    Inbox.stageJobRetentionEligible db locked ingestId =
      Inbox.stageJobRetentionEligible db job ingestId := by
  simp only [Inbox.stageJobRetentionEligible, same]

/-- The fence of a cleanup job reads only its state. -/
theorem cleanupEligible_state {locked : Job} (same : locked.state = job.state)
    (ingestId workspaceId : Uuid) :
    Workspace.cleanupRetentionEligible db locked ingestId workspaceId =
      Workspace.cleanupRetentionEligible db job ingestId workspaceId := by
  simp only [Workspace.cleanupRetentionEligible, same]

theorem ownerAllowsPrune_stage {stage : Stage} {ingestId : Uuid} {forceSave : Bool}
    (key : job.id.key = .stage stage ingestId forceSave) :
    ownerAllowsPrune db job = Inbox.stageJobRetentionEligible db job ingestId := by
  have owned := job.owned
  rw [key] at owned
  unfold ownerAllowsPrune
  cases command : job.command <;> rw [command] at owned <;>
    simp_all [JobKey.owns, JobCommand.jobType, JobCommand.stageIngest]

/-- The transaction of a candidate is the step of its family. -/
theorem pruneCandidate_prune (valid : policy.validate = .ok ()) (reached : now ≤ db.now)
    (h : pruneCandidate db policy now job = some db') :
    ∃ cutoff, prune db job.id.key cutoff = some db' := by
  have checked := pruneCandidate_ok h
  obtain ⟨locked, limit, done, found, same, state, ended, horizon, inTime⟩ := checked.row
  have dead : locked.state.live = false := state ▸ cutoff_not_live horizon
  have past : done < db.now := by
    have before : (done : Int) < now := lt_of_le_of_lt inTime (cutoff_past valid horizon)
    exact lt_of_lt_of_le (Int.ofNat_lt.mp before) reached
  have allowed := checked.allowed
  have owned := job.owned
  refine ⟨done, ?_⟩
  rw [checked.written]
  cases key : job.id.key with
  | stage stage ingestId forceSave =>
    rw [ownerAllowsPrune_stage key, ← stageEligible_id same] at allowed
    rw [key] at found
    simp [prune, Inbox.prune, found, ended, dead, past, allowed]
  | materializePublication ingestId =>
    rw [key] at owned found
    cases command : job.command <;> rw [command] at owned <;> simp [JobKey.owns] at owned
    subst owned
    simp only [ownerAllowsPrune, command] at allowed
    simp [prune, Inbox.prune, found, ended, dead, past, allowed]
  | uploadStorage mediaId generation =>
    rw [key] at owned found
    cases command : job.command <;> rw [command] at owned <;> simp [JobKey.owns] at owned
    obtain ⟨rfl, rfl⟩ := owned
    simp only [ownerAllowsPrune, command] at allowed
    simp [prune, Storage.prune, found, ended, dead, past, allowed]
  | syncCaption mediaId generation after =>
    rw [key] at owned found
    cases command : job.command <;> rw [command] at owned <;> simp [JobKey.owns] at owned
    obtain ⟨rfl, rfl⟩ := owned
    simp only [ownerAllowsPrune, command] at allowed
    simp [prune, Captions.prune, found, ended, dead, past, allowed]
  | publish postId =>
    rw [key] at owned found
    cases command : job.command <;> rw [command] at owned <;> simp [JobKey.owns] at owned
    subst owned
    simp only [ownerAllowsPrune, command] at allowed
    simp [prune, Publisher.prune, found, ended, dead, past, allowed]
  | cleanupWorkspace ingestId workspaceId =>
    rw [key] at owned found
    cases command : job.command <;> rw [command] at owned <;> simp [JobKey.owns] at owned
    obtain ⟨rfl, rfl⟩ := owned
    simp only [ownerAllowsPrune, command] at allowed
    rw [← cleanupEligible_state state] at allowed
    simp [prune, Workspace.pruneCleanupJob, found, ended, dead, past, allowed]

/-- The step of every family deletes one row that is not live. -/
theorem prune_pruned (h : prune db key cutoff = some db') : Pruned db db' key := by
  cases key with
  | stage stage ingestId forceSave =>
    simp only [prune, Inbox.prune, Option.bind_eq_bind, Option.bind_eq_some_iff,
      Option.ite_none_right_eq_some, Bool.and_eq_true, Bool.not_eq_true', Option.some.injEq] at h
    obtain ⟨job, found, -, -, ⟨⟨dead, -⟩, -⟩, rfl⟩ := h
    exact ⟨⟨job, found, dead⟩, rfl⟩
  | materializePublication ingestId =>
    simp only [prune, Inbox.prune, Option.bind_eq_bind, Option.bind_eq_some_iff,
      Option.ite_none_right_eq_some, Bool.and_eq_true, Bool.not_eq_true', Option.some.injEq] at h
    obtain ⟨job, found, -, -, ⟨⟨dead, -⟩, -⟩, rfl⟩ := h
    exact ⟨⟨job, found, dead⟩, rfl⟩
  | cleanupWorkspace ingestId workspaceId =>
    simp only [prune, Workspace.pruneCleanupJob, Option.bind_eq_bind, Option.bind_eq_some_iff,
      Option.ite_none_right_eq_some, Bool.and_eq_true, Bool.not_eq_true', Option.some.injEq] at h
    obtain ⟨job, found, -, -, ⟨⟨dead, -⟩, -⟩, rfl⟩ := h
    exact ⟨⟨job, found, dead⟩, rfl⟩
  | publish postId =>
    simp only [prune, Publisher.prune] at h
    split at h
    · cases h
    · rename_i job found
      split at h
      · cases h
      · simp only [Option.ite_none_right_eq_some, Bool.and_eq_true, Bool.not_eq_true',
          Option.some.injEq] at h
        obtain ⟨⟨⟨dead, -⟩, -⟩, rfl⟩ := h
        exact ⟨⟨job, found, dead⟩, rfl⟩
  | uploadStorage mediaId generation =>
    simp only [prune, Storage.prune] at h
    split at h
    · rename_i other otherGeneration job same found
      simp only [Option.ite_none_right_eq_some, Bool.and_eq_true, Bool.not_eq_true',
        Option.some.injEq] at h
      obtain ⟨⟨⟨dead, -⟩, -⟩, rfl⟩ := h
      exact ⟨⟨job, found, dead⟩, rfl⟩
    · cases h
  | syncCaption mediaId generation after =>
    simp only [prune, Captions.prune] at h
    split at h
    · rename_i other otherGeneration otherAfter job same found
      simp only [Option.ite_none_right_eq_some, Bool.and_eq_true, Bool.not_eq_true',
        Option.some.injEq] at h
      obtain ⟨⟨⟨dead, -⟩, -⟩, rfl⟩ := h
      exact ⟨⟨job, found, dead⟩, rfl⟩
    · cases h

end Rows

end Sooqa.Retention
