import Sooqa.Workspace.Effects
import Sooqa.Inbox.Pipeline

/-!
The workspaces over whole runs: what every step does to them, to their cleanup
jobs and to the paths of the media, and what a cleanup attempt can rely on.
-/
namespace Sooqa.Workspace
open Foundation Queue Worker
open Inbox (Attempt isCurrent)

section Conditions

/-- The cleanup of the workspace an ingest has. -/
def IsCurrentCleanup (db : Db) (command : JobCommand) : Prop :=
  ∃ id row, db.ingests.get id = some row ∧ command = .cleanupWorkspace id row.workspaceId

/-- The settlement of a cleanup attempt that has none left, or failed for good. -/
def GivesUp (db : Db) (attempt : Attempt) (settlement : JobSettlement) : Prop :=
  IsCurrentCleanup db attempt.command ∧ ∃ job, db.jobs.get attempt.lease.jobId.key = some job ∧
    (queueParameters job settlement).terminal = true

/-- A step that ends the cleanup of a current workspace failed. -/
def EndsCleanup (w : World) : Action → Prop
  | .inbox (.finish token outcome) => outcome.applied = true ∧ ∃ attempt failure settlement,
    w.inbox.attempts.get token = some attempt ∧ attempt.phase = .returned (.error failure) ∧
      finishSettlement w.inbox.db.now failure = some settlement ∧
      GivesUp w.inbox.db attempt settlement
  | .inbox (.shutdown token outcome) => outcome.applied = true ∧ ∃ attempt,
    w.inbox.attempts.get token = some attempt ∧
      GivesUp w.inbox.db attempt (shutdownSettlement w.inbox.db.now)
  | .recoverCleanup id _ => ∃ job, lockExpiredJob w.inbox.db.jobs w.inbox.db.now id = some job ∧
    IsCurrentCleanup w.inbox.db job.command ∧
    (expiredUpdate w.inbox.db.now job).terminal = true
  | _ => False

/-- The path a step may give to a media. -/
def actionSource (w : World) : Action → Option (Uuid × String)
  | .inbox (.call token _) => (w.inbox.attempts.get token).bind (callSource w.inbox.db)
  | _ => none

end Conditions

section Moves

/-- What a step does to the cleanup job of one workspace. -/
inductive JobMove (act : Action) (w w' : World) (id workspaceId : Uuid) : Prop where
  | same (same : w'.inbox.db.jobs.get (.cleanupWorkspace id workspaceId) =
      w.inbox.db.jobs.get (.cleanupWorkspace id workspaceId))
  | added (absent : w.inbox.db.jobs.get (.cleanupWorkspace id workspaceId) = none)
      (own : ∃ row, w'.inbox.db.ingests.get id = some row ∧ row.workspaceId = workspaceId) (job' : Job)
      (after : w'.inbox.db.jobs.get (.cleanupWorkspace id workspaceId) = some job')
      (queued : job'.state = .queued)
  | written (job job' : Job) (before : w.inbox.db.jobs.get (.cleanupWorkspace id workspaceId) = some job)
      (after : w'.inbox.db.jobs.get (.cleanupWorkspace id workspaceId) = some job')
      (ended : job'.state.live = false → w'.released.get (id, workspaceId) = some () ∨
        EndsCleanup w act ∨
        ∀ row, w.inbox.db.ingests.get id = some row → row.workspaceId ≠ workspaceId)
  | pruned (job : Job) (before : w.inbox.db.jobs.get (.cleanupWorkspace id workspaceId) = some job)
      (after : w'.inbox.db.jobs.get (.cleanupWorkspace id workspaceId) = none)
      (ended : job.state = .succeeded ∨
        ∀ row, w.inbox.db.ingests.get id = some row → row.workspaceId ≠ workspaceId)

/-- What a step does to the workspaces, their cleanup jobs and the paths of
    the media. -/
structure Swept (act : Action) (w w' : World) : Prop where
  rows : ∀ id, Sweep w.inbox.db w'.inbox.db id
  jobs : ∀ id workspaceId, JobMove act w w' id workspaceId
  leases : ∀ id workspaceId, Stamped w.inbox.db.fresh w.inbox.db.now w.inbox.db.jobs
    w'.inbox.db.jobs (.cleanupWorkspace id workspaceId)
  paths : ∀ mediaId row' path, w'.inbox.db.media.get mediaId = some row' →
    row'.localWorkPath = some path → actionSource w act = some path ∨
      ∃ row, w.inbox.db.media.get mediaId = some row ∧ row.localWorkPath = some path
  now : w.inbox.db.now ≤ w'.inbox.db.now
  fresh : w.inbox.db.fresh ≤ w'.inbox.db.fresh

variable {act : Action} {w w' : World}

namespace Swept

theorem of_source (h : WorkspaceStep (actionSource w act) w.inbox.db w'.inbox.db) :
    Swept act w w' where
  rows := h.rows
  jobs := by
    intro id workspaceId
    rcases h.jobs id workspaceId with same | ⟨absent, own, job, found, queued⟩
    · exact .same same
    · exact .added absent own job found queued
  leases := by
    intro id workspaceId
    rcases h.jobs id workspaceId with same | ⟨absent, own, job, found, queued⟩
    · exact .of_same _ same
    · intro job' lease there shows
      rw [found] at there
      cases there
      rw [Job.lease_eq_none (fun columns => by rw [queued]; exact JobState.noConfusion)] at shows
      cases shows
  paths := h.paths
  now := le_of_eq h.now.symm
  fresh := h.fresh

theorem of_step (h : WorkspaceStep none w.inbox.db w'.inbox.db) : Swept act w w' :=
  .of_source h.weaken

theorem of_same (db : w'.inbox.db = w.inbox.db) : Swept act w w' :=
  .of_step (db ▸ .refl _)

/-- A step that writes no ingest and settles no storage. -/
theorem beside (ingests : w'.inbox.db.ingests = w.inbox.db.ingests)
    (media : KeepsMedia none w.inbox.db w'.inbox.db)
    (jobs : ∀ id workspaceId, JobMove act w w' id workspaceId)
    (leases : ∀ id workspaceId, Stamped w.inbox.db.fresh w.inbox.db.now w.inbox.db.jobs
      w'.inbox.db.jobs (.cleanupWorkspace id workspaceId))
    (now : w.inbox.db.now ≤ w'.inbox.db.now) (fresh : w.inbox.db.fresh ≤ w'.inbox.db.fresh) :
    Swept act w w' where
  rows := fun _ => .of_same media.resolved (by rw [ingests])
  jobs := jobs
  leases := leases
  paths := media.weaken.paths
  now := now
  fresh := fresh

/-- A step that leaves the cleanup jobs alone, too. -/
theorem aside (ingests : w'.inbox.db.ingests = w.inbox.db.ingests)
    (media : KeepsMedia none w.inbox.db w'.inbox.db)
    (jobs : ∀ id workspaceId, w'.inbox.db.jobs.get (.cleanupWorkspace id workspaceId) =
      w.inbox.db.jobs.get (.cleanupWorkspace id workspaceId))
    (now : w.inbox.db.now ≤ w'.inbox.db.now) (fresh : w.inbox.db.fresh ≤ w'.inbox.db.fresh) :
    Swept act w w' :=
  .beside ingests media (fun id workspaceId => .same (jobs id workspaceId))
    (fun id workspaceId => .of_same _ (jobs id workspaceId)) now fresh

theorem of_rows (ingests : w'.inbox.db.ingests = w.inbox.db.ingests)
    (media : w'.inbox.db.media = w.inbox.db.media) (jobs : w'.inbox.db.jobs = w.inbox.db.jobs)
    (now : w.inbox.db.now ≤ w'.inbox.db.now) (fresh : w.inbox.db.fresh ≤ w'.inbox.db.fresh) :
    Swept act w w' :=
  .aside ingests (.of_same media) (fun _ _ => by rw [jobs]) now fresh

/-- A write of one cleanup job. -/
theorem of_put {job job' : Job} {id workspaceId : Uuid}
    (before : w.inbox.db.jobs.get (.cleanupWorkspace id workspaceId) = some job)
    (same : job'.id = job.id) (db : w'.inbox.db = { w.inbox.db with jobs := w.inbox.db.jobs.put job' })
    (fenced : Fenced w.inbox.db.now w.inbox.db.jobs (w.inbox.db.jobs.put job'))
    (ended : job'.state.live = false → w'.released.get (id, workspaceId) = some () ∨
      EndsCleanup w act ∨
      ∀ row, w.inbox.db.ingests.get id = some row → row.workspaceId ≠ workspaceId) :
    Swept act w w' := by
  have key : job'.id.key = .cleanupWorkspace id workspaceId := by
    rw [same]
    exact w.inbox.db.jobs.get_key before
  refine .beside (by rw [db]) (.of_same (by rw [db]))
    (fun other place => ?_) (fun other place => ?_) (by rw [db]) (by rw [db])
  · by_cases here : (JobKey.cleanupWorkspace other place) = .cleanupWorkspace id workspaceId
    · cases here
      refine .written job job' before ?_ ended
      rw [db, ← key]
      exact Jobs.get_put_self _ _
    · refine .same ?_
      rw [db]
      exact Jobs.get_put_ne _ (key ▸ here)
  · rw [db]
    exact fenced.stamped _ _

end Swept

end Moves

section Invariant

/-- What an attempt at a cleanup can rely on. -/
structure Cleaning (w : World) (token : Uuid) (attempt : Attempt) (id workspaceId : Uuid) : Prop where
  shown : ∀ job lease, w.inbox.db.jobs.get (.cleanupWorkspace id workspaceId) = some job →
    job.lease = some lease → lease.leaseToken = token → lease = attempt.lease
  cleaning : attempt.phase = .cleaning → w.handed.get token = some (id, workspaceId)
  done : attempt.phase = .returned (.ok ()) →
    w.handed.get token = some (id, workspaceId) ∨ isCurrent w.inbox.db attempt.lease = false

/-- What holds in every run. -/
structure Orderly (w : World) : Prop where
  pipeline : Inbox.Pipeline w.inbox
  running : ∀ id row, w.inbox.db.ingests.get id = some row → row.status ≠ .cancelled
  drawn : ∀ id row, w.inbox.db.ingests.get id = some row → row.workspaceId < w.inbox.db.fresh
  keys : ∀ id workspaceId job, w.inbox.db.jobs.get (.cleanupWorkspace id workspaceId) = some job →
    workspaceId < w.inbox.db.fresh ∧ ∃ row, w.inbox.db.ingests.get id = some row
  attempts : ∀ token attempt id workspaceId, w.inbox.attempts.get token = some attempt →
    attempt.command = .cleanupWorkspace id workspaceId → Cleaning w token attempt id workspaceId

/-- The key of a cleanup command. -/
theorem key_of_cleanup {key : JobKey} {command : JobCommand} {id workspaceId : Uuid}
    (owned : key.owns command = true) (is : command = .cleanupWorkspace id workspaceId) :
    key = .cleanupWorkspace id workspaceId := by
  rw [is] at owned
  cases key <;> simp [JobKey.owns, JobCommand.jobType, JobCommand.stageIngest] at owned
  obtain ⟨rfl, rfl⟩ := owned
  rfl

variable {w w' : World} {act : Action}

theorem Swept.rows_drawn (inv : Orderly w) (swept : Swept act w w') {id : Uuid} {row' : Ingest}
    (found : w'.inbox.db.ingests.get id = some row') :
    row'.status ≠ .cancelled ∧ row'.workspaceId < w'.inbox.db.fresh := by
  cases swept.rows id with
  | absent before after =>
    rw [found] at after
    cases after
  | created row before after drawn working running =>
    rw [found] at after
    cases after
    exact ⟨running, drawn⟩
  | kept row other before after workspace due running =>
    rw [found] at after
    cases after
    refine ⟨fun cancelled => inv.running id row before (running cancelled), ?_⟩
    rw [workspace]
    exact lt_of_lt_of_le (inv.drawn id row before) swept.fresh
  | moved row other before after drawn working running =>
    rw [found] at after
    cases after
    exact ⟨running, drawn.2⟩

/-- No ingest goes away. -/
theorem Swept.still_there (swept : Swept act w w') {id : Uuid} {row : Ingest}
    (found : w.inbox.db.ingests.get id = some row) :
    ∃ row', w'.inbox.db.ingests.get id = some row' := by
  cases swept.rows id with
  | absent before =>
    rw [found] at before
    cases before
  | created row' before =>
    rw [found] at before
    cases before
  | kept old row' before after => exact ⟨row', after⟩
  | moved old row' before after => exact ⟨row', after⟩

theorem Swept.keys_drawn (inv : Orderly w) (swept : Swept act w w') {id workspaceId : Uuid} {job' : Job}
    (found : w'.inbox.db.jobs.get (.cleanupWorkspace id workspaceId) = some job') :
    workspaceId < w'.inbox.db.fresh ∧ ∃ row, w'.inbox.db.ingests.get id = some row := by
  have old : ∀ {job}, w.inbox.db.jobs.get (.cleanupWorkspace id workspaceId) = some job →
      workspaceId < w'.inbox.db.fresh ∧ ∃ row, w'.inbox.db.ingests.get id = some row := by
    intro job before
    obtain ⟨drawn, row, present⟩ := inv.keys _ _ _ before
    exact ⟨lt_of_lt_of_le drawn swept.fresh, swept.still_there present⟩
  cases swept.jobs id workspaceId with
  | same same => exact old (same ▸ found)
  | added absent own job after queued =>
    obtain ⟨row, present, rfl⟩ := own
    exact ⟨(swept.rows_drawn inv present).2, row, present⟩
  | written job other before => exact old before
  | pruned job before => exact old before

end Invariant

section Steps
open Inbox
variable {calendar : Publisher.Calendar} {act : Action} {w w' : World}

/-- A lease that holds its row by owner and token is the current one. -/
theorem Cleaning.current {token : Uuid} {attempt : Attempt} {id workspaceId : Uuid} {job : Job}
    (cleaning : Cleaning w token attempt id workspaceId)
    (stamp : attempt.lease.leaseToken = token)
    (key : attempt.lease.jobId.key = .cleanupWorkspace id workspaceId)
    (found : w.inbox.db.jobs.get attempt.lease.jobId.key = some job)
    (held : job.heldBy w.inbox.db.now attempt.lease false = true) :
    isCurrent w.inbox.db attempt.lease = true := by
  obtain ⟨columns, running, owner, same, inTime⟩ := heldBy_eq_true.mp held
  have shows : job.lease = some ⟨job.id, job.attemptCount, columns.owner, columns.token⟩ :=
    Job.lease_eq_some.mpr ⟨columns, running, rfl⟩
  have own := cleaning.shown job _ (key ▸ found) shows (same.trans stamp)
  have unexpired : w.inbox.db.now < columns.expiresAt := by simpa using inTime
  refine isCurrent_eq_true.mpr ⟨job, lockCurrentJobAttempt_eq_some.mpr ⟨found, own ▸ shows, ?_⟩⟩
  rintro ⟨others, showing, ended⟩
  rw [running] at showing
  cases showing
  exact absurd ended (Nat.not_le.mpr unexpired)

theorem cleanup_ne {key : JobKey} (other : isCleanupKey key = false) (id workspaceId : Uuid) :
    JobKey.cleanupWorkspace id workspaceId ≠ key := by
  rintro rfl
  cases other

/-- A write of one row of another kind. -/
theorem Swept.of_foreign {job : Job} (other : isCleanupKey job.id.key = false)
    (db : w'.inbox.db = { w.inbox.db with jobs := w.inbox.db.jobs.put job }) : Swept act w w' := by
  have step : WorkspaceStep none w.inbox.db w'.inbox.db := by
    rw [db]
    exact (WorkspaceStep.refl w.inbox.db).then_put other
  exact .of_step step

theorem not_cleanup_of_owned {key : JobKey} {command : JobCommand} (owned : key.owns command = true)
    (other : ∀ id workspaceId, command ≠ .cleanupWorkspace id workspaceId) :
    isCleanupKey key = false := by
  cases key with
  | cleanupWorkspace id workspaceId =>
    cases command <;> simp [JobKey.owns] at owned
    obtain ⟨rfl, rfl⟩ := owned
    exact absurd rfl (other _ _)
  | _ => rfl

theorem current_or_past (db : Db) {command : JobCommand} {id workspaceId : Uuid}
    (is : command = .cleanupWorkspace id workspaceId) : IsCurrentCleanup db command ∨
      ∀ row, db.ingests.get id = some row → row.workspaceId ≠ workspaceId := by
  by_cases current : ∃ row, db.ingests.get id = some row ∧ row.workspaceId = workspaceId
  · obtain ⟨row, found, rfl⟩ := current
    exact Or.inl ⟨id, row, found, is⟩
  · exact Or.inr (fun row found same => current ⟨row, found, same⟩)

/-- A settled row that is not live is the last of its job. -/
theorem terminal_of_over {job : Job} {now : Time} {update : QueueUpdate}
    (state : update.state = if update.terminal then .failed else .queued)
    (ended : (job.settled now update).state.live = false) : update.terminal = true := by
  cases terminal : update.terminal with
  | true => rfl
  | false =>
    rw [terminal] at state
    have queued : (job.settled now update).state = .queued := state
    rw [queued] at ended
    cases ended

/-- The settlement of an attempt, of whichever family. -/
theorem settle_swept (inv : Orderly w) {token : Uuid} {attempt : Attempt} {settlement : JobSettlement}
    (found : w.inbox.attempts.get token = some attempt)
    (ends : GivesUp w.inbox.db attempt settlement → EndsCleanup w act)
    (db : w'.inbox.db = attempt.settle w.inbox.db settlement) : Swept act w w' := by
  have sound := inv.pipeline.attempts token attempt found
  unfold Attempt.settle at db
  split at db
  · rename_i ingestId command
    have other : isCleanupKey attempt.lease.jobId.key = false :=
      not_cleanup_of_owned sound.owned (by rw [command]; nofun)
    rcases committed_cases w.inbox.db (Publisher.settleMaterializeJob w.inbox.db attempt.lease
      attempt.command settlement) with same | ⟨answer, ok⟩
    · exact .of_same (db.trans same)
    · rw [← db] at ok
      simp only [Publisher.settleMaterializeJob, command, bind_ok, pure_ok, Prod.mk.injEq] at ok
      obtain ⟨⟨jobs, job⟩, settled, written, -⟩ := ok
      obtain ⟨old, there, -, rfl⟩ := settleQueueInTransaction_ok settled
      have foreign : isCleanupKey (old.settled w.inbox.db.now (queueParameters old settlement)).id.key =
          false := (w.inbox.db.jobs.get_key there).symm ▸ other
      exact .of_foreign foreign written.symm
  · rename_i id workspaceId command
    split at db
    · rename_i jobs answer settled
      obtain ⟨job, there, shows, rfl⟩ := settleQueueInTransaction_ok settled
      have key := key_of_cleanup sound.owned command
      have before : w.inbox.db.jobs.get (.cleanupWorkspace id workspaceId) = some job := key ▸ there
      have idle : (job.settled w.inbox.db.now (queueParameters job settlement)).lease = none :=
        Job.settled_idle (queueParameters_state_not_running job settlement)
      refine .of_put before ?_ db (.put_idle _ idle) (fun ended => Or.inr ?_)
      · rfl
      · have last := terminal_of_over (queueParameters_state job settlement) ended
        rcases current_or_past w.inbox.db command with current | past
        · exact Or.inl (ends ⟨current, job, there, last⟩)
        · exact Or.inr past
    · exact .of_same db
  · have step : WorkspaceStep none w.inbox.db w'.inbox.db := by
      rw [db]
      exact .of_committed (fun _ _ => settleJob_step inv.running)
    exact .of_step step

/-- The end of an attempt. A cleanup that succeeded is released. -/
theorem finish_swept (inv : Orderly w) {token : Uuid} {attempt : Attempt} {db' : Db}
    (found : w.inbox.attempts.get token = some attempt)
    (finished : attempt.finish w.inbox.db = some db')
    (ends : ∀ failure settlement, attempt.phase = .returned (.error failure) →
      finishSettlement w.inbox.db.now failure = some settlement →
      GivesUp w.inbox.db attempt settlement → EndsCleanup w act)
    (db : w'.inbox.db = db')
    (released : ∀ id workspaceId job, attempt.phase = .returned (.ok ()) →
      w.handed.get token = some (id, workspaceId) →
      w'.inbox.db.jobs.get (.cleanupWorkspace id workspaceId) = some job → job.state = .succeeded →
      w'.released.get (id, workspaceId) = some ()) : Swept act w w' := by
  have sound := inv.pipeline.attempts token attempt found
  subst db
  unfold Attempt.finish at finished
  split at finished
  · rename_i returned
    split at finished
    · rename_i jobs answer completed
      simp only [Option.some.injEq] at finished
      rcases completeLease_ok completed with same | ⟨job, there, -, held, table⟩
      · subst same
        exact .of_same finished.symm
      · subst table
        have jobKey := w.inbox.db.jobs.get_key there
        by_cases cleanup : ∃ id workspaceId, attempt.command = .cleanupWorkspace id workspaceId
        · obtain ⟨id, workspaceId, command⟩ := cleanup
          have key := key_of_cleanup sound.owned command
          have cleaning := inv.attempts token attempt id workspaceId found command
          have before : w.inbox.db.jobs.get (.cleanupWorkspace id workspaceId) = some job :=
            key ▸ there
          have current := cleaning.current sound.stamp key there held
          refine .of_put before ?_ finished.symm (.put_idle _ (job.succeeded_idle _))
            (fun _ => Or.inl ?_)
          · rfl
          · -- The attempt was told to go ahead, or it would not hold its row.
            have handed : w.handed.get token = some (id, workspaceId) := by
              rcases cleaning.done returned with handed | lost
              · exact handed
              · rw [current] at lost
                cases lost
            refine released id workspaceId (job.succeeded w.inbox.db.now) returned handed ?_ rfl
            rw [← finished, ← key, ← jobKey]
            exact Jobs.get_put_self _ (job.succeeded w.inbox.db.now)
        · have other : isCleanupKey (job.succeeded w.inbox.db.now).id.key = false := by
            show isCleanupKey job.id.key = false
            rw [jobKey]
            exact not_cleanup_of_owned sound.owned (fun id workspaceId is => cleanup ⟨_, _, is⟩)
          exact .of_foreign other finished.symm
    · simp only [Option.some.injEq] at finished
      exact .of_same finished.symm
  · rename_i failure returned
    split at finished
    · rename_i settlement settles
      simp only [Option.some.injEq] at finished
      exact settle_swept inv found (ends failure settlement returned settles) finished.symm
    · simp only [Option.some.injEq] at finished
      exact .of_same finished.symm
  · cases finished

theorem claim_swept {worker : String} {leaseDuration : Time} {key : JobKey} {after : Inbox.World}
    (h : claimJob w.inbox worker leaseDuration key = some after) (inbox : w'.inbox = after) :
    Swept act w w' := by
  unfold claimJob at h
  split at h
  · rename_i jobs claimed claims
    obtain ⟨job, found, queued, -, -, rfl, rfl⟩ := claimNext_ok claims
    simp only [Job.lease, Option.some.injEq] at h
    subst h
    have jobKey := w.inbox.db.jobs.get_key found
    have put : ∀ id workspaceId, w'.inbox.db.jobs.get (.cleanupWorkspace id workspaceId) =
        if JobKey.cleanupWorkspace id workspaceId = job.id.key then some { job with
          state := .running ⟨w.inbox.db.fresh, worker, w.inbox.db.now + leaseDuration, w.inbox.db.now⟩
          attemptCount := job.attemptCount + 1
          updatedAt := w.inbox.db.now }
        else w.inbox.db.jobs.get (.cleanupWorkspace id workspaceId) := by
      intro id workspaceId
      rw [inbox]
      exact Jobs.get_put _ _ _
    refine .beside (by rw [inbox]) (.of_same (by rw [inbox])) (fun id workspaceId => ?_)
      (fun id workspaceId => ?_) (by rw [inbox]) ?_
    · have here := put id workspaceId
      split at here
      · rename_i same
        refine .written job _ ?_ here (fun same => by cases same)
        rw [same, jobKey, found]
      · exact .same here
    · have here := put id workspaceId
      split at here
      · intro job' lease there shows
        rw [here] at there
        cases there
        simp only [Job.lease, Option.some.injEq] at shows
        subst shows
        exact Or.inl rfl
      · exact .of_same _ here
    · rw [inbox]
      exact Nat.le_succ _
  · cases h

theorem heartbeat_swept {lease : JobLease} {leaseDuration : Time} {jobs : Jobs} {renewed : Job}
    (h : heartbeatLease w.inbox.db.jobs w.inbox.db.now lease leaseDuration = .ok (jobs, renewed))
    (db : w'.inbox.db = { w.inbox.db with jobs := jobs }) : Swept act w w' := by
  have fenced := heartbeatLease_fenced h
  obtain ⟨job, found, own, held, row, table⟩ := heartbeatLease_ok h
  subst table
  have jobKey := w.inbox.db.jobs.get_key found
  have same : renewed.id = job.id := by rw [row]
  by_cases cleanup : ∃ id workspaceId, lease.jobId.key = .cleanupWorkspace id workspaceId
  · obtain ⟨id, workspaceId, key⟩ := cleanup
    have before : w.inbox.db.jobs.get (.cleanupWorkspace id workspaceId) = some job := key ▸ found
    refine .of_put before same db fenced (fun ended => ?_)
    rw [row] at ended
    cases ended
  · refine .of_foreign ?_ db
    rw [same, jobKey]
    cases key : lease.jobId.key with
    | cleanupWorkspace id workspaceId => exact absurd ⟨_, _, key⟩ cleanup
    | _ => rfl

/-- Recovery of a stage or a materialization job. -/
theorem recover_swept (inv : Orderly w) {id : JobId} {expected : JobCommand}
    (db : w'.inbox.db = recover w.inbox.db id expected) : Swept act w w' := by
  have step : WorkspaceStep none w.inbox.db w'.inbox.db := by
    rw [db]
    unfold recover
    split
    · refine .of_committed (fun db' answer ok => ?_)
      simp only [Publisher.recoverMaterializeJob, bind_ok] at ok
      obtain ⟨recovered, done, ok⟩ := ok
      split at ok
      · cases ok
        obtain ⟨job, locked, same, rfl⟩ := recoverQueueOnlyInTransaction_ok done
        refine (WorkspaceStep.refl w.inbox.db).then_put ?_
        show isCleanupKey job.id.key = false
        refine not_cleanup_of_command (fun other place is => ?_)
        rw [is] at same
        cases same
      · cases ok
        exact .refl _
    · exact .of_committed (fun _ _ => recoverJob_step inv.running)
  exact .of_step step

theorem prune_swept {key : JobKey} {cutoff : Time} {db' : Db}
    (h : prune w.inbox.db key cutoff = some db') (db : w'.inbox.db = db') : Swept act w w' := by
  subst db
  simp only [prune, Option.bind_eq_bind, Option.bind_eq_some_iff] at h
  obtain ⟨job, found, completedAt, -, h⟩ := h
  rw [Option.ite_none_right_eq_some] at h
  obtain ⟨eligible, written⟩ := h
  simp only [Option.some.injEq] at written
  rw [Bool.and_eq_true] at eligible
  have other : isCleanupKey key = false := by
    cases key with
    | cleanupWorkspace => exact absurd eligible.2 Bool.false_ne_true
    | _ => rfl
  refine .aside ?_ (.of_same ?_) (fun id workspaceId => ?_) ?_ ?_
  · rw [← written]
  · rw [← written]
  · rw [← written]
    exact (Jobs.get_delete _ _ _).trans (if_neg (cleanup_ne other id workspaceId))
  · rw [← written]
  · rw [← written]

theorem recoverCleanup_swept {id : JobId} {expected : JobCommand}
    (db : w'.inbox.db = recoverCleanupJob w.inbox.db id expected) :
    Swept (.recoverCleanup id expected) w w' := by
  unfold recoverCleanupJob at db
  split at db
  · rename_i ingestId workspaceId
    split at db
    · rename_i jobs recovered
      obtain ⟨job, locked, same, rfl⟩ := recoverQueueOnlyInTransaction_ok recovered
      have command : job.command = .cleanupWorkspace ingestId workspaceId := by
        cases command : job.command <;> rw [command] at same <;>
          simp [JobCommand.sameOwner] at same
        rw [same.1, same.2]
      obtain ⟨found, own, -⟩ := lockExpiredJob_eq_some.mp locked
      have key := key_of_cleanup job.owned command
      have before : w.inbox.db.jobs.get (.cleanupWorkspace ingestId workspaceId) = some job := by
        rw [← key, own]
        exact found
      have state := expiredUpdate_state w.inbox.db.now job
      have idle : (job.settled w.inbox.db.now (expiredUpdate w.inbox.db.now job)).lease = none := by
        refine Job.settled_idle (fun columns => ?_)
        rw [state]
        split <;> exact JobState.noConfusion
      refine .of_put before ?_ db (.put_idle _ idle) (fun ended => Or.inr ?_)
      · rfl
      · have last := terminal_of_over state ended
        rcases current_or_past w.inbox.db command with current | past
        · exact Or.inl ⟨job, locked, current, last⟩
        · exact Or.inr past
    · exact .of_same db
  · exact .of_same db

theorem pruneCleanup_swept {ingestId workspaceId : Uuid} {cutoff : Time} {db' : Db}
    (h : pruneCleanupJob w.inbox.db ingestId workspaceId cutoff = some db')
    (db : w'.inbox.db = db') : Swept act w w' := by
  subst db
  simp only [pruneCleanupJob, Option.bind_eq_bind, Option.bind_eq_some_iff] at h
  obtain ⟨job, found, completedAt, -, h⟩ := h
  rw [Option.ite_none_right_eq_some] at h
  obtain ⟨eligible, written⟩ := h
  simp only [Option.some.injEq] at written
  rw [Bool.and_eq_true] at eligible
  have gone : ∀ id place, w'.inbox.db.jobs.get (.cleanupWorkspace id place) =
      if JobKey.cleanupWorkspace id place = .cleanupWorkspace ingestId workspaceId then none
      else w.inbox.db.jobs.get (.cleanupWorkspace id place) := by
    intro id place
    rw [← written]
    exact Jobs.get_delete _ _ _
  refine .beside ?_ (.of_same ?_) (fun id place => ?_) (fun id place => ?_) ?_ ?_
  · rw [← written]
  · rw [← written]
  · have here := gone id place
    split at here
    · rename_i same
      cases same
      refine .pruned job found here ?_
      have eligible := eligible.2
      unfold cleanupRetentionEligible at eligible
      split at eligible
      · cases eligible
      · rename_i request row
        split at eligible
        · rename_i past
          refine Or.inr (fun other there => ?_)
          rw [row] at there
          cases there
          exact past
        · split at eligible
          · cases eligible
          · rename_i succeeded
            exact Or.inl (not_not.mp succeeded)
    · exact .same here
  · rw [← written]
    exact (Fenced.delete _ _).stamped _ _
  · rw [← written]
  · rw [← written]

theorem sameStorage_keeps {source : Option (Uuid × String)} {db : Db} {id : Uuid} {media : Media}
    (admitted : (db.media.get id).any (sameStorage media) = true) :
    KeepsMedia source db { db with media := db.media.set id media } := by
  simp only [Option.any_eq_true, sameStorage, Bool.and_eq_true, beq_iff_eq] at admitted
  obtain ⟨old, present, ⟨⟨state, path⟩, -⟩, -⟩ := admitted
  have kept : KeepsMedia source db (Library.setMedia db id media) :=
    .of_setMedia present (fun settled => state ▸ settled) (fun _ here => path ▸ here)
  exact kept.then_same rfl

theorem releasedAfter_finish {after : Inbox.World} {token : Uuid} {outcome : CallOutcome}
    {attempt : Attempt} {id workspaceId : Uuid} {job : Job}
    (found : w.inbox.attempts.get token = some attempt)
    (returned : attempt.phase = .returned (.ok ()))
    (handed : w.handed.get token = some (id, workspaceId))
    (there : after.db.jobs.get (.cleanupWorkspace id workspaceId) = some job)
    (succeeded : job.state = .succeeded) :
    (releasedAfter w after (.finish token outcome)).get (id, workspaceId) = some () := by
  obtain ⟨lease, command, phase⟩ := attempt
  simp only at returned
  subst returned
  simp only [releasedAfter, found, handed, there, succeeded, if_true]
  exact Table.get_set_self _ _ _

/-- What a step of the ingest side does to the workspaces. -/
theorem inbox_swept (inv : Orderly w) {act : Inbox.Action} {after : Inbox.World}
    (guard : admitted w.inbox act = true)
    (h : Inbox.step calendar w.inbox act = some after) (inbox : w'.inbox = after)
    (released : w'.released = releasedAfter w after act) : Swept (.inbox act) w w' := by
  cases act with
  | createIngest submission =>
    simp only [Inbox.step, Option.ite_none_right_eq_some, Option.some.injEq] at h
    obtain ⟨named, rfl⟩ := h
    have step : WorkspaceStep none w.inbox.db w'.inbox.db := by
      rw [inbox]
      refine .of_committed (fun _ _ => createIngest_step inv.pipeline.drawn (fun place is => ?_))
      simpa [is] using named
    exact .of_step step
  | forceSave id =>
    simp only [Inbox.step, Option.some.injEq] at h
    subst h
    have step : WorkspaceStep none w.inbox.db w'.inbox.db := by
      rw [inbox]
      exact .of_committed (fun _ _ => forceSave_step
        (fun row found => (inv.pipeline.flow id row found).pending_unlinked))
    exact .of_step step
  | acceptDuplicate id mediaId =>
    simp only [Inbox.step, Option.some.injEq] at h
    subst h
    have step : WorkspaceStep none w.inbox.db w'.inbox.db := by
      rw [inbox]
      exact .of_committed (fun _ _ => acceptDuplicate_step
        (fun row found => (inv.pipeline.flow id row found).pending_unlinked))
    exact .of_step step
  | createIntent mediaId intent requestKey =>
    simp only [Inbox.step, Option.some.injEq] at h
    subst h
    have step : WorkspaceStep none w.inbox.db w'.inbox.db := by
      rw [inbox]
      exact .of_committed (fun _ _ => createPublicationIntent_step)
    exact .of_step step
  | claimJob worker leaseDuration key => exact claim_swept h inbox
  | heartbeat token leaseDuration =>
    simp only [Inbox.step, Option.bind_eq_bind, Option.bind_eq_some_iff] at h
    obtain ⟨attempt, -, h⟩ := h
    split at h
    · rename_i jobs renewed ok
      cases h
      exact heartbeat_swept ok (by rw [inbox])
    · cases h
      exact .of_same (by rw [inbox])
  | call token outcome =>
    simp only [Inbox.step, Option.bind_eq_bind, Option.bind_eq_some_iff] at h
    obtain ⟨attempt, found, ⟨db', phase⟩, called, h⟩ := h
    cases h
    have sound := inv.pipeline.attempts token attempt found
    have step := call_step sound.owned called
    have same : w'.inbox.db = db' := by
      rw [inbox]
      rfl
    rw [← same] at step
    refine .of_source ?_
    simpa only [actionSource, found, Option.bind_some] using step
  | report token report =>
    simp only [Inbox.step, Option.bind_eq_bind, Option.bind_eq_some_iff] at h
    obtain ⟨attempt, found, phase, reported, h⟩ := h
    cases h
    exact .of_same (by rw [inbox]; rfl)
  | publish token area name =>
    simp only [Inbox.step, Option.bind_eq_bind, Option.bind_eq_some_iff, publishFile] at h
    obtain ⟨attempt, found, h⟩ := h
    split at h
    · split at h <;> cases h
      exact .of_same (by rw [inbox])
    · cases h
  | removeFile token path =>
    simp only [Inbox.step, Option.bind_eq_bind, Option.bind_eq_some_iff, removeFile] at h
    obtain ⟨attempt, found, h⟩ := h
    split at h
    · split at h <;> cases h
      exact .of_same (by rw [inbox])
    · cases h
  | endCleanup token failure =>
    simp only [Inbox.step, Option.bind_eq_bind, Option.bind_eq_some_iff, endCleanup] at h
    obtain ⟨attempt, found, h⟩ := h
    split at h
    · split at h <;> cases h <;> exact .of_same (by rw [inbox]; rfl)
    · cases h
  | finish token outcome =>
    simp only [Inbox.step, Option.bind_eq_bind, Option.bind_eq_some_iff] at h
    obtain ⟨attempt, found, db', finished, h⟩ := h
    cases h
    cases applied : outcome.applied with
    | false =>
      refine .of_same ?_
      rw [inbox, applied]
      rfl
    | true =>
      rw [applied, if_pos rfl] at inbox released
      refine finish_swept inv found finished (fun failure settlement returned settles gives => ?_)
        ?_ (fun id workspaceId job returned handed there succeeded => ?_)
      · exact ⟨applied, attempt, failure, settlement, found, returned, settles, gives⟩
      · rw [inbox]
        rfl
      · rw [released]
        rw [inbox] at there
        exact releasedAfter_finish found returned handed there succeeded
  | shutdown token outcome =>
    simp only [Inbox.step, Option.bind_eq_bind, Option.bind_eq_some_iff] at h
    obtain ⟨attempt, found, h⟩ := h
    cases h
    cases applied : outcome.applied with
    | false =>
      refine .of_same ?_
      rw [inbox, applied]
      rfl
    | true =>
      rw [applied, if_pos rfl] at inbox
      refine settle_swept inv found (fun gives => ⟨applied, attempt, found, gives⟩) ?_
      rw [inbox]
      rfl
  | crash token =>
    simp only [Inbox.step, Option.bind_eq_bind, Option.bind_eq_some_iff] at h
    obtain ⟨attempt, found, h⟩ := h
    cases h
    exact .of_same (by rw [inbox]; rfl)
  | recover id expected =>
    simp only [Inbox.step, Option.some.injEq] at h
    subst h
    exact recover_swept inv (by rw [inbox])
  | prune key cutoff =>
    simp only [Inbox.step, Option.bind_eq_bind, Option.bind_eq_some_iff] at h
    obtain ⟨db', pruned, h⟩ := h
    cases h
    exact prune_swept pruned (by rw [inbox])
  | storage call =>
    simp only [Inbox.step, Option.some.injEq] at h
    subst h
    have step : WorkspaceStep none w.inbox.db w'.inbox.db := by
      rw [inbox]
      exact storageCall_step w.inbox.db call inv.running
    exact .of_step step
  | tick elapsed =>
    simp only [Inbox.step, Option.some.injEq] at h
    subst h
    refine .of_rows ?_ ?_ ?_ ?_ ?_ <;> rw [inbox]
    exact Nat.le_add_right _ _
  | setChannel id channel =>
    simp only [Inbox.step, Option.some.injEq] at h
    subst h
    refine .of_rows ?_ ?_ ?_ ?_ ?_ <;> rw [inbox]
  | setMedia id media =>
    simp only [Inbox.step, Option.some.injEq] at h
    subst h
    refine .aside ?_ ?_ (fun id workspaceId => ?_) ?_ ?_
    · rw [inbox]
    · rw [inbox]
      exact sameStorage_keeps guard
    · rw [inbox]
    · rw [inbox]
    · rw [inbox]
  | editPost id post =>
    simp only [Inbox.step, Option.ite_none_right_eq_some, Option.some.injEq] at h
    obtain ⟨-, rfl⟩ := h
    refine .of_rows ?_ ?_ ?_ ?_ ?_ <;> rw [inbox]
  | putForeignJob job =>
    simp only [Inbox.step, Option.ite_none_left_eq_some, Option.some.injEq] at h
    obtain ⟨-, rfl⟩ := h
    refine .of_foreign ?_ (by rw [inbox])
    simpa [admitted] using guard
  | deleteForeignJob key =>
    simp only [Inbox.step, Option.ite_none_left_eq_some, Option.some.injEq] at h
    obtain ⟨-, rfl⟩ := h
    have other : isCleanupKey key = false := by simpa [admitted] using guard
    refine .aside ?_ (.of_same ?_) (fun id workspaceId => ?_) ?_ ?_
    · rw [inbox]
    · rw [inbox]
    · rw [inbox]
      exact (Jobs.get_delete _ _ _).trans (if_neg (cleanup_ne other id workspaceId))
    · rw [inbox]
    · rw [inbox]
  | drawUuid =>
    simp only [Inbox.step, Option.some.injEq] at h
    subst h
    refine .of_rows ?_ ?_ ?_ ?_ ?_ <;> rw [inbox]
    exact Nat.le_succ _

end Steps

section Attempts
open Inbox
variable {calendar : Publisher.Calendar} {step : Action} {w w' : World} {token : Uuid}
  {attempt : Attempt} {id workspaceId : Uuid}

theorem Cleaning.still_shown (cleaning : Cleaning w token attempt id workspaceId)
    (swept : Swept step w w') (sound : attempt.Sound w.inbox token) {job : Job} {lease : JobLease}
    (found : w'.inbox.db.jobs.get (.cleanupWorkspace id workspaceId) = some job)
    (shows : job.lease = some lease) (stamp : lease.leaseToken = token) : lease = attempt.lease := by
  rcases swept.leases id workspaceId job lease found shows with fresh | ⟨before, there, showed, -⟩
  · exact absurd (stamp.symm.trans fresh) (Nat.ne_of_lt sound.drawn)
  · exact cleaning.shown before lease there showed stamp

/-- A lost lease stays lost. -/
theorem Swept.still_lost (swept : Swept step w w') (sound : attempt.Sound w.inbox token)
    (command : attempt.command = .cleanupWorkspace id workspaceId)
    (lost : isCurrent w.inbox.db attempt.lease = false) :
    isCurrent w'.inbox.db attempt.lease = false := by
  cases current : isCurrent w'.inbox.db attempt.lease with
  | false => rfl
  | true =>
    have key := key_of_cleanup sound.owned command
    have old : attempt.lease.leaseToken ≠ w.inbox.db.fresh :=
      sound.stamp.symm ▸ Nat.ne_of_lt sound.drawn
    obtain ⟨job, locked⟩ := isCurrent_eq_true.mp current
    obtain ⟨before, there⟩ :=
      (key ▸ swept.leases id workspaceId).current swept.now old locked
    rw [isCurrent_eq_true.mpr ⟨before, there⟩] at lost
    cases lost

/-- An attempt that the step left alone. -/
theorem Cleaning.kept (cleaning : Cleaning w token attempt id workspaceId) (swept : Swept step w w')
    (sound : attempt.Sound w.inbox token)
    (command : attempt.command = .cleanupWorkspace id workspaceId)
    (handed : w'.handed.get token = w.handed.get token) :
    Cleaning w' token attempt id workspaceId := by
  refine ⟨fun job lease found shows => cleaning.still_shown swept sound found shows,
    fun phase => ?_, fun phase => ?_⟩
  · rw [handed]
    exact cleaning.cleaning phase
  · rw [handed]
    exact (cleaning.done phase).imp_right (swept.still_lost sound command)

theorem Cleaning.set_phase {phase : Phase} (cleaning : Cleaning w token attempt id workspaceId)
    (going : phase ≠ .cleaning) (refused : phase ≠ .returned (.ok ())) :
    Cleaning w token { attempt with phase := phase } id workspaceId :=
  ⟨cleaning.shown, fun is => absurd is going, fun is => absurd is refused⟩

theorem handedAfter_ne {after : Inbox.World} {act : Inbox.Action}
    (other : ∀ outcome, act ≠ .call token outcome) :
    (handedAfter w after act).get token = w.handed.get token := by
  cases act with
  | call called outcome =>
    have ne : token ≠ called := fun same => other outcome (same ▸ rfl)
    simp only [handedAfter]
    split
    · exact Table.get_set_ne _ _ ne
    · rfl
  | _ => rfl

/-- What the call of a cleanup attempt can lead to. -/
theorem failed_goes_on (failure : HandlerFailure) :
    Phase.returned (.error failure) ≠ .cleaning ∧
      Phase.returned (.error failure) ≠ .returned (.ok ()) := ⟨nofun, nofun⟩

theorem resolved_goes_on (answer : Except Library.Error Uuid) :
    afterResolve answer ≠ .cleaning ∧ afterResolve answer ≠ .returned (.ok ()) := by
  cases answer <;> exact ⟨nofun, nofun⟩

theorem cleanup_call {db db' : Db} {outcome : CallOutcome} {phase : Phase}
    (command : attempt.command = .cleanupWorkspace id workspaceId)
    (called : attempt.call calendar db outcome = some (db', phase)) :
    phase = .cleaning ∨ (phase = .returned (.ok ()) ∧ isCurrent db attempt.lease = false) ∨
      (phase ≠ .cleaning ∧ phase ≠ .returned (.ok ())) := by
  cases was : attempt.phase with
  | started =>
    simp only [Attempt.call, was, command, Option.some.injEq] at called
    rcases conclude_eq called with ⟨-, error, rfl⟩ | ⟨start, ok, answered⟩
    · exact Or.inr (Or.inr (failed_goes_on _))
    · rcases answered with rfl | rfl
      · cases start with
        | ready => exact Or.inl rfl
        | deferred => exact Or.inr (Or.inr (failed_goes_on _))
        | alreadyAdvanced =>
          refine Or.inr (Or.inl ?_)
          unfold beginWorkspaceCleanup at ok
          split at ok
          · rename_i lost
            cases ok
            exact ⟨rfl, by simpa using lost⟩
          · simp only [bind_ok] at ok
            obtain ⟨request, -, ok⟩ := ok
            split at ok
            · cases ok
            · split at ok
              · cases ok
              · split at ok <;> cases ok
      · exact Or.inr (Or.inr (failed_goes_on _))
  | resolving ingest =>
    simp only [Attempt.call, was, Option.some.injEq] at called
    rcases conclude_eq called with ⟨-, error, rfl⟩ | ⟨mediaId, ok, rfl | rfl⟩ <;>
      exact Or.inr (Or.inr (resolved_goes_on _))
  | admitted => simp [Attempt.call, was, command, beginOf] at called
  | identifying => simp [Attempt.call, was, command, JobCommand.stageIngest] at called
  | completing => simp [Attempt.call, was, command, completeOf] at called
  | failing => simp [Attempt.call, was, command, failOf] at called
  | working => simp [Attempt.call, was] at called
  | deciding => simp [Attempt.call, was] at called
  | cleaning => simp [Attempt.call, was] at called
  | returned => simp [Attempt.call, was] at called

theorem handedAfter_cleaning {after : Inbox.World} {outcome : CallOutcome}
    (command : attempt.command = .cleanupWorkspace id workspaceId)
    (found : after.attempts.get token = some { attempt with phase := .cleaning }) :
    (handedAfter w after (.call token outcome)).get token = some (id, workspaceId) := by
  simp only [handedAfter, found, command]
  exact Table.get_set_self _ _ _

/-- The steps that move no attempt. -/
def movesAttempt : Inbox.Action → Bool
  | .claimJob _ _ _ | .call _ _ | .report _ _ | .endCleanup _ _ => true
  | _ => false

theorem attempt_before {before after : Inbox.World} {act : Inbox.Action}
    (still : movesAttempt act = false) (h : Inbox.step calendar before act = some after)
    (found : after.attempts.get token = some attempt) : before.attempts.get token = some attempt := by
  have removed : ∀ {other}, (before.attempts.remove other).get token = some attempt →
      before.attempts.get token = some attempt := by
    intro other there
    rw [Table.get_remove] at there
    split at there
    · cases there
    · exact there
  cases act with
  | claimJob | call | report | endCleanup => cases still
  | heartbeat other leaseDuration =>
    simp only [Inbox.step, Option.bind_eq_bind, Option.bind_eq_some_iff] at h
    obtain ⟨old, -, h⟩ := h
    split at h <;> cases h <;> exact found
  | publish other area name =>
    simp only [Inbox.step, Option.bind_eq_bind, Option.bind_eq_some_iff, publishFile] at h
    obtain ⟨old, -, h⟩ := h
    split at h
    · split at h <;> cases h
      exact found
    · cases h
  | removeFile other path =>
    simp only [Inbox.step, Option.bind_eq_bind, Option.bind_eq_some_iff, removeFile] at h
    obtain ⟨old, -, h⟩ := h
    split at h
    · split at h <;> cases h
      exact found
    · cases h
  | finish other outcome =>
    simp only [Inbox.step, Option.bind_eq_bind, Option.bind_eq_some_iff] at h
    obtain ⟨old, -, db', -, h⟩ := h
    cases h
    exact removed found
  | shutdown other outcome =>
    simp only [Inbox.step, Option.bind_eq_bind, Option.bind_eq_some_iff] at h
    obtain ⟨old, -, h⟩ := h
    cases h
    exact removed found
  | crash other =>
    simp only [Inbox.step, Option.bind_eq_bind, Option.bind_eq_some_iff] at h
    obtain ⟨old, -, h⟩ := h
    cases h
    exact removed found
  | prune key cutoff =>
    simp only [Inbox.step, Option.bind_eq_bind, Option.bind_eq_some_iff] at h
    obtain ⟨db', -, h⟩ := h
    cases h
    exact found
  | createIngest | editPost | putForeignJob | deleteForeignJob =>
    simp only [Inbox.step, Option.ite_none_right_eq_some, Option.ite_none_left_eq_some,
      Option.some.injEq] at h
    obtain ⟨-, rfl⟩ := h
    exact found
  | forceSave | acceptDuplicate | createIntent | recover | storage | tick | setChannel | setMedia
  | drawUuid =>
    simp only [Inbox.step, Option.some.injEq] at h
    subst h
    exact found

/-- The attempts after a step of the ingest side. -/
theorem inbox_cleaning (inv : Orderly w) (swept : Swept step w w') {act : Inbox.Action}
    {after : Inbox.World} (h : Inbox.step calendar w.inbox act = some after)
    (inbox : w'.inbox = after) (handed : w'.handed = handedAfter w after act)
    (found : w'.inbox.attempts.get token = some attempt)
    (command : attempt.command = .cleanupWorkspace id workspaceId) :
    Cleaning w' token attempt id workspaceId := by
  -- The attempts whose phase the step did not touch.
  have kept : (∀ outcome, act ≠ .call token outcome) →
      w.inbox.attempts.get token = some attempt → Cleaning w' token attempt id workspaceId := by
    intro other before
    refine (inv.attempts token attempt id workspaceId before command).kept swept
      (inv.pipeline.attempts token attempt before) command ?_
    rw [handed]
    exact handedAfter_ne other
  cases act with
  | claimJob worker leaseDuration key =>
    simp only [Inbox.step, claimJob] at h
    split at h
    · rename_i jobs claimed claims
      obtain ⟨job, there, queued, -, -, rfl, rfl⟩ := claimNext_ok claims
      simp only [Job.lease, Option.some.injEq] at h
      subst h
      rw [inbox] at found
      rcases Table.get_set_cases found with ⟨rfl, rfl⟩ | ⟨-, before⟩
      · have key := key_of_cleanup job.owned command
        refine ⟨fun job' lease present shows _ => ?_, (fun same => by cases same),
          fun same => by cases same⟩
        rw [inbox, ← key, Jobs.get_put_self] at present
        cases present
        simp only [Job.lease, Option.some.injEq] at shows
        exact shows.symm
      · exact kept (fun _ same => by cases same) before
    · cases h
  | call called outcome =>
    simp only [Inbox.step, Option.bind_eq_bind, Option.bind_eq_some_iff] at h
    obtain ⟨old, before, ⟨db', phase⟩, calls, h⟩ := h
    cases h
    rw [inbox] at found
    rcases Table.get_set_cases found with ⟨rfl, rfl⟩ | ⟨ne, other⟩
    · have command : old.command = .cleanupWorkspace id workspaceId := command
      have sound := inv.pipeline.attempts token old before
      have cleaning := inv.attempts token old id workspaceId before command
      have shown : ∀ job lease,
          w'.inbox.db.jobs.get (.cleanupWorkspace id workspaceId) = some job →
          job.lease = some lease → lease.leaseToken = token → lease = old.lease :=
        fun job lease there shows => cleaning.still_shown swept sound there shows
      rcases cleanup_call command calls with rfl | ⟨rfl, lost⟩ | ⟨going, refused⟩
      · refine ⟨shown, fun _ => ?_, fun same => by cases same⟩
        rw [handed]
        exact handedAfter_cleaning command found
      · have gone := swept.still_lost sound command lost
        exact ⟨shown, (fun same => by cases same), fun _ => Or.inr gone⟩
      · exact ⟨shown, fun is => absurd is going, fun is => absurd is refused⟩
    · refine kept (fun outcome same => ?_) other
      cases same
      exact ne rfl
  | report other report =>
    simp only [Inbox.step, Option.bind_eq_bind, Option.bind_eq_some_iff] at h
    obtain ⟨old, before, phase, reported, h⟩ := h
    cases h
    rw [inbox] at found
    rcases Table.get_set_cases found with ⟨rfl, rfl⟩ | ⟨ne, there⟩
    · have carried := (inv.attempts token old id workspaceId before command).kept swept
        (inv.pipeline.attempts token old before) command (by rw [handed]; rfl)
      refine carried.set_phase ?_ ?_
      · rintro rfl
        rcases old.report_ok reported with ⟨failure, is⟩ | ⟨-, underWay, -⟩
        · cases is
        · cases underWay
      · rintro rfl
        rcases old.report_ok reported with ⟨failure, is⟩ | ⟨-, underWay, -⟩
        · cases is
        · cases underWay
    · exact kept (fun _ same => by cases same) there
  | endCleanup other failure =>
    simp only [Inbox.step, Option.bind_eq_bind, Option.bind_eq_some_iff, endCleanup] at h
    obtain ⟨old, before, h⟩ := h
    split at h
    · rename_i cleaning
      split at h <;> cases h <;> rw [inbox] at found <;>
        rcases Table.get_set_cases found with ⟨rfl, rfl⟩ | ⟨ne, there⟩
      · have carried := (inv.attempts token old id workspaceId before command).kept swept
          (inv.pipeline.attempts token old before) command (by rw [handed]; rfl)
        exact ⟨carried.shown, (fun same => by cases same),
          fun _ => Or.inl (carried.cleaning cleaning)⟩
      · exact kept (fun _ same => by cases same) there
      · have carried := (inv.attempts token old id workspaceId before command).kept swept
          (inv.pipeline.attempts token old before) command (by rw [handed]; rfl)
        exact carried.set_phase (fun same => by cases same) (fun same => by cases same)
      · exact kept (fun _ same => by cases same) there
    · cases h
  | _ =>
    have before := attempt_before rfl h (inbox ▸ found)
    exact kept (fun _ same => by cases same) before

end Attempts

section Runs
variable {calendar : Publisher.Calendar} {w w' : World} {act : Action}

theorem releasedAfter_kept {after : Inbox.World} {act : Inbox.Action} {key : Uuid × Uuid}
    (h : w.released.get key = some ()) : (releasedAfter w after act).get key = some () := by
  unfold releasedAfter
  split
  · split
    · split
      · split
        · rw [Table.get_set]
          split
          · rfl
          · exact h
        · exact h
      · exact h
    · exact h
  · exact h

/-- Recovery and retention of cleanup jobs are foreign to the ingest side. -/
theorem pipeline_step (inv : Inbox.Pipeline w.inbox) (h : step calendar w act = some w') :
    Inbox.Pipeline w'.inbox := by
  cases act with
  | inbox act =>
    simp only [step, Option.bind_eq_bind, Option.ite_none_right_eq_some, Option.bind_eq_some_iff,
      Option.some.injEq] at h
    obtain ⟨-, after, moved, rfl⟩ := h
    exact inv.step moved
  | recoverCleanup id expected =>
    simp only [step, Option.some.injEq] at h
    subst h
    unfold recoverCleanupJob
    split
    · split
      · rename_i jobs recovered
        obtain ⟨job, locked, same, rfl⟩ := recoverQueueOnlyInTransaction_ok recovered
        have foreign : Inbox.isIngestKey
            (job.settled w.inbox.db.now (expiredUpdate w.inbox.db.now job)).id.key = false := by
          show Inbox.isIngestKey job.id.key = false
          have owned := job.owned
          cases command : job.command <;> rw [command] at same <;>
            simp [JobCommand.sameOwner] at same
          rw [key_of_cleanup owned command]
          rfl
        have moved : Inbox.step calendar w.inbox (.putForeignJob
            (job.settled w.inbox.db.now (expiredUpdate w.inbox.db.now job))) = some _ :=
          if_neg (by rw [foreign]; exact Bool.false_ne_true)
        exact inv.step moved
      · exact inv
    · exact inv
  | pruneCleanup ingestId workspaceId cutoff =>
    simp only [step, Option.bind_eq_bind, Option.bind_eq_some_iff, Option.some.injEq] at h
    obtain ⟨db', pruned, rfl⟩ := h
    simp only [pruneCleanupJob, Option.bind_eq_bind, Option.bind_eq_some_iff] at pruned
    obtain ⟨job, -, completedAt, -, pruned⟩ := pruned
    rw [Option.ite_none_right_eq_some] at pruned
    obtain ⟨-, written⟩ := pruned
    cases written
    have moved : Inbox.step calendar w.inbox
        (.deleteForeignJob (.cleanupWorkspace ingestId workspaceId)) = some _ := rfl
    exact inv.step moved

theorem step_swept (inv : Orderly w) (h : step calendar w act = some w') : Swept act w w' := by
  cases act with
  | inbox act =>
    simp only [step, Option.bind_eq_bind, Option.ite_none_right_eq_some, Option.bind_eq_some_iff,
      Option.some.injEq] at h
    obtain ⟨guard, after, moved, rfl⟩ := h
    exact inbox_swept inv guard moved rfl rfl
  | recoverCleanup id expected =>
    simp only [step, Option.some.injEq] at h
    subst h
    exact recoverCleanup_swept rfl
  | pruneCleanup ingestId workspaceId cutoff =>
    simp only [step, Option.bind_eq_bind, Option.bind_eq_some_iff, Option.some.injEq] at h
    obtain ⟨db', pruned, rfl⟩ := h
    exact pruneCleanup_swept pruned rfl

theorem step_released (h : step calendar w act = some w') (key : Uuid × Uuid)
    (before : w.released.get key = some ()) : w'.released.get key = some () := by
  cases act with
  | inbox act =>
    simp only [step, Option.bind_eq_bind, Option.ite_none_right_eq_some, Option.bind_eq_some_iff,
      Option.some.injEq] at h
    obtain ⟨-, after, -, rfl⟩ := h
    exact releasedAfter_kept before
  | recoverCleanup id expected =>
    simp only [step, Option.some.injEq] at h
    subst h
    exact before
  | pruneCleanup ingestId workspaceId cutoff =>
    simp only [step, Option.bind_eq_bind, Option.bind_eq_some_iff, Option.some.injEq] at h
    obtain ⟨db', -, rfl⟩ := h
    exact before

theorem step_cleaning (inv : Orderly w) (swept : Swept act w w') (h : step calendar w act = some w')
    {token : Uuid} {attempt : Attempt} {id workspaceId : Uuid}
    (found : w'.inbox.attempts.get token = some attempt)
    (command : attempt.command = .cleanupWorkspace id workspaceId) :
    Cleaning w' token attempt id workspaceId := by
  cases act with
  | inbox act =>
    simp only [step, Option.bind_eq_bind, Option.ite_none_right_eq_some, Option.bind_eq_some_iff,
      Option.some.injEq] at h
    obtain ⟨-, after, moved, rfl⟩ := h
    exact inbox_cleaning inv swept moved rfl rfl found command
  | recoverCleanup jobId expected =>
    simp only [step, Option.some.injEq] at h
    subst h
    exact (inv.attempts token attempt id workspaceId found command).kept swept
      (inv.pipeline.attempts token attempt found) command rfl
  | pruneCleanup ingestId place cutoff =>
    simp only [step, Option.bind_eq_bind, Option.bind_eq_some_iff, Option.some.injEq] at h
    obtain ⟨db', -, rfl⟩ := h
    exact (inv.attempts token attempt id workspaceId found command).kept swept
      (inv.pipeline.attempts token attempt found) command rfl

theorem Orderly.step (inv : Orderly w) (h : Workspace.step calendar w act = some w') : Orderly w' := by
  have swept := step_swept inv h
  refine ⟨pipeline_step inv.pipeline h, ?_, ?_, ?_, ?_⟩
  · exact fun id row found => (swept.rows_drawn inv found).1
  · exact fun id row found => (swept.rows_drawn inv found).2
  · exact fun id workspaceId job found => swept.keys_drawn inv found
  · exact fun token attempt id workspaceId found command =>
      step_cleaning inv swept h found command

theorem orderly_initial : Orderly initial where
  pipeline := Inbox.pipeline_initial
  running := fun _ _ found => by cases found
  drawn := fun _ _ found => by cases found
  keys := fun _ _ _ found => by cases found
  attempts := fun _ _ _ _ found => by cases found

end Runs

end Sooqa.Workspace
