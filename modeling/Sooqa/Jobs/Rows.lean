import Sooqa.Jobs.System

/-!
What one step does to the rows of the queue: it edits and inserts rows without
touching a lease, it grants one, or it ends one.
-/
namespace Sooqa.Jobs
open Foundation Queue

section Rows

/-- A row that an insert brought in. -/
structure Inserted (low high : Uuid) (job : Job) : Prop where
  drawn : low ≤ job.id.serial
  serial : job.id.serial < high
  state : job.state = .queued ∨ job.state = .failed
  attempts : job.attemptCount = 0
  positive : 0 < job.maxAttempts
  plain : job.errorClass = none

/-- A rewrite that neither grants a lease nor ends one. -/
inductive Edit (old new : Job) : Prop where
  | kept (lease : new.lease = old.lease) (queued : new.state = .queued ↔ old.state = .queued)
      (succeeded : new.state = .succeeded ↔ old.state = .succeeded)
      (attempts : new.attemptCount = old.attemptCount) (diagnostic : new.errorClass = old.errorClass)
  | withdrawn (idle : old.state = .queued ∨ old.state = .failed)
      (ended : new.state = .failed ∨ new.state = .cancelled)
      (attempts : new.attemptCount = old.attemptCount)
  | restarted (idle : old.state = .queued ∨ old.state = .failed) (state : new.state = .queued)
      (attempts : new.attemptCount = if old.state = .failed then 0 else old.attemptCount)
      (plain : new.errorClass = none)

/-- The ways a lease ends for its row: success, retry, refund or failure. -/
inductive Ending (old new : Job) : Prop where
  | succeeded (state : new.state = .succeeded) (attempts : new.attemptCount = old.attemptCount)
  | retried (state : new.state = .queued) (attempts : new.attemptCount = old.attemptCount)
      (left : old.attemptCount < old.maxAttempts) (diagnostic : new.errorClass ≠ none)
  | refunded (state : new.state = .queued) (attempts : new.attemptCount = old.attemptCount - 1)
      (diagnostic : new.errorClass ≠ none)
  | failed (state : new.state = .failed) (attempts : new.attemptCount = old.attemptCount)

/-- The parts of a row that no rewrite changes. -/
structure SameRow (old new : Job) : Prop where
  id : new.id = old.id
  maxAttempts : new.maxAttempts = old.maxAttempts

/-- Rows are edited, inserted or removed; no lease comes or goes. -/
structure Quiet (low high : Uuid) (jobs jobs' : Jobs) : Prop where
  grown : low ≤ high
  rows : ∀ key new, jobs'.get key = some new →
    (∃ old, jobs.get key = some old ∧ SameRow old new ∧ Edit old new) ∨
      (jobs.get key = none ∧ Inserted low high new)

variable {low high : Uuid} {jobs jobs' : Jobs} {job new : Job}

theorem Edit.refl (job : Job) : Edit job job := .kept rfl .rfl .rfl rfl rfl

theorem Quiet.refl (grown : low ≤ high) (jobs : Jobs) : Quiet low high jobs jobs :=
  ⟨grown, fun _ new found => .inl ⟨new, found, ⟨rfl, rfl⟩, .refl new⟩⟩

theorem Quiet.put {old : Job} (grown : low ≤ high) (found : jobs.get old.id.key = some old)
    (same : SameRow old new) (edit : Edit old new) : Quiet low high jobs (jobs.put new) := by
  refine ⟨grown, fun key row present => .inl ?_⟩
  rw [Jobs.get_put] at present
  split at present
  · rename_i here
    cases present
    exact ⟨old, by rw [here, same.id]; exact found, same, edit⟩
  · exact ⟨row, present, ⟨rfl, rfl⟩, .refl row⟩

theorem Quiet.insert (grown : low ≤ high) (absent : jobs.get new.id.key = none)
    (inserted : Inserted low high new) : Quiet low high jobs (jobs.put new) := by
  refine ⟨grown, fun key row present => ?_⟩
  rw [Jobs.get_put] at present
  split at present
  · rename_i here
    cases present
    exact .inr ⟨by rw [here]; exact absent, inserted⟩
  · exact .inl ⟨row, present, ⟨rfl, rfl⟩, .refl row⟩

theorem Quiet.updateAll {f : Job → Job} (keeps : ∀ job, (f job).id = job.id)
    (edits : ∀ job, SameRow job (f job) ∧ Edit job (f job)) :
    Quiet low low jobs (jobs.updateAll f keeps) := by
  refine ⟨Nat.le_refl _, fun key row present => .inl ?_⟩
  rw [Jobs.get_updateAll, Option.map_eq_some_iff] at present
  obtain ⟨old, found, rfl⟩ := present
  exact ⟨old, found, edits old⟩

theorem Quiet.delete (key : JobKey) : Quiet low low jobs (jobs.delete key) := by
  refine ⟨Nat.le_refl _, fun other row present => .inl ?_⟩
  rw [Jobs.get_delete] at present
  split at present
  · cases present
  · exact ⟨row, present, ⟨rfl, rfl⟩, .refl row⟩

theorem Quiet.insertAbsent (grown : low ≤ high) (inserted : Inserted low high new) :
    Quiet low high jobs (jobs.insertAbsent new) := by
  unfold Jobs.insertAbsent
  cases present : jobs.get new.id.key with
  | some old => exact .refl grown jobs
  | none => exact .insert grown present inserted

theorem Quiet.enqueue {db : Db} {key : JobKey} {command : JobCommand}
    {owned : key.owns command = true} {runAt : Time} {maxAttempts : Nat}
    (positive : 0 < maxAttempts) :
    Quiet db.fresh (db.fresh + 1) db.jobs
      (db.enqueue key command owned runAt maxAttempts).jobs :=
  .insertAbsent (Nat.le_succ _)
    ⟨Nat.le_refl _, Nat.lt_succ_self _, .inl rfl, rfl, positive, rfl⟩

theorem settled_same {now : Time} {update : QueueUpdate} : SameRow job (job.settled now update) :=
  ⟨rfl, rfl⟩

/-- A settlement fails the job, or requeues it with a refund or with attempts left. -/
theorem settled_ending (now : Time) (job : Job) (settlement : JobSettlement) :
    Ending job (job.settled now (queueParameters job settlement)) := by
  have retry (runAt : Time) (errorClass errorMessage : String) (nonConsuming : Bool) :
      Ending job (job.settled now (queueParameters job
        (.retry runAt errorClass errorMessage nonConsuming))) := by
    cases nonConsuming with
    | true => exact .refunded rfl rfl (fun same => by cases same)
    | false =>
      by_cases last : job.maxAttempts ≤ job.attemptCount
      · exact .failed (by simp [Job.settled, queueParameters, last]) rfl
      · exact .retried (by simp [Job.settled, queueParameters, last]) rfl (by omega)
          (fun same => by cases same)
  cases settlement with
  | retry runAt errorClass errorMessage nonConsuming => exact retry _ _ _ _
  | defer runAt errorClass errorMessage nonConsuming => exact retry _ _ _ _
  | fail errorClass errorMessage => exact .failed rfl rfl

theorem expired_ending (now written : Time) (job : Job) :
    Ending job (job.settled written (expiredUpdate now job)) := by
  by_cases last : job.maxAttempts ≤ job.attemptCount
  · exact .failed (by simp [Job.settled, expiredUpdate, last]) rfl
  · exact .retried (by simp [Job.settled, expiredUpdate, last]) rfl (by omega)
      (fun same => by cases same)

end Rows

section Families

/-- A transaction ended the lease of one row, and added or edited others. -/
structure Ends (db db' : Db) (lease : JobLease) (job new : Job) : Prop where
  found : db.jobs.get lease.jobId.key = some job
  shows : job.lease = some lease
  same : SameRow job new
  ending : Ending job new
  rest : ∃ middle, Quiet db.fresh db'.fresh db.jobs middle ∧
    middle.get lease.jobId.key = some job ∧ db'.jobs = middle.put new

variable {db db' : Db} {lease : JobLease} {command : JobCommand} {settlement : JobSettlement}
  {done : Job}

/-- The common shape: the other tables and new rows first, then the queue row. -/
theorem ends_put {middle : Db} {job new : Job} (found : db.jobs.get lease.jobId.key = some job)
    (shows : job.lease = some lease) (same : SameRow job new) (ending : Ending job new)
    (quiet : Quiet db.fresh middle.fresh db.jobs middle.jobs)
    (still : middle.jobs.get lease.jobId.key = some job) :
    Ends db { middle with jobs := middle.jobs.put new } lease job new where
  found := found
  shows := shows
  same := same
  ending := ending
  rest := ⟨middle.jobs, quiet, still, rfl⟩

theorem ends_beside (middle : Db) {job new : Job} (found : db.jobs.get lease.jobId.key = some job)
    (shows : job.lease = some lease) (same : SameRow job new) (ending : Ending job new)
    (jobs : middle.jobs = db.jobs) (fresh : db.fresh ≤ middle.fresh) :
    Ends db { middle with jobs := middle.jobs.put new } lease job new := by
  refine ends_put found shows same ending ?_ (by rw [jobs]; exact found)
  rw [jobs]
  exact .refl fresh _

theorem ends_settled {middle : Db} {job : Job}
    (locked : lockRunningJob db.jobs db.now lease settlement.allowsExpiredLease = some job)
    (jobs : middle.jobs = db.jobs) (fresh : db.fresh ≤ middle.fresh) (now : Time) :
    Ends db { middle with
      jobs := updateLockedJob middle.jobs now job (queueParameters job settlement) } lease job
      (job.settled now (queueParameters job settlement)) := by
  obtain ⟨found, shows⟩ := lockRunningJob_shows locked
  exact ends_beside _ found shows settled_same (settled_ending now job settlement) jobs fresh

theorem settlePublishJob_ends
    (h : Publisher.settlePublishJob db lease command settlement = .ok (db', done)) :
    ∃ job new, Ends db db' lease job new := by
  unfold Publisher.settlePublishJob at h
  split at h
  case h_2 => cases h
  split at h
  case h_1 => cases h
  rename_i job locked
  split at h
  case h_2 => cases h
  rename_i postId revision validated
  simp only at h
  split at h
  case h_1 => cases h
  rename_i middle settled
  simp only [Except.ok.injEq, Prod.mk.injEq] at h
  obtain ⟨rfl, -⟩ := h
  have kept : middle.jobs = db.jobs ∧ db.fresh ≤ middle.fresh := by
    split at settled
    · obtain ⟨jobs, -, elsewhere, -⟩ := Publisher.settleTerminalPublicationPost_ok settled
      exact ⟨jobs, elsewhere.fresh⟩
    · cases settled
      exact ⟨rfl, Nat.le_refl _⟩
  exact ⟨job, _, ends_settled locked kept.1 kept.2 _⟩

theorem settleStorageJob_ends
    (h : Library.settleStorageJob db lease command settlement = .ok (db', done)) :
    ∃ job new, Ends db db' lease job new := by
  simp only [Library.settleStorageJob, bind_ok, expect_ok] at h
  obtain ⟨job, locked, valid, -, h⟩ := h
  split at h
  case h_2 => cases h
  rename_i mediaId generation
  simp only [pure_ok, Prod.mk.injEq] at h
  obtain ⟨rfl, -⟩ := h
  have kept : ∀ message, (Library.reconcileStorageTerminal db mediaId message).jobs = db.jobs ∧
      (Library.reconcileStorageTerminal db mediaId message).fresh = db.fresh := by
    intro message
    unfold Library.reconcileStorageTerminal
    split
    · exact ⟨rfl, rfl⟩
    · split <;> exact ⟨rfl, rfl⟩
  refine ⟨job, _, ends_settled locked ?_ ?_ _⟩
  · split
    · exact (kept _).1
    · rfl
  · split
    · exact Nat.le_of_eq (kept _).2.symm
    · exact Nat.le_refl _

theorem releaseCaption_queue (db : Db) (mediaId : Uuid) (generation : Nat) (terminal : Bool) (error : String) :
    (Library.releaseCaption db mediaId generation terminal error).jobs = db.jobs ∧
      (Library.releaseCaption db mediaId generation terminal error).fresh = db.fresh := by
  unfold Library.releaseCaption
  split <;> exact ⟨rfl, rfl⟩

theorem settleCaptionJob_ends
    (h : Library.settleCaptionJob db lease command settlement = .ok (db', done)) :
    ∃ job new, Ends db db' lease job new := by
  simp only [Library.settleCaptionJob, bind_ok, expect_ok] at h
  obtain ⟨job, locked, valid, -, h⟩ := h
  split at h
  case h_2 => cases h
  rename_i mediaId generation
  simp only [pure_ok, Prod.mk.injEq] at h
  obtain ⟨rfl, -⟩ := h
  obtain ⟨jobs, fresh⟩ := releaseCaption_queue db mediaId generation
    (queueParameters job settlement).terminal
    (Library.truncateSyncError (queueParameters job settlement).errorMessage 512)
  exact ⟨job, _, ends_settled locked jobs (Nat.le_of_eq fresh.symm) _⟩

/-- The row of a stage job, after the cleanup that an abandoned ingest asks for. -/
theorem settleStage_ends {id : Uuid} {job : Job} {update : QueueUpdate}
    (found : db.jobs.get lease.jobId.key = some job) (shows : job.lease = some lease)
    (ending : Ending job (job.settled db.now update)) :
    Ends db (Inbox.settleStage db job id update) lease job (job.settled db.now update) := by
  have quiet : Quiet db.fresh (Inbox.abandonIngest db id).fresh db.jobs
      (Inbox.abandonIngest db id).jobs := by
    unfold Inbox.abandonIngest
    split
    · exact .refl (Nat.le_refl _) _
    · exact .enqueue (by decide)
  have still : (Inbox.abandonIngest db id).jobs.get lease.jobId.key = some job := by
    unfold Inbox.abandonIngest
    split
    · exact found
    · simp only [enqueueWorkspaceCleanup, Db.enqueue_jobs_get, Inbox.setIngest, found]
      split <;> rfl
  unfold Inbox.settleStage
  cases update.terminal with
  | true => exact ends_put found shows settled_same ending quiet still
  | false => exact ends_beside _ found shows settled_same ending rfl (Nat.le_refl _)

theorem settleStageJob_ends
    (h : Inbox.settleJob db lease command settlement = .ok (db', done)) :
    ∃ job new, Ends db db' lease job new := by
  simp only [Inbox.settleJob, bind_ok, expect_ok, pure_ok, Prod.mk.injEq] at h
  obtain ⟨-, -, job, locked, valid, -, id, -, rfl, -⟩ := h
  obtain ⟨found, shows⟩ := lockRunningJob_shows locked
  exact ⟨job, _, settleStage_ends found shows (settled_ending db.now job settlement)⟩

theorem settleQueue_ends {jobs : Jobs}
    (h : settleQueueInTransaction db.jobs db.now lease command settlement = .ok (jobs, done)) :
    ∃ job new, Ends db { db with jobs := jobs } lease job new := by
  obtain ⟨job, found, shows, rfl⟩ := settleQueueInTransaction_ok h
  exact ⟨job, _, ends_beside _ found shows settled_same (settled_ending db.now job settlement) rfl
    (Nat.le_refl _)⟩

theorem settleFamily_ends
    (h : settleFamily db lease command settlement = .ok (db', done)) :
    ∃ job new, Ends db db' lease job new := by
  unfold settleFamily at h
  split at h
  case h_1 => exact settlePublishJob_ends h
  case h_2 => exact settleStorageJob_ends h
  case h_3 => exact settleCaptionJob_ends h
  case h_10 =>
    simp only [Publisher.settleMaterializeJob, bind_ok, pure_ok, Prod.mk.injEq] at h
    obtain ⟨⟨jobs, job⟩, settled, rfl, -⟩ := h
    exact settleQueue_ends settled
  case h_11 =>
    simp only [settleCleanupJob, bind_ok, pure_ok, Prod.mk.injEq] at h
    obtain ⟨⟨jobs, job⟩, settled, rfl, -⟩ := h
    exact settleQueue_ends settled
  all_goals exact settleStageJob_ends h

end Families

section Recovery
variable {db db' : Db} {id : JobId} {job : Job} {expected : JobCommand} {answer : Bool}

/-- A recovery left everything, or ended the lease of the row it names. -/
def Recovers (db db' : Db) (id : JobId) : Prop :=
  db' = db ∨ ∃ lease job new, lease.jobId = id ∧ Ends db db' lease job new

theorem lockExpiredJob_shows (locked : lockExpiredJob db.jobs db.now id = some job) :
    ∃ lease : JobLease, lease.jobId = id ∧ db.jobs.get lease.jobId.key = some job ∧
      job.lease = some lease := by
  obtain ⟨found, same, columns, running, -⟩ := lockExpiredJob_eq_some.mp locked
  exact ⟨⟨job.id, job.attemptCount, columns.owner, columns.token⟩, same, by rw [same]; exact found,
    Job.lease_eq_some.mpr ⟨columns, running, rfl⟩⟩

theorem recovers_beside (middle : Db) {new : Job}
    (locked : lockExpiredJob db.jobs db.now id = some job) (same : SameRow job new)
    (ending : Ending job new) (jobs : middle.jobs = db.jobs) (fresh : db.fresh ≤ middle.fresh) :
    Recovers db { middle with jobs := middle.jobs.put new } id := by
  obtain ⟨lease, named, found, shows⟩ := lockExpiredJob_shows locked
  exact .inr ⟨lease, job, new, named, ends_beside _ found shows same ending jobs fresh⟩

theorem recoverPublishJob_recovers
    (h : Publisher.recoverPublishJob db id expected = .ok (db', answer)) : Recovers db db' id := by
  unfold Publisher.recoverPublishJob at h
  split at h
  case h_2 => cases h
  split at h
  case h_1 =>
    cases h
    exact .inl rfl
  rename_i job locked
  split at h
  case h_2 => cases h
  rename_i postId revision validated
  simp only at h
  split at h
  case h_1 => cases h
  rename_i middle settled
  simp only [Except.ok.injEq, Prod.mk.injEq] at h
  obtain ⟨rfl, -⟩ := h
  have kept : middle.jobs = db.jobs ∧ db.fresh ≤ middle.fresh := by
    split at settled
    · obtain ⟨jobs, -, elsewhere, -⟩ := Publisher.settleTerminalPublicationPost_ok settled
      exact ⟨jobs, elsewhere.fresh⟩
    · cases settled
      exact ⟨rfl, Nat.le_refl _⟩
  exact recovers_beside _ locked settled_same (expired_ending db.now _ job) kept.1 kept.2

/-- An expired upload succeeds, is refunded, or fails, by the state of its media. -/
theorem recoverStorageJob_recovers
    (h : Library.recoverStorageJob db id expected = .ok (db', answer)) : Recovers db db' id := by
  unfold Library.recoverStorageJob at h
  split at h
  case h_1 =>
    cases h
    exact .inl rfl
  rename_i job locked
  simp only [bind_ok] at h
  obtain ⟨command, -, h⟩ := h
  split at h
  case h_2 => cases h
  rename_i mediaId generation
  split at h
  · simp only [pure_ok, Prod.mk.injEq] at h
    obtain ⟨rfl, -⟩ := h
    exact recovers_beside db locked settled_same (.failed rfl rfl) rfl (Nat.le_refl _)
  rename_i row present
  split at h
  · simp only [pure_ok, Prod.mk.injEq] at h
    exact .inl h.1.symm
  simp only [pure_ok, Prod.mk.injEq] at h
  obtain ⟨rfl, -⟩ := h
  unfold Library.recoverUpload
  split
  · exact recovers_beside _ locked ⟨rfl, rfl⟩ (.succeeded rfl rfl) rfl (Nat.le_refl _)
  · exact recovers_beside db locked settled_same (.refunded rfl rfl nofun) rfl
      (Nat.le_refl _)
  · exact recovers_beside _ locked settled_same (.failed rfl rfl) rfl (Nat.le_refl _)

theorem recoverCaptionJob_recovers
    (h : Library.recoverCaptionJob db id expected = .ok (db', answer)) : Recovers db db' id := by
  unfold Library.recoverCaptionJob at h
  split at h
  case h_1 =>
    cases h
    exact .inl rfl
  rename_i job locked
  simp only [bind_ok] at h
  obtain ⟨command, -, h⟩ := h
  split at h
  case h_2 => cases h
  rename_i mediaId generation
  simp only [pure_ok, Prod.mk.injEq] at h
  obtain ⟨rfl, -⟩ := h
  obtain ⟨jobs, fresh⟩ := releaseCaption_queue db mediaId generation
    (expiredUpdate db.now job).terminal "caption sync job lease expired after the final attempt"
  exact recovers_beside _ locked settled_same (expired_ending db.now _ job) jobs
    (Nat.le_of_eq fresh.symm)

theorem recoverStageJob_recovers
    (h : Inbox.recoverJob db id expected = .ok (db', answer)) : Recovers db db' id := by
  simp only [Inbox.recoverJob, bind_ok] at h
  obtain ⟨-, -, h⟩ := h
  split at h
  · simp only [pure_ok, Prod.mk.injEq] at h
    exact .inl h.1.symm
  · rename_i job locked
    simp only [bind_ok, expect_ok, pure_ok, Prod.mk.injEq] at h
    obtain ⟨command, valid, ingestId, ingest, rfl, -⟩ := h
    obtain ⟨lease, named, found, shows⟩ := lockExpiredJob_shows locked
    exact .inr ⟨lease, job, _, named, settleStage_ends found shows (expired_ending db.now _ job)⟩

theorem recoverQueue_recovers {jobs : Jobs}
    (h : recoverQueueOnlyInTransaction db.jobs db.now id expected = .ok (some jobs)) :
    Recovers db { db with jobs := jobs } id := by
  obtain ⟨job, locked, -, rfl⟩ := recoverQueueOnlyInTransaction_ok h
  exact recovers_beside db locked settled_same (expired_ending db.now _ job) rfl
    (Nat.le_refl _)

theorem recoverMaterializeJob_recovers
    (h : Publisher.recoverMaterializeJob db id expected = .ok (db', answer)) :
    Recovers db db' id := by
  unfold Publisher.recoverMaterializeJob at h
  split at h
  case h_2 => cases h
  simp only [bind_ok] at h
  obtain ⟨recovered, recovery, h⟩ := h
  split at h
  · simp only [pure_ok, Prod.mk.injEq] at h
    obtain ⟨rfl, -⟩ := h
    exact recoverQueue_recovers recovery
  · simp only [pure_ok, Prod.mk.injEq] at h
    exact .inl h.1.symm

theorem recoverCleanupJob_recovers (db : Db) (id : JobId) (expected : JobCommand) :
    Recovers db (Workspace.recoverCleanupJob db id expected) id := by
  unfold Workspace.recoverCleanupJob
  split
  case h_2 => exact .inl rfl
  split
  · rename_i jobs recovery
    exact recoverQueue_recovers recovery
  · exact .inl rfl

theorem recoverOne_recovers (db : Db) (id : JobId) (expected : JobCommand) :
    Recovers db (recoverOne db id expected) id := by
  have of_committed {result : Except JobRepositoryError (Db × Bool)}
      (h : ∀ db' answer, result = .ok (db', answer) → Recovers db db' id) :
      Recovers db (committed db result) id := by
    match result with
    | .ok (db', answer) => exact h db' answer rfl
    | .error _ => exact .inl rfl
  unfold recoverOne
  split
  case h_1 => exact of_committed (fun _ _ => recoverPublishJob_recovers)
  case h_2 => exact of_committed (fun _ _ => recoverStorageJob_recovers)
  case h_3 => exact of_committed (fun _ _ => recoverCaptionJob_recovers)
  case h_10 => exact of_committed (fun _ _ => recoverMaterializeJob_recovers)
  case h_11 => exact recoverCleanupJob_recovers _ _ _
  all_goals exact of_committed (fun _ _ => recoverStageJob_recovers)

theorem recoverQueueOnlyUntyped_recovers (db : Db) (id : JobId) :
    Recovers db (recoverQueueOnlyUntyped db id) id := by
  unfold recoverQueueOnlyUntyped
  split
  · exact .inl rfl
  · rename_i job locked
    exact recovers_beside db locked settled_same (expired_ending db.now _ job) rfl
      (Nat.le_refl _)

end Recovery

end Sooqa.Jobs
