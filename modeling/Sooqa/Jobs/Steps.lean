import Sooqa.Jobs.Rows

/-!
What one step does to the queue and its log. Either no lease comes or goes, or
a claim grants one under a fresh token, or the lease of one row ends.
-/
namespace Sooqa.Jobs
open Foundation Queue

section Writes
variable {db db' : Db}

/-- A write of the queue that leaves the leases alone. -/
def QuietWrite (db db' : Db) : Prop := Quiet db.fresh db'.fresh db.jobs db'.jobs

theorem QuietWrite.refl (db : Db) : QuietWrite db db := Quiet.refl (Nat.le_refl _) db.jobs

theorem enqueue_quiet (db : Db) (newJob : NewJob) :
    QuietWrite db (committed db (Jobs.enqueue db newJob)) := by
  unfold Jobs.enqueue
  split
  · exact .refl db
  rename_i positive
  split
  · exact .refl db
  rename_i absent
  have some_attempts : 0 < newJob.maxAttempts.toNat := by omega
  rw [Bool.not_eq_true, Option.isSome_eq_false_iff, Option.isNone_iff_eq_none] at absent
  exact Quiet.insert (Nat.le_succ _) absent
    ⟨Nat.le_refl _, Nat.lt_succ_self _, .inl rfl, rfl, some_attempts, rfl⟩

variable {postId : Uuid} {runAt : Time} {revision : Nat}

theorem insertPublishJobRow_quiet {failed : Bool}
    (h : Publisher.insertPublishJobRow db postId runAt revision failed = .ok db') :
    QuietWrite db db' := by
  unfold Publisher.insertPublishJobRow at h
  split at h
  · cases h
  rename_i absent
  rw [Bool.not_eq_true, Option.isSome_eq_false_iff, Option.isNone_iff_eq_none] at absent
  simp only [Except.ok.injEq] at h
  subst h
  cases failed with
  | false =>
    exact Quiet.insert (Nat.le_succ _) absent
      ⟨Nat.le_refl _, Nat.lt_succ_self _, .inl rfl, rfl, Nat.succ_pos _, rfl⟩
  | true =>
    exact Quiet.insert (Nat.le_succ _) absent
      ⟨Nat.le_refl _, Nat.lt_succ_self _, .inr rfl, rfl, Nat.succ_pos _, rfl⟩

theorem updatePublishJob_quiet
    (h : Publisher.updatePublishJob db postId runAt revision = .ok db') : QuietWrite db db' := by
  unfold Publisher.updatePublishJob at h
  split at h
  case h_1 => exact insertPublishJobRow_quiet h
  rename_i job found
  have requeued (idle : job.state = .queued ∨ job.state = .failed) :
      QuietWrite db { db with
        jobs := db.jobs.put (Publisher.requeuedPublishJob db.now job runAt revision) } := by
    have present : db.jobs.get job.id.key = some job := by rw [db.jobs.get_key found]; exact found
    exact Quiet.put (Nat.le_refl _) present ⟨rfl, rfl⟩ (.restarted idle rfl rfl rfl)
  split at h
  · cases h
  · rename_i state
    simp only [Except.ok.injEq] at h
    subst h
    exact requeued (.inl state)
  · rename_i state
    simp only [Except.ok.injEq] at h
    subst h
    exact requeued (.inr state)
  · cases h

theorem insertPublishJob_quiet
    (h : Publisher.insertPublishJob db postId runAt revision = .ok db') : QuietWrite db db' := by
  unfold Publisher.insertPublishJob at h
  split at h
  · split at h
    · cases h
    · exact updatePublishJob_quiet h
  · exact insertPublishJobRow_quiet h

/-- A row whose payload follows the revision of its post. -/
theorem editedPublishJob_edit (now : Time) (job : Job) (revision : Nat) :
    SameRow job (Publisher.editedPublishJob now job revision) ∧
      Edit job (Publisher.editedPublishJob now job revision) :=
  ⟨⟨rfl, rfl⟩, .kept rfl .rfl .rfl rfl rfl⟩

theorem updateFailedPublishJob_quiet
    (h : Publisher.updateFailedPublishJob db postId runAt revision = .ok db') :
    QuietWrite db db' := by
  unfold Publisher.updateFailedPublishJob at h
  split at h
  case h_1 => exact insertPublishJobRow_quiet h
  rename_i job found
  split at h
  case h_2 => cases h
  simp only [Except.ok.injEq] at h
  subst h
  have present : db.jobs.get job.id.key = some job := by rw [db.jobs.get_key found]; exact found
  obtain ⟨same, edit⟩ := editedPublishJob_edit db.now job revision
  exact Quiet.put (Nat.le_refl _) present same edit

theorem cancelPublishJob_quiet
    (h : Publisher.cancelPublishJob db postId = .ok db') : QuietWrite db db' := by
  unfold Publisher.cancelPublishJob at h
  split at h
  · cases h
    exact .refl _
  rename_i job found
  have cancelled (idle : job.state = .queued ∨ job.state = .failed) :
      QuietWrite db { db with jobs := db.jobs.put (Publisher.cancelledPublishJob db.now job) } := by
    have present : db.jobs.get job.id.key = some job := by rw [db.jobs.get_key found]; exact found
    exact Quiet.put (Nat.le_refl _) present ⟨rfl, rfl⟩ (.withdrawn idle (.inr rfl) rfl)
  split at h
  · cases h
  · rename_i state
    simp only [Except.ok.injEq] at h
    subst h
    exact cancelled (.inl state)
  · rename_i state
    simp only [Except.ok.injEq] at h
    subst h
    exact cancelled (.inr state)
  · cases h

theorem followRevision_quiet (db : Db) (attempt : JobLease) :
    QuietWrite db (followRevision db attempt revision) := by
  unfold followRevision
  split
  · exact .refl db
  rename_i job locked
  obtain ⟨found, -, -⟩ := lockCurrentJobAttempt_eq_some.mp locked
  have present : db.jobs.get job.id.key = some job := by rw [db.jobs.get_key found]; exact found
  obtain ⟨same, edit⟩ := editedPublishJob_edit db.now job revision
  exact Quiet.put (Nat.le_refl _) present same edit

theorem unknownUploadJob_edit (now : Time) (mediaId : Uuid) (job : Job) :
    SameRow job (Library.unknownUploadJob now mediaId job) ∧
      Edit job (Library.unknownUploadJob now mediaId job) := by
  unfold Library.unknownUploadJob
  split
  · split
    · rename_i affected
      exact ⟨⟨rfl, rfl⟩, .withdrawn (.inl affected.2) (.inl rfl) rfl⟩
    · exact ⟨⟨rfl, rfl⟩, .refl job⟩
  · exact ⟨⟨rfl, rfl⟩, .refl job⟩

theorem settleQueuedStorageUploadJobs_quiet (db : Db) (mediaId : Uuid) :
    QuietWrite db (Library.settleQueuedStorageUploadJobs db mediaId) :=
  Quiet.updateAll (Library.unknownUploadJob_id db.now mediaId) (unknownUploadJob_edit db.now mediaId)

/-- A heartbeat moves the deadline of the lease a row shows. -/
theorem heartbeatLease_quiet {lease : JobLease} {duration : Time} {jobs : Jobs} {renewed : Job}
    (h : heartbeatLease db.jobs db.now lease duration = .ok (jobs, renewed)) :
    QuietWrite db { db with jobs := jobs } := by
  obtain ⟨job, found, id, held, rfl, rfl⟩ := heartbeatLease_ok h
  obtain ⟨columns, running, owner, token, -⟩ := heldBy_eq_true.mp held
  have present : db.jobs.get job.id.key = some job := by rw [id]; exact found
  refine Quiet.put (Nat.le_refl _) present ⟨rfl, rfl⟩ (.kept ?_ ?_ ?_ rfl rfl)
  · simp [Job.lease, running, owner, token]
  · simp [running]
  · simp [running]

theorem prune_quiet (db : Db) (key : JobKey) : QuietWrite db (prune db key) := by
  unfold prune
  split
  · exact .refl db
  · split
    · exact .refl db
    · exact Quiet.delete key

end Writes

section Step
variable {w w' : World} {act : Action}

/-- A claim grants the candidate under the next token. -/
structure Granted (w w' : World) (lease : JobLease) (old new : Job) : Prop where
  found : w.db.jobs.get lease.jobId.key = some old
  state : old.state = .queued
  left : old.attemptCount < old.maxAttempts
  same : SameRow old new
  shows : new.lease = some lease
  drawn : lease.leaseToken = w.db.fresh
  number : lease.attemptNumber = old.attemptCount + 1
  attempts : new.attemptCount = old.attemptCount + 1
  jobs : w'.db.jobs = w.db.jobs.put new
  fresh : w'.db.fresh = w.db.fresh + 1
  log : w'.log = .granted lease :: w.log

/-- The lease a row showed was ended, by recovery or by somebody presenting
    its token. The log names the lease that was presented. -/
structure Ended (w w' : World) (presented lease : JobLease) (cause : Cause) (old new : Job) :
    Prop where
  ends : Ends w.db w'.db lease old new
  known : presented = lease ∨ w.granted presented
  named : presented.jobId = lease.jobId
  token : presented.leaseToken = lease.leaseToken
  log : w'.log = outcome presented cause new ++ w.log

inductive Stepped (w w' : World) : Prop where
  | quiet (write : QuietWrite w.db w'.db) (log : w'.log = w.log)
  | granted (lease : JobLease) (old new : Job) (grant : Granted w w' lease old new)
  | ended (presented lease : JobLease) (cause : Cause) (old new : Job)
      (ended : Ended w w' presented lease cause old new)

theorem stepped_write {db : Db} (write : QuietWrite w.db db) : Stepped w (w.write db) :=
  .quiet write rfl

theorem stepped_publishing {result : Except Publisher.Error Db}
    (quiet : ∀ db, result = .ok db → QuietWrite w.db db) : Stepped w (w.publishing result) := by
  match result with
  | .ok db => exact stepped_write (quiet db rfl)
  | .error _ => exact .quiet (.refl _) rfl

theorem claim_stepped (w : World) (worker : String) (duration : Time)
    (capabilities : List JobType) (candidate : JobKey) :
    Stepped w (w.claim worker duration capabilities candidate) := by
  unfold World.claim
  split
  case h_2 => exact .quiet (.refl _) rfl
  rename_i jobs job claimed
  obtain ⟨old, found, state, left, -, row, table⟩ := claimNext_ok claimed
  have key : old.id.key = candidate := w.db.jobs.get_key found
  split
  case h_2 shows =>
    rw [row] at shows
    cases shows
  rename_i lease shows
  have parts : lease = ⟨old.id, old.attemptCount + 1, worker, w.db.fresh⟩ := by
    rw [row] at shows
    exact (Option.some.inj shows).symm
  refine .granted lease old job ⟨?_, state, left, ?_, shows, ?_, ?_, ?_, table, rfl, rfl⟩
  · rw [parts, key]
    exact found
  · rw [row]
    exact ⟨rfl, rfl⟩
  · rw [parts]
  · rw [parts]
  · rw [row]

/-- The row a lease names, after that lease was ended. -/
theorem ends_find {db db' : Db} {lease : JobLease} {old new : Job}
    (ends : Ends db db' lease old new) :
    (db.jobs.find lease.jobId).bind Job.lease = some lease ∧
      db'.jobs.find lease.jobId = some new := by
  obtain ⟨columns, -, parts⟩ := Job.lease_eq_some.mp ends.shows
  have id : old.id = lease.jobId := by rw [parts]
  obtain ⟨middle, -, -, jobs⟩ := ends.rest
  have before : db.jobs.find lease.jobId = some old :=
    (Jobs.find_eq_some _).mpr ⟨ends.found, id⟩
  have after : db'.jobs.get lease.jobId.key = some new := by
    rw [jobs, ← id, ← ends.same.id]
    exact Jobs.get_put_self _ _
  refine ⟨?_, (Jobs.find_eq_some _).mpr ⟨after, ends.same.id.trans id⟩⟩
  rw [before]
  exact ends.shows

theorem ending_of_ends {db db' : Db} {presented lease : JobLease} {old new : Job}
    (ends : Ends db db' lease old new) (named : presented.jobId = lease.jobId) (cause : Cause) :
    ending db.jobs db'.jobs presented cause = outcome presented cause new := by
  obtain ⟨before, after⟩ := ends_find ends
  unfold ending
  rw [named, before, after]

/-- A row that still shows its lease has no outcome. -/
theorem ending_same (jobs : Jobs) (lease : JobLease) (cause : Cause) :
    ending jobs jobs lease cause = [] := by
  unfold ending
  split
  · rename_i shown job shows found
    rw [found] at shows
    obtain ⟨columns, running, -⟩ := Job.lease_eq_some.mp shows
    simp only [outcome, running]
  · rfl

theorem stepped_presenting {ε α : Type} {presented : JobLease} {result : Except ε (Db × α)}
    (granted : w.granted presented)
    (ends : ∀ db answer, result = .ok (db, answer) →
      db = w.db ∨
      ∃ lease old new, presented.jobId = lease.jobId ∧ presented.leaseToken = lease.leaseToken ∧
        Ends w.db db lease old new) : Stepped w (w.presenting presented result) := by
  match result with
  | .error _ => exact .quiet (.refl _) rfl
  | .ok (db, answer) =>
    rcases ends db answer rfl with rfl | ⟨lease, old, new, named, token, ended⟩
    · refine .quiet (.refl _) ?_
      simp only [World.presenting, ending_same, List.nil_append]
    · refine .ended presented lease .operation old new ⟨ended, .inr granted, named, token, ?_⟩
      simp only [World.presenting, ending_of_ends ended named]

theorem stepped_recovering {id : JobId} {db : Db} (recovers : Recovers w.db db id) :
    Stepped w (w.recovering id db) := by
  rcases recovers with rfl | ⟨lease, old, new, rfl, ends⟩
  · unfold World.recovering
    split
    · refine .quiet (.refl _) ?_
      simp only [ending_same, List.nil_append]
    · exact .quiet (.refl _) rfl
  · unfold World.recovering
    rw [(ends_find ends).1]
    exact .ended lease lease .recovery old new ⟨ends, .inl rfl, rfl, rfl, by
      simp only [ending_of_ends ends rfl]⟩

/-- What an acknowledged completion did: nothing to a row that had succeeded at
    the same attempt number, or it ended the row under its token. -/
theorem complete_ends {db : Db} {lease : JobLease} {done : Job}
    (h : complete w.db lease = .ok (db, done)) :
    (db = w.db ∧ w.db.jobs.find lease.jobId = some done ∧ done.state = .succeeded ∧
      done.attemptCount = lease.attemptNumber) ∨
    ∃ shown old, lease.jobId = shown.jobId ∧ lease.leaseToken = shown.leaseToken ∧
      Ends w.db db shown old done ∧ done.state = .succeeded := by
  simp only [complete, bind_ok, pure_ok, Prod.mk.injEq] at h
  obtain ⟨⟨jobs, answer⟩, completed, rfl, rfl⟩ := h
  unfold completeLease at completed
  split at completed
  · rename_i job found
    rw [Option.filter_eq_some_iff, Jobs.find_eq_some] at found
    obtain ⟨⟨found, id⟩, held⟩ := found
    obtain ⟨columns, running, owner, token, -⟩ := heldBy_eq_true.mp held
    cases completed
    refine .inr ⟨⟨job.id, job.attemptCount, columns.owner, columns.token⟩, job, id.symm,
      token.symm, ends_beside w.db ?_ ?_ ⟨rfl, rfl⟩ (.succeeded rfl rfl) rfl
      (Nat.le_refl _), rfl⟩
    · rw [id]
      exact found
    · exact Job.lease_eq_some.mpr ⟨columns, running, rfl⟩
  · split at completed
    · rename_i job found
      rw [Option.filter_eq_some_iff, Bool.and_eq_true, beq_iff_eq, beq_iff_eq] at found
      cases completed
      exact .inl ⟨rfl, found.1, found.2.1, found.2.2⟩
    · cases completed

theorem succeed_ends {db : Db} {attempt : JobLease} {answer : Unit}
    (h : succeed w.db attempt = .ok (db, answer)) : ∃ old new, Ends w.db db attempt old new := by
  simp only [succeed, Inbox.succeedCurrentJobAttempt, bind_ok, expect_ok, pure_ok,
    Prod.mk.injEq] at h
  obtain ⟨-, ⟨job, locked, rfl⟩, rfl, -⟩ := h
  obtain ⟨found, shows, -⟩ := lockCurrentJobAttempt_eq_some.mp locked
  exact ⟨job, _, ends_beside w.db found shows ⟨rfl, rfl⟩ (.succeeded rfl rfl) rfl
    (Nat.le_refl _)⟩

theorem settle_ends {db : Db} {command : JobCommand} {lease : JobLease}
    {settlement : JobSettlement} {done : Job}
    (h : settle w.db command lease settlement = .ok (db, done)) :
    (db = w.db ∧ settlement.allowsExpiredLease = true ∧
      loadAlreadyRequeued w.db.jobs lease settlement command = .ok done) ∨
      ∃ old new, Ends w.db db lease old new := by
  unfold settle at h
  split at h
  · split at h
    · rename_i nonConsuming
      simp only [bind_ok, pure_ok, Prod.mk.injEq] at h
      obtain ⟨job, requeued, rfl, rfl⟩ := h
      exact .inl ⟨rfl, nonConsuming, requeued⟩
    · cases h
  · exact .inr (settleFamily_ends h)

theorem settleLease_ends {db : Db} {job : Job} {lease : JobLease} {settlement : JobSettlement}
    {done : Job} (h : settleLease w.db job lease settlement = .ok (db, done)) :
    (db = w.db ∧ settlement.allowsExpiredLease = true ∧
      loadAlreadyRequeued w.db.jobs lease settlement job.command = .ok done) ∨
      ∃ old new, Ends w.db db lease old new := by
  unfold settleLease at h
  split at h
  · exact settle_ends h
  · cases h

theorem step_stepped (h : w.step act = some w') : Stepped w w' := by
  cases act with
  | tick elapsed =>
    cases h
    exact stepped_write (.refl _)
  | domain channels media posts ingests =>
    cases h
    exact stepped_write (.refl _)
  | enqueue newJob =>
    cases h
    exact stepped_write (enqueue_quiet w.db newJob)
  | insert key command owned runAt maxAttempts =>
    simp only [World.step, Option.ite_none_right_eq_some] at h
    obtain ⟨positive, stepped⟩ := h
    cases stepped
    exact stepped_write (Quiet.enqueue positive)
  | insertPublish postId runAt revision =>
    cases h
    exact stepped_publishing (fun _ => insertPublishJob_quiet)
  | updatePublish postId runAt revision =>
    cases h
    exact stepped_publishing (fun _ => updatePublishJob_quiet)
  | updateFailedPublish postId runAt revision =>
    cases h
    exact stepped_publishing (fun _ => updateFailedPublishJob_quiet)
  | cancelPublish postId =>
    cases h
    exact stepped_publishing (fun _ => cancelPublishJob_quiet)
  | followRevision attempt revision =>
    cases h
    exact stepped_write (followRevision_quiet w.db attempt)
  | unknownUploads mediaId =>
    cases h
    exact stepped_write (settleQueuedStorageUploadJobs_quiet w.db mediaId)
  | claim worker duration capabilities candidate =>
    cases h
    exact claim_stepped w worker duration capabilities candidate
  | heartbeat lease duration =>
    simp only [World.step, Option.ite_none_right_eq_some] at h
    obtain ⟨-, stepped⟩ := h
    split at stepped
    · rename_i jobs renewed beat
      cases stepped
      exact stepped_write (heartbeatLease_quiet beat)
    · cases stepped
      exact .quiet (.refl _) rfl
  | complete lease =>
    simp only [World.step, Option.ite_none_right_eq_some] at h
    obtain ⟨granted, stepped⟩ := h
    cases stepped
    refine stepped_presenting granted (fun db answer done => ?_)
    rcases complete_ends done with ⟨same, -⟩ | ⟨shown, old, named, token, ends, -⟩
    · exact .inl same
    · exact .inr ⟨shown, old, answer, named, token, ends⟩
  | succeed attempt =>
    simp only [World.step, Option.ite_none_right_eq_some] at h
    obtain ⟨granted, stepped⟩ := h
    cases stepped
    refine stepped_presenting granted (fun db answer done => ?_)
    obtain ⟨old, new, ends⟩ := succeed_ends done
    exact .inr ⟨attempt, old, new, rfl, rfl, ends⟩
  | settle job lease settlement =>
    simp only [World.step, Option.ite_none_right_eq_some] at h
    obtain ⟨granted, stepped⟩ := h
    cases stepped
    refine stepped_presenting granted (fun db answer done => ?_)
    rcases settleLease_ends done with ⟨same, -⟩ | ⟨old, new, ends⟩
    · exact .inl same
    · exact .inr ⟨lease, old, new, rfl, rfl, ends⟩
  | recover id expected =>
    cases h
    exact stepped_recovering (recoverOne_recovers w.db id expected)
  | recoverUntyped id =>
    cases h
    exact stepped_recovering (recoverQueueOnlyUntyped_recovers w.db id)
  | prune key =>
    cases h
    exact stepped_write (prune_quiet w.db key)

end Step

end Sooqa.Jobs
