import Sooqa.Queue.Lease

/-!
Leases under change. A table is fenced by an older one when every lease it
shows was shown there, by the same row, and none that had run out is back in
time. Every write but a claim is fenced; a claim shows one fresh token.
-/
namespace Sooqa.Queue
open Foundation

/-- The row shows a lease that has run out. -/
def Job.lapsed (job : Job) (now : Time) : Prop :=
  ∃ columns, job.state = .running columns ∧ columns.expiresAt ≤ now

theorem Job.lapsed_mono {job : Job} {now later : Time} (h : job.lapsed now) (le : now ≤ later) :
    job.lapsed later := by
  obtain ⟨columns, running, ended⟩ := h
  exact ⟨columns, running, le_trans ended le⟩

theorem Job.lease_eq_some {job : Job} {lease : JobLease} :
    job.lease = some lease ↔ ∃ columns, job.state = .running columns ∧
      lease = ⟨job.id, job.attemptCount, columns.owner, columns.token⟩ := by
  unfold Job.lease
  split
  · rename_i columns running
    simp [running, eq_comm]
  · rename_i other
    simp only [reduceCtorEq, false_iff]
    rintro ⟨columns, running, -⟩
    exact other columns running

theorem Job.lease_eq_none {job : Job} (idle : ∀ columns, job.state ≠ .running columns) :
    job.lease = none := by
  unfold Job.lease
  split
  · rename_i columns running
    exact absurd running (idle columns)
  · rfl

/-- The current attempt of a lease is the row that shows it, in time. -/
theorem lockCurrentJobAttempt_eq_some {jobs : Jobs} {now : Time} {lease : JobLease} {job : Job} :
    lockCurrentJobAttempt jobs now lease = some job ↔
      jobs.get lease.jobId.key = some job ∧ job.lease = some lease ∧ ¬ job.lapsed now := by
  simp only [lockCurrentJobAttempt, lockRunningJob_eq_some, heldBy_eq_true, Job.lease_eq_some]
  constructor
  · rintro ⟨found, id, attempt, columns, running, owner, token, inTime⟩
    have unexpired : now < columns.expiresAt := by simpa using inTime
    refine ⟨found, ⟨columns, running, ?_⟩, ?_⟩
    · rw [id, attempt, owner, token]
    · rintro ⟨others, showing, ended⟩
      rw [running] at showing
      cases showing
      exact absurd ended (Nat.not_le.mpr unexpired)
  · rintro ⟨found, ⟨columns, running, same⟩, inTime⟩
    have unexpired : now < columns.expiresAt :=
      Nat.not_le.mp (fun ended => inTime ⟨columns, running, ended⟩)
    subst same
    exact ⟨found, rfl, rfl, columns, running, rfl, rfl, Or.inr unexpired⟩

/-- A locked running row shows the lease it was locked by. -/
theorem lockRunningJob_shows {jobs : Jobs} {now : Time} {lease : JobLease} {allowExpired : Bool}
    {job : Job} (h : lockRunningJob jobs now lease allowExpired = some job) :
    jobs.get lease.jobId.key = some job ∧ job.lease = some lease := by
  obtain ⟨found, id, attempt, held⟩ := lockRunningJob_eq_some.mp h
  obtain ⟨columns, running, owner, token, -⟩ := heldBy_eq_true.mp held
  refine ⟨found, Job.lease_eq_some.mpr ⟨columns, running, ?_⟩⟩
  rw [id, attempt, owner, token]

/-- Every lease of the later table is one of the earlier, as late as it was. -/
def Fenced (now : Time) (jobs jobs' : Jobs) : Prop :=
  ∀ key job' lease, jobs'.get key = some job' → job'.lease = some lease →
    ∃ job, jobs.get key = some job ∧ job.lease = some lease ∧ (job.lapsed now → job'.lapsed now)

namespace Fenced
variable {now : Time} {jobs jobs' jobs'' : Jobs}

theorem refl (now : Time) (jobs : Jobs) : Fenced now jobs jobs :=
  fun _ job _ found shows => ⟨job, found, shows, id⟩

theorem trans (first : Fenced now jobs jobs') (second : Fenced now jobs' jobs'') :
    Fenced now jobs jobs'' := by
  intro key job'' lease found shows
  obtain ⟨job', found', shows', late⟩ := second key job'' lease found shows
  obtain ⟨job, present, showed, later⟩ := first key job' lease found' shows'
  exact ⟨job, present, showed, late ∘ later⟩

/-- A write of one row that shows no lease. -/
theorem put_idle (jobs : Jobs) {job : Job} (idle : job.lease = none) :
    Fenced now jobs (jobs.put job) := by
  intro key job' lease found shows
  rw [Jobs.get_put] at found
  split at found
  · cases found
    rw [idle] at shows
    cases shows
  · exact ⟨job', found, shows, id⟩

/-- A write of one row that shows the lease the row showed, in time. -/
theorem put_renewed (old : Job) {job : Job} (present : jobs.get job.id.key = some old)
    (same : job.lease = old.lease) (inTime : ¬ old.lapsed now) : Fenced now jobs (jobs.put job) := by
  intro key job' lease found shows
  rw [Jobs.get_put] at found
  split at found
  · rename_i here
    cases found
    subst here
    exact ⟨old, present, same ▸ shows, fun ended => absurd ended inTime⟩
  · exact ⟨job', found, shows, id⟩

theorem delete (jobs : Jobs) (key : JobKey) : Fenced now jobs (jobs.delete key) := by
  intro other job' lease found shows
  rw [Jobs.get_delete] at found
  split at found
  · cases found
  · exact ⟨job', found, shows, id⟩

theorem updateAll (jobs : Jobs) {f : Job → Job} (keeps : ∀ job, (f job).id = job.id)
    (idle : ∀ job, f job = job ∨ (f job).lease = none) : Fenced now jobs (jobs.updateAll f keeps) := by
  intro key job' lease found shows
  rw [Jobs.get_updateAll, Option.map_eq_some_iff] at found
  obtain ⟨job, present, changed⟩ := found
  subst changed
  rcases idle job with same | none
  · rw [same] at shows ⊢
    exact ⟨job, present, shows, id⟩
  · rw [none] at shows
    cases shows

end Fenced

/-- The leases one row may show after a step: old ones, as late as they were,
    and one stamped with the token the step drew. -/
def Stamped (drawn : Uuid) (now : Time) (jobs jobs' : Jobs) (key : JobKey) : Prop :=
  ∀ job' lease, jobs'.get key = some job' → job'.lease = some lease →
    lease.leaseToken = drawn ∨
      ∃ job, jobs.get key = some job ∧ job.lease = some lease ∧ (job.lapsed now → job'.lapsed now)

theorem Fenced.stamped {now : Time} {jobs jobs' : Jobs} (h : Fenced now jobs jobs') (drawn : Uuid)
    (key : JobKey) : Stamped drawn now jobs jobs' key :=
  fun job' lease found shows => Or.inr (h key job' lease found shows)

theorem Stamped.of_same {now : Time} {jobs jobs' : Jobs} {key : JobKey} (drawn : Uuid)
    (same : jobs'.get key = jobs.get key) : Stamped drawn now jobs jobs' key :=
  fun job' _ found shows => Or.inr ⟨job', same ▸ found, shows, id⟩

/-- A lease other than the one just drawn that is current was so before. -/
theorem Stamped.current {drawn : Uuid} {now later : Time} {jobs jobs' : Jobs} {lease : JobLease}
    {job' : Job} (h : Stamped drawn now jobs jobs' lease.jobId.key) (le : now ≤ later)
    (old : lease.leaseToken ≠ drawn)
    (current : lockCurrentJobAttempt jobs' later lease = some job') :
    ∃ job, lockCurrentJobAttempt jobs now lease = some job := by
  obtain ⟨found, shows, inTime⟩ := lockCurrentJobAttempt_eq_some.mp current
  rcases h job' lease found shows with fresh | ⟨job, present, showed, late⟩
  · exact absurd fresh old
  · refine ⟨job, lockCurrentJobAttempt_eq_some.mpr ⟨present, showed, fun lapsed => ?_⟩⟩
    exact inTime (Job.lapsed_mono (late lapsed) le)

theorem Job.settled_idle {job : Job} {now : Time} {update : QueueUpdate}
    (idle : ∀ columns, update.state ≠ .running columns) : (job.settled now update).lease = none :=
  Job.lease_eq_none idle

theorem Job.succeeded_idle (job : Job) (now : Time) : (job.succeeded now).lease = none :=
  Job.lease_eq_none (fun _ h => by cases h)

theorem heartbeatLease_fenced {jobs jobs' : Jobs} {now : Time} {lease : JobLease}
    {leaseDuration : Time} {renewed : Job}
    (h : heartbeatLease jobs now lease leaseDuration = .ok (jobs', renewed)) :
    Fenced now jobs jobs' := by
  obtain ⟨job, found, id, held, row, table⟩ := heartbeatLease_ok h
  obtain ⟨columns, running, owner, token, inTime⟩ := heldBy_eq_true.mp held
  have unexpired : now < columns.expiresAt := by simpa using inTime
  subst table row
  refine Fenced.put_renewed job ?_ ?_ ?_
  · simpa [id] using found
  · simp [Job.lease, running, owner, token]
  · rintro ⟨others, showing, ended⟩
    rw [running] at showing
    cases showing
    exact absurd ended (Nat.not_le.mpr unexpired)

theorem completeLease_fenced {jobs jobs' : Jobs} {now : Time} {lease : JobLease} {done : Job}
    (h : completeLease jobs now lease = .ok (jobs', done)) : Fenced now jobs jobs' := by
  rcases completeLease_ok h with same | ⟨job, -, -, -, table⟩
  · rw [same]
    exact .refl now jobs
  · rw [table]
    exact .put_idle jobs (job.succeeded_idle now)

/-- A settled row of a family without a domain row. -/
theorem settleQueueInTransaction_ok {jobs jobs' : Jobs} {now : Time} {lease : JobLease}
    {expected : JobCommand} {settlement : JobSettlement} {answer : Job}
    (h : settleQueueInTransaction jobs now lease expected settlement = .ok (jobs', answer)) :
    ∃ job, jobs.get lease.jobId.key = some job ∧ job.lease = some lease ∧
      jobs' = jobs.put (job.settled now (queueParameters job settlement)) := by
  unfold settleQueueInTransaction at h
  split at h
  · cases h
  · rename_i job locked
    simp only [bind, Except.bind] at h
    split at h
    · cases h
    · cases h
      obtain ⟨found, shows⟩ := lockRunningJob_shows locked
      exact ⟨job, found, shows, rfl⟩

theorem recoverQueueOnlyInTransaction_ok {jobs jobs' : Jobs} {now : Time} {id : JobId}
    {expected : JobCommand}
    (h : recoverQueueOnlyInTransaction jobs now id expected = .ok (some jobs')) :
    ∃ job, lockExpiredJob jobs now id = some job ∧ expected.sameOwner job.command = true ∧
      jobs' = jobs.put (job.settled now (expiredUpdate now job)) := by
  unfold recoverQueueOnlyInTransaction at h
  split at h
  · cases h
  · rename_i job locked
    simp only [bind, Except.bind] at h
    split at h
    · cases h
    · rename_i command valid
      cases h
      exact ⟨job, locked, (validateLockedCommand_ok valid).2, rfl⟩

theorem updateLockedJob_fenced (jobs : Jobs) (now : Time) (job : Job) {update : QueueUpdate}
    (idle : ∀ columns, update.state ≠ .running columns) :
    Fenced now jobs (updateLockedJob jobs now job update) :=
  .put_idle jobs (Job.settled_idle idle)

end Sooqa.Queue
