import Sooqa.Queue.Job

/-!
The queue table and its lease operations: claim, heartbeat, completion, the
row locks that every fenced transaction takes, and the low-level update that
settlement and recovery share. All of them read one clock, as a transaction
is taken to happen at one instant.
-/
namespace Sooqa.Queue
open Foundation

/-- The queue table. Rows are stored under their own dedupe key, which is what
    the unique index on it says. -/
structure Jobs where
  rows : Table JobKey Job
  keyed : ∀ key job, rows.get key = some job → job.id.key = key

namespace Jobs

def empty : Jobs := ⟨∅, fun _ _ found => by cases found⟩

def get (jobs : Jobs) (key : JobKey) : Option Job := jobs.rows.get key

/-- The row with a primary key. -/
def find (jobs : Jobs) (id : JobId) : Option Job := (jobs.get id.key).filter (fun job => job.id == id)

def put (jobs : Jobs) (job : Job) : Jobs where
  rows := jobs.rows.set job.id.key job
  keyed := by
    intro key found h
    by_cases same : key = job.id.key
    · subst same
      rw [Table.get_set_self] at h
      cases h
      rfl
    · rw [Table.get_set_ne _ _ same] at h
      exact jobs.keyed key found h

def delete (jobs : Jobs) (key : JobKey) : Jobs where
  rows := jobs.rows.remove key
  keyed := by
    intro other found h
    rw [Table.get_remove] at h
    split at h
    · cases h
    · exact jobs.keyed other found h

/-- `INSERT … ON CONFLICT (dedupe_key) DO NOTHING`. -/
def insertAbsent (jobs : Jobs) (job : Job) : Jobs :=
  if (jobs.get job.id.key).isSome then jobs else jobs.put job

/-- An `UPDATE` over all rows that keeps every primary key. -/
def updateAll (jobs : Jobs) (f : Job → Job) (keeps : ∀ job, (f job).id = job.id) : Jobs where
  rows := jobs.rows.updateAll (fun _ job => f job)
  keyed := by
    intro key found h
    rw [Table.get_updateAll, Option.map_eq_some_iff] at h
    obtain ⟨old, present, changed⟩ := h
    rw [← changed, keeps]
    exact jobs.keyed key old present

/-- `EXISTS (SELECT 1 FROM queue.jobs WHERE …)`. -/
def any (jobs : Jobs) (p : Job → Bool) : Bool := jobs.rows.rows.any (fun row => p row.2)

@[simp] theorem get_put_self (jobs : Jobs) (job : Job) :
    (jobs.put job).get job.id.key = some job := Table.get_set_self _ _ _

theorem get_put_ne (jobs : Jobs) {job : Job} {key : JobKey} (ne : key ≠ job.id.key) :
    (jobs.put job).get key = jobs.get key := Table.get_set_ne _ _ ne

theorem get_put (jobs : Jobs) (job : Job) (key : JobKey) :
    (jobs.put job).get key = if key = job.id.key then some job else jobs.get key :=
  Table.get_set _ _ _ _

theorem get_delete (jobs : Jobs) (key other : JobKey) :
    (jobs.delete key).get other = if other = key then none else jobs.get other :=
  Table.get_remove _ _ _

theorem get_insertAbsent (jobs : Jobs) (job : Job) (key : JobKey) :
    (jobs.insertAbsent job).get key =
      if key = job.id.key then some ((jobs.get key).getD job) else jobs.get key := by
  unfold insertAbsent
  cases present : jobs.get job.id.key with
  | none =>
    simp only [Option.isSome_none, Bool.false_eq_true, if_false, get_put]
    split
    · rename_i same
      rw [same, present]
      rfl
    · rfl
  | some old =>
    simp only [Option.isSome_some, if_true]
    split
    · rename_i same
      rw [same, present]
      rfl
    · rfl

theorem get_insertAbsent_ne (jobs : Jobs) {job : Job} {key : JobKey} (ne : key ≠ job.id.key) :
    (jobs.insertAbsent job).get key = jobs.get key := by
  rw [get_insertAbsent, if_neg ne]

@[simp] theorem get_updateAll (jobs : Jobs) (f : Job → Job) (keeps) (key : JobKey) :
    (jobs.updateAll f keeps).get key = (jobs.get key).map f := Table.get_updateAll _ _ _

theorem get_key (jobs : Jobs) {key : JobKey} {job : Job} (found : jobs.get key = some job) :
    job.id.key = key := jobs.keyed key job found

theorem find_eq_some (jobs : Jobs) {id : JobId} {job : Job} :
    jobs.find id = some job ↔ jobs.get id.key = some job ∧ job.id = id := by
  simp only [find, Option.filter_eq_some_iff, beq_iff_eq]

theorem any_eq_true (jobs : Jobs) (p : Job → Bool) :
    jobs.any p = true ↔ ∃ key job, jobs.get key = some job ∧ p job = true := by
  simp only [any, List.any_eq_true]
  constructor
  · rintro ⟨⟨key, job⟩, member, holds⟩
    exact ⟨key, job, (Table.mem_rows_iff _ _ _).mp member, holds⟩
  · rintro ⟨key, job, found, holds⟩
    exact ⟨(key, job), (Table.mem_rows_iff _ _ _).mpr found, holds⟩

end Jobs

inductive JobRepositoryError where
  | invalidLeaseDuration
  | database
  | leaseLost
  deriving DecidableEq, Repr

/-- The lease columns a job row must show: owner and token, and unless the
    caller tolerates it, an expiry still ahead. -/
def LeaseColumns.admits (columns : LeaseColumns) (now : Time) (lease : JobLease)
    (allowExpired : Bool) : Bool :=
  columns.owner == lease.leaseOwner && columns.token == lease.leaseToken &&
    (allowExpired || decide (now < columns.expiresAt))

/-- `state = 'running'` under this lease, the attempt number left unchecked. -/
def Job.heldBy (job : Job) (now : Time) (lease : JobLease) (allowExpired : Bool) : Bool :=
  match job.state with
  | .running columns => columns.admits now lease allowExpired
  | _ => false

/-- `SELECT … FOR UPDATE` of the running row of a lease. -/
def lockRunningJob (jobs : Jobs) (now : Time) (lease : JobLease) (allowExpired : Bool) :
    Option Job :=
  (jobs.find lease.jobId).filter
    (fun job => job.attemptCount == lease.attemptNumber && job.heldBy now lease allowExpired)

/-- The fence of the domain transactions: the current, unexpired attempt. -/
def lockCurrentJobAttempt (jobs : Jobs) (now : Time) (attempt : JobLease) : Option Job :=
  lockRunningJob jobs now attempt false

def lockExpiredJob (jobs : Jobs) (now : Time) (id : JobId) : Option Job :=
  (jobs.find id).filter
    (fun job => match job.state with
      | .running columns => decide (columns.expiresAt ≤ now)
      | _ => false)

/-- The columns changed by every family settlement. -/
def Job.settled (job : Job) (now : Time) (update : QueueUpdate) : Job :=
  { job with
    state := update.state
    attemptCount := if update.nonConsuming then job.attemptCount - 1 else job.attemptCount
    runAt := update.runAt
    errorClass := some update.errorClass
    errorMessage := some update.errorMessage
    completedAt := if update.terminal then some now else none
    updatedAt := now }

def updateLockedJob (jobs : Jobs) (now : Time) (job : Job) (update : QueueUpdate) : Jobs :=
  jobs.put (job.settled now update)

def Job.succeeded (job : Job) (now : Time) : Job :=
  { job with state := .succeeded, completedAt := some now, updatedAt := now }

/-- `claim_next`. Locked rows are skipped, so which eligible candidate wins is
    the environment's choice; the caller supplies it and the fresh token. -/
def claimNext (jobs : Jobs) (now : Time) (token : Uuid) (worker : String) (leaseDuration : Time)
    (capabilities : List JobType) (candidate : JobKey) :
    Except JobRepositoryError (Jobs × Option Job) :=
  if leaseDuration = 0 then .error .invalidLeaseDuration else
  match jobs.get candidate with
  | none => .ok (jobs, none)
  | some job =>
    if job.state = .queued ∧ job.runAt ≤ now ∧ job.attemptCount < job.maxAttempts ∧
        job.command.jobType ∈ capabilities then
      let claimed := { job with
        state := .running ⟨token, worker, now + leaseDuration, now⟩
        attemptCount := job.attemptCount + 1
        updatedAt := now }
      .ok (jobs.put claimed, some claimed)
    else .ok (jobs, none)

def heartbeatLease (jobs : Jobs) (now : Time) (lease : JobLease) (leaseDuration : Time) :
    Except JobRepositoryError (Jobs × Job) :=
  if leaseDuration = 0 then .error .invalidLeaseDuration else
  match (jobs.find lease.jobId).filter (fun job => job.heldBy now lease false) with
  | none => .error .leaseLost
  | some job =>
    let renewed := { job with
      state := .running ⟨lease.leaseToken, lease.leaseOwner, now + leaseDuration, now⟩
      updatedAt := now }
    .ok (jobs.put renewed, renewed)

/-- `complete_lease`, with the already-succeeded answer that makes it
    idempotent after a domain transaction finished the job. -/
def completeLease (jobs : Jobs) (now : Time) (lease : JobLease) :
    Except JobRepositoryError (Jobs × Job) :=
  match (jobs.find lease.jobId).filter (fun job => job.heldBy now lease false) with
  | some job => .ok (jobs.put (job.succeeded now), job.succeeded now)
  | none =>
    match (jobs.find lease.jobId).filter
        (fun job => job.state == .succeeded && job.attemptCount == lease.attemptNumber) with
    | some job => .ok (jobs, job)
    | none => .error .leaseLost

def leaseMatchesJob (job : Job) (lease : JobLease) : Bool := job.lease == some lease

def validateLockedCommand (job : Job) (expected : JobCommand) :
    Except JobRepositoryError JobCommand :=
  if expected.sameOwner job.command then .ok job.command else .error .leaseLost

/-- Settlement of a family without a domain row. -/
def settleQueueInTransaction (jobs : Jobs) (now : Time) (lease : JobLease)
    (expected : JobCommand) (settlement : JobSettlement) :
    Except JobRepositoryError (Jobs × Job) :=
  match lockRunningJob jobs now lease settlement.allowsExpiredLease with
  | none => .error .leaseLost
  | some job => do
    let _ ← validateLockedCommand job expected
    let update := queueParameters job settlement
    pure (updateLockedJob jobs now job update, job.settled now update)

/-- Recovery of a family without a domain row; `none` when another worker
    already took the row. -/
def recoverQueueOnlyInTransaction (jobs : Jobs) (now : Time) (id : JobId)
    (expected : JobCommand) : Except JobRepositoryError (Option Jobs) :=
  match lockExpiredJob jobs now id with
  | none => .ok none
  | some job => do
    let _ ← validateLockedCommand job expected
    pure (some (updateLockedJob jobs now job (expiredUpdate now job)))

/-- The idempotent answer to a non-consuming settlement that lost its lease
    because the row was requeued already. -/
def loadAlreadyRequeued (jobs : Jobs) (lease : JobLease) (settlement : JobSettlement)
    (expected : JobCommand) : Except JobRepositoryError Job :=
  match (jobs.find lease.jobId).filter
      (fun job => job.state == .queued && job.errorClass == some settlement.errorClass) with
  | none => .error .leaseLost
  | some job => if expected.sameOwner job.command then .ok job else .error .leaseLost

section Specifications
variable {jobs : Jobs} {now : Time}

/-- The row shows a running lease with this token. -/
def Job.leasedTo (job : Job) (token : Uuid) : Prop :=
  ∃ columns, job.state = .running columns ∧ columns.token = token

theorem heldBy_eq_true {job : Job} {lease : JobLease} {allowExpired : Bool} :
    job.heldBy now lease allowExpired = true ↔
      ∃ columns, job.state = .running columns ∧ columns.owner = lease.leaseOwner ∧
        columns.token = lease.leaseToken ∧ (allowExpired = true ∨ now < columns.expiresAt) := by
  unfold Job.heldBy
  split
  · rename_i columns running
    simp [LeaseColumns.admits, running, and_assoc]
  · rename_i other
    simp only [Bool.false_eq_true, false_iff]
    rintro ⟨columns, running, -⟩
    exact other columns running

theorem lockRunningJob_eq_some {lease : JobLease} {allowExpired : Bool} {job : Job} :
    lockRunningJob jobs now lease allowExpired = some job ↔
      jobs.get lease.jobId.key = some job ∧ job.id = lease.jobId ∧
        job.attemptCount = lease.attemptNumber ∧ job.heldBy now lease allowExpired = true := by
  simp only [lockRunningJob, Option.filter_eq_some_iff, Jobs.find_eq_some, Bool.and_eq_true,
    beq_iff_eq, and_assoc]

theorem lockExpiredJob_eq_some {id : JobId} {job : Job} :
    lockExpiredJob jobs now id = some job ↔
      jobs.get id.key = some job ∧ job.id = id ∧
        ∃ columns, job.state = .running columns ∧ columns.expiresAt ≤ now := by
  simp only [lockExpiredJob, Option.filter_eq_some_iff, Jobs.find_eq_some, and_assoc]
  refine and_congr_right (fun _ => and_congr_right (fun _ => ?_))
  split
  · rename_i columns running
    simp [running]
  · rename_i other
    simp only [Bool.false_eq_true, false_iff]
    rintro ⟨columns, running, -⟩
    exact other columns running

/-- What a claim does: a due queued row becomes running under the fresh token. -/
theorem claimNext_ok {token : Uuid} {worker : String} {leaseDuration : Time}
    {capabilities : List JobType} {candidate : JobKey} {jobs' : Jobs} {claimed : Job}
    (h : claimNext jobs now token worker leaseDuration capabilities candidate =
      .ok (jobs', some claimed)) :
    ∃ job, jobs.get candidate = some job ∧ job.state = .queued ∧
      job.attemptCount < job.maxAttempts ∧ job.command.jobType ∈ capabilities ∧
      claimed = { job with
        state := .running ⟨token, worker, now + leaseDuration, now⟩
        attemptCount := job.attemptCount + 1
        updatedAt := now } ∧ jobs' = jobs.put claimed := by
  unfold claimNext at h
  split at h
  · cases h
  · split at h
    · simp at h
    · rename_i job found
      split at h
      · rename_i due
        simp only [Except.ok.injEq, Prod.mk.injEq, Option.some.injEq] at h
        obtain ⟨table, row⟩ := h
        exact ⟨job, found, due.1, due.2.2.1, due.2.2.2, row.symm, by rw [← table, row]⟩
      · simp at h

theorem heartbeatLease_ok {lease : JobLease} {leaseDuration : Time} {jobs' : Jobs} {renewed : Job}
    (h : heartbeatLease jobs now lease leaseDuration = .ok (jobs', renewed)) :
    ∃ job, jobs.get lease.jobId.key = some job ∧ job.id = lease.jobId ∧
      job.heldBy now lease false = true ∧
      renewed = { job with
        state := .running ⟨lease.leaseToken, lease.leaseOwner, now + leaseDuration, now⟩
        updatedAt := now } ∧ jobs' = jobs.put renewed := by
  unfold heartbeatLease at h
  split at h
  · cases h
  · split at h
    · cases h
    · rename_i job found
      rw [Option.filter_eq_some_iff, Jobs.find_eq_some] at found
      simp only [Except.ok.injEq, Prod.mk.injEq] at h
      obtain ⟨table, row⟩ := h
      exact ⟨job, found.1.1, found.1.2, found.2, row.symm, by rw [← table, row]⟩

/-- A completed lease either finishes its running row or finds it finished. -/
theorem completeLease_ok {lease : JobLease} {jobs' : Jobs} {done : Job}
    (h : completeLease jobs now lease = .ok (jobs', done)) :
    jobs' = jobs ∨ ∃ job, jobs.get lease.jobId.key = some job ∧ job.id = lease.jobId ∧
      job.heldBy now lease false = true ∧ jobs' = jobs.put (job.succeeded now) := by
  unfold completeLease at h
  split at h
  · rename_i job found
    rw [Option.filter_eq_some_iff, Jobs.find_eq_some] at found
    simp only [Except.ok.injEq, Prod.mk.injEq] at h
    exact Or.inr ⟨job, found.1.1, found.1.2, found.2, h.1.symm⟩
  · split at h
    · simp only [Except.ok.injEq, Prod.mk.injEq] at h
      exact Or.inl h.1.symm
    · cases h

theorem validateLockedCommand_ok {job : Job} {expected command : JobCommand}
    (h : validateLockedCommand job expected = .ok command) :
    command = job.command ∧ expected.sameOwner job.command = true := by
  unfold validateLockedCommand at h
  split at h
  · rename_i same
    simp only [Except.ok.injEq] at h
    exact ⟨h.symm, same⟩
  · cases h

end Specifications
end Sooqa.Queue
