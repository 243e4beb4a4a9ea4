import Sooqa.Jobs.Steps

/-!
The attempt columns over whole runs. A row never counts more attempts than it
is allowed, a running row counts the attempt it is in, and a queued row always
has one left, so that a claim never passes over it for good.
-/
namespace Sooqa.Jobs
open Foundation Queue

section Rows
variable {old new : Job}

/-- The attempt columns of a row are in order. -/
structure Accounted (job : Job) : Prop where
  positive : 0 < job.maxAttempts
  bounded : job.attemptCount ≤ job.maxAttempts
  running : ∀ columns, job.state = .running columns → 1 ≤ job.attemptCount
  queued : job.state = .queued → job.attemptCount < job.maxAttempts

theorem accounted_inserted {low high : Uuid} (inserted : Inserted low high new) : Accounted new where
  positive := inserted.positive
  bounded := by
    have := inserted.attempts
    omega
  running := by
    intro columns running
    rcases inserted.state with queued | failed
    · rw [queued] at running
      cases running
    · rw [failed] at running
      cases running
  queued := by
    intro _
    have := inserted.attempts
    have := inserted.positive
    omega

/-- A row at rest, with its count within the bound. -/
theorem accounted_idle (positive : 0 < new.maxAttempts) (bounded : new.attemptCount ≤ new.maxAttempts)
    (idle : new.state = .failed ∨ new.state = .cancelled ∨ new.state = .succeeded) :
    Accounted new where
  positive := positive
  bounded := bounded
  running := by
    intro columns running
    rcases idle with state | state | state <;> rw [state] at running <;> cases running
  queued := by
    intro queued
    rcases idle with state | state | state <;> rw [state] at queued <;> cases queued

theorem accounted_queued (left : new.attemptCount < new.maxAttempts) (state : new.state = .queued) :
    Accounted new where
  positive := by omega
  bounded := by omega
  running := by
    intro columns running
    rw [state] at running
    cases running
  queued := fun _ => left

theorem accounted_edit (accounted : Accounted old) (same : SameRow old new) (edit : Edit old new) :
    Accounted new := by
  have bounded := accounted.bounded
  have positive := accounted.positive
  have max := same.maxAttempts
  cases edit with
  | kept lease queued succeeded attempts diagnostic =>
    refine ⟨by omega, by omega, ?_, ?_⟩
    · intro columns running
      have shows : new.lease = some ⟨new.id, new.attemptCount, columns.owner, columns.token⟩ :=
        Job.lease_eq_some.mpr ⟨columns, running, rfl⟩
      rw [lease] at shows
      obtain ⟨showed, was, -⟩ := Job.lease_eq_some.mp shows
      have := accounted.running showed was
      omega
    · intro state
      have := accounted.queued (queued.mp state)
      omega
  | withdrawn idle ended attempts =>
    refine accounted_idle (by omega) (by omega) ?_
    rcases ended with failed | cancelled
    · exact .inl failed
    · exact .inr (.inl cancelled)
  | restarted idle state attempts plain =>
    refine accounted_queued ?_ state
    rcases idle with queued | failed
    · have left := accounted.queued queued
      rw [queued] at attempts
      simp only [reduceCtorEq, if_false] at attempts
      omega
    · rw [if_pos failed] at attempts
      omega

/-- Ending a lease refunds its attempt only where one was counted. -/
theorem accounted_ending {lease : JobLease} (accounted : Accounted old)
    (shows : old.lease = some lease) (same : SameRow old new) (ending : Ending old new) :
    Accounted new := by
  have bounded := accounted.bounded
  have positive := accounted.positive
  have max := same.maxAttempts
  obtain ⟨columns, running, -⟩ := Job.lease_eq_some.mp shows
  have counted := accounted.running columns running
  cases ending with
  | succeeded state attempts => exact accounted_idle (by omega) (by omega) (.inr (.inr state))
  | retried state attempts left diagnostic => exact accounted_queued (by omega) state
  | refunded state attempts diagnostic => exact accounted_queued (by omega) state
  | failed state attempts => exact accounted_idle (by omega) (by omega) (.inl state)

end Rows

section Runs
variable {w w' : World} {act : Action}

def World.Accounted (w : World) : Prop :=
  ∀ key job, w.db.jobs.get key = some job → Jobs.Accounted job

theorem quiet_accounted {low high : Uuid} {jobs jobs' : Queue.Jobs}
    (accounted : ∀ key job, jobs.get key = some job → Accounted job)
    (quiet : Quiet low high jobs jobs') :
    ∀ key job, jobs'.get key = some job → Accounted job := by
  intro key job found
  rcases quiet.rows key job found with ⟨old, present, same, edit⟩ | ⟨-, inserted⟩
  · exact accounted_edit (accounted key old present) same edit
  · exact accounted_inserted inserted

theorem put_accounted {jobs : Queue.Jobs} {new : Job}
    (accounted : ∀ key job, jobs.get key = some job → Accounted job) (written : Accounted new) :
    ∀ key job, (jobs.put new).get key = some job → Accounted job := by
  intro key job found
  rw [Jobs.get_put] at found
  split at found
  · cases found
    exact written
  · exact accounted key job found

/-- One step: the rows that were rewritten, and the others by hypothesis. -/
theorem step_accounted (accounted : w.Accounted) (h : w.step act = some w') : w'.Accounted := by
  cases step_stepped h with
  | quiet write log => exact quiet_accounted accounted write
  | granted lease old new grant =>
    have left := grant.left
    have number := grant.attempts
    have max := grant.same.maxAttempts
    have claimed : Accounted new := by
      refine ⟨by omega, by omega, fun _ _ => by omega, ?_⟩
      intro state
      obtain ⟨columns, running, -⟩ := Job.lease_eq_some.mp grant.shows
      rw [state] at running
      cases running
    unfold World.Accounted
    rw [grant.jobs]
    exact put_accounted accounted claimed
  | ended presented lease cause old new ended =>
    obtain ⟨middle, quiet, -, jobs⟩ := ended.ends.rest
    have written := accounted_ending (accounted _ old ended.ends.found) ended.ends.shows
      ended.ends.same ended.ends.ending
    unfold World.Accounted
    rw [jobs]
    exact put_accounted (quiet_accounted accounted quiet) written

theorem initial_accounted : World.initial.Accounted := fun _ _ found => by cases found

theorem run_accounted {trace : List Action} (run : Run World.step Unrestricted .initial trace w) :
    w.Accounted :=
  run_invariant World.Accounted (fun accounted _ => step_accounted accounted) initial_accounted run

/-- A due row with an attempt left is claimable by a capable worker. -/
theorem claimNext_claims {jobs : Queue.Jobs} {key : JobKey} {job : Job} {now duration : Time}
    {capabilities : List JobType} (found : jobs.get key = some job) (state : job.state = .queued)
    (left : job.attemptCount < job.maxAttempts) (due : job.runAt ≤ now)
    (capable : job.command.jobType ∈ capabilities) (lasting : duration ≠ 0) (token : Uuid)
    (worker : String) : ∃ jobs' claimed,
      claimNext jobs now token worker duration capabilities key = .ok (jobs', some claimed) := by
  unfold claimNext
  rw [if_neg lasting, found]
  simp only [state, due, left, capable, and_self, if_true]
  exact ⟨_, _, rfl⟩

theorem attempts_are_accounted {trace : List Action}
    (run : Run World.step Unrestricted .initial trace w) {key : JobKey} {job : Job}
    (found : w.db.jobs.get key = some job) :
    job.attemptCount ≤ job.maxAttempts ∧
    (∀ columns, job.state = .running columns → 1 ≤ job.attemptCount) ∧
    (job.state = .queued → job.attemptCount < job.maxAttempts ∧
      ∀ now token worker duration capabilities, job.runAt ≤ now → duration ≠ 0 →
        job.command.jobType ∈ capabilities → ∃ jobs' claimed,
          claimNext w.db.jobs now token worker duration capabilities key =
            .ok (jobs', some claimed)) := by
  have accounted := run_accounted run key job found
  refine ⟨accounted.bounded, accounted.running, fun state => ⟨accounted.queued state, ?_⟩⟩
  intro now token worker duration capabilities due lasting capable
  exact claimNext_claims found state (accounted.queued state) due capable lasting token worker

/-- A media not yet reserved for an upload. -/
def samplePending : Media :=
  { Publisher.sampleMedia with
    storageState := .pending
    telegramStorageChatId := none
    telegramStorageMessageId := none
    telegramFileId := none
    storedAt := none }

theorem sampleUpload_owned : (JobKey.uploadStorage 1 1).owns (.uploadStorageAsset 1 1) = true := by
  decide

/-- An upload whose worker vanished before it reserved the media. -/
def sampleRefund : List Action :=
  [.domain ∅ (Table.set ∅ 1 samplePending) ∅ ∅,
    .insert (.uploadStorage 1 1) (.uploadStorageAsset 1 1) sampleUpload_owned 0 5,
    .claim "first" 60 [.uploadStorageAsset] (.uploadStorage 1 1),
    .tick 60,
    .recover ⟨.uploadStorage 1 1, 0⟩ (.uploadStorageAsset 1 1)]

/-- The recovery gives the attempt back, and the row can be claimed again. -/
theorem refunded_upload_is_claimable :
    ∃ w job, Run World.step Unrestricted .initial sampleRefund w ∧
      w.db.jobs.get (.uploadStorage 1 1) = some job ∧ job.state = .queued ∧
      job.attemptCount = 0 ∧ job.attemptCount < job.maxAttempts := by
  obtain ⟨w, job, reached, found, state, refunded⟩ : ∃ w job,
      exec World.step .initial sampleRefund = some w ∧
      w.db.jobs.get (.uploadStorage 1 1) = some job ∧ job.state = .queued ∧
      job.attemptCount = 0 := ⟨_, _, rfl, rfl, rfl, rfl⟩
  have run := run_of_exec reached
  exact ⟨w, job, run, found, state, refunded, ((attempts_are_accounted run found).2.2 state).1⟩

end Runs
end Sooqa.Jobs
