import Sooqa.Jobs.Accounting

/-!
What an acknowledgement stands for. A completion is acknowledged again when
the row has succeeded at the attempt number of the lease, and a non-consuming
settlement when the row was requeued with its error class. The log says which
lease that success or that requeue belongs to.
-/
namespace Sooqa.Jobs
open Foundation Queue

section Log
variable {log : List Entry} {lease other latest : JobLease} {id : JobId}

/-- The last lease granted on a job. -/
def lastGrant (id : JobId) : List Entry → Option JobLease
  | [] => none
  | .granted lease :: older => if lease.jobId = id then some lease else lastGrant id older
  | _ :: older => lastGrant id older

/-- `other` was granted after `lease` was. -/
def GrantedAfter (log : List Entry) (lease other : JobLease) : Prop :=
  List.Sublist [.granted other, .granted lease] log

theorem lastGrant_granted (last : lastGrant id log = some latest) :
    .granted latest ∈ log ∧ latest.jobId = id := by
  induction log with
  | nil => cases last
  | cons entry older ih =>
    cases entry with
    | granted lease =>
      simp only [lastGrant] at last
      split at last
      · rename_i same
        cases last
        exact ⟨List.mem_cons_self, same⟩
      · exact ⟨List.mem_cons_of_mem _ (ih last).1, (ih last).2⟩
    | succeeded lease cause => exact ⟨List.mem_cons_of_mem _ (ih last).1, (ih last).2⟩
    | requeued lease cause errorClass => exact ⟨List.mem_cons_of_mem _ (ih last).1, (ih last).2⟩

/-- A granted lease is the last of its job, or the last came after it. -/
theorem lastGrant_after (granted : .granted lease ∈ log)
    (last : lastGrant lease.jobId log = some latest) :
    latest = lease ∨ GrantedAfter log lease latest := by
  induction log with
  | nil => cases last
  | cons entry older ih =>
    have grown (h : .granted lease ∈ older) (last : lastGrant lease.jobId older = some latest) :
        latest = lease ∨ GrantedAfter (entry :: older) lease latest :=
      (ih h last).imp_right (fun after => after.trans (List.sublist_cons_self _ _))
    cases entry with
    | granted newest =>
      simp only [lastGrant] at last
      rcases List.mem_cons.mp granted with here | before
      · cases here
        rw [if_pos rfl] at last
        exact .inl (Option.some.inj last).symm
      · split at last
        · cases last
          exact .inr (List.Sublist.cons_cons _ (List.singleton_sublist.mpr before))
        · exact grown before last
    | succeeded ended cause => exact grown (by simpa using granted) last
    | requeued ended cause errorClass => exact grown (by simpa using granted) last

@[simp] theorem lastGrant_outcome (lease : JobLease) (cause : Cause) (job : Job) :
    lastGrant id (outcome lease cause job ++ log) = lastGrant id log := by
  unfold outcome
  split <;> rfl

theorem granted_outcome {cause : Cause} {job : Job} :
    .granted other ∈ outcome lease cause job ++ log ↔ .granted other ∈ log := by
  unfold outcome
  split <;> simp

theorem lastGrant_cons_ne (ne : lease.jobId ≠ id) :
    lastGrant id (.granted lease :: log) = lastGrant id log := if_neg ne

end Log

section Rows
variable {log : List Entry} {old new : Job}

/-- The log explains a row: who runs it, who made it succeed, who put it back. -/
structure Explained (log : List Entry) (job : Job) : Prop where
  running : ∀ lease, job.lease = some lease → lastGrant job.id log = some lease
  succeeded : job.state = .succeeded → ∃ lease cause, lastGrant job.id log = some lease ∧
    lease.attemptNumber = job.attemptCount ∧ .succeeded lease cause ∈ log
  requeued : job.state = .queued → ∀ errorClass, job.errorClass = some errorClass →
    ∃ lease cause, lastGrant job.id log = some lease ∧ .requeued lease cause errorClass ∈ log

/-- A row at rest that nobody made succeed or put back. -/
theorem explained_plain (idle : new.lease = none) (unfinished : new.state ≠ .succeeded)
    (plain : new.state = .queued → new.errorClass = none) : Explained log new where
  running := by
    intro lease shows
    rw [idle] at shows
    cases shows
  succeeded := fun state => absurd state unfinished
  requeued := by
    intro state errorClass diagnostic
    rw [plain state] at diagnostic
    cases diagnostic

theorem explained_inserted {low high : Uuid} (inserted : Inserted low high new) :
    Explained log new := by
  refine explained_plain (Job.lease_eq_none ?_) ?_ (fun _ => inserted.plain)
  · rcases inserted.state with state | state <;> simp [state]
  · rcases inserted.state with state | state <;> simp [state]

theorem explained_edit (explained : Explained log old) (same : SameRow old new)
    (edit : Edit old new) : Explained log new := by
  cases edit with
  | kept lease queued succeeded attempts diagnostic =>
    refine ⟨?_, ?_, ?_⟩
    · rw [lease, same.id]
      exact explained.running
    · rw [succeeded, attempts, same.id]
      exact explained.succeeded
    · rw [queued, diagnostic, same.id]
      exact explained.requeued
  | withdrawn idle ended attempts =>
    refine explained_plain (Job.lease_eq_none ?_) ?_ ?_
    · rcases ended with state | state <;> simp [state]
    · rcases ended with state | state <;> simp [state]
    · rcases ended with state | state <;> simp [state]
  | restarted idle state attempts plain =>
    exact explained_plain (Job.lease_eq_none (by simp [state])) (by simp [state]) (fun _ => plain)

/-- Entries that grant nothing leave every explanation in place. -/
theorem explained_outcome {lease : JobLease} {cause : Cause} {job : Job}
    (explained : Explained log old) : Explained (outcome lease cause job ++ log) old where
  running := by
    intro shown shows
    rw [lastGrant_outcome]
    exact explained.running shown shows
  succeeded := by
    intro state
    obtain ⟨owner, by_whom, last, number, entry⟩ := explained.succeeded state
    rw [lastGrant_outcome]
    exact ⟨owner, by_whom, last, number, List.mem_append_right _ entry⟩
  requeued := by
    intro state errorClass diagnostic
    obtain ⟨owner, by_whom, last, entry⟩ := explained.requeued state errorClass diagnostic
    rw [lastGrant_outcome]
    exact ⟨owner, by_whom, last, List.mem_append_right _ entry⟩

theorem explained_grant {lease : JobLease} (explained : Explained log old)
    (other : lease.jobId ≠ old.id) : Explained (.granted lease :: log) old where
  running := by
    intro shown shows
    rw [lastGrant_cons_ne other]
    exact explained.running shown shows
  succeeded := by
    intro state
    obtain ⟨owner, by_whom, last, number, entry⟩ := explained.succeeded state
    rw [lastGrant_cons_ne other]
    exact ⟨owner, by_whom, last, number, List.mem_cons_of_mem _ entry⟩
  requeued := by
    intro state errorClass diagnostic
    obtain ⟨owner, by_whom, last, entry⟩ := explained.requeued state errorClass diagnostic
    rw [lastGrant_cons_ne other]
    exact ⟨owner, by_whom, last, List.mem_cons_of_mem _ entry⟩

/-- The row whose lease was ended is explained by the entry of that lease. -/
theorem explained_ending {lease : JobLease} {cause : Cause} (explained : Explained log old)
    (shows : old.lease = some lease) (same : SameRow old new) (ending : Ending old new) :
    Explained (outcome lease cause new ++ log) new := by
  have last := explained.running lease shows
  obtain ⟨columns, -, parts⟩ := Job.lease_eq_some.mp shows
  have number : lease.attemptNumber = old.attemptCount := by rw [parts]
  have requeued (state : new.state = .queued) (diagnostic : new.errorClass ≠ none) :
      Explained (outcome lease cause new ++ log) new := by
    refine ⟨?_, fun finished => absurd finished (by simp [state]), ?_⟩
    · rw [Job.lease_eq_none (by simp [state])]
      exact fun _ none => by cases none
    · intro _ errorClass named
      rw [lastGrant_outcome, same.id]
      refine ⟨lease, cause, last, ?_⟩
      simp only [outcome, state, named]
      exact List.mem_cons_self
  cases ending with
  | succeeded state attempts =>
    refine ⟨?_, ?_, fun queued => absurd queued (by simp [state])⟩
    · rw [Job.lease_eq_none (by simp [state])]
      exact fun _ none => by cases none
    · intro _
      rw [lastGrant_outcome, same.id]
      refine ⟨lease, cause, last, number.trans attempts.symm, ?_⟩
      simp only [outcome, state]
      exact List.mem_cons_self
  | retried state attempts left diagnostic => exact requeued state diagnostic
  | refunded state attempts diagnostic => exact requeued state diagnostic
  | failed state attempts =>
    exact explained_plain (Job.lease_eq_none (by simp [state])) (by simp [state])
      (fun queued => absurd queued (by simp [state]))

end Rows

section Runs
variable {w w' : World} {act : Action}

/-- The log answers for every row, and no token was granted twice. -/
structure World.Answerable (w : World) : Prop where
  drawn : ∀ lease, w.granted lease → lease.leaseToken < w.db.fresh
  unique : ∀ one other, w.granted one → w.granted other →
    one.leaseToken = other.leaseToken → one = other
  rows : ∀ key job, w.db.jobs.get key = some job → Explained w.log job

theorem quiet_explained {low high : Uuid} {jobs jobs' : Queue.Jobs} {log : List Entry}
    (explained : ∀ key job, jobs.get key = some job → Explained log job)
    (quiet : Quiet low high jobs jobs') :
    ∀ key job, jobs'.get key = some job → Explained log job := by
  intro key job found
  rcases quiet.rows key job found with ⟨old, present, same, edit⟩ | ⟨-, inserted⟩
  · exact explained_edit (explained key old present) same edit
  · exact explained_inserted inserted

theorem granted_answerable {lease : JobLease} {old new : Job} (answerable : w.Answerable)
    (grant : Granted w w' lease old new) : w'.Answerable := by
  have granted (other : JobLease) (h : w'.granted other) : other = lease ∨ w.granted other := by
    unfold World.granted at h ⊢
    rw [grant.log] at h
    simpa using h
  have below (other : JobLease) (h : w.granted other) : other.leaseToken < lease.leaseToken := by
    rw [grant.drawn]
    exact answerable.drawn other h
  refine ⟨?_, ?_, ?_⟩
  · intro other h
    rw [grant.fresh]
    rcases granted other h with rfl | before
    · rw [grant.drawn]
      exact Nat.lt_succ_self _
    · exact Nat.lt_succ_of_lt (answerable.drawn other before)
  · intro one other hone hother token
    rcases granted one hone with rfl | before
    · rcases granted other hother with rfl | earlier
      · rfl
      · exact absurd token.symm (Nat.ne_of_lt (below other earlier))
    · rcases granted other hother with rfl | earlier
      · exact absurd token (Nat.ne_of_lt (below one before))
      · exact answerable.unique one other before earlier token
  · obtain ⟨columns, running, parts⟩ := Job.lease_eq_some.mp grant.shows
    have named : lease.jobId = new.id := by rw [parts]
    rw [grant.jobs, grant.log]
    intro key job found
    rw [Jobs.get_put] at found
    split at found
    · cases found
      refine ⟨?_, fun state => absurd state (by simp [running]),
        fun state => absurd state (by simp [running])⟩
      intro shown shows
      rw [grant.shows] at shows
      cases shows
      simp only [lastGrant, named, if_true]
    · rename_i elsewhere
      refine explained_grant (answerable.rows key job found) (fun same => elsewhere ?_)
      rw [← w.db.jobs.get_key found, ← named, same]

theorem ended_answerable {presented lease : JobLease} {cause : Cause} {old new : Job}
    (answerable : w.Answerable) (ended : Ended w w' presented lease cause old new) :
    w'.Answerable := by
  obtain ⟨middle, quiet, still, jobs⟩ := ended.ends.rest
  have explained := answerable.rows _ old ended.ends.found
  have holder : w.granted lease :=
    (lastGrant_granted (explained.running lease ended.ends.shows)).1
  have same : presented = lease := by
    rcases ended.known with same | granted
    · exact same
    · exact answerable.unique presented lease granted holder ended.token
  subst same
  have granted (other : JobLease) : w'.granted other ↔ w.granted other := by
    unfold World.granted
    rw [ended.log, granted_outcome]
  refine ⟨?_, ?_, ?_⟩
  · intro other h
    exact Nat.lt_of_lt_of_le (answerable.drawn other ((granted other).mp h)) quiet.grown
  · intro one other hone hother
    exact answerable.unique one other ((granted one).mp hone) ((granted other).mp hother)
  · rw [jobs, ended.log]
    intro key job found
    rw [Jobs.get_put] at found
    split at found
    · cases found
      exact explained_ending explained ended.ends.shows ended.ends.same ended.ends.ending
    · exact explained_outcome (quiet_explained answerable.rows quiet key job found)

theorem step_answerable (answerable : w.Answerable) (h : w.step act = some w') :
    w'.Answerable := by
  cases step_stepped h with
  | quiet write log =>
    refine ⟨?_, ?_, ?_⟩
    · intro lease granted
      unfold World.granted at granted
      rw [log] at granted
      exact Nat.lt_of_lt_of_le (answerable.drawn lease granted) write.grown
    · unfold World.granted
      rw [log]
      exact answerable.unique
    · rw [log]
      exact quiet_explained answerable.rows write
  | granted lease old new grant => exact granted_answerable answerable grant
  | ended presented lease cause old new ended => exact ended_answerable answerable ended

theorem initial_answerable : World.initial.Answerable where
  drawn := fun _ granted => by cases granted
  unique := fun _ _ granted => by cases granted
  rows := fun _ _ found => by cases found

theorem run_answerable {trace : List Action} (run : Run World.step Unrestricted .initial trace w) :
    w.Answerable :=
  run_invariant World.Answerable (fun answerable _ => step_answerable answerable)
    initial_answerable run

/-- A completion is acknowledged on account of a lease with its number. -/
theorem complete_answered {lease : JobLease} {db : Db} {done : Job} (answerable : w.Answerable)
    (known : w.granted lease) (h : complete w.db lease = .ok (db, done)) :
    ∃ owner cause, .succeeded owner cause ∈ (w.presenting lease (complete w.db lease)).log ∧
      owner.jobId = lease.jobId ∧ owner.attemptNumber = lease.attemptNumber ∧
      (owner = lease ∨ GrantedAfter w.log lease owner) := by
  rcases complete_ends h with ⟨same, found, state, number⟩ |
    ⟨shown, old, named, token, ends, state⟩
  · obtain ⟨present, id⟩ := (Jobs.find_eq_some _).mp found
    obtain ⟨owner, cause, last, attempt, entry⟩ :=
      (answerable.rows _ done present).succeeded state
    rw [id] at last
    refine ⟨owner, cause, ?_, (lastGrant_granted last).2, attempt.trans number,
      lastGrant_after known last⟩
    rw [h]
    exact List.mem_append_right _ entry
  · refine ⟨lease, .operation, ?_, rfl, rfl, .inl rfl⟩
    rw [h]
    simp only [World.presenting, ending_of_ends ends named, outcome, state]
    exact List.mem_cons_self

/-- A settlement answered from the row is answered by the last lease's requeue. -/
theorem fallback_answered {lease : JobLease} {settlement : JobSettlement} {command : JobCommand}
    {done : Job} (answerable : w.Answerable) (known : w.granted lease)
    (h : loadAlreadyRequeued w.db.jobs lease settlement command = .ok done) :
    ∃ owner cause, .requeued owner cause (some settlement.errorClass) ∈ w.log ∧
      owner.jobId = lease.jobId ∧ (owner = lease ∨ GrantedAfter w.log lease owner) := by
  unfold loadAlreadyRequeued at h
  split at h
  · cases h
  rename_i job found
  rw [Option.filter_eq_some_iff, Jobs.find_eq_some, Bool.and_eq_true, beq_iff_eq,
    beq_iff_eq] at found
  obtain ⟨⟨present, id⟩, state, diagnostic⟩ := found
  obtain ⟨owner, cause, last, entry⟩ :=
    (answerable.rows _ job present).requeued state _ diagnostic
  rw [id] at last
  exact ⟨owner, cause, diagnostic ▸ entry, (lastGrant_granted last).2,
    lastGrant_after known last⟩

/-- An acknowledged completion under a lease whose number was not granted again
    belongs to that lease. A settlement answered by the row stands for the
    requeue of that lease or of a later one, by whoever ended it. -/
theorem acknowledgements_are_truthful {trace : List Action}
    (run : Run World.step Unrestricted .initial trace w) {lease : JobLease}
    (known : w.granted lease) :
    (∀ db done w', complete w.db lease = .ok (db, done) → w.step (.complete lease) = some w' →
      (∀ other, GrantedAfter w.log lease other → other.jobId = lease.jobId →
        other.attemptNumber ≠ lease.attemptNumber) →
      ∃ cause, .succeeded lease cause ∈ w'.log) ∧
    (∀ job settlement db done, settleLease w.db job lease settlement = .ok (db, done) →
      settleFamily w.db lease job.command settlement = .error .leaseLost →
      ∃ owner cause, .requeued owner cause (some settlement.errorClass) ∈ w.log ∧
        owner.jobId = lease.jobId ∧ (owner = lease ∨ GrantedAfter w.log lease owner)) := by
  have answerable := run_answerable run
  constructor
  · intro db done w' completed stepped unrepeated
    simp only [World.step, if_pos known, Option.some.injEq] at stepped
    obtain ⟨owner, cause, entry, named, number, whose⟩ :=
      complete_answered answerable known completed
    rw [stepped] at entry
    rcases whose with own | after
    · rw [← own]
      exact ⟨cause, entry⟩
    · exact absurd number (unrepeated owner after named)
  · intro job settlement db done settled lost
    unfold settleLease at settled
    split at settled
    case isFalse => cases settled
    unfold settle at settled
    rw [lost] at settled
    simp only at settled
    split at settled
    case isFalse => cases settled
    simp only [bind_ok, pure_ok, Prod.mk.injEq] at settled
    obtain ⟨row, requeued, -, -⟩ := settled
    exact fallback_answered answerable known requeued

def sampleLease (token : Uuid) (worker : String) : JobLease :=
  ⟨⟨.uploadStorage 1 1, 0⟩, 1, worker, token⟩

/-- The upload as its first worker claimed it. -/
def sampleClaimed : Job :=
  { Job.new (.uploadStorage 1 1) (.uploadStorageAsset 1 1) sampleUpload_owned 0 0 0 5 with
    state := .running ⟨1, "first", 60, 0⟩
    attemptCount := 1 }

def sampleSettlement : JobSettlement :=
  .retry 60 "storage_upload_cancelled" "storage upload was cancelled" true

/-- The second worker claimed attempt one again and is done. -/
def sampleReplaced : List Action :=
  sampleRefund ++
    [.claim "second" 60 [.uploadStorageAsset] (.uploadStorage 1 1),
      .complete (sampleLease 2 "second")]

/-- The entries of that run before the second claim. -/
def sampleLog : List Entry :=
  [.requeued (sampleLease 1 "first") .recovery (some "storage_upload_cancelled"),
    .granted (sampleLease 1 "first")]

/-- The second worker's completion repeated, and the first worker's settlement
    answered from the row that recovery put back. -/
theorem own_acknowledgements :
    (∃ w w' cause, Run World.step Unrestricted .initial sampleReplaced w ∧
      w.step (.complete (sampleLease 2 "second")) = some w' ∧
      .succeeded (sampleLease 2 "second") cause ∈ w'.log) ∧
    (∃ w owner cause, Run World.step Unrestricted .initial sampleRefund w ∧
      .requeued owner cause (some "storage_upload_cancelled") ∈ w.log ∧
      (owner = sampleLease 1 "first" ∨ GrantedAfter w.log (sampleLease 1 "first") owner)) := by
  constructor
  · obtain ⟨w, w', db, done, reached, known, completed, stepped, log⟩ : ∃ w w' db done,
        exec World.step .initial sampleReplaced = some w ∧
        w.granted (sampleLease 2 "second") ∧
        complete w.db (sampleLease 2 "second") = .ok (db, done) ∧
        w.step (.complete (sampleLease 2 "second")) = some w' ∧
        w.log = [.succeeded (sampleLease 2 "second") .operation,
          .granted (sampleLease 2 "second")] ++ sampleLog :=
      ⟨_, _, _, _, rfl, by decide, rfl, rfl, rfl⟩
    have run := run_of_exec reached
    have last (other : JobLease) : ¬ GrantedAfter w.log (sampleLease 2 "second") other := by
      rw [log]
      simp [GrantedAfter, sampleLog, List.sublist_cons_iff, sampleLease]
    obtain ⟨cause, entry⟩ := (acknowledgements_are_truthful run known).1 db done w' completed
      stepped (fun other after => absurd after (last other))
    exact ⟨w, w', cause, run, stepped, entry⟩
  · obtain ⟨w, db, done, reached, known, settled, lost⟩ : ∃ w db done,
        exec World.step .initial sampleRefund = some w ∧
        w.granted (sampleLease 1 "first") ∧
        settleLease w.db sampleClaimed (sampleLease 1 "first") sampleSettlement =
          .ok (db, done) ∧
        settleFamily w.db (sampleLease 1 "first") sampleClaimed.command sampleSettlement =
          .error .leaseLost := ⟨_, _, _, rfl, by decide, rfl, rfl⟩
    have run := run_of_exec reached
    obtain ⟨owner, cause, entry, -, whose⟩ :=
      (acknowledgements_are_truthful run known).2 sampleClaimed sampleSettlement db done settled lost
    exact ⟨w, owner, cause, run, entry, whose⟩

/-- The first worker is told that it finished what the second one did, and that
    its settlement requeued what recovery did. -/
theorem foreign_acknowledgements :
    (∃ w w' db done, Run World.step Unrestricted .initial sampleReplaced w ∧
      w.granted (sampleLease 1 "first") ∧
      complete w.db (sampleLease 1 "first") = .ok (db, done) ∧
      w.step (.complete (sampleLease 1 "first")) = some w' ∧
      ∀ cause, .succeeded (sampleLease 1 "first") cause ∉ w'.log) ∧
    (∃ w db done, Run World.step Unrestricted .initial sampleRefund w ∧
      w.granted (sampleLease 1 "first") ∧
      settleLease w.db sampleClaimed (sampleLease 1 "first") sampleSettlement = .ok (db, done) ∧
      settleFamily w.db (sampleLease 1 "first") sampleClaimed.command sampleSettlement =
        .error .leaseLost ∧
      ∀ errorClass, .requeued (sampleLease 1 "first") .operation errorClass ∉ w.log) := by
  constructor
  · obtain ⟨w, w', db, done, reached, known, completed, stepped, log⟩ : ∃ w w' db done,
        exec World.step .initial sampleReplaced = some w ∧
        w.granted (sampleLease 1 "first") ∧
        complete w.db (sampleLease 1 "first") = .ok (db, done) ∧
        w.step (.complete (sampleLease 1 "first")) = some w' ∧
        w'.log = [.succeeded (sampleLease 2 "second") .operation,
          .granted (sampleLease 2 "second")] ++ sampleLog :=
      ⟨_, _, _, _, rfl, by decide, rfl, rfl, rfl⟩
    refine ⟨w, w', db, done, run_of_exec reached, known, completed, stepped, ?_⟩
    intro cause
    rw [log]
    simp [sampleLog, sampleLease]
  · obtain ⟨w, db, done, reached, known, settled, lost, log⟩ : ∃ w db done,
        exec World.step .initial sampleRefund = some w ∧
        w.granted (sampleLease 1 "first") ∧
        settleLease w.db sampleClaimed (sampleLease 1 "first") sampleSettlement =
          .ok (db, done) ∧
        settleFamily w.db (sampleLease 1 "first") sampleClaimed.command sampleSettlement =
          .error .leaseLost ∧
        w.log = sampleLog := ⟨_, _, _, rfl, by decide, rfl, rfl, rfl⟩
    refine ⟨w, db, done, run_of_exec reached, known, settled, lost, ?_⟩
    intro errorClass
    rw [log]
    simp [sampleLog]

end Runs
end Sooqa.Jobs
