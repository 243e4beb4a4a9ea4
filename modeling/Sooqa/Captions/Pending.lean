import Sooqa.Captions.Effects

/-!
Who works on a pending caption. A pending row has a job of its generation that
is queued, or runs under an attempt that has not claimed anything yet or goes
back to the queue; a claimed row has the running job of its claim. Two things
break this: a job that ends for good while its caption is still pending, and a
claim by an attempt whose lease is gone.
-/
namespace Sooqa.Captions
open Foundation Queue Library Worker

section Drivers

/-- The attempt has not claimed yet, or has failed. -/
def Attempt.Waiting (attempt : Attempt) : Prop :=
  attempt.phase = .started ∨ ∃ failure, attempt.phase = .returned (.error failure)

/-- The attempt has claimed, and not returned in peace. -/
def Attempt.Busy (attempt : Attempt) : Prop :=
  attempt.phase ≠ .started ∧ attempt.phase ≠ .returned (.ok ())

/-- The job is queued, or runs under an attempt that waits or is gone. -/
def Open (attempts : Table Uuid Attempt) (job : Job) : Prop :=
  job.state = .queued ∨ ∃ columns, job.state = .running columns ∧
    ∀ attempt, attempts.get columns.token = some attempt → attempt.Waiting

def Driver (db : Db) (attempts : Table Uuid Attempt) (m : Uuid) (generation : Nat) : Prop :=
  ∃ after job, db.jobs.get (.syncCaption m generation after) = some job ∧ Open attempts job

/-- The running job of a claim, with its attempt busy or gone. -/
def Owner (db : Db) (attempts : Table Uuid Attempt) (m : Uuid) (generation : Nat)
    (token : Uuid) : Prop :=
  ∃ after job columns, db.jobs.get (.syncCaption m generation after) = some job ∧
    job.state = .running columns ∧ columns.token = token ∧
    ∀ attempt, attempts.get token = some attempt → attempt.Busy

structure Driven (db : Db) (attempts : Table Uuid Attempt) : Prop where
  drawn : ∀ m row, db.media.get m = some row → m < db.fresh
  placed : ∀ m row, db.media.get m = some row → row.storageState = .ready →
    ∃ message, location row = some message
  tokens : ∀ token attempt, attempts.get token = some attempt →
    token < db.fresh ∧ attempt.lease.leaseToken = token ∧
      ∃ after, attempt.lease.jobId.key = .syncCaption attempt.mediaId attempt.generation after
  leases : ∀ m generation after job columns,
    db.jobs.get (.syncCaption m generation after) = some job → job.state = .running columns →
    columns.token < db.fresh
  holds : ∀ m generation after job columns attempt,
    db.jobs.get (.syncCaption m generation after) = some job → job.state = .running columns →
    attempts.get columns.token = some attempt →
    attempt.lease.jobId = job.id ∧ attempt.mediaId = m ∧ attempt.generation = generation
  follows : ∀ m generation after job,
    db.jobs.get (.syncCaption m generation after) = some job →
    (∃ row, db.media.get m = some row ∧ generation ≤ row.captionSyncGeneration) ∧
    ∀ stale token, after = some (stale, token) → token < db.fresh ∧
      ∀ attempt, attempts.get token = some attempt → ∃ result, attempt.phase = .returned result
  pending : ∀ m row, db.media.get m = some row → row.storageState = .ready →
    row.captionSyncState = .pending → Driver db attempts m row.captionSyncGeneration
  syncing : ∀ m row, db.media.get m = some row → row.storageState = .ready →
    row.captionSyncState = .syncing → ∃ token, row.captionSyncClaimToken = some token ∧
      Owner db attempts m row.captionSyncGeneration token

variable {db db' : Db} {attempts attempts' : Table Uuid Attempt} {m : Uuid} {generation : Nat}
  {token : Uuid}

/-- A driver whose row stays, under attempts that only disappear. -/
theorem Driver.kept (h : Driver db attempts m generation)
    (jobs : ∀ after job, db.jobs.get (.syncCaption m generation after) = some job →
      db'.jobs.get (.syncCaption m generation after) = some job)
    (fewer : ∀ token attempt, attempts'.get token = some attempt → attempts.get token = some attempt) :
    Driver db' attempts' m generation := by
  obtain ⟨after, job, found, queued | ⟨columns, running, waiting⟩⟩ := h
  · exact ⟨after, job, jobs after job found, Or.inl queued⟩
  · exact ⟨after, job, jobs after job found, Or.inr ⟨columns, running,
      fun attempt present => waiting attempt (fewer _ attempt present)⟩⟩

theorem Owner.kept (h : Owner db attempts m generation token)
    (jobs : ∀ after job, db.jobs.get (.syncCaption m generation after) = some job →
      db'.jobs.get (.syncCaption m generation after) = some job)
    (fewer : ∀ token attempt, attempts'.get token = some attempt → attempts.get token = some attempt) :
    Owner db' attempts' m generation token := by
  obtain ⟨after, job, columns, found, running, same, busy⟩ := h
  exact ⟨after, job, columns, jobs after job found, running, same,
    fun attempt present => busy attempt (fewer _ attempt present)⟩

/-- Transactions of others keep every driver and open new generations with one. -/
theorem Driven.caption_step {f : Footprint} (inv : Driven db attempts) (step : CaptionStep f db db') :
    Driven db' attempts := by
  have jobs : ∀ m generation after job, db.jobs.get (.syncCaption m generation after) = some job →
      db'.jobs.get (.syncCaption m generation after) = some job := by
    intro m generation after job found
    rcases step.jobs m generation after with same | ⟨absent, -⟩
    · rw [same, found]
    · rw [found] at absent
      cases absent
  -- A job afterwards is an old one, or a queued one of a generation just opened.
  have back : ∀ m generation after job,
      db'.jobs.get (.syncCaption m generation after) = some job →
      db.jobs.get (.syncCaption m generation after) = some job ∨
        (job.state = .queued ∧ after = none ∧
          ∃ row, db'.media.get m = some row ∧ row.captionSyncGeneration = generation) := by
    intro m generation after job found
    rcases step.jobs m generation after with same | ⟨-, first, opened, other, there, queued⟩
    · exact Or.inl (same ▸ found)
    · rw [there] at found
      cases found
      exact Or.inr ⟨queued, first, opened⟩
  have idle : ∀ {job : Job} {columns : LeaseColumns}, job.state = .queued →
      job.state ≠ .running columns := by
    intro job columns queued running
    rw [queued] at running
    cases running
  refine ⟨?_, ?_, ?_, ?_, ?_, ?_, ?_, ?_⟩
  · intro m row found
    rcases (step.rows m).back found with ⟨old, before⟩ | drawn
    · exact lt_of_lt_of_le (inv.drawn m old before) step.fresh
    · exact drawn
  · intro m row found ready
    cases step.rows m with
    | absent before after => rw [after] at found; cases found
    | created row' before after unstored =>
      rw [after] at found
      cases found
      exact absurd ready unstored
    | kept old row' before after keeps =>
      rw [after] at found
      cases found
      obtain ⟨message, there⟩ := inv.placed m old before (keeps.ready ready)
      exact ⟨message, keeps.place.trans there⟩
    | emptied old row' before after _ _ stored =>
      rw [after] at found
      cases found
      obtain ⟨was, nowhere⟩ := stored ready
      obtain ⟨message, there⟩ := inv.placed m old before was
      rw [nowhere] at there
      cases there
    | recaptioned old row' before after _ _ _ _ storage place =>
      rw [after] at found
      cases found
      obtain ⟨message, there⟩ := inv.placed m old before (storage ▸ ready)
      exact ⟨message, place.trans there⟩
    | bumped old row' message before after _ _ place =>
      rw [after] at found
      cases found
      exact ⟨message, place⟩
    | stored old row' message before after _ _ place =>
      rw [after] at found
      cases found
      exact ⟨message, place⟩
  · intro token attempt found
    obtain ⟨drawn, same⟩ := inv.tokens token attempt found
    exact ⟨lt_of_lt_of_le drawn step.fresh, same⟩
  · intro m generation after job columns found running
    rcases back m generation after job found with old | ⟨queued, -⟩
    · exact lt_of_lt_of_le (inv.leases m generation after job columns old running) step.fresh
    · exact absurd running (idle queued)
  · intro m generation after job columns attempt found running present
    rcases back m generation after job found with old | ⟨queued, -⟩
    · exact inv.holds m generation after job columns attempt old running present
    · exact absurd running (idle queued)
  · intro m generation after job found
    rcases back m generation after job found with old | ⟨queued, first, row, there, same⟩
    · obtain ⟨⟨row, present, le⟩, reapply⟩ := inv.follows m generation after job old
      obtain ⟨row', after', grows⟩ := (step.rows m).grows present
      refine ⟨⟨row', after', le_trans le grows⟩, fun stale token same => ?_⟩
      obtain ⟨drawn, done⟩ := reapply stale token same
      exact ⟨lt_of_lt_of_le drawn step.fresh, done⟩
    · refine ⟨⟨row, there, le_of_eq same.symm⟩, fun stale token reapply => ?_⟩
      rw [first] at reapply
      cases reapply
  · intro m row found ready pending
    cases step.rows m with
    | absent before after => rw [after] at found; cases found
    | created row' before after unstored =>
      rw [after] at found
      cases found
      exact absurd ready unstored
    | kept old row' before after keeps =>
      rw [after] at found
      cases found
      rw [keeps.generation]
      exact (inv.pending m old before (keeps.ready ready) (keeps.state ▸ pending)).kept
        (jobs m _) (fun _ _ => id)
    | emptied old row' before after _ state =>
      rw [after] at found
      cases found
      rw [state] at pending
      cases pending
    | recaptioned old row' before after _ same state _ storage =>
      rw [after] at found
      cases found
      rw [same]
      exact (inv.pending m old before (storage ▸ ready) (state ▸ pending)).kept (jobs m _)
        (fun _ _ => id)
    | bumped old row' message before after next _ _ _ job =>
      rw [after] at found
      cases found
      -- No job is ahead of its media, so the key of the next generation is free.
      have free : db.jobs.get (.syncCaption m row.captionSyncGeneration none) = none := by
        cases taken : db.jobs.get (.syncCaption m row.captionSyncGeneration none) with
        | none => rfl
        | some other =>
          obtain ⟨⟨known, present, le⟩, -⟩ := inv.follows m _ none other taken
          rw [before] at present
          cases present
          omega
      obtain ⟨job, there, queued⟩ := job free
      exact ⟨none, job, there, Or.inl queued⟩
    | stored old row' message before after _ state =>
      rw [after] at found
      cases found
      rw [state] at pending
      cases pending
  · intro m row found ready syncing
    cases step.rows m with
    | absent before after => rw [after] at found; cases found
    | created row' before after unstored =>
      rw [after] at found
      cases found
      exact absurd ready unstored
    | kept old row' before after keeps =>
      rw [after] at found
      cases found
      obtain ⟨token, held, owner⟩ := inv.syncing m old before (keeps.ready ready)
        (keeps.state ▸ syncing)
      rw [keeps.generation]
      exact ⟨token, keeps.token.trans held, owner.kept (jobs m _) (fun _ _ => id)⟩
    | recaptioned old row' before after _ same state kept storage =>
      rw [after] at found
      cases found
      obtain ⟨token, held, owner⟩ := inv.syncing m old before (storage ▸ ready) (state ▸ syncing)
      rw [same]
      exact ⟨token, kept.trans held, owner.kept (jobs m _) (fun _ _ => id)⟩
    | emptied old row' before after _ state =>
      rw [after] at found
      cases found
      rw [state] at syncing
      cases syncing
    | bumped old row' message before after _ state =>
      rw [after] at found
      cases found
      rw [state] at syncing
      cases syncing
    | stored old row' message before after _ state =>
      rw [after] at found
      cases found
      rw [state] at syncing
      cases syncing

end Drivers

section Moves
variable {db db' : Db} {attempts : Table Uuid Attempt} {token : Uuid} {attempt : Attempt}

/-- Rows keep their generation and their message, and caption jobs are old ones
    under old tokens: what is left to show is who drives them. -/
theorem Driven.move (inv : Driven db attempts) (fresh : db.fresh ≤ db'.fresh)
    (rows : ∀ m, (db.media.get m = none ∧ db'.media.get m = none) ∨
      ∃ row row', db.media.get m = some row ∧ db'.media.get m = some row' ∧
        row'.captionSyncGeneration = row.captionSyncGeneration ∧
        row'.storageState = row.storageState ∧ location row' = location row)
    (jobs : ∀ m generation after job', db'.jobs.get (.syncCaption m generation after) = some job' →
      ∃ job, db.jobs.get (.syncCaption m generation after) = some job ∧ job'.id = job.id ∧
        ∀ columns', job'.state = .running columns' → ∃ columns, job.state = .running columns ∧
          columns'.token = columns.token)
    (pending : ∀ m row, db'.media.get m = some row → row.storageState = .ready →
      row.captionSyncState = .pending → Driver db' attempts m row.captionSyncGeneration)
    (syncing : ∀ m row, db'.media.get m = some row → row.storageState = .ready →
      row.captionSyncState = .syncing → ∃ token, row.captionSyncClaimToken = some token ∧
        Owner db' attempts m row.captionSyncGeneration token) : Driven db' attempts where
  drawn := by
    intro m row found
    rcases rows m with ⟨-, absent⟩ | ⟨old, row', before, -⟩
    · rw [absent] at found
      cases found
    · exact lt_of_lt_of_le (inv.drawn m old before) fresh
  placed := by
    intro m row found ready
    rcases rows m with ⟨-, absent⟩ | ⟨old, row', before, after, -, storage, place⟩
    · rw [absent] at found
      cases found
    · rw [after] at found
      cases found
      obtain ⟨message, there⟩ := inv.placed m old before (storage ▸ ready)
      exact ⟨message, place.trans there⟩
  tokens := by
    intro token attempt found
    obtain ⟨drawn, rest⟩ := inv.tokens token attempt found
    exact ⟨lt_of_lt_of_le drawn fresh, rest⟩
  leases := by
    intro m generation after job' columns' found running
    obtain ⟨job, old, -, under⟩ := jobs m generation after job' found
    obtain ⟨columns, ran, same⟩ := under columns' running
    rw [same]
    exact lt_of_lt_of_le (inv.leases m generation after job columns old ran) fresh
  holds := by
    intro m generation after job' columns' attempt found running present
    obtain ⟨job, old, id, under⟩ := jobs m generation after job' found
    obtain ⟨columns, ran, same⟩ := under columns' running
    rw [same] at present
    rw [id]
    exact inv.holds m generation after job columns attempt old ran present
  follows := by
    intro m generation after job' found
    obtain ⟨job, old, -⟩ := jobs m generation after job' found
    obtain ⟨⟨row, present, le⟩, reapply⟩ := inv.follows m generation after job old
    refine ⟨?_, fun stale token same => ?_⟩
    · rcases rows m with ⟨absent, -⟩ | ⟨known, row', before, after', same, -⟩
      · rw [absent] at present
        cases present
      · rw [before] at present
        cases present
        exact ⟨row', after', same ▸ le⟩
    · obtain ⟨drawn, done⟩ := reapply stale token same
      exact ⟨lt_of_lt_of_le drawn fresh, done⟩
  pending := pending
  syncing := syncing

/-- An attempt goes on without leaving a pending or claimed caption behind. -/
theorem Driven.advance (inv : Driven db attempts) (found : attempts.get token = some attempt)
    {phase : Phase}
    (drives : ∀ row, db.media.get attempt.mediaId = some row → row.storageState = .ready →
      row.captionSyncState = .pending → row.captionSyncGeneration = attempt.generation →
      attempt.Waiting → ({ attempt with phase := phase } : Attempt).Waiting)
    (owns : ∀ row, db.media.get attempt.mediaId = some row → row.storageState = .ready →
      row.captionSyncState = .syncing → row.captionSyncGeneration = attempt.generation →
      row.captionSyncClaimToken = some token → attempt.Busy →
      ({ attempt with phase := phase } : Attempt).Busy)
    (done : (∃ result, attempt.phase = .returned result) → ∃ result, phase = .returned result) :
    Driven db (attempts.set token { attempt with phase := phase }) := by
  have same : ∀ other attempt', (attempts.set token { attempt with phase := phase }).get other =
      some attempt' → (other = token ∧ attempt' = { attempt with phase := phase }) ∨
        (other ≠ token ∧ attempts.get other = some attempt') := by
    intro other attempt' present
    rw [Table.get_set] at present
    split at present
    · rename_i here
      cases present
      exact Or.inl ⟨here, rfl⟩
    · rename_i there
      exact Or.inr ⟨there, present⟩
  refine ⟨inv.drawn, inv.placed, ?_, inv.leases, ?_, ?_, ?_, ?_⟩
  · intro other attempt' present
    rcases same other attempt' present with ⟨rfl, rfl⟩ | ⟨-, old⟩
    · exact inv.tokens other attempt found
    · exact inv.tokens other attempt' old
  · intro m generation after job columns attempt' there running present
    rcases same _ attempt' present with ⟨here, rfl⟩ | ⟨-, old⟩
    · rw [← here] at found
      exact inv.holds m generation after job columns attempt there running found
    · exact inv.holds m generation after job columns attempt' there running old
  · intro m generation after job there
    obtain ⟨row, reapply⟩ := inv.follows m generation after job there
    refine ⟨row, fun stale other which => ?_⟩
    obtain ⟨drawn, returned⟩ := reapply stale other which
    refine ⟨drawn, fun attempt' present => ?_⟩
    rcases same other attempt' present with ⟨rfl, rfl⟩ | ⟨-, old⟩
    · exact done (returned attempt found)
    · exact returned attempt' old
  · intro m row there ready pending
    obtain ⟨after, job, held, queued | ⟨columns, running, waiting⟩⟩ :=
      inv.pending m row there ready pending
    · exact ⟨after, job, held, Or.inl queued⟩
    · refine ⟨after, job, held, Or.inr ⟨columns, running, fun attempt' present => ?_⟩⟩
      rcases same _ attempt' present with ⟨here, rfl⟩ | ⟨-, old⟩
      · rw [← here] at found
        obtain ⟨-, media, generation⟩ := inv.holds m _ after job columns attempt held running found
        subst media
        exact drives row there ready pending generation.symm (waiting attempt found)
      · exact waiting attempt' old
  · intro m row there ready syncing
    obtain ⟨holder, claim, after, job, columns, held, running, tokens, busy⟩ :=
      inv.syncing m row there ready syncing
    refine ⟨holder, claim, after, job, columns, held, running, tokens, fun attempt' present => ?_⟩
    rcases same _ attempt' present with ⟨here, rfl⟩ | ⟨-, old⟩
    · subst here
      have active := busy attempt found
      rw [← tokens] at found
      obtain ⟨-, media, generation⟩ := inv.holds m _ after job columns attempt held running found
      subst media
      exact owns row there ready syncing generation.symm claim active
    · exact busy attempt' old

theorem Driven.retire (inv : Driven db attempts) (token : Uuid) : Driven db (attempts.remove token) := by
  have fewer : ∀ other attempt, (attempts.remove token).get other = some attempt →
      attempts.get other = some attempt := by
    intro other attempt present
    rw [Table.get_remove] at present
    split at present
    · cases present
    · exact present
  refine ⟨inv.drawn, inv.placed, ?_, inv.leases, ?_, ?_, ?_, ?_⟩
  · exact fun other attempt present => inv.tokens other attempt (fewer other attempt present)
  · exact fun m generation after job columns attempt there running present =>
      inv.holds m generation after job columns attempt there running (fewer _ attempt present)
  · intro m generation after job there
    obtain ⟨row, reapply⟩ := inv.follows m generation after job there
    refine ⟨row, fun stale other which => ?_⟩
    obtain ⟨drawn, returned⟩ := reapply stale other which
    exact ⟨drawn, fun attempt present => returned attempt (fewer other attempt present)⟩
  · exact fun m row there ready pending =>
      (inv.pending m row there ready pending).kept (fun _ _ => id) fewer
  · intro m row there ready syncing
    obtain ⟨holder, claim, owner⟩ := inv.syncing m row there ready syncing
    exact ⟨holder, claim, owner.kept (fun _ _ => id) fewer⟩

/-- The rewrite of the caption columns of one row. -/
theorem Driven.set_row (inv : Driven db attempts) {m : Uuid} {row row' : Media}
    (before : db.media.get m = some row)
    (generation : row'.captionSyncGeneration = row.captionSyncGeneration)
    (storage : row'.storageState = row.storageState) (place : location row' = location row)
    (pending : row'.storageState = .ready → row'.captionSyncState = .pending →
      Driver db attempts m row'.captionSyncGeneration)
    (syncing : row'.storageState = .ready → row'.captionSyncState = .syncing →
      ∃ token, row'.captionSyncClaimToken = some token ∧
        Owner db attempts m row'.captionSyncGeneration token) :
    Driven (setMedia db m row') attempts := by
  refine inv.move le_rfl ?_ ?_ ?_ ?_
  · intro other
    by_cases same : other = m
    · subst same
      exact Or.inr ⟨row, row', before, Table.get_set_self _ _ _, generation, storage, place⟩
    · have kept : (setMedia db m row').media.get other = db.media.get other :=
        Table.get_set_ne _ _ same
      cases found : db.media.get other with
      | none => exact Or.inl ⟨rfl, kept.trans found⟩
      | some old => exact Or.inr ⟨old, old, rfl, kept.trans found, rfl, rfl, rfl⟩
  · exact fun _ _ _ job there => ⟨job, there, rfl, fun columns running => ⟨columns, running, rfl⟩⟩
  · intro other found there ready is
    by_cases same : other = m
    · subst same
      rw [show (setMedia db other row').media.get other = some row' from Table.get_set_self _ _ _]
        at there
      cases there
      exact pending ready is
    · rw [show (setMedia db m row').media.get other = db.media.get other from
        Table.get_set_ne _ _ same] at there
      exact inv.pending other found there ready is
  · intro other found there ready is
    by_cases same : other = m
    · subst same
      rw [show (setMedia db other row').media.get other = some row' from Table.get_set_self _ _ _]
        at there
      cases there
      exact syncing ready is
    · rw [show (setMedia db m row').media.get other = db.media.get other from
        Table.get_set_ne _ _ same] at there
      exact inv.syncing other found there ready is

end Moves

section Conditions

/-- The step asks for the last settlement of a job: a failure with no attempts
    left, or one that is not retried. -/
def Ends (w : World) : Action → Job → Prop
  | .finish token _, job => ∃ attempt failure settlement, w.attempts.get token = some attempt ∧
      attempt.phase = .returned (.error failure) ∧
      finishSettlement w.db.now failure = some settlement ∧ attempt.lease.jobId = job.id ∧
      (queueParameters job settlement).terminal = true
  | .shutdown token _, job => ∃ attempt, w.attempts.get token = some attempt ∧
      attempt.lease.jobId = job.id ∧
      (queueParameters job (shutdownSettlement w.db.now)).terminal = true
  | .recover id _, job => id = job.id ∧ job.maxAttempts ≤ job.attemptCount
  | _, _ => False

/-- A job ends for good while the caption of its generation is still pending. -/
def EndsPending (w : World) (act : Action) : Prop :=
  ∃ job m generation row, w.db.jobs.get job.id.key = some job ∧ Ends w act job ∧
    job.command = .syncStorageCaption m generation ∧ w.db.media.get m = some row ∧
    row.storageState = .ready ∧ row.captionSyncState = .pending ∧
    row.captionSyncGeneration = generation

/-- An attempt claims a caption after its lease was taken from it. -/
def ClaimsUnleased (w : World) (act : Action) : Prop :=
  ∃ token outcome attempt row, act = .call token outcome ∧ w.attempts.get token = some attempt ∧
    attempt.phase = .started ∧ w.db.media.get attempt.mediaId = some row ∧
    Claimable row attempt.generation ∧
    ∀ job, w.db.jobs.get attempt.lease.jobId.key = some job → job.lease ≠ some attempt.lease

end Conditions

section Attempts
variable {db db' : Db} {attempts : Table Uuid Attempt} {token : Uuid} {attempt : Attempt}

theorem Driven.unused (inv : Driven db attempts) : db.media.get db.fresh = none := by
  cases found : db.media.get db.fresh with
  | none => rfl
  | some row => exact absurd (inv.drawn _ row found) (lt_irrefl _)

/-- A caption attempt's job lies under a caption key. -/
theorem key_of_command {job : Job} {m : Uuid} {generation : Nat}
    (command : job.command = .syncStorageCaption m generation) :
    ∃ after, job.id.key = .syncCaption m generation after := by
  have owned := job.owned
  rw [command] at owned
  cases key : job.id.key <;> rw [key] at owned <;> simp [JobKey.owns, JobCommand.jobType] at owned
  obtain ⟨rfl, rfl⟩ := owned
  exact ⟨_, rfl⟩

theorem command_of_key {job : Job} {m : Uuid} {generation : Nat} {after : Option (Nat × Uuid)}
    (key : job.id.key = .syncCaption m generation after) :
    job.command = .syncStorageCaption m generation := by
  have owned := job.owned
  rw [key] at owned
  cases command : job.command <;> rw [command] at owned <;> simp [JobKey.owns] at owned
  obtain ⟨rfl, rfl⟩ := owned
  rfl

theorem get_setMedia_self (db : Db) (m : Uuid) (row : Media) :
    (setMedia db m row).media.get m = some row := Table.get_set_self _ _ _

theorem setMedia_setMedia (db : Db) (m : Uuid) (row row' : Media) :
    setMedia (setMedia db m row) m row' = setMedia db m row' := by
  simp [setMedia, Table.set, AList.insert_insert]

/-- A claim by the attempt that runs the job. -/
theorem Driven.claim_caption (inv : Driven db attempts) (found : attempts.get token = some attempt)
    {row : Media} (there : db.media.get attempt.mediaId = some row)
    (due : Claimable row attempt.generation) {job : Job}
    (running : db.jobs.get attempt.lease.jobId.key = some job) (shows : job.lease = some attempt.lease)
    {phase : Phase} (busy : ({ attempt with phase := phase } : Attempt).Busy)
    (started : attempt.phase = .started) :
    Driven (setMedia db attempt.mediaId (claimedCaption db.now token row))
      (attempts.set token { attempt with phase := phase }) := by
  obtain ⟨-, same, after, key⟩ := inv.tokens token attempt found
  obtain ⟨columns, ran, lease⟩ := Job.lease_eq_some.mp shows
  rw [key] at running
  have held : columns.token = token := by
    rw [← same, lease]
  -- The row and its attempt move at once: over a row that nobody has to drive.
  have aside : Driven (setMedia db attempt.mediaId { row with captionSyncState := .synced })
      attempts := by
    exact inv.set_row there rfl rfl rfl (fun _ is => by cases is) (fun _ is => by cases is)
  have advanced : Driven (setMedia db attempt.mediaId { row with captionSyncState := .synced })
      (attempts.set token { attempt with phase := phase }) := by
    refine aside.advance found ?_ ?_ ?_
    · intro other present _ is
      rw [get_setMedia_self] at present
      cases present
      cases is
    · exact fun _ _ _ _ _ _ _ => busy
    · rintro ⟨result, returned⟩
      rw [started] at returned
      cases returned
  rw [← setMedia_setMedia db attempt.mediaId { row with captionSyncState := .synced }]
  refine advanced.set_row (get_setMedia_self _ _ _) rfl rfl rfl (fun _ is => by cases is) ?_
  intro _ _
  refine ⟨token, rfl, after, job, columns, due.1 ▸ running, ran, held, fun attempt' present => ?_⟩
  rw [Table.get_set_self] at present
  cases present
  exact busy

/-- Queued jobs of generations that are reached, none of them a reapply that is
    still to come. -/
theorem Driven.enqueues (inv : Driven db attempts) {kind : JobKey → Prop} (h : Enqueues kind db db')
    (fits : ∀ m generation after, kind (.syncCaption m generation after) →
      (∃ row, db.media.get m = some row ∧ generation ≤ row.captionSyncGeneration) ∧
      ∀ stale token, after = some (stale, token) → token < db.fresh ∧
        ∀ attempt, attempts.get token = some attempt → ∃ result, attempt.phase = .returned result) :
    Driven db' attempts := by
  have back : ∀ key job, db'.jobs.get key = some job →
      db.jobs.get key = some job ∨ (kind key ∧ job.state = .queued) := by
    intro key job found
    rcases h.rows key with same | ⟨-, right, other, there, queued⟩
    · exact Or.inl (same ▸ found)
    · rw [there] at found
      cases found
      exact Or.inr ⟨right, queued⟩
  refine ⟨?_, ?_, ?_, ?_, ?_, ?_, ?_, ?_⟩
  · intro m row found
    exact lt_of_lt_of_le (inv.drawn m row (h.media ▸ found)) h.fresh
  · intro m row found
    exact inv.placed m row (h.media ▸ found)
  · intro token attempt found
    obtain ⟨drawn, rest⟩ := inv.tokens token attempt found
    exact ⟨lt_of_lt_of_le drawn h.fresh, rest⟩
  · intro m generation after job columns found running
    rcases back _ job found with old | ⟨-, queued⟩
    · exact lt_of_lt_of_le (inv.leases m generation after job columns old running) h.fresh
    · rw [queued] at running
      cases running
  · intro m generation after job columns attempt found running
    rcases back _ job found with old | ⟨-, queued⟩
    · exact inv.holds m generation after job columns attempt old running
    · rw [queued] at running
      cases running
  · intro m generation after job found
    have known : (∃ row, db.media.get m = some row ∧ generation ≤ row.captionSyncGeneration) ∧
        ∀ stale token, after = some (stale, token) → token < db.fresh ∧
          ∀ attempt, attempts.get token = some attempt → ∃ result, attempt.phase = .returned result := by
      rcases back _ job found with old | ⟨right, -⟩
      · exact inv.follows m generation after job old
      · exact fits m generation after right
    refine ⟨h.media ▸ known.1, fun stale token same => ?_⟩
    obtain ⟨drawn, done⟩ := known.2 stale token same
    exact ⟨lt_of_lt_of_le drawn h.fresh, done⟩
  · intro m row found ready pending
    exact (inv.pending m row (h.media ▸ found) ready pending).kept (fun _ _ => h.rows.kept)
      (fun _ _ => id)
  · intro m row found ready syncing
    obtain ⟨token, held, owner⟩ := inv.syncing m row (h.media ▸ found) ready syncing
    exact ⟨token, held, owner.kept (fun _ _ => h.rows.kept) (fun _ _ => id)⟩

theorem Driven.call_begin (inv : Driven db attempts) (found : attempts.get token = some attempt)
    (started : attempt.phase = .started) {outcome : CallOutcome} {phase : Phase}
    (leased : ∀ row, db.media.get attempt.mediaId = some row → Claimable row attempt.generation →
      ∃ job, db.jobs.get attempt.lease.jobId.key = some job ∧ job.lease = some attempt.lease)
    (h : outcome.conclude db .database
      (beginCaptionSync db attempt.mediaId attempt.generation attempt.lease.leaseToken) afterBegin =
      (db', phase)) :
    Driven db' (attempts.set token { attempt with phase := phase }) := by
  have fresh : ¬ ∃ result, attempt.phase = .returned result := by
    rintro ⟨result, returned⟩
    rw [started] at returned
    cases returned
  have failed : ∀ error, Driven db
      (attempts.set token { attempt with phase := afterBegin (.error error) }) := by
    intro error
    refine inv.advance found ?_ ?_ (fun returned => absurd returned fresh)
    · exact fun _ _ _ _ _ _ => Or.inr ⟨_, rfl⟩
    · exact fun _ _ _ _ _ _ _ => ⟨nofun, nofun⟩
  rcases CallOutcome.conclude_cases outcome db .database (beginCaptionSync db attempt.mediaId
    attempt.generation attempt.lease.leaseToken) afterBegin with
    ⟨error, same⟩ | ⟨after, answer, begun, same⟩
  · rw [same] at h
    cases h
    exact failed error
  · obtain ⟨row, there, ⟨undue, rfl, rfl⟩ | ⟨due, message, place, rfl, rfl⟩⟩ := beginCaptionSync_ok begun
    · rcases same with same | same
      · rw [same] at h
        cases h
        refine inv.advance found ?_ ?_ (fun returned => absurd returned fresh)
        · intro other present ready pending generation _
          rw [there] at present
          cases present
          obtain ⟨place, located⟩ := inv.placed _ row there ready
          exact absurd ⟨generation, hasStorageMessage_iff.mpr ⟨ready, place, located⟩, pending⟩ undue
        · intro _ _ _ _ _ _ busy
          exact absurd started busy.1
      · rw [same] at h
        cases h
        exact failed _
    · obtain ⟨job, running, shows⟩ := leased row there due
      have token_eq := (inv.tokens token attempt found).2.1
      rcases same with same | same
      · rw [same] at h
        cases h
        rw [token_eq]
        exact inv.claim_caption found there due running shows ⟨nofun, nofun⟩ started
      · rw [same] at h
        cases h
        rw [token_eq]
        exact inv.claim_caption found there due running shows ⟨nofun, nofun⟩ started

/-- A report of an older generation: the row is pending again, with a job for it. -/
theorem Driven.reopen (inv : Driven db attempts) (found : attempts.get token = some attempt)
    (unfinished : ¬ ∃ result, attempt.phase = .returned result) (idle : ¬ attempt.Waiting)
    {row : Media} (there : db.media.get attempt.mediaId = some row)
    (other : row.captionSyncGeneration ≠ attempt.generation)
    (result : Except HandlerFailure Unit) :
    Driven (enqueueCaptionSyncReapplyJob (setMedia db attempt.mediaId (reopenedCaption db.now row))
        attempt.mediaId row.captionSyncGeneration attempt.generation token)
      (attempts.set token { attempt with phase := .returned result }) := by
  have drawn := (inv.tokens token attempt found).1
  have advanced : Driven db (attempts.set token { attempt with phase := .returned result }) := by
    refine inv.advance found ?_ ?_ (fun _ => ⟨result, rfl⟩)
    · exact fun _ _ _ _ _ waiting => absurd waiting idle
    · intro known here _ _ generation
      rw [there] at here
      cases here
      exact absurd generation other
  have free : db.jobs.get (.syncCaption attempt.mediaId row.captionSyncGeneration
      (some (attempt.generation, token))) = none := by
    cases taken : db.jobs.get (.syncCaption attempt.mediaId row.captionSyncGeneration
      (some (attempt.generation, token))) with
    | none => rfl
    | some job =>
      obtain ⟨-, done⟩ := inv.follows _ _ _ job taken
      exact absurd ((done _ _ rfl).2 attempt found) unfinished
  have enqueued : Driven (enqueueCaptionSyncReapplyJob db attempt.mediaId
      row.captionSyncGeneration attempt.generation token)
      (attempts.set token { attempt with phase := .returned result }) := by
    refine advanced.enqueues (show Enqueues (· = .syncCaption attempt.mediaId
      row.captionSyncGeneration (some (attempt.generation, token))) db _ from .of_enqueue rfl) ?_
    rintro m generation after same
    cases same
    refine ⟨⟨row, there, le_rfl⟩, fun stale holder same => ?_⟩
    cases same
    refine ⟨drawn, fun attempt' now => ?_⟩
    rw [Table.get_set_self] at now
    cases now
    exact ⟨result, rfl⟩
  refine enqueued.set_row there rfl rfl rfl ?_ (fun _ is => by cases is)
  intro _ _
  have queued := Db.enqueue_jobs_get db (.syncCaption attempt.mediaId row.captionSyncGeneration
    (some (attempt.generation, token)))
    (.syncStorageCaption attempt.mediaId row.captionSyncGeneration) (by simp [JobKey.owns]) db.now 3
    (.syncCaption attempt.mediaId row.captionSyncGeneration (some (attempt.generation, token)))
  rw [if_pos rfl, free] at queued
  exact ⟨some (attempt.generation, token), _, queued, Or.inl rfl⟩

/-- A report of the current claim: the row moves before its attempt returns in
    peace, and after it returns with a failure. -/
theorem Driven.settle_claim (inv : Driven db attempts) (found : attempts.get token = some attempt)
    (unfinished : ¬ ∃ result, attempt.phase = .returned result) (idle : ¬ attempt.Waiting)
    {row : Media} (there : db.media.get attempt.mediaId = some row)
    (held : Held row attempt.generation token) {succeeded retryable : Bool}
    {errorMessage : Option String} {result : Except HandlerFailure Unit}
    (peace : result = .ok () → succeeded = true) :
    Driven (setMedia db attempt.mediaId
        (reportedCaption db.now succeeded retryable errorMessage row))
      (attempts.set token { attempt with phase := .returned result }) := by
  obtain ⟨same, present, syncing, claim⟩ := held
  have ready := (hasStorageMessage_iff.mp present).1
  cases succeeded with
  | true =>
    have synced : Driven (setMedia db attempt.mediaId
        (reportedCaption db.now true retryable errorMessage row)) attempts :=
      inv.set_row there rfl rfl rfl (fun _ is => by cases is) (fun _ is => by cases is)
    refine synced.advance found ?_ ?_ (fun returned => absurd returned unfinished)
    · exact fun _ _ _ _ _ waiting => absurd waiting idle
    · intro known here _ is
      rw [get_setMedia_self] at here
      cases here
      cases is
  | false =>
    obtain ⟨failure, rfl⟩ : ∃ failure, result = .error failure := by
      cases result with
      | error failure => exact ⟨failure, rfl⟩
      | ok _ => cases peace rfl
    have advanced : Driven db
        (attempts.set token { attempt with phase := .returned (.error failure) }) := by
      refine inv.advance found ?_ ?_ (fun returned => absurd returned unfinished)
      · exact fun _ _ _ _ _ waiting => absurd waiting idle
      · exact fun _ _ _ _ _ _ _ => ⟨nofun, nofun⟩
    refine advanced.set_row there rfl rfl rfl ?_ ?_
    · intro _ _
      obtain ⟨holder, shown, after, job, columns, running, ran, tokens, -⟩ :=
        inv.syncing _ row there ready syncing
      rw [claim] at shown
      cases shown
      refine ⟨after, job, running, Or.inr ⟨columns, ran, fun attempt' now => ?_⟩⟩
      rw [tokens, Table.get_set_self] at now
      cases now
      exact Or.inr ⟨failure, rfl⟩
    · intro _ is
      simp only [reportedCaption, Bool.false_eq_true, if_false] at is
      split at is <;> cases is

theorem Driven.call_complete (inv : Driven db attempts) (found : attempts.get token = some attempt)
    {succeeded retryable : Bool} {message : String}
    (completing : attempt.phase = .completing succeeded retryable message) {outcome : CallOutcome}
    {errorMessage : Option String} {phase : Phase}
    (h : outcome.conclude db .database
      (completeCaptionSync db attempt.mediaId attempt.generation attempt.lease.leaseToken succeeded
        retryable errorMessage) (afterComplete succeeded retryable message) = (db', phase)) :
    Driven db' (attempts.set token { attempt with phase := phase }) := by
  have idle : ¬ attempt.Waiting := by
    rintro (started | ⟨failure, returned⟩)
    · rw [completing] at started
      cases started
    · rw [completing] at returned
      cases returned
  have unfinished : ¬ ∃ result, attempt.phase = .returned result := by
    rintro ⟨result, returned⟩
    rw [completing] at returned
    cases returned
  have token_eq := (inv.tokens token attempt found).2.1
  rcases CallOutcome.conclude_cases outcome db .database (completeCaptionSync db attempt.mediaId
    attempt.generation attempt.lease.leaseToken succeeded retryable errorMessage)
    (afterComplete succeeded retryable message) with ⟨error, same⟩ | ⟨after, answer, reported, same⟩
  · rw [same] at h
    cases h
    refine inv.advance found ?_ ?_ (fun returned => absurd returned unfinished)
    · exact fun _ _ _ _ _ waiting => absurd waiting idle
    · exact fun _ _ _ _ _ _ _ => ⟨nofun, nofun⟩
  · -- Either way the attempt has returned, in peace only after a success.
    obtain ⟨result, rfl, rfl, peace⟩ : ∃ result, db' = after ∧ phase = .returned result ∧
        (result = .ok () → succeeded = true) := by
      rcases same with same | same
      · rw [same] at h
        cases h
        refine ⟨_, rfl, rfl, fun ok => ?_⟩
        by_contra failure
        rw [if_neg failure] at ok
        cases ok
      · rw [same] at h
        cases h
        exact ⟨_, rfl, rfl, nofun⟩
    rw [token_eq] at reported
    obtain ⟨row, there, ⟨unheld, rfl⟩ | ⟨other, -, rfl⟩ | ⟨held, rfl⟩⟩ :=
      completeCaptionSync_ok reported
    · refine inv.advance found ?_ ?_ (fun _ => ⟨result, rfl⟩)
      · exact fun _ _ _ _ _ waiting => absurd waiting idle
      · intro known here ready syncing generation claim _
        rw [there] at here
        cases here
        obtain ⟨place, located⟩ := inv.placed _ row there ready
        exact absurd ⟨generation, hasStorageMessage_iff.mpr ⟨ready, place, located⟩, syncing, claim⟩
          unheld
    · exact inv.reopen found unfinished idle there other result
    · exact inv.settle_claim found unfinished idle there held peace

end Attempts

section Queue
variable {db : Db} {attempts : Table Uuid Attempt} {token : Uuid} {attempt : Attempt}

/-- Rows of a table, unchanged by a transaction of the queue. -/
theorem same_rows (db : Db) (jobs : Jobs) (m : Uuid) :
    (db.media.get m = none ∧ ({ db with jobs := jobs } : Db).media.get m = none) ∨
      ∃ row row', db.media.get m = some row ∧
        ({ db with jobs := jobs } : Db).media.get m = some row' ∧
        row'.captionSyncGeneration = row.captionSyncGeneration ∧
        row'.storageState = row.storageState ∧ location row' = location row := by
  cases found : db.media.get m with
  | none => exact Or.inl ⟨rfl, rfl⟩
  | some row => exact Or.inr ⟨row, row, rfl, rfl, rfl, rfl, rfl⟩

/-- One row of the queue is rewritten under its old token, if it still runs. -/
theorem put_jobs {job job' : Job} (found : db.jobs.get job'.id.key = some job) (id : job'.id = job.id)
    (under : ∀ columns', job'.state = .running columns' → ∃ columns, job.state = .running columns ∧
      columns'.token = columns.token) {key : JobKey} {written : Job}
    (there : (db.jobs.put job').get key = some written) :
    ∃ job, db.jobs.get key = some job ∧ written.id = job.id ∧
      ∀ columns', written.state = .running columns' → ∃ columns, job.state = .running columns ∧
        columns'.token = columns.token := by
  rw [Jobs.get_put] at there
  split at there
  · rename_i same
    cases there
    exact ⟨job, same ▸ found, id, under⟩
  · exact ⟨written, there, rfl, fun columns running => ⟨columns, running, rfl⟩⟩

/-- A rewrite that leaves the job as good a driver as it was. -/
theorem Driven.put (inv : Driven db attempts) (job : Job) {job' : Job}
    (found : db.jobs.get job'.id.key = some job) (id : job'.id = job.id)
    (under : ∀ columns', job'.state = .running columns' → ∃ columns, job.state = .running columns ∧
      columns'.token = columns.token)
    (drives : Open attempts job → Open attempts job')
    (owns : ∀ columns, job.state = .running columns →
      (∀ attempt, attempts.get columns.token = some attempt → attempt.Busy) →
      ∃ columns', job'.state = .running columns' ∧ columns'.token = columns.token) :
    Driven { db with jobs := db.jobs.put job' } attempts := by
  refine inv.move le_rfl (same_rows db _) (fun _ _ _ _ => put_jobs found id under) ?_ ?_
  · intro m row there ready pending
    obtain ⟨after, driver, held, isOpen⟩ := inv.pending m row there ready pending
    by_cases same : JobKey.syncCaption m row.captionSyncGeneration after = job'.id.key
    · rw [same, found] at held
      cases held
      exact ⟨after, job', by rw [same]; exact Jobs.get_put_self _ _, drives isOpen⟩
    · exact ⟨after, driver, (Jobs.get_put_ne _ same).trans held, isOpen⟩
  · intro m row there ready syncing
    obtain ⟨holder, claim, after, driver, columns, held, running, tokens, busy⟩ :=
      inv.syncing m row there ready syncing
    refine ⟨holder, claim, after, ?_⟩
    by_cases same : JobKey.syncCaption m row.captionSyncGeneration after = job'.id.key
    · rw [same, found] at held
      cases held
      obtain ⟨columns', ran, kept⟩ := owns columns running (tokens ▸ busy)
      exact ⟨job', columns', by rw [same]; exact Jobs.get_put_self _ _, ran, kept.trans tokens, busy⟩
    · exact ⟨driver, columns, (Jobs.get_put_ne _ same).trans held, running, tokens, busy⟩

theorem Driven.heartbeat (inv : Driven db attempts) {lease : JobLease} {leaseDuration : Time}
    {jobs : Jobs} {renewed : Job}
    (h : heartbeatLease db.jobs db.now lease leaseDuration = .ok (jobs, renewed)) :
    Driven { db with jobs := jobs } attempts := by
  obtain ⟨job, found, id, held, row, table⟩ := heartbeatLease_ok h
  obtain ⟨columns, running, -, token, -⟩ := heldBy_eq_true.mp held
  subst table row
  rw [← id] at found
  refine inv.put job found rfl ?_ ?_ ?_
  · intro columns' ran
    cases ran
    exact ⟨columns, running, token.symm⟩
  · rintro (queued | ⟨others, ran, waiting⟩)
    · rw [queued] at running
      cases running
    · rw [running] at ran
      cases ran
      exact Or.inr ⟨_, rfl, by rw [← token]; exact waiting⟩
  · intro others ran _
    rw [running] at ran
    cases ran
    exact ⟨_, rfl, token.symm⟩

/-- An attempt that returned in peace drives nothing, so its job may succeed. -/
theorem Driven.complete (inv : Driven db attempts) (found : attempts.get token = some attempt)
    (peace : attempt.phase = .returned (.ok ())) {jobs : Jobs} {done : Job}
    (h : completeLease db.jobs db.now attempt.lease = .ok (jobs, done)) :
    Driven { db with jobs := jobs } attempts := by
  rcases completeLease_ok h with same | ⟨job, there, id, held, table⟩
  · rw [same]
    exact inv
  · obtain ⟨columns, running, -, token_eq, -⟩ := heldBy_eq_true.mp held
    have mine : attempts.get columns.token = some attempt := by
      rw [token_eq, (inv.tokens token attempt found).2.1]
      exact found
    subst table
    rw [← id] at there
    refine inv.put job there rfl nofun ?_ ?_
    · rintro (queued | ⟨others, ran, waiting⟩)
      · rw [queued] at running
        cases running
      · rw [running] at ran
        cases ran
        rcases waiting attempt mine with started | ⟨failure, failed⟩
        · rw [peace] at started
          cases started
        · rw [peace] at failed
          cases failed
    · intro others ran busy
      rw [running] at ran
      cases ran
      exact absurd peace (busy attempt mine).2

theorem releasedCaption_same (now : Time) (generation : Nat) (terminal : Bool) (error : String)
    (row : Media) :
    (releasedCaption now generation terminal error row).captionSyncGeneration =
        row.captionSyncGeneration ∧
      (releasedCaption now generation terminal error row).storageState = row.storageState ∧
      location (releasedCaption now generation terminal error row) = location row := by
  unfold releasedCaption
  split <;> exact ⟨rfl, rfl, rfl⟩

/-- A job goes back to the queue, or ends: its claimed caption goes with it, and
    a pending one needs it to go back. -/
theorem Driven.release (inv : Driven db attempts) {job : Job} {m : Uuid} {generation : Nat}
    (found : db.jobs.get job.id.key = some job)
    (command : job.command = .syncStorageCaption m generation) {update : QueueUpdate}
    (state : update.state = if update.terminal then .failed else .queued)
    (clear : update.terminal = true → ∀ row, db.media.get m = some row →
      row.storageState = .ready → row.captionSyncState = .pending →
      row.captionSyncGeneration ≠ generation) (error : String) :
    Driven { releaseCaption db m generation update.terminal error with
      jobs := db.jobs.put (job.settled db.now update) } attempts := by
  obtain ⟨after, key⟩ := key_of_command command
  have written : (db.jobs.put (job.settled db.now update)).get (.syncCaption m generation after) =
      some (job.settled db.now update) := by
    rw [← key]
    exact Jobs.get_put_self _ _
  have others : ∀ k, k ≠ JobKey.syncCaption m generation after →
      (db.jobs.put (job.settled db.now update)).get k = db.jobs.get k := by
    intro k ne
    rw [← key] at ne
    exact Jobs.get_put_ne _ ne
  -- Not terminal, the job is queued and drives the row of its generation.
  have driver : update.terminal = false → Driver
      { releaseCaption db m generation update.terminal error with
        jobs := db.jobs.put (job.settled db.now update) } attempts m generation := by
    intro goes
    refine ⟨after, _, written, Or.inl ?_⟩
    rw [goes] at state
    exact state
  have rowOf : ∀ m' row', (releaseCaption db m generation update.terminal error).media.get m' =
      some row' → ∃ row, db.media.get m' = some row ∧
        row' = if m' = m then releasedCaption db.now generation update.terminal error row else row := by
    intro m' row' there
    rw [get_releaseCaption, Option.map_eq_some_iff] at there
    obtain ⟨row, before, same⟩ := there
    exact ⟨row, before, same.symm⟩
  refine inv.move (by simp) ?_ ?_ ?_ ?_
  · intro m'
    cases before : db.media.get m' with
    | none =>
      refine Or.inl ⟨rfl, ?_⟩
      show (releaseCaption db m generation update.terminal error).media.get m' = none
      rw [get_releaseCaption, before]
      rfl
    | some row =>
      refine Or.inr ⟨row, _, rfl, by
        show (releaseCaption db m generation update.terminal error).media.get m' = _
        rw [get_releaseCaption, before]
        rfl, ?_⟩
      split
      · exact releasedCaption_same _ _ _ _ row
      · exact ⟨rfl, rfl, rfl⟩
  · intro m' generation' after' job' there
    refine put_jobs (show db.jobs.get (job.settled db.now update).id.key = some job from found) rfl ?_
      there
    intro columns running
    have ended : update.state = .running columns := running
    rw [state] at ended
    split at ended <;> cases ended
  · intro m' row' there ready pending
    obtain ⟨row, before, rfl⟩ := rowOf m' row' there
    by_cases mine : m' = m
    · subst mine
      rw [if_pos rfl] at ready pending ⊢
      obtain ⟨same, storage, -⟩ := releasedCaption_same db.now generation update.terminal error row
      rw [same]
      rw [storage] at ready
      by_cases claimed : row.captionSyncGeneration = generation ∧ row.captionSyncState = .syncing
      · cases terminal : update.terminal with
        | true =>
          rw [releasedCaption, if_pos claimed, terminal] at pending
          cases pending
        | false =>
          rw [claimed.1, ← terminal]
          exact driver terminal
      · rw [releasedCaption, if_neg claimed] at pending
        by_cases current : row.captionSyncGeneration = generation
        · cases terminal : update.terminal with
          | true => exact absurd current (clear terminal row before ready pending)
          | false =>
            rw [current, ← terminal]
            exact driver terminal
        · obtain ⟨held, other, there, isOpen⟩ := inv.pending m' row before ready pending
          refine ⟨held, other, ?_, isOpen⟩
          show (db.jobs.put (job.settled db.now update)).get _ = _
          rw [others _ (fun same => current (by cases same; rfl)), there]
    · rw [if_neg mine] at ready pending ⊢
      obtain ⟨held, other, there, isOpen⟩ := inv.pending m' row before ready pending
      refine ⟨held, other, ?_, isOpen⟩
      show (db.jobs.put (job.settled db.now update)).get _ = _
      rw [others _ (fun same => mine (by cases same; rfl)), there]
  · intro m' row' there ready syncing
    obtain ⟨row, before, rfl⟩ := rowOf m' row' there
    have apart : ¬ (m' = m ∧ row.captionSyncGeneration = generation) := by
      rintro ⟨mine, current⟩
      rw [if_pos mine, releasedCaption] at syncing
      split at syncing
      · dsimp only at syncing
        split at syncing <;> cases syncing
      · rename_i idle
        exact idle ⟨current, syncing⟩
    have unchanged : (if m' = m then releasedCaption db.now generation update.terminal error row
        else row) = row := by
      split
      · rename_i mine
        rw [releasedCaption, if_neg (fun claimed => apart ⟨mine, claimed.1⟩)]
      · rfl
    rw [unchanged] at ready syncing ⊢
    obtain ⟨holder, claim, held, driver, columns, there, running, tokens, busy⟩ :=
      inv.syncing m' row before ready syncing
    refine ⟨holder, claim, held, driver, columns, ?_, running, tokens, busy⟩
    show (db.jobs.put (job.settled db.now update)).get _ = _
    rw [others _ (fun same => apart (by cases same; exact ⟨rfl, rfl⟩)), there]

/-- A queued job is claimed under a token nobody has, by an attempt that waits. -/
theorem Driven.claim (inv : Driven db attempts) {job : Job} {m : Uuid} {generation : Nat}
    (found : db.jobs.get job.id.key = some job) (queued : job.state = .queued)
    (command : job.command = .syncStorageCaption m generation) {claimed : Job}
    {columns : LeaseColumns} (id : claimed.id = job.id) (ran : claimed.state = .running columns)
    (fresh : columns.token = db.fresh) {attempt : Attempt}
    (lease : attempt.lease.jobId = job.id ∧ attempt.lease.leaseToken = db.fresh)
    (works : attempt.mediaId = m ∧ attempt.generation = generation ∧ attempt.phase = .started) :
    Driven { db with jobs := db.jobs.put claimed, fresh := db.fresh + 1 }
      (attempts.set db.fresh attempt) := by
  obtain ⟨after, key⟩ := key_of_command command
  have here : claimed.id.key = .syncCaption m generation after := by rw [id, key]
  have get : ∀ k, (db.jobs.put claimed).get k =
      if k = .syncCaption m generation after then some claimed else db.jobs.get k := by
    intro k
    rw [Jobs.get_put, here]
  -- Every other token is older, so nobody else's attempt is replaced.
  have older : ∀ {m generation after job columns},
      db.jobs.get (.syncCaption m generation after) = some job → job.state = .running columns →
      columns.token ≠ db.fresh := fun there running same =>
    absurd (same ▸ inv.leases _ _ _ _ _ there running) (lt_irrefl _)
  have jobOf : ∀ k written, (db.jobs.put claimed).get k = some written →
      (k = .syncCaption m generation after ∧ written = claimed) ∨
        (k ≠ .syncCaption m generation after ∧ db.jobs.get k = some written) := by
    intro k written there
    rw [get] at there
    split at there
    · rename_i same
      cases there
      exact Or.inl ⟨same, rfl⟩
    · rename_i other
      exact Or.inr ⟨other, there⟩
  refine ⟨?_, inv.placed, ?_, ?_, ?_, ?_, ?_, ?_⟩
  · exact fun m row there => Nat.lt_succ_of_lt (inv.drawn m row there)
  · intro token other there
    rw [Table.get_set] at there
    split at there
    · rename_i same
      cases there
      rw [same]
      exact ⟨Nat.lt_succ_self _, lease.2, after, by rw [lease.1, key, works.1, works.2.1]⟩
    · obtain ⟨drawn, rest⟩ := inv.tokens token other there
      exact ⟨Nat.lt_succ_of_lt drawn, rest⟩
  · intro m' generation' after' written columns' there running
    rcases jobOf _ written there with ⟨-, rfl⟩ | ⟨-, old⟩
    · rw [ran] at running
      cases running
      rw [fresh]
      exact Nat.lt_succ_self _
    · exact Nat.lt_succ_of_lt (inv.leases m' generation' after' written columns' old running)
  · intro m' generation' after' written columns' other there running present
    rcases jobOf _ written there with ⟨same, rfl⟩ | ⟨-, old⟩
    · cases same
      rw [ran] at running
      cases running
      rw [fresh, Table.get_set_self] at present
      cases present
      exact ⟨by rw [id]; exact lease.1, works.1, works.2.1⟩
    · rw [Table.get_set_ne _ _ (older old running)] at present
      exact inv.holds m' generation' after' written columns' other old running present
  · intro m' generation' after' written there
    have known : ∃ job, db.jobs.get (.syncCaption m' generation' after') = some job := by
      rcases jobOf _ written there with ⟨same, -⟩ | ⟨-, old⟩
      · exact ⟨job, by rw [same, ← key]; exact found⟩
      · exact ⟨written, old⟩
    obtain ⟨old, present⟩ := known
    obtain ⟨row, reapply⟩ := inv.follows m' generation' after' old present
    refine ⟨row, fun stale token same => ?_⟩
    obtain ⟨drawn, done⟩ := reapply stale token same
    refine ⟨Nat.lt_succ_of_lt drawn, fun other there => ?_⟩
    rw [Table.get_set_ne _ _ (Nat.ne_of_lt drawn)] at there
    exact done other there
  · intro m' row there ready pending
    obtain ⟨held, driver, present, isOpen⟩ := inv.pending m' row there ready pending
    by_cases same : JobKey.syncCaption m' row.captionSyncGeneration held = .syncCaption m generation after
    · refine ⟨held, claimed, by rw [get, if_pos same], Or.inr ⟨columns, ran, fun other now => ?_⟩⟩
      rw [fresh, Table.get_set_self] at now
      cases now
      exact Or.inl works.2.2
    · refine ⟨held, driver, by rw [get, if_neg same, present], ?_⟩
      rcases isOpen with idle | ⟨others, running, waiting⟩
      · exact Or.inl idle
      · refine Or.inr ⟨others, running, fun other now => ?_⟩
        rw [Table.get_set_ne _ _ (older present running)] at now
        exact waiting other now
  · intro m' row there ready syncing
    obtain ⟨holder, claim, held, driver, others, present, running, tokens, busy⟩ :=
      inv.syncing m' row there ready syncing
    have apart : JobKey.syncCaption m' row.captionSyncGeneration held ≠
        .syncCaption m generation after := by
      intro same
      rw [same, ← key, found] at present
      cases present
      rw [queued] at running
      cases running
    refine ⟨holder, claim, held, driver, others, by rw [get, if_neg apart, present], running, tokens,
      fun other now => ?_⟩
    rw [← tokens, Table.get_set_ne _ _ (older present running), tokens] at now
    exact busy other now

/-- A job that is over is pruned. -/
theorem Driven.prune (inv : Driven db attempts) {key : JobKey} {job : Job}
    (found : db.jobs.get key = some job) (ended : job.state.live = false) :
    Driven { db with jobs := db.jobs.delete key } attempts := by
  have kept : ∀ k other, db.jobs.get k = some other → other.state.live = true →
      (db.jobs.delete key).get k = some other := by
    intro k other there live
    rw [Jobs.get_delete, if_neg ?_, there]
    rintro rfl
    rw [found] at there
    cases there
    rw [ended] at live
    cases live
  refine inv.move le_rfl (same_rows db _) ?_ ?_ ?_
  · intro m generation after written there
    rw [show ({ db with jobs := db.jobs.delete key } : Db).jobs = db.jobs.delete key from rfl,
      Jobs.get_delete] at there
    split at there
    · cases there
    · exact ⟨written, there, rfl, fun columns running => ⟨columns, running, rfl⟩⟩
  · intro m row there ready pending
    obtain ⟨after, driver, present, isOpen⟩ := inv.pending m row there ready pending
    refine ⟨after, driver, kept _ driver present ?_, isOpen⟩
    rcases isOpen with queued | ⟨columns, running, -⟩
    · rw [queued]
      rfl
    · rw [running]
      rfl
  · intro m row there ready syncing
    obtain ⟨holder, claim, after, driver, columns, present, running, rest⟩ :=
      inv.syncing m row there ready syncing
    exact ⟨holder, claim, after, driver, columns, kept _ driver present (by rw [running]; rfl),
      running, rest⟩

end Queue

section Runs
variable {w w' : World}

/-- The settlement of an attempt, unless it ends a job that is still needed. -/
theorem Driven.settle {db : Db} {attempts : Table Uuid Attempt} {attempt : Attempt}
    {settlement : JobSettlement} (inv : Driven db attempts)
    (clear : ∀ job m generation row, db.jobs.get job.id.key = some job →
      attempt.lease.jobId = job.id → (queueParameters job settlement).terminal = true →
      job.command = .syncStorageCaption m generation → db.media.get m = some row →
      row.storageState = .ready → row.captionSyncState = .pending →
      row.captionSyncGeneration ≠ generation) :
    Driven (attempt.settle db settlement) attempts := by
  unfold Attempt.settle
  rcases committed_cases db (settleCaptionJob db attempt.lease attempt.command settlement) with
    same | ⟨answer, ok⟩
  · rw [same]
    exact inv
  · obtain ⟨job, m, generation, found, shows, command, error, after⟩ := settleCaptionJob_ok ok
    rw [after]
    obtain ⟨columns, -, lease⟩ := Job.lease_eq_some.mp shows
    have id : attempt.lease.jobId = job.id := by rw [lease]
    rw [id] at found
    exact inv.release found command (queueParameters_state job settlement)
      (fun terminal row => clear job m generation row found id terminal command) error

theorem Driven.step (inv : Driven w.db w.attempts) {act : Action} (kept : ¬ EndsPending w act)
    (leased : ¬ ClaimsUnleased w act) (h : step w act = some w') : Driven w'.db w'.attempts := by
  cases act with
  | resolveMedia ingest =>
    cases h
    exact inv.caption_step (.of_committed (fun _ _ h => resolveMedia_step inv.unused h))
  | identifyVideo ingest fingerprint decision forceSave =>
    cases h
    exact inv.caption_step (.of_committed (fun _ _ h => persistVideoIdentity_step inv.unused h))
  | acceptDuplicate id mediaId =>
    cases h
    exact inv.caption_step (.of_committed (fun _ _ h => acceptDuplicate_step h))
  | updateMedia id update =>
    cases h
    exact inv.caption_step (.of_committed (fun _ _ h => updateMedia_step h))
  | retryCaptionSync id =>
    cases h
    exact inv.caption_step (.of_committed (fun _ _ h => retryCaptionSync_step h))
  | reserveUpload mediaId generation =>
    cases h
    simp only [reserveUpload]
    split
    · rename_i reserved
      exact inv.caption_step (untouched_step (reserveStorageUpload_untouched reserved))
    · exact inv
  | renewUpload mediaId ownerToken =>
    cases h
    exact inv.caption_step
      (untouched_step (.of_committed (fun _ _ h => renewStorageUpload_untouched h)))
  | releaseUpload mediaId ownerToken =>
    cases h
    exact inv.caption_step
      (untouched_step (.of_committed (fun _ _ h => releaseStorageUpload_untouched h)))
  | sendMessage ownerToken message =>
    simp only [Captions.step, sendMessage] at h
    split at h
    · split at h
      · cases h
        exact inv
      · cases h
    · cases h
  | completeUpload ownerToken fileId uniqueId =>
    simp only [Captions.step, completeUpload] at h
    split at h
    · cases h
      exact inv.caption_step (.of_committed (fun _ _ h => completeStorageUpload_step h))
    · cases h
  | postMessage message caption =>
    simp only [Captions.step, Option.ite_none_right_eq_some, Option.some.injEq] at h
    obtain ⟨-, rfl⟩ := h
    exact inv
  | attachUpload mediaId generation message fileId uniqueId =>
    simp only [Captions.step, attachUpload] at h
    split at h
    · cases h
    · split at h
      · cases h
        exact inv
      · rename_i attached
        cases h
        exact inv.caption_step (attachStorageUpload_step attached)
  | storage call =>
    simp only [Captions.step, Option.ite_none_right_eq_some, Option.some.injEq] at h
    obtain ⟨keeps, rfl⟩ := h
    exact inv.caption_step (storageCall_step keeps)
  | beginCleanup lease ingestId workspaceId =>
    cases h
    exact inv.caption_step
      (untouched_step (.of_committed (fun _ _ h => beginWorkspaceCleanup_untouched h)))
  | claimJob worker leaseDuration key =>
    simp only [Captions.step, claimJob] at h
    split at h
    · rename_i jobs job claimed
      obtain ⟨old, found, queued, -, -, row, table⟩ := claimNext_ok claimed
      split at h
      · rename_i lease m generation shows command
        cases h
        have same : old.id.key = key := w.db.jobs.get_key found
        rw [← same] at found
        subst table row
        obtain ⟨columns, running, lease_eq⟩ := Job.lease_eq_some.mp shows
        cases running
        subst lease_eq
        refine inv.claim found queued command ?_ (show _ = JobState.running
          ⟨w.db.fresh, worker, w.db.now + leaseDuration, w.db.now⟩ from rfl) rfl ?_ ?_
        · rfl
        · exact ⟨rfl, rfl⟩
        · exact ⟨rfl, rfl, rfl⟩
      · cases h
    · cases h
  | heartbeat token leaseDuration =>
    simp only [Captions.step, Option.bind_eq_bind, Option.bind_eq_some_iff] at h
    obtain ⟨attempt, found, h⟩ := h
    split at h
    · rename_i renewed
      cases h
      exact inv.heartbeat renewed
    · cases h
      exact inv
  | call token outcome =>
    simp only [Captions.step, Option.bind_eq_bind, Option.bind_eq_some_iff] at h
    obtain ⟨attempt, found, ⟨db, phase⟩, called, h⟩ := h
    cases h
    unfold Attempt.call at called
    split at called
    · rename_i started
      simp only [Option.some.injEq] at called
      refine inv.call_begin found started ?_ called
      intro row there due
      by_contra missing
      refine leased ⟨token, outcome, attempt, row, rfl, found, started, there, due, ?_⟩
      intro job present shows
      exact missing ⟨job, present, shows⟩
    · rename_i completing
      simp only [Option.some.injEq] at called
      exact inv.call_complete found completing called
    · cases called
  | sendEdit token =>
    simp only [Captions.step, Option.bind_eq_bind, Option.bind_eq_some_iff] at h
    obtain ⟨attempt, found, h⟩ := h
    unfold sendEdit at h
    split at h
    · rename_i claim claimed
      cases h
      refine inv.advance found ?_ ?_ ?_
      · rintro _ _ _ _ _ (started | ⟨failure, returned⟩)
        · rw [claimed] at started
          cases started
        · rw [claimed] at returned
          cases returned
      · exact fun _ _ _ _ _ _ _ => ⟨nofun, nofun⟩
      · rintro ⟨result, returned⟩
        rw [claimed] at returned
        cases returned
    · cases h
  | applyEdit token =>
    simp only [Captions.step, applyEdit] at h
    split at h
    · cases h
    · split at h
      · cases h
        exact inv
      · cases h
  | loseEdit token =>
    simp only [Captions.step, loseEdit] at h
    split at h
    · cases h
    · split at h
      · cases h
        exact inv
      · cases h
  | answerEdit token error =>
    simp only [Captions.step, Option.bind_eq_bind, Option.bind_eq_some_iff] at h
    obtain ⟨attempt, found, h⟩ := h
    unfold answerEdit at h
    split at h
    · rename_i edit editing sent
      split at h
      · cases h
      · cases h
        refine inv.advance found ?_ ?_ ?_
        · rintro _ _ _ _ _ (started | ⟨failure, returned⟩)
          · rw [editing] at started
            cases started
          · rw [editing] at returned
            cases returned
        · intro _ _ _ _ _ _ _
          cases error with
          | none => exact ⟨nofun, nofun⟩
          | some answer => exact ⟨nofun, nofun⟩
        · rintro ⟨result, returned⟩
          rw [editing] at returned
          cases returned
    · cases h
  | finish token outcome =>
    simp only [Captions.step, Option.bind_eq_bind, Option.bind_eq_some_iff] at h
    obtain ⟨attempt, found, db, finished, h⟩ := h
    cases h
    have settled : Driven db w.attempts := by
      unfold Attempt.finish at finished
      split at finished
      · rename_i peace
        split at finished
        · rename_i completed
          cases finished
          exact inv.complete found peace completed
        · cases finished
          exact inv
      · rename_i failure failed
        split at finished
        · rename_i settlement asks
          cases finished
          refine inv.settle ?_
          intro job m generation row present id terminal command there ready pending same
          exact kept ⟨job, m, generation, row, present,
            ⟨attempt, failure, settlement, found, failed, asks, id, terminal⟩, command, there, ready,
            pending, same⟩
        · cases finished
          exact inv
      · cases finished
    show Driven (if outcome.applied then db else w.db) (w.attempts.remove token)
    split
    · exact settled.retire token
    · exact inv.retire token
  | shutdown token outcome =>
    simp only [Captions.step, Option.bind_eq_bind, Option.bind_eq_some_iff] at h
    obtain ⟨attempt, found, h⟩ := h
    cases h
    show Driven (if outcome.applied then _ else w.db) (w.attempts.remove token)
    split
    · apply Driven.retire
      refine inv.settle ?_
      intro job m generation row present id terminal command there ready pending same
      exact kept ⟨job, m, generation, row, present, ⟨attempt, found, id, terminal⟩, command, there,
        ready, pending, same⟩
    · exact inv.retire token
  | crash token =>
    simp only [Captions.step, Option.bind_eq_bind, Option.bind_eq_some_iff] at h
    obtain ⟨attempt, found, h⟩ := h
    cases h
    exact inv.retire token
  | recover id expected =>
    cases h
    show Driven (committed w.db _) w.attempts
    rcases committed_cases w.db (recoverCaptionJob w.db id expected) with same | ⟨answer, ok⟩
    · rw [same]
      exact inv
    · rcases recoverCaptionJob_ok ok with same |
        ⟨job, m, generation, found, same, -, command, error, after⟩
      · rw [same]
        exact inv
      · rw [after]
        rw [← same] at found
        refine inv.release found command (expiredUpdate_state w.db.now job) ?_ error
        intro terminal row there ready pending current
        refine kept ⟨job, m, generation, row, found, ⟨same.symm, ?_⟩, command, there, ready, pending,
          current⟩
        simpa [expiredUpdate] using terminal
  | prune key cutoff =>
    simp only [Captions.step, Option.bind_eq_bind, Option.bind_eq_some_iff] at h
    obtain ⟨db, pruned, h⟩ := h
    cases h
    unfold Captions.prune at pruned
    split at pruned
    · rename_i job found
      simp only [Option.ite_none_right_eq_some, Option.some.injEq, Bool.and_eq_true,
        Bool.not_eq_true'] at pruned
      obtain ⟨⟨⟨ended, -⟩, -⟩, rfl⟩ := pruned
      exact inv.prune found ended
    · cases pruned
  | tick elapsed =>
    cases h
    exact inv.caption_step (untouched_step (.of_aside ⟨rfl, fun _ _ _ => rfl, le_rfl⟩))
  | setIngest id ingest =>
    cases h
    exact inv.caption_step (untouched_step (.of_aside ⟨rfl, fun _ _ _ => rfl, le_rfl⟩))
  | putForeignJob job =>
    simp only [Captions.step, Option.ite_none_left_eq_some, Option.some.injEq] at h
    obtain ⟨other, rfl⟩ := h
    exact inv.caption_step (untouched_step (.of_aside (.of_put (by simpa using other))))
  | deleteForeignJob key =>
    simp only [Captions.step, Option.ite_none_left_eq_some, Option.some.injEq] at h
    obtain ⟨other, rfl⟩ := h
    refine inv.caption_step (untouched_step (.of_aside ⟨rfl, fun m generation after => ?_, le_rfl⟩))
    show (w.db.jobs.delete key).get _ = _
    rw [Jobs.get_delete, if_neg]
    rintro rfl
    exact other rfl
  | drawUuid =>
    cases h
    exact inv.caption_step (untouched_step (.of_aside ⟨rfl, fun _ _ _ => rfl, Nat.le_succ _⟩))

theorem driven_initial : Driven initial.db initial.attempts := by
  refine ⟨?_, ?_, ?_, ?_, ?_, ?_, ?_, ?_⟩
  · exact fun _ _ found => by cases found
  · exact fun _ _ found => by cases found
  · exact fun _ _ found => by cases found
  · exact fun _ _ _ _ _ found => by cases found
  · exact fun _ _ _ _ _ _ found => by cases found
  · exact fun _ _ _ _ found => by cases found
  · exact fun _ _ found => by cases found
  · exact fun _ _ found => by cases found

/-- A pending or claimed caption of a stored media always has a job of its
    generation, queued or running, as long as no job ends for good before its
    caption was claimed and no attempt claims one without its lease. -/
theorem pending_captions_are_driven {acts : List Action}
    (run : Run step (fun w act => ¬ EndsPending w act ∧ ¬ ClaimsUnleased w act) initial acts w)
    {m : Uuid} {row : Media} (found : w.db.media.get m = some row)
    (ready : row.storageState = .ready)
    (working : row.captionSyncState = .pending ∨ row.captionSyncState = .syncing) :
    ∃ after job, w.db.jobs.get (.syncCaption m row.captionSyncGeneration after) = some job ∧
      job.command = .syncStorageCaption m row.captionSyncGeneration ∧ job.state.live = true := by
  have inv : Driven w.db w.attempts := run_invariant (fun w : World => Driven w.db w.attempts)
    (fun inv allowed h => inv.step allowed.1 allowed.2 h) driven_initial run
  rcases working with pending | syncing
  · obtain ⟨after, job, there, isOpen⟩ := inv.pending m row found ready pending
    refine ⟨after, job, there, command_of_key (w.db.jobs.get_key there), ?_⟩
    rcases isOpen with queued | ⟨columns, running, -⟩
    · rw [queued]
      rfl
    · rw [running]
      rfl
  · obtain ⟨token, -, after, job, columns, there, running, -⟩ := inv.syncing m row found ready syncing
    exact ⟨after, job, there, command_of_key (w.db.jobs.get_key there), by rw [running]; rfl⟩

section Samples

/-- An image without description, tags or source. -/
def sampleImage : MediaIngest := ⟨.image, "sha", none, [], none, some (0, "normalized/image.jpg")⟩

/-- The image is stored with its caption and gets a description. -/
def sampleEdited : List Action :=
  [.resolveMedia sampleImage, .reserveUpload 0 0, .sendMessage 1 ⟨-5, 7⟩,
    .completeUpload 1 (some "file") none, .updateMedia 0 ⟨some "a cat", [], 0⟩]

/-- A worker takes the caption job and dies before it claims the caption. -/
def sampleAbandoned : List Action :=
  [.claimJob "a" 1 (.syncCaption 0 1 none), .tick 1,
    .recover ⟨.syncCaption 0 1 none, 2⟩ (.syncStorageCaption 0 1)]

theorem edited_caption_has_job :
    ∃ w row after job, Run step Unrestricted initial
        (sampleEdited ++ [.claimJob "a" 1 (.syncCaption 0 1 none)]) w ∧
      w.db.media.get 0 = some row ∧ row.captionSyncState = .pending ∧
      w.db.jobs.get (.syncCaption 0 row.captionSyncGeneration after) = some job ∧
      job.command = .syncStorageCaption 0 row.captionSyncGeneration ∧ job.state.live = true := by
  obtain ⟨w, row, done, found, ready, pending⟩ : ∃ w row,
      exec step initial (sampleEdited ++ [.claimJob "a" 1 (.syncCaption 0 1 none)]) = some w ∧
      w.db.media.get 0 = some row ∧ row.storageState = .ready ∧ row.captionSyncState = .pending :=
    ⟨_, _, rfl, rfl, rfl, rfl⟩
  have run : Run step (fun w act => ¬ EndsPending w act ∧ ¬ ClaimsUnleased w act) initial
      (sampleEdited ++ [.claimJob "a" 1 (.syncCaption 0 1 none)]) w := by
    refine run_of_exec_allowed (fun act member t => ⟨?_, ?_⟩) done
    · rintro ⟨job, m, generation, row, -, ends, -⟩
      simp only [sampleEdited, List.cons_append, List.nil_append, List.mem_cons, List.not_mem_nil,
        or_false] at member
      rcases member with rfl | rfl | rfl | rfl | rfl | rfl <;> exact ends
    · rintro ⟨token, outcome, attempt, row, rfl, -⟩
      simp [sampleEdited] at member
  obtain ⟨after, job, rest⟩ := pending_captions_are_driven run found ready (Or.inl pending)
  exact ⟨w, row, after, job, run_of_exec done, found, pending, rest⟩

/-- The third lost lease fails the job for good and leaves the caption pending. -/
theorem exhausted_job_strands_caption :
    ∃ w row, Run step Unrestricted initial
        (sampleEdited ++ sampleAbandoned ++ sampleAbandoned ++ sampleAbandoned) w ∧
      w.db.media.get 0 = some row ∧ row.storageState = .ready ∧ row.captionSyncState = .pending ∧
      ¬ ∃ key job, w.db.jobs.get key = some job ∧
        job.command = .syncStorageCaption 0 row.captionSyncGeneration ∧ job.state.live = true := by
  obtain ⟨w, row, done, found, ready, pending, ended⟩ : ∃ w row, exec step initial
        (sampleEdited ++ sampleAbandoned ++ sampleAbandoned ++ sampleAbandoned) = some w ∧
      w.db.media.get 0 = some row ∧ row.storageState = .ready ∧ row.captionSyncState = .pending ∧
      w.db.jobs.any (fun job =>
        decide (job.command = .syncStorageCaption 0 row.captionSyncGeneration) && job.state.live) =
        false := ⟨_, _, rfl, rfl, rfl, rfl, rfl⟩
  refine ⟨w, row, run_of_exec done, found, ready, pending, ?_⟩
  rintro ⟨key, job, there, command, live⟩
  have hit := (Jobs.any_eq_true w.db.jobs (fun job =>
    decide (job.command = .syncStorageCaption 0 row.captionSyncGeneration) && job.state.live)).mpr
    ⟨key, job, there, by simp [command, live]⟩
  rw [ended] at hit
  cases hit

end Samples

end Runs

end Sooqa.Captions
