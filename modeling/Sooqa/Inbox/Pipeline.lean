import Sooqa.Inbox.Moves

/-!
The pipeline over whole runs. Every step moves every ingest by one of the
shifts and leaves each attempt with what it needs: an attempt whose lease is
current finds its ingest in the status of its stage, and one that returned
without a failure finds it closed. So no live job of an open ingest is ever
completed from outside, and every active ingest keeps the one job that drives
it.
-/
namespace Sooqa.Inbox
open Foundation Queue Worker
open Library (SameRequest Linked)

section Attempts
variable {w w' : World} {token : Uuid} {attempt : Attempt}

/-- What an attempt can rely on. -/
structure Attempt.Sound (w : World) (token : Uuid) (attempt : Attempt) : Prop where
  stamp : attempt.lease.leaseToken = token
  drawn : token < w.db.fresh
  owned : attempt.lease.jobId.key.owns attempt.command = true
  /-- No other lease of its stage job carries its token. -/
  shown : ∀ stage id forceSave, attempt.lease.jobId.key = .stage stage id forceSave →
    ∀ job lease, w.db.jobs.get attempt.lease.jobId.key = some job → job.lease = some lease →
      lease.leaseToken = token → lease = attempt.lease
  active : ∀ stage id, StageCommand attempt.command stage id →
    isCurrent w.db attempt.lease = true → attempt.phase.underWay = true →
    ∃ request, w.db.ingests.get id = some request ∧
      (request.status = stageStatus stage ∨ Closed request)
  ended : ∀ stage id, StageCommand attempt.command stage id →
    isCurrent w.db attempt.lease = true → attempt.phase = .returned (.ok ()) →
    ∃ request, w.db.ingests.get id = some request ∧ Closed request
  identifying : attempt.phase.isIdentifying = true →
    attempt.command.jobType = .stage .computeFingerprint
  cleaning : attempt.phase = .cleaning → attempt.command.jobType = .cleanupWorkspace

/-- The invariant of the ingest side. -/
structure Pipeline (w : World) : Prop where
  flow : ∀ id request, w.db.ingests.get id = some request →
    Flow request (w.failedStages.get id) (w.view id).job
  homed : ∀ stage id forceSave job, w.db.jobs.get (.stage stage id forceSave) = some job →
    ∃ request, w.db.ingests.get id = some request
  drawn : ∀ id request, w.db.ingests.get id = some request → id < w.db.fresh
  attempts : ∀ token attempt, w.attempts.get token = some attempt → attempt.Sound w token

theorem stageCommand_unique {command : JobCommand} {stage other : Stage} {id j : Uuid}
    (first : StageCommand command stage id) (second : StageCommand command other j) :
    other = stage ∧ j = id := by
  have stages := first.stage.symm.trans second.stage
  have ids := first.ingest.symm.trans second.ingest
  simp only [JobType.stage.injEq, Option.some.injEq] at stages ids
  exact ⟨stages.symm, ids.symm⟩

/-- What a begun stage relies on stays while nothing of its ingest moves. -/
theorem Attempt.Sound.active_calm (sound : attempt.Sound w token) (calm : Calm w w')
    (underWay : attempt.phase.underWay = true) : ∀ stage id,
    StageCommand attempt.command stage id → isCurrent w'.db attempt.lease = true →
    ∃ request, w'.db.ingests.get id = some request ∧
      (request.status = stageStatus stage ∨ Closed request) := by
  intro stage id of current
  obtain ⟨forceSave, key⟩ := stageKey_of_command sound.owned of
  have same := calm.jobs stage id forceSave
  obtain ⟨job, locked⟩ := isCurrent_eq_true.mp current
  obtain ⟨found, shows, inTime⟩ := lockCurrentJobAttempt_eq_some.mp locked
  rw [key, same, ← key] at found
  have was : isCurrent w.db attempt.lease = true :=
    isCurrent_eq_true.mpr ⟨job, lockCurrentJobAttempt_eq_some.mpr
      ⟨found, shows, fun lapsed => inTime (Job.lapsed_mono lapsed calm.now)⟩⟩
  obtain ⟨request, here, status⟩ := sound.active stage id of was underWay
  exact ⟨request, (calm.ingests id).trans here, status⟩

/-- A lease that is current after a step was so before it. -/
theorem Moves.current (moves : Moves w w') (sound : attempt.Sound w token) {stage : Stage}
    {id : Uuid} (of : StageCommand attempt.command stage id)
    (current : isCurrent w'.db attempt.lease = true) : isCurrent w.db attempt.lease = true := by
  obtain ⟨forceSave, key⟩ := stageKey_of_command sound.owned of
  obtain ⟨job, locked⟩ := isCurrent_eq_true.mp current
  have stamped := moves.leases stage id forceSave
  rw [← key] at stamped
  refine isCurrent_eq_true.mpr (stamped.current moves.now ?_ locked)
  rw [sound.stamp]
  exact Nat.ne_of_lt sound.drawn

theorem Moves.shown (moves : Moves w w') (sound : attempt.Sound w token) {stage : Stage}
    {id : Uuid} {forceSave : Bool} (key : attempt.lease.jobId.key = .stage stage id forceSave)
    {job : Job} {lease : JobLease} (found : w'.db.jobs.get attempt.lease.jobId.key = some job)
    (shows : job.lease = some lease) (same : lease.leaseToken = token) :
    lease = attempt.lease := by
  rw [key] at found
  rcases moves.leases stage id forceSave job lease found shows with fresh | ⟨old, present, showed, -⟩
  · have below := sound.drawn
    rw [← same, fresh] at below
    exact absurd below (Nat.lt_irrefl _)
  · exact sound.shown stage id forceSave key old lease (key ▸ present) showed same

/-- Two current leases of one row are the same. -/
theorem current_unique {lease other : JobLease} {db : Db} (first : isCurrent db lease = true)
    (second : isCurrent db other = true) (same : lease.jobId.key = other.jobId.key) :
    lease = other := by
  obtain ⟨job, locked⟩ := isCurrent_eq_true.mp first
  obtain ⟨row, holding⟩ := isCurrent_eq_true.mp second
  obtain ⟨found, shows, -⟩ := lockCurrentJobAttempt_eq_some.mp locked
  obtain ⟨there, holds, -⟩ := lockCurrentJobAttempt_eq_some.mp holding
  rw [← same, found] at there
  cases there
  rw [shows] at holds
  exact Option.some.inj holds

/-- The stage job of a current lease drives its ingest, or the ingest closed. -/
theorem Pipeline.flag (inv : Pipeline w) {stage : Stage} {id : Uuid} {forceSave : Bool}
    {lease : JobLease} {request : Ingest} (current : isCurrent w.db lease = true)
    (key : lease.jobId.key = .stage stage id forceSave)
    (found : w.db.ingests.get id = some request) (ne : request.status ≠ .failedTerminal) :
    drivingStage (w.failedStages.get id) request = some stage ∧ forceSave = request.forceSave :=
  (inv.flow id request found).driving (live_of_current current key) ne

/-- What a step leaves to an attempt it does not move. -/
theorem Moves.carries (inv : Pipeline w) (moves : Moves w w')
    (before : w.attempts.get token = some attempt) (after : w'.attempts.get token = some attempt) :
    attempt.Sound w' token := by
  have sound := inv.attempts token attempt before
  refine ⟨sound.stamp, lt_of_lt_of_le sound.drawn moves.fresh, sound.owned, ?_, ?_, ?_,
    sound.identifying, sound.cleaning⟩
  · intro stage id forceSave key job lease found shows same
    exact moves.shown sound key found shows same
  · intro stage id of current underWay
    have was := moves.current sound of current
    obtain ⟨forceSave, key⟩ := stageKey_of_command sound.owned of
    obtain ⟨request, found, status⟩ := sound.active stage id of was underWay
    rcases status with active | closed
    · rcases (moves.views id).stays_active found (inv.flow id request found) active
        (live_of_current was key) (live_of_current current key) with recorded | stays
      · -- The attempt that recorded the failure is this one, and it is over.
        obtain ⟨other, acting, ended, acts, ofActing, holds, -, there, done⟩ := recorded
        have actor := inv.attempts other acting acts
        obtain ⟨flag, keyed⟩ := stageKey_of_command actor.owned ofActing
        have open_ : request.status ≠ .failedTerminal := by
          rw [active]
          exact stageStatus_ne_failedTerminal stage
        have keys : attempt.lease.jobId.key = acting.lease.jobId.key := by
          rw [key, keyed, (inv.flag was key found open_).2, (inv.flag holds keyed found open_).2]
        have same : token = other := by
          rw [← sound.stamp, ← actor.stamp, current_unique was holds keys]
        subst same
        rw [after] at there
        cases there
        rw [underWay] at done
        cases done
      · exact stays
    · obtain ⟨request', here, stays⟩ := (moves.views id).stays_closed found closed
      exact ⟨request', here, Or.inr stays⟩
  · intro stage id of current returned
    obtain ⟨request, found, closed⟩ := sound.ended stage id of (moves.current sound of current) returned
    exact (moves.views id).stays_closed found closed

/-- An attempt that moved on in a step. -/
theorem Attempt.Sound.moved (sound : attempt.Sound w token) (moves : Moves w w') {phase : Phase}
    (active : ∀ stage id, StageCommand attempt.command stage id →
      isCurrent w'.db attempt.lease = true → phase.underWay = true →
      ∃ request, w'.db.ingests.get id = some request ∧
        (request.status = stageStatus stage ∨ Closed request))
    (ended : ∀ stage id, StageCommand attempt.command stage id →
      isCurrent w'.db attempt.lease = true → phase = .returned (.ok ()) →
      ∃ request, w'.db.ingests.get id = some request ∧ Closed request)
    (identifying : phase.isIdentifying = true →
      attempt.command.jobType = .stage .computeFingerprint)
    (cleaning : phase = .cleaning → attempt.command.jobType = .cleanupWorkspace) :
    Attempt.Sound w' token { attempt with phase := phase } :=
  ⟨sound.stamp, lt_of_lt_of_le sound.drawn moves.fresh, sound.owned,
    fun _ _ _ key _ _ found shows same => moves.shown sound key found shows same, active, ended,
    identifying, cleaning⟩

/-- An attempt that ended with a failure needs nothing more. -/
theorem Attempt.Sound.refused (sound : attempt.Sound w token) (moves : Moves w w') {phase : Phase}
    (refused : phase.refused) : Attempt.Sound w' token { attempt with phase := phase } := by
  obtain ⟨failure, rfl⟩ := refused
  exact sound.moved moves nofun nofun nofun nofun

/-- The stage that drives an ingest is admitted. -/
theorem admits_of_driving {failed : Option Stage} {stage : Stage} {request : Ingest}
    (driving : drivingStage failed request = some stage) (clean : Unrecorded stage request) :
    Admits stage request := by
  refine ⟨?_, ?_, ?_⟩
  · have unlinked := drivingStage_media driving
    cases status : request.status <;> simp only [drivingStage, unlinked, status, Option.isSome_none,
      Bool.false_eq_true, if_false, Option.some.injEq, reduceCtorEq] at driving
    case queued => cases kind : request.kind <;> simp [kind, firstStage, ← driving, stageStatus]
    case downloading =>
      split at driving <;> simp [← driving, stageStatus]
    all_goals simp [← driving, stageStatus]
  · rintro rfl
    exact clean.download (by decide)
  · rintro rfl
    exact Or.inl (clean.normalization (by decide))

/-- A current stage job without admission belongs to a closed ingest. -/
theorem Pipeline.closed_of_passed (inv : Pipeline w) {stage : Stage} {id : Uuid} {db' : Db}
    (sound : attempt.Sound w token) (of : StageCommand attempt.command stage id)
    (passed : Passed w.db db' id stage attempt.lease)
    (current : isCurrent w.db attempt.lease = true) :
    ∃ request, w.db.ingests.get id = some request ∧ Closed request := by
  obtain ⟨forceSave, key⟩ := stageKey_of_command sound.owned of
  have live := live_of_current current key
  obtain ⟨job, locked⟩ := isCurrent_eq_true.mp current
  obtain ⟨row, -, -⟩ := lockCurrentJobAttempt_eq_some.mp locked
  obtain ⟨request, found⟩ := inv.homed stage id forceSave job (key ▸ row)
  refine ⟨request, found, ?_⟩
  rcases (inv.flow id request found).only stage forceSave live with ⟨driving, -⟩ | closed
  · rcases passed.reason with lost | refused
    · rw [current] at lost
      cases lost
    · exact absurd (admits_of_driving driving ((inv.flow id request found).unrecorded stage driving))
        (refused request found)
  · exact closed

/-- A current stage job whose completion was stopped belongs to a closed one. -/
theorem Pipeline.closed_of_stopped (inv : Pipeline w) {stage : Stage} {id : Uuid} {db' : Db}
    (sound : attempt.Sound w token) (of : StageCommand attempt.command stage id)
    (underWay : attempt.phase.underWay = true)
    (stopped : Stopped w.db db' id stage attempt.lease)
    (current : isCurrent w.db attempt.lease = true) :
    ∃ request, w.db.ingests.get id = some request ∧ Closed request := by
  obtain ⟨forceSave, key⟩ := stageKey_of_command sound.owned of
  obtain ⟨request, found, active | closed⟩ := sound.active stage id of current underWay
  · obtain ⟨driving, -⟩ := inv.flag current key found
      (active ▸ stageStatus_ne_failedTerminal stage)
    rcases stopped.reason with lost | refused
    · rw [current] at lost
      cases lost
    · exact absurd ((inv.flow id request found).unrecorded stage driving)
        (refused request found active)
  · exact ⟨request, found, closed⟩

/-- A finished stage has given up its lease. -/
theorem HandedOver.not_current {db db' : Db} {id : Uuid} {stage : Stage} {lease : JobLease}
    {request request' : Ingest} {job : Job} {jobs : Jobs}
    (effect : HandedOver db db' id stage lease request request' job jobs) :
    isCurrent db' lease = false := by
  cases still : isCurrent db' lease with
  | false => rfl
  | true =>
    obtain ⟨row, locked⟩ := isCurrent_eq_true.mp still
    obtain ⟨found, shows, -⟩ := lockCurrentJobAttempt_eq_some.mp locked
    obtain ⟨own, -, -⟩ := lockCurrentJobAttempt_eq_some.mp effect.current
    have key : job.id.key = lease.jobId.key := db.jobs.get_key own
    have placed := Jobs.get_put_self jobs (job.succeeded db.now)
    rw [effect.jobs, ← key] at found
    cases found.symm.trans placed
    rw [job.succeeded_idle] at shows
    cases shows

theorem not_stageCommand {command : JobCommand} {stage : Stage} {id : Uuid}
    (other : command.stageIngest = none) : ¬ StageCommand command stage id := by
  rintro ⟨-, ingest⟩
  rw [other] at ingest
  cases ingest

/-- An attempt that is not a stage's is sound in every phase it can reach. -/
theorem Attempt.Sound.beside (sound : attempt.Sound w token) (moves : Moves w w') {phase : Phase}
    (other : attempt.command.stageIngest = none)
    (identifying : phase.isIdentifying = false)
    (cleaning : phase = .cleaning → attempt.command.jobType = .cleanupWorkspace) :
    Attempt.Sound w' token { attempt with phase := phase } :=
  sound.moved moves (fun _ _ of => absurd of (not_stageCommand other))
    (fun _ _ of => absurd of (not_stageCommand other))
    (fun same => absurd (same.symm.trans identifying) (by decide)) cleaning

theorem Attempt.Sound.returned_beside (sound : attempt.Sound w token) (moves : Moves w w')
    (other : attempt.command.stageIngest = none) (answer : Except HandlerFailure Unit) :
    Attempt.Sound w' token { attempt with phase := .returned answer } :=
  sound.beside moves other rfl nofun

end Attempts

section Calls
variable {calendar : Publisher.Calendar} {w : World} {token : Uuid} {attempt : Attempt} {db' : Db}
  {phase : Phase}

/-- The world after a call of an attempt. -/
def World.called (w : World) (token : Uuid) (attempt : Attempt) (db' : Db) (phase : Phase) :
    World :=
  { w.advance token attempt db' phase with failedStages := recordFailure w attempt db' }

theorem called_attempt (w : World) (token : Uuid) (attempt : Attempt) (db' : Db) (phase : Phase) :
    (w.called token attempt db' phase).attempts.get token =
      some { attempt with phase := phase } := Table.get_set_self _ _ _

/-- A failure is recorded only by the call that writes it. -/
theorem recordFailure_calm (same : ∀ id, db'.ingests.get id = w.db.ingests.get id) :
    recordFailure w attempt db' = w.failedStages := by
  unfold recordFailure
  split
  · rw [if_pos (same _)]
  · rfl

theorem recordFailure_other (was : ∀ failure, attempt.phase ≠ .failing failure) :
    recordFailure w attempt db' = w.failedStages := by
  unfold recordFailure
  split
  · rename_i failing _ _
    exact absurd failing (was _)
  · rfl

theorem recordFailure_failed {stage : Stage} {id : Uuid} {request request' : Ingest}
    (of : StageCommand attempt.command stage id) (was : ∃ failure, attempt.phase = .failing failure)
    (effect : Failed w.db db' id stage attempt.lease request request') :
    recordFailure w attempt db' = w.failedStages.set id stage := by
  obtain ⟨failure, failing⟩ := was
  have changed : db'.ingests.get id ≠ w.db.ingests.get id := by
    rw [effect.write.here, effect.found]
    intro same
    have status := effect.status
    rw [Option.some.inj same, effect.active] at status
    cases stage <;> simp [stageStatus] at status
  simp only [recordFailure, failing, of.stage, of.ingest, if_neg changed]

theorem Calm.called (token : Uuid) (attempt : Attempt) {db' : Db} (ingests : db'.ingests = w.db.ingests)
    (jobs : ∀ stage id forceSave,
      db'.jobs.get (.stage stage id forceSave) = w.db.jobs.get (.stage stage id forceSave))
    (now : db'.now = w.db.now) (fresh : w.db.fresh ≤ db'.fresh) (phase : Phase) :
    Calm w (w.called token attempt db' phase) where
  ingests := fun id => by
    change db'.ingests.get id = _
    rw [ingests]
  failed := recordFailure_calm (fun _ => by rw [ingests])
  jobs := jobs
  now := le_of_eq now.symm
  fresh := fresh

theorem Calm.called_same (w : World) (token : Uuid) (attempt : Attempt) (phase : Phase) :
    Calm w (w.called token attempt w.db phase) :=
  .called token attempt rfl (fun _ _ _ => rfl) rfl le_rfl phase

theorem isCaption_not_stage {key : JobKey} (h : Library.IsCaption key) :
    ∀ stage other forceSave, key ≠ .stage stage other forceSave := by
  rintro stage other forceSave rfl
  obtain ⟨_, _, _, same⟩ := h
  cases same

/-- What a call does to the pipeline, and what it leaves to its attempt. -/
theorem call_step (inv : Pipeline w) (sound : attempt.Sound w token)
    (effect : CallEffect calendar attempt w.db db' phase)
    (before : w.attempts.get token = some attempt) :
    Moves w (w.called token attempt db' phase) ∧
      Attempt.Sound (w.called token attempt db' phase) token { attempt with phase := phase } := by
  cases effect with
  | refused unchanged refused =>
    subst unchanged
    have moves := (Calm.called_same w token attempt phase).moves
    exact ⟨moves, sound.refused moves refused⟩
  | loaded unchanged snapshot here =>
    subst unchanged here
    have moves := (Calm.called_same w token attempt
      (.admitted snapshot)).moves
    exact ⟨moves, sound.moved moves nofun nofun nofun nofun⟩
  | materialized ingestId command result ok returned =>
    obtain ⟨beside, -⟩ := materializeIngest_ok ok
    have moves := (Calm.called token attempt beside.ingests
      (fun _ _ _ => beside.jobs _ (fun _ => nofun)) beside.now beside.fresh phase).moves
    obtain ⟨answer, rfl⟩ := returned
    exact ⟨moves, sound.returned_beside moves (by rw [command]; rfl) answer⟩
  | cleanup ingestId workspaceId command start ok next =>
    obtain ⟨ingests, jobs, posts, now, fresh⟩ := beginWorkspaceCleanup_ok ok
    have moves := (Calm.called token attempt ingests
      (fun _ _ _ => by rw [jobs]) now (le_of_eq fresh.symm) phase).moves
    refine ⟨moves, sound.beside moves (by rw [command]; rfl) ?_ (fun _ => by rw [command]; rfl)⟩
    rcases next with ⟨rfl, -⟩ | ⟨answer, rfl⟩ <;> rfl
  | passed stage id of passed next =>
    have unchanged := passed.unchanged
    subst unchanged
    have moves := (Calm.called_same w token attempt phase).moves
    refine ⟨moves, ?_⟩
    rcases next with rfl | refused
    · refine sound.moved moves nofun (fun other j ofOther current _ => ?_) nofun nofun
      obtain ⟨rfl, rfl⟩ := stageCommand_unique of ofOther
      exact inv.closed_of_passed sound of passed current
    · exact sound.refused moves refused
  | begun stage id of was request begun effect next =>
    obtain ⟨forceSave, key⟩ := stageKey_of_command sound.owned of
    have moves : Moves w (w.called token attempt db' phase) := begun_moves effect key
      (recordFailure_other was)
    refine ⟨moves, ?_⟩
    rcases next with rfl | refused
    · refine sound.moved moves (fun other j ofOther _ _ => ?_) nofun nofun nofun
      obtain ⟨rfl, rfl⟩ := stageCommand_unique of ofOther
      exact ⟨begun, effect.write.here, Or.inl effect.status⟩
    · exact sound.refused moves refused
  | resolved ingest was write next =>
    have calm : Calm w (w.called token attempt db' phase) := by
      rcases write with unchanged | media
      · subst unchanged
        exact .called_same w token attempt phase
      · exact .called token attempt media.ingests (stages_of_added media.jobs (fun _ => isCaption_not_stage))
          media.now media.fresh phase
    refine ⟨calm.moves, ?_⟩
    have active := sound.active_calm calm (by rw [was]; rfl)
    rcases next with ⟨result, rfl⟩ | ⟨failure, rfl⟩
    · exact sound.moved calm.moves (fun stage id of current _ => active stage id of current) nofun
        nofun nofun
    · exact sound.moved calm.moves (fun stage id of current _ => active stage id of current) nofun
        nofun nofun
  | identified ingest fingerprint was unchanged next =>
    subst unchanged
    have calm := Calm.called_same w token attempt phase
    have active := sound.active_calm calm (by rw [was]; rfl)
    refine ⟨calm.moves, ?_⟩
    rcases next with ⟨request, exactMediaId, rfl⟩ | refused | ⟨rfl, reason⟩
    · exact sound.moved calm.moves (fun stage id of current _ => active stage id of current) nofun
        nofun nofun
    · exact sound.refused calm.moves refused
    · refine sound.moved calm.moves nofun (fun stage id of current _ => ?_) nofun nofun
      obtain ⟨request, found, status | closed⟩ := active stage id of current
      · have fingerprints := sound.identifying (by rw [was]; rfl)
        rw [of.stage, JobType.stage.injEq] at fingerprints
        subst fingerprints
        rcases reason with lost | passed
        · exact absurd (current.symm.trans lost) (by decide)
        · exact absurd status (passed id request of.ingest found)
      · exact ⟨request, found, closed⟩
  | stopped stage id of was stopped next =>
    have unchanged := stopped.unchanged
    subst unchanged
    have moves := (Calm.called_same w token attempt phase).moves
    refine ⟨moves, ?_⟩
    rcases next with rfl | refused
    · refine sound.moved moves nofun (fun other j ofOther current _ => ?_) nofun nofun
      obtain ⟨rfl, rfl⟩ := stageCommand_unique of ofOther
      exact inv.closed_of_stopped sound of was stopped current
    · exact sound.refused moves refused
  | handedOver stage id of was request request' job jobs effect next =>
    obtain ⟨forceSave, key⟩ := stageKey_of_command sound.owned of
    obtain ⟨result, was⟩ := was
    have recorded : Recorded w (w.called token attempt db' phase) id stage := by
      refine ⟨token, attempt, _, before, of, isCurrent_eq_true.mpr ⟨job, effect.current⟩,
        by rw [was]; rfl, called_attempt _ _ _ _ _, ?_⟩
      rcases next with rfl | ⟨failure, rfl⟩ <;> rfl
    have moves : Moves w (w.called token attempt db' phase) := handedOver_moves effect key
      (recordFailure_other (by simp [was])) recorded
    refine ⟨moves, ?_⟩
    rcases next with rfl | refused
    · refine sound.moved moves nofun (fun _ _ _ current _ => ?_) nofun nofun
      have lost : isCurrent db' attempt.lease = false := effect.not_current
      exact absurd (current.symm.trans lost) (by decide)
    · exact sound.refused moves refused
  | failed stage id of was request request' effect refused =>
    obtain ⟨forceSave, key⟩ := stageKey_of_command sound.owned of
    have recorded : Recorded w (w.called token attempt db' phase) id stage := by
      refine ⟨token, attempt, _, before, of, effect.current, ?_, called_attempt _ _ _ _ _, ?_⟩
      · obtain ⟨failure, failing⟩ := was
        rw [failing]
        rfl
      · obtain ⟨failure, rfl⟩ := refused
        rfl
    have moves : Moves w (w.called token attempt db' phase) := failed_moves
      (inv.flow id request effect.found) effect key (recordFailure_failed of was effect) recorded
    exact ⟨moves, sound.refused moves refused⟩

end Calls

section Runner
variable {w w' : World} {token : Uuid} {attempt : Attempt}

/-- The key of a job that is not a stage's. -/
theorem foreign_key {key : JobKey} {command : JobCommand} (owned : key.owns command = true)
    (other : command.stageIngest = none) : ∀ stage id forceSave, key ≠ .stage stage id forceSave := by
  rintro stage id forceSave rfl
  simp [JobKey.owns, other] at owned

/-- A write of the row of an attempt outside the stages. -/
theorem Calm.of_row (sound : attempt.Sound w token) (other : attempt.command.stageIngest = none)
    (row : Job) (key : row.id.key = attempt.lease.jobId.key)
    (db : w'.db = { w.db with jobs := w.db.jobs.put row })
    (failed : w'.failedStages = w.failedStages) : Calm w w' := by
  refine .of_foreign (foreign_key sound.owned other) (by rw [db]) failed (fun k ne => ?_)
    (by rw [db]) (by rw [db])
  rw [db]
  exact Jobs.get_put_ne _ (key ▸ ne)

theorem Calm.of_same (db : w'.db = w.db) (failed : w'.failedStages = w.failedStages) : Calm w w' :=
  ⟨fun _ => by rw [db], failed, fun _ _ _ => by rw [db], by rw [db], by rw [db]⟩

theorem Moves.of_same (db : w'.db = w.db) (failed : w'.failedStages = w.failedStages) :
    Moves w w' := (Calm.of_same db failed).moves

/-- A step that wrote no ingest and no job. -/
theorem Moves.of_rows (ingests : w'.db.ingests = w.db.ingests) (jobs : w'.db.jobs = w.db.jobs)
    (failed : w'.failedStages = w.failedStages) (now : w.db.now ≤ w'.db.now)
    (fresh : w.db.fresh ≤ w'.db.fresh) : Moves w w' :=
  Calm.moves ⟨fun _ => by rw [ingests], failed, fun _ _ _ => by rw [jobs], now, fresh⟩

/-- A step that wrote one row outside the stages. -/
theorem Moves.of_foreign (key : JobKey)
    (foreign : ∀ stage id forceSave, key ≠ .stage stage id forceSave)
    (ingests : w'.db.ingests = w.db.ingests) (failed : w'.failedStages = w.failedStages)
    (jobs : ∀ other, other ≠ key → w'.db.jobs.get other = w.db.jobs.get other)
    (now : w.db.now ≤ w'.db.now) (fresh : w.db.fresh ≤ w'.db.fresh) : Moves w w' :=
  (Calm.of_foreign foreign ingests failed jobs now fresh).moves

theorem settleQueue_calm (sound : attempt.Sound w token)
    (other : attempt.command.stageIngest = none) {settlement : JobSettlement} {jobs : Jobs}
    {answer : Job}
    (h : settleQueueInTransaction w.db.jobs w.db.now attempt.lease attempt.command settlement =
      .ok (jobs, answer)) (db : w'.db = { w.db with jobs := jobs })
    (failed : w'.failedStages = w.failedStages) : Calm w w' := by
  obtain ⟨job, found, -, rfl⟩ := settleQueueInTransaction_ok h
  have key := w.db.jobs.get_key found
  exact .of_row sound other (job.settled w.db.now (queueParameters job settlement)) key db
    failed

/-- A settled stage job, of the attempt that holds its lease. -/
theorem settleJob_moves (inv : Pipeline w) {lease : JobLease} {expected : JobCommand}
    {settlement : JobSettlement}
    (db : w'.db = committed w.db (settleJob w.db lease expected settlement))
    (failed : w'.failedStages = w.failedStages) : Moves w w' := by
  rcases committed_cases w.db (settleJob w.db lease expected settlement) with same | ⟨answer, ok⟩
  · exact .of_same (db.trans same) failed
  · rw [← db] at ok
    obtain ⟨job, id, found, shows, ingest, effect⟩ := settleJob_ok ok
    obtain ⟨stage, of⟩ := stageCommand_of_stageIngest ingest
    obtain ⟨forceSave, key⟩ := stageKey_of_command job.owned of
    have own := w.db.jobs.get_key found
    exact settled_moves (inv.flow id) (inv.homed stage id forceSave job (by rw [← key, own, found]))
      effect (own ▸ found) shows key failed

theorem settle_moves (inv : Pipeline w) (sound : attempt.Sound w token)
    {settlement : JobSettlement} (db : w'.db = attempt.settle w.db settlement)
    (failed : w'.failedStages = w.failedStages) : Moves w w' := by
  unfold Attempt.settle at db
  split at db
  · rename_i ingestId command
    rcases committed_cases w.db (Publisher.settleMaterializeJob w.db attempt.lease attempt.command
      settlement) with same | ⟨answer, ok⟩
    · exact .of_same (db.trans same) failed
    · rw [← db] at ok
      simp only [Publisher.settleMaterializeJob, command, bind_ok, pure_ok, Prod.mk.injEq] at ok
      obtain ⟨⟨jobs, job⟩, settled, written, -⟩ := ok
      rw [← command] at settled
      exact (settleQueue_calm sound (by rw [command]; rfl) settled written.symm failed).moves
  · rename_i ingestId workspaceId command
    split at db
    · rename_i jobs answer settled
      exact (settleQueue_calm sound (by rw [command]; rfl) settled db failed).moves
    · exact .of_same db failed
  · exact settleJob_moves inv db failed

/-- A lease that holds its row by owner and token is the current one. -/
theorem current_of_held (sound : attempt.Sound w token) {stage : Stage} {id : Uuid}
    {forceSave : Bool} (key : attempt.lease.jobId.key = .stage stage id forceSave) {job : Job}
    (found : w.db.jobs.get attempt.lease.jobId.key = some job)
    (held : job.heldBy w.db.now attempt.lease false = true) :
    isCurrent w.db attempt.lease = true := by
  obtain ⟨columns, running, owner, same, inTime⟩ := heldBy_eq_true.mp held
  have shows : job.lease = some ⟨job.id, job.attemptCount, columns.owner, columns.token⟩ :=
    Job.lease_eq_some.mpr ⟨columns, running, rfl⟩
  have own := sound.shown stage id forceSave key job _ found shows (same.trans sound.stamp)
  have unexpired : w.db.now < columns.expiresAt := by simpa using inTime
  refine isCurrent_eq_true.mpr ⟨job, lockCurrentJobAttempt_eq_some.mpr ⟨found, own ▸ shows, ?_⟩⟩
  rintro ⟨others, showing, ended⟩
  rw [running] at showing
  cases showing
  exact absurd ended (Nat.not_le.mpr unexpired)

theorem completeLease_moves (sound : attempt.Sound w token)
    (returned : attempt.phase = .returned (.ok ())) {jobs : Jobs} {answer : Job}
    (h : completeLease w.db.jobs w.db.now attempt.lease = .ok (jobs, answer))
    (db : w'.db = { w.db with jobs := jobs }) (failed : w'.failedStages = w.failedStages) :
    Moves w w' := by
  rcases completeLease_ok h with same | ⟨job, found, own, held, table⟩
  · subst same
    exact .of_same db failed
  · subst table
    have jobKey := w.db.jobs.get_key found
    cases ingest : attempt.command.stageIngest with
    | none =>
      exact (Calm.of_row sound ingest (job.succeeded w.db.now) jobKey db failed).moves
    | some id =>
      obtain ⟨stage, of⟩ := stageCommand_of_stageIngest ingest
      obtain ⟨forceSave, key⟩ := stageKey_of_command sound.owned of
      obtain ⟨request, present, closed⟩ :=
        sound.ended stage id of (current_of_held sound key found held) returned
      obtain ⟨columns, running, -⟩ := heldBy_eq_true.mp held
      have live : job.state.live = true := by
        rw [running]
        rfl
      refine succeeded_moves (jobKey ▸ found) live (jobKey.trans key) present closed ?_ failed ?_ ?_ ?_
      all_goals rw [db]

theorem finish_moves (inv : Pipeline w) (sound : attempt.Sound w token) {db' : Db}
    (h : attempt.finish w.db = some db') (db : w'.db = db')
    (failed : w'.failedStages = w.failedStages) : Moves w w' := by
  unfold Attempt.finish at h
  split at h
  · rename_i returned
    split at h
    · rename_i jobs answer completed
      cases h
      exact completeLease_moves sound returned completed db failed
    · cases h
      exact .of_same db failed
  · split at h
    · cases h
      exact settle_moves inv sound db failed
    · cases h
      exact .of_same db failed
  · cases h

theorem recover_moves (inv : Pipeline w) {id : JobId} {expected : JobCommand}
    (db : w'.db = recover w.db id expected) (failed : w'.failedStages = w.failedStages) :
    Moves w w' := by
  unfold recover at db
  split at db
  · rename_i ingestId
    rcases committed_cases w.db
      (Publisher.recoverMaterializeJob w.db id (.materializePublication ingestId)) with
      same | ⟨answer, ok⟩
    · exact .of_same (db.trans same) failed
    · rw [← db] at ok
      simp only [Publisher.recoverMaterializeJob, bind_ok] at ok
      obtain ⟨recovered, done, ok⟩ := ok
      split at ok
      · rename_i jobs
        simp only [pure_ok, Prod.mk.injEq] at ok
        obtain ⟨job, locked, same, rfl⟩ := recoverQueueOnlyInTransaction_ok done
        have other : job.command.stageIngest = none := by
          cases command : job.command <;> rw [command] at same <;>
            simp [JobCommand.sameOwner] at same
          rfl
        refine .of_foreign job.id.key (foreign_key job.owned other) ?_ failed (fun key ne => ?_) ?_ ?_
        · rw [← ok.1]
        · rw [← ok.1]
          exact Jobs.get_put_ne _ ne
        · rw [← ok.1]
        · rw [← ok.1]
      · simp only [pure_ok, Prod.mk.injEq] at ok
        exact .of_same ok.1.symm failed
  · rcases committed_cases w.db (recoverJob w.db id expected) with same | ⟨answer, ok⟩
    · exact .of_same (db.trans same) failed
    · rw [← db] at ok
      rcases recoverJob_ok ok with same | ⟨job, lease, ingestId, found, shows, ingest, effect⟩
      · exact .of_same same failed
      · obtain ⟨stage, of⟩ := stageCommand_of_stageIngest ingest
        obtain ⟨forceSave, key⟩ := stageKey_of_command job.owned of
        have own := w.db.jobs.get_key found
        exact settled_moves (inv.flow ingestId)
          (inv.homed stage ingestId forceSave job (by rw [← key, own, found])) effect
          (own ▸ found) shows key failed

theorem heartbeat_moves {lease : JobLease} {leaseDuration : Time} {jobs : Jobs} {renewed : Job}
    (h : heartbeatLease w.db.jobs w.db.now lease leaseDuration = .ok (jobs, renewed))
    (db : w'.db = { w.db with jobs := jobs }) (failed : w'.failedStages = w.failedStages) :
    Moves w w' := by
  have fenced := heartbeatLease_fenced h
  obtain ⟨job, found, own, held, row, table⟩ := heartbeatLease_ok h
  obtain ⟨columns, running, -⟩ := heldBy_eq_true.mp held
  subst table
  have key : renewed.id.key = lease.jobId.key := by rw [row, own]
  refine moves_of_put renewed job (key ▸ found) ?_ (fenced.stamped _ _) ?_ failed
    ?_ ?_ ?_
  · rw [row, running]
    rfl
  all_goals rw [db]

theorem Attempt.Sound.of_started {token : Uuid} {lease : JobLease} {command : JobCommand}
    (stamp : lease.leaseToken = token) (drawn : token < w.db.fresh)
    (owned : lease.jobId.key.owns command = true)
    (shown : ∀ stage id forceSave, lease.jobId.key = .stage stage id forceSave →
      ∀ job other, w.db.jobs.get lease.jobId.key = some job → job.lease = some other →
        other.leaseToken = token → other = lease) :
    Attempt.Sound w token ⟨lease, command, .started⟩ :=
  ⟨stamp, drawn, owned, shown, nofun, nofun, nofun, nofun⟩

/-- A claim shows one lease, under the token it drew. -/
theorem claim_moves {worker : String} {leaseDuration : Time} {key : JobKey}
    (h : claimJob w worker leaseDuration key = some w') :
    Moves w w' ∧ ∃ attempt, w'.attempts = w.attempts.set w.db.fresh attempt ∧
      attempt.Sound w' w.db.fresh := by
  unfold claimJob at h
  split at h
  · rename_i jobs claimed claims
    obtain ⟨job, found, queued, -, -, rfl, rfl⟩ := claimNext_ok claims
    simp only [Job.lease, Option.some.injEq] at h
    subst h
    have jobKey := w.db.jobs.get_key found
    refine ⟨moves_of_put _ job ?_ ?_ ?_ rfl rfl rfl le_rfl (Nat.le_succ _), _, rfl, ?_⟩
    · change w.db.jobs.get job.id.key = some job
      rw [jobKey]
      exact found
    · rw [queued]
      rfl
    · intro row lease there shows
      rw [Jobs.get_put_self] at there
      cases there
      simp only [Job.lease, Option.some.injEq] at shows
      subst shows
      exact Or.inl rfl
    · refine .of_started rfl (Nat.lt_succ_self _) job.owned ?_
      intro stage id forceSave _ row lease there shows _
      rw [Jobs.get_put_self] at there
      cases there
      simp only [Job.lease, Option.some.injEq] at shows
      exact shows.symm
  · cases h

/-- Retention removes a finished row of its own families. -/
theorem prune_moves {key : JobKey} {cutoff : Time} {db' : Db} (h : prune w.db key cutoff = some db')
    (db : w'.db = db') (failed : w'.failedStages = w.failedStages) : Moves w w' := by
  simp only [prune, Option.bind_eq_bind, Option.bind_eq_some_iff] at h
  obtain ⟨job, found, completedAt, -, h⟩ := h
  rw [Option.ite_none_right_eq_some] at h
  obtain ⟨eligible, written⟩ := h
  cases written
  rw [Bool.and_eq_true, Bool.and_eq_true, Bool.not_eq_true'] at eligible
  refine pruned_moves found eligible.1.1 ?_ failed ?_ ?_ ?_
  all_goals rw [db]

end Runner

section Run
variable {calendar : Publisher.Calendar} {w w' : World} {act : Action}

theorem report_sound {token : Uuid} {attempt : Attempt} {report : Report} {phase : Phase}
    (sound : attempt.Sound w token) (h : attempt.report report = some phase) :
    Attempt.Sound (w.advance token attempt w.db phase) token { attempt with phase := phase } := by
  have calm : Calm w (w.advance token attempt w.db phase) := .of_same rfl rfl
  rcases attempt.report_ok h with refused | ⟨was, underWay, -, identifying⟩
  · exact sound.refused calm.moves refused
  · have active := sound.active_calm calm was
    refine sound.moved calm.moves (fun stage id of current _ => active stage id of current) ?_
      identifying ?_
    · rintro - - - - rfl
      cases underWay
    · rintro rfl
      cases underWay

/-- How a step changes the attempts: not at all, by moving one, by retiring one
    or by starting one. -/
inductive AttemptsMove (w w' : World) : Prop where
  | same (attempts : w'.attempts = w.attempts)
  | moved (token : Uuid) (attempt : Attempt) (attempts : w'.attempts = w.attempts.set token attempt)
      (sound : attempt.Sound w' token)
  | retired (token : Uuid) (attempts : w'.attempts = w.attempts.remove token)

theorem AttemptsMove.sound (inv : Pipeline w) (moves : Moves w w') (change : AttemptsMove w w') :
    ∀ token attempt, w'.attempts.get token = some attempt → attempt.Sound w' token := by
  intro token attempt found
  cases change with
  | same attempts => exact moves.carries inv (attempts ▸ found) found
  | moved other moved attempts sound =>
    by_cases same : token = other
    · subst same
      rw [attempts, Table.get_set_self] at found
      cases found
      exact sound
    · have before := found
      rw [attempts, Table.get_set_ne _ _ same] at before
      exact moves.carries inv before found
  | retired other attempts =>
    by_cases same : token = other
    · subst same
      rw [attempts, Table.get_remove_self] at found
      cases found
    · have before := found
      rw [attempts, Table.get_remove_ne _ same] at before
      exact moves.carries inv before found

theorem Pipeline.absent_fresh (inv : Pipeline w) : w.db.ingests.get w.db.fresh = none := by
  cases found : w.db.ingests.get w.db.fresh with
  | none => rfl
  | some request => exact absurd (inv.drawn _ request found) (Nat.lt_irrefl _)

theorem Pipeline.idle_fresh (inv : Pipeline w) (stage : Stage) (forceSave : Bool) :
    w.db.jobs.get (.stage stage w.db.fresh forceSave) = none := by
  cases found : w.db.jobs.get (.stage stage w.db.fresh forceSave) with
  | none => rfl
  | some job =>
    obtain ⟨request, present⟩ := inv.homed stage _ forceSave job found
    rw [inv.absent_fresh] at present
    cases present

/-- What each step does. -/
theorem step_moves (inv : Pipeline w) (h : step calendar w act = some w') :
    Moves w w' ∧ AttemptsMove w w' := by
  cases act with
  | createIngest submission =>
    simp only [step, Option.ite_none_right_eq_some, Option.some.injEq] at h
    obtain ⟨-, rfl⟩ := h
    refine ⟨?_, .same rfl⟩
    rcases committed_cases w.db (createIngest w.db submission) with same | ⟨answer, ok⟩
    · exact .of_same same rfl
    · rcases createIngest_ok ok with same | ⟨request, effect⟩
      · exact .of_same same rfl
      · exact created_moves inv.absent_fresh inv.idle_fresh effect rfl
  | forceSave id =>
    simp only [step, Option.some.injEq] at h
    subst h
    refine ⟨?_, .same rfl⟩
    rcases committed_cases w.db (forceSave w.db id) with same | ⟨answer, ok⟩
    · exact .of_same same rfl
    · rcases forceSave_ok ok with ⟨same, -⟩ | ⟨request, request', effect⟩
      · exact .of_same same rfl
      · exact resumed_moves effect rfl
  | acceptDuplicate id mediaId =>
    simp only [step, Option.some.injEq] at h
    subst h
    refine ⟨?_, .same rfl⟩
    rcases committed_cases w.db (acceptDuplicate w.db id mediaId) with same | ⟨answer, ok⟩
    · exact .of_same same rfl
    · rcases acceptDuplicate_ok ok with same | ⟨request, request', effect⟩
      · exact .of_same same rfl
      · exact accepted_moves effect rfl
  | createIntent mediaId intent requestKey =>
    simp only [step, Option.some.injEq] at h
    subst h
    refine ⟨?_, .same rfl⟩
    rcases committed_cases w.db
      (Publisher.createPublicationIntent calendar w.db mediaId intent requestKey) with
      same | ⟨answer, ok⟩
    · exact .of_same same rfl
    · have beside := createPublicationIntent_beside ok
      exact Calm.moves ⟨fun _ => by rw [beside.ingests], rfl,
        fun _ _ _ => beside.jobs _ (fun _ => nofun), le_of_eq beside.now.symm, beside.fresh⟩
  | claimJob worker leaseDuration key =>
    obtain ⟨moves, attempt, attempts, sound⟩ := claim_moves (w := w) h
    exact ⟨moves, .moved _ attempt attempts sound⟩
  | heartbeat token leaseDuration =>
    simp only [step, Option.bind_eq_bind, Option.bind_eq_some_iff] at h
    obtain ⟨attempt, -, h⟩ := h
    split at h
    · rename_i jobs renewed ok
      cases h
      exact ⟨heartbeat_moves ok rfl rfl, .same rfl⟩
    · cases h
      exact ⟨.of_same rfl rfl, .same rfl⟩
  | call token outcome =>
    simp only [step, Option.bind_eq_bind, Option.bind_eq_some_iff] at h
    obtain ⟨attempt, found, ⟨db', phase⟩, called, h⟩ := h
    cases h
    obtain ⟨moves, sound⟩ := call_step inv (inv.attempts token attempt found)
      (attempt.call_effect called) found
    exact ⟨moves, .moved token _ rfl sound⟩
  | report token report =>
    simp only [step, Option.bind_eq_bind, Option.bind_eq_some_iff] at h
    obtain ⟨attempt, found, phase, reported, h⟩ := h
    cases h
    exact ⟨.of_same rfl rfl,
      .moved token _ rfl (report_sound (inv.attempts token attempt found) reported)⟩
  | publish token area name =>
    simp only [step, Option.bind_eq_bind, Option.bind_eq_some_iff, publishFile] at h
    obtain ⟨attempt, found, h⟩ := h
    split at h
    · split at h
      · cases h
        exact ⟨.of_same rfl rfl, .same rfl⟩
      · cases h
    · cases h
  | removeFile token path =>
    simp only [step, Option.bind_eq_bind, Option.bind_eq_some_iff, removeFile] at h
    obtain ⟨attempt, found, h⟩ := h
    split at h
    · split at h
      · cases h
        exact ⟨.of_same rfl rfl, .same rfl⟩
      · cases h
    · cases h
  | endCleanup token failure =>
    simp only [step, Option.bind_eq_bind, Option.bind_eq_some_iff, endCleanup] at h
    obtain ⟨attempt, found, h⟩ := h
    have sound := inv.attempts token attempt found
    split at h
    · rename_i cleaning
      have other : attempt.command.stageIngest = none := by
        have type := sound.cleaning cleaning
        cases command : attempt.command <;> simp [command, JobCommand.jobType] at type
        rfl
      split at h
      · cases h
        refine ⟨.of_same rfl rfl, .moved token _ rfl (sound.returned_beside ?_ other _)⟩
        exact .of_same rfl rfl
      · cases h
        refine ⟨.of_same rfl rfl, .moved token _ rfl (sound.returned_beside ?_ other _)⟩
        exact .of_same rfl rfl
    · cases h
  | finish token outcome =>
    simp only [step, Option.bind_eq_bind, Option.bind_eq_some_iff] at h
    obtain ⟨attempt, found, db', finished, h⟩ := h
    cases h
    refine ⟨?_, .retired token rfl⟩
    cases outcome.applied
    · exact .of_same rfl rfl
    · exact finish_moves inv (inv.attempts token attempt found) finished rfl rfl
  | shutdown token outcome =>
    simp only [step, Option.bind_eq_bind, Option.bind_eq_some_iff] at h
    obtain ⟨attempt, found, h⟩ := h
    cases h
    refine ⟨?_, .retired token rfl⟩
    cases outcome.applied
    · exact .of_same rfl rfl
    · exact settle_moves inv (inv.attempts token attempt found) rfl rfl
  | crash token =>
    simp only [step, Option.bind_eq_bind, Option.bind_eq_some_iff] at h
    obtain ⟨attempt, found, h⟩ := h
    cases h
    exact ⟨.of_same rfl rfl, .retired token rfl⟩
  | recover id expected =>
    simp only [step, Option.some.injEq] at h
    subst h
    exact ⟨recover_moves inv rfl rfl, .same rfl⟩
  | prune key cutoff =>
    simp only [step, Option.bind_eq_bind, Option.bind_eq_some_iff] at h
    obtain ⟨db', pruned, h⟩ := h
    cases h
    exact ⟨prune_moves pruned rfl rfl, .same rfl⟩
  | storage call =>
    simp only [step, Option.some.injEq] at h
    subst h
    exact ⟨storage_moves (call.run_write w.db) rfl, .same rfl⟩
  | tick elapsed =>
    simp only [step, Option.some.injEq] at h
    subst h
    exact ⟨.of_rows rfl rfl rfl (Nat.le_add_right _ _) le_rfl, .same rfl⟩
  | setChannel id channel =>
    simp only [step, Option.some.injEq] at h
    subst h
    exact ⟨.of_rows rfl rfl rfl le_rfl le_rfl, .same rfl⟩
  | setMedia id media =>
    simp only [step, Option.some.injEq] at h
    subst h
    exact ⟨.of_rows rfl rfl rfl le_rfl le_rfl, .same rfl⟩
  | editPost id post =>
    simp only [step, Option.ite_none_right_eq_some, Option.some.injEq] at h
    obtain ⟨-, rfl⟩ := h
    exact ⟨.of_rows rfl rfl rfl le_rfl le_rfl, .same rfl⟩
  | putForeignJob job =>
    simp only [step, Option.ite_none_left_eq_some, Option.some.injEq] at h
    obtain ⟨foreign, rfl⟩ := h
    refine ⟨.of_foreign job.id.key ?_ rfl rfl
      (fun other ne => Jobs.get_put_ne _ ne) le_rfl le_rfl, .same rfl⟩
    intro stage id forceSave same
    rw [same] at foreign
    exact foreign rfl
  | deleteForeignJob key =>
    simp only [step, Option.ite_none_left_eq_some, Option.some.injEq] at h
    obtain ⟨foreign, rfl⟩ := h
    refine ⟨.of_foreign key ?_ rfl rfl
      (fun other ne => (Jobs.get_delete _ _ _).trans (if_neg ne)) le_rfl le_rfl, .same rfl⟩
    intro stage id forceSave same
    rw [same] at foreign
    exact foreign rfl
  | drawUuid =>
    simp only [step, Option.some.injEq] at h
    subst h
    exact ⟨.of_rows rfl rfl rfl le_rfl (Nat.le_succ _), .same rfl⟩

/-- What one step keeps. -/
theorem Pipeline.step (inv : Pipeline w) (h : step calendar w act = some w') : Pipeline w' := by
  obtain ⟨moves, change⟩ := step_moves inv h
  refine ⟨?_, ?_, ?_, change.sound inv moves⟩
  · intro id request found
    exact (moves.views id).flow (fun old row => inv.flow id old row) request found
  · intro stage id forceSave job found
    cases row : w'.db.ingests.get id with
    | some request => exact ⟨request, rfl⟩
    | none =>
      have none := (moves.views id).idle (fun absent s f => ?_) row stage forceSave
      · simp [World.view, found] at none
      · cases present : w.db.jobs.get (.stage s id f) with
        | none => simp [World.view, present]
        | some old =>
          obtain ⟨request, there⟩ := inv.homed s id f old present
          have gone : w.db.ingests.get id = none := absent
          rw [there] at gone
          cases gone
  · intro id request found
    rcases moves.drawn id request found with ⟨old, before⟩ | drawn
    · exact lt_of_lt_of_le (inv.drawn id old before) moves.fresh
    · exact drawn

theorem pipeline_initial : Pipeline initial where
  flow := fun _ _ found => by cases found
  homed := fun _ _ _ _ found => by cases found
  drawn := fun _ _ found => by cases found
  attempts := fun _ _ found => by cases found

/-- What every run keeps. -/
theorem Pipeline.run {acts : List Action}
    (run : Run (Inbox.step calendar) Unrestricted initial acts w) : Pipeline w :=
  run_invariant Pipeline (fun inv _ h => inv.step h) pipeline_initial run

end Run

section Liveness
variable {calendar : Publisher.Calendar} {w : World}

/-- The active states before storage. -/
def awaitsStage (request : Ingest) : Bool :=
  match request.status with
  | .queued | .downloading | .probing | .normalizing | .fingerprinting => true
  | .storing => request.mediaId.isNone
  | .failedRetryable => !Library.storageFailed request
  | _ => false

/-- The stage that each active state waits for. -/
def matchingStage (failed : Option Stage) (request : Ingest) : Option Stage :=
  match request.status with
  | .queued => some (firstStage request.kind)
  | .downloading => some (if request.data.download.isSome then .probeAsset else .downloadSource)
  | .probing => some .probeAsset
  | .normalizing => some .normalizeAsset
  | .fingerprinting => some .computeFingerprint
  | .storing => some .finalizeIngest
  | .failedRetryable => failed
  | _ => none

theorem Flow.active_unlinked {request : Ingest} {failed : Option Stage}
    {job : Stage → Bool → Option Bool} (flow : Flow request failed job)
    (active : awaitsStage request = true) : request.mediaId = none := by
  cases media : request.mediaId with
  | none => rfl
  | some mediaId =>
    have linked := (flow.linked (by rw [media]; rfl)).status
    cases status : request.status <;> simp_all [awaitsStage]

theorem matchingStage_eq {request : Ingest} (failed : Option Stage)
    (unlinked : request.mediaId = none) : drivingStage failed request = matchingStage failed request := by
  simp only [drivingStage, unlinked, Option.isSome_none, Bool.false_eq_true, if_false]
  rfl

theorem Flow.matching {request : Ingest} {failed : Option Stage}
    {job : Stage → Bool → Option Bool} (flow : Flow request failed job)
    (active : awaitsStage request = true) : ∃ stage, matchingStage failed request = some stage := by
  have unlinked := flow.active_unlinked active
  cases status : request.status <;> simp [awaitsStage, status] at active <;>
    simp only [matchingStage, status, Option.some.injEq, exists_eq']
  exact Option.isSome_iff_exists.mp (flow.recorded status unlinked)

/-- In every reachable state an active ingest has exactly one live stage job, of
    the stage its state waits for; and whenever a step makes another stage the
    one that is waited for, the key of that stage's job was free. -/
theorem active_ingests_are_driven {acts : List Action}
    (run : Run (step calendar) Unrestricted initial acts w) :
    (∀ id request, w.db.ingests.get id = some request → awaitsStage request = true →
      ∃ stage job, matchingStage (w.failedStages.get id) request = some stage ∧
        w.db.jobs.get (.stage stage id request.forceSave) = some job ∧
        job.command.jobType = .stage stage ∧ job.state.live = true ∧
        ∀ key other, w.db.jobs.get key = some other → other.command.stageIngest = some id →
          other.state.live = true → other = job) ∧
    (∀ act w' id request' stage, step calendar w act = some w' →
      w'.db.ingests.get id = some request' → awaitsStage request' = true →
      matchingStage (w'.failedStages.get id) request' = some stage →
      (∀ request, w.db.ingests.get id = some request → request.forceSave = request'.forceSave →
        matchingStage (w.failedStages.get id) request ≠ some stage) →
      w.db.jobs.get (.stage stage id request'.forceSave) = none) := by
  have inv := Pipeline.run run
  refine ⟨?_, ?_⟩
  · intro id request found active
    have flow := inv.flow id request found
    obtain ⟨stage, waits⟩ := flow.matching active
    have driving := (matchingStage_eq (w.failedStages.get id) (flow.active_unlinked active)).trans waits
    have live := flow.driven stage driving
    simp only [World.view, Option.map_eq_some_iff] at live
    obtain ⟨job, there, lives⟩ := live
    have owned := job.owned
    rw [w.db.jobs.get_key there] at owned
    simp only [JobKey.owns, Bool.and_eq_true, beq_iff_eq] at owned
    refine ⟨stage, job, waits, there, owned.1, lives, ?_⟩
    intro key other row ingest running
    obtain ⟨kind, of⟩ := stageCommand_of_stageIngest ingest
    obtain ⟨flag, keyed⟩ := stageKey_of_command other.owned of
    rw [w.db.jobs.get_key row] at keyed
    subst keyed
    have only := flow.only kind flag (by simp [World.view, row, running])
    rcases only with ⟨drives, current⟩ | closed
    · rw [driving, Option.some.injEq] at drives
      subst drives current
      rw [there] at row
      exact (Option.some.inj row).symm
    · simp [closed.undriven] at driving
  · intro act w' id request' stage one here active waits new
    obtain ⟨moves, -⟩ := step_moves inv one
    have after := (inv.step one).flow id request' here
    have driving :=
      (matchingStage_eq (w'.failedStages.get id) (after.active_unlinked active)).trans waits
    have free := (moves.views id).key_free (fun request row => inv.flow id request row) here driving
      (fun request row same drives => new request row same
        ((matchingStage_eq _ (drivingStage_media drives)).symm.trans drives))
    simpa [World.view] using free

def sampleSubmission (action : RequestedAction) : IngestSubmission where
  kind := .url
  normalizedUrl := "https://example.org/clip"
  telegramWorkspaceId := none
  mimeType := none
  fileName := none
  mediaKind := none
  suppliedDescription := none
  suppliedTags := []
  requestedAction := action
  requestedPublishAt := none
  requestedPostCaption := none
  idempotencyKey := none
  requestHash := "clip"

/-- An inspection that fails for now: its own job stays the one that drives the
    ingest. -/
theorem active_ingest_is_driven_after_failure :
    ∃ w request, exec (step Publisher.sampleCalendar) initial
        [.createIngest (sampleSubmission .save),
          .claimJob "a" (30 * second) (.stage .inspectSource 0 false), .call 2 .answered,
          .report 2 (.failed (.retryableFailure "source_unavailable" "timeout")),
          .call 2 .answered] = some w ∧
      w.db.ingests.get 0 = some request ∧ request.status = .failedRetryable ∧
      ∃ stage job, matchingStage (w.failedStages.get 0) request = some stage ∧
        w.db.jobs.get (.stage stage 0 request.forceSave) = some job ∧
        job.state.live = true := by
  obtain ⟨w, reached⟩ : ∃ w, exec (step Publisher.sampleCalendar) initial
      [.createIngest (sampleSubmission .save),
        .claimJob "a" (30 * second) (.stage .inspectSource 0 false), .call 2 .answered,
        .report 2 (.failed (.retryableFailure "source_unavailable" "timeout")),
        .call 2 .answered] = some w := ⟨_, rfl⟩
  obtain ⟨request, found, status, active⟩ : ∃ request, w.db.ingests.get 0 = some request ∧
      request.status = .failedRetryable ∧ awaitsStage request = true := by
    cases reached
    exact ⟨_, rfl, rfl, rfl⟩
  obtain ⟨stage, job, waits, there, -, live, -⟩ :=
    (active_ingests_are_driven (run_of_exec reached)).1 0 request found active
  exact ⟨w, request, reached, found, status, stage, job, waits, there, live⟩

end Liveness

end Sooqa.Inbox
