import Sooqa.Inbox.Flow
import Sooqa.Inbox.Calls

/-!
The steps of the ingest side as moves of its views: each effect on the store
shifts the view of one ingest, leaves those of all others, and shows no lease
but old ones and the one it drew.
-/
namespace Sooqa.Inbox
open Foundation Queue Worker
open Library (SameRequest Linked)

section Moves

/-- The attempt that recorded the result or the failure of a stage, which is
    over with it. -/
structure RecordedBy (w w' : World) (id : Uuid) (stage : Stage) (token : Uuid)
    (attempt after : Attempt) : Prop where
  acting : w.attempts.get token = some attempt
  of : StageCommand attempt.command stage id
  current : isCurrent w.db attempt.lease = true
  underWay : attempt.phase.underWay = true
  ended : w'.attempts.get token = some after
  finished : after.phase.underWay = false

def Recorded (w w' : World) (id : Uuid) (stage : Stage) : Prop :=
  ∃ token attempt after, RecordedBy w w' id stage token attempt after

/-- What a step does to the ingests and their stage jobs. -/
structure Moves (w w' : World) : Prop where
  views : ∀ id, Shift (Recorded w w' id) (w.view id) (w'.view id)
  leases : ∀ stage id forceSave,
    Stamped w.db.fresh w.db.now w.db.jobs w'.db.jobs (.stage stage id forceSave)
  now : w.db.now ≤ w'.db.now
  fresh : w.db.fresh ≤ w'.db.fresh
  drawn : ∀ id request, w'.db.ingests.get id = some request →
    (∃ old, w.db.ingests.get id = some old) ∨ id < w'.db.fresh

variable {w w' : World}

/-- A view that did not move. -/
theorem Shift.still {records : Stage → Prop} {id : Uuid}
    (row : w'.db.ingests.get id = w.db.ingests.get id)
    (failed : w'.failedStages.get id = w.failedStages.get id)
    (jobs : ∀ stage forceSave, (w'.db.jobs.get (.stage stage id forceSave)).map (·.state.live) =
      (w.db.jobs.get (.stage stage id forceSave)).map (·.state.live)) :
    Shift records (w.view id) (w'.view id) :=
  .steady row failed (fun stage forceSave => Or.inl (jobs stage forceSave))

/-- No ingest moved and no stage job changed. -/
structure Calm (w w' : World) : Prop where
  ingests : ∀ id, w'.db.ingests.get id = w.db.ingests.get id
  failed : w'.failedStages = w.failedStages
  jobs : ∀ stage id forceSave,
    w'.db.jobs.get (.stage stage id forceSave) = w.db.jobs.get (.stage stage id forceSave)
  now : w.db.now ≤ w'.db.now
  fresh : w.db.fresh ≤ w'.db.fresh

theorem Calm.moves (calm : Calm w w') : Moves w w' where
  views := fun id => .still (calm.ingests id) (by rw [calm.failed])
    (fun stage forceSave => by rw [calm.jobs])
  leases := fun stage id forceSave => .of_same _ (calm.jobs stage id forceSave)
  now := calm.now
  fresh := calm.fresh
  drawn := fun id request found => Or.inl ⟨request, calm.ingests id ▸ found⟩

/-- One job row changed, and no stage job in whether it is live. -/
theorem moves_of_put (job old : Job) (present : w.db.jobs.get job.id.key = some old)
    (live : job.state.live = old.state.live)
    (leases : Stamped w.db.fresh w.db.now w.db.jobs (w.db.jobs.put job) job.id.key)
    (ingests : w'.db.ingests = w.db.ingests) (failed : w'.failedStages = w.failedStages)
    (jobs : w'.db.jobs = w.db.jobs.put job) (now : w.db.now ≤ w'.db.now)
    (fresh : w.db.fresh ≤ w'.db.fresh) : Moves w w' where
  views := by
    intro id
    refine .still (by rw [ingests]) (by rw [failed]) (fun stage forceSave => ?_)
    rw [jobs, Jobs.get_put]
    split
    · rename_i same
      rw [same, present]
      simp [live]
    · rfl
  leases := by
    intro stage id forceSave
    rw [jobs]
    by_cases same : JobKey.stage stage id forceSave = job.id.key
    · rw [same]
      exact leases
    · exact .of_same _ (Jobs.get_put_ne _ same)
  now := now
  fresh := fresh
  drawn := fun id request found => Or.inl ⟨request, ingests ▸ found⟩

/-- A row outside the stages changed, or none. -/
theorem Calm.of_foreign {key : JobKey} (foreign : ∀ stage id forceSave, key ≠ .stage stage id forceSave)
    (ingests : w'.db.ingests = w.db.ingests) (failed : w'.failedStages = w.failedStages)
    (jobs : ∀ other, other ≠ key → w'.db.jobs.get other = w.db.jobs.get other)
    (now : w.db.now ≤ w'.db.now) (fresh : w.db.fresh ≤ w'.db.fresh) : Calm w w' where
  ingests := fun _ => by rw [ingests]
  failed := failed
  jobs := fun stage id forceSave => jobs _ (Ne.symm (foreign stage id forceSave))
  now := now
  fresh := fresh

end Moves

section Keys

theorem stageKey_of_command {key : JobKey} {command : JobCommand} {stage : Stage} {id : Uuid}
    (owned : key.owns command = true) (of : StageCommand command stage id) :
    ∃ forceSave, key = .stage stage id forceSave := by
  obtain ⟨stageOf, ingestOf⟩ := of
  cases key with
  | stage other i forceSave =>
    simp only [JobKey.owns, stageOf, ingestOf, Bool.and_eq_true, beq_iff_eq, JobType.stage.injEq,
      Option.some.injEq] at owned
    obtain ⟨rfl, rfl⟩ := owned
    exact ⟨forceSave, rfl⟩
  | _ =>
    cases command <;> simp [JobKey.owns] at owned
    all_goals cases stageOf

theorem live_of_lease {job : Job} {lease : JobLease} (shows : job.lease = some lease) :
    job.state.live = true := by
  obtain ⟨columns, running, -⟩ := Job.lease_eq_some.mp shows
  rw [running]
  rfl

/-- The row of a current lease is live. -/
theorem live_of_current {w : World} {lease : JobLease} {stage : Stage} {id : Uuid}
    {forceSave : Bool} (current : isCurrent w.db lease = true)
    (key : lease.jobId.key = .stage stage id forceSave) :
    (w.view id).job stage forceSave = some true := by
  obtain ⟨job, locked⟩ := isCurrent_eq_true.mp current
  obtain ⟨found, shows, -⟩ := lockCurrentJobAttempt_eq_some.mp locked
  rw [key] at found
  simp [World.view, found, live_of_lease shows]

/-- The stage jobs of a table with one stage row written. -/
theorem live_put {jobs : Jobs} {row : Job} {stage : Stage} {id : Uuid} {forceSave : Bool}
    (key : row.id.key = .stage stage id forceSave) (other : Stage) (j : Uuid) (flag : Bool) :
    ((jobs.put row).get (.stage other j flag)).map (·.state.live) =
      if other = stage ∧ j = id ∧ flag = forceSave then some row.state.live
      else (jobs.get (.stage other j flag)).map (·.state.live) := by
  rw [Jobs.get_put, key]
  simp only [JobKey.stage.injEq]
  split <;> rfl

theorem not_stage_of_followsUp {id : Uuid} {key : JobKey} (h : followsUp id key) :
    ∀ stage other forceSave, key ≠ .stage stage other forceSave := by
  rintro stage other forceSave rfl
  exact h

theorem not_stage_of_cleanup {key : JobKey} (h : IsCleanup key) :
    ∀ stage other forceSave, key ≠ .stage stage other forceSave := by
  rintro stage other forceSave rfl
  obtain ⟨_, _, same⟩ := h
  cases same

/-- Inserts outside the stages leave the stage jobs alone. -/
theorem stages_of_added {kind : JobKey → Prop} {jobs jobs' : Jobs} (added : Added kind jobs jobs')
    (foreign : ∀ key, kind key → ∀ stage id forceSave, key ≠ .stage stage id forceSave)
    (stage : Stage) (id : Uuid) (forceSave : Bool) :
    jobs'.get (.stage stage id forceSave) = jobs.get (.stage stage id forceSave) :=
  added.other (fun right => foreign _ right stage id forceSave rfl)

/-- An insert under one stage key leaves a live row there, unless one was there. -/
theorem live_added {jobs jobs' : Jobs} {stage : Stage} {id : Uuid} {forceSave : Bool}
    (added : Added (· = .stage stage id forceSave) jobs jobs')
    (present : ∃ job, jobs'.get (.stage stage id forceSave) = some job) (other : Stage) (j : Uuid)
    (flag : Bool) :
    (jobs'.get (.stage other j flag)).map (·.state.live) =
      if other = stage ∧ j = id ∧ flag = forceSave then
        some (((jobs.get (.stage other j flag)).map (·.state.live)).getD true)
      else (jobs.get (.stage other j flag)).map (·.state.live) := by
  split
  · rename_i same
    obtain ⟨rfl, rfl, rfl⟩ := same
    obtain ⟨job, found⟩ := present
    rcases added (.stage other j flag) with old | ⟨absent, -, new, there, queued⟩
    · rw [← old, found]
      rfl
    · rw [absent, there]
      simp [queued, JobState.live]
  · rename_i different
    rw [added.other]
    intro same
    simp only [JobKey.stage.injEq] at same
    exact different same

end Keys

section Stages
variable {w w' : World} {id : Uuid} {stage : Stage} {forceSave : Bool} {lease : JobLease}
  {request request' : Ingest}

theorem begun_moves (effect : Begun w.db w'.db id stage lease request request')
    (key : lease.jobId.key = .stage stage id forceSave)
    (failed : w'.failedStages = w.failedStages) : Moves w w' where
  views := by
    intro other
    by_cases same : other = id
    · subst same
      exact .begun stage request request' effect.found effect.write.here effect.admitted
        ⟨forceSave, live_of_current effect.current key⟩ effect.status effect.same effect.mediaId
        effect.data (by simp [World.view, failed]) (by simp [World.view, effect.jobs])
    · exact .still (effect.write.others other same) (by rw [failed]) (by simp [effect.jobs])
  leases := fun _ _ _ => .of_same _ (by rw [effect.jobs])
  now := le_of_eq effect.write.now.symm
  fresh := effect.write.fresh
  drawn := by
    intro other row found
    by_cases same : other = id
    · subst same
      exact Or.inl ⟨request, effect.found⟩
    · exact Or.inl ⟨row, effect.write.others other same ▸ found⟩

theorem handedOver_moves {job : Job} {jobs : Jobs}
    (effect : HandedOver w.db w'.db id stage lease request request' job jobs)
    (key : lease.jobId.key = .stage stage id forceSave)
    (failed : w'.failedStages = w.failedStages) (recorded : Recorded w w' id stage) :
    Moves w w' := by
  obtain ⟨found, shows, -⟩ := lockCurrentJobAttempt_eq_some.mp effect.current
  have own : (job.succeeded w.db.now).id.key = .stage stage id forceSave :=
    (w.db.jobs.get_key found).trans key
  have live : (w.view id).job stage forceSave = some true :=
    live_of_current (isCurrent_eq_true.mpr ⟨job, effect.current⟩) key
  have after : ∀ other j flag, (w'.db.jobs.get (.stage other j flag)).map (·.state.live) =
      if other = stage ∧ j = id ∧ flag = forceSave then some false
      else (jobs.get (.stage other j flag)).map (·.state.live) := by
    intro other j flag
    rw [effect.jobs]
    exact live_put own other j flag
  obtain ⟨kind, added⟩ := effect.outcome.added
  -- The inserts of every outcome leave the stage jobs of other ingests alone.
  have elsewhere : ∀ other j flag, j ≠ id →
      jobs.get (.stage other j flag) = w.db.jobs.get (.stage other j flag) := by
    intro other j flag ne
    cases effect.outcome with
    | next successor later media running driven present added =>
      exact added.other (fun same => ne (JobKey.stage.inj same).2.1)
    | closed media status added => exact stages_of_added added (fun _ => not_stage_of_followsUp) _ _ _
    | pending media status unforced added =>
      exact stages_of_added added (fun _ => not_stage_of_followsUp) _ _ _
    | linked linked added promised => exact stages_of_added added (fun _ => not_stage_of_followsUp) _ _ _
  refine ⟨fun other => ?_, fun s j f => ?_, le_of_eq effect.write.now.symm, effect.write.fresh, ?_⟩
  · by_cases same : other = id
    · subst same
      have kept : Added (followsUp other) w.db.jobs jobs → ∀ o flag,
          (w'.view other).job o flag =
            if o = stage ∧ flag = forceSave then some false else (w.view other).job o flag := by
        intro foreign o flag
        simp only [World.view, after, true_and]
        rw [stages_of_added foreign (fun _ => not_stage_of_followsUp)]
      cases effect.outcome with
      | next successor later media running driven present added =>
        refine .advanced stage successor recorded forceSave request request' effect.found
          effect.write.here
          effect.active live later effect.same media driven (fun o flag => ?_)
        simp only [World.view, after, true_and, live_added added present]
      | closed media status added =>
        exact .finished stage forceSave request request' effect.found effect.write.here
          effect.active live effect.same (Or.inl ⟨status, media⟩) (kept added)
      | pending media status unforced added =>
        exact .finished stage forceSave request request' effect.found effect.write.here
          effect.active live effect.same (Or.inr (Or.inl ⟨status, media, unforced⟩)) (kept added)
      | linked linked added promised =>
        exact .finished stage forceSave request request' effect.found effect.write.here
          effect.active live effect.same (Or.inr (Or.inr linked)) (kept added)
    · refine .still (effect.write.others other same) (by rw [failed]) (fun o flag => ?_)
      rw [after, if_neg (fun all => same all.2.1), elsewhere o other flag same]
  · rw [effect.jobs]
    exact ((added.fenced _).trans (.put_idle _ (job.succeeded_idle _))).stamped _ _
  · intro other row present
    by_cases same : other = id
    · subst same
      exact Or.inl ⟨request, effect.found⟩
    · exact Or.inl ⟨row, effect.write.others other same ▸ present⟩

theorem failed_moves (flow : Flow request (w.failedStages.get id) (w.view id).job)
    (effect : Failed w.db w'.db id stage lease request request')
    (key : lease.jobId.key = .stage stage id forceSave)
    (failed : w'.failedStages = w.failedStages.set id stage)
    (recorded : Recorded w w' id stage) : Moves w w' := by
  have live := live_of_current effect.current key
  have jobs : ∀ other j flag, w'.db.jobs.get (.stage other j flag) =
      w.db.jobs.get (.stage other j flag) :=
    stages_of_added effect.jobs (fun _ => not_stage_of_cleanup)
  refine ⟨fun other => ?_, fun s j f => .of_same _ (jobs s j f),
    le_of_eq effect.write.now.symm, effect.write.fresh, ?_⟩
  · by_cases same : other = id
    · subst same
      rcases effect.status with retryable | terminal
      · refine .retrying stage recorded request request' effect.found effect.write.here
          effect.active ⟨forceSave, live⟩ retryable effect.same effect.mediaId effect.data ?_ ?_
        · simp [World.view, failed]
        · simp [World.view, jobs]
      · obtain ⟨driving, -⟩ := flow.driving live
          (effect.active ▸ stageStatus_ne_failedTerminal stage)
        refine .closed request request' effect.found effect.write.here effect.same
          ⟨terminal, effect.mediaId.trans (drivingStage_media driving)⟩ (fun s f absent => ?_)
          (drivingStage_media driving) ⟨stage, forceSave, live⟩
        simp only [World.view, jobs] at absent ⊢
        exact absent
    · refine .still (effect.write.others other same) ?_ (by simp [jobs])
      rw [failed, Table.get_set_ne _ _ same]
  · intro other row present
    by_cases same : other = id
    · subst same
      exact Or.inl ⟨request, effect.found⟩
    · exact Or.inl ⟨row, effect.write.others other same ▸ present⟩

/-- An ingest whose live job ends with its last attempt. -/
theorem abandoned_closed (flow : Flow request (w.failedStages.get id) (w.view id).job)
    (live : (w.view id).job stage forceSave = some true) (now : Time) :
    Closed (abandonedIngest now request) := by
  rcases flow.only stage forceSave live with ⟨driving, -⟩ | closed
  · have media := drivingStage_media driving
    unfold abandonedIngest
    split
    · rename_i terminal
      cases status : request.status <;> simp [drivingStage, media, status, IngestStatus.isTerminal]
        at driving terminal
    · exact ⟨rfl, media⟩
  · simp only [abandonedIngest, closed.status, IngestStatus.isTerminal, if_true]
    exact closed

theorem settled_moves {job : Job}
    (flow : ∀ request, w.db.ingests.get id = some request →
      Flow request (w.failedStages.get id) (w.view id).job)
    (homed : ∃ request, w.db.ingests.get id = some request)
    (effect : StageSettled w.db w'.db job id)
    (found : w.db.jobs.get job.id.key = some job) (shows : job.lease = some lease)
    (key : job.id.key = .stage stage id forceSave)
    (failed : w'.failedStages = w.failedStages) : Moves w w' := by
  have live : (w.view id).job stage forceSave = some true := by
    simp [World.view, ← key, found, live_of_lease shows]
  have fenced := effect.fenced w.db.now
  cases effect with
  | requeued settled jobs same state ingests posts now fresh =>
    refine moves_of_put settled job (same ▸ found) ?_ ?_ ingests failed jobs
      (le_of_eq now.symm) fresh
    · rw [state, live_of_lease shows]
      rfl
    · rw [← jobs]
      exact fenced.stamped _ _
  | orphaned settled jobs same state absent =>
    obtain ⟨request, present⟩ := homed
    rw [absent] at present
    cases present
  | abandoned settled middle added jobs same state request present write =>
    have own : settled.id.key = .stage stage id forceSave := by rw [same, key]
    have stages : ∀ other j flag, middle.get (.stage other j flag) =
        w.db.jobs.get (.stage other j flag) :=
      stages_of_added added (fun _ => not_stage_of_cleanup)
    refine ⟨fun other => ?_, fun s j f => fenced.stamped _ _, le_of_eq write.now.symm,
      write.fresh, ?_⟩
    · by_cases here : other = id
      · subst here
        refine .closed request _ present write.here ?_
          (abandoned_closed (flow request present) live w.db.now) (fun s f absent => ?_)
          ((flow request present).unlinked_of_live live) ⟨stage, forceSave, live⟩
        · unfold abandonedIngest
          split
          · exact .refl request
          · exact ⟨rfl, rfl, rfl, rfl⟩
        · simp only [World.view] at absent ⊢
          rw [jobs, live_put own, stages, if_neg, absent]
          rintro ⟨rfl, -, rfl⟩
          simp only [World.view] at live
          rw [live] at absent
          cases absent
      · refine .still (write.others other here) (by rw [failed]) (fun s f => ?_)
        rw [jobs, live_put own, if_neg (fun all => here all.2.1), stages]
    · intro other row there
      by_cases here : other = id
      · subst here
        exact Or.inl ⟨request, present⟩
      · exact Or.inl ⟨row, write.others other here ▸ there⟩

/-- A job of a closed ingest may end at any time. -/
theorem succeeded_moves {job : Job} (found : w.db.jobs.get job.id.key = some job)
    (live : job.state.live = true) (key : job.id.key = .stage stage id forceSave) (present : w.db.ingests.get id = some request)
    (closed : Closed request) (ingests : w'.db.ingests = w.db.ingests)
    (failed : w'.failedStages = w.failedStages)
    (jobs : w'.db.jobs = w.db.jobs.put (job.succeeded w.db.now)) (now : w.db.now ≤ w'.db.now)
    (fresh : w.db.fresh ≤ w'.db.fresh) : Moves w w' where
  views := by
    intro other
    have own : (job.succeeded w.db.now).id.key = .stage stage id forceSave := key
    by_cases same : other = id
    · subst same
      refine .closed request request present (by simp [World.view, ingests, present])
        (.refl request) closed (fun s f absent => ?_) closed.media
        ⟨stage, forceSave, by simp [World.view, ← key, found, live]⟩
      simp only [World.view] at absent ⊢
      rw [jobs, live_put own, if_neg, absent]
      rintro ⟨rfl, -, rfl⟩
      rw [← key, found] at absent
      cases absent
    · refine .still (by rw [ingests]) (by rw [failed]) (fun s f => ?_)
      rw [jobs, live_put own, if_neg (fun all => same all.2.1)]
  leases := fun s j f => by
    rw [jobs]
    exact (Fenced.put_idle _ (job.succeeded_idle _)).stamped _ _
  now := now
  fresh := fresh
  drawn := fun other row there => Or.inl ⟨row, ingests ▸ there⟩

end Stages

section Lifecycle
variable {w w' : World} {id : Uuid} {request request' : Ingest}

theorem created_moves {submission : IngestSubmission}
    (absent : w.db.ingests.get w.db.fresh = none)
    (idle : ∀ stage forceSave, w.db.jobs.get (.stage stage w.db.fresh forceSave) = none)
    (effect : Created w.db w'.db submission request) (failed : w'.failedStages = w.failedStages) :
    Moves w w' where
  views := by
    intro other
    have rows := live_added effect.added effect.present
    by_cases same : other = w.db.fresh
    · subst same
      refine .created request absent effect.write.here effect.status effect.media effect.unforced
        effect.unrecorded (by simp [World.view, idle]) (fun stage forceSave => ?_)
      simp only [World.view, rows, true_and, idle, Option.map_none, Option.getD_none]
    · refine .still (effect.write.others other same) (by rw [failed]) (fun stage forceSave => ?_)
      rw [rows, if_neg (fun all => same all.2.1)]
  leases := fun _ _ _ => (effect.added.fenced _).stamped _ _
  now := le_of_eq effect.write.now.symm
  fresh := effect.write.fresh
  drawn := by
    intro other row present
    by_cases same : other = w.db.fresh
    · subst same
      exact Or.inr effect.drawn
    · exact Or.inl ⟨row, effect.write.others other same ▸ present⟩

theorem resumed_moves (effect : Resumed w.db w'.db id request request')
    (failed : w'.failedStages = w.failedStages) : Moves w w' where
  views := by
    intro other
    have rows := live_added effect.added effect.present
    by_cases same : other = id
    · subst same
      refine .resumed request request' effect.found effect.write.here effect.pending effect.status
        effect.kind effect.action effect.media effect.forced effect.unrecorded
        (fun stage forceSave => ?_)
      simp only [World.view, rows, true_and]
      split
      · rename_i first
        rw [first.2]
      · rfl
    · refine .still (effect.write.others other same) (by rw [failed]) (fun stage forceSave => ?_)
      rw [rows, if_neg (fun all => same all.2.1)]
  leases := fun _ _ _ => (effect.added.fenced _).stamped _ _
  now := le_of_eq effect.write.now.symm
  fresh := effect.write.fresh
  drawn := by
    intro other row present
    by_cases same : other = id
    · subst same
      exact Or.inl ⟨request, effect.found⟩
    · exact Or.inl ⟨row, effect.write.others other same ▸ present⟩

theorem accepted_moves (effect : Accepted w.db w'.db id request request')
    (failed : w'.failedStages = w.failedStages) : Moves w w' where
  views := by
    intro other
    have rows := stages_of_added effect.added (fun _ => not_stage_of_followsUp)
    by_cases same : other = id
    · subst same
      refine .relinked request request' effect.found effect.write.here effect.same
        (Or.inl effect.pending) effect.linked (fun stage forceSave => Or.inl ?_)
      simp only [World.view, rows]
    · exact .still (effect.write.others other same) (by rw [failed]) (by simp [rows])
  leases := fun _ _ _ => (effect.added.fenced _).stamped _ _
  now := le_of_eq effect.write.now.symm
  fresh := effect.write.fresh
  drawn := by
    intro other row present
    by_cases same : other = id
    · subst same
      exact Or.inl ⟨request, effect.found⟩
    · exact Or.inl ⟨row, effect.write.others other same ▸ present⟩

theorem storage_moves (effect : Library.StorageWrite w.db w'.db)
    (failed : w'.failedStages = w.failedStages) : Moves w w' := by
  have rows : ∀ stage j forceSave, w'.db.jobs.get (.stage stage j forceSave) =
      w.db.jobs.get (.stage stage j forceSave) := by
    intro stage j forceSave
    rcases effect.jobs (.stage stage j forceSave) (by rintro ⟨_, _, same⟩; cases same) with
      same | ⟨-, follows, -⟩
    · exact same
    · exact follows.elim
  refine ⟨fun other => ?_, fun s j f => .of_same _ (rows s j f), le_of_eq effect.now.symm,
    effect.fresh, ?_⟩
  · rcases effect.ingests other with same | ⟨request, request', found, here, relinked⟩
    · exact .still same (by rw [failed]) (by simp [rows])
    · refine .relinked request request' found here relinked.same (Or.inr ?_) relinked.linked
        (fun stage forceSave => Or.inl ?_)
      · refine ⟨?_, relinked.media, relinked.data⟩
        rw [← relinked.media]
        exact relinked.linked.media
      · simp only [World.view, rows]
  · intro other row present
    rcases effect.ingests other with same | ⟨request, _, found, -, -⟩
    · exact Or.inl ⟨row, same ▸ present⟩
    · exact Or.inl ⟨request, found⟩

/-- Retention removes rows that are not live. -/
theorem pruned_moves {key : JobKey} {job : Job} (found : w.db.jobs.get key = some job)
    (dead : job.state.live = false) (ingests : w'.db.ingests = w.db.ingests)
    (failed : w'.failedStages = w.failedStages) (jobs : w'.db.jobs = w.db.jobs.delete key)
    (now : w.db.now ≤ w'.db.now) (fresh : w.db.fresh ≤ w'.db.fresh) : Moves w w' where
  views := by
    intro other
    refine .steady (by simp [World.view, ingests]) (by simp [World.view, failed])
      (fun stage forceSave => ?_)
    simp only [World.view, jobs, Jobs.get_delete]
    split
    · rename_i same
      rw [same, found]
      simp [dead]
    · exact Or.inl rfl
  leases := fun _ _ _ => by
    rw [jobs]
    exact (Fenced.delete _ key).stamped _ _
  now := now
  fresh := fresh
  drawn := fun other row there => Or.inl ⟨row, ingests ▸ there⟩

end Lifecycle

end Sooqa.Inbox
