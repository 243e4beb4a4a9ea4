import Sooqa.Inbox.Pipeline

/-!
The directory each stage works in. A generation of an ingest is one value of
its force-save flag, the flag that its stage keys carry; only a forced save
moves an ingest to the next generation, and with it to a fresh workspace. The
download names its directory by the ingest, every other stage by the workspace
of the ingest it began with, so the two part where a download begins for an
ingest whose workspace is not named by it.
-/
namespace Sooqa.Inbox
open Foundation Queue Worker
open Library (SameRequest Linked)

section Generations

/-- An earlier row of an ingest: the flag is only ever raised, and the
    workspace stays with it. -/
structure Earlier (old new : Ingest) : Prop where
  kind : new.kind = old.kind
  action : new.requestedAction = old.requestedAction
  forced : old.forceSave = true → new.forceSave = true
  workspaceId : new.forceSave = old.forceSave → new.workspaceId = old.workspaceId

theorem Earlier.of_same {old new : Ingest} (same : SameRequest old new) : Earlier old new :=
  ⟨same.kind, same.requestedAction, fun forced => same.forceSave.trans forced,
    fun _ => same.workspaceId⟩

theorem Earlier.refl (request : Ingest) : Earlier request request := .of_same (.refl request)

theorem Earlier.trans {a b c : Ingest} (first : Earlier a b) (second : Earlier b c) :
    Earlier a c where
  kind := second.kind.trans first.kind
  action := second.action.trans first.action
  forced := fun forced => second.forced (first.forced forced)
  workspaceId := by
    intro same
    have middle : b.forceSave = a.forceSave := by
      cases flag : b.forceSave with
      | true => rw [← same, second.forced flag]
      | false =>
        cases early : a.forceSave with
        | false => rfl
        | true => rw [first.forced early] at flag; cases flag
    exact (second.workspaceId (same.trans middle.symm)).trans (first.workspaceId middle)

/-- No step takes an ingest back to an earlier generation. -/
theorem Shift.earlier {records : Stage → Prop} {v v' : View} {old : Ingest}
    (shift : Shift records v v') (flow : Flow old v.failed v.job) (found : v.row = some old) :
    ∃ new, v'.row = some new ∧ Earlier old new := by
  have here : ∀ {request new}, v.row = some request → v'.row = some new →
      SameRequest request new → ∃ new, v'.row = some new ∧ Earlier old new := by
    intro request new row there same
    rw [found] at row
    cases row
    exact ⟨new, there, .of_same same⟩
  cases shift with
  | steady same => exact ⟨old, same.trans found, .refl old⟩
  | created request absent =>
    rw [found] at absent
    cases absent
  | begun stage request new row there admitted live status same => exact here row there same
  | advanced stage successor recorded flag request new row there active live later same =>
    exact here row there same
  | finished stage flag request new row there active live same => exact here row there same
  | retrying stage recorded request new row there active live status same =>
    exact here row there same
  | closed request new row there same => exact here row there same
  | relinked request new row there same => exact here row there same
  | resumed request new row there pending status kind action media forced =>
    rw [found] at row
    cases row
    refine ⟨new, there, kind, action, fun _ => forced, fun same => ?_⟩
    rw [forced, flow.pending pending] at same
    cases same

end Generations

section Placement

/-- From the download on, a URL ingest works in the directory it names. -/
def Rooted (id : Uuid) (stage : Stage) (request : Ingest) : Prop :=
  1 ≤ Stage.rank stage → stage = .downloadSource ∨ request.kind = .url → request.workspaceId = id

theorem Rooted.later {id : Uuid} {stage : Stage} {old new : Ingest} (rooted : Rooted id stage old)
    (earlier : Earlier old new) (same : new.forceSave = old.forceSave) : Rooted id stage new := by
  intro late source
  rw [earlier.workspaceId same]
  exact rooted late (source.imp_right earlier.kind.symm.trans)

/-- What an attempt of a stage knows of its directory. -/
structure Placed (w : World) (attempt : Attempt) (stage : Stage) (id : Uuid) (forceSave : Bool) :
    Prop where
  flagged : forceSave = true →
    ∃ row, w.db.ingests.get id = some row ∧ row.forceSave = true
  admitted : ∀ snapshot, attempt.phase = .admitted snapshot →
    (forceSave = true → snapshot.forceSave = true) ∧
      ∃ row, w.db.ingests.get id = some row ∧ Earlier snapshot row
  working : ∀ snapshot request, attempt.phase = .working snapshot request →
    request.forceSave = forceSave ∧ Rooted id stage request ∧
      (∀ read, snapshot = some read → read.workspaceId = request.workspaceId) ∧
      ∃ row, w.db.ingests.get id = some row ∧ Earlier request row
  underWay : attempt.phase.underWay = true →
    ∃ row, w.db.ingests.get id = some row ∧ (row.forceSave = forceSave → Rooted id stage row)

/-- A file lies in the directory of the generation it was published for, and a
    downloaded source in the directory of its ingest. -/
structure Filed (path : Path) (origin : Origin) : Prop where
  workspace : path.workspaceId = origin.workspaceId
  source : path.area = .source → path.name = sourceInput → origin.ingestId = path.workspaceId

/-- The invariant of the workspaces. -/
structure Workspaces (w : World) : Prop where
  pipeline : Pipeline w
  rooted : ∀ id request, w.db.ingests.get id = some request → ∀ stage,
    drivingStage (w.failedStages.get id) request = some stage → 2 ≤ Stage.rank stage →
    Rooted id stage request
  placed : ∀ token attempt, w.attempts.get token = some attempt → ∀ stage id forceSave,
    attempt.lease.jobId.key = .stage stage id forceSave → Placed w attempt stage id forceSave
  filed : ∀ path origin, w.files.get path = some origin → Filed path origin

/-- The download of an ingest begins although its workspace is not the
    directory that the ingest names. -/
def StrayDownload (w : World) (act : Action) : Prop :=
  ∃ token attempt id inspection request, act = .call token .answered ∧
    w.attempts.get token = some attempt ∧ attempt.phase.snapshot.isSome = true ∧
    attempt.command = .downloadSource id inspection ∧ isCurrent w.db attempt.lease = true ∧
    w.db.ingests.get id = some request ∧ Admits .downloadSource request ∧ request.workspaceId ≠ id

end Placement

section Attempts
variable {calendar : Publisher.Calendar} {w w' : World} {act : Action}

def Phase.isWorking : Phase → Bool
  | .working _ _ => true
  | _ => false

/-- Where an attempt came from in a step. -/
inductive Came (calendar : Publisher.Calendar) (w w' : World) (act : Action) (token : Uuid)
    (attempt' : Attempt) : Prop where
  | kept (before : w.attempts.get token = some attempt')
  | started (phase : attempt'.phase = .started) (job : Job)
      (found : w.db.jobs.get attempt'.lease.jobId.key = some job)
  | called (attempt : Attempt) (before : w.attempts.get token = some attempt)
      (outcome : CallOutcome) (acts : act = .call token outcome)
      (call : attempt.call calendar w.db outcome = some (w'.db, attempt'.phase))
      (same : attempt' = { attempt with phase := attempt'.phase })
  | moved (attempt : Attempt) (before : w.attempts.get token = some attempt)
      (same : attempt' = { attempt with phase := attempt'.phase })
      (unread : attempt'.phase.snapshot = none)
      (idle : attempt'.phase.isWorking = false)
      (underWay : attempt'.phase.underWay = true → attempt.phase.underWay = true)

theorem came_of_same {token : Uuid} {attempt' : Attempt} (attempts : w'.attempts = w.attempts)
    (found : w'.attempts.get token = some attempt') : Came calendar w w' act token attempt' :=
  .kept (attempts ▸ found)

theorem came_of_retired {token other : Uuid} {attempt' : Attempt}
    (attempts : w'.attempts = w.attempts.remove other)
    (found : w'.attempts.get token = some attempt') : Came calendar w w' act token attempt' := by
  rw [attempts, Table.get_remove] at found
  split at found
  · cases found
  · exact .kept found

/-- An attempt that one step set, and the others. -/
theorem came_of_set {token other : Uuid} {placed attempt' : Attempt}
    (attempts : w'.attempts = w.attempts.set other placed)
    (here : Came calendar w w' act other placed)
    (found : w'.attempts.get token = some attempt') : Came calendar w w' act token attempt' := by
  rw [attempts, Table.get_set] at found
  split at found
  · rename_i same
    cases found
    exact same ▸ here
  · exact .kept found

theorem phase_of_report {attempt : Attempt} {report : Report} {phase : Phase}
    (h : attempt.report report = some phase) : phase.snapshot = none ∧ phase.isWorking = false ∧
      (phase.underWay = true → attempt.phase.underWay = true) := by
  rcases attempt.report_ok h with ⟨failure, rfl⟩ | ⟨was, underWay, idle, -⟩
  · exact ⟨rfl, rfl, fun other => absurd other Bool.false_ne_true⟩
  · refine ⟨?_, ?_, fun _ => was⟩
    · cases phase with
      | admitted snapshot => exact absurd underWay Bool.false_ne_true
      | _ => rfl
    · cases phase with
      | working snapshot request => exact absurd rfl (idle snapshot request)
      | _ => rfl

theorem claimJob_came {worker : String} {leaseDuration : Time} {key : JobKey}
    (h : claimJob w worker leaseDuration key = some w') {token : Uuid} {attempt' : Attempt}
    (found : w'.attempts.get token = some attempt') : Came calendar w w' act token attempt' := by
  unfold claimJob at h
  split at h
  · rename_i jobs job claimed
    split at h
    · rename_i lease shows
      cases h
      obtain ⟨old, row, -, -, -, rfl, -⟩ := claimNext_ok claimed
      refine came_of_set rfl (.started rfl old ?_) found
      obtain ⟨columns, -, rfl⟩ := Job.lease_eq_some.mp shows
      exact (w.db.jobs.get_key row).symm ▸ row
    · cases h
  · cases h

/-- Every attempt after a step. -/
theorem step_came (h : step calendar w act = some w') {token : Uuid} {attempt' : Attempt}
    (found : w'.attempts.get token = some attempt') : Came calendar w w' act token attempt' := by
  cases act with
  | claimJob worker leaseDuration key => exact claimJob_came h found
  | heartbeat other leaseDuration =>
    simp only [step, Option.bind_eq_bind, Option.bind_eq_some_iff] at h
    obtain ⟨attempt, -, h⟩ := h
    split at h <;> cases h <;> exact came_of_same rfl found
  | call other outcome =>
    simp only [step, Option.bind_eq_bind, Option.bind_eq_some_iff] at h
    obtain ⟨attempt, before, ⟨db', phase⟩, called, h⟩ := h
    cases h
    exact came_of_set rfl (.called attempt before outcome rfl called rfl) found
  | report other report =>
    simp only [step, Option.bind_eq_bind, Option.bind_eq_some_iff] at h
    obtain ⟨attempt, before, phase, reported, h⟩ := h
    cases h
    obtain ⟨unread, idle, underWay⟩ := phase_of_report reported
    exact came_of_set rfl (.moved attempt before rfl unread idle underWay) found
  | endCleanup other failure =>
    simp only [step, Option.bind_eq_bind, Option.bind_eq_some_iff, endCleanup] at h
    obtain ⟨attempt, before, h⟩ := h
    split at h
    · split at h <;> cases h <;>
        exact came_of_set rfl (.moved attempt before rfl rfl rfl (fun other => absurd other Bool.false_ne_true)) found
    · cases h
  | publish other area name =>
    simp only [step, Option.bind_eq_bind, Option.bind_eq_some_iff, publishFile] at h
    obtain ⟨attempt, -, h⟩ := h
    split at h
    · split at h <;> cases h
      exact came_of_same rfl found
    · cases h
  | removeFile other path =>
    simp only [step, Option.bind_eq_bind, Option.bind_eq_some_iff, removeFile] at h
    obtain ⟨attempt, -, h⟩ := h
    split at h
    · split at h <;> cases h
      exact came_of_same rfl found
    · cases h
  | finish other outcome =>
    simp only [step, Option.bind_eq_bind, Option.bind_eq_some_iff] at h
    obtain ⟨attempt, -, db', -, h⟩ := h
    cases h
    exact came_of_retired rfl found
  | shutdown other outcome =>
    simp only [step, Option.bind_eq_bind, Option.bind_eq_some_iff] at h
    obtain ⟨attempt, -, h⟩ := h
    cases h
    exact came_of_retired rfl found
  | crash other =>
    simp only [step, Option.bind_eq_bind, Option.bind_eq_some_iff] at h
    obtain ⟨attempt, -, h⟩ := h
    cases h
    exact came_of_retired rfl found
  | prune key cutoff =>
    simp only [step, Option.bind_eq_bind, Option.bind_eq_some_iff] at h
    obtain ⟨db', -, h⟩ := h
    cases h
    exact came_of_same rfl found
  | createIngest | editPost | putForeignJob | deleteForeignJob =>
    simp only [step, Option.ite_none_right_eq_some, Option.ite_none_left_eq_some,
      Option.some.injEq] at h
    obtain ⟨-, rfl⟩ := h
    exact came_of_same rfl found
  | forceSave | acceptDuplicate | createIntent | recover | storage | tick | setChannel | setMedia | drawUuid =>
    simp only [step, Option.some.injEq] at h
    subst h
    exact came_of_same rfl found

end Attempts

section Steps
variable {calendar : Publisher.Calendar} {w w' : World} {act : Action} {attempt : Attempt}
  {stage : Stage} {id : Uuid} {forceSave : Bool}

theorem Moves.later (inv : Pipeline w) (moves : Moves w w') {old : Ingest}
    (found : w.db.ingests.get id = some old) :
    ∃ new, w'.db.ingests.get id = some new ∧ Earlier old new :=
  (moves.views id).earlier (inv.flow id old found) found

theorem Placed.still_flagged (inv : Pipeline w) (moves : Moves w w')
    (placed : Placed w attempt stage id forceSave) (flag : forceSave = true) :
    ∃ row, w'.db.ingests.get id = some row ∧ row.forceSave = true := by
  obtain ⟨row, found, forced⟩ := placed.flagged flag
  obtain ⟨new, here, earlier⟩ := moves.later inv found
  exact ⟨new, here, earlier.forced forced⟩

/-- The ingest of a begun stage may go on to the next generation, and then
    says nothing of this one. -/
theorem Placed.still_rooted (inv : Pipeline w) (moves : Moves w w')
    (placed : Placed w attempt stage id forceSave) (going : attempt.phase.underWay = true) :
    ∃ row, w'.db.ingests.get id = some row ∧ (row.forceSave = forceSave → Rooted id stage row) := by
  obtain ⟨row, found, rooted⟩ := placed.underWay going
  obtain ⟨new, here, earlier⟩ := moves.later inv found
  refine ⟨new, here, fun current => ?_⟩
  have same : new.forceSave = row.forceSave := by
    cases flag : row.forceSave with
    | true => exact earlier.forced flag
    | false =>
      cases raised : forceSave with
      | false => rw [current, raised]
      | true =>
        obtain ⟨old, before, forced⟩ := placed.flagged raised
        rw [found] at before
        cases before
        rw [flag] at forced
        cases forced
  exact (rooted (same.symm.trans current)).later earlier same

/-- What an attempt that is not at its files keeps in a step. -/
theorem Placed.quiet (inv : Pipeline w) (moves : Moves w w')
    (placed : Placed w attempt stage id forceSave) {phase : Phase} (unread : phase.snapshot = none)
    (idle : phase.isWorking = false)
    (underWay : phase.underWay = true → attempt.phase.underWay = true) :
    Placed w' { attempt with phase := phase } stage id forceSave where
  flagged := placed.still_flagged inv moves
  admitted := by
    rintro snapshot rfl
    cases unread
  working := by
    rintro snapshot request rfl
    cases idle
  underWay := fun going => placed.still_rooted inv moves (underWay going)

/-- What an attempt that a step left alone keeps. -/
theorem Placed.carried (inv : Pipeline w) (moves : Moves w w')
    (placed : Placed w attempt stage id forceSave) : Placed w' attempt stage id forceSave where
  flagged := placed.still_flagged inv moves
  admitted := by
    intro snapshot phase
    obtain ⟨flag, row, found, earlier⟩ := placed.admitted snapshot phase
    obtain ⟨new, here, later⟩ := moves.later inv found
    exact ⟨flag, new, here, earlier.trans later⟩
  working := by
    intro snapshot request phase
    obtain ⟨flag, rooted, read, row, found, earlier⟩ := placed.working snapshot request phase
    obtain ⟨new, here, later⟩ := moves.later inv found
    exact ⟨flag, rooted, read, new, here, earlier.trans later⟩
  underWay := placed.still_rooted inv moves

/-- The calls that read or begin a stage, and the others. -/
theorem CallEffect.phase_cases {db' : Db} {phase : Phase}
    (effect : CallEffect calendar attempt w.db db' phase) :
    (db' = w.db ∧ ∃ snapshot, phase = .admitted snapshot ∧
      attempt.command.stageIngest.bind w.db.ingests.get = some snapshot) ∨
    (∃ which ingest request begun, StageCommand attempt.command which ingest ∧
      Begun w.db db' ingest which attempt.lease request begun ∧
      phase = .working attempt.phase.snapshot begun) ∨
    (phase.snapshot = none ∧ phase.isWorking = false ∧
      (phase.underWay = true → attempt.phase.underWay = true)) := by
  have ended : ∀ {next : Phase}, (next = .returned (.ok ()) ∨ next.refused) →
      next.snapshot = none ∧ next.isWorking = false ∧
        (next.underWay = true → attempt.phase.underWay = true) := by
    rintro next (rfl | ⟨failure, rfl⟩)
    · exact ⟨rfl, rfl, fun other => absurd other Bool.false_ne_true⟩
    · exact ⟨rfl, rfl, fun other => absurd other Bool.false_ne_true⟩
  cases effect with
  | refused _ refused => exact Or.inr (Or.inr (ended (Or.inr refused)))
  | loaded unchanged snapshot here found => exact Or.inl ⟨unchanged, snapshot, here, found⟩
  | materialized ingestId command result ok returned =>
    obtain ⟨answer, rfl⟩ := returned
    exact Or.inr (Or.inr ⟨rfl, rfl, fun other => absurd other Bool.false_ne_true⟩)
  | cleanup ingestId workspaceId command start ok next =>
    rcases next with ⟨rfl, -⟩ | ⟨answer, rfl⟩
    · exact Or.inr (Or.inr ⟨rfl, rfl, fun other => absurd other Bool.false_ne_true⟩)
    · exact Or.inr (Or.inr ⟨rfl, rfl, fun other => absurd other Bool.false_ne_true⟩)
  | passed which ingest of passed next => exact Or.inr (Or.inr (ended next))
  | begun which ingest of was request begun effect next =>
    rcases next with here | refused
    · exact Or.inr (Or.inl ⟨which, ingest, request, begun, of, effect, here⟩)
    · exact Or.inr (Or.inr (ended (Or.inr refused)))
  | resolved ingest was write next =>
    have underWay : attempt.phase.underWay = true := by rw [was]; rfl
    rcases next with ⟨result, rfl⟩ | ⟨failure, rfl⟩
    · exact Or.inr (Or.inr ⟨rfl, rfl, fun _ => underWay⟩)
    · exact Or.inr (Or.inr ⟨rfl, rfl, fun _ => underWay⟩)
  | identified ingest fingerprint was unchanged next =>
    have underWay : attempt.phase.underWay = true := by rw [was]; rfl
    rcases next with ⟨request, exactMediaId, rfl⟩ | refused | ⟨returned, -⟩
    · exact Or.inr (Or.inr ⟨rfl, rfl, fun _ => underWay⟩)
    · exact Or.inr (Or.inr (ended (Or.inr refused)))
    · exact Or.inr (Or.inr (ended (Or.inl returned)))
  | stopped which ingest of was stopped next => exact Or.inr (Or.inr (ended next))
  | handedOver which ingest of was request request' job jobs effect next =>
    exact Or.inr (Or.inr (ended next))
  | failed which ingest of was request request' effect refused =>
    exact Or.inr (Or.inr (ended (Or.inr refused)))

/-- A stage begins only where its caller saw the answer. -/
theorem answered_of_working {outcome : CallOutcome} {db' : Db} {snapshot : Option Ingest}
    {begun : Ingest} (h : attempt.call calendar w.db outcome = some (db', .working snapshot begun)) :
    outcome = .answered := by
  cases outcome with
  | answered => rfl
  | _ =>
    -- Without its answer a call reads as an error, which begins nothing.
    unfold Attempt.call at h
    repeat' split at h
    all_goals
      first
      | contradiction
      | simp [CallOutcome.conclude, afterMaterialize, afterCleanupStart, afterBegin, afterResolve,
          afterIdentity, afterComplete, afterFail] at h

/-- The key of an attempt names the stage and the ingest of its command. -/
theorem Attempt.Sound.stageCommand {token : Uuid} (sound : attempt.Sound w token)
    (key : attempt.lease.jobId.key = .stage stage id forceSave) :
    StageCommand attempt.command stage id := by
  have owned := sound.owned
  rw [key] at owned
  simp only [JobKey.owns, Bool.and_eq_true, beq_iff_eq] at owned
  exact ⟨owned.1, owned.2⟩

/-- A stage that loads its ingest first begins with what it read. -/
theorem read_of_working {outcome : CallOutcome} {db' : Db} {snapshot : Option Ingest}
    {begun : Ingest} (loads : loadsFirst attempt.command = true)
    (h : attempt.call calendar w.db outcome = some (db', .working snapshot begun)) :
    attempt.phase.snapshot.isSome = true := by
  have answered := answered_of_working h
  subst answered
  cases was : attempt.phase with
  | admitted read => rfl
  | started =>
    unfold Attempt.call at h
    simp only [was] at h
    split at h
    · rename_i command
      simp [command, loadsFirst] at loads
    · rename_i command
      simp [command, loadsFirst] at loads
    · simp only [loads, if_true, Option.some.injEq, Prod.mk.injEq] at h
      unfold afterLoad at h
      split at h <;> cases h.2
  | resolving ingest =>
    simp only [Attempt.call, was, CallOutcome.conclude, Option.some.injEq, Prod.mk.injEq] at h
    unfold afterResolve at h
    split at h <;> cases h.2
  | identifying ingest fingerprint =>
    simp only [Attempt.call, was, CallOutcome.conclude, Option.map_eq_some_iff, Prod.mk.injEq] at h
    obtain ⟨ingestId, -, -, h⟩ := h
    unfold afterIdentity at h
    split at h <;> cases h
  | completing result =>
    simp only [Attempt.call, was, CallOutcome.conclude, Option.map_eq_some_iff, Prod.mk.injEq] at h
    obtain ⟨answer, -, -, h⟩ := h
    unfold afterComplete at h
    split at h <;> cases h
  | failing failure =>
    simp only [Attempt.call, was, CallOutcome.conclude, Option.map_eq_some_iff, Prod.mk.injEq] at h
    obtain ⟨answer, -, -, h⟩ := h
    unfold afterFail at h
    split at h <;> cases h
  | working | deciding | cleaning | returned => simp [Attempt.call, was] at h

theorem command_of_download {command : JobCommand}
    (of : StageCommand command .downloadSource id) :
    ∃ inspection, command = .downloadSource id inspection := by
  obtain ⟨stageOf, ingestOf⟩ := of
  cases command <;> simp only [JobCommand.jobType, JobType.stage.injEq, reduceCtorEq] at stageOf
  cases ingestOf
  exact ⟨_, rfl⟩

/-- A stage that begins is in the right place, unless it is a stray download. -/
theorem Workspaces.rooted_of_begun (inv : Workspaces w) {token : Uuid} {outcome : CallOutcome}
    (before : w.attempts.get token = some attempt) (acts : act = .call token outcome)
    (calm : ¬ StrayDownload w act) {db' : Db} {snapshot : Option Ingest} {request begun : Ingest}
    (call : attempt.call calendar w.db outcome = some (db', .working snapshot begun))
    (key : attempt.lease.jobId.key = .stage stage id forceSave)
    (effect : Begun w.db db' id stage attempt.lease request begun) :
    forceSave = request.forceSave ∧ Rooted id stage begun := by
  have sound := inv.pipeline.attempts token attempt before
  obtain ⟨driving, flag⟩ := inv.pipeline.flag effect.current key effect.found effect.admitted.open
  refine ⟨flag, fun late source => ?_⟩
  rw [effect.same.workspaceId]
  by_cases download : stage = .downloadSource
  · subst download
    obtain ⟨inspection, command⟩ := command_of_download (sound.stageCommand key)
    have loads : loadsFirst attempt.command = true := by rw [command]; rfl
    have answered := answered_of_working call
    subst answered
    by_contra stray
    exact calm ⟨token, attempt, id, inspection, request, acts, before, read_of_working loads call,
      command, effect.current, effect.found, effect.admitted, stray⟩
  · have rank : 2 ≤ Stage.rank stage := by
      cases stage <;> simp_all [Stage.rank]
    exact inv.rooted id request effect.found stage driving rank late
      (source.imp_right effect.same.kind.symm.trans)

/-- What an attempt knows once it has read its ingest. -/
theorem Placed.loaded (inv : Pipeline w) (moves : Moves w w')
    (placed : Placed w attempt stage id forceSave) {snapshot : Ingest}
    (read : w.db.ingests.get id = some snapshot) (unchanged : w'.db = w.db) :
    Placed w' { attempt with phase := .admitted snapshot } stage id forceSave where
  flagged := placed.still_flagged inv moves
  admitted := by
    intro other same
    obtain rfl := Phase.admitted.inj same
    refine ⟨fun flag => ?_, snapshot, unchanged ▸ read, .refl snapshot⟩
    obtain ⟨row, present, forced⟩ := placed.flagged flag
    rw [read] at present
    cases present
    exact forced
  working := fun _ _ same => absurd (congrArg Phase.isWorking same) Bool.false_ne_true
  underWay := fun other => absurd other Bool.false_ne_true

/-- What an attempt knows once its stage has begun. -/
theorem Placed.begun (inv : Pipeline w) (moves : Moves w w')
    (placed : Placed w attempt stage id forceSave) {request begun : Ingest}
    (effect : Begun w.db w'.db id stage attempt.lease request begun)
    (flag : forceSave = request.forceSave) (rooted : Rooted id stage begun) :
    Placed w' { attempt with phase := .working attempt.phase.snapshot begun } stage id forceSave where
  flagged := placed.still_flagged inv moves
  admitted := fun _ same => absurd (congrArg Phase.isWorking same) Bool.noConfusion
  working := by
    intro snapshot other same
    obtain ⟨rfl, rfl⟩ := Phase.working.inj same
    refine ⟨effect.same.forceSave.trans flag.symm, rooted, fun read was => ?_, begun,
      effect.write.here, .refl begun⟩
    have admitted : attempt.phase = .admitted read := by
      cases phase : attempt.phase with
      | admitted other =>
        rw [phase] at was
        exact congrArg Phase.admitted (Option.some.inj was)
      | _ =>
        rw [phase] at was
        cases was
    obtain ⟨raised, row, present, earlier⟩ := placed.admitted read admitted
    rw [effect.found] at present
    cases present
    have same : request.forceSave = read.forceSave := by
      cases forced : read.forceSave with
      | true => exact earlier.forced forced
      | false =>
        cases now : request.forceSave with
        | false => rfl
        | true =>
          rw [raised (flag.trans now)] at forced
          cases forced
    rw [effect.same.workspaceId, earlier.workspaceId same]
  underWay := fun _ => ⟨begun, effect.write.here, fun _ => rooted⟩

/-- What an attempt knows at its start. -/
theorem Placed.of_started (inv : Pipeline w) (moves : Moves w w') (phase : attempt.phase = .started)
    {job : Job} (row : w.db.jobs.get (.stage stage id forceSave) = some job) :
    Placed w' attempt stage id forceSave := by
  obtain ⟨request, present⟩ := inv.homed stage id forceSave job row
  obtain ⟨new, here, earlier⟩ := moves.later inv present
  refine ⟨fun flag => ⟨new, here, earlier.forced ?_⟩, ?_, ?_, ?_⟩
  · -- A job of the second generation shows that the save was forced.
    cases forced : request.forceSave with
    | true => rfl
    | false =>
      have none := (inv.flow id request present).unforced forced stage
      simp [World.view, ← flag, row] at none
  · intro snapshot admitted
    rw [phase] at admitted
    exact absurd (congrArg Phase.snapshot admitted) (Option.some_ne_none snapshot).symm
  · intro snapshot request working
    rw [phase] at working
    exact absurd (congrArg Phase.isWorking working) Bool.false_ne_true
  · intro underWay
    rw [phase] at underWay
    exact absurd underWay Bool.false_ne_true

/-- What every attempt knows after a step. -/
theorem Workspaces.placed_step (inv : Workspaces w) (calm : ¬ StrayDownload w act)
    (h : step calendar w act = some w') {token : Uuid} {after : Attempt}
    (found : w'.attempts.get token = some after)
    (key : after.lease.jobId.key = .stage stage id forceSave) :
    Placed w' after stage id forceSave := by
  obtain ⟨moves, -⟩ := step_moves inv.pipeline h
  have placed : ∀ {was : Attempt}, w.attempts.get token = some was →
      after = { was with phase := after.phase } → was.lease.jobId.key = .stage stage id forceSave ∧
        Placed w was stage id forceSave := by
    intro was before same
    have keyed : was.lease.jobId.key = .stage stage id forceSave := by
      rw [same] at key
      exact key
    exact ⟨keyed, inv.placed token was before stage id forceSave keyed⟩
  cases step_came h found with
  | kept before =>
    exact (inv.placed token after before stage id forceSave key).carried inv.pipeline moves
  | started phase job row => exact .of_started inv.pipeline moves phase (key ▸ row)
  | moved was before same unread idle underWay =>
    rw [same]
    exact (placed before same).2.quiet inv.pipeline moves unread idle underWay
  | called was before outcome acts call same =>
    obtain ⟨keyed, known⟩ := placed before same
    have of := (inv.pipeline.attempts token was before).stageCommand keyed
    rw [same]
    rcases (was.call_effect call).phase_cases with ⟨unchanged, snapshot, phase, read⟩ |
        ⟨which, ingest, request, begun, ofBegun, effect, phase⟩ | ⟨unread, idle, underWay⟩
    · rw [of.ingest, Option.bind_some] at read
      rw [phase]
      exact known.loaded inv.pipeline moves read unchanged
    · obtain ⟨rfl, rfl⟩ := stageCommand_unique of ofBegun
      rw [phase] at call ⊢
      obtain ⟨flag, rooted⟩ := inv.rooted_of_begun before acts calm call keyed effect
      exact known.begun inv.pipeline moves effect flag rooted
    · exact known.quiet inv.pipeline moves unread idle underWay

theorem rooted_of_first {row : Ingest} (first : firstStage row.kind = stage)
    (late : 2 ≤ Stage.rank stage) : Rooted id stage row := by
  intro _ source
  cases kind : row.kind <;> simp only [kind, firstStage] at first <;> subst first
  · exact absurd late (by decide)
  all_goals simp [kind] at source

/-- The stage that records its result was in the right place. -/
theorem Workspaces.rooted_of_recorded (inv : Workspaces w) {request : Ingest}
    (found : w.db.ingests.get id = some request) (recorded : Recorded w w' id stage)
    (driving : drivingStage (w.failedStages.get id) request = some stage) :
    Rooted id stage request := by
  by_cases late : 2 ≤ Stage.rank stage
  · exact inv.rooted id request found stage driving late
  · obtain ⟨token, acting, after, by_⟩ := recorded
    have sound := inv.pipeline.attempts token acting by_.acting
    obtain ⟨flag, key⟩ := stageKey_of_command sound.owned by_.of
    obtain ⟨row, present, rooted⟩ :=
      (inv.placed token acting by_.acting stage id flag key).underWay by_.underWay
    rw [found] at present
    cases present
    have current := ((inv.pipeline.flow id request found).only stage flag
      (live_of_current by_.current key)).resolve_right (fun closed => ?_)
    · exact rooted current.2.symm
    · simp [closed.undriven] at driving

/-- What every ingest keeps in a step: only its download brings it past the
    download. -/
theorem Workspaces.rooted_step (inv : Workspaces w) (moves : Moves w w') {row : Ingest}
    (here : w'.db.ingests.get id = some row)
    (driving : drivingStage (w'.failedStages.get id) row = some stage)
    (late : 2 ≤ Stage.rank stage) : Rooted id stage row := by
  have flow := fun old found => inv.pipeline.flow id old found
  have there : (w'.view id).row = some row := here
  have carry : ∀ {old : Ingest}, w.db.ingests.get id = some old → SameRequest old row →
      drivingStage (w.failedStages.get id) old = some stage → Rooted id stage row :=
    fun found same drives =>
      (inv.rooted id _ found stage drives late).later (.of_same same) same.forceSave
  cases moves.views id with
  | steady same failed jobs =>
    have old : w.db.ingests.get id = some row := same.symm.trans there
    have drives : drivingStage (w.failedStages.get id) row = some stage := by
      have same : w'.failedStages.get id = w.failedStages.get id := failed
      rw [← same]
      exact driving
    exact carry old (.refl row) drives
  | created request absent placed status media unforced unrecorded =>
    rw [there] at placed
    cases placed
    simp only [drivingStage, status, media, Option.isSome_none, Bool.false_eq_true, if_false,
      Option.some.injEq] at driving
    exact rooted_of_first driving late
  | begun other request after found placed admitted live status same media data =>
    rw [there] at placed
    cases placed
    obtain ⟨flag, live⟩ := live
    have drives := ((flow request found).driving live admitted.open).1
    have again := drivingStage_begun (w'.failedStages.get id) drives
      ((flow request found).unrecorded other drives) status same media data
    rw [driving, Option.some.injEq] at again
    exact carry found same (again ▸ drives)
  | advanced other successor recorded flag request after found placed active live later same media
      driven =>
    rw [there] at placed
    cases placed
    have drives := ((flow request found).driving live
      (active ▸ stageStatus_ne_failedTerminal other)).1
    have next := (driven (drivingStage_media drives)
      ((flow request found).unrecorded other drives)).1 (w'.failedStages.get id)
    rw [driving, Option.some.injEq] at next
    subst next
    have reached : 1 ≤ Stage.rank other := by
      have := later
      cases other <;> simp_all [Stage.next, Stage.rank]
    have done := inv.rooted_of_recorded found recorded drives
    intro _ source
    rw [same.workspaceId]
    refine done reached (Or.inr ?_)
    rcases source with rfl | url
    · exact absurd late (by decide)
    · exact same.kind.symm.trans url
  | finished other flag request after found placed active live same ended =>
    rw [there] at placed
    cases placed
    rcases ended with ⟨terminal, media⟩ | ⟨pending, -⟩ | linked
    · simp [drivingStage, terminal] at driving
    · simp [drivingStage_pending pending] at driving
    · simp [linked_undriven linked] at driving
  | retrying other recorded request after found placed active live status same media data failed =>
    rw [there] at placed
    cases placed
    obtain ⟨flag, live⟩ := live
    have drives := ((flow request found).driving live
      (active ▸ stageStatus_ne_failedTerminal other)).1
    have stored : w'.failedStages.get id = some other := failed
    simp only [drivingStage, drivingStage_media driving, status, stored, Option.isSome_none,
      Bool.false_eq_true, if_false, Option.some.injEq] at driving
    exact carry found same (driving ▸ drives)
  | closed request after found placed same closed =>
    rw [there] at placed
    cases placed
    simp [closed.undriven] at driving
  | resumed request after found placed pending status kind action media forced =>
    rw [there] at placed
    cases placed
    simp only [drivingStage, drivingStage_media driving, status, Option.isSome_none,
      Bool.false_eq_true, if_false, Option.some.injEq] at driving
    exact rooted_of_first driving late
  | relinked request after found placed same before linked =>
    rw [there] at placed
    cases placed
    simp [linked_undriven linked] at driving

/-- A working stage is in the directory of the ingest it began with. -/
theorem Placed.workspace (placed : Placed w attempt stage id forceSave)
    (of : StageCommand attempt.command stage id) {snapshot : Option Ingest} {request : Ingest}
    (phase : attempt.phase = .working snapshot request) {workspaceId : Uuid}
    (opened : attempt.workspace = some workspaceId) : workspaceId = request.workspaceId := by
  obtain ⟨-, rooted, read, -⟩ := placed.working snapshot request phase
  simp only [Attempt.workspace, phase, stageWorkspace] at opened
  split at opened
  · rename_i ingestId inspection command
    obtain ⟨stageOf, ingestOf⟩ := of
    rw [command] at stageOf ingestOf
    cases stageOf
    cases ingestOf
    cases opened
    exact (rooted (by decide) (Or.inl rfl)).symm
  · split at opened
    · cases opened
      exact read _ rfl
    · cases opened
      rfl
  all_goals
    cases opened
    try rfl

/-- A published file lies where its generation works. -/
theorem Workspaces.filed_publish (inv : Workspaces w) {token : Uuid} {area : WorkspaceArea}
    {name : String} (before : w.attempts.get token = some attempt)
    (h : publishFile w attempt area name = some w') :
    ∀ path origin, w'.files.get path = some origin → Filed path origin := by
  intro path origin stored
  unfold publishFile at h
  split at h
  · rename_i snapshot request workspaceId ingestId phase opened ofIngest
    split at h
    · rename_i writes
      cases h
      obtain ⟨which, of⟩ := stageCommand_of_stageIngest ofIngest
      obtain ⟨flag, key⟩ :=
        stageKey_of_command (inv.pipeline.attempts token attempt before).owned of
      have placed := inv.placed token attempt before which ingestId flag key
      have directory := placed.workspace of phase opened
      rw [Table.get_insertAbsent] at stored
      split at stored
      · rename_i same
        subst same
        cases old : w.files.get ⟨workspaceId, area, name⟩ with
        | some kept =>
          simp only [old, Option.getD_some, Option.some.injEq] at stored
          exact stored ▸ inv.filed _ kept old
        | none =>
          simp only [old, Option.getD_none, Option.some.injEq] at stored
          subst stored
          refine ⟨directory, fun source input => ?_⟩
          simp only at source input
          subst source input
          -- Only the download writes this name, in the directory of its ingest.
          cases command : attempt.command with
          | downloadSource other inspection =>
            simp only [Attempt.workspace, phase, stageWorkspace, command] at opened
            rw [command] at ofIngest
            cases opened
            cases ofIngest
            rfl
          | probeAsset other =>
            rw [command] at writes
            have refused : stageWrites (.probeAsset 0) .source sourceInput = false := by decide
            cases writes.symm.trans refused
          | normalizeAsset other =>
            rw [command] at writes
            exact absurd writes (by simp [stageWrites])
          | _ =>
            rw [command] at writes
            simp [stageWrites] at writes
      · exact inv.filed path origin stored
    · cases h
  · cases h

/-- What a step does to the files. -/
theorem Workspaces.filed_step (inv : Workspaces w) (h : step calendar w act = some w') :
    ∀ path origin, w'.files.get path = some origin → Filed path origin := by
  have kept : w'.files = w.files →
      ∀ path origin, w'.files.get path = some origin → Filed path origin := by
    intro same path origin stored
    exact inv.filed path origin (same ▸ stored)
  cases act with
  | publish token area name =>
    simp only [step, Option.bind_eq_bind, Option.bind_eq_some_iff] at h
    obtain ⟨attempt, before, h⟩ := h
    exact inv.filed_publish before h
  | removeFile token path =>
    simp only [step, Option.bind_eq_bind, Option.bind_eq_some_iff, removeFile] at h
    obtain ⟨attempt, -, h⟩ := h
    split at h
    · split at h
      · cases h
        intro other origin stored
        rw [Table.get_remove] at stored
        split at stored
        · cases stored
        · exact inv.filed other origin stored
      · cases h
    · cases h
  | claimJob worker leaseDuration key =>
    simp only [step, claimJob] at h
    repeat' split at h
    all_goals cases h
    exact kept rfl
  | heartbeat token leaseDuration =>
    simp only [step, Option.bind_eq_bind, Option.bind_eq_some_iff] at h
    obtain ⟨attempt, -, h⟩ := h
    split at h <;> cases h <;> exact kept rfl
  | call token outcome =>
    simp only [step, Option.bind_eq_bind, Option.bind_eq_some_iff] at h
    obtain ⟨attempt, -, answer, -, h⟩ := h
    cases h
    exact kept rfl
  | report token report =>
    simp only [step, Option.bind_eq_bind, Option.bind_eq_some_iff] at h
    obtain ⟨attempt, -, phase, -, h⟩ := h
    cases h
    exact kept rfl
  | endCleanup token failure =>
    simp only [step, Option.bind_eq_bind, Option.bind_eq_some_iff, endCleanup] at h
    obtain ⟨attempt, -, h⟩ := h
    repeat' split at h
    all_goals cases h
    all_goals exact kept rfl
  | finish token outcome =>
    simp only [step, Option.bind_eq_bind, Option.bind_eq_some_iff] at h
    obtain ⟨attempt, -, db', -, h⟩ := h
    cases h
    exact kept rfl
  | shutdown token outcome =>
    simp only [step, Option.bind_eq_bind, Option.bind_eq_some_iff] at h
    obtain ⟨attempt, -, h⟩ := h
    cases h
    exact kept rfl
  | crash token =>
    simp only [step, Option.bind_eq_bind, Option.bind_eq_some_iff] at h
    obtain ⟨attempt, -, h⟩ := h
    cases h
    exact kept rfl
  | prune key cutoff =>
    simp only [step, Option.bind_eq_bind, Option.bind_eq_some_iff] at h
    obtain ⟨db', -, h⟩ := h
    cases h
    exact kept rfl
  | createIngest | editPost | putForeignJob | deleteForeignJob =>
    simp only [step, Option.ite_none_right_eq_some, Option.ite_none_left_eq_some,
      Option.some.injEq] at h
    obtain ⟨-, rfl⟩ := h
    exact kept rfl
  | forceSave | acceptDuplicate | createIntent | recover | storage | tick | setChannel | setMedia | drawUuid =>
    simp only [step, Option.some.injEq] at h
    subst h
    exact kept rfl

/-- What one step keeps. -/
theorem Workspaces.step (inv : Workspaces w) (calm : ¬ StrayDownload w act)
    (h : Inbox.step calendar w act = some w') : Workspaces w' where
  pipeline := inv.pipeline.step h
  rooted := fun _ _ here _ driving late =>
    inv.rooted_step (step_moves inv.pipeline h).1 here driving late
  placed := fun _ _ found _ _ _ key => inv.placed_step calm h found key
  filed := inv.filed_step h

theorem workspaces_initial : Workspaces initial where
  pipeline := pipeline_initial
  rooted := fun _ _ found => by cases found
  placed := fun _ _ found => by cases found
  filed := fun _ _ found => by cases found

end Steps

section Samples

def sampleUpload : IngestSubmission :=
  { sampleSubmission .save with kind := .telegramMessage, telegramWorkspaceId := some 0 }

def sampleInspection : SourceInspection :=
  ⟨"ytdlp", "https://example.org/clip", none, .video, none, none, none⟩

def sampleVideo : Library.MediaIngest := ⟨.video, "sha", none, [], none, none⟩

def sampleEvidence : Library.VideoDuplicateEvidence := ⟨"v1", [⟨7, "v1", true, [9000], 12⟩], 100⟩

/-- The inspection of ingest 0 under a given token. -/
def sampleInspected (forceSave : Bool) (token : Uuid) : List Action :=
  [.claimJob "a" (30 * second) (.stage .inspectSource 0 forceSave), .call token .answered,
    .report token (.finished (.inspected sampleInspection)), .call token .answered]

/-- A stage of ingest 0 that loads it first, with the results of its work. -/
def sampleStage (stage : Stage) (token : Uuid) (reports : List Report) : List Action :=
  [.claimJob "a" (30 * second) (.stage stage 0 false), .call token .answered,
    .call token .answered] ++ reports.flatMap (fun report => [.report token report, .call token .answered])

/-- A URL ingest up to the operator's decision on a duplicate. -/
def sampleDuplicate : List Action :=
  [.createIngest (sampleSubmission .save)] ++ sampleInspected false 2 ++
    sampleStage .downloadSource 4 [.finished (.downloaded ⟨1024, none, .video, none⟩)] ++
    sampleStage .probeAsset 6 [.finished (.probed ⟨some .video, none⟩)] ++
    sampleStage .normalizeAsset 8 [.finished (.normalized ⟨(0, "a.mp4"), "sha", .video⟩)] ++
    sampleStage .computeFingerprint 10
      [.fingerprinted sampleVideo (some ⟨"v1", true⟩), .aligned (.duplicatePending sampleEvidence)]

end Samples

section Runs
variable {calendar : Publisher.Calendar} {w : World}

/-- What every run without a stray download keeps. -/
theorem Workspaces.run {acts : List Action}
    (run : Run (Inbox.step calendar) (fun w act => ¬ StrayDownload w act) initial acts w) :
    Workspaces w :=
  run_invariant Workspaces (fun inv calm h => inv.step calm h) workspaces_initial run

/-- While no download begins for an ingest whose workspace is not named by it:
    every stage of the current generation opens the ingest's current workspace
    and writes nowhere else; the source a URL probe finds there was published
    by the download of the same generation; and the cleanup of another
    workspace removes no file of the current generation. -/
theorem stages_share_workspace_unless_stray {acts : List Action}
    (run : Run (step calendar) (fun w act => ¬ StrayDownload w act) initial acts w) :
    (∀ token attempt stage id request, w.attempts.get token = some attempt →
      w.db.ingests.get id = some request →
      attempt.lease.jobId.key = .stage stage id request.forceSave →
      (∀ workspaceId, attempt.workspace = some workspaceId →
        workspaceId = request.workspaceId) ∧
      (∀ area name w', step calendar w (.publish token area name) = some w' →
        ∀ path, path.workspaceId ≠ request.workspaceId →
          w'.files.get path = w.files.get path) ∧
      (stage = .probeAsset → request.kind = .url → attempt.workspace.isSome = true →
        ∀ origin, w.files.get ⟨request.workspaceId, .source, sourceInput⟩ = some origin →
          origin = ⟨id, request.workspaceId⟩)) ∧
    (∀ token attempt id workspaceId request, w.attempts.get token = some attempt →
      attempt.command = .cleanupWorkspace id workspaceId →
      w.db.ingests.get id = some request → workspaceId ≠ request.workspaceId →
      ∀ removed w', step calendar w (.removeFile token removed) = some w' →
        ∀ path, w.files.get path = some ⟨id, request.workspaceId⟩ →
          w'.files.get path = some ⟨id, request.workspaceId⟩) := by
  have inv := Workspaces.run run
  refine ⟨?_, ?_⟩
  · intro token attempt stage id request before found key
    have of := (inv.pipeline.attempts token attempt before).stageCommand key
    have placed := inv.placed token attempt before stage id request.forceSave key
    have directory : ∀ snapshot began, attempt.phase = .working snapshot began →
        ∀ workspaceId, attempt.workspace = some workspaceId → workspaceId = request.workspaceId := by
      intro snapshot began phase workspaceId opened
      obtain ⟨flag, -, -, row, present, earlier⟩ := placed.working snapshot began phase
      rw [found] at present
      cases present
      rw [placed.workspace of phase opened, earlier.workspaceId flag.symm]
    have opens : ∀ workspaceId, attempt.workspace = some workspaceId →
        workspaceId = request.workspaceId := by
      intro workspaceId opened
      cases phase : attempt.phase with
      | working snapshot began => exact directory snapshot began phase workspaceId opened
      | _ => simp [Attempt.workspace, phase] at opened
    refine ⟨opens, ?_, ?_⟩
    · intro area name w' one path outside
      simp only [step, before, Option.bind_eq_bind, Option.bind_some, publishFile] at one
      split at one
      · rename_i snapshot began workspaceId ingestId phase opened ofIngest
        split at one
        · cases one
          refine Table.get_insertAbsent_ne _ _ (fun same => outside ?_)
          rw [same]
          exact opens workspaceId opened
        · cases one
      · cases one
    · rintro rfl url opened origin stored
      have filed := inv.filed _ origin stored
      have rooted : request.workspaceId = id := by
        cases phase : attempt.phase with
        | working snapshot began =>
          obtain ⟨flag, rooted, -, row, present, earlier⟩ := placed.working snapshot began phase
          rw [found] at present
          cases present
          exact rooted.later earlier flag.symm (by decide) (Or.inr url)
        | _ => simp [Attempt.workspace, phase] at opened
      obtain ⟨ingestId, workspaceId⟩ := origin
      have generation : request.workspaceId = workspaceId := filed.workspace
      have owner : ingestId = request.workspaceId := filed.source rfl rfl
      rw [owner, rooted, ← generation, rooted]
  · intro token attempt id workspaceId request before command found other removed w' one path stored
    simp only [step, before, Option.bind_eq_bind, Option.bind_some, removeFile, command] at one
    split at one
    · rename_i ingestId directory phase same
      cases same
      split at one
      · rename_i inside
        cases one
        have filed : path.workspaceId = request.workspaceId := (inv.filed path _ stored).workspace
        refine (Table.get_remove_ne _ (fun same => other ?_)).trans stored
        rw [← inside, ← same, filed]
      · cases one
    · cases one

theorem calm_of_no_call {act : Action} (other : ∀ token, act ≠ .call token .answered) :
    ¬ StrayDownload w act := by
  rintro ⟨token, _, _, _, _, acts, -⟩
  exact other token acts

theorem calm_of_command {token : Uuid} {attempt : Attempt} (found : w.attempts.get token = some attempt)
    (other : attempt.command.jobType ≠ .stage .downloadSource) :
    ¬ StrayDownload w (.call token .answered) := by
  rintro ⟨_, acting, _, _, _, acts, before, -, command, -⟩
  cases acts
  rw [found] at before
  cases before
  rw [command] at other
  exact other rfl

/-- A Telegram upload is probed in the workspace it arrived in. -/
theorem telegram_probe_shares_workspace :
    ∃ w attempt request, exec (step Publisher.sampleCalendar) initial
        [.drawUuid, .createIngest sampleUpload,
          .claimJob "a" (30 * second) (.stage .probeAsset 1 false), .call 3 .answered,
          .call 3 .answered] = some w ∧
      w.attempts.get 3 = some attempt ∧ w.db.ingests.get 1 = some request ∧
      attempt.workspace = some 0 ∧ 0 = request.workspaceId := by
  obtain ⟨u, claimed⟩ : ∃ u, exec (step Publisher.sampleCalendar) initial
      [.drawUuid, .createIngest sampleUpload,
        .claimJob "a" (30 * second) (.stage .probeAsset 1 false)] = some u := ⟨_, rfl⟩
  obtain ⟨v, w, first, second, ⟨starting, started, probes⟩, ⟨reading, read, still⟩, attempt, request,
      working, found, key, opened⟩ : ∃ v w,
      step Publisher.sampleCalendar u (.call 3 .answered) = some v ∧
      step Publisher.sampleCalendar v (.call 3 .answered) = some w ∧
      (∃ attempt, u.attempts.get 3 = some attempt ∧ attempt.command.jobType = .stage .probeAsset) ∧
      (∃ attempt, v.attempts.get 3 = some attempt ∧ attempt.command.jobType = .stage .probeAsset) ∧
      ∃ attempt request, w.attempts.get 3 = some attempt ∧ w.db.ingests.get 1 = some request ∧
        attempt.lease.jobId.key = .stage .probeAsset 1 request.forceSave ∧
        attempt.workspace = some 0 := by
    cases claimed
    exact ⟨_, _, rfl, rfl, ⟨_, rfl, rfl⟩, ⟨_, rfl, rfl⟩, _, _, rfl, rfl, rfl, rfl⟩
  have tail : Run (step Publisher.sampleCalendar) (fun w act => ¬ StrayDownload w act) u
      [.call 3 .answered, .call 3 .answered] w :=
    .cons (calm_of_command started (by simp [probes])) first
      (.cons (calm_of_command read (by simp [still])) second (.nil w))
  have head : Run (step Publisher.sampleCalendar) (fun w act => ¬ StrayDownload w act) initial _ u :=
    run_of_exec_allowed (fun _ member _ => calm_of_no_call
      (fun token same => by simp [same] at member)) claimed
  have whole := run_append head tail
  refine ⟨w, attempt, request, ?_, working, found, opened, ?_⟩
  · simp only [exec, Option.bind_eq_some_iff, Option.some.injEq] at claimed ⊢
    obtain ⟨a, one, b, two, c, three, rfl⟩ := claimed
    exact ⟨a, one, b, two, c, three, v, first, w, second, rfl⟩
  · exact ((stages_share_workspace_unless_stray whole).1 3 attempt .probeAsset 1 request working
      found key).1 0 opened

/-- A forced save of a URL ingest downloads into the directory of the first
    generation, whose cleanup is free to remove it. -/
theorem forced_download_strays :
    ∃ w attempt request, exec (step Publisher.sampleCalendar) initial
        (sampleDuplicate ++ [.forceSave 0] ++ sampleInspected true 14 ++
          [.claimJob "a" (30 * second) (.stage .downloadSource 0 true), .call 16 .answered,
            .call 16 .answered]) = some w ∧
      w.attempts.get 16 = some attempt ∧ w.db.ingests.get 0 = some request ∧
      attempt.lease.jobId.key = .stage .downloadSource 0 request.forceSave ∧
      attempt.workspace = some 0 ∧ request.workspaceId = 12 :=
  ⟨_, _, _, rfl, rfl, rfl, rfl, rfl, rfl⟩

end Runs

end Sooqa.Inbox
