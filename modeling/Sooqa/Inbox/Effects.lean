import Sooqa.Inbox.System
import Sooqa.Library.Effects

/-!
What the stage transactions can do: each begin, complete and fail operation
either changes nothing, or found its lease current and moved one ingest in
the way its stage does. Which stage drives an ingest, and what the stage may
rely on, are read off the row alone.
-/
namespace Sooqa.Inbox
open Foundation Queue Worker
open Library (SameRequest Linked IsFollowUp)

section Stages

/-- The status of an ingest while a stage works on it. -/
def stageStatus : Stage → IngestStatus
  | .inspectSource => .queued
  | .downloadSource => .downloading
  | .probeAsset => .probing
  | .normalizeAsset => .normalizing
  | .computeFingerprint => .fingerprinting
  | .finalizeIngest => .storing

def Stage.rank : Stage → Nat
  | .inspectSource => 0
  | .downloadSource => 1
  | .probeAsset => 2
  | .normalizeAsset => 3
  | .computeFingerprint => 4
  | .finalizeIngest => 5

/-- The stages that can come right after one. -/
def Stage.next : Stage → List Stage
  | .inspectSource => [.downloadSource]
  | .downloadSource => [.probeAsset]
  | .probeAsset => [.normalizeAsset]
  | .normalizeAsset => [.computeFingerprint, .finalizeIngest]
  | .computeFingerprint | .finalizeIngest => []

theorem Stage.rank_lt_of_next {stage successor : Stage} (h : successor ∈ Stage.next stage) :
    Stage.rank stage < Stage.rank successor := by
  cases stage <;> cases successor <;> first | exact absurd h (by decide) | decide

/-- The stage a fresh or resumed ingest starts with. -/
def firstStage : IngestKind → Stage
  | .url => .inspectSource
  | .telegramMessage | .upload => .probeAsset

/-- The stage whose job drives an ingest without a media; after a recorded
    failure it is the stage that failed. -/
def drivingStage (failed : Option Stage) (request : Ingest) : Option Stage :=
  if request.mediaId.isSome then none
  else match request.status with
    | .queued => some (firstStage request.kind)
    | .downloading =>
      some (if request.data.download.isSome then .probeAsset else .downloadSource)
    | .probing => some .probeAsset
    | .normalizing => some .normalizeAsset
    | .fingerprinting => some .computeFingerprint
    | .storing => some .finalizeIngest
    | .failedRetryable => failed
    | _ => none

/-- What the stages up to this one have left unrecorded. -/
structure Unrecorded (stage : Stage) (request : Ingest) : Prop where
  inspected : stage = .inspectSource → request.kind = .url
  download : Stage.rank stage ≤ 1 → request.data.download = none
  normalization : Stage.rank stage ≤ 3 → request.data.normalization = none
  finalization : request.data.finalization = none

/-- The ingests a begin operation lets its stage work on. -/
structure Admits (stage : Stage) (request : Ingest) : Prop where
  status : request.status = stageStatus stage ∨ request.status = .failedRetryable ∨
    (stage = .probeAsset ∧ (request.status = .queued ∨ request.status = .downloading))
  download : stage = .downloadSource → request.data.download = none
  normalization : stage = .normalizeAsset → request.data.normalization = none ∨
    request.forceSave = true

/-- The command of a stage job. -/
structure StageCommand (command : JobCommand) (stage : Stage) (ingestId : Uuid) : Prop where
  stage : command.jobType = .stage stage
  ingest : command.stageIngest = some ingestId

/-- One ingest was written; posts and the clock were not. -/
structure Rewrote (db db' : Db) (id : Uuid) (request' : Ingest) : Prop where
  here : db'.ingests.get id = some request'
  others : ∀ other, other ≠ id → db'.ingests.get other = db.ingests.get other
  posts : db'.posts = db.posts
  now : db'.now = db.now
  fresh : db.fresh ≤ db'.fresh

theorem Rewrote.of_set (db : Db) (id : Uuid) (request' : Ingest) :
    Rewrote db (setIngest db id request') id request' :=
  ⟨Table.get_set_self _ _ _, fun _ ne => Table.get_set_ne _ _ ne, rfl, rfl, le_rfl⟩

theorem Rewrote.then_enqueued {db mid db' : Db} {id : Uuid} {request' : Ingest}
    {kind : JobKey → Prop} (first : Rewrote db mid id request') (second : Enqueues kind mid db') :
    Rewrote db db' id request' where
  here := second.ingests ▸ first.here
  others := second.ingests ▸ first.others
  posts := second.posts.trans first.posts
  now := second.now.trans first.now
  fresh := le_trans first.fresh second.fresh

end Stages

section Begin
variable {db db' : Db} {id : Uuid} {lease : JobLease}

theorem loadRequest_ok {request : Ingest} (h : loadRequest db id = .ok request) :
    db.ingests.get id = some request := expect_ok.mp h

theorem transitionTo_ok {request moved : Ingest} {target : IngestStatus}
    (h : transitionTo request target = .ok moved) : moved = { request with status := target } := by
  unfold transitionTo at h
  split at h
  · cases h
    rfl
  · cases h

theorem transitionAlong_ok {request moved : Ingest} {path : List IngestStatus}
    (h : transitionAlong request path = .ok moved) :
    moved = { request with status := path.getLastD request.status } := by
  induction path generalizing request with
  | nil =>
    cases h
    rfl
  | cons target rest ih =>
    simp only [transitionAlong, bind_ok] at h
    obtain ⟨next, first, later⟩ := h
    rw [ih later, transitionTo_ok first, List.getLastD_cons]

/-- An admitted stage: the lease is current and the ingest now has the status
    of the stage. -/
structure Begun (db db' : Db) (id : Uuid) (stage : Stage) (lease : JobLease)
    (request begun : Ingest) : Prop where
  current : isCurrent db lease = true
  found : db.ingests.get id = some request
  admitted : Admits stage request
  status : begun.status = stageStatus stage
  same : SameRequest request begun
  mediaId : begun.mediaId = request.mediaId
  data : begun.data = request.data
  write : Rewrote db db' id begun
  jobs : db'.jobs = db.jobs

/-- A stage that was not admitted. -/
structure Passed (db db' : Db) (id : Uuid) (stage : Stage) (lease : JobLease) : Prop where
  unchanged : db' = db
  reason : isCurrent db lease = false ∨
    ∀ request, db.ingests.get id = some request → ¬ Admits stage request

/-- The three ways through a begin operation. -/
theorem beginStage_ok {skip : Ingest → Bool} {resume : IngestStatus → Option (List IngestStatus)}
    {start : StageStart} (h : beginStage db id lease skip resume = .ok (db', start)) :
    ∃ request, db.ingests.get id = some request ∧
      ((db' = db ∧ start = .alreadyAdvanced request ∧
          (skip request = true ∨ isCurrent db lease = false ∨ resume request.status = none)) ∨
        (skip request = false ∧ isCurrent db lease = true ∧ ∃ path begun,
          resume request.status = some path ∧ start = .ready begun ∧
          begun.status = path.getLastD request.status ∧ SameRequest request begun ∧
          begun.mediaId = request.mediaId ∧ begun.data = request.data ∧
          Rewrote db db' id begun ∧ db'.jobs = db.jobs)) := by
  simp only [beginStage, bind_ok] at h
  obtain ⟨request, found, h⟩ := h
  refine ⟨request, loadRequest_ok found, ?_⟩
  split at h
  · rename_i stopped
    simp only [pure_ok, Prod.mk.injEq] at h
    obtain ⟨rfl, rfl⟩ := h
    rw [Bool.or_eq_true, Bool.not_eq_true'] at stopped
    exact Or.inl ⟨rfl, rfl, stopped.imp_right Or.inl⟩
  · rename_i going
    rw [Bool.or_eq_true, Bool.not_eq_true', not_or, Bool.not_eq_true, Bool.not_eq_false] at going
    split at h
    · rename_i refused
      simp only [pure_ok, Prod.mk.injEq] at h
      obtain ⟨rfl, rfl⟩ := h
      exact Or.inl ⟨rfl, rfl, Or.inr (Or.inr refused)⟩
    · rename_i path
      simp only [pure_ok, Prod.mk.injEq] at h
      obtain ⟨rfl, rfl⟩ := h
      exact Or.inr ⟨going.1, going.2, [], request, path, rfl, rfl, .refl _, rfl, rfl,
        ⟨loadRequest_ok found, fun _ _ => rfl, rfl, rfl, le_rfl⟩, rfl⟩
    · rename_i path nonempty resumes
      simp only [bind_ok, pure_ok, Prod.mk.injEq] at h
      obtain ⟨moved, along, rfl, rfl⟩ := h
      have status := transitionAlong_ok along
      subst status
      exact Or.inr ⟨going.1, going.2, path, _, resumes, rfl, rfl, ⟨rfl, rfl, rfl, rfl⟩, rfl, rfl,
        .of_set _ _ _, rfl⟩

/-- A begin operation of a stage, given what its two parameters amount to. -/
theorem beginStage_begins {stage : Stage} {skip : Ingest → Bool}
    {resume : IngestStatus → Option (List IngestStatus)} {start : StageStart}
    (skips : ∀ request, skip request = true → ¬ Admits stage request)
    (refuses : ∀ request, resume request.status = none → ¬ Admits stage request)
    (admits : ∀ request path, skip request = false → resume request.status = some path →
      Admits stage request ∧ path.getLastD request.status = stageStatus stage)
    (h : beginStage db id lease skip resume = .ok (db', start)) :
    (Passed db db' id stage lease ∧ ∃ request, start = .alreadyAdvanced request) ∨
      ∃ request begun, start = .ready begun ∧ Begun db db' id stage lease request begun := by
  obtain ⟨request, found, outcome⟩ := beginStage_ok h
  rcases outcome with ⟨unchanged, answer, reason⟩ |
    ⟨kept, current, path, begun, resumes, answer, status, same, mediaId, data, write, jobs⟩
  · refine Or.inl ⟨⟨unchanged, ?_⟩, request, answer⟩
    rcases reason with skipped | lost | refused
    · refine Or.inr (fun other row => ?_)
      rw [found] at row
      cases row
      exact skips request skipped
    · exact Or.inl lost
    · refine Or.inr (fun other row => ?_)
      rw [found] at row
      cases row
      exact refuses request refused
  · obtain ⟨admitted, last⟩ := admits request path kept resumes
    exact Or.inr ⟨request, begun, answer,
      ⟨current, found, admitted, status.trans last, same, mediaId, data, write, jobs⟩⟩

theorem beginOf_ok {command : JobCommand} {stage : Stage} {start : StageStart}
    (of : StageCommand command stage id)
    (h : beginOf db lease command = some (.ok (db', start))) :
    (Passed db db' id stage lease ∧ ∃ request, start = .alreadyAdvanced request) ∨
      ∃ request begun, start = .ready begun ∧ Begun db db' id stage lease request begun := by
  obtain ⟨stageOf, ingestOf⟩ := of
  cases command <;> simp only [JobCommand.jobType, JobType.stage.injEq, reduceCtorEq,
    JobCommand.stageIngest, Option.some.injEq] at stageOf ingestOf <;> subst stageOf ingestOf <;>
    simp only [beginOf, Option.some.injEq] at h
  all_goals
    refine beginStage_begins ?_ ?_ ?_ h
    · rintro request skipped ⟨-, download, normalization⟩
      simp_all
    · rintro request refused ⟨status, -, -⟩
      simp only [stageStatus] at status
      grind
    · intro request path kept resumes
      split at resumes <;> cases resumes <;> rename_i status
      all_goals
        refine ⟨⟨by simp [status, stageStatus], ?_, ?_⟩, by simp [status, stageStatus]⟩ <;>
          grind [Option.isSome_iff_ne_none]

end Begin

section Fail
variable {db db' : Db} {id : Uuid} {lease : JobLease}

/-- A recorded failure: the lease is current, and the ingest leaves the status
    of the stage for one of the two failed ones. -/
structure Failed (db db' : Db) (id : Uuid) (stage : Stage) (lease : JobLease)
    (request failed : Ingest) : Prop where
  current : isCurrent db lease = true
  found : db.ingests.get id = some request
  active : request.status = stageStatus stage
  download : stage = .downloadSource → request.data.download = none
  status : failed.status = .failedRetryable ∨ failed.status = .failedTerminal
  same : SameRequest request failed
  mediaId : failed.mediaId = request.mediaId
  data : failed.data = request.data
  write : Rewrote db db' id failed
  jobs : Added IsCleanup db.jobs db'.jobs

theorem failIngestStep_ok {stage : Stage} {status : IngestStatus}
    {errorCode errorMessage : String} {answer : Ingest}
    (h : failIngestStep db id status errorCode errorMessage
      ⟨stage == .downloadSource, lease, stageStatus stage⟩ = .ok (db', answer)) :
    db' = db ∨ ∃ request failed, Failed db db' id stage lease request failed := by
  simp only [failIngestStep, bind_ok, require_ok] at h
  obtain ⟨-, allowed, request, found, h⟩ := h
  split at h
  · simp only [pure_ok, Prod.mk.injEq] at h
    exact Or.inl h.1.symm
  · rename_i going
    simp only [bind_ok, pure_ok, Prod.mk.injEq] at h
    obtain ⟨moved, along, h, -⟩ := h
    have row := transitionTo_ok along
    subst row
    simp only [IngestFailureGuard.ignores, Bool.or_eq_true, Bool.and_eq_true, not_or, not_and,
      beq_iff_eq, bne_iff_ne, ne_eq, not_not, Bool.not_eq_true', Bool.not_eq_false,
      Bool.not_eq_true, Option.isSome_eq_false_iff, Option.isNone_iff_eq_none] at going
    obtain ⟨⟨⟨download, active⟩, current⟩, -⟩ := going
    have write : ∀ failed : Ingest, Rewrote db
        (if status = .failedTerminal then
          enqueueWorkspaceCleanup (setIngest db id failed) id failed.workspaceId
            (db.now + workspaceCleanupRetention)
        else setIngest db id failed) id failed := by
      intro failed
      split
      · exact (Rewrote.of_set _ _ _).then_enqueued (enqueueWorkspaceCleanup_enqueues _ _ _ _)
      · exact .of_set _ _ _
    subst h
    refine Or.inr ⟨request, _, current, loadRequest_ok found, active, download, ?_, ?_, ?_, ?_,
      write _, ?_⟩
    · exact allowed
    · exact ⟨rfl, rfl, rfl, rfl⟩
    · rfl
    · rfl
    · split
      · exact (enqueueWorkspaceCleanup_enqueues _ _ _ _).rows
      · exact .refl _ _

theorem failOf_ok {command : JobCommand} {stage : Stage} {failure : HandlerFailure}
    {answer : Ingest} (of : StageCommand command stage id)
    (h : failOf db lease failure command = some (.ok (db', answer))) :
    db' = db ∨ ∃ request failed, Failed db db' id stage lease request failed := by
  obtain ⟨stageOf, ingestOf⟩ := of
  cases command <;> simp only [JobCommand.jobType, JobType.stage.injEq, reduceCtorEq,
    JobCommand.stageIngest, Option.some.injEq] at stageOf ingestOf <;> subst stageOf ingestOf <;>
    simp only [failOf, Option.some.injEq] at h <;> exact failIngestStep_ok h

end Fail

section Complete
variable {db db' mid : Db} {id : Uuid} {lease : JobLease}

/-- Follow-up jobs of an ingest outside the stages. -/
def followsUp (id : Uuid) : JobKey → Prop
  | .materializePublication other => other = id
  | .cleanupWorkspace _ _ | .uploadStorage _ _ | .syncCaption _ _ _ => True
  | .stage _ _ _ | .publish _ => False

theorem followsUp_of_cleanup {key : JobKey} (h : IsCleanup key) : followsUp id key := by
  obtain ⟨ingestId, workspaceId, rfl⟩ := h
  trivial

/-- Where a completed stage leaves its ingest. -/
inductive Outcome (id : Uuid) (stage : Stage) (request request' : Ingest) (jobs jobs' : Jobs) :
    Prop where
  | next (successor : Stage) (later : successor ∈ Stage.next stage)
      (media : request'.mediaId = request.mediaId)
      (running : request'.status ≠ .completed)
      (driven : request.mediaId = none → Unrecorded stage request →
        (∀ failed, drivingStage failed request' = some successor) ∧ Unrecorded successor request')
      (present : ∃ job, jobs'.get (.stage successor id request.forceSave) = some job)
      (added : Added (· = .stage successor id request.forceSave) jobs jobs')
  | closed (media : request'.mediaId = request.mediaId) (status : request'.status = .failedTerminal)
      (added : Added (followsUp id) jobs jobs')
  | pending (media : request'.mediaId = none) (status : request'.status = .duplicatePending)
      (unforced : request.forceSave = false) (added : Added (followsUp id) jobs jobs')
  | linked (linked : Linked request') (added : Added (followsUp id) jobs jobs')
      (promised : request'.status = .completed → request'.requestedAction ≠ .save →
        ∃ job, jobs'.get (.materializePublication id) = some job)

/-- A completed stage: the lease was current, the ingest moved on, its follow-up
    jobs were added and its own job succeeded, all in one transaction. -/
structure HandedOver (db db' : Db) (id : Uuid) (stage : Stage) (lease : JobLease)
    (request request' : Ingest) (job : Job) (jobs : Jobs) : Prop where
  current : lockCurrentJobAttempt db.jobs db.now lease = some job
  found : db.ingests.get id = some request
  active : request.status = stageStatus stage
  same : SameRequest request request'
  write : Rewrote db db' id request'
  outcome : Outcome id stage request request' db.jobs jobs
  jobs : db'.jobs = jobs.put (job.succeeded db.now)

/-- A completion that found its lease lost, or its stage over. -/
structure Stopped (db db' : Db) (id : Uuid) (stage : Stage) (lease : JobLease) : Prop where
  unchanged : db' = db
  reason : isCurrent db lease = false ∨ ∀ request, db.ingests.get id = some request →
    request.status = stageStatus stage → ¬ Unrecorded stage request

theorem Outcome.added {stage : Stage} {request request' : Ingest} {jobs jobs' : Jobs}
    (h : Outcome id stage request request' jobs jobs') : ∃ kind, Added kind jobs jobs' := by
  cases h with
  | next _ _ _ _ _ _ added => exact ⟨_, added⟩
  | closed _ _ added => exact ⟨_, added⟩
  | pending _ _ _ added => exact ⟨_, added⟩
  | linked _ added _ => exact ⟨_, added⟩

theorem isCurrent_eq_true : isCurrent db lease = true ↔
    ∃ job, lockCurrentJobAttempt db.jobs db.now lease = some job := Option.isSome_iff_exists

/-- The end of every completed stage. -/
theorem finishStage_ok {stage : Stage} {request request' answer : Ingest}
    (h : finishStage mid lease request' = .ok (db', answer)) (current : isCurrent db lease = true) (found : db.ingests.get id = some request)
    (active : request.status = stageStatus stage) (same : SameRequest request request')
    (write : Rewrote db mid id request')
    (outcome : Outcome id stage request request' db.jobs mid.jobs) :
    ∃ job jobs, HandedOver db db' id stage lease request request' job jobs := by
  simp only [finishStage, succeedCurrentJobAttempt, bind_ok, pure_ok, expect_ok,
    Prod.mk.injEq] at h
  obtain ⟨succeeded, ⟨job, locked, rfl⟩, rfl, -⟩ := h
  obtain ⟨row, shown⟩ := isCurrent_eq_true.mp current
  obtain ⟨kind, added⟩ := outcome.added
  have kept := added.kept (lockCurrentJobAttempt_eq_some.mp shown).1
  rw [(lockCurrentJobAttempt_eq_some.mp locked).1] at kept
  cases kept
  exact ⟨job, mid.jobs, shown, found, active, same,
    ⟨write.here, write.others, write.posts, write.now, write.fresh⟩, outcome, by rw [write.now]⟩

theorem insertStageJob_enqueues (db : Db) (id : Uuid) (request : Ingest) (stage : Stage)
    (command : JobCommand) (owned) :
    Enqueues (· = .stage stage id request.forceSave) db
      (insertStageJob db id request stage command owned) := .of_enqueue rfl

/-- The row of a stage insert is there afterwards, old or new. -/
theorem insertStageJob_present (db : Db) (id : Uuid) (request : Ingest) (stage : Stage)
    (command : JobCommand) (owned) : ∃ job,
    (insertStageJob db id request stage command owned).jobs.get (.stage stage id request.forceSave) =
      some job := ⟨_, (Db.enqueue_jobs_get _ _ _ _ _ _ _).trans (if_pos rfl)⟩

/-- A completion whose guard refused the ingest it loaded. -/
theorem Stopped.of_guard {stage : Stage} {request : Ingest}
    (found : db.ingests.get id = some request) (unchanged : db = db')
    (reason : isCurrent db lease = false ∨
      (request.status = stageStatus stage → ¬ Unrecorded stage request)) :
    Stopped db db' id stage lease := by
  refine ⟨unchanged.symm, reason.imp_right (fun refused other row => ?_)⟩
  rw [found] at row
  cases row
  exact refused

theorem completeSourceInspection_ok {inspection : SourceInspection} {answer : Ingest}
    (h : completeSourceInspection db id lease inspection = .ok (db', answer)) :
    Stopped db db' id .inspectSource lease ∨ ∃ request request' job jobs,
      HandedOver db db' id .inspectSource lease request request' job jobs := by
  simp only [completeSourceInspection, bind_ok] at h
  obtain ⟨request, found, h⟩ := h
  have row := loadRequest_ok found
  split at h
  · rename_i stopped
    simp only [pure_ok, Prod.mk.injEq] at h
    refine Or.inl (.of_guard row h.1 ?_)
    simp only [Bool.or_eq_true, decide_eq_true_eq, Bool.not_eq_true'] at stopped
    exact stopped.symm.imp_right (fun other active => absurd active other)
  · rename_i going
    simp only [Bool.or_eq_true, decide_eq_true_eq, Bool.not_eq_true', not_or, not_not,
      Bool.not_eq_false] at going
    simp only [bind_ok] at h
    obtain ⟨moved, along, h⟩ := h
    have moves := transitionTo_ok along
    subst moves
    refine Or.inr ⟨request, _, finishStage_ok h going.2 row going.1 ⟨rfl, rfl, rfl, rfl⟩
      ((Rewrote.of_set _ _ _).then_enqueued (insertStageJob_enqueues _ _ _ _ _ _)) ?_⟩
    refine .next .downloadSource (by decide) rfl nofun (fun unlinked clean => ⟨fun _ => ?_, ?_⟩)
      (insertStageJob_present _ _ _ _ _ _) (insertStageJob_enqueues _ _ _ _ _ _).rows
    · simp [drivingStage, clearErrors, unlinked, clean.download (by decide)]
    · exact ⟨nofun, fun _ => clean.download (by decide), fun _ => clean.normalization (by decide),
        clean.finalization⟩

theorem completeSourceDownload_ok {download : SourceDownload} {answer : Ingest}
    (h : completeSourceDownload db id lease download = .ok (db', answer)) :
    Stopped db db' id .downloadSource lease ∨ ∃ request request' job jobs,
      HandedOver db db' id .downloadSource lease request request' job jobs := by
  simp only [completeSourceDownload, bind_ok] at h
  obtain ⟨request, found, h⟩ := h
  have row := loadRequest_ok found
  split at h
  · rename_i stopped
    simp only [pure_ok, Prod.mk.injEq] at h
    refine Or.inl (.of_guard row h.1 ?_)
    simp only [Bool.or_eq_true, decide_eq_true_eq, Bool.not_eq_true'] at stopped
    rcases stopped with (other | recorded) | lost
    · exact Or.inr (fun active => absurd active other)
    · refine Or.inr (fun _ clean => ?_)
      rw [clean.download (by decide)] at recorded
      cases recorded
    · exact Or.inl lost
  · rename_i going
    simp only [Bool.or_eq_true, decide_eq_true_eq, Bool.not_eq_true', not_or, not_not,
      Bool.not_eq_false] at going
    refine Or.inr ⟨request, _, finishStage_ok h going.2 row going.1.1 ⟨rfl, rfl, rfl, rfl⟩
      ((Rewrote.of_set _ _ _).then_enqueued (insertStageJob_enqueues _ _ _ _ _ _)) ?_⟩
    refine .next .probeAsset (by decide) rfl (by simp [going.1.1])
      (fun unlinked clean => ⟨fun _ => ?_, ?_⟩)
      (insertStageJob_present _ _ _ _ _ _) (insertStageJob_enqueues _ _ _ _ _ _).rows
    · simp [drivingStage, unlinked, going.1.1]
    · exact ⟨nofun, fun early => absurd early (by decide),
        fun _ => clean.normalization (by decide), clean.finalization⟩

theorem completeAssetProbe_ok {probe : IngestProbe} {answer : Ingest}
    (h : completeAssetProbe db id lease probe = .ok (db', answer)) :
    Stopped db db' id .probeAsset lease ∨ ∃ request request' job jobs,
      HandedOver db db' id .probeAsset lease request request' job jobs := by
  simp only [completeAssetProbe, bind_ok] at h
  obtain ⟨request, found, h⟩ := h
  have row := loadRequest_ok found
  split at h
  · rename_i stopped
    simp only [pure_ok, Prod.mk.injEq] at h
    refine Or.inl (.of_guard row h.1 ?_)
    simp only [Bool.or_eq_true, decide_eq_true_eq, Bool.not_eq_true'] at stopped
    exact stopped.symm.imp_right (fun other active => absurd active other)
  · rename_i going
    simp only [Bool.or_eq_true, decide_eq_true_eq, Bool.not_eq_true', not_or, not_not,
      Bool.not_eq_false] at going
    split at h
    · simp only [bind_ok] at h
      obtain ⟨moved, along, h⟩ := h
      have moves := transitionTo_ok along
      subst moves
      refine Or.inr ⟨request, _, finishStage_ok h going.2 row going.1 ⟨rfl, rfl, rfl, rfl⟩
        ((Rewrote.of_set _ _ _).then_enqueued (enqueueWorkspaceCleanup_enqueues _ _ _ _)) ?_⟩
      exact .closed rfl rfl ((enqueueWorkspaceCleanup_enqueues _ _ _ _).rows.weaken
        (fun _ => followsUp_of_cleanup))
    · simp only [bind_ok] at h
      obtain ⟨moved, along, h⟩ := h
      have moves := transitionTo_ok along
      subst moves
      refine Or.inr ⟨request, _, finishStage_ok h going.2 row going.1 ⟨rfl, rfl, rfl, rfl⟩
        ((Rewrote.of_set _ _ _).then_enqueued (insertStageJob_enqueues _ _ _ _ _ _)) ?_⟩
      refine .next .normalizeAsset (by decide) rfl nofun
        (fun unlinked clean => ⟨fun _ => ?_, ?_⟩)
        (insertStageJob_present _ _ _ _ _ _) (insertStageJob_enqueues _ _ _ _ _ _).rows
      · simp [drivingStage, clearErrors, probedIngest, unlinked]
      · exact ⟨nofun, fun early => absurd early (by decide),
        fun _ => clean.normalization (by decide), clean.finalization⟩

theorem completeAssetNormalization_ok {normalization : AssetNormalization} {answer : Ingest}
    (h : completeAssetNormalization db id lease normalization = .ok (db', answer)) :
    Stopped db db' id .normalizeAsset lease ∨ ∃ request request' job jobs,
      HandedOver db db' id .normalizeAsset lease request request' job jobs := by
  simp only [completeAssetNormalization, bind_ok] at h
  obtain ⟨request, found, h⟩ := h
  have row := loadRequest_ok found
  split at h
  · rename_i stopped
    simp only [pure_ok, Prod.mk.injEq] at h
    refine Or.inl (.of_guard row h.1 ?_)
    simp only [Bool.or_eq_true, Bool.and_eq_true, decide_eq_true_eq, Bool.not_eq_true'] at stopped
    rcases stopped with (other | recorded) | lost
    · exact Or.inr (fun active => absurd active other)
    · refine Or.inr (fun _ clean => ?_)
      rw [clean.normalization (by decide)] at recorded
      cases recorded.1
    · exact Or.inl lost
  · rename_i going
    simp only [Bool.or_eq_true, Bool.and_eq_true, decide_eq_true_eq, Bool.not_eq_true', not_or,
      not_not, Bool.not_eq_false] at going
    simp only [bind_ok] at h
    obtain ⟨moved, along, h⟩ := h
    have moves := transitionTo_ok along
    subst moves
    -- A video goes on to its fingerprint, everything else to finalization.
    cases isVideo : normalization.mediaKind == .video with
    | true =>
      rw [isVideo] at h
      refine Or.inr ⟨request, _, finishStage_ok h going.2 row going.1.1 ⟨rfl, rfl, rfl, rfl⟩
        ((Rewrote.of_set _ _ _).then_enqueued (insertStageJob_enqueues _ _ _ _ _ _)) ?_⟩
      refine .next .computeFingerprint (by decide) rfl nofun
        (fun unlinked clean => ⟨fun _ => ?_, ?_⟩)
        (insertStageJob_present _ _ _ _ _ _) (insertStageJob_enqueues _ _ _ _ _ _).rows
      · simp [drivingStage, clearErrors, unlinked]
      · exact ⟨nofun, fun early => absurd early (by decide),
          fun early => absurd early (by decide), clean.finalization⟩
    | false =>
      rw [isVideo] at h
      refine Or.inr ⟨request, _, finishStage_ok h going.2 row going.1.1 ⟨rfl, rfl, rfl, rfl⟩
        ((Rewrote.of_set _ _ _).then_enqueued (insertStageJob_enqueues _ _ _ _ _ _)) ?_⟩
      refine .next .finalizeIngest (by decide) rfl nofun
        (fun unlinked clean => ⟨fun _ => ?_, ?_⟩)
        (insertStageJob_present _ _ _ _ _ _) (insertStageJob_enqueues _ _ _ _ _ _).rows
      · simp [drivingStage, clearErrors, unlinked]
      · exact ⟨nofun, fun early => absurd early (by decide),
          fun early => absurd early (by decide), clean.finalization⟩

/-- A write of the ingest after inserts, in place of one before them. -/
theorem Rewrote.after_enqueued {kind : JobKey → Prop} {request' : Ingest}
    (first : Enqueues kind db mid) : Rewrote db (setIngest mid id request') id request' where
  here := Table.get_set_self _ _ _
  others := fun other ne => by
    rw [← first.ingests]
    exact Table.get_set_ne _ _ ne
  posts := first.posts
  now := first.now
  fresh := first.fresh

theorem insertStorageJob_enqueues (db : Db) (id mediaId : Uuid) :
    Enqueues (followsUp id) db (insertStorageJob db mediaId) := by
  unfold insertStorageJob
  split
  · exact .refl _ _
  · exact .of_enqueue trivial

theorem insertMaterializationJob_enqueues (db : Db) (id : Uuid) :
    Enqueues (followsUp id) db (insertMaterializationJob db id) := .of_enqueue rfl

theorem enqueueWorkspaceCleanup_followsUp (db : Db) (id ingestId workspaceId : Uuid)
    (runAt : Time) :
    Enqueues (followsUp id) db (enqueueWorkspaceCleanup db ingestId workspaceId runAt) :=
  .of_enqueue trivial

/-- The follow-up of a completed ingest, in one transaction with it. -/
theorem advanceAfterMediaProcessing_ok {request request' : Ingest} {mediaId : Uuid}
    (h : advanceAfterMediaProcessing db id request mediaId = .ok (db', request')) :
    SameRequest request request' ∧ Linked request' ∧ Rewrote db db' id request' ∧
      Added (followsUp id) db.jobs db'.jobs ∧
      (request'.status = .completed → request'.requestedAction ≠ .save →
        ∃ job, db'.jobs.get (.materializePublication id) = some job) := by
  simp only [advanceAfterMediaProcessing, bind_ok] at h
  obtain ⟨media, -, h⟩ := h
  split at h
  · simp only [bind_ok, pure_ok, Prod.mk.injEq] at h
    obtain ⟨moved, along, rfl, rfl⟩ := h
    have moves := transitionTo_ok along
    subst moves
    have enqueued : Enqueues (followsUp id) db
        (if request.requestedAction ≠ .save then insertMaterializationJob db id else db) := by
      split
      · exact insertMaterializationJob_enqueues db id
      · exact .refl _ _
    have cleaned := enqueueWorkspaceCleanup_followsUp
      (if request.requestedAction ≠ .save then insertMaterializationJob db id else db) id id
      request.workspaceId db.now
    refine ⟨⟨rfl, rfl, rfl, rfl⟩, ⟨rfl, Or.inr (Or.inl rfl)⟩,
      .after_enqueued (enqueued.trans cleaned), (enqueued.trans cleaned).rows, ?_⟩
    intro _ publishes
    have asked : request.requestedAction ≠ .save := publishes
    rw [if_pos asked] at cleaned
    have present := (Db.enqueue_jobs_get db (.materializePublication id)
      (.materializePublication id) (by simp [JobKey.owns]) db.now Db.defaultMaxAttempts
      (.materializePublication id)).trans (if_pos rfl)
    simp only [if_pos asked]
    exact ⟨_, cleaned.rows.kept present⟩
  · simp only [bind_ok, pure_ok, Prod.mk.injEq] at h
    obtain ⟨moved, along, rfl, rfl⟩ := h
    have moves := transitionTo_ok along
    subst moves
    exact ⟨⟨rfl, rfl, rfl, rfl⟩, ⟨rfl, Or.inl rfl⟩,
      .after_enqueued (insertStorageJob_enqueues db id mediaId),
      (insertStorageJob_enqueues db id mediaId).rows, nofun⟩
  all_goals
    simp only [bind_ok, pure_ok, Prod.mk.injEq] at h
    obtain ⟨moved, along, rfl, rfl⟩ := h
    have moves := transitionTo_ok along
    subst moves
    have cleaned := enqueueWorkspaceCleanup_followsUp db id id request.workspaceId
      (db.now + workspaceCleanupRetention)
    exact ⟨⟨rfl, rfl, rfl, rfl⟩, ⟨rfl, Or.inr (Or.inr (Or.inl rfl))⟩, .after_enqueued cleaned,
      cleaned.rows, nofun⟩

theorem completeIngestFinalization_ok {mediaId : Uuid} {answer : Ingest}
    (h : completeIngestFinalization db id lease mediaId = .ok (db', answer)) :
    Stopped db db' id .finalizeIngest lease ∨ ∃ request request' job jobs,
      HandedOver db db' id .finalizeIngest lease request request' job jobs := by
  simp only [completeIngestFinalization, bind_ok] at h
  obtain ⟨request, found, h⟩ := h
  have row := loadRequest_ok found
  split at h
  · rename_i stopped
    simp only [pure_ok, Prod.mk.injEq] at h
    refine Or.inl (.of_guard row h.1 ?_)
    simp only [Bool.or_eq_true, decide_eq_true_eq, Bool.not_eq_true'] at stopped
    rcases stopped with (other | recorded) | lost
    · exact Or.inr (fun active => absurd active other)
    · refine Or.inr (fun _ clean => ?_)
      rw [clean.finalization] at recorded
      cases recorded
    · exact Or.inl lost
  · rename_i going
    simp only [Bool.or_eq_true, decide_eq_true_eq, Bool.not_eq_true', not_or, not_not,
      Bool.not_eq_false] at going
    simp only [bind_ok] at h
    obtain ⟨-, -, ⟨advancedDb, advanced⟩, processed, h⟩ := h
    obtain ⟨same, linked, write, added, promised⟩ := advanceAfterMediaProcessing_ok processed
    exact Or.inr ⟨request, advanced, finishStage_ok h going.2 row going.1.1
      ⟨same.kind, same.forceSave, same.workspaceId, same.requestedAction⟩ write
      (.linked linked added promised)⟩

theorem pendDuplicate_ok {request request' : Ingest} {evidence : Library.VideoDuplicateEvidence}
    (h : pendDuplicate db id request evidence = .ok (db', request')) :
    SameRequest request request' ∧ request'.mediaId = none ∧
      request'.status = .duplicatePending ∧ Rewrote db db' id request' ∧
      Added (followsUp id) db.jobs db'.jobs := by
  simp only [pendDuplicate, bind_ok, pure_ok, Prod.mk.injEq] at h
  obtain ⟨-, -, -, -, moved, along, rfl, rfl⟩ := h
  have moves := transitionTo_ok along
  subst moves
  have cleaned := enqueueWorkspaceCleanup_followsUp db id id request.workspaceId
    (db.now + workspaceCleanupRetention)
  exact ⟨⟨rfl, rfl, rfl, rfl⟩, rfl, rfl, .after_enqueued cleaned, cleaned.rows⟩

theorem liftLibrary_ok {α : Type} {result : Except Library.Error α} {value : α}
    (h : liftLibrary result = .ok value) : result = .ok value := by
  cases result with
  | error e => cases h
  | ok found =>
    cases h
    rfl

/-- A write of the ingest after one of its media. -/
theorem Rewrote.after_media {request' : Ingest} (first : Library.MediaWrite db mid)
    (second : Rewrote mid db' id request') : Rewrote db db' id request' where
  here := second.here
  others := first.ingests ▸ second.others
  posts := second.posts.trans first.posts
  now := second.now.trans first.now
  fresh := le_trans first.fresh second.fresh

theorem followsUp_of_caption {key : JobKey} (h : Library.IsCaption key) : followsUp id key := by
  obtain ⟨mediaId, generation, after, rfl⟩ := h
  trivial

theorem completeVideoIdentity_ok {ingest : Library.MediaIngest}
    {fingerprint : Option Library.VideoFingerprintInput}
    {decision : Library.VideoIdentityDecision} {answer : Ingest}
    (h : completeVideoIdentity db id lease ingest fingerprint decision = .ok (db', answer)) :
    Stopped db db' id .computeFingerprint lease ∨ ∃ request request' job jobs,
      HandedOver db db' id .computeFingerprint lease request request' job jobs := by
  simp only [completeVideoIdentity, bind_ok] at h
  obtain ⟨request, found, h⟩ := h
  have row := loadRequest_ok found
  split at h
  · rename_i stopped
    simp only [pure_ok, Prod.mk.injEq] at h
    refine Or.inl (.of_guard row h.1 ?_)
    simp only [Bool.or_eq_true, decide_eq_true_eq, Bool.not_eq_true'] at stopped
    exact stopped.symm.imp_right (fun other active => absurd active other)
  · rename_i going
    simp only [Bool.or_eq_true, decide_eq_true_eq, Bool.not_eq_true', not_or, not_not,
      Bool.not_eq_false] at going
    simp only [bind_ok] at h
    obtain ⟨⟨identified, outcome⟩, persisted, ⟨advancedDb, advanced⟩, applied, h⟩ := h
    obtain ⟨media, unforced⟩ := Library.persistVideoIdentity_write (liftLibrary_ok persisted)
    have captions := media.jobs.weaken (fun _ caption => show followsUp id _ from followsUp_of_caption caption)
    refine Or.inr ⟨request, advanced, ?_⟩
    cases outcome with
    | duplicatePending evidence =>
      obtain ⟨same, unlinked, pending, write, added⟩ := pendDuplicate_ok applied
      exact finishStage_ok h going.2 row going.1 same (.after_media media write)
        (.pending unlinked pending (unforced evidence rfl) (captions.trans added))
    | exactDuplicate mediaId =>
      obtain ⟨same, linked, write, added, promised⟩ := advanceAfterMediaProcessing_ok applied
      exact finishStage_ok h going.2 row going.1
        ⟨same.kind, same.forceSave, same.workspaceId, same.requestedAction⟩
        (.after_media media write) (.linked linked (captions.trans added) promised)
    | newMedia mediaId =>
      obtain ⟨same, linked, write, added, promised⟩ := advanceAfterMediaProcessing_ok applied
      exact finishStage_ok h going.2 row going.1
        ⟨same.kind, same.forceSave, same.workspaceId, same.requestedAction⟩
        (.after_media media write) (.linked linked (captions.trans added) promised)

theorem completeOf_ok {command : JobCommand} {stage : Stage} {result : StageResult}
    {answer : Ingest} (of : StageCommand command stage id)
    (h : completeOf db lease command result = some (.ok (db', answer))) :
    Stopped db db' id stage lease ∨ ∃ request request' job jobs,
      HandedOver db db' id stage lease request request' job jobs := by
  obtain ⟨stageOf, ingestOf⟩ := of
  cases command <;> simp only [JobCommand.jobType, JobType.stage.injEq, reduceCtorEq,
    JobCommand.stageIngest, Option.some.injEq] at stageOf ingestOf <;> subst stageOf ingestOf <;>
    cases result <;> simp only [completeOf, Option.some.injEq, reduceCtorEq] at h
  · exact completeSourceInspection_ok h
  · exact completeSourceDownload_ok h
  · exact completeAssetProbe_ok h
  · exact completeAssetNormalization_ok h
  · exact completeVideoIdentity_ok h
  · exact completeIngestFinalization_ok h

end Complete
end Sooqa.Inbox
