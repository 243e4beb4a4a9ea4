import Sooqa.Inbox.Effects

/-!
One ingest as the pipeline sees it: its row, the stage that failed last, and
for each of its stage keys whether a job is there and live. `Shift` lists
every way a step can move this view; `Flow` is what all of them keep. A live
stage job either drives the ingest or belongs to one that has ended, and the
keys of the stages to come are free, so no insert of a successor is swallowed.
-/
namespace Sooqa.Inbox
open Foundation Queue Worker
open Library (SameRequest Linked)

structure View where
  row : Option Ingest
  failed : Option Stage
  /-- Whether the job under a stage key is live, if there is one. -/
  job : Stage → Bool → Option Bool

def World.view (w : World) (id : Uuid) : View where
  row := w.db.ingests.get id
  failed := w.failedStages.get id
  job := fun stage forceSave => (w.db.jobs.get (.stage stage id forceSave)).map (·.state.live)

/-- An ingest that ended before it got a media. Its last job may still run. -/
structure Closed (request : Ingest) : Prop where
  status : request.status = .failedTerminal
  media : request.mediaId = none

/-- What holds of every ingest. -/
structure Flow (request : Ingest) (failed : Option Stage) (job : Stage → Bool → Option Bool) :
    Prop where
  /-- A media comes with a status that its storage gives. -/
  linked : request.mediaId.isSome = true → Linked request
  driven : ∀ stage, drivingStage failed request = some stage →
    job stage request.forceSave = some true
  only : ∀ stage forceSave, job stage forceSave = some true →
    (drivingStage failed request = some stage ∧ forceSave = request.forceSave) ∨ Closed request
  recorded : request.status = .failedRetryable → request.mediaId = none → failed.isSome = true
  free : ∀ stage later, drivingStage failed request = some stage →
    Stage.rank stage < Stage.rank later → job later request.forceSave = none
  unforced : request.forceSave = false → ∀ stage, job stage true = none
  unrecorded : ∀ stage, drivingStage failed request = some stage → Unrecorded stage request
  pending : request.status = .duplicatePending → request.forceSave = false

/-- No row appears, none becomes live, and a live one stays. -/
def Thinned (job job' : Stage → Bool → Option Bool) : Prop :=
  ∀ stage forceSave, job' stage forceSave = job stage forceSave ∨
    (job stage forceSave = some false ∧ job' stage forceSave = none)

/-- No row appears. -/
def NoneAdded (job job' : Stage → Bool → Option Bool) : Prop :=
  ∀ stage forceSave, job stage forceSave = none → job' stage forceSave = none

/-- Every way a step moves the view of one ingest; `records` says which stage
    recorded its result or its failure in the step. -/
inductive Shift (records : Stage → Prop) (v v' : View) : Prop where
  | steady (row : v'.row = v.row) (failed : v'.failed = v.failed) (jobs : Thinned v.job v'.job)
  | created (request : Ingest) (absent : v.row = none) (here : v'.row = some request)
      (status : request.status = .queued) (media : request.mediaId = none)
      (unforced : request.forceSave = false)
      (unrecorded : Unrecorded (firstStage request.kind) request)
      (idle : ∀ stage forceSave, v.job stage forceSave = none)
      (jobs : ∀ stage forceSave, v'.job stage forceSave =
        if stage = firstStage request.kind ∧ forceSave = false then some true else none)
  | begun (stage : Stage) (request request' : Ingest) (found : v.row = some request)
      (here : v'.row = some request') (admitted : Admits stage request)
      (live : ∃ forceSave, v.job stage forceSave = some true)
      (status : request'.status = stageStatus stage) (same : SameRequest request request')
      (media : request'.mediaId = request.mediaId) (data : request'.data = request.data)
      (failed : v'.failed = v.failed) (jobs : v'.job = v.job)
  | advanced (stage successor : Stage) (recorded : records stage) (forceSave : Bool)
      (request request' : Ingest)
      (found : v.row = some request) (here : v'.row = some request')
      (active : request.status = stageStatus stage) (live : v.job stage forceSave = some true)
      (later : successor ∈ Stage.next stage) (same : SameRequest request request')
      (media : request'.mediaId = request.mediaId)
      (driven : request.mediaId = none → Unrecorded stage request →
        (∀ failed, drivingStage failed request' = some successor) ∧ Unrecorded successor request')
      (jobs : ∀ other flag, v'.job other flag =
        if other = stage ∧ flag = forceSave then some false
        else if other = successor ∧ flag = request.forceSave then some ((v.job other flag).getD true)
        else v.job other flag)
  | finished (stage : Stage) (forceSave : Bool) (request request' : Ingest)
      (found : v.row = some request) (here : v'.row = some request')
      (active : request.status = stageStatus stage) (live : v.job stage forceSave = some true)
      (same : SameRequest request request')
      (ended : (request'.status = .failedTerminal ∧ request'.mediaId = request.mediaId) ∨
        (request'.status = .duplicatePending ∧ request'.mediaId = none ∧
          request.forceSave = false) ∨ Linked request')
      (jobs : ∀ other flag, v'.job other flag =
        if other = stage ∧ flag = forceSave then some false else v.job other flag)
  | retrying (stage : Stage) (recorded : records stage) (request request' : Ingest)
      (found : v.row = some request) (here : v'.row = some request') (active : request.status = stageStatus stage)
      (live : ∃ forceSave, v.job stage forceSave = some true)
      (status : request'.status = .failedRetryable) (same : SameRequest request request')
      (media : request'.mediaId = request.mediaId) (data : request'.data = request.data)
      (failed : v'.failed = some stage) (jobs : v'.job = v.job)
  | closed (request request' : Ingest) (found : v.row = some request)
      (here : v'.row = some request') (same : SameRequest request request')
      (closed : Closed request') (jobs : NoneAdded v.job v'.job)
      (unlinked : request.mediaId = none)
      (live : ∃ stage forceSave, v.job stage forceSave = some true)
  | resumed (request request' : Ingest) (found : v.row = some request)
      (here : v'.row = some request') (pending : request.status = .duplicatePending)
      (status : request'.status = .queued) (kind : request'.kind = request.kind)
      (action : request'.requestedAction = request.requestedAction)
      (media : request'.mediaId = request.mediaId) (forced : request'.forceSave = true)
      (unrecorded : Unrecorded (firstStage request.kind) request')
      (jobs : ∀ stage forceSave, v'.job stage forceSave =
        if stage = firstStage request.kind ∧ forceSave = true then some ((v.job stage true).getD true)
        else v.job stage forceSave)
  | relinked (request request' : Ingest) (found : v.row = some request)
      (here : v'.row = some request') (same : SameRequest request request')
      (before : request.status = .duplicatePending ∨ (request.mediaId.isSome = true ∧
        request'.mediaId = request.mediaId ∧ request'.data = request.data))
      (linked : Linked request') (jobs : Thinned v.job v'.job)

section Rules
variable {request request' : Ingest} {failed failed' : Option Stage}
  {job job' : Stage → Bool → Option Bool}

theorem drivingStage_media {stage : Stage} (h : drivingStage failed request = some stage) :
    request.mediaId = none := by
  unfold drivingStage at h
  split at h
  · cases h
  · rename_i unlinked
    simpa using unlinked

theorem linked_undriven (h : Linked request) : drivingStage failed request = none := by
  simp [drivingStage, h.media]

theorem Closed.undriven (h : Closed request) : drivingStage failed request = none := by
  simp [drivingStage, h.status]

theorem linked_not_closed (h : Linked request) : ¬ Closed request := by
  intro closed
  have media := h.media
  rw [closed.media] at media
  cases media

/-- The stage that works on an ingest is the one that drives it. -/
theorem Flow.driving (flow : Flow request failed job) {stage : Stage} {forceSave : Bool}
    (live : job stage forceSave = some true) (open_ : request.status ≠ .failedTerminal) :
    drivingStage failed request = some stage ∧ forceSave = request.forceSave := by
  rcases flow.only stage forceSave live with driving | closed
  · exact driving
  · exact absurd closed.status open_

/-- An ingest with a live stage job has no media yet. -/
theorem Flow.unlinked_of_live (flow : Flow request failed job) {stage : Stage} {forceSave : Bool}
    (live : job stage forceSave = some true) : request.mediaId = none := by
  rcases flow.only stage forceSave live with ⟨driving, -⟩ | closed
  · exact drivingStage_media driving
  · exact closed.media

/-- A begun ingest is driven as before. -/
theorem drivingStage_begun {stage : Stage} (failed' : Option Stage) (driving : drivingStage failed request = some stage)
    (clean : Unrecorded stage request) (status : request'.status = stageStatus stage)
    (same : SameRequest request request') (media : request'.mediaId = request.mediaId)
    (data : request'.data = request.data) : drivingStage failed' request' = some stage := by
  have unlinked := drivingStage_media driving
  cases stage <;> simp [drivingStage, media, unlinked, status, stageStatus, data, same.kind]
  · rw [clean.inspected rfl]
    rfl
  · exact clean.download (by decide)

theorem Unrecorded.transfer {stage : Stage} (clean : Unrecorded stage request)
    (same : SameRequest request request') (data : request'.data = request.data) :
    Unrecorded stage request' :=
  ⟨fun first => same.kind.trans (clean.inspected first), fun early => data ▸ clean.download early,
    fun early => data ▸ clean.normalization early, data ▸ clean.finalization⟩

/-- No stage job of the ingest is live. -/
def Idle (job : Stage → Bool → Option Bool) : Prop :=
  ∀ stage forceSave, job stage forceSave ≠ some true

theorem Thinned.idle (thinned : Thinned job job') (idle : Idle job) : Idle job' := by
  intro stage forceSave live
  rcases thinned stage forceSave with same | ⟨-, gone⟩
  · exact idle stage forceSave (same ▸ live)
  · rw [gone] at live
    cases live

theorem Thinned.noneAdded (thinned : Thinned job job') : NoneAdded job job' := by
  intro stage forceSave absent
  rcases thinned stage forceSave with same | ⟨-, gone⟩
  · rw [same, absent]
  · exact gone

theorem Flow.idle_of_linked (flow : Flow request failed job) (h : Linked request) : Idle job := by
  intro stage forceSave live
  rcases flow.only stage forceSave live with ⟨driving, -⟩ | closed
  · rw [linked_undriven h] at driving
    cases driving
  · exact linked_not_closed h closed

theorem drivingStage_pending (h : request.status = .duplicatePending) :
    drivingStage failed request = none := by
  unfold drivingStage
  split
  · rfl
  · rw [h]

theorem Flow.idle_of_pending (flow : Flow request failed job)
    (h : request.status = .duplicatePending) : Idle job := by
  intro stage forceSave live
  rcases flow.only stage forceSave live with ⟨driving, -⟩ | closed
  · rw [drivingStage_pending h] at driving
    cases driving
  · rw [closed.status] at h
    cases h

theorem Flow.pending_unlinked (flow : Flow request failed job)
    (h : request.status = .duplicatePending) : request.mediaId = none := by
  cases media : request.mediaId with
  | none => rfl
  | some m =>
    have linked := (flow.linked (by rw [media]; rfl)).status
    rw [h] at linked
    simp at linked

/-- An ingest that no job drives: only its media or its end has to be right. -/
theorem Flow.of_undriven (undriven : drivingStage failed request = none)
    (linked : request.mediaId.isSome = true → Linked request)
    (recorded : request.status ≠ .failedRetryable ∨ request.mediaId.isSome = true)
    (only : Idle job ∨ Closed request)
    (unforced : request.forceSave = false → ∀ stage, job stage true = none)
    (pending : request.status = .duplicatePending → request.forceSave = false) :
    Flow request failed job where
  linked := linked
  driven := fun stage driving => by simp [undriven] at driving
  only := fun stage forceSave live =>
    Or.inr (only.resolve_left (fun idle => idle stage forceSave live))
  recorded := fun retryable unlinked => by simp [retryable, unlinked] at recorded
  free := fun stage _ driving => by simp [undriven] at driving
  unforced := unforced
  unrecorded := fun stage driving => by simp [undriven] at driving
  pending := pending

end Rules

section Preservation
variable {request request' : Ingest} {failed failed' : Option Stage}
  {job job' : Stage → Bool → Option Bool}

theorem Flow.thinned (flow : Flow request failed job) (jobs : Thinned job job') :
    Flow request failed job' where
  linked := flow.linked
  driven := by
    intro stage driving
    rcases jobs stage request.forceSave with same | ⟨dead, -⟩
    · rw [same]
      exact flow.driven stage driving
    · rw [flow.driven stage driving] at dead
      cases dead
  only := by
    intro stage forceSave live
    rcases jobs stage forceSave with same | ⟨-, gone⟩
    · exact flow.only stage forceSave (same ▸ live)
    · rw [gone] at live
      cases live
  recorded := flow.recorded
  free := fun stage later driving after => jobs.noneAdded _ _ (flow.free stage later driving after)
  unforced := fun unforced stage => jobs.noneAdded _ _ (flow.unforced unforced stage)
  unrecorded := flow.unrecorded
  pending := flow.pending

/-- The first job of a generation, inserted under keys that are all free. -/
theorem Flow.of_first (status : request.status = .queued) (media : request.mediaId = none)
    (unrecorded : Unrecorded (firstStage request.kind) request)
    (jobs : ∀ stage, job stage request.forceSave =
      if stage = firstStage request.kind then some true else none)
    (others : ∀ stage, job stage (!request.forceSave) ≠ some true)
    (unforced : request.forceSave = false → ∀ stage, job stage true = none) :
    Flow request failed job := by
  have driving : drivingStage failed request = some (firstStage request.kind) := by
    simp [drivingStage, media, status]
  refine ⟨?_, ?_, ?_, ?_, ?_, unforced, ?_, ?_⟩
  · intro linked
    rw [media] at linked
    cases linked
  · intro stage drives
    rw [driving, Option.some.injEq] at drives
    rw [jobs, if_pos drives.symm]
  · intro stage forceSave live
    by_cases current : forceSave = request.forceSave
    · rw [current, jobs] at live
      split at live
      · rename_i first
        exact Or.inl ⟨first ▸ driving, current⟩
      · cases live
    · have flipped : forceSave = !request.forceSave := by
        cases forceSave <;> cases generation : request.forceSave <;> simp_all
      exact absurd (flipped ▸ live) (others stage)
  · intro retryable
    rw [status] at retryable
    cases retryable
  · intro stage later drives after
    rw [driving, Option.some.injEq] at drives
    rw [jobs, if_neg]
    rintro rfl
    rw [drives] at after
    exact Nat.lt_irrefl _ after
  · intro stage drives
    rw [driving, Option.some.injEq] at drives
    exact drives ▸ unrecorded
  · intro pending
    rw [status] at pending
    cases pending

/-- An ingest that the same stage drives as before, with its jobs untouched. -/
theorem Flow.redriven (flow : Flow request failed job) {stage : Stage}
    (before : drivingStage failed request = some stage)
    (after : drivingStage failed' request' = some stage) (same : SameRequest request request')
    (data : request'.data = request.data)
    (recorded : request'.status = .failedRetryable → failed'.isSome = true)
    (pending : request'.status ≠ .duplicatePending) : Flow request' failed' job where
  linked := by
    intro linked
    rw [drivingStage_media after] at linked
    cases linked
  driven := by
    intro other driving
    rw [after, Option.some.injEq] at driving
    rw [same.forceSave, ← driving]
    exact flow.driven stage before
  only := by
    intro other forceSave live
    rcases flow.only other forceSave live with ⟨driving, current⟩ | closed
    · rw [before, Option.some.injEq] at driving
      exact Or.inl ⟨driving ▸ after, current.trans same.forceSave.symm⟩
    · rw [closed.undriven] at before
      cases before
  recorded := fun retryable _ => recorded retryable
  free := by
    intro other later driving less
    rw [after, Option.some.injEq] at driving
    rw [same.forceSave]
    exact flow.free stage later before (driving ▸ less)
  unforced := fun unforced => flow.unforced (same.forceSave ▸ unforced)
  unrecorded := by
    intro other driving
    rw [after, Option.some.injEq] at driving
    exact driving ▸ (flow.unrecorded stage before).transfer same data
  pending := fun h => absurd h pending

/-- The successor of a completed stage: its key was free, so its job is new. -/
theorem Flow.advanced (flow : Flow request failed job) {stage successor : Stage}
    (before : drivingStage failed request = some stage)
    (later : Stage.rank stage < Stage.rank successor) (same : SameRequest request request')
    (driven : ∀ failed, drivingStage failed request' = some successor)
    (clean : Unrecorded successor request')
    (jobs : ∀ other flag, job' other flag =
      if other = stage ∧ flag = request.forceSave then some false
      else if other = successor ∧ flag = request.forceSave then some ((job other flag).getD true)
      else job other flag) : Flow request' failed' job' := by
  have ne : successor ≠ stage := by
    rintro rfl
    exact Nat.lt_irrefl _ later
  refine ⟨?_, ?_, ?_, ?_, ?_, ?_, ?_, ?_⟩
  · intro linked
    rw [drivingStage_media (driven none)] at linked
    cases linked
  · intro other driving
    rw [driven, Option.some.injEq] at driving
    rw [← driving, jobs, if_neg (fun both => ne both.1), if_pos ⟨rfl, same.forceSave⟩,
      same.forceSave, flow.free stage successor before later]
    rfl
  · intro other flag live
    rw [jobs] at live
    split at live
    · cases live
    · rename_i notStage
      split at live
      · rename_i next
        exact Or.inl ⟨next.1 ▸ driven failed', next.2.trans same.forceSave.symm⟩
      · -- Any other live job would drive the ingest beside this stage's.
        rcases flow.only other flag live with ⟨driving, current⟩ | closed
        · rw [before, Option.some.injEq] at driving
          exact absurd ⟨driving.symm, current⟩ notStage
        · rw [closed.undriven] at before
          cases before
  · intro retryable unlinked
    have contradiction := driven none
    simp [drivingStage, retryable, unlinked] at contradiction
  · intro other after driving less
    rw [driven, Option.some.injEq] at driving
    subst driving
    have afterStage : after ≠ stage := by
      rintro rfl
      exact Nat.lt_asymm later less
    have afterSuccessor : after ≠ successor := by
      rintro rfl
      exact Nat.lt_irrefl _ less
    rw [jobs, if_neg (fun both => afterStage both.1), if_neg (fun both => afterSuccessor both.1),
      same.forceSave]
    exact flow.free stage after before (Nat.lt_trans later less)
  · intro unforced other
    have old : request.forceSave = false := same.forceSave ▸ unforced
    rw [jobs, if_neg (by simp [old]), if_neg (by simp [old])]
    exact flow.unforced old other
  · intro other driving
    rw [driven, Option.some.injEq] at driving
    exact driving ▸ clean
  · intro pending
    have contradiction := driven none
    rw [drivingStage_pending pending] at contradiction
    cases contradiction

/-- After a stage that nothing follows, no stage job of the ingest is live. -/
theorem Flow.idle_after (flow : Flow request failed job) {stage : Stage}
    (before : drivingStage failed request = some stage)
    (jobs : ∀ other flag, job' other flag =
      if other = stage ∧ flag = request.forceSave then some false else job other flag) :
    Idle job' := by
  intro other flag live
  rw [jobs] at live
  split at live
  · cases live
  · rename_i notStage
    rcases flow.only other flag live with ⟨driving, current⟩ | closed
    · rw [before, Option.some.injEq] at driving
      exact notStage ⟨driving.symm, current⟩
    · rw [closed.undriven] at before
      cases before

theorem stageStatus_ne_failedTerminal (stage : Stage) : stageStatus stage ≠ .failedTerminal := by
  cases stage <;> exact nofun

theorem Admits.open {stage : Stage} (h : Admits stage request) :
    request.status ≠ .failedTerminal := by
  rcases h.status with active | retryable | ⟨-, early | early⟩
  · rw [active]
    exact stageStatus_ne_failedTerminal stage
  all_goals simp_all

/-- What every shift keeps. -/
theorem Shift.flow {records : Stage → Prop} {v v' : View} (shift : Shift records v v')
    (flow : ∀ request, v.row = some request → Flow request v.failed v.job) :
    ∀ request, v'.row = some request → Flow request v'.failed v'.job := by
  intro current row
  cases shift with
  | steady same failed jobs =>
    rw [failed]
    exact (flow current (same ▸ row)).thinned jobs
  | created request absent here status media unforced unrecorded idle jobs =>
    rw [here] at row
    cases row
    refine .of_first status media unrecorded (fun stage => ?_) (fun stage => ?_)
      (fun _ stage => ?_)
    · simp [jobs, unforced]
    · simp [jobs, unforced]
    · simp [jobs]
  | begun stage request request' found here admitted live status same media data failed jobs =>
    rw [here] at row
    cases row
    obtain ⟨forceSave, live⟩ := live
    have old := flow request found
    obtain ⟨driving, -⟩ := old.driving live admitted.open
    have again := drivingStage_begun v'.failed driving (old.unrecorded stage driving)
      status same media data
    rw [jobs]
    refine old.redriven driving again same data (fun retryable => ?_) (fun pending => ?_)
    · rw [status] at retryable
      cases stage <;> cases retryable
    · rw [status] at pending
      cases stage <;> cases pending
  | advanced stage successor recorded forceSave request request' found here active live later same
      media driven jobs =>
    rw [here] at row
    cases row
    have old := flow request found
    obtain ⟨driving, rfl⟩ :=
      old.driving live (active ▸ stageStatus_ne_failedTerminal stage)
    obtain ⟨next, clean⟩ := driven (drivingStage_media driving) (old.unrecorded stage driving)
    exact old.advanced driving (Stage.rank_lt_of_next later) same next clean jobs
  | finished stage forceSave request request' found here active live same ended jobs =>
    rw [here] at row
    cases row
    have old := flow request found
    obtain ⟨driving, rfl⟩ :=
      old.driving live (active ▸ stageStatus_ne_failedTerminal stage)
    have idle := old.idle_after driving jobs
    have unforced : current.forceSave = false → ∀ other, v'.job other true = none := by
      intro unforced other
      have before : request.forceSave = false := same.forceSave ▸ unforced
      rw [jobs, if_neg (by simp [before])]
      exact old.unforced before other
    rcases ended with ⟨terminal, media⟩ | ⟨pending, unlinked, plain⟩ | linked
    · have closed : Closed current := ⟨terminal, media.trans (drivingStage_media driving)⟩
      refine .of_undriven closed.undriven ?_ (Or.inl ?_) (Or.inl idle) unforced ?_
      · simp [closed.media]
      · simp [terminal]
      · simp [terminal]
    · refine .of_undriven (drivingStage_pending pending) ?_ (Or.inl ?_) (Or.inl idle) unforced ?_
      · simp [unlinked]
      · simp [pending]
      · exact fun _ => same.forceSave.trans plain
    · refine .of_undriven (linked_undriven linked) (fun _ => linked) (Or.inr linked.media)
        (Or.inl idle) unforced ?_
      intro pending
      have status := linked.status
      simp [pending] at status
  | retrying stage recorded request request' found here active live status same media data failed
      jobs =>
    rw [here] at row
    cases row
    obtain ⟨forceSave, live⟩ := live
    have old := flow request found
    obtain ⟨driving, -⟩ := old.driving live (active ▸ stageStatus_ne_failedTerminal stage)
    rw [jobs, failed]
    refine old.redriven driving ?_ same data (fun _ => rfl) (by simp [status])
    simp [drivingStage, media, drivingStage_media driving, status]
  | closed request request' found here same closed jobs =>
    rw [here] at row
    cases row
    have old := flow request found
    refine .of_undriven closed.undriven ?_ (Or.inl ?_) (Or.inr closed) ?_ ?_
    · simp [closed.media]
    · simp [closed.status]
    · exact fun unforced stage => jobs _ _ (old.unforced (same.forceSave ▸ unforced) stage)
    · simp [closed.status]
  | resumed request request' found here pending status kind action media forced unrecorded jobs =>
    rw [here] at row
    cases row
    have old := flow request found
    have idle := old.idle_of_pending pending
    refine .of_first status (media.trans (old.pending_unlinked pending)) (kind ▸ unrecorded)
      (fun stage => ?_) (fun stage => ?_) (by simp [forced])
    · simp [jobs, forced, kind, old.unforced (old.pending pending)]
    · simp only [jobs, forced, Bool.not_true, Bool.false_eq_true, and_false, if_false]
      exact idle stage false
  | relinked request request' found here same before linked jobs =>
    rw [here] at row
    cases row
    have old := flow request found
    have idle : Idle v.job :=
      before.elim old.idle_of_pending (fun kept => old.idle_of_linked (old.linked kept.1))
    refine .of_undriven (linked_undriven linked) (fun _ => linked) (Or.inr linked.media)
      (Or.inl (jobs.idle idle)) ?_ ?_
    · exact fun unforced stage =>
        jobs.noneAdded _ _ (old.unforced (same.forceSave ▸ unforced) stage)
    · intro pending
      have status := linked.status
      simp [pending] at status

/-- An ingest that does not exist has no stage jobs. -/
theorem Shift.idle {records : Stage → Prop} {v v' : View} (shift : Shift records v v')
    (idle : v.row = none → ∀ stage forceSave, v.job stage forceSave = none) :
    v'.row = none → ∀ stage forceSave, v'.job stage forceSave = none := by
  intro absent
  cases shift with
  | steady row failed jobs =>
    intro stage forceSave
    exact jobs.noneAdded stage forceSave (idle (row ▸ absent) stage forceSave)
  | _ => simp_all

/-- A closed ingest stays closed. -/
theorem Shift.stays_closed {records : Stage → Prop} {v v' : View} (shift : Shift records v v')
    (row : v.row = some request) (closed : Closed request) :
    ∃ request', v'.row = some request' ∧ Closed request' := by
  have ended : ∀ {other}, v.row = some other → other.status = .failedTerminal := by
    intro other found
    rw [row] at found
    cases found
    exact closed.status
  cases shift with
  | steady same failed jobs => exact ⟨request, same.trans row, closed⟩
  | created other absent =>
    rw [row] at absent
    cases absent
  | begun stage other request' found here admitted => exact absurd (ended found) admitted.open
  | advanced stage successor recorded forceSave other request' found here active =>
    exact absurd (active.symm.trans (ended found)) (stageStatus_ne_failedTerminal stage)
  | finished stage forceSave other request' found here active =>
    exact absurd (active.symm.trans (ended found)) (stageStatus_ne_failedTerminal stage)
  | retrying stage recorded other request' found here active =>
    exact absurd (active.symm.trans (ended found)) (stageStatus_ne_failedTerminal stage)
  | closed other request' found here same closed jobs => exact ⟨request', here, closed⟩
  | resumed other request' found here pending =>
    rw [ended found] at pending
    cases pending
  | relinked other request' found here same before =>
    rw [row] at found
    cases found
    rcases before with pending | ⟨media, -⟩
    · rw [closed.status] at pending
      cases pending
    · rw [closed.media] at media
      cases media

/-- While its own job lives on, an ingest that a stage works on stays with the
    stage, unless the stage recorded its failure or the ingest closed. -/
theorem Shift.stays_active {records : Stage → Prop} {v v' : View} (shift : Shift records v v')
    (row : v.row = some request) (flow : Flow request v.failed v.job) {stage : Stage}
    {forceSave : Bool} (active : request.status = stageStatus stage)
    (live : v.job stage forceSave = some true) (lives : v'.job stage forceSave = some true) :
    records stage ∨
      ∃ request', v'.row = some request' ∧
        (request'.status = stageStatus stage ∨ Closed request') := by
  obtain ⟨driving, current⟩ :=
    flow.driving live (active ▸ stageStatus_ne_failedTerminal stage)
  -- Another live stage job would be the same one.
  have same_stage : ∀ {other request' flag}, v.row = some request' →
      v.job other flag = some true → other = stage ∧ flag = forceSave := by
    intro other request' flag found running
    rw [row] at found
    cases found
    obtain ⟨drives, flagged⟩ :=
      flow.driving running (active ▸ stageStatus_ne_failedTerminal stage)
    rw [driving, Option.some.injEq] at drives
    exact ⟨drives.symm, flagged.trans current.symm⟩
  cases shift with
  | steady same failed jobs => exact Or.inr ⟨request, same.trans row, Or.inl active⟩
  | created other absent =>
    rw [row] at absent
    cases absent
  | begun other old request' found here admitted running status =>
    obtain ⟨flag, running⟩ := running
    obtain ⟨rfl, -⟩ := same_stage found running
    exact Or.inr ⟨request', here, Or.inl status⟩
  | advanced other successor recorded flag old request' found here was running later same media
      driven jobs =>
    obtain ⟨rfl, rfl⟩ := same_stage found running
    rw [jobs, if_pos ⟨rfl, rfl⟩] at lives
    cases lives
  | finished other flag old request' found here was running same ended jobs =>
    obtain ⟨rfl, rfl⟩ := same_stage found running
    rw [jobs, if_pos ⟨rfl, rfl⟩] at lives
    cases lives
  | retrying other recorded old request' found here was running =>
    obtain ⟨flag, running⟩ := running
    obtain ⟨rfl, -⟩ := same_stage found running
    exact Or.inl recorded
  | closed old request' found here same closed jobs =>
    exact Or.inr ⟨request', here, Or.inr closed⟩
  | resumed old request' found here pending =>
    rw [row] at found
    cases found
    rw [active] at pending
    cases stage <;> cases pending
  | relinked old request' found here same before =>
    rw [row] at found
    cases found
    rcases before with pending | ⟨media, -⟩
    · rw [active] at pending
      cases stage <;> cases pending
    · rw [drivingStage_media driving] at media
      cases media

/-- An ingest whose stages are over for good. -/
def Retired (v : View) : Prop :=
  ∃ request, v.row = some request ∧ request.status ≠ .duplicatePending ∧ Idle v.job

/-- Without a live stage job nothing moves an ingest but a decision or the
    storage of its media, and neither makes a stage job. -/
theorem Shift.stays_retired {records : Stage → Prop} {v v' : View} (shift : Shift records v v')
    (retired : Retired v) : Retired v' := by
  obtain ⟨request, row, decided, idle⟩ := retired
  cases shift with
  | steady same failed jobs => exact ⟨request, same.trans row, decided, jobs.idle idle⟩
  | created other absent =>
    rw [row] at absent
    cases absent
  | begun stage other request' found here admitted live =>
    obtain ⟨flag, live⟩ := live
    exact absurd live (idle stage flag)
  | advanced stage successor recorded flag other request' found here active live =>
    exact absurd live (idle stage flag)
  | finished stage flag other request' found here active live =>
    exact absurd live (idle stage flag)
  | retrying stage recorded other request' found here active live =>
    obtain ⟨flag, live⟩ := live
    exact absurd live (idle stage flag)
  | closed other request' found here same closed jobs unlinked live =>
    obtain ⟨stage, flag, live⟩ := live
    exact absurd live (idle stage flag)
  | resumed other request' found here pending =>
    rw [row] at found
    cases found
    exact absurd pending decided
  | relinked other request' found here same before linked jobs =>
    refine ⟨request', here, ?_, jobs.idle idle⟩
    intro pending
    have status := linked.status
    simp [pending] at status

/-- Once an ingest has a media, nothing moves it but the storage of the media:
    its request, its media and its stage results stay. -/
theorem Shift.keeps_linked {records : Stage → Prop} {v v' : View} (shift : Shift records v v')
    (flow : Flow request v.failed v.job) (row : v.row = some request)
    (linked : request.mediaId.isSome = true) :
    ∃ request', v'.row = some request' ∧ SameRequest request request' ∧
      request'.mediaId = request.mediaId ∧ request'.data = request.data := by
  have idle := flow.idle_of_linked (flow.linked linked)
  cases shift with
  | steady same failed jobs => exact ⟨request, same.trans row, .refl request, rfl, rfl⟩
  | created other absent =>
    rw [row] at absent
    cases absent
  | begun stage other request' found here admitted live =>
    obtain ⟨flag, live⟩ := live
    exact absurd live (idle stage flag)
  | advanced stage successor recorded flag other request' found here active live =>
    exact absurd live (idle stage flag)
  | finished stage flag other request' found here active live =>
    exact absurd live (idle stage flag)
  | retrying stage recorded other request' found here active live =>
    obtain ⟨flag, live⟩ := live
    exact absurd live (idle stage flag)
  | closed other request' found here same closed jobs unlinked =>
    rw [row] at found
    cases found
    rw [unlinked] at linked
    cases linked
  | resumed other request' found here pending =>
    rw [row] at found
    cases found
    rw [flow.pending_unlinked pending] at linked
    cases linked
  | relinked other request' found here same before =>
    rw [row] at found
    cases found
    rcases before with pending | ⟨-, media, data⟩
    · rw [flow.pending_unlinked pending] at linked
      cases linked
    · exact ⟨request', here, same, media, data⟩

/-- A stage that comes to drive an ingest finds its key free. -/
theorem Shift.key_free {records : Stage → Prop} {v v' : View} (shift : Shift records v v')
    (flow : ∀ request, v.row = some request → Flow request v.failed v.job) {stage : Stage}
    (here : v'.row = some request') (driving : drivingStage v'.failed request' = some stage)
    (new : ∀ request, v.row = some request → request.forceSave = request'.forceSave →
      drivingStage v.failed request ≠ some stage) : v.job stage request'.forceSave = none := by
  cases shift with
  | steady same failed jobs =>
    exact absurd (failed ▸ driving) (new request' (same ▸ here) rfl)
  | created request absent there status media unforced unrecorded idle => exact idle _ _
  | begun other request after found there admitted live status same media data =>
    rw [there] at here
    cases here
    obtain ⟨flag, live⟩ := live
    have drives := ((flow request found).driving live admitted.open).1
    have again := drivingStage_begun v'.failed drives
      ((flow request found).unrecorded other drives) status same media data
    rw [driving, Option.some.injEq] at again
    exact absurd (again ▸ drives) (new request found same.forceSave.symm)
  | advanced other successor recorded flag request after found there active live later same media
      driven =>
    rw [there] at here
    cases here
    obtain ⟨drives, -⟩ :=
      (flow request found).driving live (active ▸ stageStatus_ne_failedTerminal other)
    have next := (driven (drivingStage_media drives)
      ((flow request found).unrecorded other drives)).1 v'.failed
    rw [driving, Option.some.injEq] at next
    rw [same.forceSave, next]
    exact (flow request found).free other successor drives (Stage.rank_lt_of_next later)
  | finished other flag request after found there active live same ended =>
    rw [there] at here
    cases here
    rcases ended with ⟨terminal, media⟩ | ⟨pending, -⟩ | linked
    · simp [drivingStage, terminal] at driving
    · simp [drivingStage_pending pending] at driving
    · simp [linked_undriven linked] at driving
  | retrying other recorded request after found there active live status same media data failed =>
    rw [there] at here
    cases here
    obtain ⟨flag, live⟩ := live
    have drives := ((flow request found).driving live
      (active ▸ stageStatus_ne_failedTerminal other)).1
    simp only [drivingStage, drivingStage_media driving, status, failed, Option.isSome_none,
      Bool.false_eq_true, if_false, Option.some.injEq] at driving
    exact absurd (driving ▸ drives) (new request found same.forceSave.symm)
  | closed request after found there same closed =>
    rw [there] at here
    cases here
    simp [closed.undriven] at driving
  | resumed request after found there pending status kind action media forced =>
    rw [there] at here
    cases here
    rw [forced]
    exact (flow request found).unforced ((flow request found).pending pending) stage
  | relinked request after found there same before linked =>
    rw [there] at here
    cases here
    simp [linked_undriven linked] at driving

end Preservation

end Sooqa.Inbox
