import Sooqa.Inbox.Origins
import Sooqa.Inbox.Workspaces
import Sooqa.Retention.Prune

/-!
Pruned stage jobs. A stage job is pruned once its ingest is over and no other
job of it waits or runs; from then on no stage of the ingest is begun again.
-/
namespace Sooqa.Retention
open Foundation Queue Worker Inbox

section Stages
variable {calendar : Publisher.Calendar} {w w' v : Inbox.World} {act : Inbox.Action}
  {stage : Stage} {id : Uuid} {forceSave : Bool} {cutoff : Time} {db : Db}

/-- In this step an attempt starts to work at a stage of the ingest. -/
def Executes (w w' : Inbox.World) (id : Uuid) : Prop :=
  ∃ token attempt, w'.attempts.get token = some attempt ∧
    attempt.command.stageIngest = some id ∧ attempt.phase.underWay = true ∧
    ∀ before, w.attempts.get token = some before → before.phase.underWay = false

theorem stageKey_ingest {key : JobKey} {command : JobCommand} (owned : key.owns command = true)
    (same : key = .stage stage id forceSave) : command.payloadIngest = some id := by
  rw [same] at owned
  cases command <;> simp_all [JobKey.owns, JobCommand.payloadIngest, JobCommand.stageIngest,
    JobCommand.jobType]

theorem stageKey_not_cleanup {key : JobKey} {command : JobCommand} (owned : key.owns command = true)
    (same : key = .stage stage id forceSave) : command.jobType ≠ .cleanupWorkspace := by
  rw [same] at owned
  cases command <;> simp_all [JobKey.owns, JobCommand.stageIngest, JobCommand.jobType]

/-- A stage job that waits or runs is an active job of its ingest. -/
theorem hasActiveJob_stage {self : JobId} {job : Job}
    (found : db.jobs.get (.stage stage id forceSave) = some job) (live : job.state.live = true)
    (other : job.id ≠ self) : hasActiveJob db self id none = true := by
  have key := db.jobs.get_key found
  have ingest := stageKey_ingest job.owned key
  have type := stageKey_not_cleanup job.owned key
  rw [hasActiveJob, Jobs.any_eq_true]
  exact ⟨_, job, found, by simp [live, other, ingest, type]⟩

/-- Where a stage job is pruned, no stage job of its ingest waits or runs. -/
theorem eligible_idle (h : Inbox.prune w.db (.stage stage id forceSave) cutoff = some db) :
    Inbox.Retired (World.view { w with db := db } id) := by
  have pruned : Pruned w.db db (.stage stage id forceSave) := prune_pruned h
  simp only [Inbox.prune, Option.bind_eq_bind, Option.bind_eq_some_iff,
    Option.ite_none_right_eq_some, Bool.and_eq_true, Bool.not_eq_true'] at h
  obtain ⟨job, found, -, -, ⟨⟨dead, -⟩, eligible⟩, -⟩ := h
  unfold stageJobRetentionEligible at eligible
  split at eligible
  · cases eligible
  · rename_i request here
    simp only [Bool.and_eq_true, Bool.not_eq_true'] at eligible
    obtain ⟨ended, unshared⟩ := eligible
    refine ⟨request, by rw [pruned.written]; exact here, ?_, ?_⟩
    · intro pending
      rw [pending] at ended
      cases ended
    · intro other flag live
      simp only [World.view, pruned.written, Jobs.get_delete, Option.map_eq_some_iff] at live
      obtain ⟨row, there, live⟩ := live
      split at there
      · cases there
      · have apart : row.id ≠ job.id := by
          rename_i ne
          intro same
          refine ne ?_
          rw [← w.db.jobs.get_key there, ← w.db.jobs.get_key found, same]
        rw [hasActiveJob_stage there live apart] at unshared
        cases unshared

/-- An ingest without a live stage job keeps none. -/
theorem retired_run (inv : Pipeline w) (retired : Inbox.Retired (w.view id)) {acts : List Inbox.Action}
    (run : Run (Inbox.step calendar) Unrestricted w acts v) :
    Pipeline v ∧ Inbox.Retired (v.view id) :=
  run_invariant (fun s => Pipeline s ∧ Inbox.Retired (s.view id))
    (fun both _ taken => ⟨both.1.step taken,
      ((step_moves both.1 taken).1.views id).stays_retired both.2⟩) ⟨inv, retired⟩ run

/-- A stage is begun only under a job that runs. -/
theorem Executes.live (inv : Pipeline w) (h : Inbox.step calendar w act = some w')
    (executes : Executes w w' id) : ∃ stage forceSave, (w.view id).job stage forceSave = some true := by
  obtain ⟨token, attempt', after, ofIngest, works, idle⟩ := executes
  cases step_came h after with
  | kept before =>
    rw [idle attempt' before] at works
    cases works
  | started phase =>
    rw [phase] at works
    cases works
  | moved attempt before same unread notWorking underWay =>
    have was := underWay works
    rw [idle attempt before] at was
    cases was
  | called attempt before outcome acts call same =>
    have was := idle attempt before
    have command : attempt'.command = attempt.command := by rw [same]
    cases attempt.call_effect call with
    | begun stage j of _ request begun effect phase =>
      obtain ⟨flag, key⟩ := stageKey_of_command (inv.attempts token attempt before).owned of
      have home : j = id := by
        have named := of.ingest
        rw [← command, ofIngest] at named
        exact (Option.some.inj named).symm
      subst home
      exact ⟨stage, flag, live_of_current effect.current key⟩
    | refused unchanged phase =>
      obtain ⟨failure, phase⟩ := phase
      rw [phase] at works
      cases works
    | loaded unchanged snapshot phase =>
      rw [phase] at works
      cases works
    | materialized ingestId ofCommand result ok phase =>
      obtain ⟨answer, phase⟩ := phase
      rw [phase] at works
      cases works
    | cleanup ingestId workspaceId ofCommand start ok phase =>
      rcases phase with ⟨phase, -⟩ | ⟨answer, phase⟩ <;> rw [phase] at works <;> cases works
    | passed stage j of passed phase =>
      rcases phase with phase | ⟨failure, phase⟩ <;> rw [phase] at works <;> cases works
    | resolved ingest phase =>
      rw [phase] at was
      cases was
    | identified ingest fingerprint phase =>
      rw [phase] at was
      cases was
    | stopped stage j of underWay =>
      rw [was] at underWay
      cases underWay
    | handedOver stage j of phase =>
      obtain ⟨result, phase⟩ := phase
      rw [phase] at was
      cases was
    | failed stage j of phase =>
      obtain ⟨failure, phase⟩ := phase
      rw [phase] at was
      cases was

/-- After a stage job was pruned no stage of its ingest is begun. -/
theorem pruned_stage_never_executes (inv : Pipeline w)
    (pruned : Inbox.step calendar w (.prune (.stage stage id forceSave) cutoff) = some w')
    {acts : List Inbox.Action} (run : Run (Inbox.step calendar) Unrestricted w' acts v)
    {v' : Inbox.World} (next : Inbox.step calendar v act = some v') : ¬ Executes v v' id := by
  have after := inv.step pruned
  simp only [Inbox.step, Option.bind_eq_bind, Option.bind_eq_some_iff, Option.some.injEq] at pruned
  obtain ⟨db, gone, rfl⟩ := pruned
  obtain ⟨pipeline, request, -, -, none⟩ := retired_run after (eligible_idle gone) run
  intro executes
  obtain ⟨other, flag, live⟩ := executes.live pipeline next
  exact none other flag live

end Stages

end Sooqa.Retention
