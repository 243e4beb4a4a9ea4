import Sooqa.Inbox.LifecycleEffects

/-!
What one database call of an attempt does to the store and to the attempt. A
call whose answer is lost may have been applied, so the two are tied only
where the handler saw the answer.
-/
namespace Sooqa.Inbox
open Foundation Queue Worker

/-- The phases in which a begun stage is under way. -/
def Phase.underWay : Phase → Bool
  | .working _ _ | .resolving _ | .identifying _ _ | .deciding _ _ _ _ | .completing _
  | .failing _ => true
  | .started | .admitted _ | .cleaning | .returned _ => false

/-- The second gate of the fingerprint stage. -/
def Phase.isIdentifying : Phase → Bool
  | .identifying _ _ => true
  | _ => false

/-- The ingest a stage read for admission, if it has read one. -/
def Phase.snapshot : Phase → Option Ingest
  | .admitted snapshot => some snapshot
  | _ => none

def Phase.refused (phase : Phase) : Prop := ∃ failure, phase = .returned (.error failure)

/-- The calls of an attempt, by what they do. -/
inductive CallEffect (calendar : Publisher.Calendar) (attempt : Attempt) (db db' : Db)
    (phase : Phase) : Prop where
  | refused (unchanged : db' = db) (phase : phase.refused)
  | loaded (unchanged : db' = db) (snapshot : Ingest) (here : phase = .admitted snapshot)
      (found : attempt.command.stageIngest.bind db.ingests.get = some snapshot)
  | materialized (ingestId : Uuid) (command : attempt.command = .materializePublication ingestId)
      (result : Option Publisher.CreatePostResult)
      (ok : Publisher.materializeIngest calendar db ingestId = .ok (db', result))
      (phase : ∃ answer, phase = .returned answer)
  | cleanup (ingestId workspaceId : Uuid)
      (command : attempt.command = .cleanupWorkspace ingestId workspaceId)
      (start : WorkspaceCleanupStart)
      (ok : beginWorkspaceCleanup db attempt.lease ingestId workspaceId = .ok (db', start))
      (phase : phase = .cleaning ∧ start = .ready ∨ ∃ answer, phase = .returned answer)
  | passed (stage : Stage) (id : Uuid) (of : StageCommand attempt.command stage id)
      (passed : Passed db db' id stage attempt.lease)
      (phase : phase = .returned (.ok ()) ∨ phase.refused)
  | begun (stage : Stage) (id : Uuid) (of : StageCommand attempt.command stage id)
      (was : ∀ failure, attempt.phase ≠ .failing failure) (request begun : Ingest)
      (effect : Begun db db' id stage attempt.lease request begun)
      (phase : phase = .working attempt.phase.snapshot begun ∨ phase.refused)
  | resolved (ingest : Library.MediaIngest) (was : attempt.phase = .resolving ingest)
      (write : db' = db ∨ Library.MediaWrite db db')
      (phase : (∃ result, phase = .completing result) ∨ ∃ failure, phase = .failing failure)
  | identified (ingest : Library.MediaIngest)
      (fingerprint : Option Library.VideoFingerprintInput)
      (was : attempt.phase = .identifying ingest fingerprint) (unchanged : db' = db)
      (phase : (∃ request exactMediaId, phase = .deciding request exactMediaId ingest fingerprint) ∨
        phase.refused ∨ (phase = .returned (.ok ()) ∧
        (isCurrent db attempt.lease = false ∨ ∀ id request,
          attempt.command.stageIngest = some id → db.ingests.get id = some request →
          request.status ≠ .fingerprinting)))
  | stopped (stage : Stage) (id : Uuid) (of : StageCommand attempt.command stage id)
      (was : attempt.phase.underWay = true) (stopped : Stopped db db' id stage attempt.lease)
      (phase : phase = .returned (.ok ()) ∨ phase.refused)
  | handedOver (stage : Stage) (id : Uuid) (of : StageCommand attempt.command stage id)
      (was : ∃ result, attempt.phase = .completing result) (request request' : Ingest) (job : Job)
      (jobs : Jobs)
      (effect : HandedOver db db' id stage attempt.lease request request' job jobs)
      (phase : phase = .returned (.ok ()) ∨ phase.refused)
  | failed (stage : Stage) (id : Uuid) (of : StageCommand attempt.command stage id)
      (was : ∃ failure, attempt.phase = .failing failure) (request request' : Ingest)
      (effect : Failed db db' id stage attempt.lease request request') (phase : phase.refused)

section Cases
variable {calendar : Publisher.Calendar} {attempt : Attempt} {db db' : Db} {phase : Phase}
  {outcome : CallOutcome}

/-- The two ends of a call: nothing happened and the handler got an error, or
    the transaction committed and the handler got its answer or an error. -/
theorem conclude_eq {α ε : Type} {lost : ε} {result : Except ε (Db × α)}
    {next : Except ε α → Phase} (h : outcome.conclude db lost result next = (db', phase)) :
    (db' = db ∧ ∃ error, phase = next (.error error)) ∨
      ∃ answer, result = .ok (db', answer) ∧
        (phase = next (.ok answer) ∨ phase = next (.error lost)) := by
  rcases outcome.conclude_cases db lost result next with ⟨error, ended⟩ | ⟨t, answer, ok, ended⟩
  · rw [h] at ended
    exact Or.inl ⟨congrArg Prod.fst ended, error, congrArg Prod.snd ended⟩
  · refine Or.inr ⟨answer, ?_⟩
    rcases ended with ended | ended
    · rw [h] at ended
      obtain ⟨rfl, rfl⟩ := Prod.mk.inj ended
      exact ⟨ok, Or.inl rfl⟩
    · rw [h] at ended
      obtain ⟨rfl, rfl⟩ := Prod.mk.inj ended
      exact ⟨ok, Or.inr rfl⟩

theorem begin_effect {stage : Stage} {id : Uuid} {result : Except Error (Db × StageStart)}
    (of : StageCommand attempt.command stage id)
    (was : ∀ failure, attempt.phase ≠ .failing failure)
    (begins : beginOf db attempt.lease attempt.command = some result)
    (h : outcome.conclude db .database result (afterBegin attempt.phase.snapshot) =
      (db', phase)) : CallEffect calendar attempt db db' phase := by
  rcases conclude_eq h with ⟨unchanged, error, refused⟩ | ⟨start, ok, answered⟩
  · exact .refused unchanged ⟨_, refused⟩
  · rw [ok] at begins
    rcases beginOf_ok of begins with ⟨passed, request, rfl⟩ | ⟨request, begun, rfl, effect⟩
    · exact .passed stage id of passed (answered.imp_right (fun lost => ⟨_, lost⟩))
    · exact .begun stage id of was request begun effect (answered.imp_right (fun lost => ⟨_, lost⟩))

theorem stageCommand_of_stageIngest {command : JobCommand} {id : Uuid}
    (h : command.stageIngest = some id) : ∃ stage, StageCommand command stage id := by
  cases command <;> first | exact ⟨_, rfl, h⟩ | cases h

theorem beginOf_stage {command : JobCommand} {lease : JobLease}
    {result : Except Error (Db × StageStart)} (h : beginOf db lease command = some result) :
    ∃ stage id, StageCommand command stage id := by
  cases command <;> first | exact ⟨_, _, rfl, rfl⟩ | cases h

theorem failOf_stage {command : JobCommand} {lease : JobLease} {failure : HandlerFailure}
    {result : Except Error (Db × Ingest)} (h : failOf db lease failure command = some result) :
    ∃ stage id, StageCommand command stage id := by
  cases command <;> first | exact ⟨_, _, rfl, rfl⟩ | cases h

theorem completeOf_stage {command : JobCommand} {lease : JobLease} {work : StageResult}
    {result : Except Error (Db × Ingest)} (h : completeOf db lease command work = some result) :
    ∃ stage id, StageCommand command stage id := by
  cases command <;> first | exact ⟨_, _, rfl, rfl⟩ | cases h

theorem begins_effect (was : ∀ failure, attempt.phase ≠ .failing failure)
    (h : (beginOf db attempt.lease attempt.command).map (fun result =>
      outcome.conclude db .database result (afterBegin attempt.phase.snapshot)) =
      some (db', phase)) : CallEffect calendar attempt db db' phase := by
  simp only [Option.map_eq_some_iff] at h
  obtain ⟨result, begins, h⟩ := h
  obtain ⟨stage, id, of⟩ := beginOf_stage begins
  exact begin_effect of was begins h

theorem load_effect
    (h : (match outcome with
      | .answered => some (db, afterLoad (attempt.command.stageIngest.bind db.ingests.get))
      | _ => some (db, .returned (.error (mapInboxError .database)))) = some (db', phase)) :
    CallEffect calendar attempt db db' phase := by
  split at h
  · simp only [Option.some.injEq, Prod.mk.injEq] at h
    obtain ⟨rfl, rfl⟩ := h
    cases found : attempt.command.stageIngest.bind db.ingests.get with
    | none => exact .refused rfl ⟨_, rfl⟩
    | some snapshot => exact .loaded rfl snapshot rfl found
  · simp only [Option.some.injEq, Prod.mk.injEq] at h
    obtain ⟨rfl, rfl⟩ := h
    exact .refused rfl ⟨_, rfl⟩

theorem started_effect (was : attempt.phase = .started)
    (h : attempt.call calendar db outcome = some (db', phase)) :
    CallEffect calendar attempt db db' phase := by
  simp only [Attempt.call, was] at h
  split at h
  · rename_i ingestId command
    simp only [Option.some.injEq] at h
    rcases conclude_eq h with ⟨unchanged, error, refused⟩ | ⟨result, ok, answered⟩
    · exact .refused unchanged ⟨_, refused⟩
    · refine .materialized ingestId command result ok ?_
      rcases answered with answer | lost
      · exact ⟨_, answer⟩
      · exact ⟨_, lost⟩
  · rename_i ingestId workspaceId command
    simp only [Option.some.injEq] at h
    rcases conclude_eq h with ⟨unchanged, error, refused⟩ | ⟨start, ok, answered⟩
    · exact .refused unchanged ⟨_, refused⟩
    · refine .cleanup ingestId workspaceId command start ok ?_
      rcases answered with answer | lost
      · cases start with
        | ready => exact Or.inl ⟨answer, rfl⟩
        | deferred => exact Or.inr ⟨_, answer⟩
        | alreadyAdvanced => exact Or.inr ⟨_, answer⟩
      · exact Or.inr ⟨_, lost⟩
  · split at h
    · exact load_effect h
    · have snapshot : attempt.phase.snapshot = none := by rw [was]; rfl
      exact begins_effect (by simp [was]) (snapshot ▸ h)

/-- What a call does, by the phase that makes it. -/
theorem Attempt.call_effect (h : attempt.call calendar db outcome = some (db', phase)) :
    CallEffect calendar attempt db db' phase := by
  cases was : attempt.phase with
  | started => exact started_effect was h
  | admitted snapshot =>
    simp only [Attempt.call, was] at h
    have read : attempt.phase.snapshot = some snapshot := by rw [was]; rfl
    exact begins_effect (by simp [was]) (read ▸ h)
  | resolving ingest =>
    simp only [Attempt.call, was, Option.some.injEq] at h
    rcases conclude_eq h with ⟨unchanged, error, rfl⟩ | ⟨mediaId, ok, answered⟩
    · exact .resolved ingest was (Or.inl unchanged) (Or.inr ⟨_, rfl⟩)
    · refine .resolved ingest was (Or.inr (Library.resolveMedia_write ok)) ?_
      rcases answered with rfl | rfl
      · exact Or.inl ⟨_, rfl⟩
      · exact Or.inr ⟨_, rfl⟩
  | identifying ingest fingerprint =>
    simp only [Attempt.call, was, Option.map_eq_some_iff] at h
    obtain ⟨id, ofIngest, h⟩ := h
    rcases conclude_eq h with ⟨unchanged, error, refused⟩ | ⟨⟨start, exactMediaId⟩, ok, answered⟩
    · exact .refused unchanged ⟨_, refused⟩
    · obtain ⟨unchanged, reason⟩ := beginVideoIdentity_ok ok
      refine .identified ingest fingerprint was unchanged ?_
      rcases answered with answer | lost
      · cases start with
        | ready request => exact Or.inl ⟨request, exactMediaId, answer⟩
        | alreadyAdvanced request =>
          refine Or.inr (Or.inr ⟨answer, ?_⟩)
          rcases reason with ⟨other, ready⟩ | lost | passed
          · cases ready
          · exact Or.inl lost
          · refine Or.inr (fun other row same found => ?_)
            rw [ofIngest, Option.some.injEq] at same
            exact passed row (same ▸ found)
      · exact Or.inr (Or.inl ⟨_, lost⟩)
  | completing work =>
    simp only [Attempt.call, was, Option.map_eq_some_iff] at h
    obtain ⟨result, completes, h⟩ := h
    obtain ⟨stage, id, of⟩ := completeOf_stage completes
    rcases conclude_eq h with ⟨unchanged, error, refused⟩ | ⟨answer, ok, answered⟩
    · exact .refused unchanged ⟨_, refused⟩
    · rw [ok] at completes
      rcases completeOf_ok of completes with stopped | ⟨request, request', job, jobs, effect⟩
      · exact .stopped stage id of (by rw [was]; rfl) stopped
          (answered.imp_right (fun lost => ⟨_, lost⟩))
      · exact .handedOver stage id of ⟨work, was⟩ request request' job jobs effect
          (answered.imp_right (fun lost => ⟨_, lost⟩))
  | failing failure =>
    simp only [Attempt.call, was, Option.map_eq_some_iff] at h
    obtain ⟨result, fails, h⟩ := h
    obtain ⟨stage, id, of⟩ := failOf_stage fails
    rcases conclude_eq h with ⟨unchanged, error, refused⟩ | ⟨answer, ok, answered⟩
    · exact .refused unchanged ⟨_, refused⟩
    · rw [ok] at fails
      have refused : phase.refused := answered.elim (fun answer => ⟨_, answer⟩)
        (fun lost => ⟨_, lost⟩)
      rcases failOf_ok of fails with unchanged | ⟨request, request', effect⟩
      · exact .refused unchanged refused
      · exact .failed stage id of ⟨failure, was⟩ request request' effect refused
  | working => simp [Attempt.call, was] at h
  | deciding => simp [Attempt.call, was] at h
  | cleaning => simp [Attempt.call, was] at h
  | returned => simp [Attempt.call, was] at h

/-- A report moves a begun stage on, or ends the attempt with a failure. -/
theorem Attempt.report_ok {report : Report} (h : attempt.report report = some phase) :
    phase.refused ∨ (attempt.phase.underWay = true ∧ phase.underWay = true ∧
      (∀ snapshot request, phase ≠ .working snapshot request) ∧
      (phase.isIdentifying = true → attempt.command.jobType = .stage .computeFingerprint)) := by
  unfold Attempt.report at h
  split at h
  · cases h
  · cases h
    exact Or.inl ⟨_, rfl⟩
  all_goals
    simp only [Option.some.injEq, reduceCtorEq] at h
    try
      subst h
      right
      simp_all [Phase.underWay, Phase.isIdentifying, JobCommand.jobType]

end Cases
end Sooqa.Inbox
