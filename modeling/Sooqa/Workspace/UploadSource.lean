import Sooqa.Workspace.Cleanup

/-!
Whether an upload still finds its file. The permission to delete a workspace is
decided from the media its ingest is linked to, but the path of a media is the
one of the ingest that made the row, and that ingest may never be linked to it.
In runs in which no cleanup goes ahead over the path of another media, and no
media is made from a workspace that is already gone, every media keeps its file.
-/
namespace Sooqa.Workspace
open Foundation Queue Worker
open Inbox (Attempt isCurrent)

section Handing
variable {w w' : World}

/-- A cleanup of the workspace was told to go ahead. -/
def handedOver (w : World) (workspaceId : Uuid) : Bool :=
  (Table.rows w.handed).any (fun row => row.2.2 == workspaceId)

/-- A media that waits for its upload, with a live job for it, and whose file
    was handed to deletion. -/
def Bereft (w : World) (m : Uuid) : Prop :=
  ∃ row path job, w.inbox.db.media.get m = some row ∧ row.storageState = .pending ∧
    row.localWorkPath = some path ∧
    w.inbox.db.jobs.get (.uploadStorage m row.storageGeneration) = some job ∧
    job.state.live = true ∧ handedOver w path.1 = true

/-- `begin_workspace_cleanup` answers with `Ready`. -/
def goesAhead (db : Db) (lease : JobLease) (ingestId workspaceId : Uuid) : Bool :=
  isCurrent db lease && (db.ingests.get ingestId).any (fun request =>
    request.workspaceId != workspaceId ||
      (!Inbox.hasActiveJob db lease.jobId ingestId request.mediaId &&
        Inbox.cleanupAllowed request.status && Inbox.storageReleased db request.mediaId))

/-- The media whose path it clears before it answers so. -/
def clears (db : Db) (ingestId workspaceId m : Uuid) : Bool :=
  (db.ingests.get ingestId).any (fun request =>
    request.workspaceId == workspaceId && request.mediaId == some m)

/-- A cleanup that goes ahead clears every path into the workspace. -/
def sparesOthers (db : Db) (attempt : Attempt) : Bool :=
  match attempt.phase, attempt.command with
  | .started, .cleanupWorkspace ingestId workspaceId =>
    !goesAhead db attempt.lease ingestId workspaceId ||
      (Table.rows db.media).all (fun row => row.2.localWorkPath.all (fun path =>
        path.1 != workspaceId || clears db ingestId workspaceId row.1))
  | _, _ => true

/-- The path of the media that a call makes. -/
def madePath (db : Db) (attempt : Attempt) : Option (Uuid × String) :=
  match attempt.phase, attempt.command with
  | .resolving ingest, _ =>
    if (Library.findMediaBySha db ingest.sha256).isNone then ingest.localWorkPath else none
  | .completing (.identified ingest fingerprint decision), .computeFingerprint id =>
    if makesVideo db id attempt.lease ingest fingerprint decision then ingest.localWorkPath
    else none
  | _, _ => none

/-- No step deletes the file of another media, or makes a media of a deleted one. -/
def sparesSources (w : World) : Action → Bool
  | .inbox (.call token outcome) =>
    (w.inbox.attempts.get token).all (fun attempt =>
      (!outcome.applied || (madePath w.inbox.db attempt).all (fun path => !handedOver w path.1)) &&
        (outcome != .answered || sparesOthers w.inbox.db attempt))
  | _ => true

theorem handedOver_iff {workspaceId : Uuid} : handedOver w workspaceId = true ↔
    ∃ token id, w.handed.get token = some (id, workspaceId) := by
  unfold handedOver
  rw [List.any_eq_true]
  constructor
  · rintro ⟨⟨token, id, place⟩, member, same⟩
    rw [beq_iff_eq] at same
    subst same
    exact ⟨token, id, (Table.mem_rows_iff _ _ _).mp member⟩
  · rintro ⟨token, id, found⟩
    exact ⟨(token, id, workspaceId), (Table.mem_rows_iff _ _ _).mpr found, beq_self_eq_true _⟩

theorem handedOver_set {token id workspaceId place : Uuid}
    (handed : w'.handed = w.handed.set token (id, workspaceId))
    (h : handedOver w' place = true) : place = workspaceId ∨ handedOver w place = true := by
  obtain ⟨other, ingestId, found⟩ := handedOver_iff.mp h
  rw [handed] at found
  rcases Table.get_set_cases found with ⟨-, same⟩ | ⟨-, before⟩
  · cases same
    exact Or.inl rfl
  · exact Or.inr (handedOver_iff.mpr ⟨other, ingestId, before⟩)

end Handing

section Ready
variable {db db' : Db} {lease : JobLease} {ingestId workspaceId : Uuid}

theorem beginWorkspaceCleanup_ready
    (h : Inbox.beginWorkspaceCleanup db lease ingestId workspaceId = .ok (db', .ready)) :
    goesAhead db lease ingestId workspaceId = true ∧
      ∃ request, db.ingests.get ingestId = some request ∧
        ((request.workspaceId ≠ workspaceId ∧ db' = db) ∨
          (request.workspaceId = workspaceId ∧ Inbox.storageReleased db request.mediaId = true ∧
            db' = Inbox.releaseWorkPath db request.mediaId)) := by
  unfold Inbox.beginWorkspaceCleanup at h
  split at h
  · cases h
  · rename_i current
    rw [Bool.not_eq_true', Bool.not_eq_false] at current
    simp only [bind_ok] at h
    obtain ⟨request, loaded, h⟩ := h
    have found := Inbox.loadRequest_ok loaded
    unfold goesAhead
    rw [current, found, Bool.true_and, Option.any_some]
    split at h
    · rename_i past
      cases h
      exact ⟨by simp [past], request, rfl, Or.inl ⟨past, rfl⟩⟩
    · rename_i own
      rw [not_not] at own
      split at h
      · cases h
      · rename_i idle
        split at h
        · rename_i allowed
          rw [Bool.and_eq_true] at allowed
          cases h
          exact ⟨by simp [idle, allowed.1, allowed.2], request, rfl,
            Or.inr ⟨own, allowed.2, rfl⟩⟩
        · cases h

/-- The linked media has no path behind it. -/
theorem releaseWorkPath_clears {m : Uuid} {row row' : Media}
    (released : Inbox.storageReleased db (some m) = true) (before : db.media.get m = some row)
    (after : (Inbox.releaseWorkPath db (some m)).media.get m = some row') :
    row'.localWorkPath = none := by
  unfold Inbox.storageReleased at released
  rw [Option.bind_some, before] at released
  dsimp only at released
  unfold Inbox.releaseWorkPath Inbox.clearLocalWorkPath at after
  dsimp only at after
  rw [before] at after
  dsimp only at after
  have settled : row.storageState ∈ [MediaStorageState.ready, .missing] := by
    simpa using released
  rw [if_pos settled] at after
  unfold Library.setMedia at after
  rw [Table.get_set_self] at after
  cases after
  rfl

end Ready

section Steps
variable {calendar : Publisher.Calendar} {w w' : World} {act : Action}

/-- Only the answered begin of a cleanup can lead to its work. -/
theorem cleaning_call {attempt : Attempt} {db db' : Db} {outcome : CallOutcome} {phase : Inbox.Phase}
    {id workspaceId : Uuid} (command : attempt.command = .cleanupWorkspace id workspaceId)
    (called : attempt.call calendar db outcome = some (db', phase)) (going : phase = .cleaning) :
    attempt.phase = .started ∧ outcome = .answered ∧
      Inbox.beginWorkspaceCleanup db attempt.lease id workspaceId = .ok (db', .ready) := by
  subst going
  cases was : attempt.phase with
  | started =>
    simp only [Attempt.call, was, command, Option.some.injEq] at called
    cases outcome with
    | notApplied => cases congrArg Prod.snd called
    | answerLost => cases congrArg Prod.snd called
    | answered =>
      rcases Inbox.conclude_eq called with ⟨-, error, same⟩ | ⟨start, ok, same | same⟩
      · cases same
      · cases start with
        | ready => exact ⟨rfl, rfl, ok⟩
        | deferred => cases same
        | alreadyAdvanced => cases same
      · cases same
  | resolving ingest =>
    simp only [Attempt.call, was, Option.some.injEq] at called
    rcases Inbox.conclude_eq called with ⟨-, error, same⟩ | ⟨mediaId, ok, same | same⟩
    · cases same
    · cases same
    · cases same
  | admitted => simp [Attempt.call, was, command, Inbox.beginOf] at called
  | identifying => simp [Attempt.call, was, command, JobCommand.stageIngest] at called
  | completing => simp [Attempt.call, was, command, Inbox.completeOf] at called
  | failing => simp [Attempt.call, was, command, Inbox.failOf] at called
  | working => simp [Attempt.call, was] at called
  | deciding => simp [Attempt.call, was] at called
  | cleaning => simp [Attempt.call, was] at called
  | returned => simp [Attempt.call, was] at called

theorem handedAfter_call (w : World) (after : Inbox.World) (token : Uuid) (outcome : CallOutcome) :
    handedAfter w after (.call token outcome) = w.handed ∨ ∃ lease id workspaceId,
      after.attempts.get token = some ⟨lease, .cleanupWorkspace id workspaceId, .cleaning⟩ ∧
      handedAfter w after (.call token outcome) = w.handed.set token (id, workspaceId) := by
  generalize result : handedAfter w after (.call token outcome) = handed
  unfold handedAfter at result
  dsimp only at result
  split at result
  · rename_i lease id workspaceId there
    exact Or.inr ⟨lease, id, workspaceId, there, result.symm⟩
  · exact Or.inl result.symm

/-- A step hands nothing over, or is the begin of a cleanup that goes ahead. -/
theorem step_hands (h : step calendar w act = some w') : w'.handed = w.handed ∨
    ∃ token outcome attempt id workspaceId, act = .inbox (.call token outcome) ∧
      w.inbox.attempts.get token = some attempt ∧ attempt.phase = .started ∧
      outcome = .answered ∧ attempt.command = .cleanupWorkspace id workspaceId ∧
      Inbox.beginWorkspaceCleanup w.inbox.db attempt.lease id workspaceId =
        .ok (w'.inbox.db, .ready) ∧
      w'.handed = w.handed.set token (id, workspaceId) := by
  cases act with
  | recoverCleanup id expected =>
    simp only [step, Option.some.injEq] at h
    subst h
    exact Or.inl rfl
  | pruneCleanup ingestId workspaceId cutoff =>
    simp only [step, Option.bind_eq_bind, Option.bind_eq_some_iff, Option.some.injEq] at h
    obtain ⟨db, -, rfl⟩ := h
    exact Or.inl rfl
  | inbox act =>
    simp only [step, Option.bind_eq_bind, Option.ite_none_right_eq_some, Option.bind_eq_some_iff,
      Option.some.injEq] at h
    obtain ⟨-, after, moved, rfl⟩ := h
    dsimp only
    cases act with
    | call token outcome =>
      simp only [Inbox.step, Option.bind_eq_bind, Option.bind_eq_some_iff, Option.some.injEq]
        at moved
      obtain ⟨attempt, found, ⟨db, phase⟩, called, rfl⟩ := moved
      rcases handedAfter_call w _ token outcome with same | ⟨lease, id, workspaceId, there, handed⟩
      · exact Or.inl same
      · have reached : some { attempt with phase := phase } =
            some ⟨lease, .cleanupWorkspace id workspaceId, .cleaning⟩ :=
          (Table.get_set_self _ _ _).symm.trans there
        obtain ⟨-, command, going⟩ := Attempt.mk.inj (Option.some.inj reached)
        obtain ⟨started, answered, begun⟩ := cleaning_call command called going
        exact Or.inr ⟨token, outcome, attempt, id, workspaceId, rfl, found, started, answered,
          command, begun, handed⟩
    | _ => exact Or.inl rfl

theorem conclude_commits {ε α : Type} {db db' : Db} {outcome : CallOutcome} {lost : ε}
    {result : Except ε (Db × α)} {next : Except ε α → Inbox.Phase} {phase : Inbox.Phase}
    (h : outcome.conclude db lost result next = (db', phase)) :
    db' = db ∨ (outcome.applied = true ∧ ∃ answer, result = .ok (db', answer)) := by
  rcases Inbox.conclude_eq h with ⟨same, -⟩ | ⟨answer, ok, -⟩
  · exact Or.inl same
  · cases outcome with
    | notApplied => exact Or.inl (congrArg Prod.fst h).symm
    | answered => exact Or.inr ⟨rfl, answer, ok⟩
    | answerLost => exact Or.inr ⟨rfl, answer, ok⟩

/-- A path behind a call was there, or is that of the media it makes. -/
theorem call_makes {attempt : Attempt} {db db' : Db} {outcome : CallOutcome} {phase : Inbox.Phase}
    (owned : attempt.lease.jobId.key.owns attempt.command = true)
    (called : attempt.call calendar db outcome = some (db', phase)) {m : Uuid} {row' : Media}
    {path : Uuid × String} (found : db'.media.get m = some row')
    (here : row'.localWorkPath = some path) :
    (outcome.applied = true ∧ madePath db attempt = some path) ∨
      ∃ row, db.media.get m = some row ∧ row.localWorkPath = some path := by
  rcases (call_step owned called).paths m row' path found here with source | old
  · unfold callSource at source
    split at source
    · rename_i ingest was
      simp only [Attempt.call, was, Option.some.injEq] at called
      rcases conclude_commits called with same | ⟨applied, -⟩
      · exact Or.inr ⟨row', same ▸ found, here⟩
      · refine Or.inl ⟨applied, ?_⟩
        unfold madePath
        rw [was]
        exact source
    · rename_i result was
      simp only [Attempt.call, was, Option.map_eq_some_iff] at called
      obtain ⟨answer, completes, called⟩ := called
      rcases conclude_commits called with same | ⟨applied, request, ok⟩
      · exact Or.inr ⟨row', same ▸ found, here⟩
      · obtain ⟨stage, id, of⟩ := Inbox.completeOf_stage completes
        obtain ⟨forceSave, key⟩ := Inbox.stageKey_of_command owned of
        have foreign : isCleanupKey attempt.lease.jobId.key = false := by
          rw [key]
          rfl
        subst ok
        cases result with
        | identified ingest fingerprint decision =>
          cases command : attempt.command with
          | computeFingerprint id =>
            rw [command] at completes
            have step := completeVideoIdentity_makes foreign (Option.some.inj completes)
            rcases step.paths m row' path found here with made | old
            · refine Or.inl ⟨applied, ?_⟩
              unfold madePath
              rw [was, command]
              exact made
            · exact Or.inr old
          | _ =>
            rw [command] at completes
            cases completes
        | _ => cases source
    · cases source
  · exact Or.inr old

/-- No media has its file in a workspace that was handed to deletion. -/
def Apart (w : World) : Prop :=
  ∀ m row path, w.inbox.db.media.get m = some row → row.localWorkPath = some path →
    handedOver w path.1 = false

theorem step_makes (inv : Orderly w) (h : step calendar w act = some w') {m : Uuid} {row' : Media}
    {path : Uuid × String} (found : w'.inbox.db.media.get m = some row')
    (here : row'.localWorkPath = some path) :
    (∃ token outcome attempt, act = .inbox (.call token outcome) ∧
      w.inbox.attempts.get token = some attempt ∧ outcome.applied = true ∧
      madePath w.inbox.db attempt = some path) ∨
      ∃ row, w.inbox.db.media.get m = some row ∧ row.localWorkPath = some path := by
  rcases (step_swept inv h).paths m row' path found here with source | old
  · unfold actionSource at source
    split at source
    · rename_i token outcome
      simp only [step, Inbox.step, Option.bind_eq_bind, Option.ite_none_right_eq_some,
        Option.bind_eq_some_iff, Option.some.injEq] at h
      obtain ⟨-, after, ⟨attempt, there, ⟨db, phase⟩, called, rfl⟩, rfl⟩ := h
      have owned := (inv.pipeline.attempts token attempt there).owned
      rcases call_makes owned called found here with ⟨applied, made⟩ | old
      · exact Or.inl ⟨token, outcome, attempt, rfl, there, applied, made⟩
      · exact Or.inr old
    · cases source
  · exact Or.inr old

theorem sparesSources_call {token : Uuid} {outcome : CallOutcome} {attempt : Attempt}
    (there : w.inbox.attempts.get token = some attempt) :
    sparesSources w (.inbox (.call token outcome)) = true ↔
      (outcome.applied = true → ∀ path, madePath w.inbox.db attempt = some path →
        handedOver w path.1 = false) ∧
      (outcome = .answered → sparesOthers w.inbox.db attempt = true) := by
  unfold sparesSources
  dsimp only
  rw [there, Option.all_some, Bool.and_eq_true, Bool.or_eq_true, Bool.or_eq_true, Bool.not_eq_true',
    Option.all_eq_true]
  constructor
  · rintro ⟨made, others⟩
    refine ⟨fun applied path is => ?_, fun answered => ?_⟩
    · rcases made with not | apart
      · rw [applied] at not
        cases not
      · simpa using apart path is
    · rcases others with other | spared
      · rw [answered] at other
        cases other
      · exact spared
  · rintro ⟨made, others⟩
    constructor
    · cases applied : outcome.applied with
      | false => exact Or.inl rfl
      | true => exact Or.inr (fun path is => by simpa using made applied path is)
    · cases answered : outcome with
      | answered => exact Or.inr (others answered)
      | notApplied => exact Or.inl rfl
      | answerLost => exact Or.inl rfl

/-- The begin of a cleanup makes no media. -/
theorem madePath_started {db : Db} {attempt : Attempt} (started : attempt.phase = .started) :
    madePath db attempt = none := by
  unfold madePath
  rw [started]

/-- What a cleanup that goes ahead leaves of its workspace. -/
theorem sparesOthers_iff {db : Db} {attempt : Attempt} {id workspaceId : Uuid}
    (started : attempt.phase = .started) (command : attempt.command = .cleanupWorkspace id workspaceId)
    (ahead : goesAhead db attempt.lease id workspaceId = true) :
    sparesOthers db attempt = true ↔ ∀ m row path, db.media.get m = some row →
      row.localWorkPath = some path → path.1 = workspaceId → clears db id workspaceId m = true := by
  unfold sparesOthers
  rw [started, command]
  dsimp only
  rw [ahead, Bool.not_true, Bool.false_or, List.all_eq_true]
  constructor
  · intro spares m row path found here inside
    have cleared := spares (m, row) ((Table.mem_rows_iff _ _ _).mpr found)
    dsimp only at cleared
    rw [here, Option.all_some, inside, bne_self_eq_false, Bool.false_or] at cleared
    exact cleared
  · rintro spares ⟨m, row⟩ member
    have found := (Table.mem_rows_iff _ _ _).mp member
    dsimp only
    cases here : row.localWorkPath with
    | none => rfl
    | some path =>
      rw [Option.all_some, Bool.or_eq_true, bne_iff_ne]
      by_cases inside : path.1 = workspaceId
      · exact Or.inr (spares m row path found here inside)
      · exact Or.inl inside

theorem Apart.step (apart : Apart w) (inv : Orderly w) (spares : sparesSources w act = true)
    (h : Workspace.step calendar w act = some w') : Apart w' := by
  intro m row' path found here
  rw [← Bool.not_eq_true]
  intro gone
  rcases step_hands h with same | ⟨token, outcome, attempt, id, workspaceId, rfl, there, started,
      answered, command, begun, handed⟩
  · -- The path is an old one, or that of a media made by this step.
    have before : handedOver w path.1 = true := by
      unfold handedOver at gone ⊢
      rw [← same]
      exact gone
    rcases step_makes inv h found here with ⟨token, outcome, attempt, rfl, there, applied, made⟩ |
        ⟨row, old, was⟩
    · rw [((sparesSources_call there).mp spares).1 applied path made] at before
      cases before
    · rw [apart m row path old was] at before
      cases before
  · -- What the cleanup leaves in its workspace was there before it.
    obtain ⟨ahead, request, asked, outcomes⟩ := beginWorkspaceCleanup_ready begun
    have others := ((sparesSources_call there).mp spares).2 answered
    rw [sparesOthers_iff started command ahead] at others
    rcases step_makes inv h found here with ⟨other, result, caller, same, there', -, made⟩ |
        ⟨row, old, was⟩
    · cases same
      rw [there] at there'
      cases there'
      rw [madePath_started started] at made
      cases made
    · rcases handedOver_set handed gone with inside | before
      · have cleared := others m row path old was inside
        unfold clears at cleared
        rw [asked, Option.any_some, Bool.and_eq_true, beq_iff_eq, beq_iff_eq] at cleared
        obtain ⟨own, linked⟩ := cleared
        rcases outcomes with ⟨past, -⟩ | ⟨-, released, after⟩
        · exact past own
        · rw [linked] at released after
          rw [after] at found
          rw [releaseWorkPath_clears released old found] at here
          cases here
      · rw [apart m row path old was] at before
        cases before

theorem upload_sources_survive {acts : List Action}
    (run : Run (step calendar) (fun w act => sparesSources w act = true) initial acts w) (m : Uuid) :
    ¬ Bereft w m := by
  rintro ⟨row, path, job, found, -, here, -, -, gone⟩
  have start : Orderly initial ∧ Apart initial := by
    refine ⟨orderly_initial, ?_⟩
    intro m row path found
    cases found
  have inv : Orderly w ∧ Apart w :=
    run_invariant (fun w => Orderly w ∧ Apart w)
      (fun inv spares h => ⟨inv.1.step h, inv.2.step inv.1 spares h⟩) start run
  rw [inv.2 m row path found here] at gone
  cases gone

end Steps

section Samples

def sampleImage (request : String) : Inbox.IngestSubmission :=
  { Inbox.sampleSubmission .save with
    kind := .upload, idempotencyKey := some request, requestHash := request }

def sampleFile (workspaceId : Uuid) : Library.MediaIngest :=
  ⟨.image, "image", none, [], none, some (workspaceId, "image.jpg")⟩

/-- A stage of an ingest under a token, with the calls before its work and what
    the work reports. -/
def sampleStage (stage : Stage) (id token : Uuid) (calls : Nat) (reports : List Inbox.Report) :
    List Action :=
  [.inbox (.claimJob "a" (30 * second) (.stage stage id false))] ++
    List.replicate calls (.inbox (.call token .answered)) ++
    reports.flatMap (fun report =>
      [.inbox (.report token report), .inbox (.call token .answered)])

/-- An uploaded image up to the media of its bytes, under three tokens. -/
def sampleResolved (request : String) (id probe normalize finalize : Uuid) : List Action :=
  [.inbox (.createIngest (sampleImage request))] ++
    sampleStage .probeAsset id probe 2 [.finished (.probed ⟨some .image, some "jpeg"⟩)] ++
    sampleStage .normalizeAsset id normalize 2
      [.finished (.normalized ⟨(id, "image.jpg"), "image", .image⟩)] ++
    sampleStage .finalizeIngest id finalize 1 [.resolve (sampleFile id)]

/-- A later attempt at the finalization of ingest 0 that the database fails. -/
def sampleRefused (token : Uuid) : List Action :=
  [.inbox (.tick day), .inbox (.claimJob "a" (30 * second) (.stage .finalizeIngest 0 false)),
    .inbox (.call token .notApplied), .inbox (.finish token .answered)]

/-- The media of an image is made, but no attempt at its finalization comes
    through; its workspace goes, and a second ingest of the bytes is linked. -/
def sampleOrphaned : List Action :=
  sampleResolved "a" 0 2 4 6 ++ [.inbox (.call 6 .notApplied), .inbox (.finish 6 .answered)] ++
    [8, 9, 10, 11].flatMap sampleRefused ++
    [.inbox (.tick day), .inbox (.claimJob "b" (30 * second) (.cleanupWorkspace 0 0)),
      .inbox (.call 13 .answered)] ++
    sampleResolved "b" 14 16 18 20 ++ [.inbox (.call 20 .answered)]

theorem orphaned_source_is_deleted : ∃ w,
    Run (step Publisher.sampleCalendar) Unrestricted initial sampleOrphaned w ∧ Bereft w 7 := by
  obtain ⟨w, reached, row, path, job, found, pending, here, there, live, gone⟩ :
      ∃ w, exec (step Publisher.sampleCalendar) initial sampleOrphaned = some w ∧
        ∃ row path job, w.inbox.db.media.get 7 = some row ∧ row.storageState = .pending ∧
          row.localWorkPath = some path ∧
          w.inbox.db.jobs.get (.uploadStorage 7 row.storageGeneration) = some job ∧
          job.state.live = true ∧ handedOver w path.1 = true :=
    ⟨_, rfl, _, _, _, rfl, rfl, rfl, rfl, rfl, rfl⟩
  exact ⟨w, run_of_exec reached, row, path, job, found, pending, here, there, live, gone⟩

/-- The workspace of a failed ingest goes, and the upload of another is queued. -/
def sampleQueued : List Action :=
  sampleFailed ++ [.inbox (.finish 2 .answered), .inbox (.tick day),
    .inbox (.claimJob "b" (30 * second) (.cleanupWorkspace 0 0)), .inbox (.call 5 .answered)] ++
    sampleResolved "a" 6 8 10 12 ++ [.inbox (.call 12 .answered)]

theorem queued_source_survives : ∃ w,
    Run (step Publisher.sampleCalendar) (fun w act => sparesSources w act = true) initial
      sampleQueued w ∧ handedOver w 0 = true ∧
      (∃ job, w.inbox.db.jobs.get (.uploadStorage 13 0) = some job ∧ job.state.live = true) ∧
      ¬ Bereft w 13 := by
  obtain ⟨w, reached, handed, job, there, live⟩ :
      ∃ w, exec (fun w act => if sparesSources w act then step Publisher.sampleCalendar w act
          else none) initial sampleQueued = some w ∧
        handedOver w 0 = true ∧ ∃ job, w.inbox.db.jobs.get (.uploadStorage 13 0) = some job ∧
          job.state.live = true :=
    ⟨_, rfl, rfl, _, rfl, rfl⟩
  have run := run_of_exec_checked reached
  exact ⟨w, run, handed, ⟨job, there, live⟩, upload_sources_survive run 13⟩

end Samples
end Sooqa.Workspace
