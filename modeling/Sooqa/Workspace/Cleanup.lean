import Sooqa.Workspace.Steps

/-!
Whether a workspace is ever left behind. A cleanup job is inserted once, under
a key that no later insert overwrites, and a deferral counts as an attempt
like any other; a cleanup that was deferred too often ends failed, and nothing
brings it back. In runs in which no cleanup of a current workspace ends that
way, every ingest that is done with its workspace has it released, or a live
job that will.
-/
namespace Sooqa.Workspace
open Foundation Queue Worker
open Inbox (Attempt isCurrent)

section Leaks
variable {w : World} {id : Uuid}

/-- A live job of the ingest or its media, other than a cleanup. -/
def busy (db : Db) (id : Uuid) (mediaId : Option Uuid) : Bool :=
  db.jobs.any (fun job =>
    job.state.live && job.command.jobType != .cleanupWorkspace &&
      (job.command.payloadIngest == some id ||
        (mediaId.isSome && job.command.payloadMedia == mediaId)))

/-- A workspace that nothing will release: its ingest is over and its storage
    settled, no job is left that could need it, and none that cleans it up. -/
structure Leaked (w : World) (id : Uuid) (row : Ingest) : Prop where
  found : w.inbox.db.ingests.get id = some row
  final : isFinal row.status = true
  storage : ∀ mediaId, row.mediaId = some mediaId → Resolved w.inbox.db mediaId
  idle : busy w.inbox.db id row.mediaId = false
  held : w.released.get (id, row.workspaceId) = none
  unscheduled : ∀ job, w.inbox.db.jobs.get (.cleanupWorkspace id row.workspaceId) = some job →
    job.state.live = false

end Leaks

section Invariant
variable {w w' : World} {act : Action}

/-- A cleanup job of the workspace an ingest has is live or has done its work,
    and an ingest that is done with its workspace has one. -/
structure Tidy (w : World) : Prop extends Orderly w where
  live : ∀ id row job, w.inbox.db.ingests.get id = some row →
    w.inbox.db.jobs.get (.cleanupWorkspace id row.workspaceId) = some job →
    job.state.live = true ∨ w.released.get (id, row.workspaceId) = some ()
  covered : ∀ id row, w.inbox.db.ingests.get id = some row → Spent w.inbox.db row →
    w.released.get (id, row.workspaceId) = some () ∨
      ∃ job, w.inbox.db.jobs.get (.cleanupWorkspace id row.workspaceId) = some job

/-- A workspace without a cleanup job gets a live one. -/
theorem Swept.live_of_none (swept : Swept act w w') {id workspaceId : Uuid} {job' : Job}
    (none : ∀ job, w.inbox.db.jobs.get (.cleanupWorkspace id workspaceId) ≠ some job)
    (found : w'.inbox.db.jobs.get (.cleanupWorkspace id workspaceId) = some job') :
    job'.state.live = true := by
  cases swept.jobs id workspaceId with
  | same same => exact absurd (same ▸ found) (none job')
  | added absent own job after queued =>
    rw [found] at after
    cases after
    rw [queued]
    rfl
  | written job other before => exact absurd before (none job)
  | pruned job before => exact absurd before (none job)

theorem Swept.tidy_live (inv : Tidy w) (swept : Swept act w w') (calm : ¬ EndsCleanup w act)
    (kept : ∀ key, w.released.get key = some () → w'.released.get key = some ()) {id : Uuid}
    {row' : Ingest} {job' : Job} (row : w'.inbox.db.ingests.get id = some row')
    (found : w'.inbox.db.jobs.get (.cleanupWorkspace id row'.workspaceId) = some job') :
    job'.state.live = true ∨ w'.released.get (id, row'.workspaceId) = some () := by
  cases swept.rows id with
  | absent before after =>
    rw [row] at after
    cases after
  | created other before after =>
    rw [row] at after
    cases after
    refine Or.inl (swept.live_of_none (fun job there => ?_) found)
    obtain ⟨-, old, present⟩ := inv.keys _ _ _ there
    rw [before] at present
    cases present
  | moved old other before after drawn =>
    rw [row] at after
    cases after
    refine Or.inl (swept.live_of_none (fun job there => ?_) found)
    exact absurd (inv.keys _ _ _ there).1 (Nat.not_lt.mpr drawn.1)
  | kept old other before after workspace =>
    rw [row] at after
    cases after
    rw [workspace] at found ⊢
    cases swept.jobs id old.workspaceId with
    | same same =>
      exact (inv.live id old job' before (same ▸ found)).imp_right (kept _)
    | added absent own job after queued =>
      rw [found] at after
      cases after
      rw [queued]
      exact Or.inl rfl
    | written job other there after ended =>
      rw [found] at after
      cases after
      cases state : job'.state.live with
      | true => exact Or.inl rfl
      | false =>
        rcases ended state with released | ends | past
        · exact Or.inr released
        · exact absurd ends calm
        · exact absurd rfl (past _ before)
    | pruned job there after =>
      rw [found] at after
      cases after

theorem Swept.tidy_covered (inv : Tidy w) (swept : Swept act w w')
    (kept : ∀ key, w.released.get key = some () → w'.released.get key = some ()) {id : Uuid}
    {row' : Ingest} (row : w'.inbox.db.ingests.get id = some row')
    (spent : Spent w'.inbox.db row') : w'.released.get (id, row'.workspaceId) = some () ∨
      ∃ job, w'.inbox.db.jobs.get (.cleanupWorkspace id row'.workspaceId) = some job := by
  cases swept.rows id with
  | absent before after =>
    rw [row] at after
    cases after
  | created other before after drawn working =>
    rw [row] at after
    cases after
    exact absurd spent working
  | moved old other before after drawn working =>
    rw [row] at after
    cases after
    exact absurd spent working
  | kept old other before after workspace due =>
    rw [row] at after
    cases after
    rw [workspace]
    rcases due spent with old | present
    · rcases inv.covered id _ before old with released | ⟨job, there⟩
      · exact Or.inl (kept _ released)
      · cases swept.jobs id _ with
        | same same => exact Or.inr ⟨job, same ▸ there⟩
        | added absent own job after => exact Or.inr ⟨job, after⟩
        | written old job _ after => exact Or.inr ⟨job, after⟩
        | pruned other here after ended =>
          -- Retention takes the job of a current workspace only once it has succeeded.
          rw [here] at there
          cases there
          rcases ended with succeeded | past
          · rcases inv.live id _ _ before here with live | released
            · rw [succeeded] at live
              cases live
            · exact Or.inl (kept _ released)
          · exact absurd rfl (past _ before)
    · exact Or.inr present

end Invariant

section Runs
variable {calendar : Publisher.Calendar} {w w' : World} {act : Action}

theorem Tidy.step (inv : Tidy w) (calm : ¬ EndsCleanup w act)
    (h : Workspace.step calendar w act = some w') : Tidy w' := by
  have swept := step_swept inv.toOrderly h
  have kept := step_released h
  refine ⟨inv.toOrderly.step h, ?_, ?_⟩
  · exact fun id row job row' found => swept.tidy_live inv calm kept row' found
  · exact fun id row found spent => swept.tidy_covered inv kept found spent

theorem tidy_initial : Tidy initial where
  toOrderly := orderly_initial
  live := fun _ _ _ found => by cases found
  covered := fun _ _ found => by cases found

theorem Tidy.run {acts : List Action}
    (run : Run (Workspace.step calendar) (fun w act => ¬ EndsCleanup w act) initial acts w) :
    Tidy w :=
  run_invariant Tidy (fun inv calm h => inv.step calm h) tidy_initial run

/-- As long as no cleanup of a current workspace gives up, none is left behind. -/
theorem workspaces_are_released {acts : List Action}
    (run : Run (Workspace.step calendar) (fun w act => ¬ EndsCleanup w act) initial acts w)
    (id : Uuid) (row : Ingest) : ¬ Leaked w id row := by
  intro leaked
  have inv := Tidy.run run
  have spent : Spent w.inbox.db row := by
    unfold Spent
    split
    · exact leaked.final
    · rename_i mediaId media
      exact leaked.storage mediaId media
  have held : w.released.get (id, row.workspaceId) ≠ some () := by
    rw [leaked.held]
    nofun
  rcases inv.covered id row leaked.found spent with released | ⟨job, found⟩
  · exact held released
  · rcases inv.live id row job leaked.found found with live | released
    · rw [leaked.unscheduled job found] at live
      cases live
    · exact held released

/-- An ingest whose source cannot be read, up to its recorded failure. -/
def sampleFailed : List Action :=
  [.inbox (.createIngest (Inbox.sampleSubmission .save)),
    .inbox (.claimJob "a" (30 * second) (.stage .inspectSource 0 false)),
    .inbox (.call 2 .answered),
    .inbox (.report 2 (.failed (.permanent "unsupported_source" "no extractor"))),
    .inbox (.call 2 .answered)]

theorem calm_of_other {token : Uuid} {outcome : CallOutcome} {attempt : Attempt}
    (found : w.inbox.attempts.get token = some attempt)
    (other : (∀ id workspaceId, attempt.command ≠ .cleanupWorkspace id workspaceId) ∨
      ∀ failure, attempt.phase ≠ .returned (.error failure)) :
    ¬ EndsCleanup w (.inbox (.finish token outcome)) := by
  rintro ⟨-, acting, failure, -, before, returned, -, ⟨id, row, -, command⟩, -⟩
  rw [found] at before
  cases before
  rcases other with foreign | answered
  · exact foreign _ _ command
  · exact answered failure returned

/-- A failed ingest whose job is settled before its workspace is due. -/
theorem failed_ingest_is_released :
    ∃ w row, Run (Workspace.step Publisher.sampleCalendar) (fun w act => ¬ EndsCleanup w act) initial
        (sampleFailed ++ [.inbox (.finish 2 .answered), .inbox (.tick day),
          .inbox (.claimJob "b" (30 * second) (.cleanupWorkspace 0 0)), .inbox (.call 5 .answered),
          .inbox (.endCleanup 5 none), .inbox (.finish 5 .answered)]) w ∧
      w.inbox.db.ingests.get 0 = some row ∧ isFinal row.status = true ∧
      w.released.get (0, row.workspaceId) = some () ∧ ¬ Leaked w 0 row := by
  obtain ⟨s, t, u, w, row, failed, settled, cleaned, finished, ⟨first, foreign, other⟩,
      ⟨second, cleaning, answered⟩, found, final, released⟩ : ∃ s t u w row,
      exec (Workspace.step Publisher.sampleCalendar) initial sampleFailed = some s ∧
      Workspace.step Publisher.sampleCalendar s (.inbox (.finish 2 .answered)) = some t ∧
      exec (Workspace.step Publisher.sampleCalendar) t
        [.inbox (.tick day), .inbox (.claimJob "b" (30 * second) (.cleanupWorkspace 0 0)),
          .inbox (.call 5 .answered), .inbox (.endCleanup 5 none)] = some u ∧
      Workspace.step Publisher.sampleCalendar u (.inbox (.finish 5 .answered)) = some w ∧
      (∃ attempt, s.inbox.attempts.get 2 = some attempt ∧ attempt.command = .inspectSource 0) ∧
      (∃ attempt, u.inbox.attempts.get 5 = some attempt ∧ attempt.phase = .returned (.ok ())) ∧
      w.inbox.db.ingests.get 0 = some row ∧ isFinal row.status = true ∧
      w.released.get (0, row.workspaceId) = some () :=
    ⟨_, _, _, _, _, rfl, rfl, rfl, rfl, ⟨_, rfl, rfl⟩, ⟨_, rfl, rfl⟩, rfl, rfl, rfl⟩
  have calm : ∀ {v acts v'}, exec (Workspace.step Publisher.sampleCalendar) v acts = some v' →
      (∀ act ∈ acts, ∀ w, ¬ EndsCleanup w act) →
      Run (Workspace.step Publisher.sampleCalendar) (fun w act => ¬ EndsCleanup w act) v acts v' :=
    fun reached ok => run_of_exec_allowed ok reached
  have run := run_append (calm failed (by simp [sampleFailed, EndsCleanup]))
    (.cons (calm_of_other foreign (Or.inl (by rw [other]; nofun))) settled
      (run_append (calm cleaned (by simp [EndsCleanup]))
        (.cons (calm_of_other cleaning (Or.inr (by rw [answered]; nofun))) finished (.nil w))))
  exact ⟨w, row, run, found, final, released, workspaces_are_released run 0 row⟩

/-- A cleanup attempt that finds its workspace still in use, at a given token. -/
def sampleDeferral (token : Uuid) : List Action :=
  [.inbox (.claimJob "b" (30 * second) (.cleanupWorkspace 0 0)), .inbox (.call token .answered),
    .inbox (.finish token .answered), .inbox (.tick minute)]

/-- The worker of a failed ingest dies before it settles its job, and the
    cleanup meets that job at all of its attempts. When the job is recovered
    and ends, nothing is left that would release the workspace. -/
theorem deferred_cleanup_is_lost :
    ∃ w row, Run (Workspace.step Publisher.sampleCalendar) Unrestricted initial
        (sampleFailed ++ [.inbox (.crash 2), .inbox (.tick day)] ++
          [4, 5, 6, 7, 8].flatMap sampleDeferral ++
          [.inbox (.recover ⟨.stage .inspectSource 0 false, 1⟩ (.inspectSource 0)),
            .inbox (.claimJob "a" (30 * second) (.stage .inspectSource 0 false)),
            .inbox (.call 9 .answered), .inbox (.finish 9 .answered)]) w ∧
      Leaked w 0 row := by
  obtain ⟨w, row, reached, found, final, media, idle, held, job, there, failed⟩ : ∃ w row,
      exec (Workspace.step Publisher.sampleCalendar) initial
        (sampleFailed ++ [.inbox (.crash 2), .inbox (.tick day)] ++
          [4, 5, 6, 7, 8].flatMap sampleDeferral ++
          [.inbox (.recover ⟨.stage .inspectSource 0 false, 1⟩ (.inspectSource 0)),
            .inbox (.claimJob "a" (30 * second) (.stage .inspectSource 0 false)),
            .inbox (.call 9 .answered), .inbox (.finish 9 .answered)]) = some w ∧
      w.inbox.db.ingests.get 0 = some row ∧ isFinal row.status = true ∧ row.mediaId = none ∧
      busy w.inbox.db 0 row.mediaId = false ∧ w.released.get (0, row.workspaceId) = none ∧
      ∃ job, w.inbox.db.jobs.get (.cleanupWorkspace 0 row.workspaceId) = some job ∧
        job.state.live = false :=
    ⟨_, _, rfl, rfl, rfl, rfl, rfl, rfl, _, rfl, rfl⟩
  refine ⟨w, row, run_of_exec reached, found, final, ?_, idle, held, ?_⟩
  · intro mediaId linked
    rw [media] at linked
    cases linked
  · intro other present
    rw [there] at present
    cases present
    exact failed

end Runs

end Sooqa.Workspace
