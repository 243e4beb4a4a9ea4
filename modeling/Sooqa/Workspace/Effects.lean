import Sooqa.Workspace.System
import Sooqa.Inbox.Moves

/-!
What the transactions do to the workspaces: which ingests are done with
theirs, which cleanup jobs appear, and where a media gets its local path from.
-/
namespace Sooqa.Workspace
open Foundation Queue Worker
open Library (updateLinked setMedia)

section Spent

def isFinal : IngestStatus → Bool
  | .completed | .failedTerminal | .duplicatePending => true
  | _ => false

/-- The storage of a media is settled, one way or the other. -/
def Resolved (db : Db) (mediaId : Uuid) : Prop :=
  ∃ row, db.media.get mediaId = some row ∧ (row.storageState = .ready ∨ row.storageState = .missing)

/-- The ingests that are done with their workspace: ended without a media, or
    linked to one whose storage is settled. -/
def Spent (db : Db) (request : Ingest) : Prop :=
  match request.mediaId with
  | none => isFinal request.status = true
  | some mediaId => Resolved db mediaId

theorem Spent.of_resolved {db db' : Db} {request : Ingest}
    (back : ∀ mediaId, request.mediaId = some mediaId → Resolved db' mediaId → Resolved db mediaId)
    (h : Spent db' request) : Spent db request := by
  unfold Spent at h ⊢
  split at h
  · exact h
  · rename_i mediaId media
    exact back mediaId media h

theorem not_spent_of_status {db : Db} {request : Ingest} (unlinked : request.mediaId = none)
    (working : isFinal request.status = false) : ¬ Spent db request := by
  simp [Spent, unlinked, working]

/-- What a transaction does to one ingest: a fresh row, a row that keeps its
    workspace, and a cleanup job for it once it is done with it, or a row that
    moves to a fresh workspace. -/
inductive Sweep (db db' : Db) (id : Uuid) : Prop where
  | absent (before : db.ingests.get id = none) (after : db'.ingests.get id = none)
  | created (row' : Ingest) (before : db.ingests.get id = none)
      (after : db'.ingests.get id = some row') (drawn : row'.workspaceId < db'.fresh)
      (working : ¬ Spent db' row')
      (running : row'.status ≠ .cancelled)
  | kept (row row' : Ingest) (before : db.ingests.get id = some row)
      (after : db'.ingests.get id = some row') (workspace : row'.workspaceId = row.workspaceId)
      (due : Spent db' row' → Spent db row ∨
        ∃ job, db'.jobs.get (.cleanupWorkspace id row.workspaceId) = some job)
      (running : row'.status = .cancelled → row.status = .cancelled)
  | moved (row row' : Ingest) (before : db.ingests.get id = some row)
      (after : db'.ingests.get id = some row')
      (fresh : db.fresh ≤ row'.workspaceId ∧ row'.workspaceId < db'.fresh)
      (working : ¬ Spent db' row') (running : row'.status ≠ .cancelled)

end Spent

section Jobs

/-- Cleanup jobs appear, queued, for workspaces that ingests have; the others
    stay as they are. -/
def Cleanups (ingests : Table Uuid Ingest) (jobs jobs' : Jobs) : Prop :=
  ∀ id workspaceId, jobs'.get (.cleanupWorkspace id workspaceId) =
      jobs.get (.cleanupWorkspace id workspaceId) ∨
    (jobs.get (.cleanupWorkspace id workspaceId) = none ∧
      (∃ row, ingests.get id = some row ∧ row.workspaceId = workspaceId) ∧
      ∃ job, jobs'.get (.cleanupWorkspace id workspaceId) = some job ∧ job.state = .queued)

variable {ingests : Table Uuid Ingest} {jobs jobs' jobs'' : Jobs}

namespace Cleanups

theorem refl (ingests : Table Uuid Ingest) (jobs : Jobs) : Cleanups ingests jobs jobs :=
  fun _ _ => Or.inl rfl

theorem trans (first : Cleanups ingests jobs jobs') (second : Cleanups ingests jobs' jobs'') :
    Cleanups ingests jobs jobs'' := by
  intro id workspaceId
  rcases second id workspaceId with same | ⟨absent, row, job, found, queued⟩
  · rw [same]
    exact first id workspaceId
  · rcases first id workspaceId with before | ⟨-, -, old, present, -⟩
    · exact Or.inr ⟨before ▸ absent, row, job, found, queued⟩
    · rw [present] at absent
      cases absent

theorem of_added {kind : JobKey → Prop} (h : Added kind jobs jobs')
    (own : ∀ id workspaceId, kind (.cleanupWorkspace id workspaceId) →
      ∃ row, ingests.get id = some row ∧ row.workspaceId = workspaceId) :
    Cleanups ingests jobs jobs' := by
  intro id workspaceId
  rcases h (.cleanupWorkspace id workspaceId) with same | ⟨absent, right, job, found, queued⟩
  · exact Or.inl same
  · exact Or.inr ⟨absent, own id workspaceId right, job, found, queued⟩

/-- Jobs of other kinds were added. -/
theorem of_others {kind : JobKey → Prop} (h : Added kind jobs jobs')
    (others : ∀ key, kind key → isCleanupKey key = false) : Cleanups ingests jobs jobs' := by
  refine of_added h (fun id workspaceId right => ?_)
  have other := others _ right
  cases other

/-- A row of another kind was written. -/
theorem of_put {job : Job} (other : isCleanupKey job.id.key = false) :
    Cleanups ingests jobs (jobs.put job) := by
  intro id workspaceId
  refine Or.inl (Jobs.get_put_ne _ ?_)
  intro same
  rw [← same] at other
  cases other

/-- A row that was there is unchanged. -/
theorem kept (h : Cleanups ingests jobs jobs') {id workspaceId : Uuid} {job : Job}
    (found : jobs.get (.cleanupWorkspace id workspaceId) = some job) :
    jobs'.get (.cleanupWorkspace id workspaceId) = some job := by
  rcases h id workspaceId with same | ⟨absent, -⟩
  · rw [same, found]
  · rw [found] at absent
    cases absent

end Cleanups

theorem enqueueWorkspaceCleanup_present (db : Db) (id workspaceId : Uuid) (runAt : Time) :
    ∃ job, (enqueueWorkspaceCleanup db id workspaceId runAt).jobs.get
      (.cleanupWorkspace id workspaceId) = some job :=
  ⟨_, (Db.enqueue_jobs_get _ _ _ _ _ _ _).trans (if_pos rfl)⟩

theorem enqueueWorkspaceCleanup_cleanups {db : Db} {id workspaceId : Uuid} {runAt : Time}
    (own : ∃ row, ingests.get id = some row ∧ row.workspaceId = workspaceId) :
    Cleanups ingests db.jobs (enqueueWorkspaceCleanup db id workspaceId runAt).jobs := by
  have added : Enqueues (· = .cleanupWorkspace id workspaceId) db
      (enqueueWorkspaceCleanup db id workspaceId runAt) := .of_enqueue rfl
  refine .of_added added.rows ?_
  rintro other place ⟨⟩
  exact own

theorem enqueueWorkspaceCleanups_cleanups {db : Db} {runAt : Time} {workspaces : List (Uuid × Uuid)}
    (own : ∀ pair ∈ workspaces, ∃ row, ingests.get pair.1 = some row ∧ row.workspaceId = pair.2) :
    Cleanups ingests db.jobs (enqueueWorkspaceCleanups runAt db workspaces).jobs ∧
      ∀ pair ∈ workspaces, ∃ job, (enqueueWorkspaceCleanups runAt db workspaces).jobs.get
        (.cleanupWorkspace pair.1 pair.2) = some job := by
  induction workspaces generalizing db with
  | nil => exact ⟨.refl _ _, fun _ member => by cases member⟩
  | cons first rest ih =>
    obtain ⟨later, present⟩ := @ih (enqueueWorkspaceCleanup db first.1 first.2 runAt)
      (fun pair member => own pair (List.mem_cons_of_mem _ member))
    refine ⟨(enqueueWorkspaceCleanup_cleanups (own first List.mem_cons_self)).trans later, ?_⟩
    intro pair member
    rcases List.mem_cons.mp member with rfl | inside
    · obtain ⟨job, found⟩ := enqueueWorkspaceCleanup_present db pair.1 pair.2 runAt
      exact ⟨job, later.kept found⟩
    · exact present pair inside

theorem mem_workspacesForMedia {db : Db} {mediaId id workspaceId : Uuid} :
    (id, workspaceId) ∈ workspacesForMedia db mediaId ↔ ∃ row, db.ingests.get id = some row ∧
      row.mediaId = some mediaId ∧ row.status ≠ .cancelled ∧ row.workspaceId = workspaceId := by
  simp only [workspacesForMedia, List.mem_filterMap, Option.ite_none_right_eq_some,
    Option.some.injEq, Prod.mk.injEq, Prod.exists, Table.mem_rows_iff]
  constructor
  · rintro ⟨other, row, found, ⟨media, running⟩, rfl, rfl⟩
    exact ⟨row, found, media, running, rfl⟩
  · rintro ⟨row, found, media, running, rfl⟩
    exact ⟨id, row, found, ⟨media, running⟩, rfl, rfl⟩

/-- The ingests of a media have a cleanup job afterwards, old or new. -/
theorem enqueueWorkspaceCleanupForMedia_cleanups (db : Db) (mediaId : Uuid) (runAt : Time) :
    Cleanups db.ingests db.jobs (enqueueWorkspaceCleanupForMedia db mediaId runAt).jobs ∧
      ∀ id row, db.ingests.get id = some row → row.mediaId = some mediaId →
        row.status ≠ .cancelled →
        ∃ job, (enqueueWorkspaceCleanupForMedia db mediaId runAt).jobs.get
          (.cleanupWorkspace id row.workspaceId) = some job := by
  have own : ∀ pair ∈ workspacesForMedia db mediaId,
      ∃ row, db.ingests.get pair.1 = some row ∧ row.workspaceId = pair.2 := by
    rintro ⟨id, workspaceId⟩ member
    obtain ⟨row, found, -, -, same⟩ := mem_workspacesForMedia.mp member
    exact ⟨row, found, same⟩
  obtain ⟨jobs, present⟩ := @enqueueWorkspaceCleanups_cleanups db.ingests db runAt _ own
  refine ⟨jobs, fun id row found media running => ?_⟩
  exact present (id, row.workspaceId) (mem_workspacesForMedia.mpr ⟨row, found, media, running, rfl⟩)

end Jobs

section Media

/-- No storage is settled, and no row gets a path but the source. -/
structure KeepsMedia (source : Option (Uuid × String)) (db db' : Db) : Prop where
  resolved : ∀ mediaId, Resolved db' mediaId → Resolved db mediaId
  paths : ∀ mediaId row' path, db'.media.get mediaId = some row' → row'.localWorkPath = some path →
    source = some path ∨ ∃ row, db.media.get mediaId = some row ∧ row.localWorkPath = some path

variable {source : Option (Uuid × String)} {db db' db'' : Db}

namespace KeepsMedia

theorem of_same (same : db'.media = db.media) : KeepsMedia source db db' where
  resolved := fun _ ⟨row, found, state⟩ => ⟨row, same ▸ found, state⟩
  paths := fun _ row' _ found path => Or.inr ⟨row', same ▸ found, path⟩

theorem then_same (first : KeepsMedia source db db') (same : db''.media = db'.media) :
    KeepsMedia source db db'' where
  resolved := fun mediaId ⟨row, found, state⟩ => first.resolved mediaId ⟨row, same ▸ found, state⟩
  paths := fun mediaId row' path found => first.paths mediaId row' path (same ▸ found)

/-- A rewrite of one row. -/
theorem of_setMedia {id : Uuid} {row row' : Media} (found : db.media.get id = some row)
    (state : row'.storageState = .ready ∨ row'.storageState = .missing →
      row.storageState = .ready ∨ row.storageState = .missing)
    (path : ∀ place, row'.localWorkPath = some place → row.localWorkPath = some place) :
    KeepsMedia source db (setMedia db id row') where
  resolved := by
    rintro mediaId ⟨other, there, settled⟩
    rcases Table.get_set_cases there with ⟨rfl, rfl⟩ | ⟨-, old⟩
    · exact ⟨row, found, state settled⟩
    · exact ⟨other, old, settled⟩
  paths := by
    intro mediaId other place there here
    rcases Table.get_set_cases there with ⟨rfl, rfl⟩ | ⟨-, old⟩
    · exact Or.inr ⟨row, found, path place here⟩
    · exact Or.inr ⟨other, old, here⟩

theorem of_insert (ingest : Library.MediaIngest) :
    KeepsMedia ingest.localWorkPath db (Library.insertMedia db ingest) where
  resolved := by
    rintro mediaId ⟨other, there, settled⟩
    rcases Table.get_set_cases there with ⟨rfl, rfl⟩ | ⟨-, old⟩
    · rcases settled with ready | missing
      · cases ready
      · cases missing
    · exact ⟨other, old, settled⟩
  paths := by
    intro mediaId other place there here
    rcases Table.get_set_cases there with ⟨rfl, rfl⟩ | ⟨-, old⟩
    · exact Or.inl here
    · exact Or.inr ⟨other, old, here⟩

theorem weaken (h : KeepsMedia none db db') : KeepsMedia source db db' where
  resolved := h.resolved
  paths := by
    intro mediaId row' path found here
    rcases h.paths mediaId row' path found here with other | old
    · cases other
    · exact Or.inr old

end KeepsMedia

theorem mergeMedia_keeps {id : Uuid} {row : Media} {ingest : Library.MediaIngest}
    (found : db.media.get id = some row) (h : Library.mergeMedia db id row ingest = .ok db') :
    KeepsMedia source db db' := by
  simp only [Library.mergeMedia, bind_ok, pure_ok] at h
  obtain ⟨captioned, values, rfl⟩ := h
  obtain ⟨state, path⟩ := Library.nextCaptionSyncValues_storage values
  refine KeepsMedia.then_same ?_ (Library.enqueueCaptionSyncIfPending_enqueues _ _ _ _).media
  refine .of_setMedia found (fun settled => ?_) (fun place here => ?_)
  · exact state ▸ settled
  · exact path ▸ here

theorem resolveMedia_keeps {ingest : Library.MediaIngest} {mediaId : Uuid}
    (h : Library.resolveMedia db ingest = .ok (db', mediaId)) :
    KeepsMedia (if (Library.findMediaBySha db ingest.sha256).isNone then ingest.localWorkPath else none)
      db db' := by
  unfold Library.resolveMedia at h
  split at h
  · rename_i absent
    cases h
    rw [absent]
    exact .of_insert ingest
  · rename_i id row found
    simp only [bind_ok, pure_ok, Prod.mk.injEq] at h
    obtain ⟨merged, written, rfl, -⟩ := h
    exact mergeMedia_keeps (Library.findMediaBySha_found found) written

/-- The path of the media that an identity makes. -/
def newPath (ingest : Library.MediaIngest) :
    Library.VideoIdentityOutcome → Option (Uuid × String)
  | .newMedia _ => ingest.localWorkPath
  | _ => none

theorem persistVideoIdentity_keeps {ingest : Library.MediaIngest}
    {fingerprint : Option Library.VideoFingerprintInput} {decision : Library.VideoIdentityDecision}
    {forceSave : Bool} {outcome : Library.VideoIdentityOutcome}
    (h : Library.persistVideoIdentity db ingest fingerprint decision forceSave =
      .ok (db', outcome)) : KeepsMedia (newPath ingest outcome) db db' := by
  simp only [Library.persistVideoIdentity, bind_ok] at h
  obtain ⟨-, -, h⟩ := h
  split at h
  · rename_i id row found
    simp only [bind_ok, pure_ok, Prod.mk.injEq] at h
    obtain ⟨merged, written, rfl, -⟩ := h
    exact mergeMedia_keeps (Library.findMediaBySha_found found) written
  · simp only [bind_ok] at h
    obtain ⟨print, -, -, -, h⟩ := h
    unfold Library.persistNewVideo at h
    split at h
    · cases h
      exact .of_insert ingest
    · simp only [bind_ok] at h
      obtain ⟨-, -, h⟩ := h
      split at h
      · cases h
        exact .of_insert ingest
      · simp only [bind_ok, pure_ok, Prod.mk.injEq] at h
        obtain ⟨-, -, rfl, -⟩ := h
        exact .of_same rfl

theorem clearLocalWorkPath_keeps (db : Db) (mediaId : Uuid) (states : List MediaStorageState)
    (updatedAt : Media → Time) :
    KeepsMedia source db (Inbox.clearLocalWorkPath db mediaId states updatedAt) := by
  unfold Inbox.clearLocalWorkPath
  split
  · rename_i row found
    split
    · exact .of_setMedia found id (fun _ here => by cases here)
    · exact .of_same rfl
  · exact .of_same rfl

end Media

section Steps

/-- What a transaction other than a cleanup's does, with the one path it may
    give a media. -/
structure WorkspaceStep (source : Option (Uuid × String)) (db db' : Db) : Prop where
  rows : ∀ id, Sweep db db' id
  jobs : Cleanups db'.ingests db.jobs db'.jobs
  paths : ∀ mediaId row' path, db'.media.get mediaId = some row' → row'.localWorkPath = some path →
    source = some path ∨ ∃ row, db.media.get mediaId = some row ∧ row.localWorkPath = some path
  now : db'.now = db.now
  fresh : db.fresh ≤ db'.fresh

variable {source : Option (Uuid × String)} {db db' db'' : Db} {id : Uuid} {row row' : Ingest}

theorem Sweep.of_same (media : ∀ mediaId, Resolved db' mediaId → Resolved db mediaId)
    (same : db'.ingests.get id = db.ingests.get id) : Sweep db db' id := by
  cases found : db.ingests.get id with
  | none => exact .absent found (same.trans found)
  | some row =>
    exact .kept row row found (same.trans found) rfl
      (fun spent => Or.inl (spent.of_resolved (fun mediaId _ => media mediaId))) (fun is => is)

namespace WorkspaceStep

/-- No ingest was written. -/
theorem beside (media : KeepsMedia source db db') (ingests : db'.ingests = db.ingests)
    (jobs : Cleanups db'.ingests db.jobs db'.jobs) (now : db'.now = db.now)
    (fresh : db.fresh ≤ db'.fresh) : WorkspaceStep source db db' where
  rows := fun _ => .of_same media.resolved (by rw [ingests])
  jobs := jobs
  paths := media.paths
  now := now
  fresh := fresh

theorem refl (db : Db) : WorkspaceStep source db db :=
  .beside (.of_same rfl) rfl (.refl _ _) rfl le_rfl

/-- One ingest was written, and kept its workspace. -/
theorem of_rewrite (media : KeepsMedia source db db') (found : db.ingests.get id = some row)
    (write : Inbox.Rewrote db db' id row') (workspace : row'.workspaceId = row.workspaceId)
    (running : row'.status ≠ .cancelled)
    (due : Spent db' row' → Spent db row ∨
      ∃ job, db'.jobs.get (.cleanupWorkspace id row.workspaceId) = some job)
    (jobs : Cleanups db'.ingests db.jobs db'.jobs) : WorkspaceStep source db db' where
  rows := by
    intro other
    by_cases same : other = id
    · subst same
      exact .kept row row' found write.here workspace due (fun is => absurd is running)
    · exact .of_same media.resolved (write.others other same)
  jobs := jobs
  paths := media.paths
  now := write.now
  fresh := write.fresh

/-- The ingest goes on, with the media it had. -/
theorem of_working (media : KeepsMedia source db db') (found : db.ingests.get id = some row)
    (write : Inbox.Rewrote db db' id row') (workspace : row'.workspaceId = row.workspaceId)
    (linked : row'.mediaId = row.mediaId) (going : isFinal row'.status = false)
    (running : row'.status ≠ .cancelled) (jobs : Cleanups db'.ingests db.jobs db'.jobs) :
    WorkspaceStep source db db' := by
  refine .of_rewrite media found write workspace running (fun spent => Or.inl ?_) jobs
  unfold Spent at spent ⊢
  rw [linked, going] at spent
  cases mediaId : row.mediaId with
  | none =>
    rw [mediaId] at spent
    cases spent
  | some mediaId =>
    rw [mediaId] at spent
    exact media.resolved _ spent

/-- The ingest has a cleanup job from now on, at the latest. -/
theorem of_ended (media : KeepsMedia source db db') (found : db.ingests.get id = some row)
    (write : Inbox.Rewrote db db' id row') (workspace : row'.workspaceId = row.workspaceId)
    (running : row'.status ≠ .cancelled)
    (present : ∃ job, db'.jobs.get (.cleanupWorkspace id row.workspaceId) = some job)
    (jobs : Cleanups db'.ingests db.jobs db'.jobs) : WorkspaceStep source db db' :=
  .of_rewrite media found write workspace running (fun _ => Or.inr present) jobs

/-- Only jobs changed afterwards. -/
theorem then_jobs (first : WorkspaceStep source db db') (ingests : db''.ingests = db'.ingests)
    (media : db''.media = db'.media) (jobs : Cleanups db''.ingests db'.jobs db''.jobs)
    (now : db''.now = db'.now) (fresh : db'.fresh ≤ db''.fresh) : WorkspaceStep source db db'' where
  rows := by
    intro id
    have resolved : ∀ mediaId, Resolved db'' mediaId → Resolved db' mediaId :=
      fun mediaId ⟨row, found, state⟩ => ⟨row, media ▸ found, state⟩
    have spent : ∀ {row}, Spent db'' row → Spent db' row :=
      fun spent => spent.of_resolved (fun mediaId _ => resolved mediaId)
    cases first.rows id with
    | absent before after => exact .absent before (ingests ▸ after)
    | created row' before after drawn working running =>
      exact .created row' before (ingests ▸ after) (lt_of_lt_of_le drawn fresh)
        (fun is => working (spent is)) running
    | kept row row' before after workspace due running =>
      refine .kept row row' before (ingests ▸ after) workspace (fun is => ?_) running
      rcases due (spent is) with old | ⟨job, present⟩
      · exact Or.inl old
      · exact Or.inr ⟨job, jobs.kept present⟩
    | moved row row' before after drawn working running =>
      exact .moved row row' before (ingests ▸ after)
        ⟨drawn.1, lt_of_lt_of_le drawn.2 fresh⟩ (fun is => working (spent is)) running
  jobs := by
    have first := first.jobs
    rw [← ingests] at first
    exact first.trans jobs
  paths := fun mediaId row' path found => first.paths mediaId row' path (media ▸ found)
  now := now.trans first.now
  fresh := le_trans first.fresh fresh

theorem then_put (first : WorkspaceStep source db db') {job : Job}
    (other : isCleanupKey job.id.key = false) :
    WorkspaceStep source db { db' with jobs := db'.jobs.put job } :=
  first.then_jobs rfl rfl (.of_put other) rfl le_rfl

theorem then_enqueued (first : WorkspaceStep source db db') {kind : JobKey → Prop}
    (second : Enqueues kind db' db'') (others : ∀ key, kind key → isCleanupKey key = false) :
    WorkspaceStep source db db'' :=
  first.then_jobs second.ingests second.media (.of_others second.rows others) second.now second.fresh

/-- A media was written first. -/
theorem after_media {mid : Db} (first : Library.MediaWrite db mid) (kept : KeepsMedia source db mid)
    (second : WorkspaceStep none mid db') : WorkspaceStep source db db' where
  rows := by
    intro id
    have spent : ∀ {row}, Spent mid row → Spent db row :=
      fun spent => spent.of_resolved (fun mediaId _ => kept.resolved mediaId)
    cases second.rows id with
    | absent before after => exact .absent (first.ingests ▸ before) after
    | created row' before after drawn working running =>
      exact .created row' (first.ingests ▸ before) after drawn working running
    | kept row row' before after workspace due running =>
      exact .kept row row' (first.ingests ▸ before) after workspace
        (fun is => (due is).imp_left spent) running
    | moved row row' before after drawn working running =>
      exact .moved row row' (first.ingests ▸ before) after
        ⟨le_trans first.fresh drawn.1, drawn.2⟩ working running
  jobs := by
    refine Cleanups.trans (.of_others first.jobs ?_) second.jobs
    rintro key ⟨mediaId, generation, after, rfl⟩
    rfl
  paths := by
    intro mediaId row' path found here
    rcases second.paths mediaId row' path found here with other | ⟨row, there, old⟩
    · cases other
    · exact kept.paths mediaId row path there old
  now := second.now.trans first.now
  fresh := le_trans first.fresh second.fresh

theorem of_committed {ε α : Type} {result : Except ε (Db × α)}
    (write : ∀ db' answer, result = .ok (db', answer) → WorkspaceStep source db db') :
    WorkspaceStep source db (committed db result) := by
  rcases committed_cases db result with same | ⟨answer, ok⟩
  · rw [same]
    exact .refl db
  · exact write _ answer ok

theorem weaken (h : WorkspaceStep none db db') : WorkspaceStep source db db' where
  rows := h.rows
  jobs := h.jobs
  paths := by
    intro mediaId row' path found here
    rcases h.paths mediaId row' path found here with other | old
    · cases other
    · exact Or.inr old
  now := h.now
  fresh := h.fresh

end WorkspaceStep

end Steps

section Stages
open Inbox
variable {source : Option (Uuid × String)} {db db' mid : Db} {id : Uuid} {lease : JobLease}

theorem finishStage_step {request answer : Ingest}
    (foreign : isCleanupKey lease.jobId.key = false)
    (h : finishStage mid lease request = .ok (db', answer)) (first : WorkspaceStep source db mid) :
    WorkspaceStep source db db' := by
  simp only [finishStage, succeedCurrentJobAttempt, bind_ok, pure_ok, expect_ok, Prod.mk.injEq] at h
  obtain ⟨succeeded, ⟨job, locked, rfl⟩, rfl, -⟩ := h
  obtain ⟨found, -, -⟩ := lockCurrentJobAttempt_eq_some.mp locked
  refine first.then_put ?_
  show isCleanupKey job.id.key = false
  rw [mid.jobs.get_key found]
  exact foreign

theorem beginStage_step {skip : Ingest → Bool} {resume : IngestStatus → Option (List IngestStatus)}
    {start : StageStart}
    (working : ∀ status path, resume status = some path → isFinal (path.getLastD status) = false ∧
      path.getLastD status ≠ .cancelled)
    (h : beginStage db id lease skip resume = .ok (db', start)) : WorkspaceStep source db db' := by
  simp only [beginStage, bind_ok] at h
  obtain ⟨request, found, h⟩ := h
  split at h
  · cases h
    exact .refl db
  · split at h
    · cases h
      exact .refl db
    · cases h
      exact .refl db
    · rename_i path _ resumes
      simp only [bind_ok, pure_ok, Prod.mk.injEq] at h
      obtain ⟨moved, along, rfl, -⟩ := h
      have status := transitionAlong_ok along
      subst status
      obtain ⟨open_, running⟩ := working _ _ resumes
      exact .of_working (.of_same rfl) (loadRequest_ok found) (.of_set _ _ _) rfl rfl open_ running
        (.refl _ _)

theorem beginOf_step {command : JobCommand} {start : StageStart}
    (h : beginOf db lease command = some (.ok (db', start))) : WorkspaceStep source db db' := by
  cases command <;> simp only [beginOf, Option.some.injEq, reduceCtorEq] at h
  all_goals
    refine beginStage_step ?_ h
    intro status path resumes
    split at resumes <;> cases resumes <;> exact ⟨rfl, fun same => by cases same⟩

theorem setIngest_get (db : Db) (id : Uuid) (request : Ingest) :
    (setIngest db id request).ingests.get id = some request := Table.get_set_self _ _ _

/-- A stage that goes on inserts the job of the next one. -/
theorem advance_step {request advanced : Ingest} {stage : Stage} {command : JobCommand}
    {owned : (JobKey.stage stage id advanced.forceSave).owns command = true}
    (found : db.ingests.get id = some request)
    (workspace : advanced.workspaceId = request.workspaceId)
    (linked : advanced.mediaId = request.mediaId) (going : isFinal advanced.status = false)
    (running : advanced.status ≠ .cancelled) :
    WorkspaceStep source db
      (insertStageJob (setIngest db id advanced) id advanced stage command owned) := by
  have enqueued := insertStageJob_enqueues (setIngest db id advanced) id advanced stage command owned
  refine .of_working (.of_same enqueued.media) found ((Rewrote.of_set _ _ _).then_enqueued enqueued)
    workspace linked going running (.of_others enqueued.rows ?_)
  rintro key rfl
  rfl

/-- A stage that ends the ingest enqueues the cleanup of its workspace. -/
theorem failed_step {request failed : Ingest} {runAt : Time}
    (found : db.ingests.get id = some request)
    (workspace : failed.workspaceId = request.workspaceId) (running : failed.status ≠ .cancelled) :
    WorkspaceStep source db
      (enqueueWorkspaceCleanup (setIngest db id failed) id failed.workspaceId runAt) := by
  have enqueued := enqueueWorkspaceCleanup_enqueues (setIngest db id failed) id failed.workspaceId
    runAt
  refine .of_ended (.of_same enqueued.media) found ((Rewrote.of_set _ _ _).then_enqueued enqueued)
    workspace running ?_ ?_
  · rw [← workspace]
    exact enqueueWorkspaceCleanup_present _ _ _ _
  · exact enqueueWorkspaceCleanup_cleanups ⟨failed, setIngest_get _ _ _, rfl⟩

theorem failIngestStep_step {status : IngestStatus} {errorCode errorMessage : String}
    {guard : IngestFailureGuard} {answer : Ingest}
    (h : failIngestStep db id status errorCode errorMessage guard = .ok (db', answer)) :
    WorkspaceStep source db db' := by
  simp only [failIngestStep, bind_ok, require_ok] at h
  obtain ⟨-, allowed, request, found, h⟩ := h
  split at h
  · cases h
    exact .refl db
  · simp only [bind_ok, pure_ok, Prod.mk.injEq] at h
    obtain ⟨moved, along, rfl, -⟩ := h
    have row := transitionTo_ok along
    subst row
    split
    · rename_i terminal
      exact failed_step (loadRequest_ok found) rfl (by simp [terminal])
    · rename_i retryable
      have status : status = .failedRetryable := by simpa [retryable] using allowed
      subst status
      exact .of_working (.of_same rfl) (loadRequest_ok found) (.of_set _ _ _) rfl rfl rfl
        (fun same => by cases same)
        (.refl _ _)

theorem failOf_step {command : JobCommand} {failure : HandlerFailure} {answer : Ingest}
    (h : failOf db lease failure command = some (.ok (db', answer))) :
    WorkspaceStep source db db' := by
  cases command <;> simp only [failOf, Option.some.injEq, reduceCtorEq] at h <;>
    exact failIngestStep_step h

theorem completeSourceInspection_step {inspection : SourceInspection} {answer : Ingest}
    (foreign : isCleanupKey lease.jobId.key = false)
    (h : completeSourceInspection db id lease inspection = .ok (db', answer)) :
    WorkspaceStep source db db' := by
  simp only [completeSourceInspection, bind_ok] at h
  obtain ⟨request, found, h⟩ := h
  split at h
  · cases h
    exact .refl db
  · simp only [bind_ok] at h
    obtain ⟨moved, along, h⟩ := h
    have row := transitionTo_ok along
    subst row
    exact finishStage_step foreign h
      (advance_step (loadRequest_ok found) rfl rfl rfl (fun same => by cases same))

theorem completeSourceDownload_step {download : SourceDownload} {answer : Ingest}
    (foreign : isCleanupKey lease.jobId.key = false)
    (h : completeSourceDownload db id lease download = .ok (db', answer)) :
    WorkspaceStep source db db' := by
  simp only [completeSourceDownload, bind_ok] at h
  obtain ⟨request, found, h⟩ := h
  split at h
  · cases h
    exact .refl db
  · rename_i going
    simp only [Bool.or_eq_true, decide_eq_true_eq, not_or, not_not] at going
    obtain ⟨⟨active, -⟩, -⟩ := going
    refine finishStage_step foreign h (advance_step (loadRequest_ok found) rfl rfl ?_ ?_)
    · simp [active, isFinal]
    · simp [active]

theorem completeAssetProbe_step {probe : IngestProbe} {answer : Ingest}
    (foreign : isCleanupKey lease.jobId.key = false)
    (h : completeAssetProbe db id lease probe = .ok (db', answer)) :
    WorkspaceStep source db db' := by
  simp only [completeAssetProbe, bind_ok] at h
  obtain ⟨request, found, h⟩ := h
  split at h
  · cases h
    exact .refl db
  · split at h
    all_goals
      simp only [bind_ok] at h
      obtain ⟨moved, along, h⟩ := h
      have row := transitionTo_ok along
      subst row
    · exact finishStage_step foreign h
        (failed_step (loadRequest_ok found) rfl (fun same => by cases same))
    · exact finishStage_step foreign h
        (advance_step (loadRequest_ok found) rfl rfl rfl (fun same => by cases same))

theorem completeAssetNormalization_step {normalization : AssetNormalization} {answer : Ingest}
    (foreign : isCleanupKey lease.jobId.key = false)
    (h : completeAssetNormalization db id lease normalization = .ok (db', answer)) :
    WorkspaceStep source db db' := by
  simp only [completeAssetNormalization, bind_ok] at h
  obtain ⟨request, found, h⟩ := h
  split at h
  · cases h
    exact .refl db
  · simp only [bind_ok] at h
    obtain ⟨moved, along, h⟩ := h
    have row := transitionTo_ok along
    subst row
    refine finishStage_step foreign h ?_
    unfold insertAfterNormalization
    split
    · refine advance_step (loadRequest_ok found) rfl rfl ?_ ?_ <;> simp [clearErrors, isFinal]
    · refine advance_step (loadRequest_ok found) rfl rfl ?_ ?_ <;> simp [clearErrors, isFinal]

/-- An ingest that is over enqueues its cleanup before it is written. -/
theorem ended_step {kind : JobKey → Prop} {row request' : Ingest} {place : Uuid} {runAt : Time}
    (first : Enqueues kind db mid) (others : ∀ key, kind key → isCleanupKey key = false)
    (found : db.ingests.get id = some row) (here : place = row.workspaceId)
    (workspace : request'.workspaceId = row.workspaceId) (running : request'.status ≠ .cancelled) :
    WorkspaceStep source db (setIngest (enqueueWorkspaceCleanup mid id place runAt) id request') := by
  subst here
  have second := enqueueWorkspaceCleanup_enqueues mid id row.workspaceId runAt
  have both : Enqueues (fun _ => True) db (enqueueWorkspaceCleanup mid id row.workspaceId runAt) :=
    (first.weaken (fun _ _ => trivial)).trans (second.weaken (fun _ _ => trivial))
  refine .of_ended (.of_same both.media) found (.after_enqueued both) workspace running ?_ ?_
  · exact enqueueWorkspaceCleanup_present _ _ _ _
  · exact Cleanups.trans (.of_others first.rows others)
      (enqueueWorkspaceCleanup_cleanups ⟨request', setIngest_get _ _ _, workspace⟩)

theorem advanceAfterMediaProcessing_step {row request request' : Ingest} {mediaId : Uuid}
    (found : db.ingests.get id = some row)
    (h : advanceAfterMediaProcessing db id request mediaId = .ok (db', request'))
    (workspace : request.workspaceId = row.workspaceId) :
    WorkspaceStep source db db' := by
  simp only [advanceAfterMediaProcessing, bind_ok, expect_ok] at h
  obtain ⟨media, present, h⟩ := h
  split at h
  · simp only [bind_ok, pure_ok, Prod.mk.injEq] at h
    obtain ⟨moved, along, rfl, -⟩ := h
    have moves := transitionTo_ok along
    subst moves
    have enqueued : Enqueues (· = .materializePublication id) db
        (if request.requestedAction ≠ .save then insertMaterializationJob db id else db) := by
      split
      · exact .of_enqueue rfl
      · exact .refl _ _
    refine ended_step enqueued ?_ found workspace workspace (fun same => by cases same)
    rintro key rfl
    rfl
  · rename_i pending
    simp only [bind_ok, pure_ok, Prod.mk.injEq] at h
    obtain ⟨moved, along, rfl, -⟩ := h
    have moves := transitionTo_ok along
    subst moves
    -- A pending media is not settled, whichever the ingest had before.
    have enqueued : Enqueues (fun key => isCleanupKey key = false) db (insertStorageJob db mediaId) := by
      unfold insertStorageJob
      split
      · exact .refl _ _
      · exact .of_enqueue rfl
    refine .of_rewrite (.of_same enqueued.media) found (.after_enqueued enqueued) workspace
      (fun same => by cases same) ?_ (.of_others enqueued.rows (fun _ other => other))
    rintro ⟨settled, there, state⟩
    have same : (insertStorageJob db mediaId).media = db.media := enqueued.media
    have there : db.media.get mediaId = some settled := same ▸ there
    rw [present] at there
    cases there
    simp [pending] at state
  all_goals
    simp only [bind_ok, pure_ok, Prod.mk.injEq] at h
    obtain ⟨moved, along, rfl, -⟩ := h
    have moves := transitionTo_ok along
    subst moves
    exact ended_step (.refl (fun _ => False) db) (fun _ none => none.elim) found workspace
      workspace (fun same => by cases same)

theorem pendDuplicate_step {row request request' : Ingest}
    {evidence : Library.VideoDuplicateEvidence} (found : db.ingests.get id = some row)
    (workspace : request.workspaceId = row.workspaceId)
    (h : pendDuplicate db id request evidence = .ok (db', request')) :
    WorkspaceStep source db db' := by
  simp only [pendDuplicate, bind_ok, pure_ok, Prod.mk.injEq] at h
  obtain ⟨-, -, -, -, moved, along, rfl, -⟩ := h
  have moves := transitionTo_ok along
  subst moves
  exact ended_step (.refl (fun _ => False) db) (fun _ none => none.elim) found workspace workspace
    (fun same => by cases same)

theorem completeIngestFinalization_step {mediaId : Uuid} {answer : Ingest}
    (foreign : isCleanupKey lease.jobId.key = false)
    (h : completeIngestFinalization db id lease mediaId = .ok (db', answer)) :
    WorkspaceStep source db db' := by
  simp only [completeIngestFinalization, bind_ok] at h
  obtain ⟨request, found, h⟩ := h
  split at h
  · cases h
    exact .refl db
  · simp only [bind_ok] at h
    obtain ⟨-, -, ⟨advancedDb, advanced⟩, processed, h⟩ := h
    refine finishStage_step foreign h ?_
    exact advanceAfterMediaProcessing_step (loadRequest_ok found) processed rfl

/-- `complete_video_identity` makes a media. -/
def makesVideo (db : Db) (id : Uuid) (lease : JobLease) (ingest : Library.MediaIngest)
    (fingerprint : Option Library.VideoFingerprintInput)
    (decision : Library.VideoIdentityDecision) : Bool :=
  isCurrent db lease && (db.ingests.get id).any (fun request =>
    request.status == .fingerprinting &&
      match Library.persistVideoIdentity db ingest fingerprint decision request.forceSave with
      | .ok (_, .newMedia _) => true
      | _ => false)

theorem completeVideoIdentity_makes {ingest : Library.MediaIngest}
    {fingerprint : Option Library.VideoFingerprintInput}
    {decision : Library.VideoIdentityDecision} {answer : Ingest}
    (foreign : isCleanupKey lease.jobId.key = false)
    (h : completeVideoIdentity db id lease ingest fingerprint decision = .ok (db', answer)) :
    WorkspaceStep (if makesVideo db id lease ingest fingerprint decision then ingest.localWorkPath
      else none) db db' := by
  simp only [completeVideoIdentity, bind_ok] at h
  obtain ⟨request, found, h⟩ := h
  split at h
  · cases h
    exact .refl db
  · rename_i going
    simp only [Bool.or_eq_true, decide_eq_true_eq, Bool.not_eq_true', not_or, not_not,
      Bool.not_eq_false] at going
    simp only [bind_ok] at h
    obtain ⟨⟨identified, outcome⟩, persisted, ⟨advancedDb, advanced⟩, applied, h⟩ := h
    have persisted := liftLibrary_ok persisted
    obtain ⟨media, -⟩ := Library.persistVideoIdentity_write persisted
    have row : identified.ingests.get id = some request :=
      media.ingests ▸ loadRequest_ok found
    have kept := persistVideoIdentity_keeps persisted
    refine finishStage_step foreign h ?_
    cases outcome with
    | duplicatePending evidence => exact .after_media media kept.weaken (pendDuplicate_step row rfl applied)
    | exactDuplicate mediaId =>
      exact .after_media media kept.weaken (advanceAfterMediaProcessing_step row applied rfl)
    | newMedia mediaId =>
      have makes : makesVideo db id lease ingest fingerprint decision = true := by
        unfold makesVideo
        rw [going.2, loadRequest_ok found, Option.any_some, going.1, persisted]
        rfl
      rw [if_pos makes]
      exact .after_media media kept (advanceAfterMediaProcessing_step row applied rfl)

theorem completeVideoIdentity_step {ingest : Library.MediaIngest}
    {fingerprint : Option Library.VideoFingerprintInput}
    {decision : Library.VideoIdentityDecision} {answer : Ingest}
    (foreign : isCleanupKey lease.jobId.key = false)
    (h : completeVideoIdentity db id lease ingest fingerprint decision = .ok (db', answer)) :
    WorkspaceStep ingest.localWorkPath db db' := by
  have makes := completeVideoIdentity_makes foreign h
  split at makes
  · exact makes
  · exact makes.weaken

/-- The path a completed stage may give to a media. -/
def givenPath : StageResult → Option (Uuid × String)
  | .identified ingest _ _ => ingest.localWorkPath
  | _ => none

theorem completeOf_step {command : JobCommand} {result : StageResult} {answer : Ingest}
    (foreign : isCleanupKey lease.jobId.key = false)
    (h : completeOf db lease command result = some (.ok (db', answer))) :
    WorkspaceStep (givenPath result) db db' := by
  unfold completeOf at h
  split at h <;> simp only [Option.some.injEq, reduceCtorEq] at h
  · exact completeSourceInspection_step foreign h
  · exact completeSourceDownload_step foreign h
  · exact completeAssetProbe_step foreign h
  · exact completeAssetNormalization_step foreign h
  · exact completeVideoIdentity_step foreign h
  · exact completeIngestFinalization_step foreign h

end Stages

section Decisions
open Inbox
variable {source : Option (Uuid × String)} {db db' : Db} {id : Uuid}

theorem createIngest_step {submission : IngestSubmission} {result : CreateIngestResult}
    (drawn : ∀ id row, db.ingests.get id = some row → id < db.fresh)
    (named : ∀ place, submission.telegramWorkspaceId = some place → place < db.fresh)
    (h : createIngest db submission = .ok (db', result)) : WorkspaceStep source db db' := by
  have media : db'.media = db.media := by
    unfold createIngest at h
    split at h
    · simp only [bind_ok, pure_ok, Prod.mk.injEq] at h
      obtain ⟨-, -, rfl, -⟩ := h
      rfl
    · simp only [bind_ok, pure_ok, Prod.mk.injEq] at h
      obtain ⟨-, -, channelId, -, rfl, -⟩ := h
      exact (insertFirstJob_enqueues _ _ _).media
  rcases createIngest_ok h with rfl | ⟨request, created⟩
  · exact .refl _
  · have absent : db.ingests.get db.fresh = none := by
      cases found : db.ingests.get db.fresh with
      | none => rfl
      | some row => exact absurd (drawn _ _ found) (lt_irrefl _)
    have kept : KeepsMedia source db db' := .of_same media
    refine ⟨fun other => ?_, .of_others created.added ?_, kept.paths, created.write.now,
      created.write.fresh⟩
    · by_cases same : other = db.fresh
      · subst same
        refine .created request absent created.write.here ?_ ?_ ?_
        · rw [created.workspace]
          cases uploaded : submission.telegramWorkspaceId with
          | none => exact created.drawn
          | some place => exact lt_trans (named place uploaded) created.drawn
        · exact not_spent_of_status created.media (by simp [created.status, isFinal])
        · simp [created.status]
      · exact .of_same kept.resolved (created.write.others other same)
    · rintro key rfl
      rfl

theorem forceSave_step {result : ForceSaveResult}
    (unlinked : ∀ row, db.ingests.get id = some row → row.status = .duplicatePending →
      row.mediaId = none)
    (h : forceSave db id = .ok (db', result)) : WorkspaceStep source db db' := by
  have media : db'.media = db.media := by
    simp only [forceSave, bind_ok] at h
    obtain ⟨request, -, h⟩ := h
    split at h
    · simp only [bind_ok, pure_ok, Prod.mk.injEq] at h
      obtain ⟨resumed, -, rfl, -⟩ := h
      exact (insertFirstJob_enqueues _ _ _).media
    · simp only [bind_ok, pure_ok, Prod.mk.injEq] at h
      obtain ⟨-, -, rfl, -⟩ := h
      rfl
  rcases forceSave_ok h with ⟨rfl, -⟩ | ⟨request, request', resumed⟩
  · exact .refl _
  · have kept : KeepsMedia source db db' := .of_same media
    refine ⟨fun other => ?_, .of_others resumed.added ?_, kept.paths, resumed.write.now,
      resumed.write.fresh⟩
    · by_cases same : other = id
      · subst same
        have unlinked := unlinked request resumed.found resumed.pending
        refine .moved request request' resumed.found resumed.write.here ?_ ?_ ?_
        · rw [resumed.workspace]
          exact ⟨le_rfl, resumed.drawn⟩
        · exact not_spent_of_status (resumed.media.trans unlinked) (by simp [resumed.status, isFinal])
        · simp [resumed.status]
      · exact .of_same kept.resolved (resumed.write.others other same)
    · rintro key rfl
      rfl

/-- A pending duplicate had its cleanup enqueued when it was found. -/
theorem acceptDuplicate_step {mediaId : Uuid} {result : AcceptDuplicateResult}
    (unlinked : ∀ row, db.ingests.get id = some row → row.status = .duplicatePending →
      row.mediaId = none)
    (h : acceptDuplicate db id mediaId = .ok (db', result)) : WorkspaceStep source db db' := by
  simp only [acceptDuplicate, bind_ok] at h
  obtain ⟨request, found, h⟩ := h
  have found := loadRequest_ok found
  split at h
  · simp only [bind_ok, pure_ok, Prod.mk.injEq] at h
    obtain ⟨-, -, rfl, -⟩ := h
    exact .refl db
  · simp only [bind_ok, pure_ok, Prod.mk.injEq] at h
    obtain ⟨⟨decided, accepted⟩, decision, rfl, -⟩ := h
    have effect := decideDuplicate_ok found decision
    simp only [decideDuplicate, bind_ok, pure_ok, expect_ok, Prod.mk.injEq] at decision
    obtain ⟨-, -, evidence, -, -, -, candidate, present, -, -, row, -, rfl, rfl⟩ := decision
    have merged : KeepsMedia source db
        (setMedia db mediaId (mergedDuplicate db.now request candidate)) :=
      .of_setMedia present (fun settled => settled) (fun _ path => path)
    have enqueued : Enqueues (· = .materializePublication id)
        (setMedia db mediaId (mergedDuplicate db.now request candidate))
        (if (candidate.storageState == .ready && request.requestedAction != .save) = true then
          insertMaterializationJob
            (setMedia db mediaId (mergedDuplicate db.now request candidate)) id
        else setMedia db mediaId (mergedDuplicate db.now request candidate)) := by
      split
      · exact .of_enqueue rfl
      · exact .refl _ _
    refine .of_rewrite (merged.then_same enqueued.media) found effect.write effect.same.workspaceId ?_
      (fun _ => Or.inl ?_) (.of_others enqueued.rows ?_)
    · intro cancelled
      have status := effect.linked.status
      simp [cancelled] at status
    · simp [Spent, unlinked request found effect.pending, effect.pending, isFinal]
    · rintro key rfl
      rfl

end Decisions

section Settlement
open Inbox
variable {source : Option (Uuid × String)} {db db' : Db} {id : Uuid}

/-- A row under a cleanup key has a cleanup command. -/
theorem command_of_cleanupKey {job : Job} {id workspaceId : Uuid}
    (key : job.id.key = .cleanupWorkspace id workspaceId) :
    job.command = .cleanupWorkspace id workspaceId := by
  have owned := job.owned
  rw [key] at owned
  cases command : job.command <;> rw [command] at owned <;> simp [JobKey.owns] at owned
  obtain ⟨rfl, rfl⟩ := owned
  rfl

theorem not_cleanup_of_command {job : Job}
    (other : ∀ id workspaceId, job.command ≠ .cleanupWorkspace id workspaceId) :
    isCleanupKey job.id.key = false := by
  cases key : job.id.key with
  | cleanupWorkspace id workspaceId => exact absurd (command_of_cleanupKey key) (other _ _)
  | _ => rfl

theorem abandonIngest_step (running : ∀ row, db.ingests.get id = some row → row.status ≠ .cancelled) :
    WorkspaceStep source db (abandonIngest db id) := by
  unfold abandonIngest
  split
  · exact .refl db
  · rename_i request found
    have same : (abandonedIngest db.now request).workspaceId = request.workspaceId := by
      unfold abandonedIngest
      split <;> rfl
    rw [← same]
    refine failed_step found same ?_
    unfold abandonedIngest
    split
    · exact running request found
    · nofun

theorem settleStage_step {job : Job} {update : QueueUpdate}
    (running : ∀ row, db.ingests.get id = some row → row.status ≠ .cancelled)
    (foreign : isCleanupKey job.id.key = false) :
    WorkspaceStep source db (settleStage db job id update) := by
  have abandoned : WorkspaceStep source db (if update.terminal then abandonIngest db id else db) := by
    split
    · exact abandonIngest_step running
    · exact .refl db
  have other : isCleanupKey (job.settled db.now update).id.key = false := foreign
  exact abandoned.then_put other

variable (running : ∀ id row, db.ingests.get id = some row → row.status ≠ .cancelled)
include running

theorem settleJob_step {lease : JobLease} {expected : JobCommand} {settlement : JobSettlement}
    {answer : Job} (h : settleJob db lease expected settlement = .ok (db', answer)) :
    WorkspaceStep source db db' := by
  simp only [settleJob, bind_ok, expect_ok, pure_ok, Prod.mk.injEq] at h
  obtain ⟨-, -, job, -, command, valid, id, ingest, rfl, -⟩ := h
  rw [(validateLockedCommand_ok valid).1] at ingest
  refine settleStage_step (running id) (not_cleanup_of_command (fun id workspaceId is => ?_))
  rw [is] at ingest
  cases ingest

theorem recoverJob_step {jobId : JobId} {expected : JobCommand} {answer : Bool}
    (h : recoverJob db jobId expected = .ok (db', answer)) : WorkspaceStep source db db' := by
  simp only [recoverJob, bind_ok] at h
  obtain ⟨-, -, h⟩ := h
  split at h
  · cases h
    exact .refl db
  · simp only [bind_ok, expect_ok, pure_ok, Prod.mk.injEq] at h
    obtain ⟨command, valid, id, ingest, rfl, -⟩ := h
    rw [(validateLockedCommand_ok valid).1] at ingest
    refine settleStage_step (running id) (not_cleanup_of_command (fun id workspaceId is => ?_))
    rw [is] at ingest
    cases ingest

end Settlement

section Publications
variable {calendar : Publisher.Calendar} {source : Option (Uuid × String)} {db db' : Db}

theorem insertPublishJob_media {postId : Uuid} {runAt : Time} {revision : Nat}
    (h : Publisher.insertPublishJob db postId runAt revision = .ok db') : db'.media = db.media := by
  have inserted : ∀ {failed : Bool},
      Publisher.insertPublishJobRow db postId runAt revision failed = .ok db' →
      db'.media = db.media := by
    intro failed row
    unfold Publisher.insertPublishJobRow at row
    split at row <;> cases row
    rfl
  unfold Publisher.insertPublishJob at h
  split at h
  · split at h
    · cases h
    · unfold Publisher.updatePublishJob at h
      split at h
      · exact inserted h
      · split at h <;> cases h <;> rfl
  · exact inserted h

theorem insertIntendedPost_media {key : String} {hash : Digest} {origin : Option Uuid}
    {mediaId channelId : Uuid} {channel : Channel} {intent : PublicationIntent}
    {result : Publisher.CreatePostResult}
    (h : Publisher.insertIntendedPost calendar db key hash origin mediaId channelId channel intent =
      .ok (db', result)) : db'.media = db.media := by
  simp only [Publisher.insertIntendedPost, bind_ok] at h
  obtain ⟨evaluationAt, -, ⟨written, id⟩, inserted, h⟩ := h
  obtain ⟨rfl, rfl⟩ := Publisher.insertPost_ok inserted
  split at h
  · simp only [bind_ok, pure_ok, Prod.mk.injEq] at h
    obtain ⟨final, job, rfl, -⟩ := h
    have media := insertPublishJob_media job
    exact media
  · cases h
    rfl

theorem beside_step (beside : Inbox.Beside db db') (media : db'.media = db.media) :
    WorkspaceStep source db db' := by
  refine .beside (.of_same media) beside.ingests (fun id workspaceId => Or.inl ?_) beside.now
    beside.fresh
  exact beside.jobs _ (fun _ => nofun)

theorem createPublicationIntent_step {mediaId : Uuid} {intent : PublicationIntent} {key : String}
    {result : Publisher.CreatePostResult}
    (h : Publisher.createPublicationIntent calendar db mediaId intent key = .ok (db', result)) :
    WorkspaceStep source db db' := by
  refine beside_step (Inbox.createPublicationIntent_beside h) ?_
  simp only [Publisher.createPublicationIntent, bind_ok] at h
  obtain ⟨requestKey, -, h⟩ := h
  split at h
  · simp only [bind_ok, pure_ok, Prod.mk.injEq] at h
    obtain ⟨-, -, rfl, -⟩ := h
    rfl
  · simp only [bind_ok] at h
    obtain ⟨-, -, channelId, -, channel, -, placed⟩ := h
    exact insertIntendedPost_media placed

theorem materializeIngest_step {ingestId : Uuid} {result : Option Publisher.CreatePostResult}
    (h : Publisher.materializeIngest calendar db ingestId = .ok (db', result)) :
    WorkspaceStep source db db' := by
  refine beside_step (Inbox.materializeIngest_ok h).1 ?_
  simp only [Publisher.materializeIngest, bind_ok, expect_ok] at h
  obtain ⟨ingest, -, h⟩ := h
  split at h
  · cases h
    rfl
  · simp only [bind_ok] at h
    obtain ⟨-, -, h⟩ := h
    split at h
    · cases h
      rfl
    · simp only [bind_ok, pure_ok, Prod.mk.injEq] at h
      obtain ⟨mediaId, -, _, -, channelId, -, channel, -, _, -, intent, -, ⟨written, inserted⟩,
        placed, rfl, -⟩ := h
      exact insertIntendedPost_media placed

end Publications

section Storage
open Inbox Library
variable {db mid db' : Db} {mediaId : Uuid}

/-- A storage transaction that settles no storage and starts no cleanup. -/
theorem quiet_step (write : StorageWrite db db') (media : KeepsMedia none db db')
    (jobs : Cleanups db'.ingests db.jobs db'.jobs) : WorkspaceStep none db db' where
  rows := by
    intro id
    rcases write.ingests id with same | ⟨row, row', before, after, relinked⟩
    · exact .of_same media.resolved same
    · refine .kept row row' before after relinked.same.workspaceId (fun spent => Or.inl ?_) ?_
      · have linked := relinked.linked.media
        unfold Spent at spent ⊢
        rw [relinked.media] at spent linked
        cases mediaId : row.mediaId with
        | none => simp [mediaId] at linked
        | some mediaId =>
          rw [mediaId] at spent
          exact media.resolved _ spent
      · intro cancelled
        have status := relinked.linked.status
        simp [cancelled] at status
  jobs := jobs
  paths := media.paths
  now := write.now
  fresh := write.fresh

/-- A storage transaction that may settle the storage of one media starts the
    cleanups of its ingests. -/
theorem settled_step {runAt : Time} (write : StorageWrite db mid)
    (running : ∀ id row, db.ingests.get id = some row → row.status ≠ .cancelled)
    (others : ∀ other, other ≠ mediaId → Resolved mid other → Resolved db other)
    (paths : ∀ other row' path, mid.media.get other = some row' → row'.localWorkPath = some path →
      ∃ row, db.media.get other = some row ∧ row.localWorkPath = some path)
    (jobs : Cleanups mid.ingests db.jobs mid.jobs) :
    WorkspaceStep none db (enqueueWorkspaceCleanupForMedia mid mediaId runAt) := by
  have enqueued := enqueueWorkspaceCleanupForMedia_enqueues mid mediaId runAt
  obtain ⟨cleanups, present⟩ := enqueueWorkspaceCleanupForMedia_cleanups mid mediaId runAt
  have resolved : ∀ other, Resolved (enqueueWorkspaceCleanupForMedia mid mediaId runAt) other →
      Resolved mid other := fun other ⟨row, found, state⟩ => ⟨row, enqueued.media ▸ found, state⟩
  refine ⟨fun id => ?_, ?_, fun other row' path found here => Or.inr ?_,
    enqueued.now.trans write.now, le_trans write.fresh enqueued.fresh⟩
  · -- The linked ingests have their job now; the others kept what they had.
    have due : ∀ {row row'}, mid.ingests.get id = some row' → row'.workspaceId = row.workspaceId →
        row'.mediaId = row.mediaId → row'.status ≠ .cancelled →
        (row'.mediaId = none → isFinal row'.status = true → isFinal row.status = true) →
        Spent (enqueueWorkspaceCleanupForMedia mid mediaId runAt) row' → Spent db row ∨
          ∃ job, (enqueueWorkspaceCleanupForMedia mid mediaId runAt).jobs.get
            (.cleanupWorkspace id row.workspaceId) = some job := by
      intro row row' after workspace media uncancelled unlinked spent
      by_cases here : row'.mediaId = some mediaId
      · rw [← workspace]
        exact Or.inr (present id row' after here uncancelled)
      · refine Or.inl ?_
        unfold Spent at spent ⊢
        rw [← media]
        cases link : row'.mediaId with
        | none =>
          rw [link] at spent
          exact unlinked link spent
        | some other =>
          rw [link] at spent here
          exact others other (fun same => here (same ▸ rfl)) (resolved other spent)
    rcases write.ingests id with same | ⟨row, row', before, after, relinked⟩
    · cases found : db.ingests.get id with
      | none => exact .absent found (enqueued.ingests ▸ same.trans found)
      | some row =>
        exact .kept row row found (enqueued.ingests ▸ same.trans found) rfl
          (due (same.trans found) rfl rfl (running id row found) (fun _ is => is)) (fun is => is)
    · have uncancelled : row'.status ≠ .cancelled := by
        intro cancelled
        have status := relinked.linked.status
        simp [cancelled] at status
      refine .kept row row' before (enqueued.ingests ▸ after) relinked.same.workspaceId
        (due after relinked.same.workspaceId relinked.media uncancelled ?_)
        (fun is => absurd is uncancelled)
      intro unlinked
      have linked := relinked.linked.media
      simp [unlinked] at linked
  · rw [enqueued.ingests]
    exact jobs.trans cleanups
  · exact paths other row' path (enqueued.media ▸ found) here

theorem materialization_not_cleanup {ids : List Uuid} (key : JobKey)
    (h : IsMaterialization ids key) : isCleanupKey key = false := by
  obtain ⟨id, -, rfl⟩ := h
  rfl

theorem caption_not_cleanup (key : JobKey) (h : IsCaption key) : isCleanupKey key = false := by
  obtain ⟨mediaId, generation, after, rfl⟩ := h
  rfl

theorem upload_not_cleanup {key : JobKey} (h : IsUpload key) : isCleanupKey key = false := by
  obtain ⟨mediaId, generation, rfl⟩ := h
  rfl

theorem settleQueuedStorageUploadJobs_cleanups (ingests : Table Uuid Ingest) (db : Db)
    (mediaId : Uuid) :
    Cleanups ingests db.jobs (settleQueuedStorageUploadJobs db mediaId).jobs := by
  intro id workspaceId
  refine Or.inl ?_
  simp only [settleQueuedStorageUploadJobs, Jobs.get_updateAll]
  cases found : db.jobs.get (.cleanupWorkspace id workspaceId) with
  | none => rfl
  | some job =>
    have command := command_of_cleanupKey (db.jobs.get_key found)
    simp [unknownUploadJob, command]

theorem captionSyncValues_storage {id : Uuid} {row stored : Media}
    {metadata : Option StorageCaptionMetadata}
    (h : captionSyncValuesAfterStorageUpload id row metadata = .ok stored) :
    stored.localWorkPath = row.localWorkPath := by
  unfold captionSyncValuesAfterStorageUpload at h
  split at h
  · cases h
    rfl
  · exact (Library.nextCaptionSyncValues_storage h).2

/-- A row without a path was written; the others kept theirs. -/
theorem paths_of_cleared {row : Media} (cleared : row.localWorkPath = none)
    (media : mid.media = db.media.set mediaId row) {other : Uuid} {row' : Media}
    {path : Uuid × String} (found : mid.media.get other = some row')
    (here : row'.localWorkPath = some path) :
    ∃ row, db.media.get other = some row ∧ row.localWorkPath = some path := by
  rw [media] at found
  rcases Table.get_set_cases found with ⟨rfl, rfl⟩ | ⟨-, old⟩
  · rw [cleared] at here
    cases here
  · exact ⟨row', old, here⟩

theorem resolved_of_other {row : Media} (media : mid.media = db.media.set mediaId row) {other : Uuid}
    (ne : other ≠ mediaId) (h : Resolved mid other) : Resolved db other := by
  obtain ⟨row', found, state⟩ := h
  rw [media, Table.get_set_ne _ _ ne] at found
  exact ⟨row', found, state⟩

section Settling
variable (running : ∀ id row, db.ingests.get id = some row → row.status ≠ .cancelled)
include running

theorem storeMedia_step {attachment : StorageUploadAttachment} {row : Media}
    {receipt : Except Library.Error StorageReceipt}
    (h : storeMedia db mediaId attachment row = .ok (db', receipt)) : WorkspaceStep none db db' := by
  simp only [storeMedia, bind_ok, pure_ok, Prod.mk.injEq] at h
  obtain ⟨ready, isReady, stored, values, rfl, -⟩ := h
  have cleared : stored.localWorkPath = none := by
    simp only [readyMedia, bind_ok, pure_ok] at isReady
    obtain ⟨-, -, rfl⟩ := isReady
    exact captionSyncValues_storage values
  have captioned := enqueueCaptionSyncIfPending_enqueues (setMedia db mediaId stored) mediaId stored
    true
  have materialized := insertMaterializationJobs_enqueues
    (updateLinked (enqueueCaptionSyncIfPending (setMedia db mediaId stored) mediaId stored true)
      mediaId completable (completedIngest (enqueueCaptionSyncIfPending (setMedia db mediaId stored)
        mediaId stored true).now))
    (linkedPublications (enqueueCaptionSyncIfPending (setMedia db mediaId stored) mediaId stored true)
      mediaId completable)
  have media : (completeLinkedIngestsForStorage (enqueueCaptionSyncIfPending
      (setMedia db mediaId stored) mediaId stored true) mediaId).media =
      db.media.set mediaId stored := materialized.media.trans captioned.media
  have write : StorageWrite db (completeLinkedIngestsForStorage (enqueueCaptionSyncIfPending
      (setMedia db mediaId stored) mediaId stored true) mediaId) :=
    ((StorageWrite.of_setMedia _ _ _).trans
      (.of_enqueues captioned (fun _ => isFollowUp_of_caption))).trans
      (completeLinkedIngestsForStorage_write _ _)
  refine settled_step write running (fun other ne => resolved_of_other media ne)
    (fun other row' path => paths_of_cleared cleared media) ?_
  exact Cleanups.trans (.of_others captioned.rows caption_not_cleanup)
    (.of_others materialized.rows materialization_not_cleanup)

theorem completeStorageForMedia_step : WorkspaceStep none db (completeStorageForMedia db mediaId) := by
  unfold completeStorageForMedia
  extract_lets ready affected completed
  have materialized : Enqueues (IsMaterialization (linkedPublications db mediaId affected))
      (updateLinked db mediaId affected (completedIngest db.now)) completed :=
    insertMaterializationJobs_enqueues _ _
  have cleared : KeepsMedia none completed
      (clearLocalWorkPath completed mediaId [.ready] (·.updatedAt)) :=
    clearLocalWorkPath_keeps _ _ _ _
  have same : (clearLocalWorkPath completed mediaId [.ready] (·.updatedAt)).jobs = completed.jobs := by
    unfold clearLocalWorkPath
    split
    · split <;> rfl
    · rfl
  have write : StorageWrite db (clearLocalWorkPath completed mediaId [.ready] (·.updatedAt)) :=
    ((updateLinked_write (fun _ media _ => completedIngest_relinked _ media)).trans
      (.of_enqueues materialized (fun _ => isFollowUp_of_materialization))).trans
      (clearLocalWorkPath_write _ _ _ _)
  have media : completed.media = db.media := materialized.media
  refine settled_step write running (fun other _ resolved => ?_) (fun other row' path found here => ?_)
    ?_
  · obtain ⟨row, found, state⟩ := cleared.resolved other resolved
    exact ⟨row, media ▸ found, state⟩
  · rcases cleared.paths other row' path found here with source | ⟨row, old, there⟩
    · cases source
    · exact ⟨row, media ▸ old, there⟩
  · rw [same]
    exact .of_others materialized.rows materialization_not_cleanup

theorem failStorageForMedia_step {status : IngestStatus} {errorMessage : String} {answer : Unit}
    (h : failStorageForMedia db mediaId status "storage_upload" errorMessage = .ok (db', answer)) :
    WorkspaceStep none db db' := by
  simp only [failStorageForMedia, bind_ok, pure_ok, require_ok, Prod.mk.injEq] at h
  obtain ⟨-, allowed, rfl, -⟩ := h
  have failed := @failedStorage_write db mediaId status errorMessage allowed
  have quiet := quiet_step failed (.of_same rfl) (.refl _ _)
  split
  · unfold missStorage
    split
    · rename_i row found
      split
      · -- The path stays with the missing media until a cleanup takes it.
        refine settled_step (failed.trans (.of_setMedia _ _ _)) running
          (fun other ne => resolved_of_other rfl ne) (fun other row' path there here => ?_)
          (.refl _ _)
        rcases Table.get_set_cases there with ⟨rfl, rfl⟩ | ⟨-, old⟩
        · exact ⟨row, found, here⟩
        · exact ⟨row', old, here⟩
      · exact quiet
    · exact quiet
  · exact quiet

end Settling

theorem markUnknown_step {row : Media} (found : db.media.get mediaId = some row) :
    WorkspaceStep none db (markUnknown db mediaId row) := by
  have unknown : KeepsMedia none db (setMedia db mediaId (clearedReservation db.now .unknown row)) :=
    .of_setMedia found nofun (fun _ path => path)
  exact quiet_step (markUnknown_write _ _ _) (unknown.then_same rfl)
    (settleQueuedStorageUploadJobs_cleanups _ _ _)

theorem ownedUpload_found {ownerToken : Uuid} {row : Media}
    (h : ownedUpload db mediaId ownerToken = some row) : db.media.get mediaId = some row :=
  (Option.filter_eq_some_iff.mp h).1

theorem markOwnedUploadUnknown_step {ownerToken : Uuid} {answer : Unit}
    (h : markOwnedUploadUnknown db mediaId ownerToken = .ok (db', answer)) :
    WorkspaceStep none db db' := by
  simp only [markOwnedUploadUnknown, bind_ok, pure_ok, expect_ok, Prod.mk.injEq] at h
  obtain ⟨row, owned, rfl, -⟩ := h
  exact markUnknown_step (ownedUpload_found (Option.filter_eq_some_iff.mp owned).1)

theorem markStorageUploadUnknown_step {force : Bool} {answer : Unit}
    (h : markStorageUploadUnknown db mediaId force = .ok (db', answer)) :
    WorkspaceStep none db db' := by
  simp only [markStorageUploadUnknown, lockMedia, bind_ok, pure_ok, expect_ok, Prod.mk.injEq] at h
  obtain ⟨row, found, -, -, rfl, -⟩ := h
  exact markUnknown_step found

theorem resetStorageUpload_step {answer : Unit}
    (h : resetStorageUpload db mediaId = .ok (db', answer)) : WorkspaceStep none db db' := by
  have write := resetStorageUpload_write h
  simp only [resetStorageUpload, lockMedia, bind_ok, pure_ok, expect_ok, Prod.mk.injEq] at h
  obtain ⟨row, found, -, -, -, -, -, -, -, -, rfl, -⟩ := h
  have reset : KeepsMedia none db (setMedia db mediaId (resetMedia db.now row)) := by
    refine .of_setMedia found ?_ (fun _ path => path)
    rintro (ready | missing)
    · cases ready
    · cases missing
  have enqueued : Enqueues (· = .uploadStorage mediaId (row.storageGeneration + 1))
      (reopenLinkedIngestsForStorage (setMedia db mediaId (resetMedia db.now row)) mediaId)
      (enqueueStorageUpload
        (reopenLinkedIngestsForStorage (setMedia db mediaId (resetMedia db.now row)) mediaId) mediaId
        (row.storageGeneration + 1)) := .of_enqueue rfl
  refine quiet_step write (reset.then_same enqueued.media) (.of_others enqueued.rows ?_)
  rintro key rfl
  rfl

theorem reconcileStorageTerminal_keeps (db : Db) (mediaId : Uuid) (errorMessage : String) :
    KeepsMedia none db (reconcileStorageTerminal db mediaId errorMessage) ∧
      (reconcileStorageTerminal db mediaId errorMessage).jobs = db.jobs := by
  unfold reconcileStorageTerminal
  split
  · exact ⟨.of_same rfl, rfl⟩
  · rename_i row found
    split
    · exact ⟨.of_same rfl, rfl⟩
    · have unknown : KeepsMedia none db
          (setMedia db mediaId (clearedReservation db.now .unknown row)) :=
        .of_setMedia found nofun (fun _ path => path)
      exact ⟨unknown.then_same rfl, rfl⟩
    · exact ⟨.of_same rfl, rfl⟩
    · exact ⟨.of_same rfl, rfl⟩

theorem settleStorageJob_step {lease : JobLease} {expected : JobCommand}
    {settlement : JobSettlement} {answer : Job}
    (h : settleStorageJob db lease expected settlement = .ok (db', answer)) :
    WorkspaceStep none db db' := by
  have write := settleStorageJob_write h
  simp only [settleStorageJob, bind_ok] at h
  obtain ⟨job, -, command, valid, h⟩ := h
  split at h
  · rename_i m generation
    simp only [pure_ok, Prod.mk.injEq] at h
    obtain ⟨rfl, -⟩ := h
    have upload := isUpload_of_command (validateLockedCommand_ok valid).1.symm
    have other : isCleanupKey (job.settled db.now (queueParameters job settlement)).id.key = false :=
      upload_not_cleanup upload
    have first : KeepsMedia none db
          (if (queueParameters job settlement).terminal then
            reconcileStorageTerminal db m (queueParameters job settlement).errorMessage
          else db) ∧
        (if (queueParameters job settlement).terminal then
          reconcileStorageTerminal db m (queueParameters job settlement).errorMessage
        else db).jobs = db.jobs := by
      split
      · exact reconcileStorageTerminal_keeps _ _ _
      · exact ⟨.of_same rfl, rfl⟩
    refine quiet_step write (first.1.then_same rfl) ?_
    rw [← first.2]
    exact .of_put other
  · cases h

theorem recoverUpload_step {job : Job} {row : Media} (upload : IsUpload job.id.key)
    (found : db.media.get mediaId = some row) :
    WorkspaceStep none db (recoverUpload db job mediaId row) := by
  have other := upload_not_cleanup upload
  refine quiet_step (recoverUpload_write upload) ?_ ?_
  · unfold recoverUpload
    split
    · exact .of_same rfl
    · exact .of_same rfl
    · have unknown : KeepsMedia none db
          (setMedia db mediaId (clearedReservation db.now .unknown row)) :=
        .of_setMedia found nofun (fun _ path => path)
      exact unknown.then_same rfl
  · unfold recoverUpload
    split <;> exact .of_put other

theorem recoverStorageJob_step {id : JobId} {expected : JobCommand} {answer : Bool}
    (h : recoverStorageJob db id expected = .ok (db', answer)) : WorkspaceStep none db db' := by
  unfold recoverStorageJob at h
  split at h
  · cases h
    exact .refl db
  · simp only [bind_ok] at h
    obtain ⟨command, valid, h⟩ := h
    split at h
    · have upload := isUpload_of_command (validateLockedCommand_ok valid).1.symm
      split at h
      · cases h
        exact (WorkspaceStep.refl db).then_put (upload_not_cleanup upload)
      · rename_i row found
        split at h
        · cases h
          exact .refl db
        · cases h
          exact recoverUpload_step upload found
    · cases h

theorem storageCall_step (db : Db) (call : StorageCall)
    (running : ∀ id row, db.ingests.get id = some row → row.status ≠ .cancelled) :
    WorkspaceStep none db (call.run db) := by
  cases call with
  | completeUpload mediaId ownerToken attachment =>
    refine .of_committed (fun db' receipt h => ?_)
    simp only [completeStorageUpload, bind_ok] at h
    obtain ⟨-, -, row, -, h⟩ := h
    exact storeMedia_step running h
  | markOwnedUnknown => exact .of_committed (fun _ _ => markOwnedUploadUnknown_step)
  | markUnknown => exact .of_committed (fun _ _ => markStorageUploadUnknown_step)
  | reset => exact .of_committed (fun _ _ => resetStorageUpload_step)
  | attach mediaId generation attachment =>
    refine .of_committed (fun db' receipt h => ?_)
    simp only [attachStorageUpload, bind_ok] at h
    obtain ⟨-, -, row, -, h⟩ := h
    exact storeMedia_step running h
  | completeForMedia mediaId => exact completeStorageForMedia_step running
  | failForMedia => exact .of_committed (fun _ _ => failStorageForMedia_step running)
  | settle => exact .of_committed (fun _ _ => settleStorageJob_step)
  | recover => exact .of_committed (fun _ _ => recoverStorageJob_step)

end Storage

section Calls
open Inbox
variable {calendar : Publisher.Calendar} {attempt : Attempt} {db db' : Db} {phase : Phase}
  {outcome : CallOutcome}

/-- The path the call of an attempt may give to a media. -/
def callSource (db : Db) (attempt : Attempt) : Option (Uuid × String) :=
  match attempt.phase with
  | .resolving ingest =>
    if (Library.findMediaBySha db ingest.sha256).isNone then ingest.localWorkPath else none
  | .completing result => givenPath result
  | _ => none

theorem beginWorkspaceCleanup_step {source : Option (Uuid × String)} {lease : JobLease}
    {ingestId workspaceId : Uuid} {start : WorkspaceCleanupStart}
    (h : beginWorkspaceCleanup db lease ingestId workspaceId = .ok (db', start)) :
    WorkspaceStep source db db' := by
  obtain ⟨ingests, jobs, -, now, fresh⟩ := beginWorkspaceCleanup_ok h
  refine .beside ?_ ingests (jobs ▸ .refl _ _) now (le_of_eq fresh.symm)
  unfold beginWorkspaceCleanup at h
  split at h
  · cases h
    exact .of_same rfl
  · simp only [bind_ok] at h
    obtain ⟨request, -, h⟩ := h
    split at h
    · cases h
      exact .of_same rfl
    · split at h
      · cases h
        exact .of_same rfl
      · split at h
        · cases h
          unfold releaseWorkPath
          split
          · exact .of_same rfl
          · exact clearLocalWorkPath_keeps _ _ _ _
        · cases h
          exact .of_same rfl

/-- The committed part of a call. -/
theorem of_conclude {source : Option (Uuid × String)} {α ε : Type} {lost : ε}
    {result : Except ε (Db × α)} {next : Except ε α → Phase}
    (h : outcome.conclude db lost result next = (db', phase))
    (write : ∀ answer, result = .ok (db', answer) → WorkspaceStep source db db') :
    WorkspaceStep source db db' := by
  rcases conclude_eq h with ⟨unchanged, -⟩ | ⟨answer, ok, -⟩
  · rw [unchanged]
    exact .refl db
  · exact write answer ok

theorem started_step {source : Option (Uuid × String)} (was : attempt.phase = .started)
    (h : attempt.call calendar db outcome = some (db', phase)) : WorkspaceStep source db db' := by
  simp only [Attempt.call, was] at h
  split at h
  · simp only [Option.some.injEq] at h
    exact of_conclude h (fun _ => materializeIngest_step)
  · simp only [Option.some.injEq] at h
    exact of_conclude h (fun _ => beginWorkspaceCleanup_step)
  · split at h
    · split at h <;> cases h <;> exact .refl db
    · simp only [Option.map_eq_some_iff] at h
      obtain ⟨result, begins, h⟩ := h
      exact of_conclude h (fun _ ok => beginOf_step (ok ▸ begins))

/-- What the call of an attempt does, whatever its answer. -/
theorem call_step (owned : attempt.lease.jobId.key.owns attempt.command = true)
    (h : attempt.call calendar db outcome = some (db', phase)) :
    WorkspaceStep (callSource db attempt) db db' := by
  unfold callSource
  cases was : attempt.phase with
  | started => exact started_step was h
  | admitted snapshot =>
    simp only [Attempt.call, was, Option.map_eq_some_iff] at h
    obtain ⟨result, begins, h⟩ := h
    exact of_conclude h (fun _ ok => beginOf_step (ok ▸ begins))
  | resolving ingest =>
    simp only [Attempt.call, was, Option.some.injEq] at h
    refine of_conclude h (fun mediaId ok => ?_)
    exact .after_media (Library.resolveMedia_write ok) (resolveMedia_keeps ok) (.refl db')
  | identifying ingest fingerprint =>
    simp only [Attempt.call, was, Option.map_eq_some_iff] at h
    obtain ⟨id, -, h⟩ := h
    refine of_conclude h (fun answer ok => ?_)
    rw [(beginVideoIdentity_ok ok).1]
    exact .refl db
  | completing result =>
    simp only [Attempt.call, was, Option.map_eq_some_iff] at h
    obtain ⟨answer, completes, h⟩ := h
    obtain ⟨stage, id, of⟩ := completeOf_stage completes
    obtain ⟨forceSave, key⟩ := stageKey_of_command owned of
    refine of_conclude h (fun _ ok => completeOf_step ?_ (ok ▸ completes))
    rw [key]
    rfl
  | failing failure =>
    simp only [Attempt.call, was, Option.map_eq_some_iff] at h
    obtain ⟨answer, fails, h⟩ := h
    exact of_conclude h (fun _ ok => failOf_step (ok ▸ fails))
  | working => simp [Attempt.call, was] at h
  | deciding => simp [Attempt.call, was] at h
  | cleaning => simp [Attempt.call, was] at h
  | returned => simp [Attempt.call, was] at h

end Calls

end Sooqa.Workspace
