import Sooqa.Database
import Sooqa.Queue.Fence

/-!
The guarded job inserts that the inbox, library and publisher transactions
share, and what any number of them does: queued rows appear under free keys
of a kind, and nothing else moves.
-/
namespace Sooqa
open Foundation Queue

/-- Finished and failed workspaces stay for one day. -/
def workspaceCleanupRetention : Time := day

def enqueueWorkspaceCleanup (db : Db) (ingestId workspaceId : Uuid) (runAt : Time) : Db :=
  db.enqueue (.cleanupWorkspace ingestId workspaceId) (.cleanupWorkspace ingestId workspaceId)
    (by simp [JobKey.owns]) runAt Db.defaultMaxAttempts

/-- `SELECT id, workspace_id FROM ingests WHERE media_id = … AND state <> 'cancelled'`. -/
def workspacesForMedia (db : Db) (mediaId : Uuid) : List (Uuid × Uuid) :=
  (Table.rows db.ingests).filterMap (fun row =>
    if row.2.mediaId = some mediaId ∧ row.2.status ≠ .cancelled then
      some (row.1, row.2.workspaceId)
    else none)

def enqueueWorkspaceCleanups (runAt : Time) (db : Db) (workspaces : List (Uuid × Uuid)) : Db :=
  workspaces.foldl (fun db row => enqueueWorkspaceCleanup db row.1 row.2 runAt) db

def enqueueWorkspaceCleanupForMedia (db : Db) (mediaId : Uuid) (runAt : Time) : Db :=
  enqueueWorkspaceCleanups runAt db (workspacesForMedia db mediaId)

def insertMaterializationJob (db : Db) (ingestId : Uuid) : Db :=
  db.enqueue (.materializePublication ingestId) (.materializePublication ingestId)
    (by simp [JobKey.owns]) db.now Db.defaultMaxAttempts

def insertMaterializationJobs (db : Db) (ingestIds : List Uuid) : Db :=
  ingestIds.foldl insertMaterializationJob db

/-- Queued rows appeared under free keys of a kind; no other row changed. -/
def Added (kind : JobKey → Prop) (jobs jobs' : Jobs) : Prop :=
  ∀ key, jobs'.get key = jobs.get key ∨
    (jobs.get key = none ∧ kind key ∧ ∃ job, jobs'.get key = some job ∧ job.state = .queued)

namespace Added
variable {kind : JobKey → Prop} {jobs jobs' jobs'' : Jobs}

theorem refl (kind : JobKey → Prop) (jobs : Jobs) : Added kind jobs jobs := fun _ => Or.inl rfl

theorem trans (first : Added kind jobs jobs') (second : Added kind jobs' jobs'') :
    Added kind jobs jobs'' := by
  intro key
  rcases second key with same | ⟨absent, right, job, found, queued⟩
  · rw [same]
    exact first key
  · rcases first key with before | ⟨-, -, old, present, -⟩
    · exact Or.inr ⟨before ▸ absent, right, job, found, queued⟩
    · rw [present] at absent
      cases absent

/-- A row that was there is still there, unchanged. -/
theorem kept (h : Added kind jobs jobs') {key : JobKey} {job : Job}
    (found : jobs.get key = some job) : jobs'.get key = some job := by
  rcases h key with same | ⟨absent, -⟩
  · rw [same, found]
  · rw [found] at absent
    cases absent

/-- Keys of other kinds are untouched. -/
theorem other (h : Added kind jobs jobs') {key : JobKey} (wrong : ¬ kind key) :
    jobs'.get key = jobs.get key := by
  rcases h key with same | ⟨-, right, -⟩
  · exact same
  · exact absurd right wrong

theorem weaken {wide : JobKey → Prop} (h : Added kind jobs jobs')
    (covers : ∀ key, kind key → wide key) : Added wide jobs jobs' := fun key =>
  (h key).imp id (fun ⟨absent, right, rest⟩ => ⟨absent, covers key right, rest⟩)

/-- A queued row shows no lease. -/
theorem fenced (h : Added kind jobs jobs') (now : Time) : Fenced now jobs jobs' := by
  intro key job' lease found shows
  rcases h key with same | ⟨-, -, job, present, queued⟩
  · exact ⟨job', same ▸ found, shows, id⟩
  · rw [present] at found
    cases found
    rw [Job.lease_eq_none (fun columns => by rw [queued]; exact JobState.noConfusion)] at shows
    cases shows

end Added

/-- Queued rows appeared under free keys of a kind; nothing else moved. -/
structure Enqueues (kind : JobKey → Prop) (db db' : Db) : Prop where
  channels : db'.channels = db.channels
  media : db'.media = db.media
  posts : db'.posts = db.posts
  ingests : db'.ingests = db.ingests
  now : db'.now = db.now
  fresh : db.fresh ≤ db'.fresh
  rows : Added kind db.jobs db'.jobs

namespace Enqueues
variable {kind : JobKey → Prop} {db db' db'' : Db}

theorem refl (kind : JobKey → Prop) (db : Db) : Enqueues kind db db :=
  ⟨rfl, rfl, rfl, rfl, rfl, le_rfl, fun _ => Or.inl rfl⟩

theorem trans (first : Enqueues kind db db') (second : Enqueues kind db' db'') :
    Enqueues kind db db'' where
  channels := second.channels.trans first.channels
  media := second.media.trans first.media
  posts := second.posts.trans first.posts
  ingests := second.ingests.trans first.ingests
  now := second.now.trans first.now
  fresh := le_trans first.fresh second.fresh
  rows := first.rows.trans second.rows

theorem of_enqueue {key : JobKey} {command : JobCommand} {owned : key.owns command = true}
    {runAt : Time} {maxAttempts : Nat} (right : kind key) :
    Enqueues kind db (db.enqueue key command owned runAt maxAttempts) where
  channels := rfl
  media := rfl
  posts := rfl
  ingests := rfl
  now := rfl
  fresh := Nat.le_succ _
  rows := by
    intro other
    rw [Db.enqueue_jobs_get]
    split
    · rename_i same
      subst same
      cases present : db.jobs.get other with
      | none => exact Or.inr ⟨rfl, right, _, rfl, rfl⟩
      | some job => exact Or.inl rfl
    · exact Or.inl rfl

theorem weaken {wide : JobKey → Prop} (h : Enqueues kind db db')
    (covers : ∀ key, kind key → wide key) : Enqueues wide db db' :=
  { h with rows := h.rows.weaken covers }

end Enqueues

def IsCleanup (key : JobKey) : Prop := ∃ ingestId workspaceId, key = .cleanupWorkspace ingestId workspaceId

def IsMaterialization (ingestIds : List Uuid) (key : JobKey) : Prop :=
  ∃ ingestId ∈ ingestIds, key = .materializePublication ingestId

theorem enqueueWorkspaceCleanup_enqueues (db : Db) (ingestId workspaceId : Uuid) (runAt : Time) :
    Enqueues IsCleanup db (enqueueWorkspaceCleanup db ingestId workspaceId runAt) :=
  .of_enqueue ⟨ingestId, workspaceId, rfl⟩

theorem enqueueWorkspaceCleanups_enqueues (runAt : Time) (db : Db)
    (workspaces : List (Uuid × Uuid)) :
    Enqueues IsCleanup db (enqueueWorkspaceCleanups runAt db workspaces) := by
  induction workspaces generalizing db with
  | nil => exact .refl _ _
  | cons row rest ih =>
    exact (enqueueWorkspaceCleanup_enqueues db row.1 row.2 runAt).trans (ih _)

theorem enqueueWorkspaceCleanupForMedia_enqueues (db : Db) (mediaId : Uuid) (runAt : Time) :
    Enqueues IsCleanup db (enqueueWorkspaceCleanupForMedia db mediaId runAt) :=
  enqueueWorkspaceCleanups_enqueues runAt db _

theorem insertMaterializationJobs_enqueues (db : Db) (ingestIds : List Uuid) :
    Enqueues (IsMaterialization ingestIds) db (insertMaterializationJobs db ingestIds) := by
  induction ingestIds generalizing db with
  | nil => exact .refl _ _
  | cons ingestId rest ih =>
    have first : Enqueues (IsMaterialization (ingestId :: rest)) db
        (insertMaterializationJob db ingestId) := .of_enqueue ⟨ingestId, List.mem_cons_self, rfl⟩
    have later := ih (insertMaterializationJob db ingestId)
    exact first.trans (later.weaken (fun _ ⟨i, member, same⟩ =>
      ⟨i, List.mem_cons_of_mem _ member, same⟩))

/-- Every ingest of the batch has a job afterwards, old or new. -/
theorem insertMaterializationJobs_present (db : Db) {ingestIds : List Uuid} {ingestId : Uuid}
    (member : ingestId ∈ ingestIds) :
    ∃ job, (insertMaterializationJobs db ingestIds).jobs.get (.materializePublication ingestId) =
      some job := by
  induction ingestIds generalizing db with
  | nil => cases member
  | cons first rest ih =>
    rcases List.mem_cons.mp member with same | later
    · subst same
      have present := Db.enqueue_jobs_get db (.materializePublication ingestId)
        (.materializePublication ingestId) (by simp [JobKey.owns]) db.now Db.defaultMaxAttempts
        (.materializePublication ingestId)
      rw [if_pos rfl] at present
      exact ⟨_, (insertMaterializationJobs_enqueues _ rest).rows.kept present⟩
    · exact ih (insertMaterializationJob db first) later

end Sooqa
