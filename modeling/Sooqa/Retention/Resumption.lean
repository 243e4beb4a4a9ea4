import Sooqa.Publisher.Effects
import Sooqa.Retention.Prune

/-!
What a pruned row took with it. A finished job carries no work: every
operation on a post, a caption or an upload that succeeds beside the row
succeeds without it, answers the same and leaves the same work in the queue.
-/
namespace Sooqa.Retention
open Foundation Queue Publisher

section Work
variable {jobs jobs' : Jobs} {key : JobKey} {row row' : Job}

/-- Every job that waits or runs in the first table does so in the second. -/
def KeepsWork (jobs jobs' : Jobs) : Prop :=
  ∀ key job, jobs.get key = some job → job.state.live = true →
    ∃ job', jobs'.get key = some job' ∧ job'.state = job.state ∧ job'.command = job.command ∧
      job'.runAt = job.runAt

theorem KeepsWork.refl (jobs : Jobs) : KeepsWork jobs jobs :=
  fun _ job found _ => ⟨job, found, rfl, rfl, rfl⟩

theorem KeepsWork.delete (found : jobs.get key = some row) (dead : row.state.live = false) :
    KeepsWork jobs (jobs.delete key) := by
  intro other job there live
  refine ⟨job, ?_, rfl, rfl, rfl⟩
  rw [Jobs.get_delete, if_neg, there]
  rintro rfl
  rw [found] at there
  cases there
  rw [dead] at live
  cases live

/-- Two rows of one key, written on both sides. -/
theorem KeepsWork.put (work : KeepsWork jobs jobs') (same : row'.id.key = row.id.key)
    (kept : row.state.live = true →
      row'.state = row.state ∧ row'.command = row.command ∧ row'.runAt = row.runAt) :
    KeepsWork (jobs.put row) (jobs'.put row') := by
  intro other job there live
  rw [Jobs.get_put] at there
  rw [Jobs.get_put, same]
  split at there
  · cases there
    rename_i here
    exact ⟨row', if_pos here, kept live⟩
  · rename_i elsewhere
    rw [if_neg elsewhere]
    exact work other job there live

/-- A finished row may be missing. -/
theorem KeepsWork.put_dead (work : KeepsWork jobs jobs') (dead : row.state.live = false) :
    KeepsWork (jobs.put row) jobs' := by
  intro other job there live
  rw [Jobs.get_put] at there
  split at there
  · cases there
    rw [dead] at live
    cases live
  · exact work other job there live

end Work

/-- The same rows, and no less work. -/
structure Resumes (db db' : Db) : Prop where
  channels : db'.channels = db.channels
  media : db'.media = db.media
  posts : db'.posts = db.posts
  ingests : db'.ingests = db.ingests
  now : db'.now = db.now
  work : KeepsWork db.jobs db'.jobs

theorem Pruned.resumes {db db' : Db} {key : JobKey} (pruned : Pruned db db' key) : Resumes db db' := by
  obtain ⟨job, found, dead⟩ := pruned.row
  rw [pruned.written]
  exact ⟨rfl, rfl, rfl, rfl, rfl, .delete found dead⟩

/-- The operation on a store without the row does what it did beside it. -/
def StillPossible {ε α : Type} (operation : Db → Except ε (Db × α)) : Prop :=
  ∀ db db' key, Pruned db db' key → ∀ after answer, operation db = .ok (after, answer) →
    ∃ after', operation db' = .ok (after', answer) ∧ Resumes after after'

namespace StillPossible
variable {ε α β : Type}

/-- A read of anything but the queue. -/
theorem read {first : Db → Except ε β} {next : β → Db → Except ε (Db × α)}
    (blind : ∀ (db : Db) (jobs : Jobs), first { db with jobs := jobs } = first db)
    (rest : ∀ value, StillPossible (next value)) :
    StillPossible (fun db => first db >>= fun value => next value db) := by
  intro db db' key pruned after answer h
  obtain ⟨value, found, h⟩ := bind_ok.mp h
  obtain ⟨after', ok, resumed⟩ := rest value db db' key pruned after answer h
  refine ⟨after', bind_ok.mpr ⟨value, ?_, ok⟩, resumed⟩
  rw [pruned.written]
  exact (blind db _).trans found

theorem ite {condition : Prop} [Decidable condition] {yes no : Db → Except ε (Db × α)}
    (first : StillPossible yes) (second : StillPossible no) :
    StillPossible (fun db => if condition then yes db else no db) := by
  split
  · exact first
  · exact second

theorem answer (value : α) : StillPossible (fun db => (pure (db, value) : Except ε (Db × α))) := by
  intro db db' key pruned after answer h
  cases h
  exact ⟨db', rfl, pruned.resumes⟩

end StillPossible

section PublishJobs
variable {db db' after : Db} {key : JobKey} {p : Uuid} {runAt : Time} {revision : Nat}

theorem Pruned.before (pruned : Pruned db db' key) {other : JobKey} {job : Job}
    (there : db'.jobs.get other = some job) : db.jobs.get other = some job := by
  rw [pruned.written, Jobs.get_delete] at there
  split at there
  · cases there
  · exact there

/-- A write of one row, beside the finished one and without it. -/
theorem Pruned.resumes_put (pruned : Pruned db db' key) {row row' : Job} {fresh fresh' : Uuid}
    (same : row'.id.key = row.id.key)
    (kept : row.state.live = true →
      row'.state = row.state ∧ row'.command = row.command ∧ row'.runAt = row.runAt) :
    Resumes { db with jobs := db.jobs.put row, fresh := fresh }
      { db' with jobs := db'.jobs.put row', fresh := fresh' } := by
  have resumed := pruned.resumes
  exact ⟨resumed.channels, resumed.media, resumed.posts, resumed.ingests, resumed.now,
    resumed.work.put same kept⟩

/-- The one row that a write of a publish job leaves, in this state. -/
structure PublishRow (db after : Db) (p : Uuid) (row : Job) : Prop where
  key : row.id.key = .publish p
  written : ∃ fresh, after = { db with jobs := db.jobs.put row, fresh := fresh }

theorem insertPublishJobRow_row {failed : Bool}
    (h : insertPublishJobRow db p runAt revision failed = .ok after) :
    ∃ row, PublishRow db after p row ∧ row.state = (if failed then .failed else .queued) ∧
      row.command = .publishPost p revision ∧ row.runAt = runAt := by
  unfold insertPublishJobRow at h
  split at h
  · cases h
  · cases h
    refine ⟨_, ⟨?_, _, rfl⟩, ?_⟩
    · split <;> rfl
    · cases failed <;> exact ⟨rfl, rfl, rfl⟩

theorem updatePublishJob_row (h : updatePublishJob db p runAt revision = .ok after) :
    ∃ row, PublishRow db after p row ∧ row.state = .queued ∧
      row.command = .publishPost p revision ∧ row.runAt = runAt := by
  unfold updatePublishJob at h
  split at h
  · exact insertPublishJobRow_row h
  · rename_i job found
    have key := Jobs.get_key db.jobs found
    obtain ⟨old, command⟩ := JobKey.owns_publish (by rw [← key]; exact job.owned)
    have requeued : ∀ after, Except.ok
        { db with jobs := db.jobs.put (requeuedPublishJob db.now job runAt revision) } =
          (Except.ok after : Except Error Db) →
        ∃ row, PublishRow db after p row ∧ row.state = .queued ∧
          row.command = .publishPost p revision ∧ row.runAt = runAt := by
      intro after written
      cases written
      refine ⟨requeuedPublishJob db.now job runAt revision, ⟨key, db.fresh, rfl⟩, rfl, ?_, rfl⟩
      simp only [requeuedPublishJob, Job.withRevision, command, JobCommand.withRevision]
    split at h
    · cases h
    · exact requeued after h
    · exact requeued after h
    · cases h

theorem updatePublishJob_succeeds
    (open_ : ∀ job, db.jobs.get (.publish p) = some job → job.state = .queued ∨ job.state = .failed) :
    ∃ after, updatePublishJob db p runAt revision = .ok after := by
  unfold updatePublishJob
  split
  · rename_i absent
    exact ⟨_, by simp only [insertPublishJobRow, absent]; rfl⟩
  · rename_i job found
    rcases open_ job found with state | state <;> rw [state] <;> exact ⟨_, rfl⟩

theorem updatePublishJob_possible (pruned : Pruned db db' key)
    (h : updatePublishJob db p runAt revision = .ok after) :
    ∃ after', updatePublishJob db' p runAt revision = .ok after' ∧ Resumes after after' := by
  have idle := (updatePublishJob_ok h).2.idle
  have possible : ∃ after', updatePublishJob db' p runAt revision = .ok after' :=
    updatePublishJob_succeeds (fun job there => idle job (pruned.before there))
  obtain ⟨after', ok⟩ := possible
  refine ⟨after', ok, ?_⟩
  obtain ⟨row, ⟨rowKey, fresh, rfl⟩, state, command, at_⟩ := updatePublishJob_row h
  obtain ⟨row', ⟨rowKey', fresh', rfl⟩, state', command', at_'⟩ := updatePublishJob_row ok
  exact pruned.resumes_put (rowKey'.trans rowKey.symm) (fun _ =>
    ⟨state'.trans state.symm, command'.trans command.symm, at_'.trans at_.symm⟩)

/-- An insert over a row that is there updates it. -/
theorem insertPublishJob_eq (db : Db) (p : Uuid) (runAt : Time) (revision : Nat) :
    insertPublishJob db p runAt revision = updatePublishJob db p runAt revision := by
  unfold insertPublishJob updatePublishJob
  cases found : db.jobs.get (.publish p) with
  | none => rfl
  | some job => cases state : job.state <;> simp only [state]

theorem updateFailedPublishJob_row (h : updateFailedPublishJob db p runAt revision = .ok after) :
    ∃ row, PublishRow db after p row ∧ row.state = .failed := by
  unfold updateFailedPublishJob at h
  split at h
  · obtain ⟨row, written, state, -⟩ := insertPublishJobRow_row h
    exact ⟨row, written, state⟩
  · rename_i job found
    have key := Jobs.get_key db.jobs found
    split at h
    · rename_i state
      cases h
      exact ⟨editedPublishJob db.now job revision, ⟨key, db.fresh, rfl⟩, state⟩
    · cases h

theorem updateFailedPublishJob_possible (pruned : Pruned db db' key)
    (h : updateFailedPublishJob db p runAt revision = .ok after) :
    ∃ after', updateFailedPublishJob db' p runAt revision = .ok after' ∧ Resumes after after' := by
  have ended := (updateFailedPublishJob_ok h).2.1
  obtain ⟨after', ok⟩ : ∃ after', updateFailedPublishJob db' p runAt revision = .ok after' := by
    unfold updateFailedPublishJob
    split
    · rename_i absent
      exact ⟨_, by simp only [insertPublishJobRow, absent]; rfl⟩
    · rename_i job found
      rw [ended job (pruned.before found)]
      exact ⟨_, rfl⟩
  refine ⟨after', ok, ?_⟩
  obtain ⟨row, ⟨rowKey, fresh, rfl⟩, state⟩ := updateFailedPublishJob_row h
  obtain ⟨row', ⟨rowKey', fresh', rfl⟩, state'⟩ := updateFailedPublishJob_row ok
  refine pruned.resumes_put (rowKey'.trans rowKey.symm) (fun live => ?_)
  rw [state] at live
  cases live

theorem cancelPublishJob_row (h : cancelPublishJob db p = .ok after) :
    (db.jobs.get (.publish p) = none ∧ after = db) ∨
      ∃ job row, db.jobs.get (.publish p) = some job ∧ PublishRow db after p row ∧
        row.state = .cancelled := by
  unfold cancelPublishJob at h
  split at h
  · rename_i absent
    cases h
    exact Or.inl ⟨absent, rfl⟩
  · rename_i job found
    right
    have key := Jobs.get_key db.jobs found
    refine ⟨job, cancelledPublishJob db.now job, found, ⟨key, db.fresh, ?_⟩, rfl⟩
    split at h
    · cases h
    · cases h
      rfl
    · cases h
      rfl
    · cases h

theorem cancelPublishJob_possible (pruned : Pruned db db' key)
    (h : cancelPublishJob db p = .ok after) :
    ∃ after', cancelPublishJob db' p = .ok after' ∧ Resumes after after' := by
  have idle := (cancelPublishJob_ok h).2.1
  obtain ⟨after', ok⟩ : ∃ after', cancelPublishJob db' p = .ok after' := by
    unfold cancelPublishJob
    split
    · exact ⟨_, rfl⟩
    · rename_i job found
      rcases idle job (pruned.before found) with state | state <;> rw [state] <;> exact ⟨_, rfl⟩
  refine ⟨after', ok, ?_⟩
  have resumed := pruned.resumes
  rcases cancelPublishJob_row ok with ⟨-, rfl⟩ | ⟨job, row', found, ⟨rowKey', fresh', rfl⟩, -⟩
  · rcases cancelPublishJob_row h with ⟨-, rfl⟩ | ⟨-, row, -, ⟨-, fresh, rfl⟩, state⟩
    · exact resumed
    · exact ⟨resumed.channels, resumed.media, resumed.posts, resumed.ingests, resumed.now,
        resumed.work.put_dead (by rw [state]; rfl)⟩
  · rcases cancelPublishJob_row h with ⟨absent, rfl⟩ | ⟨-, row, -, ⟨rowKey, fresh, rfl⟩, state⟩
    · rw [pruned.before found] at absent
      cases absent
    · refine pruned.resumes_put (rowKey'.trans rowKey.symm) (fun live => ?_)
      rw [state] at live
      cases live

end PublishJobs

section Posts
variable {db db' : Db} {key : JobKey}

theorem Pruned.setPost (pruned : Pruned db db' key) (id : Uuid) (post : Post) :
    Pruned (setPost db id post) (setPost db' id post) key :=
  ⟨pruned.row, by rw [pruned.written]; rfl⟩

/-- The row and its instant may depend on the clock. -/
theorem commitQueued_possible (id : Uuid) (current : Post) (row : Time → Post)
    (runAt : Time → Time) :
    StillPossible (fun db => commitQueued db id current (row db.now) (runAt db.now)) := by
  intro db db' key pruned after answer h
  have clock := pruned.resumes.now
  simp only [commitQueued, bind_ok, pure_ok, insertPublishJob_eq, ite_self, Prod.mk.injEq,
    clock] at h ⊢
  obtain ⟨committed, ok, rfl, rfl⟩ := h
  obtain ⟨after', ok', resumed⟩ := updatePublishJob_possible (pruned.setPost id (row db.now)) ok
  exact ⟨after', ⟨after', ok', rfl, rfl⟩, resumed⟩

theorem replayed_possible (current : Post) (stored : Option Digest) (hash : Digest) (key : String) :
    StillPossible (fun db => replayed db current stored hash key) :=
  .read (fun _ _ => rfl) (fun _ => .answer current)

theorem schedulePost_possible (calendar : Calendar) (schedule : PostSchedule) :
    StillPossible (fun db => schedulePost calendar db schedule) := by
  unfold schedulePost
  refine .read (fun _ _ => rfl) (fun (channel, current) => ?_)
  refine .ite (replayed_possible _ _ _ _) ?_
  refine .read (fun _ _ => rfl) (fun _ => ?_)
  refine .read (fun _ _ => rfl) (fun slot => ?_)
  refine .read (fun _ _ => rfl) (fun revision => ?_)
  exact commitQueued_possible _ _ (fun now => scheduledPost now _ _ _ _ _ _) (fun _ => slot)

theorem schedulePostExact_possible (schedule : PostSchedule) :
    StillPossible (fun db => schedulePostExact db schedule) := by
  unfold schedulePostExact
  refine .read (fun _ _ => rfl) (fun (channel, current) => ?_)
  refine .ite (replayed_possible _ _ _ _) ?_
  refine .read (fun _ _ => rfl) (fun _ => ?_)
  refine .read (fun _ _ => rfl) (fun _ => ?_)
  refine .read (fun _ _ => rfl) (fun revision => ?_)
  exact commitQueued_possible _ _
    (fun now => { scheduledPost now _ _ _ _ _ _ with
      requestedAction := .queue
      requestedPublishAt := some schedule.requestedAt
      repeatEvidence := none }) (fun _ => schedule.requestedAt)

theorem publishNow_possible (id : Uuid) (requestKey : String) (expectedRevision : Int) :
    StillPossible (fun db => publishNow db id requestKey expectedRevision) := by
  unfold publishNow
  refine .read (fun _ _ => rfl) (fun requestKey => ?_)
  refine .read (fun _ _ => rfl) (fun (channel, current) => ?_)
  refine .ite (replayed_possible _ _ _ _) ?_
  refine .read (fun _ _ => rfl) (fun _ => ?_)
  refine .read (fun _ _ => rfl) (fun revision => ?_)
  exact commitQueued_possible _ _ (fun now => scheduledPost now _ _ _ now _ _) (fun now => now)

theorem editPublishJob_possible (pruned : Pruned db db' key) {id : Uuid} {state : PostState}
    {row : Post} {after : Db} (h : editPublishJob db id state row = .ok after) :
    ∃ after', editPublishJob db' id state row = .ok after' ∧ Resumes after after' := by
  unfold editPublishJob at h ⊢
  split at h
  · exact updatePublishJob_possible pruned h
  · exact updateFailedPublishJob_possible pruned h
  · cases h
    exact ⟨db', rfl, pruned.resumes⟩

theorem updatePost_possible (id : Uuid) (update : PostUpdate) :
    StillPossible (fun db => updatePost db id update) := by
  unfold updatePost
  refine .read (fun _ _ => rfl) (fun _ => ?_)
  refine .read (fun _ _ => rfl) (fun _ => ?_)
  refine .read (fun _ _ => rfl) (fun (channel, current) => ?_)
  refine .read (fun _ _ => rfl) (fun _ => ?_)
  refine .read (fun _ _ => rfl) (fun _ => ?_)
  refine .read (fun _ _ => rfl) (fun _ => ?_)
  refine .read (fun _ _ => rfl) (fun revision => ?_)
  intro db db' key pruned after answer h
  have clock := pruned.resumes.now
  simp only [bind_ok, pure_ok, Prod.mk.injEq, clock] at h ⊢
  obtain ⟨written, ok, rfl, rfl⟩ := h
  obtain ⟨after', ok', resumed⟩ := editPublishJob_possible (pruned.setPost id _) ok
  exact ⟨after', ⟨after', ok', rfl, rfl⟩, resumed⟩

theorem Resumes.setPost {after after' : Db} (resumed : Resumes after after') (id : Uuid)
    (post : Post) : Resumes (setPost after id post) (setPost after' id post) := by
  refine ⟨resumed.channels, resumed.media, ?_, resumed.ingests, resumed.now, resumed.work⟩
  simp only [Publisher.setPost, resumed.posts]

theorem withdrawPublishJob_possible (pruned : Pruned db db' key) {id : Uuid} {state : PostState}
    {after : Db} (h : withdrawPublishJob db id state = .ok after) :
    ∃ after', withdrawPublishJob db' id state = .ok after' ∧ Resumes after after' := by
  unfold withdrawPublishJob at h ⊢
  split at h
  · rename_i draft
    cases h
    exact ⟨db', if_pos draft, pruned.resumes⟩
  · rename_i scheduled
    rw [if_neg scheduled]
    exact cancelPublishJob_possible pruned h

theorem cancelPost_possible (id : Uuid) (expectedRevision : Int) :
    StillPossible (fun db => cancelPost db id expectedRevision) := by
  unfold cancelPost
  refine .read (fun _ _ => rfl) (fun (channel, current) => ?_)
  refine .read (fun _ _ => rfl) (fun _ => ?_)
  refine .read (fun _ _ => rfl) (fun _ => ?_)
  intro db db' key pruned after answer h
  simp only [bind_ok, pure_ok, Prod.mk.injEq] at h ⊢
  obtain ⟨withdrawn, ok, revision, next, rfl, rfl⟩ := h
  obtain ⟨after', ok', resumed⟩ := withdrawPublishJob_possible pruned ok
  have clock := resumed.now
  refine ⟨_, ⟨after', ok', revision, next, rfl, by rw [clock]⟩, ?_⟩
  rw [clock]
  exact resumed.setPost id _

theorem decidePost_possible (calendar : Calendar) (id : Uuid) (decision : PublicationDecision)
    (requestKey : String) (expectedRevision : Int) :
    StillPossible (fun db => decidePost calendar db id decision requestKey expectedRevision) := by
  unfold decidePost
  refine .read (fun _ _ => rfl) (fun requestKey => ?_)
  refine .read (fun _ _ => rfl) (fun (channel, current) => ?_)
  refine .ite (replayed_possible _ _ _ _) ?_
  refine .read (fun _ _ => rfl) (fun _ => ?_)
  refine .read (fun _ _ => rfl) (fun _ => ?_)
  refine .read (fun _ _ => rfl) (fun _ => ?_)
  refine .read (fun _ _ => rfl) (fun _ => ?_)
  refine .read (fun _ _ => rfl) (fun revision => ?_)
  refine .ite ?_ ?_
  · intro db db' key pruned after answer h
    have clock := pruned.resumes.now
    cases h
    refine ⟨_, by simp only [clock]; rfl, pruned.resumes.setPost id _⟩
  · refine .read (fun _ _ => rfl) (fun _ => ?_)
    refine .read (fun _ _ => rfl) (fun _ => ?_)
    refine .read (fun _ _ => by cases decision <;> rfl) (fun (scheduledAt, slot) => ?_)
    intro db db' key pruned after answer h
    have clock := pruned.resumes.now
    simp only [bind_ok, pure_ok, Prod.mk.injEq, insertPublishJob_eq, clock] at h ⊢
    obtain ⟨written, ok, rfl, rfl⟩ := h
    obtain ⟨after', ok', resumed⟩ := updatePublishJob_possible (pruned.setPost id _) ok
    exact ⟨after', ⟨after', ok', rfl, rfl⟩, resumed⟩

end Posts

section Media
open Library Captions
variable {db db' : Db} {key : JobKey}

theorem Pruned.setMedia (pruned : Pruned db db' key) (id : Uuid) (row : Media) :
    Pruned (setMedia db id row) (setMedia db' id row) key :=
  ⟨pruned.row, by rw [pruned.written]; rfl⟩

theorem KeepsWork.insertAbsent {jobs jobs' : Jobs} (work : KeepsWork jobs jobs')
    (before : ∀ key job, jobs'.get key = some job → jobs.get key = some job) (row : Job) :
    KeepsWork (jobs.insertAbsent row) (jobs'.insertAbsent row) := by
  intro other job there live
  rw [Jobs.get_insertAbsent] at there ⊢
  by_cases here : other = row.id.key
  · rw [if_pos here] at there ⊢
    cases found : jobs.get other with
    | some old =>
      rw [found] at there
      cases there
      obtain ⟨job', there', same⟩ := work other old found live
      exact ⟨job', by rw [there']; rfl, same⟩
    | none =>
      rw [found] at there
      cases there
      cases found' : jobs'.get other with
      | none => exact ⟨row, rfl, rfl, rfl, rfl⟩
      | some job' =>
        rw [before other job' found'] at found
        cases found
  · rw [if_neg here] at there ⊢
    exact work other job there live

/-- An insert that a finished row swallowed goes through without it. -/
theorem Pruned.enqueue (pruned : Pruned db db' key) (enqueued : JobKey) (command : JobCommand)
    (owned : enqueued.owns command = true) (runAt : Time) (maxAttempts : Nat) :
    Resumes (db.enqueue enqueued command owned runAt maxAttempts)
      (db'.enqueue enqueued command owned runAt maxAttempts) := by
  have resumed := pruned.resumes
  refine ⟨resumed.channels, resumed.media, resumed.posts, resumed.ingests, resumed.now, ?_⟩
  have drawn : db'.fresh = db.fresh := by rw [pruned.written]
  simp only [Db.enqueue, drawn, resumed.now]
  exact resumed.work.insertAbsent (fun _ _ => pruned.before) _

theorem retryCaptionSync_possible (id : Uuid) :
    StillPossible (fun db => retryCaptionSync db id) := by
  unfold retryCaptionSync
  refine .read (fun _ _ => rfl) (fun row => ?_)
  refine .read (fun _ _ => rfl) (fun _ => ?_)
  refine .ite (.answer row) ?_
  refine .read (fun _ _ => rfl) (fun _ => ?_)
  intro db db' key pruned after answer h
  obtain rfl := pruned.written
  cases h
  exact ⟨_, rfl, (pruned.setMedia id _).enqueue _ _ _ _ _⟩

/-- No cleanup runs in the pruned store that did not run before. -/
theorem Pruned.cleanupRunning (pruned : Pruned db db' key) {mediaId : Uuid}
    (h : cleanupRunning db mediaId = false) : cleanupRunning db' mediaId = false := by
  rw [← Bool.not_eq_true, Library.cleanupRunning, Jobs.any_eq_true] at h ⊢
  rintro ⟨other, job, there, runs⟩
  refine h ⟨other, job, pruned.before there, ?_⟩
  rw [pruned.resumes.ingests] at runs
  exact runs

theorem Pruned.updateLinked (pruned : Pruned db db' key) (mediaId : Uuid) (affected : Ingest → Bool)
    (change : Ingest → Ingest) :
    Pruned (updateLinked db mediaId affected change) (updateLinked db' mediaId affected change) key :=
  ⟨pruned.row, by rw [pruned.written]; rfl⟩

theorem resetStorageUpload_possible (id : Uuid) :
    StillPossible (fun db => resetStorageUpload db id) := by
  unfold resetStorageUpload
  refine .read (fun _ _ => rfl) (fun row => ?_)
  refine .read (fun _ _ => rfl) (fun _ => ?_)
  refine .read (fun _ _ => rfl) (fun _ => ?_)
  intro db db' key pruned after answer h
  simp only [bind_ok, pure_ok, require_ok, Prod.mk.injEq] at h ⊢
  obtain ⟨u, idle, v, room, rfl, -⟩ := h
  refine ⟨_, ⟨u, pruned.cleanupRunning idle, v, room, rfl, trivial⟩, ?_⟩
  obtain rfl := pruned.written
  exact ((pruned.setMedia id _).updateLinked _ _ _).enqueue _ _ _ _ _

end Media

end Sooqa.Retention
