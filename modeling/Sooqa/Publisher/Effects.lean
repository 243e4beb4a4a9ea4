import Sooqa.Publisher.System

/-!
What the publication transactions can do, seen one post at a time: every
transaction writes at most one post together with its publish job, and the
pair moves in one of a few ways. The invariants of the publisher are proved
over these effects and never look at the transactions again.
-/
namespace Sooqa.Publisher
open Foundation Queue Worker

/-- Nothing changed but, at most, the rows of one post. -/
structure Elsewhere (db db' : Db) (p : Uuid) : Prop where
  posts : ∀ q, q ≠ p → db'.posts.get q = db.posts.get q
  jobs : ∀ q, q ≠ p → db'.jobs.get (.publish q) = db.jobs.get (.publish q)
  now : db.now ≤ db'.now
  fresh : db.fresh ≤ db'.fresh

/-- No post and no publish job changed. -/
structure Quiet (db db' : Db) : Prop where
  posts : ∀ q, db'.posts.get q = db.posts.get q
  jobs : ∀ q, db'.jobs.get (.publish q) = db.jobs.get (.publish q)
  now : db.now ≤ db'.now
  fresh : db.fresh ≤ db'.fresh

theorem Quiet.refl (db : Db) : Quiet db db :=
  ⟨fun _ => rfl, fun _ => rfl, Nat.le_refl _, Nat.le_refl _⟩

/-- The job of the post was not running and is queued for this revision. -/
structure Driven (jobs jobs' : Jobs) (p : Uuid) (revision : Nat) : Prop where
  idle : ∀ job, jobs.get (.publish p) = some job → job.state = .queued ∨ job.state = .failed
  queued : ∃ job, jobs'.get (.publish p) = some job ∧ job.state = .queued ∧
    job.command = .publishPost p revision

/-- The four ways an API operation rewrites an existing post and its job. -/
inductive EditedJob (db db' : Db) (p : Uuid) (old new : Post) : Prop where
  | drafted (was : old.state = .draft) (becomes : new.state = .draft ∨ new.state = .cancelled)
      (job : db'.jobs.get (.publish p) = db.jobs.get (.publish p))
  | queued (becomes : new.state = .queued) (driven : Driven db.jobs db'.jobs p new.revision)
  | failed (was : old.state = .failed) (becomes : new.state = .failed)
      (idle : ∀ job, db.jobs.get (.publish p) = some job → job.state = .failed)
      (kept : ∃ job, db'.jobs.get (.publish p) = some job ∧ job.state = .failed)
  | cancelled (becomes : new.state = .cancelled)
      (idle : ∀ job, db.jobs.get (.publish p) = some job →
        job.state = .queued ∨ job.state = .failed)
      (ended : ∀ job, db'.jobs.get (.publish p) = some job → job.state = .cancelled)

/-- What an API operation writes for one post: a new one, or an editable one
    moved to its next revision. -/
inductive ApiWrite (db db' : Db) (p : Uuid) : Prop where
  | created (post : Post) (new : p = db.fresh) (drawn : db.fresh < db'.fresh)
      (row : db'.posts.get p = some post)
      (job : (post.state = .draft ∧
          db'.jobs.get (.publish p) = db.jobs.get (.publish p)) ∨
        (post.state = .queued ∧ Driven db.jobs db'.jobs p post.revision))
  | edited (old new : Post) (before : db.posts.get p = some old)
      (after : db'.posts.get p = some new) (editable : old.state.isQueueMutable = true)
      (revision : new.revision = old.revision + 1) (job : EditedJob db db' p old new)

/-- What an API operation can do to the store. -/
inductive ApiEffect (db db' : Db) : Prop where
  | quiet (same : Quiet db db')
  | write (p : Uuid) (elsewhere : Elsewhere db db' p) (write : ApiWrite db db' p)

theorem ApiEffect.edit {db db' : Db} {p : Uuid} {old new : Post} (elsewhere : Elsewhere db db' p)
    (before : db.posts.get p = some old) (after : db'.posts.get p = some new)
    (editable : old.state.isQueueMutable = true) (revision : new.revision = old.revision + 1)
    (job : EditedJob db db' p old new) : ApiEffect db db' :=
  .write p elsewhere (.edited old new before after editable revision job)

section PublishJob
variable {db db' : Db} {p : Uuid} {runAt : Time} {revision : Nat}

/-- A write of one publish job: everything but that job is as before. -/
structure JobWrite (db db' : Db) (p : Uuid) : Prop where
  posts : db'.posts = db.posts
  ingests : db'.ingests = db.ingests
  others : ∀ key, key ≠ .publish p → db'.jobs.get key = db.jobs.get key
  now : db'.now = db.now
  fresh : db.fresh ≤ db'.fresh

theorem publish_ne {p q : Uuid} (ne : q ≠ p) : JobKey.publish q ≠ JobKey.publish p := by
  intro same
  cases same
  exact ne rfl

theorem JobWrite.jobs {db db' : Db} {p : Uuid} (write : JobWrite db db' p) :
    ∀ q, q ≠ p → db'.jobs.get (.publish q) = db.jobs.get (.publish q) :=
  fun _ ne => write.others _ (publish_ne ne)

theorem jobWrite_put {job : Job} (key : job.id.key = .publish p) {fresh : Uuid}
    (drawn : db.fresh ≤ fresh) :
    JobWrite db { db with jobs := db.jobs.put job, fresh := fresh } p where
  posts := rfl
  ingests := rfl
  others := fun _ ne => Jobs.get_put_ne _ (key ▸ ne)
  now := rfl
  fresh := drawn

theorem insertPublishJobRow_ok {failed : Bool}
    (h : insertPublishJobRow db p runAt revision failed = .ok db') :
    JobWrite db db' p ∧ db.jobs.get (.publish p) = none ∧
      ∃ job, db'.jobs.get (.publish p) = some job ∧
        job.state = (if failed then .failed else .queued) ∧
        job.command = .publishPost p revision := by
  unfold insertPublishJobRow at h
  split at h
  · cases h
  · rename_i absent
    simp only [Option.isSome_iff_ne_none, ne_eq, not_not] at absent
    simp only [Except.ok.injEq] at h
    subst h
    refine ⟨jobWrite_put (by split <;> rfl) (Nat.le_succ _), absent, ?_⟩
    cases failed
    · exact ⟨publishJobRow db p runAt revision, Jobs.get_put_self _ _, rfl, rfl⟩
    · exact ⟨_, Jobs.get_put_self db.jobs { publishJobRow db p runAt revision with
        state := .failed, completedAt := some db.now }, rfl, rfl⟩

theorem updatePublishJob_ok (h : updatePublishJob db p runAt revision = .ok db') :
    JobWrite db db' p ∧ Driven db.jobs db'.jobs p revision := by
  unfold updatePublishJob at h
  split at h
  · rename_i absent
    obtain ⟨write, -, job, found, state, command⟩ := insertPublishJobRow_ok h
    refine ⟨write, ⟨?_, job, found, state, command⟩⟩
    intro old present
    rw [absent] at present
    cases present
  · rename_i job found
    have key := Jobs.get_key db.jobs found
    obtain ⟨old, command⟩ := JobKey.owns_publish (by rw [← key]; exact job.owned)
    have moved : (requeuedPublishJob db.now job runAt revision).id.key = .publish p := key
    have payload : (requeuedPublishJob db.now job runAt revision).command =
        .publishPost p revision := by
      simp only [requeuedPublishJob, Job.withRevision, command, JobCommand.withRevision]
    have result : ∀ state, (job.state = .queued ∨ job.state = .failed) → job.state = state →
        Except.ok { db with jobs := db.jobs.put (requeuedPublishJob db.now job runAt revision) } =
          (Except.ok db' : Except Error Db) →
        JobWrite db db' p ∧ Driven db.jobs db'.jobs p revision := by
      intro state idle _ written
      simp only [Except.ok.injEq] at written
      subst written
      refine ⟨jobWrite_put moved (Nat.le_refl _), ⟨?_, _, ?_, rfl, payload⟩⟩
      · intro other present
        rw [found] at present
        cases present
        exact idle
      · rw [← moved]
        exact Jobs.get_put_self _ _
    split at h
    · cases h
    · rename_i state
      exact result _ (Or.inl state) state h
    · rename_i state
      exact result _ (Or.inr state) state h
    · cases h

theorem insertPublishJob_ok (h : insertPublishJob db p runAt revision = .ok db') :
    JobWrite db db' p ∧ Driven db.jobs db'.jobs p revision := by
  unfold insertPublishJob at h
  split at h
  · split at h
    · cases h
    · exact updatePublishJob_ok h
  · rename_i absent
    obtain ⟨write, -, job, found, state, command⟩ := insertPublishJobRow_ok h
    refine ⟨write, ⟨?_, job, found, state, command⟩⟩
    intro old present
    rw [absent] at present
    cases present

theorem updateFailedPublishJob_ok (h : updateFailedPublishJob db p runAt revision = .ok db') :
    JobWrite db db' p ∧
      (∀ job, db.jobs.get (.publish p) = some job → job.state = .failed) ∧
      ∃ job, db'.jobs.get (.publish p) = some job ∧ job.state = .failed := by
  unfold updateFailedPublishJob at h
  split at h
  · rename_i absent
    obtain ⟨write, -, job, found, state, -⟩ := insertPublishJobRow_ok h
    refine ⟨write, ?_, job, found, state⟩
    intro old present
    rw [absent] at present
    cases present
  · rename_i job found
    have key := Jobs.get_key db.jobs found
    split at h
    · rename_i state
      simp only [Except.ok.injEq] at h
      subst h
      have moved : (editedPublishJob db.now job revision).id.key = .publish p := key
      refine ⟨jobWrite_put moved (Nat.le_refl _), ?_, editedPublishJob db.now job revision, ?_,
        state⟩
      · intro other present
        rw [found] at present
        cases present
        exact state
      · rw [← moved]
        exact Jobs.get_put_self _ _
    · cases h

theorem cancelPublishJob_ok (h : cancelPublishJob db p = .ok db') :
    JobWrite db db' p ∧
      (∀ job, db.jobs.get (.publish p) = some job → job.state = .queued ∨ job.state = .failed) ∧
      ∀ job, db'.jobs.get (.publish p) = some job → job.state = .cancelled := by
  unfold cancelPublishJob at h
  split at h
  · rename_i absent
    simp only [Except.ok.injEq] at h
    subst h
    refine ⟨⟨rfl, rfl, fun _ _ => rfl, rfl, Nat.le_refl _⟩, ?_, ?_⟩ <;>
    · intro job present
      rw [absent] at present
      cases present
  · rename_i job found
    have key := Jobs.get_key db.jobs found
    have moved : (cancelledPublishJob db.now job).id.key = .publish p := key
    have result : (job.state = .queued ∨ job.state = .failed) →
        Except.ok { db with jobs := db.jobs.put (cancelledPublishJob db.now job) } =
          (Except.ok db' : Except Error Db) →
        JobWrite db db' p ∧
          (∀ job, db.jobs.get (.publish p) = some job →
            job.state = .queued ∨ job.state = .failed) ∧
          ∀ job, db'.jobs.get (.publish p) = some job → job.state = .cancelled := by
      intro idle written
      simp only [Except.ok.injEq] at written
      subst written
      refine ⟨jobWrite_put moved (Nat.le_refl _), ?_, ?_⟩
      · intro other present
        rw [found] at present
        cases present
        exact idle
      · intro other present
        have self := Jobs.get_put_self db.jobs (cancelledPublishJob db.now job)
        rw [moved] at self
        rw [self] at present
        cases present
        rfl
    split at h
    · cases h
    · rename_i state
      exact result (Or.inl state) h
    · rename_i state
      exact result (Or.inr state) h
    · cases h

end PublishJob

section Reads
variable {db : Db} {id : Uuid}

theorem lockPost_ok {post : Post} (h : lockPost db id = .ok post) : db.posts.get id = some post :=
  expect_ok.mp h

theorem lockChannelAndPost_ok {channel : Channel} {post : Post}
    (h : lockChannelAndPost db id = .ok (channel, post)) : db.posts.get id = some post := by
  simp only [lockChannelAndPost, bind_ok, pure_ok, Prod.mk.injEq] at h
  obtain ⟨found, locked, _, _, _, rfl⟩ := h
  exact lockPost_ok locked

theorem checkExpectedRevision_ok {post : Post} {expected : Int} {u : Unit}
    (h : checkExpectedRevision id post expected = .ok u) : expected = post.revision := by
  unfold checkExpectedRevision at h
  split at h
  · cases h
  · split at h
    · cases h
    · rename_i same
      exact not_not.mp same

theorem nextRevision_ok {current next : Nat} (h : nextRevision current = .ok next) :
    next = current + 1 := by
  unfold nextRevision at h
  split at h
  · cases h
    rfl
  · cases h

theorem databaseIncrement_ok {limit current next : Nat}
    (h : databaseIncrement limit current = .ok next) : next = current + 1 := by
  unfold databaseIncrement at h
  split at h
  · cases h
    rfl
  · cases h

theorem bumpRevision_ok {current next : Nat} (h : bumpRevision current = .ok next) :
    next = current + 1 := databaseIncrement_ok h

theorem ensureSchedulable_ok {channel : Channel} {post : Post} {expected : Int} {u : Unit}
    (h : ensureSchedulable db id channel post expected = .ok u) :
    post.state.isQueueMutable = true ∧ expected = post.revision := by
  simp only [ensureSchedulable, bind_ok, require_ok] at h
  obtain ⟨_, editable, _, checked, -⟩ := h
  exact ⟨editable, checkExpectedRevision_ok checked⟩

end Reads

section Operations
variable {calendar : Calendar} {db db' : Db} {p : Uuid}

/-- Writing a post and then its job changes nothing elsewhere. -/
theorem elsewhere_of_write {row : Post} (write : JobWrite (setPost db p row) db' p) :
    Elsewhere db db' p where
  posts := by
    intro q ne
    rw [write.posts]
    exact Table.get_set_ne _ _ ne
  jobs := write.jobs
  now := le_of_eq write.now.symm
  fresh := write.fresh

theorem row_of_write {row : Post} (write : JobWrite (setPost db p row) db' p) :
    db'.posts.get p = some row := by
  rw [write.posts]
  exact Table.get_set_self _ _ _

theorem elsewhere_setPost (row : Post) : Elsewhere db (setPost db p row) p :=
  elsewhere_of_write ⟨rfl, rfl, fun _ _ => rfl, rfl, Nat.le_refl _⟩

theorem commitQueued_effect {current row post : Post} {runAt : Time}
    (h : commitQueued db p current row runAt = .ok (db', post))
    (before : db.posts.get p = some current) (editable : current.state.isQueueMutable = true)
    (queued : row.state = .queued) (revision : row.revision = current.revision + 1) :
    ApiEffect db db' := by
  have driven : JobWrite (setPost db p row) db' p ∧
      Driven (setPost db p row).jobs db'.jobs p row.revision := by
    unfold commitQueued at h
    split at h
    · simp only [bind_ok, pure_ok, Prod.mk.injEq] at h
      obtain ⟨written, job, rfl, -⟩ := h
      exact insertPublishJob_ok job
    · simp only [bind_ok, pure_ok, Prod.mk.injEq] at h
      obtain ⟨written, job, rfl, -⟩ := h
      exact updatePublishJob_ok job
  obtain ⟨write, drives⟩ := driven
  exact .edit (elsewhere_of_write write) before (row_of_write write) editable
    revision (.queued queued drives)

theorem replayed_effect {current post : Post} {stored : Option Digest} {hash : Digest}
    {key : String} (h : replayed db current stored hash key = .ok (db', post)) : db' = db := by
  simp only [replayed, bind_ok, pure_ok, Prod.mk.injEq] at h
  obtain ⟨_, -, rfl, -⟩ := h
  rfl

theorem schedulePost_effect {schedule : PostSchedule} {post : Post}
    (h : schedulePost calendar db schedule = .ok (db', post)) : ApiEffect db db' := by
  simp only [schedulePost, bind_ok] at h
  obtain ⟨⟨channel, current⟩, locked, h⟩ := h
  have before := lockChannelAndPost_ok locked
  split at h
  · rw [replayed_effect h]
    exact .quiet (.refl db)
  · simp only [bind_ok] at h
    obtain ⟨_, checked, slot, -, revision, next, h⟩ := h
    exact commitQueued_effect h before (ensureSchedulable_ok checked).1 rfl (nextRevision_ok next)

theorem schedulePostExact_effect {schedule : PostSchedule} {post : Post}
    (h : schedulePostExact db schedule = .ok (db', post)) : ApiEffect db db' := by
  simp only [schedulePostExact, bind_ok] at h
  obtain ⟨⟨channel, current⟩, locked, h⟩ := h
  have before := lockChannelAndPost_ok locked
  split at h
  · rw [replayed_effect h]
    exact .quiet (.refl db)
  · simp only [bind_ok] at h
    obtain ⟨_, -, _, checked, revision, next, h⟩ := h
    exact commitQueued_effect h before (ensureSchedulable_ok checked).1 rfl (nextRevision_ok next)

theorem publishNow_effect {key : String} {expectedRevision : Int} {post : Post}
    (h : publishNow db p key expectedRevision = .ok (db', post)) : ApiEffect db db' := by
  simp only [publishNow, bind_ok] at h
  obtain ⟨requestKey, -, ⟨channel, current⟩, locked, h⟩ := h
  have before := lockChannelAndPost_ok locked
  split at h
  · rw [replayed_effect h]
    exact .quiet (.refl db)
  · simp only [bind_ok] at h
    obtain ⟨_, checked, revision, next, h⟩ := h
    exact commitQueued_effect h before (ensureSchedulable_ok checked).1 rfl (nextRevision_ok next)

theorem updatePost_effect {update : PostUpdate} {post : Post}
    (h : updatePost db p update = .ok (db', post)) : ApiEffect db db' := by
  simp only [updatePost, bind_ok, require_ok, pure_ok, Prod.mk.injEq] at h
  obtain ⟨_, -, _, -, ⟨channel, current⟩, locked, _, editable, _, -, _, -, revision, next,
    written, job, rfl, rfl⟩ := h
  have before := lockChannelAndPost_ok locked
  have bumped := bumpRevision_ok next
  unfold editPublishJob at job
  split at job
  · rename_i state
    obtain ⟨write, drives⟩ := updatePublishJob_ok job
    exact .edit (elsewhere_of_write write) before (row_of_write write) editable
      bumped (.queued state drives)
  · rename_i state
    obtain ⟨write, idle, kept⟩ := updateFailedPublishJob_ok job
    exact .edit (elsewhere_of_write write) before (row_of_write write) editable
      bumped (.failed state state idle kept)
  · rename_i notQueued notFailed
    cases job
    have draft : current.state = .draft := by
      revert editable
      cases state : current.state <;> simp_all [PostState.isQueueMutable]
    exact .edit (elsewhere_setPost _) before (Table.get_set_self _ _ _) editable
      bumped (.drafted draft (Or.inl draft) rfl)

theorem decidePost_effect {decision : PublicationDecision} {key : String}
    {expectedRevision : Int} {post : Post}
    (h : decidePost calendar db p decision key expectedRevision = .ok (db', post)) :
    ApiEffect db db' := by
  simp only [decidePost, bind_ok] at h
  obtain ⟨requestKey, -, ⟨channel, current⟩, locked, h⟩ := h
  have before := lockChannelAndPost_ok locked
  split at h
  · rw [replayed_effect h]
    exact .quiet (.refl db)
  · simp only [bind_ok, require_ok] at h
    obtain ⟨_, draft, _, -, _, -, _, -, revision, next, h⟩ := h
    have editable : current.state.isQueueMutable = true := by rw [draft]; rfl
    have bumped := nextRevision_ok next
    split at h
    · simp only [pure_ok, Prod.mk.injEq] at h
      obtain ⟨rfl, -⟩ := h
      exact .edit (elsewhere_setPost _) before (Table.get_set_self _ _ _) editable
        bumped (.drafted draft (Or.inr rfl) rfl)
    · simp only [bind_ok, pure_ok, Prod.mk.injEq] at h
      obtain ⟨_, -, _, -, ⟨scheduledAt, slot⟩, -, written, job, rfl, -⟩ := h
      obtain ⟨write, drives⟩ := insertPublishJob_ok job
      exact .edit (elsewhere_of_write write) before (row_of_write write) editable
        bumped (.queued rfl drives)

theorem cancelPost_effect {expectedRevision : Int} {post : Post}
    (h : cancelPost db p expectedRevision = .ok (db', post)) : ApiEffect db db' := by
  simp only [cancelPost, bind_ok, require_ok, pure_ok, Prod.mk.injEq] at h
  obtain ⟨⟨channel, current⟩, locked, _, editable, _, -, written, job, revision, next, rfl, -⟩ := h
  have before := lockChannelAndPost_ok locked
  have bumped := nextRevision_ok next
  unfold withdrawPublishJob at job
  split at job
  · rename_i draft
    cases job
    exact .edit (elsewhere_setPost _) before (Table.get_set_self _ _ _) editable
      bumped (.drafted draft (Or.inr rfl) rfl)
  · obtain ⟨write, idle, ended⟩ := cancelPublishJob_ok job
    refine .edit ⟨?_, write.jobs, le_of_eq write.now.symm, write.fresh⟩ before
      (Table.get_set_self _ _ _) editable bumped (.cancelled rfl idle ended)
    intro q ne
    rw [← write.posts]
    exact Table.get_set_ne _ _ ne

theorem insertPost_ok {row : Post} {id : Uuid} (h : insertPost db row = .ok (db', id)) :
    id = db.fresh ∧ db' = { setPost db db.fresh row with fresh := db.fresh + 1 } := by
  simp only [insertPost, bind_ok, pure_ok, Prod.mk.injEq] at h
  obtain ⟨_, -, _, -, written, drawn⟩ := h
  exact ⟨drawn.symm, written.symm⟩

/-- A draft inserted under a fresh identifier. -/
theorem insertPost_effect {row : Post} {id : Uuid} (h : insertPost db row = .ok (db', id))
    (draft : row.state = .draft) : ApiEffect db db' := by
  obtain ⟨-, rfl⟩ := insertPost_ok h
  have elsewhere : Elsewhere db (setPost db db.fresh row) db.fresh := elsewhere_setPost row
  exact .write db.fresh ⟨elsewhere.posts, elsewhere.jobs, elsewhere.now, Nat.le_succ _⟩
    (.created row rfl (Nat.lt_succ_self _) (Table.get_set_self _ _ _) (Or.inl ⟨draft, rfl⟩))

theorem createPostIdempotent_effect {post : NewPost} {key : String} {hash : Digest}
    {result : CreatePostResult} (h : createPostIdempotent db post key hash = .ok (db', result)) :
    ApiEffect db db' := by
  simp only [createPostIdempotent, bind_ok] at h
  obtain ⟨_, -, _, -, requestKey, -, _, -, channel, -, _, -, h⟩ := h
  split at h
  · simp only [bind_ok, pure_ok, Prod.mk.injEq] at h
    obtain ⟨_, -, rfl, -⟩ := h
    exact .quiet (.refl db)
  · simp only [bind_ok, pure_ok, Prod.mk.injEq] at h
    obtain ⟨⟨written, id⟩, inserted, rfl, -⟩ := h
    exact insertPost_effect inserted rfl

theorem intendedPost_state (db : Db) (key hash origin mediaId channelId channel intent evaluationAt) :
    (intendedPost db key hash origin mediaId channelId channel intent evaluationAt).state = .draft ∨
      (intendedPost db key hash origin mediaId channelId channel intent evaluationAt).state =
        .queued := by
  simp only [intendedPost]
  split
  · exact Or.inr rfl
  · exact Or.inl rfl

theorem insertIntendedPost_effect {key : String} {hash : Digest} {origin : Option Uuid}
    {mediaId channelId : Uuid} {channel : Channel} {intent : PublicationIntent}
    {result : CreatePostResult}
    (h : insertIntendedPost calendar db key hash origin mediaId channelId channel intent =
      .ok (db', result)) : ApiEffect db db' := by
  simp only [insertIntendedPost, bind_ok] at h
  obtain ⟨evaluationAt, -, ⟨written, id⟩, inserted, h⟩ := h
  have state := intendedPost_state db key hash origin mediaId channelId channel intent evaluationAt
  split at h
  · rename_i queued
    simp only [bind_ok, pure_ok, Prod.mk.injEq] at h
    obtain ⟨final, job, rfl, -⟩ := h
    obtain ⟨rfl, rfl⟩ := insertPost_ok inserted
    obtain ⟨write, drives⟩ := insertPublishJob_ok job
    refine .write db.fresh ⟨?_, write.jobs, le_of_eq write.now.symm, ?_⟩
      (.created _ rfl ?_ ?_ (Or.inr ⟨queued, drives⟩))
    · intro q ne
      rw [write.posts]
      exact Table.get_set_ne _ _ ne
    · exact le_trans (Nat.le_succ _) write.fresh
    · exact lt_of_lt_of_le (Nat.lt_succ_self _) write.fresh
    · rw [write.posts]
      exact Table.get_set_self _ _ _
  · rename_i notQueued
    simp only [pure_ok, Prod.mk.injEq] at h
    obtain ⟨rfl, -⟩ := h
    exact insertPost_effect inserted (state.resolve_right notQueued)

theorem createPublicationIntent_effect {mediaId : Uuid} {intent : PublicationIntent}
    {key : String} {result : CreatePostResult}
    (h : createPublicationIntent calendar db mediaId intent key = .ok (db', result)) :
    ApiEffect db db' := by
  simp only [createPublicationIntent, bind_ok] at h
  obtain ⟨requestKey, -, h⟩ := h
  split at h
  · simp only [bind_ok, pure_ok, Prod.mk.injEq] at h
    obtain ⟨_, -, rfl, -⟩ := h
    exact .quiet (.refl db)
  · simp only [bind_ok] at h
    obtain ⟨_, -, channelId, -, channel, -, h⟩ := h
    exact insertIntendedPost_effect h

theorem materializeIngest_effect {ingestId : Uuid} {result : Option CreatePostResult}
    (h : materializeIngest calendar db ingestId = .ok (db', result)) : ApiEffect db db' := by
  simp only [materializeIngest, bind_ok] at h
  obtain ⟨ingest, -, h⟩ := h
  split at h
  · simp only [pure_ok, Prod.mk.injEq] at h
    obtain ⟨rfl, -⟩ := h
    exact .quiet (.refl db)
  · simp only [bind_ok] at h
    obtain ⟨_, -, h⟩ := h
    split at h
    · simp only [pure_ok, Prod.mk.injEq] at h
      obtain ⟨rfl, -⟩ := h
      exact .quiet (.refl db)
    · simp only [bind_ok, pure_ok, Prod.mk.injEq] at h
      obtain ⟨mediaId, -, _, -, channelId, -, channel, -, _, -, intent, -, ⟨written, inserted⟩,
        h, rfl, -⟩ := h
      exact insertIntendedPost_effect h

end Operations

end Sooqa.Publisher
