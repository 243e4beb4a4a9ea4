import Sooqa.Inbox.Effects
import Sooqa.Publisher.Effects

/-!
What the transactions around the stages can do: submissions, the decisions on
a pending duplicate, settlement and recovery of stage jobs, storage results,
and the calls that leave every ingest and every stage job alone.
-/
namespace Sooqa.Inbox
open Foundation Queue Worker
open Library (SameRequest Linked IsFollowUp StorageWrite LinkedChange)

section Decisions
variable {db db' : Db} {id : Uuid}

/-- The first job of an ingest, inserted under its generation's key. -/
theorem insertFirstJob_enqueues (db : Db) (id : Uuid) (request : Ingest) :
    Enqueues (· = .stage (firstStage request.kind) id request.forceSave) db
      (insertFirstJob db id request) := by
  unfold insertFirstJob
  cases request.kind <;> exact insertStageJob_enqueues _ _ _ _ _ _

theorem insertFirstJob_present (db : Db) (id : Uuid) (request : Ingest) : ∃ job,
    (insertFirstJob db id request).jobs.get (.stage (firstStage request.kind) id request.forceSave) =
      some job := by
  unfold insertFirstJob
  cases request.kind <;> exact insertStageJob_present _ _ _ _ _ _

theorem Rewrote.of_drawn (db : Db) (id : Uuid) (request' : Ingest) :
    Rewrote db { setIngest db id request' with fresh := db.fresh + 1 } id request' :=
  ⟨Table.get_set_self _ _ _, fun _ ne => Table.get_set_ne _ _ ne, rfl, rfl, Nat.le_succ _⟩

structure Created (db db' : Db) (submission : IngestSubmission) (request : Ingest) : Prop where
  write : Rewrote db db' db.fresh request
  drawn : db.fresh < db'.fresh
  status : request.status = .queued
  media : request.mediaId = none
  unforced : request.forceSave = false
  workspace : request.workspaceId = submission.telegramWorkspaceId.getD db.fresh
  unrecorded : Unrecorded (firstStage request.kind) request
  added : Added (· = .stage (firstStage request.kind) db.fresh false) db.jobs db'.jobs
  present : ∃ job, db'.jobs.get (.stage (firstStage request.kind) db.fresh false) = some job

theorem createIngest_ok {submission : IngestSubmission} {result : CreateIngestResult}
    (h : createIngest db submission = .ok (db', result)) :
    db' = db ∨ ∃ request, Created db db' submission request := by
  unfold createIngest at h
  split at h
  · simp only [bind_ok, pure_ok, Prod.mk.injEq] at h
    obtain ⟨-, -, rfl, -⟩ := h
    exact Or.inl rfl
  · simp only [bind_ok, pure_ok, Prod.mk.injEq] at h
    obtain ⟨-, -, channelId, -, rfl, -⟩ := h
    generalize row : { queuedIngest db.fresh db.now submission with
      requestedChannelId := channelId } = request
    have enqueues := insertFirstJob_enqueues
      { setIngest db db.fresh request with fresh := db.fresh + 1 } db.fresh request
    have present := insertFirstJob_present
      { setIngest db db.fresh request with fresh := db.fresh + 1 } db.fresh request
    have unforced : request.forceSave = false := by rw [← row]; rfl
    rw [unforced] at enqueues present
    refine Or.inr ⟨request, (Rewrote.of_drawn _ _ _).then_enqueued enqueues,
      Nat.lt_of_lt_of_le (Nat.lt_succ_self _) enqueues.fresh, ?_, ?_, unforced, ?_, ?_,
      enqueues.rows, present⟩
    · rw [← row]
      rfl
    · rw [← row]
      rfl
    · rw [← row]
      rfl
    · subst row
      refine ⟨fun first => ?_, fun _ => rfl, fun _ => rfl, rfl⟩
      cases kind : submission.kind with
      | url => exact kind
      | telegramMessage => simp [queuedIngest, kind, firstStage] at first
      | upload => simp [queuedIngest, kind, firstStage] at first

structure Resumed (db db' : Db) (id : Uuid) (request request' : Ingest) : Prop where
  found : db.ingests.get id = some request
  pending : request.status = .duplicatePending
  write : Rewrote db db' id request'
  drawn : db.fresh < db'.fresh
  status : request'.status = .queued
  kind : request'.kind = request.kind
  action : request'.requestedAction = request.requestedAction
  media : request'.mediaId = request.mediaId
  forced : request'.forceSave = true
  workspace : request'.workspaceId = db.fresh
  unrecorded : Unrecorded (firstStage request.kind) request'
  added : Added (· = .stage (firstStage request.kind) id true) db.jobs db'.jobs
  present : ∃ job, db'.jobs.get (.stage (firstStage request.kind) id true) = some job

theorem forceSave_ok {result : ForceSaveResult} (h : forceSave db id = .ok (db', result)) :
    (db' = db ∧ result.resumed = false) ∨ ∃ request request', Resumed db db' id request request' := by
  simp only [forceSave, bind_ok] at h
  obtain ⟨request, found, h⟩ := h
  split at h
  · rename_i pending
    simp only [bind_ok, pure_ok, Prod.mk.injEq] at h
    obtain ⟨resumed, moved, rfl, -⟩ := h
    have row := transitionTo_ok moved
    have forced : resumed.forceSave = true := by rw [row]; rfl
    have kind : resumed.kind = request.kind := by rw [row]; rfl
    have enqueues := insertFirstJob_enqueues
      { setIngest db id resumed with fresh := db.fresh + 1 } id resumed
    have present := insertFirstJob_present
      { setIngest db id resumed with fresh := db.fresh + 1 } id resumed
    rw [forced, kind] at enqueues present
    refine Or.inr ⟨request, resumed, loadRequest_ok found, pending, ?_, ?_, ?_, kind, ?_, ?_, forced,
      ?_, ?_, enqueues.rows, present⟩
    · exact (Rewrote.of_drawn _ _ _).then_enqueued enqueues
    · exact Nat.lt_of_lt_of_le (Nat.lt_succ_self _) enqueues.fresh
    · rw [row]
    · rw [row]
      rfl
    · rw [row]
      rfl
    · rw [row]
      rfl
    · refine ⟨fun first => ?_, fun _ => by rw [row]; rfl, fun _ => by rw [row]; rfl,
        by rw [row]; rfl⟩
      cases source : request.kind with
      | url => rw [kind, source]
      | telegramMessage => simp [source, firstStage] at first
      | upload => simp [source, firstStage] at first
  · simp only [bind_ok, pure_ok, Prod.mk.injEq] at h
    obtain ⟨-, -, rfl, rfl⟩ := h
    exact Or.inl ⟨rfl, rfl⟩

structure Accepted (db db' : Db) (id : Uuid) (request request' : Ingest) : Prop where
  found : db.ingests.get id = some request
  pending : request.status = .duplicatePending
  write : Rewrote db db' id request'
  same : SameRequest request request'
  linked : Linked request'
  added : Added (followsUp id) db.jobs db'.jobs
  promised : request'.status = .completed → request'.requestedAction ≠ .save →
    ∃ job, db'.jobs.get (.materializePublication id) = some job

theorem acceptedIngest_ok {now : Time} {mediaId : Uuid} {ready : Bool} {request accepted : Ingest}
    (h : acceptedIngest now mediaId ready request = .ok accepted) :
    SameRequest request accepted ∧ Linked accepted ∧
      (accepted.status = .completed → ready = true) := by
  simp only [acceptedIngest, bind_ok] at h
  obtain ⟨storing, moved, h⟩ := h
  have row := transitionTo_ok moved
  subst row
  split at h
  · rename_i isReady
    simp only [bind_ok, pure_ok] at h
    obtain ⟨completed, again, rfl⟩ := h
    have done := transitionTo_ok again
    subst done
    exact ⟨⟨rfl, rfl, rfl, rfl⟩, ⟨rfl, Or.inr (Or.inl rfl)⟩, fun _ => isReady⟩
  · simp only [pure_ok] at h
    subst h
    exact ⟨⟨rfl, rfl, rfl, rfl⟩, ⟨rfl, Or.inl rfl⟩, nofun⟩

theorem decideDuplicate_ok {request accepted : Ingest} {mediaId : Uuid}
    (found : db.ingests.get id = some request)
    (h : decideDuplicate db id request mediaId = .ok (db', accepted)) :
    Accepted db db' id request accepted := by
  simp only [decideDuplicate, bind_ok, pure_ok, require_ok, Prod.mk.injEq] at h
  obtain ⟨-, pending, evidence, -, -, -, candidate, -, -, -, row, decided, rfl, rfl⟩ := h
  obtain ⟨same, linked, ready⟩ := acceptedIngest_ok decided
  have enqueued : Enqueues (followsUp id)
      (Library.setMedia db mediaId (mergedDuplicate db.now request candidate))
      (if (candidate.storageState == .ready && request.requestedAction != .save) = true then
        insertMaterializationJob
          (Library.setMedia db mediaId (mergedDuplicate db.now request candidate)) id
      else Library.setMedia db mediaId (mergedDuplicate db.now request candidate)) := by
    split
    · exact insertMaterializationJob_enqueues _ _
    · exact .refl _ _
  have write : Rewrote _ (setIngest _ id row) id row := .after_enqueued enqueued
  refine ⟨found, pending, ⟨write.here, write.others, write.posts, write.now, write.fresh⟩, same,
    linked, enqueued.rows, ?_⟩
  intro completed publishes
  rw [same.requestedAction] at publishes
  have asked : (candidate.storageState == .ready && request.requestedAction != .save) = true := by
    simp [ready completed, publishes]
  simp only [asked, if_true]
  exact ⟨_, (Db.enqueue_jobs_get _ _ _ _ _ _ _).trans (if_pos rfl)⟩

theorem acceptDuplicate_ok {mediaId : Uuid} {result : AcceptDuplicateResult}
    (h : acceptDuplicate db id mediaId = .ok (db', result)) :
    db' = db ∨ ∃ request request', Accepted db db' id request request' := by
  simp only [acceptDuplicate, bind_ok] at h
  obtain ⟨request, found, h⟩ := h
  split at h
  · simp only [bind_ok, pure_ok, Prod.mk.injEq] at h
    obtain ⟨-, -, rfl, -⟩ := h
    exact Or.inl rfl
  · simp only [bind_ok, pure_ok, Prod.mk.injEq] at h
    obtain ⟨⟨decided, accepted⟩, decision, rfl, -⟩ := h
    exact Or.inr ⟨request, accepted, decideDuplicate_ok (loadRequest_ok found) decision⟩

end Decisions

section Settlement
variable {db db' : Db} {id : Uuid}

/-- What settling a stage job does to its ingest: nothing while attempts are
    left, and with the last one the ingest ends. -/
inductive StageSettled (db db' : Db) (job : Job) (id : Uuid) : Prop where
  | requeued (settled : Job) (jobs : db'.jobs = db.jobs.put settled) (same : settled.id = job.id)
      (state : settled.state = .queued) (ingests : db'.ingests = db.ingests)
      (posts : db'.posts = db.posts) (now : db'.now = db.now) (fresh : db.fresh ≤ db'.fresh)
  | abandoned (settled : Job) (middle : Jobs) (added : Added IsCleanup db.jobs middle)
      (jobs : db'.jobs = middle.put settled) (same : settled.id = job.id)
      (state : settled.state = .failed) (request : Ingest)
      (found : db.ingests.get id = some request)
      (write : Rewrote db db' id (abandonedIngest db.now request))
  | orphaned (settled : Job) (jobs : db'.jobs = db.jobs.put settled) (same : settled.id = job.id)
      (state : settled.state = .failed) (absent : db.ingests.get id = none)
      (ingests : db'.ingests = db.ingests) (posts : db'.posts = db.posts) (now : db'.now = db.now)
      (fresh : db.fresh ≤ db'.fresh)

theorem settleStage_settled {job : Job} {update : QueueUpdate}
    (state : update.state = if update.terminal then .failed else .queued) :
    StageSettled db (settleStage db job id update) job id := by
  unfold settleStage
  cases terminal : update.terminal with
  | false =>
    rw [terminal] at state
    exact .requeued _ rfl rfl state rfl rfl rfl le_rfl
  | true =>
    rw [terminal] at state
    simp only [if_true, abandonIngest]
    split
    · rename_i absent
      exact .orphaned _ rfl rfl state absent rfl rfl rfl le_rfl
    · rename_i request found
      have write := (Rewrote.of_set db id (abandonedIngest db.now request)).then_enqueued
        (enqueueWorkspaceCleanup_enqueues _ id request.workspaceId
          (db.now + workspaceCleanupRetention))
      exact .abandoned _ _ (enqueueWorkspaceCleanup_enqueues _ _ _ _).rows rfl rfl state request found
        ⟨write.here, write.others, write.posts, write.now, write.fresh⟩

theorem settleJob_ok {lease : JobLease} {expected : JobCommand} {settlement : JobSettlement}
    {answer : Job} (h : settleJob db lease expected settlement = .ok (db', answer)) :
    ∃ job id, db.jobs.get lease.jobId.key = some job ∧ job.lease = some lease ∧
      job.command.stageIngest = some id ∧ StageSettled db db' job id := by
  simp only [settleJob, bind_ok, expect_ok, pure_ok, Prod.mk.injEq] at h
  obtain ⟨-, -, job, locked, command, valid, id, ingest, rfl, -⟩ := h
  obtain ⟨found, shows⟩ := lockRunningJob_shows locked
  rw [(validateLockedCommand_ok valid).1] at ingest
  exact ⟨job, id, found, shows, ingest, settleStage_settled (queueParameters_state job settlement)⟩

theorem recoverJob_ok {jobId : JobId} {expected : JobCommand} {answer : Bool}
    (h : recoverJob db jobId expected = .ok (db', answer)) :
    db' = db ∨ ∃ job lease id, db.jobs.get jobId.key = some job ∧ job.lease = some lease ∧
      job.command.stageIngest = some id ∧ StageSettled db db' job id := by
  simp only [recoverJob, bind_ok] at h
  obtain ⟨-, -, h⟩ := h
  split at h
  · simp only [pure_ok, Prod.mk.injEq] at h
    exact Or.inl h.1.symm
  · rename_i job locked
    simp only [bind_ok, expect_ok, pure_ok, Prod.mk.injEq] at h
    obtain ⟨command, valid, id, ingest, rfl, -⟩ := h
    obtain ⟨found, same, columns, running, -⟩ := lockExpiredJob_eq_some.mp locked
    rw [(validateLockedCommand_ok valid).1] at ingest
    exact Or.inr ⟨job, _, id, found, Job.lease_eq_some.mpr ⟨columns, running, rfl⟩, ingest,
      settleStage_settled (expiredUpdate_state db.now job)⟩

theorem StageSettled.fenced {job : Job} (h : StageSettled db db' job id) (now : Time) :
    Fenced now db.jobs db'.jobs := by
  cases h with
  | requeued settled jobs same state =>
    rw [jobs]
    exact .put_idle _ (Job.lease_eq_none (fun _ => by rw [state]; exact JobState.noConfusion))
  | abandoned settled middle added jobs same state =>
    rw [jobs]
    exact (added.fenced now).trans
      (.put_idle _ (Job.lease_eq_none (fun _ => by rw [state]; exact JobState.noConfusion)))
  | orphaned settled jobs same state =>
    rw [jobs]
    exact .put_idle _ (Job.lease_eq_none (fun _ => by rw [state]; exact JobState.noConfusion))

end Settlement

section Storage
variable {db db' : Db}

theorem clearLocalWorkPath_write (db : Db) (mediaId : Uuid) (states : List MediaStorageState)
    (updatedAt : Media → Time) :
    StorageWrite db (clearLocalWorkPath db mediaId states updatedAt) := by
  unfold clearLocalWorkPath
  split
  · split
    · exact .of_setMedia _ _ _
    · exact .refl db
  · exact .refl db

theorem completeStorageForMedia_write (db : Db) (mediaId : Uuid) :
    StorageWrite db (completeStorageForMedia db mediaId) :=
  (((Library.updateLinked_write (fun _ media _ =>
    Library.completedIngest_relinked _ media)).trans
    (.of_enqueues (insertMaterializationJobs_enqueues _ _)
      (fun _ => Library.isFollowUp_of_materialization))).trans
    (clearLocalWorkPath_write _ _ _ _)).trans
    (.of_enqueues (enqueueWorkspaceCleanupForMedia_enqueues _ _ _)
      (fun _ => Library.isFollowUp_of_cleanup))

theorem missStorage_write (db : Db) (mediaId : Uuid) : StorageWrite db (missStorage db mediaId) := by
  unfold missStorage
  split
  · split
    · exact (StorageWrite.of_setMedia _ _ _).trans
        (.of_enqueues (enqueueWorkspaceCleanupForMedia_enqueues _ _ _)
          (fun _ => Library.isFollowUp_of_cleanup))
    · exact .refl db
  · exact .refl db

theorem failedStorage_write {mediaId : Uuid} {status : IngestStatus} {errorMessage : String}
    (allowed : status = .failedRetryable ∨ status = .failedTerminal) :
    StorageWrite db (Library.updateLinked db mediaId
      (fun ingest => ingest.status == .storing ||
        (ingest.status == .failedRetryable && ingest.errorCode == some "storage_upload"))
      (failedStorageIngest db.now status "storage_upload" errorMessage)) := by
  refine Library.updateLinked_write (fun ingest media _ => ⟨⟨?_, ?_⟩, ⟨rfl, rfl, rfl, rfl⟩, rfl, rfl⟩)
  · simp [failedStorageIngest, media]
  · rcases allowed with rfl | rfl <;> simp [failedStorageIngest, Library.storageFailed]

theorem failStorageForMedia_write {mediaId : Uuid} {status : IngestStatus} {errorMessage : String}
    {answer : Unit}
    (h : failStorageForMedia db mediaId status "storage_upload" errorMessage = .ok (db', answer)) :
    StorageWrite db db' := by
  simp only [failStorageForMedia, bind_ok, pure_ok, require_ok, Prod.mk.injEq] at h
  obtain ⟨-, allowed, rfl, -⟩ := h
  split
  · exact (failedStorage_write allowed).trans (missStorage_write _ _)
  · exact failedStorage_write allowed

/-- What any storage call can do. -/
theorem StorageCall.run_write (db : Db) (call : StorageCall) : StorageWrite db (call.run db) := by
  cases call with
  | completeUpload => exact .of_committed (fun _ _ => Library.completeStorageUpload_write)
  | markOwnedUnknown => exact .of_committed (fun _ _ => Library.markOwnedUploadUnknown_write)
  | markUnknown => exact .of_committed (fun _ _ => Library.markStorageUploadUnknown_write)
  | reset => exact .of_committed (fun _ _ => Library.resetStorageUpload_write)
  | attach => exact .of_committed (fun _ _ => Library.attachStorageUpload_write)
  | completeForMedia mediaId => exact completeStorageForMedia_write db mediaId
  | failForMedia => exact .of_committed (fun _ _ => failStorageForMedia_write)
  | settle => exact .of_committed (fun _ _ => Library.settleStorageJob_write)
  | recover => exact .of_committed (fun _ _ => Library.recoverStorageJob_write)

end Storage

section Beside
variable {db db' : Db} {calendar : Publisher.Calendar}

/-- A call that leaves every ingest and every job but those of posts alone. -/
structure Beside (db db' : Db) : Prop where
  ingests : db'.ingests = db.ingests
  jobs : ∀ key, (∀ postId, key ≠ .publish postId) → db'.jobs.get key = db.jobs.get key
  posts : ∀ postId, postId ≠ db.fresh → db'.posts.get postId = db.posts.get postId
  now : db'.now = db.now
  fresh : db.fresh ≤ db'.fresh

theorem Beside.refl (db : Db) : Beside db db := ⟨rfl, fun _ _ => rfl, fun _ _ => rfl, rfl, le_rfl⟩

theorem beginVideoIdentity_ok {id : Uuid} {lease : JobLease} {ingest : Library.MediaIngest}
    {fingerprint : Option Library.VideoFingerprintInput} {start : StageStart}
    {exactMediaId : Option Uuid}
    (h : beginVideoIdentity db id lease ingest fingerprint = .ok (db', start, exactMediaId)) :
    db' = db ∧ ((∃ request, start = .ready request) ∨ isCurrent db lease = false ∨
      ∀ request, db.ingests.get id = some request → request.status ≠ .fingerprinting) := by
  simp only [beginVideoIdentity, bind_ok] at h
  obtain ⟨request, found, h⟩ := h
  split at h
  · rename_i stopped
    simp only [pure_ok, Prod.mk.injEq] at h
    refine ⟨h.1.symm, Or.inr ?_⟩
    simp only [Bool.or_eq_true, decide_eq_true_eq, Bool.not_eq_true'] at stopped
    rcases stopped with other | lost
    · refine Or.inr (fun row here => ?_)
      rw [loadRequest_ok found] at here
      cases here
      exact other
    · exact Or.inl lost
  · simp only [bind_ok, pure_ok, Prod.mk.injEq] at h
    obtain ⟨preparation, -, rfl, rfl, -⟩ := h
    exact ⟨rfl, Or.inl ⟨request, rfl⟩⟩

theorem beginWorkspaceCleanup_ok {lease : JobLease} {ingestId workspaceId : Uuid}
    {start : WorkspaceCleanupStart}
    (h : beginWorkspaceCleanup db lease ingestId workspaceId = .ok (db', start)) :
    db'.ingests = db.ingests ∧ db'.jobs = db.jobs ∧ db'.posts = db.posts ∧ db'.now = db.now ∧
      db'.fresh = db.fresh := by
  unfold beginWorkspaceCleanup at h
  split at h
  · cases h
    exact ⟨rfl, rfl, rfl, rfl, rfl⟩
  · simp only [bind_ok] at h
    obtain ⟨request, -, h⟩ := h
    split at h
    · simp only [pure_ok, Prod.mk.injEq] at h
      rw [← h.1]
      exact ⟨rfl, rfl, rfl, rfl, rfl⟩
    · split at h
      · simp only [pure_ok, Prod.mk.injEq] at h
        rw [← h.1]
        exact ⟨rfl, rfl, rfl, rfl, rfl⟩
      · split at h
        · simp only [pure_ok, Prod.mk.injEq] at h
          rw [← h.1]
          unfold releaseWorkPath clearLocalWorkPath
          split
          · exact ⟨rfl, rfl, rfl, rfl, rfl⟩
          · split
            · split <;> exact ⟨rfl, rfl, rfl, rfl, rfl⟩
            · exact ⟨rfl, rfl, rfl, rfl, rfl⟩
        · simp only [pure_ok, Prod.mk.injEq] at h
          rw [← h.1]
          exact ⟨rfl, rfl, rfl, rfl, rfl⟩

theorem insertIntendedPost_beside {key : String} {hash : Digest} {origin : Option Uuid}
    {mediaId channelId : Uuid} {channel : Channel} {intent : PublicationIntent}
    {result : Publisher.CreatePostResult}
    (h : Publisher.insertIntendedPost calendar db key hash origin mediaId channelId channel intent =
      .ok (db', result)) :
    Beside db db' ∧ ∃ post, db'.posts.get db.fresh = some post ∧ post.originIngestId = origin := by
  simp only [Publisher.insertIntendedPost, bind_ok] at h
  obtain ⟨evaluationAt, -, ⟨written, id⟩, inserted, h⟩ := h
  obtain ⟨rfl, rfl⟩ := Publisher.insertPost_ok inserted
  have placed : Beside db
      { Publisher.setPost db db.fresh (Publisher.intendedPost db key hash origin mediaId channelId
        channel intent evaluationAt) with fresh := db.fresh + 1 } :=
    ⟨rfl, fun _ _ => rfl, fun _ ne => Table.get_set_ne _ _ ne, rfl, Nat.le_succ _⟩
  split at h
  · simp only [bind_ok, pure_ok, Prod.mk.injEq] at h
    obtain ⟨final, job, rfl, -⟩ := h
    obtain ⟨write, -⟩ := Publisher.insertPublishJob_ok job
    refine ⟨⟨write.ingests, fun key other => write.others key (other _), fun postId ne => ?_,
      write.now, le_trans (Nat.le_succ _) write.fresh⟩, Publisher.intendedPost db key hash origin
      mediaId channelId channel intent evaluationAt, ?_, rfl⟩
    · rw [write.posts]
      exact placed.posts postId ne
    · rw [write.posts]
      exact Table.get_set_self _ _ _
  · simp only [pure_ok, Prod.mk.injEq] at h
    obtain ⟨rfl, -⟩ := h
    exact ⟨placed, _, Table.get_set_self _ _ _, rfl⟩

theorem createPublicationIntent_beside {mediaId : Uuid} {intent : PublicationIntent} {key : String}
    {result : Publisher.CreatePostResult}
    (h : Publisher.createPublicationIntent calendar db mediaId intent key = .ok (db', result)) :
    Beside db db' := by
  simp only [Publisher.createPublicationIntent, bind_ok] at h
  obtain ⟨requestKey, -, h⟩ := h
  split at h
  · simp only [bind_ok, pure_ok, Prod.mk.injEq] at h
    obtain ⟨-, -, rfl, -⟩ := h
    exact .refl _
  · simp only [bind_ok] at h
    obtain ⟨-, -, channelId, -, channel, -, placed⟩ := h
    exact (insertIntendedPost_beside placed).1

theorem findPostByOrigin_some {ingestId postId : Uuid} {post : Post}
    (h : Publisher.findPostByOrigin db ingestId = some (postId, post)) :
    db.posts.get postId = some post ∧ post.originIngestId = some ingestId := by
  unfold Publisher.findPostByOrigin at h
  have member := List.mem_of_find?_eq_some h
  have holds := List.find?_some h
  exact ⟨(Table.mem_rows_iff _ _ _).mp member, by simpa using holds⟩

/-- A materialization that answers has a post for every ingest that asks for
    one. -/
theorem materializeIngest_ok {ingestId : Uuid} {result : Option Publisher.CreatePostResult}
    (h : Publisher.materializeIngest calendar db ingestId = .ok (db', result)) :
    Beside db db' ∧ ∀ request, db.ingests.get ingestId = some request →
      request.requestedAction ≠ .save →
      ∃ postId post, db'.posts.get postId = some post ∧ post.originIngestId = some ingestId := by
  simp only [Publisher.materializeIngest, bind_ok, expect_ok] at h
  obtain ⟨ingest, found, h⟩ := h
  split at h
  · rename_i saved
    simp only [pure_ok, Prod.mk.injEq] at h
    obtain ⟨rfl, -⟩ := h
    refine ⟨.refl _, fun request row asked => ?_⟩
    rw [found] at row
    cases row
    cases action : ingest.requestedAction <;> simp_all [Publisher.RequestedAction.publication]
  · simp only [bind_ok] at h
    obtain ⟨-, -, h⟩ := h
    split at h
    · rename_i postId post known
      simp only [pure_ok, Prod.mk.injEq] at h
      obtain ⟨rfl, -⟩ := h
      exact ⟨.refl _, fun _ _ _ => ⟨postId, post, findPostByOrigin_some known⟩⟩
    · simp only [bind_ok, pure_ok, Prod.mk.injEq] at h
      obtain ⟨mediaId, -, _, -, channelId, -, channel, -, _, -, intent, -, ⟨written, inserted⟩,
        placed, rfl, -⟩ := h
      obtain ⟨beside, post, row, origin⟩ := insertIntendedPost_beside placed
      exact ⟨beside, fun _ _ _ => ⟨db.fresh, post, row, origin⟩⟩

end Beside

end Sooqa.Inbox
