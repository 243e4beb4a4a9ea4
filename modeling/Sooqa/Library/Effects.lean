import Sooqa.Library.Storage

/-!
What the library transactions can do outside the media table. Identity
transactions touch media and caption jobs alone. Storage transactions move
linked ingests along the states of their media, add follow-up jobs and settle
upload jobs; they never touch an ingest without a media, a stage job or a post.
-/
namespace Sooqa.Library
open Foundation Queue

section Identity

def IsCaption (key : JobKey) : Prop :=
  ∃ mediaId generation after, key = .syncCaption mediaId generation after

/-- Only media rows changed, and caption jobs were added. -/
structure MediaWrite (db db' : Db) : Prop where
  ingests : db'.ingests = db.ingests
  posts : db'.posts = db.posts
  now : db'.now = db.now
  fresh : db.fresh ≤ db'.fresh
  jobs : Added IsCaption db.jobs db'.jobs

theorem MediaWrite.of_setMedia (db : Db) (id : Uuid) (row : Media) : MediaWrite db (setMedia db id row) :=
  ⟨rfl, rfl, rfl, le_rfl, .refl _ _⟩

theorem MediaWrite.then_enqueued {db mid db' : Db} (first : MediaWrite db mid)
    (second : Enqueues IsCaption mid db') : MediaWrite db db' where
  ingests := second.ingests.trans first.ingests
  posts := second.posts.trans first.posts
  now := second.now.trans first.now
  fresh := le_trans first.fresh second.fresh
  jobs := first.jobs.trans second.rows

theorem enqueueCaptionSyncIfPending_enqueues (db : Db) (mediaId : Uuid) (row : Media)
    (changed : Bool) :
    Enqueues IsCaption db (enqueueCaptionSyncIfPending db mediaId row changed) := by
  unfold enqueueCaptionSyncIfPending
  split
  · exact .of_enqueue ⟨mediaId, _, none, rfl⟩
  · exact .refl _ _

variable {db db' : Db}

theorem findMediaBySha_found {sha256 : String} {id : Uuid} {row : Media}
    (h : findMediaBySha db sha256 = some (id, row)) : db.media.get id = some row :=
  (Table.mem_rows_iff _ _ _).mp (List.mem_of_find?_eq_some h)

theorem nextCaptionSyncValues_storage {id : Uuid} {row captioned : Media} {changed : Bool}
    (h : nextCaptionSyncValues id row changed = .ok captioned) :
    captioned.storageState = row.storageState ∧ captioned.localWorkPath = row.localWorkPath := by
  unfold nextCaptionSyncValues at h
  split at h
  · cases h
    exact ⟨rfl, rfl⟩
  · split at h
    · cases h
      exact ⟨rfl, rfl⟩
    · split at h
      · cases h
        exact ⟨rfl, rfl⟩
      · cases h

theorem mergeMedia_write {id : Uuid} {row : Media} {ingest : MediaIngest}
    (h : mergeMedia db id row ingest = .ok db') : MediaWrite db db' := by
  simp only [mergeMedia, bind_ok, pure_ok] at h
  obtain ⟨captioned, -, rfl⟩ := h
  exact (MediaWrite.of_setMedia _ _ _).then_enqueued (enqueueCaptionSyncIfPending_enqueues _ _ _ _)

theorem insertMedia_write (db : Db) (ingest : MediaIngest) : MediaWrite db (insertMedia db ingest) :=
  ⟨rfl, rfl, rfl, Nat.le_succ _, .refl _ _⟩

theorem resolveMedia_write {ingest : MediaIngest} {mediaId : Uuid}
    (h : resolveMedia db ingest = .ok (db', mediaId)) : MediaWrite db db' := by
  unfold resolveMedia at h
  split at h
  · simp only [Except.ok.injEq, Prod.mk.injEq] at h
    obtain ⟨rfl, -⟩ := h
    exact insertMedia_write db ingest
  · simp only [bind_ok, pure_ok, Prod.mk.injEq] at h
    obtain ⟨merged, written, rfl, -⟩ := h
    exact mergeMedia_write written

/-- A new video is held as a duplicate only without a forced save. -/
theorem persistNewVideo_write {ingest : MediaIngest} {version : String}
    {decision : VideoIdentityDecision} {forceSave : Bool} {outcome : VideoIdentityOutcome}
    (h : persistNewVideo db ingest version decision forceSave = .ok (db', outcome)) :
    MediaWrite db db' ∧ ∀ evidence, outcome = .duplicatePending evidence → forceSave = false := by
  unfold persistNewVideo at h
  split at h
  · simp only [Except.ok.injEq, Prod.mk.injEq] at h
    obtain ⟨rfl, rfl⟩ := h
    exact ⟨insertMedia_write db ingest, nofun⟩
  · simp only [bind_ok] at h
    obtain ⟨-, -, h⟩ := h
    split at h
    · simp only [pure_ok, Prod.mk.injEq] at h
      obtain ⟨rfl, rfl⟩ := h
      exact ⟨insertMedia_write db ingest, nofun⟩
    · rename_i unforced
      simp only [bind_ok, pure_ok, Prod.mk.injEq] at h
      obtain ⟨-, -, rfl, rfl⟩ := h
      exact ⟨⟨rfl, rfl, rfl, le_rfl, .refl _ _⟩, fun _ _ => by simpa using unforced⟩

theorem persistVideoIdentity_write {ingest : MediaIngest}
    {fingerprint : Option VideoFingerprintInput} {decision : VideoIdentityDecision}
    {forceSave : Bool} {outcome : VideoIdentityOutcome}
    (h : persistVideoIdentity db ingest fingerprint decision forceSave = .ok (db', outcome)) :
    MediaWrite db db' ∧ ∀ evidence, outcome = .duplicatePending evidence → forceSave = false := by
  simp only [persistVideoIdentity, bind_ok] at h
  obtain ⟨-, -, h⟩ := h
  split at h
  · simp only [bind_ok, pure_ok, Prod.mk.injEq] at h
    obtain ⟨merged, written, rfl, rfl⟩ := h
    exact ⟨mergeMedia_write written, nofun⟩
  · simp only [bind_ok] at h
    obtain ⟨found, -, -, -, h⟩ := h
    exact persistNewVideo_write h

end Identity

section Linked

/-- The columns that no stage and no storage result changes. -/
structure SameRequest (request request' : Ingest) : Prop where
  kind : request'.kind = request.kind
  forceSave : request'.forceSave = request.forceSave
  workspaceId : request'.workspaceId = request.workspaceId
  requestedAction : request'.requestedAction = request.requestedAction

theorem SameRequest.refl (request : Ingest) : SameRequest request request := ⟨rfl, rfl, rfl, rfl⟩

theorem SameRequest.trans {first second third : Ingest} (one : SameRequest first second)
    (two : SameRequest second third) : SameRequest first third :=
  ⟨two.kind.trans one.kind, two.forceSave.trans one.forceSave,
    two.workspaceId.trans one.workspaceId, two.requestedAction.trans one.requestedAction⟩

/-- The ingest of a media, in a state that the storage of the media gives it. -/
structure Linked (request : Ingest) : Prop where
  media : request.mediaId.isSome = true
  status : request.status = .storing ∨ request.status = .completed ∨
    request.status = .failedTerminal ∨
    (request.status = .failedRetryable ∧ storageFailed request = true)

structure Relinked (request request' : Ingest) : Prop where
  linked : Linked request'
  same : SameRequest request request'
  media : request'.mediaId = request.mediaId
  data : request'.data = request.data

/-- An ingest row, before and after a storage transaction. -/
def LinkedChange (row row' : Option Ingest) : Prop :=
  row' = row ∨ ∃ request request', row = some request ∧ row' = some request' ∧
    Relinked request request'

theorem LinkedChange.trans {row row' row'' : Option Ingest} (first : LinkedChange row row')
    (second : LinkedChange row' row'') : LinkedChange row row'' := by
  rcases second with same | ⟨request', request'', before, after, moved⟩
  · rw [same]
    exact first
  · rcases first with same | ⟨request, other, found, written, linked⟩
    · exact Or.inr ⟨request', request'', same ▸ before, after, moved⟩
    · rw [written] at before
      cases before
      exact Or.inr ⟨request, request'', found, after, moved.linked, linked.same.trans moved.same,
        moved.media.trans linked.media, moved.data.trans linked.data⟩

def IsUpload (key : JobKey) : Prop := ∃ mediaId generation, key = .uploadStorage mediaId generation

/-- The jobs a storage transaction may add. -/
def IsFollowUp : JobKey → Prop
  | .materializePublication _ | .cleanupWorkspace _ _ | .uploadStorage _ _ | .syncCaption _ _ _ =>
    True
  | .stage _ _ _ | .publish _ => False

/-- What a storage transaction can do outside the media table. -/
structure StorageWrite (db db' : Db) : Prop where
  ingests : ∀ id, LinkedChange (db.ingests.get id) (db'.ingests.get id)
  posts : db'.posts = db.posts
  now : db'.now = db.now
  fresh : db.fresh ≤ db'.fresh
  jobs : ∀ key, ¬ IsUpload key → db'.jobs.get key = db.jobs.get key ∨
    (db.jobs.get key = none ∧ IsFollowUp key ∧
      ∃ job, db'.jobs.get key = some job ∧ job.state = .queued)
  fenced : Fenced db.now db.jobs db'.jobs

namespace StorageWrite
variable {db db' db'' : Db}

theorem refl (db : Db) : StorageWrite db db :=
  ⟨fun _ => Or.inl rfl, rfl, rfl, le_rfl, fun _ _ => Or.inl rfl, .refl _ _⟩

theorem trans (first : StorageWrite db db') (second : StorageWrite db' db'') :
    StorageWrite db db'' where
  ingests := fun id => (first.ingests id).trans (second.ingests id)
  posts := second.posts.trans first.posts
  now := second.now.trans first.now
  fresh := le_trans first.fresh second.fresh
  jobs := by
    intro key other
    rcases second.jobs key other with same | ⟨absent, right, job, found, queued⟩
    · rw [same]
      exact first.jobs key other
    · rcases first.jobs key other with before | ⟨-, -, old, present, -⟩
      · exact Or.inr ⟨before ▸ absent, right, job, found, queued⟩
      · rw [present] at absent
        cases absent
  fenced := first.fenced.trans (first.now ▸ second.fenced)

theorem of_enqueues {kind : JobKey → Prop} (h : Enqueues kind db db')
    (covers : ∀ key, kind key → IsFollowUp key) : StorageWrite db db' where
  ingests := fun _ => Or.inl (by rw [h.ingests])
  posts := h.posts
  now := h.now
  fresh := h.fresh
  jobs := fun key _ => (h.rows.weaken covers) key
  fenced := h.rows.fenced _

theorem of_setMedia (db : Db) (id : Uuid) (row : Media) : StorageWrite db (setMedia db id row) :=
  ⟨fun _ => Or.inl rfl, rfl, rfl, le_rfl, fun _ _ => Or.inl rfl, .refl _ _⟩

/-- A write of an upload job that shows no lease. -/
theorem of_upload {job : Job} (upload : IsUpload job.id.key) (idle : job.lease = none) :
    StorageWrite db { db with jobs := db.jobs.put job } where
  ingests := fun _ => Or.inl rfl
  posts := rfl
  now := rfl
  fresh := le_rfl
  jobs := fun _ other => Or.inl (Jobs.get_put_ne _ (fun same => other (same ▸ upload)))
  fenced := .put_idle _ idle

theorem of_committed {ε α : Type} {result : Except ε (Db × α)}
    (write : ∀ db' answer, result = .ok (db', answer) → StorageWrite db db') :
    StorageWrite db (committed db result) := by
  rcases committed_cases db result with same | ⟨answer, ok⟩
  · rw [same]
    exact .refl db
  · exact write _ answer ok

end StorageWrite

theorem isFollowUp_of_cleanup {key : JobKey} (h : IsCleanup key) : IsFollowUp key := by
  obtain ⟨ingestId, workspaceId, rfl⟩ := h
  trivial

theorem isFollowUp_of_caption {key : JobKey} (h : IsCaption key) : IsFollowUp key := by
  obtain ⟨mediaId, generation, after, rfl⟩ := h
  trivial

theorem isFollowUp_of_materialization {ids : List Uuid} {key : JobKey}
    (h : IsMaterialization ids key) : IsFollowUp key := by
  obtain ⟨id, -, rfl⟩ := h
  trivial

section Updates
variable {db : Db} {mediaId : Uuid} {affected : Ingest → Bool} {change : Ingest → Ingest}

theorem get_updateLinked (db : Db) (mediaId : Uuid) (affected : Ingest → Bool)
    (change : Ingest → Ingest) (id : Uuid) :
    (updateLinked db mediaId affected change).ingests.get id =
      (db.ingests.get id).map (fun ingest =>
        if ingest.mediaId = some mediaId ∧ affected ingest = true then change ingest
        else ingest) := Table.get_updateAll _ _ _

theorem updateLinked_write
    (relinks : ∀ ingest, ingest.mediaId = some mediaId → affected ingest = true →
      Relinked ingest (change ingest)) :
    StorageWrite db (updateLinked db mediaId affected change) where
  ingests := by
    intro id
    rw [get_updateLinked]
    cases found : db.ingests.get id with
    | none => exact Or.inl rfl
    | some request =>
      by_cases hit : request.mediaId = some mediaId ∧ affected request = true
      · exact Or.inr ⟨request, change request, rfl, by simp [hit], relinks request hit.1 hit.2⟩
      · exact Or.inl (by simp [hit])
  posts := rfl
  now := rfl
  fresh := le_rfl
  jobs := fun _ _ => Or.inl rfl
  fenced := .refl _ _

theorem mem_linkedPublications {id : Uuid} :
    id ∈ linkedPublications db mediaId affected ↔ ∃ request, db.ingests.get id = some request ∧
      request.mediaId = some mediaId ∧ affected request = true ∧
      request.requestedAction ≠ .save := by
  simp only [linkedPublications, List.mem_filterMap, Option.ite_none_right_eq_some,
    Option.some.injEq, Prod.exists, Table.mem_rows_iff]
  constructor
  · rintro ⟨other, request, found, conditions, rfl⟩
    exact ⟨request, found, conditions⟩
  · rintro ⟨request, found, conditions⟩
    exact ⟨id, request, found, conditions, rfl⟩

theorem completedIngest_relinked {ingest : Ingest} (now : Time)
    (media : ingest.mediaId = some mediaId) : Relinked ingest (completedIngest now ingest) :=
  ⟨⟨by simp [completedIngest, media], by simp [completedIngest]⟩, ⟨rfl, rfl, rfl, rfl⟩, rfl, rfl⟩

theorem storageUnknownIngest_relinked {ingest : Ingest} (now : Time) (message : String)
    (media : ingest.mediaId = some mediaId) :
    Relinked ingest (storageUnknownIngest now message ingest) :=
  ⟨⟨by simp [storageUnknownIngest, media], by simp [storageUnknownIngest]⟩,
    ⟨rfl, rfl, rfl, rfl⟩, rfl, rfl⟩

theorem reopenLinkedIngestsForStorage_write (db : Db) (mediaId : Uuid) :
    StorageWrite db (reopenLinkedIngestsForStorage db mediaId) :=
  updateLinked_write (fun _ media _ =>
    ⟨⟨by simp [media], by simp⟩, ⟨rfl, rfl, rfl, rfl⟩, rfl, rfl⟩)

theorem markLinkedIngestsStorageUnknown_write (db : Db) (mediaId : Uuid) :
    StorageWrite db (markLinkedIngestsStorageUnknown db mediaId) :=
  updateLinked_write (fun _ media _ => storageUnknownIngest_relinked _ _ media)

theorem completeLinkedIngestsForStorage_write (db : Db) (mediaId : Uuid) :
    StorageWrite db (completeLinkedIngestsForStorage db mediaId) :=
  (updateLinked_write (fun _ media _ => completedIngest_relinked _ media)).trans
    (.of_enqueues (insertMaterializationJobs_enqueues _ _)
      (fun _ => isFollowUp_of_materialization))

theorem settleQueuedStorageUploadJobs_write (db : Db) (mediaId : Uuid) :
    StorageWrite db (settleQueuedStorageUploadJobs db mediaId) where
  ingests := fun _ => Or.inl rfl
  posts := rfl
  now := rfl
  fresh := le_rfl
  jobs := by
    intro key other
    refine Or.inl ?_
    simp only [settleQueuedStorageUploadJobs, Jobs.get_updateAll]
    cases found : db.jobs.get key with
    | none => rfl
    | some job =>
      simp only [Option.map_some, Option.some.injEq]
      unfold unknownUploadJob
      split
      · rename_i m generation command
        refine absurd ?_ other
        have owned := job.owned
        rw [db.jobs.get_key found, command] at owned
        cases key <;> simp [JobKey.owns, JobCommand.jobType] at owned
        exact ⟨_, _, rfl⟩
      · rfl
  fenced := by
    refine .updateAll _ (unknownUploadJob_id db.now mediaId) (fun job => ?_)
    unfold unknownUploadJob
    split
    · split
      · exact Or.inr (Job.lease_eq_none (fun _ => JobState.noConfusion))
      · exact Or.inl rfl
    · exact Or.inl rfl

end Updates
end Linked

section Transactions
variable {db db' : Db} {mediaId : Uuid}

theorem storeMedia_write {attachment : StorageUploadAttachment} {row : Media}
    {receipt : Except Error StorageReceipt}
    (h : storeMedia db mediaId attachment row = .ok (db', receipt)) : StorageWrite db db' := by
  simp only [storeMedia, bind_ok, pure_ok, Prod.mk.injEq] at h
  obtain ⟨ready, -, stored, -, rfl, -⟩ := h
  exact (((StorageWrite.of_setMedia _ _ _).trans
    (.of_enqueues (enqueueCaptionSyncIfPending_enqueues _ _ _ _)
      (fun _ => isFollowUp_of_caption))).trans
    (completeLinkedIngestsForStorage_write _ _)).trans
    (.of_enqueues (enqueueWorkspaceCleanupForMedia_enqueues _ _ _)
      (fun _ => isFollowUp_of_cleanup))

theorem completeStorageUpload_write {ownerToken : Uuid} {attachment : StorageUploadAttachment}
    {receipt : Except Error StorageReceipt}
    (h : completeStorageUpload db mediaId ownerToken attachment = .ok (db', receipt)) :
    StorageWrite db db' := by
  simp only [completeStorageUpload, bind_ok] at h
  obtain ⟨-, -, row, -, h⟩ := h
  exact storeMedia_write h

theorem attachStorageUpload_write {generation : Nat} {attachment : StorageUploadAttachment}
    {receipt : Except Error StorageReceipt}
    (h : attachStorageUpload db mediaId generation attachment = .ok (db', receipt)) :
    StorageWrite db db' := by
  simp only [attachStorageUpload, bind_ok] at h
  obtain ⟨-, -, row, -, h⟩ := h
  exact storeMedia_write h

theorem markUnknown_write (db : Db) (mediaId : Uuid) (row : Media) :
    StorageWrite db (markUnknown db mediaId row) :=
  ((StorageWrite.of_setMedia _ _ _).trans (markLinkedIngestsStorageUnknown_write _ _)).trans
    (settleQueuedStorageUploadJobs_write _ _)

theorem markOwnedUploadUnknown_write {ownerToken : Uuid} {answer : Unit}
    (h : markOwnedUploadUnknown db mediaId ownerToken = .ok (db', answer)) : StorageWrite db db' := by
  simp only [markOwnedUploadUnknown, bind_ok, pure_ok, Prod.mk.injEq] at h
  obtain ⟨row, -, rfl, -⟩ := h
  exact markUnknown_write _ _ _

theorem markStorageUploadUnknown_write {force : Bool} {answer : Unit}
    (h : markStorageUploadUnknown db mediaId force = .ok (db', answer)) : StorageWrite db db' := by
  simp only [markStorageUploadUnknown, bind_ok, pure_ok, Prod.mk.injEq] at h
  obtain ⟨row, -, -, -, rfl, -⟩ := h
  exact markUnknown_write _ _ _

theorem enqueueStorageUpload_write (db : Db) (mediaId : Uuid) (generation : Nat) :
    StorageWrite db (enqueueStorageUpload db mediaId generation) :=
  .of_enqueues (show Enqueues IsFollowUp db _ from .of_enqueue trivial) (fun _ => id)

theorem resetStorageUpload_write {answer : Unit}
    (h : resetStorageUpload db mediaId = .ok (db', answer)) : StorageWrite db db' := by
  simp only [resetStorageUpload, bind_ok, pure_ok, Prod.mk.injEq] at h
  obtain ⟨row, -, -, -, -, -, -, -, -, -, rfl, -⟩ := h
  exact ((StorageWrite.of_setMedia _ _ _).trans (reopenLinkedIngestsForStorage_write _ _)).trans
    (enqueueStorageUpload_write _ _ _)

theorem reconcileStorageTerminal_write (db : Db) (mediaId : Uuid) (errorMessage : String) :
    StorageWrite db (reconcileStorageTerminal db mediaId errorMessage) := by
  unfold reconcileStorageTerminal
  split
  · exact .refl db
  · rename_i row found
    split
    · exact updateLinked_write (fun _ media _ => completedIngest_relinked _ media)
    · exact (StorageWrite.of_setMedia _ _ _).trans
        (updateLinked_write (fun _ media _ => storageUnknownIngest_relinked _ _ media))
    · exact updateLinked_write (fun _ media _ => storageUnknownIngest_relinked _ _ media)
    · exact .refl db

/-- The row of an upload command lies under an upload key. -/
theorem isUpload_of_command {job : Job} {m : Uuid} {generation : Nat}
    (command : job.command = .uploadStorageAsset m generation) : IsUpload job.id.key := by
  have owned := job.owned
  rw [command] at owned
  cases key : job.id.key <;> rw [key] at owned <;> simp [JobKey.owns, JobCommand.jobType] at owned
  exact ⟨_, _, rfl⟩

theorem settleStorageJob_write {lease : JobLease} {expected : JobCommand}
    {settlement : JobSettlement} {answer : Job}
    (h : settleStorageJob db lease expected settlement = .ok (db', answer)) :
    StorageWrite db db' := by
  simp only [settleStorageJob, bind_ok] at h
  obtain ⟨job, -, command, valid, h⟩ := h
  split at h
  · rename_i m generation
    simp only [pure_ok, Prod.mk.injEq] at h
    obtain ⟨rfl, -⟩ := h
    obtain ⟨own, -⟩ := validateLockedCommand_ok valid
    have first : StorageWrite db
        (if (queueParameters job settlement).terminal then
          reconcileStorageTerminal db m (queueParameters job settlement).errorMessage
        else db) := by
      split
      · exact reconcileStorageTerminal_write _ _ _
      · exact .refl db
    refine first.trans ?_
    exact .of_upload (isUpload_of_command own.symm)
      (Job.settled_idle (queueParameters_state_not_running job settlement))
  · cases h

theorem recoverUpload_write {job : Job} {row : Media} (upload : IsUpload job.id.key) :
    StorageWrite db (recoverUpload db job mediaId row) := by
  unfold recoverUpload
  split
  · exact (updateLinked_write (fun _ media _ => completedIngest_relinked _ media)).trans
      (.of_upload upload (Job.lease_eq_none (fun _ => JobState.noConfusion)))
  · exact .of_upload upload (Job.lease_eq_none (fun _ => JobState.noConfusion))
  · exact ((StorageWrite.of_setMedia _ _ _).trans
      (updateLinked_write (fun _ media _ => storageUnknownIngest_relinked _ _ media))).trans
      (.of_upload upload (Job.lease_eq_none (fun _ => JobState.noConfusion)))

theorem recoverStorageJob_write {id : JobId} {expected : JobCommand} {answer : Bool}
    (h : recoverStorageJob db id expected = .ok (db', answer)) : StorageWrite db db' := by
  unfold recoverStorageJob at h
  split at h
  · simp only [Except.ok.injEq, Prod.mk.injEq] at h
    rw [← h.1]
    exact .refl db
  · rename_i job locked
    simp only [bind_ok] at h
    obtain ⟨command, valid, h⟩ := h
    split at h
    · rename_i m generation
      have upload := isUpload_of_command (validateLockedCommand_ok valid).1.symm
      split at h
      · simp only [pure_ok, Prod.mk.injEq] at h
        rw [← h.1]
        exact .of_upload upload (Job.lease_eq_none (fun _ => JobState.noConfusion))
      · split at h
        · simp only [pure_ok, Prod.mk.injEq] at h
          rw [← h.1]
          exact .refl db
        · simp only [pure_ok, Prod.mk.injEq] at h
          rw [← h.1]
          exact recoverUpload_write upload
    · cases h

end Transactions
end Sooqa.Library
