import Sooqa.Inbox.LifecycleEffects
import Sooqa.VideoIdentity.Sessions

/-!
What the transactions do to the kind and the bytes of the media rows. All but
the insertion of a new row leave them, and an insertion draws a new identifier.
-/
namespace Sooqa.VideoIdentity
open Foundation Queue
open Library (setMedia lockMedia ownedUpload clearedReservation nextCaptionSyncValues)

section Rows

/-- The columns that no transaction changes. -/
def bytesOf (row : Media) : MediaKind × Option String := (row.kind, row.canonicalSha256)

/-- No row was added and none has other bytes. -/
structure KeepsBytes (db db' : Db) : Prop where
  rows : ∀ m, (db'.media.get m).map bytesOf = (db.media.get m).map bytesOf
  fresh : db.fresh ≤ db'.fresh

/-- One row was added, under the identifier that was drawn for it. -/
structure InsertsBytes (media : Library.MediaIngest) (db db' : Db) : Prop where
  absent : Library.findMediaBySha db media.sha256 = none
  row : (db'.media.get db.fresh).map bytesOf = some (media.kind, some media.sha256)
  others : ∀ m, m ≠ db.fresh → (db'.media.get m).map bytesOf = (db.media.get m).map bytesOf
  fresh : db.fresh < db'.fresh

variable {db db' db'' : Db} {id mediaId : Uuid} {row : Media}

namespace KeepsBytes

theorem of_media (same : db'.media = db.media) (fresh : db.fresh ≤ db'.fresh) :
    KeepsBytes db db' := ⟨fun _ => by rw [same], fresh⟩

theorem refl (db : Db) : KeepsBytes db db := .of_media rfl le_rfl

theorem trans (first : KeepsBytes db db') (second : KeepsBytes db' db'') : KeepsBytes db db'' :=
  ⟨fun m => (second.rows m).trans (first.rows m), le_trans first.fresh second.fresh⟩

theorem then_media (first : KeepsBytes db db') (same : db''.media = db'.media)
    (fresh : db'.fresh ≤ db''.fresh) : KeepsBytes db db'' := first.trans (.of_media same fresh)

theorem then_enqueues {kind : JobKey → Prop} (first : KeepsBytes db db')
    (second : Enqueues kind db' db'') : KeepsBytes db db'' :=
  first.then_media second.media second.fresh

theorem of_setMedia (row' : Media) (found : db.media.get id = some row)
    (same : bytesOf row' = bytesOf row) : KeepsBytes db (setMedia db id row') where
  rows := by
    intro m
    rw [setMedia, Table.get_set]
    split
    · rename_i here
      rw [here, found, Option.map_some, Option.map_some, same]
    · rfl
  fresh := le_rfl

theorem of_committed {ε α : Type} {result : Except ε (Db × α)}
    (kept : ∀ after answer, result = .ok (after, answer) → KeepsBytes db after) :
    KeepsBytes db (committed db result) := by
  rcases committed_cases db result with same | ⟨answer, ok⟩
  · rw [same]
    exact .refl db
  · exact kept _ answer ok

end KeepsBytes

theorem insertMedia_bytes (media : Library.MediaIngest)
    (absent : Library.findMediaBySha db media.sha256 = none) :
    InsertsBytes media db (Library.insertMedia db media) where
  absent := absent
  row := by
    have there : (Library.insertMedia db media).media.get db.fresh =
        some (Library.newMedia db.now media) := Table.get_set_self _ _ _
    rw [there]
    rfl
  others := by
    intro m other
    have kept : (Library.insertMedia db media).media.get m = db.media.get m :=
      Table.get_set_ne _ _ other
    rw [kept]
  fresh := Nat.lt_succ_self _

theorem InsertsBytes.then_keeps {media : Library.MediaIngest} (first : InsertsBytes media db db')
    (second : KeepsBytes db' db'') : InsertsBytes media db db'' where
  absent := first.absent
  row := (second.rows _).trans first.row
  others := fun m other => (second.rows m).trans (first.others m other)
  fresh := lt_of_lt_of_le first.fresh second.fresh

end Rows

section Library
open Library
variable {db db' : Db} {id mediaId : Uuid} {row captioned : Media}

theorem nextCaptionSyncValues_bytes {changed : Bool}
    (h : nextCaptionSyncValues id row changed = .ok captioned) :
    bytesOf captioned = bytesOf row := by
  unfold nextCaptionSyncValues at h
  split at h
  · cases h
    rfl
  · split at h
    · cases h
      rfl
    · split at h
      · cases h
        rfl
      · cases h

theorem mergeMedia_keepsBytes {media : MediaIngest} (found : db.media.get id = some row)
    (h : mergeMedia db id row media = .ok db') : KeepsBytes db db' := by
  simp only [mergeMedia, bind_ok, pure_ok] at h
  obtain ⟨captioned, values, rfl⟩ := h
  have same := nextCaptionSyncValues_bytes values
  refine KeepsBytes.then_enqueues ?_ (enqueueCaptionSyncIfPending_enqueues _ _ _ _)
  exact .of_setMedia _ found same

theorem resolveMedia_bytes {media : MediaIngest} {answer : Uuid}
    (h : resolveMedia db media = .ok (db', answer)) :
    KeepsBytes db db' ∨ InsertsBytes media db db' := by
  unfold resolveMedia at h
  split at h
  · rename_i absent
    cases h
    exact Or.inr (insertMedia_bytes media absent)
  · rename_i id row found
    simp only [bind_ok, pure_ok, Prod.mk.injEq] at h
    obtain ⟨merged, written, rfl, -⟩ := h
    exact Or.inl (mergeMedia_keepsBytes (findMediaBySha_found found) written)

theorem persistVideoIdentity_keepsBytes {media : MediaIngest}
    {fingerprint : Option Library.VideoFingerprintInput} {decision : Library.VideoIdentityDecision}
    {forceSave : Bool} {outcome : Library.VideoIdentityOutcome}
    (h : persistVideoIdentity db media fingerprint decision forceSave = .ok (db', outcome))
    (old : ∀ mediaId, outcome ≠ .newMedia mediaId) : KeepsBytes db db' := by
  simp only [persistVideoIdentity, bind_ok] at h
  obtain ⟨-, -, h⟩ := h
  split at h
  · rename_i id row found
    simp only [bind_ok, pure_ok, Prod.mk.injEq] at h
    obtain ⟨merged, written, rfl, -⟩ := h
    exact mergeMedia_keepsBytes (findMediaBySha_found found) written
  · simp only [bind_ok] at h
    obtain ⟨input, -, -, -, h⟩ := h
    unfold persistNewVideo at h
    split at h
    · cases h
      exact absurd rfl (old _)
    · simp only [bind_ok] at h
      obtain ⟨-, -, h⟩ := h
      split at h
      · cases h
        exact absurd rfl (old _)
      · simp only [bind_ok, pure_ok, Prod.mk.injEq] at h
        obtain ⟨-, -, rfl, -⟩ := h
        exact .refl db

theorem persistVideoIdentity_new {media : MediaIngest}
    {fingerprint : Option Library.VideoFingerprintInput} {decision : Library.VideoIdentityDecision}
    {forceSave : Bool}
    (h : persistVideoIdentity db media fingerprint decision forceSave =
      .ok (db', .newMedia mediaId)) :
    findMediaBySha db media.sha256 = none ∧ db' = insertMedia db media ∧ mediaId = db.fresh := by
  simp only [persistVideoIdentity, bind_ok] at h
  obtain ⟨-, -, h⟩ := h
  split at h
  · simp only [bind_ok, pure_ok, Prod.mk.injEq] at h
    obtain ⟨merged, -, -, same⟩ := h
    cases same
  · rename_i absent
    refine ⟨absent, ?_⟩
    simp only [bind_ok] at h
    obtain ⟨input, -, -, -, h⟩ := h
    unfold persistNewVideo at h
    split at h
    · cases h
      exact ⟨rfl, rfl⟩
    · simp only [bind_ok] at h
      obtain ⟨-, -, h⟩ := h
      split at h
      · cases h
        exact ⟨rfl, rfl⟩
      · simp only [bind_ok, pure_ok, Prod.mk.injEq] at h
        obtain ⟨-, -, -, same⟩ := h
        cases same

theorem captionSyncValuesAfterStorageUpload_bytes {metadata : Option StorageCaptionMetadata}
    (h : captionSyncValuesAfterStorageUpload id row metadata = .ok captioned) :
    bytesOf captioned = bytesOf row := by
  unfold captionSyncValuesAfterStorageUpload at h
  split at h
  · cases h
    rfl
  · exact nextCaptionSyncValues_bytes h

theorem updateLinked_keepsBytes (db : Db) (mediaId : Uuid) (affected : Ingest → Bool)
    (change : Ingest → Ingest) : KeepsBytes db (updateLinked db mediaId affected change) :=
  .of_media rfl le_rfl

theorem completeLinkedIngestsForStorage_keepsBytes (db : Db) (mediaId : Uuid) :
    KeepsBytes db (completeLinkedIngestsForStorage db mediaId) :=
  (updateLinked_keepsBytes _ _ _ _).then_enqueues (insertMaterializationJobs_enqueues _ _)

theorem storeMedia_keepsBytes {attachment : StorageUploadAttachment}
    {receipt : Except Error StorageReceipt} (found : db.media.get mediaId = some row)
    (h : storeMedia db mediaId attachment row = .ok (db', receipt)) : KeepsBytes db db' := by
  simp only [storeMedia, readyMedia, bind_ok, pure_ok, Prod.mk.injEq] at h
  obtain ⟨ready, ⟨-, -, rfl⟩, stored, values, rfl, -⟩ := h
  have same := captionSyncValuesAfterStorageUpload_bytes values
  have captioned := KeepsBytes.then_enqueues (.of_setMedia _ found same)
    (enqueueCaptionSyncIfPending_enqueues (setMedia db mediaId stored) mediaId stored true)
  exact (captioned.trans (completeLinkedIngestsForStorage_keepsBytes _ _)).then_enqueues
    (enqueueWorkspaceCleanupForMedia_enqueues _ _ _)

theorem ownedUpload_found {ownerToken : Uuid} (h : ownedUpload db mediaId ownerToken = some row) :
    db.media.get mediaId = some row := (Option.filter_eq_some_iff.mp h).1

theorem completeStorageUpload_keepsBytes {ownerToken : Uuid} {attachment : StorageUploadAttachment}
    {receipt : Except Error StorageReceipt}
    (h : completeStorageUpload db mediaId ownerToken attachment = .ok (db', receipt)) :
    KeepsBytes db db' := by
  simp only [completeStorageUpload, bind_ok, expect_ok] at h
  obtain ⟨-, -, row, owned, stored⟩ := h
  exact storeMedia_keepsBytes (ownedUpload_found (Option.filter_eq_some_iff.mp owned).1) stored

theorem attachStorageUpload_keepsBytes {generation : Nat} {attachment : StorageUploadAttachment}
    {receipt : Except Error StorageReceipt}
    (h : attachStorageUpload db mediaId generation attachment = .ok (db', receipt)) :
    KeepsBytes db db' := by
  simp only [attachStorageUpload, bind_ok, expect_ok] at h
  obtain ⟨-, -, row, unknown, stored⟩ := h
  exact storeMedia_keepsBytes (Option.filter_eq_some_iff.mp unknown).1 stored

theorem markUnknown_keepsBytes (found : db.media.get mediaId = some row) :
    KeepsBytes db (markUnknown db mediaId row) :=
  KeepsBytes.then_media
    (.of_setMedia (clearedReservation db.now .unknown row) found rfl) rfl le_rfl

theorem markOwnedUploadUnknown_keepsBytes {ownerToken : Uuid} {answer : Unit}
    (h : markOwnedUploadUnknown db mediaId ownerToken = .ok (db', answer)) : KeepsBytes db db' := by
  simp only [markOwnedUploadUnknown, bind_ok, expect_ok, pure_ok, Prod.mk.injEq] at h
  obtain ⟨row, owned, rfl, -⟩ := h
  exact markUnknown_keepsBytes (ownedUpload_found (Option.filter_eq_some_iff.mp owned).1)

theorem markStorageUploadUnknown_keepsBytes {force : Bool} {answer : Unit}
    (h : markStorageUploadUnknown db mediaId force = .ok (db', answer)) : KeepsBytes db db' := by
  simp only [markStorageUploadUnknown, lockMedia, bind_ok, expect_ok, pure_ok, Prod.mk.injEq] at h
  obtain ⟨row, found, -, -, rfl, -⟩ := h
  exact markUnknown_keepsBytes found

theorem resetStorageUpload_keepsBytes {answer : Unit}
    (h : resetStorageUpload db mediaId = .ok (db', answer)) : KeepsBytes db db' := by
  simp only [resetStorageUpload, lockMedia, bind_ok, expect_ok, pure_ok, Prod.mk.injEq] at h
  obtain ⟨row, found, -, -, -, -, -, -, -, -, rfl, -⟩ := h
  exact KeepsBytes.then_media (.of_setMedia (resetMedia db.now row) found rfl) rfl
    (Nat.le_succ _)

theorem reserveStorageUpload_keepsBytes {generation : Nat} {answer : StorageUploadReservation}
    (h : reserveStorageUpload db mediaId generation = .ok (db', answer)) : KeepsBytes db db' := by
  simp only [reserveStorageUpload, lockMedia, bind_ok, expect_ok] at h
  obtain ⟨row, found, h⟩ := h
  split at h
  · simp only [bind_ok, pure_ok, Prod.mk.injEq] at h
    obtain ⟨-, -, rfl, -⟩ := h
    exact .refl db
  split at h
  · cases h
    exact .refl db
  split at h
  · cases h
    exact .refl db
  split at h
  · cases h
    exact .refl db
  · cases h
    exact KeepsBytes.then_media
      (.of_setMedia (reservedMedia db.now db.fresh row) found rfl) rfl (Nat.le_succ _)

theorem renewStorageUpload_keepsBytes {ownerToken : Uuid} {answer : Time}
    (h : renewStorageUpload db mediaId ownerToken = .ok (db', answer)) : KeepsBytes db db' := by
  simp only [renewStorageUpload, bind_ok, expect_ok, pure_ok, Prod.mk.injEq] at h
  obtain ⟨row, owned, rfl, -⟩ := h
  exact .of_setMedia _ (ownedUpload_found owned) rfl

theorem releaseStorageUpload_keepsBytes {ownerToken : Uuid} {answer : Unit}
    (h : releaseStorageUpload db mediaId ownerToken = .ok (db', answer)) : KeepsBytes db db' := by
  unfold releaseStorageUpload at h
  split at h
  · cases h
    exact .refl db
  · rename_i row owned
    cases h
    exact .of_setMedia _ (ownedUpload_found owned) rfl

theorem reconcileStorageTerminal_keepsBytes (db : Db) (mediaId : Uuid) (errorMessage : String) :
    KeepsBytes db (reconcileStorageTerminal db mediaId errorMessage) := by
  unfold reconcileStorageTerminal
  split
  · exact .refl db
  · rename_i row found
    split
    · exact .of_media rfl le_rfl
    · exact KeepsBytes.then_media
        (.of_setMedia (clearedReservation db.now .unknown row) found rfl) rfl le_rfl
    · exact .of_media rfl le_rfl
    · exact .refl db

theorem settleStorageJob_keepsBytes {lease : JobLease} {expected : JobCommand}
    {settlement : JobSettlement} {answer : Job}
    (h : settleStorageJob db lease expected settlement = .ok (db', answer)) :
    KeepsBytes db db' := by
  simp only [settleStorageJob, bind_ok] at h
  obtain ⟨job, -, command, -, h⟩ := h
  split at h
  · rename_i m generation
    simp only [pure_ok, Prod.mk.injEq] at h
    obtain ⟨rfl, -⟩ := h
    have reconciled : KeepsBytes db (if (queueParameters job settlement).terminal then
        reconcileStorageTerminal db m (queueParameters job settlement).errorMessage else db) := by
      split
      · exact reconcileStorageTerminal_keepsBytes db m _
      · exact .refl db
    exact reconciled.then_media rfl le_rfl
  · cases h

theorem recoverUpload_keepsBytes {job : Job} (found : db.media.get mediaId = some row) :
    KeepsBytes db (recoverUpload db job mediaId row) := by
  unfold recoverUpload
  split
  · exact .of_media rfl le_rfl
  · exact .of_media rfl le_rfl
  · exact KeepsBytes.then_media
      (.of_setMedia (clearedReservation db.now .unknown row) found rfl) rfl le_rfl

theorem recoverStorageJob_keepsBytes {job : JobId} {expected : JobCommand} {answer : Bool}
    (h : recoverStorageJob db job expected = .ok (db', answer)) : KeepsBytes db db' := by
  unfold recoverStorageJob at h
  split at h
  · cases h
    exact .refl db
  · simp only [bind_ok] at h
    obtain ⟨command, -, h⟩ := h
    split at h
    · split at h
      · cases h
        exact .of_media rfl le_rfl
      · rename_i row found
        split at h
        · cases h
          exact .refl db
        · cases h
          exact recoverUpload_keepsBytes found
    · cases h

theorem releaseCaption_keepsBytes (db : Db) (mediaId : Uuid) (generation : Nat) (terminal : Bool)
    (error : String) : KeepsBytes db (releaseCaption db mediaId generation terminal error) := by
  unfold releaseCaption
  split
  · exact .refl db
  · rename_i row found
    apply KeepsBytes.of_setMedia _ found
    unfold releasedCaption
    split <;> rfl

theorem settleCaptionJob_keepsBytes {lease : JobLease} {expected : JobCommand}
    {settlement : JobSettlement} {answer : Job}
    (h : settleCaptionJob db lease expected settlement = .ok (db', answer)) :
    KeepsBytes db db' := by
  simp only [settleCaptionJob, bind_ok] at h
  obtain ⟨job, -, command, -, h⟩ := h
  split at h
  · simp only [pure_ok, Prod.mk.injEq] at h
    obtain ⟨rfl, -⟩ := h
    exact (releaseCaption_keepsBytes db _ _ _ _).then_media rfl le_rfl
  · cases h

theorem recoverCaptionJob_keepsBytes {job : JobId} {expected : JobCommand} {answer : Bool}
    (h : recoverCaptionJob db job expected = .ok (db', answer)) : KeepsBytes db db' := by
  unfold recoverCaptionJob at h
  split at h
  · cases h
    exact .refl db
  · simp only [bind_ok] at h
    obtain ⟨command, -, h⟩ := h
    split at h
    · cases h
      exact (releaseCaption_keepsBytes db _ _ _ _).then_media rfl le_rfl
    · cases h

end Library

section Captions
open Library Captions
variable {db db' : Db} {id : Uuid}

theorem updateMedia_keepsBytes {update : MediaUpdate} {answer : Media}
    (h : updateMedia db id update = .ok (db', answer)) : KeepsBytes db db' := by
  simp only [updateMedia, lockMedia, bind_ok, expect_ok, pure_ok, Prod.mk.injEq] at h
  obtain ⟨row, found, -, -, captioned, values, rfl, -⟩ := h
  have same := nextCaptionSyncValues_bytes values
  refine KeepsBytes.then_enqueues ?_ (enqueueCaptionSyncIfPending_enqueues _ _ _ _)
  exact .of_setMedia _ found same

theorem retryCaptionSync_keepsBytes {answer : Media}
    (h : retryCaptionSync db id = .ok (db', answer)) : KeepsBytes db db' := by
  simp only [retryCaptionSync, lockMedia, bind_ok, expect_ok] at h
  obtain ⟨row, found, -, -, h⟩ := h
  split at h
  · cases h
    exact .refl db
  · simp only [bind_ok, pure_ok, Prod.mk.injEq] at h
    obtain ⟨-, -, rfl, -⟩ := h
    exact KeepsBytes.then_media (.of_setMedia (retriedCaption db.now row) found rfl) rfl
      (Nat.le_succ _)

theorem beginCaptionSync_keepsBytes {generation : Nat} {claimToken : Uuid}
    {answer : Option CaptionSyncClaim}
    (h : beginCaptionSync db id generation claimToken = .ok (db', answer)) : KeepsBytes db db' := by
  simp only [beginCaptionSync, lockMedia, bind_ok, expect_ok] at h
  obtain ⟨row, found, h⟩ := h
  split at h
  · cases h
    exact .refl db
  · split at h
    · cases h
      exact .of_setMedia _ found rfl
    · cases h
      exact .refl db

theorem completeCaptionSync_keepsBytes {generation : Nat} {claimToken : Uuid}
    {succeeded retryable : Bool} {errorMessage : Option String} {answer : CaptionSyncCompletion}
    (h : completeCaptionSync db id generation claimToken succeeded retryable errorMessage =
      .ok (db', answer)) : KeepsBytes db db' := by
  simp only [completeCaptionSync, lockMedia, bind_ok, expect_ok] at h
  obtain ⟨row, found, h⟩ := h
  split at h
  · cases h
    exact .refl db
  split at h
  · cases h
    exact KeepsBytes.then_media (.of_setMedia (reopenedCaption db.now row) found rfl) rfl
      (Nat.le_succ _)
  split at h
  · cases h
    exact .refl db
  · cases h
    exact .of_setMedia _ found rfl

end Captions

section Inbox
open Inbox
variable {db db' : Db} {id mediaId : Uuid}

theorem clearLocalWorkPath_keepsBytes (db : Db) (mediaId : Uuid) (states : List MediaStorageState)
    (updatedAt : Media → Time) : KeepsBytes db (clearLocalWorkPath db mediaId states updatedAt) := by
  unfold clearLocalWorkPath
  split
  · rename_i row found
    split
    · exact .of_setMedia _ found rfl
    · exact .refl db
  · exact .refl db

theorem completeStorageForMedia_keepsBytes (db : Db) (mediaId : Uuid) :
    KeepsBytes db (completeStorageForMedia db mediaId) := by
  unfold completeStorageForMedia
  dsimp only
  refine KeepsBytes.then_enqueues ?_ (enqueueWorkspaceCleanupForMedia_enqueues _ _ _)
  refine KeepsBytes.trans ?_ (clearLocalWorkPath_keepsBytes _ _ _ _)
  exact (updateLinked_keepsBytes _ _ _ _).then_enqueues (insertMaterializationJobs_enqueues _ _)

theorem missStorage_keepsBytes (db : Db) (mediaId : Uuid) : KeepsBytes db (missStorage db mediaId) := by
  unfold missStorage
  split
  · rename_i row found
    split
    · exact KeepsBytes.then_enqueues
        (.of_setMedia (clearedReservation db.now .missing row) found rfl)
        (enqueueWorkspaceCleanupForMedia_enqueues _ _ _)
    · exact .refl db
  · exact .refl db

theorem failStorageForMedia_keepsBytes {status : IngestStatus} {errorCode errorMessage : String}
    {answer : Unit}
    (h : failStorageForMedia db mediaId status errorCode errorMessage = .ok (db', answer)) :
    KeepsBytes db db' := by
  simp only [failStorageForMedia, bind_ok, pure_ok, Prod.mk.injEq] at h
  obtain ⟨-, -, rfl, -⟩ := h
  split
  · exact (updateLinked_keepsBytes _ _ _ _).trans (missStorage_keepsBytes _ _)
  · exact updateLinked_keepsBytes _ _ _ _

theorem StorageCall.run_keepsBytes (db : Db) (call : StorageCall) : KeepsBytes db (call.run db) := by
  cases call with
  | completeUpload => exact .of_committed (fun _ _ => completeStorageUpload_keepsBytes)
  | markOwnedUnknown => exact .of_committed (fun _ _ => markOwnedUploadUnknown_keepsBytes)
  | markUnknown => exact .of_committed (fun _ _ => markStorageUploadUnknown_keepsBytes)
  | reset => exact .of_committed (fun _ _ => resetStorageUpload_keepsBytes)
  | attach => exact .of_committed (fun _ _ => attachStorageUpload_keepsBytes)
  | completeForMedia mediaId => exact completeStorageForMedia_keepsBytes db mediaId
  | failForMedia => exact .of_committed (fun _ _ => failStorageForMedia_keepsBytes)
  | settle => exact .of_committed (fun _ _ => settleStorageJob_keepsBytes)
  | recover => exact .of_committed (fun _ _ => recoverStorageJob_keepsBytes)

theorem acceptDuplicate_keepsBytes {answer : AcceptDuplicateResult}
    (h : acceptDuplicate db id mediaId = .ok (db', answer)) : KeepsBytes db db' := by
  simp only [acceptDuplicate, bind_ok] at h
  obtain ⟨request, -, h⟩ := h
  split at h
  · simp only [bind_ok, pure_ok, Prod.mk.injEq] at h
    obtain ⟨-, -, rfl, -⟩ := h
    exact .refl db
  · simp only [bind_ok, pure_ok, Prod.mk.injEq, decideDuplicate, expect_ok] at h
    obtain ⟨⟨after, accepted⟩, ⟨-, -, evidence, -, -, -, candidate, found, -, -, row, -, written⟩,
      rfl, -⟩ := h
    obtain ⟨rfl, -⟩ := written
    have merged := KeepsBytes.of_setMedia (mergedDuplicate db.now request candidate) found rfl
    split
    · exact merged.then_media rfl (Nat.le_succ _)
    · exact merged.then_media rfl le_rfl

theorem beginWorkspaceCleanup_keepsBytes {lease : JobLease} {ingestId workspaceId : Uuid}
    {start : WorkspaceCleanupStart}
    (h : beginWorkspaceCleanup db lease ingestId workspaceId = .ok (db', start)) :
    KeepsBytes db db' := by
  unfold beginWorkspaceCleanup at h
  split at h
  · cases h
    exact .refl db
  · simp only [bind_ok] at h
    obtain ⟨request, -, h⟩ := h
    split at h
    · cases h
      exact .refl db
    split at h
    · cases h
      exact .refl db
    split at h
    · cases h
      unfold releaseWorkPath
      split
      · exact .refl db
      · exact clearLocalWorkPath_keepsBytes _ _ _ _
    · cases h
      exact .refl db

/-- The statements behind a persisted identity write no media. -/
theorem advanceAfterMediaProcessing_media {request answer : Ingest}
    (h : advanceAfterMediaProcessing db id request mediaId = .ok (db', answer)) :
    db'.media = db.media ∧ db.fresh ≤ db'.fresh := by
  simp only [advanceAfterMediaProcessing, bind_ok] at h
  obtain ⟨media, -, h⟩ := h
  split at h
  · simp only [bind_ok, pure_ok, Prod.mk.injEq] at h
    obtain ⟨moved, -, rfl, -⟩ := h
    have cleaned := enqueueWorkspaceCleanup_enqueues
      (if request.requestedAction ≠ .save then insertMaterializationJob db id else db) id
      request.workspaceId db.now
    split at cleaned
    · rename_i publishes
      rw [if_pos publishes]
      exact ⟨cleaned.media, le_trans (Nat.le_succ _) cleaned.fresh⟩
    · rename_i saves
      rw [if_neg saves]
      exact ⟨cleaned.media, cleaned.fresh⟩
  · simp only [bind_ok, pure_ok, Prod.mk.injEq] at h
    obtain ⟨moved, -, rfl, -⟩ := h
    unfold insertStorageJob
    split
    · exact ⟨rfl, le_rfl⟩
    · exact ⟨rfl, Nat.le_succ _⟩
  · simp only [bind_ok, pure_ok, Prod.mk.injEq] at h
    obtain ⟨moved, -, rfl, -⟩ := h
    exact ⟨rfl, Nat.le_succ _⟩
  · simp only [bind_ok, pure_ok, Prod.mk.injEq] at h
    obtain ⟨moved, -, rfl, -⟩ := h
    exact ⟨rfl, Nat.le_succ _⟩

theorem applyIdentity_keepsBytes {request answer : Ingest} {outcome : Library.VideoIdentityOutcome}
    (h : applyIdentity db id request outcome = .ok (db', answer)) : KeepsBytes db db' := by
  cases outcome with
  | duplicatePending evidence =>
    simp only [applyIdentity, pendDuplicate, bind_ok, pure_ok, Prod.mk.injEq] at h
    obtain ⟨-, -, -, -, moved, -, rfl, -⟩ := h
    exact .of_media rfl (Nat.le_succ _)
  | exactDuplicate mediaId =>
    obtain ⟨same, fresh⟩ := advanceAfterMediaProcessing_media h
    exact .of_media same fresh
  | newMedia mediaId =>
    obtain ⟨same, fresh⟩ := advanceAfterMediaProcessing_media h
    exact .of_media same fresh

end Inbox

section Sessions
variable {db db' : Db} {s : Session}

theorem MediaCall.run_keepsBytes (db : Db) (call : MediaCall) : KeepsBytes db (call.run db) := by
  cases call with
  | storage call => exact StorageCall.run_keepsBytes db call
  | reserveUpload => exact .of_committed (fun _ _ => reserveStorageUpload_keepsBytes)
  | renewUpload => exact .of_committed (fun _ _ => renewStorageUpload_keepsBytes)
  | releaseUpload => exact .of_committed (fun _ _ => releaseStorageUpload_keepsBytes)
  | acceptDuplicate => exact .of_committed (fun _ _ => acceptDuplicate_keepsBytes)
  | beginCleanup => exact .of_committed (fun _ _ => beginWorkspaceCleanup_keepsBytes)
  | updateMedia => exact .of_committed (fun _ _ => updateMedia_keepsBytes)
  | retryCaptionSync => exact .of_committed (fun _ _ => retryCaptionSync_keepsBytes)
  | beginCaptionSync => exact .of_committed (fun _ _ => beginCaptionSync_keepsBytes)
  | completeCaptionSync => exact .of_committed (fun _ _ => completeCaptionSync_keepsBytes)
  | settleCaption => exact .of_committed (fun _ _ => settleCaptionJob_keepsBytes)
  | recoverCaption => exact .of_committed (fun _ _ => recoverCaptionJob_keepsBytes)

theorem Session.finish_keepsBytes {request answer : Ingest} {outcome : Library.VideoIdentityOutcome}
    (h : s.finish db request outcome = .ok (db', answer)) : KeepsBytes db db' := by
  simp only [Session.finish, Inbox.finishStage, Inbox.succeedCurrentJobAttempt, bind_ok, pure_ok,
    Prod.mk.injEq] at h
  obtain ⟨⟨advancedDb, advanced⟩, applied, succeeded, ⟨job, -, rfl⟩, rfl, -⟩ := h
  exact (applyIdentity_keepsBytes applied).then_media rfl le_rfl

end Sessions
end Sooqa.VideoIdentity
