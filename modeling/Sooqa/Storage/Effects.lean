import Sooqa.Storage.System
import Sooqa.Library.Effects
import Sooqa.Inbox.LifecycleEffects

/-!
What the transactions do to the storage columns. Apart from a reservation and
its release every one of them keeps the columns of a row, closes its generation
or opens the next one.
-/
namespace Sooqa.Storage
open Foundation Queue Library

/-- The storage columns of a media, if there is one. -/
def columnsOf (db : Db) (m : Uuid) : Option StorageColumns := (db.media.get m).map storageColumns

section Rows
variable {db db' db'' : Db}

theorem columnsOf_some {m : Uuid} {c : StorageColumns} :
    columnsOf db m = some c ↔ ∃ row, db.media.get m = some row ∧ storageColumns row = c := by
  simp only [columnsOf, Option.map_eq_some_iff]

theorem columnsOf_found {m : Uuid} {row : Media} (found : db.media.get m = some row) :
    columnsOf db m = some (storageColumns row) := by
  simp only [columnsOf, found, Option.map_some]

theorem columnsOf_same (media : db'.media = db.media) (m : Uuid) : columnsOf db' m = columnsOf db m := by
  simp only [columnsOf, media]

theorem columnsOf_setMedia (db : Db) (id : Uuid) (row : Media) (m : Uuid) :
    columnsOf (setMedia db id row) m =
      if m = id then some (storageColumns row) else columnsOf db m := by
  simp only [columnsOf, setMedia, Table.get_set]
  split <;> rfl

/-- The columns without a reservation, in this state. -/
def StorageColumns.cleared (c : StorageColumns) (state : MediaStorageState) : StorageColumns :=
  { c with storageState := state, storageToken := none, storageStartedAt := none }

/-- The columns with this reservation. -/
def StorageColumns.owned (c : StorageColumns) (token : Uuid) (started : Time) : StorageColumns :=
  { c with storageToken := some token, storageStartedAt := some started }

/-- The columns of a stored media. -/
def StorageColumns.stored (c : StorageColumns) (attachment : StorageUploadAttachment) :
    StorageColumns :=
  { c.cleared .ready with
    telegramStorageChatId := some attachment.storageChatId
    telegramStorageMessageId := some attachment.storageMessageId
    telegramFileId := attachment.telegramFileId
    telegramFileUniqueId := attachment.telegramFileUniqueId }

/-- The columns of the next generation. -/
def StorageColumns.reopened (c : StorageColumns) : StorageColumns :=
  { StorageColumns.inserted with storageGeneration := c.storageGeneration + 1 }

/-- No upload job appears. -/
def KeepsUploads (jobs jobs' : Jobs) : Prop :=
  ∀ m generation, (jobs'.get (.uploadStorage m generation)).isSome = true →
    (jobs.get (.uploadStorage m generation)).isSome = true

namespace KeepsUploads
variable {jobs jobs' jobs'' : Jobs}

theorem refl (jobs : Jobs) : KeepsUploads jobs jobs := fun _ _ => id

theorem put {job : Job} (present : isUploadKey job.id.key = true →
    (jobs.get job.id.key).isSome = true) : KeepsUploads jobs (jobs.put job) := by
  intro m generation there
  rw [Jobs.get_put] at there
  split at there
  · rename_i same
    rw [same]
    exact present (by rw [← same]; rfl)
  · exact there

theorem put_found {job old : Job} {key : JobKey} (found : jobs.get key = some old)
    (same : job.id.key = key) : KeepsUploads jobs (jobs.put job) := by
  apply put
  intro _
  rw [same, found]
  rfl

theorem delete (jobs : Jobs) (key : JobKey) : KeepsUploads jobs (jobs.delete key) := by
  intro m generation there
  rw [Jobs.get_delete] at there
  split at there
  · cases there
  · exact there

theorem updateAll (jobs : Jobs) (f : Job → Job) (keeps) :
    KeepsUploads jobs (jobs.updateAll f keeps) := by
  intro m generation there
  rw [Jobs.get_updateAll, Option.isSome_map] at there
  exact there

theorem of_added {kind : JobKey → Prop} (h : Added kind jobs jobs')
    (others : ∀ m generation, ¬ kind (.uploadStorage m generation)) : KeepsUploads jobs jobs' := by
  intro m generation there
  rw [h.other (others m generation)] at there
  exact there

theorem of_heartbeat {now : Time} {lease : JobLease} {duration : Time} {renewed : Job}
    (h : heartbeatLease jobs now lease duration = .ok (jobs', renewed)) :
    KeepsUploads jobs jobs' := by
  obtain ⟨job, found, id, -, rfl, rfl⟩ := heartbeatLease_ok h
  exact put_found found (congrArg JobId.key id)

theorem of_complete {now : Time} {lease : JobLease} {done : Job}
    (h : completeLease jobs now lease = .ok (jobs', done)) : KeepsUploads jobs jobs' := by
  rcases completeLease_ok h with rfl | ⟨job, found, id, -, rfl⟩
  · exact refl jobs'
  · exact put_found found (congrArg JobId.key id)

theorem of_claim {now : Time} {token : Uuid} {worker : String} {duration : Time}
    {capabilities : List JobType} {key : JobKey} {claimed : Job}
    (h : claimNext jobs now token worker duration capabilities key = .ok (jobs', some claimed)) :
    KeepsUploads jobs jobs' := by
  obtain ⟨job, found, -, -, -, rfl, rfl⟩ := claimNext_ok h
  have same : job.id.key = key := jobs.get_key found
  exact put_found found same

end KeepsUploads

/-- No row appears or goes, and the rows whose columns change do so in these
    ways; an upload that appears names a generation its row has reached. -/
structure Shifts (moves : Uuid → StorageColumns → StorageColumns → Prop) (db db' : Db) : Prop where
  rows : ∀ m, columnsOf db' m = columnsOf db m ∨
    ∃ c c', columnsOf db m = some c ∧ columnsOf db' m = some c' ∧ moves m c c'
  fresh : db.fresh ≤ db'.fresh
  uploads : ∀ m generation, (db'.jobs.get (.uploadStorage m generation)).isSome = true →
    (db.jobs.get (.uploadStorage m generation)).isSome = true ∨
      ∃ c, columnsOf db' m = some c ∧ generation ≤ c.storageGeneration

/-- One row changes so. -/
def At (id : Uuid) (move : StorageColumns → StorageColumns → Prop) (m : Uuid)
    (c c' : StorageColumns) : Prop := m = id ∧ move c c'

def Still (_ : Uuid) (_ _ : StorageColumns) : Prop := False

namespace Shifts
variable {moves : Uuid → StorageColumns → StorageColumns → Prop}

theorem of_media (media : db'.media = db.media) (fresh : db.fresh ≤ db'.fresh)
    (uploads : KeepsUploads db.jobs db'.jobs) : Shifts moves db db' :=
  ⟨fun m => Or.inl (columnsOf_same media m), fresh,
    fun m generation there => Or.inl (uploads m generation there)⟩

theorem refl (db : Db) : Shifts moves db db := .of_media rfl le_rfl (.refl _)

theorem of_setMedia {id : Uuid} {row row' : Media} (found : db.media.get id = some row)
    (move : moves id (storageColumns row) (storageColumns row')) :
    Shifts moves db (setMedia db id row') where
  rows := by
    intro m
    rw [columnsOf_setMedia]
    split
    · rename_i same
      subst same
      exact Or.inr ⟨_, _, columnsOf_found found, rfl, move⟩
    · exact Or.inl rfl
  fresh := le_rfl
  uploads := fun _ _ there => Or.inl there

/-- What follows in the same transaction without touching a media. -/
theorem then_media (first : Shifts moves db db') (media : db''.media = db'.media)
    (fresh : db'.fresh ≤ db''.fresh) (uploads : KeepsUploads db'.jobs db''.jobs) :
    Shifts moves db db'' where
  rows := by
    intro m
    rw [columnsOf_same media m]
    exact first.rows m
  fresh := le_trans first.fresh fresh
  uploads := by
    intro m generation there
    rw [columnsOf_same media m]
    exact first.uploads m generation (uploads m generation there)

theorem after_media (second : Shifts moves db' db'') (media : db'.media = db.media)
    (fresh : db.fresh ≤ db'.fresh) (uploads : KeepsUploads db.jobs db'.jobs) : Shifts moves db db'' where
  rows := by
    intro m
    rw [← columnsOf_same media m]
    exact second.rows m
  fresh := le_trans fresh second.fresh
  uploads := fun m generation there =>
    (second.uploads m generation there).imp (uploads m generation) id

theorem then_enqueues {kind : JobKey → Prop} (first : Shifts moves db db')
    (second : Enqueues kind db' db'')
    (others : ∀ m generation, ¬ kind (.uploadStorage m generation)) : Shifts moves db db'' :=
  first.then_media second.media second.fresh (.of_added second.rows others)

theorem then_cleanups (first : Shifts moves db db') (second : Enqueues IsCleanup db' db'') :
    Shifts moves db db'' := by
  apply first.then_enqueues second
  rintro m generation ⟨_, _, same⟩
  cases same

theorem then_materializations {ids : List Uuid} (first : Shifts moves db db')
    (second : Enqueues (IsMaterialization ids) db' db'') : Shifts moves db db'' := by
  apply first.then_enqueues second
  rintro m generation ⟨_, _, same⟩
  cases same

theorem weaken {wide : Uuid → StorageColumns → StorageColumns → Prop} (h : Shifts moves db db')
    (covers : ∀ m c c', moves m c c' → wide m c c') : Shifts wide db db' where
  rows := fun m => (h.rows m).imp id
    (fun ⟨c, c', before, after, move⟩ => ⟨c, c', before, after, covers m c c' move⟩)
  fresh := h.fresh
  uploads := h.uploads

theorem of_committed {ε α : Type} {result : Except ε (Db × α)}
    (write : ∀ db' answer, result = .ok (db', answer) → Shifts moves db db') :
    Shifts moves db (committed db result) := by
  rcases committed_cases db result with same | ⟨answer, ok⟩
  · rw [same]
    exact .refl db
  · exact write _ answer ok

end Shifts

end Rows

section Transactions
variable {db db' : Db} {mediaId : Uuid}

theorem ownedUpload_eq_some {ownerToken : Uuid} {row : Media} :
    ownedUpload db mediaId ownerToken = some row ↔
      db.media.get mediaId = some row ∧ row.storageToken = some ownerToken := by
  simp only [ownedUpload, Option.filter_eq_some_iff, beq_iff_eq]

/-- What a reservation request does: nothing, or one free pending row of the
    generation takes a fresh token. -/
theorem reserveStorageUpload_ok {generation : Nat} {answer : StorageUploadReservation}
    (h : reserveStorageUpload db mediaId generation = .ok (db', answer)) :
    (db' = db ∧ ∀ token metadata, answer ≠ .reserved token metadata) ∨
      ∃ row, db.media.get mediaId = some row ∧ row.storageState = .pending ∧
        row.storageGeneration = generation ∧ row.storageToken = none ∧
        db' = { setMedia db mediaId (reservedMedia db.now db.fresh row) with fresh := db.fresh + 1 } ∧
        answer = .reserved db.fresh (captionMetadataOf row) := by
  simp only [reserveStorageUpload, lockMedia, bind_ok, expect_ok] at h
  obtain ⟨row, found, h⟩ := h
  split at h
  · simp only [bind_ok, pure_ok, Prod.mk.injEq] at h
    obtain ⟨receipt, -, rfl, rfl⟩ := h
    exact Or.inl ⟨rfl, by intro _ _ same; cases same⟩
  · split at h
    · cases h
      exact Or.inl ⟨rfl, by intro _ _ same; cases same⟩
    · split at h
      · cases h
        exact Or.inl ⟨rfl, by intro _ _ same; cases same⟩
      · split at h
        · cases h
          exact Or.inl ⟨rfl, by intro _ _ same; cases same⟩
        · cases h
          rename_i unready current known free
          refine Or.inr ⟨row, found, ?_, by simpa using current, by simpa using free, rfl, rfl⟩
          cases state : row.storageState <;> simp_all

theorem renewStorageUpload_ok {ownerToken : Uuid} {started : Time}
    (h : renewStorageUpload db mediaId ownerToken = .ok (db', started)) :
    ∃ row, db.media.get mediaId = some row ∧ row.storageToken = some ownerToken ∧
      db' = setMedia db mediaId (reservedMedia db.now ownerToken row) := by
  simp only [renewStorageUpload, bind_ok, expect_ok, pure_ok, Prod.mk.injEq,
    ownedUpload_eq_some] at h
  obtain ⟨row, ⟨found, held⟩, rfl, -⟩ := h
  exact ⟨row, found, held, rfl⟩

theorem renewStorageUpload_shifts {ownerToken : Uuid} {started : Time}
    (h : renewStorageUpload db mediaId ownerToken = .ok (db', started)) :
    Shifts (At mediaId (fun c c' => c.storageToken = some ownerToken ∧ c' = c.owned ownerToken db.now))
      db db' := by
  obtain ⟨row, found, held, rfl⟩ := renewStorageUpload_ok h
  exact .of_setMedia found ⟨rfl, held, rfl⟩

theorem releaseStorageUpload_ok {ownerToken : Uuid} {answer : Unit}
    (h : releaseStorageUpload db mediaId ownerToken = .ok (db', answer)) :
    db' = db ∨ ∃ row, db.media.get mediaId = some row ∧ row.storageToken = some ownerToken ∧
      db' = setMedia db mediaId (clearedReservation db.now .pending row) := by
  unfold releaseStorageUpload at h
  split at h
  · cases h
    exact Or.inl rfl
  · rename_i row owned
    cases h
    obtain ⟨found, held⟩ := ownedUpload_eq_some.mp owned
    exact Or.inr ⟨row, found, held, rfl⟩

/-- A stored message becomes the location of its row. -/
theorem storeMedia_shifts {attachment : StorageUploadAttachment} {row : Media}
    {receipt : Except Error StorageReceipt} (found : db.media.get mediaId = some row)
    (h : storeMedia db mediaId attachment row = .ok (db', receipt)) :
    Shifts (At mediaId (fun c c' => c = storageColumns row ∧ c' = c.stored attachment)) db db' := by
  simp only [storeMedia, readyMedia, bind_ok, pure_ok, Prod.mk.injEq] at h
  obtain ⟨ready, ⟨-, -, rfl⟩, stored, caption, rfl, -⟩ := h
  have columns : storageColumns stored = (storageColumns row).stored attachment := by
    unfold captionSyncValuesAfterStorageUpload at caption
    split at caption
    · cases caption
      rfl
    · unfold nextCaptionSyncValues at caption
      repeat' split at caption
      all_goals
        cases caption
        try rfl
  have first : Shifts (At mediaId (fun c c' => c = storageColumns row ∧ c' = c.stored attachment)) db
      (setMedia db mediaId stored) := .of_setMedia found ⟨rfl, rfl, columns⟩
  have captioned := first.then_enqueues (enqueueCaptionSyncIfPending_enqueues _ mediaId stored true)
    (by rintro m generation ⟨_, _, _, same⟩; cases same)
  refine Shifts.then_cleanups ?_ (enqueueWorkspaceCleanupForMedia_enqueues _ _ _)
  unfold completeLinkedIngestsForStorage
  refine Shifts.then_materializations ?_ (insertMaterializationJobs_enqueues _ _)
  exact captioned.then_media rfl le_rfl (.refl _)

theorem completeStorageUpload_shifts {ownerToken : Uuid} {attachment : StorageUploadAttachment}
    {receipt : Except Error StorageReceipt}
    (h : completeStorageUpload db mediaId ownerToken attachment = .ok (db', receipt)) :
    Shifts (At mediaId (fun c c' => c.storageToken = some ownerToken ∧ c.storageState = .pending ∧
      c' = c.stored attachment)) db db' := by
  simp only [completeStorageUpload, bind_ok, expect_ok, Option.filter_eq_some_iff,
    ownedUpload_eq_some, beq_iff_eq] at h
  obtain ⟨-, -, row, ⟨⟨found, held⟩, pending⟩, h⟩ := h
  apply (storeMedia_shifts found h).weaken
  rintro m c c' ⟨here, rfl, moved⟩
  exact ⟨here, held, pending, moved⟩

theorem attachStorageUpload_shifts {generation : Nat} {attachment : StorageUploadAttachment}
    {receipt : Except Error StorageReceipt}
    (h : attachStorageUpload db mediaId generation attachment = .ok (db', receipt)) :
    Shifts (At mediaId (fun c c' => c.storageGeneration = generation ∧ c.storageState = .unknown ∧
      c' = c.stored attachment)) db db' := by
  simp only [attachStorageUpload, bind_ok, expect_ok, Option.filter_eq_some_iff, Bool.and_eq_true,
    beq_iff_eq] at h
  obtain ⟨-, -, row, ⟨found, current, unknown⟩, h⟩ := h
  apply (storeMedia_shifts found h).weaken
  rintro m c c' ⟨here, rfl, moved⟩
  exact ⟨here, current, unknown, moved⟩

theorem markUnknown_shifts {row : Media} (found : db.media.get mediaId = some row) :
    Shifts (At mediaId (fun c c' => c = storageColumns row ∧ c' = c.cleared .unknown)) db
      (markUnknown db mediaId row) := by
  have cleared : Shifts (At mediaId (fun c c' => c = storageColumns row ∧ c' = c.cleared .unknown)) db
      (setMedia db mediaId (clearedReservation db.now .unknown row)) :=
    .of_setMedia found ⟨rfl, rfl, rfl⟩
  exact cleared.then_media rfl le_rfl (.updateAll _ _ (unknownUploadJob_id _ _))

theorem markOwnedUploadUnknown_shifts {ownerToken : Uuid} {answer : Unit}
    (h : markOwnedUploadUnknown db mediaId ownerToken = .ok (db', answer)) :
    Shifts (At mediaId (fun c c' => c.storageToken = some ownerToken ∧ c.storageState = .pending ∧
      c' = c.cleared .unknown)) db db' := by
  simp only [markOwnedUploadUnknown, bind_ok, expect_ok, pure_ok, Prod.mk.injEq,
    Option.filter_eq_some_iff, ownedUpload_eq_some, beq_iff_eq] at h
  obtain ⟨row, ⟨⟨found, held⟩, pending⟩, rfl, -⟩ := h
  apply (markUnknown_shifts found).weaken
  rintro m c c' ⟨here, rfl, moved⟩
  exact ⟨here, held, pending, moved⟩

theorem markStorageUploadUnknown_shifts {force : Bool} {answer : Unit}
    (h : markStorageUploadUnknown db mediaId force = .ok (db', answer)) :
    Shifts (At mediaId (fun c c' => c' = c.cleared .unknown)) db db' := by
  simp only [markStorageUploadUnknown, lockMedia, bind_ok, expect_ok, pure_ok, Prod.mk.injEq] at h
  obtain ⟨row, found, -, -, rfl, -⟩ := h
  apply (markUnknown_shifts found).weaken
  rintro m c c' ⟨here, rfl, moved⟩
  exact ⟨here, moved⟩

/-- An upload is enqueued for a generation that its row has reached. -/
theorem enqueueStorageUpload_shifts {row : Media} {generation : Nat}
    (found : db.media.get mediaId = some row) (reached : generation ≤ row.storageGeneration) :
    Shifts Still db (enqueueStorageUpload db mediaId generation) := by
  refine ⟨fun m => Or.inl rfl, Nat.le_succ _, fun m other there => ?_⟩
  unfold enqueueStorageUpload at there
  rw [Db.enqueue_jobs_get] at there
  split at there
  · rename_i same
    cases same
    exact Or.inr ⟨_, columnsOf_found found, reached⟩
  · exact Or.inl there

theorem resetStorageUpload_shifts {answer : Unit}
    (h : resetStorageUpload db mediaId = .ok (db', answer)) :
    Shifts (At mediaId (fun c c' => c.storageToken = none ∧ c' = c.reopened)) db db' := by
  simp only [resetStorageUpload, lockMedia, bind_ok, expect_ok, require_ok, pure_ok,
    Prod.mk.injEq] at h
  obtain ⟨row, found, -, free, -, -, -, -, -, -, rfl, -⟩ := h
  have reopened : Shifts (At mediaId (fun c c' => c.storageToken = none ∧ c' = c.reopened)) db
      (setMedia db mediaId (resetMedia db.now row)) :=
    .of_setMedia found ⟨rfl, Option.isNone_iff_eq_none.mp free, rfl⟩
  refine ⟨reopened.rows, Nat.le_succ _, fun m generation there => ?_⟩
  unfold enqueueStorageUpload at there
  rw [Db.enqueue_jobs_get] at there
  split at there
  · rename_i same
    cases same
    exact Or.inr ⟨_, (columnsOf_setMedia db mediaId _ mediaId).trans (if_pos rfl), le_rfl⟩
  · exact Or.inl there

theorem clearLocalWorkPath_shifts (db : Db) (mediaId : Uuid) (states : List MediaStorageState)
    (updatedAt : Media → Time) :
    Shifts Still db (Inbox.clearLocalWorkPath db mediaId states updatedAt) := by
  unfold Inbox.clearLocalWorkPath
  split
  · rename_i row found
    split
    · refine ⟨fun m => Or.inl ?_, le_rfl, fun _ _ there => Or.inl there⟩
      rw [columnsOf_setMedia]
      split
      · rename_i same
        rw [same, columnsOf_found found]
        rfl
      · rfl
    · exact .refl db
  · exact .refl db

theorem completeStorageForMedia_shifts (db : Db) (mediaId : Uuid) :
    Shifts Still db (Inbox.completeStorageForMedia db mediaId) := by
  unfold Inbox.completeStorageForMedia
  refine Shifts.then_cleanups ?_ (enqueueWorkspaceCleanupForMedia_enqueues _ _ _)
  have inserted := insertMaterializationJobs_enqueues
    (updateLinked db mediaId
      (fun ingest => (db.media.get mediaId).any (·.storageState == .ready) && completable ingest)
      (completedIngest db.now))
    (linkedPublications db mediaId
      (fun ingest => (db.media.get mediaId).any (·.storageState == .ready) && completable ingest))
  refine (clearLocalWorkPath_shifts _ _ _ _).after_media inserted.media inserted.fresh
    (.of_added inserted.rows ?_)
  rintro m generation ⟨_, _, same⟩
  cases same

/-- The pending columns of a media, cleared. -/
def Ends (state : MediaStorageState) (c c' : StorageColumns) : Prop :=
  c.storageState = .pending ∧ c' = c.cleared state

theorem missStorage_shifts (db : Db) (mediaId : Uuid) :
    Shifts (At mediaId (Ends .missing)) db (Inbox.missStorage db mediaId) := by
  unfold Inbox.missStorage
  split
  · rename_i row found
    split
    · rename_i pending
      have cleared : Shifts (At mediaId (Ends .missing)) db
          (setMedia db mediaId (clearedReservation db.now .missing row)) :=
        .of_setMedia found ⟨rfl, pending, rfl⟩
      exact cleared.then_cleanups (enqueueWorkspaceCleanupForMedia_enqueues _ _ _)
    · exact .refl db
  · exact .refl db

theorem failStorageForMedia_shifts {status : IngestStatus} {errorCode errorMessage : String}
    {answer : Unit}
    (h : Inbox.failStorageForMedia db mediaId status errorCode errorMessage = .ok (db', answer)) :
    Shifts (At mediaId (fun c c' => status = .failedTerminal ∧ Ends .missing c c')) db db' := by
  simp only [Inbox.failStorageForMedia, bind_ok, pure_ok, Prod.mk.injEq] at h
  obtain ⟨-, -, rfl, -⟩ := h
  split
  · rename_i terminal
    have missed := missStorage_shifts (updateLinked db mediaId
      (fun ingest => ingest.status == .storing ||
        (ingest.status == .failedRetryable && ingest.errorCode == some "storage_upload"))
      (Inbox.failedStorageIngest db.now status errorCode errorMessage)) mediaId
    have failed : Shifts (At mediaId (Ends .missing)) db _ := missed.after_media rfl le_rfl (.refl _)
    apply failed.weaken
    rintro m c c' ⟨here, ends⟩
    exact ⟨here, terminal, ends⟩
  · exact .of_media rfl le_rfl (.refl _)

theorem reconcileStorageTerminal_shifts (db : Db) (mediaId : Uuid) (errorMessage : String) :
    Shifts (At mediaId (Ends .unknown)) db (reconcileStorageTerminal db mediaId errorMessage) := by
  unfold reconcileStorageTerminal
  split
  · exact .refl db
  · rename_i row found
    split
    · exact .of_media rfl le_rfl (.refl _)
    · rename_i pending
      have cleared : Shifts (At mediaId (Ends .unknown)) db
          (setMedia db mediaId (clearedReservation db.now .unknown row)) :=
        .of_setMedia found ⟨rfl, pending, rfl⟩
      exact cleared.then_media rfl le_rfl (.refl _)
    · exact .of_media rfl le_rfl (.refl _)
    · exact .refl db

theorem reconcileStorageTerminal_jobs (db : Db) (mediaId : Uuid) (errorMessage : String) :
    (reconcileStorageTerminal db mediaId errorMessage).jobs = db.jobs := by
  unfold reconcileStorageTerminal
  repeat' split
  all_goals rfl

theorem settleStorageJob_shifts {lease : JobLease} {expected : JobCommand}
    {settlement : JobSettlement} {answer : Job}
    (h : settleStorageJob db lease expected settlement = .ok (db', answer)) :
    Shifts (fun _ => Ends .unknown) db db' := by
  simp only [settleStorageJob, bind_ok, expect_ok] at h
  obtain ⟨job, locked, command, -, h⟩ := h
  split at h
  · simp only [pure_ok, Prod.mk.injEq] at h
    rename_i m generation
    obtain ⟨rfl, -⟩ := h
    obtain ⟨found, id, -⟩ := lockRunningJob_eq_some.mp locked
    have kept : KeepsUploads db.jobs
        (updateLockedJob db.jobs db.now job (queueParameters job settlement)) :=
      .put_found found (congrArg JobId.key id)
    by_cases terminal : (queueParameters job settlement).terminal = true
    · rw [if_pos terminal]
      have reconciled := (reconcileStorageTerminal_shifts db m
        (queueParameters job settlement).errorMessage).weaken (fun _ _ _ moved => moved.2)
      refine reconciled.then_media rfl le_rfl ?_
      rw [reconcileStorageTerminal_jobs]
      exact kept
    · rw [if_neg terminal]
      exact .of_media rfl le_rfl kept
  · cases h

theorem recoverUpload_shifts {job : Job} {row : Media} (found : db.media.get mediaId = some row)
    (present : (db.jobs.get job.id.key).isSome = true) :
    Shifts (At mediaId (fun c c' => c' = c.cleared .unknown)) db
      (recoverUpload db job mediaId row) := by
  unfold recoverUpload
  split
  · exact .of_media rfl le_rfl (.put (fun _ => present))
  · exact .of_media rfl le_rfl (.put (fun _ => present))
  · have cleared : Shifts (At mediaId (fun c c' => c' = c.cleared .unknown)) db
        (setMedia db mediaId (clearedReservation db.now .unknown row)) :=
      .of_setMedia found ⟨rfl, rfl⟩
    exact cleared.then_media rfl le_rfl (.put (fun _ => present))

theorem recoverStorageJob_shifts {id : JobId} {expected : JobCommand} {answer : Bool}
    (h : recoverStorageJob db id expected = .ok (db', answer)) :
    Shifts (fun _ c c' => c' = c.cleared .unknown) db db' := by
  unfold recoverStorageJob at h
  split at h
  · cases h
    exact .refl db
  · rename_i job locked
    obtain ⟨there, same, -⟩ := lockExpiredJob_eq_some.mp locked
    have present : (db.jobs.get job.id.key).isSome = true := by
      rw [same, there]
      rfl
    simp only [bind_ok] at h
    obtain ⟨command, -, h⟩ := h
    split at h
    · split at h
      · cases h
        exact .of_media rfl le_rfl (.put (fun _ => present))
      · rename_i row found
        split at h
        · cases h
          exact .refl db
        · cases h
          exact (recoverUpload_shifts found present).weaken (fun _ _ _ moved => moved.2)
    · cases h

end Transactions
end Sooqa.Storage
