import Sooqa.Captions.System
import Sooqa.Inbox.LifecycleEffects

/-!
What the transactions do to the captions: which columns of a media row move
together, and which caption jobs appear with them.
-/
namespace Sooqa.Captions
open Foundation Queue Library Worker

/-- The message a media row names. -/
def location (row : Media) : Option MessageId :=
  match row.telegramStorageChatId, row.telegramStorageMessageId with
  | some chatId, some messageId => some ⟨chatId, messageId⟩
  | _, _ => none

theorem hasStorageMessage_iff {row : Media} :
    hasStorageMessage row = true ↔ row.storageState = .ready ∧ ∃ message, location row = some message := by
  unfold hasStorageMessage location
  cases row.telegramStorageChatId <;> cases row.telegramStorageMessageId <;> simp

section Frames

/-- The caption columns, the captioned fields and the message are kept, and the
    row has not become ready. -/
structure KeepsCaption (row row' : Media) : Prop where
  generation : row'.captionSyncGeneration = row.captionSyncGeneration
  state : row'.captionSyncState = row.captionSyncState
  token : row'.captionSyncClaimToken = row.captionSyncClaimToken
  metadata : captionMetadataOf row' = captionMetadataOf row
  place : location row' = location row
  ready : row'.storageState = .ready → row.storageState = .ready

theorem KeepsCaption.refl (row : Media) : KeepsCaption row row := ⟨rfl, rfl, rfl, rfl, rfl, id⟩

/-- The reservation token of a row is given up or stays with its state. -/
def KeepsReservation (row row' : Media) : Prop :=
  row'.storageToken = none ∨
    (row'.storageToken = row.storageToken ∧ row'.storageState = row.storageState)

/-- A reservation afterwards is an old one or a token just drawn. -/
def Reserves (db db' : Db) : Prop :=
  ∀ m row' token, db'.media.get m = some row' → row'.storageToken = some token →
    (∃ row, db.media.get m = some row ∧ row.storageToken = some token ∧
      row'.storageState = row.storageState) ∨
    (db.fresh ≤ token ∧ row'.storageState = .pending)

/-- No caption moved: media rows keep theirs and caption jobs are as before. -/
structure Untouched (db db' : Db) : Prop where
  reserves : Reserves db db'
  rows : ∀ m, db'.media.get m = db.media.get m ∨
    ∃ row row', db.media.get m = some row ∧ db'.media.get m = some row' ∧ KeepsCaption row row'
  jobs : ∀ m generation after, db'.jobs.get (.syncCaption m generation after) =
    db.jobs.get (.syncCaption m generation after)
  fresh : db.fresh ≤ db'.fresh

/-- Neither a media row nor a caption job changed. -/
structure Aside (db db' : Db) : Prop where
  media : db'.media = db.media
  jobs : ∀ m generation after, db'.jobs.get (.syncCaption m generation after) =
    db.jobs.get (.syncCaption m generation after)
  fresh : db.fresh ≤ db'.fresh

variable {db db' db'' : Db}

theorem Reserves.of_media (same : db'.media = db.media) : Reserves db db' :=
  fun _ row' _ found held => Or.inl ⟨row', same ▸ found, held, rfl⟩

theorem Reserves.of_setMedia {id : Uuid} {row row' : Media} (found : db.media.get id = some row)
    (keeps : KeepsReservation row row') : Reserves db (setMedia db id row') := by
  intro m written token there held
  by_cases same : m = id
  · subst same
    rw [show (setMedia db m row').media.get m = some row' from Table.get_set_self _ _ _] at there
    cases there
    rcases keeps with none | ⟨kept, state⟩
    · rw [none] at held
      cases held
    · exact Or.inl ⟨row, found, kept ▸ held, state⟩
  · rw [show (setMedia db id row').media.get m = db.media.get m from Table.get_set_ne _ _ same] at there
    exact Or.inl ⟨written, there, held, rfl⟩

theorem Reserves.then_aside (first : Reserves db db') (same : db''.media = db'.media) :
    Reserves db db'' := by
  intro m row' token found held
  exact first m row' token (same ▸ found) held

theorem Reserves.after_aside (same : db'.media = db.media) (grows : db.fresh ≤ db'.fresh)
    (second : Reserves db' db'') : Reserves db db'' := by
  intro m row' token found held
  rcases second m row' token found held with ⟨row, there, rest⟩ | ⟨drawn, pending⟩
  · exact Or.inl ⟨row, same ▸ there, rest⟩
  · exact Or.inr ⟨le_trans grows drawn, pending⟩

namespace Aside

theorem refl (db : Db) : Aside db db := ⟨rfl, fun _ _ _ => rfl, le_rfl⟩

theorem trans (first : Aside db db') (second : Aside db' db'') : Aside db db'' where
  media := second.media.trans first.media
  jobs := fun m generation after =>
    (second.jobs m generation after).trans (first.jobs m generation after)
  fresh := le_trans first.fresh second.fresh

theorem of_enqueues {kind : JobKey → Prop} (h : Enqueues kind db db')
    (others : ∀ m generation after, ¬ kind (.syncCaption m generation after)) : Aside db db' where
  media := h.media
  jobs := fun m generation after => h.rows.other (others m generation after)
  fresh := h.fresh

theorem of_cleanups (h : Enqueues IsCleanup db db') : Aside db db' := by
  apply of_enqueues h
  rintro m generation after ⟨_, _, same⟩
  cases same

theorem of_materializations {ids : List Uuid} (h : Enqueues (IsMaterialization ids) db db') :
    Aside db db' := by
  apply of_enqueues h
  rintro m generation after ⟨_, _, same⟩
  cases same

theorem of_updateLinked (db : Db) (mediaId : Uuid) (affected : Ingest → Bool)
    (change : Ingest → Ingest) : Aside db (updateLinked db mediaId affected change) :=
  ⟨rfl, fun _ _ _ => rfl, le_rfl⟩

theorem of_setIngest (db : Db) (id : Uuid) (ingest : Ingest) :
    Aside db (Inbox.setIngest db id ingest) :=
  ⟨rfl, fun _ _ _ => rfl, le_rfl⟩

theorem of_put {job : Job} (other : isCaptionKey job.id.key = false) :
    Aside db { db with jobs := db.jobs.put job } where
  media := rfl
  jobs := by
    intro m generation after
    apply Jobs.get_put_ne
    intro same
    rw [← same] at other
    cases other
  fresh := le_rfl

theorem of_settled (db : Db) (mediaId : Uuid) : Aside db (settleQueuedStorageUploadJobs db mediaId) where
  media := rfl
  jobs := by
    intro m generation after
    simp only [settleQueuedStorageUploadJobs, Jobs.get_updateAll]
    cases found : db.jobs.get (.syncCaption m generation after) with
    | none => rfl
    | some job =>
      have owned := job.owned
      rw [db.jobs.get_key found] at owned
      unfold unknownUploadJob
      cases command : job.command <;> rw [command] at owned <;>
        simp [JobKey.owns] at owned
      simp [command]
  fresh := le_rfl

end Aside

namespace Untouched

theorem of_aside (h : Aside db db') : Untouched db db' :=
  ⟨.of_media h.media, fun m => Or.inl (by rw [h.media]), h.jobs, h.fresh⟩

theorem refl (db : Db) : Untouched db db := .of_aside (.refl db)

theorem then_aside (first : Untouched db db') (second : Aside db' db'') : Untouched db db'' where
  reserves := first.reserves.then_aside second.media
  rows := fun m => by rw [second.media]; exact first.rows m
  jobs := fun m generation after =>
    (second.jobs m generation after).trans (first.jobs m generation after)
  fresh := le_trans first.fresh second.fresh

theorem after_aside (first : Aside db db') (second : Untouched db' db'') : Untouched db db'' where
  reserves := .after_aside first.media first.fresh second.reserves
  rows := fun m => by rw [← first.media]; exact second.rows m
  jobs := fun m generation after =>
    (second.jobs m generation after).trans (first.jobs m generation after)
  fresh := le_trans first.fresh second.fresh

theorem of_setMedia {id : Uuid} {row row' : Media} (found : db.media.get id = some row)
    (kept : KeepsCaption row row') (held : KeepsReservation row row') :
    Untouched db (setMedia db id row') where
  reserves := .of_setMedia found held
  rows := by
    intro m
    by_cases same : m = id
    · subst same
      exact Or.inr ⟨row, row', found, Table.get_set_self _ _ _, kept⟩
    · exact Or.inl (Table.get_set_ne _ _ same)
  jobs := fun _ _ _ => rfl
  fresh := le_rfl

theorem of_committed {ε α : Type} {result : Except ε (Db × α)}
    (write : ∀ db' answer, result = .ok (db', answer) → Untouched db db') :
    Untouched db (committed db result) := by
  rcases committed_cases db result with same | ⟨answer, ok⟩
  · rw [same]
    exact .refl db
  · exact write _ answer ok

end Untouched

theorem keeps_of_cleared (now : Time) (state : MediaStorageState) (row : Media)
    (lost : state ≠ .ready) : KeepsCaption row (clearedReservation now state row) :=
  ⟨rfl, rfl, rfl, rfl, rfl, fun ready => absurd ready lost⟩

theorem keeps_of_reserved (now : Time) (token : Uuid) (row : Media) :
    KeepsCaption row (reservedMedia now token row) := ⟨rfl, rfl, rfl, rfl, rfl, id⟩

theorem clearLocalWorkPath_untouched (db : Db) (mediaId : Uuid) (states : List MediaStorageState)
    (updatedAt : Media → Time) :
    Untouched db (Inbox.clearLocalWorkPath db mediaId states updatedAt) := by
  unfold Inbox.clearLocalWorkPath
  split
  · rename_i row found
    split
    · exact .of_setMedia found ⟨rfl, rfl, rfl, rfl, rfl, id⟩ (Or.inr ⟨rfl, rfl⟩)
    · exact .refl db
  · exact .refl db

end Frames

section StorageCalls
variable {db db' : Db} {mediaId : Uuid}

theorem reserveStorageUpload_untouched {generation : Nat} {answer : StorageUploadReservation}
    (h : reserveStorageUpload db mediaId generation = .ok (db', answer)) : Untouched db db' := by
  simp only [reserveStorageUpload, lockMedia, bind_ok, expect_ok] at h
  obtain ⟨row, found, h⟩ := h
  split at h
  · simp only [bind_ok, pure_ok, Prod.mk.injEq] at h
    obtain ⟨-, -, rfl, -⟩ := h
    exact .refl db
  · split at h
    · cases h
      exact .refl db
    · split at h
      · cases h
        exact .refl db
      · split at h
        · cases h
          exact .refl db
        · cases h
          rename_i unready _ known free
          have pending : row.storageState = .pending := by
            cases state : row.storageState <;> simp_all
          refine ⟨?_, fun m => ?_, fun _ _ _ => rfl, Nat.le_succ _⟩
          · intro m written token there held
            by_cases same : m = mediaId
            · subst same
              rw [show Table.get (setMedia db m (reservedMedia db.now db.fresh row)).media m = _ from
                Table.get_set_self _ _ _] at there
              cases there
              cases held
              exact Or.inr ⟨le_rfl, pending⟩
            · rw [show Table.get (setMedia db mediaId (reservedMedia db.now db.fresh row)).media m = _
                from Table.get_set_ne _ _ same] at there
              exact Or.inl ⟨written, there, held, rfl⟩
          · by_cases same : m = mediaId
            · subst same
              exact Or.inr ⟨row, _, found, Table.get_set_self _ _ _, keeps_of_reserved _ _ _⟩
            · exact Or.inl (Table.get_set_ne _ _ same)

theorem ownedUpload_found {ownerToken : Uuid} {row : Media}
    (h : ownedUpload db mediaId ownerToken = some row) : db.media.get mediaId = some row :=
  (Option.filter_eq_some_iff.mp h).1

theorem renewStorageUpload_untouched {ownerToken : Uuid} {started : Time}
    (h : renewStorageUpload db mediaId ownerToken = .ok (db', started)) : Untouched db db' := by
  simp only [renewStorageUpload, bind_ok, expect_ok, pure_ok, Prod.mk.injEq] at h
  obtain ⟨row, owned, rfl, -⟩ := h
  refine .of_setMedia (ownedUpload_found owned) (keeps_of_reserved _ _ _) (Or.inr ⟨?_, rfl⟩)
  have held := (Option.filter_eq_some_iff.mp owned).2
  simp only [beq_iff_eq] at held
  exact held.symm

theorem releaseStorageUpload_untouched {ownerToken : Uuid} {answer : Unit}
    (h : releaseStorageUpload db mediaId ownerToken = .ok (db', answer)) : Untouched db db' := by
  unfold releaseStorageUpload at h
  split at h
  · cases h
    exact .refl db
  · rename_i row owned
    cases h
    exact .of_setMedia (ownedUpload_found owned)
      (keeps_of_cleared _ _ _ (by decide)) (Or.inl rfl)

theorem markUnknown_untouched {row : Media} (found : db.media.get mediaId = some row) :
    Untouched db (markUnknown db mediaId row) := by
  have cleared := Untouched.of_setMedia found (keeps_of_cleared db.now .unknown row (by decide))
    (Or.inl rfl)
  exact (cleared.then_aside (.of_updateLinked _ _ _ _)).then_aside (.of_settled _ _)

theorem completeStorageForMedia_untouched (db : Db) (mediaId : Uuid) :
    Untouched db (Inbox.completeStorageForMedia db mediaId) := by
  unfold Inbox.completeStorageForMedia
  refine Untouched.then_aside ?_ (.of_cleanups (enqueueWorkspaceCleanupForMedia_enqueues _ _ _))
  refine Untouched.after_aside ?_ (clearLocalWorkPath_untouched _ _ _ _)
  exact (Aside.of_updateLinked _ _ _ _).trans
    (.of_materializations (insertMaterializationJobs_enqueues _ _))

theorem missStorage_untouched (db : Db) (mediaId : Uuid) :
    Untouched db (Inbox.missStorage db mediaId) := by
  unfold Inbox.missStorage
  split
  · rename_i row found
    split
    · exact (Untouched.of_setMedia found (keeps_of_cleared _ _ _ (by decide)) (Or.inl rfl)).then_aside
        (.of_cleanups (enqueueWorkspaceCleanupForMedia_enqueues _ _ _))
    · exact .refl db
  · exact .refl db

theorem failStorageForMedia_untouched {status : IngestStatus} {errorCode errorMessage : String}
    {answer : Unit}
    (h : Inbox.failStorageForMedia db mediaId status errorCode errorMessage = .ok (db', answer)) :
    Untouched db db' := by
  simp only [Inbox.failStorageForMedia, bind_ok, pure_ok, Prod.mk.injEq] at h
  obtain ⟨-, -, rfl, -⟩ := h
  split
  · exact .after_aside (.of_updateLinked _ _ _ _) (missStorage_untouched _ _)
  · exact .of_aside (.of_updateLinked _ _ _ _)

theorem reconcileStorageTerminal_untouched (db : Db) (mediaId : Uuid) (errorMessage : String) :
    Untouched db (reconcileStorageTerminal db mediaId errorMessage) := by
  unfold reconcileStorageTerminal
  split
  · exact .refl db
  · rename_i row found
    split
    · exact .of_aside (.of_updateLinked _ _ _ _)
    · exact (Untouched.of_setMedia found (keeps_of_cleared _ _ _ (by decide)) (Or.inl rfl)).then_aside
        (.of_updateLinked _ _ _ _)
    · exact .of_aside (.of_updateLinked _ _ _ _)
    · exact .refl db

theorem not_captionKey_of_upload {key : JobKey} (h : IsUpload key) : isCaptionKey key = false := by
  obtain ⟨m, generation, rfl⟩ := h
  rfl

theorem settleStorageJob_untouched {lease : JobLease} {expected : JobCommand}
    {settlement : JobSettlement} {answer : Job}
    (h : settleStorageJob db lease expected settlement = .ok (db', answer)) : Untouched db db' := by
  simp only [settleStorageJob, bind_ok] at h
  obtain ⟨job, -, command, valid, h⟩ := h
  split at h
  · rename_i m generation
    simp only [pure_ok, Prod.mk.injEq] at h
    obtain ⟨rfl, -⟩ := h
    have upload := isUpload_of_command (validateLockedCommand_ok valid).1.symm
    have first : Untouched db
        (if (queueParameters job settlement).terminal then
          reconcileStorageTerminal db m (queueParameters job settlement).errorMessage
        else db) := by
      split
      · exact reconcileStorageTerminal_untouched _ _ _
      · exact .refl db
    exact first.then_aside (.of_put (not_captionKey_of_upload upload))
  · cases h

theorem recoverStorageJob_untouched {id : JobId} {expected : JobCommand} {answer : Bool}
    (h : recoverStorageJob db id expected = .ok (db', answer)) : Untouched db db' := by
  unfold recoverStorageJob at h
  split at h
  · cases h
    exact .refl db
  · rename_i job locked
    simp only [bind_ok] at h
    obtain ⟨command, valid, h⟩ := h
    split at h
    · rename_i m generation
      have other := not_captionKey_of_upload
        (isUpload_of_command (validateLockedCommand_ok valid).1.symm)
      split at h
      · cases h
        exact .of_aside (.of_put other)
      · rename_i row found
        split at h
        · cases h
          exact .refl db
        · cases h
          unfold recoverUpload
          split
          · exact .of_aside ((Aside.of_updateLinked _ _ _ _).trans (.of_put other))
          · exact .of_aside (.of_put other)
          · exact ((Untouched.of_setMedia found
              (keeps_of_cleared db.now .unknown row (by decide)) (Or.inl rfl)).then_aside
              (.of_updateLinked _ _ _ _)).then_aside (.of_put other)
    · cases h

theorem beginWorkspaceCleanup_untouched {lease : JobLease} {ingestId workspaceId : Uuid}
    {answer : Inbox.WorkspaceCleanupStart}
    (h : Inbox.beginWorkspaceCleanup db lease ingestId workspaceId = .ok (db', answer)) :
    Untouched db db' := by
  unfold Inbox.beginWorkspaceCleanup at h
  split at h
  · cases h
    exact .refl db
  · simp only [bind_ok] at h
    obtain ⟨request, -, h⟩ := h
    split at h
    · cases h
      exact .refl db
    · split at h
      · cases h
        exact .refl db
      · split at h
        · cases h
          unfold Inbox.releaseWorkPath
          split
          · exact .refl db
          · exact clearLocalWorkPath_untouched _ _ _ _
        · cases h
          exact .refl db

end StorageCalls

section Rows

/-- The messages a transaction may store, with the fields they were sent with,
    and the rows whose captioned fields it may change without opening a new
    generation. -/
structure Footprint where
  places : Uuid → MessageId → Option StorageCaptionMetadata → Prop
  recaptions : Uuid → Media → Prop

/-- Most transactions do neither. -/
def Footprint.none : Footprint := ⟨fun _ _ _ => False, fun _ _ => False⟩

/-- What a transaction that is not a caption attempt's does to a media row: it
    keeps the caption; it creates a row, or edits or empties one without a
    message; it changes the captioned fields and nothing else; it opens the
    next generation with a job, for the message there is or for a new one; it
    stores a message that shows the fields. -/
inductive RowMove (f : Footprint) (db db' : Db) (m : Uuid) : Prop where
  | absent (before : db.media.get m = none) (after : db'.media.get m = none)
  | kept (row row' : Media) (before : db.media.get m = some row)
      (after : db'.media.get m = some row') (keeps : KeepsCaption row row')
  | created (row' : Media) (before : db.media.get m = none) (after : db'.media.get m = some row')
      (unstored : row'.storageState ≠ .ready) (state : row'.captionSyncState = .notRequired)
      (drawn : m < db'.fresh)
  | emptied (row row' : Media) (before : db.media.get m = some row)
      (after : db'.media.get m = some row')
      (generation : row'.captionSyncGeneration = row.captionSyncGeneration)
      (state : row'.captionSyncState = .notRequired)
      (stored : row'.storageState = .ready → row.storageState = .ready ∧ location row = none)
  | recaptioned (row row' : Media) (before : db.media.get m = some row)
      (after : db'.media.get m = some row') (covered : f.recaptions m row)
      (generation : row'.captionSyncGeneration = row.captionSyncGeneration)
      (state : row'.captionSyncState = row.captionSyncState)
      (token : row'.captionSyncClaimToken = row.captionSyncClaimToken)
      (storage : row'.storageState = row.storageState) (place : location row' = location row)
  | bumped (row row' : Media) (message : MessageId) (before : db.media.get m = some row)
      (after : db'.media.get m = some row')
      (generation : row'.captionSyncGeneration = row.captionSyncGeneration + 1)
      (state : row'.captionSyncState = .pending) (place : location row' = some message)
      (source : location row = some message ∧ row.storageState = .ready ∨
        row.storageState ≠ .ready ∧ ∃ metadata, f.places m message metadata)
      (job : db.jobs.get (.syncCaption m row'.captionSyncGeneration none) = none →
        ∃ job, db'.jobs.get (.syncCaption m row'.captionSyncGeneration none) = some job ∧
          job.state = .queued)
  | stored (row row' : Media) (message : MessageId) (before : db.media.get m = some row)
      (after : db'.media.get m = some row')
      (generation : row'.captionSyncGeneration = row.captionSyncGeneration)
      (state : row'.captionSyncState = .synced) (place : location row' = some message)
      (source : f.places m message (some (captionMetadataOf row')))

/-- The caption jobs it leaves: those there were, and the first job of a
    generation that it opened. -/
structure CaptionStep (f : Footprint) (db db' : Db) : Prop where
  reserves : Reserves db db'
  rows : ∀ m, RowMove f db db' m
  jobs : ∀ m generation after,
    db'.jobs.get (.syncCaption m generation after) = db.jobs.get (.syncCaption m generation after) ∨
      (db.jobs.get (.syncCaption m generation after) = none ∧ after = none ∧
        (∃ row', db'.media.get m = some row' ∧ row'.captionSyncGeneration = generation) ∧
        ∃ job, db'.jobs.get (.syncCaption m generation after) = some job ∧ job.state = .queued)
  fresh : db.fresh ≤ db'.fresh

variable {f : Footprint} {db db' db'' : Db}

theorem RowMove.of_same {m : Uuid} (same : db'.media.get m = db.media.get m) :
    RowMove f db db' m := by
  cases found : db.media.get m with
  | none => exact .absent found (same.trans found)
  | some row => exact .kept row row found (same.trans found) (.refl row)

/-- A row stays, at its generation or the next. -/
theorem RowMove.grows {m : Uuid} {row : Media} (h : RowMove f db db' m)
    (found : db.media.get m = some row) :
    ∃ row', db'.media.get m = some row' ∧ row.captionSyncGeneration ≤ row'.captionSyncGeneration := by
  cases h with
  | absent before => rw [before] at found; cases found
  | created row' before => rw [before] at found; cases found
  | kept old row' before after keeps =>
    rw [before] at found
    cases found
    exact ⟨row', after, le_of_eq keeps.generation.symm⟩
  | emptied old row' before after same =>
    rw [before] at found
    cases found
    exact ⟨row', after, le_of_eq same.symm⟩
  | recaptioned old row' before after _ same =>
    rw [before] at found
    cases found
    exact ⟨row', after, le_of_eq same.symm⟩
  | bumped old row' message before after next =>
    rw [before] at found
    cases found
    exact ⟨row', after, by omega⟩
  | stored old row' message before after same =>
    rw [before] at found
    cases found
    exact ⟨row', after, le_of_eq same.symm⟩

/-- A row was there, or its identifier has just been drawn. -/
theorem RowMove.back {m : Uuid} {row' : Media} (h : RowMove f db db' m)
    (found : db'.media.get m = some row') : (∃ row, db.media.get m = some row) ∨ m < db'.fresh := by
  cases h with
  | absent before after => rw [after] at found; cases found
  | created _ _ _ _ _ drawn => exact Or.inr drawn
  | kept row _ before => exact Or.inl ⟨row, before⟩
  | emptied row _ before => exact Or.inl ⟨row, before⟩
  | recaptioned row _ before => exact Or.inl ⟨row, before⟩
  | bumped row _ _ before => exact Or.inl ⟨row, before⟩
  | stored row _ _ before => exact Or.inl ⟨row, before⟩

namespace CaptionStep

theorem of_untouched (h : Untouched db db') : CaptionStep f db db' where
  reserves := h.reserves
  rows := by
    intro m
    rcases h.rows m with same | ⟨row, row', before, after, keeps⟩
    · exact .of_same same
    · exact .kept row row' before after keeps
  jobs := fun m generation after => Or.inl (h.jobs m generation after)
  fresh := h.fresh

theorem refl (db : Db) : CaptionStep f db db := .of_untouched (.refl db)

theorem then_aside (first : CaptionStep f db db') (second : Aside db' db'') :
    CaptionStep f db db'' where
  reserves := first.reserves.then_aside second.media
  rows := by
    intro m
    cases first.rows m with
    | absent before after => exact .absent before (second.media ▸ after)
    | kept row row' before after keeps => exact .kept row row' before (second.media ▸ after) keeps
    | created row' before after unstored state drawn =>
      exact .created row' before (second.media ▸ after) unstored state
        (lt_of_lt_of_le drawn second.fresh)
    | emptied row row' before after generation state stored =>
      exact .emptied row row' before (second.media ▸ after) generation state stored
    | recaptioned row row' before after covered generation state token storage place =>
      exact .recaptioned row row' before (second.media ▸ after) covered generation state token storage
        place
    | bumped row row' message before after generation state place source job =>
      refine .bumped row row' message before (second.media ▸ after) generation state place source ?_
      rw [second.jobs]
      exact job
    | stored row row' message before after generation state place source =>
      exact .stored row row' message before (second.media ▸ after) generation state place source
  jobs := by
    intro m generation after
    rw [second.jobs, second.media]
    exact first.jobs m generation after
  fresh := le_trans first.fresh second.fresh

/-- The rewrite of one row without a caption job. -/
theorem of_setMedia {id : Uuid} {row row' : Media} (found : db.media.get id = some row)
    (held : KeepsReservation row row') (move : RowMove f db (setMedia db id row') id) :
    CaptionStep f db (setMedia db id row') where
  reserves := .of_setMedia found held
  rows := by
    intro m
    by_cases same : m = id
    · subst same
      exact move
    · exact .of_same (Table.get_set_ne _ _ same)
  jobs := fun _ _ _ => Or.inl rfl
  fresh := le_rfl

/-- The rewrite of one row with the first job of its new generation. -/
theorem of_bump {id : Uuid} {row row' : Media} {message : MessageId}
    (before : db.media.get id = some row)
    (generation : row'.captionSyncGeneration = row.captionSyncGeneration + 1)
    (state : row'.captionSyncState = .pending) (place : location row' = some message)
    (source : location row = some message ∧ row.storageState = .ready ∨
      row.storageState ≠ .ready ∧ ∃ metadata, f.places id message metadata)
    (held : KeepsReservation row row') :
    CaptionStep f db (enqueueCaptionSyncJob (setMedia db id row') id row'.captionSyncGeneration) where
  reserves := (Reserves.of_setMedia before held).then_aside rfl
  rows := by
    intro m
    by_cases same : m = id
    · subst same
      refine .bumped row row' message before (Table.get_set_self _ _ _) generation state place source ?_
      intro free
      unfold enqueueCaptionSyncJob
      rw [Db.enqueue_jobs_get, if_pos rfl, show (setMedia db m row').jobs = db.jobs from rfl, free]
      exact ⟨_, rfl, rfl⟩
    · exact .of_same (Table.get_set_ne _ _ same)
  jobs := by
    intro m other after
    unfold enqueueCaptionSyncJob
    rw [Db.enqueue_jobs_get]
    split
    · rename_i same
      cases same
      cases present : db.jobs.get (.syncCaption id row'.captionSyncGeneration none) with
      | some job =>
        refine Or.inl ?_
        rw [show (setMedia db id row').jobs = db.jobs from rfl, present]
        rfl
      | none =>
        refine Or.inr ⟨rfl, rfl, ⟨row', Table.get_set_self _ _ _, rfl⟩, ?_⟩
        rw [show (setMedia db id row').jobs = db.jobs from rfl, present]
        exact ⟨_, rfl, rfl⟩
    · exact Or.inl rfl
  fresh := Nat.le_succ _

theorem of_committed {ε α : Type} {result : Except ε (Db × α)}
    (write : ∀ db' answer, result = .ok (db', answer) → CaptionStep f db db') :
    CaptionStep f db (committed db result) := by
  rcases committed_cases db result with same | ⟨answer, ok⟩
  · rw [same]
    exact .refl db
  · exact write _ answer ok

end CaptionStep

theorem untouched_step (h : Untouched db db') : CaptionStep .none db db' := .of_untouched h

end Rows

section Transactions
variable {db db' : Db} {id : Uuid}

/-- What `next_caption_sync_values` answers to a change. -/
theorem nextCaptionSyncValues_changed {row captioned : Media}
    (h : nextCaptionSyncValues id row true = .ok captioned) :
    (hasStorageMessage row = false ∧ captioned = { row with
      captionSyncState := .notRequired, captionSyncError := none, captionSyncClaimToken := none }) ∨
    (hasStorageMessage row = true ∧ captioned = { row with
      captionSyncGeneration := row.captionSyncGeneration + 1
      captionSyncState := .pending, captionSyncError := none, captionSyncClaimToken := none }) := by
  unfold nextCaptionSyncValues at h
  simp only [Bool.not_true, Bool.false_eq_true, if_false] at h
  split at h
  · rename_i missing
    cases h
    exact Or.inl ⟨by simpa using missing, rfl⟩
  · rename_i present
    split at h
    · cases h
      exact Or.inr ⟨by simpa using present, rfl⟩
    · cases h

theorem nextCaptionSyncValues_unchanged {row captioned : Media}
    (h : nextCaptionSyncValues id row false = .ok captioned) : captioned = row := by
  cases h
  rfl

/-- An edit of the captioned fields, by an operator or by an ingest of the same
    bytes: `edit` writes the fields over the caption columns. -/
theorem edit_step {f : Footprint} {row captioned : Media} {changed : Bool} (edit : Media → Media)
    (found : db.media.get id = some row)
    (caption : nextCaptionSyncValues id row changed = .ok captioned)
    (columns : ∀ media, (edit media).captionSyncGeneration = media.captionSyncGeneration ∧
      (edit media).captionSyncState = media.captionSyncState ∧
      (edit media).captionSyncClaimToken = media.captionSyncClaimToken ∧
      (edit media).storageState = media.storageState ∧ location (edit media) = location media ∧
      (edit media).storageToken = media.storageToken)
    (silent : changed = false → captionMetadataOf (edit row) ≠ captionMetadataOf row →
      f.recaptions id row) :
    CaptionStep f db
      (enqueueCaptionSyncIfPending (setMedia db id (edit captioned)) id (edit captioned) changed) := by
  obtain ⟨generation, state, token, storage, place, reserved⟩ := columns captioned
  cases changed with
  | false =>
    have same := nextCaptionSyncValues_unchanged caption
    subst same
    unfold enqueueCaptionSyncIfPending
    simp only [Bool.false_and, Bool.false_eq_true, if_false]
    apply CaptionStep.of_setMedia found (Or.inr ⟨reserved, storage⟩)
    by_cases metadata : captionMetadataOf (edit captioned) = captionMetadataOf captioned
    · exact .kept captioned (edit captioned) found (Table.get_set_self _ _ _)
        ⟨generation, state, token, metadata, place, fun ready => storage ▸ ready⟩
    · exact .recaptioned captioned (edit captioned) found (Table.get_set_self _ _ _)
        (silent rfl metadata) generation state token storage place
  | true =>
    rcases nextCaptionSyncValues_changed caption with ⟨missing, rfl⟩ | ⟨present, rfl⟩
    · unfold enqueueCaptionSyncIfPending
      simp only [state, Bool.true_and, beq_iff_eq, reduceCtorEq, if_false]
      apply CaptionStep.of_setMedia found (Or.inr ⟨reserved, storage⟩)
      refine .emptied row _ found (Table.get_set_self _ _ _) generation state ?_
      intro ready
      have stored : row.storageState = .ready := storage.symm.trans ready
      refine ⟨stored, ?_⟩
      cases there : location row with
      | none => rfl
      | some message =>
        rw [hasStorageMessage_iff.mpr ⟨stored, message, there⟩] at missing
        cases missing
    · obtain ⟨stored, message, there⟩ := hasStorageMessage_iff.mp present
      unfold enqueueCaptionSyncIfPending
      simp only [state, Bool.true_and, beq_self_eq_true, if_true]
      exact .of_bump found generation state (place.trans there) (Or.inl ⟨there, stored⟩)
        (Or.inr ⟨reserved, storage⟩)

/-- An ingest of the same bytes brings a source and nothing else that is new. -/
def OnlySource (row : Media) (ingest : MediaIngest) : Prop :=
  row.sourceUrl = none ∧ ingest.sourceUrl ≠ none ∧ mergeTags row.tags ingest.tags = row.tags ∧
    (ingest.description = none ∨ ingest.description = row.description)

theorem mergeMedia_step {f : Footprint} {row : Media} {ingest : MediaIngest}
    (found : db.media.get id = some row) (covered : OnlySource row ingest → f.recaptions id row)
    (h : mergeMedia db id row ingest = .ok db') : CaptionStep f db db' := by
  simp only [mergeMedia, bind_ok, pure_ok] at h
  obtain ⟨captioned, caption, rfl⟩ := h
  refine edit_step
    (fun captioned => { captioned with
      tags := mergeTags row.tags ingest.tags
      description := if ingest.description.isSome then ingest.description else row.description
      sourceUrl := if row.sourceUrl.isSome then row.sourceUrl else ingest.sourceUrl
      updatedAt := db.now })
    found caption (fun _ => ⟨rfl, rfl, rfl, rfl, rfl, rfl⟩) ?_
  intro unchanged differs
  apply covered
  simp only [Bool.or_eq_false_iff, Bool.and_eq_false_iff, bne_eq_false_iff_eq] at unchanged
  obtain ⟨description, tags⟩ := unchanged
  simp only [captionMetadataOf, ne_eq, StorageCaptionMetadata.mk.injEq, not_and] at differs
  have described : (if ingest.description.isSome then ingest.description else row.description) =
      row.description := by
    rcases description with absent | same
    · rw [absent]
      rfl
    · rw [same]
      exact ite_self _
  have sourced := differs described tags
  cases there : row.sourceUrl with
  | some url =>
    rw [there] at sourced
    exact absurd rfl sourced
  | none =>
    rw [there] at sourced
    refine ⟨there, fun absent => sourced absent, tags, ?_⟩
    rcases description with absent | same
    · exact Or.inl (by simpa using absent)
    · exact Or.inr same

theorem insertMedia_step {f : Footprint} (unused : db.media.get db.fresh = none) (ingest : MediaIngest) :
    CaptionStep f db (insertMedia db ingest) where
  reserves := by
    intro m written token there held
    by_cases same : m = db.fresh
    · subst same
      rw [show Table.get (insertMedia db ingest).media db.fresh = _ from Table.get_set_self _ _ _] at there
      cases there
      cases held
    · rw [show Table.get (insertMedia db ingest).media m = _ from Table.get_set_ne _ _ same] at there
      exact Or.inl ⟨written, there, held, rfl⟩
  rows := by
    intro m
    by_cases same : m = db.fresh
    · subst same
      exact .created (newMedia db.now ingest) unused (Table.get_set_self _ _ _)
        (fun ready => by cases ready) rfl (Nat.lt_succ_self _)
    · exact .of_same (Table.get_set_ne _ _ same)
  jobs := fun _ _ _ => Or.inl rfl
  fresh := Nat.le_succ _

/-- The rows an ingest gives a source without an edit of their caption. -/
def sourceOnly (db : Db) (ingest : MediaIngest) : Footprint where
  places := fun _ _ _ => False
  recaptions := fun m row => findMediaBySha db ingest.sha256 = some (m, row) ∧ OnlySource row ingest

theorem resolveMedia_step {ingest : MediaIngest} {answer : Uuid}
    (unused : db.media.get db.fresh = none)
    (h : Library.resolveMedia db ingest = .ok (db', answer)) :
    CaptionStep (sourceOnly db ingest) db db' := by
  unfold Library.resolveMedia at h
  split at h
  · cases h
    exact insertMedia_step unused ingest
  · rename_i id row found
    simp only [bind_ok, pure_ok, Prod.mk.injEq] at h
    obtain ⟨merged, written, rfl, -⟩ := h
    exact mergeMedia_step (findMediaBySha_found found) (fun only => ⟨found, only⟩) written

theorem persistVideoIdentity_step {ingest : MediaIngest}
    {fingerprint : Option VideoFingerprintInput} {decision : VideoIdentityDecision}
    {forceSave : Bool} {outcome : VideoIdentityOutcome} (unused : db.media.get db.fresh = none)
    (h : persistVideoIdentity db ingest fingerprint decision forceSave = .ok (db', outcome)) :
    CaptionStep (sourceOnly db ingest) db db' := by
  simp only [persistVideoIdentity, bind_ok] at h
  obtain ⟨-, -, h⟩ := h
  split at h
  · rename_i id row found
    simp only [bind_ok, pure_ok, Prod.mk.injEq] at h
    obtain ⟨merged, written, rfl, -⟩ := h
    exact mergeMedia_step (findMediaBySha_found found) (fun only => ⟨found, only⟩) written
  · simp only [bind_ok] at h
    obtain ⟨print, -, -, -, h⟩ := h
    unfold persistNewVideo at h
    split at h
    · cases h
      exact insertMedia_step unused ingest
    · simp only [bind_ok] at h
      obtain ⟨-, -, h⟩ := h
      split at h
      · cases h
        exact insertMedia_step unused ingest
      · simp only [bind_ok, pure_ok, Prod.mk.injEq] at h
        obtain ⟨-, -, rfl, -⟩ := h
        exact .refl db

theorem updateMedia_step {update : MediaUpdate} {answer : Media}
    (h : updateMedia db id update = .ok (db', answer)) : CaptionStep .none db db' := by
  simp only [updateMedia, lockMedia, bind_ok, expect_ok, pure_ok, Prod.mk.injEq] at h
  obtain ⟨row, found, -, -, captioned, caption, rfl, -⟩ := h
  refine edit_step
    (fun captioned => { captioned with
      description := update.description
      tags := update.tags
      updatedAt := db.now })
    found caption (fun _ => ⟨rfl, rfl, rfl, rfl, rfl, rfl⟩) ?_
  intro unchanged differs
  simp only [Bool.or_eq_false_iff, bne_eq_false_iff_eq] at unchanged
  exact absurd (by simp [captionMetadataOf, unchanged.1, unchanged.2]) differs

theorem retryCaptionSync_step {answer : Media}
    (h : retryCaptionSync db id = .ok (db', answer)) : CaptionStep .none db db' := by
  simp only [retryCaptionSync, lockMedia, bind_ok, expect_ok, require_ok] at h
  obtain ⟨row, found, -, present, h⟩ := h
  split at h
  · cases h
    exact .refl db
  · simp only [bind_ok, pure_ok, Prod.mk.injEq] at h
    obtain ⟨-, -, rfl, -⟩ := h
    obtain ⟨stored, message, there⟩ := hasStorageMessage_iff.mp present
    exact .of_bump found rfl rfl there (Or.inl ⟨there, stored⟩) (Or.inr ⟨rfl, rfl⟩)

/-- The row an accepted duplicate gives its supplied fields. -/
def acceptance (db : Db) (id mediaId : Uuid) : Footprint where
  places := fun _ _ _ => False
  recaptions := fun m row => m = mediaId ∧ ∃ request evidence, db.ingests.get id = some request ∧
    request.data.duplicateDecision = none ∧ request.status = .duplicatePending ∧
    request.duplicateEvidence = some evidence ∧ mediaId ∈ evidence ∧
    captionMetadataOf (Inbox.mergedDuplicate db.now request row) ≠ captionMetadataOf row

theorem acceptDuplicate_step {mediaId : Uuid} {answer : Inbox.AcceptDuplicateResult}
    (h : Inbox.acceptDuplicate db id mediaId = .ok (db', answer)) :
    CaptionStep (acceptance db id mediaId) db db' := by
  simp only [Inbox.acceptDuplicate, Inbox.loadRequest, bind_ok, expect_ok] at h
  obtain ⟨request, loaded, h⟩ := h
  split at h
  · simp only [bind_ok, pure_ok, Prod.mk.injEq] at h
    obtain ⟨-, -, rfl, -⟩ := h
    exact .refl db
  · rename_i undecided
    simp only [bind_ok, pure_ok, Prod.mk.injEq] at h
    obtain ⟨⟨decided, accepted⟩, decision, rfl, -⟩ := h
    simp only [Inbox.decideDuplicate, bind_ok, expect_ok, require_ok, pure_ok, Prod.mk.injEq] at decision
    obtain ⟨-, pending, evidence, shown, -, named, candidate, found, -, -, final, -, rfl, rfl⟩ :=
      decision
    have merged : CaptionStep (acceptance db id mediaId) db
        (setMedia db mediaId (Inbox.mergedDuplicate db.now request candidate)) := by
      refine CaptionStep.of_setMedia found (Or.inr ?_) ?_
      · exact ⟨rfl, rfl⟩
      by_cases metadata : captionMetadataOf (Inbox.mergedDuplicate db.now request candidate) =
          captionMetadataOf candidate
      · exact .kept candidate _ found (Table.get_set_self _ _ _)
          ⟨rfl, rfl, rfl, metadata, rfl, fun ready => ready⟩
      · exact .recaptioned candidate _ found (Table.get_set_self _ _ _)
          ⟨rfl, request, evidence, loaded, undecided, pending, shown, named, metadata⟩ rfl rfl rfl rfl
          rfl
    split
    · exact (merged.then_aside (.of_materializations (insertMaterializationJobs_enqueues _ [id]))).then_aside
        (.of_setIngest _ _ _)
    · exact merged.then_aside (.of_setIngest _ _ _)

theorem resetStorageUpload_step {answer : Unit}
    (h : resetStorageUpload db id = .ok (db', answer)) : CaptionStep .none db db' := by
  simp only [resetStorageUpload, lockMedia, bind_ok, expect_ok, pure_ok, Prod.mk.injEq] at h
  obtain ⟨row, found, -, -, -, -, -, -, -, -, rfl, -⟩ := h
  have emptied : CaptionStep .none db (setMedia db id (resetMedia db.now row)) :=
    .of_setMedia found (Or.inl rfl) (.emptied row _ found (Table.get_set_self _ _ _) rfl rfl
      (fun ready => by cases ready))
  have reopened : Aside (setMedia db id (resetMedia db.now row))
      (reopenLinkedIngestsForStorage (setMedia db id (resetMedia db.now row)) id) :=
    .of_updateLinked _ _ _ _
  refine (emptied.then_aside reopened).then_aside ?_
  apply Aside.of_enqueues (show Enqueues IsUpload _ _ from .of_enqueue ⟨_, _, rfl⟩)
  rintro m generation after ⟨_, _, same⟩
  cases same

theorem completeLinkedIngestsForStorage_aside (db : Db) (mediaId : Uuid) :
    Aside db (completeLinkedIngestsForStorage db mediaId) :=
  (Aside.of_updateLinked _ _ _ _).trans
    (.of_materializations (insertMaterializationJobs_enqueues _ _))

/-- The message of an attachment, stored for a media. -/
def storing (id : Uuid) (attachment : StorageUploadAttachment) : Footprint where
  places := fun m message metadata => m = id ∧
    message = ⟨attachment.storageChatId, attachment.storageMessageId⟩ ∧
    metadata = attachment.captionMetadata
  recaptions := fun _ _ => False

/-- A stored message: it shows the current fields, or an edit is opened. -/
theorem storeMedia_step {attachment : StorageUploadAttachment} {row : Media}
    {receipt : Except Error StorageReceipt} (found : db.media.get id = some row)
    (unstored : row.storageState ≠ .ready)
    (h : storeMedia db id attachment row = .ok (db', receipt)) :
    CaptionStep (storing id attachment) db db' := by
  simp only [storeMedia, readyMedia, bind_ok, pure_ok, Prod.mk.injEq] at h
  obtain ⟨ready, ⟨-, -, rfl⟩, stored, caption, rfl, -⟩ := h
  refine CaptionStep.then_aside
    (CaptionStep.then_aside ?_ (completeLinkedIngestsForStorage_aside _ _))
    (.of_cleanups (enqueueWorkspaceCleanupForMedia_enqueues _ _ _))
  unfold captionSyncValuesAfterStorageUpload at caption
  split at caption
  · rename_i shows
    cases caption
    unfold enqueueCaptionSyncIfPending
    simp only [Bool.true_and, beq_iff_eq, reduceCtorEq, if_false]
    exact .of_setMedia found (Or.inl rfl) (.stored row _
      ⟨attachment.storageChatId, attachment.storageMessageId⟩ found (Table.get_set_self _ _ _) rfl rfl
      rfl ⟨rfl, rfl, shows.symm⟩)
  · rcases nextCaptionSyncValues_changed caption with ⟨missing, -⟩ | ⟨-, rfl⟩
    · cases missing
    · unfold enqueueCaptionSyncIfPending
      simp only [Bool.true_and, beq_self_eq_true, if_true]
      exact .of_bump found rfl rfl rfl (Or.inr ⟨unstored, _, rfl, rfl, rfl⟩) (Or.inl rfl)

theorem storageCall_step {call : Inbox.StorageCall} (keeps : keepsMessage call = true) :
    CaptionStep .none db (call.run db) := by
  cases call with
  | completeUpload mediaId ownerToken attachment => cases keeps
  | attach mediaId generation attachment => cases keeps
  | markOwnedUnknown mediaId ownerToken =>
    refine .of_untouched (.of_committed (fun db' answer h => ?_))
    simp only [markOwnedUploadUnknown, bind_ok, expect_ok, pure_ok, Prod.mk.injEq,
      Option.filter_eq_some_iff] at h
    obtain ⟨row, ⟨owned, -⟩, rfl, -⟩ := h
    exact markUnknown_untouched (ownedUpload_found owned)
  | markUnknown mediaId force =>
    refine .of_untouched (.of_committed (fun db' answer h => ?_))
    simp only [markStorageUploadUnknown, lockMedia, bind_ok, expect_ok, pure_ok, Prod.mk.injEq] at h
    obtain ⟨row, found, -, -, rfl, -⟩ := h
    exact markUnknown_untouched found
  | reset mediaId => exact .of_committed (fun _ _ h => resetStorageUpload_step h)
  | completeForMedia mediaId => exact .of_untouched (completeStorageForMedia_untouched db mediaId)
  | failForMedia mediaId status errorMessage =>
    exact .of_untouched (.of_committed (fun _ _ h => failStorageForMedia_untouched h))
  | settle lease expected settlement =>
    exact .of_untouched (.of_committed (fun _ _ h => settleStorageJob_untouched h))
  | recover id expected =>
    exact .of_untouched (.of_committed (fun _ _ h => recoverStorageJob_untouched h))

theorem completeStorageUpload_step {ownerToken : Uuid} {attachment : StorageUploadAttachment}
    {receipt : Except Error StorageReceipt}
    (h : completeStorageUpload db id ownerToken attachment = .ok (db', receipt)) :
    CaptionStep (storing id attachment) db db' := by
  simp only [completeStorageUpload, bind_ok, expect_ok, Option.filter_eq_some_iff] at h
  obtain ⟨-, -, row, ⟨owned, pending⟩, h⟩ := h
  refine storeMedia_step (ownedUpload_found owned) (fun ready => ?_) h
  rw [ready] at pending
  cases pending

theorem attachStorageUpload_step {generation : Nat} {attachment : StorageUploadAttachment}
    {receipt : Except Error StorageReceipt}
    (h : attachStorageUpload db id generation attachment = .ok (db', receipt)) :
    CaptionStep (storing id attachment) db db' := by
  simp only [attachStorageUpload, bind_ok, expect_ok, Option.filter_eq_some_iff] at h
  obtain ⟨-, -, row, ⟨found, unknown⟩, h⟩ := h
  refine storeMedia_step found (fun ready => ?_) h
  simp [ready] at unknown

end Transactions

section Attempts
variable {db db' : Db} {id : Uuid} {generation : Nat} {token : Uuid}

/-- This generation waits on a stored message. -/
def Claimable (row : Media) (generation : Nat) : Prop :=
  row.captionSyncGeneration = generation ∧ hasStorageMessage row = true ∧
    row.captionSyncState = .pending

theorem beginCaptionSync_ok {answer : Option CaptionSyncClaim}
    (h : beginCaptionSync db id generation token = .ok (db', answer)) :
    ∃ row, db.media.get id = some row ∧
      ((¬ Claimable row generation ∧ db' = db ∧ answer = none) ∨
        (Claimable row generation ∧ ∃ message, location row = some message ∧
          db' = setMedia db id (claimedCaption db.now token row) ∧
          answer = some ⟨id, generation, token, message.chatId, message.messageId,
            captionMetadataOf row⟩)) := by
  simp only [beginCaptionSync, lockMedia, bind_ok, expect_ok] at h
  obtain ⟨row, found, h⟩ := h
  refine ⟨row, found, ?_⟩
  split at h
  · rename_i other
    cases h
    refine Or.inl ⟨?_, rfl, rfl⟩
    rintro ⟨same, present, pending⟩
    rcases other with wrong | wrong | wrong
    · exact wrong same
    · rw [present] at wrong
      cases wrong
    · exact wrong pending
  · rename_i claimable
    have due : Claimable row generation := by
      simp only [not_or, Bool.not_eq_false, ne_eq, not_not] at claimable
      exact claimable
    obtain ⟨-, message, there⟩ := hasStorageMessage_iff.mp due.2.1
    unfold location at there
    split at there
    · rename_i chatId messageId chat place
      cases there
      rw [chat, place] at h
      cases h
      refine Or.inr ⟨due, ⟨chatId, messageId⟩, ?_, rfl, rfl⟩
      simp only [location, chat, place]
    · cases there

/-- A report that changes nothing finds the claim gone. -/
def Held (row : Media) (generation : Nat) (token : Uuid) : Prop :=
  row.captionSyncGeneration = generation ∧ hasStorageMessage row = true ∧
    row.captionSyncState = .syncing ∧ row.captionSyncClaimToken = some token

theorem completeCaptionSync_ok {succeeded retryable : Bool} {errorMessage : Option String}
    {answer : CaptionSyncCompletion}
    (h : completeCaptionSync db id generation token succeeded retryable errorMessage =
      .ok (db', answer)) :
    ∃ row, db.media.get id = some row ∧
      ((¬ Held row generation token ∧ db' = db) ∨
        (row.captionSyncGeneration ≠ generation ∧ hasStorageMessage row = true ∧
          db' = enqueueCaptionSyncReapplyJob (setMedia db id (reopenedCaption db.now row)) id
            row.captionSyncGeneration generation token) ∨
        (Held row generation token ∧
          db' = setMedia db id (reportedCaption db.now succeeded retryable errorMessage row))) := by
  simp only [completeCaptionSync, lockMedia, bind_ok, expect_ok] at h
  obtain ⟨row, found, h⟩ := h
  refine ⟨row, found, ?_⟩
  split at h
  · rename_i gone
    cases h
    refine Or.inl ⟨?_, rfl⟩
    rintro ⟨-, present, syncing, -⟩
    rcases gone with missing | idle
    · rw [present] at missing
      cases missing
    · rw [syncing] at idle
      cases idle
  · rename_i here
    have present : hasStorageMessage row = true := by
      by_contra missing
      exact here (Or.inl (by simpa using missing))
    split at h
    · rename_i other
      cases h
      exact Or.inr (Or.inl ⟨other, present, rfl⟩)
    · rename_i same
      split at h
      · rename_i lost
        cases h
        refine Or.inl ⟨?_, rfl⟩
        rintro ⟨-, -, syncing, held⟩
        rcases lost with wrong | wrong
        · exact wrong syncing
        · exact wrong held
      · rename_i held
        cases h
        simp only [not_or, ne_eq, not_not] at held same
        exact Or.inr (Or.inr ⟨⟨same, present, held.1, held.2⟩, rfl⟩)

@[simp] theorem releaseCaption_jobs (db : Db) (mediaId : Uuid) (generation : Nat) (terminal : Bool)
    (error : String) : (releaseCaption db mediaId generation terminal error).jobs = db.jobs := by
  unfold releaseCaption
  split <;> rfl

@[simp] theorem releaseCaption_fresh (db : Db) (mediaId : Uuid) (generation : Nat)
    (terminal : Bool) (error : String) :
    (releaseCaption db mediaId generation terminal error).fresh = db.fresh := by
  unfold releaseCaption
  split <;> rfl

/-- The rows a release leaves: the claimed caption of its generation, given up. -/
theorem get_releaseCaption (db : Db) (mediaId : Uuid) (generation : Nat) (terminal : Bool)
    (error : String) (m : Uuid) :
    (releaseCaption db mediaId generation terminal error).media.get m =
      (db.media.get m).map (fun row =>
        if m = mediaId then releasedCaption db.now generation terminal error row else row) := by
  unfold releaseCaption
  split
  · rename_i absent
    by_cases same : m = mediaId
    · rw [same, absent]
      rfl
    · simp [same]
  · rename_i row found
    by_cases same : m = mediaId
    · subst same
      simp [setMedia, found]
    · simp [setMedia, Table.get_set_ne _ _ same, same]

theorem settleCaptionJob_ok {lease : JobLease} {expected : JobCommand} {settlement : JobSettlement}
    {answer : Job} (h : settleCaptionJob db lease expected settlement = .ok (db', answer)) :
    ∃ job m generation, db.jobs.get lease.jobId.key = some job ∧ job.lease = some lease ∧
      job.command = .syncStorageCaption m generation ∧
      ∃ error, db' =
        { releaseCaption db m generation (queueParameters job settlement).terminal error with
          jobs := db.jobs.put (job.settled db.now (queueParameters job settlement)) } := by
  simp only [settleCaptionJob, bind_ok, expect_ok] at h
  obtain ⟨job, locked, command, valid, h⟩ := h
  obtain ⟨found, shows⟩ := lockRunningJob_shows locked
  have own := (validateLockedCommand_ok valid).1
  split at h
  · rename_i m generation
    cases h
    refine ⟨job, m, generation, found, shows, own.symm,
      truncateSyncError (queueParameters job settlement).errorMessage 512, ?_⟩
    simp only [updateLockedJob, releaseCaption_jobs]
  · cases h

theorem recoverCaptionJob_ok {jobId : JobId} {expected : JobCommand} {answer : Bool}
    (h : recoverCaptionJob db jobId expected = .ok (db', answer)) :
    db' = db ∨ ∃ job m generation, db.jobs.get jobId.key = some job ∧ job.id = jobId ∧
      (∃ columns, job.state = .running columns) ∧
      job.command = .syncStorageCaption m generation ∧
      ∃ error, db' =
        { releaseCaption db m generation (expiredUpdate db.now job).terminal error with
          jobs := db.jobs.put (job.settled db.now (expiredUpdate db.now job)) } := by
  unfold recoverCaptionJob at h
  split at h
  · cases h
    exact Or.inl rfl
  · rename_i job locked
    simp only [bind_ok] at h
    obtain ⟨command, valid, h⟩ := h
    obtain ⟨found, same, columns, running, -⟩ := lockExpiredJob_eq_some.mp locked
    have own := (validateLockedCommand_ok valid).1
    split at h
    · rename_i m generation
      cases h
      refine Or.inr ⟨job, m, generation, found, same, ⟨columns, running⟩, own.symm,
        "caption sync job lease expired after the final attempt", ?_⟩
      simp only [updateLockedJob, releaseCaption_jobs]
    · cases h

end Attempts

end Sooqa.Captions
