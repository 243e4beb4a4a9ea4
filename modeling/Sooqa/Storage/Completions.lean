import Sooqa.Foundation.Transition
import Sooqa.Inbox.Effects
import Sooqa.Storage.Effects
import Sooqa.Storage.Statements

/-!
Which completions of an upload reach the ingests that wait for it. Statement by
statement the transactions are the atomic ones. A finalization that has seen
its media pending may commit behind the last look of the upload at the ingests;
the ingest then waits for an upload that is over.
-/
namespace Sooqa.Storage.Statements
open Foundation Queue Library

section Alone
variable {db : Db} {id mediaId : Uuid} {lease : JobLease} {f : Finalization}

/-- A finalization that nobody comes between. -/
def Finalization.alone (f : Finalization) (db : Db) : Option Db :=
  match f.read db with
  | none => none
  | some .waiting => ({ f with phase := .seen (.pending (pendingGeneration db f.mediaId)) } :
      Finalization).commit db
  | some phase => ({ f with phase := phase } : Finalization).commit db

def written {ε α : Type} (result : Except ε (Db × α)) : Option Db :=
  match result with
  | .ok (db, _) => some db
  | .error _ => none

theorem commit_eq (f : Finalization) (what : Seen) (db : Db) :
    ({ f with phase := .seen what } : Finalization).commit db = written (do
      let (advancedDb, advanced) ← advanceSeen db f.id f.request f.mediaId what
      Inbox.finishStage advancedDb f.lease advanced) := by
  unfold Finalization.commit written
  dsimp only
  cases advanceSeen db f.id f.request f.mediaId what with
  | error e => rfl
  | ok pair =>
    dsimp only [bind, Except.bind]
    cases Inbox.finishStage pair.1 f.lease pair.2 <;> rfl

/-- What one look at the media shows. -/
def Seen.ofMedia (media : Media) : Seen :=
  match media.storageState with
  | .ready => .ready
  | .pending => .pending (some media.storageGeneration)
  | .unknown | .missing => .unavailable

theorem advance_alone (db : Db) (id : Uuid) (request : Ingest) (mediaId : Uuid) :
    Inbox.advanceAfterMediaProcessing db id request mediaId = (do
      let media ← expect (db.media.get mediaId) (.missingMediaId id)
      advanceSeen db id request mediaId (.ofMedia media)) := by
  unfold Inbox.advanceAfterMediaProcessing
  cases found : db.media.get mediaId with
  | none => rfl
  | some media =>
    dsimp only [expect]
    rw [bind_ok_eq, bind_ok_eq]
    unfold Seen.ofMedia
    cases state : media.storageState with
    | ready => rfl
    | pending =>
      have inserted : Inbox.insertStorageJob db mediaId =
          enqueueStorageUpload db mediaId media.storageGeneration := by
        unfold Inbox.insertStorageJob
        rw [found, Option.filter_some, if_pos (by rw [state]; rfl)]
      dsimp only [advanceSeen]
      rw [inserted]
    | unknown => rfl
    | missing => rfl

theorem read_alone (f : Finalization) (locked : f.phase = .locked) (db : Db) :
    f.alone db = (db.media.get f.mediaId).bind (fun media =>
      ({ f with phase := .seen (.ofMedia media) } : Finalization).commit db) := by
  unfold Finalization.alone Finalization.read Seen.ofMedia
  rw [locked]
  cases found : db.media.get f.mediaId with
  | none => rfl
  | some media =>
    dsimp only [Option.bind]
    cases state : media.storageState with
    | ready => rfl
    | pending =>
      have generation : pendingGeneration db f.mediaId = some media.storageGeneration := by
        rw [pendingGeneration, found, Option.filter_some, if_pos (by rw [state]; rfl),
          Option.map_some]
      rw [generation]
    | unknown => rfl
    | missing => rfl

theorem finalization_alone (begun : beginFinalization db id lease mediaId = some f) :
    f.alone db = written (Inbox.completeIngestFinalization db id lease mediaId) := by
  unfold beginFinalization at begun
  cases found : db.ingests.get id with
  | none =>
    rw [found] at begun
    cases begun
  | some request =>
    rw [found] at begun
    dsimp only at begun
    split at begun
    · cases begun
    · rename_i going
      split at begun
      · cases begun
      · rename_i image
        cases begun
        have loaded : Inbox.loadRequest db id = .ok request := by
          rw [Inbox.loadRequest, found, expect]
        have passed : require (Inbox.normalizedMediaKind request ≠ some .video)
            Inbox.Error.videoFinalizationNotAllowed = .ok () := require_ok.mpr image
        unfold Inbox.completeIngestFinalization
        rw [loaded, bind_ok_eq, if_neg going, passed, bind_ok_eq]
        dsimp only
        rw [advance_alone, read_alone _ rfl]
        cases db.media.get mediaId with
        | none => rfl
        | some media => exact commit_eq _ _ _

theorem mem_linkedIngests {i : Uuid} :
    i ∈ linkedIngests db mediaId ↔ ∃ ingest, db.ingests.get i = some ingest ∧
      ingest.mediaId = some mediaId ∧ completable ingest = true := by
  unfold linkedIngests
  rw [List.mem_filterMap]
  constructor
  · rintro ⟨⟨j, ingest⟩, member, kept⟩
    rw [Option.ite_none_right_eq_some] at kept
    obtain ⟨linked, same⟩ := kept
    cases same
    exact ⟨ingest, (Table.mem_rows_iff _ _ _).mp member, linked⟩
  · rintro ⟨ingest, found, linked⟩
    exact ⟨(i, ingest), (Table.mem_rows_iff _ _ _).mpr found, if_pos linked⟩

/-- With all linked ingests found, the update is the one of the atomic transactions. -/
theorem completeFound_linked (db : Db) (mediaId : Uuid) :
    completeFound db mediaId (linkedIngests db mediaId) =
      completeLinkedIngestsForStorage db mediaId := by
  have updated : updateFound db mediaId (linkedIngests db mediaId) =
      updateLinked db mediaId completable (completedIngest db.now) := by
    unfold updateFound updateLinked
    congr 1
    apply Table.updateAll_congr
    intro i ingest found
    by_cases linked : ingest.mediaId = some mediaId ∧ completable ingest = true
    · rw [if_pos linked, if_pos ⟨mem_linkedIngests.mpr ⟨ingest, found, linked⟩, linked⟩]
    · rw [if_neg linked, if_neg (fun all => linked all.2)]
  have publications : foundPublications db mediaId (linkedIngests db mediaId) =
      linkedPublications db mediaId completable := by
    unfold foundPublications
    rw [List.filter_eq_self]
    intro i member
    unfold linkedPublications at member
    rw [List.mem_filterMap] at member
    obtain ⟨⟨j, ingest⟩, row, kept⟩ := member
    rw [Option.ite_none_right_eq_some] at kept
    obtain ⟨⟨linked, ready, -⟩, same⟩ := kept
    cases same
    exact decide_eq_true (mem_linkedIngests.mpr
      ⟨ingest, (Table.mem_rows_iff _ _ _).mp row, linked, ready⟩)
  unfold completeFound completeLinkedIngestsForStorage
  rw [updated, publications]

theorem completeStorageUpload_alone (db : Db) (mediaId ownerToken : Uuid)
    (attachment : StorageUploadAttachment) :
    completeStorageUpload db mediaId ownerToken attachment = (do
      let row ← storedRow db mediaId ownerToken attachment
      pure (commitStored db mediaId row (linkedIngests db mediaId),
        intoStorageReceipt mediaId row)) := by
  have captioned (row : Media) : linkedIngests
      (enqueueCaptionSyncIfPending (setMedia db mediaId row) mediaId row true) mediaId =
        linkedIngests db mediaId := by
    unfold linkedIngests
    rw [(enqueueCaptionSyncIfPending_enqueues _ _ _ _).ingests]
    rfl
  have committed (row : Media) : commitStored db mediaId row (linkedIngests db mediaId) =
      enqueueWorkspaceCleanupForMedia (completeLinkedIngestsForStorage
        (enqueueCaptionSyncIfPending (setMedia db mediaId row) mediaId row true) mediaId)
        mediaId db.now := by
    unfold commitStored
    dsimp only
    rw [← captioned row, completeFound_linked]
  unfold completeStorageUpload storeMedia storedRow
  simp only [committed, bind_assoc]

/-- With none found, it is the one for a media that is not stored. -/
theorem completeFound_nil (db : Db) (mediaId : Uuid) :
    completeFound db mediaId [] = insertMaterializationJobs
      (updateLinked db mediaId (fun ingest => false && completable ingest) (completedIngest db.now))
      (linkedPublications db mediaId (fun ingest => false && completable ingest)) := by
  have updated : updateFound db mediaId [] = updateLinked db mediaId
      (fun ingest => false && completable ingest) (completedIngest db.now) := by
    unfold updateFound updateLinked
    congr 1
    apply Table.updateAll_congr
    intro i ingest _
    rw [if_neg (fun all => List.not_mem_nil all.1), if_neg (fun all => Bool.false_ne_true all.2)]
  have publications : foundPublications db mediaId [] =
      linkedPublications db mediaId (fun ingest => false && completable ingest) := by
    have none : linkedPublications db mediaId (fun ingest => false && completable ingest) = [] :=
      List.filterMap_eq_nil_iff.mpr (fun row _ =>
        if_neg (fun all => Bool.false_ne_true all.2.1))
    rw [none]
    exact List.filter_eq_nil_iff.mpr (fun i _ => by simp)
  unfold completeFound
  rw [updated, publications]

theorem completeStorageForMedia_alone (db : Db) (mediaId : Uuid) :
    Inbox.completeStorageForMedia db mediaId = commitSwept db mediaId (sweptIngests db mediaId) := by
  unfold Inbox.completeStorageForMedia commitSwept sweptIngests
  cases ready : (db.media.get mediaId).any (·.storageState == .ready) with
  | true =>
    rw [if_pos rfl, completeFound_linked]
    rfl
  | false =>
    rw [if_neg Bool.false_ne_true, completeFound_nil]

end Alone

section Calm
variable {db db' db'' : Db} {i m id mediaId : Uuid}

/-- The ingest waits for the upload of the media. -/
def Waits (db : Db) (i m : Uuid) : Prop :=
  ∃ ingest, db.ingests.get i = some ingest ∧ ingest.mediaId = some m ∧ ingest.status = .storing

def Stored (db : Db) (m : Uuid) : Prop :=
  ∃ row, db.media.get m = some row ∧ row.storageState = .ready

/-- It waits for an upload that is done. -/
def Stranded (db : Db) (i m : Uuid) : Prop := Waits db i m ∧ Stored db m

theorem Waits.completable {ingest : Ingest} (status : ingest.status = .storing) :
    completable ingest = true := by
  unfold Library.completable
  rw [status]
  rfl

/-- No media was stored, and an ingest that began to wait found its media unstored. -/
structure Calm (db db' : Db) : Prop where
  stored : ∀ m, Stored db' m → Stored db m
  waits : ∀ i m, Waits db' i m → Waits db i m ∨ ¬ Stored db' m

namespace Calm

theorem stranded (calm : Calm db db') (h : Stranded db' i m) : Stranded db i m := by
  obtain ⟨waiting, stored⟩ := h
  refine ⟨?_, calm.stored m stored⟩
  cases calm.waits i m waiting with
  | inl before => exact before
  | inr unstored => exact absurd stored unstored

theorem trans (first : Calm db db') (second : Calm db' db'') : Calm db db'' where
  stored := fun m after => first.stored m (second.stored m after)
  waits := by
    intro i m waiting
    cases second.waits i m waiting with
    | inr unstored => exact Or.inr unstored
    | inl between =>
      cases first.waits i m between with
      | inl before => exact Or.inl before
      | inr unstored => exact Or.inr (fun after => unstored (second.stored m after))

theorem of_tables (media : db'.media = db.media) (ingests : db'.ingests = db.ingests) :
    Calm db db' where
  stored := by
    intro m after
    unfold Stored at after
    rw [media] at after
    exact after
  waits := by
    intro i m waiting
    unfold Waits at waiting
    rw [ingests] at waiting
    exact Or.inl waiting

theorem refl (db : Db) : Calm db db := .of_tables rfl rfl

theorem of_enqueues {kind : JobKey → Prop} (enqueued : Enqueues kind db db') : Calm db db' :=
  .of_tables enqueued.media enqueued.ingests

theorem of_setMedia {row : Media} (kept : row.storageState = .ready → Stored db mediaId) :
    Calm db (setMedia db mediaId row) where
  stored := by
    intro m after
    obtain ⟨found, there, ready⟩ := after
    rcases Table.get_set_cases there with ⟨rfl, rfl⟩ | ⟨-, before⟩
    · exact kept ready
    · exact ⟨found, before, ready⟩
  waits := fun _ _ waiting => Or.inl waiting

theorem of_setIngest {request : Ingest}
    (unstored : ∀ m, request.status = .storing → request.mediaId = some m → ¬ Stored db m) :
    Calm db (Inbox.setIngest db id request) where
  stored := fun _ after => after
  waits := by
    intro i m waiting
    obtain ⟨ingest, there, linked, status⟩ := waiting
    rcases Table.get_set_cases there with ⟨rfl, rfl⟩ | ⟨-, before⟩
    · exact Or.inr (unstored m status linked)
    · exact Or.inl ⟨ingest, before, linked, status⟩

theorem of_committed {ε α : Type} {result : Except ε (Db × α)}
    (calm : ∀ {db' answer}, result = .ok (db', answer) → Calm db db') :
    Calm db (committed db result) := by
  rcases committed_cases db result with same | ⟨answer, ok⟩
  · rw [same]
    exact .refl db
  · exact calm ok

end Calm

theorem mergeMedia_calm {row : Media} {ingest : MediaIngest}
    (found : db.media.get id = some row) (h : mergeMedia db id row ingest = .ok db') :
    Calm db db' := by
  simp only [mergeMedia, bind_ok, pure_ok] at h
  obtain ⟨captioned, values, rfl⟩ := h
  refine Calm.trans (.of_setMedia (fun ready => ⟨row, found, ?_⟩))
    (.of_enqueues (enqueueCaptionSyncIfPending_enqueues _ _ _ _))
  rw [← (nextCaptionSyncValues_storage values).1]
  exact ready

theorem insertMedia_calm (db : Db) (ingest : MediaIngest) : Calm db (insertMedia db ingest) := by
  have written : Calm db (setMedia db db.fresh (newMedia db.now ingest)) :=
    .of_setMedia (fun ready => by cases ready)
  exact written.trans (.of_tables rfl rfl)

theorem resolveMedia_calm {ingest : MediaIngest} {answer : Uuid}
    (h : resolveMedia db ingest = .ok (db', answer)) : Calm db db' := by
  unfold resolveMedia at h
  split at h
  · cases h
    exact insertMedia_calm db ingest
  · rename_i found
    simp only [bind_ok, pure_ok, Prod.mk.injEq] at h
    obtain ⟨merged, written, rfl, -⟩ := h
    exact mergeMedia_calm (findMediaBySha_found found) written

theorem persistVideoIdentity_calm {ingest : MediaIngest}
    {fingerprint : Option VideoFingerprintInput} {decision : VideoIdentityDecision}
    {forceSave : Bool} {outcome : VideoIdentityOutcome}
    (h : persistVideoIdentity db ingest fingerprint decision forceSave = .ok (db', outcome)) :
    Calm db db' := by
  simp only [persistVideoIdentity, bind_ok] at h
  obtain ⟨-, -, h⟩ := h
  split at h
  · rename_i found
    simp only [bind_ok, pure_ok, Prod.mk.injEq] at h
    obtain ⟨merged, written, rfl, -⟩ := h
    exact mergeMedia_calm (findMediaBySha_found found) written
  · simp only [bind_ok] at h
    obtain ⟨print, -, -, -, h⟩ := h
    unfold persistNewVideo at h
    split at h
    · cases h
      exact insertMedia_calm db ingest
    · simp only [bind_ok] at h
      obtain ⟨-, -, h⟩ := h
      split at h
      · cases h
        exact insertMedia_calm db ingest
      · simp only [bind_ok, pure_ok, Prod.mk.injEq] at h
        obtain ⟨-, -, rfl, -⟩ := h
        exact .refl db

/-- The ingest waits when its media was seen pending, and in no other case. -/
theorem advanceSeen_ok {request request' : Ingest} {what : Seen}
    (h : advanceSeen db id request mediaId what = .ok (db', request')) :
    request'.mediaId = some mediaId ∧
      (request'.status = .storing ↔ ∃ generation, what = .pending generation) ∧
      ∃ enqueued, enqueued.media = db.media ∧ enqueued.ingests = db.ingests ∧
        db' = Inbox.setIngest enqueued id request' := by
  cases what with
  | ready =>
    simp only [advanceSeen, bind_ok, pure_ok, Prod.mk.injEq] at h
    obtain ⟨moved, along, rfl, rfl⟩ := h
    rw [Inbox.transitionTo_ok along]
    have other : ¬ ∃ generation, Seen.ready = .pending generation := by
      rintro ⟨generation, same⟩
      cases same
    refine ⟨rfl, ⟨(fun same => by cases same), fun seen => absurd seen other⟩, _, ?_, ?_, rfl⟩
    · rw [(enqueueWorkspaceCleanup_enqueues _ _ _ _).media]
      split <;> rfl
    · rw [(enqueueWorkspaceCleanup_enqueues _ _ _ _).ingests]
      split <;> rfl
  | pending generation =>
    simp only [advanceSeen, bind_ok, pure_ok, Prod.mk.injEq] at h
    obtain ⟨moved, along, rfl, rfl⟩ := h
    rw [Inbox.transitionTo_ok along]
    refine ⟨rfl, ⟨fun _ => ⟨generation, rfl⟩, fun _ => rfl⟩, _, ?_, ?_, rfl⟩
    · cases generation <;> rfl
    · cases generation <;> rfl
  | unavailable =>
    simp only [advanceSeen, bind_ok, pure_ok, Prod.mk.injEq] at h
    obtain ⟨moved, along, rfl, rfl⟩ := h
    rw [Inbox.transitionTo_ok along]
    have other : ¬ ∃ generation, Seen.unavailable = .pending generation := by
      rintro ⟨generation, same⟩
      cases same
    exact ⟨rfl, ⟨(fun same => by cases same), fun seen => absurd seen other⟩, _,
      (enqueueWorkspaceCleanup_enqueues _ _ _ _).media,
      (enqueueWorkspaceCleanup_enqueues _ _ _ _).ingests, rfl⟩

/-- What it can strand is its own ingest, where it saw the media pending. -/
theorem advanceSeen_strands {request request' : Ingest} {what : Seen}
    (h : advanceSeen db id request mediaId what = .ok (db', request'))
    (stranded : Stranded db' i m) : Stranded db i m ∨
      (i = id ∧ m = mediaId ∧ Stored db m ∧ ∃ generation, what = .pending generation) := by
  obtain ⟨linked, waits, enqueued, media, ingests, rfl⟩ := advanceSeen_ok h
  obtain ⟨⟨ingest, there, same, status⟩, row, found, ready⟩ := stranded
  have stored : Stored db m := ⟨row, media ▸ found, ready⟩
  rcases Table.get_set_cases there with ⟨rfl, rfl⟩ | ⟨-, before⟩
  · rw [linked] at same
    cases same
    exact Or.inr ⟨rfl, rfl, stored, waits.mp status⟩
  · exact Or.inl ⟨⟨ingest, ingests ▸ before, same, status⟩, stored⟩

theorem advanceSeen_calm {request request' : Ingest} {what : Seen}
    (h : advanceSeen db id request mediaId what = .ok (db', request'))
    (unstored : ∀ generation, what = .pending generation → ¬ Stored db mediaId) : Calm db db' := by
  obtain ⟨linked, waits, enqueued, media, ingests, rfl⟩ := advanceSeen_ok h
  have before : Calm db enqueued := .of_tables media ingests
  refine before.trans (.of_setIngest ?_)
  intro m storing same stored
  rw [linked] at same
  cases same
  obtain ⟨generation, seen⟩ := waits.mp storing
  exact unstored generation seen (before.stored mediaId stored)

theorem advanceAfterMediaProcessing_calm {request request' : Ingest}
    (h : Inbox.advanceAfterMediaProcessing db id request mediaId = .ok (db', request')) :
    Calm db db' := by
  rw [advance_alone] at h
  simp only [bind_ok, expect_ok] at h
  obtain ⟨media, found, h⟩ := h
  refine advanceSeen_calm h ?_
  intro generation pending stored
  obtain ⟨row, there, ready⟩ := stored
  rw [found] at there
  cases there
  unfold Seen.ofMedia at pending
  rw [ready] at pending
  cases pending

theorem finishStage_calm {lease : JobLease} {request answer : Ingest}
    (h : Inbox.finishStage db lease request = .ok (db', answer)) : Calm db db' := by
  simp only [Inbox.finishStage, Inbox.succeedCurrentJobAttempt, bind_ok, pure_ok,
    Prod.mk.injEq] at h
  obtain ⟨succeeded, ⟨job, -, rfl⟩, rfl, -⟩ := h
  exact .of_tables rfl rfl

theorem completeVideoIdentity_calm {lease : JobLease} {ingest : MediaIngest}
    {fingerprint : Option VideoFingerprintInput} {decision : VideoIdentityDecision}
    {answer : Ingest}
    (h : Inbox.completeVideoIdentity db id lease ingest fingerprint decision = .ok (db', answer)) :
    Calm db db' := by
  simp only [Inbox.completeVideoIdentity, bind_ok] at h
  obtain ⟨request, -, h⟩ := h
  split at h
  · simp only [pure_ok, Prod.mk.injEq] at h
    obtain ⟨rfl, -⟩ := h
    exact .refl db
  · simp only [bind_ok] at h
    obtain ⟨⟨identified, outcome⟩, persisted, ⟨advancedDb, advanced⟩, applied, finished⟩ := h
    have first := persistVideoIdentity_calm (Inbox.liftLibrary_ok persisted)
    refine (first.trans ?_).trans (finishStage_calm finished)
    cases outcome with
    | duplicatePending evidence =>
      simp only [Inbox.applyIdentity, Inbox.pendDuplicate, bind_ok, pure_ok, Prod.mk.injEq] at applied
      obtain ⟨-, -, -, -, moved, along, rfl, rfl⟩ := applied
      exact Calm.trans (.of_enqueues (enqueueWorkspaceCleanup_enqueues _ _ _ _))
        (.of_setIngest (fun _ _ same => by cases same))
    | exactDuplicate mediaId => exact advanceAfterMediaProcessing_calm applied
    | newMedia mediaId => exact advanceAfterMediaProcessing_calm applied

theorem acceptedIngest_storing {now : Time} {ready : Bool} {request accepted : Ingest}
    (h : Inbox.acceptedIngest now mediaId ready request = .ok accepted)
    (storing : accepted.status = .storing) : accepted.mediaId = some mediaId ∧ ready = false := by
  simp only [Inbox.acceptedIngest, bind_ok] at h
  obtain ⟨decided, moved, h⟩ := h
  have row := Inbox.transitionTo_ok moved
  subst row
  split at h
  · simp only [bind_ok, pure_ok] at h
    obtain ⟨completed, again, rfl⟩ := h
    have done := Inbox.transitionTo_ok again
    subst done
    cases storing
  · rename_i unready
    simp only [pure_ok] at h
    subst h
    exact ⟨rfl, Bool.eq_false_iff.mpr unready⟩

theorem acceptDuplicate_calm {answer : Inbox.AcceptDuplicateResult}
    (h : Inbox.acceptDuplicate db id mediaId = .ok (db', answer)) : Calm db db' := by
  simp only [Inbox.acceptDuplicate, bind_ok] at h
  obtain ⟨request, -, h⟩ := h
  split at h
  · simp only [bind_ok, pure_ok, Prod.mk.injEq] at h
    obtain ⟨-, -, rfl, -⟩ := h
    exact .refl db
  · simp only [bind_ok, pure_ok, Prod.mk.injEq] at h
    obtain ⟨⟨decided, accepted⟩, decision, rfl, -⟩ := h
    simp only [Inbox.decideDuplicate, bind_ok, pure_ok, require_ok, expect_ok,
      Prod.mk.injEq] at decision
    obtain ⟨-, -, evidence, -, -, -, candidate, found, -, -, row, accepts, rfl, rfl⟩ := decision
    have merged : Calm db (setMedia db mediaId
        (Inbox.mergedDuplicate db.now request candidate)) :=
      .of_setMedia (fun ready => ⟨candidate, found, ready⟩)
    have enqueued : Calm db
        (if (candidate.storageState == .ready && request.requestedAction != .save) = true then
          insertMaterializationJob
            (setMedia db mediaId (Inbox.mergedDuplicate db.now request candidate)) id
        else setMedia db mediaId (Inbox.mergedDuplicate db.now request candidate)) := by
      split
      · exact merged.trans (.of_enqueues (Inbox.insertMaterializationJob_enqueues _ _))
      · exact merged
    refine enqueued.trans (.of_setIngest ?_)
    intro m storing linked stored
    obtain ⟨same, unready⟩ := acceptedIngest_storing accepts storing
    rw [same] at linked
    cases linked
    obtain ⟨row', there, ready⟩ := enqueued.stored mediaId stored
    rw [found] at there
    cases there
    rw [ready] at unready
    cases unready

end Calm

section Told
variable {db db' : Db} {i m mediaId : Uuid} {uploads : Table Uuid Upload}

/-- It completes the ingest, or has yet to look for it. -/
def UploadPhase.Tells (phase : UploadPhase) (i : Uuid) : Prop :=
  match phase with
  | .completed => True
  | .swept found => i ∈ found
  | _ => False

/-- An upload of the media will tell the ingest. -/
def Expected (uploads : Table Uuid Upload) (i m : Uuid) : Prop :=
  ∃ token upload, uploads.get token = some upload ∧ upload.mediaId = m ∧ upload.phase.Tells i

/-- Every stranded ingest will be told. -/
def Told (db : Db) (uploads : Table Uuid Upload) : Prop :=
  ∀ i m, Stranded db i m → Expected uploads i m

/-- A finalization that saw its media pending commits once the media is stored
    only while an upload of it will still tell the ingest. -/
def Timely (w : World) : Action → Prop
  | .commit token => ∀ f generation, w.finalizations.get token = some f →
      f.phase = .seen (.pending generation) → Stored w.db f.mediaId →
      Expected w.uploads f.id f.mediaId
  | _ => True

namespace Told

theorem calm (told : Told db uploads) (kept : Calm db db') : Told db' uploads :=
  fun i m stranded => told i m (kept.stranded stranded)

/-- A new attempt took nobody's place. -/
theorem insert (told : Told db uploads) {token : Uuid} (free : uploads.get token = none)
    (upload : Upload) : Told db (uploads.set token upload) := by
  intro i m stranded
  obtain ⟨other, teller, there, ofMedia, tells⟩ := told i m stranded
  have apart : other ≠ token := by
    rintro rfl
    rw [free] at there
    cases there
  exact ⟨other, teller, (Table.get_set_ne _ _ apart).trans there, ofMedia, tells⟩

/-- An attempt that tells nobody goes. -/
theorem remove (told : Told db uploads) {token : Uuid} {upload : Upload}
    (found : uploads.get token = some upload) (silent : ∀ i, ¬ upload.phase.Tells i) :
    Told db (uploads.remove token) := by
  intro i m stranded
  obtain ⟨other, teller, there, ofMedia, tells⟩ := told i m stranded
  have apart : other ≠ token := by
    rintro rfl
    rw [found] at there
    cases there
    exact silent i tells
  exact ⟨other, teller, (Table.get_remove_ne _ apart).trans there, ofMedia, tells⟩

/-- An attempt that moves on answers for those of its media. -/
theorem advance (told : Told db uploads) {token : Uuid} {upload : Upload} {phase : UploadPhase}
    (found : uploads.get token = some upload)
    (moves : ∀ i m, Stranded db' i m →
      (Stranded db i m ∧ (m = upload.mediaId → upload.phase.Tells i → phase.Tells i)) ∨
        (m = upload.mediaId ∧ phase.Tells i)) :
    Told db' (uploads.set token { upload with phase := phase }) := by
  intro i m stranded
  rcases moves i m stranded with ⟨before, carries⟩ | ⟨rfl, tells⟩
  · obtain ⟨other, teller, there, ofMedia, tells⟩ := told i m before
    by_cases same : other = token
    · subst same
      rw [found] at there
      cases there
      exact ⟨other, _, Table.get_set_self _ _ _, ofMedia, carries ofMedia.symm tells⟩
    · exact ⟨other, teller, (Table.get_set_ne _ _ same).trans there, ofMedia, tells⟩
  · exact ⟨token, _, Table.get_set_self _ _ _, rfl, tells⟩

end Told

theorem completeFound_media (db : Db) (mediaId : Uuid) (found : List Uuid) :
    (completeFound db mediaId found).media = db.media :=
  (insertMaterializationJobs_enqueues _ _).media

/-- Those that still wait behind the update waited before it, and it did not find them. -/
theorem completeFound_waits {found : List Uuid} (h : Waits (completeFound db mediaId found) i m) :
    Waits db i m ∧ (m = mediaId → i ∉ found) := by
  obtain ⟨ingest, there, linked, status⟩ := h
  have updated : (updateFound db mediaId found).ingests.get i = some ingest := by
    rw [← (insertMaterializationJobs_enqueues _ _).ingests]
    exact there
  unfold updateFound at updated
  rw [Table.get_updateAll, Option.map_eq_some_iff] at updated
  obtain ⟨before, row, same⟩ := updated
  split at same
  · rw [← same] at status
    cases status
  · rename_i missed
    subst same
    refine ⟨⟨before, row, linked, status⟩, ?_⟩
    intro own member
    exact missed ⟨member, own ▸ linked, Waits.completable status⟩

theorem commitStored_media {row : Media} {found : List Uuid} :
    (commitStored db mediaId row found).media = db.media.set mediaId row := by
  unfold commitStored
  rw [(enqueueWorkspaceCleanupForMedia_enqueues _ _ _).media, completeFound_media,
    (enqueueCaptionSyncIfPending_enqueues _ _ _ _).media]
  rfl

/-- The other medias keep their states. -/
theorem commitStored_strands {row : Media} {found : List Uuid} (other : m ≠ mediaId)
    (h : Stranded (commitStored db mediaId row found) i m) : Stranded db i m := by
  obtain ⟨waiting, kept, there, ready⟩ := h
  constructor
  · unfold Waits commitStored at waiting
    rw [(enqueueWorkspaceCleanupForMedia_enqueues _ _ _).ingests] at waiting
    obtain ⟨ingest, here, linked⟩ := (completeFound_waits waiting).1
    rw [(enqueueCaptionSyncIfPending_enqueues _ _ _ _).ingests] at here
    exact ⟨ingest, here, linked⟩
  · rw [commitStored_media, Table.get_set_ne _ _ other] at there
    exact ⟨kept, there, ready⟩

theorem clearLocalWorkPath_calm (db : Db) (mediaId : Uuid) (states : List MediaStorageState)
    (updatedAt : Media → Time) :
    Calm db (Inbox.clearLocalWorkPath db mediaId states updatedAt) := by
  unfold Inbox.clearLocalWorkPath
  split
  · rename_i row found
    split
    · exact .of_setMedia (fun ready => ⟨row, found, ready⟩)
    · exact .refl db
  · exact .refl db

theorem commitSwept_strands {found : List Uuid}
    (h : Stranded (commitSwept db mediaId found) i m) :
    Stranded db i m ∧ (m = mediaId → i ∉ found) := by
  have cleared : Calm (completeFound db mediaId found) (commitSwept db mediaId found) := by
    unfold commitSwept
    exact (clearLocalWorkPath_calm _ _ _ _).trans
      (.of_enqueues (enqueueWorkspaceCleanupForMedia_enqueues _ _ _))
  obtain ⟨waiting, stored⟩ := cleared.stranded h
  obtain ⟨before, missed⟩ := completeFound_waits waiting
  unfold Stored at stored
  rw [completeFound_media] at stored
  exact ⟨⟨before, stored⟩, missed⟩

/-- The last look of an upload finds every ingest that is stranded by then. -/
theorem mem_sweptIngests (h : Stranded db i mediaId) : i ∈ sweptIngests db mediaId := by
  obtain ⟨⟨ingest, there, linked, status⟩, row, found, ready⟩ := h
  unfold sweptIngests
  rw [if_pos (by rw [found, Option.any_some, ready]; rfl)]
  exact mem_linkedIngests.mpr ⟨ingest, there, linked, Waits.completable status⟩

/-- One statement of an upload: who is stranded behind it was so before it, and
    is still answered for, or is answered for by it. -/
theorem next_strands {upload : Upload} {phase : UploadPhase} {rows : List Uuid}
    (h : upload.next db = some (db', phase, rows)) (stranded : Stranded db' i m) :
    (Stranded db i m ∧ (m = upload.mediaId → upload.phase.Tells i → phase.Tells i)) ∨
      (m = upload.mediaId ∧ phase.Tells i) := by
  unfold Upload.next at h
  cases at_ : upload.phase with
  | claimed =>
    rw [at_] at h
    cases h
  | returned =>
    rw [at_] at h
    cases h
  | sent ownerToken attachment =>
    rw [at_] at h
    dsimp only at h
    split at h
    · cases h
      exact Or.inl ⟨stranded, fun _ tells => tells.elim⟩
    · cases h
  | rowStored row =>
    rw [at_] at h
    cases h
    exact Or.inl ⟨stranded, fun _ tells => tells.elim⟩
  | scanned row found =>
    rw [at_] at h
    cases h
    by_cases own : m = upload.mediaId
    · exact Or.inr ⟨own, trivial⟩
    · exact Or.inl ⟨commitStored_strands own stranded, fun same => absurd same own⟩
  | completed =>
    rw [at_] at h
    cases h
    by_cases own : m = upload.mediaId
    · subst own
      exact Or.inr ⟨rfl, mem_sweptIngests stranded⟩
    · exact Or.inl ⟨stranded, fun same => absurd same own⟩
  | swept found =>
    rw [at_] at h
    cases h
    obtain ⟨before, missed⟩ := commitSwept_strands stranded
    exact Or.inl ⟨before, fun own member => absurd member (missed own)⟩

theorem reserve_calm {upload : Upload} {attachment : StorageUploadAttachment} {phase : UploadPhase}
    (h : upload.reserve db attachment = some (db', phase)) :
    Calm db db' ∧ ∀ i, ¬ upload.phase.Tells i := by
  unfold Upload.reserve at h
  split at h
  · rename_i claimed
    have silent : ∀ i, ¬ upload.phase.Tells i := by
      intro i tells
      rw [claimed] at tells
      exact tells
    refine ⟨?_, silent⟩
    split at h
    · rename_i reserved ownerToken metadata answer
      cases h
      rcases reserveStorageUpload_ok answer with ⟨-, other⟩ | ⟨row, found, state, -, -, rfl, -⟩
      · exact absurd rfl (other _ _)
      · have written : Calm db (setMedia db upload.mediaId (reservedMedia db.now db.fresh row)) :=
          .of_setMedia (fun ready => ⟨row, found, ready⟩)
        exact written.trans (.of_tables rfl rfl)
    · cases h
      exact .refl db
    · cases h
  · cases h

theorem commit_ok {f : Finalization} (h : f.commit db = some db') :
    ∃ what advancedDb advanced, f.phase = .seen what ∧
      advanceSeen db f.id f.request f.mediaId what = .ok (advancedDb, advanced) ∧
      db'.media = advancedDb.media ∧ db'.ingests = advancedDb.ingests := by
  unfold Finalization.commit at h
  split at h
  · rename_i what seen
    split at h
    · rename_i advancedDb advanced advances
      split at h
      · rename_i finished answer finishes
        cases h
        simp only [Inbox.finishStage, Inbox.succeedCurrentJobAttempt, bind_ok, pure_ok,
          Prod.mk.injEq] at finishes
        obtain ⟨succeeded, ⟨job, -, rfl⟩, rfl, -⟩ := finishes
        exact ⟨what, advancedDb, advanced, seen, advances, rfl, rfl⟩
      · cases h
    · cases h
  · cases h

/-- The writes of a finalization can strand its own ingest, where it saw the
    media pending, and no other. -/
theorem commit_strands {f : Finalization} (h : f.commit db = some db')
    (stranded : Stranded db' i m) : Stranded db i m ∨ (i = f.id ∧ m = f.mediaId ∧
      Stored db m ∧ ∃ generation, f.phase = .seen (.pending generation)) := by
  obtain ⟨what, advancedDb, advanced, seen, advances, media, ingests⟩ := commit_ok h
  have finished : Calm advancedDb db' := .of_tables media ingests
  rcases advanceSeen_strands advances (finished.stranded stranded) with before | ⟨own, ofMedia, stored, pending⟩
  · exact Or.inl before
  · obtain ⟨generation, rfl⟩ := pending
    exact Or.inr ⟨own, ofMedia, stored, generation, seen⟩

/-- Where it saw the media pending and the media is stored by then, it strands it. -/
theorem commit_pending {f : Finalization} {generation : Option Nat} (h : f.commit db = some db')
    (pending : f.phase = .seen (.pending generation)) (stored : Stored db f.mediaId) :
    Stranded db' f.id f.mediaId := by
  obtain ⟨what, advancedDb, advanced, seen, advances, media, ingests⟩ := commit_ok h
  rw [pending] at seen
  cases seen
  obtain ⟨linked, waits, enqueued, before, -, rfl⟩ := advanceSeen_ok advances
  constructor
  · refine ⟨advanced, ?_, linked, waits.mpr ⟨generation, rfl⟩⟩
    rw [ingests]
    exact Table.get_set_self _ _ _
  · unfold Stored
    rw [media]
    unfold Stored at stored
    rw [← before] at stored
    exact stored

theorem claimJob_told {w w' : World} {worker : String} {leaseDuration : Time}
    {capabilities : List JobType} {key : JobKey} (told : Told w.db w.uploads)
    (h : claimJob w worker leaseDuration capabilities key = some w') : Told w'.db w'.uploads := by
  unfold claimJob at h
  split at h
  · rename_i jobs job claimed
    dsimp only at h
    have claims : Told { w.db with jobs := jobs, fresh := w.db.fresh + 1 } w.uploads :=
      told.calm (.of_tables rfl rfl)
    split at h
    · split at h
      · rename_i free
        cases h
        exact claims.insert (Option.isNone_iff_eq_none.mp free) _
      · cases h
    · cases h
      exact claims
  · cases h

theorem told_step {w w' : World} {act : Action} (told : Told w.db w.uploads)
    (timely : Timely w act) (h : step w act = some w') : Told w'.db w'.uploads := by
  cases act with
  | tick elapsed =>
    cases h
    exact told.calm (.of_tables rfl rfl)
  | resolveMedia ingest =>
    dsimp only [step] at h
    split at h
    · cases h
      exact told.calm (.of_committed resolveMedia_calm)
    · cases h
  | prepare id ingest =>
    dsimp only [step] at h
    split at h
    · rename_i unlinked
      cases h
      simp only [Bool.and_eq_true, Option.isNone_iff_eq_none] at unlinked
      refine told.calm (.of_setIngest ?_)
      intro m storing linked
      rw [unlinked.1.1] at linked
      cases linked
    · cases h
  | enqueue key command =>
    dsimp only [step] at h
    split at h
    · cases h
      exact told.calm (.of_tables rfl rfl)
    · cases h
  | claimJob worker leaseDuration capabilities key => exact claimJob_told told h
  | completeJob lease =>
    dsimp only [step] at h
    split at h
    · split at h
      · cases h
        exact told.calm (.of_tables rfl rfl)
      · cases h
        exact told
    · cases h
  | completeIdentity id lease ingest fingerprint decision =>
    dsimp only [step] at h
    split at h
    · cases h
      exact told.calm (.of_committed completeVideoIdentity_calm)
    · cases h
  | acceptDuplicate id mediaId =>
    dsimp only [step] at h
    split at h
    · cases h
      exact told.calm (.of_committed acceptDuplicate_calm)
    · cases h
  | beginFinalization id lease mediaId =>
    simp only [step, Option.bind_eq_bind, Option.bind_eq_some_iff] at h
    obtain ⟨f, -, h⟩ := h
    split at h
    · cases h
      exact told
    · cases h
  | read token =>
    simp only [step, Option.bind_eq_bind, Option.bind_eq_some_iff] at h
    obtain ⟨f, -, phase, -, h⟩ := h
    cases h
    exact told
  | commit token =>
    simp only [step, Option.bind_eq_bind, Option.bind_eq_some_iff] at h
    obtain ⟨f, found, db, written, h⟩ := h
    cases h
    intro i m stranded
    rcases commit_strands written stranded with before | ⟨rfl, rfl, stored, generation, pending⟩
    · exact told i m before
    · exact timely f generation found pending stored
  | rollBack token =>
    cases h
    exact told
  | reserve token attachment =>
    simp only [step, Option.bind_eq_bind, Option.bind_eq_some_iff] at h
    obtain ⟨upload, found, ⟨db, phase⟩, reserved, h⟩ := h
    dsimp only at h
    split at h
    · cases h
      obtain ⟨calm, silent⟩ := reserve_calm reserved
      refine told.advance found ?_
      intro i m stranded
      exact Or.inl ⟨calm.stranded stranded, fun _ tells => absurd tells (silent i)⟩
    · cases h
  | next token =>
    simp only [step, Option.bind_eq_bind, Option.bind_eq_some_iff] at h
    obtain ⟨upload, found, ⟨db, phase, rows⟩, moved, h⟩ := h
    dsimp only at h
    split at h
    · cases h
      exact told.advance found (fun i m stranded => next_strands moved stranded)
    · cases h
  | finish token =>
    simp only [step, Option.bind_eq_bind, Option.bind_eq_some_iff] at h
    obtain ⟨upload, found, h⟩ := h
    split at h
    · rename_i returned
      have silent : ∀ i, ¬ upload.phase.Tells i := by
        intro i tells
        rw [returned] at tells
        exact tells
      have removed := told.remove found silent
      split at h
      · cases h
        exact removed.calm (.of_tables rfl rfl)
      · cases h
        exact removed
    · cases h

/-- The condition is exact: a step that leaves every stranded ingest an upload
    to tell it is timely. -/
theorem timely_of_told {w w' : World} {act : Action} (h : step w act = some w')
    (told : Told w'.db w'.uploads) : Timely w act := by
  cases act with
  | commit token =>
    simp only [step, Option.bind_eq_bind, Option.bind_eq_some_iff] at h
    obtain ⟨f, found, db, written, h⟩ := h
    cases h
    intro f' generation same pending stored
    rw [found] at same
    cases same
    exact told f.id f.mediaId (commit_pending written pending stored)
  | _ => trivial

/-- No transaction, handler or job of the ingest or the media is left. -/
def Quiescent (w : World) (i m : Uuid) : Prop :=
  (∀ row ∈ Table.rows w.finalizations, row.2.id ≠ i ∧ row.2.mediaId ≠ m) ∧
    (∀ row ∈ Table.rows w.uploads, row.2.mediaId ≠ m) ∧
    ∀ row ∈ Table.rows w.db.jobs.rows, row.2.state.live = true →
      row.2.command.payloadIngest ≠ some i ∧ row.2.command.payloadMedia ≠ some m

instance (w : World) (i m : Uuid) : Decidable (Quiescent w i m) := inferInstanceAs (Decidable (_ ∧ _))

theorem completions_are_told {acts : List Action} {w : World}
    (run : Run step Timely initial acts w) {i m : Uuid} (quiet : Quiescent w i m) :
    ¬ Stranded w.db i m := by
  intro stranded
  have start : Told initial.db initial.uploads := by
    rintro i m ⟨⟨ingest, there, -⟩, -⟩
    cases there
  have told : Told w.db w.uploads :=
    run_invariant (fun w => Told w.db w.uploads) told_step start run
  obtain ⟨token, upload, there, ofMedia, -⟩ := told i m stranded
  exact quiet.2.1 (token, upload) ((Table.mem_rows_iff _ _ _).mpr there) ofMedia

end Told

section Samples

def sampleImage : MediaIngest := ⟨.image, "image", none, [], none, some (10, "canonical.jpg")⟩

def sampleAttachment : StorageUploadAttachment :=
  ⟨-1, 1, some "file", none, some ⟨none, [], none⟩⟩

/-- An ingest of that image, normalized in its workspace. -/
def sampleStoring (workspaceId : Uuid) : Ingest where
  inputKey := ""
  requestHash := ""
  kind := .upload
  status := .storing
  data := {
    telegramWorkspaceId := some workspaceId, mimeType := none, fileName := none
    mediaKind := some .image, inspection := none, download := none, probe := none
    probedMediaKind := none
    normalization := some ⟨(workspaceId, "canonical.jpg"), "image", .image⟩
    finalization := none, duplicateDecision := none }
  suppliedDescription := none
  suppliedTags := []
  requestedAction := .save
  requestedPublishAt := none
  requestedPostCaption := none
  requestedChannelId := none
  workspaceId := workspaceId
  mediaId := none
  forceSave := false
  duplicateEvidence := none
  errorCode := none
  errorMessage := none
  createdAt := 0
  updatedAt := 0
  completedAt := none

def sampleLease (key : JobKey) (serial token : Uuid) : JobLease := ⟨⟨key, serial⟩, 1, "worker", token⟩

def finalizeKey (id : Uuid) : JobKey := .stage .finalizeIngest id false

/-- A finalization that sees the image pending. -/
def sampleFinalizing (id serial token : Uuid) : List Action :=
  [.prepare id (sampleStoring id), .enqueue (finalizeKey id) (.finalizeIngest id),
    .claimJob "worker" minute [.stage .finalizeIngest] (finalizeKey id),
    .beginFinalization id (sampleLease (finalizeKey id) serial token) 0, .read token, .read token]

def sampleReserved : List Action :=
  [.claimJob "worker" minute [.uploadStorageAsset] (.uploadStorage 0 0),
    .reserve 4 sampleAttachment]

/-- The two calls of the upload, statement by statement. -/
def sampleStored : List Action := [.next 4, .next 4, .next 4, .next 4, .next 4, .finish 4]

def sampleCleaned (serial token : Uuid) : List Action :=
  [.claimJob "worker" minute [.cleanupWorkspace] (.cleanupWorkspace 20 20),
    .completeJob (sampleLease (.cleanupWorkspace 20 20) serial token)]

/-- The first finalization commits, its upload is sent, and a second one has
    seen the image pending. -/
def sampleSent : List Action :=
  [.resolveMedia sampleImage] ++ sampleFinalizing 10 1 2 ++ [.commit 2] ++ sampleReserved ++
    sampleFinalizing 20 6 7

/-- The second finalization commits behind the upload: its ingest is left. -/
theorem late_finalization_is_stranded : ∃ acts w, Run step Unrestricted initial acts w ∧
    Quiescent w 20 0 ∧ Stranded w.db 20 0 := by
  obtain ⟨w, reached, quiet, ingest, there, linked, waiting, row, found, ready⟩ :
      ∃ w, exec step initial (sampleSent ++ sampleStored ++ [.commit 7]) = some w ∧
        Quiescent w 20 0 ∧ ∃ ingest, w.db.ingests.get 20 = some ingest ∧
          ingest.mediaId = some 0 ∧ ingest.status = .storing ∧
          ∃ row, w.db.media.get 0 = some row ∧ row.storageState = .ready :=
    ⟨_, rfl, by decide +kernel, _, rfl, rfl, rfl, _, rfl, rfl⟩
  exact ⟨_, w, run_of_exec reached, quiet, ⟨ingest, there, linked, waiting⟩, row, found, ready⟩

theorem run_of_no_commit {acts : List Action} {w w' : World}
    (none : ∀ act ∈ acts, ∀ token, act ≠ .commit token) (h : exec step w acts = some w') :
    Run step Timely w acts w' := by
  refine run_of_exec_allowed ?_ h
  intro act member t
  cases act with
  | commit token => exact absurd rfl (none _ member token)
  | _ => trivial

theorem timely_of_pending {w : World} {token : Uuid} {f : Finalization} {row : Media}
    (found : w.finalizations.get token = some f) (there : w.db.media.get f.mediaId = some row)
    (pending : row.storageState = .pending) : Timely w (.commit token) := by
  intro f' generation same _ stored
  rw [found] at same
  cases same
  obtain ⟨row', here, ready⟩ := stored
  rw [there] at here
  cases here
  rw [pending] at ready
  cases ready

/-- It commits before the upload has stored the media: the upload tells it. -/
theorem early_finalization_is_told : ∃ acts w, Run step Timely initial acts w ∧
    Quiescent w 20 0 ∧ ¬ Stranded w.db 20 0 := by
  obtain ⟨v, v', w, w', u, f, row, f', row', first, one, second, two, third, found, there, pending,
      found', there', pending', quiet⟩ : ∃ v v' w w' u f row f' row',
      exec step initial ([.resolveMedia sampleImage] ++ sampleFinalizing 10 1 2) = some v ∧
      step v (.commit 2) = some v' ∧
      exec step v' (sampleReserved ++ sampleFinalizing 20 6 7) = some w ∧
      step w (.commit 7) = some w' ∧
      exec step w' (sampleStored ++ sampleCleaned 9 13) = some u ∧
      v.finalizations.get 2 = some f ∧ v.db.media.get f.mediaId = some row ∧
      row.storageState = .pending ∧ w.finalizations.get 7 = some f' ∧
      w.db.media.get f'.mediaId = some row' ∧ row'.storageState = .pending ∧ Quiescent u 20 0 :=
    ⟨_, _, _, _, _, _, _, _, _, rfl, rfl, rfl, rfl, rfl, rfl, rfl, rfl, rfl, rfl, rfl,
      by decide +kernel⟩
  have before := run_of_no_commit (by simp [sampleFinalizing]) first
  have between := run_of_no_commit (by simp [sampleReserved, sampleFinalizing]) second
  have after := run_of_no_commit (by simp [sampleStored, sampleCleaned]) third
  have run := run_append before (.cons (timely_of_pending found there pending) one
    (run_append between (.cons (timely_of_pending found' there' pending') two after)))
  exact ⟨_, u, run, quiet, completions_are_told run quiet⟩

end Samples
end Sooqa.Storage.Statements
