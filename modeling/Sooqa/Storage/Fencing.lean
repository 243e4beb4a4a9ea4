import Sooqa.Storage.AtMostOnce

/-!
The fence of generations. The statements that name a reservation's token and
the reservation itself leave a media of another generation alone. Four paths do
not look at the generation: the end of the linked ingests after an upload or
after its failure, the settlement that ends a job, and the recovery of an
expired lease. Each is followed to the rows it changes.
-/
namespace Sooqa.Storage
open Foundation Queue Library Worker

/-- The state of an upload in its row: storage state, token and location. -/
structure UploadColumns where
  storageState : MediaStorageState
  storageToken : Option Uuid
  telegramStorageChatId : Option Int
  telegramStorageMessageId : Option Int
  telegramFileId : Option String
  telegramFileUniqueId : Option String
  deriving DecidableEq

def uploadColumns (row : Media) : UploadColumns :=
  ⟨row.storageState, row.storageToken, row.telegramStorageChatId, row.telegramStorageMessageId,
    row.telegramFileId, row.telegramFileUniqueId⟩

/-- The upload columns of a media and the states of its linked ingests stay. -/
structure Preserved (db db' : Db) (m : Uuid) : Prop where
  media : ∀ row, db.media.get m = some row →
    ∃ row', db'.media.get m = some row' ∧ uploadColumns row' = uploadColumns row
  ingests : ∀ id ingest, db.ingests.get id = some ingest → ingest.mediaId = some m →
    ∃ ingest', db'.ingests.get id = some ingest' ∧ ingest'.status = ingest.status

/-- A linked ingest that an update affects. -/
def Linked (db : Db) (m : Uuid) (affected : Ingest → Bool) : Prop :=
  ∃ id ingest, db.ingests.get id = some ingest ∧ ingest.mediaId = some m ∧ affected ingest = true

/-- Linked ingests that are neither cancelled nor failed for good. -/
def unended (ingest : Ingest) : Bool :=
  ingest.status != .cancelled && ingest.status != .failedTerminal

/-- The linked ingests that `fail_storage_for_media` takes to another state. -/
def failing (status : IngestStatus) (ingest : Ingest) : Bool :=
  ingest.status == .storing ||
    (status == .failedTerminal && ingest.status == .failedRetryable &&
      ingest.errorCode == some "storage_upload")

section Rows
variable {db db' : Db} {m : Uuid} {row row' : Media}

theorem Preserved.of_same (media : db'.media = db.media) (ingests : db'.ingests = db.ingests) :
    Preserved db db' m where
  media := fun row found => ⟨row, media ▸ found, rfl⟩
  ingests := fun _ ingest found _ => ⟨ingest, ingests ▸ found, rfl⟩

/-- What an update of the row and of the linked ingests preserves. -/
theorem preserved_updateLinked_iff {affected moved : Ingest → Bool} {change : Ingest → Ingest}
    (found : db.media.get m = some row) (found' : db'.media.get m = some row')
    (ingests : db'.ingests = (updateLinked db m affected change).ingests)
    (moves : ∀ ingest, moved ingest = true ↔
      affected ingest = true ∧ (change ingest).status ≠ ingest.status) :
    Preserved db db' m ↔ uploadColumns row' = uploadColumns row ∧ ¬ Linked db m moved := by
  constructor
  · intro preserved
    constructor
    · obtain ⟨row'', there, same⟩ := preserved.media row found
      cases found'.symm.trans there
      exact same
    · rintro ⟨id, ingest, there, linked, moving⟩
      obtain ⟨ingest', after, same⟩ := preserved.ingests id ingest there linked
      obtain ⟨hit, other⟩ := (moves ingest).mp moving
      rw [ingests, get_updateLinked, there, Option.map_some, if_pos ⟨linked, hit⟩] at after
      cases after
      exact other same
  · rintro ⟨columns, still⟩
    constructor
    · intro row'' there
      cases found.symm.trans there
      exact ⟨row', found', columns⟩
    · intro id ingest there linked
      rw [ingests, get_updateLinked, there, Option.map_some]
      refine ⟨_, rfl, ?_⟩
      by_cases hit : affected ingest = true
      · rw [if_pos ⟨linked, hit⟩]
        by_contra other
        exact still ⟨id, ingest, there, linked, (moves ingest).mpr ⟨hit, other⟩⟩
      · rw [if_neg (fun both => hit both.2)]

theorem completable_moves (now : Time) (ingest : Ingest) : completable ingest = true ↔
    completable ingest = true ∧ (completedIngest now ingest).status ≠ ingest.status := by
  constructor
  · intro hit
    refine ⟨hit, ?_⟩
    rintro same
    have done : ingest.status = .completed := same.symm
    simp [completable, done] at hit
  · exact And.left

/-- The rows of `storage_unknown` that were not failed for good before. -/
theorem unended_moves (now : Time) (message : String) (ingest : Ingest) :
    unended ingest = true ↔
      (ingest.status != .cancelled &&
        (ingest.status != .failedTerminal || storageFailed ingest)) = true ∧
      (storageUnknownIngest now message ingest).status ≠ ingest.status := by
  unfold unended storageUnknownIngest
  cases ingest.status <;> simp

theorem unended_alone_moves (now : Time) (message : String) (ingest : Ingest) :
    unended ingest = true ↔
      (ingest.status != .cancelled && ingest.status != .failedTerminal) = true ∧
      (storageUnknownIngest now message ingest).status ≠ ingest.status := by
  unfold unended storageUnknownIngest
  cases ingest.status <;> simp

theorem failing_moves (now : Time) {status : IngestStatus} (code message : String)
    (failed : status = .failedRetryable ∨ status = .failedTerminal) (ingest : Ingest) :
    failing status ingest = true ↔
      (ingest.status == .storing ||
        (ingest.status == .failedRetryable && ingest.errorCode == some "storage_upload")) = true ∧
      (Inbox.failedStorageIngest now status code message ingest).status ≠ ingest.status := by
  unfold failing Inbox.failedStorageIngest
  rcases failed with rfl | rfl <;> cases ingest.status <;> simp

end Rows

section Transactions
variable {db db' : Db} {m : Uuid} {row : Media}

theorem completeStorageForMedia_preserved_iff (found : db.media.get m = some row) :
    Preserved db (Inbox.completeStorageForMedia db m) m ↔
      ¬ (row.storageState = .ready ∧ Linked db m completable) := by
  have any : (db.media.get m).any (·.storageState == .ready) = (row.storageState == .ready) := by
    rw [found, Option.any_some]
  unfold Inbox.completeStorageForMedia
  rw [any]
  dsimp only
  generalize written : updateLinked db m
    (fun ingest => row.storageState == .ready && completable ingest) (completedIngest db.now) = u
  generalize linkedPublications db m _ = ids
  have materialized := insertMaterializationJobs_enqueues u ids
  generalize insertMaterializationJobs u ids = v at materialized
  have same : v.media.get m = some row := by
    rw [materialized.media, ← written]
    exact found
  obtain ⟨row', cleared, columns, ingests⟩ : ∃ row',
      (Inbox.clearLocalWorkPath v m [.ready] (·.updatedAt)).media.get m = some row' ∧
      uploadColumns row' = uploadColumns row ∧
      (Inbox.clearLocalWorkPath v m [.ready] (·.updatedAt)).ingests = v.ingests := by
    unfold Inbox.clearLocalWorkPath
    rw [same]
    dsimp only
    split
    · exact ⟨_, Table.get_set_self _ _ _, rfl, rfl⟩
    · exact ⟨row, same, rfl, rfl⟩
  generalize Inbox.clearLocalWorkPath v m [.ready] (·.updatedAt) = x at cleared ingests
  have swept := enqueueWorkspaceCleanupForMedia_enqueues x m db.now
  have moves : ∀ ingest, (row.storageState == .ready && completable ingest) = true ↔
      (row.storageState == .ready && completable ingest) = true ∧
        (completedIngest db.now ingest).status ≠ ingest.status := by
    intro ingest
    rw [Bool.and_eq_true, and_assoc, ← completable_moves db.now ingest]
  rw [preserved_updateLinked_iff found (swept.media ▸ cleared)
    (by rw [swept.ingests, ingests, materialized.ingests, ← written]) moves, and_iff_right columns]
  apply not_congr
  unfold Linked
  simp only [Bool.and_eq_true, beq_iff_eq]
  constructor
  · rintro ⟨id, ingest, there, linked, ready, hit⟩
    exact ⟨ready, id, ingest, there, linked, hit⟩
  · rintro ⟨ready, id, ingest, there, linked, hit⟩
    exact ⟨id, ingest, there, linked, ready, hit⟩

theorem failStorageForMedia_preserved_iff {status : IngestStatus} {code message : String}
    {answer : Unit} (found : db.media.get m = some row)
    (h : Inbox.failStorageForMedia db m status code message = .ok (db', answer)) :
    Preserved db db' m ↔ ¬ (status = .failedTerminal ∧ row.storageState = .pending) ∧
      ¬ Linked db m (failing status) := by
  simp only [Inbox.failStorageForMedia, bind_ok, require_ok, pure_ok, Prod.mk.injEq] at h
  obtain ⟨-, failed, rfl, -⟩ := h
  have moves := failing_moves db.now code message failed
  generalize written : updateLinked db m
    (fun ingest => ingest.status == .storing ||
      (ingest.status == .failedRetryable && ingest.errorCode == some "storage_upload"))
    (Inbox.failedStorageIngest db.now status code message) = u
  have same : u.media.get m = some row := by
    rw [← written]
    exact found
  by_cases missing : status = .failedTerminal ∧ row.storageState = .pending
  · obtain ⟨terminal, pending⟩ := missing
    rw [if_pos terminal]
    have gone : ¬ Preserved db (Inbox.missStorage u m) m := by
      intro preserved
      obtain ⟨row', there, columns⟩ := preserved.media row found
      unfold Inbox.missStorage at there
      rw [same] at there
      dsimp only at there
      have swept := enqueueWorkspaceCleanupForMedia_enqueues
        (setMedia u m (clearedReservation u.now .missing row)) m
        (u.now + workspaceCleanupRetention)
      rw [if_pos pending, swept.media] at there
      cases (Table.get_set_self _ _ _).symm.trans there
      have moved : MediaStorageState.missing = row.storageState :=
        congrArg UploadColumns.storageState columns
      rw [pending] at moved
      cases moved
    exact iff_of_false gone (fun both => both.1 ⟨terminal, pending⟩)
  · have quiet : (if status = .failedTerminal then Inbox.missStorage u m else u) = u := by
      split
      · rename_i terminal
        unfold Inbox.missStorage
        rw [same]
        exact if_neg (fun pending => missing ⟨terminal, pending⟩)
      · rfl
    rw [quiet, preserved_updateLinked_iff found same (by rw [← written]) moves]
    constructor
    · rintro ⟨-, still⟩
      exact ⟨missing, still⟩
    · rintro ⟨-, still⟩
      exact ⟨rfl, still⟩

/-- The rows that the end of a job reconciles. -/
def Reconciles (db : Db) (m : Uuid) (row : Media) : Prop :=
  match row.storageState with
  | .ready => Linked db m completable
  | .pending => True
  | .unknown => Linked db m unended
  | .missing => False

theorem reconcileStorageTerminal_preserved_iff (message : String)
    (found : db.media.get m = some row) :
    Preserved db (reconcileStorageTerminal db m message) m ↔ ¬ Reconciles db m row := by
  unfold reconcileStorageTerminal Reconciles
  rw [found]
  dsimp only
  cases state : row.storageState with
  | ready =>
    have same : (updateLinked db m completable (completedIngest db.now)).media.get m =
      some row := found
    rw [preserved_updateLinked_iff found same rfl (completable_moves db.now), and_iff_right rfl]
  | pending =>
    refine iff_of_false (fun preserved => ?_) (not_not.mpr trivial)
    obtain ⟨row', there, columns⟩ := preserved.media row found
    cases (Table.get_set_self _ _ _).symm.trans there
    have moved : MediaStorageState.unknown = row.storageState :=
      congrArg UploadColumns.storageState columns
    rw [state] at moved
    cases moved
  | unknown =>
    have moves := unended_alone_moves db.now message
    have same : (updateLinked db m
        (fun ingest => ingest.status != .cancelled && ingest.status != .failedTerminal)
        (storageUnknownIngest db.now message)).media.get m = some row := found
    rw [preserved_updateLinked_iff found same rfl moves, and_iff_right rfl]
  | missing => exact iff_of_true (.of_same rfl rfl) not_false

/-- The rows that the recovery of an expired lease changes. -/
def Recovers (db : Db) (m : Uuid) (row : Media) : Prop :=
  match row.storageState with
  | .ready => Linked db m completable
  | .pending => row.storageToken.isSome = true ∧ freshReservation db.now row = false
  | .unknown => Linked db m unended
  | .missing => True

theorem recoverUpload_preserved_iff {job : Job} (found : db.media.get m = some row)
    (held : ∀ token, row.storageToken = some token → row.storageState = .pending)
    (old : freshReservation db.now row = false) :
    Preserved db (recoverUpload db job m row) m ↔ ¬ Recovers db m row := by
  have free : row.storageState ≠ .pending → row.storageToken = none := by
    intro closed
    cases owned : row.storageToken with
    | none => rfl
    | some token => exact absurd (held token owned) closed
  have moves := unended_moves db.now recoveryUnknownMessage
  unfold recoverUpload Recovers
  cases state : row.storageState with
  | ready =>
    dsimp only
    have columns : uploadColumns row = uploadColumns row := rfl
    refine (preserved_updateLinked_iff found ?_ ?_ (completable_moves db.now)).trans
      (and_iff_right columns)
    · exact found
    · rfl
  | pending =>
    cases owned : row.storageToken with
    | none => exact iff_of_true (.of_same rfl rfl) (fun both => by simp at both)
    | some token =>
      refine iff_of_false (fun preserved => ?_) (not_not.mpr ⟨rfl, old⟩)
      obtain ⟨row', there, columns⟩ := preserved.media row found
      cases (Table.get_set_self _ _ _).symm.trans there
      have moved : MediaStorageState.unknown = row.storageState :=
        congrArg UploadColumns.storageState columns
      rw [state] at moved
      cases moved
  | unknown =>
    dsimp only
    have columns : uploadColumns (clearedReservation db.now .unknown row) = uploadColumns row := by
      unfold uploadColumns clearedReservation
      rw [state, free (by rw [state]; decide)]
    refine (preserved_updateLinked_iff found ?_ ?_ moves).trans (and_iff_right columns)
    · exact Table.get_set_self _ _ _
    · rfl
  | missing =>
    refine iff_of_false (fun preserved => ?_) (not_not.mpr trivial)
    obtain ⟨row', there, columns⟩ := preserved.media row found
    cases (Table.get_set_self _ _ _).symm.trans there
    have moved : MediaStorageState.unknown = row.storageState :=
      congrArg UploadColumns.storageState columns
    rw [state] at moved
    cases moved

theorem validateLockedCommand_upload {job : Job} {generation : Nat} :
    validateLockedCommand job (.uploadStorageAsset m generation) =
      if job.command = .uploadStorageAsset m generation then .ok job.command
      else .error .leaseLost := by
  unfold validateLockedCommand
  cases command : job.command with
  | uploadStorageAsset n g =>
    simp only [JobCommand.sameOwner, JobCommand.uploadStorageAsset.injEq, Bool.and_eq_true,
      beq_iff_eq, @eq_comm _ m n, @eq_comm _ generation g]
  | _ => simp [JobCommand.sameOwner]

/-- The settlement ends the locked job of this upload. -/
def EndsJob (db : Db) (lease : JobLease) (command : JobCommand) (settlement : JobSettlement) :
    Prop :=
  ∃ job, lockRunningJob db.jobs db.now lease settlement.allowsExpiredLease = some job ∧
    job.command = command ∧ (queueParameters job settlement).terminal = true

theorem settleStorageJob_preserved_iff {lease : JobLease} {generation : Nat}
    {settlement : JobSettlement} (found : db.media.get m = some row) :
    Preserved db (committed db
      (settleStorageJob db lease (.uploadStorageAsset m generation) settlement)) m ↔
      ¬ (EndsJob db lease (.uploadStorageAsset m generation) settlement ∧ Reconciles db m row) := by
  unfold settleStorageJob
  cases locked : lockRunningJob db.jobs db.now lease settlement.allowsExpiredLease with
  | none =>
    refine iff_of_true (.of_same rfl rfl) ?_
    rintro ⟨⟨job, there, -⟩, -⟩
    cases locked.symm.trans there
  | some job =>
    rw [show expect (some job) JobRepositoryError.leaseLost = .ok job from rfl, bind_ok_eq,
      validateLockedCommand_upload]
    by_cases own : job.command = .uploadStorageAsset m generation
    · rw [if_pos own, own, bind_ok_eq]
      dsimp only
      by_cases terminal : (queueParameters job settlement).terminal = true
      · have reconciled := reconcileStorageTerminal_preserved_iff
          (queueParameters job settlement).errorMessage found
        rw [if_pos terminal]
        have ends : EndsJob db lease (.uploadStorageAsset m generation) settlement :=
          ⟨job, locked, own, terminal⟩
        rw [and_iff_right ends, ← reconciled]
        exact ⟨fun kept => ⟨kept.media, kept.ingests⟩, fun kept => ⟨kept.media, kept.ingests⟩⟩
      · rw [if_neg terminal]
        refine iff_of_true (.of_same rfl rfl) ?_
        rintro ⟨⟨job', there, -, ends⟩, -⟩
        cases locked.symm.trans there
        exact terminal ends
    · rw [if_neg own]
      refine iff_of_true (.of_same rfl rfl) ?_
      rintro ⟨⟨job', there, same, -⟩, -⟩
      cases locked.symm.trans there
      exact own same

/-- The lease of this upload's job has expired. -/
def Expired (db : Db) (id : JobId) (command : JobCommand) : Prop :=
  ∃ job, lockExpiredJob db.jobs db.now id = some job ∧ job.command = command

theorem recoverStorageJob_preserved_iff {id : JobId} {generation : Nat}
    (found : db.media.get m = some row)
    (held : ∀ token, row.storageToken = some token → row.storageState = .pending) :
    Preserved db (committed db (recoverStorageJob db id (.uploadStorageAsset m generation))) m ↔
      ¬ (Expired db id (.uploadStorageAsset m generation) ∧ Recovers db m row) := by
  unfold recoverStorageJob
  cases locked : lockExpiredJob db.jobs db.now id with
  | none =>
    refine iff_of_true (.of_same rfl rfl) ?_
    rintro ⟨⟨job, there, -⟩, -⟩
    cases locked.symm.trans there
  | some job =>
    dsimp only
    rw [validateLockedCommand_upload]
    by_cases own : job.command = .uploadStorageAsset m generation
    · rw [if_pos own, own, bind_ok_eq]
      dsimp only
      rw [found]
      dsimp only
      have expired : Expired db id (.uploadStorageAsset m generation) := ⟨job, locked, own⟩
      rw [and_iff_right expired]
      by_cases young : freshReservation db.now row = true
      · rw [if_pos young]
        refine iff_of_true (.of_same rfl rfl) ?_
        have pending : row.storageState = .pending := by
          simp only [freshReservation, Bool.and_eq_true, beq_iff_eq] at young
          exact young.1.1
        unfold Recovers
        rw [pending]
        rintro ⟨-, old⟩
        rw [young] at old
        cases old
      · rw [if_neg young]
        exact recoverUpload_preserved_iff found held (Bool.not_eq_true _ ▸ young)
    · rw [if_neg own]
      refine iff_of_true (.of_same rfl rfl) ?_
      rintro ⟨⟨job', there, same⟩, -⟩
      cases locked.symm.trans there
      exact own same

end Transactions

section Steps
variable {w w' : World} {act : Action} {token m : Uuid} {generation : Nat} {row : Media}
  {attempt : Attempt}

/-- The step is one of an upload job or attempt of this generation. -/
def Carries (w : World) (m : Uuid) (generation : Nat) : Action → Prop
  | .heartbeat token _ | .call token _ | .check token _ | .stageFails token _ | .cancel token _
  | .dispatch token | .renew token _ | .answer token _ | .finish token _ _ | .crash token =>
    ∃ attempt, w.attempts.get token = some attempt ∧ attempt.mediaId = m ∧
      attempt.generation = generation
  | .claimJob _ _ key | .prune key _ => key = .uploadStorage m generation
  | .recover _ expected => expected = .uploadStorageAsset m generation
  | _ => False

/-- The calls of an attempt that change rows of any generation. -/
def Attempt.Disturbs (attempt : Attempt) (db : Db) (row : Media) : Prop :=
  match attempt.phase with
  | .stored => row.storageState = .ready ∧ Linked db attempt.mediaId completable
  | .failing error =>
    (attempt.failureStatus error = .failedTerminal ∧ row.storageState = .pending) ∨
      Linked db attempt.mediaId (failing (attempt.failureStatus error))
  | _ => False

/-- The steps that change the row, or its linked ingests, in any generation. -/
def Disturbs (w : World) (row : Media) : Action → Prop
  | .call token outcome => outcome.applied = true ∧
    ∃ attempt, w.attempts.get token = some attempt ∧ attempt.Disturbs w.db row
  | .finish token heartbeatLost outcome => outcome.applied = true ∧
    ∃ attempt result failure settlement, w.attempts.get token = some attempt ∧
      attempt.phase = .returned result ∧ runnerResult heartbeatLost result = .error failure ∧
      finishSettlement w.db.now failure = some settlement ∧
      EndsJob w.db attempt.lease attempt.command settlement ∧
      Reconciles w.db attempt.mediaId row
  | .recover id (.uploadStorageAsset m generation) =>
    Expired w.db id (.uploadStorageAsset m generation) ∧ Recovers w.db m row
  | _ => False

theorem conclude_state {ε α β : Type} (outcome : CallOutcome) (db : Db) (lost : ε)
    (result : Except ε (Db × α)) (next : Except ε α → β) :
    (outcome.conclude db lost result next).1 =
      if outcome.applied then committed db result else db := by
  cases outcome <;> rfl

/-- A stale attempt does not own the row any more. -/
theorem Guarded.disowned (inv : Guarded w) (found : w.attempts.get token = some attempt)
    (there : w.db.media.get attempt.mediaId = some row)
    (stale : row.storageGeneration ≠ attempt.generation) {ownerToken : Uuid}
    (owns : attempt.phase.owner = some ownerToken) :
    ownedUpload w.db attempt.mediaId ownerToken = none := by
  obtain ⟨reservation, known, -, -, current, -⟩ := inv.working token attempt _ found owns
  cases owned : ownedUpload w.db attempt.mediaId ownerToken with
  | none => rfl
  | some row' =>
    obtain ⟨there', held⟩ := ownedUpload_eq_some.mp owned
    cases there.symm.trans there'
    obtain ⟨-, same⟩ := inv.reserved.bound ownerToken reservation _ _ known
      (columnsOf_found there) held
    exact absurd (same.trans current) stale

/-- The transactions that name the owner of a row have no effect on the rows of another. -/
theorem disowned_effects {db : Db} {ownerToken : Uuid}
    (disowned : ownedUpload db m ownerToken = none) :
    (∀ attachment, committed db (completeStorageUpload db m ownerToken attachment) = db) ∧
      committed db (releaseStorageUpload db m ownerToken) = db ∧
      committed db (markOwnedUploadUnknown db m ownerToken) = db ∧
      committed db (renewStorageUpload db m ownerToken) = db := by
  refine ⟨fun attachment => ?_, ?_, ?_, ?_⟩
  · rcases committed_cases db (completeStorageUpload db m ownerToken attachment) with same | ⟨_, ok⟩
    · exact same
    · simp [completeStorageUpload, disowned, bind_ok, expect_ok] at ok
  · unfold releaseStorageUpload
    rw [disowned]
    rfl
  · unfold markOwnedUploadUnknown
    rw [disowned]
    rfl
  · unfold renewStorageUpload
    rw [disowned]
    rfl

theorem Attempt.failureStatus_cases (attempt : Attempt) (error : StorageUploadError) :
    attempt.failureStatus error = .failedRetryable ∨
      attempt.failureStatus error = .failedTerminal := by
  unfold Attempt.failureStatus
  split
  · exact Or.inr rfl
  · exact Or.inl rfl

theorem Guarded.call_preserved_iff (inv : Guarded w) (found : w.attempts.get token = some attempt)
    (there : w.db.media.get attempt.mediaId = some row)
    (stale : row.storageGeneration ≠ attempt.generation) {outcome : CallOutcome} {db : Db}
    {phase : Phase} (h : attempt.call w.db outcome = some (db, phase)) :
    Preserved w.db db attempt.mediaId ↔
      ¬ (outcome.applied = true ∧ attempt.Disturbs w.db row) := by
  have quiet : db = w.db → ¬ attempt.Disturbs w.db row → (Preserved w.db db attempt.mediaId ↔
      ¬ (outcome.applied = true ∧ attempt.Disturbs w.db row)) := by
    rintro rfl calm
    exact iff_of_true (.of_same rfl rfl) (fun both => calm both.2)
  have applies : ∀ {ε α : Type} {lost : ε} {result : Except ε (Db × α)}
      {next : Except ε α → Phase}, outcome.conclude w.db lost result next = (db, phase) →
      db = if outcome.applied then committed w.db result else w.db := by
    intro ε α lost result next same
    rw [← conclude_state outcome w.db lost result next, same]
  have still : ∀ {ε α : Type} {lost : ε} {result : Except ε (Db × α)} {next : Except ε α → Phase},
      outcome.conclude w.db lost result next = (db, phase) → committed w.db result = w.db →
      db = w.db := by
    intro ε α lost result next same kept
    rw [applies same, kept, ite_self]
  unfold Attempt.call at h
  cases waits : attempt.phase with
  | started | found row' =>
    rw [waits] at h
    cases h
    exact quiet rfl (by rw [Attempt.Disturbs, waits]; exact id)
  | reserving =>
    rw [waits] at h
    refine quiet (still (Option.some.inj h) ?_) (by rw [Attempt.Disturbs, waits]; exact id)
    rcases committed_cases w.db (reserveStorageUpload w.db attempt.mediaId attempt.generation) with
      same | ⟨answer, ok⟩
    · exact same
    · rcases reserveStorageUpload_ok ok with ⟨same, -⟩ | ⟨row', there', -, current, -⟩
      · exact same
      · cases there.symm.trans there'
        exact absurd current stale
  | completing ownerToken attachment =>
    have owns : attempt.phase.owner = some ownerToken := by rw [waits]; rfl
    have disowned := inv.disowned found there stale owns
    rw [waits] at h
    exact quiet (still (Option.some.inj h) ((disowned_effects disowned).1 attachment))
      (by rw [Attempt.Disturbs, waits]; exact id)
  | releasing ownerToken error ignored =>
    have owns : attempt.phase.owner = some ownerToken := by rw [waits]; rfl
    have disowned := inv.disowned found there stale owns
    rw [waits] at h
    exact quiet (still (Option.some.inj h) (disowned_effects disowned).2.1)
      (by rw [Attempt.Disturbs, waits]; exact id)
  | marking ownerToken error =>
    have owns : attempt.phase.owner = some ownerToken := by rw [waits]; rfl
    have disowned := inv.disowned found there stale owns
    rw [waits] at h
    exact quiet (still (Option.some.inj h) (disowned_effects disowned).2.2.1)
      (by rw [Attempt.Disturbs, waits]; exact id)
  | stored =>
    rw [waits] at h
    rw [applies (Option.some.inj h), Attempt.Disturbs, waits]
    cases outcome.applied with
    | false => exact iff_of_true (.of_same rfl rfl) (fun both => by cases both.1)
    | true =>
      rw [if_pos rfl, eq_self, true_and]
      exact completeStorageForMedia_preserved_iff there
  | failing error =>
    rw [waits] at h
    rw [applies (Option.some.inj h), Attempt.Disturbs, waits]
    cases outcome.applied with
    | false => exact iff_of_true (.of_same rfl rfl) (fun both => by cases both.1)
    | true =>
      obtain ⟨db', failed⟩ : ∃ db', Inbox.failStorageForMedia w.db attempt.mediaId
          (attempt.failureStatus error) "storage_upload" error.text = .ok (db', ()) := by
        simp only [Inbox.failStorageForMedia, bind_ok, require_ok, pure_ok]
        exact ⟨_, (), attempt.failureStatus_cases error, rfl⟩
      rw [if_pos rfl, failed, eq_self, true_and, not_or]
      exact failStorageForMedia_preserved_iff there failed
  | checking _ | reserved _ _ | uploading _ _ | returned _ =>
    rw [waits] at h
    cases h

theorem Guarded.cancel_same (inv : Guarded w) (found : w.attempts.get token = some attempt)
    (there : w.db.media.get attempt.mediaId = some row)
    (stale : row.storageGeneration ≠ attempt.generation) {outcome : CallOutcome}
    (h : Storage.cancel w token attempt outcome = some w') : w'.db = w.db := by
  unfold Storage.cancel at h
  cases waits : attempt.phase with
  | reserved ownerToken metadata | uploading ownerToken metadata =>
    rw [waits] at h
    cases h
    rfl
  | completing ownerToken attachment =>
    have owns : attempt.phase.owner = some ownerToken := by rw [waits]; rfl
    have kept := (disowned_effects (inv.disowned found there stale owns)).1 attachment
    rw [waits] at h
    cases h
    dsimp only [World.advance]
    rw [kept, ite_self]
  | started | found _ | checking _ | reserving | releasing _ _ _ | marking _ _ | stored | failing _
  | returned _ =>
    rw [waits] at h
    cases h

theorem Guarded.renew_same (inv : Guarded w) (found : w.attempts.get token = some attempt)
    (there : w.db.media.get attempt.mediaId = some row)
    (stale : row.storageGeneration ≠ attempt.generation) {outcome : CallOutcome} {db : Db}
    {phase : Phase} (h : attempt.renew w.db outcome = some (db, phase)) : db = w.db := by
  unfold Attempt.renew at h
  split at h
  · rename_i ownerToken metadata waits
    have owns : attempt.phase.owner = some ownerToken := by rw [waits]; rfl
    have kept := (disowned_effects (inv.disowned found there stale owns)).2.2.2
    have state := conclude_state outcome w.db .database
      (renewStorageUpload w.db attempt.mediaId ownerToken)
      (Attempt.afterRenewal ownerToken metadata)
    rw [Option.some.inj h, kept, ite_self] at state
    exact state
  · cases h

theorem finish_preserved_iff (found : w.attempts.get token = some attempt)
    (there : w.db.media.get attempt.mediaId = some row) {heartbeatLost : Bool}
    {outcome : CallOutcome} {db : Db} (h : attempt.finish heartbeatLost w.db = some db) :
    Preserved w.db (if outcome.applied then db else w.db) attempt.mediaId ↔
      ¬ Disturbs w row (.finish token heartbeatLost outcome) := by
  dsimp only [Disturbs]
  cases outcome.applied with
  | false => exact iff_of_true (.of_same rfl rfl) (fun both => by cases both.1)
  | true =>
    rw [if_pos rfl, eq_self, true_and]
    unfold Attempt.finish at h
    split at h
    · rename_i result waits
      split at h
      · rename_i done ran
        have calm : ¬ ∃ attempt' result' failure settlement,
            w.attempts.get token = some attempt' ∧ attempt'.phase = .returned result' ∧
            runnerResult heartbeatLost result' = .error failure ∧
            finishSettlement w.db.now failure = some settlement ∧
            EndsJob w.db attempt'.lease attempt'.command settlement ∧
            Reconciles w.db attempt'.mediaId row := by
          rintro ⟨attempt', result', failure, settlement, found', waits', ran', -⟩
          cases found.symm.trans found'
          cases waits.symm.trans waits'
          cases ran.symm.trans ran'
        split at h <;> cases h <;> exact iff_of_true (.of_same rfl rfl) calm
      · rename_i failure ran
        split at h
        · rename_i settlement settles
          cases h
          rw [Attempt.settle, Attempt.command, settleStorageJob_preserved_iff there]
          apply not_congr
          constructor
          · rintro ⟨ends, reconciles⟩
            exact ⟨attempt, result, failure, settlement, found, waits, ran, settles, ends,
              reconciles⟩
          · rintro ⟨attempt', result', failure', settlement', found', waits', ran', settles', rest⟩
            cases found.symm.trans found'
            cases waits.symm.trans waits'
            cases ran.symm.trans ran'
            cases settles.symm.trans settles'
            exact rest
        · rename_i settles
          cases h
          refine iff_of_true (.of_same rfl rfl) ?_
          rintro ⟨attempt', result', failure', settlement', found', waits', ran', settles', -⟩
          cases found.symm.trans found'
          cases waits.symm.trans waits'
          cases ran.symm.trans ran'
          cases settles.symm.trans settles'
    · cases h

/-- A stale step changes the media or its linked ingests on the four paths only. -/
theorem Guarded.preserved_iff (inv : Guarded w) (h : Storage.step w act = some w')
    (carries : Carries w m generation act) (there : w.db.media.get m = some row)
    (stale : row.storageGeneration ≠ generation) :
    Preserved w.db w'.db m ↔ ¬ Disturbs w row act := by
  have quiet : w'.db.media = w.db.media → w'.db.ingests = w.db.ingests → ¬ Disturbs w row act →
      (Preserved w.db w'.db m ↔ ¬ Disturbs w row act) :=
    fun media ingests calm => iff_of_true (.of_same media ingests) calm
  cases act with
  | claimJob worker leaseDuration key =>
    simp only [Storage.step, claimJob] at h
    split at h
    · split at h <;> cases h
      exact quiet rfl rfl id
    · cases h
  | heartbeat token leaseDuration =>
    simp only [Storage.step, Option.bind_eq_bind, Option.bind_eq_some_iff] at h
    obtain ⟨attempt, -, h⟩ := h
    split at h <;> cases h <;> exact quiet rfl rfl id
  | call token outcome =>
    obtain ⟨attempt, found, rfl, rfl⟩ := carries
    simp only [Storage.step, Option.bind_eq_bind, Option.bind_eq_some_iff, Option.some.injEq] at h
    obtain ⟨attempt', found', ⟨db, phase⟩, called, rfl⟩ := h
    cases found.symm.trans found'
    refine (inv.call_preserved_iff found there stale called).trans (not_congr ?_)
    constructor
    · rintro ⟨applied, disturbs⟩
      exact ⟨applied, attempt, found, disturbs⟩
    · rintro ⟨applied, attempt', found', disturbs⟩
      cases found.symm.trans found'
      exact ⟨applied, disturbs⟩
  | check token fault =>
    simp only [Storage.step, Option.bind_eq_bind, Option.bind_eq_some_iff, Option.some.injEq] at h
    obtain ⟨attempt, -, phase, -, rfl⟩ := h
    exact quiet rfl rfl id
  | stageFails token error =>
    simp only [Storage.step, Option.bind_eq_bind, Option.bind_eq_some_iff] at h
    obtain ⟨attempt, -, h⟩ := h
    have same := stageFails_db h
    exact quiet (by rw [same]) (by rw [same]) id
  | cancel token outcome =>
    obtain ⟨attempt, found, rfl, rfl⟩ := carries
    simp only [Storage.step, Option.bind_eq_bind, Option.bind_eq_some_iff] at h
    obtain ⟨attempt', found', h⟩ := h
    cases found.symm.trans found'
    have same := inv.cancel_same found there stale h
    exact quiet (by rw [same]) (by rw [same]) id
  | dispatch token =>
    simp only [Storage.step, Option.bind_eq_bind, Option.bind_eq_some_iff] at h
    obtain ⟨attempt, -, h⟩ := h
    have same := dispatch_db h
    exact quiet (by rw [same]) (by rw [same]) id
  | renew token outcome =>
    obtain ⟨attempt, found, rfl, rfl⟩ := carries
    simp only [Storage.step, Option.bind_eq_bind, Option.bind_eq_some_iff, Option.some.injEq] at h
    obtain ⟨attempt', found', ⟨db, phase⟩, renewed, rfl⟩ := h
    cases found.symm.trans found'
    have same := inv.renew_same found there stale renewed
    subst same
    exact quiet rfl rfl id
  | answer token response =>
    simp only [Storage.step, Option.bind_eq_bind, Option.bind_eq_some_iff] at h
    obtain ⟨attempt, -, h⟩ := h
    have same := answer_db h
    exact quiet (by rw [same]) (by rw [same]) id
  | finish token heartbeatLost outcome =>
    obtain ⟨attempt, found, rfl, rfl⟩ := carries
    simp only [Storage.step, Option.bind_eq_bind, Option.bind_eq_some_iff, Option.some.injEq] at h
    obtain ⟨attempt', found', db, finished, rfl⟩ := h
    cases found.symm.trans found'
    exact finish_preserved_iff found there finished
  | crash token =>
    simp only [Storage.step, Option.bind_eq_bind, Option.bind_eq_some_iff, Option.some.injEq] at h
    obtain ⟨attempt, -, rfl⟩ := h
    exact quiet rfl rfl id
  | recover id expected =>
    cases carries
    cases h
    exact recoverStorageJob_preserved_iff there
      (fun token held => (inv.reserved.held m _ token (columnsOf_found there) held).1)
  | prune key cutoff =>
    simp only [Storage.step, prune, Option.bind_eq_bind, Option.bind_eq_some_iff,
      Option.some.injEq] at h
    obtain ⟨db, pruned, rfl⟩ := h
    split at pruned
    · split at pruned <;> cases pruned
      exact quiet rfl rfl id
    · cases pruned
  | markUnknown | reset | attach | tick | createMedia | editMedia | enqueueUpload | setIngest
  | putForeignJob | deleteForeignJob | drawUuid => exact absurd carries id

end Steps

section Claims
variable {w : World}

/-- No stale step of this action takes one of the four paths. -/
def Fenced (w : World) (act : Action) : Prop :=
  ∀ m generation row, Carries w m generation act → w.db.media.get m = some row →
    row.storageGeneration ≠ generation → ¬ Disturbs w row act

/-- Until the ingests are its last concern, an attempt looks at the generation or at its token. -/
def Phase.beforeIngests : Phase → Bool
  | .stored | .failing _ => false
  | _ => true

theorem fenced_call {token : Uuid} {outcome : CallOutcome} {attempt : Attempt}
    (found : w.attempts.get token = some attempt) (early : attempt.phase.beforeIngests = true) :
    Fenced w (.call token outcome) := by
  rintro m generation row - - - ⟨-, attempt', found', disturbs⟩
  cases found.symm.trans found'
  unfold Attempt.Disturbs at disturbs
  cases waits : attempt.phase <;> rw [waits] at early disturbs
  all_goals
    first
    | exact disturbs
    | cases early

/-- The steps of an upload job or attempt of another generation leave the upload
    columns of the media and the states of its linked ingests alone, except for
    the end of the ingests after an upload or after its failure, a settlement
    that ends the job, and a recovery of its lease. A run without these keeps
    the fence throughout. -/
theorem generation_fence {acts : List Action} (run : Run step Unrestricted initial acts w) :
    (∀ act w' m generation row, step w act = some w' → Carries w m generation act →
      w.db.media.get m = some row → row.storageGeneration ≠ generation →
      (Preserved w.db w'.db m ↔ ¬ Disturbs w row act)) ∧
    (Run step Fenced initial acts w →
      ∀ before act after u u' m generation row, acts = before ++ act :: after →
        Run step Unrestricted initial before u → step u act = some u' →
        Carries u m generation act → u.db.media.get m = some row →
        row.storageGeneration ≠ generation → Preserved u.db u'.db m) := by
  constructor
  · intro act w' m generation row h carries found stale
    exact (guarded_run run).preserved_iff h carries found stale
  · rintro fencedRun before act after u u' m generation row rfl reached h carries found stale
    obtain ⟨u₂, run', rest⟩ := run_split fencedRun
    -- The steps before this one lead to one state.
    cases (exec_of_run run').symm.trans (exec_of_run reached)
    cases rest with
    | cons fenced _ _ =>
      exact ((guarded_run reached).preserved_iff h carries found stale).mpr
        (fenced m generation row carries found stale)

/-- The operator resets the media while an attempt reads its file. -/
def sampleReset : List Action :=
  [.createMedia sampleWaiting, .enqueueUpload 0 0, .claimJob "worker" minute (.uploadStorage 0 0),
    .call 2 .answered, .call 2 .answered, .markUnknown 0 false, .reset 0]

/-- With its file in order, the attempt asks for the reservation of its generation. -/
theorem stale_request_is_fenced :
    ∃ u u' row, exec step initial (sampleReset ++ [.check 2 none]) = some u ∧
      step u (.call 2 .answered) = some u' ∧ u.db.media.get 0 = some row ∧
      row.storageGeneration = 1 ∧ Preserved u.db u'.db 0 ∧
      ¬ Disturbs u row (.call 2 .answered) := by
  have still : ∀ (w : World) (act : Action), (∀ row, ¬ Disturbs w row act) → Fenced w act :=
    fun w act calm _ _ row _ _ _ => calm row
  have run : ∃ u u',
      Run step Fenced initial (sampleReset ++ .check 2 none :: [.call 2 .answered]) u' ∧
      exec step initial (sampleReset ++ [.check 2 none]) = some u ∧
      step u (.call 2 .answered) = some u' := by
    refine ⟨_, _, ?_, rfl, rfl⟩
    refine .cons (still _ _ fun _ => id) rfl (.cons (still _ _ fun _ => id) rfl
      (.cons (still _ _ fun _ => id) rfl ?_))
    refine .cons (fenced_call rfl rfl) rfl (.cons (fenced_call rfl rfl) rfl ?_)
    refine .cons (still _ _ fun _ => id) rfl (.cons (still _ _ fun _ => id) rfl
      (.cons (still _ _ fun _ => id) rfl ?_))
    exact .cons (fenced_call rfl rfl) rfl (.nil _)
  obtain ⟨u, u', run, reached, h⟩ := run
  obtain ⟨row, attempt, found, current, working, media, generation⟩ : ∃ row attempt,
      u.db.media.get 0 = some row ∧ row.storageGeneration = 1 ∧ u.attempts.get 2 = some attempt ∧
      attempt.mediaId = 0 ∧ attempt.generation = 0 := by
    cases reached
    exact ⟨_, _, rfl, rfl, rfl, rfl, rfl⟩
  have whole : Run step Unrestricted initial
      (sampleReset ++ .check 2 none :: [.call 2 .answered]) u' := run_of_exec (exec_of_run run)
  have carries : Carries u 0 0 (.call 2 .answered) := ⟨attempt, working, media, generation⟩
  have stale : row.storageGeneration ≠ 0 := by
    rw [current]
    decide
  have preserved : Preserved u.db u'.db 0 :=
    (generation_fence whole).2 run (sampleReset ++ [.check 2 none]) (.call 2 .answered) [] u u' 0 0
      row rfl (run_of_exec reached) h carries found stale
  exact ⟨u, u', row, reached, h, found, current, preserved,
    ((generation_fence (run_of_exec reached)).1 _ u' 0 0 row h carries found stale).mp preserved⟩

/-- Without it, the attempt ends the upload of the next generation. -/
theorem stale_failure_ends_upload :
    ∃ u u' row row', exec step initial
        (sampleReset ++ [.check 2 (some (.localFileUnavailable "canonical.mp4"))]) = some u ∧
      step u (.call 2 .answered) = some u' ∧ Carries u 0 0 (.call 2 .answered) ∧
      u.db.media.get 0 = some row ∧ row.storageGeneration = 1 ∧ row.storageState = .pending ∧
      u'.db.media.get 0 = some row' ∧ row'.storageState = .missing ∧
      ¬ Preserved u.db u'.db 0 := by
  refine ⟨_, _, _, _, rfl, rfl, ⟨_, rfl, rfl, rfl⟩, rfl, rfl, rfl, rfl, rfl, ?_⟩
  intro preserved
  obtain ⟨row', there, columns⟩ := preserved.media _ rfl
  cases there
  cases congrArg UploadColumns.storageState columns

end Claims
end Sooqa.Storage
