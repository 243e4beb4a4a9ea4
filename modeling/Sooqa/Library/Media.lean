import Mathlib.Algebra.Group.Nat.Defs
import Sooqa.Enqueue
import Sooqa.Foundation.Outcome

/-!
Media rows as the identity transactions create and merge them. An ingest
arrives here validated: its digest has the right length, its tags are
normalized and its preview, which the model leaves out, is within bounds.
-/
namespace Sooqa.Library
open Foundation Queue

inductive Error where
  | database
  | invalidFingerprint
  | invalidVideoIdentityKind
  | duplicateEvidenceTooLarge (max : Nat)
  | duplicateEvidenceEmpty
  | duplicateEvidenceTooManyMatches (max : Nat)
  | duplicateEvidenceMissingStrongMatch
  | duplicateEvidenceAlgorithmVersionMismatch (expected actual : String)
  | duplicateEvidenceFingerprintVersionMismatch (expected actual : String)
  | duplicateEvidenceInvalidBasisPoints
  | duplicateEvidenceInvalidSharedTokenCount
  | resourceMissing (id : Uuid)
  | missingFingerprint
  | captionSyncGenerationOverflow (id : Uuid)
  | storageUploadActive (id : Uuid)
  | workspaceReclaimed (id : Uuid)
  | storageGenerationOverflow (id : Uuid)
  | storageUploadNotUnknown (id : Uuid)
  | storageUploadLeaseLost (id : Uuid)
  | storageReceiptMissing (id : Uuid)
  | invalidStorageMessageId (messageId : Int)
  | emptyStorageField (field : String)
  | captionSyncUnavailable (id : Uuid)
  | optimisticConflict (id : Uuid)
  deriving DecidableEq, Repr

def maxVideoDuplicateMatches : Nat := 3
def maxVideoDuplicateEvidenceBytes : Nat := 16 * 1024

/-- The largest value of an `integer` column. -/
def maxInteger : Nat := 2 ^ 31 - 1

structure MediaIngest where
  kind : MediaKind
  sha256 : String
  description : Option String
  tags : List String
  sourceUrl : Option String
  localWorkPath : Option (Uuid × String)
  deriving DecidableEq, Repr

structure VideoFingerprintInput where
  version : String
  valid : Bool
  deriving DecidableEq, Repr

/-- One candidate of the evidence: its six basis-point scores and token count
    stand beside the media it names. -/
structure VideoDuplicateMatch where
  mediaId : Uuid
  fingerprintVersion : String
  strongDuplicate : Bool
  basisPoints : List Int
  sharedTokenCount : Int
  deriving DecidableEq, Repr

structure VideoDuplicateEvidence where
  algorithmVersion : String
  candidates : List VideoDuplicateMatch
  encodedBytes : Nat
  deriving DecidableEq, Repr

inductive VideoIdentityDecision where
  | noMatch
  | duplicatePending (evidence : VideoDuplicateEvidence)
  deriving DecidableEq, Repr

inductive VideoIdentityOutcome where
  | exactDuplicate (mediaId : Uuid)
  | newMedia (mediaId : Uuid)
  | duplicatePending (evidence : VideoDuplicateEvidence)
  deriving DecidableEq, Repr

def setMedia (db : Db) (id : Uuid) (media : Media) : Db :=
  { db with media := db.media.set id media }

def findMediaBySha (db : Db) (sha256 : String) : Option (Uuid × Media) :=
  (Table.rows db.media).find? (fun row => row.2.canonicalSha256 == some sha256)

def mergeTags (existing incoming : List String) : List String :=
  incoming.foldl (fun tags tag => if tag ∈ tags then tags else tags ++ [tag]) existing

def hasStorageMessage (row : Media) : Bool :=
  row.storageState == .ready && row.telegramStorageChatId.isSome &&
    row.telegramStorageMessageId.isSome

/-- The four caption columns a metadata change leaves: a stored message is
    edited again under the next generation. -/
def nextCaptionSyncValues (id : Uuid) (row : Media) (changed : Bool) : Except Error Media :=
  if !changed then .ok row
  else if !hasStorageMessage row then
    .ok { row with
      captionSyncState := .notRequired, captionSyncError := none, captionSyncClaimToken := none }
  else if row.captionSyncGeneration < maxInteger then
    .ok { row with
      captionSyncGeneration := row.captionSyncGeneration + 1
      captionSyncState := .pending, captionSyncError := none, captionSyncClaimToken := none }
  else .error (.captionSyncGenerationOverflow id)

def enqueueCaptionSyncJob (db : Db) (mediaId : Uuid) (generation : Nat) : Db :=
  db.enqueue (.syncCaption mediaId generation none) (.syncStorageCaption mediaId generation)
    (by simp [JobKey.owns]) db.now 3

/-- Enqueue a caption edit when the change left one pending. -/
def enqueueCaptionSyncIfPending (db : Db) (mediaId : Uuid) (row : Media) (changed : Bool) : Db :=
  if changed && row.captionSyncState == .pending then
    enqueueCaptionSyncJob db mediaId row.captionSyncGeneration
  else db

/-- The update of an existing row by an ingest of the same bytes. -/
def mergeMedia (db : Db) (id : Uuid) (row : Media) (ingest : MediaIngest) : Except Error Db := do
  let tags := mergeTags row.tags ingest.tags
  let descriptionChanged := ingest.description.isSome && ingest.description != row.description
  let captionChanged := descriptionChanged || tags != row.tags
  let captioned ← nextCaptionSyncValues id row captionChanged
  let merged := { captioned with
    tags := tags
    description := if ingest.description.isSome then ingest.description else row.description
    sourceUrl := if row.sourceUrl.isSome then row.sourceUrl else ingest.sourceUrl
    updatedAt := db.now }
  pure (enqueueCaptionSyncIfPending (setMedia db id merged) id merged captionChanged)

/-- A media row with the table's defaults, waiting for its first upload. -/
def newMedia (now : Time) (ingest : MediaIngest) : Media where
  kind := ingest.kind
  storageState := .pending
  canonicalSha256 := some ingest.sha256
  description := ingest.description
  tags := ingest.tags
  sourceUrl := ingest.sourceUrl
  localWorkPath := ingest.localWorkPath
  telegramStorageChatId := none
  telegramStorageMessageId := none
  telegramFileId := none
  telegramFileUniqueId := none
  storageGeneration := 0
  storageToken := none
  storageStartedAt := none
  storedAt := none
  captionSyncGeneration := 0
  captionSyncState := .notRequired
  captionSyncError := none
  captionSyncClaimToken := none
  createdAt := now
  updatedAt := now

def insertMedia (db : Db) (ingest : MediaIngest) : Db :=
  { setMedia db db.fresh (newMedia db.now ingest) with fresh := db.fresh + 1 }

def resolveMedia (db : Db) (ingest : MediaIngest) : Except Error (Db × Uuid) :=
  match findMediaBySha db ingest.sha256 with
  | none => .ok (insertMedia db ingest, db.fresh)
  | some (id, row) => do
    let merged ← mergeMedia db id row ingest
    pure (merged, id)

def validateVideoFingerprint (fingerprint : VideoFingerprintInput) : Except Error Unit :=
  require (fingerprint.valid = true) .invalidFingerprint

def validateDuplicateMatch (version : String) (item : VideoDuplicateMatch) : Except Error Unit := do
  require (item.fingerprintVersion = version)
    (.duplicateEvidenceFingerprintVersionMismatch version item.fingerprintVersion)
  require (∀ value ∈ item.basisPoints, 0 ≤ value ∧ value ≤ 10000)
    .duplicateEvidenceInvalidBasisPoints
  require (0 ≤ item.sharedTokenCount) .duplicateEvidenceInvalidSharedTokenCount

def validateDuplicateEvidence (evidence : VideoDuplicateEvidence) (version : String) :
    Except Error Unit := do
  require (evidence.candidates ≠ []) .duplicateEvidenceEmpty
  require (evidence.candidates.length ≤ maxVideoDuplicateMatches)
    (.duplicateEvidenceTooManyMatches maxVideoDuplicateMatches)
  require (evidence.algorithmVersion = version)
    (.duplicateEvidenceAlgorithmVersionMismatch version evidence.algorithmVersion)
  require (evidence.candidates.any (·.strongDuplicate) = true) .duplicateEvidenceMissingStrongMatch
  evidence.candidates.forM (validateDuplicateMatch version)

structure VideoIdentityPreparation where
  exactMediaId : Option Uuid
  deriving DecidableEq, Repr

def prepareVideoIdentity (db : Db) (ingest : MediaIngest)
    (fingerprint : Option VideoFingerprintInput) : Except Error VideoIdentityPreparation := do
  require (ingest.kind = .video) .invalidVideoIdentityKind
  match findMediaBySha db ingest.sha256 with
  | some (id, _) => pure ⟨some id⟩
  | none =>
    let fingerprint ← expect fingerprint .missingFingerprint
    validateVideoFingerprint fingerprint
    pure ⟨none⟩

/-- The decision of a new video: pending on its evidence unless the ingest is
    forced, else a new row. -/
def persistNewVideo (db : Db) (ingest : MediaIngest) (version : String)
    (decision : VideoIdentityDecision) (forceSave : Bool) :
    Except Error (Db × VideoIdentityOutcome) :=
  match decision with
  | .noMatch => .ok (insertMedia db ingest, .newMedia db.fresh)
  | .duplicatePending evidence => do
    validateDuplicateEvidence evidence version
    if forceSave then pure (insertMedia db ingest, .newMedia db.fresh)
    else
      require (evidence.encodedBytes ≤ maxVideoDuplicateEvidenceBytes)
        (.duplicateEvidenceTooLarge maxVideoDuplicateEvidenceBytes)
      pure (db, .duplicatePending evidence)

def persistVideoIdentity (db : Db) (ingest : MediaIngest)
    (fingerprint : Option VideoFingerprintInput) (decision : VideoIdentityDecision)
    (forceSave : Bool) : Except Error (Db × VideoIdentityOutcome) := do
  require (ingest.kind = .video) .invalidVideoIdentityKind
  match findMediaBySha db ingest.sha256 with
  | some (id, row) =>
    let merged ← mergeMedia db id row ingest
    pure (merged, .exactDuplicate id)
  | none =>
    let fingerprint ← expect fingerprint .missingFingerprint
    validateVideoFingerprint fingerprint
    persistNewVideo db ingest fingerprint.version decision forceSave

end Sooqa.Library
