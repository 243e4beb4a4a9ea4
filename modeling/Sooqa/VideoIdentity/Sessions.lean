import Sooqa.Captions.Repository
import Sooqa.Inbox.System
import Sooqa.VideoIdentity.Decision

/-!
Identity sessions of video ingests beside the other transactions that write
media rows. A session takes the advisory lock on a connection of its own, reads
its candidates, aligns them outside any transaction and completes the identity;
the lock goes with its release or with the connection. The insertion of a new
media is a statement of its own behind the look for the same bytes.
-/
namespace Sooqa.VideoIdentity
open Foundation Queue Media

section Sessions

/-- The input persistence takes for an extracted fingerprint. -/
def fingerprintInput (fingerprint : VideoSequenceFingerprint) : Option VideoFingerprintInput :=
  match fingerprint.encode with
  | .ok data =>
    (VideoFingerprintInput.tryNew fingerprint.version.asStr data
      (deriveSearchTokens fingerprint)).toOption
  | .error _ => none

structure Extraction where
  fingerprint : VideoSequenceFingerprint
  input : VideoFingerprintInput
  made : fingerprintInput fingerprint = some input
  deriving DecidableEq

inductive Phase where
  /-- For the advisory lock. -/
  | waiting
  | locked
  /-- The transaction of `begin_video_identity`, before it reads candidates. -/
  | searching (request : Ingest)
  | prepared (request : Ingest) (exactMediaId : Option Uuid)
      (candidates : List VideoFingerprintCandidate)
  | decided (decision : VideoIdentityDecision)
  /-- The transaction of `complete_video_identity`, before it inserts a media. -/
  | inserting (request : Ingest)
  | closing
  deriving DecidableEq

/-- The session has the advisory lock. -/
def Phase.holdsLock : Phase → Bool
  | .waiting => false
  | _ => true

/-- Between the read of the candidates and the commit. -/
def Phase.deciding : Phase → Bool
  | .prepared _ _ _ | .decided _ | .inserting _ => true
  | _ => false

/-- A fingerprint attempt from its first wait for the lock. There is nothing
    extracted where the bytes were found stored before. -/
structure Session where
  ingestId : Uuid
  lease : JobLease
  media : Library.MediaIngest
  extraction : Option Extraction
  phase : Phase
  deriving DecidableEq

namespace Session

def fingerprint (s : Session) : Option Library.VideoFingerprintInput :=
  s.extraction.map (·.input.summary)

/-- `begin_video_identity` up to the candidates. A forced ingest has none. -/
def begun (s : Session) (db : Db) : Phase :=
  match Inbox.beginVideoIdentity db s.ingestId s.lease s.media s.fingerprint with
  | .ok (_, .ready request, exactMediaId) =>
    if exactMediaId.isSome || request.forceSave then .prepared request exactMediaId []
    else .searching request
  | _ => .closing

def searched (s : Session) (media : List FingerprintRow) : Option Phase :=
  match s.phase, s.extraction with
  | .searching request, some extraction =>
    some (.prepared request none (fetchVideoFingerprintCandidates media extraction.input.version
      extraction.input.searchTokens))
  | _, _ => none

/-- The decision of `compute_fingerprint`. It gives the session up where it has
    no fingerprint to align, or an alignment that fails. -/
def aligned (s : Session) : Option Phase :=
  match s.phase with
  | .prepared request exactMediaId candidates =>
    if exactMediaId.isSome || request.forceSave then some (.decided .noMatch)
    else match s.extraction with
      | none => some .closing
      | some extraction =>
        match alignVideoIdentity extraction.fingerprint .default candidates with
        | .ok decision => some (.decided decision)
        | .error _ => some .closing
  | _ => none

/-- The end of `complete_video_identity_while_locked`. -/
def finish (s : Session) (identified : Db) (request : Ingest)
    (outcome : Library.VideoIdentityOutcome) : Except Inbox.Error (Db × Ingest) := do
  let (advancedDb, advanced) ← Inbox.applyIdentity identified s.ingestId request outcome
  Inbox.finishStage advancedDb s.lease advanced

/-- `complete_video_identity_while_locked` up to the insertion of a media. -/
def checked (s : Session) (db : Db) : Option (Db × Phase) :=
  match s.phase with
  | .decided decision =>
    match Inbox.loadRequest db s.ingestId with
    | .error _ => some (db, .closing)
    | .ok request =>
      if request.status ≠ .fingerprinting || !Inbox.isCurrent db s.lease then some (db, .closing)
      else
        match Library.persistVideoIdentity db s.media s.fingerprint decision.summary
            request.forceSave with
        | .error _ => some (db, .closing)
        | .ok (_, .newMedia _) => some (db, .inserting request)
        | .ok (identified, outcome) =>
          some (committed db (s.finish identified request outcome), .closing)
  | _ => none

end Session

end Sessions

section Transactions

/-- The other transactions that write media rows. -/
inductive MediaCall where
  | storage (call : Inbox.StorageCall)
  | reserveUpload (mediaId : Uuid) (generation : Nat)
  | renewUpload (mediaId ownerToken : Uuid)
  | releaseUpload (mediaId ownerToken : Uuid)
  | acceptDuplicate (id mediaId : Uuid)
  | beginCleanup (lease : JobLease) (ingestId workspaceId : Uuid)
  | updateMedia (id : Uuid) (update : Captions.MediaUpdate)
  | retryCaptionSync (id : Uuid)
  | beginCaptionSync (id : Uuid) (generation : Nat) (claimToken : Uuid)
  | completeCaptionSync (id : Uuid) (generation : Nat) (claimToken : Uuid)
      (succeeded retryable : Bool) (errorMessage : Option String)
  | settleCaption (lease : JobLease) (expected : JobCommand) (settlement : JobSettlement)
  | recoverCaption (id : JobId) (expected : JobCommand)

def MediaCall.run (db : Db) : MediaCall → Db
  | .storage call => call.run db
  | .reserveUpload mediaId generation =>
    committed db (Library.reserveStorageUpload db mediaId generation)
  | .renewUpload mediaId ownerToken =>
    committed db (Library.renewStorageUpload db mediaId ownerToken)
  | .releaseUpload mediaId ownerToken =>
    committed db (Library.releaseStorageUpload db mediaId ownerToken)
  | .acceptDuplicate id mediaId => committed db (Inbox.acceptDuplicate db id mediaId)
  | .beginCleanup lease ingestId workspaceId =>
    committed db (Inbox.beginWorkspaceCleanup db lease ingestId workspaceId)
  | .updateMedia id update => committed db (Captions.updateMedia db id update)
  | .retryCaptionSync id => committed db (Captions.retryCaptionSync db id)
  | .beginCaptionSync id generation claimToken =>
    committed db (Captions.beginCaptionSync db id generation claimToken)
  | .completeCaptionSync id generation claimToken succeeded retryable errorMessage =>
    committed db
      (Captions.completeCaptionSync db id generation claimToken succeeded retryable errorMessage)
  | .settleCaption lease expected settlement =>
    committed db (Library.settleCaptionJob db lease expected settlement)
  | .recoverCaption id expected => committed db (Library.recoverCaptionJob db id expected)

/-- `media_kind_for_normalization`. -/
def mediaKindForNormalization : SourceMediaKind → Option MediaKind
  | .video => some .video
  | .image => some .image
  | .audio => some .audio
  | .animation => some .animation
  | .unknown => none

end Transactions

section Worlds

/-- The store with the fingerprint columns of its media, and the sessions. -/
structure World where
  db : Db
  fingerprints : Table Uuid VideoFingerprintInput
  sessions : Table Uuid Session

def initial : World := ⟨Db.empty, ∅, ∅⟩

inductive Action where
  | openSession (token ingestId : Uuid) (lease : JobLease) (media : Library.MediaIngest)
      (extraction : Option Extraction)
  | acquire (token : Uuid)
  | begin (token : Uuid)
  | search (token : Uuid)
  | align (token : Uuid)
  | abort (token : Uuid)
  | check (token : Uuid)
  | insert (token : Uuid)
  | release (token : Uuid)
  | disconnect (token : Uuid)
  | finalize (mediaKind : SourceMediaKind) (media : Library.MediaIngest)
  | media (call : MediaCall)
  | elsewhere (rest : Db)

namespace World

/-- What the query for candidates reads. -/
def rows (w : World) : List FingerprintRow :=
  (Table.rows w.db.media).map (fun row => {
    id := row.1
    kind := row.2.kind
    storageState := row.2.storageState
    fingerprintVersion := (w.fingerprints.get row.1).map (·.version)
    fingerprintData := (w.fingerprints.get row.1).map (·.data)
    fingerprintSearchTokens := (w.fingerprints.get row.1).map (·.searchTokens) })

def lockFree (w : World) : Bool :=
  (Table.rows w.sessions).all (fun row => !row.2.phase.holdsLock)

def advance (w : World) (token : Uuid) (s : Session) (db : Db) (phase : Phase) : World :=
  { w with db := db, sessions := w.sessions.set token { s with phase := phase } }

/-- The fingerprint columns of a media that a session inserts. -/
def describe (w : World) (id : Uuid) : Option Extraction → Table Uuid VideoFingerprintInput
  | some extraction => w.fingerprints.set id extraction.input
  | none => w.fingerprints

/-- `INSERT … ON CONFLICT DO NOTHING` and the rest of the transaction. -/
def insert (w : World) (s : Session) (request : Ingest) : World :=
  match Library.findMediaBySha w.db s.media.sha256 with
  | some (id, _) => { w with db := committed w.db (s.finish w.db request (.exactDuplicate id)) }
  | none =>
    match s.finish (Library.insertMedia w.db s.media) request (.newMedia w.db.fresh) with
    | .ok (db, _) => { w with db := db, fingerprints := w.describe w.db.fresh s.extraction }
    | .error _ => w

end World

def step (w : World) : Action → Option World
  | .openSession token ingestId lease media extraction =>
    if (w.sessions.get token).isNone then
      some { w with
        sessions := w.sessions.set token ⟨ingestId, lease, media, extraction, .waiting⟩ }
    else none
  | .acquire token => do
    let s ← w.sessions.get token
    if s.phase = .waiting ∧ w.lockFree = true then some (w.advance token s w.db .locked) else none
  | .begin token => do
    let s ← w.sessions.get token
    if s.phase = .locked then some (w.advance token s w.db (s.begun w.db)) else none
  | .search token => do
    let s ← w.sessions.get token
    let phase ← s.searched w.rows
    some (w.advance token s w.db phase)
  | .align token => do
    let s ← w.sessions.get token
    let phase ← s.aligned
    some (w.advance token s w.db phase)
  -- An error outside the database, such as a panic of the alignment.
  | .abort token => do
    let s ← w.sessions.get token
    if s.phase.holdsLock then some (w.advance token s w.db .closing) else none
  | .check token => do
    let s ← w.sessions.get token
    let (db, phase) ← s.checked w.db
    some (w.advance token s db phase)
  | .insert token => do
    let s ← w.sessions.get token
    match s.phase with
    | .inserting request =>
      let after := w.insert s request
      some (after.advance token s after.db .closing)
    | _ => none
  | .release token => do
    let s ← w.sessions.get token
    if s.phase = .closing then some { w with sessions := w.sessions.remove token } else none
  -- With the connection go its transaction and its lock.
  | .disconnect token => some { w with sessions := w.sessions.remove token }
  -- `finalize_ingest` refuses a video.
  | .finalize mediaKind media =>
    if mediaKind ≠ .video ∧ mediaKindForNormalization mediaKind = some media.kind then
      some { w with db := committed w.db (Library.resolveMedia w.db media) }
    else none
  | .media call => some { w with db := call.run w.db }
  -- Everything else may change as it likes; it writes no media row.
  | .elsewhere rest =>
    some { w with
      db := { rest with media := w.db.media, fresh := w.db.fresh + rest.fresh } }

end Worlds
end Sooqa.VideoIdentity
