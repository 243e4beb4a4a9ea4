import Sooqa.Foundation.Locks
import Sooqa.Publisher.Transactions

/-!
The publication target, statement by statement. A settings call holds the
advisory lock over its check and its write; an intent share-locks the enabled
channels of its snapshot, each read again once its lock is granted, and then
locks the chosen one. A statement sees what is committed when it runs, a
locking read what is committed when its lock is granted, and a write is seen
at the commit.
-/
namespace Sooqa.Publisher.Targets
open Foundation Queue

section Phases

structure Intent where
  mediaId : Uuid
  intent : PublicationIntent
  requestKey : String
  deriving DecidableEq, Repr

/-- Where a transaction stands between two of its statements. -/
inductive Phase where
  | createBegun (channel : NewChannel)
  | createLocked (channel : NewChannel)
  | createAlone (channel : NewChannel)
  | updateBegun (id : Uuid) (update : ChannelUpdate)
  | updateLocked (id : Uuid) (update : ChannelUpdate)
  | updateRead (id : Uuid) (update : ChannelUpdate) (current : Channel)
  | updateAlone (id : Uuid) (row : Channel)
  | created (id : Uuid) (row : Channel)
  | updated (id : Uuid) (row : Channel)
  | intentBegun (request : Intent)
  | intentLocked (request : Intent)
  | intentNew (request : Intent)
  | selecting (request : Intent) (waiting kept : List Uuid)
  | chosen (request : Intent) (channelId : Uuid)
  | targeted (request : Intent) (channelId : Uuid) (channel : Channel)
  | inserted (request : Intent) (id : Uuid) (post : Post) (job : Option Job)
  deriving DecidableEq, Repr

inductive TargetError where
  | settings (error : ChannelError)
  | publication (error : Error)
  deriving DecidableEq, Repr

/-- What a statement comes to, once it has the lock it needs. -/
inductive Progress where
  | next (phase : Phase)
  | rejected (error : TargetError)
  | replayed
  | committed (db : Db)

def lockExclusive (resource : Resource) : Lock Resource := ⟨resource, .exclusive⟩
def lockShared (resource : Resource) : Lock Resource := ⟨resource, .shared⟩

namespace Phase

/-- What a transaction holds until it ends. -/
def locks : Phase → List (Lock Resource)
  | .createBegun _ | .updateBegun _ _ | .intentBegun _ => []
  | .createLocked _ | .createAlone _ | .created _ _ | .updateLocked _ _ =>
    [lockExclusive .configuration]
  | .updateRead id _ _ | .updateAlone id _ | .updated id _ =>
    [lockExclusive .configuration, lockExclusive (.channel id)]
  | .intentLocked request => [lockExclusive (.request request.requestKey)]
  | .intentNew request => [lockExclusive (.request request.requestKey)]
  | .selecting request _ kept =>
    [lockExclusive (.request request.requestKey), lockExclusive (.media request.mediaId)] ++
      kept.map (fun id => lockShared (.channel id))
  | .chosen request channelId =>
    [lockExclusive (.request request.requestKey), lockExclusive (.media request.mediaId),
      lockShared (.channel channelId)]
  | .targeted request channelId _ =>
    [lockExclusive (.request request.requestKey), lockExclusive (.media request.mediaId),
      lockExclusive (.channel channelId)]
  | .inserted request _ post _ =>
    [lockExclusive (.request request.requestKey), lockExclusive (.media request.mediaId),
      lockExclusive (.channel post.channelId)]

/-- The lock the next statement waits for. -/
def needs : Phase → Option (Lock Resource)
  | .createBegun _ | .updateBegun _ _ => some (lockExclusive .configuration)
  | .updateLocked id _ => some (lockExclusive (.channel id))
  | .intentBegun request => some (lockExclusive (.request request.requestKey))
  | .intentNew request => some (lockExclusive (.media request.mediaId))
  | .selecting _ (id :: _) _ => some (lockShared (.channel id))
  | .chosen _ channelId => some (lockExclusive (.channel channelId))
  | _ => none

end Phase

/-- `SELECT id FROM channels WHERE is_enabled ORDER BY id`, as a snapshot sees it. -/
def enabledChannels (db : Db) : List Uuid :=
  (((Table.rows db.channels).filter (fun row => row.2.isEnabled)).map (·.1)).insertionSort (· ≤ ·)

/-- Checks of `update_channel` on the row it has locked, before its `EXISTS`. -/
def updatedRow (isTimeZone : String → Bool) (now : Time) (id : Uuid) (update : ChannelUpdate)
    (current : Channel) : Except ChannelError Channel := do
  require (∀ expected ∈ update.expectedUpdatedAt, expected = current.updatedAt)
    (.channelOptimisticConflict id)
  let row := updatedChannel now current update
  validateSome validateChannelName (update.name.map trim)
  validateChannel isTimeZone row
  pure row

/-- The next statement of a transaction. The last candidates of a snapshot are
    left unread once two are locked, as the query has a limit of two. -/
def advance (calendar : Calendar) (isTimeZone : String → Bool) (db : Db) : Phase → Progress
  | .createBegun channel => .next (.createLocked channel)
  | .createLocked channel =>
    if otherEnabled db none then .rejected (.settings .channelEnablementAmbiguous)
    else .next (.createAlone channel)
  | .createAlone channel =>
    if (db.channels.get db.fresh).isSome || chatTaken db db.fresh channel.telegramChatId then
      .rejected (.settings .database)
    else .next (.created db.fresh (newChannelRow db.now channel))
  | .updateBegun id update => .next (.updateLocked id update)
  | .updateLocked id update =>
    match db.channels.get id with
    | none => .rejected (.settings (.channelMissing id))
    | some current => .next (.updateRead id update current)
  | .updateRead id update current =>
    match updatedRow isTimeZone db.now id update current with
    | .error error => .rejected (.settings error)
    | .ok row =>
      if row.isEnabled && otherEnabled db (some id) then
        .rejected (.settings .channelEnablementAmbiguous)
      else .next (.updateAlone id row)
  | .updateAlone id row =>
    if chatTaken db id row.telegramChatId then .rejected (.settings .database)
    else .next (.updated id row)
  | .created id row | .updated id row => .committed (setChannel db id row)
  | .intentBegun request => .next (.intentLocked request)
  | .intentLocked request =>
    match findPostByRequestKey db request.requestKey with
    | none => .next (.intentNew request)
    | some (_, existing) =>
      if existing.requestHash = some (Digest.intent request.mediaId request.intent) then .replayed
      else .rejected (.publication (.requestKeyConflict request.requestKey))
  | .intentNew request =>
    match ensureMediaReady db request.mediaId with
    | .error error => .rejected (.publication error)
    | .ok _ => .next (.selecting request (enabledChannels db) [])
  | .selecting request (id :: waiting) kept =>
    -- The locked row is looked at again: it may have been disabled meanwhile.
    let kept := if (db.channels.get id).any (·.isEnabled) then kept ++ [id] else kept
    .next (.selecting request (if kept.length < 2 then waiting else []) kept)
  | .selecting request [] kept =>
    match ensurePublicationChannel kept with
    | .error error => .rejected (.publication error)
    | .ok channelId => .next (.chosen request channelId)
  | .chosen request channelId =>
    match lockChannel db channelId with
    | .error error => .rejected (.publication error)
    | .ok channel => .next (.targeted request channelId channel)
  | .targeted request channelId channel =>
    match insertIntendedPost calendar db request.requestKey
      (Digest.intent request.mediaId request.intent) none request.mediaId channelId channel
      request.intent with
    | .error error => .rejected (.publication error)
    | .ok (after, created) =>
      .next (.inserted request created.id created.post (after.jobs.get (.publish created.id)))
  | .inserted _ id post job =>
    .committed { db with
      posts := db.posts.set id post
      jobs := match job with
        | some job => db.jobs.put job
        | none => db.jobs }

end Phases

section System
variable (calendar : Calendar) (isTimeZone : String → Bool)

inductive Call where
  | createChannel (channel : NewChannel)
  | updateChannel (id : Uuid) (update : ChannelUpdate)
  | createIntent (mediaId : Uuid) (intent : PublicationIntent) (requestKey : String)

structure World where
  db : Db
  sessions : Table Uuid Phase

inductive Action where
  | begin (session : Uuid) (call : Call)
  | advance (session : Uuid)
  | abort (session : Uuid)
  | elsewhere (db : Db)

/-- What a call checks before its transaction. -/
def begun (now : Time) : Call → Except TargetError Phase
  | .createChannel channel =>
    match validateChannelName channel.name, validateChannel isTimeZone (newChannelRow now channel) with
    | .ok _, .ok _ => .ok (.createBegun channel)
    | .error error, _ | _, .error error => .error (.settings error)
  | .updateChannel id update =>
    if update.isEmpty then .error (.settings .emptyChannelUpdate) else .ok (.updateBegun id update)
  | .createIntent mediaId intent requestKey =>
    match normalizeRequestKey requestKey with
    | .error error => .error (.publication error)
    | .ok key => .ok (.intentBegun ⟨mediaId, intent, key⟩)

namespace World

/-- Nobody else holds a lock against this one. -/
def grants (w : World) (session : Uuid) (lock : Lock Resource) : Bool :=
  (Table.rows w.sessions).all (fun row => row.1 == session || !lock.blocked row.2.locks)

def advance (w : World) (session : Uuid) : Option World :=
  match w.sessions.get session with
  | none => none
  | some phase =>
    if phase.needs.all (w.grants session) then
      match Targets.advance calendar isTimeZone w.db phase with
      | .next phase =>
        some ⟨{ w.db with fresh := w.db.fresh + 1 }, w.sessions.set session phase⟩
      | .rejected _ | .replayed => some { w with sessions := w.sessions.remove session }
      | .committed db => some ⟨db, w.sessions.remove session⟩
    else none

/-- A step. Other transactions write everything but the channels. -/
def step (w : World) : Action → Option World
  | .begin session call =>
    if (w.sessions.get session).isSome then none
    else match begun isTimeZone w.db.now call with
      | .error _ => some w
      | .ok phase => some { w with sessions := w.sessions.set session phase }
  | .advance session => w.advance calendar isTimeZone session
  | .abort session => some { w with sessions := w.sessions.remove session }
  | .elsewhere db => some { w with db := { db with channels := w.db.channels } }

end World
end System

end Sooqa.Publisher.Targets
