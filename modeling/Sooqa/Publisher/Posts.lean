import Sooqa.Publisher.Repository

/-!
Operations of the API on an existing post: editing, the three ways to
schedule it, the repeat-review decision and cancellation. Every one of them
locks channel and post, compares the caller's revision and rewrites the
publish job in the transaction that writes the post.
-/
namespace Sooqa.Publisher
open Foundation Queue

def validatePostUpdate (update : PostUpdate) : Except Error Unit := do
  require (0 ≤ update.expectedRevision) (.validation .invalidExpectedRevision)
  validateSome validateCaption update.caption.join
  validateSome validateParseMode update.parseMode.join

/-- The job side of an edit: a draft has no job, a queued post's job gets the
    new revision, a failed post's job keeps its state. -/
def editPublishJob (db : Db) (id : Uuid) (state : PostState) (row : Post) : Except Error Db :=
  match state with
  | .queued => updatePublishJob db id row.scheduledAt row.revision
  | .failed => updateFailedPublishJob db id row.scheduledAt row.revision
  | _ => .ok db

def updatePost (db : Db) (id : Uuid) (update : PostUpdate) : Except Error (Db × Post) := do
  require (update.caption.isSome ∨ update.parseMode.isSome ∨ update.disableNotification.isSome)
    .emptyUpdate
  validatePostUpdate update
  let (_, current) ← lockChannelAndPost db id
  require current.state.isQueueMutable (.postNotEditable id current.state)
  checkExpectedRevision id current update.expectedRevision
  require (∀ expected ∈ update.expectedUpdatedAt, expected = current.updatedAt)
    (.optimisticConflict id)
  let revision ← bumpRevision current.revision
  let row := { current with
    caption := update.caption.getD current.caption
    parseMode := update.parseMode.getD current.parseMode
    disableNotification := update.disableNotification.getD current.disableNotification
    revision := revision
    updatedAt := db.now }
  let db ← editPublishJob (setPost db id row) id current.state row
  pure (db, row)

/-- Write a post that becomes queued together with its job: a draft gets a new
    job, a queued or failed post has its job rewritten. -/
def commitQueued (db : Db) (id : Uuid) (current row : Post) (runAt : Time) :
    Except Error (Db × Post) := do
  let written := setPost db id row
  let db ← if current.state = .draft then insertPublishJob written id runAt row.revision
    else updatePublishJob written id runAt row.revision
  pure (db, row)

/-- The row of a scheduling request. -/
def scheduledPost (now : Time) (current : Post) (key : String) (hash : Digest)
    (scheduledAt : Time) (cadenceSlotAt : Option Time) (revision : Nat) : Post :=
  { current with
    scheduleRequestKey := some key
    scheduleRequestHash := some hash
    state := .queued
    scheduledAt := scheduledAt
    cadenceSlotAt := cadenceSlotAt
    revision := revision
    errorClass := none
    errorMessage := none
    updatedAt := now }

/-- The checks all three scheduling paths share, after the replay check. -/
def ensureSchedulable (db : Db) (id : Uuid) (channel : Channel) (current : Post)
    (expectedRevision : Int) : Except Error Unit := do
  require current.state.isQueueMutable (.postCannotBeScheduled id current.state)
  checkExpectedRevision id current expectedRevision
  ensureRepeatDecisionResolved id current
  ensureChannelEnabled current.channelId channel
  ensureMediaReady db current.mediaId

/-- A request whose key is the last one stored: the same request is answered
    from the row, a different one is refused. -/
def replayed (db : Db) (current : Post) (stored : Option Digest) (hash : Digest) (key : String) :
    Except Error (Db × Post) := do
  require (stored = some hash) (.requestKeyConflict key)
  pure (db, current)

def schedulePost (calendar : Calendar) (db : Db) (schedule : PostSchedule) :
    Except Error (Db × Post) := do
  let (channel, current) ← lockChannelAndPost db schedule.postId
  let hash := Digest.schedule schedule.requestedAt
  if current.scheduleRequestKey = some schedule.requestKey then
    replayed db current current.scheduleRequestHash hash schedule.requestKey
  else
    ensureSchedulable db schedule.postId channel current schedule.expectedRevision
    let slot ← nextFreeSlot calendar db current.channelId channel schedule.postId
      schedule.requestedAt
    let revision ← nextRevision current.revision
    let row := scheduledPost db.now current schedule.requestKey hash slot (some slot) revision
    commitQueued db schedule.postId current row slot

def exactOperationKey (requestKey : String) : String := "exact:" ++ requestKey

def schedulePostExact (db : Db) (schedule : PostSchedule) : Except Error (Db × Post) := do
  let operationKey := exactOperationKey schedule.requestKey
  let hash := Digest.exactSchedule schedule.requestedAt
  let (channel, current) ← lockChannelAndPost db schedule.postId
  if current.scheduleRequestKey = some operationKey then
    replayed db current current.scheduleRequestHash hash operationKey
  else
    require (db.now < schedule.requestedAt) .exactScheduleInPast
    ensureSchedulable db schedule.postId channel current schedule.expectedRevision
    let revision ← nextRevision current.revision
    let row := { scheduledPost db.now current operationKey hash schedule.requestedAt none revision
      with
      requestedAction := .queue
      requestedPublishAt := some schedule.requestedAt
      repeatEvidence := none }
    commitQueued db schedule.postId current row schedule.requestedAt

def publishNowOperationKey (requestKey : String) : String := "publish_now:" ++ requestKey

def publishNow (db : Db) (id : Uuid) (requestKey : String) (expectedRevision : Int) :
    Except Error (Db × Post) := do
  let requestKey ← normalizeRequestKey requestKey
  let operationKey := publishNowOperationKey requestKey
  let hash := Digest.publishNow requestKey
  let (channel, current) ← lockChannelAndPost db id
  if current.scheduleRequestKey = some operationKey then
    replayed db current current.scheduleRequestHash hash operationKey
  else
    ensureSchedulable db id channel current expectedRevision
    let revision ← nextRevision current.revision
    let row := scheduledPost db.now current operationKey hash db.now none revision
    commitQueued db id current row db.now

def decisionAllowed (action : PublicationAction) (requestedPublishAt : Option Time) :
    PublicationDecision → Bool
  | .postNowAnyway => action == .postNow
  | .queueAnyway | .cancel => true
  | .keepExactTime => action == .queue && requestedPublishAt.isSome

/-- The instant and the cadence slot an affirmative decision queues the post at. -/
def decidedInstant (calendar : Calendar) (db : Db) (id : Uuid) (channel : Channel)
    (current : Post) : PublicationDecision → Except Error (Time × Option Time)
  | .queueAnyway => do
    let slot ← nextFreeSlot calendar db current.channelId channel id db.now
    pure (slot, some slot)
  | .keepExactTime => do
    match current.requestedPublishAt with
    | none => throw (.exactTimeMissing id)
    | some requestedAt =>
      require (db.now < requestedAt) .exactScheduleInPast
      pure (requestedAt, none)
  | _ => pure (db.now, none)

def decidedPost (now : Time) (current : Post) (key : String) (hash : Digest) (state : PostState)
    (revision : Nat) : Post :=
  { current with
    state := state
    repeatEvidence := none
    decisionRequestKey := some key
    decisionRequestHash := some hash
    cadenceSlotAt := none
    revision := revision
    updatedAt := now }

def decidePost (calendar : Calendar) (db : Db) (id : Uuid) (decision : PublicationDecision)
    (requestKey : String) (expectedRevision : Int) : Except Error (Db × Post) := do
  let requestKey ← normalizeRequestKey requestKey
  let hash := Digest.decision decision expectedRevision
  let (channel, current) ← lockChannelAndPost db id
  if current.decisionRequestKey = some requestKey then
    replayed db current current.decisionRequestHash hash requestKey
  else
    require (current.state = .draft) (.postDecisionNotAllowed id current.state)
    require current.repeatEvidence.isSome (.postDecisionNotAllowed id current.state)
    checkExpectedRevision id current expectedRevision
    require (decisionAllowed current.requestedAction current.requestedPublishAt decision)
      (.invalidPublicationDecision id decision)
    let revision ← nextRevision current.revision
    if decision = .cancel then
      let row := decidedPost db.now current requestKey hash .cancelled revision
      pure (setPost db id row, row)
    else
      ensureChannelEnabled current.channelId channel
      ensureMediaReady db current.mediaId
      let (scheduledAt, slot) ← decidedInstant calendar db id channel current decision
      let row := { decidedPost db.now current requestKey hash .queued revision with
        scheduledAt := scheduledAt
        cadenceSlotAt := slot
        errorClass := none
        errorMessage := none }
      let db ← insertPublishJob (setPost db id row) id scheduledAt row.revision
      pure (db, row)

/-- The job side of a cancellation; a draft has no job. -/
def withdrawPublishJob (db : Db) (id : Uuid) (state : PostState) : Except Error Db :=
  if state = .draft then .ok db else cancelPublishJob db id

def cancelPost (db : Db) (id : Uuid) (expectedRevision : Int) : Except Error (Db × Post) := do
  let (_, current) ← lockChannelAndPost db id
  require current.state.isQueueMutable (.postCannotBeScheduled id current.state)
  checkExpectedRevision id current expectedRevision
  let db ← withdrawPublishJob db id current.state
  let revision ← nextRevision current.revision
  let row := { current with
    state := .cancelled, cadenceSlotAt := none, revision := revision, updatedAt := db.now }
  pure (setPost db id row, row)

end Sooqa.Publisher
