import Sooqa.Publisher.Repository

/-!
Channel settings. A channel is created or enabled only when no other one is
enabled; both transactions hold one advisory lock over their check and their
write. Names of channels are checked and not stored: nothing else reads them.
Whether a text names a time zone is a parameter.
-/
namespace Sooqa.Publisher
open Foundation Queue

inductive ChannelValidationError where
  | emptyName | nameTooLong
  | invalidTelegramChatId (chatId : Int)
  | emptyTimeZone | invalidTimeZone | invalidWindow | invalidInterval | invalidParseMode
  deriving DecidableEq, Repr

inductive ChannelError where
  | validation (error : ChannelValidationError)
  | emptyChannelUpdate
  | channelMissing (id : Uuid)
  | channelOptimisticConflict (id : Uuid)
  | channelEnablementAmbiguous
  | database
  deriving DecidableEq, Repr

structure NewChannel where
  name : String
  telegramChatId : Int
  timeZone : String
  windowStart : Nat
  windowEnd : Nat
  intervalMinutes : Int
  defaultParseMode : Option String
  defaultDisableNotification : Bool
  deriving DecidableEq, Repr

structure ChannelUpdate where
  name : Option String
  telegramChatId : Option Int
  isEnabled : Option Bool
  timeZone : Option String
  windowStart : Option Nat
  windowEnd : Option Nat
  intervalMinutes : Option Int
  defaultParseMode : Option (Option String)
  defaultDisableNotification : Option Bool
  expectedUpdatedAt : Option Time
  deriving DecidableEq, Repr

def maxChannelNameLength : Nat := 128

section Validate
variable (isTimeZone : String → Bool)

def validateChannelName (name : String) : Except ChannelError Unit :=
  if (trim name).toList.isEmpty then .error (.validation .emptyName)
  else if maxChannelNameLength < name.toList.length then .error (.validation .nameTooLong)
  else .ok ()

/-- `NewChannel::validate` after the name, on the row it describes. -/
def validateChannel (channel : Channel) : Except ChannelError Unit :=
  if 0 ≤ channel.telegramChatId then
    .error (.validation (.invalidTelegramChatId channel.telegramChatId))
  else if (trim channel.timeZone).toList.isEmpty then .error (.validation .emptyTimeZone)
  else if !isTimeZone channel.timeZone then .error (.validation .invalidTimeZone)
  else if channel.windowEnd ≤ channel.windowStart then .error (.validation .invalidWindow)
  else if channel.intervalMinutes ≤ 0 then .error (.validation .invalidInterval)
  else if channel.defaultParseMode.any (fun mode => !(mode == "HTML" || mode == "MarkdownV2")) then
    .error (.validation .invalidParseMode)
  else .ok ()

end Validate

/-- `EXISTS(SELECT 1 FROM channels WHERE is_enabled AND id <> except)`. -/
def otherEnabled (db : Db) (except : Option Uuid) : Bool :=
  (Table.rows db.channels).any (fun row => row.2.isEnabled && some row.1 != except)

/-- The unique index on the chat. -/
def chatTaken (db : Db) (id : Uuid) (chatId : Int) : Bool :=
  (Table.rows db.channels).any (fun row => row.2.telegramChatId == chatId && row.1 != id)

def setChannel (db : Db) (id : Uuid) (channel : Channel) : Db :=
  { db with channels := db.channels.set id channel }

def newChannelRow (now : Time) (channel : NewChannel) : Channel where
  telegramChatId := channel.telegramChatId
  isEnabled := true
  timeZone := channel.timeZone
  windowStart := channel.windowStart
  windowEnd := channel.windowEnd
  intervalMinutes := channel.intervalMinutes
  defaultParseMode := channel.defaultParseMode
  defaultDisableNotification := channel.defaultDisableNotification
  updatedAt := now

def createChannelUnambiguous (isTimeZone : String → Bool) (db : Db) (channel : NewChannel) :
    Except ChannelError (Db × Uuid) := do
  let row := newChannelRow db.now channel
  validateChannelName channel.name
  validateChannel isTimeZone row
  require (otherEnabled db none = false) .channelEnablementAmbiguous
  require (chatTaken db db.fresh channel.telegramChatId = false) .database
  pure ({ setChannel db db.fresh row with fresh := db.fresh + 1 }, db.fresh)

def ChannelUpdate.isEmpty (update : ChannelUpdate) : Bool :=
  update.name.isNone && update.telegramChatId.isNone && update.isEnabled.isNone &&
    update.timeZone.isNone && update.windowStart.isNone && update.windowEnd.isNone &&
    update.intervalMinutes.isNone && update.defaultParseMode.isNone &&
    update.defaultDisableNotification.isNone

def updatedChannel (now : Time) (current : Channel) (update : ChannelUpdate) : Channel where
  telegramChatId := update.telegramChatId.getD current.telegramChatId
  isEnabled := update.isEnabled.getD current.isEnabled
  timeZone := (update.timeZone.map trim).getD current.timeZone
  windowStart := update.windowStart.getD current.windowStart
  windowEnd := update.windowEnd.getD current.windowEnd
  intervalMinutes := update.intervalMinutes.getD current.intervalMinutes
  defaultParseMode := update.defaultParseMode.getD current.defaultParseMode
  defaultDisableNotification :=
    update.defaultDisableNotification.getD current.defaultDisableNotification
  updatedAt := now

def updateChannel (isTimeZone : String → Bool) (db : Db) (id : Uuid) (update : ChannelUpdate) :
    Except ChannelError (Db × Channel) := do
  require (update.isEmpty = false) .emptyChannelUpdate
  let current ← expect (db.channels.get id) (.channelMissing id)
  require (∀ expected ∈ update.expectedUpdatedAt, expected = current.updatedAt)
    (.channelOptimisticConflict id)
  let row := updatedChannel db.now current update
  -- A stored name passed its check when it was written.
  validateSome validateChannelName (update.name.map trim)
  validateChannel isTimeZone row
  require (row.isEnabled = true → otherEnabled db (some id) = false) .channelEnablementAmbiguous
  require (chatTaken db id row.telegramChatId = false) .database
  pure (setChannel db id row, row)

section Effects
variable {isTimeZone : String → Bool} {db db' : Db}

/-- At most one channel is enabled. -/
def SingleTarget (db : Db) : Prop :=
  ∀ one other channel channel', db.channels.get one = some channel →
    db.channels.get other = some channel' → channel.isEnabled = true →
    channel'.isEnabled = true → one = other

theorem otherEnabled_false {except : Option Uuid} (h : otherEnabled db except = false) {id : Uuid}
    {channel : Channel} (found : db.channels.get id = some channel)
    (enabled : channel.isEnabled = true) : some id = except := by
  by_contra other
  have member := (Table.mem_rows_iff db.channels id channel).mpr found
  have refused := List.any_eq_false.mp h (id, channel) member
  simp [enabled, other] at refused

/-- What a settings transaction writes: one channel, which is the only enabled
    one if it is enabled. -/
structure ChannelWrite (db db' : Db) (id : Uuid) : Prop where
  others : ∀ other, other ≠ id → db'.channels.get other = db.channels.get other
  alone : ∀ channel, db'.channels.get id = some channel → channel.isEnabled = true →
    ∀ other row, other ≠ id → db.channels.get other = some row → row.isEnabled = false
  posts : db'.posts = db.posts
  fresh : db.fresh ≤ db'.fresh

theorem createChannelUnambiguous_ok {channel : NewChannel} {id : Uuid}
    (h : createChannelUnambiguous isTimeZone db channel = .ok (db', id)) :
    ChannelWrite db db' db.fresh := by
  simp only [createChannelUnambiguous, bind_ok, require_ok, pure_ok, Prod.mk.injEq] at h
  obtain ⟨-, -, -, -, -, alone, -, -, rfl, -⟩ := h
  refine ⟨fun other ne => Table.get_set_ne _ _ ne, ?_, rfl, Nat.le_succ _⟩
  intro written _ _ other row _ found
  cases enabled : row.isEnabled with
  | false => rfl
  | true => cases otherEnabled_false alone found enabled

theorem updateChannel_ok {id : Uuid} {update : ChannelUpdate} {row : Channel}
    (h : updateChannel isTimeZone db id update = .ok (db', row)) :
    ChannelWrite db db' id ∧ ∃ channel, db.channels.get id = some channel := by
  simp only [updateChannel, bind_ok, require_ok, expect_ok, pure_ok, Prod.mk.injEq] at h
  obtain ⟨-, -, current, found, -, -, -, -, -, -, -, alone, -, -, rfl, rfl⟩ := h
  refine ⟨⟨fun other ne => Table.get_set_ne _ _ ne, ?_, rfl, le_rfl⟩, current, found⟩
  intro written here enabled other row ne found
  obtain rfl := Option.some.inj ((Table.get_set_self _ _ _).symm.trans here)
  cases still : row.isEnabled with
  | false => rfl
  | true => exact absurd (Option.some.inj (otherEnabled_false (alone enabled) found still)) ne

end Effects

end Sooqa.Publisher
