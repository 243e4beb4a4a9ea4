import Mathlib.Algebra.Group.Nat.Defs
import Sooqa.Inbox.Repository

/-!
What the bot does with one update: classify the message of an administrator,
file an ingest request for it and answer in the chat. The Telegram API, the
ingest service and the clock are asked at most once each in one attempt, so an
attempt is a function of their answers.
-/
namespace Sooqa.Telegram
open Foundation

section Types

def startResponse : String := "sooqa is ready. You are authorized."
def helpResponse : String :=
  "Available commands:\n/start — show authorization\n/help — show this help\n" ++
    "/add <url> — queue a URL\n/status — show service status"
def statusResponse : String := "sooqa is online."
def unauthorizedResponse : String := "This bot is restricted to its configured administrator."
def addUsageResponse : String := "Send one http(s) URL after /add, or send a bare URL."

structure TelegramFile where
  id : String
  uniqueId : String
  size : Nat
  deriving DecidableEq, Repr

/-- A video, an animation or a document of a message. -/
structure Attachment where
  file : TelegramFile
  mimeType : Option String
  fileName : Option String
  deriving DecidableEq, Repr

/-- A message as Telegram delivers it; the sender's id is a 64-bit word. -/
structure Message where
  id : Int
  replyToMessage : Option Int
  sender : Option Nat
  chatId : Int
  isPrivate : Bool
  text : Option String
  caption : Option String
  photo : Option (List TelegramFile)
  video : Option Attachment
  animation : Option Attachment
  document : Option Attachment
  deriving DecidableEq, Repr

inductive UpdateKind where
  | message (message : Message)
  | callbackQuery (callbackId : String) (sender : Nat)
  | other (sender : Option Nat)
  deriving DecidableEq, Repr

structure Update where
  id : Nat
  kind : UpdateKind
  deriving DecidableEq, Repr

inductive TelegramMedia where
  | supported (mediaKind : MediaKind) (fileId fileUniqueId : String) (fileSize : Option Nat)
    (mimeType fileName : Option String)
  | probeableDocument (fileId fileUniqueId : String) (fileSize : Option Nat)
    (mimeType fileName : Option String)
  | unsupportedDocument (fileName mimeType : Option String)
  deriving DecidableEq, Repr

structure IncomingMessage where
  updateId : Int
  messageId : Int
  replyToMessageId : Option Int
  userId : Option Int
  chatId : Int
  isPrivate : Bool
  text : Option String
  caption : Option String
  media : Option TelegramMedia
  deriving DecidableEq, Repr

inductive Command where
  | start | help | add | status
  deriving DecidableEq, Repr

inductive HandleOutcome where
  | nonMessageIgnored | nonPrivateIgnored | rateLimited | mediaRejected | unauthorized
  | unrecognizedIgnored | callbackHandled
  | responded (command : Command)
  deriving DecidableEq, Repr

structure UrlIngestCommand where
  sourceUrl : String
  idempotencyKey : String
  submittedByUserId : Int
  deriving DecidableEq, Repr

structure MediaIngestCommand where
  updateId : Int
  messageId : Int
  chatId : Int
  submittedByUserId : Int
  mediaKind : Option MediaKind
  fileId : String
  fileUniqueId : String
  fileSize : Option Nat
  mimeType : Option String
  fileName : Option String
  caption : Option String
  idempotencyKey : String
  deriving DecidableEq, Repr

inductive IngestCommand where
  | url (command : UrlIngestCommand)
  | media (command : MediaIngestCommand)
  deriving DecidableEq, Repr

/-- The request id stands here as it is shown. -/
structure IngestAccepted where
  requestId : String
  status : String
  deriving DecidableEq, Repr

/-- Why a call of the Telegram API failed. -/
inductive RequestError where
  | invalidToken
  | retryAfter (seconds : Nat)
  | other (text : String)
  deriving DecidableEq, Repr

inductive TelegramError where
  | api (source : RequestError)
  | ingest (source : String)
  deriving DecidableEq, Repr

def isTerminalBotError : TelegramError → Bool
  | .api .invalidToken => true
  | _ => false

end Types

section Parsing

def stripPrefix (value pattern : String) : Option String :=
  if pattern.toList.isPrefixOf value.toList then
    some (String.ofList (value.toList.drop pattern.toList.length))
  else none

def startsWith (value pattern : String) : Bool := pattern.toList.isPrefixOf value.toList

def splitAt (value : String) (separator : Char) : List String :=
  (value.toList.splitOn separator).map String.ofList

def splitWhitespace (value : String) : List String :=
  ((value.toList.splitOnP Publisher.isWhiteSpace).filter (fun word => !word.isEmpty)).map
    String.ofList

/-- The last component of a path, unless it is the root or a parent directory. -/
def pathFileName (path : String) : Option String :=
  match ((splitAt path '/').filter (fun part => part ≠ "" ∧ part ≠ ".")).getLast? with
  | some part => if part = ".." then none else some part
  | none => none

/-- What follows the last dot of the file name, unless only that dot starts it. -/
def pathExtension (path : String) : Option String :=
  match pathFileName path with
  | none => none
  | some name =>
    let reversed := name.toList.reverse
    match reversed.dropWhile (· ≠ '.') with
    | [] => none
    | _ :: before =>
      if before.isEmpty then none else some (String.ofList (reversed.takeWhile (· ≠ '.')).reverse)

inductive DocumentClassification where
  | supported (kind : MediaKind)
  | probeable
  | unsupported
  deriving DecidableEq, Repr

def classifyDocumentFilename (fileName : Option String) : DocumentClassification :=
  match (fileName.bind pathExtension).map Inbox.asciiLower with
  | none => .probeable
  | some extension =>
    if extension = "gif" then .supported .animation
    else if extension ∈ ["jpg", "jpeg", "png"] then .supported .image
    else if extension ∈ ["mp4", "webm", "mkv", "mov", "avi"] then .supported .video
    else if extension ∈ ["mp3", "m4a", "wav", "flac", "ogg"] then .supported .audio
    else if extension ∈ ["avif", "webp", "zip", "rar", "7z", "pdf", "txt", "doc", "docx", "xls",
      "xlsx", "ppt", "pptx"] then .unsupported
    else .probeable

def classifyDocument (mimeType fileName : Option String) : DocumentClassification :=
  match mimeType with
  | none => classifyDocumentFilename fileName
  | some mimeType =>
    let mimeType := Inbox.asciiLower (((splitAt mimeType ';').head?.map Publisher.trim).getD "")
    if startsWith mimeType "video/" then .supported .video
    else if mimeType = "image/gif" then .supported .animation
    else if mimeType = "image/jpeg" ∨ mimeType = "image/png" then .supported .image
    else if startsWith mimeType "image/" then .unsupported
    else if startsWith mimeType "audio/" then .supported .audio
    else if mimeType ∈ ["application/pdf", "application/zip", "application/x-7z-compressed",
      "application/x-rar-compressed", "text/plain"] then .unsupported
    else classifyDocumentFilename fileName

def messageMedia (message : Message) : Option TelegramMedia :=
  match message.photo.bind List.getLast? with
  | some photo =>
    some (.supported .image photo.id photo.uniqueId (some photo.size) (some "image/jpeg") none)
  | none =>
  match message.video with
  | some video => some (.supported .video video.file.id video.file.uniqueId (some video.file.size)
      video.mimeType video.fileName)
  | none =>
  match message.animation with
  | some animation => some (.supported .animation animation.file.id animation.file.uniqueId
      (some animation.file.size) animation.mimeType animation.fileName)
  | none =>
  match message.document with
  | none => none
  | some document =>
    match classifyDocument document.mimeType document.fileName with
    | .supported kind => some (.supported kind document.file.id document.file.uniqueId
        (some document.file.size) document.mimeType document.fileName)
    | .probeable => some (.probeableDocument document.file.id document.file.uniqueId
        (some document.file.size) document.mimeType document.fileName)
    | .unsupported => some (.unsupportedDocument document.fileName document.mimeType)

/-- What the URL parser says of a string it accepts. -/
structure Url where
  scheme : String
  host : Option String
  username : String
  password : Option String

variable (parseUrl : String → Option Url)

def isSafeHttpUrl (value : String) : Bool :=
  match parseUrl value with
  | none => false
  | some url => (url.scheme = "http" ∨ url.scheme = "https") && url.host.isSome &&
      url.username.toList.isEmpty && url.password.isNone

def isBracket (c : Char) : Bool := c ∈ "<>[](){}".toList

def trimBrackets (value : String) : String :=
  String.ofList ((value.toList.dropWhile isBracket).reverse.dropWhile isBracket).reverse

def parseHttpUrl (token : String) : Option String :=
  if isSafeHttpUrl parseUrl token then some token
  else
    let unwrapped := trimBrackets token
    if unwrapped ≠ token ∧ isSafeHttpUrl parseUrl unwrapped then some unwrapped else none

def parseSingleUrl (text : String) : Option String :=
  let urlAmong (tokens : List String) : Option String :=
    match tokens.filterMap (parseHttpUrl parseUrl) with
    | [url] => some url
    | _ => none
  match splitWhitespace text with
  | [] => urlAmong []
  | first :: tokens =>
    match stripPrefix first "/" with
    | some command =>
      if (splitAt command '@').head?.map Inbox.asciiLower = some "add" then urlAmong tokens
      else none
    | none => urlAmong (first :: tokens)

def parseCommand (text : String) : Option Command := do
  let first ← (splitWhitespace text).head?
  let command ← stripPrefix first "/"
  let command := ((splitAt command '@').head?).getD command
  match Inbox.asciiLower command with
  | "start" => some .start
  | "help" => some .help
  | "add" => some .add
  | "status" => some .status
  | _ => none

inductive MessageAction where
  | command (command : Command)
  | url (sourceUrl : String)
  | ignore
  deriving DecidableEq, Repr

def parseMessageAction (text : String) : MessageAction :=
  match parseCommand text with
  | some .add => ((parseSingleUrl parseUrl text).map MessageAction.url).getD (.command .add)
  | some command => .command command
  | none =>
    if startsWith (String.ofList (text.toList.dropWhile Publisher.isWhiteSpace)) "/" then .ignore
    else ((parseSingleUrl parseUrl text).map MessageAction.url).getD .ignore

end Parsing

section Handling

/-- One second; instants are readings of the clock in milliseconds. -/
def responseRateLimit : Nat := 1000

structure RateLimitKey where
  userId : Option Int
  chatId : Int
  deriving DecidableEq, Repr

/-- When the last response under each key was allowed. -/
abbrev Limiter := RateLimitKey → Option Nat

/-- What the outside world answers in one attempt: the ingest service, the
    clock, and the Telegram API. -/
structure Answers where
  ingest : Except String IngestAccepted
  now : Nat
  sendText : Except RequestError Unit
  answerCallbackQuery : Except RequestError Unit

inductive Effect where
  | ingest (command : IngestCommand)
  | sendText (chatId : Int) (text : String)
  | answerCallbackQuery (callbackId : String)
  deriving DecidableEq, Repr

structure Config where
  adminUserIds : List Int
  sourceDownloadMaxBytes : Nat
  /-- Whether an ingest service is configured. -/
  ingestService : Bool
  parseUrl : String → Option Url

structure Handled (α : Type) where
  result : Except TelegramError α
  limiter : Limiter
  effects : List Effect

def Limiter.retain (limiter : Limiter) (now : Nat) : Limiter := fun key =>
  match limiter key with
  | some last => if now - last < responseRateLimit then some last else none
  | none => none

def Limiter.insert (limiter : Limiter) (key : RateLimitKey) (now : Nat) : Limiter :=
  fun other => if other = key then some now else limiter other

def Limiter.clear (limiter : Limiter) (key : RateLimitKey) : Limiter :=
  fun other => if other = key then none else limiter other

/-- A response under this key within the last second. -/
def Limiter.recent (limiter : Limiter) (key : RateLimitKey) (now : Nat) : Bool :=
  match limiter key with
  | some last => now - last < responseRateLimit
  | none => false

def allowResponse (limiter : Limiter) (key : RateLimitKey) (now : Nat) : Bool × Limiter :=
  let limiter := limiter.retain now
  if limiter.recent key now then (false, limiter) else (true, limiter.insert key now)

def sendResponse (limiter : Limiter) (answers : Answers) (chatId : Int) (text : String)
    (key : RateLimitKey) (outcome : HandleOutcome) : Handled HandleOutcome :=
  match answers.sendText with
  | .ok () => ⟨.ok outcome, limiter, [.sendText chatId text]⟩
  | .error error => ⟨.error (.api error), limiter.clear key, [.sendText chatId text]⟩

/-- Answer in the chat, unless the sender was answered within the last second. -/
def respond (limiter : Limiter) (answers : Answers) (message : IncomingMessage) (text : String)
    (outcome : HandleOutcome) : Handled HandleOutcome :=
  let key : RateLimitKey := ⟨message.userId, message.chatId⟩
  let (allowed, limiter) := allowResponse limiter key answers.now
  if allowed then sendResponse limiter answers message.chatId text key outcome
  else ⟨.ok .rateLimited, limiter, []⟩

def Handled.after {α : Type} (effect : Effect) (handled : Handled α) : Handled α :=
  { handled with effects := effect :: handled.effects }

def queuedResponse (accepted : IngestAccepted) : String :=
  "✅ Ingest queued\nID: " ++ accepted.requestId ++ "\nStatus: " ++ accepted.status

def ingestUnavailable : TelegramError := .ingest "Telegram URL ingest service is not configured"

/-- File the request and acknowledge it; a failure forgets the last response. -/
def ingestAndRespond (config : Config) (limiter : Limiter) (answers : Answers)
    (message : IncomingMessage) (command : IngestCommand) : Handled HandleOutcome :=
  if config.ingestService then
    match answers.ingest with
    | .ok accepted => Handled.after (.ingest command)
        (respond limiter answers message (queuedResponse accepted) (.responded .add))
    | .error error => ⟨.error (.ingest error), limiter.clear ⟨message.userId, message.chatId⟩,
        [.ingest command]⟩
  else ⟨.error ingestUnavailable, limiter, []⟩

def idempotencyKey (message : IncomingMessage) : String :=
  "telegram:update:" ++ toString message.updateId ++ ":v1"

def handleMediaMessage (config : Config) (limiter : Limiter) (answers : Answers)
    (message : IncomingMessage) (userId : Int) (media : TelegramMedia) : Handled HandleOutcome :=
  let accept (mediaKind : Option MediaKind) (fileId fileUniqueId : String) (fileSize : Option Nat)
      (mimeType fileName : Option String) : Handled HandleOutcome :=
    if fileSize.any (config.sourceDownloadMaxBytes < ·) then
      respond limiter answers message
        ("⚠️ Telegram file exceeds the configured download limit of " ++
          toString config.sourceDownloadMaxBytes ++ " bytes") .mediaRejected
    else
      ingestAndRespond config limiter answers message (.media
        { updateId := message.updateId, messageId := message.messageId, chatId := message.chatId,
          submittedByUserId := userId, mediaKind, fileId, fileUniqueId, fileSize, mimeType,
          fileName, caption := message.caption, idempotencyKey := idempotencyKey message })
  match media with
  | .unsupportedDocument fileName mimeType =>
    respond limiter answers message
      ("⚠️ Unsupported Telegram document" ++ (fileName.map (": " ++ ·)).getD "" ++
        (mimeType.map (fun value => " (" ++ value ++ ")")).getD "") .mediaRejected
  | .supported mediaKind fileId fileUniqueId fileSize mimeType fileName =>
    accept (some mediaKind) fileId fileUniqueId fileSize mimeType fileName
  | .probeableDocument fileId fileUniqueId fileSize mimeType fileName =>
    accept none fileId fileUniqueId fileSize mimeType fileName

/-- The sender, if the bot is configured to listen to it. -/
def authorized (config : Config) (userId : Option Int) : Option Int :=
  userId.filter (· ∈ config.adminUserIds)

def handleMessage (config : Config) (limiter : Limiter) (answers : Answers)
    (message : IncomingMessage) : Handled HandleOutcome :=
  if ¬ message.isPrivate then ⟨.ok .nonPrivateIgnored, limiter, []⟩
  else
    match authorized config message.userId with
    | none => respond limiter answers message unauthorizedResponse .unauthorized
    | some userId =>
      match message.media with
      | some media => handleMediaMessage config limiter answers message userId media
      | none =>
        match (message.text.map (parseMessageAction config.parseUrl)).getD .ignore with
        | .url sourceUrl =>
          ingestAndRespond config limiter answers message
            (.url ⟨sourceUrl, idempotencyKey message, userId⟩)
        | .command command =>
          let response := match command with
            | .start => startResponse
            | .help => helpResponse
            | .status => statusResponse
            | .add => addUsageResponse
          respond limiter answers message response (.responded command)
        | .ignore => ⟨.ok .unrecognizedIgnored, limiter, []⟩

/-- Telegram user ids that do not fit a signed word are dropped. -/
def signedUserId (id : Nat) : Option Int := if id < 2 ^ 63 then some id else none

def incomingMessage (updateId : Nat) (message : Message) : IncomingMessage :=
  { updateId, messageId := message.id, replyToMessageId := message.replyToMessage,
    userId := message.sender.bind signedUserId, chatId := message.chatId,
    isPrivate := message.isPrivate, text := message.text, caption := message.caption,
    media := messageMedia message }

def acknowledgeCallback (limiter : Limiter) (answers : Answers) (callbackId : String) :
    Handled HandleOutcome :=
  match answers.answerCallbackQuery with
  | .ok () => ⟨.ok .callbackHandled, limiter, [.answerCallbackQuery callbackId]⟩
  | .error error => ⟨.error (.api error), limiter, [.answerCallbackQuery callbackId]⟩

def handleUpdate (config : Config) (limiter : Limiter) (answers : Answers) (update : Update) :
    Handled HandleOutcome :=
  match update.kind with
  | .message message => handleMessage config limiter answers (incomingMessage update.id message)
  | .callbackQuery callbackId _ => acknowledgeCallback limiter answers callbackId
  | .other _ => ⟨.ok .nonMessageIgnored, limiter, []⟩

end Handling

end Sooqa.Telegram
