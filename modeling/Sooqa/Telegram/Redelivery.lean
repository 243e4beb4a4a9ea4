import Sooqa.Inbox.Creation
import Sooqa.Telegram.Service

/-!
The ingest service behind the bot. Every attempt at an update asks for the
ingest it describes under the key of the update, so redeliveries and retries
are calls of one key with one hash.
-/
namespace Sooqa.Telegram
open Foundation Queue Inbox.Creation
open Inbox.Submission (Libraries)

section Service

def mediaKindAsStr : MediaKind → String
  | .video => "video"
  | .image => "image"
  | .animation => "animation"
  | .audio => "audio"

variable (libraries : Libraries)

def createUrl (now : Time) (command : UrlIngestCommand) :
    Except Inbox.Submission.IngestValidationError Inbox.Submission.IngestSubmission :=
  Inbox.Submission.tryNew libraries now
    { sourceUrl := command.sourceUrl
      submittedVia := .telegramBot
      idempotencyKey := some command.idempotencyKey }

def createMedia (command : MediaIngestCommand) :
    Except Inbox.Submission.IngestValidationError Inbox.Submission.IngestSubmission :=
  Inbox.Submission.tryNewTelegram libraries
    { sourceReference := "telegram://" ++ toString command.chatId ++ "/" ++ toString command.messageId
      submittedVia := .telegramBot
      originalInput := .object [
        ("source_type", .string "telegram"),
        ("telegram_update_id", .number command.updateId),
        ("telegram_chat_id", .number command.chatId),
        ("telegram_message_id", .number command.messageId),
        ("telegram_user_id", .number command.submittedByUserId),
        ("telegram_file_id", .string command.fileId),
        ("telegram_file_unique_id", .string command.fileUniqueId),
        ("file_size", .ofOption (fun size : Nat => .number size) command.fileSize),
        ("mime_type", .ofOption .string command.mimeType),
        ("file_name", .ofOption .string command.fileName),
        ("media_kind", .ofOption (fun kind => .string (mediaKindAsStr kind)) command.mediaKind)]
      suppliedCaption := command.caption
      idempotencyKey := some command.idempotencyKey }

/-- The submission `DatabaseIngestService` passes to the store. -/
def submissionOf (now : Time) : IngestCommand →
    Except Inbox.Submission.IngestValidationError Inbox.Submission.IngestSubmission
  | .url command => createUrl libraries now command
  | .media command => createMedia libraries command

/-- The submission does not depend on when it is made. -/
theorem submissionOf_now (now now' : Time) (command : IngestCommand) :
    submissionOf libraries now command = submissionOf libraries now' command := by
  cases command with
  | url command => exact Inbox.Submission.tryNew_of_save libraries rfl
  | media command => rfl

end Service

section Attempts
variable {config : Config} {limiter : Limiter} {answers : Answers} {message : IncomingMessage}
  {command : IngestCommand}

def mediaCommand (message : IncomingMessage) (userId : Int) : TelegramMedia → Option IngestCommand
  | .supported mediaKind fileId fileUniqueId fileSize mimeType fileName => some (.media
      { updateId := message.updateId, messageId := message.messageId, chatId := message.chatId,
        submittedByUserId := userId, mediaKind := some mediaKind, fileId, fileUniqueId, fileSize,
        mimeType, fileName, caption := message.caption, idempotencyKey := idempotencyKey message })
  | .probeableDocument fileId fileUniqueId fileSize mimeType fileName => some (.media
      { updateId := message.updateId, messageId := message.messageId, chatId := message.chatId,
        submittedByUserId := userId, mediaKind := none, fileId, fileUniqueId, fileSize,
        mimeType, fileName, caption := message.caption, idempotencyKey := idempotencyKey message })
  | .unsupportedDocument _ _ => none

/-- The ingest a message describes, wherever and whenever it is handled. -/
def describedIngest (parseUrl : String → Option Url) (message : IncomingMessage) :
    Option IngestCommand :=
  message.userId.bind (fun userId =>
    match message.media with
    | some media => mediaCommand message userId media
    | none =>
      match (message.text.map (parseMessageAction parseUrl)).getD .ignore with
      | .url sourceUrl => some (.url ⟨sourceUrl, idempotencyKey message, userId⟩)
      | _ => none)

theorem not_ingest_of_respond {text : String} {outcome : HandleOutcome} :
    .ingest command ∉ (respond limiter answers message text outcome).effects := by
  simp only [respond, sendResponse]
  intro asked
  split at asked
  · split at asked
    · exact absurd (List.mem_singleton.mp asked) Effect.noConfusion
    · exact absurd (List.mem_singleton.mp asked) Effect.noConfusion
  · exact absurd asked List.not_mem_nil

theorem ingestAndRespond_command {asked : IngestCommand}
    (h : .ingest command ∈ (ingestAndRespond config limiter answers message asked).effects) :
    command = asked := by
  unfold ingestAndRespond at h
  split at h
  · split at h
    · rcases List.mem_cons.mp h with first | later
      · exact Effect.ingest.inj first
      · exact absurd later not_ingest_of_respond
    · exact Effect.ingest.inj (List.mem_singleton.mp h)
  · exact absurd h List.not_mem_nil

theorem handleMediaMessage_command {userId : Int} {media : TelegramMedia}
    (h : .ingest command ∈
      (handleMediaMessage config limiter answers message userId media).effects) :
    mediaCommand message userId media = some command := by
  cases media with
  | unsupportedDocument fileName mimeType => exact absurd h not_ingest_of_respond
  | supported mediaKind fileId fileUniqueId fileSize mimeType fileName =>
    simp only [handleMediaMessage] at h
    split at h
    · exact absurd h not_ingest_of_respond
    · rw [ingestAndRespond_command h]
      rfl
  | probeableDocument fileId fileUniqueId fileSize mimeType fileName =>
    simp only [handleMediaMessage] at h
    split at h
    · exact absurd h not_ingest_of_respond
    · rw [ingestAndRespond_command h]
      rfl

theorem handleMessage_command
    (h : .ingest command ∈ (handleMessage config limiter answers message).effects) :
    describedIngest config.parseUrl message = some command := by
  unfold handleMessage at h
  split at h
  · exact absurd h List.not_mem_nil
  · cases sender : authorized config message.userId with
    | none =>
      rw [sender] at h
      exact absurd h not_ingest_of_respond
    | some userId =>
      rw [sender] at h
      have known := (Option.filter_eq_some_iff.mp sender).1
      rw [describedIngest, known, Option.bind_some]
      cases media : message.media with
      | some media' =>
        rw [media] at h
        exact handleMediaMessage_command h
      | none =>
        rw [media] at h
        simp only at h
        cases action : (message.text.map (parseMessageAction config.parseUrl)).getD .ignore with
        | url sourceUrl =>
          rw [action] at h
          rw [ingestAndRespond_command h]
        | command command' =>
          rw [action] at h
          exact absurd h not_ingest_of_respond
        | ignore =>
          rw [action] at h
          exact absurd h List.not_mem_nil

/-- A submission that some attempt at the update handed to the store: any
    configuration, limiter and answers, at any time. -/
def Delivered (libraries : Libraries) (parseUrl : String → Option Url) (update : Update)
    (submission : Inbox.Submission.IngestSubmission) : Prop :=
  ∃ config limiter answers command now, config.parseUrl = parseUrl ∧
    .ingest command ∈ (handleUpdate config limiter answers update).effects ∧
    submissionOf libraries now command = .ok submission

/-- An update describes one submission. -/
theorem delivered_unique {libraries : Libraries} {parseUrl : String → Option Url} {update : Update}
    {submission submission' : Inbox.Submission.IngestSubmission}
    (one : Delivered libraries parseUrl update submission)
    (two : Delivered libraries parseUrl update submission') : submission = submission' := by
  obtain ⟨config, limiter, answers, command, now, rfl, asked, made⟩ := one
  obtain ⟨config', limiter', answers', command', now', parse, asked', made'⟩ := two
  unfold handleUpdate at asked asked'
  split at asked
  · rename_i message kind
    rw [kind] at asked'
    have described := handleMessage_command asked
    have described' := handleMessage_command asked'
    rw [parse, described] at described'
    cases described'
    rw [submissionOf_now libraries now now', made'] at made
    cases made
    rfl
  · unfold acknowledgeCallback at asked
    split at asked
    · exact absurd (List.mem_singleton.mp asked) Effect.noConfusion
    · exact absurd (List.mem_singleton.mp asked) Effect.noConfusion
  · exact absurd asked List.not_mem_nil

end Attempts

section Main
variable {libraries : Libraries}

theorem ingest_creation_is_exactly_once {start w : Inbox.Creation.World} {acts : List Action}
    (begins : Start start) (run : Run (step libraries) Unrestricted start acts w) :
    ExactlyOnce libraries w ∧
    (∀ e ∈ w.log, ∀ e' ∈ w.log, ∀ result result', e.outcome = .ok result →
      e'.outcome = .ok result' → e.submission.inputKey = e'.submission.inputKey →
      result.id = result'.id ∧
        e.submission.requestHash libraries = e'.submission.requestHash libraries ∧
        (libraries.CollisionFree → e.submission = e'.submission)) ∧
    (∀ action w', step libraries w action = some w' → (∃ db, action = .other db) ∨
      w'.db = w.db ∨ ∃ e result, Committed w w' e result) ∧
    (∀ parseUrl update, ∀ e ∈ w.log, ∀ e' ∈ w.log,
      Delivered libraries parseUrl update e.submission →
      Delivered libraries parseUrl update e'.submission → e.submission = e'.submission ∧
        ∀ result result', e.outcome = .ok result → e'.outcome = .ok result' →
          result.id = result'.id) := by
  have consistent := consistent_run begins run
  have once := exactlyOnce_of_consistent consistent
  refine ⟨once, ?_, fun action w' h => step_db consistent h, ?_⟩
  · intro e member e' member' result result' answer answer' key
    obtain ⟨id, hash⟩ := same_ingest once member member' answer answer' key
    exact ⟨id, hash, fun free => Inbox.Submission.requestHash_injective libraries free hash⟩
  · intro parseUrl update e member e' member' delivered delivered'
    have same := delivered_unique delivered delivered'
    refine ⟨same, ?_⟩
    intro result result' answer answer'
    exact (same_ingest once member member' answer answer' (congrArg _ same)).1

/-- The shape of the sample as its JSON text. -/
def sampleText : String :=
  "\x7b\"kind\":\"telegram_message\",\"submitted_via\":\"telegram_bot\"," ++
    "\"submitted_by_admin_id\":null,\"original_url\":\"telegram://5/3\"," ++
    "\"normalized_url\":\"telegram://5/3\",\"original_input\":\x7b\"file_name\":null," ++
    "\"file_size\":10,\"media_kind\":\"video\",\"mime_type\":\"video/mp4\"," ++
    "\"source_type\":\"telegram\",\"telegram_chat_id\":5,\"telegram_file_id\":\"f\"," ++
    "\"telegram_file_unique_id\":\"u\",\"telegram_message_id\":3," ++
    "\"telegram_update_id\":7,\"telegram_user_id\":5\x7d,\"page_url\":null," ++
    "\"page_title\":null,\"supplied_caption\":null,\"supplied_description\":null," ++
    "\"supplied_tags\":[],\"requested_action\":\"save\",\"requested_publish_at\":null," ++
    "\"requested_post_caption\":null,\"idempotency_key\":\"telegram:update:7:v1\"\x7d"

def sampleEnvelope : Inbox.Submission.Json :=
  .object [("source", .object [("media_kind", .string "video"), ("mime_type", .string "video/mp4")]),
    ("version", .number 1)]

def sampleLibraries : Libraries where
  normalizeUrl text _ := .ok text
  formatRfc3339 _ := "1970-01-01T00:00:00Z"
  toVec _ := sampleText.toUTF8.toList
  sha256 _ := "1036d2c9e7173f3f9f6ab5ccfedbdae2a42e479a4f76dcac03349b705c604985"
  decode _ := .ok ⟨none, some "video/mp4", none, some .video⟩
  canonical _ := .ok sampleEnvelope

/-- A video from the administrator. -/
def sampleUpdate : Update where
  id := 7
  kind := .message
    { id := 3, replyToMessage := none, sender := some 5, chatId := 5, isPrivate := true,
      text := none, caption := none, photo := none,
      video := some ⟨⟨"f", "u", 10⟩, some "video/mp4", none⟩, animation := none, document := none }

def sampleSubmission : Inbox.Submission.IngestSubmission where
  kind := .telegramMessage
  submittedVia := .telegramBot
  originalUrl := "telegram://5/3"
  normalizedUrl := "telegram://5/3"
  originalInput := .object [
    ("source_type", .string "telegram"),
    ("telegram_update_id", .number 7),
    ("telegram_chat_id", .number 5),
    ("telegram_message_id", .number 3),
    ("telegram_user_id", .number 5),
    ("telegram_file_id", .string "f"),
    ("telegram_file_unique_id", .string "u"),
    ("file_size", .number 10),
    ("mime_type", .string "video/mp4"),
    ("file_name", .null),
    ("media_kind", .string "video")]
  pageUrl := none
  pageTitle := none
  suppliedCaption := none
  suppliedDescription := none
  suppliedTags := []
  requestedAction := .save
  requestedPublishAt := none
  requestedPostCaption := none
  idempotencyKey := some "telegram:update:7:v1"

theorem sampleSubmission_delivered :
    Delivered sampleLibraries (fun _ => none) sampleUpdate sampleSubmission :=
  ⟨⟨[5], 1000, true, fun _ => none⟩, fun _ => none, ⟨.ok ⟨"10", "queued"⟩, 0, .ok (), .ok ()⟩, _, 0,
    rfl, List.mem_cons_self, rfl⟩

/-- Two handlers race for the update, and it is delivered once more later. -/
def sampleRace : List Action :=
  [.begin 0 sampleSubmission 0, .begin 1 sampleSubmission 0, .lookup 0, .lookup 1, .admission 0 10,
    .admission 1 11, .insert 0, .commit 0, .insert 1, .reread 1, .begin 2 sampleSubmission 5, .lookup 2]

theorem redelivered_update : ∃ w,
    Run (step sampleLibraries) Unrestricted ⟨Db.empty, ∅, []⟩ sampleRace w ∧
    w.log.map (fun e => e.outcome.toOption.map (fun result => (result.id, result.created))) =
      [some (10, false), some (10, false), some (10, true)] ∧
    ExactlyOnce sampleLibraries w ∧
    ∀ e ∈ w.log, ∀ e' ∈ w.log, e.submission = e'.submission ∧ ∀ result result',
      e.outcome = .ok result → e'.outcome = .ok result' → result.id = result'.id := by
  obtain ⟨w, ran, outcomes, submissions⟩ : ∃ w,
      exec (step sampleLibraries) ⟨Db.empty, ∅, []⟩ sampleRace = some w ∧
      w.log.map (fun e => e.outcome.toOption.map (fun result => (result.id, result.created))) =
        [some (10, false), some (10, false), some (10, true)] ∧
      w.log.map (·.submission) = List.replicate 3 sampleSubmission := ⟨_, rfl, rfl, rfl⟩
  have begins : Start ⟨Db.empty, ∅, []⟩ := ⟨rfl, rfl, by
    intro id id' request request' found
    cases found⟩
  have run := run_of_exec ran
  obtain ⟨once, -, -, redelivered⟩ := ingest_creation_is_exactly_once begins run
  have same : ∀ e ∈ w.log, Delivered sampleLibraries (fun _ => none) sampleUpdate e.submission := by
    intro e member
    have sampled := List.mem_map_of_mem (f := (·.submission)) member
    rw [submissions] at sampled
    rw [(List.mem_replicate.mp sampled).2]
    exact sampleSubmission_delivered
  exact ⟨w, run, outcomes, once, fun e member e' member' =>
    redelivered _ _ e member e' member' (same e member) (same e' member')⟩

end Main

end Sooqa.Telegram
