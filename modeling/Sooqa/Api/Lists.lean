import Mathlib.Data.Prod.Lex
import Sooqa.Api.Cursor
import Sooqa.Foundation.Keyset
import Sooqa.Foundation.Outcome
import Sooqa.Publisher.System

/-!
The two lists that are read page by page: the scheduled posts, soonest first,
and the ingests, newest first. Following the cursors visits every row once.
-/
namespace Sooqa.Api
open Foundation Queue

section Model

structure PostPreview where
  mimeType : String
  width : Nat
  height : Nat
  sizeBytes : Nat
  sha256 : List UInt8
  deriving DecidableEq

/-- Columns that the lists show and no modelled transaction writes. A preview
    is complete or absent, by a CHECK constraint. -/
structure ListColumns where
  channelName : Uuid → String
  preview : Uuid → Option PostPreview
  sourceUrl : Uuid → Option String
  pageUrl : Uuid → Option String

structure PostListItem where
  id : Uuid
  post : Post
  channelName : String
  mediaKind : MediaKind
  sourceUrl : Option String
  storageUrl : Option String
  preview : Option PostPreview
  deriving DecidableEq

structure IngestListItem where
  id : Uuid
  sourceUrl : Option String
  pageUrl : Option String
  requestedAction : RequestedAction
  status : IngestStatus
  createdAt : Time
  updatedAt : Time
  completedAt : Option Time
  mediaId : Option Uuid
  storageUrl : Option String
  errorCode : Option String
  errorMessage : Option String
  deriving DecidableEq

structure PostCursor where
  scheduledAt : Int
  id : Uuid
  deriving DecidableEq, Repr

structure IngestCursor where
  createdAt : Int
  id : Uuid
  deriving DecidableEq, Repr

structure Page (Item Cursor : Type) where
  items : List Item
  nextCursor : Option Cursor

inductive ListError where
  | invalidLimit (value : UInt32)
  deriving DecidableEq, Repr

structure ApiError where
  status : Nat
  code : String
  message : String
  deriving DecidableEq, Repr

def ApiError.badRequest (code message : String) : ApiError := ⟨400, code, message⟩

variable (columns : ListColumns) (db : Db)

def telegramMessageLink (chatId messageId : Int) : String :=
  let chat := decimalText chatId
  let chat := if "-100".toList <+: chat then chat.drop 4 else chat
  s!"https://t.me/c/{String.ofList chat}/{messageId}"

def telegramMessageLinkOptional (chatId messageId : Option Int) : Option String := do
  let chatId ← chatId
  let messageId ← messageId
  if chatId < 0 ∧ messageId > 0 then some (telegramMessageLink chatId messageId) else none

def storageMessageUrl (chatId messageId : Int) : Option String :=
  if chatId ≥ 0 ∨ messageId ≤ 0 then none
  else
    let rawId := decimalText chatId
    let internalId := if "-100".toList <+: rawId then rawId.drop 4 else rawId.dropWhile (· == '-')
    if internalId ≠ [] then some s!"https://t.me/c/{String.ofList internalId}/{messageId}" else none

/-- The states that the list leaves out unless it is asked for them. -/
def isHistory : PostState → Bool
  | .published | .cancelled => true
  | _ => false

/-- The order of the schedule: the time of a post, then its identifier. -/
def postKey (row : Uuid × Post) : Int ×ₗ Nat := toLex (storedMicros row.2.scheduledAt, row.1)

/-- The order of the ingests, from the newest: the keys are compared the other
    way round. -/
def ingestKey (row : Uuid × Ingest) : (Int ×ₗ Nat)ᵒᵈ :=
  OrderDual.toDual (toLex (storedMicros row.2.createdAt, row.1))

def PostCursor.bound (cursor : PostCursor) : Int ×ₗ Nat :=
  toLex (boundMicros cursor.scheduledAt, cursor.id)

def IngestCursor.bound (cursor : IngestCursor) : (Int ×ₗ Nat)ᵒᵈ :=
  OrderDual.toDual (toLex (boundMicros cursor.createdAt, cursor.id))

def PostCursor.of (row : Uuid × Post) : PostCursor := ⟨unixNanos row.2.scheduledAt, row.1⟩

def IngestCursor.of (row : Uuid × Ingest) : IngestCursor := ⟨unixNanos row.2.createdAt, row.1⟩

/-- The item of a post, where its channel and its media are there. -/
def loadPostListItem (id : Uuid) : Option PostListItem := do
  let post ← db.posts.get id
  let _ ← db.channels.get post.channelId
  let media ← db.media.get post.mediaId
  return {
    id := id
    post := post
    channelName := columns.channelName post.channelId
    mediaKind := media.kind
    sourceUrl := media.sourceUrl
    storageUrl :=
      telegramMessageLinkOptional media.telegramStorageChatId media.telegramStorageMessageId
    preview := columns.preview post.mediaId }

def listPosts (limit : UInt32) (cursor : Option PostCursor) (includeHistory : Bool) :
    Except ListError (Page PostListItem PostCursor) := do
  require (1 ≤ limit ∧ limit ≤ 50) (.invalidLimit limit)
  let listed := (Table.rows db.posts).filter fun row =>
    includeHistory || !isHistory row.2.state
  let rows := Keyset.select postKey (cursor.map PostCursor.bound) (limit.toNat + 1) listed
  let hasMore := rows.length > limit.toNat
  let rows := rows.take limit.toNat
  let nextCursor := if hasMore then rows.getLast?.map PostCursor.of else none
  return ⟨rows.filterMap fun row => loadPostListItem columns db row.1, nextCursor⟩

def intoItem (row : Uuid × Ingest) : IngestListItem :=
  let media := row.2.mediaId.bind db.media.get
  let location := do
    let media ← media
    let chatId ← media.telegramStorageChatId
    let messageId ← media.telegramStorageMessageId
    storageMessageUrl chatId messageId
  { id := row.1
    sourceUrl := columns.sourceUrl row.1
    pageUrl := columns.pageUrl row.1
    requestedAction := row.2.requestedAction
    status := row.2.status
    createdAt := row.2.createdAt
    updatedAt := row.2.updatedAt
    completedAt := row.2.completedAt
    mediaId := row.2.mediaId
    storageUrl := location
    errorCode := row.2.errorCode
    errorMessage := row.2.errorMessage.map fun value => .ofList (value.toList.take 512) }

def listAdmin (limit : UInt32) (cursor : Option IngestCursor) :
    Except ListError (Page IngestListItem IngestCursor) := do
  require (1 ≤ limit ∧ limit ≤ 50) (.invalidLimit limit)
  let rows := Keyset.select ingestKey (cursor.map IngestCursor.bound) (limit.toNat + 1)
    (Table.rows db.ingests)
  let hasMore := rows.length > limit.toNat
  let rows := rows.take limit.toNat
  let nextCursor := if hasMore then rows.getLast?.map IngestCursor.of else none
  return ⟨rows.map (intoItem columns db), nextCursor⟩

def encodePostCursor (cursor : PostCursor) : List Char := encode cursor.scheduledAt cursor.id

def decodePostCursor (value : List Char) : Option PostCursor :=
  (decode value).map fun parts => ⟨parts.1, parts.2⟩

def encodeIngestCursor (cursor : IngestCursor) : List Char := encode cursor.createdAt cursor.id

def decodeIngestCursor (value : List Char) : Option IngestCursor :=
  (decode value).map fun parts => ⟨parts.1, parts.2⟩

/-- A cursor as it comes in, or the error that it is none. -/
def readCursor {Cursor : Type} (decode : List Char → Option Cursor) (error : ApiError) :
    Option (List Char) → Except ApiError (Option Cursor)
  | some value => (expect (decode value) error).map some
  | none => .ok none

def listPostsResponse (limit : Option UInt32) (cursor : Option (List Char))
    (includeHistory : Option Bool) :
    Except ApiError (List PostListItem × Option (List Char)) := do
  let limit := limit.getD 50
  require (1 ≤ limit ∧ limit ≤ 50)
    (.badRequest "invalid_limit" "The schedule list limit must be between 1 and 50")
  let cursor ← readCursor decodePostCursor
    (.badRequest "invalid_cursor" "The schedule cursor is invalid") cursor
  match listPosts columns db limit cursor (includeHistory.getD false) with
  | .ok page => return (page.items, page.nextCursor.map encodePostCursor)
  | .error _ => .error (.badRequest "invalid_limit" "The limit must be between 1 and 50")

def listIngestsResponse (limit : Option UInt32) (cursor : Option (List Char)) :
    Except ApiError (List IngestListItem × Option (List Char)) := do
  let limit := limit.getD 50
  require (1 ≤ limit ∧ limit ≤ 50)
    (.badRequest "invalid_limit" "The ingest list limit must be between 1 and 50")
  let cursor ← readCursor decodeIngestCursor
    (.badRequest "invalid_cursor" "The ingest cursor is invalid") cursor
  match listAdmin columns db limit cursor with
  | .ok page => return (page.items, page.nextCursor.map encodeIngestCursor)
  | .error _ => .error ⟨500, "internal_error", "The server could not complete the request"⟩

end Model

section Contents

/-- What the columns and the foreign keys of the two tables promise. -/
structure Stored (db : Db) : Prop where
  postId : ∀ {id : Uuid} {row : Post}, db.posts.get id = some row → id < 2 ^ 128
  postTime : ∀ {id : Uuid} {row : Post}, db.posts.get id = some row →
    unixNanos row.scheduledAt ≤ lastNanos
  channel : ∀ {id : Uuid} {row : Post}, db.posts.get id = some row →
    ∃ channel, db.channels.get row.channelId = some channel
  media : ∀ {id : Uuid} {row : Post}, db.posts.get id = some row →
    ∃ media, db.media.get row.mediaId = some media
  ingestId : ∀ {id : Uuid} {row : Ingest}, db.ingests.get id = some row → id < 2 ^ 128
  ingestTime : ∀ {id : Uuid} {row : Ingest}, db.ingests.get id = some row →
    unixNanos row.createdAt ≤ lastNanos

variable {columns : ListColumns} {db : Db} {limit : UInt32}

theorem bound_of_post (row : Uuid × Post) : (PostCursor.of row).bound = postKey row := by
  rw [PostCursor.of, PostCursor.bound, postKey, boundMicros_unixNanos]

theorem bound_of_ingest (row : Uuid × Ingest) : (IngestCursor.of row).bound = ingestKey row := by
  rw [IngestCursor.of, IngestCursor.bound, ingestKey, boundMicros_unixNanos]

theorem postKey_injective {row other : Uuid × Post} (same : postKey row = postKey other) :
    row.1 = other.1 := congrArg (fun key => (ofLex key).2) same

theorem ingestKey_injective {row other : Uuid × Ingest} (same : ingestKey row = ingestKey other) :
    row.1 = other.1 := congrArg (fun key => (ofLex (OrderDual.ofDual key)).2) same

/-- The posts that a list takes in. -/
def listed (includeHistory : Bool) (db : Db) : List (Uuid × Post) :=
  (Table.rows db.posts).filter fun row => includeHistory || !isHistory row.2.state

theorem listed_get {includeHistory : Bool} {row : Uuid × Post}
    (member : row ∈ listed includeHistory db) : db.posts.get row.1 = some row.2 :=
  (Table.mem_rows_iff _ _ _).mp (List.mem_of_mem_filter member)

theorem listed_apart (includeHistory : Bool) :
    (listed includeHistory db).Pairwise (fun row other => postKey row ≠ postKey other) :=
  ((Table.rows_apart db.posts).filter _).imp (fun ne same => ne (postKey_injective same))

theorem ingests_apart : (Table.rows db.ingests).Pairwise
    (fun row other => ingestKey row ≠ ingestKey other) :=
  (Table.rows_apart db.ingests).imp (fun ne same => ne (ingestKey_injective same))

/-- The cursor behind a row is read back as it was written. -/
theorem decodePostCursor_of (stored : Stored db) {row : Uuid × Post}
    (found : db.posts.get row.1 = some row.2) :
    decodePostCursor (encodePostCursor (.of row)) = some (.of row) := by
  rw [decodePostCursor, encodePostCursor, PostCursor.of,
    decode_encode (firstNanos_le _) (stored.postTime found) (stored.postId found)]
  rfl

theorem decodeIngestCursor_of (stored : Stored db) {row : Uuid × Ingest}
    (found : db.ingests.get row.1 = some row.2) :
    decodeIngestCursor (encodeIngestCursor (.of row)) = some (.of row) := by
  rw [decodeIngestCursor, encodeIngestCursor, IngestCursor.of,
    decode_encode (firstNanos_le _) (stored.ingestTime found) (stored.ingestId found)]
  rfl

/-- The answer to a request with the cursor behind a row. -/
theorem listPostsResponse_behind (stored : Stored db) (range : 1 ≤ limit ∧ limit ≤ 50)
    (includeHistory : Bool) (last : Option (Uuid × Post))
    (known : ∀ row, last = some row → row ∈ listed includeHistory db) :
    let found := Keyset.select postKey (last.map postKey) (limit.toNat + 1)
      (listed includeHistory db)
    listPostsResponse columns db (some limit)
        (last.map fun row => encodePostCursor (.of row)) (some includeHistory) =
      .ok ((found.take limit.toNat).filterMap (fun row => loadPostListItem columns db row.1),
        (Keyset.following limit.toNat found).map fun row => encodePostCursor (.of row)) := by
  intro found
  have read : readCursor decodePostCursor
      (.badRequest "invalid_cursor" "The schedule cursor is invalid")
      (last.map fun row => encodePostCursor (.of row)) = .ok (last.map PostCursor.of) := by
    cases last with
    | none => rfl
    | some row =>
      rw [Option.map_some, readCursor, decodePostCursor_of stored (listed_get (known row rfl))]
      rfl
  have bound : (last.map PostCursor.of).map PostCursor.bound = last.map postKey := by
    cases last with
    | none => rfl
    | some row => exact congrArg some (bound_of_post row)
  have page : listPosts columns db limit (last.map PostCursor.of) includeHistory =
      .ok ⟨(found.take limit.toNat).filterMap (fun row => loadPostListItem columns db row.1),
        (Keyset.following limit.toNat found).map PostCursor.of⟩ := by
    unfold listPosts
    rw [require_met range, bind_ok_eq, bound]
    unfold Keyset.following
    split <;> simp_all [listed, found, pure, Except.pure]
  unfold listPostsResponse
  simp only [Option.getD_some]
  rw [require_met range, bind_ok_eq, read, bind_ok_eq, page]
  simp only [Option.map_map]
  rfl

theorem listIngestsResponse_behind (stored : Stored db) (range : 1 ≤ limit ∧ limit ≤ 50)
    (last : Option (Uuid × Ingest)) (known : ∀ row, last = some row → row ∈ Table.rows db.ingests) :
    let found := Keyset.select ingestKey (last.map ingestKey) (limit.toNat + 1)
      (Table.rows db.ingests)
    listIngestsResponse columns db (some limit)
        (last.map fun row => encodeIngestCursor (.of row)) =
      .ok ((found.take limit.toNat).filterMap (fun row => some (intoItem columns db row)),
        (Keyset.following limit.toNat found).map fun row => encodeIngestCursor (.of row)) := by
  intro found
  have read : readCursor decodeIngestCursor
      (.badRequest "invalid_cursor" "The ingest cursor is invalid")
      (last.map fun row => encodeIngestCursor (.of row)) = .ok (last.map IngestCursor.of) := by
    cases last with
    | none => rfl
    | some row =>
      have get := (Table.mem_rows_iff _ _ _).mp (known row rfl)
      rw [Option.map_some, readCursor, decodeIngestCursor_of stored get]
      rfl
  have bound : (last.map IngestCursor.of).map IngestCursor.bound = last.map ingestKey := by
    cases last with
    | none => rfl
    | some row => exact congrArg some (bound_of_ingest row)
  have page : listAdmin columns db limit (last.map IngestCursor.of) =
      .ok ⟨(found.take limit.toNat).map (intoItem columns db),
        (Keyset.following limit.toNat found).map IngestCursor.of⟩ := by
    unfold listAdmin
    rw [require_met range, bind_ok_eq, bound]
    unfold Keyset.following
    split <;> simp_all [found, pure, Except.pure]
  unfold listIngestsResponse
  simp only [Option.getD_some]
  rw [require_met range, bind_ok_eq, read, bind_ok_eq, page]
  simp only [Option.map_map, List.filterMap_eq_map']
  rfl

end Contents

section Completeness
variable {columns : ListColumns} {db : Db} {limit : UInt32}

/-- One item before another in the schedule. -/
def Sooner (item other : PostListItem) : Prop :=
  item.post.scheduledAt < other.post.scheduledAt ∨
    item.post.scheduledAt = other.post.scheduledAt ∧ item.id < other.id

/-- One item before another in the list of the ingests. -/
def Newer (item other : IngestListItem) : Prop :=
  other.createdAt < item.createdAt ∨ other.createdAt = item.createdAt ∧ other.id < item.id

theorem loadPostListItem_some {id : Uuid} {item : PostListItem}
    (loaded : loadPostListItem columns db id = some item) :
    item.id = id ∧ db.posts.get id = some item.post := by
  simp only [loadPostListItem, Option.bind_eq_bind, Option.bind_eq_some_iff, Option.pure_def,
    Option.some.injEq] at loaded
  obtain ⟨post, found, _, _, media, _, is⟩ := loaded
  rw [← is]
  exact ⟨rfl, found⟩

/-- The item of a listed row tells of that row. -/
theorem loaded_row {includeHistory : Bool} {row : Uuid × Post} {item : PostListItem}
    (member : row ∈ listed includeHistory db)
    (loaded : loadPostListItem columns db row.1 = some item) :
    item.id = row.1 ∧ item.post = row.2 := by
  obtain ⟨id, found⟩ := loadPostListItem_some loaded
  exact ⟨id, Option.some.inj (found.symm.trans (listed_get member))⟩

theorem loadPostListItem_stored (stored : Stored db) {id : Uuid} {post : Post}
    (found : db.posts.get id = some post) :
    ∃ item, loadPostListItem columns db id = some item := by
  obtain ⟨channel, there⟩ := stored.channel found
  obtain ⟨media, kept⟩ := stored.media found
  simp [loadPostListItem, found, there, kept]

theorem sooner_of_key {row other : Uuid × Post} {item item' : PostListItem}
    (less : postKey row < postKey other) (first : item.id = row.1 ∧ item.post = row.2)
    (second : item'.id = other.1 ∧ item'.post = other.2) : Sooner item item' := by
  rw [postKey, postKey, Prod.Lex.toLex_lt_toLex] at less
  unfold Sooner
  rw [first.1, first.2, second.1, second.2]
  rcases less with earlier | ⟨same, smaller⟩
  · exact Or.inl (storedMicros_lt.mp earlier)
  · exact Or.inr ⟨storedMicros_inj.mp same, smaller⟩

theorem newer_of_key {row other : Uuid × Ingest} (less : ingestKey row < ingestKey other) :
    Newer (intoItem columns db row) (intoItem columns db other) := by
  rw [ingestKey, ingestKey, OrderDual.toDual_lt_toDual, Prod.Lex.toLex_lt_toLex] at less
  rcases less with earlier | ⟨same, smaller⟩
  · exact Or.inl (storedMicros_lt.mp earlier)
  · exact Or.inr ⟨storedMicros_inj.mp same, smaller⟩

/-- A cursor that a list produces is that of one of its rows. -/
theorem listPosts_cursor {cursor : Option PostCursor} {includeHistory : Bool}
    {page : Page PostListItem PostCursor} {next : PostCursor}
    (answer : listPosts columns db limit cursor includeHistory = .ok page)
    (produced : page.nextCursor = some next) :
    ∃ row ∈ listed includeHistory db, next = .of row := by
  obtain ⟨_, _, answer⟩ := bind_ok.mp answer
  rw [← pure_ok.mp answer] at produced
  simp only at produced
  split at produced
  · obtain ⟨row, last, is⟩ := Option.map_eq_some_iff.mp produced
    have found := List.mem_of_mem_take (List.mem_of_getLast? last)
    exact ⟨row, Keyset.mem_of_select found, is.symm⟩
  · cases produced

theorem listAdmin_cursor {cursor : Option IngestCursor}
    {page : Page IngestListItem IngestCursor} {next : IngestCursor}
    (answer : listAdmin columns db limit cursor = .ok page)
    (produced : page.nextCursor = some next) : ∃ row ∈ Table.rows db.ingests, next = .of row := by
  obtain ⟨_, _, answer⟩ := bind_ok.mp answer
  rw [← pure_ok.mp answer] at produced
  simp only at produced
  split at produced
  · obtain ⟨row, last, is⟩ := Option.map_eq_some_iff.mp produced
    have found := List.mem_of_mem_take (List.mem_of_getLast? last)
    exact ⟨row, Keyset.mem_of_select found, is.symm⟩
  · cases produced

/-- The pages of the schedule in one list. -/
theorem posts_visited (stored : Stored db) (range : 1 ≤ limit ∧ limit ≤ 50)
    (includeHistory : Bool) :
    Keyset.Visits
      (fun cursor => listPostsResponse columns db (some limit) cursor (some includeHistory)) none
      ((Keyset.ordered postKey (listed includeHistory db)).filterMap
        fun row => loadPostListItem columns db row.1) :=
  Keyset.visits_ordered (UInt32.le_iff_toNat_le.mp range.1) (listed_apart includeHistory)
    (listPostsResponse_behind stored range includeHistory)

theorem ingests_visited (stored : Stored db) (range : 1 ≤ limit ∧ limit ≤ 50) :
    Keyset.Visits (fun cursor => listIngestsResponse columns db (some limit) cursor) none
      ((Keyset.ordered ingestKey (Table.rows db.ingests)).filterMap
        fun row => some (intoItem columns db row)) :=
  Keyset.visits_ordered (UInt32.le_iff_toNat_le.mp range.1) ingests_apart
    (listIngestsResponse_behind stored range)

/-- Following the cursors from the first page on ends, and visits what the list
    takes in once each in its order; a cursor is read back as it was written. -/
theorem lists_are_complete (columns : ListColumns) (stored : Stored db)
    (range : 1 ≤ limit ∧ limit ≤ 50) :
    (∀ includeHistory, ∃ visited,
      Keyset.Visits (fun cursor =>
        listPostsResponse columns db (some limit) cursor (some includeHistory)) none visited ∧
      visited.Pairwise Sooner ∧
      ∀ id row, db.posts.get id = some row ∧ (includeHistory ∨ ¬ isHistory row.state) ↔
        ∃ item ∈ visited, item.id = id ∧ item.post = row) ∧
    (∃ visited,
      Keyset.Visits (fun cursor => listIngestsResponse columns db (some limit) cursor) none
        visited ∧
      visited.Pairwise Newer ∧
      ∀ item, item ∈ visited ↔
        ∃ id row, db.ingests.get id = some row ∧ item = intoItem columns db (id, row)) ∧
    (∀ cursor includeHistory page next,
      listPosts columns db limit cursor includeHistory = .ok page → page.nextCursor = some next →
        decodePostCursor (encodePostCursor next) = some next) ∧
    (∀ cursor page next,
      listAdmin columns db limit cursor = .ok page → page.nextCursor = some next →
        decodeIngestCursor (encodeIngestCursor next) = some next) := by
  refine ⟨?posts, ?ingests, ?postCursors, ?ingestCursors⟩
  case posts =>
    intro includeHistory
    refine ⟨_, posts_visited stored range includeHistory, ?_, ?_⟩
    · rw [List.pairwise_filterMap]
      refine (Keyset.ordered_strict (listed_apart includeHistory)).imp_of_mem ?_
      intro row other inside inside' less item loaded item' loaded'
      exact sooner_of_key less (loaded_row (Keyset.mem_ordered.mp inside) loaded)
        (loaded_row (Keyset.mem_ordered.mp inside') loaded')
    · intro id row
      constructor
      · rintro ⟨found, shown⟩
        obtain ⟨item, loaded⟩ := @loadPostListItem_stored columns _ stored _ _ found
        have member : (id, row) ∈ listed includeHistory db :=
          List.mem_filter.mpr ⟨(Table.mem_rows_iff _ _ _).mpr found, by simpa using shown⟩
        exact ⟨item, List.mem_filterMap.mpr ⟨(id, row), Keyset.mem_ordered.mpr member, loaded⟩,
          loaded_row member loaded⟩
      · rintro ⟨item, member, rfl, rfl⟩
        obtain ⟨row, inside, loaded⟩ := List.mem_filterMap.mp member
        have inside := Keyset.mem_ordered.mp inside
        obtain ⟨id, post⟩ := loaded_row inside loaded
        rw [id, post]
        exact ⟨listed_get inside, by simpa using List.of_mem_filter inside⟩
  case ingests =>
    refine ⟨_, ingests_visited stored range, ?_, ?_⟩
    · rw [List.filterMap_eq_map', List.pairwise_map]
      exact (Keyset.ordered_strict ingests_apart).imp newer_of_key
    · intro item
      rw [List.filterMap_eq_map', List.mem_map]
      constructor
      · rintro ⟨row, member, is⟩
        exact ⟨row.1, row.2, (Table.mem_rows_iff _ _ _).mp (Keyset.mem_ordered.mp member), is.symm⟩
      · rintro ⟨id, row, found, is⟩
        exact ⟨(id, row), Keyset.mem_ordered.mpr ((Table.mem_rows_iff _ _ _).mpr found), is.symm⟩
  case postCursors =>
    intro cursor includeHistory page next answer produced
    obtain ⟨row, member, is⟩ := listPosts_cursor answer produced
    rw [is]
    exact decodePostCursor_of stored (listed_get member)
  case ingestCursors =>
    intro cursor page next answer produced
    obtain ⟨row, member, is⟩ := listAdmin_cursor answer produced
    rw [is]
    exact decodeIngestCursor_of stored ((Table.mem_rows_iff _ _ _).mp member)

/-- Two drafts of one instant. -/
def sampleDb : Db :=
  { Db.empty with
    channels := Table.set ∅ 3 Publisher.sampleChannel
    media := Table.set ∅ 4 Publisher.sampleMedia
    posts := (Table.set ∅ 1 (Publisher.draftPost 7 4 3)).set 2 (Publisher.draftPost 7 4 3) }

theorem sample_post {id : Uuid} {row : Post} (found : sampleDb.posts.get id = some row) :
    id < 3 ∧ row = Publisher.draftPost 7 4 3 := by
  rcases Table.get_set_cases found with ⟨second, is⟩ | ⟨_, earlier⟩
  · rw [second]
    exact ⟨by decide, is⟩
  · rcases Table.get_set_cases earlier with ⟨first, is⟩ | ⟨_, none⟩
    · rw [first]
      exact ⟨by decide, is⟩
    · cases none

theorem sample_stored : Stored sampleDb where
  postId := fun found => lt_of_lt_of_le (sample_post found).1 (by decide)
  postTime := fun found => by rw [(sample_post found).2]; decide
  channel := fun found => by rw [(sample_post found).2]; exact ⟨_, rfl⟩
  media := fun found => by rw [(sample_post found).2]; exact ⟨_, rfl⟩
  ingestId := fun found => by cases found
  ingestTime := fun found => by cases found

theorem tied_posts_are_visited :
    ∃ visited, Keyset.Visits (fun cursor =>
        listPostsResponse ⟨fun _ => "", fun _ => none, fun _ => none, fun _ => none⟩ sampleDb (some 1)
          cursor (some false)) none visited ∧
      visited.Pairwise Sooner ∧
      ∀ id row, sampleDb.posts.get id = some row ∧ (false ∨ ¬ isHistory row.state) ↔
        ∃ item ∈ visited, item.id = id ∧ item.post = row := by
  have all := (@lists_are_complete sampleDb 1
    ⟨fun _ => "", fun _ => none, fun _ => none, fun _ => none⟩ sample_stored (by decide)).1 false
  simpa using all

end Completeness

end Sooqa.Api
