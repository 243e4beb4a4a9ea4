import Sooqa.Captions.Pending

/-!
What the stored message shows. Every edit that is claimed or sent for a message
belongs to the media that owns it, at a generation it has reached; those of the
current generation carry the current caption. Four things keep a synced row
from being shown: an accepted duplicate or a new source that changes the
captioned fields without opening a generation, an older edit that takes effect
after the newest, and a message attached to a second media.
-/
namespace Sooqa.Captions
open Foundation Queue Library Worker

section Invariant

/-- The caption a row asks for. -/
def wanted (row : Media) : String := storageCaption (captionMetadataOf row)

def CaptionSyncClaim.message (claim : CaptionSyncClaim) : MessageId :=
  ⟨claim.storageChatId, claim.storageMessageId⟩

/-- An edit that is still to take effect: claimed by an attempt, or sent. -/
inductive Order (attempts : Table Uuid Attempt) (edits : Table Uuid Edit) :
    MessageId → Uuid → Nat → String → Prop where
  | claimed {token : Uuid} {attempt : Attempt} {claim : CaptionSyncClaim}
      (found : attempts.get token = some attempt) (phase : attempt.phase = .claimed claim) :
      Order attempts edits claim.message claim.mediaId claim.generation
        (storageCaption claim.metadata)
  | sent {token : Uuid} {edit : Edit} (found : edits.get token = some edit)
      (state : edit.state = .sent) :
      Order attempts edits edit.message edit.mediaId edit.generation edit.caption

/-- The attempt has sent its edit and not returned. -/
def Attempt.Sent (attempt : Attempt) : Prop :=
  attempt.phase = .editing ∨
    ∃ succeeded retryable message, attempt.phase = .completing succeeded retryable message

/-- An order is for the owner of its message, at a generation it has reached,
    with the caption the row asks for if it is the current one. -/
structure Fits (w : World) (message : MessageId) (m : Uuid) (generation : Nat) (caption : String) :
    Prop where
  owner : ∃ shown, w.messages.get message = some shown ∧ shown.owner = some m
  row : ∃ row, w.db.media.get m = some row ∧ generation ≤ row.captionSyncGeneration ∧
    (row.captionSyncState ≠ .notRequired → location row = some message →
      generation = row.captionSyncGeneration → caption = wanted row)

/-- What the holder of a claim does, it does for the claimed generation and
    message. -/
structure Serves (attempts : Table Uuid Attempt) (edits : Table Uuid Edit)
    (messages : Table MessageId Message) (row : Media) (token : Uuid) : Prop where
  begun : ∀ attempt, attempts.get token = some attempt → attempt.phase ≠ .started
  claim : ∀ attempt claim, attempts.get token = some attempt → attempt.phase = .claimed claim →
    location row = some claim.message ∧ claim.generation = row.captionSyncGeneration
  edit : ∀ edit, edits.get token = some edit →
    location row = some edit.message ∧ edit.generation = row.captionSyncGeneration
  shown : ∀ edit shown, edits.get token = some edit → edit.state = .applied →
    messages.get edit.message = some shown → shown.caption = wanted row

structure Converging (w : World) : Prop where
  drawn : ∀ m row, w.db.media.get m = some row → m < w.db.fresh
  captioned : ∀ m row, w.db.media.get m = some row → row.storageState = .ready →
    row.captionSyncState ≠ .notRequired
  placed : ∀ m row, w.db.media.get m = some row → row.captionSyncState ≠ .notRequired →
    ∃ message shown, location row = some message ∧ w.messages.get message = some shown ∧
      shown.owner = some m
  reserved : ∀ m row token, w.db.media.get m = some row → row.storageToken = some token →
    row.storageState = .pending
  tokens : ∀ token attempt, w.attempts.get token = some attempt →
    token < w.db.fresh ∧ attempt.lease.leaseToken = token
  editTokens : ∀ token edit, w.edits.get token = some edit → token < w.db.fresh
  uploadTokens : ∀ token upload, w.uploads.get token = some upload → token < w.db.fresh
  sentFor : ∀ token upload message, w.uploads.get token = some upload →
    upload.message = some message →
    ∃ shown, w.messages.get message = some shown ∧ shown.owner = some upload.mediaId
  orders : ∀ message m generation caption, Order w.attempts w.edits message m generation caption →
    Fits w message m generation caption
  synced : ∀ m row message shown, w.db.media.get m = some row → row.captionSyncState = .synced →
    location row = some message → w.messages.get message = some shown →
    shown.caption = wanted row
  editing : ∀ token attempt, w.attempts.get token = some attempt → attempt.Sent →
    ∃ edit, w.edits.get token = some edit ∧
      ∀ retryable message, attempt.phase = .completing true retryable message →
        edit.state = .applied
  unsent : ∀ token attempt, w.attempts.get token = some attempt →
    (attempt.phase = .started ∨ ∃ claim, attempt.phase = .claimed claim) →
    w.edits.get token = none
  held : ∀ m row token, w.db.media.get m = some row → row.captionSyncState = .syncing →
    row.captionSyncClaimToken = some token →
    token < w.db.fresh ∧ Serves w.attempts w.edits w.messages row token
  pristine : ∀ token upload message row, w.uploads.get token = some upload →
    upload.message = some message → w.db.media.get upload.mediaId = some row →
    row.storageToken = some token →
    w.messages.get message = some ⟨storageCaption upload.metadata, some upload.mediaId⟩ ∧
      ∀ m generation caption, ¬ Order w.attempts w.edits message m generation caption

theorem Serves.of_same {attempts : Table Uuid Attempt} {edits : Table Uuid Edit}
    {messages : Table MessageId Message} {row row' : Media} {token : Uuid}
    (h : Serves attempts edits messages row token) (place : location row' = location row)
    (generation : row'.captionSyncGeneration = row.captionSyncGeneration)
    (fields : wanted row' = wanted row) : Serves attempts edits messages row' token := by
  refine ⟨h.begun, ?_, ?_, ?_⟩
  · rw [place, generation]
    exact h.claim
  · rw [place, generation]
    exact h.edit
  · rw [fields]
    exact h.shown

variable {w : World}

/-- A message is shown by one captioned row. -/
theorem Converging.shown_once (inv : Converging w) {m m' : Uuid} {row : Media}
    {message : MessageId} (found : w.db.media.get m = some row)
    (captioned : row.captionSyncState ≠ .notRequired) (here : location row = some message)
    {shown : Message} (there : w.messages.get message = some shown)
    (owner : shown.owner = some m') : m = m' := by
  obtain ⟨place, known, same, present, owned⟩ := inv.placed m row found captioned
  rw [here] at same
  cases same
  rw [there] at present
  cases present
  rw [owner] at owned
  cases owned
  rfl

/-- Only jobs and clocks moved. -/
theorem Converging.same_media (inv : Converging w) {db : Db} (media : db.media = w.db.media)
    (fresh : w.db.fresh ≤ db.fresh) : Converging { w with db := db } := by
  have grow : ∀ {n : Uuid}, n < w.db.fresh → n < db.fresh := fun below => lt_of_lt_of_le below fresh
  refine ⟨?_, ?_, ?_, ?_, ?_, ?_, ?_, inv.sentFor, ?_, ?_, inv.editing, inv.unsent, ?_, ?_⟩
  · exact fun m row found => grow (inv.drawn m row (media ▸ found))
  · exact fun m row found => inv.captioned m row (media ▸ found)
  · exact fun m row found => inv.placed m row (media ▸ found)
  · exact fun m row token found => inv.reserved m row token (media ▸ found)
  · intro token attempt found
    obtain ⟨below, same⟩ := inv.tokens token attempt found
    exact ⟨grow below, same⟩
  · exact fun token edit found => grow (inv.editTokens token edit found)
  · exact fun token upload found => grow (inv.uploadTokens token upload found)
  · intro message m generation caption order
    obtain ⟨owner, row⟩ := inv.orders message m generation caption order
    exact ⟨owner, by rw [show ({ w with db := db } : World).db.media = w.db.media from media]; exact row⟩
  · exact fun m row message shown found => inv.synced m row message shown (media ▸ found)
  · intro m row token found syncing claim
    obtain ⟨below, rest⟩ := inv.held m row token (media ▸ found) syncing claim
    exact ⟨grow below, rest⟩
  · exact fun token upload message row found sent there =>
      inv.pristine token upload message row found sent (media ▸ there)

end Invariant

section Database
variable {w : World} {f : Footprint} {db : Db}

/-- A captioned row after a transaction of others: it was one, at this message
    and with these fields; it has opened a new generation; or it has stored a
    message that shows its fields. -/
inductive Captioned (f : Footprint) (w : World) (m : Uuid) (row' : Media) (message : MessageId) :
    Prop where
  | kept (row : Media) (before : w.db.media.get m = some row)
      (captioned : row.captionSyncState ≠ .notRequired) (place : location row = some message)
      (generation : row'.captionSyncGeneration = row.captionSyncGeneration)
      (state : row'.captionSyncState = row.captionSyncState)
      (token : row'.captionSyncClaimToken = row.captionSyncClaimToken)
      (same : wanted row' = wanted row)
  | bumped (row : Media) (before : w.db.media.get m = some row)
      (generation : row'.captionSyncGeneration = row.captionSyncGeneration + 1)
      (state : row'.captionSyncState = .pending)
      (source : row.captionSyncState ≠ .notRequired ∧ location row = some message ∨
        ∃ metadata, f.places m message metadata)
  | stored (row : Media) (before : w.db.media.get m = some row)
      (generation : row'.captionSyncGeneration = row.captionSyncGeneration)
      (state : row'.captionSyncState = .synced)
      (source : f.places m message (some (captionMetadataOf row')))

theorem Converging.captioned_of_step (inv : Converging w) (step : CaptionStep f w.db db)
    (calm : ∀ m row, f.recaptions m row → w.db.media.get m = some row →
      row.captionSyncState = .notRequired) {m : Uuid} {row' : Media}
    (found : db.media.get m = some row') (captioned : row'.captionSyncState ≠ .notRequired) :
    ∃ message, location row' = some message ∧ Captioned f w m row' message := by
  cases step.rows m with
  | absent before after => rw [after] at found; cases found
  | created new before after unstored state =>
    rw [after] at found
    cases found
    exact absurd state captioned
  | kept row new before after keeps =>
    rw [after] at found
    cases found
    have was : row.captionSyncState ≠ .notRequired := keeps.state ▸ captioned
    obtain ⟨message, -, place, -⟩ := inv.placed m row before was
    exact ⟨message, keeps.place.trans place, .kept row before was place keeps.generation keeps.state
      keeps.token (congrArg storageCaption keeps.metadata)⟩
  | emptied row new before after _ state =>
    rw [after] at found
    cases found
    exact absurd state captioned
  | recaptioned row new before after covered _ state =>
    rw [after] at found
    cases found
    rw [state] at captioned
    exact absurd (calm m row covered before) captioned
  | bumped row new message before after generation state place source =>
    rw [after] at found
    cases found
    refine ⟨message, place, .bumped row before generation state ?_⟩
    rcases source with ⟨there, ready⟩ | ⟨-, places⟩
    · exact Or.inl ⟨inv.captioned m row before ready, there⟩
    · exact Or.inr places
  | stored row new message before after generation state place source =>
    rw [after] at found
    cases found
    exact ⟨message, place, .stored row before generation state source⟩

/-- Transactions of others keep what is shown, as long as they change the
    captioned fields of no captioned row in silence and store messages of the
    media's own. -/
theorem Converging.caption_step (inv : Converging w) (step : CaptionStep f w.db db)
    (calm : ∀ m row, f.recaptions m row → w.db.media.get m = some row →
      row.captionSyncState = .notRequired)
    (news : ∀ m message metadata, f.places m message metadata →
      ∃ shown, w.messages.get message = some shown ∧ shown.owner = some m ∧
        ∀ fields, metadata = some fields → shown.caption = storageCaption fields ∧
          ∀ m' generation caption, ¬ Order w.attempts w.edits message m' generation caption) :
    Converging { w with db := db } := by
  have grow : ∀ {n : Uuid}, n < w.db.fresh → n < db.fresh := fun below => lt_of_lt_of_le below step.fresh
  refine ⟨?_, ?_, ?_, ?_, ?_, ?_, ?_, inv.sentFor, ?_, ?_, inv.editing, inv.unsent, ?_, ?_⟩
  · intro m row' found
    rcases (step.rows m).back found with ⟨row, before⟩ | drawn
    · exact grow (inv.drawn m row before)
    · exact drawn
  · intro m row' found ready
    cases step.rows m with
    | absent before after => rw [after] at found; cases found
    | created new before after unstored =>
      rw [after] at found
      cases found
      exact absurd ready unstored
    | kept row new before after keeps =>
      rw [after] at found
      cases found
      rw [keeps.state]
      exact inv.captioned m row before (keeps.ready ready)
    | emptied row new before after _ _ stored =>
      rw [after] at found
      cases found
      obtain ⟨was, nowhere⟩ := stored ready
      obtain ⟨message, -, place, -⟩ := inv.placed m row before (inv.captioned m row before was)
      rw [nowhere] at place
      cases place
    | recaptioned row new before after _ _ state _ storage =>
      rw [after] at found
      cases found
      rw [state]
      exact inv.captioned m row before (storage ▸ ready)
    | bumped row new message before after _ state =>
      rw [after] at found
      cases found
      rw [state]
      decide
    | stored row new message before after _ state =>
      rw [after] at found
      cases found
      rw [state]
      decide
  · intro m row' found captioned
    obtain ⟨message, place, how⟩ := inv.captioned_of_step step calm found captioned
    cases how with
    | kept row before was there =>
      obtain ⟨other, shown, same, rest⟩ := inv.placed m row before was
      rw [there] at same
      cases same
      exact ⟨message, shown, place, rest⟩
    | bumped row before generation state source =>
      rcases source with ⟨was, there⟩ | ⟨metadata, places⟩
      · obtain ⟨other, shown, same, rest⟩ := inv.placed m row before was
        rw [there] at same
        cases same
        exact ⟨message, shown, place, rest⟩
      · obtain ⟨shown, there, owner, -⟩ := news m message metadata places
        exact ⟨message, shown, place, there, owner⟩
    | stored row before generation state source =>
      obtain ⟨shown, there, owner, -⟩ := news m message _ source
      exact ⟨message, shown, place, there, owner⟩
  · intro m row' token found held
    rcases step.reserves m row' token found held with ⟨row, before, holds, same⟩ | ⟨-, pending⟩
    · exact same.trans (inv.reserved m row token before holds)
    · exact pending
  · intro token attempt found
    obtain ⟨below, same⟩ := inv.tokens token attempt found
    exact ⟨grow below, same⟩
  · exact fun token edit found => grow (inv.editTokens token edit found)
  · exact fun token upload found => grow (inv.uploadTokens token upload found)
  · intro message m generation caption order
    obtain ⟨owner, row, before, reached, content⟩ := inv.orders message m generation caption order
    obtain ⟨row', found, grows⟩ := (step.rows m).grows before
    refine ⟨owner, row', found, le_trans reached grows, fun captioned place same => ?_⟩
    obtain ⟨other, there, how⟩ := inv.captioned_of_step step calm found captioned
    rw [place] at there
    cases there
    cases how with
    | kept old before' was there' generation' state token fields =>
      rw [before] at before'
      cases before'
      rw [fields]
      exact content was there' (generation' ▸ same)
    | bumped old before' generation' =>
      rw [before] at before'
      cases before'
      omega
    | stored old before' generation' state source =>
      obtain ⟨shown, -, -, fresh⟩ := news m message _ source
      exact absurd order ((fresh _ rfl).2 m generation caption)
  · intro m row' message shown found synced place there
    obtain ⟨other, here, how⟩ := inv.captioned_of_step step calm found (by rw [synced]; decide)
    rw [place] at here
    cases here
    cases how with
    | kept row before was spot generation state token fields =>
      rw [fields]
      exact inv.synced m row message shown before (state ▸ synced) spot there
    | bumped row before generation state =>
      rw [state] at synced
      cases synced
    | stored row before generation state source =>
      obtain ⟨known, here, -, fresh⟩ := news m message _ source
      rw [there] at here
      cases here
      exact (fresh _ rfl).1
  · intro m row' token found syncing claim
    obtain ⟨message, place, how⟩ :=
      inv.captioned_of_step step calm found (by rw [syncing]; decide)
    cases how with
    | kept row before was spot generation state kept fields =>
      obtain ⟨below, serves⟩ := inv.held m row token before (state ▸ syncing) (kept ▸ claim)
      exact ⟨grow below, serves.of_same (place.trans spot.symm) generation fields⟩
    | bumped row before generation state =>
      rw [state] at syncing
      cases syncing
    | stored row before generation state =>
      rw [state] at syncing
      cases syncing
  · intro token upload message row' found sent there held
    rcases step.reserves _ row' token there held with ⟨row, before, holds, -⟩ | ⟨drawn, -⟩
    · exact inv.pristine token upload message row found sent before holds
    · exact absurd (inv.uploadTokens token upload found) (Nat.not_lt.mpr drawn)

/-- The rewrite of the caption columns of one captioned row. -/
theorem Converging.set_row (inv : Converging w) {m : Uuid} {row row' : Media}
    (before : w.db.media.get m = some row) (was : row.captionSyncState ≠ .notRequired)
    (captioned : row'.captionSyncState ≠ .notRequired)
    (generation : row'.captionSyncGeneration = row.captionSyncGeneration)
    (storage : row'.storageState = row.storageState ∧ row'.storageToken = row.storageToken)
    (place : location row' = location row) (fields : wanted row' = wanted row)
    (synced : row'.captionSyncState = .synced → ∀ message shown, location row = some message →
      w.messages.get message = some shown → shown.caption = wanted row)
    (held : row'.captionSyncState = .syncing → ∀ token, row'.captionSyncClaimToken = some token →
      token < w.db.fresh ∧ Serves w.attempts w.edits w.messages row token) :
    Converging { w with db := setMedia w.db m row' } := by
  have rowOf : ∀ m' found, (setMedia w.db m row').media.get m' = some found →
      (m' = m ∧ found = row') ∨ (m' ≠ m ∧ w.db.media.get m' = some found) :=
    fun _ _ => Table.get_set_cases
  have rowTo : ∀ m' found, w.db.media.get m' = some found → ∃ found',
      (setMedia w.db m row').media.get m' = some found' ∧
        found'.captionSyncGeneration = found.captionSyncGeneration := by
    intro m' found there
    by_cases same : m' = m
    · subst same
      rw [before] at there
      cases there
      exact ⟨row', Table.get_set_self _ _ _, generation⟩
    · exact ⟨found, (Table.get_set_ne _ _ same).trans there, rfl⟩
  refine ⟨?_, ?_, ?_, ?_, inv.tokens, inv.editTokens, inv.uploadTokens, inv.sentFor, ?_, ?_,
    inv.editing, inv.unsent, ?_, ?_⟩
  · intro m' found there
    rcases rowOf m' found there with ⟨rfl, -⟩ | ⟨-, old⟩
    · exact inv.drawn m' row before
    · exact inv.drawn m' found old
  · intro m' found there ready
    rcases rowOf m' found there with ⟨-, rfl⟩ | ⟨-, old⟩
    · exact captioned
    · exact inv.captioned m' found old ready
  · intro m' found there is
    rcases rowOf m' found there with ⟨rfl, rfl⟩ | ⟨-, old⟩
    · rw [place]
      exact inv.placed m' row before was
    · exact inv.placed m' found old is
  · intro m' found token there holds
    rcases rowOf m' found there with ⟨rfl, rfl⟩ | ⟨-, old⟩
    · rw [storage.1]
      exact inv.reserved m' row token before (storage.2 ▸ holds)
    · exact inv.reserved m' found token old holds
  · intro message m' g caption order
    obtain ⟨owner, found, there, reached, content⟩ := inv.orders message m' g caption order
    obtain ⟨found', after, same⟩ := rowTo m' found there
    refine ⟨owner, found', after, same ▸ reached, fun is here equal => ?_⟩
    rcases rowOf m' found' after with ⟨rfl, rfl⟩ | ⟨-, old⟩
    · rw [before] at there
      cases there
      rw [fields]
      exact content was (place ▸ here) (generation ▸ equal)
    · rw [there] at old
      cases old
      exact content is here equal
  · intro m' found message shown there is here known
    rcases rowOf m' found there with ⟨rfl, rfl⟩ | ⟨-, old⟩
    · rw [fields]
      exact synced is message shown (place ▸ here) known
    · exact inv.synced m' found message shown old is here known
  · intro m' found token there is claim
    rcases rowOf m' found there with ⟨rfl, rfl⟩ | ⟨-, old⟩
    · obtain ⟨below, serves⟩ := held is token claim
      exact ⟨below, serves.of_same place generation fields⟩
    · exact inv.held m' found token old is claim
  · intro token upload message found uploaded sent there holds
    rcases rowOf _ found there with ⟨same, rfl⟩ | ⟨-, old⟩
    · exact inv.pristine token upload message row uploaded sent (same ▸ before) (storage.2 ▸ holds)
    · exact inv.pristine token upload message found uploaded sent old holds

end Database

section Orders
variable {w : World}

/-- An order for what a pending row asks for now. -/
def Due (db : Db) (message : MessageId) (m : Uuid) (generation : Nat) (caption : String) : Prop :=
  ∃ row, db.media.get m = some row ∧ row.captionSyncState = .pending ∧ row.storageState = .ready ∧
    generation = row.captionSyncGeneration ∧ location row = some message ∧ caption = wanted row

/-- Attempts and edits move while the rows and the messages stay. -/
theorem Converging.rearrange (inv : Converging w) {attempts : Table Uuid Attempt}
    {edits : Table Uuid Edit}
    (orders : ∀ message m generation caption, Order attempts edits message m generation caption →
      Order w.attempts w.edits message m generation caption ∨ Due w.db message m generation caption)
    (tokens : ∀ token attempt, attempts.get token = some attempt →
      token < w.db.fresh ∧ attempt.lease.leaseToken = token)
    (editTokens : ∀ token edit, edits.get token = some edit → token < w.db.fresh)
    (editing : ∀ token attempt, attempts.get token = some attempt → attempt.Sent →
      ∃ edit, edits.get token = some edit ∧
        ∀ retryable message, attempt.phase = .completing true retryable message →
          edit.state = .applied)
    (unsent : ∀ token attempt, attempts.get token = some attempt →
      (attempt.phase = .started ∨ ∃ claim, attempt.phase = .claimed claim) →
      edits.get token = none)
    (held : ∀ m row token, w.db.media.get m = some row → row.captionSyncState = .syncing →
      row.captionSyncClaimToken = some token → Serves attempts edits w.messages row token) :
    Converging { w with attempts := attempts, edits := edits } := by
  refine ⟨inv.drawn, inv.captioned, inv.placed, inv.reserved, tokens, editTokens, inv.uploadTokens,
    inv.sentFor, ?_, inv.synced, editing, unsent, ?_, ?_⟩
  · intro message m generation caption order
    rcases orders message m generation caption order with old | due
    · obtain ⟨owner, row⟩ := inv.orders message m generation caption old
      exact ⟨owner, row⟩
    · obtain ⟨row, found, pending, -, rfl, place, rfl⟩ := due
      obtain ⟨other, shown, here, there, owner⟩ :=
        inv.placed m row found (by rw [pending]; decide)
      rw [place] at here
      cases here
      refine ⟨⟨shown, there, owner⟩, row, found, le_rfl, fun _ _ _ => rfl⟩
  · intro m row token found syncing claim
    obtain ⟨below, -⟩ := inv.held m row token found syncing claim
    exact ⟨below, held m row token found syncing claim⟩
  · intro token upload message row found sent there reserves
    obtain ⟨shows, fresh⟩ := inv.pristine token upload message row found sent there reserves
    refine ⟨shows, fun m generation caption order => ?_⟩
    rcases orders message m generation caption order with old | due
    · exact fresh m generation caption old
    · -- The message of an open upload belongs to a row that is not ready yet.
      obtain ⟨row', found', pending, ready, -, place, -⟩ := due
      have same := inv.shown_once found' (by rw [pending]; decide) place shows rfl
      subst same
      rw [there] at found'
      cases found'
      rw [inv.reserved _ row token there reserves] at ready
      cases ready

/-- The orders after one attempt moved. -/
theorem Order.of_set {attempts : Table Uuid Attempt} {edits : Table Uuid Edit} {token : Uuid}
    {attempt : Attempt} {message : MessageId} {m : Uuid} {generation : Nat} {caption : String}
    (h : Order (attempts.set token attempt) edits message m generation caption) :
    Order attempts edits message m generation caption ∨
      ∃ claim, attempt.phase = .claimed claim ∧ message = claim.message ∧ m = claim.mediaId ∧
        generation = claim.generation ∧ caption = storageCaption claim.metadata := by
  cases h with
  | @claimed other found claim present phase =>
    by_cases same : other = token
    · subst same
      rw [Table.get_set_self] at present
      cases present
      exact Or.inr ⟨claim, phase, rfl, rfl, rfl, rfl⟩
    · rw [Table.get_set_ne _ _ same] at present
      exact Or.inl (.claimed present phase)
  | sent present state => exact Or.inl (.sent present state)

/-- One attempt moves. -/
theorem Converging.set_attempt (inv : Converging w) {token : Uuid} {attempt : Attempt}
    (drawn : token < w.db.fresh) (named : attempt.lease.leaseToken = token)
    (claimed : ∀ claim, attempt.phase = .claimed claim →
      Due w.db claim.message claim.mediaId claim.generation (storageCaption claim.metadata))
    (early : (attempt.phase = .started ∨ ∃ claim, attempt.phase = .claimed claim) →
      w.edits.get token = none ∧
        ∀ m row, w.db.media.get m = some row → row.captionSyncState = .syncing →
          row.captionSyncClaimToken ≠ some token)
    (sent : attempt.Sent → ∃ edit, w.edits.get token = some edit ∧
      ∀ retryable message, attempt.phase = .completing true retryable message →
        edit.state = .applied) :
    Converging { w with attempts := w.attempts.set token attempt } := by
  refine inv.rearrange ?_ ?_ inv.editTokens ?_ ?_ ?_
  · intro message m generation caption order
    rcases order.of_set with old | ⟨claim, phase, rfl, rfl, rfl, rfl⟩
    · exact Or.inl old
    · exact Or.inr (claimed claim phase)
  · intro token' found there
    rcases Table.get_set_cases there with ⟨rfl, rfl⟩ | ⟨-, old⟩
    · exact ⟨drawn, named⟩
    · exact inv.tokens token' found old
  · intro token' found there is
    rcases Table.get_set_cases there with ⟨rfl, rfl⟩ | ⟨-, old⟩
    · exact sent is
    · exact inv.editing token' found old is
  · intro token' found there is
    rcases Table.get_set_cases there with ⟨rfl, rfl⟩ | ⟨-, old⟩
    · exact (early is).1
    · exact inv.unsent token' found old is
  · intro m row token' found syncing holds
    obtain ⟨-, serves⟩ := inv.held m row token' found syncing holds
    refine ⟨fun other there => ?_, fun other claim there phase => ?_, serves.edit, serves.shown⟩
    · rcases Table.get_set_cases there with ⟨rfl, rfl⟩ | ⟨-, old⟩
      · exact fun started => absurd holds ((early (Or.inl started)).2 m row found syncing)
      · exact serves.begun other old
    · rcases Table.get_set_cases there with ⟨rfl, rfl⟩ | ⟨-, old⟩
      · exact absurd holds ((early (Or.inr ⟨claim, phase⟩)).2 m row found syncing)
      · exact serves.claim other claim old phase

/-- An attempt that has sent its edit, or never will. -/
theorem Converging.advance (inv : Converging w) {token : Uuid} {attempt : Attempt}
    (found : w.attempts.get token = some attempt) {phase : Phase}
    (late : phase ≠ .started ∧ ∀ claim, phase ≠ .claimed claim)
    (sent : ({ attempt with phase := phase } : Attempt).Sent →
      ∃ edit, w.edits.get token = some edit ∧
        ∀ retryable message, phase = .completing true retryable message → edit.state = .applied) :
    Converging { w with attempts := w.attempts.set token { attempt with phase := phase } } := by
  obtain ⟨drawn, named⟩ := inv.tokens token attempt found
  refine inv.set_attempt drawn named ?_ ?_ sent
  · exact fun claim is => absurd is (late.2 claim)
  · rintro (started | ⟨claim, is⟩)
    · exact absurd started late.1
    · exact absurd is (late.2 claim)

theorem Converging.returned (inv : Converging w) {token : Uuid} {attempt : Attempt}
    (found : w.attempts.get token = some attempt) (result : Except HandlerFailure Unit) :
    Converging
      { w with attempts := w.attempts.set token { attempt with phase := .returned result } } := by
  refine inv.advance found ⟨nofun, fun _ => nofun⟩ ?_
  rintro (editing | ⟨_, _, _, completing⟩)
  · cases editing
  · cases completing

theorem Converging.retired (inv : Converging w) (token : Uuid) :
    Converging { w with attempts := w.attempts.remove token } := by
  have attemptOf : ∀ token' found, (w.attempts.remove token).get token' = some found →
      w.attempts.get token' = some found := by
    intro token' found there
    rw [Table.get_remove] at there
    split at there
    · cases there
    · exact there
  refine inv.rearrange ?_ ?_ inv.editTokens ?_ ?_ ?_
  · intro message m generation caption order
    cases order with
    | claimed found phase => exact Or.inl (.claimed (attemptOf _ _ found) phase)
    | sent found state => exact Or.inl (.sent found state)
  · exact fun token' found there => inv.tokens token' found (attemptOf token' found there)
  · exact fun token' found there => inv.editing token' found (attemptOf token' found there)
  · exact fun token' found there => inv.unsent token' found (attemptOf token' found there)
  · intro m row token' found syncing holds
    obtain ⟨-, serves⟩ := inv.held m row token' found syncing holds
    exact ⟨fun other there => serves.begun other (attemptOf token' other there),
      fun other claim there => serves.claim other claim (attemptOf token' other there), serves.edit,
      serves.shown⟩

/-- The claimed edit is sent: what was claimed is now sent, nothing else. -/
theorem Converging.send (inv : Converging w) {token : Uuid} {attempt : Attempt}
    {claim : CaptionSyncClaim} (found : w.attempts.get token = some attempt)
    (claimed : attempt.phase = .claimed claim) :
    Converging { w with
      attempts := w.attempts.set token { attempt with phase := .editing }
      edits := w.edits.set token ⟨claim.mediaId, claim.generation, claim.message,
        storageCaption claim.metadata, .sent⟩ } := by
  obtain ⟨drawn, named⟩ := inv.tokens token attempt found
  refine inv.rearrange ?_ ?_ ?_ ?_ ?_ ?_
  · intro message m generation caption order
    cases order with
    | @claimed token' other claim' there phase =>
      rcases Table.get_set_cases there with ⟨rfl, rfl⟩ | ⟨-, old⟩
      · cases phase
      · exact Or.inl (.claimed old phase)
    | @sent token' other there state =>
      rcases Table.get_set_cases there with ⟨rfl, rfl⟩ | ⟨-, old⟩
      · exact Or.inl (.claimed found claimed)
      · exact Or.inl (.sent old state)
  · intro token' other there
    rcases Table.get_set_cases there with ⟨rfl, rfl⟩ | ⟨-, old⟩
    · exact ⟨drawn, named⟩
    · exact inv.tokens token' other old
  · intro token' other there
    rcases Table.get_set_cases there with ⟨rfl, -⟩ | ⟨-, old⟩
    · exact drawn
    · exact inv.editTokens token' other old
  · intro token' other there sent
    rcases Table.get_set_cases there with ⟨rfl, rfl⟩ | ⟨ne, old⟩
    · exact ⟨_, Table.get_set_self _ _ _, nofun⟩
    · obtain ⟨edit, present, rest⟩ := inv.editing token' other old sent
      exact ⟨edit, (Table.get_set_ne _ _ ne).trans present, rest⟩
  · intro token' other there early
    rcases Table.get_set_cases there with ⟨rfl, rfl⟩ | ⟨ne, old⟩
    · rcases early with started | ⟨_, again⟩
      · cases started
      · cases again
    · exact (Table.get_set_ne _ _ ne).trans (inv.unsent token' other old early)
  · intro m row token' there syncing holds
    obtain ⟨-, serves⟩ := inv.held m row token' there syncing holds
    refine ⟨fun other present => ?_, fun other claim' present phase => ?_, fun edit present => ?_,
      fun edit shown present applied => ?_⟩
    · rcases Table.get_set_cases present with ⟨rfl, rfl⟩ | ⟨-, old⟩
      · exact nofun
      · exact serves.begun other old
    · rcases Table.get_set_cases present with ⟨rfl, rfl⟩ | ⟨-, old⟩
      · cases phase
      · exact serves.claim other claim' old phase
    · rcases Table.get_set_cases present with ⟨rfl, rfl⟩ | ⟨-, old⟩
      · exact serves.claim attempt claim found claimed
      · exact serves.edit edit old
    · rcases Table.get_set_cases present with ⟨rfl, rfl⟩ | ⟨-, old⟩
      · cases applied
      · exact serves.shown edit shown old applied

/-- A sent edit is settled: lost, or the message shows it. -/
theorem Converging.settle_edit (inv : Converging w) {token : Uuid} {edit : Edit} {state : EditState}
    (found : w.edits.get token = some edit) (was : edit.state = .sent) (now : state ≠ .sent)
    (shows : state = .applied → ∀ shown, w.messages.get edit.message = some shown →
      shown.caption = edit.caption) :
    Converging { w with edits := w.edits.set token { edit with state := state } } := by
  refine inv.rearrange ?_ inv.tokens ?_ ?_ ?_ ?_
  · intro message m generation caption order
    cases order with
    | claimed there phase => exact Or.inl (.claimed there phase)
    | @sent token' other there sent =>
      rcases Table.get_set_cases there with ⟨rfl, rfl⟩ | ⟨-, old⟩
      · exact absurd sent now
      · exact Or.inl (.sent old sent)
  · intro token' other there
    rcases Table.get_set_cases there with ⟨rfl, -⟩ | ⟨-, old⟩
    · exact inv.editTokens token' edit found
    · exact inv.editTokens token' other old
  · intro token' attempt there sent
    obtain ⟨other, present, applied⟩ := inv.editing token' attempt there sent
    by_cases same : token' = token
    · subst same
      rw [found] at present
      cases present
      refine ⟨_, Table.get_set_self _ _ _, fun retryable message phase => ?_⟩
      have contradiction := applied retryable message phase
      rw [was] at contradiction
      cases contradiction
    · exact ⟨other, (Table.get_set_ne _ _ same).trans present, applied⟩
  · intro token' attempt there early
    have absent := inv.unsent token' attempt there early
    by_cases same : token' = token
    · subst same
      rw [found] at absent
      cases absent
    · exact (Table.get_set_ne _ _ same).trans absent
  · intro m row token' there syncing holds
    obtain ⟨-, serves⟩ := inv.held m row token' there syncing holds
    refine ⟨serves.begun, serves.claim, fun other present => ?_, fun other shown present applied => ?_⟩
    · rcases Table.get_set_cases present with ⟨rfl, rfl⟩ | ⟨-, old⟩
      · exact serves.edit edit found
      · exact serves.edit other old
    · rcases Table.get_set_cases present with ⟨rfl, rfl⟩ | ⟨-, old⟩
      · intro known
        obtain ⟨place, current⟩ := serves.edit edit found
        have order : Order w.attempts w.edits edit.message edit.mediaId edit.generation edit.caption :=
          .sent found was
        obtain ⟨⟨shown', known', owner⟩, own, present', -, content⟩ := inv.orders _ _ _ _ order
        rw [show w.messages.get edit.message = some shown from known] at known'
        cases known'
        have captioned : row.captionSyncState ≠ .notRequired := by rw [syncing]; decide
        have mine := inv.shown_once there captioned place known owner
        subst mine
        rw [there] at present'
        cases present'
        rw [shows applied shown known]
        exact content captioned place current
      · exact serves.shown other shown old applied

end Orders

section Messages
variable {w : World} {message : MessageId}

/-- A message no media owns gives way to another. -/
theorem Converging.set_unowned (inv : Converging w) {new : Message}
    (unowned : ∀ shown, w.messages.get message = some shown → shown.owner = none ∨ new = shown) :
    Converging { w with messages := w.messages.set message new } := by
  have other : ∀ {place shown m}, w.messages.get place = some shown → shown.owner = some m →
      (w.messages.set message new).get place = some shown := by
    intro place shown m there owner
    by_cases same : place = message
    · subst same
      rcases unowned shown there with free | rfl
      · rw [free] at owner
        cases owner
      · exact Table.get_set_self _ _ _
    · exact (Table.get_set_ne _ _ same).trans there
  have elsewhere : ∀ {m row place shown}, w.db.media.get m = some row →
      row.captionSyncState ≠ .notRequired → location row = some place →
      (w.messages.set message new).get place = some shown → w.messages.get place = some shown := by
    intro m row place shown found captioned here there
    obtain ⟨place', shown', here', there', owner⟩ := inv.placed m row found captioned
    rw [here] at here'
    cases here'
    rw [other there' owner] at there
    cases there
    exact there'
  refine ⟨inv.drawn, inv.captioned, ?_, inv.reserved, inv.tokens, inv.editTokens, inv.uploadTokens,
    ?_, ?_, ?_, inv.editing, inv.unsent, ?_, ?_⟩
  · intro m row found captioned
    obtain ⟨place, shown, here, there, owner⟩ := inv.placed m row found captioned
    exact ⟨place, shown, here, other there owner, owner⟩
  · intro token upload place found sent
    obtain ⟨shown, there, owner⟩ := inv.sentFor token upload place found sent
    exact ⟨shown, other there owner, owner⟩
  · intro place m generation caption order
    obtain ⟨⟨shown, there, owner⟩, row⟩ := inv.orders place m generation caption order
    exact ⟨⟨shown, other there owner, owner⟩, row⟩
  · intro m row place shown found synced here there
    exact inv.synced m row place shown found synced here
      (elsewhere found (by rw [synced]; decide) here there)
  · intro m row token found syncing holds
    obtain ⟨below, serves⟩ := inv.held m row token found syncing holds
    refine ⟨below, serves.begun, serves.claim, serves.edit, fun edit shown present applied there => ?_⟩
    exact serves.shown edit shown present applied
      (elsewhere found (by rw [syncing]; decide) (serves.edit edit present).1 there)
  · intro token upload place row found sent there holds
    obtain ⟨shown, fresh⟩ := inv.pristine token upload place row found sent there holds
    exact ⟨other shown rfl, fresh⟩

/-- The newest edit of the row has taken effect. -/
def Settled (edits : Table Uuid Edit) (row : Media) : Prop :=
  row.captionSyncState = .synced ∨ row.captionSyncState = .syncing ∧ ∃ token edit,
    row.captionSyncClaimToken = some token ∧ edits.get token = some edit ∧ edit.state = .applied

/-- A sent edit shows, unless it is an old one and the newest has been shown. -/
theorem Converging.show_edit (inv : Converging w) {token : Uuid} {edit : Edit} {shown : Message}
    (found : w.edits.get token = some edit) (sent : edit.state = .sent)
    (there : w.messages.get edit.message = some shown)
    (timely : ∀ row, w.db.media.get edit.mediaId = some row → location row = some edit.message →
      edit.generation < row.captionSyncGeneration → ¬ Settled w.edits row) :
    Converging { w with
      messages := w.messages.set edit.message { shown with caption := edit.caption } } := by
  have order : Order w.attempts w.edits edit.message edit.mediaId edit.generation edit.caption :=
    .sent found sent
  obtain ⟨⟨known, there', owner⟩, own, present, reached, content⟩ := inv.orders _ _ _ _ order
  rw [there] at there'
  cases there'
  have keeps : ∀ {place old}, w.messages.get place = some old → ∃ new,
      (w.messages.set edit.message { shown with caption := edit.caption }).get place = some new ∧
        new.owner = old.owner := by
    intro place old before
    by_cases same : place = edit.message
    · subst same
      rw [there] at before
      cases before
      exact ⟨_, Table.get_set_self _ _ _, rfl⟩
    · exact ⟨old, (Table.get_set_ne _ _ same).trans before, rfl⟩
  -- A row whose newest edit has been shown gets its own caption again.
  have fits : ∀ {m row}, w.db.media.get m = some row → row.captionSyncState ≠ .notRequired →
      location row = some edit.message → Settled w.edits row → edit.caption = wanted row := by
    intro m row here captioned spot settled
    have mine := inv.shown_once here captioned spot there owner
    subst mine
    rw [here] at present
    cases present
    refine content captioned spot (le_antisymm reached (Nat.le_of_not_lt fun late => ?_))
    exact timely own here spot late settled
  refine ⟨inv.drawn, inv.captioned, ?_, inv.reserved, inv.tokens, inv.editTokens, inv.uploadTokens,
    ?_, ?_, ?_, inv.editing, inv.unsent, ?_, ?_⟩
  · intro m row here captioned
    obtain ⟨place, old, spot, before, owned⟩ := inv.placed m row here captioned
    obtain ⟨new, after, same⟩ := keeps before
    exact ⟨place, new, spot, after, same.trans owned⟩
  · intro token' upload place uploaded posted
    obtain ⟨old, before, owned⟩ := inv.sentFor token' upload place uploaded posted
    obtain ⟨new, after, same⟩ := keeps before
    exact ⟨new, after, same.trans owned⟩
  · intro place m generation caption order'
    obtain ⟨⟨old, before, owned⟩, row⟩ := inv.orders place m generation caption order'
    obtain ⟨new, after, same⟩ := keeps before
    exact ⟨⟨new, after, same.trans owned⟩, row⟩
  · intro m row place new here synced spot after
    rcases Table.get_set_cases after with ⟨rfl, rfl⟩ | ⟨-, before⟩
    · exact fits here (by rw [synced]; decide) spot (Or.inl synced)
    · exact inv.synced m row place new here synced spot before
  · intro m row token' here syncing holds
    obtain ⟨below, serves⟩ := inv.held m row token' here syncing holds
    refine ⟨below, serves.begun, serves.claim, serves.edit, fun other new taken applied after => ?_⟩
    rcases Table.get_set_cases after with ⟨same, rfl⟩ | ⟨-, before⟩
    · refine fits here (by rw [syncing]; decide) (same ▸ (serves.edit other taken).1) (Or.inr ?_)
      exact ⟨syncing, token', other, holds, taken, applied⟩
    · exact serves.shown other new taken applied before
  · intro token' upload place row uploaded posted here holds
    obtain ⟨before, fresh⟩ := inv.pristine token' upload place row uploaded posted here holds
    refine ⟨?_, fresh⟩
    rw [Table.get_set_ne]
    · exact before
    · rintro rfl
      exact fresh _ _ _ order

/-- An upload is reserved, or is sent as a message nothing else is about. -/
theorem Converging.set_upload (inv : Converging w) {token : Uuid} {upload : Upload}
    (drawn : token < w.db.fresh)
    (sent : ∀ place, upload.message = some place →
      w.messages.get place = some ⟨storageCaption upload.metadata, some upload.mediaId⟩ ∧
        ∀ m generation caption, ¬ Order w.attempts w.edits place m generation caption) :
    Converging { w with uploads := w.uploads.set token upload } := by
  refine ⟨inv.drawn, inv.captioned, inv.placed, inv.reserved, inv.tokens, inv.editTokens, ?_, ?_, ?_,
    inv.synced, inv.editing, inv.unsent, inv.held, ?_⟩
  · intro token' other there
    rcases Table.get_set_cases there with ⟨rfl, -⟩ | ⟨-, old⟩
    · exact drawn
    · exact inv.uploadTokens token' other old
  · intro token' other place there posted
    rcases Table.get_set_cases there with ⟨-, rfl⟩ | ⟨-, old⟩
    · exact ⟨_, (sent place posted).1, rfl⟩
    · exact inv.sentFor token' other place old posted
  · intro place m generation caption order
    obtain ⟨owner, row⟩ := inv.orders place m generation caption order
    exact ⟨owner, row⟩
  · intro token' other place row there posted present holds
    rcases Table.get_set_cases there with ⟨-, rfl⟩ | ⟨-, old⟩
    · exact sent place posted
    · exact inv.pristine token' other place row old posted present holds

end Messages

section Calls
variable {w : World} {token : Uuid} {attempt : Attempt} {db : Db} {phase : Phase}

/-- A claim: the attempt holds the order before the row names its token. -/
theorem Converging.claim_caption (inv : Converging w) (found : w.attempts.get token = some attempt)
    (started : attempt.phase = .started) {row : Media} {message : MessageId}
    (there : w.db.media.get attempt.mediaId = some row) (due : Claimable row attempt.generation)
    (place : location row = some message)
    (next : phase = .claimed ⟨attempt.mediaId, attempt.generation, token, message.chatId,
        message.messageId, captionMetadataOf row⟩ ∨ ∃ result, phase = .returned result) :
    Converging { w with
      db := setMedia w.db attempt.mediaId (claimedCaption w.db.now token row)
      attempts := w.attempts.set token { attempt with phase := phase } } := by
  obtain ⟨same, present, pending⟩ := due
  obtain ⟨drawn, named⟩ := inv.tokens token attempt found
  have ready := (hasStorageMessage_iff.mp present).1
  have unsent := inv.unsent token attempt found (Or.inl started)
  have advanced : Converging
      { w with attempts := w.attempts.set token { attempt with phase := phase } } := by
    rcases next with claimed | ⟨result, returned⟩
    · subst claimed
      refine inv.set_attempt drawn named ?_ ?_ ?_
      · rintro claim ⟨⟩
        exact ⟨row, there, pending, ready, same.symm, place, rfl⟩
      · intro _
        refine ⟨unsent, fun m other here syncing holds => ?_⟩
        exact (inv.held m other token here syncing holds).2.begun attempt found started
      · rintro (editing | ⟨_, _, _, completing⟩)
        · cases editing
        · cases completing
    · subst returned
      exact inv.returned found result
  refine advanced.set_row there ?_ ?_ rfl ⟨rfl, rfl⟩ rfl rfl (fun is => by cases is) ?_
  · rw [pending]
    decide
  · exact fun is => by cases is
  · rintro - token' ⟨⟩
    refine ⟨drawn, fun other now => ?_, fun other claim now is => ?_, fun edit sent => ?_,
      fun edit shown sent => ?_⟩
    · rw [show Table.get (w.attempts.set token { attempt with phase := phase }) token = _ from
        Table.get_set_self _ _ _] at now
      cases now
      rcases next with rfl | ⟨result, rfl⟩ <;> exact nofun
    · rw [show Table.get (w.attempts.set token { attempt with phase := phase }) token = _ from
        Table.get_set_self _ _ _] at now
      cases now
      rcases next with rfl | ⟨result, rfl⟩
      · cases is
        exact ⟨place, same.symm⟩
      · cases is
    · rw [unsent] at sent
      cases sent
    · rw [unsent] at sent
      cases sent

theorem Converging.call_begin (inv : Converging w) (found : w.attempts.get token = some attempt)
    (started : attempt.phase = .started) {outcome : CallOutcome}
    (h : outcome.conclude w.db .database
      (beginCaptionSync w.db attempt.mediaId attempt.generation attempt.lease.leaseToken) afterBegin =
      (db, phase)) :
    Converging
      { w with db := db, attempts := w.attempts.set token { attempt with phase := phase } } := by
  rcases CallOutcome.conclude_cases outcome w.db .database (beginCaptionSync w.db attempt.mediaId
    attempt.generation attempt.lease.leaseToken) afterBegin with
    ⟨error, same⟩ | ⟨after, answer, begun, same⟩
  · rw [same] at h
    cases h
    exact inv.returned found _
  · rw [(inv.tokens token attempt found).2] at begun
    obtain ⟨row, there, ⟨-, rfl, rfl⟩ | ⟨due, message, place, rfl, rfl⟩⟩ := beginCaptionSync_ok begun
    · rcases same with same | same <;> rw [same] at h <;> cases h <;> exact inv.returned found _
    · rcases same with same | same <;> rw [same] at h <;> cases h
      · exact inv.claim_caption found started there due place (Or.inl rfl)
      · exact inv.claim_caption found started there due place (Or.inr ⟨_, rfl⟩)

theorem Converging.call_complete (inv : Converging w) (found : w.attempts.get token = some attempt)
    {succeeded retryable : Bool} {message : String}
    (completing : attempt.phase = .completing succeeded retryable message) {outcome : CallOutcome}
    {errorMessage : Option String}
    (h : outcome.conclude w.db .database
      (completeCaptionSync w.db attempt.mediaId attempt.generation attempt.lease.leaseToken succeeded
        retryable errorMessage) (afterComplete succeeded retryable message) = (db, phase)) :
    Converging
      { w with db := db, attempts := w.attempts.set token { attempt with phase := phase } } := by
  obtain ⟨result, rfl⟩ : ∃ result, phase = .returned result := by
    rcases CallOutcome.conclude_cases outcome w.db .database (completeCaptionSync w.db
      attempt.mediaId attempt.generation attempt.lease.leaseToken succeeded retryable errorMessage)
      (afterComplete succeeded retryable message) with ⟨error, same⟩ | ⟨_, _, _, same | same⟩ <;>
      rw [same] at h <;> cases h <;> exact ⟨_, rfl⟩
  have returned := inv.returned found result
  rcases CallOutcome.conclude_cases outcome w.db .database (completeCaptionSync w.db attempt.mediaId
    attempt.generation attempt.lease.leaseToken succeeded retryable errorMessage)
    (afterComplete succeeded retryable message) with ⟨error, same⟩ | ⟨after, answer, reported, same⟩
  · rw [same] at h
    cases h
    exact returned
  · obtain rfl : db = after := by
      rcases same with same | same <;> rw [same] at h <;> cases h <;> rfl
    rw [(inv.tokens token attempt found).2] at reported
    obtain ⟨row, there, ⟨-, rfl⟩ | ⟨other, present, rfl⟩ | ⟨held, rfl⟩⟩ :=
      completeCaptionSync_ok reported
    · exact returned
    · have ready := (hasStorageMessage_iff.mp present).1
      have reopened : Converging { w with
          db := setMedia w.db attempt.mediaId (reopenedCaption w.db.now row)
          attempts := w.attempts.set token { attempt with phase := .returned result } } :=
        returned.set_row there (inv.captioned _ row there ready) (fun is => by cases is) rfl ⟨rfl, rfl⟩
          rfl rfl (fun is => by cases is) (fun is => by cases is)
      have enqueued : Enqueues (fun _ => True)
          (setMedia w.db attempt.mediaId (reopenedCaption w.db.now row))
          (enqueueCaptionSyncReapplyJob (setMedia w.db attempt.mediaId (reopenedCaption w.db.now row))
            attempt.mediaId row.captionSyncGeneration attempt.generation token) := .of_enqueue trivial
      exact reopened.same_media enqueued.media enqueued.fresh
    · obtain ⟨-, present, syncing, claim⟩ := held
      have captioned : row.captionSyncState ≠ .notRequired := by rw [syncing]; decide
      refine returned.set_row there captioned ?_ rfl ⟨rfl, rfl⟩ rfl rfl ?_ ?_
      · simp only [reportedCaption]
        split
        · decide
        · split <;> decide
      · -- Only an edit that took effect is reported as a success.
        intro is place shown here known
        have success : succeeded = true := by
          by_contra failure
          simp only [reportedCaption, if_neg failure] at is
          split at is <;> cases is
        subst success
        obtain ⟨edit, sent, applied⟩ :=
          inv.editing token attempt found (Or.inr ⟨_, _, _, completing⟩)
        obtain ⟨-, serves⟩ := inv.held _ row token there syncing claim
        have spot := (serves.edit edit sent).1
        rw [here] at spot
        cases spot
        exact serves.shown edit shown sent (applied _ _ completing) known
      · intro is
        simp only [reportedCaption] at is
        split at is
        · cases is
        · split at is <;> cases is

/-- A job goes back or ends, and a caption claimed for it with it. -/
theorem Converging.release (inv : Converging w) (m : Uuid) (generation : Nat) (terminal : Bool)
    (error : String) (jobs : Jobs) :
    Converging { w with
      db := { releaseCaption w.db m generation terminal error with jobs := jobs } } := by
  have released : Converging { w with db := releaseCaption w.db m generation terminal error } := by
    unfold releaseCaption
    split
    · exact inv
    · rename_i row found
      unfold releasedCaption
      split
      · rename_i claimed
        refine inv.set_row found ?_ ?_ rfl ⟨rfl, rfl⟩ rfl rfl ?_ ?_
        · rw [claimed.2]
          decide
        · cases terminal <;> exact nofun
        · cases terminal <;> exact nofun
        · cases terminal <;> exact nofun
      · refine inv.caption_step (f := .none) ?_ (fun _ _ covered => covered.elim)
          (fun _ _ _ places => places.elim)
        exact .of_untouched (.of_setMedia found (.refl row) (Or.inr ⟨rfl, rfl⟩))
  exact released.same_media rfl le_rfl

end Calls

section Steps
variable {w w' : World}

/-- A step changes the captioned fields of a captioned row and opens no
    generation for it. -/
def RecaptionsSilently (w : World) (act : Action) : Prop :=
  ∃ m row, w.db.media.get m = some row ∧ row.captionSyncState ≠ .notRequired ∧
    match act with
    | .resolveMedia ingest | .identifyVideo ingest _ _ _ => (sourceOnly w.db ingest).recaptions m row
    | .acceptDuplicate id mediaId => (acceptance w.db id mediaId).recaptions m row
    | _ => False

/-- An old edit takes effect after the newest one has. -/
def LandsLate (w : World) (act : Action) : Prop :=
  ∃ token edit row, act = .applyEdit token ∧ w.edits.get token = some edit ∧ edit.state = .sent ∧
    w.db.media.get edit.mediaId = some row ∧ location row = some edit.message ∧
    edit.generation < row.captionSyncGeneration ∧ Settled w.edits row

/-- The operator attaches a message of another media. -/
def AttachesForeign (w : World) (act : Action) : Prop :=
  ∃ mediaId generation message fileId uniqueId shown other,
    act = .attachUpload mediaId generation message fileId uniqueId ∧
    w.messages.get message = some shown ∧ shown.owner = some other ∧ other ≠ mediaId

theorem Converging.unused (inv : Converging w) : w.db.media.get w.db.fresh = none := by
  cases found : w.db.media.get w.db.fresh with
  | none => rfl
  | some row => exact absurd (inv.drawn _ row found) (Nat.lt_irrefl _)

/-- A transaction that neither stores a message nor changes captioned fields in
    silence. -/
theorem Converging.quiet_step (inv : Converging w) {db : Db} (step : CaptionStep .none w.db db) :
    Converging { w with db := db } :=
  inv.caption_step step (fun _ _ covered => covered.elim) (fun _ _ _ places => places.elim)

theorem Converging.untouched (inv : Converging w) {db : Db} (h : Untouched w.db db) :
    Converging { w with db := db } :=
  inv.quiet_step (untouched_step h)

theorem Converging.complete_upload (inv : Converging w) {ownerToken mediaId : Uuid}
    {metadata : StorageCaptionMetadata} {message : MessageId}
    (uploaded : w.uploads.get ownerToken = some ⟨mediaId, metadata, some message⟩)
    (fileId uniqueId : Option String) :
    Converging { w with
      db := committed w.db (completeStorageUpload w.db mediaId ownerToken
        ⟨message.chatId, message.messageId, fileId, uniqueId, some metadata⟩) } := by
  rcases committed_cases w.db (completeStorageUpload w.db mediaId ownerToken
    ⟨message.chatId, message.messageId, fileId, uniqueId, some metadata⟩) with same | ⟨answer, ok⟩
  · rw [same]
    exact inv
  · refine inv.caption_step (completeStorageUpload_step ok) (fun _ _ covered => covered.elim) ?_
    rintro m place fields ⟨rfl, rfl, rfl⟩
    simp only [completeStorageUpload, bind_ok, expect_ok, Option.filter_eq_some_iff] at ok
    obtain ⟨-, -, row, ⟨owned, -⟩, -⟩ := ok
    obtain ⟨found, holds⟩ := Option.filter_eq_some_iff.mp owned
    obtain ⟨shown, fresh⟩ := inv.pristine ownerToken _ message row uploaded rfl found
      (by simpa using holds)
    refine ⟨_, shown, rfl, ?_⟩
    rintro _ ⟨⟩
    exact ⟨rfl, fresh⟩

theorem Converging.attach_upload (inv : Converging w) {mediaId : Uuid} {generation : Nat}
    {message : MessageId} {fileId uniqueId : Option String} {shown : Message} {db : Db}
    {receipt : Except Error StorageReceipt} (there : w.messages.get message = some shown)
    (own : ∀ other, shown.owner = some other → other = mediaId)
    (attached : attachStorageUpload w.db mediaId generation
      ⟨message.chatId, message.messageId, fileId, uniqueId, none⟩ = .ok (db, receipt)) :
    Converging { w with
      db := db, messages := w.messages.set message { shown with owner := some mediaId } } := by
  have adopted : Converging
      { w with messages := w.messages.set message { shown with owner := some mediaId } } := by
    apply inv.set_unowned
    intro known present
    rw [there] at present
    cases present
    cases owner : shown.owner with
    | none => exact Or.inl rfl
    | some other =>
      rw [← own other owner, ← owner]
      exact Or.inr rfl
  refine adopted.caption_step (attachStorageUpload_step attached) (fun _ _ covered => covered.elim) ?_
  rintro m place fields ⟨rfl, rfl, rfl⟩
  exact ⟨_, Table.get_set_self _ _ _, rfl, fun _ is => by cases is⟩

theorem Converging.reserve_upload (inv : Converging w) (mediaId : Uuid) (generation : Nat) :
    Converging (reserveUpload w mediaId generation) := by
  unfold reserveUpload
  split
  · rename_i db ownerToken metadata reserved
    have moved := inv.untouched (reserveStorageUpload_untouched reserved)
    have drawn : ownerToken < db.fresh := by
      simp only [reserveStorageUpload, lockMedia, bind_ok, expect_ok] at reserved
      obtain ⟨row, -, reserved⟩ := reserved
      split at reserved
      · simp only [bind_ok] at reserved
        obtain ⟨_, -, reserved⟩ := reserved
        cases reserved
      · split at reserved
        · cases reserved
        · split at reserved
          · cases reserved
          · split at reserved
            · cases reserved
            · cases reserved
              exact Nat.lt_succ_self _
    refine moved.set_upload drawn ?_
    exact fun place is => by cases is
  · exact inv

theorem Converging.send_message (inv : Converging w) {ownerToken : Uuid} {message : MessageId}
    (h : sendMessage w ownerToken message = some w') : Converging w' := by
  unfold sendMessage at h
  split at h
  · rename_i mediaId metadata uploaded
    simp only [Option.ite_none_right_eq_some, Option.some.injEq, Option.isNone_iff_eq_none] at h
    obtain ⟨unused, rfl⟩ := h
    have posted : Converging
        { w with messages := w.messages.set message ⟨storageCaption metadata, some mediaId⟩ } := by
      apply inv.set_unowned
      intro shown there
      rw [unused] at there
      cases there
    refine posted.set_upload (inv.uploadTokens ownerToken _ uploaded) ?_
    rintro place ⟨⟩
    refine ⟨Table.get_set_self _ _ _, fun m generation caption order => ?_⟩
    obtain ⟨⟨shown, there, -⟩, -⟩ := inv.orders message m generation caption order
    rw [unused] at there
    cases there
  · cases h

theorem Converging.apply_edit (inv : Converging w) {token : Uuid}
    (timely : ¬ LandsLate w (.applyEdit token)) (h : applyEdit w token = some w') :
    Converging w' := by
  unfold applyEdit at h
  split at h
  · cases h
  · rename_i edit found
    split at h
    · rename_i shown sent there
      cases h
      have showing := inv.show_edit found sent there (by
        intro row here place old settled
        exact timely ⟨token, edit, row, rfl, found, sent, here, place, old, settled⟩)
      refine showing.settle_edit found sent nofun ?_
      rintro - known here
      rw [show Table.get (w.messages.set edit.message { shown with caption := edit.caption })
        edit.message = _ from Table.get_set_self _ _ _] at here
      cases here
      rfl
    · cases h

theorem Converging.claim_job (inv : Converging w) {worker : String} {leaseDuration : Time}
    {key : JobKey} (h : claimJob w worker leaseDuration key = some w') : Converging w' := by
  unfold claimJob at h
  split at h
  · rename_i jobs job claimed
    obtain ⟨old, -, -, -, -, row, -⟩ := claimNext_ok claimed
    split at h
    · rename_i lease m generation shows command
      cases h
      subst row
      obtain ⟨columns, running, lease_eq⟩ := Job.lease_eq_some.mp shows
      cases running
      subst lease_eq
      have moved : Converging { w with db := { w.db with jobs := jobs, fresh := w.db.fresh + 1 } } :=
        inv.same_media rfl (Nat.le_succ _)
      refine moved.set_attempt (Nat.lt_succ_self _) rfl (fun _ is => by cases is) ?_ ?_
      · intro _
        refine ⟨?_, fun m' other found syncing holds => ?_⟩
        · cases sent : w.edits.get w.db.fresh with
          | none => rfl
          | some edit => exact absurd (inv.editTokens _ edit sent) (Nat.lt_irrefl _)
        · exact absurd (inv.held m' other _ found syncing holds).1 (Nat.lt_irrefl _)
      · rintro (editing | ⟨_, _, _, completing⟩)
        · cases editing
        · cases completing
    · cases h
  · cases h

theorem Converging.settle (inv : Converging w) (attempt : Attempt) (settlement : JobSettlement) :
    Converging { w with db := attempt.settle w.db settlement } := by
  unfold Attempt.settle
  rcases committed_cases w.db (settleCaptionJob w.db attempt.lease attempt.command settlement) with
    same | ⟨answer, ok⟩
  · rw [same]
    exact inv
  · obtain ⟨job, m, generation, -, -, -, error, after⟩ := settleCaptionJob_ok ok
    rw [after]
    exact inv.release m generation _ error _

theorem Converging.finish (inv : Converging w) {attempt : Attempt} {db : Db}
    (h : attempt.finish w.db = some db) : Converging { w with db := db } := by
  unfold Attempt.finish at h
  split at h
  · split at h
    · cases h
      exact inv.same_media rfl le_rfl
    · cases h
      exact inv
  · split at h
    · cases h
      exact inv.settle attempt _
    · cases h
      exact inv
  · cases h

/-- The answer to an edit is behind its claim. -/
theorem Attempt.report_late (attempt : Attempt) (error : Option (String × Bool)) :
    attempt.report error ≠ .started ∧ ∀ claim, attempt.report error ≠ .claimed claim := by
  cases error <;> exact ⟨nofun, nofun⟩

theorem Converging.step (inv : Converging w) {act : Action} (calm : ¬ RecaptionsSilently w act)
    (timely : ¬ LandsLate w act) (own : ¬ AttachesForeign w act) (h : step w act = some w') :
    Converging w' := by
  cases act with
  | resolveMedia ingest =>
    cases h
    refine inv.caption_step (.of_committed (fun _ _ h => resolveMedia_step inv.unused h)) ?_
      (fun _ _ _ places => places.elim)
    intro m row covered found
    by_contra captioned
    exact calm ⟨m, row, found, captioned, covered⟩
  | identifyVideo ingest fingerprint decision forceSave =>
    cases h
    refine inv.caption_step (.of_committed (fun _ _ h => persistVideoIdentity_step inv.unused h)) ?_
      (fun _ _ _ places => places.elim)
    intro m row covered found
    by_contra captioned
    exact calm ⟨m, row, found, captioned, covered⟩
  | acceptDuplicate id mediaId =>
    cases h
    refine inv.caption_step (.of_committed (fun _ _ h => acceptDuplicate_step h)) ?_
      (fun _ _ _ places => places.elim)
    intro m row covered found
    by_contra captioned
    exact calm ⟨m, row, found, captioned, covered⟩
  | updateMedia id update =>
    cases h
    exact inv.quiet_step (.of_committed (fun _ _ h => updateMedia_step h))
  | retryCaptionSync id =>
    cases h
    exact inv.quiet_step (.of_committed (fun _ _ h => retryCaptionSync_step h))
  | reserveUpload mediaId generation =>
    cases h
    exact inv.reserve_upload mediaId generation
  | renewUpload mediaId ownerToken =>
    cases h
    exact inv.untouched (.of_committed (fun _ _ h => renewStorageUpload_untouched h))
  | releaseUpload mediaId ownerToken =>
    cases h
    exact inv.untouched (.of_committed (fun _ _ h => releaseStorageUpload_untouched h))
  | sendMessage ownerToken message => exact inv.send_message h
  | completeUpload ownerToken fileId uniqueId =>
    simp only [Captions.step, completeUpload] at h
    split at h
    · rename_i uploaded
      cases h
      exact inv.complete_upload uploaded fileId uniqueId
    · cases h
  | postMessage message caption =>
    simp only [Captions.step, Option.ite_none_right_eq_some, Option.some.injEq,
      Option.isNone_iff_eq_none] at h
    obtain ⟨unused, rfl⟩ := h
    apply inv.set_unowned
    intro shown there
    rw [unused] at there
    cases there
  | attachUpload mediaId generation message fileId uniqueId =>
    simp only [Captions.step, attachUpload] at h
    split at h
    · cases h
    · rename_i shown there
      split at h
      · cases h
        exact inv
      · rename_i attached
        cases h
        refine inv.attach_upload there (fun other owner => ?_) attached
        by_contra foreign
        exact own ⟨mediaId, generation, message, fileId, uniqueId, shown, other, rfl, there, owner,
          foreign⟩
  | storage call =>
    simp only [Captions.step, Option.ite_none_right_eq_some, Option.some.injEq] at h
    obtain ⟨keeps, rfl⟩ := h
    exact inv.quiet_step (storageCall_step keeps)
  | beginCleanup lease ingestId workspaceId =>
    cases h
    exact inv.untouched (.of_committed (fun _ _ h => beginWorkspaceCleanup_untouched h))
  | claimJob worker leaseDuration key => exact inv.claim_job h
  | heartbeat token leaseDuration =>
    simp only [Captions.step, Option.bind_eq_bind, Option.bind_eq_some_iff] at h
    obtain ⟨attempt, -, h⟩ := h
    split at h
    · cases h
      exact inv.same_media rfl le_rfl
    · cases h
      exact inv
  | call token outcome =>
    simp only [Captions.step, Option.bind_eq_bind, Option.bind_eq_some_iff] at h
    obtain ⟨attempt, found, ⟨db, phase⟩, called, h⟩ := h
    cases h
    unfold Attempt.call at called
    split at called
    · rename_i started
      simp only [Option.some.injEq] at called
      exact inv.call_begin found started called
    · rename_i completing
      simp only [Option.some.injEq] at called
      exact inv.call_complete found completing called
    · cases called
  | sendEdit token =>
    simp only [Captions.step, Option.bind_eq_bind, Option.bind_eq_some_iff] at h
    obtain ⟨attempt, found, h⟩ := h
    unfold sendEdit at h
    split at h
    · rename_i claim claimed
      cases h
      exact inv.send found claimed
    · cases h
  | applyEdit token => exact inv.apply_edit timely h
  | loseEdit token =>
    simp only [Captions.step, loseEdit] at h
    split at h
    · cases h
    · rename_i edit found
      split at h
      · rename_i sent
        cases h
        exact inv.settle_edit found sent (fun same => by cases same) (fun same => by cases same)
      · cases h
  | answerEdit token error =>
    simp only [Captions.step, Option.bind_eq_bind, Option.bind_eq_some_iff] at h
    obtain ⟨attempt, found, h⟩ := h
    unfold answerEdit at h
    split at h
    · rename_i edit editing sent
      split at h
      · cases h
      · rename_i heard
        cases h
        refine inv.advance found (attempt.report_late error) ?_
        refine fun _ => ⟨edit, sent, fun retryable message success => ?_⟩
        cases error with
        | none => simpa using heard
        | some answer => cases success
    · cases h
  | finish token outcome =>
    simp only [Captions.step, Option.bind_eq_bind, Option.bind_eq_some_iff] at h
    obtain ⟨attempt, -, db, finished, h⟩ := h
    cases h
    have settled : Converging { w with db := if outcome.applied then db else w.db } := by
      split
      · exact inv.finish finished
      · exact inv
    exact settled.retired token
  | shutdown token outcome =>
    simp only [Captions.step, Option.bind_eq_bind, Option.bind_eq_some_iff] at h
    obtain ⟨attempt, -, h⟩ := h
    cases h
    have settled : Converging { w with
        db := if outcome.applied then attempt.settle w.db (shutdownSettlement w.db.now) else w.db } := by
      split
      · exact inv.settle attempt _
      · exact inv
    exact settled.retired token
  | crash token =>
    simp only [Captions.step, Option.bind_eq_bind, Option.bind_eq_some_iff] at h
    obtain ⟨attempt, -, h⟩ := h
    cases h
    exact inv.retired token
  | recover id expected =>
    cases h
    rcases committed_cases w.db (recoverCaptionJob w.db id expected) with same | ⟨answer, ok⟩
    · rw [same]
      exact inv
    · rcases recoverCaptionJob_ok ok with same | ⟨job, m, generation, -, -, -, -, error, after⟩
      · rw [same]
        exact inv
      · rw [after]
        exact inv.release m generation _ error _
  | prune key cutoff =>
    simp only [Captions.step, Option.bind_eq_bind, Option.bind_eq_some_iff] at h
    obtain ⟨db, pruned, h⟩ := h
    cases h
    unfold Captions.prune at pruned
    split at pruned
    · simp only [Option.ite_none_right_eq_some, Option.some.injEq] at pruned
      obtain ⟨-, rfl⟩ := pruned
      exact inv.same_media rfl le_rfl
    · cases pruned
  | tick elapsed =>
    cases h
    exact inv.same_media rfl le_rfl
  | setIngest id ingest =>
    cases h
    exact inv.same_media rfl le_rfl
  | putForeignJob job =>
    simp only [Captions.step, Option.ite_none_left_eq_some, Option.some.injEq] at h
    obtain ⟨-, rfl⟩ := h
    exact inv.same_media rfl le_rfl
  | deleteForeignJob key =>
    simp only [Captions.step, Option.ite_none_left_eq_some, Option.some.injEq] at h
    obtain ⟨-, rfl⟩ := h
    exact inv.same_media rfl le_rfl
  | drawUuid =>
    cases h
    exact inv.same_media rfl (Nat.le_succ _)

theorem converging_initial : Converging initial := by
  refine ⟨?_, ?_, ?_, ?_, ?_, ?_, ?_, ?_, ?_, ?_, ?_, ?_, ?_, ?_⟩
  · exact fun _ _ found => by cases found
  · exact fun _ _ found => by cases found
  · exact fun _ _ found => by cases found
  · exact fun _ _ _ found => by cases found
  · exact fun _ _ found => by cases found
  · exact fun _ _ found => by cases found
  · exact fun _ _ found => by cases found
  · exact fun _ _ _ found => by cases found
  · intro message m generation caption order
    cases order with
    | claimed found => cases found
    | sent found => cases found
  · exact fun _ _ _ _ found => by cases found
  · exact fun _ _ found => by cases found
  · exact fun _ _ found => by cases found
  · exact fun _ _ _ found => by cases found
  · exact fun _ _ _ _ found => by cases found

/-- The message of a synced row shows what the row asks for, whatever is still
    in flight, unless one of the four steps was taken. -/
theorem synced_captions_are_shown {acts : List Action}
    (run : Run step (fun w act => ¬ RecaptionsSilently w act ∧ ¬ LandsLate w act ∧
      ¬ AttachesForeign w act) initial acts w)
    {m : Uuid} {row : Media} (found : w.db.media.get m = some row)
    (synced : row.captionSyncState = .synced) :
    ∃ message shown, location row = some message ∧ w.messages.get message = some shown ∧
      shown.caption = storageCaption (captionMetadataOf row) := by
  have inv : Converging w := run_invariant Converging
    (fun inv allowed h => inv.step allowed.1 allowed.2.1 allowed.2.2 h) converging_initial run
  obtain ⟨message, shown, place, there, -⟩ := inv.placed m row found (by rw [synced]; decide)
  exact ⟨message, shown, place, there, inv.synced m row message shown found synced place there⟩

end Steps

section Samples

/-- The edit of the sample image's first generation, up to its request. -/
def sampleRequested : List Action :=
  [.claimJob "a" 1 (.syncCaption 0 1 none), .call 3 .answered, .sendEdit 3]

theorem applied_edit_is_shown :
    ∃ w row message shown, Run step Unrestricted initial
        (sampleEdited ++ sampleRequested ++ [.applyEdit 3, .answerEdit 3 none, .call 3 .answered]) w ∧
      w.db.media.get 0 = some row ∧ row.captionSyncState = .synced ∧
      location row = some message ∧ w.messages.get message = some shown ∧
      shown.caption = storageCaption (captionMetadataOf row) := by
  obtain ⟨a, b, c, w, created, stored, edited, done, sent, row, found, synced, current, owner⟩ :
      ∃ a b c w, Captions.step initial (.resolveMedia sampleImage) = some a ∧
        exec step a (sampleEdited.tail ++ sampleRequested) = some b ∧
        Captions.step b (.applyEdit 3) = some c ∧
        exec step c [.answerEdit 3 none, .call 3 .answered] = some w ∧
        ∃ sent row, w.db.media.get 0 = some row ∧ row.captionSyncState = .synced ∧
          (b.edits.get 3 = some sent ∧ sent.mediaId = 0) ∧
          ∃ old, b.db.media.get 0 = some old ∧ old.captionSyncGeneration = sent.generation :=
    ⟨_, _, _, _, rfl, rfl, rfl, rfl, _, _, rfl, rfl, ⟨rfl, rfl⟩, _, rfl, rfl⟩
  have run : Run step (fun w act => ¬ RecaptionsSilently w act ∧ ¬ LandsLate w act ∧
      ¬ AttachesForeign w act) initial
      (.resolveMedia sampleImage :: ((sampleEdited.tail ++ sampleRequested) ++
        .applyEdit 3 :: [.answerEdit 3 none, .call 3 .answered])) w := by
    refine Run.cons ⟨?_, ?_, ?_⟩ created (run_append (run_of_exec_allowed ?_ stored)
      (Run.cons ⟨?_, ?_, ?_⟩ edited (run_of_exec_allowed ?_ done)))
    · rintro ⟨m, row, there, -⟩
      cases there
    · rintro ⟨_, _, _, is, -⟩
      cases is
    · rintro ⟨_, _, _, _, _, _, _, is, -⟩
      cases is
    · intro act member t
      simp only [sampleEdited, sampleRequested, List.tail_cons, List.cons_append, List.nil_append,
        List.mem_cons, List.not_mem_nil, or_false] at member
      refine ⟨?_, ?_, ?_⟩
      · rintro ⟨_, _, -, -, silent⟩
        rcases member with rfl | rfl | rfl | rfl | rfl | rfl | rfl <;> exact silent
      · rintro ⟨_, _, _, rfl, -⟩
        simp at member
      · rintro ⟨_, _, _, _, _, _, _, rfl, -⟩
        simp at member
    · rintro ⟨_, _, -, -, silent⟩
      exact silent
    · rintro ⟨token, edit, old, ⟨⟩, there, -, here, -, late, -⟩
      obtain ⟨media, before, same⟩ := owner
      rw [current.1] at there
      cases there
      rw [current.2, before] at here
      cases here
      omega
    · rintro ⟨_, _, _, _, _, _, _, is, -⟩
      cases is
    · intro act member t
      simp only [List.mem_cons, List.not_mem_nil, or_false] at member
      refine ⟨?_, ?_, ?_⟩
      · rintro ⟨_, _, -, -, silent⟩
        rcases member with rfl | rfl <;> exact silent
      · rintro ⟨_, _, _, rfl, -⟩
        simp at member
      · rintro ⟨_, _, _, _, _, _, _, rfl, -⟩
        simp at member
  obtain ⟨message, shown, rest⟩ := synced_captions_are_shown run found synced
  refine ⟨w, row, message, shown, ?_, found, synced, rest⟩
  refine Run.cons trivial created (run_append (run_of_exec stored) ?_)
  exact Run.cons trivial edited (run_of_exec done)

/-- The same bytes again, with a source. -/
def sourcedImage : MediaIngest :=
  ⟨.image, "sha", none, [], some "https://a", some (0, "normalized/image.jpg")⟩

/-- A worker dies with its edit in flight; the next generation is edited and
    reported, and then the old edit takes effect. -/
def sampleOvertaken : List Action :=
  sampleEdited ++ sampleRequested ++
    [.crash 3, .updateMedia 0 ⟨some "a dog", [], 0⟩, .claimJob "b" 1 (.syncCaption 0 2 none),
      .call 5 .answered, .sendEdit 5, .applyEdit 5, .answerEdit 5 none, .call 5 .answered, .applyEdit 3]

/-- The row is synced, no edit is in flight and the message shows something
    else. -/
def Misshown (w : World) (m : Uuid) : Prop :=
  ∃ row message shown, w.db.media.get m = some row ∧ row.captionSyncState = .synced ∧
    location row = some message ∧ w.messages.get message = some shown ∧
    (∀ token edit, w.edits.get token = some edit → edit.state ≠ .sent) ∧
    shown.caption ≠ storageCaption (captionMetadataOf row)

theorem synced_captions_can_be_stale :
    (∃ w, Run step Unrestricted initial (sampleEdited.dropLast ++ [.resolveMedia sourcedImage]) w ∧
      Misshown w 0) ∧
    ∃ w, Run step Unrestricted initial sampleOvertaken w ∧ Misshown w 0 := by
  have landed : ∀ {w : World}, w.edits.rows.all (fun e => decide (e.2.state ≠ .sent)) = true →
      ∀ token edit, w.edits.get token = some edit → edit.state ≠ .sent := by
    intro w all token edit there
    simpa using List.all_eq_true.mp all _ ((Table.mem_rows_iff _ token edit).mpr there)
  constructor
  · obtain ⟨w, row, message, shown, done, found, synced, place, there, none, stale⟩ :
        ∃ w row message shown,
          exec step initial (sampleEdited.dropLast ++ [.resolveMedia sourcedImage]) = some w ∧
          w.db.media.get 0 = some row ∧ row.captionSyncState = .synced ∧
          location row = some message ∧ w.messages.get message = some shown ∧
          w.edits.rows.all (fun e => decide (e.2.state ≠ .sent)) = true ∧
          shown.caption ≠ storageCaption (captionMetadataOf row) := by
      refine ⟨_, _, _, _, rfl, rfl, rfl, rfl, rfl, rfl, ?_⟩
      decide +kernel
    exact ⟨w, run_of_exec done, row, message, shown, found, synced, place, there, landed none, stale⟩
  · obtain ⟨w, row, message, shown, done, found, synced, place, there, none, stale⟩ :
        ∃ w row message shown, exec step initial sampleOvertaken = some w ∧
          w.db.media.get 0 = some row ∧ row.captionSyncState = .synced ∧
          location row = some message ∧ w.messages.get message = some shown ∧
          w.edits.rows.all (fun e => decide (e.2.state ≠ .sent)) = true ∧
          shown.caption ≠ storageCaption (captionMetadataOf row) := by
      refine ⟨_, _, _, _, rfl, rfl, rfl, rfl, rfl, rfl, ?_⟩
      decide +kernel
    exact ⟨w, run_of_exec done, row, message, shown, found, synced, place, there, landed none, stale⟩

end Samples

end Sooqa.Captions
