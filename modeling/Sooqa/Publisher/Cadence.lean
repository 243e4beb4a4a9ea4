import Sooqa.Publisher.System
import Sooqa.Publisher.Locking

/-!
Cadence slots. A slot is chosen from the occupied ones that were read and
taken at the commit; no other transaction of the channel commits in between.
A post that comes back to the queue was there all along or gets a new slot.
-/
namespace Sooqa.Publisher.Concurrent
open Foundation Queue

variable {calendar : Calendar} {isTimeZone : String → Bool}

/-- No other post of the channel that waits or is being sent holds the slot. -/
def SlotFree (db : Db) (channelId p : Uuid) (slot : Time) : Prop :=
  ∀ q other, q ≠ p → db.posts.get q = some other → other.channelId = channelId →
    other.busy = true → other.cadenceSlotAt ≠ some slot

/-- The slot this row is to take at this post: the one it holds, or a free one. -/
inductive Reserved (db : Db) (p : Uuid) (row : Post) : Prop where
  | held (old : Post) (found : db.posts.get p = some old) (busy : old.busy = true)
      (channel : old.channelId = row.channelId) (slot : old.cadenceSlotAt = row.cadenceSlotAt)
  | free (free : ∀ slot, row.cadenceSlotAt = some slot → SlotFree db row.channelId p slot)

structure Slotted (w : World calendar isTimeZone) : Prop where
  locking : Locking w
  unique : ∀ p row slot, w.db.posts.get p = some row → row.busy = true →
    row.cadenceSlotAt = some slot → SlotFree w.db row.channelId p slot
  reserved : ∀ id tx p row, w.transactions.get id = some tx → Writes tx p row →
    row.busy = true → Reserved w.db p row

theorem mem_occupiedSlots {db : Db} {channelId p q : Uuid} {other : Post} {slot : Time}
    (ne : q ≠ p) (found : db.posts.get q = some other) (channel : other.channelId = channelId)
    (busy : other.busy = true) (taken : other.cadenceSlotAt = some slot) :
    slot ∈ occupiedSlots db channelId p := by
  refine List.mem_filterMap.mpr ⟨(q, other), (Table.mem_rows_iff _ _ _).mpr found, ?_⟩
  rw [if_pos ⟨channel, ne⟩]
  rcases state_of_busy busy with queued | ⟨token, startedAt, sending⟩
  · rw [queued]
    exact taken
  · rw [sending]
    exact taken

section Steps
variable {w w' : World calendar isTimeZone} {act : Action}

/-- What a transaction that has just begun may take. -/
theorem Writes.reserved {tx : Transaction calendar isTimeZone} {p : Uuid} {row : Post}
    (writes : Writes tx p row) (new : tx.read.posts.get tx.read.fresh = none)
    (busy : row.busy = true) : Reserved tx.read p row := by
  rcases (writes.held new).2 with there | write
  · exact .held row there busy rfl rfl
  · cases write.busy busy with
    | kept old found was slot =>
      exact .held old found was (write.same old found).1.symm slot.symm
    | queued enabled free =>
      refine .free (fun slot taken q other ne found channel busy' same => ?_)
      exact free slot taken (mem_occupiedSlots ne found channel busy' same)

/-- A reservation outlives the commit of another transaction. -/
theorem Slotted.reserved_after (inv : Slotted w) {id other p : Uuid}
    {tx tx' : Transaction calendar isTimeZone} {row : Post}
    (found : w.transactions.get id = some tx) (there : w.transactions.get other = some tx')
    (ne : id ≠ other) (writes : Writes tx p row) (busy : row.busy = true) :
    Reserved (tx'.apply w.db) p row := by
  have kept : (tx'.apply w.db).posts.get p = w.db.posts.get p := by
    rcases apply_posts tx' w.db p with same | ⟨row', writes', -⟩
    · exact same
    · exact absurd rfl (inv.locking.writes_apart found there ne writes writes')
  cases inv.reserved id tx p row found writes busy with
  | held old before was channel slot => exact .held old (kept.trans before) was channel slot
  | free free =>
    refine .free (fun slot taken q post apart present channel waits => ?_)
    rcases apply_posts tx' w.db q with same | ⟨post', writes', written⟩
    · rw [same] at present
      exact free slot taken q post apart present channel waits
    · -- The other transaction holds the same channel, so it cannot be open.
      obtain rfl := Option.some.inj (written.symm.trans present)
      have mine := writes.locks_channel (inv.locking.news id tx found).1 busy
      have theirs := writes'.locks_channel (inv.locking.news other tx' there).1 waits
      rw [channel] at theirs
      exact absurd theirs (inv.locking.apart id other tx tx' found there ne _ mine)

/-- The slots stay unique when a reserved one is taken. -/
theorem Slotted.unique_after (inv : Slotted w) {id : Uuid}
    {tx : Transaction calendar isTimeZone} (found : w.transactions.get id = some tx) :
    ∀ p row slot, (tx.apply w.db).posts.get p = some row → row.busy = true →
      row.cadenceSlotAt = some slot → SlotFree (tx.apply w.db) row.channelId p slot := by
  -- A waiting post that was there and the one written do not share a slot.
  have crossed : ∀ p q row other slot, q ≠ p → Writes tx p row → row.busy = true →
      row.cadenceSlotAt = some slot → w.db.posts.get q = some other →
      other.channelId = row.channelId → other.busy = true → other.cadenceSlotAt ≠ some slot := by
    intro p q row other slot ne writes busy taken there channel waits
    cases inv.reserved id tx p row found writes busy with
    | held old before was same slot' =>
      exact inv.unique p old slot before was (slot'.trans taken) q other ne there
        (channel.trans same.symm) waits
    | free free => exact free slot taken q other ne there channel waits
  intro p row slot here busy taken q other ne there channel waits same
  rcases apply_posts tx w.db p with before | ⟨row', writes, written⟩
  · rw [before] at here
    rcases apply_posts tx w.db q with before' | ⟨other', writes', written'⟩
    · rw [before'] at there
      exact inv.unique p row slot here busy taken q other ne there channel waits same
    · obtain rfl := Option.some.inj (written'.symm.trans there)
      exact crossed q p other' row slot (Ne.symm ne) writes' waits same here channel.symm busy taken
  · obtain rfl := Option.some.inj (written.symm.trans here)
    rw [writes.others w.db ne] at there
    exact crossed p q row' other slot ne writes busy taken there channel waits same

/-- What one step keeps. -/
theorem Slotted.step (inv : Slotted w) (h : step w act = some w') : Slotted w' := by
  have locking := inv.locking.step h
  cases step_cases h with
  | began id tx read free transactions posts channels fresh =>
    have still : ∀ p row, Reserved w.db p row → Reserved w'.db p row := by
      intro p row reserved
      cases reserved with
      | held old found busy channel slot => exact .held old (posts ▸ found) busy channel slot
      | free free =>
        refine .free (fun slot taken q other ne found => ?_)
        rw [posts] at found
        exact free slot taken q other ne found
    refine ⟨locking, ?_, ?_⟩
    · intro p row slot found busy taken q other ne there
      rw [posts] at found there
      exact inv.unique p row slot found busy taken q other ne there
    · intro other tx' p row found writes busy
      apply still
      rw [transactions, Table.get_set] at found
      split at found
      · obtain rfl := Option.some.inj found
        have new := (locking.news id tx (by rw [transactions]; simp)).1
        rw [← read]
        exact writes.reserved new busy
      · exact inv.reserved other tx' p row found writes busy
  | committed id tx which found transactions db =>
    refine ⟨locking, ?_, ?_⟩
    · rw [db]
      exact inv.unique_after found
    · intro other tx' p row there writes busy
      obtain ⟨ne, before⟩ := transactions_of_remove transactions there
      rw [db]
      exact inv.reserved_after before found ne writes busy
  | aborted id transactions db =>
    refine ⟨locking, ?_, ?_⟩
    · rw [db]
      exact inv.unique
    · intro other tx' p row there writes busy
      rw [db]
      exact inv.reserved other tx' p row (transactions_of_remove transactions there).2 writes busy
  | aside transactions posts channels fresh =>
    refine ⟨locking, ?_, ?_⟩
    · intro p row slot found busy taken q other ne there
      rw [posts] at found there
      exact inv.unique p row slot found busy taken q other ne there
    · intro other tx' p row there writes busy
      rw [transactions] at there
      cases inv.reserved other tx' p row there writes busy with
      | held old found was channel slot => exact .held old (posts ▸ found) was channel slot
      | free free =>
        refine .free (fun slot taken q post ne present => ?_)
        rw [posts] at present
        exact free slot taken q post ne present

theorem slotted_initial : Slotted (initial calendar isTimeZone) where
  locking := locking_initial
  unique := fun _ _ _ found => by cases found
  reserved := fun _ _ _ _ found => by cases found

end Steps

section Runs
variable {w : World calendar isTimeZone}

/-- In every reachable state, whatever transactions overlapped on the way, two
    posts of one channel that wait or are being sent hold different cadence
    slots. -/
theorem cadence_slots_are_unique {acts : List Action}
    (run : Run step Unrestricted (initial calendar isTimeZone) acts w) :
    ∀ p q post post' slot, p ≠ q → w.db.posts.get p = some post → w.db.posts.get q = some post' →
      post.channelId = post'.channelId → post.busy = true → post'.busy = true →
      post.cadenceSlotAt = some slot → post'.cadenceSlotAt ≠ some slot := by
  have inv : Slotted w := run_invariant Slotted (fun inv _ h => inv.step h) slotted_initial run
  intro p q post post' slot ne here there channel busy busy' taken
  exact inv.unique p post slot here busy taken q post' (Ne.symm ne) there channel.symm busy'

/-- Two videos queued one after the other, the second while a draft of the
    first is being added. -/
def sampleQueue : List Action :=
  [.setChannel 100 sampleChannel, .setMedia 200 sampleMedia, .setMedia 201 sampleMedia,
    .begin 1 (.createIntent 200 ⟨.queue, none, none⟩ "first"), .commit 1,
    .begin 2 (.createPost ⟨200, 100, none, none, false⟩ "draft" (.caller "draft")),
    .begin 3 (.createIntent 201 ⟨.queue, none, none⟩ "second"), .commit 2, .commit 3]

/-- The second video gets another slot. -/
theorem queued_videos_have_different_slots :
    ∃ (w : World sampleCalendar (fun _ => true)) (post post' : Post),
      exec step (initial sampleCalendar (fun _ => true)) sampleQueue = some w ∧
      w.db.posts.get 0 = some post ∧ w.db.posts.get 3 = some post' ∧
      post.channelId = post'.channelId ∧ post.busy = true ∧ post'.busy = true ∧
      post.cadenceSlotAt = some 0 ∧ post'.cadenceSlotAt ≠ some 0 := by
  obtain ⟨w, reached⟩ : ∃ w : World sampleCalendar (fun _ => true),
      exec step (initial sampleCalendar (fun _ => true)) sampleQueue = some w := ⟨_, rfl⟩
  obtain ⟨post, post', here, there, channel, busy, busy', slot⟩ : ∃ post post',
      w.db.posts.get 0 = some post ∧ w.db.posts.get 3 = some post' ∧
      post.channelId = post'.channelId ∧ post.busy = true ∧ post'.busy = true ∧
      post.cadenceSlotAt = some 0 := by
    cases reached
    exact ⟨_, _, rfl, rfl, rfl, rfl, rfl, rfl⟩
  exact ⟨w, post, post', reached, here, there, channel, busy, busy', slot,
    cadence_slots_are_unique (run_of_exec reached) 0 3 post post' 0 (by decide) here there channel
      busy busy' slot⟩

end Runs

end Sooqa.Publisher.Concurrent
