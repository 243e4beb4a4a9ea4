import Mathlib.Data.Finset.Dedup
import Mathlib.Tactic.Linarith
import Sooqa.Publisher.CadenceGrid
import Sooqa.Publisher.RowWrites

/-!
The next free slot of a channel: the grid is searched from the request or the
present on, whichever is later, past the slots that other waiting posts hold.
Instants of one grid lie whole seconds apart, so the search may go on a second
after a taken slot.
-/
namespace Sooqa.Publisher
open Foundation Foundation.Earliest Queue

/-- A stored time counts microseconds. -/
def instant (t : Time) : Int := (t : Nat) * 1000

/-- The slots that other queued or sending posts of the channel hold. -/
def occupied (db : Db) (channelId postId : Uuid) : Finset Int :=
  ((occupiedSlots db channelId postId).map instant).toFinset

namespace CadenceSlots

/-- `next_free_slot`, with the clock of the process as an argument. -/
def nextFreeSlot (zones : String → Option TimeZone) (db : Db) (channelId : Uuid)
    (channel : Channel) (postId : Uuid) (requestedAt now : Int) : Except CadenceError Int := do
  let candidate ← nextAllowedSlot zones (max requestedAt now) channel
  searchFree (fun requested => nextAllowedSlot zones requested channel) (· + nanosPerSecond)
    .cadenceSearchExhausted (occupied db channelId postId) 10000 candidate

/-- The requests that a search for a free slot makes. -/
def Requested (zones : String → Option TimeZone) (db : Db) (channelId : Uuid)
    (channel : Channel) (postId : Uuid) (first : Int) : Int → Prop :=
  Asked (fun requested => nextAllowedSlot zones requested channel) (· + nanosPerSecond)
    (occupied db channelId postId) first

end CadenceSlots

/-- Another post of the channel waits for this slot or is being sent in it. -/
def HeldByAnother (db : Db) (channelId postId : Uuid) (x : Int) : Prop :=
  ∃ q other t, q ≠ postId ∧ db.posts.get q = some other ∧ other.channelId = channelId ∧
    other.busy = true ∧ other.cadenceSlotAt = some t ∧ instant t = x

section Slots
variable {zone : TimeZone} {zones : String → Option TimeZone} {db : Db} {channel : Channel}
variable {channelId postId : Uuid} {x y : Int}

theorem mem_occupied_iff :
    x ∈ occupied db channelId postId ↔ HeldByAnother db channelId postId x := by
  unfold occupied HeldByAnother occupiedSlots
  simp only [List.mem_toFinset, List.mem_map, List.mem_filterMap]
  constructor
  · rintro ⟨t, ⟨⟨q, other⟩, there, held⟩, rfl⟩
    split at held
    · rename_i both
      refine ⟨q, other, t, both.2, (Table.mem_rows_iff _ _ _).mp there, both.1, ?_⟩
      unfold Post.busy
      split at held <;> simp_all
    · cases held
  · rintro ⟨q, other, t, ne, found, same, busy, slot, rfl⟩
    refine ⟨t, ⟨⟨q, other⟩, (Table.mem_rows_iff _ _ _).mpr found, ?_⟩, rfl⟩
    rw [if_pos ⟨same, ne⟩]
    rcases state_of_busy busy with queued | ⟨token, startedAt, sending⟩
    · rw [queued]
      exact slot
    · rw [sending]
      exact slot

/-- Offsets are whole seconds, so all instants of a grid agree below the second. -/
theorem OnGrid.whole_seconds (grid : OnGrid zone channel x) :
    ∃ m : Int, x = channel.windowStart + m * nanosPerSecond := by
  obtain ⟨k, reads, -⟩ := grid
  refine ⟨zone.dateNaive x * 86400 + k * channel.intervalMinutes * 60 - zone.offset x, ?_⟩
  have split := Int.emod_add_mul_ediv (zone.naiveLocal x) nanosPerDay
  unfold TimeZone.time at reads
  rw [reads] at split
  unfold TimeZone.dateNaive
  unfold TimeZone.naiveLocal nanosPerSecond nanosPerMinute nanosPerDay at *
  linarith

/-- No instant of the grid comes within a second after another. -/
theorem OnGrid.second_after (grid : OnGrid zone channel x) (other : OnGrid zone channel y)
    (before : x < y) : x + nanosPerSecond ≤ y := by
  obtain ⟨m, rfl⟩ := grid.whole_seconds
  obtain ⟨n, rfl⟩ := other.whole_seconds
  unfold nanosPerSecond at *
  omega

theorem nextAllowedSlot_known {requested slot : Int}
    (h : nextAllowedSlot zones requested channel = .ok slot) :
    ∃ zone, zones channel.timeZone = some zone := by
  cases known : zones channel.timeZone with
  | none => simp [nextAllowedSlot, known] at h
  | some zone => exact ⟨zone, rfl⟩

/-- The search ends at the earliest free instant of the grid. -/
theorem nextFreeSlot_isLeast (known : zones channel.timeZone = some zone)
    (faithful : zone.Faithful) (window : channel.windowEnd < nanosPerDay)
    {requestedAt now : Int} (few : (occupied db channelId postId).card ≤ 9999)
    (succeed : ∀ t, CadenceSlots.Requested zones db channelId channel postId
      (max requestedAt now) t → ∃ slot, nextAllowedSlot zones t channel = .ok slot) :
    ∃ slot, CadenceSlots.nextFreeSlot zones db channelId channel postId requestedAt now = .ok slot ∧
      IsLeast {x | max requestedAt now ≤ x ∧ OnGrid zone channel x ∧
        ¬ HeldByAnother db channelId postId x} slot := by
  have least : ∀ t x, nextAllowedSlot zones t channel = .ok x →
      IsLeast {y | t ≤ y ∧ y ∈ {x | OnGrid zone channel x}} x :=
    fun t x found => nextAllowedSlot_isLeast known faithful window found
  have later : ∀ x : Int, x < x + nanosPerSecond := fun x => Int.lt_add_of_pos_right x (by decide)
  have skips : ∀ x ∈ {x | OnGrid zone channel x}, ∀ y ∈ {x | OnGrid zone channel x},
      x < y → x + nanosPerSecond ≤ y := fun x hx y hy => OnGrid.second_after hx hy
  obtain ⟨candidate, found⟩ := succeed _ .first
  have fewer : ((occupied db channelId postId).filter (max requestedAt now ≤ ·)).card < 10000 :=
    (Finset.card_filter_le _ _).trans_lt (Nat.lt_succ_of_le few)
  obtain ⟨slot, done, earliest⟩ := searchFree_isLeast CadenceError.cadenceSearchExhausted least
    later skips succeed fewer .first found
    (fun y _ from_ before => absurd from_ (not_le.mpr before)) le_rfl
  refine ⟨slot, ?_, ?_⟩
  · unfold CadenceSlots.nextFreeSlot
    rw [found]
    exact done
  · simp only [← mem_occupied_iff]
    exact earliest

/-- A calendar of stored times that gives the slots of the grid. -/
def Calendar.Follows (calendar : Calendar) (zones : String → Option TimeZone)
    (channel : Channel) : Prop :=
  ∀ t slot, nextAllowedSlot zones (instant t) channel = .ok (instant slot) →
    calendar t channel = .ok slot

theorem instant_le_iff (t u : Nat) : instant t ≤ instant u ↔ t ≤ u := by
  unfold instant
  omega

theorem instant_injective {t u : Time} (h : instant t = instant u) : t = u :=
  le_antisymm ((instant_le_iff t u).mp h.le) ((instant_le_iff u t).mp h.ge)

theorem instant_max (t u : Time) : max (instant t) (instant u) = instant (max t u) := by
  rcases le_total t u with le | le
  · rw [max_eq_right le, max_eq_right ((instant_le_iff t u).mpr le)]
  · rw [max_eq_left le, max_eq_left ((instant_le_iff u t).mpr le)]

theorem instant_second (t : Nat) : instant (t + second) = instant t + nanosPerSecond := by
  unfold instant second nanosPerSecond
  omega

/-- The slots of a window that starts at a whole microsecond can be stored. -/
theorem nextAllowedSlot_stored (known : zones channel.timeZone = some zone)
    (faithful : zone.Faithful) (window : channel.windowEnd < nanosPerDay)
    (whole : channel.windowStart % 1000 = 0) {t : Time} {slot : Int}
    (h : nextAllowedSlot zones (instant t) channel = .ok slot) : ∃ s : Time, instant s = slot := by
  obtain ⟨⟨late, grid⟩, -⟩ := nextAllowedSlot_isLeast known faithful window h
  obtain ⟨m, rfl⟩ := grid.whole_seconds
  have since : (0 : Int) ≤ instant t := Int.mul_nonneg (Int.natCast_nonneg _) (by decide)
  refine ⟨((channel.windowStart + m * nanosPerSecond) / 1000).toNat, ?_⟩
  show (((((channel.windowStart : Int) + m * nanosPerSecond) / 1000).toNat : Nat) : Int) * 1000 = _
  unfold nanosPerSecond at *
  omega

/-- The search over stored times takes the slots of the search over the grid. -/
theorem searchFreeSlot_of_grid {calendar : Calendar} (follows : calendar.Follows zones channel)
    (stored : ∀ t slot, nextAllowedSlot zones (instant t) channel = .ok slot →
      ∃ s : Time, instant s = slot)
    {rounds : Nat} {candidate : Time} {slot : Int}
    (h : searchFree (fun requested => nextAllowedSlot zones requested channel)
      (· + nanosPerSecond) .cadenceSearchExhausted (occupied db channelId postId) rounds
      (instant candidate) = .ok slot) :
    ∃ s, instant s = slot ∧
      searchFreeSlot calendar channel (occupiedSlots db channelId postId) rounds candidate =
        .ok s := by
  induction rounds generalizing candidate with
  | zero => cases h
  | succ rounds ih =>
    have same : instant candidate ∈ occupied db channelId postId ↔
        candidate ∈ occupiedSlots db channelId postId := by
      unfold occupied
      rw [List.mem_toFinset, List.mem_map]
      constructor
      · rintro ⟨t, there, read⟩
        rw [← instant_injective read]
        exact there
      · intro there
        exact ⟨candidate, there, rfl⟩
    unfold searchFree at h
    unfold searchFreeSlot
    by_cases there : candidate ∈ occupiedSlots db channelId postId
    · rw [if_neg (not_not.mpr (same.mpr there)), ← instant_second] at h
      obtain ⟨next, found, rest⟩ := bind_ok.mp h
      obtain ⟨t, rfl⟩ := stored _ _ found
      rw [if_neg (not_not.mpr there), follows _ _ found]
      exact ih rest
    · rw [if_pos (fun taken => there (same.mp taken))] at h
      rw [if_pos there]
      exact ⟨candidate, Except.ok.inj h, rfl⟩

/-- The publisher's slots are the earliest free ones, with a calendar that follows the grid. -/
theorem publisher_nextFreeSlot_isLeast {calendar : Calendar}
    (follows : calendar.Follows zones channel) (known : zones channel.timeZone = some zone)
    (faithful : zone.Faithful) (window : channel.windowEnd < nanosPerDay)
    (whole : channel.windowStart % 1000 = 0) {requestedAt : Time}
    (few : (occupied db channelId postId).card ≤ 9999)
    (succeed : ∀ t, CadenceSlots.Requested zones db channelId channel postId
      (instant (max requestedAt db.now)) t → ∃ slot, nextAllowedSlot zones t channel = .ok slot) :
    ∃ slot, nextFreeSlot calendar db channelId channel postId requestedAt = .ok slot ∧
      IsLeast {x | instant (max requestedAt db.now) ≤ x ∧ OnGrid zone channel x ∧
        ¬ HeldByAnother db channelId postId x} (instant slot) := by
  rw [← instant_max] at succeed
  obtain ⟨slot, done, least⟩ := nextFreeSlot_isLeast known faithful window few succeed
  rw [instant_max] at least
  unfold CadenceSlots.nextFreeSlot at done
  rw [instant_max] at done
  obtain ⟨candidate, found, rest⟩ := bind_ok.mp done
  have stored : ∀ t slot, nextAllowedSlot zones (instant t) channel = .ok slot →
      ∃ s : Time, instant s = slot :=
    fun t slot => nextAllowedSlot_stored known faithful window whole
  obtain ⟨first, rfl⟩ := stored _ _ found
  obtain ⟨s, rfl, taken⟩ := searchFreeSlot_of_grid follows stored rest
  refine ⟨s, ?_, least⟩
  unfold nextFreeSlot
  rw [follows _ _ found]
  exact taken

/-- Slots are the earliest instants of the grid: from the request on, and for a
    post from the request or the present on, past the slots of other posts. -/
theorem cadence_slots_are_earliest (zones : String → Option TimeZone)
    (faithful : ∀ name zone, zones name = some zone → zone.Faithful) (db : Db)
    (channelId postId : Uuid) (channel : Channel) (window : channel.windowEnd < nanosPerDay)
    (requested now : Int) :
    (∀ slot, nextAllowedSlot zones requested channel = .ok slot →
      ∃ zone, zones channel.timeZone = some zone ∧
        IsLeast {x | requested ≤ x ∧ OnGrid zone channel x} slot) ∧
    ((occupied db channelId postId).card ≤ 9999 →
      (∀ t, CadenceSlots.Requested zones db channelId channel postId (max requested now) t →
        ∃ slot, nextAllowedSlot zones t channel = .ok slot) →
      ∃ zone slot, zones channel.timeZone = some zone ∧
        CadenceSlots.nextFreeSlot zones db channelId channel postId requested now = .ok slot ∧
        IsLeast {x | max requested now ≤ x ∧ OnGrid zone channel x ∧
          ¬ HeldByAnother db channelId postId x} slot) := by
  constructor
  · intro slot found
    obtain ⟨zone, known⟩ := nextAllowedSlot_known found
    exact ⟨zone, known, nextAllowedSlot_isLeast known (faithful _ _ known) window found⟩
  · intro few succeed
    obtain ⟨first, found⟩ := succeed _ .first
    obtain ⟨zone, known⟩ := nextAllowedSlot_known found
    obtain ⟨slot, done, least⟩ :=
      nextFreeSlot_isLeast known (faithful _ _ known) window few succeed
    exact ⟨zone, slot, known, done, least⟩

end Slots

section NewYork

/-- The offsets of New York in 2026: daylight saving time between the two changes. -/
def newYorkOffset (x : Int) : Int :=
  if 1772953200 * nanosPerSecond ≤ x ∧ x < 1793512800 * nanosPerSecond then -14400 else -18000

def newYork : TimeZone where
  offset := newYorkOffset
  fromLocalDateTime := fun target =>
    let daylight := target + 14400 * nanosPerSecond
    let standard := target + 18000 * nanosPerSecond
    if newYorkOffset daylight = -14400 then
      if newYorkOffset standard = -18000 then .ambiguous daylight standard else .single daylight
    else if newYorkOffset standard = -18000 then .single standard else .none

theorem newYork_naiveLocal_iff (x target : Int) : newYork.naiveLocal x = target ↔
    (x = target + 14400 * nanosPerSecond ∧ newYorkOffset x = -14400) ∨
      (x = target + 18000 * nanosPerSecond ∧ newYorkOffset x = -18000) := by
  unfold TimeZone.naiveLocal newYork newYorkOffset nanosPerSecond
  dsimp only
  split <;> omega

theorem newYork_faithful : newYork.Faithful where
  preimages := by
    intro x target
    rw [newYork_naiveLocal_iff]
    unfold newYork LocalResult.resolved
    dsimp only
    split_ifs <;> simp only [List.mem_cons, List.not_mem_nil] <;> grind
  forward := by
    intro x y le
    unfold TimeZone.dateNaive TimeZone.naiveLocal newYork newYorkOffset nanosPerSecond nanosPerDay
    dsimp only
    split <;> split <;> omega

def sampleZones : String → Option TimeZone := fun name =>
  if name = "America/New_York" then some newYork else none

theorem sampleZones_faithful : ∀ name zone, sampleZones name = some zone → zone.Faithful := by
  intro name zone known
  unfold sampleZones at known
  split at known
  · obtain rfl := Option.some.inj known
    exact newYork_faithful
  · cases known

/-- From one to four in the morning, every half hour. -/
def nightChannel : Channel where
  telegramChatId := -100123
  isEnabled := true
  timeZone := "America/New_York"
  windowStart := 3600000000000
  windowEnd := 14400000000000
  intervalMinutes := 30
  defaultParseMode := none
  defaultDisableNotification := false
  updatedAt := (0 : Nat)

/-- Another post is queued at half past one, before the clock goes back. -/
def sampleWaiting : Db :=
  { Db.empty with
    posts := Table.set ∅ 7
      { draftPost (0 : Nat) 3 1 with
        state := .queued
        cadenceSlotAt := some (1793511000000000 : Nat) } }

/-- A quarter past one, before the clock goes back; the slot at half past is
    taken, and the next one is at one o'clock again. -/
theorem fold_is_searched :
    nextAllowedSlot sampleZones 1793510100000000000 nightChannel = .ok 1793511000000000000 ∧
    IsLeast {x | 1793510100000000000 ≤ x ∧ OnGrid newYork nightChannel x} 1793511000000000000 ∧
    CadenceSlots.nextFreeSlot sampleZones sampleWaiting 1 nightChannel 9
      1793510100000000000 1793510000000000000 = .ok 1793512800000000000 ∧
    IsLeast {x | 1793510100000000000 ≤ x ∧ OnGrid newYork nightChannel x ∧
      ¬ HeldByAnother sampleWaiting 1 9 x} 1793512800000000000 := by
  have found : nextAllowedSlot sampleZones 1793510100000000000 nightChannel =
      .ok 1793511000000000000 := by decide +kernel
  have found' : nextAllowedSlot sampleZones 1793511001000000000 nightChannel =
      .ok 1793512800000000000 := by decide +kernel
  have free : 1793512800000000000 ∉ occupied sampleWaiting 1 9 := by decide +kernel
  have result : CadenceSlots.nextFreeSlot sampleZones sampleWaiting 1 nightChannel 9
      1793510100000000000 1793510000000000000 = .ok 1793512800000000000 := by decide +kernel
  -- The search asks twice, the second time a second after the taken slot.
  have asked : ∀ t, CadenceSlots.Requested sampleZones sampleWaiting 1 nightChannel 9
      1793510100000000000 t → t = 1793510100000000000 ∨ t = 1793511001000000000 := by
    intro t requested
    induction requested with
    | first => exact Or.inl rfl
    | again asked next there ih =>
      rcases ih with rfl | rfl
      · rw [found] at next
        cases next
        exact Or.inr rfl
      · rw [found'] at next
        cases next
        exact absurd there free
  obtain ⟨allowed, next⟩ := cadence_slots_are_earliest sampleZones sampleZones_faithful
    sampleWaiting 1 9 nightChannel (by decide) 1793510100000000000 1793510000000000000
  obtain ⟨zone, known, least⟩ := allowed _ found
  cases known
  obtain ⟨zone, slot, known, done, least'⟩ := next (by decide +kernel) (by
    intro t requested
    rcases asked t requested with rfl | rfl
    · exact ⟨_, found⟩
    · exact ⟨_, found'⟩)
  cases known
  rw [result] at done
  cases done
  exact ⟨found, least, result, least'⟩

/-- A request for the past is served from the present on: the slot at half past
    one was not before the request and is free, but it is over. -/
theorem past_slot_is_passed_over :
    ∃ slot, CadenceSlots.nextFreeSlot sampleZones Db.empty 1 nightChannel 9
        1793510100000000000 1793511600000000000 = .ok slot ∧
      (∀ name zone, sampleZones name = some zone → zone.Faithful) ∧
      nightChannel.windowStart < nightChannel.windowEnd ∧ 0 < nightChannel.intervalMinutes ∧
      (occupied Db.empty 1 9).card ≤ 9999 ∧
      (∀ t, CadenceSlots.Requested sampleZones Db.empty 1 nightChannel 9 1793511600000000000 t →
        ∃ slot, nextAllowedSlot sampleZones t nightChannel = .ok slot) ∧
      ¬ IsLeast {x | 1793510100000000000 ≤ x ∧ OnGrid newYork nightChannel x ∧
        ¬ HeldByAnother Db.empty 1 9 x} slot := by
  have found : nextAllowedSlot sampleZones 1793511600000000000 nightChannel =
      .ok 1793512800000000000 := by decide +kernel
  have nobody : ∀ x, ¬ HeldByAnother Db.empty 1 9 x := by
    rintro x ⟨q, other, t, -, there, -⟩
    cases there
  refine ⟨1793512800000000000, by decide +kernel, sampleZones_faithful, by decide, by decide,
    by decide +kernel, ?_, ?_⟩
  · intro t requested
    cases requested with
    | first => exact ⟨_, found⟩
    | again asked next there => exact absurd (mem_occupied_iff.mp there) (nobody _)
  · intro least
    have grid : OnGrid newYork nightChannel 1793511000000000000 := ⟨1, by decide, by decide⟩
    have bound := least.2 ⟨by decide, grid, nobody _⟩
    exact absurd bound (by decide)

end NewYork
end Sooqa.Publisher
