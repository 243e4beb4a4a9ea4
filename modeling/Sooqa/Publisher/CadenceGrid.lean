import Mathlib.Tactic.Positivity
import Mathlib.Tactic.Ring
import Sooqa.Foundation.Earliest
import Sooqa.Publisher.Repository

/-!
The cadence grid of a channel: instants whose local time lies a multiple of the
interval after the start of the window and before its end. Instants count
nanoseconds since the Unix epoch, local times those since the first midnight of
1970 on the wall clock. The time zone database is a parameter: the offset in force at an
instant, and the instants a clock reads a local time at, none in a gap and two
in a fold.
-/
namespace Sooqa.Publisher
open Foundation Foundation.Earliest

def nanosPerSecond : Int := 1000000000
def nanosPerMinute : Int := 60000000000
def nanosPerDay : Int := 86400000000000

inductive LocalResult where
  | none
  | single (value : Int)
  | ambiguous (earliest latest : Int)
  deriving DecidableEq, Repr

def LocalResult.resolved : LocalResult → List Int
  | .single value => [value]
  | .ambiguous earliest latest => [earliest, latest]
  | .none => []

/-- What is used of a zone: the offset from UTC in seconds, and the way back. -/
structure TimeZone where
  offset : Int → Int
  fromLocalDateTime : Int → LocalResult

namespace TimeZone

def naiveLocal (zone : TimeZone) (x : Int) : Int :=
  x + zone.offset x * nanosPerSecond

/-- The local date, in days since the one of the epoch. -/
def dateNaive (zone : TimeZone) (x : Int) : Int := zone.naiveLocal x / nanosPerDay

def time (zone : TimeZone) (x : Int) : Int := zone.naiveLocal x % nanosPerDay

/-- Local times resolve to exactly the instants that read so, and local dates
    do not go back. -/
structure Faithful (zone : TimeZone) : Prop where
  preimages : ∀ x target,
    x ∈ (zone.fromLocalDateTime target).resolved ↔ zone.naiveLocal x = target
  forward : Monotone zone.dateNaive

end TimeZone

inductive CadenceError where
  | invalidTimeZone (name : String)
  | invalidTimestamp
  | cadenceSearchExhausted
  deriving DecidableEq, Repr

/-- The range of the calendar library: the years -262143 to 262142. -/
def toChrono (value : Int) : Except CadenceError Int :=
  if -8334601228800 * nanosPerSecond ≤ value ∧ value < 8210266876800 * nanosPerSecond then
    .ok value
  else .error .invalidTimestamp

/-- The way back goes through nanoseconds in 64 bits. -/
def fromChrono (value : Int) : Except CadenceError Int :=
  if -2 ^ 63 ≤ value ∧ value < 2 ^ 63 then .ok value else .error .invalidTimestamp

/-- The grid from one target on: the earliest instant not before the candidate
    that reads a target of it, or what was found before. -/
def scanTargets (zone : TimeZone) (candidate : Int) (interval : {minutes : Int // 0 < minutes})
    (endTarget target : Int) (earliest : Option Int) : Option Int :=
  if _inside : target < endTarget then
    scanTargets zone candidate interval endTarget (target + interval.1 * nanosPerMinute)
      ((zone.fromLocalDateTime target).resolved.foldl (keep candidate) earliest)
  else earliest
termination_by (endTarget - target).toNat
decreasing_by
  have := interval.2
  unfold nanosPerMinute
  omega

/-- The complete grid of one local day. -/
def scanDay (zone : TimeZone) (candidate : Int) (channel : Channel)
    (positive : 0 < channel.intervalMinutes) (date : Int) : Option Int :=
  scanTargets zone candidate ⟨channel.intervalMinutes, positive⟩
    (date * nanosPerDay + channel.windowEnd) (date * nanosPerDay + channel.windowStart) none

def nextAllowedSlot (zones : String → Option TimeZone) (requested : Int) (channel : Channel) :
    Except CadenceError Int :=
  match zones channel.timeZone with
  | none => .error (.invalidTimeZone channel.timeZone)
  | some zone => do
    let candidate ← toChrono requested
    if positive : 0 < channel.intervalMinutes then
      match firstDay (scanDay zone candidate channel positive) 370 (zone.dateNaive candidate) with
      | some result => fromChrono result
      | none => .error .cadenceSearchExhausted
    else .error .cadenceSearchExhausted

/-- The local time of an instant is on the channel's daily grid. -/
def OnGrid (zone : TimeZone) (channel : Channel) (x : Int) : Prop :=
  ∃ k : Nat, zone.time x = channel.windowStart + k * (channel.intervalMinutes * nanosPerMinute) ∧
    zone.time x < channel.windowEnd

section Grid
variable {zone : TimeZone} {channel : Channel} {x y candidate : Int}

/-- What a scan of the targets from one on leaves found. -/
theorem scanTargets_found (faithful : zone.Faithful) {interval : {minutes : Int // 0 < minutes}}
    {endTarget target : Int} {earliest : Option Int} {s : Set Int}
    (h : Found s earliest) :
    Found (s ∪ {x | candidate ≤ x ∧ zone.naiveLocal x < endTarget ∧
        ∃ k : Nat, zone.naiveLocal x = target + k * (interval.1 * nanosPerMinute)})
      (scanTargets zone candidate interval endTarget target earliest) := by
  have positive := interval.2
  fun_induction scanTargets zone candidate interval endTarget target earliest generalizing s with
  | case1 target earliest inside ih =>
    apply (ih (h.keepAll _)).congr
    intro x
    simp only [Set.mem_union, Set.mem_ofPred_eq, faithful.preimages, or_assoc]
    apply or_congr_right
    constructor
    · rintro (⟨here, late⟩ | ⟨late, before, k, reads⟩)
      · exact ⟨late, here ▸ inside, 0, by simp [here]⟩
      · exact ⟨late, before, k + 1, by rw [reads]; push_cast; ring⟩
    · rintro ⟨late, before, k, reads⟩
      cases k with
      | zero => exact Or.inl ⟨by simpa using reads, late⟩
      | succ k => exact Or.inr ⟨late, before, k, by rw [reads]; push_cast; ring⟩
  | case2 target earliest outside =>
    apply h.congr
    intro x
    simp only [Set.mem_union, Set.mem_ofPred_eq]
    apply (or_iff_left ?_).symm
    rintro ⟨-, before, k, reads⟩
    have ahead : 0 ≤ (k : Int) * (interval.1 * nanosPerMinute) := by
      unfold nanosPerMinute
      positivity
    omega

/-- A day's part of the grid is what its targets read. -/
theorem onGrid_on_day_iff (window : channel.windowEnd < nanosPerDay)
    (positive : 0 < channel.intervalMinutes) (date : Int) :
    OnGrid zone channel x ∧ zone.dateNaive x = date ↔
      zone.naiveLocal x < date * nanosPerDay + channel.windowEnd ∧
        ∃ k : Nat, zone.naiveLocal x = date * nanosPerDay + channel.windowStart +
          k * (channel.intervalMinutes * nanosPerMinute) := by
  unfold OnGrid TimeZone.time TimeZone.dateNaive nanosPerDay at *
  constructor
  · rintro ⟨⟨k, reads, before⟩, today⟩
    constructor
    · omega
    · exact ⟨k, by omega⟩
  · rintro ⟨before, k, reads⟩
    have ahead : 0 ≤ (k : Int) * (channel.intervalMinutes * nanosPerMinute) := by
      unfold nanosPerMinute
      positivity
    constructor
    · exact ⟨k, by omega, by omega⟩
    · omega

theorem scanDay_found (faithful : zone.Faithful) (window : channel.windowEnd < nanosPerDay)
    (positive : 0 < channel.intervalMinutes) (date : Int) :
    Found {x | x ∈ {x | candidate ≤ x ∧ OnGrid zone channel x} ∧ zone.dateNaive x = date}
      (scanDay zone candidate channel positive date) := by
  have nothing : Found (∅ : Set Int) none := rfl
  apply (scanTargets_found faithful nothing).congr
  intro x
  simp only [Set.mem_union, Set.mem_empty_iff_false, false_or, Set.mem_ofPred_eq, and_assoc]
  rw [onGrid_on_day_iff window positive date]

theorem toChrono_ok (h : toChrono x = .ok y) : y = x := by
  unfold toChrono at h
  split at h
  · exact (Except.ok.inj h).symm
  · cases h

theorem fromChrono_ok (h : fromChrono x = .ok y) : y = x := by
  unfold fromChrono at h
  split at h
  · exact (Except.ok.inj h).symm
  · cases h

/-- The slot found is the earliest instant of the grid from the request on. -/
theorem nextAllowedSlot_isLeast {zones : String → Option TimeZone} {requested slot : Int}
    (known : zones channel.timeZone = some zone) (faithful : zone.Faithful)
    (window : channel.windowEnd < nanosPerDay)
    (h : nextAllowedSlot zones requested channel = .ok slot) :
    IsLeast {x | requested ≤ x ∧ OnGrid zone channel x} slot := by
  unfold nextAllowedSlot at h
  rw [known] at h
  obtain ⟨candidate, converted, searched⟩ := bind_ok.mp h
  obtain rfl := toChrono_ok converted
  by_cases positive : 0 < channel.intervalMinutes
  · rw [dif_pos positive] at searched
    split at searched
    · rename_i result hit
      obtain rfl := fromChrono_ok searched
      apply firstDay_isLeast faithful.forward (scanDay_found faithful window positive) ?_ hit
      rintro x ⟨late, -⟩
      exact faithful.forward late
    · cases searched
  · rw [dif_neg positive] at searched
    cases searched

end Grid
end Sooqa.Publisher
