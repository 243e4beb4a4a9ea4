import Sooqa.Foundation.Numerals
import Sooqa.Queue.Job

/-!
Page cursors: an instant and an identifier in one text. The clock of the store
counts microseconds from the first instant that the calendar has.
-/
namespace Sooqa.Api
open Foundation Queue

section Instants

/-- The first and the last instant of the calendar in nanoseconds of Unix
    time: the years from -9999 to 9999. -/
def firstNanos : Int := -377705116800000000000
def lastNanos : Int := 253402300799999999999

/-- The instant of a column as it is read from the database. -/
def unixNanos (time : Time) : Int := firstNanos + 1000 * time

/-- The instant that the database counts its microseconds from: the start of
    the year 2000. -/
def postgresEpochNanos : Int := 946684800000000000

/-- An instant as it is bound to a query: whole microseconds, cut off. -/
def boundMicros (nanos : Int) : Int := (nanos - postgresEpochNanos).tdiv 1000

/-- A column as the database holds it. -/
def storedMicros (time : Time) : Int := time - 378651801600000000

/-- An instant that was read from the database is bound as the same one. -/
theorem boundMicros_unixNanos (time : Time) : boundMicros (unixNanos time) = storedMicros time := by
  have micros : unixNanos time - postgresEpochNanos = storedMicros time * 1000 := by
    unfold unixNanos firstNanos postgresEpochNanos storedMicros
    omega
  rw [boundMicros, micros, Int.mul_tdiv_cancel _ (by decide)]

theorem storedMicros_lt {time other : Time} :
    storedMicros time < storedMicros other ↔ time < other :=
  Int.sub_lt_sub_right_iff.trans Int.ofNat_lt

theorem storedMicros_inj {time other : Time} :
    storedMicros time = storedMicros other ↔ time = other :=
  (Int.sub_left_inj _).trans Int.ofNat_inj

end Instants

section Codec

def encode (timestamp : Int) (id : Uuid) : List Char := decimalText timestamp ++ ':' :: uuidText id

def decode (value : List Char) : Option (Int × Uuid) := do
  let (timestamp, id) ← splitOnce ':' value
  let timestamp ← parseI128 timestamp
  guard (firstNanos ≤ timestamp ∧ timestamp ≤ lastNanos)
  let id ← parseUuid id
  return (timestamp, id)

theorem decimalText_free (n : Int) : ':' ∉ decimalText n := by
  have digits : ∀ m : Nat, ':' ∉ Nat.toDigits 10 m := by
    intro m member
    exact absurd (Nat.isDigit_of_mem_toDigits (by decide) (by decide) member) (by decide)
  unfold decimalText
  split
  · intro member
    rcases List.mem_cons.mp member with sign | digit
    · exact absurd sign (by decide)
    · exact digits _ digit
  · exact digits _

theorem decode_encode {timestamp : Int} {id : Uuid} (first : firstNanos ≤ timestamp)
    (last : timestamp ≤ lastNanos) (small : id < 2 ^ 128) :
    decode (encode timestamp id) = some (timestamp, id) := by
  have number : parseI128 (decimalText timestamp) = some timestamp := by
    unfold firstNanos at first
    unfold lastNanos at last
    exact parseI128_decimalText (by omega) (by omega)
  rw [decode, encode, splitOnce_first (decimalText_free timestamp)]
  simp [number, parseUuid_uuidText small, first, last, guard]

theorem firstNanos_le (time : Time) : firstNanos ≤ unixNanos time := by
  unfold unixNanos
  omega

end Codec

end Sooqa.Api
