import Sooqa.Foundation.Bytes
import Sooqa.Foundation.Tokens
import Sooqa.Media.VideoSequence

/-!
The configuration record of an H.264 stream (avcC), and its reading from the
bytes and from the hexdump that the prober prints of them.
-/
namespace Sooqa.Media
open Foundation

section Model

def maxAvccExtradataBytes : Nat := 4096

@[ext] structure AvcCDeclaration where
  profileIdc : UInt8
  profileCompatibility : UInt8
  levelIdc : UInt8
  deriving DecidableEq, Repr

/-- How reading a record can end without a declaration: there is none, or a
    panic on an index outside the bytes. -/
inductive NoDeclaration where
  | absent
  | outOfBounds
  deriving DecidableEq, Repr

/-- `bytes[i]`, which panics outside the bytes. -/
def byteAt (bytes : List UInt8) (i : Nat) : Except NoDeclaration UInt8 :=
  expect bytes[i]? .outOfBounds

/-- Steps over so many units, each behind its length in two bytes. -/
def skipUnits (bytes : List UInt8) : Nat → Nat → Except NoDeclaration Nat
  | 0, offset => .ok offset
  | count + 1, offset => do
    let high ← expect bytes[offset]? .absent
    let low ← expect bytes[offset + 1]? .absent
    let length := high.toNat * 256 + low.toNat
    let start ← expect (checkedAdd offset 2) .absent
    let offset ← expect (checkedAdd start length) .absent
    require (offset ≤ bytes.length) .absent
    skipUnits bytes count offset

def parseAvccBytes (bytes : List UInt8) : Except NoDeclaration AvcCDeclaration := do
  require (8 ≤ bytes.length) .absent
  let version ← byteAt bytes 0
  require (version = 1) .absent
  let lengthSize ← byteAt bytes 4
  require (lengthSize &&& 0x03 = 3) .absent
  let profileIdc ← byteAt bytes 1
  let profileCompatibility ← byteAt bytes 2
  let levelIdc ← byteAt bytes 3
  let declaration : AvcCDeclaration := ⟨profileIdc, profileCompatibility, levelIdc⟩
  let counts ← byteAt bytes 5
  let spsCount := (counts &&& 0x1f).toNat
  require (spsCount ≠ 0) .absent
  let offset ← skipUnits bytes spsCount 6
  let pps ← expect bytes[offset]? .absent
  let offset ← expect (checkedAdd offset 1) .absent
  require (pps.toNat ≠ 0) .absent
  let _ ← skipUnits bytes pps.toNat offset
  return declaration

/-- A token of four hexadecimal digits. -/
def isWord (token : List Char) : Bool := token.length == 4 && token.all isHexDigit

/-- The two bytes of a word, the higher one first. -/
def wordBytes (token : List Char) : List UInt8 :=
  [.ofNat (hexNumber token / 256), .ofNat (hexNumber token % 256)]

/-- The bytes with the leading words of a line, and whether that is enough. -/
def takeWords (bytes : List UInt8) : List (List Char) → List UInt8 × Bool
  | [] => (bytes, false)
  | token :: tokens =>
    if isWord token then
      let bytes := bytes ++ wordBytes token
      if bytes.length ≥ maxAvccExtradataBytes then (bytes, true) else takeWords bytes tokens
    else (bytes, false)

def collectWords (bytes : List UInt8) : List (List Char) → List UInt8
  | [] => bytes
  | line :: lines =>
    match splitOnce ':' line with
    | none => collectWords bytes lines
    | some (_, payload) =>
      match takeWords bytes (words isWhitespace payload) with
      | (bytes, true) => bytes
      | (bytes, false) => collectWords bytes lines

def parseAvccExtradata (value : List Char) : Except NoDeclaration AvcCDeclaration :=
  parseAvccBytes (collectWords [] (lines value))

end Model

section Record

/-- The bytes of a unit behind its length. -/
def encodeUnit (unit : List UInt8) : List UInt8 :=
  [.ofNat (unit.length / 256), .ofNat (unit.length % 256)] ++ unit

/-- A well-formed record: version 1, lengths of four bytes, at least one
    parameter set of either kind. -/
structure AvccRecord where
  declaration : AvcCDeclaration
  lengthSize : UInt8
  counts : UInt8
  sps : List (List UInt8)
  pps : List (List UInt8)
  /-- What follows the parameter sets. -/
  rest : List UInt8
  fourBytes : lengthSize &&& 0x03 = 3
  spsCount : sps.length = (counts &&& 0x1f).toNat
  spsSome : sps ≠ []
  ppsSome : pps ≠ []
  ppsFew : pps.length < 256
  spsShort : ∀ unit ∈ sps, unit.length < 65536
  ppsShort : ∀ unit ∈ pps, unit.length < 65536

def AvccRecord.header (record : AvccRecord) : List UInt8 :=
  [1, record.declaration.profileIdc, record.declaration.profileCompatibility,
    record.declaration.levelIdc, record.lengthSize, record.counts]

def AvccRecord.encode (record : AvccRecord) : List UInt8 :=
  record.header ++ record.sps.flatMap encodeUnit ++ [.ofNat record.pps.length] ++
    record.pps.flatMap encodeUnit ++ record.rest

/-- The bytes are those of a well-formed record. -/
def IsRecord (bytes : List UInt8) : Prop := ∃ record : AvccRecord, record.encode = bytes

end Record

section Units
variable {bytes : List UInt8} {offset stop : Nat}

theorem checkedAdd_some {n m sum : Nat} :
    checkedAdd n m = some sum ↔ n + m = sum ∧ n + m < 2 ^ 64 := by
  unfold checkedAdd
  split
  · rename_i fits
    simp only [Option.some.injEq, fits, and_true]
  · rename_i overflow
    simp only [reduceCtorEq, overflow, and_false]

theorem unit_length {unit : List UInt8} (short : unit.length < 65536) :
    (UInt8.ofNat (unit.length / 256)).toNat * 256 + (UInt8.ofNat (unit.length % 256)).toNat =
      unit.length := by
  rw [UInt8.toNat_ofNat', UInt8.toNat_ofNat']
  omega

theorem encodeUnit_bytes {high low : UInt8} {unit : List UInt8}
    (length : unit.length = high.toNat * 256 + low.toNat) :
    encodeUnit unit = [high, low] ++ unit := by
  have highBound := high.toNat_lt
  have lowBound := low.toNat_lt
  have first : UInt8.ofNat (unit.length / 256) = high := by
    apply UInt8.toNat_inj.mp
    rw [UInt8.toNat_ofNat']
    omega
  have second : UInt8.ofNat (unit.length % 256) = low := by
    apply UInt8.toNat_inj.mp
    rw [UInt8.toNat_ofNat']
    omega
  rw [encodeUnit, first, second]

/-- Where a unit starts, its length and its bytes are found. -/
theorem finds_unit {unit : List UInt8} :
    Finds bytes offset (encodeUnit unit) ↔
      bytes[offset]? = some (.ofNat (unit.length / 256)) ∧
        bytes[offset + 1]? = some (.ofNat (unit.length % 256)) ∧
        Finds bytes (offset + 2) unit := by
  have split : encodeUnit unit =
      [UInt8.ofNat (unit.length / 256)] ++ ([UInt8.ofNat (unit.length % 256)] ++ unit) := rfl
  rw [split, finds_append, finds_append, finds_byte, finds_byte]
  rfl

/-- Stepping over units succeeds where as many of them stand. -/
theorem skipUnits_ok (small : bytes.length < 2 ^ 63) {count : Nat} :
    skipUnits bytes count offset = .ok stop ↔
      ∃ units : List (List UInt8), units.length = count ∧
        (∀ unit ∈ units, unit.length < 65536) ∧ Finds bytes offset (units.flatMap encodeUnit) ∧
        stop = offset + (units.flatMap encodeUnit).length := by
  induction count generalizing offset with
  | zero =>
    rw [skipUnits]
    constructor
    · intro h
      obtain rfl := Except.ok.inj h
      exact ⟨[], rfl, by simp, by simp [Finds], rfl⟩
    · rintro ⟨units, none, -, -, rfl⟩
      obtain rfl := List.length_eq_zero_iff.mp none
      rfl
  | succ count ih =>
    rw [skipUnits]
    simp only [bind_ok, expect_ok, require_ok, checkedAdd_some]
    constructor
    · rintro ⟨high, highAt, low, lowAt, start, ⟨rfl, -⟩, next, ⟨rfl, -⟩, _, inside, rest⟩
      obtain ⟨units, counted, short, found, rfl⟩ := ih.mp rest
      have width := field_length inside
      have unit := encodeUnit_bytes width
      have highBound := high.toNat_lt
      have lowBound := low.toNat_lt
      have here : Finds bytes offset
          (encodeUnit (field bytes (offset + 2) (high.toNat * 256 + low.toNat))) := by
        rw [unit]
        have split : [high, low] ++ field bytes (offset + 2) (high.toNat * 256 + low.toNat) =
          [high] ++ ([low] ++ field bytes (offset + 2) (high.toNat * 256 + low.toNat)) := rfl
        rw [split, finds_append, finds_append, finds_byte, finds_byte]
        exact ⟨highAt, lowAt, field_finds inside⟩
      have size : (encodeUnit (field bytes (offset + 2)
          (high.toNat * 256 + low.toNat))).length = 2 + (high.toNat * 256 + low.toNat) := by
        rw [unit, List.length_append, width]
        rfl
      refine ⟨field bytes (offset + 2) (high.toNat * 256 + low.toNat) :: units, ?_, ?_, ?_, ?_⟩
      · rw [List.length_cons, counted]
      · intro other member
        rcases List.mem_cons.mp member with rfl | member
        · rw [width]
          omega
        · exact short other member
      · rw [List.flatMap_cons, finds_append, size, ← Nat.add_assoc]
        exact ⟨here, found⟩
      · rw [List.flatMap_cons, List.length_append, size]
        omega
    · rintro ⟨units, counted, short, found, rfl⟩
      cases units with
      | nil => cases counted
      | cons unit units =>
        rw [List.flatMap_cons, finds_append] at found
        obtain ⟨here, later⟩ := found
        obtain ⟨highAt, lowAt, -⟩ := finds_unit.mp here
        have inside := here.inside (by simp [encodeUnit])
        have size : (encodeUnit unit).length = 2 + unit.length := by
          simp [encodeUnit]
          omega
        have length := unit_length (short unit List.mem_cons_self)
        refine ⟨_, highAt, _, lowAt, _, ⟨rfl, by omega⟩, _, ⟨rfl, by omega⟩, (), by omega, ?_⟩
        rw [length]
        refine ih.mpr ⟨units, Nat.succ.inj counted,
          fun other member => short other (List.mem_cons_of_mem _ member), ?_, ?_⟩
        · rwa [size, ← Nat.add_assoc] at later
        · rw [List.flatMap_cons, List.length_append, size]
          omega

end Units

section Records
variable {bytes : List UInt8}

theorem byteAt_ok {i : Nat} {byte : UInt8} :
    byteAt bytes i = .ok byte ↔ bytes[i]? = some byte := expect_ok

theorem finds_header_bytes {a b c d e f : UInt8} :
    Finds bytes 0 [a, b, c, d, e, f] ↔
      bytes[0]? = some a ∧ bytes[1]? = some b ∧ bytes[2]? = some c ∧ bytes[3]? = some d ∧
        bytes[4]? = some e ∧ bytes[5]? = some f := by
  have split : [a, b, c, d, e, f] = [a] ++ ([b] ++ ([c] ++ ([d] ++ ([e] ++ [f])))) := rfl
  rw [split, finds_append, finds_append, finds_append, finds_append, finds_append, finds_byte,
    finds_byte, finds_byte, finds_byte, finds_byte, finds_byte]
  rfl

/-- The bytes of a record are those of its parts, one behind the other. -/
theorem encode_eq_iff {record : AvccRecord} :
    record.encode = bytes ↔
      Finds bytes 0 record.header ∧ Finds bytes 6 (record.sps.flatMap encodeUnit) ∧
        bytes[6 + (record.sps.flatMap encodeUnit).length]? = some (.ofNat record.pps.length) ∧
        Finds bytes (6 + (record.sps.flatMap encodeUnit).length + 1)
          (record.pps.flatMap encodeUnit) ∧
        record.rest = bytes.drop (6 + (record.sps.flatMap encodeUnit).length + 1 +
          (record.pps.flatMap encodeUnit).length) := by
  have parts : Finds bytes 0 (record.header ++ record.sps.flatMap encodeUnit ++
      [.ofNat record.pps.length] ++ record.pps.flatMap encodeUnit) ↔
        Finds bytes 0 record.header ∧ Finds bytes 6 (record.sps.flatMap encodeUnit) ∧
          bytes[6 + (record.sps.flatMap encodeUnit).length]? = some (.ofNat record.pps.length) ∧
          Finds bytes (6 + (record.sps.flatMap encodeUnit).length + 1)
            (record.pps.flatMap encodeUnit) := by
    have six : record.header.length = 6 := rfl
    rw [finds_append, finds_append, finds_append, finds_byte]
    simp only [List.length_append, six, List.length_singleton, Nat.zero_add, and_assoc]
  have size : (record.header ++ record.sps.flatMap encodeUnit ++
      [UInt8.ofNat record.pps.length] ++ record.pps.flatMap encodeUnit).length = 6 + (record.sps.flatMap encodeUnit).length + 1 +
        (record.pps.flatMap encodeUnit).length := by
    simp only [List.length_append, List.length_singleton]
    rfl
  constructor
  · intro encoded
    have found : Finds bytes 0 (record.header ++ record.sps.flatMap encodeUnit ++
        [.ofNat record.pps.length] ++ record.pps.flatMap encodeUnit) := by
      rw [Finds, Nat.zero_add, List.drop_zero, ← encoded, AvccRecord.encode, List.drop_left]
    have rest : record.rest = bytes.drop (6 + (record.sps.flatMap encodeUnit).length + 1 +
        (record.pps.flatMap encodeUnit).length) := by
      rw [← size, ← encoded, AvccRecord.encode, List.drop_left]
    obtain ⟨header, sps, count, pps⟩ := parts.mp found
    exact ⟨header, sps, count, pps, rest⟩
  · rintro ⟨header, sps, count, pps, rest⟩
    have found := parts.mpr ⟨header, sps, count, pps⟩
    rw [Finds, Nat.zero_add, List.drop_zero, size, ← rest] at found
    exact found.symm

/-- A declaration is read exactly from the bytes of a well-formed record. -/
theorem parseAvccBytes_ok (small : bytes.length < 2 ^ 63) {declaration : AvcCDeclaration} :
    parseAvccBytes bytes = .ok declaration ↔
      ∃ record : AvccRecord, record.encode = bytes ∧ record.declaration = declaration := by
  unfold parseAvccBytes
  simp only [bind_ok, require_ok, byteAt_ok, expect_ok, checkedAdd_some, skipUnits_ok small,
    pure_ok]
  constructor
  · rintro ⟨_, long, _, version, _, rfl, lengthSize, sizeAt, _, fourBytes, profile, profileAt,
      compatibility, compatibilityAt, level, levelAt, counts, countsAt, _, some, _,
      ⟨sps, spsCount, spsShort, spsFound, rfl⟩, count, countAt, _, ⟨rfl, -⟩, _, ppsSome, _,
      ⟨pps, ppsCount, ppsShort, ppsFound, rfl⟩, rfl⟩
    have bound := count.toNat_lt
    refine ⟨⟨⟨profile, compatibility, level⟩, lengthSize, counts, sps, pps,
      bytes.drop (6 + (sps.flatMap encodeUnit).length + 1 + (pps.flatMap encodeUnit).length),
      fourBytes, spsCount, ?_, ?_, by omega, spsShort, ppsShort⟩, encode_eq_iff.mpr ⟨?_, spsFound, ?_,
        ppsFound, rfl⟩, rfl⟩
    · rintro rfl
      exact some spsCount.symm
    · rintro rfl
      exact ppsSome ppsCount.symm
    · exact finds_header_bytes.mpr ⟨version, profileAt, compatibilityAt, levelAt, sizeAt, countsAt⟩
    · rw [countAt, ppsCount, UInt8.ofNat_toNat]
  · rintro ⟨record, encoded, rfl⟩
    obtain ⟨header, sps, count, pps, -⟩ := encode_eq_iff.mp encoded
    obtain ⟨version, profileAt, compatibilityAt, levelAt, sizeAt, countsAt⟩ :=
      finds_header_bytes.mp header
    have ppsCount : (UInt8.ofNat record.pps.length).toNat = record.pps.length := by
      rw [UInt8.toNat_ofNat', Nat.mod_eq_of_lt record.ppsFew]
    have spsSome : (record.counts &&& 0x1f).toNat ≠ 0 := by
      rw [← record.spsCount]
      exact fun none => record.spsSome (List.length_eq_zero_iff.mp none)
    have ppsSome : record.pps.length ≠ 0 := fun none =>
      record.ppsSome (List.length_eq_zero_iff.mp none)
    have inside := (List.getElem?_eq_some_iff.mp count).1
    have unit : 2 ≤ (record.sps.flatMap encodeUnit).length := by
      obtain ⟨unit, units, shape⟩ := List.exists_cons_of_ne_nil record.spsSome
      rw [shape, List.flatMap_cons, List.length_append, encodeUnit, List.length_append]
      simp only [List.length_cons, List.length_nil]
      omega
    exact ⟨(), by omega, _, version, (), rfl, _, sizeAt, (), record.fourBytes, _, profileAt, _,
      compatibilityAt, _, levelAt, _, countsAt, (), spsSome, _,
      ⟨record.sps, record.spsCount, record.spsShort, sps, rfl⟩, _, count, _, ⟨rfl, by omega⟩, (),
      by rw [ppsCount]; exact ppsSome, _, ⟨record.pps, ppsCount.symm, record.ppsShort, pps, rfl⟩,
      rfl⟩

theorem skipUnits_inBounds (count offset : Nat) :
    skipUnits bytes count offset ≠ .error .outOfBounds := by
  induction count generalizing offset with
  | zero =>
    intro panic
    cases panic
  | succ count ih =>
    intro panic
    rw [skipUnits] at panic
    simp only [bind_error, require_error, expect_error, reduceCtorEq, and_false, false_or] at panic
    obtain ⟨_, -, _, -, _, -, _, -, _, -, panic⟩ := panic
    exact ih _ panic

/-- No index leaves the bytes, whatever they are. -/
theorem parseAvccBytes_inBounds : parseAvccBytes bytes ≠ .error .outOfBounds := by
  intro panic
  unfold parseAvccBytes at panic
  simp only [bind_error, require_error, expect_error, require_ok, reduceCtorEq, and_false,
    false_or, skipUnits_inBounds] at panic
  obtain ⟨_, long, panic⟩ := panic
  have inside : ∀ i < 8, byteAt bytes i ≠ .error .outOfBounds := by
    intro i small outside
    have missing := (expect_error.mp outside).1
    rw [List.getElem?_eq_none_iff] at missing
    omega
  simp only [inside 0 (by decide), inside 1 (by decide), inside 2 (by decide),
    inside 3 (by decide), inside 4 (by decide), inside 5 (by decide), pure, Except.pure,
    reduceCtorEq, and_false, exists_false, or_self] at panic

/-- Without a record there is no declaration. -/
theorem parseAvccBytes_absent (small : bytes.length < 2 ^ 63) (none : ¬ IsRecord bytes) :
    parseAvccBytes bytes = .error .absent := by
  cases parsed : parseAvccBytes bytes with
  | error error =>
    cases error with
    | absent => rfl
    | outOfBounds => exact absurd parsed parseAvccBytes_inBounds
  | ok declaration =>
    obtain ⟨record, encoded, -⟩ := (parseAvccBytes_ok small).mp parsed
    exact absurd ⟨record, encoded⟩ none

end Records

end Sooqa.Media
