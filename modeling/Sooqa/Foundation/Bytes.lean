import Mathlib.Tactic.Common
import Mathlib.Tactic.Ring
import Sooqa.Foundation.Outcome

/-!
Byte strings with fields at fixed places: little-endian numbers, and what a
reader that walks over the bytes has seen.
-/
namespace Foundation
variable {ε : Type}

/-- The lowest `width` bytes of a number, the lowest first. -/
def littleEndian : Nat → Nat → List UInt8
  | 0, _ => []
  | width + 1, n => .ofNat n :: littleEndian width (n / 256)

def fromLittleEndian : List UInt8 → Nat
  | [] => 0
  | byte :: bytes => byte.toNat + 256 * fromLittleEndian bytes

@[simp] theorem littleEndian_length (width n : Nat) : (littleEndian width n).length = width := by
  induction width generalizing n with
  | zero => rfl
  | succ width ih => simp [littleEndian, ih]

theorem fromLittleEndian_bound (bytes : List UInt8) :
    fromLittleEndian bytes < 256 ^ bytes.length := by
  induction bytes with
  | nil => decide
  | cons byte bytes ih =>
    have low := byte.toNat_lt
    have grown : 256 ^ (bytes.length + 1) = 256 * 256 ^ bytes.length := by ring
    simp only [fromLittleEndian, List.length_cons, grown]
    omega

theorem fromLittleEndian_littleEndian {width n : Nat} (bound : n < 256 ^ width) :
    fromLittleEndian (littleEndian width n) = n := by
  induction width generalizing n with
  | zero =>
    have : n = 0 := by simpa using bound
    simp [littleEndian, fromLittleEndian, this]
  | succ width ih =>
    have grown : 256 ^ (width + 1) = 256 ^ width * 256 := by ring
    have upper : n / 256 < 256 ^ width := (Nat.div_lt_iff_lt_mul (by decide)).mpr (grown ▸ bound)
    have lowest : (UInt8.ofNat n).toNat = n % 256 := UInt8.toNat_ofNat'
    rw [littleEndian, fromLittleEndian, ih upper, lowest]
    exact Nat.mod_add_div n 256

theorem littleEndian_fromLittleEndian (bytes : List UInt8) :
    littleEndian bytes.length (fromLittleEndian bytes) = bytes := by
  induction bytes with
  | nil => rfl
  | cons byte bytes ih =>
    have low := byte.toNat_lt
    have upper : (byte.toNat + 256 * fromLittleEndian bytes) / 256 = fromLittleEndian bytes := by
      omega
    have lowest : UInt8.ofNat (byte.toNat + 256 * fromLittleEndian bytes) = byte := by
      apply UInt8.toNat_inj.mp
      rw [UInt8.toNat_ofNat']
      omega
    simp only [List.length_cons, fromLittleEndian, littleEndian, upper, lowest, ih]

/-- The bytes from `start` up to `stop`, if the string has them. -/
def range (bytes : List UInt8) (start stop : Nat) : Option (List UInt8) :=
  if start ≤ stop ∧ stop ≤ bytes.length then some ((bytes.drop start).take (stop - start)) else none

/-- The field of the given width that starts at an offset. -/
def field (bytes : List UInt8) (offset width : Nat) : List UInt8 :=
  (bytes.drop offset).take width

def numberAt (bytes : List UInt8) (offset width : Nat) : Nat :=
  fromLittleEndian (field bytes offset width)

/-- A reader at `offset` finds `content`, and the rest of the string behind it. -/
def Finds (bytes : List UInt8) (offset : Nat) (content : List UInt8) : Prop :=
  bytes.drop offset = content ++ bytes.drop (offset + content.length)

variable {bytes content more : List UInt8} {offset width : Nat}

theorem range_field (inside : offset + width ≤ bytes.length) :
    range bytes offset (offset + width) = some (field bytes offset width) := by
  have bounds : offset ≤ offset + width ∧ offset + width ≤ bytes.length := ⟨by omega, inside⟩
  simp [range, bounds, field]

theorem range_outside (outside : bytes.length < offset + width) :
    range bytes offset (offset + width) = none := by
  have bounds : ¬ (offset ≤ offset + width ∧ offset + width ≤ bytes.length) := by omega
  exact if_neg bounds

theorem field_length (inside : offset + width ≤ bytes.length) :
    (field bytes offset width).length = width := by
  simp [field]
  omega

theorem field_finds (inside : offset + width ≤ bytes.length) :
    Finds bytes offset (field bytes offset width) := by
  rw [Finds, field_length inside, ← List.drop_drop]
  exact (List.take_append_drop width (bytes.drop offset)).symm

theorem Finds.inside (found : Finds bytes offset content) (some : content ≠ []) :
    offset + content.length ≤ bytes.length := by
  have lengths := congrArg List.length found
  have positive := List.length_pos_iff.mpr some
  simp only [List.length_drop, List.length_append] at lengths
  omega

theorem Finds.field_eq (found : Finds bytes offset content) :
    field bytes offset content.length = content := by
  rw [field, found, List.take_left]

theorem finds_append :
    Finds bytes offset (content ++ more) ↔
      Finds bytes offset content ∧ Finds bytes (offset + content.length) more := by
  constructor
  · intro found
    have whole : bytes.drop offset =
        content ++ (more ++ bytes.drop (offset + content.length + more.length)) := by
      rw [found, List.length_append, List.append_assoc, Nat.add_assoc]
    have behind : bytes.drop (offset + content.length) =
        more ++ bytes.drop (offset + content.length + more.length) := by
      rw [← List.drop_drop, whole, List.drop_left]
    exact ⟨whole.trans (by rw [behind]), behind⟩
  · rintro ⟨found, behind⟩
    rw [Finds, found, behind, List.length_append, List.append_assoc, Nat.add_assoc]

theorem eq_iff_finds : bytes = content ↔ bytes.length = content.length ∧ Finds bytes 0 content := by
  constructor
  · rintro rfl
    simp [Finds]
  · rintro ⟨size, found⟩
    have rest : bytes.drop (0 + content.length) = [] := by simp [← size]
    rw [Finds, rest, List.append_nil] at found
    exact found

/-- A number of a fixed width is found where its bytes are. -/
theorem finds_littleEndian {n : Nat} (positive : 0 < width) (bound : n < 256 ^ width) :
    Finds bytes offset (littleEndian width n) ↔
      offset + width ≤ bytes.length ∧ n = numberAt bytes offset width := by
  constructor
  · intro found
    have nonempty : littleEndian width n ≠ [] := by
      intro h
      have := congrArg List.length h
      simp at this
      omega
    have inside := found.inside nonempty
    have read := found.field_eq
    rw [littleEndian_length] at inside read
    exact ⟨inside, by rw [numberAt, read, fromLittleEndian_littleEndian bound]⟩
  · rintro ⟨inside, rfl⟩
    have same := littleEndian_fromLittleEndian (field bytes offset width)
    rw [field_length inside] at same
    rw [numberAt, same]
    exact field_finds inside

theorem finds_number {n : Nat} (positive : 0 < width) (bound : n < 256 ^ width)
    (inside : offset + width ≤ bytes.length) :
    Finds bytes offset (littleEndian width n) ↔ numberAt bytes offset width = n := by
  rw [finds_littleEndian positive bound]
  simp only [inside, true_and, eq_comm]

theorem finds_byte {byte : UInt8} :
    Finds bytes offset [byte] ↔ bytes[offset]? = some byte := by
  rw [Finds, List.length_singleton, List.singleton_append]
  rcases Nat.lt_or_ge offset bytes.length with inside | outside
  · rw [List.drop_eq_getElem_cons inside, List.getElem?_eq_getElem inside]
    simp only [List.cons.injEq, and_true, Option.some.injEq]
  · rw [List.drop_eq_nil_of_le outside, List.getElem?_eq_none outside]
    simp

end Foundation
