import Mathlib.Algebra.Group.Int.Defs
import Mathlib.Algebra.Group.Nat.Defs
import Sooqa.Foundation.Outcome

/-!
Arithmetic of machine words that stops where a program would go wrong without
a word: at a result that does not fit, at a cast that drops bits, at a bound
that cuts a value off, and at an index outside a sequence. A computation that
comes through it agrees with the arithmetic of numbers.
-/
namespace Foundation

inductive ArithmeticFault where
  | overflow
  | truncated
  | saturated
  | outOfBounds
  deriving DecidableEq, Repr

abbrev Checked (α : Type) := Except ArithmeticFault α

namespace Checked

/-- A value below a bound. -/
def below (bound value : Nat) (fault : ArithmeticFault) : Checked Nat :=
  if value < bound then .ok value else .error fault

def add (bits a b : Nat) : Checked Nat := below (2 ^ bits) (a + b) .overflow

def mul (bits a b : Nat) : Checked Nat := below (2 ^ bits) (a * b) .overflow

def sub (a b : Nat) : Checked Nat := if b ≤ a then .ok (a - b) else .error .overflow

/-- A result in a signed word. -/
def signed (bits : Nat) (value : Int) : Checked Int :=
  if -2 ^ (bits - 1) ≤ value ∧ value < 2 ^ (bits - 1) then .ok value else .error .overflow

def saturatingAdd (bits a b : Nat) : Checked Nat := below (2 ^ bits) (a + b) .saturated

def saturatingMul (bits a b : Nat) : Checked Nat := below (2 ^ bits) (a * b) .saturated

def saturatingSub (a b : Nat) : Checked Nat := if b ≤ a then .ok (a - b) else .error .saturated

/-- The smaller of a value and its cap. -/
def capped (cap value : Nat) : Checked Nat := below (cap + 1) value .saturated

def cast (bits value : Nat) : Checked Nat := below (2 ^ bits) value .truncated

/-- An unsigned word as a signed one of the same width. -/
def castSigned (bits value : Nat) : Checked Int :=
  if value < 2 ^ (bits - 1) then .ok value else .error .truncated

/-- A signed number that is converted to an unsigned word. -/
def toUnsigned (bits : Nat) (value : Int) : Checked Nat :=
  if 0 ≤ value ∧ value < 2 ^ bits then .ok value.toNat else .error .truncated

def item {α : Type} (items : List α) (i : Nat) : Checked α := expect items[i]? .outOfBounds

def cell {α : Type} (cells : Array α) (i : Nat) : Checked α := expect cells[i]? .outOfBounds

def setCell {α : Type} (cells : Array α) (i : Nat) (value : α) : Checked (Array α) :=
  if i < cells.size then .ok (cells.setIfInBounds i value) else .error .outOfBounds

section Exact
variable {α : Type} {bits a b value : Nat}

theorem add_ok (fits : a + b < 2 ^ bits) : add bits a b = .ok (a + b) := if_pos fits

theorem mul_ok (fits : a * b < 2 ^ bits) : mul bits a b = .ok (a * b) := if_pos fits

theorem sub_ok (fits : b ≤ a) : sub a b = .ok (a - b) := if_pos fits

theorem signed_ok {value : Int} (low : -2 ^ (bits - 1) ≤ value) (high : value < 2 ^ (bits - 1)) :
    signed bits value = .ok value := if_pos ⟨low, high⟩

theorem saturatingAdd_ok (fits : a + b < 2 ^ bits) : saturatingAdd bits a b = .ok (a + b) :=
  if_pos fits

theorem saturatingMul_ok (fits : a * b < 2 ^ bits) : saturatingMul bits a b = .ok (a * b) :=
  if_pos fits

theorem saturatingSub_ok (fits : b ≤ a) : saturatingSub a b = .ok (a - b) := if_pos fits

theorem capped_ok {cap : Nat} (fits : value ≤ cap) : capped cap value = .ok value :=
  if_pos (Nat.lt_succ_of_le fits)

theorem cast_ok (fits : value < 2 ^ bits) : cast bits value = .ok value := if_pos fits

theorem castSigned_ok (fits : value < 2 ^ (bits - 1)) : castSigned bits value = .ok (value : Int) :=
  if_pos fits

theorem toUnsigned_ok {value : Int} (low : 0 ≤ value) (high : value < 2 ^ bits) :
    toUnsigned bits value = .ok value.toNat := if_pos ⟨low, high⟩

theorem item_ok {items : List α} {i : Nat} (inside : i < items.length) :
    item items i = .ok items[i] := by
  rw [item, List.getElem?_eq_getElem inside, expect]

theorem cell_ok {cells : Array α} {i : Nat} (default : α) (inside : i < cells.size) :
    cell cells i = .ok (cells.getD i default) := by
  rw [cell, Array.getD_eq_getD_getElem?, Array.getElem?_eq_getElem inside, expect, Option.getD_some]

theorem setCell_ok {cells : Array α} {i : Nat} {value : α} (inside : i < cells.size) :
    setCell cells i value = .ok (cells.setIfInBounds i value) := if_pos inside

end Exact

end Checked

end Foundation
