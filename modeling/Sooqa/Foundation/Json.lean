import Mathlib.Algebra.GroupWithZero.Nat
import Mathlib.Tactic.Common

/-!
JSON documents and the length of their compact text. Objects keep their entries
in a list, as nothing read here depends on an order of keys; a floating-point
number is the text that it is written with.
-/
namespace Foundation

inductive JsonNumber where
  | posInt (n : UInt64)
  | negInt (n : Int64)
  | float (text : String)
  deriving DecidableEq, Repr

inductive Json where
  | null
  | bool (value : Bool)
  | number (value : JsonNumber)
  | string (value : String)
  | array (items : List Json)
  | object (entries : List (String × Json))

namespace Json

def asStr : Json → Option String
  | .string value => some value
  | _ => none

theorem asStr_eq {value : Json} {text : String} : value.asStr = some text ↔ value = .string text := by
  cases value <;> simp [asStr]

def asBool : Json → Option Bool
  | .bool value => some value
  | _ => none

def asU64 : Json → Option UInt64
  | .number (.posInt value) => some value
  | _ => none

def asArray : Json → Option (List Json)
  | .array items => some items
  | _ => none

def asObject : Json → Option (List (String × Json))
  | .object entries => some entries
  | _ => none

def isObject (value : Json) : Bool := value.asObject.isSome

def isNull : Json → Bool
  | .null => true
  | _ => false

/-- The value under a key of an object; other values have none. -/
def get (value : Json) (key : String) : Option Json :=
  match value with
  | .object entries => entries.lookup key
  | _ => none

/-- A value, or null in its place. -/
def ofOption {α : Type} (encode : α → Json) : Option α → Json
  | some a => encode a
  | none => .null

def ofUInt64 (value : UInt64) : Json := .number (.posInt value)

def ofUInt32 (value : UInt32) : Json := ofUInt64 value.toUInt64

def ofInt64 (value : Int64) : Json :=
  if 0 ≤ value then .number (.posInt value.toUInt64) else .number (.negInt value)

section Size

/-- The bytes of a character in a text: what has a short escape takes two,
    other control characters six. -/
def charSize (c : Char) : Nat :=
  if c ∈ ['"', '\\', '\n', '\r', '\t', Char.ofNat 8, Char.ofNat 12] then 2
  else if c.toNat < 32 then 6
  else c.utf8Size

def stringSize (text : String) : Nat := 2 + (text.toList.map charSize).sum

def numberSize : JsonNumber → Nat
  | .posInt n => (Nat.toDigits 10 n.toNat).length
  | .negInt n => 1 + (Nat.toDigits 10 n.toInt.natAbs).length
  | .float text => text.utf8ByteSize

mutual

/-- The length of the compact text. -/
def size : Json → Nat
  | .null => 4
  | .bool true => 4
  | .bool false => 5
  | .number value => numberSize value
  | .string value => stringSize value
  | .array items => 2 + (items.length - 1) + itemsSize items
  | .object entries => 2 + (entries.length - 1) + entriesSize entries

def itemsSize : List Json → Nat
  | [] => 0
  | item :: rest => item.size + itemsSize rest

/-- The keys and the values with the colons between them. -/
def entriesSize : List (String × Json) → Nat
  | [] => 0
  | (key, value) :: rest => stringSize key + 1 + value.size + entriesSize rest

end

end Size

end Json

end Foundation
