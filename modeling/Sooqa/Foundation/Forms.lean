import Mathlib.Tactic.Common

/-!
Forms in a query: pairs of names and values, decoded from pieces between
ampersands and encoded back. Texts are their UTF-8 bytes.
-/
namespace Foundation

section Utf8

/-- The ranges of the bytes that follow this one in a character. -/
def utf8Tail (b : UInt8) : Option (List (UInt8 × UInt8)) :=
  let anyByte : UInt8 × UInt8 := (0x80, 0xbf)
  if b < 0x80 then some []
  else if 0xc2 ≤ b ∧ b ≤ 0xdf then some [anyByte]
  else if b = 0xe0 then some [(0xa0, 0xbf), anyByte]
  else if b = 0xed then some [(0x80, 0x9f), anyByte]
  else if 0xe1 ≤ b ∧ b ≤ 0xef then some [anyByte, anyByte]
  else if b = 0xf0 then some [(0x90, 0xbf), anyByte, anyByte]
  else if 0xf1 ≤ b ∧ b ≤ 0xf3 then some [anyByte, anyByte, anyByte]
  else if b = 0xf4 then some [(0x80, 0x8f), anyByte, anyByte]
  else none

def replacementCharacter : List UInt8 := [0xef, 0xbf, 0xbd]

/-- Each longest start of a character that is not completed is replaced. -/
def utf8LossyFrom : List UInt8 → List (UInt8 × UInt8) → List UInt8 → List UInt8
  | read, _, [] => if read = [] then [] else replacementCharacter
  | read, ranges, b :: rest =>
    let afresh := match utf8Tail b with
      | none => replacementCharacter ++ utf8LossyFrom [] [] rest
      | some [] => b :: utf8LossyFrom [] [] rest
      | some tail => utf8LossyFrom [b] tail rest
    match ranges with
    | [] => afresh
    | range :: more =>
      if range.1 ≤ b ∧ b ≤ range.2 then
        if more = [] then read ++ b :: utf8LossyFrom [] [] rest
        else utf8LossyFrom (read ++ [b]) more rest
      else replacementCharacter ++ afresh

def fromUtf8Lossy (bytes : List UInt8) : List UInt8 := utf8LossyFrom [] [] bytes

end Utf8

section Components

def hexByte (b : UInt8) : Option UInt8 :=
  if 0x30 ≤ b ∧ b ≤ 0x39 then some (b - 0x30)
  else if 0x41 ≤ b ∧ b ≤ 0x46 then some (b - 0x37)
  else if 0x61 ≤ b ∧ b ≤ 0x66 then some (b - 0x57)
  else none

def percentDecode : List UInt8 → List UInt8
  | [] => []
  | b :: rest =>
    if b = 0x25 then
      match rest with
      | high :: low :: after => match hexByte high, hexByte low with
        | some upper, some lower => (16 * upper + lower) :: percentDecode after
        | _, _ => b :: percentDecode (high :: low :: after)
      | [last] => [b, last]
      | [] => [b]
    else b :: percentDecode rest

def decodeComponent (bytes : List UInt8) : List UInt8 :=
  fromUtf8Lossy (percentDecode (bytes.map fun b => if b = 0x2b then 0x20 else b))

def hexUpper (n : UInt8) : UInt8 := if n < 10 then 0x30 + n else 0x37 + n

def isFormSafe (b : UInt8) : Bool :=
  b ∈ [0x2a, 0x2d, 0x2e, 0x5f] || (0x30 ≤ b && b ≤ 0x39) || (0x41 ≤ b && b ≤ 0x5a) ||
    (0x61 ≤ b && b ≤ 0x7a)

def encodeByte (b : UInt8) : List UInt8 :=
  if isFormSafe b then [b]
  else if b = 0x20 then [0x2b]
  else [0x25, hexUpper (b / 16), hexUpper (b % 16)]

def encodeComponent (text : List UInt8) : List UInt8 := text.flatMap encodeByte

end Components

section Forms

abbrev FormPair := List UInt8 × List UInt8

/-- A piece without an equals sign is a name with an empty value. -/
def decodePair (piece : List UInt8) : FormPair :=
  (decodeComponent (piece.takeWhile (· ≠ 0x3d)),
    decodeComponent ((piece.dropWhile (· ≠ 0x3d)).drop 1))

def parseForm (query : List UInt8) : List FormPair :=
  ((query.splitOn 0x26).filter (· ≠ [])).map decodePair

def serializeForm (pairs : List FormPair) : List UInt8 :=
  [0x26].intercalate (pairs.map fun pair =>
    encodeComponent pair.1 ++ 0x3d :: encodeComponent pair.2)

/-- No piece contains what the list was split at. -/
theorem not_mem_of_mem_splitOn {α : Type} [DecidableEq α] {a : α} {list : List α} :
    ∀ piece ∈ list.splitOn a, a ∉ piece := by
  induction list with
  | nil => simp [List.splitOn_nil]
  | cons x rest ih =>
    rw [List.splitOn_cons_eq_if_modifyHead]
    split
    · intro piece member
      rcases List.mem_cons.mp member with rfl | later
      · exact List.not_mem_nil
      · exact ih piece later
    · rename_i other
      cases split : rest.splitOn a with
      | nil => exact absurd split (List.splitOn_ne_nil a rest)
      | cons first more =>
        rw [split] at ih
        intro piece member
        rcases List.mem_cons.mp member with rfl | later
        · intro inside
          rcases List.mem_cons.mp inside with same | deeper
          · exact other (beq_iff_eq.mpr same.symm)
          · exact ih first List.mem_cons_self deeper
        · exact ih piece (List.mem_cons_of_mem first later)

/-- A joined list has the elements of its pieces and the separator. -/
theorem mem_or_eq_of_mem_intercalate {α : Type} {a b : α} {pieces : List (List α)}
    (member : b ∈ [a].intercalate pieces) : b = a ∨ ∃ piece ∈ pieces, b ∈ piece := by
  induction pieces with
  | nil => simp at member
  | cons first rest ih =>
    cases rest with
    | nil => exact .inr ⟨first, List.mem_cons_self, by simpa using member⟩
    | cons second more =>
      rw [List.intercalate_cons_cons, List.append_assoc] at member
      rcases List.mem_append.mp member with inside | later
      · exact .inr ⟨first, List.mem_cons_self, inside⟩
      · rcases List.mem_cons.mp later with same | later
        · exact .inl same
        · rcases ih later with same | ⟨piece, member, inside⟩
          · exact .inl same
          · exact .inr ⟨piece, List.mem_cons_of_mem first member, inside⟩

theorem mem_intercalate_of_mem {α : Type} {a b : α} {pieces : List (List α)} {piece : List α}
    (member : piece ∈ pieces) (inside : b ∈ piece) : b ∈ [a].intercalate pieces := by
  induction pieces with
  | nil => cases member
  | cons first rest ih =>
    cases rest with
    | nil =>
      cases List.mem_singleton.mp member
      simpa using inside
    | cons second more =>
      rw [List.intercalate_cons_cons, List.append_assoc]
      rcases List.mem_cons.mp member with rfl | later
      · exact List.mem_append_left _ inside
      · exact List.mem_append_right _ (List.mem_cons_of_mem a (ih later))

theorem parseForm_nil : parseForm [] = [] := by
  rw [parseForm, List.splitOn_nil]
  rfl

/-- A query is read piece by piece. -/
theorem parseForm_intercalate {pieces : List (List UInt8)} (some_piece : pieces ≠ [])
    (solid : ∀ piece ∈ pieces, 0x26 ∉ piece) :
    parseForm ([0x26].intercalate pieces) = (pieces.filter (· ≠ [])).map decodePair := by
  rw [parseForm, List.splitOn_intercalate 0x26 solid some_piece]

end Forms

section Insertion
variable {α : Type} {added : α → Prop} {before after : List α}

/-- The second list is the first with further elements put in anywhere. -/
inductive Inserted (added : α → Prop) : List α → List α → Prop where
  | nil : Inserted added [] []
  | keep (a : α) {before after : List α} (rest : Inserted added before after) :
      Inserted added (a :: before) (a :: after)
  | insert {a : α} {before after : List α} (new : added a) (rest : Inserted added before after) :
      Inserted added before (a :: after)

theorem Inserted.refl (list : List α) : Inserted added list list := by
  induction list with
  | nil => exact .nil
  | cons a rest ih => exact .keep a ih

theorem Inserted.filter_eq {keeps : α → Bool} (inserted : Inserted added before after)
    (dropped : ∀ a, added a → keeps a = false) : after.filter keeps = before.filter keeps := by
  induction inserted with
  | nil => rfl
  | keep a rest ih => rw [List.filter_cons, List.filter_cons, ih]
  | insert new rest ih => rw [List.filter_cons, dropped _ new, if_neg Bool.false_ne_true, ih]

/-- Either nothing was put in, or something was. -/
theorem Inserted.eq_or_added (inserted : Inserted added before after) :
    after = before ∨ ∃ a ∈ after, added a := by
  induction inserted with
  | nil => exact .inl rfl
  | keep a rest ih =>
    rcases ih with rfl | ⟨b, member, new⟩
    · exact .inl rfl
    · exact .inr ⟨b, List.mem_cons_of_mem a member, new⟩
  | insert new rest ih => exact .inr ⟨_, List.mem_cons_self, new⟩

theorem Inserted.mem (inserted : Inserted added before after) {a : α} (member : a ∈ after) :
    a ∈ before ∨ added a := by
  induction inserted with
  | nil => cases member
  | keep b rest ih =>
    rcases List.mem_cons.mp member with rfl | later
    · exact .inl List.mem_cons_self
    · exact (ih later).imp_left (List.mem_cons_of_mem b)
  | insert new rest ih =>
    rcases List.mem_cons.mp member with rfl | later
    · exact .inr new
    · exact ih later

end Insertion

end Foundation
