import Mathlib.Data.List.Infix
import Mathlib.Tactic.Common

/-!
Lines, words and hexadecimal digits of a text, and its letters without their
case.
-/
namespace Foundation

section Lines

/-- A line without the carriage return that belongs to its end. -/
def stripReturn (line : List Char) : List Char :=
  if line.getLast? = some '\r' then line.dropLast else line

/-- A line end at the very end of a text does not open another line. -/
def endLines : List (List Char) → List (List Char)
  | [] => []
  | [last] => if last = [] then [] else [last]
  | line :: next :: more => stripReturn line :: endLines (next :: more)

def lines (text : List Char) : List (List Char) := endLines (text.splitOn '\n')

def splitOnce (mark : Char) : List Char → Option (List Char × List Char)
  | [] => none
  | c :: rest =>
    if c = mark then some ([], rest)
    else (splitOnce mark rest).map fun parts => (c :: parts.1, parts.2)

@[simp] theorem lines_nil : lines [] = [] := rfl

theorem lines_cons {line : List Char} (free : '\n' ∉ line) (rest : List Char) :
    lines (line ++ '\n' :: rest) = stripReturn line :: lines rest := by
  unfold lines
  rw [List.splitOn_append_cons_self_of_not_mem free]
  obtain ⟨next, more, split⟩ := List.exists_cons_of_ne_nil (List.splitOn_ne_nil '\n' rest)
  rw [split, endLines]

theorem stripReturn_free {line : List Char} (free : '\r' ∉ line) : stripReturn line = line := by
  unfold stripReturn
  rw [if_neg]
  intro last
  exact free (List.mem_of_getLast? last)

theorem splitOnce_first {mark : Char} {before : List Char} (free : mark ∉ before)
    (after : List Char) : splitOnce mark (before ++ mark :: after) = some (before, after) := by
  induction before with
  | nil => rw [List.nil_append, splitOnce, if_pos rfl]
  | cons c before ih =>
    have other : c ≠ mark := fun same => free (same ▸ List.mem_cons_self)
    rw [List.cons_append, splitOnce, if_neg other,
      ih (fun member => free (List.mem_cons_of_mem c member))]
    rfl

end Lines

section Words
variable {space : Char → Bool}

/-- The characters with the property `White_Space`. -/
def isWhitespace (c : Char) : Bool :=
  decide (9 ≤ c.toNat ∧ c.toNat ≤ 13) || c == ' ' ||
    [0x85, 0xA0, 0x1680, 0x2028, 0x2029, 0x202F, 0x205F, 0x3000].contains c.toNat ||
    decide (0x2000 ≤ c.toNat ∧ c.toNat ≤ 0x200A)

def words (space : Char → Bool) (text : List Char) : List (List Char) :=
  (text.splitOnP space).filter (· ≠ [])

theorem words_blank {c : Char} (blank : space c = true) (text : List Char) :
    words space (c :: text) = words space text := by
  have split : (([] : List Char) ++ c :: text).splitOnP space = [] :: text.splitOnP space :=
    List.splitOnP_append_cons_of_forall_mem (by simp) c blank text
  rw [List.nil_append] at split
  rw [words, words, split, List.filter_cons_of_neg (by simp)]

theorem words_cons {word : List Char} {c : Char} (nonempty : word ≠ [])
    (solid : ∀ d ∈ word, space d = false) (blank : space c = true) (text : List Char) :
    words space (word ++ c :: text) = word :: words space text := by
  rw [words, words, List.splitOnP_append_cons_of_forall_mem solid c blank,
    List.filter_cons_of_pos (by simpa using nonempty)]

theorem words_blanks {c : Char} (blank : space c = true) (count : Nat) (text : List Char) :
    words space (List.replicate count c ++ text) = words space text := by
  induction count with
  | zero => rfl
  | succ count ih => rw [List.replicate_succ, List.cons_append, words_blank blank, ih]

end Words

section Digits

def hexDigit (n : Nat) : Char := Char.ofNat (if n < 10 then 48 + n else 87 + n)

def hexValue (c : Char) : Option Nat :=
  if 48 ≤ c.toNat ∧ c.toNat ≤ 57 then some (c.toNat - 48)
  else if 97 ≤ c.toNat ∧ c.toNat ≤ 102 then some (c.toNat - 87)
  else if 65 ≤ c.toNat ∧ c.toNat ≤ 70 then some (c.toNat - 55)
  else none

def isHexDigit (c : Char) : Bool := (hexValue c).isSome

def hexNumber (digits : List Char) : Nat :=
  digits.foldl (fun n c => 16 * n + (hexValue c).getD 0) 0

theorem hexValue_hexDigit : ∀ n < 16, hexValue (hexDigit n) = some n := by decide

theorem isHexDigit_hexDigit {n : Nat} (digit : n < 16) : isHexDigit (hexDigit n) = true := by
  rw [isHexDigit, hexValue_hexDigit n digit]
  rfl

theorem hexDigit_solid : ∀ n < 16, isWhitespace (hexDigit n) = false := by decide

theorem hexDigit_ne_colon : ∀ n < 16, hexDigit n ≠ ':' := by decide

end Digits

section Letters

def asciiLower (c : Char) : Char :=
  if 65 ≤ c.toNat ∧ c.toNat ≤ 90 then Char.ofNat (c.toNat + 32) else c

def lowercaseAscii (text : String) : String := .ofList (text.toList.map asciiLower)

def equalsIgnoringCase (text other : String) : Bool := lowercaseAscii text == lowercaseAscii other

def containsText (text piece : String) : Bool := decide (piece.toList <:+: text.toList)

end Letters

end Foundation
