import Mathlib.Algebra.Group.Int.Defs
import Mathlib.Algebra.Group.Nat.Defs
import Sooqa.Foundation.Tokens

/-!
Decimal numbers and universally unique identifiers as texts, and back.
-/
namespace Foundation

section Decimal

def decimalText (n : Int) : List Char :=
  if n < 0 then '-' :: Nat.toDigits 10 n.natAbs else Nat.toDigits 10 n.natAbs

def parseDigits (text : List Char) : Option Nat :=
  if text ≠ [] ∧ text.all Char.isDigit then some (Nat.ofDigitChars 10 text 0) else none

/-- A signed number of 128 bits; a plus sign may stand in front. -/
def parseI128 (text : List Char) : Option Int :=
  match text with
  | '-' :: digits => (parseDigits digits).bind fun n => if n ≤ 2 ^ 127 then some (-n) else none
  | '+' :: digits => (parseDigits digits).bind fun n => if n < 2 ^ 127 then some n else none
  | digits => (parseDigits digits).bind fun n => if n < 2 ^ 127 then some n else none

theorem parseDigits_toDigits (n : Nat) : parseDigits (Nat.toDigits 10 n) = some n := by
  have digits : (Nat.toDigits 10 n).all Char.isDigit = true := by
    rw [List.all_eq_true]
    intro c member
    exact Nat.isDigit_of_mem_toDigits (by decide) (by decide) member
  rw [parseDigits, if_pos ⟨Nat.toDigits_ne_nil, digits⟩, Nat.ofDigitChars_ten_toDigits]

theorem parseI128_decimalText {n : Int} (low : -2 ^ 127 ≤ n) (high : n < 2 ^ 127) :
    parseI128 (decimalText n) = some n := by
  by_cases negative : n < 0
  · rw [decimalText, if_pos negative, parseI128, parseDigits_toDigits, Option.bind_some,
      if_pos (by omega)]
    exact congrArg some (by omega)
  · rw [decimalText, if_neg negative]
    obtain ⟨c, rest, shape⟩ := List.exists_cons_of_ne_nil (@Nat.toDigits_ne_nil n.natAbs 10)
    have digit : c.isDigit = true :=
      Nat.isDigit_of_mem_toDigits (by decide) (by decide) (shape ▸ List.mem_cons_self)
    have parsed := parseDigits_toDigits n.natAbs
    rw [shape] at parsed ⊢
    have plain : parseI128 (c :: rest) =
        (parseDigits (c :: rest)).bind fun n => if n < 2 ^ 127 then some (n : Int) else none := by
      unfold parseI128
      split
      · rename_i is
        cases is
        exact absurd digit (by decide)
      · rename_i is
        cases is
        exact absurd digit (by decide)
      · rfl
    rw [plain, parsed, Option.bind_some, if_pos (by omega)]
    exact congrArg some (by omega)

end Decimal

section Uuid

/-- The last hexadecimal digits of a number. -/
def hexDigits : Nat → Nat → List Char
  | 0, _ => []
  | count + 1, n => hexDigits count (n / 16) ++ [hexDigit (n % 16)]

def hyphenate (digits : List Char) : List Char :=
  digits.take 8 ++ '-' :: (digits.drop 8).take 4 ++ '-' :: (digits.drop 12).take 4 ++
    '-' :: (digits.drop 16).take 4 ++ '-' :: digits.drop 20

def uuidText (id : Nat) : List Char := hyphenate (hexDigits 32 id)

def parseSimple (digits : List Char) : Option Nat :=
  if digits.length = 32 ∧ digits.all isHexDigit then some (hexNumber digits) else none

def parseHyphenated (text : List Char) : Option Nat :=
  if text.length = 36 ∧ text[8]? = some '-' ∧ text[13]? = some '-' ∧ text[18]? = some '-' ∧
      text[23]? = some '-' then
    parseSimple (text.take 8 ++ (text.drop 9).take 4 ++ (text.drop 14).take 4 ++
      (text.drop 19).take 4 ++ text.drop 24)
  else none

/-- The four forms of an identifier: plain digits, with hyphens, in braces, or
    as a name. -/
def parseUuid (text : List Char) : Option Nat :=
  if text.length = 32 then parseSimple text
  else if text.length = 36 then parseHyphenated text
  else if text.length = 38 ∧ text.head? = some '{' ∧ text.getLast? = some '}' then
    parseHyphenated ((text.drop 1).take 36)
  else if text.length = 45 ∧ text.take 9 = "urn:uuid:".toList then parseHyphenated (text.drop 9)
  else none

theorem hexDigits_length (count n : Nat) : (hexDigits count n).length = count := by
  induction count generalizing n with
  | zero => rfl
  | succ count ih => rw [hexDigits, List.length_append, ih, List.length_singleton]

theorem mem_hexDigits {count n : Nat} {c : Char} (member : c ∈ hexDigits count n) :
    ∃ d < 16, c = hexDigit d := by
  induction count generalizing n with
  | zero => cases member
  | succ count ih =>
    rcases List.mem_append.mp member with early | last
    · exact ih early
    · exact ⟨n % 16, Nat.mod_lt n (by decide), List.mem_singleton.mp last⟩

theorem hexDigits_are (count n : Nat) : ∀ c ∈ hexDigits count n, isHexDigit c = true := by
  intro c member
  obtain ⟨d, small, is⟩ := mem_hexDigits member
  rw [is]
  exact isHexDigit_hexDigit small

theorem hexNumber_hexDigits (count : Nat) {n : Nat} (small : n < 16 ^ count) :
    hexNumber (hexDigits count n) = n := by
  induction count generalizing n with
  | zero =>
    rw [Nat.pow_zero] at small
    exact (Nat.lt_one_iff.mp small).symm
  | succ count ih =>
    have fewer : n / 16 < 16 ^ count := by
      rw [Nat.pow_succ] at small
      omega
    have step : hexNumber (hexDigits count (n / 16) ++ [hexDigit (n % 16)]) =
        16 * hexNumber (hexDigits count (n / 16)) + (hexValue (hexDigit (n % 16))).getD 0 := by
      simp only [hexNumber, List.foldl_append, List.foldl_cons, List.foldl_nil]
    rw [hexDigits, step, ih fewer, hexValue_hexDigit _ (Nat.mod_lt n (by decide))]
    exact Nat.div_add_mod n 16

theorem parseHyphenated_groups {a b c d e : List Char} (la : a.length = 8) (lb : b.length = 4)
    (lc : c.length = 4) (ld : d.length = 4) (le : e.length = 12) :
    parseHyphenated (a ++ '-' :: b ++ '-' :: c ++ '-' :: d ++ '-' :: e) =
      parseSimple (a ++ b ++ c ++ d ++ e) := by
  have whole : (a ++ '-' :: b ++ '-' :: c ++ '-' :: d ++ '-' :: e).length = 36 := by
    simp [la, lb, lc, ld, le]
  rw [parseHyphenated, if_pos]
  · simp [List.drop_append, List.drop_of_length_le, la, lb, lc, ld]
  · refine ⟨whole, ?_, ?_, ?_, ?_⟩ <;> simp [List.getElem?_append, la, lb, lc, ld]

theorem parseHyphenated_hyphenate {digits : List Char} (length : digits.length = 32) :
    parseHyphenated (hyphenate digits) = parseSimple digits := by
  have groups : digits.take 8 ++ (digits.drop 8).take 4 ++ (digits.drop 12).take 4 ++
      (digits.drop 16).take 4 ++ digits.drop 20 = digits := by
    have join : ∀ n, (digits.drop n).take 4 ++ digits.drop (n + 4) = digits.drop n := by
      intro n
      rw [← List.drop_drop, List.take_append_drop]
    rw [List.append_assoc, join 16, List.append_assoc, join 12, List.append_assoc, join 8,
      List.take_append_drop]
  unfold hyphenate
  rw [parseHyphenated_groups (by simp [length]) (by simp [length]) (by simp [length])
    (by simp [length]) (by simp [length]), groups]

theorem uuidText_length (id : Nat) : (uuidText id).length = 36 := by
  simp [uuidText, hyphenate, hexDigits_length 32 id]

theorem mem_uuidText {id : Nat} {c : Char} (member : c ∈ uuidText id) :
    c = '-' ∨ ∃ d < 16, c = hexDigit d := by
  simp only [uuidText, hyphenate, List.mem_append, List.mem_cons] at member
  have group : ∀ {n : Nat}, c ∈ ((hexDigits 32 id).drop n).take 4 → ∃ d < 16, c = hexDigit d :=
    fun inside => mem_hexDigits (List.mem_of_mem_drop (List.mem_of_mem_take inside))
  rcases member with (((a | hyphen | b) | hyphen | c) | hyphen | d) | hyphen | e
  · exact Or.inr (mem_hexDigits (List.mem_of_mem_take a))
  · exact Or.inl hyphen
  · exact Or.inr (group b)
  · exact Or.inl hyphen
  · exact Or.inr (group c)
  · exact Or.inl hyphen
  · exact Or.inr (group d)
  · exact Or.inl hyphen
  · exact Or.inr (mem_hexDigits (List.mem_of_mem_drop e))

theorem parseUuid_uuidText {id : Nat} (small : id < 2 ^ 128) : parseUuid (uuidText id) = some id := by
  have length := hexDigits_length 32 id
  have whole := uuidText_length id
  rw [parseUuid, if_neg (by omega), if_pos whole, uuidText, parseHyphenated_hyphenate length,
    parseSimple, if_pos ⟨length, List.all_eq_true.mpr (hexDigits_are 32 id)⟩,
    hexNumber_hexDigits 32 (lt_of_lt_of_eq small (by decide))]

end Uuid

end Foundation
