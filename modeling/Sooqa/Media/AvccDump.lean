import Sooqa.Media.Avcc

/-!
The hexdump that the prober prints of a record, and what reading it back gives:
the bytes shown as words of four digits, with the words that open the text
column of a line.
-/
namespace Sooqa.Media
open Foundation

section Dump

def hexPair (byte : UInt8) : List Char := [hexDigit (byte.toNat / 16), hexDigit (byte.toNat % 16)]

/-- The bytes of a line in pairs; a lone last byte has no blank behind it. -/
def dumpPairs : List UInt8 → List Char
  | first :: second :: bytes => hexPair first ++ hexPair second ++ ' ' :: dumpPairs bytes
  | [byte] => hexPair byte
  | [] => []

def shownChar (byte : UInt8) : Char :=
  if 32 ≤ byte.toNat ∧ byte.toNat < 127 then Char.ofNat byte.toNat else '.'

/-- The text column of a line. -/
def column (bytes : List UInt8) : List Char := bytes.map shownChar

def dumpOffset (offset : Nat) : List Char :=
  (List.range 8).map fun k => hexDigit (offset / 16 ^ (7 - k) % 16)

/-- The blanks that lead to the text column. -/
def padding (count : Nat) : Nat := 41 - 2 * count - count / 2

def dumpLine (offset : Nat) (bytes : List UInt8) : List Char :=
  dumpOffset offset ++ ':' :: ' ' :: (dumpPairs bytes ++
    List.replicate (padding bytes.length) ' ' ++ column bytes)

def dumpLines : Nat → Nat → List UInt8 → List Char
  | 0, _, _ => []
  | count + 1, offset, bytes =>
    dumpLine offset (bytes.take 16) ++ '\n' :: dumpLines count (offset + 16) (bytes.drop 16)

def lineCount (bytes : List UInt8) : Nat := (bytes.length + 15) / 16

/-- The text of `-show_data`: a line end, and a line for every 16 bytes. -/
def dump (bytes : List UInt8) : List Char := '\n' :: dumpLines (lineCount bytes) 0 bytes

end Dump

section Shown

/-- The leading words of a text, as bytes. -/
def leadingWords (text : List Char) : List UInt8 :=
  ((words isWhitespace text).takeWhile isWord).flatMap wordBytes

/-- What a line of the dump is read as: its pairs and the words that open its
    text column. A lone last byte is no word and ends the line. -/
def shownLine (bytes : List UInt8) : List UInt8 :=
  if bytes.length % 2 = 0 then bytes ++ leadingWords (column bytes) else bytes.dropLast

def shownLines : Nat → List UInt8 → List UInt8
  | 0, _ => []
  | count + 1, bytes => shownLine (bytes.take 16) ++ shownLines count (bytes.drop 16)

/-- What a dump is read as, up to the bound of the reader. -/
def shown (bytes : List UInt8) : List UInt8 :=
  (shownLines (lineCount bytes) bytes).take maxAvccExtradataBytes

end Shown

section Words
variable {bytes : List UInt8}

theorem hexPair_digits (byte : UInt8) :
    byte.toNat / 16 < 16 ∧ byte.toNat % 16 < 16 := by
  have bound := byte.toNat_lt
  omega

theorem hexPair_solid (byte : UInt8) : ∀ c ∈ hexPair byte, isWhitespace c = false := by
  intro c member
  obtain ⟨high, low⟩ := hexPair_digits byte
  rcases List.mem_cons.mp member with rfl | member
  · exact hexDigit_solid _ high
  · rw [List.mem_singleton.mp member]
    exact hexDigit_solid _ low

/-- Two bytes make a word and are read back from it. -/
theorem pair_isWord (first second : UInt8) :
    isWord (hexPair first ++ hexPair second) = true ∧
      wordBytes (hexPair first ++ hexPair second) = [first, second] := by
  obtain ⟨high, low⟩ := hexPair_digits first
  obtain ⟨high', low'⟩ := hexPair_digits second
  have number : hexNumber (hexPair first ++ hexPair second) =
      256 * first.toNat + second.toNat := by
    simp only [hexNumber, hexPair, List.cons_append, List.nil_append, List.foldl_cons,
      List.foldl_nil, hexValue_hexDigit _ high, hexValue_hexDigit _ low,
      hexValue_hexDigit _ high', hexValue_hexDigit _ low', Option.getD_some]
    omega
  constructor
  · simp [isWord, hexPair, isHexDigit_hexDigit high, isHexDigit_hexDigit low,
      isHexDigit_hexDigit high', isHexDigit_hexDigit low']
  · have bound := second.toNat_lt
    have upper : (256 * first.toNat + second.toNat) / 256 = first.toNat := by omega
    have lower : (256 * first.toNat + second.toNat) % 256 = second.toNat := by omega
    rw [wordBytes, number, upper, lower, UInt8.ofNat_toNat, UInt8.ofNat_toNat]

theorem lone_not_word (byte : UInt8) : isWord (hexPair byte) = false := rfl

/-- The tokens of the pairs of a line. -/
def pairTokens : List UInt8 → List (List Char)
  | first :: second :: bytes => (hexPair first ++ hexPair second) :: pairTokens bytes
  | [byte] => [hexPair byte]
  | [] => []

theorem words_dumpPairs (bytes : List UInt8) (text : List Char) :
    words isWhitespace (dumpPairs bytes ++ ' ' :: text) =
      pairTokens bytes ++ words isWhitespace text := by
  induction bytes using dumpPairs.induct with
  | case1 first second bytes ih =>
    have solid : ∀ c ∈ hexPair first ++ hexPair second, isWhitespace c = false := by
      intro c member
      rcases List.mem_append.mp member with here | there
      · exact hexPair_solid first c here
      · exact hexPair_solid second c there
    rw [dumpPairs, pairTokens, List.append_assoc, List.cons_append,
      words_cons (by simp [hexPair]) solid rfl, ih, List.cons_append]
  | case2 byte =>
    rw [dumpPairs, pairTokens, words_cons (by simp [hexPair]) (hexPair_solid byte) rfl]
    rfl
  | case3 => exact words_blank rfl text

theorem takeWhile_pairTokens (bytes : List UInt8) (tokens : List (List Char)) :
    ((pairTokens bytes ++ tokens).takeWhile isWord).flatMap wordBytes =
      if bytes.length % 2 = 0 then bytes ++ (tokens.takeWhile isWord).flatMap wordBytes
      else bytes.dropLast := by
  induction bytes using dumpPairs.induct with
  | case1 first second bytes ih =>
    obtain ⟨isWord, read⟩ := pair_isWord first second
    rw [pairTokens, List.cons_append, List.takeWhile_cons_of_pos isWord, List.flatMap_cons, read,
      ih]
    have parity : (first :: second :: bytes).length % 2 = bytes.length % 2 := by
      simp only [List.length_cons]
      omega
    rw [parity]
    split
    · rfl
    · rename_i odd
      have nonempty : bytes ≠ [] := by
        rintro rfl
        exact odd rfl
      rw [List.dropLast_cons_of_ne_nil (by simp), List.dropLast_cons_of_ne_nil nonempty]
      rfl
  | case2 byte =>
    rw [pairTokens, List.singleton_append, List.takeWhile_cons_of_neg (by simp [lone_not_word])]
    rfl
  | case3 => rfl

end Words

section Reading
variable {bytes : List UInt8} {tokens : List (List Char)}

theorem wordBytes_even (tokens : List (List Char)) : (tokens.flatMap wordBytes).length % 2 = 0 := by
  induction tokens with
  | nil => rfl
  | cons token tokens ih =>
    rw [List.flatMap_cons, List.length_append]
    have two : (wordBytes token).length = 2 := rfl
    omega

/-- The words of a line are taken up to the bound. -/
theorem takeWords_eq (even : bytes.length % 2 = 0) (short : bytes.length < 4096) :
    takeWords bytes tokens =
      ((bytes ++ (tokens.takeWhile isWord).flatMap wordBytes).take 4096,
        decide (4096 ≤ (bytes ++ (tokens.takeWhile isWord).flatMap wordBytes).length)) := by
  induction tokens generalizing bytes with
  | nil =>
    rw [takeWords, List.takeWhile_nil, List.flatMap_nil, List.append_nil,
      List.take_of_length_le (le_of_lt short), decide_eq_false (by omega)]
  | cons token tokens ih =>
    rw [takeWords]
    by_cases word : isWord token = true
    · have two : (wordBytes token).length = 2 := rfl
      rw [if_pos word, List.takeWhile_cons_of_pos word, List.flatMap_cons, ← List.append_assoc]
      dsimp only
      have longer : (bytes ++ wordBytes token).length = bytes.length + 2 := by
        rw [List.length_append, two]
      have bound : maxAvccExtradataBytes = 4096 := rfl
      rw [bound]
      by_cases full : 4096 ≤ (bytes ++ wordBytes token).length
      · rw [if_pos full, List.take_append_of_le_length full,
          List.take_of_length_le (by omega), decide_eq_true]
        rw [List.length_append]
        omega
      · rw [if_neg full]
        exact ih (by omega) (by omega)
    · rw [if_neg word, List.takeWhile_cons_of_neg word, List.flatMap_nil, List.append_nil,
        List.take_of_length_le (le_of_lt short), decide_eq_false (by omega)]

/-- What a line is read as. -/
def lineBytes (line : List Char) : List UInt8 :=
  match splitOnce ':' line with
  | none => []
  | some (_, payload) => leadingWords payload

theorem collectWords_eq {text : List (List Char)} (even : bytes.length % 2 = 0)
    (short : bytes.length < 4096) :
    collectWords bytes text = (bytes ++ text.flatMap lineBytes).take 4096 := by
  induction text generalizing bytes with
  | nil =>
    rw [collectWords, List.flatMap_nil, List.append_nil, List.take_of_length_le (le_of_lt short)]
  | cons line text ih =>
    rw [collectWords, List.flatMap_cons, lineBytes]
    cases splitOnce ':' line with
    | none => exact ih even short
    | some parts =>
      dsimp only
      rw [takeWords_eq even short, ← leadingWords, ← List.append_assoc]
      by_cases full : 4096 ≤ (bytes ++ leadingWords parts.2).length
      · rw [decide_eq_true full, List.take_append_of_le_length full]
      · have words := wordBytes_even ((words isWhitespace parts.2).takeWhile isWord)
        rw [← leadingWords] at words
        rw [decide_eq_false full, List.take_of_length_le (by omega)]
        refine ih ?_ (by omega)
        rw [List.length_append]
        omega

end Reading

section Lines
variable {bytes : List UInt8}

theorem shownChar_plain (byte : UInt8) :
    shownChar byte ≠ '\n' ∧ shownChar byte ≠ '\r' := by
  unfold shownChar
  split
  · rename_i printable
    obtain ⟨low, high⟩ := printable
    have all : ∀ n, 32 ≤ n → n < 127 → Char.ofNat n ≠ '\n' ∧ Char.ofNat n ≠ '\r' := by decide
    exact all _ low high
  · decide

theorem hexDigit_plain : ∀ n < 16, hexDigit n ≠ '\n' ∧ hexDigit n ≠ '\r' := by decide

theorem dumpPairs_plain (bytes : List UInt8) :
    ∀ c ∈ dumpPairs bytes, c ≠ '\n' ∧ c ≠ '\r' := by
  have pair : ∀ byte, ∀ c ∈ hexPair byte, c ≠ '\n' ∧ c ≠ '\r' := by
    intro byte c member
    obtain ⟨high, low⟩ := hexPair_digits byte
    rcases List.mem_cons.mp member with rfl | member
    · exact hexDigit_plain _ high
    · rw [List.mem_singleton.mp member]
      exact hexDigit_plain _ low
  induction bytes using dumpPairs.induct with
  | case1 first second bytes ih =>
    intro c member
    rw [dumpPairs, List.mem_append, List.mem_append, List.mem_cons] at member
    rcases member with (here | there) | rfl | later
    · exact pair first c here
    · exact pair second c there
    · decide
    · exact ih c later
  | case2 byte => exact pair byte
  | case3 => intro c member; cases member

theorem dumpOffset_digits {offset : Nat} {c : Char} (member : c ∈ dumpOffset offset) :
    ∃ n < 16, c = hexDigit n := by
  obtain ⟨k, -, rfl⟩ := List.mem_map.mp member
  exact ⟨_, Nat.mod_lt _ (by decide), rfl⟩

/-- A line of the dump holds no line end. -/
theorem dumpLine_plain (offset : Nat) (bytes : List UInt8) :
    ∀ c ∈ dumpLine offset bytes, c ≠ '\n' ∧ c ≠ '\r' := by
  intro c member
  simp only [dumpLine, List.mem_append, List.mem_cons] at member
  rcases member with offset | rfl | rfl | (pairs | blank) | text
  · obtain ⟨n, digit, rfl⟩ := dumpOffset_digits offset
    exact hexDigit_plain n digit
  · decide
  · decide
  · exact dumpPairs_plain bytes c pairs
  · rw [List.eq_of_mem_replicate blank]
    decide
  · obtain ⟨byte, -, rfl⟩ := List.mem_map.mp text
    exact shownChar_plain byte

/-- A line of the dump is read as its pairs and the words of its column. -/
theorem lineBytes_dumpLine (offset : Nat) (few : bytes.length ≤ 16) :
    lineBytes (dumpLine offset bytes) = shownLine bytes := by
  have free : ':' ∉ dumpOffset offset := by
    intro member
    obtain ⟨n, digit, same⟩ := dumpOffset_digits member
    exact hexDigit_ne_colon n digit same.symm
  obtain ⟨blanks, padded⟩ : ∃ k, padding bytes.length = k + 1 :=
    ⟨padding bytes.length - 1, by unfold padding; omega⟩
  have payload : words isWhitespace (' ' :: (dumpPairs bytes ++
      List.replicate (padding bytes.length) ' ' ++ column bytes)) =
        pairTokens bytes ++ words isWhitespace (column bytes) := by
    rw [words_blank rfl, padded, List.replicate_succ, List.append_assoc, List.cons_append,
      words_dumpPairs, words_blanks rfl]
  rw [lineBytes, dumpLine, splitOnce_first free]
  dsimp only
  rw [leadingWords, payload, takeWhile_pairTokens, shownLine, leadingWords]

theorem lines_dumpLines (count offset : Nat) (bytes : List UInt8) :
    (lines (dumpLines count offset bytes)).flatMap lineBytes = shownLines count bytes := by
  induction count generalizing offset bytes with
  | zero => rfl
  | succ count ih =>
    have newline : '\n' ∉ dumpLine offset (bytes.take 16) := fun member =>
      (dumpLine_plain offset _ _ member).1 rfl
    have returns : '\r' ∉ dumpLine offset (bytes.take 16) := fun member =>
      (dumpLine_plain offset _ _ member).2 rfl
    rw [dumpLines, lines_cons newline, stripReturn_free returns, List.flatMap_cons, ih,
      lineBytes_dumpLine offset (by rw [List.length_take]; omega), shownLines]

/-- Reading a dump is reading the bytes it shows. -/
theorem parseAvccExtradata_dump (bytes : List UInt8) :
    parseAvccExtradata (dump bytes) = parseAvccBytes (shown bytes) := by
  have empty : lineBytes (stripReturn []) = [] := rfl
  have free : '\n' ∉ ([] : List Char) := List.not_mem_nil
  have first : lines (dump bytes) = stripReturn [] :: lines (dumpLines (lineCount bytes) 0 bytes) :=
    lines_cons free _
  rw [parseAvccExtradata, collectWords_eq rfl (by decide), List.nil_append, first,
    List.flatMap_cons, empty, lines_dumpLines]
  rfl

end Lines

section Result
variable {bytes : List UInt8}

theorem isRecord_iff (small : bytes.length < 2 ^ 63) :
    IsRecord bytes ↔ ∃ declaration, parseAvccBytes bytes = .ok declaration := by
  constructor
  · rintro ⟨record, encoded⟩
    exact ⟨_, (parseAvccBytes_ok small).mpr ⟨record, encoded, rfl⟩⟩
  · rintro ⟨declaration, parsed⟩
    obtain ⟨record, encoded, -⟩ := (parseAvccBytes_ok small).mp parsed
    exact ⟨record, encoded⟩

/-- The declaration of a record stands in its first bytes. -/
theorem encode_take (record : AvccRecord) :
    record.encode.take 4 = [1, record.declaration.profileIdc,
      record.declaration.profileCompatibility, record.declaration.levelIdc] := rfl

theorem encode_length (record : AvccRecord) : 6 ≤ record.encode.length := by
  simp only [AvccRecord.encode, AvccRecord.header, List.length_append, List.length_cons]
  omega

/-- The first bytes are always shown. -/
theorem shown_take (long : 6 ≤ bytes.length) : (shown bytes).take 4 = bytes.take 4 := by
  obtain ⟨count, counted⟩ : ∃ k, lineCount bytes = k + 1 :=
    ⟨lineCount bytes - 1, by unfold lineCount; omega⟩
  have line : 6 ≤ (bytes.take 16).length := by
    rw [List.length_take]
    omega
  have first : (shownLine (bytes.take 16)).take 4 = bytes.take 4 ∧
      4 ≤ (shownLine (bytes.take 16)).length := by
    unfold shownLine
    split
    · rw [List.take_append_of_le_length (by omega), List.take_take, List.length_append]
      exact ⟨rfl, by omega⟩
    · rw [List.dropLast_eq_take, List.take_take, List.take_take]
      simp only [List.length_take]
      rw [List.length_take] at line
      refine ⟨?_, by omega⟩
      congr 1
      omega
  rw [shown, counted, shownLines, List.take_take, List.take_append_of_le_length]
  · exact first.1
  · exact le_trans (by decide) first.2

/-- The two readings agree where both or neither find a record. -/
theorem parse_shown_iff (short : bytes.length ≤ 4096) :
    parseAvccBytes (shown bytes) = parseAvccBytes bytes ↔
      (IsRecord (shown bytes) ↔ IsRecord bytes) := by
  have small : bytes.length < 2 ^ 63 := by omega
  have shownSmall : (shown bytes).length < 2 ^ 63 := by
    rw [shown, List.length_take]
    unfold maxAvccExtradataBytes
    omega
  constructor
  · intro same
    rw [isRecord_iff small, isRecord_iff shownSmall, same]
  · intro same
    by_cases isRecord : IsRecord bytes
    · obtain ⟨record, encoded⟩ := isRecord
      obtain ⟨shownRecord, shownEncoded⟩ := same.mpr ⟨record, encoded⟩
      have long := encode_length record
      rw [encoded] at long
      have prefixes := shown_take long
      rw [← shownEncoded, ← encoded, encode_take, encode_take] at prefixes
      have declarations : shownRecord.declaration = record.declaration := by
        simp only [List.cons.injEq, and_true, true_and] at prefixes
        obtain ⟨profile, compatibility, level⟩ := prefixes
        exact AvcCDeclaration.ext profile compatibility level
      rw [(parseAvccBytes_ok small).mpr ⟨record, encoded, rfl⟩,
        (parseAvccBytes_ok shownSmall).mpr ⟨shownRecord, shownEncoded, declarations⟩]
    · rw [parseAvccBytes_absent small isRecord,
        parseAvccBytes_absent shownSmall (fun isShown => isRecord (same.mp isShown))]

/-- No text column opens with a word. -/
def PlainColumns : Nat → List UInt8 → Prop
  | 0, _ => True
  | count + 1, bytes =>
    leadingWords (column (bytes.take 16)) = [] ∧ PlainColumns count (bytes.drop 16)

theorem shownLines_plain {count : Nat} (plain : PlainColumns count bytes)
    (even : bytes.length % 2 = 0) (inside : bytes.length ≤ 16 * count) :
    shownLines count bytes = bytes := by
  induction count generalizing bytes with
  | zero => exact (List.length_eq_zero_iff.mp (by omega)).symm
  | succ count ih =>
    have line : (bytes.take 16).length % 2 = 0 := by
      rw [List.length_take]
      omega
    have rest := ih plain.2 (by rw [List.length_drop]; omega) (by rw [List.length_drop]; omega)
    rw [shownLines, shownLine, if_pos line, plain.1, List.append_nil, rest,
      List.take_append_drop]

/-- The dump of bytes in pairs, whose text columns open with no word, is read
    back. -/
theorem plain_dump_is_read_back (short : bytes.length ≤ 4096) (even : bytes.length % 2 = 0)
    (plain : PlainColumns (lineCount bytes) bytes) :
    parseAvccExtradata (dump bytes) = parseAvccBytes bytes := by
  have whole : shown bytes = bytes := by
    rw [shown, shownLines_plain plain even (by unfold lineCount; omega)]
    exact List.take_of_length_le short
  rw [parseAvccExtradata_dump, whole]

/-- A record of thirteen bytes; its last one stands alone in the dump. -/
def oddRecord : List UInt8 := [1, 0x64, 0, 0x28, 0xff, 0xe1, 0, 1, 0x67, 1, 0, 1, 0x68]

/-- A record whose second line shows `abcd` in its text column. -/
def columnRecord : List UInt8 :=
  [1, 0x64, 0, 0x28, 0xff, 0xe1, 0, 24] ++ List.replicate 8 0 ++ [0x61, 0x62, 0x63, 0x64, 0x20] ++
    List.replicate 11 0 ++ [1, 0, 1, 0x68]

end Result

end Sooqa.Media
