import Mathlib.Data.List.DropRight
import Mathlib.Tactic.Common

/-!
Lines of fields, and trimming and lowercasing of texts over Unicode. The character tables are a
parameter, as every version of the standard has its own; what all of them
promise stands beside them. The one mapping that looks around itself is that
of the capital sigma.
-/
namespace Foundation

section Lines
variable {separator mark : Char}

/-- The two fields of a line can be read back from it. -/
theorem field_injective {first first' rest rest' : List Char} (free : mark ∉ first)
    (free' : mark ∉ first') (same : first ++ mark :: rest = first' ++ mark :: rest') :
    first = first' ∧ rest = rest' := by
  induction first generalizing first' with
  | nil =>
    cases first' with
    | nil => exact ⟨rfl, (List.cons.inj same).2⟩
    | cons c tail => exact absurd ((List.cons.inj same).1 ▸ List.mem_cons_self) free'
  | cons c tail ih =>
    cases first' with
    | nil => exact absurd ((List.cons.inj same).1 ▸ List.mem_cons_self) free
    | cons c' tail' =>
      obtain ⟨here, later⟩ := List.cons.inj same
      obtain ⟨fields, ends⟩ := ih (fun h => free (List.mem_cons_of_mem _ h))
        (fun h => free' (List.mem_cons_of_mem _ h)) later
      exact ⟨by rw [here, fields], ends⟩

/-- Lines that are not empty and do not hold the separator can be read back. -/
theorem lines_injective {lines lines' : List (List Char)}
    (free : ∀ line ∈ lines, separator ∉ line ∧ line ≠ [])
    (free' : ∀ line ∈ lines', separator ∉ line ∧ line ≠ [])
    (same : [separator].intercalate lines = [separator].intercalate lines') : lines = lines' := by
  have back : ∀ {lines : List (List Char)}, (∀ line ∈ lines, separator ∉ line ∧ line ≠ []) →
      lines ≠ [] → ([separator].intercalate lines).splitOn separator = lines := by
    intro lines free filled
    exact List.splitOn_intercalate separator (fun line member => (free line member).1) filled
  have filled : ∀ {lines : List (List Char)}, (∀ line ∈ lines, separator ∉ line ∧ line ≠ []) →
      [separator].intercalate lines = [] → lines = [] := by
    intro lines free empty
    by_contra some_lines
    have one := back free some_lines
    rw [empty, List.splitOn_nil] at one
    exact (free [] (one ▸ List.mem_singleton_self _)).2 rfl
  by_cases none : lines = []
  · rw [none] at same ⊢
    exact (filled free' same.symm).symm
  · by_cases none' : lines' = []
    · rw [none'] at same ⊢
      exact filled free same
    · rw [← back free none, same, back free' none']

end Lines

section Trim
variable {space : Char → Bool} {text : List Char}

/-- A text without blanks at its two ends. -/
structure Trimmed (space : Char → Bool) (text : List Char) : Prop where
  first : ∀ c, text.head? = some c → space c = false
  last : ∀ c, text.getLast? = some c → space c = false

def trimEnds (space : Char → Bool) (text : List Char) : List Char :=
  ((text.dropWhile space).reverse.dropWhile space).reverse

theorem dropWhile_head (space : Char → Bool) (text : List Char) {c : Char}
    (h : (text.dropWhile space).head? = some c) : space c = false := by
  have := List.head?_dropWhile_not space text
  rw [h] at this
  exact this

/-- Dropping blanks in front leaves a text with the last character it had. -/
theorem getLast?_dropWhile {text : List Char} {c : Char}
    (h : (text.dropWhile space).getLast? = some c) : text.getLast? = some c := by
  obtain ⟨dropped, whole⟩ := text.dropWhile_suffix space
  rw [← whole, List.getLast?_append, h]
  rfl

theorem trimEnds_trimmed (space : Char → Bool) (text : List Char) :
    Trimmed space (trimEnds space text) where
  first := by
    intro c h
    rw [trimEnds, List.head?_reverse] at h
    have front := getLast?_dropWhile h
    rw [List.getLast?_reverse] at front
    exact dropWhile_head space text front
  last := by
    intro c h
    rw [trimEnds, List.getLast?_reverse] at h
    exact dropWhile_head space _ h

theorem dropWhile_of_head (first : ∀ c, text.head? = some c → space c = false) :
    text.dropWhile space = text := by
  cases text with
  | nil => rfl
  | cons c rest => exact List.dropWhile_cons_of_neg (by simp [first c rfl])

theorem Trimmed.trimEnds (trimmed : Trimmed space text) : trimEnds space text = text := by
  rw [Foundation.trimEnds, dropWhile_of_head trimmed.first, dropWhile_of_head,
    List.reverse_reverse]
  intro c h
  rw [List.head?_reverse] at h
  exact trimmed.last c h

end Trim

section Lowercase

/-- The character tables behind `to_lowercase`, and what every version of them
    promises: lowercase letters stay, capitals never map to blanks. -/
structure CharacterData (space : Char → Bool) where
  toLowercase : Char → List Char
  cased : Char → Bool
  caseIgnorable : Char → Bool
  mapped : ∀ c, toLowercase c ≠ []
  settled : ∀ c, ∀ d ∈ toLowercase c, toLowercase d = [d]
  visible : ∀ c, space c = false → ∀ d ∈ toLowercase c, space d = false
  sigma : toLowercase 'Σ' = ['σ']
  finalSigma : toLowercase 'ς' = ['ς'] ∧ space 'ς' = false

variable {space : Char → Bool} (data : CharacterData space)

namespace CharacterData

def ignorableThenCased (text : List Char) : Bool :=
  match text.dropWhile data.caseIgnorable with
  | c :: _ => data.cased c
  | [] => false

/-- The lowercase sigma ends a word where a letter stands before it and none
    after it. -/
def mapSigma (before rest : List Char) : Char :=
  if data.ignorableThenCased before && !data.ignorableThenCased rest then 'ς' else 'σ'

def lowercaseAt (before : List Char) (c : Char) (rest : List Char) : List Char :=
  if c = 'Σ' then [data.mapSigma before rest] else data.toLowercase c

/-- What is left of a text, with what stands before it in reverse. -/
def lowercaseFrom (before : List Char) : List Char → List Char
  | [] => []
  | c :: rest => data.lowercaseAt before c rest ++ lowercaseFrom (c :: before) rest

def lowercase (text : List Char) : List Char := data.lowercaseFrom [] text

variable {data}

theorem settled_lowercaseAt {before rest : List Char} {c d : Char}
    (member : d ∈ data.lowercaseAt before c rest) : data.toLowercase d = [d] := by
  have small : data.toLowercase 'σ' = ['σ'] := data.settled 'Σ' 'σ' (by simp [data.sigma])
  unfold lowercaseAt at member
  split at member
  · unfold mapSigma at member
    split at member
    · rw [List.mem_singleton.mp member]
      exact data.finalSigma.1
    · rw [List.mem_singleton.mp member]
      exact small
  · exact data.settled c d member

theorem settled_lowercaseFrom {text before : List Char} {d : Char}
    (member : d ∈ data.lowercaseFrom before text) : data.toLowercase d = [d] := by
  induction text generalizing before with
  | nil => cases member
  | cons c rest ih =>
    rcases List.mem_append.mp member with here | later
    · exact settled_lowercaseAt here
    · exact ih later

/-- Characters that map to themselves are left alone, wherever they stand. -/
theorem lowercaseFrom_settled {text : List Char} (before : List Char)
    (settled : ∀ d ∈ text, data.toLowercase d = [d]) : data.lowercaseFrom before text = text := by
  induction text generalizing before with
  | nil => rfl
  | cons c rest ih =>
    have self := settled c List.mem_cons_self
    have lower : c ≠ 'Σ' := by
      intro capital
      rw [capital, data.sigma] at self
      exact absurd self (by decide)
    rw [lowercaseFrom, lowercaseAt, if_neg lower, self,
      ih _ (fun d member => settled d (List.mem_cons_of_mem c member))]
    rfl

theorem lowercase_lowercase (text : List Char) :
    data.lowercase (data.lowercase text) = data.lowercase text :=
  lowercaseFrom_settled [] (fun _ member => settled_lowercaseFrom member)

theorem lowercaseAt_ne_nil (before : List Char) (c : Char) (rest : List Char) :
    data.lowercaseAt before c rest ≠ [] := by
  unfold lowercaseAt
  split
  · exact List.cons_ne_nil _ _
  · exact data.mapped c

/-- A visible character is lowered to visible ones. -/
theorem visible_lowercaseAt {before rest : List Char} {c d : Char} (visible : space c = false)
    (member : d ∈ data.lowercaseAt before c rest) : space d = false := by
  unfold lowercaseAt at member
  split at member
  · rename_i capital
    rw [capital] at visible
    unfold mapSigma at member
    split at member
    · rw [List.mem_singleton.mp member]
      exact data.finalSigma.2
    · rw [List.mem_singleton.mp member]
      exact data.visible 'Σ' visible 'σ' (by simp [data.sigma])
  · exact data.visible c visible d member

theorem lowercaseFrom_ne_nil (before : List Char) (c : Char) (rest : List Char) :
    data.lowercaseFrom before (c :: rest) ≠ [] := by
  intro empty
  exact lowercaseAt_ne_nil before c rest (List.append_eq_nil_iff.mp empty).1

theorem lowercaseFrom_last {text : List Char} (before : List Char)
    (last : ∀ c, text.getLast? = some c → space c = false) {d : Char}
    (h : (data.lowercaseFrom before text).getLast? = some d) : space d = false := by
  induction text generalizing before with
  | nil => cases h
  | cons c rest ih =>
    cases rest with
    | nil =>
      rw [lowercaseFrom, lowercaseFrom, List.append_nil] at h
      exact visible_lowercaseAt (last c rfl) (List.mem_of_getLast? h)
    | cons e rest =>
      rw [lowercaseFrom, List.getLast?_append_of_ne_nil _ (lowercaseFrom_ne_nil _ e rest)] at h
      exact ih _ (fun c' h' => last c' (by rw [List.getLast?_cons_cons]; exact h')) h

theorem lowercase_trimmed {text : List Char} (trimmed : Trimmed space text) :
    Trimmed space (data.lowercase text) where
  first := by
    intro d h
    cases text with
    | nil => cases h
    | cons c rest =>
      rw [lowercase, lowercaseFrom, List.head?_append_of_ne_nil _ (lowercaseAt_ne_nil _ c rest)] at h
      exact visible_lowercaseAt (trimmed.first c rfl) (List.mem_of_head? h)
  last := fun _ h => lowercaseFrom_last [] trimmed.last h

end CharacterData
end Lowercase

end Foundation
