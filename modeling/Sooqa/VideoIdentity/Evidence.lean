import Sooqa.Foundation.Json
import Sooqa.Foundation.Numerals
import Sooqa.VideoIdentity.Fingerprint

/-!
The evidence of a possible duplicate with all its fields: how persistence checks
it, what is written of it, and what the identity transactions read of it.
-/
namespace Sooqa.VideoIdentity
open Foundation Media
open Queue (Uuid)

section Model

inductive VideoDuplicateClassification where
  | strongDuplicate
  | partialMatch
  deriving DecidableEq, Repr

structure VideoDuplicateMatch where
  mediaId : Uuid
  fingerprintVersion : String
  classification : VideoDuplicateClassification
  alignedOffsetMs : Int
  informativeMatchedSamples : Nat
  incomingCoverageBps : Nat
  candidateCoverageBps : Nat
  medianDistanceBps : Nat
  highPercentileDistanceBps : Nat
  longestTemporallyConsistentRun : Nat
  unmatchedIncomingPrefix : Nat
  unmatchedIncomingSuffix : Nat
  unmatchedCandidatePrefix : Nat
  unmatchedCandidateSuffix : Nat
  gapCount : Nat
  scoreBps : Nat
  sharedTokenCount : Int
  tokenOverlapBps : Int
  deriving DecidableEq, Repr

structure VideoDuplicateEvidence where
  algorithmVersion : String
  candidates : List VideoDuplicateMatch
  deriving DecidableEq, Repr

inductive DuplicateEvidenceError where
  | empty
  | tooManyMatches (max : Nat)
  | algorithmVersionMismatch (expected actual : String)
  | missingStrongMatch
  | fingerprintVersionMismatch (expected actual : String)
  | invalidBasisPoints (field : String) (value : Int)
  | invalidSharedTokenCount (value : Int)
  deriving DecidableEq, Repr

def VideoDuplicateMatch.isStrong (item : VideoDuplicateMatch) : Bool :=
  item.classification == .strongDuplicate

/-- The fields of a match that are basis points, with their names. -/
def VideoDuplicateMatch.basisPoints (item : VideoDuplicateMatch) : List (String × Int) :=
  [("incoming_coverage_bps", item.incomingCoverageBps),
    ("candidate_coverage_bps", item.candidateCoverageBps),
    ("median_distance_bps", item.medianDistanceBps),
    ("high_percentile_distance_bps", item.highPercentileDistanceBps),
    ("score_bps", item.scoreBps),
    ("token_overlap_bps", item.tokenOverlapBps)]

def validateBasisPoints : List (String × Int) → Except DuplicateEvidenceError Unit
  | [] => .ok ()
  | (field, value) :: rest => do
    require (0 ≤ value ∧ value ≤ 10000) (.invalidBasisPoints field value)
    validateBasisPoints rest

def validateMatches (fingerprintVersion : String) :
    List VideoDuplicateMatch → Except DuplicateEvidenceError Unit
  | [] => .ok ()
  | item :: rest => do
    require (item.fingerprintVersion = fingerprintVersion)
      (.fingerprintVersionMismatch fingerprintVersion item.fingerprintVersion)
    validateBasisPoints item.basisPoints
    require (0 ≤ item.sharedTokenCount) (.invalidSharedTokenCount item.sharedTokenCount)
    validateMatches fingerprintVersion rest

def validateDuplicateEvidence (evidence : VideoDuplicateEvidence) (fingerprintVersion : String) :
    Except DuplicateEvidenceError Unit := do
  require (evidence.candidates ≠ []) .empty
  require (evidence.candidates.length ≤ Library.maxVideoDuplicateMatches)
    (.tooManyMatches Library.maxVideoDuplicateMatches)
  require (evidence.algorithmVersion = fingerprintVersion)
    (.algorithmVersionMismatch fingerprintVersion evidence.algorithmVersion)
  require (evidence.candidates.any (·.isStrong) = true) .missingStrongMatch
  validateMatches fingerprintVersion evidence.candidates

def VideoDuplicateClassification.toJson : VideoDuplicateClassification → Json
  | .strongDuplicate => .string "strong_duplicate"
  | .partialMatch => .string "partial_match"

/-- A count as it is written: the words of the source hold it. -/
def wordJson (value : Nat) : Json := .ofUInt64 (.ofNat value)

def signedJson (value : Int) : Json := .ofInt64 (.ofInt value)

def VideoDuplicateMatch.toJson (item : VideoDuplicateMatch) : Json :=
  .object
    [("media_id", .string (.ofList (uuidText item.mediaId))),
      ("fingerprint_version", .string item.fingerprintVersion),
      ("classification", item.classification.toJson),
      ("aligned_offset_ms", signedJson item.alignedOffsetMs),
      ("informative_matched_samples", wordJson item.informativeMatchedSamples),
      ("incoming_coverage_bps", wordJson item.incomingCoverageBps),
      ("candidate_coverage_bps", wordJson item.candidateCoverageBps),
      ("median_distance_bps", wordJson item.medianDistanceBps),
      ("high_percentile_distance_bps", wordJson item.highPercentileDistanceBps),
      ("longest_temporally_consistent_run", wordJson item.longestTemporallyConsistentRun),
      ("unmatched_incoming_prefix", wordJson item.unmatchedIncomingPrefix),
      ("unmatched_incoming_suffix", wordJson item.unmatchedIncomingSuffix),
      ("unmatched_candidate_prefix", wordJson item.unmatchedCandidatePrefix),
      ("unmatched_candidate_suffix", wordJson item.unmatchedCandidateSuffix),
      ("gap_count", wordJson item.gapCount),
      ("score_bps", wordJson item.scoreBps),
      ("shared_token_count", signedJson item.sharedTokenCount),
      ("token_overlap_bps", signedJson item.tokenOverlapBps)]

def VideoDuplicateEvidence.toJson (evidence : VideoDuplicateEvidence) : Json :=
  .object
    [("algorithm_version", .string evidence.algorithmVersion),
      ("matches", .array (evidence.candidates.map (·.toJson)))]

/-- What the identity transactions read of a match and of evidence. -/
def VideoDuplicateMatch.summary (item : VideoDuplicateMatch) : Library.VideoDuplicateMatch where
  mediaId := item.mediaId
  fingerprintVersion := item.fingerprintVersion
  strongDuplicate := item.isStrong
  basisPoints := item.basisPoints.map (·.2)
  sharedTokenCount := item.sharedTokenCount

def VideoDuplicateEvidence.summary (evidence : VideoDuplicateEvidence) :
    Library.VideoDuplicateEvidence where
  algorithmVersion := evidence.algorithmVersion
  candidates := evidence.candidates.map (·.summary)
  encodedBytes := evidence.toJson.size

end Model

section Validation
variable {evidence : VideoDuplicateEvidence} {version : String}

/-- A match that persistence takes for a version. -/
structure VideoDuplicateMatch.Acceptable (version : String) (item : VideoDuplicateMatch) : Prop where
  version : item.fingerprintVersion = version
  basisPoints : ∀ field ∈ item.basisPoints, 0 ≤ field.2 ∧ field.2 ≤ 10000
  shared : 0 ≤ item.sharedTokenCount

theorem validateBasisPoints_iff {fields : List (String × Int)} :
    validateBasisPoints fields = .ok () ↔ ∀ field ∈ fields, 0 ≤ field.2 ∧ field.2 ≤ 10000 := by
  induction fields with
  | nil => simp [validateBasisPoints]
  | cons field fields ih =>
    simp only [validateBasisPoints, bind_ok, require_ok, ih, List.mem_cons, forall_eq_or_imp,
      exists_const]

theorem validateMatches_iff {candidates : List VideoDuplicateMatch} :
    validateMatches version candidates = .ok () ↔ ∀ item ∈ candidates, item.Acceptable version := by
  induction candidates with
  | nil => simp [validateMatches]
  | cons item candidates ih =>
    simp only [validateMatches, bind_ok, require_ok, ih, List.mem_cons, forall_eq_or_imp]
    constructor
    · rintro ⟨_, same, _, points, _, shared, rest⟩
      exact ⟨⟨same, validateBasisPoints_iff.mp points, shared⟩, rest⟩
    · rintro ⟨acceptable, rest⟩
      exact ⟨(), acceptable.version, (), validateBasisPoints_iff.mpr acceptable.basisPoints, (),
        acceptable.shared, rest⟩

theorem validateDuplicateEvidence_iff :
    validateDuplicateEvidence evidence version = .ok () ↔
      evidence.candidates ≠ [] ∧ evidence.candidates.length ≤ 3 ∧
        evidence.algorithmVersion = version ∧ evidence.candidates.any (·.isStrong) = true ∧
        ∀ item ∈ evidence.candidates, item.Acceptable version := by
  unfold validateDuplicateEvidence
  simp only [bind_ok, require_ok, validateMatches_iff]
  constructor
  · rintro ⟨_, some_match, _, few, _, same, _, strong, rest⟩
    exact ⟨some_match, few, same, strong, rest⟩
  · rintro ⟨some_match, few, same, strong, rest⟩
    exact ⟨(), some_match, (), few, (), same, (), strong, rest⟩

theorem library_match_iff {item : Library.VideoDuplicateMatch} :
    Library.validateDuplicateMatch version item = .ok () ↔
      item.fingerprintVersion = version ∧
        (∀ value ∈ item.basisPoints, 0 ≤ value ∧ value ≤ 10000) ∧ 0 ≤ item.sharedTokenCount := by
  unfold Library.validateDuplicateMatch
  simp only [bind_ok, require_ok, exists_const]

theorem library_matches_iff {candidates : List Library.VideoDuplicateMatch} :
    candidates.forM (Library.validateDuplicateMatch version) = .ok () ↔
      ∀ item ∈ candidates, Library.validateDuplicateMatch version item = .ok () := by
  induction candidates with
  | nil => exact ⟨fun _ => nofun, fun _ => rfl⟩
  | cons item candidates ih =>
    show (Library.validateDuplicateMatch version item >>= fun _ =>
      candidates.forM (Library.validateDuplicateMatch version)) = .ok () ↔ _
    rw [bind_ok]
    simp only [List.mem_cons, forall_eq_or_imp, ih]
    exact ⟨fun ⟨_, first, rest⟩ => ⟨first, rest⟩, fun ⟨first, rest⟩ => ⟨(), first, rest⟩⟩

theorem library_evidence_iff {evidence : Library.VideoDuplicateEvidence} :
    Library.validateDuplicateEvidence evidence version = .ok () ↔
      evidence.candidates ≠ [] ∧ evidence.candidates.length ≤ 3 ∧
        evidence.algorithmVersion = version ∧
        evidence.candidates.any (·.strongDuplicate) = true ∧
        ∀ item ∈ evidence.candidates, Library.validateDuplicateMatch version item = .ok () := by
  unfold Library.validateDuplicateEvidence
  simp only [bind_ok, require_ok, library_matches_iff, exists_const]
  rfl

theorem summary_match_iff {item : VideoDuplicateMatch} :
    Library.validateDuplicateMatch version item.summary = .ok () ↔ item.Acceptable version := by
  rw [library_match_iff]
  constructor
  · rintro ⟨same, points, shared⟩
    refine ⟨same, ?_, shared⟩
    intro field member
    exact points field.2 (List.mem_map_of_mem member)
  · intro acceptable
    refine ⟨acceptable.version, ?_, acceptable.shared⟩
    intro value member
    obtain ⟨field, inside, rfl⟩ := List.mem_map.mp member
    exact acceptable.basisPoints field inside

/-- The check on a summary is the check on the fields. -/
theorem summary_validated :
    Library.validateDuplicateEvidence evidence.summary version = .ok () ↔
      validateDuplicateEvidence evidence version = .ok () := by
  have strong : evidence.summary.candidates.any (·.strongDuplicate) =
      evidence.candidates.any (·.isStrong) := by
    rw [VideoDuplicateEvidence.summary, List.any_map]
    rfl
  have items : (∀ item ∈ evidence.summary.candidates,
      Library.validateDuplicateMatch version item = .ok ()) ↔
        ∀ item ∈ evidence.candidates, item.Acceptable version := by
    simp only [VideoDuplicateEvidence.summary, List.forall_mem_map, summary_match_iff]
  have some_match : evidence.summary.candidates ≠ [] ↔ evidence.candidates ≠ [] := by
    simp only [VideoDuplicateEvidence.summary, ne_eq, List.map_eq_nil_iff]
  have count : evidence.summary.candidates.length = evidence.candidates.length :=
    List.length_map _
  rw [library_evidence_iff, validateDuplicateEvidence_iff, strong, items, some_match, count]
  rfl

end Validation

section Size

theorem charSize_le (c : Char) : Json.charSize c ≤ 6 := by
  have bytes := c.utf8Size_le_four
  unfold Json.charSize
  split
  · omega
  · split <;> omega

theorem stringSize_le (text : String) : Json.stringSize text ≤ 2 + 6 * text.toList.length := by
  have sum : ∀ chars : List Char, (chars.map Json.charSize).sum ≤ 6 * chars.length := by
    intro chars
    induction chars with
    | nil => simp
    | cons c chars ih =>
      have := charSize_le c
      simp only [List.map_cons, List.sum_cons, List.length_cons]
      omega
  have := sum text.toList
  unfold Json.stringSize
  omega

theorem digits_le {n : Nat} (word : n < 2 ^ 64) : (Nat.toDigits 10 n).length ≤ 20 := by
  rw [Nat.length_toDigits_le_iff (by decide) (by decide)]
  omega

theorem entriesSize_le {entries : List (String × Json)} (bound : Nat)
    (small : ∀ entry ∈ entries, entry.2.size ≤ bound) :
    Json.entriesSize entries ≤
      (entries.map fun entry => Json.stringSize entry.1).sum + (1 + bound) * entries.length := by
  induction entries with
  | nil => simp [Json.entriesSize]
  | cons entry entries ih =>
    obtain ⟨key, value⟩ := entry
    have first : value.size ≤ bound := small (key, value) List.mem_cons_self
    have rest := ih fun other member => small other (List.mem_cons_of_mem _ member)
    simp only [Json.entriesSize, List.map_cons, List.sum_cons, List.length_cons, Nat.mul_succ]
    omega

theorem wordJson_size (value : Nat) : (wordJson value).size ≤ 20 :=
  digits_le (UInt64.toNat_lt _)

theorem signedJson_size (value : Int) : (signedJson value).size ≤ 21 := by
  have least := (Int64.ofInt value).le_toInt
  have greatest := (Int64.ofInt value).toInt_lt
  unfold signedJson Json.ofInt64
  split
  · simp only [Json.size, Json.numberSize]
    exact Nat.le_succ_of_le (digits_le (UInt64.toNat_lt _))
  · simp only [Json.size, Json.numberSize]
    have digits := digits_le (n := (Int64.ofInt value).toInt.natAbs) (by omega)
    omega

theorem VideoDuplicateMatch.toJson_size {item : VideoDuplicateMatch}
    (named : item.fingerprintVersion = videoSequenceV1) : item.toJson.size ≤ 5000 := by
  have id := stringSize_le (.ofList (uuidText item.mediaId))
  rw [String.toList_ofList, uuidText_length] at id
  have version : Json.stringSize item.fingerprintVersion ≤ 218 := by
    rw [named]
    decide
  have classification : item.classification.toJson.size ≤ 218 := by
    cases item.classification <;> decide
  have words := fun value => Nat.le_trans (wordJson_size value) (by decide : 20 ≤ 218)
  have signed := fun value => Nat.le_trans (signedJson_size value) (by decide : 21 ≤ 218)
  rw [VideoDuplicateMatch.toJson, Json.size]
  refine Nat.le_trans (Nat.add_le_add_left (entriesSize_le 218 ?_) _) ?_
  · simp only [List.forall_mem_cons, List.not_mem_nil, false_implies, implies_true, and_true,
      words, signed, classification, Json.size]
    exact ⟨id, version⟩
  · simp only [List.map_cons, List.map_nil, List.length_cons, List.length_nil]
    decide

/-- Three matches at most take less than persistence allows. -/
theorem VideoDuplicateEvidence.toJson_size {evidence : VideoDuplicateEvidence}
    (valid : validateDuplicateEvidence evidence videoSequenceV1 = .ok ()) :
    evidence.toJson.size ≤ Library.maxVideoDuplicateEvidenceBytes := by
  obtain ⟨_, few, same, _, acceptable⟩ := validateDuplicateEvidence_iff.mp valid
  have items : ∀ candidates : List VideoDuplicateMatch,
      (∀ item ∈ candidates, item.Acceptable videoSequenceV1) →
        Json.itemsSize (candidates.map (·.toJson)) ≤ 5000 * candidates.length := by
    intro candidates
    induction candidates with
    | nil => intro _; simp [Json.itemsSize]
    | cons item candidates ih =>
      intro all
      have first := VideoDuplicateMatch.toJson_size (all item List.mem_cons_self).version
      have rest := ih fun other member => all other (List.mem_cons_of_mem _ member)
      simp only [List.map_cons, Json.itemsSize, List.length_cons]
      omega
  have body := items evidence.candidates acceptable
  have version : Json.stringSize videoSequenceV1 = 19 := by decide
  have keys : Json.stringSize "algorithm_version" = 19 ∧ Json.stringSize "matches" = 9 := by
    decide
  simp only [VideoDuplicateEvidence.toJson, Json.size, Json.entriesSize, List.length_cons,
    List.length_nil, List.length_map, same, version, keys]
  unfold Library.maxVideoDuplicateEvidenceBytes
  omega

end Size

end Sooqa.VideoIdentity
