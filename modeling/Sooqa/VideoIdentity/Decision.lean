import Sooqa.Media.AlignmentSymmetry
import Sooqa.VideoIdentity.Evidence

/-!
The decision about a new video: the stored fingerprints that share enough search
tokens with it are fetched and aligned with it, and the best of the matches are
the evidence when one of them is a strong duplicate.
-/
namespace Sooqa.VideoIdentity
open Foundation Media
open Queue (Uuid)

section Candidates

/-- The columns of a media row that the search for candidates reads. -/
structure FingerprintRow where
  id : Uuid
  kind : MediaKind
  storageState : MediaStorageState
  fingerprintVersion : Option String
  fingerprintData : Option (List UInt8)
  fingerprintSearchTokens : Option (List Int)
  deriving DecidableEq

structure VideoFingerprintCandidate where
  mediaId : Uuid
  fingerprintVersion : String
  fingerprintData : List UInt8
  sharedTokenCount : Nat
  overlapBps : Nat
  deriving DecidableEq

def distinctCount (tokens : List Int) : Nat := tokens.dedup.length

def sharedTokens (candidate query : List Int) : Nat :=
  (candidate.dedup.filter (fun token => decide (token ∈ query))).length

def smallerTokenCount (candidate query : List Int) : Nat :=
  min (distinctCount candidate) (distinctCount query)

/-- A row with its counts, where its tokens meet the ones that are searched. -/
def candidateOf (fingerprintVersion : String) (searchTokens : List Int) (row : FingerprintRow) :
    Option VideoFingerprintCandidate :=
  match row.fingerprintVersion, row.fingerprintData, row.fingerprintSearchTokens with
  | some version, some data, some tokens =>
    let shared := sharedTokens tokens searchTokens
    let smaller := smallerTokenCount tokens searchTokens
    if row.kind = .video ∧ version = fingerprintVersion ∧
        (row.storageState = .pending ∨ row.storageState = .ready) ∧
        tokens.any (fun token => decide (token ∈ searchTokens)) = true ∧
        8 ≤ shared ∧ smaller ≤ shared * 10 then
      some ⟨row.id, version, data, shared, shared * 10000 / smaller⟩
    else none
  | _, _, _ => none

/-- The order of the query: more shared tokens, then a larger overlap, then the
    smaller identifier. -/
def VideoFingerprintCandidate.before (left right : VideoFingerprintCandidate) : Prop :=
  right.sharedTokenCount < left.sharedTokenCount ∨
    right.sharedTokenCount = left.sharedTokenCount ∧
      (right.overlapBps < left.overlapBps ∨
        right.overlapBps = left.overlapBps ∧ left.mediaId ≤ right.mediaId)

instance : DecidableRel VideoFingerprintCandidate.before :=
  fun _ _ => inferInstanceAs (Decidable (_ ∨ _))

def fetchVideoFingerprintCandidates (media : List FingerprintRow) (fingerprintVersion : String)
    (searchTokens : List Int) : List VideoFingerprintCandidate :=
  if searchTokens = [] then []
  else
    ((media.filterMap (candidateOf fingerprintVersion searchTokens)).insertionSort
      VideoFingerprintCandidate.before).take 20

end Candidates

section Decision

inductive VideoIdentityDecision where
  | noMatch
  | duplicatePending (evidence : VideoDuplicateEvidence)
  deriving DecidableEq, Repr

/-- Why a comparison fails, as its message says. -/
inductive AlignmentFailure where
  | invalidStoredFingerprint (mediaId : Uuid) (fault : Fault)
  | alignment (error : SequenceAlignmentError)
  deriving DecidableEq

def duplicateMatch (candidate : VideoFingerprintCandidate) (alignment : SequenceAlignment) :
    Option VideoDuplicateMatch :=
  let matched (classification : VideoDuplicateClassification) : VideoDuplicateMatch :=
    let evidence := alignment.evidence
    { mediaId := candidate.mediaId
      fingerprintVersion := candidate.fingerprintVersion
      classification := classification
      alignedOffsetMs := evidence.alignedOffsetMs
      informativeMatchedSamples := evidence.informativeMatchedSamples
      incomingCoverageBps := evidence.incomingCoverageBps
      candidateCoverageBps := evidence.candidateCoverageBps
      medianDistanceBps := evidence.medianDistanceBps
      highPercentileDistanceBps := evidence.highPercentileDistanceBps
      longestTemporallyConsistentRun := evidence.longestTemporallyConsistentRun
      unmatchedIncomingPrefix := evidence.unmatchedIncomingPrefix
      unmatchedIncomingSuffix := evidence.unmatchedIncomingSuffix
      unmatchedCandidatePrefix := evidence.unmatchedCandidatePrefix
      unmatchedCandidateSuffix := evidence.unmatchedCandidateSuffix
      gapCount := evidence.gapCount
      scoreBps := evidence.scoreBps
      sharedTokenCount := candidate.sharedTokenCount
      tokenOverlapBps := candidate.overlapBps }
  match alignment.classification with
  | .strongDuplicate => some (matched .strongDuplicate)
  | .partialMatch => some (matched .partialMatch)
  | .notDuplicate => none

def classificationRank : VideoDuplicateClassification → Nat
  | .strongDuplicate => 2
  | .partialMatch => 1

/-- The order of matches: the stronger class, the higher score, more shared
    tokens, the smaller identifier. -/
def VideoDuplicateMatch.before (left right : VideoDuplicateMatch) : Prop :=
  classificationRank right.classification < classificationRank left.classification ∨
    classificationRank right.classification = classificationRank left.classification ∧
      (right.scoreBps < left.scoreBps ∨
        right.scoreBps = left.scoreBps ∧
          (right.sharedTokenCount < left.sharedTokenCount ∨
            right.sharedTokenCount = left.sharedTokenCount ∧ left.mediaId ≤ right.mediaId))

instance : DecidableRel VideoDuplicateMatch.before :=
  fun _ _ => inferInstanceAs (Decidable (_ ∨ _))

variable (incoming : VideoSequenceFingerprint) (config : SequenceAlignmentConfig)

def alignCandidate (candidate : VideoFingerprintCandidate) :
    Except AlignmentFailure (Option VideoDuplicateMatch) := do
  let stored ← (VideoSequenceFingerprint.decode candidate.fingerprintData).mapError
    (.invalidStoredFingerprint candidate.mediaId)
  let alignment ← (alignVideoSequences incoming stored config).mapError .alignment
  return duplicateMatch candidate alignment

/-- The matches of the candidates, or the first failure. -/
def alignCandidates :
    List VideoFingerprintCandidate → Except AlignmentFailure (List VideoDuplicateMatch)
  | [] => .ok []
  | candidate :: rest => do
    let found ← alignCandidate incoming config candidate
    let others ← alignCandidates rest
    return found.toList ++ others

def alignVideoIdentity (candidates : List VideoFingerprintCandidate) :
    Except AlignmentFailure VideoIdentityDecision := do
  let found ← alignCandidates incoming config candidates
  let sorted := found.insertionSort VideoDuplicateMatch.before
  if sorted.any (·.isStrong) then
    return .duplicatePending
      ⟨incoming.version.asStr, sorted.take Library.maxVideoDuplicateMatches⟩
  return .noMatch

/-- What the identity transactions read of a decision. -/
def VideoIdentityDecision.summary : VideoIdentityDecision → Library.VideoIdentityDecision
  | .noMatch => .noMatch
  | .duplicatePending evidence => .duplicatePending evidence.summary

end Decision

section Query
variable {media : List FingerprintRow} {version : String} {searchTokens : List Int}
  {candidate : VideoFingerprintCandidate}

/-- Shared tokens are tokens of both sides. -/
theorem sharedTokens_le (tokens query : List Int) :
    sharedTokens tokens query ≤ smallerTokenCount tokens query := by
  apply Nat.le_min.mpr
  constructor
  · exact List.length_filter_le _ _
  · apply List.Subperm.length_le
    apply List.subperm_of_subset (tokens.nodup_dedup.filter _)
    intro token member
    exact List.mem_dedup.mpr (of_decide_eq_true (List.mem_filter.mp member).2)

/-- What every candidate has that the query finds. -/
structure VideoFingerprintCandidate.Found (version : String)
    (candidate : VideoFingerprintCandidate) : Prop where
  version : candidate.fingerprintVersion = version
  shared : 8 ≤ candidate.sharedTokenCount
  overlap : candidate.overlapBps ≤ 10000

theorem candidateOf_found {row : FingerprintRow}
    (found : candidateOf version searchTokens row = some candidate) :
    candidate.Found version ∧ candidate.mediaId = row.id := by
  unfold candidateOf at found
  split at found
  · rename_i stored data tokens _ _ _
    simp only at found
    split at found
    · rename_i conditions
      cases found
      have shared := sharedTokens_le tokens searchTokens
      refine ⟨⟨conditions.2.1, conditions.2.2.2.2.1, ?_⟩, rfl⟩
      apply Nat.div_le_of_le_mul
      have := Nat.mul_le_mul_right 10000 shared
      omega
    · cases found
  · cases found

theorem mem_fetch
    (member : candidate ∈ fetchVideoFingerprintCandidates media version searchTokens) :
    ∃ row ∈ media, candidateOf version searchTokens row = some candidate := by
  unfold fetchVideoFingerprintCandidates at member
  split at member
  · cases member
  · exact List.mem_filterMap.mp ((List.mem_insertionSort _).mp (List.mem_of_mem_take member))

theorem fetch_found
    (member : candidate ∈ fetchVideoFingerprintCandidates media version searchTokens) :
    candidate.Found version := by
  obtain ⟨row, _, found⟩ := mem_fetch member
  exact (candidateOf_found found).1

/-- No media is a candidate twice. -/
theorem fetch_distinct (keys : (media.map (·.id)).Nodup) :
    ((fetchVideoFingerprintCandidates media version searchTokens).map (·.mediaId)).Nodup := by
  have ids : ∀ rows : List FingerprintRow,
      ((rows.filterMap (candidateOf version searchTokens)).map (·.mediaId)).Sublist
        (rows.map (·.id)) := by
    intro rows
    induction rows with
    | nil => exact List.Sublist.slnil
    | cons row rows ih =>
      cases found : candidateOf version searchTokens row with
      | none =>
        rw [List.filterMap_cons_none found, List.map_cons]
        exact ih.cons _
      | some candidate =>
        rw [List.filterMap_cons_some found, List.map_cons, List.map_cons,
          (candidateOf_found found).2]
        exact ih.cons_cons _
  unfold fetchVideoFingerprintCandidates
  split
  · exact List.nodup_nil
  · have sorted := (List.perm_insertionSort VideoFingerprintCandidate.before
      (media.filterMap (candidateOf version searchTokens))).map (·.mediaId)
    have all := sorted.nodup_iff.mpr (keys.sublist (ids media))
    exact all.sublist ((List.take_sublist _ _).map _)

end Query

section Matching
variable {incoming stored : VideoSequenceFingerprint} {config : SequenceAlignmentConfig}
  {version : String} {candidate : VideoFingerprintCandidate} {item : VideoDuplicateMatch}
  {candidates supplied : List VideoFingerprintCandidate}

/-- A candidate that is a strong duplicate of the incoming video. -/
def AlignsStrongly (incoming : VideoSequenceFingerprint) (config : SequenceAlignmentConfig)
    (candidate : VideoFingerprintCandidate) : Prop :=
  ∃ stored alignment,
    VideoSequenceFingerprint.decode candidate.fingerprintData = .ok stored ∧
      alignVideoSequences incoming stored config = .ok alignment ∧
        alignment.classification = .strongDuplicate

/-- What a match says about its candidate. -/
structure VideoDuplicateMatch.IsOf (item : VideoDuplicateMatch)
    (candidate : VideoFingerprintCandidate) : Prop where
  mediaId : item.mediaId = candidate.mediaId
  acceptable : ∀ version, candidate.Found version → item.Acceptable version

theorem duplicateMatch_isOf (comparable : Comparable incoming stored config)
    (found : duplicateMatch candidate ⟨classify (bestEvidence incoming stored config) config,
      bestEvidence incoming stored config⟩ = some item) : item.IsOf candidate := by
  have coverage := basisPoints_le (matchesBetween incoming stored config).length
    incoming.samples.length
  have candidateCoverage := basisPoints_le (matchesBetween incoming stored config).length
    stored.samples.length
  have median := percentile_le (counted_distances comparable) 50
  have high := percentile_le (counted_distances comparable) 95
  have score := alignmentScoreBps_le (bestScore incoming stored config)
    (counted incoming stored config).length
    (percentile ((counted incoming stored config).map (·.distanceBps)) 50)
    (min (basisPoints (matchesBetween incoming stored config).length incoming.samples.length)
      (basisPoints (matchesBetween incoming stored config).length stored.samples.length))
  have share : ∀ {n : Nat}, n ≤ 10000 → 0 ≤ (n : Int) ∧ (n : Int) ≤ 10000 := by
    intro n le
    omega
  unfold duplicateMatch at found
  simp only at found
  split at found
  case h_3 => cases found
  all_goals
    cases found
    refine ⟨rfl, fun version isFound => ⟨isFound.version, ?_, Int.natCast_nonneg _⟩⟩
    simp only [VideoDuplicateMatch.basisPoints, List.forall_mem_cons, List.not_mem_nil,
      false_implies, implies_true, and_true]
    exact ⟨share coverage, share candidateCoverage, share median, share high, share score,
      share isFound.overlap⟩

theorem duplicateMatch_strong {alignment : SequenceAlignment} :
    (∃ item, duplicateMatch candidate alignment = some item ∧ item.isStrong = true) ↔
      alignment.classification = .strongDuplicate := by
  unfold duplicateMatch
  simp only
  split
  · rename_i strong
    exact ⟨fun _ => strong, fun _ => ⟨_, rfl, rfl⟩⟩
  · rename_i partially
    rw [partially]
    constructor
    · rintro ⟨item, same, strong⟩
      cases same
      cases strong
    · nofun
  · rename_i no
    rw [no]
    constructor
    · rintro ⟨item, same, _⟩
      cases same
    · nofun

end Matching

section Comparing
variable {incoming stored : VideoSequenceFingerprint} {config : SequenceAlignmentConfig}
  {version : String} {candidate : VideoFingerprintCandidate} {item : VideoDuplicateMatch}
  {candidates supplied : List VideoFingerprintCandidate}

/-- A configuration under which any two valid fingerprints can be compared, as
    they can under the one that the worker uses. -/
structure Admits (config : SequenceAlignmentConfig) : Prop where
  valid : config.validate = .ok ()
  cells : 2049 * 2049 ≤ config.maxCells.toNat

theorem default_admits : Admits .default := ⟨rfl, by decide⟩

theorem decoded_valid {data : List UInt8}
    (decoded : VideoSequenceFingerprint.decode data = .ok stored) :
    stored.Valid := by
  obtain ⟨grid, valid, _⟩ := encode_eq_ok.mp (decode_iff_encode.mp decoded)
  apply new_ok_iff.mpr
  cases stored with
  | mk version durationMs intervalMs samples =>
    cases version
    exact ⟨grid, valid, rfl⟩

theorem Admits.comparable (admits : Admits config) (incomingValid : incoming.Valid)
    (storedValid : stored.Valid) : Comparable incoming stored config := by
  obtain ⟨incomingSome, incomingSmall⟩ := incomingValid.samples
  obtain ⟨storedSome, storedSmall⟩ := storedValid.samples
  refine ⟨admits.valid, rfl, List.ne_nil_of_length_pos incomingSome,
    List.ne_nil_of_length_pos storedSome, ?_⟩
  exact Nat.le_trans (Nat.mul_le_mul (Nat.succ_le_succ incomingSmall)
    (Nat.succ_le_succ storedSmall)) admits.cells

/-- A candidate whose stored bytes are a fingerprint. -/
def Decodable (candidate : VideoFingerprintCandidate) : Prop :=
  ∃ stored, VideoSequenceFingerprint.decode candidate.fingerprintData = .ok stored

/-- Every candidate that can be decoded is compared. -/
theorem alignCandidate_ok (admits : Admits config) (valid : incoming.Valid)
    (decodable : Decodable candidate) :
    ∃ found, alignCandidate incoming config candidate = .ok found ∧
      (∀ item, found = some item → item.IsOf candidate) ∧
      ((∃ item, found = some item ∧ item.isStrong = true) ↔
        AlignsStrongly incoming config candidate) := by
  obtain ⟨stored, decoded⟩ := decodable
  have comparable := admits.comparable valid (decoded_valid decoded)
  have aligned : alignVideoSequences incoming stored config = .ok _ :=
    alignVideoSequences_ok_iff.mpr ⟨comparable, rfl⟩
  refine ⟨duplicateMatch candidate _, ?_, fun item found => duplicateMatch_isOf comparable found,
    ?_⟩
  · unfold alignCandidate
    rw [decoded]
    show Except.mapError AlignmentFailure.alignment (alignVideoSequences incoming stored config) >>=
      _ = _
    rw [aligned]
    rfl
  · rw [duplicateMatch_strong]
    constructor
    · intro strong
      exact ⟨stored, _, decoded, aligned, strong⟩
    · rintro ⟨stored', alignment, decoded', aligned', strong⟩
      cases decoded.symm.trans decoded'
      cases aligned.symm.trans aligned'
      exact strong

/-- The match of a candidate, where the comparison gives one. -/
def matchOf (incoming : VideoSequenceFingerprint) (config : SequenceAlignmentConfig)
    (candidate : VideoFingerprintCandidate) : Option VideoDuplicateMatch :=
  match alignCandidate incoming config candidate with
  | .ok found => found
  | .error _ => none

theorem alignCandidates_ok
    (compared : ∀ candidate ∈ candidates, ∃ found,
      alignCandidate incoming config candidate = .ok found) :
    alignCandidates incoming config candidates =
      .ok (candidates.filterMap (matchOf incoming config)) := by
  induction candidates with
  | nil => rfl
  | cons candidate candidates ih =>
    obtain ⟨found, aligned⟩ := compared candidate List.mem_cons_self
    have rest := ih fun other member => compared other (List.mem_cons_of_mem _ member)
    have matched : matchOf incoming config candidate = found := by rw [matchOf, aligned]
    rw [alignCandidates, aligned, bind_ok_eq, rest, bind_ok_eq]
    cases found with
    | none => rw [List.filterMap_cons_none matched]; rfl
    | some item => rw [List.filterMap_cons_some matched]; rfl

instance : Std.Total VideoDuplicateMatch.before where
  total left right := by
    unfold VideoDuplicateMatch.before Uuid
    omega

instance : IsTrans VideoDuplicateMatch VideoDuplicateMatch.before where
  trans left middle right first second := by
    unfold VideoDuplicateMatch.before Uuid at *
    omega

theorem VideoDuplicateMatch.before_strong {left right : VideoDuplicateMatch}
    (before : left.before right) (strong : right.isStrong = true) : left.isStrong = true := by
  unfold VideoDuplicateMatch.before at before
  unfold VideoDuplicateMatch.isStrong at strong ⊢
  rw [beq_iff_eq] at strong
  rw [strong] at before
  cases classified : left.classification with
  | strongDuplicate => rfl
  | partialMatch =>
    rw [classified] at before
    simp only [classificationRank] at before
    omega

/-- The matches of distinct media are told apart by their order. -/
theorem matches_strict (distinct : (candidates.map (·.mediaId)).Nodup)
    (own : ∀ candidate ∈ candidates, ∀ item, matchOf incoming config candidate = some item →
      item.IsOf candidate) :
    Ranking.Strict VideoDuplicateMatch.before (candidates.filterMap (matchOf incoming config)) := by
  intro x hx y hy first second
  obtain ⟨candidate, member, found⟩ := List.mem_filterMap.mp hx
  obtain ⟨candidate', member', found'⟩ := List.mem_filterMap.mp hy
  have same : candidate.mediaId = candidate'.mediaId := by
    rw [← (own candidate member x found).mediaId, ← (own candidate' member' y found').mediaId]
    unfold VideoDuplicateMatch.before Uuid at first second
    unfold Uuid
    omega
  have one := List.inj_on_of_nodup_map distinct member member' same
  rw [one, found'] at found
  exact (Option.some.inj found).symm

/-- The best of the matches of a list of candidates. -/
structure IsBest (incoming : VideoSequenceFingerprint) (config : SequenceAlignmentConfig)
    (candidates : List VideoFingerprintCandidate) (best : VideoDuplicateMatch) : Prop where
  strong : best.isStrong = true
  found : ∃ candidate ∈ candidates, alignCandidate incoming config candidate = .ok (some best)
  first : ∀ candidate ∈ candidates, ∀ other,
    alignCandidate incoming config candidate = .ok (some other) → best.before other

theorem matchOf_eq_some : matchOf incoming config candidate = some item ↔
    alignCandidate incoming config candidate = .ok (some item) := by
  unfold matchOf
  split
  · rename_i found aligned
    rw [aligned, Except.ok.injEq]
  · rename_i failure failed
    rw [failed]
    exact ⟨nofun, nofun⟩

end Comparing

section Exactness
variable {incoming : VideoSequenceFingerprint} {config : SequenceAlignmentConfig}
  {candidates supplied : List VideoFingerprintCandidate}

/-- The matches of candidates as the decision sorts them. -/
def sortedMatches (incoming : VideoSequenceFingerprint) (config : SequenceAlignmentConfig)
    (candidates : List VideoFingerprintCandidate) : List VideoDuplicateMatch :=
  (candidates.filterMap (matchOf incoming config)).insertionSort VideoDuplicateMatch.before

theorem mem_sortedMatches {item : VideoDuplicateMatch} :
    item ∈ sortedMatches incoming config candidates ↔
      ∃ candidate ∈ candidates,
        alignCandidate incoming config candidate = .ok (some item) := by
  rw [sortedMatches, List.mem_insertionSort, List.mem_filterMap]
  simp only [matchOf_eq_some]

/-- The decision, from the sorted matches. -/
def decisionOf (incoming : VideoSequenceFingerprint) (config : SequenceAlignmentConfig)
    (candidates : List VideoFingerprintCandidate) : VideoIdentityDecision :=
  if (sortedMatches incoming config candidates).any (·.isStrong) = true then
    .duplicatePending ⟨incoming.version.asStr, (sortedMatches incoming config candidates).take 3⟩
  else .noMatch

theorem decisionOf_pending {evidence : VideoDuplicateEvidence} :
    decisionOf incoming config candidates = .duplicatePending evidence ↔
      (sortedMatches incoming config candidates).any (·.isStrong) = true ∧
        evidence = ⟨incoming.version.asStr, (sortedMatches incoming config candidates).take 3⟩ := by
  unfold decisionOf
  split
  · rename_i strong
    rw [VideoIdentityDecision.duplicatePending.injEq]
    exact ⟨fun same => ⟨strong, same.symm⟩, fun same => same.2.symm⟩
  · rename_i weak
    exact ⟨nofun, fun same => absurd same.1 weak⟩

theorem alignVideoIdentity_eq (admits : Admits config) (valid : incoming.Valid)
    (decodable : ∀ candidate ∈ candidates, Decodable candidate) :
    alignVideoIdentity incoming config candidates =
      .ok (decisionOf incoming config candidates) := by
  have compared : ∀ candidate ∈ candidates, ∃ found,
      alignCandidate incoming config candidate = .ok found := by
    intro candidate member
    obtain ⟨found, aligned, _⟩ := alignCandidate_ok admits valid (decodable candidate member)
    exact ⟨found, aligned⟩
  rw [alignVideoIdentity, alignCandidates_ok compared, bind_ok_eq, decisionOf]
  show (if (sortedMatches incoming config candidates).any (·.isStrong) = true then _ else _) = _
  split <;> rfl

/-- The order in which candidates are supplied does not matter. -/
theorem sortedMatches_perm (admits : Admits config) (valid : incoming.Valid)
    (decodable : ∀ candidate ∈ candidates, Decodable candidate)
    (distinct : (candidates.map (·.mediaId)).Nodup) (same : supplied.Perm candidates) :
    sortedMatches incoming config supplied = sortedMatches incoming config candidates := by
  have own : ∀ candidate ∈ candidates, ∀ item, matchOf incoming config candidate = some item →
      item.IsOf candidate := by
    intro candidate member item found
    obtain ⟨other, aligned, isOf, _⟩ := alignCandidate_ok admits valid (decodable candidate member)
    cases aligned.symm.trans (matchOf_eq_some.mp found)
    exact isOf item rfl
  exact (Ranking.insertionSort_perm (same.symm.filterMap (matchOf incoming config))
    (matches_strict distinct own)).symm

theorem some_strong_iff (admits : Admits config) (valid : incoming.Valid)
    (decodable : ∀ candidate ∈ candidates, Decodable candidate) :
    (sortedMatches incoming config candidates).any (·.isStrong) = true ↔
      ∃ candidate ∈ candidates, AlignsStrongly incoming config candidate := by
  rw [List.any_eq_true]
  constructor
  · rintro ⟨item, member, strong⟩
    obtain ⟨candidate, inside, aligned⟩ := mem_sortedMatches.mp member
    obtain ⟨found, aligned', _, exact⟩ := alignCandidate_ok admits valid (decodable candidate inside)
    cases aligned.symm.trans aligned'
    exact ⟨candidate, inside, exact.mp ⟨item, rfl, strong⟩⟩
  · rintro ⟨candidate, inside, strongly⟩
    obtain ⟨found, aligned, _, exact⟩ := alignCandidate_ok admits valid (decodable candidate inside)
    obtain ⟨item, rfl, strong⟩ := exact.mpr strongly
    exact ⟨item, mem_sortedMatches.mpr ⟨candidate, inside, aligned⟩, strong⟩

/-- The first of the sorted matches is the best one, and strong if any is. -/
theorem first_isBest
    (some_strong : (sortedMatches incoming config candidates).any (·.isStrong) = true) :
    ∃ best, ((sortedMatches incoming config candidates).take 3).head? = some best ∧
      IsBest incoming config candidates best := by
  obtain ⟨item, member, strong⟩ := List.any_eq_true.mp some_strong
  have sorted : (sortedMatches incoming config candidates).Pairwise VideoDuplicateMatch.before :=
    List.pairwise_insertionSort _ _
  have members := @mem_sortedMatches incoming config candidates
  cases shape : sortedMatches incoming config candidates with
  | nil =>
    rw [shape] at member
    cases member
  | cons best rest =>
    rw [shape] at sorted member members
    have first : ∀ other ∈ best :: rest, best.before other := by
      intro other inside
      rcases List.mem_cons.mp inside with rfl | later
      · exact (Std.Total.total (r := VideoDuplicateMatch.before) other other).elim id id
      · exact (List.pairwise_cons.mp sorted).1 other later
    have strong' := VideoDuplicateMatch.before_strong (first item member) strong
    refine ⟨best, rfl, strong', members.mp List.mem_cons_self, ?_⟩
    intro candidate inside other aligned
    exact first other (members.mpr ⟨candidate, inside, aligned⟩)

/-- Persistence takes the evidence that the worker makes. -/
theorem evidence_accepted (admits : Admits config) (valid : incoming.Valid)
    (decodable : ∀ candidate ∈ candidates, Decodable candidate)
    (found : ∀ candidate ∈ candidates, candidate.Found incoming.version.asStr)
    (some_strong : (sortedMatches incoming config candidates).any (·.isStrong) = true) :
    validateDuplicateEvidence ⟨incoming.version.asStr,
      (sortedMatches incoming config candidates).take 3⟩ incoming.version.asStr = .ok () := by
  obtain ⟨best, head, isBest⟩ := first_isBest some_strong
  have inside : best ∈ (sortedMatches incoming config candidates).take 3 :=
    List.mem_of_mem_head? head
  refine validateDuplicateEvidence_iff.mpr ⟨List.ne_nil_of_mem inside, List.length_take_le _ _,
    rfl, List.any_eq_true.mpr ⟨best, inside, isBest.strong⟩, ?_⟩
  intro item member
  obtain ⟨candidate, among, aligned⟩ := mem_sortedMatches.mp (List.mem_of_mem_take member)
  obtain ⟨other, aligned', isOf, _⟩ := alignCandidate_ok admits valid (decodable candidate among)
  cases aligned.symm.trans aligned'
  exact (isOf item rfl).acceptable _ (found candidate among)

/-- A transaction for a video that is not stored yet takes accepted evidence. -/
theorem persist_accepts {evidence : VideoDuplicateEvidence} {input : VideoFingerprintInput}
    (accepted : validateDuplicateEvidence evidence videoSequenceV1 = .ok ())
    (named : input.version = videoSequenceV1) (valid : input.validate = .ok ()) (db : Db)
    (ingest : Library.MediaIngest) (video : ingest.kind = .video) (forceSave : Bool)
    (fresh : Library.findMediaBySha db ingest.sha256 = none) :
    ∃ result, Library.persistVideoIdentity db ingest (some input.summary)
      (VideoIdentityDecision.duplicatePending evidence).summary forceSave = .ok result := by
  have version : input.summary.version = videoSequenceV1 := named
  have summarized : Library.validateDuplicateEvidence evidence.summary input.summary.version =
      .ok () := by
    rw [version]
    exact summary_validated.mpr accepted
  have small : evidence.summary.encodedBytes ≤ Library.maxVideoDuplicateEvidenceBytes :=
    VideoDuplicateEvidence.toJson_size accepted
  have checked := summary_valid.mpr valid
  cases forceSave with
  | true =>
    refine ⟨(Library.insertMedia db ingest, .newMedia db.fresh), ?_⟩
    simp only [Library.persistVideoIdentity, bind_ok, require_ok, fresh, expect_ok,
      Library.persistNewVideo, VideoIdentityDecision.summary, if_true]
    exact ⟨(), video, _, rfl, (), checked, (), summarized, rfl⟩
  | false =>
    refine ⟨(db, .duplicatePending evidence.summary), ?_⟩
    simp only [Library.persistVideoIdentity, bind_ok, require_ok, fresh, expect_ok,
      Library.persistNewVideo, VideoIdentityDecision.summary, Bool.false_eq_true, if_false]
    exact ⟨(), video, _, rfl, (), checked, (), summarized, (), small, rfl⟩

end Exactness

/-- A video is held back exactly when one of the candidates that the query finds
    is a strong duplicate of it. The evidence is the same for every order of the
    candidates, holds the best strong match and at most two more, and is taken by
    every check that persistence makes. -/
theorem duplicate_decision_is_exact (incoming : VideoSequenceFingerprint)
    (valid : incoming.Valid) (config : SequenceAlignmentConfig) (admits : Admits config)
    (media : List FingerprintRow) (keys : (media.map (·.id)).Nodup) (searchTokens : List Int)
    (decodable : ∀ candidate ∈ fetchVideoFingerprintCandidates media incoming.version.asStr
      searchTokens, Decodable candidate) :
    let fetched := fetchVideoFingerprintCandidates media incoming.version.asStr searchTokens
    ∃ decision,
      (∀ supplied : List VideoFingerprintCandidate, supplied.Perm fetched →
        alignVideoIdentity incoming config supplied = .ok decision) ∧
      ((∃ evidence, decision = .duplicatePending evidence) ↔
        ∃ candidate ∈ fetched, AlignsStrongly incoming config candidate) ∧
      ∀ evidence, decision = .duplicatePending evidence →
        1 ≤ evidence.candidates.length ∧ evidence.candidates.length ≤ 3 ∧
          (∃ best ∈ evidence.candidates, IsBest incoming config fetched best) ∧
          (∀ item ∈ evidence.candidates,
            0 ≤ item.tokenOverlapBps ∧ item.tokenOverlapBps ≤ 10000) ∧
          validateDuplicateEvidence evidence incoming.version.asStr = .ok () ∧
          ∀ (input : VideoFingerprintInput) (db : Db) (ingest : Library.MediaIngest)
            (forceSave : Bool), input.version = incoming.version.asStr →
            input.validate = .ok () → ingest.kind = .video →
            Library.findMediaBySha db ingest.sha256 = none →
            ∃ result, Library.persistVideoIdentity db ingest (some input.summary)
              decision.summary forceSave = .ok result := by
  intro fetched
  have distinct : (fetched.map (·.mediaId)).Nodup := fetch_distinct keys
  have found : ∀ candidate ∈ fetched, candidate.Found incoming.version.asStr :=
    fun candidate member => fetch_found member
  refine ⟨decisionOf incoming config fetched, ?_, ?_, ?_⟩
  · intro supplied same
    have sorted := sortedMatches_perm admits valid decodable distinct same
    have supplied_decodable : ∀ candidate ∈ supplied, Decodable candidate :=
      fun candidate member => decodable candidate (same.mem_iff.mp member)
    rw [alignVideoIdentity_eq admits valid supplied_decodable, decisionOf, decisionOf, sorted]
  · rw [← some_strong_iff admits valid decodable]
    constructor
    · rintro ⟨evidence, decided⟩
      exact (decisionOf_pending.mp decided).1
    · intro strong
      exact ⟨_, decisionOf_pending.mpr ⟨strong, rfl⟩⟩
  · intro evidence decided
    obtain ⟨strong, rfl⟩ := decisionOf_pending.mp decided
    rw [decided]
    have accepted := evidence_accepted admits valid decodable found strong
    obtain ⟨best, head, isBest⟩ := first_isBest strong
    have inside : best ∈ (sortedMatches incoming config fetched).take 3 :=
      List.mem_of_mem_head? head
    refine ⟨List.length_pos_of_mem inside, List.length_take_le _ _, ⟨best, inside, isBest⟩, ?_,
      accepted, ?_⟩
    · intro item member
      have acceptable := (validateDuplicateEvidence_iff.mp accepted).2.2.2.2 item member
      exact acceptable.basisPoints ("token_overlap_bps", item.tokenOverlapBps)
        (by simp [VideoDuplicateMatch.basisPoints])
    · intro input db ingest forceSave named checked video fresh
      exact persist_accepts accepted named checked db ingest video forceSave fresh

def steadySample : VideoSequenceSample :=
  ⟨0x0123456789abcdef, 0xfedcba9876543210, 120, 0, 0, 9000, 0⟩

/-- Four seconds of a picture that does not change. -/
def steadyVideo : VideoSequenceFingerprint :=
  ⟨.videoSequenceV1, 4000, 500, List.replicate 8 steadySample⟩

def steadyBytes : List UInt8 :=
  encodeHeader 4000 500 8 ++ (List.replicate 8 steadySample).flatMap encodeSample

def steadyRow : FingerprintRow where
  id := 7
  kind := .video
  storageState := .ready
  fingerprintVersion := some videoSequenceV1
  fingerprintData := some steadyBytes
  fingerprintSearchTokens := some (deriveSearchTokens steadyVideo)

theorem steady_video_is_held_back :
    ∃ evidence, alignVideoIdentity steadyVideo .default
        (fetchVideoFingerprintCandidates [steadyRow] videoSequenceV1
          (deriveSearchTokens steadyVideo)) = .ok (.duplicatePending evidence) ∧
      validateDuplicateEvidence evidence videoSequenceV1 = .ok () := by
  have fetched : fetchVideoFingerprintCandidates [steadyRow] videoSequenceV1
      (deriveSearchTokens steadyVideo) = [⟨7, videoSequenceV1, steadyBytes, 8, 10000⟩] := by
    decide +kernel
  have decoded : VideoSequenceFingerprint.decode steadyBytes = .ok steadyVideo := by
    decide +kernel
  have valid : steadyVideo.Valid := decoded_valid decoded
  have strongly : AlignsStrongly steadyVideo .default
      ⟨7, videoSequenceV1, steadyBytes, 8, 10000⟩ := by
    refine ⟨steadyVideo, _, decoded, alignVideoSequences_ok_iff.mpr
      ⟨default_admits.comparable valid valid, rfl⟩, ?_⟩
    decide +kernel
  have decodable : ∀ candidate ∈ fetchVideoFingerprintCandidates [steadyRow]
      steadyVideo.version.asStr (deriveSearchTokens steadyVideo), Decodable candidate := by
    intro candidate member
    rw [show steadyVideo.version.asStr = videoSequenceV1 from rfl, fetched,
      List.mem_singleton] at member
    exact ⟨steadyVideo, member ▸ decoded⟩
  obtain ⟨decision, aligned, pending, accepted⟩ := duplicate_decision_is_exact steadyVideo valid
    .default default_admits [steadyRow] (List.nodup_singleton _) (deriveSearchTokens steadyVideo)
    decodable
  obtain ⟨evidence, rfl⟩ := pending.mpr
    ⟨⟨7, videoSequenceV1, steadyBytes, 8, 10000⟩, fetched ▸ List.mem_singleton_self _, strongly⟩
  exact ⟨evidence, aligned _ (List.Perm.refl _), (accepted evidence rfl).2.2.2.2.1⟩

end Sooqa.VideoIdentity
