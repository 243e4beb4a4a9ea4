import Sooqa.Worker.Normalization

/-!
Which candidate of a normalization is kept. The candidates are given by what
their encodes come to; the choice among them is stated without the set that the
worker carries along.
-/
namespace Sooqa.Worker
open Foundation Queue Media Envelope

section Standing
variable {target limit : UInt64} {result : NormalizationResult}
  {tried : List NormalizationResult} {candidates : VideoCandidateSet}

/-- A result that the storage takes. -/
def storable (limit : UInt64) (result : NormalizationResult) : Bool :=
  decide (result.digest.bytes ≤ limit)

/-- A result that the storage takes and that is no larger than preferred. -/
def fits (target limit : UInt64) (result : NormalizationResult) : Bool :=
  storable limit result && decide (result.digest.bytes ≤ target)

/-- A candidate set after results of which none fits. -/
structure Standing (target limit : UInt64) (tried : List NormalizationResult)
    (candidates : VideoCandidateSet) : Prop where
  preferred : candidates.targetMaxBytes = target
  limited : candidates.storageLimit = limit
  fallback : candidates.fallback = tried.find? (storable limit)
  unfit : tried.find? (fits target limit) = none

theorem standing_new (target limit : UInt64) :
    Standing target limit [] (.new target limit) := ⟨rfl, rfl, rfl, rfl⟩

theorem Standing.recordAttempt (standing : Standing target limit tried candidates) :
    Standing target limit tried candidates.recordAttempt :=
  ⟨standing.preferred, standing.limited, standing.fallback, standing.unfit⟩

/-- A result that fits is selected. -/
theorem consider_fits (standing : Standing target limit tried candidates)
    (good : fits target limit result = true) :
    (candidates.consider result .keepFirst).1 = some result := by
  simp only [fits, storable, Bool.and_eq_true, decide_eq_true_eq] at good
  unfold VideoCandidateSet.consider VideoCandidateSet.selects
  rw [standing.preferred, standing.limited]
  simp [good.1, good.2]

/-- Another result is kept when it is the first that the storage takes. -/
theorem consider_unfit (standing : Standing target limit tried candidates)
    (bad : fits target limit result = false) :
    (candidates.consider result .keepFirst).1 = none ∧
      Standing target limit (tried ++ [result]) (candidates.consider result .keepFirst).2 := by
  have rejected : (decide (result.digest.bytes ≤ candidates.storageLimit) &&
      candidates.selects result .keepFirst) = false := by
    rw [VideoCandidateSet.selects, standing.preferred, standing.limited]
    exact bad
  unfold VideoCandidateSet.consider
  simp only [rejected, Bool.false_eq_true, if_false]
  refine ⟨trivial, standing.preferred, standing.limited, ?_, ?_⟩
  · rw [List.find?_append, ← standing.fallback, standing.limited]
    cases candidates.fallback with
    | some previous => simp
    | none =>
      by_cases room : result.digest.bytes ≤ limit
      · simp [room, storable]
      · simp [room, storable]
  · rw [List.find?_append, standing.unfit]
    simp [bad]

/-- The two-pass result is selected when it is smaller than what is kept. -/
theorem consider_smallest (result : NormalizationResult)
    (standing : Standing target limit tried candidates) :
    (storable limit result = true ∧
        (∀ kept, tried.find? (storable limit) = some kept →
          result.digest.bytes < kept.digest.bytes) ∧
        (candidates.consider result .keepSmallest).1 = some result) ∨
      (¬ (storable limit result = true ∧ ∀ kept, tried.find? (storable limit) = some kept →
          result.digest.bytes < kept.digest.bytes) ∧
        (candidates.consider result .keepSmallest).1 = none ∧
        (candidates.consider result .keepSmallest).2.fallback = tried.find? (storable limit) ∧
        (candidates.consider result .keepSmallest).2.storageLimit = limit) := by
  have selects : candidates.selects result .keepSmallest = true ↔
      ∀ kept, tried.find? (storable limit) = some kept →
        result.digest.bytes < kept.digest.bytes := by
    rw [← standing.fallback, VideoCandidateSet.selects]
    cases candidates.fallback with
    | none => simp
    | some previous => simp
  unfold VideoCandidateSet.consider
  rw [standing.limited]
  by_cases chosen : (decide (result.digest.bytes ≤ limit) &&
      candidates.selects result .keepSmallest) = true
  · left
    rw [if_pos chosen]
    rw [Bool.and_eq_true] at chosen
    exact ⟨chosen.1, selects.mp chosen.2, rfl⟩
  · right
    rw [if_neg chosen]
    rw [Bool.and_eq_true] at chosen
    refine ⟨fun both => chosen ⟨both.1, selects.mpr both.2⟩, rfl, ?_, rfl⟩
    simp only [show (FallbackPolicy.keepSmallest == FallbackPolicy.keepFirst) = false from rfl,
      Bool.and_false, Bool.false_eq_true, if_false]
    exact standing.fallback

/-- Considering a result is no further attempt. -/
theorem consider_attempts (candidates : VideoCandidateSet) (result : NormalizationResult)
    (policy : FallbackPolicy) :
    (candidates.consider result policy).2.attempts = candidates.attempts := by
  unfold VideoCandidateSet.consider
  simp only
  split <;> rfl

end Standing

section Encodes

/-- The first result that fits; failing that, a two-pass result that is smaller
    than any other choice; failing that, the first one that the storage takes. -/
def choose (target limit : UInt64) (constantQuality : List NormalizationResult)
    (twoPass : Option NormalizationResult) : Option NormalizationResult :=
  match constantQuality.find? (fits target limit) with
  | some result => some result
  | none =>
    let kept := constantQuality.find? (storable limit)
    match twoPass with
    | some result =>
      if storable limit result && kept.all (fun other =>
          decide (result.digest.bytes < other.digest.bytes)) then some result
      else kept
    | none => kept

/-- The candidates of a normalization in the order they were encoded in. -/
structure Encodes where
  /-- The remux and the encodes of constant quality. -/
  constantQuality : List NormalizationResult
  twoPass : Option NormalizationResult

/-- Every candidate. -/
def Encodes.all (encodes : Encodes) : List NormalizationResult :=
  encodes.constantQuality ++ encodes.twoPass.toList

/-- The candidate to keep. -/
def Encodes.chosen (target limit : UInt64) (encodes : Encodes) : Option NormalizationResult :=
  choose target limit encodes.constantQuality encodes.twoPass

variable (planner : NormalizationPlanner) (executor : FfmpegExecutor) (input output : String)
  (probe : MediaProbe) (limit : UInt64)

/-- A result that ends the encodes of constant quality. -/
abbrev settles (result : NormalizationResult) : Bool :=
  fits planner.profile.targetMaxBytes limit result

/-- Successful encodes of the sizes below the first, from an attempt on, until
    one of them fits. -/
inductive LowerEncodes (video : MediaStream) :
    Nat → List VideoDimensions → List NormalizationResult → Prop where
  | nil (attempt : Nat) : LowerEncodes video attempt [] []
  | last {attempt : Nat} {dimensions : VideoDimensions} {rest : List VideoDimensions}
      {plan : NormalizationPlan} {result : NormalizationResult}
      (planned : planner.planQualityCandidate input (executor.candidatePath output attempt) probe
        dimensions = .ok plan)
      (encoded : executeQualityCandidate planner executor plan dimensions video = .ok result)
      (good : settles planner limit result = true) :
      LowerEncodes video attempt (dimensions :: rest) [result]
  | cons {attempt : Nat} {dimensions : VideoDimensions} {rest : List VideoDimensions}
      {plan : NormalizationPlan} {result : NormalizationResult} {results : List NormalizationResult}
      (planned : planner.planQualityCandidate input (executor.candidatePath output attempt) probe
        dimensions = .ok plan)
      (encoded : executeQualityCandidate planner executor plan dimensions video = .ok result)
      (bad : settles planner limit result = false)
      (more : LowerEncodes video (attempt + 1) rest results) :
      LowerEncodes video attempt (dimensions :: rest) (result :: results)

/-- Successful encodes after the first of constant quality, from an attempt on. -/
inductive SmallerEncodes (video : MediaStream) (attempt : Nat) :
    List NormalizationResult → Option NormalizationResult → Prop where
  | twoPass {dimensions : VideoDimensions} {kbps : UInt64} {passlogPrefix : String}
      {plan : TwoPassNormalizationPlan} {result : NormalizationResult}
      (candidate : planner.twoPassCandidate probe = some (dimensions, kbps))
      (reserved : executor.reservePasslogs output = .ok passlogPrefix)
      (planned : planner.planTwoPass input (executor.candidatePath output attempt) probe dimensions
        kbps passlogPrefix = .ok plan)
      (encoded : executeTwoPassCandidate planner executor plan dimensions video = .ok result) :
      SmallerEncodes video attempt [] (some result)
  | ladder {results : List NormalizationResult}
      (candidate : planner.twoPassCandidate probe = none)
      (encoded : LowerEncodes planner executor input output probe limit video attempt
        ((planner.resolutionLadder video).drop 1) results) :
      SmallerEncodes video attempt results none

/-- The plan of the first encode of constant quality. -/
def qualityPlan (initialPlan : NormalizationPlan) (path : String) (dimensions : VideoDimensions) :
    Except NormalizationExecutionError NormalizationPlan :=
  if initialPlan.mode = .transcode then .ok (initialPlan.withOutput path)
  else mapCandidatePlanError (planner.planQualityCandidate input path probe dimensions)

/-- Successful encodes of an adaptation, from an attempt on. -/
inductive AdaptationEncodes (initialPlan : NormalizationPlan) (attempt : Nat) :
    List NormalizationResult → Option NormalizationResult → Prop where
  | last {video : MediaStream} {dimensions : VideoDimensions} {plan : NormalizationPlan}
      {quality : NormalizationResult} (stream : executionStream probe = some video)
      (head : (planner.resolutionLadder video).head? = some dimensions)
      (planned : qualityPlan planner input probe initialPlan
        (executor.candidatePath output attempt) dimensions = .ok plan)
      (encoded : executeQualityCandidate planner executor plan dimensions video = .ok quality)
      (good : settles planner limit quality = true) :
      AdaptationEncodes initialPlan attempt [quality] none
  | cons {video : MediaStream} {dimensions : VideoDimensions} {plan : NormalizationPlan}
      {quality : NormalizationResult} {results : List NormalizationResult}
      {twoPass : Option NormalizationResult} (stream : executionStream probe = some video)
      (head : (planner.resolutionLadder video).head? = some dimensions)
      (planned : qualityPlan planner input probe initialPlan
        (executor.candidatePath output attempt) dimensions = .ok plan)
      (encoded : executeQualityCandidate planner executor plan dimensions video = .ok quality)
      (bad : settles planner limit quality = false)
      (more : SmallerEncodes planner executor input output probe limit video (attempt + 1) results
        twoPass) :
      AdaptationEncodes initialPlan attempt (quality :: results) twoPass

/-- A normalization each of whose encodes succeeds. -/
inductive Succeeds (initialPlan : NormalizationPlan) : Encodes → Prop where
  | transcode {results : List NormalizationResult} {twoPass : Option NormalizationResult}
      (mode : initialPlan.mode = .transcode)
      (adapted : AdaptationEncodes planner executor input output probe limit initialPlan 1 results
        twoPass) : Succeeds initialPlan ⟨results, twoPass⟩
  | remux {result : NormalizationResult} (mode : initialPlan.mode = .remux)
      (encoded : executor.execute (initialPlan.withOutput (executor.candidatePath output 1)) =
        .ok result)
      (good : settles planner limit result = true) : Succeeds initialPlan ⟨[result], none⟩
  | adapted {result : NormalizationResult} {results : List NormalizationResult}
      {twoPass : Option NormalizationResult} (mode : initialPlan.mode = .remux)
      (encoded : executor.execute (initialPlan.withOutput (executor.candidatePath output 1)) =
        .ok result)
      (bad : settles planner limit result = false)
      (adapted : AdaptationEncodes planner executor input output probe limit initialPlan 2 results
        twoPass) : Succeeds initialPlan ⟨result :: results, twoPass⟩

end Encodes

section Choice
variable {planner : NormalizationPlanner} {executor : FfmpegExecutor} {input output : String}
  {probe : MediaProbe} {initialPlan : NormalizationPlan} {encodes : Encodes}
  {target limit : UInt64} {tried : List NormalizationResult} {candidates : VideoCandidateSet}
  {video : MediaStream} {result : NormalizationResult}

/-- Publishing a choice, or the failure that there is none. -/
def publishChoice (executor : FfmpegExecutor) (output : String) (limit : UInt64)
    (choice : Option NormalizationResult)
    (outcome : Except NormalizationExecutionError NormalizationResult) : Prop :=
  match choice with
  | some result => outcome = publishVideoCandidate executor result output
  | none => ∃ bytes, outcome = .error (.outputExceedsStorageLimit bytes limit)

theorem takeFallback_publishes {kept : Option NormalizationResult}
    (fallback : candidates.fallback = kept) (limited : candidates.storageLimit = limit) :
    publishChoice executor output limit kept (do
      let selected ← candidates.takeFallback
      publishVideoCandidate executor selected output) := by
  rw [VideoCandidateSet.takeFallback, fallback, limited]
  cases kept with
  | none => exact ⟨_, rfl⟩
  | some result => rfl

theorem mapCandidatePlanError_ok {α : Type} {plan : α} :
    mapCandidatePlanError (.ok plan) = .ok plan := rfl

/-- The first result that fits is chosen, whatever follows it. -/
theorem choose_of_fits {rest : List NormalizationResult} {twoPass : Option NormalizationResult}
    (unfit : tried.find? (fits target limit) = none) (good : fits target limit result = true) :
    choose target limit (tried ++ result :: rest) twoPass = some result := by
  have found : (tried ++ result :: rest).find? (fits target limit) = some result := by
    rw [List.find?_append, unfit, List.find?_cons_of_pos good]
    rfl
  rw [choose, found]

theorem choose_of_unfit (unfit : tried.find? (fits target limit) = none) :
    choose target limit tried none = tried.find? (storable limit) := by
  rw [choose, unfit]

/-- A result that fits is published. -/
theorem considered_fits {next : VideoCandidateSet →
      Except NormalizationExecutionError NormalizationResult}
    (standing : Standing target limit tried candidates)
    (good : fits target limit result = true) :
    publishChoice executor output limit (choose target limit (tried ++ [result]) none)
      (match candidates.consider result .keepFirst with
        | (some selected, _) => publishVideoCandidate executor selected output
        | (none, candidates) => next candidates) := by
  have selected := consider_fits standing good
  rw [choose_of_fits standing.unfit good]
  generalize candidates.consider result .keepFirst = considered at selected ⊢
  obtain ⟨choice, after⟩ := considered
  cases selected
  rfl

/-- After another result, what follows decides. -/
theorem considered_unfit {results : List NormalizationResult}
    {twoPass : Option NormalizationResult}
    {next : VideoCandidateSet → Except NormalizationExecutionError NormalizationResult}
    (standing : Standing target limit tried candidates)
    (bad : fits target limit result = false)
    (later : ∀ after, after.attempts = candidates.attempts →
      Standing target limit (tried ++ [result]) after →
      publishChoice executor output limit
        (choose target limit (tried ++ [result] ++ results) twoPass) (next after)) :
    publishChoice executor output limit (choose target limit (tried ++ result :: results) twoPass)
      (match candidates.consider result .keepFirst with
        | (some selected, _) => publishVideoCandidate executor selected output
        | (none, candidates) => next candidates) := by
  obtain ⟨rejected, stands⟩ := consider_unfit standing bad
  have attempts := consider_attempts candidates result .keepFirst
  generalize candidates.consider result .keepFirst = considered at rejected stands attempts ⊢
  obtain ⟨choice, after⟩ := considered
  cases rejected
  have rest := later after attempts stands
  rw [List.append_assoc, List.singleton_append] at rest
  exact rest

/-- The ladder publishes the choice among what was tried and what it tries. -/
theorem executeLadder_publishes {attempt : Nat} {sizes : List VideoDimensions}
    {results : List NormalizationResult}
    (standing : Standing planner.profile.targetMaxBytes limit tried candidates)
    (counted : candidates.attempts + 1 = attempt)
    (encoded : LowerEncodes planner executor input output probe limit video attempt sizes
      results) :
    publishChoice executor output limit
      (choose planner.profile.targetMaxBytes limit (tried ++ results) none)
      (executeLadder planner executor input output probe video candidates sizes) := by
  induction encoded generalizing candidates tried with
  | nil attempt =>
    rw [List.append_nil, choose_of_unfit standing.unfit]
    exact takeFallback_publishes standing.fallback standing.limited
  | @last attempt dimensions rest plan result planned encoded good =>
    rw [executeLadder, VideoCandidateSet.nextPath, counted]
    dsimp only
    rw [planned, mapCandidatePlanError_ok, bind_ok_eq, encoded, bind_ok_eq]
    exact considered_fits standing.recordAttempt good
  | @cons attempt dimensions rest plan result results planned encoded bad more ih =>
    rw [executeLadder, VideoCandidateSet.nextPath, counted]
    dsimp only
    rw [planned, mapCandidatePlanError_ok, bind_ok_eq, encoded, bind_ok_eq]
    apply considered_unfit standing.recordAttempt bad
    intro after attempts stands
    apply ih stands
    rw [attempts]
    exact congrArg (· + 1) counted

/-- What follows the first encode of constant quality publishes the choice. -/
theorem executeSmaller_publishes {attempt : Nat} {results : List NormalizationResult}
    {twoPass : Option NormalizationResult}
    (standing : Standing planner.profile.targetMaxBytes limit tried candidates)
    (counted : candidates.attempts + 1 = attempt)
    (later : SmallerEncodes planner executor input output probe limit video attempt results
      twoPass) :
    publishChoice executor output limit
      (choose planner.profile.targetMaxBytes limit (tried ++ results) twoPass)
      (executeSmaller planner executor input output probe video candidates) := by
  cases later with
  | ladder candidate encoded =>
    rw [executeSmaller, candidate]
    exact executeLadder_publishes standing counted encoded
  | @twoPass dimensions kbps passlogPrefix plan result candidate reserved planned encoded =>
    rw [executeSmaller, candidate, List.append_nil]
    dsimp only
    rw [VideoCandidateSet.nextPath, counted]
    dsimp only
    rw [reserved, bind_ok_eq, planned, mapCandidatePlanError_ok, bind_ok_eq, encoded, bind_ok_eq,
      choose, standing.unfit]
    have considered := consider_smallest result
      standing.recordAttempt.recordAttempt
    generalize candidates.recordAttempt.recordAttempt.consider result .keepSmallest = outcome
      at considered ⊢
    obtain ⟨choice, after⟩ := outcome
    rcases considered with ⟨room, smaller, selected⟩ | ⟨larger, rejected, fallback, limited⟩
    · cases selected
      have best : (storable limit result && (tried.find? (storable limit)).all fun other =>
          decide (result.digest.bytes < other.digest.bytes)) = true := by
        rw [room, Bool.true_and, Option.all_eq_true]
        intro other kept
        exact decide_eq_true (smaller other kept)
      simp only [best, if_true]
      rfl
    · cases rejected
      have worse : (storable limit result && (tried.find? (storable limit)).all fun other =>
          decide (result.digest.bytes < other.digest.bytes)) = false := by
        rw [Bool.eq_false_iff]
        intro best
        rw [Bool.and_eq_true, Option.all_eq_true] at best
        exact larger ⟨best.1, fun kept found => of_decide_eq_true (best.2 kept found)⟩
      simp only [worse, Bool.false_eq_true, if_false]
      exact takeFallback_publishes fallback limited

/-- The rest of a normalization whose remux, if any, was not selected. -/
def executeUnselected (planner : NormalizationPlanner) (executor : FfmpegExecutor)
    (input output : String) (probe : MediaProbe) (initialPlan : NormalizationPlan)
    (candidates : VideoCandidateSet) :
    Except NormalizationExecutionError NormalizationResult := do
  let video ← expect (executionStream probe) .outputHasNoVideo
  executeAdaptation planner executor input output probe video candidates initialPlan

/-- The adaptation publishes the choice among the remux and its own encodes. -/
theorem executeUnselected_publishes {attempt : Nat} {results : List NormalizationResult}
    {twoPass : Option NormalizationResult}
    (standing : Standing planner.profile.targetMaxBytes limit tried candidates)
    (counted : candidates.attempts + 1 = attempt)
    (adapted : AdaptationEncodes planner executor input output probe limit initialPlan attempt
      results twoPass) :
    publishChoice executor output limit
      (choose planner.profile.targetMaxBytes limit (tried ++ results) twoPass)
      (executeUnselected planner executor input output probe initialPlan candidates) := by
  cases adapted with
  | last stream head planned encoded good =>
    rw [qualityPlan] at planned
    rw [executeUnselected, stream, expect, bind_ok_eq, executeAdaptation, head,
      VideoCandidateSet.nextPath, counted]
    simp only [expect, bind_ok_eq]
    rw [planned, bind_ok_eq, encoded, bind_ok_eq]
    exact considered_fits standing.recordAttempt good
  | cons stream head planned encoded bad more =>
    rw [qualityPlan] at planned
    rw [executeUnselected, stream, expect, bind_ok_eq, executeAdaptation, head,
      VideoCandidateSet.nextPath, counted]
    simp only [expect, bind_ok_eq]
    rw [planned, bind_ok_eq, encoded, bind_ok_eq]
    apply considered_unfit standing.recordAttempt bad
    intro after attempts stands
    apply executeSmaller_publishes stands _ more
    rw [attempts]
    exact congrArg (· + 1) counted

theorem executeVideoNormalization_transcode (mode : initialPlan.mode = .transcode) :
    executeVideoNormalization planner executor input output probe limit initialPlan =
      executeUnselected planner executor input output probe initialPlan
        (.new planner.profile.targetMaxBytes limit) := by
  rw [executeVideoNormalization, executeRemux, mode, if_neg (by decide)]
  rfl

theorem executeRemux_remux (mode : initialPlan.mode = .remux)
    (encoded : executor.execute (initialPlan.withOutput
      (executor.candidatePath output (candidates.attempts + 1))) = .ok result) :
    executeRemux executor output candidates initialPlan =
      .ok (candidates.recordAttempt.consider result .keepFirst) := by
  rw [executeRemux, mode, if_pos rfl, VideoCandidateSet.nextPath]
  dsimp only
  rw [encoded]
  rfl

/-- A remux that is not selected leaves the adaptation to decide. -/
theorem executeVideoNormalization_remux (mode : initialPlan.mode = .remux)
    (encoded : executor.execute (initialPlan.withOutput (executor.candidatePath output 1)) =
      .ok result) :
    executeVideoNormalization planner executor input output probe limit initialPlan =
      match (VideoCandidateSet.new planner.profile.targetMaxBytes limit).recordAttempt.consider
        result .keepFirst with
      | (some selected, _) => publishVideoCandidate executor selected output
      | (none, candidates) =>
        executeUnselected planner executor input output probe initialPlan candidates := by
  rw [executeVideoNormalization, executeRemux_remux mode encoded, bind_ok_eq]
  generalize (VideoCandidateSet.new planner.profile.targetMaxBytes limit).recordAttempt.consider
    result .keepFirst = considered
  obtain ⟨choice, after⟩ := considered
  cases choice with
  | none => rfl
  | some selected => rfl

/-- A normalization whose encodes succeed publishes the choice among them. -/
theorem executeVideoNormalization_publishes
    (succeeds : Succeeds planner executor input output probe limit initialPlan encodes) :
    publishChoice executor output limit (encodes.chosen planner.profile.targetMaxBytes limit)
      (executeVideoNormalization planner executor input output probe limit initialPlan) := by
  have standing := standing_new planner.profile.targetMaxBytes limit
  rw [Encodes.chosen]
  cases succeeds with
  | transcode mode adapted =>
    rw [executeVideoNormalization_transcode mode]
    exact executeUnselected_publishes standing rfl adapted
  | remux mode encoded good =>
    rw [executeVideoNormalization_remux mode encoded]
    exact considered_fits standing.recordAttempt good
  | adapted mode encoded bad adapted =>
    rw [executeVideoNormalization_remux mode encoded]
    apply considered_unfit standing.recordAttempt bad
    intro after attempts stands
    apply executeUnselected_publishes stands _ adapted
    rw [attempts]
    rfl

/-- What is chosen is a candidate that the storage takes. -/
theorem choose_storable {results : List NormalizationResult}
    {twoPass : Option NormalizationResult}
    (chosen : choose target limit results twoPass = some result) :
    result ∈ results ++ twoPass.toList ∧ storable limit result = true := by
  rw [choose] at chosen
  split at chosen
  · rename_i first found
    cases chosen
    have good := List.find?_some found
    rw [fits, Bool.and_eq_true] at good
    exact ⟨List.mem_append_left _ (List.mem_of_find?_eq_some found), good.1⟩
  · split at chosen
    · dsimp only at chosen
      split at chosen
      · rename_i smaller
        cases chosen
        rw [Bool.and_eq_true] at smaller
        exact ⟨List.mem_append_right _ (by simp), smaller.1⟩
      · exact ⟨List.mem_append_left _ (List.mem_of_find?_eq_some chosen),
          List.find?_some chosen⟩
    · exact ⟨List.mem_append_left _ (List.mem_of_find?_eq_some chosen), List.find?_some chosen⟩

/-- Nothing is chosen when the storage takes none of the candidates. -/
theorem choose_none {results : List NormalizationResult}
    {twoPass : Option NormalizationResult} :
    choose target limit results twoPass = none ↔
      ∀ result ∈ results ++ twoPass.toList, storable limit result = false := by
  constructor
  · intro chosen result candidate
    rw [choose] at chosen
    split at chosen
    · cases chosen
    · have refused : results.find? (storable limit) = none ∧
          ∀ result, twoPass = some result → storable limit result = false := by
        split at chosen
        · dsimp only at chosen
          split at chosen
          · cases chosen
          · rename_i second larger
            refine ⟨chosen, fun result same => ?_⟩
            cases same
            simpa [chosen] using larger
        · exact ⟨chosen, fun _ same => nomatch same⟩
      rcases List.mem_append.mp candidate with constant | second
      · simpa using List.find?_eq_none.mp refused.1 result constant
      · exact refused.2 result (by simpa using second)
  · intro refused
    cases chosen : choose target limit results twoPass with
    | none => rfl
    | some result =>
      obtain ⟨candidate, room⟩ := choose_storable chosen
      rw [refused result candidate] at room
      cases room

/-- Publishing fails with the storage limit only when nothing was chosen. -/
theorem publishVideoCandidate_ne_limit {selected : NormalizationResult} {bytes : UInt64} :
    publishVideoCandidate executor selected output ≠
      .error (.outputExceedsStorageLimit bytes limit) := by
  rw [publishVideoCandidate]
  split <;> simp

end Choice

end Sooqa.Worker
