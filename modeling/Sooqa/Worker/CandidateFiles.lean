import Sooqa.Foundation.Programs
import Sooqa.Worker.CandidateSelection
import Sooqa.Worker.PlannedStream

/-!
The candidate files of a normalization. Each is owned by the cleanup guard from
before it is written until it is known to be gone; the task can be dropped
wherever it waits.
-/
namespace Sooqa.Worker
open Foundation Queue Media Envelope

section Files

/-- The files of the workspace, and the paths that the guard owns. -/
structure CandidateFiles where
  present : List String
  paths : List String

namespace CandidateFiles

def write (files : CandidateFiles) (path : String) : CandidateFiles :=
  { files with present := path :: files.present }

def delete (files : CandidateFiles) (path : String) : CandidateFiles :=
  { files with present := files.present.filter (· ≠ path) }

def push (files : CandidateFiles) (path : String) : CandidateFiles :=
  { files with paths := files.paths ++ [path] }

def forget (files : CandidateFiles) (path : String) : CandidateFiles :=
  { files with paths := files.paths.filter (· ≠ path) }

end CandidateFiles

/-- The files and how often the task has waited. -/
structure CandidateTask where
  files : CandidateFiles
  waits : Nat

/-- What the task does not decide: where it is dropped, whether what was under
    way by then took effect, and which removals work. -/
structure Surroundings where
  drops : Nat → Bool
  completes : Nat → Bool
  removes : Nat → Bool
  retries : Nat → Bool
  missing : String → String

abbrev CandidateProgram (α : Type) := Program CandidateTask NormalizationExecutionError α

end Files

namespace Guarded
variable (around : Surroundings) (planner : NormalizationPlanner) (executor : FfmpegExecutor)

section Operations

/-- Waiting for something to take effect. -/
def wait (effect : CandidateFiles → CandidateFiles) : CandidateProgram Unit := .of fun task =>
  let files := if around.completes task.waits then effect task.files else task.files
  if around.drops task.waits then (.error .interrupted, ⟨files, task.waits + 1⟩)
  else (.ok (), ⟨task.files, task.waits + 1⟩)

/-- A command that fails may leave its output behind. -/
def execute (plan : NormalizationPlan) : CandidateProgram NormalizationResult := do
  wait around (·.write plan.output)
  .of fun task => match executor.execute plan with
    | .ok result => (.ok result, { task with files := task.files.write plan.output })
    | .error error =>
      let files := if around.completes task.waits then task.files.write plan.output
        else task.files
      (.error (.failed error), { task with files := files })

/-- A path is forgotten once its file is gone. -/
def removeVideoCandidate (path : String) : CandidateProgram Unit := do
  wait around (·.delete path)
  .of fun task =>
    if around.removes task.waits ∨ around.retries task.waits ∨ path ∉ task.files.present then
      (.ok (), { task with files := (task.files.delete path).forget path })
    else (.ok (), task)

def removeVideoCandidates : List String → CandidateProgram Unit
  | [] => pure ()
  | path :: rest => do
    removeVideoCandidate around path
    removeVideoCandidates rest

def nextPath (candidates : VideoCandidateSet) (output : String) :
    CandidateProgram (String × VideoCandidateSet) := .of fun task =>
  let path := executor.candidatePath output (candidates.attempts + 1)
  (.ok (path, candidates.recordAttempt), { task with files := task.files.push path })

/-- The result that is given up when another one is considered. -/
def discarded (candidates : VideoCandidateSet) (result : NormalizationResult)
    (policy : FallbackPolicy) : Option NormalizationResult :=
  let fitsStorage := decide (result.digest.bytes ≤ candidates.storageLimit)
  if fitsStorage && candidates.selects result policy then candidates.fallback
  else if fitsStorage && candidates.fallback.isNone && policy == .keepFirst then none
  else some result

def consider (candidates : VideoCandidateSet) (result : NormalizationResult)
    (policy : FallbackPolicy) :
    CandidateProgram (Option NormalizationResult × VideoCandidateSet) := do
  match discarded candidates result policy with
  | some given => removeVideoCandidate around given.outputPath
  | none => pure ()
  return candidates.consider result policy

/-- Publishing links the selected file, after which all candidates can go. -/
def publishVideoCandidate (selected : NormalizationResult) (output : String) :
    CandidateProgram NormalizationResult := do
  wait around (·.write output)
  let remaining ← .of fun task =>
    if selected.outputPath ∈ task.files.present then
      match executor.publishArtifact selected.outputPath output with
      | .ok () => (.ok task.files.paths, { task with files := task.files.write output })
      | .error message => (.error (.failed (.outputPublish output message)), task)
    else
      (.error (.failed (.outputPublish output (around.missing selected.outputPath))), task)
  removeVideoCandidates around remaining
  return { selected with outputPath := output }

end Operations

section Normalization

def executeQualityCandidate (plan : NormalizationPlan) (dimensions : VideoDimensions)
    (source : MediaStream) : CandidateProgram NormalizationResult := do
  let result ← execute around executor plan
  .lift (validateAdaptedDimensions planner result.probe dimensions source)
  return result

def executeTwoPassCandidate (plan : TwoPassNormalizationPlan) (dimensions : VideoDimensions)
    (source : MediaStream) : CandidateProgram NormalizationResult := do
  wait around id
  .lift (executor.analyse plan.firstPass)
  let result ← execute around executor plan.secondPass
  .lift (validateAdaptedDimensions planner result.probe dimensions source)
  return result

def executeLadder (input output : String) (probe : MediaProbe) (video : MediaStream) :
    VideoCandidateSet → List VideoDimensions → CandidateProgram NormalizationResult
  | candidates, [] => do
    let selected ← .lift candidates.takeFallback
    publishVideoCandidate around executor selected output
  | candidates, dimensions :: rest => do
    let (path, candidates) ← nextPath executor candidates output
    let plan ← .lift (mapCandidatePlanError
      (planner.planQualityCandidate input path probe dimensions))
    let result ← executeQualityCandidate around planner executor plan dimensions video
    match ← consider around candidates result .keepFirst with
    | (some selected, _) => publishVideoCandidate around executor selected output
    | (none, candidates) => executeLadder input output probe video candidates rest

def executeSmaller (input output : String) (probe : MediaProbe) (video : MediaStream)
    (candidates : VideoCandidateSet) : CandidateProgram NormalizationResult := do
  match planner.twoPassCandidate probe with
  | some (dimensions, videoBitrateKbps) =>
    let (path, candidates) ← nextPath executor candidates output
    wait around id
    let passlogPrefix ← .lift (executor.reservePasslogs output)
    let plan ← .lift (mapCandidatePlanError
      (planner.planTwoPass input path probe dimensions videoBitrateKbps passlogPrefix))
    let candidates := candidates.recordAttempt
    let result ← executeTwoPassCandidate around planner executor plan dimensions video
    wait around id
    match ← consider around candidates result .keepSmallest with
    | (some selected, _) => publishVideoCandidate around executor selected output
    | (none, candidates) => do
      let selected ← .lift candidates.takeFallback
      publishVideoCandidate around executor selected output
  | none =>
    executeLadder around planner executor input output probe video candidates
      ((planner.resolutionLadder video).drop 1)

def executeAdaptation (input output : String) (probe : MediaProbe) (video : MediaStream)
    (candidates : VideoCandidateSet) (initialPlan : NormalizationPlan) :
    CandidateProgram NormalizationResult := do
  let qualityDimensions ← .lift (expect (planner.resolutionLadder video).head?
    (.invalidOutputProfile "video dimensions are missing or invalid"))
  let (path, candidates) ← nextPath executor candidates output
  let qualityPlan ← .lift (if initialPlan.mode = .transcode then .ok (initialPlan.withOutput path)
    else mapCandidatePlanError
      (planner.planQualityCandidate input path probe qualityDimensions))
  let quality ←
    executeQualityCandidate around planner executor qualityPlan qualityDimensions video
  match ← consider around candidates quality .keepFirst with
  | (some selected, _) => publishVideoCandidate around executor selected output
  | (none, candidates) =>
    executeSmaller around planner executor input output probe video candidates

def executeRemux (output : String) (candidates : VideoCandidateSet)
    (initialPlan : NormalizationPlan) :
    CandidateProgram (Option NormalizationResult × VideoCandidateSet) :=
  if initialPlan.mode = .remux then do
    let (path, candidates) ← nextPath executor candidates output
    let result ← execute around executor (initialPlan.withOutput path)
    consider around candidates result .keepFirst
  else pure (none, candidates)

def executeVideoNormalization (input output : String) (probe : MediaProbe)
    (maxNormalizedStorageBytes : UInt64) (initialPlan : NormalizationPlan) :
    CandidateProgram NormalizationResult := do
  let candidates := VideoCandidateSet.new planner.profile.targetMaxBytes maxNormalizedStorageBytes
  let (selected, candidates) ← executeRemux around executor output candidates initialPlan
  match selected with
  | some selected => publishVideoCandidate around executor selected output
  | none => do
    let video ← .lift (expect (executionStream probe) .outputHasNoVideo)
    executeAdaptation around planner executor input output probe video candidates initialPlan

end Normalization

section Ownership
variable {around : Surroundings} {planner : NormalizationPlanner} {executor : FfmpegExecutor}
  {input output : String} {existing : List String} {candidates : VideoCandidateSet}
  {result : NormalizationResult} {α : Type}

/-- Each file is one that was there before, the published one or one that the
    guard owns. -/
def Covered (existing : List String) (output : String) (files : CandidateFiles) : Prop :=
  ∀ path ∈ files.present, path ∈ existing ∨ path = output ∨ path ∈ files.paths

/-- Fresh paths for all candidates. -/
structure Fresh (executor : FfmpegExecutor) (output : String) : Prop where
  distinct : Function.Injective (executor.candidatePath output)
  apart : ∀ attempt, executor.candidatePath output attempt ≠ output

/-- The files of a candidate set: the fallback is among them. -/
structure Sound (executor : FfmpegExecutor) (output : String) (existing : List String)
    (candidates : VideoCandidateSet) (files : CandidateFiles) : Prop where
  covered : Covered existing output files
  numbered : ∀ path ∈ files.paths, ∃ attempt, attempt ≤ candidates.attempts ∧
    path = executor.candidatePath output attempt
  kept : ∀ other, candidates.fallback = some other →
    other.outputPath ∈ files.present ∧ other.outputPath ∈ files.paths

/-- A path is reserved for a candidate. -/
structure Reserved (executor : FfmpegExecutor) (output : String) (existing : List String)
    (candidates : VideoCandidateSet) (path : String) (files : CandidateFiles) : Prop where
  sound : Sound executor output existing candidates files
  owned : path ∈ files.paths
  other : ∀ other, candidates.fallback = some other → other.outputPath ≠ path

theorem Reserved.recordAttempt {path : String} {files : CandidateFiles}
    (reserved : Reserved executor output existing candidates path files) :
    Reserved executor output existing candidates.recordAttempt path files := by
  refine ⟨⟨reserved.sound.covered, ?_, reserved.sound.kept⟩, reserved.owned, reserved.other⟩
  intro other owned
  obtain ⟨attempt, bound, same⟩ := reserved.sound.numbered other owned
  exact ⟨attempt, Nat.le_succ_of_le bound, same⟩

/-- A candidate has been written. -/
structure Written (executor : FfmpegExecutor) (output : String) (existing : List String)
    (candidates : VideoCandidateSet) (path : String) (files : CandidateFiles) : Prop where
  reserved : Reserved executor output existing candidates path files
  present : path ∈ files.present

/-- A candidate is ready to be published. -/
structure Publishable (executor : FfmpegExecutor) (output : String) (existing : List String)
    (path : String) (files : CandidateFiles) : Prop where
  covered : Covered existing output files
  numbered : ∀ other ∈ files.paths, ∃ attempt, other = executor.candidatePath output attempt
  present : path ∈ files.present

/-- A program over the files that never leaves one uncovered. -/
def Guards (existing : List String) (output : String) (before : CandidateFiles → Prop)
    (program : CandidateProgram α) (value : Except NormalizationExecutionError α)
    (after : α → CandidateFiles → Prop) : Prop :=
  Computes (fun task => Covered existing output task.files) (fun task => before task.files)
    program value fun a task => after a task.files

/-- What removing a path comes to, whether or not the file is gone. -/
structure Removed (path : String) (files later : CandidateFiles) : Prop where
  present : ∀ other ∈ later.present, other ∈ files.present
  paths : ∀ other ∈ later.paths, other ∈ files.paths
  stays : ∀ other ∈ files.present, other ≠ path → other ∈ later.present
  owned : ∀ other ∈ files.paths, other ≠ path → other ∈ later.paths
  guarded : path ∈ later.present → path ∈ files.paths → path ∈ later.paths

theorem Removed.covered {path : String} {files later : CandidateFiles}
    (removed : Removed path files later) (covered : Covered existing output files) :
    Covered existing output later := by
  intro other present
  rcases covered other (removed.present other present) with before | published | owned
  · exact .inl before
  · exact .inr (.inl published)
  · by_cases same : other = path
    · subst same
      exact .inr (.inr (removed.guarded present owned))
    · exact .inr (.inr (removed.owned other owned same))

theorem wait_guards {effect : CandidateFiles → CandidateFiles} {before : CandidateFiles → Prop}
    (safe : ∀ files, before files → Covered existing output files)
    (safer : ∀ files, before files → Covered existing output (effect files)) :
    Guards existing output before (wait around effect) (.ok ()) fun _ => before := by
  intro task holds
  have covered : Covered existing output
      (if around.completes task.waits then effect task.files else task.files) := by
    split
    · exact safer task.files holds
    · exact safe task.files holds
  rw [wait, exec_of]
  by_cases dropped : around.drops task.waits = true
  · simp only [dropped, if_true]
    exact ⟨covered, trivial⟩
  · simp only [dropped, Bool.false_eq_true, if_false]
    exact ⟨safe task.files holds, trivial, holds⟩

/-- An update of the files that always has a result. -/
theorem update_guards {before : CandidateFiles → Prop} {after : α → CandidateFiles → Prop} {a : α}
    {update : CandidateTask → CandidateFiles}
    (covered : ∀ task, before task.files → Covered existing output (update task))
    (holds : ∀ task, before task.files → after a (update task)) :
    Guards existing output before
      (.of fun task => (.ok a, { task with files := update task })) (.ok a) after :=
  fun task first => ⟨covered task first, rfl, holds task first⟩

theorem delete_removed {path : String} {files : CandidateFiles} :
    Removed path files (files.delete path) := by
  constructor <;> simp +contextual [CandidateFiles.delete]

theorem delete_forget_removed {path : String} {files : CandidateFiles} :
    Removed path files ((files.delete path).forget path) := by
  constructor <;> simp +contextual [CandidateFiles.delete, CandidateFiles.forget]

theorem removed_refl {path : String} {files : CandidateFiles} : Removed path files files := by
  constructor <;> simp +contextual

theorem removeVideoCandidate_guards {path : String} {before after : CandidateFiles → Prop}
    (safe : ∀ files, before files → Covered existing output files)
    (keeps : ∀ files later, before files → Removed path files later → after later) :
    Guards existing output before (removeVideoCandidate around path) (.ok ()) fun _ => after := by
  apply (wait_guards safe fun files holds => delete_removed.covered (safe files holds)).step
  intro task holds
  rw [exec_of]
  split
  · exact ⟨delete_forget_removed.covered (safe task.files holds), rfl,
      keeps task.files _ holds delete_forget_removed⟩
  · exact ⟨safe task.files holds, rfl, keeps task.files _ holds removed_refl⟩

/-- A property that no removal of these paths ends is kept by all of them. -/
theorem removeVideoCandidates_guards {paths : List String} {holds : CandidateFiles → Prop}
    (safe : ∀ files, holds files → Covered existing output files)
    (keeps : ∀ path ∈ paths, ∀ files later, holds files → Removed path files later → holds later) :
    Guards existing output holds (removeVideoCandidates around paths) (.ok ()) fun _ => holds := by
  induction paths with
  | nil => exact fun task first => ⟨safe task.files first, rfl, first⟩
  | cons path rest ih =>
    apply (removeVideoCandidate_guards safe (keeps path List.mem_cons_self)).step
    exact ih fun other member => keeps other (List.mem_cons_of_mem path member)

/-- A candidate is written where its plan says. -/
theorem execute_outputPath {plan : NormalizationPlan}
    (encoded : executor.execute plan = .ok result) : result.outputPath = plan.output := by
  rw [FfmpegExecutor.execute] at encoded
  obtain ⟨⟨probe, digest⟩, -, validated⟩ := bind_ok.mp encoded
  obtain ⟨-, -, returned⟩ := bind_ok.mp validated
  cases returned
  rfl

theorem Covered.write {files : CandidateFiles} (covered : Covered existing output files)
    {path : String} (accounted : path = output ∨ path ∈ files.paths) :
    Covered existing output (files.write path) := by
  intro other present
  rcases List.mem_cons.mp present with same | before
  · subst same
    exact .inr accounted
  · exact covered other before

theorem nextPath_guards (fresh : Fresh executor output) :
    Guards existing output (Sound executor output existing candidates)
      (nextPath executor candidates output) (.ok (candidates.nextPath executor output))
      fun next => Reserved executor output existing next.2 next.1 := by
  intro task sound
  rw [nextPath, exec_of]
  have covered : Covered existing output (task.files.push
      (executor.candidatePath output (candidates.attempts + 1))) := by
    intro path present
    rcases sound.covered path present with before | published | owned
    · exact .inl before
    · exact .inr (.inl published)
    · exact .inr (.inr (List.mem_append_left _ owned))
  refine ⟨covered, rfl, ⟨⟨covered, ?_, ?_⟩, by simp [CandidateFiles.push], ?_⟩⟩
  · intro path owned
    rcases List.mem_append.mp owned with before | new
    · obtain ⟨attempt, bound, same⟩ := sound.numbered path before
      exact ⟨attempt, Nat.le_succ_of_le bound, same⟩
    · exact ⟨candidates.attempts + 1, le_rfl, List.mem_singleton.mp new⟩
  · intro other fallback
    obtain ⟨present, owned⟩ := sound.kept other fallback
    exact ⟨present, List.mem_append_left _ owned⟩
  · intro other fallback same
    obtain ⟨attempt, bound, numbered⟩ := sound.numbered _ (sound.kept other fallback).2
    have equal := fresh.distinct (numbered.symm.trans same)
    omega

theorem execute_guards {plan : NormalizationPlan} {path : String} (planned : plan.output = path) :
    Guards existing output (Reserved executor output existing candidates path)
      (execute around executor plan) (executor.execute plan)
      fun result => Written executor output existing candidates result.outputPath := by
  subst planned
  have written : ∀ files, Reserved executor output existing candidates plan.output files →
      Covered existing output (files.write plan.output) :=
    fun files reserved => reserved.sound.covered.write (.inr reserved.owned)
  apply (wait_guards (fun files reserved => reserved.sound.covered) written).step
  intro task reserved
  rw [exec_of]
  cases encoded : executor.execute plan with
  | error error =>
    refine ⟨?_, rfl⟩
    dsimp only
    split
    · exact written task.files reserved
    · exact reserved.sound.covered
  | ok result =>
    have path : result.outputPath = plan.output := execute_outputPath encoded
    refine ⟨written task.files reserved, rfl, ?_⟩
    change Written executor output existing candidates result.outputPath
      (task.files.write plan.output)
    rw [path]
    refine ⟨⟨⟨written task.files reserved, reserved.sound.numbered, ?_⟩, reserved.owned,
      reserved.other⟩, List.mem_cons_self⟩
    intro other fallback
    obtain ⟨present, owned⟩ := reserved.sound.kept other fallback
    exact ⟨List.mem_cons_of_mem _ present, owned⟩

/-- The candidates that go after publishing leave the published file. -/
theorem removeVideoCandidates_publishes {paths : List String} (fresh : Fresh executor output)
    (numbered : ∀ path ∈ paths, ∃ attempt, path = executor.candidatePath output attempt) {a : α} :
    Guards existing output (fun files => Covered existing output files ∧ output ∈ files.present)
      (do removeVideoCandidates around paths; return a) (.ok a)
      fun _ files => output ∈ files.present := by
  have keeps : ∀ path ∈ paths, ∀ files later,
      Covered existing output files ∧ output ∈ files.present → Removed path files later →
      Covered existing output later ∧ output ∈ later.present := by
    rintro path member files later ⟨covered, present⟩ removed
    obtain ⟨attempt, same⟩ := numbered path member
    have apart : output ≠ path := fun equal => fresh.apart attempt (equal.trans same).symm
    exact ⟨removed.covered covered, removed.stays output present apart⟩
  apply (removeVideoCandidates_guards (fun files holds => holds.1) keeps).step
  exact fun task holds => ⟨holds.1, rfl, holds.2⟩

theorem publishVideoCandidate_guards (fresh : Fresh executor output) :
    Guards existing output (Publishable executor output existing result.outputPath)
      (publishVideoCandidate around executor result output)
      (Worker.publishVideoCandidate executor result output)
      fun _ files => output ∈ files.present := by
  have linked : ∀ files, Publishable executor output existing result.outputPath files →
      Covered existing output (files.write output) :=
    fun files publishable => publishable.covered.write (.inl rfl)
  apply (wait_guards (fun files publishable => publishable.covered) linked).step
  intro task publishable
  rw [exec_bind, exec_of, if_pos publishable.present, Worker.publishVideoCandidate]
  cases executor.publishArtifact result.outputPath output with
  | error message => exact ⟨publishable.covered, rfl⟩
  | ok published =>
    exact removeVideoCandidates_publishes fresh publishable.numbered _
      ⟨linked task.files publishable, List.mem_cons_self⟩

/-- What considering a result gives up and keeps. -/
theorem consider_cases (candidates : VideoCandidateSet) (result : NormalizationResult)
    (policy : FallbackPolicy) :
    (discarded candidates result policy = candidates.fallback ∧
        (candidates.consider result policy).1 = some result) ∨
      (discarded candidates result policy = none ∧
        (candidates.consider result policy).1 = none ∧
        (candidates.consider result policy).2.fallback = some result) ∨
      (discarded candidates result policy = some result ∧
        (candidates.consider result policy).1 = none ∧
        (candidates.consider result policy).2.fallback = candidates.fallback) := by
  unfold discarded VideoCandidateSet.consider
  dsimp only
  by_cases selected : (decide (result.digest.bytes ≤ candidates.storageLimit) &&
      candidates.selects result policy) = true
  · simp only [selected, if_true]
    exact .inl ⟨trivial, trivial⟩
  · simp only [selected, Bool.false_eq_true, if_false]
    by_cases kept : (decide (result.digest.bytes ≤ candidates.storageLimit) &&
        candidates.fallback.isNone && policy == .keepFirst) = true
    · simp [kept]
    · simp [kept]

theorem Written.publishable {files : CandidateFiles}
    (written : Written executor output existing candidates result.outputPath files) :
    Publishable executor output existing result.outputPath files := by
  refine ⟨written.reserved.sound.covered, ?_, written.present⟩
  intro path owned
  obtain ⟨attempt, -, same⟩ := written.reserved.sound.numbered path owned
  exact ⟨attempt, same⟩

theorem Publishable.removed {path given : String} {files later : CandidateFiles}
    (publishable : Publishable executor output existing path files) (other : given ≠ path)
    (removed : Removed given files later) : Publishable executor output existing path later :=
  ⟨removed.covered publishable.covered,
    fun path owned => publishable.numbered path (removed.paths path owned),
    removed.stays path publishable.present other.symm⟩

/-- A written candidate can be the fallback. -/
theorem Written.keep {after : VideoCandidateSet} {files : CandidateFiles}
    (written : Written executor output existing candidates result.outputPath files)
    (attempts : after.attempts = candidates.attempts) (fallback : after.fallback = some result) :
    Sound executor output existing after files := by
  refine ⟨written.reserved.sound.covered, ?_, ?_⟩
  · rw [attempts]
    exact written.reserved.sound.numbered
  · intro other kept
    cases fallback.symm.trans kept
    exact ⟨written.present, written.reserved.owned⟩

/-- A written candidate can be given up. -/
theorem Written.drop {after : VideoCandidateSet} {files later : CandidateFiles}
    (written : Written executor output existing candidates result.outputPath files)
    (attempts : after.attempts = candidates.attempts)
    (fallback : after.fallback = candidates.fallback)
    (removed : Removed result.outputPath files later) :
    Sound executor output existing after later := by
  have sound := written.reserved.sound
  refine ⟨removed.covered sound.covered, ?_, ?_⟩
  · intro path owned
    rw [attempts]
    exact sound.numbered path (removed.paths path owned)
  · intro other kept
    rw [fallback] at kept
    obtain ⟨present, owned⟩ := sound.kept other kept
    have apart := written.reserved.other other kept
    exact ⟨removed.stays _ present apart, removed.owned _ owned apart⟩

/-- What considering a result leaves: a candidate to publish, or a sound set. -/
def Considered (executor : FfmpegExecutor) (output : String) (existing : List String) :
    Option NormalizationResult × VideoCandidateSet → CandidateFiles → Prop
  | (some selected, _), files => Publishable executor output existing selected.outputPath files
  | (none, candidates), files => Sound executor output existing candidates files

theorem consider_guards {policy : FallbackPolicy} :
    Guards existing output (Written executor output existing candidates result.outputPath)
      (consider around candidates result policy) (.ok (candidates.consider result policy))
      (Considered executor output existing) := by
  have safe : ∀ files, Written executor output existing candidates result.outputPath files →
      Covered existing output files := fun files written => written.reserved.sound.covered
  have attempts := consider_attempts candidates result policy
  have cases := consider_cases candidates result policy
  rw [consider]
  generalize candidates.consider result policy = next at attempts cases ⊢
  obtain ⟨choice, after⟩ := next
  rcases cases with ⟨given, selected⟩ | ⟨given, rejected, kept⟩ | ⟨given, rejected, kept⟩
  · cases selected
    rw [given]
    cases fallback : candidates.fallback with
    | none => exact fun task written => ⟨safe task.files written, rfl, written.publishable⟩
    | some previous =>
      have keeps : ∀ files later, Written executor output existing candidates result.outputPath
          files → Removed previous.outputPath files later →
          Publishable executor output existing result.outputPath later :=
        fun files later written removed =>
          written.publishable.removed (written.reserved.other previous fallback) removed
      apply (removeVideoCandidate_guards safe keeps).step
      exact fun task publishable => ⟨publishable.covered, rfl, publishable⟩
  · cases rejected
    rw [given]
    exact fun task written => ⟨safe task.files written, rfl, written.keep attempts kept⟩
  · cases rejected
    rw [given]
    apply (removeVideoCandidate_guards safe fun files later written removed =>
      written.drop attempts kept removed).step
    exact fun task sound => ⟨sound.covered, rfl, sound⟩

end Ownership

section Refinement
variable {around : Surroundings} {planner : NormalizationPlanner} {executor : FfmpegExecutor}
  {input output : String} {existing : List String} {candidates : VideoCandidateSet}
  {result : NormalizationResult} {probe : MediaProbe} {video : MediaStream}
  {initialPlan : NormalizationPlan} {limit : UInt64}

/-- A computation without effects on the files. -/
theorem lift_guards {α : Type} {before : CandidateFiles → Prop}
    {value : Except NormalizationExecutionError α}
    (safe : ∀ files, before files → Covered existing output files) :
    Guards existing output before (.lift value) value fun _ => before :=
  (Computes.lift fun task holds => safe task.files holds).weaken (fun _ holds => holds)
    fun _ _ holds => holds.2

theorem mapCandidatePlanError_eq_ok {α : Type} {plan : α} {planned : Except NormalizationError α}
    (mapped : mapCandidatePlanError planned = .ok plan) : planned = .ok plan := by
  cases planned with
  | ok planned =>
    cases mapped
    rfl
  | error error => cases error <;> cases mapped

/-- A candidate is planned at its own path. -/
theorem planQualityCandidate_output {path : String} {dimensions : VideoDimensions}
    {plan : NormalizationPlan}
    (planned : mapCandidatePlanError (planner.planQualityCandidate input path probe dimensions) =
      .ok plan) : plan.output = path := by
  obtain ⟨stream, -, found⟩ := bind_ok.mp (mapCandidatePlanError_eq_ok planned)
  obtain ⟨-, -, returned⟩ := bind_ok.mp found
  cases returned
  rfl

theorem planTwoPass_output {path passlogPrefix : String} {dimensions : VideoDimensions}
    {kbps : UInt64} {plan : TwoPassNormalizationPlan}
    (planned : mapCandidatePlanError
      (planner.planTwoPass input path probe dimensions kbps passlogPrefix) = .ok plan) :
    plan.secondPass.output = path := by
  obtain ⟨stream, -, found⟩ := bind_ok.mp (mapCandidatePlanError_eq_ok planned)
  obtain ⟨-, -, bounded⟩ := bind_ok.mp found
  obtain ⟨-, -, returned⟩ := bind_ok.mp bounded
  cases returned
  rfl

theorem qualityPlan_output {path : String} {dimensions : VideoDimensions}
    {plan : NormalizationPlan}
    (planned : qualityPlan planner input probe initialPlan path dimensions = .ok plan) :
    plan.output = path := by
  rw [qualityPlan] at planned
  split at planned
  · cases planned
    rfl
  · exact planQualityCandidate_output planned

/-- A check of a written candidate. -/
theorem validated_guards {dimensions : VideoDimensions} :
    Guards existing output (Written executor output existing candidates result.outputPath)
      (do
        .lift (validateAdaptedDimensions planner result.probe dimensions video)
        return result)
      (do
        validateAdaptedDimensions planner result.probe dimensions video
        return result)
      fun result => Written executor output existing candidates result.outputPath := by
  apply (lift_guards fun files written => written.reserved.sound.covered).bind
  exact fun valid accepted task written => ⟨written.reserved.sound.covered, rfl, written⟩

theorem executeQualityCandidate_guards {plan : NormalizationPlan} {dimensions : VideoDimensions}
    {path : String} (planned : plan.output = path) :
    Guards existing output (Reserved executor output existing candidates path)
      (executeQualityCandidate around planner executor plan dimensions video)
      (Worker.executeQualityCandidate planner executor plan dimensions video)
      fun result => Written executor output existing candidates result.outputPath := by
  apply (execute_guards planned).bind
  intro result encoded
  exact validated_guards

theorem executeTwoPassCandidate_guards {plan : TwoPassNormalizationPlan}
    {dimensions : VideoDimensions} {path : String} (planned : plan.secondPass.output = path) :
    Guards existing output (Reserved executor output existing candidates path)
      (executeTwoPassCandidate around planner executor plan dimensions video)
      (Worker.executeTwoPassCandidate planner executor plan dimensions video)
      fun result => Written executor output existing candidates result.outputPath := by
  have safe : ∀ files, Reserved executor output existing candidates path files →
      Covered existing output files := fun files reserved => reserved.sound.covered
  apply (wait_guards safe safe).step
  apply (lift_guards safe).bind
  intro analysed passed
  apply (execute_guards planned).bind
  intro result encoded
  exact validated_guards

theorem takeFallback_guards (fresh : Fresh executor output) :
    Guards existing output (Sound executor output existing candidates)
      (do
        let selected ← .lift candidates.takeFallback
        publishVideoCandidate around executor selected output)
      (do
        let selected ← candidates.takeFallback
        Worker.publishVideoCandidate executor selected output)
      fun _ files => output ∈ files.present := by
  apply (lift_guards fun files sound => sound.covered).bind
  intro selected taken
  apply (publishVideoCandidate_guards fresh).weaken _ fun _ _ holds => holds
  intro task sound
  have kept := (sound.kept selected (expect_ok.mp taken)).1
  refine ⟨sound.covered, ?_, kept⟩
  intro path owned
  obtain ⟨attempt, -, same⟩ := sound.numbered path owned
  exact ⟨attempt, same⟩

/-- Publishing what was selected, or going on with the set. -/
theorem considered_guards {policy : FallbackPolicy}
    {next : VideoCandidateSet → CandidateProgram NormalizationResult}
    {continued : VideoCandidateSet → Except NormalizationExecutionError NormalizationResult}
    (fresh : Fresh executor output)
    (rest : ∀ after, Guards existing output (Sound executor output existing after) (next after)
      (continued after) fun _ files => output ∈ files.present) :
    Guards existing output (Written executor output existing candidates result.outputPath)
      (do
        match ← consider around candidates result policy with
        | (some selected, _) => publishVideoCandidate around executor selected output
        | (none, candidates) => next candidates)
      (match candidates.consider result policy with
        | (some selected, _) => Worker.publishVideoCandidate executor selected output
        | (none, candidates) => continued candidates)
      fun _ files => output ∈ files.present := by
  apply consider_guards.step
  generalize candidates.consider result policy = choice
  obtain ⟨selected, after⟩ := choice
  cases selected with
  | some selected => exact publishVideoCandidate_guards fresh
  | none => exact rest after

theorem executeLadder_guards (fresh : Fresh executor output) {sizes : List VideoDimensions} :
    Guards existing output (Sound executor output existing candidates)
      (executeLadder around planner executor input output probe video candidates sizes)
      (Worker.executeLadder planner executor input output probe video candidates sizes)
      fun _ files => output ∈ files.present := by
  induction sizes generalizing candidates with
  | nil => exact takeFallback_guards fresh
  | cons dimensions rest ih =>
    apply (nextPath_guards fresh).step
    apply (lift_guards fun files reserved => reserved.sound.covered).bind
    intro plan planned
    apply (executeQualityCandidate_guards (planQualityCandidate_output planned)).bind
    intro result encoded
    exact considered_guards fresh fun after => ih

theorem executeSmaller_guards (fresh : Fresh executor output) :
    Guards existing output (Sound executor output existing candidates)
      (executeSmaller around planner executor input output probe video candidates)
      (Worker.executeSmaller planner executor input output probe video candidates)
      fun _ files => output ∈ files.present := by
  rw [executeSmaller, Worker.executeSmaller]
  cases planner.twoPassCandidate probe with
  | none => exact executeLadder_guards fresh
  | some candidate =>
    obtain ⟨dimensions, kbps⟩ := candidate
    have safe : ∀ files, Reserved executor output existing
        (candidates.nextPath executor output).2 (candidates.nextPath executor output).1 files →
        Covered existing output files := fun files reserved => reserved.sound.covered
    apply (nextPath_guards fresh).step
    apply (wait_guards safe safe).step
    apply (lift_guards safe).bind
    intro passlogPrefix reserved
    apply (lift_guards safe).bind
    intro plan planned
    have counted : ∀ files, Reserved executor output existing
        (candidates.nextPath executor output).2 (candidates.nextPath executor output).1 files →
        Reserved executor output existing (candidates.nextPath executor output).2.recordAttempt
          (candidates.nextPath executor output).1 files :=
      fun files reserved => reserved.recordAttempt
    apply ((executeTwoPassCandidate_guards (planTwoPass_output planned)).weaken
      (fun task => counted task.files) fun _ _ holds => holds).bind
    intro result encoded
    apply (wait_guards (fun files written => written.reserved.sound.covered)
      fun files written => written.reserved.sound.covered).step
    exact considered_guards fresh fun after => takeFallback_guards fresh

theorem executeAdaptation_guards (fresh : Fresh executor output) :
    Guards existing output (Sound executor output existing candidates)
      (executeAdaptation around planner executor input output probe video candidates initialPlan)
      (Worker.executeAdaptation planner executor input output probe video candidates initialPlan)
      fun _ files => output ∈ files.present := by
  apply (lift_guards fun files sound => sound.covered).bind
  intro dimensions head
  apply (nextPath_guards fresh).step
  apply (lift_guards fun files reserved => reserved.sound.covered).bind
  intro plan planned
  apply (executeQualityCandidate_guards (qualityPlan_output planned)).bind
  intro result encoded
  exact considered_guards fresh fun after => executeSmaller_guards fresh

theorem executeRemux_guards (fresh : Fresh executor output) :
    Guards existing output (Sound executor output existing candidates)
      (executeRemux around executor output candidates initialPlan)
      (Worker.executeRemux executor output candidates initialPlan)
      (Considered executor output existing) := by
  rw [executeRemux, Worker.executeRemux]
  split
  · have planned : (initialPlan.withOutput (candidates.nextPath executor output).1).output =
        (candidates.nextPath executor output).1 := rfl
    apply (nextPath_guards fresh).step
    apply (execute_guards planned).bind
    intro result encoded
    exact consider_guards
  · exact fun task sound => ⟨sound.covered, rfl, sound⟩

/-- The files never make a difference to the result, and none is left behind. -/
theorem executeVideoNormalization_guards (fresh : Fresh executor output) :
    Guards existing output (fun files => files = ⟨existing, []⟩)
      (executeVideoNormalization around planner executor input output probe limit initialPlan)
      (Worker.executeVideoNormalization planner executor input output probe limit initialPlan)
      fun _ files => output ∈ files.present := by
  have start : ∀ files : CandidateFiles, files = ⟨existing, []⟩ →
      Sound executor output existing (.new planner.profile.targetMaxBytes limit) files := by
    rintro files rfl
    exact ⟨fun path before => .inl before, nofun, nofun⟩
  apply ((executeRemux_guards fresh).weaken (fun task => start task.files)
    fun _ _ holds => holds).bind
  rintro ⟨selected, candidates⟩ remuxed
  cases selected with
  | some selected => exact publishVideoCandidate_guards fresh
  | none =>
    apply (lift_guards fun files (sound : Sound executor output existing candidates files) =>
      sound.covered).bind
    exact fun video found => executeAdaptation_guards fresh

end Refinement

end Guarded

section Claim
variable {around : Surroundings} {planner : NormalizationPlanner} {executor : FfmpegExecutor}
  {input output : String} {existing : List String} {probe : MediaProbe} {limit : UInt64}
  {initialPlan : NormalizationPlan}

/-- The run of a normalization in a workspace of these files. -/
def normalizationRun (around : Surroundings) (planner : NormalizationPlanner)
    (executor : FfmpegExecutor) (input output : String) (probe : MediaProbe) (limit : UInt64)
    (initialPlan : NormalizationPlan) (existing : List String) :
    Except (Exit NormalizationExecutionError) NormalizationResult × CandidateTask :=
  (Guarded.executeVideoNormalization around planner executor input output probe limit
    initialPlan).exec ⟨⟨existing, []⟩, 0⟩

/-- Publishing is the last thing that can fail. -/
theorem publishVideoCandidate_cases (executor : FfmpegExecutor) (output : String)
    (selected : NormalizationResult) :
    publishVideoCandidate executor selected output =
        .ok { selected with outputPath := output } ∨
      ∃ message, publishVideoCandidate executor selected output =
          .error (.outputPublish output message) ∧
        executor.publishArtifact selected.outputPath output = .error message := by
  rw [publishVideoCandidate]
  cases executor.publishArtifact selected.outputPath output with
  | ok published => exact .inl rfl
  | error message => exact .inr ⟨message, rfl, rfl⟩

/-- A normalization publishes the candidate to keep where the storage takes any,
    and no exit leaves a file that is neither published nor guarded. -/
theorem normalization_keeps_candidate (fresh : Guarded.Fresh executor output)
    {outcome : Except (Exit NormalizationExecutionError) NormalizationResult}
    {task : CandidateTask}
    (run : normalizationRun around planner executor input output probe limit initialPlan existing =
      (outcome, task)) :
    (∀ path ∈ task.files.present, path ∈ existing ∨ path = output ∨ path ∈ task.files.paths) ∧
      (∀ published, outcome = .ok published → output ∈ task.files.present) ∧
      ∀ encodes, Succeeds planner executor input output probe limit initialPlan encodes →
        outcome ≠ .error .interrupted →
        (∀ result, encodes.chosen planner.profile.targetMaxBytes limit = some result →
          outcome = .ok { result with outputPath := output } ∨
            ∃ message, outcome = .error (.failed (.outputPublish output message)) ∧
              executor.publishArtifact result.outputPath output = .error message) ∧
        (∀ published, outcome = .ok published → published.digest.bytes ≤ limit ∧
          ∃ result, encodes.chosen planner.profile.targetMaxBytes limit = some result ∧
            published = { result with outputPath := output }) ∧
        ((∃ bytes, outcome = .error (.failed (.outputExceedsStorageLimit bytes limit))) ↔
          ∀ result ∈ encodes.all, limit < result.digest.bytes) := by
  have guards := @Guarded.executeVideoNormalization_guards around planner executor input output
    existing probe initialPlan limit fresh
  have covered := (guards ⟨⟨existing, []⟩, 0⟩ rfl).1
  have kept := fun published =>
    Computes.reached (s := ⟨⟨existing, []⟩, 0⟩) (a := published) guards rfl
  have same := Computes.outcome (s := ⟨⟨existing, []⟩, 0⟩) guards rfl
  rw [normalizationRun] at run
  rw [run] at covered kept same
  dsimp only at same
  refine ⟨covered, kept, ?_⟩
  intro encodes succeeds uninterrupted
  have choice := executeVideoNormalization_publishes succeeds
  rw [same uninterrupted]
  generalize executeVideoNormalization planner executor input output probe limit initialPlan =
    value at choice
  cases chosen : encodes.chosen planner.profile.targetMaxBytes limit with
  | none =>
    rw [chosen] at choice
    obtain ⟨bytes, rfl⟩ := choice
    have unpublished : ∀ published : NormalizationResult,
        Except.mapError Exit.failed
          (.error (NormalizationExecutionError.outputExceedsStorageLimit bytes limit)) ≠
            .ok published := by
      intro published same
      cases same
    refine ⟨(fun _ same => by cases same), fun published same => absurd same (unpublished published),
      fun _ result candidate => ?_, fun _ => ⟨bytes, rfl⟩⟩
    have refused := choose_none.mp chosen result candidate
    rw [storable, decide_eq_false_iff_not] at refused
    exact UInt64.not_le.mp refused
  | some result =>
    rw [chosen] at choice
    have candidate := choose_storable chosen
    rw [storable, decide_eq_true_eq] at candidate
    have value_eq : value = publishVideoCandidate executor result output := choice
    rw [value_eq]
    have stored : ¬ ∀ other ∈ encodes.all, limit < other.digest.bytes :=
      fun exceed => UInt64.not_lt.mpr candidate.2 (exceed result candidate.1)
    rcases publishVideoCandidate_cases executor output result with published | ⟨message, published, failed⟩
    · rw [published]
      refine ⟨?_, ?_, ?_, fun exceed => absurd exceed stored⟩
      · rintro other same
        cases same
        exact .inl rfl
      · rintro other same
        cases same
        exact ⟨candidate.2, result, rfl, rfl⟩
      · rintro ⟨bytes, same⟩
        cases same
    · rw [published]
      refine ⟨?_, (fun _ same => by cases same), ?_, fun exceed => absurd exceed stored⟩
      · rintro other same
        cases same
        exact .inr ⟨message, rfl, failed⟩
      · rintro ⟨bytes, same⟩
        cases same

/-- An environment in which every command works and nothing is dropped. -/
def calmSurroundings : Surroundings :=
  ⟨fun _ => false, fun _ => false, fun _ => true, fun _ => true, fun _ => "missing"⟩

/-- An executor whose outputs are a film of nine megabytes. -/
def filmExecutor : FfmpegExecutor where
  run := fun _ => .ok (filmWith [film], ⟨"digest", 9000000⟩)
  analyse := fun _ => .ok ()
  candidatePath := fun output attempt =>
    .ofList (output.toList ++ ".candidate".toList ++ List.replicate attempt '0')
  reservePasslogs := fun output => .ok output
  publishArtifact := fun _ _ => .ok ()

theorem filmExecutor_fresh : Guarded.Fresh filmExecutor "canonical.mp4" := by
  constructor
  · intro first second same
    have lists := congrArg (·.toList.length) same
    simpa [filmExecutor] using lists
  · intro attempt same
    have lists := congrArg (·.toList.length) same
    simp [filmExecutor] at lists

/-- What the first encode of the film comes to. -/
def filmResult : NormalizationResult :=
  ⟨"canonical.mp4.candidate0", filmWith [film], ⟨"digest", 9000000⟩⟩

def filmPlan : NormalizationPlan where
  mode := .transcode
  command := standardPlanner.transcodeCommand "input.mp4" "canonical.mp4" ⟨1280, 720⟩
    standardPlanner.profile.qualityCrf film
  output := "canonical.mp4"
  profile := standardPlanner.profile

theorem film_is_planned :
    standardPlanner.plan "input.mp4" "canonical.mp4" (filmWith [film]) = .ok filmPlan := by
  decide +kernel

theorem film_succeeds : Succeeds standardPlanner filmExecutor "input.mp4" "canonical.mp4"
    (filmWith [film]) 20000000 filmPlan ⟨[filmResult], none⟩ := by
  have head : (standardPlanner.resolutionLadder film).head? = some ⟨1280, 720⟩ := by
    decide +kernel
  have planned : qualityPlan standardPlanner "input.mp4" (filmWith [film]) filmPlan
      "canonical.mp4.candidate0" ⟨1280, 720⟩ =
        .ok (filmPlan.withOutput "canonical.mp4.candidate0") := by decide +kernel
  have encoded : executeQualityCandidate standardPlanner filmExecutor
      (filmPlan.withOutput "canonical.mp4.candidate0") ⟨1280, 720⟩ film = .ok filmResult := by
    decide +kernel
  exact .transcode rfl (.last rfl head planned encoded (by decide))

/-- The normalization of the film. -/
def filmRun : Except (Exit NormalizationExecutionError) NormalizationResult × CandidateTask :=
  normalizationRun calmSurroundings standardPlanner filmExecutor "input.mp4" "canonical.mp4"
    (filmWith [film]) 20000000 filmPlan ["input.mp4"]

theorem film_is_published :
    filmRun.1 = .ok { filmResult with outputPath := "canonical.mp4" } ∧
      ∀ path ∈ filmRun.2.files.present, path ∈ ["input.mp4"] ∨ path = "canonical.mp4" ∨
        path ∈ filmRun.2.files.paths := by
  have chosen : Encodes.chosen standardPlanner.profile.targetMaxBytes 20000000
      ⟨[filmResult], none⟩ = some filmResult := by decide
  have uninterrupted : filmRun.1 ≠ .error .interrupted := by decide +kernel
  have run : normalizationRun calmSurroundings standardPlanner filmExecutor "input.mp4"
      "canonical.mp4" (filmWith [film]) 20000000 filmPlan ["input.mp4"] =
        (filmRun.1, filmRun.2) := rfl
  obtain ⟨covered, _, selects⟩ := normalization_keeps_candidate filmExecutor_fresh run
  obtain ⟨published, _, _⟩ := selects _ film_succeeds uninterrupted
  rcases published filmResult chosen with published | ⟨message, _, failed⟩
  · exact ⟨published, covered⟩
  · cases failed

end Claim

end Sooqa.Worker
