import Sooqa.Media.Normalize
import Sooqa.Media.SequenceAlignment

/-!
The sampling of a video: the timestamps its frames are taken at, and the builder
that turns one image for each of them into a fingerprint. The hashes and the
color summary of an image are computed in floating point, so they are
parameters, as the scaling of images is.
-/
namespace Sooqa.Media
open Foundation

section Timestamps

/-- The interval between two samples of a video, before it is cut to a word. -/
def gridIntervalMs (durationMs : Nat) : Nat :=
  max videoSequenceBaseIntervalMs (divCeil durationMs videoSequenceMaxSamples)

/-- The loop that collects timestamps, which stops when there are as many as the
    budget allows. -/
def collectTimestamps (durationMs intervalMs : Nat) : Nat → Nat → List Nat
  | 0, _ => []
  | budget + 1, timestamp =>
    if timestamp < durationMs then
      timestamp ::
        match checkedAdd timestamp intervalMs with
        | some next => collectTimestamps durationMs intervalMs budget next
        | none => []
    else []

def selectVideoSequenceTimestamps (durationMs : UInt64) : List Nat :=
  if durationMs = 0 then []
  else
    collectTimestamps durationMs.toNat (gridIntervalMs durationMs.toNat) videoSequenceMaxSamples 0

def videoSequenceIntervalMs (durationMs : UInt64) : Option UInt32 :=
  if durationMs = 0 then none
  else
    let intervalMs := gridIntervalMs durationMs.toNat
    if intervalMs < 2 ^ 32 then some (.ofNat intervalMs) else none

end Timestamps

section Features

/-- A 64-bit float, as far as a score tells one from another. -/
inductive Float64 where
  | nan
  | negativeInfinity
  | finite (value : ℚ)
  | infinity

/-- A float rounded, clamped to the scores and cast to a word, which makes zero
    of what is no number. -/
def Float64.scoreBps : Float64 → UInt16
  | .nan => 0
  | .negativeInfinity => 0
  | .finite value => .ofNat (min (Media.round value).toNat maxScoreBps.toNat)
  | .infinity => maxScoreBps

def featureWidth : Nat := 32
def featureHeight : Nat := 32

/-- An image scaled to the size that features are taken from. -/
structure NormalizedImage where
  luma : List UInt8
  rgb : List (UInt8 × UInt8 × UInt8)
  size : luma.length = featureWidth * featureHeight

/-- What is computed outside of the integers: the scaled image, its hash of
    frequencies, its mean colors and its information, not yet rounded. -/
structure ImageFeatures (Image : Type) where
  normalizeImage : Image → NormalizedImage
  phashV1 : List UInt8 → UInt64
  colorSummary : List (UInt8 × UInt8 × UInt8) → List UInt8 → UInt8 × Int8 × Int8
  information : List UInt8 → Float64

def lumaDifference (previous current : List UInt8) : Nat :=
  ((previous.zip current).map fun pair => absDiff pair.1.toNat pair.2.toNat).sum

/-- How far two images of one size are apart. The words of the source hold its
    products, as `lumaDifference_fits` shows. -/
def transitionScore (previous current : List UInt8) : UInt16 :=
  if previous.length ≠ current.length ∨ previous = [] then 0
  else
    let difference := lumaDifference previous current
    let maximum := 255 * previous.length
    .ofNat (min (difference * 10000 / maximum) 10000)

/-- One bit for each of 64 pairs of neighbors in the image. -/
def dhashV1 (luma : List UInt8) : UInt64 :=
  (List.range 64).foldl
    (fun hash bit =>
      let row := bit / 8 * 31 / 7
      let leftX := bit % 8 * 31 / 8
      let rightX := (bit % 8 + 1) * 31 / 8
      if luma.getD (row * 32 + leftX) 0 < luma.getD (row * 32 + rightX) 0 then
        hash ||| (1 <<< UInt64.ofNat bit)
      else hash) 0

variable {Image : Type} (features : ImageFeatures Image)

def informationScore (luma : List UInt8) : UInt16 := (features.information luma).scoreBps

def sampleFeatures (image : NormalizedImage) (previousLuma : Option (List UInt8)) :
    VideoSequenceSample :=
  let (meanLuma, meanChromaU, meanChromaV) := features.colorSummary image.rgb image.luma
  { phash := features.phashV1 image.luma
    dhash := dhashV1 image.luma
    meanLuma := meanLuma
    meanChromaU := meanChromaU
    meanChromaV := meanChromaV
    informationBps := informationScore features image.luma
    transitionBps := (previousLuma.map fun previous => transitionScore previous image.luma).getD 0 }

end Features

section Builder

structure VideoSequenceBuilder (Image : Type) where
  durationMs : UInt64
  intervalMs : UInt32
  expectedSamples : Nat
  samples : List VideoSequenceSample
  previousLuma : Option (List UInt8)
  bestImage : Option Image
  bestInformationBps : Option UInt16

variable {Image : Type} (features : ImageFeatures Image)

namespace VideoSequenceBuilder

def new (durationMs : UInt64) (intervalMs : UInt32) :
    Except VideoSequenceError (VideoSequenceBuilder Image) := do
  require (durationMs ≠ 0) .invalidDuration
  require (intervalMs ≠ 0) .invalidInterval
  let expectedIntervalMs ← expect (videoSequenceIntervalMs durationMs) .invalidTimestampGrid
  require (intervalMs = expectedIntervalMs) .invalidTimestampGrid
  return {
    durationMs := durationMs
    intervalMs := intervalMs
    expectedSamples := (selectVideoSequenceTimestamps durationMs).length
    samples := []
    previousLuma := none
    bestImage := none
    bestInformationBps := none }

def pushImage (builder : VideoSequenceBuilder Image) (image : Image) :
    Except VideoSequenceError (VideoSequenceBuilder Image) := do
  require (builder.samples.length < builder.expectedSamples)
    (.invalidSampleCount (builder.samples.length + 1))
  let normalized := features.normalizeImage image
  let sample := sampleFeatures features normalized builder.previousLuma
  let better := builder.bestInformationBps.all fun best => decide (sample.informationBps > best)
  return { builder with
    bestInformationBps := if better then some sample.informationBps else builder.bestInformationBps
    bestImage := if better then some image else builder.bestImage
    previousLuma := some normalized.luma
    samples := builder.samples ++ [sample] }

def finishWithBestImage (builder : VideoSequenceBuilder Image) :
    Except VideoSequenceError (VideoSequenceFingerprint × Option Image) := do
  require (builder.samples.length = builder.expectedSamples) .invalidTimestampGrid
  let fingerprint ←
    VideoSequenceFingerprint.new builder.durationMs builder.intervalMs builder.samples
  return (fingerprint, builder.bestImage)

def finish (builder : VideoSequenceBuilder Image) :
    Except VideoSequenceError VideoSequenceFingerprint := do
  let (fingerprint, _) ← builder.finishWithBestImage
  return fingerprint

end VideoSequenceBuilder

/-- Images pushed one after another. -/
def pushImages (builder : VideoSequenceBuilder Image) :
    List Image → Except VideoSequenceError (VideoSequenceBuilder Image)
  | [] => .ok builder
  | image :: images => do
    let builder ← builder.pushImage features image
    pushImages builder images

def VideoSequenceFingerprint.fromImages (durationMs : UInt64) (intervalMs : UInt32)
    (images : List Image) : Except VideoSequenceError VideoSequenceFingerprint := do
  let builder ← VideoSequenceBuilder.new durationMs intervalMs
  let builder ← pushImages features builder images
  builder.finish

end Builder

section Ceiling
variable {n m k : Nat}

/-- The multiples of `m` below `n` are as many as the rounded-up quotient. -/
theorem lt_divCeil (positive : 0 < m) : k < divCeil n m ↔ m * k < n := by
  have whole := Nat.div_add_mod n m
  have rest := Nat.mod_lt n positive
  have below : k < n / m ↔ m * k + m ≤ n := by
    rw [← Nat.succ_le_iff, Nat.le_div_iff_mul_le positive, Nat.succ_mul, Nat.mul_comm k]
  have at_most : k ≤ n / m ↔ m * k ≤ n := by
    rw [Nat.le_div_iff_mul_le positive, Nat.mul_comm]
  unfold divCeil
  split
  · constructor
    · intro h
      have le := at_most.mp (by omega)
      rcases Nat.lt_or_ge k (n / m) with strict | equal
      · have := below.mp strict
        omega
      · have : k = n / m := by omega
        rw [this]
        omega
    · intro h
      have := at_most.mpr (Nat.le_of_lt h)
      omega
  · rw [below]
    constructor
    · omega
    · intro h
      have strict : k < n / m := by
        by_contra above
        have le : n / m ≤ k := by omega
        have := Nat.mul_le_mul_left m le
        omega
      exact below.mp strict

theorem divCeil_le (positive : 0 < m) : divCeil n m ≤ k ↔ n ≤ m * k := by
  rw [← Nat.not_lt, lt_divCeil positive, Nat.not_lt]

end Ceiling

section Grid
variable {durationMs : UInt64} {intervalMs : UInt32}

theorem gridIntervalMs_pos (duration : Nat) : 0 < gridIntervalMs duration := by
  unfold gridIntervalMs videoSequenceBaseIntervalMs
  omega

/-- The samples of one interval never are more than allowed. -/
theorem gridSamples_le (duration : Nat) :
    divCeil duration (gridIntervalMs duration) ≤ videoSequenceMaxSamples := by
  rw [divCeil_le (gridIntervalMs_pos duration)]
  have covered : duration ≤ videoSequenceMaxSamples * divCeil duration videoSequenceMaxSamples :=
    (divCeil_le (by decide)).mp (Nat.le_refl _)
  have wide : divCeil duration videoSequenceMaxSamples ≤ gridIntervalMs duration :=
    Nat.le_max_right _ _
  have := Nat.mul_le_mul_left videoSequenceMaxSamples wide
  rw [Nat.mul_comm]
  omega

/-- The loop collects the whole grid when its budget covers the grid. -/
theorem collectTimestamps_eq {duration interval : Nat} (word : duration < 2 ^ 64)
    {budget timestamp count : Nat} (enough : count ≤ budget)
    (counts : ∀ k, k < count ↔ timestamp + interval * k < duration) :
    collectTimestamps duration interval budget timestamp =
      (List.range count).map fun k => timestamp + interval * k := by
  induction budget generalizing timestamp count with
  | zero =>
    have : count = 0 := by omega
    rw [this]
    rfl
  | succ budget ih =>
    have first := counts 0
    rw [Nat.mul_zero, Nat.add_zero] at first
    rw [collectTimestamps]
    cases count with
    | zero =>
      have ended : ¬ timestamp < duration := fun h => Nat.not_lt_zero 0 (first.mpr h)
      rw [if_neg ended]
      rfl
    | succ count =>
      have next : ∀ k, k < count ↔ timestamp + interval + interval * k < duration := by
        intro k
        have shifted := counts (k + 1)
        rw [Nat.mul_succ] at shifted
        omega
      rw [if_pos (first.mp (Nat.succ_pos count)), List.range_succ_eq_map, List.map_cons,
        List.map_map]
      congr 1
      unfold checkedAdd
      split
      · rename_i added fits
        split at fits
        · cases fits
          rw [ih (by omega) next]
          apply List.map_congr_left
          intro k _
          simp only [Function.comp_apply, Nat.succ_eq_add_one, Nat.mul_add, Nat.mul_one]
          omega
        · cases fits
      · rename_i overflow
        split at overflow
        · cases overflow
        · have last := next 0
          have : count = 0 := by omega
          rw [this]
          rfl

theorem videoSequenceIntervalMs_eq_some :
    videoSequenceIntervalMs durationMs = some intervalMs ↔
      durationMs ≠ 0 ∧ intervalMs.toNat = gridIntervalMs durationMs.toNat := by
  unfold videoSequenceIntervalMs
  split
  · rename_i zero
    simp [zero]
  · rename_i nonzero
    simp only
    split
    · rename_i fits
      rw [Option.some.injEq, ← UInt32.toNat_inj, UInt32.toNat_ofNat', Nat.mod_eq_of_lt fits]
      constructor
      · intro same
        exact ⟨nonzero, same.symm⟩
      · intro same
        exact same.2.symm
    · rename_i large
      have word := intervalMs.toNat_lt
      constructor
      · intro found
        cases found
      · intro same
        omega

theorem selectVideoSequenceTimestamps_eq (nonzero : durationMs ≠ 0) :
    selectVideoSequenceTimestamps durationMs =
      (List.range (divCeil durationMs.toNat (gridIntervalMs durationMs.toNat))).map
        fun k => gridIntervalMs durationMs.toNat * k := by
  have counts := fun k => lt_divCeil (n := durationMs.toNat) (k := k)
    (gridIntervalMs_pos durationMs.toNat)
  rw [selectVideoSequenceTimestamps, if_neg nonzero,
    collectTimestamps_eq durationMs.toNat_lt (gridSamples_le _)
      (by intro k; rw [Nat.zero_add]; exact counts k)]
  simp only [Nat.zero_add]

/-- The grid that is valid is the sampled one. -/
theorem validateGrid_iff {count : Nat} :
    validateGrid durationMs intervalMs count = .ok () ↔
      videoSequenceIntervalMs durationMs = some intervalMs ∧
        count = divCeil durationMs.toNat (gridIntervalMs durationMs.toNat) := by
  have unfolded : max videoSequenceBaseIntervalMs
      (divCeil durationMs.toNat videoSequenceMaxSamples) = gridIntervalMs durationMs.toNat := rfl
  unfold validateGrid
  simp only [bind_ok, require_ok, expect_ok, unfolded, videoSequenceIntervalMs_eq_some]
  constructor
  · rintro ⟨_, nonzero, _, -, _, interval, _, -, _, counted, -⟩
    exact ⟨⟨nonzero, interval⟩, counted⟩
  · rintro ⟨⟨nonzero, interval⟩, counted⟩
    have positive := gridIntervalMs_pos durationMs.toNat
    have some_ms : 0 < durationMs.toNat := by
      apply Nat.pos_of_ne_zero
      intro zero
      exact nonzero (UInt64.toNat_inj.mp zero)
    have sampled : 0 < count := by
      rw [counted, lt_divCeil positive]
      omega
    have bounded : count ≤ videoSequenceMaxSamples := by
      rw [counted]
      exact gridSamples_le _
    have last : intervalMs.toNat * (count - 1) < durationMs.toNat := by
      rw [interval, ← lt_divCeil positive]
      omega
    have word := durationMs.toNat_lt
    have intervalNonzero : intervalMs ≠ 0 := by
      intro zero
      rw [zero] at interval
      have : (0 : UInt32).toNat = 0 := rfl
      omega
    exact ⟨(), nonzero, (), intervalNonzero, (), interval, (), by omega, (), counted, _,
      if_pos (by omega), last⟩

end Grid

section Scores
variable {samples : List VideoSequenceSample}

/-- A sample whose scores are in range. -/
structure VideoSequenceSample.Scored (sample : VideoSequenceSample) : Prop where
  information : sample.informationBps ≤ maxScoreBps
  transition : sample.transitionBps ≤ maxScoreBps

theorem validateScores_iff :
    validateScores samples = .ok () ↔ ∀ sample ∈ samples, sample.Scored := by
  induction samples with
  | nil => simp [validateScores]
  | cons sample samples ih =>
    simp only [validateScores, bind_ok, require_ok, ih, List.mem_cons, forall_eq_or_imp]
    constructor
    · rintro ⟨_, information, _, transition, rest⟩
      exact ⟨⟨information, transition⟩, rest⟩
    · rintro ⟨⟨information, transition⟩, rest⟩
      exact ⟨(), information, (), transition, rest⟩

theorem validateSamples_iff :
    validateSamples samples = .ok () ↔
      (∀ first ∈ samples.head?, first.transitionBps = 0) ∧ ∀ sample ∈ samples, sample.Scored := by
  unfold validateSamples
  simp only [bind_ok, validateScores_iff]
  cases samples.head? with
  | none => simp [validateSome]
  | some first => simp [validateSome, require_ok]

theorem scoreBps_le (score : Float64) : score.scoreBps ≤ maxScoreBps := by
  rw [UInt16.le_iff_toNat_le]
  cases score with
  | nan => exact Nat.zero_le _
  | negativeInfinity => exact Nat.zero_le _
  | infinity => exact Nat.le_refl _
  | finite value =>
    have small : maxScoreBps.toNat < 2 ^ 16 := maxScoreBps.toNat_lt
    rw [Float64.scoreBps, UInt16.toNat_ofNat', Nat.mod_eq_of_lt (by omega)]
    exact Nat.min_le_right _ _

theorem transitionScore_le (previous current : List UInt8) :
    transitionScore previous current ≤ maxScoreBps := by
  rw [UInt16.le_iff_toNat_le]
  have limit : maxScoreBps.toNat = 10000 := rfl
  unfold transitionScore
  split
  · exact Nat.zero_le _
  · simp only
    rw [UInt16.toNat_ofNat', Nat.mod_eq_of_lt (by omega)]
    omega

theorem lumaDifference_le (previous current : List UInt8) :
    lumaDifference previous current ≤ 255 * previous.length := by
  induction previous generalizing current with
  | nil => simp [lumaDifference]
  | cons left previous ih =>
    cases current with
    | nil => simp [lumaDifference]
    | cons right current =>
      have rest := ih current
      have left_lt := left.toNat_lt
      have right_lt := right.toNat_lt
      simp only [lumaDifference, List.zip_cons_cons, List.map_cons, List.sum_cons,
        List.length_cons, absDiff] at rest ⊢
      omega

/-- The products behind a transition of two scaled images fit 32 bits. -/
theorem lumaDifference_fits (previous current : NormalizedImage) :
    lumaDifference previous.luma current.luma * 10000 < 2 ^ 32 ∧
      255 * previous.luma.length < 2 ^ 32 := by
  have difference := lumaDifference_le previous.luma current.luma
  have size := previous.size
  unfold featureWidth featureHeight at size
  omega

variable {Image : Type} {features : ImageFeatures Image}

theorem sampleFeatures_scored (image : NormalizedImage) (previousLuma : Option (List UInt8)) :
    (sampleFeatures features image previousLuma).Scored := by
  refine ⟨scoreBps_le _, ?_⟩
  cases previousLuma with
  | none => exact Nat.zero_le _
  | some previous => exact transitionScore_le previous image.luma

end Scores

section Building
variable {Image : Type} {features : ImageFeatures Image}
  {builder next : VideoSequenceBuilder Image} {image : Image} {images : List Image}
  {durationMs : UInt64} {intervalMs : UInt32}

/-- What a builder holds at any time: its samples pass their check. -/
structure VideoSequenceBuilder.Sampled (builder : VideoSequenceBuilder Image) : Prop where
  scored : ∀ sample ∈ builder.samples, sample.Scored
  first : ∀ sample ∈ builder.samples.head?, sample.transitionBps = 0
  fresh : builder.samples = [] → builder.previousLuma = none

variable (features) in
/-- A push adds one sample and keeps the grid, while samples are missing. -/
theorem pushImage_ok (sampled : builder.Sampled)
    (missing : builder.samples.length < builder.expectedSamples) (image : Image) :
    ∃ next, builder.pushImage features image = .ok next ∧ next.Sampled ∧
      next.samples.length = builder.samples.length + 1 ∧
      next.expectedSamples = builder.expectedSamples ∧
      next.durationMs = builder.durationMs ∧ next.intervalMs = builder.intervalMs := by
  have pushed : builder.pushImage features image = .ok _ :=
    bind_ok.mpr ⟨(), require_ok.mpr missing, rfl⟩
  refine ⟨_, pushed, ⟨?_, ?_, ?_⟩, ?_, rfl, rfl, rfl⟩
  · intro sample member
    rcases List.mem_append.mp member with old | new
    · exact sampled.scored sample old
    · rw [List.mem_singleton.mp new]
      exact sampleFeatures_scored _ _
  · intro sample head
    by_cases empty : builder.samples = []
    · simp only [empty, List.nil_append, List.head?_cons, Option.mem_def,
        Option.some.injEq] at head
      rw [← head, sampled.fresh empty]
      rfl
    · simp only [List.head?_append_of_ne_nil _ empty] at head
      exact sampled.first sample head
  · intro empty
    exact absurd empty (by simp)
  · simp

variable (features images) in
theorem pushImages_ok (sampled : builder.Sampled)
    (room : builder.samples.length + images.length ≤ builder.expectedSamples) :
    ∃ last, pushImages features builder images = .ok last ∧ last.Sampled ∧
      last.samples.length = builder.samples.length + images.length ∧
      last.expectedSamples = builder.expectedSamples ∧
      last.durationMs = builder.durationMs ∧ last.intervalMs = builder.intervalMs := by
  induction images generalizing builder with
  | nil => exact ⟨builder, rfl, sampled, rfl, rfl, rfl, rfl⟩
  | cons image images ih =>
    rw [List.length_cons] at room
    obtain ⟨next, pushed, sampled', longer, expected, duration, interval⟩ :=
      pushImage_ok features sampled (by omega) image
    obtain ⟨last, rest, sampledLast, length, expected', duration', interval'⟩ :=
      ih sampled' (by omega)
    refine ⟨last, bind_ok.mpr ⟨next, pushed, rest⟩, sampledLast, ?_, expected'.trans expected,
      duration'.trans duration, interval'.trans interval⟩
    rw [List.length_cons]
    omega

/-- A builder of the grid of a duration starts empty. -/
theorem builder_new_ok (interval : videoSequenceIntervalMs durationMs = some intervalMs) :
    ∃ builder : VideoSequenceBuilder Image,
      VideoSequenceBuilder.new durationMs intervalMs = .ok builder ∧ builder.Sampled ∧
        builder.samples = [] ∧
        builder.expectedSamples = (selectVideoSequenceTimestamps durationMs).length ∧
        builder.durationMs = durationMs ∧ builder.intervalMs = intervalMs := by
  have grid := videoSequenceIntervalMs_eq_some.mp interval
  have nonzero : intervalMs ≠ 0 := by
    intro zero
    have positive := gridIntervalMs_pos durationMs.toNat
    rw [← grid.2, zero] at positive
    exact absurd positive (by decide)
  have built : @VideoSequenceBuilder.new Image durationMs intervalMs = .ok _ :=
    bind_ok.mpr ⟨(), require_ok.mpr grid.1, bind_ok.mpr ⟨(), require_ok.mpr nonzero,
      bind_ok.mpr ⟨_, expect_ok.mpr interval, bind_ok.mpr ⟨(), require_ok.mpr rfl, rfl⟩⟩⟩⟩
  exact ⟨_, built, ⟨nofun, nofun, fun _ => rfl⟩, rfl, rfl, rfl, rfl⟩

/-- One image for each timestamp makes a fingerprint that can be encoded. -/
theorem fromImages_encodes (interval : videoSequenceIntervalMs durationMs = some intervalMs)
    (complete : images.length = (selectVideoSequenceTimestamps durationMs).length) :
    ∃ fingerprint encoded,
      VideoSequenceFingerprint.fromImages features durationMs intervalMs images =
          .ok fingerprint ∧
        fingerprint.encode = .ok encoded := by
  obtain ⟨builder, built, sampled, empty, expected, duration, interval'⟩ :=
    @builder_new_ok Image _ _ interval
  have none_yet : builder.samples.length = 0 := by rw [empty]; rfl
  obtain ⟨last, pushed, sampledLast, length, expected', duration', interval''⟩ :=
    pushImages_ok features images sampled (by omega)
  have nonzero := (videoSequenceIntervalMs_eq_some.mp interval).1
  have counted : last.samples.length =
      divCeil durationMs.toNat (gridIntervalMs durationMs.toNat) := by
    rw [length, none_yet, complete, selectVideoSequenceTimestamps_eq nonzero]
    simp
  have grid : validateGrid last.durationMs last.intervalMs last.samples.length = .ok () := by
    rw [duration', duration, interval'', interval']
    exact validateGrid_iff.mpr ⟨interval, counted⟩
  have valid : validateSamples last.samples = .ok () :=
    validateSamples_iff.mpr ⟨sampledLast.first, sampledLast.scored⟩
  have finished : last.finish =
      .ok ⟨.videoSequenceV1, last.durationMs, last.intervalMs, last.samples⟩ := by
    unfold VideoSequenceBuilder.finish VideoSequenceBuilder.finishWithBestImage
    have full : last.samples.length = last.expectedSamples := by omega
    exact bind_ok.mpr ⟨_, bind_ok.mpr ⟨(), require_ok.mpr full, bind_ok.mpr ⟨_,
      new_ok_iff.mpr ⟨grid, valid, rfl⟩, rfl⟩⟩, rfl⟩
  exact ⟨_, _, bind_ok.mpr ⟨builder, built, bind_ok.mpr ⟨last, pushed, finished⟩⟩,
    encode_eq_ok.mpr ⟨grid, valid, rfl⟩⟩

end Building

/-- The timestamps of a video are the multiples of its interval below its
    duration, at most 2048 of them; they make up the one grid that is valid for
    the duration, and one image for each of them gives a fingerprint that can be
    encoded. -/
theorem sampling_follows_grid {Image : Type} (features : ImageFeatures Image)
    (durationMs : UInt64) (intervalMs : UInt32)
    (interval : videoSequenceIntervalMs durationMs = some intervalMs) :
    let timestamps := selectVideoSequenceTimestamps durationMs
    timestamps = (List.range timestamps.length).map (fun k => intervalMs.toNat * k) ∧
      (∀ k, k < timestamps.length ↔ intervalMs.toNat * k < durationMs.toNat) ∧
      1 ≤ timestamps.length ∧ timestamps.length ≤ 2048 ∧
      validateGrid durationMs intervalMs timestamps.length = .ok () ∧
      (∀ other count, validateGrid durationMs other count = .ok () →
        other = intervalMs ∧ count = timestamps.length) ∧
      ∀ images : List Image, images.length = timestamps.length →
        ∃ fingerprint encoded,
          VideoSequenceFingerprint.fromImages features durationMs intervalMs images =
              .ok fingerprint ∧
            fingerprint.encode = .ok encoded := by
  intro timestamps
  obtain ⟨nonzero, spacing⟩ := videoSequenceIntervalMs_eq_some.mp interval
  have selected := selectVideoSequenceTimestamps_eq nonzero
  have counted : timestamps.length =
      divCeil durationMs.toNat (gridIntervalMs durationMs.toNat) := by
    rw [show timestamps = _ from selected]
    simp
  have valid : validateGrid durationMs intervalMs timestamps.length = .ok () :=
    validateGrid_iff.mpr ⟨interval, counted⟩
  refine ⟨?_, ?_, (validateGrid_count valid).1, (validateGrid_count valid).2, valid, ?_, ?_⟩
  · rw [counted, spacing]
    exact selected
  · intro k
    rw [counted, spacing]
    exact lt_divCeil (gridIntervalMs_pos durationMs.toNat)
  · intro other count accepted
    obtain ⟨same, length⟩ := validateGrid_iff.mp accepted
    rw [interval, Option.some.injEq] at same
    exact ⟨same.symm, length.trans counted.symm⟩
  · intro images complete
    exact fromImages_encodes interval complete

def blankImage : NormalizedImage :=
  ⟨List.replicate 1024 0, List.replicate 1024 (0, 0, 0), List.length_replicate⟩

/-- Features of images that are black throughout. -/
def blankFeatures : ImageFeatures Unit where
  normalizeImage := fun _ => blankImage
  phashV1 := fun _ => 0
  colorSummary := fun _ _ => (0, 0, 0)
  information := fun _ => .finite 0

theorem sampling_follows_grid_at_the_cap :
    videoSequenceIntervalMs 2000000 = some 977 ∧
      validateGrid 2000000 977 (selectVideoSequenceTimestamps 2000000).length = .ok () := by
  have interval : videoSequenceIntervalMs 2000000 = some 977 := by decide +kernel
  exact ⟨interval, (sampling_follows_grid blankFeatures 2000000 977 interval).2.2.2.2.1⟩

end Sooqa.Media
