import Sooqa.Foundation.Bytes

/-!
The fingerprint of a video and its binary form. A header gives the duration,
the sampling interval and the number of samples, which have to agree; the
samples follow, each of a fixed size.
-/
namespace Sooqa.Media
open Foundation

section Model

inductive FingerprintVersion where
  | videoSequenceV1
  deriving DecidableEq, Repr

structure VideoSequenceSample where
  phash : UInt64
  dhash : UInt64
  meanLuma : UInt8
  meanChromaU : Int8
  meanChromaV : Int8
  informationBps : UInt16
  transitionBps : UInt16
  deriving DecidableEq

structure VideoSequenceFingerprint where
  version : FingerprintVersion
  durationMs : UInt64
  intervalMs : UInt32
  samples : List VideoSequenceSample
  deriving DecidableEq

inductive VideoSequenceError where
  | invalidDuration
  | invalidInterval
  | invalidSampleCount (count : Nat)
  | invalidTimestampGrid
  | unsupportedAlgorithm (version : FingerprintVersion)
  | encodedTooLarge (max : Nat)
  | truncated
  | invalidMagic
  | unsupportedCodecVersion (version : UInt16)
  | invalidReservedHeader
  | trailingBytes
  | invalidInformationScore (score : UInt16)
  | invalidTransitionScore (score : UInt16)
  | invalidFirstTransition (score : UInt16)
  deriving DecidableEq

/-- How decoding can end without a fingerprint: a rejection, or a panic on an
    index or a slice outside the bytes. -/
inductive Fault where
  | rejected (error : VideoSequenceError)
  | outOfBounds
  deriving DecidableEq

def videoSequenceMagic : List UInt8 := [0x53, 0x51, 0x56, 0x53]
def videoSequenceCodecV1 : UInt16 := 1
def videoSequenceBaseIntervalMs : Nat := 500
def videoSequenceMaxSamples : Nat := 2048
def maxScoreBps : UInt16 := 10000
def headerBytes : Nat := 24
def sampleBytes : Nat := 23
def maxEncodedBytes : Nat := headerBytes + videoSequenceMaxSamples * sampleBytes

def divCeil (n m : Nat) : Nat :=
  if 0 < n % m then n / m + 1 else n / m

/-- Products and sums of 64-bit words, where they do not overflow. -/
def checkedMul (n m : Nat) : Option Nat :=
  if n * m < 2 ^ 64 then some (n * m) else none

def checkedAdd (n m : Nat) : Option Nat :=
  if n + m < 2 ^ 64 then some (n + m) else none

def validateGrid (durationMs : UInt64) (intervalMs : UInt32) (sampleCount : Nat) :
    Except VideoSequenceError Unit := do
  require (durationMs ≠ 0) .invalidDuration
  require (intervalMs ≠ 0) .invalidInterval
  let expectedIntervalMs :=
    max videoSequenceBaseIntervalMs (divCeil durationMs.toNat videoSequenceMaxSamples)
  require (intervalMs.toNat = expectedIntervalMs) .invalidTimestampGrid
  require (¬ (sampleCount = 0 ∨ sampleCount > videoSequenceMaxSamples))
    (.invalidSampleCount sampleCount)
  require (sampleCount = divCeil durationMs.toNat expectedIntervalMs) .invalidTimestampGrid
  let lastTimestamp ← expect (checkedMul intervalMs.toNat (sampleCount - 1)) .invalidTimestampGrid
  require (lastTimestamp < durationMs.toNat) .invalidTimestampGrid

def validateScores : List VideoSequenceSample → Except VideoSequenceError Unit
  | [] => .ok ()
  | sample :: samples => do
    require (sample.informationBps ≤ maxScoreBps) (.invalidInformationScore sample.informationBps)
    require (sample.transitionBps ≤ maxScoreBps) (.invalidTransitionScore sample.transitionBps)
    validateScores samples

def validateSamples (samples : List VideoSequenceSample) : Except VideoSequenceError Unit := do
  validateSome (fun first => require (first.transitionBps = 0)
    (.invalidFirstTransition first.transitionBps)) samples.head?
  validateScores samples

def VideoSequenceFingerprint.new (durationMs : UInt64) (intervalMs : UInt32)
    (samples : List VideoSequenceSample) : Except VideoSequenceError VideoSequenceFingerprint := do
  validateGrid durationMs intervalMs samples.length
  validateSamples samples
  return ⟨.videoSequenceV1, durationMs, intervalMs, samples⟩

def encodeSample (sample : VideoSequenceSample) : List UInt8 :=
  littleEndian 8 sample.phash.toNat ++ littleEndian 8 sample.dhash.toNat ++
    [sample.meanLuma] ++ [sample.meanChromaU.toUInt8] ++ [sample.meanChromaV.toUInt8] ++
    littleEndian 2 sample.informationBps.toNat ++ littleEndian 2 sample.transitionBps.toNat

def encodeHeader (durationMs : UInt64) (intervalMs : UInt32) (sampleCount : Nat) : List UInt8 :=
  videoSequenceMagic ++ littleEndian 2 videoSequenceCodecV1.toNat ++
    littleEndian 2 (UInt16.ofNat sampleCount).toNat ++ littleEndian 8 durationMs.toNat ++
    littleEndian 4 intervalMs.toNat ++ littleEndian 4 0

def VideoSequenceFingerprint.encode (fingerprint : VideoSequenceFingerprint) :
    Except VideoSequenceError (List UInt8) := do
  require (fingerprint.version = .videoSequenceV1) (.unsupportedAlgorithm fingerprint.version)
  validateGrid fingerprint.durationMs fingerprint.intervalMs fingerprint.samples.length
  validateSamples fingerprint.samples
  return encodeHeader fingerprint.durationMs fingerprint.intervalMs fingerprint.samples.length ++
    fingerprint.samples.flatMap encodeSample

/-- `bytes[i]`, which panics outside the bytes. -/
def index (bytes : List UInt8) (i : Nat) : Except Fault UInt8 :=
  expect bytes[i]? .outOfBounds

/-- `bytes[start..stop]`, which panics outside the bytes. -/
def slice (bytes : List UInt8) (start stop : Nat) : Except Fault (List UInt8) :=
  expect (range bytes start stop) .outOfBounds

/-- Bytes taken as an array of a fixed size, which panics on any other size. -/
def asArray (width : Nat) (bytes : List UInt8) : Except Fault (List UInt8) := do
  require (bytes.length = width) .outOfBounds
  return bytes

/-- An early return with an error of the codec. -/
def rejecting {α : Type} : Except VideoSequenceError α → Except Fault α
  | .ok a => .ok a
  | .error error => .error (.rejected error)

def readU8 (encoded : List UInt8) (offset : Nat) : Except Fault (UInt8 × Nat) := do
  let value ← expect encoded[offset]? (.rejected .truncated)
  return (value, offset + 1)

def readU16 (encoded : List UInt8) (offset : Nat) : Except Fault (UInt16 × Nat) := do
  let stop ← expect (checkedAdd offset 2) (.rejected .truncated)
  let bytes ← expect (range encoded offset stop) (.rejected .truncated)
  let low ← index bytes 0
  let high ← index bytes 1
  return (.ofNat (fromLittleEndian [low, high]), stop)

def readU64 (encoded : List UInt8) (offset : Nat) : Except Fault (UInt64 × Nat) := do
  let stop ← expect (checkedAdd offset 8) (.rejected .truncated)
  let bytes ← expect (range encoded offset stop) (.rejected .truncated)
  let word ← asArray 8 bytes
  return (.ofNat (fromLittleEndian word), stop)

def readSample (encoded : List UInt8) (offset : Nat) :
    Except Fault (VideoSequenceSample × Nat) := do
  let (phash, offset) ← readU64 encoded offset
  let (dhash, offset) ← readU64 encoded offset
  let (meanLuma, offset) ← readU8 encoded offset
  let (meanChromaU, offset) ← readU8 encoded offset
  let (meanChromaV, offset) ← readU8 encoded offset
  let (informationBps, offset) ← readU16 encoded offset
  let (transitionBps, offset) ← readU16 encoded offset
  return (⟨phash, dhash, meanLuma, meanChromaU.toInt8, meanChromaV.toInt8, informationBps,
    transitionBps⟩, offset)

def readSamples (encoded : List UInt8) : Nat → Nat → Except Fault (List VideoSequenceSample)
  | 0, _ => .ok []
  | count + 1, offset => do
    let (sample, offset) ← readSample encoded offset
    let samples ← readSamples encoded count offset
    return sample :: samples

def VideoSequenceFingerprint.decode (encoded : List UInt8) :
    Except Fault VideoSequenceFingerprint := do
  require (encoded.length ≤ maxEncodedBytes) (.rejected (.encodedTooLarge maxEncodedBytes))
  require (headerBytes ≤ encoded.length) (.rejected .truncated)
  let magic ← slice encoded 0 4
  require (magic = videoSequenceMagic) (.rejected .invalidMagic)
  let versionLow ← index encoded 4
  let versionHigh ← index encoded 5
  let codecVersion := UInt16.ofNat (fromLittleEndian [versionLow, versionHigh])
  require (codecVersion = videoSequenceCodecV1) (.rejected (.unsupportedCodecVersion codecVersion))
  let countLow ← index encoded 6
  let countHigh ← index encoded 7
  let sampleCount := (UInt16.ofNat (fromLittleEndian [countLow, countHigh])).toNat
  require (¬ (sampleCount = 0 ∨ sampleCount > videoSequenceMaxSamples))
    (.rejected (.invalidSampleCount sampleCount))
  let durationSlice ← slice encoded 8 16
  let durationBytes ← asArray 8 durationSlice
  let durationMs := UInt64.ofNat (fromLittleEndian durationBytes)
  let intervalSlice ← slice encoded 16 20
  let intervalBytes ← asArray 4 intervalSlice
  let intervalMs := UInt32.ofNat (fromLittleEndian intervalBytes)
  let reserved0 ← index encoded 20
  let reserved1 ← index encoded 21
  let reserved2 ← index encoded 22
  let reserved3 ← index encoded 23
  let reserved :=
    UInt32.ofNat (fromLittleEndian [reserved0, reserved1, reserved2, reserved3])
  require (reserved = 0) (.rejected .invalidReservedHeader)
  let samplesLen ← expect (checkedMul sampleCount sampleBytes)
    (.rejected (.encodedTooLarge maxEncodedBytes))
  let expectedLen ← expect (checkedAdd headerBytes samplesLen)
    (.rejected (.encodedTooLarge maxEncodedBytes))
  require (expectedLen ≤ encoded.length) (.rejected .truncated)
  require (encoded.length ≤ expectedLen) (.rejected .trailingBytes)
  let samples ← readSamples encoded sampleCount headerBytes
  rejecting (VideoSequenceFingerprint.new durationMs intervalMs samples)

end Model

section Fields
variable {bytes : List UInt8} {offset : Nat}

/-- The sample whose bytes start at an offset. -/
def sampleAt (bytes : List UInt8) (offset : Nat) : VideoSequenceSample :=
  { phash := .ofNat (numberAt bytes offset 8)
    dhash := .ofNat (numberAt bytes (offset + 8) 8)
    meanLuma := .ofNat (numberAt bytes (offset + 16) 1)
    meanChromaU := (UInt8.ofNat (numberAt bytes (offset + 17) 1)).toInt8
    meanChromaV := (UInt8.ofNat (numberAt bytes (offset + 18) 1)).toInt8
    informationBps := .ofNat (numberAt bytes (offset + 19) 2)
    transitionBps := .ofNat (numberAt bytes (offset + 21) 2) }

def samplesAt (bytes : List UInt8) (offset count : Nat) : List VideoSequenceSample :=
  (List.range count).map fun k => sampleAt bytes (offset + sampleBytes * k)

theorem samplesAt_succ (count : Nat) :
    samplesAt bytes offset (count + 1) =
      sampleAt bytes offset :: samplesAt bytes (offset + sampleBytes) count := by
  simp only [samplesAt, List.range_succ_eq_map, List.map_cons, List.map_map, Nat.mul_zero,
    Nat.add_zero, Function.comp_def]
  congr 1
  apply List.map_congr_left
  intro k _
  rw [Nat.succ_eq_add_one, Nat.mul_add, Nat.mul_one, Nat.add_comm (sampleBytes * k),
    Nat.add_assoc]

theorem index_inside (inside : offset < bytes.length) :
    index bytes offset = .ok (bytes.get ⟨offset, inside⟩) := by
  simp [index, inside, expect]

theorem slice_inside {width stop : Nat} (ends : offset + width = stop)
    (inside : stop ≤ bytes.length) : slice bytes offset stop = .ok (field bytes offset width) := by
  subst ends
  rw [slice, range_field inside]
  rfl

theorem asArray_field {width : Nat} (inside : offset + width ≤ bytes.length) :
    asArray width (field bytes offset width) = .ok (field bytes offset width) := by
  simp [asArray, require, field_length inside, bind, Except.bind, pure, Except.pure]

theorem field_head (inside : offset < bytes.length) (width : Nat) :
    field bytes offset (width + 1) =
      bytes.get ⟨offset, inside⟩ :: field bytes (offset + 1) width := by
  simp only [field, List.get_eq_getElem]
  rw [List.drop_eq_getElem_cons inside, List.take_succ_cons]

theorem field_zero : field bytes offset 0 = [] := rfl

theorem readU8_eq :
    readU8 bytes offset =
      if offset + 1 ≤ bytes.length then .ok (.ofNat (numberAt bytes offset 1), offset + 1)
      else .error (.rejected .truncated) := by
  unfold readU8
  split
  case isTrue inside =>
    have found : bytes[offset]? = some (bytes.get ⟨offset, inside⟩) := by simp
    simp [found, expect, bind, Except.bind, pure, Except.pure, numberAt, field_head inside,
      field_zero, fromLittleEndian]
  case isFalse outside =>
    have missing : bytes[offset]? = none := List.getElem?_eq_none (by omega)
    simp [missing, expect, bind, Except.bind]

theorem readU16_eq (small : bytes.length < 2 ^ 64) :
    readU16 bytes offset =
      if offset + 2 ≤ bytes.length then .ok (.ofNat (numberAt bytes offset 2), offset + 2)
      else .error (.rejected .truncated) := by
  unfold readU16
  split
  case isTrue inside =>
    have stop : checkedAdd offset 2 = some (offset + 2) := if_pos (by omega)
    have first : offset < bytes.length := by omega
    have second : offset + 1 < bytes.length := by omega
    simp [stop, range_field inside, expect, bind, Except.bind, pure, Except.pure, numberAt,
      field_head first, field_head second, field_zero, index]
  case isFalse outside =>
    rcases Nat.lt_or_ge (offset + 2) (2 ^ 64) with fits | overflow
    · have stop : checkedAdd offset 2 = some (offset + 2) := if_pos fits
      simp [stop, range_outside (Nat.lt_of_not_le outside), expect, bind, Except.bind]
    · have stop : checkedAdd offset 2 = none := if_neg (by omega)
      simp [stop, expect, bind, Except.bind]

theorem readU64_eq (small : bytes.length < 2 ^ 64) :
    readU64 bytes offset =
      if offset + 8 ≤ bytes.length then .ok (.ofNat (numberAt bytes offset 8), offset + 8)
      else .error (.rejected .truncated) := by
  unfold readU64
  split
  case isTrue inside =>
    have stop : checkedAdd offset 8 = some (offset + 8) := if_pos (by omega)
    simp [stop, range_field inside, expect, bind, Except.bind, pure, Except.pure, numberAt,
      asArray, require, field_length inside]
  case isFalse outside =>
    rcases Nat.lt_or_ge (offset + 8) (2 ^ 64) with fits | overflow
    · have stop : checkedAdd offset 8 = some (offset + 8) := if_pos fits
      simp [stop, range_outside (Nat.lt_of_not_le outside), expect, bind, Except.bind]
    · have stop : checkedAdd offset 8 = none := if_neg (by omega)
      simp [stop, expect, bind, Except.bind]

theorem readSample_inside (offset : Nat) (small : bytes.length < 2 ^ 64)
    (inside : offset + sampleBytes ≤ bytes.length) :
    readSample bytes offset = .ok (sampleAt bytes offset, offset + sampleBytes) := by
  unfold sampleBytes at inside ⊢
  have read8 (o : Nat) (h : o + 1 ≤ bytes.length) :
      readU8 bytes o = .ok (.ofNat (numberAt bytes o 1), o + 1) := by rw [readU8_eq, if_pos h]
  have read16 (o : Nat) (h : o + 2 ≤ bytes.length) :
      readU16 bytes o = .ok (.ofNat (numberAt bytes o 2), o + 2) := by
    rw [readU16_eq small, if_pos h]
  have read64 (o : Nat) (h : o + 8 ≤ bytes.length) :
      readU64 bytes o = .ok (.ofNat (numberAt bytes o 8), o + 8) := by
    rw [readU64_eq small, if_pos h]
  simp [readSample, read64 offset (by omega), read64 (offset + 8) (by omega),
    read8 (offset + 8 + 8) (by omega), read8 (offset + 8 + 8 + 1) (by omega),
    read8 (offset + 8 + 8 + 1 + 1) (by omega), read16 (offset + 8 + 8 + 1 + 1 + 1) (by omega),
    read16 (offset + 8 + 8 + 1 + 1 + 1 + 2) (by omega), bind, Except.bind, pure, Except.pure,
    sampleAt, Nat.add_assoc]

theorem readSamples_inside (offset : Nat) (small : bytes.length < 2 ^ 64) (count : Nat)
    (inside : offset + sampleBytes * count ≤ bytes.length) :
    readSamples bytes count offset = .ok (samplesAt bytes offset count) := by
  induction count generalizing offset with
  | zero => rfl
  | succ count ih =>
    rw [Nat.mul_succ] at inside
    have here := readSample_inside offset small (by omega)
    have rest := ih (offset + sampleBytes) (by omega)
    simp only [readSamples, here, bind_ok_eq, rest, samplesAt_succ]
    rfl

end Fields

section Acceptance
variable {encoded : List UInt8} {fingerprint : VideoSequenceFingerprint}

/-- The fingerprint whose fields stand at their places in the bytes. -/
def fingerprintAt (encoded : List UInt8) : VideoSequenceFingerprint :=
  { version := .videoSequenceV1
    durationMs := .ofNat (numberAt encoded 8 8)
    intervalMs := .ofNat (numberAt encoded 16 4)
    samples := samplesAt encoded headerBytes (numberAt encoded 6 2) }

structure WellFormed (encoded : List UInt8) : Prop where
  magic : field encoded 0 4 = videoSequenceMagic
  codec : numberAt encoded 4 2 = 1
  nonempty : 1 ≤ numberAt encoded 6 2
  bounded : numberAt encoded 6 2 ≤ 2048
  reserved : numberAt encoded 20 4 = 0
  size : encoded.length = 24 + 23 * numberAt encoded 6 2
  grid : validateGrid (fingerprintAt encoded).durationMs (fingerprintAt encoded).intervalMs
    (numberAt encoded 6 2) = .ok ()
  samples : validateSamples (fingerprintAt encoded).samples = .ok ()

theorem numberAt_bound (bytes : List UInt8) (offset width : Nat)
    (inside : offset + width ≤ bytes.length) : numberAt bytes offset width < 256 ^ width := by
  have bound := fromLittleEndian_bound (field bytes offset width)
  rwa [field_length inside] at bound

/-- Past the length checks no read of the header leaves the bytes. -/
theorem decode_eq (large : 24 ≤ encoded.length) (small : encoded.length ≤ maxEncodedBytes) :
    VideoSequenceFingerprint.decode encoded = (do
      require (field encoded 0 4 = videoSequenceMagic) (.rejected .invalidMagic)
      let codecVersion := UInt16.ofNat (numberAt encoded 4 2)
      require (codecVersion = videoSequenceCodecV1)
        (.rejected (.unsupportedCodecVersion codecVersion))
      let sampleCount := (UInt16.ofNat (numberAt encoded 6 2)).toNat
      require (¬ (sampleCount = 0 ∨ sampleCount > videoSequenceMaxSamples))
        (.rejected (.invalidSampleCount sampleCount))
      require (UInt32.ofNat (numberAt encoded 20 4) = 0) (.rejected .invalidReservedHeader)
      let samplesLen ← expect (checkedMul sampleCount sampleBytes)
        (.rejected (.encodedTooLarge maxEncodedBytes))
      let expectedLen ← expect (checkedAdd headerBytes samplesLen)
        (.rejected (.encodedTooLarge maxEncodedBytes))
      require (expectedLen ≤ encoded.length) (.rejected .truncated)
      require (encoded.length ≤ expectedLen) (.rejected .trailingBytes)
      let samples ← readSamples encoded sampleCount headerBytes
      rejecting (VideoSequenceFingerprint.new (.ofNat (numberAt encoded 8 8))
        (.ofNat (numberAt encoded 16 4)) samples)) := by
  have here (i : Nat) (h : i < 24) : index encoded i = .ok (encoded.get ⟨i, by omega⟩) :=
    index_inside (by omega)
  have pair (i : Nat) (h : i + 2 ≤ 24) : numberAt encoded i 2 = fromLittleEndian
      [encoded.get ⟨i, by omega⟩, encoded.get ⟨i + 1, by omega⟩] := by
    rw [numberAt, field_head (by omega), field_head (by omega), field_zero]
  have quad : numberAt encoded 20 4 = fromLittleEndian [encoded.get ⟨20, by omega⟩,
      encoded.get ⟨21, by omega⟩, encoded.get ⟨22, by omega⟩, encoded.get ⟨23, by omega⟩] := by
    rw [numberAt, field_head (by omega), field_head (by omega), field_head (by omega),
      field_head (by omega), field_zero]
  have magic : slice encoded 0 4 = .ok (field encoded 0 4) := slice_inside rfl (by omega)
  have duration : slice encoded 8 16 = .ok (field encoded 8 8) := slice_inside rfl (by omega)
  have interval : slice encoded 16 20 = .ok (field encoded 16 4) := slice_inside rfl (by omega)
  have durationBytes : asArray 8 (field encoded 8 8) = .ok (field encoded 8 8) :=
    asArray_field (by omega)
  have intervalBytes : asArray 4 (field encoded 16 4) = .ok (field encoded 16 4) :=
    asArray_field (by omega)
  have longEnough : require (headerBytes ≤ encoded.length) (Fault.rejected .truncated) = .ok () :=
    require_ok.mpr large
  have shortEnough : require (encoded.length ≤ maxEncodedBytes)
      (Fault.rejected (.encodedTooLarge maxEncodedBytes)) = .ok () := require_ok.mpr small
  simp only [VideoSequenceFingerprint.decode, shortEnough, longEnough, magic, duration, interval,
    durationBytes, intervalBytes, here 4 (by decide), here 5 (by decide), here 6 (by decide),
    here 7 (by decide), here 20 (by decide), here 21 (by decide), here 22 (by decide),
    here 23 (by decide), pair 4 (by decide), pair 6 (by decide), quad, bind_ok_eq]
  rfl

theorem new_ok_iff {durationMs : UInt64} {intervalMs : UInt32}
    {samples : List VideoSequenceSample} :
    VideoSequenceFingerprint.new durationMs intervalMs samples = .ok fingerprint ↔
      validateGrid durationMs intervalMs samples.length = .ok () ∧
        validateSamples samples = .ok () ∧
        fingerprint = ⟨.videoSequenceV1, durationMs, intervalMs, samples⟩ := by
  unfold VideoSequenceFingerprint.new
  simp only [bind_ok, pure_ok]
  constructor
  · rintro ⟨_, grid, _, valid, rfl⟩
    exact ⟨grid, valid, rfl⟩
  · rintro ⟨grid, valid, rfl⟩
    exact ⟨(), grid, (), valid, rfl⟩

theorem rejecting_ok {α : Type} {x : Except VideoSequenceError α} {a : α} :
    rejecting x = .ok a ↔ x = .ok a := by
  cases x <;> simp [rejecting]

theorem decode_sizes (decoded : VideoSequenceFingerprint.decode encoded = .ok fingerprint) :
    24 ≤ encoded.length ∧ encoded.length ≤ maxEncodedBytes := by
  unfold VideoSequenceFingerprint.decode at decoded
  obtain ⟨_, small, rest⟩ := bind_ok.mp decoded
  obtain ⟨_, large, -⟩ := bind_ok.mp rest
  exact ⟨require_ok.mp large, require_ok.mp small⟩

/-- The declared number of samples fits the machine words of the length check. -/
theorem expectedLen_eq (count : Nat) (bounded : count ≤ videoSequenceMaxSamples) :
    checkedMul count sampleBytes = some (sampleBytes * count) ∧
      checkedAdd headerBytes (sampleBytes * count) = some (headerBytes + sampleBytes * count) := by
  unfold videoSequenceMaxSamples at bounded
  unfold checkedMul checkedAdd sampleBytes headerBytes
  have product : count * 23 < 2 ^ 64 := by omega
  have total : 24 + 23 * count < 2 ^ 64 := by omega
  rw [if_pos product, if_pos total, Nat.mul_comm]
  exact ⟨rfl, rfl⟩

theorem samplesAt_length (bytes : List UInt8) (offset count : Nat) :
    (samplesAt bytes offset count).length = count := by
  simp [samplesAt]

/-- A byte string is the well-formed encoding of at most one fingerprint, the
    one whose fields stand in it. -/
theorem decode_ok_iff :
    VideoSequenceFingerprint.decode encoded = .ok fingerprint ↔
      WellFormed encoded ∧ fingerprint = fingerprintAt encoded := by
  constructor
  · intro decoded
    obtain ⟨large, small⟩ := decode_sizes decoded
    have codecBound := numberAt_bound encoded 4 2 (by omega)
    have countBound := numberAt_bound encoded 6 2 (by omega)
    have reservedBound := numberAt_bound encoded 20 4 (by omega)
    have count : (UInt16.ofNat (numberAt encoded 6 2)).toNat = numberAt encoded 6 2 := by
      rw [UInt16.toNat_ofNat']; omega
    rw [decode_eq large small] at decoded
    simp only [bind_ok, require_ok, expect_ok, rejecting_ok, new_ok_iff, count] at decoded
    obtain ⟨_, magic, _, codec, _, counted, _, reserved, _, product, _, total, _, long, _, short,
      samples, read, grid, valid, rfl⟩ := decoded
    have bounded : numberAt encoded 6 2 ≤ videoSequenceMaxSamples := by omega
    obtain ⟨product', total'⟩ := expectedLen_eq _ bounded
    cases product.symm.trans product'
    cases total.symm.trans total'
    have size : encoded.length = headerBytes + sampleBytes * numberAt encoded 6 2 := by omega
    have fits : encoded.length < 2 ^ 64 := Nat.lt_of_le_of_lt small (by decide)
    cases read.symm.trans (readSamples_inside _ fits _ (Nat.le_of_eq size.symm))
    rw [samplesAt_length] at grid
    have codec' : numberAt encoded 4 2 = 1 := by
      have := congrArg UInt16.toNat codec
      rw [UInt16.toNat_ofNat'] at this
      unfold videoSequenceCodecV1 at this
      simp at this
      omega
    have reserved' : numberAt encoded 20 4 = 0 := by
      have := congrArg UInt32.toNat reserved
      rw [UInt32.toNat_ofNat'] at this
      simp at this
      omega
    exact ⟨⟨magic, codec', by omega, bounded, reserved', size, grid, valid⟩, rfl⟩
  · rintro ⟨form, rfl⟩
    have large : 24 ≤ encoded.length := by have := form.size; omega
    have small : encoded.length ≤ maxEncodedBytes := by
      have := form.size
      have := form.bounded
      unfold maxEncodedBytes headerBytes videoSequenceMaxSamples sampleBytes
      omega
    have count : (UInt16.ofNat (numberAt encoded 6 2)).toNat = numberAt encoded 6 2 := by
      have := form.bounded
      rw [UInt16.toNat_ofNat']; omega
    have fits : encoded.length < 2 ^ 64 := Nat.lt_of_le_of_lt small (by decide)
    obtain ⟨product, total⟩ := expectedLen_eq _ form.bounded
    have size := form.size
    have read := readSamples_inside headerBytes fits (numberAt encoded 6 2)
      (Nat.le_of_eq size.symm)
    have grid := form.grid
    rw [decode_eq large small]
    simp only [bind_ok, require_ok, expect_ok, rejecting_ok, new_ok_iff, count]
    have counted :
        ¬ (numberAt encoded 6 2 = 0 ∨ numberAt encoded 6 2 > videoSequenceMaxSamples) := by
      have := form.nonempty
      have := form.bounded
      unfold videoSequenceMaxSamples
      omega
    refine ⟨(), form.magic, (), by rw [form.codec]; rfl, (), counted, (),
      by rw [form.reserved]; rfl, _, product, _, total, (), Nat.le_of_eq size.symm, (),
      Nat.le_of_eq size, _, read, ?_, form.samples, rfl⟩
    rw [samplesAt_length]
    exact grid

end Acceptance

section Encoding
variable {bytes : List UInt8} {offset : Nat}

theorem finds_u8 {value : UInt8} :
    Finds bytes offset [value] ↔
      offset + 1 ≤ bytes.length ∧ value = .ofNat (numberAt bytes offset 1) := by
  rw [finds_byte]
  constructor
  · intro found
    obtain ⟨inside, same⟩ := List.getElem?_eq_some_iff.mp found
    refine ⟨inside, ?_⟩
    simp [numberAt, field_head inside, field_zero, fromLittleEndian, same]
  · rintro ⟨inside, rfl⟩
    rw [List.getElem?_eq_getElem inside]
    simp [numberAt, field_head inside, field_zero, fromLittleEndian]

theorem finds_u16 {value : UInt16} :
    Finds bytes offset (littleEndian 2 value.toNat) ↔
      offset + 2 ≤ bytes.length ∧ value = .ofNat (numberAt bytes offset 2) := by
  rw [finds_littleEndian (by decide) value.toNat_lt]
  refine and_congr_right fun inside => ?_
  have bound := numberAt_bound _ _ _ inside
  rw [← UInt16.toNat_inj, UInt16.toNat_ofNat']
  omega

theorem finds_u32 {value : UInt32} :
    Finds bytes offset (littleEndian 4 value.toNat) ↔
      offset + 4 ≤ bytes.length ∧ value = .ofNat (numberAt bytes offset 4) := by
  rw [finds_littleEndian (by decide) value.toNat_lt]
  refine and_congr_right fun inside => ?_
  have bound := numberAt_bound _ _ _ inside
  rw [← UInt32.toNat_inj, UInt32.toNat_ofNat']
  omega

theorem finds_u64 {value : UInt64} :
    Finds bytes offset (littleEndian 8 value.toNat) ↔
      offset + 8 ≤ bytes.length ∧ value = .ofNat (numberAt bytes offset 8) := by
  rw [finds_littleEndian (by decide) value.toNat_lt]
  refine and_congr_right fun inside => ?_
  have bound := numberAt_bound _ _ _ inside
  rw [← UInt64.toNat_inj, UInt64.toNat_ofNat']
  omega

theorem encodeSample_length (sample : VideoSequenceSample) :
    (encodeSample sample).length = sampleBytes := by
  simp [encodeSample, sampleBytes]

theorem finds_sample {sample : VideoSequenceSample} :
    Finds bytes offset (encodeSample sample) ↔
      offset + sampleBytes ≤ bytes.length ∧ sample = sampleAt bytes offset := by
  have signed (value : Int8) (byte : UInt8) : value.toUInt8 = byte ↔ value = byte.toInt8 := by
    constructor
    · rintro rfl
      exact value.toInt8_toUInt8.symm
    · rintro rfl
      exact byte.toUInt8_toInt8
  unfold encodeSample sampleBytes
  simp only [finds_append, finds_u8, finds_u16, finds_u64, List.length_append, littleEndian_length,
    List.length_singleton, signed]
  cases sample
  simp only [sampleAt, VideoSequenceSample.mk.injEq]
  constructor
  · rintro ⟨⟨⟨⟨⟨⟨⟨-, a⟩, -, b⟩, -, c⟩, -, d⟩, -, e⟩, -, f⟩, inside, g⟩
    exact ⟨inside, a, b, c, d, e, f, g⟩
  · rintro ⟨inside, a, b, c, d, e, f, g⟩
    exact ⟨⟨⟨⟨⟨⟨⟨by omega, a⟩, by omega, b⟩, by omega, c⟩, by omega, d⟩, by omega, e⟩, by omega, f⟩,
      by omega, g⟩

theorem encodeSamples_length (samples : List VideoSequenceSample) :
    (samples.flatMap encodeSample).length = sampleBytes * samples.length := by
  induction samples with
  | nil => rfl
  | cons sample samples ih =>
    rw [List.flatMap_cons, List.length_append, encodeSample_length, ih, List.length_cons,
      Nat.mul_succ, Nat.add_comm]

theorem finds_samples {samples : List VideoSequenceSample}
    (inside : offset + sampleBytes * samples.length ≤ bytes.length) :
    Finds bytes offset (samples.flatMap encodeSample) ↔
      samples = samplesAt bytes offset samples.length := by
  induction samples generalizing offset with
  | nil => simp [Finds, samplesAt]
  | cons sample samples ih =>
    rw [List.length_cons, Nat.mul_succ] at inside
    have here : offset + sampleBytes ≤ bytes.length := by omega
    rw [List.flatMap_cons, finds_append, finds_sample, encodeSample_length, ih (by omega),
      List.length_cons, samplesAt_succ, List.cons.injEq]
    simp only [here, true_and]

variable {encoded : List UInt8} {fingerprint : VideoSequenceFingerprint}

theorem encode_eq_ok :
    fingerprint.encode = .ok encoded ↔
      validateGrid fingerprint.durationMs fingerprint.intervalMs fingerprint.samples.length =
          .ok () ∧
        validateSamples fingerprint.samples = .ok () ∧
        encoded = encodeHeader fingerprint.durationMs fingerprint.intervalMs
          fingerprint.samples.length ++ fingerprint.samples.flatMap encodeSample := by
  unfold VideoSequenceFingerprint.encode
  simp only [bind_ok, pure_ok, require_ok]
  constructor
  · rintro ⟨_, -, _, grid, _, valid, rfl⟩
    exact ⟨grid, valid, rfl⟩
  · rintro ⟨grid, valid, rfl⟩
    exact ⟨(), by cases fingerprint.version; trivial, (), grid, (), valid, rfl⟩

theorem encodeHeader_length (durationMs : UInt64) (intervalMs : UInt32) (count : Nat) :
    (encodeHeader durationMs intervalMs count).length = headerBytes := by
  simp [encodeHeader, videoSequenceMagic, headerBytes]

/-- A grid that is valid has between one and 2048 samples. -/
theorem validateGrid_count {durationMs : UInt64} {intervalMs : UInt32} {count : Nat}
    (valid : validateGrid durationMs intervalMs count = .ok ()) :
    1 ≤ count ∧ count ≤ 2048 := by
  unfold validateGrid at valid
  simp only [bind_ok, require_ok] at valid
  obtain ⟨_, -, _, -, _, -, _, counted, -⟩ := valid
  unfold videoSequenceMaxSamples at counted
  omega

theorem finds_header {durationMs : UInt64} {intervalMs : UInt32} {count : Nat}
    (bounded : count ≤ 2048) (large : 24 ≤ bytes.length) :
    Finds bytes 0 (encodeHeader durationMs intervalMs count) ↔
      field bytes 0 4 = videoSequenceMagic ∧ numberAt bytes 4 2 = 1 ∧ numberAt bytes 6 2 = count ∧
        durationMs = .ofNat (numberAt bytes 8 8) ∧ intervalMs = .ofNat (numberAt bytes 16 4) ∧
        numberAt bytes 20 4 = 0 := by
  have magic : Finds bytes 0 videoSequenceMagic ↔ field bytes 0 4 = videoSequenceMagic := by
    constructor
    · intro found
      exact found.field_eq
    · intro same
      rw [← same]
      exact field_finds (by omega)
  have codec : Finds bytes 4 (littleEndian 2 videoSequenceCodecV1.toNat) ↔
      numberAt bytes 4 2 = 1 := finds_number (by decide) (by decide) (by omega)
  have counted : Finds bytes 6 (littleEndian 2 (UInt16.ofNat count).toNat) ↔
      numberAt bytes 6 2 = count := by
    have value : (UInt16.ofNat count).toNat = count := by rw [UInt16.toNat_ofNat']; omega
    rw [value]
    exact finds_number (by decide) (by omega) (by omega)
  have reserved : Finds bytes 20 (littleEndian 4 0) ↔ numberAt bytes 20 4 = 0 :=
    finds_number (by decide) (by decide) (by omega)
  have inside8 : 8 + 8 ≤ bytes.length := by omega
  have inside16 : 16 + 4 ≤ bytes.length := by omega
  have size : videoSequenceMagic.length = 4 := rfl
  unfold encodeHeader
  simp only [finds_append, List.length_append, littleEndian_length, size, Nat.reduceAdd, magic,
    codec, counted, reserved, finds_u32, finds_u64, inside8, inside16, true_and, and_assoc]

theorem encode_ok_iff :
    fingerprint.encode = .ok encoded ↔
      WellFormed encoded ∧ fingerprint = fingerprintAt encoded := by
  rw [encode_eq_ok, eq_iff_finds, List.length_append, encodeHeader_length, encodeSamples_length,
    finds_append, encodeHeader_length]
  constructor
  · rintro ⟨grid, valid, size, header, body⟩
    obtain ⟨nonempty, bounded⟩ := validateGrid_count grid
    have large : 24 ≤ encoded.length := by unfold headerBytes at size; omega
    obtain ⟨magic, codec, counted, duration, interval, reserved⟩ :=
      (finds_header bounded large).mp header
    have inside : 0 + headerBytes + sampleBytes * fingerprint.samples.length ≤ encoded.length := by
      omega
    have samples := (finds_samples inside).mp body
    have same : fingerprint = fingerprintAt encoded := by
      obtain ⟨version, durationMs, intervalMs, held⟩ := fingerprint
      cases version
      simp only at samples duration interval counted
      rw [← counted, Nat.zero_add] at samples
      rw [fingerprintAt, ← duration, ← interval, ← samples]
    rw [← counted] at nonempty bounded size grid
    rw [same] at grid valid
    exact ⟨⟨magic, codec, nonempty, bounded, reserved, size, grid, valid⟩, same⟩
  · rintro ⟨form, rfl⟩
    have counted : (fingerprintAt encoded).samples.length = numberAt encoded 6 2 :=
      samplesAt_length _ _ _
    have size := form.size
    have large : 24 ≤ encoded.length := by omega
    have inside : 0 + headerBytes + sampleBytes * (fingerprintAt encoded).samples.length ≤
        encoded.length := by
      rw [counted]
      unfold headerBytes sampleBytes
      omega
    rw [counted]
    refine ⟨form.grid, form.samples, size, ?_, ?_⟩
    · exact (finds_header form.bounded large).mpr
        ⟨form.magic, form.codec, rfl, rfl, rfl, form.reserved⟩
    · rw [finds_samples inside, counted, Nat.zero_add]
      rfl

theorem decode_iff_encode :
    VideoSequenceFingerprint.decode encoded = .ok fingerprint ↔
      fingerprint.encode = .ok encoded :=
  decode_ok_iff.trans encode_ok_iff.symm

end Encoding

section Bounds
variable {α β : Type} {encoded : List UInt8}

def InBounds (x : Except Fault α) : Prop := x ≠ .error .outOfBounds

theorem inBounds_bind {x : Except Fault α} {f : α → Except Fault β} (first : InBounds x)
    (next : ∀ a, x = .ok a → InBounds (f a)) : InBounds (x >>= f) := by
  cases x with
  | error fault =>
    intro failed
    cases failed
    exact first rfl
  | ok a => exact next a rfl

theorem inBounds_require {condition : Prop} [Decidable condition] {error : VideoSequenceError} :
    InBounds (require condition (Fault.rejected error)) := by
  intro failed
  cases (require_error.mp failed).2

theorem inBounds_expect {value : Option α} {error : VideoSequenceError} :
    InBounds (expect value (Fault.rejected error)) := by
  cases value <;> exact nofun

theorem inBounds_rejecting {x : Except VideoSequenceError α} : InBounds (rejecting x) := by
  cases x <;> exact nofun

theorem decode_inBounds : InBounds (VideoSequenceFingerprint.decode encoded) := by
  by_cases small : encoded.length ≤ maxEncodedBytes
  case neg =>
    rw [VideoSequenceFingerprint.decode]
    exact inBounds_bind inBounds_require fun _ h => absurd (require_ok.mp h) small
  by_cases large : headerBytes ≤ encoded.length
  case neg =>
    rw [VideoSequenceFingerprint.decode]
    apply inBounds_bind inBounds_require
    intro _ _
    exact inBounds_bind inBounds_require fun _ h => absurd (require_ok.mp h) large
  have fits : encoded.length < 2 ^ 64 := Nat.lt_of_le_of_lt small (by decide)
  rw [decode_eq large small]
  refine inBounds_bind inBounds_require fun _ _ => inBounds_bind inBounds_require fun _ _ =>
    inBounds_bind inBounds_require fun _ counted => inBounds_bind inBounds_require fun _ _ =>
    inBounds_bind inBounds_expect fun samplesLen product =>
    inBounds_bind inBounds_expect fun expectedLen total =>
    inBounds_bind inBounds_require fun _ long => inBounds_bind inBounds_require fun _ _ => ?_
  -- The length check has made room for every declared sample.
  have bounded := require_ok.mp counted
  obtain ⟨product', total'⟩ := expectedLen_eq (UInt16.ofNat (numberAt encoded 6 2)).toNat
    (by omega)
  cases (expect_ok.mp product).symm.trans product'
  cases (expect_ok.mp total).symm.trans total'
  rw [readSamples_inside _ fits _ (require_ok.mp long)]
  exact inBounds_rejecting

end Bounds

/-- Encoding and decoding are inverse to each other, on exactly the well-formed
    byte strings, and decoding stays inside the bytes it is given. -/
theorem codec_is_exact :
    (∀ durationMs intervalMs samples fingerprint,
      VideoSequenceFingerprint.new durationMs intervalMs samples = .ok fingerprint →
        ∃ encoded, fingerprint.encode = .ok encoded ∧
          VideoSequenceFingerprint.decode encoded = .ok fingerprint) ∧
    (∀ encoded fingerprint, VideoSequenceFingerprint.decode encoded = .ok fingerprint →
      fingerprint.encode = .ok encoded) ∧
    (∀ encoded, (∃ fingerprint, VideoSequenceFingerprint.decode encoded = .ok fingerprint) ↔
      WellFormed encoded) ∧
    (∀ encoded, VideoSequenceFingerprint.decode encoded ≠ .error .outOfBounds) := by
  refine ⟨?_, fun _ _ => decode_iff_encode.mp, fun encoded => ?_, fun _ => decode_inBounds⟩
  · intro durationMs intervalMs samples fingerprint built
    obtain ⟨grid, valid, rfl⟩ := new_ok_iff.mp built
    have encodes : (⟨.videoSequenceV1, durationMs, intervalMs, samples⟩ :
        VideoSequenceFingerprint).encode = .ok _ := encode_eq_ok.mpr ⟨grid, valid, rfl⟩
    exact ⟨_, encodes, decode_iff_encode.mpr encodes⟩
  · constructor
    · rintro ⟨fingerprint, decoded⟩
      exact (decode_ok_iff.mp decoded).1
    · intro form
      exact ⟨_, decode_ok_iff.mpr ⟨form, rfl⟩⟩

section GoldenVector

def goldenSample : VideoSequenceSample :=
  ⟨0x0102030405060708, 0xfefdfcfbfaf9f8f7, 120, -4, 8, 8000, 0⟩

def goldenBytes : List UInt8 :=
  [0x53, 0x51, 0x56, 0x53, 0x01, 0x00, 0x01, 0x00, 0xf4, 0x01, 0x00, 0x00, 0x00, 0x00, 0x00, 0x00,
    0xf4, 0x01, 0x00, 0x00, 0x00, 0x00, 0x00, 0x00, 0x08, 0x07, 0x06, 0x05, 0x04, 0x03, 0x02, 0x01,
    0xf7, 0xf8, 0xf9, 0xfa, 0xfb, 0xfc, 0xfd, 0xfe, 0x78, 0xfc, 0x08, 0x40, 0x1f, 0x00, 0x00]

theorem golden_vector_is_exact :
    VideoSequenceFingerprint.decode goldenBytes =
        .ok ⟨.videoSequenceV1, 500, 500, [goldenSample]⟩ ∧
      VideoSequenceFingerprint.encode ⟨.videoSequenceV1, 500, 500, [goldenSample]⟩ =
        .ok goldenBytes ∧
      WellFormed goldenBytes := by
  have decoded : VideoSequenceFingerprint.decode goldenBytes =
      .ok ⟨.videoSequenceV1, 500, 500, [goldenSample]⟩ := by decide +kernel
  exact ⟨decoded, codec_is_exact.2.1 _ _ decoded, (codec_is_exact.2.2.1 _).mp ⟨_, decoded⟩⟩

end GoldenVector

end Sooqa.Media
