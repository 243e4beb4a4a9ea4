import Sooqa.Library.Media
import Sooqa.Media.SamplingGrid
import Sooqa.Media.SearchTokens

/-!
A fingerprint as persistence takes it: the version, the encoded bytes and the
search tokens, with the bounds they have to keep. What the media crate makes of
a valid fingerprint keeps them all.
-/
namespace Sooqa.Media

def videoSequenceV1 : String := "video_sequence_v1"

def FingerprintVersion.asStr : FingerprintVersion → String
  | .videoSequenceV1 => Media.videoSequenceV1

end Sooqa.Media

namespace Sooqa.VideoIdentity
open Foundation Media

section Input

def maxVideoFingerprintVersionBytes : Nat := 64
def maxVideoFingerprintDataBytes : Nat := 64 * 1024
def maxVideoFingerprintTokens : Nat := 1024

inductive VideoFingerprintInputError where
  | emptyVersion
  | versionTooLong (max : Nat)
  | emptyData
  | dataTooLarge (max : Nat)
  | tooManyTokens (max : Nat)
  | invalidSearchTokens (reason : String)
  deriving DecidableEq, Repr

structure VideoFingerprintInput where
  version : String
  data : List UInt8
  searchTokens : List Int
  deriving DecidableEq

/-- Some pair of neighbors does not increase. -/
def stalls : List Int → Bool
  | first :: second :: rest => decide (second ≤ first) || stalls (second :: rest)
  | _ => false

namespace VideoFingerprintInput

def validate (input : VideoFingerprintInput) : Except VideoFingerprintInputError Unit := do
  require (trimEnds isWhitespace input.version.toList ≠ []) .emptyVersion
  require (input.version.utf8ByteSize ≤ maxVideoFingerprintVersionBytes)
    (.versionTooLong maxVideoFingerprintVersionBytes)
  require (input.data ≠ []) .emptyData
  require (input.data.length ≤ maxVideoFingerprintDataBytes)
    (.dataTooLarge maxVideoFingerprintDataBytes)
  require (input.searchTokens.length ≤ maxVideoFingerprintTokens)
    (.tooManyTokens maxVideoFingerprintTokens)
  require (¬ input.searchTokens.any (fun token => decide (token ≤ 0)) = true)
    (.invalidSearchTokens "tokens must be positive")
  require (¬ stalls input.searchTokens = true)
    (.invalidSearchTokens "tokens must be sorted and deduplicated")

def tryNew (version : String) (data : List UInt8) (searchTokens : List Int) :
    Except VideoFingerprintInputError VideoFingerprintInput := do
  let input : VideoFingerprintInput := ⟨version, data, searchTokens⟩
  input.validate
  return input

/-- What the identity transactions read of a fingerprint. -/
def summary (input : VideoFingerprintInput) : Library.VideoFingerprintInput :=
  ⟨input.version, decide (input.validate = .ok ())⟩

end VideoFingerprintInput

end Input

section Bounds
variable {tokens : List Int} {input : VideoFingerprintInput}

theorem not_stalls (strict : tokens.Pairwise (· < ·)) : ¬ stalls tokens = true := by
  induction tokens with
  | nil => simp [stalls]
  | cons first tokens ih =>
    obtain ⟨above, strict⟩ := List.pairwise_cons.mp strict
    cases tokens with
    | nil => simp [stalls]
    | cons second rest =>
      have := above second List.mem_cons_self
      have later := ih strict
      simp only [stalls, Bool.or_eq_true, decide_eq_true_eq, not_or]
      exact ⟨by omega, later⟩

theorem summary_valid :
    Library.validateVideoFingerprint input.summary = .ok () ↔ input.validate = .ok () := by
  rw [Library.validateVideoFingerprint, require_ok, VideoFingerprintInput.summary,
    decide_eq_true_eq]

/-- A fingerprint that can be encoded takes between one and 64 KiB. -/
theorem encoded_length {fingerprint : VideoSequenceFingerprint} {data : List UInt8}
    (encodes : fingerprint.encode = .ok data) :
    data ≠ [] ∧ data.length ≤ maxVideoFingerprintDataBytes := by
  obtain ⟨grid, -, rfl⟩ := encode_eq_ok.mp encodes
  have count := (validateGrid_count grid).2
  have length : (encodeHeader fingerprint.durationMs fingerprint.intervalMs
      fingerprint.samples.length ++ fingerprint.samples.flatMap encodeSample).length =
      24 + 23 * fingerprint.samples.length := by
    rw [List.length_append, encodeHeader_length, encodeSamples_length]
    rfl
  constructor
  · intro empty
    rw [empty, List.length_nil] at length
    omega
  · rw [length]
    unfold maxVideoFingerprintDataBytes
    omega

theorem tryNew_ok {fingerprint : VideoSequenceFingerprint} {data : List UInt8}
    (encodes : fingerprint.encode = .ok data) :
    VideoFingerprintInput.tryNew fingerprint.version.asStr data (deriveSearchTokens fingerprint) =
      .ok ⟨fingerprint.version.asStr, data, deriveSearchTokens fingerprint⟩ := by
  obtain ⟨filled, small⟩ := encoded_length encodes
  have version : fingerprint.version.asStr = videoSequenceV1 := by
    cases fingerprint.version
    rfl
  have named : trimEnds isWhitespace videoSequenceV1.toList ≠ [] := by decide
  have short : videoSequenceV1.utf8ByteSize ≤ maxVideoFingerprintVersionBytes := by decide
  have few := collectedTokens_length fingerprint.samples
  have strict := collectedTokens_strict fingerprint.samples
  have positive : ¬ (collectedTokens fingerprint.samples).any
      (fun token => decide (token ≤ 0)) = true := by
    rw [Bool.not_eq_true, List.any_eq_false]
    intro token member
    have := (mem_collectedTokens.mp member).positive
    simp only [decide_eq_true_eq]
    omega
  rw [deriveSearchTokens_eq, version]
  unfold VideoFingerprintInput.tryNew VideoFingerprintInput.validate
  simp only [bind_ok, require_ok, pure_ok]
  exact ⟨(), ⟨(), named, (), short, (), filled, (), small, (), few, (), positive,
    not_stalls strict⟩, trivial⟩

end Bounds

/-- The search tokens of a fingerprint increase strictly, are positive and not
    too many, so that persistence takes them with the encoded bytes; they are the
    bands of the samples that rank highest, each of them a token of its own, and
    none of them is cut off. -/
theorem search_tokens_are_exact (fingerprint : VideoSequenceFingerprint) (data : List UInt8)
    (encodes : fingerprint.encode = .ok data) :
    let tokens := deriveSearchTokens fingerprint
    tokens.Pairwise (· < ·) ∧ tokens.length ≤ 1024 ∧ (∀ token ∈ tokens, 0 < token) ∧
      VideoFingerprintInput.tryNew fingerprint.version.asStr data tokens =
        .ok ⟨fingerprint.version.asStr, data, tokens⟩ ∧
      (∀ token, token ∈ tokens ↔ IsSearchToken fingerprint.samples token) ∧
      tokens = collectedTokens fingerprint.samples ∧
      ∀ hashKind band value hashKind' band' value' : Nat,
        hashKind < 2 ^ 8 ∧ band < 2 ^ 8 ∧ value < 2 ^ 16 →
        hashKind' < 2 ^ 8 ∧ band' < 2 ^ 8 ∧ value' < 2 ^ 16 →
        searchToken hashKind band value = searchToken hashKind' band' value' →
        hashKind = hashKind' ∧ band = band' ∧ value = value' := by
  intro tokens
  have all : tokens = collectedTokens fingerprint.samples := deriveSearchTokens_eq fingerprint
  have members : ∀ token, token ∈ tokens ↔ IsSearchToken fingerprint.samples token := by
    intro token
    rw [all]
    exact mem_collectedTokens
  refine ⟨?_, ?_, ?_, tryNew_ok encodes, members, all, ?_⟩
  · rw [all]
    exact collectedTokens_strict _
  · rw [all]
    exact collectedTokens_length _
  · intro token member
    exact ((members token).mp member).positive
  · intro hashKind band value hashKind' band' value' small small' same
    exact searchToken_injective small small' same

theorem search_tokens_are_exact_golden :
    (deriveSearchTokens ⟨.videoSequenceV1, 500, 500, [goldenSample]⟩).length ≤ 1024 := by
  have encodes : VideoSequenceFingerprint.encode ⟨.videoSequenceV1, 500, 500, [goldenSample]⟩ =
      .ok goldenBytes := by decide +kernel
  exact (search_tokens_are_exact _ goldenBytes encodes).2.1

end Sooqa.VideoIdentity
