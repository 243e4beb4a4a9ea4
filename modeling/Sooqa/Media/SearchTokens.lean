import Sooqa.Foundation.Ranking
import Sooqa.Media.SequenceAlignment

/-!
The search tokens of a fingerprint: the four bands of both hashes of the samples
that tell most, packed into words and sorted. The ranking of the samples and the
set of the tokens are stated again without the lists they are computed with.
-/
namespace Sooqa.Media
open Foundation

section Model

def videoSequenceMaxAnchors : Nat := 128
def videoSequenceMaxTokens : Nat := 1024

structure Anchor where
  index : Nat
  rank : Nat
  deriving DecidableEq

def anchorRank (sample : VideoSequenceSample) : Nat :=
  saturatingAdd (saturatingMul sample.informationBps.toNat 3) sample.transitionBps.toNat

/-- The order of anchors: the higher rank first, the earlier sample at a tie. -/
def Anchor.before (left right : Anchor) : Prop :=
  right.rank < left.rank ∨ right.rank = left.rank ∧ left.index ≤ right.index

instance : DecidableRel Anchor.before := fun _ _ => inferInstanceAs (Decidable (_ ∨ _))

def informativeAnchors (samples : List VideoSequenceSample) : List Anchor :=
  (samples.zipIdx.filter
    (fun entry => decide (videoSequenceInfoThresholdBps ≤ entry.1.informationBps.toNat))).map
      fun entry => ⟨entry.2, anchorRank entry.1⟩

def searchAnchors (samples : List VideoSequenceSample) : List Anchor :=
  (((informativeAnchors samples).insertionSort Anchor.before).take
    videoSequenceMaxAnchors).insertionSort (fun left right => left.index ≤ right.index)

def searchToken (hashKind band value : Nat) : Int :=
  ((1 <<< 56 ||| hashKind <<< 48 ||| band <<< 40 ||| value : Nat) : Int)

def hashTokens (hashKind : Nat) (hash : UInt64) : List Int :=
  (List.range 4).map fun band =>
    searchToken hashKind band (hash.toNat >>> (band * 16) &&& 0xffff)

def anchorTokens (samples : List VideoSequenceSample) (anchor : Anchor) : List Int :=
  match samples[anchor.index]? with
  | some sample => hashTokens 1 sample.phash ++ hashTokens 2 sample.dhash
  | none => []

/-- The tokens before the last truncation. -/
def collectedTokens (samples : List VideoSequenceSample) : List Int :=
  Ranking.dedup
    (((searchAnchors samples).flatMap (anchorTokens samples)).insertionSort (· ≤ ·))

def deriveSearchTokens (fingerprint : VideoSequenceFingerprint) : List Int :=
  (collectedTokens fingerprint.samples).take videoSequenceMaxTokens

end Model

section Packing
variable {hashKind band value : Nat}

/-- Fields that are packed into one word stand side by side. -/
theorem packed_fields (version : Nat) (kind : hashKind < 2 ^ 8) (byte : band < 2 ^ 8)
    (word : value < 2 ^ 16) :
    version <<< 56 ||| hashKind <<< 48 ||| band <<< 40 ||| value =
      version * 2 ^ 56 + hashKind * 2 ^ 48 + band * 2 ^ 40 + value := by
  have low : band <<< 40 + value = band <<< 40 ||| value :=
    Nat.shiftLeft_add_eq_or_of_lt (by omega) band
  have middle : hashKind <<< 48 + (band <<< 40 + value) =
      hashKind <<< 48 ||| (band <<< 40 + value) := by
    apply Nat.shiftLeft_add_eq_or_of_lt
    rw [Nat.shiftLeft_eq]
    omega
  have high : version <<< 56 + (hashKind <<< 48 + (band <<< 40 + value)) =
      version <<< 56 ||| (hashKind <<< 48 + (band <<< 40 + value)) := by
    apply Nat.shiftLeft_add_eq_or_of_lt
    rw [Nat.shiftLeft_eq, Nat.shiftLeft_eq]
    omega
  rw [Nat.or_assoc, Nat.or_assoc, ← low, ← middle, ← high]
  simp only [Nat.shiftLeft_eq]
  omega

theorem searchToken_eq (kind : hashKind < 2 ^ 8) (byte : band < 2 ^ 8) (word : value < 2 ^ 16) :
    searchToken hashKind band value =
      ((1 * 2 ^ 56 + hashKind * 2 ^ 48 + band * 2 ^ 40 + value : Nat) : Int) := by
  rw [searchToken, packed_fields 1 kind byte word]

/-- Distinct fields make distinct tokens. -/
theorem searchToken_injective {hashKind' band' value' : Nat}
    (small : hashKind < 2 ^ 8 ∧ band < 2 ^ 8 ∧ value < 2 ^ 16)
    (small' : hashKind' < 2 ^ 8 ∧ band' < 2 ^ 8 ∧ value' < 2 ^ 16)
    (same : searchToken hashKind band value = searchToken hashKind' band' value') :
    hashKind = hashKind' ∧ band = band' ∧ value = value' := by
  rw [searchToken_eq small.1 small.2.1 small.2.2, searchToken_eq small'.1 small'.2.1 small'.2.2]
    at same
  omega

/-- The 16 bits of a hash that make a band. -/
def bandValue (hash : UInt64) (band : Nat) : Nat := hash.toNat / 2 ^ (16 * band) % 2 ^ 16

theorem bandValue_lt (hash : UInt64) (band : Nat) : bandValue hash band < 2 ^ 16 :=
  Nat.mod_lt _ (by decide)

theorem bandValue_eq (hash : UInt64) (band : Nat) :
    hash.toNat >>> (band * 16) &&& 0xffff = bandValue hash band := by
  rw [Nat.shiftRight_eq_div_pow, Nat.mul_comm]
  exact Nat.and_two_pow_sub_one_eq_mod _ 16

theorem mem_hashTokens {hash : UInt64} {token : Int} :
    token ∈ hashTokens hashKind hash ↔
      ∃ band < 4, token = searchToken hashKind band (bandValue hash band) := by
  simp only [hashTokens, List.mem_map, List.mem_range, bandValue_eq, eq_comm]

end Packing

section Anchors
variable {samples : List VideoSequenceSample} {index : Nat} {sample : VideoSequenceSample}
  {anchor : Anchor}

/-- What a sample tells, three times over, and how much it moves. -/
def searchScore (sample : VideoSequenceSample) : Nat :=
  3 * sample.informationBps.toNat + sample.transitionBps.toNat

/-- An informative sample comes before another one. -/
def outranks (samples : List VideoSequenceSample) (earlier later : Nat) : Bool :=
  match samples[earlier]?, samples[later]? with
  | some left, some right =>
    decide (videoSequenceInfoThresholdBps ≤ left.informationBps.toNat) &&
      decide (searchScore right < searchScore left ∨
        searchScore right = searchScore left ∧ earlier < later)
  | _, _ => false

/-- A sample is informative and fewer than 128 informative ones come before it. -/
structure IsAnchor (samples : List VideoSequenceSample) (index : Nat)
    (sample : VideoSequenceSample) : Prop where
  here : samples[index]? = some sample
  informative : videoSequenceInfoThresholdBps ≤ sample.informationBps.toNat
  highest : ((List.range samples.length).filter (outranks samples · index)).length <
    videoSequenceMaxAnchors

theorem anchorRank_eq (sample : VideoSequenceSample) : anchorRank sample = searchScore sample := by
  have information := sample.informationBps.toNat_lt
  have transition := sample.transitionBps.toNat_lt
  unfold anchorRank searchScore saturatingAdd saturatingMul
  omega

theorem mem_informativeAnchors :
    anchor ∈ informativeAnchors samples ↔
      ∃ sample, samples[anchor.index]? = some sample ∧
        videoSequenceInfoThresholdBps ≤ sample.informationBps.toNat ∧
        anchor.rank = searchScore sample := by
  simp only [informativeAnchors, List.mem_map, List.mem_filter, decide_eq_true_eq,
    anchorRank_eq, Prod.exists]
  constructor
  · rintro ⟨sample, index, ⟨entry, informative⟩, rfl⟩
    exact ⟨sample, List.mem_zipIdx_iff_getElem?.mp entry, informative, rfl⟩
  · rintro ⟨sample, here, informative, rank⟩
    obtain ⟨index, _⟩ := anchor
    cases rank
    exact ⟨sample, index, ⟨List.mem_zipIdx_iff_getElem?.mpr here, informative⟩, rfl⟩

theorem informativeAnchors_index (samples : List VideoSequenceSample) :
    ((informativeAnchors samples).map (·.index)).Nodup := by
  have indices : (samples.zipIdx.map (·.2)).Nodup := by
    rw [List.zipIdx_map_snd]
    exact List.nodup_range'
  have kept := (List.filter_sublist (l := samples.zipIdx) (p := fun entry =>
    decide (videoSequenceInfoThresholdBps ≤ entry.1.informationBps.toNat))).map (·.2)
  rw [informativeAnchors, List.map_map]
  exact indices.sublist kept

theorem informativeAnchors_nodup (samples : List VideoSequenceSample) :
    (informativeAnchors samples).Nodup :=
  (informativeAnchors_index samples).of_map

theorem informativeAnchors_strict (samples : List VideoSequenceSample) :
    Ranking.Strict Anchor.before (informativeAnchors samples) := by
  intro x _ y _ first second
  obtain ⟨index, rank⟩ := x
  obtain ⟨index', rank'⟩ := y
  simp only [Anchor.before, Anchor.mk.injEq] at first second ⊢
  omega

instance : Std.Total Anchor.before where
  total left right := by
    unfold Anchor.before
    omega

instance : IsTrans Anchor Anchor.before where
  trans left middle right first second := by
    unfold Anchor.before at *
    omega

/-- The anchors ahead of one are the samples that outrank it. -/
theorem ahead_eq (here : samples[index]? = some sample) :
    Ranking.ahead Anchor.before (informativeAnchors samples) ⟨index, searchScore sample⟩ =
      ((List.range samples.length).filter (outranks samples · index)).length := by
  rw [Ranking.ahead, ← List.length_map (·.index)]
  apply List.Perm.length_eq
  have distinct : (((informativeAnchors samples).filter fun other =>
      decide (other.before ⟨index, searchScore sample⟩ ∧
        other ≠ ⟨index, searchScore sample⟩)).map (·.index)).Nodup :=
    (informativeAnchors_index samples).sublist (List.filter_sublist.map _)
  rw [List.perm_ext_iff_of_nodup distinct (List.nodup_range.filter _)]
  intro earlier
  simp only [List.mem_map, List.mem_filter, mem_informativeAnchors, decide_eq_true_eq,
    List.mem_range, outranks, here]
  simp only [Anchor.before]
  constructor
  · rintro ⟨⟨earlier, rank⟩, ⟨⟨left, found, informative, rfl⟩, order, different⟩, rfl⟩
    simp only at found informative order different ⊢
    have inside : earlier < samples.length := (List.getElem?_eq_some_iff.mp found).1
    rw [found]
    simp only [Bool.and_eq_true, decide_eq_true_eq]
    refine ⟨inside, informative, ?_⟩
    rcases order with higher | ⟨tie, le⟩
    · exact Or.inl higher
    · refine Or.inr ⟨tie, ?_⟩
      rcases Nat.eq_or_lt_of_le le with rfl | before
      · rw [tie] at different
        exact absurd rfl different
      · exact before
  · rintro ⟨inside, ahead⟩
    cases found : samples[earlier]? with
    | none => rw [found] at ahead; cases ahead
    | some left =>
      rw [found] at ahead
      simp only [Bool.and_eq_true, decide_eq_true_eq] at ahead
      obtain ⟨informative, order⟩ := ahead
      refine ⟨⟨earlier, searchScore left⟩, ⟨⟨left, found, informative, rfl⟩, ?_, ?_⟩, rfl⟩
      · rcases order with higher | ⟨tie, before⟩
        · exact Or.inl higher
        · exact Or.inr ⟨tie, Nat.le_of_lt before⟩
      · intro same
        simp only [Anchor.mk.injEq] at same
        omega

theorem mem_searchAnchors :
    anchor ∈ searchAnchors samples ↔
      ∃ sample, IsAnchor samples anchor.index sample ∧ anchor.rank = searchScore sample := by
  rw [searchAnchors, List.mem_insertionSort, Ranking.mem_take_insertionSort
    (informativeAnchors_nodup samples) (informativeAnchors_strict samples), mem_informativeAnchors]
  constructor
  · rintro ⟨⟨sample, here, informative, rank⟩, few⟩
    obtain ⟨index, score⟩ := anchor
    simp only at rank
    subst rank
    rw [ahead_eq here] at few
    exact ⟨sample, ⟨here, informative, few⟩, rfl⟩
  · rintro ⟨sample, is, rank⟩
    obtain ⟨index, score⟩ := anchor
    simp only at rank
    subst rank
    refine ⟨⟨sample, is.here, is.informative, rfl⟩, ?_⟩
    rw [ahead_eq is.here]
    exact is.highest

theorem searchAnchors_length (samples : List VideoSequenceSample) :
    (searchAnchors samples).length ≤ videoSequenceMaxAnchors := by
  rw [searchAnchors, List.length_insertionSort]
  exact List.length_take_le _ _

end Anchors

section Tokens
variable {samples : List VideoSequenceSample} {token : Int}

/-- A band of a hash of a sample that is an anchor. -/
def IsSearchToken (samples : List VideoSequenceSample) (token : Int) : Prop :=
  ∃ index sample, IsAnchor samples index sample ∧ ∃ band < 4,
    token = searchToken 1 band (bandValue sample.phash band) ∨
      token = searchToken 2 band (bandValue sample.dhash band)

theorem anchorTokens_length (samples : List VideoSequenceSample) (anchor : Anchor) :
    (anchorTokens samples anchor).length ≤ 8 := by
  unfold anchorTokens
  split
  · simp [hashTokens]
  · simp

/-- No token falls to the last truncation. -/
theorem collectedTokens_length (samples : List VideoSequenceSample) :
    (collectedTokens samples).length ≤ videoSequenceMaxTokens := by
  have anchors := searchAnchors_length samples
  have total : ∀ anchors : List Anchor,
      (anchors.flatMap (anchorTokens samples)).length ≤ 8 * anchors.length := by
    intro anchors
    induction anchors with
    | nil => simp
    | cons anchor anchors ih =>
      have := anchorTokens_length samples anchor
      rw [List.flatMap_cons, List.length_append, List.length_cons]
      omega
  have merged := Ranking.dedup_length_le
    (((searchAnchors samples).flatMap (anchorTokens samples)).insertionSort (· ≤ ·))
  have all := total (searchAnchors samples)
  rw [List.length_insertionSort] at merged
  rw [collectedTokens]
  unfold videoSequenceMaxTokens
  unfold videoSequenceMaxAnchors at anchors
  omega

theorem mem_collectedTokens : token ∈ collectedTokens samples ↔ IsSearchToken samples token := by
  rw [collectedTokens, Ranking.mem_dedup, List.mem_insertionSort, List.mem_flatMap]
  constructor
  · rintro ⟨anchor, member, found⟩
    obtain ⟨sample, is, -⟩ := mem_searchAnchors.mp member
    rw [anchorTokens, is.here] at found
    simp only [List.mem_append, mem_hashTokens] at found
    rcases found with ⟨band, four, rfl⟩ | ⟨band, four, rfl⟩
    · exact ⟨anchor.index, sample, is, band, four, Or.inl rfl⟩
    · exact ⟨anchor.index, sample, is, band, four, Or.inr rfl⟩
  · rintro ⟨index, sample, is, band, four, made⟩
    refine ⟨⟨index, searchScore sample⟩, mem_searchAnchors.mpr ⟨sample, is, rfl⟩, ?_⟩
    rw [anchorTokens, is.here]
    simp only [List.mem_append, mem_hashTokens]
    rcases made with made | made
    · exact Or.inl ⟨band, four, made⟩
    · exact Or.inr ⟨band, four, made⟩

theorem collectedTokens_strict (samples : List VideoSequenceSample) :
    (collectedTokens samples).Pairwise (· < ·) :=
  Ranking.dedup_strict (List.pairwise_insertionSort _ _)

theorem deriveSearchTokens_eq (fingerprint : VideoSequenceFingerprint) :
    deriveSearchTokens fingerprint = collectedTokens fingerprint.samples :=
  List.take_of_length_le (collectedTokens_length _)

theorem IsSearchToken.positive (is : IsSearchToken samples token) : 0 < token := by
  obtain ⟨_, sample, _, band, four, made⟩ := is
  have bands := fun hash => bandValue_lt hash band
  rcases made with rfl | rfl
  · rw [searchToken_eq (by decide) (by omega) (bands _)]
    omega
  · rw [searchToken_eq (by decide) (by omega) (bands _)]
    omega

end Tokens

end Sooqa.Media
