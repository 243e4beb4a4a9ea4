import Sooqa.Media.SequenceAlignment

/-!
What two samples score: both in either order the same, at most what each of
them scores against itself, and nothing unless both are informative.
-/
namespace Sooqa.Media

section Distances
variable (left right : VideoSequenceSample)

theorem pairDistanceBps_le : pairDistanceBps left right ≤ 10000 := min_le_right _ _

theorem absDiff_comm (a b : Nat) : absDiff a b = absDiff b a := by
  rw [absDiff, absDiff, max_comm, min_comm]

theorem pairDistanceBps_comm : pairDistanceBps left right = pairDistanceBps right left := by
  unfold pairDistanceBps
  rw [UInt64.xor_comm left.phash, UInt64.xor_comm left.dhash, absDiff_comm left.meanLuma.toNat,
    ← Int.natAbs_neg (left.meanChromaU.toInt - right.meanChromaU.toInt), Int.neg_sub,
    ← Int.natAbs_neg (left.meanChromaV.toInt - right.meanChromaV.toInt), Int.neg_sub]

theorem pairDistanceBps_self : pairDistanceBps left left = 0 := by
  have ones : countOnes 0 = 0 := by decide
  unfold pairDistanceBps
  simp only [UInt64.xor_self, ones, absDiff, max_self, min_self, Nat.sub_self, Int.sub_self,
    Int.natAbs_zero, Nat.zero_mul, Nat.zero_div, saturatingMul, saturatingAdd]
  decide

end Distances

section Weights

theorem matchWeightBps_mono {a b : Nat} (le : a ≤ b) : matchWeightBps a ≤ matchWeightBps b := by
  unfold matchWeightBps saturatingMul videoSequenceInfoThresholdBps matchBaseWeightBps
    matchInformationWeightBps matchInformationSpanBps
  split
  · exact Nat.zero_le _
  · rw [if_neg (by omega)]
    omega

theorem matchWeightBps_le {information : Nat} (word : information < 2 ^ 16) :
    matchWeightBps information ≤ 43321 := by
  unfold matchWeightBps saturatingMul videoSequenceInfoThresholdBps matchBaseWeightBps
    matchInformationWeightBps matchInformationSpanBps
  split <;> omega

theorem matchWeightBps_informative {information : Nat} (informative : 1000 ≤ information) :
    4600 ≤ matchWeightBps information := by
  unfold matchWeightBps videoSequenceInfoThresholdBps matchBaseWeightBps
  rw [if_neg (by omega)]
  exact Nat.le_add_right _ _

end Weights

section Scores
variable (left right : VideoSequenceSample)

/-- What a sample scores against itself. -/
def selfScore (sample : VideoSequenceSample) : Int :=
  matchWeightBps sample.informationBps.toNat - 4500

theorem pairScore_comm : pairScore left right = pairScore right left := by
  unfold pairScore
  rw [pairDistanceBps_comm, min_comm]

theorem pairScore_ge : -4500 ≤ pairScore left right := by
  unfold pairScore
  dsimp only
  omega

/-- No partner makes a sample score more than its own information allows. -/
theorem pairScore_le_self : pairScore left right ≤ selfScore left := by
  have weights : matchWeightBps (min left.informationBps.toNat right.informationBps.toNat) ≤
      matchWeightBps left.informationBps.toNat := matchWeightBps_mono (min_le_left _ _)
  have product : saturatingMul (maxDistanceBps - pairDistanceBps left right)
      (matchWeightBps (min left.informationBps.toNat right.informationBps.toNat)) / 10000 ≤
        matchWeightBps (min left.informationBps.toNat right.informationBps.toNat) := by
    apply Nat.div_le_of_le_mul
    apply le_trans (min_le_left _ _)
    exact Nat.mul_le_mul_right _ (Nat.sub_le _ _)
  unfold pairScore selfScore
  simp only
  omega

theorem pairScore_self : pairScore left left = selfScore left := by
  have weight := matchWeightBps_le left.informationBps.toNat_lt
  unfold pairScore selfScore
  simp only [pairDistanceBps_self, min_self, saturatingMul, maxDistanceBps, Nat.sub_zero]
  omega

theorem selfScore_positive {sample : VideoSequenceSample}
    (informative : 1000 ≤ sample.informationBps.toNat) : 100 ≤ selfScore sample := by
  have weight := matchWeightBps_informative informative
  unfold selfScore
  omega

theorem pairScore_le : pairScore left right ≤ 38821 := by
  have bound := pairScore_le_self left right
  have weight := matchWeightBps_le left.informationBps.toNat_lt
  unfold selfScore at bound
  omega

end Scores

end Sooqa.Media
