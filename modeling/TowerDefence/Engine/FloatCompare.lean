import TowerDefence.Model.Binary32

/-!
# Comparison by units in the last place

The patterns of two floats on one side of zero are as far apart as their ordinals, so that
`AreNearlyEqUlps` counts the floats between them.  The pattern of `-0.0f` is the exception: it
counts as not below zero, while its pattern is the least signed integer.
-/

namespace TowerDefence

open Foundations (BinaryFormat)

namespace Binary32

variable {a b : Binary32}

/-! ## Patterns and ordinals -/

section Patterns

theorem infinity_eq : format.infinity = 2139095040 := by decide

theorem magnitude_le (number : a.isNaN = false) : a.magnitude ≤ 2139095040 := by
  rw [isNaN, decide_eq_false_iff_not, infinity_eq] at number
  exact not_lt.mp number

theorem ordinal_mem (number : a.isNaN = false) : a.ordinal ∈ format.ordinals := by
  have bounded := magnitude_le number
  rw [BinaryFormat.ordinals, infinity_eq, ordinal, Set.mem_Icc]
  split
  · omega
  · omega

theorem reinterpretAsInt_eq (a : Binary32) :
    reinterpretAsInt a =
      if a.isNegative then (a.magnitude : Int) - 2 ^ 31 else (a.magnitude : Int) := by
  have size : a.bits.toNat < 2 ^ 32 := a.bits.isLt
  rw [reinterpretAsInt, BitVec.toInt_eq_msb_cond, isNegative, magnitude]
  split
  case isTrue negative =>
    have high := BitVec.le_toNat_of_msb_true negative
    omega
  case isFalse positive =>
    have low := BitVec.toNat_lt_of_msb_false (Bool.eq_false_of_not_eq_true positive)
    omega

/-- A pattern is known from its sign and its magnitude. -/
theorem eq_of_fields (sameSign : a.isNegative = b.isNegative)
    (sameMagnitude : a.magnitude = b.magnitude) : a = b := by
  have same : reinterpretAsInt a = reinterpretAsInt b := by
    rw [reinterpretAsInt_eq, reinterpretAsInt_eq, sameSign, sameMagnitude]
  have sameBits : a.bits = b.bits := BitVec.eq_of_toInt_eq same
  cases a
  cases b
  exact congrArg mk sameBits

theorem eq_negativeZero_iff : a = negativeZero ↔ a.isNegative = true ∧ a.magnitude = 0 := by
  constructor
  · rintro rfl
    exact ⟨by decide, by decide⟩
  · rintro ⟨negative, none⟩
    exact eq_of_fields negative none

/-- A pattern is the ordinal itself, or counts up from the least integer. -/
theorem reinterpretAsInt_of_ne (other : a ≠ negativeZero) :
    reinterpretAsInt a = if a.ordinal < 0 then -2 ^ 31 - a.ordinal else a.ordinal := by
  rw [ne_eq, eq_negativeZero_iff] at other
  rw [reinterpretAsInt_eq, ordinal]
  split
  case isTrue negative =>
    have nonzero : a.magnitude ≠ 0 := fun none => other ⟨negative, none⟩
    rw [if_pos (by omega)]
    omega
  case isFalse => rw [if_neg (by omega)]

/-- Every ordinal is that of a pattern. -/
theorem exists_pattern {ordinal : Int} (member : ordinal ∈ format.ordinals) :
    ∃ a : Binary32, a.isNaN = false ∧ a.ordinal = ordinal := by
  rw [BinaryFormat.ordinals, infinity_eq, Set.mem_Icc] at member
  rcases lt_or_ge ordinal 0 with negative | nonneg
  · refine ⟨⟨BitVec.ofNat 32 (2 ^ 31 + ordinal.natAbs)⟩, ?_, ?_⟩
    · rw [isNaN, magnitude, infinity_eq, BitVec.toNat_ofNat, decide_eq_false_iff_not]
      omega
    · rw [Binary32.ordinal, isNegative, magnitude, BitVec.msb_eq_decide, BitVec.toNat_ofNat,
        if_pos (by rw [decide_eq_true_eq]; omega)]
      omega
  · refine ⟨⟨BitVec.ofNat 32 ordinal.toNat⟩, ?_, ?_⟩
    · rw [isNaN, magnitude, infinity_eq, BitVec.toNat_ofNat, decide_eq_false_iff_not]
      omega
    · rw [Binary32.ordinal, isNegative, magnitude, BitVec.msb_eq_decide, BitVec.toNat_ofNat,
        if_neg (by rw [decide_eq_true_eq]; omega)]
      omega

theorem value_lt_value (numberA : a.isNaN = false) (numberB : b.isNaN = false) :
    a.value < b.value ↔ a.ordinal < b.ordinal :=
  BinaryFormat.value_strictMonoOn.lt_iff_lt (ordinal_mem numberA) (ordinal_mem numberB)

theorem lt_zero_eq (number : a.isNaN = false) : a.lt zero = decide (a.ordinal < 0) := by
  have numberZero : zero.isNaN = false := by decide
  have noOrdinal : zero.ordinal = 0 := by decide
  rw [lt, number, numberZero, Bool.not_false, Bool.true_and, Bool.true_and,
    decide_eq_decide, value_lt_value number numberZero, noOrdinal]

end Patterns

/-! ## The floats in between -/

section Between

/-- The values of floats from one float to another, without the lower of the two. -/
def floatsFromTo (a b : Binary32) : Set (WithBot (WithTop ℚ)) :=
  {value ∈ Set.uIoc a.value b.value | ∃ c : Binary32, c.isNaN = false ∧ c.value = value}

theorem ncard_floatsFromTo (numberA : a.isNaN = false) (numberB : b.isNaN = false) :
    (floatsFromTo a b).ncard = (a.ordinal - b.ordinal).natAbs := by
  have values : floatsFromTo a b =
      format.value '' format.ordinals ∩ Set.uIoc a.value b.value := by
    ext number
    constructor
    · rintro ⟨between, pattern, isNumber, rfl⟩
      exact ⟨⟨pattern.ordinal, ordinal_mem isNumber, rfl⟩, between⟩
    · rintro ⟨⟨ordinal, member, rfl⟩, between⟩
      obtain ⟨pattern, isNumber, rfl⟩ := exists_pattern member
      exact ⟨between, pattern, isNumber, rfl⟩
  rw [values]
  exact BinaryFormat.ncard_values (ordinal_mem numberA) (ordinal_mem numberB)

end Between

/-! ## `AreNearlyEqUlps` -/

section Ulps

variable {maxUlpsDiff : UInt32}

theorem i32Result_bind {value : Int} {after : Int → Except SignedOverflow Bool} :
    (i32Result value >>= after) =
      if -2 ^ 31 ≤ value ∧ value < 2 ^ 31 then after value else .error .signedOverflow := by
  rw [i32Result]
  split
  · rfl
  · rfl

/-- On one side of zero the distance of the patterns is compared, if an `i32` can hold it. -/
theorem areNearlyEqUlps_of_sameSide (sameSide : a.lt zero = b.lt zero) :
    areNearlyEqUlps a b maxUlpsDiff =
      if (reinterpretAsInt a - reinterpretAsInt b).natAbs < 2 ^ 31 then
        .ok (decide ((reinterpretAsInt a - reinterpretAsInt b).natAbs ≤ maxUlpsDiff.toNat))
      else .error .signedOverflow := by
  rw [areNearlyEqUlps, if_neg (not_not.mpr sameSide)]
  simp only [i32Result_bind]
  generalize reinterpretAsInt a - reinterpretAsInt b = difference
  rcases lt_or_ge difference.natAbs (2 ^ 31) with small | large
  · rw [if_pos small, if_pos (by omega), Int.abs_eq_natAbs, if_pos (by omega), Int.toNat_natCast]
    rfl
  · rw [if_neg large.not_gt, Int.abs_eq_natAbs]
    split
    -- the least difference has no absolute value
    · rw [if_neg (by omega)]
    · rfl

/-- On one side of zero the patterns are as far apart as the ordinals. -/
theorem natAbs_patterns (sameSide : a.ordinal < 0 ↔ b.ordinal < 0)
    (bothOrNeither : a = negativeZero ↔ b = negativeZero) :
    (reinterpretAsInt a - reinterpretAsInt b).natAbs = (a.ordinal - b.ordinal).natAbs := by
  rcases eq_or_ne a negativeZero with isZero | other
  · rw [isZero, bothOrNeither.mp isZero, sub_self, sub_self]
  · rw [reinterpretAsInt_of_ne other, reinterpretAsInt_of_ne (mt bothOrNeither.mpr other)]
    split
    case isTrue below =>
      rw [if_pos (sameSide.mp below)]
      omega
    case isFalse notBelow => rw [if_neg (mt sameSide.mpr notBelow)]

/-- The pattern of `-0.0f` is too far from every other one that is not below zero. -/
theorem le_natAbs_negativeZero (notBelow : ¬a.ordinal < 0) (other : a ≠ negativeZero) :
    2 ^ 31 ≤ (reinterpretAsInt a - reinterpretAsInt negativeZero).natAbs := by
  have least : reinterpretAsInt negativeZero = -2 ^ 31 := by decide
  rw [reinterpretAsInt_of_ne other, if_neg notBelow, least]
  omega

theorem le_natAbs_patterns (sameSide : a.ordinal < 0 ↔ b.ordinal < 0)
    (oneAlone : ¬(a = negativeZero ↔ b = negativeZero)) :
    2 ^ 31 ≤ (reinterpretAsInt a - reinterpretAsInt b).natAbs := by
  have notBelow : ¬negativeZero.ordinal < 0 := by decide
  rcases eq_or_ne a negativeZero with rfl | otherA
  · rw [← Int.natAbs_neg, neg_sub]
    exact le_natAbs_negativeZero (mt sameSide.mpr notBelow) fun isZero =>
      oneAlone ⟨fun _ => isZero, fun _ => rfl⟩
  · rcases eq_or_ne b negativeZero with rfl | otherB
    · exact le_natAbs_negativeZero (mt sameSide.mp notBelow) otherA
    · exact absurd ⟨fun isZero => absurd isZero otherA, fun isZero => absurd isZero otherB⟩
        oneAlone

/-- What the comparison of two floats promises: it is defined, does not depend on their order
and counts the floats between them. -/
structure ComparesUlps (a b : Binary32) (maxUlpsDiff : UInt32) (result : Bool) : Prop where
  defined : areNearlyEqUlps a b maxUlpsDiff = .ok result
  symmetric : areNearlyEqUlps b a maxUlpsDiff = .ok result
  counts : result = true ↔ (floatsFromTo a b).ncard ≤ maxUlpsDiff.toNat
  ofEq : a.value = b.value → result = true

/-- Two floats on one side of zero are compared by the number of floats between them exactly
if not one alone of the two is `-0.0f`. -/
theorem comparesUlps_iff (numberA : a.isNaN = false) (numberB : b.isNaN = false)
    (sameSide : a.lt zero = b.lt zero) :
    (∃ result : Bool, ComparesUlps a b maxUlpsDiff result) ↔
      (a = negativeZero ↔ b = negativeZero) := by
  have sameSign : a.ordinal < 0 ↔ b.ordinal < 0 := by
    rwa [lt_zero_eq numberA, lt_zero_eq numberB, decide_eq_decide] at sameSide
  constructor
  · rintro ⟨result, compares⟩
    by_contra oneAlone
    have far := le_natAbs_patterns sameSign oneAlone
    have defined := compares.defined
    rw [areNearlyEqUlps_of_sameSide sameSide, if_neg far.not_gt] at defined
    contradiction
  · intro bothOrNeither
    have distance := natAbs_patterns sameSign bothOrNeither
    have backwards : (reinterpretAsInt b - reinterpretAsInt a).natAbs =
        (a.ordinal - b.ordinal).natAbs := by
      rw [← distance, ← Int.natAbs_neg, neg_sub]
    have near : (a.ordinal - b.ordinal).natAbs < 2 ^ 31 := by
      have boundA := ordinal_mem numberA
      have boundB := ordinal_mem numberB
      rw [BinaryFormat.ordinals, infinity_eq, Set.mem_Icc] at boundA boundB
      omega
    refine ⟨decide ((a.ordinal - b.ordinal).natAbs ≤ maxUlpsDiff.toNat), ?_, ?_, ?_, ?_⟩
    · rw [areNearlyEqUlps_of_sameSide sameSide, distance, if_pos near]
    · rw [areNearlyEqUlps_of_sameSide sameSide.symm, backwards, if_pos near]
    · rw [decide_eq_true_eq, ncard_floatsFromTo numberA numberB]
    · intro same
      have sameOrdinal : a.ordinal = b.ordinal :=
        BinaryFormat.value_strictMonoOn.injOn (ordinal_mem numberA) (ordinal_mem numberB) same
      rw [sameOrdinal, sub_self]
      exact decide_eq_true (Nat.zero_le _)

/-- The float after one is nearly equal to it. -/
theorem comparesUlps_next :
    (⟨0x3f800000#32⟩ : Binary32).isNaN = false ∧ (⟨0x3f800001#32⟩ : Binary32).isNaN = false ∧
      ∃ result : Bool, ComparesUlps ⟨0x3f800000#32⟩ ⟨0x3f800001#32⟩ defaultMaxUlps result :=
  ⟨by decide, by decide, (comparesUlps_iff (by decide) (by decide) (by decide +kernel)).mpr
    (by decide)⟩

/-- The two zeros are on one side of zero and equal, but not compared. -/
theorem areNearlyEqUlps_zeros :
    ¬∀ (a b : Binary32) (maxUlpsDiff : UInt32), a.isNaN = false → b.isNaN = false →
      a.lt zero = b.lt zero → ∃ result : Bool, ComparesUlps a b maxUlpsDiff result := by
  intro compares
  obtain ⟨result, compared⟩ := compares negativeZero zero defaultMaxUlps (by decide) (by decide)
    (by decide +kernel)
  have overflows : areNearlyEqUlps negativeZero zero defaultMaxUlps =
      .error .signedOverflow := by decide +kernel
  rw [compared.defined] at overflows
  contradiction

end Ulps

end Binary32

end TowerDefence
