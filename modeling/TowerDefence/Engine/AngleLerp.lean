import Mathlib.Tactic.LinearCombination
import TowerDefence.Engine.Angles

/-!
# Interpolation of angles

`AngleLerp` interpolates the vectors of two angles and asks `VectorAngle` for the angle of the
result.  The interpolated vector is shorter than the two it lies between, while `VectorAngle`
takes its x component for the cosine of the angle.
-/

namespace TowerDefence

/-! ## Interpolated vectors -/

section Vectors

variable {vector a b : Vec2 ℝ} {amount : ℝ}

theorem length_eq_sqrt (vector : Vec2 ℝ) : Glm.length vector = Real.sqrt (lengthSqr vector) := by
  show Real.sqrt (vector.x ^ 2 + vector.y ^ 2) = Real.sqrt (vector.x * vector.x + _)
  rw [sq, sq]

theorem length_pos (nonzero : vector ≠ 0) : 0 < Glm.length vector := by
  rw [length_eq_sqrt, Real.sqrt_pos]
  exact lt_of_le_of_ne (lengthSqr_nonneg vector) fun none =>
    nonzero (lengthSqr_eq_zero_iff.mp none.symm)

theorem length_mul_self (vector : Vec2 ℝ) :
    Glm.length vector * Glm.length vector = lengthSqr vector := by
  rw [length_eq_sqrt, Real.mul_self_sqrt (lengthSqr_nonneg vector)]

/-- What a vector between two unit vectors lacks to be one. -/
theorem lengthSqr_lerp (unitA : lengthSqr a = 1) (unitB : lengthSqr b = 1) :
    lengthSqr (Glm.lerp a b amount) = 1 - amount * (1 - amount) * lengthSqr (b - a) := by
  simp only [lengthSqr, Glm.dot, Glm.lerp, Vec2.add_x, Vec2.add_y, Vec2.mul_x, Vec2.mul_y,
    Vec2.sub_x, Vec2.sub_y] at *
  linear_combination (1 - amount) * unitA + amount * unitB

theorem lengthSqr_lerp_le (unitA : lengthSqr a = 1) (unitB : lengthSqr b = 1)
    (nonneg : 0 ≤ amount) (atMost : amount ≤ 1) : lengthSqr (Glm.lerp a b amount) ≤ 1 := by
  have lack : 0 ≤ amount * (1 - amount) * lengthSqr (b - a) :=
    mul_nonneg (mul_nonneg nonneg (sub_nonneg.mpr atMost)) (lengthSqr_nonneg _)
  rw [lengthSqr_lerp unitA unitB]
  linarith

/-- Strictly between two different unit vectors every vector is shorter. -/
theorem length_lerp_eq_one_iff (unitA : lengthSqr a = 1) (unitB : lengthSqr b = 1) :
    Glm.length (Glm.lerp a b amount) = 1 ↔ amount = 0 ∨ amount = 1 ∨ a = b := by
  rw [length_eq_sqrt, Real.sqrt_eq_one, lengthSqr_lerp unitA unitB, sub_eq_self, mul_eq_zero,
    mul_eq_zero, sub_eq_zero, lengthSqr_sub_eq_zero_iff, or_assoc, eq_comm (a := (1 : ℝ))]

end Vectors

/-! ## The angle of a shorter vector -/

section Shorter

variable {vector : Vec2 ℝ}

/-- The angle of a vector of at most unit length leads to its direction if the vector points
along the x axis to the right, along the y axis, or has unit length and points off the x
axis. -/
theorem angleVector_vectorAngle_eq_iff (short : lengthSqr vector ≤ 1) (nonzero : vector ≠ 0) :
    angleVector (vectorAngle vector) = vector / Glm.length vector ↔
      vector.y = 0 ∧ 0 < vector.x ∨ vector.y ≠ 0 ∧ (vector.x = 0 ∨ Glm.length vector = 1) := by
  obtain ⟨lower, upper⟩ := bounds_of_lengthSqr short
  have positive := length_pos nonzero
  have square := length_mul_self vector
  rw [angleVector_vectorAngle_eq lower upper]
  split
  case isTrue onAxis =>
    simp only [onAxis, true_and, ne_eq, not_true, false_and, or_false]
    constructor
    · intro direction
      have right : 1 = vector.x / Glm.length vector := congrArg Vec2.x direction
      rw [eq_div_iff positive.ne', one_mul] at right
      exact right ▸ positive
    · intro right
      have along : Glm.length vector = vector.x := by
        refine (mul_self_inj positive.le right.le).mp ?_
        rw [square, lengthSqr, Glm.dot, onAxis, mul_zero, add_zero]
      refine Vec2.ext ?_ ?_
      · rw [Vec2.div_x, along, div_self right.ne']
      · rw [Vec2.div_y, onAxis, zero_div]
  case isFalse offAxis =>
    simp only [offAxis, false_and, ne_eq, not_false_eq_true, true_and, false_or]
    constructor
    · intro direction
      have same : vector.x = vector.x / Glm.length vector := congrArg Vec2.x direction
      rw [eq_div_iff positive.ne'] at same
      rcases eq_or_ne vector.x 0 with vertical | across
      · exact .inl vertical
      · exact .inr (mul_left_cancel₀ across (same.trans (mul_one _).symm))
    · rintro (vertical | unit)
      · have along : Glm.length vector = |vector.y| := by
          refine (mul_self_inj positive.le (abs_nonneg _)).mp ?_
          rw [square, lengthSqr, Glm.dot, vertical, mul_zero, zero_add, abs_mul_abs_self]
        refine Vec2.ext ?_ ?_
        · rw [Vec2.div_x, vertical, zero_div]
        · have one : Real.sqrt (1 - (0 : ℝ) ^ 2) = 1 := by norm_num
          show Glm.sign vector.y * Real.sqrt (1 - vector.x ^ 2) = vector.y / Glm.length vector
          rw [vertical, one, mul_one, along, eq_div_iff (abs_pos.mpr offAxis).ne',
            sign_mul_abs]
      · have full : lengthSqr vector = 1 := by
          rw [← square, unit, mul_one]
        refine Vec2.ext ?_ ?_
        · rw [Vec2.div_x, unit, div_one]
        · rw [Vec2.div_y, unit, div_one, sqrt_eq_abs_of_unit full, sign_mul_abs]

end Shorter

/-! ## `AngleLerp` -/

section AngleLerp

variable {a b amount : ℝ}

theorem lengthSqr_angleVector (angle : ℝ) : lengthSqr (angleVector angle) = 1 := by
  rw [← Real.cos_sq_add_sin_sq (Glm.radians angle), sq, sq]
  rfl

/-- The value that lies `amount` of the way between the cosines of two angles. -/
noncomputable def cosineBlend (a b amount : ℝ) : ℝ :=
  Real.cos (Glm.radians a) * (1 - amount) + Real.cos (Glm.radians b) * amount

/-- The value that lies `amount` of the way between the sines of two angles. -/
noncomputable def sineBlend (a b amount : ℝ) : ℝ :=
  Real.sin (Glm.radians a) * (1 - amount) + Real.sin (Glm.radians b) * amount

theorem lerp_angleVector (a b amount : ℝ) :
    Glm.lerp (angleVector a) (angleVector b) amount =
      ⟨cosineBlend a b amount, sineBlend a b amount⟩ := rfl

/-- Over every amount the interpolated angle leads to the direction of the interpolated vector
exactly if that vector points along the x axis to the right, along the y axis, or is off the x
axis and one of the two vectors it lies between. -/
theorem angleLerp_direction_iff (nonneg : 0 ≤ amount) (atMost : amount ≤ 1)
    (nonzero : Glm.lerp (angleVector a) (angleVector b) amount ≠ 0) :
    angleVector (angleLerp a b amount) =
        Glm.lerp (angleVector a) (angleVector b) amount /
          Glm.length (Glm.lerp (angleVector a) (angleVector b) amount) ↔
      sineBlend a b amount = 0 ∧ 0 < cosineBlend a b amount ∨
        sineBlend a b amount ≠ 0 ∧
          (cosineBlend a b amount = 0 ∨
            amount = 0 ∨ amount = 1 ∨ angleVector a = angleVector b) := by
  have unitA := lengthSqr_angleVector a
  have unitB := lengthSqr_angleVector b
  rw [angleLerp, angleVector_vectorAngle_eq_iff (lengthSqr_lerp_le unitA unitB nonneg atMost)
    nonzero, length_lerp_eq_one_iff unitA unitB, lerp_angleVector]

theorem angleVector_zero : angleVector (0 : ℝ) = ⟨1, 0⟩ := by
  have none : Glm.radians (0 : ℝ) = 0 := zero_mul _
  rw [angleVector, none]
  exact Vec2.ext Real.cos_zero Real.sin_zero

theorem angleVector_quarter : angleVector (90 : ℝ) = ⟨0, 1⟩ := by
  have quarter : Glm.radians (90 : ℝ) = Real.pi / 2 := by
    show 90 * (Real.pi / literal 180) = Real.pi / 2
    rw [literal_degrees.2]
    ring
  rw [angleVector, quarter]
  exact Vec2.ext Real.cos_pi_div_two Real.sin_pi_div_two

/-- At the end of a quarter turn the angle is the one that is asked for. -/
theorem angleLerp_quarter_end :
    angleVector (angleLerp (0 : ℝ) 90 1) =
      Glm.lerp (angleVector 0) (angleVector 90) (1 : ℝ) /
        Glm.length (Glm.lerp (angleVector 0) (angleVector 90) (1 : ℝ)) := by
  have atEnd : Glm.lerp (angleVector 0) (angleVector 90) (1 : ℝ) = ⟨0, 1⟩ := by
    rw [angleVector_zero, angleVector_quarter]
    simp [Glm.lerp, Vec2.ext_iff]
  have up : sineBlend 0 90 1 = 1 := congrArg Vec2.y atEnd
  refine (angleLerp_direction_iff zero_le_one le_rfl ?_).mpr (.inr ⟨?_, .inr (.inr (.inl rfl))⟩)
  · rw [atEnd]
    exact fun none => one_ne_zero (congrArg Vec2.y none)
  · rw [up]
    exact one_ne_zero

/-- Half way through a quarter turn the cosine of the interpolated angle is one half. -/
theorem angleLerp_quarter_middle :
    ¬∀ a b amount : ℝ, 0 ≤ amount → amount ≤ 1 →
      Glm.lerp (angleVector a) (angleVector b) amount ≠ 0 →
        angleVector (angleLerp a b amount) =
          Glm.lerp (angleVector a) (angleVector b) amount /
            Glm.length (Glm.lerp (angleVector a) (angleVector b) amount) := by
  intro direction
  have middle : Glm.lerp (angleVector 0) (angleVector 90) (1 / 2 : ℝ) = ⟨1 / 2, 1 / 2⟩ := by
    rw [angleVector_zero, angleVector_quarter]
    norm_num [Glm.lerp, Vec2.ext_iff]
  have half : (1 / 2 : ℝ) ≠ 0 := by norm_num
  have nonzero : (⟨1 / 2, 1 / 2⟩ : Vec2 ℝ) ≠ 0 := fun none => half (congrArg Vec2.x none)
  have short : lengthSqr (⟨1 / 2, 1 / 2⟩ : Vec2 ℝ) = 1 / 2 := by
    norm_num [lengthSqr, Glm.dot]
  have same := direction 0 90 (1 / 2) (by norm_num) (by norm_num) (by rwa [middle])
  rw [angleLerp, middle,
    angleVector_vectorAngle_eq_iff (by rw [short]; norm_num) nonzero] at same
  rcases same with ⟨onAxis, _⟩ | ⟨_, vertical | unit⟩
  · exact half onAxis
  · exact half vertical
  · rw [length_eq_sqrt, short, Real.sqrt_eq_one] at unit
    norm_num at unit

end AngleLerp

end TowerDefence
