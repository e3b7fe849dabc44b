import Mathlib.Tactic.Linarith
import TowerDefence.Model.Real

/-!
# Angles and directions

`VectorAngle` measures the angle of a direction by its cosine and takes the side from the
sign of its y component.  The sign of zero is zero, so that a direction along the x axis has
the angle of the axis, whichever way it points.
-/

namespace TowerDefence

/-! ## Wrapping an angle -/

section Wrap

theorem literal_degrees : (literal 360 : ℝ) = 360 ∧ (literal 180 : ℝ) = 180 :=
  ⟨Rat.cast_ofNat 360, Rat.cast_ofNat 180⟩

theorem radians_degrees (angle : ℝ) : Glm.radians (Glm.degrees angle) = angle := by
  show angle * (literal 180 / Real.pi) * (Real.pi / literal 180) = angle
  rw [literal_degrees.2]
  field_simp

/-- A full turn. -/
theorem radians_full : Glm.radians (360 : ℝ) = 2 * Real.pi := by
  show 360 * (Real.pi / literal 180) = 2 * Real.pi
  rw [literal_degrees.2]
  ring

/-- `AngleVector` of an angle in radians. -/
theorem angleVector_degrees (angle : ℝ) :
    angleVector (Glm.degrees angle) = ⟨Real.cos angle, Real.sin angle⟩ := by
  rw [angleVector, radians_degrees]
  rfl

theorem angleVector_degrees_add (angle : ℝ) :
    angleVector (Glm.degrees angle + 360) = ⟨Real.cos angle, Real.sin angle⟩ := by
  have sum : Glm.radians (Glm.degrees angle + 360) =
      Glm.radians (Glm.degrees angle) + Glm.radians 360 := add_mul _ _ (Real.pi / literal 180)
  rw [angleVector, sum, radians_degrees, radians_full]
  exact Vec2.ext (Real.cos_add_two_pi angle) (Real.sin_add_two_pi angle)

/-- Half a turn has 180 degrees. -/
theorem degrees_bounds {angle : ℝ} (lower : -Real.pi ≤ angle) (upper : angle ≤ Real.pi) :
    -180 ≤ Glm.degrees angle ∧ Glm.degrees angle ≤ 180 := by
  have ratio : Glm.degrees angle = angle / Real.pi * 180 := by
    show angle * (literal 180 / Real.pi) = angle / Real.pi * 180
    rw [literal_degrees.2]
    ring
  have atLeast : -1 ≤ angle / Real.pi := by
    rwa [le_div_iff₀ Real.pi_pos, neg_one_mul]
  have atMost : angle / Real.pi ≤ 1 := (div_le_one Real.pi_pos).mpr upper
  rw [ratio]
  constructor
  · linarith
  · linarith

/-- An angle of at most half a turn is wrapped into a full turn, and keeps its direction. -/
theorem wrapped {angle : ℝ} (lower : -Real.pi ≤ angle) (upper : angle ≤ Real.pi) :
    (0 ≤ Glm.fmod (Glm.degrees angle + 360) 360 ∧ Glm.fmod (Glm.degrees angle + 360) 360 < 360) ∧
      angleVector (Glm.fmod (Glm.degrees angle + 360) 360) =
        ⟨Real.cos angle, Real.sin angle⟩ := by
  obtain ⟨atLeast, atMost⟩ := degrees_bounds lower upper
  rcases le_or_gt 0 (Glm.degrees angle) with nonneg | negative
  · have below : Glm.degrees angle < 360 := by linarith
    rw [RealNumber.fmod_add_self nonneg below]
    exact ⟨⟨nonneg, below⟩, angleVector_degrees angle⟩
  · have positive : 0 ≤ Glm.degrees angle + 360 := by linarith
    have below : Glm.degrees angle + 360 < 360 := by linarith
    rw [RealNumber.fmod_of_lt positive below]
    exact ⟨⟨positive, below⟩, angleVector_degrees_add angle⟩

end Wrap

/-! ## The angle of a direction -/

section Direction

variable {vector : Vec2 ℝ}

/-- The angle, in radians, that `VectorAngle` converts to degrees. -/
noncomputable def signedAngle (vector : Vec2 ℝ) : ℝ :=
  Real.arccos vector.x * Glm.sign vector.y

theorem vectorAngle_eq (vector : Vec2 ℝ) :
    vectorAngle vector = Glm.fmod (Glm.degrees (signedAngle vector) + 360) 360 := by
  rw [vectorAngle, literal_degrees.1]
  rfl

theorem signedAngle_bounds (vector : Vec2 ℝ) :
    -Real.pi ≤ signedAngle vector ∧ signedAngle vector ≤ Real.pi := by
  have nonneg := Real.arccos_nonneg vector.x
  have atMost := Real.arccos_le_pi vector.x
  have positive := Real.pi_pos
  rw [signedAngle, Glm.sign]
  split
  · rw [mul_one]
    exact ⟨by linarith, atMost⟩
  · split
    · rw [mul_neg_one]
      exact ⟨by linarith, by linarith⟩
    · rw [mul_zero]
      exact ⟨by linarith, positive.le⟩

/-- The signed angle leads to the vector of length one above or below the same cosine, unless
the vector lies on the x axis. -/
theorem direction_of_signedAngle (lower : -1 ≤ vector.x) (upper : vector.x ≤ 1) :
    (⟨Real.cos (signedAngle vector), Real.sin (signedAngle vector)⟩ : Vec2 ℝ) =
      if vector.y = 0 then ⟨1, 0⟩
      else ⟨vector.x, Glm.sign vector.y * Real.sqrt (1 - vector.x ^ 2)⟩ := by
  rw [signedAngle, Glm.sign]
  rcases lt_trichotomy vector.y 0 with below | onAxis | above
  · rw [if_neg below.not_gt, if_pos below, if_neg below.ne, mul_neg_one, Real.cos_neg,
      Real.sin_neg, Real.cos_arccos lower upper, Real.sin_arccos, neg_one_mul]
  · rw [onAxis, if_neg (lt_irrefl _), if_neg (lt_irrefl _), if_pos rfl, mul_zero, Real.cos_zero,
      Real.sin_zero]
  · rw [if_pos above, if_neg above.ne', mul_one, Real.cos_arccos lower upper, Real.sin_arccos,
      one_mul]

theorem angleVector_vectorAngle_eq (lower : -1 ≤ vector.x) (upper : vector.x ≤ 1) :
    angleVector (vectorAngle vector) =
      if vector.y = 0 then ⟨1, 0⟩
      else ⟨vector.x, Glm.sign vector.y * Real.sqrt (1 - vector.x ^ 2)⟩ := by
  obtain ⟨atLeast, atMost⟩ := signedAngle_bounds vector
  rw [vectorAngle_eq, (wrapped atLeast atMost).2, direction_of_signedAngle lower upper]

theorem sign_mul_abs (value : ℝ) : Glm.sign value * |value| = value := by
  rw [Glm.sign]
  rcases lt_trichotomy value 0 with below | zero | above
  · rw [if_neg below.not_gt, if_pos below, abs_of_neg below, neg_mul_neg, one_mul]
  · rw [zero, abs_zero, mul_zero]
  · rw [if_pos above, abs_of_pos above, one_mul]

/-- No component exceeds the length. -/
theorem bounds_of_lengthSqr (short : lengthSqr vector ≤ 1) : -1 ≤ vector.x ∧ vector.x ≤ 1 := by
  have square : vector.x * vector.x + vector.y * vector.y ≤ 1 := short
  constructor
  · nlinarith [sq_nonneg vector.y, sq_nonneg (vector.x - 1)]
  · nlinarith [sq_nonneg vector.y, sq_nonneg (vector.x + 1)]

/-- The height of a unit vector above or below the x axis. -/
theorem sqrt_eq_abs_of_unit (unit : lengthSqr vector = 1) :
    Real.sqrt (1 - vector.x ^ 2) = |vector.y| := by
  have square : vector.x * vector.x + vector.y * vector.y = 1 := unit
  have other : 1 - vector.x ^ 2 = vector.y ^ 2 := by linarith
  rw [other, Real.sqrt_sq_eq_abs]

/-- The direction of the angle of a unit vector. -/
theorem angleVector_vectorAngle (unit : lengthSqr vector = 1) :
    angleVector (vectorAngle vector) = if vector.y = 0 then ⟨1, 0⟩ else vector := by
  obtain ⟨lower, upper⟩ := bounds_of_lengthSqr unit.le
  rw [angleVector_vectorAngle_eq lower upper, sqrt_eq_abs_of_unit unit, sign_mul_abs]

/-- The directions of the x axis share one angle. -/
theorem vectorAngle_onAxis (onAxis : vector.y = 0) : vectorAngle vector = 0 := by
  have noAngle : Glm.degrees (signedAngle vector) = 0 := by
    rw [signedAngle, onAxis, Glm.sign, if_neg (lt_irrefl _), if_neg (lt_irrefl _), mul_zero]
    exact zero_mul _
  rw [vectorAngle_eq, noAngle, RealNumber.fmod_add_self le_rfl (by norm_num)]

end Direction

/-! ## Round trips -/

/-- The angle of a direction lies in a full turn, and the vector of the angle is the direction
itself. -/
structure Vec2.AngleFaithful (direction : Vec2 ℝ) : Prop where
  inTurn : 0 ≤ vectorAngle direction ∧ vectorAngle direction < 360
  roundTrip : angleVector (vectorAngle direction) = direction

theorem Vec2.angleFaithful_iff {direction : Vec2 ℝ} (unit : lengthSqr direction = 1) :
    direction.AngleFaithful ↔ direction ≠ ⟨-1, 0⟩ := by
  have returns := angleVector_vectorAngle unit
  constructor
  · rintro ⟨_, roundTrip⟩ rfl
    rw [returns, if_pos rfl, Vec2.mk.injEq] at roundTrip
    norm_num at roundTrip
  · intro notLeft
    obtain ⟨lower, upper⟩ := signedAngle_bounds direction
    refine ⟨vectorAngle_eq direction ▸ (wrapped lower upper).1, ?_⟩
    rw [returns]
    split
    case isTrue onAxis =>
      have square : direction.x * direction.x + direction.y * direction.y = 1 := unit
      rw [onAxis, mul_zero, add_zero, mul_self_eq_one_iff] at square
      have right : direction.x = 1 :=
        square.resolve_right fun left => notLeft (Vec2.ext left onAxis)
      exact Vec2.ext right.symm onAxis.symm
    case isFalse => rfl

theorem vectorAngle_ne_iff {a b : Vec2 ℝ} (unitA : lengthSqr a = 1) (unitB : lengthSqr b = 1)
    (different : a ≠ b) : vectorAngle a ≠ vectorAngle b ↔ a.y ≠ 0 ∨ b.y ≠ 0 := by
  rw [← not_iff_not, not_not, not_or, not_not, not_not]
  constructor
  · intro same
    have sameDirection := congrArg angleVector same
    rw [angleVector_vectorAngle unitA, angleVector_vectorAngle unitB] at sameDirection
    split at sameDirection
    case isTrue onAxis =>
      split at sameDirection
      case isTrue otherOnAxis => exact ⟨onAxis, otherOnAxis⟩
      case isFalse offAxis => exact absurd (congrArg Vec2.y sameDirection).symm offAxis
    case isFalse offAxis =>
      split at sameDirection
      case isTrue => exact absurd (congrArg Vec2.y sameDirection) offAxis
      case isFalse => exact absurd sameDirection different
  · rintro ⟨onAxis, otherOnAxis⟩
    rw [vectorAngle_onAxis onAxis, vectorAngle_onAxis otherOnAxis]

/-- Every unit vector but the one to the left has an angle that leads back to it.  Two of them
have the same angle exactly if both lie on the x axis. -/
theorem vectorAngle_roundTrip_iff {direction other : Vec2 ℝ} (unit : lengthSqr direction = 1)
    (otherUnit : lengthSqr other = 1) :
    (direction.AngleFaithful ↔ direction ≠ ⟨-1, 0⟩) ∧
      (direction ≠ other →
        (vectorAngle direction ≠ vectorAngle other ↔ direction.y ≠ 0 ∨ other.y ≠ 0)) :=
  ⟨Vec2.angleFaithful_iff unit, vectorAngle_ne_iff unit otherUnit⟩

/-- The direction up the y axis is found again from its angle, which the direction to the left
does not share. -/
theorem vectorAngle_up :
    Vec2.AngleFaithful ⟨0, 1⟩ ∧ vectorAngle (⟨0, 1⟩ : Vec2 ℝ) ≠ vectorAngle ⟨-1, 0⟩ := by
  have up : lengthSqr (⟨0, 1⟩ : Vec2 ℝ) = 1 := by
    norm_num [lengthSqr, Glm.dot]
  have left : lengthSqr (⟨-1, 0⟩ : Vec2 ℝ) = 1 := by
    norm_num [lengthSqr, Glm.dot]
  obtain ⟨faithful, apart⟩ := vectorAngle_roundTrip_iff up left
  exact ⟨faithful.mpr (by simp), (apart (by simp)).mpr (.inl one_ne_zero)⟩

/-- The direction to the left gets the angle of the direction to the right. -/
theorem vectorAngle_left :
    ¬∀ direction : Vec2 ℝ, lengthSqr direction = 1 → direction.AngleFaithful := by
  intro faithful
  have unit : lengthSqr (⟨-1, 0⟩ : Vec2 ℝ) = 1 := by
    norm_num [lengthSqr, Glm.dot]
  exact (Vec2.angleFaithful_iff unit).mp (faithful _ unit) rfl

end TowerDefence
