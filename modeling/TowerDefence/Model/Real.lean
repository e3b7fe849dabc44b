import Mathlib.Analysis.SpecialFunctions.Trigonometric.Inverse
import TowerDefence.Model.Arithmetic

/-!
# Real numbers

The functions of the C library and of `glm` over the real numbers, where `acos`, `cos` and
`sin` are what they are named after.
-/

namespace TowerDefence

namespace RealNumber

noncomputable section

/-- The integer that is left of a real number without its fraction. -/
def truncate (value : ℝ) : Int := if 0 ≤ value then ⌊value⌋ else ⌈value⌉

def length (vector : Vec2 ℝ) : ℝ := Real.sqrt (vector.x ^ 2 + vector.y ^ 2)

def closestPointOnLine (point a b : Vec2 ℝ) : Vec2 ℝ :=
  let lineLength := length (b - a)
  let direction := (b - a) / lineLength
  let along := Glm.dot (point - a) direction
  if along ≤ 0 then a else if lineLength ≤ along then b else a + direction * along

def smoothstep (low high value : ℝ) : ℝ :=
  let amount := max 0 (min 1 ((value - low) / (high - low)))
  amount * amount * (literal 3 - literal 2 * amount)

instance : Glm ℝ where
  sqrt := Real.sqrt
  acos := Real.arccos
  cos := Real.cos
  sin := Real.sin
  pi := Real.pi
  fmod a b := a - b * truncate (a / b)
  trunc value := truncate value
  toI32 value := Int32.ofInt (truncate value)
  length := length
  normalize vector := vector / length vector
  smoothstep := smoothstep
  closestPointOnLine := closestPointOnLine

end

/-- The remainder of a value below the divisor. -/
theorem fmod_of_lt {value divisor : ℝ} (nonneg : 0 ≤ value) (below : value < divisor) :
    Glm.fmod value divisor = value := by
  have positive : 0 < divisor := lt_of_le_of_lt nonneg below
  have whole : truncate (value / divisor) = 0 := by
    rw [truncate, if_pos (div_nonneg nonneg positive.le), Int.floor_eq_zero_iff]
    exact ⟨div_nonneg nonneg positive.le, (div_lt_one positive).mpr below⟩
  show value - divisor * (truncate (value / divisor) : ℝ) = value
  rw [whole, Int.cast_zero, mul_zero, sub_zero]

/-- The remainder of a value between the divisor and its double. -/
theorem fmod_add_self {value divisor : ℝ} (nonneg : 0 ≤ value) (below : value < divisor) :
    Glm.fmod (value + divisor) divisor = value := by
  have positive : 0 < divisor := lt_of_le_of_lt nonneg below
  have whole : truncate ((value + divisor) / divisor) = 1 := by
    rw [truncate, if_pos (div_nonneg (add_nonneg nonneg positive.le) positive.le),
      add_div, div_self positive.ne', Int.floor_add_one, Int.floor_eq_zero_iff.mpr, zero_add]
    exact ⟨div_nonneg nonneg positive.le, (div_lt_one positive).mpr below⟩
  show value + divisor - divisor * (truncate ((value + divisor) / divisor) : ℝ) = value
  rw [whole, Int.cast_one, mul_one, add_sub_cancel_right]

end RealNumber

end TowerDefence
