import Mathlib.Algebra.Order.Field.Basic
import Mathlib.Tactic.Linarith
import Mathlib.Tactic.LinearCombination
import Mathlib.Tactic.Ring

/-!
# Points of triangles

A point of a triangle is a mixture of its corners.  What depends on the corners linearly is mixed
in the same way, so that it is known in the triangle from its values at the corners.
-/

namespace TowerDefence.Foundations

variable {F : Type} [Field F] [LinearOrder F]

/-- How much of each corner of a triangle is in one of its points. -/
structure Weights (F : Type) [Field F] [LinearOrder F] where
  first : F
  second : F
  third : F
  first_nonneg : 0 ≤ first
  second_nonneg : 0 ≤ second
  third_nonneg : 0 ≤ third
  sum : first + second + third = 1

namespace Weights

/-- The mixture of a quantity of the corners. -/
def mix (weights : Weights F) (p q r : F) : F :=
  weights.first * p + weights.second * q + weights.third * r

/-- A quantity that depends linearly on two others is mixed with them. -/
theorem mix_linear (weights : Weights F) (origin alongX alongY : F) (px qx rx py qy ry : F) :
    weights.mix (origin + alongX * px + alongY * py) (origin + alongX * qx + alongY * qy)
        (origin + alongX * rx + alongY * ry) =
      origin + alongX * weights.mix px qx rx + alongY * weights.mix py qy ry := by
  unfold mix
  linear_combination origin * weights.sum

variable [IsStrictOrderedRing F] {x y : F}

/-- The two triangles on either side of a diagonal make up the square around the origin. -/
theorem square_iff : |x| ≤ 1 / 2 ∧ |y| ≤ 1 / 2 ↔
    (∃ weights : Weights F, x = weights.mix (-(1 / 2)) (1 / 2) (1 / 2) ∧
      y = weights.mix (1 / 2) (1 / 2) (-(1 / 2))) ∨
    ∃ weights : Weights F, x = weights.mix (1 / 2) (-(1 / 2)) (-(1 / 2)) ∧
      y = weights.mix (-(1 / 2)) (-(1 / 2)) (1 / 2) := by
  constructor
  · rintro ⟨inX, inY⟩
    obtain ⟨left, right⟩ := abs_le.mp inX
    obtain ⟨bottom, top⟩ := abs_le.mp inY
    -- the diagonal runs from the upper left to the lower right corner
    rcases le_total 0 (x + y) with above | below
    · left
      refine ⟨⟨1 / 2 - x, x + y, 1 / 2 - y, by linarith, above, by linarith, by ring⟩, ?_, ?_⟩
      · simp only [mix]
        ring
      · simp only [mix]
        ring
    · right
      refine ⟨⟨1 / 2 + x, -(x + y), 1 / 2 + y, by linarith, by linarith, by linarith, by ring⟩,
        ?_, ?_⟩
      · simp only [mix]
        ring
      · simp only [mix]
        ring
  · rintro (⟨weights, rfl, rfl⟩ | ⟨weights, rfl, rfl⟩)
    all_goals
      have first := weights.first_nonneg
      have second := weights.second_nonneg
      have third := weights.third_nonneg
      have sum := weights.sum
      rw [abs_le, abs_le]
      unfold mix
      refine ⟨⟨?_, ?_⟩, ?_, ?_⟩
    all_goals linarith

end Weights

end TowerDefence.Foundations
