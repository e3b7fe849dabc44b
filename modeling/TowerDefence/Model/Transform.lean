import Mathlib.LinearAlgebra.Matrix.NonsingularInverse
import TowerDefence.Model.Camera
import TowerDefence.Model.Rational

/-!
# Rational transformations

The transformations of `glm` over the rational numbers.  Directions are normalised with
the square root of the rational instance, which is exact for squares; this is all that a
camera needs that looks along an axis.
-/

namespace TowerDefence

namespace Mat4

variable {F : Type} [Field F] [LinearOrder F]

/-- A matrix of `glm` as a matrix of rows. -/
def toMatrix (m : Mat4 F) : Matrix (Fin 4) (Fin 4) F :=
  !![m.c0.x, m.c1.x, m.c2.x, m.c3.x; m.c0.y, m.c1.y, m.c2.y, m.c3.y;
    m.c0.z, m.c1.z, m.c2.z, m.c3.z; m.c0.w, m.c1.w, m.c2.w, m.c3.w]

/-- A matrix of rows as a matrix of `glm`. -/
def ofMatrix (matrix : Matrix (Fin 4) (Fin 4) F) : Mat4 F where
  c0 := ⟨matrix 0 0, matrix 1 0, matrix 2 0, matrix 3 0⟩
  c1 := ⟨matrix 0 1, matrix 1 1, matrix 2 1, matrix 3 1⟩
  c2 := ⟨matrix 0 2, matrix 1 2, matrix 2 2, matrix 3 2⟩
  c3 := ⟨matrix 0 3, matrix 1 3, matrix 2 3, matrix 3 3⟩

omit [Field F] [LinearOrder F] in
theorem ofMatrix_toMatrix (m : Mat4 F) : ofMatrix m.toMatrix = m := rfl

theorem toMatrix_mul (m n : Mat4 F) : (m * n).toMatrix = m.toMatrix * n.toMatrix := by
  ext row column
  rw [Matrix.mul_apply, Fin.sum_univ_four]
  fin_cases row <;> fin_cases column <;> rfl

theorem toMatrix_one : (1 : Mat4 F).toMatrix = 1 := by
  ext row column
  fin_cases row <;> fin_cases column <;> rfl

end Mat4

namespace Rational

def normalize (vector : Vec3 ℚ) : Vec3 ℚ :=
  let scale := 1 / Glm.sqrt (vector.dot vector)
  ⟨vector.x * scale, vector.y * scale, vector.z * scale⟩

noncomputable instance : GlmTransform ℚ where
  lookAt eye center up :=
    let forward := normalize ⟨center.x - eye.x, center.y - eye.y, center.z - eye.z⟩
    let right := normalize (up.cross forward)
    .view eye right (forward.cross right) forward
  ortho left right bottom top zNear zFar :=
    { c0 := ⟨2 / (right - left), 0, 0, 0⟩
      c1 := ⟨0, 2 / (top - bottom), 0, 0⟩
      c2 := ⟨0, 0, 1 / (zFar - zNear), 0⟩
      c3 := ⟨-(right + left) / (right - left), -(top + bottom) / (top - bottom),
        -zNear / (zFar - zNear), 1⟩ }
  inverse m := .ofMatrix m.toMatrix⁻¹

theorem normalize_of_unit {vector : Vec3 ℚ} (unit : vector.dot vector = 1) :
    normalize vector = vector := by
  have root : Glm.sqrt (1 : ℚ) = 1 := by
    show (ceilSqrt (1 : ℚ).num.toNat : ℚ) / (Nat.sqrt (1 : ℚ).den : ℚ) = 1
    norm_num [ceilSqrt]
  rw [normalize, unit, root]
  simp

/-- The third axis of an orthonormal pair. -/
theorem cross_unit {up forward : Vec3 ℚ} (unitForward : forward.dot forward = 1)
    (unitUp : up.dot up = 1) (orthogonal : forward.dot up = 0) :
    (up.cross forward).dot (up.cross forward) = 1 := by
  have lagrange : (up.cross forward).dot (up.cross forward) =
      up.dot up * forward.dot forward - forward.dot up * forward.dot up := by
    simp only [Vec3.dot, Vec3.cross]
    ring
  rw [lagrange, unitForward, unitUp, orthogonal]
  norm_num

theorem cross_cross {up forward : Vec3 ℚ} (unitForward : forward.dot forward = 1)
    (orthogonal : forward.dot up = 0) : forward.cross (up.cross forward) = up := by
  have expand : forward.cross (up.cross forward) =
      ⟨up.x * forward.dot forward - forward.x * forward.dot up,
        up.y * forward.dot forward - forward.y * forward.dot up,
        up.z * forward.dot forward - forward.z * forward.dot up⟩ := by
    simp only [Vec3.dot, Vec3.cross, Vec3.mk.injEq]
    exact ⟨by ring, by ring, by ring⟩
  rw [expand, unitForward, orthogonal]
  simp

theorem exactTransform : ExactTransform ℚ where
  lookAt eye forward up unitForward unitUp orthogonal := by
    have direction : (⟨(eye + forward).x - eye.x, (eye + forward).y - eye.y,
        (eye + forward).z - eye.z⟩ : Vec3 ℚ) = forward := by
      ext <;> simp
    show Mat4.view eye (normalize (up.cross (normalize _))) _ (normalize _) = _
    rw [direction, normalize_of_unit unitForward,
      normalize_of_unit (cross_unit unitForward unitUp orthogonal),
      cross_cross unitForward orthogonal]
  ortho left right bottom top zNear zFar _ _ _ := rfl
  inverse m n inverts := by
    have product : m.toMatrix * n.toMatrix = 1 := by
      rw [← Mat4.toMatrix_mul, inverts, Mat4.toMatrix_one]
    show Mat4.ofMatrix m.toMatrix⁻¹ = n
    rw [Matrix.inv_eq_right_inv product, Mat4.ofMatrix_toMatrix]

end Rational

end TowerDefence
