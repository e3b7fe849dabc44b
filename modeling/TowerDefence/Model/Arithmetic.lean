import Mathlib.Algebra.Order.Field.Basic
import Mathlib.Data.Rat.Cast.Order
import Mathlib.Tactic.NormNum
import Mathlib.Tactic.Ring

/-!
# Numbers and the engine's vector arithmetic

The engine computes with `float`.  The model is generic in the number type: its
definitions only use the operations of `Arithmetic`, which carry no laws, so a
result that assumes nothing more about them holds of IEEE arithmetic as well.
Exact arithmetic is the instance that every linearly ordered field provides.

`glm` is a third-party package.  The functions whose values the code relies on
are the operations of `Glm`; those that are plain arithmetic are defined here by
their documentation.  The rest of the module follows `engine/math.h`.
-/

namespace TowerDefence

/-- The arithmetic of the number type: C++'s operators on `float`, the value of
a literal, and the conversion from a signed integer. -/
class Arithmetic (F : Type) extends
    Zero F, One F, Add F, Sub F, Neg F, Mul F, Div F, LT F, LE F where
  decidableLT : DecidableLT F
  decidableLE : DecidableLE F
  literal : ℚ → F
  ofInt : Int → F
  /-- `1.0f / value`; `none` is a positive infinity for which the type has no number. -/
  reciprocal : F → Option F

attribute [reducible, instance] Arithmetic.decidableLT Arithmetic.decidableLE

/-- Exact arithmetic. -/
instance Arithmetic.exact {F : Type} [Field F] [LinearOrder F] : Arithmetic F where
  decidableLT := inferInstance
  decidableLE := inferInstance
  literal value := (value : F)
  ofInt value := (value : F)
  reciprocal value := if value = 0 then none else some (1 / value)

export Arithmetic (literal ofInt reciprocal)

/-- The conversion of a `u32` to a `float`. -/
def ofU32 {F : Type} [Arithmetic F] (value : UInt32) : F := ofInt value.toNat

/-- `glm::vec2`. -/
@[ext]
structure Vec2 (F : Type) where
  x : F
  y : F
  deriving DecidableEq, Repr

namespace Vec2

variable {F : Type} [Arithmetic F]

instance : Zero (Vec2 F) := ⟨⟨0, 0⟩⟩
instance : Add (Vec2 F) := ⟨fun a b => ⟨a.x + b.x, a.y + b.y⟩⟩
instance : Sub (Vec2 F) := ⟨fun a b => ⟨a.x - b.x, a.y - b.y⟩⟩
instance : HMul (Vec2 F) F (Vec2 F) := ⟨fun a scale => ⟨a.x * scale, a.y * scale⟩⟩
instance : HDiv (Vec2 F) F (Vec2 F) := ⟨fun a scale => ⟨a.x / scale, a.y / scale⟩⟩

@[simp] theorem add_x (a b : Vec2 F) : (a + b).x = a.x + b.x := rfl
@[simp] theorem add_y (a b : Vec2 F) : (a + b).y = a.y + b.y := rfl
@[simp] theorem sub_x (a b : Vec2 F) : (a - b).x = a.x - b.x := rfl
@[simp] theorem sub_y (a b : Vec2 F) : (a - b).y = a.y - b.y := rfl
@[simp] theorem mul_x (a : Vec2 F) (scale : F) : (a * scale).x = a.x * scale := rfl
@[simp] theorem mul_y (a : Vec2 F) (scale : F) : (a * scale).y = a.y * scale := rfl
@[simp] theorem div_x (a : Vec2 F) (scale : F) : (a / scale).x = a.x / scale := rfl
@[simp] theorem div_y (a : Vec2 F) (scale : F) : (a / scale).y = a.y / scale := rfl

end Vec2

/-- The functions of `glm` and of the C library that the code calls and whose
source is not part of the repository. -/
class Glm (F : Type) where
  sqrt : F → F
  acos : F → F
  cos : F → F
  sin : F → F
  pi : F
  fmod : F → F → F
  trunc : F → F
  /-- The conversion of a `float` to an `i32`. -/
  toI32 : F → Int32
  length : Vec2 F → F
  normalize : Vec2 F → Vec2 F
  smoothstep : F → F → F → F
  closestPointOnLine : Vec2 F → Vec2 F → Vec2 F → Vec2 F

namespace Glm

variable {F : Type} [Arithmetic F]

/-- `glm::dot`. -/
def dot (a b : Vec2 F) : F := a.x * b.x + a.y * b.y

/-- `glm::max` of two scalars. -/
def max (a b : F) : F := if a < b then b else a

/-- `glm::sign`. -/
def sign (a : F) : F := if 0 < a then 1 else if a < 0 then -1 else 0

/-- `glm::lerp` of two vectors. -/
def lerp (a b : Vec2 F) (amount : F) : Vec2 F := a * (1 - amount) + b * amount

variable [Glm F]

/-- `glm::distance`. -/
def distance (a b : Vec2 F) : F := length (b - a)

/-- `glm::degrees`. -/
def degrees (radians : F) : F := radians * (literal 180 / pi)

/-- `glm::radians`. -/
def radians (degrees : F) : F := degrees * (pi / literal 180)

end Glm

/-! ## `engine/math.h` -/

section EngineMath

variable {F : Type} [Arithmetic F]

/-- `DEFAULT_MAX_REL_DIFF`, the machine epsilon of a 32-bit `float`. -/
def defaultMaxRelDiff : F := literal (1 / 2 ^ 23)

/-- `DEFAULT_MAX_DIFF`. -/
def defaultMaxDiff : F := defaultMaxRelDiff * literal 2

/-- `IsNearlyZero` with the default bound.  The test is one-sided: every value
up to the bound passes, negative ones included. -/
def isNearlyZero (value : F) : Bool := value ≤ defaultMaxDiff

/-- `LengthSqr`. -/
def lengthSqr (vector : Vec2 F) : F := Glm.dot vector vector

/-- `DistanceSqr`. -/
def distanceSqr (a b : Vec2 F) : F := lengthSqr (a - b)

variable [Glm F]

/-- `VectorAngle`. -/
def vectorAngle (vector : Vec2 F) : F :=
  let radians := Glm.acos vector.x * Glm.sign vector.y
  let degrees := Glm.degrees radians
  Glm.fmod (degrees + literal 360) (literal 360)

/-- `AngleVector`. -/
def angleVector (degrees : F) : Vec2 F :=
  let radians := Glm.radians degrees
  ⟨Glm.cos radians, Glm.sin radians⟩

/-- `AngleLerp`. -/
def angleLerp (degreesA degreesB amount : F) : F :=
  let rotationVecA := angleVector degreesA
  let rotationVecB := angleVector degreesB
  vectorAngle (Glm.lerp rotationVecA rotationVecB amount)

end EngineMath

/-! ## Exact arithmetic -/

/-- What holds of the length of a vector in exact arithmetic. -/
structure ExactLength (F : Type) [Field F] [LinearOrder F] [Glm F] : Prop where
  nonneg : ∀ vector : Vec2 F, 0 ≤ Glm.length vector
  scale : ∀ (vector : Vec2 F) (scale : F), 0 ≤ scale →
    Glm.length (vector * scale) = Glm.length vector * scale

/-- What the documentation of `glm::closestPointOnLine` promises, in exact
arithmetic: the result is a point of the segment. -/
structure ClosestOnSegment (F : Type) [Field F] [LinearOrder F] [Glm F] : Prop where
  onSegment : ∀ point a b : Vec2 F, ∃ amount : F, 0 ≤ amount ∧ amount ≤ 1 ∧
    Glm.closestPointOnLine point a b = a + (b - a) * amount

/-- What the vector arithmetic relies on in exact arithmetic: only the zero vector has
no length, no component exceeds the length, normalising divides by the length, and only
zero has the root zero. -/
structure ExactNorm (F : Type) [Field F] [LinearOrder F] [Glm F] : Prop where
  length_eq_zero : ∀ vector : Vec2 F, Glm.length vector = 0 ↔ vector = 0
  abs_x_le : ∀ vector : Vec2 F, |vector.x| ≤ Glm.length vector
  normalize_eq : ∀ vector : Vec2 F, vector ≠ 0 →
    Glm.normalize vector = vector / Glm.length vector
  sqrt_eq_zero : ∀ value : F, 0 ≤ value → (Glm.sqrt value = 0 ↔ value = 0)
  pi_ne_zero : (Glm.pi : F) ≠ 0

/-- Bounds of the functions of `glm` in exact arithmetic: the length of a vector lies
between each component and the sum of both, a root is at least the exact one, and the
smooth step rises from 0, which it has up to the lower edge, to at most 1. -/
structure ExactBounds (F : Type) [Field F] [LinearOrder F] [Glm F] : Prop where
  abs_x_le : ∀ vector : Vec2 F, |vector.x| ≤ Glm.length vector
  abs_y_le : ∀ vector : Vec2 F, |vector.y| ≤ Glm.length vector
  length_le : ∀ vector : Vec2 F, Glm.length vector ≤ |vector.x| + |vector.y|
  sqrt_nonneg : ∀ value : F, 0 ≤ value → 0 ≤ Glm.sqrt value
  le_sqrt_mul_self : ∀ value : F, 0 ≤ value → value ≤ Glm.sqrt value * Glm.sqrt value
  smoothstep_nonneg : ∀ low high value : F, low < high → 0 ≤ Glm.smoothstep low high value
  smoothstep_le_one : ∀ low high value : F, low < high → Glm.smoothstep low high value ≤ 1
  smoothstep_of_le : ∀ low high value : F, low < high → value ≤ low →
    Glm.smoothstep low high value = 0

/-- The arithmetic is exact: the numbers are those of an ordered field, and the functions
of `glm` keep their bounds. -/
inductive IsExact : ∀ (F : Type) [Arithmetic F] [Glm F], Prop where
  | intro {F : Type} [Field F] [LinearOrder F] [IsStrictOrderedRing F] [Glm F] :
      ExactBounds F → IsExact F

/-- What holds of `glm::trunc` in exact arithmetic: the fraction is cut off.  A value
without a fraction that an `i32` can hold is converted to it. -/
structure ExactTrunc (F : Type) [Field F] [LinearOrder F] [Glm F] : Prop where
  of_nonneg : ∀ value : F, 0 ≤ value →
    ∃ whole : Int, Glm.trunc value = whole ∧ (whole : F) ≤ value ∧ value < whole + 1
  of_nonpos : ∀ value : F, value ≤ 0 →
    ∃ whole : Int, Glm.trunc value = whole ∧ (whole : F) - 1 < value ∧ value ≤ whole
  toI32 : ∀ whole : Int, -2 ^ 31 ≤ whole → whole < 2 ^ 31 →
    (Glm.toI32 (whole : F)).toInt = whole

section Exact

variable {F : Type} [Field F] [LinearOrder F]

theorem literal_half [IsStrictOrderedRing F] : (literal 0.5 : F) = 1 / 2 := by
  show ((0.5 : ℚ) : F) = 1 / 2
  norm_num

theorem reciprocal_zero : reciprocal (0 : F) = none := if_pos rfl

theorem reciprocal_of_ne_zero {value : F} (nonzero : value ≠ 0) :
    reciprocal value = some (1 / value) := if_neg nonzero

theorem literal_two [IsStrictOrderedRing F] : (literal 2 : F) = 2 := Rat.cast_ofNat 2

theorem isNearlyZero_eq_false_iff {value : F} :
    isNearlyZero value = false ↔ defaultMaxDiff < value := by
  rw [isNearlyZero, decide_eq_false_iff_not, not_le]

theorem defaultMaxDiff_pos [IsStrictOrderedRing F] : (0 : F) < defaultMaxDiff := by
  have relative : (0 : F) < ((1 / 2 ^ 23 : ℚ) : F) := Rat.cast_pos.mpr (by norm_num)
  have two : (0 : F) < ((2 : ℚ) : F) := Rat.cast_pos.mpr (by norm_num)
  exact mul_pos relative two

theorem lengthSqr_nonneg [IsStrictOrderedRing F] (vector : Vec2 F) : 0 ≤ lengthSqr vector :=
  add_nonneg (mul_self_nonneg _) (mul_self_nonneg _)

theorem lengthSqr_eq_zero_iff [IsStrictOrderedRing F] {vector : Vec2 F} :
    lengthSqr vector = 0 ↔ vector = 0 := by
  rw [Vec2.ext_iff]
  exact mul_self_add_mul_self_eq_zero

theorem lengthSqr_sub_eq_zero_iff [IsStrictOrderedRing F] {a b : Vec2 F} :
    lengthSqr (b - a) = 0 ↔ a = b := by
  rw [lengthSqr_eq_zero_iff, Vec2.ext_iff, Vec2.ext_iff, eq_comm (a := a.x), eq_comm (a := a.y)]
  exact and_congr sub_eq_zero sub_eq_zero

/-- The way that is left from a point of a segment to its end. -/
theorem ExactLength.distance_segment [IsStrictOrderedRing F] [Glm F] (exact : ExactLength F)
    (a b : Vec2 F) {amount : F} (atMost : amount ≤ 1) :
    Glm.distance (a + (b - a) * amount) b = Glm.distance a b * (1 - amount) := by
  have rest : b - (a + (b - a) * amount) = (b - a) * (1 - amount) := by
    apply Vec2.ext
    · simp only [Vec2.sub_x, Vec2.add_x, Vec2.mul_x]
      ring
    · simp only [Vec2.sub_y, Vec2.add_y, Vec2.mul_y]
      ring
  rw [Glm.distance, rest, exact.scale _ _ (sub_nonneg.mpr atMost), Glm.distance]

end Exact

end TowerDefence
