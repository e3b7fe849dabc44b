import TowerDefence.Foundations.Quiet
import TowerDefence.Model.Arithmetic

/-!
# Arithmetic with undefined values

The engine's numbers as exact numbers together with a NaN.  A quotient by zero, the
direction of the zero vector, the nearest point of a segment without length, the root
of a negative number and the arc cosine of a number outside `[-1, 1]` are undefined;
every operation passes the NaN on, as `float` does.
-/

namespace TowerDefence

open Foundations
open Foundations.Quiet (nan number lift lift₂ IsNumber)

variable {K : Type} [Field K] [LinearOrder K]

instance Quiet.arithmetic : Arithmetic (Quiet K) where
  decidableLT := inferInstance
  decidableLE := inferInstance
  literal value := number (value : K)
  ofInt value := number (value : K)
  reciprocal
    | number value => if value = 0 then none else some (number (1 / value))
    | nan => some nan

/-! ## Vectors -/

namespace Vec2

section Components

omit [Field K] [LinearOrder K]

/-- A vector without a NaN. -/
def numbers (vector : Vec2 K) : Vec2 (Quiet K) := ⟨number vector.x, number vector.y⟩

/-- Both components are undefined. -/
def undefined : Vec2 (Quiet K) := ⟨nan, nan⟩

/-- Both components are defined. -/
def Defined (vector : Vec2 (Quiet K)) : Prop := vector.x.IsNumber ∧ vector.y.IsNumber

instance (vector : Vec2 (Quiet K)) : Decidable vector.Defined :=
  inferInstanceAs (Decidable (_ ∧ _))

/-- The components, if both are defined. -/
def numbers? : Vec2 (Quiet K) → Option (Vec2 K)
  | ⟨number x, number y⟩ => some ⟨x, y⟩
  | _ => none

@[simp] theorem numbers_defined (vector : Vec2 K) : vector.numbers.Defined := ⟨trivial, trivial⟩

@[simp] theorem undefined_not_defined : ¬(undefined : Vec2 (Quiet K)).Defined :=
  fun defined => defined.1

theorem defined_iff {vector : Vec2 (Quiet K)} :
    vector.Defined ↔ ∃ values : Vec2 K, vector = values.numbers := by
  constructor
  · intro defined
    obtain ⟨x, isX⟩ := Quiet.isNumber_iff.mp defined.1
    obtain ⟨y, isY⟩ := Quiet.isNumber_iff.mp defined.2
    exact ⟨⟨x, y⟩, Vec2.ext isX isY⟩
  · intro isNumbers
    rcases isNumbers with ⟨values, rfl⟩
    exact values.numbers_defined

theorem numbers?_eq_none {vector : Vec2 (Quiet K)} (incomplete : ¬vector.Defined) :
    vector.numbers? = none := by
  rcases vector with ⟨x, y⟩
  cases x with
  | nan => rfl
  | number x =>
      cases y with
      | nan => rfl
      | number y => exact absurd ⟨trivial, trivial⟩ incomplete

end Components

variable {a b vector : Vec2 (Quiet K)} {scale : Quiet K}

@[simp] theorem zero_defined : (0 : Vec2 (Quiet K)).Defined := ⟨trivial, trivial⟩

@[simp] theorem add_defined : (a + b).Defined ↔ a.Defined ∧ b.Defined := by
  simp only [Defined, add_x, add_y, Quiet.add_isNumber]
  exact and_and_and_comm

@[simp] theorem sub_defined : (a - b).Defined ↔ a.Defined ∧ b.Defined := by
  simp only [Defined, sub_x, sub_y, Quiet.sub_isNumber]
  exact and_and_and_comm

@[simp] theorem mul_defined : (vector * scale).Defined ↔ vector.Defined ∧ scale.IsNumber := by
  simp only [Defined, mul_x, mul_y, Quiet.mul_isNumber]
  exact and_and_and_comm.trans (and_congr_right fun _ => and_self_iff)

@[simp] theorem div_defined :
    (vector / scale).Defined ↔ vector.Defined ∧ scale.IsNumber ∧ scale ≠ 0 := by
  simp only [Defined, div_x, div_y, Quiet.div_isNumber]
  exact and_and_and_comm.trans (and_congr_right fun _ => and_self_iff)

theorem numbers_eq_zero {values : Vec2 K} : values.numbers = 0 ↔ values = 0 := by
  simp only [Vec2.ext_iff]
  exact and_congr Quiet.number_eq_zero Quiet.number_eq_zero

/-- Defined vectors with the difference zero are equal. -/
theorem sub_eq_zero_iff (defined : a.Defined) (definedB : b.Defined) : a - b = 0 ↔ a = b := by
  obtain ⟨valuesA, rfl⟩ := defined_iff.mp defined
  obtain ⟨valuesB, rfl⟩ := defined_iff.mp definedB
  have difference : valuesA.numbers - valuesB.numbers = (valuesA - valuesB).numbers := rfl
  rw [difference, numbers_eq_zero]
  simp only [Vec2.ext_iff, numbers, Quiet.number.injEq]
  exact and_congr sub_eq_zero sub_eq_zero

end Vec2

/-! ## The functions of `glm` -/

section Functions

variable [Glm K]

instance Quiet.glm : Glm (Quiet K) where
  sqrt := lift fun value => if value < 0 then nan else number (Glm.sqrt value)
  acos := lift fun value => if -1 ≤ value ∧ value ≤ 1 then number (Glm.acos value) else nan
  cos := lift fun value => number (Glm.cos value)
  sin := lift fun value => number (Glm.sin value)
  pi := number Glm.pi
  fmod := lift₂ fun a b => if b = 0 then nan else number (Glm.fmod a b)
  trunc := lift fun value => number (Glm.trunc value)
  -- what a NaN is converted to is unspecified
  toI32
    | number value => Glm.toI32 value
    | nan => 0
  length vector :=
    match vector.numbers? with
    | some vector => number (Glm.length vector)
    | none => nan
  normalize vector :=
    match vector.numbers? with
    | some vector => if vector = 0 then .undefined else (Glm.normalize vector).numbers
    | none => .undefined
  smoothstep low high value :=
    match low, high, value with
    | number low, number high, number value =>
        if low = high then nan else number (Glm.smoothstep low high value)
    | _, _, _ => nan
  closestPointOnLine point a b :=
    match point.numbers?, a.numbers?, b.numbers? with
    | some point, some a, some b =>
        if a = b then .undefined else (Glm.closestPointOnLine point a b).numbers
    | _, _, _ => .undefined

variable {a b point vector : Vec2 (Quiet K)} {values : Vec2 K}

theorem normalize_numbers (nonzero : values ≠ 0) :
    Glm.normalize values.numbers = (Glm.normalize values).numbers := if_neg nonzero

@[simp] theorem length_isNumber : (Glm.length vector).IsNumber ↔ vector.Defined := by
  by_cases defined : vector.Defined
  · obtain ⟨values, rfl⟩ := Vec2.defined_iff.mp defined
    exact iff_of_true trivial defined
  · have undefined : Glm.length vector = nan := by
      simp only [Glm.length, Vec2.numbers?_eq_none defined]
    rw [undefined]
    exact iff_of_false id defined

theorem length_eq_zero_iff (exact : ExactNorm K) (defined : vector.Defined) :
    Glm.length vector = 0 ↔ vector = 0 := by
  obtain ⟨values, rfl⟩ := Vec2.defined_iff.mp defined
  rw [Vec2.numbers_eq_zero, ← exact.length_eq_zero]
  exact Quiet.number_eq_zero

theorem normalize_undefined (noDirection : ¬(vector.Defined ∧ vector ≠ 0)) :
    Glm.normalize vector = .undefined := by
  by_cases defined : vector.Defined
  · obtain ⟨values, rfl⟩ := Vec2.defined_iff.mp defined
    have zero : values = 0 := by
      by_contra nonzero
      exact noDirection ⟨defined, fun isZero => nonzero (Vec2.numbers_eq_zero.mp isZero)⟩
    exact if_pos zero
  · simp only [Glm.normalize, Vec2.numbers?_eq_none defined]

@[simp] theorem normalize_defined :
    (Glm.normalize vector).Defined ↔ vector.Defined ∧ vector ≠ 0 := by
  by_cases direction : vector.Defined ∧ vector ≠ 0
  · obtain ⟨values, rfl⟩ := Vec2.defined_iff.mp direction.1
    have nonzero : values ≠ 0 := fun zero => direction.2 (Vec2.numbers_eq_zero.mpr zero)
    rw [normalize_numbers nonzero]
    exact iff_of_true (Vec2.numbers_defined _) direction
  · rw [normalize_undefined direction]
    exact iff_of_false Vec2.undefined_not_defined direction

/-- A segment with a length has a nearest point. -/
theorem closestPointOnLine_defined (definedPoint : point.Defined) (definedA : a.Defined)
    (definedB : b.Defined) (distinct : a ≠ b) :
    (Glm.closestPointOnLine point a b).Defined := by
  obtain ⟨valuesPoint, rfl⟩ := Vec2.defined_iff.mp definedPoint
  obtain ⟨valuesA, rfl⟩ := Vec2.defined_iff.mp definedA
  obtain ⟨valuesB, rfl⟩ := Vec2.defined_iff.mp definedB
  have different : valuesA ≠ valuesB := fun equal => distinct (congrArg Vec2.numbers equal)
  have nearest : Glm.closestPointOnLine valuesPoint.numbers valuesA.numbers valuesB.numbers =
      (Glm.closestPointOnLine valuesPoint valuesA valuesB).numbers := if_neg different
  rw [nearest]
  exact Vec2.numbers_defined _

/-! ## Angles -/

omit [Glm K] in
@[simp] theorem literal_isNumber (value : ℚ) : (literal value : Quiet K).IsNumber := trivial

omit [Glm K] in
@[simp] theorem sign_isNumber (value : Quiet K) : (Glm.sign value).IsNumber := by
  rw [Glm.sign]
  split
  · exact trivial
  · split
    · exact trivial
    · exact trivial

theorem acos_isNumber {value : Quiet K} :
    (Glm.acos value).IsNumber ↔ ∃ x, value = number x ∧ -1 ≤ x ∧ x ≤ 1 := by
  cases value with
  | nan => exact iff_of_false id (by simp)
  | number x =>
      by_cases inRange : -1 ≤ x ∧ x ≤ 1
      · have defined : Glm.acos (number x) = number (Glm.acos x) := if_pos inRange
        rw [defined]
        exact iff_of_true trivial ⟨x, rfl, inRange⟩
      · have undefined : Glm.acos (number x) = nan := if_neg inRange
        rw [undefined]
        refine iff_of_false id fun isNumber => ?_
        rcases isNumber with ⟨_, equal, holds⟩
        cases equal
        exact inRange holds

theorem fmod_isNumber {value : Quiet K} {divisor : K} (nonzero : divisor ≠ 0) :
    (Glm.fmod value (number divisor)).IsNumber ↔ value.IsNumber := by
  cases value with
  | nan => exact Iff.rfl
  | number value =>
      have defined : Glm.fmod (number value) (number divisor) = number (Glm.fmod value divisor) :=
        if_neg nonzero
      rw [defined]
      exact Iff.rfl

variable [IsStrictOrderedRing K]

theorem vectorAngle_isNumber (exact : ExactNorm K) :
    (vectorAngle vector).IsNumber ↔ ∃ x, vector.x = number x ∧ -1 ≤ x ∧ x ≤ 1 := by
  have full : ((360 : ℚ) : K) ≠ 0 := Rat.cast_ne_zero.mpr (by norm_num)
  have pi : (Glm.pi : Quiet K) ≠ 0 := fun zero => exact.pi_ne_zero (Quiet.number_eq_zero.mp zero)
  have halfTurn : (literal 180 / Glm.pi : Quiet K).IsNumber :=
    Quiet.div_isNumber.mpr ⟨trivial, trivial, pi⟩
  calc
    (vectorAngle vector).IsNumber ↔
        (Glm.degrees (Glm.acos vector.x * Glm.sign vector.y) + literal 360).IsNumber :=
      fmod_isNumber full
    _ ↔ (Glm.acos vector.x).IsNumber := by
      rw [Quiet.add_isNumber, Glm.degrees, Quiet.mul_isNumber, Quiet.mul_isNumber]
      simp only [halfTurn, sign_isNumber, literal_isNumber, and_true]
    _ ↔ _ := acos_isNumber

/-- Only the zero vector, divided by its length, has no angle. -/
theorem vectorAngle_unit (exact : ExactNorm K) :
    (vectorAngle (vector / Glm.length vector)).IsNumber ↔ vector.Defined ∧ vector ≠ 0 := by
  rw [vectorAngle_isNumber exact]
  constructor
  · intro inRange
    rcases inRange with ⟨x, isX, _⟩
    have quotient : (vector.x / Glm.length vector).IsNumber := by
      rw [← Vec2.div_x, isX]
      trivial
    obtain ⟨_, isLength, nonzero⟩ := Quiet.div_isNumber.mp quotient
    have defined := length_isNumber.mp isLength
    exact ⟨defined, fun zero => nonzero ((length_eq_zero_iff exact defined).mpr zero)⟩
  · intro direction
    rcases direction with ⟨defined, nonzero⟩
    obtain ⟨values, rfl⟩ := Vec2.defined_iff.mp defined
    have different : values ≠ 0 := fun zero => nonzero (Vec2.numbers_eq_zero.mpr zero)
    have length : Glm.length values ≠ 0 := fun zero =>
      different ((exact.length_eq_zero values).mp zero)
    have bound := exact.abs_x_le values
    have positive : 0 < Glm.length values :=
      lt_of_le_of_ne (le_trans (abs_nonneg _) bound) (Ne.symm length)
    refine ⟨values.x / Glm.length values, Quiet.number_div _ length, ?_⟩
    rw [← abs_le, abs_div, abs_of_pos positive]
    exact (div_le_one positive).mpr bound

theorem vectorAngle_normalize (exact : ExactNorm K) :
    (vectorAngle (Glm.normalize vector)).IsNumber ↔ vector.Defined ∧ vector ≠ 0 := by
  by_cases direction : vector.Defined ∧ vector ≠ 0
  · obtain ⟨values, rfl⟩ := Vec2.defined_iff.mp direction.1
    have nonzero : values ≠ 0 := fun zero => direction.2 (Vec2.numbers_eq_zero.mpr zero)
    have length : Glm.length values ≠ 0 := fun zero =>
      nonzero ((exact.length_eq_zero values).mp zero)
    have unit : Glm.normalize values.numbers = values.numbers / Glm.length values.numbers := by
      rw [normalize_numbers nonzero, exact.normalize_eq values nonzero]
      exact Vec2.ext (Quiet.number_div _ length).symm (Quiet.number_div _ length).symm
    rw [unit]
    exact vectorAngle_unit exact
  · rw [normalize_undefined direction, vectorAngle_isNumber exact]
    refine iff_of_false (fun isNumber => ?_) direction
    rcases isNumber with ⟨_, impossible, _⟩
    cases impossible

end Functions

end TowerDefence
