import Mathlib.Algebra.Order.Field.Basic

/-!
# Numbers with an undefined value

The numbers of a field, with one more value for the operations that have no result.
As with the quiet NaN of floating-point arithmetic, every operation passes it on and
every comparison with it fails.  Nothing is rounded, and there are no infinities: all
divisions by zero are undefined.
-/

namespace TowerDefence.Foundations

/-- A number, or the result of an undefined operation. -/
inductive Quiet (K : Type) where
  | nan
  | number (value : K)
  deriving DecidableEq, Repr

namespace Quiet

variable {K : Type}

/-- The value is defined. -/
def IsNumber : Quiet K → Prop
  | nan => False
  | number _ => True

instance : DecidablePred (IsNumber (K := K))
  | nan => isFalse id
  | number _ => isTrue trivial

@[simp] theorem isNumber_number (value : K) : (number value).IsNumber := trivial

@[simp] theorem not_isNumber_nan : ¬(nan : Quiet K).IsNumber := id

theorem isNumber_iff {a : Quiet K} : a.IsNumber ↔ ∃ value, a = number value := by
  cases a with
  | nan => simp
  | number value => simp

/-- A function of one number. -/
def lift (f : K → Quiet K) : Quiet K → Quiet K
  | number value => f value
  | nan => nan

/-- A function of two numbers. -/
def lift₂ (f : K → K → Quiet K) : Quiet K → Quiet K → Quiet K
  | number a, number b => f a b
  | _, _ => nan

/-- An operation that is defined for all numbers. -/
theorem lift₂_isNumber (operation : K → K → K) (a b : Quiet K) :
    (lift₂ (fun a b => number (operation a b)) a b).IsNumber ↔ a.IsNumber ∧ b.IsNumber := by
  cases a with
  | nan => exact iff_of_false id fun defined => defined.1
  | number a =>
      cases b with
      | nan => exact iff_of_false id fun defined => defined.2
      | number b => exact iff_of_true trivial ⟨trivial, trivial⟩

/-! ## Operations -/

section Operations

variable [Field K]

instance : Zero (Quiet K) := ⟨number 0⟩
instance : One (Quiet K) := ⟨number 1⟩
instance : Add (Quiet K) := ⟨lift₂ fun a b => number (a + b)⟩
instance : Sub (Quiet K) := ⟨lift₂ fun a b => number (a - b)⟩
instance : Neg (Quiet K) := ⟨lift fun a => number (-a)⟩
instance : Mul (Quiet K) := ⟨lift₂ fun a b => number (a * b)⟩

instance [DecidableEq K] : Div (Quiet K) :=
  ⟨lift₂ fun a b => if b = 0 then nan else number (a / b)⟩

@[simp] theorem number_zero : (number 0 : Quiet K) = 0 := rfl

theorem number_div [DecidableEq K] (a : K) {b : K} (nonzero : b ≠ 0) :
    number a / number b = number (a / b) := if_neg nonzero

theorem number_eq_zero {a : K} : (number a : Quiet K) = 0 ↔ a = 0 := by
  rw [← number_zero, number.injEq]

@[simp] theorem isNumber_zero : (0 : Quiet K).IsNumber := trivial

@[simp] theorem isNumber_one : (1 : Quiet K).IsNumber := trivial

@[simp] theorem add_isNumber {a b : Quiet K} : (a + b).IsNumber ↔ a.IsNumber ∧ b.IsNumber :=
  lift₂_isNumber (· + ·) a b

@[simp] theorem sub_isNumber {a b : Quiet K} : (a - b).IsNumber ↔ a.IsNumber ∧ b.IsNumber :=
  lift₂_isNumber (· - ·) a b

@[simp] theorem mul_isNumber {a b : Quiet K} : (a * b).IsNumber ↔ a.IsNumber ∧ b.IsNumber :=
  lift₂_isNumber (· * ·) a b

/-- A quotient is defined unless the divisor is zero. -/
@[simp] theorem div_isNumber [DecidableEq K] {a b : Quiet K} :
    (a / b).IsNumber ↔ a.IsNumber ∧ b.IsNumber ∧ b ≠ 0 := by
  cases a with
  | nan => exact iff_of_false id fun defined => defined.1
  | number a =>
      cases b with
      | nan => exact iff_of_false id fun defined => defined.2.1
      | number b =>
          by_cases zero : b = 0
          · have undefined : number a / number b = nan := if_pos zero
            rw [undefined]
            exact iff_of_false id fun defined => defined.2.2 (number_eq_zero.mpr zero)
          · rw [number_div a zero]
            exact iff_of_true trivial
              ⟨trivial, trivial, fun equal => zero (number_eq_zero.mp equal)⟩

end Operations

/-! ## Comparisons -/

section Comparisons

variable [LinearOrder K]

/-- The comparison of two numbers; it fails when one of them is undefined. -/
def compares (holds : K → K → Prop) : Quiet K → Quiet K → Prop
  | number a, number b => holds a b
  | _, _ => False

instance : LT (Quiet K) := ⟨compares (· < ·)⟩
instance : LE (Quiet K) := ⟨compares (· ≤ ·)⟩

instance decidableCompares (holds : K → K → Prop) [∀ a b, Decidable (holds a b)] :
    ∀ a b : Quiet K, Decidable (compares holds a b)
  | number a, number b => inferInstanceAs (Decidable (holds a b))
  | nan, _ => isFalse id
  | number _, nan => isFalse id

instance : DecidableLT (Quiet K) := decidableCompares (· < ·)
instance : DecidableLE (Quiet K) := decidableCompares (· ≤ ·)

@[simp] theorem number_lt (a b : K) : number a < number b ↔ a < b := Iff.rfl
@[simp] theorem number_le (a b : K) : number a ≤ number b ↔ a ≤ b := Iff.rfl

end Comparisons

end Quiet

end TowerDefence.Foundations
