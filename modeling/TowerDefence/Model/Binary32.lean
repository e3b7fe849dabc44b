import TowerDefence.Foundations.BinaryFormat

/-!
# Comparing bit patterns

`AreNearlyEqUlps` of `engine/math.h` compares the bit patterns of two `float` as signed
integers.  The subtraction and `std::abs` of an `i32` have no defined result that an `i32`
cannot hold.
-/

namespace TowerDefence

/-- `float`. -/
structure Binary32 where
  bits : BitVec 32
  deriving DecidableEq

namespace Binary32

open Foundations (BinaryFormat)

/-- Eight bits of exponent, twenty-three of fraction. -/
def format : BinaryFormat := ⟨8, 23⟩

def isNegative (a : Binary32) : Bool := a.bits.msb

def magnitude (a : Binary32) : Nat := a.bits.toNat % 2 ^ 31

def isNaN (a : Binary32) : Bool := format.infinity < a.magnitude

def ordinal (a : Binary32) : Int := if a.isNegative then -a.magnitude else a.magnitude

/-- The value of a pattern that is no NaN. -/
def value (a : Binary32) : WithBot (WithTop ℚ) := format.value a.ordinal

/-- `a < b`, which is false of a NaN. -/
def lt (a b : Binary32) : Bool := !a.isNaN && !b.isNaN && a.value < b.value

/-- `0.0f`. -/
def zero : Binary32 := ⟨0#32⟩

/-- `-0.0f`. -/
def negativeZero : Binary32 := ⟨0x80000000#32⟩

end Binary32

/-! ## Signed integers -/

/-- Arithmetic on signed integers whose result is not defined. -/
inductive SignedOverflow where
  | signedOverflow
  deriving DecidableEq, Repr

/-- The result of an operation on `i32`. -/
def i32Result (value : Int) : Except SignedOverflow Int :=
  if -2 ^ 31 ≤ value ∧ value < 2 ^ 31 then .ok value else .error .signedOverflow

/-! ## `engine/math.h` -/

/-- `ReinterpretAsInt`. -/
def reinterpretAsInt (value : Binary32) : Int := value.bits.toInt

/-- `DEFAULT_MAX_ULPS`. -/
def defaultMaxUlps : UInt32 := 2

/-- `AreNearlyEqUlps`. -/
def areNearlyEqUlps (a b : Binary32) (maxUlpsDiff : UInt32) : Except SignedOverflow Bool := do
  if a.lt .zero ≠ b.lt .zero then
    return false
  let aInt := reinterpretAsInt a
  let bInt := reinterpretAsInt b
  let difference ← i32Result (aInt - bInt)
  let ulpsDiff ← i32Result |difference|
  return ulpsDiff.toNat ≤ maxUlpsDiff.toNat

end TowerDefence
