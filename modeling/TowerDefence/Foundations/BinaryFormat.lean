import Mathlib.Algebra.Order.Ring.Unbundled.Rat
import Mathlib.Algebra.Order.SuccPred
import Mathlib.Data.Int.ConditionallyCompleteOrder
import Mathlib.Data.Int.Interval
import Mathlib.Data.Set.Card
import Mathlib.Order.Interval.Set.UnorderedInterval
import Mathlib.Tactic.NormNum
import Mathlib.Tactic.Ring

/-!
# Binary floating-point formats

A number of such a format is a sign and a magnitude, whose upper bits are the exponent and
whose lower bits are the fraction.  Read as one integer, the magnitude orders the numbers as
their values do: the next integer belongs to the next value.
-/

namespace TowerDefence.Foundations

/-- The widths of the two fields of a magnitude. -/
structure BinaryFormat where
  exponentBits : Nat
  fractionBits : Nat

namespace BinaryFormat

variable (format : BinaryFormat)

/-! ## Finite numbers -/

section Finite

def exponent (magnitude : Nat) : Nat := magnitude / 2 ^ format.fractionBits

def fraction (magnitude : Nat) : Nat := magnitude % 2 ^ format.fractionBits

def bias : Int := 2 ^ (format.exponentBits - 1) - 1

/-- The smallest positive number. -/
def unit : ℚ := 2 ^ (1 - format.bias - format.fractionBits)

/-- A magnitude as a multiple of the smallest positive number.  Every exponent but the lowest
puts a bit before the fraction. -/
def units (magnitude : Nat) : Nat :=
  if format.exponent magnitude = 0 then format.fraction magnitude
  else (2 ^ format.fractionBits + format.fraction magnitude) *
    2 ^ (format.exponent magnitude - 1)

/-- The finite number with a magnitude above or below zero. -/
def finite : Int → ℚ
  | .ofNat magnitude => format.units magnitude * format.unit
  | .negSucc magnitude => -(format.units (magnitude + 1) * format.unit)

variable {format}

theorem unit_pos : 0 < format.unit := zpow_pos two_pos _

theorem units_zero : format.units 0 = 0 := by
  rw [units, exponent, fraction, Nat.zero_div, Nat.zero_mod, if_pos rfl]

/-- The next magnitude has the next fraction, or else the next exponent and no fraction. -/
theorem succ_cases (magnitude : Nat) :
    (format.exponent (magnitude + 1) = format.exponent magnitude ∧
      format.fraction (magnitude + 1) = format.fraction magnitude + 1) ∨
    (format.exponent (magnitude + 1) = format.exponent magnitude + 1 ∧
      format.fraction (magnitude + 1) = 0 ∧
      format.fraction magnitude + 1 = 2 ^ format.fractionBits) := by
  have positive : 0 < 2 ^ format.fractionBits := Nat.two_pow_pos _
  have parts := Nat.div_add_mod magnitude (2 ^ format.fractionBits)
  have below := Nat.mod_lt magnitude positive
  unfold exponent fraction
  rcases Nat.lt_or_eq_of_le (Nat.succ_le_of_lt below) with inside | full
  · have next : magnitude + 1 = (magnitude % 2 ^ format.fractionBits + 1) +
        2 ^ format.fractionBits * (magnitude / 2 ^ format.fractionBits) := by omega
    refine .inl ⟨?_, ?_⟩
    · rw [next, Nat.add_mul_div_left _ _ positive, Nat.div_eq_of_lt inside, zero_add]
    · rw [next, Nat.add_mul_mod_self_left, Nat.mod_eq_of_lt inside]
  · have next : magnitude + 1 =
        2 ^ format.fractionBits * (magnitude / 2 ^ format.fractionBits + 1) := by
      rw [Nat.mul_succ]
      omega
    refine .inr ⟨?_, ?_, full⟩
    · rw [next, Nat.mul_div_cancel_left _ positive]
    · rw [next, Nat.mul_mod_right]

/-- The next magnitude has at least one unit more. -/
theorem units_lt_succ (magnitude : Nat) :
    format.units magnitude < format.units (magnitude + 1) := by
  rcases succ_cases magnitude with ⟨sameExponent, nextFraction⟩ | ⟨nextExponent, none, full⟩
  · rw [units, units, sameExponent, nextFraction]
    split
    · exact Nat.lt_succ_self _
    · exact Nat.mul_lt_mul_of_pos_right (Nat.lt_succ_self _) (Nat.two_pow_pos _)
  · rw [units, units, nextExponent, none, if_neg (Nat.succ_ne_zero _), add_zero,
      Nat.add_sub_cancel]
    split
    case isTrue lowest =>
      rw [lowest, pow_zero, mul_one]
      omega
    case isFalse normal =>
      -- the doubled leading bit is the next power of two
      have double : 2 ^ format.exponent magnitude = 2 * 2 ^ (format.exponent magnitude - 1) := by
        rw [← pow_succ', Nat.sub_add_cancel (Nat.pos_of_ne_zero normal)]
      rw [double, ← mul_assoc]
      refine Nat.mul_lt_mul_of_pos_right ?_ (Nat.two_pow_pos _)
      omega

theorem finite_lt_succ (ordinal : Int) : format.finite ordinal < format.finite (ordinal + 1) := by
  match ordinal with
  | .ofNat magnitude =>
      exact mul_lt_mul_of_pos_right (Nat.cast_lt.mpr (units_lt_succ magnitude)) unit_pos
  | .negSucc 0 =>
      have least : 0 < format.units 1 := by
        rw [← units_zero]
        exact units_lt_succ 0
      show -(format.units 1 * format.unit) < format.units 0 * format.unit
      rw [units_zero, Nat.cast_zero, zero_mul, neg_lt_zero]
      exact mul_pos (Nat.cast_pos.mpr least) unit_pos
  | .negSucc (magnitude + 1) =>
      exact neg_lt_neg
        (mul_lt_mul_of_pos_right (Nat.cast_lt.mpr (units_lt_succ (magnitude + 1))) unit_pos)

theorem finite_strictMono : StrictMono format.finite := strictMono_int_of_lt_succ finite_lt_succ

end Finite

/-! ## All numbers -/

section Numbers

/-- The magnitude of the infinities: the highest exponent without a fraction.  Beyond it are the
magnitudes that are no numbers. -/
def infinity : Nat := (2 ^ format.exponentBits - 1) * 2 ^ format.fractionBits

/-- The ordinals of the numbers, infinities included.  Both zeros have the ordinal zero. -/
def ordinals : Set Int := Set.Icc (-format.infinity) format.infinity

def value (ordinal : Int) : WithBot (WithTop ℚ) :=
  if ordinal = format.infinity then (⊤ : WithTop ℚ)
  else if ordinal = -format.infinity then ⊥
  else (format.finite ordinal : WithTop ℚ)

variable {format} {a b : Int}

/-- The next ordinal belongs to the next value. -/
theorem value_strictMonoOn : StrictMonoOn format.value format.ordinals := by
  intro a memberA b memberB less
  obtain ⟨lowest, _⟩ := memberA
  obtain ⟨_, highest⟩ := memberB
  have notTop : a ≠ format.infinity := (less.trans_le highest).ne
  have notBottom : b ≠ -format.infinity := (lowest.trans_lt less).ne'
  rw [value, value, if_neg notTop, if_neg notBottom]
  rcases eq_or_ne a (-format.infinity) with bottom | finiteA
  · rw [if_pos bottom]
    split
    · exact WithBot.bot_lt_coe _
    · exact WithBot.bot_lt_coe _
  · rw [if_neg finiteA]
    split
    · exact WithBot.coe_lt_coe.mpr (WithTop.coe_lt_top _)
    · exact WithBot.coe_lt_coe.mpr (WithTop.coe_lt_coe.mpr (finite_strictMono less))

/-- The numbers from one number up to another. -/
theorem values_between (memberA : a ∈ format.ordinals) (memberB : b ∈ format.ordinals) :
    format.value '' format.ordinals ∩ Set.Ioc (format.value a) (format.value b) =
      format.value '' Set.Ioc a b := by
  ext number
  constructor
  · rintro ⟨⟨ordinal, member, rfl⟩, above, upTo⟩
    exact ⟨ordinal, ⟨(value_strictMonoOn.lt_iff_lt memberA member).mp above,
      (value_strictMonoOn.le_iff_le member memberB).mp upTo⟩, rfl⟩
  · rintro ⟨ordinal, ⟨above, upTo⟩, rfl⟩
    have member : ordinal ∈ format.ordinals :=
      ⟨memberA.1.trans above.le, upTo.trans memberB.2⟩
    exact ⟨⟨ordinal, member, rfl⟩, value_strictMonoOn memberA member above,
      (value_strictMonoOn.le_iff_le member memberB).mpr upTo⟩

theorem ncard_between (memberA : a ∈ format.ordinals) (memberB : b ∈ format.ordinals) :
    (format.value '' format.ordinals ∩ Set.Ioc (format.value a) (format.value b)).ncard =
      (b - a).toNat := by
  have members : Set.Ioc a b ⊆ format.ordinals := fun ordinal between =>
    ⟨memberA.1.trans between.1.le, between.2.trans memberB.2⟩
  rw [values_between memberA memberB,
    (value_strictMonoOn.injOn.mono members).ncard_image, ← Finset.coe_Ioc,
    Set.ncard_coe_finset, Int.card_Ioc]

/-- There are as many numbers from one number to another as steps between their ordinals. -/
theorem ncard_values (memberA : a ∈ format.ordinals) (memberB : b ∈ format.ordinals) :
    (format.value '' format.ordinals ∩ Set.uIoc (format.value a) (format.value b)).ncard =
      (a - b).natAbs := by
  rcases le_total a b with upwards | downwards
  · rw [Set.uIoc_of_le ((value_strictMonoOn.le_iff_le memberA memberB).mpr upwards),
      ncard_between memberA memberB]
    omega
  · rw [Set.uIoc_of_ge ((value_strictMonoOn.le_iff_le memberB memberA).mpr downwards),
      ncard_between memberB memberA]
    omega

end Numbers

end BinaryFormat

end TowerDefence.Foundations
