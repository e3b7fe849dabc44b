import Mathlib.Algebra.Order.Ring.Rat
import Mathlib.Data.Nat.Sqrt
import Mathlib.Data.Rat.Floor
import Mathlib.Tactic.Linarith
import TowerDefence.Model.Session

/-!
# Executable instances

Rational arithmetic makes the model executable.  The rationals lack square roots
and the trigonometric functions, so the instance of `Glm` is exact only where the
values are rational: lengths and distances along an axis, square roots of squares,
and right angles.  Angles are measured in degrees.
-/

namespace TowerDefence

namespace Rational

/-- The taxicab length, which is the Euclidean length along an axis. -/
def length (vector : Vec2 ℚ) : ℚ := |vector.x| + |vector.y|

def closestPointOnLine (point a b : Vec2 ℚ) : Vec2 ℚ :=
  let lineLength := length (b - a)
  let direction := (b - a) / lineLength
  let along := Glm.dot (point - a) direction
  if along ≤ 0 then a else if lineLength ≤ along then b else a + direction * along

def truncate (value : ℚ) : Int := if 0 ≤ value then ⌊value⌋ else -⌊-value⌋

def smoothstep (low high value : ℚ) : ℚ :=
  let amount := max 0 (min 1 ((value - low) / (high - low)))
  amount * amount * (3 - 2 * amount)

/-- The root of a natural number, rounded up. -/
def ceilSqrt (value : ℕ) : ℕ :=
  if Nat.sqrt value * Nat.sqrt value = value then Nat.sqrt value else Nat.sqrt value + 1

/-- The root, if the value is a square, and else a number above it. -/
def sqrt (value : ℚ) : ℚ := (ceilSqrt value.num.toNat : ℚ) / (Nat.sqrt value.den : ℚ)

instance : Glm ℚ where
  sqrt := sqrt
  acos value := if value = 1 then 0 else if value = 0 then 90 else 180
  cos angle := if angle = 0 then 1 else if angle = 180 then -1 else 0
  sin angle := if angle = 90 then 1 else if angle = 270 then -1 else 0
  pi := 180
  fmod a b := a - b * truncate (a / b)
  trunc value := truncate value
  toI32 value := Int32.ofInt (truncate value)
  length := length
  normalize vector := vector / length vector
  smoothstep := smoothstep
  closestPointOnLine := closestPointOnLine

/-- Scaling a vector scales its length. -/
theorem length_mul (vector : Vec2 ℚ) (scale : ℚ) (nonneg : 0 ≤ scale) :
    Glm.length (vector * scale) = Glm.length vector * scale := by
  show |vector.x * scale| + |vector.y * scale| = (|vector.x| + |vector.y|) * scale
  rw [abs_mul, abs_mul, abs_of_nonneg nonneg, add_mul]

theorem le_ceilSqrt_mul_self (value : ℕ) : value ≤ ceilSqrt value * ceilSqrt value := by
  rw [ceilSqrt]
  split
  case isTrue square => exact square.ge
  case isFalse => exact (Nat.lt_succ_sqrt value).le

theorem ceilSqrt_eq_zero {value : ℕ} : ceilSqrt value = 0 ↔ value = 0 := by
  constructor
  · intro zero
    have bound := le_ceilSqrt_mul_self value
    rw [zero] at bound
    exact Nat.le_zero.mp bound
  · intro zero
    rw [zero]
    rfl

theorem smoothstep_bounds (low high value : ℚ) :
    0 ≤ smoothstep low high value ∧ smoothstep low high value ≤ 1 := by
  rw [smoothstep]
  generalize amountDef : max 0 (min 1 ((value - low) / (high - low))) = amount
  have nonneg : 0 ≤ amount := amountDef ▸ le_max_left _ _
  have atMost : amount ≤ 1 := amountDef ▸ max_le zero_le_one (min_le_left _ _)
  constructor
  · exact mul_nonneg (mul_self_nonneg amount) (by linarith)
  · have rest : 0 ≤ (1 - amount) * (1 - amount) * (1 + 2 * amount) :=
      mul_nonneg (mul_self_nonneg _) (by linarith)
    linarith

theorem exactBounds : ExactBounds ℚ where
  abs_x_le vector := le_add_of_nonneg_right (abs_nonneg vector.y)
  abs_y_le vector := le_add_of_nonneg_left (abs_nonneg vector.x)
  length_le _ := le_rfl
  sqrt_nonneg _ _ := div_nonneg (Nat.cast_nonneg _) (Nat.cast_nonneg _)
  le_sqrt_mul_self value nonneg := by
    show value ≤ sqrt value * sqrt value
    have denominator : (0 : ℚ) < Nat.sqrt value.den :=
      Nat.cast_pos.mpr (Nat.sqrt_pos.mpr value.pos)
    have numerator : (value.num : ℚ) ≤ (ceilSqrt value.num.toNat : ℚ) *
        (ceilSqrt value.num.toNat : ℚ) := by
      rw [← Int.toNat_of_nonneg (Rat.num_nonneg.mpr nonneg)]
      exact_mod_cast le_ceilSqrt_mul_self value.num.toNat
    have floor : (Nat.sqrt value.den : ℚ) * (Nat.sqrt value.den : ℚ) ≤ value.den := by
      exact_mod_cast Nat.sqrt_le value.den
    rw [sqrt, div_mul_div_comm, le_div_iff₀ (mul_pos denominator denominator)]
    calc
      value * ((Nat.sqrt value.den : ℚ) * (Nat.sqrt value.den : ℚ)) ≤ value * value.den :=
        mul_le_mul_of_nonneg_left floor nonneg
      _ = value.num := Rat.mul_den_eq_num value
      _ ≤ _ := numerator
  smoothstep_nonneg low high value _ := (smoothstep_bounds low high value).1
  smoothstep_le_one low high value _ := (smoothstep_bounds low high value).2
  smoothstep_of_le low high value edges atMost := by
    have below : (value - low) / (high - low) ≤ 0 :=
      div_nonpos_of_nonpos_of_nonneg (sub_nonpos.mpr atMost) (sub_nonneg.mpr edges.le)
    have amount : max 0 (min 1 ((value - low) / (high - low))) = 0 :=
      max_eq_left (le_trans (min_le_right _ _) below)
    show smoothstep low high value = 0
    rw [smoothstep, amount]
    norm_num

theorem exactTrunc : ExactTrunc ℚ where
  of_nonneg value nonneg := by
    refine ⟨⌊value⌋, ?_, Int.floor_le value, Int.lt_floor_add_one value⟩
    show ((truncate value : Int) : ℚ) = _
    rw [truncate, if_pos nonneg]
  of_nonpos value nonpos := by
    have below := Int.lt_floor_add_one (-value)
    have above := Int.floor_le (-value)
    refine ⟨-⌊-value⌋, ?_, ?_, ?_⟩
    · show ((truncate value : Int) : ℚ) = _
      rw [truncate]
      rcases nonpos.lt_or_eq with negative | isZero
      · rw [if_neg negative.not_ge]
      · rw [isZero, if_pos le_rfl, neg_zero, Int.floor_zero, neg_zero]
    · rw [Int.cast_neg]
      linarith
    · rw [Int.cast_neg]
      linarith
  toI32 whole atLeast below := by
    show (Int32.ofInt (truncate (whole : ℚ))).toInt = whole
    have isWhole : truncate (whole : ℚ) = whole := by
      rw [truncate]
      split
      · exact Int.floor_intCast whole
      · rw [← Int.cast_neg, Int.floor_intCast, neg_neg]
    rw [isWhole, Int32.toInt_ofInt_of_le atLeast below]

/-- A platform whose random engine counts its draws: successive shifts differ
along the path and keep the same distance to it. -/
def platform : Platform ℚ Nat where
  std := .merge
  defaultEngine := 0
  randomShift draws := (⟨-(draws % 4 : ℕ) / 4, 1 / 2⟩, draws + 1)

/-- A map with a straight path, three enemy types and two tower types. -/
def meadow : MapData ℚ where
  enemyPath := { debugName := "path", waypoints := [⟨0, 0⟩, ⟨100, 0⟩], distancesToGoal := [100, 0] }
  enemyTypes :=
    [{ name := "soldier", tileId := 0, maxHealth := 10, speed := 1, goldReward := 7,
       unitsPerSpawn := 1 },
     { name := "scout", tileId := 1, maxHealth := 1, speed := 1, goldReward := 5,
       unitsPerSpawn := 1 },
     { name := "giant", tileId := 2, maxHealth := 20, speed := 1, goldReward := 9,
       unitsPerSpawn := 1 }]
  towerTypes :=
    [{ name := "cannon", tileId := 3, cost := 5, range := 10, shotsPerSecond := 1,
       projectileTypeIdx := 0 },
     { name := "bow", tileId := 4, cost := 5, range := 10, shotsPerSecond := 1,
       projectileTypeIdx := 1 }]
  projectileTypes :=
    [{ name := "cannon_Projectile", tileId := 5, damage := 10, speed := 4, splashRadius := 0,
       hitTileId := 6 },
     { name := "bow_Projectile", tileId := 7, damage := 1 - 1 / 2 ^ 24, speed := 4,
       splashRadius := 0, hitTileId := 8 }]
  buildableMap := { width := 0, height := 0, grid := [] }

/-- A session on the meadow whose steps last one second. -/
def meadowBoot : Boot ℚ Nat where
  mapData := meadow
  startingGold := 20
  startingLives := 3
  fixedTimeDelta := 1
  otherBuffer :=
    { randomEngine := 0, playerState := ⟨0, 0⟩, enemies := [], towers := [], projectiles := [],
      nextObjectId := 0 }
  playerState := ⟨0, 0⟩
  enemyQueryStorage := []

/-- One enemy walks towards one tower for five steps. -/
def duel (enemyType towerType : Nat) : List (List (GameCommand ℚ)) :=
  [[.debugSpawnEnemy enemyType, .buildTower towerType ⟨4, 1 / 2⟩], [], [], [], []]

end Rational

end TowerDefence
