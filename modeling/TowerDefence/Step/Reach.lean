import TowerDefence.Step.Flocking

/-!
# How far an enemy moves in a step

The speed of its type bounds the velocity of an enemy, and every enemy that is too close
adds at most one unit of push.  So the place of an enemy after the step is known from the
state before it up to a bound, its reach.
-/

namespace TowerDefence

open Foundations GameState

variable {F R : Type} [Arithmetic F]

/-- The absolute value. -/
def magnitude (value : F) : F := if value < 0 then -value else value

/-- No component of the vector exceeds the bound. -/
def Vec2.Within (bound : F) (vector : Vec2 F) : Prop :=
  magnitude vector.x ≤ bound ∧ magnitude vector.y ≤ bound

instance (bound : F) (vector : Vec2 F) : Decidable (vector.Within bound) :=
  inferInstanceAs (Decidable (_ ∧ _))

/-- With what one unit of push changes the velocity of an enemy of the type. -/
def EnemyType.push (delta : F) (type : EnemyType F) : F :=
  (flockPushbackFactor : F) * (type.speed * accelerationFactor) * delta

/-- A bound for the way of an enemy of the type that `crowd` others push. -/
def EnemyType.reach (delta : F) (type : EnemyType F) (crowd : Nat) : F :=
  (magnitude type.speed + (ofInt crowd : F) * magnitude (type.push delta)) * magnitude delta

/-- The entry's enemy cannot get farther from its place in one step. -/
def Enemy.reach (mapData : MapData F) (enemies : List (Enemy F)) (delta : F)
    (entry : Enemy F × Nat) : F :=
  match mapData.enemyTypes[entry.1.typeIdx]? with
  | some type => type.reach delta (entry.1.crowd entry.2 enemies.zipIdx).length
  | none => 0

theorem Enemy.reach_of_typed {mapData : MapData F} {enemies : List (Enemy F)} {delta : F}
    {entry : Enemy F × Nat} {type : EnemyType F}
    (typed : mapData.enemyTypes[entry.1.typeIdx]? = some type) :
    Enemy.reach mapData enemies delta entry =
      type.reach delta (entry.1.crowd entry.2 enemies.zipIdx).length := by
  rw [Enemy.reach, typed]

section Exact

variable {F : Type} [Field F] [LinearOrder F] [IsStrictOrderedRing F]

theorem magnitude_eq_abs (value : F) : magnitude value = |value| := by
  rw [magnitude]
  split
  case isTrue negative => exact (abs_of_neg negative).symm
  case isFalse nonneg => exact (abs_of_nonneg (not_lt.mp nonneg)).symm

namespace Vec2.Within

variable {bound other : F} {a b vector : Vec2 F}

theorem of_abs (first : |vector.x| ≤ bound) (second : |vector.y| ≤ bound) :
    vector.Within bound :=
  ⟨(magnitude_eq_abs _).trans_le first, (magnitude_eq_abs _).trans_le second⟩

theorem abs_x_le (within : vector.Within bound) : |vector.x| ≤ bound :=
  (magnitude_eq_abs _).symm.trans_le within.1

theorem abs_y_le (within : vector.Within bound) : |vector.y| ≤ bound :=
  (magnitude_eq_abs _).symm.trans_le within.2

theorem zero : (0 : Vec2 F).Within 0 := of_abs abs_zero.le abs_zero.le

theorem mono (within : vector.Within bound) (atMost : bound ≤ other) : vector.Within other :=
  of_abs (within.abs_x_le.trans atMost) (within.abs_y_le.trans atMost)

theorem add (first : a.Within bound) (second : b.Within other) : (a + b).Within (bound + other) :=
  of_abs ((abs_add_le _ _).trans (add_le_add first.abs_x_le second.abs_x_le))
    ((abs_add_le _ _).trans (add_le_add first.abs_y_le second.abs_y_le))

theorem swap (within : (a - b).Within bound) : (b - a).Within bound := by
  constructor
  · rw [magnitude_eq_abs, sub_x, abs_sub_comm]
    exact within.abs_x_le
  · rw [magnitude_eq_abs, sub_y, abs_sub_comm]
    exact within.abs_y_le

/-- The way from `a` to `vector` leads over `b`. -/
theorem trans (first : (b - a).Within bound) (second : (vector - b).Within other) :
    (vector - a).Within (bound + other) := by
  have way : vector - a = (b - a) + (vector - b) := by
    apply Vec2.ext
    · simp only [sub_x, add_x]
      ring
    · simp only [sub_y, add_y]
      ring
  rw [way]
  exact first.add second

theorem mul (within : vector.Within bound) (scale : F) :
    (vector * scale).Within (bound * |scale|) := by
  apply of_abs
  · rw [mul_x, abs_mul]
    exact mul_le_mul_of_nonneg_right within.abs_x_le (abs_nonneg scale)
  · rw [mul_y, abs_mul]
    exact mul_le_mul_of_nonneg_right within.abs_y_le (abs_nonneg scale)

/-- A vector whose squared length is bounded by a square. -/
theorem of_lengthSqr_le (nonneg : 0 ≤ bound) (atMost : lengthSqr vector ≤ bound * bound) :
    vector.Within bound := by
  have sum : vector.x * vector.x + vector.y * vector.y ≤ bound * bound := atMost
  apply of_abs
  · rw [← abs_of_nonneg nonneg]
    exact abs_le_iff_mul_self_le.mpr (le_trans (le_add_of_nonneg_right (mul_self_nonneg _)) sum)
  · rw [← abs_of_nonneg nonneg]
    exact abs_le_iff_mul_self_le.mpr (le_trans (le_add_of_nonneg_left (mul_self_nonneg _)) sum)

/-- A quotient by a bound of the vector has no component above 1. -/
theorem div_self (nonneg : 0 ≤ bound) (within : vector.Within bound) :
    (vector / bound).Within 1 := by
  apply of_abs
  · rw [div_x, abs_div, abs_of_nonneg nonneg]
    exact div_le_one_of_le₀ within.abs_x_le nonneg
  · rw [div_y, abs_div, abs_of_nonneg nonneg]
    exact div_le_one_of_le₀ within.abs_y_le nonneg

end Vec2.Within

section Motion

theorem flockSpacing_lt : (flockMinimumSpacing : F) < flockDesiredSpacing :=
  Rat.cast_lt.mpr (by norm_num)

variable [Glm F]

theorem ExactBounds.length_nonneg (bounds : ExactBounds F) (vector : Vec2 F) :
    0 ≤ Glm.length vector :=
  (abs_nonneg _).trans (bounds.abs_x_le vector)

theorem ExactBounds.within_length (bounds : ExactBounds F) (vector : Vec2 F) :
    vector.Within (Glm.length vector) :=
  .of_abs (bounds.abs_x_le vector) (bounds.abs_y_le vector)

theorem ExactBounds.unit_within (bounds : ExactBounds F) (vector : Vec2 F) :
    (vector / Glm.length vector).Within 1 :=
  Vec2.Within.div_self (bounds.length_nonneg vector) (bounds.within_length vector)

/-- The velocity of an enemy is cut to the speed of its type. -/
theorem Enemy.limited_within (bounds : ExactBounds F) (type : EnemyType F) (velocity : Vec2 F) :
    (Enemy.limited type velocity).Within (magnitude type.speed) := by
  rw [magnitude_eq_abs, Enemy.limited]
  split
  case isTrue =>
    exact one_mul |type.speed| ▸ (bounds.unit_within velocity).mul type.speed
  case isFalse slow =>
    exact (bounds.within_length velocity).mono ((not_lt.mp slow).trans (le_abs_self _))

/-- A push has one unit at most. -/
theorem ExactBounds.push_within (bounds : ExactBounds F) (fromOther : Vec2 F) :
    (fromOther / Glm.sqrt (lengthSqr fromOther) *
      (1 - Glm.smoothstep flockMinimumSpacing flockDesiredSpacing
        (Glm.sqrt (lengthSqr fromOther)))).Within 1 := by
  let distance := Glm.sqrt (lengthSqr fromOther)
  have nonneg : 0 ≤ lengthSqr fromOther := lengthSqr_nonneg fromOther
  have distanceNonneg : 0 ≤ distance := bounds.sqrt_nonneg _ nonneg
  have unit : (fromOther / distance).Within 1 := Vec2.Within.div_self distanceNonneg
    (Vec2.Within.of_lengthSqr_le distanceNonneg (bounds.le_sqrt_mul_self _ nonneg))
  have lower := bounds.smoothstep_nonneg flockMinimumSpacing flockDesiredSpacing distance
    flockSpacing_lt
  have upper := bounds.smoothstep_le_one flockMinimumSpacing flockDesiredSpacing distance
    flockSpacing_lt
  have force : |1 - Glm.smoothstep flockMinimumSpacing flockDesiredSpacing distance| ≤ 1 :=
    abs_le.mpr ⟨by linarith, by linarith⟩
  have pushed := unit.mul (1 - Glm.smoothstep flockMinimumSpacing flockDesiredSpacing distance)
  rw [one_mul] at pushed
  exact pushed.mono force

theorem Enemy.pushback_within (bounds : ExactBounds F) (enemy : Enemy F) (other : Enemy F × Nat) :
    (enemy.pushback other).Within 1 :=
  bounds.push_within (enemy.position - other.1.position)

/-- Every enemy of the crowd pushes with one unit at most. -/
theorem Enemy.shoved_within (bounds : ExactBounds F) (enemy : Enemy F)
    (crowd : List (Enemy F × Nat)) : (enemy.shoved crowd).Within (crowd.length : F) := by
  have fold : ∀ (others : List (Enemy F × Nat)) (start : Vec2 F) (bound : F), start.Within bound →
      (others.foldl (fun total other => total + enemy.pushback other) start).Within
        (bound + (others.length : F)) := by
    intro others
    induction others with
    | nil =>
        intro start bound within
        rw [List.length_nil, Nat.cast_zero, add_zero]
        exact within
    | cons other others ih =>
        intro start bound within
        have pushed := ih (start + enemy.pushback other) (bound + 1)
          (within.add (enemy.pushback_within bounds other))
        rw [List.length_cons, Nat.cast_succ, add_comm (others.length : F), ← add_assoc]
        exact pushed
  have total := fold crowd 0 0 Vec2.Within.zero
  rwa [zero_add] at total

variable {mapData : MapData F} {initial : GameState F R} {delta : F} {entry : Enemy F × Nat}
variable {enemyNext : Enemy F}

/-- The image of an enemy is within its reach. -/
theorem GameState.Images.within_reach (bounds : ExactBounds F)
    (image : Images mapData initial delta entry enemyNext) :
    (enemyNext.position - entry.1.position).Within
      (Enemy.reach mapData initial.enemies delta entry) := by
  obtain ⟨type, a, b, walked⟩ := image.walked
  let crowd := entry.1.crowd entry.2 initial.enemies.zipIdx
  let steered := entry.1.steered type (entry.1.ahead entry.2 initial.enemies.zipIdx) a b delta
  have way : enemyNext.position - entry.1.position =
      (Enemy.limited type steered + entry.1.shoved crowd * type.push delta) * delta := by
    rw [walked.position, walked.velocity, EnemyType.push]
    apply Vec2.ext
    · simp only [Vec2.sub_x, Vec2.add_x, Vec2.mul_x]
      ring
    · simp only [Vec2.sub_y, Vec2.add_y, Vec2.mul_y]
      ring
  have velocity := (Enemy.limited_within bounds type steered).add
    ((entry.1.shoved_within bounds crowd).mul (type.push delta))
  have count : (ofInt crowd.length : F) = (crowd.length : F) := Int.cast_natCast _
  rw [way, Enemy.reach_of_typed walked.typed, EnemyType.reach, count,
    magnitude_eq_abs (type.push delta), magnitude_eq_abs delta]
  exact velocity.mul delta

end Motion

end Exact

end TowerDefence
