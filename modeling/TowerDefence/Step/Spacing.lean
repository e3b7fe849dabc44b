import Mathlib.Algebra.Order.BigOperators.Group.List
import TowerDefence.Step.Blasts
import TowerDefence.Step.Definedness

/-!
# Keeping clear of the undefined

Conditions on the map and on the state before a step under which nothing that the step
divides by is zero: where the enemies stand, in which direction they walk, and what is out
of their reach.
-/

namespace TowerDefence

open Foundations GameState
open Foundations.Quiet (nan number)

variable {F R : Type}

/-! ## Conditions on the state before a step -/

section Conditions

variable [Arithmetic F]

/-- The point lies on the segment from `a` to `b`. -/
def Vec2.Between (a b point : Vec2 F) : Prop :=
  ∃ amount : F, 0 ≤ amount ∧ amount ≤ 1 ∧ point = a + (b - a) * amount

/-- Seen from the point, the others lie on one side of some line through it, and not all
on the line. -/
def Vec2.OutsideOf (others : List (Vec2 F)) (point : Vec2 F) : Prop :=
  ∃ direction : Vec2 F, (∀ other ∈ others, 0 ≤ Glm.dot direction (other - point)) ∧
    ∃ other ∈ others, 0 < Glm.dot direction (other - point)

namespace Enemy

variable [Glm F]

/-- The enemy is so near to the road from `a` to `b` that the road does not pull it. -/
def NearRoad (enemy : Enemy F) (a b : Vec2 F) : Prop :=
  Glm.length (Glm.closestPointOnLine enemy.position a b - enemy.position) ≤
    flockRoadRecenteringStartDistance

/-- The enemy does not walk backwards, and the road does not pull it back. -/
structure WalksForward (enemy : Enemy F) (a b : Vec2 F) : Prop where
  velocity : 0 ≤ Glm.dot enemy.velocity (b - a)
  road : enemy.NearRoad a b ∨
    0 ≤ Glm.dot (Glm.closestPointOnLine enemy.position a b - enemy.position) (b - a)

/-- The pull of the enemies ahead cannot stop the enemy: it walks forward, or it is near the
road and has, with the direction of the road, more velocity than the others can take. -/
inductive KeepsMoving (type : EnemyType F) (delta : F) (a b : Vec2 F) (enemy : Enemy F) : Prop where
  | forward : enemy.WalksForward a b → enemy.KeepsMoving type delta a b
  | swerves : enemy.NearRoad a b →
      ¬(enemy.velocity + Glm.normalize (b - a) * (flockWaypointSteeringFactor : F) *
          (type.speed * accelerationFactor) * delta).Within
        ((flockCenteringFactor : F) * (type.speed * accelerationFactor) * delta) →
      enemy.KeepsMoving type delta a b

/-- The enemy cannot be at the place after the step: the place is out of its reach, or
nobody pushes the enemy and the place is not in front of it. -/
inductive Misses (mapData : MapData F) (state : GameState F R) (delta : F)
    (entry : Enemy F × Nat) (place : Vec2 F) : Prop where
  | far : ¬(place - entry.1.position).Within
      (Enemy.reach mapData state.enemies delta entry) → Misses mapData state delta entry place
  | behind {a b : Vec2 F} : entry.1.OnSegment mapData.enemyPath a b → entry.1.WalksForward a b →
      entry.1.crowd entry.2 state.enemies.zipIdx = [] →
      Glm.dot (place - entry.1.position) (b - a) ≤ 0 → Misses mapData state delta entry place

end Enemy

end Conditions

/-! ## Exact arithmetic -/

section Exact

variable {K : Type} [Field K] [LinearOrder K]

/-- The velocity of an enemy that is steered in a direction, to the centre of the enemies
ahead and to the road. -/
def steer {F : Type} [Arithmetic F] (velocity direction centre road : Vec2 F)
    (acceleration delta : F) : Vec2 F :=
  velocity + direction * (flockWaypointSteeringFactor : F) * acceleration * delta +
    centre * (flockCenteringFactor : F) * acceleration * delta +
    road * (flockRoadRecenteringFactor : F) * acceleration * delta

theorem zero_dot (direction : Vec2 K) : Glm.dot (0 : Vec2 K) direction = 0 := by
  show 0 * direction.x + 0 * direction.y = 0
  rw [zero_mul, zero_mul, add_zero]

theorem dot_add (a b direction : Vec2 K) :
    Glm.dot (a + b) direction = Glm.dot a direction + Glm.dot b direction := by
  simp only [Glm.dot, Vec2.add_x, Vec2.add_y]
  ring

theorem dot_mul (vector direction : Vec2 K) (scale : K) :
    Glm.dot (vector * scale) direction = Glm.dot vector direction * scale := by
  simp only [Glm.dot, Vec2.mul_x, Vec2.mul_y]
  ring

theorem dot_div (vector direction : Vec2 K) (scale : K) :
    Glm.dot (vector / scale) direction = Glm.dot vector direction / scale := by
  simp only [Glm.dot, Vec2.div_x, Vec2.div_y]
  ring

/-- The projection of the new velocity on a direction. -/
theorem dot_steer (velocity direction centre road along : Vec2 K) (acceleration delta : K) :
    Glm.dot (steer velocity direction centre road acceleration delta) along =
      Glm.dot velocity along +
        (Glm.dot direction along * flockWaypointSteeringFactor +
          Glm.dot centre along * flockCenteringFactor +
          Glm.dot road along * flockRoadRecenteringFactor) * (acceleration * delta) := by
  rw [steer, dot_add, dot_add, dot_add, dot_mul, dot_mul, dot_mul, dot_mul, dot_mul, dot_mul,
    dot_mul, dot_mul, dot_mul]
  ring

variable [IsStrictOrderedRing K]

/-- A vector without long components is not much against a direction. -/
theorem neg_le_dot {vector : Vec2 K} (within : vector.Within 1) (direction : Vec2 K) :
    -(|direction.x| + |direction.y|) ≤ Glm.dot vector direction := by
  have first : |vector.x * direction.x| ≤ |direction.x| := by
    rw [abs_mul]
    exact mul_le_of_le_one_left (abs_nonneg _) within.abs_x_le
  have second : |vector.y * direction.y| ≤ |direction.y| := by
    rw [abs_mul]
    exact mul_le_of_le_one_left (abs_nonneg _) within.abs_y_le
  have lowerFirst := neg_abs_le (vector.x * direction.x)
  have lowerSecond := neg_abs_le (vector.y * direction.y)
  rw [Glm.dot]
  linarith

variable [Glm K]

theorem ExactBounds.length_pos (bounds : ExactBounds K) (exact : ExactNorm K) {vector : Vec2 K}
    (nonzero : vector ≠ 0) : 0 < Glm.length vector :=
  lt_of_le_of_ne (bounds.length_nonneg vector) fun zero =>
    nonzero ((exact.length_eq_zero vector).mp zero.symm)

/-- A unit vector leads in its own direction. -/
theorem half_le_dot_normalize (exact : ExactNorm K) (bounds : ExactBounds K) {vector : Vec2 K}
    (nonzero : vector ≠ 0) :
    (|vector.x| + |vector.y|) / 2 ≤ Glm.dot (Glm.normalize vector) vector := by
  have positive := bounds.length_pos exact nonzero
  have longest := bounds.length_le vector
  have squares : (|vector.x| + |vector.y|) * (|vector.x| + |vector.y|) ≤
      2 * Glm.dot vector vector := by
    have difference := mul_self_nonneg (|vector.x| - |vector.y|)
    rw [Glm.dot, ← abs_mul_abs_self vector.x, ← abs_mul_abs_self vector.y]
    linarith
  rw [exact.normalize_eq vector nonzero, dot_div, le_div_iff₀ positive]
  have shorter : (|vector.x| + |vector.y|) * Glm.length vector ≤
      (|vector.x| + |vector.y|) * (|vector.x| + |vector.y|) :=
    mul_le_mul_of_nonneg_left longest (add_nonneg (abs_nonneg _) (abs_nonneg _))
  linarith

/-- Steering leads forward unless the velocity or the road lead back. -/
theorem dot_steer_pos (exact : ExactNorm K) (bounds : ExactBounds K)
    {velocity centre road along : Vec2 K} {acceleration delta : K} (nonzero : along ≠ 0)
    (forward : 0 ≤ Glm.dot velocity along) (attracted : centre.Within 1)
    (pulled : 0 ≤ Glm.dot road along) (accelerates : 0 < acceleration * delta) :
    0 < Glm.dot (steer velocity (Glm.normalize along) centre road acceleration delta) along := by
  have direction := half_le_dot_normalize exact bounds nonzero
  have others := neg_le_dot attracted along
  have span : 0 < |along.x| + |along.y| :=
    lt_of_lt_of_le (bounds.length_pos exact nonzero) (bounds.length_le along)
  have steering : (flockWaypointSteeringFactor : K) = 1 := Rat.cast_one
  have centering : (flockCenteringFactor : K) = 1 / 5 := by
    show ((0.2 : ℚ) : K) = 1 / 5
    norm_num
  have recentering : (0 : K) ≤ flockRoadRecenteringFactor := Rat.cast_nonneg.mpr (by norm_num)
  have pull := mul_nonneg pulled recentering
  rw [dot_steer, steering, centering]
  apply add_pos_of_nonneg_of_pos forward
  apply mul_pos _ accelerates
  linarith

omit [Glm K] in
/-- Without the road, only the centre can stop an enemy. -/
theorem steer_ne_zero {velocity direction centre : Vec2 K} {acceleration delta : K}
    (attracted : centre.Within 1)
    (accelerates : 0 ≤ (flockCenteringFactor : K) * acceleration * delta)
    (fast : ¬(velocity + direction * (flockWaypointSteeringFactor : K) * acceleration *
      delta).Within ((flockCenteringFactor : K) * acceleration * delta)) :
    steer velocity direction centre 0 acceleration delta ≠ 0 := by
  intro stopped
  apply fast
  have pull := attracted.mul ((flockCenteringFactor : K) * acceleration * delta)
  rw [one_mul, abs_of_nonneg accelerates] at pull
  have opposite : ∀ vector other : Vec2 K, vector + other = 0 →
      other.Within ((flockCenteringFactor : K) * acceleration * delta) →
      vector.Within ((flockCenteringFactor : K) * acceleration * delta) := by
    intro vector other sum within
    have first : vector.x = -other.x := eq_neg_of_add_eq_zero_left (congrArg Vec2.x sum)
    have second : vector.y = -other.y := eq_neg_of_add_eq_zero_left (congrArg Vec2.y sum)
    apply Vec2.Within.of_abs
    · rw [first, abs_neg]
      exact within.abs_x_le
    · rw [second, abs_neg]
      exact within.abs_y_le
  apply opposite _ _ _ pull
  rw [← stopped, steer]
  apply Vec2.ext
  · simp only [Vec2.add_x, Vec2.mul_x]
    have zero : (0 : Vec2 K).x = 0 := rfl
    rw [zero]
    ring
  · simp only [Vec2.add_y, Vec2.mul_y]
    have zero : (0 : Vec2 K).y = 0 := rfl
    rw [zero]
    ring

omit [Glm K]

/-- A point is not the centre of others that lie on one side of it. -/
theorem Vec2.OutsideOf.ne_centre {others : List (Vec2 K)} {point : Vec2 K}
    (outside : Vec2.OutsideOf others point) :
    others.foldl (fun total other => total + other) 0 / (others.length : K) ≠ point := by
  rcases outside with ⟨direction, side, other, member, inside⟩
  intro isCentre
  have total : ∀ (rest : List (Vec2 K)) (start : Vec2 K),
      Glm.dot direction (rest.foldl (fun total other => total + other) start) =
        Glm.dot direction start + (rest.map fun other => Glm.dot direction (other - point)).sum +
          rest.length * Glm.dot direction point := by
    intro rest
    induction rest with
    | nil => intro start; simp
    | cons first rest ih =>
        intro start
        rw [List.foldl_cons, ih, List.map_cons, List.sum_cons, List.length_cons, Nat.cast_succ]
        simp only [Glm.dot, Vec2.add_x, Vec2.add_y, Vec2.sub_x, Vec2.sub_y]
        ring
  have count : (others.length : K) ≠ 0 :=
    Nat.cast_ne_zero.mpr (List.length_pos_of_mem member).ne'
  have sum := total others 0
  have scaled : others.foldl (fun total other => total + other) 0 =
      point * (others.length : K) := by
    rw [← isCentre]
    apply Vec2.ext
    · exact (div_mul_cancel₀ _ count).symm
    · exact (div_mul_cancel₀ _ count).symm
  have positive : 0 < (others.map fun other => Glm.dot direction (other - point)).sum :=
    inside.trans_le (List.single_le_sum (List.forall_mem_map.mpr side) _
      (List.mem_map_of_mem member))
  have zero : Glm.dot direction (0 : Vec2 K) = 0 := by
    show direction.x * 0 + direction.y * 0 = 0
    rw [mul_zero, mul_zero, add_zero]
  have same : Glm.dot direction (point * (others.length : K)) =
      others.length * Glm.dot direction point := by
    simp only [Glm.dot, Vec2.mul_x, Vec2.mul_y]
    ring
  rw [scaled, same, zero, zero_add, eq_comm, add_eq_right] at sum
  exact positive.ne' sum

end Exact

end TowerDefence
