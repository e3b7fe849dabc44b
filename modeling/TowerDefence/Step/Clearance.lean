import TowerDefence.Step.Spacing

/-!
# Clearance in arithmetic with undefined values

In arithmetic with undefined values, an enemy that stands clear of the others and of its
road and keeps moving is `Clear`, and its image misses the places that are out of its reach.
-/

namespace TowerDefence

open Foundations GameState
open Foundations.Quiet (nan number)

variable {R K : Type} [Field K] [LinearOrder K]

/-! ## Numbers -/

section Numbers

theorem numbers_sub (a b : Vec2 K) : a.numbers - b.numbers = (a - b).numbers := rfl

theorem dot_numbers (a b : Vec2 K) : Glm.dot a.numbers b.numbers = number (Glm.dot a b) := rfl

theorem numbers_div (vector : Vec2 K) {scale : K} (nonzero : scale ≠ 0) :
    vector.numbers / number scale = (vector / scale).numbers :=
  Vec2.ext (Quiet.number_div _ nonzero) (Quiet.number_div _ nonzero)

theorem magnitude_number (value : K) : magnitude (number value) = number (magnitude value) := by
  by_cases negative : value < 0
  · have quiet : (number value : Quiet K) < 0 := negative
    rw [magnitude, if_pos quiet, magnitude, if_pos negative]
    rfl
  · have quiet : ¬(number value : Quiet K) < 0 := negative
    rw [magnitude, if_neg quiet, magnitude, if_neg negative]

theorem numbers_within {vector : Vec2 K} {bound : K} :
    vector.numbers.Within (number bound) ↔ vector.Within bound := by
  rw [Vec2.Within, Vec2.numbers, magnitude_number, magnitude_number]
  exact Iff.rfl

theorem isNumber_of_pos {value : Quiet K} (positive : 0 < value) :
    ∃ number' : K, value = number number' ∧ 0 < number' := by
  cases value with
  | nan => cases positive
  | number value => exact ⟨value, rfl, positive⟩

omit [Field K] [LinearOrder K] in
theorem exists_numbers {vectors : List (Vec2 (Quiet K))}
    (defined : ∀ vector ∈ vectors, vector.Defined) :
    ∃ values : List (Vec2 K), vectors = values.map Vec2.numbers := by
  induction vectors with
  | nil => exact ⟨[], rfl⟩
  | cons vector vectors ih =>
      rw [List.forall_mem_cons] at defined
      obtain ⟨value, isValue⟩ := Vec2.defined_iff.mp defined.1
      obtain ⟨values, areValues⟩ := ih defined.2
      exact ⟨value :: values, by rw [isValue, areValues, List.map_cons]⟩

theorem foldl_add_numbers (values : List (Vec2 K)) (start : Vec2 K) :
    (values.map Vec2.numbers).foldl (fun total other => total + other) start.numbers =
      (values.foldl (fun total other => total + other) start).numbers := by
  induction values generalizing start with
  | nil => rfl
  | cons value values ih => exact ih (start + value)

end Numbers

/-! ## Where the enemy stands -/

section Places

variable {point a b : Vec2 (Quiet K)}

/-- Off its road, an enemy is not at the nearest point of it. -/
theorem closestPointOnLine_ne [IsStrictOrderedRing K] [Glm K] (closest : ClosestOnSegment K)
    (definedPoint : point.Defined) (definedA : a.Defined) (definedB : b.Defined)
    (distinct : a ≠ b) (offRoad : ¬Vec2.Between a b point) :
    Glm.closestPointOnLine point a b ≠ point := by
  obtain ⟨valuesPoint, rfl⟩ := Vec2.defined_iff.mp definedPoint
  obtain ⟨valuesA, rfl⟩ := Vec2.defined_iff.mp definedA
  obtain ⟨valuesB, rfl⟩ := Vec2.defined_iff.mp definedB
  have different : valuesA ≠ valuesB := fun equal => distinct (congrArg Vec2.numbers equal)
  have nearest : Glm.closestPointOnLine valuesPoint.numbers valuesA.numbers valuesB.numbers =
      (Glm.closestPointOnLine valuesPoint valuesA valuesB).numbers := if_neg different
  obtain ⟨amount, nonneg, atMost, onSegment⟩ := closest.onSegment valuesPoint valuesA valuesB
  intro onRoad
  apply offRoad
  refine ⟨number amount, nonneg, atMost, ?_⟩
  rw [← onRoad, nearest, onSegment]
  rfl

/-- An enemy outside of those ahead is not at their centre. -/
theorem Enemy.centre_ne [IsStrictOrderedRing K] {others : List (Enemy (Quiet K) × Nat)}
    (definedPoint : point.Defined) (defined : ∀ other ∈ others, other.1.position.Defined)
    (outside : Vec2.OutsideOf (others.map fun other => other.1.position) point) :
    Enemy.centre others ≠ point := by
  obtain ⟨values, places⟩ := exists_numbers (List.forall_mem_map.mpr defined)
  obtain ⟨valuesPoint, rfl⟩ := Vec2.defined_iff.mp definedPoint
  rw [places] at outside
  rcases outside with ⟨direction, side, other, member, inside⟩
  obtain ⟨value, isValue, rfl⟩ := List.mem_map.mp member
  have definedDirection : direction.Defined := by
    obtain ⟨_, isNumber, _⟩ := isNumber_of_pos inside
    have sum : (Glm.dot direction (value.numbers - valuesPoint.numbers)).IsNumber :=
      isNumber ▸ trivial
    rw [Glm.dot, Quiet.add_isNumber, Quiet.mul_isNumber, Quiet.mul_isNumber] at sum
    exact ⟨sum.1.1, sum.2.1⟩
  obtain ⟨valuesDirection, rfl⟩ := Vec2.defined_iff.mp definedDirection
  have outsideValues : Vec2.OutsideOf values valuesPoint :=
    ⟨valuesDirection, fun other isOther => side other.numbers (List.mem_map_of_mem isOther),
      value, isValue, inside⟩
  have count : (values.length : K) ≠ 0 :=
    Nat.cast_ne_zero.mpr (List.length_pos_of_mem isValue).ne'
  have sameLength : others.length = values.length := by
    have lengths := congrArg List.length places
    rwa [List.length_map, List.length_map] at lengths
  let total : Vec2 K := values.foldl (fun total other => total + other) 0
  have average : Enemy.centre others = (total / (values.length : K)).numbers := by
    have length : (ofInt others.length : Quiet K) = number (values.length : K) := by
      rw [sameLength]
      exact congrArg number (Int.cast_natCast _)
    have sum : others.foldl (fun total other => total + other.1.position) 0 =
        total.numbers := by
      rw [← foldl_add_numbers, ← places, List.foldl_map]
      rfl
    rw [Enemy.centre, length, sum, numbers_div _ count]
  intro isCentre
  rw [average] at isCentre
  have same := Option.some.inj (congrArg Vec2.numbers? isCentre)
  exact outsideValues.ne_centre same

end Places

/-! ## How the enemy is steered -/

section Steering

variable [IsStrictOrderedRing K] [Glm K] {enemy : Enemy (Quiet K)}

omit [IsStrictOrderedRing K] in
theorem normalize_eq_numbers (exact : ExactNorm K) {vector : Vec2 (Quiet K)}
    (defined : (Glm.normalize vector).Defined) :
    ∃ values : Vec2 K, values ≠ 0 ∧ vector = values.numbers ∧
      Glm.normalize vector = (values / Glm.length values).numbers := by
  obtain ⟨isVector, nonzero⟩ := normalize_defined.mp defined
  obtain ⟨values, rfl⟩ := Vec2.defined_iff.mp isVector
  have different : values ≠ 0 := fun zero => nonzero (Vec2.numbers_eq_zero.mpr zero)
  exact ⟨values, different, rfl, by
    rw [normalize_numbers different, exact.normalize_eq values different]⟩

/-- The direction to the enemies ahead, if it is defined. -/
theorem Enemy.towardsCentre_numbers (exact : ExactNorm K) (bounds : ExactBounds K)
    {ahead : List (Enemy (Quiet K) × Nat)} (defined : (enemy.towardsCentre ahead).Defined) :
    ∃ centre : Vec2 K, enemy.towardsCentre ahead = centre.numbers ∧ centre.Within 1 := by
  rw [Enemy.towardsCentre] at defined ⊢
  split at defined
  case isTrue some =>
    rw [if_pos some]
    obtain ⟨values, _, _, unit⟩ := normalize_eq_numbers exact defined
    exact ⟨_, unit, bounds.unit_within values⟩
  case isFalse none =>
    rw [if_neg none]
    exact ⟨0, rfl, Vec2.Within.zero.mono zero_le_one⟩

/-- The pull of the road, if it is defined: there is none near the road, and else it does
not lead back if the nearest point of the road does not lie behind. -/
theorem Enemy.towardsRoad_numbers (exact : ExactNorm K) (bounds : ExactBounds K)
    {a b : Vec2 (Quiet K)} (defined : (enemy.towardsRoad a b).Defined) :
    ∃ road : Vec2 K, enemy.towardsRoad a b = road.numbers ∧ (enemy.NearRoad a b → road = 0) ∧
      ∀ along : Vec2 K, 0 ≤ Glm.dot (Glm.closestPointOnLine enemy.position a b - enemy.position)
        along.numbers → 0 ≤ Glm.dot road along := by
  have edges : ((0.7 : ℚ) : K) < ((1 : ℚ) : K) := Rat.cast_lt.mpr (by norm_num)
  rw [Enemy.towardsRoad, Vec2.mul_defined] at defined
  obtain ⟨offset, nonzero, isOffset, unit⟩ := normalize_eq_numbers exact defined.1
  let force := Glm.smoothstep ((0.7 : ℚ) : K) ((1 : ℚ) : K) (Glm.length offset)
  have isForce : Glm.smoothstep flockRoadRecenteringStartDistance flockRoadRecenteringMaxDistance
      (Glm.length offset.numbers) = number force := if_neg edges.ne
  have pull : enemy.towardsRoad a b = (offset / Glm.length offset * force).numbers := by
    rw [Enemy.towardsRoad, unit, isOffset, isForce]
    rfl
  refine ⟨_, pull, ?_, ?_⟩
  · intro near
    rw [Enemy.NearRoad, isOffset] at near
    have none : force = 0 := bounds.smoothstep_of_le _ _ _ edges near
    rw [none]
    exact Vec2.ext (mul_zero _) (mul_zero _)
  · intro along ahead
    rw [isOffset] at ahead
    have nonneg : 0 ≤ force := bounds.smoothstep_nonneg _ _ _ edges
    rw [dot_mul, dot_div]
    exact mul_nonneg (div_nonneg ahead (bounds.length_nonneg offset)) nonneg

/-- What is steered, if it is defined. -/
structure Enemy.SteeredNumbers (enemy : Enemy (Quiet K)) (type : EnemyType (Quiet K))
    (ahead : List (Enemy (Quiet K) × Nat)) (a b : Vec2 (Quiet K)) (delta : Quiet K)
    (velocity along centre road : Vec2 K) (acceleration time : K) : Prop where
  sameVelocity : enemy.velocity = velocity.numbers
  sameAlong : b - a = along.numbers
  nonzero : along ≠ 0
  attracted : centre.Within 1
  noPull : enemy.NearRoad a b → road = 0
  pull : 0 ≤ Glm.dot (Glm.closestPointOnLine enemy.position a b - enemy.position) (b - a) →
    0 ≤ Glm.dot road along
  sameAcceleration : type.speed * accelerationFactor = number acceleration
  sameTime : delta = number time
  accelerates : 0 < acceleration * time
  steered : enemy.steered type ahead a b delta =
    (steer velocity (Glm.normalize along) centre road acceleration time).numbers

theorem Enemy.steered_numbers (exact : ExactNorm K) (bounds : ExactBounds K)
    {type : EnemyType (Quiet K)} {ahead : List (Enemy (Quiet K) × Nat)} {a b : Vec2 (Quiet K)}
    {delta : Quiet K} (speed : 0 < type.speed) (positive : 0 < delta)
    (defined : (enemy.steered type ahead a b delta).Defined) :
    ∃ velocity along centre road acceleration time,
      enemy.SteeredNumbers type ahead a b delta velocity along centre road acceleration time := by
  simp only [Enemy.steered, Vec2.add_defined, Vec2.mul_defined] at defined
  obtain ⟨⟨⟨isVelocity, ⟨⟨isDirection, _⟩, _⟩, _⟩, ⟨⟨isCentre, _⟩, _⟩, _⟩,
    ⟨⟨isRoad, _⟩, _⟩, _⟩ := defined
  obtain ⟨velocity, sameVelocity⟩ := Vec2.defined_iff.mp isVelocity
  obtain ⟨along, nonzero, sameAlong, direction⟩ := normalize_eq_numbers exact isDirection
  obtain ⟨centre, sameCentre, attracted⟩ := Enemy.towardsCentre_numbers exact bounds isCentre
  obtain ⟨road, sameRoad, noPull, pull⟩ := Enemy.towardsRoad_numbers exact bounds isRoad
  obtain ⟨value, sameSpeed, speedPos⟩ := isNumber_of_pos speed
  obtain ⟨time, sameDelta, timePos⟩ := isNumber_of_pos positive
  have factor : (0 : K) < accelerationFactor := Rat.cast_pos.mpr (by norm_num)
  have sameAcceleration : type.speed * accelerationFactor =
      number (value * accelerationFactor) := by
    rw [sameSpeed]
    rfl
  refine ⟨velocity, along, centre, road, value * accelerationFactor, time, sameVelocity,
    sameAlong, nonzero, attracted, noPull, fun ahead => pull along (sameAlong ▸ ahead),
    sameAcceleration, sameDelta, mul_pos (mul_pos speedPos factor) timePos, ?_⟩
  rw [Enemy.steered, sameVelocity, direction, sameCentre, sameRoad, sameAcceleration, sameDelta,
    exact.normalize_eq along nonzero]
  rfl

variable {type : EnemyType (Quiet K)} {ahead : List (Enemy (Quiet K) × Nat)}
variable {a b : Vec2 (Quiet K)} {delta : Quiet K} {velocity along centre road : Vec2 K}
variable {acceleration time : K}

/-- An enemy that walks forward is steered forward. -/
theorem Enemy.SteeredNumbers.forward (exact : ExactNorm K) (bounds : ExactBounds K)
    (numbers : enemy.SteeredNumbers type ahead a b delta velocity along centre road acceleration
      time)
    (forward : enemy.WalksForward a b) :
    0 < Glm.dot (steer velocity (Glm.normalize along) centre road acceleration time) along := by
  have notBack := forward.velocity
  rw [numbers.sameVelocity, numbers.sameAlong] at notBack
  have pulled : 0 ≤ Glm.dot road along := by
    cases forward.road with
    | inl near => rw [numbers.noPull near, zero_dot]
    | inr notBehind => exact numbers.pull notBehind
  exact dot_steer_pos exact bounds numbers.nonzero notBack numbers.attracted pulled
    numbers.accelerates

/-- An enemy that keeps moving is not steered to a halt. -/
theorem Enemy.KeepsMoving.steered_ne_zero (exact : ExactNorm K) (bounds : ExactBounds K)
    (speed : 0 < type.speed) (positive : 0 < delta)
    (moving : enemy.KeepsMoving type delta a b)
    (defined : (enemy.steered type ahead a b delta).Defined) :
    enemy.steered type ahead a b delta ≠ 0 := by
  obtain ⟨velocity, along, centre, road, acceleration, time, numbers⟩ :=
    Enemy.steered_numbers exact bounds speed positive defined
  rw [numbers.steered, Ne, Vec2.numbers_eq_zero]
  cases moving with
  | forward forward =>
      intro stopped
      have positive := numbers.forward exact bounds forward
      rw [stopped] at positive
      exact positive.ne' (zero_dot along)
  | swerves near fast =>
      rw [numbers.noPull near]
      have centering : (0 : K) ≤ flockCenteringFactor := Rat.cast_nonneg.mpr (by norm_num)
      apply steer_ne_zero numbers.attracted
      · rw [mul_assoc]
        exact mul_nonneg centering numbers.accelerates.le
      · intro slow
        apply fast
        rw [numbers.sameVelocity, numbers.sameAlong, numbers.sameAcceleration, numbers.sameTime,
          normalize_numbers numbers.nonzero]
        exact numbers_within.mpr slow

end Steering

/-! ## Where the enemy gets to -/

section Motion

variable [IsStrictOrderedRing K] [Glm K]

/-- Cutting a velocity to the speed scales it. -/
theorem Enemy.limited_numbers (exact : ExactNorm K) (bounds : ExactBounds K)
    {type : EnemyType (Quiet K)} {values : Vec2 K} (nonzero : values ≠ 0)
    (speed : 0 < type.speed) :
    ∃ scale bound : K, 0 < scale ∧ magnitude type.speed = number bound ∧
      Enemy.limited type values.numbers = (values * scale).numbers ∧
      (values * scale).Within bound := by
  obtain ⟨value, isSpeed, positive⟩ := isNumber_of_pos speed
  have length := bounds.length_pos exact nonzero
  have isBound : magnitude type.speed = number |value| := by
    rw [isSpeed, magnitude_number, magnitude_eq_abs]
  by_cases fast : value < Glm.length values
  · have quiet : type.speed < Glm.length values.numbers := by
      rw [isSpeed]
      exact fast
    have scaled : values * (value / Glm.length values) =
        values / Glm.length values * value := by
      apply Vec2.ext
      · exact mul_div_left_comm _ _ _ |>.trans (mul_comm _ _)
      · exact mul_div_left_comm _ _ _ |>.trans (mul_comm _ _)
    refine ⟨value / Glm.length values, |value|, div_pos positive length, isBound, ?_, ?_⟩
    · have isLength : Glm.length values.numbers = number (Glm.length values) := rfl
      rw [Enemy.limited, if_pos quiet, isLength, numbers_div _ length.ne', isSpeed, scaled]
      rfl
    · rw [scaled]
      exact one_mul |value| ▸ (bounds.unit_within values).mul value
  · have quiet : ¬type.speed < Glm.length values.numbers := by
      rw [isSpeed]
      exact fast
    have same : values * (1 : K) = values := Vec2.ext (mul_one _) (mul_one _)
    refine ⟨1, |value|, one_pos, isBound, ?_, ?_⟩
    · rw [Enemy.limited, if_neg quiet, same]
    · rw [same]
      exact (bounds.within_length values).mono ((not_lt.mp fast).trans (le_abs_self _))

/-- A push, if it is defined. -/
theorem Enemy.pushback_numbers (bounds : ExactBounds K) {enemy : Enemy (Quiet K)}
    {other : Enemy (Quiet K) × Nat} (defined : (enemy.pushback other).Defined) :
    ∃ push : Vec2 K, enemy.pushback other = push.numbers ∧ push.Within 1 := by
  rw [Enemy.pushback, Vec2.mul_defined, Vec2.div_defined] at defined
  obtain ⟨values, isOffset⟩ := Vec2.defined_iff.mp defined.1.1
  have isRoot : Glm.sqrt (lengthSqr values.numbers) = number (Glm.sqrt (lengthSqr values)) :=
    if_neg (not_lt.mpr (lengthSqr_nonneg values))
  have nonzero : Glm.sqrt (lengthSqr values) ≠ 0 := by
    have quiet := defined.1.2.2
    rw [isOffset, isRoot] at quiet
    exact fun zero => quiet (Quiet.number_eq_zero.mpr zero)
  have edges : ((0.4 : ℚ) : K) ≠ ((0.7 : ℚ) : K) := Rat.cast_injective.ne (by norm_num)
  have isStep : Glm.smoothstep flockMinimumSpacing flockDesiredSpacing
      (number (Glm.sqrt (lengthSqr values))) =
        number (Glm.smoothstep flockMinimumSpacing flockDesiredSpacing
          (Glm.sqrt (lengthSqr values))) := if_neg edges
  refine ⟨_, ?_, bounds.push_within values⟩
  rw [Enemy.pushback, isOffset, isRoot, isStep, numbers_div _ nonzero]
  rfl

/-- The pushes of the crowd, if they are defined. -/
theorem Enemy.shoved_numbers (bounds : ExactBounds K) {enemy : Enemy (Quiet K)}
    {crowd : List (Enemy (Quiet K) × Nat)} (defined : (enemy.shoved crowd).Defined) :
    ∃ shove : Vec2 K, enemy.shoved crowd = shove.numbers ∧
      shove.Within (crowd.length : K) := by
  have pushes := ((foldl_add_defined _ _ _).mp defined).2
  have fold : ∀ (others : List (Enemy (Quiet K) × Nat)) (start : Vec2 K) (bound : K),
      (∀ other ∈ others, (enemy.pushback other).Defined) → start.Within bound →
      ∃ shove : Vec2 K,
        others.foldl (fun total other => total + enemy.pushback other) start.numbers =
          shove.numbers ∧ shove.Within (bound + (others.length : K)) := by
    intro others
    induction others with
    | nil =>
        intro start bound _ within
        refine ⟨start, rfl, ?_⟩
        rw [List.length_nil, Nat.cast_zero, add_zero]
        exact within
    | cons other others ih =>
        intro start bound defined within
        rw [List.forall_mem_cons] at defined
        obtain ⟨push, isPush, unit⟩ := Enemy.pushback_numbers bounds defined.1
        obtain ⟨shove, isShove, shoved⟩ := ih (start + push) (bound + 1) defined.2
          (within.add unit)
        refine ⟨shove, ?_, ?_⟩
        · rw [List.foldl_cons, isPush]
          exact isShove
        · rw [List.length_cons, Nat.cast_succ, add_comm (others.length : K), ← add_assoc]
          exact shoved
  obtain ⟨shove, isShove, within⟩ := fold crowd 0 0 pushes Vec2.Within.zero
  rw [zero_add] at within
  exact ⟨shove, isShove, within⟩

variable {mapData : MapData (Quiet K)} {initial : GameState (Quiet K) R} {delta : Quiet K}
variable {entry : Enemy (Quiet K) × Nat} {enemyNext : Enemy (Quiet K)} {place : Vec2 (Quiet K)}

omit [Glm K] in
/-- The reach of an enemy in numbers. -/
theorem Enemy.reach_numbers {enemies : List (Enemy (Quiet K))} {type : EnemyType (Quiet K)}
    {bound acceleration time : K}
    (typed : mapData.enemyTypes[entry.1.typeIdx]? = some type)
    (isBound : magnitude type.speed = number bound)
    (sameAcceleration : type.speed * accelerationFactor = number acceleration)
    (sameTime : delta = number time) :
    Enemy.reach mapData enemies delta entry =
      number ((bound + ((entry.1.crowd entry.2 enemies.zipIdx).length : K) *
        |(flockPushbackFactor : K) * acceleration * time|) * |time|) := by
  have isPush : type.push delta = number ((flockPushbackFactor : K) * acceleration * time) := by
    rw [EnemyType.push, sameAcceleration, sameTime]
    rfl
  have isCount : ∀ count : Nat, (ofInt count : Quiet K) = number (count : K) :=
    fun count => congrArg number (Int.cast_natCast count)
  rw [Enemy.reach_of_typed typed, EnemyType.reach, isBound, isPush, isCount, sameTime,
    magnitude_number, magnitude_number, magnitude_eq_abs, magnitude_eq_abs]
  rfl

/-- The way of an enemy in a step, and the segment along which it goes: the way is within
the reach, and it leads forward if the enemy walks forward and nobody pushes it. -/
structure Enemy.WayNumbers (mapData : MapData (Quiet K)) (initial : GameState (Quiet K) R)
    (delta : Quiet K) (entry : Enemy (Quiet K) × Nat) (a b : Vec2 (Quiet K))
    (enemyNext : Enemy (Quiet K)) (way along : Vec2 K) (limit : K) : Prop where
  sameWay : enemyNext.position - entry.1.position = way.numbers
  sameAlong : b - a = along.numbers
  reach : Enemy.reach mapData initial.enemies delta entry = number limit
  within : way.Within limit
  forward : entry.1.WalksForward a b → entry.1.crowd entry.2 initial.enemies.zipIdx = [] →
    0 < Glm.dot way along

/-- The way of an enemy with a defined image. -/
theorem Enemy.Walked.way_numbers (exact : ExactNorm K) (bounds : ExactBounds K)
    {type : EnemyType (Quiet K)} {a b : Vec2 (Quiet K)} (speed : 0 < type.speed)
    (positive : 0 < delta)
    (walked : Enemy.Walked mapData initial delta entry type a b enemyNext)
    (definedNext : enemyNext.Defined) (defined : entry.1.Defined) :
    ∃ way along limit,
      Enemy.WayNumbers mapData initial delta entry a b enemyNext way along limit := by
  obtain ⟨definedSteered, moving⟩ := (walked.rotation_isNumber exact).mp definedNext.rotation
  obtain ⟨velocity, along, centre, road, acceleration, time, numbers⟩ :=
    Enemy.steered_numbers exact bounds speed positive definedSteered
  have nonzero : steer velocity (Glm.normalize along) centre road acceleration time ≠ 0 := by
    rw [numbers.steered, Ne, Vec2.numbers_eq_zero] at moving
    exact moving
  obtain ⟨scale, bound, scalePos, isBound, isLimited, limited⟩ :=
    Enemy.limited_numbers exact bounds nonzero speed
  have definedVelocity := definedNext.velocity
  rw [walked.velocity, Vec2.add_defined, Vec2.mul_defined, Vec2.mul_defined,
    Vec2.mul_defined] at definedVelocity
  obtain ⟨shove, isShove, shoved⟩ := Enemy.shoved_numbers bounds definedVelocity.2.1.1.1
  obtain ⟨position, isPosition⟩ := Vec2.defined_iff.mp defined.position
  let push := (flockPushbackFactor : K) * acceleration * time
  let way := (steer velocity (Glm.normalize along) centre road acceleration time * scale +
    shove * push) * time
  have isVelocity : enemyNext.velocity =
      (steer velocity (Glm.normalize along) centre road acceleration time * scale +
        shove * (flockPushbackFactor : K) * acceleration * time).numbers := by
    rw [walked.velocity, numbers.steered, isLimited, isShove, numbers.sameAcceleration,
      numbers.sameTime]
    rfl
  have pushed : shove * (flockPushbackFactor : K) * acceleration * time = shove * push := by
    apply Vec2.ext
    · simp only [push, Vec2.mul_x, mul_assoc]
    · simp only [push, Vec2.mul_y, mul_assoc]
  refine ⟨way, along, _, ?_, numbers.sameAlong, Enemy.reach_numbers walked.typed isBound
    numbers.sameAcceleration numbers.sameTime, (limited.add (shoved.mul push)).mul time, ?_⟩
  · rw [walked.position, isVelocity, pushed, numbers.sameTime, isPosition]
    have back : position + way - position = way := by
      apply Vec2.ext
      · exact add_sub_cancel_left position.x way.x
      · exact add_sub_cancel_left position.y way.y
    exact congrArg Vec2.numbers back
  · intro forward alone
    have noShove : shove = 0 := by
      rw [alone] at isShove
      exact Vec2.numbers_eq_zero.mp isShove.symm
    have timePos : 0 < time := by
      rw [numbers.sameTime] at positive
      exact positive
    have ahead := numbers.forward exact bounds forward
    rw [dot_mul, dot_add, dot_mul, noShove, dot_mul, zero_dot, zero_mul, add_zero]
    exact mul_pos (mul_pos ahead scalePos) timePos

/-- The image of an enemy is not where it cannot get to. -/
theorem Enemy.Misses.position_ne (exact : ExactNorm K) (bounds : ExactBounds K)
    (speeds : ∀ type ∈ mapData.enemyTypes, 0 < type.speed) (positive : 0 < delta)
    (misses : Enemy.Misses mapData initial delta entry place)
    (image : Images mapData initial delta entry enemyNext) (definedNext : enemyNext.Defined)
    (defined : entry.1.Defined) : enemyNext.position ≠ place := by
  obtain ⟨type, a, b, walked⟩ := image.walked
  have speed := speeds type (List.mem_of_getElem? walked.typed)
  obtain ⟨way, along, limit, numbers⟩ :=
    walked.way_numbers exact bounds speed positive definedNext defined
  intro there
  rw [← there] at misses
  cases misses with
  | far outOfReach =>
      apply outOfReach
      rw [numbers.sameWay, numbers.reach]
      exact numbers_within.mpr numbers.within
  | @behind a' b' segment forward alone notAhead =>
      cases segment.first_unique walked.segment
      cases segment.last_unique walked.segment
      rw [numbers.sameWay, numbers.sameAlong, dot_numbers] at notAhead
      exact absurd notAhead (not_le.mpr (numbers.forward forward alone))

end Motion

end TowerDefence
