import TowerDefence.Step.Enemies

/-!
# Flocking

What the flocking loop collects, as functions of the enemies around: those ahead, whose
centre attracts the enemy, and those nearby, which push it back.  From these and the
road follow the velocity, the rotation and the position of the image of the enemy.
-/

namespace TowerDefence

open Foundations GameState

variable {F R : Type} [Arithmetic F]

/-! ## The enemies around -/

namespace Enemy

/-- The other enemy is in sight; the enemy does not see itself. -/
def sees (enemy : Enemy F) (slot : Nat) (other : Enemy F × Nat) : Bool :=
  decide (slot ≠ other.2) &&
    !decide (flockSightRange * flockSightRange < lengthSqr (enemy.position - other.1.position))

/-- The other enemy is in sight and has the shorter way to the goal. -/
def follows (enemy : Enemy F) (slot : Nat) (other : Enemy F × Nat) : Bool :=
  enemy.sees slot other && decide (other.1.distanceToGoal < enemy.distanceToGoal)

/-- The other enemy is in sight and too close. -/
def crowdedBy (enemy : Enemy F) (slot : Nat) (other : Enemy F × Nat) : Bool :=
  enemy.sees slot other &&
    decide (lengthSqr (enemy.position - other.1.position) <
      flockDesiredSpacing * flockDesiredSpacing)

/-- The entries of `others` that are ahead of the enemy. -/
def ahead (enemy : Enemy F) (slot : Nat) (others : List (Enemy F × Nat)) : List (Enemy F × Nat) :=
  others.filter (enemy.follows slot)

/-- The entries of `others` that are too close to the enemy. -/
def crowd (enemy : Enemy F) (slot : Nat) (others : List (Enemy F × Nat)) : List (Enemy F × Nat) :=
  others.filter (enemy.crowdedBy slot)

variable [Glm F]

/-- With what the other enemy pushes the enemy back. -/
def pushback (enemy : Enemy F) (other : Enemy F × Nat) : Vec2 F :=
  let fromOther := enemy.position - other.1.position
  let fromOtherDist := Glm.sqrt (lengthSqr fromOther)
  fromOther / fromOtherDist *
    (1 - Glm.smoothstep flockMinimumSpacing flockDesiredSpacing fromOtherDist)

end Enemy

variable [Glm F]

theorem flockWith_eq (enemy : Enemy F) (slot : Nat) (flock : Flock F) (other : Enemy F × Nat) :
    (flockWith enemy slot flock other).othersInSight =
        (if enemy.follows slot other then flock.othersInSight + 1 else flock.othersInSight) ∧
      (flockWith enemy slot flock other).othersCumulativePosition =
        (if enemy.follows slot other then flock.othersCumulativePosition + other.1.position
          else flock.othersCumulativePosition) ∧
      (flockWith enemy slot flock other).pushbackDirection =
        (if enemy.crowdedBy slot other then flock.pushbackDirection + enemy.pushback other
          else flock.pushbackDirection) := by
  rcases other with ⟨otherEnemy, otherSlot⟩
  simp only [flockWith, Enemy.follows, Enemy.crowdedBy, Enemy.sees]
  by_cases itself : slot = otherSlot
  · simp [itself]
  · by_cases far : flockSightRange * flockSightRange <
        lengthSqr (enemy.position - otherEnemy.position)
    · simp [itself, far]
    · by_cases near : lengthSqr (enemy.position - otherEnemy.position) <
          flockDesiredSpacing * flockDesiredSpacing
      · by_cases inFront : otherEnemy.distanceToGoal < enemy.distanceToGoal
        · simp [itself, far, near, inFront, Enemy.pushback]
        · simp [itself, far, near, inFront, Enemy.pushback]
      · by_cases inFront : otherEnemy.distanceToGoal < enemy.distanceToGoal
        · simp [itself, far, near, inFront]
        · simp [itself, far, near, inFront]

/-- What the flocking loop collects. -/
theorem foldl_flockWith (enemy : Enemy F) (slot : Nat) (others : List (Enemy F × Nat))
    (flock : Flock F) :
    (others.foldl (flockWith enemy slot) flock).othersInSight =
        flock.othersInSight + (enemy.ahead slot others).length ∧
      (others.foldl (flockWith enemy slot) flock).othersCumulativePosition =
        (enemy.ahead slot others).foldl (fun total other => total + other.1.position)
          flock.othersCumulativePosition ∧
      (others.foldl (flockWith enemy slot) flock).pushbackDirection =
        (enemy.crowd slot others).foldl (fun total other => total + enemy.pushback other)
          flock.pushbackDirection := by
  induction others generalizing flock with
  | nil => exact ⟨rfl, rfl, rfl⟩
  | cons other others ih =>
      obtain ⟨counted, summed, pushed⟩ := flockWith_eq enemy slot flock other
      obtain ⟨countedLater, summedLater, pushedLater⟩ := ih (flockWith enemy slot flock other)
      rw [List.foldl_cons, countedLater, summedLater, pushedLater, counted, summed, pushed]
      refine ⟨?_, ?_, ?_⟩
      · cases inFront : enemy.follows slot other with
        | true => simp [Enemy.ahead, inFront, Nat.add_assoc, Nat.add_comm 1]
        | false => simp [Enemy.ahead, inFront]
      · cases inFront : enemy.follows slot other with
        | true => simp [Enemy.ahead, inFront]
        | false => simp [Enemy.ahead, inFront]
      · cases near : enemy.crowdedBy slot other with
        | true => simp [Enemy.crowd, near]
        | false => simp [Enemy.crowd, near]

/-! ## Steering -/

namespace Enemy

/-- The average position of some enemies. -/
def centre (others : List (Enemy F × Nat)) : Vec2 F :=
  others.foldl (fun total other => total + other.1.position) 0 / (ofInt others.length : F)

/-- The direction to the centre of the enemies ahead, if there are any. -/
def towardsCentre (enemy : Enemy F) (ahead : List (Enemy F × Nat)) : Vec2 F :=
  if 0 < ahead.length then Glm.normalize (centre ahead - enemy.position) else 0

/-- The pull to the nearest point of the road. -/
def towardsRoad (enemy : Enemy F) (a b : Vec2 F) : Vec2 F :=
  let offset := Glm.closestPointOnLine enemy.position a b - enemy.position
  Glm.normalize offset *
    Glm.smoothstep flockRoadRecenteringStartDistance flockRoadRecenteringMaxDistance
      (Glm.length offset)

/-- The velocity of the enemy after it has been steered along the road from `a` to `b`,
towards the centre of the enemies ahead, and towards the road. -/
def steered (enemy : Enemy F) (type : EnemyType F) (ahead : List (Enemy F × Nat)) (a b : Vec2 F)
    (delta : F) : Vec2 F :=
  let acceleration := type.speed * accelerationFactor
  enemy.velocity
    + Glm.normalize (b - a) * (flockWaypointSteeringFactor : F) * acceleration * delta
    + enemy.towardsCentre ahead * (flockCenteringFactor : F) * acceleration * delta
    + enemy.towardsRoad a b * (flockRoadRecenteringFactor : F) * acceleration * delta

/-- The velocity, cut to the speed of the type. -/
def limited (type : EnemyType F) (velocity : Vec2 F) : Vec2 F :=
  if type.speed < Glm.length velocity then velocity / Glm.length velocity * type.speed
  else velocity

/-- With what the enemies nearby push the enemy back altogether. -/
def shoved (enemy : Enemy F) (crowd : List (Enemy F × Nat)) : Vec2 F :=
  crowd.foldl (fun total other => total + enemy.pushback other) 0

end Enemy

variable {mapData : MapData F} {initial : GameState F R} {delta : F}

/-- How an image has moved. -/
structure Enemy.Walked (mapData : MapData F) (initial : GameState F R) (delta : F)
    (entry : Enemy F × Nat) (type : EnemyType F) (a b : Vec2 F) (enemyNext : Enemy F) : Prop where
  segment : entry.1.OnSegment mapData.enemyPath a b
  typed : mapData.enemyTypes[entry.1.typeIdx]? = some type
  rotation :
    let steered :=
      entry.1.steered type (entry.1.ahead entry.2 initial.enemies.zipIdx) a b delta
    enemyNext.rotation = vectorAngle (steered / Glm.length steered)
  velocity : enemyNext.velocity =
    Enemy.limited type
        (entry.1.steered type (entry.1.ahead entry.2 initial.enemies.zipIdx) a b delta) +
      entry.1.shoved (entry.1.crowd entry.2 initial.enemies.zipIdx) *
        (flockPushbackFactor : F) * (type.speed * accelerationFactor) * delta
  position : enemyNext.position = entry.1.position + enemyNext.velocity * delta

theorem GameState.Images.walked {entry : Enemy F × Nat} {enemyNext : Enemy F}
    (image : Images mapData initial delta entry enemyNext) :
    ∃ type a b, Enemy.Walked mapData initial delta entry type a b enemyNext := by
  have advanced := image.advanced
  simp only [advanceEnemy, bind_eq_ok, pure_eq_ok, readAt_eq_ok] at advanced
  rcases advanced with ⟨a, foundA, b, foundB, following, _, type, typed, assembled⟩
  obtain ⟨counted, summed, pushed⟩ := foldl_flockWith entry.1 entry.2 initial.enemies.zipIdx
    (⟨0, 0, 0, 0⟩ : Flock F)
  simp only [Nat.zero_add] at counted
  refine ⟨type, a, b, ⟨foundA, foundB⟩, typed, ?_, ?_, ?_⟩
  · rw [← assembled]
    simp only [counted, summed]
    rfl
  · rw [← assembled]
    simp only [counted, summed, pushed]
    rfl
  · rw [← assembled]

end TowerDefence
