import TowerDefence.Model.Quiet
import TowerDefence.Step.Flocking

/-!
# Undefined values in the movement loop

The movement loop divides by lengths and normalises offsets.  In arithmetic with
undefined values the image of an enemy is defined exactly if the enemy is `Clear`: no
other enemy is at its position, it is neither on its road nor at the centre of the
enemies ahead, and steering does not bring it to a halt.
-/

namespace TowerDefence

open Foundations GameState
open Foundations.Quiet (nan number)

variable {R : Type}

/-! ## Where movement is undefined -/

section Coincidences

variable {F : Type} [Arithmetic F] [Glm F]

/-- The enemy is in none of the positions from which its movement is undefined. -/
structure Enemy.Clear (mapData : MapData F) (state : GameState F R) (delta : F)
    (enemy : Enemy F) (slot : Nat) : Prop where
  apart : ∀ other ∈ state.enemies.zipIdx, slot ≠ other.2 → other.1.position ≠ enemy.position
  offRoad : ∀ a b, enemy.OnSegment mapData.enemyPath a b →
    Glm.closestPointOnLine enemy.position a b ≠ enemy.position
  offCentre : enemy.ahead slot state.enemies.zipIdx ≠ [] →
    Enemy.centre (enemy.ahead slot state.enemies.zipIdx) ≠ enemy.position
  moving : ∀ type a b, mapData.enemyTypes[enemy.typeIdx]? = some type →
    enemy.OnSegment mapData.enemyPath a b →
    enemy.steered type (enemy.ahead slot state.enemies.zipIdx) a b delta ≠ 0

/-- The enemy that the tower would fire at. -/
def Tower.Targets (platform : Platform F R) (type : TowerType F) (enemies : List (Enemy F))
    (tower : Tower F) (target : Enemy F) : Prop :=
  ∃ index, (platform.std.sort (closerToGoal enemies) (TowerTurn.query type enemies tower))[0]? =
      some index ∧ enemies[index]? = some target

/-- The tower does not stand where its target is. -/
def Tower.Clear (platform : Platform F R) (mapData : MapData F) (enemies : List (Enemy F))
    (tower : Tower F) : Prop :=
  ∀ type target, mapData.towerTypes[tower.typeIdx]? = some type →
    tower.Targets platform type enemies target → target.position ≠ tower.position

/-- The projectile is not where it flies to. -/
def Projectile.Clear (enemies : List (Enemy F)) (proj : Projectile F) : Prop :=
  ∀ alive target, proj.targetEnemyIndex < enemies.length →
    aimProjectile enemies proj = .ok (alive, target) → target ≠ proj.position

end Coincidences

variable {K : Type} [Field K] [LinearOrder K]

/-! ## Defined entities -/

/-- The position, the velocity and the rotation are defined. -/
structure Enemy.Defined (enemy : Enemy (Quiet K)) : Prop where
  position : enemy.position.Defined
  velocity : enemy.velocity.Defined
  rotation : enemy.rotation.IsNumber

/-- The position and the rotation are defined. -/
structure Tower.Defined (tower : Tower (Quiet K)) : Prop where
  position : tower.position.Defined
  rotation : tower.rotation.IsNumber

/-- The positions and the rotation are defined. -/
structure Projectile.Defined (proj : Projectile (Quiet K)) : Prop where
  position : proj.position.Defined
  rotation : proj.rotation.IsNumber
  lastEnemyPosition : proj.lastEnemyPosition.Defined

/-- All entities of a state are defined. -/
structure GameState.Defined (state : GameState (Quiet K) R) : Prop where
  enemies : ∀ enemy ∈ state.enemies, enemy.Defined
  towers : ∀ tower ∈ state.towers, tower.Defined
  projectiles : ∀ proj ∈ state.projectiles, proj.Defined

section Decidable

omit [Field K] [LinearOrder K]

instance (enemy : Enemy (Quiet K)) : Decidable enemy.Defined :=
  decidable_of_iff (enemy.position.Defined ∧ enemy.velocity.Defined ∧ enemy.rotation.IsNumber)
    ⟨fun parts => ⟨parts.1, parts.2.1, parts.2.2⟩,
      fun defined => ⟨defined.position, defined.velocity, defined.rotation⟩⟩

instance (tower : Tower (Quiet K)) : Decidable tower.Defined :=
  decidable_of_iff (tower.position.Defined ∧ tower.rotation.IsNumber)
    ⟨fun parts => ⟨parts.1, parts.2⟩, fun defined => ⟨defined.position, defined.rotation⟩⟩

instance (proj : Projectile (Quiet K)) : Decidable proj.Defined :=
  decidable_of_iff
    (proj.position.Defined ∧ proj.rotation.IsNumber ∧ proj.lastEnemyPosition.Defined)
    ⟨fun parts => ⟨parts.1, parts.2.1, parts.2.2⟩,
      fun defined => ⟨defined.position, defined.rotation, defined.lastEnemyPosition⟩⟩

instance (state : GameState (Quiet K) R) : Decidable state.Defined :=
  decidable_of_iff ((∀ enemy ∈ state.enemies, enemy.Defined) ∧
      (∀ tower ∈ state.towers, tower.Defined) ∧ ∀ proj ∈ state.projectiles, proj.Defined)
    ⟨fun parts => ⟨parts.1, parts.2.1, parts.2.2⟩,
      fun defined => ⟨defined.enemies, defined.towers, defined.projectiles⟩⟩

end Decidable

/-- What the movement loop relies on: the waypoints and the speeds are defined, and
consecutive waypoints differ.  An index of a waypoint fits a `u32`. -/
structure MapData.Walkable (mapData : MapData (Quiet K)) : Prop where
  waypoints : ∀ waypoint ∈ mapData.enemyPath.waypoints, waypoint.Defined
  distinct : ∀ (i : Nat) (a b : Vec2 (Quiet K)), mapData.enemyPath.waypoints[i]? = some a →
    mapData.enemyPath.waypoints[i + 1]? = some b → a ≠ b
  short : mapData.enemyPath.waypoints.length ≤ 2 ^ 32
  speeds : ∀ type ∈ mapData.enemyTypes, type.speed.IsNumber

omit [Field K] [LinearOrder K] in
/-- The segment that an enemy walks along has a direction. -/
theorem Enemy.OnSegment.ends {mapData : MapData (Quiet K)} {enemy : Enemy (Quiet K)}
    {a b : Vec2 (Quiet K)} (segment : enemy.OnSegment mapData.enemyPath a b)
    (walkable : mapData.Walkable) (onPath : enemy.OnPath mapData.enemyPath) :
    a.Defined ∧ b.Defined ∧ a ≠ b := by
  obtain ⟨i, _, first, last⟩ := segment.consecutive onPath walkable.short
  exact ⟨walkable.waypoints a (List.mem_of_getElem? first),
    walkable.waypoints b (List.mem_of_getElem? last), walkable.distinct i a b first last⟩

/-- The health does not matter for what is defined. -/
theorem Enemy.defined_of_bodies {enemies enemies' : List (Enemy (Quiet K))}
    (bodies : enemies'.map Enemy.body = enemies.map Enemy.body)
    (defined : ∀ enemy ∈ enemies, enemy.Defined) : ∀ enemy ∈ enemies', enemy.Defined := by
  intro enemy member
  have listed : enemy.body ∈ enemies.map Enemy.body := bodies ▸ List.mem_map_of_mem member
  obtain ⟨origin, originMember, sameBody⟩ := List.mem_map.mp listed
  have definedOrigin := defined origin originMember
  constructor
  · have same : origin.position = enemy.position := congrArg (fun body => body.position) sameBody
    exact same ▸ definedOrigin.position
  · have same : origin.velocity = enemy.velocity := congrArg (fun body => body.velocity) sameBody
    exact same ▸ definedOrigin.velocity
  · have same : origin.rotation = enemy.rotation := congrArg (fun body => body.rotation) sameBody
    exact same ▸ definedOrigin.rotation

/-! ## The forces -/

section Forces

variable [IsStrictOrderedRing K] [Glm K] {enemy : Enemy (Quiet K)} {slot : Nat}
variable {others : List (Enemy (Quiet K) × Nat)}

omit [IsStrictOrderedRing K] [Glm K] in
/-- A sum of vectors is defined if all of them are. -/
theorem foldl_add_defined {α : Type} (vector : α → Vec2 (Quiet K)) (items : List α)
    (start : Vec2 (Quiet K)) :
    (items.foldl (fun total item => total + vector item) start).Defined ↔
      start.Defined ∧ ∀ item ∈ items, (vector item).Defined := by
  induction items generalizing start with
  | nil => simp
  | cons item items ih =>
      rw [List.foldl_cons, ih, Vec2.add_defined, List.forall_mem_cons, and_assoc]

omit [IsStrictOrderedRing K] [Glm K] in
/-- The smooth step between two different edges. -/
theorem smoothstep_isNumber [Glm K] {low high : ℚ} (differ : (low : K) ≠ high)
    {value : Quiet K} :
    (Glm.smoothstep (literal low) (literal high) value).IsNumber ↔ value.IsNumber := by
  cases value with
  | nan => exact Iff.rfl
  | number value =>
      have defined : Glm.smoothstep (literal low) (literal high) (number value) =
          number (Glm.smoothstep (low : K) (high : K) value) := if_neg differ
      rw [defined]
      exact Iff.rfl

/-- The root of the squared length of a vector. -/
theorem sqrt_lengthSqr (exact : ExactNorm K) (values : Vec2 K) :
    ∃ root : K, Glm.sqrt (lengthSqr values.numbers) = number root ∧ (root = 0 ↔ values = 0) := by
  have nonneg : 0 ≤ values.x * values.x + values.y * values.y :=
    add_nonneg (mul_self_nonneg _) (mul_self_nonneg _)
  refine ⟨Glm.sqrt (values.x * values.x + values.y * values.y), if_neg (not_lt.mpr nonneg), ?_⟩
  rw [exact.sqrt_eq_zero _ nonneg, mul_self_add_mul_self_eq_zero, Vec2.ext_iff]
  exact Iff.rfl

/-- Only an enemy at the same position pushes in no direction. -/
theorem Enemy.pushback_defined (exact : ExactNorm K) {other : Enemy (Quiet K) × Nat}
    (defined : enemy.position.Defined) (definedOther : other.1.position.Defined) :
    (enemy.pushback other).Defined ↔ other.1.position ≠ enemy.position := by
  have definedOffset : (enemy.position - other.1.position).Defined :=
    Vec2.sub_defined.mpr ⟨defined, definedOther⟩
  obtain ⟨values, offset⟩ := Vec2.defined_iff.mp definedOffset
  obtain ⟨root, isRoot, root_eq_zero⟩ := sqrt_lengthSqr exact values
  have edges : ((0.4 : ℚ) : K) ≠ ((0.7 : ℚ) : K) := Rat.cast_injective.ne (by norm_num)
  have step : (Glm.smoothstep flockMinimumSpacing flockDesiredSpacing
      (number root) : Quiet K).IsNumber := (smoothstep_isNumber edges).mpr trivial
  have force := Quiet.sub_isNumber.mpr ⟨Quiet.isNumber_one, step⟩
  have samePosition : values = 0 ↔ enemy.position = other.1.position := by
    rw [← Vec2.numbers_eq_zero, ← offset, Vec2.sub_eq_zero_iff defined definedOther]
  rw [Enemy.pushback, offset, isRoot, Vec2.mul_defined, Vec2.div_defined, Quiet.number_eq_zero.ne,
    root_eq_zero.ne, samePosition.ne]
  constructor
  · intro pushed
    exact pushed.1.2.2.symm
  · intro apart
    exact ⟨⟨Vec2.numbers_defined _, trivial, apart.symm⟩, force⟩

omit [Glm K] in
/-- An enemy at the same position is in sight and too close. -/
theorem Enemy.crowdedBy_same_position {other : Enemy (Quiet K) × Nat} (otherSlot : slot ≠ other.2)
    (defined : enemy.position.Defined) (same : other.1.position = enemy.position) :
    enemy.crowdedBy slot other = true := by
  obtain ⟨values, position⟩ := Vec2.defined_iff.mp defined
  have distance : lengthSqr (enemy.position - other.1.position) = number 0 := by
    rw [same, position]
    show number ((values.x - values.x) * (values.x - values.x) +
      (values.y - values.y) * (values.y - values.y)) = number 0
    rw [sub_self, sub_self, mul_zero, add_zero]
  have inSight : ¬(((3 : ℚ) : K) * ((3 : ℚ) : K) < 0) := not_lt.mpr (mul_self_nonneg _)
  have close : (0 : K) < ((0.7 : ℚ) : K) * ((0.7 : ℚ) : K) :=
    mul_self_pos.mpr (Rat.cast_ne_zero.mpr (by norm_num))
  have sees : enemy.sees slot other = true := by
    rw [Enemy.sees, distance, decide_eq_true otherSlot, Bool.true_and, Bool.not_eq_true',
      decide_eq_false_iff_not]
    exact inSight
  rw [Enemy.crowdedBy, sees, distance, Bool.true_and, decide_eq_true_iff]
  exact close

/-- The push is defined if no other enemy is at the same position. -/
theorem Enemy.shoved_defined (exact : ExactNorm K) (defined : enemy.position.Defined)
    (definedOthers : ∀ other ∈ others, other.1.position.Defined) :
    (enemy.shoved (enemy.crowd slot others)).Defined ↔
      ∀ other ∈ others, slot ≠ other.2 → other.1.position ≠ enemy.position := by
  rw [Enemy.shoved, foldl_add_defined, and_iff_right Vec2.zero_defined]
  constructor
  · intro pushes other member otherSlot same
    have crowded := Enemy.crowdedBy_same_position otherSlot defined same
    have pushed := pushes other (List.mem_filter.mpr ⟨member, crowded⟩)
    exact (Enemy.pushback_defined exact defined (definedOthers other member)).mp pushed same
  · intro apart other isClose
    obtain ⟨member, crowded⟩ := List.mem_filter.mp isClose
    have sees : enemy.sees slot other = true := (Bool.and_eq_true _ _ |>.mp crowded).1
    have otherSlot : slot ≠ other.2 := of_decide_eq_true (Bool.and_eq_true _ _ |>.mp sees).1
    exact (Enemy.pushback_defined exact defined (definedOthers other member)).mpr
      (apart other member otherSlot)

/-- The direction to the centre is defined unless the enemy is there. -/
theorem Enemy.towardsCentre_defined {ahead : List (Enemy (Quiet K) × Nat)}
    (defined : enemy.position.Defined)
    (definedOthers : ∀ other ∈ ahead, other.1.position.Defined) :
    (enemy.towardsCentre ahead).Defined ↔
      (ahead ≠ [] → Enemy.centre ahead ≠ enemy.position) := by
  rw [Enemy.towardsCentre]
  split
  case isTrue some =>
    have count : (ofInt ahead.length : Quiet K) ≠ 0 := by
      intro zero
      have noOther := Int.cast_eq_zero.mp (Quiet.number_eq_zero.mp zero)
      omega
    have definedCentre : (Enemy.centre ahead).Defined :=
      Vec2.div_defined.mpr ⟨(foldl_add_defined _ _ _).mpr ⟨Vec2.zero_defined, definedOthers⟩,
        trivial, count⟩
    rw [normalize_defined, Vec2.sub_defined, and_iff_right ⟨definedCentre, defined⟩,
      (Vec2.sub_eq_zero_iff definedCentre defined).ne]
    exact ⟨fun away _ => away, fun away => away (List.length_pos_iff.mp some)⟩
  case isFalse none =>
    refine iff_of_true Vec2.zero_defined fun nonempty => ?_
    exact absurd (List.length_pos_iff.mpr nonempty) none

/-- The pull to the road is defined unless the enemy is on it. -/
theorem Enemy.towardsRoad_defined {a b : Vec2 (Quiet K)} (defined : enemy.position.Defined)
    (definedA : a.Defined) (definedB : b.Defined) (distinct : a ≠ b) :
    (enemy.towardsRoad a b).Defined ↔
      Glm.closestPointOnLine enemy.position a b ≠ enemy.position := by
  have definedPoint := closestPointOnLine_defined defined definedA definedB distinct
  have edges : ((0.7 : ℚ) : K) ≠ ((1 : ℚ) : K) := Rat.cast_injective.ne (by norm_num)
  have definedOffset := Vec2.sub_defined.mpr ⟨definedPoint, defined⟩
  have force : (Glm.smoothstep flockRoadRecenteringStartDistance flockRoadRecenteringMaxDistance
      (Glm.length (Glm.closestPointOnLine enemy.position a b - enemy.position))).IsNumber :=
    (smoothstep_isNumber edges).mpr (length_isNumber.mpr definedOffset)
  rw [Enemy.towardsRoad, Vec2.mul_defined, and_iff_left force, normalize_defined,
    and_iff_right definedOffset, (Vec2.sub_eq_zero_iff definedPoint defined).ne]

/-- Steering is defined unless the enemy is on the road or at the centre. -/
theorem Enemy.steered_defined {ahead : List (Enemy (Quiet K) × Nat)} {type : EnemyType (Quiet K)}
    {a b : Vec2 (Quiet K)} {delta : Quiet K} (defined : enemy.Defined)
    (definedOthers : ∀ other ∈ ahead, other.1.position.Defined)
    (speed : type.speed.IsNumber) (isDelta : delta.IsNumber)
    (definedA : a.Defined) (definedB : b.Defined) (distinct : a ≠ b) :
    (enemy.steered type ahead a b delta).Defined ↔
      (ahead ≠ [] → Enemy.centre ahead ≠ enemy.position) ∧
        Glm.closestPointOnLine enemy.position a b ≠ enemy.position := by
  have direction : (Glm.normalize (b - a)).Defined := by
    rw [normalize_defined, Vec2.sub_defined, (Vec2.sub_eq_zero_iff definedB definedA).ne]
    exact ⟨⟨definedB, definedA⟩, distinct.symm⟩
  rw [← Enemy.towardsCentre_defined defined.position definedOthers,
    ← Enemy.towardsRoad_defined defined.position definedA definedB distinct]
  have steering : (flockWaypointSteeringFactor : Quiet K).IsNumber := literal_isNumber _
  have centering : (flockCenteringFactor : Quiet K).IsNumber := literal_isNumber _
  have recentering : (flockRoadRecenteringFactor : Quiet K).IsNumber := literal_isNumber _
  have acceleration : (accelerationFactor : Quiet K).IsNumber := literal_isNumber _
  simp only [Enemy.steered, Vec2.add_defined, Vec2.mul_defined, Quiet.mul_isNumber,
    defined.velocity, direction, speed, isDelta, steering, centering, recentering, acceleration,
    and_true, true_and]

omit [IsStrictOrderedRing K] in
/-- Cutting a velocity other than zero to the speed. -/
theorem Enemy.limited_defined (exact : ExactNorm K) {type : EnemyType (Quiet K)}
    {velocity : Vec2 (Quiet K)} (speed : type.speed.IsNumber) (defined : velocity.Defined)
    (moving : velocity ≠ 0) : (Enemy.limited type velocity).Defined := by
  rw [Enemy.limited]
  split
  · rw [Vec2.mul_defined, Vec2.div_defined, length_isNumber]
    exact ⟨⟨defined, defined, (length_eq_zero_iff exact defined).not.mpr moving⟩, speed⟩
  · exact defined

end Forces

/-! ## The image of an enemy -/

section Images

variable [IsStrictOrderedRing K] [Glm K] {mapData : MapData (Quiet K)}
variable {initial : GameState (Quiet K) R} {delta : Quiet K}

theorem Enemy.Walked.rotation_isNumber {entry : Enemy (Quiet K) × Nat}
    {type : EnemyType (Quiet K)} {a b : Vec2 (Quiet K)} {enemyNext : Enemy (Quiet K)}
    (walked : Enemy.Walked mapData initial delta entry type a b enemyNext)
    (exact : ExactNorm K) :
    enemyNext.rotation.IsNumber ↔
      (entry.1.steered type (entry.1.ahead entry.2 initial.enemies.zipIdx) a b delta).Defined ∧
        entry.1.steered type (entry.1.ahead entry.2 initial.enemies.zipIdx) a b delta ≠ 0 := by
  rw [walked.rotation]
  exact vectorAngle_unit exact

omit [IsStrictOrderedRing K] in
theorem Enemy.Walked.velocity_defined {entry : Enemy (Quiet K) × Nat}
    {type : EnemyType (Quiet K)} {a b : Vec2 (Quiet K)} {enemyNext : Enemy (Quiet K)}
    (walked : Enemy.Walked mapData initial delta entry type a b enemyNext)
    (speed : type.speed.IsNumber) (isDelta : delta.IsNumber) :
    enemyNext.velocity.Defined ↔
      (Enemy.limited type
        (entry.1.steered type (entry.1.ahead entry.2 initial.enemies.zipIdx) a b delta)).Defined ∧
        (entry.1.shoved (entry.1.crowd entry.2 initial.enemies.zipIdx)).Defined := by
  have acceleration : (type.speed * accelerationFactor).IsNumber :=
    Quiet.mul_isNumber.mpr ⟨speed, literal_isNumber _⟩
  have factor : (flockPushbackFactor : Quiet K).IsNumber := literal_isNumber _
  rw [walked.velocity]
  simp only [Vec2.add_defined, Vec2.mul_defined, acceleration, factor, isDelta, and_true]

/-- The image of an enemy is defined exactly if the enemy is clear. -/
theorem GameState.Images.defined_iff {entry : Enemy (Quiet K) × Nat} {enemyNext : Enemy (Quiet K)}
    (image : Images mapData initial delta entry enemyNext) (exact : ExactNorm K)
    (walkable : mapData.Walkable) (isDelta : delta.IsNumber)
    (member : entry ∈ initial.enemies.zipIdx)
    (defined : ∀ enemy ∈ initial.enemies, enemy.Defined)
    (onPath : entry.1.OnPath mapData.enemyPath) :
    enemyNext.Defined ↔ entry.1.Clear mapData initial delta entry.2 := by
  obtain ⟨type, a, b, walked⟩ := image.walked
  have definedEntry := defined entry.1 (List.fst_mem_of_mem_zipIdx member)
  have definedOthers : ∀ other ∈ initial.enemies.zipIdx, other.1.position.Defined :=
    fun other isOther => (defined other.1 (List.fst_mem_of_mem_zipIdx isOther)).position
  obtain ⟨definedA, definedB, distinct⟩ := walked.segment.ends walkable onPath
  have speed := walkable.speeds type (List.mem_of_getElem? walked.typed)
  have definedAhead : ∀ other ∈ entry.1.ahead entry.2 initial.enemies.zipIdx,
      other.1.position.Defined :=
    fun other isAhead => definedOthers other (List.mem_filter.mp isAhead).1
  have steered := Enemy.steered_defined definedEntry definedAhead speed isDelta definedA definedB
    distinct
  have rotation := walked.rotation_isNumber exact
  have velocity := walked.velocity_defined speed isDelta
  rw [Enemy.shoved_defined exact definedEntry.position definedOthers] at velocity
  constructor
  · intro definedNext
    obtain ⟨definedSteered, moving⟩ := rotation.mp definedNext.rotation
    obtain ⟨offCentre, offRoad⟩ := steered.mp definedSteered
    refine ⟨(velocity.mp definedNext.velocity).2, ?_, offCentre, ?_⟩
    · intro a' b' segment'
      rw [segment'.first_unique walked.segment, segment'.last_unique walked.segment]
      exact offRoad
    · intro type' a' b' typed' segment'
      rw [segment'.first_unique walked.segment, segment'.last_unique walked.segment,
        Option.some.inj (typed'.symm.trans walked.typed)]
      exact moving
  · intro clear
    have definedSteered := steered.mpr ⟨clear.offCentre, clear.offRoad a b walked.segment⟩
    have moving := clear.moving type a b walked.typed walked.segment
    have definedVelocity := velocity.mpr
      ⟨Enemy.limited_defined exact speed definedSteered moving, clear.apart⟩
    refine ⟨?_, definedVelocity, rotation.mpr ⟨definedSteered, moving⟩⟩
    rw [walked.position, Vec2.add_defined, Vec2.mul_defined]
    exact ⟨definedEntry.position, definedVelocity, isDelta⟩

end Images

/-! ## The turn of a tower -/

section Towers

variable [IsStrictOrderedRing K] [Glm K] {platform : Platform (Quiet K) R}
variable {mapData : MapData (Quiet K)} {enemies : List (Enemy (Quiet K))} {delta : Quiet K}
variable {turn : TowerTurn (Quiet K)}

/-- The copy of a tower is defined exactly if the tower is clear. -/
theorem TowerTurn.Follows.defined_iff (follows : turn.Follows platform mapData enemies delta)
    (exact : ExactNorm K) (defined : turn.tower.Defined)
    (definedEnemies : ∀ enemy ∈ enemies, enemy.Defined) :
    turn.copy.Defined ↔ turn.tower.Clear platform mapData enemies := by
  cases follows with
  | @idle type tower typed empty =>
      refine iff_of_true defined fun type' target typed' targets => ?_
      obtain ⟨index, chosen, _⟩ := targets
      have sameType : type' = type := Option.some.inj (typed'.symm.trans typed)
      have none : platform.std.sort (closerToGoal enemies) [] = [] := platform.std.sort_nil _
      rw [sameType, empty, none] at chosen
      cases chosen
  | @engages type _ index target typed _ engaged =>
      have definedTarget := definedEnemies target (List.mem_of_getElem? engaged.found)
      have rotation : turn.copy.rotation.IsNumber ↔ target.position ≠ turn.tower.position := by
        rw [engaged.copy]
        rw [vectorAngle_normalize exact, Vec2.sub_defined,
          and_iff_right ⟨definedTarget.position, defined.position⟩,
          (Vec2.sub_eq_zero_iff definedTarget.position defined.position).ne]
      have position : turn.copy.position = turn.tower.position := by
        rw [engaged.copy]
      constructor
      · intro definedCopy type' other typed' targets
        obtain ⟨index', chosen, found⟩ := targets
        have sameType : type' = type := Option.some.inj (typed'.symm.trans typed)
        rw [sameType, engaged.chosen] at chosen
        cases chosen
        rw [engaged.found] at found
        cases found
        exact rotation.mp definedCopy.rotation
      · intro clear
        exact ⟨position ▸ defined.position,
          rotation.mpr (clear type target typed ⟨index, engaged.chosen, engaged.found⟩)⟩

omit [IsStrictOrderedRing K] in
/-- The shots of a tower with a defined copy are defined. -/
theorem TowerTurn.Follows.shots_defined (follows : turn.Follows platform mapData enemies delta)
    (defined : turn.tower.Defined) (definedCopy : turn.copy.Defined)
    (definedEnemies : ∀ enemy ∈ enemies, enemy.Defined) :
    ∀ proj ∈ turn.shots, proj.Defined := by
  cases follows with
  | idle _ _ => simp
  | @engages _ _ _ target _ _ engaged =>
      intro proj member
      obtain ⟨position, rotation⟩ := engaged.launched proj member
      obtain ⟨_, _, lastPosition⟩ := engaged.aimed proj member
      have definedTarget := definedEnemies target (List.mem_of_getElem? engaged.found)
      exact ⟨position ▸ defined.position, rotation ▸ definedCopy.rotation,
        lastPosition ▸ definedTarget.position⟩

end Towers

/-! ## The turn of a projectile -/

section Detonations

variable {F : Type} [Arithmetic F] {mapData : MapData F} {frame frame' : Frame F R}
variable {projectile : Projectile F} {type : ProjectileType F} {direct : Bool}

/-- Nothing has been launched or detonated between the frames. -/
structure Frame.SameShots (frame frame' : Frame F R) : Prop where
  projectiles : frame'.next.projectiles = frame.next.projectiles
  detonations : detonations frame'.deeds = detonations frame.deeds

theorem Frame.SameShots.strike {slot : Nat} {middle : Frame F R}
    (same : frame.SameShots middle)
    (executed : applyDamageToEnemy mapData direct projectile type middle slot = .ok frame') :
    frame.SameShots frame' := by
  obtain ⟨enemy, applied⟩ := applyDamageToEnemy_applied executed
  constructor
  · rw [applied.next]
    exact same.projectiles
  · rw [applied.deeds, detonations_append, same.detonations]
    exact List.append_nil _

/-- A detonation is recorded once and launches nothing. -/
theorem GameState.detonate_shots {alive : Bool} {target : Vec2 F}
    (executed : detonate mapData projectile type alive target frame = .ok frame') :
    frame'.next.projectiles = frame.next.projectiles ∧
      detonations frame'.deeds = detonations frame.deeds ++ [projectile] := by
  rw [detonate, bind_eq_ok] at executed
  rcases executed with ⟨hit, damaged, splashed⟩
  let recorded : Frame F R := { frame with deeds := frame.deeds ++ [.detonate projectile] }
  have direct : recorded.SameShots hit := by
    rw [damageTarget] at damaged
    split at damaged
    · exact Frame.SameShots.strike ⟨rfl, rfl⟩ damaged
    · cases damaged
      exact ⟨rfl, rfl⟩
  have same : recorded.SameShots frame' := by
    rw [damageSplash] at splashed
    split at splashed
    · cases splashed
      exact direct
    · apply foldlM_invariant recorded.SameShots splashed ⟨direct.projectiles, direct.detonations⟩
      intro slot state state' _ sameState struck
      exact sameState.strike struck
  exact ⟨same.projectiles, same.detonations.trans (detonations_append _ _)⟩

end Detonations

section Projectiles

variable [IsStrictOrderedRing K] [Glm K] {mapData : MapData (Quiet K)} {delta : Quiet K}
variable {frame frame' : Frame (Quiet K) R} {proj : Projectile (Quiet K)}

/-- The projectiles of the frame and those that detonated are defined. -/
structure Frame.ShotsDefined (frame : Frame (Quiet K) R) : Prop where
  projectiles : ∀ proj ∈ frame.next.projectiles, proj.Defined
  detonations : ∀ proj ∈ detonations frame.deeds, proj.Defined

theorem Projectile.turned_defined (exact : ExactNorm K) {target : Vec2 (Quiet K)}
    (defined : proj.Defined) (definedTarget : target.Defined) :
    (proj.turned target).Defined ↔ target ≠ proj.position := by
  have rotation : (proj.turned target).rotation.IsNumber ↔ target ≠ proj.position := by
    rw [Projectile.turned, vectorAngle_unit exact, Vec2.sub_defined,
      and_iff_right ⟨definedTarget, defined.position⟩,
      (Vec2.sub_eq_zero_iff definedTarget defined.position).ne]
  constructor
  · intro turned
    exact rotation.mp turned.rotation
  · intro away
    exact ⟨defined.position, rotation.mpr away, definedTarget⟩

theorem Projectile.flown_defined (exact : ExactNorm K) {target : Vec2 (Quiet K)}
    {type : ProjectileType (Quiet K)} (defined : proj.Defined) (definedTarget : target.Defined)
    (speed : type.speed.IsNumber) (isDelta : delta.IsNumber) :
    (proj.flown target type delta).Defined ↔ target ≠ proj.position := by
  have turned := Projectile.turned_defined exact defined definedTarget
  constructor
  · intro flown
    exact turned.mp ⟨defined.position, flown.rotation, definedTarget⟩
  · intro away
    have definedTurned := turned.mpr away
    have definedOffset := Vec2.sub_defined.mpr ⟨definedTarget, defined.position⟩
    have length : Glm.length (target - proj.position) ≠ 0 := by
      rw [(length_eq_zero_iff exact definedOffset).ne,
        (Vec2.sub_eq_zero_iff definedTarget defined.position).ne]
      exact away
    refine ⟨?_, definedTurned.rotation, definedTarget⟩
    rw [Projectile.flown, Vec2.add_defined, Vec2.mul_defined, Vec2.mul_defined, Vec2.div_defined,
      length_isNumber]
    exact ⟨defined.position, ⟨⟨definedOffset, definedOffset, length⟩, speed⟩, isDelta⟩

/-- One iteration of the projectile loop leaves defined shots exactly if the projectile
is clear. -/
theorem GameState.updateProjectile_shotsDefined (exact : ExactNorm K)
    (speeds : ∀ type ∈ mapData.projectileTypes, type.speed.IsNumber) (isDelta : delta.IsNumber)
    (executed : updateProjectile mapData delta frame proj = .ok frame') (defined : proj.Defined)
    (definedEnemies : ∀ enemy ∈ frame.next.enemies, enemy.Defined) :
    frame'.ShotsDefined ↔ frame.ShotsDefined ∧ proj.Clear frame.next.enemies := by
  have goal : ∀ {alive target type}, proj.Aim mapData frame.next.enemies alive target type →
      target.Defined ∧ (proj.Clear frame.next.enemies ↔ target ≠ proj.position) := by
    intro alive target type aim
    obtain ⟨enemy, found, _, isTarget⟩ := aim.slot
    constructor
    · rw [isTarget]
      split
      · exact (definedEnemies enemy (List.mem_of_getElem? found)).position
      · exact defined.lastEnemyPosition
    · constructor
      · intro clear
        exact clear alive target aim.inRange aim.aimed
      · intro away alive' target' _ aimed'
        cases aim.aimed.symm.trans aimed'
        exact away
  cases updateProjectile_step executed with
  | skipped outOfRange =>
      refine (and_iff_left fun alive target inRange => ?_).symm
      exact absurd inRange (Nat.not_lt.mpr outOfRange)
  | @flies alive target type aim _ =>
      obtain ⟨definedTarget, clear⟩ := goal aim
      rw [clear, ← Projectile.flown_defined exact defined definedTarget
        (speeds type (List.mem_of_getElem? aim.typed)) isDelta]
      constructor
      · intro shots
        obtain ⟨earlier, flown⟩ := List.forall_mem_append.mp shots.projectiles
        exact ⟨⟨earlier, shots.detonations⟩, List.forall_mem_singleton.mp flown⟩
      · intro shots
        rcases shots with ⟨earlier, flown⟩
        exact ⟨List.forall_mem_append.mpr
          ⟨earlier.projectiles, List.forall_mem_singleton.mpr flown⟩, earlier.detonations⟩
  | @detonates alive target type _ aim _ detonated =>
      obtain ⟨definedTarget, clear⟩ := goal aim
      obtain ⟨sameProjectiles, recorded⟩ := detonate_shots detonated
      rw [clear, ← Projectile.turned_defined exact defined definedTarget]
      constructor
      · intro shots
        have detonated := shots.detonations
        rw [recorded, List.forall_mem_append, List.forall_mem_singleton] at detonated
        exact ⟨⟨sameProjectiles ▸ shots.projectiles, detonated.1⟩, detonated.2⟩
      · intro shots
        rcases shots with ⟨earlier, turned⟩
        refine ⟨sameProjectiles.symm ▸ earlier.projectiles, ?_⟩
        rw [recorded, List.forall_mem_append, List.forall_mem_singleton]
        exact ⟨earlier.detonations, turned⟩

omit [IsStrictOrderedRing K] [Glm K] in
theorem Projectile.Clear.congr {enemies enemies' : List (Enemy (Quiet K))}
    (bodies : enemies'.map Enemy.body = enemies.map Enemy.body) (clear : proj.Clear enemies) :
    proj.Clear enemies' := by
  intro alive target inRange aimed
  rw [Enemy.length_eq_of_bodies bodies] at inRange
  rw [aimProjectile_congr bodies] at aimed
  exact clear alive target inRange aimed

/-- The projectile loop leaves defined shots exactly if all projectiles are clear. -/
theorem GameState.updateProjectiles_shotsDefined (exact : ExactNorm K)
    (speeds : ∀ type ∈ mapData.projectileTypes, type.speed.IsNumber) (isDelta : delta.IsNumber)
    {projectiles : List (Projectile (Quiet K))}
    (executed : projectiles.foldlM (updateProjectile mapData delta) frame = .ok frame')
    (defined : ∀ proj ∈ projectiles, proj.Defined)
    (definedEnemies : ∀ enemy ∈ frame.next.enemies, enemy.Defined) :
    frame'.ShotsDefined ↔
      frame.ShotsDefined ∧ ∀ proj ∈ projectiles, proj.Clear frame.next.enemies := by
  induction projectiles generalizing frame with
  | nil =>
      cases executed
      simp
  | cons proj projectiles ih =>
      rw [List.foldlM_cons, bind_eq_ok] at executed
      rcases executed with ⟨middle, stepped, continued⟩
      obtain ⟨definedProj, definedOthers⟩ := List.forall_mem_cons.mp defined
      have bodies := (updateProjectile_step stepped).carries.1.bodies
      have definedMiddle := Enemy.defined_of_bodies bodies definedEnemies
      rw [ih continued definedOthers definedMiddle, updateProjectile_shotsDefined exact speeds
        isDelta stepped definedProj definedEnemies, List.forall_mem_cons, and_assoc]
      apply and_congr_right
      intro _
      apply and_congr_right
      intro _
      exact forall₂_congr fun other _ => ⟨.congr bodies.symm, .congr bodies⟩

end Projectiles

/-! ## Commands -/

section Commands

variable {platform : Platform (Quiet K) R} {mapData : MapData (Quiet K)}
variable {frame frame' : Frame (Quiet K) R}

/-- The numbers that the command carries are defined. -/
def GameCommand.Defined : GameCommand (Quiet K) → Prop
  | .buildTower _ position => position.Defined
  | _ => True

/-- Every vector that the random engine draws is defined. -/
def Platform.ShiftsDefined (platform : Platform (Quiet K) R) : Prop :=
  ∀ engine, (platform.randomShift engine).1.Defined

/-- A command adds defined entities only. -/
theorem GameState.executeCommand_defined {command : GameCommand (Quiet K)}
    (executed : executeCommand platform mapData frame command = .ok frame')
    (waypoints : ∀ waypoint ∈ mapData.enemyPath.waypoints, waypoint.Defined)
    (shifts : platform.ShiftsDefined) (definedCommand : command.Defined)
    (defined : frame.next.Defined) : frame'.next.Defined := by
  cases command with
  | debugSpawnEnemy enemyType =>
      simp only [executeCommand, setupEnemy, bind_eq_ok, readAt_eq_ok, pure_eq_ok] at executed
      rcases executed with ⟨type, _, enemy, ⟨_, _, start, found, _, _, placed⟩, assembled⟩
      subst placed assembled
      refine ⟨?_, defined.towers, defined.projectiles⟩
      refine List.forall_mem_append.mpr ⟨defined.enemies, List.forall_mem_singleton.mpr ?_⟩
      have definedStart := waypoints start (List.mem_of_getElem? found)
      exact ⟨Vec2.add_defined.mpr ⟨definedStart, shifts _⟩, Vec2.zero_defined, trivial⟩
  | debugDespawnAllEnemies =>
      cases executed
      exact ⟨List.forall_mem_nil _, defined.towers, defined.projectiles⟩
  | debugAddGold amount =>
      cases executed
      exact ⟨defined.enemies, defined.towers, defined.projectiles⟩
  | buildTower towerType position =>
      simp only [executeCommand, bind_eq_ok, readAt_eq_ok] at executed
      rcases executed with ⟨type, _, executed⟩
      split at executed
      · cases executed
        refine ⟨defined.enemies, ?_, defined.projectiles⟩
        exact List.forall_mem_append.mpr
          ⟨defined.towers, List.forall_mem_singleton.mpr ⟨definedCommand, trivial⟩⟩
      · cases executed
        exact defined

theorem GameState.executeCommands_defined {commands : List (GameCommand (Quiet K))}
    (executed : executeCommands platform mapData commands frame = .ok frame')
    (waypoints : ∀ waypoint ∈ mapData.enemyPath.waypoints, waypoint.Defined)
    (shifts : platform.ShiftsDefined) (definedCommands : ∀ command ∈ commands, command.Defined)
    (defined : frame.next.Defined) : frame'.next.Defined := by
  apply foldlM_invariant (fun state => state.next.Defined) executed defined
  intro command state state' member holds stepped
  exact executeCommand_defined stepped waypoints shifts (definedCommands command member) holds

end Commands

end TowerDefence
