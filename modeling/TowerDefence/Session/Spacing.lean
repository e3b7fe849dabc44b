import TowerDefence.Session.Definedness
import TowerDefence.Step.Clearance

/-!
# Sessions of spaced states

Whether a step computes an undefined value is decided by vectors that the step itself
computes.  Here the state before the step decides it: a state is spaced if no enemy is at the
position of another one, on its road or in the midst of the enemies ahead, if every enemy
keeps moving, and if it misses the towers and the projectiles that are aimed at it.
-/

namespace TowerDefence

open Foundations GameState
open Foundations.Quiet (nan number)

/-! ## Spaced states -/

section States

variable {F R : Type} [Arithmetic F] [Glm F]

/-- In the state before the step, no enemy that stays is at the position of another one, on
its road or in the midst of the enemies ahead; every one keeps moving, and it misses the
towers and the projectiles that are aimed at it. -/
structure World.Spaced (world : World F R) (state : GameState F R) : Prop where
  apart : ∀ entry ∈ survivors world.mapData state, ∀ other ∈ state.enemies.zipIdx,
    entry.2 ≠ other.2 → other.1.position ≠ entry.1.position
  offRoad : ∀ entry ∈ survivors world.mapData state, ∀ a b,
    entry.1.OnSegment world.mapData.enemyPath a b → ¬Vec2.Between a b entry.1.position
  outside : ∀ entry ∈ survivors world.mapData state,
    entry.1.ahead entry.2 state.enemies.zipIdx ≠ [] →
    Vec2.OutsideOf ((entry.1.ahead entry.2 state.enemies.zipIdx).map
      fun other => other.1.position) entry.1.position
  moving : ∀ entry ∈ survivors world.mapData state, ∀ type a b,
    world.mapData.enemyTypes[entry.1.typeIdx]? = some type →
    entry.1.OnSegment world.mapData.enemyPath a b →
    entry.1.KeepsMoving type world.fixedDelta a b
  towers : ∀ tower ∈ state.towers, ∀ entry ∈ survivors world.mapData state,
    Enemy.Misses world.mapData state world.fixedDelta entry tower.position
  projectiles : ∀ proj ∈ state.projectiles, ∀ entry ∈ survivors world.mapData state,
    entry.1.id = proj.targetEnemyId →
    Enemy.Misses world.mapData state world.fixedDelta entry proj.position

end States

variable {K R : Type} [Field K] [LinearOrder K] [IsStrictOrderedRing K] [Glm K]

section Spaced

/-- What every state of a session without undefined values has: its entities are defined
and on the path, and no projectile is where it last saw its target. -/
structure GameState.Sound (mapData : MapData (Quiet K)) (state : GameState (Quiet K) R) :
    Prop where
  defined : state.Defined
  onPath : ∀ enemy ∈ state.enemies, enemy.OnPath mapData.enemyPath
  aimsAway : ∀ proj ∈ state.projectiles, proj.lastEnemyPosition ≠ proj.position

variable {world : World (Quiet K) R} {state next : GameState (Quiet K) R}
variable {moved fired struck : Frame (Quiet K) R}

/-- A survivor of a spaced state is clear. -/
theorem World.Spaced.clear_enemy (exact : ExactNorm K) (bounds : ExactBounds K)
    (closest : ClosestOnSegment K) (proper : world.Proper)
    (speeds : ∀ type ∈ world.mapData.enemyTypes, 0 < type.speed) (positive : 0 < world.fixedDelta)
    (spaced : world.Spaced state) (sound : state.Sound world.mapData)
    {entry : Enemy (Quiet K) × Nat} (survives : entry ∈ survivors world.mapData state) :
    entry.1.Clear world.mapData state world.fixedDelta entry.2 := by
  have member := (List.mem_filter.mp survives).1
  have enemyMember := List.fst_mem_of_mem_zipIdx member
  have defined := sound.defined.enemies entry.1 enemyMember
  have onPath := sound.onPath entry.1 enemyMember
  have definedAhead : ∀ other ∈ entry.1.ahead entry.2 state.enemies.zipIdx,
      other.1.position.Defined := fun other isAhead =>
    (sound.defined.enemies other.1
      (List.fst_mem_of_mem_zipIdx (List.mem_filter.mp isAhead).1)).position
  have offRoad : ∀ a b, entry.1.OnSegment world.mapData.enemyPath a b →
      Glm.closestPointOnLine entry.1.position a b ≠ entry.1.position := by
    intro a b segment
    obtain ⟨definedA, definedB, distinct⟩ := segment.ends proper.walkable onPath
    exact closestPointOnLine_ne closest defined.position definedA definedB distinct
      (spaced.offRoad entry survives a b segment)
  have offCentre : entry.1.ahead entry.2 state.enemies.zipIdx ≠ [] →
      Enemy.centre (entry.1.ahead entry.2 state.enemies.zipIdx) ≠ entry.1.position :=
    fun some => Enemy.centre_ne defined.position definedAhead (spaced.outside entry survives some)
  refine ⟨spaced.apart entry survives, offRoad, offCentre, ?_⟩
  intro type a b typed segment
  obtain ⟨definedA, definedB, distinct⟩ := segment.ends proper.walkable onPath
  have typeMember := List.mem_of_getElem? typed
  have definedSteered := (Enemy.steered_defined defined definedAhead
    (proper.walkable.speeds type typeMember) proper.delta definedA definedB distinct).mpr
      ⟨offCentre, offRoad a b segment⟩
  exact (spaced.moving entry survives type a b typed segment).steered_ne_zero exact bounds
    (speeds type typeMember) positive definedSteered

/-- A step from a sound and spaced state is clear. -/
theorem World.Spaced.clear (exact : ExactNorm K) (bounds : ExactBounds K)
    (closest : ClosestOnSegment K) (proper : world.Proper)
    (speeds : ∀ type ∈ world.mapData.enemyTypes, 0 < type.speed) (positive : 0 < world.fixedDelta)
    (spaced : world.Spaced state) (sound : state.Sound world.mapData) : world.Clear state := by
  have clearEnemies : ∀ entry ∈ state.enemies.zipIdx, enemyStays world.mapData entry.1 = true →
      entry.1.Clear world.mapData state world.fixedDelta entry.2 := fun entry member stays =>
    spaced.clear_enemy exact bounds closest proper speeds positive sound
      (List.mem_filter.mpr ⟨member, stays⟩)
  have missed : ∀ moved : Frame (Quiet K) R,
      moveEnemies world.mapData state world.fixedDelta
        (clearNext state (World.startFrame state)) = .ok moved →
      ∀ (slot : Nat) (enemyNext : Enemy (Quiet K)) (place : Vec2 (Quiet K)),
      moved.next.enemies[slot]? = some enemyNext →
      (∀ entry ∈ survivors world.mapData state, enemyNext.id = entry.1.id →
        Enemy.Misses world.mapData state world.fixedDelta entry place) →
      enemyNext.position ≠ place := by
    intro moved moves slot enemyNext place found misses
    obtain ⟨entry, survives, image⟩ := getElem?_of_forall₂ (moveEnemies_survivors moves) found
    have survivor := List.mem_of_getElem? survives
    have enemyMember := List.fst_mem_of_mem_zipIdx (List.mem_filter.mp survivor).1
    have definedNext := (World.moved_defined_iff exact proper moves sound.defined.enemies
      sound.onPath).mpr clearEnemies enemyNext (List.mem_of_getElem? found)
    exact (misses entry survivor image.moved.id).position_ne exact bounds speeds positive image
      definedNext (sound.defined.enemies entry.1 enemyMember)
  refine ⟨clearEnemies, ?_, ?_⟩
  · intro moved moves tower member type target typed targets
    obtain ⟨index, _, found⟩ := targets
    exact missed moved moves index target tower.position found fun entry survivor _ =>
      spaced.towers tower member entry survivor
  · intro moved moves proj member alive target inRange aimed
    obtain ⟨inSlot, found⟩ : ∃ inSlot, moved.next.enemies[proj.targetEnemyIndex]? = some inSlot :=
      ⟨_, List.getElem?_eq_getElem inRange⟩
    rw [aimProjectile_of_slot found] at aimed
    cases aimed
    split
    case isTrue isAlive =>
      have isTarget := eq_of_beq isAlive
      exact missed moved moves _ inSlot proj.position found fun entry survivor sameId =>
        spaced.projectiles proj member entry survivor (sameId.symm.trans isTarget)
    case isFalse => exact sound.aimsAway proj member

omit [LinearOrder K] [IsStrictOrderedRing K] [Glm K] [Field K] in
/-- A tower that does not stand where its target is shoots at another place. -/
theorem TowerTurn.Follows.shots_aimAway {F R : Type} [Arithmetic F] [Glm F]
    {platform : Platform F R} {mapData : MapData F} {enemies : List (Enemy F)} {delta : F}
    {turn : TowerTurn F} (follows : turn.Follows platform mapData enemies delta)
    (clear : turn.tower.Clear platform mapData enemies) :
    ∀ proj ∈ turn.shots, proj.lastEnemyPosition ≠ proj.position := by
  cases follows with
  | idle _ _ => simp
  | @engages type _ index target typed _ engaged =>
      intro proj member
      obtain ⟨position, _⟩ := engaged.launched proj member
      obtain ⟨_, _, lastPosition⟩ := engaged.aimed proj member
      rw [position, lastPosition]
      exact clear type target typed ⟨index, engaged.chosen, engaged.found⟩

/-- A projectile that keeps flying has not reached the place that it flies to. -/
theorem Projectile.flown_aimsAway (exact : ExactNorm K) {proj : Projectile (Quiet K)}
    {target : Vec2 (Quiet K)} {type : ProjectileType (Quiet K)} {delta : Quiet K}
    (defined : proj.position.Defined) (definedTarget : target.Defined)
    (speed : type.speed.IsNumber) (isDelta : delta.IsNumber)
    (farther : type.speed * delta < Glm.length (target - proj.position)) :
    target ≠ (proj.flown target type delta).position := by
  obtain ⟨position, isPosition⟩ := Vec2.defined_iff.mp defined
  obtain ⟨goal, rfl⟩ := Vec2.defined_iff.mp definedTarget
  obtain ⟨rate, isRate⟩ := Quiet.isNumber_iff.mp speed
  obtain ⟨time, isTime⟩ := Quiet.isNumber_iff.mp isDelta
  rw [isPosition, isRate, isTime] at farther
  have remains : rate * time < Glm.length (goal - position) := farther
  intro there
  have nonneg : 0 ≤ Glm.length (goal - position) :=
    (abs_nonneg _).trans (exact.abs_x_le (goal - position))
  have length : Glm.length (goal - position) ≠ 0 := by
    intro zero
    have arrived : (goal.numbers).Defined := goal.numbers_defined
    rw [there, Projectile.flown, Vec2.add_defined, Vec2.mul_defined, Vec2.mul_defined,
      Vec2.div_defined, isPosition] at arrived
    exact arrived.2.1.1.2.2 (Quiet.number_eq_zero.mpr zero)
  have positive := lt_of_le_of_ne nonneg length.symm
  have landed : goal = position +
      (goal - position) / Glm.length (goal - position) * rate * time := by
    have isLength : Glm.length (goal.numbers - position.numbers) =
        number (Glm.length (goal - position)) := rfl
    rw [Projectile.flown, isPosition, isRate, isTime, isLength, numbers_sub,
      numbers_div _ length] at there
    exact Option.some.inj (congrArg Vec2.numbers? there)
  -- the way flown is a proper part of the way to the goal
  have part : ∀ way : K, way = way / Glm.length (goal - position) * rate * time → way = 0 := by
    intro way same
    by_contra nonzero
    have whole : way * (Glm.length (goal - position) - rate * time) = 0 := by
      have scaled := congrArg (· * Glm.length (goal - position)) same
      have cancelled : way / Glm.length (goal - position) * rate * time *
          Glm.length (goal - position) = way * (rate * time) := by
        rw [mul_assoc, mul_assoc, div_mul_eq_mul_div, div_eq_iff length]
        ring
      rw [cancelled] at scaled
      rw [mul_sub, scaled, sub_self]
    cases mul_eq_zero.mp whole with
    | inl zero => exact nonzero zero
    | inr zero => exact absurd (sub_eq_zero.mp zero) remains.ne'
  have noWay : goal - position = 0 := by
    have first := congrArg Vec2.x landed
    have second := congrArg Vec2.y landed
    apply Vec2.ext
    · exact part _ (sub_eq_iff_eq_add'.mpr first)
    · exact part _ (sub_eq_iff_eq_add'.mpr second)
  exact length ((exact.length_eq_zero _).mpr noWay)

/-- After a step from a clear state, no projectile is where it last saw its target. -/
theorem World.Loops.aimsAway (exact : ExactNorm K) (proper : world.Proper)
    (loops : world.Loops state moved fired struck) (sound : state.Sound world.mapData)
    (clear : world.Clear state) :
    ∀ proj ∈ struck.next.projectiles, proj.lastEnemyPosition ≠ proj.position := by
  obtain ⟨images, reached, _⟩ := moveEnemies_spec loops.moves
  obtain ⟨turns, towers, follow, volley⟩ := updateTowers_turns loops.fires
  obtain ⟨_, flights, appended, carried⟩ := updateProjectiles_spec loops.hits
  obtain ⟨_, clearTowers, clearProjectiles⟩ := loops.clear_iff.mp clear
  have definedMoved := (World.moved_defined_iff exact proper loops.moves sound.defined.enemies
    sound.onPath).mpr clear.enemies
  have shots : fired.next.projectiles = (turns.flatMap TowerTurn.launches).map Prod.snd := by
    rw [volley.next, reached]
    rfl
  rw [appended, List.forall_mem_append]
  constructor
  · intro proj member
    rw [shots] at member
    obtain ⟨shot, launched, rfl⟩ := List.mem_map.mp member
    obtain ⟨turn, turnMember, byTurn⟩ := List.mem_flatMap.mp launched
    have wasThere : turn.tower ∈ state.towers := towers ▸ List.mem_map_of_mem turnMember
    exact (follow turn turnMember).shots_aimAway (clearTowers turn.tower wasThere) shot.2
      (TowerTurn.mem_launches.mp byTurn).2
  · intro projNext member
    obtain ⟨proj, projMember, flight⟩ := carried.exists_of_mem_images member
    obtain ⟨alive, target, type, aim, farther, rfl⟩ := flight
    have defined := sound.defined.projectiles proj projMember
    obtain ⟨enemy, found, _, isTarget⟩ := aim.slot
    have definedTarget : target.Defined := by
      rw [isTarget]
      split
      · rw [volley.enemies] at found
        exact (definedMoved enemy (List.mem_of_getElem? found)).position
      · exact defined.lastEnemyPosition
    exact Projectile.flown_aimsAway exact defined.position definedTarget
      (proper.projectileSpeeds type (List.mem_of_getElem? aim.typed)) proper.delta farther

theorem World.step_sound (exact : ExactNorm K) (proper : world.Proper)
    {commands : List (GameCommand (Quiet K))} {record : StepRecord (Quiet K)}
    (definedCommands : ∀ command ∈ commands, command.Defined)
    (stepped : world.step state commands = .ok (next, record))
    (sound : state.Sound world.mapData) (clear : world.Clear state) :
    next.Sound world.mapData := by
  have stepDefined := (World.stepDefined_iff exact proper stepped sound.defined
    sound.onPath).mpr clear
  refine ⟨stepDefined.next proper definedCommands stepped, ?_, ?_⟩
  · obtain ⟨frame, executed, rfl, _⟩ := World.step_eq_ok.mp stepped
    exact timeStep_onPath executed sound.onPath
  · obtain ⟨moved, fired, struck, after, loops, commanded, rfl⟩ := World.loops_of_step stepped
    rw [executeCommands_projectiles commanded]
    exact loops.aimsAway exact proper sound clear

end Spaced

/-! ## Sessions -/

section Sessions

variable {platform : Platform (Quiet K) R} {fuel : Nat} {boot : Boot (Quiet K) R}
variable {batches : List (List (GameCommand (Quiet K)))} {process : Process (Quiet K) R}
variable {records : List (StepRecord (Quiet K))}

end Sessions

/-! ## Maps with defined numbers -/

section Numbers

def EnemyType.numbers (type : EnemyType K) : EnemyType (Quiet K) where
  toEntityType := type.toEntityType
  maxHealth := number type.maxHealth
  speed := number type.speed
  goldReward := number type.goldReward
  unitsPerSpawn := type.unitsPerSpawn

def TowerType.numbers (type : TowerType K) : TowerType (Quiet K) where
  toEntityType := type.toEntityType
  cost := number type.cost
  range := number type.range
  shotsPerSecond := number type.shotsPerSecond
  projectileTypeIdx := type.projectileTypeIdx

def ProjectileType.numbers (type : ProjectileType K) : ProjectileType (Quiet K) where
  toEntityType := type.toEntityType
  damage := number type.damage
  speed := number type.speed
  splashRadius := number type.splashRadius
  hitTileId := type.hitTileId

/-- A map of exact numbers. -/
def MapData.numbers (mapData : MapData K) : MapData (Quiet K) where
  enemyPath :=
    { debugName := mapData.enemyPath.debugName
      waypoints := mapData.enemyPath.waypoints.map Vec2.numbers
      distancesToGoal := mapData.enemyPath.distancesToGoal.map number }
  enemyTypes := mapData.enemyTypes.map EnemyType.numbers
  towerTypes := mapData.towerTypes.map TowerType.numbers
  projectileTypes := mapData.projectileTypes.map ProjectileType.numbers
  buildableMap := mapData.buildableMap

omit [Field K] [LinearOrder K] [IsStrictOrderedRing K] [Glm K] in
theorem MapData.numbers_walkable {mapData : MapData K}
    (distinct : mapData.enemyPath.waypoints.IsChain (· ≠ ·))
    (short : mapData.enemyPath.waypoints.length ≤ 2 ^ 32) : mapData.numbers.Walkable := by
  refine ⟨?_, ?_, ?_, ?_⟩
  · exact List.forall_mem_map.mpr fun waypoint _ => waypoint.numbers_defined
  · intro i a b foundA foundB
    simp only [MapData.numbers, List.getElem?_map, Option.map_eq_some_iff] at foundA foundB
    obtain ⟨valuesA, isA, rfl⟩ := foundA
    obtain ⟨valuesB, isB, rfl⟩ := foundB
    obtain ⟨_, rfl⟩ := List.getElem?_eq_some_iff.mp isA
    obtain ⟨lt, rfl⟩ := List.getElem?_eq_some_iff.mp isB
    have apart := List.isChain_iff_getElem.mp distinct i lt
    intro equal
    exact apart (Option.some.inj (congrArg Vec2.numbers? equal))
  · exact (List.length_map ..).trans_le short
  · exact List.forall_mem_map.mpr fun _ _ => trivial

end Numbers

section Meadow

open Rational

theorem Rational.exactNorm : ExactNorm ℚ where
  length_eq_zero vector := by
    show |vector.x| + |vector.y| = 0 ↔ vector = 0
    rw [add_eq_zero_iff_of_nonneg (abs_nonneg _) (abs_nonneg _), abs_eq_zero, abs_eq_zero,
      Vec2.ext_iff]
    exact Iff.rfl
  abs_x_le vector := le_add_of_nonneg_right (abs_nonneg vector.y)
  normalize_eq _ _ := rfl
  sqrt_eq_zero value nonneg := by
    show (ceilSqrt value.num.toNat : ℚ) / (Nat.sqrt value.den : ℚ) = 0 ↔ value = 0
    have denominator : (Nat.sqrt value.den : ℚ) ≠ 0 :=
      Nat.cast_ne_zero.mpr (Nat.sqrt_pos.mpr value.pos).ne'
    have numerator := Rat.num_nonneg.mpr nonneg
    rw [div_eq_zero_iff, or_iff_left denominator, Nat.cast_eq_zero, ceilSqrt_eq_zero,
      Int.toNat_eq_zero, ← Rat.num_eq_zero]
    exact ⟨fun atMost => le_antisymm atMost numerator, fun zero => zero.le⟩
  pi_ne_zero := by
    show (180 : ℚ) ≠ 0
    norm_num

/-- A platform whose random engine always draws the same shift. -/
def Rational.quietPlatform (shift : Vec2 ℚ) : Platform (Quiet ℚ) Nat where
  std := .merge
  defaultEngine := 0
  randomShift draws := (shift.numbers, draws + 1)

/-- The meadow session, starting from undefined memory. -/
def Rational.quietBoot : Boot (Quiet ℚ) Nat where
  mapData := meadow.numbers
  startingGold := 20
  startingLives := 3
  fixedTimeDelta := 1
  otherBuffer :=
    { randomEngine := 0, playerState := ⟨nan, 0⟩, enemies := [], towers := [], projectiles := [],
      nextObjectId := 0 }
  playerState := ⟨nan, 0⟩
  enemyQueryStorage := []

theorem quiet_walkable : meadow.numbers.Walkable :=
  MapData.numbers_walkable (by decide) (by decide)

theorem quiet_proper (shift : Vec2 ℚ) (fuel : Nat) :
    (quietBoot.world (quietPlatform shift) fuel).Proper where
  walkable := quiet_walkable
  projectileSpeeds := List.forall_mem_map.mpr fun _ _ => trivial
  delta := trivial
  shifts _ := shift.numbers_defined

/-- One enemy walks past a tower beside the road. -/
def Rational.quietDuel : List (List (GameCommand (Quiet ℚ))) :=
  [[.debugSpawnEnemy 0, .buildTower 0 (Vec2.numbers ⟨2, 3⟩)], [], [], []]

/-- One enemy walks along the road of the meadow, near to it and out of reach of everything. -/
structure Rational.StrollsBesideRoad (state : GameState (Quiet ℚ) Nat) : Prop where
  alone : ∀ entry ∈ survivors meadow.numbers state, ∀ other ∈ state.enemies.zipIdx,
    entry.2 = other.2
  walks : ∀ entry ∈ survivors meadow.numbers state, entry.1.nextWaypointIdx = 1 ∧
    entry.1.position.y ≠ 0 ∧
    0 ≤ Glm.dot entry.1.velocity (Vec2.numbers ⟨100, 0⟩ - Vec2.numbers ⟨0, 0⟩) ∧
    entry.1.NearRoad (Vec2.numbers ⟨0, 0⟩) (Vec2.numbers ⟨100, 0⟩)
  towers : ∀ tower ∈ state.towers, ∀ entry ∈ survivors meadow.numbers state,
    ¬(tower.position - entry.1.position).Within
      (Enemy.reach meadow.numbers state.enemies 1 entry)
  projectiles : ∀ proj ∈ state.projectiles, ∀ entry ∈ survivors meadow.numbers state,
    ¬(proj.position - entry.1.position).Within
      (Enemy.reach meadow.numbers state.enemies 1 entry)

instance (enemy : Enemy (Quiet ℚ)) (a b : Vec2 (Quiet ℚ)) : Decidable (enemy.NearRoad a b) :=
  inferInstanceAs (Decidable (_ ≤ _))

instance (state : GameState (Quiet ℚ) Nat) : Decidable (StrollsBesideRoad state) :=
  decidable_of_iff (_ ∧ _ ∧ _ ∧ _)
    ⟨fun parts => ⟨parts.1, parts.2.1, parts.2.2.1, parts.2.2.2⟩,
      fun strolls => ⟨strolls.alone, strolls.walks, strolls.towers, strolls.projectiles⟩⟩

/-- A segment of the meadow's road is the whole road. -/
theorem Rational.meadow_segment {enemy : Enemy (Quiet ℚ)} {a b : Vec2 (Quiet ℚ)}
    (next : enemy.nextWaypointIdx = 1) (segment : enemy.OnSegment meadow.numbers.enemyPath a b) :
    a = Vec2.numbers ⟨0, 0⟩ ∧ b = Vec2.numbers ⟨100, 0⟩ := by
  have first := segment.first
  have last := segment.last
  rw [next] at first last
  exact ⟨(Option.some.inj first).symm, (Option.some.inj last).symm⟩

theorem Rational.StrollsBesideRoad.spaced {shift : Vec2 ℚ} {fuel : Nat}
    {state : GameState (Quiet ℚ) Nat} (strolls : StrollsBesideRoad state) :
    (quietBoot.world (quietPlatform shift) fuel).Spaced state := by
  have nobodyAhead : ∀ entry ∈ survivors meadow.numbers state,
      entry.1.ahead entry.2 state.enemies.zipIdx = [] := by
    intro entry survives
    rw [Enemy.ahead, List.filter_eq_nil_iff]
    intro other member
    simp [Enemy.follows, Enemy.sees, strolls.alone entry survives other member]
  refine ⟨?_, ?_, ?_, ?_, ?_, ?_⟩
  · intro entry survives other member otherSlot
    exact absurd (strolls.alone entry survives other member) otherSlot
  · intro entry survives a b segment onRoad
    obtain ⟨next, beside, _⟩ := strolls.walks entry survives
    obtain ⟨rfl, rfl⟩ := meadow_segment next segment
    obtain ⟨amount, nonneg, _, place⟩ := onRoad
    apply beside
    cases amount with
    | nan => cases nonneg
    | number amount =>
        rw [place]
        show number (0 + (0 - 0) * amount) = number 0
        rw [sub_zero, zero_mul, add_zero]
  · intro entry survives some
    exact absurd (nobodyAhead entry survives) some
  · intro entry survives type a b _ segment
    obtain ⟨next, _, forward, near⟩ := strolls.walks entry survives
    obtain ⟨rfl, rfl⟩ := meadow_segment next segment
    exact .forward ⟨forward, .inl near⟩
  · intro tower member entry survives
    exact .far (strolls.towers tower member entry survives)
  · intro proj member entry survives _
    exact .far (strolls.projectiles proj member entry survives)

end Meadow

end TowerDefence
