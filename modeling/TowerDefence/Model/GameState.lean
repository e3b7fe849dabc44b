import TowerDefence.Model.Entities

/-!
# `GameState::TimeStep`

The function advances `initial` by writing into the buffer `next`, a static
scratch vector and the event queue of its caller.  Here the three form a `Frame`
and every loop of the source is a fold over it, so what the buffer and the
scratch vector held before is still visible in the model.

A frame also keeps `deeds`, a history variable: it records, in order, what the
events do not name (which enemy a damage application changed, which tower
fired).  Nothing reads it.
-/

namespace TowerDefence

/-- One call of `applyDamageToEnemy`: the enemy as it was before the call, its
index in the enemy list, and whether the projectile was aimed at it. -/
structure Strike (F : Type) where
  direct : Bool
  enemyIndex : Nat
  enemy : Enemy F
  projectile : Projectile F
  damage : F
  deriving DecidableEq, Repr

/-- An entry of the history variable. -/
inductive Deed (F : Type) where
  | launch (tower : Tower F) (projectile : Projectile F)
  | detonate (projectile : Projectile F)
  | strike (strike : Strike F)
  | spawn (enemy : Enemy F)
  | build (tower : Tower F)
  deriving DecidableEq, Repr

/-- Everything `TimeStep` writes to. -/
structure Frame (F R : Type) where
  next : GameState F R
  enemyQueryStorage : List Nat
  outGameEvents : List (GameEvent F)
  deeds : List (Deed F)
  deriving DecidableEq, Repr

namespace GameState

variable {F R : Type} [Arithmetic F]

/-- `QueryEnemiesInRadius` appends to `outResults` the index of every enemy that
is not nearly dead and lies within the radius. -/
def queryEnemiesInRadius (enemies : List (Enemy F)) (position : Vec2 F) (radius : F)
    (outResults : List Nat) : List Nat :=
  let radiusSqr := radius * radius
  enemies.zipIdx.foldl (fun outResults (enemy, i) =>
    if isNearlyZero enemy.remainingHealth then
      outResults
    else
      let x := enemy.position - position
      let distanceSqr := Glm.dot x x
      if distanceSqr ≤ radiusSqr then outResults ++ [i] else outResults) outResults

/-! ## Clearing the next state -/

/-- The statements of `TimeStep` before its first loop. -/
def clearNext (initial : GameState F R) (frame : Frame F R) : Frame F R :=
  { frame with
    next :=
      { frame.next with
        enemies := []
        towers := []
        projectiles := []
        playerState := initial.playerState
        randomEngine := initial.randomEngine
        nextObjectId := initial.nextObjectId } }

/-! ## Enemy movement -/

/-- The accumulators of the flocking loop. -/
structure Flock (F : Type) where
  othersInSight : Nat
  othersInFrontThatAreTooClose : Nat
  othersCumulativePosition : Vec2 F
  pushbackDirection : Vec2 F

def flockSightRange : F := literal 3
def flockWaypointSteeringFactor : F := literal 1
def flockRoadRecenteringStartDistance : F := literal 0.7
def flockRoadRecenteringMaxDistance : F := literal 1
def flockRoadRecenteringFactor : F := literal 5.5
def flockDesiredSpacing : F := literal 0.7
def flockMinimumSpacing : F := literal 0.4
def flockPushbackFactor : F := literal 1
def flockCenteringFactor : F := literal 0.2
def pathLookahead : F := literal 1
def accelerationFactor : F := literal 10

variable [Glm F]

/-- One iteration of the flocking loop.  The source compares addresses to leave
the enemy itself out, so the model compares positions in the list. -/
def flockWith (enemy : Enemy F) (slot : Nat) (flock : Flock F) (other : Enemy F × Nat) :
    Flock F :=
  let (otherEnemy, otherSlot) := other
  if slot = otherSlot then
    flock
  else
    let fromOther := enemy.position - otherEnemy.position
    let fromOtherDistSqr := lengthSqr fromOther
    if flockSightRange * flockSightRange < fromOtherDistSqr then
      flock
    else
      let flock :=
        if otherEnemy.distanceToGoal < enemy.distanceToGoal then
          { flock with
            othersInSight := flock.othersInSight + 1
            othersCumulativePosition := flock.othersCumulativePosition + otherEnemy.position }
        else
          flock
      if fromOtherDistSqr < flockDesiredSpacing * flockDesiredSpacing then
        let flock :=
          if otherEnemy.distanceToGoal < enemy.distanceToGoal then
            { flock with
              othersInFrontThatAreTooClose := flock.othersInFrontThatAreTooClose + 1 }
          else
            flock
        let fromOtherDist := Glm.sqrt fromOtherDistSqr
        let fromOtherNorm := fromOther / fromOtherDist
        let pushbackForce :=
          1 - Glm.smoothstep flockMinimumSpacing flockDesiredSpacing fromOtherDist
        let pushbackVector := fromOtherNorm * pushbackForce
        { flock with pushbackDirection := flock.pushbackDirection + pushbackVector }
      else
        flock

/-- The test with which the movement loop drops an enemy. -/
def enemyLeaves (mapData : MapData F) (enemy : Enemy F) : Exec Bool :=
  if isNearlyZero enemy.remainingHealth then
    pure true
  else do
    let goal ← readBack mapData.enemyPath.waypoints
    pure (isNearlyZero (distanceSqr enemy.position goal))

/-- The movement of an enemy that stays: the rest of the loop body. -/
def advanceEnemy (mapData : MapData F) (initial : GameState F R) (delta : F)
    (enemy : Enemy F) (slot : Nat) : Exec (Enemy F) := do
  let enemyPath := mapData.enemyPath
  let a ← readAt enemyPath.waypoints (u32Pred enemy.nextWaypointIdx)
  let b ← readAt enemyPath.waypoints enemy.nextWaypointIdx
  let targetDirection := Glm.normalize (b - a)
  let closestPathPoint := Glm.closestPointOnLine enemy.position a b
  let nextWaypointDistanceFromGoal ← readAt enemyPath.distancesToGoal enemy.nextWaypointIdx
  let enemyDistanceFromGoal := nextWaypointDistanceFromGoal + Glm.distance closestPathPoint b
  let nextWaypointIdx :=
    if distanceSqr closestPathPoint b < pathLookahead ∧
        enemy.nextWaypointIdx < enemyPath.waypoints.length - 1 then
      enemy.nextWaypointIdx + 1
    else
      enemy.nextWaypointIdx
  let enemyType ← readAt mapData.enemyTypes enemy.typeIdx
  let flock := initial.enemies.zipIdx.foldl (flockWith enemy slot) ⟨0, 0, 0, 0⟩
  let roadRecenteringDirection := closestPathPoint - enemy.position
  let distanceFromTheRoadCenter := Glm.length roadRecenteringDirection
  let roadRecenteringForce :=
    Glm.smoothstep flockRoadRecenteringStartDistance flockRoadRecenteringMaxDistance
      distanceFromTheRoadCenter
  let roadRecenteringDirection :=
    Glm.normalize roadRecenteringDirection * roadRecenteringForce
  let recenteringDirection :=
    if 0 < flock.othersInSight then
      let othersAveragePosition :=
        flock.othersCumulativePosition / (ofInt flock.othersInSight : F)
      Glm.normalize (othersAveragePosition - enemy.position)
    else
      0
  let acceleration := enemyType.speed * accelerationFactor
  let velocity := enemy.velocity
    + targetDirection * (flockWaypointSteeringFactor : F) * acceleration * delta
    + recenteringDirection * (flockCenteringFactor : F) * acceleration * delta
    + roadRecenteringDirection * (flockRoadRecenteringFactor : F) * acceleration * delta
  let velocityLength := Glm.length velocity
  let velocityNormalized := velocity / velocityLength
  let velocity :=
    if enemyType.speed < velocityLength then velocityNormalized * enemyType.speed else velocity
  let velocity :=
    velocity + flock.pushbackDirection * (flockPushbackFactor : F) * acceleration * delta
  pure
    { enemy with
      distanceToGoal := enemyDistanceFromGoal
      nextWaypointIdx
      velocity
      rotation := vectorAngle velocityNormalized
      position := enemy.position + velocity * delta }

/-- The body of the movement loop: the enemy is pushed first, and popped again
when it leaves. -/
def moveEnemy (mapData : MapData F) (initial : GameState F R) (delta : F)
    (frame : Frame F R) (entry : Enemy F × Nat) : Exec (Frame F R) := do
  let (enemy, slot) := entry
  let pushed := frame.next.enemies ++ [enemy]
  if ← enemyLeaves mapData enemy then
    pure { frame with next.enemies := pushed.dropLast }
  else
    let enemyNext ← advanceEnemy mapData initial delta enemy slot
    pure { frame with next.enemies := pushed.dropLast ++ [enemyNext] }

/-- The movement loop. -/
def moveEnemies (mapData : MapData F) (initial : GameState F R) (delta : F)
    (frame : Frame F R) : Exec (Frame F R) :=
  initial.enemies.zipIdx.foldlM (moveEnemy mapData initial delta) frame

/-! ## Towers -/

/-- The comparison `TimeStep` passes to `std::sort`.  `std::sort` calls it on
elements of the sorted range only. -/
def closerToGoal (enemies : List (Enemy F)) (aIdx bIdx : Nat) : Bool :=
  match enemies[aIdx]?, enemies[bIdx]? with
  | some a, some b => a.distanceToGoal < b.distanceToGoal
  | _, _ => false

/-- `std::sort`, whose behaviour is undefined unless the comparison is a strict weak ordering
of the range. -/
def sortRange (platform : Platform F R) (less : Nat → Nat → Bool) (range : List Nat) :
    Exec (List Nat) :=
  if Foundations.StrictWeakOrder less range then
    pure (platform.std.sort less range)
  else
    .error .notOrdered

/-- One iteration of the firing loop: `tower` is the tower of the initial state,
`towerNext` its copy in the next state. -/
def launchProjectile (type : TowerType F) (shotInterval : F) (targetEnemyIdx : Nat)
    (targetEnemy : Enemy F) (tower towerNext : Tower F) (frame : Frame F R) :
    Tower F × Frame F R :=
  let newProjectile : Projectile F :=
    { Projectile.fresh F with
      id := frame.next.nextObjectId
      typeIdx := type.projectileTypeIdx
      position := tower.position
      targetEnemyIndex := targetEnemyIdx
      targetEnemyId := targetEnemy.id
      lastEnemyPosition := targetEnemy.position
      rotation := towerNext.rotation }
  ({ towerNext with timeSinceLastShot := towerNext.timeSinceLastShot - shotInterval },
    { frame with
      next :=
        { frame.next with
          nextObjectId := u32Succ frame.next.nextObjectId
          projectiles := frame.next.projectiles ++ [newProjectile] }
      outGameEvents := frame.outGameEvents ++
        [.projectileLaunched newProjectile.position newProjectile.typeIdx]
      deeds := frame.deeds ++ [.launch tower newProjectile] })

/-- The firing loop. -/
def fireProjectiles (type : TowerType F) (shotInterval : F) (targetEnemyIdx : Nat)
    (targetEnemy : Enemy F) (tower : Tower F) :
    Nat → Tower F → Frame F R → Exec (Tower F × Frame F R)
  | 0, towerNext, frame =>
      if shotInterval < towerNext.timeSinceLastShot then
        .error .outOfFuel
      else
        pure (towerNext, frame)
  | fuel + 1, towerNext, frame =>
      if shotInterval < towerNext.timeSinceLastShot then
        let (towerNext, frame) :=
          launchProjectile type shotInterval targetEnemyIdx targetEnemy tower towerNext frame
        fireProjectiles type shotInterval targetEnemyIdx targetEnemy tower fuel towerNext frame
      else
        pure (towerNext, frame)

/-- The firing loop, for an interval that may be infinite.  No time exceeds such an interval. -/
def fireAtInterval (type : TowerType F) (shotInterval : Option F) (targetEnemyIdx : Nat)
    (targetEnemy : Enemy F) (tower : Tower F) (fuel : Nat) (towerNext : Tower F)
    (frame : Frame F R) : Exec (Tower F × Frame F R) :=
  match shotInterval with
  | some shotInterval =>
      fireProjectiles type shotInterval targetEnemyIdx targetEnemy tower fuel towerNext frame
  | none => pure (towerNext, frame)

/-- The body of the tower loop. -/
def updateTower (platform : Platform F R) (mapData : MapData F) (delta : F) (fuel : Nat)
    (frame : Frame F R) (tower : Tower F) : Exec (Frame F R) := do
  let type ← readAt mapData.towerTypes tower.typeIdx
  let storage := queryEnemiesInRadius frame.next.enemies tower.position type.range []
  if storage.isEmpty then
    pure
      { frame with
        next.towers := frame.next.towers ++ [tower]
        enemyQueryStorage := storage }
  else
    -- the comparison reads every element of the range
    storage.forM fun i => discard (readAt frame.next.enemies i)
    let storage ← sortRange platform (closerToGoal frame.next.enemies) storage
    let targetEnemyIdx ← readAt storage 0
    let targetEnemy ← readAt frame.next.enemies targetEnemyIdx
    let toEnemy := Glm.normalize (targetEnemy.position - tower.position)
    let towerNext :=
      { tower with
        rotation := vectorAngle toEnemy
        timeSinceLastShot := tower.timeSinceLastShot + delta }
    let shotInterval := reciprocal type.shotsPerSecond
    let (towerNext, frame) ←
      fireAtInterval type shotInterval targetEnemyIdx targetEnemy tower fuel towerNext frame
    pure
      { frame with
        next.towers := frame.next.towers ++ [towerNext]
        enemyQueryStorage := storage }

/-- The tower loop. -/
def updateTowers (platform : Platform F R) (mapData : MapData F) (delta : F) (fuel : Nat)
    (initial : GameState F R) (frame : Frame F R) : Exec (Frame F R) :=
  initial.towers.foldlM (updateTower platform mapData delta fuel) frame

/-! ## Projectiles -/

/-- `applyDamageToEnemy`.  The reference to the enemy is its index in
`next.enemies`; the index of the events is the one the projectile stores. -/
def applyDamageToEnemy (mapData : MapData F) (direct : Bool) (projectile : Projectile F)
    (projectileType : ProjectileType F) (frame : Frame F R) (enemyIndex : Nat) :
    Exec (Frame F R) := do
  let enemy ← readAt frame.next.enemies enemyIndex
  let enemyDied := enemy.remainingHealth ≤ projectileType.damage
  let struck :=
    { enemy with
      remainingHealth := Glm.max 0 (enemy.remainingHealth - projectileType.damage) }
  let frame :=
    { frame with
      next.enemies := frame.next.enemies.set enemyIndex struck
      outGameEvents := frame.outGameEvents ++
        [.projectileHit struck.position projectile.targetEnemyIndex projectile.typeIdx]
      deeds := frame.deeds ++
        [.strike ⟨direct, enemyIndex, enemy, projectile, projectileType.damage⟩] }
  if enemyDied then
    let enemyType ← readAt mapData.enemyTypes enemy.typeIdx
    pure
      { frame with
        next.playerState.gold := frame.next.playerState.gold + enemyType.goldReward
        outGameEvents := frame.outGameEvents ++ [.enemyDied projectile.targetEnemyIndex] }
  else
    pure frame

/-- The direct damage of a detonation. -/
def damageTarget (mapData : MapData F) (projNext : Projectile F)
    (projectileType : ProjectileType F) (targetEnemyAlive : Bool) (frame : Frame F R) :
    Exec (Frame F R) :=
  if targetEnemyAlive then
    applyDamageToEnemy mapData true projNext projectileType frame projNext.targetEnemyIndex
  else
    pure frame

/-- The splash damage of a detonation. -/
def damageSplash (mapData : MapData F) (projNext : Projectile F)
    (projectileType : ProjectileType F) (targetPosition : Vec2 F) (frame : Frame F R) :
    Exec (Frame F R) :=
  if isNearlyZero projectileType.splashRadius then
    pure frame
  else
    let storage :=
      queryEnemiesInRadius frame.next.enemies targetPosition projectileType.splashRadius []
    storage.foldlM (applyDamageToEnemy mapData false projNext projectileType)
      { frame with enemyQueryStorage := storage }

/-- The detonation branch of the projectile loop. -/
def detonate (mapData : MapData F) (projNext : Projectile F)
    (projectileType : ProjectileType F) (targetEnemyAlive : Bool) (targetPosition : Vec2 F)
    (frame : Frame F R) : Exec (Frame F R) := do
  let frame := { frame with deeds := frame.deeds ++ [.detonate projNext] }
  let frame ← damageTarget mapData projNext projectileType targetEnemyAlive frame
  damageSplash mapData projNext projectileType targetPosition frame

/-- What the projectile loop finds in the slot the projectile remembers: whether
the enemy there is the target, and the position the projectile aims at. -/
def aimProjectile (enemies : List (Enemy F)) (proj : Projectile F) : Exec (Bool × Vec2 F) := do
  let inSlot ← readAt enemies proj.targetEnemyIndex
  let targetEnemyAlive := inSlot.id == proj.targetEnemyId
  pure (targetEnemyAlive, if targetEnemyAlive then inSlot.position else proj.lastEnemyPosition)

/-- The body of the projectile loop. -/
def updateProjectile (mapData : MapData F) (delta : F) (frame : Frame F R)
    (proj : Projectile F) : Exec (Frame F R) := do
  if frame.next.enemies.length ≤ proj.targetEnemyIndex then
    pure frame
  else
    let (targetEnemyAlive, targetPosition) ← aimProjectile frame.next.enemies proj
    let toTarget := targetPosition - proj.position
    let toTargetDst := Glm.length toTarget
    let toTargetNorm := toTarget / toTargetDst
    let projNext :=
      { proj with
        lastEnemyPosition := targetPosition
        rotation := vectorAngle toTargetNorm }
    let projectileType ← readAt mapData.projectileTypes projNext.typeIdx
    let stepDst := projectileType.speed * delta
    if stepDst < toTargetDst then
      let stepVec := toTargetNorm * projectileType.speed * delta
      let projNext := { projNext with position := projNext.position + stepVec }
      pure { frame with next.projectiles := frame.next.projectiles ++ [projNext] }
    else
      detonate mapData projNext projectileType targetEnemyAlive targetPosition frame

/-- The projectile loop. -/
def updateProjectiles (mapData : MapData F) (delta : F) (initial : GameState F R)
    (frame : Frame F R) : Exec (Frame F R) :=
  initial.projectiles.foldlM (updateProjectile mapData delta) frame

/-! ## Commands -/

/-- `SetupEnemy`.  The enemy's `distanceToGoal` keeps the value it had. -/
def setupEnemy (enemyTypes : List (EnemyType F)) (typeIdx : Nat) (path : EnemyPath F)
    (outEnemy : Enemy F) : Exec (Enemy F) := do
  let type ← readAt enemyTypes typeIdx
  let a ← readAt path.waypoints 0
  let _b ← readAt path.waypoints 1
  pure { outEnemy with position := a, typeIdx, remainingHealth := type.maxHealth }

/-- `SetupTower`. -/
def setupTower (typeIdx : Nat) (position : Vec2 F) (outTower : Tower F) : Tower F :=
  { outTower with position, timeSinceLastShot := 0, typeIdx }

/-- The body of the command loop. -/
def executeCommand (platform : Platform F R) (mapData : MapData F) (frame : Frame F R)
    (command : GameCommand F) : Exec (Frame F R) :=
  let next := frame.next
  match command with
  | .debugSpawnEnemy enemyType => do
      let _enemyType ← readAt mapData.enemyTypes enemyType
      let enemy := { Enemy.fresh F with id := next.nextObjectId }
      let enemy ← setupEnemy mapData.enemyTypes enemyType mapData.enemyPath enemy
      let (shift, engine) := platform.randomShift next.randomEngine
      let enemy := { enemy with position := enemy.position + shift }
      pure
        { frame with
          next :=
            { next with
              enemies := next.enemies ++ [enemy]
              nextObjectId := u32Succ next.nextObjectId
              randomEngine := engine }
          deeds := frame.deeds ++ [.spawn enemy] }
  | .debugDespawnAllEnemies =>
      pure { frame with next.enemies := [] }
  | .debugAddGold amount =>
      pure { frame with next.playerState.gold := next.playerState.gold + amount }
  | .buildTower towerType position => do
      let type ← readAt mapData.towerTypes towerType
      if type.cost ≤ next.playerState.gold then
        let newTower := { Tower.fresh F with id := next.nextObjectId }
        let newTower := setupTower towerType position newTower
        pure
          { frame with
            next :=
              { next with
                playerState.gold := next.playerState.gold - type.cost
                towers := next.towers ++ [newTower]
                nextObjectId := u32Succ next.nextObjectId }
            deeds := frame.deeds ++ [.build newTower] }
      else
        pure frame

/-- The command loop. -/
def executeCommands (platform : Platform F R) (mapData : MapData F)
    (commands : List (GameCommand F)) (frame : Frame F R) : Exec (Frame F R) :=
  commands.foldlM (executeCommand platform mapData) frame

/-! ## The whole step -/

/-- `GameState::TimeStep`.  The firing loops may use `fuel` iterations each. -/
def timeStep (platform : Platform F R) (mapData : MapData F) (initial : GameState F R)
    (commands : List (GameCommand F)) (delta : F) (fuel : Nat) (frame : Frame F R) :
    Exec (Frame F R) := do
  let frame := clearNext initial frame
  let frame ← moveEnemies mapData initial delta frame
  let frame ← updateTowers platform mapData delta fuel initial frame
  let frame ← updateProjectiles mapData delta initial frame
  executeCommands platform mapData commands frame

/-! ## Queries -/

/-- `ForEachEntity`: the pairs of an entity and its type that are passed to the
function. -/
def forEachEntity (mapData : MapData F) (state : GameState F R) :
    Exec (List (Entity F × EntityType)) := do
  let enemies ← state.enemies.mapM fun enemy => do
    let type ← readAt mapData.enemyTypes enemy.typeIdx
    pure (enemy.toEntity, type.toEntityType)
  let towers ← state.towers.mapM fun tower => do
    let type ← readAt mapData.towerTypes tower.typeIdx
    pure (tower.toEntity, type.toEntityType)
  let projectiles ← state.projectiles.mapM fun projectile => do
    let type ← readAt mapData.projectileTypes projectile.typeIdx
    pure (projectile.toEntity, type.toEntityType)
  pure (enemies ++ towers ++ projectiles)

end GameState

end TowerDefence
