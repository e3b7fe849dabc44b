import TowerDefence.Session.Refinement
import TowerDefence.Model.Rational
import TowerDefence.Step.Bounds
import TowerDefence.Step.PathMeasure

/-!
# Index safety of a session

Loading establishes what the unchecked accesses rely on, and every step preserves
the indices that a state stores.
-/

namespace TowerDefence

open Foundations

variable {F R : Type} [Arithmetic F]

/-! ## Loading -/

section Loading

/-- Every loaded tower type comes with the type of its projectiles. -/
theorem loadTowerTypes_projectiles (towers : List (MapObject F))
    (loaded : List (TowerType F) × List (ProjectileType F))
    (inRange : ∀ type ∈ loaded.1, type.projectileTypeIdx < loaded.2.length) :
    ∀ type ∈ (towers.foldl loadTowerType loaded).1,
      type.projectileTypeIdx < (towers.foldl loadTowerType loaded).2.length := by
  induction towers generalizing loaded with
  | nil => exact inRange
  | cons tower towers ih =>
      rw [List.foldl_cons]
      apply ih
      intro type member
      simp only [loadTowerType, List.mem_append, List.mem_singleton] at member
      simp only [loadTowerType, List.length_append, List.length_singleton]
      cases member with
      | inl earlier => exact Nat.lt_succ_of_lt (inRange type earlier)
      | inr last =>
          rw [last]
          simp

theorem loadEntityTypes_projectiles {map : TiledMap F} {enemyTypes : List (EnemyType F)}
    {towerTypes : List (TowerType F)} {projectileTypes : List (ProjectileType F)}
    (loaded : loadEntityTypes map = .ok (enemyTypes, towerTypes, projectileTypes)) :
    ∀ type ∈ towerTypes, type.projectileTypeIdx < projectileTypes.length := by
  simp only [loadEntityTypes, bind_eq_ok, pure_eq_ok, Prod.mk.injEq] at loaded
  rcases loaded with ⟨_, _, towerLayer, _, _, towers, projectiles⟩
  have inRange := loadTowerTypes_projectiles (towerLayer.getObjectsByType .object) ([], [])
    (by simp)
  rw [towers, projectiles] at inRange
  exact inRange

end Loading

/-! ## Interpolated states -/

section Interpolated

open IsEntity

variable [Glm F] {T : Type} [IsEntity T F]

/-- The loop checks its indices, and what holds of the newer entities holds of the
interpolated ones. -/
theorem interpolateEntities_avoids {prev next outInterpolated : List T} {amount : F} {fuel : Nat}
    (holds : T → Prop) (kept : ∀ a b, holds b → holds (interpolatePair amount a b))
    (ofNext : ∀ item ∈ next, holds item) (ofOut : ∀ item ∈ outInterpolated, holds item)
    (i j : Nat) :
    Avoids Fault.outOfBounds (fun out => ∀ item ∈ out, holds item)
      (interpolateEntities prev next amount fuel i j outInterpolated) := by
  induction fuel generalizing outInterpolated i j with
  | zero =>
      rw [interpolateEntities]
      split
      · intro impossible
        cases impossible
      · exact ofOut
  | succ fuel ih =>
      rw [interpolateEntities]
      split
      · rename_i inside
        apply Avoids.bind (readAt_avoids inside.1)
        intro a _
        apply Avoids.bind (readAt_avoids inside.2)
        intro b found
        dsimp only
        split
        · exact ih ofOut _ _
        · apply ih
          intro item member
          cases List.mem_append.mp member with
          | inl earlier => exact ofOut item earlier
          | inr last =>
              rw [List.mem_singleton.mp last]
              exact kept a b (ofNext b (List.mem_of_getElem? found))
      · exact ofOut

omit [IsEntity T F] in
theorem GameState.interpolate_avoids {mapData : MapData F}
    {prevState nextState outState : GameState F R} {amount : F} {fuel : Nat}
    (safe : nextState.IndexSafe mapData) :
    Avoids Fault.outOfBounds (fun out => out.IndexSafe mapData)
      (interpolate prevState nextState outState amount fuel) := by
  apply Avoids.bind (interpolateEntities_avoids (fun enemy => enemy.IndexSafe mapData)
    (fun _ _ inBounds => ⟨inBounds.typeIdx, inBounds.waypointPos, inBounds.waypointLe⟩)
    safe.enemies (by simp) 0 0)
  intro enemies enemiesSafe
  apply Avoids.bind (interpolateEntities_avoids
    (fun tower => tower.typeIdx < mapData.towerTypes.length) (fun _ _ inBounds => inBounds)
    safe.towers (by simp) 0 0)
  intro towers towersSafe
  apply Avoids.bind (interpolateEntities_avoids
    (fun projectile => projectile.typeIdx < mapData.projectileTypes.length)
    (fun _ _ inBounds => inBounds) safe.projectiles (by simp) 0 0)
  intro projectiles projectilesSafe
  exact ⟨enemiesSafe, towersSafe, projectilesSafe⟩

end Interpolated

/-! ## Sessions -/

section Sessions

variable [Glm F] {platform : Platform F R} {fuel : Nat}

/-- No access of a pure step is outside the bounds. -/
theorem World.step_avoids {world : World F R} {state : GameState F R}
    {commands : List (GameCommand F)} (mapSafe : world.mapData.IndexSafe)
    (inRange : ∀ command ∈ commands, command.InRange world.mapData)
    (safe : state.IndexSafe world.mapData) :
    Avoids .outOfBounds (fun result => result.1.IndexSafe world.mapData)
      (world.step state commands) := by
  apply Avoids.bind (GameState.timeStep_avoids mapSafe inRange safe)
  intro frame frameSafe
  exact frameSafe

theorem World.step_advances {world : World F R} {state next : GameState F R}
    {commands : List (GameCommand F)} {record : StepRecord F}
    (stepped : world.step state commands = .ok (next, record)) : state.Advances next := by
  simp only [World.step, bind_eq_ok, pure_eq_ok, Prod.mk.injEq] at stepped
  rcases stepped with ⟨frame, executed, reached, _⟩
  rw [← reached]
  exact GameState.timeStep_advances executed

/-- No access of a session is outside the bounds. -/
theorem Boot.play_avoids (platform : Platform F R) (fuel : Nat) {boot : Boot F R}
    {batches : List (List (GameCommand F))}
    (mapSafe : boot.mapData.IndexSafe)
    (inRange : ∀ commands ∈ batches, ∀ command ∈ commands, command.InRange boot.mapData) :
    Avoids .outOfBounds (fun result => result.1.session.next.IndexSafe boot.mapData)
      (boot.play platform fuel batches) := by
  let inv (process : Process F R) : Prop :=
    process.world platform fuel = boot.world platform fuel ∧
      process.session.next.IndexSafe boot.mapData
  have initially : inv (boot.loaded platform) := ⟨rfl, .of_empty rfl rfl rfl⟩
  rw [play_eq_runFrom]
  apply (Avoids.runFrom inv initially _).mono fun _ holds => holds.2
  intro commands process member holds
  rcases holds with ⟨sameWorld, safe⟩
  have inRangeNow : ∀ command ∈ commands, command.InRange boot.mapData := by
    cases List.mem_cons.mp member with
    | inl warmUp => simp [warmUp]
    | inr given => exact inRange commands given
  have pureSafe : Avoids Fault.outOfBounds (fun result => result.1.IndexSafe boot.mapData)
      ((process.world platform fuel).step process.session.next commands) := by
    rw [sameWorld]
    exact World.step_avoids mapSafe inRangeNow safe
  apply (process.step_refines platform fuel commands).avoids pureSafe
  intro concrete pureResult refines nextSafe
  exact ⟨refines.world.trans sameWorld, refines.next ▸ nextSafe⟩

/-- Index safety of the simulation.  On a loaded map with at least two waypoints
and for commands whose type indices are in range, a session never accesses a
vector outside its bounds: neither its steps, nor interpolation, nor the visit of
all entities of a state.  The indices that a state stores stay in bounds, and
from each state to the next every enemy advances by at most one waypoint. -/
theorem Boot.play_indexSafe {boot : Boot F R} {batches : List (List (GameCommand F))}
    {pathMap typesMap : TiledMap F} {outPath : EnemyPath F}
    (pathLoaded : EnemyPath.load pathMap outPath = .ok boot.mapData.enemyPath)
    (typesLoaded : loadEntityTypes typesMap =
      .ok (boot.mapData.enemyTypes, boot.mapData.towerTypes, boot.mapData.projectileTypes))
    (waypoints : 2 ≤ boot.mapData.enemyPath.waypoints.length)
    (inRange : ∀ commands ∈ batches, ∀ command ∈ commands, command.InRange boot.mapData) :
    boot.mapData.IndexSafe ∧ boot.play platform fuel batches ≠ .error .outOfBounds ∧
      ∀ process records, boot.play platform fuel batches = .ok (process, records) →
        process.session.next.IndexSafe boot.mapData ∧
        process.session.prev.Advances process.session.next ∧
        GameState.forEachEntity boot.mapData process.session.next ≠ .error .outOfBounds ∧
        ∀ (outState : GameState F R) (amount : F) (steps : Nat),
          process.session.interpolateState outState amount steps ≠ .error .outOfBounds ∧
          ∀ out, process.session.interpolateState outState amount steps = .ok out →
            GameState.forEachEntity boot.mapData out ≠ .error .outOfBounds := by
  have mapSafe : boot.mapData.IndexSafe :=
    ⟨waypoints, EnemyPath.load_distances pathLoaded, loadEntityTypes_projectiles typesLoaded⟩
  have avoids := Boot.play_avoids platform fuel mapSafe inRange
  refine ⟨mapSafe, avoids.ne_error, ?_⟩
  intro process records played
  have safe := avoids.of_ok played
  obtain ⟨_, _, _, _, _, _, _, stepped⟩ := last_step_of_play platform fuel played
  refine ⟨safe, World.step_advances stepped, (GameState.forEachEntity_avoids safe).ne_error, ?_⟩
  intro outState amount steps
  have interpolates : Avoids Fault.outOfBounds (fun out => out.IndexSafe boot.mapData)
      (process.session.interpolateState outState amount steps) :=
    GameState.interpolate_avoids safe
  refine ⟨interpolates.ne_error, ?_⟩
  intro out interpolated
  exact (GameState.forEachEntity_avoids (interpolates.of_ok interpolated)).ne_error

end Sessions

section Meadow

open Rational

/-- A map that the loaders turn into the meadow. -/
def Rational.meadowMap : TiledMap ℚ :=
  let enemy (name : String) (gid : Nat) (health reward : ℚ) : MapObject ℚ :=
    { objectType := .object, name, gid, position := (0, 0), rotation := 0, polylines := []
      properties := [("Health", .float health), ("Speed", .float 1), ("GoldReward", .float reward),
        ("UnitsPerSpawn", .int 1)] }
  let tower (name : String) (gid : Nat) (damage : ℚ) : MapObject ℚ :=
    { objectType := .object, name, gid, position := (0, 0), rotation := 0, polylines := []
      properties := [("Cost", .float 5), ("Range", .float 10), ("ShotsPerSecond", .float 1),
        ("Damage", .float damage), ("ProjectileSpeed", .float 4), ("SplashRadius", .float 0),
        ("ProjectileTile", .int (gid + if gid = 3 then 2 else 3)),
        ("HitTile", .int (gid + if gid = 3 then 3 else 4))] }
  let path : MapObject ℚ :=
    { objectType := .polyline, name := "path", gid := 0, position := (1, 1), rotation := 0
      polylines := [(0, 0), (200, 0)], properties := [] }
  let group (name : String) (objects : List (MapObject ℚ)) : MapLayer ℚ :=
    { name, type := .objectGroup, objects, tileData := [] }
  { size := (0, 0)
    tileSize := (2, 2)
    layers :=
      [group "Paths" [path],
        group "EnemyTypes" [enemy "soldier" 0 10 7, enemy "scout" 1 1 5, enemy "giant" 2 20 9],
        group "TowerTypes" [tower "cannon" 3 10, tower "bow" 4 (1 - 1 / 2 ^ 24)]] }

theorem meadow_path_loaded : EnemyPath.load meadowMap
    { debugName := "", waypoints := [], distancesToGoal := [] } = .ok meadow.enemyPath := by
  obtain ⟨path, loaded, same⟩ := exists_ok_of_succeedsWith
    (EnemyPath.load meadowMap { debugName := "", waypoints := [], distancesToGoal := [] })
    (fun path => decide (path = meadow.enemyPath)) (by decide +kernel)
  rw [loaded, of_decide_eq_true same]

theorem meadow_types_loaded : loadEntityTypes meadowMap =
    .ok (meadow.enemyTypes, meadow.towerTypes, meadow.projectileTypes) := by
  obtain ⟨types, loaded, same⟩ := exists_ok_of_succeedsWith (loadEntityTypes meadowMap)
    (fun types => decide (types =
      (meadow.enemyTypes, meadow.towerTypes, meadow.projectileTypes))) (by decide +kernel)
  rw [loaded, of_decide_eq_true same]

/-- A duel on the meadow, in which a soldier walks, a tower fires and a projectile
flies, stays within all bounds. -/
theorem duel_indexSafe : meadow.IndexSafe ∧
    meadowBoot.play platform 10 ((duel 0 0).take 3) ≠ .error .outOfBounds ∧
    ∃ process records, meadowBoot.play platform 10 ((duel 0 0).take 3) = .ok (process, records) ∧
      process.session.next.enemies.length = 1 ∧ process.session.next.towers.length = 1 ∧
      process.session.next.projectiles.length = 1 ∧ process.session.next.IndexSafe meadow ∧
      process.session.prev.Advances process.session.next := by
  obtain ⟨⟨process, records⟩, played, checked⟩ := exists_ok_of_succeedsWith
    (meadowBoot.play platform 10 ((duel 0 0).take 3))
    (fun result => decide (result.1.session.next.enemies.length = 1 ∧
      result.1.session.next.towers.length = 1 ∧ result.1.session.next.projectiles.length = 1))
    (by decide +kernel)
  obtain ⟨oneEnemy, oneTower, oneProjectile⟩ := of_decide_eq_true checked
  have inRange : ∀ commands ∈ (duel 0 0).take 3, ∀ command ∈ commands,
      command.InRange meadowBoot.mapData := by
    simp [duel, GameCommand.InRange, meadowBoot, meadow]
  have waypoints : 2 ≤ meadowBoot.mapData.enemyPath.waypoints.length := by decide
  obtain ⟨mapSafe, noFault, reached⟩ := Boot.play_indexSafe meadow_path_loaded meadow_types_loaded
    waypoints inRange
  obtain ⟨safe, advances, _⟩ := reached process records played
  exact ⟨mapSafe, noFault, process, records, played, oneEnemy, oneTower, oneProjectile, safe,
    advances⟩

end Meadow

end TowerDefence
