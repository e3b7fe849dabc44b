import TowerDefence.Foundations.Ordering
import TowerDefence.Model.Arithmetic

/-!
# Entities, entity types and the game state

The records of `entities.h`, `entity_types.h`, `map_data.h` and `game_state.h`.
`std::vector` is a list and `u32` indices are natural numbers; the one counter
that only ever grows, `nextObjectId`, wraps at `2 ^ 32` as it does in the source.

Reading a vector outside its bounds is undefined behaviour, so every unchecked
access of the source is a read that can fail.  Sorting fails in the same way where the
comparison is no strict weak ordering.
-/

namespace TowerDefence

/-- How an execution can fail to produce a result. -/
inductive Fault where
  /-- A vector was read outside its bounds. -/
  | outOfBounds
  /-- A `CGT_ASSERT_ALWAYS` was violated. -/
  | assertion
  /-- A loop used more iterations than the execution was given. -/
  | outOfFuel
  /-- `AreNearlyEqUlps` subtracted patterns that are too far apart for an `i32`. -/
  | signedOverflow
  /-- `std::sort` was given a comparison that is no strict weak ordering of the range. -/
  | notOrdered
  deriving DecidableEq, Repr

/-- Executions of the program. -/
abbrev Exec := Except Fault

/-- `items[index]` of a `std::vector`. -/
def readAt {α : Type} (items : List α) (index : Nat) : Exec α :=
  match items[index]? with
  | some item => .ok item
  | none => .error .outOfBounds

/-- `items.back()` of a `std::vector`. -/
def readBack {α : Type} (items : List α) : Exec α :=
  match items.getLast? with
  | some item => .ok item
  | none => .error .outOfBounds

/-- `++counter` of a `u32`. -/
def u32Succ (counter : Nat) : Nat := (counter + 1) % 2 ^ 32

/-- `--counter` of a `u32`. -/
def u32Pred (counter : Nat) : Nat := (counter + (2 ^ 32 - 1)) % 2 ^ 32

/-- What an `i32` holds of the result of a signed operation.  C++ leaves an overflow
undefined; the model wraps around, as the processor does. -/
def wrapI32 (value : Int) : Int := Int.bmod value (2 ^ 32)

/-- The conversion of a signed value to a `usize`. -/
def toUsize (value : Int) : Nat := (value % 2 ^ 64).toNat

theorem wrapI32_of_mem {value : Int} (atLeast : -2 ^ 31 ≤ value) (below : value < 2 ^ 31) :
    wrapI32 value = value := by
  apply Int.bmod_eq_of_le
  · omega
  · omega

/-! ## `entities.h` -/

/-- `Entity`. -/
structure Entity (F : Type) where
  id : Nat
  typeIdx : Nat
  position : Vec2 F
  rotation : F
  deriving DecidableEq, Repr

/-- `Enemy`. -/
structure Enemy (F : Type) extends Entity F where
  velocity : Vec2 F
  remainingHealth : F
  nextWaypointIdx : Nat
  distanceToGoal : F
  deriving DecidableEq, Repr

/-- `Tower`. -/
structure Tower (F : Type) extends Entity F where
  timeSinceLastShot : F
  deriving DecidableEq, Repr

/-- `Projectile`. -/
structure Projectile (F : Type) extends Entity F where
  lastEnemyPosition : Vec2 F
  targetEnemyIndex : Nat
  targetEnemyId : Nat
  deriving DecidableEq, Repr

section Defaults

variable (F : Type) [Arithmetic F]

/-- The default member initialisers of `Entity`. -/
def Entity.fresh : Entity F := ⟨0, 0, 0, 0⟩

/-- The default member initialisers of `Enemy`. -/
def Enemy.fresh : Enemy F :=
  { Entity.fresh F with
    velocity := 0, remainingHealth := 0, nextWaypointIdx := 1, distanceToGoal := 0 }

/-- The default member initialisers of `Tower`. -/
def Tower.fresh : Tower F := { Entity.fresh F with timeSinceLastShot := 0 }

/-- The default member initialisers of `Projectile`. -/
def Projectile.fresh : Projectile F :=
  { Entity.fresh F with lastEnemyPosition := 0, targetEnemyIndex := 0, targetEnemyId := 0 }

end Defaults

/-! ## `entity_types.h` and `map_data.h` -/

/-- `EntityType`. -/
structure EntityType where
  name : String
  tileId : Nat
  deriving DecidableEq, Repr

/-- `EnemyType`. -/
structure EnemyType (F : Type) extends EntityType where
  maxHealth : F
  speed : F
  goldReward : F
  unitsPerSpawn : Nat
  deriving DecidableEq, Repr

/-- `TowerType`. -/
structure TowerType (F : Type) extends EntityType where
  cost : F
  range : F
  shotsPerSecond : F
  projectileTypeIdx : Nat
  deriving DecidableEq, Repr

/-- `ProjectileType`. -/
structure ProjectileType (F : Type) extends EntityType where
  damage : F
  speed : F
  splashRadius : F
  hitTileId : Nat
  deriving DecidableEq, Repr

/-- `EnemyPath`; the debug colour is only drawn and is left out. -/
structure EnemyPath (F : Type) where
  debugName : String
  waypoints : List (Vec2 F)
  distancesToGoal : List F
  deriving DecidableEq, Repr

/-- `BuildableMap`. -/
structure BuildableMap where
  width : Nat
  height : Nat
  grid : List Nat
  deriving DecidableEq, Repr

/-- `MapData`. -/
structure MapData (F : Type) where
  enemyPath : EnemyPath F
  enemyTypes : List (EnemyType F)
  towerTypes : List (TowerType F)
  projectileTypes : List (ProjectileType F)
  buildableMap : BuildableMap
  deriving DecidableEq, Repr

/-! ## `game_state.h` -/

/-- `GameCommand`, one constructor for each member of its union. -/
inductive GameCommand (F : Type) where
  | debugSpawnEnemy (enemyType : Nat)
  | debugDespawnAllEnemies
  | debugAddGold (amount : F)
  | buildTower (towerType : Nat) (position : Vec2 F)
  deriving DecidableEq, Repr

/-- `GameEvent`, one constructor for each member of its union. -/
inductive GameEvent (F : Type) where
  | towerBuilt (position : Vec2 F) (typeIdx : Nat)
  | projectileLaunched (position : Vec2 F) (typeIdx : Nat)
  | projectileHit (position : Vec2 F) (enemyIndex projectileTypeIdx : Nat)
  | enemyDied (enemyIndex : Nat)
  deriving DecidableEq, Repr

/-- `PlayerState`. -/
structure PlayerState (F : Type) where
  gold : F
  lives : Nat
  deriving DecidableEq, Repr

/-- `GameState`, over the states `R` of the random engine. -/
structure GameState (F R : Type) where
  randomEngine : R
  playerState : PlayerState F
  enemies : List (Enemy F)
  towers : List (Tower F)
  projectiles : List (Projectile F)
  nextObjectId : Nat
  deriving DecidableEq, Repr

/-- What the C++ standard library leaves open: the order in which `std::sort`
leaves elements that the comparison does not separate, and the random engine. -/
structure Platform (F R : Type) where
  /-- `std::sort` of a vector of indices. -/
  std : Foundations.ComparisonSort Nat
  /-- A default-constructed `std::default_random_engine`. -/
  defaultEngine : R
  /-- The two draws of a `std::uniform_real_distribution<float>(-1, 1)` that make
  up a vector.  The order of the two evaluations is unspecified in C++. -/
  randomShift : R → Vec2 F × R

end TowerDefence
