import TowerDefence.Foundations.Loop
import TowerDefence.Model.Entities

/-!
# Loading a map

`EnemyPath::Load`, `LoadEntityTypes` and `BuildableMap::Load` over the part of a
parsed map that they read.  Each loader writes into an object that may already
hold something, as in the source.
-/

namespace TowerDefence

open Foundations

/-! ## The parsed map -/

/-- A custom property of the map editor. -/
inductive Property (F : Type) where
  | float (value : F)
  | int (value : Int)
  | bool (value : Bool)
  | other
  deriving DecidableEq, Repr

/-- `tson::ObjectType`, as far as the loaders tell the kinds apart. -/
inductive ObjectType where
  | object
  | polyline
  | other
  deriving DecidableEq, Repr

/-- `tson::LayerType`, as far as the loaders tell the kinds apart. -/
inductive LayerType where
  | objectGroup
  | tileLayer
  | other
  deriving DecidableEq, Repr

/-- `tson::Object`. -/
structure MapObject (F : Type) where
  objectType : ObjectType
  name : String
  gid : Nat
  position : Int × Int
  /-- Degrees, clockwise. -/
  rotation : F
  polylines : List (Int × Int)
  properties : List (String × Property F)
  deriving DecidableEq, Repr

/-- `tson::Layer`.  The tile data are the entries of an ordered map from tile
coordinates to the properties of the tile there. -/
structure MapLayer (F : Type) where
  name : String
  type : LayerType
  objects : List (MapObject F)
  tileData : List ((Int × Int) × List (String × Property F))
  deriving DecidableEq, Repr

/-- `tson::Map`. -/
structure TiledMap (F : Type) where
  size : Int × Int
  tileSize : Int × Int
  layers : List (MapLayer F)
  deriving DecidableEq, Repr

section Lookup

variable {F : Type} [Arithmetic F]

/-- `get<float>`: the default value when the property is missing or of another
type. -/
def getFloat (properties : List (String × Property F)) (name : String) : F :=
  match properties.lookup name with
  | some (.float value) => value
  | _ => 0

/-- `get<int>`. -/
def getInt (properties : List (String × Property F)) (name : String) : Int :=
  match properties.lookup name with
  | some (.int value) => value
  | _ => 0

/-- `get<bool>`. -/
def getBool (properties : List (String × Property F)) (name : String) : Bool :=
  match properties.lookup name with
  | some (.bool value) => value
  | _ => false

/-- `getObjectsByType`. -/
def MapLayer.getObjectsByType (layer : MapLayer F) (type : ObjectType) : List (MapObject F) :=
  layer.objects.filter fun object => object.objectType = type

/-- `getLayer` followed by the assertion that the layer exists and has the
expected type. -/
def TiledMap.requireLayer (map : TiledMap F) (name : String) (type : LayerType) :
    Exec (MapLayer F) :=
  match map.layers.find? fun layer => layer.name = name with
  | some layer => if layer.type = type then pure layer else .error .assertion
  | none => .error .assertion

/-- The conversion of an `int` to a `u32`. -/
def toU32 (value : Int) : Nat := (value % 2 ^ 32).toNat

/-- `items.resize(size, value)` of a `std::vector`. -/
def resize {α : Type} (items : List α) (size : Nat) (value : α) : List α :=
  items.take size ++ List.replicate (size - items.length) value

/-- `items[index] = value` of a `std::vector`. -/
def writeAt {α : Type} (items : List α) (index : Nat) (value : α) : Exec (List α) :=
  if index < items.length then pure (items.set index value) else .error .outOfBounds

theorem length_resize {α : Type} (items : List α) (size : Nat) (value : α) :
    (resize items size value).length = size := by
  rw [resize, List.length_append, List.length_take, List.length_replicate]
  omega

theorem writeAt_eq_ok {α : Type} {items written : List α} {index : Nat} {value : α} :
    writeAt items index value = .ok written ↔
      index < items.length ∧ items.set index value = written := by
  rw [writeAt]
  split
  case isTrue inBounds =>
      rw [pure_eq_ok]
      exact ⟨fun stored => ⟨inBounds, stored⟩, fun stored => stored.2⟩
  case isFalse outOfBounds =>
      constructor
      · intro stored
        cases stored
      · intro stored
        exact absurd stored.1 outOfBounds

theorem length_of_writeAt {α : Type} {items written : List α} {index : Nat} {value : α}
    (executed : writeAt items index value = .ok written) : written.length = items.length := by
  rw [writeAt_eq_ok] at executed
  rw [← executed.2, List.length_set]

end Lookup

/-! ## `EnemyPath::Load` -/

namespace EnemyPath

variable {F : Type} [Arithmetic F] [Glm F]

/-- The waypoint of one vertex of the polyline. -/
def loadWaypoint (map : TiledMap F) (object : MapObject F) (point : Int × Int) : Vec2 F :=
  let tileX : F := ofInt map.tileSize.1
  let tileY : F := ofInt map.tileSize.2
  let basePosition : Vec2 F :=
    ⟨ofInt object.position.1 / tileX - literal 0.5,
      ofInt object.position.2 / tileY * -1 + literal 0.5⟩
  let angle := Glm.radians object.rotation
  let pointPosition : Vec2 F := ⟨ofInt point.1 / tileX, ofInt point.2 / tileY * -1⟩
  -- `glm::rotate` about the z axis
  let finalPosition : Vec2 F :=
    ⟨Glm.cos angle * pointPosition.x - Glm.sin angle * pointPosition.y,
      Glm.sin angle * pointPosition.x + Glm.cos angle * pointPosition.y⟩
  finalPosition + basePosition

/-- One iteration of the loop over the distances; its counter is an `i32`. -/
def loadDistance (waypoints : List (Vec2 F)) (distancesToGoal : List F) (i : Nat) :
    Exec (List F) := do
  let next := toUsize (wrapI32 (i + 1))
  let a ← readAt waypoints i
  let b ← readAt waypoints next
  let following ← readAt distancesToGoal next
  writeAt distancesToGoal i (following + Glm.distance a b)

/-- The values the `i32` loop counter runs through, from `size() - 2` down. -/
def distanceIndices (size : Nat) : List Nat :=
  (List.range (Int.bmod (size - 2) (2 ^ 32) + 1).toNat).reverse

/-- `EnemyPath::Load`. -/
def load (map : TiledMap F) (outPath : EnemyPath F) : Exec (EnemyPath F) := do
  let pathLayer ← map.requireLayer "Paths" .objectGroup
  match pathLayer.getObjectsByType .polyline with
  | [] => .error .assertion
  | object :: _ =>
      let waypoints := object.polylines.map (loadWaypoint map object)
      let distancesToGoal ← (distanceIndices waypoints.length).foldlM
        (loadDistance waypoints) (resize outPath.distancesToGoal waypoints.length 0)
      pure { debugName := object.name, waypoints, distancesToGoal }

end EnemyPath

/-! ## `LoadEntityTypes` -/

section EntityTypes

variable {F : Type} [Arithmetic F]

/-- One iteration of the loop over the enemy objects. -/
def loadEnemyType (enemyData : MapObject F) : EnemyType F where
  name := enemyData.name
  tileId := enemyData.gid
  maxHealth := getFloat enemyData.properties "Health"
  speed := getFloat enemyData.properties "Speed"
  goldReward := getFloat enemyData.properties "GoldReward"
  unitsPerSpawn := toU32 (getInt enemyData.properties "UnitsPerSpawn")

/-- One iteration of the loop over the tower objects, which appends a tower type
and the type of its projectiles. -/
def loadTowerType (loaded : List (TowerType F) × List (ProjectileType F))
    (towerData : MapObject F) : List (TowerType F) × List (ProjectileType F) :=
  let (outTowerTypes, outProjectileTypes) := loaded
  let projectileType : ProjectileType F :=
    { name := towerData.name ++ "_Projectile"
      tileId := toU32 (getInt towerData.properties "ProjectileTile")
      damage := getFloat towerData.properties "Damage"
      splashRadius := getFloat towerData.properties "SplashRadius"
      speed := getFloat towerData.properties "ProjectileSpeed"
      hitTileId := toU32 (getInt towerData.properties "HitTile") }
  let outProjectileTypes := outProjectileTypes ++ [projectileType]
  let towerType : TowerType F :=
    { name := towerData.name
      tileId := towerData.gid
      cost := getFloat towerData.properties "Cost"
      range := getFloat towerData.properties "Range"
      shotsPerSecond := getFloat towerData.properties "ShotsPerSecond"
      projectileTypeIdx := outProjectileTypes.length - 1 }
  (outTowerTypes ++ [towerType], outProjectileTypes)

/-- `LoadEntityTypes`. -/
def loadEntityTypes (map : TiledMap F) :
    Exec (List (EnemyType F) × List (TowerType F) × List (ProjectileType F)) := do
  let enemyLayer ← map.requireLayer "EnemyTypes" .objectGroup
  let outEnemyTypes := (enemyLayer.getObjectsByType .object).map loadEnemyType
  let towerLayer ← map.requireLayer "TowerTypes" .objectGroup
  let (outTowerTypes, outProjectileTypes) :=
    (towerLayer.getObjectsByType .object).foldl loadTowerType ([], [])
  pure (outEnemyTypes, outTowerTypes, outProjectileTypes)

end EntityTypes

/-! ## `BuildableMap` -/

namespace BuildableMap

/-- Turning a row around overflows for one row only, which stays negative. -/
theorem turnedRow_eq (row : Int32) : wrapI32 (row.toInt * -1) = row.toInt * -1 ∨
    row.toInt = -2 ^ 31 ∧ wrapI32 (row.toInt * -1) = -2 ^ 31 := by
  have below := row.toInt_lt
  rcases row.le_toInt.lt_or_eq with inside | isLeast
  · exact .inl (wrapI32_of_mem (by omega) (by omega))
  · rw [← isLeast]
    exact .inr ⟨rfl, by decide⟩

variable {F : Type} [Arithmetic F]

/-- The index of a tile in the grid, computed in `u32`. -/
def gridIndex (width x y : Nat) : Nat := (y * width + x) % 2 ^ 32

/-- One iteration of the loop over the tiles of the `Base` layer. -/
def loadTile (outMap : BuildableMap)
    (entry : (Int × Int) × List (String × Property F)) : Exec BuildableMap := do
  let (pos, tile) := entry
  let buildable := getBool tile "BuildingAllowed"
  let index := gridIndex outMap.width (toU32 pos.1) (toU32 pos.2)
  let grid ← writeAt outMap.grid index (if buildable then 1 else 0)
  pure { outMap with grid }

/-- `BuildableMap::Load`; whatever the object held is overwritten. -/
def load (map : TiledMap F) : Exec BuildableMap := do
  let outMap : BuildableMap :=
    { width := toU32 map.size.1
      height := toU32 map.size.2
      grid := List.replicate (map.size.1 * map.size.2).toNat 0 }
  let baseLayer ← map.requireLayer "Base" .tileLayer
  baseLayer.tileData.foldlM loadTile outMap

/-- `BuildableMap::Load` into an object that may hold another map; `load` leaves
out what is overwritten. -/
def loadInto (map : TiledMap F) (outMap : BuildableMap) :
    Exec BuildableMap := do
  let outMap := { outMap with width := toU32 map.size.1, height := toU32 map.size.2 }
  let outMap := { outMap with grid := [] }
  let outMap := { outMap with grid := resize outMap.grid (map.size.1 * map.size.2).toNat 0 }
  let baseLayer ← map.requireLayer "Base" .tileLayer
  baseLayer.tileData.foldlM loadTile outMap

variable [Glm F]

/-- `WorldToTile`. -/
def worldToTile (world : Vec2 F) : Int × Int :=
  ((Glm.toI32 (Glm.trunc (world.x + literal 0.5 * Glm.sign world.x))).toInt,
    (Glm.toI32 (Glm.trunc (world.y + literal 0.5 * Glm.sign world.y))).toInt)

/-- `Query`. -/
def query (map : BuildableMap) (position : Vec2 F) : Exec Bool := do
  let tile := worldToTile position
  let x := tile.1
  let y := wrapI32 (tile.2 * -1)
  if x < 0 ∨ map.width ≤ x.toNat ∨ y < 0 ∨ map.height ≤ y.toNat then
    pure false
  else
    let cell ← readAt map.grid (gridIndex map.width x.toNat y.toNat)
    pure (cell == 1)

end BuildableMap

/-! ## `MapData::Load` -/

/-- `MapData::Load`. -/
def MapData.load {F : Type} [Arithmetic F] [Glm F] (map : TiledMap F) (outMapData : MapData F) :
    Exec (MapData F) := do
  let enemyPath ← EnemyPath.load map outMapData.enemyPath
  let (enemyTypes, towerTypes, projectileTypes) ← loadEntityTypes map
  let buildableMap ← BuildableMap.load map
  pure { enemyPath, enemyTypes, towerTypes, projectileTypes, buildableMap }

end TowerDefence
