import Mathlib.Data.Int.ConditionallyCompleteOrder
import Mathlib.Data.Prod.Lex
import TowerDefence.Foundations.OrderedMap
import TowerDefence.Model.Tileset

/-!
# Parsing a map

What `tileson.hpp` makes of the numbers of a map file: `Tile::parse`,
`Tileset::generateMissingTiles`, `Map::processData` and `Layer::createTileData`,
and `TilesetHelper::RenderTileLayers` over the result.  The reading of the JSON
text is left out: `MapJson` holds the values that `parse` takes from it.

A tile of a layer is a pointer into the tilesets.  It is null if the tile map has
no tile of that id; the renderer dereferences every tile of a tile layer.
-/

namespace TowerDefence

open Foundations

variable {F T : Type}

/-! ## The file -/

/-- A tile of a tileset in the file.  The id counts the tiles of the tileset. -/
structure TileJson (F : Type) where
  id : Int32
  properties : List (String × Property F)
  deriving DecidableEq

/-- A tileset in the file. -/
structure TilesetJson (F : Type) extends TsonTileset where
  tiles : List (TileJson F)
  deriving DecidableEq

/-- A layer in the file; a tile layer has `data`, one number for every cell. -/
structure LayerJson (F : Type) where
  name : String
  type : LayerType
  objects : List (MapObject F)
  data : List Int32
  deriving DecidableEq

/-- A map in the file. -/
structure MapJson (F : Type) where
  size : Int × Int
  tileSize : Int × Int
  isInfinite : Bool
  tilesets : List (TilesetJson F)
  layers : List (LayerJson F)
  deriving DecidableEq

/-! ## Tiles -/

/-- `tson::Tile`. -/
structure Tile (F : Type) where
  id : Int32
  properties : List (String × Property F)
  deriving DecidableEq

/-- `Tile::parse`; the id becomes `id + 1` "to match the references in data
containers". -/
def Tile.parse (json : TileJson F) : Tile F where
  id := json.id + 1
  properties := json.properties

/-- `Tile::Tile(int)`. -/
def Tile.ofId (id : Int32) : Tile F where
  id
  properties := []

/-- The values of the loop counter of `generateMissingTiles`. -/
def TsonTileset.gids (tileset : TsonTileset) : List Int32 :=
  (List.range tileset.tileCount.toInt.toNat).map fun i => tileset.firstgid + Int32.ofNat i

/-- `generateMissingTiles`. -/
def TsonTileset.generateMissingTiles (tileset : TsonTileset) (tiles : List (Tile F)) :
    List (Tile F) :=
  let tileIds := tiles.map fun tile => tile.id
  tileset.gids.foldl (fun tiles i =>
    if tileIds.count i = 0 then tiles ++ [Tile.ofId i] else tiles) tiles

/-- `Tileset::parse`: the tiles. -/
def TilesetJson.parse (json : TilesetJson F) : List (Tile F) :=
  json.generateMissingTiles (json.tiles.map Tile.parse)

/-! ## The tile map -/

/-- `m_tileMap`, with the newest assignment first. -/
abbrev TsonTileMap (F : Type) := List (Int32 × Tile F)

/-- The first loop of `processData`. -/
def MapJson.tileMap (json : MapJson F) : TsonTileMap F :=
  json.tilesets.foldl (fun tileMap tileset =>
    tileset.parse.foldl (fun tileMap tile => (tile.id, tile) :: tileMap) tileMap) []

/-- `getTileMap`: what `Tileset::Load` reads of it. -/
def TsonTileMap.properties (tileMap : TsonTileMap F) : TileMap F :=
  tileMap.map fun entry => (entry.1, entry.2.properties)

/-! ## The tiles of a layer -/

/-- `m_tileData`: the tiles by their column and row. -/
abbrev TileData (F : Type) := OrderedMap (Int ×ₗ Int) (Option (Tile F))

/-- The variables of the loop of `createTileData`. -/
structure TileCursor (F : Type) where
  x : Nat
  y : Nat
  tileData : TileData F

/-- The conversion of a `size_t` to an `int`. -/
def sizeToInt (value : Nat) : Int := Int.bmod value (2 ^ 32)

/-- One iteration of the loop of `createTileData`. -/
def createTile (tileMap : TsonTileMap F) (columns : Int) (cursor : TileCursor F)
    (tileId : Int32) : TileCursor F :=
  let cursor := if cursor.x = columns then { cursor with y := cursor.y + 1, x := 0 } else cursor
  let cursor :=
    if 0 < tileId then
      { cursor with
        tileData := cursor.tileData.insert (toLex (sizeToInt cursor.x, sizeToInt cursor.y))
          (tileMap.lookup tileId) }
    else
      cursor
  { cursor with x := cursor.x + 1 }

/-- `Layer::createTileData`. -/
def createTileData (tileMap : TsonTileMap F) (mapSize : Int × Int) (isInfiniteMap : Bool)
    (data : List Int32) : TileData F :=
  if isInfiniteMap then
    OrderedMap.empty
  else
    (data.foldl (createTile tileMap mapSize.1) ⟨0, 0, OrderedMap.empty⟩).tileData

/-- `tson::Layer` after `processData`. -/
structure TsonLayer (F : Type) where
  name : String
  type : LayerType
  objects : List (MapObject F)
  tileData : TileData F

/-- The second loop of `processData`. -/
def MapJson.processLayer (json : MapJson F) (layer : LayerJson F) : TsonLayer F where
  name := layer.name
  type := layer.type
  objects := layer.objects
  tileData := createTileData json.tileMap json.size json.isInfinite layer.data

/-- `getLayers` of the parsed map. -/
def MapJson.getLayers (json : MapJson F) : List (TsonLayer F) :=
  json.layers.map json.processLayer

/-- The layer as the loaders of `MapData` read it.  They run after the renderer has
dereferenced every tile of the tile layers, so a null pointer is left out. -/
def TsonLayer.toMapLayer (layer : TsonLayer F) : MapLayer F where
  name := layer.name
  type := layer.type
  objects := layer.objects
  tileData := layer.tileData.entries.filterMap fun entry =>
    entry.2.map fun tile => (ofLex entry.1, tile.properties)

/-- The parsed map as the loaders of `MapData` read it. -/
def MapJson.tiledMap (json : MapJson F) : TiledMap F where
  size := json.size
  tileSize := json.tileSize
  layers := json.getLayers.map TsonLayer.toMapLayer

/-! ## Drawing the layers -/

namespace TilesetHelper

variable [Arithmetic F]

/-- One iteration of the loop of `RenderTileLayer`. -/
def renderTilePointer (tilesets : List (Tileset F T)) (spriteLayer : Nat)
    (outDrawList : List (SpriteDrawRequest F T)) (entry : (Int ×ₗ Int) × Option (Tile F)) :
    Exec (List (SpriteDrawRequest F T)) :=
  match entry.2 with
  | none => .error .outOfBounds
  | some tile =>
      renderTile tilesets (fun _ => tile.id.toUInt32) spriteLayer outDrawList
        (ofLex entry.1, tile.properties)

/-- One iteration of the loop of `RenderTileLayers`; the sprite layer is a `u8`. -/
def renderMapLayer (tilesets : List (Tileset F T)) (drawn : List (SpriteDrawRequest F T) × Nat)
    (mapLayer : TsonLayer F) : Exec (List (SpriteDrawRequest F T) × Nat) :=
  let (outDrawList, spriteLayer) := drawn
  if mapLayer.type ≠ .tileLayer then
    pure (outDrawList, spriteLayer)
  else do
    let outDrawList ←
      mapLayer.tileData.entries.foldlM (renderTilePointer tilesets spriteLayer) outDrawList
    pure (outDrawList, (spriteLayer + 1) % 256)

/-- `RenderTileLayers`. -/
def renderTileLayers (tilesets : List (Tileset F T)) (layers : List (TsonLayer F))
    (outDrawList : List (SpriteDrawRequest F T)) (baseSpriteLayer : Nat) :
    Exec (List (SpriteDrawRequest F T)) := do
  let (outDrawList, _) ←
    layers.foldlM (renderMapLayer tilesets) (outDrawList, baseSpriteLayer)
  pure outDrawList

end TilesetHelper

/-! ## `GameSession::FromMap` -/

/-- The members of a session that `FromMap` fills from the map. -/
structure SessionAssets (F T : Type) where
  tilesetHelper : List (Tileset F T)
  staticMapDrawList : List (SpriteDrawRequest F T)
  mapData : MapData F

/-- `FromMap` up to the starting gold: the tilesets, the static draw list and the
map data, in this order. -/
def MapJson.loadAssets [Arithmetic F] [Glm F] (json : MapJson F)
    (loadTexture : String → TextureHandle T) (mapData : MapData F) :
    Exec (SessionAssets F T) := do
  let tilesetHelper ← TilesetHelper.loadMapTilesets json.tileMap.properties loadTexture
    (json.tilesets.map TilesetJson.toTsonTileset)
  let staticMapDrawList ← TilesetHelper.renderTileLayers tilesetHelper json.getLayers [] 0
  let mapData ← MapData.load json.tiledMap mapData
  pure { tilesetHelper, staticMapDrawList, mapData }

end TowerDefence
