import TowerDefence.Model.MapData
import TowerDefence.Model.Sprites

/-!
# Drawing a map

`TilesetHelper` of `tileset_helper.cpp`.  The loaders do not read the ids of the tiles,
so the ids of a layer are a function of the tile coordinates here.  `CGT_ASSERT_MSG` is
that of a build without assertions, where it does nothing.
-/

namespace TowerDefence

/-- `tson::Tileset`, as far as `Load` reads it. -/
structure TsonTileset where
  imagePath : String
  imageSize : Int32 × Int32
  margin : Int32
  spacing : Int32
  columns : Int32
  tileCount : Int32
  tileSize : Int32 × Int32
  firstgid : Int32
  deriving DecidableEq

/-- `getTileMap` of `tson::Map`: the properties of the tiles by their ids. -/
abbrev TileMap (F : Type) := List (Int32 × List (String × Property F))

/-- `tileMap.at(tileId)`, which throws if there is no such tile. -/
def TileMap.at {F : Type} (tileMap : TileMap F) (tileId : UInt32) :
    Exec (List (String × Property F)) :=
  match tileMap.lookup tileId.toInt32 with
  | some tile => .ok tile
  | none => .error .outOfBounds

/-- `TilesetHelper::Tileset`. -/
structure Tileset (F T : Type) where
  textureWidth : UInt32
  textureHeight : UInt32
  margin : UInt32
  spacing : UInt32
  columns : UInt32
  tileCount : UInt32
  tileWidth : UInt32
  tileHeight : UInt32
  firstTileIdx : UInt32
  baseTileRotations : List F
  texture : TextureHandle T

section Drawing

variable {F T : Type} [Arithmetic F]

/-- `Tileset::Load`. -/
def Tileset.load (tileMap : TileMap F) (tileset : TsonTileset) (texture : TextureHandle T) :
    Exec (Tileset F T) := do
  let tileCount := tileset.tileCount.toUInt32
  let firstTileIdx := tileset.firstgid.toUInt32
  let baseTileRotations ← (List.range tileCount.toNat).mapM fun i => do
    let tileId := UInt32.ofNat i + firstTileIdx
    let tile ← tileMap.at tileId
    pure (getFloat tile "BaseRotation")
  pure
    { texture
      textureWidth := tileset.imageSize.1.toUInt32
      textureHeight := tileset.imageSize.2.toUInt32
      margin := tileset.margin.toUInt32
      spacing := tileset.spacing.toUInt32
      columns := tileset.columns.toUInt32
      tileCount
      tileWidth := tileset.tileSize.1.toUInt32
      tileHeight := tileset.tileSize.2.toUInt32
      firstTileIdx
      baseTileRotations }

/-- `Tileset::GetTileSpriteSrc`, when it finds the tile. -/
def Tileset.getTileSpriteSrc (tileset : Tileset F T) (tileIdx : UInt32) :
    Exec (Option (SpriteSource F T)) := do
  if tileset.firstTileIdx ≤ tileIdx ∧ tileIdx < tileset.firstTileIdx + tileset.tileCount then
    let idx := tileIdx - tileset.firstTileIdx
    let tileColumn := idx % tileset.columns
    let tileRow := idx / tileset.columns
    let tileX := tileset.margin + tileset.tileWidth * tileColumn + tileset.spacing * tileColumn
    let tileY := tileset.margin + tileset.tileHeight * tileRow + tileset.spacing * tileRow
    let uvTileDimensions : Vec2 F :=
      ⟨ofU32 tileset.tileWidth / ofU32 tileset.textureWidth,
        ofU32 tileset.tileHeight / ofU32 tileset.textureHeight⟩
    let min : Vec2 F :=
      ⟨ofU32 tileX / ofU32 tileset.textureWidth, ofU32 tileY / ofU32 tileset.textureHeight⟩
    let baseRotation ← readAt tileset.baseTileRotations idx.toNat
    pure (some
      { texture := tileset.texture, uv := { min, max := min + uvTileDimensions }, baseRotation })
  else
    pure none

namespace TilesetHelper

/-- The constructor of `TilesetHelper`; `loadTexture` loads the texture of a path below the
directory of the map. -/
def loadMapTilesets (tileMap : TileMap F) (loadTexture : String → TextureHandle T)
    (tilesets : List TsonTileset) : Exec (List (Tileset F T)) :=
  tilesets.mapM fun tileset => Tileset.load tileMap tileset (loadTexture tileset.imagePath)

/-- `TilesetHelper::GetTileSpriteSrc`: whether the tile was found, and `outSrc`.  A tile of
no tileset leaves `outSrc` as it is. -/
def getTileSpriteSrc (tilesets : List (Tileset F T)) (tileIdx : UInt32)
    (outSrc : SpriteSource F T) : Exec (Bool × SpriteSource F T) :=
  match tilesets with
  | [] => pure (false, outSrc)
  | tileset :: tilesets => do
      match ← tileset.getTileSpriteSrc tileIdx with
      | some src => pure (true, src)
      | none => getTileSpriteSrc tilesets tileIdx outSrc

/-- The sprite that `AddSprite` adds. -/
def newSprite : SpriteDrawRequest F T where
  src := { texture := none, uv := ⟨⟨0, 0⟩, ⟨1, 1⟩⟩, baseRotation := 0 }
  colorTint := ⟨1, 1, 1, 1⟩
  position := ⟨0, 0⟩
  scale := ⟨1, 1⟩
  rotation := 0
  layer := 0

/-- One iteration of the loop over the tiles of a layer. -/
def renderTile (tilesets : List (Tileset F T)) (tileId : Int × Int → UInt32) (spriteLayer : Nat)
    (outDrawList : List (SpriteDrawRequest F T))
    (entry : (Int × Int) × List (String × Property F)) : Exec (List (SpriteDrawRequest F T)) := do
  let x : F := ofInt entry.1.1
  let y : F := ofInt entry.1.2 * -1
  let sprite : SpriteDrawRequest F T := newSprite
  let (_, src) ← getTileSpriteSrc tilesets (tileId entry.1) sprite.src
  pure (outDrawList ++ [{ sprite with src, layer := spriteLayer, position := ⟨x, y⟩ }])

/-- `RenderTileLayer`. -/
def renderTileLayer (tilesets : List (Tileset F T)) (tileId : Int × Int → UInt32)
    (layer : MapLayer F) (outDrawList : List (SpriteDrawRequest F T)) (spriteLayer : Nat) :
    Exec (List (SpriteDrawRequest F T)) :=
  layer.tileData.foldlM (renderTile tilesets tileId spriteLayer) outDrawList

end TilesetHelper

end Drawing

end TowerDefence
