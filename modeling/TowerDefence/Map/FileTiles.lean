import Mathlib.Data.List.Nodup
import Mathlib.Tactic.NormNum
import TowerDefence.Engine.TileAtlas
import TowerDefence.Map.Buildable
import TowerDefence.Map.Distances
import TowerDefence.Model.Tileson

/-!
# The tiles of a map file

Parsing gives every id of a tileset a tile, also where the file says nothing about it, and it
puts the numbers of a layer into cells, row by row.  A cell is not empty exactly if its number
is positive.  Every such cell is drawn with the sprite of its tile, and a position is buildable
if the tile that is drawn there says so in the file.
-/

namespace TowerDefence

open Foundations

variable {F : Type}

/-! ## The tiles of a tileset -/

section Tiles

/-- The tiles of the file come first, and the missing ones after them. -/
theorem TsonTileset.generateMissingTiles_eq (tileset : TsonTileset) (tiles : List (Tile F)) :
    tileset.generateMissingTiles tiles = tiles ++
      (tileset.gids.filter fun i => (tiles.map Tile.id).count i = 0).map Tile.ofId := by
  have appended : ∀ (missing : Int32 → Prop) [DecidablePred missing] (ids : List Int32)
      (present : List (Tile F)), ids.foldl (fun tiles i =>
        if missing i then tiles ++ [Tile.ofId i] else tiles) present =
          present ++ (ids.filter fun i => missing i).map Tile.ofId := by
    intro missing _ ids
    induction ids with
    | nil => exact fun present => (List.append_nil present).symm
    | cons i ids ih =>
        intro present
        rw [List.foldl_cons, ih]
        by_cases isMissing : missing i
        · rw [if_pos isMissing, List.filter_cons, if_pos (decide_eq_true isMissing),
            List.map_cons, List.append_assoc, List.singleton_append]
        · rw [if_neg isMissing, List.filter_cons, if_neg (by simpa using isMissing)]
  exact appended _ _ _

/-- No id of a tileset is without a tile. -/
theorem TilesetJson.mem_parse (json : TilesetJson F) {gid : Int32} (member : gid ∈ json.gids) :
    ∃ tile ∈ json.parse, tile.id = gid := by
  rw [TilesetJson.parse, TsonTileset.generateMissingTiles_eq]
  by_cases inFile : gid ∈ (json.tiles.map Tile.parse).map Tile.id
  · obtain ⟨tile, found, isGid⟩ := List.mem_map.mp inFile
    exact ⟨tile, List.mem_append_left _ found, isGid⟩
  · have isMissing : gid ∈ json.gids.filter fun i =>
        ((json.tiles.map Tile.parse).map Tile.id).count i = 0 := by
      rw [List.mem_filter, decide_eq_true_eq, List.count_eq_zero]
      exact ⟨member, inFile⟩
    exact ⟨Tile.ofId gid, List.mem_append_right _ (List.mem_map_of_mem isMissing), rfl⟩

end Tiles

/-! ## The tile map -/

namespace MapJson

variable {json : MapJson F} {gid : Int32} {tile : Tile F}

/-- The tile map holds the tiles of all tilesets; the last one of an id counts. -/
theorem tileMap_eq (json : MapJson F) : json.tileMap =
    ((json.tilesets.flatMap TilesetJson.parse).map fun tile => (tile.id, tile)).reverse := by
  have assigned : ∀ (tiles : List (Tile F)) (tileMap : TsonTileMap F),
      tiles.foldl (fun tileMap tile => (tile.id, tile) :: tileMap) tileMap =
        (tiles.map fun tile => (tile.id, tile)).reverse ++ tileMap := by
    intro tiles
    induction tiles with
    | nil => exact fun _ => rfl
    | cons tile tiles ih =>
        intro tileMap
        rw [List.foldl_cons, ih, List.map_cons, List.reverse_cons, List.append_assoc,
          List.singleton_append]
  have all : ∀ (tilesets : List (TilesetJson F)) (tileMap : TsonTileMap F),
      tilesets.foldl (fun tileMap tileset =>
        tileset.parse.foldl (fun tileMap tile => (tile.id, tile) :: tileMap) tileMap) tileMap =
        ((tilesets.flatMap TilesetJson.parse).map fun tile => (tile.id, tile)).reverse ++
          tileMap := by
    intro tilesets
    induction tilesets with
    | nil => exact fun _ => rfl
    | cons tileset tilesets ih =>
        intro tileMap
        rw [List.foldl_cons, ih, assigned, List.flatMap_cons, List.map_append, List.reverse_append,
          List.append_assoc]
  rw [tileMap, all, List.append_nil]

theorem mem_tileMap : (gid, tile) ∈ json.tileMap ↔
    tile.id = gid ∧ ∃ tileset ∈ json.tilesets, tile ∈ tileset.parse := by
  rw [tileMap_eq, List.mem_reverse, List.mem_map]
  constructor
  · rintro ⟨found, member, same⟩
    obtain ⟨rfl, rfl⟩ := Prod.mk.inj same
    exact ⟨rfl, List.mem_flatMap.mp member⟩
  · rintro ⟨rfl, found⟩
    exact ⟨tile, List.mem_flatMap.mpr found, rfl⟩

theorem lookup_tileMap (found : json.tileMap.lookup gid = some tile) :
    tile.id = gid ∧ ∃ tileset ∈ json.tilesets, tile ∈ tileset.parse := by
  obtain ⟨before, after, split, _⟩ := List.lookup_eq_some_iff.mp found
  apply mem_tileMap.mp
  rw [split]
  exact List.mem_append_right _ List.mem_cons_self

/-- The pointer to a tile of a tileset is not null. -/
theorem exists_tile {tileset : TilesetJson F} (isTileset : tileset ∈ json.tilesets)
    (member : gid ∈ tileset.gids) : ∃ tile, json.tileMap.lookup gid = some tile := by
  obtain ⟨tile, parsed, isGid⟩ := tileset.mem_parse member
  have entry : (gid, tile) ∈ json.tileMap := mem_tileMap.mpr ⟨isGid, tileset, isTileset, parsed⟩
  rw [← Option.isSome_iff_exists, List.lookup_isSome_iff]
  exact ⟨_, entry, by simp⟩

end MapJson

/-! ## The cells of a layer -/

section Cells

/-- The column and the row of the number of a layer. -/
def cellAt (columns index : Nat) : Int ×ₗ Int := toLex (↑(index % columns), ↑(index / columns))

/-- The tiles of a layer, row by row. -/
def rowTiles (tileMap : TsonTileMap F) (columns : Nat) (data : List Int32) :
    List ((Int ×ₗ Int) × Option (Tile F)) :=
  (data.zipIdx.filter fun entry => 0 < entry.1).map fun entry =>
    (cellAt columns entry.2, tileMap.lookup entry.1)

theorem cellAt_inj {columns a b : Nat} (same : cellAt columns a = cellAt columns b) : a = b := by
  have pair : ((↑(a % columns), ↑(a / columns)) : Int × Int) = (↑(b % columns), ↑(b / columns)) :=
    same
  obtain ⟨column, row⟩ := Prod.mk.inj pair
  rw [← Nat.div_add_mod a columns, ← Nat.div_add_mod b columns, Int.natCast_inj.mp column,
    Int.natCast_inj.mp row]

variable {tileMap : TsonTileMap F} {columns : Nat} {done : List Int32} {tileId : Int32}

theorem rowTiles_concat (tileMap : TsonTileMap F) (columns : Nat) (done : List Int32)
    (tileId : Int32) : rowTiles tileMap columns (done ++ [tileId]) =
      rowTiles tileMap columns done ++
        if 0 < tileId then [(cellAt columns done.length, tileMap.lookup tileId)] else [] := by
  rw [rowTiles, List.zipIdx_append, List.filter_append, List.map_append, Nat.zero_add]
  congr 1
  split <;> simp [*]

theorem mem_keys_rowTiles {cell : Int ×ₗ Int}
    (member : cell ∈ (rowTiles tileMap columns done).map Prod.fst) :
    ∃ index < done.length, cell = cellAt columns index := by
  rw [rowTiles, List.map_map, List.mem_map] at member
  obtain ⟨⟨tileId, index⟩, kept, rfl⟩ := member
  have stored := List.mem_zipIdx_iff_getElem?.mp (List.mem_of_mem_filter kept)
  exact ⟨index, (List.getElem?_eq_some_iff.mp stored).1, rfl⟩

theorem sizeToInt_natCast {value : Nat} (small : value < 2 ^ 31) : sizeToInt value = value := by
  apply Int.bmod_eq_of_le
  · norm_num
  · norm_num
    omega

/-- The loop of `createTileData` has seen these numbers: the cursor is in the cell after them,
at the end of its row if that is full. -/
structure TileCursor.Saw (tileMap : TsonTileMap F) (columns : Nat) (done : List Int32)
    (cursor : TileCursor F) : Prop where
  count : cursor.y * columns + cursor.x = done.length
  inRow : cursor.x ≤ columns
  tiles : cursor.tileData.entries.Perm (rowTiles tileMap columns done)

/-- An iteration puts its number into the next cell. -/
theorem TileCursor.Saw.createTile {cursor : TileCursor F} (saw : cursor.Saw tileMap columns done)
    (positive : 0 < columns) (small : done.length < 2 ^ 31) :
    (createTile tileMap columns cursor tileId).Saw tileMap columns (done ++ [tileId]) := by
  -- the cursor where the number goes
  obtain ⟨x, y, isCursor, inside, isIndex⟩ : ∃ x y : Nat,
      (if (cursor.x : Int) = columns then { cursor with y := cursor.y + 1, x := 0 } else cursor) =
        { cursor with x, y } ∧ x < columns ∧ y * columns + x = done.length := by
    by_cases full : cursor.x = columns
    · refine ⟨0, cursor.y + 1, by rw [if_pos (congrArg Nat.cast full)], positive, ?_⟩
      rw [← saw.count, full, Nat.succ_mul, Nat.add_zero]
    · refine ⟨cursor.x, cursor.y, ?_, lt_of_le_of_ne saw.inRow full, saw.count⟩
      rw [if_neg fun same => full (Int.natCast_inj.mp same)]
  have isCell : toLex (sizeToInt x, sizeToInt y) = cellAt columns done.length := by
    have rows := Nat.le_mul_of_pos_right y positive
    have column : done.length % columns = x := by
      rw [← isIndex, Nat.mul_comm, Nat.mul_add_mod, Nat.mod_eq_of_lt inside]
    have row : done.length / columns = y := by
      rw [← isIndex, Nat.mul_comm, Nat.mul_add_div positive, Nat.div_eq_of_lt inside, Nat.add_zero]
    rw [cellAt, column, row, sizeToInt_natCast (by omega), sizeToInt_natCast (by omega)]
  have fresh : cellAt columns done.length ∉ cursor.tileData.entries.map Prod.fst := by
    intro member
    rw [(saw.tiles.map Prod.fst).mem_iff] at member
    obtain ⟨index, before, same⟩ := mem_keys_rowTiles member
    exact before.ne' (cellAt_inj same)
  rw [TowerDefence.createTile, isCursor]
  dsimp only
  rw [isCell]
  refine ⟨?_, ?_, ?_⟩
  · rw [List.length_append, List.length_singleton, ← isIndex]
    split <;> rfl
  · split <;> exact inside
  · rw [rowTiles_concat]
    split
    · exact (OrderedMap.insert_perm fresh).trans (saw.tiles.append_right _)
    · rw [List.append_nil]
      exact saw.tiles

/-- The cells of a layer are filled row by row. -/
theorem createTileData_perm (tileMap : TsonTileMap F) {size : Int × Int} {data : List Int32}
    (isColumns : size.1 = columns) (positive : 0 < columns) (small : data.length ≤ 2 ^ 31) :
    (createTileData tileMap size false data).entries.Perm (rowTiles tileMap columns data) := by
  have seen : ∀ rest done : List Int32, ∀ cursor : TileCursor F, data = done ++ rest →
      cursor.Saw tileMap columns done →
      (rest.foldl (createTile tileMap columns) cursor).Saw tileMap columns data := by
    intro rest
    induction rest with
    | nil =>
        intro done cursor isData saw
        rw [isData, List.append_nil]
        exact saw
    | cons tileId rest ih =>
        intro done cursor isData saw
        refine ih (done ++ [tileId]) _ ?_ (saw.createTile positive ?_)
        · rw [isData, List.append_assoc, List.singleton_append]
        · rw [isData, List.length_append, List.length_cons] at small
          omega
  have started : TileCursor.Saw tileMap columns [] ⟨0, 0, OrderedMap.empty⟩ :=
    ⟨by rw [Nat.zero_mul]; rfl, Nat.zero_le columns, .nil⟩
  rw [createTileData, if_neg Bool.false_ne_true, isColumns]
  exact (seen data [] _ rfl started).tiles

end Cells

/-! ## Loading the tilesets -/

section Loading

theorem TsonTileset.mem_gids {tileset : TsonTileset} {gid : Int32}
    (firstgid : 0 ≤ tileset.firstgid.toInt) (positive : 0 < gid)
    (contains : tileset.Contains gid.toUInt32) : gid ∈ tileset.gids := by
  obtain ⟨atLeast, below⟩ := contains
  rw [toNat_toUInt32 (Int32.lt_iff_toInt_lt.mp positive).le] at atLeast below
  have first : 0 ≤ tileset.firstgid := Int32.le_iff_toInt_le.mpr firstgid
  have reached : tileset.firstgid ≤ gid := Int32.le_iff_toInt_le.mpr atLeast
  have number := Int32.toInt_sub_of_le gid tileset.firstgid first reached
  have isNumber : Int32.ofNat (gid - tileset.firstgid).toInt.toNat = gid - tileset.firstgid := by
    rw [← Int32.ofInt_eq_ofNat, Int.toNat_of_nonneg (by omega), Int32.ofInt_toInt]
  rw [gids, List.mem_map]
  refine ⟨(gid - tileset.firstgid).toInt.toNat, List.mem_range.mpr (by omega), ?_⟩
  rw [isNumber, Int32.add_comm, Int32.sub_add_cancel]

theorem TsonTileMap.lookup_properties (tileMap : TsonTileMap F) (gid : Int32) :
    tileMap.properties.lookup gid = (tileMap.lookup gid).map Tile.properties := by
  rw [properties]
  induction tileMap with
  | nil => rfl
  | cons entry tileMap ih =>
      rw [List.map_cons, List.lookup_cons, List.lookup_cons, ih]
      split <;> rfl

variable {T : Type} [Field F] [LinearOrder F] {json : MapJson F}

/-- The map has every tile that a tileset asks it for. -/
theorem MapJson.exists_load {tileset : TilesetJson F} (member : tileset ∈ json.tilesets)
    (count : 0 ≤ tileset.tileCount.toInt) (texture : TextureHandle T) :
    ∃ loaded, Tileset.load json.tileMap.properties tileset.toTsonTileset texture =
      .ok loaded := by
  have rotation : ∀ i ∈ List.range tileset.tileCount.toUInt32.toNat, ∃ rotation : F,
      (do
        let tileId := UInt32.ofNat i + tileset.firstgid.toUInt32
        let tile ← json.tileMap.properties.at tileId
        pure (getFloat tile "BaseRotation")) = .ok rotation := by
    intro i inRange
    have isGid : (UInt32.ofNat i + tileset.firstgid.toUInt32).toInt32 ∈ tileset.gids := by
      rw [TsonTileset.gids, List.mem_map]
      refine ⟨i, ?_, by simp [Int32.add_comm]⟩
      have bound := toNat_toUInt32 count
      rw [List.mem_range] at inRange ⊢
      omega
    obtain ⟨tile, found⟩ := MapJson.exists_tile member isGid
    refine ⟨getFloat tile.properties "BaseRotation", ?_⟩
    simp only [bind_eq_ok, pure_eq_ok]
    refine ⟨tile.properties, ?_, rfl⟩
    rw [TileMap.at, TsonTileMap.lookup_properties, found]
    rfl
  obtain ⟨rotations, collected⟩ := exists_mapM rotation
  simp only [Tileset.load, bind_eq_ok, pure_eq_ok]
  exact ⟨_, rotations, collected, rfl⟩

end Loading

/-! ## Drawing the layers -/

section Drawing

variable {T : Type} [Field F] [LinearOrder F]

namespace MapJson

def sources (json : MapJson F) : List TsonTileset := json.tilesets.map TilesetJson.toTsonTileset

/-- The tilesets of a finite map fit their textures, and every positive number in a tile layer
is a tile of one of them. -/
structure Drawable (json : MapJson F) (columns : Nat) : Prop where
  finite : json.isInfinite = false
  width : json.size.1 = columns
  positive : 0 < columns
  fits : ∀ source ∈ json.sources, source.Fits
  apart : TilesetHelper.GidsApart json.sources
  -- the loop over the missing tiles does not overflow
  gids : ∀ source ∈ json.sources, source.firstgid.toInt + source.tileCount.toInt < 2 ^ 31
  small : ∀ layer ∈ json.layers, layer.type = .tileLayer → layer.data.length ≤ 2 ^ 31
  known : ∀ layer ∈ json.layers, layer.type = .tileLayer → ∀ gid ∈ layer.data, 0 < gid →
    ∃ source ∈ json.sources, source.Contains gid.toUInt32

/-- The sprite shows a number of a layer in the cell of its index. -/
structure Depicts (json : MapJson F) (loadTexture : String → TextureHandle T)
    (columns spriteLayer : Nat) (entry : Int32 × Nat) (sprite : SpriteDrawRequest F T) : Prop where
  position : sprite.position =
    ⟨((entry.2 % columns : Nat) : F), -((entry.2 / columns : Nat) : F)⟩
  src : ∃ source ∈ json.sources, source.Contains entry.1.toUInt32 ∧ ∃ tileset : Tileset F T,
    Tileset.load json.tileMap.properties source (loadTexture source.imagePath) = .ok tileset ∧
      source.Shows tileset entry.1.toUInt32 sprite.src
  layer : sprite.layer = spriteLayer
  colorTint : sprite.colorTint = ⟨1, 1, 1, 1⟩
  scale : sprite.scale = ⟨1, 1⟩
  rotation : sprite.rotation = 0

/-- The sprites show the cells of a tile layer that are not empty, column by column. -/
def Shown (json : MapJson F) (loadTexture : String → TextureHandle T) (columns : Nat)
    (numbered : LayerJson F × Nat) (sprites : List (SpriteDrawRequest F T)) : Prop :=
  ∃ cells : List (Int32 × Nat),
    cells.Perm (numbered.1.data.zipIdx.filter fun entry => 0 < entry.1) ∧
    cells.Pairwise (fun a b => cellAt columns a.2 < cellAt columns b.2) ∧
    List.Forall₂ (json.Depicts loadTexture columns (numbered.2 % 256)) cells sprites

variable {json : MapJson F} {columns : Nat} {loadTexture : String → TextureHandle T}
  {tilesets : List (Tileset F T)} {layer : LayerJson F}

/-- All tilesets are loaded, whatever the file says about their tiles. -/
theorem exists_loadMapTilesets (count : ∀ source ∈ json.sources, 0 ≤ source.tileCount.toInt)
    (loadTexture : String → TextureHandle T) :
    ∃ tilesets : List (Tileset F T), TilesetHelper.loadMapTilesets json.tileMap.properties
      loadTexture json.sources = .ok tilesets := by
  apply exists_mapM
  intro source member
  obtain ⟨tileset, isTileset, rfl⟩ := List.mem_map.mp member
  exact exists_load isTileset (count _ member) _

/-- A cell that is not empty gets its sprite. -/
theorem Drawable.renderTilePointer (drawable : json.Drawable columns)
    (loaded : TilesetHelper.loadMapTilesets json.tileMap.properties loadTexture json.sources =
      .ok tilesets)
    (isLayer : layer ∈ json.layers) (isTileLayer : layer.type = .tileLayer) {gid : Int32}
    (member : gid ∈ layer.data) (positive : 0 < gid) (index spriteLayer : Nat)
    (drawn : List (SpriteDrawRequest F T)) :
    ∃ sprite, json.Depicts loadTexture columns spriteLayer (gid, index) sprite ∧
      TilesetHelper.renderTilePointer tilesets spriteLayer drawn
        (cellAt columns index, json.tileMap.lookup gid) = .ok (drawn ++ [sprite]) := by
  obtain ⟨source, isSource, contains⟩ :=
    drawable.known layer isLayer isTileLayer gid member positive
  have fits := drawable.fits source isSource
  obtain ⟨tile, found⟩ : ∃ tile, json.tileMap.lookup gid = some tile := by
    obtain ⟨tileset, isTileset, rfl⟩ := List.mem_map.mp isSource
    exact exists_tile isTileset (TsonTileset.mem_gids fits.firstgid positive contains)
  have isGid := (lookup_tileMap found).1
  obtain ⟨tileset, src, isLoaded, shows, executed⟩ : ∃ (tileset : Tileset F T) (src : _),
      Tileset.load json.tileMap.properties source (loadTexture source.imagePath) = .ok tileset ∧
        source.Shows tileset gid.toUInt32 src ∧
        TilesetHelper.getTileSpriteSrc tilesets gid.toUInt32 TilesetHelper.newSprite.src =
          .ok (true, src) :=
    TilesetHelper.getTileSpriteSrc_of_contains (forall₂_of_mapM loaded) drawable.fits
      drawable.apart isSource contains
  let position : Vec2 F :=
    ⟨ofInt ((index % columns : Nat) : Int), ofInt ((index / columns : Nat) : Int) * -1⟩
  let sprite : SpriteDrawRequest F T :=
    { (TilesetHelper.newSprite : SpriteDrawRequest F T) with
      src, layer := spriteLayer, position }
  refine ⟨sprite, ?_, ?_⟩
  · refine ⟨?_, ⟨source, isSource, contains, tileset, isLoaded, shows⟩, rfl, rfl, rfl, rfl⟩
    apply Vec2.ext
    · exact Int.cast_natCast _
    · show (((index / columns : Nat) : Int) : F) * -1 = _
      rw [mul_neg_one, Int.cast_natCast]
  · rw [found, TilesetHelper.renderTilePointer]
    simp only [TilesetHelper.renderTile, isGid, bind_eq_ok, pure_eq_ok]
    exact ⟨_, executed, rfl⟩

/-- A tile layer is drawn without dereferencing a null pointer. -/
theorem Drawable.renderLayer (drawable : json.Drawable columns)
    (loaded : TilesetHelper.loadMapTilesets json.tileMap.properties loadTexture json.sources =
      .ok tilesets)
    (isLayer : layer ∈ json.layers) (isTileLayer : layer.type = .tileLayer) (number : Nat)
    (drawn : List (SpriteDrawRequest F T)) :
    ∃ sprites, json.Shown loadTexture columns (layer, number) sprites ∧
      (json.processLayer layer).tileData.entries.foldlM
        (TilesetHelper.renderTilePointer tilesets (number % 256)) drawn =
          .ok (drawn ++ sprites) := by
  have filled : (json.processLayer layer).tileData.entries.Perm
      (rowTiles json.tileMap columns layer.data) := by
    rw [processLayer, drawable.finite]
    exact createTileData_perm _ drawable.width drawable.positive
      (drawable.small layer isLayer isTileLayer)
  have increasing := (json.processLayer layer).tileData.increasing
  -- the order of the keys is an order of the numbers of the layer
  obtain ⟨cells, isFilter, isEntries⟩ := OrderedMap.exists_map_of_perm filled
  rw [isEntries] at increasing ⊢
  rw [List.map_map, List.pairwise_map] at increasing
  have drawsCell : ∀ entry ∈ cells, ∀ drawn : List (SpriteDrawRequest F T), ∃ sprite,
      json.Depicts loadTexture columns (number % 256) entry sprite ∧
        TilesetHelper.renderTilePointer tilesets (number % 256) drawn
          (cellAt columns entry.2, json.tileMap.lookup entry.1) = .ok (drawn ++ [sprite]) := by
    intro entry member drawn
    have kept := isFilter.subset member
    rw [List.mem_filter, decide_eq_true_eq] at kept
    exact drawable.renderTilePointer loaded isLayer isTileLayer
      (List.fst_mem_of_mem_zipIdx kept.1) kept.2 entry.2 _ drawn
  obtain ⟨sprites, depicted, executed⟩ := foldlM_appends drawsCell drawn
  refine ⟨sprites, ⟨cells, isFilter, increasing, depicted⟩, ?_⟩
  rw [List.foldlM_map]
  exact executed

/-- The tile layers are drawn one after the other, each of them in its own sprite layer. -/
theorem Drawable.renderMapLayers (drawable : json.Drawable columns)
    (loaded : TilesetHelper.loadMapTilesets json.tileMap.properties loadTexture json.sources =
      .ok tilesets)
    {layers : List (LayerJson F)} (areLayers : ∀ layer ∈ layers, layer ∈ json.layers) (number : Nat)
    (drawn : List (SpriteDrawRequest F T)) :
    ∃ blocks last, List.Forall₂ (json.Shown loadTexture columns)
        ((layers.filter fun layer => layer.type = .tileLayer).zipIdx number) blocks ∧
      (layers.map json.processLayer).foldlM (TilesetHelper.renderMapLayer tilesets)
        (drawn, number % 256) = .ok (drawn ++ blocks.flatten, last) := by
  induction layers generalizing number drawn with
  | nil =>
      refine ⟨[], number % 256, .nil, ?_⟩
      rw [List.flatten_nil, List.append_nil]
      rfl
  | cons layer layers ih =>
      have others := fun other member => areLayers other (List.mem_cons_of_mem _ member)
      by_cases isTileLayer : layer.type = .tileLayer
      · obtain ⟨sprites, shown, executed⟩ := drawable.renderLayer loaded
          (areLayers layer List.mem_cons_self) isTileLayer number drawn
        obtain ⟨blocks, last, areShown, rest⟩ := ih others (number + 1) (drawn ++ sprites)
        have stepped : TilesetHelper.renderMapLayer tilesets (drawn, number % 256)
            (json.processLayer layer) = .ok (drawn ++ sprites, (number + 1) % 256) := by
          have isType : (json.processLayer layer).type = .tileLayer := isTileLayer
          simp only [TilesetHelper.renderMapLayer, isType, ne_eq, not_true_eq_false, if_false,
            bind_eq_ok, pure_eq_ok]
          exact ⟨_, executed, by rw [Nat.mod_add_mod]⟩
        refine ⟨sprites :: blocks, last, ?_, ?_⟩
        · rw [List.filter_cons, if_pos (decide_eq_true isTileLayer), List.zipIdx_cons]
          exact .cons shown areShown
        · rw [List.map_cons, List.foldlM_cons, bind_eq_ok, List.flatten_cons,
            ← List.append_assoc]
          exact ⟨_, stepped, rest⟩
      · obtain ⟨blocks, last, areShown, rest⟩ := ih others number drawn
        have passed : TilesetHelper.renderMapLayer tilesets (drawn, number % 256)
            (json.processLayer layer) = .ok (drawn, number % 256) := by
          have isType : (json.processLayer layer).type ≠ .tileLayer := isTileLayer
          rw [TilesetHelper.renderMapLayer, if_pos isType]
          rfl
        refine ⟨blocks, last, ?_, ?_⟩
        · rw [List.filter_cons, if_neg (by simpa using isTileLayer)]
          exact areShown
        · rw [List.map_cons, List.foldlM_cons, bind_eq_ok]
          exact ⟨_, passed, rest⟩

theorem Drawable.renderTileLayers (drawable : json.Drawable columns)
    (loaded : TilesetHelper.loadMapTilesets json.tileMap.properties loadTexture json.sources =
      .ok tilesets) :
    ∃ blocks, List.Forall₂ (json.Shown loadTexture columns)
        ((json.layers.filter fun layer => layer.type = .tileLayer).zipIdx) blocks ∧
      TilesetHelper.renderTileLayers tilesets json.getLayers [] 0 = .ok blocks.flatten := by
  obtain ⟨blocks, last, shown, executed⟩ :=
    drawable.renderMapLayers loaded (fun _ member => member) 0 []
  refine ⟨blocks, shown, ?_⟩
  simp only [TilesetHelper.renderTileLayers, getLayers, bind_eq_ok, pure_eq_ok]
  exact ⟨_, executed, List.nil_append _⟩

/-- Once the tiles are drawn, only the map data are left to load. -/
theorem loadAssets_eq [Glm F]
    (loaded : TilesetHelper.loadMapTilesets json.tileMap.properties loadTexture json.sources =
      .ok tilesets) {staticMapDrawList : List (SpriteDrawRequest F T)}
    (rendered : TilesetHelper.renderTileLayers tilesets json.getLayers [] 0 =
      .ok staticMapDrawList) (mapData : MapData F) :
    json.loadAssets loadTexture mapData = (MapData.load json.tiledMap mapData).map
      fun mapData => { tilesetHelper := tilesets, staticMapDrawList, mapData } := by
  rw [sources] at loaded
  rw [loadAssets, loaded]
  show (do
    let staticMapDrawList ← TilesetHelper.renderTileLayers tilesets json.getLayers [] 0
    let mapData ← MapData.load json.tiledMap mapData
    pure { tilesetHelper := tilesets, staticMapDrawList, mapData } :
      Exec (SessionAssets F T)) = _
  rw [rendered]
  rfl

/-- The static draw list of a session shows the tile layers of the file, cell by cell, and no
null pointer is dereferenced on the way. -/
theorem loadAssets_draws [Glm F] (drawable : json.Drawable columns)
    (loadTexture : String → TextureHandle T) (mapData : MapData F) :
    ∃ (tilesetHelper : List (Tileset F T)) (blocks : List (List (SpriteDrawRequest F T))),
      TilesetHelper.loadMapTilesets json.tileMap.properties loadTexture json.sources =
        .ok tilesetHelper ∧
      List.Forall₂ (json.Shown loadTexture columns)
        ((json.layers.filter fun layer => layer.type = .tileLayer).zipIdx) blocks ∧
      json.loadAssets loadTexture mapData = (MapData.load json.tiledMap mapData).map
        fun mapData => { tilesetHelper, staticMapDrawList := blocks.flatten, mapData } := by
  obtain ⟨tilesets, loaded⟩ := exists_loadMapTilesets
    (fun source member => (drawable.fits source member).tileCount) loadTexture
  obtain ⟨blocks, shown, rendered⟩ := drawable.renderTileLayers loaded
  exact ⟨tilesets, blocks, loaded, shown, loadAssets_eq loaded rendered mapData⟩

end MapJson

end Drawing

/-! ## Building on the tiles of the file -/

section Building

namespace MapJson

variable {json : MapJson F} {columns rows : Nat} {layer : LayerJson F} {name : String}

theorem requireLayer_tiledMap {type : LayerType}
    (found : (json.layers.find? fun layer => layer.name = name) = some layer)
    (isType : layer.type = type) :
    json.tiledMap.requireLayer name type = .ok (json.processLayer layer).toMapLayer := by
  have foundLayer : (json.tiledMap.layers.find? fun layer => layer.name = name) =
      some (json.processLayer layer).toMapLayer := by
    rw [tiledMap, getLayers, List.map_map, List.find?_map]
    exact congrArg (Option.map _) found
  rw [TiledMap.requireLayer, foundLayer]
  exact if_pos isType

/-- The tiles of a layer of the parsed map. -/
theorem mem_tileData (finite : json.isInfinite = false) (width : json.size.1 = columns)
    (positive : 0 < columns) (small : layer.data.length ≤ 2 ^ 31)
    {tile : (Int × Int) × List (String × Property F)} :
    tile ∈ (json.processLayer layer).toMapLayer.tileData ↔
      ∃ index gid found, layer.data[index]? = some gid ∧ 0 < gid ∧
        json.tileMap.lookup gid = some found ∧
        tile = ((((index % columns : Nat) : Int), ((index / columns : Nat) : Int)),
          found.properties) := by
  have filled : (json.processLayer layer).tileData.entries.Perm
      (rowTiles json.tileMap columns layer.data) := by
    rw [processLayer, finite]
    exact createTileData_perm _ width positive small
  simp only [TsonLayer.toMapLayer, List.mem_filterMap, filled.mem_iff, rowTiles, List.mem_map,
    List.mem_filter, List.mem_zipIdx_iff_getElem?, Option.map_eq_some_iff, decide_eq_true_eq]
  constructor
  · rintro ⟨_, ⟨⟨gid, index⟩, ⟨stored, isTile⟩, rfl⟩, found, isFound, rfl⟩
    exact ⟨index, gid, found, stored, isTile, isFound, rfl⟩
  · rintro ⟨index, gid, found, stored, isTile, isFound, rfl⟩
    exact ⟨_, ⟨(gid, index), ⟨stored, isTile⟩, rfl⟩, found, isFound, rfl⟩

/-- No two tiles of a layer share a cell. -/
theorem tileData_nodup (json : MapJson F) (layer : LayerJson F) :
    ((json.processLayer layer).toMapLayer.tileData.map Prod.fst).Nodup := by
  have distinct := (json.processLayer layer).tileData.keys_nodup
  rw [List.Nodup, List.pairwise_map] at distinct ⊢
  rw [TsonLayer.toMapLayer, List.pairwise_filterMap]
  refine distinct.imp fun {a b} different tileA isA tileB isB sameCell => different ?_
  obtain ⟨_, _, rfl⟩ := Option.map_eq_some_iff.mp isA
  obtain ⟨_, _, rfl⟩ := Option.map_eq_some_iff.mp isB
  exact ofLex.injective sameCell

/-- With one tileset, a number has the properties of its tile in the file. -/
theorem getBool_lookup {tileset : TilesetJson F} (single : json.tilesets = [tileset])
    (firstgid : tileset.firstgid = 1) (distinct : (tileset.tiles.map TileJson.id).Nodup)
    {gid : Int32} {found : Tile F} (isFound : json.tileMap.lookup gid = some found)
    (property : String) : getBool found.properties property = true ↔
      ∃ tile ∈ tileset.tiles, tile.id + tileset.firstgid = gid ∧
        getBool tile.properties property = true := by
  obtain ⟨isGid, tileset', isTileset, parsed⟩ := lookup_tileMap isFound
  rw [single, List.mem_singleton] at isTileset
  subst isTileset
  rw [TilesetJson.parse, TsonTileset.generateMissingTiles_eq, List.mem_append] at parsed
  rw [firstgid]
  rcases parsed with inFile | isMissing
  · obtain ⟨tile, member, rfl⟩ := List.mem_map.mp inFile
    refine ⟨fun allowed => ⟨tile, member, isGid, allowed⟩, ?_⟩
    rintro ⟨other, otherMember, isOther, allowed⟩
    have sameId : other.id = tile.id := (Int32.add_left_inj 1).mp (isOther.trans isGid.symm)
    rw [List.inj_on_of_nodup_map distinct otherMember member sameId] at allowed
    exact allowed
  · obtain ⟨i, kept, rfl⟩ := List.mem_map.mp isMissing
    rw [List.mem_filter, decide_eq_true_eq, List.count_eq_zero] at kept
    refine iff_of_false Bool.false_ne_true ?_
    rintro ⟨tile, member, isTile, _⟩
    refine kept.2 (List.mem_map.mpr ⟨Tile.parse tile, List.mem_map_of_mem member, ?_⟩)
    exact isTile.trans isGid.symm

/-- The layers that the game asks a map for: a path of which an `i32` counts the vertices, the
types of the entities, and a base layer with no more numbers than the map has cells. -/
structure Playable (json : MapJson F) (columns rows : Nat) (baseLayer : LayerJson F) : Prop where
  height : json.size.2 = rows
  positive : 0 < rows
  size : columns * rows < 2 ^ 31
  paths : ∃ layer object others,
    (json.layers.find? fun layer => layer.name = "Paths") = some layer ∧
      layer.type = .objectGroup ∧
      (layer.objects.filter fun object => object.objectType = .polyline) = object :: others ∧
      object.polylines.length ≤ 2 ^ 31
  enemyTypes : ∃ layer, (json.layers.find? fun layer => layer.name = "EnemyTypes") = some layer ∧
    layer.type = .objectGroup
  towerTypes : ∃ layer, (json.layers.find? fun layer => layer.name = "TowerTypes") = some layer ∧
    layer.type = .objectGroup
  base : (json.layers.find? fun layer => layer.name = "Base") = some baseLayer
  baseType : baseLayer.type = .tileLayer
  data : baseLayer.data.length ≤ columns * rows

section Loading

variable [Field F] [LinearOrder F] [Glm F] {baseLayer : LayerJson F}

/-- A playable map is loaded, and its grid holds the tiles of the base layer. -/
theorem Playable.load (playable : json.Playable columns rows baseLayer)
    (finite : json.isInfinite = false) (width : json.size.1 = columns) (positive : 0 < columns)
    (mapData : MapData F) :
    ∃ loaded, MapData.load json.tiledMap mapData = .ok loaded ∧
      BuildableMap.Holds columns rows (json.processLayer baseLayer).toMapLayer.tileData
        loaded.buildableMap := by
  obtain ⟨pathLayer, object, others, foundPaths, pathType, polylines, short⟩ := playable.paths
  obtain ⟨enemyLayer, foundEnemies, enemyType⟩ := playable.enemyTypes
  obtain ⟨towerLayer, foundTowers, towerType⟩ := playable.towerTypes
  obtain ⟨path, loadedPath, _⟩ := EnemyPath.load_succeeds
    (requireLayer_tiledMap foundPaths pathType) polylines (EnemyPath.counterFits_of_le short)
    mapData.enemyPath
  obtain ⟨types, loadedTypes⟩ : ∃ types, loadEntityTypes json.tiledMap = .ok types := by
    simp only [loadEntityTypes, bind_eq_ok, pure_eq_ok]
    exact ⟨_, _, requireLayer_tiledMap foundEnemies enemyType, _,
      requireLayer_tiledMap foundTowers towerType, rfl⟩
  have short := playable.data.trans_lt playable.size
  have size := playable.size
  have sameColumns : toU32 columns = columns := BuildableMap.toU32_width size playable.positive
  have sameRows : toU32 rows = rows :=
    BuildableMap.toU32_width (Nat.mul_comm columns rows ▸ size) positive
  have inside : ∀ tile ∈ (json.processLayer baseLayer).toMapLayer.tileData,
      ∃ x y : Nat, x < toU32 columns ∧ y < toU32 rows ∧ tile.1 = (↑x, ↑y) := by
    intro tile member
    rw [mem_tileData finite width positive short.le] at member
    obtain ⟨index, gid, found, stored, _, _, rfl⟩ := member
    have inLayer := ((List.getElem?_eq_some_iff.mp stored).1).trans_le playable.data
    refine ⟨index % columns, index / columns, ?_, ?_, rfl⟩
    · rw [sameColumns]
      exact Nat.mod_lt index positive
    · rw [sameRows]
      exact Nat.div_lt_of_lt_mul inLayer
  have isSize : json.tiledMap.size = ((columns : Int), (rows : Int)) :=
    Prod.ext width playable.height
  obtain ⟨grid, loadedGrid, holds⟩ := BuildableMap.loadInto_holds isSize size
    (requireLayer_tiledMap playable.base playable.baseType) inside (json.tileData_nodup _)
    mapData.buildableMap
  rw [BuildableMap.loadInto_eq] at loadedGrid
  rw [sameColumns, sameRows] at holds
  refine ⟨{ enemyPath := path, enemyTypes := types.1, towerTypes := types.2.1,
            projectileTypes := types.2.2, buildableMap := grid }, ?_, holds⟩
  simp only [MapData.load, bind_eq_ok, pure_eq_ok]
  exact ⟨path, loadedPath, types, loadedTypes, grid, loadedGrid, rfl⟩

/-- A playable map is loaded without a fault.  A tower may be built at a position exactly if the
number of the base layer that is drawn there is a tile that the file marks with
`BuildingAllowed`. -/
theorem loadAssets_query {T : Type} [IsStrictOrderedRing F] (exact : ExactTrunc F)
    (drawable : json.Drawable columns) (playable : json.Playable columns rows baseLayer)
    {tileset : TilesetJson F} (single : json.tilesets = [tileset])
    (firstgid : tileset.firstgid = 1) (distinct : (tileset.tiles.map TileJson.id).Nodup)
    (loadTexture : String → TextureHandle T) (mapData : MapData F) :
    ∃ assets : SessionAssets F T, json.loadAssets loadTexture mapData = .ok assets ∧
      ∀ position : Vec2 F, -2 ^ 31 ≤ position.x ∧ position.x ≤ 2 ^ 31 - 1 →
        -2 ^ 31 ≤ position.y ∧ position.y ≤ 2 ^ 31 - 1 →
        ∃ buildable, assets.mapData.buildableMap.query position = .ok buildable ∧
          (buildable = true ↔ ∃ (index : Nat) (gid : Int32),
            baseLayer.data[index]? = some gid ∧ 0 < gid ∧
            (∃ tile ∈ tileset.tiles, tile.id + tileset.firstgid = gid ∧
              getBool tile.properties "BuildingAllowed" = true) ∧
            BuildableMap.OnTile position (↑(index % columns), ↑(index / columns))) := by
  obtain ⟨tilesets, loadedTilesets⟩ := exists_loadMapTilesets
    (fun source member => (drawable.fits source member).tileCount) loadTexture
  obtain ⟨blocks, _, rendered⟩ := drawable.renderTileLayers loadedTilesets
  obtain ⟨loaded, loadedMap, holds⟩ :=
    playable.load drawable.finite drawable.width drawable.positive mapData
  refine ⟨⟨tilesets, blocks.flatten, loaded⟩, ?_, fun position rangeX rangeY => ?_⟩
  · rw [loadAssets_eq loadedTilesets rendered, loadedMap]
    rfl
  have short := playable.data.trans playable.size.le
  have inside : ∀ tile ∈ (json.processLayer baseLayer).toMapLayer.tileData,
      ∃ x y : Nat, x < columns ∧ y < rows ∧ tile.1 = (↑x, ↑y) := by
    intro tile member
    rw [mem_tileData drawable.finite drawable.width drawable.positive short] at member
    obtain ⟨index, _, _, stored, _, _, rfl⟩ := member
    have inLayer := ((List.getElem?_eq_some_iff.mp stored).1).trans_le playable.data
    exact ⟨_, _, Nat.mod_lt index drawable.positive, Nat.div_lt_of_lt_mul inLayer, rfl⟩
  obtain ⟨buildable, queried, isBuildable⟩ :=
    holds.query playable.size inside exact rangeX rangeY
  refine ⟨buildable, queried, isBuildable.trans ?_⟩
  simp only [mem_tileData drawable.finite drawable.width drawable.positive short]
  constructor
  · rintro ⟨tile, member, allowed, onTile⟩
    obtain ⟨index, gid, found, stored, positive, isFound, rfl⟩ := member
    exact ⟨index, gid, stored, positive,
      (getBool_lookup single firstgid distinct isFound _).mp allowed, onTile⟩
  · rintro ⟨index, gid, stored, positive, marked, onTile⟩
    obtain ⟨source, isSource, contains⟩ := drawable.known baseLayer
      (List.mem_of_find?_eq_some playable.base) playable.baseType gid
      (List.mem_of_getElem? stored) positive
    obtain ⟨found, isFound⟩ : ∃ found, json.tileMap.lookup gid = some found := by
      obtain ⟨tileset, isTileset, rfl⟩ := List.mem_map.mp isSource
      exact exists_tile isTileset
        (TsonTileset.mem_gids (drawable.fits _ isSource).firstgid positive contains)
    refine ⟨_, ⟨index, gid, found, stored, positive, isFound, rfl⟩, ?_, onTile⟩
    exact (getBool_lookup single firstgid distinct isFound _).mpr marked

end Loading

end MapJson

end Building

/-! ## A map of four cells -/

section Example

namespace Rational

def yardBase : LayerJson ℚ where
  name := "Base"
  type := .tileLayer
  objects := []
  data := [1, 2, 0, 2]

/-- Three tiles around an empty cell, with a kind of enemies and a kind of towers; building is
allowed on the second kind of tiles. -/
def yardFile : MapJson ℚ where
  size := (2, 2)
  tileSize := (16, 16)
  isInfinite := false
  tilesets :=
    [{ imagePath := "ground.png", imageSize := (32, 16), margin := 0, spacing := 0, columns := 2,
       tileCount := 2, tileSize := (16, 16), firstgid := 1,
       tiles := [⟨1, [("BuildingAllowed", .bool true)]⟩] }]
  layers :=
    [yardBase,
     { name := "Paths", type := .objectGroup, data := []
       objects := [{ objectType := .polyline, name := "Path", gid := 0, position := (0, 0),
                     rotation := 0, polylines := [(0, 0), (16, 16)], properties := [] }] },
     { name := "EnemyTypes", type := .objectGroup, data := []
       objects := [{ objectType := .object, name := "hen", gid := 1, position := (0, 0),
                     rotation := 0, polylines := []
                     properties := [("Health", .float 2), ("Speed", .float 1)] }] },
     { name := "TowerTypes", type := .objectGroup, data := []
       objects := [{ objectType := .object, name := "dog", gid := 2, position := (0, 0),
                     rotation := 0, polylines := []
                     properties := [("Range", .float 3), ("ShotsPerSecond", .float 1)] }] }]

theorem yardFile_drawable : yardFile.Drawable 2 where
  finite := rfl
  width := rfl
  positive := by decide
  fits := by
    intro source member
    rw [show yardFile.sources = [_] from rfl, List.mem_singleton] at member
    subst member
    constructor <;> decide
  apart := List.pairwise_singleton _ _
  gids := by
    intro source member
    rw [show yardFile.sources = [_] from rfl, List.mem_singleton] at member
    subst member
    decide
  small := by
    intro layer member _
    simp only [yardFile, List.mem_cons, List.not_mem_nil, or_false] at member
    rcases member with rfl | rfl | rfl | rfl
    all_goals decide
  known := by
    intro layer member isTileLayer gid isNumber positive
    refine ⟨_, List.mem_cons_self, ?_⟩
    simp only [yardFile, List.mem_cons, List.not_mem_nil, or_false] at member
    rcases member with rfl | rfl | rfl | rfl
    · simp only [yardBase, List.mem_cons, List.not_mem_nil, or_false] at isNumber
      rcases isNumber with rfl | rfl | rfl | rfl
      · constructor <;> decide
      · constructor <;> decide
      · exact absurd positive (by decide)
      · constructor <;> decide
    all_goals cases isTileLayer

theorem yardFile_playable : yardFile.Playable 2 2 yardBase where
  height := rfl
  positive := by decide
  size := by decide
  paths := ⟨_, _, _, rfl, rfl, rfl, by decide⟩
  enemyTypes := ⟨_, rfl, rfl⟩
  towerTypes := ⟨_, rfl, rfl⟩
  base := rfl
  baseType := rfl
  data := by decide

end Rational

open Rational

/-- Three of the four cells are drawn. -/
theorem yardFile_drawn : ∃ assets : SessionAssets ℚ Unit,
    yardFile.loadAssets (fun _ => none) meadow = .ok assets ∧
      assets.staticMapDrawList.length = 3 := by
  obtain ⟨tilesetHelper, blocks, _, shown, loaded⟩ := MapJson.loadAssets_draws (T := Unit)
    yardFile_drawable (fun _ => none) meadow
  obtain ⟨mapData, loadedMap, _⟩ := yardFile_playable.load rfl rfl (by decide) meadow
  rw [loadedMap] at loaded
  refine ⟨_, loaded, ?_⟩
  cases shown with
  | cons first rest =>
      cases rest
      obtain ⟨cells, isFilter, _, depicted⟩ := first
      rw [List.flatten_singleton, ← depicted.length_eq, isFilter.length_eq]
      decide

/-- A tower may be built to the right of the upper left cell. -/
theorem yardFile_buildable : ∃ assets : SessionAssets ℚ Unit,
    yardFile.loadAssets (fun _ => none) meadow = .ok assets ∧
      assets.mapData.buildableMap.query (⟨1, 0⟩ : Vec2 ℚ) = .ok true := by
  obtain ⟨assets, loaded, queries⟩ := MapJson.loadAssets_query (T := Unit) Rational.exactTrunc
    yardFile_drawable yardFile_playable rfl rfl (by decide) (fun _ => none) meadow
  obtain ⟨buildable, queried, isBuildable⟩ := queries ⟨1, 0⟩ (by norm_num) (by norm_num)
  have onTile : BuildableMap.OnTile (⟨1, 0⟩ : Vec2 ℚ) (1, 0) := by
    constructor
    · left
      norm_num
    · left
      norm_num
  have allowed : buildable = true := isBuildable.mpr
    ⟨1, 2, rfl, by decide, ⟨_, List.mem_cons_self, by decide, rfl⟩, onTile⟩
  exact ⟨assets, loaded, allowed ▸ queried⟩

end Example

end TowerDefence
