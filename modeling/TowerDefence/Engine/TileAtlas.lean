import Mathlib.Algebra.Order.Field.Basic
import Mathlib.Order.CompletePartialOrder
import TowerDefence.Foundations.Grid
import TowerDefence.Model.Tileset

/-!
# The tiles of a texture

A tileset numbers the cells of a grid on its texture.  `GetTileSpriteSrc` looks for the tileset
of a tile and computes the cell in unsigned integers; in a grid that fits its texture, nothing
is lost on the way.
-/

namespace TowerDefence

open Foundations

/-! ## Unsigned arithmetic -/

section Unsigned

theorem toNat_toUInt32 {value : Int32} (nonneg : 0 ≤ value.toInt) :
    (value.toUInt32.toNat : Int) = value.toInt := by
  have order : 0 ≤ value := Int32.le_iff_toInt_le.mpr nonneg
  rw [Int32.toNat_toUInt32_of_le order]
  exact Int.toNat_of_nonneg nonneg

/-- The start of a cell that an unsigned integer can hold. -/
theorem toNat_cellStart {margin size gap cell : UInt32}
    (bounded : cellStart margin.toNat size.toNat gap.toNat cell.toNat < 2 ^ 32) :
    ((margin + size * cell + gap * cell).toNat : Int) =
      cellStart margin.toNat size.toNat gap.toNat cell.toNat := by
  have parts : cellStart margin.toNat size.toNat gap.toNat cell.toNat =
      ((margin.toNat + size.toNat * cell.toNat + gap.toNat * cell.toNat : Nat) : Int) := by
    rw [cellStart]
    push_cast
    ring
  rw [parts] at bounded ⊢
  rw [UInt32.toNat_add, UInt32.toNat_add, UInt32.toNat_mul, UInt32.toNat_mul]
  omega

/-- The start of a cell that ends inside a texture. -/
theorem toNat_cellStart_of_le {margin size gap extent : Int32} {cell : UInt32} {number : Int}
    (isNumber : (cell.toNat : Int) = number) (marginNonneg : 0 ≤ margin.toInt)
    (sizePos : 0 < size.toInt) (gapNonneg : 0 ≤ gap.toInt)
    (inside : cellStart margin.toInt size.toInt gap.toInt number + size.toInt ≤ extent.toInt) :
    ((margin.toUInt32 + size.toUInt32 * cell + gap.toUInt32 * cell).toNat : Int) =
      cellStart margin.toInt size.toInt gap.toInt number := by
  have start : cellStart margin.toUInt32.toNat size.toUInt32.toNat gap.toUInt32.toNat cell.toNat =
      cellStart margin.toInt size.toInt gap.toInt number := by
    rw [isNumber, toNat_toUInt32 marginNonneg, toNat_toUInt32 sizePos.le,
      toNat_toUInt32 gapNonneg]
  have bound := extent.toInt_lt
  rw [toNat_cellStart (by omega), start]

end Unsigned

/-! ## Tiles and their cells -/

namespace TsonTileset

variable {tileset : TsonTileset} {tileIdx other : UInt32}

/-- The tile has an id of the tileset. -/
def Contains (tileset : TsonTileset) (tileIdx : UInt32) : Prop :=
  tileset.firstgid.toInt ≤ tileIdx.toNat ∧
    tileIdx.toNat < tileset.firstgid.toInt + tileset.tileCount.toInt

/-- The number of the tile in the tileset. -/
def localIdx (tileset : TsonTileset) (tileIdx : UInt32) : Int :=
  tileIdx.toNat - tileset.firstgid.toInt

def column (tileset : TsonTileset) (tileIdx : UInt32) : Int :=
  tileset.localIdx tileIdx % tileset.columns.toInt

def row (tileset : TsonTileset) (tileIdx : UInt32) : Int :=
  tileset.localIdx tileIdx / tileset.columns.toInt

/-- The left edge of the tile on the texture. -/
def tileX (tileset : TsonTileset) (tileIdx : UInt32) : Int :=
  cellStart tileset.margin.toInt tileset.tileSize.1.toInt tileset.spacing.toInt
    (tileset.column tileIdx)

/-- The upper edge of the tile on the texture. -/
def tileY (tileset : TsonTileset) (tileIdx : UInt32) : Int :=
  cellStart tileset.margin.toInt tileset.tileSize.2.toInt tileset.spacing.toInt
    (tileset.row tileIdx)

/-- The grid of the tiles fits the texture. -/
structure Fits (tileset : TsonTileset) : Prop where
  firstgid : 0 ≤ tileset.firstgid.toInt
  tileCount : 0 ≤ tileset.tileCount.toInt
  columns : 0 < tileset.columns.toInt
  tileWidth : 0 < tileset.tileSize.1.toInt
  tileHeight : 0 < tileset.tileSize.2.toInt
  margin : 0 ≤ tileset.margin.toInt
  spacing : 0 ≤ tileset.spacing.toInt
  width : tileset.margin.toInt + tileset.columns.toInt * tileset.tileSize.1.toInt +
    (tileset.columns.toInt - 1) * tileset.spacing.toInt ≤ tileset.imageSize.1.toInt
  height :
    let rows := rowsFor tileset.columns.toInt tileset.tileCount.toInt
    tileset.margin.toInt + rows * tileset.tileSize.2.toInt +
      (rows - 1) * tileset.spacing.toInt ≤ tileset.imageSize.2.toInt

namespace Fits

theorem column_mem (fits : tileset.Fits) (tileIdx : UInt32) :
    0 ≤ tileset.column tileIdx ∧ tileset.column tileIdx < tileset.columns.toInt :=
  ⟨Int.emod_nonneg _ fits.columns.ne', Int.emod_lt_of_pos _ fits.columns⟩

theorem row_mem (fits : tileset.Fits) (contains : tileset.Contains tileIdx) :
    0 ≤ tileset.row tileIdx ∧
      tileset.row tileIdx < rowsFor tileset.columns.toInt tileset.tileCount.toInt := by
  have local0 : 0 ≤ tileset.localIdx tileIdx := sub_nonneg.mpr contains.1
  have localCount : tileset.localIdx tileIdx < tileset.tileCount.toInt :=
    sub_left_lt_of_lt_add contains.2
  exact ⟨Int.ediv_nonneg local0 fits.columns.le, row_lt_rowsFor fits.columns localCount⟩

/-- The tile is inside the texture. -/
theorem tileX_mem (fits : tileset.Fits) (tileIdx : UInt32) :
    0 ≤ tileset.tileX tileIdx ∧
      tileset.tileX tileIdx + tileset.tileSize.1.toInt ≤ tileset.imageSize.1.toInt := by
  obtain ⟨nonneg, inside⟩ := fits.column_mem tileIdx
  exact ⟨cellStart_nonneg fits.margin fits.tileWidth.le fits.spacing nonneg,
    (cellEnd_le_extent fits.tileWidth.le fits.spacing inside).trans fits.width⟩

theorem tileY_mem (fits : tileset.Fits) (contains : tileset.Contains tileIdx) :
    0 ≤ tileset.tileY tileIdx ∧
      tileset.tileY tileIdx + tileset.tileSize.2.toInt ≤ tileset.imageSize.2.toInt := by
  obtain ⟨nonneg, inside⟩ := fits.row_mem contains
  exact ⟨cellStart_nonneg fits.margin fits.tileHeight.le fits.spacing nonneg,
    (cellEnd_le_extent fits.tileHeight.le fits.spacing inside).trans fits.height⟩

end Fits

end TsonTileset

/-! ## Texture coordinates -/

namespace AABB

variable {F : Type} [Field F] [LinearOrder F]

/-- The points strictly inside. -/
def interior (box : AABB F) : Set (Vec2 F) :=
  {point | box.min.x < point.x ∧ point.x < box.max.x ∧
    box.min.y < point.y ∧ point.y < box.max.y}

structure InUnitSquare (box : AABB F) : Prop where
  left : 0 ≤ box.min.x
  top : 0 ≤ box.min.y
  width : box.min.x < box.max.x
  height : box.min.y < box.max.y
  right : box.max.x ≤ 1
  bottom : box.max.y ≤ 1

/-- One box is beside, above or below the other. -/
def Apart (a b : AABB F) : Prop :=
  a.max.x ≤ b.min.x ∨ b.max.x ≤ a.min.x ∨ a.max.y ≤ b.min.y ∨ b.max.y ≤ a.min.y

theorem Apart.disjoint {a b : AABB F} (apart : a.Apart b) : Disjoint a.interior b.interior := by
  rw [Set.disjoint_left]
  rintro point ⟨leftA, rightA, aboveA, belowA⟩ ⟨leftB, rightB, aboveB, belowB⟩
  rcases apart with beside | beside | above | below
  · exact lt_irrefl _ (rightA.trans_le (beside.trans leftB.le))
  · exact lt_irrefl _ (rightB.trans_le (beside.trans leftA.le))
  · exact lt_irrefl _ (belowA.trans_le (above.trans aboveB.le))
  · exact lt_irrefl _ (belowB.trans_le (below.trans aboveA.le))

end AABB

namespace TsonTileset

variable {F : Type} [Field F] [LinearOrder F]
variable {tileset : TsonTileset} {tileIdx other : UInt32}

/-- The part of the texture that shows the tile. -/
def uv (tileset : TsonTileset) (tileIdx : UInt32) : AABB F where
  min := ⟨(tileset.tileX tileIdx : F) / (tileset.imageSize.1.toInt : F),
    (tileset.tileY tileIdx : F) / (tileset.imageSize.2.toInt : F)⟩
  max := ⟨((tileset.tileX tileIdx + tileset.tileSize.1.toInt : Int) : F) /
      (tileset.imageSize.1.toInt : F),
    ((tileset.tileY tileIdx + tileset.tileSize.2.toInt : Int) : F) /
      (tileset.imageSize.2.toInt : F)⟩

variable [IsStrictOrderedRing F]

namespace Fits

theorem imageWidth_pos (fits : tileset.Fits) (tileIdx : UInt32) :
    (0 : F) < (tileset.imageSize.1.toInt : F) := by
  obtain ⟨nonneg, inside⟩ := fits.tileX_mem tileIdx
  have positive := fits.tileWidth
  exact Int.cast_pos.mpr (by omega)

theorem imageHeight_pos (fits : tileset.Fits) (contains : tileset.Contains tileIdx) :
    (0 : F) < (tileset.imageSize.2.toInt : F) := by
  obtain ⟨nonneg, inside⟩ := fits.tileY_mem contains
  have positive := fits.tileHeight
  exact Int.cast_pos.mpr (by omega)

theorem uv_inUnitSquare (fits : tileset.Fits) (contains : tileset.Contains tileIdx) :
    (tileset.uv tileIdx : AABB F).InUnitSquare := by
  obtain ⟨nonnegX, insideX⟩ := fits.tileX_mem tileIdx
  obtain ⟨nonnegY, insideY⟩ := fits.tileY_mem contains
  have width := fits.imageWidth_pos (F := F) tileIdx
  have height := fits.imageHeight_pos (F := F) contains
  constructor
  · exact div_nonneg (Int.cast_nonneg nonnegX) width.le
  · exact div_nonneg (Int.cast_nonneg nonnegY) height.le
  · exact div_lt_div_of_pos_right (Int.cast_lt.mpr (lt_add_of_pos_right _ fits.tileWidth)) width
  · exact div_lt_div_of_pos_right (Int.cast_lt.mpr (lt_add_of_pos_right _ fits.tileHeight)) height
  · exact (div_le_one width).mpr (Int.cast_le.mpr insideX)
  · exact (div_le_one height).mpr (Int.cast_le.mpr insideY)

/-- A tile ends before the tiles of the columns to its right begin. -/
theorem uv_beside (fits : tileset.Fits) (before : tileset.column tileIdx < tileset.column other) :
    (tileset.uv tileIdx : AABB F).max.x ≤ (tileset.uv other : AABB F).min.x :=
  div_le_div_of_nonneg_right
    (Int.cast_le.mpr (cellEnd_le_cellStart fits.tileWidth.le fits.spacing before))
    (fits.imageWidth_pos tileIdx).le

/-- A tile ends before the tiles of the rows below it begin. -/
theorem uv_above (fits : tileset.Fits) (contains : tileset.Contains tileIdx)
    (before : tileset.row tileIdx < tileset.row other) :
    (tileset.uv tileIdx : AABB F).max.y ≤ (tileset.uv other : AABB F).min.y :=
  div_le_div_of_nonneg_right
    (Int.cast_le.mpr (cellEnd_le_cellStart fits.tileHeight.le fits.spacing before))
    (fits.imageHeight_pos contains).le

/-- Two tiles of a tileset share no point of the texture but on their edges. -/
theorem uv_apart (fits : tileset.Fits) (contains : tileset.Contains tileIdx)
    (containsOther : tileset.Contains other) (different : tileIdx ≠ other) :
    (tileset.uv tileIdx : AABB F).Apart (tileset.uv other) := by
  have differentIdx : tileset.localIdx tileIdx ≠ tileset.localIdx other := by
    intro same
    have sameNat : (tileIdx.toNat : Int) = other.toNat := sub_left_injective same
    exact different (UInt32.toNat_inj.mp (Int.ofNat_inj.mp sameNat))
  rcases (column_ne_or_row_ne differentIdx : tileset.column tileIdx ≠ tileset.column other ∨ _)
    with columns | rows
  · rcases lt_or_gt_of_ne columns with left | right
    · exact .inl (fits.uv_beside left)
    · exact .inr (.inl (fits.uv_beside right))
  · rcases lt_or_gt_of_ne rows with above | below
    · exact .inr (.inr (.inl (fits.uv_above contains above)))
    · exact .inr (.inr (.inr (fits.uv_above containsOther below)))

end Fits

end TsonTileset

/-! ## `GetTileSpriteSrc` -/

section Loaded

variable {F T : Type} {source : TsonTileset} {texture : TextureHandle T}
variable {tileset : Tileset F T} {tileIdx : UInt32}

/-- A loaded tileset holds the numbers of its source and a rotation for every tile. -/
structure Tileset.LoadedFrom (tileset : Tileset F T) (source : TsonTileset)
    (texture : TextureHandle T) : Prop where
  texture : tileset.texture = texture
  textureWidth : tileset.textureWidth = source.imageSize.1.toUInt32
  textureHeight : tileset.textureHeight = source.imageSize.2.toUInt32
  margin : tileset.margin = source.margin.toUInt32
  spacing : tileset.spacing = source.spacing.toUInt32
  columns : tileset.columns = source.columns.toUInt32
  tileCount : tileset.tileCount = source.tileCount.toUInt32
  tileWidth : tileset.tileWidth = source.tileSize.1.toUInt32
  tileHeight : tileset.tileHeight = source.tileSize.2.toUInt32
  firstTileIdx : tileset.firstTileIdx = source.firstgid.toUInt32
  rotations : tileset.baseTileRotations.length = source.tileCount.toUInt32.toNat

namespace Tileset.LoadedFrom

/-- The range test of the code, which does not wrap around. -/
theorem contains_iff (loaded : tileset.LoadedFrom source texture) (fits : source.Fits) :
    (tileset.firstTileIdx ≤ tileIdx ∧ tileIdx < tileset.firstTileIdx + tileset.tileCount) ↔
      source.Contains tileIdx := by
  have first := toNat_toUInt32 fits.firstgid
  have count := toNat_toUInt32 fits.tileCount
  have firstBound := source.firstgid.toInt_lt
  have countBound := source.tileCount.toInt_lt
  rw [loaded.firstTileIdx, loaded.tileCount, UInt32.le_iff_toNat_le, UInt32.lt_iff_toNat_lt,
    UInt32.toNat_add, TsonTileset.Contains]
  omega

/-- The number of the tile, without wrapping around. -/
theorem toNat_localIdx (loaded : tileset.LoadedFrom source texture) (fits : source.Fits)
    (contains : source.Contains tileIdx) :
    ((tileIdx - tileset.firstTileIdx).toNat : Int) = source.localIdx tileIdx := by
  have first := toNat_toUInt32 fits.firstgid
  have order := ((loaded.contains_iff fits).mpr contains).1
  rw [UInt32.toNat_sub_of_le _ _ order, loaded.firstTileIdx]
  have orderNat := UInt32.le_iff_toNat_le.mp order
  rw [loaded.firstTileIdx] at orderNat
  rw [TsonTileset.localIdx]
  omega

/-- The left edge of the tile, without wrapping around. -/
theorem toNat_tileX (loaded : tileset.LoadedFrom source texture) (fits : source.Fits)
    (contains : source.Contains tileIdx) :
    let tileColumn := (tileIdx - tileset.firstTileIdx) % tileset.columns
    ((tileset.margin + tileset.tileWidth * tileColumn +
      tileset.spacing * tileColumn).toNat : Int) = source.tileX tileIdx := by
  intro tileColumn
  have column : (tileColumn.toNat : Int) = source.column tileIdx := by
    rw [UInt32.toNat_mod, Int.natCast_emod, loaded.toNat_localIdx fits contains, loaded.columns,
      toNat_toUInt32 fits.columns.le]
    rfl
  rw [loaded.margin, loaded.tileWidth, loaded.spacing]
  exact toNat_cellStart_of_le column fits.margin fits.tileWidth fits.spacing
    (fits.tileX_mem tileIdx).2

/-- The upper edge of the tile, without wrapping around. -/
theorem toNat_tileY (loaded : tileset.LoadedFrom source texture) (fits : source.Fits)
    (contains : source.Contains tileIdx) :
    let tileRow := (tileIdx - tileset.firstTileIdx) / tileset.columns
    ((tileset.margin + tileset.tileHeight * tileRow +
      tileset.spacing * tileRow).toNat : Int) = source.tileY tileIdx := by
  intro tileRow
  have row : (tileRow.toNat : Int) = source.row tileIdx := by
    rw [UInt32.toNat_div, Int.natCast_ediv, loaded.toNat_localIdx fits contains, loaded.columns,
      toNat_toUInt32 fits.columns.le]
    rfl
  rw [loaded.margin, loaded.tileHeight, loaded.spacing]
  exact toNat_cellStart_of_le row fits.margin fits.tileHeight fits.spacing
    (fits.tileY_mem contains).2

theorem exists_rotation (loaded : tileset.LoadedFrom source texture) (fits : source.Fits)
    (contains : source.Contains tileIdx) :
    ∃ baseRotation : F,
      tileset.baseTileRotations[(tileIdx - tileset.firstTileIdx).toNat]? = some baseRotation := by
  have index := loaded.toNat_localIdx fits contains
  have count := toNat_toUInt32 fits.tileCount
  have inside : (tileIdx - tileset.firstTileIdx).toNat < tileset.baseTileRotations.length := by
    have below := contains.2
    rw [TsonTileset.localIdx] at index
    rw [loaded.rotations]
    omega
  exact ⟨_, List.getElem?_eq_getElem inside⟩

end Tileset.LoadedFrom

end Loaded

section Lookup

variable {F T : Type} [Field F] [LinearOrder F]
variable {tileMap : TileMap F} {source : TsonTileset} {texture : TextureHandle T}
variable {tileset : Tileset F T} {tileIdx : UInt32}

theorem Tileset.loadedFrom (loaded : Tileset.load tileMap source texture = .ok tileset) :
    tileset.LoadedFrom source texture := by
  simp only [Tileset.load, bind_eq_ok, pure_eq_ok] at loaded
  rcases loaded with ⟨rotations, collected, rfl⟩
  have lengths := (forall₂_of_mapM collected).length_eq
  rw [List.length_range] at lengths
  exact ⟨rfl, rfl, rfl, rfl, rfl, rfl, rfl, rfl, rfl, rfl, lengths.symm⟩

/-- A tileset shows its own tiles: its texture, the cell of the tile, and the rotation that was
loaded for it. -/
structure TsonTileset.Shows (source : TsonTileset) (tileset : Tileset F T) (tileIdx : UInt32)
    (src : SpriteSource F T) : Prop where
  texture : src.texture = tileset.texture
  uv : src.uv = source.uv tileIdx
  baseRotation : tileset.baseTileRotations[(source.localIdx tileIdx).toNat]? =
    some src.baseRotation

namespace Tileset.LoadedFrom

theorem getTileSpriteSrc_of_not_contains (loaded : tileset.LoadedFrom source texture)
    (fits : source.Fits) (outside : ¬source.Contains tileIdx) :
    tileset.getTileSpriteSrc tileIdx = .ok none := by
  rw [Tileset.getTileSpriteSrc, if_neg (mt (loaded.contains_iff fits).mp outside)]
  rfl

/-- The texture coordinates of the code are those of the cell. -/
theorem uv_eq (loaded : tileset.LoadedFrom source texture) (fits : source.Fits)
    (contains : source.Contains tileIdx) :
    let idx := tileIdx - tileset.firstTileIdx
    let tileX := tileset.margin + tileset.tileWidth * (idx % tileset.columns) +
      tileset.spacing * (idx % tileset.columns)
    let tileY := tileset.margin + tileset.tileHeight * (idx / tileset.columns) +
      tileset.spacing * (idx / tileset.columns)
    let min : Vec2 F :=
      ⟨ofU32 tileX / ofU32 tileset.textureWidth, ofU32 tileY / ofU32 tileset.textureHeight⟩
    let uvTileDimensions : Vec2 F :=
      ⟨ofU32 tileset.tileWidth / ofU32 tileset.textureWidth,
        ofU32 tileset.tileHeight / ofU32 tileset.textureHeight⟩
    ({ min, max := min + uvTileDimensions } : AABB F) = source.uv tileIdx := by
  have number : ∀ (value : UInt32) (whole : Int), (value.toNat : Int) = whole →
      (ofU32 value : F) = (whole : F) := fun _ _ same => congrArg Int.cast same
  have textureWidth := (fits.tileX_mem tileIdx).1.trans
    ((le_add_of_nonneg_right fits.tileWidth.le).trans (fits.tileX_mem tileIdx).2)
  have textureHeight := (fits.tileY_mem contains).1.trans
    ((le_add_of_nonneg_right fits.tileHeight.le).trans (fits.tileY_mem contains).2)
  dsimp only
  rw [number _ _ (loaded.toNat_tileX fits contains), number _ _ (loaded.toNat_tileY fits contains),
    loaded.textureWidth, loaded.textureHeight, loaded.tileWidth, loaded.tileHeight,
    number _ _ (toNat_toUInt32 textureWidth), number _ _ (toNat_toUInt32 textureHeight),
    number _ _ (toNat_toUInt32 fits.tileWidth.le), number _ _ (toNat_toUInt32 fits.tileHeight.le),
    TsonTileset.uv, Int.cast_add, Int.cast_add, add_div, add_div]
  rfl

theorem getTileSpriteSrc_of_contains (loaded : tileset.LoadedFrom source texture)
    (fits : source.Fits) (contains : source.Contains tileIdx) :
    ∃ src : SpriteSource F T, tileset.getTileSpriteSrc tileIdx = .ok (some src) ∧
      source.Shows tileset tileIdx src := by
  obtain ⟨baseRotation, stored⟩ := loaded.exists_rotation fits contains
  refine ⟨⟨tileset.texture, source.uv tileIdx, baseRotation⟩, ?_, rfl, rfl, ?_⟩
  · rw [Tileset.getTileSpriteSrc, if_pos ((loaded.contains_iff fits).mpr contains)]
    simp only [readAt, stored, loaded.uv_eq fits contains]
    rfl
  · rw [← loaded.toNat_localIdx fits contains, Int.toNat_natCast, stored]

end Tileset.LoadedFrom

/-! ## The search for the tileset -/

namespace TilesetHelper

variable {loadTexture : String → TextureHandle T} {sources : List TsonTileset}
variable {tilesets : List (Tileset F T)} {outSrc : SpriteSource F T}

/-- Every tileset is loaded from its source, with the texture of the source. -/
abbrev AllLoaded (tileMap : TileMap F) (loadTexture : String → TextureHandle T) :
    List TsonTileset → List (Tileset F T) → Prop :=
  List.Forall₂ fun source tileset =>
    Tileset.load tileMap source (loadTexture source.imagePath) = .ok tileset

/-- No two tilesets have an id in common. -/
def GidsApart (sources : List TsonTileset) : Prop :=
  sources.Pairwise fun a b => ∀ tileIdx, ¬(a.Contains tileIdx ∧ b.Contains tileIdx)

theorem getTileSpriteSrc_of_none
    (loaded : AllLoaded tileMap loadTexture sources tilesets)
    (fits : ∀ source ∈ sources, source.Fits)
    (outside : ∀ source ∈ sources, ¬source.Contains tileIdx) :
    getTileSpriteSrc tilesets tileIdx outSrc = .ok (false, outSrc) := by
  induction loaded with
  | nil => rfl
  | cons first _ ih =>
      have passed := (Tileset.loadedFrom first).getTileSpriteSrc_of_not_contains
        (fits _ List.mem_cons_self) (outside _ List.mem_cons_self)
      rw [getTileSpriteSrc, passed]
      exact ih (fun source member => fits source (List.mem_cons_of_mem _ member))
        fun source member => outside source (List.mem_cons_of_mem _ member)

/-- The search stops at the one tileset that has the tile. -/
theorem getTileSpriteSrc_of_contains
    (loaded : AllLoaded tileMap loadTexture sources tilesets)
    (fits : ∀ source ∈ sources, source.Fits) (apart : GidsApart sources)
    (member : source ∈ sources) (contains : source.Contains tileIdx) :
    ∃ tileset src, Tileset.load tileMap source (loadTexture source.imagePath) = .ok tileset ∧
      source.Shows tileset tileIdx src ∧
      getTileSpriteSrc tilesets tileIdx outSrc = .ok (true, src) := by
  induction loaded with
  | nil => cases member
  | cons first _ ih =>
      obtain ⟨apartFirst, apartRest⟩ := List.pairwise_cons.mp apart
      rcases List.mem_cons.mp member with rfl | later
      · obtain ⟨src, found, shows⟩ := (Tileset.loadedFrom first).getTileSpriteSrc_of_contains
          (fits _ List.mem_cons_self) contains
        refine ⟨_, src, first, shows, ?_⟩
        rw [getTileSpriteSrc, found]
        rfl
      · have passed := (Tileset.loadedFrom first).getTileSpriteSrc_of_not_contains
          (fits _ List.mem_cons_self) fun both => apartFirst _ later tileIdx ⟨both, contains⟩
        obtain ⟨tileset, src, loadedLater, shows, found⟩ :=
          ih (fun source member => fits source (List.mem_cons_of_mem _ member)) apartRest later
        refine ⟨tileset, src, loadedLater, shows, ?_⟩
        rw [getTileSpriteSrc, passed]
        exact found

variable [IsStrictOrderedRing F]

/-- What is found is a tile of the tileset, apart from what is found for its other tiles. -/
theorem shown_of_found
    (loaded : AllLoaded tileMap loadTexture sources tilesets)
    (fits : ∀ source ∈ sources, source.Fits) (apart : GidsApart sources)
    (member : source ∈ sources) (contains : source.Contains tileIdx) {src : SpriteSource F T}
    (found : getTileSpriteSrc tilesets tileIdx outSrc = .ok (true, src)) :
    (∃ tileset : Tileset F T,
      Tileset.load tileMap source (loadTexture source.imagePath) = .ok tileset ∧
        source.Shows tileset tileIdx src) ∧
    src.uv.InUnitSquare ∧
    ∀ (other : UInt32) (outOther otherSrc : SpriteSource F T), source.Contains other →
      other ≠ tileIdx → getTileSpriteSrc tilesets other outOther = .ok (true, otherSrc) →
        Disjoint src.uv.interior otherSrc.uv.interior := by
  have shownBy : ∀ (tileIdx : UInt32) (outSrc src : SpriteSource F T), source.Contains tileIdx →
      getTileSpriteSrc tilesets tileIdx outSrc = .ok (true, src) →
        ∃ tileset : Tileset F T,
          Tileset.load tileMap source (loadTexture source.imagePath) = .ok tileset ∧
            source.Shows tileset tileIdx src := by
    intro tileIdx outSrc src contains found
    obtain ⟨tileset, shown, isLoaded, shows, foundShown⟩ : ∃ tileset shown,
        Tileset.load tileMap source (loadTexture source.imagePath) = .ok tileset ∧
          source.Shows tileset tileIdx shown ∧
          getTileSpriteSrc tilesets tileIdx outSrc = .ok (true, shown) :=
      getTileSpriteSrc_of_contains loaded fits apart member contains
    have same : src = shown := by
      rw [found] at foundShown
      exact (Prod.mk.inj (Except.ok.inj foundShown)).2
    exact ⟨tileset, isLoaded, same ▸ shows⟩
  have fitsSource := fits source member
  obtain ⟨tileset, isLoaded, shows⟩ := shownBy tileIdx outSrc src contains found
  refine ⟨⟨tileset, isLoaded, shows⟩, shows.uv ▸ fitsSource.uv_inUnitSquare contains, ?_⟩
  intro other outOther otherSrc containsOther different foundOther
  obtain ⟨_, _, showsOther⟩ := shownBy other outOther otherSrc containsOther foundOther
  rw [shows.uv, showsOther.uv]
  exact (fitsSource.uv_apart contains containsOther different.symm).disjoint

/-- A tile of a tileset is found in that tileset, in a part of the texture that it shares with
no other tile; any other tile is not found. -/
theorem getTileSpriteSrc_spec (loaded : loadMapTilesets tileMap loadTexture sources = .ok tilesets)
    (fits : ∀ source ∈ sources, source.Fits) (apart : GidsApart sources) (tileIdx : UInt32)
    (outSrc : SpriteSource F T) :
    ∃ (found : Bool) (src : SpriteSource F T),
      getTileSpriteSrc tilesets tileIdx outSrc = .ok (found, src) ∧
      (found = true ↔ ∃ source ∈ sources, source.Contains tileIdx) ∧
      (found = false → src = outSrc) ∧
      ∀ source ∈ sources, source.Contains tileIdx →
        (∃ tileset : Tileset F T,
          Tileset.load tileMap source (loadTexture source.imagePath) = .ok tileset ∧
            source.Shows tileset tileIdx src) ∧
        src.uv.InUnitSquare ∧
        ∀ (other : UInt32) (outOther otherSrc : SpriteSource F T), source.Contains other →
          other ≠ tileIdx → getTileSpriteSrc tilesets other outOther = .ok (true, otherSrc) →
            Disjoint src.uv.interior otherSrc.uv.interior := by
  have eachLoaded := forall₂_of_mapM loaded
  by_cases isTile : ∃ source ∈ sources, source.Contains tileIdx
  · obtain ⟨source, member, contains⟩ := isTile
    obtain ⟨_, src, _, _, found⟩ : ∃ tileset src,
        Tileset.load tileMap source (loadTexture source.imagePath) = .ok tileset ∧
          source.Shows tileset tileIdx src ∧
          getTileSpriteSrc tilesets tileIdx outSrc = .ok (true, src) :=
      getTileSpriteSrc_of_contains eachLoaded fits apart member contains
    refine ⟨true, src, found, iff_of_true rfl ⟨source, member, contains⟩,
      fun notFound => absurd notFound.symm Bool.false_ne_true, ?_⟩
    intro source member contains
    exact shown_of_found eachLoaded fits apart member contains found
  · have outside : ∀ source ∈ sources, ¬source.Contains tileIdx :=
      fun source member contains => isTile ⟨source, member, contains⟩
    exact ⟨false, outSrc, getTileSpriteSrc_of_none eachLoaded fits outside,
      iff_of_false Bool.false_ne_true isTile, fun _ => rfl,
      fun source member contains => absurd contains (outside source member)⟩

end TilesetHelper

end Lookup

/-! ## Two tilesets -/

namespace Rational

def tilesets : List TsonTileset :=
  [{ imagePath := "ground.png", imageSize := (36, 19), margin := 1, spacing := 2, columns := 2,
     tileCount := 2, tileSize := (16, 16), firstgid := 1 },
   { imagePath := "road.png", imageSize := (16, 16), margin := 0, spacing := 0, columns := 1,
     tileCount := 1, tileSize := (16, 16), firstgid := 3 }]

def tileMap : TileMap ℚ := [(1, []), (2, [("BaseRotation", .float 90)]), (3, [])]

theorem tilesets_fit : ∀ source ∈ tilesets, source.Fits := by
  intro source member
  simp only [tilesets, List.mem_cons, List.not_mem_nil, or_false] at member
  rcases member with rfl | rfl
  · constructor <;> decide
  · constructor <;> decide

theorem tilesets_apart : TilesetHelper.GidsApart tilesets := by
  refine List.pairwise_pair.mpr ?_
  rintro tileIdx ⟨⟨_, below⟩, ⟨above, _⟩⟩
  exact absurd (above.trans_lt below) (by decide)

end Rational

/-- The second tile is found in the first of the two tilesets. -/
theorem TilesetHelper.getTileSpriteSrc_example :
    ∃ tilesets : List (Tileset ℚ Unit),
      loadMapTilesets Rational.tileMap (fun _ => none) Rational.tilesets = .ok tilesets ∧
      ∃ (found : Bool) (src : SpriteSource ℚ Unit),
        getTileSpriteSrc tilesets 2 newSprite.src = .ok (found, src) ∧
          (found = true ↔ ∃ source ∈ Rational.tilesets, source.Contains 2) := by
  obtain ⟨tilesets, loaded⟩ : ∃ tilesets : List (Tileset ℚ Unit),
      loadMapTilesets Rational.tileMap (fun _ => none) Rational.tilesets = .ok tilesets :=
    ⟨_, rfl⟩
  obtain ⟨found, src, executed, isTile, _⟩ :=
    getTileSpriteSrc_spec loaded Rational.tilesets_fit Rational.tilesets_apart 2 newSprite.src
  exact ⟨tilesets, loaded, found, src, executed, isTile⟩

end TowerDefence
