import Mathlib.Algebra.Order.Ring.Abs
import Mathlib.Tactic.Linarith
import TowerDefence.Model.Rational
import TowerDefence.Model.Tileset
import TowerDefence.Step.Movement

/-!
# Where towers may be built

The grid of a `BuildableMap` holds a cell for every tile of the map, row by row.  A query
rounds a position to the nearest tile, which is the tile that is drawn there.
-/

namespace TowerDefence

open Foundations

variable {F : Type}

/-! ## Rounding -/

section Rounding

variable [Field F] [LinearOrder F] [IsStrictOrderedRing F]

/-- The integer is nearest to the value; of two that are equally near, it is the one
farther from zero. -/
def RoundsTo (value : F) (nearest : Int) : Prop :=
  |value - nearest| < 1 / 2 ∨ |value - nearest| = 1 / 2 ∧ |value| < |(nearest : F)|

theorem RoundsTo.near {value : F} {nearest : Int} (rounds : RoundsTo value nearest) :
    (nearest : F) - 1 / 2 ≤ value ∧ value ≤ nearest + 1 / 2 := by
  have atMost : |value - nearest| ≤ 1 / 2 := rounds.elim le_of_lt fun tie => tie.1.le
  obtain ⟨below, above⟩ := abs_le.mp atMost
  constructor
  · linarith
  · linarith

omit [IsStrictOrderedRing F] in
/-- In the middle between two integers a value rounds to the one that is farther from
zero. -/
theorem RoundsTo.of_middle {value : F} {nearest : Int} (rounds : RoundsTo value nearest)
    (middle : |value - nearest| = 1 / 2) : |value| < |(nearest : F)| :=
  rounds.elim (fun near => absurd middle near.ne) And.right

theorem RoundsTo.not_less {value : F} {a b : Int} (toA : RoundsTo value a)
    (toB : RoundsTo value b) : ¬a < b := by
  intro less
  have step : (a : F) + 1 ≤ b := by exact_mod_cast less
  have atMost := toA.near.2
  have atLeast := toB.near.1
  have isMiddle : value = a + 1 / 2 := by linarith
  have isNext : (b : F) = a + 1 := by linarith
  have middleA : |value - a| = 1 / 2 := by
    rw [isMiddle, add_sub_cancel_left, abs_of_pos one_half_pos]
  have middleB : |value - b| = 1 / 2 := by
    have offset : (a : F) + 1 / 2 - (a + 1) = -(1 / 2) := by ring
    rw [isMiddle, isNext, offset, abs_neg, abs_of_pos one_half_pos]
  have fartherA := toA.of_middle middleA
  have fartherB := toB.of_middle middleB
  rcases le_or_gt 0 a with nonneg | negative
  · have nonneg : (0 : F) ≤ a := Int.cast_nonneg nonneg
    rw [isMiddle, abs_of_nonneg nonneg, abs_of_nonneg (by linarith)] at fartherA
    linarith
  · have negative : (a : F) + 1 ≤ 0 := by exact_mod_cast negative
    rw [isMiddle, isNext, abs_of_nonpos negative, abs_of_neg (by linarith)] at fartherB
    linarith

/-- A value rounds to one integer only. -/
theorem RoundsTo.unique {value : F} {a b : Int} (toA : RoundsTo value a) (toB : RoundsTo value b) :
    a = b :=
  le_antisymm (Int.not_lt.mp (toB.not_less toA)) (Int.not_lt.mp (toA.not_less toB))

/-- Half of the sign moves a value to where cutting off the fraction rounds it. -/
theorem roundsTo_of_nonneg {value : F} {whole : Int} (nonneg : 0 ≤ value)
    (below : (whole : F) ≤ value + 1 / 2) (above : value + 1 / 2 < whole + 1) :
    RoundsTo value whole := by
  rcases below.lt_or_eq with inside | middle
  · left
    rw [abs_lt]
    constructor
    · linarith
    · linarith
  · right
    have isValue : value = whole - 1 / 2 := by linarith
    have offset : (whole : F) - 1 / 2 - whole = -(1 / 2) := by ring
    constructor
    · rw [isValue, offset, abs_neg, abs_of_pos one_half_pos]
    · rw [abs_of_nonneg nonneg, abs_of_nonneg (by linarith)]
      linarith

omit [IsStrictOrderedRing F] in
theorem RoundsTo.neg {value : F} {whole : Int} (rounds : RoundsTo (-value) (-whole)) :
    RoundsTo value whole := by
  have distance : |-value - ((-whole : Int) : F)| = |value - whole| := by
    rw [Int.cast_neg, ← neg_sub', abs_neg]
  rw [RoundsTo, distance, abs_neg, Int.cast_neg, abs_neg] at rounds
  exact rounds

variable [Glm F]

/-- A whole number in the range of an `i32` survives the conversion. -/
theorem toI32_whole (exact : ExactTrunc F) {value : F} {whole : Int} (isWhole : value = whole)
    (low : -2 ^ 31 - 1 < (whole : F)) (high : (whole : F) < 2 ^ 31) :
    (Glm.toI32 value).toInt = whole := by
  have low : -2 ^ 31 - 1 < whole := by exact_mod_cast low
  have high : whole < 2 ^ 31 := by exact_mod_cast high
  rw [isWhole]
  exact exact.toI32 whole (by omega) high

/-- The code's way to round: half of the sign is added, and the fraction is cut off. -/
theorem roundsTo_trunc (exact : ExactTrunc F) {value : F} (atLeast : -2 ^ 31 ≤ value)
    (atMost : value ≤ 2 ^ 31 - 1) :
    RoundsTo value (Glm.toI32 (Glm.trunc (value + literal 0.5 * Glm.sign value))).toInt := by
  rw [literal_half, Glm.sign]
  rcases lt_or_ge 0 value with positive | nonpos
  · rw [if_pos positive, mul_one]
    obtain ⟨whole, isWhole, below, above⟩ := exact.of_nonneg (value + 1 / 2) (by linarith)
    rw [toI32_whole exact isWhole (by linarith) (by linarith)]
    exact roundsTo_of_nonneg positive.le below above
  · rw [if_neg nonpos.not_gt]
    rcases nonpos.lt_or_eq with negative | isZero
    · rw [if_pos negative, mul_neg_one, ← sub_eq_add_neg]
      obtain ⟨whole, isWhole, below, above⟩ := exact.of_nonpos (value - 1 / 2) (by linarith)
      rw [toI32_whole exact isWhole (by linarith) (by linarith)]
      apply RoundsTo.neg
      apply roundsTo_of_nonneg (neg_nonneg.mpr nonpos)
      · rw [Int.cast_neg]
        linarith
      · rw [Int.cast_neg]
        linarith
    · rw [isZero, if_neg (lt_irrefl 0), mul_zero, add_zero]
      obtain ⟨whole, isWhole, below, above⟩ := exact.of_nonneg (0 : F) le_rfl
      have above : 0 < whole + 1 := by exact_mod_cast above
      have nonneg : (0 : F) ≤ whole := Int.cast_nonneg (Int.lt_add_one_iff.mp above)
      rw [toI32_whole exact isWhole (by linarith) (by linarith)]
      exact roundsTo_of_nonneg le_rfl (by linarith) (by linarith)

end Rounding

/-! ## The grid -/

namespace BuildableMap

/-- The cells of a grid, row by row. -/
theorem gridIndex_eq {width height x y : Nat} (insideX : x < width) (insideY : y < height)
    (size : width * height < 2 ^ 31) :
    gridIndex width x y = y * width + x ∧ y * width + x < width * height := by
  have inside : y * width + x < width * height := by
    calc
      y * width + x < y * width + width := Nat.add_lt_add_left insideX _
      _ = (y + 1) * width := (Nat.succ_mul y width).symm
      _ ≤ height * width := Nat.mul_le_mul_right width insideY
      _ = width * height := Nat.mul_comm height width
  exact ⟨Nat.mod_eq_of_lt (by omega), inside⟩

/-- Two cells of a grid do not share an index. -/
theorem cell_injective {width x y x' y' : Nat} (inside : x < width) (inside' : x' < width)
    (same : y * width + x = y' * width + x') : x = x' ∧ y = y' := by
  have column : ∀ {a b : Nat}, a < width → (b * width + a) % width = a := fun small => by
    rw [Nat.mul_comm, Nat.mul_add_mod, Nat.mod_eq_of_lt small]
  have isColumn : x = x' := by
    rw [← column inside, same, column inside']
  refine ⟨isColumn, ?_⟩
  rw [isColumn] at same
  exact Nat.eq_of_mul_eq_mul_right (Nat.zero_lt_of_lt inside) (Nat.add_right_cancel same)

/-- One of the tiles stands at the coordinates and allows building. -/
def Allows (tiles : List ((Int × Int) × List (String × Property F))) (x y : Nat) : Prop :=
  ∃ tile ∈ tiles, tile.1 = (↑x, ↑y) ∧ getBool tile.2 "BuildingAllowed" = true

/-- The grid holds the tiles that the loop has seen. -/
structure Holds (width height : Nat) (tiles : List ((Int × Int) × List (String × Property F)))
    (map : BuildableMap) : Prop where
  isWidth : map.width = width
  isHeight : map.height = height
  length : map.grid.length = width * height
  cell : ∀ x y, x < width → y < height →
    (map.grid[y * width + x]? = some 1 ↔ Allows tiles x y)

theorem toU32_natCast {value : Nat} (small : value < 2 ^ 32) : toU32 value = value := by
  rw [toU32]
  omega

variable {width height : Nat} {done rest : List ((Int × Int) × List (String × Property F))}
  {tile : (Int × Int) × List (String × Property F)} {map : BuildableMap}

theorem allows_append_singleton {x y : Nat} : Allows (done ++ [tile]) x y ↔
    Allows done x y ∨ tile.1 = (↑x, ↑y) ∧ getBool tile.2 "BuildingAllowed" = true := by
  simp only [Allows, List.mem_append, List.mem_singleton, or_and_right, exists_or, exists_eq_left]

/-- An iteration writes the cell of its tile, and no other one. -/
theorem Holds.loadTile (holds : Holds width height done map) (size : width * height < 2 ^ 31)
    {x y : Nat} (insideX : x < width) (insideY : y < height) (isAt : tile.1 = (↑x, ↑y))
    (fresh : tile.1 ∉ done.map Prod.fst) :
    ∃ loaded, loadTile map tile = .ok loaded ∧ Holds width height (done ++ [tile]) loaded := by
  obtain ⟨index, inBounds⟩ := gridIndex_eq insideX insideY size
  have smallX : x < 2 ^ 32 := by omega
  have smallY : y < 2 ^ 32 := by
    have := Nat.le_mul_of_pos_right y (Nat.zero_lt_of_lt insideX)
    omega
  let cell := if getBool tile.2 "BuildingAllowed" then 1 else 0
  refine ⟨{ map with grid := map.grid.set (y * width + x) cell }, ?_, ?_⟩
  · simp only [BuildableMap.loadTile, isAt, toU32_natCast smallX, toU32_natCast smallY,
      holds.isWidth, index, bind_eq_ok, writeAt_eq_ok]
    exact ⟨_, ⟨holds.length ▸ inBounds, rfl⟩, rfl⟩
  · refine ⟨holds.isWidth, holds.isHeight, ?_, ?_⟩
    · rw [List.length_set, holds.length]
    · intro x' y' insideX' insideY'
      rw [allows_append_singleton]
      by_cases same : y * width + x = y' * width + x'
      · obtain ⟨rfl, rfl⟩ := cell_injective insideX insideX' same
        have notYet : ¬Allows done x y := by
          rintro ⟨other, member, isOther, _⟩
          exact fresh (List.mem_map.mpr ⟨other, member, isOther.trans isAt.symm⟩)
        rw [List.getElem?_set_self (holds.length ▸ inBounds), or_iff_right notYet,
          and_iff_right isAt]
        simp only [cell]
        split <;> simp [*]
      · have elsewhere : tile.1 ≠ (↑x', ↑y') := by
          intro isThere
          rw [isAt, Prod.mk.injEq, Int.natCast_inj, Int.natCast_inj] at isThere
          exact same (isThere.1 ▸ isThere.2 ▸ rfl)
        rw [List.getElem?_set_ne same, holds.cell x' y' insideX' insideY',
          or_iff_left fun isThere => elsewhere isThere.1]

/-- The loop over the tiles fills the grid, if no two of them share their coordinates. -/
theorem Holds.loadTiles (holds : Holds width height done map) (size : width * height < 2 ^ 31)
    (inside : ∀ tile ∈ rest, ∃ x y : Nat, x < width ∧ y < height ∧ tile.1 = (↑x, ↑y))
    (distinct : ((done ++ rest).map Prod.fst).Nodup) :
    ∃ loaded, rest.foldlM BuildableMap.loadTile map = .ok loaded ∧
      Holds width height (done ++ rest) loaded := by
  induction rest generalizing done map with
  | nil => exact ⟨map, rfl, by rwa [List.append_nil]⟩
  | cons tile rest ih =>
      obtain ⟨x, y, insideX, insideY, isAt⟩ := inside tile List.mem_cons_self
      have fresh : tile.1 ∉ done.map Prod.fst := by
        rw [List.map_append, List.map_cons] at distinct
        intro member
        exact (List.disjoint_of_nodup_append distinct) member List.mem_cons_self
      obtain ⟨next, stepped, holdsNext⟩ := holds.loadTile size insideX insideY isAt fresh
      rw [List.append_cons] at distinct ⊢
      obtain ⟨loaded, executed, holdsAll⟩ := ih holdsNext
        (fun other member => inside other (List.mem_cons_of_mem _ member)) distinct
      refine ⟨loaded, ?_, holdsAll⟩
      rw [List.foldlM_cons, bind_eq_ok]
      exact ⟨next, stepped, executed⟩

end BuildableMap

/-! ## Queries -/

section Queries

namespace BuildableMap

variable {width height : Nat} {tiles : List ((Int × Int) × List (String × Property F))}
  {map : BuildableMap}

/-- A position is on the tile that is drawn at the nearest integer point. -/
def OnTile [Field F] [LinearOrder F] (position : Vec2 F) (tile : Int × Int) : Prop :=
  RoundsTo position.x tile.1 ∧ RoundsTo position.y (-tile.2)

variable [Field F] [LinearOrder F] [IsStrictOrderedRing F] [Glm F]

/-- A query never leaves the grid, and it asks for the tile that the position is on. -/
theorem Holds.query (holds : Holds width height tiles map) (size : width * height < 2 ^ 31)
    (inside : ∀ tile ∈ tiles, ∃ x y : Nat, x < width ∧ y < height ∧ tile.1 = (↑x, ↑y))
    (exact : ExactTrunc F) {position : Vec2 F}
    (rangeX : -2 ^ 31 ≤ position.x ∧ position.x ≤ 2 ^ 31 - 1)
    (rangeY : -2 ^ 31 ≤ position.y ∧ position.y ≤ 2 ^ 31 - 1) :
    ∃ buildable, map.query position = .ok buildable ∧
      (buildable = true ↔ ∃ tile ∈ tiles, getBool tile.2 "BuildingAllowed" = true ∧
        OnTile position tile.1) := by
  have toX := roundsTo_trunc exact rangeX.1 rangeX.2
  have toY := roundsTo_trunc exact rangeY.1 rangeY.2
  rw [BuildableMap.query, worldToTile]
  dsimp only
  have turned := turnedRow_eq
    (Glm.toI32 (Glm.trunc (position.y + literal 0.5 * Glm.sign position.y)))
  generalize (Glm.toI32 (Glm.trunc (position.x + literal 0.5 * Glm.sign position.x))).toInt =
    tileX at *
  generalize (Glm.toI32 (Glm.trunc (position.y + literal 0.5 * Glm.sign position.y))).toInt =
    tileY at *
  -- the tile of an entry at which the position is
  have located : ∀ tile ∈ tiles, OnTile position tile.1 →
      tileX = tile.1.1 ∧ wrapI32 (tileY * -1) = tile.1.2 := by
    intro tile member onTile
    have isX := toX.unique onTile.1
    have isY := toY.unique onTile.2
    obtain ⟨x, y, insideX, insideY, isAt⟩ := inside tile member
    have row : y < 2 ^ 31 := by
      have := Nat.le_mul_of_pos_left height (Nat.zero_lt_of_lt insideX)
      omega
    rw [isAt] at isX isY ⊢
    refine ⟨isX, ?_⟩
    dsimp only at isY ⊢
    omega
  split
  case isTrue outside =>
    refine ⟨false, rfl, iff_of_false Bool.false_ne_true ?_⟩
    rintro ⟨tile, member, _, onTile⟩
    obtain ⟨isX, isY⟩ := located tile member onTile
    obtain ⟨x, y, insideX, insideY, isAt⟩ := inside tile member
    rw [isAt] at isX isY
    rw [isX, isY, holds.isWidth, holds.isHeight] at outside
    dsimp only at outside
    omega
  case isFalse within =>
    rw [holds.isWidth, holds.isHeight] at within
    obtain ⟨x, rfl⟩ : ∃ x : Nat, tileX = x := Int.eq_ofNat_of_zero_le (by omega)
    obtain ⟨y, isY⟩ : ∃ y : Nat, wrapI32 (tileY * -1) = y := Int.eq_ofNat_of_zero_le (by omega)
    have isRow : tileY = -(y : Int) := by omega
    rw [isY, Int.toNat_natCast, Int.toNat_natCast] at within ⊢
    have insideX : x < width := by omega
    have insideY : y < height := by omega
    obtain ⟨index, inBounds⟩ := gridIndex_eq insideX insideY size
    have inGrid : y * width + x < map.grid.length := holds.length ▸ inBounds
    have isCell := holds.cell x y insideX insideY
    rw [List.getElem?_eq_getElem inGrid, Option.some_inj] at isCell
    refine ⟨map.grid[y * width + x] == 1, ?_, ?_⟩
    · simp only [bind_eq_ok, readAt_eq_ok, holds.isWidth, index]
      exact ⟨_, List.getElem?_eq_getElem inGrid, rfl⟩
    · rw [beq_iff_eq, isCell]
      constructor
      · rintro ⟨tile, member, isAt, allowed⟩
        refine ⟨tile, member, allowed, ?_⟩
        rw [isAt]
        exact ⟨toX, isRow ▸ toY⟩
      · rintro ⟨tile, member, allowed, onTile⟩
        obtain ⟨isX, isTurned⟩ := located tile member onTile
        exact ⟨tile, member, Prod.ext isX.symm (isTurned.symm.trans isY), allowed⟩

end BuildableMap

/-! ## The drawn map -/

section Drawing

variable {T : Type} [Arithmetic F]

/-- The tiles of a layer are drawn at their coordinates, with the y axis turned around. -/
theorem TilesetHelper.renderTileLayer_positions {tilesets : List (Tileset F T)}
    {tileId : Int × Int → UInt32} {layer : MapLayer F} {spriteLayer : Nat}
    {outDrawList drawn : List (SpriteDrawRequest F T)}
    (executed : renderTileLayer tilesets tileId layer outDrawList spriteLayer = .ok drawn) :
    drawn.map SpriteDrawRequest.position = outDrawList.map SpriteDrawRequest.position ++
      layer.tileData.map fun tile => ⟨ofInt tile.1.1, ofInt tile.1.2 * -1⟩ := by
  refine foldlM_progress (fun tiles drawn => drawn.map SpriteDrawRequest.position =
    outDrawList.map SpriteDrawRequest.position ++
      tiles.map fun tile => (⟨ofInt tile.1.1, ofInt tile.1.2 * -1⟩ : Vec2 F)) executed ?_ ?_
  · rw [List.map_nil, List.append_nil]
  · intro tiles tile drawn drawn' _ positions stepped
    simp only [renderTile, bind_eq_ok, pure_eq_ok] at stepped
    rcases stepped with ⟨src, _, rfl⟩
    rw [List.map_append, positions, List.append_assoc, List.map_append]
    rfl

end Drawing

end Queries

/-! ## Loading -/

namespace BuildableMap

theorem toU32_width {width height : Nat} (size : width * height < 2 ^ 31) (rows : 0 < height) :
    toU32 width = width := by
  have := Nat.le_mul_of_pos_right width rows
  exact toU32_natCast (by omega)

/-- The dimensions are read as `u32`, which only matters for a map without tiles. -/
theorem toU32_size {width height : Nat} (size : width * height < 2 ^ 31) :
    toU32 width * toU32 height = width * height := by
  rcases Nat.eq_zero_or_pos width with rfl | columns
  · rw [Nat.zero_mul]
    exact Nat.zero_mul _
  rcases Nat.eq_zero_or_pos height with rfl | rows
  · rw [Nat.mul_zero]
    exact Nat.mul_zero _
  rw [toU32_width size rows, toU32_width (Nat.mul_comm width height ▸ size) columns]

section Loading

/-- What a map held before it is loaded does not matter. -/
theorem loadInto_eq (map : TiledMap F) (outMap : BuildableMap) :
    loadInto map outMap = load map := by
  simp only [loadInto, load, resize, List.take_nil, List.nil_append, List.length_nil, Nat.sub_zero]

/-- Loading fills the grid from the tiles of the base layer. -/
theorem loadInto_holds {map : TiledMap F} {baseLayer : MapLayer F} {width height : Nat}
    (isSize : map.size = (↑width, ↑height)) (size : width * height < 2 ^ 31)
    (found : map.requireLayer "Base" .tileLayer = .ok baseLayer)
    (inside : ∀ tile ∈ baseLayer.tileData, ∃ x y : Nat,
      x < toU32 width ∧ y < toU32 height ∧ tile.1 = (↑x, ↑y))
    (distinct : (baseLayer.tileData.map Prod.fst).Nodup) (outMap : BuildableMap) :
    ∃ loaded, loadInto map outMap = .ok loaded ∧
      Holds (toU32 width) (toU32 height) baseLayer.tileData loaded := by
  have sameSize := toU32_size size
  have fresh : Holds (F := F) (toU32 width) (toU32 height) []
      { width := toU32 width
        height := toU32 height
        grid := List.replicate ((width : Int) * height).toNat 0 } := by
    refine ⟨rfl, rfl, ?_, ?_⟩
    · rw [List.length_replicate, sameSize, ← Int.natCast_mul, Int.toNat_natCast]
    · intro x y _ _
      refine iff_of_false ?_ ?_
      · rw [List.getElem?_replicate]
        split <;> simp
      · rintro ⟨tile, member, _⟩
        exact absurd member List.not_mem_nil
  obtain ⟨loaded, executed, holds⟩ := fresh.loadTiles (sameSize ▸ size) inside distinct
  refine ⟨loaded, ?_, holds⟩
  rw [loadInto_eq, load, isSize, bind_eq_ok]
  exact ⟨baseLayer, found, executed⟩

end Loading

/-- Building is looked up on the drawn map.  Whatever the object held, a map whose base
layer has its tiles on the map is loaded, a query stays inside the grid, and it is true
exactly where a tile that allows building is drawn at the integer point that is nearest
to the position. -/
theorem query_loaded [Field F] [LinearOrder F] [IsStrictOrderedRing F] [Glm F]
    (exact : ExactTrunc F) (map : TiledMap F) (baseLayer : MapLayer F) (width height : Nat)
    (isSize : map.size = (↑width, ↑height)) (size : width * height < 2 ^ 31)
    (found : map.requireLayer "Base" .tileLayer = .ok baseLayer)
    (inside : ∀ tile ∈ baseLayer.tileData,
      0 ≤ tile.1.1 ∧ tile.1.1 < width ∧ 0 ≤ tile.1.2 ∧ tile.1.2 < height)
    (distinct : (baseLayer.tileData.map Prod.fst).Nodup) (outMap : BuildableMap) :
    ∃ loaded, loadInto map outMap = .ok loaded ∧
      (∀ position : Vec2 F, -2 ^ 31 ≤ position.x ∧ position.x ≤ 2 ^ 31 - 1 →
        -2 ^ 31 ≤ position.y ∧ position.y ≤ 2 ^ 31 - 1 →
        ∃ buildable, loaded.query position = .ok buildable ∧
          (buildable = true ↔ ∃ tile ∈ baseLayer.tileData,
            getBool tile.2 "BuildingAllowed" = true ∧ OnTile position tile.1)) ∧
      ∀ (T : Type) (tilesets : List (Tileset F T)) (tileId : Int × Int → UInt32)
        (drawList drawn : List (SpriteDrawRequest F T)) (spriteLayer : Nat),
        TilesetHelper.renderTileLayer tilesets tileId baseLayer drawList spriteLayer = .ok drawn →
        drawn.map SpriteDrawRequest.position = drawList.map SpriteDrawRequest.position ++
          baseLayer.tileData.map fun tile => ⟨tile.1.1, ((-tile.1.2 : Int) : F)⟩ := by
  have located : ∀ tile ∈ baseLayer.tileData, ∃ x y : Nat,
      x < toU32 width ∧ y < toU32 height ∧ tile.1 = (↑x, ↑y) := by
    intro tile member
    obtain ⟨left, right, top, bottom⟩ := inside tile member
    have columns : 0 < width := by omega
    have rows : 0 < height := by omega
    refine ⟨tile.1.1.toNat, tile.1.2.toNat, ?_, ?_, ?_⟩
    · rw [toU32_width size rows]
      omega
    · rw [toU32_width (Nat.mul_comm width height ▸ size) columns]
      omega
    · rw [Int.toNat_of_nonneg left, Int.toNat_of_nonneg top]
  obtain ⟨loaded, executed, holds⟩ := loadInto_holds isSize size found located distinct outMap
  refine ⟨loaded, executed, fun position rangeX rangeY => ?_, ?_⟩
  · exact holds.query (toU32_size size ▸ size) located exact rangeX rangeY
  · intro T tilesets tileId drawList drawn spriteLayer drawing
    rw [TilesetHelper.renderTileLayer_positions drawing]
    congr 2
    funext tile
    apply Vec2.ext
    · rfl
    · show (tile.1.2 : F) * -1 = _
      rw [mul_neg_one, Int.cast_neg]

end BuildableMap

section Example

open Rational

/-- A map of two tiles, the lower one of which allows building. -/
def Rational.twoTiles : TiledMap ℚ where
  size := (1, 2)
  tileSize := (16, 16)
  layers :=
    [{ name := "Base"
       type := .tileLayer
       objects := []
       tileData := [((0, 0), []), ((0, 1), [("BuildingAllowed", .bool true)])] }]

/-- Halfway between the two tiles, the one that is farther from zero is asked for. -/
theorem twoTiles_border : ∃ loaded,
    BuildableMap.loadInto twoTiles meadow.buildableMap = .ok loaded ∧
      loaded.query (⟨0, -1 / 2⟩ : Vec2 ℚ) = .ok true := by
  obtain ⟨loaded, executed, queries, _⟩ := BuildableMap.query_loaded Rational.exactTrunc twoTiles
    _ 1 2 rfl (by decide) rfl (by decide) (by decide) meadow.buildableMap
  obtain ⟨buildable, queried, isAllowed⟩ := queries ⟨0, -1 / 2⟩ (by norm_num) (by norm_num)
  have onTile : BuildableMap.OnTile (⟨0, -1 / 2⟩ : Vec2 ℚ) (0, 1) := by
    constructor
    · left
      norm_num
    · right
      norm_num [abs_of_neg]
  have allowed : buildable = true :=
    isAllowed.mpr ⟨_, List.mem_cons_of_mem _ List.mem_cons_self, rfl, onTile⟩
  exact ⟨loaded, executed, allowed ▸ queried⟩

end Example

end TowerDefence
