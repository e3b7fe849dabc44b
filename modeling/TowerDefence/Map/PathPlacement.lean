import TowerDefence.Map.Buildable
import TowerDefence.Map.Distances

/-!
# Where a path is placed

The editor shows the vertices of a path in its pixels, whose y axis points downwards, and
turns them clockwise around the position of the path.  Loading turns the y axis around
before it rotates, but not the sense of the rotation.
-/

namespace TowerDefence

open Foundations

variable {F : Type} [Field F] [LinearOrder F] [IsStrictOrderedRing F]

/-- The point of the world at a pixel of the editor. -/
def TiledMap.pixelToWorld (map : TiledMap F) (pixel : Vec2 F) : Vec2 F :=
  ⟨pixel.x / map.tileSize.1 - literal 0.5, -(pixel.y / map.tileSize.2) + literal 0.5⟩

/-- The world is placed so that a tile is drawn at its centre. -/
theorem TiledMap.pixelToWorld_centre {map : TiledMap F} (width : map.tileSize.1 ≠ 0)
    (height : map.tileSize.2 ≠ 0) (tile : Int × Int) :
    map.pixelToWorld ⟨(tile.1 + 1 / 2) * map.tileSize.1, (tile.2 + 1 / 2) * map.tileSize.2⟩ =
      ⟨tile.1, ((-tile.2 : Int) : F)⟩ := by
  have width : (map.tileSize.1 : F) ≠ 0 := Int.cast_ne_zero.mpr width
  have height : (map.tileSize.2 : F) ≠ 0 := Int.cast_ne_zero.mpr height
  rw [pixelToWorld, literal_half, mul_div_cancel_right₀ _ width, mul_div_cancel_right₀ _ height,
    Int.cast_neg]
  apply Vec2.ext
  · exact add_sub_cancel_right _ _
  · show -((tile.2 : F) + 1 / 2) + 1 / 2 = -tile.2
    ring

namespace EnemyPath

variable [Glm F]

/-- The pixel at which the editor shows a vertex: the y axis points downwards, so that
this rotation is a clockwise one. -/
def editorPixel (object : MapObject F) (point : Int × Int) : Vec2 F :=
  let angle := Glm.radians object.rotation
  ⟨object.position.1 + (Glm.cos angle * point.1 - Glm.sin angle * point.2),
    object.position.2 + (Glm.sin angle * point.1 + Glm.cos angle * point.2)⟩

/-- How far a waypoint is from where the editor shows its vertex. -/
theorem loadWaypoint_eq {map : TiledMap F} {object : MapObject F}
    (square : map.tileSize.1 = map.tileSize.2) (point : Int × Int) :
    loadWaypoint map object point =
      map.pixelToWorld (editorPixel object point) +
        (⟨point.2, point.1⟩ : Vec2 F) *
          (2 * Glm.sin (Glm.radians object.rotation) / (map.tileSize.1 : F)) := by
  rw [loadWaypoint, TiledMap.pixelToWorld, editorPixel, ← square, literal_half]
  dsimp only
  generalize Glm.cos (Glm.radians object.rotation) = c
  generalize Glm.sin (Glm.radians object.rotation) = s
  apply Vec2.ext
  · simp only [Vec2.add_x, Vec2.mul_x]
    show c * ((point.1 : F) / (map.tileSize.1 : F)) -
      s * ((point.2 : F) / (map.tileSize.1 : F) * -1) +
      ((object.position.1 : F) / (map.tileSize.1 : F) - 1 / 2) = _
    ring
  · simp only [Vec2.add_y, Vec2.mul_y]
    show s * ((point.1 : F) / (map.tileSize.1 : F)) +
      c * ((point.2 : F) / (map.tileSize.1 : F) * -1) +
      ((object.position.2 : F) / (map.tileSize.1 : F) * -1 + 1 / 2) = _
    ring

/-- A waypoint is where the editor shows its vertex exactly when the rotation does not
move the vertex, or turns it by half a circle. -/
theorem loadWaypoint_iff {map : TiledMap F} {object : MapObject F} (positive : 0 < map.tileSize.1)
    (square : map.tileSize.1 = map.tileSize.2) (point : Int × Int) :
    loadWaypoint map object point = map.pixelToWorld (editorPixel object point) ↔
      Glm.sin (Glm.radians object.rotation) = 0 ∨ point = (0, 0) := by
  have width : (map.tileSize.1 : F) ≠ 0 := Int.cast_ne_zero.mpr positive.ne'
  have noScale : 2 * Glm.sin (Glm.radians object.rotation) / (map.tileSize.1 : F) = 0 ↔
      Glm.sin (Glm.radians object.rotation) = 0 := by
    rw [div_eq_zero_iff, or_iff_left width, mul_eq_zero, or_iff_right two_ne_zero]
  rw [loadWaypoint_eq square, Vec2.ext_iff, Vec2.add_x, Vec2.add_y, add_eq_left, add_eq_left,
    Vec2.mul_x, Vec2.mul_y, mul_eq_zero, mul_eq_zero, noScale, Int.cast_eq_zero, Int.cast_eq_zero,
    Prod.ext_iff]
  tauto

/-- Every path that is loaded from a map with square tiles is placed where the editor
shows it exactly when its rotation has no sine, or all its vertices are at its position.
The pixels of the editor are those in which a tile is drawn at its centre. -/
theorem load_placed_iff (map : TiledMap F) (pathLayer : MapLayer F) (object : MapObject F)
    (others : List (MapObject F)) (found : map.requireLayer "Paths" .objectGroup = .ok pathLayer)
    (polylines : pathLayer.getObjectsByType .polyline = object :: others)
    (positive : 0 < map.tileSize.1) (square : map.tileSize.1 = map.tileSize.2)
    (outPath : EnemyPath F) :
    (∀ tile : Int × Int,
      map.pixelToWorld ⟨(tile.1 + 1 / 2) * map.tileSize.1, (tile.2 + 1 / 2) * map.tileSize.2⟩ =
        (⟨tile.1, ((-tile.2 : Int) : F)⟩ : Vec2 F)) ∧
    (CounterFits object.polylines.length → ∃ path, load map outPath = .ok path) ∧
    ∀ path, load map outPath = .ok path →
      (path.waypoints =
          object.polylines.map (fun point => map.pixelToWorld (editorPixel object point)) ↔
        Glm.sin (Glm.radians object.rotation) = 0 ∨ ∀ point ∈ object.polylines, point = (0, 0)) := by
  refine ⟨map.pixelToWorld_centre positive.ne' (square ▸ positive.ne'), fun fits => ?_,
    fun path loaded => ?_⟩
  · obtain ⟨path, loaded, _⟩ := load_succeeds found polylines fits outPath
    exact ⟨path, loaded⟩
  obtain ⟨pathLayer', object', others', found', polylines', waypoints, _⟩ := load_eq_ok loaded
  cases found.symm.trans found'
  cases polylines.symm.trans polylines'
  rw [waypoints, List.map_inj_left]
  simp only [loadWaypoint_iff positive square]
  constructor
  · intro placed
    by_cases turned : Glm.sin (Glm.radians object.rotation) = 0
    case pos => exact .inl turned
    case neg => exact .inr fun point member => (placed point member).resolve_left turned
  · rintro (straight | still) point member
    · exact .inl straight
    · exact .inr (still point member)

end EnemyPath

/-! ## A turned path -/

section Example

open Rational

/-- The meadow with its path turned by a quarter of a circle. -/
def Rational.turnedMap : TiledMap ℚ :=
  { meadowMap with
    layers := meadowMap.layers.map fun layer =>
      { layer with objects := layer.objects.map fun object => { object with rotation := 90 } } }

/-- The vertices of the path of a map, at the places where the editor shows them. -/
def Rational.shownPath (map : TiledMap ℚ) : List (Vec2 ℚ) :=
  match map.requireLayer "Paths" .objectGroup with
  | .ok pathLayer => (pathLayer.getObjectsByType .polyline).flatMap fun object =>
      object.polylines.map fun point => map.pixelToWorld (EnemyPath.editorPixel object point)
  | .error _ => []

/-- The path of the meadow leads where the editor shows it. -/
theorem meadow_placed : ∃ path, EnemyPath.load meadowMap meadow.enemyPath = .ok path ∧
    path.waypoints = shownPath meadowMap := by
  obtain ⟨_, loads, placed⟩ := EnemyPath.load_placed_iff meadowMap _ _ _ rfl rfl (by decide)
    rfl meadow.enemyPath
  obtain ⟨path, loaded⟩ := loads (by decide)
  exact ⟨path, loaded, (placed path loaded).mpr (.inl (by decide +kernel))⟩

/-- A path that the editor shows to lead downwards is loaded to lead upwards. -/
theorem turned_path_upwards : ∃ path,
    EnemyPath.load turnedMap { debugName := "", waypoints := [], distancesToGoal := [] } =
      .ok path ∧
    path.waypoints = [⟨0, 0⟩, ⟨0, 100⟩] ∧ shownPath turnedMap = [⟨0, 0⟩, ⟨0, -100⟩] := by
  obtain ⟨path, loaded, checked⟩ := exists_ok_of_succeedsWith
    (EnemyPath.load turnedMap { debugName := "", waypoints := [], distancesToGoal := [] })
    (fun path => decide (path.waypoints = [⟨0, 0⟩, ⟨0, 100⟩] ∧
      shownPath turnedMap = [⟨0, 0⟩, ⟨0, -100⟩])) (by decide +kernel)
  obtain ⟨waypoints, shown⟩ := of_decide_eq_true checked
  exact ⟨path, loaded, waypoints, shown⟩

end Example

end TowerDefence
