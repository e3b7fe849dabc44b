import Mathlib.Tactic.FieldSimp
import TowerDefence.Model.Transform

/-!
# Screen and world coordinates

The view-projection of a camera scales and moves the plane of the world, without
turning it.  `ScreenPointToWorld` and `WorldPointToScreen` go through this map in the
two directions.
-/

namespace TowerDefence

/-! ## Scaling and moving the plane -/

section Exact

variable {F : Type} [Field F] [LinearOrder F]

/-- Scale the plane and move it; the depth moves by one. -/
def Mat4.scaleMove (scale move : Vec2 F) : Mat4 F where
  c0 := ⟨scale.x, 0, 0, 0⟩
  c1 := ⟨0, scale.y, 0, 0⟩
  c2 := ⟨0, 0, 1, 0⟩
  c3 := ⟨move.x, move.y, 1, 1⟩

/-- Undo `Mat4.scaleMove`. -/
def Mat4.moveScale (scale move : Vec2 F) : Mat4 F where
  c0 := ⟨1 / scale.x, 0, 0, 0⟩
  c1 := ⟨0, 1 / scale.y, 0, 0⟩
  c2 := ⟨0, 0, 1, 0⟩
  c3 := ⟨-move.x / scale.x, -move.y / scale.y, -1, 1⟩

theorem Mat4.scaleMove_mul (scale move : Vec2 F) (v : Vec4 F) :
    scaleMove scale move * v = ⟨scale.x * v.x + move.x * v.w, scale.y * v.y + move.y * v.w,
      v.z + v.w, v.w⟩ := by
  ext <;> simp [scaleMove]

theorem Mat4.moveScale_mul (scale move : Vec2 F) (v : Vec4 F) :
    moveScale scale move * v = ⟨(v.x - move.x * v.w) / scale.x, (v.y - move.y * v.w) / scale.y,
      v.z - v.w, v.w⟩ := by
  ext
  · simp only [moveScale, mul_x]
    ring
  · simp only [moveScale, mul_y]
    ring
  · simp only [moveScale, mul_z]
    ring
  · simp only [moveScale, mul_w]
    ring

theorem Mat4.scaleMove_mul_moveScale {scale : Vec2 F} (move : Vec2 F) (scaleX : scale.x ≠ 0)
    (scaleY : scale.y ≠ 0) : scaleMove scale move * moveScale scale move = 1 := by
  have one : (1 : Mat4 F) = ⟨⟨1, 0, 0, 0⟩, ⟨0, 1, 0, 0⟩, ⟨0, 0, 1, 0⟩, ⟨0, 0, 0, 1⟩⟩ := rfl
  have moveX : scale.x * (-move.x / scale.x) + move.x = 0 := by
    rw [mul_div_cancel₀ _ scaleX, neg_add_cancel]
  have moveY : scale.y * (-move.y / scale.y) + move.y = 0 := by
    rw [mul_div_cancel₀ _ scaleY, neg_add_cancel]
  rw [mul_eq, one]
  simp only [scaleMove_mul, moveScale, mul_one_div_cancel scaleX, mul_one_div_cancel scaleY, moveX,
    moveY, mul_zero, mul_one, add_zero, neg_add_cancel]

/-- Scale the plane and keep the depth. -/
def Mat4.scale (scale : Vec2 F) : Mat4 F where
  c0 := ⟨scale.x, 0, 0, 0⟩
  c1 := ⟨0, scale.y, 0, 0⟩
  c2 := ⟨0, 0, 1, 0⟩
  c3 := ⟨0, 0, 0, 1⟩

theorem Mat4.scale_mul (scale : Vec2 F) (v : Vec4 F) :
    Mat4.scale scale * v = ⟨scale.x * v.x, scale.y * v.y, v.z, v.w⟩ := by
  ext <;> simp [Mat4.scale]

theorem Mat4.scale_mul_scaleMove (scale move : Vec2 F) :
    Mat4.scale scale * scaleMove ⟨1, 1⟩ move =
      scaleMove scale ⟨scale.x * move.x, scale.y * move.y⟩ := by
  rw [mul_eq]
  simp only [scale_mul, scaleMove, mul_one, mul_zero]

/-! ## The view-projection -/

/-- The camera shows something. -/
structure Camera.Visible (camera : Camera F) : Prop where
  pixelsPerUnit : 0 < camera.pixelsPerUnit
  width : 1 ≤ camera.windowDimensions.x
  height : 1 ≤ camera.windowDimensions.y

/-- The size of a world unit in a window of size two. -/
def Camera.scale (camera : Camera F) : Vec2 F :=
  ⟨literal 2 * camera.pixelsPerUnit / ofU32 camera.windowDimensions.x,
    literal 2 * camera.pixelsPerUnit / ofU32 camera.windowDimensions.y⟩

variable [IsStrictOrderedRing F]

theorem ofU32_pos {value : UInt32} (positive : 1 ≤ value) : (0 : F) < ofU32 value := by
  have number : 0 < value.toNat := UInt32.le_iff_toNat_le.mp positive
  exact Int.cast_pos.mpr (Int.natCast_pos.mpr number)

namespace Camera.Visible

variable {camera : Camera F}

theorem scale_pos (visible : camera.Visible) : 0 < camera.scale.x ∧ 0 < camera.scale.y := by
  have two : (0 : F) < literal 2 := literal_two (F := F) ▸ two_pos
  exact ⟨div_pos (mul_pos two visible.pixelsPerUnit) (ofU32_pos visible.width),
    div_pos (mul_pos two visible.pixelsPerUnit) (ofU32_pos visible.height)⟩

end Camera.Visible

namespace Camera

variable [Glm F] [GlmTransform F] {camera : Camera F}

omit [IsStrictOrderedRing F] in
/-- The view only moves the world. -/
theorem getView_eq (exact : ExactTransform F) (camera : Camera F) :
    camera.getView =
      .scaleMove ⟨1, 1⟩ ⟨-camera.snappedPosition.x, -camera.snappedPosition.y⟩ := by
  have center : (⟨camera.snappedPosition.x, camera.snappedPosition.y, 0⟩ : Vec3 F) =
      ⟨camera.snappedPosition.x, camera.snappedPosition.y, -1⟩ + ⟨0, 0, 1⟩ := by
    ext <;> simp
  rw [getView, center, exact.lookAt _ _ _ (by simp [Vec3.dot]) (by simp [Vec3.dot])
    (by simp [Vec3.dot])]
  simp [Mat4.view, Mat4.scaleMove, Vec3.dot, Vec3.cross]

omit [Glm F] [GlmTransform F] in
/-- The edges of the projection. -/
theorem extent (size unitsPerPixel : F) :
    size * literal 0.5 * unitsPerPixel - size * -literal 0.5 * unitsPerPixel =
        size * unitsPerPixel ∧
      size * literal 0.5 * unitsPerPixel + size * -literal 0.5 * unitsPerPixel = 0 := by
  have half : (literal 0.5 : F) + literal 0.5 = 1 := by
    rw [literal_half, add_halves]
  constructor
  · calc
      _ = size * (literal 0.5 + literal 0.5) * unitsPerPixel := by ring
      _ = size * unitsPerPixel := by rw [half, mul_one]
  · ring

omit [Glm F] [GlmTransform F] in
/-- The scale that `ortho` derives from the edges. -/
theorem scale_of_extent {size pixelsPerUnit : F} (positive : 0 < size) (scale : 0 < pixelsPerUnit) :
    size * -literal 0.5 * (1 / pixelsPerUnit) ≠ size * literal 0.5 * (1 / pixelsPerUnit) ∧
      2 / (size * literal 0.5 * (1 / pixelsPerUnit) -
        size * -literal 0.5 * (1 / pixelsPerUnit)) = 2 * pixelsPerUnit / size := by
  have span := (extent size (1 / pixelsPerUnit)).1
  have nonzero : size * (1 / pixelsPerUnit) ≠ 0 :=
    (mul_pos positive (one_div_pos.mpr scale)).ne'
  constructor
  · intro same
    rw [same, sub_self] at span
    exact nonzero span.symm
  · rw [span]
    have sizeNonzero := positive.ne'
    have scaleNonzero := scale.ne'
    field_simp

omit [Glm F] in
/-- The projection only scales the world. -/
theorem getProjection_eq (exact : ExactTransform F) (visible : camera.Visible) :
    camera.getProjection = .scale camera.scale := by
  have width := ofU32_pos (F := F) visible.width
  have height := ofU32_pos (F := F) visible.height
  obtain ⟨apartX, scaleX⟩ := scale_of_extent width visible.pixelsPerUnit
  obtain ⟨apartY, scaleY⟩ := scale_of_extent height visible.pixelsPerUnit
  rw [getProjection, exact.ortho _ _ _ _ _ _ apartX apartY zero_ne_one, scaleX, scaleY,
    (extent _ _).2, (extent _ _).2]
  simp [Mat4.scale, Camera.scale, literal_two]

/-- The view-projection scales and moves the world. -/
theorem getViewProjection_eq (exact : ExactTransform F) (visible : camera.Visible) :
    camera.getViewProjection =
      .scaleMove camera.scale ⟨camera.scale.x * -camera.snappedPosition.x,
        camera.scale.y * -camera.snappedPosition.y⟩ := by
  rw [getViewProjection, getProjection_eq exact visible, getView_eq exact,
    Mat4.scale_mul_scaleMove]

/-! ## Screen to world and back -/

/-- Where a screen point is in the plane of the world. -/
theorem screenPointToWorld_eq (exact : ExactTransform F) (visible : camera.Visible)
    (screenX screenY : UInt32) :
    camera.screenPointToWorld screenX screenY =
      ⟨(ofU32 screenX / ofU32 camera.windowDimensions.x * 2 - 1) / camera.scale.x +
          camera.snappedPosition.x,
        (ofU32 (camera.windowDimensions.y - screenY) / ofU32 camera.windowDimensions.y * 2 - 1) /
          camera.scale.y + camera.snappedPosition.y⟩ := by
  obtain ⟨scaleX, scaleY⟩ := visible.scale_pos
  rw [screenPointToWorld, getViewProjection_eq exact visible,
    exact.inverse _ _ (Mat4.scaleMove_mul_moveScale _ scaleX.ne' scaleY.ne'),
    literal_two]
  dsimp only
  rw [Mat4.moveScale_mul]
  apply Vec2.ext
  · show (_ - camera.scale.x * -camera.snappedPosition.x * 1) / camera.scale.x = _
    rw [mul_one, mul_neg, sub_neg_eq_add, add_div, mul_div_cancel_left₀ _ scaleX.ne']
  · show (_ - camera.scale.y * -camera.snappedPosition.y * 1) / camera.scale.y = _
    rw [mul_one, mul_neg, sub_neg_eq_add, add_div, mul_div_cancel_left₀ _ scaleY.ne']

/-- Where a point of the world is on the screen. -/
theorem worldPointToScreen_eq (exact : ExactTransform F) (visible : camera.Visible)
    (world : Vec2 F) :
    camera.worldPointToScreen world =
      ⟨((world.x - camera.snappedPosition.x) * camera.scale.x + 1) / 2 *
          ofU32 camera.windowDimensions.x,
        (1 - ((world.y - camera.snappedPosition.y) * camera.scale.y + 1) / 2) *
          ofU32 camera.windowDimensions.y⟩ := by
  rw [worldPointToScreen, getViewProjection_eq exact visible, literal_half]
  dsimp only
  rw [Mat4.scaleMove_mul]
  apply Vec2.ext
  · show (camera.scale.x * world.x + camera.scale.x * -camera.snappedPosition.x * 1 + 1) * (1 / 2) *
      _ = _
    ring
  · show (1 - (camera.scale.y * world.y + camera.scale.y * -camera.snappedPosition.y * 1 + 1) *
      (1 / 2)) * _ = _
    ring

omit [IsStrictOrderedRing F] [Glm F] [GlmTransform F] in
theorem ofU32_sub {a b : UInt32} (le : b ≤ a) : (ofU32 (a - b) : F) = ofU32 a - ofU32 b := by
  have number := UInt32.le_iff_toNat_le.mp le
  rw [ofU32, UInt32.toNat_sub_of_le _ _ le, Int.ofNat_sub number]
  exact Int.cast_sub _ _

/-- The screen point of a world point of a screen point. -/
theorem worldPointToScreen_screenPointToWorld (exact : ExactTransform F)
    (visible : camera.Visible) {screenX screenY : UInt32}
    (inside : screenY ≤ camera.windowDimensions.y) :
    camera.worldPointToScreen (camera.screenPointToWorld screenX screenY) =
      ⟨ofU32 screenX, ofU32 screenY⟩ := by
  obtain ⟨scaleX, scaleY⟩ := visible.scale_pos
  have width := (ofU32_pos (F := F) visible.width).ne'
  have height := (ofU32_pos (F := F) visible.height).ne'
  rw [worldPointToScreen_eq exact visible, screenPointToWorld_eq exact visible, ofU32_sub inside]
  apply Vec2.ext
  · dsimp only
    rw [add_sub_cancel_right, div_mul_cancel₀ _ scaleX.ne']
    field_simp
    ring
  · dsimp only
    rw [add_sub_cancel_right, div_mul_cancel₀ _ scaleY.ne']
    field_simp
    ring

/-- The screen distance of two points of the world. -/
theorem worldPointToScreen_sub (exact : ExactTransform F) (visible : camera.Visible)
    (a b : Vec2 F) :
    camera.worldPointToScreen a - camera.worldPointToScreen b =
      ⟨(camera.worldUnitsToPixels₂ (a - b)).x, -(camera.worldUnitsToPixels₂ (a - b)).y⟩ := by
  have width := (ofU32_pos (F := F) visible.width).ne'
  have height := (ofU32_pos (F := F) visible.height).ne'
  rw [worldPointToScreen_eq exact visible, worldPointToScreen_eq exact visible]
  apply Vec2.ext
  · simp only [Vec2.sub_x, worldUnitsToPixels₂, worldUnitsToPixels, Camera.scale, literal_two]
    field_simp
    ring
  · simp only [Vec2.sub_y, worldUnitsToPixels₂, worldUnitsToPixels, Camera.scale, literal_two]
    field_simp
    ring

/-- Screen and world coordinates are inverse to each other: a screen point that is not
below the window is where its point of the world is shown, and differences between
points of the world are shown in pixels, with the y axis turned around. -/
theorem screen_world_inverse (exact : ExactTransform F) (visible : camera.Visible) :
    (∀ screenX screenY, screenY ≤ camera.windowDimensions.y →
      camera.worldPointToScreen (camera.screenPointToWorld screenX screenY) =
        ⟨ofU32 screenX, ofU32 screenY⟩) ∧
    ∀ a b, camera.worldPointToScreen a - camera.worldPointToScreen b =
      ⟨(camera.worldUnitsToPixels₂ (a - b)).x, -(camera.worldUnitsToPixels₂ (a - b)).y⟩ :=
  ⟨fun _ _ inside => worldPointToScreen_screenPointToWorld exact visible inside,
    worldPointToScreen_sub exact visible⟩

end Camera

end Exact

/-- A camera to the right of the origin. -/
def Rational.camera : Camera ℚ where
  position := ⟨1, 0⟩
  pixelsPerUnit := 16
  snapToPixel := false
  windowDimensions := ⟨640, 480⟩

theorem Rational.camera_visible : Rational.camera.Visible :=
  ⟨by norm_num [camera], by decide, by decide⟩

theorem Camera.screen_world_example :
    Rational.camera.worldPointToScreen (Rational.camera.screenPointToWorld 10 20) = ⟨10, 20⟩ :=
  (screen_world_inverse Rational.exactTransform Rational.camera_visible).1 10 20 (by decide)

end TowerDefence
