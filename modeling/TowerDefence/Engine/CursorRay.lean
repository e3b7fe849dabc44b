import TowerDefence.Engine.Snapping

/-!
# The cursor ray

`NewFrame` divides the cursor by the entries of the projection and then applies the view,
where `ScreenPointToWorld` applies the inverse of the view-projection.  The view moves the
world by the position of the camera, its inverse moves it back.
-/

namespace TowerDefence

section Exact

variable {F : Type} [Field F] [LinearOrder F] [IsStrictOrderedRing F] [Glm F]

/-! ## Snapping -/

/-- Only a value below one in size is truncated to zero. -/
theorem ExactTrunc.eq_zero_iff (exact : ExactTrunc F) (value : F) :
    Glm.trunc value = 0 ↔ |value| < 1 := by
  rcases le_total 0 value with nonneg | nonpos
  · rw [abs_of_nonneg nonneg]
    constructor
    · intro truncated
      obtain ⟨whole, isWhole, _, below⟩ := exact.of_nonneg value nonneg
      rwa [← isWhole, truncated, zero_add] at below
    · intro small
      have none : Glm.trunc value = (0 : Int) :=
        exact.eq_of_nonneg nonneg (by simpa using nonneg) (by simpa using small)
      rw [none, Int.cast_zero]
  · rw [abs_of_nonpos nonpos]
    constructor
    · intro truncated
      obtain ⟨whole, isWhole, below, _⟩ := exact.of_nonpos value nonpos
      rw [← isWhole, truncated] at below
      linarith
    · intro small
      have above : ((0 : Int) : F) - 1 < value := by
        rw [Int.cast_zero]
        linarith
      have none : Glm.trunc value = (0 : Int) :=
        exact.eq_of_nonpos nonpos above (by simpa using nonpos)
      rw [none, Int.cast_zero]

/-- The camera is at the origin, or less than a pixel away from it when it snaps to
pixels. -/
def Camera.AtOrigin (camera : Camera F) : Prop :=
  if camera.snapToPixel then
    |camera.position.x * camera.pixelsPerUnit| < 1 ∧ |camera.position.y * camera.pixelsPerUnit| < 1
  else
    camera.position = 0

/-- The view is centered on the origin exactly if the camera is there. -/
theorem Camera.snappedPosition_eq_zero_iff (exact : ExactTrunc F) {camera : Camera F}
    (visible : camera.Visible) : camera.snappedPosition = 0 ↔ camera.AtOrigin := by
  have unit : 1 / camera.pixelsPerUnit ≠ 0 := (one_div_pos.mpr visible.pixelsPerUnit).ne'
  have snapped : ∀ value : F, Glm.trunc (value / (1 / camera.pixelsPerUnit)) *
      (1 / camera.pixelsPerUnit) = 0 ↔ |value * camera.pixelsPerUnit| < 1 := by
    intro value
    rw [mul_eq_zero_iff_right unit, exact.eq_zero_iff, div_div_eq_mul_div, div_one]
  rw [snappedPosition, AtOrigin]
  split
  · rw [Vec2.ext_iff]
    exact and_congr (snapped camera.position.x) (snapped camera.position.y)
  · exact Iff.rfl

/-! ## The two ways from the screen to the world -/

section CursorRay

variable [GlmTransform F] {camera : Camera F} {screenX screenY : UInt32}

/-- The origin of the cursor ray, in the plane of the world. -/
def UIBindings.cursorRayPoint (camera : Camera F) (screenX screenY : UInt32) : Vec2 F :=
  let ray := (UIBindings.newFrame camera.windowDimensions camera
    (screenX.toNat, screenY.toNat)).cursorRayOrigin
  ⟨ray.x, ray.y⟩

/-- The offset of the cursor from the center of the window is moved by the position of the
camera in the two directions. -/
theorem UIBindings.cursorRayPoint_eq (exact : ExactTransform F) (visible : camera.Visible)
    (inside : screenY ≤ camera.windowDimensions.y) :
    ∃ offset : Vec2 F, cursorRayPoint camera screenX screenY = offset - camera.snappedPosition ∧
      camera.screenPointToWorld screenX screenY = offset + camera.snappedPosition := by
  have height := (ofU32_pos (F := F) visible.height).ne'
  -- the y axis of the screen points down, that of the world up
  have flipped : (ofU32 (camera.windowDimensions.y - screenY) / ofU32 camera.windowDimensions.y *
      2 - 1 : F) = -(ofU32 screenY / ofU32 camera.windowDimensions.y * 2 - 1) := by
    rw [Camera.ofU32_sub inside, sub_div, div_self height]
    ring
  refine ⟨⟨(ofU32 screenX / ofU32 camera.windowDimensions.x * 2 - 1) / camera.scale.x,
    (ofU32 (camera.windowDimensions.y - screenY) / ofU32 camera.windowDimensions.y * 2 - 1) /
      camera.scale.y⟩, ?_, Camera.screenPointToWorld_eq exact visible screenX screenY⟩
  rw [cursorRayPoint, newFrame, Camera.getView_eq exact, Camera.getProjection_eq exact visible,
    literal_two, flipped]
  dsimp only
  rw [Mat4.scaleMove_mul]
  apply Vec2.ext
  · show 1 * ((ofU32 screenX / ofU32 camera.windowDimensions.x * 2 - 1) / camera.scale.x) +
      -camera.snappedPosition.x * 1 = _
    rw [one_mul, mul_one, ← sub_eq_add_neg]
    rfl
  · show 1 * (-(ofU32 screenY / ofU32 camera.windowDimensions.y * 2 - 1) / camera.scale.y) +
      -camera.snappedPosition.y * 1 = _
    rw [one_mul, mul_one, ← sub_eq_add_neg]
    rfl

/-- The cursor ray starts where `ScreenPointToWorld` finds the cursor exactly if the camera
is at the origin. -/
theorem UIBindings.cursorRay_iff (exact : ExactTransform F) (exactTrunc : ExactTrunc F)
    (visible : camera.Visible) (inside : screenY ≤ camera.windowDimensions.y) :
    cursorRayPoint camera screenX screenY = camera.screenPointToWorld screenX screenY ↔
      camera.AtOrigin := by
  obtain ⟨offset, ray, world⟩ : ∃ offset : Vec2 F,
      cursorRayPoint camera screenX screenY = offset - camera.snappedPosition ∧
        camera.screenPointToWorld screenX screenY = offset + camera.snappedPosition :=
    cursorRayPoint_eq exact visible inside
  have agree : ∀ center moved : F, center - moved = center + moved ↔ moved = 0 := by
    intro center moved
    constructor
    · intro same
      linarith
    · rintro rfl
      rw [sub_zero, add_zero]
  rw [← Camera.snappedPosition_eq_zero_iff exactTrunc visible, ray, world, Vec2.ext_iff,
    Vec2.ext_iff]
  exact and_congr (agree _ _) (agree _ _)

end CursorRay

end Exact

/-- Half a pixel away from the origin, the cursor ray starts at the cursor. -/
theorem UIBindings.cursorRay_snapped :
    cursorRayPoint Rational.snappedCamera 10 20 =
      Rational.snappedCamera.screenPointToWorld 10 20 := by
  have atOrigin : Rational.snappedCamera.AtOrigin := by
    have snaps : Rational.snappedCamera.snapToPixel = true := rfl
    rw [Camera.AtOrigin, if_pos snaps]
    norm_num [Rational.snappedCamera, Rational.camera, abs_of_pos]
  exact (UIBindings.cursorRay_iff Rational.exactTransform Rational.exactTrunc
    Rational.snappedCamera_visible (by decide)).mpr atOrigin

/-- A camera that is one unit to the right of the origin: the cursor ray starts two units to
the left of the cursor. -/
theorem UIBindings.cursorRay_mirrored :
    ¬∀ (camera : Camera ℚ) (screenX screenY : UInt32), camera.Visible →
      screenX ≤ camera.windowDimensions.x → screenY ≤ camera.windowDimensions.y →
      cursorRayPoint camera screenX screenY = camera.screenPointToWorld screenX screenY := by
  intro agree
  have same := agree Rational.camera 0 0 Rational.camera_visible (by decide) (by decide)
  obtain ⟨offset, ray, world⟩ : ∃ offset : Vec2 ℚ,
      cursorRayPoint Rational.camera 0 0 = offset - ⟨1, 0⟩ ∧
        Rational.camera.screenPointToWorld 0 0 = offset + ⟨1, 0⟩ :=
    cursorRayPoint_eq Rational.exactTransform Rational.camera_visible (by decide)
  rw [ray, world] at same
  have sameX : offset.x - 1 = offset.x + 1 := congrArg Vec2.x same
  linarith

end TowerDefence
