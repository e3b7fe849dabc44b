import TowerDefence.Engine.Camera

/-!
# Snapping to pixels

`GetView` cuts the fraction off the position of the camera in pixels.  Cutting rounds towards
the origin, so the pixel grid of the view is regular on either side of the origin only.
-/

namespace TowerDefence

section Exact

variable {F : Type} [Field F] [LinearOrder F] [IsStrictOrderedRing F] [Glm F]

/-! ## Truncation -/

section Trunc

variable {value : F} {whole : Int}

omit [Glm F] in
/-- Only one whole number is left of a value without its fraction. -/
theorem whole_unique {other : Int} (atLeast : (whole : F) ≤ value) (below : value < whole + 1)
    (otherAtLeast : (other : F) ≤ value) (otherBelow : value < other + 1) : whole = other := by
  have first : (whole : F) < (other + 1 : Int) := by
    rw [Int.cast_add, Int.cast_one]
    exact atLeast.trans_lt otherBelow
  have second : (other : F) < (whole + 1 : Int) := by
    rw [Int.cast_add, Int.cast_one]
    exact otherAtLeast.trans_lt below
  have upper := Int.cast_lt.mp first
  have lower := Int.cast_lt.mp second
  omega

omit [Glm F] in
/-- Only one whole number is the next one from a value on. -/
theorem whole_unique_above {other : Int} (above : (whole : F) - 1 < value) (atMost : value ≤ whole)
    (otherAbove : (other : F) - 1 < value) (otherAtMost : value ≤ other) : whole = other := by
  have first : (whole : F) < (other + 1 : Int) := by
    rw [Int.cast_add, Int.cast_one]
    exact (sub_lt_iff_lt_add.mp above).trans_le (add_le_add_left otherAtMost 1)
  have second : (other : F) < (whole + 1 : Int) := by
    rw [Int.cast_add, Int.cast_one]
    exact (sub_lt_iff_lt_add.mp otherAbove).trans_le (add_le_add_left atMost 1)
  have upper := Int.cast_lt.mp first
  have lower := Int.cast_lt.mp second
  omega

theorem ExactTrunc.eq_of_nonneg (exact : ExactTrunc F) (nonneg : 0 ≤ value)
    (atLeast : (whole : F) ≤ value) (below : value < whole + 1) : Glm.trunc value = whole := by
  obtain ⟨other, truncated, otherAtLeast, otherBelow⟩ := exact.of_nonneg value nonneg
  rw [truncated, whole_unique atLeast below otherAtLeast otherBelow]

theorem ExactTrunc.eq_of_nonpos (exact : ExactTrunc F) (nonpos : value ≤ 0)
    (above : (whole : F) - 1 < value) (atMost : value ≤ whole) : Glm.trunc value = whole := by
  obtain ⟨other, truncated, otherAbove, otherAtMost⟩ := exact.of_nonpos value nonpos
  rw [truncated, whole_unique_above above atMost otherAbove otherAtMost]

theorem ExactTrunc.int (exact : ExactTrunc F) (whole : Int) : Glm.trunc (whole : F) = whole := by
  rcases le_total 0 (whole : F) with nonneg | nonpos
  · exact exact.eq_of_nonneg nonneg le_rfl (lt_add_one _)
  · exact exact.eq_of_nonpos nonpos (sub_one_lt _) le_rfl

/-- A step of whole pixels keeps to the pixel grid: it starts on the grid, or stays on one side
of the origin. -/
def KeepsToGrid (pixel : F) (step : Int) : Prop :=
  (∃ whole : Int, pixel = whole) ∨ 0 ≤ pixel ∧ 0 ≤ pixel + step ∨ pixel ≤ 0 ∧ pixel + step ≤ 0

theorem KeepsToGrid.trunc_add (exact : ExactTrunc F) {pixel : F} {step : Int}
    (keeps : KeepsToGrid pixel step) : Glm.trunc (pixel + step) = Glm.trunc pixel + step := by
  rcases keeps with ⟨whole, rfl⟩ | ⟨from0, to0⟩ | ⟨from0, to0⟩
  · rw [← Int.cast_add, exact.int, exact.int, Int.cast_add]
  · obtain ⟨whole, truncated, atLeast, below⟩ := exact.of_nonneg pixel from0
    rw [truncated, ← Int.cast_add]
    apply exact.eq_of_nonneg to0
    · rw [Int.cast_add]
      linarith
    · rw [Int.cast_add]
      linarith
  · obtain ⟨whole, truncated, above, atMost⟩ := exact.of_nonpos pixel from0
    rw [truncated, ← Int.cast_add]
    apply exact.eq_of_nonpos to0
    · rw [Int.cast_add]
      linarith
    · rw [Int.cast_add]
      linarith

/-- Truncation takes a whole step with a value exactly if the step keeps to the grid. -/
theorem ExactTrunc.add_int_iff (exact : ExactTrunc F) (pixel : F) (step : Int) :
    Glm.trunc (pixel + step) = Glm.trunc pixel + step ↔ KeepsToGrid pixel step := by
  refine ⟨fun together => ?_, KeepsToGrid.trunc_add exact⟩
  rcases le_total 0 pixel with right | left
  · rcases le_total 0 (pixel + step) with toRight | toLeft
    · exact .inr (.inl ⟨right, toRight⟩)
    · -- across the origin the fraction would be cut off on the other side
      obtain ⟨whole, truncated, atLeast, _⟩ := exact.of_nonneg pixel right
      obtain ⟨moved, truncatedMoved, _, atMost⟩ := exact.of_nonpos (pixel + step) toLeft
      rw [truncated, truncatedMoved] at together
      exact .inl ⟨whole, by linarith⟩
  · rcases le_total 0 (pixel + step) with toRight | toLeft
    · obtain ⟨whole, truncated, _, atMost⟩ := exact.of_nonpos pixel left
      obtain ⟨moved, truncatedMoved, atLeast, _⟩ := exact.of_nonneg (pixel + step) toRight
      rw [truncated, truncatedMoved] at together
      exact .inl ⟨whole, by linarith⟩
    · exact .inr (.inr ⟨left, toLeft⟩)

end Trunc

/-! ## Moving the camera -/

section Moving

variable [GlmTransform F] {camera : Camera F} {world : Vec2 F} {step : Int}

omit [IsStrictOrderedRing F] [Glm F] [GlmTransform F] in
/-- The camera, moved by some pixels. -/
def Camera.movedBy (camera : Camera F) (pixels : Vec2 F) : Camera F :=
  { camera with position := camera.position + pixels / camera.pixelsPerUnit }

/-- A point of the world stays where it is on a screen that moves by whole pixels. -/
structure Camera.ShiftsByPixels (camera : Camera F) (world : Vec2 F) (step : Int) : Prop where
  alongX : (camera.movedBy ⟨step, 0⟩).worldPointToScreen world =
    camera.worldPointToScreen world + ⟨-step, 0⟩
  alongY : (camera.movedBy ⟨0, step⟩).worldPointToScreen world =
    camera.worldPointToScreen world + ⟨0, step⟩

/-- Where a point of the world is on the screen of a camera that snaps to pixels. -/
theorem Camera.worldPointToScreen_snapped (exact : ExactTransform F) (visible : camera.Visible)
    (snaps : camera.snapToPixel = true) (world : Vec2 F) :
    camera.worldPointToScreen world =
      ⟨ofU32 camera.windowDimensions.x / 2 + world.x * camera.pixelsPerUnit -
          Glm.trunc (camera.position.x * camera.pixelsPerUnit),
        ofU32 camera.windowDimensions.y / 2 - world.y * camera.pixelsPerUnit +
          Glm.trunc (camera.position.y * camera.pixelsPerUnit)⟩ := by
  have width := (ofU32_pos (F := F) visible.width).ne'
  have height := (ofU32_pos (F := F) visible.height).ne'
  have unit := visible.pixelsPerUnit.ne'
  rw [worldPointToScreen_eq exact visible, snappedPosition, if_pos snaps, div_div_eq_mul_div,
    div_div_eq_mul_div, div_one, div_one]
  apply Vec2.ext
  · simp only [Camera.scale, literal_two]
    field_simp
    ring
  · simp only [Camera.scale, literal_two]
    field_simp
    ring

theorem Camera.worldPointToScreen_movedBy (exact : ExactTransform F) (visible : camera.Visible)
    (snaps : camera.snapToPixel = true) (world pixels : Vec2 F) :
    (camera.movedBy pixels).worldPointToScreen world =
      ⟨ofU32 camera.windowDimensions.x / 2 + world.x * camera.pixelsPerUnit -
          Glm.trunc (camera.position.x * camera.pixelsPerUnit + pixels.x),
        ofU32 camera.windowDimensions.y / 2 - world.y * camera.pixelsPerUnit +
          Glm.trunc (camera.position.y * camera.pixelsPerUnit + pixels.y)⟩ := by
  have visibleMoved : (camera.movedBy pixels).Visible :=
    ⟨visible.pixelsPerUnit, visible.width, visible.height⟩
  have unit := visible.pixelsPerUnit.ne'
  rw [worldPointToScreen_snapped exact visibleMoved snaps]
  simp only [movedBy, Vec2.add_x, Vec2.add_y, Vec2.div_x, Vec2.div_y, add_mul,
    div_mul_cancel₀ _ unit]

/-- The screen moves by whole pixels exactly if the camera keeps to the pixel grid in both
directions. -/
theorem Camera.shiftsByPixels_iff_of_visible (exact : ExactTransform F)
    (exactTrunc : ExactTrunc F) (visible : camera.Visible) (snaps : camera.snapToPixel = true) :
    camera.ShiftsByPixels world step ↔
      KeepsToGrid (camera.position.x * camera.pixelsPerUnit) step ∧
        KeepsToGrid (camera.position.y * camera.pixelsPerUnit) step := by
  rw [← exactTrunc.add_int_iff, ← exactTrunc.add_int_iff]
  have still := worldPointToScreen_snapped exact visible snaps world
  have movedX := worldPointToScreen_movedBy exact visible snaps world ⟨step, 0⟩
  have movedY := worldPointToScreen_movedBy exact visible snaps world ⟨0, step⟩
  constructor
  · rintro ⟨alongX, alongY⟩
    rw [still, movedX] at alongX
    rw [still, movedY] at alongY
    have onX := congrArg Vec2.x alongX
    have onY := congrArg Vec2.y alongY
    simp only [Vec2.add_x, Vec2.add_y] at onX onY
    exact ⟨by linarith, by linarith⟩
  · rintro ⟨onX, onY⟩
    constructor
    · rw [still, movedX, onX, add_zero]
      apply Vec2.ext
      · simp only [Vec2.add_x]
        ring
      · simp only [Vec2.add_y]
        ring
    · rw [still, movedY, onY, add_zero]
      apply Vec2.ext
      · simp only [Vec2.add_x]
        ring
      · simp only [Vec2.add_y]
        ring

/-- A window without an extent shows every point in the same place. -/
theorem Camera.ShiftsByPixels.visible (shifts : camera.ShiftsByPixels world step)
    (positive : 0 < camera.pixelsPerUnit) (moves : step ≠ 0) : camera.Visible := by
  have nonzero : (step : F) ≠ 0 := Int.cast_ne_zero.mpr moves
  have noExtent : ∀ extent : UInt32, ¬1 ≤ extent → (ofU32 extent : F) = 0 := by
    intro extent none
    have isZero : extent.toNat = 0 := by
      rw [UInt32.le_iff_toNat_le] at none
      exact Nat.lt_one_iff.mp (not_le.mp none)
    rw [ofU32, isZero]
    exact Int.cast_zero
  refine ⟨positive, ?_, ?_⟩
  · by_contra none
    have onX := congrArg Vec2.x shifts.alongX
    simp only [worldPointToScreen, movedBy, Vec2.add_x, noExtent _ none, mul_zero, zero_add]
      at onX
    exact nonzero (neg_eq_zero.mp onX.symm)
  · by_contra none
    have onY := congrArg Vec2.y shifts.alongY
    simp only [worldPointToScreen, movedBy, Vec2.add_y, noExtent _ none, mul_zero, zero_add]
      at onY
    exact nonzero onY.symm

omit [IsStrictOrderedRing F] in
theorem Camera.shiftsByPixels_zero (camera : Camera F) (world : Vec2 F) :
    camera.ShiftsByPixels world 0 := by
  have still : camera.movedBy ⟨0, 0⟩ = camera := by
    rw [movedBy]
    congr 1
    apply Vec2.ext
    · rw [Vec2.add_x, Vec2.div_x, zero_div, add_zero]
    · rw [Vec2.add_y, Vec2.div_y, zero_div, add_zero]
  constructor
  · rw [Int.cast_zero, still]
    apply Vec2.ext
    · rw [Vec2.add_x, neg_zero, add_zero]
    · rw [Vec2.add_y, add_zero]
  · rw [Int.cast_zero, still]
    apply Vec2.ext
    · rw [Vec2.add_x, add_zero]
    · rw [Vec2.add_y, add_zero]

/-- The screen of a camera that snaps to pixels moves by the pixels that the camera moves
exactly if there are none, or the window has an extent and the camera keeps to the pixel grid in
both directions. -/
theorem Camera.shiftsByPixels_iff (exact : ExactTransform F) (exactTrunc : ExactTrunc F)
    (snaps : camera.snapToPixel = true) (positive : 0 < camera.pixelsPerUnit) (world : Vec2 F)
    (step : Int) :
    camera.ShiftsByPixels world step ↔
      step = 0 ∨ (1 ≤ camera.windowDimensions.x ∧ 1 ≤ camera.windowDimensions.y) ∧
        KeepsToGrid (camera.position.x * camera.pixelsPerUnit) step ∧
        KeepsToGrid (camera.position.y * camera.pixelsPerUnit) step := by
  constructor
  · intro shifts
    rcases eq_or_ne step 0 with none | moves
    · exact .inl none
    · have visible := shifts.visible positive moves
      exact .inr ⟨⟨visible.width, visible.height⟩,
        (shiftsByPixels_iff_of_visible exact exactTrunc visible snaps).mp shifts⟩
  · rintro (rfl | ⟨⟨width, height⟩, keeps⟩)
    · exact shiftsByPixels_zero camera world
    · exact (shiftsByPixels_iff_of_visible exact exactTrunc ⟨positive, width, height⟩ snaps).mpr
        keeps

end Moving

end Exact

/-- A camera that snaps to the origin. -/
def Rational.snappedCamera : Camera ℚ :=
  { Rational.camera with position := ⟨1 / 32, 0⟩, snapToPixel := true }

theorem Rational.snappedCamera_visible : Rational.snappedCamera.Visible :=
  ⟨Rational.camera_visible.pixelsPerUnit, Rational.camera_visible.width,
    Rational.camera_visible.height⟩

theorem Rational.snappedCamera_pixels :
    Rational.snappedCamera.position.x * Rational.snappedCamera.pixelsPerUnit = 1 / 2 ∧
      Rational.snappedCamera.position.y * Rational.snappedCamera.pixelsPerUnit = 0 := by
  norm_num [snappedCamera, camera]

/-- Half a pixel to the right of the origin, the camera can move to the right. -/
theorem Camera.shiftsByPixels_right : Rational.snappedCamera.ShiftsByPixels ⟨0, 0⟩ 3 := by
  have pixels := Rational.snappedCamera_pixels
  refine (shiftsByPixels_iff Rational.exactTransform Rational.exactTrunc rfl
    Rational.snappedCamera_visible.pixelsPerUnit ⟨0, 0⟩ 3).mpr (.inr ⟨⟨by decide, by decide⟩, ?_⟩)
  rw [pixels.1, pixels.2]
  exact ⟨.inr (.inl (by norm_num)), .inr (.inl (by norm_num))⟩

/-- One pixel to the left it is half a pixel on the other side of the origin, where the view
has not moved. -/
theorem Camera.shiftsByPixels_left :
    ¬∀ (camera : Camera ℚ) (world : Vec2 ℚ) (step : Int), camera.snapToPixel = true →
      0 < camera.pixelsPerUnit → camera.ShiftsByPixels world step := by
  intro shifts
  have pixels := Rational.snappedCamera_pixels
  have shifted := shifts Rational.snappedCamera ⟨0, 0⟩ (-1) rfl
    Rational.snappedCamera_visible.pixelsPerUnit
  have keeps := ((shiftsByPixels_iff_of_visible Rational.exactTransform Rational.exactTrunc
    Rational.snappedCamera_visible rfl).mp shifted).1
  rw [pixels.1] at keeps
  rcases keeps with ⟨whole, half⟩ | ⟨_, right⟩ | ⟨left, _⟩
  · have double : (1 : ℚ) = (2 * whole : Int) := by
      push_cast
      linarith
    have parity : 1 = 2 * whole := Int.cast_injective (by rw [← double, Int.cast_one])
    omega
  · norm_num at right
  · norm_num at left

end TowerDefence
