import Mathlib.Algebra.Field.Defs
import TowerDefence.Model.Sprites

/-!
# The camera

`Camera` of `camera.h`, and the cursor ray that `UIBindings::NewFrame` hands to the
debug renderer.  Matrices are `glm`'s: four columns, indexed by column first.
`lookAt`, `ortho` and `inverse` are the package's own; the build selects the
left-handed forms with a depth between zero and one.
-/

namespace TowerDefence

/-! ## Vectors and matrices of `glm` -/

/-- `glm::uvec2`. -/
structure UVec2 where
  x : UInt32
  y : UInt32
  deriving DecidableEq, Repr

/-- `glm::vec3`. -/
@[ext]
structure Vec3 (F : Type) where
  x : F
  y : F
  z : F
  deriving DecidableEq, Repr

/-- `glm::mat4`, by its columns. -/
@[ext]
structure Mat4 (F : Type) where
  c0 : Vec4 F
  c1 : Vec4 F
  c2 : Vec4 F
  c3 : Vec4 F
  deriving DecidableEq, Repr

section Operations

variable {F : Type} [Arithmetic F]

instance : Add (Vec3 F) := ⟨fun a b => ⟨a.x + b.x, a.y + b.y, a.z + b.z⟩⟩
instance : Add (Vec4 F) := ⟨fun a b => ⟨a.x + b.x, a.y + b.y, a.z + b.z, a.w + b.w⟩⟩
instance : HMul (Vec4 F) F (Vec4 F) :=
  ⟨fun a scale => ⟨a.x * scale, a.y * scale, a.z * scale, a.w * scale⟩⟩

namespace Vec3

@[simp] theorem add_x (a b : Vec3 F) : (a + b).x = a.x + b.x := rfl
@[simp] theorem add_y (a b : Vec3 F) : (a + b).y = a.y + b.y := rfl
@[simp] theorem add_z (a b : Vec3 F) : (a + b).z = a.z + b.z := rfl

/-- `glm::dot`. -/
def dot (a b : Vec3 F) : F := a.x * b.x + a.y * b.y + a.z * b.z

/-- `glm::cross`. -/
def cross (a b : Vec3 F) : Vec3 F :=
  ⟨a.y * b.z - b.y * a.z, a.z * b.x - b.z * a.x, a.x * b.y - b.x * a.y⟩

end Vec3

namespace Mat4

instance : HMul (Mat4 F) (Vec4 F) (Vec4 F) :=
  ⟨fun m v => m.c0 * v.x + m.c1 * v.y + m.c2 * v.z + m.c3 * v.w⟩

instance : Mul (Mat4 F) := ⟨fun m n => ⟨m * n.c0, m * n.c1, m * n.c2, m * n.c3⟩⟩

/-- `glm::mat4(1.0f)`. -/
instance : One (Mat4 F) := ⟨⟨⟨1, 0, 0, 0⟩, ⟨0, 1, 0, 0⟩, ⟨0, 0, 1, 0⟩, ⟨0, 0, 0, 1⟩⟩⟩

theorem mul_eq (m n : Mat4 F) : m * n = ⟨m * n.c0, m * n.c1, m * n.c2, m * n.c3⟩ := rfl

@[simp] theorem mul_x (m : Mat4 F) (v : Vec4 F) :
    (m * v).x = m.c0.x * v.x + m.c1.x * v.y + m.c2.x * v.z + m.c3.x * v.w := rfl
@[simp] theorem mul_y (m : Mat4 F) (v : Vec4 F) :
    (m * v).y = m.c0.y * v.x + m.c1.y * v.y + m.c2.y * v.z + m.c3.y * v.w := rfl
@[simp] theorem mul_z (m : Mat4 F) (v : Vec4 F) :
    (m * v).z = m.c0.z * v.x + m.c1.z * v.y + m.c2.z * v.z + m.c3.z * v.w := rfl
@[simp] theorem mul_w (m : Mat4 F) (v : Vec4 F) :
    (m * v).w = m.c0.w * v.x + m.c1.w * v.y + m.c2.w * v.z + m.c3.w * v.w := rfl

end Mat4

end Operations

/-- The functions of `glm` that build and invert transformations. -/
class GlmTransform (F : Type) where
  lookAt : Vec3 F → Vec3 F → Vec3 F → Mat4 F
  ortho : F → F → F → F → F → F → Mat4 F
  inverse : Mat4 F → Mat4 F

/-! ## `Camera` -/

/-- `Camera`. -/
structure Camera (F : Type) where
  position : Vec2 F
  pixelsPerUnit : F
  snapToPixel : Bool
  windowDimensions : UVec2
  deriving DecidableEq, Repr

namespace Camera

variable {F : Type} [Arithmetic F] [Glm F]

/-- The `snappedPosition` of `GetView`. -/
def snappedPosition (camera : Camera F) : Vec2 F :=
  let unitsPerPixel := 1 / camera.pixelsPerUnit
  if camera.snapToPixel then
    ⟨Glm.trunc (camera.position.x / unitsPerPixel) * unitsPerPixel,
      Glm.trunc (camera.position.y / unitsPerPixel) * unitsPerPixel⟩
  else
    camera.position

variable [GlmTransform F]

/-- `GetView`. -/
def getView (camera : Camera F) : Mat4 F :=
  let snappedPosition := camera.snappedPosition
  GlmTransform.lookAt ⟨snappedPosition.x, snappedPosition.y, -1⟩
    ⟨snappedPosition.x, snappedPosition.y, 0⟩ ⟨0, 1, 0⟩

omit [Glm F] in
/-- `GetProjection`. -/
def getProjection (camera : Camera F) : Mat4 F :=
  let unitsPerPixel := 1 / camera.pixelsPerUnit
  let width : F := ofU32 camera.windowDimensions.x
  let height : F := ofU32 camera.windowDimensions.y
  GlmTransform.ortho (width * -literal 0.5 * unitsPerPixel) (width * literal 0.5 * unitsPerPixel)
    (height * -literal 0.5 * unitsPerPixel) (height * literal 0.5 * unitsPerPixel) 0 1

/-- `GetViewProjection`. -/
def getViewProjection (camera : Camera F) : Mat4 F := camera.getProjection * camera.getView

omit [Glm F] [GlmTransform F] in
/-- `GetPosition`. -/
def getPosition (camera : Camera F) : Vec3 F := ⟨camera.position.x, camera.position.y, -1⟩

omit [Glm F] [GlmTransform F] in
/-- `GetForwardDirection`. -/
def getForwardDirection : Camera F → Vec3 F := fun _ => ⟨0, 0, 1⟩

omit [Glm F] [GlmTransform F] in
/-- `GetUpDirection`. -/
def getUpDirection : Camera F → Vec3 F := fun _ => ⟨0, 1, 0⟩

/-- `ScreenPointToWorld`; the subtraction is that of `u32`. -/
def screenPointToWorld (camera : Camera F) (screenX screenY : UInt32) : Vec2 F :=
  let vp := camera.getViewProjection
  let vpInverse := GlmTransform.inverse vp
  let windowDimensions := camera.windowDimensions
  let ndc : Vec2 F :=
    ⟨ofU32 screenX / ofU32 windowDimensions.x * literal 2 - 1,
      ofU32 (windowDimensions.y - screenY) / ofU32 windowDimensions.y * literal 2 - 1⟩
  let world := vpInverse * (⟨ndc.x, ndc.y, 0, 1⟩ : Vec4 F)
  ⟨world.x, world.y⟩

/-- `WorldPointToScreen`. -/
def worldPointToScreen (camera : Camera F) (world : Vec2 F) : Vec2 F :=
  let vp := camera.getViewProjection
  let ndc := vp * (⟨world.x, world.y, 0, 1⟩ : Vec4 F)
  let normalizedScreen : Vec2 F := ⟨(ndc.x + 1) * literal 0.5, (ndc.y + 1) * literal 0.5⟩
  ⟨normalizedScreen.x * ofU32 camera.windowDimensions.x,
    (1 - normalizedScreen.y) * ofU32 camera.windowDimensions.y⟩

omit [Glm F] [GlmTransform F] in
/-- `WorldUnitsToPixels`. -/
def worldUnitsToPixels (camera : Camera F) (worldUnits : F) : F :=
  worldUnits * camera.pixelsPerUnit

omit [Glm F] [GlmTransform F] in
/-- `WorldUnitsToPixels` of a vector. -/
def worldUnitsToPixels₂ (camera : Camera F) (worldUnits : Vec2 F) : Vec2 F :=
  ⟨camera.worldUnitsToPixels worldUnits.x, camera.worldUnitsToPixels worldUnits.y⟩

end Camera

/-! ## `UIBindings::NewFrame` -/

/-- What `NewFrame` tells the debug renderer about the view; the time, the keys and the
snapping of its gizmos are left out. -/
structure AppData (F : Type) where
  viewportSize : Vec2 F
  viewOrigin : Vec3 F
  viewDirection : Vec3 F
  worldUp : Vec3 F
  projOrtho : Bool
  projScaleY : F
  cursorRayOrigin : Vec3 F
  cursorRayDirection : Vec3 F
  cullFrustum : Mat4 F × Bool

/-- `UIBindings::NewFrame`, for a window of the given size and a mouse at the given
position. -/
def UIBindings.newFrame {F : Type} [Arithmetic F] [Glm F] [GlmTransform F]
    (windowDimensions : UVec2) (camera : Camera F) (mouse : Int × Int) : AppData F :=
  let viewportSize : Vec2 F := ⟨ofU32 windowDimensions.x, ofU32 windowDimensions.y⟩
  let cursorPos : Vec2 F :=
    ⟨ofInt mouse.1 / viewportSize.x * literal 2 - 1, ofInt mouse.2 / viewportSize.y * literal 2 - 1⟩
  -- window origin is top-left, ndc is bottom-left
  let cursorPos : Vec2 F := ⟨cursorPos.x, -cursorPos.y⟩
  let rayOrigin : Vec3 F :=
    ⟨cursorPos.x / camera.getProjection.c0.x, cursorPos.y / camera.getProjection.c1.y, 0⟩
  let rayOrigin := camera.getView * (⟨rayOrigin.x, rayOrigin.y, rayOrigin.z, 1⟩ : Vec4 F)
  let rayDirection := camera.getView * (⟨0, 0, -1, 0⟩ : Vec4 F)
  { viewportSize
    viewOrigin := camera.getPosition
    viewDirection := camera.getForwardDirection
    worldUp := camera.getUpDirection
    projOrtho := false
    projScaleY := literal 2 / camera.getProjection.c1.y
    cursorRayOrigin := ⟨rayOrigin.x, rayOrigin.y, rayOrigin.z⟩
    cursorRayDirection := ⟨rayDirection.x, rayDirection.y, rayDirection.z⟩
    cullFrustum := (camera.getViewProjection, true) }

/-! ## Exact arithmetic -/

/-- The matrix of a camera at `eye` that has the given axes. -/
def Mat4.view {F : Type} [Arithmetic F] (eye right up forward : Vec3 F) : Mat4 F where
  c0 := ⟨right.x, up.x, forward.x, 0⟩
  c1 := ⟨right.y, up.y, forward.y, 0⟩
  c2 := ⟨right.z, up.z, forward.z, 0⟩
  c3 := ⟨-right.dot eye, -up.dot eye, -forward.dot eye, 1⟩

/-- What the documentation of `glm` promises of the left-handed `lookAt`, of the
left-handed `ortho` with a depth between zero and one, and of `inverse`, in exact
arithmetic. -/
structure ExactTransform (F : Type) [Field F] [LinearOrder F] [GlmTransform F] : Prop where
  lookAt : ∀ eye forward up : Vec3 F, forward.dot forward = 1 → up.dot up = 1 →
    forward.dot up = 0 →
    GlmTransform.lookAt eye (eye + forward) up = .view eye (up.cross forward) up forward
  ortho : ∀ left right bottom top zNear zFar : F, left ≠ right → bottom ≠ top → zNear ≠ zFar →
    GlmTransform.ortho left right bottom top zNear zFar =
      { c0 := ⟨2 / (right - left), 0, 0, 0⟩
        c1 := ⟨0, 2 / (top - bottom), 0, 0⟩
        c2 := ⟨0, 0, 1 / (zFar - zNear), 0⟩
        c3 := ⟨-(right + left) / (right - left), -(top + bottom) / (top - bottom),
          -zNear / (zFar - zNear), 1⟩ }
  inverse : ∀ m n : Mat4 F, m * n = 1 → GlmTransform.inverse m = n

end TowerDefence
