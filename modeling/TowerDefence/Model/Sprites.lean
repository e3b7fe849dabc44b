import TowerDefence.Foundations.Ordering
import TowerDefence.Model.Arithmetic

/-!
# Sprites

The draw list of `sprite_draw_list.h` and the order into which it is brought
before rendering.  Textures belong to the backend; the renderer assigns a sort
key to every handle.
-/

namespace TowerDefence

open Foundations

/-- `glm::vec4`. -/
@[ext]
structure Vec4 (F : Type) where
  x : F
  y : F
  z : F
  w : F
  deriving DecidableEq, Repr

/-- `AABB`. -/
structure AABB (F : Type) where
  min : Vec2 F
  max : Vec2 F
  deriving DecidableEq, Repr

/-- `TextureHandle`, a pointer that may be null to the texture data `T` of the
backend. -/
abbrev TextureHandle (T : Type) := Option T

/-- `SpriteSource`. -/
structure SpriteSource (F T : Type) where
  texture : TextureHandle T
  uv : AABB F
  baseRotation : F
  deriving DecidableEq, Repr

/-- `SpriteDrawRequest`. -/
structure SpriteDrawRequest (F T : Type) where
  src : SpriteSource F T
  colorTint : Vec4 F
  position : Vec2 F
  scale : Vec2 F
  rotation : F
  layer : Nat
  deriving DecidableEq, Repr

namespace SpriteDrawList

variable {F T : Type}

/-- The comparison that `SortForRendering` passes to `std::sort`. -/
def rendersBefore (getTextureSortKey : TextureHandle T → Nat) (a b : SpriteDrawRequest F T) :
    Bool :=
  let aKey := getTextureSortKey a.src.texture
  let bKey := getTextureSortKey b.src.texture
  a.layer < b.layer ∨ aKey < bKey

/-- `SortForRendering`. -/
def sortForRendering (std : ComparisonSort (SpriteDrawRequest F T))
    (getTextureSortKey : TextureHandle T → Nat) (sprites : List (SpriteDrawRequest F T)) :
    List (SpriteDrawRequest F T) :=
  std.sort (rendersBefore getTextureSortKey) sprites

end SpriteDrawList

namespace RenderContextDX11

/-- `TextureData` of the backend: the address of its view. -/
structure TextureData where
  view : Nat
  deriving DecidableEq, Repr

/-- `RenderContextDX11::GetTextureSortKey`. -/
def getTextureSortKey (texture : TextureHandle TextureData) : Nat :=
  match texture with
  | some data => data.view
  | none => 0

end RenderContextDX11

end TowerDefence
