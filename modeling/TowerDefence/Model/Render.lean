import TowerDefence.Model.Camera
import TowerDefence.Model.Entities
import TowerDefence.Model.MapData

/-!
# Submitting sprites

`RenderContextDX11::Submit`.  Of the device's state the model keeps what depends on the
arguments: the viewport, the frame constants and, for every draw call, the bound
texture and the buffer of the instances.
-/

namespace TowerDefence

open Foundations

/-- `SpriteInstanceData`. -/
structure SpriteInstanceData (F : Type) where
  colorTint : Vec4 F
  position : Vec2 F
  uvMin : Vec2 F
  uvMax : Vec2 F
  scale : Vec2 F
  rotation : F
  deriving DecidableEq, Repr

/-- `RenderStats`. -/
structure RenderStats where
  spriteCount : UInt32
  drawcallCount : UInt32
  deriving DecidableEq, Repr

/-- What the device draws from: the bound texture, the slots of the instance buffer and
the number of instances. -/
structure DrawCall (F : Type) where
  texture : Nat
  spriteInstanceBuff : List (Option (SpriteInstanceData F))
  instanceCount : UInt32
  deriving DecidableEq, Repr

/-- `RenderContextDX11`, as far as `Submit` uses it. -/
structure RenderContextDX11 where
  missingTexture : RenderContextDX11.TextureData
  stats : RenderStats
  deriving DecidableEq, Repr

namespace RenderContextDX11

/-- `MAX_BATCH_SIZE`. -/
def maxBatchSize : Nat := 1024

/-- The lambda `GetSpriteTexture`. -/
def getSpriteTexture {F : Type} (context : RenderContextDX11)
    (sprite : SpriteDrawRequest F TextureData) : Nat :=
  match sprite.src.texture with
  | some data => data.view
  | none => context.missingTexture.view

/-- The variables of the inner loop. -/
structure BatchState (F : Type) where
  spriteIdx : Nat
  spritesInBatch : Nat
  spriteInstanceBuff : List (Option (SpriteInstanceData F))

section Loops

variable {F : Type} [Arithmetic F] [Glm F]

/-- What is written for a sprite. -/
def spriteInstance (sprite : SpriteDrawRequest F TextureData) : SpriteInstanceData F where
  colorTint := sprite.colorTint
  position := sprite.position
  uvMin := sprite.src.uv.min
  uvMax := sprite.src.uv.max
  scale := sprite.scale
  rotation := Glm.radians (sprite.rotation - sprite.src.baseRotation)

/-- The inner loop, a `do while`. -/
def fillBatch (context : RenderContextDX11) (drawList : List (SpriteDrawRequest F TextureData))
    (currentTexture : Nat) : Nat → BatchState F → Exec (BatchState F)
  | 0, _ => .error .outOfFuel
  | fuel + 1, state => do
      let sprite ← readAt drawList state.spriteIdx
      let texture := context.getSpriteTexture sprite
      if texture ≠ currentTexture then
        pure state
      else
        let spriteInstanceBuff ←
          writeAt state.spriteInstanceBuff state.spritesInBatch (some (spriteInstance sprite))
        let spriteIdx := state.spriteIdx + 1
        let spritesInBatch := state.spritesInBatch + 1
        if spritesInBatch < maxBatchSize ∧ spriteIdx < drawList.length then
          fillBatch context drawList currentTexture fuel
            { spriteIdx, spritesInBatch, spriteInstanceBuff }
        else
          pure { spriteIdx, spritesInBatch, spriteInstanceBuff }

/-- The outer loop.  Mapping the buffer discards what it held. -/
def drawSprites (context : RenderContextDX11) (drawList : List (SpriteDrawRequest F TextureData))
    (batchFuel fuel spriteIdx : Nat) (stats : RenderStats) :
    Exec (RenderStats × List (DrawCall F)) :=
  if spriteIdx < drawList.length then
    match fuel with
    | 0 => .error .outOfFuel
    | fuel + 1 => do
        let sprite ← readAt drawList spriteIdx
        let currentTexture := context.getSpriteTexture sprite
        let batch ← fillBatch context drawList currentTexture batchFuel
          { spriteIdx, spritesInBatch := 0, spriteInstanceBuff := List.replicate maxBatchSize none }
        let stats := { stats with drawcallCount := stats.drawcallCount + 1 }
        let drawCall : DrawCall F :=
          { texture := currentTexture
            spriteInstanceBuff := batch.spriteInstanceBuff
            instanceCount := UInt32.ofNat batch.spritesInBatch }
        let (stats, drawCalls) ←
          drawSprites context drawList batchFuel fuel batch.spriteIdx stats
        pure (stats, drawCall :: drawCalls)
  else
    pure (stats, [])

end Loops

/-- What `Submit` leaves behind. -/
structure Submission (F : Type) where
  viewport : Vec2 F
  frameConstants : Mat4 F
  drawList : List (SpriteDrawRequest F TextureData)
  stats : RenderStats
  drawCalls : List (DrawCall F)

/-- `Submit`, with the fuel for each of its loops. -/
def submit {F : Type} [Arithmetic F] [Glm F] [GlmTransform F]
    (std : ComparisonSort (SpriteDrawRequest F TextureData)) (context : RenderContextDX11)
    (fuel : Nat) (drawList : List (SpriteDrawRequest F TextureData)) (camera : Camera F)
    (windowDimensions : UVec2) (sortBeforeRendering : Bool) : Exec (Submission F) := do
  let stats :=
    { context.stats with
      spriteCount := context.stats.spriteCount + UInt32.ofNat drawList.length }
  let viewport : Vec2 F := ⟨ofU32 windowDimensions.x, ofU32 windowDimensions.y⟩
  let viewProjection := camera.getViewProjection
  let drawList :=
    if sortBeforeRendering then
      SpriteDrawList.sortForRendering std getTextureSortKey drawList
    else
      drawList
  let (stats, drawCalls) ← drawSprites context drawList fuel fuel 0 stats
  pure { viewport, frameConstants := viewProjection, drawList, stats, drawCalls }

end RenderContextDX11

end TowerDefence
