import TowerDefence.Engine.SpriteBatches

/-!
# The instances of a submission

However a draw list is split into batches, the instances that the device draws are its sprites
in their order.  The statistics count them, and the draw calls that they took.
-/

namespace TowerDefence

open Foundations

variable {F : Type}

/-- The instances of a draw call, with the bound texture. -/
def DrawCall.instances (drawCall : DrawCall F) : List (Nat × Option (SpriteInstanceData F)) :=
  (drawCall.spriteInstanceBuff.take drawCall.instanceCount.toNat).map (drawCall.texture, ·)

namespace RenderContextDX11

/-! ## More fuel -/

section Fuel

variable [Arithmetic F] [Glm F] {context : RenderContextDX11}
  {drawList : List (SpriteDrawRequest F TextureData)}

/-- A batch that is filled is filled in the same way with more fuel. -/
theorem fillBatch_mono {currentTexture fuel more : Nat} {state filled : BatchState F}
    (enough : fuel ≤ more)
    (executed : fillBatch context drawList currentTexture fuel state = .ok filled) :
    fillBatch context drawList currentTexture more state = .ok filled := by
  induction fuel generalizing more state with
  | zero => cases executed
  | succ fuel ih =>
      cases more with
      | zero => omega
      | succ more =>
          simp only [fillBatch, bind_eq_ok] at executed ⊢
          obtain ⟨sprite, read, executed⟩ := executed
          refine ⟨sprite, read, ?_⟩
          split at executed
          case isTrue differs =>
            rw [if_pos differs]
            exact executed
          case isFalse same =>
            rw [if_neg same]
            rw [bind_eq_ok] at executed ⊢
            obtain ⟨buffer, wrote, executed⟩ := executed
            refine ⟨buffer, wrote, ?_⟩
            split at executed
            case isTrue goesOn =>
              rw [if_pos goesOn]
              exact ih (Nat.le_of_succ_le_succ enough) executed
            case isFalse ends =>
              rw [if_neg ends]
              exact executed

/-- Sprites that are drawn are drawn in the same way with more fuel. -/
theorem drawSprites_mono {batchFuel fuel moreInBatch more spriteIdx : Nat} {stats : RenderStats}
    {drawn : RenderStats × List (DrawCall F)} (enoughInBatch : batchFuel ≤ moreInBatch)
    (enough : fuel ≤ more)
    (executed : drawSprites context drawList batchFuel fuel spriteIdx stats = .ok drawn) :
    drawSprites context drawList moreInBatch more spriteIdx stats = .ok drawn := by
  induction fuel generalizing more spriteIdx stats drawn with
  | zero =>
      unfold drawSprites at executed ⊢
      split at executed
      case isTrue => cases executed
      case isFalse atEnd =>
        rw [if_neg atEnd]
        exact executed
  | succ fuel ih =>
      cases more with
      | zero => omega
      | succ more =>
          unfold drawSprites at executed ⊢
          split at executed
          case isFalse atEnd =>
            rw [if_neg atEnd]
            exact executed
          case isTrue inside =>
            rw [if_pos inside]
            simp only [bind_eq_ok] at executed ⊢
            obtain ⟨sprite, read, batch, filled, later, rest, isDrawn⟩ := executed
            exact ⟨sprite, read, batch, fillBatch_mono enoughInBatch filled, later,
              ih (Nat.le_of_succ_le_succ enough) rest, isDrawn⟩

end Fuel

/-! ## What is drawn -/

/-- The instances of a submission, in the order in which they are drawn. -/
def Submission.instances (submission : Submission F) :
    List (Nat × Option (SpriteInstanceData F)) :=
  submission.drawCalls.flatMap DrawCall.instances

section Instances

variable [Arithmetic F] [Glm F] {context : RenderContextDX11}
  {drawList : List (SpriteDrawRequest F TextureData)}

/-- What the device is to draw for a sprite. -/
def instanceOf (context : RenderContextDX11) (sprite : SpriteDrawRequest F TextureData) :
    Nat × Option (SpriteInstanceData F) :=
  (context.getSpriteTexture sprite, some (spriteInstance sprite))

theorem Shows.drawn {batch : List (SpriteDrawRequest F TextureData)} {drawCall : DrawCall F}
    (shows : Shows context batch drawCall) :
    drawCall.instances = batch.map context.instanceOf := by
  apply List.ext_getElem?
  intro slot
  rw [DrawCall.instances, List.getElem?_map, List.getElem?_map, shows.instanceCount]
  by_cases inside : slot < batch.length
  · rw [List.getElem?_take_of_lt inside, shows.instances slot inside,
      List.getElem?_eq_getElem inside, Option.map_some, Option.map_some, instanceOf,
      shows.texture _ (List.getElem_mem inside)]
    rfl
  · have outside : batch.length ≤ slot := Nat.le_of_not_lt inside
    rw [List.getElem?_eq_none outside,
      List.getElem?_eq_none ((List.length_take_le _ _).trans outside)]
    rfl

theorem instances_of_shows {batches : List (List (SpriteDrawRequest F TextureData))}
    {drawCalls : List (DrawCall F)} (shown : List.Forall₂ (Shows context) batches drawCalls) :
    drawCalls.flatMap DrawCall.instances = batches.flatten.map context.instanceOf := by
  induction shown with
  | nil => rfl
  | cons first _ ih =>
      rw [List.flatMap_cons, List.flatten_cons, List.map_append, first.drawn, ih]

variable [GlmTransform F]

/-- A submission without sorting draws the list as it is. -/
structure Submission.Draws (submission : Submission F) (context : RenderContextDX11)
    (drawList : List (SpriteDrawRequest F TextureData)) (camera : Camera F) : Prop where
  instances : submission.instances = drawList.map context.instanceOf
  frameConstants : submission.frameConstants = camera.getViewProjection
  spriteCount : submission.stats.spriteCount =
    context.stats.spriteCount + UInt32.ofNat drawList.length
  drawcallCount : submission.stats.drawcallCount =
    context.stats.drawcallCount + UInt32.ofNat submission.drawCalls.length

theorem submit_draws {std : ComparisonSort (SpriteDrawRequest F TextureData)} {fuel : Nat}
    {camera : Camera F} {windowDimensions : UVec2} {submission : Submission F}
    (submitted : submit std context fuel drawList camera windowDimensions false =
      .ok submission) :
    submission.Draws context drawList camera := by
  simp only [submit, bind_eq_ok, pure_eq_ok] at submitted
  obtain ⟨⟨final, drawCalls⟩, executed, rfl⟩ := submitted
  rw [if_neg Bool.false_ne_true] at executed
  obtain ⟨batches, shownCalls, drawn, isList, shown, _⟩ := drawSprites_batches context
    (List.nil_append drawList).symm
    { context.stats with
      spriteCount := context.stats.spriteCount + UInt32.ofNat drawList.length }
  -- the fuel that was given and the fuel that is certainly enough give the same result
  have same := drawn (max fuel drawList.length) (max fuel drawList.length)
    (Nat.le_max_right _ _) (Nat.le_max_right _ _)
  rw [List.length_nil,
    drawSprites_mono (Nat.le_max_left _ _) (Nat.le_max_left _ _) executed] at same
  obtain ⟨isFinal, isCalls⟩ := Prod.mk.inj (Except.ok.inj same)
  subst isFinal isCalls
  refine ⟨?_, rfl, rfl, ?_⟩
  · rw [Submission.instances, instances_of_shows shown, isList]
  · rw [shown.length_eq]

end Instances

end RenderContextDX11

end TowerDefence
