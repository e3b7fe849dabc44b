import TowerDefence.Model.Sprites

/-!
# The order of the sprites

Sprites are compared by their layer or by the sort key of their texture.  The two
criteria are joined by "or", so a sprite on a lower layer with a greater key and
one on a higher layer with a smaller key are each less than the other.
-/

namespace TowerDefence

open Foundations SpriteDrawList

variable {F T : Type}

namespace SpriteDrawRequest

/-- The key by which the texture of a sprite is sorted. -/
def textureKey (getTextureSortKey : TextureHandle T → Nat) (sprite : SpriteDrawRequest F T) : Nat :=
  getTextureSortKey sprite.src.texture

end SpriteDrawRequest

/-- What sorting should achieve: the sprites are rearranged by layer, and within
one layer sprites with the same texture key are next to each other. -/
structure RenderOrder (getTextureSortKey : TextureHandle T → Nat)
    (sprites sorted : List (SpriteDrawRequest F T)) : Prop where
  perm : sorted.Perm sprites
  layers : sorted.Pairwise fun a b => a.layer ≤ b.layer
  contiguous : ∀ front a middle b back, sorted = front ++ a :: (middle ++ b :: back) →
    a.layer = b.layer → a.textureKey getTextureSortKey = b.textureKey getTextureSortKey →
    ∀ sprite ∈ middle, sprite.layer = a.layer ∧
      sprite.textureKey getTextureSortKey = a.textureKey getTextureSortKey

/-- The two criteria agree: no sprite has a greater texture key than one on a
higher layer. -/
def LayersFollowKeys (getTextureSortKey : TextureHandle T → Nat)
    (sprites : List (SpriteDrawRequest F T)) : Prop :=
  ∀ a ∈ sprites, ∀ b ∈ sprites, a.layer < b.layer →
    a.textureKey getTextureSortKey ≤ b.textureKey getTextureSortKey

section Sorting

variable {getTextureSortKey : TextureHandle T → Nat} {sprites : List (SpriteDrawRequest F T)}

theorem rendersBefore_eq_lessByEither :
    rendersBefore (F := F) getTextureSortKey =
      lessByEither SpriteDrawRequest.layer (SpriteDrawRequest.textureKey getTextureSortKey) :=
  rfl

theorem rendersBefore_eq_false {a b : SpriteDrawRequest F T} :
    rendersBefore getTextureSortKey b a = false ↔ a.layer ≤ b.layer ∧
      a.textureKey getTextureSortKey ≤ b.textureKey getTextureSortKey := by
  rw [rendersBefore_eq_lessByEither]
  exact lessByEither_eq_false

/-- A list that the comparison considers sorted is in render order. -/
theorem RenderOrder.of_sorted {sorted : List (SpriteDrawRequest F T)} (perm : sorted.Perm sprites)
    (notGreater : sorted.Pairwise fun a b => rendersBefore getTextureSortKey b a = false) :
    RenderOrder getTextureSortKey sprites sorted := by
  have layers : sorted.Pairwise fun a b => a.layer ≤ b.layer :=
    notGreater.imp fun notLess => (rendersBefore_eq_false.mp notLess).1
  have keys : sorted.Pairwise fun a b =>
      a.textureKey getTextureSortKey ≤ b.textureKey getTextureSortKey :=
    notGreater.imp fun notLess => (rendersBefore_eq_false.mp notLess).2
  refine ⟨perm, layers, ?_⟩
  intro front a middle b back split sameLayer sameKey sprite member
  rw [split] at layers keys
  obtain ⟨layerFrom, layerTo⟩ := between_of_pairwise_le layers member
  obtain ⟨keyFrom, keyTo⟩ := between_of_pairwise_le keys member
  constructor
  · exact Nat.le_antisymm (sameLayer ▸ layerTo) layerFrom
  · exact Nat.le_antisymm (sameKey ▸ keyTo) keyFrom

/-- For any list of sprites, any sort keys and any sort that is correct for strict
weak orderings: the comparison is a strict weak ordering of the sprites, and
sorting brings them into render order, exactly when no sprite has a greater
texture key than one on a higher layer. -/
theorem sortForRendering_iff (std : ComparisonSort (SpriteDrawRequest F T))
    (getTextureSortKey : TextureHandle T → Nat) (sprites : List (SpriteDrawRequest F T)) :
    StrictWeakOrder (rendersBefore getTextureSortKey) sprites ∧
        RenderOrder getTextureSortKey sprites (sortForRendering std getTextureSortKey sprites) ↔
      LayersFollowKeys getTextureSortKey sprites := by
  rw [rendersBefore_eq_lessByEither, strictWeakOrder_lessByEither_iff]
  constructor
  · intro holds
    exact holds.1
  · intro aligned
    refine ⟨aligned, ?_⟩
    have ordering : StrictWeakOrder (rendersBefore getTextureSortKey) sprites :=
      strictWeakOrder_lessByEither_iff.mpr aligned
    obtain ⟨perm, sorted⟩ := std.correct (rendersBefore getTextureSortKey) sprites ordering
    exact .of_sorted perm sorted

end Sorting

section Example

open RenderContextDX11

/-- A sprite of the given layer and texture view. -/
def plainSprite (layer view : Nat) : SpriteDrawRequest ℚ TextureData where
  src := { texture := some ⟨view⟩, uv := ⟨⟨0, 0⟩, ⟨1, 1⟩⟩, baseRotation := 0 }
  colorTint := ⟨1, 1, 1, 1⟩
  position := ⟨0, 0⟩
  scale := ⟨1, 1⟩
  rotation := 0
  layer

/-- A background whose texture lies behind that of the foreground in memory: each
of the two sprites is less than the other. -/
theorem background_and_foreground :
    rendersBefore getTextureSortKey (plainSprite 0 2) (plainSprite 1 1) = true ∧
    rendersBefore getTextureSortKey (plainSprite 1 1) (plainSprite 0 2) = true ∧
    ¬StrictWeakOrder (rendersBefore getTextureSortKey) [plainSprite 0 2, plainSprite 1 1] := by
  refine ⟨by decide, by decide, ?_⟩
  intro ordering
  have asymmetric := ordering.asymmetric (plainSprite 0 2) (by simp) (plainSprite 1 1) (by simp)
    (by decide)
  exact absurd asymmetric (by decide)

end Example

end TowerDefence
