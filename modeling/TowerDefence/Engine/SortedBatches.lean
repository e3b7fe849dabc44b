import TowerDefence.Engine.RenderOrder
import TowerDefence.Engine.SpriteBatches
import TowerDefence.Foundations.Grouping
import TowerDefence.Model.Transform

/-!
# Sorting saves draw calls

`Submit` may sort the draw list before it splits it into batches.  Where the layers follow the
textures, sorting brings all sprites of one texture together, also across layers, and then no
other order of the sprites would need fewer draw calls.
-/

namespace TowerDefence

open Foundations

namespace RenderContextDX11

/-- The textures of the sprites are loaded: each has a view, and it is not that of the texture
which stands in for a missing one. -/
def TexturesLoaded {F : Type} (context : RenderContextDX11)
    (drawList : List (SpriteDrawRequest F TextureData)) : Prop :=
  ∀ sprite ∈ drawList, ∀ texture ∈ sprite.src.texture,
    texture.view ≠ 0 ∧ texture.view ≠ context.missingTexture.view

section Sorted

variable {F : Type} {context : RenderContextDX11}
variable {drawList : List (SpriteDrawRequest F TextureData)}

/-- The sort key and the texture of a sprite without a texture. -/
theorem texture_of_none (context : RenderContextDX11)
    {sprite : SpriteDrawRequest F TextureData} (without : sprite.src.texture = none) :
    sprite.textureKey getTextureSortKey = 0 ∧
      context.getSpriteTexture sprite = context.missingTexture.view := by
  rw [SpriteDrawRequest.textureKey, without]
  exact ⟨rfl, getSpriteTexture_of_none context without⟩

/-- The sort key of a texture is its view. -/
theorem texture_of_some (context : RenderContextDX11)
    {sprite : SpriteDrawRequest F TextureData} {texture : TextureData}
    (textured : sprite.src.texture = some texture) :
    sprite.textureKey getTextureSortKey = texture.view ∧
      context.getSpriteTexture sprite = texture.view := by
  rw [SpriteDrawRequest.textureKey, textured]
  exact ⟨rfl, getSpriteTexture_of_some context textured⟩

/-- Loaded textures are told apart by their sort keys. -/
theorem TexturesLoaded.faithful (loaded : context.TexturesLoaded drawList)
    {a b : SpriteDrawRequest F TextureData} (memberA : a ∈ drawList) (memberB : b ∈ drawList) :
    a.textureKey getTextureSortKey = b.textureKey getTextureSortKey ↔
      context.getSpriteTexture a = context.getSpriteTexture b := by
  cases ofA : a.src.texture with
  | none =>
      obtain ⟨keyA, textureA⟩ := context.texture_of_none ofA
      cases ofB : b.src.texture with
      | none =>
          obtain ⟨keyB, textureB⟩ := context.texture_of_none ofB
          rw [keyA, keyB, textureA, textureB]
          exact ⟨fun _ => rfl, fun _ => rfl⟩
      | some texture =>
          obtain ⟨keyB, textureB⟩ := context.texture_of_some ofB
          obtain ⟨notNull, notMissing⟩ := loaded b memberB texture ofB
          rw [keyA, keyB, textureA, textureB]
          exact ⟨fun same => absurd same.symm notNull, fun same => absurd same.symm notMissing⟩
  | some texture =>
      obtain ⟨keyA, textureA⟩ := context.texture_of_some ofA
      obtain ⟨notNull, notMissing⟩ := loaded a memberA texture ofA
      cases ofB : b.src.texture with
      | none =>
          obtain ⟨keyB, textureB⟩ := context.texture_of_none ofB
          rw [keyA, keyB, textureA, textureB]
          exact ⟨fun same => absurd same notNull, fun same => absurd same notMissing⟩
      | some other =>
          obtain ⟨keyB, textureB⟩ := context.texture_of_some ofB
          rw [keyA, keyB, textureA, textureB]

/-- After sorting, the sprites of one texture stand together. -/
theorem grouped_sorted {sorted : List (SpriteDrawRequest F TextureData)}
    (loaded : context.TexturesLoaded drawList) (perm : sorted.Perm drawList)
    (notGreater : sorted.Pairwise fun a b =>
      SpriteDrawList.rendersBefore getTextureSortKey b a = false) :
    Grouped context.getSpriteTexture sorted := by
  apply Grouped.of_sorted (notGreater.imp fun notLess => (rendersBefore_eq_false.mp notLess).2)
  intro a memberA b memberB
  exact loaded.faithful (perm.mem_iff.mp memberA) (perm.mem_iff.mp memberB)

variable [Arithmetic F] [Glm F] [GlmTransform F]

/-- With sorting, a draw list whose layers follow its textures is drawn in render order and with
as many draw calls as its textures need: for each, the number of its sprites divided by the
size of a batch, rounded up.  No order of the sprites can be split into fewer batches. -/
theorem submit_fewest (std : ComparisonSort (SpriteDrawRequest F TextureData))
    (context : RenderContextDX11) (drawList : List (SpriteDrawRequest F TextureData))
    (camera : Camera F) (windowDimensions : UVec2)
    (aligned : LayersFollowKeys getTextureSortKey drawList)
    (loaded : context.TexturesLoaded drawList) :
    ∃ submission : Submission F,
      (∀ fuel, drawList.length ≤ fuel →
        submit std context fuel drawList camera windowDimensions true = .ok submission) ∧
      RenderOrder getTextureSortKey drawList submission.drawList ∧
      submission.drawCalls.length =
        ∑ texture ∈ (drawList.map context.getSpriteTexture).toFinset,
          keyCount context.getSpriteTexture texture drawList ⌈/⌉ maxBatchSize ∧
      ∀ others : List (List (SpriteDrawRequest F TextureData)),
        others.flatten.Perm drawList →
        (∀ other ∈ others, IsBatch context.getSpriteTexture maxBatchSize other) →
        submission.drawCalls.length ≤ others.length := by
  have ordering : StrictWeakOrder (SpriteDrawList.rendersBefore getTextureSortKey) drawList := by
    rw [rendersBefore_eq_lessByEither]
    exact strictWeakOrder_lessByEither_iff.mpr aligned
  obtain ⟨perm, notGreater⟩ := std.correct _ drawList ordering
  obtain ⟨submission, batches, submits, drawn, same, shown, _, greedy⟩ :=
    submit_greedy std context drawList camera windowDimensions true
  have sorted :
      submission.drawList = SpriteDrawList.sortForRendering std getTextureSortKey drawList := drawn
  have calls : submission.drawCalls.length = batches.length := shown.length_eq.symm
  have rearranged : batches.flatten.Perm drawList := same.trans sorted ▸ perm
  have grouped : Grouped context.getSpriteTexture batches.flatten :=
    same.trans sorted ▸ grouped_sorted loaded perm notGreater
  refine ⟨submission, ?_, ?_, ?_, ?_⟩
  · intro fuel enough
    apply submits
    rw [← drawn, sorted]
    exact perm.length_eq.trans_le enough
  · rw [sorted]
    exact .of_sorted perm notGreater
  · show _ = neededBatches _ context.getSpriteTexture maxBatchSize drawList
    rw [calls, ← neededBatches_perm rearranged]
    apply greedy.length_eq grouped
    intro sprite member
    exact List.mem_toFinset.mpr (List.mem_map_of_mem (rearranged.mem_iff.mp member))
  · intro others isRearranged areBatches
    rw [calls]
    exact greedy.length_le_of_perm grouped (Nat.zero_lt_succ _) areBatches
      (isRearranged.trans rearranged.symm)

end Sorted

section Example

open Rational

/-- A floor of one texture and figures of another one, listed in turns. -/
def floorAndFigures : List (SpriteDrawRequest ℚ TextureData) :=
  [plainSprite 0 1, plainSprite 1 2, plainSprite 0 1, plainSprite 1 2]

/-- In the order of the list they would take four draw calls. -/
theorem floorAndFigures_fewest : ∃ submission : Submission ℚ,
    submit .merge ⟨⟨9⟩, ⟨0, 0⟩⟩ 4 floorAndFigures ⟨⟨0, 0⟩, 64, true, ⟨800, 600⟩⟩ ⟨800, 600⟩ true =
      .ok submission ∧
    submission.drawCalls.length = 2 := by
  have aligned : LayersFollowKeys getTextureSortKey floorAndFigures := by
    rw [LayersFollowKeys]
    decide
  have loaded : TexturesLoaded ⟨⟨9⟩, ⟨0, 0⟩⟩ floorAndFigures := by
    rw [TexturesLoaded]
    decide
  obtain ⟨submission, executed, _, calls, _⟩ :=
    submit_fewest .merge ⟨⟨9⟩, ⟨0, 0⟩⟩ floorAndFigures ⟨⟨0, 0⟩, 64, true, ⟨800, 600⟩⟩ ⟨800, 600⟩
      aligned loaded
  exact ⟨submission, executed 4 (Nat.le_refl _), calls.trans (by decide)⟩

end Example

end RenderContextDX11

end TowerDefence
