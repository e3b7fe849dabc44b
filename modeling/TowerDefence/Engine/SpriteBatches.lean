import TowerDefence.Foundations.Batches
import TowerDefence.Foundations.Loop
import TowerDefence.Model.Render

/-!
# Batches of sprites

The loops of `Submit` share one cursor into the draw list.  The inner loop takes
sprites as long as they have the bound texture and the buffer has room, so the outer
loop splits the list greedily, with one draw call for each batch.
-/

namespace TowerDefence

open Foundations

namespace RenderContextDX11

section Model

variable {F : Type} [Arithmetic F] [Glm F]

/-- The instance buffer after the sprites of a batch were written to its first slots. -/
def written (batch : List (SpriteDrawRequest F TextureData)) :
    List (Option (SpriteInstanceData F)) :=
  batch.map (fun sprite => some (spriteInstance sprite)) ++
    List.replicate (maxBatchSize - batch.length) none

theorem written_nil :
    written (F := F) [] = List.replicate maxBatchSize none := rfl

/-- Writing the next sprite into the first free slot. -/
theorem writeAt_written {batch : List (SpriteDrawRequest F TextureData)}
    {sprite : SpriteDrawRequest F TextureData} (room : batch.length < maxBatchSize) :
    writeAt (written batch) batch.length (some (spriteInstance sprite)) =
      .ok (written (batch ++ [sprite])) := by
  have free : maxBatchSize - batch.length = maxBatchSize - (batch.length + 1) + 1 := by omega
  rw [writeAt_eq_ok]
  constructor
  · rw [written, List.length_append, List.length_map, List.length_replicate]
    omega
  · rw [written, written, free, List.replicate_succ, List.length_append, List.length_singleton,
      List.map_append, List.map_singleton, List.append_assoc, List.singleton_append,
      List.set_append_right _ _ (by rw [List.length_map]), List.length_map, Nat.sub_self,
      List.set_cons_zero]

omit [Arithmetic F] [Glm F] in
/-- A sprite without a texture is drawn with the missing one. -/
theorem getSpriteTexture_of_none (context : RenderContextDX11)
    {sprite : SpriteDrawRequest F TextureData} (without : sprite.src.texture = none) :
    context.getSpriteTexture sprite = context.missingTexture.view := by
  rw [getSpriteTexture, without]

omit [Arithmetic F] [Glm F] in
theorem getSpriteTexture_of_some (context : RenderContextDX11)
    {sprite : SpriteDrawRequest F TextureData} {texture : TextureData}
    (textured : sprite.src.texture = some texture) :
    context.getSpriteTexture sprite = texture.view := by
  rw [getSpriteTexture, textured]

/-- A draw call shows the sprites of a batch: the texture of each of them is bound, the
missing one for a null handle, and their instances are the first ones of the buffer. -/
structure Shows (context : RenderContextDX11) (batch : List (SpriteDrawRequest F TextureData))
    (drawCall : DrawCall F) : Prop where
  nonempty : batch ≠ []
  fits : batch.length ≤ maxBatchSize
  missing : ∀ sprite ∈ batch, sprite.src.texture = none →
    drawCall.texture = context.missingTexture.view
  textured : ∀ sprite ∈ batch, ∀ texture, sprite.src.texture = some texture →
    drawCall.texture = texture.view
  instanceCount : drawCall.instanceCount.toNat = batch.length
  instances : ∀ slot (inside : slot < batch.length),
    drawCall.spriteInstanceBuff[slot]? = some (some
      { colorTint := batch[slot].colorTint
        position := batch[slot].position
        uvMin := batch[slot].src.uv.min
        uvMax := batch[slot].src.uv.max
        scale := batch[slot].scale
        rotation := Glm.radians (batch[slot].rotation - batch[slot].src.baseRotation) })

theorem Shows.texture {context : RenderContextDX11}
    {batch : List (SpriteDrawRequest F TextureData)} {drawCall : DrawCall F}
    (shows : Shows context batch drawCall) :
    ∀ sprite ∈ batch, context.getSpriteTexture sprite = drawCall.texture := by
  intro sprite member
  cases source : sprite.src.texture with
  | none => rw [getSpriteTexture_of_none context source, shows.missing sprite member source]
  | some texture =>
      rw [getSpriteTexture_of_some context source, shows.textured sprite member texture source]

/-- The variables of the inner loop, when it has put a batch behind the sprites that are
done. -/
def batchState (done batch : List (SpriteDrawRequest F TextureData)) : BatchState F where
  spriteIdx := done.length + batch.length
  spritesInBatch := batch.length
  spriteInstanceBuff := written batch

variable {context : RenderContextDX11} {drawList : List (SpriteDrawRequest F TextureData)}

omit [Arithmetic F] [Glm F] in
theorem readAt_of_split {done rest : List (SpriteDrawRequest F TextureData)}
    {sprite : SpriteDrawRequest F TextureData} (split : drawList = done ++ sprite :: rest) :
    readAt drawList done.length = .ok sprite := by
  rw [readAt, split, List.getElem?_append_right (Nat.le_refl _), Nat.sub_self,
    List.getElem?_cons_zero]

/-! ## The inner loop -/

/-- What the inner loop adds to a batch, from the sprites that are left. -/
structure Taken (context : RenderContextDX11) (currentTexture : Nat)
    (batch taken left : List (SpriteDrawRequest F TextureData)) : Prop where
  texture : ∀ sprite ∈ taken, context.getSpriteTexture sprite = currentTexture
  fits : (batch ++ taken).length ≤ maxBatchSize
  closes : ∀ next, left.head? = some next →
    (batch ++ taken).length = maxBatchSize ∨ context.getSpriteTexture next ≠ currentTexture

omit [Arithmetic F] [Glm F] in
/-- Nothing more can be taken. -/
theorem Taken.nil {currentTexture : Nat} {batch left : List (SpriteDrawRequest F TextureData)}
    (fits : batch.length ≤ maxBatchSize)
    (closes : ∀ next, left.head? = some next →
      batch.length = maxBatchSize ∨ context.getSpriteTexture next ≠ currentTexture) :
    Taken context currentTexture batch [] left where
  texture _ member := absurd member List.not_mem_nil
  fits := by
    rw [List.append_nil]
    exact fits
  closes := by
    rw [List.append_nil]
    exact closes

omit [Arithmetic F] [Glm F] in
theorem Taken.cons {currentTexture : Nat}
    {batch taken left : List (SpriteDrawRequest F TextureData)}
    {sprite : SpriteDrawRequest F TextureData}
    (isCurrent : context.getSpriteTexture sprite = currentTexture)
    (more : Taken context currentTexture (batch ++ [sprite]) taken left) :
    Taken context currentTexture batch (sprite :: taken) left where
  texture := List.forall_mem_cons.mpr ⟨isCurrent, more.texture⟩
  fits := by
    rw [List.append_cons]
    exact more.fits
  closes := by
    rw [List.append_cons]
    exact more.closes

/-- The inner loop ends at a sprite of another texture. -/
theorem fillBatch_of_ne {currentTexture fuel : Nat}
    {done batch rest : List (SpriteDrawRequest F TextureData)}
    {sprite : SpriteDrawRequest F TextureData} (split : drawList = done ++ batch ++ sprite :: rest)
    (differs : context.getSpriteTexture sprite ≠ currentTexture) :
    fillBatch context drawList currentTexture (fuel + 1) (batchState done batch) =
      .ok (batchState done batch) := by
  have read := readAt_of_split split
  rw [List.length_append] at read
  simp only [fillBatch, batchState, read, bind, Except.bind, if_pos differs]
  rfl

/-- The inner loop takes a sprite of the current texture, and goes on if the batch has
room and there are more sprites. -/
theorem fillBatch_of_eq {currentTexture fuel : Nat}
    {done batch rest : List (SpriteDrawRequest F TextureData)}
    {sprite : SpriteDrawRequest F TextureData} (split : drawList = done ++ batch ++ sprite :: rest)
    (room : batch.length < maxBatchSize)
    (isCurrent : context.getSpriteTexture sprite = currentTexture) :
    fillBatch context drawList currentTexture (fuel + 1) (batchState done batch) =
      if (batch ++ [sprite]).length < maxBatchSize ∧ rest ≠ [] then
        fillBatch context drawList currentTexture fuel (batchState done (batch ++ [sprite]))
      else
        .ok (batchState done (batch ++ [sprite])) := by
  have read := readAt_of_split split
  rw [List.length_append] at read
  have next : batchState done (batch ++ [sprite]) =
      { spriteIdx := done.length + batch.length + 1
        spritesInBatch := batch.length + 1
        spriteInstanceBuff := written (batch ++ [sprite]) } := by
    rw [batchState, List.length_append, List.length_singleton, Nat.add_assoc]
  have moreToCome : done.length + batch.length + 1 < drawList.length ↔ rest ≠ [] := by
    rw [split, List.length_append, List.length_append, List.length_cons, ← List.length_pos_iff]
    omega
  rw [next, List.length_append, List.length_singleton]
  simp only [fillBatch, batchState, read, bind, Except.bind, if_neg (not_not_intro isCurrent),
    writeAt_written room, moreToCome]
  rfl

/-- The inner loop takes sprites up to the first one that it cannot take. -/
theorem fillBatch_takes (context : RenderContextDX11) (currentTexture : Nat)
    {done batch rest : List (SpriteDrawRequest F TextureData)}
    (split : drawList = done ++ batch ++ rest) (remaining : rest ≠ [])
    (room : batch.length < maxBatchSize) :
    ∃ taken left, rest = taken ++ left ∧ Taken context currentTexture batch taken left ∧
      ∀ fuel, rest.length ≤ fuel →
        fillBatch context drawList currentTexture fuel (batchState done batch) =
          .ok (batchState done (batch ++ taken)) := by
  induction rest generalizing batch with
  | nil => exact absurd rfl remaining
  | cons sprite rest ih =>
      by_cases isCurrent : context.getSpriteTexture sprite = currentTexture
      case neg =>
        refine ⟨[], sprite :: rest, rfl, ?_, ?_⟩
        · apply Taken.nil (Nat.le_of_lt room)
          intro next isNext
          cases isNext
          exact .inr isCurrent
        · intro fuel enough
          obtain ⟨fuel, rfl⟩ := Nat.exists_eq_add_of_lt enough
          rw [List.append_nil]
          exact fillBatch_of_ne split isCurrent
      case pos =>
        have roomFor : (batch ++ [sprite]).length ≤ maxBatchSize := by
          rw [List.length_append]
          exact room
        by_cases continues : (batch ++ [sprite]).length < maxBatchSize ∧ rest ≠ []
        case pos =>
          have splitNext : drawList = done ++ (batch ++ [sprite]) ++ rest := by
            rw [split, List.append_cons, List.append_assoc done]
          obtain ⟨taken, left, isRest, isTaken, filled⟩ := ih splitNext continues.2 continues.1
          refine ⟨sprite :: taken, left, ?_, isTaken.cons isCurrent, ?_⟩
          · rw [isRest, List.cons_append]
          · intro fuel enough
            cases fuel with
            | zero => exact absurd enough (Nat.not_succ_le_zero _)
            | succ fuel =>
                rw [fillBatch_of_eq split room isCurrent, if_pos continues,
                  filled fuel (Nat.le_of_succ_le_succ enough), ← List.append_cons]
        case neg =>
          refine ⟨[sprite], rest, rfl, (Taken.nil roomFor ?_).cons isCurrent, ?_⟩
          · intro next isNext
            left
            by_contra notFull
            have another : rest ≠ [] := by
              intro isEmpty
              rw [isEmpty] at isNext
              cases isNext
            exact continues ⟨Nat.lt_of_le_of_ne roomFor notFull, another⟩
          · intro fuel enough
            cases fuel with
            | zero => exact absurd enough (Nat.not_succ_le_zero _)
            | succ fuel => rw [fillBatch_of_eq split room isCurrent, if_neg continues]

/-! ## The outer loop -/

omit [Arithmetic F] [Glm F] in
/-- The first batch takes at least the sprite whose texture it binds. -/
theorem Taken.nonempty {sprite : SpriteDrawRequest F TextureData}
    {rest taken left : List (SpriteDrawRequest F TextureData)}
    (isTaken : Taken context (context.getSpriteTexture sprite) [] taken left)
    (split : sprite :: rest = taken ++ left) : taken ≠ [] := by
  rintro rfl
  rw [List.nil_append] at split
  cases isTaken.closes sprite (split ▸ rfl) with
  | inl full => cases full
  | inr differs => exact differs rfl

/-- The draw call of a batch shows it. -/
theorem Taken.shows {currentTexture : Nat} {taken left : List (SpriteDrawRequest F TextureData)}
    (isTaken : Taken context currentTexture [] taken left) (nonempty : taken ≠ []) :
    Shows context taken
      { texture := currentTexture
        spriteInstanceBuff := written taken
        instanceCount := UInt32.ofNat taken.length } where
  nonempty := nonempty
  fits := isTaken.fits
  missing sprite member without :=
    (isTaken.texture sprite member).symm.trans (getSpriteTexture_of_none context without)
  textured sprite member _ textured :=
    (isTaken.texture sprite member).symm.trans (getSpriteTexture_of_some context textured)
  instanceCount := by
    have fits : taken.length ≤ 1024 := isTaken.fits
    exact UInt32.toNat_ofNat_of_lt (Nat.lt_of_le_of_lt fits (by decide))
  instances slot inside := by
    rw [written, List.getElem?_append_left (by rw [List.length_map]; exact inside),
      List.getElem?_map, List.getElem?_eq_getElem inside, Option.map_some]
    rfl

omit [Arithmetic F] [Glm F] in
theorem Taken.closes_batch {currentTexture : Nat}
    {taken left : List (SpriteDrawRequest F TextureData)}
    (isTaken : Taken context currentTexture [] taken left) :
    IsBatch context.getSpriteTexture maxBatchSize taken ∧
      Closes context.getSpriteTexture maxBatchSize taken left := by
  refine ⟨⟨isTaken.fits, ?_⟩, ?_⟩
  · intro a memberA b memberB
    rw [isTaken.texture a memberA, isTaken.texture b memberB]
  · intro next isNext
    refine (isTaken.closes next isNext).imp_right ?_
    intro differs sprite member same
    exact differs (same ▸ isTaken.texture sprite member)

/-- One iteration of the outer loop, when the inner one has taken a batch. -/
theorem drawSprites_succ {batchFuel fuel : Nat} {stats final : RenderStats}
    {done rest taken : List (SpriteDrawRequest F TextureData)}
    {sprite : SpriteDrawRequest F TextureData} {drawCalls : List (DrawCall F)}
    (split : drawList = done ++ sprite :: rest)
    (filled : fillBatch context drawList (context.getSpriteTexture sprite) batchFuel
      (batchState done []) = .ok (batchState done taken))
    (later : drawSprites context drawList batchFuel fuel (done ++ taken).length
      { stats with drawcallCount := stats.drawcallCount + 1 } = .ok (final, drawCalls)) :
    drawSprites context drawList batchFuel (fuel + 1) done.length stats =
      .ok (final,
        { texture := context.getSpriteTexture sprite
          spriteInstanceBuff := written taken
          instanceCount := UInt32.ofNat taken.length } :: drawCalls) := by
  have inside : done.length < drawList.length := by
    rw [split, List.length_append, List.length_cons]
    omega
  simp only [batchState, List.length_nil, Nat.add_zero, written_nil] at filled
  rw [List.length_append] at later
  simp only [drawSprites, if_pos inside, readAt_of_split split, filled, later, bind, Except.bind]
  rfl

/-- The outer loop splits the sprites that are left greedily into batches, and makes a
draw call for each of them. -/
theorem drawSprites_batches (context : RenderContextDX11)
    {done rest : List (SpriteDrawRequest F TextureData)}
    (split : drawList = done ++ rest) (stats : RenderStats) :
    ∃ (batches : List (List (SpriteDrawRequest F TextureData))) (drawCalls : List (DrawCall F)),
      (∀ batchFuel fuel, drawList.length ≤ batchFuel → rest.length ≤ fuel →
        drawSprites context drawList batchFuel fuel done.length stats =
          .ok ({ stats with
            drawcallCount := stats.drawcallCount + UInt32.ofNat batches.length }, drawCalls)) ∧
      batches.flatten = rest ∧ List.Forall₂ (Shows context) batches drawCalls ∧
      GreedyBatches context.getSpriteTexture maxBatchSize batches := by
  induction isLength : rest.length using Nat.strong_induction_on generalizing done rest stats with
  | _ length ih =>
      subst isLength
      cases rest with
      | nil =>
          refine ⟨[], [], ?_, rfl, .nil, .nil⟩
          intro batchFuel fuel _ _
          have atEnd : ¬done.length < drawList.length := by
            rw [split, List.append_nil]
            exact Nat.lt_irrefl _
          unfold drawSprites
          rw [if_neg atEnd, List.length_nil, show UInt32.ofNat 0 = 0 from rfl, UInt32.add_zero]
          rfl
      | cons sprite rest =>
          have splitHere : drawList = done ++ [] ++ sprite :: rest := by
            rw [List.append_nil]
            exact split
          obtain ⟨taken, left, isRest, isTaken, filled⟩ :=
            fillBatch_takes context (context.getSpriteTexture sprite) splitHere
              (List.cons_ne_nil sprite rest) (Nat.zero_lt_succ _)
          have nonempty := isTaken.nonempty isRest
          obtain ⟨isBatch, closes⟩ := isTaken.closes_batch
          have splitNext : drawList = (done ++ taken) ++ left := by
            rw [split, isRest, List.append_assoc]
          have lengths : left.length < (sprite :: rest).length := by
            rw [isRest, List.length_append]
            have := List.length_pos_iff.mpr nonempty
            omega
          obtain ⟨batches, drawCalls, later, isLeft, shown, greedy⟩ :=
            ih left.length lengths splitNext
              { stats with drawcallCount := stats.drawcallCount + 1 } rfl
          refine ⟨taken :: batches, _ :: drawCalls, ?_, ?_, .cons (isTaken.shows nonempty) shown,
            .cons nonempty isBatch (isLeft ▸ closes) greedy⟩
          · intro batchFuel fuel enoughInBatch enough
            cases fuel with
            | zero => exact absurd enough (Nat.not_succ_le_zero _)
            | succ fuel =>
                have fewer : (sprite :: rest).length ≤ batchFuel := by
                  rw [split, List.length_append] at enoughInBatch
                  omega
                have later := later batchFuel fuel enoughInBatch
                  (Nat.le_of_lt_succ (Nat.lt_of_lt_of_le lengths enough))
                rw [drawSprites_succ split (filled batchFuel fewer) later, List.length_cons,
                  UInt32.ofNat_add, UInt32.add_assoc, UInt32.add_comm 1]
                rfl
          · rw [List.flatten_cons, isLeft, isRest]

end Model

/-! ## Submitting -/

section Submit

variable {F : Type} [Arithmetic F] [Glm F] [GlmTransform F]

/-- The draw list as it is drawn. -/
def drawnList (std : ComparisonSort (SpriteDrawRequest F TextureData)) (sortBeforeRendering : Bool)
    (drawList : List (SpriteDrawRequest F TextureData)) : List (SpriteDrawRequest F TextureData) :=
  if sortBeforeRendering then
    SpriteDrawList.sortForRendering std getTextureSortKey drawList
  else
    drawList

/-- Submitting sprites makes one draw call for each of the greedy batches of the list. -/
theorem submit_greedy (std : ComparisonSort (SpriteDrawRequest F TextureData))
    (context : RenderContextDX11) (drawList : List (SpriteDrawRequest F TextureData))
    (camera : Camera F) (windowDimensions : UVec2) (sortBeforeRendering : Bool) :
    ∃ (submission : Submission F) (batches : List (List (SpriteDrawRequest F TextureData))),
      (∀ fuel, (drawnList std sortBeforeRendering drawList).length ≤ fuel →
        submit std context fuel drawList camera windowDimensions sortBeforeRendering =
          .ok submission) ∧
      submission.drawList = drawnList std sortBeforeRendering drawList ∧
      batches.flatten = submission.drawList ∧
      List.Forall₂ (Shows context) batches submission.drawCalls ∧
      submission.stats.drawcallCount =
        context.stats.drawcallCount + UInt32.ofNat batches.length ∧
      GreedyBatches context.getSpriteTexture maxBatchSize batches := by
  let stats : RenderStats :=
    { context.stats with
      spriteCount := context.stats.spriteCount + UInt32.ofNat drawList.length }
  obtain ⟨batches, drawCalls, executed, same, shown, greedy⟩ :=
    drawSprites_batches context
      (List.nil_append (drawnList std sortBeforeRendering drawList)).symm stats
  refine ⟨{ viewport := ⟨ofU32 windowDimensions.x, ofU32 windowDimensions.y⟩
            frameConstants := camera.getViewProjection
            drawList := drawnList std sortBeforeRendering drawList
            stats :=
              { stats with drawcallCount := stats.drawcallCount + UInt32.ofNat batches.length }
            drawCalls }, batches, ?_, rfl, same, shown, rfl, greedy⟩
  intro fuel enough
  have executed := executed fuel fuel enough enough
  rw [drawnList] at executed
  simp only [submit, drawnList]
  rw [List.length_nil] at executed
  rw [executed]
  rfl

/-- Submitting sprites terminates, without a write past the end of the instance buffer.
It splits the draw list, in its order, into batches, and makes one draw call for each of
them, which shows the sprites of the batch with their texture.  No other split into
batches of one texture and of at most `maxBatchSize` sprites has fewer draw calls. -/
theorem submit_batches (std : ComparisonSort (SpriteDrawRequest F TextureData))
    (context : RenderContextDX11) (drawList : List (SpriteDrawRequest F TextureData))
    (camera : Camera F) (windowDimensions : UVec2) (sortBeforeRendering : Bool) :
    ∃ (submission : Submission F) (batches : List (List (SpriteDrawRequest F TextureData))),
      (∀ fuel, (drawnList std sortBeforeRendering drawList).length ≤ fuel →
        submit std context fuel drawList camera windowDimensions sortBeforeRendering =
          .ok submission) ∧
      submission.drawList = drawnList std sortBeforeRendering drawList ∧
      batches.flatten = submission.drawList ∧
      List.Forall₂ (Shows context) batches submission.drawCalls ∧
      submission.stats.drawcallCount =
        context.stats.drawcallCount + UInt32.ofNat batches.length ∧
      ∀ others : List (List (SpriteDrawRequest F TextureData)),
        others.flatten = submission.drawList →
        (∀ other ∈ others, IsBatch context.getSpriteTexture maxBatchSize other) →
        batches.length ≤ others.length := by
  obtain ⟨submission, batches, submits, drawn, same, shown, counted, greedy⟩ :=
    submit_greedy std context drawList camera windowDimensions sortBeforeRendering
  refine ⟨submission, batches, submits, drawn, same, shown, counted, ?_⟩
  intro others isSplit areBatches
  exact greedy.length_le areBatches (isSplit.trans same.symm)

end Submit

end RenderContextDX11

end TowerDefence
