import TowerDefence.Engine.Frames

/-!
# What a frame shows

The frames of a run paint the map, the entities and the selected tower over each other, with one
camera.
-/

namespace TowerDefence

open Foundations RenderContextDX11

variable {F R : Type}

/-! ## Painting -/

namespace Engine

section Painting

variable [Arithmetic F] [Glm F] [GlmTransform F] {mappings : ScancodeMappings}
  {platform : Platform F R} {std : ComparisonSort (SpriteDrawRequest F TextureData)} {fuel : Nat}
  {start engine : Engine F R} {given : FrameEvents F} {past : List (FrameEvents F)}

/-- A frame paints the map, then the entities of the state between the last two steps, then the
selected tower on the tile under the mouse.  The statistics count what it drew. -/
structure Paints (start : Engine F R) (record : FrameRecord F R)
    (entities : List (SpriteDrawRequest F TextureData))
    (selection : SpriteDrawRequest F TextureData) : Prop where
  instances : record.submissions.flatMap Submission.instances =
    (start.staticMapDrawList ++ entities ++ [selection]).map start.render.instanceOf
  portrays : List.Forall₂ (Portrays start.tilesetHelper)
    (record.interpolatedState.typedEntities start.game.process.session.mapData) entities
  selectionPosition : selection.position = tilePosition record.tilePos
  selectionSrc : ∃ type found,
    start.game.process.session.mapData.towerTypes[record.selectedTowerTypeId]? = some type ∧
      TilesetHelper.getTileSpriteSrc start.tilesetHelper (UInt32.ofNat type.tileId)
        TilesetHelper.newSprite.src = .ok (found, selection.src)
  camera : ∀ submission ∈ record.submissions,
    submission.frameConstants = record.camera.getViewProjection
  spriteCount : record.stats.spriteCount =
    UInt32.ofNat (start.staticMapDrawList.length + entities.length + 1)
  drawcallCount : record.stats.drawcallCount =
    UInt32.ofNat (record.submissions.map fun submission => submission.drawCalls.length).sum

omit [GlmTransform F] in
/-- The bound textures depend on the missing texture only. -/
theorem instanceOf_congr {a b : RenderContextDX11} (same : a.missingTexture = b.missingTexture) :
    (a.instanceOf : SpriteDrawRequest F TextureData → _) = b.instanceOf := by
  funext sprite
  simp only [instanceOf, getSpriteTexture, same]

theorem FrameTrace.paints (trace : FrameTrace mappings platform std fuel engine given)
    (between : Between mappings start past engine) :
    Paints start trace.shown trace.entities trace.selection := by
  have map := submit_draws trace.submittedMap
  have world := submit_draws trace.submittedWorld
  have effects := submit_draws trace.submittedEffects
  have sameMap : trace.game.process.session.mapData = start.game.process.session.mapData :=
    (between.after trace).mapData
  have portrays := renderEntities_portrays trace.rendersEntities
  have sees := instanceOf_congr (F := F) between.missingTexture
  obtain ⟨⟨found, src⟩, isSrc, isSelection⟩ :
      ∃ result, TilesetHelper.getTileSpriteSrc engine.tilesetHelper
        (UInt32.ofNat trace.towerType.tileId) TilesetHelper.newSprite.src = .ok result ∧
        trace.selection.src = result.2 ∧ trace.selection.position =
          tilePosition (BuildableMap.worldToTile (given.pointed trace.camera)) := by
    have renders := trace.rendersSelection
    simp only [Game.renderSelection, bind_eq_ok, pure_eq_ok] at renders
    obtain ⟨result, isSrc, isSelection⟩ := renders
    refine ⟨result, isSrc, ?_, ?_⟩
    · rw [← isSelection]
    · rw [← isSelection]
      rfl
  refine ⟨?_, ?_, isSelection.2, ⟨trace.towerType, found, ?_, ?_⟩, ?_, ?_, ?_⟩
  · show [trace.map, trace.world, trace.effects].flatMap Submission.instances = _
    have sameInstances : ∀ stats : RenderStats,
        (instanceOf { engine.render with stats } : SpriteDrawRequest F TextureData → _) =
          start.render.instanceOf := fun _ => sees
    simp only [List.flatMap_cons, List.flatMap_nil, map.instances, world.instances,
      effects.instances, sees, sameInstances, between.staticMapDrawList, List.map_append,
      List.append_nil, List.append_assoc]
  · rw [sameMap, between.tilesetHelper] at portrays
    exact portrays
  · rw [← sameMap]
    exact readAt_eq_ok.mp trace.selected
  · rw [← between.tilesetHelper, isSelection.1]
    exact isSrc
  · intro submission member
    simp only [FrameTrace.shown, List.mem_cons, List.not_mem_nil, or_false] at member
    rcases member with rfl | rfl | rfl
    · exact map.frameConstants
    · exact world.frameConstants
    · exact effects.frameConstants
  · show trace.effects.stats.spriteCount = _
    rw [effects.spriteCount, world.spriteCount, map.spriteCount, between.stats,
      between.staticMapDrawList]
    simp only [UInt32.ofNat_add, List.length_singleton, UInt32.zero_add]
  · show trace.effects.stats.drawcallCount = _
    rw [effects.drawcallCount, world.drawcallCount, map.drawcallCount, between.stats]
    simp only [FrameTrace.shown, List.map_cons, List.map_nil, List.sum_cons, List.sum_nil,
      UInt32.ofNat_add, UInt32.zero_add, UInt32.add_assoc, Nat.add_zero]

/-- Every frame of a run of the engine paints its own picture only. -/
theorem runInternal_paints {process : Process F R} {interpolatedState : GameState F R}
    {render : RenderContextDX11} {tilesetHelper : List (Tileset F TextureData)}
    {staticMapDrawList : List (SpriteDrawRequest F TextureData)} {finish : Engine F R}
    {frames : List (FrameEvents F)} {records : List (FrameRecord F R)} (ints : mappings.Ints)
    (executed : runInternal mappings platform std fuel
      (initialized (.initialized process interpolatedState) render tilesetHelper
        staticMapDrawList) frames = .ok (finish, records)) :
    ∀ record ∈ records, ∃ (entities : List (SpriteDrawRequest F TextureData))
      (selection : SpriteDrawRequest F TextureData),
      Paints (initialized (.initialized process interpolatedState) render tilesetHelper
        staticMapDrawList) record entities selection := by
  have run := run_of_runInternal executed
  have each : List.Forall₂ (fun (_ : FrameEvents F) record =>
      ∃ (entities : List (SpriteDrawRequest F TextureData))
        (selection : SpriteDrawRequest F TextureData),
        Paints (initialized (.initialized process interpolatedState) render tilesetHelper
          staticMapDrawList) record entities selection) (frames.take records.length) records :=
    run_forall ints (.initialized rfl) run fun _ _ _ trace between =>
      ⟨trace.entities, trace.selection, trace.paints between⟩
  intro record member
  obtain ⟨slot, inside, rfl⟩ := List.getElem_of_mem member
  have shown := (List.forall₂_iff_get.mp each).2 slot
  rw [run.length_eq] at shown
  exact shown inside inside

end Painting

end Engine

open Rational Engine in
theorem Engine.click_paints : ∃ process record finish records,
    clearing.fromMap platform 10 = .ok (process, record) ∧
    runInternal (fun _ => KeyCode.any.value) platform .merge 10 (clearingEngine process)
      [clickAndQuit, clickAndQuit] = .ok (finish, records) ∧
    ∀ record ∈ records, ∃ (entities : List (SpriteDrawRequest ℚ TextureData))
      (selection : SpriteDrawRequest ℚ TextureData),
      Paints (clearingEngine process) record entities selection := by
  obtain ⟨process, record, finish, shown, loaded, executed, _⟩ := exists_click
  exact ⟨process, record, finish, _, loaded, executed,
    runInternal_paints ScancodeMappings.any_ints executed⟩

end TowerDefence
