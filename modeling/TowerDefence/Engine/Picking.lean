import TowerDefence.Engine.Painting
import TowerDefence.Engine.Quads
import TowerDefence.Map.Buildable

/-!
# The tile under the mouse

The triangles of a tile's sprite make up a square, and the position under the mouse is rounded to
a tile.  The two agree: in every frame, the tile whose square holds the mouse is the one that the
game answers for and builds on.
-/

namespace TowerDefence

open Foundations RenderContextDX11

variable {F R : Type}

/-! ## The camera of a frame -/

section Camera

variable [Field F] [LinearOrder F] [IsStrictOrderedRing F]

theorem Game.scaleFactors_pos : ∀ scaleFactor ∈ (Game.scaleFactors : List F), 0 < scaleFactor := by
  have positive : ∀ value : ℚ, 0 < value → (0 : F) < literal value := fun value positive =>
    Rat.cast_pos.mpr positive
  simp only [scaleFactors, List.forall_mem_cons, List.not_mem_nil, false_imp_iff,
    implies_true, and_true]
  refine ⟨?_, ?_, ?_, ?_, ?_, ?_, ?_, ?_, ?_, ?_, ?_, ?_, ?_⟩
  case refine_5 | refine_6 | refine_7 | refine_8 | refine_9 | refine_10 | refine_11 | refine_12 |
      refine_13 =>
    exact one_div_pos.mpr (positive _ (by norm_num))
  all_goals exact positive _ (by norm_num)

variable [Glm F] {camera moved : Camera F} {input : Input} {scaleFactorIdx : Int} {deltaTime : F}

/-- The zoom of a frame is one of the scale factors. -/
theorem Game.moveCamera_zooms
    (executed : Game.moveCamera camera input scaleFactorIdx deltaTime = .ok moved) :
    moved.windowDimensions = camera.windowDimensions ∧ 0 < moved.pixelsPerUnit := by
  simp only [moveCamera, bind_eq_ok, pure_eq_ok, readAt_eq_ok] at executed
  obtain ⟨_, _, scaleFactor, found, rfl⟩ := executed
  refine ⟨rfl, mul_pos ?_ (scaleFactors_pos scaleFactor (List.mem_of_getElem? found))⟩
  exact Rat.cast_pos.mpr (by norm_num)

end Camera

/-! ## Sprites on tiles -/

section Tiles

variable [Field F] [LinearOrder F] [IsStrictOrderedRing F] [Glm F] [GlmTransform F]
  {camera : Camera F} {vin : SpriteInstanceData F} {tile : Int × Int}

omit [IsStrictOrderedRing F] [GlmTransform F] in
/-- The instance shows its texture on a tile, turned by quarters. -/
structure SpriteInstanceData.OnTile (vin : SpriteInstanceData F) (tile : Int × Int) : Prop where
  position : vin.position = tilePosition tile
  scale : vin.scale = ⟨1, 1⟩
  turn : Glm.cos vin.rotation * Glm.cos vin.rotation +
    Glm.sin vin.rotation * Glm.sin vin.rotation = 1
  quarter : Glm.cos vin.rotation = 0 ∨ Glm.sin vin.rotation = 0

namespace SpriteInstanceData.OnTile

omit [IsStrictOrderedRing F] [GlmTransform F] in
theorem drawn (onTile : vin.OnTile tile) : vin.Drawn where
  turn := onTile.turn
  width := by
    rw [onTile.scale]
    exact one_ne_zero
  height := by
    rw [onTile.scale]
    exact one_ne_zero

omit [IsStrictOrderedRing F] [GlmTransform F] in
/-- The two distances from the middle of the tile are those from the middle of the texture. -/
theorem distances (onTile : vin.OnTile tile) (world : Vec2 F) :
    |(vin.unplace world).x| = |world.x - tile.1| ∧ |(vin.unplace world).y| = |world.y - tile.2| ∨
      |(vin.unplace world).x| = |world.y - tile.2| ∧
        |(vin.unplace world).y| = |world.x - tile.1| := by
  have offset : world - vin.position = ⟨world.x - tile.1, world.y - tile.2⟩ := by
    rw [onTile.position]
    rfl
  have turn := onTile.turn
  rw [unplace, onTile.scale, offset]
  simp only [div_one]
  rcases onTile.quarter with sideways | upright
  · right
    rw [sideways, mul_zero, zero_add] at turn
    rcases mul_self_eq_one_iff.mp turn with once | thrice
    · simp [sideways, once, abs_sub_comm]
    · simp [sideways, thrice, abs_sub_comm]
  · left
    rw [upright, mul_zero, add_zero] at turn
    rcases mul_self_eq_one_iff.mp turn with none | twice
    · simp [upright, none]
    · simp [upright, twice, abs_sub_comm]

end SpriteInstanceData.OnTile

omit [Glm F] [GlmTransform F] in
/-- Half a tile away from its middle, a sprite shows an edge of its texture. -/
theorem texel_edge {point : Vec2 F} (vin : SpriteInstanceData F) :
    (|point.x| = 1 / 2 → (vin.texel point).x = vin.uvMin.x ∨ (vin.texel point).x = vin.uvMax.x) ∧
      (|point.y| = 1 / 2 →
        (vin.texel point).y = vin.uvMin.y ∨ (vin.texel point).y = vin.uvMax.y) := by
  simp only [SpriteInstanceData.texel, literal_half, abs_eq (one_half_pos (α := F)).le]
  constructor
  · rintro (right | left)
    · right
      rw [right]
      ring
    · left
      rw [left]
      ring
  · rintro (top | bottom)
    · left
      rw [top]
      ring
    · right
      rw [bottom]
      ring

namespace SpriteInstanceData.OnTile

variable {world uv : Vec2 F}

/-- The triangles of a sprite hold its tile. -/
theorem spans (exact : ExactTransform F) (visible : camera.Visible) (onTile : vin.OnTile tile)
    (near : |world.x - tile.1| ≤ 1 / 2 ∧ |world.y - tile.2| ≤ 1 / 2) :
    ∃ uv, Spans (instanceVertices camera.getViewProjection vin) (camera.clip world) uv := by
  refine ⟨_, spans_of_unplace exact visible onTile.drawn ?_⟩
  rcases onTile.distances world with ⟨sameX, sameY⟩ | ⟨sameX, sameY⟩
  · rw [sameX, sameY]
    exact near
  · rw [sameX, sameY]
    exact near.symm

/-- A position in the triangles of a sprite is on its tile, or at the edge of its texture. -/
theorem near_or_edge (exact : ExactTransform F) (visible : camera.Visible)
    (onTile : vin.OnTile tile)
    (spans : Spans (instanceVertices camera.getViewProjection vin) (camera.clip world) uv) :
    (|world.x - tile.1| < 1 / 2 ∧ |world.y - tile.2| < 1 / 2) ∨
      (uv.x = vin.uvMin.x ∨ uv.x = vin.uvMax.x) ∨ uv.y = vin.uvMin.y ∨ uv.y = vin.uvMax.y := by
  obtain ⟨inside, rfl⟩ := unplace_of_spans exact visible onTile.drawn spans
  rcases inside.1.lt_or_eq with insideX | edgeX
  case inr => exact .inr (.inl ((texel_edge vin).1 edgeX))
  rcases inside.2.lt_or_eq with insideY | edgeY
  case inr => exact .inr (.inr ((texel_edge vin).2 edgeY))
  left
  rcases onTile.distances world with ⟨sameX, sameY⟩ | ⟨sameX, sameY⟩
  · exact ⟨sameX ▸ insideX, sameY ▸ insideY⟩
  · exact ⟨sameY ▸ insideY, sameX ▸ insideX⟩

end SpriteInstanceData.OnTile

/-! ## The position under the mouse -/

/-- The `ndc` of `ScreenPointToWorld`, for the position of the mouse. -/
def FrameEvents.ndc (given : FrameEvents F) (camera : Camera F) : Vec2 F :=
  ⟨ofU32 given.mouse.1.toUInt32 / ofU32 camera.windowDimensions.x * literal 2 - 1,
    ofU32 (camera.windowDimensions.y - given.mouse.2.toUInt32) / ofU32 camera.windowDimensions.y *
      literal 2 - 1⟩

/-- There is a window, and the mouse is over a part of the world whose tiles have numbers. -/
structure FrameEvents.Aims (given : FrameEvents F) (camera : Camera F) : Prop where
  width : 1 ≤ given.windowDimensions.x
  height : 1 ≤ given.windowDimensions.y
  atLeast : -2 ^ 31 ≤ (given.pointed camera).x ∧ -2 ^ 31 ≤ (given.pointed camera).y
  atMost : (given.pointed camera).x ≤ 2 ^ 31 - 1 ∧ (given.pointed camera).y ≤ 2 ^ 31 - 1

variable {given : FrameEvents F}

/-- The camera puts the position under the mouse back where the mouse is. -/
theorem FrameEvents.clip_pointed (exact : ExactTransform F) (visible : camera.Visible) :
    camera.clip (given.pointed camera) = given.ndc camera := by
  obtain ⟨scaleX, scaleY⟩ := visible.scale_pos
  rw [Camera.clip_eq exact visible, pointed, Camera.screenPointToWorld_eq exact visible, ndc,
    literal_two]
  apply Vec2.ext
  · dsimp only
    rw [add_sub_cancel_right, mul_div_cancel₀ _ scaleX.ne']
  · dsimp only
    rw [add_sub_cancel_right, mul_div_cancel₀ _ scaleY.ne']

omit [GlmTransform F] in
/-- The tile of a position is the one whose square the position is in. -/
theorem tile_near (exact : ExactTrunc F) {world : Vec2 F}
    (atLeast : -2 ^ 31 ≤ world.x ∧ -2 ^ 31 ≤ world.y)
    (atMost : world.x ≤ 2 ^ 31 - 1 ∧ world.y ≤ 2 ^ 31 - 1) :
    (|world.x - (BuildableMap.worldToTile world).1| ≤ 1 / 2 ∧
      |world.y - (BuildableMap.worldToTile world).2| ≤ 1 / 2) ∧
    ∀ tile : Int × Int, |world.x - tile.1| < 1 / 2 → |world.y - tile.2| < 1 / 2 →
      tile = BuildableMap.worldToTile world := by
  have column := roundsTo_trunc exact atLeast.1 atMost.1
  have row := roundsTo_trunc exact atLeast.2 atMost.2
  refine ⟨⟨column.elim le_of_lt fun tie => tie.1.le, row.elim le_of_lt fun tie => tie.1.le⟩, ?_⟩
  intro tile nearColumn nearRow
  exact Prod.ext (RoundsTo.unique (.inl nearColumn) column) (RoundsTo.unique (.inl nearRow) row)

/-! ## Frames -/

/-- The tile under the mouse is the one that is drawn there: the triangles of every sprite on it
hold the mouse, and a sprite whose triangles hold the mouse is on it or shows only its edge.  The
colour of the selected tower says whether a press of the button asks for it there. -/
structure Picks (mappings : ScancodeMappings) (mapData : MapData F) (given : FrameEvents F)
    (record : FrameRecord F R) : Prop where
  shown : ∀ vin : SpriteInstanceData F, vin.OnTile record.tilePos → ∃ uv : Vec2 F,
    Spans (instanceVertices record.camera.getViewProjection vin) (given.ndc record.camera) uv
  picked : ∀ (vin : SpriteInstanceData F) (tile : Int × Int) (uv : Vec2 F), vin.OnTile tile →
    Spans (instanceVertices record.camera.getViewProjection vin) (given.ndc record.camera) uv →
    tile = record.tilePos ∨ (uv.x = vin.uvMin.x ∨ uv.x = vin.uvMax.x) ∨
      uv.y = vin.uvMin.y ∨ uv.y = vin.uvMax.y
  asked : ∃ (buildable : Bool) (texture : Nat) (selection : SpriteInstanceData F),
    mapData.buildableMap.query (given.pointed record.camera) = .ok buildable ∧
    (buildable = true → mapData.buildableMap.Marks record.tilePos) ∧
    placements (enqueuedCommands record.actions) =
      (if given.leftPressed mappings ∧ buildable then
        [(record.selectedTowerTypeId, tilePosition record.tilePos)] else []) ∧
    (record.submissions.flatMap Submission.instances).getLast? =
      some (texture, some selection) ∧
    selection.position = tilePosition record.tilePos ∧
    selection.colorTint =
      if buildable then ⟨0, 1, 0, literal 0.3⟩ else ⟨1, 0, 0, literal 0.3⟩

namespace Engine

variable {mappings : ScancodeMappings} {platform : Platform F R}
  {std : ComparisonSort (SpriteDrawRequest F TextureData)} {fuel : Nat}
  {start engine : Engine F R} {past : List (FrameEvents F)}

/-- A frame in a window has a camera that shows something. -/
theorem FrameTrace.visible (trace : FrameTrace mappings platform std fuel engine given)
    (width : 1 ≤ given.windowDimensions.x) (height : 1 ≤ given.windowDimensions.y) :
    trace.camera.Visible := by
  obtain ⟨sameWindow, positive⟩ := Game.moveCamera_zooms trace.moved
  refine ⟨positive, ?_, ?_⟩
  · rw [sameWindow]
    exact width
  · rw [sameWindow]
    exact height

theorem FrameTrace.picks (exact : ExactTransform F) (rounds : ExactTrunc F) (ints : mappings.Ints)
    (trace : FrameTrace mappings platform std fuel engine given)
    (between : Between mappings start past engine) (aims : given.Aims trace.camera) :
    Picks mappings start.game.process.session.mapData given trace.shown := by
  have visible := trace.visible aims.width aims.height
  have isClip : trace.camera.clip (given.pointed trace.camera) = given.ndc trace.camera :=
    FrameEvents.clip_pointed exact visible
  obtain ⟨near, onlyOne⟩ := tile_near rounds aims.atLeast aims.atMost
  refine ⟨?_, ?_, ?_⟩
  · intro vin onTile
    show ∃ uv, Spans _ (given.ndc trace.camera) uv
    rw [← isClip]
    exact onTile.spans exact visible near
  · intro vin tile uv onTile spans
    replace spans : Spans _ (given.ndc trace.camera) uv := spans
    rw [← isClip] at spans
    exact (onTile.near_or_edge exact visible spans).imp_left fun inside =>
      onlyOne tile inside.1 inside.2
  · obtain ⟨sameMap, buildable, queried, placed⟩ :=
      Game.placements_update between.quiet trace.updated
    have accepted : buildable = trace.buildable := by
      have asked := trace.queried
      rw [sameMap] at asked
      exact Except.ok.inj (queried.symm.trans asked)
    have renders := trace.rendersSelection
    simp only [Game.renderSelection, bind_eq_ok, pure_eq_ok] at renders
    obtain ⟨_, _, isSelection⟩ := renders
    refine ⟨buildable, start.render.getSpriteTexture trace.selection,
      spriteInstance trace.selection, ?_, ?_, ?_, ?_, ?_, ?_⟩
    · rw [← between.mapData]
      exact queried
    · rintro rfl
      rw [← between.mapData]
      exact BuildableMap.marks_of_query queried
    · rw [leftMousePressed_eq ints between trace] at placed
      exact placed
    · rw [(trace.paints between).instances, List.map_append, List.map_singleton,
        List.getLast?_concat]
      rfl
    · rw [← isSelection]
      rfl
    · rw [← isSelection, accepted]
      cases trace.buildable with
      | false => rfl
      | true => rfl

/-- In every frame of a run, the player builds on the tile whose square holds the mouse. -/
theorem runInternal_picks {process : Process F R} {interpolatedState : GameState F R}
    {render : RenderContextDX11} {tilesetHelper : List (Tileset F TextureData)}
    {staticMapDrawList : List (SpriteDrawRequest F TextureData)} {finish : Engine F R}
    {frames : List (FrameEvents F)} {records : List (FrameRecord F R)}
    (exact : ExactTransform F) (rounds : ExactTrunc F) (ints : mappings.Ints)
    (executed : runInternal mappings platform std fuel
      (initialized (.initialized process interpolatedState) render tilesetHelper
        staticMapDrawList) frames = .ok (finish, records)) :
    ∀ frame ∈ frames.zip records, frame.1.Aims frame.2.camera →
      Picks mappings process.session.mapData frame.1 frame.2 := by
  have run := run_of_runInternal executed
  have each : List.Forall₂ (fun (given : FrameEvents F) record => given.Aims record.camera →
      Picks mappings process.session.mapData given record) (frames.take records.length) records :=
    run_forall ints (.initialized rfl) run fun _ _ _ trace between aims =>
      trace.picks exact rounds ints between aims
  rintro ⟨given, record⟩ member
  rw [List.zip, ← zipWith_take_length] at member
  exact (List.forall₂_iff_zip.mp each).2 member

end Engine

end Tiles

open Rational Engine in
/-- The click builds on the tile in the middle of the window, which is the one that is seen. -/
theorem Engine.click_picks : ∃ process record finish shown,
    clearing.fromMap platform 10 = .ok (process, record) ∧
    runInternal (fun _ => KeyCode.any.value) platform .merge 10 (clearingEngine process)
      [clickAndQuit, clickAndQuit] = .ok (finish, [shown]) ∧
    placements (enqueuedCommands shown.actions) = [(0, 0)] ∧
    Picks (fun _ => KeyCode.any.value) process.session.mapData clickAndQuit shown := by
  obtain ⟨process, record, finish, shown, loaded, executed, isCamera, placed⟩ := exists_click
  refine ⟨process, record, finish, shown, loaded, executed, placed, ?_⟩
  refine runInternal_picks exactTransform exactTrunc ScancodeMappings.any_ints executed
    (clickAndQuit, shown) List.mem_cons_self ?_
  have inWindow : 1 ≤ clickAndQuit.windowDimensions.x ∧ 1 ≤ clickAndQuit.windowDimensions.y := by
    decide
  refine ⟨inWindow.1, inWindow.2, ?_, ?_⟩
  · rw [isCamera, pointed_centered]
    decide +kernel
  · rw [isCamera, pointed_centered]
    decide +kernel

end TowerDefence
