import TowerDefence.Model.Game
import TowerDefence.Model.Input
import TowerDefence.Model.Render
import TowerDefence.Model.Tileson

/-!
# A frame of the engine

The loop of `Engine::RunInternal` with the rest of `Game::Update` around the fixed steps: the
zoom and the motion of the camera, the tile under the mouse, and what is drawn.  The widgets of
the user interface and the debug renderer are left out; what the player does with the widgets is
given for every frame.  The sounds are actions of a frame, and the health bars are drawn over it.

The model of the drawing ends with the vertices that `VSMain` hands to the device.
-/

namespace TowerDefence

open Foundations

variable {F R : Type}

/-! ## `sprites.hlsl` -/

/-- `PSInput`. -/
structure PSInput (F : Type) where
  pos : Vec4 F
  colorTint : Vec4 F
  uv : Vec2 F
  deriving DecidableEq, Repr

namespace RenderContextDX11

section Shader

variable [Arithmetic F] [Glm F]

/-- `quadVertices`. -/
def quadVertices : List (Vec2 F) :=
  [⟨-literal 0.5, literal 0.5⟩, ⟨literal 0.5, literal 0.5⟩, ⟨literal 0.5, -literal 0.5⟩,
    ⟨-literal 0.5, -literal 0.5⟩]

/-- `quadUVs`, centered around the origin for scaling in the shader. -/
def quadUVs : List (Vec2 F) :=
  [⟨-literal 0.5, -literal 0.5⟩, ⟨literal 0.5, -literal 0.5⟩, ⟨literal 0.5, literal 0.5⟩,
    ⟨-literal 0.5, literal 0.5⟩]

/-- `quadIdxs`, a list of triangles. -/
def quadIdxs : List (Nat × Nat × Nat) := [(0, 1, 2), (2, 3, 0)]

/-- `VSMain`, for a vertex of the quad and an instance. -/
def vsMain (viewProjection : Mat4 F) (pos uv : Vec2 F) (vin : SpriteInstanceData F) :
    PSInput F :=
  let pos : Vec2 F := ⟨pos.x * vin.scale.x, pos.y * vin.scale.y⟩
  let angleCos := Glm.cos vin.rotation
  let angleSin := Glm.sin vin.rotation
  let pos : Vec2 F := ⟨angleCos * pos.x - angleSin * pos.y, angleSin * pos.x + angleCos * pos.y⟩
  let pos := pos + vin.position
  let uvScale : Vec2 F := ⟨vin.uvMax.x - vin.uvMin.x, vin.uvMax.y - vin.uvMin.y⟩
  let uvTranslation : Vec2 F :=
    ⟨literal 0.5 * uvScale.x + vin.uvMin.x, literal 0.5 * uvScale.y + vin.uvMin.y⟩
  { pos := viewProjection * (⟨pos.x, pos.y, 0, 1⟩ : Vec4 F)
    colorTint := vin.colorTint
    uv := ⟨uv.x * uvScale.x + uvTranslation.x, uv.y * uvScale.y + uvTranslation.y⟩ }

/-- The vertices of an instance. -/
def instanceVertices (viewProjection : Mat4 F) (vin : SpriteInstanceData F) : List (PSInput F) :=
  List.zipWith (fun pos uv => vsMain viewProjection pos uv vin) quadVertices quadUVs

end Shader

end RenderContextDX11

/-! ## `GameSession::RenderWorld` -/

section RenderWorld

variable [Arithmetic F]

/-- `RenderEntity`. -/
def renderEntity {T : Type} (tileset : List (Tileset F T))
    (drawList : List (SpriteDrawRequest F T)) (entity : Entity F × EntityType) :
    Exec (List (SpriteDrawRequest F T)) := do
  let sprite : SpriteDrawRequest F T := TilesetHelper.newSprite
  let sprite := { sprite with position := entity.1.position, rotation := entity.1.rotation }
  let (_, src) ←
    TilesetHelper.getTileSpriteSrc tileset (UInt32.ofNat entity.2.tileId) sprite.src
  pure (drawList ++ [{ sprite with src }])

/-- The entities that `RenderWorld` draws. -/
def renderEntities {T : Type} (tileset : List (Tileset F T)) (mapData : MapData F)
    (interpolatedState : GameState F R) : Exec (List (SpriteDrawRequest F T)) := do
  let entities ← GameState.forEachEntity mapData interpolatedState
  entities.foldlM (renderEntity tileset) []

end RenderWorld

/-! ## The rest of `Game::Update` -/

namespace Game

variable [Arithmetic F]

/-- `SCALE_FACTORS`. -/
def scaleFactors : List F :=
  [literal 4, literal 3, literal 2, literal 1, 1 / literal 2, 1 / literal 3, 1 / literal 4,
    1 / literal 5, 1 / literal 6, 1 / literal 7, 1 / literal 8, 1 / literal 9, 1 / literal 10]

/-- `basePPU`. -/
def basePPU : F := literal 64

/-- `CAMERA_SPEED`. -/
def cameraSpeed : F := literal 5

/-- The wheel turns the scale factor, between the first and the last one. -/
def zoom (scaleFactorIdx : Int) (wheelMotion : Int32) : Int :=
  let scaleFactorIdx := wrapI32 (scaleFactorIdx - wheelMotion.toInt)
  min (max scaleFactorIdx 0) 12

/-- `cameraMovInput`, after the four keys. -/
def cameraMovInput (input : Input) : Exec (Vec2 F) := do
  let move : Vec2 F := 0
  let move : Vec2 F := if ← input.isKeyHeld .s then ⟨move.x, move.y - 1⟩ else move
  let move : Vec2 F := if ← input.isKeyHeld .w then ⟨move.x, move.y + 1⟩ else move
  let move : Vec2 F := if ← input.isKeyHeld .a then ⟨move.x - 1, move.y⟩ else move
  let move : Vec2 F := if ← input.isKeyHeld .d then ⟨move.x + 1, move.y⟩ else move
  pure move

/-- The camera after the keys and the zoom. -/
def moveCamera [Glm F] (camera : Camera F) (input : Input) (scaleFactorIdx : Int) (deltaTime : F) :
    Exec (Camera F) := do
  let cameraMovInput : Vec2 F ← cameraMovInput input
  let scaleFactor : F ← readAt scaleFactors scaleFactorIdx.toNat
  let lengthSqr := Glm.dot cameraMovInput cameraMovInput
  let position :=
    if 0 < lengthSqr then
      let cameraMovInput : Vec2 F := cameraMovInput / Glm.sqrt lengthSqr
      let motion : Vec2 F := cameraMovInput * deltaTime
      let motion : Vec2 F := motion * (cameraSpeed : F)
      camera.position + motion * (1 / scaleFactor)
    else
      camera.position
  pure { camera with position, pixelsPerUnit := basePPU * scaleFactor }

/-- The sprite that shows the selected tower on the tile under the mouse. -/
def renderSelection {T : Type} (tileset : List (Tileset F T)) (towerType : TowerType F)
    (tilePos : Int × Int) (buildable : Bool) : Exec (SpriteDrawRequest F T) := do
  let selectionColor : Vec4 F :=
    if buildable then ⟨0, 1, 0, literal 0.1⟩ else ⟨1, 0, 0, literal 0.1⟩
  let sprite : SpriteDrawRequest F T := TilesetHelper.newSprite
  let (_, src) ←
    TilesetHelper.getTileSpriteSrc tileset (UInt32.ofNat towerType.tileId) sprite.src
  pure
    { sprite with
      src
      position := ⟨ofInt tilePos.1, ofInt tilePos.2⟩
      colorTint := ⟨selectionColor.x, selectionColor.y, selectionColor.z, literal 0.3⟩
      layer := 5 }

end Game

/-! ## `Engine` -/

/-- `Engine`, with the draw list of the map and the static zoom of `Game::Update`. -/
structure Engine (F R : Type) where
  camera : Camera F
  input : Input
  render : RenderContextDX11
  lastFrameStats : RenderStats
  enableDebugShortcuts : Bool
  renderPerformanceStats : Bool
  game : Game F R
  tilesetHelper : List (Tileset F RenderContextDX11.TextureData)
  staticMapDrawList : List (SpriteDrawRequest F RenderContextDX11.TextureData)
  scaleFactorIdx : Int

/-- What a frame receives: the size of the window, the frame time, the polled events, the
position of the mouse, and what the player does with the widgets. -/
structure FrameEvents (F : Type) where
  windowDimensions : UVec2
  deltaTime : F
  events : List PolledEvent
  mouse : Int32 × Int32
  dtScaleClicked : Nat → Bool
  enemySelected : Nat → Bool
  enemiesToSpawn : Int → Int
  spawnClicked : Bool
  despawnClicked : Bool
  addGoldClicked : Bool
  towerClicked : Nat → Bool
  performanceClosed : Bool

/-- What the fixed-step part of `Game::Update` reads of it. -/
def FrameEvents.toFrameInput (given : FrameEvents F) (world : Vec2 F) (leftMousePressed : Bool) :
    FrameInput F :=
  { given with world, leftMousePressed }

/-- `IGame::ControlFlow`. -/
inductive ControlFlow where
  | continueRunning
  | terminateGame
  deriving DecidableEq, Repr

/-- What a frame shows and does: the camera it is drawn with, the tile under the mouse, the
actions and the state of the game, the selected tower, the submitted sprites and the
statistics. -/
structure FrameRecord (F R : Type) where
  camera : Camera F
  tilePos : Int × Int
  actions : List (Action F)
  interpolatedState : GameState F R
  selectedTowerTypeId : Nat
  submissions : List (RenderContextDX11.Submission F)
  stats : RenderStats
  controlFlow : ControlFlow

namespace Engine

open RenderContextDX11

variable [Arithmetic F] [Glm F] [GlmTransform F]

/-- `RenderSprites`. -/
def renderSprites (std : ComparisonSort (SpriteDrawRequest F TextureData)) (fuel : Nat)
    (camera : Camera F) (windowDimensions : UVec2) (render : RenderContextDX11)
    (sprites : List (SpriteDrawRequest F TextureData)) (sortBeforeRendering : Bool) :
    Exec (RenderContextDX11 × Submission F) := do
  let submission ← submit std render fuel sprites camera windowDimensions sortBeforeRendering
  pure ({ render with stats := submission.stats }, submission)

omit [Arithmetic F] [Glm F] [GlmTransform F] in
/-- `Present`: the statistics of the frame; they start again from zero. -/
def present (render : RenderContextDX11) : RenderContextDX11 × RenderStats :=
  ({ render with stats := ⟨0, 0⟩ }, render.stats)

omit [Arithmetic F] [Glm F] [GlmTransform F] in
/-- The debug shortcut of `RunInternal`. -/
def debugShortcut (engine : Engine F R) (input : Input) : Exec Bool := do
  if engine.enableDebugShortcuts ∧ (← input.isKeyHeld .leftAlt) then
    if ← input.isKeyPressed .p then
      pure (!engine.renderPerformanceStats)
    else
      pure engine.renderPerformanceStats
  else
    pure engine.renderPerformanceStats

/-- `Game::Update` from the point on where the position under the mouse is known. -/
def updateAt (platform : Platform F R) (std : ComparisonSort (SpriteDrawRequest F TextureData))
    (fuel : Nat) (engine : Engine F R) (given : FrameEvents F) (quitRequestedByUser : Bool)
    (camera : Camera F) (world : Vec2 F) : Exec (Engine F R × FrameRecord F R) := do
  let tilePos := BuildableMap.worldToTile world
  let leftMousePressed ← engine.input.isKeyPressed .leftMouseButton
  let (game, actions) ←
    engine.game.update platform fuel (given.toFrameInput world leftMousePressed)
  let mapData := game.process.session.mapData
  let buildable ← mapData.buildableMap.query world
  let selectedTowerTypeId := engine.game.selectedTowerTypeId
  let towerType ← readAt mapData.towerTypes selectedTowerTypeId
  let selection ← Game.renderSelection engine.tilesetHelper towerType tilePos buildable
  let entities ← renderEntities engine.tilesetHelper mapData game.interpolatedState
  let window := given.windowDimensions
  let (render, map) ←
    renderSprites std fuel camera window engine.render engine.staticMapDrawList false
  let (render, entities) ← renderSprites std fuel camera window render entities false
  let (render, effects) ← renderSprites std fuel camera window render [selection] false
  pure
    ({ engine with camera, game, render },
      { camera, tilePos, actions, selectedTowerTypeId
        interpolatedState := game.interpolatedState
        submissions := [map, entities, effects]
        stats := render.stats
        controlFlow := if quitRequestedByUser then .terminateGame else .continueRunning })

/-- `Game::Update`. -/
def update (platform : Platform F R) (std : ComparisonSort (SpriteDrawRequest F TextureData))
    (fuel : Nat) (engine : Engine F R) (given : FrameEvents F) (quitRequestedByUser : Bool) :
    Exec (Engine F R × FrameRecord F R) := do
  let scaleFactorIdx := Game.zoom engine.scaleFactorIdx engine.input.getMouseWheelMotion
  let camera ← Game.moveCamera engine.camera engine.input scaleFactorIdx given.deltaTime
  let world := camera.screenPointToWorld given.mouse.1.toUInt32 given.mouse.2.toUInt32
  updateAt platform std fuel { engine with scaleFactorIdx } given quitRequestedByUser camera world

/-- One iteration of the loop of `RunInternal`. -/
def frame (mappings : ScancodeMappings) (platform : Platform F R)
    (std : ComparisonSort (SpriteDrawRequest F TextureData)) (fuel : Nat) (engine : Engine F R)
    (given : FrameEvents F) : Exec (Engine F R × FrameRecord F R) := do
  let camera := { engine.camera with windowDimensions := given.windowDimensions }
  let (input, quitRequested) ← processEvents mappings engine.input given.events
  let renderPerformanceStats ← engine.debugShortcut input
  let engine := { engine with camera, input, renderPerformanceStats }
  let (engine, record) ← engine.update platform std fuel given quitRequested
  let (render, lastFrameStats) := present engine.render
  pure
    ({ engine with
        render, lastFrameStats
        renderPerformanceStats := engine.renderPerformanceStats && !given.performanceClosed },
      { record with stats := lastFrameStats })

/-- The loop of `RunInternal`, for the frames that are given: it ends with the frame after which
the game terminates. -/
def runInternal (mappings : ScancodeMappings) (platform : Platform F R)
    (std : ComparisonSort (SpriteDrawRequest F TextureData)) (fuel : Nat) :
    Engine F R → List (FrameEvents F) → Exec (Engine F R × List (FrameRecord F R))
  | engine, [] => pure (engine, [])
  | engine, given :: rest => do
      let (engine, record) ← engine.frame mappings platform std fuel given
      if record.controlFlow = .continueRunning then do
        let (engine, records) ← runInternal mappings platform std fuel engine rest
        pure (engine, record :: records)
      else
        pure (engine, [record])

/-- The engine after `Game::Initialize`. -/
def initialized (game : Game F R) (render : RenderContextDX11)
    (tilesetHelper : List (Tileset F TextureData))
    (staticMapDrawList : List (SpriteDrawRequest F TextureData)) : Engine F R where
  camera :=
    { position := 0, pixelsPerUnit := literal 64, snapToPixel := true
      windowDimensions := ⟨1, 1⟩ }
  input := Input.create .consume
  render := { render with stats := ⟨0, 0⟩ }
  lastFrameStats := ⟨0, 0⟩
  enableDebugShortcuts := true
  renderPerformanceStats := true
  game
  tilesetHelper
  staticMapDrawList
  scaleFactorIdx := 3

end Engine

end TowerDefence
