import TowerDefence.Engine.Camera
import TowerDefence.Engine.DrawOrder
import TowerDefence.Engine.KeyEdges
import TowerDefence.Game.Placement
import TowerDefence.Model.Engine
import TowerDefence.Model.Transform

/-!
# Frames of the engine

A frame of the loop of `RunInternal` is a frame of the game whose input is what the camera and
the event stream make of the mouse.  The loop ends with the first frame in which the player
quits.
-/

namespace TowerDefence

open Foundations RenderContextDX11

variable {F R : Type}

/-! ## What is drawn -/

section Entities

variable [Arithmetic F]

/-- The entities of a state with their types, in the order in which they are drawn. -/
def GameState.typedEntities (mapData : MapData F) (state : GameState F R) :
    List (Entity F × Option EntityType) :=
  (state.enemies.map fun enemy =>
    (enemy.toEntity, mapData.enemyTypes[enemy.typeIdx]?.map EnemyType.toEntityType)) ++
  (state.towers.map fun tower =>
    (tower.toEntity, mapData.towerTypes[tower.typeIdx]?.map TowerType.toEntityType)) ++
  state.projectiles.map fun projectile =>
    (projectile.toEntity,
      mapData.projectileTypes[projectile.typeIdx]?.map ProjectileType.toEntityType)

/-- The sprite shows the tile of an entity where the entity is. -/
structure Portrays {T : Type} (tileset : List (Tileset F T)) (drawn : Entity F × Option EntityType)
    (sprite : SpriteDrawRequest F T) : Prop where
  position : sprite.position = drawn.1.position
  rotation : sprite.rotation = drawn.1.rotation
  scale : sprite.scale = ⟨1, 1⟩
  colorTint : sprite.colorTint = ⟨1, 1, 1, 1⟩
  src : ∃ type found, drawn.2 = some type ∧ TilesetHelper.getTileSpriteSrc tileset
    (UInt32.ofNat type.tileId) TilesetHelper.newSprite.src = .ok (found, sprite.src)

variable {T : Type} {tileset : List (Tileset F T)} {mapData : MapData F} {state : GameState F R}

omit [Arithmetic F] in
/-- The types that a loop over entities reads. -/
theorem typed_of_mapM {α β : Type} {items : List α} {types : List β} {typeIdx : α → Nat}
    {entity : α → Entity F} {base : β → EntityType} {typed : List (Entity F × EntityType)}
    (executed : (items.mapM fun item => do
      let type ← readAt types (typeIdx item)
      pure (entity item, base type)) = .ok typed) :
    (items.map fun item => (entity item, types[typeIdx item]?.map base)) =
      typed.map fun drawn => (drawn.1, some drawn.2) := by
  have each := forall₂_of_mapM executed
  clear executed
  induction each with
  | nil => rfl
  | cons first _ ih =>
      simp only [bind_eq_ok, pure_eq_ok, readAt_eq_ok] at first
      obtain ⟨type, found, rfl⟩ := first
      rw [List.map_cons, List.map_cons, ih, found]
      rfl

omit [Arithmetic F] in
theorem forEachEntity_typed {typed : List (Entity F × EntityType)}
    (executed : GameState.forEachEntity mapData state = .ok typed) :
    state.typedEntities mapData = typed.map fun drawn => (drawn.1, some drawn.2) := by
  simp only [GameState.forEachEntity, bind_eq_ok, pure_eq_ok] at executed
  obtain ⟨enemies, readEnemies, towers, readTowers, projectiles, readProjectiles, rfl⟩ := executed
  rw [GameState.typedEntities, typed_of_mapM readEnemies, typed_of_mapM readTowers,
    typed_of_mapM readProjectiles, List.map_append, List.map_append]

/-- Every entity gets its sprite, in the order of the collections. -/
theorem renderEntities_portrays {sprites : List (SpriteDrawRequest F T)}
    (executed : renderEntities tileset mapData state = .ok sprites) :
    List.Forall₂ (Portrays tileset) (state.typedEntities mapData) sprites := by
  simp only [renderEntities, bind_eq_ok] at executed
  obtain ⟨typed, read, drawn⟩ := executed
  rw [forEachEntity_typed read, List.forall₂_map_left_iff]
  refine foldlM_progress (fun done sprites => List.Forall₂
    (fun drawn sprite => Portrays tileset (drawn.1, some drawn.2) sprite) done sprites)
    drawn .nil ?_
  intro done entity sprites sprites' _ portrayed stepped
  simp only [renderEntity, bind_eq_ok, pure_eq_ok] at stepped
  obtain ⟨⟨found, src⟩, isSrc, rfl⟩ := stepped
  refine List.rel_append portrayed (.cons ?_ .nil)
  exact ⟨rfl, rfl, rfl, rfl, entity.2, found, rfl, isSrc⟩

end Entities

/-! ## What the player does in a frame -/

namespace FrameEvents

/-- The player quits. -/
def quits (given : FrameEvents F) : Bool := given.events.any fun polled => polled.event = .quit

/-- A press of the left mouse button was passed to the input, and nothing was consumed since. -/
def leftPressed (mappings : ScancodeMappings) (given : FrameEvents F) : Bool :=
  latched (Happening.passedDown mappings KeyCode.leftMouseButton.value) Happening.startsOver
    (given.events.map PolledEvent.happening)

/-- The position under the mouse. -/
def pointed [Arithmetic F] [Glm F] [GlmTransform F] (given : FrameEvents F) (camera : Camera F) :
    Vec2 F :=
  camera.screenPointToWorld given.mouse.1.toUInt32 given.mouse.2.toUInt32

end FrameEvents

/-! ## One frame -/

namespace Engine

section Frame

variable [Arithmetic F] [Glm F] [GlmTransform F] {mappings : ScancodeMappings}
  {platform : Platform F R} {std : ComparisonSort (SpriteDrawRequest F TextureData)} {fuel : Nat}
  {engine engine' : Engine F R} {given : FrameEvents F} {record : FrameRecord F R}

/-- The intermediate values of a frame, each with the step that computed it. -/
structure FrameTrace (mappings : ScancodeMappings) (platform : Platform F R)
    (std : ComparisonSort (SpriteDrawRequest F TextureData)) (fuel : Nat) (engine : Engine F R)
    (given : FrameEvents F) where
  input : Input
  quitRequested : Bool
  renderPerformanceStats : Bool
  camera : Camera F
  leftMousePressed : Bool
  game : Game F R
  actions : List (Action F)
  buildable : Bool
  towerType : TowerType F
  selection : SpriteDrawRequest F TextureData
  entities : List (SpriteDrawRequest F TextureData)
  map : Submission F
  world : Submission F
  effects : Submission F
  processed : processEvents mappings engine.input given.events = .ok (input, quitRequested)
  shortcut : debugShortcut engine input = .ok renderPerformanceStats
  moved : Game.moveCamera { engine.camera with windowDimensions := given.windowDimensions } input
    (Game.zoom engine.scaleFactorIdx input.getMouseWheelMotion) given.deltaTime = .ok camera
  isPressed : input.isKeyPressed .leftMouseButton = .ok leftMousePressed
  updated : engine.game.update platform fuel
    (given.toFrameInput (given.pointed camera) leftMousePressed) = .ok (game, actions)
  queried : game.process.session.mapData.buildableMap.query (given.pointed camera) = .ok buildable
  selected : readAt game.process.session.mapData.towerTypes engine.game.selectedTowerTypeId =
    .ok towerType
  rendersSelection : Game.renderSelection engine.tilesetHelper towerType
    (BuildableMap.worldToTile (given.pointed camera)) buildable = .ok selection
  rendersEntities : renderEntities engine.tilesetHelper game.process.session.mapData
    game.interpolatedState = .ok entities
  submittedMap : submit std engine.render fuel engine.staticMapDrawList camera
    given.windowDimensions false = .ok map
  submittedWorld : submit std { engine.render with stats := map.stats } fuel entities camera
    given.windowDimensions false = .ok world
  submittedEffects : submit std { engine.render with stats := world.stats } fuel [selection] camera
    given.windowDimensions false = .ok effects

/-- The engine after a frame. -/
def FrameTrace.after (trace : FrameTrace mappings platform std fuel engine given) : Engine F R :=
  { engine with
    camera := trace.camera
    input := trace.input
    render := { engine.render with stats := ⟨0, 0⟩ }
    lastFrameStats := trace.effects.stats
    renderPerformanceStats := trace.renderPerformanceStats && !given.performanceClosed
    game := trace.game
    scaleFactorIdx := Game.zoom engine.scaleFactorIdx trace.input.getMouseWheelMotion }

/-- The record of a frame. -/
def FrameTrace.shown (trace : FrameTrace mappings platform std fuel engine given) :
    FrameRecord F R where
  camera := trace.camera
  tilePos := BuildableMap.worldToTile (given.pointed trace.camera)
  actions := trace.actions
  interpolatedState := trace.game.interpolatedState
  selectedTowerTypeId := engine.game.selectedTowerTypeId
  submissions := [trace.map, trace.world, trace.effects]
  stats := trace.effects.stats
  controlFlow := if trace.quitRequested then .terminateGame else .continueRunning

theorem frame_eq_ok
    (executed : engine.frame mappings platform std fuel given = .ok (engine', record)) :
    ∃ trace : FrameTrace mappings platform std fuel engine given,
      engine' = trace.after ∧ record = trace.shown := by
  simp only [frame, update, updateAt, renderSprites, bind_eq_ok, pure_eq_ok] at executed
  obtain ⟨⟨input, quitRequested⟩, processed, renderPerformanceStats, shortcut, ⟨_, _⟩,
    ⟨camera, moved, leftMousePressed, isPressed, ⟨game, actions⟩, updated, buildable, queried,
      towerType, selected, selection, rendersSelection, entities, rendersEntities, _,
      ⟨map, submittedMap, rfl⟩, _, ⟨world, submittedWorld, rfl⟩, _,
      ⟨effects, submittedEffects, rfl⟩, isFrame⟩, isResult⟩ := executed
  cases isFrame
  cases isResult
  exact ⟨{ input, quitRequested, renderPerformanceStats, camera, leftMousePressed, game, actions,
           buildable, towerType, selection, entities, map, world, effects, processed, shortcut,
           moved, isPressed, updated, queried, selected, rendersSelection, rendersEntities,
           submittedMap, submittedWorld, submittedEffects }, rfl, rfl⟩

/-! ## What a frame keeps -/

/-- Events of some frames, as the input sees them. -/
def happenings (frames : List (FrameEvents F)) : List Happening :=
  frames.flatMap fun given => frameHappenings given.events

/-- What holds between two frames, after the ones that are given. -/
structure Between (mappings : ScancodeMappings) (start : Engine F R) (past : List (FrameEvents F))
    (engine : Engine F R) : Prop where
  tilesetHelper : engine.tilesetHelper = start.tilesetHelper
  staticMapDrawList : engine.staticMapDrawList = start.staticMapDrawList
  missingTexture : engine.render.missingTexture = start.render.missingTexture
  stats : engine.render.stats = ⟨0, 0⟩
  zoom : 0 ≤ engine.scaleFactorIdx ∧ engine.scaleFactorIdx ≤ 12
  quiet : engine.game.gameEvents = []
  mapData : engine.game.process.session.mapData = start.game.process.session.mapData
  input : Input.observeAll mappings .consume (happenings past) = .ok engine.input

omit [Arithmetic F] [Glm F] [GlmTransform F] in
theorem zoom_mem (scaleFactorIdx : Int) (wheelMotion : Int32) :
    0 ≤ Game.zoom scaleFactorIdx wheelMotion ∧ Game.zoom scaleFactorIdx wheelMotion ≤ 12 := by
  rw [Game.zoom]
  omega

theorem Between.after {start : Engine F R} {past : List (FrameEvents F)}
    (between : Between mappings start past engine)
    (trace : FrameTrace mappings platform std fuel engine given) :
    Between mappings start (past ++ [given]) trace.after where
  tilesetHelper := between.tilesetHelper
  staticMapDrawList := between.staticMapDrawList
  missingTexture := between.missingTexture
  stats := rfl
  zoom := zoom_mem _ _
  quiet := (Game.update_trace between.quiet trace.updated).quiet
  mapData := (Game.update_placements between.quiet trace.updated).2.trans between.mapData
  input := by
    obtain ⟨_, observed, rfl⟩ :=
      (processEvents_observes mappings engine.input given.events).exists_ok trace.processed
    rw [happenings, List.flatMap_append, List.flatMap_singleton, Input.observeAll,
      List.foldlM_append, bind_eq_ok]
    exact ⟨engine.input, between.input, observed⟩

omit [Glm F] [GlmTransform F] in
theorem Between.initialized {game : Game F R} {render : RenderContextDX11}
    {tilesetHelper : List (Tileset F TextureData)}
    {staticMapDrawList : List (SpriteDrawRequest F TextureData)} (quiet : game.gameEvents = []) :
    Between mappings (initialized game render tilesetHelper staticMapDrawList) []
      (initialized game render tilesetHelper staticMapDrawList) where
  tilesetHelper := rfl
  staticMapDrawList := rfl
  missingTexture := rfl
  stats := rfl
  zoom := show 0 ≤ (3 : Int) ∧ (3 : Int) ≤ 12 by decide
  quiet := quiet
  mapData := rfl
  input := rfl

/-! ## The loop -/

omit [Arithmetic F] [Glm F] [GlmTransform F] in
/-- Neither the user interface nor the input consumes the event that quits. -/
theorem pollEvent_quit {input input' : Input} {quit quit' : Bool} {polled : PolledEvent}
    (executed : pollEvent mappings (input, quit) polled = .ok (input', quit')) :
    quit' = (quit || polled.event = .quit) := by
  by_cases isQuit : polled.event = .quit
  · have passes : UIBindings.processWindowEvent polled ≠ .consumeEvent := by
      rw [UIBindings.processWindowEvent, isQuit]
      simp
    simp only [pollEvent, if_neg passes, bind_eq_ok] at executed
    obtain ⟨⟨_, controlFlow⟩, handled, executed⟩ := executed
    rw [isQuit, Input.processWindowEvent] at handled
    cases handled
    cases executed
    rfl
  · have keeps : (quit || decide (polled.event = .quit)) = quit := by simp [isQuit]
    rw [keeps]
    simp only [pollEvent] at executed
    split at executed
    case isTrue =>
      cases executed
      rfl
    case isFalse =>
      rw [bind_eq_ok] at executed
      obtain ⟨⟨_, controlFlow⟩, _, executed⟩ := executed
      dsimp only at executed
      split at executed
      case isTrue =>
        cases executed
        rfl
      case isFalse =>
        cases executed
        exact keeps

/-- The game terminates after the frame exactly if the player quits in it. -/
theorem terminates_iff (trace : FrameTrace mappings platform std fuel engine given) :
    trace.shown.controlFlow = .terminateGame ↔ ∃ polled ∈ given.events, polled.event = .quit := by
  have requested := foldlM_progress
    (fun done (state : Input × Bool) => state.2 = done.any fun polled => polled.event = .quit)
    trace.processed rfl fun done polled state state' _ before stepped => by
      rw [pollEvent_quit stepped, before, List.any_append, List.any_cons, List.any_nil,
        Bool.or_false]
  dsimp only at requested
  rw [FrameTrace.shown, requested]
  simp

/-- The frames of the loop are a run. -/
theorem run_of_runInternal {finish : Engine F R} {frames : List (FrameEvents F)}
    {records : List (FrameRecord F R)}
    (executed : runInternal mappings platform std fuel engine frames = .ok (finish, records)) :
    Run (frame mappings platform std fuel) engine (frames.take records.length) records finish := by
  induction frames generalizing engine records with
  | nil =>
      cases executed
      exact .nil _
  | cons given rest ih =>
      simp only [runInternal, bind_eq_ok] at executed
      obtain ⟨⟨next, record⟩, stepped, executed⟩ := executed
      split at executed
      case isTrue =>
        simp only [bind_eq_ok, pure_eq_ok] at executed
        obtain ⟨⟨_, others⟩, continued, isResult⟩ := executed
        cases isResult
        exact (Run.single stepped).append (ih continued)
      case isFalse =>
        cases executed
        exact .single stepped

/-- The loop ends with the first frame in which the player quits. -/
theorem length_records {finish : Engine F R} {frames : List (FrameEvents F)}
    {records : List (FrameRecord F R)}
    (executed : runInternal mappings platform std fuel engine frames = .ok (finish, records)) :
    records.length = min frames.length (frames.findIdx FrameEvents.quits + 1) := by
  induction frames generalizing engine records with
  | nil =>
      cases executed
      rfl
  | cons given rest ih =>
      simp only [runInternal, bind_eq_ok] at executed
      obtain ⟨⟨next, record⟩, stepped, executed⟩ := executed
      obtain ⟨trace, rfl, rfl⟩ := frame_eq_ok stepped
      have terminates : trace.shown.controlFlow = .terminateGame ↔ given.quits = true := by
        rw [terminates_iff, FrameEvents.quits]
        simp
      rw [List.findIdx_cons, List.length_cons]
      cases quits : given.quits with
      | true =>
          have ends : trace.shown.controlFlow ≠ .continueRunning := by
            rw [terminates.mpr quits]
            decide
          rw [if_neg ends] at executed
          cases executed
          rw [cond_true, List.length_singleton]
          omega
      | false =>
          have goesOn : trace.shown.controlFlow = .continueRunning := by
            cases isFlow : trace.shown.controlFlow with
            | continueRunning => rfl
            | terminateGame =>
                rw [terminates.mp isFlow] at quits
                cases quits
          rw [if_pos goesOn] at executed
          simp only [bind_eq_ok, pure_eq_ok] at executed
          obtain ⟨⟨_, others⟩, continued, isResult⟩ := executed
          cases isResult
          rw [List.length_cons, ih continued, cond_false]
          omega

/-! ## The game of the engine -/

section Refinement

variable {start : Engine F R} {past : List (FrameEvents F)}

/-- The left button counts as pressed if the frame has pressed it. -/
theorem leftMousePressed_eq (ints : mappings.Ints) (between : Between mappings start past engine)
    (trace : FrameTrace mappings platform std fuel engine given) :
    trace.leftMousePressed = given.leftPressed mappings := by
  obtain ⟨index, positive, sameValue, bit⟩ := Input.get_of_inRange
    (KeyCode.inRange (show KeyCode.leftMouseButton ≠ .any by decide) (by decide))
  have mirrors := Input.Mirrors.of_observeAll ints (between.after trace).input
  have pressed := mirrors.pressed index positive
  have asked := trace.isPressed
  rw [Input.isKeyPressed, bit, Except.ok.injEq] at asked
  rw [← asked, FrameEvents.leftPressed, ← sameValue]
  refine pressed.trans ?_
  rw [happenings, List.flatMap_append, List.flatMap_singleton, frameHappenings, List.append_cons]
  -- the new frame leaves nothing of what was before it
  have low : latched (Happening.passedDown mappings index) Happening.startsOver
      (happenings past ++ [.newFrame]) = false := by
    rw [latched_concat]
    rfl
  rw [latched, List.foldl_append]
  exact congrArg (fun bit => List.foldl _ bit (given.events.map PolledEvent.happening)) low

/-- The input that a frame hands to the game. -/
def gameInput (mappings : ScancodeMappings) (given : FrameEvents F) (record : FrameRecord F R) :
    FrameInput F :=
  given.toFrameInput (given.pointed record.camera) (given.leftPressed mappings)

/-- The frames of the engine are frames of the game, and the engine stays between frames. -/
theorem run_refines {finish : Engine F R} {frames : List (FrameEvents F)}
    {records : List (FrameRecord F R)} (ints : mappings.Ints)
    (initially : Between mappings start [] start)
    (run : Run (frame mappings platform std fuel) start frames records finish) :
    Run (Game.update platform fuel) start.game (List.zipWith (gameInput mappings) frames records)
        (records.map FrameRecord.actions) finish.game ∧
      Between mappings start frames finish := by
  induction run with
  | nil => exact ⟨.nil _, initially⟩
  | snoc before executed ih =>
      obtain ⟨games, between⟩ := ih
      obtain ⟨trace, rfl, rfl⟩ := frame_eq_ok executed
      refine ⟨?_, between.after trace⟩
      rw [List.zipWith_append before.length_eq, List.map_append]
      refine games.snoc ?_
      rw [gameInput, ← leftMousePressed_eq ints between trace]
      exact trace.updated

/-- What holds of every frame that follows a run holds along a run. -/
theorem run_each {finish : Engine F R} {frames : List (FrameEvents F)}
    {records : List (FrameRecord F R)} {holds : FrameEvents F → FrameRecord F R → Prop}
    (run : Run (frame mappings platform std fuel) start frames records finish)
    (each : ∀ (past : List (FrameEvents F)) (pastRecords : List (FrameRecord F R))
      (engine : Engine F R) (given : FrameEvents F)
      (trace : FrameTrace mappings platform std fuel engine given),
      Run (frame mappings platform std fuel) start past pastRecords engine →
        holds given trace.shown) :
    List.Forall₂ holds frames records := by
  induction run with
  | nil => exact .nil
  | snoc before executed ih =>
      obtain ⟨trace, rfl, rfl⟩ := frame_eq_ok executed
      exact List.rel_append ih (.cons (each _ _ _ _ trace before) .nil)

/-- What holds of every frame and the frames of the run before it holds along a run. -/
theorem run_eachAfter {finish : Engine F R} {frames : List (FrameEvents F)}
    {records : List (FrameRecord F R)} {holds : List (FrameRecord F R) → FrameRecord F R → Prop}
    (run : Run (frame mappings platform std fuel) start frames records finish)
    (each : ∀ (past : List (FrameEvents F)) (pastRecords : List (FrameRecord F R))
      (engine : Engine F R) (given : FrameEvents F)
      (trace : FrameTrace mappings platform std fuel engine given),
      Run (frame mappings platform std fuel) start past pastRecords engine →
        holds pastRecords trace.shown) :
    EachAfter holds records := by
  induction run with
  | nil => exact .nil
  | snoc before executed ih =>
      obtain ⟨trace, rfl, rfl⟩ := frame_eq_ok executed
      exact ih.concat (each _ _ _ _ trace before)

/-- What holds of every frame that starts between two frames holds along a run. -/
theorem run_forall {finish : Engine F R} {frames : List (FrameEvents F)}
    {records : List (FrameRecord F R)} {holds : FrameEvents F → FrameRecord F R → Prop}
    (ints : mappings.Ints) (initially : Between mappings start [] start)
    (run : Run (frame mappings platform std fuel) start frames records finish)
    (each : ∀ (past : List (FrameEvents F)) (engine : Engine F R) (given : FrameEvents F)
      (trace : FrameTrace mappings platform std fuel engine given),
      Between mappings start past engine → holds given trace.shown) :
    List.Forall₂ holds frames records :=
  run_each run fun _ _ _ _ trace before =>
    each _ _ _ trace (run_refines ints initially before).2

/-- The loop of the engine runs the game: it ends with the first frame in which the player
quits, and until then every frame updates the game with the position that the camera shows under
the mouse and with the presses of the left button that the user interface leaves over. -/
theorem runInternal_refines {process : Process F R} {interpolatedState : GameState F R}
    {render : RenderContextDX11} {tilesetHelper : List (Tileset F TextureData)}
    {staticMapDrawList : List (SpriteDrawRequest F TextureData)} {finish : Engine F R}
    {frames : List (FrameEvents F)} {records : List (FrameRecord F R)} (ints : mappings.Ints)
    (executed : runInternal mappings platform std fuel
      (initialized (.initialized process interpolatedState) render tilesetHelper
        staticMapDrawList) frames = .ok (finish, records)) :
    records.length = min frames.length (frames.findIdx FrameEvents.quits + 1) ∧
      runFrom (Game.update platform fuel) (.initialized process interpolatedState)
        (List.zipWith (gameInput mappings) frames records) =
          .ok (finish.game, records.map FrameRecord.actions) := by
  have run := run_of_runInternal executed
  refine ⟨length_records executed, ?_⟩
  have games := (run_refines ints (.initialized rfl) run).1.runFrom_eq
  rw [zipWith_take_length] at games
  exact games

end Refinement

end Frame

end Engine

/-! ## A click -/

section Clearing

open Rational Engine

/-- The tiles of the meadow in one row of a picture. -/
def Rational.tilesetHelper : List (Tileset ℚ TextureData) :=
  [{ textureWidth := 144, textureHeight := 16, margin := 0, spacing := 0, columns := 9
     tileCount := 9, tileWidth := 16, tileHeight := 16, firstTileIdx := 0
     baseTileRotations := List.replicate 9 0, texture := some ⟨1⟩ }]

/-- In a twentieth of a second the player presses the left button in the middle of the window,
and quits. -/
def Rational.clickAndQuit : FrameEvents ℚ where
  windowDimensions := ⟨640, 480⟩
  deltaTime := 1 / 20
  events :=
    [{ event := .mouseButtonDown 1, wantCaptureMouse := false, wantCaptureKeyboard := false
       imguiConsumedEvent := false },
     { event := .quit, wantCaptureMouse := false, wantCaptureKeyboard := false
       imguiConsumedEvent := false }]
  mouse := (320, 240)
  dtScaleClicked _ := false
  enemySelected _ := false
  enemiesToSpawn count := count
  spawnClicked := false
  despawnClicked := false
  addGoldClicked := false
  towerClicked _ := false
  performanceClosed := false

/-- An engine that plays on the clearing, which is drawn as one sprite. -/
def Rational.clearingEngine (process : Process ℚ Nat) : Engine ℚ Nat :=
  initialized (.initialized process clearing.otherBuffer)
    { missingTexture := ⟨0⟩, stats := ⟨0, 0⟩ } Rational.tilesetHelper [TilesetHelper.newSprite]

/-- The camera in the first frame. -/
def Rational.centered : Camera ℚ where
  position := 0
  pixelsPerUnit := 64
  snapToPixel := true
  windowDimensions := ⟨640, 480⟩

theorem Rational.pointed_centered : clickAndQuit.pointed centered = 0 := by
  have visible : centered.Visible := ⟨by norm_num [centered], by decide, by decide⟩
  rw [FrameEvents.pointed, Camera.screenPointToWorld_eq exactTransform visible]
  decide +kernel

/-- A first frame that ends the loop on the clearing, with the camera and the position under the
mouse that are given: the matrices cannot be computed with, but what they do to the mouse is
known. -/
theorem Rational.exists_frame {α : Type} (loading : Exec (Process ℚ Nat × α))
    (mappings : ScancodeMappings) {given : FrameEvents ℚ} {camera : Camera ℚ} {world : Vec2 ℚ}
    (check : FrameRecord ℚ Nat → Bool) (seen : given.pointed camera = world)
    (passes : succeedsWith (fun loaded : Process ℚ Nat × α =>
        let engine := clearingEngine loaded.1
        let start := { engine.camera with windowDimensions := given.windowDimensions }
        succeedsWith (fun polled =>
            let input := polled.1
            let zoomed := Game.zoom engine.scaleFactorIdx input.getMouseWheelMotion
            succeedsWith (fun renderPerformanceStats => succeedsWith (fun moved =>
                  decide (moved = camera) &&
                    succeedsWith (fun framed : Engine ℚ Nat × FrameRecord ℚ Nat =>
                        let shown : FrameRecord ℚ Nat :=
                          { framed.2 with stats := (present framed.1.render).2 }
                        decide (shown.controlFlow = .terminateGame ∧ shown.camera = camera ∧
                          check shown = true))
                      (updateAt platform .merge 10
                        { engine with
                          camera := start, input, renderPerformanceStats
                          scaleFactorIdx := zoomed }
                        given polled.2 camera world))
                (Game.moveCamera start input zoomed given.deltaTime))
              (engine.debugShortcut input))
          (processEvents mappings engine.input given.events))
      loading = true) :
    ∃ process record finish shown, loading = .ok (process, record) ∧
      runInternal mappings platform .merge 10 (clearingEngine process) [given, given] =
        .ok (finish, [shown]) ∧
      shown.camera = camera ∧ check shown = true := by
  obtain ⟨⟨process, record⟩, loaded, checked⟩ := exists_ok_of_succeedsWith _ _ passes
  obtain ⟨⟨input, quitRequested⟩, processed, checked⟩ := exists_ok_of_succeedsWith _ _ checked
  obtain ⟨renderPerformanceStats, shortcut, checked⟩ := exists_ok_of_succeedsWith _ _ checked
  obtain ⟨moved, moves, checked⟩ := exists_ok_of_succeedsWith _ _ checked
  obtain ⟨isCamera, checked⟩ := Bool.and_eq_true_iff.mp checked
  obtain ⟨⟨next, shown⟩, executed, checked⟩ := exists_ok_of_succeedsWith _ _ checked
  obtain ⟨terminates, isShown⟩ := of_decide_eq_true checked
  rw [← seen] at executed
  rw [of_decide_eq_true isCamera] at moves
  obtain ⟨finish, framed⟩ : ∃ finish, frame mappings platform .merge 10 (clearingEngine process)
      given = .ok (finish, { shown with stats := (present next.render).2 }) := by
    simp only [frame, update, bind_eq_ok, pure_eq_ok]
    exact ⟨_, _, processed, _, shortcut, _, ⟨_, moves, executed⟩, rfl⟩
  refine ⟨process, record, finish, { shown with stats := (present next.render).2 }, loaded, ?_,
    isShown⟩
  simp only [runInternal, framed, bind_eq_ok]
  refine ⟨_, rfl, ?_⟩
  rw [terminates]
  rfl

/-- The first frame asks for a tower in the middle, and the second one does not happen. -/
theorem Rational.exists_click : ∃ process record finish shown,
    clearing.fromMap platform 10 = .ok (process, record) ∧
    runInternal (fun _ => KeyCode.any.value) platform .merge 10 (clearingEngine process)
      [clickAndQuit, clickAndQuit] = .ok (finish, [shown]) ∧
    shown.camera = centered ∧ placements (enqueuedCommands shown.actions) = [(0, 0)] := by
  obtain ⟨process, record, finish, shown, loaded, executed, isCamera, placed⟩ :=
    exists_frame (clearing.fromMap platform 10) (fun _ => KeyCode.any.value)
      (fun shown => decide (placements (enqueuedCommands shown.actions) = [(0, 0)]))
      pointed_centered (by decide +kernel)
  exact ⟨process, record, finish, shown, loaded, executed, isCamera, of_decide_eq_true placed⟩

theorem Engine.click_refines : ∃ process record finish records,
    clearing.fromMap platform 10 = .ok (process, record) ∧
    runInternal (fun _ => KeyCode.any.value) platform .merge 10 (clearingEngine process)
      [clickAndQuit, clickAndQuit] = .ok (finish, records) ∧
    records.length = min 2 (List.findIdx FrameEvents.quits [clickAndQuit, clickAndQuit] + 1) ∧
    runFrom (Game.update platform 10) (.initialized process clearing.otherBuffer)
      (List.zipWith (gameInput fun _ => KeyCode.any.value) [clickAndQuit, clickAndQuit] records) =
        .ok (finish.game, records.map FrameRecord.actions) := by
  obtain ⟨process, record, finish, shown, loaded, executed, _⟩ := exists_click
  exact ⟨process, record, finish, _, loaded, executed,
    runInternal_refines ScancodeMappings.any_ints executed⟩

end Clearing

end TowerDefence
