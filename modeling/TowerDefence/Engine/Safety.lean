import TowerDefence.Engine.Frames
import TowerDefence.Engine.TileAtlas
import TowerDefence.Game.Safety
import TowerDefence.Map.FileTiles

/-!
# Index safety of the engine

From the file of the map to the last frame, whatever the player does, no table, buffer or vector
is accessed outside its bounds.
-/

namespace TowerDefence

open Foundations RenderContextDX11

variable {F R : Type}

/-! ## The input -/

section Input

variable {mappings : ScancodeMappings} {past happenings : List Happening} {input : Input}

/-- A stream of happenings whose keys have entries is observed to its end. -/
theorem Input.Mirrors.observes (mirrors : input.Mirrors mappings past)
    (inRange : ∀ happening ∈ happenings, ∀ event, happening = .passed event →
      event.InRange mappings) :
    ∃ observed, happenings.foldlM (Input.observe mappings) input = .ok observed ∧
      observed.Mirrors mappings (past ++ happenings) := by
  induction happenings generalizing past input with
  | nil =>
      rw [List.append_nil]
      exact ⟨input, rfl, mirrors⟩
  | cons happening rest ih =>
      obtain ⟨next, stepped, follows⟩ :=
        mirrors.observe fun event => inRange happening List.mem_cons_self event
      obtain ⟨observed, executed, last⟩ :=
        ih follows fun later member => inRange later (List.mem_cons_of_mem _ member)
      refine ⟨observed, ?_, ?_⟩
      · rw [List.foldlM_cons, bind_eq_ok]
        exact ⟨next, stepped, executed⟩
      · rw [List.append_cons]
        exact last

/-- The events of a frame are processed. -/
theorem Engine.processEvents_succeeds (mirrors : input.Mirrors mappings past)
    {events : List PolledEvent} (inRange : ∀ polled ∈ events, polled.event.InRange mappings) :
    ∃ result, processEvents mappings input events = .ok result ∧
      result.1.Mirrors mappings (past ++ frameHappenings events) := by
  obtain ⟨observed, executed, follows⟩ : ∃ observed,
      (frameHappenings events).foldlM (Input.observe mappings) input = .ok observed ∧
        observed.Mirrors mappings (past ++ frameHappenings events) := by
    apply mirrors.observes
    intro happening member event isPassed
    rw [isPassed, frameHappenings] at member
    rcases List.mem_cons.mp member with isNew | isPolled
    · cases isNew
    · obtain ⟨polled, isEvent, isHappening⟩ := List.mem_map.mp isPolled
      rw [PolledEvent.happening] at isHappening
      split at isHappening
      · cases isHappening
      · cases isHappening
        exact inRange polled isEvent
  obtain ⟨result, processed, same⟩ :=
    (processEvents_observes mappings input events).exists_ok_left executed
  exact ⟨result, processed, same ▸ follows⟩

theorem Input.exists_get {key : KeyCode} (notAny : key ≠ .any) (notCount : key ≠ .count)
    (bitset : KeysBitset) : ∃ bit, Input.get bitset key = .ok bit := by
  obtain ⟨index, _, _, bit⟩ := Input.get_of_inRange (KeyCode.inRange notAny notCount)
  exact ⟨bitset index, bit bitset⟩

end Input

/-! ## Drawing -/

section Drawing

variable [Arithmetic F] [Glm F] {context : RenderContextDX11}
  {drawList : List (SpriteDrawRequest F TextureData)}

namespace RenderContextDX11

theorem fillBatch_avoids {currentTexture fuel : Nat} {state : BatchState F}
    (inList : state.spriteIdx < drawList.length) (room : state.spritesInBatch < maxBatchSize)
    (size : state.spriteInstanceBuff.length = maxBatchSize) :
    Avoids Fault.outOfBounds (fun _ => True)
      (fillBatch context drawList currentTexture fuel state) := by
  induction fuel generalizing state with
  | zero => exact Fault.noConfusion
  | succ fuel ih =>
      rw [fillBatch]
      apply Avoids.bind (readAt_avoids inList)
      intro sprite _
      dsimp only
      split
      case isTrue => exact trivial
      case isFalse =>
        rw [writeAt, if_pos (size ▸ room)]
        show Avoids _ _ (if _ then _ else _)
        split
        case isTrue goesOn =>
          exact ih goesOn.2 goesOn.1 (by rw [List.length_set, size])
        case isFalse => exact trivial

theorem drawSprites_avoids {batchFuel fuel spriteIdx : Nat} {stats : RenderStats} :
    Avoids Fault.outOfBounds (fun _ => True)
      (drawSprites context drawList batchFuel fuel spriteIdx stats) := by
  induction fuel generalizing spriteIdx stats with
  | zero =>
      unfold drawSprites
      split
      case isTrue => exact Fault.noConfusion
      case isFalse => exact trivial
  | succ fuel ih =>
      unfold drawSprites
      split
      case isFalse => exact trivial
      case isTrue inList =>
        apply Avoids.bind (readAt_avoids inList)
        intro sprite _
        apply Avoids.bind (fillBatch_avoids inList (show 0 < maxBatchSize by decide)
          List.length_replicate)
        intro batch _
        apply Avoids.bind ih
        intro rest _
        exact trivial

theorem submit_avoids [GlmTransform F] {std : ComparisonSort (SpriteDrawRequest F TextureData)}
    {fuel : Nat} {camera : Camera F} {windowDimensions : UVec2} {sortBeforeRendering : Bool} :
    Avoids Fault.outOfBounds (fun _ => True)
      (submit std context fuel drawList camera windowDimensions sortBeforeRendering) := by
  rw [submit]
  apply Avoids.bind drawSprites_avoids
  intro drawn _
  exact trivial

end RenderContextDX11

/-- Every tile is looked up without a fault; one of no tileset leaves the sprite as it is. -/
def TilesetHelper.Sound {T : Type} (tilesets : List (Tileset F T)) : Prop :=
  ∀ (tileIdx : UInt32) (outSrc : SpriteSource F T), ∃ result : Bool × SpriteSource F T,
    TilesetHelper.getTileSpriteSrc tilesets tileIdx outSrc = .ok result

omit [Glm F] in
theorem renderEntities_avoids {T : Type} {tilesets : List (Tileset F T)} {mapData : MapData F}
    {state : GameState F R} (tiles : TilesetHelper.Sound tilesets)
    (safe : state.IndexSafe mapData) :
    Avoids Fault.outOfBounds (fun _ => True) (renderEntities tilesets mapData state) := by
  apply Avoids.bind (GameState.forEachEntity_avoids safe)
  intro entities _
  apply Avoids.foldlM (fun _ => True) trivial
  intro entity drawn _ _
  obtain ⟨result, found⟩ :=
    tiles (UInt32.ofNat entity.2.tileId) (TilesetHelper.newSprite : SpriteDrawRequest F T).src
  rw [renderEntity, found]
  exact trivial

end Drawing

/-! ## Frames -/

namespace Engine

section Frames

variable [Arithmetic F] [Glm F] {mappings : ScancodeMappings} {mapData : MapData F}
  {engine : Engine F R} {given : FrameEvents F} {input : Input}

omit [Glm F] in
theorem cameraMovInput_succeeds (input : Input) :
    ∃ move : Vec2 F, Game.cameraMovInput input = .ok move := by
  have held : ∀ key : KeyCode, key ≠ .any → key ≠ .count →
      ∃ bit, input.isKeyHeld key = .ok bit := fun key notAny notCount =>
    Input.exists_get notAny notCount input.held
  obtain ⟨down, isDown⟩ := held .s (by decide) (by decide)
  obtain ⟨up, isUp⟩ := held .w (by decide) (by decide)
  obtain ⟨left, isLeft⟩ := held .a (by decide) (by decide)
  obtain ⟨right, isRight⟩ := held .d (by decide) (by decide)
  simp only [Game.cameraMovInput, isDown, isUp, isLeft, isRight, bind_eq_ok, pure_eq_ok]
  exact ⟨_, _, rfl, _, rfl, _, rfl, _, rfl, rfl⟩

/-- The scale factor that the wheel has chosen is one of the table. -/
theorem moveCamera_succeeds (camera : Camera F) (input : Input) (scaleFactorIdx : Int)
    (wheelMotion : Int32)
    (deltaTime : F) :
    ∃ moved, Game.moveCamera camera input (Game.zoom scaleFactorIdx wheelMotion) deltaTime =
      .ok moved := by
  obtain ⟨move, isMove⟩ := cameraMovInput_succeeds (F := F) input
  have inTable : (Game.zoom scaleFactorIdx wheelMotion).toNat <
      (Game.scaleFactors : List F).length := by
    have range := zoom_mem scaleFactorIdx wheelMotion
    show _ < 13
    omega
  simp only [Game.moveCamera, isMove, bind_eq_ok, pure_eq_ok, readAt_eq_ok]
  exact ⟨_, _, rfl, _, List.getElem?_eq_getElem inTable, rfl⟩

omit [Arithmetic F] [Glm F] in
theorem debugShortcut_succeeds (engine : Engine F R) (input : Input) :
    ∃ result, debugShortcut engine input = .ok result := by
  obtain ⟨alt, isAlt⟩ : ∃ bit, input.isKeyHeld .leftAlt = .ok bit :=
    Input.exists_get (by decide) (by decide) _
  obtain ⟨pressed, isPressed⟩ : ∃ bit, input.isKeyPressed .p = .ok bit :=
    Input.exists_get (by decide) (by decide) _
  rw [debugShortcut, isAlt, isPressed]
  cases engine.enableDebugShortcuts with
  | false => exact ⟨_, rfl⟩
  | true =>
      cases alt with
      | false => exact ⟨_, rfl⟩
      | true =>
          cases pressed with
          | false => exact ⟨_, rfl⟩
          | true => exact ⟨_, rfl⟩

/-- What holds between the frames of an engine whose map is sound. -/
structure Sound (mappings : ScancodeMappings) (mapData : MapData F) (engine : Engine F R) :
    Prop where
  game : engine.game.Sound mapData
  tilesets : TilesetHelper.Sound engine.tilesetHelper
  input : ∃ happenings, engine.input.Mirrors mappings happenings

variable [GlmTransform F] {platform : Platform F R}
  {std : ComparisonSort (SpriteDrawRequest F TextureData)} {fuel : Nat}

omit [Arithmetic F] [Glm F] [GlmTransform F] in
theorem renderSprites_avoids [Arithmetic F] [Glm F] [GlmTransform F] {camera : Camera F}
    {window : UVec2} {render : RenderContextDX11}
    {sprites : List (SpriteDrawRequest F TextureData)} {sortBeforeRendering : Bool} :
    Avoids Fault.outOfBounds (fun _ => True)
      (renderSprites std fuel camera window render sprites sortBeforeRendering) := by
  rw [renderSprites]
  apply Avoids.bind submit_avoids
  intro submission _
  exact trivial

theorem updateAt_avoids (mapSound : mapData.Sound) (sound : engine.Sound mappings mapData)
    {quitRequested : Bool} {camera : Camera F} {world : Vec2 F} :
    Avoids Fault.outOfBounds (fun result => result.1.Sound mappings mapData)
      (updateAt platform std fuel engine given quitRequested camera world) := by
  rw [updateAt]
  obtain ⟨pressed, isPressed⟩ : ∃ bit, engine.input.isKeyPressed .leftMouseButton = .ok bit :=
    Input.exists_get (by decide) (by decide) _
  rw [isPressed]
  apply Avoids.bind (Game.update_avoids mapSound sound.game)
  rintro ⟨game, actions⟩ ⟨soundGame, interpolatedSafe⟩
  have isMap : game.process.session.mapData = mapData := soundGame.isMap
  dsimp only
  rw [isMap]
  apply Avoids.bind (mapSound.grid _)
  intro buildable _
  apply Avoids.bind (readAt_avoids sound.game.towerType)
  intro towerType _
  obtain ⟨result, found⟩ := sound.tilesets (UInt32.ofNat towerType.tileId)
    (TilesetHelper.newSprite : SpriteDrawRequest F TextureData).src
  rw [Game.renderSelection, found]
  apply Avoids.bind (renderEntities_avoids sound.tilesets interpolatedSafe)
  intro entities _
  apply Avoids.bind renderSprites_avoids
  intro map _
  apply Avoids.bind renderSprites_avoids
  intro drawn _
  apply Avoids.bind renderSprites_avoids
  intro effects _
  exact ⟨soundGame, sound.tilesets, sound.input⟩

theorem update_avoids (mapSound : mapData.Sound) (sound : engine.Sound mappings mapData)
    {quitRequested : Bool} :
    Avoids Fault.outOfBounds (fun result => result.1.Sound mappings mapData)
      (update platform std fuel engine given quitRequested) := by
  obtain ⟨camera, moved⟩ := moveCamera_succeeds engine.camera engine.input engine.scaleFactorIdx
    engine.input.getMouseWheelMotion given.deltaTime
  have zoomed : Sound mappings mapData
      { engine with
        scaleFactorIdx :=
          Game.zoom engine.scaleFactorIdx engine.input.getMouseWheelMotion } :=
    ⟨sound.game, sound.tilesets, sound.input⟩
  rw [update, moved]
  exact updateAt_avoids mapSound zoomed

theorem frame_avoids (mapSound : mapData.Sound) (sound : engine.Sound mappings mapData)
    (inRange : ∀ polled ∈ given.events, polled.event.InRange mappings) :
    Avoids Fault.outOfBounds (fun result => result.1.Sound mappings mapData)
      (frame mappings platform std fuel engine given) := by
  obtain ⟨past, mirrors⟩ := sound.input
  obtain ⟨⟨input, quitRequested⟩, processed, follows⟩ :=
    processEvents_succeeds mirrors inRange
  obtain ⟨shortcut, isShortcut⟩ := debugShortcut_succeeds engine input
  have polled : Sound mappings mapData
      { engine with
        camera := { engine.camera with windowDimensions := given.windowDimensions }
        input
        renderPerformanceStats := shortcut } := ⟨sound.game, sound.tilesets, _, follows⟩
  rw [frame, processed]
  show Avoids _ _ (debugShortcut engine input >>= _)
  rw [isShortcut]
  apply Avoids.bind (update_avoids mapSound polled)
  intro result soundAfter
  exact ⟨soundAfter.game, soundAfter.tilesets, soundAfter.input⟩

/-- No frame of a run accesses anything outside its bounds. -/
theorem runInternal_avoids (mapSound : mapData.Sound) {frames : List (FrameEvents F)}
    (sound : engine.Sound mappings mapData)
    (inRange : ∀ given ∈ frames, ∀ polled ∈ given.events, polled.event.InRange mappings) :
    Avoids Fault.outOfBounds (fun result => result.1.Sound mappings mapData)
      (runInternal mappings platform std fuel engine frames) := by
  induction frames generalizing engine with
  | nil => exact sound
  | cons given rest ih =>
      rw [runInternal]
      apply Avoids.bind (frame_avoids mapSound sound (inRange given List.mem_cons_self))
      intro result soundAfter
      dsimp only
      split
      case isTrue =>
        apply Avoids.bind
          (ih soundAfter fun later member => inRange later (List.mem_cons_of_mem _ member))
        intro others soundLast
        exact soundLast
      case isFalse => exact soundAfter

end Frames

end Engine

/-! ## From the file to the last frame -/

section Program

variable [Field F] [LinearOrder F] [Glm F] {json : MapJson F} {columns rows : Nat}
  {baseLayer : LayerJson F} {loadTexture : String → TextureHandle TextureData}
  {mapData : MapData F} {assets : SessionAssets F TextureData}

/-- A playable map with a road and with something to build and to spawn is sound. -/
theorem MapJson.assets_sound (drawable : json.Drawable columns)
    (playable : json.Playable columns rows baseLayer)
    (loaded : json.loadAssets loadTexture mapData = .ok assets)
    (road : 2 ≤ assets.mapData.enemyPath.waypoints.length)
    (enemyTypes : 0 < assets.mapData.enemyTypes.length)
    (towerTypes : 0 < assets.mapData.towerTypes.length) :
    assets.mapData.Sound ∧ TilesetHelper.Sound assets.tilesetHelper := by
  simp only [MapJson.loadAssets, bind_eq_ok, pure_eq_ok] at loaded
  obtain ⟨tilesets, loadedTilesets, sprites, _, map, loadedMap, rfl⟩ := loaded
  obtain ⟨sameMap, loadedSame, holds⟩ :=
    playable.load drawable.finite drawable.width drawable.positive mapData
  rw [loadedMap, Except.ok.injEq] at loadedSame
  subst loadedSame
  simp only [MapData.load, bind_eq_ok, pure_eq_ok] at loadedMap
  obtain ⟨path, loadedPath, ⟨enemies, towers, projectiles⟩, loadedTypes, grid, _, rfl⟩ := loadedMap
  refine ⟨⟨⟨road, EnemyPath.load_distances loadedPath, loadEntityTypes_projectiles loadedTypes⟩,
    BuildableMap.query_avoids holds playable.size, enemyTypes, towerTypes⟩, ?_⟩
  intro tileIdx outSrc
  have allLoaded : TilesetHelper.AllLoaded json.tileMap.properties loadTexture json.sources
      tilesets := forall₂_of_mapM loadedTilesets
  by_cases known : ∃ source ∈ json.sources, source.Contains tileIdx
  · obtain ⟨source, member, contains⟩ := known
    obtain ⟨_, src, _, _, found⟩ := TilesetHelper.getTileSpriteSrc_of_contains allLoaded
      drawable.fits drawable.apart member contains
    exact ⟨_, found⟩
  · push Not at known
    exact ⟨_, TilesetHelper.getTileSpriteSrc_of_none allLoaded drawable.fits known⟩

/-- Whatever the player does, a program that has loaded a playable map reads and writes nothing
outside the bounds of its tables, buffers and vectors: neither while the session is warmed up nor
in any frame, for any scene, any window, any times and any fuel. -/
theorem MapJson.runInternal_inBounds [GlmTransform F] {mappings : ScancodeMappings}
    {platform : Platform F R} {fuel : Nat} {boot : Boot F R} {frames : List (FrameEvents F)}
    (drawable : json.Drawable columns) (playable : json.Playable columns rows baseLayer)
    (loaded : json.loadAssets loadTexture mapData = .ok assets)
    (road : 2 ≤ assets.mapData.enemyPath.waypoints.length)
    (enemyTypes : 0 < assets.mapData.enemyTypes.length)
    (towerTypes : 0 < assets.mapData.towerTypes.length)
    (isMap : boot.mapData = assets.mapData)
    (inRange : ∀ given ∈ frames, ∀ polled ∈ given.events, polled.event.InRange mappings) :
    boot.fromMap platform fuel ≠ .error .outOfBounds ∧
      ∀ (process : Process F R) (warmUp : StepRecord F) (interpolatedState : GameState F R)
        (render : RenderContextDX11) (std : ComparisonSort (SpriteDrawRequest F TextureData)),
        boot.fromMap platform fuel = .ok (process, warmUp) →
        Engine.runInternal mappings platform std fuel
          (.initialized (.initialized process interpolatedState) render assets.tilesetHelper
            assets.staticMapDrawList) frames ≠ .error .outOfBounds := by
  obtain ⟨mapSound, tiles⟩ := assets_sound drawable playable loaded road enemyTypes towerTypes
  have warms : Avoids Fault.outOfBounds (fun result => result.1.session.mapData = assets.mapData ∧
      result.1.session.next.IndexSafe assets.mapData) (boot.fromMap platform fuel) :=
    Process.step_avoids isMap mapSound.indexSafe (by simp) (.of_empty rfl rfl rfl)
  refine ⟨warms.ne_error, ?_⟩
  intro process warmUp interpolatedState render std started
  obtain ⟨sameMap, safe⟩ := warms.of_ok started
  refine (Engine.runInternal_avoids mapSound ⟨?_, tiles, [], .create mappings .consume⟩
    inRange).ne_error
  exact ⟨sameMap, safe, by simp [Engine.initialized, Game.initialized], rfl,
    show 3 < 6 by decide, towerTypes, enemyTypes⟩

end Program

open Rational in
/-- Nothing goes wrong when the player clicks in the yard. -/
theorem yardFile_inBounds : ∃ assets : SessionAssets ℚ TextureData,
    yardFile.loadAssets (fun _ => none) meadow = .ok assets ∧
      let boot : Boot ℚ Nat := { meadowBoot with mapData := assets.mapData }
      boot.fromMap platform 10 ≠ .error .outOfBounds ∧
        ∀ (process : Process ℚ Nat) (warmUp : StepRecord ℚ),
          boot.fromMap platform 10 = .ok (process, warmUp) →
          Engine.runInternal (fun _ => KeyCode.any.value) platform .merge 10
            (.initialized (.initialized process boot.otherBuffer)
              { missingTexture := ⟨0⟩, stats := ⟨0, 0⟩ } assets.tilesetHelper
              assets.staticMapDrawList) [clickAndQuit] ≠ .error .outOfBounds := by
  obtain ⟨assets, loaded, checked⟩ := exists_ok_of_succeedsWith
    (yardFile.loadAssets (fun _ => (none : TextureHandle TextureData)) meadow)
    (fun assets => decide (2 ≤ assets.mapData.enemyPath.waypoints.length ∧
      0 < assets.mapData.enemyTypes.length ∧ 0 < assets.mapData.towerTypes.length))
    (by decide +kernel)
  obtain ⟨road, enemyTypes, towerTypes⟩ := of_decide_eq_true checked
  have value : 0 ≤ KeyCode.any.value ∧ KeyCode.any.value < keyCodeCount := by decide
  let boot : Boot ℚ Nat := { meadowBoot with mapData := assets.mapData }
  have isMap : boot.mapData = assets.mapData := rfl
  obtain ⟨warms, runs⟩ := MapJson.runInternal_inBounds yardFile_drawable yardFile_playable loaded
    road enemyTypes towerTypes isMap (fun _ _ _ _ _ _ => value)
  exact ⟨assets, loaded, warms, fun process warmUp => runs process warmUp _ _ _⟩

end TowerDefence
