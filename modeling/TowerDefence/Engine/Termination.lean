import TowerDefence.Engine.Safety
import TowerDefence.Engine.SpriteBatches
import TowerDefence.Game.Termination

/-!
# Termination of the loop of the engine

With enough iterations for the loops inside a frame every frame is completed, so that the loop of
`RunInternal` goes on until the player quits.
-/

namespace TowerDefence

open Foundations RenderContextDX11

variable {F R : Type}

/-! ## Drawing -/

section Drawing

variable [Arithmetic F] [Glm F]

/-- Everything is submitted when there are iterations for every sprite. -/
theorem Engine.renderSprites_succeeds [GlmTransform F]
    (std : ComparisonSort (SpriteDrawRequest F TextureData)) {fuel : Nat} (camera : Camera F)
    (window : UVec2) (render : RenderContextDX11)
    {sprites : List (SpriteDrawRequest F TextureData)} (enough : sprites.length ≤ fuel) :
    ∃ result, renderSprites std fuel camera window render sprites false = .ok result := by
  obtain ⟨submission, _, submits, _⟩ := submit_greedy std render sprites camera window false
  have submitted := submits fuel enough
  exact ⟨_, by rw [renderSprites, submitted]; rfl⟩

variable {T : Type} {tilesets : List (Tileset F T)} {mapData : MapData F} {state : GameState F R}

omit [Glm F] in
theorem renderEntities_avoids_others {fault : Fault} (others : Fault.outOfBounds ≠ fault)
    (tiles : TilesetHelper.Sound tilesets) :
    Avoids fault (fun _ => True) (renderEntities tilesets mapData state) := by
  apply Avoids.bind (GameState.forEachEntity_avoids_others others _ _)
  intro entities _
  apply Avoids.foldlM (fun _ => True) trivial
  intro entity drawn _ _
  obtain ⟨result, found⟩ :=
    tiles (UInt32.ofNat entity.2.tileId) (TilesetHelper.newSprite : SpriteDrawRequest F T).src
  rw [renderEntity, found]
  exact trivial

omit [Glm F] in
/-- A state that is not crowded has its sprites, of which there are fewer than three times 2^32. -/
theorem renderEntities_succeeds (tiles : TilesetHelper.Sound tilesets)
    (safe : state.IndexSafe mapData) (short : ¬state.Crowded) :
    ∃ sprites, renderEntities tilesets mapData state = .ok sprites ∧
      sprites.length ≤ 3 * 2 ^ 32 := by
  obtain ⟨sprites, drawn, _⟩ := (renderEntities_avoids tiles safe).exists_ok fun other others =>
    renderEntities_avoids_others others tiles
  refine ⟨sprites, drawn, ?_⟩
  rw [← (renderEntities_portrays drawn).length_eq, GameState.typedEntities]
  simp only [GameState.Crowded, not_or, Nat.not_le] at short
  simp only [List.length_append, List.length_map]
  omega

end Drawing

/-! ## Frames -/

namespace Engine

section Frames

variable [Field F] [LinearOrder F] [IsStrictOrderedRing F] [Glm F] [GlmTransform F]
variable {mappings : ScancodeMappings} {boot : Boot F R} {platform : Platform F R}
  {std : ComparisonSort (SpriteDrawRequest F TextureData)} {fuel bound steps : Nat}
  {engine : Engine F R} {given : FrameEvents F}

/-- What holds between the frames of an engine whose game has been reached from the loaded map. -/
structure Ready (mappings : ScancodeMappings) (platform : Platform F R) (fuel : Nat)
    (boot : Boot F R) (engine : Engine F R) : Prop where
  sound : engine.Sound mappings boot.mapData
  reached : engine.game.process.Reached platform fuel boot
  accumulated : engine.game.accumulatedDelta ≤ Game.fixedDelta
  sprites : engine.staticMapDrawList.length ≤ fuel

/-- The iterations that the loops of a frame need. -/
structure Fuelled (boot : Boot F R) (bound steps fuel : Nat) : Prop where
  paced : boot.Paced bound
  shots : bound ≤ fuel
  steps : steps ≤ fuel
  sprites : 3 * 2 ^ 32 ≤ fuel

theorem updateAt_succeeds [Archimedean F] (mapSound : boot.mapData.Sound)
    (ready : engine.Ready mappings platform fuel boot) (fuelled : Fuelled boot bound steps fuel)
    (time : Game.StepsAtMost steps given.deltaTime)
    (calm : ¬engine.game.Overcrowds platform fuel given.deltaTime) {quitRequested : Bool}
    {camera : Camera F} {world : Vec2 F} :
    ∃ result, updateAt platform std fuel engine given quitRequested camera world = .ok result ∧
      result.1.Ready mappings platform fuel boot := by
  obtain ⟨pressed, isPressed⟩ : ∃ bit, engine.input.isKeyPressed .leftMouseButton = .ok bit :=
    Input.exists_get (by decide) (by decide) _
  have counters : 2 ^ 32 ≤ fuel := by
    have sprites := fuelled.sprites
    omega
  have filled : (engine.game.accumulate given.deltaTime).accumulatedDelta ≤
      steps • Game.fixedDelta :=
    (add_le_add_left ready.accumulated _).trans (time _)
  obtain ⟨⟨game, actions⟩, updated, settles⟩ :=
    Game.update_succeeds (given.toFrameInput world pressed) ⟨ready.sound.game, ready.reached⟩
      fuelled.paced mapSound fuelled.shots counters fuelled.steps filled calm
  have isMap : game.process.session.mapData = boot.mapData := settles.ready.sound.isMap
  obtain ⟨buildable, queried, _⟩ := (mapSound.grid world).exists_ok fun other others =>
    BuildableMap.query_avoids_others others _ world
  obtain ⟨towerType, selected⟩ : ∃ towerType,
      boot.mapData.towerTypes[engine.game.selectedTowerTypeId]? = some towerType :=
    ⟨_, List.getElem?_eq_getElem ready.sound.game.towerType⟩
  obtain ⟨tile, found⟩ := ready.sound.tilesets (UInt32.ofNat towerType.tileId)
    (TilesetHelper.newSprite : SpriteDrawRequest F TextureData).src
  obtain ⟨selection, shown⟩ : ∃ selection, Game.renderSelection engine.tilesetHelper towerType
      (BuildableMap.worldToTile world) buildable = .ok selection := by
    rw [Game.renderSelection, found]
    exact ⟨_, rfl⟩
  obtain ⟨entities, drawn, few⟩ :=
    renderEntities_succeeds ready.sound.tilesets settles.safe settles.short
  obtain ⟨map, submittedMap⟩ :=
    renderSprites_succeeds std camera given.windowDimensions engine.render ready.sprites
  obtain ⟨sprites, submittedEntities⟩ := renderSprites_succeeds std camera given.windowDimensions
    map.1 (few.trans fuelled.sprites)
  have one : [selection].length ≤ fuel := (Nat.one_le_two_pow).trans counters
  obtain ⟨effects, submittedEffects⟩ :=
    renderSprites_succeeds std camera given.windowDimensions sprites.1 one
  simp only [updateAt, bind_eq_ok, pure_eq_ok, readAt_eq_ok]
  refine ⟨_, ⟨pressed, isPressed, _, updated, buildable, isMap ▸ queried, towerType,
    isMap ▸ selected, selection, shown, entities, isMap ▸ drawn, map, submittedMap, sprites,
    submittedEntities, effects, submittedEffects, rfl⟩, ?_⟩
  exact ⟨⟨settles.ready.sound, ready.sound.tilesets, ready.sound.input⟩, settles.ready.reached,
    settles.accumulated, ready.sprites⟩

theorem update_succeeds [Archimedean F] (mapSound : boot.mapData.Sound)
    (ready : engine.Ready mappings platform fuel boot) (fuelled : Fuelled boot bound steps fuel)
    (time : Game.StepsAtMost steps given.deltaTime)
    (calm : ¬engine.game.Overcrowds platform fuel given.deltaTime) {quitRequested : Bool} :
    ∃ result, update platform std fuel engine given quitRequested = .ok result ∧
      result.1.Ready mappings platform fuel boot := by
  obtain ⟨camera, moved⟩ := moveCamera_succeeds engine.camera engine.input engine.scaleFactorIdx
    engine.input.getMouseWheelMotion given.deltaTime
  have zoomed : Ready mappings platform fuel boot
      { engine with
        scaleFactorIdx :=
          Game.zoom engine.scaleFactorIdx engine.input.getMouseWheelMotion } :=
    ⟨⟨ready.sound.game, ready.sound.tilesets, ready.sound.input⟩, ready.reached,
      ready.accumulated, ready.sprites⟩
  rw [update, moved]
  exact updateAt_succeeds mapSound zoomed fuelled time calm

/-- A frame from a ready engine succeeds, unless its steps lead to a crowded state. -/
theorem frame_succeeds [Archimedean F] (mapSound : boot.mapData.Sound)
    (ready : engine.Ready mappings platform fuel boot) (fuelled : Fuelled boot bound steps fuel)
    (inRange : ∀ polled ∈ given.events, polled.event.InRange mappings)
    (time : Game.StepsAtMost steps given.deltaTime)
    (calm : ¬engine.game.Overcrowds platform fuel given.deltaTime) :
    ∃ result, frame mappings platform std fuel engine given = .ok result ∧
      result.1.Ready mappings platform fuel boot := by
  obtain ⟨past, mirrors⟩ := ready.sound.input
  obtain ⟨⟨input, quitRequested⟩, processed, follows⟩ :=
    processEvents_succeeds mirrors inRange
  obtain ⟨shortcut, isShortcut⟩ := debugShortcut_succeeds engine input
  have polled : Ready mappings platform fuel boot
      { engine with
        camera := { engine.camera with windowDimensions := given.windowDimensions }
        input
        renderPerformanceStats := shortcut } :=
    ⟨⟨ready.sound.game, ready.sound.tilesets, _, follows⟩, ready.reached, ready.accumulated,
      ready.sprites⟩
  obtain ⟨result, updated, readyAfter⟩ : ∃ result, update platform std fuel _ given quitRequested =
      .ok result ∧ result.1.Ready mappings platform fuel boot :=
    update_succeeds mapSound polled fuelled time calm
  simp only [frame, bind_eq_ok, pure_eq_ok]
  refine ⟨_, ⟨(input, quitRequested), processed, shortcut, isShortcut, result, updated, rfl⟩, ?_⟩
  exact ⟨⟨readyAfter.sound.game, readyAfter.sound.tilesets, readyAfter.sound.input⟩,
    readyAfter.reached, readyAfter.accumulated, readyAfter.sprites⟩

/-- One of the frames leads from the engine to a crowded session, and all frames before it
succeed. -/
def Overcrowds (mappings : ScancodeMappings) (platform : Platform F R)
    (std : ComparisonSort (SpriteDrawRequest F TextureData)) (fuel : Nat) (engine : Engine F R)
    (frames : List (FrameEvents F)) : Prop :=
  ∃ (earlier : List (FrameEvents F)) (given : FrameEvents F) (later : List (FrameEvents F))
    (reached : Engine F R) (records : List (FrameRecord F R)),
    frames = earlier ++ given :: later ∧
      runInternal mappings platform std fuel engine earlier = .ok (reached, records) ∧
      reached.game.Overcrowds platform fuel given.deltaTime

/-- A run from a ready engine succeeds, unless one of its frames leads to a crowded session. -/
theorem runInternal_succeeds [Archimedean F] (mapSound : boot.mapData.Sound)
    {frames : List (FrameEvents F)} (ready : engine.Ready mappings platform fuel boot)
    (fuelled : Fuelled boot bound steps fuel)
    (inRange : ∀ given ∈ frames, ∀ polled ∈ given.events, polled.event.InRange mappings)
    (time : ∀ given ∈ frames, Game.StepsAtMost steps given.deltaTime) :
    (∃ result, runInternal mappings platform std fuel engine frames = .ok result) ∨
      engine.Overcrowds mappings platform std fuel frames := by
  induction frames generalizing engine with
  | nil => exact .inl ⟨_, rfl⟩
  | cons given rest ih =>
      by_cases crowds : engine.game.Overcrowds platform fuel given.deltaTime
      case pos => exact .inr ⟨[], given, rest, engine, [], rfl, rfl, crowds⟩
      obtain ⟨⟨next, record⟩, executed, readyNext⟩ : ∃ result,
          frame mappings platform std fuel engine given = .ok result ∧
            result.1.Ready mappings platform fuel boot :=
        frame_succeeds mapSound ready fuelled (inRange given List.mem_cons_self)
          (time given List.mem_cons_self) crowds
      have continues (others : List (FrameEvents F)) :
          runInternal mappings platform std fuel engine (given :: others) =
            if record.controlFlow = .continueRunning then do
              let result ← runInternal mappings platform std fuel next others
              pure (result.1, record :: result.2)
            else
              pure (next, [record]) := by
        rw [runInternal, executed]
        rfl
      rw [continues]
      by_cases goesOn : record.controlFlow = .continueRunning
      case neg =>
        rw [if_neg goesOn]
        exact .inl ⟨_, rfl⟩
      rw [if_pos goesOn]
      have restInRange : ∀ later ∈ rest, ∀ polled ∈ later.events, polled.event.InRange mappings :=
        fun later member => inRange later (List.mem_cons_of_mem _ member)
      have restTime : ∀ later ∈ rest, Game.StepsAtMost steps later.deltaTime :=
        fun later member => time later (List.mem_cons_of_mem _ member)
      cases ih readyNext restInRange restTime with
      | inl succeeds =>
          obtain ⟨result, ran⟩ := succeeds
          rw [ran]
          exact .inl ⟨_, rfl⟩
      | inr crowded =>
          obtain ⟨earlier, frame, later, reached, records, split, ran, crowds⟩ := crowded
          refine .inr ⟨given :: earlier, frame, later, reached, record :: records, ?_, ?_, crowds⟩
          · rw [split, List.cons_append]
          · rw [continues, if_pos goesOn, ran]
            rfl

end Frames

end Engine

/-! ## From the file to the last frame -/

section Program

variable [Field F] [LinearOrder F] [IsStrictOrderedRing F] [Archimedean F] [Glm F]
variable {json : MapJson F} {columns rows : Nat} {baseLayer : LayerJson F}
  {loadTexture : String → TextureHandle TextureData} {mapData : MapData F}
  {assets : SessionAssets F TextureData}

end Program

end TowerDefence
