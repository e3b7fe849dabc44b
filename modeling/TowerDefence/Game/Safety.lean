import TowerDefence.Game.Delivery
import TowerDefence.Map.Buildable
import TowerDefence.Session.Safety

/-!
# Index safety of the game

The commands of the player, the selections behind the widgets and the cells of the grid are
always in range, so that neither a frame nor the steps in it read outside a vector.
-/

namespace TowerDefence

open Foundations

variable {F R : Type}

/-! ## The grid -/

section Grid

variable [Arithmetic F] [Glm F] {width height : Nat} {map : BuildableMap}
  {tiles : List ((Int × Int) × List (String × Property F))}

/-- A query reads the grid of a loaded map in its bounds, wherever it asks. -/
theorem BuildableMap.query_avoids
    (holds : BuildableMap.Holds width height tiles map) (size : width * height < 2 ^ 31)
    (position : Vec2 F) :
    Avoids Fault.outOfBounds (fun _ => True) (map.query position) := by
  rw [query]
  split
  case isTrue => exact trivial
  case isFalse inGrid =>
    have insideX : (worldToTile position).1.toNat < width := by
      have inside := holds.isWidth
      omega
    have insideY : (wrapI32 ((worldToTile position).2 * -1)).toNat < height := by
      have inside := holds.isHeight
      omega
    obtain ⟨isIndex, inside⟩ := gridIndex_eq insideX insideY size
    apply Avoids.bind (readAt_avoids _)
    · intro cell _
      exact trivial
    · rw [holds.isWidth, isIndex, holds.length]
      exact inside

end Grid

/-! ## Sound games -/

section Soundness

variable [Arithmetic F] [Glm F]

/-- What loading guarantees of the map of a session, and what a map must have for the widgets:
a type of enemies and a type of towers to select. -/
structure MapData.Sound (mapData : MapData F) : Prop where
  indexSafe : mapData.IndexSafe
  grid : ∀ position : Vec2 F, Avoids Fault.outOfBounds (fun _ => True)
    (mapData.buildableMap.query position)
  enemyTypes : 0 < mapData.enemyTypes.length
  towerTypes : 0 < mapData.towerTypes.length

/-- The indices that the game and its session store are in range, and so are those of the queued
commands. -/
structure Game.Sound (mapData : MapData F) (game : Game F R) : Prop where
  isMap : game.process.session.mapData = mapData
  state : game.process.session.next.IndexSafe mapData
  commands : ∀ command ∈ game.gameCommands, command.InRange mapData
  quiet : game.gameEvents = []
  dtScale : game.selectedDtScaleIdx < (Game.dtScaleFactors (F := F)).length
  towerType : game.selectedTowerTypeId < mapData.towerTypes.length
  enemyType : game.selectedEnemyIdx < mapData.enemyTypes.length

variable {platform : Platform F R} {fuel stepFuel : Nat} {mapData : MapData F} {game : Game F R}
  {input : FrameInput F}

/-- No step of a process reads outside the bounds. -/
theorem Process.step_avoids {process : Process F R} {commands : List (GameCommand F)}
    (isMap : process.session.mapData = mapData) (mapSafe : mapData.IndexSafe)
    (inRange : ∀ command ∈ commands, command.InRange mapData)
    (safe : process.session.next.IndexSafe mapData) :
    Avoids Fault.outOfBounds (fun result => result.1.session.mapData = mapData ∧
      result.1.session.next.IndexSafe mapData) (process.step platform fuel commands) := by
  subst isMap
  have pureSafe : Avoids Fault.outOfBounds
      (fun result => result.1.IndexSafe process.session.mapData)
      ((process.world platform fuel).step process.session.next commands) :=
    World.step_avoids mapSafe inRange safe
  apply (process.step_refines platform fuel commands).avoids pureSafe
  intro concrete pureResult refines nextSafe
  exact ⟨congrArg World.mapData refines.world, refines.next ▸ nextSafe⟩

namespace Game

theorem fixedStep_avoids (mapSafe : mapData.IndexSafe) (sound : game.Sound mapData) :
    Avoids Fault.outOfBounds (fun result => result.1.Sound mapData)
      (game.fixedStep platform fuel) := by
  have steps : Avoids Fault.outOfBounds (fun result => result.1.session.mapData = mapData ∧
      result.1.session.next.IndexSafe mapData)
      (game.process.step platform fuel game.gameCommands) :=
    Process.step_avoids sound.isMap mapSafe sound.commands sound.state
  rw [fixedStep, sound.quiet]
  rw [Process.step] at steps
  cases stepped : game.process.timeStep platform fuel game.gameCommands [] with
  | error other =>
      rw [stepped] at steps
      exact steps
  | ok result =>
      rw [stepped] at steps
      obtain ⟨isMap, safe⟩ := steps
      exact ⟨isMap, safe, by simp, rfl, sound.dtScale, sound.towerType, sound.enemyType⟩

theorem fixedSteps_avoids (mapSafe : mapData.IndexSafe) (sound : game.Sound mapData) :
    Avoids Fault.outOfBounds (fun result => result.1.Sound mapData)
      (fixedSteps platform stepFuel fuel game) := by
  induction fuel generalizing game with
  | zero =>
      rw [fixedSteps]
      split
      · exact Fault.noConfusion
      · exact sound
  | succ fuel ih =>
      rw [fixedSteps]
      split
      case isFalse => exact sound
      case isTrue =>
        apply Avoids.bind (fixedStep_avoids mapSafe sound)
        intro stepped soundStepped
        apply Avoids.bind (ih soundStepped)
        intro finished soundFinished
        exact soundFinished

omit [Arithmetic F] [Glm F] in
/-- The loop behind a widget selects an item that it shows. -/
theorem selectClicked_lt {clicked : Nat → Bool} {count selected : Nat}
    (inRange : selected < count) :
    selectClicked clicked count selected < count := by
  rw [selectClicked]
  refine List.foldlRecOn (motive := fun selected => selected < count) _ _ inRange ?_
  intro selected inRange index member
  split
  · exact List.mem_range.mp member
  · exact inRange

theorem frameCommands_inRange {selectedEnemyIdx : Nat} {buildable : Bool}
    {enemiesToSpawn : Int} (towerType : game.selectedTowerTypeId < mapData.towerTypes.length)
    (enemyType : selectedEnemyIdx < mapData.enemyTypes.length) :
    ∀ command ∈ frameCommands game input buildable selectedEnemyIdx enemiesToSpawn,
      command.InRange mapData := by
  intro command member
  simp only [frameCommands, List.mem_append] at member
  rcases member with ((build | spawn) | despawn) | addGold
  · split at build
    · rw [List.mem_singleton.mp build]
      exact towerType
    · cases build
  · split at spawn
    · rw [List.eq_of_mem_replicate spawn]
      exact enemyType
    · cases spawn
  · split at despawn
    · rw [List.mem_singleton.mp despawn]
      exact trivial
    · cases despawn
  · split at addGold
    · rw [List.mem_singleton.mp addGold]
      exact trivial
    · cases addGold

/-- No access of a frame is outside the bounds. -/
theorem update_avoids (mapSound : mapData.Sound) (sound : game.Sound mapData) :
    Avoids Fault.outOfBounds (fun result => result.1.Sound mapData ∧
        result.1.interpolatedState.IndexSafe mapData)
      (game.update platform fuel input) := by
  rw [update]
  apply Avoids.bind (readAt_avoids sound.dtScale)
  intro scale _
  have soundStart : Sound mapData
      { game with accumulatedDelta := game.accumulatedDelta + input.deltaTime * scale } :=
    ⟨sound.isMap, sound.state, sound.commands, sound.quiet, sound.dtScale, sound.towerType,
      sound.enemyType⟩
  apply Avoids.bind (fixedSteps_avoids mapSound.indexSafe soundStart)
  rintro ⟨stepped, actions⟩ soundStepped
  have isMap := soundStepped.isMap
  apply Avoids.bind (GameState.interpolate_avoids soundStepped.state)
  intro interpolatedState interpolatedSafe
  dsimp only
  rw [isMap]
  apply Avoids.bind (mapSound.grid _)
  intro buildable _
  apply Avoids.bind (readAt_avoids soundStepped.towerType).discard
  intro _ _
  apply Avoids.bind (readAt_avoids soundStepped.enemyType).discard
  intro _ _
  apply Avoids.bind (Avoids.forM fun towerType member =>
    (readAt_avoids (mapSound.indexSafe.towerTypes towerType member)).discard)
  intro _ _
  apply Avoids.bind (GameState.forEachEntity_avoids interpolatedSafe).discard
  intro _ _
  have selected : selectClicked input.enemySelected mapData.enemyTypes.length
      stepped.selectedEnemyIdx < mapData.enemyTypes.length :=
    selectClicked_lt soundStepped.enemyType
  refine ⟨⟨isMap, soundStepped.state, ?_, soundStepped.quiet, selectClicked_lt soundStepped.dtScale,
    selectClicked_lt soundStepped.towerType, selected⟩, interpolatedSafe⟩
  intro command member
  cases List.mem_append.mp member with
  | inl queued => exact soundStepped.commands command queued
  | inr new => exact frameCommands_inRange soundStepped.towerType selected command new

end Game

end Soundness

end TowerDefence
