import TowerDefence.Model.Session

/-!
# `Game::Update`

One call of `Update` adds the scaled frame time to an accumulator, executes a
fixed step for every full `FIXED_DELTA` in it, and then turns the player's input
into commands for a later step.  Static locals of the function are fields of
`Game`.  Drawing is left out; what drawing reads from the map's collections is
kept, since those reads are unchecked.
-/

namespace TowerDefence

variable {F R : Type}

/-- `Game` and the static locals of `Game::Update`. -/
structure Game (F R : Type) where
  process : Process F R
  gameCommands : List (GameCommand F)
  gameEvents : List (GameEvent F)
  interpolatedState : GameState F R
  accumulatedDelta : F
  selectedDtScaleIdx : Nat
  selectedTowerTypeId : Nat
  selectedEnemyIdx : Nat
  enemiesToSpawn : Int

/-- What one frame receives from the player: the frame time, the world position
under the mouse, and the state of the controls. -/
structure FrameInput (F : Type) where
  deltaTime : F
  world : Vec2 F
  leftMousePressed : Bool
  dtScaleClicked : Nat → Bool
  enemySelected : Nat → Bool
  enemiesToSpawn : Int → Int
  spawnClicked : Bool
  despawnClicked : Bool
  addGoldClicked : Bool
  towerClicked : Nat → Bool

/-- What a frame does with commands and events, in order. -/
inductive Action (F : Type) where
  | enqueue (command : GameCommand F)
  | timeStep (record : StepRecord F)
  | scanEvent (event : GameEvent F)
  | playEnemyDeathSound

namespace Game

variable [Arithmetic F] [Glm F]

/-- `FIXED_DELTA`. -/
def fixedDelta : F := 1 / literal 30

/-- `DT_SCALE_FACTORS`. -/
def dtScaleFactors : List F :=
  [literal 0, literal 0.25, literal 0.5, literal 1, literal 2, literal 4]

/-- The handler loop of `Update` scans the queued events. -/
def scanEvent (event : GameEvent F) : List (Action F) :=
  match event with
  | .enemyDied _ => [.scanEvent event, .playEnemyDeathSound]
  | _ => [.scanEvent event]

/-- One iteration of the fixed-step loop. -/
def fixedStep (platform : Platform F R) (fuel : Nat) (game : Game F R) :
    Exec (Game F R × List (Action F)) := do
  let accumulatedDelta := game.accumulatedDelta - fixedDelta
  let (process, gameEvents, record) ←
    game.process.timeStep platform fuel game.gameCommands game.gameEvents
  let scanned := gameEvents.flatMap scanEvent
  pure
    ({ game with process, accumulatedDelta, gameCommands := [], gameEvents := [] },
      .timeStep record :: scanned)

/-- The fixed-step loop. -/
def fixedSteps (platform : Platform F R) (stepFuel : Nat) :
    (fuel : Nat) → Game F R → Exec (Game F R × List (Action F))
  | fuel, game =>
      if fixedDelta < game.accumulatedDelta then
        match fuel with
        | 0 => .error .outOfFuel
        | fuel + 1 => do
            let (game, actions) ← fixedStep platform stepFuel game
            let (game, laterActions) ← fixedSteps platform stepFuel fuel game
            pure (game, actions ++ laterActions)
      else
        pure (game, [])

/-- The commands a frame enqueues, in the order of the source: the tower of a
mouse click, the spawned enemies, the despawn command and the gold. -/
def frameCommands (game : Game F R) (input : FrameInput F) (buildable : Bool)
    (selectedEnemyIdx : Nat) (enemiesToSpawn : Int) : List (GameCommand F) :=
  let tilePos := BuildableMap.worldToTile input.world
  let build : List (GameCommand F) :=
    if input.leftMousePressed ∧ buildable then
      [.buildTower game.selectedTowerTypeId ⟨ofInt tilePos.1, ofInt tilePos.2⟩]
    else
      []
  let spawn : List (GameCommand F) :=
    if input.spawnClicked then
      List.replicate enemiesToSpawn.toNat (.debugSpawnEnemy selectedEnemyIdx)
    else
      []
  let despawn : List (GameCommand F) :=
    if input.despawnClicked then [.debugDespawnAllEnemies] else []
  let addGold : List (GameCommand F) :=
    if input.addGoldClicked then [.debugAddGold (literal 100)] else []
  build ++ spawn ++ despawn ++ addGold

/-- The value a static selection holds after a loop that assigns every index
whose control was clicked. -/
def selectClicked (clicked : Nat → Bool) (count selected : Nat) : Nat :=
  (List.range count).foldl (fun selected i => if clicked i then i else selected) selected

/-- `Game::Update`. -/
def update (platform : Platform F R) (fuel : Nat) (game : Game F R) (input : FrameInput F) :
    Exec (Game F R × List (Action F)) := do
  let scale ← readAt dtScaleFactors game.selectedDtScaleIdx
  let scaledDt := input.deltaTime * scale
  let game := { game with accumulatedDelta := game.accumulatedDelta + scaledDt }
  let (game, stepped) ← fixedSteps platform fuel fuel game
  let interpolationFactor := Glm.smoothstep 0 fixedDelta game.accumulatedDelta
  let interpolatedState ←
    game.process.session.interpolateState game.interpolatedState interpolationFactor fuel
  let mapData := game.process.session.mapData
  let buildable ← mapData.buildableMap.query input.world
  discard (readAt mapData.towerTypes game.selectedTowerTypeId)
  discard (readAt mapData.enemyTypes game.selectedEnemyIdx)
  let selectedEnemyIdx :=
    selectClicked input.enemySelected mapData.enemyTypes.length game.selectedEnemyIdx
  let enemiesToSpawn := input.enemiesToSpawn game.enemiesToSpawn
  let commands := frameCommands game input buildable selectedEnemyIdx enemiesToSpawn
  mapData.towerTypes.forM fun towerType =>
    discard (readAt mapData.projectileTypes towerType.projectileTypeIdx)
  discard (GameState.forEachEntity mapData interpolatedState)
  let game :=
    { game with
      interpolatedState
      gameCommands := game.gameCommands ++ commands
      selectedDtScaleIdx :=
        selectClicked input.dtScaleClicked (dtScaleFactors (F := F)).length game.selectedDtScaleIdx
      selectedTowerTypeId :=
        selectClicked input.towerClicked mapData.towerTypes.length game.selectedTowerTypeId
      selectedEnemyIdx
      enemiesToSpawn }
  pure (game, stepped ++ commands.map .enqueue)

/-- `Game::Initialize`, from the session that `FromMap` returned: every static
local has the value of its initialiser. -/
def initialized (process : Process F R) (interpolatedState : GameState F R) : Game F R where
  process
  gameCommands := []
  gameEvents := []
  interpolatedState
  accumulatedDelta := 0
  selectedDtScaleIdx := 3
  selectedTowerTypeId := 0
  selectedEnemyIdx := 0
  enemiesToSpawn := 20

end Game

end TowerDefence
