import TowerDefence.Game.Delivery
import TowerDefence.Session.Identity

/-!
# Placement of towers

A click on a buildable tile enqueues a command, and a later step builds the tower.
The tile is checked against the map only, at the time of the click, and nothing
marks it as occupied: every tower stands on a tile that the map marks, but two
clicks on one tile may build two towers there.
-/

namespace TowerDefence

open Foundations

variable {F R : Type}

/-! ## Tiles -/

/-- The map marks the tile as buildable.  Rows of the grid grow downwards. -/
structure BuildableMap.Marks (map : BuildableMap) (tile : Int × Int) : Prop where
  column : 0 ≤ tile.1 ∧ tile.1 < map.width
  row : 0 ≤ -tile.2 ∧ -tile.2 < map.height
  cell : map.grid[gridIndex map.width tile.1.toNat (-tile.2).toNat]? = some 1

section Tiles

variable [Arithmetic F]

/-- The position of the towers on a tile. -/
def tilePosition (tile : Int × Int) : Vec2 F := ⟨ofInt tile.1, ofInt tile.2⟩

variable [Glm F] {map : BuildableMap} {world : Vec2 F}

/-- The query accepts positions on marked tiles only. -/
theorem BuildableMap.marks_of_query (accepted : map.query world = .ok true) :
    map.Marks (worldToTile world) := by
  rw [query] at accepted
  split at accepted
  · cases accepted
  · rename_i inside
    simp only [bind_eq_ok, readAt_eq_ok, pure_eq_ok] at accepted
    rcases accepted with ⟨cell, found, isOne⟩
    rw [beq_iff_eq] at isOne
    subst isOne
    simp only [not_or, not_lt, not_le] at inside
    rcases inside with ⟨left, right, top, bottom⟩
    have isRow : wrapI32 ((worldToTile world).2 * -1) = -(worldToTile world).2 := by
      rcases turnedRow_eq (Glm.toI32 (Glm.trunc (world.y + literal 0.5 * Glm.sign world.y))) with
        isTurned | ⟨_, isLeast⟩
      · exact isTurned.trans (mul_neg_one _)
      · exact absurd (isLeast ▸ top) (by decide)
    rw [isRow] at top bottom found
    refine ⟨⟨left, ?_⟩, ⟨top, ?_⟩, found⟩
    · omega
    · omega

/-- The tile on which a frame asks for a tower. -/
def acceptedTile (map : BuildableMap) (input : FrameInput F) : Option (Int × Int) :=
  if input.leftMousePressed ∧ succeedsWith id (map.query input.world) then
    some (BuildableMap.worldToTile input.world)
  else
    none

/-- The tiles on which consecutive frames ask for towers. -/
def acceptedTiles (map : BuildableMap) (inputs : List (FrameInput F)) : List (Int × Int) :=
  inputs.filterMap (acceptedTile map)

theorem marks_of_mem_acceptedTiles {inputs : List (FrameInput F)} {tile : Int × Int}
    (member : tile ∈ acceptedTiles map inputs) : map.Marks tile := by
  obtain ⟨input, _, accepted⟩ := List.mem_filterMap.mp member
  rw [acceptedTile] at accepted
  split at accepted
  case isTrue clicked =>
    cases accepted
    obtain ⟨buildable, queried, isTrue⟩ :=
      exists_ok_of_succeedsWith _ _ clicked.2
    have accepts : buildable = true := isTrue
    subst accepts
    exact BuildableMap.marks_of_query queried
  case isFalse => cases accepted

end Tiles

/-! ## The towers of a session -/

section Session

variable [Arithmetic F] [Glm F]

theorem GameState.timeStep_placements {platform : Platform F R} {mapData : MapData F}
    {initial : GameState F R} {commands : List (GameCommand F)} {delta : F} {fuel : Nat}
    {frame after : Frame F R}
    (executed : timeStep platform mapData initial commands delta fuel frame = .ok after) :
    ∃ built, after.next.towers.map Tower.placement =
        initial.towers.map Tower.placement ++ built ∧
      built.Sublist (placements commands) := by
  obtain ⟨moved, fired, struck, moves, fires, hits, commanded⟩ := timeStep_eq_ok.mp executed
  obtain ⟨images, reached, _⟩ := moveEnemies_spec moves
  obtain ⟨turns, towers, follow, volley⟩ := updateTowers_turns fires
  obtain ⟨kept, _⟩ := updateProjectiles_spec hits
  obtain ⟨built, grown, asked, _⟩ := executeCommands_towers commanded
  refine ⟨built.map Tower.placement, ?_, asked⟩
  have copies : (turns.map fun turn => turn.copy).map Tower.placement =
      initial.towers.map Tower.placement := by
    rw [← towers, List.map_map, List.map_map]
    apply List.map_congr_left
    intro turn member
    have copied := (follow turn member).copy_eq
    show turn.copy.placement = turn.tower.placement
    rw [copied]
    rfl
  subst reached
  rw [grown, kept.towers, volley.next, List.map_append, ← copies]
  rfl

/-- Steps append towers that their commands ask for. -/
theorem World.run_placements {world : World F R} {start finish : GameState F R}
    {batches : List (List (GameCommand F))} {records : List (StepRecord F)}
    (run : Run world.step start batches records finish) :
    ∃ built, finish.towers.map Tower.placement = start.towers.map Tower.placement ++ built ∧
      built.Sublist (placements batches.flatten) := by
  induction run with
  | nil => exact ⟨[], by simp, List.nil_sublist _⟩
  | snoc _ stepped ih =>
      rcases ih with ⟨built, towers, asked⟩
      obtain ⟨frame, executed, rfl, _⟩ := World.step_eq_ok.mp stepped
      obtain ⟨later, grown, askedLater⟩ := GameState.timeStep_placements executed
      refine ⟨built ++ later, ?_, ?_⟩
      · rw [grown, towers, List.append_assoc]
      · rw [List.flatten_append, placements_append, List.flatten_singleton]
        exact asked.append askedLater

/-- Both buffers of a session that has stepped hold towers that commands asked for,
in the order of the commands. -/
theorem Boot.run_placements {platform : Platform F R} {fuel : Nat} {boot : Boot F R}
    {process reached : Process F R} {warmUp : StepRecord F}
    {batches : List (List (GameCommand F))} {records : List (StepRecord F)}
    (loaded : boot.fromMap platform fuel = .ok (process, warmUp))
    (run : Run (Process.step platform fuel) process batches records reached) {state : GameState F R}
    (current : state = reached.session.next ∨ state = reached.session.prev) :
    (state.towers.map Tower.placement).Sublist (placements batches.flatten) := by
  have fromStart := (Run.single loaded).append run
  have pureRun := (Process.run_refines platform fuel fromStart).1
  obtain ⟨earlier, commands, _, _, split, _, runToPrev, _⟩ :=
    Process.last_step platform fuel (by simp) fromStart
  cases current with
  | inl isNext =>
      obtain ⟨built, towers, asked⟩ := World.run_placements pureRun
      rw [isNext, towers]
      exact asked
  | inr isPrev =>
      obtain ⟨built, towers, asked⟩ := World.run_placements runToPrev
      have flat : placements batches.flatten =
          placements earlier.flatten ++ placements commands := by
        rw [← placements_append, ← List.flatten_concat, ← split]
        rfl
      rw [isPrev, towers, flat]
      exact asked.trans (List.sublist_append_left _ _)

end Session

/-! ## Clicks -/

namespace Game

section Frames

variable [Arithmetic F] [Glm F] {platform : Platform F R} {fuel : Nat}
variable {game game' : Game F R} {input : FrameInput F} {actions : List (Action F)}

/-- A frame asks for at most one tower, on the tile under the mouse. -/
theorem placements_frameCommands (game : Game F R) (input : FrameInput F) (buildable : Bool)
    (selectedEnemyIdx : Nat) (enemiesToSpawn : Int) :
    placements (frameCommands game input buildable selectedEnemyIdx enemiesToSpawn) =
      if input.leftMousePressed ∧ buildable then
        [(game.selectedTowerTypeId, tilePosition (BuildableMap.worldToTile input.world))]
      else
        [] := by
  have noSpawn : ∀ count, placements
      (List.replicate count (GameCommand.debugSpawnEnemy (F := F) selectedEnemyIdx)) = [] := by
    intro count
    rw [placements, List.filterMap_eq_nil_iff]
    intro command member
    rw [List.eq_of_mem_replicate member]
    rfl
  have noDespawn : placements (if input.despawnClicked then
      [GameCommand.debugDespawnAllEnemies (F := F)] else []) = [] := by
    split
    · rfl
    · rfl
  have noGold : placements (if input.addGoldClicked then
      [GameCommand.debugAddGold (literal 100 : F)] else []) = [] := by
    split
    · rfl
    · rfl
  have noEnemies : placements (if input.spawnClicked then List.replicate enemiesToSpawn.toNat
      (GameCommand.debugSpawnEnemy (F := F) selectedEnemyIdx) else []) = [] := by
    split
    · exact noSpawn _
    · rfl
  rw [frameCommands, placements_append, placements_append, placements_append, noEnemies, noDespawn,
    noGold, List.append_nil, List.append_nil, List.append_nil]
  split
  · rfl
  · rfl

/-- The fixed steps leave the selection alone. -/
theorem fixedSteps_selectedTowerTypeId {stepFuel : Nat} {last : Game F R}
    (executed : fixedSteps platform stepFuel fuel game = .ok (last, actions)) :
    last.selectedTowerTypeId = game.selectedTowerTypeId := by
  refine fixedSteps_rule
    (motive := fun game _ last => last.selectedTowerTypeId = game.selectedTowerTypeId)
    (fun _ _ => rfl) ?_ executed
  intro game middle last first later _ stepped same
  simp only [fixedStep, bind_eq_ok, pure_eq_ok, Prod.mk.injEq] at stepped
  obtain ⟨_, _, rfl, _⟩ := stepped
  exact same

/-- A frame keeps the map, and asks for one tower at most: the selected one, on the tile under
the mouse. -/
theorem placements_update (quiet : game.gameEvents = [])
    (executed : game.update platform fuel input = .ok (game', actions)) :
    game'.process.session.mapData = game.process.session.mapData ∧
      ∃ buildable,
        game.process.session.mapData.buildableMap.query input.world = .ok buildable ∧
        placements (enqueuedCommands actions) =
          if input.leftMousePressed ∧ buildable then
            [(game.selectedTowerTypeId, tilePosition (BuildableMap.worldToTile input.world))]
          else
            [] := by
  simp only [update, bind_eq_ok, pure_eq_ok, Prod.mk.injEq] at executed
  obtain ⟨scale, _, ⟨stepped, steps⟩, looped, _, _, buildable, queried, _, _, _, _, _, _, _, _, rfl,
    rfl⟩ := executed
  let elapsed := game.accumulatedDelta + input.deltaTime * scale
  have startQuiet : Game.gameEvents { game with accumulatedDelta := elapsed } = [] := quiet
  obtain ⟨records, stepsEq, holds⟩ := fixedSteps_spec startQuiet looped
  have sameWorld := (Process.run_refines platform fuel holds.run).2
  have sameMap : stepped.process.session.mapData = game.process.session.mapData :=
    congrArg World.mapData sameWorld
  have sameSelection : stepped.selectedTowerTypeId = game.selectedTowerTypeId :=
    (fixedSteps_selectedTowerTypeId looped).trans rfl
  rw [sameMap] at queried
  refine ⟨sameMap, buildable, queried, ?_⟩
  rw [enqueuedCommands_append, stepsEq, (stepActions_read records).1, List.nil_append,
    (enqueues_read _).1, placements_frameCommands, sameSelection]

/-- A frame keeps the map and asks for a tower on the tile that it accepts. -/
theorem update_placements (quiet : game.gameEvents = [])
    (executed : game.update platform fuel input = .ok (game', actions)) :
    (placements (enqueuedCommands actions)).map Prod.snd =
        (acceptedTile game.process.session.mapData.buildableMap input).toList.map tilePosition ∧
      game'.process.session.mapData = game.process.session.mapData := by
  obtain ⟨sameMap, buildable, queried, asked⟩ := placements_update quiet executed
  refine ⟨?_, sameMap⟩
  have accepts : succeedsWith id (game.process.session.mapData.buildableMap.query input.world) =
      buildable := by
    rw [queried]
    rfl
  rw [asked, acceptedTile, accepts]
  split
  · rfl
  · rfl

/-- The towers that a run of frames asks for stand on the tiles it accepts. -/
theorem run_placements {start finish : Game F R} {inputs : List (FrameInput F)}
    {outputs : List (List (Action F))} (quiet : start.gameEvents = [])
    (run : Run (update platform fuel) start inputs outputs finish) :
    (placements (enqueuedCommands outputs.flatten)).map Prod.snd =
        (acceptedTiles start.process.session.mapData.buildableMap inputs).map tilePosition ∧
      finish.process.session.mapData = start.process.session.mapData := by
  induction run with
  | nil => exact ⟨rfl, rfl⟩
  | snoc before executed ih =>
      rcases ih with ⟨positions, sameMap⟩
      obtain ⟨position, keepsMap⟩ := update_placements (run_delivers quiet before).quiet executed
      rw [sameMap] at position keepsMap
      refine ⟨?_, keepsMap⟩
      rw [List.flatten_append, List.flatten_singleton, enqueuedCommands_append, placements_append,
        List.map_append, positions, position, acceptedTiles, acceptedTiles, List.filterMap_append,
        List.map_append]
      congr 1

end Frames

end Game

/-! ## Where towers stand -/

section Placement

variable [Arithmetic F] [Glm F] {platform : Platform F R} {fuel : Nat} {boot : Boot F R}

/-- In every state that the steps of a run of frames leave in a session, the towers
stand on tiles that the map marks as buildable, and these tiles are, in order, some
of those that the player has clicked on while the query accepted them: where no
tile is accepted twice, no two towers share a tile. -/
theorem Game.towers_placed {process reached : Process F R} {warmUp : StepRecord F}
    {interpolatedState state : GameState F R} {inputs : List (FrameInput F)} {game : Game F R}
    {outputs : List (List (Action F))} {earlier later : List (List (GameCommand F))}
    {records : List (StepRecord F)}
    (loaded : boot.fromMap platform fuel = .ok (process, warmUp))
    (executed : runFrom (update platform fuel) (initialized process interpolatedState) inputs =
      .ok (game, outputs))
    (split : ((stepRecords outputs.flatten).map fun record => record.commands) = earlier ++ later)
    (run : Run (Process.step platform fuel) process earlier records reached)
    (current : state = reached.session.next ∨ state = reached.session.prev) :
    ∃ tiles : List (Int × Int),
      (state.towers.map fun tower => tower.position) = tiles.map tilePosition ∧
      (∀ tile ∈ tiles, boot.mapData.buildableMap.Marks tile) ∧
      tiles.Sublist (acceptedTiles boot.mapData.buildableMap inputs) ∧
      ((acceptedTiles boot.mapData.buildableMap inputs).Nodup → tiles.Nodup) := by
  have frames := Run.of_runFrom executed
  have delivered :
      ((stepRecords outputs.flatten).flatMap fun record => record.commands) ++ game.gameCommands =
        enqueuedCommands outputs.flatten := (run_delivers rfl frames).commands
  have sameWorld := (Process.run_refines platform fuel (Run.single loaded)).2
  have sameMap : process.session.mapData = boot.mapData := congrArg World.mapData sameWorld
  have asked := (run_placements rfl frames).1
  have start : (initialized process interpolatedState).process.session.mapData = boot.mapData :=
    sameMap
  rw [start] at asked
  -- the steps so far have received a prefix of the enqueued commands
  have received : (placements earlier.flatten).Sublist
      (placements (enqueuedCommands outputs.flatten)) := by
    rw [← delivered, List.flatMap_def, split, List.flatten_append, List.append_assoc,
      placements_append]
    exact List.sublist_append_left _ _
  have stand := (Boot.run_placements loaded run current).trans received
  have positions := stand.map Prod.snd
  rw [asked, List.map_map] at positions
  obtain ⟨tiles, accepted, same⟩ := List.sublist_map_iff.mp positions
  exact ⟨tiles, same, fun tile member => marks_of_mem_acceptedTiles (accepted.subset member),
    accepted, fun distinct => distinct.sublist accepted⟩

end Placement

section Meadow

open Rational

/-- The meadow with two buildable tiles next to each other. -/
def Rational.clearing : Boot ℚ Nat :=
  { meadowBoot with
    mapData := { meadow with buildableMap := { width := 2, height := 1, grid := [1, 1] } } }

/-- The mouse is pressed at `world` in a frame that lasts `deltaTime`. -/
def Rational.press (world : Vec2 ℚ) (deltaTime : ℚ) : FrameInput ℚ :=
  { idleInput deltaTime with world, leftMousePressed := true }

/-- The player clicks on the first tile and on `second`, and a step follows each
click. -/
def Rational.twoPresses (second : Vec2 ℚ) : List (FrameInput ℚ) :=
  [press 0 0, press second (1 / 20), idleInput (1 / 20)]

/-- Clicks on both tiles build a tower on each of them. -/
theorem neighbours_placed : ∃ process record game outputs,
    clearing.fromMap platform 10 = .ok (process, record) ∧
    runFrom (Game.update platform 10) (Game.initialized process clearing.otherBuffer)
      (twoPresses ⟨1, 0⟩) = .ok (game, outputs) ∧
    (game.process.session.next.towers.map fun tower => tower.position) = [⟨0, 0⟩, ⟨1, 0⟩] ∧
    ∃ tiles : List (Int × Int),
      (game.process.session.next.towers.map fun tower => tower.position) =
        tiles.map tilePosition ∧
      (∀ tile ∈ tiles, clearing.mapData.buildableMap.Marks tile) ∧ tiles.Nodup := by
  obtain ⟨⟨process, record⟩, loaded, checked⟩ := exists_ok_of_succeedsWith
    (clearing.fromMap platform 10)
    (fun result => succeedsWith (fun (game, _) => decide (
        (game.process.session.next.towers.map fun tower => tower.position) = [⟨0, 0⟩, ⟨1, 0⟩]))
      (runFrom (Game.update platform 10) (Game.initialized result.1 clearing.otherBuffer)
        (twoPresses ⟨1, 0⟩)))
    (by decide +kernel)
  obtain ⟨⟨game, outputs⟩, executed, found⟩ := exists_ok_of_succeedsWith _ _ checked
  obtain ⟨tiles, positions, marked, _, distinct⟩ := Game.towers_placed loaded executed
    (List.append_nil _).symm (Game.run_delivers rfl (Run.of_runFrom executed)).run (.inl rfl)
  exact ⟨process, record, game, outputs, loaded, executed, of_decide_eq_true found, tiles,
    positions, marked, distinct (by decide +kernel)⟩

/-- Two clicks on one tile build two towers there. -/
theorem same_tile_twice : ∃ process record game outputs,
    clearing.fromMap platform 10 = .ok (process, record) ∧
    runFrom (Game.update platform 10) (Game.initialized process clearing.otherBuffer)
      (twoPresses ⟨0, 0⟩) = .ok (game, outputs) ∧
    ¬(game.process.session.next.towers.map fun tower => tower.position).Nodup := by
  obtain ⟨⟨process, record⟩, loaded, checked⟩ := exists_ok_of_succeedsWith
    (clearing.fromMap platform 10)
    (fun result => succeedsWith (fun (game, _) => decide (
        ¬(game.process.session.next.towers.map fun tower => tower.position).Nodup))
      (runFrom (Game.update platform 10) (Game.initialized result.1 clearing.otherBuffer)
        (twoPresses ⟨0, 0⟩)))
    (by decide +kernel)
  obtain ⟨⟨game, outputs⟩, executed, found⟩ := exists_ok_of_succeedsWith _ _ checked
  exact ⟨process, record, game, outputs, loaded, executed, of_decide_eq_true found⟩

end Meadow

end TowerDefence
