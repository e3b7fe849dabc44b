import TowerDefence.Foundations.Allocation
import TowerDefence.Step.History
import TowerDefence.Step.Movement

/-!
# The command loop

`Obeys` lists everything that one command can do to a frame.
-/

namespace TowerDefence

open Foundations

variable {F R : Type} [Arithmetic F]

/-- The effect of one command. -/
inductive Obeys (mapData : MapData F) (frame : Frame F R) : GameCommand F → Frame F R → Prop where
  | spawn {enemyType : Nat} {type : EnemyType F} {enemy : Enemy F} {engine : R} :
      mapData.enemyTypes[enemyType]? = some type → enemy.id = frame.next.nextObjectId →
      enemy.typeIdx = enemyType → enemy.remainingHealth = type.maxHealth →
      enemy.nextWaypointIdx = 1 →
      Obeys mapData frame (.debugSpawnEnemy enemyType)
        { frame with
          next :=
            { frame.next with
              enemies := frame.next.enemies ++ [enemy]
              nextObjectId := u32Succ frame.next.nextObjectId
              randomEngine := engine }
          deeds := frame.deeds ++ [.spawn enemy] }
  | despawn : Obeys mapData frame .debugDespawnAllEnemies { frame with next.enemies := [] }
  | addGold (amount : F) :
      Obeys mapData frame (.debugAddGold amount)
        { frame with next.playerState.gold := frame.next.playerState.gold + amount }
  | build {towerType : Nat} {position : Vec2 F} {type : TowerType F} {tower : Tower F} :
      mapData.towerTypes[towerType]? = some type → type.cost ≤ frame.next.playerState.gold →
      tower.id = frame.next.nextObjectId → tower.typeIdx = towerType →
      Obeys mapData frame (.buildTower towerType position)
        { frame with
          next :=
            { frame.next with
              playerState.gold := frame.next.playerState.gold - type.cost
              towers := frame.next.towers ++ [tower]
              nextObjectId := u32Succ frame.next.nextObjectId }
          deeds := frame.deeds ++ [.build tower] }
  | refuse {towerType : Nat} {position : Vec2 F} {type : TowerType F} :
      mapData.towerTypes[towerType]? = some type → ¬type.cost ≤ frame.next.playerState.gold →
      Obeys mapData frame (.buildTower towerType position) frame

/-- The history only grows. -/
theorem Obeys.deeds_append {mapData : MapData F} {frame frame' : Frame F R}
    {command : GameCommand F} (obeys : Obeys mapData frame command frame') :
    ∃ deeds, frame'.deeds = frame.deeds ++ deeds := by
  cases obeys with
  | spawn _ _ _ _ _ => exact ⟨_, rfl⟩
  | despawn => exact ⟨[], by simp⟩
  | addGold _ => exact ⟨[], by simp⟩
  | build _ _ _ _ => exact ⟨_, rfl⟩
  | refuse _ _ => exact ⟨[], by simp⟩

/-- A command strikes nobody. -/
theorem Obeys.strikes_eq {mapData : MapData F} {frame frame' : Frame F R}
    {command : GameCommand F} (obeys : Obeys mapData frame command frame') :
    strikes frame'.deeds = strikes frame.deeds := by
  cases obeys with
  | spawn _ _ _ _ _ => simp [strikes, Deed.asStrike]
  | despawn => rfl
  | addGold _ => rfl
  | build _ _ _ _ => simp [strikes, Deed.asStrike]
  | refuse _ _ => rfl

namespace GameState

variable {platform : Platform F R} {mapData : MapData F} {frame frame' : Frame F R}
variable {commands : List (GameCommand F)}

theorem executeCommand_obeys {command : GameCommand F}
    (executed : executeCommand platform mapData frame command = .ok frame') :
    Obeys mapData frame command frame' := by
  cases command with
  | debugSpawnEnemy enemyType =>
      simp only [executeCommand, setupEnemy, bind_eq_ok, readAt_eq_ok, pure_eq_ok] at executed
      rcases executed with ⟨type, typed, enemy, ⟨_, found, start, _, _, _, placed⟩, assembled⟩
      have sameType := found.symm.trans typed
      cases sameType
      subst placed assembled
      exact .spawn typed rfl rfl rfl rfl
  | debugDespawnAllEnemies =>
      simp only [executeCommand, pure_eq_ok] at executed
      subst executed
      exact .despawn
  | debugAddGold amount =>
      simp only [executeCommand, pure_eq_ok] at executed
      subst executed
      exact .addGold amount
  | buildTower towerType position =>
      simp only [executeCommand, bind_eq_ok, readAt_eq_ok] at executed
      rcases executed with ⟨type, typed, executed⟩
      split at executed
      · rename_i affordable
        rw [pure_eq_ok] at executed
        subst executed
        exact .build typed affordable rfl rfl
      · rename_i tooExpensive
        rw [pure_eq_ok] at executed
        subst executed
        exact .refuse typed tooExpensive

/-- Invariant rule of the command loop; the invariant knows the commands that
have been executed. -/
theorem executeCommands_progress (inv : List (GameCommand F) → Frame F R → Prop)
    (executed : executeCommands platform mapData commands frame = .ok frame')
    (initially : inv [] frame)
    (preserved : ∀ done command state state', command ∈ commands →
      Obeys mapData state command state' → inv done state → inv (done ++ [command]) state') :
    inv commands frame' := by
  apply foldlM_progress inv executed initially
  intro done command state state' member holds stepped
  exact preserved done command state state' member (executeCommand_obeys stepped) holds

/-- Invariant rule of the command loop. -/
theorem executeCommands_invariant (inv : Frame F R → Prop)
    (executed : executeCommands platform mapData commands frame = .ok frame')
    (initially : inv frame)
    (preserved : ∀ command state state', command ∈ commands →
      Obeys mapData state command state' → inv state → inv state') : inv frame' :=
  executeCommands_progress (fun _ => inv) executed initially fun _ => preserved

/-- Commands leave the projectiles alone. -/
theorem executeCommands_projectiles
    (executed : executeCommands platform mapData commands frame = .ok frame') :
    frame'.next.projectiles = frame.next.projectiles := by
  apply executeCommands_invariant
    (fun state => state.next.projectiles = frame.next.projectiles) executed rfl
  intro command state state' _ obeys kept
  cases obeys with
  | spawn _ _ _ _ _ => exact kept
  | despawn => exact kept
  | addGold _ => exact kept
  | build _ _ _ _ => exact kept
  | refuse _ _ => exact kept

/-- Commands strike nobody. -/
theorem executeCommands_strikes
    (executed : executeCommands platform mapData commands frame = .ok frame') :
    strikes frame'.deeds = strikes frame.deeds := by
  apply executeCommands_invariant (fun state => strikes state.deeds = strikes frame.deeds)
    executed rfl
  intro command state state' _ obeys same
  rw [obeys.strikes_eq, same]

end GameState

/-! ## Spawning -/

omit [Arithmetic F] in
/-- How a command changes the number of enemies that entered during its batch. -/
def countNewcomers (count : Nat) : GameCommand F → Nat
  | .debugSpawnEnemy _ => count + 1
  | .debugDespawnAllEnemies => 0
  | .debugAddGold _ => count
  | .buildTower _ _ => count

omit [Arithmetic F] in
/-- The number of enemies that the commands spawn and do not despawn again. -/
def newcomers (commands : List (GameCommand F)) : Nat := commands.foldl countNewcomers 0

omit [Arithmetic F] in
/-- The command removes all enemies. -/
def GameCommand.despawns : GameCommand F → Bool
  | .debugDespawnAllEnemies => true
  | _ => false

/-- An enemy as `SetupEnemy` leaves it: on its way to the second waypoint, and with
the distance to the goal that it was constructed with. -/
structure Enemy.Newcomer (mapData : MapData F) (enemy : Enemy F) : Prop where
  typed : ∃ type, mapData.enemyTypes[enemy.typeIdx]? = some type
  waypoints : 2 ≤ mapData.enemyPath.waypoints.length
  velocity : enemy.velocity = 0
  nextWaypointIdx : enemy.nextWaypointIdx = 1
  distanceToGoal : enemy.distanceToGoal = 0

namespace GameState

variable {platform : Platform F R} {mapData : MapData F} {frame frame' : Frame F R}
variable {commands : List (GameCommand F)}

/-- A command appends a newcomer, or removes all enemies, or keeps them. -/
theorem executeCommand_newcomers {command : GameCommand F} {kept spawned : List (Enemy F)}
    (executed : executeCommand platform mapData frame command = .ok frame')
    (split : frame.next.enemies = kept ++ spawned)
    (fresh : ∀ enemy ∈ spawned, enemy.Newcomer mapData) :
    ∃ spawned', frame'.next.enemies =
        (if command.despawns then [] else kept) ++ spawned' ∧
      spawned'.length = countNewcomers spawned.length command ∧
      ∀ enemy ∈ spawned', enemy.Newcomer mapData := by
  cases command with
  | debugSpawnEnemy enemyType =>
      simp only [executeCommand, setupEnemy, bind_eq_ok, readAt_eq_ok, pure_eq_ok] at executed
      rcases executed with ⟨type, typed, enemy, ⟨_, _, start, _, second, found, placed⟩, assembled⟩
      obtain ⟨spawnedNow, appended, newcomer⟩ : ∃ spawnedNow : Enemy F,
          frame'.next.enemies = frame.next.enemies ++ [spawnedNow] ∧
            spawnedNow.Newcomer mapData := by
        subst placed assembled
        exact ⟨_, rfl, ⟨type, typed⟩, (List.getElem?_eq_some_iff.mp found).1, rfl, rfl, rfl⟩
      refine ⟨spawned ++ [spawnedNow], ?_, List.length_append, ?_⟩
      · rw [appended, split, List.append_assoc]
        rfl
      · intro other member
        cases List.mem_append.mp member with
        | inl earlier => exact fresh other earlier
        | inr last =>
            exact List.mem_singleton.mp last ▸ newcomer
  | debugDespawnAllEnemies =>
      cases executed
      exact ⟨[], rfl, rfl, by simp⟩
  | debugAddGold amount =>
      cases executed
      exact ⟨spawned, split, rfl, fresh⟩
  | buildTower towerType position =>
      simp only [executeCommand, bind_eq_ok, readAt_eq_ok] at executed
      rcases executed with ⟨type, typed, executed⟩
      split at executed
      · cases executed
        exact ⟨spawned, split, rfl, fresh⟩
      · cases executed
        exact ⟨spawned, split, rfl, fresh⟩

/-- After the command loop the newcomers stand behind the enemies that were there
before, unless these were despawned. -/
theorem executeCommands_newcomers
    (executed : executeCommands platform mapData commands frame = .ok frame') :
    ∃ spawned, frame'.next.enemies =
        (if commands.any GameCommand.despawns then [] else frame.next.enemies) ++ spawned ∧
      spawned.length = newcomers commands ∧ ∀ enemy ∈ spawned, enemy.Newcomer mapData := by
  let inv (done : List (GameCommand F)) (state : Frame F R) : Prop :=
    ∃ spawned, state.next.enemies =
        (if done.any GameCommand.despawns then [] else frame.next.enemies) ++ spawned ∧
      spawned.length = newcomers done ∧ ∀ enemy ∈ spawned, enemy.Newcomer mapData
  apply foldlM_progress inv executed ⟨[], by simp, rfl, by simp⟩
  intro done command state state' _ holds stepped
  rcases holds with ⟨spawned, split, counted, fresh⟩
  obtain ⟨spawned', split', counted', fresh'⟩ := executeCommand_newcomers stepped split fresh
  refine ⟨spawned', ?_, ?_, fresh'⟩
  · rw [split', List.any_append, List.any_cons, List.any_nil, Bool.or_false]
    cases command.despawns with
    | true => simp
    | false => simp
  · rw [counted', counted, newcomers, newcomers, List.foldl_append]
    rfl

end GameState

/-! ## Building -/

omit [Arithmetic F] in
/-- The type and the position of a tower that a command asks for. -/
def GameCommand.asPlacement : GameCommand F → Option (Nat × Vec2 F)
  | .buildTower towerType position => some (towerType, position)
  | _ => none

omit [Arithmetic F] in
/-- The towers that `commands` ask for, in order. -/
def placements (commands : List (GameCommand F)) : List (Nat × Vec2 F) :=
  commands.filterMap GameCommand.asPlacement

omit [Arithmetic F] in
@[simp] theorem placements_append (commands later : List (GameCommand F)) :
    placements (commands ++ later) = placements commands ++ placements later :=
  List.filterMap_append

/-- The type and the position of a tower. -/
def Tower.placement (tower : Tower F) : Nat × Vec2 F := (tower.typeIdx, tower.position)

/-- A tower that has just been built. -/
structure Tower.Built (mapData : MapData F) (tower : Tower F) : Prop where
  typed : ∃ type, mapData.towerTypes[tower.typeIdx]? = some type
  timeSinceLastShot : tower.timeSinceLastShot = 0

namespace GameState

variable {platform : Platform F R} {mapData : MapData F} {frame frame' : Frame F R}
variable {commands : List (GameCommand F)}

/-- A command appends a tower only where it asks for one. -/
theorem executeCommand_towers {command : GameCommand F}
    (executed : executeCommand platform mapData frame command = .ok frame') :
    ∃ built : List (Tower F), frame'.next.towers = frame.next.towers ++ built ∧
      (built.map Tower.placement).Sublist (placements [command]) ∧
      ∀ tower ∈ built, tower.Built mapData := by
  cases command with
  | debugSpawnEnemy enemyType =>
      simp only [executeCommand, bind_eq_ok, pure_eq_ok] at executed
      rcases executed with ⟨_, _, _, _, rfl⟩
      exact ⟨[], by simp, List.nil_sublist _, by simp⟩
  | debugDespawnAllEnemies =>
      cases executed
      exact ⟨[], by simp, List.nil_sublist _, by simp⟩
  | debugAddGold amount =>
      cases executed
      exact ⟨[], by simp, List.nil_sublist _, by simp⟩
  | buildTower towerType position =>
      simp only [executeCommand, bind_eq_ok, readAt_eq_ok] at executed
      rcases executed with ⟨type, typed, executed⟩
      split at executed
      · cases executed
        refine ⟨[setupTower towerType position
          { Tower.fresh F with id := frame.next.nextObjectId }], rfl, List.Sublist.refl _, ?_⟩
        intro tower member
        cases List.mem_singleton.mp member
        exact ⟨⟨type, typed⟩, rfl⟩
      · cases executed
        exact ⟨[], by simp, List.nil_sublist _, by simp⟩

/-- The command loop appends some of the towers that the commands ask for. -/
theorem executeCommands_towers
    (executed : executeCommands platform mapData commands frame = .ok frame') :
    ∃ built : List (Tower F), frame'.next.towers = frame.next.towers ++ built ∧
      (built.map Tower.placement).Sublist (placements commands) ∧
      ∀ tower ∈ built, tower.Built mapData := by
  let inv (done : List (GameCommand F)) (state : Frame F R) : Prop :=
    ∃ built : List (Tower F), state.next.towers = frame.next.towers ++ built ∧
      (built.map Tower.placement).Sublist (placements done) ∧
      ∀ tower ∈ built, tower.Built mapData
  apply foldlM_progress inv executed ⟨[], by simp, List.nil_sublist _, by simp⟩
  intro done command state state' _ holds stepped
  rcases holds with ⟨built, appended, asked, fresh⟩
  obtain ⟨later, appendedLater, askedLater, freshLater⟩ := executeCommand_towers stepped
  refine ⟨built ++ later, ?_, ?_, ?_⟩
  · rw [appendedLater, appended, List.append_assoc]
  · rw [List.map_append, placements_append]
    exact asked.append askedLater
  · intro tower member
    cases List.mem_append.mp member with
    | inl earlier => exact fresh tower earlier
    | inr here => exact freshLater tower here

end GameState

end TowerDefence
