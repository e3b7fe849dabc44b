import TowerDefence.Step.Commands
import TowerDefence.Step.Projectiles
import TowerDefence.Step.Towers

/-!
# The objects of a step

`Descends` says where the objects of the next state come from: enemies and towers
keep their order and new ones follow, while new projectiles come in front of
those that keep flying.  All new ids are taken from `nextObjectId`.
-/

namespace TowerDefence

open Foundations

variable {F R : Type}

namespace GameState

def enemyIds (state : GameState F R) : List Nat := state.enemies.map fun enemy => enemy.id
def towerIds (state : GameState F R) : List Nat := state.towers.map fun tower => tower.id
def projectileIds (state : GameState F R) : List Nat :=
  state.projectiles.map fun projectile => projectile.id

/-- The ids of all objects. -/
def objectIds (state : GameState F R) : List Nat :=
  state.enemyIds ++ state.towerIds ++ state.projectileIds

end GameState

/-- The objects of `finish` are objects of `start` or were created by `deeds`. -/
structure Descends (start : GameState F R) (deeds : List (Deed F)) (finish : GameState F R) :
    Prop where
  enemies : finish.enemyIds.Sublist (start.enemyIds ++ spawnedIds deeds)
  towers : finish.towerIds = start.towerIds ++ builtIds deeds
  projectiles : ∃ flying, flying.Sublist start.projectileIds ∧
    finish.projectileIds = launchedIds deeds ++ flying
  allocates : Allocates (2 ^ 32) start.nextObjectId (createdIds deeds) finish.nextObjectId

variable [Arithmetic F]

theorem Enemy.ids_eq_of_bodies {enemies enemies' : List (Enemy F)}
    (bodies : enemies'.map Enemy.body = enemies.map Enemy.body) :
    (enemies'.map fun enemy => enemy.id) = enemies.map fun enemy => enemy.id := by
  have sameIds := congrArg (List.map fun body => body.id) bodies
  rw [List.map_map, List.map_map] at sameIds
  exact sameIds

omit [Arithmetic F] in
/-- One more object takes the next id. -/
theorem Descends.allocates_succ {start finish : GameState F R} {deeds later : List (Deed F)}
    (descends : Descends start deeds finish) (created : createdIds later = [finish.nextObjectId]) :
    Allocates (2 ^ 32) start.nextObjectId (createdIds (deeds ++ later))
      (u32Succ finish.nextObjectId) := by
  rw [createdIds_append, created]
  exact descends.allocates.snoc

theorem Obeys.descends {mapData : MapData F} {start : GameState F R} {deeds : List (Deed F)}
    {frame frame' : Frame F R} {command : GameCommand F}
    (obeys : Obeys mapData frame command frame') (descends : Descends start deeds frame.next) :
    ∃ later, frame'.deeds = frame.deeds ++ later ∧ Descends start (deeds ++ later) frame'.next := by
  have enemies := descends.enemies
  have towers := descends.towers
  have projectiles := descends.projectiles
  have allocates := descends.allocates
  cases obeys with
  | @spawn _ _ enemy _ _ fresh _ _ _ =>
      refine ⟨[.spawn enemy], rfl, ?_, ?_, ?_, descends.allocates_succ (by simp [fresh])⟩
      · have grown := enemies.append_right [enemy.id]
        simpa [GameState.enemyIds] using grown
      · simpa [GameState.towerIds] using towers
      · simpa [GameState.projectileIds] using projectiles
  | despawn =>
      refine ⟨[], by simp, List.nil_sublist _, ?_, ?_, by simpa using allocates⟩
      · simpa [GameState.towerIds] using towers
      · simpa [GameState.projectileIds] using projectiles
  | addGold amount =>
      refine ⟨[], by simp, ?_, ?_, ?_, by simpa using allocates⟩
      · simpa [GameState.enemyIds] using enemies
      · simpa [GameState.towerIds] using towers
      · simpa [GameState.projectileIds] using projectiles
  | @build _ _ _ tower _ _ fresh _ =>
      refine ⟨[.build tower], rfl, ?_, ?_, ?_, descends.allocates_succ (by simp [fresh])⟩
      · simpa [GameState.enemyIds] using enemies
      · have grown := congrArg (· ++ [tower.id]) towers
        simpa [GameState.towerIds] using grown
      · simpa [GameState.projectileIds] using projectiles
  | refuse _ _ => exact ⟨[], by simp, by simpa using descends⟩

namespace GameState

variable [Glm F]
variable {platform : Platform F R} {mapData : MapData F} {initial : GameState F R}
variable {commands : List (GameCommand F)} {delta : F} {fuel : Nat}
variable {frame moved fired struck after : Frame F R}

/-- The four loops of a step. -/
theorem timeStep_eq_ok :
    timeStep platform mapData initial commands delta fuel frame = .ok after ↔
      ∃ moved fired struck,
        moveEnemies mapData initial delta (clearNext initial frame) = .ok moved ∧
        updateTowers platform mapData delta fuel initial moved = .ok fired ∧
        updateProjectiles mapData delta initial fired = .ok struck ∧
        executeCommands platform mapData commands struck = .ok after := by
  simp only [timeStep, bind_eq_ok]
  constructor
  · intro executed
    rcases executed with ⟨moved, moves, fired, fires, struck, strikes, commanded⟩
    exact ⟨moved, fired, struck, moves, fires, strikes, commanded⟩
  · intro executed
    rcases executed with ⟨moved, fired, struck, moves, fires, strikes, commanded⟩
    exact ⟨moved, moves, fired, fires, struck, strikes, commanded⟩

/-- The tower and projectile loops leave the enemies in their slots and take health only. -/
theorem struck_bodies
    (fires : updateTowers platform mapData delta fuel initial moved = .ok fired)
    (strikes : updateProjectiles mapData delta initial fired = .ok struck) :
    struck.next.enemies.map Enemy.body = moved.next.enemies.map Enemy.body := by
  obtain ⟨copies, shots, volley, _, _⟩ := updateTowers_spec fires
  obtain ⟨kept, _⟩ := updateProjectiles_spec strikes
  rw [kept.bodies, volley.enemies]

/-- The first three loops. -/
theorem descends_of_loops
    (moves : moveEnemies mapData initial delta (clearNext initial frame) = .ok moved)
    (fires : updateTowers platform mapData delta fuel initial moved = .ok fired)
    (strikes : updateProjectiles mapData delta initial fired = .ok struck) :
    ∃ deeds, struck.deeds = frame.deeds ++ deeds ∧ Descends initial deeds struck.next := by
  obtain ⟨images, reached, carriedEnemies⟩ := moveEnemies_spec moves
  obtain ⟨copies, shots, volley, _, copied⟩ := updateTowers_spec fires
  obtain ⟨kept, flights, appended, carried⟩ := updateProjectiles_spec strikes
  obtain ⟨harm, harmed, nothing⟩ := kept.deeds
  obtain ⟨nothingSpawned, nothingBuilt, nothingLaunched⟩ := ids_eq_nil nothing
  obtain ⟨launched, created, spawned, built⟩ := Volley.ids_eq shots
  subst reached
  refine ⟨(shots.map fun shot => .launch shot.1 shot.2) ++ harm, ?_, ?_, ?_, ?_, ?_⟩
  · rw [harmed, volley.deeds, List.append_assoc]
    rfl
  · rw [spawnedIds_append, spawned, nothingSpawned, List.append_nil, List.append_nil, enemyIds,
      Enemy.ids_eq_of_bodies (struck_bodies fires strikes)]
    exact carriedEnemies.map_sublist fun _ _ related => related.id
  · rw [builtIds_append, built, nothingBuilt, List.append_nil, List.append_nil, towerIds,
      kept.towers, volley.next]
    exact map_eq_of_forall₂ copied fun _ _ copy => copy.id
  · refine ⟨flights.map fun projectile => projectile.id,
      carried.map_sublist fun _ _ flight => flight.id_eq, ?_⟩
    rw [launchedIds_append, launched, nothingLaunched, List.append_nil, projectileIds, appended,
      volley.next]
    simp [clearNext]
  · rw [createdIds_append, created, nothing, List.append_nil, kept.nextObjectId]
    exact volley.allocates

/-- Where the objects of the next state come from. -/
theorem timeStep_descends
    (executed : timeStep platform mapData initial commands delta fuel frame = .ok after) :
    ∃ deeds, after.deeds = frame.deeds ++ deeds ∧ Descends initial deeds after.next := by
  obtain ⟨moved, fired, struck, moves, fires, strikes, commanded⟩ := timeStep_eq_ok.mp executed
  apply executeCommands_invariant (fun state => ∃ deeds,
    state.deeds = frame.deeds ++ deeds ∧ Descends initial deeds state.next) commanded
  · exact descends_of_loops moves fires strikes
  · intro command state state' _ obeys holds
    rcases holds with ⟨deeds, recorded, descends⟩
    obtain ⟨later, recordedLater, descendsLater⟩ := obeys.descends descends
    exact ⟨deeds ++ later, by rw [recordedLater, recorded, List.append_assoc], descendsLater⟩

end GameState

end TowerDefence
