import Mathlib.Logic.Function.Iterate
import TowerDefence.Model.Rational
import TowerDefence.Session.Identity

/-!
# Where enemies appear

The random engine belongs to the game state, and only a spawn draws from it.  So
the place where the n-th enemy of a session appears is decided by the engine
alone: it does not depend on the steps, the batches, the towers or the frames in
between.  The lives are copied from state to state: nothing takes one.
-/

namespace TowerDefence

open Foundations

variable {F R : Type}

/-- The enemy that a deed spawned. -/
def Deed.asSpawn : Deed F → Option (Enemy F)
  | .spawn enemy => some enemy
  | _ => none

/-- The enemies that a history spawned, as they were when they appeared. -/
def spawnedEnemies (deeds : List (Deed F)) : List (Enemy F) := deeds.filterMap Deed.asSpawn

@[simp] theorem spawnedEnemies_append (deeds later : List (Deed F)) :
    spawnedEnemies (deeds ++ later) = spawnedEnemies deeds ++ spawnedEnemies later := by
  simp [spawnedEnemies]

namespace Platform

/-- The engine of a session after `count` draws. -/
def engineAfter (platform : Platform F R) (count : Nat) : R :=
  (fun engine => (platform.randomShift engine).2)^[count] platform.defaultEngine

/-- The shift of the draw with this number. -/
def shift (platform : Platform F R) (index : Nat) : Vec2 F :=
  (platform.randomShift (platform.engineAfter index)).1

theorem engineAfter_succ (platform : Platform F R) (count : Nat) :
    platform.engineAfter (count + 1) = (platform.randomShift (platform.engineAfter count)).2 :=
  Function.iterate_succ_apply' _ count _

end Platform

variable [Arithmetic F]

/-- The enemy as the spawn with this number makes it: of some type, with full
health, shifted from the start of the path. -/
def Enemy.SpawnedAs (platform : Platform F R) (mapData : MapData F) (index : Nat)
    (enemy : Enemy F) : Prop :=
  ∃ type start, mapData.enemyTypes[enemy.typeIdx]? = some type ∧
    mapData.enemyPath.waypoints[0]? = some start ∧
    enemy =
      { Enemy.fresh F with
        id := enemy.id
        typeIdx := enemy.typeIdx
        position := start + platform.shift index
        remainingHealth := type.maxHealth }

/-- The engine of the state has been drawn from once for every spawned enemy, and
each draw placed its enemy. -/
structure Spawns (platform : Platform F R) (mapData : MapData F) (deeds : List (Deed F))
    (state : GameState F R) : Prop where
  engine : state.randomEngine = platform.engineAfter (spawnedEnemies deeds).length
  placed : ∀ (index : Nat) (enemy : Enemy F), (spawnedEnemies deeds)[index]? = some enemy →
    enemy.SpawnedAs platform mapData index

namespace Spawns

variable {platform : Platform F R} {mapData : MapData F} {deeds later : List (Deed F)}
variable {state next : GameState F R} {enemy : Enemy F}

/-- Deeds that spawn nobody draw nothing. -/
theorem congr (spawns : Spawns platform mapData deeds state)
    (sameEngine : next.randomEngine = state.randomEngine) (noSpawn : spawnedEnemies later = []) :
    Spawns platform mapData (deeds ++ later) next := by
  have same : spawnedEnemies (deeds ++ later) = spawnedEnemies deeds := by
    rw [spawnedEnemies_append, noSpawn, List.append_nil]
  exact ⟨by rw [sameEngine, same, spawns.engine], same ▸ spawns.placed⟩

/-- One more spawn takes the next draw. -/
theorem snoc (spawns : Spawns platform mapData deeds state)
    (drawn : next.randomEngine = (platform.randomShift state.randomEngine).2)
    (placed : enemy.SpawnedAs platform mapData (spawnedEnemies deeds).length) :
    Spawns platform mapData (deeds ++ [.spawn enemy]) next := by
  have grown : spawnedEnemies (deeds ++ [.spawn enemy]) = spawnedEnemies deeds ++ [enemy] :=
    spawnedEnemies_append deeds _
  constructor
  · rw [drawn, grown, List.length_append, List.length_singleton, Platform.engineAfter_succ,
      spawns.engine]
  · intro index other found
    rw [grown] at found
    rcases Nat.lt_or_ge index (spawnedEnemies deeds).length with earlier | last
    · rw [List.getElem?_append_left earlier] at found
      exact spawns.placed index other found
    · rw [List.getElem?_append_right last, List.getElem?_singleton] at found
      split at found
      · rename_i first
        cases found
        rwa [Nat.le_antisymm (Nat.sub_eq_zero_iff_le.mp first) last]
      · cases found

end Spawns

namespace GameState

variable {platform : Platform F R} {mapData : MapData F} {initial : GameState F R}
variable {frame moved fired struck frame' : Frame F R}

theorem executeCommand_spawns {past : List (Deed F)} {command : GameCommand F}
    (executed : executeCommand platform mapData frame command = .ok frame')
    (spawns : Spawns platform mapData (past ++ frame.deeds) frame.next) :
    Spawns platform mapData (past ++ frame'.deeds) frame'.next := by
  have quiet {state : GameState F R} (sameEngine : state.randomEngine = frame.next.randomEngine) :
      Spawns platform mapData (past ++ frame.deeds) state := by
    have kept : Spawns platform mapData (past ++ frame.deeds ++ []) state :=
      spawns.congr sameEngine rfl
    rw [List.append_nil] at kept
    exact kept
  cases command with
  | debugSpawnEnemy enemyType =>
      simp only [executeCommand, setupEnemy, bind_eq_ok, readAt_eq_ok, pure_eq_ok] at executed
      rcases executed with ⟨type, typed, enemy, ⟨_, found, start, started, _, _, placed⟩, assembled⟩
      subst placed assembled
      have sameType := found.symm.trans typed
      cases sameType
      rw [← List.append_assoc]
      refine spawns.snoc rfl ⟨type, start, typed, started, ?_⟩
      rw [Platform.shift, ← spawns.engine]
  | debugDespawnAllEnemies =>
      simp only [executeCommand, pure_eq_ok] at executed
      subst executed
      exact quiet rfl
  | debugAddGold amount =>
      simp only [executeCommand, pure_eq_ok] at executed
      subst executed
      exact quiet rfl
  | buildTower towerType position =>
      simp only [executeCommand, bind_eq_ok, readAt_eq_ok] at executed
      rcases executed with ⟨type, typed, executed⟩
      split at executed
      · rw [pure_eq_ok] at executed
        subst executed
        rw [← List.append_assoc]
        exact spawns.congr rfl rfl
      · rw [pure_eq_ok] at executed
        subst executed
        exact spawns

variable [Glm F] {commands : List (GameCommand F)} {delta : F} {fuel : Nat}

/-- The first three loops draw nothing, spawn nobody and take no life. -/
theorem struck_undrawn
    (moves : moveEnemies mapData initial delta (clearNext initial frame) = .ok moved)
    (fires : updateTowers platform mapData delta fuel initial moved = .ok fired)
    (strikes : updateProjectiles mapData delta initial fired = .ok struck) :
    struck.next.randomEngine = initial.randomEngine ∧
      struck.next.playerState.lives = initial.playerState.lives ∧
      ∃ later, struck.deeds = frame.deeds ++ later ∧ spawnedEnemies later = [] := by
  obtain ⟨images, reached, _⟩ := moveEnemies_spec moves
  obtain ⟨copies, shots, volley, _, _⟩ := updateTowers_spec fires
  subst reached
  apply updateProjectiles_invariant (fun state =>
    state.next.randomEngine = initial.randomEngine ∧
      state.next.playerState.lives = initial.playerState.lives ∧
      ∃ later, state.deeds = frame.deeds ++ later ∧ spawnedEnemies later = []) strikes
  · rw [volley.next]
    have recorded : fired.deeds = frame.deeds ++ shots.map fun shot => .launch shot.1 shot.2 :=
      volley.deeds
    refine ⟨rfl, rfl, _, recorded, ?_⟩
    simp [spawnedEnemies, List.filterMap_map, Function.comp_def, Deed.asSpawn]
  · intro state state' impact holds
    obtain ⟨engine, lives, later, recorded, noSpawn⟩ := holds
    cases impact with
    | query storage => exact ⟨engine, lives, later, recorded, noSpawn⟩
    | detonate projectile =>
        refine ⟨engine, lives, later ++ [.detonate projectile], by simp [recorded], ?_⟩
        simpa [spawnedEnemies, Deed.asSpawn] using noSpawn
    | @strike _ strike _ _ _ _ applied =>
        rw [applied.next]
        refine ⟨engine, lives, later ++ [.strike strike], by simp [recorded, applied.deeds], ?_⟩
        simpa [spawnedEnemies, Deed.asSpawn] using noSpawn
  · intro state proj projNext _ _ holds
    exact holds

/-- A step keeps the lives. -/
theorem timeStep_lives {after : Frame F R}
    (executed : timeStep platform mapData initial commands delta fuel frame = .ok after) :
    after.next.playerState.lives = initial.playerState.lives := by
  obtain ⟨moved, fired, struck, moves, fires, strikes, commanded⟩ := timeStep_eq_ok.mp executed
  obtain ⟨_, lives, _⟩ := struck_undrawn moves fires strikes
  apply executeCommands_invariant
    (fun state => state.next.playerState.lives = initial.playerState.lives) commanded lives
  intro command state state' _ obeys holds
  cases obeys with
  | spawn _ _ _ _ _ => exact holds
  | despawn => exact holds
  | addGold amount => exact holds
  | build _ _ _ _ => exact holds
  | refuse _ _ => exact holds

/-- A step draws once for every enemy it spawns. -/
theorem timeStep_spawns {after : Frame F R} {past : List (Deed F)} (noDeeds : frame.deeds = [])
    (executed : timeStep platform mapData initial commands delta fuel frame = .ok after)
    (spawns : Spawns platform mapData past initial) :
    Spawns platform mapData (past ++ after.deeds) after.next := by
  obtain ⟨moved, fired, struck, moves, fires, strikes, commanded⟩ := timeStep_eq_ok.mp executed
  obtain ⟨engine, _, later, recorded, noSpawn⟩ := struck_undrawn moves fires strikes
  rw [noDeeds, List.nil_append] at recorded
  apply foldlM_invariant
    (fun state => Spawns platform mapData (past ++ state.deeds) state.next) commanded
  · rw [recorded]
    exact spawns.congr engine noSpawn
  · intro command state state' _ holds stepped
    exact executeCommand_spawns stepped holds

end GameState

section Sessions

variable [Glm F] {platform : Platform F R} {fuel : Nat} {boot : Boot F R}
variable {batches : List (List (GameCommand F))} {process : Process F R}
variable {records : List (StepRecord F)}

/-- A run keeps the lives. -/
theorem World.run_lives {world : World F R} {start finish : GameState F R}
    (run : Run world.step start batches records finish) :
    finish.playerState.lives = start.playerState.lives := by
  induction run with
  | nil => rfl
  | snoc _ stepped ih =>
      obtain ⟨frame, executed, reached, _⟩ := World.step_eq_ok.mp stepped
      rw [reached]
      exact (GameState.timeStep_lives executed).trans ih

/-- Over a whole session, the n-th enemy that was spawned appeared at the start of
the path, shifted by the n-th draw of a default-constructed engine, with the full
health of its type; nothing else has drawn from the engine.  The lives are those
the session started with. -/
theorem Boot.play_spawns (played : boot.play platform fuel batches = .ok (process, records)) :
    (∀ (index : Nat) (enemy : Enemy F), (spawnedEnemies (history records))[index]? = some enemy →
        enemy.SpawnedAs platform boot.mapData index) ∧
      process.session.next.randomEngine =
        platform.engineAfter (spawnedEnemies (history records)).length ∧
      process.session.next.playerState.lives = toU32 boot.startingLives := by
  have run := pure_run_of_play platform fuel played
  have lives : process.session.next.playerState.lives = toU32 boot.startingLives :=
    World.run_lives run
  suffices general : Spawns platform boot.mapData (history records) process.session.next from
    ⟨general.placed, general.engine, lives⟩
  clear played lives
  generalize [] :: batches = inputs at run
  generalize process.session.next = finish at run ⊢
  induction run with
  | nil => exact ⟨rfl, by simp [spawnedEnemies]⟩
  | snoc _ stepped ih =>
      obtain ⟨frame, executed, reached, recorded⟩ := World.step_eq_ok.mp stepped
      rw [reached, history_append, history_single, recorded]
      exact GameState.timeStep_spawns rfl executed ih

end Sessions

section Meadow

open Rational

/-- The second soldier of this session appears three steps after the first, with
the second draw. -/
theorem soldier_spawns : ∃ process records,
    meadowBoot.play platform 10 [[.debugSpawnEnemy 0], [], [], [.debugSpawnEnemy 0]] =
      .ok (process, records) ∧
    ∃ enemy, (spawnedEnemies (history records))[1]? = some enemy ∧
      enemy.position = (⟨-1 / 4, 1 / 2⟩ : Vec2 ℚ) ∧ enemy.SpawnedAs platform meadow 1 := by
  obtain ⟨⟨process, records⟩, played, checked⟩ := exists_ok_of_succeedsWith
    (meadowBoot.play platform 10 [[.debugSpawnEnemy 0], [], [], [.debugSpawnEnemy 0]])
    (fun result => decide ((spawnedEnemies (history result.2))[1]?.map
      (fun enemy => enemy.position) = some (⟨-1 / 4, 1 / 2⟩ : Vec2 ℚ)))
    (by decide +kernel)
  obtain ⟨enemy, found, position⟩ := Option.map_eq_some_iff.mp (of_decide_eq_true checked)
  exact ⟨process, records, played, enemy, found, position,
    (Boot.play_spawns played).1 1 enemy found⟩

end Meadow

end TowerDefence
