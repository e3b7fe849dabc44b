import Mathlib.Algebra.Order.BigOperators.Group.List
import TowerDefence.Model.Rational
import TowerDefence.Session.Frames
import TowerDefence.Step.Purchases

/-!
# Purchases in a session

The commands of a step find the gold of the state before it and the rewards for
the enemies that the step has killed.  From there on the player's purse decides:
it never becomes negative, and the step builds what it buys.
-/

namespace TowerDefence

open Foundations

variable {F R : Type} [Field F] [LinearOrder F]

/-- The rewards that a history pays. -/
def MapData.bounty (mapData : MapData F) (deeds : List (Deed F)) : F :=
  ((killingStrikes deeds).map fun strike => mapData.enemyReward strike.enemy).sum

/-- How a step serves the commands of its batch, which start from `struck`. -/
structure Purchases (platform : Platform F R) (mapData : MapData F) (initial : GameState F R)
    (commands : List (GameCommand F)) (struck after : Frame F R) : Prop where
  opening : struck.next.playerState.gold = initial.playerState.gold + mapData.bounty after.deeds
  gold : after.next.playerState.gold =
    (purseAfter mapData struck.next.playerState.gold commands).balance
  built : (builtTowers after.deeds).map Tower.placement =
    (purseAfter mapData struck.next.playerState.gold commands).bought
  towers : after.next.towers.map Tower.placement = initial.towers.map Tower.placement ++
    (purseAfter mapData struck.next.playerState.gold commands).bought
  turns : ∀ earlier command later, commands = earlier ++ command :: later →
    ∃ frame frame' : Frame F R,
      GameState.executeCommands platform mapData earlier struck = .ok frame ∧
      GameState.executeCommand platform mapData frame command = .ok frame' ∧
      GameState.executeCommands platform mapData later frame' = .ok after ∧
      frame.next.playerState.gold =
        (purseAfter mapData struck.next.playerState.gold earlier).balance ∧
      0 ≤ frame.next.playerState.gold ∧ 0 ≤ frame'.next.playerState.gold ∧
      ∀ towerType position type, command = .buildTower towerType position →
        mapData.towerTypes[towerType]? = some type →
        frame.Decides type towerType position frame'

section Steps

variable {platform : Platform F R} {mapData : MapData F} {initial : GameState F R}
variable {commands : List (GameCommand F)} {delta gold : F} {fuel : Nat}
variable {start moved fired struck after : Frame F R}

/-! ## Before the commands -/

section Loops

variable [Glm F]

theorem StepFrames.builtTowers_struck
    (frames : StepFrames platform mapData initial commands delta fuel start moved fired struck
      after) : builtTowers struck.deeds = [] := by
  obtain ⟨images, reached, _⟩ := GameState.moveEnemies_spec frames.moves
  obtain ⟨copies, shots, volley, _, _⟩ := GameState.updateTowers_spec frames.fires
  obtain ⟨kept, _⟩ := GameState.updateProjectiles_spec frames.hits
  obtain ⟨harm, harmed, nothing⟩ := kept.deeds
  obtain ⟨_, _, _, noneBuilt⟩ := Volley.ids_eq shots
  have fresh : moved.deeds = [] := by
    rw [reached]
    exact frames.fresh
  rw [← List.map_eq_nil_iff, map_builtTowers, harmed, volley.deeds, fresh, List.nil_append,
    builtIds_append, noneBuilt, (ids_eq_nil nothing).2.1, List.append_nil]

/-- The copies stand where the towers stood. -/
theorem StepFrames.placements_struck
    (frames : StepFrames platform mapData initial commands delta fuel start moved fired struck
      after) :
    struck.next.towers.map Tower.placement = initial.towers.map Tower.placement := by
  obtain ⟨images, reached, _⟩ := GameState.moveEnemies_spec frames.moves
  obtain ⟨turns, towers, follow, volley⟩ := GameState.updateTowers_turns frames.fires
  obtain ⟨kept, _⟩ := GameState.updateProjectiles_spec frames.hits
  have cleared : moved.next.towers = [] := by rw [reached]; rfl
  rw [kept.towers, volley.next, cleared, List.nil_append, ← towers, List.map_map, List.map_map]
  apply List.map_congr_left
  intro turn member
  have copied := (follow turn member).copy_eq
  rw [Function.comp_apply, Function.comp_apply, copied]
  rfl

theorem StepFrames.opening
    (frames : StepFrames platform mapData initial commands delta fuel start moved fired struck
      after) :
    struck.next.playerState.gold = initial.playerState.gold + mapData.bounty after.deeds := by
  have balanced : struck.next.playerState.gold =
      initial.playerState.gold + mapData.income [] struck.deeds :=
    GameState.balanced_of_loops frames.fresh frames.moves frames.fires frames.hits
  rw [balanced, MapData.income, frames.builtTowers_struck, MapData.bounty, killingStrikes,
    killingStrikes, GameState.executeCommands_strikes frames.commanded]
  simp [addedGold]

end Loops

/-! ## Solvency -/

variable [IsStrictOrderedRing F]

theorem purseAfter_nonneg (solvent : 0 ≤ gold)
    (grants : ∀ amount ∈ addedGold commands, 0 ≤ amount) :
    0 ≤ (purseAfter mapData gold commands).balance := by
  apply settle_nonneg solvent
  intro transaction member
  obtain ⟨command, isCommand, asked⟩ := List.mem_filterMap.mp member
  cases command with
  | debugSpawnEnemy enemyType => cases asked
  | debugDespawnAllEnemies => cases asked
  | debugAddGold amount =>
      cases asked
      exact grants amount (List.mem_filterMap.mpr ⟨_, isCommand, rfl⟩)
  | buildTower towerType position =>
      obtain ⟨type, _, rfl⟩ := Option.map_eq_some_iff.mp asked
      trivial

theorem MapData.bounty_nonneg (rewards : ∀ type ∈ mapData.enemyTypes, 0 ≤ type.goldReward)
    (deeds : List (Deed F)) : 0 ≤ mapData.bounty deeds := by
  apply List.sum_nonneg
  intro reward member
  obtain ⟨strike, _, rfl⟩ := List.mem_map.mp member
  rw [MapData.enemyReward]
  split
  · rename_i type typed
    exact rewards type (List.mem_of_getElem? typed)
  · exact le_rfl

/-- The gold after the commands of a step. -/
theorem Purchases.solvent (purchases : Purchases platform mapData initial commands struck after)
    (solvent : 0 ≤ initial.playerState.gold)
    (rewards : ∀ type ∈ mapData.enemyTypes, 0 ≤ type.goldReward)
    (grants : ∀ amount ∈ addedGold commands, 0 ≤ amount) : 0 ≤ after.next.playerState.gold := by
  rw [purchases.gold, purchases.opening]
  exact purseAfter_nonneg (add_nonneg solvent (mapData.bounty_nonneg rewards _)) grants

variable [Glm F]

/-- A step from a state without debts serves its commands. -/
theorem StepFrames.purchases
    (frames : StepFrames platform mapData initial commands delta fuel start moved fired struck
      after)
    (solvent : 0 ≤ initial.playerState.gold)
    (rewards : ∀ type ∈ mapData.enemyTypes, 0 ≤ type.goldReward)
    (grants : ∀ amount ∈ addedGold commands, 0 ≤ amount) :
    Purchases platform mapData initial commands struck after := by
  have opening := frames.opening
  have solventStruck : 0 ≤ struck.next.playerState.gold := by
    rw [opening]
    exact add_nonneg solvent (mapData.bounty_nonneg rewards _)
  obtain ⟨gold, built, towers, listed, bought⟩ := GameState.executeCommands_serves frames.commanded
  refine ⟨opening, gold, ?_, ?_, ?_⟩
  · rw [listed, frames.builtTowers_struck, List.nil_append, bought]
  · rw [towers, List.map_append, frames.placements_struck, bought]
  · intro earlier command later split
    have commanded := frames.commanded
    rw [GameState.executeCommands, split, List.foldlM_append, bind_eq_ok] at commanded
    rcases commanded with ⟨frame, before, commanded⟩
    rw [List.foldlM_cons, bind_eq_ok] at commanded
    rcases commanded with ⟨frame', here, rest⟩
    have gold := (GameState.executeCommands_serves before).gold
    have goldHere :=
      (GameState.executeCommand_serves here (GameState.executeCommands_serves before)).gold
    rw [← purseAfter_append_single] at goldHere
    -- the balance before and after the command is that of a purse after a prefix of the batch
    have solventAfter : ∀ done rest, commands = done ++ rest →
        0 ≤ (purseAfter mapData struck.next.playerState.gold done).balance := by
      intro done rest isPrefix
      rw [isPrefix, addedGold_append, List.forall_mem_append] at grants
      exact purseAfter_nonneg solventStruck grants.1
    refine ⟨frame, frame', before, here, rest, gold, ?_, ?_, ?_⟩
    · rw [gold]
      exact solventAfter earlier (command :: later) split
    · rw [goldHere]
      exact solventAfter (earlier ++ [command]) later (by rw [split, List.append_cons])
    · rintro towerType position type rfl typed
      exact GameState.executeCommand_decides here typed

end Steps

/-! ## Sessions -/

section Sessions

variable [Glm F]

/-- The step from `state` with these commands serves them. -/
def World.Serves (world : World F R) (state : GameState F R) (commands : List (GameCommand F)) :
    Prop :=
  ∃ moved fired struck after : Frame F R,
    StepFrames world.platform world.mapData state commands world.fixedDelta world.fuel
      (World.startFrame state) moved fired struck after ∧
    Purchases world.platform world.mapData state commands struck after

variable [IsStrictOrderedRing F] {world : World F R} {state next : GameState F R}
variable {commands : List (GameCommand F)} {record : StepRecord F}
variable {platform : Platform F R} {fuel : Nat} {boot : Boot F R}
variable {batches : List (List (GameCommand F))} {process : Process F R}
variable {records : List (StepRecord F)}

theorem World.step_serves (stepped : world.step state commands = .ok (next, record))
    (rewards : ∀ type ∈ world.mapData.enemyTypes, 0 ≤ type.goldReward)
    (grants : ∀ amount ∈ addedGold commands, 0 ≤ amount) (solvent : 0 ≤ state.playerState.gold) :
    world.Serves state commands ∧ 0 ≤ next.playerState.gold := by
  obtain ⟨after, executed, reached, _⟩ := World.step_eq_ok.mp stepped
  obtain ⟨moved, fired, struck, moves, fires, hits, commanded⟩ :=
    GameState.timeStep_eq_ok.mp executed
  have frames : StepFrames world.platform world.mapData state commands world.fixedDelta world.fuel
      (World.startFrame state) moved fired struck after := ⟨rfl, moves, fires, hits, commanded⟩
  have purchases := frames.purchases solvent rewards grants
  rw [reached]
  exact ⟨⟨moved, fired, struck, after, frames, purchases⟩,
    purchases.solvent solvent rewards grants⟩

/-- In every session with non-negative starting gold, rewards and grants the gold is never
negative, and every step builds the towers that the gold left at their turn covers. -/
theorem Boot.play_purchases (played : boot.play platform fuel batches = .ok (process, records))
    (startingGold : 0 ≤ boot.startingGold)
    (rewards : ∀ type ∈ boot.mapData.enemyTypes, 0 ≤ type.goldReward)
    (grants : ∀ commands ∈ batches, ∀ amount ∈ addedGold commands, 0 ≤ amount) :
    (∀ state ∈ statesFrom (boot.world platform fuel).step (boot.startState platform)
        ([] :: batches), 0 ≤ state.playerState.gold) ∧
      0 ≤ process.session.next.playerState.gold ∧
      EachStep (boot.world platform fuel).step (boot.world platform fuel).Serves
        (boot.startState platform) ([] :: batches) := by
  have executed := (pure_run_of_play platform fuel played).runFrom_eq
  have grantsAll : ∀ commands ∈ [] :: batches, ∀ amount ∈ addedGold commands, 0 ≤ amount :=
    List.forall_mem_cons.mpr ⟨by simp [addedGold], grants⟩
  have initially : 0 ≤ (boot.startState platform).playerState.gold :=
    Int.cast_nonneg startingGold
  have anywhere : ∀ state ∈ statesFrom (boot.world platform fuel).step (boot.startState platform)
      ([] :: batches), True := fun _ _ => trivial
  obtain ⟨states, last⟩ := forall_states_invariant
    (fun state commands next record member solvent _ stepped =>
      (World.step_serves stepped rewards (grantsAll commands member) solvent).2)
    initially executed anywhere
  refine ⟨states, last, eachStep_of_states states executed ?_⟩
  intro state commands next record member solvent stepped
  exact (World.step_serves stepped rewards (grantsAll commands member) solvent).1

end Sessions

section Meadow

open Rational

/-- Four cannons spend the starting gold and a fifth one is refused.  A bow is paid
for by the soldier who dies in the same step. -/
def spree : List (List (GameCommand ℚ)) :=
  [[.debugSpawnEnemy 0] ++ List.replicate 5 (.buildTower 0 ⟨4, 1 / 2⟩) ++ [.debugAddGold 1], [], [],
    [.buildTower 1 ⟨4, 1⟩], []]

theorem spree_purchases : ∃ (process : Process ℚ Nat) (records : List (StepRecord ℚ)),
    meadowBoot.play platform 10 spree = .ok (process, records) ∧
    process.session.next.towers.map (fun tower => tower.typeIdx) = [0, 0, 0, 0, 1] ∧
    0 ≤ process.session.next.playerState.gold ∧
    EachStep (meadowBoot.world platform 10).step (meadowBoot.world platform 10).Serves
      (meadowBoot.startState platform) ([] :: spree) := by
  obtain ⟨⟨process, records⟩, played, checked⟩ := exists_ok_of_succeedsWith
    (meadowBoot.play platform 10 spree)
    (fun result => decide
      (result.1.session.next.towers.map (fun tower => tower.typeIdx) = [0, 0, 0, 0, 1]))
    (by decide +kernel)
  obtain ⟨_, solvent, serves⟩ := Boot.play_purchases played (by decide) (by decide +kernel)
    (by decide +kernel)
  exact ⟨process, records, played, of_decide_eq_true checked, solvent, serves⟩

end Meadow

end TowerDefence
