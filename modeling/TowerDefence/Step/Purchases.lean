import TowerDefence.Foundations.Purse
import TowerDefence.Step.Account

/-!
# What the commands of a step buy

The commands that concern the gold are transactions of the player's purse.  The
command loop builds the towers that this purse buys.
-/

namespace TowerDefence

open Foundations

variable {F R : Type}

/-- What a command asks of the player's purse. -/
def GameCommand.asTransaction (mapData : MapData F) :
    GameCommand F → Option (Transaction F (Nat × Vec2 F))
  | .debugSpawnEnemy _ => none
  | .debugDespawnAllEnemies => none
  | .debugAddGold amount => some (.deposit amount)
  | .buildTower towerType position =>
      mapData.towerTypes[towerType]?.map fun type => .purchase type.cost (towerType, position)

/-- The transactions that `commands` ask for, in order. -/
def transactions (mapData : MapData F) (commands : List (GameCommand F)) :
    List (Transaction F (Nat × Vec2 F)) :=
  commands.filterMap (GameCommand.asTransaction mapData)

theorem transactions_append (mapData : MapData F) (commands later : List (GameCommand F)) :
    transactions mapData (commands ++ later) =
      transactions mapData commands ++ transactions mapData later :=
  List.filterMap_append

variable [Arithmetic F]

/-- The player's purse after some commands, if it held `gold` before them. -/
def purseAfter (mapData : MapData F) (gold : F) (commands : List (GameCommand F)) :
    Purse F (Nat × Vec2 F) :=
  settle gold (transactions mapData commands)

theorem purseAfter_append_single (mapData : MapData F) (gold : F)
    (commands : List (GameCommand F)) (command : GameCommand F) :
    purseAfter mapData gold (commands ++ [command]) =
      (transactions mapData [command]).foldl Purse.serve (purseAfter mapData gold commands) := by
  rw [purseAfter, transactions_append, settle_append]
  rfl

/-- Since `struck`, the frame has built the towers that the purse bought, and it
holds the gold that is left in the purse. -/
structure Frame.Serves (struck : Frame F R) (purse : Purse F (Nat × Vec2 F))
    (frame : Frame F R) : Prop where
  gold : frame.next.playerState.gold = purse.balance
  built : ∃ built : List (Tower F), frame.next.towers = struck.next.towers ++ built ∧
    builtTowers frame.deeds = builtTowers struck.deeds ++ built ∧
    built.map Tower.placement = purse.bought

/-- The decision about a tower at the turn of its command: it is built if the gold
covers its cost, and otherwise nothing changes. -/
structure Frame.Decides (frame : Frame F R) (type : TowerType F) (towerType : Nat)
    (position : Vec2 F) (frame' : Frame F R) : Prop where
  built : type.cost ≤ frame.next.playerState.gold → ∃ tower : Tower F,
    tower.placement = (towerType, position) ∧
    frame'.next.towers = frame.next.towers ++ [tower] ∧
    frame'.next.playerState.gold = frame.next.playerState.gold - type.cost
  refused : ¬type.cost ≤ frame.next.playerState.gold → frame' = frame

namespace GameState

variable {platform : Platform F R} {mapData : MapData F} {frame frame' struck : Frame F R}
variable {commands : List (GameCommand F)}

theorem executeCommand_decides {towerType : Nat} {position : Vec2 F} {type : TowerType F}
    (executed : executeCommand platform mapData frame (.buildTower towerType position) = .ok frame')
    (typed : mapData.towerTypes[towerType]? = some type) :
    frame.Decides type towerType position frame' := by
  simp only [executeCommand, bind_eq_ok, readAt_eq_ok] at executed
  rcases executed with ⟨_, found, executed⟩
  cases found.symm.trans typed
  split at executed
  · rename_i covered
    cases executed
    exact ⟨fun _ => ⟨_, rfl, rfl, rfl⟩, fun refused => absurd covered refused⟩
  · rename_i tooExpensive
    cases executed
    exact ⟨fun covered => absurd covered tooExpensive, fun _ => rfl⟩

/-- A command is at most one transaction. -/
theorem executeCommand_serves {command : GameCommand F} {purse : Purse F (Nat × Vec2 F)}
    (executed : executeCommand platform mapData frame command = .ok frame')
    (serves : struck.Serves purse frame) :
    struck.Serves ((transactions mapData [command]).foldl Purse.serve purse) frame' := by
  rcases serves with ⟨gold, built, towers, listed, bought⟩
  cases command with
  | debugSpawnEnemy enemyType =>
      simp only [executeCommand, bind_eq_ok, pure_eq_ok] at executed
      rcases executed with ⟨_, _, enemy, _, rfl⟩
      exact ⟨gold, built, towers, by simpa [builtTowers] using listed, bought⟩
  | debugDespawnAllEnemies =>
      cases executed
      exact ⟨gold, built, towers, listed, bought⟩
  | debugAddGold amount =>
      cases executed
      exact ⟨congrArg (· + amount) gold, built, towers, listed, bought⟩
  | buildTower towerType position =>
      simp only [executeCommand, bind_eq_ok, readAt_eq_ok] at executed
      rcases executed with ⟨type, typed, executed⟩
      have asked : transactions mapData [.buildTower towerType position] =
          [.purchase type.cost (towerType, position)] := by
        simp [transactions, GameCommand.asTransaction, typed]
      rw [asked, List.foldl_cons, List.foldl_nil, Purse.serve, ← gold]
      split at executed
      · rename_i covered
        cases executed
        rw [if_pos covered]
        let tower := setupTower towerType position
          { Tower.fresh F with id := frame.next.nextObjectId }
        refine ⟨rfl, built ++ [tower], ?_, ?_, ?_⟩
        · rw [← List.append_assoc, ← towers]
        · rw [builtTowers_append, listed, List.append_assoc]
          rfl
        · rw [List.map_append, bought]
          rfl
      · rename_i tooExpensive
        cases executed
        rw [if_neg tooExpensive]
        exact ⟨gold, built, towers, listed, bought⟩

/-- The command loop serves the purse of the player. -/
theorem executeCommands_serves
    (executed : executeCommands platform mapData commands struck = .ok frame) :
    struck.Serves (purseAfter mapData struck.next.playerState.gold commands) frame := by
  apply foldlM_progress (fun done state =>
    struck.Serves (purseAfter mapData struck.next.playerState.gold done) state) executed
  · exact ⟨rfl, [], by simp, by simp, rfl⟩
  · intro done command state state' _ serves stepped
    rw [purseAfter_append_single]
    exact executeCommand_serves stepped serves

end GameState

end TowerDefence
