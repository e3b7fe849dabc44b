import Mathlib.Algebra.BigOperators.Group.List.Basic
import Mathlib.Tactic.Abel
import TowerDefence.Step.Objects

/-!
# Gold and death events of a step

The events that announce deaths are those of the strikes classified as deaths,
and the gold changes by what the commands add, what the built towers cost and
what these strikes pay.
-/

namespace TowerDefence

open Foundations

variable {F R : Type}

/-- The event announces a death. -/
def GameEvent.isDeath : GameEvent F → Bool
  | .enemyDied _ => true
  | _ => false

/-- The event that announces the death a strike caused. -/
def Strike.deathEvent (strike : Strike F) : GameEvent F :=
  .enemyDied strike.projectile.targetEnemyIndex

/-- The amounts of the gold commands. -/
def addedGold (commands : List (GameCommand F)) : List F :=
  commands.filterMap fun command =>
    match command with
    | .debugAddGold amount => some amount
    | _ => none

/-- The towers that commands built. -/
def builtTowers (deeds : List (Deed F)) : List (Tower F) :=
  deeds.filterMap fun deed =>
    match deed with
    | .build tower => some tower
    | _ => none

@[simp] theorem addedGold_append (commands later : List (GameCommand F)) :
    addedGold (commands ++ later) = addedGold commands ++ addedGold later := by
  simp [addedGold]

@[simp] theorem builtTowers_append (deeds later : List (Deed F)) :
    builtTowers (deeds ++ later) = builtTowers deeds ++ builtTowers later := by
  simp [builtTowers]

theorem map_builtTowers (deeds : List (Deed F)) :
    ((builtTowers deeds).map fun tower => tower.id) = builtIds deeds := by
  rw [builtTowers, builtIds, List.map_filterMap]
  congr 1
  funext deed
  cases deed <;> rfl

section Events

variable [Arithmetic F]

/-- The death events of a frame are those of its killing strikes. -/
def Frame.Announces (frame : Frame F R) : Prop :=
  frame.outGameEvents.filter GameEvent.isDeath =
    (killingStrikes frame.deeds).map Strike.deathEvent

variable {mapData : MapData F} {frame frame' : Frame F R}

theorem Strike.deaths_of_events (strike : Strike F) :
    strike.events.filter GameEvent.isDeath =
      (killingStrikes [.strike strike]).map Strike.deathEvent := by
  have single : killingStrikes [.strike strike] = [strike].filter Strike.died := rfl
  rw [single, Strike.events]
  cases died : strike.died with
  | true => simp [GameEvent.isDeath, Strike.deathEvent, died]
  | false => simp [GameEvent.isDeath, died]

theorem Volley.announces {copies : List (Tower F)} {shots : List (Tower F × Projectile F)}
    (volley : Volley mapData frame frame' copies shots) (holds : frame.Announces) :
    frame'.Announces := by
  rw [Frame.Announces, volley.filter_events fun _ _ => rfl, killingStrikes, volley.strikes_eq]
  exact holds

theorem Impact.announces (impact : Impact mapData frame frame') (holds : frame.Announces) :
    frame'.Announces := by
  cases impact with
  | query storage => exact holds
  | detonate projectile =>
      rw [Frame.Announces] at holds ⊢
      simpa using holds
  | @strike _ strike _ _ _ _ applied =>
      rw [Frame.Announces, applied.outGameEvents, applied.deeds, List.filter_append,
        killingStrikes_append, List.map_append, strike.deaths_of_events, holds]

theorem Obeys.announces {command : GameCommand F} (obeys : Obeys mapData frame command frame')
    (holds : frame.Announces) : frame'.Announces := by
  cases obeys with
  | spawn _ _ _ _ _ =>
      rw [Frame.Announces] at holds ⊢
      simpa using holds
  | despawn => exact holds
  | addGold amount => exact holds
  | build _ _ _ _ =>
      rw [Frame.Announces] at holds ⊢
      simpa using holds
  | refuse _ _ => exact holds

variable [Glm F]

/-- A step announces the deaths of its history. -/
theorem GameState.timeStep_announces {platform : Platform F R} {initial : GameState F R}
    {commands : List (GameCommand F)} {delta : F} {fuel : Nat} {after : Frame F R}
    (executed : timeStep platform mapData initial commands delta fuel frame = .ok after)
    (holds : frame.Announces) : after.Announces := by
  obtain ⟨moved, fired, struck, moves, fires, strikes, commanded⟩ := timeStep_eq_ok.mp executed
  obtain ⟨images, reached, _⟩ := moveEnemies_spec moves
  obtain ⟨copies, shots, volley, _, _⟩ := updateTowers_spec fires
  have afterMovement : moved.Announces := by
    rw [reached]
    exact holds
  have afterStrikes : struck.Announces :=
    updateProjectiles_invariant Frame.Announces strikes (volley.announces afterMovement)
      (fun _ _ impact => impact.announces) fun _ _ _ _ _ announced => announced
  exact executeCommands_invariant Frame.Announces commanded afterStrikes
    fun _ _ _ _ obeys => obeys.announces

end Events

/-! ## Gold -/

section Gold

/-- The reward for an enemy. -/
def MapData.enemyReward [Zero F] (mapData : MapData F) (enemy : Enemy F) : F :=
  match mapData.enemyTypes[enemy.typeIdx]? with
  | some type => type.goldReward
  | none => 0

/-- The price of a tower. -/
def MapData.towerCost [Zero F] (mapData : MapData F) (tower : Tower F) : F :=
  match mapData.towerTypes[tower.typeIdx]? with
  | some type => type.cost
  | none => 0

variable [Field F] [LinearOrder F]

/-- What a history and a list of commands change about the gold. -/
def MapData.income (mapData : MapData F) (commands : List (GameCommand F))
    (deeds : List (Deed F)) : F :=
  (addedGold commands).sum - ((builtTowers deeds).map mapData.towerCost).sum +
    ((killingStrikes deeds).map fun strike => mapData.enemyReward strike.enemy).sum

variable {mapData : MapData F} {frame frame' : Frame F R} {done commands : List (GameCommand F)}
variable {gold : F}

theorem MapData.income_append (mapData : MapData F) (commands later : List (GameCommand F))
    (deeds laterDeeds : List (Deed F)) :
    mapData.income (commands ++ later) (deeds ++ laterDeeds) =
      mapData.income commands deeds + mapData.income later laterDeeds := by
  simp only [MapData.income, addedGold_append, builtTowers_append, killingStrikes_append,
    List.map_append, List.sum_append]
  abel

/-- Deeds that neither build nor kill cost nothing. -/
theorem MapData.income_of_quiet {deeds : List (Deed F)} (noTower : builtTowers deeds = [])
    (noStrike : killingStrikes deeds = []) : mapData.income [] deeds = 0 := by
  simp [MapData.income, noTower, noStrike, addedGold]

theorem Strike.pay_eq (strike : Strike F) (gold : F) :
    strike.pay mapData gold = gold + mapData.income [] [.strike strike] := by
  have single : killingStrikes [.strike strike] = [strike].filter Strike.died := rfl
  simp only [MapData.income, single, Strike.pay, addedGold, builtTowers]
  cases died : strike.died with
  | true =>
      cases typed : mapData.enemyTypes[strike.enemy.typeIdx]? with
      | some type => simp [died, MapData.enemyReward, typed]
      | none => simp [died, MapData.enemyReward, typed]
  | false => simp [died]

/-- The gold of a frame accounts for its history and the executed commands. -/
def Frame.Balanced (mapData : MapData F) (gold : F) (done : List (GameCommand F))
    (frame : Frame F R) : Prop :=
  frame.next.playerState.gold = gold + mapData.income done frame.deeds

theorem Volley.balanced {copies : List (Tower F)} {shots : List (Tower F × Projectile F)}
    (volley : Volley mapData frame frame' copies shots)
    (holds : frame.Balanced mapData gold done) : frame'.Balanced mapData gold done := by
  have quiet : mapData.income [] (shots.map fun shot => Deed.launch shot.1 shot.2) = 0 := by
    apply MapData.income_of_quiet
    · simp [builtTowers, List.filterMap_map]
    · simp [killingStrikes, strikes, List.filterMap_map, Function.comp_def, Deed.asStrike]
  have split := mapData.income_append done [] frame.deeds
    (shots.map fun shot => Deed.launch shot.1 shot.2)
  rw [List.append_nil, quiet, add_zero] at split
  rw [Frame.Balanced, volley.next, volley.deeds, split]
  exact holds

theorem Impact.balanced (impact : Impact mapData frame frame')
    (holds : frame.Balanced mapData gold done) : frame'.Balanced mapData gold done := by
  cases impact with
  | query storage => exact holds
  | detonate projectile =>
      have split := mapData.income_append done [] frame.deeds [.detonate projectile]
      rw [List.append_nil, MapData.income_of_quiet rfl rfl, add_zero] at split
      rw [Frame.Balanced, split]
      exact holds
  | @strike _ strike _ _ _ _ applied =>
      have split := mapData.income_append done [] frame.deeds [.strike strike]
      rw [List.append_nil] at split
      rw [Frame.Balanced, applied.next, applied.deeds, split]
      rw [Frame.Balanced] at holds
      rw [strike.pay_eq, holds, add_assoc]

theorem Obeys.balanced {command : GameCommand F} (obeys : Obeys mapData frame command frame')
    (holds : frame.Balanced mapData gold done) :
    frame'.Balanced mapData gold (done ++ [command]) := by
  rw [Frame.Balanced] at holds
  cases obeys with
  | @spawn enemyType _ enemy _ _ _ _ _ _ =>
      rw [Frame.Balanced, mapData.income_append, ← add_assoc, ← holds]
      simp [MapData.income, addedGold, builtTowers]
  | despawn =>
      have split := mapData.income_append done [.debugDespawnAllEnemies] frame.deeds []
      rw [List.append_nil] at split
      rw [Frame.Balanced, split, ← add_assoc, ← holds]
      simp [MapData.income, addedGold, builtTowers, killingStrikes, strikes]
  | addGold amount =>
      have split := mapData.income_append done [.debugAddGold amount] frame.deeds []
      rw [List.append_nil] at split
      rw [Frame.Balanced, split, ← add_assoc, ← holds]
      simp [MapData.income, addedGold, builtTowers, killingStrikes, strikes]
  | @build towerType position type tower typed _ _ sameType =>
      have cost : mapData.towerCost tower = type.cost := by
        rw [MapData.towerCost, sameType, typed]
      rw [Frame.Balanced, mapData.income_append, ← add_assoc, ← holds]
      simp [MapData.income, addedGold, builtTowers, cost, sub_eq_add_neg]
  | @refuse towerType position _ _ _ =>
      have split := mapData.income_append done [.buildTower towerType position] frame.deeds []
      rw [List.append_nil] at split
      rw [Frame.Balanced, split, ← add_assoc, ← holds]
      simp [MapData.income, addedGold, builtTowers, killingStrikes, strikes]

variable [Glm F]

/-- The gold after the first three loops of a step. -/
theorem GameState.balanced_of_loops {platform : Platform F R} {initial : GameState F R} {delta : F}
    {fuel : Nat} {moved fired struck : Frame F R} (fresh : frame.deeds = [])
    (moves : moveEnemies mapData initial delta (clearNext initial frame) = .ok moved)
    (fires : updateTowers platform mapData delta fuel initial moved = .ok fired)
    (strikes : updateProjectiles mapData delta initial fired = .ok struck) :
    struck.Balanced mapData initial.playerState.gold [] := by
  obtain ⟨images, reached, _⟩ := moveEnemies_spec moves
  obtain ⟨copies, shots, volley, _, _⟩ := updateTowers_spec fires
  have afterMovement : moved.Balanced mapData initial.playerState.gold [] := by
    rw [reached, Frame.Balanced]
    simp [clearNext, fresh, MapData.income, addedGold, builtTowers, killingStrikes,
      TowerDefence.strikes]
  exact updateProjectiles_invariant (Frame.Balanced mapData initial.playerState.gold []) strikes
    (volley.balanced afterMovement) (fun _ _ impact => impact.balanced)
    fun _ _ _ _ _ balanced => balanced

/-- The gold after a step. -/
theorem GameState.timeStep_balanced {platform : Platform F R} {initial : GameState F R}
    {delta : F} {fuel : Nat} {after : Frame F R} (fresh : frame.deeds = [])
    (executed : timeStep platform mapData initial commands delta fuel frame = .ok after) :
    after.Balanced mapData initial.playerState.gold commands := by
  obtain ⟨moved, fired, struck, moves, fires, strikes, commanded⟩ := timeStep_eq_ok.mp executed
  exact executeCommands_progress (Frame.Balanced mapData initial.playerState.gold) commanded
    (balanced_of_loops fresh moves fires strikes) fun _ _ _ _ _ obeys => obeys.balanced

end Gold

end TowerDefence
