import Mathlib.Data.List.Basic
import TowerDefence.Model.Rational
import TowerDefence.Step.Objects
import TowerDefence.Step.Query

/-!
# Target choice

A tower that has enemies in its range aims at the one with the least distance to
the goal.  `std::sort` may be used for this because, in exact arithmetic, the
comparison of the distances is a strict weak ordering.
-/

namespace TowerDefence

open Foundations

variable {F R : Type} [Field F] [LinearOrder F]

/-- The enemy can be aimed at: its health is not nearly zero and it lies within the
range of the tower. -/
def Tower.CanAimAt (type : TowerType F) (tower : Tower F) (enemy : Enemy F) : Prop :=
  isNearlyZero enemy.remainingHealth = false ∧ InDisc tower.position type.range enemy.position

/-! ## The comparison -/

section Comparison

variable {platform : Platform F R} {enemies : List (Enemy F)} {slots : List Nat}

theorem closerToGoal_eq {slot other : Nat} {enemy otherEnemy : Enemy F}
    (found : enemies[slot]? = some enemy) (otherFound : enemies[other]? = some otherEnemy) :
    GameState.closerToGoal enemies slot other = decide (enemy.distanceToGoal <
      otherEnemy.distanceToGoal) := by
  rw [GameState.closerToGoal, found, otherFound]

/-- In exact arithmetic the comparison is a strict weak ordering of the enemies. -/
theorem closerToGoal_ordered (inBounds : ∀ slot ∈ slots, slot < enemies.length) :
    StrictWeakOrder (GameState.closerToGoal enemies) slots := by
  let distance (slot : Nat) : F := (enemies[slot]?.map fun enemy => enemy.distanceToGoal).getD 0
  have stored : ∀ (slot : Nat) (inside : slot < enemies.length),
      distance slot = enemies[slot].distanceToGoal := by
    intro slot inside
    show (enemies[slot]?.map _).getD 0 = _
    rw [List.getElem?_eq_getElem inside]
    rfl
  apply StrictWeakOrder.of_key distance
  intro a memberA b memberB
  have insideA := inBounds a memberA
  have insideB := inBounds b memberB
  rw [stored a insideA, stored b insideB]
  exact closerToGoal_eq (List.getElem?_eq_getElem insideA) (List.getElem?_eq_getElem insideB)

theorem GameState.sortRange_avoids_all {fault : Fault}
    (inBounds : ∀ slot ∈ slots, slot < enemies.length) :
    Avoids fault (fun _ => True) (sortRange platform (closerToGoal enemies) slots) := by
  rw [sortRange, if_pos (closerToGoal_ordered inBounds)]
  exact trivial

/-- The first slot after sorting holds an enemy with the least distance. -/
theorem least_of_sorted {index : Nat} {target : Enemy F}
    (queried : ∀ slot ∈ slots, ∃ enemy, enemies[slot]? = some enemy)
    (chosen : (platform.std.sort (GameState.closerToGoal enemies) slots)[0]? = some index)
    (found : enemies[index]? = some target) :
    index ∈ slots ∧ ∀ slot ∈ slots, ∀ enemy, enemies[slot]? = some enemy →
      target.distanceToGoal ≤ enemy.distanceToGoal := by
  have inBounds : ∀ slot ∈ slots, slot < enemies.length := by
    intro slot member
    obtain ⟨enemy, foundSlot⟩ := queried slot member
    exact (List.getElem?_eq_some_iff.mp foundSlot).1
  obtain ⟨perm, sorted⟩ := platform.std.correct (GameState.closerToGoal enemies) slots
    (closerToGoal_ordered inBounds)
  generalize platform.std.sort (GameState.closerToGoal enemies) slots = order at perm sorted chosen
  cases order with
  | nil => cases chosen
  | cons first rest =>
      cases chosen
      refine ⟨perm.subset List.mem_cons_self, ?_⟩
      intro slot member enemy foundSlot
      cases List.mem_cons.mp (perm.symm.subset member) with
      | inl same =>
          rw [same, found] at foundSlot
          cases foundSlot
          exact le_refl _
      | inr behind =>
          have notCloser := (List.pairwise_cons.mp sorted).1 slot behind
          rw [closerToGoal_eq foundSlot found, decide_eq_false_iff_not, not_lt] at notCloser
          exact notCloser

end Comparison

/-! ## Turns -/

namespace TowerTurn

variable [Glm F] {platform : Platform F R} {mapData : MapData F} {enemies : List (Enemy F)}
variable {delta : F}

/-- A tower that finds `target` in slot `index`: it turns to the enemy, adds the
step to its time, and each of its shots takes one interval from the time and
remembers the slot, the id and the position of the enemy.  Without a rate of fire there
are no shots. -/
structure AimsAt (type : TowerType F) (enemies : List (Enemy F)) (delta : F) (index : Nat)
    (target : Enemy F) (turn : TowerTurn F) : Prop where
  found : enemies[index]? = some target
  canAim : turn.tower.CanAimAt type target
  least : ∀ enemy ∈ enemies, turn.tower.CanAimAt type enemy →
    target.distanceToGoal ≤ enemy.distanceToGoal
  copy : turn.copy =
    { turn.tower with
      rotation := vectorAngle (Glm.normalize (target.position - turn.tower.position))
      timeSinceLastShot := turn.copy.timeSinceLastShot }
  time : turn.shots.length * (1 / type.shotsPerSecond) + turn.copy.timeSinceLastShot =
    turn.tower.timeSinceLastShot + delta
  noRate : type.shotsPerSecond = 0 → turn.shots = []
  shots : ∀ projectile ∈ turn.shots, projectile.targetEnemyIndex = index ∧
    projectile.targetEnemyId = target.id ∧ projectile.lastEnemyPosition = target.position

/-- The tower chooses its target well: it aims at an enemy if and only if there is
one that it can aim at, and otherwise it is carried over. -/
structure ChoosesTarget (mapData : MapData F) (enemies : List (Enemy F)) (delta : F)
    (turn : TowerTurn F) : Prop where
  choice : ∃ type, mapData.towerTypes[turn.tower.typeIdx]? = some type ∧
    ((∃ enemy ∈ enemies, turn.tower.CanAimAt type enemy) →
      ∃ index target, turn.AimsAt type enemies delta index target) ∧
    ((¬∃ enemy ∈ enemies, turn.tower.CanAimAt type enemy) →
      turn.copy = turn.tower ∧ turn.shots = [])

theorem Follows.choosesTarget {turn : TowerTurn F}
    (ranges : ∀ type ∈ mapData.towerTypes, 0 ≤ type.range)
    (follows : turn.Follows platform mapData enemies delta) :
    turn.ChoosesTarget mapData enemies delta := by
  cases follows with
  | @idle type tower typed empty =>
      have nonneg := ranges type (List.mem_of_getElem? typed)
      rw [query, GameState.queryEnemiesInRadius_eq_nil_iff] at empty
      refine ⟨type, typed, ?_, fun _ => ⟨rfl, rfl⟩⟩
      intro some
      rcases some with ⟨enemy, member, canAim⟩
      have missed := empty enemy member
      rw [(Enemy.inRadius_iff_inDisc nonneg).mpr canAim] at missed
      cases missed
  | @engages type _ index target typed nonempty engaged =>
      have nonneg := ranges type (List.mem_of_getElem? typed)
      have valid : ∀ slot ∈ query type enemies turn.tower,
          ∃ enemy, enemies[slot]? = some enemy := by
        intro slot member
        obtain ⟨enemy, found, _⟩ := GameState.mem_queryEnemiesInRadius_iff.mp member
        exact ⟨enemy, found⟩
      obtain ⟨reported, least⟩ := least_of_sorted valid engaged.chosen engaged.found
      obtain ⟨enemy, found, near⟩ := GameState.mem_queryEnemiesInRadius_iff.mp reported
      rw [engaged.found] at found
      cases found
      have canAim := (Enemy.inRadius_iff_inDisc nonneg).mp near
      refine ⟨type, typed, fun _ => ⟨index, target, ?_⟩, fun none =>
        absurd ⟨target, List.mem_of_getElem? engaged.found, canAim⟩ none⟩
      refine ⟨engaged.found, canAim, ?_, engaged.copy, ?_, fun isZero => ?_, engaged.aimed⟩
      · intro other member otherCanAim
        rcases List.mem_iff_getElem?.mp member with ⟨slot, otherFound⟩
        apply least slot _ other otherFound
        exact GameState.mem_queryEnemiesInRadius_iff.mpr
          ⟨other, otherFound, (Enemy.inRadius_iff_inDisc nonneg).mpr otherCanAim⟩
      · rw [← nsmul_eq_mul]
        exact engaged.drained.balance
      · exact List.length_eq_zero_iff.mp ((TowerType.drains_of_eq_zero isZero).mp engaged.drained).1

end TowerTurn

/-! ## The whole step -/

section Step

variable [Glm F] {platform : Platform F R} {mapData : MapData F} {initial : GameState F R}
variable {commands : List (GameCommand F)} {delta : F} {fuel : Nat} {frame after : Frame F R}

/-- Every tower of a step chooses its target among the enemies that the movement
loop has left in the next state.  The towers of the next state are the copies and
those that commands have built, and its projectiles are the shots of the towers
and those that fly on. -/
theorem timeStep_choosesTargets (ranges : ∀ type ∈ mapData.towerTypes, 0 ≤ type.range)
    (executed : GameState.timeStep platform mapData initial commands delta fuel frame =
      .ok after) :
    ∃ (moved : Frame F R) (turns : List (TowerTurn F)) (built : List (Tower F))
        (flying : List (Projectile F)),
      GameState.moveEnemies mapData initial delta (GameState.clearNext initial frame) = .ok moved ∧
      (turns.map fun turn => turn.tower) = initial.towers ∧
      (∀ turn ∈ turns, turn.ChoosesTarget mapData moved.next.enemies delta) ∧
      after.next.towers = (turns.map fun turn => turn.copy) ++ built ∧
      (built.map Tower.placement).Sublist (placements commands) ∧
      after.next.projectiles = (turns.flatMap fun turn => turn.shots) ++ flying ∧
      (flying.map fun projectile => projectile.id).Sublist initial.projectileIds := by
  obtain ⟨moved, fired, struck, moves, fires, hits, commanded⟩ :=
    GameState.timeStep_eq_ok.mp executed
  obtain ⟨images, reached, _⟩ := GameState.moveEnemies_spec moves
  obtain ⟨turns, towers, follow, volley⟩ := GameState.updateTowers_turns fires
  obtain ⟨kept, flying, appended, carried⟩ := GameState.updateProjectiles_spec hits
  obtain ⟨built, grown, asked, _⟩ := GameState.executeCommands_towers commanded
  have launched : (turns.flatMap TowerTurn.launches).map Prod.snd =
      turns.flatMap fun turn => turn.shots := by
    rw [List.map_flatMap]
    congr 1
    funext turn
    exact turn.launches_snd
  subst reached
  refine ⟨_, turns, built, flying, moves, towers,
    fun turn member => (follow turn member).choosesTarget ranges, ?_, asked, ?_,
    carried.map_sublist fun _ _ flight => flight.id_eq⟩
  · rw [grown, kept.towers, volley.next]
    rfl
  · rw [GameState.executeCommands_projectiles commanded, appended, volley.next, launched]
    rfl

end Step

section Meadow

open Rational

/-- An enemy walks past a tower that has waited for a shot and a half; the other
enemy and the other tower are out of reach. -/
def Rational.skirmish : GameState ℚ Nat where
  randomEngine := 0
  playerState := ⟨20, 3⟩
  enemies :=
    [{ Enemy.fresh ℚ with id := 0, position := ⟨2, 0⟩, remainingHealth := 10 },
      { Enemy.fresh ℚ with id := 1, position := ⟨40, 0⟩, remainingHealth := 10 }]
  towers :=
    [{ Tower.fresh ℚ with id := 2, position := ⟨3, 1 / 2⟩, timeSinceLastShot := 3 / 2 },
      { Tower.fresh ℚ with id := 3, position := ⟨60, 1 / 2⟩, timeSinceLastShot := 3 / 2 }]
  projectiles := []
  nextObjectId := 4

/-- The first tower fires twice at the enemy in its range, the second one waits. -/
theorem skirmish_choosesTargets : ∃ (after moved : Frame ℚ Nat) (turns : List (TowerTurn ℚ)),
    GameState.timeStep platform meadow skirmish [] 1 10 ⟨skirmish, [], [], []⟩ = .ok after ∧
    GameState.moveEnemies meadow skirmish 1
      (GameState.clearNext skirmish ⟨skirmish, [], [], []⟩) = .ok moved ∧
    (turns.map fun turn => turn.tower) = skirmish.towers ∧
    (∀ turn ∈ turns, turn.ChoosesTarget meadow moved.next.enemies 1) ∧
    (after.next.projectiles.map fun projectile => projectile.targetEnemyId) = [0, 0] ∧
    (after.next.towers.map fun tower => tower.timeSinceLastShot) = [1 / 2, 3 / 2] := by
  obtain ⟨after, executed, found⟩ := exists_ok_of_succeedsWith
    (GameState.timeStep platform meadow skirmish [] 1 10 ⟨skirmish, [], [], []⟩)
    (fun after => decide (
      (after.next.projectiles.map fun projectile => projectile.targetEnemyId) = [0, 0] ∧
      (after.next.towers.map fun tower => tower.timeSinceLastShot) = [1 / 2, 3 / 2]))
    (by decide +kernel)
  obtain ⟨moved, turns, _, _, moves, towers, choose, _⟩ :=
    timeStep_choosesTargets (by decide +kernel) executed
  obtain ⟨aimed, times⟩ := of_decide_eq_true found
  exact ⟨after, moved, turns, executed, moves, towers, choose, aimed, times⟩

end Meadow

end TowerDefence
