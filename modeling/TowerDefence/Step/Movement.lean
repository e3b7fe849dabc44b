import TowerDefence.Foundations.Carry
import TowerDefence.Foundations.Loop
import TowerDefence.Model.GameState

/-!
# The movement loop

What becomes of every enemy of the initial state: it leaves, or its image is
appended to the next state with the same identity and the same health.
-/

namespace TowerDefence

open Foundations

variable {F R : Type}

/-- Successful unchecked reads are reads inside the bounds. -/
@[simp] theorem readAt_eq_ok {α : Type} {items : List α} {index : Nat} {item : α} :
    readAt items index = .ok item ↔ items[index]? = some item := by
  rw [readAt]
  cases items[index]? with
  | none => simp
  | some found => simp

@[simp] theorem readBack_eq_ok {α : Type} {items : List α} {item : α} :
    readBack items = .ok item ↔ items.getLast? = some item := by
  rw [readBack]
  cases items.getLast? with
  | none => simp
  | some found => simp

variable [Arithmetic F]

/-- The movement loop drops the enemy. -/
def Enemy.Leaves (mapData : MapData F) (enemy : Enemy F) : Prop :=
  GameState.enemyLeaves mapData enemy = .ok true

/-- The movement loop keeps the enemy. -/
def enemyStays (mapData : MapData F) (enemy : Enemy F) : Bool :=
  match GameState.enemyLeaves mapData enemy with
  | .ok leaves => !leaves
  | .error _ => false

/-- How the image of an enemy that stays relates to the enemy. -/
structure Enemy.Moved (mapData : MapData F) (enemy enemyNext : Enemy F) : Prop where
  stays : enemyStays mapData enemy = true
  id : enemyNext.id = enemy.id
  typeIdx : enemyNext.typeIdx = enemy.typeIdx
  remainingHealth : enemyNext.remainingHealth = enemy.remainingHealth
  nextWaypointIdx : enemyNext.nextWaypointIdx = enemy.nextWaypointIdx ∨
    enemyNext.nextWaypointIdx = enemy.nextWaypointIdx + 1 ∧
      enemy.nextWaypointIdx < mapData.enemyPath.waypoints.length - 1

theorem Enemy.Leaves.not_stays {mapData : MapData F} {enemy : Enemy F}
    (leaves : enemy.Leaves mapData) : enemyStays mapData enemy = false := by
  rw [Enemy.Leaves] at leaves
  rw [enemyStays, leaves]
  rfl

/-- The two reasons for which an enemy leaves. -/
theorem Enemy.leaves_iff {mapData : MapData F} {enemy : Enemy F} :
    enemy.Leaves mapData ↔ isNearlyZero enemy.remainingHealth = true ∨
      ∃ goal, isNearlyZero enemy.remainingHealth = false ∧
        mapData.enemyPath.waypoints.getLast? = some goal ∧
        isNearlyZero (distanceSqr enemy.position goal) = true := by
  rw [Enemy.Leaves, GameState.enemyLeaves]
  cases isNearlyZero enemy.remainingHealth with
  | true => simp
  | false => simp only [Bool.false_eq_true, if_false, bind_eq_ok, pure_eq_ok, readBack_eq_ok,
      false_or, true_and]

namespace GameState

variable [Glm F]
variable {mapData : MapData F} {initial : GameState F R} {delta : F} {frame frame' : Frame F R}

theorem advanceEnemy_moved {enemy enemyNext : Enemy F} {slot : Nat}
    (stays : enemyStays mapData enemy = true)
    (executed : advanceEnemy mapData initial delta enemy slot = .ok enemyNext) :
    enemy.Moved mapData enemyNext := by
  simp only [advanceEnemy, bind_eq_ok, pure_eq_ok] at executed
  rcases executed with ⟨a, _, b, _, nextWaypointDistance, _, enemyType, _, assembled⟩
  subst assembled
  refine ⟨stays, rfl, rfl, rfl, ?_⟩
  dsimp only
  split
  · rename_i advances
    exact .inr ⟨rfl, advances.2⟩
  · exact .inl rfl

/-- The enemy in its slot stays, and `enemyNext` is its image. -/
structure Images (mapData : MapData F) (initial : GameState F R) (delta : F)
    (entry : Enemy F × Nat) (enemyNext : Enemy F) : Prop where
  stays : enemyStays mapData entry.1 = true
  advanced : advanceEnemy mapData initial delta entry.1 entry.2 = .ok enemyNext

theorem Images.moved {entry : Enemy F × Nat} {enemyNext : Enemy F}
    (image : Images mapData initial delta entry enemyNext) : entry.1.Moved mapData enemyNext :=
  advanceEnemy_moved image.stays image.advanced

/-- One iteration drops the enemy or appends its image. -/
theorem moveEnemy_cases {entry : Enemy F × Nat}
    (executed : moveEnemy mapData initial delta frame entry = .ok frame') :
    entry.1.Leaves mapData ∧ frame' = frame ∨
      ∃ enemyNext, Images mapData initial delta entry enemyNext ∧
        frame' = { frame with next.enemies := frame.next.enemies ++ [enemyNext] } := by
  simp only [moveEnemy, bind_eq_ok, List.dropLast_concat] at executed
  rcases executed with ⟨leaves, tested, executed⟩
  cases leaves with
  | true =>
      simp only [if_true, pure_eq_ok] at executed
      exact .inl ⟨tested, executed.symm⟩
  | false =>
      simp only [Bool.false_eq_true, if_false, bind_eq_ok, pure_eq_ok] at executed
      rcases executed with ⟨enemyNext, advanced, assembled⟩
      have stays : enemyStays mapData entry.1 = true := by
        rw [enemyStays, tested]
        rfl
      exact .inr ⟨enemyNext, ⟨stays, advanced⟩, assembled.symm⟩

/-- The movement loop appends the images of the enemies that stay, computed from
their slots, and touches nothing else. -/
theorem moveEnemies_images (executed : moveEnemies mapData initial delta frame = .ok frame') :
    ∃ images, frame' = { frame with next.enemies := frame.next.enemies ++ images } ∧
      Carried (Images mapData initial delta) (fun entry => entry.1.Leaves mapData)
        initial.enemies.zipIdx images := by
  let inv (done : List (Enemy F × Nat)) (state : Frame F R) : Prop :=
    ∃ images, state = { frame with next.enemies := frame.next.enemies ++ images } ∧
      Carried (Images mapData initial delta) (fun entry => entry.1.Leaves mapData) done images
  apply foldlM_progress inv executed ⟨[], by simp, .nil⟩
  intro done entry state state' _ holds stepped
  rcases holds with ⟨images, reached, carried⟩
  subst reached
  cases moveEnemy_cases stepped with
  | inl dropped => exact ⟨images, dropped.2, carried.append_drop dropped.1⟩
  | inr kept =>
      rcases kept with ⟨enemyNext, image, reached⟩
      exact ⟨images ++ [enemyNext], by simp [reached], carried.append_keep image⟩

/-- The images correspond to the enemies in their order. -/
theorem moveEnemies_spec (executed : moveEnemies mapData initial delta frame = .ok frame') :
    ∃ images, frame' = { frame with next.enemies := frame.next.enemies ++ images } ∧
      Carried (Enemy.Moved mapData) (Enemy.Leaves mapData) initial.enemies images := by
  obtain ⟨images, reached, carried⟩ := moveEnemies_images executed
  have moved : Carried (Enemy.Moved mapData) (Enemy.Leaves mapData)
      (initial.enemies.zipIdx.map Prod.fst) images :=
    carried.map (fun _ _ image => image.moved) fun _ leaves => leaves
  rw [List.zipIdx_map_fst] at moved
  exact ⟨images, reached, moved⟩

end GameState

end TowerDefence
