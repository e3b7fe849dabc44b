import Mathlib.Data.List.Forall2
import TowerDefence.Step.Detonation
import TowerDefence.Step.Enemies
import TowerDefence.Step.Reach

/-!
# Where projectiles can go off

What the state before a step says about the detonations of the step.  A projectile aims at
its target, whose new place is known up to its reach, or at the last place that it saw.
From there follows which projectiles can go off in the step, and which enemies they can
strike.
-/

namespace TowerDefence

open Foundations GameState

variable {F R : Type} [Arithmetic F]

/-- The enemies that stay, in the order of their slots after the movement loop, with their
slots before it. -/
def survivors (mapData : MapData F) (state : GameState F R) : List (Enemy F × Nat) :=
  state.enemies.zipIdx.filter fun entry => enemyStays mapData entry.1

namespace Projectile

variable (mapData : MapData F) (state : GameState F R) (delta : F)

/-- The places that the projectile may aim at, each with a bound for what the real place
differs from it. -/
def goals (proj : Projectile F) : List (Vec2 F × F) :=
  (proj.lastEnemyPosition, 0) ::
    ((survivors mapData state).filter fun entry => entry.1.id == proj.targetEnemyId).map
      fun entry => (entry.1.position, Enemy.reach mapData state.enemies delta entry)

/-- The entry's enemy is the target, and the projectile can reach it in the step. -/
def MayHit (entry : Enemy F × Nat) (proj : Projectile F) : Prop :=
  entry.1.id = proj.targetEnemyId ∧ ∃ type ∈ mapData.projectileTypes[proj.typeIdx]?,
    (entry.1.position - proj.position).Within
      (type.speed * delta + Enemy.reach mapData state.enemies delta entry)

/-- The projectile can go off in the step so near to the entry's enemy that the splash
reaches it. -/
def MaySplash (entry : Enemy F × Nat) (proj : Projectile F) : Prop :=
  ∃ type ∈ mapData.projectileTypes[proj.typeIdx]?, isNearlyZero type.splashRadius = false ∧
    ∃ goal ∈ proj.goals mapData state delta,
      (goal.1 - proj.position).Within (type.speed * delta + goal.2) ∧
      (entry.1.position - goal.1).Within
        (type.splashRadius + goal.2 + Enemy.reach mapData state.enemies delta entry)

instance (entry : Enemy F × Nat) (proj : Projectile F) :
    Decidable (proj.MayHit mapData state delta entry) :=
  inferInstanceAs (Decidable (_ ∧ _))

instance (entry : Enemy F × Nat) (proj : Projectile F) :
    Decidable (proj.MaySplash mapData state delta entry) :=
  inferInstanceAs (Decidable (∃ type ∈ mapData.projectileTypes[proj.typeIdx]?, _ ∧ _))

end Projectile

/-! ## The enemies in the loops -/

section Slots

variable [Glm F] {mapData : MapData F} {initial : GameState F R} {delta : F}
variable {enemies enemies' : List (Enemy F)}

/-- The enemies of a loop are those that stay, one for one. -/
def FromSurvivors (mapData : MapData F) (initial : GameState F R) (delta : F)
    (enemies : List (Enemy F)) : Prop :=
  List.Forall₂ (Enemy.Becomes mapData initial delta) (survivors mapData initial) enemies

/-- Strikes do not change where the enemies come from. -/
theorem FromSurvivors.congr (bodies : enemies'.map Enemy.body = enemies.map Enemy.body)
    (holds : FromSurvivors mapData initial delta enemies) :
    FromSurvivors mapData initial delta enemies' := by
  let isBody (entry : Enemy F × Nat) (body : Enemy F) : Prop :=
    ∃ image, Images mapData initial delta entry image ∧ body = image.body
  have listed : List.Forall₂ isBody (survivors mapData initial) (enemies.map Enemy.body) :=
    List.forall₂_map_right_iff.mpr holds
  rw [← bodies] at listed
  have carried : List.Forall₂ (fun entry (enemy : Enemy F) => isBody entry enemy.body)
      (survivors mapData initial) enemies' := List.forall₂_map_right_iff.mp listed
  exact carried

/-- The movement loop leaves the images of the survivors. -/
theorem GameState.moveEnemies_survivors {start moved : Frame F R}
    (moves : moveEnemies mapData initial delta (clearNext initial start) = .ok moved) :
    List.Forall₂ (Images mapData initial delta) (survivors mapData initial)
      moved.next.enemies := by
  obtain ⟨images, reached, carried⟩ := moveEnemies_images moves
  have enemies : moved.next.enemies = images := by
    rw [reached]
    rfl
  rw [enemies]
  exact carried.forall₂_filter (fun entry => enemyStays mapData entry.1)
    (fun _ _ image => image.stays) fun _ leaves => leaves.not_stays

theorem GameState.moveEnemies_fromSurvivors {start moved : Frame F R}
    (moves : moveEnemies mapData initial delta (clearNext initial start) = .ok moved) :
    FromSurvivors mapData initial delta moved.next.enemies :=
  (moveEnemies_survivors moves).imp fun _ image isImage => ⟨image, isImage, rfl⟩

/-- The survivor in a slot. -/
theorem FromSurvivors.slot (holds : FromSurvivors mapData initial delta enemies) {slot : Nat}
    {enemy : Enemy F} (found : enemies[slot]? = some enemy) :
    ∃ entry, (survivors mapData initial)[slot]? = some entry ∧
      Enemy.Becomes mapData initial delta entry enemy :=
  getElem?_of_forall₂ holds found

theorem FromSurvivors.becomes (holds : FromSurvivors mapData initial delta enemies) {slot : Nat}
    {entry : Enemy F × Nat} {enemy : Enemy F}
    (survives : (survivors mapData initial)[slot]? = some entry)
    (found : enemies[slot]? = some enemy) : Enemy.Becomes mapData initial delta entry enemy := by
  obtain ⟨other, otherSurvives, becomes⟩ := holds.slot found
  cases survives.symm.trans otherSurvives
  exact becomes

theorem Enemy.Becomes.id {entry : Enemy F × Nat} {enemyNext : Enemy F}
    (becomes : Enemy.Becomes mapData initial delta entry enemyNext) :
    enemyNext.id = entry.1.id := by
  rcases becomes with ⟨image, isImage, sameBody⟩
  have sameId : enemyNext.id = image.id := congrArg (fun body => body.id) sameBody
  rw [sameId, isImage.moved.id]

end Slots

/-! ## Exact arithmetic -/

section Exact

variable {F : Type} [Field F] [LinearOrder F] [IsStrictOrderedRing F] [Glm F]
variable {mapData : MapData F} {initial : GameState F R} {delta : F}
variable {enemies : List (Enemy F)} {entry : Enemy F × Nat} {enemy enemyNext : Enemy F}
variable {proj : Projectile F} {alive : Bool} {target : Vec2 F} {type : ProjectileType F}

theorem Enemy.Becomes.within_reach (bounds : ExactBounds F)
    (becomes : Enemy.Becomes mapData initial delta entry enemyNext) :
    (enemyNext.position - entry.1.position).Within
      (Enemy.reach mapData initial.enemies delta entry) := by
  rcases becomes with ⟨image, isImage, sameBody⟩
  have samePosition : enemyNext.position = image.position :=
    congrArg (fun body => body.position) sameBody
  rw [samePosition]
  exact isImage.within_reach bounds

/-- The place that a projectile aims at is near one of its goals. -/
theorem Projectile.Aim.near_goal (bounds : ExactBounds F)
    (aim : proj.Aim mapData enemies alive target type)
    (holds : FromSurvivors mapData initial delta enemies) :
    ∃ goal ∈ proj.goals mapData initial delta, (target - goal.1).Within goal.2 := by
  obtain ⟨inSlot, found, isAlive, isTarget⟩ := aim.slot
  cases alive with
  | false =>
      refine ⟨_, List.mem_cons_self, ?_⟩
      have same : target - proj.lastEnemyPosition = 0 := by
        rw [isTarget]
        exact Vec2.ext (sub_self _) (sub_self _)
      rw [same]
      exact .zero
  | true =>
      obtain ⟨entry, survives, becomes⟩ := holds.slot found
      have sameId : entry.1.id = proj.targetEnemyId :=
        becomes.id.symm.trans (eq_of_beq isAlive.symm)
      refine ⟨_, List.mem_cons_of_mem _ (List.mem_map_of_mem (List.mem_filter.mpr
        ⟨List.mem_of_getElem? survives, beq_iff_eq.mpr sameId⟩)), ?_⟩
      rw [isTarget]
      exact becomes.within_reach bounds

/-- A projectile that goes off is near the place that it aims at. -/
theorem ExactBounds.within_of_near (bounds : ExactBounds F) {speed : F}
    (near : ¬speed < Glm.length (target - proj.position)) :
    (target - proj.position).Within speed :=
  (bounds.within_length _).mono (not_lt.mp near)

/-- A projectile strikes its target only where it may. -/
theorem Projectile.Aim.mayHit (bounds : ExactBounds F)
    (aim : proj.Aim mapData enemies true target type)
    (near : ¬type.speed * delta < Glm.length (target - proj.position))
    (survives : (survivors mapData initial)[proj.targetEnemyIndex]? = some entry)
    (holds : FromSurvivors mapData initial delta enemies) :
    proj.MayHit mapData initial delta entry := by
  obtain ⟨inSlot, found, isAlive, isTarget⟩ := aim.slot
  obtain ⟨other, otherSurvives, becomes⟩ := holds.slot found
  cases survives.symm.trans otherSurvives
  refine ⟨becomes.id.symm.trans (eq_of_beq isAlive.symm), type, aim.typed, ?_⟩
  have step := bounds.within_of_near near
  rw [isTarget] at step
  exact step.trans (becomes.within_reach bounds).swap

/-- A splash strikes an enemy only where it may. -/
theorem Projectile.Aim.maySplash (bounds : ExactBounds F)
    (aim : proj.Aim mapData enemies alive target type)
    (near : ¬type.speed * delta < Glm.length (target - proj.position))
    (becomes : Enemy.Becomes mapData initial delta entry enemy)
    (splash : isNearlyZero type.splashRadius = false)
    (reached : enemy.inRadius target type.splashRadius = true)
    (holds : FromSurvivors mapData initial delta enemies) :
    proj.MaySplash mapData initial delta entry := by
  obtain ⟨goal, isGoal, nearGoal⟩ := aim.near_goal bounds holds
  have radius : 0 ≤ type.splashRadius :=
    (defaultMaxDiff_pos.trans (isNearlyZero_eq_false_iff.mp splash)).le
  have inside : (enemy.position - target).Within type.splashRadius :=
    .of_lengthSqr_le radius (Enemy.inRadius_iff.mp reached).2
  refine ⟨type, aim.typed, splash, goal, isGoal, ?_, ?_⟩
  · exact (bounds.within_of_near near).trans nearGoal.swap
  · have fromGoal := nearGoal.trans (inside.trans (becomes.within_reach bounds).swap)
    have total : goal.2 + (type.splashRadius + Enemy.reach mapData initial.enemies delta entry) =
        type.splashRadius + goal.2 + Enemy.reach mapData initial.enemies delta entry := by
      rw [← add_assoc, add_comm goal.2]
    exact total ▸ fromGoal

end Exact

end TowerDefence
