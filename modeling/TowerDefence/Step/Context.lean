import TowerDefence.Foundations.Loop
import TowerDefence.Model.GameState

/-!
# `TimeStep` does not depend on what its buffers held

Two frames share their working state when they agree on the next state and the
history, while the scratch vector is arbitrary and the event queues differ by a
common prefix.  Every loop body of `TimeStep` maps such frames to such frames:
the scratch vector is overwritten before it is read, and events are only
appended.
-/

namespace TowerDefence

open Foundations

variable {F R : Type}

/-- `frame` is `reference` with `queued` events in front of the queue and some
other content in the scratch vector. -/
structure Frame.InContext (queued : List (GameEvent F)) (frame reference : Frame F R) : Prop where
  next : frame.next = reference.next
  deeds : frame.deeds = reference.deeds
  events : frame.outGameEvents = queued ++ reference.outGameEvents

namespace GameState

variable [Arithmetic F] [Glm F]
variable {platform : Platform F R} {mapData : MapData F} {initial : GameState F R}
variable {delta : F} {fuel : Nat} {queued : List (GameEvent F)} {frame reference : Frame F R}

theorem moveEnemy_inContext (entry : Enemy F × Nat)
    (context : Frame.InContext queued frame reference) :
    Agree (Frame.InContext queued) (moveEnemy mapData initial delta frame entry)
      (moveEnemy mapData initial delta reference entry) := by
  simp only [moveEnemy]
  apply Agree.bind (Agree.refl (enemyLeaves mapData entry.1))
  intro leaves leaves' same
  subst same
  cases leaves with
  | true =>
      exact .ok ⟨by simp [context.next], context.deeds, context.events⟩
  | false =>
      apply Agree.bind (Agree.refl (advanceEnemy mapData initial delta entry.1 entry.2))
      intro enemyNext _ same
      cases same
      exact .ok ⟨by simp [context.next], context.deeds, context.events⟩

omit [Glm F] in
theorem fireProjectiles_inContext (type : TowerType F) (shotInterval : F)
    (targetEnemyIdx : Nat) (targetEnemy : Enemy F) (tower towerNext : Tower F)
    (context : Frame.InContext queued frame reference) :
    Agree (fun left right => left.1 = right.1 ∧ Frame.InContext queued left.2 right.2)
      (fireProjectiles type shotInterval targetEnemyIdx targetEnemy tower fuel towerNext frame)
      (fireProjectiles type shotInterval targetEnemyIdx targetEnemy tower fuel towerNext
        reference) := by
  induction fuel generalizing towerNext frame reference with
  | zero =>
      rw [fireProjectiles, fireProjectiles]
      split
      · exact .error _
      · exact .ok ⟨rfl, context⟩
  | succ fuel ih =>
      rw [fireProjectiles, fireProjectiles]
      split
      · have launched : Frame.InContext queued
            (launchProjectile type shotInterval targetEnemyIdx targetEnemy tower towerNext frame).2
            (launchProjectile type shotInterval targetEnemyIdx targetEnemy tower towerNext
              reference).2 :=
          ⟨by simp [launchProjectile, context.next],
            by simp [launchProjectile, context.next, context.deeds],
            by simp [launchProjectile, context.events]⟩
        exact ih _ launched
      · exact .ok ⟨rfl, context⟩

omit [Glm F] in
theorem fireAtInterval_inContext (type : TowerType F) (shotInterval : Option F)
    (targetEnemyIdx : Nat) (targetEnemy : Enemy F) (tower towerNext : Tower F)
    (context : Frame.InContext queued frame reference) :
    Agree (fun left right => left.1 = right.1 ∧ Frame.InContext queued left.2 right.2)
      (fireAtInterval type shotInterval targetEnemyIdx targetEnemy tower fuel towerNext frame)
      (fireAtInterval type shotInterval targetEnemyIdx targetEnemy tower fuel towerNext
        reference) := by
  cases shotInterval with
  | some shotInterval => exact fireProjectiles_inContext _ _ _ _ _ _ context
  | none => exact .ok ⟨rfl, context⟩

theorem updateTower_inContext (tower : Tower F)
    (context : Frame.InContext queued frame reference) :
    Agree (Frame.InContext queued) (updateTower platform mapData delta fuel frame tower)
      (updateTower platform mapData delta fuel reference tower) := by
  rw [updateTower, updateTower]
  apply Agree.bind (Agree.refl (readAt mapData.towerTypes tower.typeIdx))
  intro type _ same
  cases same
  rw [context.next]
  dsimp only
  split
  · exact .ok ⟨rfl, context.deeds, context.events⟩
  · apply Agree.bind (Agree.refl _)
    intro _ _ same
    cases same
    apply Agree.bind (Agree.refl _)
    intro sorted _ same
    cases same
    apply Agree.bind (Agree.refl _)
    intro targetEnemyIdx _ same
    cases same
    apply Agree.bind (Agree.refl _)
    intro targetEnemy _ same
    cases same
    apply Agree.bind (fireAtInterval_inContext _ _ _ _ _ _ context)
    intro fired firedReference related
    rcases related with ⟨sameTower, firedContext⟩
    simp only [sameTower, firedContext.next]
    exact .ok ⟨rfl, firedContext.deeds, firedContext.events⟩

omit [Glm F] in
theorem applyDamageToEnemy_inContext (direct : Bool) (projectile : Projectile F)
    (projectileType : ProjectileType F) (enemyIndex : Nat)
    (context : Frame.InContext queued frame reference) :
    Agree (Frame.InContext queued)
      (applyDamageToEnemy mapData direct projectile projectileType frame enemyIndex)
      (applyDamageToEnemy mapData direct projectile projectileType reference enemyIndex) := by
  rw [applyDamageToEnemy, applyDamageToEnemy, context.next]
  apply Agree.bind (Agree.refl _)
  intro enemy _ same
  cases same
  dsimp only
  split
  · apply Agree.bind (Agree.refl _)
    intro enemyType _ same
    cases same
    exact .ok ⟨by simp, by simp [context.deeds], by simp [context.events]⟩
  · exact .ok ⟨by simp, by simp [context.deeds], by simp [context.events]⟩

omit [Glm F] in
theorem damageTarget_inContext (projNext : Projectile F) (projectileType : ProjectileType F)
    (targetEnemyAlive : Bool) (context : Frame.InContext queued frame reference) :
    Agree (Frame.InContext queued)
      (damageTarget mapData projNext projectileType targetEnemyAlive frame)
      (damageTarget mapData projNext projectileType targetEnemyAlive reference) := by
  rw [damageTarget, damageTarget]
  split
  · exact applyDamageToEnemy_inContext _ _ _ _ context
  · exact .ok context

omit [Glm F] in
theorem damageSplash_inContext (projNext : Projectile F) (projectileType : ProjectileType F)
    (targetPosition : Vec2 F) (context : Frame.InContext queued frame reference) :
    Agree (Frame.InContext queued)
      (damageSplash mapData projNext projectileType targetPosition frame)
      (damageSplash mapData projNext projectileType targetPosition reference) := by
  rw [damageSplash, damageSplash, context.next]
  split
  · exact .ok context
  · apply Agree.foldlM ⟨rfl, context.deeds, context.events⟩
    intro enemyIndex left right _ related
    exact applyDamageToEnemy_inContext _ _ _ _ related

omit [Glm F] in
theorem detonate_inContext (projNext : Projectile F) (projectileType : ProjectileType F)
    (targetEnemyAlive : Bool) (targetPosition : Vec2 F)
    (context : Frame.InContext queued frame reference) :
    Agree (Frame.InContext queued)
      (detonate mapData projNext projectileType targetEnemyAlive targetPosition frame)
      (detonate mapData projNext projectileType targetEnemyAlive targetPosition reference) := by
  have recorded : Frame.InContext queued
      { frame with deeds := frame.deeds ++ [.detonate projNext] }
      { reference with deeds := reference.deeds ++ [.detonate projNext] } :=
    ⟨context.next, by simp [context.deeds], context.events⟩
  apply Agree.bind (damageTarget_inContext projNext projectileType targetEnemyAlive recorded)
  intro _ _ struck
  exact damageSplash_inContext projNext projectileType targetPosition struck

theorem updateProjectile_inContext (proj : Projectile F)
    (context : Frame.InContext queued frame reference) :
    Agree (Frame.InContext queued) (updateProjectile mapData delta frame proj)
      (updateProjectile mapData delta reference proj) := by
  rw [updateProjectile, updateProjectile, context.next]
  split
  · exact .ok context
  · apply Agree.bind (Agree.refl _)
    intro aimed _ same
    cases same
    rcases aimed with ⟨targetEnemyAlive, targetPosition⟩
    apply Agree.bind (Agree.refl _)
    intro projectileType _ same
    cases same
    dsimp only
    split
    · exact .ok ⟨rfl, context.deeds, context.events⟩
    · exact detonate_inContext _ _ _ _ context

omit [Glm F] in
theorem executeCommand_inContext (command : GameCommand F)
    (context : Frame.InContext queued frame reference) :
    Agree (Frame.InContext queued) (executeCommand platform mapData frame command)
      (executeCommand platform mapData reference command) := by
  cases command with
  | debugSpawnEnemy enemyType =>
      simp only [executeCommand, context.next]
      apply Agree.bind (Agree.refl _)
      intro _ _ same
      cases same
      apply Agree.bind (Agree.refl _)
      intro enemy _ same
      cases same
      exact .ok ⟨by simp, by simp [context.deeds], context.events⟩
  | debugDespawnAllEnemies =>
      simp only [executeCommand, context.next]
      exact .ok ⟨rfl, context.deeds, context.events⟩
  | debugAddGold amount =>
      simp only [executeCommand, context.next]
      exact .ok ⟨rfl, context.deeds, context.events⟩
  | buildTower towerType position =>
      simp only [executeCommand, context.next]
      apply Agree.bind (Agree.refl _)
      intro type _ same
      cases same
      split
      · exact .ok ⟨by simp, by simp [context.deeds], context.events⟩
      · exact .ok context

/-- A step only depends on the initial state and the commands: whatever the
buffer and the scratch vector held, the next state and the history are the same
and the same events are appended to the queue. -/
theorem timeStep_inContext (queued : List (GameEvent F)) (platform : Platform F R)
    (mapData : MapData F) (initial : GameState F R) (commands : List (GameCommand F)) (delta : F)
    (fuel : Nat) (frame reference : Frame F R) (deeds : frame.deeds = reference.deeds)
    (events : frame.outGameEvents = queued ++ reference.outGameEvents) :
    Agree (Frame.InContext queued)
      (timeStep platform mapData initial commands delta fuel frame)
      (timeStep platform mapData initial commands delta fuel reference) := by
  have cleared : Frame.InContext queued (clearNext initial frame) (clearNext initial reference) :=
    ⟨rfl, deeds, events⟩
  apply Agree.bind (Agree.foldlM cleared fun entry _ _ _ context =>
    moveEnemy_inContext entry context)
  intro _ _ afterEnemies
  apply Agree.bind (Agree.foldlM afterEnemies fun tower _ _ _ context =>
    updateTower_inContext tower context)
  intro _ _ afterTowers
  apply Agree.bind (Agree.foldlM afterTowers fun proj _ _ _ context =>
    updateProjectile_inContext proj context)
  intro _ _ afterProjectiles
  exact Agree.foldlM afterProjectiles fun command _ _ _ context =>
    executeCommand_inContext command context

end GameState

end TowerDefence
