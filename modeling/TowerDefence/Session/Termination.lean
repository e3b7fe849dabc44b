import Mathlib.Algebra.Order.Archimedean.Basic
import TowerDefence.Session.Identity
import TowerDefence.Step.Query

/-!
# Termination of steps

The only loop of a step without a bound of its own is the firing loop of a tower.
It ends because the time of a tower never exceeds one interval between steps, so
that one bound on the shots of a step holds for all towers of a type in all runs.
A step whose loops end fails in no other way than by an access outside the bounds.
-/

namespace TowerDefence

open Foundations

variable {F R : Type}

/-! ## Towers -/

section Termination

variable [Arithmetic F] {mapData : MapData F} {frame : Frame F R} {fuel : Nat}
variable {fault : Fault} (others : Fault.outOfBounds ≠ fault)

include others

omit [Arithmetic F] in
theorem readAt_avoids_others {α : Type} (items : List α) (index : Nat) :
    Avoids fault (fun item => items[index]? = some item) (readAt items index) := by
  rw [readAt]
  cases items[index]? with
  | none =>
      exact others
  | some item => exact rfl

omit others in
/-- The firing loop ends when the time of the tower is drained. -/
theorem GameState.fireProjectiles_drains {type : TowerType F} {shotInterval amount rest : F}
    {count targetEnemyIdx : Nat} {targetEnemy : Enemy F} {tower : Tower F}
    (drained : Drained shotInterval amount count rest) (enough : count ≤ fuel)
    {towerNext : Tower F} (saved : towerNext.timeSinceLastShot = amount) :
    Avoids fault (fun _ => True)
      (fireProjectiles type shotInterval targetEnemyIdx targetEnemy tower fuel towerNext
        frame) := by
  induction drained generalizing fuel towerNext frame with
  | stop atMost =>
      rw [← saved] at atMost
      cases fuel with
      | zero =>
          rw [fireProjectiles, if_neg atMost]
          exact trivial
      | succ fuel =>
          rw [fireProjectiles, if_neg atMost]
          exact trivial
  | take exceeds _ ih =>
      rw [← saved] at exceeds
      cases fuel with
      | zero => exact absurd enough (Nat.not_succ_le_zero _)
      | succ fuel =>
          rw [fireProjectiles, if_pos exceeds]
          apply ih (Nat.le_of_succ_le_succ enough)
          exact congrArg (· - shotInterval) saved

omit others in
theorem GameState.fireAtInterval_drains {type : TowerType F} {amount rest : F}
    {count targetEnemyIdx : Nat} {targetEnemy : Enemy F} {tower : Tower F}
    (drained : type.Drains amount count rest)
    (enough : count ≤ fuel) {towerNext : Tower F} (saved : towerNext.timeSinceLastShot = amount) :
    Avoids fault (fun _ => True)
      (fireAtInterval type (reciprocal type.shotsPerSecond) targetEnemyIdx targetEnemy tower fuel
        towerNext frame) := by
  cases interval : reciprocal type.shotsPerSecond with
  | some shotInterval =>
      rw [TowerType.Drains, interval] at drained
      exact fireProjectiles_drains drained enough saved
  | none => exact trivial

variable [Glm F] {platform : Platform F R} {delta : F}

omit [Arithmetic F] [Glm F] others in
theorem GameState.sortRange_terminates (less : Nat → Nat → Bool) (range : List Nat) :
    Avoids .outOfFuel (fun _ => True) (sortRange platform less range) := by
  rw [sortRange]
  split
  · exact trivial
  · exact Fault.noConfusion

/-- The iteration of a tower whose time and length of the step are drained only
fails by an access outside the bounds, or where its enemies cannot be sorted. -/
theorem GameState.updateTower_avoids_others {tower : Tower F}
    (sorts : ∀ (enemies : List (Enemy F)) (slots : List Nat),
      (∀ slot ∈ slots, slot < enemies.length) →
      Avoids fault (fun _ => True) (sortRange platform (closerToGoal enemies) slots))
    (drains : ∀ type, mapData.towerTypes[tower.typeIdx]? = some type →
      ∃ count rest, type.Drains (tower.timeSinceLastShot + delta) count rest ∧ count ≤ fuel) :
    Avoids fault (fun _ => True) (updateTower platform mapData delta fuel frame tower) := by
  rw [updateTower]
  apply Avoids.bind (readAt_avoids_others others _ _)
  intro type typed
  dsimp only
  split
  · exact trivial
  · apply Avoids.bind (Avoids.forM fun index _ => (readAt_avoids_others others _ index).discard)
    intro _ _
    apply Avoids.bind (sorts _ _ fun slot member => GameState.mem_queryEnemiesInRadius member)
    intro sorted _
    apply Avoids.bind (readAt_avoids_others others _ _)
    intro targetEnemyIdx _
    apply Avoids.bind (readAt_avoids_others others _ _)
    intro targetEnemy _
    obtain ⟨count, rest, drained, enough⟩ := drains type typed
    apply Avoids.bind (fireAtInterval_drains drained enough rfl)
    intro _ _
    exact trivial

omit others in
/-- The iteration of a tower ends when its time and the length of the step are
drained. -/
theorem GameState.updateTower_terminates {tower : Tower F}
    (drains : ∀ type, mapData.towerTypes[tower.typeIdx]? = some type →
      ∃ count rest, type.Drains (tower.timeSinceLastShot + delta) count rest ∧ count ≤ fuel) :
    Avoids .outOfFuel (fun _ => True) (updateTower platform mapData delta fuel frame tower) :=
  updateTower_avoids_others (by simp) (fun _ _ _ => sortRange_terminates _ _) drains

end Termination

/-! ## The other loops -/

section Loops

variable [Arithmetic F] {mapData : MapData F} {frame : Frame F R}
variable {fault : Fault} (others : Fault.outOfBounds ≠ fault)

include others

omit [Arithmetic F] in
theorem readBack_avoids_others {α : Type} (items : List α) :
    Avoids fault (fun _ => True) (readBack items) := by
  rw [readBack]
  cases items.getLast? with
  | none =>
      exact others
  | some item => exact trivial

namespace GameState

theorem applyDamageToEnemy_avoids_others (direct : Bool) (projectile : Projectile F)
    (type : ProjectileType F) (enemyIndex : Nat) :
    Avoids fault (fun _ => True)
      (applyDamageToEnemy mapData direct projectile type frame enemyIndex) := by
  rw [applyDamageToEnemy]
  apply Avoids.bind (readAt_avoids_others others _ _)
  intro enemy _
  dsimp only
  split
  · apply Avoids.bind (readAt_avoids_others others _ _)
    intro enemyType _
    exact trivial
  · exact trivial

theorem detonate_avoids_others (projNext : Projectile F) (type : ProjectileType F) (alive : Bool)
    (target : Vec2 F) :
    Avoids fault (fun _ => True) (detonate mapData projNext type alive target frame) := by
  have direct : ∀ state : Frame F R, Avoids fault (fun _ => True)
      (damageTarget mapData projNext type alive state) := by
    intro state
    rw [damageTarget]
    split
    · exact applyDamageToEnemy_avoids_others others _ _ _ _
    · exact trivial
  apply Avoids.bind (direct _)
  intro hit _
  rw [damageSplash]
  split
  · exact trivial
  · apply Avoids.foldlM (fun _ => True) trivial
    intro index state _ _
    exact applyDamageToEnemy_avoids_others others _ _ _ _

omit [Arithmetic F] in
theorem setupEnemy_avoids_others (enemyTypes : List (EnemyType F)) (typeIdx : Nat)
    (path : EnemyPath F) (outEnemy : Enemy F) :
    Avoids fault (fun _ => True) (setupEnemy enemyTypes typeIdx path outEnemy) := by
  apply Avoids.bind (readAt_avoids_others others _ _)
  intro _ _
  apply Avoids.bind (readAt_avoids_others others _ _)
  intro _ _
  apply Avoids.bind (readAt_avoids_others others _ _)
  intro _ _
  exact trivial

theorem executeCommand_avoids_others (platform : Platform F R) (command : GameCommand F) :
    Avoids fault (fun _ => True) (executeCommand platform mapData frame command) := by
  cases command with
  | debugSpawnEnemy enemyType =>
      apply Avoids.bind (readAt_avoids_others others _ _)
      intro type _
      apply Avoids.bind (setupEnemy_avoids_others others _ _ _ _)
      intro enemy _
      exact trivial
  | debugDespawnAllEnemies => exact trivial
  | debugAddGold amount => exact trivial
  | buildTower towerType position =>
      apply Avoids.bind (readAt_avoids_others others _ _)
      intro type _
      dsimp only
      split
      · exact trivial
      · exact trivial

theorem enemyLeaves_avoids_others (enemy : Enemy F) :
    Avoids fault (fun _ => True) (enemyLeaves mapData enemy) := by
  rw [enemyLeaves]
  split
  · exact trivial
  · apply Avoids.bind (readBack_avoids_others others _)
    intro _ _
    exact trivial

variable [Glm F] {initial : GameState F R} {delta : F}

theorem advanceEnemy_avoids_others (enemy : Enemy F) (slot : Nat) :
    Avoids fault (fun _ => True) (advanceEnemy mapData initial delta enemy slot) := by
  apply Avoids.bind (readAt_avoids_others others _ _)
  intro _ _
  apply Avoids.bind (readAt_avoids_others others _ _)
  intro _ _
  apply Avoids.bind (readAt_avoids_others others _ _)
  intro _ _
  apply Avoids.bind (readAt_avoids_others others _ _)
  intro _ _
  exact trivial

theorem moveEnemy_avoids_others (entry : Enemy F × Nat) :
    Avoids fault (fun _ => True) (moveEnemy mapData initial delta frame entry) := by
  apply Avoids.bind (enemyLeaves_avoids_others others entry.1)
  intro leaves _
  cases leaves with
  | true => exact trivial
  | false =>
      apply Avoids.bind (advanceEnemy_avoids_others others entry.1 entry.2)
      intro enemyNext _
      exact trivial

omit [Arithmetic F] [Glm F] in
theorem aimProjectile_avoids_others (enemies : List (Enemy F)) (proj : Projectile F) :
    Avoids fault (fun _ => True) (aimProjectile enemies proj) := by
  apply Avoids.bind (readAt_avoids_others others _ _)
  intro _ _
  exact trivial

theorem updateProjectile_avoids_others (proj : Projectile F) :
    Avoids fault (fun _ => True) (updateProjectile mapData delta frame proj) := by
  rw [updateProjectile]
  split
  · exact trivial
  · apply Avoids.bind (aimProjectile_avoids_others others _ _)
    intro aimed _
    apply Avoids.bind (readAt_avoids_others others _ _)
    intro type _
    dsimp only
    split
    · exact trivial
    · exact detonate_avoids_others others _ _ _ _

/-- A step in which every tower's time and the length of the step are drained only fails by an
access outside the bounds, or where enemies cannot be sorted. -/
theorem timeStep_avoids_others {platform : Platform F R} {commands : List (GameCommand F)}
    {fuel : Nat}
    (sorts : ∀ (enemies : List (Enemy F)) (slots : List Nat),
      (∀ slot ∈ slots, slot < enemies.length) →
      Avoids fault (fun _ => True) (sortRange platform (closerToGoal enemies) slots))
    (drains : ∀ tower ∈ initial.towers, ∀ type, mapData.towerTypes[tower.typeIdx]? = some type →
      ∃ count rest, type.Drains (tower.timeSinceLastShot + delta) count rest ∧ count ≤ fuel) :
    Avoids fault (fun _ => True)
      (timeStep platform mapData initial commands delta fuel frame) := by
  rw [timeStep]
  have moves : ∀ state : Frame F R, Avoids fault (fun _ => True)
      (moveEnemies mapData initial delta state) := by
    intro state
    apply Avoids.foldlM (fun _ => True) trivial
    intro entry reached _ _
    exact moveEnemy_avoids_others others entry
  apply Avoids.bind (moves _)
  intro moved _
  have fires : Avoids fault (fun _ => True)
      (updateTowers platform mapData delta fuel initial moved) := by
    apply Avoids.foldlM (fun _ => True) trivial
    intro tower reached member _
    exact updateTower_avoids_others others sorts (drains tower member)
  apply Avoids.bind fires
  intro fired _
  have hits : Avoids fault (fun _ => True)
      (updateProjectiles mapData delta initial fired) := by
    apply Avoids.foldlM (fun _ => True) trivial
    intro proj reached _ _
    exact updateProjectile_avoids_others others proj
  apply Avoids.bind hits
  intro struck _
  apply Avoids.foldlM (fun _ => True) trivial
  intro command reached _ _
  exact executeCommand_avoids_others others platform command

omit others in
/-- A step ends when every tower's time and the length of the step are drained. -/
theorem timeStep_terminates {platform : Platform F R} {commands : List (GameCommand F)}
    {fuel : Nat}
    (drains : ∀ tower ∈ initial.towers, ∀ type, mapData.towerTypes[tower.typeIdx]? = some type →
      ∃ count rest, type.Drains (tower.timeSinceLastShot + delta) count rest ∧ count ≤ fuel) :
    Avoids .outOfFuel (fun _ => True)
      (timeStep platform mapData initial commands delta fuel frame) :=
  timeStep_avoids_others (by simp) (fun _ _ _ => sortRange_terminates _ _) drains

end GameState

end Loops

/-! ## Sessions -/

section Sessions

variable [Field F] [LinearOrder F] [IsStrictOrderedRing F]

/-- A tower that fires has saved at most one interval. -/
def TowerType.Saves (type : TowerType F) (time : F) : Prop :=
  0 < type.shotsPerSecond → 0 ≤ time ∧ time ≤ 1 / type.shotsPerSecond

/-- A bound on the shots of one step, for towers that have saved at most one
interval. -/
theorem TowerType.exists_shots_bound [Archimedean F] (type : TowerType F)
    (nonnegRate : 0 ≤ type.shotsPerSecond)
    {delta : F} (nonneg : 0 ≤ delta) :
    ∃ bound : Nat, ∀ time : F, type.Saves time →
      ∃ count rest, type.Drains (time + delta) count rest ∧ count ≤ bound := by
  rcases nonnegRate.eq_or_lt with isZero | positive
  · exact ⟨0, fun time _ => ⟨0, _, (drains_of_eq_zero isZero.symm).mpr ⟨rfl, rfl⟩, le_rfl⟩⟩
  have interval : 0 < 1 / type.shotsPerSecond := one_div_pos.mpr positive
  obtain ⟨bound, bounded⟩ := Archimedean.arch (1 / type.shotsPerSecond + delta) interval
  refine ⟨bound, fun time saves => ?_⟩
  obtain ⟨timeNonneg, saved⟩ := saves positive
  obtain ⟨count, rest, drained⟩ := Drained.exists_of_pos interval (time + delta)
  have atMost : time + delta ≤ bound • (1 / type.shotsPerSecond) :=
    (add_le_add_left saved delta).trans bounded
  exact ⟨count, rest, (drains_iff positive.ne').mpr drained,
    drained.count_le interval (add_nonneg timeNonneg nonneg) atMost⟩

/-- One bound for the towers of several types. -/
theorem exists_shots_bound [Archimedean F] {types : List (TowerType F)}
    (rates : ∀ type ∈ types, 0 ≤ type.shotsPerSecond) {delta : F} (nonneg : 0 ≤ delta) :
    ∃ bound : Nat, ∀ type ∈ types, ∀ time : F, type.Saves time →
      ∃ count rest, type.Drains (time + delta) count rest ∧ count ≤ bound := by
  induction types with
  | nil => exact ⟨0, by simp⟩
  | cons type types ih =>
      obtain ⟨here, drainsHere⟩ := type.exists_shots_bound (rates type List.mem_cons_self) nonneg
      obtain ⟨later, drainsLater⟩ := ih fun other member =>
        rates other (List.mem_cons_of_mem _ member)
      refine ⟨max here later, ?_⟩
      intro other member time saves
      cases List.mem_cons.mp member with
      | inl same =>
          subst same
          obtain ⟨count, rest, drained, few⟩ := drainsHere time saves
          exact ⟨count, rest, drained, few.trans (le_max_left _ _)⟩
      | inr isLater =>
          obtain ⟨count, rest, drained, few⟩ := drainsLater other isLater time saves
          exact ⟨count, rest, drained, few.trans (le_max_right _ _)⟩

end Sessions

end TowerDefence
