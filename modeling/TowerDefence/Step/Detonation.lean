import Mathlib.Algebra.Order.Ring.Defs
import TowerDefence.Model.Rational
import TowerDefence.Step.Projectiles
import TowerDefence.Step.Query

/-!
# Detonations

A detonation damages its target directly and then every enemy that a radius query
reports around the target.  The query runs on the list that the direct hit has
changed and does not leave the target out, so a target that survives the direct
hit is struck a second time.
-/

namespace TowerDefence

open Foundations

variable {F R : Type}

/-! ## The enemies after a detonation -/

section Slots

variable [Arithmetic F]

/-- The enemy after losing `damage`. -/
def Enemy.damaged (damage : F) (enemy : Enemy F) : Enemy F :=
  { enemy with remainingHealth := Glm.max 0 (enemy.remainingHealth - damage) }

/-- What the direct hit leaves of the enemy in a slot. -/
def Enemy.afterDirectHit (type : ProjectileType F) (alive : Bool) (targetEnemyIndex slot : Nat)
    (enemy : Enemy F) : Enemy F :=
  if alive = true ∧ slot = targetEnemyIndex then enemy.damaged type.damage else enemy

/-- What the splash leaves of an enemy. -/
def Enemy.afterSplash (type : ProjectileType F) (target : Vec2 F) (enemy : Enemy F) : Enemy F :=
  if isNearlyZero type.splashRadius = false ∧ enemy.inRadius target type.splashRadius = true then
    enemy.damaged type.damage
  else
    enemy

namespace GameState

variable {mapData : MapData F} {type : ProjectileType F} {projectile : Projectile F}
variable {frame frame' : Frame F R} {direct : Bool}

/-- Damage is applied to one slot. -/
theorem applyDamageToEnemy_enemies {slot : Nat}
    (executed : applyDamageToEnemy mapData direct projectile type frame slot = .ok frame')
    (other : Nat) :
    frame'.next.enemies[other]? =
      if other = slot then frame.next.enemies[other]?.map (Enemy.damaged type.damage)
      else frame.next.enemies[other]? := by
  obtain ⟨enemy, applied⟩ := applyDamageToEnemy_applied executed
  have found : frame.next.enemies[slot]? = some enemy := applied.found
  rw [applied.next]
  by_cases same : other = slot
  · subst same
    have inBounds := (List.getElem?_eq_some_iff.mp found).1
    rw [if_pos rfl, found, List.getElem?_set_self inBounds]
    rfl
  · rw [if_neg same, List.getElem?_set_ne fun equal => same equal.symm]

/-- Damage is applied to each of the given slots once. -/
theorem strikeSlots_enemies {slots : List Nat} (distinct : slots.Nodup)
    (executed : slots.foldlM (applyDamageToEnemy mapData direct projectile type) frame =
      .ok frame') (slot : Nat) :
    frame'.next.enemies[slot]? =
      if slot ∈ slots then frame.next.enemies[slot]?.map (Enemy.damaged type.damage)
      else frame.next.enemies[slot]? := by
  induction slots generalizing frame with
  | nil =>
      cases executed
      rw [if_neg List.not_mem_nil]
  | cons first slots ih =>
      obtain ⟨notAgain, distinctRest⟩ := List.nodup_cons.mp distinct
      rw [List.foldlM_cons, bind_eq_ok] at executed
      rcases executed with ⟨middle, struck, continued⟩
      rw [ih distinctRest continued, applyDamageToEnemy_enemies struck]
      by_cases isFirst : slot = first
      · subst isFirst
        simp [notAgain]
      · simp [isFirst]

/-- A detonation strikes the target, and then whatever the query finds in the list
that the direct hit has left. -/
theorem detonate_enemies {alive : Bool} {target : Vec2 F}
    (executed : detonate mapData projectile type alive target frame = .ok frame') (slot : Nat) :
    frame'.next.enemies[slot]? = frame.next.enemies[slot]?.map fun enemy =>
      (enemy.afterDirectHit type alive projectile.targetEnemyIndex slot).afterSplash type
        target := by
  rw [detonate, bind_eq_ok] at executed
  rcases executed with ⟨hit, damaged, splashed⟩
  have afterHit : hit.next.enemies[slot]? = frame.next.enemies[slot]?.map
      (Enemy.afterDirectHit type alive projectile.targetEnemyIndex slot) := by
    rw [damageTarget] at damaged
    split at damaged
    case isTrue isAlive =>
      rw [applyDamageToEnemy_enemies damaged]
      dsimp only
      cases frame.next.enemies[slot]? with
      | none => simp
      | some enemy =>
          by_cases isTarget : slot = projectile.targetEnemyIndex
          · simp [Enemy.afterDirectHit, isAlive, isTarget]
          · simp [Enemy.afterDirectHit, isTarget]
    case isFalse notAlive =>
      cases damaged
      cases frame.next.enemies[slot]? with
      | none => simp
      | some enemy => simp [Enemy.afterDirectHit, notAlive]
  have afterSplash : frame'.next.enemies[slot]? =
      hit.next.enemies[slot]?.map (Enemy.afterSplash type target) := by
    rw [damageSplash] at splashed
    split at splashed
    case isTrue noSplash =>
      cases splashed
      cases frame'.next.enemies[slot]? with
      | none => simp
      | some left => simp [Enemy.afterSplash, noSplash]
    case isFalse splash =>
      have hasSplash : isNearlyZero type.splashRadius = false := Bool.eq_false_iff.mpr splash
      have struck := strikeSlots_enemies
        (nodup_queryEnemiesInRadius hit.next.enemies target type.splashRadius) splashed slot
      simp only [mem_queryEnemiesInRadius_iff] at struck
      rw [struck]
      cases hit.next.enemies[slot]? with
      | none => simp
      | some left =>
          by_cases reached : left.inRadius target type.splashRadius = true
          · simp [Enemy.afterSplash, hasSplash, reached]
          · simp [Enemy.afterSplash, reached]
  rw [afterSplash, afterHit, Option.map_map]
  rfl

end GameState

end Slots

/-! ## Damage exactly once -/

section Exact

variable [Field F] [LinearOrder F]

/-- The detonation is meant to harm the enemy in a slot: it is the living target, or
it lies within the splash radius. -/
def Enemy.Harmed (type : ProjectileType F) (alive : Bool) (target : Vec2 F)
    (targetEnemyIndex slot : Nat) (enemy : Enemy F) : Prop :=
  (alive = true ∧ slot = targetEnemyIndex) ∨
    (isNearlyZero type.splashRadius = false ∧ isNearlyZero enemy.remainingHealth = false ∧
      InDisc target type.splashRadius enemy.position)

/-- Every enemy that is meant to be harmed loses the damage once, and every other
enemy keeps its health. -/
structure DamagesOnce (type : ProjectileType F) (alive : Bool) (target : Vec2 F)
    (targetEnemyIndex : Nat) (enemies enemies' : List (Enemy F)) : Prop where
  length : enemies'.length = enemies.length
  harmed : ∀ slot (enemy : Enemy F), enemies[slot]? = some enemy →
    enemy.Harmed type alive target targetEnemyIndex slot →
    enemies'[slot]? =
      some { enemy with remainingHealth := max 0 (enemy.remainingHealth - type.damage) }
  kept : ∀ slot (enemy : Enemy F), enemies[slot]? = some enemy →
    ¬enemy.Harmed type alive target targetEnemyIndex slot → enemies'[slot]? = some enemy

/-- The projectile has a splash radius and does damage, and its target is still in
its slot with enough health to survive the direct hit. -/
structure Projectile.StrikesTwice (type : ProjectileType F) (enemies : List (Enemy F))
    (proj : Projectile F) : Prop where
  splash : isNearlyZero type.splashRadius = false
  harmful : 0 < type.damage
  survives : ∃ enemy, enemies[proj.targetEnemyIndex]? = some enemy ∧
    enemy.id = proj.targetEnemyId ∧ type.damage + defaultMaxDiff < enemy.remainingHealth

theorem Enemy.damaged_eq (damage : F) (enemy : Enemy F) :
    enemy.damaged damage =
      { enemy with remainingHealth := max 0 (enemy.remainingHealth - damage) } := by
  rw [max_def_lt]
  rfl

variable [IsStrictOrderedRing F]

/-- Who survives a hit with more than a trace of health. -/
theorem Enemy.damaged_healthy_iff {damage : F} {enemy : Enemy F} :
    isNearlyZero (enemy.damaged damage).remainingHealth = false ↔
      damage + defaultMaxDiff < enemy.remainingHealth := by
  rw [Enemy.damaged_eq, isNearlyZero_eq_false_iff, lt_max_iff, lt_sub_iff_add_lt']
  exact or_iff_right (not_lt.mpr defaultMaxDiff_pos.le)

/-- A second hit changes a survivor of the first unless it does no damage. -/
theorem Enemy.damaged_again_iff {damage : F} {enemy : Enemy F} (nonneg : 0 ≤ damage)
    (survives : damage + defaultMaxDiff < enemy.remainingHealth) :
    (enemy.damaged damage).damaged damage = enemy.damaged damage ↔ damage = 0 := by
  have left : defaultMaxDiff < enemy.remainingHealth - damage := lt_sub_iff_add_lt'.mpr survives
  have positive : 0 < enemy.remainingHealth - damage := defaultMaxDiff_pos.trans left
  have health : (enemy.damaged damage).remainingHealth = enemy.remainingHealth - damage := by
    rw [Enemy.damaged_eq]
    exact max_eq_right positive.le
  constructor
  · intro same
    by_contra harmful
    have harms : 0 < damage := lt_of_le_of_ne nonneg (Ne.symm harmful)
    have sameHealth := congrArg (fun struck => struck.remainingHealth) same
    rw [Enemy.damaged_eq, health] at sameHealth
    have smaller : max 0 (enemy.remainingHealth - damage - damage) <
        enemy.remainingHealth - damage := max_lt positive (sub_lt_self _ harms)
    exact absurd sameHealth smaller.ne
  · intro harmless
    rw [Enemy.damaged_eq, Enemy.damaged_eq, harmless]
    simp

/-- Every disc contains its centre. -/
theorem InDisc.centre (centre : Vec2 F) {radius : F} (nonneg : 0 ≤ radius) :
    InDisc centre radius centre := by
  refine ⟨nonneg, ?_⟩
  show (centre.x - centre.x) * (centre.x - centre.x) +
    (centre.y - centre.y) * (centre.y - centre.y) ≤ radius * radius
  rw [sub_self, sub_self, mul_zero, add_zero]
  exact mul_self_nonneg radius

/-- The splash harms what the disc of its radius contains. -/
theorem Enemy.afterSplash_eq {type : ProjectileType F} {target : Vec2 F} {enemy : Enemy F}
    {alive : Bool} {targetEnemyIndex slot : Nat}
    (notTarget : ¬(alive = true ∧ slot = targetEnemyIndex)) :
    (enemy.Harmed type alive target targetEnemyIndex slot →
        enemy.afterSplash type target = enemy.damaged type.damage) ∧
      (¬enemy.Harmed type alive target targetEnemyIndex slot →
        enemy.afterSplash type target = enemy) := by
  have reached_iff : (isNearlyZero type.splashRadius = false ∧
      enemy.inRadius target type.splashRadius = true) ↔
        enemy.Harmed type alive target targetEnemyIndex slot := by
    rw [Harmed, or_iff_right notTarget]
    apply and_congr_right
    intro splash
    exact inRadius_iff_inDisc (defaultMaxDiff_pos.le.trans (isNearlyZero_eq_false_iff.mp splash).le)
  rw [← reached_iff, afterSplash]
  exact ⟨fun reached => if_pos reached, fun missed => if_neg missed⟩

variable [Glm F] {mapData : MapData F} {delta : F} {frame frame' : Frame F R}
variable {proj : Projectile F} {alive : Bool} {target : Vec2 F} {type : ProjectileType F}

omit [IsStrictOrderedRing F] in
theorem Projectile.Aim.detonates (aim : proj.Aim mapData frame.next.enemies alive target type)
    (near : ¬type.speed * delta < Glm.length (target - proj.position))
    (executed : GameState.updateProjectile mapData delta frame proj = .ok frame') :
    GameState.detonate mapData (proj.turned target) type alive target frame = .ok frame' := by
  cases GameState.updateProjectile_step executed with
  | skipped outOfRange => exact absurd aim.inRange (Nat.not_lt.mpr outOfRange)
  | flies other farther =>
      obtain ⟨_, sameTarget, sameType⟩ := aim.unique other
      subst sameTarget sameType
      exact absurd farther near
  | detonates other _ detonated =>
      obtain ⟨sameAlive, sameTarget, sameType⟩ := aim.unique other
      subst sameAlive sameTarget sameType
      exact detonated

omit [Glm F] in
/-- The splash strikes a living target again exactly if the direct hit leaves it
with a health that is not nearly zero. -/
theorem Projectile.Aim.target_afterSplash {enemy : Enemy F}
    (aim : proj.Aim mapData frame.next.enemies alive target type) (isAlive : alive = true)
    (found : frame.next.enemies[proj.targetEnemyIndex]? = some enemy)
    (nonneg : 0 ≤ type.damage) :
    (enemy.damaged type.damage).afterSplash type target = enemy.damaged type.damage ↔
      ¬proj.StrikesTwice type frame.next.enemies := by
  obtain ⟨inSlot, foundSlot, sameAlive, atEnemy⟩ := aim.slot
  rw [found] at foundSlot
  cases foundSlot
  rw [if_pos isAlive] at atEnemy
  have isTarget : enemy.id = proj.targetEnemyId := eq_of_beq (sameAlive.symm.trans isAlive)
  by_cases splash : isNearlyZero type.splashRadius = false
  case neg =>
    rw [Enemy.afterSplash, if_neg fun reached => splash reached.1]
    exact iff_of_true rfl fun twice => splash twice.splash
  case pos =>
    have radius : 0 ≤ type.splashRadius :=
      defaultMaxDiff_pos.le.trans (isNearlyZero_eq_false_iff.mp splash).le
    have inside : InDisc target type.splashRadius (enemy.damaged type.damage).position :=
      atEnemy ▸ InDisc.centre enemy.position radius
    have reached_iff : (enemy.damaged type.damage).inRadius target type.splashRadius = true ↔
        type.damage + defaultMaxDiff < enemy.remainingHealth := by
      rw [Enemy.inRadius_iff_inDisc radius, and_iff_left inside, Enemy.damaged_healthy_iff]
    by_cases survives : type.damage + defaultMaxDiff < enemy.remainingHealth
    case neg =>
      rw [Enemy.afterSplash, if_neg fun reached => survives (reached_iff.mp reached.2)]
      refine iff_of_true rfl fun twice => ?_
      rcases twice.survives with ⟨other, otherFound, _, healthy⟩
      rw [found] at otherFound
      cases otherFound
      exact survives healthy
    case pos =>
      rw [Enemy.afterSplash, if_pos ⟨splash, reached_iff.mpr survives⟩,
        Enemy.damaged_again_iff nonneg survives]
      constructor
      · intro harmless twice
        exact twice.harmful.ne' harmless
      · intro notTwice
        by_contra harmful
        exact notTwice ⟨splash, lt_of_le_of_ne nonneg (Ne.symm harmful), enemy, found, isTarget,
          survives⟩

/-- A detonation damages every enemy that it is meant to harm exactly once, unless
its target survives the direct hit of a projectile with a splash radius: such a
target is struck twice. -/
theorem detonation_damagesOnce_iff
    (aim : proj.Aim mapData frame.next.enemies alive target type)
    (near : ¬type.speed * delta < Glm.length (target - proj.position))
    (nonneg : 0 ≤ type.damage)
    (executed : GameState.updateProjectile mapData delta frame proj = .ok frame') :
    DamagesOnce type alive target proj.targetEnemyIndex frame.next.enemies frame'.next.enemies ↔
      ¬proj.StrikesTwice type frame.next.enemies := by
  have slots := GameState.detonate_enemies (aim.detonates near executed)
  obtain ⟨inSlot, foundSlot, sameAlive, _⟩ := aim.slot
  have afterTarget (isAlive : alive = true) : frame'.next.enemies[proj.targetEnemyIndex]? =
      some ((inSlot.damaged type.damage).afterSplash type target) := by
    rw [slots, foundSlot, Option.map_some, Enemy.afterDirectHit, if_pos ⟨isAlive, rfl⟩]
  constructor
  · intro once twice
    have isAlive : alive = true := by
      rcases twice.survives with ⟨enemy, found, isTarget, _⟩
      rw [foundSlot] at found
      cases found
      rw [sameAlive]
      exact beq_iff_eq.mpr isTarget
    have struckOnce := once.harmed _ inSlot foundSlot (.inl ⟨isAlive, rfl⟩)
    rw [afterTarget isAlive, ← Enemy.damaged_eq] at struckOnce
    exact (aim.target_afterSplash isAlive foundSlot nonneg).mp (Option.some.inj struckOnce) twice
  · intro notTwice
    refine ⟨?_, ?_, ?_⟩
    · exact Enemy.length_eq_of_bodies
        ((GameState.updateProjectile_step executed).carries.1.bodies)
    · intro slot enemy found harmed
      rw [← Enemy.damaged_eq]
      by_cases isTarget : alive = true ∧ slot = proj.targetEnemyIndex
      case pos =>
        rcases isTarget with ⟨isAlive, rfl⟩
        rw [foundSlot] at found
        cases found
        rw [afterTarget isAlive, (aim.target_afterSplash isAlive foundSlot nonneg).mpr notTwice]
      case neg =>
        rw [slots, found, Option.map_some, Enemy.afterDirectHit]
        have unhit : ¬(alive = true ∧ slot = (proj.turned target).targetEnemyIndex) := isTarget
        rw [if_neg unhit, (Enemy.afterSplash_eq isTarget).1 harmed]
    · intro slot enemy found spared
      have unhit : ¬(alive = true ∧ slot = (proj.turned target).targetEnemyIndex) :=
        fun isTarget => spared (.inl isTarget)
      rw [slots, found, Option.map_some, Enemy.afterDirectHit, if_neg unhit,
        (Enemy.afterSplash_eq unhit).2 spared]

end Exact

section Meadow

open Rational

/-- A projectile with a splash radius. -/
def Rational.mortar : ProjectileType ℚ where
  name := "mortar_Projectile"
  tileId := 5
  damage := 3
  speed := 4
  splashRadius := 2
  hitTileId := 6

def Rational.barrage : MapData ℚ := { meadow with projectileTypes := [mortar] }

/-- A shell that has reached its target, an enemy with the given health; of the two
other enemies one is within the splash radius. -/
def Rational.shell : Projectile ℚ := { Projectile.fresh ℚ with id := 3, position := ⟨2, 0⟩ }

def Rational.underFire (health : ℚ) : Frame ℚ Nat where
  next :=
    { randomEngine := 0
      playerState := ⟨20, 3⟩
      enemies :=
        [{ Enemy.fresh ℚ with id := 0, position := ⟨2, 0⟩, remainingHealth := health },
          { Enemy.fresh ℚ with id := 1, position := ⟨3, 0⟩, remainingHealth := 10 },
          { Enemy.fresh ℚ with id := 2, position := ⟨5, 0⟩, remainingHealth := 10 }]
      towers := []
      projectiles := []
      nextObjectId := 4 }
  enemyQueryStorage := []
  outGameEvents := []
  deeds := []

/-- A target that dies of the direct hit is struck once. -/
theorem shell_damagesOnce : ∃ frame' : Frame ℚ Nat,
    GameState.updateProjectile barrage 1 (underFire 3) shell = .ok frame' ∧
    (frame'.next.enemies.map fun enemy => enemy.remainingHealth) = [0, 7, 10] ∧
    DamagesOnce mortar true ⟨2, 0⟩ 0 (underFire 3).next.enemies frame'.next.enemies := by
  obtain ⟨frame', executed, found⟩ := exists_ok_of_succeedsWith
    (GameState.updateProjectile barrage 1 (underFire 3) shell)
    (fun frame' => decide
      ((frame'.next.enemies.map fun enemy => enemy.remainingHealth) = [0, 7, 10]))
    (by decide +kernel)
  refine ⟨frame', executed, of_decide_eq_true found, ?_⟩
  apply (detonation_damagesOnce_iff ⟨by decide, rfl, rfl⟩ (by decide +kernel) (by decide +kernel)
    executed).mpr
  intro twice
  rcases twice.survives with ⟨enemy, inSlot, _, healthy⟩
  cases inSlot
  exact absurd healthy (by decide +kernel)

/-- A target that survives the direct hit loses the damage twice. -/
theorem shell_strikesTwice : ∃ frame' : Frame ℚ Nat,
    GameState.updateProjectile barrage 1 (underFire 10) shell = .ok frame' ∧
    shell.Aim barrage (underFire 10).next.enemies true ⟨2, 0⟩ mortar ∧
    ¬mortar.speed * 1 < Glm.length ((⟨2, 0⟩ : Vec2 ℚ) - shell.position) ∧ 0 ≤ mortar.damage ∧
    ¬DamagesOnce mortar true ⟨2, 0⟩ shell.targetEnemyIndex (underFire 10).next.enemies
      frame'.next.enemies := by
  obtain ⟨frame', executed, found⟩ := exists_ok_of_succeedsWith
    (GameState.updateProjectile barrage 1 (underFire 10) shell)
    (fun frame' => decide
      ((frame'.next.enemies.map fun enemy => enemy.remainingHealth) = [4, 7, 10]))
    (by decide +kernel)
  refine ⟨frame', executed, ⟨by decide, rfl, rfl⟩, by decide +kernel, by decide +kernel, ?_⟩
  intro once
  have target := congrArg (Option.map fun enemy => enemy.remainingHealth)
    (once.harmed 0 _ rfl (.inl ⟨rfl, rfl⟩))
  rw [← List.getElem?_map, of_decide_eq_true found] at target
  exact absurd target (by decide +kernel)

end Meadow

end TowerDefence
