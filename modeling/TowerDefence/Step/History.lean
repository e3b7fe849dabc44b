import Mathlib.Data.List.Perm.Basic
import TowerDefence.Model.GameState

/-!
# Reading the history

What the history of a step says about the objects it created and about the
damage it dealt.
-/

namespace TowerDefence

variable {F : Type}

namespace Deed

/-- The id of a projectile that a tower launched. -/
def launchedId : Deed F → Option Nat
  | .launch _ projectile => some projectile.id
  | _ => none

/-- The id of an enemy that a command spawned. -/
def spawnedId : Deed F → Option Nat
  | .spawn enemy => some enemy.id
  | _ => none

/-- The id of a tower that a command built. -/
def builtId : Deed F → Option Nat
  | .build tower => some tower.id
  | _ => none

/-- The id that was taken from `nextObjectId`. -/
def createdId : Deed F → Option Nat
  | .launch _ projectile => some projectile.id
  | .spawn enemy => some enemy.id
  | .build tower => some tower.id
  | _ => none

/-- The damage application that a deed records. -/
def asStrike : Deed F → Option (Strike F)
  | .strike hit => some hit
  | _ => none

/-- The projectile that detonated. -/
def asDetonation : Deed F → Option (Projectile F)
  | .detonate projectile => some projectile
  | _ => none

end Deed

section Ids

variable (deeds later : List (Deed F))

def launchedIds : List Nat := deeds.filterMap Deed.launchedId
def spawnedIds : List Nat := deeds.filterMap Deed.spawnedId
def builtIds : List Nat := deeds.filterMap Deed.builtId
def createdIds : List Nat := deeds.filterMap Deed.createdId

@[simp] theorem launchedIds_append :
    launchedIds (deeds ++ later) = launchedIds deeds ++ launchedIds later := by
  simp [launchedIds]

@[simp] theorem spawnedIds_append :
    spawnedIds (deeds ++ later) = spawnedIds deeds ++ spawnedIds later := by
  simp [spawnedIds]

@[simp] theorem builtIds_append :
    builtIds (deeds ++ later) = builtIds deeds ++ builtIds later := by
  simp [builtIds]

@[simp] theorem createdIds_append :
    createdIds (deeds ++ later) = createdIds deeds ++ createdIds later := by
  simp [createdIds]

@[simp] theorem ids_spawn (enemy : Enemy F) :
    spawnedIds [.spawn enemy] = [enemy.id] ∧ builtIds [.spawn enemy] = [] ∧
      launchedIds [.spawn enemy] = [] ∧ createdIds [.spawn enemy] = [enemy.id] :=
  ⟨rfl, rfl, rfl, rfl⟩

@[simp] theorem ids_build (tower : Tower F) :
    spawnedIds [.build tower] = [] ∧ builtIds [.build tower] = [tower.id] ∧
      launchedIds [.build tower] = [] ∧ createdIds [.build tower] = [tower.id] :=
  ⟨rfl, rfl, rfl, rfl⟩

theorem spawnedIds_sublist : (spawnedIds deeds).Sublist (createdIds deeds) := by
  induction deeds with
  | nil => exact .slnil
  | cons deed deeds ih =>
      cases deed with
      | spawn enemy => exact ih.cons_cons _
      | launch tower projectile => exact ih.cons _
      | build tower => exact ih.cons _
      | detonate projectile => exact ih
      | strike strike => exact ih

theorem builtIds_sublist : (builtIds deeds).Sublist (createdIds deeds) := by
  induction deeds with
  | nil => exact .slnil
  | cons deed deeds ih =>
      cases deed with
      | build tower => exact ih.cons_cons _
      | launch tower projectile => exact ih.cons _
      | spawn enemy => exact ih.cons _
      | detonate projectile => exact ih
      | strike strike => exact ih

/-- Every created object is an enemy, a tower or a projectile. -/
theorem createdIds_perm :
    (spawnedIds deeds ++ builtIds deeds ++ launchedIds deeds).Perm (createdIds deeds) := by
  induction deeds with
  | nil => exact .nil
  | cons deed deeds ih =>
      cases deed with
      | spawn enemy => exact ih.cons _
      | build tower =>
          have moved := @List.perm_middle _ tower.id (spawnedIds deeds) (builtIds deeds)
          exact (moved.append_right _).trans (ih.cons _)
      | launch tower projectile =>
          have moved := @List.perm_middle _ projectile.id (spawnedIds deeds ++ builtIds deeds)
            (launchedIds deeds)
          exact moved.trans (ih.cons _)
      | detonate projectile => exact ih
      | strike strike => exact ih

theorem launchedIds_subset : launchedIds deeds ⊆ createdIds deeds := by
  intro id member
  exact (createdIds_perm deeds).subset (List.mem_append_right _ member)

theorem ids_eq_nil {deeds : List (Deed F)} (nothing : createdIds deeds = []) :
    spawnedIds deeds = [] ∧ builtIds deeds = [] ∧ launchedIds deeds = [] := by
  have created := createdIds_perm deeds
  rw [nothing, List.perm_nil, List.append_eq_nil_iff, List.append_eq_nil_iff] at created
  exact ⟨created.1.1, created.1.2, created.2⟩

end Ids

/-! ## Damage -/

/-- The damage applications, in order. -/
def strikes (deeds : List (Deed F)) : List (Strike F) := deeds.filterMap Deed.asStrike

@[simp] theorem strikes_append (deeds later : List (Deed F)) :
    strikes (deeds ++ later) = strikes deeds ++ strikes later := by
  simp [strikes]

theorem strikes_single (strike : Strike F) : strikes [.strike strike] = [strike] := rfl

/-- The projectiles that detonated, in order. -/
def detonations (deeds : List (Deed F)) : List (Projectile F) :=
  deeds.filterMap Deed.asDetonation

@[simp] theorem detonations_append (deeds later : List (Deed F)) :
    detonations (deeds ++ later) = detonations deeds ++ detonations later := by
  simp [detonations]

theorem mem_strikes {deeds : List (Deed F)} {strike : Strike F} :
    strike ∈ strikes deeds ↔ .strike strike ∈ deeds := by
  rw [strikes, List.mem_filterMap]
  constructor
  · intro found
    rcases found with ⟨deed, member, equal⟩
    cases deed with
    | strike other =>
        cases equal
        exact member
    | launch _ _ => cases equal
    | detonate _ => cases equal
    | spawn _ => cases equal
    | build _ => cases equal
  · intro member
    exact ⟨_, member, rfl⟩

variable [Arithmetic F]

/-- `enemyDied`, the test by which `applyDamageToEnemy` decides to pay the reward
and to emit `EnemyDied`. -/
def Strike.died (strike : Strike F) : Bool := strike.enemy.remainingHealth ≤ strike.damage

/-- The damage applications that were classified as deaths, in order. -/
def killingStrikes (deeds : List (Deed F)) : List (Strike F) :=
  (strikes deeds).filter Strike.died

@[simp] theorem killingStrikes_append (deeds later : List (Deed F)) :
    killingStrikes (deeds ++ later) = killingStrikes deeds ++ killingStrikes later := by
  simp [killingStrikes]

@[simp] theorem killingStrikes_spawn (enemy : Enemy F) :
    killingStrikes [.spawn enemy] = [] := rfl

@[simp] theorem killingStrikes_build (tower : Tower F) :
    killingStrikes [.build tower] = [] := rfl

@[simp] theorem killingStrikes_detonate (projectile : Projectile F) :
    killingStrikes [.detonate projectile] = [] := rfl

theorem mem_killingStrikes {deeds : List (Deed F)} {strike : Strike F} :
    strike ∈ killingStrikes deeds ↔ .strike strike ∈ deeds ∧ strike.died := by
  rw [killingStrikes, List.mem_filter, mem_strikes]

end TowerDefence
