import TowerDefence.Model.Entities

/-!
# `GameState::Interpolate`

`InterpolateEntities` is a template over the entity type.  The operations that
the template uses on its parameter are those of `IsEntity`.
-/

namespace TowerDefence

/-- What `InterpolateEntities` needs to know about an entity type: its `Entity`
part, and how to overwrite the position and the rotation. -/
class IsEntity (T : Type) (F : outParam Type) where
  entity : T → Entity F
  withGeometry : T → Vec2 F → F → T
  entity_withGeometry : ∀ item position rotation,
    entity (withGeometry item position rotation) = { entity item with position, rotation }

namespace IsEntity

variable {F : Type}

instance : IsEntity (Enemy F) F where
  entity := Enemy.toEntity
  withGeometry enemy position rotation := { enemy with position, rotation }
  entity_withGeometry _ _ _ := rfl

instance : IsEntity (Tower F) F where
  entity := Tower.toEntity
  withGeometry tower position rotation := { tower with position, rotation }
  entity_withGeometry _ _ _ := rfl

instance : IsEntity (Projectile F) F where
  entity := Projectile.toEntity
  withGeometry projectile position rotation := { projectile with position, rotation }
  entity_withGeometry _ _ _ := rfl

/-- The id of an entity. -/
def idOf {T : Type} [IsEntity T F] (item : T) : Nat := (entity item).id

end IsEntity

open IsEntity

variable {F R T : Type} [Arithmetic F] [Glm F] [IsEntity T F]

/-- The entity that one matching pair contributes. -/
def interpolatePair (amount : F) (a b : T) : T :=
  withGeometry b (Glm.lerp (entity a).position (entity b).position amount)
    (angleLerp (entity a).rotation (entity b).rotation amount)

/-- The loop of `InterpolateEntities`, which every caller uses without an
interpolation function.  Both counters are `u32`; when the ids differ, `j` is
decremented before the loop increments both. -/
def interpolateEntities (prev next : List T) (amount : F) :
    (fuel i j : Nat) → (outInterpolated : List T) → Exec (List T)
  | fuel, i, j, outInterpolated =>
      if i < prev.length ∧ j < next.length then
        match fuel with
        | 0 => .error .outOfFuel
        | fuel + 1 => do
            let a ← readAt prev i
            let b ← readAt next j
            if idOf a ≠ idOf b then
              let j := u32Pred j
              interpolateEntities prev next amount fuel (u32Succ i) (u32Succ j) outInterpolated
            else
              let result := interpolatePair amount a b
              interpolateEntities prev next amount fuel (u32Succ i) (u32Succ j)
                (outInterpolated ++ [result])
      else
        pure outInterpolated

/-- `GameState::Interpolate`.  The random engine and `nextObjectId` of the result
keep what they held. -/
def GameState.interpolate (prevState nextState outState : GameState F R) (amount : F)
    (fuel : Nat) : Exec (GameState F R) := do
  let enemies ← interpolateEntities prevState.enemies nextState.enemies amount fuel 0 0 []
  let towers ← interpolateEntities prevState.towers nextState.towers amount fuel 0 0 []
  let projectiles ←
    interpolateEntities prevState.projectiles nextState.projectiles amount fuel 0 0 []
  pure { outState with playerState := nextState.playerState, enemies, towers, projectiles }

end TowerDefence
