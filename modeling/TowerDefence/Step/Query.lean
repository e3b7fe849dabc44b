import Mathlib.Data.List.Nodup
import TowerDefence.Model.GameState

/-!
# Radius queries

A query reports the slots of the enemies within a radius, in the order of the
list and each of them once.
-/

namespace TowerDefence

variable {F : Type} [Arithmetic F]

/-- `point` lies in the disc of the given centre and radius. -/
def InDisc (centre : Vec2 F) (radius : F) (point : Vec2 F) : Prop :=
  0 ≤ radius ∧ distanceSqr point centre ≤ radius * radius

/-- The enemy is not nearly dead and not farther from `position` than `radius`;
the squares are compared. -/
def Enemy.inRadius (position : Vec2 F) (radius : F) (enemy : Enemy F) : Bool :=
  !isNearlyZero enemy.remainingHealth &&
    decide (distanceSqr enemy.position position ≤ radius * radius)

theorem Enemy.inRadius_iff {position : Vec2 F} {radius : F} {enemy : Enemy F} :
    enemy.inRadius position radius = true ↔ isNearlyZero enemy.remainingHealth = false ∧
      distanceSqr enemy.position position ≤ radius * radius := by
  rw [inRadius, Bool.and_eq_true, Bool.not_eq_true', decide_eq_true_iff]

/-- For a radius that is not negative the test is that of the disc. -/
theorem Enemy.inRadius_iff_inDisc {position : Vec2 F} {radius : F} {enemy : Enemy F}
    (nonneg : 0 ≤ radius) :
    enemy.inRadius position radius = true ↔ isNearlyZero enemy.remainingHealth = false ∧
      InDisc position radius enemy.position := by
  rw [inRadius_iff, InDisc]
  constructor
  · intro near
    exact ⟨near.1, nonneg, near.2⟩
  · intro near
    exact ⟨near.1, near.2.2⟩

namespace GameState

variable {enemies : List (Enemy F)} {position : Vec2 F} {radius : F} {index : Nat}

/-- A query appends the slots that pass its test. -/
theorem queryEnemiesInRadius_eq (enemies : List (Enemy F)) (position : Vec2 F) (radius : F)
    (outResults : List Nat) :
    queryEnemiesInRadius enemies position radius outResults = outResults ++
      (enemies.zipIdx.filter fun entry => entry.1.inRadius position radius).map Prod.snd := by
  rw [queryEnemiesInRadius]
  generalize enemies.zipIdx = entries
  induction entries generalizing outResults with
  | nil => simp
  | cons entry entries ih =>
      rw [List.foldl_cons, ih]
      cases dead : isNearlyZero entry.1.remainingHealth with
      | true => simp [Enemy.inRadius, dead]
      | false =>
          by_cases near : distanceSqr entry.1.position position ≤ radius * radius
          · have reported : Glm.dot (entry.1.position - position)
              (entry.1.position - position) ≤ radius * radius := near
            simp [Enemy.inRadius, dead, near, reported]
          · have missed : ¬Glm.dot (entry.1.position - position)
              (entry.1.position - position) ≤ radius * radius := near
            simp [Enemy.inRadius, dead, near, missed]

theorem mem_queryEnemiesInRadius_iff :
    index ∈ queryEnemiesInRadius enemies position radius [] ↔
      ∃ enemy, enemies[index]? = some enemy ∧ enemy.inRadius position radius = true := by
  rw [queryEnemiesInRadius_eq, List.nil_append, List.mem_map]
  constructor
  · intro reported
    rcases reported with ⟨⟨enemy, slot⟩, member, rfl⟩
    obtain ⟨listed, near⟩ := List.mem_filter.mp member
    exact ⟨enemy, List.mk_mem_zipIdx_iff_getElem?.mp listed, near⟩
  · intro found
    rcases found with ⟨enemy, found, near⟩
    exact ⟨(enemy, index),
      List.mem_filter.mpr ⟨List.mk_mem_zipIdx_iff_getElem?.mpr found, near⟩, rfl⟩

/-- A query returns indices of the vector it was asked about. -/
theorem mem_queryEnemiesInRadius
    (member : index ∈ queryEnemiesInRadius enemies position radius []) :
    index < enemies.length := by
  obtain ⟨enemy, found, _⟩ := mem_queryEnemiesInRadius_iff.mp member
  exact (List.getElem?_eq_some_iff.mp found).1

/-- No slot is reported twice. -/
theorem nodup_queryEnemiesInRadius (enemies : List (Enemy F)) (position : Vec2 F) (radius : F) :
    (queryEnemiesInRadius enemies position radius []).Nodup := by
  rw [queryEnemiesInRadius_eq, List.nil_append]
  have slots : (enemies.zipIdx.map Prod.snd).Nodup := by
    rw [List.zipIdx_map_snd]
    exact List.nodup_range'
  exact slots.sublist (List.filter_sublist.map _)

/-- A query that reports nothing has no enemy to report. -/
theorem queryEnemiesInRadius_eq_nil_iff :
    queryEnemiesInRadius enemies position radius [] = [] ↔
      ∀ enemy ∈ enemies, enemy.inRadius position radius = false := by
  rw [List.eq_nil_iff_forall_not_mem]
  constructor
  · intro nothing enemy member
    rcases List.mem_iff_getElem?.mp member with ⟨slot, found⟩
    have missed := nothing slot
    rw [mem_queryEnemiesInRadius_iff, not_exists] at missed
    exact Bool.eq_false_iff.mpr fun near => missed enemy ⟨found, near⟩
  · intro missed slot reported
    obtain ⟨enemy, found, near⟩ := mem_queryEnemiesInRadius_iff.mp reported
    rw [missed enemy (List.mem_of_getElem? found)] at near
    cases near

end GameState

end TowerDefence
