import TowerDefence.Foundations.Slots
import TowerDefence.Model.Rational
import TowerDefence.Step.Flocking

/-!
# The order of the enemies

The movement loop reads the enemies of the initial state only, and an enemy sees the others as
sums.  What becomes of an enemy therefore does not depend on the order in which the enemies
are stored.
-/

namespace TowerDefence

open Foundations GameState

variable {F R : Type} [Field F] [LinearOrder F]

/-! ## The others in sight -/

namespace Enemy

variable (enemy : Enemy F) (slot : Nat) (enemies : List (Enemy F))

/-- Another enemy is in sight, wherever it is stored. -/
def seesAnother (other : Enemy F) : Bool :=
  !decide (flockSightRange * flockSightRange < lengthSqr (enemy.position - other.position))

theorem map_ahead :
    (enemy.ahead slot enemies.zipIdx).map Prod.fst =
      (enemies.eraseIdx slot).filter fun other =>
        enemy.seesAnother other && decide (other.distanceToGoal < enemy.distanceToGoal) := by
  rw [← filter_zipIdx enemies 0 slot, ahead]
  congr 2
  funext entry
  rw [follows, sees, Bool.and_assoc, Nat.zero_add]
  rfl

theorem map_crowd :
    (enemy.crowd slot enemies.zipIdx).map Prod.fst =
      (enemies.eraseIdx slot).filter fun other =>
        enemy.seesAnother other &&
          decide (lengthSqr (enemy.position - other.position) <
            flockDesiredSpacing * flockDesiredSpacing) := by
  rw [← filter_zipIdx enemies 0 slot, crowd]
  congr 2
  funext entry
  rw [crowdedBy, sees, Bool.and_assoc, Nat.zero_add]
  rfl

end Enemy

/-- Vectors can be added up in any order. -/
theorem foldl_add_perm {α : Type} {items other : List α} (perm : items.Perm other)
    (summand : α → Vec2 F) (start : Vec2 F) :
    items.foldl (fun total item => total + summand item) start =
      other.foldl (fun total item => total + summand item) start :=
  perm.foldl_eq' (fun _ _ _ _ total => Vec2.ext (add_right_comm total.x _ _)
    (add_right_comm total.y _ _)) start

/-! ## What becomes of an enemy -/

section Outcome

variable [Glm F] {mapData : MapData F} {initial : GameState F R} {delta : F}
variable {enemies : List (Enemy F)} {enemy : Enemy F} {slot other : Nat}

/-- The flock around an enemy is the same in every order. -/
theorem flock_perm (perm : enemies.Perm initial.enemies) (stored : enemies[slot]? = some enemy)
    (storedOther : initial.enemies[other]? = some enemy) :
    let flock := enemies.zipIdx.foldl (flockWith enemy slot) ⟨0, 0, 0, 0⟩
    let flockOther := initial.enemies.zipIdx.foldl (flockWith enemy other) ⟨0, 0, 0, 0⟩
    flock.othersInSight = flockOther.othersInSight ∧
      flock.othersCumulativePosition = flockOther.othersCumulativePosition ∧
      flock.pushbackDirection = flockOther.pushbackDirection := by
  have rest := eraseIdx_perm perm stored storedOther
  have ahead : ((enemy.ahead slot enemies.zipIdx).map Prod.fst).Perm
      ((enemy.ahead other initial.enemies.zipIdx).map Prod.fst) := by
    rw [Enemy.map_ahead, Enemy.map_ahead]
    exact rest.filter _
  have crowd : ((enemy.crowd slot enemies.zipIdx).map Prod.fst).Perm
      ((enemy.crowd other initial.enemies.zipIdx).map Prod.fst) := by
    rw [Enemy.map_crowd, Enemy.map_crowd]
    exact rest.filter _
  obtain ⟨counted, summed, pushed⟩ :=
    foldl_flockWith enemy slot enemies.zipIdx (⟨0, 0, 0, 0⟩ : Flock F)
  obtain ⟨countedOther, summedOther, pushedOther⟩ :=
    foldl_flockWith enemy other initial.enemies.zipIdx (⟨0, 0, 0, 0⟩ : Flock F)
  refine ⟨?_, ?_, ?_⟩
  · have sameLength := ahead.length_eq
    rw [List.length_map, List.length_map] at sameLength
    rw [counted, countedOther, sameLength]
  · have sameSum := foldl_add_perm ahead (fun another => another.position) 0
    rw [List.foldl_map, List.foldl_map] at sameSum
    rw [summed, summedOther, sameSum]
  · have sameSum := foldl_add_perm crowd (fun another => enemy.pushback (another, 0)) 0
    rw [List.foldl_map, List.foldl_map] at sameSum
    rw [pushed, pushedOther]
    exact sameSum

theorem advanceEnemy_perm (perm : enemies.Perm initial.enemies)
    (stored : enemies[slot]? = some enemy) (storedOther : initial.enemies[other]? = some enemy) :
    advanceEnemy mapData { initial with enemies } delta enemy slot =
      advanceEnemy mapData initial delta enemy other := by
  obtain ⟨counted, summed, pushed⟩ := flock_perm perm stored storedOther
  simp only [advanceEnemy, counted, summed, pushed]

/-- What becomes of an enemy in its slot: nothing if it leaves. -/
def enemyOutcome (mapData : MapData F) (initial : GameState F R) (delta : F)
    (entry : Enemy F × Nat) : Exec (Option (Enemy F)) := do
  if ← enemyLeaves mapData entry.1 then
    pure none
  else
    let enemyNext ← advanceEnemy mapData initial delta entry.1 entry.2
    pure (some enemyNext)

theorem enemyOutcome_perm (perm : enemies.Perm initial.enemies)
    (stored : enemies[slot]? = some enemy) (storedOther : initial.enemies[other]? = some enemy) :
    enemyOutcome mapData { initial with enemies } delta (enemy, slot) =
      enemyOutcome mapData initial delta (enemy, other) := by
  rw [enemyOutcome, advanceEnemy_perm perm stored storedOther]
  rfl

/-- The body of the movement loop appends what becomes of the enemy. -/
theorem moveEnemy_eq (frame : Frame F R) (entry : Enemy F × Nat) :
    moveEnemy mapData initial delta frame entry =
      (enemyOutcome mapData initial delta entry >>= fun moved =>
        pure { frame with next.enemies := frame.next.enemies ++ moved.toList }) := by
  simp only [moveEnemy, enemyOutcome, List.dropLast_concat]
  cases enemyLeaves mapData entry.1 with
  | error fault => rfl
  | ok leaves =>
      cases leaves with
      | true =>
          exact congrArg (fun enemies => Except.ok { frame with next.enemies := enemies })
            (List.append_nil _).symm
      | false =>
          cases advanceEnemy mapData initial delta entry.1 entry.2 with
          | error fault => rfl
          | ok enemyNext => rfl

/-- The movement loop appends what becomes of the enemies, in their order. -/
theorem foldlM_moveEnemy (entries : List (Enemy F × Nat)) (frame : Frame F R) :
    entries.foldlM (moveEnemy mapData initial delta) frame =
      (entries.mapM (enemyOutcome mapData initial delta) >>= fun moved =>
        pure { frame with next.enemies := frame.next.enemies ++ moved.reduceOption }) := by
  induction entries generalizing frame with
  | nil =>
      exact congrArg (fun enemies => Except.ok { frame with next.enemies := enemies })
        (List.append_nil _).symm
  | cons entry entries ih =>
      rw [List.foldlM_cons, List.mapM_cons, moveEnemy_eq]
      simp only [ih, bind_assoc, pure_bind, List.append_assoc]
      congr 1
      funext moved
      cases moved with
      | none => rfl
      | some enemyNext => rfl

/-- Every enemy has one outcome, whatever order the enemies are stored in: the movement loop
appends the outcomes of the enemies that stay in the order of the enemies. -/
theorem moveEnemies_perm (mapData : MapData F) (initial : GameState F R) (delta : F) :
    ∃ outcome : Enemy F → Exec (Option (Enemy F)),
      ∀ enemies : List (Enemy F), enemies.Perm initial.enemies → ∀ frame : Frame F R,
        moveEnemies mapData { initial with enemies } delta frame =
          (enemies.mapM outcome >>= fun moved =>
            pure { frame with next.enemies := frame.next.enemies ++ moved.reduceOption }) := by
  classical
  refine ⟨fun enemy => enemyOutcome mapData initial delta (enemy, initial.enemies.idxOf enemy),
    fun enemies perm frame => ?_⟩
  rw [moveEnemies, foldlM_moveEnemy, mapM_zipIdx]
  intro enemy slot stored
  refine enemyOutcome_perm perm stored ?_
  have member : enemy ∈ initial.enemies := perm.mem_iff.mp (List.mem_of_getElem? stored)
  rw [List.getElem?_eq_getElem (List.idxOf_lt_length_of_mem member), List.getElem_idxOf]

end Outcome

section Meadow

open Rational

/-- Two enemies in sight of each other. -/
def Rational.vanguard : Enemy ℚ :=
  { Enemy.fresh ℚ with
    id := 1, position := ⟨6, 1 / 4⟩, nextWaypointIdx := 1, distanceToGoal := 94
    remainingHealth := 10 }

def Rational.straggler : Enemy ℚ :=
  { Enemy.fresh ℚ with
    id := 2, position := ⟨5, 0⟩, nextWaypointIdx := 1, distanceToGoal := 95
    remainingHealth := 10 }

/-- A frame in which these enemies are about to move. -/
def Rational.convoy (enemies : List (Enemy ℚ)) : Frame ℚ Nat where
  next :=
    { randomEngine := 0, playerState := ⟨20, 3⟩, enemies, towers := [], projectiles := []
      nextObjectId := 4 }
  enemyQueryStorage := []
  outGameEvents := []
  deeds := []

/-- The two move alike, whichever of them is stored first. -/
theorem convoy_moves : ∃ (lead rear : Enemy ℚ) (frame frame' : Frame ℚ Nat),
    lead.id = 1 ∧ rear.id = 2 ∧ lead.position ≠ vanguard.position ∧
    moveEnemies meadow (convoy [vanguard, straggler]).next 1 (convoy []) = .ok frame ∧
    moveEnemies meadow (convoy [straggler, vanguard]).next 1 (convoy []) = .ok frame' ∧
    frame.next.enemies = [lead, rear] ∧ frame'.next.enemies = [rear, lead] := by
  obtain ⟨frame, executed, checked⟩ := exists_ok_of_succeedsWith
    (moveEnemies meadow (convoy [vanguard, straggler]).next 1 (convoy []))
    (fun frame => decide (frame.next.enemyIds = [1, 2] ∧
      ∀ enemy ∈ frame.next.enemies, enemy.position ≠ vanguard.position))
    (by decide +kernel)
  obtain ⟨ids, moved⟩ := of_decide_eq_true checked
  obtain ⟨outcome, moves⟩ := moveEnemies_perm meadow (convoy [vanguard, straggler]).next 1
  have stored := moves [vanguard, straggler] (.refl _) (convoy [])
  have reordered := moves [straggler, vanguard] (.swap vanguard straggler []) (convoy [])
  change moveEnemies meadow (convoy [vanguard, straggler]).next 1 (convoy []) = _ at stored
  rw [executed, eq_comm] at stored
  simp only [List.mapM_cons, List.mapM_nil, bind_eq_ok, pure_eq_ok] at stored
  obtain ⟨_, ⟨ofVanguard, isVanguard, _, ⟨ofStraggler, isStraggler, _, rfl, rfl⟩, rfl⟩, rfl⟩ :=
    stored
  simp only [List.mapM_cons, List.mapM_nil, isStraggler, isVanguard] at reordered
  have both := congrArg List.length ids
  cases ofVanguard with
  | none => cases ofStraggler <;> cases both
  | some lead =>
      cases ofStraggler with
      | none => cases both
      | some rear =>
          obtain ⟨leadId, rearId⟩ := List.cons.inj ids
          exact ⟨lead, rear, _, _, leadId, (List.cons.inj rearId).1,
            moved lead List.mem_cons_self, executed, reordered, rfl, rfl⟩

end Meadow

end TowerDefence
