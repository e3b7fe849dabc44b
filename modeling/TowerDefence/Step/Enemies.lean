import TowerDefence.Step.Objects

/-!
# The enemies of a step

The enemies of the next state are the images of those that stay, in their order,
followed by the newcomers of the batch.  Strikes take health only.
-/

namespace TowerDefence

open Foundations

variable {F R : Type} [Arithmetic F] [Glm F]

/-- The enemy in its slot becomes `enemyNext`: its image, up to the health that
strikes take. -/
def Enemy.Becomes (mapData : MapData F) (initial : GameState F R) (delta : F)
    (entry : Enemy F × Nat) (enemyNext : Enemy F) : Prop :=
  ∃ image, GameState.Images mapData initial delta entry image ∧ enemyNext.body = image.body

/-- The segment that the enemy walks along leads from `a` to `b`. -/
structure Enemy.OnSegment (path : EnemyPath F) (enemy : Enemy F) (a b : Vec2 F) : Prop where
  first : path.waypoints[u32Pred enemy.nextWaypointIdx]? = some a
  last : path.waypoints[enemy.nextWaypointIdx]? = some b

omit [Arithmetic F] [Glm F] in
theorem Enemy.OnSegment.first_unique {path : EnemyPath F} {enemy : Enemy F} {a b a' b' : Vec2 F}
    (segment : enemy.OnSegment path a b) (other : enemy.OnSegment path a' b') : a = a' :=
  Option.some.inj (segment.first.symm.trans other.first)

omit [Arithmetic F] [Glm F] in
theorem Enemy.OnSegment.last_unique {path : EnemyPath F} {enemy : Enemy F} {a b a' b' : Vec2 F}
    (segment : enemy.OnSegment path a b) (other : enemy.OnSegment path a' b') : b = b' :=
  Option.some.inj (segment.last.symm.trans other.last)

/-- The enemy is on its way to a waypoint of the path. -/
structure Enemy.OnPath (path : EnemyPath F) (enemy : Enemy F) : Prop where
  waypointPos : 1 ≤ enemy.nextWaypointIdx
  waypointLt : enemy.nextWaypointIdx < path.waypoints.length

omit [Arithmetic F] [Glm F] in
/-- The segment of an enemy on a path joins two consecutive waypoints. -/
theorem Enemy.OnSegment.consecutive {path : EnemyPath F} {enemy : Enemy F} {a b : Vec2 F}
    (segment : enemy.OnSegment path a b) (onPath : enemy.OnPath path)
    (short : path.waypoints.length ≤ 2 ^ 32) :
    ∃ i, enemy.nextWaypointIdx = i + 1 ∧ path.waypoints[i]? = some a ∧
      path.waypoints[i + 1]? = some b := by
  obtain ⟨i, next⟩ := Nat.exists_eq_add_of_le' onPath.waypointPos
  have inside := onPath.waypointLt
  have previous : u32Pred enemy.nextWaypointIdx = i := by
    rw [u32Pred]
    omega
  exact ⟨i, next, previous ▸ segment.first, next ▸ segment.last⟩

variable {platform : Platform F R} {mapData : MapData F} {initial : GameState F R} {delta : F}

theorem Enemy.Becomes.stays {entry : Enemy F × Nat} {enemyNext : Enemy F}
    (becomes : Enemy.Becomes mapData initial delta entry enemyNext) :
    enemyStays mapData entry.1 = true := by
  rcases becomes with ⟨image, isImage, _⟩
  exact isImage.stays

theorem Enemy.Becomes.onPath {entry : Enemy F × Nat} {enemyNext : Enemy F}
    (becomes : Enemy.Becomes mapData initial delta entry enemyNext)
    (onPath : entry.1.OnPath mapData.enemyPath) : enemyNext.OnPath mapData.enemyPath := by
  rcases becomes with ⟨image, isImage, sameBody⟩
  rcases onPath with ⟨pos, lt⟩
  have sameWaypoint : enemyNext.nextWaypointIdx = image.nextWaypointIdx :=
    congrArg (fun body => body.nextWaypointIdx) sameBody
  cases isImage.moved.nextWaypointIdx with
  | inl same => exact ⟨by omega, by omega⟩
  | inr advanced => exact ⟨by omega, by omega⟩

omit [Glm F] in
theorem Enemy.Newcomer.onPath {enemy : Enemy F} (newcomer : enemy.Newcomer mapData) :
    enemy.OnPath mapData.enemyPath := by
  have first := newcomer.nextWaypointIdx
  have waypoints := newcomer.waypoints
  exact ⟨by omega, by omega⟩

namespace GameState

variable {commands : List (GameCommand F)} {fuel : Nat} {frame after : Frame F R}

theorem timeStep_enemies
    (executed : timeStep platform mapData initial commands delta fuel frame = .ok after) :
    ∃ walked spawned, after.next.enemies =
        (if commands.any GameCommand.despawns then [] else walked) ++ spawned ∧
      Carried (Enemy.Becomes mapData initial delta) (fun entry => entry.1.Leaves mapData)
        initial.enemies.zipIdx walked ∧
      spawned.length = newcomers commands ∧ ∀ enemy ∈ spawned, enemy.Newcomer mapData := by
  obtain ⟨moved, fired, struck, moves, fires, hits, commanded⟩ := timeStep_eq_ok.mp executed
  obtain ⟨images, reached, carried⟩ := moveEnemies_images moves
  obtain ⟨spawned, split, counted, fresh⟩ := executeCommands_newcomers commanded
  have bodies : struck.next.enemies.map Enemy.body = images.map Enemy.body := by
    rw [struck_bodies fires hits, reached]
    rfl
  refine ⟨struck.next.enemies, spawned, split, ?_, counted, fresh⟩
  have unharmed : Carried (Enemy.Becomes mapData initial delta)
      (fun entry => entry.1.Leaves mapData) initial.enemies.zipIdx images :=
    carried.mono (fun _ image isImage => ⟨image, isImage, rfl⟩) fun _ leaves => leaves
  apply unharmed.of_key_eq bodies
  intro entry image struckImage becomes sameBody
  rcases becomes with ⟨origin, isImage, originBody⟩
  exact ⟨origin, isImage, sameBody.trans originBody⟩

/-- Every enemy of the next state is on its way to a waypoint if those of the
initial state are. -/
theorem timeStep_onPath
    (executed : timeStep platform mapData initial commands delta fuel frame = .ok after)
    (onPath : ∀ enemy ∈ initial.enemies, enemy.OnPath mapData.enemyPath) :
    ∀ enemy ∈ after.next.enemies, enemy.OnPath mapData.enemyPath := by
  obtain ⟨walked, spawned, split, carried, _, fresh⟩ := timeStep_enemies executed
  intro enemy member
  rw [split] at member
  cases List.mem_append.mp member with
  | inl old =>
      have isWalked : enemy ∈ walked := by
        split at old
        · cases old
        · exact old
      obtain ⟨entry, entryMember, becomes⟩ := carried.exists_of_mem_images isWalked
      exact becomes.onPath (onPath entry.1 (List.fst_mem_of_mem_zipIdx entryMember))
  | inr new => exact (fresh enemy new).onPath

end GameState

end TowerDefence
