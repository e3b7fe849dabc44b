import TowerDefence.Session.Safety
import TowerDefence.Session.Flight
import TowerDefence.Step.Enemies

/-!
# The distance to the goal

The flocking loop compares the distances to the goal that the movement loop wrote
in the step before.  An enemy that enters the map has not been through that loop:
`SetupEnemy` leaves its distance at zero, which is the distance of the goal itself.
-/

namespace TowerDefence

open Foundations

variable {F R : Type}

/-! ## The distance that the movement loop writes -/

section Movement

variable [Arithmetic F] [Glm F] {mapData : MapData F} {initial : GameState F R} {delta : F}

/-- The next waypoint lies at the goal, and the nearest point of the segment is that
waypoint. -/
def Enemy.AtPathEnd (path : EnemyPath F) (enemy : Enemy F) : Prop :=
  path.distancesToGoal[enemy.nextWaypointIdx]? = some 0 ∧
    ∃ a b, enemy.OnSegment path a b ∧
      Glm.distance (Glm.closestPointOnLine enemy.position a b) b = 0

theorem Enemy.Becomes.distance {entry : Enemy F × Nat} {enemyNext : Enemy F}
    (becomes : Enemy.Becomes mapData initial delta entry enemyNext) :
    ∃ a b following, entry.1.OnSegment mapData.enemyPath a b ∧
      mapData.enemyPath.distancesToGoal[entry.1.nextWaypointIdx]? = some following ∧
      enemyNext.distanceToGoal =
        following + Glm.distance (Glm.closestPointOnLine entry.1.position a b) b := by
  rcases becomes with ⟨image, isImage, sameBody⟩
  have sameDistance : enemyNext.distanceToGoal = image.distanceToGoal :=
    congrArg (fun body => body.distanceToGoal) sameBody
  have advanced := isImage.advanced
  simp only [GameState.advanceEnemy, bind_eq_ok, pure_eq_ok, readAt_eq_ok] at advanced
  rcases advanced with ⟨a, foundA, b, foundB, following, found, enemyType, _, assembled⟩
  exact ⟨a, b, following, ⟨foundA, foundB⟩, found, by rw [sameDistance, ← assembled]⟩

end Movement

/-! ## The bounds -/

section Bounds

variable [Field F] [LinearOrder F]

/-- The distance of the enemy lies between those of its next waypoint and of the
first one. -/
structure Enemy.DistanceBounded (path : EnemyPath F) (enemy : Enemy F) : Prop where
  lower : ∃ nearest, path.distancesToGoal[enemy.nextWaypointIdx]? = some nearest ∧
    nearest ≤ enemy.distanceToGoal
  upper : ∃ farthest, path.distancesToGoal[0]? = some farthest ∧
    enemy.distanceToGoal ≤ farthest

/-- The distances of a state whose enemies are `walked`, which were there before the
last step, and `spawned`, which have just entered: all of them are bounded, and no
enemy that has just entered is taken to be ahead of one that was there before. -/
structure GoalDistances (path : EnemyPath F) (walked spawned : List (Enemy F)) : Prop where
  bounded : ∀ enemy ∈ walked ++ spawned, enemy.DistanceBounded path
  behind : ∀ newcomer ∈ spawned, ∀ enemy ∈ walked,
    ¬newcomer.distanceToGoal < enemy.distanceToGoal

variable [IsStrictOrderedRing F] [Glm F] {mapData : MapData F} {initial : GameState F R} {delta : F}

/-- The image of an enemy is at least as far from the goal as its next waypoint. -/
theorem Enemy.Becomes.nearest_le {entry : Enemy F × Nat} {enemyNext : Enemy F}
    (becomes : Enemy.Becomes mapData initial delta entry enemyNext) (exact : ExactLength F)
    (measured : mapData.enemyPath.Measured) (onPath : entry.1.OnPath mapData.enemyPath) :
    ∃ nearest, mapData.enemyPath.distancesToGoal[enemyNext.nextWaypointIdx]? = some nearest ∧
      nearest ≤ enemyNext.distanceToGoal := by
  obtain ⟨a, b, following, _, found, distance⟩ := becomes.distance
  have inside : enemyNext.nextWaypointIdx < mapData.enemyPath.distancesToGoal.length :=
    measured.length.symm ▸ (becomes.onPath onPath).waypointLt
  have foundNext := List.getElem?_eq_getElem inside
  have notBack : entry.1.nextWaypointIdx ≤ enemyNext.nextWaypointIdx := by
    rcases becomes with ⟨image, isImage, sameBody⟩
    have sameWaypoint : enemyNext.nextWaypointIdx = image.nextWaypointIdx :=
      congrArg (fun body => body.nextWaypointIdx) sameBody
    exact sameWaypoint ▸ isImage.moved.advances.notBack
  refine ⟨_, foundNext, ?_⟩
  calc
    _ ≤ following := measured.antitone exact notBack found foundNext
    _ ≤ enemyNext.distanceToGoal := by
      rw [distance]
      exact le_add_of_nonneg_right (exact.nonneg _)

/-- The image of an enemy is at most as far from the goal as the start of the path: the
nearest point of its segment is not behind the waypoint that the enemy comes from. -/
theorem Enemy.Becomes.le_farthest {entry : Enemy F × Nat} {enemyNext : Enemy F}
    (becomes : Enemy.Becomes mapData initial delta entry enemyNext) (exact : ExactLength F)
    (closest : ClosestOnSegment F) (measured : mapData.enemyPath.Measured)
    (short : mapData.enemyPath.waypoints.length ≤ 2 ^ 32)
    (onPath : entry.1.OnPath mapData.enemyPath) :
    ∃ farthest, mapData.enemyPath.distancesToGoal[0]? = some farthest ∧
      enemyNext.distanceToGoal ≤ farthest := by
  obtain ⟨a, b, following, segment, found, distance⟩ := becomes.distance
  obtain ⟨amount, nonneg, atMost, isPoint⟩ := closest.onSegment entry.1.position a b
  obtain ⟨i, next, first, last⟩ := segment.consecutive onPath short
  have inside : i + 1 < mapData.enemyPath.waypoints.length := next ▸ onPath.waypointLt
  obtain ⟨a', b', following', foundA, foundB, foundNext, foundPrevious⟩ :=
    measured.segment i inside
  rw [first] at foundA
  rw [last] at foundB
  rw [← next, found] at foundNext
  cases foundA
  cases foundB
  cases foundNext
  have start : 0 < mapData.enemyPath.distancesToGoal.length :=
    measured.length.symm ▸ Nat.zero_lt_of_lt inside
  refine ⟨_, List.getElem?_eq_getElem start, ?_⟩
  rw [isPoint, exact.distance_segment a b atMost] at distance
  calc
    enemyNext.distanceToGoal = following + Glm.distance a b * (1 - amount) := distance
    _ ≤ following + Glm.distance a b := by
      apply add_le_add_right
      exact mul_le_of_le_one_right (exact.nonneg (b - a)) (sub_le_self 1 nonneg)
    _ ≤ _ := measured.antitone exact (Nat.zero_le _) (List.getElem?_eq_getElem start)
      foundPrevious

/-- On a measured path the movement loop keeps the distance within its bounds. -/
theorem Enemy.Becomes.distanceBounded {entry : Enemy F × Nat} {enemyNext : Enemy F}
    (becomes : Enemy.Becomes mapData initial delta entry enemyNext)
    (exact : ExactLength F) (closest : ClosestOnSegment F)
    (measured : mapData.enemyPath.Measured)
    (short : mapData.enemyPath.waypoints.length ≤ 2 ^ 32)
    (onPath : entry.1.OnPath mapData.enemyPath) :
    enemyNext.DistanceBounded mapData.enemyPath where
  lower := becomes.nearest_le exact measured onPath
  upper := becomes.le_farthest exact closest measured short onPath

/-- The distance of an image is zero exactly if the enemy was at the end of the path. -/
theorem Enemy.Becomes.distance_le_zero_iff {entry : Enemy F × Nat} {enemyNext : Enemy F}
    (becomes : Enemy.Becomes mapData initial delta entry enemyNext) (exact : ExactLength F)
    (measured : mapData.enemyPath.Measured) :
    enemyNext.distanceToGoal ≤ 0 ↔ entry.1.AtPathEnd mapData.enemyPath := by
  obtain ⟨a, b, following, segment, found, distance⟩ := becomes.distance
  have followingNonneg := measured.nonneg exact found
  have restNonneg := exact.nonneg (b - Glm.closestPointOnLine entry.1.position a b)
  rw [distance]
  constructor
  · intro arrived
    have followingZero : following = 0 :=
      le_antisymm (le_trans (le_add_of_nonneg_right restNonneg) arrived) followingNonneg
    refine ⟨followingZero ▸ found, a, b, segment, ?_⟩
    exact le_antisymm (le_trans (le_add_of_nonneg_left followingNonneg) arrived) restNonneg
  · intro atEnd
    rcases atEnd with ⟨foundZero, a', b', segment', arrived⟩
    have atGoal : following = 0 := Option.some.inj (found.symm.trans foundZero)
    rw [segment.first_unique segment', segment.last_unique segment', arrived, atGoal, add_zero]

end Bounds

/-! ## Sessions -/

section Sessions

/-- Every enemy of a run is on its way to a waypoint. -/
theorem World.run_onPath [Arithmetic F] [Glm F] {world : World F R} {start finish : GameState F R}
    {batches : List (List (GameCommand F))} {records : List (StepRecord F)}
    (run : Run world.step start batches records finish) (empty : start.enemies = []) :
    ∀ enemy ∈ finish.enemies, enemy.OnPath world.mapData.enemyPath := by
  induction run with
  | nil => simp [empty]
  | snoc _ stepped ih =>
      obtain ⟨frame, executed, reached, _⟩ := World.step_eq_ok.mp stepped
      rw [reached]
      exact GameState.timeStep_onPath executed ih

variable [Field F] [LinearOrder F] [IsStrictOrderedRing F] [Glm F]
variable {platform : Platform F R} {fuel : Nat} {boot : Boot F R}
variable {batches : List (List (GameCommand F))} {process : Process F R}
variable {records : List (StepRecord F)}

omit [IsStrictOrderedRing F] [Glm F] in
/-- An enemy that has just entered is within the bounds exactly if the second waypoint
lies at the goal. -/
theorem Enemy.Newcomer.distanceBounded_iff [IsStrictOrderedRing F] [Glm F] {mapData : MapData F}
    {enemy : Enemy F} (newcomer : enemy.Newcomer mapData) (exact : ExactLength F)
    (measured : mapData.enemyPath.Measured) :
    enemy.DistanceBounded mapData.enemyPath ↔ mapData.enemyPath.distancesToGoal[1]? = some 0 := by
  constructor
  · intro bounded
    obtain ⟨nearest, found, atMost⟩ := bounded.lower
    rw [newcomer.nextWaypointIdx] at found
    rw [newcomer.distanceToGoal] at atMost
    rw [found, le_antisymm atMost (measured.nonneg exact found)]
  · intro found
    have start : 0 < mapData.enemyPath.distancesToGoal.length :=
      Nat.zero_lt_of_lt (List.getElem?_eq_some_iff.mp found).1
    constructor
    · exact ⟨0, newcomer.nextWaypointIdx ▸ found, le_of_eq newcomer.distanceToGoal.symm⟩
    · refine ⟨_, List.getElem?_eq_getElem start, ?_⟩
      rw [newcomer.distanceToGoal]
      exact measured.nonneg exact (List.getElem?_eq_getElem start)

/-- All images of a step have arrived exactly if all enemies that stay were at the end of
the path. -/
theorem images_arrived_iff {mapData : MapData F} {initial : GameState F R} {delta : F}
    {images : List (Enemy F)} (exact : ExactLength F) (measured : mapData.enemyPath.Measured)
    (carried : Carried (Enemy.Becomes mapData initial delta) (fun entry => entry.1.Leaves mapData)
      initial.enemies.zipIdx images) :
    (∀ image ∈ images, image.distanceToGoal ≤ 0) ↔
      ∀ enemy ∈ initial.enemies, enemyStays mapData enemy = true →
        enemy.AtPathEnd mapData.enemyPath := by
  constructor
  · intro arrived enemy member stays
    rw [← List.zipIdx_map_fst 0 initial.enemies] at member
    obtain ⟨entry, entryMember, rfl⟩ := List.mem_map.mp member
    cases carried.kept_or_dropped entryMember with
    | inl leaves =>
        rw [leaves.not_stays] at stays
        cases stays
    | inr kept =>
        rcases kept with ⟨image, imageMember, becomes⟩
        exact (becomes.distance_le_zero_iff exact measured).mp (arrived image imageMember)
  · intro atEnd image member
    obtain ⟨entry, entryMember, becomes⟩ := carried.exists_of_mem_images member
    have wasThere := List.fst_mem_of_mem_zipIdx entryMember
    exact (becomes.distance_le_zero_iff exact measured).mpr (atEnd entry.1 wasThere becomes.stays)

/-- When the images of a step and the newcomers behind them are consistent. -/
theorem goalDistances_iff {mapData : MapData F} {initial : GameState F R} {delta : F}
    {images spawned : List (Enemy F)} {commands : List (GameCommand F)} (exact : ExactLength F)
    (measured : mapData.enemyPath.Measured)
    (carried : Carried (Enemy.Becomes mapData initial delta) (fun entry => entry.1.Leaves mapData)
      initial.enemies.zipIdx images)
    (counted : spawned.length = newcomers commands)
    (fresh : ∀ enemy ∈ spawned, enemy.Newcomer mapData)
    (bounded : ∀ enemy ∈ if commands.any GameCommand.despawns then [] else images,
      enemy.DistanceBounded mapData.enemyPath) :
    GoalDistances mapData.enemyPath
        (if commands.any GameCommand.despawns then [] else images) spawned ↔
      newcomers commands = 0 ∨
        mapData.enemyPath.distancesToGoal[1]? = some 0 ∧
          (commands.any GameCommand.despawns = true ∨
            ∀ enemy ∈ initial.enemies, enemyStays mapData enemy = true →
              enemy.AtPathEnd mapData.enemyPath) := by
  rw [← counted, ← images_arrived_iff exact measured carried]
  constructor
  · intro consistent
    cases spawned with
    | nil => exact .inl rfl
    | cons newcomer others =>
        have isNew : newcomer ∈ newcomer :: others := List.mem_cons_self
        have atGoal := ((fresh newcomer isNew).distanceBounded_iff exact measured).mp
          (consistent.bounded newcomer (List.mem_append_right _ isNew))
        refine .inr ⟨atGoal, ?_⟩
        cases despawned : commands.any GameCommand.despawns with
        | true => exact .inl rfl
        | false =>
            refine .inr fun image member => ?_
            have there : image ∈ if commands.any GameCommand.despawns then [] else images := by
              rw [despawned]
              exact member
            have notAhead := consistent.behind newcomer isNew image there
            rw [(fresh newcomer isNew).distanceToGoal, not_lt] at notAhead
            exact notAhead
  · intro condition
    constructor
    · intro enemy member
      cases List.mem_append.mp member with
      | inl old => exact bounded enemy old
      | inr new =>
          have someNew : spawned.length ≠ 0 := List.length_pos_of_mem new |>.ne'
          exact ((fresh enemy new).distanceBounded_iff exact measured).mpr
            (condition.resolve_left someNew).1
    · intro newcomer isNew enemy member
      have someNew : spawned.length ≠ 0 := List.length_pos_of_mem isNew |>.ne'
      rw [(fresh newcomer isNew).distanceToGoal, not_lt]
      split at member
      · cases member
      case isFalse stayed =>
        exact (condition.resolve_left someNew).2.resolve_left stayed enemy member

/-- The goal distances of a session.  On a loaded path whose distances fit the loop
counter of the loader, the distances of all enemies that have been through a step
are bounded.  The distances of the whole state are consistent exactly if no enemy
entered with the last batch, or if the second waypoint lies at the goal and all
enemies that the batch left were at the end of the path. -/
theorem Boot.play_goalDistances {pathMap : TiledMap F} {outPath : EnemyPath F}
    (exact : ExactLength F) (closest : ClosestOnSegment F)
    (pathLoaded : EnemyPath.load pathMap outPath = .ok boot.mapData.enemyPath)
    (fresh : outPath.distancesToGoal = [])
    (short : boot.mapData.enemyPath.waypoints.length ≤ 2 ^ 31)
    (played : boot.play platform fuel batches = .ok (process, records)) :
    ∃ walked spawned : List (Enemy F),
      process.session.next.enemies = walked ++ spawned ∧
      Carried (Enemy.Becomes boot.mapData process.session.prev boot.fixedTimeDelta)
        (fun _ => True) process.session.prev.enemies.zipIdx walked ∧
      (∀ enemy ∈ spawned, enemy.Newcomer boot.mapData) ∧
      spawned.length = newcomers (batches.getLastD []) ∧
      (∀ enemy ∈ walked, enemy.DistanceBounded boot.mapData.enemyPath) ∧
      (GoalDistances boot.mapData.enemyPath walked spawned ↔
        newcomers (batches.getLastD []) = 0 ∨
          boot.mapData.enemyPath.distancesToGoal[1]? = some 0 ∧
            ((batches.getLastD []).any GameCommand.despawns = true ∨
              ∀ enemy ∈ process.session.prev.enemies, enemyStays boot.mapData enemy = true →
                enemy.AtPathEnd boot.mapData.enemyPath)) := by
  have measured := EnemyPath.load_measured pathLoaded fresh short
  obtain ⟨earlier, commands, _, record, split, _, run, stepped⟩ :=
    last_step_of_play platform fuel played
  have last : batches.getLastD [] = commands := by
    rw [← List.getLastD_cons (a := []), split, List.getLastD_concat]
  rw [last]
  have onPath := World.run_onPath run rfl
  obtain ⟨frame, executed, reached, _⟩ := World.step_eq_ok.mp stepped
  obtain ⟨images, spawned, enemies, carried, counted, isNew⟩ :=
    GameState.timeStep_enemies executed
  have bounded : ∀ enemy ∈ if commands.any GameCommand.despawns then [] else images,
      enemy.DistanceBounded boot.mapData.enemyPath := by
    intro enemy member
    split at member
    · cases member
    · obtain ⟨entry, entryMember, becomes⟩ := carried.exists_of_mem_images member
      exact becomes.distanceBounded exact closest measured (short.trans (by norm_num))
        (onPath entry.1 (List.fst_mem_of_mem_zipIdx entryMember))
  have walked : Carried (Enemy.Becomes boot.mapData process.session.prev boot.fixedTimeDelta)
      (fun _ => True) process.session.prev.enemies.zipIdx
      (if commands.any GameCommand.despawns then [] else images) := by
    split
    · exact .drop_all fun _ _ => trivial
    · exact carried.mono (fun _ _ becomes => becomes) fun _ _ => trivial
  exact ⟨_, spawned, reached ▸ enemies, walked, isNew, counted, bounded,
    goalDistances_iff exact measured carried counted isNew bounded⟩

end Sessions

section Meadow

open Rational

theorem Rational.closestOnSegment : ClosestOnSegment ℚ where
  onSegment point a b := by
    show ∃ amount : ℚ, 0 ≤ amount ∧ amount ≤ 1 ∧
      Rational.closestPointOnLine point a b = a + (b - a) * amount
    rw [Rational.closestPointOnLine]
    split
    · refine ⟨0, le_refl 0, zero_le_one, ?_⟩
      apply Vec2.ext
      · simp
      · simp
    · rename_i forwards
      rw [not_le] at forwards
      split
      · refine ⟨1, zero_le_one, le_refl 1, ?_⟩
        apply Vec2.ext
        · simp
        · simp
      · rename_i inside
        rw [not_le] at inside
        have positive := lt_trans forwards inside
        refine ⟨_ / Rational.length (b - a), le_of_lt (div_pos forwards positive),
          (div_le_one positive).mpr (le_of_lt inside), ?_⟩
        apply Vec2.ext
        · simp only [Vec2.add_x, Vec2.mul_x, Vec2.div_x]
          ring
        · simp only [Vec2.add_y, Vec2.mul_y, Vec2.div_y]
          ring

/-- The goal distances of a duel are consistent. -/
theorem duel_goalDistances : ∃ process records walked spawned,
    meadowBoot.play platform 10 ((duel 0 0).take 3) = .ok (process, records) ∧
    process.session.next.enemies = walked ++ spawned ∧ walked ≠ [] ∧
    GoalDistances meadow.enemyPath walked spawned := by
  obtain ⟨⟨process, records⟩, played, checked⟩ := exists_ok_of_succeedsWith
    (meadowBoot.play platform 10 ((duel 0 0).take 3))
    (fun result => decide (result.1.session.next.enemies.length = 1)) (by decide +kernel)
  obtain ⟨walked, spawned, split, _, _, counted, _, consistent⟩ := Boot.play_goalDistances
    Rational.exactLength Rational.closestOnSegment meadow_path_loaded rfl (by decide) played
  refine ⟨process, records, walked, spawned, played, split, ?_, consistent.mpr (.inl rfl)⟩
  intro none
  have oneEnemy := of_decide_eq_true checked
  have noNewcomer : spawned.length = 0 := counted
  rw [split, none, List.nil_append, noNewcomer] at oneEnemy
  cases oneEnemy

/-- The meadow with one more waypoint halfway. -/
def Rational.laneMap : TiledMap ℚ :=
  { meadowMap with
    layers := meadowMap.layers.map fun layer =>
      { layer with
        objects := layer.objects.map fun object =>
          { object with polylines := object.polylines.flatMap fun point =>
              if point = (0, 0) then [(0, 0), (100, 0)] else [point] } } }

def Rational.laneBoot : Boot ℚ Nat :=
  { meadowBoot with
    mapData :=
      { meadow with
        enemyPath :=
          { debugName := "path"
            waypoints := [⟨0, 0⟩, ⟨50, 0⟩, ⟨100, 0⟩]
            distancesToGoal := [100, 50, 0] } } }

/-- An enemy that enters the lane is given the distance of the goal, below that of its
next waypoint, so that the flocking takes it to be ahead of the enemy that entered
before. -/
theorem lane_newcomer_ahead : ∃ process records,
    EnemyPath.load laneMap { debugName := "", waypoints := [], distancesToGoal := [] } =
      .ok laneBoot.mapData.enemyPath ∧
    laneBoot.play platform 10 [[.debugSpawnEnemy 0], [], [.debugSpawnEnemy 0]] =
      .ok (process, records) ∧
    ∃ newcomer ∈ process.session.next.enemies, ∃ enemy ∈ process.session.next.enemies,
      enemy.id ∈ process.session.prev.enemyIds ∧ newcomer.id ∉ process.session.prev.enemyIds ∧
      ¬newcomer.DistanceBounded laneBoot.mapData.enemyPath ∧
      newcomer.distanceToGoal < enemy.distanceToGoal := by
  obtain ⟨path, loaded, samePath⟩ := exists_ok_of_succeedsWith
    (EnemyPath.load laneMap { debugName := "", waypoints := [], distancesToGoal := [] })
    (fun path => decide (path = laneBoot.mapData.enemyPath)) (by decide +kernel)
  rw [of_decide_eq_true samePath] at loaded
  obtain ⟨⟨process, records⟩, played, checked⟩ := exists_ok_of_succeedsWith
    (laneBoot.play platform 10 [[.debugSpawnEnemy 0], [], [.debugSpawnEnemy 0]])
    (fun result => decide (∃ newcomer ∈ result.1.session.next.enemies,
      ∃ enemy ∈ result.1.session.next.enemies, enemy.id ∈ result.1.session.prev.enemyIds ∧
        newcomer.id ∉ result.1.session.prev.enemyIds ∧
        laneBoot.mapData.enemyPath.distancesToGoal[newcomer.nextWaypointIdx]? = some 50 ∧
        newcomer.distanceToGoal = 0 ∧ newcomer.distanceToGoal < enemy.distanceToGoal))
    (by decide +kernel)
  obtain ⟨newcomer, isNew, enemy, member, old, fresh, nearest, zero, ahead⟩ :=
    of_decide_eq_true checked
  refine ⟨process, records, loaded, played, newcomer, isNew, enemy, member, old, fresh, ?_, ahead⟩
  intro bounded
  obtain ⟨lower, found, atMost⟩ := bounded.lower
  rw [nearest] at found
  cases found
  rw [zero] at atMost
  norm_num at atMost

end Meadow

end TowerDefence
