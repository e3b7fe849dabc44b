import Mathlib.Tactic.Linarith
import TowerDefence.Session.GoalDistance
import TowerDefence.Session.LifeCycle

/-!
# Running past the goal

The distance of an enemy to the goal is measured along the path, from the point of its
segment that is nearest to it.  Whether it has arrived is asked of its own position, with
a tolerance that is much smaller than a step.  An enemy beside the road, or one whose
step carries it over the goal, is at the end of the path without having arrived.
-/

namespace TowerDefence

open Foundations

variable {F R : Type}

/-! ## The nearest point of a segment -/

section Segment

variable [Field F] [LinearOrder F] [Glm F] {a b : Vec2 F}

/-- What `glm::closestPointOnLine` is for on one segment: its result is the point of the
segment that is nearest. -/
structure NearestOnSegment (a b : Vec2 F) : Prop where
  onSegment : ∀ point : Vec2 F, ∃ amount : F, 0 ≤ amount ∧ amount ≤ 1 ∧
    Glm.closestPointOnLine point a b = a + (b - a) * amount
  nearest : ∀ (point : Vec2 F) (amount : F), 0 ≤ amount → amount ≤ 1 →
    distanceSqr point (Glm.closestPointOnLine point a b) ≤
      distanceSqr point (a + (b - a) * amount)

variable [IsStrictOrderedRing F]

omit [Glm F] [IsStrictOrderedRing F] in
/-- How far a point is from one that lies some way before the end of the segment. -/
theorem distanceSqr_before (point a b : Vec2 F) (way : F) :
    distanceSqr point (a + (b - a) * (1 - way)) = distanceSqr point b +
      (2 * way * Glm.dot (point - b) (b - a) + way * way * lengthSqr (b - a)) := by
  simp only [distanceSqr, lengthSqr, Glm.dot, Vec2.sub_x, Vec2.sub_y, Vec2.add_x, Vec2.add_y,
    Vec2.mul_x, Vec2.mul_y]
  ring

omit [Glm F] [IsStrictOrderedRing F] in
theorem segment_end (a b : Vec2 F) : a + (b - a) * (1 - 0 : F) = b := by
  apply Vec2.ext
  · simp only [Vec2.add_x, Vec2.mul_x, Vec2.sub_x]
    ring
  · simp only [Vec2.add_y, Vec2.mul_y, Vec2.sub_y]
    ring

omit [Glm F] in
/-- A quadratic that is nonnegative on the unit interval, and zero at zero, does not start
downwards. -/
theorem nonneg_of_quadratic {slope square : F} (squareNonneg : 0 ≤ square)
    (quadratic : ∀ way : F, 0 ≤ way → way ≤ 1 → 0 ≤ 2 * way * slope + way * way * square) :
    0 ≤ slope := by
  by_contra negative
  rw [not_le] at negative
  rcases le_or_gt square (-slope) with short | long
  · have atEnd := quadratic 1 zero_le_one le_rfl
    linarith
  · have positive : 0 < square := (neg_pos.mpr negative).trans long
    -- the lowest point lies inside the interval
    have atLowest := quadratic (-slope / square)
      (div_nonneg (neg_nonneg.mpr negative.le) squareNonneg) ((div_le_one positive).mpr long.le)
    have value : 2 * (-slope / square) * slope + -slope / square * (-slope / square) * square =
        -(slope * slope / square) := by
      field_simp
      ring
    rw [value, neg_nonneg] at atLowest
    exact absurd atLowest (not_le.mpr (div_pos (mul_pos_of_neg_of_neg negative negative) positive))

/-- Where the end of a segment is the nearest point, the point is beside the end or beyond
it. -/
theorem NearestOnSegment.beyond_of_eq_end (nearest : NearestOnSegment a b) {point : Vec2 F}
    (isEnd : Glm.closestPointOnLine point a b = b) : 0 ≤ Glm.dot (point - b) (b - a) := by
  apply nonneg_of_quadratic (lengthSqr_nonneg (b - a))
  -- no point before the end is nearer
  intro way nonneg atMost
  have farther := nearest.nearest point (1 - way) (sub_nonneg.mpr atMost) (sub_le_self 1 nonneg)
  rw [isEnd, distanceSqr_before] at farther
  linarith

/-- For a point beside the end of a segment, or beyond it, the end is the nearest point. -/
theorem NearestOnSegment.eq_end_of_beyond (nearest : NearestOnSegment a b) {point : Vec2 F}
    (beyond : 0 ≤ Glm.dot (point - b) (b - a)) : Glm.closestPointOnLine point a b = b := by
  obtain ⟨amount, nonneg, atMost, isPoint⟩ := nearest.onSegment point
  obtain ⟨way, rfl⟩ : ∃ way, amount = 1 - way := ⟨1 - amount, (sub_sub_cancel 1 amount).symm⟩
  have closest := nearest.nearest point (1 - 0) (by simp) (by simp)
  rw [segment_end, isPoint, distanceSqr_before] at closest
  have wayNonneg : 0 ≤ way := by linarith
  have detour : way * way * lengthSqr (b - a) = 0 := by
    have ahead := mul_nonneg (mul_nonneg zero_le_two wayNonneg) beyond
    have aside := mul_nonneg (mul_self_nonneg way) (lengthSqr_nonneg (b - a))
    linarith
  rw [isPoint]
  cases mul_eq_zero.mp detour with
  | inl noWay => rw [mul_self_eq_zero.mp noWay, segment_end]
  | inr noLength =>
      rw [lengthSqr_sub_eq_zero_iff.mp noLength]
      apply Vec2.ext
      · simp
      · simp

/-- The end of a segment is the nearest point exactly for the points beside the end and
beyond it. -/
theorem NearestOnSegment.eq_end_iff (nearest : NearestOnSegment a b) (point : Vec2 F) :
    Glm.closestPointOnLine point a b = b ↔ 0 ≤ Glm.dot (point - b) (b - a) :=
  ⟨nearest.beyond_of_eq_end, nearest.eq_end_of_beyond⟩

end Segment

/-! ## Enemies at the end of the path -/

section Enemies

variable [Arithmetic F]

/-- The enemy walks on the last segment of the path, from `a` to `b`. -/
structure Enemy.OnLastSegment (path : EnemyPath F) (enemy : Enemy F) (a b : Vec2 F) : Prop
    extends enemy.OnSegment path a b where
  isLast : enemy.nextWaypointIdx + 1 = path.waypoints.length

/-- The nearest point of the path is the goal. -/
def Enemy.ProjectsToGoal [Glm F] (path : EnemyPath F) (enemy : Enemy F) : Prop :=
  ∃ a b, enemy.OnLastSegment path a b ∧ Glm.closestPointOnLine enemy.position a b = b

/-- The enemy is beside the goal or beyond it. -/
def Enemy.AtOrPastGoal (path : EnemyPath F) (enemy : Enemy F) : Prop :=
  ∃ a b, enemy.OnLastSegment path a b ∧ 0 ≤ Glm.dot (enemy.position - b) (b - a)

instance (path : EnemyPath F) (enemy : Enemy F) : Decidable (enemy.AtOrPastGoal path) :=
  decidable_of_iff
    (∃ a ∈ path.waypoints[u32Pred enemy.nextWaypointIdx]?,
      ∃ b ∈ path.waypoints[enemy.nextWaypointIdx]?,
        enemy.nextWaypointIdx + 1 = path.waypoints.length ∧
          0 ≤ Glm.dot (enemy.position - b) (b - a))
    ⟨fun ⟨a, first, b, last, isLast, beyond⟩ => ⟨a, b, ⟨⟨first, last⟩, isLast⟩, beyond⟩,
      fun ⟨a, b, segment, beyond⟩ =>
        ⟨a, segment.first, b, segment.last, segment.isLast, beyond⟩⟩

instance (mapData : MapData F) (enemy : Enemy F) : Decidable (enemy.AtGoal mapData) :=
  inferInstanceAs (Decidable (∃ goal ∈ mapData.enemyPath.waypoints.getLast?,
    isNearlyZero (distanceSqr enemy.position goal) = true))

end Enemies

namespace World

section Steps

variable [Arithmetic F] [Glm F]

/-- The frames before and after the iteration of the movement loop for the enemy in
`slot`. -/
def enemyFrames (world : World F R) (state : GameState F R) (slot : Nat) :
    Exec (Frame F R × Frame F R) := do
  let before ← (state.enemies.zipIdx.take slot).foldlM
    (GameState.moveEnemy world.mapData state world.fixedDelta)
    (GameState.clearNext state (startFrame state))
  let enemy ← readAt state.enemies slot
  let after ← GameState.moveEnemy world.mapData state world.fixedDelta before (enemy, slot)
  pure (before, after)

/-- The enemy in `slot` is carried into the next state: its iteration appends an enemy,
and no command removes all enemies afterwards. -/
def carriesOver (world : World F R) (state : GameState F R) (commands : List (GameCommand F))
    (slot : Nat) : Bool :=
  match world.enemyFrames state slot with
  | .ok (before, after) =>
      decide (before.next.enemies.length < after.next.enemies.length) &&
        !commands.any GameCommand.despawns
  | .error _ => false

/-- No enemy whose nearest point of the path is the goal is carried over. -/
def StopsAtGoal (world : World F R) (state : GameState F R) (commands : List (GameCommand F)) :
    Prop :=
  ∀ slot enemy, state.enemies[slot]? = some enemy →
    enemy.ProjectsToGoal world.mapData.enemyPath → world.carriesOver state commands slot = false

/-- Every enemy at or past the goal is as near to it as the tolerance demands, or has
almost no health left, unless a command removes all enemies. -/
def MeetsGoal (world : World F R) (state : GameState F R) (commands : List (GameCommand F)) :
    Prop :=
  commands.any GameCommand.despawns = true ∨
    ∀ enemy ∈ state.enemies, enemy.AtOrPastGoal world.mapData.enemyPath →
      isNearlyZero enemy.remainingHealth = true ∨ enemy.AtGoal world.mapData

instance (world : World F R) (state : GameState F R) (commands : List (GameCommand F)) :
    Decidable (world.MeetsGoal state commands) :=
  inferInstanceAs (Decidable (commands.any GameCommand.despawns = true ∨
    ∀ enemy ∈ state.enemies, enemy.AtOrPastGoal world.mapData.enemyPath →
      isNearlyZero enemy.remainingHealth = true ∨ enemy.AtGoal world.mapData))

variable {world : World F R} {state next : GameState F R}

/-- An enemy is not carried over if it leaves, or if a command removes all enemies. -/
theorem carriesOver_eq_false_iff {commands : List (GameCommand F)} {record : StepRecord F}
    {slot : Nat} {enemy : Enemy F} (stepped : world.step state commands = .ok (next, record))
    (found : state.enemies[slot]? = some enemy) :
    world.carriesOver state commands slot = false ↔
      commands.any GameCommand.despawns = true ∨ enemy.Leaves world.mapData := by
  obtain ⟨frame, executed, _, _⟩ := World.step_eq_ok.mp stepped
  obtain ⟨moved, _, _, moves, _, _, _⟩ := GameState.timeStep_eq_ok.mp executed
  have entry : state.enemies.zipIdx[slot]? = some (enemy, slot) := by
    rw [List.getElem?_zipIdx, found]
    simp
  obtain ⟨before, after, reaches, iterated, _⟩ := foldlM_iteration moves entry
  have frames : world.enemyFrames state slot = .ok (before, after) := by
    simp only [enemyFrames, bind_eq_ok, readAt_eq_ok]
    exact ⟨before, reaches, enemy, found, after, iterated, rfl⟩
  rw [carriesOver, frames]
  dsimp only
  cases GameState.moveEnemy_cases iterated with
  | inl dropped =>
      rw [dropped.2, decide_eq_false (Nat.lt_irrefl _), Bool.false_and]
      exact iff_of_true rfl (.inr dropped.1)
  | inr kept =>
      rcases kept with ⟨enemyNext, image, reached⟩
      have longer : before.next.enemies.length < after.next.enemies.length := by
        rw [reached]
        simp
      have remains : ¬enemy.Leaves world.mapData := by
        intro leaves
        have stays : enemyStays world.mapData enemy = true := image.stays
        rw [leaves.not_stays] at stays
        cases stays
      rw [decide_eq_true longer, Bool.true_and, Bool.not_eq_false', or_iff_left remains]

end Steps

section Exact

variable [Field F] [LinearOrder F] [IsStrictOrderedRing F] [Glm F]
variable {world : World F R} {state next : GameState F R}

/-- The nearest point of the path is the goal exactly for the enemies at or past it. -/
theorem projectsToGoal_iff {path : EnemyPath F}
    (nearest : ∀ a ∈ path.waypoints, ∀ b ∈ path.waypoints, NearestOnSegment a b)
    (enemy : Enemy F) : enemy.ProjectsToGoal path ↔ enemy.AtOrPastGoal path := by
  have decides : ∀ a b, enemy.OnLastSegment path a b →
      (Glm.closestPointOnLine enemy.position a b = b ↔
        0 ≤ Glm.dot (enemy.position - b) (b - a)) := fun a b segment =>
    (nearest a (List.mem_of_getElem? segment.first) b
      (List.mem_of_getElem? segment.last)).eq_end_iff enemy.position
  constructor
  · rintro ⟨a, b, segment, isGoal⟩
    exact ⟨a, b, segment, (decides a b segment).mp isGoal⟩
  · rintro ⟨a, b, segment, beyond⟩
    exact ⟨a, b, segment, (decides a b segment).mpr beyond⟩

/-- A step carries no enemy past the goal exactly if all enemies there are near enough to
it. -/
theorem step_stopsAtGoal_iff {commands : List (GameCommand F)} {record : StepRecord F}
    (nearest : ∀ a ∈ world.mapData.enemyPath.waypoints,
      ∀ b ∈ world.mapData.enemyPath.waypoints, NearestOnSegment a b)
    (stepped : world.step state commands = .ok (next, record)) :
    world.StopsAtGoal state commands ↔ world.MeetsGoal state commands := by
  constructor
  · intro stops
    rw [MeetsGoal, or_iff_not_imp_left]
    intro noDespawn enemy member there
    obtain ⟨slot, found⟩ := List.mem_iff_getElem?.mp member
    have notCarried := stops slot enemy found ((projectsToGoal_iff nearest enemy).mpr there)
    rw [carriesOver_eq_false_iff stepped found, or_iff_right noDespawn] at notCarried
    exact Enemy.leaves_iff_atGoal.mp notCarried
  · intro meets slot enemy found there
    rw [carriesOver_eq_false_iff stepped found, Enemy.leaves_iff_atGoal]
    exact meets.imp_right fun near =>
      near enemy (List.mem_of_getElem? found) ((projectsToGoal_iff nearest enemy).mp there)

end Exact

end World

/-- In every session, no step carries an enemy over whose nearest point of the path is the
goal, exactly if in every step each enemy beside the goal or beyond it is as near to it
as the tolerance demands, has almost no health left, or is removed by a command. -/
theorem Boot.play_stopsAtGoal_iff [Field F] [LinearOrder F] [IsStrictOrderedRing F] [Glm F]
    {platform : Platform F R} {fuel : Nat} {boot : Boot F R}
    {batches : List (List (GameCommand F))} {process : Process F R}
    {records : List (StepRecord F)}
    (nearest : ∀ a ∈ boot.mapData.enemyPath.waypoints,
      ∀ b ∈ boot.mapData.enemyPath.waypoints, NearestOnSegment a b)
    (played : boot.play platform fuel batches = .ok (process, records)) :
    EachStep (boot.world platform fuel).step (boot.world platform fuel).StopsAtGoal
        (boot.startState platform) ([] :: batches) ↔
      EachStep (boot.world platform fuel).step (boot.world platform fuel).MeetsGoal
        (boot.startState platform) ([] :: batches) := by
  apply eachStep_iff
  · intro state commands next record stepped
    exact World.step_stopsAtGoal_iff nearest stepped
  · exact (pure_run_of_play platform fuel played).runFrom_eq

section Meadow

open Rational

theorem distanceSqr_le_of_level {point near far : Vec2 ℚ} (level : near.y = far.y)
    (nearer : (point.x - near.x) ^ 2 ≤ (point.x - far.x) ^ 2) :
    distanceSqr point near ≤ distanceSqr point far := by
  simp only [distanceSqr, lengthSqr, Glm.dot, Vec2.sub_x, Vec2.sub_y, level]
  rw [sq, sq] at nearer
  exact add_le_add_left nearer _

/-- The way along a level line, times its length. -/
theorem Rational.along_level (point : Vec2 ℚ) (start finish level : ℚ) :
    Glm.dot (point - ⟨start, level⟩)
        (((⟨finish, level⟩ : Vec2 ℚ) - ⟨start, level⟩) / |finish - start|) * |finish - start| =
      (point.x - start) * (finish - start) := by
  simp only [Glm.dot, Vec2.sub_x, Vec2.sub_y, Vec2.div_x, Vec2.div_y, sub_self, zero_div,
    mul_zero, add_zero]
  by_cases isPoint : finish - start = 0
  · rw [isPoint, zero_div, mul_zero, zero_mul]
  · rw [mul_assoc, div_mul_cancel₀ _ (abs_ne_zero.mpr isPoint)]

/-- Along the x axis, the rational instance finds the nearest point. -/
theorem Rational.nearest_level {a b : Vec2 ℚ} (level : b.y = a.y) : NearestOnSegment a b where
  onSegment point := Rational.closestOnSegment.onSegment point a b
  nearest point amount nonneg atMost := by
    obtain ⟨ax, y⟩ := a
    obtain ⟨bx, _⟩ := b
    cases level
    show distanceSqr point (Rational.closestPointOnLine point ⟨ax, y⟩ ⟨bx, y⟩) ≤ _
    have length : Rational.length ((⟨bx, y⟩ : Vec2 ℚ) - ⟨ax, y⟩) = |bx - ax| := by
      simp [Rational.length]
    have along := Rational.along_level point ax bx y
    rw [Rational.closestPointOnLine, length]
    generalize Glm.dot (point - ⟨ax, y⟩) (((⟨bx, y⟩ : Vec2 ℚ) - ⟨ax, y⟩) / |bx - ax|) = way at *
    have square := abs_mul_abs_self (bx - ax)
    have level : y = ((⟨ax, y⟩ : Vec2 ℚ) + (⟨bx, y⟩ - ⟨ax, y⟩ : Vec2 ℚ) * amount).y := by simp
    split
    case isTrue behind =>
      have away : (point.x - ax) * (bx - ax) ≤ 0 :=
        along ▸ mul_nonpos_of_nonpos_of_nonneg behind (abs_nonneg _)
      apply distanceSqr_le_of_level level
      simp only [Vec2.add_x, Vec2.mul_x, Vec2.sub_x]
      nlinarith [mul_nonneg nonneg (neg_nonneg.mpr away), sq_nonneg ((bx - ax) * amount)]
    case isFalse ahead =>
      split
      case isTrue beyond =>
        have far : (bx - ax) * (bx - ax) ≤ (point.x - ax) * (bx - ax) := by
          rw [← along, ← square]
          exact mul_le_mul_of_nonneg_right beyond (abs_nonneg _)
        apply distanceSqr_le_of_level level
        simp only [Vec2.add_x, Vec2.mul_x, Vec2.sub_x]
        nlinarith [mul_nonneg (sub_nonneg.mpr atMost) (sub_nonneg.mpr far),
          sq_nonneg ((bx - ax) * (1 - amount))]
      case isFalse inside =>
        have long : (0 : ℚ) < |bx - ax| := lt_trans (not_le.mp ahead) (not_le.mp inside)
        have foot : ax + (bx - ax) / |bx - ax| * way = point.x := by
          rw [← eq_div_iff long.ne'] at along
          rw [along, div_mul_div_comm, square]
          have apart : bx - ax ≠ 0 := abs_pos.mp long
          field_simp
          ring
        apply distanceSqr_le_of_level
        · simp
        · simp only [Vec2.add_x, Vec2.mul_x, Vec2.sub_x, Vec2.div_x, foot]
          nlinarith [sq_nonneg (point.x - (ax + (bx - ax) * amount))]

/-- A path of two steps. -/
def Rational.lawn : Boot ℚ Nat :=
  { meadowBoot with
    mapData :=
      { meadow with
        enemyPath :=
          { debugName := "path", waypoints := [⟨0, 0⟩, ⟨2, 0⟩], distancesToGoal := [2, 0] } } }

/-- Until the enemy is beside the goal, nothing is wrong. -/
theorem lawn_stopsAtGoal : ∃ process records,
    lawn.play platform 10 [[.debugSpawnEnemy 0], []] = .ok (process, records) ∧
    process.session.next.enemies.length = 1 ∧
    EachStep (lawn.world platform 10).step (lawn.world platform 10).StopsAtGoal
      (lawn.startState platform) [[], [.debugSpawnEnemy 0], []] := by
  obtain ⟨⟨process, records⟩, played, checked⟩ := exists_ok_of_succeedsWith
    (lawn.play platform 10 [[.debugSpawnEnemy 0], []])
    (fun result => decide (result.1.session.next.enemies.length = 1)) (by decide +kernel)
  have nearest : ∀ a ∈ lawn.mapData.enemyPath.waypoints, ∀ b ∈ lawn.mapData.enemyPath.waypoints,
      NearestOnSegment a b := by
    have level : ∀ point ∈ lawn.mapData.enemyPath.waypoints, point.y = 0 := by decide +kernel
    exact fun a memberA b memberB =>
      Rational.nearest_level ((level b memberB).trans (level a memberA).symm)
  exact ⟨process, records, played, of_decide_eq_true checked,
    (Boot.play_stopsAtGoal_iff nearest played).mpr (by decide +kernel)⟩

/-- Two steps later the enemy is beside the goal, half a unit away from it, and the next
step carries it past the goal. -/
theorem lawn_runs_past : ∃ process records enemy,
    lawn.play platform 10 [[.debugSpawnEnemy 0], [], [], []] = .ok (process, records) ∧
    process.session.prev.enemies = [enemy] ∧ enemy.position = ⟨2, 1 / 2⟩ ∧
    enemy.ProjectsToGoal lawn.mapData.enemyPath ∧
    process.session.next.enemies.map (fun other => (other.id, other.position)) =
      [(enemy.id, ⟨3, 1 / 2⟩)] ∧
    (lawn.world platform 10).carriesOver process.session.prev [] 0 = true := by
  obtain ⟨⟨process, records⟩, played, checked⟩ := exists_ok_of_succeedsWith
    (lawn.play platform 10 [[.debugSpawnEnemy 0], [], [], []])
    (fun result => decide (∃ enemy ∈ result.1.session.prev.enemies,
      result.1.session.prev.enemies = [enemy] ∧ enemy.position = ⟨2, 1 / 2⟩ ∧
      enemy.nextWaypointIdx = 1 ∧
      result.1.session.next.enemies.map (fun other => (other.id, other.position)) =
        [(enemy.id, ⟨3, 1 / 2⟩)] ∧
      (lawn.world platform 10).carriesOver result.1.session.prev [] 0 = true))
    (by decide +kernel)
  obtain ⟨enemy, _, alone, position, waypoint, next, carried⟩ := of_decide_eq_true checked
  refine ⟨process, records, enemy, played, alone, position, ?_, next, carried⟩
  refine ⟨⟨0, 0⟩, ⟨2, 0⟩, ⟨⟨?_, ?_⟩, ?_⟩, ?_⟩
  · rw [waypoint]
    rfl
  · rw [waypoint]
    rfl
  · rw [waypoint]
    rfl
  · rw [position]
    decide +kernel

end Meadow

end TowerDefence
