import TowerDefence.Session.GoalDistance
import TowerDefence.Step.PathMeasure

/-!
# Reloading the distances of a path

`EnemyPath::Load` clears the waypoints that the object held, but only resizes its
distances.  The loop over the distances writes all entries but the last, so an entry
that the object already had for the last waypoint stays, and the loop adds it to all
others.
-/

namespace TowerDefence

open Foundations

variable {F : Type}

section Ways

variable [Arithmetic F] [Glm F]

/-- The way along the waypoints to the last of them. -/
def wayToGoal : List (Vec2 F) → F
  | a :: b :: rest => wayToGoal (b :: rest) + Glm.distance a b
  | _ => 0

theorem wayToGoal_drop {waypoints : List (Vec2 F)} {i : Nat} {a b : Vec2 F}
    (foundA : waypoints[i]? = some a) (foundB : waypoints[i + 1]? = some b) :
    wayToGoal (waypoints.drop i) = wayToGoal (waypoints.drop (i + 1)) + Glm.distance a b := by
  obtain ⟨insideA, isA⟩ := List.getElem?_eq_some_iff.mp foundA
  obtain ⟨insideB, isB⟩ := List.getElem?_eq_some_iff.mp foundB
  rw [List.drop_eq_getElem_cons insideA, List.drop_eq_getElem_cons insideB, isA, isB, wayToGoal]

/-- There is no way left at the last waypoint. -/
theorem wayToGoal_last {waypoints : List (Vec2 F)} (nonempty : 0 < waypoints.length) :
    wayToGoal (waypoints.drop (waypoints.length - 1)) = 0 := by
  have single : (waypoints.drop (waypoints.length - 1)).length = 1 := by
    rw [List.length_drop]
    omega
  obtain ⟨last, isLast⟩ := List.length_eq_one_iff.mp single
  rw [isLast]
  rfl

end Ways

namespace EnemyPath

section Loading

variable [Arithmetic F] [Glm F]

/-- Every waypoint has the way from it to the last one as its distance. -/
structure HoldsWays (path : EnemyPath F) : Prop where
  length : path.distancesToGoal.length = path.waypoints.length
  entry : ∀ i, i < path.waypoints.length →
    path.distancesToGoal[i]? = some (wayToGoal (path.waypoints.drop i))

/-- The segment between two waypoints with the right distances is measured. -/
theorem segment_of_entries {waypoints : List (Vec2 F)} {distances : List F} {i : Nat}
    (inside : i + 1 < waypoints.length)
    (here : distances[i]? = some (wayToGoal (waypoints.drop i)))
    (next : distances[i + 1]? = some (wayToGoal (waypoints.drop (i + 1)))) :
    SegmentMeasured waypoints distances i := by
  have foundA := List.getElem?_eq_getElem (Nat.lt_of_succ_lt inside)
  have foundB := List.getElem?_eq_getElem inside
  exact ⟨_, _, _, foundA, foundB, next, wayToGoal_drop foundA foundB ▸ here⟩

/-- A path that holds the ways is measured: the last distance is zero, and each of the
others exceeds the next one by the length of the segment. -/
theorem HoldsWays.measured {path : EnemyPath F} (holds : path.HoldsWays) : path.Measured where
  length := holds.length
  segment i inside :=
    segment_of_entries inside (holds.entry i (Nat.lt_of_succ_lt inside))
      (holds.entry (i + 1) inside)
  goal nonempty := by
    rw [holds.entry _ (Nat.sub_one_lt_of_lt nonempty), wayToGoal_last nonempty]

/-- Measured segments carry a right distance back to the waypoints before. -/
theorem entry_of_segments {waypoints : List (Vec2 F)} {distances : List F} {i j : Nat}
    (segments : ∀ k, k + 1 < waypoints.length → SegmentMeasured waypoints distances k)
    (ordered : i ≤ j) (inside : j < waypoints.length)
    (entry : distances[j]? = some (wayToGoal (waypoints.drop j))) :
    distances[i]? = some (wayToGoal (waypoints.drop i)) := by
  induction j, ordered using Nat.le_induction with
  | base => exact entry
  | succ j _ ih =>
      obtain ⟨a, b, following, foundA, foundB, foundNext, found⟩ := segments j inside
      rw [entry] at foundNext
      cases foundNext
      exact ih (Nat.lt_of_succ_lt inside) (wayToGoal_drop foundA foundB ▸ found)

/-- The loop writes a first part of the entries, and never the last one. -/
theorem length_distanceIndices_le (size : Nat) : (distanceIndices size).length ≤ size - 1 := by
  rw [distanceIndices, List.length_reverse, List.length_range, Int.bmod_def]
  split
  · omega
  · omega

/-- The loop asks for no waypoint beyond those that an `i32` can count. -/
def CounterFits (size : Nat) : Prop := size % 2 ^ 32 ≠ 2 ^ 31 + 1

instance (size : Nat) : Decidable (CounterFits size) := inferInstanceAs (Decidable (_ ≠ _))

theorem counterFits_of_le {size : Nat} (short : size ≤ 2 ^ 31) : CounterFits size := by
  rw [CounterFits]
  omega

theorem length_distanceIndices_lt {size : Nat} (fits : CounterFits size) :
    (distanceIndices size).length < 2 ^ 31 := by
  rw [CounterFits] at fits
  rw [distanceIndices, List.length_reverse, List.length_range, Int.bmod_def]
  split
  · omega
  · omega

theorem distanceIndices_eq_range (size : Nat) :
    distanceIndices size = (List.range (distanceIndices size).length).reverse := by
  rw [distanceIndices, List.length_reverse, List.length_range]

/-- An iteration stays inside of both vectors. -/
theorem loadDistance_succeeds {waypoints : List (Vec2 F)} {distances : List F} {i : Nat}
    (sameLength : distances.length = waypoints.length) (inside : i + 1 < waypoints.length)
    (small : i + 1 < 2 ^ 31) :
    ∃ written, loadDistance waypoints distances i = .ok written ∧
      written.length = waypoints.length := by
  have here : i < waypoints.length := Nat.lt_of_succ_lt inside
  have foundNext := List.getElem?_eq_getElem (sameLength ▸ inside)
  refine ⟨distances.set i
    (distances[i + 1] + Glm.distance waypoints[i] waypoints[i + 1]), ?_, ?_⟩
  · simp only [loadDistance, bind_eq_ok, readAt_eq_ok, writeAt_eq_ok, nextIndex_eq small]
    exact ⟨_, List.getElem?_eq_getElem here, _, List.getElem?_eq_getElem inside, _, foundNext,
      sameLength ▸ here, rfl⟩
  · rw [List.length_set, sameLength]

/-- The loop over the distances stays inside of both vectors. -/
theorem loadDistances_succeeds {waypoints : List (Vec2 F)} {distances : List F}
    (fits : CounterFits waypoints.length) (sameLength : distances.length = waypoints.length) :
    ∃ filled, (distanceIndices waypoints.length).foldlM (loadDistance waypoints) distances =
      .ok filled := by
  apply foldlM_succeeds (fun written : List F => written.length = waypoints.length) sameLength
  intro i written member sameLength
  have bound := length_distanceIndices_le waypoints.length
  have small := length_distanceIndices_lt fits
  rw [distanceIndices_eq_range, List.mem_reverse, List.mem_range] at member
  exact loadDistance_succeeds sameLength (by omega) (by omega)

/-- A path is loaded from every map whose layer of paths holds a polyline that the loop
can count. -/
theorem load_succeeds {map : TiledMap F} {pathLayer : MapLayer F} {object : MapObject F}
    {others : List (MapObject F)} (found : map.requireLayer "Paths" .objectGroup = .ok pathLayer)
    (polylines : pathLayer.getObjectsByType .polyline = object :: others)
    (fits : CounterFits object.polylines.length) (outPath : EnemyPath F) :
    ∃ path, load map outPath = .ok path ∧
      path.waypoints = object.polylines.map (loadWaypoint map object) := by
  have fits : CounterFits (object.polylines.map (loadWaypoint map object)).length := by
    rw [List.length_map]
    exact fits
  obtain ⟨distances, filled⟩ := loadDistances_succeeds fits
    (length_resize outPath.distancesToGoal
      (object.polylines.map (loadWaypoint map object)).length 0)
  refine ⟨{ debugName := object.name, waypoints := object.polylines.map (loadWaypoint map object),
            distancesToGoal := distances }, ?_, rfl⟩
  simp only [load, bind_eq_ok]
  refine ⟨pathLayer, found, ?_⟩
  rw [polylines]
  simp only [bind_eq_ok, pure_eq_ok]
  exact ⟨distances, filled, rfl⟩

/-- What the object held is right at the waypoints that the loop does not reach. -/
def LeftRight (waypoints : List (Vec2 F)) (distances : List F) : Prop :=
  ∀ j, (distanceIndices waypoints.length).length ≤ j → j < waypoints.length →
    (resize distances waypoints.length 0)[j]? = some (wayToGoal (waypoints.drop j))

/-- Loading gives every waypoint its way to the goal exactly when the entries that the
loop does not write held the right ones. -/
theorem load_holdsWays_iff {map : TiledMap F} {outPath path : EnemyPath F}
    (loaded : load map outPath = .ok path) (fits : CounterFits path.waypoints.length) :
    path.HoldsWays ↔ LeftRight path.waypoints outPath.distancesToGoal := by
  obtain ⟨_, _, _, _, _, _, filled⟩ := load_eq_ok loaded
  rw [distanceIndices_eq_range] at filled
  have small := length_distanceIndices_lt fits
  have reached := length_distanceIndices_le path.waypoints.length
  constructor
  · intro holds j above inside
    rw [← loadDistances_kept _ small filled above]
    exact holds.entry j inside
  · intro leftRight
    have segments := loadDistances_measured _ small filled fun i above inside =>
      segment_of_entries inside (leftRight i above (Nat.lt_of_succ_lt inside))
        (leftRight (i + 1) (Nat.le_succ_of_le above) inside)
    refine ⟨load_distances loaded, fun i inside => ?_⟩
    have last : path.waypoints.length - 1 < path.waypoints.length := Nat.sub_one_lt_of_lt inside
    apply entry_of_segments segments (Nat.le_sub_one_of_lt inside) last
    rw [loadDistances_kept _ small filled reached]
    exact leftRight _ reached last

omit [Glm F] in
/-- What `resize` leaves as the last entry. -/
theorem resize_last_iff {distances : List F} {size : Nat} (nonempty : 0 < size) :
    (resize distances size 0)[size - 1]? = some 0 ↔
      distances.length < size ∨ distances[size - 1]? = some 0 := by
  rw [resize]
  by_cases shorter : distances.length < size
  case pos =>
    have fresh : size - 1 - distances.length < size - distances.length := by omega
    rw [List.take_of_length_le (Nat.le_of_lt shorter),
      List.getElem?_append_right (Nat.le_sub_one_of_lt shorter),
      List.getElem?_replicate_of_lt fresh]
    exact iff_of_true rfl (.inl shorter)
  case neg =>
    have last : size - 1 < (distances.take size).length := by
      rw [List.length_take]
      omega
    rw [List.getElem?_append_left last, List.getElem?_take_of_lt (Nat.sub_one_lt_of_lt nonempty)]
    exact ⟨.inr, fun held => held.resolve_left shorter⟩

/-- As long as an `i32` counts the waypoints, all entries but the last are written, and the
last one has to be zero. -/
theorem leftRight_iff {waypoints : List (Vec2 F)} {distances : List F}
    (short : waypoints.length ≤ 2 ^ 31) :
    LeftRight waypoints distances ↔ waypoints.length = 0 ∨ distances.length < waypoints.length ∨
      distances[waypoints.length - 1]? = some 0 := by
  rw [LeftRight, distanceIndices_eq short, List.length_reverse, List.length_range]
  rcases Nat.eq_zero_or_pos waypoints.length with isEmpty | nonempty
  · exact iff_of_true (fun j _ inside => absurd inside (by omega)) (.inl isEmpty)
  · rw [or_iff_right nonempty.ne', ← resize_last_iff nonempty]
    constructor
    · intro leftRight
      rw [leftRight _ (le_refl _) (Nat.sub_one_lt_of_lt nonempty), wayToGoal_last nonempty]
    · intro held j above inside
      have isLast : j = waypoints.length - 1 := by omega
      rw [isLast, held, wayToGoal_last nonempty]

/-- Where the loop asks for a waypoint that an `i32` cannot count, its first iteration reads
outside of the vector. -/
theorem load_overflows {map : TiledMap F} {pathLayer : MapLayer F} {object : MapObject F}
    {others : List (MapObject F)} (found : map.requireLayer "Paths" .objectGroup = .ok pathLayer)
    (polylines : pathLayer.getObjectsByType .polyline = object :: others)
    (overflows : ¬CounterFits object.polylines.length)
    (size : object.polylines.length < 2 ^ 63) (outPath : EnemyPath F) :
    load map outPath = .error .outOfBounds := by
  rw [CounterFits, not_not] at overflows
  have waypoints : (object.polylines.map (loadWaypoint map object)).length =
      object.polylines.length := List.length_map _
  have indices : distanceIndices object.polylines.length =
      (2 ^ 31 - 1) :: (List.range (2 ^ 31 - 1)).reverse := by
    have counter : (Int.bmod ((object.polylines.length : Int) - 2) (2 ^ 32) + 1).toNat =
        2 ^ 31 - 1 + 1 := by
      rw [Int.bmod_def]
      omega
    rw [distanceIndices, counter, List.range_succ, List.reverse_append, List.reverse_singleton,
      List.singleton_append]
  have next : toUsize (wrapI32 ((2 ^ 31 - 1 : Nat) + 1)) = 2 ^ 64 - 2 ^ 31 := by decide
  have here : 2 ^ 31 - 1 < (object.polylines.map (loadWaypoint map object)).length := by omega
  have beyond : (object.polylines.map (loadWaypoint map object))[2 ^ 64 - 2 ^ 31]? = none := by
    rw [List.getElem?_eq_none_iff]
    omega
  have first : ∀ distances, loadDistance (object.polylines.map (loadWaypoint map object)) distances
      (2 ^ 31 - 1) = .error .outOfBounds := by
    intro distances
    rw [loadDistance, next, readAt, List.getElem?_eq_getElem here, readAt, beyond]
    rfl
  simp only [load, found, bind, Except.bind, polylines]
  rw [waypoints, indices, List.foldlM_cons, first]
  rfl

/-- Whatever the object held, a path is loaded from every map whose layer of paths holds
a polyline that the loop can count.  It has the way to the goal as the distance of every
waypoint exactly when the object held no other value at the waypoints that the loop does
not reach.  Up to `2 ^ 31` vertices this is the last one.  A polyline that the loop cannot
count is not loaded. -/
theorem load_distances_iff (map : TiledMap F) (pathLayer : MapLayer F) (object : MapObject F)
    (others : List (MapObject F)) (found : map.requireLayer "Paths" .objectGroup = .ok pathLayer)
    (polylines : pathLayer.getObjectsByType .polyline = object :: others)
    (outPath : EnemyPath F) :
    (CounterFits object.polylines.length →
      ∃ path, load map outPath = .ok path ∧
        (path.HoldsWays ↔
          LeftRight (object.polylines.map (loadWaypoint map object)) outPath.distancesToGoal) ∧
        (object.polylines.length ≤ 2 ^ 31 →
          (path.HoldsWays ↔ object.polylines.length = 0 ∨
            outPath.distancesToGoal.length < object.polylines.length ∨
            outPath.distancesToGoal[object.polylines.length - 1]? = some 0))) ∧
    (¬CounterFits object.polylines.length → object.polylines.length < 2 ^ 63 →
      load map outPath = .error .outOfBounds) := by
  refine ⟨fun fits => ?_, fun overflows size =>
    load_overflows found polylines overflows size outPath⟩
  obtain ⟨path, loaded, waypoints⟩ := load_succeeds found polylines fits outPath
  have count : path.waypoints.length = object.polylines.length := by
    rw [waypoints, List.length_map]
  have holds := load_holdsWays_iff loaded (count ▸ fits)
  refine ⟨path, loaded, waypoints ▸ holds, fun short => ?_⟩
  rw [← count] at short ⊢
  exact holds.trans (leftRight_iff short)

end Loading

/-! ## Exact arithmetic -/

section Exact

variable [Field F] [LinearOrder F] [IsStrictOrderedRing F] [Glm F]

/-- Where the ways are held, the last one is zero and they do not grow along the path. -/
theorem HoldsWays.antitone {path : EnemyPath F} (holds : path.HoldsWays) (exact : ExactLength F)
    {i j : Nat} (ordered : i ≤ j) (inside : j < path.waypoints.length) :
    wayToGoal (path.waypoints.drop j) ≤ wayToGoal (path.waypoints.drop i) :=
  holds.measured.antitone exact ordered (holds.entry i (Nat.lt_of_le_of_lt ordered inside))
    (holds.entry j inside)

end Exact

/-! ## A second map -/

section Reloading

open Rational

/-- The lane, loaded into an object that held the meadow. -/
theorem lane_after_meadow : ∃ path, load laneMap meadow.enemyPath = .ok path ∧ path.HoldsWays := by
  obtain ⟨path, loaded, _, short⟩ :=
    (load_distances_iff laneMap _ _ _ rfl rfl meadow.enemyPath).1 (by decide)
  exact ⟨path, loaded, (short (by decide)).mpr (.inr (.inl (by decide)))⟩

/-- An object that held a longer path is given a shorter one: the goal of the new path
keeps the distance that the old one had there. -/
theorem reloaded_goal_far :
    ∃ first second,
      load laneMap { debugName := "", waypoints := [], distancesToGoal := [] } = .ok first ∧
      load meadowMap first = .ok second ∧
      second.distancesToGoal[second.waypoints.length - 1]? ≠ some 0 ∧ ¬second.HoldsWays := by
  obtain ⟨first, loadedFirst, isLane⟩ := exists_ok_of_succeedsWith
    (load laneMap { debugName := "", waypoints := [], distancesToGoal := [] })
    (fun path => decide (path = laneBoot.mapData.enemyPath)) (by decide +kernel)
  have isLane := of_decide_eq_true isLane
  obtain ⟨second, loadedSecond, checked⟩ := exists_ok_of_succeedsWith
    (load meadowMap laneBoot.mapData.enemyPath)
    (fun path => decide (path.waypoints.length = 2 ∧ path.distancesToGoal = [150, 50]))
    (by decide +kernel)
  obtain ⟨count, distances⟩ := of_decide_eq_true checked
  have goalFar : second.distancesToGoal[second.waypoints.length - 1]? ≠ some 0 := by
    rw [count, distances]
    decide
  refine ⟨first, second, loadedFirst, isLane ▸ loadedSecond, goalFar, fun holds => ?_⟩
  have nonempty : 0 < second.waypoints.length := count ▸ Nat.two_pos
  exact goalFar (holds.measured.goal nonempty)

end Reloading

end EnemyPath

end TowerDefence
