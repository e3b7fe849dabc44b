import TowerDefence.Model.MapData
import TowerDefence.Step.Movement

/-!
# Distances along the path

Loading fills `distancesToGoal` from the goal backwards, so that every entry
exceeds the next one by the length of the segment between them.  The loop counter
of the source is an `i32`, which is enough for every path of up to `2 ^ 31`
waypoints.
-/

namespace TowerDefence

open Foundations

variable {F : Type}

/-! ## Loading -/

section Loading

variable [Arithmetic F]

variable [Glm F]

/-- The entry of the `i`-th waypoint exceeds the next one by the length of the
segment between the two waypoints. -/
def EnemyPath.SegmentMeasured (waypoints : List (Vec2 F)) (distancesToGoal : List F) (i : Nat) :
    Prop :=
  ∃ a b following, waypoints[i]? = some a ∧ waypoints[i + 1]? = some b ∧
    distancesToGoal[i + 1]? = some following ∧
    distancesToGoal[i]? = some (following + Glm.distance a b)

/-- The distances measure the way to the last waypoint. -/
structure EnemyPath.Measured (path : EnemyPath F) : Prop where
  length : path.distancesToGoal.length = path.waypoints.length
  segment : ∀ i, i + 1 < path.waypoints.length →
    SegmentMeasured path.waypoints path.distancesToGoal i
  goal : 0 < path.waypoints.length →
    path.distancesToGoal[path.waypoints.length - 1]? = some 0

namespace EnemyPath

variable {waypoints : List (Vec2 F)} {distances filled : List F}

/-- The index of the following waypoint, as long as it is an `i32`. -/
theorem nextIndex_eq {i : Nat} (small : i + 1 < 2 ^ 31) : toUsize (wrapI32 (i + 1)) = i + 1 := by
  rw [wrapI32_of_mem (by omega) (by omega), toUsize]
  omega

theorem loadDistance_measured {i : Nat} (small : i + 1 < 2 ^ 31)
    (executed : loadDistance waypoints distances i = .ok filled) :
    SegmentMeasured waypoints filled i ∧ ∀ j, j ≠ i → filled[j]? = distances[j]? := by
  simp only [loadDistance, bind_eq_ok, readAt_eq_ok, writeAt_eq_ok, nextIndex_eq small] at executed
  rcases executed with ⟨a, foundA, b, foundB, following, foundNext, inBounds, rfl⟩
  constructor
  · refine ⟨a, b, following, foundA, foundB, ?_, ?_⟩
    · rw [List.getElem?_set_ne (by omega)]
      exact foundNext
    · exact List.getElem?_set_self inBounds
  · intro j other
    exact List.getElem?_set_ne (Ne.symm other)

/-- The loop does not touch the entries above its first one. -/
theorem loadDistances_kept (count : Nat) (small : count < 2 ^ 31)
    (executed : (List.range count).reverse.foldlM (loadDistance waypoints) distances = .ok filled)
    {i : Nat} (above : count ≤ i) : filled[i]? = distances[i]? := by
  refine foldlM_invariant (fun written => written[i]? = distances[i]?) executed rfl ?_
  intro j written written' member kept stepped
  rw [List.mem_reverse, List.mem_range] at member
  obtain ⟨_, others⟩ := loadDistance_measured (by omega) stepped
  rw [others i (by omega), kept]

/-- The loop measures the segments from `count - 1` down to the first one. -/
theorem loadDistances_measured (count : Nat) (small : count < 2 ^ 31)
    (executed : (List.range count).reverse.foldlM (loadDistance waypoints) distances = .ok filled)
    (measured : ∀ i, count ≤ i → i + 1 < waypoints.length →
      SegmentMeasured waypoints distances i) :
    ∀ i, i + 1 < waypoints.length → SegmentMeasured waypoints filled i := by
  induction count generalizing distances with
  | zero =>
      cases executed
      exact fun i inside => measured i (Nat.zero_le i) inside
  | succ count ih =>
      rw [List.range_succ, List.reverse_append, List.reverse_singleton, List.singleton_append,
        List.foldlM_cons, bind_eq_ok] at executed
      rcases executed with ⟨written, stepped, continued⟩
      obtain ⟨here, others⟩ := loadDistance_measured small stepped
      apply ih (by omega) continued
      intro i above inside
      by_cases isHere : i = count
      · exact isHere ▸ here
      · obtain ⟨a, b, following, foundA, foundB, foundNext, found⟩ :=
          measured i (by omega) inside
        refine ⟨a, b, following, foundA, foundB, ?_, ?_⟩
        · rw [others (i + 1) (by omega)]
          exact foundNext
        · rw [others i isHere]
          exact found

/-- Up to this size the loop counter starts below the last waypoint. -/
theorem distanceIndices_eq {size : Nat} (short : size ≤ 2 ^ 31) :
    distanceIndices size = (List.range (size - 1)).reverse := by
  have counter : Int.bmod ((size : Int) - 2) (2 ^ 32) = (size : Int) - 2 := by
    apply Int.bmod_eq_of_le
    · omega
    · omega
  rw [distanceIndices, counter]
  congr 2
  omega

/-- A path is loaded from the first polyline of its layer.  The loop starts from the
distances that the object held, cut or filled up to the number of waypoints. -/
theorem load_eq_ok {map : TiledMap F} {outPath path : EnemyPath F}
    (loaded : load map outPath = .ok path) :
    ∃ pathLayer object others, map.requireLayer "Paths" .objectGroup = .ok pathLayer ∧
      pathLayer.getObjectsByType .polyline = object :: others ∧
      path.waypoints = object.polylines.map (loadWaypoint map object) ∧
      (distanceIndices path.waypoints.length).foldlM (loadDistance path.waypoints)
        (resize outPath.distancesToGoal path.waypoints.length 0) = .ok path.distancesToGoal := by
  rw [load, bind_eq_ok] at loaded
  rcases loaded with ⟨pathLayer, found, loaded⟩
  split at loaded
  · cases loaded
  · rename_i object others polylines
    simp only [bind_eq_ok, pure_eq_ok] at loaded
    rcases loaded with ⟨distances, filled, assembled⟩
    subst assembled
    exact ⟨pathLayer, object, others, found, polylines, rfl, filled⟩

/-- A loaded path has a distance for every waypoint, whatever the object held. -/
theorem load_distances {map : TiledMap F} {outPath path : EnemyPath F}
    (loaded : load map outPath = .ok path) :
    path.distancesToGoal.length = path.waypoints.length := by
  obtain ⟨_, _, _, _, _, _, filled⟩ := load_eq_ok loaded
  refine foldlM_invariant (fun written => written.length = path.waypoints.length)
    filled (length_resize _ _ _) ?_
  intro i written written' _ sameLength stepped
  simp only [loadDistance, bind_eq_ok] at stepped
  rcases stepped with ⟨_, _, _, _, _, _, stored⟩
  exact (length_of_writeAt stored).trans sameLength

/-- Loading into a fresh object measures the path. -/
theorem load_measured {map : TiledMap F} {outPath path : EnemyPath F}
    (loaded : load map outPath = .ok path) (fresh : outPath.distancesToGoal = [])
    (short : path.waypoints.length ≤ 2 ^ 31) : path.Measured := by
  obtain ⟨_, _, _, _, _, _, filled⟩ := load_eq_ok loaded
  rw [distanceIndices_eq short, fresh] at filled
  have small : path.waypoints.length - 1 < 2 ^ 31 := by omega
  have segments := loadDistances_measured _ small filled fun i above inside =>
    absurd inside (Nat.not_lt.mpr (Nat.le_add_of_sub_le above))
  refine ⟨load_distances loaded, segments, fun nonempty => ?_⟩
  rw [loadDistances_kept _ small filled (le_refl _), resize, List.take_nil, List.nil_append,
    List.length_nil, Nat.sub_zero, List.getElem?_replicate_of_lt (Nat.sub_lt nonempty Nat.one_pos)]

end EnemyPath

end Loading

/-! ## Distances in exact arithmetic -/

section Exact

variable [Field F] [LinearOrder F] [IsStrictOrderedRing F] [Glm F] {path : EnemyPath F}

/-- The way to the goal does not grow along the path. -/
theorem EnemyPath.Measured.antitone (measured : path.Measured) (exact : ExactLength F)
    {i j : Nat} (ordered : i ≤ j) {far near : F} (foundFar : path.distancesToGoal[i]? = some far)
    (foundNear : path.distancesToGoal[j]? = some near) : near ≤ far := by
  induction j, ordered using Nat.le_induction generalizing near with
  | base =>
      rw [foundFar] at foundNear
      exact le_of_eq (Option.some.inj foundNear).symm
  | succ j _ ih =>
      have inside : j + 1 < path.waypoints.length :=
        measured.length ▸ (List.getElem?_eq_some_iff.mp foundNear).1
      obtain ⟨a, b, following, _, _, foundNext, found⟩ := measured.segment j inside
      rw [foundNear] at foundNext
      cases foundNext
      exact le_trans (le_add_of_nonneg_right (exact.nonneg _)) (ih found)

/-- The way to the goal is nowhere negative. -/
theorem EnemyPath.Measured.nonneg (measured : path.Measured) (exact : ExactLength F) {i : Nat}
    {way : F} (found : path.distancesToGoal[i]? = some way) : 0 ≤ way := by
  have inside : i < path.waypoints.length :=
    measured.length ▸ (List.getElem?_eq_some_iff.mp found).1
  exact measured.antitone exact (Nat.le_pred_of_lt inside) found
    (measured.goal (Nat.zero_lt_of_lt inside))

end Exact

end TowerDefence
