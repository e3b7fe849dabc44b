import Mathlib.Data.List.Forall2
import TowerDefence.Foundations.Accumulator
import TowerDefence.Foundations.Allocation
import TowerDefence.Step.History
import TowerDefence.Step.Movement

/-!
# The tower loop

Every tower of the initial state is copied, and the towers that find an enemy in
range launch projectiles.  A `Volley` collects what one part of the loop has
appended.
-/

namespace TowerDefence

open Foundations

variable {F R : Type}

/-- What a tower's copy inherits. -/
structure Tower.Copied (tower towerNext : Tower F) : Prop where
  id : towerNext.id = tower.id
  typeIdx : towerNext.typeIdx = tower.typeIdx

/-- A projectile that a tower has just launched at one of `enemies`. -/
structure Projectile.LaunchedBy (mapData : MapData F) (enemies : List (Enemy F))
    (tower : Tower F) (projectile : Projectile F) : Prop where
  typeIdx : ∃ type, mapData.towerTypes[tower.typeIdx]? = some type ∧
    projectile.typeIdx = type.projectileTypeIdx
  target : ∃ enemy, enemies[projectile.targetEnemyIndex]? = some enemy ∧
    projectile.targetEnemyId = enemy.id

/-- The projectiles `shots`, each with the tower that launched it, lead from
`frame` to `frame'`; the towers `copies` were appended on the way. -/
structure Volley (mapData : MapData F) (frame frame' : Frame F R) (copies : List (Tower F))
    (shots : List (Tower F × Projectile F)) : Prop where
  next : frame'.next =
    { frame.next with
      towers := frame.next.towers ++ copies
      projectiles := frame.next.projectiles ++ shots.map Prod.snd
      nextObjectId := frame'.next.nextObjectId }
  allocates : Allocates (2 ^ 32) frame.next.nextObjectId
    (shots.map fun shot => shot.2.id) frame'.next.nextObjectId
  deeds : frame'.deeds = frame.deeds ++ shots.map fun shot => .launch shot.1 shot.2
  events : frame'.outGameEvents = frame.outGameEvents ++
    shots.map fun shot => .projectileLaunched shot.2.position shot.2.typeIdx
  launched : ∀ shot ∈ shots, Projectile.LaunchedBy mapData frame.next.enemies shot.1 shot.2

namespace Volley

variable {mapData : MapData F} {frame middle frame' : Frame F R}
variable {copies laterCopies : List (Tower F)} {shots laterShots : List (Tower F × Projectile F)}

theorem enemies (volley : Volley mapData frame frame' copies shots) :
    frame'.next.enemies = frame.next.enemies := by
  rw [volley.next]

theorem refl (mapData : MapData F) (frame : Frame F R) : Volley mapData frame frame [] [] where
  next := by simp
  allocates := .nil _
  deeds := by simp
  events := by simp
  launched := by simp

theorem trans (first : Volley mapData frame middle copies shots)
    (second : Volley mapData middle frame' laterCopies laterShots) :
    Volley mapData frame frame' (copies ++ laterCopies) (shots ++ laterShots) where
  next := by
    rw [second.next, first.next]
    simp
  allocates := by simpa using first.allocates.append second.allocates
  deeds := by simp [second.deeds, first.deeds]
  events := by simp [second.events, first.events]
  launched := by
    intro shot member
    cases List.mem_append.mp member with
    | inl earlier => exact first.launched shot earlier
    | inr later => exact first.enemies ▸ second.launched shot later

/-- The copy of one tower is appended after its shots. -/
theorem append_copy (volley : Volley mapData frame frame' [] shots) (towerNext : Tower F)
    (storage : List Nat) :
    Volley mapData frame
      { frame' with
        next.towers := frame.next.towers ++ [towerNext], enemyQueryStorage := storage }
      [towerNext] shots where
  next := by
    rw [volley.next]
  allocates := volley.allocates
  deeds := volley.deeds
  events := volley.events
  launched := volley.launched

/-- A volley strikes nobody. -/
theorem strikes_eq (volley : Volley mapData frame frame' copies shots) :
    strikes frame'.deeds = strikes frame.deeds := by
  have noStrike : strikes (shots.map fun shot => Deed.launch shot.1 shot.2) = [] := by
    simp [strikes, List.filterMap_map, Function.comp_def, Deed.asStrike]
  rw [volley.deeds, strikes_append, noStrike, List.append_nil]

/-- A volley emits launch events only. -/
theorem filter_events (volley : Volley mapData frame frame' copies shots)
    {test : GameEvent F → Bool}
    (noLaunch : ∀ position typeIdx, test (.projectileLaunched position typeIdx) = false) :
    frame'.outGameEvents.filter test = frame.outGameEvents.filter test := by
  have noneLeft : (shots.map fun shot => GameEvent.projectileLaunched shot.2.position
      shot.2.typeIdx).filter test = [] := by
    rw [List.filter_eq_nil_iff]
    intro event member
    obtain ⟨shot, _, rfl⟩ := List.mem_map.mp member
    rw [noLaunch]
    exact Bool.false_ne_true
  rw [volley.events, List.filter_append, noneLeft, List.append_nil]

/-- The history of a volley names the ids of its projectiles and nothing else. -/
theorem ids_eq (shots : List (Tower F × Projectile F)) :
    let deeds := shots.map fun shot => Deed.launch shot.1 shot.2
    launchedIds deeds = shots.map (fun shot => shot.2.id) ∧
      createdIds deeds = shots.map (fun shot => shot.2.id) ∧
      spawnedIds deeds = [] ∧ builtIds deeds = [] := by
  induction shots with
  | nil => exact ⟨rfl, rfl, rfl, rfl⟩
  | cons shot shots ih =>
      rcases ih with ⟨launched, created, spawned, built⟩
      exact ⟨congrArg (shot.2.id :: ·) launched, congrArg (shot.2.id :: ·) created, spawned, built⟩

end Volley

/-! ## Turns -/

/-- What the firing loop makes of the time that a tower has saved: `count` shots, and the time
that is left. -/
def TowerType.Drains [Arithmetic F] (type : TowerType F) (time : F) (count : Nat) (rest : F) :
    Prop :=
  match reciprocal type.shotsPerSecond with
  | some shotInterval => Drained shotInterval time count rest
  | none => count = 0 ∧ rest = time

section Rates

variable [Field F] [LinearOrder F] {type : TowerType F} {time rest : F} {count : Nat}

theorem TowerType.drains_iff (nonzero : type.shotsPerSecond ≠ 0) :
    type.Drains time count rest ↔ Drained (1 / type.shotsPerSecond) time count rest := by
  rw [Drains, reciprocal_of_ne_zero nonzero]

/-- A tower without a rate of fire does not fire. -/
theorem TowerType.drains_of_eq_zero (isZero : type.shotsPerSecond = 0) :
    type.Drains time count rest ↔ count = 0 ∧ rest = time := by
  rw [Drains, isZero, reciprocal_zero]

/-- Every shot takes an interval from the time. -/
theorem TowerType.Drains.balance (drains : type.Drains time count rest) :
    count • (1 / type.shotsPerSecond) + rest = time := by
  rcases eq_or_ne type.shotsPerSecond 0 with isZero | nonzero
  · obtain ⟨rfl, rfl⟩ := (drains_of_eq_zero isZero).mp drains
    rw [zero_nsmul, zero_add]
  · exact ((drains_iff nonzero).mp drains).balance

end Rates

/-- What one iteration of the tower loop makes of a tower. -/
structure TowerTurn (F : Type) where
  tower : Tower F
  copy : Tower F
  shots : List (Projectile F)

namespace TowerTurn

/-- The shots with the tower that launched them. -/
def launches (turn : TowerTurn F) : List (Tower F × Projectile F) :=
  turn.shots.map fun projectile => (turn.tower, projectile)

theorem mem_launches {turn : TowerTurn F} {shot : Tower F × Projectile F} :
    shot ∈ turn.launches ↔ shot.1 = turn.tower ∧ shot.2 ∈ turn.shots := by
  simp only [launches, List.mem_map]
  constructor
  · intro launched
    rcases launched with ⟨projectile, member, rfl⟩
    exact ⟨rfl, member⟩
  · intro launched
    exact ⟨shot.2, launched.2, by rw [← launched.1]⟩

theorem launches_snd (turn : TowerTurn F) : turn.launches.map Prod.snd = turn.shots := by
  rw [launches, List.map_map]
  exact List.map_id _

variable [Arithmetic F] [Glm F]

/-- The enemies that a tower finds in its range, by their slots. -/
def query (type : TowerType F) (enemies : List (Enemy F)) (tower : Tower F) : List Nat :=
  GameState.queryEnemiesInRadius enemies tower.position type.range []

/-- The tower aims at the enemy `target` in slot `index` and fires while the time
since its last shot exceeds the interval between shots. -/
structure Engages (platform : Platform F R) (type : TowerType F) (enemies : List (Enemy F))
    (delta : F) (index : Nat) (target : Enemy F) (turn : TowerTurn F) : Prop where
  chosen : (platform.std.sort (GameState.closerToGoal enemies)
    (query type enemies turn.tower))[0]? = some index
  found : enemies[index]? = some target
  copy : turn.copy =
    { turn.tower with
      rotation := vectorAngle (Glm.normalize (target.position - turn.tower.position))
      timeSinceLastShot := turn.copy.timeSinceLastShot }
  drained : type.Drains (turn.tower.timeSinceLastShot + delta) turn.shots.length
    turn.copy.timeSinceLastShot
  aimed : ∀ projectile ∈ turn.shots, projectile.targetEnemyIndex = index ∧
    projectile.targetEnemyId = target.id ∧ projectile.lastEnemyPosition = target.position
  launched : ∀ projectile ∈ turn.shots, projectile.position = turn.tower.position ∧
    projectile.rotation = turn.copy.rotation

/-- The turns that the tower loop can take with a tower: it finds no enemy and is
copied, or it engages one. -/
inductive Follows (platform : Platform F R) (mapData : MapData F) (enemies : List (Enemy F))
    (delta : F) : TowerTurn F → Prop where
  | idle {type : TowerType F} {tower : Tower F} :
      mapData.towerTypes[tower.typeIdx]? = some type → query type enemies tower = [] →
      Follows platform mapData enemies delta ⟨tower, tower, []⟩
  | engages {type : TowerType F} {turn : TowerTurn F} {index : Nat} {target : Enemy F} :
      mapData.towerTypes[turn.tower.typeIdx]? = some type →
      query type enemies turn.tower ≠ [] →
      turn.Engages platform type enemies delta index target →
      Follows platform mapData enemies delta turn

/-- A copy differs from its tower at most in the rotation and the time. -/
theorem Follows.copy_eq {platform : Platform F R} {mapData : MapData F}
    {enemies : List (Enemy F)} {delta : F} {turn : TowerTurn F}
    (follows : turn.Follows platform mapData enemies delta) :
    turn.copy =
      { turn.tower with
        rotation := turn.copy.rotation, timeSinceLastShot := turn.copy.timeSinceLastShot } := by
  cases follows with
  | idle _ _ => rfl
  | engages _ _ engaged =>
      have copied := engaged.copy
      rw [copied]

theorem Follows.copied {platform : Platform F R} {mapData : MapData F}
    {enemies : List (Enemy F)} {delta : F} {turn : TowerTurn F}
    (follows : turn.Follows platform mapData enemies delta) : turn.tower.Copied turn.copy := by
  rw [follows.copy_eq]
  exact ⟨rfl, rfl⟩

end TowerTurn

namespace GameState

variable [Arithmetic F]
variable {platform : Platform F R} {mapData : MapData F} {delta : F} {fuel : Nat}
variable {frame frame' : Frame F R} {tower towerNext towerNext' : Tower F}

/-- The firing loop launches projectiles at one enemy and takes the interval from
the tower's time for each of them. -/
theorem fireProjectiles_drained {type : TowerType F} {shotInterval : F} {targetEnemyIdx : Nat}
    {targetEnemy : Enemy F} (typed : mapData.towerTypes[tower.typeIdx]? = some type)
    (targeted : frame.next.enemies[targetEnemyIdx]? = some targetEnemy)
    (executed : fireProjectiles type shotInterval targetEnemyIdx targetEnemy tower fuel towerNext
      frame = .ok (towerNext', frame')) :
    ∃ shots : List (Projectile F),
      Volley mapData frame frame' [] (shots.map fun projectile => (tower, projectile)) ∧
      towerNext' = { towerNext with timeSinceLastShot := towerNext'.timeSinceLastShot } ∧
      Drained shotInterval towerNext.timeSinceLastShot shots.length
        towerNext'.timeSinceLastShot ∧
      (∀ projectile ∈ shots, projectile.targetEnemyIndex = targetEnemyIdx ∧
        projectile.targetEnemyId = targetEnemy.id ∧
        projectile.lastEnemyPosition = targetEnemy.position) ∧
      ∀ projectile ∈ shots, projectile.position = tower.position ∧
        projectile.rotation = towerNext'.rotation := by
  induction fuel generalizing towerNext frame with
  | zero =>
      rw [fireProjectiles] at executed
      split at executed
      · cases executed
      case isFalse enough =>
        cases executed
        exact ⟨[], .refl mapData _, rfl, .stop enough, by simp, by simp⟩
  | succ fuel ih =>
      rw [fireProjectiles] at executed
      split at executed
      case isTrue exceeds =>
        let launched :=
          launchProjectile type shotInterval targetEnemyIdx targetEnemy tower towerNext frame
        have rest : fireProjectiles type shotInterval targetEnemyIdx targetEnemy tower fuel
            launched.1 launched.2 = .ok (towerNext', frame') := executed
        have stillTargeted : launched.2.next.enemies[targetEnemyIdx]? = some targetEnemy := targeted
        obtain ⟨shots, volley, copied, drained, aimed, fromTower⟩ := ih stillTargeted rest
        let projectile : Projectile F :=
          { Projectile.fresh F with
            id := frame.next.nextObjectId
            typeIdx := type.projectileTypeIdx
            position := tower.position
            targetEnemyIndex := targetEnemyIdx
            targetEnemyId := targetEnemy.id
            lastEnemyPosition := targetEnemy.position
            rotation := towerNext.rotation }
        have first : Volley mapData frame launched.2 [] [(tower, projectile)] :=
          { next := by simp [launched, launchProjectile, projectile]
            allocates := .single _ _
            deeds := rfl
            events := rfl
            launched := by
              intro shot member
              cases List.mem_singleton.mp member
              exact ⟨⟨type, typed, rfl⟩, targetEnemy, targeted, rfl⟩ }
        refine ⟨projectile :: shots, first.trans volley, copied, .take exceeds drained, ?_, ?_⟩
        · intro other member
          cases List.mem_cons.mp member with
          | inl equal =>
              rw [equal]
              exact ⟨rfl, rfl, rfl⟩
          | inr later => exact aimed other later
        · intro other member
          cases List.mem_cons.mp member with
          | inl equal =>
              rw [equal, copied]
              exact ⟨rfl, rfl⟩
          | inr later => exact fromTower other later
      case isFalse enough =>
        cases executed
        exact ⟨[], .refl mapData _, rfl, .stop enough, by simp, by simp⟩

/-- A tower whose interval is infinite saves its time. -/
theorem fireAtInterval_drained {type : TowerType F} {targetEnemyIdx : Nat} {targetEnemy : Enemy F}
    (typed : mapData.towerTypes[tower.typeIdx]? = some type)
    (targeted : frame.next.enemies[targetEnemyIdx]? = some targetEnemy)
    (executed : fireAtInterval type (reciprocal type.shotsPerSecond) targetEnemyIdx targetEnemy
      tower fuel towerNext frame = .ok (towerNext', frame')) :
    ∃ shots : List (Projectile F),
      Volley mapData frame frame' [] (shots.map fun projectile => (tower, projectile)) ∧
      towerNext' = { towerNext with timeSinceLastShot := towerNext'.timeSinceLastShot } ∧
      type.Drains towerNext.timeSinceLastShot shots.length towerNext'.timeSinceLastShot ∧
      (∀ projectile ∈ shots, projectile.targetEnemyIndex = targetEnemyIdx ∧
        projectile.targetEnemyId = targetEnemy.id ∧
        projectile.lastEnemyPosition = targetEnemy.position) ∧
      ∀ projectile ∈ shots, projectile.position = tower.position ∧
        projectile.rotation = towerNext'.rotation := by
  cases interval : reciprocal type.shotsPerSecond with
  | some shotInterval =>
      rw [interval] at executed
      simp only [TowerType.Drains, interval]
      exact fireProjectiles_drained typed targeted executed
  | none =>
      rw [interval] at executed
      cases executed
      refine ⟨[], .refl mapData _, rfl, ?_, by simp, by simp⟩
      rw [TowerType.Drains, interval]
      exact ⟨rfl, rfl⟩

variable [Glm F]

omit [Arithmetic F] [Glm F] in
theorem sortRange_eq_ok {less : Nat → Nat → Bool} {range sorted : List Nat} :
    sortRange platform less range = .ok sorted ↔
      StrictWeakOrder less range ∧ sorted = platform.std.sort less range := by
  rw [sortRange]
  split
  · rename_i ordering
    rw [pure_eq_ok, and_iff_right ordering, eq_comm]
  · rename_i unordered
    exact iff_of_false (fun impossible => by cases impossible) fun both => unordered both.1

/-- One iteration of the tower loop is a turn. -/
theorem updateTower_turn
    (executed : updateTower platform mapData delta fuel frame tower = .ok frame') :
    ∃ turn : TowerTurn F, turn.tower = tower ∧
      turn.Follows platform mapData frame.next.enemies delta ∧
      Volley mapData frame frame' [turn.copy] turn.launches := by
  simp only [updateTower, bind_eq_ok, readAt_eq_ok] at executed
  rcases executed with ⟨type, typed, executed⟩
  split at executed
  case isTrue empty =>
    cases executed
    exact ⟨⟨tower, tower, []⟩, rfl, .idle typed (List.isEmpty_iff.mp empty),
      (Volley.refl mapData frame).append_copy _ _⟩
  case isFalse nonempty =>
    simp only [bind_eq_ok, readAt_eq_ok, pure_eq_ok] at executed
    obtain ⟨_, _, storage, sorted, targetEnemyIdx, chosen, targetEnemy, targeted,
      ⟨towerNext, fired⟩, loop, assembled⟩ := executed
    rw [(sortRange_eq_ok.mp sorted).2] at chosen
    obtain ⟨shots, volley, copied, drained, aimed, fromTower⟩ :=
      fireAtInterval_drained typed targeted loop
    subst assembled
    have towers : fired.next.towers = frame.next.towers := by
      rw [volley.next]
      simp
    refine ⟨⟨tower, towerNext, shots⟩, rfl, .engages typed ?_ ⟨chosen, targeted, copied, drained,
      aimed, fromTower⟩, ?_⟩
    · exact fun empty => nonempty (List.isEmpty_iff.mpr empty)
    · rw [towers]
      exact volley.append_copy towerNext _

/-- The tower loop takes one turn with every tower, in order. -/
theorem updateTowers_turns {initial : GameState F R}
    (executed : updateTowers platform mapData delta fuel initial frame = .ok frame') :
    ∃ turns : List (TowerTurn F), (turns.map fun turn => turn.tower) = initial.towers ∧
      (∀ turn ∈ turns, turn.Follows platform mapData frame.next.enemies delta) ∧
      Volley mapData frame frame' (turns.map fun turn => turn.copy)
        (turns.flatMap TowerTurn.launches) := by
  let inv (done : List (Tower F)) (state : Frame F R) : Prop :=
    ∃ turns : List (TowerTurn F), (turns.map fun turn => turn.tower) = done ∧
      (∀ turn ∈ turns, turn.Follows platform mapData frame.next.enemies delta) ∧
      Volley mapData frame state (turns.map fun turn => turn.copy)
        (turns.flatMap TowerTurn.launches)
  apply foldlM_progress inv executed ⟨[], rfl, by simp, .refl mapData frame⟩
  intro done tower state state' _ holds stepped
  rcases holds with ⟨turns, towers, follow, volley⟩
  obtain ⟨turn, sameTower, follows, last⟩ := updateTower_turn stepped
  rw [volley.enemies] at follows
  refine ⟨turns ++ [turn], ?_, ?_, ?_⟩
  · rw [List.map_append, towers, List.map_singleton, sameTower]
  · intro other member
    cases List.mem_append.mp member with
    | inl earlier => exact follow other earlier
    | inr here => exact List.mem_singleton.mp here ▸ follows
  · rw [List.map_append, List.flatMap_append, List.flatMap_singleton]
    exact volley.trans last

/-- One iteration of the tower loop. -/
theorem updateTower_spec
    (executed : updateTower platform mapData delta fuel frame tower = .ok frame') :
    ∃ copy shots, Volley mapData frame frame' [copy] shots ∧ (∀ shot ∈ shots, shot.1 = tower) ∧
      tower.Copied copy := by
  obtain ⟨turn, rfl, follows, volley⟩ := updateTower_turn executed
  exact ⟨turn.copy, turn.launches, volley, fun shot member => (TowerTurn.mem_launches.mp member).1,
    follows.copied⟩

/-- The tower loop copies the towers and launches a volley. -/
theorem updateTowers_spec {initial : GameState F R}
    (executed : updateTowers platform mapData delta fuel initial frame = .ok frame') :
    ∃ copies shots, Volley mapData frame frame' copies shots ∧
      (∀ shot ∈ shots, shot.1 ∈ initial.towers) ∧
      List.Forall₂ Tower.Copied initial.towers copies := by
  obtain ⟨turns, towers, follow, volley⟩ := updateTowers_turns executed
  refine ⟨_, _, volley, ?_, ?_⟩
  · intro shot member
    obtain ⟨turn, turnMember, launched⟩ := List.mem_flatMap.mp member
    rw [(TowerTurn.mem_launches.mp launched).1, ← towers]
    exact List.mem_map_of_mem turnMember
  · rw [← towers, List.forall₂_map_left_iff, List.forall₂_map_right_iff, List.forall₂_same]
    exact fun turn member => (follow turn member).copied

end GameState

end TowerDefence
