import TowerDefence.Step.Objects
import TowerDefence.Step.Query

/-!
# Unchecked accesses

`GameState.IndexSafe` is the joint invariant under which no loop of a step reads
a vector outside its bounds: the waypoint of every enemy exists, and every type
index lies below the size of its collection.
-/

namespace TowerDefence

open Foundations

variable {F R : Type}

theorem u32Pred_lt {counter : Nat} (positive : 1 ≤ counter) : u32Pred counter < counter := by
  rw [u32Pred]
  omega

theorem readAt_avoids {α : Type} {items : List α} {index : Nat}
    (inBounds : index < items.length) :
    Avoids Fault.outOfBounds (fun item => items[index]? = some item) (readAt items index) := by
  rw [readAt, List.getElem?_eq_getElem inBounds]
  exact rfl

theorem readBack_avoids {α : Type} {items : List α} (nonempty : 0 < items.length) :
    Avoids Fault.outOfBounds (fun _ => True) (readBack items) := by
  rw [readBack]
  cases last : items.getLast? with
  | none => simp [List.getLast?_eq_none_iff.mp last] at nonempty
  | some item => exact trivial

/-! ## The invariant -/

/-- What loading guarantees of a map. -/
structure MapData.IndexSafe (mapData : MapData F) : Prop where
  waypoints : 2 ≤ mapData.enemyPath.waypoints.length
  distancesToGoal : mapData.enemyPath.distancesToGoal.length = mapData.enemyPath.waypoints.length
  towerTypes : ∀ type ∈ mapData.towerTypes,
    type.projectileTypeIdx < mapData.projectileTypes.length

/-- The indices that an enemy stores are in bounds. -/
structure Enemy.IndexSafe (mapData : MapData F) (enemy : Enemy F) : Prop where
  typeIdx : enemy.typeIdx < mapData.enemyTypes.length
  waypointPos : 1 ≤ enemy.nextWaypointIdx
  waypointLe : enemy.nextWaypointIdx ≤ mapData.enemyPath.waypoints.length - 1

/-- The indices that a state stores are in bounds.  The slot of a projectile is
not among them: the projectile loop checks it. -/
structure GameState.IndexSafe (mapData : MapData F) (state : GameState F R) : Prop where
  enemies : ∀ enemy ∈ state.enemies, enemy.IndexSafe mapData
  towers : ∀ tower ∈ state.towers, tower.typeIdx < mapData.towerTypes.length
  projectiles : ∀ projectile ∈ state.projectiles,
    projectile.typeIdx < mapData.projectileTypes.length

theorem GameState.IndexSafe.of_empty {mapData : MapData F} {state : GameState F R}
    (enemies : state.enemies = []) (towers : state.towers = [])
    (projectiles : state.projectiles = []) : state.IndexSafe mapData := by
  constructor
  · simp [enemies]
  · simp [towers]
  · simp [projectiles]

/-- The type index of the command, if it has one, is in bounds. -/
def GameCommand.InRange (mapData : MapData F) : GameCommand F → Prop
  | .debugSpawnEnemy enemyType => enemyType < mapData.enemyTypes.length
  | .debugDespawnAllEnemies => True
  | .debugAddGold _ => True
  | .buildTower towerType _ => towerType < mapData.towerTypes.length

/-! ## The loops preserve the invariant -/

section Preservation

variable {mapData : MapData F} {frame frame' : Frame F R}

theorem Enemy.Moved.indexSafe [Arithmetic F] {enemy enemyNext : Enemy F}
    (moved : enemy.Moved mapData enemyNext) (safe : enemy.IndexSafe mapData) :
    enemyNext.IndexSafe mapData := by
  rcases safe with ⟨typeIdx, pos, le⟩
  have typeIdxNext : enemyNext.typeIdx < mapData.enemyTypes.length := moved.typeIdx ▸ typeIdx
  cases moved.nextWaypointIdx with
  | inl same => exact ⟨typeIdxNext, by omega, by omega⟩
  | inr advanced => exact ⟨typeIdxNext, by omega, by omega⟩

theorem Volley.indexSafe {copies : List (Tower F)} {shots : List (Tower F × Projectile F)}
    (volley : Volley mapData frame frame' copies shots) (mapSafe : mapData.IndexSafe)
    (copied : ∀ copy ∈ copies, copy.typeIdx < mapData.towerTypes.length)
    (safe : frame.next.IndexSafe mapData) : frame'.next.IndexSafe mapData := by
  rw [volley.next]
  refine ⟨safe.enemies, ?_, ?_⟩
  · intro tower member
    cases List.mem_append.mp member with
    | inl earlier => exact safe.towers tower earlier
    | inr copy => exact copied tower copy
  · intro projectile member
    cases List.mem_append.mp member with
    | inl earlier => exact safe.projectiles projectile earlier
    | inr launched =>
        obtain ⟨shot, shotMember, isShot⟩ := List.mem_map.mp launched
        obtain ⟨type, typed, sameIdx⟩ := (volley.launched shot shotMember).typeIdx
        rw [← isShot, sameIdx]
        exact mapSafe.towerTypes type (List.mem_of_getElem? typed)

theorem Strike.Applied.indexSafe [Arithmetic F] {strike : Strike F}
    (applied : strike.Applied mapData frame frame') (safe : frame.next.IndexSafe mapData) :
    frame'.next.IndexSafe mapData := by
  rw [applied.next]
  refine ⟨?_, safe.towers, safe.projectiles⟩
  intro enemy member
  cases List.mem_or_eq_of_mem_set member with
  | inl untouched => exact safe.enemies enemy untouched
  | inr struck =>
      have before := safe.enemies _ (List.mem_of_getElem? applied.found)
      rw [struck]
      exact ⟨before.typeIdx, before.waypointPos, before.waypointLe⟩

theorem Obeys.indexSafe [Arithmetic F] {command : GameCommand F}
    (obeys : Obeys mapData frame command frame') (mapSafe : mapData.IndexSafe)
    (safe : frame.next.IndexSafe mapData) : frame'.next.IndexSafe mapData := by
  cases obeys with
  | @spawn _ type enemy _ typed _ sameIdx _ first =>
      refine ⟨?_, safe.towers, safe.projectiles⟩
      intro other member
      cases List.mem_append.mp member with
      | inl earlier => exact safe.enemies other earlier
      | inr spawned =>
          cases List.mem_singleton.mp spawned
          have inRange := (List.getElem?_eq_some_iff.mp typed).1
          have enough := mapSafe.waypoints
          exact ⟨sameIdx ▸ inRange, by omega, by omega⟩
  | despawn =>
      refine ⟨?_, safe.towers, safe.projectiles⟩
      intro enemy member
      cases member
  | addGold _ => exact ⟨safe.enemies, safe.towers, safe.projectiles⟩
  | @build _ _ type tower typed _ _ sameIdx =>
      refine ⟨safe.enemies, ?_, safe.projectiles⟩
      intro other member
      cases List.mem_append.mp member with
      | inl earlier => exact safe.towers other earlier
      | inr built =>
          cases List.mem_singleton.mp built
          exact sameIdx ▸ (List.getElem?_eq_some_iff.mp typed).1
  | refuse _ _ => exact safe

end Preservation

/-! ## No loop reads outside the bounds -/

namespace GameState

variable [Arithmetic F] {platform : Platform F R} {mapData : MapData F}
variable {initial : GameState F R} {delta : F} {fuel : Nat} {frame : Frame F R}

theorem enemyLeaves_avoids (mapSafe : mapData.IndexSafe) (enemy : Enemy F) :
    Avoids .outOfBounds (fun _ => True) (enemyLeaves mapData enemy) := by
  have nonempty : 0 < mapData.enemyPath.waypoints.length :=
    Nat.lt_of_lt_of_le Nat.zero_lt_two mapSafe.waypoints
  rw [enemyLeaves]
  split
  · exact trivial
  · apply Avoids.bind (readBack_avoids nonempty)
    intro goal _
    exact trivial

variable [Glm F]

theorem advanceEnemy_avoids (mapSafe : mapData.IndexSafe) {enemy : Enemy F}
    (safe : enemy.IndexSafe mapData) (slot : Nat) :
    Avoids .outOfBounds (fun _ => True) (advanceEnemy mapData initial delta enemy slot) := by
  rcases safe with ⟨typeIdx, pos, le⟩
  have before := u32Pred_lt pos
  have enough := mapSafe.waypoints
  have distances := mapSafe.distancesToGoal
  apply Avoids.bind (readAt_avoids (by omega))
  intro a _
  apply Avoids.bind (readAt_avoids (by omega))
  intro b _
  apply Avoids.bind (readAt_avoids (by omega))
  intro nextWaypointDistanceFromGoal _
  apply Avoids.bind (readAt_avoids typeIdx)
  intro enemyType _
  exact trivial

theorem moveEnemy_avoids (mapSafe : mapData.IndexSafe) {entry : Enemy F × Nat}
    (enemySafe : entry.1.IndexSafe mapData) (safe : frame.next.IndexSafe mapData) :
    Avoids .outOfBounds (fun frame' => frame'.next.IndexSafe mapData)
      (moveEnemy mapData initial delta frame entry) := by
  apply Avoids.of_spec
  · apply Avoids.bind (enemyLeaves_avoids mapSafe entry.1)
    intro leaves _
    cases leaves with
    | true => exact trivial
    | false =>
        apply Avoids.bind (advanceEnemy_avoids mapSafe enemySafe entry.2)
        intro enemyNext _
        exact trivial
  · intro frame' executed
    cases moveEnemy_cases executed with
    | inl leaves => exact leaves.2 ▸ safe
    | inr stays =>
        rcases stays with ⟨enemyNext, image, reached⟩
        rw [reached]
        refine ⟨?_, safe.towers, safe.projectiles⟩
        intro enemy member
        cases List.mem_append.mp member with
        | inl earlier => exact safe.enemies enemy earlier
        | inr last => exact List.mem_singleton.mp last ▸ image.moved.indexSafe enemySafe

omit [Glm F] in
theorem fireProjectiles_avoids (type : TowerType F) (shotInterval : F) (targetEnemyIdx : Nat)
    (targetEnemy : Enemy F) (tower towerNext : Tower F) :
    Avoids .outOfBounds (fun _ => True)
      (fireProjectiles type shotInterval targetEnemyIdx targetEnemy tower fuel towerNext
        frame) := by
  induction fuel generalizing towerNext frame with
  | zero =>
      rw [fireProjectiles]
      split
      · intro impossible
        cases impossible
      · exact trivial
  | succ fuel ih =>
      rw [fireProjectiles]
      split
      · exact ih _
      · exact trivial

omit [Glm F] in
theorem fireAtInterval_avoids (type : TowerType F) (shotInterval : Option F)
    (targetEnemyIdx : Nat) (targetEnemy : Enemy F) (tower towerNext : Tower F) :
    Avoids .outOfBounds (fun _ => True)
      (fireAtInterval type shotInterval targetEnemyIdx targetEnemy tower fuel towerNext
        frame) := by
  cases shotInterval with
  | some shotInterval => exact fireProjectiles_avoids _ _ _ _ _ _
  | none => exact trivial

omit [Arithmetic F] [Glm F] in
/-- Where the sort is defined, it only rearranges. -/
theorem sortRange_avoids (less : Nat → Nat → Bool) (range : List Nat) :
    Avoids .outOfBounds (fun sorted => sorted.Perm range) (sortRange platform less range) := by
  rw [sortRange]
  split
  · rename_i ordering
    exact (platform.std.correct less range ordering).1
  · exact Fault.noConfusion

theorem updateTower_avoids (mapSafe : mapData.IndexSafe) {tower : Tower F}
    (towerSafe : tower.typeIdx < mapData.towerTypes.length)
    (safe : frame.next.IndexSafe mapData) :
    Avoids .outOfBounds (fun frame' => frame'.next.IndexSafe mapData)
      (updateTower platform mapData delta fuel frame tower) := by
  apply Avoids.of_spec
  · apply Avoids.bind (readAt_avoids towerSafe)
    intro type _
    dsimp only
    split
    · exact trivial
    · rename_i found
      let storage := queryEnemiesInRadius frame.next.enemies tower.position type.range []
      apply Avoids.bind (Avoids.forM fun index member =>
        (readAt_avoids (mem_queryEnemiesInRadius member)).discard)
      intro _ _
      apply Avoids.bind (sortRange_avoids _ _)
      intro sorted perm
      have nonempty : 0 < sorted.length := by
        rw [perm.length_eq]
        exact List.length_pos_iff.mpr fun empty => found (List.isEmpty_iff.mpr empty)
      apply Avoids.bind (readAt_avoids nonempty)
      intro targetEnemyIdx isFirst
      have queried := perm.subset (List.mem_of_getElem? isFirst)
      apply Avoids.bind (readAt_avoids (mem_queryEnemiesInRadius queried))
      intro targetEnemy _
      apply Avoids.bind (fireAtInterval_avoids _ _ _ _ _ _)
      intro fired _
      exact trivial
  · intro frame' executed
    obtain ⟨copy, shots, volley, _, copied⟩ := updateTower_spec executed
    apply volley.indexSafe mapSafe _ safe
    intro other member
    rw [List.mem_singleton.mp member, copied.typeIdx]
    exact towerSafe

omit [Glm F] in
theorem applyDamageToEnemy_avoids (direct : Bool) (projectile : Projectile F)
    (projectileType : ProjectileType F) {enemyIndex : Nat} (safe : frame.next.IndexSafe mapData)
    (inRange : enemyIndex < frame.next.enemies.length) :
    Avoids .outOfBounds (fun frame' => frame'.next.IndexSafe mapData ∧
        frame'.next.enemies.length = frame.next.enemies.length)
      (applyDamageToEnemy mapData direct projectile projectileType frame enemyIndex) := by
  apply Avoids.of_spec
  · apply Avoids.bind (readAt_avoids inRange)
    intro enemy found
    dsimp only
    split
    · have typed := (safe.enemies enemy (List.mem_of_getElem? found)).typeIdx
      apply Avoids.bind (readAt_avoids typed)
      intro enemyType _
      exact trivial
    · exact trivial
  · intro frame' executed
    obtain ⟨enemy, applied⟩ := applyDamageToEnemy_applied executed
    refine ⟨applied.indexSafe safe, ?_⟩
    rw [applied.next]
    exact List.length_set

omit [Glm F] in
theorem damageSplash_avoids (projectile : Projectile F) (projectileType : ProjectileType F)
    (target : Vec2 F) (safe : frame.next.IndexSafe mapData) :
    Avoids .outOfBounds (fun frame' => frame'.next.IndexSafe mapData)
      (damageSplash mapData projectile projectileType target frame) := by
  rw [damageSplash]
  split
  · exact safe
  · let queried := queryEnemiesInRadius frame.next.enemies target projectileType.splashRadius []
    -- the loop keeps the number of enemies, so the queried indices stay in bounds
    let inv (state : Frame F R) : Prop :=
      state.next.IndexSafe mapData ∧ state.next.enemies.length = frame.next.enemies.length
    have initially : inv { frame with enemyQueryStorage := queried } := ⟨safe, rfl⟩
    have looped : Avoids .outOfBounds inv (queried.foldlM
        (applyDamageToEnemy mapData false projectile projectileType)
        { frame with enemyQueryStorage := queried }) := by
      apply Avoids.foldlM inv initially
      intro index state member holds
      rcases holds with ⟨stateSafe, sameLength⟩
      have inRange : index < state.next.enemies.length :=
        sameLength ▸ mem_queryEnemiesInRadius member
      apply (applyDamageToEnemy_avoids false projectile projectileType stateSafe inRange).mono
      intro state' holds'
      exact ⟨holds'.1, holds'.2.trans sameLength⟩
    exact looped.mono fun _ holds => holds.1

omit [Glm F] in
theorem detonate_avoids (projectile : Projectile F) (projectileType : ProjectileType F)
    (alive : Bool) (target : Vec2 F) (safe : frame.next.IndexSafe mapData)
    (inRange : projectile.targetEnemyIndex < frame.next.enemies.length) :
    Avoids .outOfBounds (fun frame' => frame'.next.IndexSafe mapData)
      (detonate mapData projectile projectileType alive target frame) := by
  let recorded : Frame F R := { frame with deeds := frame.deeds ++ [.detonate projectile] }
  have recordedSafe : recorded.next.IndexSafe mapData := safe
  have struck : Avoids .outOfBounds (fun frame' => frame'.next.IndexSafe mapData)
      (damageTarget mapData projectile projectileType alive recorded) := by
    rw [damageTarget]
    split
    · exact (applyDamageToEnemy_avoids true projectile projectileType recordedSafe inRange).mono
        fun _ holds => holds.1
    · exact recordedSafe
  apply Avoids.bind struck
  intro frame' safe'
  exact damageSplash_avoids projectile projectileType target safe'

theorem updateProjectile_avoids {proj : Projectile F}
    (projSafe : proj.typeIdx < mapData.projectileTypes.length)
    (safe : frame.next.IndexSafe mapData) :
    Avoids .outOfBounds (fun frame' => frame'.next.IndexSafe mapData)
      (updateProjectile mapData delta frame proj) := by
  rw [updateProjectile]
  split
  · exact safe
  · rename_i occupied
    have inRange := Nat.lt_of_not_le occupied
    have aims : Avoids .outOfBounds (fun _ => True) (aimProjectile frame.next.enemies proj) :=
      Avoids.bind (readAt_avoids inRange) fun _ _ => trivial
    apply Avoids.bind aims
    intro aimed _
    apply Avoids.bind (readAt_avoids projSafe)
    intro projectileType _
    dsimp only
    split
    · refine ⟨safe.enemies, safe.towers, ?_⟩
      intro other member
      cases List.mem_append.mp member with
      | inl earlier => exact safe.projectiles other earlier
      | inr last => exact List.mem_singleton.mp last ▸ projSafe
    · exact detonate_avoids _ projectileType aimed.1 aimed.2 safe inRange

omit [Glm F] in
theorem executeCommand_avoids (mapSafe : mapData.IndexSafe) {command : GameCommand F}
    (inRange : command.InRange mapData) (safe : frame.next.IndexSafe mapData) :
    Avoids .outOfBounds (fun frame' => frame'.next.IndexSafe mapData)
      (executeCommand platform mapData frame command) := by
  apply Avoids.of_spec
  · have enough := mapSafe.waypoints
    cases command with
    | debugSpawnEnemy enemyType =>
        have spawns : ∀ enemy : Enemy F, Avoids Fault.outOfBounds (fun _ => True)
            (setupEnemy mapData.enemyTypes enemyType mapData.enemyPath enemy) := by
          intro enemy
          apply Avoids.bind (readAt_avoids inRange)
          intro type _
          apply Avoids.bind (readAt_avoids (by omega))
          intro a _
          apply Avoids.bind (readAt_avoids (by omega))
          intro b _
          exact trivial
        apply Avoids.bind (readAt_avoids inRange)
        intro type _
        apply Avoids.bind (spawns _)
        intro enemy _
        exact trivial
    | debugDespawnAllEnemies => exact trivial
    | debugAddGold amount => exact trivial
    | buildTower towerType position =>
        apply Avoids.bind (readAt_avoids inRange)
        intro type _
        dsimp only
        split
        · exact trivial
        · exact trivial
  · intro frame' executed
    exact (executeCommand_obeys executed).indexSafe mapSafe safe

/-- No access of a step is outside the bounds, and the invariant is preserved. -/
theorem timeStep_avoids (mapSafe : mapData.IndexSafe) {commands : List (GameCommand F)}
    (inRange : ∀ command ∈ commands, command.InRange mapData)
    (safe : initial.IndexSafe mapData) :
    Avoids .outOfBounds (fun frame' => frame'.next.IndexSafe mapData)
      (timeStep platform mapData initial commands delta fuel frame) := by
  let inv (state : Frame F R) : Prop := state.next.IndexSafe mapData
  have cleared : inv (clearNext initial frame) := .of_empty rfl rfl rfl
  apply Avoids.bind (Avoids.foldlM inv cleared fun entry state member holds =>
    moveEnemy_avoids mapSafe (safe.enemies entry.1 (List.fst_mem_of_mem_zipIdx member)) holds)
  intro moved movedSafe
  apply Avoids.bind (Avoids.foldlM inv movedSafe fun tower state member holds =>
    updateTower_avoids mapSafe (safe.towers tower member) holds)
  intro fired firedSafe
  apply Avoids.bind (Avoids.foldlM inv firedSafe fun proj state member holds =>
    updateProjectile_avoids (safe.projectiles proj member) holds)
  intro struck struckSafe
  exact Avoids.foldlM inv struckSafe fun command state member holds =>
    executeCommand_avoids mapSafe (inRange command member) holds

omit [Arithmetic F] [Glm F] in
/-- No access of `ForEachEntity` is outside the bounds. -/
theorem forEachEntity_avoids {state : GameState F R} (safe : state.IndexSafe mapData) :
    Avoids .outOfBounds (fun _ => True) (forEachEntity mapData state) := by
  apply Avoids.bind (Avoids.mapM fun enemy member =>
    Avoids.bind (readAt_avoids (safe.enemies enemy member).typeIdx) fun _ _ =>
      Avoids.of_pure trivial)
  intro enemies _
  apply Avoids.bind (Avoids.mapM fun tower member =>
    Avoids.bind (readAt_avoids (safe.towers tower member)) fun _ _ =>
      Avoids.of_pure trivial)
  intro towers _
  apply Avoids.bind (Avoids.mapM fun projectile member =>
    Avoids.bind (readAt_avoids (safe.projectiles projectile member)) fun _ _ =>
      Avoids.of_pure trivial)
  intro projectiles _
  exact trivial

end GameState

/-! ## The walk along the waypoints -/

/-- `enemyNext` is `enemy`, at most one waypoint further. -/
structure Enemy.Advances (enemy enemyNext : Enemy F) : Prop where
  id : enemyNext.id = enemy.id
  notBack : enemy.nextWaypointIdx ≤ enemyNext.nextWaypointIdx
  atMostOne : enemyNext.nextWaypointIdx ≤ enemy.nextWaypointIdx + 1

/-- The enemies of `next` are enemies of `state` that advanced, in their order,
followed by spawned ones on their way to the second waypoint. -/
def GameState.Advances (state next : GameState F R) : Prop :=
  ∃ walked spawned, next.enemies = walked ++ spawned ∧
    Carried Enemy.Advances (fun _ => True) state.enemies walked ∧
    ∀ enemy ∈ spawned, enemy.nextWaypointIdx = 1

variable [Arithmetic F]

theorem Enemy.Moved.advances {mapData : MapData F} {enemy enemyNext : Enemy F}
    (moved : enemy.Moved mapData enemyNext) : enemy.Advances enemyNext := by
  cases moved.nextWaypointIdx with
  | inl same => exact ⟨moved.id, by omega, by omega⟩
  | inr advanced => exact ⟨moved.id, by omega, by omega⟩

theorem Obeys.advances {mapData : MapData F} {initial : GameState F R} {frame frame' : Frame F R}
    {command : GameCommand F} (obeys : Obeys mapData frame command frame')
    (holds : initial.Advances frame.next) : initial.Advances frame'.next := by
  cases obeys with
  | @spawn _ _ enemy _ _ _ _ _ first =>
      rcases holds with ⟨walked, spawned, split, carried, atStart⟩
      refine ⟨walked, spawned ++ [enemy], ?_, carried, ?_⟩
      · show frame.next.enemies ++ [enemy] = _
        rw [split, List.append_assoc]
      · intro other member
        cases List.mem_append.mp member with
        | inl earlier => exact atStart other earlier
        | inr last => exact List.mem_singleton.mp last ▸ first
  | despawn => exact ⟨[], [], rfl, .drop_all fun _ _ => trivial, by simp⟩
  | addGold _ => exact holds
  | build _ _ _ _ => exact holds
  | refuse _ _ => exact holds

namespace GameState

variable [Glm F] {platform : Platform F R} {mapData : MapData F} {initial : GameState F R}
variable {commands : List (GameCommand F)} {delta : F} {fuel : Nat} {frame after : Frame F R}

/-- In one step no enemy goes back, and none skips a waypoint. -/
theorem timeStep_advances
    (executed : timeStep platform mapData initial commands delta fuel frame = .ok after) :
    initial.Advances after.next := by
  obtain ⟨moved, fired, struck, moves, fires, hits, commanded⟩ := timeStep_eq_ok.mp executed
  obtain ⟨images, reached, carried⟩ := moveEnemies_spec moves
  have bodies : struck.next.enemies.map Enemy.body = images.map Enemy.body := by
    rw [struck_bodies fires hits, reached]
    rfl
  have walked : Carried Enemy.Advances (fun _ => True) initial.enemies struck.next.enemies := by
    apply (carried.mono (fun _ _ related => related.advances) fun _ _ => trivial).of_key_eq bodies
    intro enemy image struckImage advances sameBody
    have sameId : struckImage.id = image.id := congrArg (fun body => body.id) sameBody
    have sameWaypoint : struckImage.nextWaypointIdx = image.nextWaypointIdx :=
      congrArg (fun body => body.nextWaypointIdx) sameBody
    exact ⟨sameId.trans advances.id, sameWaypoint ▸ advances.notBack,
      sameWaypoint ▸ advances.atMostOne⟩
  apply executeCommands_invariant (fun state => initial.Advances state.next) commanded
  · exact ⟨struck.next.enemies, [], by simp, walked, by simp⟩
  · intro command state state' _ obeys holds
    exact obeys.advances holds

end GameState

end TowerDefence
