import TowerDefence.Model.Rational
import TowerDefence.Session.Deaths

/-!
# The life cycle of an enemy

The health of an enemy only falls, and an enemy disappears for three reasons
only: its health is nearly zero, it has reached the goal, or all enemies are
despawned.
-/

namespace TowerDefence

open Foundations

variable {F R : Type}

/-! ## The commands and the enemies -/

section Commands

variable [Arithmetic F] {platform : Platform F R} {mapData : MapData F}
variable {commands : List (GameCommand F)} {frame after : Frame F R}

/-- The enemies after the commands: those of before, unless they were despawned,
and spawned ones. -/
structure CommandedEnemies (commands : List (GameCommand F)) (frame after : Frame F R) :
    Prop where
  stayed : .debugDespawnAllEnemies ∉ commands → ∀ id ∈ frame.next.enemyIds, id ∈ after.next.enemyIds
  origin : ∃ later, after.deeds = frame.deeds ++ later ∧ ∀ id ∈ after.next.enemyIds,
    id ∈ frame.next.enemyIds ∧ .debugDespawnAllEnemies ∉ commands ∨ id ∈ spawnedIds later

omit [Arithmetic F] in
/-- A command that does not touch the enemies. -/
theorem CommandedEnemies.append {done : List (GameCommand F)} {state state' : Frame F R}
    {command : GameCommand F} (holds : CommandedEnemies done frame state)
    (noDespawn : command ≠ .debugDespawnAllEnemies)
    (sameEnemies : state'.next.enemies = state.next.enemies)
    (recorded : ∃ later, state'.deeds = state.deeds ++ later) :
    CommandedEnemies (done ++ [command]) frame state' := by
  rcases holds with ⟨stayed, later, recordedBefore, origin⟩
  rcases recorded with ⟨last, recordedNow⟩
  have sameIds : state'.next.enemyIds = state.next.enemyIds := by
    rw [GameState.enemyIds, sameEnemies, GameState.enemyIds]
  have despawned : .debugDespawnAllEnemies ∈ done ++ [command] ↔
      .debugDespawnAllEnemies ∈ done := by
    simp [noDespawn.symm]
  refine ⟨?_, later ++ last, by rw [recordedNow, recordedBefore, List.append_assoc], ?_⟩
  · rw [sameIds, despawned]
    exact stayed
  · intro id member
    rw [sameIds] at member
    rw [despawned, spawnedIds_append]
    cases origin id member with
    | inl fromFrame => exact .inl fromFrame
    | inr spawned => exact .inr (List.mem_append_left _ spawned)

theorem GameState.executeCommands_enemies
    (executed : executeCommands platform mapData commands frame = .ok after) :
    CommandedEnemies commands frame after := by
  apply executeCommands_progress (fun done state => CommandedEnemies done frame state) executed
  · refine ⟨fun _ id member => member, [], by simp, ?_⟩
    intro id member
    exact .inl ⟨member, by simp⟩
  · intro done command state state' _ obeys holds
    cases obeys with
    | @spawn _ _ enemy _ _ _ _ _ _ =>
        rcases holds with ⟨stayed, later, recorded, origin⟩
        refine ⟨?_, later ++ [.spawn enemy], by rw [recorded, List.append_assoc], ?_⟩
        · intro notDespawned id member
          have kept := stayed (by simpa using notDespawned) id member
          simp only [enemyIds, List.map_append] at kept ⊢
          exact List.mem_append_left _ kept
        · intro id member
          simp only [enemyIds, List.map_append, List.mem_append, List.map_cons, List.map_nil,
            List.mem_singleton] at member
          cases member with
          | inl earlier =>
              cases origin id earlier with
              | inl fromFrame => exact .inl ⟨fromFrame.1, by simpa using fromFrame.2⟩
              | inr spawned => exact .inr (by simp [spawned])
          | inr last => exact .inr (by simp [last])
    | despawn =>
        rcases holds with ⟨_, later, recorded, _⟩
        refine ⟨?_, later, recorded, ?_⟩
        · intro notDespawned
          simp at notDespawned
        · intro id member
          cases member
    | addGold amount => exact holds.append (by simp) rfl ⟨[], by simp⟩
    | @build _ _ _ tower _ _ _ _ => exact holds.append (by simp) rfl ⟨[.build tower], rfl⟩
    | refuse _ _ => exact holds.append (by simp) rfl ⟨[], by simp⟩

end Commands

/-! ## When an enemy is absent -/

section Absence

variable [Arithmetic F] [Glm F] {world : World F R} {state next : GameState F R}
variable {commands : List (GameCommand F)} {record : StepRecord F}

/-- The position of the enemy is within the tolerance of the last waypoint. -/
def Enemy.AtGoal (mapData : MapData F) (enemy : Enemy F) : Prop :=
  ∃ goal, mapData.enemyPath.waypoints.getLast? = some goal ∧
    isNearlyZero (distanceSqr enemy.position goal) = true

omit [Glm F] in
theorem Enemy.leaves_iff_atGoal {mapData : MapData F} {enemy : Enemy F} :
    enemy.Leaves mapData ↔ isNearlyZero enemy.remainingHealth = true ∨ enemy.AtGoal mapData := by
  rw [Enemy.leaves_iff]
  constructor
  · intro leaves
    cases leaves with
    | inl nearlyDead => exact .inl nearlyDead
    | inr arrived =>
        rcases arrived with ⟨goal, _, last, near⟩
        exact .inr ⟨goal, last, near⟩
  · intro reason
    cases nearlyDead : isNearlyZero enemy.remainingHealth with
    | true => exact .inl rfl
    | false =>
        rw [nearlyDead] at reason
        cases reason with
        | inl impossible => cases impossible
        | inr arrived =>
            rcases arrived with ⟨goal, last, near⟩
            exact .inr ⟨goal, rfl, last, near⟩

/-- An enemy is absent from the next state for three reasons. -/
theorem World.step_absent_iff (stepped : world.step state commands = .ok (next, record))
    (identified : state.Identified)
    (few : state.nextObjectId + (createdIds record.deeds).length < 2 ^ 32)
    {enemy : Enemy F} (member : enemy ∈ state.enemies) :
    enemy.id ∉ next.enemyIds ↔ isNearlyZero enemy.remainingHealth = true ∨
      enemy.AtGoal world.mapData ∨ .debugDespawnAllEnemies ∈ commands := by
  have descends := World.step_descends stepped
  obtain ⟨frame, executed, reached, recorded⟩ := World.step_eq_ok.mp stepped
  obtain ⟨moved, fired, struck, moves, fires, strikes, commanded⟩ :=
    GameState.timeStep_eq_ok.mp executed
  obtain ⟨images, movedEq, carried⟩ := GameState.moveEnemies_spec moves
  obtain ⟨stayed, later, grown, origin⟩ := GameState.executeCommands_enemies commanded
  have struckIds : struck.next.enemyIds = images.map fun image => image.id := by
    rw [GameState.enemyIds, Enemy.ids_eq_of_bodies (GameState.struck_bodies fires strikes), movedEq]
    simp [GameState.clearNext]
  have distinct : (state.enemies.map fun enemy => enemy.id).Nodup :=
    identified.enemies.imp Nat.ne_of_lt
  have listed : enemy.id ∈ state.objectIds :=
    List.mem_append_left _ (List.mem_append_left _ (List.mem_map.mpr ⟨enemy, member, rfl⟩))
  -- a spawned enemy has a fresh id
  have notSpawned : enemy.id ∉ spawnedIds later := by
    intro spawned
    have created : enemy.id ∈ createdIds record.deeds := by
      rw [recorded]
      show enemy.id ∈ createdIds frame.deeds
      rw [grown, createdIds_append]
      exact List.mem_append_right _ ((spawnedIds_sublist later).subset spawned)
    exact descends.lineage.created_fresh identified few created listed
  subst reached
  constructor
  · intro absent
    cases carried.kept_or_dropped member with
    | inl leaves =>
        cases Enemy.leaves_iff_atGoal.mp leaves with
        | inl nearlyDead => exact .inl nearlyDead
        | inr arrived => exact .inr (.inl arrived)
    | inr keptImage =>
        rcases keptImage with ⟨image, imageMember, related⟩
        apply Or.inr
        apply Or.inr
        by_contra notDespawned
        apply absent
        apply stayed notDespawned
        rw [struckIds]
        exact List.mem_map.mpr ⟨image, imageMember, related.id⟩
  · intro reason present
    cases origin enemy.id present with
    | inr spawned => exact notSpawned spawned
    | inl fromStruck =>
        rcases fromStruck with ⟨inStruck, notDespawned⟩
        rw [struckIds] at inStruck
        rw [← or_assoc, ← Enemy.leaves_iff_atGoal] at reason
        cases reason with
        | inr despawned => exact notDespawned despawned
        | inl leaves =>
            have exclusive : ∀ image, ¬enemy.Moved world.mapData image := by
              intro image related
              have stays := related.stays
              rw [leaves.not_stays] at stays
              cases stays
            exact carried.key_notMem_of_drop (fun _ _ related => related.id) exclusive distinct
              member inStruck

end Absence

/-! ## Health -/

section Health

variable [Field F] [LinearOrder F] [IsStrictOrderedRing F]

/-- The health of the enemy lies between zero and the maximum of its type. -/
def Enemy.HealthInRange (mapData : MapData F) (enemy : Enemy F) : Prop :=
  ∃ type, mapData.enemyTypes[enemy.typeIdx]? = some type ∧ 0 ≤ enemy.remainingHealth ∧
    enemy.remainingHealth ≤ type.maxHealth

/-- `later` is `earlier` with less health. -/
structure Enemy.Weakened (earlier later : Enemy F) : Prop where
  id : later.id = earlier.id
  typeIdx : later.typeIdx = earlier.typeIdx
  remainingHealth : later.remainingHealth ≤ earlier.remainingHealth

/-- Damage never heals, and it stops at zero. -/
theorem Strike.struck_range {strike : Strike F} (damaging : 0 ≤ strike.damage)
    (nonneg : 0 ≤ strike.enemy.remainingHealth) :
    0 ≤ strike.struck.remainingHealth ∧
      strike.struck.remainingHealth ≤ strike.enemy.remainingHealth := by
  simp only [Strike.struck, Glm.max]
  split
  · rename_i positive
    exact ⟨le_of_lt positive, by linarith⟩
  · exact ⟨le_refl _, nonneg⟩

namespace Battle

variable {mapData : MapData F} {before after : Battle F}

/-- Every enemy of the battle has a health in range. -/
def InRange (mapData : MapData F) (battle : Battle F) : Prop :=
  ∀ enemy ∈ battle.enemies, enemy.HealthInRange mapData

theorem Change.inRange (healthy : ∀ type ∈ mapData.enemyTypes, 0 ≤ type.maxHealth)
    (damaging : ∀ type ∈ mapData.projectileTypes, 0 ≤ type.damage)
    (change : Change mapData before after) (holds : before.InRange mapData) :
    after.InRange mapData := by
  cases change with
  | move carried =>
      intro image member
      obtain ⟨enemy, enemyMember, moved⟩ := carried.exists_of_mem_images member
      obtain ⟨type, typed, range⟩ := holds enemy enemyMember
      rw [← moved.typeIdx] at typed
      rw [← moved.remainingHealth] at range
      exact ⟨type, typed, range⟩
  | record deed _ _ => exact holds
  | @strike strike type typed damage found =>
      intro enemy member
      cases List.mem_or_eq_of_mem_set member with
      | inl untouched => exact holds enemy untouched
      | inr struck =>
          subst struck
          obtain ⟨enemyType, enemyTyped, nonneg, bounded⟩ :=
            holds strike.enemy (List.mem_of_getElem? found)
          have range := Strike.struck_range (damage ▸ damaging type typed) nonneg
          exact ⟨enemyType, enemyTyped, range.1, le_trans range.2 bounded⟩
  | @spawn enemy type typed health _ =>
      intro other member
      cases List.mem_append.mp member with
      | inl earlier => exact holds other earlier
      | inr last =>
          cases List.mem_singleton.mp last
          refine ⟨type, typed, ?_, le_of_eq health⟩
          rw [health]
          exact healthy type (List.mem_of_getElem? typed)
  | despawn =>
      intro enemy member
      cases member

/-- Every enemy of the battle is a weakened enemy of `start`, or was spawned by
`deeds`. -/
def WeakenedFrom (start : List (Enemy F)) (past : List (Deed F)) (battle : Battle F) : Prop :=
  ∃ deeds, battle.deeds = past ++ deeds ∧ ∀ later ∈ battle.enemies,
    (∃ earlier ∈ start, earlier.Weakened later) ∨ later.id ∈ spawnedIds deeds

omit [IsStrictOrderedRing F] in
/-- The origin of an enemy does not change when more is recorded. -/
theorem weakenedOrSpawned_grow {start : List (Enemy F)} {deeds : List (Deed F)} {enemy : Enemy F}
    (origin : (∃ earlier ∈ start, earlier.Weakened enemy) ∨ enemy.id ∈ spawnedIds deeds)
    (more : List (Deed F)) :
    (∃ earlier ∈ start, earlier.Weakened enemy) ∨ enemy.id ∈ spawnedIds (deeds ++ more) := by
  apply origin.imp_right
  intro spawned
  rw [spawnedIds_append]
  exact List.mem_append_left _ spawned

theorem Change.weakenedFrom {start : List (Enemy F)} {past : List (Deed F)}
    (damaging : ∀ type ∈ mapData.projectileTypes, 0 ≤ type.damage)
    (change : Change mapData before after) (inRange : before.InRange mapData)
    (holds : before.WeakenedFrom start past) : after.WeakenedFrom start past := by
  rcases holds with ⟨deeds, recorded, origin⟩
  cases change with
  | move carried =>
      refine ⟨deeds, recorded, ?_⟩
      intro image member
      obtain ⟨enemy, enemyMember, moved⟩ := carried.exists_of_mem_images member
      cases origin enemy enemyMember with
      | inl fromStart =>
          rcases fromStart with ⟨earlier, earlierMember, weakened⟩
          exact .inl ⟨earlier, earlierMember, moved.id.trans weakened.id,
            moved.typeIdx.trans weakened.typeIdx,
            moved.remainingHealth ▸ weakened.remainingHealth⟩
      | inr spawned => exact .inr (moved.id ▸ spawned)
  | record deed _ _ =>
      refine ⟨deeds ++ [deed], by simp [recorded], ?_⟩
      intro enemy member
      exact weakenedOrSpawned_grow (origin enemy member) _
  | @strike strike type typed damage found =>
      refine ⟨deeds ++ [.strike strike], by simp [recorded], ?_⟩
      intro enemy member
      cases List.mem_or_eq_of_mem_set member with
      | inl untouched => exact weakenedOrSpawned_grow (origin enemy untouched) _
      | inr struck =>
          subst struck
          have struckMember := List.mem_of_getElem? found
          cases origin strike.enemy struckMember with
          | inl fromStart =>
              rcases fromStart with ⟨earlier, earlierMember, weakened⟩
              obtain ⟨_, _, nonneg, _⟩ := inRange strike.enemy struckMember
              have range := Strike.struck_range (damage ▸ damaging type typed) nonneg
              exact .inl ⟨earlier, earlierMember, weakened.id, weakened.typeIdx,
                le_trans range.2 weakened.remainingHealth⟩
          | inr spawned =>
              rw [spawnedIds_append, List.mem_append]
              exact .inr (.inl spawned)
  | @spawn enemy type typed health _ =>
      refine ⟨deeds ++ [.spawn enemy], by simp [recorded], ?_⟩
      intro other member
      cases List.mem_append.mp member with
      | inl earlier => exact weakenedOrSpawned_grow (origin other earlier) _
      | inr last =>
          cases List.mem_singleton.mp last
          exact .inr (by simp)
  | despawn =>
      refine ⟨deeds, recorded, ?_⟩
      intro enemy member
      cases member

theorem Changes.inRange (changes : Changes mapData before after)
    (healthy : ∀ type ∈ mapData.enemyTypes, 0 ≤ type.maxHealth)
    (damaging : ∀ type ∈ mapData.projectileTypes, 0 ≤ type.damage)
    (initially : before.InRange mapData) : after.InRange mapData :=
  changes.invariant (InRange mapData) initially fun _ _ change =>
    change.inRange healthy damaging

theorem Changes.weakenedFrom (changes : Changes mapData before after)
    (healthy : ∀ type ∈ mapData.enemyTypes, 0 ≤ type.maxHealth)
    (damaging : ∀ type ∈ mapData.projectileTypes, 0 ≤ type.damage)
    (initially : before.InRange mapData) :
    after.WeakenedFrom before.enemies before.deeds := by
  suffices general : after.InRange mapData ∧ after.WeakenedFrom before.enemies before.deeds from
    general.2
  apply changes.invariant fun battle =>
    battle.InRange mapData ∧ battle.WeakenedFrom before.enemies before.deeds
  · refine ⟨initially, [], by simp, ?_⟩
    intro enemy member
    exact .inl ⟨enemy, member, rfl, rfl, le_refl _⟩
  · intro earlier later change holds
    exact ⟨change.inRange healthy damaging holds.1, change.weakenedFrom damaging holds.1 holds.2⟩

end Battle

end Health

/-! ## Sessions -/

section Sessions

variable [Field F] [LinearOrder F] [IsStrictOrderedRing F] [Glm F]
variable {platform : Platform F R} {fuel : Nat} {boot : Boot F R}

/-- Over a run in which the counter does not wrap, an enemy that is found again
under its id has not gained health. -/
theorem World.run_weakened {world : World F R} {start finish : GameState F R}
    {batches : List (List (GameCommand F))} {records : List (StepRecord F)}
    (run : Run world.step start batches records finish) (identified : start.Identified)
    (bounded : start.nextObjectId + (createdIds (history records)).length < 2 ^ 32)
    (healthy : ∀ type ∈ world.mapData.enemyTypes, 0 ≤ type.maxHealth)
    (damaging : ∀ type ∈ world.mapData.projectileTypes, 0 ≤ type.damage)
    (inRange : ∀ enemy ∈ start.enemies, enemy.HealthInRange world.mapData)
    {enemy enemyLater : Enemy F} (member : enemy ∈ start.enemies)
    (memberLater : enemyLater ∈ finish.enemies) (sameId : enemyLater.id = enemy.id) :
    enemy.Weakened enemyLater := by
  have changes : Battle.Changes world.mapData ⟨start.enemies, []⟩
      ⟨finish.enemies, history records⟩ := World.run_changes run []
  obtain ⟨deeds, recorded, origin⟩ := changes.weakenedFrom healthy damaging inRange
  have sameDeeds : history records = deeds := recorded
  cases origin enemyLater memberLater with
  | inl fromStart =>
      rcases fromStart with ⟨earlier, earlierMember, weakened⟩
      have distinct : (start.enemies.map fun enemy => enemy.id).Nodup :=
        identified.enemies.imp Nat.ne_of_lt
      have sameEnemy : earlier = enemy :=
        List.inj_on_of_nodup_map distinct earlierMember member (weakened.id.symm.trans sameId)
      exact sameEnemy ▸ weakened
  | inr spawned =>
      have created := (spawnedIds_sublist deeds).subset spawned
      rw [← sameDeeds, sameId] at created
      have listed : enemy.id ∈ start.objectIds := List.mem_append_left _
        (List.mem_append_left _ (List.mem_map.mpr ⟨enemy, member, rfl⟩))
      exact absurd listed ((World.run_lineage run).created_fresh identified bounded created)

/-- The life cycle of the enemies of a session in which fewer than `2 ^ 32`
objects are created.  The health of an enemy stays in range; between two states
in which the id occurs it does not rise; and an enemy of the state before the last
step is absent from the state after it for three reasons only. -/
theorem Boot.play_lifeCycle {earlier later : List (List (GameCommand F))}
    {first second : Process F R} {firstRecords secondRecords : List (StepRecord F)}
    (toFirst : boot.play platform fuel earlier = .ok (first, firstRecords))
    (toSecond : boot.play platform fuel (earlier ++ later) = .ok (second, secondRecords))
    (few : createdCount secondRecords < 2 ^ 32)
    (healthy : ∀ type ∈ boot.mapData.enemyTypes, 0 ≤ type.maxHealth)
    (damaging : ∀ type ∈ boot.mapData.projectileTypes, 0 ≤ type.damage) :
    (∀ enemy ∈ second.session.next.enemies, enemy.HealthInRange boot.mapData) ∧
    (∀ enemy ∈ first.session.next.enemies, ∀ enemyLater ∈ second.session.next.enemies,
      enemyLater.id = enemy.id → enemy.Weakened enemyLater) ∧
    ∀ enemy ∈ second.session.prev.enemies, (enemy.id ∉ second.session.next.enemyIds ↔
      isNearlyZero enemy.remainingHealth = true ∨ enemy.AtGoal boot.mapData ∨
        .debugDespawnAllEnemies ∈ ([] :: (earlier ++ later)).getLast (List.cons_ne_nil _ _)) := by
  have toFirstState := pure_run_of_play platform fuel toFirst
  have firstRange : ∀ enemy ∈ first.session.next.enemies, enemy.HealthInRange boot.mapData := by
    have changes : Battle.Changes boot.mapData ⟨[], []⟩
        ⟨first.session.next.enemies, history firstRecords⟩ := World.run_changes toFirstState []
    exact changes.inRange healthy damaging fun enemy member => by cases member
  obtain ⟨rest, run, split⟩ := pure_run_of_play_append platform fuel toFirst toSecond
  have changes : Battle.Changes boot.mapData ⟨first.session.next.enemies, []⟩
      ⟨second.session.next.enemies, history rest⟩ := World.run_changes run []
  refine ⟨changes.inRange healthy damaging firstRange, ?_, ?_⟩
  · intro enemy member enemyLater memberLater sameId
    have counts : (createdIds (history firstRecords)).length +
        (createdIds (history rest)).length < 2 ^ 32 := by
      rw [createdCount, split, history_append, createdIds_append, List.length_append] at few
      exact few
    have firstLineage := World.run_lineage toFirstState
    have counter := (firstLineage.counter (by omega)).2
    exact World.run_weakened run (firstLineage.identified (by omega)) (by omega) healthy damaging
      firstRange member memberLater sameId
  · intro enemy member
    obtain ⟨before, commands, beforeRecords, record, inputs, outputs, toPrev, stepped⟩ :=
      last_step_of_play platform fuel toSecond
    have lineage := World.run_lineage toPrev
    have fewSteps : (createdIds (history beforeRecords)).length +
        (createdIds record.deeds).length < 2 ^ 32 := by
      rw [createdCount, outputs, history_append, history_single, createdIds_append,
        List.length_append] at few
      exact few
    have counter := (lineage.counter (by omega)).2
    have last : ([] :: (earlier ++ later)).getLast (List.cons_ne_nil _ _) = commands := by
      simp only [inputs, List.getLast_concat]
    rw [last]
    exact World.step_absent_iff stepped (lineage.identified (by omega)) (by omega) member

end Sessions

/-! ## When the counter wraps -/

section Wrap

variable [Arithmetic F] [Glm F] (platform : Platform F R) (mapData : MapData F)

/-- `count` enemies of one type are spawned, all enemies are despawned, and an
enemy of another type is spawned. -/
def flood (count enemyType lastType : Nat) : List (GameCommand F) :=
  .replicate count (.debugSpawnEnemy enemyType) ++
    [.debugDespawnAllEnemies, .debugSpawnEnemy lastType]

/-- Enemies of the type can be spawned. -/
structure MapData.Spawns (mapData : MapData F) (enemyType : Nat) (type : EnemyType F) : Prop where
  typed : mapData.enemyTypes[enemyType]? = some type
  waypoints : 2 ≤ mapData.enemyPath.waypoints.length

variable {enemyType lastType : Nat} {type finalType : EnemyType F} {mapData}

omit [Glm F] in
/-- Spawning an enemy of a loaded type succeeds. -/
theorem GameState.executeCommand_spawn (spawns : mapData.Spawns enemyType type)
    (frame : Frame F R) :
    ∃ after enemy, executeCommand platform mapData frame (.debugSpawnEnemy enemyType) =
        .ok after ∧
      after.next.nextObjectId = u32Succ frame.next.nextObjectId ∧
      after.next.enemies = frame.next.enemies ++ [enemy] ∧ enemy.id = frame.next.nextObjectId ∧
      enemy.remainingHealth = type.maxHealth := by
  have enough := spawns.waypoints
  have first := List.getElem?_eq_getElem (show 0 < mapData.enemyPath.waypoints.length by omega)
  have second := List.getElem?_eq_getElem (show 1 < mapData.enemyPath.waypoints.length by omega)
  simp only [executeCommand, setupEnemy, readAt, spawns.typed, first, second]
  exact ⟨_, _, rfl, rfl, rfl, rfl, rfl⟩

omit [Glm F] in
/-- Spawning many enemies advances the counter, which wraps. -/
theorem GameState.executeCommands_replicate_spawn (spawns : mapData.Spawns enemyType type)
    (count : Nat) (frame : Frame F R) (inRange : frame.next.nextObjectId < 2 ^ 32) :
    ∃ after, executeCommands platform mapData (.replicate count (.debugSpawnEnemy enemyType))
        frame = .ok after ∧
      after.next.nextObjectId = (frame.next.nextObjectId + count) % 2 ^ 32 := by
  induction count generalizing frame with
  | zero => exact ⟨frame, rfl, (Nat.mod_eq_of_lt inRange).symm⟩
  | succ count ih =>
      obtain ⟨spawned, enemy, executed, counter, _⟩ := executeCommand_spawn platform spawns frame
      have stillInRange : spawned.next.nextObjectId < 2 ^ 32 := by
        rw [counter]
        exact Nat.mod_lt _ (by decide)
      obtain ⟨after, continued, reached⟩ := ih spawned stillInRange
      refine ⟨after, ?_, ?_⟩
      · rw [executeCommands, List.replicate_succ, List.foldlM_cons, executed]
        exact continued
      · rw [reached, counter, u32Succ, Nat.mod_add_mod, Nat.add_assoc, Nat.add_comm 1 count]

/-- The commands are executed last. -/
theorem GameState.timeStep_eq_bind (initial : GameState F R) (commands : List (GameCommand F))
    (delta : F) (fuel : Nat) (frame : Frame F R) :
    timeStep platform mapData initial commands delta fuel frame = (do
      let frame ← timeStep platform mapData initial [] delta fuel frame
      executeCommands platform mapData commands frame) := by
  simp only [timeStep, bind_assoc]
  rfl

/-- After a flood one enemy is left, whose id has wrapped. -/
theorem GameState.timeStep_flood {initial : GameState F R} {delta : F} {fuel : Nat}
    {frame loops : Frame F R} (spawns : mapData.Spawns enemyType type)
    (spawnsLast : mapData.Spawns lastType finalType)
    (looped : timeStep platform mapData initial [] delta fuel frame = .ok loops)
    (inRange : loops.next.nextObjectId < 2 ^ 32) (count : Nat) :
    ∃ after last,
      timeStep platform mapData initial (flood count enemyType lastType) delta fuel frame =
        .ok after ∧
      after.next.enemies = [last] ∧ last.id = (loops.next.nextObjectId + count) % 2 ^ 32 ∧
      last.remainingHealth = finalType.maxHealth := by
  obtain ⟨flooded, executed, counter⟩ :=
    executeCommands_replicate_spawn platform spawns count loops inRange
  let despawned : Frame F R := { flooded with next.enemies := [] }
  obtain ⟨after, last, spawned, _, listed, id, health⟩ :=
    executeCommand_spawn platform spawnsLast despawned
  refine ⟨after, last, ?_, listed, id.trans counter, health⟩
  rw [executeCommands] at executed
  rw [timeStep_eq_bind, looped]
  show executeCommands platform mapData (flood count enemyType lastType) loops = .ok after
  rw [executeCommands, flood, List.foldlM_append, executed]
  show (executeCommand platform mapData despawned (.debugSpawnEnemy lastType) >>=
    fun state => pure state) = .ok after
  rw [bind_pure]
  exact spawned

end Wrap

section Meadow

open Rational

theorem meadow_maxHealth_nonneg : ∀ type ∈ meadowBoot.mapData.enemyTypes, 0 ≤ type.maxHealth := by
  decide +kernel

/-- A soldier is struck, dies and is dropped. -/
theorem soldier_lifeCycle : ∃ first firstRecords second secondRecords,
    meadowBoot.play platform 10 ((duel 0 0).take 1) = .ok (first, firstRecords) ∧
    meadowBoot.play platform 10 (duel 0 0) = .ok (second, secondRecords) ∧
    (∀ enemy ∈ first.session.next.enemies, ∀ enemyLater ∈ second.session.next.enemies,
      enemyLater.id = enemy.id → enemy.Weakened enemyLater) ∧
    ∃ enemy ∈ second.session.prev.enemies, enemy.id ∉ second.session.next.enemyIds := by
  obtain ⟨⟨first, firstRecords⟩, toFirst, _⟩ := exists_ok_of_succeedsWith
    (meadowBoot.play platform 10 ((duel 0 0).take 1)) (fun _ => true) (by decide +kernel)
  obtain ⟨⟨second, secondRecords⟩, toSecond, checked⟩ := exists_ok_of_succeedsWith
    (meadowBoot.play platform 10 (duel 0 0))
    (fun result => decide (createdCount result.2 < 2 ^ 32 ∧
      ∃ enemy ∈ result.1.session.prev.enemies, isNearlyZero enemy.remainingHealth = true))
    (by decide +kernel)
  obtain ⟨few, enemy, member, nearlyDead⟩ := of_decide_eq_true checked
  have toSplit : meadowBoot.play platform 10 ((duel 0 0).take 1 ++ (duel 0 0).drop 1) =
      .ok (second, secondRecords) := toSecond
  have lifeCycle :=
    Boot.play_lifeCycle toFirst toSplit few meadow_maxHealth_nonneg meadow_damaging
  refine ⟨first, firstRecords, second, secondRecords, toFirst, toSecond, lifeCycle.2.1, enemy,
    member, ?_⟩
  exact (lifeCycle.2.2 enemy member).mpr (.inl nearlyDead)

/-- The giant that follows the flood takes over the id of the first soldier: the
health under that id rises. -/
theorem soldier_becomes_giant :
    (∀ type ∈ meadowBoot.mapData.enemyTypes, 0 ≤ type.maxHealth) ∧
    (∀ type ∈ meadowBoot.mapData.projectileTypes, 0 ≤ type.damage) ∧
    ∃ first firstRecords second secondRecords,
      meadowBoot.play platform 10 [[.debugSpawnEnemy 0]] = .ok (first, firstRecords) ∧
      meadowBoot.play platform 10 [[.debugSpawnEnemy 0], flood (2 ^ 32 - 1) 0 2] =
        .ok (second, secondRecords) ∧
      ∃ enemy ∈ first.session.next.enemies, ∃ enemyLater ∈ second.session.next.enemies,
        enemyLater.id = enemy.id ∧ enemy.remainingHealth < enemyLater.remainingHealth := by
  refine ⟨meadow_maxHealth_nonneg, meadow_damaging, ?_⟩
  obtain ⟨⟨first, firstRecords⟩, toFirst, checked⟩ := exists_ok_of_succeedsWith
    (meadowBoot.play platform 10 [[.debugSpawnEnemy 0]])
    (fun result => decide (∃ enemy ∈ result.1.session.next.enemies, enemy.id = 0 ∧
      enemy.remainingHealth = 10))
    (by decide +kernel)
  obtain ⟨soldier, soldierMember, soldierId, soldierHealth⟩ := of_decide_eq_true checked
  -- the loops of the step that executes the flood leave the counter at one
  let world := meadowBoot.world platform 10
  obtain ⟨state, reached, stepChecked⟩ := exists_ok_of_succeedsWith
    (world.iterate (meadowBoot.startState platform) [[], [.debugSpawnEnemy 0]])
    (fun state => succeedsWith (fun frame => frame.next.nextObjectId == 1)
      (GameState.timeStep platform meadow state [] 1 10 ⟨state, [], [], []⟩))
    (by decide +kernel)
  obtain ⟨loops, looped, counter⟩ := exists_ok_of_succeedsWith _ _ stepChecked
  have counterIsOne : loops.next.nextObjectId = 1 := by simpa using counter
  have soldiers : meadow.Spawns 0 meadow.enemyTypes[0] := ⟨rfl, Nat.le_refl 2⟩
  have giants : meadow.Spawns 2 meadow.enemyTypes[2] := ⟨rfl, Nat.le_refl 2⟩
  obtain ⟨after, giant, flooded, listed, giantId, giantHealth⟩ :=
    GameState.timeStep_flood platform soldiers giants looped
      (by rw [counterIsOne]; decide) (2 ^ 32 - 1)
  have iterated : world.iterate (meadowBoot.startState platform)
      ([[], [.debugSpawnEnemy 0]] ++ [flood (2 ^ 32 - 1) 0 2]) = .ok after.next := by
    rw [World.iterate_append_single, reached]
    have stepped : world.step state (flood (2 ^ 32 - 1) 0 2) = .ok (after.next, _) :=
      World.step_eq_ok.mpr ⟨after, flooded, rfl, rfl⟩
    show (world.step state (flood (2 ^ 32 - 1) 0 2) >>= fun result => pure result.1) =
      .ok after.next
    rw [stepped]
    rfl
  obtain ⟨second, secondRecords, toSecond, sameState⟩ := Boot.play_of_iterate platform 10 iterated
  refine ⟨first, firstRecords, second, secondRecords, toFirst, toSecond, soldier, soldierMember,
    giant, ?_, ?_, ?_⟩
  · rw [sameState, listed]
    exact List.mem_singleton_self giant
  · rw [soldierId, giantId, counterIsOne]
    norm_num
  · rw [soldierHealth, giantHealth]
    decide +kernel

end Meadow

end TowerDefence
