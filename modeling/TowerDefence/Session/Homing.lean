import TowerDefence.Model.Rational
import TowerDefence.Session.Frames
import TowerDefence.Step.Salvos

/-!
# Homing projectiles

A projectile remembers its target by the id of the enemy and by the slot that the
enemy had in the list when the shot was fired.  The list is compacted in every
step, so the slot is right only if as many enemies survive in front of the target
as there were then.
-/

namespace TowerDefence

open Foundations

variable {F R : Type}

/-! ## Aiming and direct hits -/

section Direct

variable [Arithmetic F] {mapData : MapData F} {enemies : List (Enemy F)} {proj : Projectile F}

omit [Arithmetic F] in
/-- A projectile aims at the enemy in its slot if that is the target, else at the
last position of the target. -/
theorem GameState.aimProjectile_of_slot {inSlot : Enemy F}
    (found : enemies[proj.targetEnemyIndex]? = some inSlot) :
    aimProjectile enemies proj = .ok (inSlot.id == proj.targetEnemyId,
      if inSlot.id == proj.targetEnemyId then inSlot.position else proj.lastEnemyPosition) := by
  have read := readAt_eq_ok.mpr found
  rw [aimProjectile, read]
  rfl

/-- A detonation next to a living target strikes it first. -/
theorem GameState.detonate_direct {projectile : Projectile F} {type : ProjectileType F}
    {target : Vec2 F} {frame frame' : Frame F R} (typed : type ∈ mapData.projectileTypes)
    (executed : detonate mapData projectile type true target frame = .ok frame') :
    ∃ enemy later, frame.next.enemies[projectile.targetEnemyIndex]? = some enemy ∧
      frame'.deeds = frame.deeds ++ [.detonate projectile,
        .strike ⟨true, projectile.targetEnemyIndex, enemy, projectile, type.damage⟩] ++ later := by
  rw [detonate, bind_eq_ok] at executed
  rcases executed with ⟨struck, hit, splashed⟩
  rw [damageTarget, if_pos rfl] at hit
  obtain ⟨enemy, applied⟩ := applyDamageToEnemy_applied hit
  obtain ⟨later, recorded, _⟩ := (damageSplash_impacts typed splashed).sameObjects.deeds
  refine ⟨enemy, later, applied.found, ?_⟩
  rw [recorded, applied.deeds]
  simp

/-- Direct damage is dealt to the enemy that the projectile was aimed at, in the
slot that the projectile remembers. -/
def DirectHitsTarget (ids : List Nat) (deeds : List (Deed F)) : Prop :=
  ∀ strike ∈ strikes deeds, strike.direct = true →
    strike.enemy.id = strike.projectile.targetEnemyId ∧
      ids[strike.projectile.targetEnemyIndex]? = some strike.projectile.targetEnemyId

omit [Arithmetic F] in
/-- The target of a living aim is in the slot. -/
theorem Projectile.Aim.id_slot {position : Vec2 F} {type : ProjectileType F}
    (aim : proj.Aim mapData enemies true position type) :
    (enemies.map fun enemy => enemy.id)[proj.targetEnemyIndex]? = some proj.targetEnemyId := by
  obtain ⟨inSlot, found, sameAlive, _⟩ := aim.slot
  have inSlotId : inSlot.id = proj.targetEnemyId := eq_of_beq sameAlive.symm
  rw [List.getElem?_map, found, Option.map_some, inSlotId]

variable [Glm F] {platform : Platform F R} {initial : GameState F R}
variable {commands : List (GameCommand F)} {delta : F} {fuel : Nat}
variable {start moved fired struck after frame frame' : Frame F R}

/-- Only a living target is struck directly. -/
theorem Projectile.Aim.directHitsTarget {alive : Bool} {position : Vec2 F}
    {type : ProjectileType F} (aim : proj.Aim mapData frame.next.enemies alive position type)
    (holds : DirectHitsTarget frame.next.enemyIds frame.deeds)
    (detonated : GameState.detonate mapData (proj.turned position) type alive position frame =
      .ok frame') : DirectHitsTarget frame.next.enemyIds frame'.deeds := by
  rw [GameState.detonate, bind_eq_ok] at detonated
  rcases detonated with ⟨hit, direct, splashed⟩
  have afterDirect : DirectHitsTarget frame.next.enemyIds hit.deeds := by
    cases alive with
    | false =>
        rw [GameState.damageTarget, if_neg Bool.false_ne_true, pure_eq_ok] at direct
        rw [← direct, DirectHitsTarget, strikes_append]
        exact fun strike member => holds strike (by simpa [strikes, Deed.asStrike] using member)
    | true =>
        rw [GameState.damageTarget, if_pos rfl] at direct
        obtain ⟨enemy, applied⟩ := GameState.applyDamageToEnemy_applied direct
        have inSlot := aim.id_slot
        have struckId : some enemy.id = some proj.targetEnemyId := by
          rw [← inSlot, List.getElem?_map]
          exact (congrArg (Option.map fun enemy => enemy.id) applied.found).symm
        rw [applied.deeds]
        intro strike member isDirect
        rw [strikes_append, strikes_append, strikes_single, List.mem_append, List.mem_append,
          List.mem_singleton] at member
        rcases member with (earlier | none) | last
        · exact holds strike earlier isDirect
        · cases none
        · subst last
          exact ⟨Option.some.inj struckId, inSlot⟩
  obtain ⟨hits, reached, _, bySplash⟩ := GameState.damageSplash_hits splashed
  rw [reached.deeds]
  intro strike member isDirect
  rw [strikes_append] at member
  cases List.mem_append.mp member with
  | inl earlier => exact afterDirect strike earlier isDirect
  | inr splash =>
      obtain ⟨hit', hitMember, isHit⟩ := List.mem_map.mp (mem_strikes.mp splash)
      cases isHit
      rw [(bySplash strike hitMember).2] at isDirect
      cases isDirect

/-- One iteration of the projectile loop. -/
theorem GameState.updateProjectile_directHitsTarget
    (holds : DirectHitsTarget frame.next.enemyIds frame.deeds)
    (executed : updateProjectile mapData delta frame proj = .ok frame') :
    DirectHitsTarget frame.next.enemyIds frame'.deeds := by
  cases updateProjectile_step executed with
  | skipped _ => exact holds
  | flies _ _ => exact holds
  | detonates aim _ detonated => exact aim.directHitsTarget holds detonated

theorem StepFrames.directHitsTarget
    (frames : StepFrames platform mapData initial commands delta fuel start moved fired struck
      after) : DirectHitsTarget (survivorIds mapData initial) after.deeds := by
  obtain ⟨images, reached, _⟩ := GameState.moveEnemies_spec frames.moves
  obtain ⟨copies, shots, volley, _, _⟩ := GameState.updateTowers_spec frames.fires
  have afterShots : DirectHitsTarget (survivorIds mapData initial) fired.deeds := by
    rw [DirectHitsTarget, volley.strikes_eq, reached]
    show DirectHitsTarget (survivorIds mapData initial) start.deeds
    rw [frames.fresh]
    intro strike member
    cases member
  have firedIds : fired.next.enemyIds = survivorIds mapData initial := by
    rw [← GameState.moveEnemies_ids frames.moves, volley.next]
    rfl
  obtain ⟨_, afterStrikes⟩ := foldlM_invariant
    (fun state => state.next.enemyIds = survivorIds mapData initial ∧
      DirectHitsTarget (survivorIds mapData initial) state.deeds) frames.hits
    ⟨firedIds, afterShots⟩ (by
      intro proj state state' _ ⟨sameIds, holds⟩ stepped
      refine ⟨?_, sameIds ▸ GameState.updateProjectile_directHitsTarget (sameIds ▸ holds) stepped⟩
      rw [← sameIds]
      exact Enemy.ids_eq_of_bodies (GameState.updateProjectile_step stepped).carries.1.bodies)
  rw [DirectHitsTarget, GameState.executeCommands_strikes frames.commanded]
  exact afterStrikes

/-- A detonation next to a living target leaves a direct strike on it. -/
theorem StepFrames.direct_hit {reached reached' : Frame F R} {type : ProjectileType F}
    {position : Vec2 F} {deeds : List (Deed F)}
    (frames : StepFrames platform mapData initial commands delta fuel start moved fired struck
      after)
    (typed : type ∈ mapData.projectileTypes)
    (detonated : GameState.detonate mapData (proj.turned position) type true position reached =
      .ok reached')
    (recorded : after.deeds = reached'.deeds ++ deeds) :
    ∃ strike ∈ strikes after.deeds, strike.direct = true ∧
      strike.projectile = proj.turned position ∧ strike.enemy.id = proj.targetEnemyId ∧
      strike.damage = type.damage := by
  obtain ⟨enemy, harm, _, grown⟩ := GameState.detonate_direct typed detonated
  have hit : (Strike.mk true proj.targetEnemyIndex enemy (proj.turned position) type.damage) ∈
      strikes after.deeds := by
    rw [recorded, grown]
    apply mem_strikes.mpr
    apply List.mem_append_left
    apply List.mem_append_left
    apply List.mem_append_right
    exact List.mem_cons_of_mem _ (List.mem_singleton_self _)
  exact ⟨_, hit, rfl, rfl, (frames.directHitsTarget _ hit rfl).1, rfl⟩

end Direct

/-! ## Homing -/

section Homing

variable [Arithmetic F] [Glm F]

/-- The projectile flies towards the new position of `target`, or it is within reach
and damages that enemy directly, and no other enemy. -/
structure Homes (mapData : MapData F) (delta : F) (target : Enemy F) (proj : Projectile F)
    (type : ProjectileType F) (after : Frame F R) : Prop where
  typed : mapData.projectileTypes[proj.typeIdx]? = some type
  flies : type.speed * delta < Glm.length (target.position - proj.position) →
    proj.flown target.position type delta ∈ after.next.projectiles
  damages : ¬type.speed * delta < Glm.length (target.position - proj.position) →
    ∃ strike ∈ strikes after.deeds, strike.direct = true ∧
      strike.projectile = proj.turned target.position ∧ strike.enemy.id = target.id ∧
      strike.damage = type.damage
  only : ∀ strike ∈ strikes after.deeds, strike.direct = true →
    strike.projectile = proj.turned target.position → strike.enemy.id = target.id

variable {platform : Platform F R} {mapData : MapData F} {initial : GameState F R}
variable {commands : List (GameCommand F)} {delta : F} {fuel : Nat}
variable {start moved fired struck after : Frame F R} {proj : Projectile F} {target : Enemy F}

omit [Arithmetic F] [Glm F] in
theorem idxOf_eq_of_slot {ids : List Nat} (distinct : ids.Nodup)
    (inSlot : ids[proj.targetEnemyIndex]? = some proj.targetEnemyId) :
    ids.idxOf proj.targetEnemyId = proj.targetEnemyIndex := by
  obtain ⟨inBounds, idAt⟩ := List.getElem?_eq_some_iff.mp inSlot
  rw [← idAt]
  exact distinct.idxOf_getElem _ inBounds

/-- The projectile loop aims at the target exactly when the target is in the slot. -/
theorem StepFrames.aims_iff
    (frames : StepFrames platform mapData initial commands delta fuel start moved fired struck
      after)
    (distinct : moved.next.enemyIds.Nodup) (member : proj ∈ initial.projectiles)
    (targetMember : target ∈ moved.next.enemies) (isTarget : target.id = proj.targetEnemyId) :
    (∃ type, proj.Aim mapData moved.next.enemies true target.position type) ↔
      moved.next.enemyIds.idxOf proj.targetEnemyId = proj.targetEnemyIndex := by
  constructor
  · intro aims
    rcases aims with ⟨_, aim⟩
    exact idxOf_eq_of_slot distinct aim.id_slot
  · intro sameSlot
    have listed : proj.targetEnemyId ∈ moved.next.enemyIds :=
      List.mem_map.mpr ⟨target, targetMember, isTarget⟩
    have idFound := List.getElem?_idxOf listed
    rw [sameSlot, GameState.enemyIds, List.getElem?_map, Option.map_eq_some_iff] at idFound
    rcases idFound with ⟨inSlot, found, inSlotId⟩
    have isInSlot : inSlot = target := List.inj_on_of_nodup_map distinct
      (List.mem_of_getElem? found) targetMember (inSlotId.trans isTarget.symm)
    rw [isInSlot] at found
    have aimed := GameState.aimProjectile_of_slot found
    simp only [isTarget, beq_self_eq_true, if_true] at aimed
    obtain ⟨before, later, split⟩ := List.append_of_mem member
    obtain ⟨_, _, iteration, _⟩ := frames.iteration split
    have inRange := (List.getElem?_eq_some_iff.mp found).1
    obtain ⟨type, aim, _⟩ := iteration.outcome frames inRange aimed
    exact ⟨type, aim⟩

/-- A projectile that aims at the position of its target homes, unless it arrives
there and does not know that the target is alive. -/
theorem StepFrames.homes_of_aim
    (frames : StepFrames platform mapData initial commands delta fuel start moved fired struck
      after)
    (member : proj ∈ initial.projectiles) (isTarget : target.id = proj.targetEnemyId)
    {alive : Bool} {type : ProjectileType F}
    (aim : proj.Aim mapData moved.next.enemies alive target.position type)
    (known : ¬type.speed * delta < Glm.length (target.position - proj.position) → alive = true) :
    Homes mapData delta target proj type after := by
  have only : ∀ strike ∈ strikes after.deeds, strike.direct = true →
      strike.projectile = proj.turned target.position → strike.enemy.id = target.id := by
    intro strike struckMember isDirect sameProjectile
    rw [(frames.directHitsTarget strike struckMember isDirect).1, sameProjectile, isTarget]
    rfl
  obtain ⟨before, later, split⟩ := List.append_of_mem member
  obtain ⟨reached, reached', iteration, ⟨images, appended⟩, deeds, recorded⟩ :=
    frames.iteration split
  obtain ⟨type', aim', outcome⟩ := iteration.outcome frames aim.inRange aim.aimed
  obtain ⟨_, _, sameType⟩ := aim.unique aim'
  subst sameType
  cases outcome with
  | inl flies =>
      rcases flies with ⟨farther, flown⟩
      refine ⟨aim.typed, ?_, fun near => absurd farther near, only⟩
      intro _
      rw [appended, flown]
      exact List.mem_append_left _ (List.mem_append_right _ (List.mem_singleton_self _))
  | inr detonates =>
      rcases detonates with ⟨near, detonated⟩
      refine ⟨aim.typed, fun farther => absurd farther near, ?_, only⟩
      intro _
      rw [known near] at detonated
      obtain ⟨strike, struckMember, isDirect, sameProjectile, sameEnemy, sameDamage⟩ :=
        frames.direct_hit (List.mem_of_getElem? aim.typed) detonated recorded
      exact ⟨strike, struckMember, isDirect, sameProjectile, sameEnemy.trans isTarget.symm,
        sameDamage⟩

/-- One of `survivors` slots is the projectile's, the target stands where the projectile
saw it last, and that is more than a step away. -/
structure SeenInPlace (mapData : MapData F) (delta : F) (survivors : Nat) (target : Enemy F)
    (proj : Projectile F) : Prop where
  occupied : proj.targetEnemyIndex < survivors
  inPlace : proj.lastEnemyPosition = target.position
  farther : ∃ type, mapData.projectileTypes[proj.typeIdx]? = some type ∧
    type.speed * delta < Glm.length (target.position - proj.position)

/-- What a projectile that homes knew of its target. -/
theorem StepFrames.slot_of_homes
    (frames : StepFrames platform mapData initial commands delta fuel start moved fired struck
      after)
    (identified : initial.Identified)
    (bounded : initial.nextObjectId + (createdIds after.deeds).length < 2 ^ 32)
    (distinct : moved.next.enemyIds.Nodup) (member : proj ∈ initial.projectiles)
    {type : ProjectileType F} (homes : Homes mapData delta target proj type after) :
    moved.next.enemyIds.idxOf proj.targetEnemyId = proj.targetEnemyIndex ∨
      SeenInPlace mapData delta moved.next.enemyIds.length target proj := by
  by_cases farther : type.speed * delta < Glm.length (target.position - proj.position)
  · obtain ⟨alive, position, type', aim, _, image⟩ :=
      frames.flight_of_mem identified bounded member (homes.flies farther) rfl
    have samePosition : target.position = position :=
      congrArg (fun projectile => projectile.lastEnemyPosition) image
    subst samePosition
    cases alive with
    | true => exact .inl (idxOf_eq_of_slot distinct aim.id_slot)
    | false =>
        obtain ⟨_, _, _, lastKnown⟩ := aim.slot
        rw [if_neg Bool.false_ne_true] at lastKnown
        have occupied : proj.targetEnemyIndex < moved.next.enemyIds.length := by
          simpa [GameState.enemyIds] using aim.inRange
        exact .inr ⟨occupied, lastKnown.symm, type, homes.typed, farther⟩
  · obtain ⟨strike, struckMember, isDirect, sameProjectile, _⟩ := homes.damages farther
    have inSlot := (frames.directHitsTarget strike struckMember isDirect).2
    rw [sameProjectile, ← GameState.moveEnemies_ids frames.moves] at inSlot
    exact .inl (idxOf_eq_of_slot distinct inSlot)

/-- A projectile that aims at the last position of its target homes if the target is
still there. -/
theorem StepFrames.homes_of_seenInPlace
    (frames : StepFrames platform mapData initial commands delta fuel start moved fired struck
      after)
    (distinct : moved.next.enemyIds.Nodup) (member : proj ∈ initial.projectiles)
    (targetMember : target ∈ moved.next.enemies) (isTarget : target.id = proj.targetEnemyId)
    (seen : SeenInPlace mapData delta moved.next.enemyIds.length target proj) :
    ∃ type, Homes mapData delta target proj type after := by
  obtain ⟨type, typed, farther⟩ := seen.farther
  have occupied : proj.targetEnemyIndex < moved.next.enemies.length := by
    simpa [GameState.enemyIds] using seen.occupied
  have aimed := GameState.aimProjectile_of_slot (List.getElem?_eq_getElem occupied)
  split at aimed
  case isTrue isAlive =>
      have inSlot : moved.next.enemies[proj.targetEnemyIndex] = target :=
        List.inj_on_of_nodup_map distinct (List.getElem_mem occupied) targetMember
          ((eq_of_beq isAlive).trans isTarget.symm)
      rw [inSlot] at aimed
      exact ⟨type, frames.homes_of_aim member isTarget ⟨occupied, aimed, typed⟩
        fun near => absurd farther near⟩
  case isFalse _ =>
      rw [seen.inPlace] at aimed
      exact ⟨type, frames.homes_of_aim member isTarget ⟨occupied, aimed, typed⟩
        fun near => absurd farther near⟩

/-- The projectile loop aims at the target and the projectile homes exactly when the
target is in its slot.  By its path alone a projectile also homes when the target has
not moved since the projectile saw it. -/
theorem StepFrames.homes_iff
    (frames : StepFrames platform mapData initial commands delta fuel start moved fired struck
      after)
    (identified : initial.Identified) (member : proj ∈ initial.projectiles)
    (targetMember : target ∈ moved.next.enemies) (isTarget : target.id = proj.targetEnemyId) :
    ((∃ type, proj.Aim mapData moved.next.enemies true target.position type ∧
        Homes mapData delta target proj type after) ↔
      (survivorIds mapData initial).idxOf proj.targetEnemyId = proj.targetEnemyIndex) ∧
    (initial.nextObjectId + (createdIds after.deeds).length < 2 ^ 32 →
      ((∃ type, Homes mapData delta target proj type after) ↔
        (survivorIds mapData initial).idxOf proj.targetEnemyId = proj.targetEnemyIndex ∨
          SeenInPlace mapData delta (survivorIds mapData initial).length target proj)) := by
  have movedIds := GameState.moveEnemies_ids frames.moves
  have distinct : moved.next.enemyIds.Nodup := by
    rw [movedIds]
    exact (identified.enemies.imp Nat.ne_of_lt).sublist (List.filter_sublist.map _)
  have aims := frames.aims_iff distinct member targetMember isTarget
  have aimedHomes : ∀ {type : ProjectileType F},
      proj.Aim mapData moved.next.enemies true target.position type →
      Homes mapData delta target proj type after :=
    fun aim => frames.homes_of_aim member isTarget aim fun _ => rfl
  rw [← movedIds]
  constructor
  · rw [← aims]
    constructor
    · intro homes
      obtain ⟨type, aim, _⟩ := homes
      exact ⟨type, aim⟩
    · intro aimed
      obtain ⟨type, aim⟩ := aimed
      exact ⟨type, aim, aimedHomes aim⟩
  · intro bounded
    constructor
    · intro homes
      obtain ⟨_, homes⟩ := homes
      exact frames.slot_of_homes identified bounded distinct member homes
    · intro known
      cases known with
      | inl sameSlot =>
          obtain ⟨type, aim⟩ := aims.mpr sameSlot
          exact ⟨type, aimedHomes aim⟩
      | inr seen => exact frames.homes_of_seenInPlace distinct member targetMember isTarget seen

end Homing

section Sessions

variable [Arithmetic F] [Glm F] {platform : Platform F R} {fuel steps : Nat} {boot : Boot F R}
variable {batches : List (List (GameCommand F))} {process : Process F R}
variable {records : List (StepRecord F)} {commands : List (GameCommand F)} {delta : F}
variable {start moved fired struck after : Frame F R} {proj : Projectile F} {target : Enemy F}

/-- For every state of a session in which fewer than `2 ^ 32` objects are created,
every step from it and every projectile whose target survives the movement loop:
the projectile is aimed at its target and homes exactly when its slot is the number of
enemies that survive in front of the target.  A projectile with a wrong slot goes the
way of one that homes only while the target stands where the projectile saw it last,
and never damages it. -/
theorem Boot.play_homes_iff (played : boot.play platform fuel batches = .ok (process, records))
    (few : createdCount records < 2 ^ 32)
    (frames : StepFrames platform boot.mapData process.session.next commands delta steps start
      moved fired struck after)
    (member : proj ∈ process.session.next.projectiles)
    (targetMember : target ∈ moved.next.enemies) (isTarget : target.id = proj.targetEnemyId) :
    ((∃ type, proj.Aim boot.mapData moved.next.enemies true target.position type ∧
        Homes boot.mapData delta target proj type after) ↔
      (survivorIds boot.mapData process.session.next).idxOf proj.targetEnemyId =
        proj.targetEnemyIndex) ∧
    (createdCount records + (createdIds after.deeds).length < 2 ^ 32 →
      ((∃ type, Homes boot.mapData delta target proj type after) ↔
        (survivorIds boot.mapData process.session.next).idxOf proj.targetEnemyId =
          proj.targetEnemyIndex ∨
        SeenInPlace boot.mapData delta
          (survivorIds boot.mapData process.session.next).length target proj)) := by
  have lineage := World.run_lineage (pure_run_of_play platform fuel played)
  have counter := (lineage.counter few).2
  have homes := frames.homes_iff (lineage.identified few) member targetMember isTarget
  refine ⟨homes.1, fun fewer => homes.2 ?_⟩
  rw [createdCount] at fewer
  omega

end Sessions

section Meadow

open Rational

/-- A frame in which a step can start. -/
def Rational.blank (state : GameState ℚ Nat) : Frame ℚ Nat := ⟨state, [], [], []⟩

/-- The frames of a step without commands. -/
def Rational.idleFrames (state : GameState ℚ Nat) :
    Exec (Frame ℚ Nat × Frame ℚ Nat × Frame ℚ Nat × Frame ℚ Nat) :=
  StepFrames.execute platform meadow state [] 1 10 (blank state)

/-- The first shot of a duel homes. -/
theorem duel_homes : ∃ process records moved fired struck after proj target type,
    meadowBoot.play platform 10 ((duel 0 0).take 3) = .ok (process, records) ∧
    StepFrames platform meadow process.session.next [] 1 10 (blank process.session.next) moved
      fired struck after ∧
    proj ∈ process.session.next.projectiles ∧ target ∈ moved.next.enemies ∧
    proj.Aim meadow moved.next.enemies true target.position type ∧
    Homes meadow 1 target proj type after := by
  obtain ⟨⟨process, records⟩, played, checked⟩ := exists_ok_of_succeedsWith
    (meadowBoot.play platform 10 ((duel 0 0).take 3))
    (fun result => decide (createdCount result.2 < 2 ^ 32) &&
      succeedsWith (fun (moved, _) => decide (∃ proj ∈ result.1.session.next.projectiles,
        ∃ target ∈ moved.next.enemies, target.id = proj.targetEnemyId ∧
          (survivorIds meadow result.1.session.next).idxOf proj.targetEnemyId =
            proj.targetEnemyIndex))
        (idleFrames result.1.session.next))
    (by decide +kernel)
  rw [Bool.and_eq_true] at checked
  rcases checked with ⟨few, stepChecked⟩
  obtain ⟨⟨moved, fired, struck, after⟩, executed, found⟩ :=
    exists_ok_of_succeedsWith _ _ stepChecked
  obtain ⟨proj, member, target, targetMember, isTarget, inSlot⟩ := of_decide_eq_true found
  have frames := StepFrames.of_execute rfl executed
  obtain ⟨type, aim, homes⟩ := (Boot.play_homes_iff played (of_decide_eq_true few) frames member
    targetMember isTarget).1.mpr inSlot
  exact ⟨process, records, moved, fired, struck, after, proj, target, type, played, frames, member,
    targetMember, aim, homes⟩

/-- One cannon guards the road, the other one shoots at the soldier who follows. -/
def ambush : List (List (GameCommand ℚ)) :=
  [[.debugSpawnEnemy 0, .buildTower 0 ⟨12, 1 / 2⟩, .buildTower 0 ⟨-9, 1 / 2⟩], [], [], [],
    [.debugSpawnEnemy 0], []]

/-- The soldier in front is killed, so the list is compacted while the shot at the
soldier behind is in flight: that shot neither flies on nor strikes anyone. -/
theorem ambush_misses : ∃ process records moved fired struck after proj target,
    meadowBoot.play platform 10 ambush = .ok (process, records) ∧
    createdCount records < 2 ^ 32 ∧
    StepFrames platform meadow process.session.next [] 1 10 (blank process.session.next) moved
      fired struck after ∧
    proj ∈ process.session.next.projectiles ∧ target ∈ moved.next.enemies ∧
    target.id = proj.targetEnemyId ∧ proj.id ∉ after.next.projectileIds ∧
    (∀ strike ∈ strikes after.deeds, strike.projectile.id ≠ proj.id) ∧
    ∀ type, ¬Homes meadow 1 target proj type after := by
  obtain ⟨⟨process, records⟩, played, checked⟩ := exists_ok_of_succeedsWith
    (meadowBoot.play platform 10 ambush)
    (fun result => decide (createdCount result.2 < 2 ^ 32) &&
      succeedsWith (fun (moved, _, _, after) =>
        decide (∃ proj ∈ result.1.session.next.projectiles,
          ∃ target ∈ moved.next.enemies, target.id = proj.targetEnemyId ∧
            proj.id ∉ after.next.projectileIds ∧
            ∀ strike ∈ strikes after.deeds, strike.projectile.id ≠ proj.id))
        (idleFrames result.1.session.next))
    (by decide +kernel)
  rw [Bool.and_eq_true] at checked
  rcases checked with ⟨few, stepChecked⟩
  obtain ⟨⟨moved, fired, struck, after⟩, executed, found⟩ :=
    exists_ok_of_succeedsWith _ _ stepChecked
  obtain ⟨proj, member, target, targetMember, isTarget, gone, noStrike⟩ := of_decide_eq_true found
  refine ⟨process, records, moved, fired, struck, after, proj, target, played,
    of_decide_eq_true few, StepFrames.of_execute rfl executed, member, targetMember, isTarget, gone,
    noStrike, ?_⟩
  intro type homes
  by_cases farther : type.speed * 1 < Glm.length (target.position - proj.position)
  · exact gone (List.mem_map.mpr ⟨_, homes.flies farther, rfl⟩)
  · obtain ⟨strike, struckMember, _, sameProjectile, _⟩ := homes.damages farther
    exact noStrike strike struckMember (congrArg (fun projectile => projectile.id) sameProjectile)

end Meadow

end TowerDefence
