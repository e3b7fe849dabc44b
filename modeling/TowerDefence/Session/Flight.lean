import TowerDefence.Session.Homing

/-!
# Conservation of shots

A projectile should keep flying until it detonates, also when its target is gone.
The projectile loop gives up a projectile whose remembered slot lies behind the
end of the enemy list, so shots vanish when the list shrinks.
-/

namespace TowerDefence

open Foundations

variable {F R : Type}

/-! ## Where a shot should go -/

namespace Projectile

/-- The enemy that the projectile was fired at, if it is still there. -/
def target (enemies : List (Enemy F)) (proj : Projectile F) : Option (Enemy F) :=
  enemies.find? fun enemy => enemy.id == proj.targetEnemyId

/-- The position of a living target, else the last known one. -/
def goal (enemies : List (Enemy F)) (proj : Projectile F) : Vec2 F :=
  match proj.target enemies with
  | some enemy => enemy.position
  | none => proj.lastEnemyPosition

/-- A target that is among the enemies is the one in the projectile's slot. -/
def Tracks (ids : List Nat) (proj : Projectile F) : Prop :=
  proj.targetEnemyId ∈ ids → ids.idxOf proj.targetEnemyId = proj.targetEnemyIndex

variable {enemies : List (Enemy F)} {proj : Projectile F}

theorem of_target_eq_some {enemy : Enemy F} (isTarget : proj.target enemies = some enemy) :
    enemy ∈ enemies ∧ enemy.id = proj.targetEnemyId := by
  rw [target] at isTarget
  exact ⟨List.mem_of_find?_eq_some isTarget, by simpa using List.find?_some isTarget⟩

/-- A projectile whose slot is right aims where it should. -/
theorem Tracks.aimed (tracks : proj.Tracks (enemies.map fun enemy => enemy.id))
    (distinct : (enemies.map fun enemy => enemy.id).Nodup)
    (inRange : proj.targetEnemyIndex < enemies.length) :
    GameState.aimProjectile enemies proj =
      .ok ((proj.target enemies).isSome, proj.goal enemies) := by
  have found : enemies[proj.targetEnemyIndex]? = some enemies[proj.targetEnemyIndex] :=
    List.getElem?_eq_getElem inRange
  rw [GameState.aimProjectile_of_slot found, goal]
  cases isTarget : proj.target enemies with
  | some enemy =>
      obtain ⟨member, sameId⟩ := of_target_eq_some isTarget
      have listed : proj.targetEnemyId ∈ enemies.map fun enemy => enemy.id :=
        List.mem_map.mpr ⟨enemy, member, sameId⟩
      have idFound := List.getElem?_idxOf listed
      rw [tracks listed, List.getElem?_map, found, Option.map_some, Option.some_inj] at idFound
      have inSlot : enemies[proj.targetEnemyIndex] = enemy := List.inj_on_of_nodup_map distinct
        (List.getElem_mem inRange) member (idFound.trans sameId.symm)
      simp [inSlot, sameId]
  | none =>
      have other := List.find?_eq_none.mp isTarget _ (List.getElem_mem inRange)
      simp only [Bool.not_eq_true] at other
      simp [other]

end Projectile

/-! ## Exact flight -/

section Exact

variable [Field F] [LinearOrder F] [IsStrictOrderedRing F] [Glm F]
variable {proj : Projectile F} {goal : Vec2 F} {type : ProjectileType F} {delta : F}

omit [IsStrictOrderedRing F] in
theorem Projectile.flown_position :
    (proj.flown goal type delta).position = proj.position + (goal - proj.position) /
      Glm.length (goal - proj.position) * type.speed * delta :=
  rfl

omit [IsStrictOrderedRing F] in
/-- What is left of the way to the goal after one step. -/
theorem Projectile.flown_remaining :
    goal - (proj.flown goal type delta).position =
      (goal - proj.position) *
        (1 - type.speed * delta / Glm.length (goal - proj.position)) := by
  rw [Projectile.flown_position]
  apply Vec2.ext
  · simp only [Vec2.sub_x, Vec2.add_x, Vec2.div_x, Vec2.mul_x]
    ring
  · simp only [Vec2.sub_y, Vec2.add_y, Vec2.div_y, Vec2.mul_y]
    ring

/-- A projectile that flies on comes closer by the length of its step. -/
theorem Projectile.flown_closer (exact : ExactLength F)
    (away : 0 < Glm.length (goal - proj.position))
    (farther : type.speed * delta < Glm.length (goal - proj.position)) :
    Glm.length (goal - (proj.flown goal type delta).position) =
      Glm.length (goal - proj.position) - type.speed * delta := by
  have fraction : 0 ≤ 1 - type.speed * delta / Glm.length (goal - proj.position) := by
    rw [sub_nonneg, div_le_one away]
    exact le_of_lt farther
  rw [Projectile.flown_remaining, exact.scale _ _ fraction, mul_sub, mul_one,
    mul_div_cancel₀ _ (ne_of_gt away)]

omit [IsStrictOrderedRing F] in
/-- A projectile at its goal does not move, whatever its speed. -/
theorem Projectile.flown_at_goal (arrived : Glm.length (goal - proj.position) = 0) :
    (proj.flown goal type delta).position = proj.position := by
  rw [Projectile.flown_position, arrived]
  apply Vec2.ext
  · simp only [Vec2.add_x, Vec2.div_x, Vec2.mul_x, div_zero, zero_mul, add_zero]
  · simp only [Vec2.add_y, Vec2.div_y, Vec2.mul_y, div_zero, zero_mul, add_zero]

end Exact

/-! ## Conservation -/

section Conservation

variable [Arithmetic F]

/-- What a detonation records. -/
theorem GameState.detonate_grows {mapData : MapData F} {projectile : Projectile F}
    {type : ProjectileType F} {alive : Bool} {target : Vec2 F} {frame frame' : Frame F R}
    (typed : type ∈ mapData.projectileTypes)
    (executed : detonate mapData projectile type alive target frame = .ok frame') :
    ∃ later, frame'.deeds = frame.deeds ++ .detonate projectile :: later := by
  cases alive with
  | true =>
      obtain ⟨enemy, later, _, recorded⟩ := detonate_direct typed executed
      exact ⟨_, by rw [recorded, List.append_assoc]; rfl⟩
  | false =>
      rw [detonate, bind_eq_ok] at executed
      rcases executed with ⟨struck, hit, splashed⟩
      rw [damageTarget, if_neg Bool.false_ne_true, pure_eq_ok] at hit
      obtain ⟨later, recorded, _⟩ := (damageSplash_impacts typed splashed).sameObjects.deeds
      exact ⟨later, by rw [recorded, ← hit, List.append_assoc]; rfl⟩

variable [Glm F]

/-- The projectile flies on: the next state holds it once, closer to its goal by
the length of one step. -/
structure FliesOn (delta : F) (goal : Vec2 F) (proj : Projectile F) (type : ProjectileType F)
    (next : GameState F R) : Prop where
  once : next.projectileIds.count proj.id = 1
  closer : ∃ projNext ∈ next.projectiles, projNext.id = proj.id ∧
    Glm.length (goal - projNext.position) =
      Glm.length (goal - proj.position) - type.speed * delta

/-- The projectile detonates at its goal: it is gone, and its iteration of the
loop executed the detonation. -/
structure Detonates (mapData : MapData F) (delta : F) (moved fired : Frame F R)
    (before : List (Projectile F)) (proj : Projectile F) (type : ProjectileType F)
    (after : Frame F R) : Prop where
  gone : proj.id ∉ after.next.projectileIds
  near : Glm.length (proj.goal moved.next.enemies - proj.position) ≤ type.speed * delta
  detonated : ∃ reached reached',
    StepFrames.Iteration mapData delta fired before proj reached reached' ∧
    GameState.detonate mapData (proj.turned (proj.goal moved.next.enemies)) type
      (proj.target moved.next.enemies).isSome (proj.goal moved.next.enemies) reached =
      .ok reached'
  damages : ∀ enemy, proj.target moved.next.enemies = some enemy → ∃ strike ∈ strikes after.deeds,
    strike.direct = true ∧ strike.projectile = proj.turned (proj.goal moved.next.enemies) ∧
    strike.enemy.id = enemy.id ∧ strike.damage = type.damage

/-- The projectile between `before` and `later` does not vanish in the step. -/
def ShotConserved (mapData : MapData F) (delta : F) (moved fired : Frame F R)
    (before : List (Projectile F)) (proj : Projectile F) (after : Frame F R) : Prop :=
  ∃ type, mapData.projectileTypes[proj.typeIdx]? = some type ∧
    (FliesOn delta (proj.goal moved.next.enemies) proj type after.next ∨
      Detonates mapData delta moved fired before proj type after)

variable {platform : Platform F R} {mapData : MapData F} {initial : GameState F R}
variable {commands : List (GameCommand F)} {delta : F} {fuel : Nat}
variable {start moved fired struck after : Frame F R} {proj : Projectile F}
variable {before later : List (Projectile F)}

/-- A projectile whose slot lies behind the end of the enemy list vanishes. -/
theorem StepFrames.not_conserved
    (frames : StepFrames platform mapData initial commands delta fuel start moved fired struck
      after)
    (identified : initial.Identified)
    (bounded : initial.nextObjectId + (createdIds after.deeds).length < 2 ^ 32)
    (member : proj ∈ initial.projectiles)
    (outOfRange : (survivorIds mapData initial).length ≤ proj.targetEnemyIndex) :
    ¬ShotConserved mapData delta moved fired before proj after := by
  intro conserved
  rcases conserved with ⟨type, typed, outcome⟩
  rw [← GameState.moveEnemies_ids frames.moves, GameState.enemyIds, List.length_map] at outOfRange
  cases outcome with
  | inl flies =>
      have present := List.count_pos_iff.mp (flies.once ▸ Nat.one_pos)
      exact frames.ended_notMem identified bounded member (.inl outOfRange) present
  | inr detonates =>
      obtain ⟨reached, reached', iteration, detonated⟩ := detonates.detonated
      obtain ⟨harm, recorded⟩ := GameState.detonate_grows (List.mem_of_getElem? typed) detonated
      rw [← Enemy.length_eq_of_bodies (iteration.bodies frames)] at outOfRange
      cases GameState.updateProjectile_step iteration.steps with
      | skipped _ => simp at recorded
      | flies aim _ => exact absurd aim.inRange (Nat.not_lt.mpr outOfRange)
      | detonates aim _ _ => exact absurd aim.inRange (Nat.not_lt.mpr outOfRange)

end Conservation

section ExactConservation

variable [Field F] [LinearOrder F] [IsStrictOrderedRing F] [Glm F]
variable {platform : Platform F R} {mapData : MapData F} {initial : GameState F R}
variable {commands : List (GameCommand F)} {delta : F} {fuel : Nat}
variable {start moved fired struck after : Frame F R} {proj : Projectile F}
variable {before later : List (Projectile F)}

omit [IsStrictOrderedRing F] in
/-- A projectile that comes closer to its goal was moving: only a projectile that
is at its goal already cannot move away from it. -/
theorem ShotConserved.moving (conserved : ShotConserved mapData delta moved fired before proj after)
    (exact : ExactLength F)
    (frames : StepFrames platform mapData initial commands delta fuel start moved fired struck
      after)
    (identified : initial.Identified)
    (bounded : initial.nextObjectId + (createdIds after.deeds).length < 2 ^ 32)
    (member : proj ∈ initial.projectiles) {type : ProjectileType F}
    (aim : proj.Aim mapData moved.next.enemies (proj.target moved.next.enemies).isSome
      (proj.goal moved.next.enemies) type) :
    0 ≤ type.speed * delta ∨ 0 < Glm.length (proj.goal moved.next.enemies - proj.position) := by
  by_contra stuck
  rw [not_or, not_le, not_lt] at stuck
  rcases stuck with ⟨backwards, arrived⟩
  have atGoal := le_antisymm arrived (exact.nonneg _)
  rcases conserved with ⟨type', typed, outcome⟩
  have sameType : type' = type := Option.some.inj (typed.symm.trans aim.typed)
  subst sameType
  cases outcome with
  | inl flies =>
      obtain ⟨projNext, nextMember, sameId, closer⟩ := flies.closer
      obtain ⟨_, _, _, aim', _, image⟩ :=
        frames.flight_of_mem identified bounded member nextMember sameId
      obtain ⟨_, sameTarget, _⟩ := aim'.unique aim
      rw [image, sameTarget, Projectile.flown_at_goal atGoal, atGoal, zero_sub,
        eq_comm, neg_eq_zero] at closer
      exact absurd closer (ne_of_lt backwards)
  | inr detonates =>
      exact absurd (le_trans (exact.nonneg _) detonates.near) (not_le.mpr backwards)

/-- A projectile that aims where it should and moves is conserved. -/
theorem StepFrames.conserved_of_moving (exact : ExactLength F)
    (frames : StepFrames platform mapData initial commands delta fuel start moved fired struck
      after)
    (identified : initial.Identified)
    (bounded : initial.nextObjectId + (createdIds after.deeds).length < 2 ^ 32)
    (distinctAfter : after.next.projectileIds.Nodup)
    (split : initial.projectiles = before ++ proj :: later)
    (occupied : proj.targetEnemyIndex < moved.next.enemies.length)
    (aimed : GameState.aimProjectile moved.next.enemies proj =
      .ok ((proj.target moved.next.enemies).isSome, proj.goal moved.next.enemies))
    (moving : ∀ type, mapData.projectileTypes[proj.typeIdx]? = some type →
      0 ≤ type.speed * delta ∨ 0 < Glm.length (proj.goal moved.next.enemies - proj.position)) :
    ShotConserved mapData delta moved fired before proj after := by
  have member : proj ∈ initial.projectiles := by
    rw [split]
    exact List.mem_append_right _ List.mem_cons_self
  obtain ⟨reached, reached', iteration, ⟨images, appended⟩, deeds, recorded⟩ :=
    frames.iteration split
  obtain ⟨type, aim, outcome⟩ := iteration.outcome frames occupied aimed
  cases outcome with
  | inl flies =>
      rcases flies with ⟨farther, flown⟩
      have listed : proj.flown (proj.goal moved.next.enemies) type delta ∈
          after.next.projectiles := by
        rw [appended, flown]
        exact List.mem_append_left _ (List.mem_append_right _ (List.mem_singleton_self _))
      have away : 0 < Glm.length (proj.goal moved.next.enemies - proj.position) := by
        cases moving type aim.typed with
        | inl forwards => exact lt_of_le_of_lt forwards farther
        | inr away => exact away
      refine ⟨type, aim.typed, .inl ⟨?_, _, listed, rfl, ?_⟩⟩
      · exact List.count_eq_one_of_mem distinctAfter (List.mem_map.mpr ⟨_, listed, rfl⟩)
      · exact Projectile.flown_closer exact away farther
  | inr detonates =>
      rcases detonates with ⟨near, detonated⟩
      have ends : proj.Ends mapData delta moved.next.enemies := .inr ⟨_, _, type, aim, near⟩
      refine ⟨type, aim.typed, .inr ⟨?_, not_lt.mp near, ⟨reached, reached', iteration,
        detonated⟩, ?_⟩⟩
      · exact frames.ended_notMem identified bounded member ends
      · intro enemy isTarget
        have sameId := (Projectile.of_target_eq_some isTarget).2
        rw [isTarget] at detonated
        obtain ⟨strike, struckMember, isDirect, sameProjectile, sameEnemy, sameDamage⟩ :=
          frames.direct_hit (List.mem_of_getElem? aim.typed) detonated recorded
        exact ⟨strike, struckMember, isDirect, sameProjectile, sameEnemy.trans sameId.symm,
          sameDamage⟩

/-- A projectile whose slot is right is conserved exactly when the slot is
occupied and the projectile moves. -/
theorem StepFrames.conserved_iff (exact : ExactLength F)
    (frames : StepFrames platform mapData initial commands delta fuel start moved fired struck
      after)
    (identified : initial.Identified)
    (bounded : initial.nextObjectId + (createdIds after.deeds).length < 2 ^ 32)
    (distinctAfter : after.next.projectileIds.Nodup)
    (split : initial.projectiles = before ++ proj :: later)
    (tracks : proj.Tracks (survivorIds mapData initial)) :
    ShotConserved mapData delta moved fired before proj after ↔
      proj.targetEnemyIndex < (survivorIds mapData initial).length ∧
        ∀ type, mapData.projectileTypes[proj.typeIdx]? = some type →
          0 ≤ type.speed * delta ∨
            0 < Glm.length (proj.goal moved.next.enemies - proj.position) := by
  have member : proj ∈ initial.projectiles := by
    rw [split]
    exact List.mem_append_right _ List.mem_cons_self
  have movedIds := GameState.moveEnemies_ids frames.moves
  have survivors : (survivorIds mapData initial).length = moved.next.enemies.length := by
    rw [← movedIds, GameState.enemyIds, List.length_map]
  have distinct : moved.next.enemyIds.Nodup := by
    rw [movedIds]
    exact (identified.enemies.imp Nat.ne_of_lt).sublist (List.filter_sublist.map _)
  rw [← movedIds] at tracks
  constructor
  · intro conserved
    have inRange : proj.targetEnemyIndex < (survivorIds mapData initial).length := by
      by_contra outOfRange
      exact frames.not_conserved identified bounded member (Nat.not_lt.mp outOfRange) conserved
    refine ⟨inRange, ?_⟩
    intro type typed
    have occupied : proj.targetEnemyIndex < moved.next.enemies.length := survivors ▸ inRange
    exact conserved.moving exact frames identified bounded member
      ⟨occupied, tracks.aimed distinct occupied, typed⟩
  · intro condition
    rcases condition with ⟨inRange, moving⟩
    rw [survivors] at inRange
    exact frames.conserved_of_moving exact identified bounded distinctAfter split inRange
      (tracks.aimed distinct inRange) moving

end ExactConservation

section Sessions

variable [Field F] [LinearOrder F] [IsStrictOrderedRing F] [Glm F]
variable {platform : Platform F R} {fuel steps : Nat} {boot : Boot F R}
variable {batches : List (List (GameCommand F))} {process : Process F R}
variable {records : List (StepRecord F)} {commands : List (GameCommand F)} {delta : F}
variable {start moved fired struck after : Frame F R} {proj : Projectile F}
variable {before later : List (Projectile F)}

/-- No shot vanishes in a step from a state of a session, provided that fewer than
`2 ^ 32` objects are created, that the slot of the projectile is occupied and
holds the target if that is still there, and that its type does not fly backwards.
With a slot that is right these conditions are necessary (backwards, only a projectile
that has arrived vanishes), and with a slot behind the end of the list the shot always
vanishes. -/
theorem Boot.play_shotConserved (exact : ExactLength F)
    (played : boot.play platform fuel batches = .ok (process, records))
    (frames : StepFrames platform boot.mapData process.session.next commands delta steps start
      moved fired struck after)
    (few : createdCount records + (createdIds after.deeds).length < 2 ^ 32)
    (split : process.session.next.projectiles = before ++ proj :: later) :
    (proj.Tracks (survivorIds boot.mapData process.session.next) →
      ((∀ type, boot.mapData.projectileTypes[proj.typeIdx]? = some type →
          0 ≤ type.speed * delta) →
        (ShotConserved boot.mapData delta moved fired before proj after ↔
          proj.targetEnemyIndex < (survivorIds boot.mapData process.session.next).length)) ∧
      ((∀ type, boot.mapData.projectileTypes[proj.typeIdx]? = some type →
          type.speed * delta < 0) →
        (ShotConserved boot.mapData delta moved fired before proj after ↔
          proj.targetEnemyIndex < (survivorIds boot.mapData process.session.next).length ∧
            0 < Glm.length (proj.goal moved.next.enemies - proj.position)))) ∧
      ((survivorIds boot.mapData process.session.next).length ≤ proj.targetEnemyIndex →
        ¬ShotConserved boot.mapData delta moved fired before proj after) := by
  have lineage := World.run_lineage (pure_run_of_play platform fuel played)
  rw [createdCount] at few
  have identified := lineage.identified (by omega)
  have counter := (lineage.counter (by omega)).2
  have lineageAfter := lineage.trans frames.descends.lineage
  have identifiedAfter := lineageAfter.identified (by
    rw [createdIds_append, List.length_append]
    exact few)
  have bounded : process.session.next.nextObjectId + (createdIds after.deeds).length < 2 ^ 32 := by
    omega
  have member : proj ∈ process.session.next.projectiles := by
    rw [split]
    exact List.mem_append_right _ List.mem_cons_self
  have decides := frames.conserved_iff exact identified bounded identifiedAfter.projectiles split
  refine ⟨fun tracks => ⟨?_, ?_⟩, frames.not_conserved identified bounded member⟩
  · intro forwards
    rw [decides tracks]
    exact and_iff_left fun type typed => .inl (forwards type typed)
  · intro backwards
    constructor
    · intro conserved
      obtain ⟨inRange, moving⟩ := (decides tracks).mp conserved
      obtain ⟨type, typed, _⟩ := conserved
      exact ⟨inRange, (moving type typed).resolve_left (not_le.mpr (backwards type typed))⟩
    · intro away
      exact (decides tracks).mpr ⟨away.1, fun _ _ => .inr away.2⟩

end Sessions

section Meadow

open Rational

theorem Rational.exactLength : ExactLength ℚ where
  nonneg vector := add_nonneg (abs_nonneg vector.x) (abs_nonneg vector.y)
  scale := Rational.length_mul

/-- The first shot of a duel is conserved. -/
theorem duel_shotConserved : ∃ process records moved fired struck after before proj later,
    meadowBoot.play platform 10 ((duel 0 0).take 3) = .ok (process, records) ∧
    StepFrames platform meadow process.session.next [] 1 10 (blank process.session.next) moved
      fired struck after ∧
    process.session.next.projectiles = before ++ proj :: later ∧
    ShotConserved meadow 1 moved fired before proj after := by
  obtain ⟨⟨process, records⟩, played, stepChecked⟩ := exists_ok_of_succeedsWith
    (meadowBoot.play platform 10 ((duel 0 0).take 3))
    (fun result => succeedsWith (fun (_, _, _, after) =>
      decide (createdCount result.2 + (createdIds after.deeds).length < 2 ^ 32 ∧
        ∃ proj ∈ result.1.session.next.projectiles,
          (survivorIds meadow result.1.session.next).idxOf proj.targetEnemyId =
            proj.targetEnemyIndex ∧
          proj.targetEnemyIndex < (survivorIds meadow result.1.session.next).length))
      (idleFrames result.1.session.next))
    (by decide +kernel)
  obtain ⟨⟨moved, fired, struck, after⟩, executed, found⟩ :=
    exists_ok_of_succeedsWith _ _ stepChecked
  obtain ⟨few, proj, member, inSlot, inRange⟩ := of_decide_eq_true found
  obtain ⟨before, later, split⟩ := List.append_of_mem member
  have frames := StepFrames.of_execute rfl executed
  have forwards : ∀ type ∈ meadow.projectileTypes, 0 ≤ type.speed * 1 := by decide +kernel
  have conserved := (((Boot.play_shotConserved Rational.exactLength played frames few split).1
    fun _ => inSlot).1 fun type typed => forwards type (List.mem_of_getElem? typed)).mpr inRange
  exact ⟨process, records, moved, fired, struck, after, before, proj, later, played, frames, split,
    conserved⟩

/-- All enemies are despawned while a projectile is more than a step away from the
last position of its target: it neither flies on nor detonates. -/
theorem siege_shotVanishes : ∃ process records moved fired struck after before proj later,
    meadowBoot.play platform 10
        [[.debugSpawnEnemy 0, .buildTower 0 ⟨9, 1 / 2⟩], [], [], [.debugDespawnAllEnemies]] =
      .ok (process, records) ∧
    StepFrames platform meadow process.session.next [] 1 10 (blank process.session.next) moved
      fired struck after ∧
    createdCount records + (createdIds after.deeds).length < 2 ^ 32 ∧
    process.session.next.projectiles = before ++ proj :: later ∧
    proj.id ∉ after.next.projectileIds ∧ after.deeds = [] ∧
    (∀ type, meadow.projectileTypes[proj.typeIdx]? = some type →
      type.speed * 1 < Glm.length (proj.goal moved.next.enemies - proj.position)) ∧
    ¬ShotConserved meadow 1 moved fired before proj after := by
  obtain ⟨⟨process, records⟩, played, stepChecked⟩ := exists_ok_of_succeedsWith
    (meadowBoot.play platform 10
      [[.debugSpawnEnemy 0, .buildTower 0 ⟨9, 1 / 2⟩], [], [], [.debugDespawnAllEnemies]])
    (fun result => succeedsWith (fun (moved, _, _, after) =>
      decide (createdCount result.2 + (createdIds after.deeds).length < 2 ^ 32 ∧
        ∃ proj ∈ result.1.session.next.projectiles, proj.id ∉ after.next.projectileIds ∧
          after.deeds = [] ∧ moved.next.enemies.length ≤ proj.targetEnemyIndex ∧
          ∀ type ∈ meadow.projectileTypes,
            type.speed * 1 < Glm.length (proj.goal moved.next.enemies - proj.position)))
      (idleFrames result.1.session.next))
    (by decide +kernel)
  obtain ⟨⟨moved, fired, struck, after⟩, executed, found⟩ :=
    exists_ok_of_succeedsWith _ _ stepChecked
  obtain ⟨few, proj, member, gone, quiet, outOfRange, farther⟩ := of_decide_eq_true found
  obtain ⟨before, later, split⟩ := List.append_of_mem member
  have frames := StepFrames.of_execute rfl executed
  refine ⟨process, records, moved, fired, struck, after, before, proj, later, played, frames, few,
    split, gone, quiet, fun type typed => farther type (List.mem_of_getElem? typed), ?_⟩
  intro conserved
  rcases conserved with ⟨type, typed, outcome⟩
  cases outcome with
  | inl flies =>
      exact gone (List.count_pos_iff.mp (flies.once ▸ Nat.one_pos))
  | inr detonates =>
      exact absurd detonates.near
        (not_le.mpr (farther type (List.mem_of_getElem? typed)))

end Meadow

end TowerDefence
