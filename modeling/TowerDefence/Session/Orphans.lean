import TowerDefence.Session.Flight

/-!
# Shots that have lost their target

When the target of a projectile dies, reaches the end of the path or is removed, the
projectile flies on to the last position it has seen of it.  Ids are not reused, so
the target stays lost, and the rest of the flight is a straight line of known length:
the projectile goes off or vanishes at the latest in the step that would take it past
its end.
-/

namespace TowerDefence

open Foundations

variable {F R : Type}

/-! ## Where the projectiles of a step come from -/

section Origins

variable [Arithmetic F] [Glm F]
variable {platform : Platform F R} {mapData : MapData F} {initial : GameState F R}
variable {commands : List (GameCommand F)} {delta : F} {fuel : Nat}
variable {start moved fired struck after : Frame F R} {projNext : Projectile F}

/-- A projectile that the step did not create is the image of an old one. -/
theorem StepFrames.origin
    (frames : StepFrames platform mapData initial commands delta fuel start moved fired struck
      after)
    (nextMember : projNext ∈ after.next.projectiles)
    (notNew : projNext.id ∉ createdIds after.deeds) :
    ∃ proj ∈ initial.projectiles, proj.Flight mapData delta moved.next.enemies projNext := by
  obtain ⟨launched, images, split, created, carried⟩ := frames.projectiles
  rw [split] at nextMember
  cases List.mem_append.mp nextMember with
  | inl isNew => exact absurd (created projNext isNew) notNew
  | inr isImage => exact carried.exists_of_mem_images isImage

/-- A projectile is launched at an enemy of the list, and it never changes its target. -/
theorem StepFrames.targets
    (frames : StepFrames platform mapData initial commands delta fuel start moved fired struck
      after)
    (nextMember : projNext ∈ after.next.projectiles) :
    projNext.targetEnemyId ∈ initial.enemyIds ∨
      ∃ proj ∈ initial.projectiles, projNext.targetEnemyId = proj.targetEnemyId := by
  obtain ⟨_, reached, _⟩ := GameState.moveEnemies_spec frames.moves
  obtain ⟨copies, shots, volley, _, _⟩ := GameState.updateTowers_spec frames.fires
  obtain ⟨kept, images, appended, carried⟩ := GameState.updateProjectiles_spec frames.hits
  have empty : moved.next.projectiles = [] := by
    rw [reached]
    rfl
  rw [GameState.executeCommands_projectiles frames.commanded, appended, volley.next, empty,
    List.nil_append] at nextMember
  cases List.mem_append.mp nextMember with
  | inl isNew =>
      left
      obtain ⟨shot, shotMember, isShot⟩ := List.mem_map.mp isNew
      obtain ⟨enemy, found, aimed⟩ := (volley.launched shot shotMember).target
      rw [← isShot, aimed]
      have listed : enemy.id ∈ moved.next.enemyIds :=
        List.mem_map.mpr ⟨enemy, List.mem_of_getElem? found, rfl⟩
      rw [GameState.moveEnemies_ids frames.moves] at listed
      exact (List.filter_sublist.map _).subset listed
  | inr isImage =>
      right
      obtain ⟨proj, member, flight⟩ := carried.exists_of_mem_images isImage
      obtain ⟨_, _, _, _, _, flown⟩ := flight
      exact ⟨proj, member, by rw [flown]; rfl⟩

/-- A projectile whose target is not in the list flies to its last known position. -/
theorem Projectile.Flight.orphan {proj : Projectile F} {enemies : List (Enemy F)}
    {type : ProjectileType F} (flight : proj.Flight mapData delta enemies projNext)
    (lost : proj.targetEnemyId ∉ enemies.map fun enemy => enemy.id)
    (typed : mapData.projectileTypes[proj.typeIdx]? = some type) :
    type.speed * delta < Glm.length (proj.lastEnemyPosition - proj.position) ∧
      projNext = proj.flown proj.lastEnemyPosition type delta := by
  obtain ⟨alive, target, type', aim, farther, flown⟩ := flight
  have sameType : type' = type := Option.some.inj (aim.typed.symm.trans typed)
  subst sameType
  obtain ⟨enemy, found, sameAlive, sameTarget⟩ := aim.slot
  have other : enemy.id ≠ proj.targetEnemyId := by
    intro isTarget
    apply lost
    rw [← isTarget]
    exact List.mem_map.mpr ⟨enemy, List.mem_of_getElem? found, rfl⟩
  have dead : alive = false := by rw [sameAlive, beq_eq_false_iff_ne.mpr other]
  have atGoal : target = proj.lastEnemyPosition := by rw [sameTarget, dead, if_neg (by simp)]
  rw [atGoal] at farther flown
  exact ⟨farther, flown⟩

/-- A step carries a projectile whose target is gone on towards the last position it has seen
of the target. -/
theorem World.step_orphan {world : World F R} {state next : GameState F R}
    {commands : List (GameCommand F)} {record : StepRecord F}
    (stepped : world.step state commands = .ok (next, record))
    (nextMember : projNext ∈ next.projectiles) (notNew : projNext.id ∉ createdIds record.deeds) :
    ∃ proj ∈ state.projectiles, proj.id = projNext.id ∧
      ∀ type, world.mapData.projectileTypes[proj.typeIdx]? = some type →
        proj.targetEnemyId ∉ state.enemyIds →
        type.speed * world.fixedDelta < Glm.length (proj.lastEnemyPosition - proj.position) ∧
          projNext = proj.flown proj.lastEnemyPosition type world.fixedDelta := by
  obtain ⟨moved, fired, struck, after, frames, reached, recorded⟩ := World.step_frames stepped
  rw [reached] at nextMember
  rw [recorded] at notNew
  obtain ⟨proj, member, flight⟩ := frames.origin nextMember notNew
  refine ⟨proj, member, flight.id_eq.symm, ?_⟩
  intro type typed lost
  apply flight.orphan _ typed
  intro present
  have listed : proj.targetEnemyId ∈ moved.next.enemyIds := present
  rw [GameState.moveEnemies_ids frames.moves] at listed
  exact lost ((List.filter_sublist.map _).subset listed)

end Origins

/-! ## The line an orphan flies along -/

section Line

variable [Field F] [LinearOrder F] [IsStrictOrderedRing F] [Glm F]
variable {proj projNext : Projectile F} {type : ProjectileType F} {delta travelled : F}

/-- What is left of the flight of `proj` to its last known target position. -/
def Projectile.remaining (proj : Projectile F) : F :=
  Glm.length (proj.lastEnemyPosition - proj.position)

/-- `projNext` is `proj` after it has flown `travelled` straight ahead, with its end still
in front of it. -/
structure Projectile.Coasts (proj projNext : Projectile F) (travelled : F) : Prop where
  typeIdx : projNext.typeIdx = proj.typeIdx
  target : projNext.targetEnemyId = proj.targetEnemyId
  goal : projNext.lastEnemyPosition = proj.lastEnemyPosition
  line : proj.lastEnemyPosition - projNext.position =
    (proj.lastEnemyPosition - proj.position) * (1 - travelled / proj.remaining)
  left : projNext.remaining = proj.remaining - travelled

omit [IsStrictOrderedRing F] in
theorem Projectile.Coasts.refl (proj : Projectile F) : proj.Coasts proj 0 where
  typeIdx := rfl
  target := rfl
  goal := rfl
  line := by
    rw [zero_div, sub_zero]
    exact Vec2.ext (mul_one _).symm (mul_one _).symm
  left := by rw [sub_zero]

/-- One more step of the flight. -/
theorem Projectile.Coasts.flown (exact : ExactLength F)
    (coasts : proj.Coasts projNext travelled) (travelledLe : 0 ≤ travelled)
    (forwards : 0 ≤ type.speed * delta) (farther : type.speed * delta < projNext.remaining) :
    proj.Coasts (projNext.flown projNext.lastEnemyPosition type delta)
      (travelled + type.speed * delta) where
  typeIdx := coasts.typeIdx
  target := coasts.target
  goal := coasts.goal
  line := by
    have ahead : 0 < proj.remaining - travelled := by
      rw [← coasts.left]
      exact forwards.trans_lt farther
    have distance : 0 < proj.remaining := by linarith
    -- the fractions of the two parts of the flight multiply to that of the whole flight
    have fraction : (1 - travelled / proj.remaining) *
        (1 - type.speed * delta / (proj.remaining - travelled)) =
          1 - (travelled + type.speed * delta) / proj.remaining := by
      field_simp
      ring
    rw [← coasts.goal, Projectile.flown_remaining]
    show (projNext.lastEnemyPosition - projNext.position) *
      (1 - type.speed * delta / projNext.remaining) = _
    rw [coasts.left, coasts.goal, coasts.line, ← fraction]
    exact Vec2.ext (mul_assoc _ _ _) (mul_assoc _ _ _)
  left := by
    have away : 0 < projNext.remaining := forwards.trans_lt farther
    rw [remaining]
    show Glm.length (projNext.lastEnemyPosition -
      (projNext.flown projNext.lastEnemyPosition type delta).position) = _
    rw [Projectile.flown_closer exact away farther]
    show projNext.remaining - _ = _
    rw [coasts.left, sub_sub]

end Line

/-! ## Sessions -/

section Sessions

variable [Arithmetic F] [Glm F] {platform : Platform F R} {fuel : Nat} {boot : Boot F R}
variable {batches : List (List (GameCommand F))} {records : List (StepRecord F)}
variable {state finish : GameState F R} {deeds : List (Deed F)}

/-- Every projectile in flight was launched at an enemy that the session has spawned. -/
theorem World.run_targets {world : World F R}
    (run : Run world.step (boot.startState platform) batches records state) :
    ∀ proj ∈ state.projectiles, proj.targetEnemyId ∈ spawnedIds (history records) := by
  induction run with
  | nil =>
      intro proj member
      cases member
  | @snoc state next inputs outputs input record before stepped ih =>
      intro projNext nextMember
      obtain ⟨moved, fired, struck, after, frames, reached, recorded⟩ := World.step_frames stepped
      rw [reached] at nextMember
      rw [history_append, spawnedIds_append]
      apply List.mem_append_left
      cases frames.targets nextMember with
      | inl present => exact (World.run_lineage before).enemies.subset present
      | inr older =>
          obtain ⟨proj, member, sameTarget⟩ := older
          rw [sameTarget]
          exact ih proj member

omit [Glm F] in
/-- An enemy that is not there any more does not come back. -/
theorem Lineage.stays_lost {later : List (Deed F)} {id : Nat}
    (toState : Lineage (boot.startState platform) deeds state)
    (toFinish : Lineage state later finish)
    (few : (createdIds (deeds ++ later)).length < 2 ^ 32) (spawned : id ∈ spawnedIds deeds)
    (lost : id ∉ state.enemyIds) : id ∉ finish.enemyIds := by
  intro present
  cases List.mem_append.mp (toFinish.enemies.subset present) with
  | inl stayed => exact lost stayed
  | inr spawnedAgain =>
      have once := (toState.trans toFinish).created_nodup few
      rw [createdIds_append] at once
      exact List.disjoint_of_nodup_append once ((spawnedIds_sublist _).subset spawned)
        ((spawnedIds_sublist _).subset spawnedAgain)

end Sessions

section Expiry

variable [Field F] [LinearOrder F] [IsStrictOrderedRing F] [Glm F]
variable {platform : Platform F R} {fuel : Nat} {boot : Boot F R}
variable {earlier later : List (List (GameCommand F))} {first second : Process F R}
variable {firstRecords secondRecords : List (StepRecord F)} {state finish : GameState F R}
variable {deeds : List (Deed F)} {records : List (StepRecord F)} {proj : Projectile F}
variable {type : ProjectileType F}

/-- As long as an orphan is in flight it coasts, and after the first step its end is still in
front of it. -/
theorem World.run_coasts (exact : ExactLength F)
    (lineage : Lineage (boot.startState platform) deeds state)
    (run : Run (boot.world platform fuel).step state later records finish)
    (few : (createdIds (deeds ++ history records)).length < 2 ^ 32)
    (launched : proj.id ∈ createdIds deeds) (spawned : proj.targetEnemyId ∈ spawnedIds deeds)
    (unique : ∀ other ∈ state.projectiles, other.id = proj.id → other = proj)
    (lost : proj.targetEnemyId ∉ state.enemyIds)
    (typed : boot.mapData.projectileTypes[proj.typeIdx]? = some type)
    (forwards : 0 ≤ type.speed * boot.fixedTimeDelta) :
    ∀ projNext ∈ finish.projectiles, projNext.id = proj.id →
      proj.Coasts projNext (later.length * (type.speed * boot.fixedTimeDelta)) ∧
        (later ≠ [] → 0 < projNext.remaining) := by
  induction run with
  | nil =>
      intro projNext member sameId
      rw [unique projNext member sameId, List.length_nil, Nat.cast_zero, zero_mul]
      exact ⟨.refl proj, fun more => absurd rfl more⟩
  | @snoc middle next inputs outputs input record before stepped ih =>
      intro projNext nextMember sameId
      rw [history_append, history_single, ← List.append_assoc] at few
      have fewBefore : (createdIds (deeds ++ history outputs)).length < 2 ^ 32 := by
        rw [createdIds_append, List.length_append] at few
        omega
      have toMiddle := lineage.trans (World.run_lineage before)
      have toNext := toMiddle.trans (World.step_descends stepped).lineage
      have once := toNext.created_nodup few
      have notNew : projNext.id ∉ createdIds record.deeds := by
        rw [sameId]
        rw [createdIds_append, createdIds_append] at once
        exact List.disjoint_of_nodup_append once (List.mem_append_left _ launched)
      obtain ⟨projMiddle, member, sameMiddle, carries⟩ :=
        World.step_orphan stepped nextMember notNew
      obtain ⟨coasts, _⟩ := ih fewBefore projMiddle member (sameMiddle.trans sameId)
      have lostMiddle : projMiddle.targetEnemyId ∉ middle.enemyIds := by
        rw [coasts.target]
        exact lineage.stays_lost (World.run_lineage before) fewBefore spawned lost
      obtain ⟨farther, flown⟩ : type.speed * boot.fixedTimeDelta < projMiddle.remaining ∧
          projNext = projMiddle.flown projMiddle.lastEnemyPosition type boot.fixedTimeDelta :=
        carries type (coasts.typeIdx ▸ typed) lostMiddle
      have travelledLe : 0 ≤ (inputs.length : F) * (type.speed * boot.fixedTimeDelta) :=
        mul_nonneg (Nat.cast_nonneg _) forwards
      have oneMore : ((inputs ++ [input]).length : F) * (type.speed * boot.fixedTimeDelta) =
          inputs.length * (type.speed * boot.fixedTimeDelta) +
            type.speed * boot.fixedTimeDelta := by
        rw [List.length_append, List.length_singleton, Nat.cast_succ, add_mul, one_mul]
      have coastsNext := coasts.flown exact travelledLe forwards farther
      rw [flown, oneMore]
      refine ⟨coastsNext, fun _ => ?_⟩
      rw [coastsNext.left, ← sub_sub, ← coasts.left, sub_pos]
      exact farther

/-- A shot that has lost its target never finds one again.  In every longer session it is
either gone or on the straight line to the last position it has seen of the target, as far along
as its speed takes it; so it is gone after the steps in which it could have reached the end. -/
theorem Boot.play_orphans (exact : ExactLength F)
    (toFirst : boot.play platform fuel earlier = .ok (first, firstRecords))
    (toSecond : boot.play platform fuel (earlier ++ later) = .ok (second, secondRecords))
    (few : createdCount secondRecords < 2 ^ 32)
    (member : proj ∈ first.session.next.projectiles)
    (lost : proj.targetEnemyId ∉ first.session.next.enemyIds)
    (typed : boot.mapData.projectileTypes[proj.typeIdx]? = some type)
    (forwards : 0 ≤ type.speed * boot.fixedTimeDelta) :
    proj.targetEnemyId ∉ second.session.next.enemyIds ∧
      (∀ projNext ∈ second.session.next.projectiles, projNext.id = proj.id →
        proj.Coasts projNext (later.length * (type.speed * boot.fixedTimeDelta))) ∧
      (later ≠ [] → proj.remaining ≤ later.length * (type.speed * boot.fixedTimeDelta) →
        proj.id ∉ second.session.next.projectileIds) := by
  have runFirst := pure_run_of_play platform fuel toFirst
  have lineage := World.run_lineage runFirst
  obtain ⟨rest, run, split⟩ := pure_run_of_play_append platform fuel toFirst toSecond
  rw [createdCount, split, history_append] at few
  have fewFirst : (createdIds (history firstRecords)).length < 2 ^ 32 := by
    rw [createdIds_append, List.length_append] at few
    omega
  have identified := lineage.identified fewFirst
  have listed : proj.id ∈ first.session.next.projectileIds :=
    List.mem_map.mpr ⟨proj, member, rfl⟩
  have launched : proj.id ∈ createdIds (history firstRecords) :=
    lineage.objects.subset (List.mem_append_right _ listed)
  have spawned := World.run_targets runFirst proj member
  have coasts := World.run_coasts exact lineage run few launched spawned
    (fun other otherMember sameId =>
      List.inj_on_of_nodup_map identified.projectiles otherMember member sameId)
    lost typed forwards
  refine ⟨lineage.stays_lost (World.run_lineage run) few spawned lost,
    fun projNext nextMember sameId => (coasts projNext nextMember sameId).1, ?_⟩
  intro more past present
  obtain ⟨projNext, nextMember, sameId⟩ := List.mem_map.mp present
  obtain ⟨coasting, ahead⟩ := coasts projNext nextMember sameId
  have inFront := ahead more
  rw [coasting.left] at inFront
  linarith

end Expiry

section Meadow

open Rational

/-- A soldier is replaced by another one while a shot is on its way to him. -/
def relief : List (List (GameCommand ℚ)) :=
  [[.debugSpawnEnemy 0, .buildTower 0 ⟨9, 1 / 2⟩], [], [],
    [.debugDespawnAllEnemies, .debugSpawnEnemy 0]]

/-- The shot flies on past the new soldier, and after another two steps it is gone. -/
theorem relief_orphans : ∃ first firstRecords second secondRecords third thirdRecords proj,
    meadowBoot.play platform 10 relief = .ok (first, firstRecords) ∧
    meadowBoot.play platform 10 (relief ++ [[]]) = .ok (second, secondRecords) ∧
    meadowBoot.play platform 10 (relief ++ [[], []]) = .ok (third, thirdRecords) ∧
    proj ∈ first.session.next.projectiles ∧
    (∃ projNext ∈ second.session.next.projectiles,
      projNext.id = proj.id ∧ proj.Coasts projNext 4) ∧
    proj.id ∉ third.session.next.projectileIds := by
  obtain ⟨⟨first, firstRecords⟩, toFirst, lostOne⟩ := exists_ok_of_succeedsWith
    (meadowBoot.play platform 10 relief)
    (fun result => decide (∃ proj ∈ result.1.session.next.projectiles, proj.id = 3 ∧
      proj.typeIdx = 0 ∧ proj.remaining = 6 ∧
      proj.targetEnemyId ∉ result.1.session.next.enemyIds)) (by decide +kernel)
  obtain ⟨⟨second, secondRecords⟩, toSecond, secondChecked⟩ := exists_ok_of_succeedsWith
    (meadowBoot.play platform 10 (relief ++ [[]]))
    (fun result => decide (createdCount result.2 < 2 ^ 32 ∧
      ∃ projNext ∈ result.1.session.next.projectiles, projNext.id = 3)) (by decide +kernel)
  obtain ⟨⟨third, thirdRecords⟩, toThird, thirdChecked⟩ := exists_ok_of_succeedsWith
    (meadowBoot.play platform 10 (relief ++ [[], []]))
    (fun result => decide (createdCount result.2 < 2 ^ 32)) (by decide +kernel)
  obtain ⟨proj, member, isThird, typeIdx, six, lost⟩ := of_decide_eq_true lostOne
  obtain ⟨fewSecond, projNext, nextMember, sameId⟩ := of_decide_eq_true secondChecked
  have fewThird := of_decide_eq_true thirdChecked
  have typed : meadowBoot.mapData.projectileTypes[proj.typeIdx]? =
      meadow.projectileTypes.head? := by
    rw [typeIdx]
    rfl
  have forwards : (0 : ℚ) ≤ 4 * 1 := by norm_num
  obtain ⟨_, coasts, _⟩ :=
    Boot.play_orphans Rational.exactLength toFirst toSecond fewSecond member lost typed forwards
  obtain ⟨_, _, gone⟩ :=
    Boot.play_orphans Rational.exactLength toFirst toThird fewThird member lost typed forwards
  have four : ((([[]] : List (List (GameCommand ℚ))).length : ℚ) * (4 * 1)) = 4 := by norm_num
  refine ⟨first, firstRecords, second, secondRecords, third, thirdRecords, proj, toFirst, toSecond,
    toThird, member, ⟨projNext, nextMember, sameId.trans isThird.symm, ?_⟩, ?_⟩
  · rw [← four]
    exact coasts projNext nextMember (sameId.trans isThird.symm)
  · apply gone (List.cons_ne_nil _ _)
    rw [six]
    show (6 : ℚ) ≤ ((2 : Nat) : ℚ) * (4 * 1)
    norm_num

end Meadow

end TowerDefence
