import Mathlib.Algebra.Notation.Lemmas
import Mathlib.Data.List.Pairwise
import TowerDefence.Session.Deaths
import TowerDefence.Session.Frames
import TowerDefence.Step.Blasts

/-!
# The gold ledger

The gold of a session is meant to count every enemy that damage brought to zero
once.  It does exactly as long as no strike hits an enemy that has no health
left: a direct hit does not ask for the health of its target, so a second
projectile that reaches a corpse is paid again.  The state before a step rules
this out if every enemy that a projectile may hit has more health than the
projectiles before it can take away.
-/

namespace TowerDefence

open Foundations

variable {F R : Type} [Field F] [LinearOrder F]

/-- Two strikes on different enemies. -/
def Strike.OnOther (first second : Strike F) : Prop := first.enemy.id ≠ second.enemy.id

instance (first second : Strike F) : Decidable (first.OnOther second) :=
  inferInstanceAs (Decidable (first.enemy.id ≠ second.enemy.id))

/-- One strike for every enemy that was brought to zero. -/
def slainOnce (deeds : List (Deed F)) : List (Strike F) :=
  (killingStrikes deeds).pwFilter Strike.OnOther

/-- The ledger of a session: the gold counts every slain enemy once, and no enemy
dies twice. -/
structure GoldLedger (mapData : MapData F) (startingGold gold : F)
    (commands : List (GameCommand F)) (deeds : List (Deed F)) : Prop where
  balance : gold = startingGold + (addedGold commands).sum -
    ((builtTowers deeds).map mapData.towerCost).sum +
    ((slainOnce deeds).map fun strike => mapData.enemyReward strike.enemy).sum
  onePerEnemy : (killingStrikes deeds).Pairwise Strike.OnOther

/-- Every strike hits an enemy that has health left. -/
def HitsTheLiving (deeds : List (Deed F)) : Prop :=
  ∀ strike ∈ strikes deeds, 0 < strike.enemy.remainingHealth

instance (deeds : List (Deed F)) : Decidable (HitsTheLiving deeds) :=
  inferInstanceAs (Decidable (∀ strike ∈ strikes deeds, 0 < strike.enemy.remainingHealth))

namespace Battle

variable [IsStrictOrderedRing F] {mapData : MapData F} {battle before after : Battle F}

omit [IsStrictOrderedRing F] in
/-- Changes other than strikes do not add strikes. -/
theorem Change.strikes_cases (change : Change mapData before after) :
    strikes after.deeds = strikes before.deeds ∨
      ∃ strike type, type ∈ mapData.projectileTypes ∧ strike.damage = type.damage ∧
        before.enemies[strike.enemyIndex]? = some strike.enemy ∧
        after.deeds = before.deeds ++ [.strike strike] := by
  cases change with
  | move _ => exact .inl rfl
  | record deed noStrike _ => exact .inl (by simp [strikes, noStrike])
  | strike typed damage found => exact .inr ⟨_, _, typed, damage, found, rfl⟩
  | spawn _ _ _ => exact .inl (by simp [strikes, Deed.asStrike])
  | despawn => exact .inl rfl

/-- If every strike hits the living, no enemy dies twice. -/
theorem Changes.onePerEnemy (changes : Changes mapData ⟨[], []⟩ battle)
    (damaging : ∀ type ∈ mapData.projectileTypes, 0 ≤ type.damage)
    (distinct : (spawnedIds battle.deeds).Nodup) (living : HitsTheLiving battle.deeds) :
    (killingStrikes battle.deeds).Pairwise Strike.OnOther := by
  induction changes with
  | refl => exact .nil
  | @tail before after reached change ih =>
      have distinctBefore : (spawnedIds before.deeds).Nodup :=
        distinct.sublist (change.deeds_prefix.sublist.filterMap _)
      have struckDead := (Changes.struckDead reached damaging distinctBefore).2
      cases change.strikes_cases with
      | inl same =>
          rw [HitsTheLiving, same] at living
          rw [killingStrikes, same]
          exact ih distinctBefore living
      | inr hit =>
          rcases hit with ⟨strike, type, _, _, found, grown⟩
          rw [HitsTheLiving, grown, strikes_append, strikes_single] at living
          have earlier := ih distinctBefore fun other member =>
            living other (List.mem_append_left _ member)
          rw [grown, killingStrikes_append, List.pairwise_append]
          refine ⟨earlier, List.Pairwise.filter _ (List.pairwise_singleton _ _), ?_⟩
          intro other killed last isLast
          have isStrike : last = strike := List.mem_singleton.mp (List.mem_of_mem_filter isLast)
          subst isStrike
          intro sameId
          -- the enemy was dead already
          have dead := struckDead other killed last.enemy (List.mem_of_getElem? found) sameId.symm
          exact absurd dead (not_le.mpr (living last (by simp)))

/-- If no enemy dies twice, every strike hits the living. -/
theorem Changes.hitsTheLiving (changes : Changes mapData ⟨[], []⟩ battle)
    (alive : ∀ type ∈ mapData.enemyTypes, 0 < type.maxHealth)
    (damaging : ∀ type ∈ mapData.projectileTypes, 0 ≤ type.damage)
    (once : (killingStrikes battle.deeds).Pairwise Strike.OnOther) :
    HitsTheLiving battle.deeds := by
  induction changes with
  | refl =>
      intro strike member
      cases member
  | @tail before after reached change ih =>
      have deadStruck := Changes.deadStruck reached alive
      cases change.strikes_cases with
      | inl same =>
          rw [killingStrikes, same] at once
          rw [HitsTheLiving, same]
          exact ih once
      | inr hit =>
          rcases hit with ⟨strike, type, typed, damage, found, grown⟩
          rw [grown, killingStrikes_append, List.pairwise_append] at once
          rcases once with ⟨earlier, _, apart⟩
          intro other member
          rw [grown, strikes_append, List.mem_append] at member
          cases member with
          | inl before => exact ih earlier other before
          | inr last =>
              have isStrike : other = strike := List.mem_singleton.mp last
              subst isStrike
              by_contra notPositive
              have dead := not_lt.mp notPositive
              -- a strike on a corpse is classified as one more death
              obtain ⟨killing, killed, sameId, _⟩ :=
                deadStruck other.enemy (List.mem_of_getElem? found) dead
              have died : other.died = true := by
                rw [Strike.died, decide_eq_true_eq]
                exact le_trans dead (damage ▸ damaging type typed)
              have again : other ∈ killingStrikes [.strike other] :=
                mem_killingStrikes.mpr ⟨List.mem_singleton_self _, died⟩
              exact apart killing killed other again sameId

end Battle

/-! ## Strikes of a detonation -/

section Detonations

variable [IsStrictOrderedRing F] {mapData : MapData F} {projectile : Projectile F}
variable {type : ProjectileType F} {frame frame' : Frame F R} {direct : Bool}

omit [IsStrictOrderedRing F] in
theorem HitsTheLiving.append {deeds later : List (Deed F)} (earlier : HitsTheLiving deeds)
    (last : HitsTheLiving later) : HitsTheLiving (deeds ++ later) := by
  rw [HitsTheLiving, strikes_append]
  exact List.forall_mem_append.mpr ⟨earlier, last⟩

omit [IsStrictOrderedRing F] in
theorem GameState.applyDamageToEnemy_hitsTheLiving {slot : Nat}
    (executed : applyDamageToEnemy mapData direct projectile type frame slot = .ok frame')
    (living : ∀ enemy, frame.next.enemies[slot]? = some enemy → 0 < enemy.remainingHealth)
    (holds : HitsTheLiving frame.deeds) : HitsTheLiving frame'.deeds := by
  obtain ⟨enemy, applied⟩ := applyDamageToEnemy_applied executed
  rw [applied.deeds]
  apply holds.append
  rw [HitsTheLiving, strikes_single, List.forall_mem_singleton]
  exact living enemy applied.found

omit [IsStrictOrderedRing F] in
/-- The slots of a splash are struck one after the other, each as the query found it. -/
theorem GameState.strikeSlots_hitsTheLiving {slots : List Nat} (distinct : slots.Nodup)
    (executed : slots.foldlM (applyDamageToEnemy mapData direct projectile type) frame =
      .ok frame')
    (living : ∀ slot ∈ slots, ∀ enemy, frame.next.enemies[slot]? = some enemy →
      0 < enemy.remainingHealth)
    (holds : HitsTheLiving frame.deeds) : HitsTheLiving frame'.deeds := by
  induction slots generalizing frame with
  | nil =>
      cases executed
      exact holds
  | cons first slots ih =>
      obtain ⟨notAgain, distinctRest⟩ := List.nodup_cons.mp distinct
      rw [List.foldlM_cons, bind_eq_ok] at executed
      rcases executed with ⟨middle, struck, continued⟩
      obtain ⟨livingFirst, livingRest⟩ := List.forall_mem_cons.mp living
      apply ih distinctRest continued _
        (applyDamageToEnemy_hitsTheLiving struck livingFirst holds)
      intro slot member enemy found
      rw [applyDamageToEnemy_enemies struck, if_neg (ne_of_mem_of_not_mem member notAgain)] at found
      exact livingRest slot member enemy found

/-- A detonation strikes a corpse only if it is the one that it was aimed at. -/
theorem GameState.detonate_hitsTheLiving {alive : Bool} {target : Vec2 F}
    (executed : detonate mapData projectile type alive target frame = .ok frame')
    (living : alive = true → ∀ enemy,
      frame.next.enemies[projectile.targetEnemyIndex]? = some enemy → 0 < enemy.remainingHealth)
    (holds : HitsTheLiving frame.deeds) : HitsTheLiving frame'.deeds := by
  rw [detonate, bind_eq_ok] at executed
  rcases executed with ⟨hit, damaged, splashed⟩
  have recorded : HitsTheLiving (frame.deeds ++ [.detonate projectile]) :=
    holds.append (List.forall_mem_nil _)
  have afterHit : HitsTheLiving hit.deeds := by
    rw [damageTarget] at damaged
    split at damaged
    case isTrue isAlive =>
      exact applyDamageToEnemy_hitsTheLiving damaged (living isAlive) recorded
    case isFalse =>
      cases damaged
      exact recorded
  rw [damageSplash] at splashed
  split at splashed
  case isTrue =>
    cases splashed
    exact afterHit
  case isFalse =>
    apply strikeSlots_hitsTheLiving (nodup_queryEnemiesInRadius _ _ _) splashed _ afterHit
    intro slot reported enemy found
    obtain ⟨other, otherFound, reached⟩ := mem_queryEnemiesInRadius_iff.mp reported
    cases found.symm.trans otherFound
    exact defaultMaxDiff_pos.trans
      (isNearlyZero_eq_false_iff.mp (Enemy.inRadius_iff.mp reached).1)

omit [IsStrictOrderedRing F] in
theorem Enemy.health_le_damaged (damage : F) (enemy : Enemy F) :
    enemy.remainingHealth - damage ≤ (enemy.damaged damage).remainingHealth := by
  rw [Enemy.damaged_eq]
  exact le_max_right _ _

end Detonations

/-! ## What the state before a step says -/

section Overkill

/-- The most damage that the projectile can do to the entry's enemy in the step: once if
it may hit it, and once if its splash may reach it. -/
def Projectile.threat (mapData : MapData F) (state : GameState F R) (delta : F)
    (entry : Enemy F × Nat) (proj : Projectile F) : F :=
  match mapData.projectileTypes[proj.typeIdx]? with
  | some type =>
      (if proj.MayHit mapData state delta entry then type.damage else 0) +
        if proj.MaySplash mapData state delta entry then type.damage else 0
  | none => 0

/-- Every enemy that a projectile may hit in the step has more health than all
projectiles before it can take from it in the step. -/
def NoOverkill (mapData : MapData F) (state : GameState F R) (delta : F) : Prop :=
  EachAfter (fun earlier proj => ∀ entry ∈ survivors mapData state,
      proj.MayHit mapData state delta entry →
      (earlier.map (Projectile.threat mapData state delta entry)).sum <
        entry.1.remainingHealth)
    state.projectiles

instance (mapData : MapData F) (state : GameState F R) (delta : F) :
    Decidable (NoOverkill mapData state delta) :=
  inferInstanceAs (Decidable (EachAfter _ _))

variable [IsStrictOrderedRing F] {mapData : MapData F} {state : GameState F R} {delta : F}
variable {entry : Enemy F × Nat} {proj : Projectile F} {type : ProjectileType F}
variable {frame frame' : Frame F R}

omit [IsStrictOrderedRing F] in
theorem Projectile.threat_of_typed (typed : mapData.projectileTypes[proj.typeIdx]? = some type) :
    proj.threat mapData state delta entry =
      (if proj.MayHit mapData state delta entry then type.damage else 0) +
        if proj.MaySplash mapData state delta entry then type.damage else 0 := by
  rw [threat, typed]

theorem Projectile.threat_nonneg (damaging : ∀ type ∈ mapData.projectileTypes, 0 ≤ type.damage) :
    0 ≤ proj.threat mapData state delta entry := by
  rw [threat]
  split
  case h_1 type typed =>
    have nonneg := damaging type (List.mem_of_getElem? typed)
    exact add_nonneg (ite_nonneg nonneg le_rfl) (ite_nonneg nonneg le_rfl)
  case h_2 => exact le_rfl

variable [Glm F]

/-- A detonation takes no more from an enemy than the projectile threatens to. -/
theorem Projectile.Aim.health_le (bounds : ExactBounds F)
    {enemies : List (Enemy F)} {alive : Bool} {target : Vec2 F} {slot : Nat} {enemy : Enemy F}
    (damaging : ∀ type ∈ mapData.projectileTypes, 0 ≤ type.damage)
    (aim : proj.Aim mapData enemies alive target type)
    (near : ¬type.speed * delta < Glm.length (target - proj.position))
    (holds : FromSurvivors mapData state delta enemies)
    (survives : (survivors mapData state)[slot]? = some entry)
    (becomes : Enemy.Becomes mapData state delta entry enemy) :
    enemy.remainingHealth - proj.threat mapData state delta entry ≤
      ((enemy.afterDirectHit type alive proj.targetEnemyIndex slot).afterSplash type
        target).remainingHealth := by
  have nonneg := damaging type (List.mem_of_getElem? aim.typed)
  let hit := enemy.afterDirectHit type alive proj.targetEnemyIndex slot
  have directly : enemy.remainingHealth -
      (if proj.MayHit mapData state delta entry then type.damage else 0) ≤
        hit.remainingHealth := by
    by_cases isTarget : alive = true ∧ slot = proj.targetEnemyIndex
    · rcases isTarget with ⟨rfl, rfl⟩
      rw [if_pos (aim.mayHit bounds near survives holds)]
      have struck : hit = enemy.damaged type.damage := if_pos ⟨rfl, rfl⟩
      exact struck ▸ enemy.health_le_damaged type.damage
    · have spared : hit = enemy := if_neg isTarget
      rw [spared]
      exact sub_le_self _ (ite_nonneg nonneg le_rfl)
  have sameBody : hit.body = enemy.body := by
    by_cases isTarget : alive = true ∧ slot = proj.targetEnemyIndex
    · have struck : hit = enemy.damaged type.damage := if_pos isTarget
      rw [struck]
      rfl
    · have spared : hit = enemy := if_neg isTarget
      rw [spared]
  have hitBecomes : Enemy.Becomes mapData state delta entry hit := by
    rcases becomes with ⟨image, isImage, imageBody⟩
    exact ⟨image, isImage, sameBody.trans imageBody⟩
  have bySplash : hit.remainingHealth -
      (if proj.MaySplash mapData state delta entry then type.damage else 0) ≤
        (hit.afterSplash type target).remainingHealth := by
    by_cases reached : isNearlyZero type.splashRadius = false ∧
        hit.inRadius target type.splashRadius = true
    · rw [if_pos (aim.maySplash bounds near hitBecomes reached.1 reached.2 holds),
        Enemy.afterSplash, if_pos reached]
      exact hit.health_le_damaged type.damage
    · rw [Enemy.afterSplash, if_neg reached]
      exact sub_le_self _ (ite_nonneg nonneg le_rfl)
  rw [threat_of_typed aim.typed, ← sub_sub]
  exact (sub_le_sub_right directly _).trans bySplash

/-- After the projectiles of `done`, every enemy has lost at most what they threaten to
take, and no strike has hit a corpse. -/
structure Frame.Lasts (mapData : MapData F) (state : GameState F R) (delta : F)
    (done : List (Projectile F)) (frame : Frame F R) : Prop where
  enemies : FromSurvivors mapData state delta frame.next.enemies
  health : ∀ (slot : Nat) (entry : Enemy F × Nat) (enemy : Enemy F),
    (survivors mapData state)[slot]? = some entry → frame.next.enemies[slot]? = some enemy →
    entry.1.remainingHealth - (done.map (Projectile.threat mapData state delta entry)).sum ≤
      enemy.remainingHealth
  living : HitsTheLiving frame.deeds

/-- One iteration keeps the enemies alive that later projectiles may hit. -/
theorem Frame.Lasts.step (bounds : ExactBounds F)
    (damaging : ∀ type ∈ mapData.projectileTypes, 0 ≤ type.damage)
    {done : List (Projectile F)} (lasts : frame.Lasts mapData state delta done)
    (noOverkill : ∀ entry ∈ survivors mapData state, proj.MayHit mapData state delta entry →
      (done.map (Projectile.threat mapData state delta entry)).sum < entry.1.remainingHealth)
    (executed : GameState.updateProjectile mapData delta frame proj = .ok frame') :
    frame'.Lasts mapData state delta (done ++ [proj]) := by
  have enemies := lasts.enemies.congr
    (GameState.updateProjectile_step executed).carries.1.bodies
  have keeps : ∀ (slot : Nat) (entry : Enemy F × Nat) (enemy : Enemy F),
      (survivors mapData state)[slot]? = some entry → frame.next.enemies[slot]? = some enemy →
      entry.1.remainingHealth -
          ((done ++ [proj]).map (Projectile.threat mapData state delta entry)).sum ≤
        enemy.remainingHealth - proj.threat mapData state delta entry := by
    intro slot entry enemy survives found
    rw [List.map_append, List.sum_append, List.map_singleton, List.sum_singleton, ← sub_sub]
    exact sub_le_sub_right (lasts.health slot entry enemy survives found) _
  cases GameState.updateProjectile_step executed with
  | skipped _ =>
      refine ⟨enemies, ?_, lasts.living⟩
      intro slot entry enemy survives found
      exact (keeps slot entry enemy survives found).trans
        (sub_le_self _ (Projectile.threat_nonneg damaging))
  | flies _ _ =>
      refine ⟨enemies, ?_, lasts.living⟩
      intro slot entry enemy survives found
      exact (keeps slot entry enemy survives found).trans
        (sub_le_self _ (Projectile.threat_nonneg damaging))
  | @detonates alive target type _ aim near detonated =>
      refine ⟨enemies, ?_, ?_⟩
      · intro slot entry enemyNext survives found
        rw [GameState.detonate_enemies detonated, Option.map_eq_some_iff] at found
        rcases found with ⟨enemy, foundBefore, rfl⟩
        exact (keeps slot entry enemy survives foundBefore).trans
          (aim.health_le bounds damaging near lasts.enemies survives
            (lasts.enemies.becomes survives foundBefore))
      · apply GameState.detonate_hitsTheLiving detonated _ lasts.living
        intro isAlive enemy found
        subst isAlive
        obtain ⟨entry, survives, _⟩ := lasts.enemies.slot found
        have left := noOverkill entry (List.mem_of_getElem? survives)
          (aim.mayHit bounds near survives lasts.enemies)
        exact (sub_pos.mpr left).trans_le (lasts.health _ entry enemy survives found)

/-- The strikes of a step that starts without overkill hit the living. -/
theorem World.step_hitsTheLiving (bounds : ExactBounds F) {world : World F R}
    {next : GameState F R} {commands : List (GameCommand F)} {record : StepRecord F}
    (damaging : ∀ type ∈ world.mapData.projectileTypes, 0 ≤ type.damage)
    (stepped : world.step state commands = .ok (next, record))
    (noOverkill : NoOverkill world.mapData state world.fixedDelta) :
    HitsTheLiving record.deeds := by
  obtain ⟨moved, fired, struck, after, frames, _, recorded⟩ := World.step_frames stepped
  obtain ⟨images, reached, _⟩ := GameState.moveEnemies_spec frames.moves
  obtain ⟨copies, shots, volley, _, _⟩ := GameState.updateTowers_spec frames.fires
  have initially : fired.Lasts world.mapData state world.fixedDelta [] := by
    refine ⟨volley.enemies.symm ▸ GameState.moveEnemies_fromSurvivors frames.moves, ?_, ?_⟩
    · intro slot entry enemy survives found
      rw [volley.enemies] at found
      obtain ⟨other, otherSurvives, image⟩ :=
        getElem?_of_forall₂ (GameState.moveEnemies_survivors frames.moves) found
      cases survives.symm.trans otherSurvives
      rw [List.map_nil, List.sum_nil, sub_zero, image.moved.remainingHealth]
    · rw [HitsTheLiving, volley.strikes_eq, reached]
      exact List.forall_mem_nil _
  have lasts : struck.Lasts world.mapData state world.fixedDelta state.projectiles := by
    apply foldlM_progress_at (Frame.Lasts world.mapData state world.fixedDelta) frames.hits
      initially
    intro done proj later before after split lasts stepped
    exact lasts.step bounds damaging (noOverkill done proj later split) stepped
  rw [recorded, HitsTheLiving, GameState.executeCommands_strikes frames.commanded]
  exact lasts.living

end Overkill

section Sessions

variable [IsStrictOrderedRing F] [Glm F] {platform : Platform F R} {fuel : Nat} {boot : Boot F R}
variable {batches : List (List (GameCommand F))} {process : Process F R}
variable {records : List (StepRecord F)}

/-- The gold ledger of a session holds exactly when every strike hit an enemy
that had health left. -/
theorem Boot.play_goldLedger_iff
    (played : boot.play platform fuel batches = .ok (process, records))
    (few : createdCount records < 2 ^ 32)
    (alive : ∀ type ∈ boot.mapData.enemyTypes, 0 < type.maxHealth)
    (damaging : ∀ type ∈ boot.mapData.projectileTypes, 0 < type.damage) :
    GoldLedger boot.mapData (ofInt boot.startingGold) process.session.next.playerState.gold
      batches.flatten (history records) ↔ HitsTheLiving (history records) := by
  have run := pure_run_of_play platform fuel played
  have changes : Battle.Changes boot.mapData ⟨[], []⟩
      ⟨process.session.next.enemies, history records⟩ := World.run_changes run []
  have harmless : ∀ type ∈ boot.mapData.projectileTypes, 0 ≤ type.damage :=
    fun type member => le_of_lt (damaging type member)
  constructor
  · intro ledger
    exact changes.hitsTheLiving alive harmless ledger.onePerEnemy
  · intro living
    have distinct := (World.run_lineage run).spawned_nodup few
    have once := changes.onePerEnemy harmless distinct living
    refine ⟨?_, once⟩
    have balanced := World.run_balanced run
    rw [slainOnce, List.pwFilter_eq_self.mpr once, balanced]
    simp only [Boot.startState, Boot.world, MapData.income, List.flatten_cons, List.nil_append]
    abel

omit [IsStrictOrderedRing F] [Glm F] in
theorem hitsTheLiving_history (living : ∀ record ∈ records, HitsTheLiving record.deeds) :
    HitsTheLiving (history records) := by
  rw [history]
  intro strike member
  obtain ⟨record, recordMember, struck⟩ :=
    List.mem_flatMap.mp (mem_strikes.mp member)
  exact living record recordMember strike (mem_strikes.mpr struck)

/-- In a session whose steps all start without overkill, the gold counts every slain
enemy once, and the session announces the death of each with one event. -/
theorem Boot.play_goldLedger (bounds : ExactBounds F)
    (played : boot.play platform fuel batches = .ok (process, records))
    (few : createdCount records < 2 ^ 32)
    (alive : ∀ type ∈ boot.mapData.enemyTypes, 0 < type.maxHealth)
    (damaging : ∀ type ∈ boot.mapData.projectileTypes, 0 < type.damage)
    (noOverkill : EachStep (boot.world platform fuel).step
      (fun state _ => NoOverkill boot.mapData state boot.fixedTimeDelta)
      (boot.startState platform) ([] :: batches)) :
    GoldLedger boot.mapData (ofInt boot.startingGold) process.session.next.playerState.gold
        batches.flatten (history records) ∧
      (records.flatMap fun record => record.events.filter GameEvent.isDeath) =
        (slainOnce (history records)).map Strike.deathEvent := by
  have run := pure_run_of_play platform fuel played
  have harmless : ∀ type ∈ boot.mapData.projectileTypes, 0 ≤ type.damage :=
    fun type member => le_of_lt (damaging type member)
  have living : ∀ record ∈ records, HitsTheLiving record.deeds :=
    noOverkill.outputs run.runFrom_eq fun _ _ _ _ stepped spares =>
      World.step_hitsTheLiving bounds harmless stepped spares
  have ledger := (Boot.play_goldLedger_iff played few alive damaging).mpr
    (hitsTheLiving_history living)
  refine ⟨ledger, ?_⟩
  rw [slainOnce, List.pwFilter_eq_self.mpr ledger.onePerEnemy]
  exact World.run_announcements run

end Sessions

section Meadow

open Rational

theorem meadow_alive : ∀ type ∈ meadowBoot.mapData.enemyTypes, 0 < type.maxHealth := by
  decide +kernel

theorem meadow_harmful : ∀ type ∈ meadowBoot.mapData.projectileTypes, 0 < type.damage := by
  decide +kernel

/-- A soldier that a single cannon kills is paid once. -/
theorem soldier_goldLedger : ∃ process records,
    meadowBoot.play platform 10 (duel 0 0) = .ok (process, records) ∧
    (killingStrikes (history records)).length = 1 ∧
    GoldLedger meadow 20 process.session.next.playerState.gold (duel 0 0).flatten
      (history records) := by
  obtain ⟨⟨process, records⟩, played, checked⟩ := exists_ok_of_succeedsWith
    (meadowBoot.play platform 10 (duel 0 0))
    (fun result => decide (createdCount result.2 < 2 ^ 32 ∧
      (killingStrikes (history result.2)).length = 1))
    (by decide +kernel)
  obtain ⟨few, one⟩ := of_decide_eq_true checked
  have noOverkill : EachStep (meadowBoot.world platform 10).step
      (fun state _ => NoOverkill meadowBoot.mapData state meadowBoot.fixedTimeDelta)
      (meadowBoot.startState platform) ([] :: duel 0 0) := by
    decide +kernel
  have ledger := (Boot.play_goldLedger exactBounds played few meadow_alive meadow_harmful
    noOverkill).1
  have start : (ofInt meadowBoot.startingGold : ℚ) = 20 := by decide +kernel
  rw [start] at ledger
  exact ⟨process, records, played, one, ledger⟩

/-- Two cannons hit the same soldier in one step: the second projectile reaches a
corpse and is paid again. -/
theorem soldier_paid_twice : ∃ process records,
    meadowBoot.play platform 10
        ([.debugSpawnEnemy 0, .buildTower 0 ⟨4, 1 / 2⟩, .buildTower 0 ⟨4, 1 / 2⟩] ::
          [[], [], [], []]) = .ok (process, records) ∧
    createdCount records < 2 ^ 32 ∧
    (∀ type ∈ meadowBoot.mapData.enemyTypes, 0 < type.maxHealth) ∧
    (∀ type ∈ meadowBoot.mapData.projectileTypes, 0 < type.damage) ∧
    (slainOnce (history records)).length = 1 ∧
    (records.flatMap fun record => record.events.filter GameEvent.isDeath).length = 2 ∧
    process.session.next.playerState.gold = 20 - (5 + 5) + (7 + 7) ∧
    ¬GoldLedger meadow 20 process.session.next.playerState.gold
      [.debugSpawnEnemy 0, .buildTower 0 ⟨4, 1 / 2⟩, .buildTower 0 ⟨4, 1 / 2⟩]
      (history records) := by
  obtain ⟨⟨process, records⟩, played, checked⟩ := exists_ok_of_succeedsWith
    (meadowBoot.play platform 10
      ([.debugSpawnEnemy 0, .buildTower 0 ⟨4, 1 / 2⟩, .buildTower 0 ⟨4, 1 / 2⟩] ::
        [[], [], [], []]))
    (fun result => decide (createdCount result.2 < 2 ^ 32 ∧
      (slainOnce (history result.2)).length = 1 ∧
      (result.2.flatMap fun record => record.events.filter GameEvent.isDeath).length = 2 ∧
      result.1.session.next.playerState.gold = 20 - (5 + 5) + (7 + 7) ∧
      ¬(killingStrikes (history result.2)).Pairwise Strike.OnOther))
    (by decide +kernel)
  obtain ⟨few, one, two, gold, twice⟩ := of_decide_eq_true checked
  exact ⟨process, records, played, few, meadow_alive, meadow_harmful, one, two, gold,
    fun ledger => twice ledger.onePerEnemy⟩

end Meadow

end TowerDefence
