import Mathlib.Algebra.Order.Ring.Defs
import Mathlib.Tactic.Linarith
import TowerDefence.Model.Rational
import TowerDefence.Session.Battle
import TowerDefence.Step.Account

/-!
# Dead enemies and the strikes that killed them

In exact arithmetic an enemy has no health left exactly when a strike on it was
classified as a death.  The movement loop uses another test: it also drops an
enemy whose health is positive but nearly zero, and for such an enemy no strike
was ever classified as a death.
-/

namespace TowerDefence

open Foundations

variable {F R : Type}

/-- The enemies of a battle were spawned in it, and so were those that were
struck. -/
structure Battle.Known (battle : Battle F) : Prop where
  enemies : (battle.enemies.map fun enemy => enemy.id).Sublist (spawnedIds battle.deeds)
  struck : ∀ strike ∈ strikes battle.deeds, strike.enemy.id ∈ spawnedIds battle.deeds

theorem Battle.Known.nil : Battle.Known (⟨[], []⟩ : Battle F) :=
  ⟨by simp, by simp [strikes]⟩

/-- Damage leaves the ids alone. -/
theorem Strike.ids_set [Arithmetic F] {enemies : List (Enemy F)} {strike : Strike F}
    (found : enemies[strike.enemyIndex]? = some strike.enemy) :
    ((enemies.set strike.enemyIndex strike.struck).map fun enemy => enemy.id) =
      enemies.map fun enemy => enemy.id :=
  Enemy.ids_eq_of_bodies (Strike.bodies_set found)

/-- Where no two enemies have one id, the enemy with the id of the struck one is the struck one. -/
theorem Strike.eq_struck [Arithmetic F] {enemies : List (Enemy F)} {strike : Strike F}
    {enemy : Enemy F} (found : enemies[strike.enemyIndex]? = some strike.enemy)
    (nodup : (enemies.map fun enemy => enemy.id).Nodup)
    (member : enemy ∈ enemies.set strike.enemyIndex strike.struck)
    (sameId : enemy.id = strike.enemy.id) : enemy = strike.struck := by
  have inBounds := (List.getElem?_eq_some_iff.mp found).1
  rw [← Strike.ids_set found] at nodup
  exact List.inj_on_of_nodup_map nodup member (List.mem_set inBounds _) sameId

/-- A strike spawns nothing. -/
theorem spawnedIds_append_strike (deeds : List (Deed F)) (strike : Strike F) :
    spawnedIds (deeds ++ [.strike strike]) = spawnedIds deeds := by
  simp [spawnedIds, Deed.spawnedId]

/-- The history only grows. -/
theorem Battle.Change.deeds_prefix [Arithmetic F] {mapData : MapData F} {before after : Battle F}
    (change : Battle.Change mapData before after) : before.deeds <+: after.deeds := by
  cases change with
  | move _ => exact List.prefix_rfl
  | record deed _ _ => exact List.prefix_append _ _
  | strike _ _ _ => exact List.prefix_append _ _
  | spawn _ _ _ => exact List.prefix_append _ _
  | despawn => exact List.prefix_rfl

theorem Battle.Change.known [Arithmetic F] {mapData : MapData F} {before after : Battle F}
    (change : Battle.Change mapData before after) (known : before.Known) : after.Known := by
  cases change with
  | move carried =>
      refine ⟨?_, known.struck⟩
      exact (carried.map_sublist fun _ _ moved => moved.id).trans known.enemies
  | record deed noStrike noSpawn =>
      constructor
      · simpa [spawnedIds, noSpawn] using known.enemies
      · simpa [strikes, spawnedIds, noStrike, noSpawn] using known.struck
  | @strike strike _ _ _ found =>
      constructor
      · rw [Strike.ids_set found, spawnedIds_append_strike]
        exact known.enemies
      · intro other member
        rw [spawnedIds_append_strike]
        rw [strikes_append, List.mem_append] at member
        cases member with
        | inl earlier => exact known.struck other earlier
        | inr last =>
            have same : other = strike := by simpa [strikes, Deed.asStrike] using last
            rw [same]
            apply known.enemies.subset
            exact List.mem_map.mpr ⟨_, List.mem_of_getElem? found, rfl⟩
  | @spawn enemy _ _ _ _ =>
      constructor
      · simpa using known.enemies.append_right [enemy.id]
      · intro strike member
        rw [strikes_append, List.mem_append] at member
        cases member with
        | inl earlier =>
            rw [spawnedIds_append]
            exact List.mem_append_left _ (known.struck strike earlier)
        | inr last => simp [strikes, Deed.asStrike] at last
  | despawn => exact ⟨List.nil_sublist _, known.struck⟩

/-! ## Exact arithmetic -/

variable [Field F] [LinearOrder F] [IsStrictOrderedRing F]

/-- A strike takes all health exactly when it is classified as a death. -/
theorem Strike.struck_nonpos_iff (strike : Strike F) :
    strike.struck.remainingHealth ≤ 0 ↔ strike.died = true := by
  simp only [Strike.struck, Strike.died, Glm.max, decide_eq_true_eq]
  split
  · rename_i positive
    constructor
    · intro nonpos
      exact absurd positive (not_lt.mpr nonpos)
    · intro died
      linarith
  · rename_i nonpositive
    have covered : strike.enemy.remainingHealth ≤ strike.damage := by linarith
    simp [covered]

/-- An enemy without health stays without health. -/
theorem Strike.struck_nonpos_of_nonpos {strike : Strike F} (damaging : 0 ≤ strike.damage)
    (dead : strike.enemy.remainingHealth ≤ 0) : strike.struck.remainingHealth ≤ 0 := by
  rw [Strike.struck_nonpos_iff, Strike.died, decide_eq_true_eq]
  linarith

namespace Battle

/-- Every enemy without health was killed. -/
def DeadStruck (battle : Battle F) : Prop :=
  ∀ enemy ∈ battle.enemies, enemy.remainingHealth ≤ 0 →
    ∃ strike ∈ killingStrikes battle.deeds,
      strike.enemy.id = enemy.id ∧ strike.enemy.typeIdx = enemy.typeIdx

/-- Every enemy that was killed is without health. -/
def StruckDead (battle : Battle F) : Prop :=
  ∀ strike ∈ killingStrikes battle.deeds, ∀ enemy ∈ battle.enemies,
    enemy.id = strike.enemy.id → enemy.remainingHealth ≤ 0

variable {mapData : MapData F} {before after : Battle F}

omit [IsStrictOrderedRing F] in
/-- Deaths stay on record. -/
theorem DeadStruck.grow {enemies : List (Enemy F)} {deeds : List (Deed F)}
    (holds : DeadStruck ⟨enemies, deeds⟩) (later : List (Deed F)) :
    DeadStruck ⟨enemies, deeds ++ later⟩ := by
  intro enemy member dead
  obtain ⟨strike, killed, same⟩ := holds enemy member dead
  exact ⟨strike, by simp [killed], same⟩

theorem Change.deadStruck (alive : ∀ type ∈ mapData.enemyTypes, 0 < type.maxHealth)
    (change : Change mapData before after) (holds : before.DeadStruck) : after.DeadStruck := by
  cases change with
  | move carried =>
      intro image member dead
      obtain ⟨enemy, enemyMember, moved⟩ := carried.exists_of_mem_images member
      obtain ⟨strike, killed, sameId, sameType⟩ :=
        holds enemy enemyMember (moved.remainingHealth ▸ dead)
      exact ⟨strike, killed, sameId.trans moved.id.symm, sameType.trans moved.typeIdx.symm⟩
  | record deed _ _ => exact DeadStruck.grow holds [deed]
  | @strike strike _ _ _ found =>
      intro enemy member dead
      cases List.mem_or_eq_of_mem_set member with
      | inl untouched => exact DeadStruck.grow holds [.strike strike] enemy untouched dead
      | inr struck =>
          subst struck
          have died := strike.struck_nonpos_iff.mp dead
          refine ⟨strike, ?_, rfl, rfl⟩
          rw [killingStrikes_append, List.mem_append]
          exact .inr (mem_killingStrikes.mpr ⟨List.mem_singleton_self _, died⟩)
  | @spawn enemy type typed health _ =>
      intro other member dead
      cases List.mem_append.mp member with
      | inl earlier => exact DeadStruck.grow holds [.spawn enemy] other earlier dead
      | inr last =>
          cases List.mem_singleton.mp last
          have positive := alive type (List.mem_of_getElem? typed)
          exact absurd dead (not_le.mpr (health ▸ positive))
  | despawn =>
      intro enemy member
      cases member

/-- As long as ids are not handed out twice, a killed enemy stays dead. -/
theorem Change.struckDead (damaging : ∀ type ∈ mapData.projectileTypes, 0 ≤ type.damage)
    (change : Change mapData before after) (known : before.Known)
    (distinct : (spawnedIds after.deeds).Nodup) (holds : before.StruckDead) :
    after.StruckDead := by
  cases change with
  | move carried =>
      intro strike killed image member same
      obtain ⟨enemy, enemyMember, moved⟩ := carried.exists_of_mem_images member
      rw [moved.remainingHealth]
      exact holds strike killed enemy enemyMember (moved.id ▸ same)
  | record deed noStrike _ =>
      intro strike killed
      have earlier : strike ∈ killingStrikes before.deeds := by
        simpa [killingStrikes, strikes, noStrike] using killed
      exact holds strike earlier
  | @strike strike type typed damage found =>
      intro other killed enemy member same
      rw [spawnedIds_append_strike] at distinct
      have nodup := distinct.sublist known.enemies
      cases List.mem_append.mp (killingStrikes_append before.deeds _ ▸ killed) with
      | inl earlier =>
          cases List.mem_or_eq_of_mem_set member with
          | inl untouched => exact holds other earlier enemy untouched same
          | inr struck =>
              subst struck
              have dead := holds other earlier strike.enemy (List.mem_of_getElem? found) same
              exact Strike.struck_nonpos_of_nonpos (damage ▸ damaging type typed) dead
      | inr last =>
          obtain ⟨recorded, died⟩ := mem_killingStrikes.mp last
          have sameStrike : other = strike := by simpa using recorded
          subst sameStrike
          rw [Strike.eq_struck found nodup member same]
          exact other.struck_nonpos_iff.mpr died
  | @spawn enemy type typed health _ =>
      intro strike killed other member same
      have earlierKilled : strike ∈ killingStrikes before.deeds := by
        simpa [killingStrikes, strikes, Deed.asStrike] using killed
      cases List.mem_append.mp member with
      | inl earlier => exact holds strike earlierKilled other earlier same
      | inr last =>
          cases List.mem_singleton.mp last
          rw [spawnedIds_append, List.nodup_append] at distinct
          have spawnedBefore :=
            known.struck strike (mem_strikes.mpr (mem_killingStrikes.mp earlierKilled).1)
          exact absurd same.symm (distinct.2.2 _ spawnedBefore _ (by simp))
  | despawn =>
      intro strike killed enemy member
      cases member

/-- Over a session, an enemy without health was killed. -/
theorem Changes.deadStruck (changes : Changes mapData ⟨[], []⟩ after)
    (alive : ∀ type ∈ mapData.enemyTypes, 0 < type.maxHealth) : after.DeadStruck := by
  apply changes.invariant DeadStruck
  · intro enemy member
    cases member
  · intro before after change holds
    exact change.deadStruck alive holds

/-- Over a session, a killed enemy is without health, as long as ids are not
handed out twice. -/
theorem Changes.struckDead (changes : Changes mapData ⟨[], []⟩ after)
    (damaging : ∀ type ∈ mapData.projectileTypes, 0 ≤ type.damage)
    (distinct : (spawnedIds after.deeds).Nodup) : after.Known ∧ after.StruckDead := by
  suffices general : after.Known ∧ ((spawnedIds after.deeds).Nodup → after.StruckDead) from
    ⟨general.1, general.2 distinct⟩
  apply changes.invariant fun battle =>
    battle.Known ∧ ((spawnedIds battle.deeds).Nodup → battle.StruckDead)
  · refine ⟨.nil, ?_⟩
    intro _ strike killed
    simp [killingStrikes, strikes] at killed
  · intro before after change holds
    rcases holds with ⟨known, struckDead⟩
    refine ⟨change.known known, ?_⟩
    intro distinctAfter
    have distinctBefore : (spawnedIds before.deeds).Nodup :=
      distinctAfter.sublist (change.deeds_prefix.sublist.filterMap _)
    exact change.struckDead damaging known distinctAfter (struckDead distinctBefore)

end Battle

/-! ## Whole sessions -/

section Runs

variable [Glm F]
variable {world : World F R} {start finish : GameState F R}
variable {batches : List (List (GameCommand F))} {records : List (StepRecord F)}

omit [IsStrictOrderedRing F] in
/-- Every step of a run announces the deaths it caused. -/
theorem World.run_announces (run : Run world.step start batches records finish) :
    ∀ record ∈ records, record.events.filter GameEvent.isDeath =
      (killingStrikes record.deeds).map Strike.deathEvent := by
  induction run with
  | nil =>
      intro record member
      cases member
  | snoc _ stepped ih =>
      intro record member
      cases List.mem_append.mp member with
      | inl earlier => exact ih record earlier
      | inr last =>
          obtain ⟨frame, executed, _, recorded⟩ := World.step_eq_ok.mp stepped
          cases List.mem_singleton.mp last
          rw [recorded]
          exact GameState.timeStep_announces executed rfl

omit [IsStrictOrderedRing F] in
/-- The announcements of a run are those of the deaths in its history. -/
theorem World.run_announcements (run : Run world.step start batches records finish) :
    (records.flatMap fun record => record.events.filter GameEvent.isDeath) =
      (killingStrikes (history records)).map Strike.deathEvent := by
  have announces := World.run_announces run
  clear run
  induction records with
  | nil => rfl
  | cons record records ih =>
      rw [List.flatMap_cons, announces record List.mem_cons_self,
        ih fun other member => announces other (List.mem_cons_of_mem _ member)]
      simp [history]

omit [IsStrictOrderedRing F] in
/-- The gold accounts for every command, tower and death of a run. -/
theorem World.run_balanced (run : Run world.step start batches records finish) :
    finish.playerState.gold = start.playerState.gold +
      world.mapData.income batches.flatten (history records) := by
  induction run with
  | nil => simp [MapData.income, addedGold, builtTowers, killingStrikes, strikes]
  | @snoc state next inputs outputs input output _ stepped ih =>
      obtain ⟨frame, executed, reached, recorded⟩ := World.step_eq_ok.mp stepped
      have balanced := GameState.timeStep_balanced rfl executed
      rw [Frame.Balanced, ih] at balanced
      rw [reached, balanced, recorded, history_append, history_single, List.flatten_append,
        MapData.income_append, add_assoc]
      simp

/-- The enemy was classified as died by a strike of these steps: the step emitted
the event that announces it. -/
def PaidDeath (records : List (StepRecord F)) (enemy : Enemy F) : Prop :=
  ∃ record ∈ records, ∃ strike ∈ killingStrikes record.deeds,
    strike.enemy.id = enemy.id ∧ strike.enemy.typeIdx = enemy.typeIdx ∧
      strike.deathEvent ∈ record.events

omit [IsStrictOrderedRing F] in
theorem World.run_paidDeath (run : Run world.step start batches records finish)
    {enemy : Enemy F} {strike : Strike F} (killed : strike ∈ killingStrikes (history records))
    (sameId : strike.enemy.id = enemy.id) (sameType : strike.enemy.typeIdx = enemy.typeIdx) :
    PaidDeath records enemy := by
  obtain ⟨recorded, died⟩ := mem_killingStrikes.mp killed
  obtain ⟨record, member, inRecord⟩ := List.mem_flatMap.mp recorded
  have killedIn : strike ∈ killingStrikes record.deeds := mem_killingStrikes.mpr ⟨inRecord, died⟩
  refine ⟨record, member, strike, killedIn, sameId, sameType, ?_⟩
  have announced := List.mem_map_of_mem (f := Strike.deathEvent) killedIn
  rw [← World.run_announces run record member] at announced
  exact List.mem_of_mem_filter announced

omit [IsStrictOrderedRing F] [Glm F] in
theorem PaidDeath.killed {enemy : Enemy F} (paid : PaidDeath records enemy) :
    ∃ strike ∈ killingStrikes (history records), strike.enemy.id = enemy.id := by
  rcases paid with ⟨record, member, strike, killed, sameId, _⟩
  obtain ⟨recorded, died⟩ := mem_killingStrikes.mp killed
  exact ⟨strike, mem_killingStrikes.mpr ⟨List.mem_flatMap.mpr ⟨record, member, recorded⟩, died⟩,
    sameId⟩

end Runs

section Sessions

variable [Glm F] {platform : Platform F R} {fuel : Nat} {boot : Boot F R}
variable {batches : List (List (GameCommand F))} {process : Process F R}
variable {records : List (StepRecord F)}

/-- The two death tests, for the enemies of the state before any step of a
session.  If none of them has a positive health that is nearly zero, then every
enemy that the movement loop drops for its health was classified as died before;
if ids are not handed out twice, an enemy with such a health was not.  The gold
before the step includes the reward of every death. -/
theorem Boot.play_deaths (played : boot.play platform fuel batches = .ok (process, records))
    (healthy : ∀ type ∈ boot.mapData.enemyTypes, defaultMaxDiff < type.maxHealth)
    (damaging : ∀ type ∈ boot.mapData.projectileTypes, 0 ≤ type.damage) :
    ((∀ enemy ∈ process.session.prev.enemies,
        isNearlyZero enemy.remainingHealth = true → enemy.remainingHealth ≤ 0) →
      ∀ enemy ∈ process.session.prev.enemies, isNearlyZero enemy.remainingHealth = true →
        PaidDeath records.dropLast enemy) ∧
    (createdCount records < 2 ^ 32 →
      (∀ enemy ∈ process.session.prev.enemies, isNearlyZero enemy.remainingHealth = true →
        PaidDeath records.dropLast enemy) →
      ∀ enemy ∈ process.session.prev.enemies,
        isNearlyZero enemy.remainingHealth = true → enemy.remainingHealth ≤ 0) ∧
    process.session.prev.playerState.gold = ofInt boot.startingGold +
      boot.mapData.income ([] :: batches).dropLast.flatten (history records.dropLast) := by
  obtain ⟨earlier, commands, earlierRecords, record, inputs, outputs, run, _⟩ :=
    last_step_of_play platform fuel played
  have alive : ∀ type ∈ boot.mapData.enemyTypes, 0 < type.maxHealth := by
    intro type member
    exact lt_trans defaultMaxDiff_pos (healthy type member)
  have changes : Battle.Changes boot.mapData ⟨[], []⟩
      ⟨process.session.prev.enemies, history earlierRecords⟩ := World.run_changes run []
  rw [inputs, outputs, List.dropLast_concat, List.dropLast_concat]
  refine ⟨?_, ?_, World.run_balanced run⟩
  · intro noResidue enemy member nearlyDead
    obtain ⟨strike, killed, sameId, sameType⟩ :=
      changes.deadStruck alive enemy member (noResidue enemy member nearlyDead)
    exact World.run_paidDeath run killed sameId sameType
  · intro few allPaid enemy member nearlyDead
    have fewEarlier : (createdIds (history earlierRecords)).length < 2 ^ 32 := by
      rw [createdCount, history_append, createdIds_append, List.length_append] at few
      omega
    have distinct := (World.run_lineage run).spawned_nodup fewEarlier
    obtain ⟨strike, killed, sameId⟩ := (allPaid enemy member nearlyDead).killed
    exact (changes.struckDead damaging distinct).2 strike killed enemy member sameId.symm

end Sessions

section Meadow

open Rational

instance (records : List (StepRecord ℚ)) (enemy : Enemy ℚ) : Decidable (PaidDeath records enemy) :=
  inferInstanceAs (Decidable (∃ record ∈ records, ∃ strike ∈ killingStrikes record.deeds,
    strike.enemy.id = enemy.id ∧ strike.enemy.typeIdx = enemy.typeIdx ∧
      strike.deathEvent ∈ record.events))

theorem meadow_healthy : ∀ type ∈ meadowBoot.mapData.enemyTypes,
    defaultMaxDiff < type.maxHealth := by
  decide +kernel

theorem meadow_damaging : ∀ type ∈ meadowBoot.mapData.projectileTypes, 0 ≤ type.damage := by
  decide +kernel

/-- A cannon kills a soldier, who is dropped after a paid death. -/
theorem soldier_paidDeath : ∃ process records,
    meadowBoot.play platform 10 (duel 0 0) = .ok (process, records) ∧
    ∃ enemy ∈ process.session.prev.enemies, isNearlyZero enemy.remainingHealth = true ∧
      PaidDeath records.dropLast enemy := by
  obtain ⟨⟨process, records⟩, played, checked⟩ := exists_ok_of_succeedsWith
    (meadowBoot.play platform 10 (duel 0 0))
    (fun result => decide ((∀ enemy ∈ result.1.session.prev.enemies,
        isNearlyZero enemy.remainingHealth = true → enemy.remainingHealth ≤ 0) ∧
      ∃ enemy ∈ result.1.session.prev.enemies, isNearlyZero enemy.remainingHealth = true))
    (by decide +kernel)
  obtain ⟨noResidue, enemy, member, nearlyDead⟩ := of_decide_eq_true checked
  have deaths := (Boot.play_deaths played meadow_healthy meadow_damaging).1 noResidue
  exact ⟨process, records, played, enemy, member, nearlyDead, deaths enemy member nearlyDead⟩

/-- A bow leaves a scout a health of `2 ^ -24`: the scout is dropped, but no
strike was ever classified as its death. -/
theorem scout_unpaidDeath :
    (∀ type ∈ meadowBoot.mapData.enemyTypes, defaultMaxDiff < type.maxHealth) ∧
    (∀ type ∈ meadowBoot.mapData.projectileTypes, 0 ≤ type.damage) ∧
    ∃ process records,
      meadowBoot.play platform 10 (duel 1 1) = .ok (process, records) ∧
      ∃ enemy ∈ process.session.prev.enemies, isNearlyZero enemy.remainingHealth = true ∧
        enemy.id ∉ process.session.next.enemyIds ∧ ¬PaidDeath records.dropLast enemy := by
  refine ⟨meadow_healthy, meadow_damaging, ?_⟩
  obtain ⟨⟨process, records⟩, played, checked⟩ := exists_ok_of_succeedsWith
    (meadowBoot.play platform 10 (duel 1 1))
    (fun result => decide (∃ enemy ∈ result.1.session.prev.enemies,
      isNearlyZero enemy.remainingHealth = true ∧
        enemy.id ∉ result.1.session.next.enemyIds ∧ ¬PaidDeath result.2.dropLast enemy))
    (by decide +kernel)
  exact ⟨process, records, played, of_decide_eq_true checked⟩

end Meadow

end TowerDefence
