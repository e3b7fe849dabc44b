import Mathlib.Algebra.Order.Group.MinMax
import TowerDefence.Session.LifeCycle

/-!
# The health ledger

Damage is clamped at zero after every strike, so an order of the strikes could
matter.  It does not: over a whole session the health of an enemy is the maximum
of its type less everything the strikes on it dealt, clamped once, and a strike
is classified as a death exactly when it completes the maximum.
-/

namespace TowerDefence

open Foundations

variable {F R : Type} [Field F] [LinearOrder F]

/-- The damage that the strikes of a history dealt to an enemy. -/
def damageTo (deeds : List (Deed F)) (id : Nat) : F :=
  (((strikes deeds).filter fun strike => strike.enemy.id = id).map Strike.damage).sum

theorem damageTo_append (deeds later : List (Deed F)) (id : Nat) :
    damageTo (deeds ++ later) id = damageTo deeds id + damageTo later id := by
  simp [damageTo]

theorem damageTo_strike (strike : Strike F) (id : Nat) :
    damageTo [.strike strike] id = if strike.enemy.id = id then strike.damage else 0 := by
  rw [damageTo, strikes_single, List.filter_singleton]
  split <;> simp_all

/-- Deeds without a strike deal no damage. -/
theorem damageTo_append_of_quiet {deeds later : List (Deed F)} (noStrike : strikes later = [])
    (id : Nat) : damageTo (deeds ++ later) id = damageTo deeds id := by
  rw [damageTo, strikes_append, noStrike, List.append_nil, damageTo]

/-- An enemy that no strike hit took no damage. -/
theorem damageTo_eq_zero {deeds : List (Deed F)} {id : Nat}
    (untouched : ∀ strike ∈ strikes deeds, strike.enemy.id ≠ id) : damageTo deeds id = 0 := by
  have none : ((strikes deeds).filter fun strike => strike.enemy.id = id) = [] := by
    simpa [List.filter_eq_nil_iff] using untouched
  rw [damageTo, none, List.map_nil, List.sum_nil]

/-- The health of the enemy is the maximum of its type less the damage it took. -/
def Enemy.Accounted (mapData : MapData F) (deeds : List (Deed F)) (enemy : Enemy F) : Prop :=
  ∃ type, mapData.enemyTypes[enemy.typeIdx]? = some type ∧
    enemy.remainingHealth = max 0 (type.maxHealth - damageTo deeds enemy.id)

/-- More deeds that do not harm the enemy leave its account alone. -/
theorem Enemy.Accounted.congr {mapData : MapData F} {deeds later : List (Deed F)}
    {enemy : Enemy F} (accounted : enemy.Accounted mapData deeds)
    (same : damageTo later enemy.id = damageTo deeds enemy.id) :
    enemy.Accounted mapData later := by
  obtain ⟨type, typed, health⟩ := accounted
  exact ⟨type, typed, same ▸ health⟩

variable [IsStrictOrderedRing F]

/-- Clamping after every loss is clamping once. -/
theorem max_zero_sub_max_zero_sub {total lost loss : F} (nonneg : 0 ≤ loss) :
    max 0 (max 0 (total - lost) - loss) = max 0 (total - (lost + loss)) := by
  rw [← max_sub_sub_right, zero_sub, ← max_assoc, max_eq_left (neg_nonpos.mpr nonneg),
    sub_add_eq_sub_sub]

omit [IsStrictOrderedRing F] in
theorem Strike.struck_remainingHealth (strike : Strike F) :
    strike.struck.remainingHealth = max 0 (strike.enemy.remainingHealth - strike.damage) := by
  rw [Strike.struck, Glm.max, max_def_lt]

/-- A strike on an accounted enemy leaves it accounted. -/
theorem Strike.struck_accounted {mapData : MapData F} {deeds : List (Deed F)} {strike : Strike F}
    (damaging : 0 ≤ strike.damage) (accounted : strike.enemy.Accounted mapData deeds) :
    strike.struck.Accounted mapData (deeds ++ [.strike strike]) := by
  obtain ⟨type, typed, health⟩ := accounted
  refine ⟨type, typed, ?_⟩
  have sameId : strike.struck.id = strike.enemy.id := rfl
  rw [sameId, damageTo_append, damageTo_strike, if_pos rfl, ← max_zero_sub_max_zero_sub damaging,
    ← health]
  exact strike.struck_remainingHealth

/-- A strike on an accounted enemy is a death exactly when it completes the
maximum. -/
theorem Strike.died_iff_of_accounted {mapData : MapData F} {deeds : List (Deed F)}
    {strike : Strike F} (damaging : 0 ≤ strike.damage)
    (accounted : strike.enemy.Accounted mapData deeds) :
    ∃ type, mapData.enemyTypes[strike.enemy.typeIdx]? = some type ∧
      (strike.died = true ↔ type.maxHealth ≤ damageTo deeds strike.enemy.id + strike.damage) := by
  obtain ⟨type, typed, health⟩ := accounted
  refine ⟨type, typed, ?_⟩
  rw [Strike.died, decide_eq_true_eq, health, max_le_iff, sub_le_iff_le_add']
  exact and_iff_right damaging

namespace Battle

/-- A deed that is a strike hits an accounted enemy. -/
def StrikesAccounted (mapData : MapData F) (past : List (Deed F)) (deed : Deed F) : Prop :=
  ∀ strike, deed = .strike strike → strike.enemy.Accounted mapData past ∧ 0 ≤ strike.damage

/-- Every enemy is accounted for, and so was every enemy when it was struck. -/
structure HealthLedger (mapData : MapData F) (battle : Battle F) : Prop where
  enemies : ∀ enemy ∈ battle.enemies, enemy.Accounted mapData battle.deeds
  struck : EachAfter (StrikesAccounted mapData) battle.deeds

variable {mapData : MapData F} {before after : Battle F}

theorem Change.healthLedger (healthy : ∀ type ∈ mapData.enemyTypes, 0 ≤ type.maxHealth)
    (damaging : ∀ type ∈ mapData.projectileTypes, 0 ≤ type.damage)
    (change : Change mapData before after) (known : before.Known)
    (distinct : (spawnedIds after.deeds).Nodup) (holds : before.HealthLedger mapData) :
    after.HealthLedger mapData := by
  cases change with
  | move carried =>
      refine ⟨?_, holds.struck⟩
      intro image member
      obtain ⟨enemy, enemyMember, moved⟩ := carried.exists_of_mem_images member
      obtain ⟨type, typed, health⟩ := holds.enemies enemy enemyMember
      exact ⟨type, moved.typeIdx ▸ typed, by rw [moved.remainingHealth, moved.id, health]⟩
  | record deed noStrike noSpawn =>
      constructor
      · intro enemy member
        have quiet : strikes [deed] = [] := by simp [strikes, noStrike]
        exact (holds.enemies enemy member).congr (damageTo_append_of_quiet quiet _)
      · apply holds.struck.concat
        intro strike isStrike
        rw [isStrike] at noStrike
        cases noStrike
  | @strike strike type typed damage found =>
      have struckMember := List.mem_of_getElem? found
      have accounted := holds.enemies strike.enemy struckMember
      have nonneg : 0 ≤ strike.damage := damage ▸ damaging type typed
      constructor
      · intro enemy member
        by_cases sameId : enemy.id = strike.enemy.id
        case pos =>
            rw [spawnedIds_append_strike] at distinct
            have nodup := distinct.sublist known.enemies
            rw [Strike.eq_struck found nodup member sameId]
            exact strike.struck_accounted nonneg accounted
        case neg =>
            cases List.mem_or_eq_of_mem_set member with
            | inl untouched =>
                apply (holds.enemies enemy untouched).congr
                rw [damageTo_append, damageTo_strike, if_neg (Ne.symm sameId), add_zero]
            | inr struck => exact absurd (congrArg (fun enemy => enemy.id) struck) sameId
      · apply holds.struck.concat
        intro other isStrike
        cases isStrike
        exact ⟨accounted, nonneg⟩
  | @spawn enemy type typed health _ =>
      have quiet : strikes [Deed.spawn enemy] = [] := rfl
      constructor
      · intro other member
        cases List.mem_append.mp member with
        | inl earlier =>
            exact (holds.enemies other earlier).congr (damageTo_append_of_quiet quiet _)
        | inr last =>
            cases List.mem_singleton.mp last
            refine ⟨type, typed, ?_⟩
            have untouched : damageTo before.deeds enemy.id = 0 := by
              apply damageTo_eq_zero
              intro strike member sameId
              rw [spawnedIds_append, List.nodup_append] at distinct
              exact distinct.2.2 _ (known.struck strike member) _ (by simp) sameId
            rw [damageTo_append_of_quiet quiet, untouched, sub_zero, health]
            exact (max_eq_right (healthy type (List.mem_of_getElem? typed))).symm
      · apply holds.struck.concat
        intro strike isStrike
        cases isStrike
  | despawn =>
      refine ⟨?_, holds.struck⟩
      intro enemy member
      cases member

theorem Changes.healthLedger (changes : Changes mapData ⟨[], []⟩ after)
    (healthy : ∀ type ∈ mapData.enemyTypes, 0 ≤ type.maxHealth)
    (damaging : ∀ type ∈ mapData.projectileTypes, 0 ≤ type.damage)
    (distinct : (spawnedIds after.deeds).Nodup) : after.HealthLedger mapData := by
  suffices general : after.Known ∧
      ((spawnedIds after.deeds).Nodup → after.HealthLedger mapData) from general.2 distinct
  apply changes.invariant fun battle =>
    battle.Known ∧ ((spawnedIds battle.deeds).Nodup → battle.HealthLedger mapData)
  · refine ⟨.nil, fun _ => ⟨?_, .nil⟩⟩
    intro enemy member
    cases member
  · intro before after change holds
    rcases holds with ⟨known, ledger⟩
    refine ⟨change.known known, ?_⟩
    intro distinctAfter
    have distinctBefore : (spawnedIds before.deeds).Nodup :=
      distinctAfter.sublist (change.deeds_prefix.sublist.filterMap _)
    exact change.healthLedger healthy damaging known distinctAfter (ledger distinctBefore)

end Battle

section Sessions

variable [Glm F] {platform : Platform F R} {fuel : Nat} {boot : Boot F R}
variable {batches : List (List (GameCommand F))} {process : Process F R}
variable {records : List (StepRecord F)}

/-- Over a whole session, the health of every enemy is the maximum of its type
less the damage of all strikes on it, clamped at zero, and the strikes classified
as deaths are those with which the damage reaches the maximum. -/
theorem Boot.play_healthLedger (played : boot.play platform fuel batches = .ok (process, records))
    (few : createdCount records < 2 ^ 32)
    (healthy : ∀ type ∈ boot.mapData.enemyTypes, 0 ≤ type.maxHealth)
    (damaging : ∀ type ∈ boot.mapData.projectileTypes, 0 ≤ type.damage) :
    (∀ enemy ∈ process.session.next.enemies, enemy.Accounted boot.mapData (history records)) ∧
      ∀ (past : List (Deed F)) (strike : Strike F) (later : List (Deed F)),
        history records = past ++ .strike strike :: later →
        ∃ type, boot.mapData.enemyTypes[strike.enemy.typeIdx]? = some type ∧
          (strike.died = true ↔
            type.maxHealth ≤ damageTo past strike.enemy.id + strike.damage) := by
  have run := pure_run_of_play platform fuel played
  have changes : Battle.Changes boot.mapData ⟨[], []⟩
      ⟨process.session.next.enemies, history records⟩ := World.run_changes run []
  have ledger := changes.healthLedger healthy damaging ((World.run_lineage run).spawned_nodup few)
  refine ⟨ledger.enemies, ?_⟩
  intro past strike later split
  obtain ⟨accounted, nonneg⟩ := ledger.struck past (.strike strike) later split strike rfl
  exact strike.died_iff_of_accounted nonneg accounted

end Sessions

section Meadow

open Rational

/-- The ledger of a scout that a bow has hit once. -/
theorem scout_healthLedger : ∃ process records,
    meadowBoot.play platform 10 ((duel 1 1).take 4) = .ok (process, records) ∧
    ∃ enemy ∈ process.session.next.enemies,
      damageTo (history records) enemy.id = 1 - 1 / 2 ^ 24 ∧
      enemy.Accounted meadow (history records) := by
  obtain ⟨⟨process, records⟩, played, checked⟩ := exists_ok_of_succeedsWith
    (meadowBoot.play platform 10 ((duel 1 1).take 4))
    (fun result => decide (createdCount result.2 < 2 ^ 32 ∧
      ∃ enemy ∈ result.1.session.next.enemies,
        damageTo (history result.2) enemy.id = 1 - 1 / 2 ^ 24))
    (by decide +kernel)
  obtain ⟨few, enemy, member, damage⟩ := of_decide_eq_true checked
  have ledger := Boot.play_healthLedger played few meadow_maxHealth_nonneg meadow_damaging
  exact ⟨process, records, played, enemy, member, damage, ledger.1 enemy member⟩

end Meadow

end TowerDefence
