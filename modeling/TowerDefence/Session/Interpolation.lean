import TowerDefence.Session.Identity
import TowerDefence.Step.Interpolation

/-!
# Interpolation between the two states of a session

Enemies and towers of the newer state are old ones followed by new ones, which is
the order that the loop of `InterpolateEntities` needs.  Among the projectiles the
new ones come first, so the loop gets stuck as soon as a projectile is launched
while another one keeps flying.
-/

namespace TowerDefence

open Foundations

variable {F R : Type} [Arithmetic F] [Glm F]

/-- The ids of `out` are the ids of `next` that also occur in `prev`, each once
and in the order of `next`. -/
structure InterpolatesExactly (prev next out : List Nat) : Prop where
  distinct : out.Nodup
  common : out = next.filter (· ∈ prev)

/-- An interpolated state has exactly the objects of both states. -/
structure GameState.Interpolates (prev next out : GameState F R) : Prop where
  enemies : InterpolatesExactly prev.enemyIds next.enemyIds out.enemyIds
  towers : InterpolatesExactly prev.towerIds next.towerIds out.towerIds
  projectiles : InterpolatesExactly prev.projectileIds next.projectileIds out.projectileIds

omit [Arithmetic F] [Glm F] in
theorem interpolatesExactly_iff {prev next : List Nat} (distinct : next.Nodup) :
    InterpolatesExactly prev next (matched prev next) ↔ Matches prev next (matched prev next) := by
  constructor
  · intro exact
    exact exact.common
  · intro found
    refine ⟨?_, found⟩
    rw [found]
    exact distinct.filter _

section Sessions

variable {platform : Platform F R} {fuel : Nat} {boot : Boot F R}
variable {batches : List (List (GameCommand F))} {process : Process F R}
variable {records : List (StepRecord F)}

omit [Arithmetic F] [Glm F] in
/-- The objects of a state are at most as many as were created. -/
theorem Lineage.lengths_le {start finish : GameState F R} {deeds : List (Deed F)}
    (lineage : Lineage start deeds finish) (empty : start.objectIds = []) :
    finish.enemies.length ≤ (createdIds deeds).length ∧
      finish.towers.length ≤ (createdIds deeds).length ∧
      finish.projectiles.length ≤ (createdIds deeds).length := by
  have bounded := lineage.objects.length_le
  rw [empty, List.nil_append] at bounded
  simp only [GameState.objectIds, GameState.enemyIds, GameState.towerIds,
    GameState.projectileIds, List.length_append, List.length_map] at bounded
  omega

/-- With enough fuel interpolation succeeds, and its three lists are what the
one-pass matching finds. -/
theorem GameState.interpolate_ids (prev next outState : GameState F R) (amount : F) {fuel : Nat}
    (short : fuel < 2 ^ 32)
    (prevShort : prev.enemies.length ≤ fuel ∧ prev.towers.length ≤ fuel ∧
      prev.projectiles.length ≤ fuel)
    {steps : Nat} (enough : fuel ≤ steps) :
    ∃ out, interpolate prev next outState amount steps = .ok out ∧
      out.enemyIds = matched prev.enemyIds next.enemyIds ∧
      out.towerIds = matched prev.towerIds next.towerIds ∧
      out.projectileIds = matched prev.projectileIds next.projectileIds := by
  obtain ⟨enemies, mergedEnemies, enemyIds⟩ := interpolateEntities_ids prev.enemies next.enemies
    amount steps (by omega) (by omega)
  obtain ⟨towers, mergedTowers, towerIds⟩ := interpolateEntities_ids prev.towers next.towers
    amount steps (by omega) (by omega)
  obtain ⟨projectiles, mergedProjectiles, projectileIds⟩ := interpolateEntities_ids
    prev.projectiles next.projectiles amount steps (by omega) (by omega)
  refine ⟨{ outState with playerState := next.playerState, enemies, towers, projectiles }, ?_,
    enemyIds, towerIds, projectileIds⟩
  rw [interpolate, mergedEnemies, mergedTowers, mergedProjectiles]
  rfl

omit [Arithmetic F] [Glm F] in
/-- What the one-pass matching finds after one step: all common enemies and
towers, and all common projectiles unless old and new ones are mixed. -/
theorem Descends.interpolates_iff {prev next out : GameState F R} {deeds : List (Deed F)}
    (descends : Descends prev deeds next) (prevIdentified : prev.Identified)
    (nextIdentified : next.Identified)
    (bounded : prev.nextObjectId + (createdIds deeds).length < 2 ^ 32)
    (enemyIds : out.enemyIds = matched prev.enemyIds next.enemyIds)
    (towerIds : out.towerIds = matched prev.towerIds next.towerIds)
    (projectileIds : out.projectileIds = matched prev.projectileIds next.projectileIds) :
    prev.Interpolates next out ↔
      (∀ id ∈ next.projectileIds, id ∈ prev.projectileIds) ∨
        ∀ id ∈ next.projectileIds, id ∉ prev.projectileIds := by
  have fresh : ∀ id ∈ createdIds deeds, id ∉ prev.objectIds :=
    fun id created => descends.lineage.created_fresh prevIdentified bounded created
  have distinctEnemies : prev.enemyIds.Nodup := prevIdentified.enemies.imp Nat.ne_of_lt
  have distinctTowers : prev.towerIds.Nodup := prevIdentified.towers.imp Nat.ne_of_lt
  -- new enemies and towers come last
  obtain ⟨keptEnemies, newEnemies, enemySplit, keptEnemiesSub, newEnemiesSub⟩ :=
    List.sublist_append_iff.mp descends.enemies
  have enemiesMatch := matches_append keptEnemiesSub distinctEnemies fun id member present =>
    fresh id ((spawnedIds_sublist _).subset (newEnemiesSub.subset member))
      (List.mem_append_left _ (List.mem_append_left _ present))
  have towersMatch := matches_append (List.Sublist.refl prev.towerIds)
    distinctTowers fun id member present => fresh id ((builtIds_sublist _).subset member)
      (List.mem_append_left _ (List.mem_append_right _ present))
  -- new projectiles come first
  obtain ⟨flying, flyingSub, projectileSplit⟩ := descends.projectiles
  have projectilesMatch := matches_of_fresh_append_iff flyingSub prevIdentified.projectiles
    fun id member present => fresh id ((launchedIds_subset _) member)
      (List.mem_append_right _ present)
  rw [← enemySplit] at enemiesMatch
  rw [← descends.towers] at towersMatch
  rw [← projectileSplit, ← interpolatesExactly_iff nextIdentified.projectiles] at projectilesMatch
  rw [← projectilesMatch]
  constructor
  · intro exact
    exact projectileIds ▸ exact.projectiles
  · intro exactProjectiles
    constructor
    · rw [enemyIds]
      exact (interpolatesExactly_iff (nextIdentified.enemies.imp Nat.ne_of_lt)).mpr enemiesMatch
    · rw [towerIds]
      exact (interpolatesExactly_iff (nextIdentified.towers.imp Nat.ne_of_lt)).mpr towersMatch
    · rw [projectileIds]
      exact exactProjectiles

/-- In a session in which fewer than `2 ^ 32` objects are created, interpolation
succeeds for every amount.  It loses no object exactly when the projectiles of the
newer state are all old or all new. -/
theorem Boot.play_interpolates (played : boot.play platform fuel batches = .ok (process, records))
    (few : createdCount records < 2 ^ 32) (amount : F) (outState : GameState F R) {steps : Nat}
    (enough : createdCount records ≤ steps) :
    ∃ out, process.session.interpolateState outState amount steps = .ok out ∧
      (process.session.prev.Interpolates process.session.next out ↔
        (∀ id ∈ process.session.next.projectileIds, id ∈ process.session.prev.projectileIds) ∨
          ∀ id ∈ process.session.next.projectileIds, id ∉ process.session.prev.projectileIds) := by
  obtain ⟨earlier, commands, earlierRecords, record, inputs, outputs, toPrev, stepped⟩ :=
    last_step_of_play platform fuel played
  have prevLineage := World.run_lineage toPrev
  have nextLineage := World.run_lineage (pure_run_of_play platform fuel played)
  have descends := World.step_descends stepped
  have counts : createdCount records =
      (createdIds (history earlierRecords)).length + (createdIds record.deeds).length := by
    rw [createdCount, outputs, history_append, history_single, createdIds_append,
      List.length_append]
  have prevShort := prevLineage.lengths_le rfl
  rw [createdCount] at few enough counts
  have prevIdentified := prevLineage.identified (by omega)
  have counter := (prevLineage.counter (by omega)).2
  obtain ⟨out, interpolated, enemyIds, towerIds, projectileIds⟩ := GameState.interpolate_ids
    process.session.prev process.session.next outState amount few (by omega) enough
  exact ⟨out, interpolated, descends.interpolates_iff prevIdentified
    (nextLineage.identified few) (by omega) enemyIds towerIds projectileIds⟩

end Sessions

section Meadow

open Rational

/-- A soldier walks towards a distant cannon. -/
def siege : List (List (GameCommand ℚ)) :=
  [[.debugSpawnEnemy 0, .buildTower 0 ⟨9, 1 / 2⟩], [], [], []]

/-- Before the cannon fires a second time, interpolation is exact. -/
theorem siege_interpolates : ∃ process records out,
    meadowBoot.play platform 10 (siege.take 3) = .ok (process, records) ∧
    process.session.interpolateState meadowBoot.otherBuffer (1 / 2) 10 = .ok out ∧
    process.session.prev.Interpolates process.session.next out ∧ out.enemyIds = [0] := by
  obtain ⟨⟨process, records⟩, played, checked⟩ := exists_ok_of_succeedsWith
    (meadowBoot.play platform 10 (siege.take 3))
    (fun result => decide (createdCount result.2 < 2 ^ 32 ∧ createdCount result.2 ≤ 10 ∧
      (∀ id ∈ result.1.session.next.projectileIds, id ∉ result.1.session.prev.projectileIds) ∧
      result.1.session.next.enemyIds.filter (· ∈ result.1.session.prev.enemyIds) = [0]))
    (by decide +kernel)
  obtain ⟨few, enough, allNew, common⟩ := of_decide_eq_true checked
  obtain ⟨out, interpolated, exactly⟩ :=
    Boot.play_interpolates played few (1 / 2) meadowBoot.otherBuffer enough
  have interpolates := exactly.mpr (.inr allNew)
  exact ⟨process, records, out, played, interpolated, interpolates,
    interpolates.enemies.common.trans common⟩

/-- The cannon fires while its first projectile keeps flying: that projectile is
lost in the interpolated state. -/
theorem siege_loses_projectile : ∃ process records out,
    meadowBoot.play platform 10 siege = .ok (process, records) ∧
    createdCount records < 2 ^ 32 ∧
    process.session.interpolateState meadowBoot.otherBuffer (1 / 2) 10 = .ok out ∧
    2 ∈ process.session.prev.projectileIds ∧ 2 ∈ process.session.next.projectileIds ∧
    2 ∉ out.projectileIds ∧ ¬process.session.prev.Interpolates process.session.next out := by
  obtain ⟨⟨process, records⟩, played, checked⟩ := exists_ok_of_succeedsWith
    (meadowBoot.play platform 10 siege)
    (fun result => decide (createdCount result.2 < 2 ^ 32 ∧
      2 ∈ result.1.session.prev.projectileIds ∧ 2 ∈ result.1.session.next.projectileIds) &&
      succeedsWith (fun out => decide (2 ∉ out.projectileIds))
        (result.1.session.interpolateState meadowBoot.otherBuffer (1 / 2) 10))
    (by decide +kernel)
  rw [Bool.and_eq_true] at checked
  obtain ⟨few, inPrev, inNext⟩ := of_decide_eq_true checked.1
  obtain ⟨out, interpolated, lost⟩ := exists_ok_of_succeedsWith _ _ checked.2
  have notInOut := of_decide_eq_true lost
  refine ⟨process, records, out, played, few, interpolated, inPrev, inNext, notInOut, ?_⟩
  intro interpolates
  apply notInOut
  rw [interpolates.projectiles.common, List.mem_filter]
  exact ⟨inNext, decide_eq_true inPrev⟩

end Meadow

end TowerDefence
