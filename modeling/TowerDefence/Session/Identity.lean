import Mathlib.Data.List.Perm.Subperm
import TowerDefence.Model.Rational
import TowerDefence.Session.Refinement
import TowerDefence.Step.Objects

/-!
# Object identity

Over a run, the objects of the last state are objects of the first one or were
created on the way, and the created ids come from one counter.  As long as the
counter does not wrap, ids identify objects.
-/

namespace TowerDefence

open Foundations

variable {F R : Type}

/-- Everything that happened in the steps of a run. -/
def history (records : List (StepRecord F)) : List (Deed F) :=
  records.flatMap fun record => record.deeds

@[simp] theorem history_nil : history ([] : List (StepRecord F)) = [] := rfl

@[simp] theorem history_append (records later : List (StepRecord F)) :
    history (records ++ later) = history records ++ history later := by
  simp [history]

@[simp] theorem history_single (record : StepRecord F) : history [record] = record.deeds := by
  simp [history]

/-- How many objects the steps of a run created. -/
def createdCount (records : List (StepRecord F)) : Nat := (createdIds (history records)).length

/-- `Descends` for runs; the order of the projectiles is not kept. -/
structure Lineage (start : GameState F R) (deeds : List (Deed F)) (finish : GameState F R) :
    Prop where
  enemies : finish.enemyIds.Sublist (start.enemyIds ++ spawnedIds deeds)
  towers : finish.towerIds = start.towerIds ++ builtIds deeds
  objects : finish.objectIds.Subperm (start.objectIds ++ createdIds deeds)
  allocates : Allocates (2 ^ 32) start.nextObjectId (createdIds deeds) finish.nextObjectId

/-- The objects of the next state are old ones or new ones. -/
theorem Descends.objects {start finish : GameState F R} {deeds : List (Deed F)}
    (descends : Descends start deeds finish) :
    finish.objectIds.Subperm (start.objectIds ++ createdIds deeds) := by
  obtain ⟨flying, fromStart, projectiles⟩ := descends.projectiles
  have enemies := descends.enemies.subperm
  have projectilesLe : finish.projectileIds.Subperm (start.projectileIds ++ launchedIds deeds) := by
    rw [projectiles]
    exact (fromStart.append_left _).subperm.trans List.perm_append_comm.subperm
  have shuffled : (start.enemyIds ++ spawnedIds deeds ++ (start.towerIds ++ builtIds deeds) ++
      (start.projectileIds ++ launchedIds deeds)).Perm
      (start.objectIds ++ (spawnedIds deeds ++ builtIds deeds ++ launchedIds deeds)) := by
    apply List.perm_iff_count.mpr
    intro id
    simp only [GameState.objectIds, List.count_append]
    omega
  rw [GameState.objectIds, descends.towers]
  apply ((enemies.append (List.Subperm.refl _)).append projectilesLe).trans
  exact (shuffled.trans ((createdIds_perm deeds).append_left _)).subperm

theorem Descends.lineage {start finish : GameState F R} {deeds : List (Deed F)}
    (descends : Descends start deeds finish) : Lineage start deeds finish :=
  ⟨descends.enemies, descends.towers, descends.objects, descends.allocates⟩

namespace Lineage

variable {start middle finish : GameState F R} {deeds later : List (Deed F)}

theorem refl (state : GameState F R) : Lineage state [] state where
  enemies := by simp [spawnedIds]
  towers := by simp [builtIds]
  objects := by simpa [createdIds] using List.Subperm.refl state.objectIds
  allocates := .nil _

theorem trans (first : Lineage start deeds middle) (second : Lineage middle later finish) :
    Lineage start (deeds ++ later) finish where
  enemies := by
    rw [spawnedIds_append, ← List.append_assoc]
    exact second.enemies.trans (first.enemies.append_right _)
  towers := by rw [second.towers, first.towers, builtIds_append, List.append_assoc]
  objects := by
    rw [createdIds_append, ← List.append_assoc]
    exact second.objects.trans (first.objects.append (List.Subperm.refl _))
  allocates := by
    rw [createdIds_append]
    exact first.allocates.append second.allocates

end Lineage

variable [Arithmetic F] [Glm F]

/-- A pure step is an execution of `TimeStep` in a frame of its own. -/
theorem World.step_eq_ok {world : World F R} {state next : GameState F R}
    {commands : List (GameCommand F)} {record : StepRecord F} :
    world.step state commands = .ok (next, record) ↔
      ∃ frame, GameState.timeStep world.platform world.mapData state commands world.fixedDelta
          world.fuel { next := state, enemyQueryStorage := [], outGameEvents := [], deeds := [] } =
          .ok frame ∧
        next = frame.next ∧ record = ⟨commands, frame.outGameEvents, frame.deeds⟩ := by
  simp only [World.step, bind_eq_ok, pure_eq_ok, Prod.mk.injEq]
  constructor
  · intro executed
    rcases executed with ⟨frame, stepped, same, recorded⟩
    exact ⟨frame, stepped, same.symm, recorded.symm⟩
  · intro executed
    rcases executed with ⟨frame, stepped, same, recorded⟩
    exact ⟨frame, stepped, same.symm, recorded.symm⟩

theorem World.step_descends {world : World F R} {state next : GameState F R}
    {commands : List (GameCommand F)} {record : StepRecord F}
    (stepped : world.step state commands = .ok (next, record)) :
    Descends state record.deeds next := by
  obtain ⟨frame, executed, reached, recorded⟩ := World.step_eq_ok.mp stepped
  obtain ⟨deeds, appended, descends⟩ := GameState.timeStep_descends executed
  rw [List.nil_append] at appended
  rw [reached, recorded, appended]
  exact descends

theorem World.run_lineage {world : World F R} {start finish : GameState F R}
    {batches : List (List (GameCommand F))} {records : List (StepRecord F)}
    (run : Run world.step start batches records finish) :
    Lineage start (history records) finish := by
  induction run with
  | nil => exact .refl _
  | snoc _ stepped ih =>
      rw [history_append, history_single]
      exact ih.trans (World.step_descends stepped).lineage

/-- What identifies the objects of a state. -/
structure GameState.Identified (state : GameState F R) : Prop where
  distinct : state.objectIds.Nodup
  below : ∀ id ∈ state.objectIds, id < state.nextObjectId
  enemies : state.enemyIds.Pairwise (· < ·)
  towers : state.towerIds.Pairwise (· < ·)

omit [Arithmetic F] [Glm F] in
/-- Created ids are new. -/
theorem Lineage.created_fresh {start finish : GameState F R} {deeds : List (Deed F)}
    (lineage : Lineage start deeds finish) (identified : start.Identified)
    (bounded : start.nextObjectId + (createdIds deeds).length < 2 ^ 32) {id : Nat}
    (created : id ∈ createdIds deeds) : id ∉ start.objectIds := by
  intro present
  have isNew := (lineage.allocates.mem_bounds bounded created).1
  have isOld := identified.below id present
  omega

omit [Arithmetic F] [Glm F] in
theorem GameState.Identified.projectiles {state : GameState F R} (identified : state.Identified) :
    state.projectileIds.Nodup :=
  (List.nodup_append.mp identified.distinct).2.1

section Sessions

variable {platform : Platform F R} {fuel : Nat} {boot : Boot F R}
variable {state : GameState F R} {deeds : List (Deed F)}

omit [Glm F] in
/-- The counter of a session counts the created objects. -/
theorem Lineage.counter (lineage : Lineage (boot.startState platform) deeds state)
    (few : (createdIds deeds).length < 2 ^ 32) :
    (boot.startState platform).nextObjectId + (createdIds deeds).length < 2 ^ 32 ∧
      state.nextObjectId = (createdIds deeds).length := by
  have zero : (boot.startState platform).nextObjectId = 0 := rfl
  have bounded : (boot.startState platform).nextObjectId + (createdIds deeds).length < 2 ^ 32 := by
    rw [zero, Nat.zero_add]
    exact few
  refine ⟨bounded, ?_⟩
  rw [lineage.allocates.last_eq bounded, zero, Nat.zero_add]

omit [Glm F] in
theorem Lineage.created_nodup (lineage : Lineage (boot.startState platform) deeds state)
    (few : (createdIds deeds).length < 2 ^ 32) : (createdIds deeds).Nodup :=
  lineage.allocates.nodup (lineage.counter few).1

omit [Glm F] in
theorem Lineage.spawned_nodup (lineage : Lineage (boot.startState platform) deeds state)
    (few : (createdIds deeds).length < 2 ^ 32) : (spawnedIds deeds).Nodup :=
  (lineage.created_nodup few).sublist (spawnedIds_sublist deeds)

omit [Glm F] in
/-- The states of a session in which the counter does not wrap. -/
theorem Lineage.identified (lineage : Lineage (boot.startState platform) deeds state)
    (few : (createdIds deeds).length < 2 ^ 32) : state.Identified := by
  have bounded := (lineage.counter few).1
  have increasing := lineage.allocates.pairwise_lt bounded
  have created : state.objectIds.Subperm (createdIds deeds) := lineage.objects
  constructor
  · rcases created with ⟨reordered, perm, sublist⟩
    exact perm.nodup_iff.mp ((lineage.created_nodup few).sublist sublist)
  · intro id member
    exact (lineage.allocates.mem_bounds bounded (created.subset member)).2
  · have spawned : state.enemyIds.Sublist (spawnedIds deeds) := lineage.enemies
    exact increasing.sublist (spawned.trans (spawnedIds_sublist deeds))
  · have built : state.towerIds = builtIds deeds := lineage.towers
    rw [built]
    exact increasing.sublist (builtIds_sublist deeds)

omit [Arithmetic F] [Glm F] in
/-- An id that has left the state does not come back. -/
theorem Lineage.not_reappears {first middle last : GameState F R} {deeds later : List (Deed F)}
    (identified : first.Identified) (toMiddle : Lineage first deeds middle)
    (toLast : Lineage middle later last)
    (few : first.nextObjectId + (createdIds (deeds ++ later)).length < 2 ^ 32) {id : Nat}
    (present : id ∈ first.objectIds) (left : id ∉ middle.objectIds) : id ∉ last.objectIds := by
  intro reappeared
  rw [createdIds_append, List.length_append] at few
  have counter := toMiddle.allocates.last_eq (by omega)
  have below := identified.below id present
  cases List.mem_append.mp (toLast.objects.subset reappeared) with
  | inl stayed => exact left stayed
  | inr created =>
      have bounds := toLast.allocates.mem_bounds (by omega) created
      omega

/-- Object identity, for every state of a session in which fewer than `2 ^ 32`
objects are created: ids identify objects, the counter never decreases, and an id
that has left the state never appears again. -/
theorem Boot.play_identity {earlier middle later : List (List (GameCommand F))}
    {first second third : Process F R}
    {firstRecords secondRecords thirdRecords : List (StepRecord F)}
    (toFirst : boot.play platform fuel earlier = .ok (first, firstRecords))
    (toSecond : boot.play platform fuel (earlier ++ middle) = .ok (second, secondRecords))
    (toThird : boot.play platform fuel (earlier ++ middle ++ later) = .ok (third, thirdRecords))
    (few : createdCount thirdRecords < 2 ^ 32) :
    third.session.next.Identified ∧
      first.session.next.nextObjectId ≤ second.session.next.nextObjectId ∧
      ∀ id ∈ first.session.next.objectIds, id ∉ second.session.next.objectIds →
        id ∉ third.session.next.objectIds := by
  have toFirstState := World.run_lineage (pure_run_of_play platform fuel toFirst)
  have toThirdState := World.run_lineage (pure_run_of_play platform fuel toThird)
  obtain ⟨middleRecords, middleRun, secondSplit⟩ :=
    pure_run_of_play_append platform fuel toFirst toSecond
  obtain ⟨lastRecords, lastRun, thirdSplit⟩ :=
    pure_run_of_play_append platform fuel toSecond toThird
  have toMiddle := World.run_lineage middleRun
  have toLast := World.run_lineage lastRun
  rw [createdCount] at few
  have counts : (createdIds (history thirdRecords)).length =
      (createdIds (history firstRecords)).length + (createdIds (history middleRecords)).length +
        (createdIds (history lastRecords)).length := by
    rw [thirdSplit, secondSplit]
    simp [Nat.add_assoc]
  have counter := (toFirstState.counter (by omega)).2
  refine ⟨toThirdState.identified few, ?_, ?_⟩
  · have reached := toMiddle.allocates.last_eq (by omega)
    omega
  · intro id present left
    apply Lineage.not_reappears (toFirstState.identified (by omega)) toMiddle toLast _ present left
    rw [createdIds_append, List.length_append]
    omega

end Sessions

section Meadow

open Rational

/-- A soldier is despawned, and the next one gets another id. -/
theorem soldier_identity : ∃ first firstRecords second secondRecords third thirdRecords,
    meadowBoot.play platform 10 [[.debugSpawnEnemy 0]] = .ok (first, firstRecords) ∧
    meadowBoot.play platform 10 [[.debugSpawnEnemy 0], [.debugDespawnAllEnemies]] =
      .ok (second, secondRecords) ∧
    meadowBoot.play platform 10
        [[.debugSpawnEnemy 0], [.debugDespawnAllEnemies], [.debugSpawnEnemy 0]] =
      .ok (third, thirdRecords) ∧
    third.session.next.Identified ∧ third.session.next.enemyIds = [1] ∧
    0 ∈ first.session.next.objectIds ∧ 0 ∉ third.session.next.objectIds := by
  obtain ⟨⟨first, firstRecords⟩, toFirst, present⟩ := exists_ok_of_succeedsWith
    (meadowBoot.play platform 10 [[.debugSpawnEnemy 0]])
    (fun result => decide (0 ∈ result.1.session.next.objectIds)) (by decide +kernel)
  obtain ⟨⟨second, secondRecords⟩, toSecond, left⟩ := exists_ok_of_succeedsWith
    (meadowBoot.play platform 10 ([[.debugSpawnEnemy 0]] ++ [[.debugDespawnAllEnemies]]))
    (fun result => decide (0 ∉ result.1.session.next.objectIds)) (by decide +kernel)
  obtain ⟨⟨third, thirdRecords⟩, toThird, checked⟩ := exists_ok_of_succeedsWith
    (meadowBoot.play platform 10
      ([[.debugSpawnEnemy 0]] ++ [[.debugDespawnAllEnemies]] ++ [[.debugSpawnEnemy 0]]))
    (fun result => decide (createdCount result.2 < 2 ^ 32 ∧
      result.1.session.next.enemyIds = [1])) (by decide +kernel)
  obtain ⟨few, ids⟩ := of_decide_eq_true checked
  obtain ⟨identified, _, gone⟩ := Boot.play_identity toFirst toSecond toThird few
  exact ⟨first, firstRecords, second, secondRecords, third, thirdRecords, toFirst, toSecond,
    toThird, identified, ids, of_decide_eq_true present,
    gone 0 (of_decide_eq_true present) (of_decide_eq_true left)⟩

end Meadow

end TowerDefence
