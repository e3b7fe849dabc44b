import TowerDefence.Session.Identity

/-!
# The enemies over a run

`Battle.Change` is a transition system over the enemy list and the history: it
forgets everything the life of an enemy does not depend on.  Every step is a
sequence of changes, so an invariant of the changes holds in every state of a
session.
-/

namespace TowerDefence

open Foundations Relation

variable {F R : Type}

/-- The enemies and everything that has happened so far. -/
structure Battle (F : Type) where
  enemies : List (Enemy F)
  deeds : List (Deed F)

variable [Arithmetic F]

/-- The changes that the loops of a step make. -/
inductive Battle.Change (mapData : MapData F) : Battle F → Battle F → Prop where
  | move {battle : Battle F} {images : List (Enemy F)} :
      Carried (Enemy.Moved mapData) (Enemy.Leaves mapData) battle.enemies images →
      Change mapData battle { battle with enemies := images }
  | record {battle : Battle F} (deed : Deed F) :
      deed.asStrike = none → deed.spawnedId = none →
      Change mapData battle { battle with deeds := battle.deeds ++ [deed] }
  | strike {battle : Battle F} {strike : Strike F} {type : ProjectileType F} :
      type ∈ mapData.projectileTypes → strike.damage = type.damage →
      battle.enemies[strike.enemyIndex]? = some strike.enemy →
      Change mapData battle
        { enemies := battle.enemies.set strike.enemyIndex strike.struck
          deeds := battle.deeds ++ [.strike strike] }
  | spawn {battle : Battle F} {enemy : Enemy F} {type : EnemyType F} :
      mapData.enemyTypes[enemy.typeIdx]? = some type → enemy.remainingHealth = type.maxHealth →
      enemy.nextWaypointIdx = 1 →
      Change mapData battle
        { enemies := battle.enemies ++ [enemy], deeds := battle.deeds ++ [.spawn enemy] }
  | despawn {battle : Battle F} : Change mapData battle { battle with enemies := [] }

/-- A sequence of changes. -/
def Battle.Changes (mapData : MapData F) : Battle F → Battle F → Prop :=
  ReflTransGen (Battle.Change mapData)

namespace Battle.Changes

variable {mapData : MapData F} {battle battle' : Battle F}

/-- What every change preserves is preserved by a sequence of them. -/
theorem invariant (changes : Changes mapData battle battle') (inv : Battle F → Prop)
    (initially : inv battle)
    (preserved : ∀ before after, Change mapData before after → inv before → inv after) :
    inv battle' := by
  induction changes with
  | refl => exact initially
  | tail _ last ih => exact preserved _ _ last ih

/-- Deeds that neither strike nor spawn. -/
theorem record_all (mapData : MapData F) (battle : Battle F) (deeds : List (Deed F))
    (quiet : ∀ deed ∈ deeds, deed.asStrike = none ∧ deed.spawnedId = none) :
    Changes mapData battle { battle with deeds := battle.deeds ++ deeds } := by
  induction deeds generalizing battle with
  | nil =>
      rw [List.append_nil]
      exact ReflTransGen.refl
  | cons deed deeds ih =>
      obtain ⟨noStrike, noSpawn⟩ := quiet deed List.mem_cons_self
      have rest := ih { battle with deeds := battle.deeds ++ [deed] } fun other member =>
        quiet other (List.mem_cons_of_mem _ member)
      rw [List.append_assoc] at rest
      exact ReflTransGen.head (.record deed noStrike noSpawn) rest

end Battle.Changes

/-- The battle of a frame, after a history. -/
def Frame.battle (past : List (Deed F)) (frame : Frame F R) : Battle F :=
  ⟨frame.next.enemies, past ++ frame.deeds⟩

section Loops

variable {mapData : MapData F} {past : List (Deed F)} {frame frame' : Frame F R}

theorem Volley.changes {copies : List (Tower F)} {shots : List (Tower F × Projectile F)}
    (volley : Volley mapData frame frame' copies shots) :
    Battle.Changes mapData (frame.battle past) (frame'.battle past) := by
  rw [Frame.battle, Frame.battle, volley.enemies, volley.deeds, ← List.append_assoc]
  apply Battle.Changes.record_all
  intro deed member
  obtain ⟨shot, _, launch⟩ := List.mem_map.mp member
  rw [← launch]
  exact ⟨rfl, rfl⟩

theorem Impact.changes (impact : Impact mapData frame frame') :
    Battle.Changes mapData (frame.battle past) (frame'.battle past) := by
  cases impact with
  | query storage => exact ReflTransGen.refl
  | detonate projectile =>
      rw [Frame.battle, Frame.battle, ← List.append_assoc]
      exact ReflTransGen.single (.record _ rfl rfl)
  | strike typed damage _ applied =>
      rw [Frame.battle, Frame.battle, applied.next, applied.deeds, ← List.append_assoc]
      exact ReflTransGen.single (.strike typed damage applied.found)

theorem Obeys.changes {command : GameCommand F} (obeys : Obeys mapData frame command frame') :
    Battle.Changes mapData (frame.battle past) (frame'.battle past) := by
  cases obeys with
  | spawn typed _ sameType health waypoint =>
      rw [Frame.battle, Frame.battle, ← List.append_assoc]
      exact ReflTransGen.single (.spawn (sameType ▸ typed) health waypoint)
  | despawn => exact ReflTransGen.single .despawn
  | addGold amount => exact ReflTransGen.refl
  | build _ _ _ _ =>
      rw [Frame.battle, Frame.battle, ← List.append_assoc]
      exact ReflTransGen.single (.record _ rfl rfl)
  | refuse _ _ => exact ReflTransGen.refl

end Loops

variable [Glm F]

/-- A step is a sequence of changes. -/
theorem GameState.timeStep_changes {platform : Platform F R} {mapData : MapData F}
    {initial : GameState F R} {commands : List (GameCommand F)} {delta : F} {fuel : Nat}
    {frame after : Frame F R} (past : List (Deed F))
    (executed : timeStep platform mapData initial commands delta fuel frame = .ok after) :
    Battle.Changes mapData ⟨initial.enemies, past ++ frame.deeds⟩ (after.battle past) := by
  obtain ⟨moved, fired, struck, moves, fires, strikes, commanded⟩ := timeStep_eq_ok.mp executed
  obtain ⟨images, reached, carried⟩ := moveEnemies_spec moves
  obtain ⟨copies, shots, volley, _, _⟩ := updateTowers_spec fires
  have afterMovement : Battle.Changes mapData ⟨initial.enemies, past ++ frame.deeds⟩
      (moved.battle past) := by
    rw [reached]
    exact ReflTransGen.single (.move carried)
  have afterStrikes : Battle.Changes mapData ⟨initial.enemies, past ++ frame.deeds⟩
      (struck.battle past) := by
    apply updateProjectiles_invariant (fun state => Battle.Changes mapData
      ⟨initial.enemies, past ++ frame.deeds⟩ (state.battle past)) strikes
    · exact ReflTransGen.trans afterMovement volley.changes
    · intro state state' impact reached
      exact ReflTransGen.trans reached impact.changes
    · intro state proj projNext _ _ reached
      exact reached
  apply executeCommands_invariant (fun state => Battle.Changes mapData
    ⟨initial.enemies, past ++ frame.deeds⟩ (state.battle past)) commanded afterStrikes
  intro command state state' _ obeys reached
  exact ReflTransGen.trans reached obeys.changes

/-- A run is a sequence of changes. -/
theorem World.run_changes {world : World F R} {start finish : GameState F R}
    {batches : List (List (GameCommand F))} {records : List (StepRecord F)}
    (run : Run world.step start batches records finish) (past : List (Deed F)) :
    Battle.Changes world.mapData ⟨start.enemies, past⟩
      ⟨finish.enemies, past ++ history records⟩ := by
  induction run with
  | nil =>
      rw [history_nil, List.append_nil]
      exact ReflTransGen.refl
  | @snoc state next inputs outputs input output _ stepped ih =>
      obtain ⟨frame, executed, reached, recorded⟩ := World.step_eq_ok.mp stepped
      have changes := GameState.timeStep_changes (past ++ history outputs) executed
      rw [List.append_nil, Frame.battle] at changes
      rw [history_append, history_single, ← List.append_assoc, reached, recorded]
      exact ReflTransGen.trans ih changes

end TowerDefence
