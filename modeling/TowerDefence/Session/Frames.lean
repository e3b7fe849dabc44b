import TowerDefence.Session.Identity

/-!
# The frames of a step

A step passes through four frames, one after each of its loops.  The movement loop decides
in which slots the surviving enemies are found by the loops after it, and every projectile
has its own iteration of the projectile loop, which moves it on or ends it.
-/

namespace TowerDefence

open Foundations

variable {F R : Type}

/-! ## The slots after the movement loop -/

section Slots

variable [Arithmetic F]

/-- The ids of the enemies that the movement loop keeps. -/
def survivorIds (mapData : MapData F) (state : GameState F R) : List Nat :=
  (state.enemies.filter (enemyStays mapData)).map fun enemy => enemy.id

/-- The frames that a step passes through: after the movement loop, the tower
loop, the projectile loop and the command loop.  The history starts empty. -/
structure StepFrames [Glm F] (platform : Platform F R) (mapData : MapData F)
    (initial : GameState F R) (commands : List (GameCommand F)) (delta : F) (fuel : Nat)
    (start moved fired struck after : Frame F R) : Prop where
  fresh : start.deeds = []
  moves : GameState.moveEnemies mapData initial delta (GameState.clearNext initial start) =
    .ok moved
  fires : GameState.updateTowers platform mapData delta fuel initial moved = .ok fired
  hits : GameState.updateProjectiles mapData delta initial fired = .ok struck
  commanded : GameState.executeCommands platform mapData commands struck = .ok after

variable [Glm F] {platform : Platform F R} {mapData : MapData F} {initial : GameState F R}
variable {commands : List (GameCommand F)} {delta : F} {fuel : Nat}
variable {start moved fired struck after : Frame F R}

/-- Execute the four loops and return the frames. -/
def StepFrames.execute (platform : Platform F R) (mapData : MapData F) (initial : GameState F R)
    (commands : List (GameCommand F)) (delta : F) (fuel : Nat) (start : Frame F R) :
    Exec (Frame F R × Frame F R × Frame F R × Frame F R) := do
  let moved ← GameState.moveEnemies mapData initial delta (GameState.clearNext initial start)
  let fired ← GameState.updateTowers platform mapData delta fuel initial moved
  let struck ← GameState.updateProjectiles mapData delta initial fired
  let after ← GameState.executeCommands platform mapData commands struck
  pure (moved, fired, struck, after)

theorem StepFrames.of_execute (fresh : start.deeds = [])
    (executed : execute platform mapData initial commands delta fuel start =
      .ok (moved, fired, struck, after)) :
    StepFrames platform mapData initial commands delta fuel start moved fired struck after := by
  simp only [execute, bind_eq_ok, pure_eq_ok, Prod.mk.injEq] at executed
  rcases executed with ⟨_, moves, _, fires, _, hits, _, commanded, rfl, rfl, rfl, rfl⟩
  exact ⟨fresh, moves, fires, hits, commanded⟩

/-- The frames are those of one call of `TimeStep`. -/
theorem StepFrames.timeStep
    (frames : StepFrames platform mapData initial commands delta fuel start moved fired struck
      after) :
    GameState.timeStep platform mapData initial commands delta fuel start = .ok after :=
  GameState.timeStep_eq_ok.mpr
    ⟨moved, fired, struck, frames.moves, frames.fires, frames.hits, frames.commanded⟩

/-- A step passes through the frames of its loops. -/
theorem World.step_frames {world : World F R} {state next : GameState F R}
    {commands : List (GameCommand F)} {record : StepRecord F}
    (stepped : world.step state commands = .ok (next, record)) :
    ∃ moved fired struck after,
      StepFrames world.platform world.mapData state commands world.fixedDelta world.fuel
        (World.startFrame state) moved fired struck after ∧
      next = after.next ∧ record.deeds = after.deeds := by
  obtain ⟨after, executed, reached, recorded⟩ := World.step_eq_ok.mp stepped
  obtain ⟨moved, fired, struck, moves, fires, hits, commanded⟩ :=
    GameState.timeStep_eq_ok.mp executed
  exact ⟨moved, fired, struck, after, ⟨rfl, moves, fires, hits, commanded⟩, reached,
    congrArg (fun entry => entry.deeds) recorded⟩

/-- The survivors keep their order. -/
theorem GameState.moveEnemies_ids
    (moves : moveEnemies mapData initial delta (clearNext initial start) = .ok moved) :
    moved.next.enemyIds = survivorIds mapData initial := by
  obtain ⟨images, reached, carried⟩ := moveEnemies_spec moves
  have pairs := carried.forall₂_filter (enemyStays mapData) (fun _ _ related => related.stays)
    fun _ leaves => leaves.not_stays
  have listed : moved.next.enemyIds = images.map fun image => image.id := by
    rw [reached, enemyIds]
    simp [clearNext]
  rw [listed, survivorIds]
  exact map_eq_of_forall₂ pairs fun _ _ related => related.id

end Slots

/-! ## One iteration of the projectile loop -/

section Iteration

variable [Arithmetic F] [Glm F] {platform : Platform F R} {mapData : MapData F}
variable {initial : GameState F R} {commands : List (GameCommand F)} {delta : F} {fuel : Nat}
variable {start moved fired struck after : Frame F R} {proj : Projectile F}
variable {before later : List (Projectile F)}

/-- The iteration that processes `proj` takes `reached` to `reached'`. -/
structure StepFrames.Iteration (mapData : MapData F) (delta : F) (fired : Frame F R)
    (before : List (Projectile F)) (proj : Projectile F) (reached reached' : Frame F R) :
    Prop where
  reaches : before.foldlM (GameState.updateProjectile mapData delta) fired = .ok reached
  steps : GameState.updateProjectile mapData delta reached proj = .ok reached'

/-- Up to the iteration, the enemies have lost health only. -/
theorem StepFrames.Iteration.bodies {reached reached' : Frame F R}
    (iteration : Iteration mapData delta fired before proj reached reached')
    (frames : StepFrames platform mapData initial commands delta fuel start moved fired struck
      after) : reached.next.enemies.map Enemy.body = moved.next.enemies.map Enemy.body := by
  obtain ⟨copies, shots, volley, _, _⟩ := GameState.updateTowers_spec frames.fires
  obtain ⟨kept, _⟩ := GameState.updateProjectiles_spec iteration.reaches
  rw [kept.bodies, volley.enemies]

/-- The two outcomes of the iteration for a projectile whose slot is occupied. -/
theorem StepFrames.Iteration.outcome {reached reached' : Frame F R} {alive : Bool}
    {position : Vec2 F} (iteration : Iteration mapData delta fired before proj reached reached')
    (frames : StepFrames platform mapData initial commands delta fuel start moved fired struck
      after)
    (inRange : proj.targetEnemyIndex < moved.next.enemies.length)
    (aimed : GameState.aimProjectile moved.next.enemies proj = .ok (alive, position)) :
    ∃ type, proj.Aim mapData moved.next.enemies alive position type ∧
      (type.speed * delta < Glm.length (position - proj.position) ∧
          reached'.next.projectiles =
            reached.next.projectiles ++ [proj.flown position type delta] ∨
        ¬type.speed * delta < Glm.length (position - proj.position) ∧
          GameState.detonate mapData (proj.turned position) type alive position reached =
            .ok reached') := by
  have bodies := iteration.bodies frames
  have known : ∀ {alive' : Bool} {position' : Vec2 F} {type : ProjectileType F},
      proj.Aim mapData reached.next.enemies alive' position' type →
      alive' = alive ∧ position' = position ∧
        proj.Aim mapData moved.next.enemies alive position type := by
    intro alive' position' type aim
    have aimMoved := aim.congr bodies
    have expected : proj.Aim mapData moved.next.enemies alive position type :=
      ⟨inRange, aimed, aimMoved.typed⟩
    obtain ⟨sameAlive, samePosition, _⟩ := aimMoved.unique expected
    exact ⟨sameAlive, samePosition, expected⟩
  cases GameState.updateProjectile_step iteration.steps with
  | skipped outOfRange =>
      rw [Enemy.length_eq_of_bodies bodies] at outOfRange
      exact absurd inRange (Nat.not_lt.mpr outOfRange)
  | @flies _ _ type aim farther =>
      obtain ⟨_, samePosition, expected⟩ := known aim
      subst samePosition
      exact ⟨type, expected, .inl ⟨farther, rfl⟩⟩
  | @detonates _ _ type _ aim near detonated =>
      obtain ⟨sameAlive, samePosition, expected⟩ := known aim
      subst sameAlive samePosition
      exact ⟨type, expected, .inr ⟨near, detonated⟩⟩

/-- The command loop only adds to the history. -/
theorem StepFrames.deeds_append
    (frames : StepFrames platform mapData initial commands delta fuel start moved fired struck
      after) : ∃ deeds, after.deeds = struck.deeds ++ deeds := by
  apply GameState.executeCommands_invariant
    (fun state => ∃ deeds, state.deeds = struck.deeds ++ deeds) frames.commanded ⟨[], by simp⟩
  intro command state state' _ obeys grown
  rcases grown with ⟨deeds, recorded⟩
  obtain ⟨later, recordedLater⟩ := obeys.deeds_append
  exact ⟨deeds ++ later, by rw [recordedLater, recorded, List.append_assoc]⟩

/-- Every projectile has its iteration, and what the iteration writes is still
there after the step. -/
theorem StepFrames.iteration
    (frames : StepFrames platform mapData initial commands delta fuel start moved fired struck
      after)
    (split : initial.projectiles = before ++ proj :: later) :
    ∃ reached reached', Iteration mapData delta fired before proj reached reached' ∧
      (∃ images, after.next.projectiles = reached'.next.projectiles ++ images) ∧
      ∃ deeds, after.deeds = reached'.deeds ++ deeds := by
  have hits := frames.hits
  rw [GameState.updateProjectiles, split, List.foldlM_append, bind_eq_ok] at hits
  rcases hits with ⟨reached, reaches, rest⟩
  rw [List.foldlM_cons, bind_eq_ok] at rest
  rcases rest with ⟨reached', steps, rest⟩
  obtain ⟨kept, images, appended, _⟩ := GameState.updateProjectiles_spec rest
  obtain ⟨harm, harmed, _⟩ := kept.deeds
  have projectiles := GameState.executeCommands_projectiles frames.commanded
  obtain ⟨deeds, recorded⟩ := frames.deeds_append
  refine ⟨reached, reached', ⟨reaches, steps⟩, ⟨images, projectiles.trans appended⟩,
    harm ++ deeds, ?_⟩
  rw [recorded, harmed, List.append_assoc]

end Iteration

/-! ## The projectiles of a step -/

section Projectiles

variable [Arithmetic F] [Glm F] {platform : Platform F R} {mapData : MapData F}
variable {initial : GameState F R} {commands : List (GameCommand F)} {delta : F} {fuel : Nat}
variable {start moved fired struck after : Frame F R} {proj projNext : Projectile F}

theorem StepFrames.descends
    (frames : StepFrames platform mapData initial commands delta fuel start moved fired struck
      after) : Descends initial after.deeds after.next := by
  obtain ⟨deeds, recorded, descends⟩ := GameState.timeStep_descends frames.timeStep
  rw [frames.fresh, List.nil_append] at recorded
  rw [recorded]
  exact descends

/-- The projectiles of the next state are the launched ones and the images of
those that fly on. -/
theorem StepFrames.projectiles
    (frames : StepFrames platform mapData initial commands delta fuel start moved fired struck
      after) :
    ∃ launched images, after.next.projectiles = launched ++ images ∧
      (∀ projectile ∈ launched, projectile.id ∈ createdIds after.deeds) ∧
      Carried (Projectile.Flight mapData delta moved.next.enemies)
        (Projectile.Ends mapData delta moved.next.enemies) initial.projectiles images := by
  obtain ⟨_, reached, _⟩ := GameState.moveEnemies_spec frames.moves
  obtain ⟨copies, shots, volley, _, _⟩ := GameState.updateTowers_spec frames.fires
  obtain ⟨kept, images, appended, carried⟩ := GameState.updateProjectiles_spec frames.hits
  obtain ⟨harm, harmed, _⟩ := kept.deeds
  obtain ⟨deeds, recorded⟩ := frames.deeds_append
  refine ⟨shots.map Prod.snd, images, ?_, ?_, volley.enemies ▸ carried⟩
  · have empty : moved.next.projectiles = [] := by
      rw [reached]
      rfl
    rw [GameState.executeCommands_projectiles frames.commanded, appended, volley.next, empty,
      List.nil_append]
  · intro projectile member
    obtain ⟨shot, shotMember, isShot⟩ := List.mem_map.mp member
    rw [recorded, harmed, volley.deeds, createdIds_append, createdIds_append, createdIds_append,
      (Volley.ids_eq shots).2.1]
    apply List.mem_append_left
    apply List.mem_append_left
    apply List.mem_append_right
    exact List.mem_map.mpr ⟨shot, shotMember, congrArg (fun found => found.id) isShot⟩

/-- A projectile of the next state with an old id is the image of the old one. -/
theorem StepFrames.flight_of_mem
    (frames : StepFrames platform mapData initial commands delta fuel start moved fired struck
      after)
    (identified : initial.Identified)
    (bounded : initial.nextObjectId + (createdIds after.deeds).length < 2 ^ 32)
    (member : proj ∈ initial.projectiles) (nextMember : projNext ∈ after.next.projectiles)
    (sameId : projNext.id = proj.id) :
    proj.Flight mapData delta moved.next.enemies projNext := by
  have listed : proj.id ∈ initial.projectileIds :=
    List.mem_map.mpr ⟨proj, member, rfl⟩
  obtain ⟨launched, images, split, created, carried⟩ := frames.projectiles
  rw [split] at nextMember
  cases List.mem_append.mp nextMember with
  | inl isNew =>
      have notOld :=
        frames.descends.lineage.created_fresh identified bounded (created projNext isNew)
      rw [sameId] at notOld
      exact absurd (List.mem_append_right _ listed) notOld
  | inr isImage =>
      obtain ⟨origin, originMember, flight⟩ := carried.exists_of_mem_images isImage
      have isOrigin : origin = proj := List.inj_on_of_nodup_map identified.projectiles originMember
        member (flight.id_eq.symm.trans sameId)
      rw [← isOrigin]
      exact flight

/-- A projectile that ends leaves no image behind. -/
theorem StepFrames.ended_notMem
    (frames : StepFrames platform mapData initial commands delta fuel start moved fired struck
      after)
    (identified : initial.Identified)
    (bounded : initial.nextObjectId + (createdIds after.deeds).length < 2 ^ 32)
    (member : proj ∈ initial.projectiles)
    (ends : proj.Ends mapData delta moved.next.enemies) : proj.id ∉ after.next.projectileIds := by
  intro present
  obtain ⟨projNext, nextMember, sameId⟩ := List.mem_map.mp present
  exact ends.not_flight projNext
    (frames.flight_of_mem identified bounded member nextMember sameId)

end Projectiles

end TowerDefence
