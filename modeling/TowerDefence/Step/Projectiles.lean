import Mathlib.Logic.Relation
import TowerDefence.Step.History
import TowerDefence.Step.Movement

/-!
# The projectile loop

An `Impact` is one thing a detonation does to the frame; what impacts and flights
preserve is an invariant of the loop.  Besides, the loop carries the projectiles
of the initial state over: `Projectile.Flight` relates a projectile that keeps
flying to its image.
-/

namespace TowerDefence

open Foundations Relation

variable {F R : Type} [Arithmetic F]

/-- The part of an enemy that damage does not change. -/
def Enemy.body (enemy : Enemy F) : Enemy F := { enemy with remainingHealth := 0 }

theorem Enemy.length_eq_of_bodies {enemies enemies' : List (Enemy F)}
    (bodies : enemies'.map Enemy.body = enemies.map Enemy.body) :
    enemies'.length = enemies.length := by
  simpa using congrArg List.length bodies

namespace Strike

/-- The enemy after the strike. -/
def struck (strike : Strike F) : Enemy F :=
  { strike.enemy with
    remainingHealth := Glm.max 0 (strike.enemy.remainingHealth - strike.damage) }

/-- The gold after the strike: a death pays the reward of the enemy's type. -/
def pay (mapData : MapData F) (strike : Strike F) (gold : F) : F :=
  if strike.died then
    match mapData.enemyTypes[strike.enemy.typeIdx]? with
    | some enemyType => gold + enemyType.goldReward
    | none => gold
  else
    gold

/-- The events of the strike. -/
def events (strike : Strike F) : List (GameEvent F) :=
  .projectileHit strike.enemy.position strike.projectile.targetEnemyIndex
      strike.projectile.typeIdx ::
    if strike.died then [.enemyDied strike.projectile.targetEnemyIndex] else []

/-- The strike takes `frame` to `frame'`. -/
structure Applied (mapData : MapData F) (strike : Strike F) (frame frame' : Frame F R) : Prop where
  found : frame.next.enemies[strike.enemyIndex]? = some strike.enemy
  typed : strike.died → ∃ type, mapData.enemyTypes[strike.enemy.typeIdx]? = some type
  next : frame'.next =
    { frame.next with
      enemies := frame.next.enemies.set strike.enemyIndex strike.struck
      playerState.gold := strike.pay mapData frame.next.playerState.gold }
  deeds : frame'.deeds = frame.deeds ++ [.strike strike]
  outGameEvents : frame'.outGameEvents = frame.outGameEvents ++ strike.events

end Strike

/-- One thing that a detonation does. -/
inductive Impact (mapData : MapData F) : Frame F R → Frame F R → Prop where
  | query {frame : Frame F R} (storage : List Nat) :
      Impact mapData frame { frame with enemyQueryStorage := storage }
  | detonate {frame : Frame F R} (projectile : Projectile F) :
      Impact mapData frame { frame with deeds := frame.deeds ++ [.detonate projectile] }
  | strike {frame frame' : Frame F R} {strike : Strike F} {type : ProjectileType F} :
      type ∈ mapData.projectileTypes → strike.damage = type.damage →
      (strike.direct = true → strike.enemy.id = strike.projectile.targetEnemyId) →
      strike.Applied mapData frame frame' → Impact mapData frame frame'

/-- A sequence of impacts. -/
def Impacts (mapData : MapData F) : Frame F R → Frame F R → Prop :=
  ReflTransGen (Impact mapData)

/-- What every impact preserves is preserved by a sequence of them. -/
theorem Impacts.invariant {mapData : MapData F} {frame frame' : Frame F R}
    (impacts : Impacts mapData frame frame') (inv : Frame F R → Prop) (initially : inv frame)
    (impact : ∀ state state', Impact mapData state state' → inv state → inv state') :
    inv frame' := by
  induction impacts with
  | refl => exact initially
  | tail _ last ih => exact impact _ _ last ih

namespace GameState

variable {mapData : MapData F} {projectileType : ProjectileType F} {projectile : Projectile F}
variable {frame frame' : Frame F R} {direct : Bool} {delta : F}

theorem applyDamageToEnemy_applied {enemyIndex : Nat}
    (executed : applyDamageToEnemy mapData direct projectile projectileType frame enemyIndex =
      .ok frame') :
    ∃ enemy, Strike.Applied mapData ⟨direct, enemyIndex, enemy, projectile, projectileType.damage⟩
      frame frame' := by
  simp only [applyDamageToEnemy, bind_eq_ok, readAt_eq_ok] at executed
  rcases executed with ⟨enemy, found, executed⟩
  refine ⟨enemy, ?_⟩
  split at executed
  · rename_i died
    simp only [bind_eq_ok, readAt_eq_ok, pure_eq_ok] at executed
    rcases executed with ⟨enemyType, typed, assembled⟩
    subst assembled
    constructor
    · exact found
    · intro _
      exact ⟨enemyType, typed⟩
    · simp [Strike.pay, Strike.died, Strike.struck, died, typed]
    · rfl
    · simp [Strike.events, Strike.died, died]
  · rename_i survived
    rw [pure_eq_ok] at executed
    subst executed
    constructor
    · exact found
    · simp [Strike.died, survived]
    · simp [Strike.pay, Strike.died, Strike.struck, survived]
    · rfl
    · simp [Strike.events, Strike.died, survived]

theorem applyDamageToEnemy_impact {enemyIndex : Nat}
    (typed : projectileType ∈ mapData.projectileTypes)
    (aimed : direct = true → ∀ enemy, frame.next.enemies[enemyIndex]? = some enemy →
      enemy.id = projectile.targetEnemyId)
    (executed : applyDamageToEnemy mapData direct projectile projectileType frame enemyIndex =
      .ok frame') : Impact mapData frame frame' := by
  obtain ⟨enemy, applied⟩ := applyDamageToEnemy_applied executed
  exact .strike typed rfl (fun isDirect => aimed isDirect enemy applied.found) applied

theorem damageSplash_impacts {targetPosition : Vec2 F}
    (typed : projectileType ∈ mapData.projectileTypes)
    (executed : damageSplash mapData projectile projectileType targetPosition frame = .ok frame') :
    Impacts mapData frame frame' := by
  rw [damageSplash] at executed
  split at executed
  · rw [pure_eq_ok] at executed
    rw [executed]
    exact ReflTransGen.refl
  · apply foldlM_invariant (fun state => Impacts mapData frame state) executed
    · exact .single (.query _)
    · intro enemyIndex state state' _ reached stepped
      have notDirect : false = true → ∀ enemy, state.next.enemies[enemyIndex]? = some enemy →
          enemy.id = projectile.targetEnemyId := by
        intro impossible
        cases impossible
      exact ReflTransGen.tail reached (applyDamageToEnemy_impact typed notDirect stepped)

theorem detonate_impacts {targetEnemyAlive : Bool} {targetPosition : Vec2 F}
    (typed : projectileType ∈ mapData.projectileTypes)
    (aimed : targetEnemyAlive = true → ∀ enemy,
      frame.next.enemies[projectile.targetEnemyIndex]? = some enemy →
      enemy.id = projectile.targetEnemyId)
    (executed : detonate mapData projectile projectileType targetEnemyAlive targetPosition frame =
      .ok frame') : Impacts mapData frame frame' := by
  rw [detonate, bind_eq_ok] at executed
  rcases executed with ⟨struck, hit, splashed⟩
  have detonated : Impacts mapData frame struck := by
    rw [damageTarget] at hit
    split at hit
    · rename_i alive
      let recorded : Frame F R := { frame with deeds := frame.deeds ++ [.detonate projectile] }
      have stillAimed : true = true → ∀ enemy,
          recorded.next.enemies[projectile.targetEnemyIndex]? = some enemy →
          enemy.id = projectile.targetEnemyId := fun _ => aimed alive
      have impact := applyDamageToEnemy_impact typed stillAimed hit
      exact ReflTransGen.head (.detonate projectile) (.single impact)
    · rw [pure_eq_ok] at hit
      subst hit
      exact ReflTransGen.single (.detonate projectile)
  exact ReflTransGen.trans detonated (damageSplash_impacts typed splashed)

end GameState

/-! ## One projectile -/

namespace Projectile

variable [Glm F]

/-- What the projectile loop knows about a projectile whose slot is occupied. -/
structure Aim (mapData : MapData F) (enemies : List (Enemy F)) (proj : Projectile F)
    (targetEnemyAlive : Bool) (targetPosition : Vec2 F) (type : ProjectileType F) : Prop where
  inRange : proj.targetEnemyIndex < enemies.length
  aimed : GameState.aimProjectile enemies proj = .ok (targetEnemyAlive, targetPosition)
  typed : mapData.projectileTypes[proj.typeIdx]? = some type

omit [Arithmetic F] [Glm F] in
/-- What the slot of an aimed projectile holds. -/
theorem Aim.slot {mapData : MapData F} {enemies : List (Enemy F)} {proj : Projectile F}
    {alive : Bool} {target : Vec2 F} {type : ProjectileType F}
    (aim : proj.Aim mapData enemies alive target type) :
    ∃ enemy, enemies[proj.targetEnemyIndex]? = some enemy ∧
      alive = (enemy.id == proj.targetEnemyId) ∧
      target = if alive then enemy.position else proj.lastEnemyPosition := by
  have aimed := aim.aimed
  simp only [GameState.aimProjectile, bind_eq_ok, readAt_eq_ok, pure_eq_ok,
    Prod.mk.injEq] at aimed
  rcases aimed with ⟨enemy, found, sameAlive, sameTarget⟩
  exact ⟨enemy, found, sameAlive.symm, by rw [← sameTarget, sameAlive]⟩

/-- The projectile after it has turned towards its target. -/
def turned (proj : Projectile F) (targetPosition : Vec2 F) : Projectile F :=
  { proj with
    lastEnemyPosition := targetPosition
    rotation := vectorAngle ((targetPosition - proj.position) /
      Glm.length (targetPosition - proj.position)) }

/-- The projectile after it has flown towards its target. -/
def flown (proj : Projectile F) (targetPosition : Vec2 F) (type : ProjectileType F) (delta : F) :
    Projectile F :=
  { proj.turned targetPosition with
    position := proj.position + (targetPosition - proj.position) /
      Glm.length (targetPosition - proj.position) * type.speed * delta }

/-- The detonation of an aimed projectile is a sequence of impacts. -/
theorem Aim.detonate_impacts {mapData : MapData F} {proj : Projectile F} {alive : Bool}
    {target : Vec2 F} {type : ProjectileType F} {frame frame' : Frame F R}
    (aim : proj.Aim mapData frame.next.enemies alive target type)
    (executed : GameState.detonate mapData (proj.turned target) type alive target frame =
      .ok frame') : Impacts mapData frame frame' := by
  apply GameState.detonate_impacts (List.mem_of_getElem? aim.typed) _ executed
  intro isAlive enemy found
  obtain ⟨inSlot, foundSlot, sameAlive, _⟩ := aim.slot
  have sameEnemy : enemy = inSlot := Option.some.inj (found.symm.trans foundSlot)
  rw [sameEnemy]
  exact eq_of_beq (sameAlive.symm.trans isAlive)

/-- The projectile keeps flying, and `projNext` is its image. -/
def Flight (mapData : MapData F) (delta : F) (enemies : List (Enemy F))
    (proj projNext : Projectile F) : Prop :=
  ∃ targetEnemyAlive targetPosition type,
    proj.Aim mapData enemies targetEnemyAlive targetPosition type ∧
    type.speed * delta < Glm.length (targetPosition - proj.position) ∧
    projNext = proj.flown targetPosition type delta

/-- The projectile does not keep flying. -/
def Ends (mapData : MapData F) (delta : F) (enemies : List (Enemy F)) (proj : Projectile F) :
    Prop :=
  enemies.length ≤ proj.targetEnemyIndex ∨
    ∃ targetEnemyAlive targetPosition type,
      proj.Aim mapData enemies targetEnemyAlive targetPosition type ∧
      ¬type.speed * delta < Glm.length (targetPosition - proj.position)

theorem Flight.id_eq {mapData : MapData F} {delta : F} {enemies : List (Enemy F)}
    {proj projNext : Projectile F} (flight : proj.Flight mapData delta enemies projNext) :
    projNext.id = proj.id := by
  rcases flight with ⟨_, _, _, _, _, image⟩
  rw [image]
  rfl

omit [Arithmetic F] [Glm F] in
/-- The slot, the target and the type are determined. -/
theorem Aim.unique {mapData : MapData F} {enemies : List (Enemy F)} {proj : Projectile F}
    {alive alive' : Bool} {target target' : Vec2 F} {type type' : ProjectileType F}
    (aim : proj.Aim mapData enemies alive target type)
    (aim' : proj.Aim mapData enemies alive' target' type') :
    alive = alive' ∧ target = target' ∧ type = type' := by
  have sameAim := aim.aimed.symm.trans aim'.aimed
  have sameType := aim.typed.symm.trans aim'.typed
  cases sameAim
  cases sameType
  exact ⟨rfl, rfl, rfl⟩

theorem Ends.not_flight {mapData : MapData F} {delta : F} {enemies : List (Enemy F)}
    {proj : Projectile F} (ends : proj.Ends mapData delta enemies) (projNext : Projectile F) :
    ¬proj.Flight mapData delta enemies projNext := by
  intro flight
  rcases flight with ⟨alive, target, type, aim, farther, _⟩
  cases ends with
  | inl outOfRange => exact absurd aim.inRange (Nat.not_lt.mpr outOfRange)
  | inr reached =>
      rcases reached with ⟨alive', target', type', aim', near⟩
      obtain ⟨_, sameTarget, sameType⟩ := aim.unique aim'
      exact near (sameTarget ▸ sameType ▸ farther)

end Projectile

namespace GameState

variable [Glm F]
variable {mapData : MapData F} {delta : F} {frame frame' : Frame F R} {proj : Projectile F}

/-- The three things that can happen to a projectile. -/
inductive ProjectileStep (mapData : MapData F) (delta : F) (frame : Frame F R)
    (proj : Projectile F) : Frame F R → Prop where
  | skipped : frame.next.enemies.length ≤ proj.targetEnemyIndex →
      ProjectileStep mapData delta frame proj frame
  | flies {alive : Bool} {target : Vec2 F} {type : ProjectileType F} :
      proj.Aim mapData frame.next.enemies alive target type →
      type.speed * delta < Glm.length (target - proj.position) →
      ProjectileStep mapData delta frame proj
        { frame with
          next.projectiles := frame.next.projectiles ++ [proj.flown target type delta] }
  | detonates {alive : Bool} {target : Vec2 F} {type : ProjectileType F} {frame' : Frame F R} :
      proj.Aim mapData frame.next.enemies alive target type →
      ¬type.speed * delta < Glm.length (target - proj.position) →
      detonate mapData (proj.turned target) type alive target frame = .ok frame' →
      ProjectileStep mapData delta frame proj frame'

theorem updateProjectile_step (executed : updateProjectile mapData delta frame proj = .ok frame') :
    ProjectileStep mapData delta frame proj frame' := by
  rw [updateProjectile] at executed
  split at executed
  · rename_i outOfRange
    rw [pure_eq_ok] at executed
    subst executed
    exact .skipped outOfRange
  · rename_i inRange
    simp only [bind_eq_ok, readAt_eq_ok] at executed
    rcases executed with ⟨⟨alive, target⟩, aimed, type, typed, executed⟩
    have aim : proj.Aim mapData frame.next.enemies alive target type :=
      ⟨Nat.lt_of_not_le inRange, aimed, typed⟩
    dsimp only at executed
    split at executed
    · rename_i farther
      rw [pure_eq_ok] at executed
      subst executed
      exact .flies aim farther
    · rename_i near
      exact .detonates aim near executed

/-- Invariant rule of the projectile loop. -/
theorem updateProjectiles_invariant (inv : Frame F R → Prop)
    {projectiles : List (Projectile F)}
    (executed : projectiles.foldlM (updateProjectile mapData delta) frame = .ok frame')
    (initially : inv frame)
    (impact : ∀ state state', Impact mapData state state' → inv state → inv state')
    (fly : ∀ state proj projNext, proj ∈ projectiles →
      proj.Flight mapData delta state.next.enemies projNext → inv state →
      inv { state with next.projectiles := state.next.projectiles ++ [projNext] }) :
    inv frame' := by
  apply foldlM_invariant inv executed initially
  intro proj state state' member holds stepped
  cases updateProjectile_step stepped with
  | skipped _ => exact holds
  | flies aim farther => exact fly state proj _ member ⟨_, _, _, aim, farther, rfl⟩ holds
  | detonates aim _ detonated =>
      have impacts := aim.detonate_impacts detonated
      exact impacts.invariant inv holds impact

end GameState

/-! ## What the loop keeps -/

/-- The objects of two frames correspond: the enemies differ in their health
only, the towers and the counter are the same, and the history of the second
frame has nothing more to say about created objects. -/
structure Frame.SameObjects (frame frame' : Frame F R) : Prop where
  bodies : frame'.next.enemies.map Enemy.body = frame.next.enemies.map Enemy.body
  towers : frame'.next.towers = frame.next.towers
  nextObjectId : frame'.next.nextObjectId = frame.next.nextObjectId
  deeds : ∃ harm, frame'.deeds = frame.deeds ++ harm ∧ createdIds harm = []

namespace Frame.SameObjects

variable {frame middle frame' : Frame F R}

theorem refl (frame : Frame F R) : SameObjects frame frame :=
  ⟨rfl, rfl, rfl, [], by simp, rfl⟩

theorem trans (first : SameObjects frame middle) (second : SameObjects middle frame') :
    SameObjects frame frame' := by
  obtain ⟨harm, before, nothing⟩ := first.deeds
  obtain ⟨laterHarm, after, nothingLater⟩ := second.deeds
  refine ⟨second.bodies.trans first.bodies, second.towers.trans first.towers,
    second.nextObjectId.trans first.nextObjectId, harm ++ laterHarm, ?_, ?_⟩
  · rw [after, before, List.append_assoc]
  · rw [createdIds_append, nothing, nothingLater]
    rfl

end Frame.SameObjects

/-- A strike on an enemy of the list changes its health only. -/
theorem Strike.bodies_set {strike : Strike F} {enemies : List (Enemy F)}
    (found : enemies[strike.enemyIndex]? = some strike.enemy) :
    (enemies.set strike.enemyIndex strike.struck).map Enemy.body = enemies.map Enemy.body := by
  have sameBody : (enemies.map Enemy.body)[strike.enemyIndex]? = some strike.struck.body := by
    rw [List.getElem?_map, found]
    rfl
  obtain ⟨inBounds, equal⟩ := List.getElem?_eq_some_iff.mp sameBody
  rw [List.map_set, ← equal, List.set_getElem_self]

theorem Impact.sameObjects {mapData : MapData F} {frame frame' : Frame F R}
    (impact : Impact mapData frame frame') : frame.SameObjects frame' := by
  cases impact with
  | query storage => exact ⟨rfl, rfl, rfl, [], by simp, rfl⟩
  | detonate projectile => exact ⟨rfl, rfl, rfl, [.detonate projectile], rfl, rfl⟩
  | @strike _ strike _ _ _ _ applied =>
      refine ⟨?_, ?_, ?_, [.strike strike], applied.deeds, rfl⟩
      · rw [applied.next]
        exact Strike.bodies_set applied.found
      · rw [applied.next]
      · rw [applied.next]

theorem Impact.projectiles_eq {mapData : MapData F} {frame frame' : Frame F R}
    (impact : Impact mapData frame frame') :
    frame'.next.projectiles = frame.next.projectiles := by
  cases impact with
  | query storage => rfl
  | detonate projectile => rfl
  | strike _ _ _ applied => rw [applied.next]

theorem Impacts.sameObjects {mapData : MapData F} {frame frame' : Frame F R}
    (impacts : Impacts mapData frame frame') : frame.SameObjects frame' := by
  apply impacts.invariant frame.SameObjects (.refl frame)
  intro state state' impact kept
  exact kept.trans impact.sameObjects

theorem Impacts.projectiles_eq {mapData : MapData F} {frame frame' : Frame F R}
    (impacts : Impacts mapData frame frame') :
    frame'.next.projectiles = frame.next.projectiles := by
  apply impacts.invariant (fun state => state.next.projectiles = frame.next.projectiles) rfl
  intro state state' impact kept
  exact impact.projectiles_eq.trans kept

namespace GameState

variable {enemies enemies' : List (Enemy F)}

/-- A projectile aims at what damage does not change. -/
theorem aimProjectile_congr (bodies : enemies'.map Enemy.body = enemies.map Enemy.body)
    (proj : Projectile F) : aimProjectile enemies' proj = aimProjectile enemies proj := by
  have sameSlot := congrArg (fun list => list[proj.targetEnemyIndex]?) bodies
  simp only [List.getElem?_map] at sameSlot
  simp only [aimProjectile, readAt]
  cases inSlot : enemies[proj.targetEnemyIndex]? with
  | none =>
      rw [inSlot, Option.map_none, Option.map_eq_none_iff] at sameSlot
      rw [sameSlot]
  | some enemy =>
      rw [inSlot, Option.map_some, Option.map_eq_some_iff] at sameSlot
      rcases sameSlot with ⟨enemy', inSlot', sameBody⟩
      have sameId : enemy'.id = enemy.id := congrArg (fun body => body.id) sameBody
      have samePosition : enemy'.position = enemy.position :=
        congrArg (fun body => body.position) sameBody
      rw [inSlot']
      show Except.ok _ = Except.ok _
      rw [sameId, samePosition]

end GameState

namespace Projectile

variable [Glm F]
variable {mapData : MapData F} {delta : F} {enemies enemies' : List (Enemy F)}
variable {proj projNext : Projectile F}

omit [Glm F] in
theorem Aim.congr {alive : Bool} {target : Vec2 F} {type : ProjectileType F}
    (aim : proj.Aim mapData enemies' alive target type)
    (bodies : enemies'.map Enemy.body = enemies.map Enemy.body) :
    proj.Aim mapData enemies alive target type where
  inRange := Enemy.length_eq_of_bodies bodies ▸ aim.inRange
  aimed := GameState.aimProjectile_congr bodies proj ▸ aim.aimed
  typed := aim.typed

theorem Flight.congr (flight : proj.Flight mapData delta enemies' projNext)
    (bodies : enemies'.map Enemy.body = enemies.map Enemy.body) :
    proj.Flight mapData delta enemies projNext := by
  rcases flight with ⟨alive, target, type, aim, farther, image⟩
  exact ⟨alive, target, type, aim.congr bodies, farther, image⟩

theorem Ends.congr (ends : proj.Ends mapData delta enemies')
    (bodies : enemies'.map Enemy.body = enemies.map Enemy.body) :
    proj.Ends mapData delta enemies := by
  cases ends with
  | inl outOfRange => exact .inl (Enemy.length_eq_of_bodies bodies ▸ outOfRange)
  | inr reached =>
      rcases reached with ⟨alive, target, type, aim, near⟩
      exact .inr ⟨alive, target, type, aim.congr bodies, near⟩

end Projectile

namespace GameState

variable [Glm F]
variable {mapData : MapData F} {delta : F} {frame frame' : Frame F R}

/-- One iteration carries the projectile over, or ends its flight. -/
theorem ProjectileStep.carries {proj : Projectile F}
    (stepped : ProjectileStep mapData delta frame proj frame') :
    frame.SameObjects frame' ∧
      ((∃ projNext, proj.Flight mapData delta frame.next.enemies projNext ∧
          frame'.next.projectiles = frame.next.projectiles ++ [projNext]) ∨
        proj.Ends mapData delta frame.next.enemies ∧
          frame'.next.projectiles = frame.next.projectiles) := by
  cases stepped with
  | skipped outOfRange => exact ⟨.refl frame, .inr ⟨.inl outOfRange, rfl⟩⟩
  | flies aim farther =>
      refine ⟨⟨rfl, rfl, rfl, [], by simp, rfl⟩, .inl ⟨_, ⟨_, _, _, aim, farther, rfl⟩, rfl⟩⟩
  | detonates aim near detonated =>
      have impacts := aim.detonate_impacts detonated
      exact ⟨impacts.sameObjects, .inr ⟨.inr ⟨_, _, _, aim, near⟩, impacts.projectiles_eq⟩⟩

/-- The projectile loop carries the projectiles over, behind those that the
frame already holds. -/
theorem updateProjectiles_spec {projectiles : List (Projectile F)}
    (executed : projectiles.foldlM (updateProjectile mapData delta) frame = .ok frame') :
    frame.SameObjects frame' ∧ ∃ images,
      frame'.next.projectiles = frame.next.projectiles ++ images ∧
      Carried (Projectile.Flight mapData delta frame.next.enemies)
        (Projectile.Ends mapData delta frame.next.enemies) projectiles images := by
  let inv (done : List (Projectile F)) (state : Frame F R) : Prop :=
    frame.SameObjects state ∧ ∃ images,
      state.next.projectiles = frame.next.projectiles ++ images ∧
      Carried (Projectile.Flight mapData delta frame.next.enemies)
        (Projectile.Ends mapData delta frame.next.enemies) done images
  apply foldlM_progress inv executed ⟨.refl frame, [], by simp, .nil⟩
  intro done proj state state' _ holds stepped
  rcases holds with ⟨kept, images, appended, carried⟩
  obtain ⟨keptNow, outcome⟩ := (updateProjectile_step stepped).carries
  refine ⟨kept.trans keptNow, ?_⟩
  cases outcome with
  | inl flies =>
      rcases flies with ⟨projNext, flight, appendedNow⟩
      refine ⟨images ++ [projNext], ?_, carried.append_keep (flight.congr kept.bodies)⟩
      rw [appendedNow, appended, List.append_assoc]
  | inr ends =>
      refine ⟨images, ends.2.trans appended, carried.append_drop (ends.1.congr kept.bodies)⟩

end GameState

end TowerDefence
