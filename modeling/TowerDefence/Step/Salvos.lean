import TowerDefence.Step.Objects
import TowerDefence.Step.Query

/-!
# The protocol of a step

The history of a step and its event queue are written by the same loops.  First
come the launches of the towers, then one salvo for every projectile that
detonates, and last the objects that the commands create.  `Protocol` is this
grammar, and it also accounts for the projectiles: every one of the initial state
is used up at most once, by flying on or by a salvo of its own.
-/

namespace TowerDefence

open Foundations

variable {F R : Type}

/-- A detonation with the strikes it made. -/
structure Salvo (F : Type) where
  projectile : Projectile F
  strikes : List (Strike F)

/-- What a salvo leaves in the history. -/
def Salvo.deeds (salvo : Salvo F) : List (Deed F) :=
  .detonate salvo.projectile :: salvo.strikes.map .strike

/-- The strikes of one detonation: at most one direct strike on the target, and
then splash that strikes no slot twice. -/
structure Salvo.Coherent (salvo : Salvo F) : Prop where
  projectile : ∀ strike ∈ salvo.strikes, strike.projectile = salvo.projectile
  shape : ∃ direct splash, salvo.strikes = direct ++ splash ∧ direct.length ≤ 1 ∧
    (∀ strike ∈ direct, strike.direct = true ∧
      strike.enemyIndex = salvo.projectile.targetEnemyIndex ∧
      strike.enemy.id = salvo.projectile.targetEnemyId) ∧
    (∀ strike ∈ splash, strike.direct = false) ∧
    (splash.map fun strike => strike.enemyIndex).Nodup

/-- The deed creates an object at the order of a command. -/
def Deed.IsCommanded : Deed F → Prop
  | .spawn _ => True
  | .build _ => True
  | _ => False

variable [Arithmetic F]

/-- The events that announce a deed.  Objects that a command creates are not
announced. -/
def Deed.events : Deed F → List (GameEvent F)
  | .launch _ projectile => [.projectileLaunched projectile.position projectile.typeIdx]
  | .strike hit => hit.events
  | _ => []

/-- What a step writes into its history and into its event queue: the launches of
the towers, the salvos of the projectiles, and the objects of the commands. -/
structure Grammar (history : List (Deed F)) (events : List (GameEvent F))
    (shots : List (Tower F × Projectile F)) (salvos : List (Salvo F))
    (commanded : List (Deed F)) : Prop where
  deeds : history = (shots.map fun shot => Deed.launch shot.1 shot.2) ++
    salvos.flatMap Salvo.deeds ++ commanded
  events : events = history.flatMap Deed.events
  coherent : ∀ salvo ∈ salvos, salvo.Coherent
  commanded : ∀ deed ∈ commanded, deed.IsCommanded

/-- A step follows the grammar, and every projectile of the initial state is used
up at most once. -/
structure Protocol (state : GameState F R) (deeds : List (Deed F)) (events : List (GameEvent F))
    (next : GameState F R) (shots : List (Tower F × Projectile F)) (salvos : List (Salvo F))
    (commanded : List (Deed F)) : Prop extends Grammar deeds events shots salvos commanded where
  projectiles : ∃ flying : List (Projectile F), next.projectiles = shots.map Prod.snd ++ flying ∧
    ((flying.map fun projectile => projectile.id) ++
      salvos.map fun salvo => salvo.projectile.id).Subperm state.projectileIds

theorem Salvo.flatMap_events (salvo : Salvo F) :
    salvo.deeds.flatMap Deed.events = salvo.strikes.flatMap Strike.events := by
  rw [Salvo.deeds, List.flatMap_cons, List.flatMap_map]
  rfl

theorem Deed.IsCommanded.events_eq {deed : Deed F} (commanded : deed.IsCommanded) :
    deed.events = [] := by
  cases deed with
  | spawn enemy => rfl
  | build tower => rfl
  | launch tower projectile => cases commanded
  | detonate projectile => cases commanded
  | strike strike => cases commanded

/-! ## Strikes -/

/-- The strikes `hits` lead from `frame` to `frame'`. -/
structure Frame.Hits (hits : List (Strike F)) (frame frame' : Frame F R) : Prop where
  deeds : frame'.deeds = frame.deeds ++ hits.map .strike
  events : frame'.outGameEvents = frame.outGameEvents ++ hits.flatMap Strike.events
  projectiles : frame'.next.projectiles = frame.next.projectiles

namespace Frame.Hits

variable {hits laterHits : List (Strike F)} {frame middle frame' : Frame F R}

theorem refl (frame : Frame F R) : Hits [] frame frame := ⟨by simp, by simp, rfl⟩

theorem trans (first : Hits hits frame middle) (second : Hits laterHits middle frame') :
    Hits (hits ++ laterHits) frame frame' where
  deeds := by simp [second.deeds, first.deeds]
  events := by simp [second.events, first.events]
  projectiles := second.projectiles.trans first.projectiles

theorem of_applied {mapData : MapData F} {strike : Strike F}
    (applied : strike.Applied mapData frame frame') : Hits [strike] frame frame' where
  deeds := applied.deeds
  events := by simpa using applied.outGameEvents
  projectiles := by rw [applied.next]

end Frame.Hits

namespace GameState

variable {mapData : MapData F} {projectile : Projectile F} {type : ProjectileType F}
variable {frame frame' : Frame F R} {alive : Bool} {target : Vec2 F}

/-- The direct strike. -/
theorem damageTarget_hits
    (executed : damageTarget mapData projectile type alive frame = .ok frame')
    (aimed : alive = true → ∀ enemy, frame.next.enemies[projectile.targetEnemyIndex]? =
      some enemy → enemy.id = projectile.targetEnemyId) :
    ∃ hits, Frame.Hits hits frame frame' ∧ hits.length ≤ 1 ∧
      ∀ strike ∈ hits, strike.projectile = projectile ∧ strike.direct = true ∧
        strike.enemyIndex = projectile.targetEnemyIndex ∧
        strike.enemy.id = projectile.targetEnemyId := by
  rw [damageTarget] at executed
  split at executed
  case isTrue isAlive =>
      obtain ⟨enemy, applied⟩ := applyDamageToEnemy_applied executed
      refine ⟨_, .of_applied applied, le_refl 1, ?_⟩
      intro strike member
      cases List.mem_singleton.mp member
      exact ⟨rfl, rfl, rfl, aimed isAlive enemy applied.found⟩
  case isFalse _ =>
      rw [pure_eq_ok] at executed
      subst executed
      exact ⟨[], .refl frame, Nat.zero_le 1, by simp⟩

/-- The strikes of the splash. -/
theorem damageSplash_hits
    (executed : damageSplash mapData projectile type target frame = .ok frame') :
    ∃ hits, Frame.Hits hits frame frame' ∧
      (hits.map fun strike => strike.enemyIndex).Nodup ∧
      ∀ strike ∈ hits, strike.projectile = projectile ∧ strike.direct = false := by
  rw [damageSplash] at executed
  split at executed
  case isTrue _ =>
      rw [pure_eq_ok] at executed
      subst executed
      exact ⟨[], .refl frame, by simp, by simp⟩
  case isFalse _ =>
      have distinct := nodup_queryEnemiesInRadius frame.next.enemies target type.splashRadius
      suffices struck : ∃ hits, Frame.Hits hits frame frame' ∧
          (hits.map fun strike => strike.enemyIndex) =
            queryEnemiesInRadius frame.next.enemies target type.splashRadius [] ∧
          ∀ strike ∈ hits, strike.projectile = projectile ∧ strike.direct = false by
        obtain ⟨hits, reached, slots, splash⟩ := struck
        exact ⟨hits, reached, slots ▸ distinct, splash⟩
      apply foldlM_progress (fun done state => ∃ hits, Frame.Hits hits frame state ∧
        (hits.map fun strike => strike.enemyIndex) = done ∧
        ∀ strike ∈ hits, strike.projectile = projectile ∧ strike.direct = false) executed
      · exact ⟨[], ⟨by simp, by simp, rfl⟩, rfl, by simp⟩
      · intro done state state' slot _ holds stepped
        obtain ⟨hits, reached, slots, splash⟩ := holds
        obtain ⟨enemy, applied⟩ := applyDamageToEnemy_applied stepped
        refine ⟨_, reached.trans (.of_applied applied), ?_, ?_⟩
        · rw [List.map_append, slots]
          rfl
        · intro strike member
          cases List.mem_append.mp member with
          | inl earlier => exact splash strike earlier
          | inr last =>
              cases List.mem_singleton.mp last
              exact ⟨rfl, rfl⟩

/-- A detonation is one coherent salvo. -/
theorem detonate_salvo
    (aimed : alive = true → ∀ enemy, frame.next.enemies[projectile.targetEnemyIndex]? =
      some enemy → enemy.id = projectile.targetEnemyId)
    (executed : detonate mapData projectile type alive target frame = .ok frame') :
    ∃ salvo : Salvo F, salvo.Coherent ∧ salvo.projectile = projectile ∧
      frame'.deeds = frame.deeds ++ salvo.deeds ∧
      frame'.outGameEvents = frame.outGameEvents ++ salvo.deeds.flatMap Deed.events ∧
      frame'.next.projectiles = frame.next.projectiles := by
  rw [detonate, bind_eq_ok] at executed
  obtain ⟨struck, hit, splashed⟩ := executed
  obtain ⟨direct, directHits, atMostOne, onTarget⟩ := damageTarget_hits hit aimed
  obtain ⟨splash, splashHits, distinct, bySplash⟩ := damageSplash_hits splashed
  have all := directHits.trans splashHits
  refine ⟨⟨projectile, direct ++ splash⟩, ⟨?_, ?_⟩, rfl, ?_, ?_, all.projectiles⟩
  · intro strike member
    cases List.mem_append.mp member with
    | inl isDirect => exact (onTarget strike isDirect).1
    | inr isSplash => exact (bySplash strike isSplash).1
  · exact ⟨direct, splash, rfl, atMostOne, fun strike member => (onTarget strike member).2,
      fun strike member => (bySplash strike member).2, distinct⟩
  · rw [all.deeds, Salvo.deeds, List.append_assoc]
    rfl
  · rw [Salvo.flatMap_events]
    exact all.events

/-! ## The projectile loop -/

variable [Glm F] {delta : F}

/-- The projectiles that have been processed fly on or have made a salvo of their
own. -/
structure Salvoed (frame : Frame F R) (done : List (Projectile F)) (state : Frame F R)
    (flying : List (Projectile F)) (salvos : List (Salvo F)) : Prop where
  projectiles : state.next.projectiles = frame.next.projectiles ++ flying
  deeds : state.deeds = frame.deeds ++ salvos.flatMap Salvo.deeds
  events : state.outGameEvents = frame.outGameEvents ++
    (salvos.flatMap Salvo.deeds).flatMap Deed.events
  coherent : ∀ salvo ∈ salvos, salvo.Coherent
  once : ((flying.map fun projectile => projectile.id) ++
    salvos.map fun salvo => salvo.projectile.id).Subperm (done.map fun projectile => projectile.id)

omit [Glm F] in
/-- One more of two lists in one more of the other. -/
theorem subperm_concat {flying salvos done : List Nat} (once : (flying ++ salvos).Subperm done)
    (id : Nat) :
    ((flying ++ [id]) ++ salvos).Subperm (done ++ [id]) ∧
      (flying ++ (salvos ++ [id])).Subperm (done ++ [id]) := by
  have grown := once.append (List.Subperm.refl [id])
  refine ⟨List.Perm.subperm ?_ |>.trans grown, ?_⟩
  · rw [List.append_assoc, List.append_assoc]
    exact List.perm_append_comm.append_left flying
  · rwa [List.append_assoc] at grown

theorem updateProjectile_salvoed {frame state state' : Frame F R} {proj : Projectile F}
    {done flying : List (Projectile F)} {salvos : List (Salvo F)}
    (holds : Salvoed frame done state flying salvos)
    (executed : updateProjectile mapData delta state proj = .ok state') :
    ∃ flying' salvos', Salvoed frame (done ++ [proj]) state' flying' salvos' := by
  obtain ⟨turnedOnce, struckOnce⟩ := subperm_concat holds.once proj.id
  cases updateProjectile_step executed with
  | skipped _ =>
      refine ⟨flying, salvos, holds.projectiles, holds.deeds, holds.events, holds.coherent, ?_⟩
      rw [List.map_append]
      exact holds.once.trans (List.sublist_append_left _ _).subperm
  | @flies alive target type _ _ =>
      refine ⟨flying ++ [proj.flown target type delta], salvos, ?_, holds.deeds, holds.events,
        holds.coherent, ?_⟩
      · rw [← List.append_assoc, ← holds.projectiles]
      · have sameId : (proj.flown target type delta).id = proj.id := rfl
        simpa [sameId] using turnedOnce
  | @detonates alive target type _ aim _ detonated =>
      have aimed : alive = true → ∀ enemy,
          state.next.enemies[(proj.turned target).targetEnemyIndex]? = some enemy →
          enemy.id = (proj.turned target).targetEnemyId := by
        intro isAlive enemy found
        obtain ⟨inSlot, foundSlot, sameAlive, _⟩ := aim.slot
        have sameEnemy : enemy = inSlot := Option.some.inj (found.symm.trans foundSlot)
        rw [sameEnemy]
        exact eq_of_beq (sameAlive.symm.trans isAlive)
      obtain ⟨salvo, coherent, sameProjectile, deeds, events, projectiles⟩ :=
        detonate_salvo aimed detonated
      refine ⟨flying, salvos ++ [salvo], ?_, ?_, ?_, ?_, ?_⟩
      · rw [projectiles, holds.projectiles]
      · rw [deeds, holds.deeds, List.flatMap_append, List.append_assoc]
        simp
      · rw [events, holds.events, List.flatMap_append, List.flatMap_append, List.append_assoc]
        simp
      · intro other member
        cases List.mem_append.mp member with
        | inl earlier => exact holds.coherent other earlier
        | inr last =>
            rw [List.mem_singleton.mp last]
            exact coherent
      · have sameId : salvo.projectile.id = proj.id := by
          rw [sameProjectile]
          rfl
        simpa [sameId] using struckOnce

theorem updateProjectiles_salvoed {projectiles : List (Projectile F)}
    (executed : projectiles.foldlM (updateProjectile mapData delta) frame = .ok frame') :
    ∃ flying salvos, Salvoed frame projectiles frame' flying salvos := by
  apply foldlM_progress
    (fun done state => ∃ flying salvos, Salvoed frame done state flying salvos) executed
  · exact ⟨[], [], by simp, by simp, by simp, by simp, by simp⟩
  · intro done proj state state' _ holds stepped
    obtain ⟨flying, salvos, holds⟩ := holds
    exact updateProjectile_salvoed holds stepped

/-! ## The whole step -/

variable {platform : Platform F R} {initial : GameState F R}
variable {commands : List (GameCommand F)} {fuel : Nat} {after : Frame F R}

omit [Glm F] in
/-- The commands create objects, emit no events and leave the projectiles alone. -/
theorem executeCommands_commanded
    (executed : executeCommands platform mapData commands frame = .ok after) :
    ∃ commanded, after.deeds = frame.deeds ++ commanded ∧
      after.outGameEvents = frame.outGameEvents ∧
      after.next.projectiles = frame.next.projectiles ∧
      ∀ deed ∈ commanded, deed.IsCommanded := by
  apply executeCommands_invariant (fun state => ∃ commanded : List (Deed F),
    state.deeds = frame.deeds ++ commanded ∧ state.outGameEvents = frame.outGameEvents ∧
      state.next.projectiles = frame.next.projectiles ∧
      ∀ deed ∈ commanded, deed.IsCommanded) executed
  · exact ⟨[], by simp, rfl, rfl, by simp⟩
  · intro command state state' _ obeys holds
    obtain ⟨commanded, deeds, events, projectiles, isCommanded⟩ := holds
    cases obeys with
    | @spawn _ _ enemy _ _ _ _ _ _ =>
        refine ⟨commanded ++ [.spawn enemy], by simp [deeds], events, projectiles, ?_⟩
        simpa [or_imp, forall_and] using ⟨isCommanded, trivial⟩
    | despawn => exact ⟨commanded, deeds, events, projectiles, isCommanded⟩
    | addGold amount => exact ⟨commanded, deeds, events, projectiles, isCommanded⟩
    | @build _ _ _ tower _ _ _ _ =>
        refine ⟨commanded ++ [.build tower], by simp [deeds], events, projectiles, ?_⟩
        simpa [or_imp, forall_and] using ⟨isCommanded, trivial⟩
    | refuse _ _ => exact ⟨commanded, deeds, events, projectiles, isCommanded⟩

/-- Every step follows the protocol. -/
theorem timeStep_protocol (noDeeds : frame.deeds = []) (noEvents : frame.outGameEvents = [])
    (executed : timeStep platform mapData initial commands delta fuel frame = .ok after) :
    ∃ shots salvos commanded,
      Protocol initial after.deeds after.outGameEvents after.next shots salvos commanded := by
  obtain ⟨moved, fired, struck, moves, fires, strikes, executes⟩ := timeStep_eq_ok.mp executed
  obtain ⟨images, reached, _⟩ := moveEnemies_spec moves
  obtain ⟨copies, shots, volley, _, _⟩ := updateTowers_spec fires
  obtain ⟨flying, salvos, salvoed⟩ := updateProjectiles_salvoed strikes
  obtain ⟨commanded, deeds, events, projectiles, isCommanded⟩ := executeCommands_commanded executes
  subst reached
  have history : after.deeds = (shots.map fun shot => Deed.launch shot.1 shot.2) ++
      salvos.flatMap Salvo.deeds ++ commanded := by
    rw [deeds, salvoed.deeds, volley.deeds]
    simp [clearNext, noDeeds]
  refine ⟨shots, salvos, commanded, ⟨history, ?_, salvoed.coherent, isCommanded⟩, flying, ?_,
    salvoed.once⟩
  · have silent : commanded.flatMap Deed.events = [] :=
      List.flatMap_eq_nil_iff.mpr fun deed member => (isCommanded deed member).events_eq
    have announced : (shots.map fun shot => Deed.launch shot.1 shot.2).flatMap Deed.events =
        shots.map fun shot => GameEvent.projectileLaunched shot.2.position shot.2.typeIdx := by
      rw [List.flatMap_map]
      exact List.map_eq_flatMap.symm
    rw [history, List.flatMap_append, List.flatMap_append, silent, announced, List.append_nil,
      events, salvoed.events, volley.events]
    simp [clearNext, noEvents]
  · rw [projectiles, salvoed.projectiles, volley.next]
    simp [clearNext]

end GameState

end TowerDefence
