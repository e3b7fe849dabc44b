import Mathlib.Algebra.Order.Archimedean.Basic
import TowerDefence.Model.Rational
import TowerDefence.Session.Termination
import TowerDefence.Step.Query

/-!
# Rate of fire

A tower gains the length of a step whenever an enemy is in its range and spends one
interval for every shot, so its shots and the time it has saved account for all
steps in which it had something to shoot at.  Towers are never removed, so a tower
is identified by its slot in the list.
-/

namespace TowerDefence

open Foundations

variable {F R : Type}

/-! ## One iteration of the tower loop -/

/-- The event of a launched projectile. -/
def Projectile.launchEvent (projectile : Projectile F) : GameEvent F :=
  .projectileLaunched projectile.position projectile.typeIdx

section Iteration

variable [Arithmetic F] [Glm F]

/-- Every tower has its iteration, and its copy keeps its slot. -/
theorem GameState.updateTowers_iteration {platform : Platform F R} {mapData : MapData F}
    {initial : GameState F R} {delta : F} {fuel : Nat} {moved fired : Frame F R}
    (empty : moved.next.towers = [])
    (executed : updateTowers platform mapData delta fuel initial moved = .ok fired)
    {slot : Nat} {tower : Tower F} (found : initial.towers[slot]? = some tower) :
    ∃ (before after : Frame F R) (turn : TowerTurn F),
      (initial.towers.take slot).foldlM (updateTower platform mapData delta fuel) moved =
        .ok before ∧
      updateTower platform mapData delta fuel before tower = .ok after ∧ turn.tower = tower ∧
      turn.Follows platform mapData moved.next.enemies delta ∧
      Volley mapData before after [turn.copy] turn.launches ∧
      fired.next.towers[slot]? = some turn.copy := by
  have inBounds := (List.getElem?_eq_some_iff.mp found).1
  obtain ⟨before, after, reaches, stepped, rest⟩ := foldlM_iteration executed found
  have earlier : updateTowers platform mapData delta fuel
      { initial with towers := initial.towers.take slot } moved = .ok before := reaches
  have later : updateTowers platform mapData delta fuel
      { initial with towers := initial.towers.drop (slot + 1) } after = .ok fired := rest
  obtain ⟨turns, towers, _, volleyBefore⟩ := updateTowers_turns earlier
  obtain ⟨turn, sameTower, follows, volley⟩ := updateTower_turn stepped
  obtain ⟨laterTurns, _, _, volleyAfter⟩ := updateTowers_turns later
  rw [volleyBefore.enemies] at follows
  refine ⟨before, after, turn, reaches, stepped, sameTower, follows, volley, ?_⟩
  have count : (turns.map fun turn => turn.copy).length = slot := by
    have sameLength := congrArg List.length towers
    rw [List.length_map, List.length_take, Nat.min_eq_left inBounds.le] at sameLength
    rw [List.length_map, sameLength]
  have copies : fired.next.towers = (turns.map fun turn => turn.copy) ++
      turn.copy :: laterTurns.map fun turn => turn.copy := by
    rw [volleyAfter.next, volley.next, volleyBefore.next, empty]
    simp
  rw [copies, List.getElem?_append_right count.le, count, Nat.sub_self]
  rfl

end Iteration

/-! ## What a tower does in a run -/

namespace World

variable [Arithmetic F] [Glm F]

/-- The frames before and after the iteration of the tower loop for the tower in
`slot`. -/
def towerFrames (world : World F R) (state : GameState F R) (slot : Nat) :
    Exec (Frame F R × Frame F R) := do
  let moved ← GameState.moveEnemies world.mapData state world.fixedDelta
    (GameState.clearNext state (startFrame state))
  let before ← (state.towers.take slot).foldlM
    (GameState.updateTower world.platform world.mapData world.fixedDelta world.fuel) moved
  let tower ← readAt state.towers slot
  let after ← GameState.updateTower world.platform world.mapData world.fixedDelta world.fuel
    before tower
  pure (before, after)

/-- The projectiles and the events that the iteration appends. -/
def towerOutput (world : World F R) (state : GameState F R) (slot : Nat) :
    List (Projectile F) × List (GameEvent F) :=
  match world.towerFrames state slot with
  | .ok (before, after) =>
      (after.next.projectiles.drop before.next.projectiles.length,
        after.outGameEvents.drop before.outGameEvents.length)
  | .error _ => ([], [])

/-- In the step from `state`, a living enemy is in the range of the tower in `slot`
when its turn comes. -/
def enemyInRange (world : World F R) (state : GameState F R) (slot : Nat) : Bool :=
  match GameState.moveEnemies world.mapData state world.fixedDelta
      (GameState.clearNext state (startFrame state)), state.towers[slot]? with
  | .ok moved, some tower =>
      match world.mapData.towerTypes[tower.typeIdx]? with
      | some type => moved.next.enemies.any (Enemy.inRadius tower.position type.range)
      | none => false
  | _, _ => false

/-- The projectiles that the tower in `slot` launches in the steps from `states`. -/
def launchedBy (world : World F R) (slot : Nat) (states : List (GameState F R)) :
    List (Projectile F) :=
  states.flatMap fun state => (world.towerOutput state slot).1

/-- The events of the tower in `slot` in the steps from `states`. -/
def announcedBy (world : World F R) (slot : Nat) (states : List (GameState F R)) :
    List (GameEvent F) :=
  states.flatMap fun state => (world.towerOutput state slot).2

/-- The number of steps in which a living enemy was in the range of the tower. -/
def stepsInRange (world : World F R) (slot : Nat) (states : List (GameState F R)) : Nat :=
  states.countP fun state => world.enemyInRange state slot

variable {world : World F R} {state next : GameState F R} {slot : Nat}

/-- A tower that does not exist does nothing. -/
theorem noTower (missing : state.towers.length ≤ slot) :
    world.towerOutput state slot = ([], []) ∧ world.enemyInRange state slot = false := by
  have none : state.towers[slot]? = none := List.getElem?_eq_none missing
  constructor
  · have fails : ∀ result, world.towerFrames state slot ≠ .ok result := by
      intro result executed
      simp only [towerFrames, bind_eq_ok, readAt_eq_ok, none] at executed
      rcases executed with ⟨_, _, _, _, _, impossible, _⟩
      cases impossible
    rw [towerOutput]
    cases frames : world.towerFrames state slot with
    | ok result => exact absurd frames (fails result)
    | error fault => rfl
  · rw [enemyInRange, none]
    cases GameState.moveEnemies world.mapData state world.fixedDelta
      (GameState.clearNext state (startFrame state)) with
    | ok moved => rfl
    | error fault => rfl

/-- The tower in a slot of the next state is the copy of the tower in the same slot,
after its turn, or has just been built. -/
theorem step_tower {commands : List (GameCommand F)} {record : StepRecord F} {tower : Tower F}
    (stepped : world.step state commands = .ok (next, record))
    (found : next.towers[slot]? = some tower) :
    (∃ (moved : Frame F R) (turn : TowerTurn F), state.towers[slot]? = some turn.tower ∧
        turn.copy = tower ∧
        GameState.moveEnemies world.mapData state world.fixedDelta
          (GameState.clearNext state (startFrame state)) = .ok moved ∧
        turn.Follows world.platform world.mapData moved.next.enemies world.fixedDelta ∧
        world.towerOutput state slot = (turn.shots, turn.shots.map Projectile.launchEvent)) ∨
      state.towers.length ≤ slot ∧ tower.Built world.mapData := by
  obtain ⟨after, executed, reachedNext, _⟩ := World.step_eq_ok.mp stepped
  obtain ⟨moved, fired, struck, moves, fires, hits, commanded⟩ :=
    GameState.timeStep_eq_ok.mp executed
  obtain ⟨images, reached, _⟩ := GameState.moveEnemies_spec moves
  obtain ⟨turns, towers, _, volleys⟩ := GameState.updateTowers_turns fires
  obtain ⟨kept, _⟩ := GameState.updateProjectiles_spec hits
  obtain ⟨built, grown, _, fresh⟩ := GameState.executeCommands_towers commanded
  have empty : moved.next.towers = [] := by
    rw [reached]
    rfl
  have length : fired.next.towers.length = state.towers.length := by
    rw [volleys.next, empty, List.nil_append, List.length_map, ← towers, List.length_map]
  rw [reachedNext, grown, kept.towers] at found
  by_cases present : slot < state.towers.length
  case pos =>
    obtain ⟨before, afterTurn, turn, reaches, turned, sameTower, follows, volley, copied⟩ :=
      GameState.updateTowers_iteration empty fires (List.getElem?_eq_getElem present)
    rw [List.getElem?_append_left (length ▸ present), copied] at found
    refine .inl ⟨moved, turn, ?_, Option.some.inj found, moves, follows, ?_⟩
    · rw [sameTower]
      exact List.getElem?_eq_getElem present
    · have frames : world.towerFrames state slot = .ok (before, afterTurn) := by
        simp only [towerFrames, bind_eq_ok, readAt_eq_ok, pure_eq_ok]
        exact ⟨moved, moves, before, reaches, _, List.getElem?_eq_getElem present, afterTurn,
          turned, rfl⟩
      have projectiles : afterTurn.next.projectiles =
          before.next.projectiles ++ turn.shots := by
        rw [volley.next, turn.launches_snd]
      have events : afterTurn.outGameEvents =
          before.outGameEvents ++ turn.shots.map Projectile.launchEvent := by
        rw [volley.events, ← turn.launches_snd, List.map_map]
        rfl
      rw [towerOutput, frames]
      dsimp only
      rw [projectiles, events, List.drop_left, List.drop_left]
  case neg =>
    rw [List.getElem?_append_right (length ▸ not_lt.mp present)] at found
    exact .inr ⟨not_lt.mp present, fresh tower (List.mem_of_getElem? found)⟩

/-- Steps remove no tower. -/
theorem towers_length_le {commands : List (GameCommand F)} {record : StepRecord F}
    (stepped : world.step state commands = .ok (next, record)) :
    state.towers.length ≤ next.towers.length := by
  have descends := (World.step_descends stepped).towers
  have sameLength := congrArg List.length descends
  rw [GameState.towerIds, GameState.towerIds, List.length_append, List.length_map,
    List.length_map] at sameLength
  omega

theorem enemyInRange_eq {moved : Frame F R} {tower : Tower F} {type : TowerType F}
    (moves : GameState.moveEnemies world.mapData state world.fixedDelta
      (GameState.clearNext state (startFrame state)) = .ok moved)
    (found : state.towers[slot]? = some tower)
    (typed : world.mapData.towerTypes[tower.typeIdx]? = some type) :
    world.enemyInRange state slot = true ↔ TowerTurn.query type moved.next.enemies tower ≠ [] := by
  rw [enemyInRange, moves, found]
  dsimp only
  rw [typed]
  dsimp only
  rw [TowerTurn.query, Ne, GameState.queryEnemiesInRadius_eq_nil_iff, List.any_eq_true]
  simp only [not_forall, Bool.not_eq_false, exists_prop]

end World

/-! ## The account of a tower -/

section Exact

variable [Field F] [LinearOrder F] [Glm F]

/-- The tower in `slot`, of the given type, has fired at its rate in the steps from
`states`. -/
structure World.FiresAtRate (world : World F R) (states : List (GameState F R)) (slot : Nat)
    (type : TowerType F) (tower : Tower F) : Prop where
  nonneg : 0 ≤ tower.timeSinceLastShot
  le_interval : tower.timeSinceLastShot ≤ 1 / type.shotsPerSecond
  balance : (world.launchedBy slot states).length / type.shotsPerSecond + tower.timeSinceLastShot =
    world.fixedDelta * world.stepsInRange slot states
  announced : world.announcedBy slot states =
    (world.launchedBy slot states).map Projectile.launchEvent

variable [IsStrictOrderedRing F]
variable {world : World F R} {states : List (GameState F R)} {state next : GameState F R}
variable {slot : Nat} {type : TowerType F} {tower : Tower F}

/-- A tower that has just been built has an empty account. -/
theorem World.firesAtRate_built (positive : 0 < type.shotsPerSecond)
    (built : tower.Built world.mapData)
    (missing : ∀ state ∈ states, state.towers.length ≤ slot) :
    world.FiresAtRate states slot type tower := by
  have nothing : ∀ state ∈ states, world.towerOutput state slot = ([], []) :=
    fun state member => (world.noTower (missing state member)).1
  have launched : world.launchedBy slot states = [] := by
    rw [launchedBy, List.flatMap_eq_nil_iff]
    exact fun state member => congrArg Prod.fst (nothing state member)
  have announced : world.announcedBy slot states = [] := by
    rw [announcedBy, List.flatMap_eq_nil_iff]
    exact fun state member => congrArg Prod.snd (nothing state member)
  have inRange : world.stepsInRange slot states = 0 := by
    rw [stepsInRange, List.countP_eq_zero]
    intro state member
    rw [(world.noTower (missing state member)).2]
    exact Bool.false_ne_true
  have empty := built.timeSinceLastShot
  refine ⟨?_, ?_, ?_, ?_⟩
  · rw [empty]
  · rw [empty]
    exact (one_div_pos.mpr positive).le
  · rw [launched, inRange, empty]
    simp
  · rw [announced, launched, List.map_nil]

/-- A turn settles the account of one more step. -/
theorem World.FiresAtRate.turn {turn : TowerTurn F} {moved : Frame F R}
    (positive : 0 < type.shotsPerSecond) (delta : 0 ≤ world.fixedDelta)
    (fires : world.FiresAtRate states slot type turn.tower)
    (found : state.towers[slot]? = some turn.tower)
    (typed : world.mapData.towerTypes[turn.tower.typeIdx]? = some type)
    (moves : GameState.moveEnemies world.mapData state world.fixedDelta
      (GameState.clearNext state (startFrame state)) = .ok moved)
    (follows : turn.Follows world.platform world.mapData moved.next.enemies world.fixedDelta)
    (output : world.towerOutput state slot = (turn.shots, turn.shots.map Projectile.launchEvent)) :
    world.FiresAtRate (states ++ [state]) slot type turn.copy := by
  have launched : world.launchedBy slot (states ++ [state]) =
      world.launchedBy slot states ++ turn.shots := by
    rw [launchedBy, List.flatMap_append, List.flatMap_singleton, output]
    rfl
  have announced : world.announcedBy slot (states ++ [state]) =
      (world.launchedBy slot (states ++ [state])).map Projectile.launchEvent := by
    rw [launched, List.map_append, ← fires.announced, announcedBy, List.flatMap_append,
      List.flatMap_singleton, output]
    rfl
  have inRange_iff := enemyInRange_eq moves found typed
  have counted : world.stepsInRange slot (states ++ [state]) =
      world.stepsInRange slot states + if world.enemyInRange state slot then 1 else 0 := by
    rw [stepsInRange, List.countP_append, List.countP_singleton]
    rfl
  cases follows with
  | @idle otherType tower otherTyped empty =>
      rw [typed] at otherTyped
      cases otherTyped
      have outOfRange : world.enemyInRange state slot = false :=
        Bool.eq_false_iff.mpr fun inRange => inRange_iff.mp inRange empty
      refine ⟨fires.nonneg, fires.le_interval, ?_, announced⟩
      rw [launched, counted, outOfRange, List.append_nil]
      exact fires.balance
  | @engages otherType _ index target otherTyped nonempty engaged =>
      rw [typed] at otherTyped
      cases otherTyped
      have inRange : world.enemyInRange state slot = true := inRange_iff.mpr nonempty
      have drained := (TowerType.drains_iff positive.ne').mp engaged.drained
      refine ⟨drained.rest_nonneg (add_nonneg fires.nonneg delta), drained.rest_le, ?_, announced⟩
      have spent := drained.balance
      have earlier := fires.balance
      rw [launched, counted, inRange, List.length_append, if_pos rfl]
      rw [nsmul_eq_mul, mul_one_div] at spent
      push_cast
      calc (((world.launchedBy slot states).length : F) + turn.shots.length) /
              type.shotsPerSecond + turn.copy.timeSinceLastShot
          = (world.launchedBy slot states).length / type.shotsPerSecond +
              (turn.shots.length / type.shotsPerSecond + turn.copy.timeSinceLastShot) := by ring
        _ = (world.launchedBy slot states).length / type.shotsPerSecond +
              turn.tower.timeSinceLastShot + world.fixedDelta := by rw [spent, add_assoc]
        _ = world.fixedDelta * (world.stepsInRange slot states + 1) := by rw [earlier]; ring

/-- Every tower of a run that starts without towers fires at its rate. -/
theorem World.run_firesAtRate (delta : 0 ≤ world.fixedDelta) {start finish : GameState F R}
    {batches : List (List (GameCommand F))} {records : List (StepRecord F)}
    (run : Run world.step start batches records finish) (noTowers : start.towers = []) :
    (∀ state ∈ statesFrom world.step start batches,
        state.towers.length ≤ finish.towers.length) ∧
      ∀ (slot : Nat) (tower : Tower F) (type : TowerType F), finish.towers[slot]? = some tower →
        world.mapData.towerTypes[tower.typeIdx]? = some type → 0 < type.shotsPerSecond →
        world.FiresAtRate (statesFrom world.step start batches) slot type tower := by
  induction run with
  | nil =>
      refine ⟨by simp [statesFrom], ?_⟩
      intro slot tower type found
      rw [noTowers] at found
      cases found
  | snoc before stepped ih =>
      rcases ih with ⟨fewer, accounts⟩
      rw [statesFrom_append_single before.runFrom_eq]
      have grown := World.towers_length_le stepped
      have fewerNow : ∀ state ∈ statesFrom world.step start _ ++ [_],
          state.towers.length ≤ _ := List.forall_mem_append.mpr
        ⟨fewer, List.forall_mem_singleton.mpr le_rfl⟩
      refine ⟨fun state member => (fewerNow state member).trans grown, ?_⟩
      intro slot tower type found typed positive
      cases World.step_tower stepped found with
      | inl turned =>
          obtain ⟨moved, turn, foundBefore, isCopy, moves, follows, output⟩ := turned
          subst isCopy
          rw [follows.copied.typeIdx] at typed
          exact (accounts slot turn.tower type foundBefore typed positive).turn positive delta
            foundBefore typed moves follows output
      | inr built =>
          exact World.firesAtRate_built positive built.2 fun state member =>
            (fewerNow state member).trans built.1

end Exact

/-! ## Sessions -/

section Sessions

variable [Field F] [LinearOrder F] [IsStrictOrderedRing F] [Archimedean F] [Glm F]
variable {boot : Boot F R}

/-- One bound on the iterations of the firing loops holds for all steps of all
sessions on a map whose towers have no negative rate of fire. -/
theorem Boot.play_terminates (delta : 0 ≤ boot.fixedTimeDelta)
    (rates : ∀ type ∈ boot.mapData.towerTypes, 0 ≤ type.shotsPerSecond) :
    ∃ enough, ∀ (platform : Platform F R) (fuel : Nat) (batches : List (List (GameCommand F))),
      enough ≤ fuel → boot.play platform fuel batches ≠ .error .outOfFuel := by
  obtain ⟨bound, drains⟩ := exists_shots_bound rates delta
  refine ⟨bound, ?_⟩
  intro platform fuel batches enough
  -- every process on the way is reached from the loaded one
  let inv (process : Process F R) : Prop := ∃ inputs records,
    Run (Process.step platform fuel) (boot.loaded platform) inputs records process
  rw [play_eq_runFrom]
  apply Avoids.ne_error
  apply Avoids.runFrom inv ⟨[], [], .nil _⟩
  intro commands process _ reached
  rcases reached with ⟨inputs, records, run⟩
  apply Avoids.of_spec
  case spec =>
    intro result stepped
    exact ⟨_, _, .snoc run stepped⟩
  case avoids =>
    obtain ⟨pureRun, sameWorld⟩ := Process.run_refines platform fuel run
    have accounts := (World.run_firesAtRate delta pureRun rfl).2
    have pureTerminates : Avoids Fault.outOfFuel (fun _ => True)
        ((process.world platform fuel).step process.session.next commands) := by
      have ends : Avoids Fault.outOfFuel (fun _ => True)
          (GameState.timeStep platform boot.mapData process.session.next commands
            boot.fixedTimeDelta fuel (World.startFrame process.session.next)) := by
        apply GameState.timeStep_terminates
        intro tower member type typed
        rcases List.mem_iff_getElem?.mp member with ⟨slot, found⟩
        have typeMember := List.mem_of_getElem? typed
        obtain ⟨count, rest, drained, few⟩ := drains type typeMember tower.timeSinceLastShot
          fun positive =>
            have account := accounts slot tower type found typed positive
            ⟨account.nonneg, account.le_interval⟩
        exact ⟨count, rest, drained, few.trans enough⟩
      rw [sameWorld]
      apply Avoids.bind ends
      intro frame _
      exact trivial
    apply (process.step_refines platform fuel commands).avoids pureTerminates
    intro concrete pureResult _ _
    exact trivial

/-- Towers with a positive rate of fire: in every session such a tower has saved at
most one interval after every step, its shots and its saved time account for the
steps in which a living enemy was in its range, every projectile has been announced
once, and one bound on the iterations of its firing loop holds in all steps.  If
no tower has a negative rate, no session ever runs out of iterations. -/
theorem Boot.play_firesAtRate (delta : 0 < boot.fixedTimeDelta) :
    (∀ (typeIdx : Nat) (type : TowerType F), boot.mapData.towerTypes[typeIdx]? = some type →
      0 < type.shotsPerSecond →
      ∃ enough, ∀ (platform : Platform F R) (fuel : Nat) (batches : List (List (GameCommand F)))
        (process : Process F R) (records : List (StepRecord F)),
        boot.play platform fuel batches = .ok (process, records) →
        ∀ (slot : Nat) (tower : Tower F), process.session.next.towers[slot]? = some tower →
          tower.typeIdx = typeIdx →
          (boot.world platform fuel).FiresAtRate
              (statesFrom (boot.world platform fuel).step (boot.startState platform)
                ([] :: batches)) slot type tower ∧
            ∀ (loopFuel : Nat) (frame : Frame F R), enough ≤ loopFuel →
              GameState.updateTower platform boot.mapData boot.fixedTimeDelta loopFuel frame tower ≠
                .error .outOfFuel) ∧
    ((∀ type ∈ boot.mapData.towerTypes, 0 ≤ type.shotsPerSecond) →
      ∃ enough, ∀ (platform : Platform F R) (fuel : Nat) (batches : List (List (GameCommand F))),
        enough ≤ fuel → boot.play platform fuel batches ≠ .error .outOfFuel) := by
  refine ⟨?_, Boot.play_terminates delta.le⟩
  intro typeIdx type typed positive
  obtain ⟨bound, drains⟩ := type.exists_shots_bound positive.le delta.le
  refine ⟨bound, ?_⟩
  intro platform fuel batches process records played slot tower found sameType
  subst sameType
  have run := pure_run_of_play platform fuel played
  have account := (World.run_firesAtRate delta.le run rfl).2 slot tower type found typed positive
  refine ⟨account, ?_⟩
  intro loopFuel frame enough
  apply Avoids.ne_error
  apply GameState.updateTower_terminates
  intro otherType otherTyped
  rw [typed] at otherTyped
  cases otherTyped
  obtain ⟨count, rest, drained, few⟩ :=
    drains tower.timeSinceLastShot fun _ => ⟨account.nonneg, account.le_interval⟩
  exact ⟨count, rest, drained, few.trans enough⟩

end Sessions

section Meadow

open Rational

/-- A soldier walks towards a cannon: after five steps the cannon has fired at its
rate. -/
theorem duel_firesAtRate : ∃ process records tower type,
    meadowBoot.play platform 10 (duel 0 0) = .ok (process, records) ∧
    process.session.next.towers[0]? = some tower ∧ meadow.towerTypes[0]? = some type ∧
    let world := meadowBoot.world platform 10
    let states := statesFrom world.step (meadowBoot.startState platform) ([] :: duel 0 0)
    (world.launchedBy 0 states).length = 2 ∧ world.FiresAtRate states 0 type tower := by
  obtain ⟨⟨process, records⟩, played, checked⟩ := exists_ok_of_succeedsWith
    (meadowBoot.play platform 10 (duel 0 0))
    (fun result => decide
      (result.1.session.next.towers[0]?.map (fun tower : Tower ℚ => tower.typeIdx) = some 0))
    (by decide +kernel)
  obtain ⟨tower, found, sameType⟩ := Option.map_eq_some_iff.mp (of_decide_eq_true checked)
  have delta : (0 : ℚ) < meadowBoot.fixedTimeDelta := by decide +kernel
  obtain ⟨_, accounts⟩ :=
    (Boot.play_firesAtRate (R := Nat) delta).1 0 _ rfl (by decide +kernel)
  exact ⟨process, records, tower, _, played, found, rfl, by decide +kernel,
    (accounts platform 10 _ process records played 0 tower found sameType).1⟩

end Meadow

end TowerDefence
