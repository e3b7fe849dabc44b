import TowerDefence.Game.FixedStep
import TowerDefence.Game.Safety
import TowerDefence.Session.RateOfFire
import TowerDefence.Step.Interpolation
import TowerDefence.Step.Targets

/-!
# Termination of frames

With enough iterations for its loops a frame succeeds: the steps in it neither run out of
iterations nor leave the bounds of a vector, the fixed-step loop drains the accumulator, and the
loop over two lists of entities ends as long as the first of them can be counted in 32 bits.
-/

namespace TowerDefence

open Foundations

variable {F R : Type}

/-! ## Steps of a process -/

section Steps

variable [Field F] [LinearOrder F] [IsStrictOrderedRing F] [Glm F]
variable {boot : Boot F R} {platform : Platform F R} {fuel : Nat} {process : Process F R}

/-- A process that steps have led to from the loaded map. -/
def Process.Reached (platform : Platform F R) (fuel : Nat) (boot : Boot F R)
    (process : Process F R) : Prop :=
  ∃ inputs records, Run (Process.step platform fuel) (boot.loaded platform) inputs records process

/-- `bound` shots are enough for a step of any tower that has saved at most one interval. -/
def MapData.ShotsBounded (mapData : MapData F) (delta : F) (bound : Nat) : Prop :=
  ∀ type ∈ mapData.towerTypes, ∀ time : F, type.Saves time →
    ∃ count rest, type.Drains (time + delta) count rest ∧ count ≤ bound

/-- What keeps the firing loops of all sessions on a map short. -/
structure Boot.Paced (boot : Boot F R) (bound : Nat) : Prop where
  delta : 0 ≤ boot.fixedTimeDelta
  shots : boot.mapData.ShotsBounded boot.fixedTimeDelta bound

/-- A step from a reached process only fails by an access outside the bounds. -/
theorem Process.Reached.step_avoids_others {bound : Nat} {fault : Fault}
    (reached : process.Reached platform fuel boot) (paced : boot.Paced bound)
    (enough : bound ≤ fuel) (others : Fault.outOfBounds ≠ fault)
    (commands : List (GameCommand F)) :
    Avoids fault (fun _ => True) (process.step platform fuel commands) := by
  obtain ⟨inputs, records, run⟩ := reached
  obtain ⟨pureRun, sameWorld⟩ := Process.run_refines platform fuel run
  have accounts := (World.run_firesAtRate paced.delta pureRun rfl).2
  have steps : Avoids fault (fun _ => True)
      (GameState.timeStep platform boot.mapData process.session.next commands
        boot.fixedTimeDelta fuel (World.startFrame process.session.next)) := by
    apply GameState.timeStep_avoids_others others fun _ _ inBounds =>
      GameState.sortRange_avoids_all inBounds
    intro tower member type typed
    obtain ⟨slot, found⟩ := List.mem_iff_getElem?.mp member
    have typeMember := List.mem_of_getElem? typed
    obtain ⟨count, rest, drained, few⟩ := paced.shots type typeMember tower.timeSinceLastShot
      fun positive =>
        have account := accounts slot tower type found typed positive
        ⟨account.nonneg, account.le_interval⟩
    exact ⟨count, rest, drained, few.trans enough⟩
  have pureSteps : Avoids fault (fun _ => True)
      ((process.world platform fuel).step process.session.next commands) := by
    rw [sameWorld]
    apply Avoids.bind steps
    intro frame _
    exact trivial
  apply (process.step_refines platform fuel commands).avoids pureSteps
  intro concrete pureResult _ _
  exact trivial

/-- From a reached process with safe indices a step succeeds. -/
theorem Process.Reached.step_succeeds {bound : Nat} {commands : List (GameCommand F)}
    (reached : process.Reached platform fuel boot) (paced : boot.Paced bound)
    (enough : bound ≤ fuel) (isMap : process.session.mapData = boot.mapData)
    (mapSafe : boot.mapData.IndexSafe)
    (inRange : ∀ command ∈ commands, command.InRange boot.mapData)
    (safe : process.session.next.IndexSafe boot.mapData) :
    ∃ result, process.step platform fuel commands = .ok result := by
  obtain ⟨result, stepped, _⟩ :=
    (Process.step_avoids isMap mapSafe inRange safe).exists_ok fun other others =>
      reached.step_avoids_others paced enough others commands
  exact ⟨result, stepped⟩

end Steps

/-! ## Interpolation -/

section Interpolation

/-- A list of entities whose slots a counter of 32 bits cannot number. -/
def GameState.Crowded (state : GameState F R) : Prop :=
  2 ^ 32 ≤ state.enemies.length ∨ 2 ^ 32 ≤ state.towers.length ∨ 2 ^ 32 ≤ state.projectiles.length

variable [Arithmetic F] [Glm F] {fuel : Nat}

theorem interpolateEntities_succeeds {T : Type} [IsEntity T F] {prev : List T} (next : List T)
    (amount : F) (short : ¬2 ^ 32 ≤ prev.length) (enough : 2 ^ 32 ≤ fuel) :
    ∃ out, interpolateEntities prev next amount fuel 0 0 [] = .ok out ∧
      ¬2 ^ 32 ≤ out.length := by
  have fewer : prev.length < 2 ^ 32 := Nat.lt_of_not_le short
  obtain ⟨out, executed, ids⟩ :=
    interpolateEntities_ids prev next amount fuel fewer (fewer.le.trans enough)
  refine ⟨out, executed, ?_⟩
  have atMost : out.length ≤ prev.length :=
    calc out.length = (out.map IsEntity.idOf).length := (List.length_map _).symm
      _ = (matched (prev.map IsEntity.idOf) (next.map IsEntity.idOf)).length := by rw [ids]
      _ ≤ (prev.map IsEntity.idOf).length := length_matched_le _ _
      _ = prev.length := List.length_map _
  omega

/-- The older state of a session may hold fewer than 2^32 entities of each kind: then it is
interpolated. -/
theorem GameState.interpolate_succeeds {prevState : GameState F R}
    (nextState outState : GameState F R) (amount : F) (short : ¬prevState.Crowded)
    (enough : 2 ^ 32 ≤ fuel) :
    ∃ out, interpolate prevState nextState outState amount fuel = .ok out ∧ ¬out.Crowded := by
  simp only [Crowded, not_or] at short
  obtain ⟨enemies, isEnemies, fewEnemies⟩ :=
    interpolateEntities_succeeds nextState.enemies amount short.1 enough
  obtain ⟨towers, isTowers, fewTowers⟩ :=
    interpolateEntities_succeeds nextState.towers amount short.2.1 enough
  obtain ⟨projectiles, isProjectiles, fewProjectiles⟩ :=
    interpolateEntities_succeeds nextState.projectiles amount short.2.2 enough
  refine ⟨{ outState with playerState := nextState.playerState, enemies, towers, projectiles }, ?_,
    not_or.mpr ⟨fewEnemies, not_or.mpr ⟨fewTowers, fewProjectiles⟩⟩⟩
  rw [interpolate, isEnemies, isTowers, isProjectiles]
  rfl

end Interpolation

/-! ## Reads -/

section Reads

variable [Arithmetic F] {fault : Fault} (others : Fault.outOfBounds ≠ fault)

include others

theorem BuildableMap.query_avoids_others [Glm F] (map : BuildableMap) (position : Vec2 F) :
    Avoids fault (fun _ => True) (map.query position) := by
  rw [query]
  split
  case isTrue => exact trivial
  case isFalse =>
    apply Avoids.bind (readAt_avoids_others others _ _)
    intro _ _
    exact trivial

omit [Arithmetic F] in
theorem GameState.forEachEntity_avoids_others (mapData : MapData F) (state : GameState F R) :
    Avoids fault (fun _ => True) (forEachEntity mapData state) := by
  have typed {α β : Type} (items : List α) (types : List β) (typeIdx : α → Nat)
      (drawn : α → β → Entity F × EntityType) : Avoids fault (fun _ => True)
      (items.mapM fun item => do
        let type ← readAt types (typeIdx item)
        pure (drawn item type)) := by
    apply Avoids.mapM
    intro item _
    apply Avoids.bind (readAt_avoids_others others _ _)
    intro _ _
    exact trivial
  apply Avoids.bind (typed _ _ _ _)
  intro enemies _
  apply Avoids.bind (typed _ _ _ _)
  intro towers _
  apply Avoids.bind (typed _ _ _ _)
  intro projectiles _
  exact trivial

end Reads

/-! ## Frames -/

namespace Game

variable [Field F] [LinearOrder F] [IsStrictOrderedRing F] [Glm F]
variable {boot : Boot F R} {platform : Platform F R} {fuel bound : Nat} {game : Game F R}

/-- A game whose session has been reached from the loaded map, with all indices in range. -/
structure Ready (platform : Platform F R) (fuel : Nat) (boot : Boot F R) (game : Game F R) :
    Prop where
  sound : game.Sound boot.mapData
  reached : game.process.Reached platform fuel boot

theorem fixedStep_succeeds (ready : game.Ready platform fuel boot) (paced : boot.Paced bound)
    (enough : bound ≤ fuel) (mapSafe : boot.mapData.IndexSafe) :
    ∃ result, game.fixedStep platform fuel = .ok result ∧ result.1.Ready platform fuel boot ∧
      result.1.accumulatedDelta = game.accumulatedDelta - fixedDelta := by
  obtain ⟨result, stepped⟩ := ready.reached.step_succeeds paced enough ready.sound.isMap mapSafe
    ready.sound.commands ready.sound.state
  obtain ⟨inputs, records, run⟩ := ready.reached
  have reached := Run.snoc run stepped
  simp only [Process.step, bind_eq_ok, pure_eq_ok] at stepped
  obtain ⟨⟨process, gameEvents, record⟩, timed, rfl⟩ := stepped
  have executed : game.fixedStep platform fuel = .ok
      ({ game with
          process
          accumulatedDelta := game.accumulatedDelta - fixedDelta
          gameCommands := []
          gameEvents := [] },
        .timeStep record :: gameEvents.flatMap scanEvent) := by
    rw [fixedStep, ready.sound.quiet, timed]
    rfl
  exact ⟨_, executed, ⟨(fixedStep_avoids mapSafe ready.sound).of_ok executed, _, _, reached⟩, rfl⟩

/-- The fixed-step loop ends when the accumulator is drained. -/
theorem fixedSteps_succeeds {amount rest : F} {count loopFuel : Nat}
    (drained : Drained fixedDelta amount count rest) (ready : game.Ready platform fuel boot)
    (accumulated : game.accumulatedDelta = amount) (few : count ≤ loopFuel)
    (paced : boot.Paced bound) (enough : bound ≤ fuel) (mapSafe : boot.mapData.IndexSafe) :
    ∃ result, fixedSteps platform fuel loopFuel game = .ok result ∧
      result.1.Ready platform fuel boot := by
  induction drained generalizing game loopFuel with
  | stop atMost =>
      rw [← accumulated] at atMost
      refine ⟨(game, []), ?_, ready⟩
      cases loopFuel with
      | zero => rw [fixedSteps, if_neg atMost]; rfl
      | succ loopFuel => rw [fixedSteps, if_neg atMost]; rfl
  | take exceeds _ ih =>
      rw [← accumulated] at exceeds
      cases loopFuel with
      | zero => exact absurd few (Nat.not_succ_le_zero _)
      | succ loopFuel =>
          obtain ⟨stepped, executed, readyNext, less⟩ :=
            fixedStep_succeeds ready paced enough mapSafe
          obtain ⟨finished, later, readyLast⟩ := ih readyNext
            (less.trans (congrArg (· - fixedDelta) accumulated)) (Nat.le_of_succ_le_succ few)
          refine ⟨(finished.1, stepped.2 ++ finished.2), ?_, readyLast⟩
          rw [fixedSteps, if_pos exceeds, executed]
          show (fixedSteps platform fuel loopFuel stepped.1 >>= _) = _
          rw [later]
          rfl

/-- The game when the fixed-step loop of a frame starts. -/
def accumulate (game : Game F R) (deltaTime : F) : Game F R :=
  { game with
    accumulatedDelta :=
      game.accumulatedDelta + deltaTime * dtScaleFactors.getD game.selectedDtScaleIdx 0 }

/-- The steps of a frame lead to a session whose older state is crowded. -/
def Overcrowds (platform : Platform F R) (fuel : Nat) (game : Game F R) (deltaTime : F) : Prop :=
  ∃ (stepped : Game F R) (actions : List (Action F)),
    fixedSteps platform fuel fuel (game.accumulate deltaTime) = .ok (stepped, actions) ∧
      stepped.process.session.prev.Crowded

/-- The time of a frame fills the accumulator with at most so many steps, whatever scale the player
has selected. -/
def StepsAtMost (steps : Nat) (deltaTime : F) : Prop :=
  ∀ scale : Nat, fixedDelta + deltaTime * dtScaleFactors.getD scale 0 ≤ steps • fixedDelta

omit [Glm F] in
theorem exists_stepsAtMost [Archimedean F] (times : List F) :
    ∃ steps : Nat, ∀ deltaTime ∈ times, StepsAtMost steps deltaTime := by
  obtain ⟨steps, bounded⟩ := Drained.exists_bound fixedDelta_pos (times.flatMap fun deltaTime =>
    (0 :: dtScaleFactors).map fun scale : F => fixedDelta + deltaTime * scale)
  refine ⟨steps, fun deltaTime member scale => bounded _ ?_⟩
  refine List.mem_flatMap.mpr ⟨deltaTime, member, List.mem_map.mpr ⟨_, ?_, rfl⟩⟩
  rw [List.getD_eq_getElem?_getD]
  cases found : (dtScaleFactors : List F)[scale]? with
  | none => exact List.mem_cons_self
  | some factor => exact List.mem_cons_of_mem _ (List.mem_of_getElem? found)

/-- What a frame leaves behind that succeeds. -/
structure Settles (platform : Platform F R) (fuel : Nat) (boot : Boot F R) (game : Game F R) :
    Prop where
  ready : game.Ready platform fuel boot
  accumulated : game.accumulatedDelta ≤ fixedDelta
  safe : game.interpolatedState.IndexSafe boot.mapData
  short : ¬game.interpolatedState.Crowded

/-- A frame whose accumulator holds a bounded number of steps succeeds, unless the steps lead to a
crowded state. -/
theorem update_succeeds [Archimedean F] {steps : Nat} (input : FrameInput F)
    (ready : game.Ready platform fuel boot) (paced : boot.Paced bound)
    (mapSound : boot.mapData.Sound) (enough : bound ≤ fuel)
    (counters : 2 ^ 32 ≤ fuel) (fewSteps : steps ≤ fuel)
    (time : (game.accumulate input.deltaTime).accumulatedDelta ≤ steps • fixedDelta)
    (calm : ¬game.Overcrowds platform fuel input.deltaTime) :
    ∃ result, game.update platform fuel input = .ok result ∧
      result.1.Settles platform fuel boot := by
  obtain ⟨count, rest, drained⟩ :=
    Drained.exists_of_pos fixedDelta_pos (game.accumulate input.deltaTime).accumulatedDelta
  have few : count ≤ fuel := (drained.count_le_of_le fixedDelta_pos time).trans fewSteps
  have readyFilled : (game.accumulate input.deltaTime).Ready platform fuel boot :=
    ⟨⟨ready.sound.isMap, ready.sound.state, ready.sound.commands, ready.sound.quiet,
      ready.sound.dtScale, ready.sound.towerType, ready.sound.enemyType⟩, ready.reached⟩
  obtain ⟨⟨stepped, actions⟩, looped, readyStepped⟩ :=
    fixedSteps_succeeds drained readyFilled rfl few paced enough mapSound.indexSafe
  have short : ¬stepped.process.session.prev.Crowded := fun crowded =>
    calm ⟨stepped, actions, looped, crowded⟩
  obtain ⟨shown, interpolated, shortShown⟩ := GameState.interpolate_succeeds
    stepped.process.session.next stepped.interpolatedState
    (Glm.smoothstep 0 fixedDelta stepped.accumulatedDelta) short counters
  obtain ⟨scale, selected⟩ : ∃ scale : F, dtScaleFactors[game.selectedDtScaleIdx]? = some scale :=
    ⟨_, List.getElem?_eq_getElem ready.sound.dtScale⟩
  have filled :
      { game with accumulatedDelta := game.accumulatedDelta + input.deltaTime * scale } =
        game.accumulate input.deltaTime := by
    rw [accumulate, List.getD_eq_getElem?_getD, selected, Option.getD_some]
  have others : ∀ fault, Fault.outOfBounds ≠ fault →
      Avoids fault (fun _ => True) (game.update platform fuel input) := by
    intro fault others
    rw [update, readAt_eq_ok.mpr selected]
    show Avoids fault _ (fixedSteps platform fuel fuel
      { game with accumulatedDelta := game.accumulatedDelta + input.deltaTime * scale } >>= _)
    rw [filled, looped]
    show Avoids fault _ (GameState.interpolate _ _ _ _ fuel >>= _)
    rw [interpolated]
    apply Avoids.bind (BuildableMap.query_avoids_others others _ _)
    intro buildable _
    apply Avoids.bind (readAt_avoids_others others _ _).discard
    intro _ _
    apply Avoids.bind (readAt_avoids_others others _ _).discard
    intro _ _
    apply Avoids.bind (Avoids.forM fun _ _ => (readAt_avoids_others others _ _).discard)
    intro _ _
    apply Avoids.bind (GameState.forEachEntity_avoids_others others _ _).discard
    intro _ _
    exact trivial
  obtain ⟨result, updated, sound, safe⟩ :=
    (update_avoids mapSound ready.sound).exists_ok others
  refine ⟨result, updated, ⟨sound, ?_⟩, ?_, safe, ?_⟩
  · obtain ⟨inputs, records, run⟩ := ready.reached
    obtain ⟨_, _, _, _, frameRun, _⟩ := (update_trace ready.sound.quiet updated).trace
    exact ⟨_, _, run.append frameRun⟩
  · exact (update_drained updated).1.rest_le
  · simp only [update, bind_eq_ok, pure_eq_ok, readAt_eq_ok] at updated
    obtain ⟨_, sameScale, _, sameSteps, _, sameShown, _, _, _, _, _, _, _, _, _, _, rfl⟩ := updated
    rw [selected, Option.some.injEq] at sameScale
    subst sameScale
    rw [filled, looped, Except.ok.injEq] at sameSteps
    subst sameSteps
    rw [GameSession.interpolateState, interpolated, Except.ok.injEq] at sameShown
    exact sameShown ▸ shortShown

end Game

end TowerDefence
