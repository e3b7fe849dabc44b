import TowerDefence.Game.FixedStep

/-!
# Replays

The log of a run holds the enqueued commands and the executed steps in their order.  A replay of
the log on the bare session, without frames and times, leads to the same session.  Since the total
time determines how often the session steps, frames in which the player asks for nothing may be
split at will.
-/

namespace TowerDefence

open Foundations

variable {F R : Type}

/-! ## Logs -/

/-- An entry of a log. -/
inductive LogEntry (F : Type) where
  | command (command : GameCommand F)
  | tick
  deriving DecidableEq

/-- What is logged of an action. -/
def Action.asLogged : Action F → Option (LogEntry F)
  | .enqueue command => some (.command command)
  | .timeStep _ => some .tick
  | _ => none

def logOf (actions : List (Action F)) : List (LogEntry F) := actions.filterMap Action.asLogged

@[simp] theorem logOf_append (actions later : List (Action F)) :
    logOf (actions ++ later) = logOf actions ++ logOf later := by
  simp [logOf]

/-- Scanning events leaves no trace in the log. -/
theorem logOf_stepActions (record : StepRecord F) : logOf (stepActions record) = [.tick] := by
  have silent : ∀ events : List (GameEvent F), logOf (events.flatMap Game.scanEvent) = [] := by
    intro events
    induction events with
    | nil => rfl
    | cons event events ih =>
        rw [List.flatMap_cons, logOf_append, ih, List.append_nil]
        cases event <;> rfl
  exact congrArg (LogEntry.tick :: ·) (silent record.events)

theorem logOf_enqueue (commands : List (GameCommand F)) :
    logOf (commands.map Action.enqueue) = commands.map LogEntry.command := by
  rw [logOf, List.filterMap_map, ← List.filterMap_eq_map]
  rfl

/-- The log of a run in which nothing is enqueued consists of ticks. -/
theorem logOf_idle {actions : List (Action F)} (idle : enqueuedCommands actions = []) :
    logOf actions = List.replicate (stepRecords actions).length .tick := by
  induction actions with
  | nil => rfl
  | cons action actions ih =>
      cases action with
      | enqueue command => cases idle
      | timeStep record => exact congrArg (LogEntry.tick :: ·) (ih idle)
      | scanEvent event => exact ih idle
      | playEnemyDeathSound => exact ih idle

/-! ## Replaying -/

section Replay

variable [Arithmetic F] [Glm F] {platform : Platform F R} {fuel : Nat}

/-- A session with the commands that wait for its next step. -/
structure Recorder (F R : Type) where
  process : Process F R
  waiting : List (GameCommand F)

/-- What an entry of the log does to a session. -/
def Recorder.enter (platform : Platform F R) (fuel : Nat) (recorder : Recorder F R) :
    LogEntry F → Exec (Recorder F R)
  | .command command => pure { recorder with waiting := recorder.waiting ++ [command] }
  | .tick => do
      let (process, _) ← recorder.process.step platform fuel recorder.waiting
      pure { process, waiting := [] }

/-- A replay of a log. -/
def Recorder.replay (platform : Platform F R) (fuel : Nat) (recorder : Recorder F R)
    (log : List (LogEntry F)) : Exec (Recorder F R) :=
  log.foldlM (enter platform fuel) recorder

/-- What a log needs to know of a game. -/
def Game.recorder (game : Game F R) : Recorder F R := ⟨game.process, game.gameCommands⟩

theorem Recorder.replay_append {recorder middle : Recorder F R} {log later : List (LogEntry F)}
    (replayed : recorder.replay platform fuel log = .ok middle) :
    recorder.replay platform fuel (log ++ later) = middle.replay platform fuel later := by
  rw [replay, List.foldlM_append]
  rw [replay] at replayed
  rw [replayed]
  rfl

theorem Recorder.replay_commands (recorder : Recorder F R) (commands : List (GameCommand F)) :
    recorder.replay platform fuel (commands.map .command) =
      .ok { recorder with waiting := recorder.waiting ++ commands } := by
  induction commands generalizing recorder with
  | nil => rw [List.append_nil]; rfl
  | cons command commands ih =>
      show Recorder.replay platform fuel
        { recorder with waiting := recorder.waiting ++ [command] } (commands.map .command) = _
      rw [ih, List.append_assoc]
      rfl

namespace Game

variable {game game' : Game F R} {actions : List (Action F)}

/-- The fixed-step loop replays its ticks. -/
theorem fixedSteps_replays {stepFuel : Nat} (quiet : game.gameEvents = [])
    (executed : fixedSteps platform stepFuel fuel game = .ok (game', actions)) :
    game.recorder.replay platform stepFuel (logOf actions) = .ok game'.recorder := by
  revert quiet
  apply fixedSteps_rule ?_ ?_ executed
  · intro game _ _
    rfl
  · intro game middle last first later _ stepped ih quiet
    obtain ⟨record, firstEq, _, ran, drained, middleQuiet⟩ := fixedStep_spec quiet stepped
    have ticked : game.recorder.replay platform stepFuel [.tick] = .ok middle.recorder := by
      show (game.process.step platform stepFuel game.gameCommands >>= _) >>= _ = _
      rw [ran, recorder, drained]
      rfl
    rw [firstEq, logOf_append, logOf_stepActions, Recorder.replay_append ticked]
    exact ih middleQuiet

/-- A frame is replayed by its log. -/
theorem update_replays {input : FrameInput F} (quiet : game.gameEvents = [])
    (executed : game.update platform fuel input = .ok (game', actions)) :
    game.recorder.replay platform fuel (logOf actions) = .ok game'.recorder := by
  simp only [update, bind_eq_ok, pure_eq_ok, Prod.mk.injEq] at executed
  obtain ⟨scale, _, ⟨stepped, steps⟩, looped, _, _, _, _, _, _, _, _, _, _, _, _, rfl,
    rfl⟩ := executed
  let elapsed := game.accumulatedDelta + input.deltaTime * scale
  have startQuiet : Game.gameEvents { game with accumulatedDelta := elapsed } = [] := quiet
  have replayed := fixedSteps_replays startQuiet looped
  change game.recorder.replay platform fuel (logOf steps) = .ok stepped.recorder at replayed
  rw [logOf_append, logOf_enqueue, Recorder.replay_append replayed, Recorder.replay_commands]
  rfl

/-- A run of frames is replayed by its log. -/
theorem run_replays {start finish : Game F R} {inputs : List (FrameInput F)}
    {outputs : List (List (Action F))} (quiet : start.gameEvents = [])
    (run : Run (update platform fuel) start inputs outputs finish) :
    start.recorder.replay platform fuel (logOf outputs.flatten) = .ok finish.recorder := by
  induction run with
  | nil => rfl
  | snoc before executed ih =>
      rw [List.flatten_append, List.flatten_singleton, logOf_append,
        Recorder.replay_append ih]
      exact update_replays (run_delivers quiet before).quiet executed

end Game

end Replay

/-! ## Frames may be split -/

section Display

variable [Arithmetic F] [Glm F]

/-- Two states that are displayed alike: they differ at most in the random engine and in the
counter of ids. -/
structure GameState.Alike (state other : GameState F R) : Prop where
  playerState : state.playerState = other.playerState
  enemies : state.enemies = other.enemies
  towers : state.towers = other.towers
  projectiles : state.projectiles = other.projectiles

/-- What is interpolated does not depend on the state that is overwritten. -/
theorem GameSession.interpolateState_alike {session : GameSession F R}
    {outState otherOut state other : GameState F R} {amount : F} {fuel : Nat}
    (executed : session.interpolateState outState amount fuel = .ok state)
    (otherExecuted : session.interpolateState otherOut amount fuel = .ok other) :
    state.Alike other := by
  simp only [interpolateState, GameState.interpolate, bind_eq_ok, pure_eq_ok]
    at executed otherExecuted
  obtain ⟨enemies, isEnemies, towers, isTowers, projectiles, isProjectiles, rfl⟩ := executed
  obtain ⟨_, sameEnemies, _, sameTowers, _, sameProjectiles, rfl⟩ := otherExecuted
  rw [isEnemies, Except.ok.injEq] at sameEnemies
  rw [isTowers, Except.ok.injEq] at sameTowers
  rw [isProjectiles, Except.ok.injEq] at sameProjectiles
  exact ⟨rfl, sameEnemies, sameTowers, sameProjectiles⟩

/-- The last frame of a run displays the session that it leaves. -/
theorem Game.run_interpolates {platform : Platform F R} {fuel : Nat} {start finish : Game F R}
    {inputs : List (FrameInput F)} {outputs : List (List (Action F))} (some : inputs ≠ [])
    (run : Run (update platform fuel) start inputs outputs finish) :
    ∃ outState, finish.process.session.interpolateState outState finish.interpolationAmount fuel =
      .ok finish.interpolatedState := by
  cases run with
  | nil => exact absurd rfl some
  | snoc _ executed => exact update_interpolates executed

end Display

section Confluence

variable [Field F] [LinearOrder F] [IsStrictOrderedRing F] [Glm F] {platform : Platform F R}
  {fuel : Nat}

/-- Two runs of frames from the same session.  If their logs agree, their sessions agree and the
same commands wait for the next step; with the same total time they also display the same.  The
logs agree if in both the player asks for nothing and the total times are the same, however the
time is split into frames. -/
theorem Game.frames_confluent {process : Process F R} {shown otherShown : GameState F R}
    {inputs otherInputs : List (FrameInput F)} {outputs otherOutputs : List (List (Action F))}
    {finish otherFinish : Game F R} (forward : ∀ time ∈ scaledTimes 3 inputs, 0 ≤ time)
    (otherForward : ∀ time ∈ scaledTimes 3 otherInputs, 0 ≤ time)
    (executed : runFrom (update platform fuel) (initialized process shown) inputs =
      .ok (finish, outputs))
    (otherExecuted : runFrom (update platform fuel) (initialized process otherShown) otherInputs =
      .ok (otherFinish, otherOutputs)) :
    (logOf outputs.flatten = logOf otherOutputs.flatten →
      finish.process = otherFinish.process ∧ finish.gameCommands = otherFinish.gameCommands ∧
        ((scaledTimes 3 inputs).sum = (scaledTimes 3 otherInputs).sum →
          finish.accumulatedDelta = otherFinish.accumulatedDelta ∧
            (inputs ≠ [] → otherInputs ≠ [] →
              finish.interpolatedState.Alike otherFinish.interpolatedState))) ∧
      (enqueuedCommands outputs.flatten = [] → enqueuedCommands otherOutputs.flatten = [] →
        (scaledTimes 3 inputs).sum = (scaledTimes 3 otherInputs).sum →
          logOf outputs.flatten = logOf otherOutputs.flatten) := by
  have run := Run.of_runFrom executed
  have otherRun := Run.of_runFrom otherExecuted
  have settled := initialized_settled forward executed
  have otherSettled := initialized_settled otherForward otherExecuted
  constructor
  · intro sameLog
    have replayed := run_replays rfl run
    have otherReplayed := run_replays rfl otherRun
    change (initialized process shown).recorder.replay platform fuel _ = _ at otherReplayed
    rw [← sameLog, replayed] at otherReplayed
    have sameRecorder : finish.recorder = otherFinish.recorder := Except.ok.inj otherReplayed
    have sameProcess : finish.process = otherFinish.process :=
      congrArg Recorder.process sameRecorder
    refine ⟨sameProcess, congrArg Recorder.waiting sameRecorder, fun sameTotal => ?_⟩
    rw [sameTotal] at settled
    have sameRest := (settled.unique otherSettled).2
    refine ⟨sameRest, fun some otherSome => ?_⟩
    obtain ⟨_, interpolated⟩ := run_interpolates some run
    obtain ⟨_, otherInterpolated⟩ := run_interpolates otherSome otherRun
    rw [sameProcess, interpolationAmount, sameRest] at interpolated
    exact GameSession.interpolateState_alike interpolated otherInterpolated
  · intro idle otherIdle sameTotal
    rw [sameTotal] at settled
    rw [logOf_idle idle, logOf_idle otherIdle, (settled.unique otherSettled).1]

end Confluence

section Meadow

open Rational

/-- The time of `pause` in three frames. -/
def Rational.pauses : List (FrameInput ℚ) :=
  [idleInput (1 / 60), idleInput (1 / 20), idleInput (1 / 20)]

/-- A frame of no length in which an enemy is requested. -/
def Rational.spawning : FrameInput ℚ :=
  { idleInput 0 with enemiesToSpawn := fun _ => 1, spawnClicked := true }

/-- The enemy appears in the first of three steps. -/
def Rational.spawningLog : List (LogEntry ℚ) := .command (.debugSpawnEnemy 0) :: .replicate 3 .tick

/-- The frames of a game on the meadow, with their log. -/
def Rational.logged (process : Process ℚ Nat) (inputs : List (FrameInput ℚ)) :
    Exec (Game ℚ Nat × List (LogEntry ℚ)) := do
  let ran ←
    runFrom (Game.update platform 10) (Game.initialized process meadowBoot.otherBuffer) inputs
  pure (ran.1, logOf ran.2.flatten)

/-- In the middle of a duel nobody can tell whether the player has requested another enemy and
then waited in one frame or in three. -/
theorem pauses_confluent : ∃ process records finish outputs otherFinish otherOutputs,
    meadowBoot.play platform 10 ((duel 0 0).take 3) = .ok (process, records) ∧
    process.session.next.enemies ≠ [] ∧ process.session.next.towers ≠ [] ∧
    process.session.next.projectiles ≠ [] ∧
    runFrom (Game.update platform 10) (Game.initialized process meadowBoot.otherBuffer)
      (spawning :: pause) = .ok (finish, outputs) ∧
    runFrom (Game.update platform 10) (Game.initialized process meadowBoot.otherBuffer)
      (spawning :: pauses) = .ok (otherFinish, otherOutputs) ∧
    logOf outputs.flatten = spawningLog ∧
    finish.process = otherFinish.process ∧
    finish.interpolatedState.Alike otherFinish.interpolatedState := by
  obtain ⟨⟨process, records⟩, played, checked⟩ := exists_ok_of_succeedsWith
    (meadowBoot.play platform 10 ((duel 0 0).take 3))
    (fun result =>
      decide (result.1.session.next.enemies ≠ [] ∧ result.1.session.next.towers ≠ [] ∧
        result.1.session.next.projectiles ≠ []) &&
      (succeedsWith (fun ran : _ × List (LogEntry ℚ) => decide (ran.2 = spawningLog))
          (logged result.1 (spawning :: pause)) &&
        succeedsWith (fun ran : _ × List (LogEntry ℚ) => decide (ran.2 = spawningLog))
          (logged result.1 (spawning :: pauses))))
    (by decide +kernel)
  obtain ⟨populated, ran⟩ := Bool.and_eq_true_iff.mp checked
  obtain ⟨first, second⟩ := Bool.and_eq_true_iff.mp ran
  obtain ⟨someEnemy, someTower, someProjectile⟩ := of_decide_eq_true populated
  obtain ⟨⟨finish, log⟩, executed, expected⟩ := exists_ok_of_succeedsWith _ _ first
  obtain ⟨⟨otherFinish, otherLog⟩, otherExecuted, otherExpected⟩ :=
    exists_ok_of_succeedsWith _ _ second
  simp only [logged, bind_eq_ok, pure_eq_ok, Prod.mk.injEq] at executed otherExecuted
  obtain ⟨⟨_, outputs⟩, executed, rfl, rfl⟩ := executed
  obtain ⟨⟨_, otherOutputs⟩, otherExecuted, rfl, rfl⟩ := otherExecuted
  have isLog := of_decide_eq_true expected
  have sameTotal : (Game.scaledTimes 3 (spawning :: pause)).sum =
      (Game.scaledTimes 3 (spawning :: pauses)).sum := by
    decide +kernel
  obtain ⟨agree, _⟩ := Game.frames_confluent (by decide +kernel) (by decide +kernel) executed
    otherExecuted
  obtain ⟨sameProcess, _, alike⟩ := agree (isLog.trans (of_decide_eq_true otherExpected).symm)
  exact ⟨process, records, _, outputs, _, otherOutputs, played, someEnemy, someTower,
    someProjectile, executed, otherExecuted, isLog, sameProcess,
    (alike sameTotal).2 (by simp) (by simp)⟩

end Meadow

end TowerDefence
