import TowerDefence.Foundations.Queue
import TowerDefence.Model.Game
import TowerDefence.Model.Rational

/-!
# Delivery of commands and events

A frame executes any number of fixed steps before it enqueues new commands.  The
first step of a frame drains the command queue, so no command is lost or executed
twice, and the events of a step are scanned before the next step.
-/

namespace TowerDefence

open Foundations

variable {F R : Type}

/-! ## Reading the actions -/

namespace Action

/-- The command that was enqueued. -/
def asEnqueued : Action F → Option (GameCommand F)
  | .enqueue command => some command
  | _ => none

/-- The step that was executed. -/
def asStep : Action F → Option (StepRecord F)
  | .timeStep record => some record
  | _ => none

/-- The event that the handler loop scanned. -/
def asScanned : Action F → Option (GameEvent F)
  | .scanEvent event => some event
  | _ => none

end Action

def enqueuedCommands (actions : List (Action F)) : List (GameCommand F) :=
  actions.filterMap Action.asEnqueued

def stepRecords (actions : List (Action F)) : List (StepRecord F) :=
  actions.filterMap Action.asStep

def scannedEvents (actions : List (Action F)) : List (GameEvent F) :=
  actions.filterMap Action.asScanned

section Append

variable (actions later : List (Action F))

@[simp] theorem enqueuedCommands_append :
    enqueuedCommands (actions ++ later) = enqueuedCommands actions ++ enqueuedCommands later := by
  simp [enqueuedCommands]

@[simp] theorem stepRecords_append :
    stepRecords (actions ++ later) = stepRecords actions ++ stepRecords later := by
  simp [stepRecords]

@[simp] theorem scannedEvents_append :
    scannedEvents (actions ++ later) = scannedEvents actions ++ scannedEvents later := by
  simp [scannedEvents]

end Append

/-- A step, followed by the scan of its events. -/
def stepActions (record : StepRecord F) : List (Action F) :=
  .timeStep record :: record.events.flatMap Game.scanEvent

theorem scanEvents_read (events : List (GameEvent F)) :
    enqueuedCommands (events.flatMap Game.scanEvent) = [] ∧
      stepRecords (events.flatMap Game.scanEvent) = [] ∧
      scannedEvents (events.flatMap Game.scanEvent) = events := by
  induction events with
  | nil => exact ⟨rfl, rfl, rfl⟩
  | cons event events ih =>
      rcases ih with ⟨noCommand, noStep, scanned⟩
      cases event with
      | enemyDied enemyIndex =>
          exact ⟨noCommand, noStep, congrArg (GameEvent.enemyDied enemyIndex :: ·) scanned⟩
      | towerBuilt position typeIdx =>
          exact ⟨noCommand, noStep, congrArg (GameEvent.towerBuilt position typeIdx :: ·) scanned⟩
      | projectileLaunched position typeIdx =>
          exact ⟨noCommand, noStep,
            congrArg (GameEvent.projectileLaunched position typeIdx :: ·) scanned⟩
      | projectileHit position enemyIndex typeIdx =>
          exact ⟨noCommand, noStep,
            congrArg (GameEvent.projectileHit position enemyIndex typeIdx :: ·) scanned⟩

theorem stepActions_read (records : List (StepRecord F)) :
    enqueuedCommands (records.flatMap stepActions) = [] ∧
      stepRecords (records.flatMap stepActions) = records ∧
      scannedEvents (records.flatMap stepActions) =
        records.flatMap fun record => record.events := by
  induction records with
  | nil => exact ⟨rfl, rfl, rfl⟩
  | cons record records ih =>
      rcases ih with ⟨noCommand, steps, scanned⟩
      obtain ⟨noCommandHere, noStepHere, scannedHere⟩ := scanEvents_read record.events
      rw [List.flatMap_cons, enqueuedCommands_append, stepRecords_append, scannedEvents_append,
        noCommand, steps, scanned, List.flatMap_cons]
      constructor
      · rw [List.append_nil]
        exact noCommandHere
      constructor
      · exact congrArg (record :: · ++ records) noStepHere
      · exact congrArg (· ++ _) scannedHere

theorem enqueues_read (commands : List (GameCommand F)) :
    enqueuedCommands (commands.map Action.enqueue) = commands ∧
      stepRecords (commands.map Action.enqueue) = [] ∧
      scannedEvents (commands.map Action.enqueue) = [] := by
  induction commands with
  | nil => exact ⟨rfl, rfl, rfl⟩
  | cons command commands ih =>
      rcases ih with ⟨enqueued, noStep, noEvent⟩
      exact ⟨congrArg (command :: ·) enqueued, noStep, noEvent⟩

/-- The steps of a frame are those that it executes. -/
theorem stepRecords_frame (records : List (StepRecord F)) (commands : List (GameCommand F)) :
    stepRecords (records.flatMap stepActions ++ commands.map Action.enqueue) = records := by
  rw [stepRecords_append, (stepActions_read records).2.1, (enqueues_read commands).2.1,
    List.append_nil]

/-! ## One frame -/

section Frames

variable [Arithmetic F] [Glm F] {platform : Platform F R} {fuel : Nat}

/-- The record of a step names the commands that the step received and, if the
event queue was empty, everything that it left there. -/
theorem Process.timeStep_record {process process' : Process F R} {commands : List (GameCommand F)}
    {events : List (GameEvent F)} {record : StepRecord F}
    (executed : process.timeStep platform fuel commands [] = .ok (process', events, record)) :
    record.commands = commands ∧ record.events = events := by
  simp only [Process.timeStep, bind_eq_ok, pure_eq_ok, Prod.mk.injEq] at executed
  rcases executed with ⟨frame, _, _, sameEvents, sameRecord⟩
  rw [← sameRecord, ← sameEvents]
  exact ⟨rfl, rfl⟩

/-- One fixed step drains the command queue and scans the events of the step. -/
theorem Game.fixedStep_spec {game game' : Game F R} {actions : List (Action F)}
    (quiet : game.gameEvents = [])
    (executed : game.fixedStep platform fuel = .ok (game', actions)) :
    ∃ record, actions = stepActions record ∧ record.commands = game.gameCommands ∧
      game.process.step platform fuel game.gameCommands = .ok (game'.process, record) ∧
      game'.gameCommands = [] ∧ game'.gameEvents = [] := by
  simp only [fixedStep, bind_eq_ok, pure_eq_ok, Prod.mk.injEq, quiet] at executed
  rcases executed with ⟨⟨process, events, record⟩, stepped, assembled, recorded⟩
  obtain ⟨sameCommands, sameEvents⟩ := Process.timeStep_record stepped
  subst assembled
  refine ⟨record, ?_, sameCommands, ?_, rfl, rfl⟩
  · rw [← recorded, stepActions, sameEvents]
  · rw [Process.step, stepped]
    rfl

/-- What the fixed-step loop does: `records` are the steps it executes. -/
structure Game.Stepped (platform : Platform F R) (fuel : Nat) (game : Game F R)
    (records : List (StepRecord F)) (game' : Game F R) : Prop where
  run : Run (Process.step platform fuel) game.process (records.map fun record => record.commands)
    records game'.process
  drains : Drains game.gameCommands (records.map fun record => record.commands) game'.gameCommands
  quiet : game'.gameEvents = []

/-- The fixed-step loop stops, or takes a step and goes on. -/
theorem Game.fixedSteps_rule {motive : Game F R → List (Action F) → Game F R → Prop}
    {stepFuel : Nat} {game game' : Game F R} {actions : List (Action F)}
    (stop : ∀ game : Game F R, ¬fixedDelta < game.accumulatedDelta → motive game [] game)
    (take : ∀ (game middle last : Game F R) (first later : List (Action F)),
      fixedDelta < game.accumulatedDelta → game.fixedStep platform stepFuel = .ok (middle, first) →
        motive middle later last → motive game (first ++ later) last)
    (executed : fixedSteps platform stepFuel fuel game = .ok (game', actions)) :
    motive game actions game' := by
  induction fuel generalizing game actions with
  | zero =>
      rw [fixedSteps] at executed
      split at executed
      · cases executed
      case isFalse enough =>
        cases executed
        exact stop _ enough
  | succ fuel ih =>
      rw [fixedSteps] at executed
      split at executed
      case isTrue exceeds =>
        simp only [bind_eq_ok, pure_eq_ok, Prod.mk.injEq] at executed
        rcases executed with ⟨⟨middle, first⟩, stepped, ⟨last, later⟩, continued, rfl, rfl⟩
        exact take game middle last first later exceeds stepped (ih continued)
      case isFalse enough =>
        cases executed
        exact stop _ enough

theorem Game.fixedSteps_spec {stepFuel : Nat} {game game' : Game F R} {actions : List (Action F)}
    (quiet : game.gameEvents = [])
    (executed : fixedSteps platform stepFuel fuel game = .ok (game', actions)) :
    ∃ records, actions = records.flatMap stepActions ∧
      game.Stepped platform stepFuel records game' := by
  revert quiet
  apply fixedSteps_rule ?_ ?_ executed
  · intro game _ quiet
    exact ⟨[], rfl, .nil _, .inl ⟨rfl, rfl⟩, quiet⟩
  · intro game middle last first later _ stepped ih quiet
    obtain ⟨record, firstEq, sameCommands, ran, drained, middleQuiet⟩ :=
      fixedStep_spec quiet stepped
    obtain ⟨records, laterEq, rest⟩ := ih middleQuiet
    refine ⟨record :: records, ?_, ?_, ?_, rest.quiet⟩
    · rw [firstEq, laterEq, List.flatMap_cons]
    · rw [List.map_cons, sameCommands]
      exact (Run.single ran).append rest.run
    · have drains := rest.drains
      rw [drained] at drains
      rw [List.map_cons, sameCommands]
      exact drains.cons

/-- A frame executes its steps and then enqueues `commands`. -/
structure Game.FrameTrace (platform : Platform F R) (fuel : Nat) (game : Game F R)
    (actions : List (Action F)) (game' : Game F R) : Prop where
  trace : ∃ records commands rest,
    actions = records.flatMap stepActions ++ commands.map .enqueue ∧
    Run (Process.step platform fuel) game.process (records.map fun record => record.commands)
      records game'.process ∧
    Drains game.gameCommands (records.map fun record => record.commands) rest ∧
    game'.gameCommands = rest ++ commands
  quiet : game'.gameEvents = []

theorem Game.update_trace {game game' : Game F R} {input : FrameInput F}
    {actions : List (Action F)} (quiet : game.gameEvents = [])
    (executed : game.update platform fuel input = .ok (game', actions)) :
    game.FrameTrace platform fuel actions game' := by
  simp only [update, bind_eq_ok, pure_eq_ok, Prod.mk.injEq] at executed
  obtain ⟨scale, _, ⟨stepped, steps⟩, looped, _, _, _, _, _, _, _, _, _, _, _, _, assembled,
    recorded⟩ := executed
  let elapsed := game.accumulatedDelta + input.deltaTime * scale
  have startQuiet : Game.gameEvents { game with accumulatedDelta := elapsed } = [] := quiet
  obtain ⟨records, stepsEq, holds⟩ := fixedSteps_spec startQuiet looped
  subst assembled
  refine ⟨⟨records, _, stepped.gameCommands, ?_, holds.run, holds.drains, rfl⟩, holds.quiet⟩
  rw [← recorded, stepsEq]

/-! ## All frames -/

/-- Delivery along the frames from `start` to `finish`: the commands that the
steps received and those still queued are the enqueued ones in their order, the
scanned events are the emitted ones in their order, the steps form a run of the
session, and only the first step of a frame receives commands. -/
structure Game.Delivers (platform : Platform F R) (fuel : Nat) (start : Game F R)
    (outputs : List (List (Action F))) (finish : Game F R) : Prop where
  commands : ((stepRecords outputs.flatten).flatMap fun record => record.commands) ++
    finish.gameCommands = start.gameCommands ++ enqueuedCommands outputs.flatten
  events : scannedEvents outputs.flatten =
    (stepRecords outputs.flatten).flatMap fun record => record.events
  run : Run (Process.step platform fuel) start.process
    ((stepRecords outputs.flatten).map fun record => record.commands)
    (stepRecords outputs.flatten) finish.process
  frames : ∀ actions ∈ outputs, ∃ (records : List (StepRecord F)) (commands : List (GameCommand F)),
    actions = records.flatMap stepActions ++ commands.map .enqueue ∧
    ∀ record ∈ records.tail, record.commands = []
  quiet : finish.gameEvents = []

theorem Game.Delivers.snoc {start middle finish : Game F R} {outputs : List (List (Action F))}
    {actions : List (Action F)} (delivers : Delivers platform fuel start outputs middle)
    (frame : middle.FrameTrace platform fuel actions finish) :
    Delivers platform fuel start (outputs ++ [actions]) finish := by
  rcases frame with ⟨⟨records, commands, rest, shape, run, drains, queue⟩, quiet⟩
  obtain ⟨noCommand, _, scanned⟩ := stepActions_read records
  obtain ⟨enqueued, _, noEvent⟩ := enqueues_read commands
  have commandsRead : enqueuedCommands actions = commands := by
    rw [shape, enqueuedCommands_append, noCommand, enqueued, List.nil_append]
  have stepsRead : stepRecords actions = records := by
    rw [shape]
    exact stepRecords_frame records commands
  have eventsRead : scannedEvents actions = records.flatMap fun record => record.events := by
    rw [shape, scannedEvents_append, scanned, noEvent, List.append_nil]
  have flat : (outputs ++ [actions]).flatten = outputs.flatten ++ actions := by
    rw [List.flatten_append, List.flatten_singleton]
  refine ⟨?_, ?_, ?_, ?_, quiet⟩
  · have drained : (records.flatMap fun record => record.commands) ++ rest =
        middle.gameCommands := drains.flatten_append
    have earlier := delivers.commands
    rw [← drained] at earlier
    rw [flat, stepRecords_append, enqueuedCommands_append, stepsRead, commandsRead, queue,
      List.flatMap_append, ← List.append_assoc start.gameCommands, ← earlier]
    simp only [List.append_assoc]
  · rw [flat, scannedEvents_append, stepRecords_append, eventsRead, stepsRead,
      List.flatMap_append, delivers.events]
  · rw [flat, stepRecords_append, stepsRead, List.map_append]
    exact delivers.run.append run
  · intro other member
    cases List.mem_append.mp member with
    | inl earlier => exact delivers.frames other earlier
    | inr last =>
        refine ⟨records, commands, List.mem_singleton.mp last ▸ shape, ?_⟩
        intro record recordMember
        apply drains.tail_empty
        rw [← List.map_tail]
        exact List.mem_map.mpr ⟨record, recordMember, rfl⟩

theorem Game.run_delivers {start finish : Game F R} {inputs : List (FrameInput F)}
    {outputs : List (List (Action F))} (quiet : start.gameEvents = [])
    (run : Run (Game.update platform fuel) start inputs outputs finish) :
    Delivers platform fuel start outputs finish := by
  induction run with
  | nil => exact ⟨by simp [stepRecords, enqueuedCommands], rfl, .nil _, by simp, quiet⟩
  | snoc _ executed ih => exact ih.snoc (update_trace ih.quiet executed)

/-- Over any sequence of frames of an initialized game, every enqueued command is
passed to one step, in the order of the queue, and every event is scanned once. -/
theorem Game.frames_deliver {process : Process F R} {interpolatedState : GameState F R}
    {inputs : List (FrameInput F)} {game : Game F R} {outputs : List (List (Action F))}
    (executed : runFrom (Game.update platform fuel) (initialized process interpolatedState) inputs =
      .ok (game, outputs)) :
    ((stepRecords outputs.flatten).flatMap fun record => record.commands) ++ game.gameCommands =
        enqueuedCommands outputs.flatten ∧
      Delivers platform fuel (initialized process interpolatedState) outputs game := by
  have delivers := Game.run_delivers rfl (Run.of_runFrom executed)
  exact ⟨delivers.commands, delivers⟩

end Frames

section Meadow

open Rational

/-- A frame without input that lasts `deltaTime`. -/
def Rational.idleInput (deltaTime : ℚ) : FrameInput ℚ where
  deltaTime
  world := 0
  leftMousePressed := false
  dtScaleClicked _ := false
  enemySelected _ := false
  enemiesToSpawn count := count
  spawnClicked := false
  despawnClicked := false
  addGoldClicked := false
  towerClicked _ := false

/-- Three frames: an enemy is requested, all enemies are despawned after two
steps, and gold is requested after one more step. -/
def Rational.clicks : List (FrameInput ℚ) :=
  [{ idleInput 0 with enemiesToSpawn := fun _ => 1, spawnClicked := true, addGoldClicked := true },
    { idleInput (1 / 10) with despawnClicked := true },
    { idleInput (1 / 60) with addGoldClicked := true }]

/-- The first of the two steps of the second frame receives both commands, the
step of the third frame receives the next one, and the last one stays queued. -/
theorem clicks_deliver : ∃ process record game outputs,
    meadowBoot.fromMap platform 10 = .ok (process, record) ∧
    runFrom (Game.update platform 10) (Game.initialized process meadowBoot.otherBuffer) clicks =
      .ok (game, outputs) ∧
    ((stepRecords outputs.flatten).map fun record => record.commands) =
      [[.debugSpawnEnemy 0, .debugAddGold 100], [], [.debugDespawnAllEnemies]] ∧
    game.gameCommands = [.debugAddGold 100] ∧
    Game.Delivers platform 10 (Game.initialized process meadowBoot.otherBuffer) outputs game := by
  obtain ⟨⟨process, record⟩, loaded, checked⟩ := exists_ok_of_succeedsWith
    (meadowBoot.fromMap platform 10)
    (fun result => succeedsWith (fun (game, outputs) =>
        decide (((stepRecords outputs.flatten).map fun record => record.commands) =
            [[.debugSpawnEnemy 0, .debugAddGold 100], [], [.debugDespawnAllEnemies]] ∧
          game.gameCommands = [.debugAddGold 100]))
      (runFrom (Game.update platform 10) (Game.initialized result.1 meadowBoot.otherBuffer) clicks))
    (by decide +kernel)
  obtain ⟨⟨game, outputs⟩, executed, found⟩ := exists_ok_of_succeedsWith _ _ checked
  obtain ⟨batches, queued⟩ := of_decide_eq_true found
  exact ⟨process, record, game, outputs, loaded, executed, batches, queued,
    (Game.frames_deliver executed).2⟩

end Meadow

end TowerDefence
