import TowerDefence.Model.Session
import TowerDefence.Step.Context

/-!
# The double buffer refines a pure step

`World.step` advances a game state by one batch of commands in a frame of its
own.  A session computes the same states: its two buffers are the results of the
last two applications of the pure step, whatever the buffers and the scratch
vector held before the session was loaded.
-/

namespace TowerDefence

open Foundations

variable {F R : Type}

/-- What a step depends on besides the state and the commands. -/
structure World (F R : Type) where
  platform : Platform F R
  mapData : MapData F
  fixedDelta : F
  fuel : Nat

namespace World

/-- The frame in which a step starts. -/
def startFrame (state : GameState F R) : Frame F R where
  next := state
  enemyQueryStorage := []
  outGameEvents := []
  deeds := []

variable [Arithmetic F] [Glm F]

/-- One step as a pure function of the state and the commands. -/
def step (world : World F R) (state : GameState F R) (commands : List (GameCommand F)) :
    Exec (GameState F R × StepRecord F) := do
  let frame ← GameState.timeStep world.platform world.mapData state commands world.fixedDelta
    world.fuel { next := state, enemyQueryStorage := [], outGameEvents := [], deeds := [] }
  pure (frame.next, { commands, events := frame.outGameEvents, deeds := frame.deeds })

/-- One application of the pure step for every batch of commands. -/
def iterate (world : World F R) (state : GameState F R)
    (batches : List (List (GameCommand F))) : Exec (GameState F R) :=
  batches.foldlM (fun state commands => do
    let (state, _) ← world.step state commands
    pure state) state

theorem iterate_cons (world : World F R) (state : GameState F R)
    (commands : List (GameCommand F)) (batches : List (List (GameCommand F))) :
    world.iterate state (commands :: batches) = (do
      let (state, _) ← world.step state commands
      world.iterate state batches) := by
  rw [iterate, List.foldlM_cons, bind_assoc]
  rfl

theorem iterate_append_single (world : World F R) (state : GameState F R)
    (batches : List (List (GameCommand F))) (commands : List (GameCommand F)) :
    world.iterate state (batches ++ [commands]) = (do
      let state ← world.iterate state batches
      let (state, _) ← world.step state commands
      pure state) := by
  rw [iterate, List.foldlM_append]
  simp only [List.foldlM_cons, List.foldlM_nil, bind_pure]
  rfl

end World

/-- The parameters of the steps a process executes. -/
def Process.world (platform : Platform F R) (fuel : Nat) (process : Process F R) : World F R where
  platform
  mapData := process.session.mapData
  fixedDelta := process.session.fixedDelta
  fuel

/-- The parameters of the steps of a loaded session. -/
def Boot.world (platform : Platform F R) (fuel : Nat) (boot : Boot F R) : World F R where
  platform
  mapData := boot.mapData
  fixedDelta := boot.fixedTimeDelta
  fuel

variable [Arithmetic F] [Glm F] (platform : Platform F R) (fuel : Nat)

/-- How a process and a pure state correspond after one step: the process that
stepped is `before`. -/
structure StepRefines (platform : Platform F R) (fuel : Nat) (before : Process F R)
    (concrete : Process F R × StepRecord F) (pure : GameState F R × StepRecord F) : Prop where
  next : concrete.1.session.next = pure.1
  prev : concrete.1.session.prev = before.session.next
  world : concrete.1.world platform fuel = before.world platform fuel
  record : concrete.2 = pure.2

/-- One step of a process is one pure step of its newest state. -/
theorem Process.step_refines (process : Process F R) (commands : List (GameCommand F)) :
    Agree (StepRefines platform fuel process) (process.step platform fuel commands)
      ((process.world platform fuel).step process.session.next commands) := by
  simp only [Process.step, Process.timeStep, World.step, bind_assoc]
  -- the process writes into its older buffer, the pure step into a copy
  have stepped := GameState.timeStep_inContext [] platform process.session.mapData
    process.session.next commands process.session.fixedDelta fuel
    ⟨process.session.prev, process.enemyQueryStorage, [], []⟩ ⟨process.session.next, [], [], []⟩
    rfl rfl
  apply Agree.bind stepped
  intro frame reference context
  apply Agree.ok
  refine ⟨?_, ?_, rfl, ?_⟩
  · simp [GameSession.next, context.next]
  · simp [GameSession.next, GameSession.prev,
      Function.update_of_ne process.session.distinct.symm]
  · simp [context.events, context.deeds]

/-- The two buffers after a step: the newest state before it, and the result of
the pure step. -/
theorem Process.step_buffers (process : Process F R) (commands : List (GameCommand F)) :
    (fun result => (result.1.session.prev, result.1.session.next)) <$>
        process.step platform fuel commands = (do
      let (next, _) ← (process.world platform fuel).step process.session.next commands
      pure (process.session.next, next)) := by
  rw [map_eq_pure_bind]
  apply (process.step_refines platform fuel commands).bind_eq
  intro concrete pureResult _ _ refines
  rw [refines.next, refines.prev]

/-- A run of a process is a run of the pure step. -/
theorem Process.run_refines {start finish : Process F R}
    {batches : List (List (GameCommand F))} {records : List (StepRecord F)}
    (run : Run (Process.step platform fuel) start batches records finish) :
    Run (start.world platform fuel).step start.session.next batches records
        finish.session.next ∧
      finish.world platform fuel = start.world platform fuel := by
  induction run with
  | nil => exact ⟨.nil _, rfl⟩
  | @snoc state next inputs outputs input output _ stepped ih =>
      rcases ih with ⟨run, sameWorld⟩
      obtain ⟨⟨pureNext, record⟩, pureStep, refines⟩ :=
        (state.step_refines platform fuel input).exists_ok stepped
      have sameRecord : output = record := refines.record
      have sameNext : next.session.next = pureNext := refines.next
      subst sameRecord sameNext
      rw [sameWorld] at pureStep
      exact ⟨.snoc run pureStep, refines.world.trans sameWorld⟩

/-- The last step of a run leads from the older buffer to the newer one, and a run
of the pure step leads to the older buffer. -/
theorem Process.last_step {start finish : Process F R} {batches : List (List (GameCommand F))}
    {records : List (StepRecord F)} (nonempty : batches ≠ [])
    (run : Run (Process.step platform fuel) start batches records finish) :
    ∃ earlier commands earlierRecords record, batches = earlier ++ [commands] ∧
      records = earlierRecords ++ [record] ∧
      Run (start.world platform fuel).step start.session.next earlier earlierRecords
        finish.session.prev ∧
      (start.world platform fuel).step finish.session.prev commands =
        .ok (finish.session.next, record) := by
  cases run with
  | nil => exact absurd rfl nonempty
  | @snoc before _ earlier earlierRecords commands record run stepped =>
      obtain ⟨pureRun, sameWorld⟩ := Process.run_refines platform fuel run
      obtain ⟨⟨next, pureRecord⟩, pureStep, refines⟩ :=
        (before.step_refines platform fuel commands).exists_ok stepped
      have sameRecord : record = pureRecord := refines.record
      have sameNext : finish.session.next = next := refines.next
      have samePrev : finish.session.prev = before.session.next := refines.prev
      subst sameRecord sameNext
      rw [sameWorld] at pureStep
      rw [samePrev]
      exact ⟨earlier, commands, earlierRecords, record, rfl, rfl, pureRun, pureStep⟩

/-- Executing a process on batches agrees with iterating the pure step. -/
theorem Process.runFrom_agrees (process : Process F R) (batches : List (List (GameCommand F))) :
    Agree (fun result state => result.1.session.next = state ∧
        result.1.world platform fuel = process.world platform fuel)
      (runFrom (Process.step platform fuel) process batches)
      ((process.world platform fuel).iterate process.session.next batches) := by
  induction batches generalizing process with
  | nil => exact .ok ⟨rfl, rfl⟩
  | cons commands batches ih =>
      rw [runFrom, World.iterate_cons]
      apply Agree.bind (process.step_refines platform fuel commands)
      intro executed pureExecuted refines
      rcases executed with ⟨reached, record⟩
      rcases pureExecuted with ⟨state, pureRecord⟩
      have sameState : reached.session.next = state := refines.next
      have sameWorld : reached.world platform fuel = process.world platform fuel := refines.world
      subst sameState
      have rest := ih reached
      rw [sameWorld] at rest
      exact Agree.map_left rest fun _ _ holds => holds

namespace Boot

variable {boot : Boot F R} {batches : List (List (GameCommand F))}
variable {process : Process F R} {records : List (StepRecord F)}

/-- A played session is the execution of the loaded process on the warm-up batch
and the given ones. -/
theorem play_eq_runFrom (boot : Boot F R) (batches : List (List (GameCommand F))) :
    boot.play platform fuel batches =
      runFrom (Process.step platform fuel) (boot.loaded platform) ([] :: batches) := rfl

/-- A played session is a run of a process that starts with the warm-up step. -/
theorem run_of_play (played : boot.play platform fuel batches = .ok (process, records)) :
    Run (Process.step platform fuel) (boot.loaded platform) ([] :: batches) records process := by
  rw [play_eq_runFrom] at played
  exact Run.of_runFrom played

/-- The newest state of a played session is the end of a run of the pure step
from the starting state. -/
theorem pure_run_of_play
    (played : boot.play platform fuel batches = .ok (process, records)) :
    Run (boot.world platform fuel).step (boot.startState platform) ([] :: batches) records
      process.session.next :=
  (Process.run_refines platform fuel (run_of_play platform fuel played)).1

/-- The newest states of a played session and of a longer one are connected by a
run of the pure step. -/
theorem pure_run_of_play_append {later : List (List (GameCommand F))} {process' : Process F R}
    {records' : List (StepRecord F)}
    (played : boot.play platform fuel batches = .ok (process, records))
    (continued : boot.play platform fuel (batches ++ later) = .ok (process', records')) :
    ∃ rest, Run (boot.world platform fuel).step process.session.next later rest
        process'.session.next ∧ records' = records ++ rest := by
  have sameWorld := (Process.run_refines platform fuel (run_of_play platform fuel played)).2
  rw [play_eq_runFrom] at played continued
  obtain ⟨rest, run, split⟩ := Run.of_runFrom_append played continued
  refine ⟨rest, ?_, split⟩
  have pureRun := (Process.run_refines platform fuel run).1
  rw [sameWorld] at pureRun
  exact pureRun

/-- Where the pure step can be iterated, the session can be played. -/
theorem play_of_iterate {state : GameState F R}
    (iterated : (boot.world platform fuel).iterate (boot.startState platform) ([] :: batches) =
      .ok state) :
    ∃ process records, boot.play platform fuel batches = .ok (process, records) ∧
      process.session.next = state := by
  obtain ⟨⟨process, records⟩, played, related⟩ :=
    ((boot.loaded platform).runFrom_agrees platform fuel ([] :: batches)).exists_ok_left iterated
  exact ⟨process, records, played, related.1⟩

/-- The last step of a played session leads from the older buffer to the newer
one, and a run of the pure step leads to the older buffer. -/
theorem last_step_of_play
    (played : boot.play platform fuel batches = .ok (process, records)) :
    ∃ earlier commands earlierRecords record, [] :: batches = earlier ++ [commands] ∧
      records = earlierRecords ++ [record] ∧
      Run (boot.world platform fuel).step (boot.startState platform) earlier earlierRecords
        process.session.prev ∧
      (boot.world platform fuel).step process.session.prev commands =
        .ok (process.session.next, record) := by
  have last := Process.last_step platform fuel (List.cons_ne_nil _ _)
    (run_of_play platform fuel played)
  have sameWorld : (boot.loaded platform).world platform fuel = boot.world platform fuel := rfl
  have sameStart : (boot.loaded platform).session.next = boot.startState platform := rfl
  rw [sameWorld, sameStart] at last
  exact last

/-- The two buffers of a session are the results of the last two applications of
the pure step to the starting state.  The right-hand side mentions neither the
content of the buffers before loading nor that of the scratch vector. -/
theorem play_doubleBuffer (boot : Boot F R)
    (batches : List (List (GameCommand F))) :
    (fun result => (result.1.session.prev, result.1.session.next)) <$>
        boot.play platform fuel batches = (do
      let prev ← (boot.world platform fuel).iterate (boot.startState platform)
        ([] :: batches).dropLast
      let next ← (boot.world platform fuel).iterate (boot.startState platform) ([] :: batches)
      pure (prev, next)) := by
  obtain ⟨earlier, commands, split⟩ : ∃ earlier commands, [] :: batches = earlier ++ [commands] :=
    ⟨_, _, (List.dropLast_concat_getLast (List.cons_ne_nil [] batches)).symm⟩
  rw [play_eq_runFrom, split, List.dropLast_concat, runFrom_append_single,
    World.iterate_append_single, map_bind]
  apply ((boot.loaded platform).runFrom_agrees platform fuel earlier).bind_eq
  intro played state _ iterated related
  rcases related with ⟨sameState, sameWorld⟩
  have sameWorld : played.1.world platform fuel = boot.world platform fuel := sameWorld
  have iterated : (boot.world platform fuel).iterate (boot.startState platform) earlier =
      .ok state := iterated
  have buffers := played.1.step_buffers platform fuel commands
  rw [sameWorld, sameState] at buffers
  calc
    _ = (fun result => (result.1.session.prev, result.1.session.next)) <$>
          played.1.step platform fuel commands := by
        simp only [map_eq_pure_bind, bind_assoc, pure_bind]
    _ = _ := buffers
    _ = _ := by
        rw [iterated]
        simp only [bind_assoc, pure_bind]
        rfl

end Boot

end TowerDefence
