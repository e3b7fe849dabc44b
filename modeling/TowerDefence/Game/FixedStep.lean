import Mathlib.Algebra.Order.Archimedean.Basic
import Mathlib.Tactic.Linarith
import TowerDefence.Foundations.Accumulator
import TowerDefence.Game.Delivery
import TowerDefence.Step.Movement

/-!
# The fixed time step

A frame adds its scaled time to an accumulator and executes one step for every
`FIXED_DELTA` that the accumulator exceeds.  In exact arithmetic the accumulator
stays settled, so the total time alone decides how many steps have been executed
and what the interpolation sees, however the time is split into frames.
-/

namespace TowerDefence

open Foundations

variable {F R : Type}

/-! ## The loop as a drained accumulator -/

namespace Game

section Loop

variable [Arithmetic F] [Glm F] {platform : Platform F R} {stepFuel fuel : Nat}
variable {game game' : Game F R} {actions : List (Action F)}

/-- Execute `count` fixed steps, whatever the accumulator holds. -/
def stepTimes (platform : Platform F R) (stepFuel : Nat) :
    (count : Nat) → Game F R → Exec (Game F R × List (Action F))
  | 0, game => pure (game, [])
  | count + 1, game => do
      let (game, actions) ← fixedStep platform stepFuel game
      let (game, laterActions) ← stepTimes platform stepFuel count game
      pure (game, actions ++ laterActions)

/-- One fixed step takes one portion from the accumulator. -/
theorem fixedStep_accumulator (executed : game.fixedStep platform stepFuel = .ok (game', actions)) :
    game'.accumulatedDelta = game.accumulatedDelta - fixedDelta ∧
      game'.selectedDtScaleIdx = game.selectedDtScaleIdx ∧ (stepRecords actions).length = 1 := by
  simp only [fixedStep, bind_eq_ok, pure_eq_ok, Prod.mk.injEq] at executed
  rcases executed with ⟨⟨process, events, record⟩, _, rfl, rfl⟩
  refine ⟨rfl, rfl, ?_⟩
  have noStep : stepRecords (events.flatMap scanEvent) = [] := (scanEvents_read events).2.1
  show (record :: stepRecords (events.flatMap scanEvent)).length = 1
  rw [noStep, List.length_singleton]

end Loop

section Drain

variable [Field F] [LinearOrder F] [Glm F]
variable {platform : Platform F R} {stepFuel fuel : Nat}
variable {game game' : Game F R} {actions : List (Action F)}

/-- The loop drains the accumulator and executes one step for every portion. -/
theorem fixedSteps_drained
    (executed : fixedSteps platform stepFuel fuel game = .ok (game', actions)) :
    Drained fixedDelta game.accumulatedDelta (stepRecords actions).length
        game'.accumulatedDelta ∧
      game'.selectedDtScaleIdx = game.selectedDtScaleIdx := by
  apply fixedSteps_rule ?_ ?_ executed
  · intro game enough
    exact ⟨.stop enough, rfl⟩
  · intro game middle last first later exceeds stepped ih
    obtain ⟨left, selected, one⟩ := fixedStep_accumulator stepped
    obtain ⟨rest, sameSelected⟩ := ih
    rw [left] at rest
    rw [stepRecords_append, List.length_append, one, Nat.add_comm]
    exact ⟨.take exceeds rest, sameSelected.trans selected⟩

/-- With enough fuel for the portions in the accumulator the loop executes exactly
that many steps: its own condition never makes it run out of fuel. -/
theorem fixedSteps_eq_stepTimes {amount rest : F} {count : Nat}
    (drained : Drained fixedDelta amount count rest) (game : Game F R)
    (accumulated : game.accumulatedDelta = amount) (enough : count ≤ fuel) :
    fixedSteps platform stepFuel fuel game = stepTimes platform stepFuel count game := by
  induction drained generalizing game fuel with
  | stop atMost =>
      rw [← accumulated] at atMost
      cases fuel with
      | zero => rw [fixedSteps, if_neg atMost, stepTimes]
      | succ fuel => rw [fixedSteps, if_neg atMost, stepTimes]
  | take exceeds _ ih =>
      rw [← accumulated] at exceeds
      cases fuel with
      | zero => exact absurd enough (Nat.not_succ_le_zero _)
      | succ fuel =>
          rw [fixedSteps, if_pos exceeds, stepTimes]
          cases executed : game.fixedStep platform stepFuel with
          | error fault => rfl
          | ok stepped =>
              have left := (fixedStep_accumulator executed).1
              rw [accumulated] at left
              have rest := ih stepped.1 left (Nat.le_of_succ_le_succ enough)
              show (fixedSteps platform stepFuel fuel stepped.1 >>= _) = _
              rw [rest]
              rfl

end Drain

/-! ## Frames -/

section Frame

variable [Arithmetic F] [Glm F] {platform : Platform F R} {fuel : Nat}

/-- The time that a frame adds to the accumulator. -/
def scaledTime (selectedDtScaleIdx : Nat) (input : FrameInput F) : F :=
  input.deltaTime * dtScaleFactors.getD selectedDtScaleIdx 0

/-- The times that consecutive frames add.  The scale that a frame selects applies
from the next frame on. -/
def scaledTimes (selectedDtScaleIdx : Nat) : List (FrameInput F) → List F
  | [] => []
  | input :: inputs =>
      scaledTime selectedDtScaleIdx input ::
        scaledTimes (selectClicked input.dtScaleClicked (dtScaleFactors (F := F)).length
          selectedDtScaleIdx) inputs

/-- The amount with which a frame interpolates, by the accumulator it leaves. -/
def interpolationAmount (game : Game F R) : F :=
  Glm.smoothstep 0 fixedDelta game.accumulatedDelta

/-- The drawn state is interpolated with `interpolationAmount`. -/
theorem update_interpolates {game game' : Game F R} {input : FrameInput F}
    {actions : List (Action F)}
    (executed : game.update platform fuel input = .ok (game', actions)) :
    ∃ outState, game'.process.session.interpolateState outState game'.interpolationAmount fuel =
      .ok game'.interpolatedState := by
  simp only [update, bind_eq_ok, pure_eq_ok, Prod.mk.injEq] at executed
  obtain ⟨_, _, ⟨stepped, _⟩, _, _, interpolated, _, _, _, _, _, _, _, _, _, _, rfl, _⟩ := executed
  exact ⟨stepped.interpolatedState, interpolated⟩

end Frame

section Run

variable [Field F] [LinearOrder F] [Glm F] {platform : Platform F R} {fuel : Nat}

/-- A frame fills the accumulator by its scaled time and drains it. -/
theorem update_drained {game game' : Game F R} {input : FrameInput F} {actions : List (Action F)}
    (executed : game.update platform fuel input = .ok (game', actions)) :
    Drained fixedDelta (game.accumulatedDelta + scaledTime game.selectedDtScaleIdx input)
        (stepRecords actions).length game'.accumulatedDelta ∧
      game'.selectedDtScaleIdx = selectClicked input.dtScaleClicked
        (dtScaleFactors (F := F)).length game.selectedDtScaleIdx := by
  simp only [update, bind_eq_ok, pure_eq_ok, readAt_eq_ok, Prod.mk.injEq] at executed
  obtain ⟨scale, selected, ⟨stepped, steps⟩, looped, _, _, _, _, _, _, _, _, _, _, _, _, rfl,
    rfl⟩ := executed
  have noStep : ∀ commands : List (GameCommand F), stepRecords (commands.map Action.enqueue) = [] :=
    fun commands => (enqueues_read commands).2.1
  rw [stepRecords_append, noStep, List.append_nil]
  have scaled : scaledTime game.selectedDtScaleIdx input = input.deltaTime * scale := by
    rw [scaledTime, List.getD_eq_getElem?_getD, selected, Option.getD_some]
  rw [scaled]
  obtain ⟨drained, sameSelected⟩ := fixedSteps_drained looped
  exact ⟨drained, congrArg (selectClicked input.dtScaleClicked _) sameSelected⟩

variable [IsStrictOrderedRing F]

omit [Glm F] in
theorem fixedDelta_pos : (0 : F) < fixedDelta := by
  show (0 : F) < 1 / ((30 : ℚ) : F)
  norm_num

/-- The accumulator stays settled over all frames. -/
theorem run_settled {start finish : Game F R} {inputs : List (FrameInput F)}
    {outputs : List (List (Action F))} {total : F} {count : Nat}
    (settled : Settled fixedDelta total count start.accumulatedDelta)
    (forward : ∀ time ∈ scaledTimes start.selectedDtScaleIdx inputs, 0 ≤ time)
    (executed : runFrom (update platform fuel) start inputs = .ok (finish, outputs)) :
    Settled fixedDelta (total + (scaledTimes start.selectedDtScaleIdx inputs).sum)
      (count + (stepRecords outputs.flatten).length) finish.accumulatedDelta := by
  induction inputs generalizing start outputs total count with
  | nil =>
      cases executed
      rw [scaledTimes, List.sum_nil, add_zero]
      exact settled
  | cons input inputs ih =>
      obtain ⟨middle, actions, later, updated, continued, rfl⟩ := exists_of_runFrom_cons executed
      obtain ⟨drained, selected⟩ := update_drained updated
      have here := settled.drain (forward _ List.mem_cons_self) drained
      have rest := ih here (fun time member => forward time (by
        rw [selected] at member
        exact List.mem_cons_of_mem _ member)) continued
      rw [scaledTimes, List.sum_cons, ← add_assoc, List.flatten_cons, stepRecords_append,
        List.length_append, ← Nat.add_assoc, ← selected]
      exact rest

/-- An initialized game starts with an empty accumulator at the normal speed. -/
theorem initialized_settled {process : Process F R} {interpolatedState : GameState F R}
    {game : Game F R} {inputs : List (FrameInput F)} {outputs : List (List (Action F))}
    (forward : ∀ time ∈ scaledTimes 3 inputs, 0 ≤ time)
    (executed : runFrom (update platform fuel) (initialized process interpolatedState) inputs =
      .ok (game, outputs)) :
    Settled fixedDelta (scaledTimes 3 inputs).sum (stepRecords outputs.flatten).length
      game.accumulatedDelta := by
  have settled := run_settled (.empty fixedDelta_pos.le) forward executed
  rw [zero_add, Nat.zero_add] at settled
  exact settled

end Run

end Game

/-! ## Frame-rate independence -/

/-- `glm::smoothstep` as documented: Hermite interpolation of the clamped position
of the value between the two edges. -/
structure ExactSmoothstep (F : Type) [Field F] [LinearOrder F] [Glm F] : Prop where
  hermite : ∀ low high value : F, low < high →
    Glm.smoothstep low high value =
      let amount := max 0 (min 1 ((value - low) / (high - low)))
      amount * amount * (3 - 2 * amount)

section Exact

variable [Field F] [LinearOrder F] [IsStrictOrderedRing F] [Glm F]

theorem ExactSmoothstep.mem_unit (exact : ExactSmoothstep F) {low high : F} (ordered : low < high)
    (value : F) : 0 ≤ Glm.smoothstep low high value ∧ Glm.smoothstep low high value ≤ 1 := by
  rw [exact.hermite low high value ordered]
  let amount := max 0 (min 1 ((value - low) / (high - low)))
  have nonneg : 0 ≤ amount := le_max_left _ _
  have le_one : amount ≤ 1 := max_le zero_le_one (min_le_left _ _)
  have remaining : 0 ≤ 1 - amount := sub_nonneg.mpr le_one
  show 0 ≤ amount * amount * (3 - 2 * amount) ∧ amount * amount * (3 - 2 * amount) ≤ 1
  constructor
  · have slope : 0 ≤ 3 - 2 * amount := by linarith
    positivity
  · have missing : 0 ≤ (1 - amount) * (1 - amount) * (1 + 2 * amount) := by positivity
    calc amount * amount * (3 - 2 * amount)
        = 1 - (1 - amount) * (1 - amount) * (1 + 2 * amount) := by ring
      _ ≤ 1 := sub_le_self 1 missing

/-- However time is split into frames, the executed steps and the accumulator
account for all of it, the accumulator never exceeds a step, and the loop of the
next frame terminates.  The counted records are those of the steps that the session
took.  Two sequences of frames with the same total time have
executed the same number of steps and interpolate by the same amount. -/
theorem Game.frame_rate_independent [Archimedean F] (exact : ExactSmoothstep F)
    (platform : Platform F R) (fuel : Nat) (process : Process F R)
    (interpolatedState : GameState F R) (inputs : List (FrameInput F)) (game : Game F R)
    (outputs : List (List (Action F))) (forward : ∀ time ∈ scaledTimes 3 inputs, 0 ≤ time)
    (executed : runFrom (update platform fuel) (initialized process interpolatedState) inputs =
      .ok (game, outputs)) :
    Run (Process.step platform fuel) process
      ((stepRecords outputs.flatten).map fun record => record.commands)
      (stepRecords outputs.flatten) game.process ∧
    ((stepRecords outputs.flatten).length * fixedDelta + game.accumulatedDelta =
        (scaledTimes 3 inputs).sum ∧
      0 ≤ game.accumulatedDelta ∧ game.accumulatedDelta ≤ fixedDelta ∧
      0 ≤ game.interpolationAmount ∧ game.interpolationAmount ≤ 1) ∧
    (∀ input : FrameInput F, ∃ count, ∀ loopFuel stepFuel, count ≤ loopFuel →
      let filled := { game with
        accumulatedDelta :=
          game.accumulatedDelta + scaledTime game.selectedDtScaleIdx input }
      fixedSteps platform stepFuel loopFuel filled = stepTimes platform stepFuel count filled) ∧
    ∀ (otherPlatform : Platform F R) (otherFuel : Nat) (otherProcess : Process F R)
      (otherState : GameState F R) (otherInputs : List (FrameInput F)) (otherGame : Game F R)
      (otherOutputs : List (List (Action F))),
      (∀ time ∈ scaledTimes 3 otherInputs, 0 ≤ time) →
      runFrom (update otherPlatform otherFuel) (initialized otherProcess otherState) otherInputs =
        .ok (otherGame, otherOutputs) →
      (scaledTimes 3 otherInputs).sum = (scaledTimes 3 inputs).sum →
      (stepRecords otherOutputs.flatten).length = (stepRecords outputs.flatten).length ∧
        otherGame.accumulatedDelta = game.accumulatedDelta ∧
        otherGame.interpolationAmount = game.interpolationAmount := by
  have settled := initialized_settled forward executed
  refine ⟨(run_delivers rfl (Run.of_runFrom executed)).run,
    ⟨?_, settled.nonneg, settled.le_portion, exact.mem_unit fixedDelta_pos _⟩, ?_, ?_⟩
  · rw [← nsmul_eq_mul]
    exact settled.balance
  · intro input
    obtain ⟨count, rest, drained⟩ := Drained.exists_of_pos fixedDelta_pos
      (game.accumulatedDelta + scaledTime game.selectedDtScaleIdx input)
    exact ⟨count, fun loopFuel stepFuel enough => fixedSteps_eq_stepTimes drained _ rfl enough⟩
  · intro _ _ _ _ otherInputs otherGame otherOutputs otherForward otherExecuted same
    have other := initialized_settled otherForward otherExecuted
    rw [same] at other
    obtain ⟨sameCount, sameRest⟩ := other.unique settled
    exact ⟨sameCount, sameRest, congrArg (Glm.smoothstep 0 fixedDelta) sameRest⟩

end Exact

section Meadow

open Rational

/-- One frame without input that lasts as long as the three frames of `clicks`. -/
def Rational.pause : List (FrameInput ℚ) := [idleInput (7 / 60)]

theorem Rational.exactSmoothstep : ExactSmoothstep ℚ where
  hermite _ _ _ _ := rfl

/-- Three frames and a single frame of the same total time execute three steps. -/
theorem clicks_and_pause : ∃ process record game outputs otherGame otherOutputs,
    meadowBoot.fromMap platform 10 = .ok (process, record) ∧
    runFrom (Game.update platform 10) (Game.initialized process meadowBoot.otherBuffer) clicks =
      .ok (game, outputs) ∧
    runFrom (Game.update platform 10) (Game.initialized process meadowBoot.otherBuffer) pause =
      .ok (otherGame, otherOutputs) ∧
    (stepRecords outputs.flatten).length = 3 ∧
    (stepRecords otherOutputs.flatten).length = (stepRecords outputs.flatten).length ∧
    otherGame.interpolationAmount = game.interpolationAmount := by
  obtain ⟨⟨process, record⟩, loaded, checked⟩ := exists_ok_of_succeedsWith
    (meadowBoot.fromMap platform 10)
    (fun result => succeedsWith (fun (_, outputs) =>
        decide ((stepRecords outputs.flatten).length = 3))
        (runFrom (Game.update platform 10) (Game.initialized result.1 meadowBoot.otherBuffer)
          clicks) &&
      succeedsWith (fun _ => true)
        (runFrom (Game.update platform 10) (Game.initialized result.1 meadowBoot.otherBuffer)
          pause))
    (by decide +kernel)
  obtain ⟨first, second⟩ := Bool.and_eq_true_iff.mp checked
  obtain ⟨⟨game, outputs⟩, executed, three⟩ := exists_ok_of_succeedsWith _ _ first
  obtain ⟨⟨otherGame, otherOutputs⟩, otherExecuted, _⟩ := exists_ok_of_succeedsWith _ _ second
  obtain ⟨_, _, _, alike⟩ := Game.frame_rate_independent exactSmoothstep platform 10 process
    meadowBoot.otherBuffer clicks game outputs (by decide +kernel) executed
  have same := alike platform 10 process meadowBoot.otherBuffer pause otherGame otherOutputs
    (by decide +kernel) otherExecuted (by decide +kernel)
  exact ⟨process, record, game, outputs, otherGame, otherOutputs, loaded, executed, otherExecuted,
    of_decide_eq_true three, same.1, same.2.2⟩

end Meadow

end TowerDefence
