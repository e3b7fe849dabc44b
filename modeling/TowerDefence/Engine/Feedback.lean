import TowerDefence.Engine.Frames
import TowerDefence.Game.FixedStep
import TowerDefence.Session.Deaths
import TowerDefence.Session.Spawning

/-!
# What the player is told

Every frame shows the gold and the lives of the player and plays a sound for each death that its
steps announce.  The gold shown is what the commands, the towers and the deaths so far leave of
the gold at the start, and a reward that is paid is heard in the frame that pays it.
-/

namespace TowerDefence

open Foundations RenderContextDX11

variable {F R : Type}

/-! ## The sounds -/

/-- The action plays the sound of a death. -/
def Action.isDeathSound : Action F → Bool
  | .playEnemyDeathSound => true
  | _ => false

/-- How often the sound of a death is played. -/
def deathSounds (actions : List (Action F)) : Nat := actions.countP Action.isDeathSound

theorem deathSounds_append (actions later : List (Action F)) :
    deathSounds (actions ++ later) = deathSounds actions + deathSounds later :=
  List.countP_append

/-- The handler loop plays the sound once for every death among the events. -/
theorem deathSounds_scanEvents (events : List (GameEvent F)) :
    deathSounds (events.flatMap Game.scanEvent) = (events.filter GameEvent.isDeath).length := by
  induction events with
  | nil => rfl
  | cons event events ih =>
      rw [List.flatMap_cons, deathSounds_append, ih]
      cases event with
      | enemyDied enemyIndex => exact Nat.add_comm 1 _
      | towerBuilt position typeIdx => exact Nat.zero_add _
      | projectileLaunched position typeIdx => exact Nat.zero_add _
      | projectileHit position enemyIndex typeIdx => exact Nat.zero_add _

theorem deathSounds_stepActions (records : List (StepRecord F)) :
    deathSounds (records.flatMap stepActions) =
      (records.flatMap fun record => record.events.filter GameEvent.isDeath).length := by
  induction records with
  | nil => rfl
  | cons record records ih =>
      have sounds : deathSounds (stepActions record) =
          (record.events.filter GameEvent.isDeath).length := deathSounds_scanEvents record.events
      rw [List.flatMap_cons, List.flatMap_cons, deathSounds_append, List.length_append, sounds, ih]

theorem deathSounds_enqueues (commands : List (GameCommand F)) :
    deathSounds (commands.map Action.enqueue) = 0 := by
  apply List.countP_eq_zero.mpr
  intro action member
  obtain ⟨command, _, rfl⟩ := List.mem_map.mp member
  exact Bool.false_ne_true

/-! ## Frames of the game -/

section Game

variable [Arithmetic F] [Glm F] {platform : Platform F R} {fuel : Nat} {game game' : Game F R}
  {input : FrameInput F} {actions : List (Action F)}

/-- The player is shown the gold and the lives of the newest state. -/
theorem Game.update_playerState
    (executed : game.update platform fuel input = .ok (game', actions)) :
    game'.interpolatedState.playerState = game'.process.session.next.playerState := by
  obtain ⟨outState, interpolated⟩ := update_interpolates executed
  simp only [GameSession.interpolateState, GameState.interpolate, bind_eq_ok, pure_eq_ok]
    at interpolated
  obtain ⟨_, _, _, _, _, _, same⟩ := interpolated
  rw [← same]

end Game

section Books

variable [Field F] [LinearOrder F] [Glm F] {platform : Platform F R} {fuel : Nat}

/-- The sounds of a frame are those of the deaths in its steps. -/
theorem Game.update_sounds {game game' : Game F R} {input : FrameInput F}
    {actions : List (Action F)} (quiet : game.gameEvents = [])
    (executed : game.update platform fuel input = .ok (game', actions)) :
    deathSounds actions = (killingStrikes (history (stepRecords actions))).length := by
  obtain ⟨⟨records, commands, rest, shape, run, _, _⟩, _⟩ := update_trace quiet executed
  have steps : stepRecords actions = records := by
    rw [shape]
    exact stepRecords_frame records commands
  have announced := World.run_announcements (Process.run_refines platform fuel run).1
  rw [steps, shape, deathSounds_append, deathSounds_stepActions, deathSounds_enqueues, announced,
    List.length_map, Nat.add_zero]

/-- The gold after some frames is what their steps leave of it, and the lives stay. -/
theorem Game.run_books {start finish : Game F R} {inputs : List (FrameInput F)}
    {outputs : List (List (Action F))} (quiet : start.gameEvents = [])
    (run : Run (update platform fuel) start inputs outputs finish) :
    finish.process.session.next.playerState.gold =
        start.process.session.next.playerState.gold +
          start.process.session.mapData.income
            ((stepRecords outputs.flatten).flatMap fun step => step.commands)
            (history (stepRecords outputs.flatten)) ∧
      finish.process.session.next.playerState.lives =
        start.process.session.next.playerState.lives := by
  have steps := (Process.run_refines platform fuel (run_delivers quiet run).run).1
  refine ⟨?_, World.run_lives steps⟩
  rw [List.flatMap_def]
  exact World.run_balanced steps

/-- The steps up to a frame receive commands that the frames before it have asked for. -/
theorem Game.run_asked {start middle finish : Game F R} {inputs : List (FrameInput F)}
    {outputs : List (List (Action F))} {input : FrameInput F} {actions : List (Action F)}
    (quiet : start.gameEvents = []) (run : Run (update platform fuel) start inputs outputs middle)
    (executed : middle.update platform fuel input = .ok (finish, actions)) :
    ((stepRecords (outputs ++ [actions]).flatten).flatMap fun step => step.commands) <+:
      start.gameCommands ++ enqueuedCommands outputs.flatten := by
  have delivers := run_delivers quiet run
  obtain ⟨⟨records, commands, rest, shape, _, drains, _⟩, _⟩ :=
    update_trace delivers.quiet executed
  have steps : stepRecords actions = records := by
    rw [shape]
    exact stepRecords_frame records commands
  have drained : (records.flatMap fun record => record.commands) ++ rest =
      middle.gameCommands := drains.flatten_append
  refine ⟨rest, ?_⟩
  rw [← delivers.commands, ← drained, List.flatten_append, List.flatten_singleton,
    stepRecords_append, steps, List.flatMap_append, List.append_assoc]

/-! ## Frames of the engine -/

/-- The steps of the frames up to a frame. -/
def stepsUpTo (past : List (FrameRecord F R)) (record : FrameRecord F R) : List (StepRecord F) :=
  stepRecords ((past ++ [record]).flatMap FrameRecord.actions)

/-- What a frame tells the player, after the frames before it: the gold that the steps so far leave
of the gold at the start, where their commands are the first of those that were asked for; the
lives at the start; and the sounds of the deaths that the steps of this frame reward. -/
structure Tells (mapData : MapData F) (start : PlayerState F) (past : List (FrameRecord F R))
    (record : FrameRecord F R) : Prop where
  gold : record.interpolatedState.playerState.gold = start.gold +
    mapData.income ((stepsUpTo past record).flatMap fun step => step.commands)
      (history (stepsUpTo past record))
  asked : ((stepsUpTo past record).flatMap fun step => step.commands) <+:
    enqueuedCommands (past.flatMap FrameRecord.actions)
  lives : record.interpolatedState.playerState.lives = start.lives
  sounds : deathSounds record.actions =
    (killingStrikes (history (stepRecords record.actions))).length

variable [GlmTransform F] {mappings : ScancodeMappings}
  {std : ComparisonSort (SpriteDrawRequest F TextureData)}

/-- In every frame the player is told the truth: the gold shown is what the executed commands, the
towers and the deaths so far leave of the gold at the start, the lives are those at the start, and
the sounds are as many as the deaths that the steps of the frame reward. -/
theorem Engine.runInternal_tells {process : Process F R} {interpolatedState : GameState F R}
    {render : RenderContextDX11} {tilesetHelper : List (Tileset F TextureData)}
    {staticMapDrawList : List (SpriteDrawRequest F TextureData)} {finish : Engine F R}
    {frames : List (FrameEvents F)} {records : List (FrameRecord F R)} (ints : mappings.Ints)
    (executed : runInternal mappings platform std fuel
      (initialized (.initialized process interpolatedState) render tilesetHelper
        staticMapDrawList) frames = .ok (finish, records)) :
    EachAfter (Tells process.session.mapData process.session.next.playerState) records := by
  refine run_eachAfter (run_of_runInternal executed) ?_
  intro past pastRecords engine given trace before
  obtain ⟨games, between⟩ := run_refines ints (.initialized rfl) before
  obtain ⟨gold, lives⟩ := Game.run_books rfl (games.snoc trace.updated)
  have shown : trace.shown.interpolatedState.playerState =
      trace.game.process.session.next.playerState := Game.update_playerState trace.updated
  have steps : stepsUpTo pastRecords trace.shown =
      stepRecords (pastRecords.map FrameRecord.actions ++ [trace.actions]).flatten := by
    rw [stepsUpTo, List.flatMap_def, List.map_append]
    rfl
  refine ⟨?_, ?_, ?_, Game.update_sounds between.quiet trace.updated⟩
  · rw [shown, steps]
    exact gold
  · rw [steps, List.flatMap_def (l := pastRecords)]
    exact Game.run_asked rfl games trace.updated
  · rw [shown]
    exact lives

end Books

/-! ## A soldier -/

section Clearing

open Rational Engine

/-- The step of the first frame kills the soldier: it is heard, and the reward is shown. -/
theorem Engine.soldier_tells : ∃ process records finish shown,
    clearing.play platform 10 ((duel 0 0).take 3) = .ok (process, records) ∧
    runInternal (fun _ => KeyCode.any.value) platform .merge 10 (clearingEngine process)
      [clickAndQuit, clickAndQuit] = .ok (finish, [shown]) ∧
    process.session.next.playerState.gold = 15 ∧
    shown.interpolatedState.playerState.gold = 22 ∧ deathSounds shown.actions = 1 ∧
    Tells process.session.mapData process.session.next.playerState [] shown := by
  obtain ⟨⟨process, records⟩, played, poor⟩ := exists_ok_of_succeedsWith
    (clearing.play platform 10 ((duel 0 0).take 3))
    (fun result => decide (result.1.session.next.playerState.gold = 15)) (by decide +kernel)
  obtain ⟨sameProcess, _, finish, shown, samePlayed, executed, _, told⟩ :=
    exists_frame (clearing.play platform 10 ((duel 0 0).take 3)) (fun _ => KeyCode.any.value)
      (fun shown => decide (shown.interpolatedState.playerState.gold = 22 ∧
        deathSounds shown.actions = 1))
      pointed_centered (by decide +kernel)
  rw [played] at samePlayed
  cases samePlayed
  obtain ⟨rich, heard⟩ := of_decide_eq_true told
  exact ⟨process, records, finish, shown, played, executed, of_decide_eq_true poor, rich, heard,
    runInternal_tells ScancodeMappings.any_ints executed [] shown [] rfl⟩

end Clearing

end TowerDefence
