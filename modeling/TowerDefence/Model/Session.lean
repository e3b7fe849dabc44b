import Mathlib.Data.Fin.VecNotation
import TowerDefence.Foundations.Run
import TowerDefence.Model.GameState
import TowerDefence.Model.Interpolation
import TowerDefence.Model.MapData

/-!
# `GameSession`

A session owns two game states and two pointers to them.  `TimeStep` swaps the
pointers and overwrites the older state.  The scratch vector of
`GameState::TimeStep` is a static local of that function, so it belongs to the
process and not to the session.
-/

namespace TowerDefence

/-- `GameSession`; the draw lists and the tilesets are left out.  The pointers
never point to the same buffer. -/
structure GameSession (F R : Type) where
  mapData : MapData F
  gameStates : Fin 2 → GameState F R
  prevState : Fin 2
  nextState : Fin 2
  distinct : prevState ≠ nextState
  fixedDelta : F

/-- A session together with the static `enemyQueryStorage`. -/
structure Process (F R : Type) where
  session : GameSession F R
  enemyQueryStorage : List Nat

/-- What one step of a session was given and what it did: the commands it
received, the events it emitted and its history. -/
structure StepRecord (F : Type) where
  commands : List (GameCommand F)
  events : List (GameEvent F)
  deeds : List (Deed F)

/-- Everything `GameSession::FromMap` starts from: the loaded map, and whatever
the memory it does not initialise holds.  In the buffer that receives the
starting gold and lives only `playerState` is uninitialised; the other buffer
and the scratch vector may hold anything. -/
structure Boot (F R : Type) where
  mapData : MapData F
  startingGold : Int
  startingLives : Int
  fixedTimeDelta : F
  otherBuffer : GameState F R
  playerState : PlayerState F
  enemyQueryStorage : List Nat

variable {F R : Type}

namespace GameSession

/-- `*m_PrevState`. -/
def prev (session : GameSession F R) : GameState F R := session.gameStates session.prevState

/-- `*m_NextState`. -/
def next (session : GameSession F R) : GameState F R := session.gameStates session.nextState

variable [Arithmetic F] [Glm F]

/-- `GameSession::InterpolateState`. -/
def interpolateState (session : GameSession F R) (outState : GameState F R) (amount : F)
    (fuel : Nat) : Exec (GameState F R) :=
  GameState.interpolate session.prev session.next outState amount fuel

end GameSession

variable [Arithmetic F] [Glm F]

/-- `GameSession::TimeStep`.  The second result is the event queue afterwards. -/
def Process.timeStep (platform : Platform F R) (fuel : Nat) (process : Process F R)
    (commands : List (GameCommand F)) (outGameEvents : List (GameEvent F)) :
    Exec (Process F R × List (GameEvent F) × StepRecord F) := do
  let session := process.session
  let session :=
    { session with
      prevState := session.nextState
      nextState := session.prevState
      distinct := session.distinct.symm }
  let frame ← GameState.timeStep platform session.mapData session.prev commands
    session.fixedDelta fuel
    { next := session.next
      enemyQueryStorage := process.enemyQueryStorage
      outGameEvents
      deeds := [] }
  let session :=
    { session with
      gameStates := Function.update session.gameStates session.nextState frame.next }
  pure
    ({ session, enemyQueryStorage := frame.enemyQueryStorage }, frame.outGameEvents,
      { commands
        events := frame.outGameEvents.drop outGameEvents.length
        deeds := frame.deeds })

/-- One step of a session with an event queue of its own. -/
def Process.step (platform : Platform F R) (fuel : Nat) (process : Process F R)
    (commands : List (GameCommand F)) : Exec (Process F R × StepRecord F) := do
  let (process, _, record) ← process.timeStep platform fuel commands []
  pure (process, record)

namespace Boot

/-- The buffer that receives the starting gold and lives, as `FromMap` leaves it
before the first step. -/
def startState (platform : Platform F R) (boot : Boot F R) : GameState F R :=
  let fresh : GameState F R :=
    { randomEngine := platform.defaultEngine
      playerState := boot.playerState
      enemies := []
      towers := []
      projectiles := []
      nextObjectId := 0 }
  { fresh with
    playerState.gold := ofInt boot.startingGold
    playerState.lives := toU32 boot.startingLives }

/-- The session before the warm-up step of `FromMap`. -/
def loaded (platform : Platform F R) (boot : Boot F R) : Process F R where
  session :=
    { mapData := boot.mapData
      gameStates := ![boot.otherBuffer, boot.startState platform]
      prevState := 0
      nextState := 1
      distinct := by decide
      fixedDelta := boot.fixedTimeDelta }
  enemyQueryStorage := boot.enemyQueryStorage

/-- `GameSession::FromMap`, after the map has been loaded: the session is warmed
up by one step without commands. -/
def fromMap (platform : Platform F R) (fuel : Nat) (boot : Boot F R) :
    Exec (Process F R × StepRecord F) :=
  (boot.loaded platform).step platform fuel []

/-- Load a session and advance it by the given batches of commands. -/
def play (platform : Platform F R) (fuel : Nat) (boot : Boot F R)
    (batches : List (List (GameCommand F))) : Exec (Process F R × List (StepRecord F)) := do
  let (process, warmUp) ← boot.fromMap platform fuel
  let (process, records) ← Foundations.runFrom (Process.step platform fuel) process batches
  pure (process, warmUp :: records)

end Boot

end TowerDefence
