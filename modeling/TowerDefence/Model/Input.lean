import Mathlib.Data.Fintype.Basic
import Mathlib.Logic.Function.Basic
import TowerDefence.Model.Entities

/-!
# Keyboard and mouse input

`Input` keeps three bitsets over the key codes and the motion of the wheel.  It is
driven by the event loop of the engine: a new frame clears what belongs to one
frame, an event that the user interface consumes resets everything, and every
other event is processed.

Scancodes are SDL's: an event carries one below `SDL_NUM_SCANCODES`.  The table
that maps them to key codes is a local array of which only some entries are
assigned, so the model takes what the others hold as a parameter.
-/

namespace TowerDefence

/-- `KeyCode`. -/
inductive KeyCode where
  | any | a | b | c | d | e | f | g | h | i | j | k | l | m | n | o | p | q | r | s | t | u | v
  | w | x | y | z | number1 | number2 | number3 | number4 | number5 | number6 | number7 | number8
  | number9 | number0 | returnKey | escape | backspace | tab | space | minus | equals
  | leftBracket | rightBracket | backslash | semicolon | apostrophe | grave | comma | period
  | slash | capslock | f1 | f2 | f3 | f4 | f5 | f6 | f7 | f8 | f9 | f10 | f11 | f12 | printscreen
  | scrolllock | pause | insert | home | pageUp | delete | endKey | pageDown | right | left
  | down | up | numlock | numPadDivide | numPadMultiply | numPadMinus | numPadPlus | numPadEnter
  | numPad1 | numPad2 | numPad3 | numPad4 | numPad5 | numPad6 | numPad7 | numPad8 | numPad9
  | numPad0 | numPadPeriod | numPadEquals | numPadComma | leftCtrl | leftShift | leftAlt
  | leftGui | rightCtrl | rightShift | rightAlt | rightGui | leftMouseButton | rightMouseButton
  | middleMouseButton | count
  deriving DecidableEq, Repr

/-- The value of an enumerator. -/
def KeyCode.value (key : KeyCode) : Int := key.ctorIdx

/-- `(usize)KeyCode::Count`. -/
def keyCodeCount : Nat := KeyCode.count.ctorIdx

/-- `SDL_Scancode`. -/
abbrev Scancode := Fin 512

/-- The part of an `SDL_Event` that the engine reads. -/
inductive SdlEvent where
  | keyDown (scancode : Scancode)
  | keyUp (scancode : Scancode)
  | mouseButtonDown (button : Nat)
  | mouseButtonUp (button : Nat)
  | mouseWheel (y : Int32)
  | textInput
  | quit
  | other
  deriving DecidableEq, Repr

/-- `WindowEventControlFlow`. -/
inductive WindowEventControlFlow where
  | consumeEvent
  | passthroughEvent
  deriving DecidableEq, Repr

/-- `Input::InputProcessingMode`. -/
inductive InputProcessingMode where
  | passthrough
  | consume
  deriving DecidableEq, Repr

/-! ## Bitsets of keys -/

/-- `Input::KeysBitset`. -/
abbrev KeysBitset := Fin keyCodeCount → Bool

namespace KeysBitset

/-- `reset()`. -/
def empty : KeysBitset := fun _ => false

/-- `set(index, active)`, which throws for an index that is too large. -/
def set (bitset : KeysBitset) (index : Nat) (active : Bool) : Exec KeysBitset :=
  if inRange : index < keyCodeCount then
    pure (Function.update bitset ⟨index, inRange⟩ active)
  else
    .error .outOfBounds

/-- `test(index)`. -/
def test (bitset : KeysBitset) (index : Nat) : Exec Bool :=
  if inRange : index < keyCodeCount then pure (bitset ⟨index, inRange⟩) else .error .outOfBounds

/-- `any()`. -/
def any (bitset : KeysBitset) : Bool := decide (∃ index, bitset index = true)

end KeysBitset

/-! ## The mapping tables -/

/-- `Input::ScancodeMappings`; an entry that was not assigned may hold any value. -/
abbrev ScancodeMappings := Scancode → Int

/-- The assignments of `GenerateScancodeMappings`, in the order of the source. -/
def scancodeAssignments : List (Scancode × KeyCode) :=
  [(4, .a), (5, .b), (6, .c), (7, .d), (8, .e), (9, .f), (10, .g), (11, .h), (12, .i), (13, .j),
   (14, .k), (15, .l), (16, .m), (17, .n), (18, .o), (19, .p), (20, .q), (21, .r), (22, .s),
   (23, .t), (24, .u), (25, .v), (26, .w), (27, .x), (28, .y), (29, .z), (30, .number1),
   (31, .number2), (32, .number3), (33, .number4), (34, .number5), (35, .number6),
   (36, .number7), (37, .number8), (38, .number9), (39, .number0), (40, .returnKey),
   (41, .escape), (42, .backspace), (43, .tab), (44, .space), (45, .minus), (46, .equals),
   (47, .leftBracket), (48, .rightBracket), (49, .backslash), (51, .semicolon),
   (52, .apostrophe), (53, .grave), (54, .comma), (55, .period), (56, .slash), (57, .capslock),
   (58, .f1), (59, .f2), (60, .f3), (61, .f4), (62, .f5), (63, .f6), (64, .f7), (65, .f8),
   (66, .f9), (67, .f10), (68, .f11), (69, .f12), (70, .printscreen), (71, .scrolllock),
   (72, .pause), (73, .insert), (74, .home), (75, .pageUp), (76, .delete), (77, .endKey),
   (78, .pageDown), (79, .right), (80, .left), (81, .down), (82, .up), (84, .numPadDivide),
   (85, .numPadMultiply), (86, .numPadMinus), (87, .numPadPlus), (88, .numPadEnter),
   (89, .numPad1), (90, .numPad2), (91, .numPad3), (92, .numPad4), (93, .numPad5),
   (94, .numPad6), (95, .numPad7), (96, .numPad8), (97, .numPad9), (98, .numPad0),
   (99, .numPadPeriod), (133, .numPadComma), (224, .leftCtrl), (225, .leftShift),
   (226, .leftAlt), (227, .leftGui), (228, .rightCtrl), (229, .rightShift), (230, .rightAlt),
   (231, .rightGui)]

/-- `GenerateScancodeMappings`, from what the local array holds before. -/
def generateScancodeMappings (mappings : ScancodeMappings) : ScancodeMappings :=
  scancodeAssignments.foldl
    (fun mappings assignment => Function.update mappings assignment.1 assignment.2.value) mappings

/-- The key code of a mouse button, as `SetMouseButtonState` chooses it. -/
def mouseButtonKeyCode (buttonIndex : Nat) : KeyCode :=
  match buttonIndex with
  | 1 => .leftMouseButton
  | 3 => .rightMouseButton
  | 2 => .middleMouseButton
  | _ => .any

/-! ## `Input` -/

/-- `Input`. -/
structure Input where
  mode : InputProcessingMode
  pressed : KeysBitset
  released : KeysBitset
  held : KeysBitset
  mouseWheelMotion : Int32

namespace Input

/-- The constructor of `Input`. -/
def create (mode : InputProcessingMode) : Input where
  mode
  pressed := .empty
  released := .empty
  held := .empty
  mouseWheelMotion := 0

/-- `SetKeyboardKeyState`. -/
def setKeyboardKeyState (mappings : ScancodeMappings) (bitset : KeysBitset) (scancode : Scancode)
    (active : Bool) : Exec KeysBitset :=
  let keyCode := mappings scancode
  if keyCode ≠ KeyCode.any.value then bitset.set (toUsize keyCode) active else pure bitset

/-- `SetMouseButtonState`. -/
def setMouseButtonState (bitset : KeysBitset) (buttonIndex : Nat) (active : Bool) :
    Exec KeysBitset :=
  let keyCode := mouseButtonKeyCode buttonIndex
  if keyCode ≠ .any then bitset.set (toUsize keyCode.value) active else pure bitset

/-- The `switch` of `ProcessWindowEvent`: the new state, and whether the event was
handled. -/
def handleEvent (mappings : ScancodeMappings) (input : Input) (event : SdlEvent) :
    Exec (Input × Bool) :=
  match event with
  | .keyDown scancode => do
      let pressed ← setKeyboardKeyState mappings input.pressed scancode true
      let held ← setKeyboardKeyState mappings input.held scancode true
      pure ({ input with pressed, held }, true)
  | .keyUp scancode => do
      let held ← setKeyboardKeyState mappings input.held scancode false
      let released ← setKeyboardKeyState mappings input.released scancode true
      pure ({ input with held, released }, true)
  | .mouseButtonDown buttonIndex => do
      let pressed ← setMouseButtonState input.pressed buttonIndex true
      let held ← setMouseButtonState input.held buttonIndex true
      pure ({ input with pressed, held }, true)
  | .mouseButtonUp buttonIndex => do
      let held ← setMouseButtonState input.held buttonIndex false
      let released ← setMouseButtonState input.released buttonIndex true
      pure ({ input with held, released }, true)
  | .mouseWheel y => pure ({ input with mouseWheelMotion := input.mouseWheelMotion + y }, true)
  | _ => pure (input, false)

/-- `ProcessWindowEvent`. -/
def processWindowEvent (mappings : ScancodeMappings) (input : Input) (event : SdlEvent) :
    Exec (Input × WindowEventControlFlow) := do
  let (input, eventHandled) ← input.handleEvent mappings event
  if eventHandled ∧ input.mode = .consume then
    pure (input, .consumeEvent)
  else
    pure (input, .passthroughEvent)

/-- `NewFrame`. -/
def newFrame (input : Input) : Input :=
  { input with pressed := .empty, released := .empty, mouseWheelMotion := 0 }

/-- `Reset`. -/
def reset (input : Input) : Input :=
  { input with pressed := .empty, held := .empty, released := .empty, mouseWheelMotion := 0 }

/-- `Get`. -/
def get (bitset : KeysBitset) (key : KeyCode) : Exec Bool :=
  if key = .any then pure bitset.any else bitset.test (toUsize key.value)

/-- `IsKeyPressed`. -/
def isKeyPressed (input : Input) (keyCode : KeyCode) : Exec Bool := get input.pressed keyCode

/-- `IsKeyReleased`. -/
def isKeyReleased (input : Input) (keyCode : KeyCode) : Exec Bool := get input.released keyCode

/-- `IsKeyHeld`. -/
def isKeyHeld (input : Input) (keyCode : KeyCode) : Exec Bool := get input.held keyCode

/-- `GetMouseWheelMotion`. -/
def getMouseWheelMotion (input : Input) : Int32 := input.mouseWheelMotion

end Input

/-! ## The event loop of the engine -/

/-- A polled event, with what the user interface wants to capture and whether it
consumed the event. -/
structure PolledEvent where
  event : SdlEvent
  wantCaptureMouse : Bool
  wantCaptureKeyboard : Bool
  imguiConsumedEvent : Bool

/-- `UIBindings::ProcessWindowEvent`. -/
def UIBindings.processWindowEvent (polled : PolledEvent) : WindowEventControlFlow :=
  let isKeyboardEvent := match polled.event with
    | .keyDown _ | .keyUp _ | .textInput => true
    | _ => false
  let isMouseEvent := match polled.event with
    | .mouseButtonDown _ | .mouseButtonUp _ | .mouseWheel _ => true
    | _ => false
  let passMouseToImgui := polled.wantCaptureMouse && isMouseEvent
  let passKeyboardToImgui := polled.wantCaptureKeyboard && isKeyboardEvent
  if (passMouseToImgui || passKeyboardToImgui) && polled.imguiConsumedEvent then
    .consumeEvent
  else
    .passthroughEvent

namespace Engine

/-- One iteration of the event loop of `RunInternal`; the second component is
`quitRequested`. -/
def pollEvent (mappings : ScancodeMappings) (state : Input × Bool) (polled : PolledEvent) :
    Exec (Input × Bool) :=
  let (input, quitRequested) := state
  if UIBindings.processWindowEvent polled = .consumeEvent then
    pure (input.reset, quitRequested)
  else do
    let (input, controlFlow) ← input.processWindowEvent mappings polled.event
    if controlFlow = .consumeEvent then
      pure (input, quitRequested)
    else
      pure (input, quitRequested || polled.event = .quit)

/-- What one frame of `RunInternal` does with the input. -/
def processEvents (mappings : ScancodeMappings) (input : Input) (events : List PolledEvent) :
    Exec (Input × Bool) :=
  events.foldlM (pollEvent mappings) (input.newFrame, false)

end Engine

end TowerDefence
