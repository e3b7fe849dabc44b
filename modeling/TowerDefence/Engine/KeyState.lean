import Mathlib.Algebra.BigOperators.Group.List.Basic
import Mathlib.Data.List.DropRight
import TowerDefence.Foundations.Latch
import TowerDefence.Foundations.Loop
import TowerDefence.Model.Input

/-!
# Key states follow the event stream

Every bit of the three bitsets is a latch over everything that happens to the
input.  Since a consumed event resets all of them, a key is held only if the last
event about it, consumed or not, was a press.
-/

namespace TowerDefence

open Foundations

/-! ## The event stream -/

/-- Something that happens to the input: a new frame, an event that the user
interface consumes, or an event that is passed to `ProcessWindowEvent`. -/
inductive Happening where
  | newFrame
  | consumed (event : SdlEvent)
  | passed (event : SdlEvent)

/-- The effect of a happening. -/
def Input.observe (mappings : ScancodeMappings) (input : Input) : Happening → Exec Input
  | .newFrame => pure input.newFrame
  | .consumed _ => pure input.reset
  | .passed event => do
      let (input, _) ← input.processWindowEvent mappings event
      pure input

/-- The effect of a stream of happenings on a new input. -/
def Input.observeAll (mappings : ScancodeMappings) (mode : InputProcessingMode)
    (happenings : List Happening) : Exec Input :=
  happenings.foldlM (Input.observe mappings) (.create mode)

/-- The last happening is observed after all others. -/
theorem Input.observeAll_concat {mappings : ScancodeMappings} {mode : InputProcessingMode}
    {happenings : List Happening} {happening : Happening} {input : Input} :
    observeAll mappings mode (happenings ++ [happening]) = .ok input ↔
      ∃ before, observeAll mappings mode happenings = .ok before ∧
        before.observe mappings happening = .ok input := by
  simp only [observeAll, List.foldlM_append, List.foldlM_cons, List.foldlM_nil, bind_pure,
    bind_eq_ok]

/-- What an iteration of the engine's event loop means for the input. -/
def PolledEvent.happening (polled : PolledEvent) : Happening :=
  if UIBindings.processWindowEvent polled = .consumeEvent then
    .consumed polled.event
  else
    .passed polled.event

/-- A frame of the engine: `NewFrame`, followed by the polled events. -/
def frameHappenings (events : List PolledEvent) : List Happening :=
  .newFrame :: events.map PolledEvent.happening

section EngineLoop

variable (mappings : ScancodeMappings)

theorem Engine.pollEvent_observes (input : Input) (quitRequested : Bool) (polled : PolledEvent) :
    Agree (fun state observed => state.1 = observed)
      (pollEvent mappings (input, quitRequested) polled)
      (input.observe mappings polled.happening) := by
  rw [pollEvent, PolledEvent.happening]
  split
  · exact .ok rfl
  · apply Agree.bind (Agree.refl _)
    intro processed _ same
    subst same
    rcases processed with ⟨processed, controlFlow⟩
    dsimp only
    split
    · exact .ok rfl
    · exact .ok rfl

theorem Engine.processEvents_observes (input : Input) (events : List PolledEvent) :
    Agree (fun state observed => state.1 = observed) (processEvents mappings input events)
      ((frameHappenings events).foldlM (Input.observe mappings) input) := by
  show Agree _ (events.foldlM (pollEvent mappings) (input.newFrame, false))
    ((events.map PolledEvent.happening).foldlM (Input.observe mappings) input.newFrame)
  rw [List.foldlM_map]
  refine Agree.foldlM rfl ?_
  intro polled state observed _ same
  subst same
  exact pollEvent_observes mappings state.1 state.2 polled

/-- The input after the event loops of some frames. -/
def Engine.inputAfter (input : Input) (frames : List (List PolledEvent)) : Exec Input :=
  frames.foldlM (fun input events => do
    let (input, _) ← processEvents mappings input events
    pure input) input

/-- The frames of the engine are one stream of happenings. -/
theorem Engine.frames_observe (input : Input) (frames : List (List PolledEvent)) :
    Agree (fun state observed => state = observed) (inputAfter mappings input frames)
      ((frames.flatMap frameHappenings).foldlM (Input.observe mappings) input) := by
  induction frames generalizing input with
  | nil => exact .ok rfl
  | cons events frames ih =>
      rw [inputAfter, List.foldlM_cons, List.flatMap_cons, List.foldlM_append, bind_assoc]
      apply Agree.bind (processEvents_observes mappings input events)
      intro state observed same
      subst same
      exact ih state.1

end EngineLoop

/-! ## Reading the stream -/

section Reading

variable (mappings : ScancodeMappings) (key : Int)

/-- The event is a press of the key or button with the given value. -/
def SdlEvent.isDownOf : SdlEvent → Bool
  | .keyDown scancode => mappings scancode = key
  | .mouseButtonDown button => (mouseButtonKeyCode button).value = key
  | _ => false

/-- The event is a release of the key or button. -/
def SdlEvent.isUpOf : SdlEvent → Bool
  | .keyUp scancode => mappings scancode = key
  | .mouseButtonUp button => (mouseButtonKeyCode button).value = key
  | _ => false

namespace Happening

/-- A press of the key was passed to the input. -/
def passedDown : Happening → Bool
  | .passed event => event.isDownOf mappings key
  | _ => false

/-- A release of the key was passed to the input. -/
def passedUp : Happening → Bool
  | .passed event => event.isUpOf mappings key
  | _ => false

def isConsumed : Happening → Bool
  | .consumed _ => true
  | _ => false

/-- A new frame or a consumed event. -/
def startsOver : Happening → Bool
  | .newFrame => true
  | .consumed _ => true
  | .passed _ => false

/-- An event about the key, consumed or not. -/
def concerns : Happening → Bool
  | .newFrame => false
  | .consumed event => event.isDownOf mappings key || event.isUpOf mappings key
  | .passed event => event.isDownOf mappings key || event.isUpOf mappings key

/-- The event is a press of the key, consumed or not. -/
def isDown : Happening → Bool
  | .newFrame => false
  | .consumed event => event.isDownOf mappings key
  | .passed event => event.isDownOf mappings key

/-- The motion of the wheel that was passed to the input. -/
def wheelMotion : Happening → Int
  | .passed (.mouseWheel y) => y.toInt
  | _ => 0

/-- What makes the input consider the key released. -/
def letsGo (happening : Happening) : Bool :=
  happening.passedUp mappings key || happening.isConsumed

end Happening

/-- The wheel motion that was passed since the last new frame and the last
consumed event. -/
def wheelMotionSince (happenings : List Happening) : Int :=
  ((happenings.rtakeWhile fun happening => !happening.startsOver).map Happening.wheelMotion).sum

end Reading

/-! ## One event -/

/-- Assign the bit of a key code, unless it is `KeyCode::Any`. -/
def KeysBitset.assign (bitset : KeysBitset) (value : Int) (active : Bool) : Exec KeysBitset :=
  if value ≠ KeyCode.any.value then bitset.set (toUsize value) active else pure bitset

theorem Input.setMouseButtonState_eq (bitset : KeysBitset) (button : Nat) (active : Bool) :
    setMouseButtonState bitset button active =
      bitset.assign (mouseButtonKeyCode button).value active := by
  have sameTest : mouseButtonKeyCode button ≠ .any ↔
      (mouseButtonKeyCode button).value ≠ KeyCode.any.value := by
    rw [mouseButtonKeyCode.eq_def]
    split <;> decide
  rw [setMouseButtonState, KeysBitset.assign]
  simp only [sameTest]

/-- Every entry of the table is the value of an enumerator. -/
def ScancodeMappings.InRange (mappings : ScancodeMappings) : Prop :=
  ∀ scancode, 0 ≤ mappings scancode ∧ mappings scancode < keyCodeCount

/-- The entry that the event looks up, if it looks one up, is the value of an
enumerator. -/
def SdlEvent.InRange (mappings : ScancodeMappings) (event : SdlEvent) : Prop :=
  ∀ scancode, event = .keyDown scancode ∨ event = .keyUp scancode →
    0 ≤ mappings scancode ∧ mappings scancode < keyCodeCount

theorem mouseButtonKeyCode_inRange (button : Nat) :
    0 ≤ (mouseButtonKeyCode button).value ∧
      (mouseButtonKeyCode button).value < keyCodeCount := by
  rw [mouseButtonKeyCode.eq_def]
  split <;> decide

theorem toUsize_of_inRange {value : Int} (nonneg : 0 ≤ value) (below : value < keyCodeCount) :
    toUsize value = value.toNat := by
  have small : (keyCodeCount : Int) = 109 := rfl
  rw [toUsize]
  omega

/-- Assigning a bit succeeds and changes that bit only. -/
theorem KeysBitset.assign_spec (bitset : KeysBitset) {value : Int} (active : Bool)
    (inRange : 0 ≤ value ∧ value < keyCodeCount) :
    ∃ assigned, bitset.assign value active = .ok assigned ∧
      ∀ index : Fin keyCodeCount, 0 < index.val →
        assigned index = if value = index then active else bitset index := by
  rw [assign]
  split
  · rw [toUsize_of_inRange inRange.1 inRange.2]
    have below : value.toNat < keyCodeCount := by omega
    rw [set, dif_pos below]
    refine ⟨_, rfl, ?_⟩
    intro index _
    have sameIndex : index = ⟨value.toNat, below⟩ ↔ value = index := by
      rw [Fin.ext_iff]
      show index.val = value.toNat ↔ value = index.val
      omega
    rw [Function.update_apply]
    simp only [sameIndex]
  · rename_i isAny
    refine ⟨bitset, rfl, ?_⟩
    intro index positive
    have anyValue : KeyCode.any.value = 0 := rfl
    have different : value ≠ index := by omega
    rw [if_neg different]

/-- The bits and the wheel mirror the stream. -/
structure Input.Mirrors (mappings : ScancodeMappings) (happenings : List Happening)
    (input : Input) : Prop where
  held : ∀ index : Fin keyCodeCount, 0 < index.val → input.held index =
    latched (Happening.passedDown mappings index) (Happening.letsGo mappings index) happenings
  pressed : ∀ index : Fin keyCodeCount, 0 < index.val → input.pressed index =
    latched (Happening.passedDown mappings index) Happening.startsOver happenings
  released : ∀ index : Fin keyCodeCount, 0 < index.val → input.released index =
    latched (Happening.passedUp mappings index) Happening.startsOver happenings
  wheel : input.mouseWheelMotion = Int32.ofInt (wheelMotionSince happenings)

theorem Input.Mirrors.create (mappings : ScancodeMappings) (mode : InputProcessingMode) :
    (Input.create mode).Mirrors mappings [] :=
  ⟨fun _ _ => rfl, fun _ _ => rfl, fun _ _ => rfl, rfl⟩

theorem wheelMotionSince_concat (happenings : List Happening) (happening : Happening) :
    wheelMotionSince (happenings ++ [happening]) =
      if happening.startsOver then 0
      else wheelMotionSince happenings + happening.wheelMotion := by
  rw [wheelMotionSince, List.rtakeWhile_concat]
  cases happening.startsOver with
  | true => rfl
  | false => simp [wheelMotionSince]

namespace Input.Mirrors

variable {mappings : ScancodeMappings} {happenings : List Happening} {input : Input}
variable {value : Int}

/-- What the bits and the wheel have to be after one more happening. -/
theorem extend (mirrors : input.Mirrors mappings happenings) {happening : Happening} {next : Input}
    (held : ∀ index : Fin keyCodeCount, 0 < index.val → next.held index =
      if happening.passedDown mappings index then true
      else if happening.letsGo mappings index then false else input.held index)
    (pressed : ∀ index : Fin keyCodeCount, 0 < index.val → next.pressed index =
      if happening.passedDown mappings index then true
      else if happening.startsOver then false else input.pressed index)
    (released : ∀ index : Fin keyCodeCount, 0 < index.val → next.released index =
      if happening.passedUp mappings index then true
      else if happening.startsOver then false else input.released index)
    (wheel : next.mouseWheelMotion =
      if happening.startsOver then 0
      else input.mouseWheelMotion + Int32.ofInt happening.wheelMotion) :
    next.Mirrors mappings (happenings ++ [happening]) := by
  refine ⟨?_, ?_, ?_, ?_⟩
  · intro index positive
    rw [latched_concat, ← mirrors.held index positive]
    exact held index positive
  · intro index positive
    rw [latched_concat, ← mirrors.pressed index positive]
    exact pressed index positive
  · intro index positive
    rw [latched_concat, ← mirrors.released index positive]
    exact released index positive
  · rw [wheelMotionSince_concat, wheel, mirrors.wheel, apply_ite Int32.ofInt, Int32.ofInt_add]
    rfl

/-- A press that is passed to the input. -/
theorem press (mirrors : input.Mirrors mappings happenings) (event : SdlEvent)
    (inRange : 0 ≤ value ∧ value < keyCodeCount)
    (down : ∀ key, event.isDownOf mappings key = decide (value = key))
    (notUp : ∀ key, event.isUpOf mappings key = false)
    (still : (Happening.passed event).wheelMotion = 0) :
    ∃ pressed held, input.pressed.assign value true = .ok pressed ∧
      input.held.assign value true = .ok held ∧
      Input.Mirrors mappings (happenings ++ [.passed event]) { input with pressed, held } := by
  obtain ⟨pressed, pressedAssigned, pressedBits⟩ := input.pressed.assign_spec true inRange
  obtain ⟨held, heldAssigned, heldBits⟩ := input.held.assign_spec true inRange
  refine ⟨pressed, held, pressedAssigned, heldAssigned, mirrors.extend ?_ ?_ ?_ ?_⟩
  · intro index positive
    simp [heldBits index positive, Happening.passedDown, Happening.letsGo, Happening.passedUp,
      Happening.isConsumed, down, notUp]
  · intro index positive
    simp [pressedBits index positive, Happening.passedDown, Happening.startsOver, down]
  · intro index positive
    simp [Happening.passedUp, Happening.startsOver, notUp]
  · simp [still, Happening.startsOver]

/-- A release that is passed to the input. -/
theorem release (mirrors : input.Mirrors mappings happenings) (event : SdlEvent)
    (inRange : 0 ≤ value ∧ value < keyCodeCount)
    (notDown : ∀ key, event.isDownOf mappings key = false)
    (up : ∀ key, event.isUpOf mappings key = decide (value = key))
    (still : (Happening.passed event).wheelMotion = 0) :
    ∃ held released, input.held.assign value false = .ok held ∧
      input.released.assign value true = .ok released ∧
      Input.Mirrors mappings (happenings ++ [.passed event]) { input with held, released } := by
  obtain ⟨held, heldAssigned, heldBits⟩ := input.held.assign_spec false inRange
  obtain ⟨released, releasedAssigned, releasedBits⟩ := input.released.assign_spec true inRange
  refine ⟨held, released, heldAssigned, releasedAssigned, mirrors.extend ?_ ?_ ?_ ?_⟩
  · intro index positive
    simp [heldBits index positive, Happening.passedDown, Happening.letsGo, Happening.passedUp,
      Happening.isConsumed, notDown, up]
  · intro index positive
    simp [Happening.passedDown, Happening.startsOver, notDown]
  · intro index positive
    simp [releasedBits index positive, Happening.passedUp, Happening.startsOver, up]
  · simp [still, Happening.startsOver]

/-- An event about no key. -/
theorem elsewhere (mirrors : input.Mirrors mappings happenings) (event : SdlEvent)
    (notDown : ∀ key, event.isDownOf mappings key = false)
    (notUp : ∀ key, event.isUpOf mappings key = false) :
    Input.Mirrors mappings (happenings ++ [.passed event])
      { input with
        mouseWheelMotion :=
          input.mouseWheelMotion + Int32.ofInt (Happening.passed event).wheelMotion } := by
  refine mirrors.extend ?_ ?_ ?_ rfl
  · intro index positive
    simp [Happening.passedDown, Happening.letsGo, Happening.passedUp, Happening.isConsumed,
      notDown, notUp]
  · intro index positive
    simp [Happening.passedDown, Happening.startsOver, notDown]
  · intro index positive
    simp [Happening.passedUp, Happening.startsOver, notUp]

theorem newFrame (mirrors : input.Mirrors mappings happenings) :
    input.newFrame.Mirrors mappings (happenings ++ [.newFrame]) :=
  mirrors.extend (fun _ _ => rfl) (fun _ _ => rfl) (fun _ _ => rfl) rfl

theorem consumed (mirrors : input.Mirrors mappings happenings) (event : SdlEvent) :
    input.reset.Mirrors mappings (happenings ++ [.consumed event]) :=
  mirrors.extend (fun _ _ => rfl) (fun _ _ => rfl) (fun _ _ => rfl) rfl

/-- The `switch` of `ProcessWindowEvent`, one case for each kind of event. -/
theorem handleEvent (mirrors : input.Mirrors mappings happenings) {event : SdlEvent}
    (inRange : event.InRange mappings) :
    ∃ handled eventHandled, input.handleEvent mappings event = .ok (handled, eventHandled) ∧
      handled.Mirrors mappings (happenings ++ [.passed event]) := by
  cases event with
  | keyDown scancode =>
      obtain ⟨pressed, held, pressedAssigned, heldAssigned, holds⟩ :=
        mirrors.press (.keyDown scancode) (inRange scancode (.inl rfl)) (fun _ => rfl)
          (fun _ => rfl) rfl
      refine ⟨_, true, ?_, holds⟩
      show (input.pressed.assign (mappings scancode) true >>= fun pressed =>
        input.held.assign (mappings scancode) true >>= fun held =>
          pure ({ input with pressed, held }, true)) = _
      rw [pressedAssigned, heldAssigned]
      rfl
  | keyUp scancode =>
      obtain ⟨held, released, heldAssigned, releasedAssigned, holds⟩ :=
        mirrors.release (.keyUp scancode) (inRange scancode (.inr rfl)) (fun _ => rfl)
          (fun _ => rfl) rfl
      refine ⟨_, true, ?_, holds⟩
      show (input.held.assign (mappings scancode) false >>= fun held =>
        input.released.assign (mappings scancode) true >>= fun released =>
          pure ({ input with held, released }, true)) = _
      rw [heldAssigned, releasedAssigned]
      rfl
  | mouseButtonDown button =>
      obtain ⟨pressed, held, pressedAssigned, heldAssigned, holds⟩ :=
        mirrors.press (.mouseButtonDown button) (mouseButtonKeyCode_inRange button)
          (fun _ => rfl) (fun _ => rfl) rfl
      refine ⟨_, true, ?_, holds⟩
      simp only [Input.handleEvent, Input.setMouseButtonState_eq, pressedAssigned, heldAssigned]
      rfl
  | mouseButtonUp button =>
      obtain ⟨held, released, heldAssigned, releasedAssigned, holds⟩ :=
        mirrors.release (.mouseButtonUp button) (mouseButtonKeyCode_inRange button)
          (fun _ => rfl) (fun _ => rfl) rfl
      refine ⟨_, true, ?_, holds⟩
      simp only [Input.handleEvent, Input.setMouseButtonState_eq, heldAssigned, releasedAssigned]
      rfl
  | mouseWheel y =>
      have holds := mirrors.elsewhere (.mouseWheel y) (fun _ => rfl) fun _ => rfl
      rw [Happening.wheelMotion, Int32.ofInt_toInt] at holds
      exact ⟨_, true, rfl, holds⟩
  | textInput =>
      have holds := mirrors.elsewhere .textInput (fun _ => rfl) fun _ => rfl
      exact ⟨input, false, rfl, by simpa [Happening.wheelMotion] using holds⟩
  | quit =>
      have holds := mirrors.elsewhere .quit (fun _ => rfl) fun _ => rfl
      exact ⟨input, false, rfl, by simpa [Happening.wheelMotion] using holds⟩
  | other =>
      have holds := mirrors.elsewhere .other (fun _ => rfl) fun _ => rfl
      exact ⟨input, false, rfl, by simpa [Happening.wheelMotion] using holds⟩

/-- The events that are passed to the input look up values of enumerators. -/
theorem observe (mirrors : input.Mirrors mappings happenings) {happening : Happening}
    (inRange : ∀ event, happening = .passed event → event.InRange mappings) :
    ∃ observed, input.observe mappings happening = .ok observed ∧
      observed.Mirrors mappings (happenings ++ [happening]) := by
  cases happening with
  | newFrame => exact ⟨_, rfl, mirrors.newFrame⟩
  | consumed event => exact ⟨_, rfl, mirrors.consumed event⟩
  | passed event =>
      obtain ⟨handled, eventHandled, executed, holds⟩ := mirrors.handleEvent (inRange event rfl)
      refine ⟨handled, ?_, holds⟩
      rw [Input.observe, Input.processWindowEvent, executed]
      show ((if eventHandled = true ∧ handled.mode = .consume then
        Except.ok (handled, WindowEventControlFlow.consumeEvent)
        else .ok (handled, .passthroughEvent)) >>= _) = _
      split
      · rfl
      · rfl

/-- Every stream of happenings is processed, and the input mirrors it. -/
theorem observeAll (inRange : mappings.InRange) (mode : InputProcessingMode)
    (happenings : List Happening) :
    ∃ input, Input.observeAll mappings mode happenings = .ok input ∧
      input.Mirrors mappings happenings := by
  induction happenings using List.reverseRecOn with
  | nil => exact ⟨_, rfl, .create mappings mode⟩
  | append_singleton happenings happening ih =>
      obtain ⟨input, executed, mirrors⟩ := ih
      obtain ⟨observed, stepped, holds⟩ :=
        mirrors.observe fun event _ scancode _ => inRange scancode
      exact ⟨observed, Input.observeAll_concat.mpr ⟨input, executed, stepped⟩, holds⟩

end Input.Mirrors

/-! ## The assigned keys -/

/-- The table of the engine, when the entries that are not assigned are
`KeyCode::Any`. -/
def assignedMappings : ScancodeMappings :=
  generateScancodeMappings fun _ => KeyCode.any.value

theorem scancodeAssignments_inRange :
    ∀ assignment ∈ scancodeAssignments, 0 < assignment.2.value ∧
      assignment.2.value < keyCodeCount := by
  decide

/-- An entry of the table is an assigned key code, or it is what the array held
before. -/
theorem generateScancodeMappings_cases (mappings : ScancodeMappings) (scancode : Scancode) :
    generateScancodeMappings mappings scancode = mappings scancode ∨
      ∃ assignment ∈ scancodeAssignments,
        generateScancodeMappings mappings scancode = assignment.2.value := by
  rw [generateScancodeMappings]
  induction scancodeAssignments generalizing mappings with
  | nil => exact .inl rfl
  | cons assignment assignments ih =>
      rw [List.foldl_cons]
      cases ih (Function.update mappings assignment.1 assignment.2.value) with
      | inl before =>
          by_cases same : scancode = assignment.1
          · subst same
            rw [Function.update_self] at before
            exact .inr ⟨assignment, List.mem_cons_self, before⟩
          · rw [Function.update_of_ne same] at before
            exact .inl before
      | inr assigned =>
          rcases assigned with ⟨other, member, equal⟩
          exact .inr ⟨other, List.mem_cons_of_mem _ member, equal⟩

theorem assignedMappings_inRange : assignedMappings.InRange := by
  intro scancode
  cases generateScancodeMappings_cases (fun _ => KeyCode.any.value) scancode with
  | inl any =>
      rw [assignedMappings, any]
      decide
  | inr assigned =>
      rcases assigned with ⟨assignment, member, equal⟩
      obtain ⟨positive, below⟩ := scancodeAssignments_inRange assignment member
      rw [assignedMappings, equal]
      exact ⟨le_of_lt positive, below⟩

/-- The mapping tables assign the key code to a key or to a mouse button. -/
def KeyCode.Assigned (key : KeyCode) : Prop :=
  (∃ assignment ∈ scancodeAssignments, assignment.2 = key) ∨
    ∃ button, mouseButtonKeyCode button = key ∧ key ≠ .any

theorem KeyCode.Assigned.inRange {key : KeyCode} (assigned : key.Assigned) :
    0 < key.value ∧ key.value < keyCodeCount := by
  cases assigned with
  | inl byScancode =>
      rcases byScancode with ⟨assignment, member, same⟩
      exact same ▸ scancodeAssignments_inRange assignment member
  | inr byButton =>
      rcases byButton with ⟨button, same, notAny⟩
      rw [← same, mouseButtonKeyCode.eq_def] at notAny ⊢
      split at notAny
      · decide
      · decide
      · decide
      · exact absurd rfl notAny

/-- The bit of a key. -/
theorem Input.get_of_inRange {key : KeyCode} (inRange : 0 < key.value ∧ key.value < keyCodeCount) :
    ∃ index : Fin keyCodeCount, 0 < index.val ∧ (index : Int) = key.value ∧
      ∀ bitset, Input.get bitset key = .ok (bitset index) := by
  obtain ⟨positive, below⟩ := inRange
  have inRange : key.value.toNat < keyCodeCount := by omega
  refine ⟨⟨key.value.toNat, inRange⟩, ?_, ?_, ?_⟩
  · show 0 < key.value.toNat
    omega
  · show (key.value.toNat : Int) = key.value
    omega
  · intro bitset
    have notAny : key ≠ .any := by
      intro any
      rw [any] at positive
      exact absurd positive (by decide)
    rw [Input.get, if_neg notAny, toUsize_of_inRange (le_of_lt positive) below,
      KeysBitset.test, dif_pos inRange]
    rfl

/-! ## The stream and the queries -/

/-- What the queries about one key answer after a stream of happenings. -/
structure Input.Follows (mappings : ScancodeMappings) (happenings : List Happening)
    (input : Input) (key : KeyCode) : Prop where
  held : ∃ held, input.isKeyHeld key = .ok held ∧
    (held = true ↔ SetSince (Happening.passedDown mappings key.value)
      (Happening.letsGo mappings key.value) happenings)
  pressed : ∃ pressed, input.isKeyPressed key = .ok pressed ∧
    (pressed = true ↔ SetSince (Happening.passedDown mappings key.value) Happening.startsOver
      happenings)
  released : ∃ released, input.isKeyReleased key = .ok released ∧
    (released = true ↔ SetSince (Happening.passedUp mappings key.value) Happening.startsOver
      happenings)
  notSticky : input.isKeyHeld key = .ok true → ∃ happening,
    (happenings.filter (Happening.concerns mappings key.value)).getLast? = some happening ∧
      happening.isDown mappings key.value = true

theorem Input.Mirrors.follows {mappings : ScancodeMappings} {happenings : List Happening}
    {input : Input} (mirrors : input.Mirrors mappings happenings) {key : KeyCode}
    (assigned : key.Assigned) : input.Follows mappings happenings key := by
  obtain ⟨index, positive, sameValue, bit⟩ := Input.get_of_inRange assigned.inRange
  have held := mirrors.held index positive
  have pressed := mirrors.pressed index positive
  have released := mirrors.released index positive
  rw [sameValue] at held pressed released
  refine ⟨⟨_, bit input.held, ?_⟩, ⟨_, bit input.pressed, ?_⟩, ⟨_, bit input.released, ?_⟩, ?_⟩
  · rw [held, latched_iff]
  · rw [pressed, latched_iff]
  · rw [released, latched_iff]
  · intro isHeld
    rw [Input.isKeyHeld, bit, held, Except.ok.injEq] at isHeld
    have covers : ∀ happening : Happening, happening.passedDown mappings key.value = true →
        happening.concerns mappings key.value = true := by
      intro happening down
      cases happening with
      | passed event => simp [Happening.concerns, show event.isDownOf _ _ = true from down]
      | newFrame => cases down
      | consumed event => cases down
    have decides : ∀ happening : Happening, happening.concerns mappings key.value = true →
        happening.passedDown mappings key.value = true ∨
          happening.letsGo mappings key.value = true := by
      intro happening concerned
      cases happening with
      | passed event =>
          simpa [Happening.concerns, Happening.passedDown, Happening.letsGo, Happening.passedUp,
            Happening.isConsumed] using concerned
      | newFrame => cases concerned
      | consumed event => exact .inr (by simp [Happening.letsGo, Happening.isConsumed])
    obtain ⟨happening, isLast, down⟩ := last_of_latched covers decides isHeld
    refine ⟨happening, isLast, ?_⟩
    cases happening with
    | passed event => exact down
    | newFrame => cases down
    | consumed event => cases down

/-- After any interleaving of new frames, consumed events and passed events: the wheel
motion is the sum over the events passed since the last new frame and the last consumed
event, as an `i32` holds it, and the queries about every assigned key follow the stream.
A key is held only if the last event about it, consumed or not, was a press.  The event
loops of the frames of the engine arrive at the same input. -/
theorem Input.follows_stream (mode : InputProcessingMode) (happenings : List Happening) :
    ∃ input, Input.observeAll assignedMappings mode happenings = .ok input ∧
      (∀ frames : List (List PolledEvent), happenings = frames.flatMap frameHappenings →
        Engine.inputAfter assignedMappings (.create mode) frames = .ok input) ∧
      input.getMouseWheelMotion = Int32.ofInt (wheelMotionSince happenings) ∧
      (-2 ^ 31 ≤ wheelMotionSince happenings → wheelMotionSince happenings < 2 ^ 31 →
        input.getMouseWheelMotion.toInt = wheelMotionSince happenings) ∧
      ∀ key, KeyCode.Assigned key → input.Follows assignedMappings happenings key := by
  obtain ⟨input, executed, mirrors⟩ :=
    Input.Mirrors.observeAll assignedMappings_inRange mode happenings
  refine ⟨input, executed, fun frames areFrames => ?_, mirrors.wheel, fun atLeast below => ?_,
    fun key assigned => mirrors.follows assigned⟩
  · subst areFrames
    obtain ⟨state, reached, rfl⟩ :=
      (Engine.frames_observe assignedMappings (.create mode) frames).exists_ok_left executed
    exact reached
  · rw [Input.getMouseWheelMotion, mirrors.wheel, Int32.toInt_ofInt_of_le atLeast below]

/-- Two turns of the wheel whose sum an `i32` cannot hold. -/
theorem Input.wheel_wraps : ∃ input,
    Input.observeAll assignedMappings .passthrough
      [.newFrame, .passed (.mouseWheel 2147483647), .passed (.mouseWheel 2147483647)] =
        .ok input ∧
    input.getMouseWheelMotion.toInt = -2 ∧
    wheelMotionSince
      [.newFrame, .passed (.mouseWheel 2147483647), .passed (.mouseWheel 2147483647)] =
        4294967294 :=
  ⟨_, rfl, by decide, by decide⟩

end TowerDefence
