import TowerDefence.Engine.KeyState

/-!
# Pressed keys

`IsKeyPressed` is meant to tell the frame in which a key goes down.  The event loop does
not ask whether a press is a repeated one, which SDL sends while a key is kept down, and
sets the bit for each of them.
-/

namespace TowerDefence

open Foundations

/-! ## Executions that succeed -/

section Success

variable {mappings : ScancodeMappings} {happenings : List Happening} {mode : InputProcessingMode}
variable {input : Input}

/-- A `KeyCode` is stored in an `int`. -/
def ScancodeMappings.Ints (mappings : ScancodeMappings) : Prop :=
  ∀ scancode, -2 ^ 31 ≤ mappings scancode ∧ mappings scancode < 2 ^ 31

/-- A bit is assigned for the values of enumerators only. -/
theorem KeysBitset.inRange_of_assign {bitset assigned : KeysBitset} {value : Int} {active : Bool}
    (int : -2 ^ 31 ≤ value ∧ value < 2 ^ 31)
    (executed : bitset.assign value active = .ok assigned) :
    0 ≤ value ∧ value < keyCodeCount := by
  have count : keyCodeCount = 109 := rfl
  rw [assign] at executed
  split at executed
  · rw [set] at executed
    split at executed
    case isTrue inRange =>
      rw [toUsize] at inRange
      omega
    case isFalse => cases executed
  · rename_i isAny
    have anyValue : KeyCode.any.value = 0 := rfl
    omega

/-- Events that look up other values are not handled. -/
theorem SdlEvent.inRange_of_handleEvent {event : SdlEvent} {result : Input × Bool}
    (ints : mappings.Ints) (executed : input.handleEvent mappings event = .ok result) :
    event.InRange mappings := by
  rintro scancode (rfl | rfl)
  · simp only [Input.handleEvent, bind_eq_ok] at executed
    rcases executed with ⟨pressed, assigned, _⟩
    exact KeysBitset.inRange_of_assign (ints scancode) assigned
  · simp only [Input.handleEvent, bind_eq_ok] at executed
    rcases executed with ⟨held, assigned, _⟩
    exact KeysBitset.inRange_of_assign (ints scancode) assigned

/-- The input mirrors every stream that is processed without an exception, whatever the
table holds. -/
theorem Input.Mirrors.of_observeAll (ints : mappings.Ints)
    (executed : Input.observeAll mappings mode happenings = .ok input) :
    input.Mirrors mappings happenings := by
  induction happenings using List.reverseRecOn generalizing input with
  | nil =>
      cases executed
      exact .create mappings mode
  | append_singleton happenings happening ih =>
      obtain ⟨before, reached, stepped⟩ := Input.observeAll_concat.mp executed
      have inRange : ∀ event, happening = .passed event → event.InRange mappings := by
        rintro event rfl
        simp only [Input.observe, Input.processWindowEvent, bind_eq_ok] at stepped
        rcases stepped with ⟨_, ⟨_, handled, _⟩, _⟩
        exact SdlEvent.inRange_of_handleEvent ints handled
      obtain ⟨observed, observes, mirrors⟩ := (ih reached).observe inRange
      rw [stepped] at observes
      cases observes
      exact mirrors

/-- What precedes a stream that is processed is processed. -/
theorem Input.observeAll_append {later : List Happening}
    (executed : Input.observeAll mappings mode (happenings ++ later) = .ok input) :
    ∃ before, Input.observeAll mappings mode happenings = .ok before := by
  rw [Input.observeAll, List.foldlM_append, bind_eq_ok] at executed
  rcases executed with ⟨before, reached, _⟩
  exact ⟨before, reached⟩

end Success

/-! ## `KeyCode::Any` -/

section Any

/-- The bit of `KeyCode::Any` is not set. -/
def KeysBitset.NoAny (bitset : KeysBitset) : Prop :=
  ∀ index : Fin keyCodeCount, bitset index = true → 0 < index.val

theorem KeysBitset.NoAny.empty : KeysBitset.empty.NoAny :=
  fun _ isSet => absurd isSet Bool.false_ne_true

theorem KeysBitset.NoAny.assign {bitset assigned : KeysBitset} {value : Int} {active : Bool}
    (noAny : bitset.NoAny) (int : -2 ^ 31 ≤ value ∧ value < 2 ^ 31)
    (executed : bitset.assign value active = .ok assigned) : assigned.NoAny := by
  obtain ⟨nonneg, below⟩ := inRange_of_assign int executed
  rw [KeysBitset.assign] at executed
  split at executed
  case isTrue notAny =>
    rw [toUsize_of_inRange nonneg below, KeysBitset.set, dif_pos (by omega)] at executed
    cases executed
    intro index isSet
    have anyValue : KeyCode.any.value = 0 := rfl
    by_cases same : index.val = value.toNat
    · omega
    · rw [Function.update_of_ne (fun equal => same (congrArg Fin.val equal))] at isSet
      exact noAny index isSet
  case isFalse =>
    cases executed
    exact noAny

/-- No bit of `KeyCode::Any` is set in the bitsets of pressed and held keys. -/
structure Input.NoAny (input : Input) : Prop where
  pressed : input.pressed.NoAny
  held : input.held.NoAny

variable {mappings : ScancodeMappings} {happenings : List Happening} {mode : InputProcessingMode}
variable {input handled : Input}

theorem Input.NoAny.handleEvent {event : SdlEvent} {eventHandled : Bool} (noAny : input.NoAny)
    (ints : mappings.Ints)
    (executed : input.handleEvent mappings event = .ok (handled, eventHandled)) :
    handled.NoAny := by
  have buttonInt : ∀ button, -2 ^ 31 ≤ (mouseButtonKeyCode button).value ∧
      (mouseButtonKeyCode button).value < 2 ^ 31 := by
    intro button
    obtain ⟨nonneg, below⟩ := mouseButtonKeyCode_inRange button
    have count : keyCodeCount = 109 := rfl
    omega
  cases event with
  | keyDown scancode =>
      simp only [Input.handleEvent, bind_eq_ok] at executed
      rcases executed with ⟨pressed, pressedAssigned, held, heldAssigned, isHandled⟩
      cases isHandled
      exact ⟨noAny.pressed.assign (ints scancode) pressedAssigned,
        noAny.held.assign (ints scancode) heldAssigned⟩
  | keyUp scancode =>
      simp only [Input.handleEvent, bind_eq_ok] at executed
      rcases executed with ⟨held, heldAssigned, released, _, isHandled⟩
      cases isHandled
      exact ⟨noAny.pressed, noAny.held.assign (ints scancode) heldAssigned⟩
  | mouseButtonDown button =>
      simp only [Input.handleEvent, Input.setMouseButtonState_eq, bind_eq_ok] at executed
      rcases executed with ⟨pressed, pressedAssigned, held, heldAssigned, isHandled⟩
      cases isHandled
      exact ⟨noAny.pressed.assign (buttonInt button) pressedAssigned,
        noAny.held.assign (buttonInt button) heldAssigned⟩
  | mouseButtonUp button =>
      simp only [Input.handleEvent, Input.setMouseButtonState_eq, bind_eq_ok] at executed
      rcases executed with ⟨held, heldAssigned, released, _, isHandled⟩
      cases isHandled
      exact ⟨noAny.pressed, noAny.held.assign (buttonInt button) heldAssigned⟩
  | mouseWheel y =>
      cases executed
      exact ⟨noAny.pressed, noAny.held⟩
  | textInput | quit | other =>
      cases executed
      exact noAny

theorem Input.NoAny.observe {happening : Happening} (noAny : input.NoAny) (ints : mappings.Ints)
    (executed : input.observe mappings happening = .ok handled) : handled.NoAny := by
  cases happening with
  | newFrame =>
      cases executed
      exact ⟨.empty, noAny.held⟩
  | consumed event =>
      cases executed
      exact ⟨.empty, .empty⟩
  | passed event =>
      simp only [Input.observe, Input.processWindowEvent, bind_eq_ok] at executed
      rcases executed with ⟨_, ⟨⟨next, eventHandled⟩, handles, returned⟩, isHandled⟩
      have result := noAny.handleEvent ints handles
      split at returned
      all_goals
        cases returned
        cases isHandled
        exact result

theorem Input.NoAny.of_observeAll (ints : mappings.Ints)
    (executed : Input.observeAll mappings mode happenings = .ok input) : input.NoAny := by
  induction happenings using List.reverseRecOn generalizing input with
  | nil =>
      cases executed
      exact ⟨.empty, .empty⟩
  | append_singleton happenings happening ih =>
      obtain ⟨before, reached, stepped⟩ := Input.observeAll_concat.mp executed
      exact (ih reached).observe ints stepped

end Any

/-! ## Queries -/

/-- The keys that a query is about: every key for `KeyCode::Any`, else the one. -/
def KeyCode.Covers (key : KeyCode) (index : Fin keyCodeCount) : Prop :=
  0 < index.val ∧ (key = .any ∨ (index : Int) = key.value)

theorem KeyCode.inRange {key : KeyCode} (notAny : key ≠ .any) (notCount : key ≠ .count) :
    0 < key.value ∧ key.value < keyCodeCount := by
  cases key with
  | any => exact absurd rfl notAny
  | count => exact absurd rfl notCount
  | _ => decide

theorem KeyCode.Covers.ne_count {key : KeyCode} {index : Fin keyCodeCount}
    (covered : key.Covers index) : key ≠ .count := by
  rintro rfl
  cases covered.2 with
  | inl isAny => cases isAny
  | inr same =>
      have below := index.isLt
      have countValue : KeyCode.count.value = keyCodeCount := rfl
      omega

/-- `Get` answers whether the bit of a key is set that the query is about. -/
theorem Input.get_eq_ok_iff {bitset : KeysBitset} (noAny : bitset.NoAny) {key : KeyCode}
    {answer : Bool} : Input.get bitset key = .ok answer ↔ key ≠ .count ∧
      (answer = true ↔ ∃ index : Fin keyCodeCount, key.Covers index ∧ bitset index = true) := by
  by_cases isAny : key = .any
  · subst isAny
    have covered : bitset.any = true ↔
        ∃ index : Fin keyCodeCount, KeyCode.any.Covers index ∧ bitset index = true := by
      rw [KeysBitset.any, decide_eq_true_iff]
      constructor
      · rintro ⟨index, isSet⟩
        exact ⟨index, ⟨noAny index isSet, .inl rfl⟩, isSet⟩
      · rintro ⟨index, _, isSet⟩
        exact ⟨index, isSet⟩
    have notCount : KeyCode.any ≠ .count := by decide
    rw [Input.get, if_pos rfl, ← covered, pure_eq_ok, eq_comm, Bool.eq_iff_iff]
    exact (and_iff_right notCount).symm
  · by_cases isCount : key = .count
    · subst isCount
      constructor
      · intro answers
        cases answers
      · intro both
        exact absurd rfl both.1
    · obtain ⟨index, positive, sameValue, bit⟩ := get_of_inRange (KeyCode.inRange isAny isCount)
      have covered : bitset index = true ↔
          ∃ index : Fin keyCodeCount, key.Covers index ∧ bitset index = true := by
        constructor
        · intro isSet
          exact ⟨index, ⟨positive, .inr sameValue⟩, isSet⟩
        · rintro ⟨other, ⟨_, same⟩, isSet⟩
          have sameIndex : other = index := by
            have equal := same.resolve_left isAny
            omega
          rwa [← sameIndex]
      rw [bit, ← covered, Except.ok.injEq, eq_comm, Bool.eq_iff_iff]
      exact (and_iff_right isCount).symm

/-! ## Edges -/

section Edges

variable (mappings : ScancodeMappings) (mode : InputProcessingMode)

/-- The query whether the key is held has the given answer after the stream. -/
def HeldAfter (happenings : List Happening) (key : KeyCode) (held : Bool) : Prop :=
  ∃ input, Input.observeAll mappings mode happenings = .ok input ∧
    input.isKeyHeld key = .ok held

/-- At some point of the frame the key goes from not held to held. -/
def HasEdge (prior : List Happening) (events : List SdlEvent) (key : KeyCode) : Prop :=
  ∃ before event after, events = before ++ event :: after ∧
    HeldAfter mappings mode (prior ++ .newFrame :: before.map .passed) key false ∧
    HeldAfter mappings mode (prior ++ .newFrame :: (before ++ [event]).map .passed) key true

/-- The event is a press of the key. -/
def SdlEvent.Presses (event : SdlEvent) (key : KeyCode) : Prop :=
  ∃ index : Fin keyCodeCount, key.Covers index ∧ event.isDownOf mappings index = true

/-- The key is down after the stream: an event has pressed it, and since then it was not
released, and no event was consumed. -/
def KeptDown (happenings : List Happening) (key : KeyCode) : Prop :=
  ∃ index : Fin keyCodeCount, key.Covers index ∧
    SetSince (Happening.passedDown mappings index) (Happening.letsGo mappings index) happenings

/-- An event of the frame presses the key while it is not kept down. -/
def FreshPress (prior : List Happening) (events : List SdlEvent) (key : KeyCode) : Prop :=
  ∃ before press after, events = before ++ press :: after ∧ press.Presses mappings key ∧
    ¬KeptDown mappings (prior ++ .newFrame :: before.map .passed) key

end Edges

section Frame

variable {mappings : ScancodeMappings} {mode : InputProcessingMode} {prior : List Happening}
variable {events : List SdlEvent} {input : Input} {key : KeyCode}

/-- After a stream that is processed, a key is held if it is kept down. -/
theorem heldAfter_iff {happenings : List Happening} (ints : mappings.Ints)
    (executed : Input.observeAll mappings mode happenings = .ok input) {held : Bool} :
    HeldAfter mappings mode happenings key held ↔
      key ≠ .count ∧ (held = true ↔ KeptDown mappings happenings key) := by
  have isHeld : KeptDown mappings happenings key ↔
      ∃ index : Fin keyCodeCount, key.Covers index ∧ input.held index = true := by
    refine exists_congr fun index => and_congr_right fun covered => ?_
    rw [(Input.Mirrors.of_observeAll ints executed).held index covered.1, latched_iff]
  rw [isHeld, ← Input.get_eq_ok_iff (Input.NoAny.of_observeAll ints executed).held]
  constructor
  · rintro ⟨other, reached, answers⟩
    rw [executed] at reached
    cases reached
    exact answers
  · intro answers
    exact ⟨input, executed, answers⟩

/-- After a frame, a key is pressed if an event of the frame presses it. -/
theorem isKeyPressed_iff (ints : mappings.Ints)
    (executed : Input.observeAll mappings mode (prior ++ .newFrame :: events.map .passed) =
      .ok input) :
    input.isKeyPressed key = .ok true ↔ ∃ event ∈ events, event.Presses mappings key := by
  have noNewFrame : ∀ happening ∈ events.map Happening.passed, happening.startsOver = false := by
    intro happening member
    obtain ⟨event, _, rfl⟩ := List.mem_map.mp member
    rfl
  have bit : ∀ index, key.Covers index → (input.pressed index = true ↔
      ∃ event ∈ events, event.isDownOf mappings index = true) := by
    intro index covered
    have low : latched (Happening.passedDown mappings index) Happening.startsOver
        (prior ++ [.newFrame]) = false := by
      rw [latched_concat]
      rfl
    rw [(Input.Mirrors.of_observeAll ints executed).pressed index covered.1, List.append_cons,
      latched_append_iff low noNewFrame]
    simp only [List.mem_map, exists_exists_and_eq_and]
    exact Iff.rfl
  rw [Input.isKeyPressed, Input.get_eq_ok_iff (Input.NoAny.of_observeAll ints executed).pressed]
  constructor
  · rintro ⟨_, isPressed⟩
    obtain ⟨index, covered, isSet⟩ := isPressed.mp rfl
    obtain ⟨event, member, isDown⟩ := (bit index covered).mp isSet
    exact ⟨event, member, index, covered, isDown⟩
  · rintro ⟨event, member, index, covered, isDown⟩
    have isSet := (bit index covered).mpr ⟨event, member, isDown⟩
    exact ⟨covered.ne_count, iff_of_true rfl ⟨index, covered, isSet⟩⟩

/-- An event of the frame makes the key held exactly when it presses the key while it is
not kept down. -/
theorem hasEdge_iff (ints : mappings.Ints)
    (executed : Input.observeAll mappings mode (prior ++ .newFrame :: events.map .passed) =
      .ok input) :
    HasEdge mappings mode prior events key ↔ FreshPress mappings prior events key := by
  have answers : ∀ before after, events = before ++ after → ∀ held : Bool,
      HeldAfter mappings mode (prior ++ .newFrame :: before.map .passed) key held ↔
        key ≠ .count ∧ (held = true ↔
          KeptDown mappings (prior ++ .newFrame :: before.map .passed) key) := by
    rintro before after rfl held
    rw [List.map_append, ← List.cons_append, ← List.append_assoc] at executed
    obtain ⟨reached, processed⟩ := Input.observeAll_append executed
    exact heldAfter_iff ints processed
  have concat : ∀ (before : List SdlEvent) event,
      prior ++ .newFrame :: (before ++ [event]).map .passed =
        prior ++ .newFrame :: before.map .passed ++ [.passed event] := by
    intro before event
    simp
  constructor
  · rintro ⟨before, event, after, rfl, low, high⟩
    have notKept := ((answers before (event :: after) rfl false).mp low).2
    have kept := ((answers (before ++ [event]) after (by simp) true).mp high).2.mp rfl
    rw [concat] at kept
    obtain ⟨index, covered, since⟩ := kept
    refine ⟨before, event, after, rfl, ?_, fun isKept => Bool.false_ne_true (notKept.mpr isKept)⟩
    cases since.of_concat with
    | inl sets => exact ⟨index, covered, sets⟩
    | inr earlier =>
        exact absurd (notKept.mpr ⟨index, covered, earlier.2⟩) Bool.false_ne_true
  · rintro ⟨before, press, after, rfl, ⟨index, covered, isDown⟩, notKept⟩
    refine ⟨before, press, after, rfl, ?_, ?_⟩
    · apply (answers before (press :: after) rfl false).mpr
      exact ⟨covered.ne_count, iff_of_false Bool.false_ne_true notKept⟩
    · apply (answers (before ++ [press]) after (by simp) true).mpr
      have since : SetSince (Happening.passedDown mappings index)
          (Happening.letsGo mappings index)
          (prior ++ .newFrame :: before.map .passed ++ [.passed press]) :=
        ⟨_, _, [], rfl, isDown, by simp⟩
      rw [concat]
      exact ⟨covered.ne_count, iff_of_true rfl ⟨index, covered, since⟩⟩

end Frame

/-! ## Pressed keys and edges -/

theorem generateScancodeMappings_ints {content : ScancodeMappings} (ints : content.Ints) :
    (generateScancodeMappings content).Ints := by
  intro scancode
  cases generateScancodeMappings_cases content scancode with
  | inl before =>
      rw [before]
      exact ints scancode
  | inr assigned =>
      rcases assigned with ⟨assignment, member, equal⟩
      obtain ⟨positive, below⟩ := scancodeAssignments_inRange assignment member
      have count : keyCodeCount = 109 := rfl
      rw [equal]
      omega

/-- Whatever the table held before its assignments: a key that is pressed in a frame has
gone from not held to held in this frame, exactly if no event of the frame presses it, or
one does while the key is not kept down.  All others are repeated presses. -/
theorem Input.pressed_hasEdge_iff {content : ScancodeMappings} (ints : content.Ints)
    {mode : InputProcessingMode} {prior : List Happening} {events : List SdlEvent} {input : Input}
    (executed : Input.observeAll (generateScancodeMappings content) mode
      (prior ++ .newFrame :: events.map .passed) = .ok input) (key : KeyCode) :
    (input.isKeyPressed key = .ok true →
        HasEdge (generateScancodeMappings content) mode prior events key) ↔
      (∀ event ∈ events, ¬event.Presses (generateScancodeMappings content) key) ∨
        FreshPress (generateScancodeMappings content) prior events key := by
  have allInts := generateScancodeMappings_ints ints
  rw [isKeyPressed_iff allInts executed, hasEdge_iff allInts executed]
  by_cases pressed : ∃ event ∈ events, event.Presses (generateScancodeMappings content) key
  · have someEvent : ¬∀ event ∈ events, ¬event.Presses (generateScancodeMappings content) key :=
      fun noEvent => pressed.elim fun event isPress => noEvent event isPress.1 isPress.2
    simp only [pressed, someEvent, forall_const, false_or]
  · have noEvent : ∀ event ∈ events, ¬event.Presses (generateScancodeMappings content) key :=
      fun event member isPress => pressed ⟨event, member, isPress⟩
    exact iff_of_true (fun isPressed => absurd isPressed pressed) (.inl noEvent)

/-- Scancode 4 is the key A. -/
theorem presses_a : (SdlEvent.keyDown 4).Presses assignedMappings .a :=
  ⟨⟨1, by decide⟩, ⟨Nat.one_pos, .inr rfl⟩, rfl⟩

/-- What a `KeyCode` is initialised to is an `int`. -/
theorem ScancodeMappings.any_ints : ScancodeMappings.Ints fun _ => KeyCode.any.value := by
  have int : -2 ^ 31 ≤ KeyCode.any.value ∧ KeyCode.any.value < 2 ^ 31 := by decide
  exact fun _ => int

/-- A key that goes down in the first frame has gone from not held to held. -/
theorem Input.first_press_hasEdge : HasEdge assignedMappings .consume [] [.keyDown 4] .a := by
  obtain ⟨input, executed, _⟩ := Input.Mirrors.observeAll assignedMappings_inRange .consume
    ([] ++ .newFrame :: [SdlEvent.keyDown 4].map .passed)
  have pressed : input.isKeyPressed .a = .ok true :=
    (isKeyPressed_iff (generateScancodeMappings_ints ScancodeMappings.any_ints) executed).mpr
      ⟨_, List.mem_cons_self, presses_a⟩
  have fresh : FreshPress assignedMappings [] [.keyDown 4] .a := by
    refine ⟨[], .keyDown 4, [], rfl, presses_a, ?_⟩
    rintro ⟨index, _, since⟩
    rw [← latched_iff] at since
    cases since
  exact (Input.pressed_hasEdge_iff ScancodeMappings.any_ints executed .a).mpr (.inr fresh) pressed

/-- The key A goes down in a frame, and is kept down in the next: its repeated press makes
`IsKeyPressed` true again, and the key does not go from not held to held. -/
theorem Input.repeated_press_hasEdge :
    ¬∀ content : ScancodeMappings, content.Ints → ∀ mode prior events input,
      Input.observeAll (generateScancodeMappings content) mode
        (prior ++ .newFrame :: events.map .passed) = .ok input →
      ∀ key, input.isKeyPressed key = .ok true →
        HasEdge (generateScancodeMappings content) mode prior events key := by
  intro everyPress
  obtain ⟨input, executed, _⟩ := Input.Mirrors.observeAll assignedMappings_inRange .consume
    ([.newFrame, .passed (.keyDown 4)] ++ .newFrame :: [SdlEvent.keyDown 4].map .passed)
  have ints := generateScancodeMappings_ints ScancodeMappings.any_ints
  have pressed : input.isKeyPressed .a = .ok true :=
    (isKeyPressed_iff ints executed).mpr ⟨_, List.mem_cons_self, presses_a⟩
  have edge := everyPress _ ScancodeMappings.any_ints _ _ _ _ executed .a pressed
  obtain ⟨before, press, after, split, _, notKept⟩ := (hasEdge_iff ints executed).mp edge
  cases before with
  | nil =>
      refine notKept ⟨⟨1, by decide⟩, ⟨Nat.one_pos, .inr rfl⟩, ?_⟩
      rw [← latched_iff]
      rfl
  | cons event before => simp at split

end TowerDefence
