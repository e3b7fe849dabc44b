import TowerDefence.Engine.KeyState

/-!
# Scancodes without a key code

`SetKeyboardKeyState` skips a scancode whose entry in the table is `KeyCode::Any`.  The
table is not filled with this value before its assignments, so that an event with another
scancode sets the bit of whatever the entry holds.
-/

namespace TowerDefence

open Foundations

/-- `GenerateScancodeMappings` does not assign the scancode. -/
def Scancode.Unassigned (scancode : Scancode) : Prop :=
  ∀ assignment ∈ scancodeAssignments, assignment.1 ≠ scancode

/-- A key event with the scancode is processed without an exception and changes no bit, for
any input. -/
def Input.IgnoresScancode (mappings : ScancodeMappings) (scancode : Scancode) : Prop :=
  ∀ (input : Input) (event : SdlEvent), event = .keyDown scancode ∨ event = .keyUp scancode →
    ∃ next controlFlow, input.processWindowEvent mappings event = .ok (next, controlFlow) ∧
      next.pressed = input.pressed ∧ next.held = input.held ∧ next.released = input.released

/-- The assignments leave the other entries as they are. -/
theorem generateScancodeMappings_of_unassigned {scancode : Scancode}
    (unassigned : scancode.Unassigned) (content : ScancodeMappings) :
    generateScancodeMappings content scancode = content scancode := by
  rw [Scancode.Unassigned] at unassigned
  rw [generateScancodeMappings]
  generalize scancodeAssignments = assignments at unassigned ⊢
  induction assignments generalizing content with
  | nil => rfl
  | cons assignment assignments ih =>
      obtain ⟨different, others⟩ := List.forall_mem_cons.mp unassigned
      rw [List.foldl_cons, ih _ others, Function.update_of_ne different.symm]

section Entry

variable {mappings : ScancodeMappings} {scancode : Scancode}

/-- `KeyCode::Any` is skipped. -/
theorem Input.setKeyboardKeyState_of_any (isAny : mappings scancode = KeyCode.any.value)
    (bitset : KeysBitset) (active : Bool) :
    setKeyboardKeyState mappings bitset scancode active = .ok bitset := by
  rw [setKeyboardKeyState, isAny]
  rfl

theorem Input.ignoresScancode_of_any (isAny : mappings scancode = KeyCode.any.value) :
    IgnoresScancode mappings scancode := by
  have kept := setKeyboardKeyState_of_any isAny
  intro input event isKey
  have handled : input.handleEvent mappings event = .ok (input, true) := by
    rcases isKey with rfl | rfl
    · simp only [handleEvent, kept]
      rfl
    · simp only [handleEvent, kept]
      rfl
  rw [processWindowEvent, handled]
  by_cases consumes : input.mode = .consume
  · exact ⟨input, .consumeEvent, if_pos ⟨rfl, consumes⟩, rfl, rfl, rfl⟩
  · exact ⟨input, .passthroughEvent, if_neg fun both => consumes both.2, rfl, rfl, rfl⟩

/-- Any other entry, if it has a bit at all, has it set by a key that goes down. -/
theorem Input.pressed_ne_of_keyDown (notAny : mappings scancode ≠ KeyCode.any.value)
    {mode : InputProcessingMode} {next : Input} {controlFlow : WindowEventControlFlow}
    (executed : (Input.create mode).processWindowEvent mappings (.keyDown scancode) =
      .ok (next, controlFlow)) : next.pressed ≠ (Input.create mode).pressed := by
  simp only [processWindowEvent, handleEvent, bind_eq_ok] at executed
  rcases executed with ⟨⟨handled, _⟩, ⟨pressed, assigned, held, _, isHandled⟩, returned⟩
  cases isHandled
  rw [setKeyboardKeyState, if_pos notAny, KeysBitset.set] at assigned
  split at assigned
  case isTrue inRange =>
    cases assigned
    have isSet : next.pressed ⟨_, inRange⟩ = true := by
      split at returned
      all_goals
        cases returned
        exact Function.update_self ..
    intro same
    rw [same] at isSet
    cases isSet
  case isFalse => cases assigned

theorem Input.not_ignoresScancode (notAny : mappings scancode ≠ KeyCode.any.value) :
    ¬IgnoresScancode mappings scancode := by
  intro ignores
  obtain ⟨next, controlFlow, executed, samePressed, _⟩ :=
    ignores (.create .consume) (.keyDown scancode) (.inl rfl)
  exact pressed_ne_of_keyDown notAny executed samePressed

end Entry

/-- The events of a scancode that is not assigned are ignored exactly if the table
happens to hold `KeyCode::Any` for it before the assignments. -/
theorem Input.ignoresScancode_iff {scancode : Scancode} (unassigned : scancode.Unassigned)
    (content : ScancodeMappings) :
    IgnoresScancode (generateScancodeMappings content) scancode ↔
      content scancode = KeyCode.any.value := by
  have entry := generateScancodeMappings_of_unassigned unassigned content
  constructor
  · intro ignores
    by_contra notAny
    rw [← entry] at notAny
    exact not_ignoresScancode notAny ignores
  · intro isAny
    exact ignoresScancode_of_any (entry.trans isAny)

theorem unassigned_zero : Scancode.Unassigned 0 := by
  unfold Scancode.Unassigned
  decide

/-- `SDL_SCANCODE_UNKNOWN` is ignored if the array holds zeros. -/
theorem Input.ignoresScancode_unknown : IgnoresScancode assignedMappings 0 :=
  (Input.ignoresScancode_iff unassigned_zero fun _ => KeyCode.any.value).mpr rfl

/-- It counts as the key A if the array holds ones. -/
theorem Input.unknown_scancode_not_ignored :
    ¬∀ content scancode, Scancode.Unassigned scancode →
      IgnoresScancode (generateScancodeMappings content) scancode := by
  intro always
  refine not_ignoresScancode ?_ (always (fun _ => KeyCode.a.value) 0 unassigned_zero)
  rw [generateScancodeMappings_of_unassigned unassigned_zero]
  decide

end TowerDefence
