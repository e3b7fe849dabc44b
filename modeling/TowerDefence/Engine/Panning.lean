import TowerDefence.Engine.Picking
import TowerDefence.Engine.Snapping

/-!
# Panning and zooming

The camera follows the four keys and the wheel, as the event stream has them: on the screen the
world moves with the same speed at every zoom and in every direction.
-/

namespace TowerDefence

open Foundations RenderContextDX11

variable {F R : Type}

/-! ## Keys and the wheel of a run -/

section Stream

variable {mappings : ScancodeMappings} {frames : List (FrameEvents F)} {input : Input}

/-- A key is held after some frames: a press of it was passed to the input, and since then neither
a release of it was passed nor any event consumed. -/
def KeyCode.heldAfter (mappings : ScancodeMappings) (frames : List (FrameEvents F))
    (key : KeyCode) : Bool :=
  latched (Happening.passedDown mappings key.value) (Happening.letsGo mappings key.value)
    (Engine.happenings frames)

/-- What the wheel was turned in a frame since an event was consumed. -/
def FrameEvents.wheelMotion (given : FrameEvents F) : Int32 :=
  Int32.ofInt (wheelMotionSince (given.events.map PolledEvent.happening))

theorem Input.Mirrors.isKeyHeld (mirrors : input.Mirrors mappings (Engine.happenings frames))
    {key : KeyCode} (notAny : key ≠ .any) (notCount : key ≠ .count) :
    input.isKeyHeld key = .ok (key.heldAfter mappings frames) := by
  obtain ⟨index, positive, sameValue, bit⟩ := Input.get_of_inRange (KeyCode.inRange notAny notCount)
  rw [Input.isKeyHeld, bit, mirrors.held index positive, sameValue]
  rfl

/-- A new frame forgets how far the wheel was turned. -/
theorem wheelMotionSince_newFrame (past events : List Happening) :
    wheelMotionSince (past ++ .newFrame :: events) = wheelMotionSince events := by
  induction events using List.reverseRecOn with
  | nil => rw [wheelMotionSince_concat]; rfl
  | append_singleton events event ih =>
      rw [← List.cons_append, ← List.append_assoc, wheelMotionSince_concat,
        wheelMotionSince_concat, ih]

/-- The direction in which the held keys point; opposite keys cancel. -/
def heading (mappings : ScancodeMappings) (frames : List (FrameEvents F)) : Int × Int :=
  let along (forward backward : KeyCode) : Int :=
    (forward.heldAfter mappings frames).toNat - (backward.heldAfter mappings frames).toNat
  (along .d .a, along .w .s)

/-- The zoom after some frames. -/
def zoomAfter (frames : List (FrameEvents F)) : Int :=
  frames.foldl (fun scaleFactorIdx given => Game.zoom scaleFactorIdx given.wheelMotion) 3

theorem zoomAfter_concat (past : List (FrameEvents F)) (given : FrameEvents F) :
    zoomAfter (past ++ [given]) = Game.zoom (zoomAfter past) given.wheelMotion := by
  rw [zoomAfter, List.foldl_append]
  rfl

/-- The keys give the direction of the motion. -/
theorem Game.cameraMovInput_eq [Field F] [LinearOrder F]
    (mirrors : input.Mirrors mappings (Engine.happenings frames)) :
    Game.cameraMovInput input =
      .ok (⟨ofInt (heading mappings frames).1, ofInt (heading mappings frames).2⟩ : Vec2 F) := by
  have held {key : KeyCode} (notAny : key ≠ .any) (notCount : key ≠ .count) :
      input.isKeyHeld key = .ok (key.heldAfter mappings frames) :=
    mirrors.isKeyHeld notAny notCount
  rw [cameraMovInput, held (by decide) (by decide), held (by decide) (by decide),
    held (by decide) (by decide), held (by decide) (by decide)]
  simp only [heading]
  generalize KeyCode.heldAfter mappings frames .s = down
  generalize KeyCode.heldAfter mappings frames .w = up
  generalize KeyCode.heldAfter mappings frames .a = left
  generalize KeyCode.heldAfter mappings frames .d = right
  have start : (0 : Vec2 F) = ⟨0, 0⟩ := rfl
  cases down <;> cases up <;> cases left <;> cases right <;>
    refine congrArg Except.ok (Vec2.ext ?_ ?_) <;> simp [ofInt, start]

end Stream

/-! ## One frame -/

section Frame

variable [Field F] [LinearOrder F] [IsStrictOrderedRing F] [Glm F]

/-- The motion of the camera in pixels of its new zoom. -/
def Camera.motion (camera before : Camera F) : Vec2 F :=
  (camera.position - before.position) * camera.pixelsPerUnit

/-- The camera as it would be without its motion. -/
def Camera.stayed (camera before : Camera F) : Camera F :=
  { camera with position := before.position }

/-- The number of pixels by which the picture moves in a frame. -/
def FrameEvents.stride (given : FrameEvents F) : F := literal 320 * given.deltaTime

/-- Cutting off the fraction changes a value by less than one. -/
theorem ExactTrunc.near (rounds : ExactTrunc F) (value : F) : |Glm.trunc value - value| < 1 := by
  rw [abs_lt]
  rcases le_total 0 value with nonneg | nonpos
  · obtain ⟨whole, isWhole, atLeast, below⟩ := rounds.of_nonneg value nonneg
    rw [isWhole]
    constructor <;> linarith
  · obtain ⟨whole, isWhole, above, atMost⟩ := rounds.of_nonpos value nonpos
    rw [isWhole]
    constructor <;> linarith

omit [IsStrictOrderedRing F] in
/-- The motion of the keys, as the code scales it. -/
theorem Game.moveCamera_eq {mappings : ScancodeMappings} {frames : List (FrameEvents F)}
    {input : Input} {camera moved : Camera F} {scaleFactorIdx : Int} {deltaTime : F}
    (mirrors : input.Mirrors mappings (Engine.happenings frames))
    (executed : moveCamera camera input scaleFactorIdx deltaTime = .ok moved) :
    ∃ scaleFactor : F, scaleFactors[scaleFactorIdx.toNat]? = some scaleFactor ∧
      let direction : Vec2 F :=
        ⟨ofInt (heading mappings frames).1, ofInt (heading mappings frames).2⟩
      let lengthSqr := Glm.dot direction direction
      moved =
        { camera with
          position :=
            if 0 < lengthSqr then
              camera.position +
                direction / Glm.sqrt lengthSqr * deltaTime * (cameraSpeed : F) * (1 / scaleFactor)
            else camera.position
          pixelsPerUnit := basePPU * scaleFactor } := by
  simp only [moveCamera, bind_eq_ok, pure_eq_ok, readAt_eq_ok] at executed
  obtain ⟨direction, pointed, scaleFactor, found, rfl⟩ := executed
  rw [cameraMovInput_eq mirrors, Except.ok.injEq] at pointed
  subst pointed
  exact ⟨scaleFactor, found, rfl⟩

/-- How the camera of the last frame follows from the one before it and from what the player has
done in all frames so far. -/
structure Pans [GlmTransform F] (mappings : ScancodeMappings) (frames : List (FrameEvents F))
    (before : Camera F) (given : FrameEvents F) (camera : Camera F) : Prop where
  windowDimensions : camera.windowDimensions = given.windowDimensions
  snaps : camera.snapToPixel = before.snapToPixel
  zoom : ∃ scaleFactor : F, Game.scaleFactors[(zoomAfter frames).toNat]? = some scaleFactor ∧
    camera.pixelsPerUnit = Game.basePPU * scaleFactor
  rests : heading mappings frames = (0, 0) → camera.position = before.position
  moves : heading mappings frames ≠ (0, 0) → ∀ direction : Vec2 F,
    direction = ⟨ofInt (heading mappings frames).1, ofInt (heading mappings frames).2⟩ →
    camera.motion before =
      direction * (given.stride / Glm.sqrt (Glm.dot direction direction)) ∧
    (Glm.sqrt (Glm.dot direction direction) * Glm.sqrt (Glm.dot direction direction) =
        Glm.dot direction direction →
      Glm.dot (camera.motion before) (camera.motion before) = given.stride * given.stride)
  glides : camera.Visible → camera.snapToPixel = true → ∀ world : Vec2 F,
    |(camera.worldPointToScreen world).x - ((camera.stayed before).worldPointToScreen world).x +
        (camera.motion before).x| < literal 2 ∧
      |(camera.worldPointToScreen world).y - ((camera.stayed before).worldPointToScreen world).y -
        (camera.motion before).y| < literal 2

/-- The picture follows the motion of the camera up to the two roundings to whole pixels. -/
theorem Camera.glides [GlmTransform F] (exact : ExactTransform F) (rounds : ExactTrunc F)
    {camera before : Camera F} (visible : camera.Visible) (snaps : camera.snapToPixel = true)
    (world : Vec2 F) :
    |(camera.worldPointToScreen world).x - ((camera.stayed before).worldPointToScreen world).x +
        (camera.motion before).x| < literal 2 ∧
      |(camera.worldPointToScreen world).y - ((camera.stayed before).worldPointToScreen world).y -
        (camera.motion before).y| < literal 2 := by
  have stayedVisible : (camera.stayed before).Visible := ⟨visible.1, visible.2, visible.3⟩
  have two : (literal 2 : F) = 2 := Rat.cast_ofNat 2
  -- on each axis, two positions are cut off to whole pixels
  have rounded (here there : F) :
      |Glm.trunc there - Glm.trunc here - (there - here)| < 2 := by
    have nearHere := abs_lt.mp (rounds.near here)
    have nearThere := abs_lt.mp (rounds.near there)
    rw [abs_lt]
    constructor <;> linarith
  rw [worldPointToScreen_snapped exact visible snaps,
    worldPointToScreen_snapped exact stayedVisible snaps, two]
  constructor
  · have across := rounded (camera.position.x * camera.pixelsPerUnit)
      (before.position.x * camera.pixelsPerUnit)
    refine lt_of_eq_of_lt (congrArg abs ?_) across
    show _ + (camera.position.x - before.position.x) * camera.pixelsPerUnit = _
    simp only [stayed]
    ring
  · have upwards := rounded (before.position.y * camera.pixelsPerUnit)
      (camera.position.y * camera.pixelsPerUnit)
    refine lt_of_eq_of_lt (congrArg abs ?_) upwards
    show _ - (camera.position.y - before.position.y) * camera.pixelsPerUnit = _
    simp only [stayed]
    ring

omit [Glm F] in
/-- The length of the motion is the same in every direction. -/
theorem dot_motion {direction motion : Vec2 F} {stride root : F}
    (isMotion : motion = direction * (stride / root))
    (isRoot : root * root = Glm.dot direction direction)
    (moves : Glm.dot direction direction ≠ 0) : Glm.dot motion motion = stride * stride := by
  have rootMoves : root ≠ 0 := by
    intro none
    rw [none, zero_mul] at isRoot
    exact moves isRoot.symm
  calc Glm.dot motion motion
      = Glm.dot direction direction * (stride / root * (stride / root)) := by
        rw [isMotion]
        show direction.x * (stride / root) * (direction.x * (stride / root)) +
          direction.y * (stride / root) * (direction.y * (stride / root)) =
            (direction.x * direction.x + direction.y * direction.y) * _
        ring
    _ = stride * stride := by
        rw [← isRoot]
        field_simp

omit [Glm F] in
/-- On each axis, speed and zoom cancel. -/
theorem Camera.stride_eq {position part root deltaTime scaleFactor : F} (scales : 0 < scaleFactor) :
    (position + part / root * deltaTime * Game.cameraSpeed * (1 / scaleFactor) - position) *
        (Game.basePPU * scaleFactor) = part * (literal 320 * deltaTime / root) := by
  have speed : (Game.cameraSpeed : F) = 5 := Rat.cast_ofNat 5
  have unit : (Game.basePPU : F) = 64 := Rat.cast_ofNat 64
  have pixels : (literal 320 : F) = 320 := Rat.cast_ofNat 320
  rw [speed, unit, pixels]
  calc (position + part / root * deltaTime * 5 * (1 / scaleFactor) - position) * (64 * scaleFactor)
      = part * (320 * deltaTime / root) * (1 / scaleFactor * scaleFactor) := by ring
    _ = part * (320 * deltaTime / root) := by
        rw [one_div_mul_cancel scales.ne', mul_one]

omit [Glm F] in
/-- The keys point somewhere unless the opposite ones cancel. -/
theorem heading_dot (heading : Int × Int) {direction : Vec2 F}
    (isDirection : direction = ⟨ofInt heading.1, ofInt heading.2⟩) :
    0 < Glm.dot direction direction ↔ heading ≠ (0, 0) := by
  have isDot : Glm.dot direction direction =
      (heading.1 : F) * heading.1 + (heading.2 : F) * heading.2 := by
    rw [isDirection]
    rfl
  rw [isDot]
  constructor
  · rintro positive rfl
    simp at positive
  · intro moves
    rcases not_and_or.mp fun both : heading.1 = 0 ∧ heading.2 = 0 => moves (Prod.ext both.1 both.2)
      with across | upwards
    · have square : 0 < (heading.1 : F) * heading.1 :=
        mul_self_pos.mpr (Int.cast_ne_zero.mpr across)
      linarith [mul_self_nonneg (heading.2 : F)]
    · have square : 0 < (heading.2 : F) * heading.2 :=
        mul_self_pos.mpr (Int.cast_ne_zero.mpr upwards)
      linarith [mul_self_nonneg (heading.1 : F)]

namespace Engine

variable [GlmTransform F] {mappings : ScancodeMappings} {platform : Platform F R}
  {std : ComparisonSort (SpriteDrawRequest F TextureData)} {fuel : Nat}
  {start engine : Engine F R} {past : List (FrameEvents F)} {given : FrameEvents F}

omit [IsStrictOrderedRing F] in
theorem FrameTrace.mirrors (ints : mappings.Ints) (between : Between mappings start past engine)
    (trace : FrameTrace mappings platform std fuel engine given) :
    trace.input.Mirrors mappings (happenings (past ++ [given])) :=
  Input.Mirrors.of_observeAll ints (between.after trace).input

omit [IsStrictOrderedRing F] in
theorem FrameTrace.wheelMotion_eq (ints : mappings.Ints)
    (between : Between mappings start past engine)
    (trace : FrameTrace mappings platform std fuel engine given) :
    trace.input.getMouseWheelMotion = given.wheelMotion := by
  rw [Input.getMouseWheelMotion, (trace.mirrors ints between).wheel, happenings,
    List.flatMap_append, List.flatMap_singleton, frameHappenings, wheelMotionSince_newFrame]
  rfl

omit [IsStrictOrderedRing F] in
/-- The zoom follows the wheel. -/
theorem FrameTrace.zoom_eq (ints : mappings.Ints) (between : Between mappings start past engine)
    (trace : FrameTrace mappings platform std fuel engine given)
    (zoomed : engine.scaleFactorIdx = zoomAfter past) :
    Game.zoom engine.scaleFactorIdx trace.input.getMouseWheelMotion =
      zoomAfter (past ++ [given]) := by
  rw [trace.wheelMotion_eq ints between, zoomed, zoomAfter_concat]

/-- A frame pans the camera. -/
theorem FrameTrace.pans (exact : ExactTransform F) (rounds : ExactTrunc F) (ints : mappings.Ints)
    (between : Between mappings start past engine)
    (trace : FrameTrace mappings platform std fuel engine given)
    (zoomed : engine.scaleFactorIdx = zoomAfter past) :
    Pans mappings (past ++ [given]) engine.camera given trace.camera := by
  obtain ⟨scaleFactor, found, isCamera⟩ :=
    Game.moveCamera_eq (trace.mirrors ints between) trace.moved
  rw [trace.zoom_eq ints between zoomed] at found
  have scales : 0 < scaleFactor := Game.scaleFactors_pos scaleFactor (List.mem_of_getElem? found)
  have isMotion (moves : heading mappings (past ++ [given]) ≠ (0, 0)) (direction : Vec2 F)
      (isDirection : direction = ⟨ofInt (heading mappings (past ++ [given])).1,
        ofInt (heading mappings (past ++ [given])).2⟩) :
      trace.camera.motion engine.camera =
        direction * (given.stride / Glm.sqrt (Glm.dot direction direction)) := by
    rw [← isDirection] at isCamera
    dsimp only at isCamera
    rw [if_pos ((heading_dot _ isDirection).mpr moves)] at isCamera
    rw [isCamera]
    refine Vec2.ext ?_ ?_
    · exact Camera.stride_eq scales
    · exact Camera.stride_eq scales
  refine ⟨?_, ?_, ⟨scaleFactor, found, ?_⟩, ?_, ?_, ?_⟩
  · rw [isCamera]
  · rw [isCamera]
  · rw [isCamera]
  · intro rests
    rw [rests] at isCamera
    dsimp only at isCamera
    rw [if_neg ((heading_dot (F := F) (0, 0) rfl).not.mpr (not_not.mpr rfl))] at isCamera
    rw [isCamera]
  · intro moves direction isDirection
    refine ⟨isMotion moves direction isDirection, fun isRoot => ?_⟩
    exact dot_motion (isMotion moves direction isDirection) isRoot
      ((heading_dot _ isDirection).mpr moves).ne'
  · exact fun visible snaps world => Camera.glides exact rounds visible snaps world

/-! ## All frames -/

/-- The camera before the next frame. -/
def cameraBefore (start : Camera F) (past : List (FrameEvents F × FrameRecord F R)) : Camera F :=
  (past.getLast?.map fun shown => shown.2.camera).getD start

theorem run_pans {finish : Engine F R} {frames : List (FrameEvents F)}
    {records : List (FrameRecord F R)} (exact : ExactTransform F) (rounds : ExactTrunc F)
    (ints : mappings.Ints) (initially : Between mappings start [] start)
    (zoomed : start.scaleFactorIdx = zoomAfter ([] : List (FrameEvents F)))
    (run : Run (frame mappings platform std fuel) start frames records finish) :
    EachAfter (fun past shown => Pans mappings (past.map Prod.fst ++ [shown.1])
        (cameraBefore start.camera past) shown.1 shown.2.camera) (frames.zip records) ∧
      finish.camera = cameraBefore start.camera (frames.zip records) ∧
      finish.scaleFactorIdx = zoomAfter frames := by
  induction run with
  | nil => exact ⟨.nil, rfl, zoomed⟩
  | snoc before executed ih =>
      obtain ⟨earlier, isCamera, isZoom⟩ := ih
      have between := (run_refines ints initially before).2
      obtain ⟨trace, rfl, rfl⟩ := frame_eq_ok executed
      have pans := trace.pans exact rounds ints between isZoom
      rw [isCamera] at pans
      rw [List.zip_append before.length_eq]
      refine ⟨earlier.concat ?_, ?_, trace.zoom_eq ints between isZoom⟩
      · rw [List.map_fst_zip before.length_eq.le]
        exact pans
      · show _ = cameraBefore _ (_ ++ [_])
        rw [cameraBefore, List.getLast?_concat]
        rfl

/-- In every run of the loop the camera pans and zooms as the event stream says. -/
theorem runInternal_pans {process : Process F R} {interpolatedState : GameState F R}
    {render : RenderContextDX11} {tilesetHelper : List (Tileset F TextureData)}
    {staticMapDrawList : List (SpriteDrawRequest F TextureData)} {finish : Engine F R}
    {frames : List (FrameEvents F)} {records : List (FrameRecord F R)}
    (exact : ExactTransform F) (rounds : ExactTrunc F) (ints : mappings.Ints)
    (executed : runInternal mappings platform std fuel
      (initialized (.initialized process interpolatedState) render tilesetHelper
        staticMapDrawList) frames = .ok (finish, records)) :
    EachAfter (fun past shown => Pans mappings (past.map Prod.fst ++ [shown.1])
        (cameraBefore ⟨0, literal 64, true, ⟨1, 1⟩⟩ past) shown.1 shown.2.camera)
      (frames.zip records) := by
  have pans := (run_pans exact rounds ints (.initialized rfl) rfl (run_of_runInternal executed)).1
  rwa [List.zip, zipWith_take_length] at pans

end Engine

end Frame

/-! ## A step to the right -/

section Clearing

open Rational Engine

/-- In a twentieth of a second the player presses the key to the right, and quits. -/
def Rational.panAndQuit : FrameEvents ℚ :=
  { clickAndQuit with
    events :=
      [{ event := .keyDown ⟨7, by decide⟩, wantCaptureMouse := false, wantCaptureKeyboard := false
         imguiConsumedEvent := false },
       { event := .quit, wantCaptureMouse := false, wantCaptureKeyboard := false
         imguiConsumedEvent := false }] }

/-- The camera has moved by sixteen pixels. -/
theorem Engine.step_pans : ∃ process record finish shown,
    clearing.fromMap platform 10 = .ok (process, record) ∧
    runInternal assignedMappings platform .merge 10 (clearingEngine process)
      [panAndQuit, panAndQuit] = .ok (finish, [shown]) ∧
    shown.camera = { centered with position := ⟨1 / 4, 0⟩ } ∧
    Pans assignedMappings [panAndQuit] ⟨0, literal 64, true, ⟨1, 1⟩⟩ panAndQuit shown.camera := by
  have seen : panAndQuit.pointed { centered with position := ⟨1 / 4, 0⟩ } = ⟨1 / 4, 0⟩ := by
    have visible : Camera.Visible { centered with position := ⟨1 / 4, 0⟩ } :=
      ⟨by norm_num [centered], by decide, by decide⟩
    rw [FrameEvents.pointed, Camera.screenPointToWorld_eq exactTransform visible]
    decide +kernel
  obtain ⟨process, record, finish, shown, loaded, executed, isCamera, _⟩ :=
    exists_frame (clearing.fromMap platform 10) assignedMappings (fun _ => true) seen
      (by decide +kernel)
  exact ⟨process, record, finish, shown, loaded, executed, isCamera,
    runInternal_pans exactTransform exactTrunc
      (generateScancodeMappings_ints ScancodeMappings.any_ints) executed [] (panAndQuit, shown) []
      rfl⟩

end Clearing

end TowerDefence
