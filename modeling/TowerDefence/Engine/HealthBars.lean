import TowerDefence.Engine.FloatCompare
import TowerDefence.Engine.Picking
import TowerDefence.Game.FixedStep
import TowerDefence.Model.Overlay
import TowerDefence.Session.LifeCycle
import TowerDefence.Session.Safety

/-!
# Health bars

In every frame the bars stand over the enemies that the frame shows: one over each wounded
enemy, in the upper part of its tile, filled by the part of its health that is left.  An enemy
counts as wounded when more than two floats lie between its health and the full one.
-/

namespace TowerDefence

open Foundations RenderContextDX11

variable {F R : Type} [Field F] [LinearOrder F] [IsStrictOrderedRing F] [AsBinary32 F]

/-! ## One bar -/

omit [IsStrictOrderedRing F] in
/-- The comparison counts the floats between two healths. -/
theorem nearlyEqUlps_eq (rounds : RoundsToBinary32 F) {a b : F} (nonneg : 0 ≤ a) (less : a ≤ b) :
    nearlyEqUlps a b =
      .ok (decide ((toBinary32 b).ordinal - (toBinary32 a).ordinal ≤ 2)) := by
  have numberA := rounds.isNumber a nonneg
  have numberB := rounds.isNumber b (nonneg.trans less)
  have signA := rounds.noSign a nonneg
  have signB := rounds.noSign b (nonneg.trans less)
  have ordered := rounds.monotone a b nonneg less
  have boundA := Binary32.magnitude_le numberA
  have boundB := Binary32.magnitude_le numberB
  have ordinalA : (toBinary32 a).ordinal = (toBinary32 a).magnitude := by
    rw [Binary32.ordinal, signA, if_neg Bool.false_ne_true]
  have ordinalB : (toBinary32 b).ordinal = (toBinary32 b).magnitude := by
    rw [Binary32.ordinal, signB, if_neg Bool.false_ne_true]
  have sameSide : (toBinary32 a).lt .zero = (toBinary32 b).lt .zero := by
    rw [Binary32.lt_zero_eq numberA, Binary32.lt_zero_eq numberB, decide_eq_decide]
    omega
  have patterns : (reinterpretAsInt (toBinary32 a) - reinterpretAsInt (toBinary32 b)).natAbs =
      ((toBinary32 b).ordinal - (toBinary32 a).ordinal).toNat := by
    rw [Binary32.reinterpretAsInt_eq, Binary32.reinterpretAsInt_eq, signA, signB,
      if_neg Bool.false_ne_true, if_neg Bool.false_ne_true]
    omega
  have bound : defaultMaxUlps.toNat = 2 := rfl
  rw [nearlyEqUlps, Binary32.areNearlyEqUlps_of_sameSide sameSide, patterns, bound,
    if_pos (by omega)]
  refine congrArg Except.ok (decide_eq_decide.mpr ?_)
  omega

/-- The enemy gets a bar: it lives, and more than two floats lie between its health and the full
one. -/
def Enemy.hasBar (mapData : MapData F) (enemy : Enemy F) : Bool :=
  match mapData.enemyTypes[enemy.typeIdx]? with
  | some type =>
      !isNearlyZero enemy.remainingHealth &&
        2 < (toBinary32 type.maxHealth).ordinal - (toBinary32 enemy.remainingHealth).ordinal
  | none => false

section Bar

variable [Glm F] [GlmTransform F] {camera : Camera F} {mapData : MapData F} {enemy : Enemy F}

omit [IsStrictOrderedRing F] [AsBinary32 F] in
/-- The bar takes the upper fifth of the tile around the enemy, and it is partly filled. -/
structure ShowsHealth (mapData : MapData F) (camera : Camera F) (enemy : Enemy F)
    (bar : ProgressBar F) : Prop where
  upperLeft : bar.cursorPos =
    camera.worldPointToScreen ⟨enemy.position.x - 1 / 2, enemy.position.y + 1 / 2⟩
  lowerRight : bar.cursorPos + bar.size =
    camera.worldPointToScreen ⟨enemy.position.x + 1 / 2, enemy.position.y + 3 / 10⟩
  fraction : ∃ type, mapData.enemyTypes[enemy.typeIdx]? = some type ∧
    bar.fraction = enemy.remainingHealth / type.maxHealth
  partly : 0 < bar.fraction ∧ bar.fraction < 1

omit [IsStrictOrderedRing F] [Glm F] [GlmTransform F] in
theorem Enemy.hasBar_eq {type : EnemyType F}
    (typed : mapData.enemyTypes[enemy.typeIdx]? = some type) :
    enemy.hasBar mapData = (!isNearlyZero enemy.remainingHealth &&
      2 < (toBinary32 type.maxHealth).ordinal - (toBinary32 enemy.remainingHealth).ordinal) := by
  rw [hasBar, typed]

/-- An enemy gets its bar exactly if it is wounded and lives. -/
theorem Game.healthBar_shows (exact : ExactTransform F) (visible : camera.Visible)
    (rounds : RoundsToBinary32 F) (inRange : enemy.HealthInRange mapData) :
    (enemy.hasBar mapData = true → ∃ bar, healthBar mapData camera enemy = .ok (some bar) ∧
      ShowsHealth mapData camera enemy bar) ∧
    (enemy.hasBar mapData = false → healthBar mapData camera enemy = .ok none) := by
  obtain ⟨type, typed, nonneg, bounded⟩ := inRange
  rw [Enemy.hasBar_eq typed, healthBar, readAt_eq_ok.mpr typed]
  simp only [bind, Except.bind, nearlyEqUlps_eq rounds nonneg bounded]
  constructor
  · intro wounded
    rw [Bool.and_eq_true, Bool.not_eq_true', decide_eq_true_eq] at wounded
    obtain ⟨notZero, apart⟩ := wounded
    have positive : 0 < enemy.remainingHealth :=
      defaultMaxDiff_pos.trans (isNearlyZero_eq_false_iff.mp notZero)
    have less : enemy.remainingHealth < type.maxHealth := by
      by_contra atLeast
      have ordered := rounds.monotone _ _ (positive.le.trans bounded) (not_lt.mp atLeast)
      omega
    let bar : ProgressBar F :=
      { cursorPos := camera.worldPointToScreen (enemy.position + ⟨-literal 0.5, literal 0.5⟩)
        fraction := enemy.remainingHealth / type.maxHealth
        size := camera.worldUnitsToPixels₂ ⟨1, literal 0.2⟩ }
    have fifth : (literal 0.2 : F) = 1 / 5 := by
      show ((0.2 : ℚ) : F) = 1 / 5
      norm_num
    have corner : bar.cursorPos =
        camera.worldPointToScreen ⟨enemy.position.x - 1 / 2, enemy.position.y + 1 / 2⟩ := by
      refine congrArg camera.worldPointToScreen (Vec2.ext ?_ ?_)
      · rw [Vec2.add_x, literal_half, ← sub_eq_add_neg]
      · rw [Vec2.add_y, literal_half]
    refine ⟨bar, ?_, corner, ?lowerRight, ⟨type, typed, rfl⟩, ?partly⟩
    · rw [notZero, decide_eq_false (not_le.mpr apart), Bool.or_false, if_neg Bool.false_ne_true]
      rfl
    case lowerRight =>
      -- the camera measures the bar as the distance of its corners
      have apart := Camera.worldPointToScreen_sub exact visible
        ⟨enemy.position.x + 1 / 2, enemy.position.y + 3 / 10⟩
        ⟨enemy.position.x - 1 / 2, enemy.position.y + 1 / 2⟩
      rw [← corner, Vec2.ext_iff, Vec2.sub_x, Vec2.sub_y, sub_eq_iff_eq_add,
        sub_eq_iff_eq_add] at apart
      have size : bar.size = ⟨1 * camera.pixelsPerUnit, 1 / 5 * camera.pixelsPerUnit⟩ := by
        rw [← fifth]
        rfl
      rw [Vec2.ext_iff, Vec2.add_x, Vec2.add_y, apart.1, apart.2, size]
      simp only [Camera.worldUnitsToPixels₂, Camera.worldUnitsToPixels, Vec2.sub_x, Vec2.sub_y]
      constructor
      · ring
      · ring
    case partly =>
      exact ⟨div_pos positive (positive.trans less), (div_lt_one (positive.trans less)).mpr less⟩
  · intro unwounded
    rw [Bool.and_eq_false_iff, Bool.not_eq_false', decide_eq_false_iff_not, not_lt] at unwounded
    rcases unwounded with nearlyZero | near
    · rw [nearlyZero, Bool.or_true, if_pos rfl]
      rfl
    · rw [decide_eq_true near, Bool.true_or, if_pos rfl]
      rfl

omit [IsStrictOrderedRing F] [AsBinary32 F] [Glm F] [GlmTransform F] [LinearOrder F] [Field F] in
/-- The function is called for every enemy, in the order of the list. -/
theorem GameState.forEachEnemy_eq {state : GameState F R} {enemies : List (Enemy F × EnemyType F)}
    (executed : state.forEachEnemy mapData = .ok enemies) :
    enemies.map Prod.fst = state.enemies := by
  have each := forall₂_of_mapM executed
  clear executed
  generalize state.enemies = items at each ⊢
  induction each with
  | nil => rfl
  | cons first _ ih =>
      simp only [bind_eq_ok, pure_eq_ok] at first
      obtain ⟨type, _, rfl⟩ := first
      rw [List.map_cons, ih]

/-- Exactly the wounded enemies get a bar. -/
theorem Game.healthBars_show {state : GameState F R} (exact : ExactTransform F)
    (visible : camera.Visible) (rounds : RoundsToBinary32 F)
    (inRange : ∀ enemy ∈ state.enemies, enemy.HealthInRange mapData) :
    ∃ bars, healthBars mapData camera state = .ok bars ∧
      List.Forall₂ (ShowsHealth mapData camera) (state.enemies.filter (Enemy.hasBar mapData))
        bars := by
  obtain ⟨enemies, passed⟩ : ∃ enemies, state.forEachEnemy mapData = .ok enemies := by
    apply exists_mapM
    intro enemy member
    obtain ⟨type, typed, _⟩ := inRange enemy member
    exact ⟨(enemy, type), by rw [readAt_eq_ok.mpr typed]; rfl⟩
  have listed := GameState.forEachEnemy_eq passed
  have inState : ∀ drawn ∈ enemies, drawn.1 ∈ state.enemies := by
    intro drawn member
    rw [← listed]
    exact List.mem_map_of_mem member
  obtain ⟨bars, collected, shown⟩ : ∃ bars : List (Option (ProgressBar F)),
      (enemies.mapM fun drawn => healthBar mapData camera drawn.1) = .ok bars ∧
        List.Forall₂ (fun drawn bar => ShowsHealth mapData camera drawn.1 bar)
          (enemies.filter fun drawn => drawn.1.hasBar mapData) (bars.filterMap id) := by
    apply exists_mapM_some
    · intro drawn member wounded
      exact (healthBar_shows exact visible rounds (inRange drawn.1 (inState drawn member))).1
        wounded
    · intro drawn member unwounded
      exact (healthBar_shows exact visible rounds (inRange drawn.1 (inState drawn member))).2
        unwounded
  refine ⟨bars.filterMap id, ?_, ?_⟩
  · rw [healthBars, passed]
    simp only [bind, Except.bind, collected]
    rfl
  · rw [← listed, List.filter_map, List.forall₂_map_left_iff]
    exact shown

end Bar

/-! ## Frames -/

section Frames

variable [Glm F] {mapData : MapData F}

omit [IsStrictOrderedRing F] [AsBinary32 F] in
/-- Interpolated enemies have the health of the newer state. -/
theorem GameState.interpolate_inRange {prev next outState state : GameState F R} {amount : F}
    {fuel : Nat} (executed : interpolate prev next outState amount fuel = .ok state)
    (inRange : ∀ enemy ∈ next.enemies, enemy.HealthInRange mapData) :
    ∀ enemy ∈ state.enemies, enemy.HealthInRange mapData := by
  simp only [interpolate, bind_eq_ok, pure_eq_ok] at executed
  obtain ⟨enemies, interpolated, _, _, _, _, rfl⟩ := executed
  exact (interpolateEntities_avoids (fun enemy => enemy.HealthInRange mapData)
    (fun _ _ ofNext => ofNext) inRange (by simp) 0 0).of_ok interpolated

variable {platform : Platform F R} {fuel : Nat}

omit [AsBinary32 F] in
/-- No step heals an enemy above the maximum or harms it below zero. -/
theorem World.run_inRange {world : World F R} {start finish : GameState F R}
    {batches : List (List (GameCommand F))} {records : List (StepRecord F)}
    (run : Run world.step start batches records finish)
    (healthy : ∀ type ∈ world.mapData.enemyTypes, 0 ≤ type.maxHealth)
    (damaging : ∀ type ∈ world.mapData.projectileTypes, 0 ≤ type.damage)
    (inRange : ∀ enemy ∈ start.enemies, enemy.HealthInRange world.mapData) :
    ∀ enemy ∈ finish.enemies, enemy.HealthInRange world.mapData := by
  have changes : Battle.Changes world.mapData ⟨start.enemies, []⟩
      ⟨finish.enemies, [] ++ history records⟩ := World.run_changes run []
  exact changes.inRange healthy damaging inRange

omit [AsBinary32 F] in
theorem Game.run_inRange {start finish : Game F R} {inputs : List (FrameInput F)}
    {outputs : List (List (Action F))} (quiet : start.gameEvents = [])
    (run : Run (update platform fuel) start inputs outputs finish)
    (healthy : ∀ type ∈ start.process.session.mapData.enemyTypes, 0 ≤ type.maxHealth)
    (damaging : ∀ type ∈ start.process.session.mapData.projectileTypes, 0 ≤ type.damage)
    (inRange : ∀ enemy ∈ start.process.session.next.enemies,
      enemy.HealthInRange start.process.session.mapData) :
    ∀ enemy ∈ finish.process.session.next.enemies,
      enemy.HealthInRange start.process.session.mapData := by
  exact World.run_inRange (Process.run_refines platform fuel (run_delivers quiet run).run).1 healthy
    damaging inRange

variable [GlmTransform F] {mappings : ScancodeMappings}
  {std : ComparisonSort (SpriteDrawRequest F TextureData)}

/-- The bars of the frame are those of the wounded enemies that it shows, and they stand where
it shows them. -/
def ShowsBars (mapData : MapData F) (record : FrameRecord F R) : Prop :=
  ∃ bars : List (ProgressBar F),
    Game.healthBars mapData record.camera record.interpolatedState = .ok bars ∧
      List.Forall₂ (ShowsHealth mapData record.camera)
        (record.interpolatedState.enemies.filter (Enemy.hasBar mapData)) bars

namespace Engine

/-- A frame in a window shows the bars of what it displays. -/
theorem FrameTrace.showsBars {engine : Engine F R} {given : FrameEvents F}
    (exact : ExactTransform F) (rounds : RoundsToBinary32 F)
    (trace : FrameTrace mappings platform std fuel engine given)
    (inRange : ∀ enemy ∈ trace.game.process.session.next.enemies, enemy.HealthInRange mapData)
    (width : 1 ≤ given.windowDimensions.x) (height : 1 ≤ given.windowDimensions.y) :
    ShowsBars mapData trace.shown := by
  obtain ⟨_, interpolated⟩ := Game.update_interpolates trace.updated
  exact Game.healthBars_show exact (trace.visible width height) rounds
    (GameState.interpolate_inRange interpolated inRange)

/-- In every frame that is shown in a window, the bars are those of the wounded enemies that the
frame shows, and they stand where it shows them. -/
theorem runInternal_healthBars {process : Process F R} {interpolatedState : GameState F R}
    {render : RenderContextDX11} {tilesetHelper : List (Tileset F TextureData)}
    {staticMapDrawList : List (SpriteDrawRequest F TextureData)} {finish : Engine F R}
    {frames : List (FrameEvents F)} {records : List (FrameRecord F R)} (exact : ExactTransform F)
    (rounds : RoundsToBinary32 F) (ints : mappings.Ints)
    (healthy : ∀ type ∈ process.session.mapData.enemyTypes, 0 ≤ type.maxHealth)
    (damaging : ∀ type ∈ process.session.mapData.projectileTypes, 0 ≤ type.damage)
    (inRange : ∀ enemy ∈ process.session.next.enemies,
      enemy.HealthInRange process.session.mapData)
    (executed : runInternal mappings platform std fuel
      (initialized (.initialized process interpolatedState) render tilesetHelper
        staticMapDrawList) frames = .ok (finish, records)) :
    ∀ frame ∈ frames.zip records,
      1 ≤ frame.1.windowDimensions.x → 1 ≤ frame.1.windowDimensions.y →
        ShowsBars process.session.mapData frame.2 := by
  have run := run_of_runInternal executed
  have each : List.Forall₂ (fun (given : FrameEvents F) record =>
      1 ≤ given.windowDimensions.x → 1 ≤ given.windowDimensions.y →
        ShowsBars process.session.mapData record)
      (frames.take records.length) records := by
    apply run_each run
    intro past pastRecords engine given trace before width height
    obtain ⟨games, _⟩ := run_refines ints (.initialized rfl) before
    exact trace.showsBars exact rounds
      (Game.run_inRange rfl (games.snoc trace.updated) healthy damaging inRange) width height
  rintro ⟨given, record⟩ member
  rw [List.zip, ← zipWith_take_length] at member
  exact (List.forall₂_iff_zip.mp each).2 member

end Engine

end Frames

/-! ## A wounded giant -/

section Clearing

open Rational Engine
open Binary32 (format)

/-- The magnitude of the greatest float up to a value that is not negative. -/
def Rational.magnitude (value : ℚ) : Nat :=
  Nat.findGreatest (fun magnitude => format.units magnitude * format.unit ≤ value) format.infinity

instance : AsBinary32 ℚ where
  toBinary32 value := ⟨BitVec.ofNat 32 (magnitude value)⟩

theorem Rational.magnitude_le (value : ℚ) : magnitude value ≤ 2139095040 := by
  rw [← Binary32.infinity_eq]
  exact Nat.findGreatest_le _

theorem Rational.toBinary32_fields (value : ℚ) :
    (toBinary32 value).isNegative = false ∧ (toBinary32 value).magnitude = magnitude value := by
  have bound := magnitude_le value
  have low : magnitude value < 2 ^ 31 := by omega
  have bits : (toBinary32 value).bits.toNat = magnitude value :=
    (BitVec.toNat_ofNat _ _).trans (Nat.mod_eq_of_lt (by omega))
  refine ⟨?_, ?_⟩
  · rw [Binary32.isNegative, BitVec.msb_eq_decide, bits, decide_eq_false_iff_not]
    omega
  · rw [Binary32.magnitude, bits, Nat.mod_eq_of_lt low]

theorem Rational.toBinary32_ordinal (value : ℚ) :
    (toBinary32 value).ordinal = magnitude value := by
  obtain ⟨noSign, isMagnitude⟩ := toBinary32_fields value
  rw [Binary32.ordinal, noSign, if_neg Bool.false_ne_true, isMagnitude]

theorem Rational.roundsToBinary32 : RoundsToBinary32 ℚ where
  isNumber value _ := by
    rw [Binary32.isNaN, (toBinary32_fields value).2, decide_eq_false_iff_not, not_lt]
    exact Nat.findGreatest_le _
  noSign value _ := (toBinary32_fields value).1
  monotone a b _ less := by
    rw [toBinary32_ordinal, toBinary32_ordinal, Int.ofNat_le]
    exact Nat.findGreatest_mono_left (fun _ atMost => atMost.trans less) _

/-- A float is its own conversion. -/
theorem Rational.magnitude_eq {value : ℚ} {units : Nat} (finite : units ≤ 2139095040)
    (isValue : format.units units * format.unit = value) : magnitude value = units := by
  have increasing := strictMono_nat_of_lt_succ (@BinaryFormat.units_lt_succ format)
  rw [magnitude, Nat.findGreatest_eq_iff, Binary32.infinity_eq]
  refine ⟨finite, fun _ => isValue.le, fun other more _ => ?_⟩
  rw [← isValue, not_le]
  exact mul_lt_mul_of_pos_right (Nat.cast_lt.mpr (increasing more)) BinaryFormat.unit_pos

/-- The step of the first frame lets the giant lose half of his health, and the frame shows it. -/
theorem Engine.giant_healthBars : ∃ process records finish shown bar,
    clearing.play platform 10 ((duel 2 0).take 3) = .ok (process, records) ∧
    runInternal (fun _ => KeyCode.any.value) platform .merge 10 (clearingEngine process)
      [clickAndQuit, clickAndQuit] = .ok (finish, [shown]) ∧
    (shown.interpolatedState.enemies.map fun enemy => (enemy.typeIdx, enemy.remainingHealth)) =
      [(2, 10)] ∧
    ShowsBars process.session.mapData shown ∧
    Game.healthBars process.session.mapData shown.camera shown.interpolatedState = .ok [bar] := by
  obtain ⟨process, records, finish, shown, played, executed, _, wounded⟩ :=
    exists_frame (clearing.play platform 10 ((duel 2 0).take 3)) (fun _ => KeyCode.any.value)
      (fun shown => decide
        ((shown.interpolatedState.enemies.map fun enemy => (enemy.typeIdx, enemy.remainingHealth)) =
          [(2, 10)]))
      pointed_centered (by decide +kernel)
  have wounded := of_decide_eq_true wounded
  have sameWorld := (Process.run_refines platform 10 (Boot.run_of_play platform 10 played)).2
  have sameMap : process.session.mapData = clearing.mapData :=
    congrArg World.mapData sameWorld
  have healthy : ∀ type ∈ clearing.mapData.enemyTypes, 0 ≤ type.maxHealth := by
    decide +kernel
  have damaging : ∀ type ∈ clearing.mapData.projectileTypes, 0 ≤ type.damage := by
    decide +kernel
  have inRange := World.run_inRange (Boot.pure_run_of_play platform 10 played) healthy damaging
    fun enemy member => by cases member
  have inWindow : 1 ≤ clickAndQuit.windowDimensions.x ∧ 1 ≤ clickAndQuit.windowDimensions.y := by
    decide
  have shows : ShowsBars process.session.mapData shown := by
    apply runInternal_healthBars exactTransform roundsToBinary32 ScancodeMappings.any_ints _ _ _
      executed (clickAndQuit, shown) List.mem_cons_self inWindow.1 inWindow.2
    · rw [sameMap]
      exact healthy
    · rw [sameMap]
      exact damaging
    · rw [sameMap]
      exact inRange
  obtain ⟨bars, drawn, each⟩ := shows
  have counted : (shown.interpolatedState.enemies.filter
      (Enemy.hasBar process.session.mapData)).length = 1 := by
    obtain ⟨enemy, isOnly, isGiant⟩ := List.map_eq_singleton_iff.mp wounded
    obtain ⟨isType, isHealth⟩ := Prod.ext_iff.mp isGiant
    dsimp only at isType isHealth
    obtain ⟨type, typed, full⟩ : ∃ type, clearing.mapData.enemyTypes[2]? = some type ∧
        type.maxHealth = 20 := ⟨_, rfl, rfl⟩
    have twenty : magnitude 20 = 1101004800 := magnitude_eq (by decide) (by decide +kernel)
    have ten : magnitude 10 = 1092616192 := magnitude_eq (by decide) (by decide +kernel)
    have hasBar : enemy.hasBar process.session.mapData = true := by
      rw [sameMap, Enemy.hasBar_eq (isType ▸ typed), isHealth, full, toBinary32_ordinal,
        toBinary32_ordinal, twenty, ten]
      decide +kernel
    rw [isOnly, List.filter_singleton, hasBar]
    rfl
  obtain ⟨bar, isBar⟩ := List.length_eq_one_iff.mp (each.length_eq ▸ counted)
  exact ⟨process, records, finish, shown, bar, played, executed, wounded, ⟨bars, drawn, each⟩,
    isBar ▸ drawn⟩

end Clearing

end TowerDefence
