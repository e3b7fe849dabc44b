import TowerDefence.Model.Binary32
import TowerDefence.Model.Engine

/-!
# What is drawn over the picture

`Game::Update` puts a bar over every wounded enemy.  It does so in a window of the user
interface that covers the whole screen, so a position in the window is a pixel.
-/

namespace TowerDefence

variable {F R : Type}

/-! ## Health bars -/

/-- The `float` in which the engine keeps a value of the arithmetic. -/
class AsBinary32 (F : Type) where
  toBinary32 : F → Binary32

export AsBinary32 (toBinary32)

/-- What the conversion of values that are not negative relies on in exact arithmetic: it gives
numbers without a sign and keeps their order. -/
structure RoundsToBinary32 (F : Type) [Field F] [LinearOrder F] [AsBinary32 F] : Prop where
  isNumber : ∀ value : F, 0 ≤ value → (toBinary32 value).isNaN = false
  noSign : ∀ value : F, 0 ≤ value → (toBinary32 value).isNegative = false
  monotone : ∀ a b : F, 0 ≤ a → a ≤ b → (toBinary32 a).ordinal ≤ (toBinary32 b).ordinal

/-- `AreNearlyEqUlps` with the default bound. -/
def nearlyEqUlps [AsBinary32 F] (a b : F) : Exec Bool :=
  (areNearlyEqUlps (toBinary32 a) (toBinary32 b) defaultMaxUlps).mapError fun _ => .signedOverflow

/-- `ImGui::ProgressBar`: the cursor that was set before the call, and the arguments. -/
structure ProgressBar (F : Type) where
  cursorPos : Vec2 F
  fraction : F
  size : Vec2 F

/-- `ForEachEnemy`: the pairs that are passed to the function. -/
def GameState.forEachEnemy (mapData : MapData F) (state : GameState F R) :
    Exec (List (Enemy F × EnemyType F)) :=
  state.enemies.mapM fun enemy => do
    let type ← readAt mapData.enemyTypes enemy.typeIdx
    pure (enemy, type)

namespace Game

variable [Arithmetic F] [Glm F] [GlmTransform F] [AsBinary32 F]

/-- The function that `Update` passes to `ForEachEnemy`: the bar of one enemy, if it is wounded
and alive. -/
def healthBar (mapData : MapData F) (camera : Camera F) (enemy : Enemy F) :
    Exec (Option (ProgressBar F)) := do
  let enemyType ← readAt mapData.enemyTypes enemy.typeIdx
  let unwounded ← nearlyEqUlps enemy.remainingHealth enemyType.maxHealth
  if unwounded || isNearlyZero enemy.remainingHealth then
    pure none
  else
    let hpOffset : Vec2 F := ⟨-literal 0.5, literal 0.5⟩
    let hpDim : Vec2 F := ⟨1, literal 0.2⟩
    let screenPosition := camera.worldPointToScreen (enemy.position + hpOffset)
    let screenSize := camera.worldUnitsToPixels₂ hpDim
    pure (some
      { cursorPos := screenPosition
        fraction := enemy.remainingHealth / enemyType.maxHealth
        size := screenSize })

/-- The bars that `Update` draws. -/
def healthBars (mapData : MapData F) (camera : Camera F) (interpolatedState : GameState F R) :
    Exec (List (ProgressBar F)) := do
  let enemies ← interpolatedState.forEachEnemy mapData
  let bars ← enemies.mapM fun drawn => healthBar mapData camera drawn.1
  pure (bars.filterMap id)

end Game

end TowerDefence
