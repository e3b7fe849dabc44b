import TowerDefence.Engine.Camera
import TowerDefence.Foundations.Triangles
import TowerDefence.Model.Engine
import TowerDefence.Model.Rational
import TowerDefence.Model.Transform

/-!
# The quad of a sprite

A sprite is drawn as two triangles.  The vertex shader turns and scales a unit square around the
position of the sprite and hands the corners to the device, with a texture coordinate each.  The
triangles between these corners make up the turned square, and the texture lies upright in it,
without a seam.
-/

namespace TowerDefence

open Foundations RenderContextDX11

variable {F : Type} [Field F] [LinearOrder F] [IsStrictOrderedRing F]

/-! ## Triangles -/

/-- A triangle of the quad holds a position in clip space with a texture coordinate: both are the
same mixture of what the vertex shader returned for its corners. -/
def Spans (vertices : List (PSInput F)) (clip uv : Vec2 F) : Prop :=
  ∃ triangle ∈ quadIdxs, ∃ a b c : PSInput F, vertices[triangle.1]? = some a ∧
    vertices[triangle.2.1]? = some b ∧ vertices[triangle.2.2]? = some c ∧
    ∃ weights : Weights F,
      clip = ⟨weights.mix a.pos.x b.pos.x c.pos.x, weights.mix a.pos.y b.pos.y c.pos.y⟩ ∧
      uv = ⟨weights.mix a.uv.x b.uv.x c.uv.x, weights.mix a.uv.y b.uv.y c.uv.y⟩

/-! ## A point of the unit square -/

namespace SpriteInstanceData

variable [Glm F] (vin : SpriteInstanceData F)

/-- Where a point of the unit square is in the world. -/
def place (point : Vec2 F) : Vec2 F :=
  ⟨Glm.cos vin.rotation * (point.x * vin.scale.x) - Glm.sin vin.rotation * (point.y * vin.scale.y) +
      vin.position.x,
    Glm.sin vin.rotation * (point.x * vin.scale.x) + Glm.cos vin.rotation * (point.y * vin.scale.y) +
      vin.position.y⟩

omit [LinearOrder F] [IsStrictOrderedRing F] [Glm F] in
/-- What the texture shows at a point of the unit square; its rows go downwards. -/
def texel (point : Vec2 F) : Vec2 F :=
  ⟨vin.uvMin.x + (literal 0.5 + point.x) * (vin.uvMax.x - vin.uvMin.x),
    vin.uvMin.y + (literal 0.5 - point.y) * (vin.uvMax.y - vin.uvMin.y)⟩

end SpriteInstanceData

/-! ## The shader -/

section Shader

variable [Glm F] [GlmTransform F] {camera : Camera F} {vin : SpriteInstanceData F}

omit [IsStrictOrderedRing F] in
/-- Where the view-projection of a camera puts a point of the world. -/
def Camera.clip (camera : Camera F) (world : Vec2 F) : Vec2 F :=
  let pos := camera.getViewProjection * (⟨world.x, world.y, 0, 1⟩ : Vec4 F)
  ⟨pos.x, pos.y⟩

theorem Camera.clip_eq (exact : ExactTransform F) (visible : camera.Visible) (world : Vec2 F) :
    camera.clip world = ⟨camera.scale.x * (world.x - camera.snappedPosition.x),
      camera.scale.y * (world.y - camera.snappedPosition.y)⟩ := by
  rw [clip, getViewProjection_eq exact visible, Mat4.scaleMove_mul]
  apply Vec2.ext
  · dsimp only
    ring
  · dsimp only
    ring

/-- Every position in clip space belongs to one point of the world. -/
theorem Camera.clip_bijective (exact : ExactTransform F) (visible : camera.Visible) :
    Function.Bijective camera.clip := by
  obtain ⟨scaleX, scaleY⟩ := visible.scale_pos
  constructor
  · intro a b same
    rw [clip_eq exact visible, clip_eq exact visible, Vec2.ext_iff] at same
    exact Vec2.ext (sub_left_inj.mp (mul_left_cancel₀ scaleX.ne' same.1))
      (sub_left_inj.mp (mul_left_cancel₀ scaleY.ne' same.2))
  · intro clip
    refine ⟨⟨clip.x / camera.scale.x + camera.snappedPosition.x,
      clip.y / camera.scale.y + camera.snappedPosition.y⟩, ?_⟩
    rw [clip_eq exact visible]
    apply Vec2.ext
    · dsimp only
      rw [add_sub_cancel_right, mul_div_cancel₀ _ scaleX.ne']
    · dsimp only
      rw [add_sub_cancel_right, mul_div_cancel₀ _ scaleY.ne']

omit [IsStrictOrderedRing F] in
/-- A vertex is put where the camera puts its point of the world. -/
theorem vsMain_pos (point uv : Vec2 F) :
    (vsMain camera.getViewProjection point uv vin).pos.x = (camera.clip (vin.place point)).x ∧
      (vsMain camera.getViewProjection point uv vin).pos.y = (camera.clip (vin.place point)).y :=
  ⟨rfl, rfl⟩

/-- There is no perspective. -/
theorem vsMain_w (exact : ExactTransform F) (visible : camera.Visible) (point uv : Vec2 F) :
    (vsMain camera.getViewProjection point uv vin).pos.w = 1 := by
  rw [vsMain, Camera.getViewProjection_eq exact visible]
  dsimp only
  rw [Mat4.scaleMove_mul]

omit [GlmTransform F] in
/-- The texture coordinates of a corner of the quad, whose row is turned around. -/
theorem vsMain_uv (viewProjection : Mat4 F) (point : Vec2 F) :
    (vsMain viewProjection point ⟨point.x, -point.y⟩ vin).uv = vin.texel point := by
  rw [vsMain, literal_half]
  apply Vec2.ext
  · simp only [SpriteInstanceData.texel, literal_half]
    ring
  · simp only [SpriteInstanceData.texel, literal_half]
    ring

/-- The position in clip space depends linearly on the point of the unit square. -/
theorem exists_clip_linear (exact : ExactTransform F) (visible : camera.Visible)
    (vin : SpriteInstanceData F) :
    ∃ origin alongX alongY : Vec2 F, ∀ point : Vec2 F,
      camera.clip (vin.place point) =
        ⟨origin.x + alongX.x * point.x + alongY.x * point.y,
          origin.y + alongX.y * point.x + alongY.y * point.y⟩ := by
  refine ⟨⟨camera.scale.x * (vin.position.x - camera.snappedPosition.x),
      camera.scale.y * (vin.position.y - camera.snappedPosition.y)⟩,
    ⟨camera.scale.x * (Glm.cos vin.rotation * vin.scale.x),
      camera.scale.y * (Glm.sin vin.rotation * vin.scale.x)⟩,
    ⟨-(camera.scale.x * (Glm.sin vin.rotation * vin.scale.y)),
      camera.scale.y * (Glm.cos vin.rotation * vin.scale.y)⟩, fun point => ?_⟩
  rw [Camera.clip_eq exact visible]
  apply Vec2.ext
  · simp only [SpriteInstanceData.place]
    ring
  · simp only [SpriteInstanceData.place]
    ring

/-- A mixture of points is put between them. -/
theorem clip_mix (exact : ExactTransform F) (visible : camera.Visible) (weights : Weights F)
    (p q r : Vec2 F) :
    (⟨weights.mix (camera.clip (vin.place p)).x (camera.clip (vin.place q)).x
        (camera.clip (vin.place r)).x,
      weights.mix (camera.clip (vin.place p)).y (camera.clip (vin.place q)).y
        (camera.clip (vin.place r)).y⟩ : Vec2 F) =
      camera.clip (vin.place ⟨weights.mix p.x q.x r.x, weights.mix p.y q.y r.y⟩) := by
  obtain ⟨origin, alongX, alongY, isLinear⟩ := exists_clip_linear exact visible vin
  simp only [isLinear, Weights.mix_linear]

omit [Glm F] [GlmTransform F] in
/-- The texture coordinates are mixed with the points. -/
theorem texel_mix (vin : SpriteInstanceData F) (weights : Weights F) (p q r : Vec2 F) :
    (⟨weights.mix (vin.texel p).x (vin.texel q).x (vin.texel r).x,
      weights.mix (vin.texel p).y (vin.texel q).y (vin.texel r).y⟩ : Vec2 F) =
      vin.texel ⟨weights.mix p.x q.x r.x, weights.mix p.y q.y r.y⟩ := by
  simp only [SpriteInstanceData.texel, Weights.mix, literal_half]
  apply Vec2.ext
  · dsimp only
    linear_combination (vin.uvMin.x + 1 / 2 * (vin.uvMax.x - vin.uvMin.x)) * weights.sum
  · dsimp only
    linear_combination (vin.uvMin.y + 1 / 2 * (vin.uvMax.y - vin.uvMin.y)) * weights.sum

/-! ## The quad -/

/-- The corner of the quad with an index. -/
def corner : Nat → Vec2 F
  | 0 => ⟨-literal 0.5, literal 0.5⟩
  | 1 => ⟨literal 0.5, literal 0.5⟩
  | 2 => ⟨literal 0.5, -literal 0.5⟩
  | _ => ⟨-literal 0.5, -literal 0.5⟩

omit [IsStrictOrderedRing F] [GlmTransform F] in
theorem getElem?_instanceVertices (viewProjection : Mat4 F) {index : Nat} (inQuad : index < 4) :
    (instanceVertices viewProjection vin)[index]? =
      some (vsMain viewProjection (corner index) ⟨(corner index).x, -(corner index : Vec2 F).y⟩
        vin) := by
  rcases index with _ | _ | _ | _ | index
  case succ.succ.succ.succ => omega
  all_goals simp [instanceVertices, quadVertices, quadUVs, corner]

/-- A triangle holds the mixtures of its corners. -/
theorem triangle_iff (exact : ExactTransform F) (visible : camera.Visible) {clip uv : Vec2 F}
    {i j k : Nat} (inQuad : i < 4 ∧ j < 4 ∧ k < 4) :
    (∃ a b c : PSInput F, (instanceVertices camera.getViewProjection vin)[i]? = some a ∧
      (instanceVertices camera.getViewProjection vin)[j]? = some b ∧
      (instanceVertices camera.getViewProjection vin)[k]? = some c ∧
      ∃ weights : Weights F,
        clip = ⟨weights.mix a.pos.x b.pos.x c.pos.x, weights.mix a.pos.y b.pos.y c.pos.y⟩ ∧
        uv = ⟨weights.mix a.uv.x b.uv.x c.uv.x, weights.mix a.uv.y b.uv.y c.uv.y⟩) ↔
    ∃ point : Vec2 F, (∃ weights : Weights F,
        point.x = weights.mix (corner i).x (corner j).x (corner k).x ∧
        point.y = weights.mix (corner i).y (corner j).y (corner k).y) ∧
      clip = camera.clip (vin.place point) ∧ uv = vin.texel point := by
  rw [getElem?_instanceVertices _ inQuad.1, getElem?_instanceVertices _ inQuad.2.1,
    getElem?_instanceVertices _ inQuad.2.2]
  constructor
  · rintro ⟨_, _, _, ⟨rfl⟩, ⟨rfl⟩, ⟨rfl⟩, weights, isClip, isUv⟩
    refine ⟨⟨weights.mix (corner i).x (corner j).x (corner k).x,
      weights.mix (corner i).y (corner j).y (corner k).y⟩, ⟨weights, rfl, rfl⟩, ?_, ?_⟩
    · rw [isClip]
      simp only [vsMain_pos, clip_mix exact visible]
    · rw [isUv]
      simp only [vsMain_uv, texel_mix]
  · rintro ⟨point, ⟨weights, isX, isY⟩, rfl, rfl⟩
    have isPoint : point = ⟨weights.mix (corner i).x (corner j).x (corner k).x,
      weights.mix (corner i).y (corner j).y (corner k).y⟩ := Vec2.ext isX isY
    refine ⟨_, _, _, rfl, rfl, rfl, weights, ?_, ?_⟩
    · simp only [vsMain_pos, clip_mix exact visible, isPoint]
    · simp only [vsMain_uv, texel_mix, isPoint]

/-- The two triangles of a sprite hold the points of the turned square, each of them with its
point of the texture, and nothing else. -/
theorem spans_iff_place (exact : ExactTransform F) (visible : camera.Visible) {clip uv : Vec2 F} :
    Spans (instanceVertices camera.getViewProjection vin) clip uv ↔
      ∃ point : Vec2 F, (|point.x| ≤ 1 / 2 ∧ |point.y| ≤ 1 / 2) ∧
        clip = camera.clip (vin.place point) ∧ uv = vin.texel point := by
  simp only [Weights.square_iff, Spans, quadIdxs, List.mem_cons, List.not_mem_nil, or_false,
    exists_eq_or_imp, exists_eq_left]
  rw [triangle_iff exact visible (by decide), triangle_iff exact visible (by decide),
    ← exists_or]
  apply exists_congr
  intro point
  rw [← or_and_right, ← literal_half]
  rfl

/-! ## Points of the world -/

/-- The instance has an area, and its angle is one that the shader turns by. -/
structure SpriteInstanceData.Drawn (vin : SpriteInstanceData F) : Prop where
  turn : Glm.cos vin.rotation * Glm.cos vin.rotation +
    Glm.sin vin.rotation * Glm.sin vin.rotation = 1
  width : vin.scale.x ≠ 0
  height : vin.scale.y ≠ 0

/-- Undoes the scaling, the turn and the motion of the shader. -/
def SpriteInstanceData.unplace (vin : SpriteInstanceData F) (world : Vec2 F) : Vec2 F :=
  let offset := world - vin.position
  ⟨(Glm.cos vin.rotation * offset.x + Glm.sin vin.rotation * offset.y) / vin.scale.x,
    (Glm.cos vin.rotation * offset.y - Glm.sin vin.rotation * offset.x) / vin.scale.y⟩

omit [IsStrictOrderedRing F] [GlmTransform F] in
theorem SpriteInstanceData.Drawn.place_unplace (drawn : vin.Drawn) (world : Vec2 F) :
    vin.place (vin.unplace world) = world := by
  apply Vec2.ext
  · simp only [place, unplace, div_mul_cancel₀ _ drawn.width, div_mul_cancel₀ _ drawn.height,
      Vec2.sub_x, Vec2.sub_y]
    linear_combination (world.x - vin.position.x) * drawn.turn
  · simp only [place, unplace, div_mul_cancel₀ _ drawn.width, div_mul_cancel₀ _ drawn.height,
      Vec2.sub_x, Vec2.sub_y]
    linear_combination (world.y - vin.position.y) * drawn.turn

omit [IsStrictOrderedRing F] [GlmTransform F] in
theorem SpriteInstanceData.Drawn.unplace_place (drawn : vin.Drawn) (point : Vec2 F) :
    vin.unplace (vin.place point) = point := by
  apply Vec2.ext
  · simp only [place, unplace, Vec2.sub_x, Vec2.sub_y, div_eq_iff drawn.width]
    linear_combination point.x * vin.scale.x * drawn.turn
  · simp only [place, unplace, Vec2.sub_x, Vec2.sub_y, div_eq_iff drawn.height]
    linear_combination point.y * vin.scale.y * drawn.turn

/-- A point of the world that is in the triangles of a sprite is in its turned square, with the
texture coordinate that belongs to it. -/
theorem unplace_of_spans (exact : ExactTransform F) (visible : camera.Visible) (drawn : vin.Drawn)
    {world uv : Vec2 F}
    (spans : Spans (instanceVertices camera.getViewProjection vin) (camera.clip world) uv) :
    (|(vin.unplace world).x| ≤ 1 / 2 ∧ |(vin.unplace world).y| ≤ 1 / 2) ∧
    uv = vin.texel (vin.unplace world) := by
  rw [spans_iff_place exact visible] at spans
  obtain ⟨point, inside, isClip, isUv⟩ := spans
  rw [(Camera.clip_bijective exact visible).injective isClip, drawn.unplace_place]
  exact ⟨inside, isUv⟩

/-- The triangles of a sprite hold the points of its turned square. -/
theorem spans_of_unplace (exact : ExactTransform F) (visible : camera.Visible) (drawn : vin.Drawn)
    {world : Vec2 F}
    (inside : |(vin.unplace world).x| ≤ 1 / 2 ∧ |(vin.unplace world).y| ≤ 1 / 2) :
    Spans (instanceVertices camera.getViewProjection vin) (camera.clip world)
      (vin.texel (vin.unplace world)) := by
  rw [spans_iff_place exact visible]
  refine ⟨_, inside, ?_, rfl⟩
  rw [drawn.place_unplace]

/-- The vertex shader returns the corners of two triangles without perspective.  Every position in
clip space belongs to one point of the world, and it is in the triangles exactly if this point is
in the turned square of the sprite.  Its texture coordinate is then the one that belongs to the
point, in whichever of the two triangles it is. -/
theorem spans_iff (exact : ExactTransform F) (visible : camera.Visible) (drawn : vin.Drawn) :
    (∀ vertex ∈ instanceVertices camera.getViewProjection vin, vertex.pos.w = 1) ∧
      Function.Bijective camera.clip ∧
      ∀ world uv : Vec2 F,
        Spans (instanceVertices camera.getViewProjection vin) (camera.clip world) uv ↔
          (|(vin.unplace world).x| ≤ 1 / 2 ∧ |(vin.unplace world).y| ≤ 1 / 2) ∧
            uv = vin.texel (vin.unplace world) := by
  refine ⟨fun vertex member => ?_, Camera.clip_bijective exact visible, fun world uv => ?_⟩
  · obtain ⟨index, found⟩ := List.mem_iff_getElem?.mp member
    have inQuad : index < 4 := (List.getElem?_eq_some_iff.mp found).1
    rw [getElem?_instanceVertices _ inQuad] at found
    cases found
    exact vsMain_w exact visible _ _
  · constructor
    · intro spans
      exact unplace_of_spans exact visible drawn spans
    · rintro ⟨inside, rfl⟩
      exact spans_of_unplace exact visible drawn inside

end Shader

/-- A sprite where the camera is. -/
def Rational.sprite : SpriteInstanceData ℚ where
  colorTint := ⟨1, 1, 1, 1⟩
  position := ⟨1, 0⟩
  uvMin := ⟨0, 0⟩
  uvMax := ⟨1, 1⟩
  scale := ⟨1, 1⟩
  rotation := 0

theorem sprite_spans : Spans (instanceVertices Rational.camera.getViewProjection Rational.sprite)
    (Rational.camera.clip ⟨5 / 4, 0⟩) ⟨3 / 4, 1 / 2⟩ := by
  have drawn : Rational.sprite.Drawn := ⟨by decide +kernel, by decide +kernel, by decide +kernel⟩
  refine ((spans_iff Rational.exactTransform Rational.camera_visible drawn).2.2 _ _).mpr ?_
  decide +kernel

end TowerDefence
