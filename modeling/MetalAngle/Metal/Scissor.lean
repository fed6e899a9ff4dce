import MetalAngle.Gl.Rectangle
import MetalAngle.Metal.RenderCommandEncoder

/-!
# The scissor rectangle of `ContextMtl`

`updateScissor` clips the render area to the viewport and to the scissor of the GL state.  Metal
aborts on a rectangle that is not inside the render area.
-/

namespace MetalAngle.Metal

open MetalAngle.Gl

/-- What `updateScissor` reads of the framebuffer: its size and whether it is upside down. -/
structure ScissorTarget where
  width : Int32
  height : Int32
  flipY : Bool
  width_nonneg : 0 ≤ width.toInt
  height_nonneg : 0 ≤ height.toInt

/-- What `updateScissor` reads of the GL state. -/
structure ScissorState where
  viewport : Rectangle
  scissorTest : Bool
  scissor : Rectangle

/-- The conversion of an `int` to `NSUInteger`. -/
def toNSUInteger (i : Int32) : Nat := (i.toInt % 2 ^ 64).toNat

def getScissorRect (rect : Rectangle) : MTLScissorRect where
  x := toNSUInteger rect.x
  y := toNSUInteger rect.y
  width := toNSUInteger rect.width
  height := toNSUInteger rect.height

def clipRectToScissor (glState : ScissorState) (rect : Rectangle) (invertY : Bool) : Rectangle :=
  if glState.scissorTest then
    match clipRectangle glState.scissor rect with
    | none => {}
    | some clippedRect =>
        if invertY then
          { clippedRect with y := rect.height - clippedRect.y - clippedRect.height }
        else clippedRect
  else rect

def ScissorTarget.getCompleteRenderArea (target : ScissorTarget) : Rectangle :=
  { width := target.width, height := target.height }

/-- `ContextMtl::updateScissor`, which does not look at what the first `ClipRectangle` returns:
the clipped area is then empty. -/
def updateScissor (target : ScissorTarget) (glState : ScissorState) : MTLScissorRect :=
  let renderArea := target.getCompleteRenderArea
  let viewportClippedRenderArea := (clipRectangle renderArea glState.viewport).getD {}
  let scissoredArea := clipRectToScissor glState viewportClippedRenderArea false
  let scissoredArea :=
    if target.flipY then
      { scissoredArea with y := renderArea.height - scissoredArea.y - scissoredArea.height }
    else scissoredArea
  getScissorRect scissoredArea

/-- On one axis, `x` and `w` lie inside `p` and `n`, which do not wrap. -/
structure AxisInside (x w p n : Int32) : Prop where
  low : p.toInt ≤ x.toInt
  size : 0 ≤ w.toInt
  high : x.toInt + w.toInt ≤ p.toInt + n.toInt
  fits : p.toInt + n.toInt < 2 ^ 31

variable {x w p n q m : Int32}

theorem AxisInside.trans (h : AxisInside x w q m) (h' : AxisInside q m p n) :
    AxisInside x w p n where
  __ := h'
  low := h'.low.trans h.low
  size := h.size
  high := h.high.trans h'.high

theorem wrappedExtent_of_proper (hsize : 0 ≤ n.toInt) (hfits : p.toInt + n.toInt < 2 ^ 31) :
    wrappedExtent p n = ⟨p.toInt, p.toInt + n.toInt⟩ := by
  have hp := toInt_bounds p
  rcases wrappedExtent_cases p n with ⟨-, hsame, -⟩ | ⟨hover, -⟩ | ⟨hunder, -⟩
  · rw [hsame]
    unfold extent IntSpan.between
    rw [min_eq_left (by omega), max_eq_right (by omega)]
  · omega
  · omega

theorem inside_of_bounds {bounds : IntSpan} (hx : x.toInt = bounds.lo)
    (hw : w.toInt = (bounds.hi - bounds.lo).bmod (2 ^ 32)) (hle : bounds.lo ≤ bounds.hi)
    (hlow : p.toInt ≤ bounds.lo) (hhigh : bounds.hi ≤ p.toInt + n.toInt)
    (hfits : p.toInt + n.toInt < 2 ^ 31) : AxisInside x w p n := by
  have hn := toInt_bounds n
  have hsame : (bounds.hi - bounds.lo).bmod (2 ^ 32) = bounds.hi - bounds.lo := by
    rcases bmod_cases (i := bounds.hi - bounds.lo) (by omega) (by omega) with
      ⟨hsame, -⟩ | ⟨-, hover⟩ | ⟨-, hunder⟩
    · exact hsame
    · omega
    · omega
  rw [hsame] at hw
  exact ⟨by omega, by omega, by omega, hfits⟩

theorem wrappedExtent_le (p n : Int32) : (wrappedExtent p n).lo ≤ (wrappedExtent p n).hi :=
  (min_le_left _ _).trans (le_max_left _ _)

/-- The common extent lies inside each of the two extents that does not wrap. -/
theorem clippedAxis_inside (hmeet : ¬ (wrappedExtent p n).Separate (wrappedExtent q m)) :
    (0 ≤ n.toInt → p.toInt + n.toInt < 2 ^ 31 →
      AxisInside (clippedAxis p n q m).1 (clippedAxis p n q m).2 p n) ∧
    (0 ≤ m.toInt → q.toInt + m.toInt < 2 ^ 31 →
      AxisInside (clippedAxis p n q m).1 (clippedAxis p n q m).2 q m) := by
  obtain ⟨hlow, hsize⟩ := toInt_clippedAxis p n q m
  have hS := wrappedExtent_le p n
  have hC := wrappedExtent_le q m
  have hle : ((wrappedExtent p n).inter (wrappedExtent q m)).lo ≤
      ((wrappedExtent p n).inter (wrappedExtent q m)).hi := by
    unfold IntSpan.Separate at hmeet
    simp only [IntSpan.inter]
    omega
  constructor
  · intro hn hfits
    have hproper := wrappedExtent_of_proper hn hfits
    apply inside_of_bounds hlow hsize hle _ _ hfits
    · rw [hproper]
      exact le_max_left _ _
    · rw [hproper]
      exact min_le_left _ _
  · intro hm hfits
    have hproper := wrappedExtent_of_proper hm hfits
    apply inside_of_bounds hlow hsize hle _ _ hfits
    · rw [hproper]
      exact le_max_right _ _
    · rw [hproper]
      exact min_le_right _ _

/-- A rectangle inside one that does not wrap. -/
structure Inside (inner outer : Rectangle) : Prop where
  x : AxisInside inner.x inner.width outer.x outer.width
  y : AxisInside inner.y inner.height outer.y outer.height

theorem Inside.trans {r s t : Rectangle} (h : Inside r s) (h' : Inside s t) : Inside r t :=
  ⟨h.x.trans h'.x, h.y.trans h'.y⟩

theorem clipRectangle_inside {source clip r : Rectangle}
    (hclip : clipRectangle source clip = some r) :
    (Inside source source → Inside r source) ∧ (Inside clip clip → Inside r clip) := by
  rcases clipRectangle_cases source clip with ⟨-, hnone⟩ | ⟨hmeet, hsome⟩
  · rw [hnone] at hclip
    contradiction
  · cases hsome.symm.trans hclip
    obtain ⟨hsourceX, hclipX⟩ := clippedAxis_inside (mt .inl hmeet)
    obtain ⟨hsourceY, hclipY⟩ := clippedAxis_inside (mt .inr hmeet)
    exact ⟨fun h => ⟨hsourceX h.x.size h.x.fits, hsourceY h.y.size h.y.fits⟩,
      fun h => ⟨hclipX h.x.size h.x.fits, hclipY h.y.size h.y.fits⟩⟩

variable (target : ScissorTarget) (glState : ScissorState)

theorem inside_renderArea : Inside target.getCompleteRenderArea target.getCompleteRenderArea := by
  have hwidth := toInt_bounds target.width
  have hheight := toInt_bounds target.height
  have hzero : (0 : Int32).toInt = 0 := rfl
  exact ⟨⟨le_refl _, target.width_nonneg, le_refl _, by
      simp only [ScissorTarget.getCompleteRenderArea, hzero]
      omega⟩, le_refl _, target.height_nonneg, le_refl _, by
      simp only [ScissorTarget.getCompleteRenderArea, hzero]
      omega⟩

theorem inside_empty : Inside {} target.getCompleteRenderArea := by
  have hwidth := target.width_nonneg
  have hheight := target.height_nonneg
  have hzero : (0 : Int32).toInt = 0 := rfl
  refine ⟨⟨le_refl _, le_refl _, ?_, (inside_renderArea target).x.fits⟩,
    le_refl _, le_refl _, ?_, (inside_renderArea target).y.fits⟩
  · simp only [ScissorTarget.getCompleteRenderArea, hzero]
    omega
  · simp only [ScissorTarget.getCompleteRenderArea, hzero]
    omega

theorem inside_clipRectToScissor {rect : Rectangle}
    (hrect : Inside rect target.getCompleteRenderArea) :
    Inside (clipRectToScissor glState rect false) target.getCompleteRenderArea := by
  have hproper : Inside rect rect :=
    ⟨⟨le_refl _, hrect.x.size, le_refl _, hrect.x.high.trans_lt hrect.x.fits⟩,
      le_refl _, hrect.y.size, le_refl _, hrect.y.high.trans_lt hrect.y.fits⟩
  unfold clipRectToScissor
  split
  case isFalse => exact hrect
  case isTrue =>
    split
    case h_1 => exact inside_empty target
    case h_2 clipped hclip => exact ((clipRectangle_inside hclip).2 hproper).trans hrect

theorem toNSUInteger_of_nonneg {i : Int32} (h : 0 ≤ i.toInt) : (toNSUInteger i : Int) = i.toInt := by
  have hi := toInt_bounds i
  unfold toNSUInteger
  omega

theorem getScissorRect_inside {rect : Rectangle} (h : Inside rect target.getCompleteRenderArea) :
    (getScissorRect rect).x + (getScissorRect rect).width ≤ toNSUInteger target.width ∧
      (getScissorRect rect).y + (getScissorRect rect).height ≤ toNSUInteger target.height := by
  have hzero : (0 : Int32).toInt = 0 := rfl
  have hX : Inside rect { width := target.width, height := target.height } := h
  obtain ⟨⟨hlowX, hsizeX, hhighX, -⟩, hlowY, hsizeY, hhighY, -⟩ := hX
  rw [hzero] at hlowX hhighX hlowY hhighY
  dsimp only at hhighX hhighY
  have hx := toNSUInteger_of_nonneg hlowX
  have hy := toNSUInteger_of_nonneg hlowY
  have hwidth := toNSUInteger_of_nonneg hsizeX
  have hheight := toNSUInteger_of_nonneg hsizeY
  have hW := toNSUInteger_of_nonneg target.width_nonneg
  have hH := toNSUInteger_of_nonneg target.height_nonneg
  simp only [getScissorRect]
  exact ⟨by omega, by omega⟩

theorem inside_flipped {y h height : Int32} (hinside : AxisInside y h 0 height) :
    AxisInside (height - y - h) h 0 height := by
  have hzero : (0 : Int32).toInt = 0 := rfl
  have hbounds := toInt_bounds height
  obtain ⟨hlow, hsize, hhigh, hfits⟩ := hinside
  rw [hzero] at hlow hhigh hfits
  have hdiff : (height - y).toInt = height.toInt - y.toInt := by
    rw [Int32.toInt_sub]
    have hcases := bmod_cases (i := height.toInt - y.toInt) (by omega) (by omega)
    unfold FitsInt32 at hcases
    omega
  have hflipped : (height - y - h).toInt = height.toInt - y.toInt - h.toInt := by
    rw [Int32.toInt_sub, hdiff]
    have hcases := bmod_cases (i := height.toInt - y.toInt - h.toInt) (by omega) (by omega)
    unfold FitsInt32 at hcases
    omega
  constructor
  · rw [hzero, hflipped]
    omega
  · exact hsize
  · rw [hzero, hflipped]
    omega
  · rw [hzero]
    exact hfits

/-- The rectangle that reaches Metal lies inside the render area. -/
theorem updateScissor_inside :
    (updateScissor target glState).x + (updateScissor target glState).width ≤
        toNSUInteger target.width ∧
      (updateScissor target glState).y + (updateScissor target glState).height ≤
        toNSUInteger target.height := by
  obtain ⟨area, hclipped⟩ : ∃ area, area = (clipRectangle target.getCompleteRenderArea
    glState.viewport).getD {} := ⟨_, rfl⟩
  have harea : Inside area target.getCompleteRenderArea := by
    rw [hclipped]
    cases hclip : clipRectangle target.getCompleteRenderArea glState.viewport with
    | none => exact inside_empty target
    | some r => exact (clipRectangle_inside hclip).1 (inside_renderArea target)
  obtain ⟨rect, hrect⟩ : ∃ rect, rect = clipRectToScissor glState area false := ⟨_, rfl⟩
  have hinside : Inside rect target.getCompleteRenderArea :=
    hrect ▸ inside_clipRectToScissor target glState harea
  unfold updateScissor
  dsimp only
  rw [← hclipped, ← hrect]
  split
  case isTrue =>
    have hflipped : Inside { rect with
        y := target.height - rect.y - rect.height } target.getCompleteRenderArea :=
      ⟨hinside.x, inside_flipped hinside.y⟩
    exact getScissorRect_inside target hflipped
  case isFalse => exact getScissorRect_inside target hinside

/-- `ClipRectangle` is exact exactly when the rectangles fit, and whatever the GL state is the
scissor rectangle lies inside the render area. -/
theorem clipRectangle_exact_iff_and_scissor_inside (source clip : Rectangle)
    (target : ScissorTarget) (glState : ScissorState) :
    (ClipsExactly source clip ↔ ClipFits source clip) ∧
      (updateScissor target glState).x + (updateScissor target glState).width ≤
          toNSUInteger target.width ∧
        (updateScissor target glState).y + (updateScissor target glState).height ≤
          toNSUInteger target.height :=
  ⟨clipsExactly_iff source clip, updateScissor_inside target glState⟩

/-- Of a scissor of the largest size at (1, 1) the code keeps the point (0, 0) alone, which is not
in it, and it says that a rectangle without area inside another one meets it. -/
theorem not_clipsExactly_large_or_empty :
    ¬ ClipsExactly ⟨1, 1, 2147483647, 2147483647⟩ ⟨0, 0, 100, 100⟩ ∧
      ¬ ClipsExactly ⟨5, 5, 0, 0⟩ ⟨0, 0, 10, 10⟩ := by
  constructor
  · intro hexact
    have hsome : clipRectangle ⟨1, 1, 2147483647, 2147483647⟩ ⟨0, 0, 100, 100⟩ =
        some ⟨0, 0, 1, 1⟩ := by decide
    have horigin : ((0, 0) : Int × Int) ∈ Rectangle.points ⟨0, 0, 1, 1⟩ :=
      ⟨by decide, by decide⟩
    rw [hexact.2 _ hsome] at horigin
    obtain ⟨⟨hx, -⟩, -⟩ := horigin
    exact absurd hx (by decide)
  · intro hexact
    have hsome : (clipRectangle ⟨5, 5, 0, 0⟩ ⟨0, 0, 10, 10⟩).isSome = true := by decide
    have hoverlap := (points_inter_nonempty_iff _ _).mp (hexact.1.mp hsome)
    exact absurd hoverlap.1 (by decide)

end MetalAngle.Metal
