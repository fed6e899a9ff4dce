import Mathlib.Algebra.Order.Ring.Rat
import MetalAngle.Gl.Rectangle

/-!
# The viewport and depth range of `ContextMtl`

`updateViewport` and `updateDepthRange` both write the depth range of `mViewport`.  A `syncState`
handles the dirty bits of its mask in their order: the framebuffer, the viewport, the depth range.
Depth values are only clamped, compared and copied, so they are rationals here.
-/

namespace MetalAngle.Metal.DepthRange

open MetalAngle.Gl List

structure MTLViewport where
  originX : ℚ
  originY : ℚ
  width : ℚ
  height : ℚ
  znear : ℚ
  zfar : ℚ

/-- `GetViewport`, which measures `y` from the other side when the framebuffer is flipped. -/
def getViewport (rect : Rectangle) (screenHeight : Int32) (flipY : Bool) (znear zfar : ℚ) :
    MTLViewport where
  originX := rect.x.toInt
  originY := if flipY then screenHeight.toInt - (rect.y + rect.height).toInt else rect.y.toInt
  width := rect.width.toInt
  height := rect.height.toInt
  znear
  zfar

/-- The dirty bits of the GL state that reach `mViewport`. -/
structure DirtyBits where
  drawFramebufferBinding : Bool
  viewport : Bool
  depthRange : Bool

namespace DirtyBits

def all : DirtyBits := ⟨true, true, true⟩

def none : DirtyBits := ⟨false, false, false⟩

def inter (bits mask : DirtyBits) : DirtyBits :=
  ⟨bits.drawFramebufferBinding && mask.drawFramebufferBinding, bits.viewport && mask.viewport,
    bits.depthRange && mask.depthRange⟩

def diff (bits mask : DirtyBits) : DirtyBits :=
  ⟨bits.drawFramebufferBinding && !mask.drawFramebufferBinding, bits.viewport && !mask.viewport,
    bits.depthRange && !mask.depthRange⟩

end DirtyBits

/-- What `updateViewport` reads of a framebuffer. -/
structure FramebufferInfo where
  height : Int32
  flipY : Bool

structure GlState where
  viewport : Rectangle := {}
  nearZ : ℚ := 0
  farZ : ℚ := 1
  drawFramebuffer : Nat := 0
  framebuffers : Nat → FramebufferInfo
  dirtyBits : DirtyBits := .all

structure System where
  gl : GlState
  mViewport : MTLViewport

def clamp01 (x : ℚ) : ℚ := if x > 0 then if x > 1 then 1 else x else 0

/-! ## The GL calls -/

namespace GlState

def setViewportParams (gl : GlState) (rect : Rectangle) : GlState :=
  { gl with viewport := rect, dirtyBits := { gl.dirtyBits with viewport := true } }

def setDepthRange (gl : GlState) (zNear zFar : ℚ) : GlState :=
  if gl.nearZ ≠ zNear ∨ gl.farZ ≠ zFar then
    { gl with
      nearZ := zNear
      farZ := zFar
      dirtyBits := { gl.dirtyBits with depthRange := true } }
  else gl

def depthRangef (gl : GlState) (zNear zFar : ℚ) : GlState :=
  gl.setDepthRange (clamp01 zNear) (clamp01 zFar)

def setDrawFramebufferBinding (gl : GlState) (framebuffer : Nat) : GlState :=
  if gl.drawFramebuffer = framebuffer then gl
  else
    { gl with
      drawFramebuffer := framebuffer
      dirtyBits := { gl.dirtyBits with drawFramebufferBinding := true } }

end GlState

/-! ## The Metal context -/

def needToInvertDepthRange (near far : ℚ) : Bool := decide (near > far)

variable (emulateDepthRangeMappingInShader : Bool)

def updateViewport (s : System) : System :=
  let (nearPlane, farPlane) :=
    if emulateDepthRangeMappingInShader then ((0 : ℚ), (1 : ℚ)) else (s.gl.nearZ, s.gl.farZ)
  let framebuffer := s.gl.framebuffers s.gl.drawFramebuffer
  { s with
    mViewport := getViewport s.gl.viewport framebuffer.height framebuffer.flipY nearPlane
      farPlane }

def updateDepthRange (s : System) : System :=
  let (nearPlane, farPlane) :=
    if emulateDepthRangeMappingInShader then ((0 : ℚ), (1 : ℚ)) else (s.gl.nearZ, s.gl.farZ)
  let (nearPlane, farPlane) :=
    if needToInvertDepthRange nearPlane farPlane then (farPlane, nearPlane)
    else (nearPlane, farPlane)
  { s with mViewport := { s.mViewport with znear := nearPlane, zfar := farPlane } }

/-- `onDrawFrameBufferChangedState`, as far as it reaches `mViewport`. -/
def onDrawFrameBufferChangedState (s : System) : System :=
  updateViewport emulateDepthRangeMappingInShader s

/-- `syncDirtyBits`: `ContextMtl::syncState` handles the dirty bits in the mask, which are then
cleared. -/
def syncState (bitMask : DirtyBits) (s : System) : System :=
  let dirtyBits := s.gl.dirtyBits.inter bitMask
  let s :=
    if dirtyBits.drawFramebufferBinding then
      onDrawFrameBufferChangedState emulateDepthRangeMappingInShader s
    else s
  let s := if dirtyBits.viewport then updateViewport emulateDepthRangeMappingInShader s else s
  let s := if dirtyBits.depthRange then updateDepthRange emulateDepthRangeMappingInShader s else s
  { s with gl := { s.gl with dirtyBits := s.gl.dirtyBits.diff bitMask } }

inductive Action
  | viewport (rect : Rectangle)
  | depthRangef (zNear zFar : ℚ)
  | bindDrawFramebuffer (framebuffer : Nat)
  /-- Other attachments, or a window of another size. -/
  | changeFramebuffer (framebuffer : Nat) (info : FramebufferInfo)
  /-- By `FramebufferMtl::syncState` of the draw framebuffer, or by `onBackbufferResized`. -/
  | onDrawFrameBufferChangedState
  | syncState (bitMask : DirtyBits)

def step (s : System) : Action → System
  | .viewport rect => { s with gl := s.gl.setViewportParams rect }
  | .depthRangef zNear zFar => { s with gl := s.gl.depthRangef zNear zFar }
  | .bindDrawFramebuffer framebuffer =>
      { s with gl := s.gl.setDrawFramebufferBinding framebuffer }
  | .changeFramebuffer framebuffer info =>
      { s with gl := { s.gl with
        framebuffers := fun i => if i = framebuffer then info else s.gl.framebuffers i } }
  | .onDrawFrameBufferChangedState =>
      onDrawFrameBufferChangedState emulateDepthRangeMappingInShader s
  | .syncState bitMask => syncState emulateDepthRangeMappingInShader bitMask s

def run (s : System) (actions : List Action) : System :=
  actions.foldl (step emulateDepthRangeMappingInShader) s

/-- A new context, whose `mViewport` nothing has been written to. -/
def initial (framebuffers : Nat → FramebufferInfo) (mViewport : MTLViewport) : System :=
  { gl := { framebuffers }, mViewport }

/-! ## What a run leaves -/

variable {emulateDepthRangeMappingInShader}

def System.range (s : System) : ℚ × ℚ := (s.mViewport.znear, s.mViewport.zfar)

/-- The depth range that `updateViewport` writes. -/
def writtenRange (emulate : Bool) (gl : GlState) : ℚ × ℚ :=
  if emulate then (0, 1) else (gl.nearZ, gl.farZ)

/-- The depth range that `updateDepthRange` writes. -/
def invertedRange (emulate : Bool) (gl : GlState) : ℚ × ℚ :=
  if emulate then (0, 1)
  else if gl.farZ < gl.nearZ then (gl.farZ, gl.nearZ) else (gl.nearZ, gl.farZ)

variable {emulate : Bool}

theorem range_updateViewport (s : System) :
    (updateViewport emulate s).range = writtenRange emulate s.gl := by
  cases emulate with
  | true => rfl
  | false => rfl

theorem range_updateDepthRange (s : System) :
    (updateDepthRange emulate s).range = invertedRange emulate s.gl := by
  cases emulate with
  | true =>
    have hordered : decide ((0 : ℚ) > 1) = false := by decide
    unfold updateDepthRange needToInvertDepthRange
    dsimp only
    rw [if_pos rfl]
    dsimp only
    rw [hordered, if_neg Bool.false_ne_true]
    rfl
  | false =>
    unfold updateDepthRange needToInvertDepthRange invertedRange
    dsimp only
    rw [if_neg Bool.false_ne_true, if_neg Bool.false_ne_true]
    by_cases hinvert : s.gl.farZ < s.gl.nearZ
    · rw [if_pos (decide_eq_true hinvert), if_pos hinvert]
      rfl
    · rw [if_neg (mt of_decide_eq_true hinvert), if_neg hinvert]
      rfl

/-- The depth range after a `syncState`: of the dirty bits in its mask, the last one counts. -/
theorem range_syncState (bitMask : DirtyBits) (s : System) :
    (syncState emulate bitMask s).range =
      if s.gl.dirtyBits.depthRange && bitMask.depthRange then invertedRange emulate s.gl
      else if (s.gl.dirtyBits.viewport && bitMask.viewport) ||
          (s.gl.dirtyBits.drawFramebufferBinding && bitMask.drawFramebufferBinding) then
        writtenRange emulate s.gl
      else s.range := by
  unfold syncState DirtyBits.inter onDrawFrameBufferChangedState
  cases s.gl.dirtyBits.drawFramebufferBinding && bitMask.drawFramebufferBinding with
  | true =>
    cases s.gl.dirtyBits.viewport && bitMask.viewport with
    | true =>
        cases s.gl.dirtyBits.depthRange && bitMask.depthRange with
        | true => exact range_updateDepthRange _
        | false => exact range_updateViewport _
    | false =>
        cases s.gl.dirtyBits.depthRange && bitMask.depthRange with
        | true => exact range_updateDepthRange _
        | false => exact range_updateViewport _
  | false =>
    cases s.gl.dirtyBits.viewport && bitMask.viewport with
    | true =>
        cases s.gl.dirtyBits.depthRange && bitMask.depthRange with
        | true => exact range_updateDepthRange _
        | false => exact range_updateViewport _
    | false =>
        cases s.gl.dirtyBits.depthRange && bitMask.depthRange with
        | true => exact range_updateDepthRange _
        | false => rfl

/-- What holds along every run: the planes are clamped, and once a bit is clean something has been
written, which while the depth range is clean comes from the current planes. -/
structure Inv (emulate : Bool) (s : System) : Prop where
  near : clamp01 s.gl.nearZ = s.gl.nearZ
  far : clamp01 s.gl.farZ = s.gl.farZ
  emulated : emulate = true → s.gl.dirtyBits = .all ∨ s.range = (0, 1)
  clean : emulate = false → s.gl.dirtyBits.depthRange = false →
    s.range = writtenRange false s.gl ∨ s.range = invertedRange false s.gl

theorem clamp01_clamp01 (x : ℚ) : clamp01 (clamp01 x) = clamp01 x := by
  unfold clamp01
  split
  case isTrue hpos =>
    split
    case isTrue => decide
    case isFalse => rfl
  case isFalse => decide

theorem inv_initial (framebuffers : Nat → FramebufferInfo) (mViewport : MTLViewport) :
    Inv emulate (initial framebuffers mViewport) where
  near := by
    show clamp01 0 = 0
    decide
  far := by
    show clamp01 1 = 1
    decide
  emulated := fun _ => .inl rfl
  clean := fun _ hclean => by contradiction

theorem gl_syncState (bitMask : DirtyBits) (s : System) :
    (syncState emulate bitMask s).gl = { s.gl with dirtyBits := s.gl.dirtyBits.diff bitMask } := by
  unfold syncState onDrawFrameBufferChangedState
  dsimp only
  split <;> split <;> split <;> rfl

/-- Without emulation the range that is written is the one of the current planes, inverted or
not. -/
theorem inv_syncState {s : System} (h : Inv emulate s) (bitMask : DirtyBits) :
    Inv emulate (syncState emulate bitMask s) := by
  have hrange := @range_syncState emulate bitMask s
  have hgl := @gl_syncState emulate bitMask s
  constructor
  case near =>
    rw [hgl]
    exact h.near
  case far =>
    rw [hgl]
    exact h.far
  case emulated =>
    intro hemulate
    rw [hemulate] at hrange h ⊢
    rw [hrange, gl_syncState]
    split
    case isTrue => exact .inr rfl
    case isFalse hrange' =>
      split
      case isTrue => exact .inr rfl
      case isFalse hviewport =>
        refine (h.emulated rfl).imp_left fun hall => ?_
        rw [hall] at hrange' hviewport ⊢
        simp only [DirtyBits.all, Bool.true_and, Bool.not_eq_true, Bool.or_eq_true, not_or]
          at hrange' hviewport
        simp only [DirtyBits.all, DirtyBits.diff, hrange', hviewport, Bool.not_false, Bool.true_and]
  case clean =>
    intro hemulate hclean
    rw [hemulate] at hrange h ⊢
    rw [hrange, gl_syncState]
    rw [hgl] at hclean
    simp only [DirtyBits.diff] at hclean
    split
    case isTrue => exact .inr rfl
    case isFalse hrange' =>
      split
      case isTrue => exact .inl rfl
      case isFalse =>
        apply h.clean rfl
        cases hdirty : s.gl.dirtyBits.depthRange with
        | false => rfl
        | true =>
          rw [hdirty] at hrange' hclean
          cases hmask : bitMask.depthRange with
          | true => exact absurd (by rw [hmask]; rfl) hrange'
          | false =>
              rw [hmask] at hclean
              contradiction

theorem inv_step {s : System} (h : Inv emulate s) (a : Action) :
    Inv emulate (step emulate s a) := by
  cases a with
  | viewport rect =>
      refine { h with emulated := fun hemulate => ?_ }
      refine (h.emulated hemulate).imp_left fun hall => ?_
      show { s.gl.dirtyBits with viewport := true } = DirtyBits.all
      rw [hall]
      rfl
  | depthRangef zNear zFar =>
    unfold step GlState.depthRangef GlState.setDepthRange
    dsimp only
    split
    case isTrue =>
      refine ⟨clamp01_clamp01 zNear, clamp01_clamp01 zFar, fun hemulate => ?_,
        fun _ hclean => by contradiction⟩
      refine (h.emulated hemulate).imp_left fun hall => ?_
      show { s.gl.dirtyBits with depthRange := true } = DirtyBits.all
      rw [hall]
      rfl
    case isFalse => exact h
  | bindDrawFramebuffer framebuffer =>
    unfold step GlState.setDrawFramebufferBinding
    dsimp only
    split
    case isTrue => exact h
    case isFalse =>
      refine { h with emulated := fun hemulate => ?_ }
      refine (h.emulated hemulate).imp_left fun hall => ?_
      show { s.gl.dirtyBits with drawFramebufferBinding := true } = DirtyBits.all
      rw [hall]
      rfl
  | changeFramebuffer framebuffer info => exact { h with }
  | onDrawFrameBufferChangedState =>
    have hrange := @range_updateViewport emulate s
    refine ⟨h.near, h.far, fun hemulate => .inr ?_, fun hemulate _ => .inl ?_⟩
    · rw [hemulate] at hrange ⊢
      exact hrange
    · rw [hemulate] at hrange ⊢
      exact hrange
  | syncState bitMask => exact inv_syncState h bitMask

theorem inv_run {s : System} (h : Inv emulate s) (actions : List Action) :
    Inv emulate (run emulate s actions) :=
  foldlRecOn actions (step emulate) (motive := Inv emulate) h fun _ hs a _ => inv_step hs a

/-! ## Order independence -/

/-- A run from a new context ends with a `syncState` that leaves this system. -/
def SyncedTo (emulate : Bool) (s : System) : Prop :=
  ∃ framebuffers mViewport actions bitMask,
    s = run emulate (initial framebuffers mViewport) (actions ++ [.syncState bitMask])

def GlState.values (gl : GlState) : GlState := { gl with dirtyBits := .none }

/-- After a `syncState` that leaves a GL state in `P`, the depth range is a function of the
viewport, the planes and the framebuffer. -/
def Determined (emulate : Bool) (P : GlState → Prop) : Prop :=
  ∀ s t, SyncedTo emulate s → SyncedTo emulate t → P s.gl → P t.gl →
    s.gl.values = t.gl.values → s.range = t.range

theorem inv_of_syncedTo {s : System} (h : SyncedTo emulate s) : Inv emulate s := by
  obtain ⟨framebuffers, mViewport, actions, bitMask, rfl⟩ := h
  exact inv_run (inv_initial framebuffers mViewport) _

/-- The condition: the depth range has been delivered and need not be inverted, or it is emulated
and something has been delivered. -/
def Independent (emulate : Bool) (gl : GlState) : Prop :=
  if emulate then gl.dirtyBits ≠ .all else gl.dirtyBits.depthRange = false ∧ ¬ gl.farZ < gl.nearZ

theorem range_of_independent {s : System} (hs : SyncedTo emulate s)
    (h : Independent emulate s.gl) :
    s.range = writtenRange emulate s.gl := by
  have hinv := inv_of_syncedTo hs
  unfold Independent at h
  cases emulate with
  | true =>
      rw [if_pos rfl] at h
      exact (hinv.emulated rfl).resolve_left h
  | false =>
      rw [if_neg Bool.false_ne_true] at h
      refine (hinv.clean rfl h.1).elim id fun hinverted => hinverted.trans ?_
      unfold invertedRange writtenRange
      rw [if_neg Bool.false_ne_true, if_neg Bool.false_ne_true, if_neg h.2]

theorem determined_independent : Determined emulate (Independent emulate) := by
  intro s t hs ht hsound htound hvalues
  have hrange : ∀ gl : GlState, writtenRange emulate gl = writtenRange emulate gl.values :=
    fun _ => rfl
  rw [range_of_independent hs hsound, range_of_independent ht htound, hrange, hvalues, ← hrange]

/-! ### The runs that differ -/

/-- A run from a new context leaves this system. -/
def Reached (emulate : Bool) (s : System) : Prop :=
  ∃ framebuffers mViewport actions, s = run emulate (initial framebuffers mViewport) actions

theorem run_append (s : System) (as bs : List Action) :
    run emulate s (as ++ bs) = run emulate (run emulate s as) bs :=
  foldl_append

theorem Reached.run {s : System} (h : Reached emulate s) (actions : List Action) :
    Reached emulate (run emulate s actions) := by
  obtain ⟨framebuffers, mViewport, before, rfl⟩ := h
  exact ⟨framebuffers, mViewport, before ++ actions, (run_append _ _ _).symm⟩

/-- A `syncState` of clean bits only changes nothing. -/
theorem Reached.syncedTo {s : System} (h : Reached emulate s) :
    ∃ t, SyncedTo emulate t ∧ t.gl = s.gl ∧ t.range = s.range := by
  obtain ⟨framebuffers, mViewport, actions, hs⟩ := h
  refine ⟨syncState emulate .none s, ⟨framebuffers, mViewport, actions, .none, ?_⟩, ?_, ?_⟩
  · rw [run_append, ← hs]
    rfl
  · rw [gl_syncState]
    simp only [DirtyBits.diff, DirtyBits.none, Bool.not_false, Bool.and_true]
  · rw [range_syncState]
    simp only [DirtyBits.none, Bool.and_false, Bool.or_false, Bool.false_eq_true, if_false]

def prepare (gl : GlState) : List Action :=
  [.viewport gl.viewport, .bindDrawFramebuffer (gl.drawFramebuffer + 1),
    .bindDrawFramebuffer gl.drawFramebuffer]

theorem run_prepare (gl : GlState) (mViewport : MTLViewport) (zNear zFar : ℚ) :
    run emulate (initial gl.framebuffers mViewport) (prepare gl ++ [.depthRangef zNear zFar]) =
      { gl := { gl with
          nearZ := clamp01 zNear
          farZ := clamp01 zFar
          dirtyBits := .all }
        mViewport } := by
  have hother : 0 ≠ gl.drawFramebuffer + 1 := Nat.ne_of_lt (Nat.succ_pos _)
  have hback : gl.drawFramebuffer + 1 ≠ gl.drawFramebuffer := Nat.succ_ne_self _
  simp only [DepthRange.run, prepare, cons_append, nil_append, foldl_cons,
    foldl_nil, step, initial, GlState.setViewportParams, GlState.setDrawFramebufferBinding,
    hother, hback, if_false, GlState.depthRangef, GlState.setDepthRange, DirtyBits.all]
  split
  case isTrue => rfl
  case isFalse hsame =>
    simp only [ne_eq, not_or, not_not] at hsame
    rw [← hsame.1, ← hsame.2]

/-- Make the bits of the viewport and the framebuffer dirty as they are in `gl`. -/
def touch (gl : GlState) : List Action :=
  (if gl.dirtyBits.viewport then [.viewport gl.viewport] else []) ++
    if gl.dirtyBits.drawFramebufferBinding then
      [.bindDrawFramebuffer (gl.drawFramebuffer + 1), .bindDrawFramebuffer gl.drawFramebuffer]
    else []

theorem run_touch {gl : GlState} {s : System}
    (hgl : s.gl = { gl with dirtyBits := ⟨false, false, gl.dirtyBits.depthRange⟩ }) :
    run emulate s (touch gl) = { s with gl } := by
  obtain ⟨glS, mViewport⟩ := s
  obtain rfl : glS = _ := hgl
  obtain ⟨viewport, nearZ, farZ, drawFramebuffer, framebuffers, bits⟩ := gl
  obtain ⟨binding, viewportBit, depthRangeBit⟩ := bits
  have hother : drawFramebuffer ≠ drawFramebuffer + 1 := (Nat.succ_ne_self _).symm
  cases viewportBit with
  | true =>
    cases binding with
    | true =>
        simp only [DepthRange.run, touch, if_true, if_false, cons_append, nil_append,
          foldl_cons, foldl_nil, step, GlState.setViewportParams,
          GlState.setDrawFramebufferBinding, hother, hother.symm]
    | false => rfl
  | false =>
    cases binding with
    | true =>
        simp only [DepthRange.run, touch, if_true, Bool.false_eq_true, if_false,
          nil_append, foldl_cons, foldl_nil, step,
          GlState.setDrawFramebufferBinding, hother, hother.symm]
    | false => rfl

/-- A reached system whose depth range is delivered as in `gl`, and which differs from `gl` at most
in the two other bits, leads to `gl` with its depth range. -/
theorem Reached.completed {gl : GlState} {s : System} (h : Reached emulate s)
    (hgl : s.gl = { gl with dirtyBits := ⟨false, false, gl.dirtyBits.depthRange⟩ }) :
    ∃ t, SyncedTo emulate t ∧ t.gl = gl ∧ t.range = s.range := by
  have htouched := h.run (touch gl)
  rw [run_touch hgl] at htouched
  exact htouched.syncedTo

theorem setDepthRange_eq {gl : GlState} {zNear zFar : ℚ}
    (h : gl.dirtyBits.depthRange = true ∨ gl.nearZ ≠ zNear) :
    gl.setDepthRange zNear zFar = { gl with
      nearZ := zNear
      farZ := zFar
      dirtyBits := { gl.dirtyBits with depthRange := true } } := by
  unfold GlState.setDepthRange
  split
  case isTrue => rfl
  case isFalse hsame =>
    simp only [ne_eq, not_or, not_not] at hsame
    have hdirty := h.resolve_right fun hne => hne hsame.1
    rw [← hsame.1, ← hsame.2, ← hdirty]

/-- The depth range of `gl` is delivered to a new context, and so is everything else. -/
theorem exists_delivered (emulate : Bool) {gl : GlState} (hnear : clamp01 gl.nearZ = gl.nearZ)
    (hfar : clamp01 gl.farZ = gl.farZ) :
    ∃ s, Reached emulate s ∧ s.gl = { gl with dirtyBits := .none } ∧
      s.range = invertedRange emulate gl := by
  have hprepared := @run_prepare emulate gl ⟨0, 0, 0, 0, 0, 0⟩ gl.nearZ gl.farZ
  rw [hnear, hfar] at hprepared
  have hreached : Reached emulate { gl := { gl with dirtyBits := .all }, mViewport := _ } :=
    ⟨_, _, _, hprepared.symm⟩
  refine ⟨_, hreached.run [.syncState .all], ?_, ?_⟩
  · exact gl_syncState .all _
  · exact range_syncState .all _

theorem exists_pending {gl : GlState} (hnear : clamp01 gl.nearZ = gl.nearZ)
    (hfar : clamp01 gl.farZ = gl.farZ) (hpending : gl.dirtyBits.depthRange = true) {a b : ℚ}
    (ha : clamp01 a = a) (hb : clamp01 b = b) (hne : a ≠ b) :
    ∃ t, SyncedTo false t ∧ t.gl = gl ∧ t.range = (a, a) := by
  obtain ⟨s, hreached, hgl, hrange⟩ := @exists_delivered false { gl with
    nearZ := a
    farZ := a } ha ha
  have hsame : s.range = (a, a) := hrange.trans (if_neg (lt_irrefl a))
  have hpendingRun := hreached.run [.depthRangef b b, .depthRangef gl.nearZ gl.farZ]
  rw [← hsame]
  apply hpendingRun.completed
  show (s.gl.setDepthRange (clamp01 b) (clamp01 b)).setDepthRange (clamp01 gl.nearZ)
    (clamp01 gl.farZ) = _
  have hfirst := @setDepthRange_eq s.gl b b (.inr (by rwa [hgl]))
  rw [hb, hnear, hfar, hfirst, setDepthRange_eq (.inl rfl), hgl, hpending]
  rfl

/-- The viewport is delivered after a depth range that has to be inverted. -/
theorem exists_overwritten {gl : GlState} (hnear : clamp01 gl.nearZ = gl.nearZ)
    (hfar : clamp01 gl.farZ = gl.farZ) (hclean : gl.dirtyBits.depthRange = false) :
    (∃ t, SyncedTo false t ∧ t.gl = gl ∧ t.range = invertedRange false gl) ∧
      ∃ t, SyncedTo false t ∧ t.gl = gl ∧ t.range = writtenRange false gl := by
  obtain ⟨s, hreached, hgl, hrange⟩ := exists_delivered false hnear hfar
  constructor
  · obtain ⟨t, hsynced, htgl, htrange⟩ := @Reached.completed false gl s hreached
      (by rw [hgl, hclean, DirtyBits.none])
    exact ⟨t, hsynced, htgl, htrange.trans hrange⟩
  · have hviewport : (step false s (.viewport gl.viewport)).gl =
        { gl with dirtyBits := ⟨false, true, false⟩ } := by
      show s.gl.setViewportParams gl.viewport = _
      rw [hgl]
      rfl
    have hagain := hreached.run [.viewport gl.viewport, .syncState ⟨false, true, false⟩]
    have hagl : (run false s [.viewport gl.viewport, .syncState ⟨false, true, false⟩]).gl =
        { gl with dirtyBits := ⟨false, false, gl.dirtyBits.depthRange⟩ } := by
      apply (gl_syncState ⟨false, true, false⟩ _).trans
      rw [hviewport, hclean]
      rfl
    have harange : (run false s [.viewport gl.viewport, .syncState ⟨false, true, false⟩]).range =
        writtenRange false gl := by
      apply (range_syncState ⟨false, true, false⟩ _).trans
      rw [hviewport]
      rfl
    obtain ⟨t, hsynced, htgl, htrange⟩ := hagain.completed hagl
    exact ⟨t, hsynced, htgl, htrange.trans harange⟩

theorem exists_untouched (emulate : Bool) {gl : GlState} (hnear : clamp01 gl.nearZ = gl.nearZ)
    (hfar : clamp01 gl.farZ = gl.farZ) (hall : gl.dirtyBits = .all) (z : ℚ) :
    ∃ t, SyncedTo emulate t ∧ t.gl = gl ∧ t.range = (z, z) := by
  have hprepared := @run_prepare emulate gl ⟨0, 0, 0, 0, z, z⟩ gl.nearZ gl.farZ
  rw [hnear, hfar, ← hall] at hprepared
  have hreached : Reached emulate { gl, mViewport := _ } := ⟨_, _, _, hprepared.symm⟩
  exact hreached.syncedTo

theorem independent_of_determined {gl : GlState} (hreach : ∃ s, SyncedTo emulate s ∧ s.gl = gl)
    (h : Determined emulate (· = gl)) : Independent emulate gl := by
  obtain ⟨s, hs, rfl⟩ := hreach
  have hinv := inv_of_syncedTo hs
  have hdiffer : ∀ {r r' : ℚ × ℚ}, (∃ t, SyncedTo emulate t ∧ t.gl = s.gl ∧ t.range = r) →
      (∃ t, SyncedTo emulate t ∧ t.gl = s.gl ∧ t.range = r') → r = r' := by
    rintro r r' ⟨t, ht, htgl, rfl⟩ ⟨t', ht', htgl', rfl⟩
    exact h t t' ht ht' htgl htgl' (by rw [htgl, htgl'])
  unfold Independent
  cases emulate with
  | true =>
      rw [if_pos rfl]
      intro hall
      have hsame := hdiffer (exists_untouched true hinv.near hinv.far hall 0)
        (exists_untouched true hinv.near hinv.far hall 1)
      exact absurd (congrArg Prod.fst hsame) (by decide)
  | false =>
    rw [if_neg Bool.false_ne_true]
    have hclean : s.gl.dirtyBits.depthRange = false := by
      by_contra hdirty
      have hpending := Bool.eq_true_of_not_eq_false hdirty
      have hsame := hdiffer
        (exists_pending hinv.near hinv.far hpending (a := 0) (b := 1) (by decide) (by decide)
          (by decide))
        (exists_pending hinv.near hinv.far hpending (a := 1) (b := 0) (by decide) (by decide)
          (by decide))
      exact absurd (congrArg Prod.fst hsame) (by decide)
    refine ⟨hclean, fun hinvert => ?_⟩
    obtain ⟨hinverted, hwritten⟩ := exists_overwritten hinv.near hinv.far hclean
    have hsame := hdiffer hinverted hwritten
    unfold invertedRange writtenRange at hsame
    rw [if_neg Bool.false_ne_true, if_pos hinvert, if_neg Bool.false_ne_true] at hsame
    exact absurd (congrArg Prod.fst hsame) (ne_of_lt hinvert)

/-- Among all runs whose last `syncState` leaves the depth range delivered and not to be inverted,
or emulated and something delivered, the range is a function of the GL state; at any other GL state
there are two runs that leave different ranges. -/
theorem determined_exact (emulate : Bool) :
    Determined emulate (Independent emulate) ∧ ∀ gl, (∃ s, SyncedTo emulate s ∧ s.gl = gl) →
        (Determined emulate (· = gl) ↔ Independent emulate gl) := by
  refine ⟨determined_independent, fun gl hreach => ⟨independent_of_determined hreach, fun h => ?_⟩⟩
  rintro s t hs ht rfl htgl hvalues
  exact determined_independent s t hs ht h (htgl ▸ h) hvalues

theorem determined_exact_delivered :
    let gl := (run false (initial (fun _ => ⟨4, false⟩) ⟨0, 0, 0, 0, 0, 0⟩)
      [.depthRangef 0 (1 / 2), .syncState .all]).gl
    gl.farZ = 1 / 2 ∧ Determined false (· = gl) := by
  intro gl
  have hfar : gl.farZ = 1 / 2 := by decide +kernel
  have hindependent : Independent false gl := by
    show gl.dirtyBits.depthRange = false ∧ ¬ gl.farZ < gl.nearZ
    decide +kernel
  exact ⟨hfar, ((determined_exact false).2 gl
    ⟨_, ⟨_, _, [.depthRangef 0 (1 / 2)], .all, rfl⟩, rfl⟩).mpr hindependent⟩

/-- Reversed planes are delivered, and then a viewport; or the viewport, and then the planes. -/
theorem not_determined_reversed :
    let start := initial (fun _ => ⟨4, false⟩) ⟨0, 0, 0, 0, 0, 0⟩
    let viewport := Action.viewport ⟨0, 0, 4, 4⟩
    let s := run false start [.depthRangef 1 0, .syncState .all, viewport, .syncState .all]
    let t := run false start [viewport, .syncState .all, .depthRangef 1 0, .syncState .all]
    s.gl = t.gl ∧ s.gl.dirtyBits = .none ∧ s.range = (1, 0) ∧ t.range = (0, 1) ∧
      ¬ Determined false fun _ => True := by
  intro start viewport s t
  have hs : s.range = (1, 0) := by decide +kernel
  have ht : t.range = (0, 1) := by decide +kernel
  have hsync : s.gl = t.gl := rfl
  refine ⟨hsync, rfl, hs, ht, fun hdetermined => ?_⟩
  have hsame := hdetermined s t ⟨_, _, [.depthRangef 1 0, .syncState .all, viewport], .all, rfl⟩
    ⟨_, _, [viewport, .syncState .all, .depthRangef 1 0], .all, rfl⟩ trivial trivial
    (by rw [hsync])
  rw [hs, ht] at hsame
  exact absurd (congrArg Prod.fst hsame) (by decide)

end MetalAngle.Metal.DepthRange
