import MetalAngle.Metal.DepthStencilSync

/-!
# Runs of depth and stencil changes

A call of the front end changes the GL state and marks a dirty bit, `syncState` deals with some of
the dirty bits, and a draw applies the state of the context to the encoder of its render pass.
-/

namespace MetalAngle.Metal.DepthStencil

open DirtyBits LabelledRun Option

structure RenderCommandEncoder where
  mRenderPassDesc : RenderPassDesc
  depthStencilState : Option DepthStencilDesc
  stencilFrontRef : Nat
  stencilBackRef : Nat

structure World where
  glState : GLState
  dirtyBits : DirtyBit → Bool
  context : ContextState
  /-- `DIRTY_BIT_DEPTH_STENCIL_DESC` of the context. -/
  depthStencilDescDirty : Bool
  /-- `DIRTY_BIT_STENCIL_REF` of the context. -/
  stencilRefDirty : Bool
  /-- `DIRTY_BIT_DRAW_FRAMEBUFFER` of the context. -/
  drawFramebufferDirty : Bool
  mDrawFramebuffer : RenderPassDesc
  mRenderEncoder : Option RenderCommandEncoder

namespace World

/-! ## Calls of the front end -/

def change (bit : DirtyBit) (glState : GLState) (w : World) : World :=
  if w.glState = glState then w
  else
    { w with
      glState
      dirtyBits := fun other => w.dirtyBits other || other == bit }

def onDepthStencil (bit : DirtyBit) (change : DepthStencilState → DepthStencilState) (w : World) :
    World :=
  w.change bit { w.glState with depthStencil := change w.glState.depthStencil }

def setDepthTest (enabled : Bool) : World → World :=
  onDepthStencil .depthTestEnabled fun dsState => { dsState with depthTest := enabled }

def setDepthFunc (depthFunc : CompareFunc) : World → World :=
  onDepthStencil .depthFunc fun dsState => { dsState with depthFunc }

def setDepthMask (mask : Bool) : World → World :=
  onDepthStencil .depthMask fun dsState => { dsState with depthMask := mask }

def setStencilTest (enabled : Bool) : World → World :=
  onDepthStencil .stencilTestEnabled fun dsState => { dsState with stencilTest := enabled }

def setStencilParams (func : CompareFunc) (stencilRef : Int) (mask : BitVec 32) (w : World) :
    World :=
  let dsState := w.glState.depthStencil
  w.change .stencilFuncsFront
    { w.glState with
      depthStencil := { dsState with stencil := { dsState.stencil with func, mask } }
      stencilRef }

def setStencilBackParams (func : CompareFunc) (stencilBackRef : Int) (mask : BitVec 32)
    (w : World) : World :=
  let dsState := w.glState.depthStencil
  w.change .stencilFuncsBack
    { w.glState with
      depthStencil := { dsState with stencilBack := { dsState.stencilBack with func, mask } }
      stencilBackRef }

def setStencilWritemask (writemask : BitVec 32) : World → World :=
  onDepthStencil .stencilWritemaskFront fun dsState =>
    { dsState with stencil := { dsState.stencil with writemask } }

def setStencilBackWritemask (writemask : BitVec 32) : World → World :=
  onDepthStencil .stencilWritemaskBack fun dsState =>
    { dsState with stencilBack := { dsState.stencilBack with writemask } }

def setStencilOperations (fail passDepthFail passDepthPass : StencilOp) : World → World :=
  onDepthStencil .stencilOpsFront fun dsState =>
    { dsState with stencil := { dsState.stencil with fail, passDepthFail, passDepthPass } }

def setStencilBackOperations (fail passDepthFail passDepthPass : StencilOp) : World → World :=
  onDepthStencil .stencilOpsBack fun dsState =>
    { dsState with stencilBack := { dsState.stencilBack with fail, passDepthFail, passDepthPass } }

def setAllDirtyBits (w : World) : World := { w with dirtyBits := fun _ => true }

/-! ## The context -/

/-- `syncState` for one dirty bit, with the dirty bits of the context. -/
def syncBit (w : World) (bit : DirtyBit) : World :=
  { w with
    context := syncDirtyBit bit w.glState w.context
    depthStencilDescDirty := true
    stencilRefDirty := w.stencilRefDirty || bit ∈ [Face.front.funcs, Face.back.funcs] }

/-- `syncState` with dirty bits in some order, which the front end then clears. -/
def syncState (order : List DirtyBit) (w : World) : World :=
  { order.foldl syncBit w with dirtyBits := clearBits w.dirtyBits order }

def invalidateState (w : World) : World :=
  { w with
    depthStencilDescDirty := true
    stencilRefDirty := true
    drawFramebufferDirty := true }

def endEncoding (w : World) : World := { w with mRenderEncoder := none }

/-- `onDrawFrameBufferChangedState` for a framebuffer with other attachments. -/
def changeDrawFramebuffer (desc : RenderPassDesc) (w : World) : World :=
  { w.endEncoding.invalidateState with mDrawFramebuffer := desc }

def getRenderCommandEncoder (desc : RenderPassDesc) (w : World) : World :=
  if w.mRenderEncoder.any (·.mRenderPassDesc = desc) then w
  else { w.endEncoding.invalidateState with mRenderEncoder := some ⟨desc, none, 0, 0⟩ }

def drawUtility (state : DepthStencilDesc) (frontRef backRef : Nat) (w : World) : World :=
  { w.invalidateState with
    mRenderEncoder := w.mRenderEncoder.map fun encoder =>
      ⟨encoder.mRenderPassDesc, some state, frontRef, backRef⟩ }

/-- `handleDirtyDepthStencilState` and `setStencilRefVals`, as far as they are due. -/
def applyDirtyBits (w : World) (encoder : RenderCommandEncoder) : RenderCommandEncoder where
  __ := encoder
  depthStencilState :=
    if w.depthStencilDescDirty then
      some (w.context.mDepthStencilDesc.forRenderPass encoder.mRenderPassDesc)
    else encoder.depthStencilState
  stencilFrontRef :=
    if w.stencilRefDirty then w.context.mStencilRefFront else encoder.stencilFrontRef
  stencilBackRef :=
    if w.stencilRefDirty then w.context.mStencilRefBack else encoder.stencilBackRef

/-- The part of `setupDraw` that starts the render pass. -/
def handleDirtyRenderPass (w : World) : World :=
  let w := if w.mRenderEncoder.isNone then w.invalidateState else w
  if w.drawFramebufferDirty then w.getRenderCommandEncoder w.mDrawFramebuffer else w

def setupDraw (w : World) : World :=
  let w := w.handleDirtyRenderPass
  { w with
    mRenderEncoder := w.mRenderEncoder.map w.applyDirtyBits
    depthStencilDescDirty := false
    stencilRefDirty := false
    drawFramebufferDirty := false }

end World

/-! ## Steps -/

inductive Action
  | setDepthTest (enabled : Bool)
  | setDepthFunc (depthFunc : CompareFunc)
  | setDepthMask (mask : Bool)
  | setStencilTest (enabled : Bool)
  | setStencilParams (func : CompareFunc) (stencilRef : Int) (mask : BitVec 32)
  | setStencilBackParams (func : CompareFunc) (stencilBackRef : Int) (mask : BitVec 32)
  | setStencilWritemask (writemask : BitVec 32)
  | setStencilBackWritemask (writemask : BitVec 32)
  | setStencilOperations (fail passDepthFail passDepthPass : StencilOp)
  | setStencilBackOperations (fail passDepthFail passDepthPass : StencilOp)
  | setAllDirtyBits
  | syncState (order : List DirtyBit)
  | changeDrawFramebuffer (desc : RenderPassDesc)
  | getRenderCommandEncoder (desc : RenderPassDesc)
  | drawUtility (state : DepthStencilDesc) (frontRef backRef : Nat)
  | endEncoding
  | draw

/-- A draw comes after a `syncState` with all dirty bits. -/
def step (w : World) : Action → Option World
  | .setDepthTest enabled => some (w.setDepthTest enabled)
  | .setDepthFunc depthFunc => some (w.setDepthFunc depthFunc)
  | .setDepthMask mask => some (w.setDepthMask mask)
  | .setStencilTest enabled => some (w.setStencilTest enabled)
  | .setStencilParams func stencilRef mask => some (w.setStencilParams func stencilRef mask)
  | .setStencilBackParams func stencilBackRef mask =>
      some (w.setStencilBackParams func stencilBackRef mask)
  | .setStencilWritemask writemask => some (w.setStencilWritemask writemask)
  | .setStencilBackWritemask writemask => some (w.setStencilBackWritemask writemask)
  | .setStencilOperations fail passDepthFail passDepthPass =>
      some (w.setStencilOperations fail passDepthFail passDepthPass)
  | .setStencilBackOperations fail passDepthFail passDepthPass =>
      some (w.setStencilBackOperations fail passDepthFail passDepthPass)
  | .setAllDirtyBits => some w.setAllDirtyBits
  | .syncState order => some (w.syncState order)
  | .changeDrawFramebuffer desc => some (w.changeDrawFramebuffer desc)
  | .getRenderCommandEncoder desc => some (w.getRenderCommandEncoder desc)
  | .drawUtility state frontRef backRef => some (w.drawUtility state frontRef backRef)
  | .endEncoding => some w.endEncoding
  | .draw => if DirtyBit.all.all fun bit => !w.dirtyBits bit then some w.setupDraw else none

def initial (desc : RenderPassDesc) : World where
  glState := ⟨.init, 0, 0⟩
  dirtyBits _ := true
  context := .init
  depthStencilDescDirty := false
  stencilRefDirty := false
  drawFramebufferDirty := false
  mDrawFramebuffer := desc
  mRenderEncoder := none

def rebuilt (glState : GLState) : ContextState :=
  tracker.deliver DirtyBit.all glState .init

/-! ## The invariant -/

/-- The encoder has what the context does not want to apply to it again. -/
structure Applied (w : World) (encoder : RenderCommandEncoder) : Prop where
  depthStencilState : w.depthStencilDescDirty = false →
    encoder.depthStencilState =
      some (w.context.mDepthStencilDesc.forRenderPass encoder.mRenderPassDesc)
  stencilRef : w.stencilRefDirty = false →
    encoder.stencilFrontRef = w.context.mStencilRefFront ∧
      encoder.stencilBackRef = w.context.mStencilRefBack
  drawFramebuffer : w.drawFramebufferDirty = false → encoder.mRenderPassDesc = w.mDrawFramebuffer

structure Inv (w : World) : Prop where
  tracks : tracker.Tracks w.dirtyBits w.glState w.context
  applied : ∀ encoder, w.mRenderEncoder = some encoder → Applied w encoder

namespace World

variable {w : World}

theorem inv_initial (desc : RenderPassDesc) : Inv (initial desc) where
  tracks := Tracker.tracks_allDirty _ _
  applied encoder h := by contradiction

/-- A call keeps the invariant when what its dirty bit does not refresh does not read what the call
changes. -/
theorem inv_change {bit : DirtyBit} {glState : GLState} (h : Inv w)
    (hframe : ∀ aspect : Aspect, ¬ aspect.refreshedBy bit →
      Fresh aspect w.glState w.context → Fresh aspect glState w.context) :
    Inv (w.change bit glState) := by
  unfold change
  split
  · exact h
  · constructor
    · refine h.tracks.change fun aspect hclean => hframe aspect fun hbit => ?_
      have hne := hclean bit hbit
      rw [beq_self_eq_true] at hne
      contradiction
    · intro encoder hencoder
      obtain ⟨hstate, href, hframebuffer⟩ := h.applied encoder hencoder
      exact ⟨hstate, href, hframebuffer⟩

theorem inv_setAllDirtyBits (h : Inv w) : Inv w.setAllDirtyBits where
  tracks := Tracker.tracks_allDirty _ _
  applied encoder hencoder := by
    obtain ⟨hstate, href, hframebuffer⟩ := h.applied encoder hencoder
    exact ⟨hstate, href, hframebuffer⟩

theorem context_syncState (w : World) (order : List DirtyBit) :
    (w.syncState order).context = tracker.deliver order w.glState w.context ∧
      (order.foldl syncBit w).glState = w.glState := by
  unfold syncState
  dsimp only
  induction order generalizing w with
  | nil => exact ⟨rfl, rfl⟩
  | cons bit rest ih =>
      obtain ⟨hcontext, hglState⟩ := ih (w.syncBit bit)
      exact ⟨hcontext, hglState⟩

variable {encoder : RenderCommandEncoder}

theorem applied_syncBit (h : Applied w encoder) (bit : DirtyBit) :
    Applied (w.syncBit bit) encoder where
  __ := h
  depthStencilState hclean := by contradiction
  stencilRef hclean := by
    obtain ⟨hclean, hbit⟩ := Bool.or_eq_false_iff.mp hclean
    have hbit := of_decide_eq_false hbit
    rw [List.mem_cons, List.mem_singleton, not_or] at hbit
    have hfront := ref_syncDirtyBit bit w.glState w.context .front
    have hback := ref_syncDirtyBit bit w.glState w.context .back
    rw [if_neg hbit.1] at hfront
    rw [if_neg hbit.2] at hback
    exact ⟨(h.stencilRef hclean).1.trans hfront.symm, (h.stencilRef hclean).2.trans hback.symm⟩

theorem applied_foldl_syncBit (h : Applied w encoder)
    (order : List DirtyBit) : Applied (order.foldl syncBit w) encoder := by
  induction order generalizing w with
  | nil => exact h
  | cons bit rest ih => exact ih (applied_syncBit h bit)

theorem mRenderEncoder_foldl_syncBit (w : World) (order : List DirtyBit) :
    (order.foldl syncBit w).mRenderEncoder = w.mRenderEncoder := by
  induction order generalizing w with
  | nil => rfl
  | cons bit rest ih => exact ih (w.syncBit bit)

theorem inv_syncState (h : Inv w) (order : List DirtyBit) : Inv (w.syncState order) where
  tracks := by
    obtain ⟨hcontext, hglState⟩ := context_syncState w order
    show tracker.Tracks (clearBits w.dirtyBits order) (order.foldl syncBit w).glState _
    rw [hcontext, hglState]
    exact h.tracks.deliver order
  applied encoder hencoder := by
    have hsame : w.mRenderEncoder = some encoder :=
      (mRenderEncoder_foldl_syncBit w order).symm.trans hencoder
    obtain ⟨hstate, href, hframebuffer⟩ := applied_foldl_syncBit (h.applied encoder hsame) order
    exact ⟨hstate, href, hframebuffer⟩

theorem applied_of_dirty (hstate : w.depthStencilDescDirty)
    (href : w.stencilRefDirty) (hframebuffer : w.drawFramebufferDirty) :
    Applied w encoder where
  depthStencilState hclean := absurd (hstate.symm.trans hclean) Bool.noConfusion
  stencilRef hclean := absurd (href.symm.trans hclean) Bool.noConfusion
  drawFramebuffer hclean := absurd (hframebuffer.symm.trans hclean) Bool.noConfusion

theorem inv_invalidateState (h : Inv w) (mDrawFramebuffer : RenderPassDesc)
    (mRenderEncoder : Option RenderCommandEncoder) :
    Inv { w.invalidateState with mDrawFramebuffer, mRenderEncoder } where
  __ := h
  applied _ _ := applied_of_dirty rfl rfl rfl

theorem inv_getRenderCommandEncoder (h : Inv w) (desc : RenderPassDesc) :
    Inv (w.getRenderCommandEncoder desc) := by
  unfold getRenderCommandEncoder
  split
  · exact h
  · exact inv_invalidateState h _ _

theorem inv_endEncoding (h : Inv w) : Inv w.endEncoding where
  __ := h
  applied encoder hencoder := by contradiction

theorem inv_handleDirtyRenderPass (h : Inv w) : Inv w.handleDirtyRenderPass := by
  have hinvalidated : Inv (if w.mRenderEncoder.isNone then w.invalidateState else w) := by
    split
    · exact inv_invalidateState h _ _
    · exact h
  unfold handleDirtyRenderPass
  dsimp only
  generalize (if w.mRenderEncoder.isNone then w.invalidateState else w) = started at hinvalidated ⊢
  split
  · exact inv_getRenderCommandEncoder hinvalidated _
  · exact hinvalidated

/-- What `setupDraw` leaves dirty it has applied. -/
theorem applied_applyDirtyBits (h : Applied w encoder) :
    (w.applyDirtyBits encoder).depthStencilState =
        some (w.context.mDepthStencilDesc.forRenderPass encoder.mRenderPassDesc) ∧
      (w.applyDirtyBits encoder).stencilFrontRef = w.context.mStencilRefFront ∧
      (w.applyDirtyBits encoder).stencilBackRef = w.context.mStencilRefBack := by
  unfold applyDirtyBits
  dsimp only
  refine ⟨?_, ?_, ?_⟩
  · split
    case isTrue => rfl
    case isFalse hclean => exact h.depthStencilState (Bool.eq_false_iff.mpr hclean)
  · split
    case isTrue => rfl
    case isFalse hclean => exact (h.stencilRef (Bool.eq_false_iff.mpr hclean)).1
  · split
    case isTrue => rfl
    case isFalse hclean => exact (h.stencilRef (Bool.eq_false_iff.mpr hclean)).2

theorem encoder_handleDirtyRenderPass (h : Inv w) :
    ∃ encoder, w.handleDirtyRenderPass.mRenderEncoder = some encoder ∧
      encoder.mRenderPassDesc = w.mDrawFramebuffer := by
  unfold handleDirtyRenderPass
  dsimp only
  cases hencoder : w.mRenderEncoder with
  | none =>
    refine ⟨⟨w.mDrawFramebuffer, none, 0, 0⟩, ?_, rfl⟩
    have hdirty : w.invalidateState.drawFramebufferDirty := rfl
    rw [isNone_none, if_pos rfl, if_pos hdirty]
    unfold getRenderCommandEncoder
    rw [if_neg (by rw [show w.invalidateState.mRenderEncoder = none from hencoder]; simp)]
    rfl
  | some encoder =>
    rw [isNone_some, if_neg Bool.false_ne_true]
    split
    case isTrue =>
      unfold getRenderCommandEncoder
      split
      case isTrue hsame =>
        rw [hencoder, any_some, decide_eq_true_eq] at hsame
        exact ⟨encoder, hencoder, hsame⟩
      case isFalse => exact ⟨_, rfl, rfl⟩
    case isFalse hclean =>
      exact ⟨encoder, hencoder,
        (h.applied encoder hencoder).drawFramebuffer (Bool.eq_false_iff.mpr hclean)⟩

theorem handleDirtyRenderPass_eq (w : World) :
    w.handleDirtyRenderPass.context = w.context ∧ w.handleDirtyRenderPass.glState = w.glState ∧
      w.handleDirtyRenderPass.mDrawFramebuffer = w.mDrawFramebuffer := by
  unfold handleDirtyRenderPass getRenderCommandEncoder
  dsimp only
  split <;> split
  · split <;> exact ⟨rfl, rfl, rfl⟩
  · exact ⟨rfl, rfl, rfl⟩
  · split <;> exact ⟨rfl, rfl, rfl⟩
  · exact ⟨rfl, rfl, rfl⟩

theorem encoder_setupDraw (h : Inv w) :
    ∃ encoder, w.setupDraw.mRenderEncoder = some encoder ∧
      encoder.mRenderPassDesc = w.mDrawFramebuffer ∧
      encoder.depthStencilState =
        some (w.context.mDepthStencilDesc.forRenderPass w.mDrawFramebuffer) ∧
      encoder.stencilFrontRef = w.context.mStencilRefFront ∧
      encoder.stencilBackRef = w.context.mStencilRefBack := by
  obtain ⟨encoder, hencoder, hdesc⟩ := encoder_handleDirtyRenderPass h
  have happlied := (inv_handleDirtyRenderPass h).applied encoder hencoder
  obtain ⟨hstate, hfront, hback⟩ := applied_applyDirtyBits happlied
  obtain ⟨hcontext, -, -⟩ := handleDirtyRenderPass_eq w
  rw [hcontext] at hstate hfront hback
  rw [hdesc] at hstate
  refine ⟨w.handleDirtyRenderPass.applyDirtyBits encoder, ?_, hdesc, hstate, hfront, hback⟩
  show w.handleDirtyRenderPass.mRenderEncoder.map _ = _
  rw [hencoder, map_some]

theorem inv_setupDraw (h : Inv w) : Inv w.setupDraw where
  tracks := (inv_handleDirtyRenderPass h).tracks
  applied encoder hencoder := by
    obtain ⟨drawn, hdrawn, hdesc, hstate, hfront, hback⟩ := encoder_setupDraw h
    obtain rfl : drawn = encoder := some.inj (hdrawn.symm.trans hencoder)
    obtain ⟨hcontext, -, hframebuffer⟩ := handleDirtyRenderPass_eq w
    refine ⟨fun _ => ?_, fun _ => ?_, fun _ => hdesc.trans hframebuffer.symm⟩
    · rw [hdesc, hstate]
      show _ = some (w.handleDirtyRenderPass.context.mDepthStencilDesc.forRenderPass _)
      rw [hcontext]
    · show _ = w.handleDirtyRenderPass.context.mStencilRefFront ∧
        _ = w.handleDirtyRenderPass.context.mStencilRefBack
      rw [hcontext]
      exact ⟨hfront, hback⟩

end World

/-! ## Runs -/

theorem inv_step {w w' : World} {a : Action} (h : Inv w) (hstep : step w a = some w') : Inv w' := by
  cases a with
  | setDepthTest | setDepthFunc | setDepthMask | setStencilTest =>
    cases hstep
    refine World.inv_change h fun aspect hbit hfresh => ?_
    cases aspect <;> first
      | exact hfresh
      | exact (hbit rfl).elim
      | exact (hbit (Or.inl rfl)).elim
      | exact (hbit (Or.inr rfl)).elim
  | setStencilParams | setStencilBackParams | setStencilWritemask | setStencilBackWritemask
  | setStencilOperations | setStencilBackOperations =>
    cases hstep
    refine World.inv_change h fun aspect hbit hfresh => ?_
    cases aspect with
    | depthDisabled | depthFunc | depthMask => exact hfresh
    | stencilDisabled face | stencilFuncs face | stencilOps face | stencilWritemask face
    | stencilRef face =>
        -- The call changes one face, and of that what its bit refreshes.
        cases face <;> first
          | exact hfresh
          | exact (hbit rfl).elim
          | exact (hbit (Or.inr rfl)).elim
  | setAllDirtyBits =>
      cases hstep
      exact World.inv_setAllDirtyBits h
  | syncState order =>
      cases hstep
      exact World.inv_syncState h order
  | changeDrawFramebuffer desc =>
      cases hstep
      exact World.inv_invalidateState h _ _
  | getRenderCommandEncoder desc =>
      cases hstep
      exact World.inv_getRenderCommandEncoder h desc
  | drawUtility state frontRef backRef =>
      cases hstep
      exact World.inv_invalidateState h _ _
  | endEncoding =>
      cases hstep
      exact World.inv_endEncoding h
  | draw =>
      obtain ⟨-, ⟨⟩⟩ := ite_none_right_eq_some.mp hstep
      exact World.inv_setupDraw h

theorem inv_run {desc : RenderPassDesc} {actions : List Action} {w : World}
    (hrun : Run step anyStep (initial desc) actions w) : Inv w :=
  hrun.invariant (fun _ _ _ h _ hstep => inv_step h hstep) (World.inv_initial desc)

theorem fresh_rebuilt (glState : GLState) (aspect : Aspect) :
    Fresh aspect glState (rebuilt glState) :=
  Tracker.fresh_rebuild (T := tracker) DirtyBit.mem_all glState ContextState.init aspect

/-- After a `syncState` that leaves no dirty bit, the descriptor tests and writes as one that is
built anew from the GL state, in every render pass. -/
theorem syncState_test_eq_rebuilt {desc : RenderPassDesc} {actions : List Action} {w : World}
    (hrun : Run step anyStep (initial desc) actions w) {order : List DirtyBit}
    (hall : ∀ bit, w.dirtyBits bit = true → bit ∈ order) {Depth : Type} [Ord Depth]
    (pass : RenderPassDesc) (reference : Bool → BitVec 8) (fragment : Fragment Depth)
    (sample : Sample Depth) :
    ((w.syncState order).context.mDepthStencilDesc.forRenderPass pass).test pass reference
        fragment sample =
      ((rebuilt w.glState).mDepthStencilDesc.forRenderPass pass).test pass reference fragment
        sample := by
  have hfresh := (inv_run hrun).tracks.fresh_deliver hall
  obtain ⟨hcontext, -⟩ := World.context_syncState w order
  rw [hcontext]
  exact test_of_fresh hfresh (fresh_rebuilt w.glState) pass reference fragment sample

/-- The stencil test is enabled and disabled again, with its dirty bit and another one in separate
groups. -/
theorem syncState_test_eq_rebuilt_disabled :
    let pass : RenderPassDesc := ⟨[some 1], some 2, some 2⟩
    let actions : List Action :=
      [.syncState DirtyBit.all.reverse, .setStencilTest true, .setStencilParams .GL_EQUAL 3 7,
        .syncState [.stencilTestEnabled], .setStencilTest false]
    let order : List DirtyBit := [.stencilFuncsFront, .stencilTestEnabled]
    ∃ w, Run step anyStep (initial pass) actions w ∧
      ((w.syncState order).context.mDepthStencilDesc.forRenderPass pass).test pass (fun _ => 3)
          (⟨true, 0⟩ : Fragment Nat) ⟨1, 5⟩ =
        ((rebuilt w.glState).mDepthStencilDesc.forRenderPass pass).test pass (fun _ => 3)
          (⟨true, 0⟩ : Fragment Nat) ⟨1, 5⟩ := by
  intro pass actions order
  have hrun : Run step anyStep (initial pass) actions _ := Run.of_exec rfl
  refine ⟨_, hrun, syncState_test_eq_rebuilt hrun ?_ pass _ _ _⟩
  intro bit
  cases bit <;> decide

/-- A draw tests and writes in its encoder as with a descriptor that is built anew from the GL
state, and with the reference values of the GL state. -/
theorem draw_test_eq_rebuilt {desc : RenderPassDesc} {actions : List Action} {w w' : World}
    (hrun : Run step anyStep (initial desc) actions w) (hdraw : step w .draw = some w')
    {Depth : Type} [Ord Depth] (reference : Bool → BitVec 8) (fragment : Fragment Depth)
    (sample : Sample Depth) :
    ∃ encoder used, w'.mRenderEncoder = some encoder ∧
      encoder.mRenderPassDesc = w.mDrawFramebuffer ∧ encoder.depthStencilState = some used ∧
      used.test w.mDrawFramebuffer reference fragment sample =
        ((rebuilt w.glState).mDepthStencilDesc.forRenderPass w.mDrawFramebuffer).test
          w.mDrawFramebuffer reference fragment sample ∧
      encoder.stencilFrontRef = clampStencilRef w.glState.stencilRef ∧
      encoder.stencilBackRef = clampStencilRef w.glState.stencilBackRef := by
  obtain ⟨hclean, ⟨⟩⟩ := ite_none_right_eq_some.mp hdraw
  have hinv := inv_run hrun
  have hfresh : ∀ aspect, Fresh aspect w.glState w.context := fun aspect =>
    hinv.tracks aspect fun bit _ => by
      have hbit := List.all_eq_true.mp hclean bit bit.mem_all
      rwa [Bool.not_eq_true'] at hbit
  obtain ⟨encoder, hencoder, hpass, hstate, hfront, hback⟩ := World.encoder_setupDraw hinv
  refine ⟨encoder, _, hencoder, hpass, hstate, ?_, ?_, ?_⟩
  · exact test_of_fresh hfresh (fresh_rebuilt w.glState) _ reference fragment sample
  · exact hfront.trans (hfresh (.stencilRef .front))
  · exact hback.trans (hfresh (.stencilRef .back))

/-- A utility draws with its own state in the render pass of the first draw. -/
theorem draw_test_eq_rebuilt_drawUtility :
    let pass : RenderPassDesc := ⟨[some 1], none, some 2⟩
    let actions : List Action :=
      [.syncState DirtyBit.all, .draw, .setStencilTest true, .setStencilBackParams .GL_EQUAL 300 7,
        .syncState DirtyBit.all, .drawUtility .reset 0 0]
    ∃ w w', Run step anyStep (initial pass) actions w ∧ step w .draw = some w' ∧
      ∃ encoder used, w'.mRenderEncoder = some encoder ∧ encoder.stencilBackRef = 255 ∧
        encoder.depthStencilState = some used ∧
        used.test pass (fun _ => 3) (⟨false, 0⟩ : Fragment Nat) ⟨1, 5⟩ =
          ((rebuilt w.glState).mDepthStencilDesc.forRenderPass pass).test pass (fun _ => 3)
            (⟨false, 0⟩ : Fragment Nat) ⟨1, 5⟩ := by
  intro pass actions
  have hrun : Run step anyStep (initial pass) actions _ := Run.of_exec rfl
  obtain ⟨encoder, used, hencoder, -, hused, htest, -, hback⟩ :=
    draw_test_eq_rebuilt hrun rfl (fun _ => 3) (⟨false, 0⟩ : Fragment Nat) ⟨1, 5⟩
  exact ⟨_, _, hrun, rfl, encoder, used, hencoder, hback, hused, htest⟩

end MetalAngle.Metal.DepthStencil
