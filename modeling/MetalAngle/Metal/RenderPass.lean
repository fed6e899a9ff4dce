import Mathlib.Logic.Function.Basic

/-!
# Load and store actions of render passes

A render pass draws into the contents that its load actions give it, and its store actions say what
becomes of them at its end.  The actions are chosen in the descriptor of a framebuffer when it is
bound, and again in the encoder of the pass while it is open.

A native encoder is created late, so that it is here an encoder with a mark: its load actions can
be changed until something has been drawn.
-/

namespace MetalAngle.Metal.RenderPasses

abbrev kMaxRenderTargets : Nat := 4

abbrev Value := Nat

abbrev Texel := Nat

abbrev Contents := Texel → Option Value

abbrev ImageID := Nat

abbrev MSTextureID := Nat

abbrev FramebufferID := Nat

abbrev defaultFramebuffer : FramebufferID := 0

inductive Storage
  | texture (id : ImageID)
  | implicitMSTexture (id : MSTextureID)
deriving DecidableEq

inductive MTLLoadAction
  | DontCare
  | Load
  | Clear (value : Value)
deriving DecidableEq

inductive MTLStoreAction
  | Unknown
  | DontCare
  | Store
  | MultisampleResolve
  | StoreAndMultisampleResolve
deriving DecidableEq

/-- `RenderPassAttachmentTextureTargetDesc` with a texture. -/
structure TextureTarget where
  targetTexture : ImageID
  targetImplicitMSTexture : Option MSTextureID
deriving DecidableEq

def TextureTarget.hasImplicitMSTexture (target : TextureTarget) : Bool :=
  target.targetImplicitMSTexture.isSome

def TextureTarget.rendered (target : TextureTarget) : Storage :=
  match target.targetImplicitMSTexture with
  | some id => .implicitMSTexture id
  | none => .texture target.targetTexture

inductive AttachmentPoint
  | color (index : Fin kMaxRenderTargets)
  | depth
  | stencil
deriving DecidableEq

def AttachmentPoint.all : List AttachmentPoint :=
  (List.finRange kMaxRenderTargets).map .color ++ [.depth, .stencil]

structure RenderPassAttachmentDesc where
  target : Option TextureTarget
  loadAction : MTLLoadAction
  storeAction : MTLStoreAction

def RenderPassAttachmentDesc.reset : RenderPassAttachmentDesc := ⟨none, .Load, .Store⟩

abbrev RenderPassDesc := AttachmentPoint → RenderPassAttachmentDesc

def RenderPassDesc.equalIgnoreLoadStoreOptions (desc other : RenderPassDesc) : Bool :=
  ∀ point ∈ AttachmentPoint.all, (desc point).target = (other point).target

abbrev Writes := AttachmentPoint → Contents

def overlay (writes old : Contents) : Contents := fun texel => (writes texel).or (old texel)

/-! ## Encoders -/

structure RenderCommandEncoder where
  mRenderPassDesc : RenderPassDesc
  /-- Something has been encoded. -/
  started : Bool
  contents : AttachmentPoint → Contents

def correctStoreAction (hasResolveTexture : Bool) : MTLStoreAction → MTLStoreAction
  | .Store => if hasResolveTexture then .StoreAndMultisampleResolve else .Store
  | .DontCare => if hasResolveTexture then .MultisampleResolve else .DontCare
  | .Unknown => .DontCare
  | action => action

def MTLStoreAction.stores : MTLStoreAction → Bool
  | .Store | .StoreAndMultisampleResolve => true
  | _ => false

def MTLStoreAction.resolves : MTLStoreAction → Bool
  | .MultisampleResolve | .StoreAndMultisampleResolve => true
  | _ => false

def RenderPassAttachmentDesc.load (attachment : RenderPassAttachmentDesc)
    (memory : Storage → Contents) : Contents :=
  match attachment.target, attachment.loadAction with
  | none, _ => fun _ => none
  | some _, .DontCare => fun _ => none
  | some target, .Load => memory target.rendered
  | some _, .Clear value => fun _ => some value

namespace RenderCommandEncoder

def restart (memory : Storage → Contents) (desc : RenderPassDesc) : RenderCommandEncoder where
  mRenderPassDesc := desc
  started := false
  contents point := (desc point).load memory

variable (e : RenderCommandEncoder)

def canChangeLoadAction : Bool := !e.started

/-- `setColorStoreAction`, `setDepthStoreAction` and `setStencilStoreAction`. -/
def setStoreAction (action : MTLStoreAction) (points : AttachmentPoint → Bool) :
    RenderCommandEncoder :=
  { e with
    mRenderPassDesc := fun point =>
      if points point then { e.mRenderPassDesc point with storeAction := action }
      else e.mRenderPassDesc point }

def encode (writes : Writes) : RenderCommandEncoder :=
  { e with
    started := true
    contents := fun point => overlay (writes point) (e.contents point) }

def setLoadAction (values : AttachmentPoint → Option Value) : RenderCommandEncoder :=
  { e with
    contents := fun point => overlay (fun _ => values point) (e.contents point) }

def pointOf (storage : Storage) : Option AttachmentPoint :=
  AttachmentPoint.all.find? fun point => (e.mRenderPassDesc point).target.any fun target =>
    storage = .texture target.targetTexture ∨ storage = target.rendered

def storeAt (point : AttachmentPoint) (target : TextureTarget) (storage : Storage)
    (old : Contents) : Contents :=
  let action := correctStoreAction target.hasImplicitMSTexture
    (e.mRenderPassDesc point).storeAction
  if storage = target.rendered then
    if action.stores then e.contents point else fun _ => none
  else if action.resolves then e.contents point else old

def store (memory : Storage → Contents) (storage : Storage) : Contents :=
  match e.pointOf storage with
  | none => memory storage
  | some point =>
    match (e.mRenderPassDesc point).target with
    | none => memory storage
    | some target => e.storeAt point target storage (memory storage)

end RenderCommandEncoder

/-! ## Framebuffers -/

structure FramebufferMtl where
  mRenderPassDesc : RenderPassDesc
  mRenderPassCleanStart : Bool
  mRenderPassAttachmentsSameColorType : Bool

structure WindowSurface where
  preserveBuffer : Bool
  samples : Nat

/-- `initLoadStoreActionOnRenderPassFirstStart`. -/
def RenderPassAttachmentDesc.initLoadStoreAction (attachment : RenderPassAttachmentDesc)
    (hasBackbuffer : Bool) : RenderPassAttachmentDesc :=
  { attachment with
    loadAction :=
      if attachment.storeAction = .DontCare ∨ attachment.storeAction = .MultisampleResolve then
        .DontCare
      else .Load
    storeAction :=
      if attachment.target.any (·.hasImplicitMSTexture) then
        if hasBackbuffer then .StoreAndMultisampleResolve else .MultisampleResolve
      else .Store }

/-- What is to be cleared, of all buffers that are not given a value nothing; an area is given if
the clear is cut by the scissor or by a mask. -/
structure ClearRectParams where
  clearColor : Option Value
  enabledBuffers : Fin kMaxRenderTargets → Bool
  clearDepth : Option Value
  clearStencil : Option Value
  clearArea : Option (Texel → Bool)

namespace ClearRectParams

variable (params : ClearRectParams)

def isNoOp : Bool :=
  params.clearColor.isNone && params.clearDepth.isNone && params.clearStencil.isNone

def values : AttachmentPoint → Option Value
  | .color index => if params.enabledBuffers index then params.clearColor else none
  | .depth => params.clearDepth
  | .stencil => params.clearStencil

def writes : Writes := fun point texel =>
  if params.clearArea.all (· texel) then params.values point else none

end ClearRectParams

structure World where
  memory : Storage → Contents
  mRenderEncoder : Option RenderCommandEncoder
  framebuffers : FramebufferID → FramebufferMtl
  surface : WindowSurface
  /-- The draw framebuffer of the front end, and whether the back end has yet to be told. -/
  drawFramebuffer : FramebufferID
  bindingDirty : Bool
  mDrawFramebuffer : FramebufferID
  /-- `DIRTY_BIT_DRAW_FRAMEBUFFER`. -/
  drawFramebufferDirty : Bool
  /-- What has been written by draws and clears since the last invalidation. -/
  written : ImageID → Contents

namespace World

def onFramebuffer (f : FramebufferID) (change : FramebufferMtl → FramebufferMtl) (w : World) :
    World :=
  { w with framebuffers := Function.update w.framebuffers f (change (w.framebuffers f)) }

def onEncoder (change : RenderCommandEncoder → RenderCommandEncoder) (w : World) : World :=
  { w with mRenderEncoder := w.mRenderEncoder.map change }

def desc (w : World) (f : FramebufferID) : RenderPassDesc := (w.framebuffers f).mRenderPassDesc

def discardsOnFrameEnd (w : World) (f : FramebufferID) : Bool :=
  f = defaultFramebuffer && !w.surface.preserveBuffer

/-! ## Passes -/

def endEncoding (forceSaveRenderPassContent : Bool) (w : World) : World :=
  match w.mRenderEncoder with
  | none => w
  | some encoder =>
    let encoder :=
      if forceSaveRenderPassContent then encoder.setStoreAction .Store fun _ => true else encoder
    { w with
      memory := encoder.store w.memory
      mRenderEncoder := none }

def hasStartedRenderPass (desc : RenderPassDesc) (w : World) : Bool :=
  w.mRenderEncoder.any fun encoder => encoder.mRenderPassDesc.equalIgnoreLoadStoreOptions desc

def getRenderCommandEncoder (desc : RenderPassDesc) (w : World) : World :=
  if w.hasStartedRenderPass desc then w
  else
    let w := w.endEncoding false
    { w with
      mRenderEncoder := some (RenderCommandEncoder.restart w.memory desc)
      drawFramebufferDirty := true }

def loadAfterCleanStart (f : FramebufferMtl) : FramebufferMtl :=
  if f.mRenderPassCleanStart then
    { f with
      mRenderPassCleanStart := false
      mRenderPassDesc := fun point => { f.mRenderPassDesc point with loadAction := .Load } }
  else f

def ensureRenderPassStarted (f : FramebufferID) (desc : RenderPassDesc) (w : World) : World :=
  (w.getRenderCommandEncoder desc).onFramebuffer f loadAfterCleanStart

def noteWrites (desc : RenderPassDesc) (writes : Writes) (w : World) : World :=
  { w with
    written := fun id =>
      match AttachmentPoint.all.find? fun point =>
        (desc point).target.any (·.targetTexture = id) with
      | some point => overlay (writes point) (w.written id)
      | none => w.written id }

def encode (desc : RenderPassDesc) (writes : Writes) (w : World) : World :=
  (w.onEncoder (·.encode writes)).noteWrites desc writes

/-! ## Bindings and attachments -/

def onStartedDrawingToFrameBuffer (f : FramebufferID) (w : World) : World :=
  w.onFramebuffer f fun framebuffer =>
    { framebuffer with
      mRenderPassCleanStart := true
      mRenderPassDesc := fun point =>
        (framebuffer.mRenderPassDesc point).initLoadStoreAction (f = defaultFramebuffer) }

def bindDrawFramebuffer (f : FramebufferID) (w : World) : World :=
  { w with
    drawFramebuffer := f
    bindingDirty := true }

/-- `onDrawFrameBufferChangedState` when the render pass has changed. -/
def onRenderPassChanged (w : World) : World :=
  { w.endEncoding false with drawFramebufferDirty := true }

def updateDrawFrameBufferBinding (w : World) : World :=
  let w :=
    { w with
      mDrawFramebuffer := w.drawFramebuffer
      bindingDirty := false }
  (w.onStartedDrawingToFrameBuffer w.drawFramebuffer).onRenderPassChanged

def syncDrawFramebuffer (w : World) : World :=
  if w.bindingDirty then w.updateDrawFrameBufferBinding else w

/-- `update*RenderTarget` and `prepareRenderPass` of one attachment. -/
def updateRenderTarget (point : AttachmentPoint) (old : RenderPassAttachmentDesc) (changed : Bool)
    (target : Option TextureTarget) : RenderPassAttachmentDesc :=
  match point, target with
  | .color _, none => .reset
  | _, _ => { (if changed then .reset else old) with target := target }

def syncState (f : FramebufferID) (changed : AttachmentPoint → Bool)
    (targets : AttachmentPoint → Option TextureTarget) (sameColorType : Bool) (w : World) :
    World :=
  let oldRenderPassDesc := w.desc f
  let w := w.onFramebuffer f fun framebuffer =>
    { framebuffer with
      mRenderPassDesc := fun point =>
        updateRenderTarget point (framebuffer.mRenderPassDesc point) (changed point)
          (targets point)
      mRenderPassAttachmentsSameColorType := sameColorType }
  if !oldRenderPassDesc.equalIgnoreLoadStoreOptions (w.desc f) && decide (w.drawFramebuffer = f) then
    w.onRenderPassChanged
  else w

/-! ## Draws and clears -/

/-- `handleDirtyRenderPass`, when there is no pass or when it has to be looked at again. -/
def setupDraw (w : World) : World :=
  if w.drawFramebufferDirty || w.mRenderEncoder.isNone then
    { w.ensureRenderPassStarted w.mDrawFramebuffer (w.desc w.mDrawFramebuffer) with
      drawFramebufferDirty := false }
  else w

def draw (writes : Writes) (w : World) : World :=
  let w := w.syncDrawFramebuffer
  w.setupDraw.encode (w.desc w.drawFramebuffer) writes

def separatePasses (desc : RenderPassDesc) (params : ClearRectParams) :
    List (RenderPassDesc × Writes) :=
  let dsOnlyDesc : RenderPassDesc := fun point =>
    match point with
    | .color _ => .reset
    | point => desc point
  let depthStencil : List (RenderPassDesc × Writes) :=
    if params.clearDepth.isSome || params.clearStencil.isSome then
      [(dsOnlyDesc, params.writes)]
    else []
  let colors := (List.finRange kMaxRenderTargets).filter fun index =>
    params.enabledBuffers index && (desc (.color index)).target.isSome
  depthStencil ++ colors.map fun index =>
    (Function.update (fun _ => .reset) (.color 0)
      { RenderPassAttachmentDesc.reset with target := (desc (.color index)).target },
    Function.update (fun _ _ => none) (.color 0) (params.writes (.color index)))

def renderPasses (passes : List (RenderPassDesc × Writes)) (w : World) : World :=
  passes.foldl (fun w pass => (w.getRenderCommandEncoder pass.1).encode pass.1 pass.2) w

def clearWithDraw (f : FramebufferID) (params : ClearRectParams) (w : World) : World :=
  if (w.framebuffers f).mRenderPassAttachmentsSameColorType then
    (w.ensureRenderPassStarted f (w.desc f)).encode (w.desc f) params.writes
  else w.renderPasses (separatePasses (w.desc f) params)

def clearWithLoadOpRenderPassStarted (f : FramebufferID) (params : ClearRectParams) (w : World) :
    World :=
  (w.onEncoder (·.setLoadAction params.values)).noteWrites (w.desc f) params.writes

def clearDesc (desc : RenderPassDesc) (params : ClearRectParams) : RenderPassDesc := fun point =>
  match params.values point with
  | some value => { desc point with loadAction := .Clear value }
  | none => desc point

def clearWithLoadOpRenderPassNotStarted (f : FramebufferID) (params : ClearRectParams)
    (w : World) : World :=
  (w.ensureRenderPassStarted f (clearDesc (w.desc f) params)).noteWrites (w.desc f) params.writes

def clearWithLoadOp (f : FramebufferID) (params : ClearRectParams) (w : World) : World :=
  if w.hasStartedRenderPass (w.desc f) then
    let started := w.ensureRenderPassStarted f (w.desc f)
    if started.mRenderEncoder.all (·.canChangeLoadAction) then
      started.clearWithLoadOpRenderPassStarted f params
    else started.clearWithDraw f params
  else w.clearWithLoadOpRenderPassNotStarted f params

/-- `clearImpl`, of a clear that is not cut away by the scissor. -/
def clear (params : ClearRectParams) (w : World) : World :=
  let w := w.syncDrawFramebuffer
  if params.isNoOp then w
  else if params.clearArea.isNone then w.clearWithLoadOp w.drawFramebuffer params
  else w.clearWithDraw w.drawFramebuffer params

/-! ## Invalidation -/

def invalidateImpl (f : FramebufferID) (points : AttachmentPoint → Bool) (w : World) : World :=
  let invalidated := fun point => points point && (w.desc f point).target.isSome
  let renderPassStarted := w.hasStartedRenderPass (w.desc f)
  let w := w.onFramebuffer f fun framebuffer =>
    { framebuffer with
      mRenderPassDesc := fun point =>
        if invalidated point then
          { framebuffer.mRenderPassDesc point with storeAction := .DontCare }
        else framebuffer.mRenderPassDesc point }
  if renderPassStarted then w.onEncoder (·.setStoreAction .DontCare invalidated) else w

def forget (desc : RenderPassDesc) (points : AttachmentPoint → Bool) (w : World) : World :=
  { w with
    written := fun id =>
      if AttachmentPoint.all.any fun point =>
        points point && (desc point).target.any (·.targetTexture = id) then fun _ => none
      else w.written id }

def invalidate (f : FramebufferID) (points : AttachmentPoint → Bool) (w : World) : World :=
  (w.invalidateImpl f points).forget (w.desc f) points

def invalidateSub (f : FramebufferID) (points : AttachmentPoint → Bool) (encloses : Bool)
    (w : World) : World :=
  if encloses then w.invalidate f points else w

/-! ## The end of a frame -/

def onFrameEnd (w : World) : World :=
  let f := w.drawFramebuffer
  if w.discardsOnFrameEnd f && w.hasStartedRenderPass (w.desc f) then
    let w := w.invalidateImpl f (· ∈ [.depth, .stencil])
    let w :=
      if 1 < w.surface.samples then
        w.onEncoder (·.setStoreAction .MultisampleResolve (· = .color 0))
      else w
    (w.endEncoding false).onStartedDrawingToFrameBuffer f
  else w

def forgetSurface (w : World) : World :=
  if w.surface.preserveBuffer then w else w.forget (w.desc defaultFramebuffer) fun _ => true

def nextDrawable (w : World) : World :=
  if w.surface.preserveBuffer then w
  else
    { w with
      memory := fun storage =>
        if (w.desc defaultFramebuffer (.color 0)).target.any fun target =>
            storage = .texture target.targetTexture then
          fun _ => none
        else w.memory storage }

def present (w : World) : World :=
  (w.forgetSurface.onFrameEnd.endEncoding false).nextDrawable

/-! ## Steps -/

def otherDesc (targets : AttachmentPoint → Option TextureTarget) : RenderPassDesc := fun point =>
  { RenderPassAttachmentDesc.reset with target := targets point }

inductive Action
  | bindDrawFramebuffer (f : FramebufferID)
  | syncDrawFramebuffer
  | syncState (f : FramebufferID) (changed : AttachmentPoint → Bool)
      (targets : AttachmentPoint → Option TextureTarget) (sameColorType : Bool)
  | draw (writes : Writes)
  | clear (params : ClearRectParams)
  | invalidate (f : FramebufferID) (points : AttachmentPoint → Bool)
  | invalidateSub (f : FramebufferID) (points : AttachmentPoint → Bool) (encloses : Bool)
  | flushCommandBuffer
  | getBlitCommandEncoder
  | getComputeCommandEncoder
  | otherRenderPass (targets : AttachmentPoint → Option TextureTarget) (writes : Writes)
  | present

def step (w : World) : Action → Option World
  | .bindDrawFramebuffer f => some (w.bindDrawFramebuffer f)
  | .syncDrawFramebuffer => some w.syncDrawFramebuffer
  | .syncState f changed targets sameColorType =>
      some (w.syncState f changed targets sameColorType)
  | .draw writes => some (w.draw writes)
  | .clear params => some (w.clear params)
  | .invalidate f points => some (w.invalidate f points)
  | .invalidateSub f points encloses => some (w.invalidateSub f points encloses)
  | .flushCommandBuffer => some (w.endEncoding true)
  | .getBlitCommandEncoder => some (w.endEncoding true)
  | .getComputeCommandEncoder => some (w.endEncoding true)
  | .otherRenderPass targets writes => some (w.renderPasses [(otherDesc targets, writes)])
  | .present => some w.present

def initial (surface : WindowSurface) : World where
  memory _ _ := none
  mRenderEncoder := none
  framebuffers _ := ⟨fun _ => .reset, false, false⟩
  surface := surface
  drawFramebuffer := defaultFramebuffer
  bindingDirty := true
  mDrawFramebuffer := defaultFramebuffer
  drawFramebufferDirty := true
  written _ _ := none

end World

end MetalAngle.Metal.RenderPasses
