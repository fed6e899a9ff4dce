import MetalAngle.Gl.Texture

/-!
# Framebuffers

The attachments of framebuffers in a context with robust resource initialization: an image that has
not been initialized is initialized before it is drawn to, cleared in part or read, and a clear of a
whole attachment marks its image as initialized.
-/

namespace MetalAngle.Gl.Framebuffers

open Textures (InitState)

abbrev ImageID := Nat
abbrev FramebufferID := Nat

abbrev IMPLEMENTATION_MAX_DRAW_BUFFERS : Nat := 8

inductive Component
  | color (channel : Fin 4)
  | depth
  | stencil (bit : Fin 8)

def Component.all : List Component :=
  (List.finRange 4).map .color ++ [.depth] ++ (List.finRange 8).map .stencil

structure Texel where
  layer : Nat
  x : Nat
  y : Nat

/-- What has one state of initialization: a renderbuffer, a level of a texture or a surface.
`written` tells what has been written since the image was defined. -/
structure Image where
  width : Nat
  height : Nat
  layers : Nat
  hasComponent : Component → Bool
  initState : InitState
  written : Component → Texel → Bool

namespace Image

variable (i : Image)

def contains (texel : Texel) : Bool :=
  texel.layer < i.layers ∧ texel.x < i.width ∧ texel.y < i.height

def componentWritten (component : Component) : Bool :=
  ∀ layer < i.layers, ∀ x < i.width, ∀ y < i.height, i.written component ⟨layer, x, y⟩

def isWritten : Bool :=
  ∀ component ∈ Component.all, i.hasComponent component → i.componentWritten component

def initializeContents : Image := { i with written := fun _ _ => true }

end Image

/-- The points of attachment, which are the bits of `mResourceNeedsInit`. -/
inductive AttachmentPoint
  | color (index : Fin IMPLEMENTATION_MAX_DRAW_BUFFERS)
  | depth
  | stencil
deriving DecidableEq

def AttachmentPoint.all : List AttachmentPoint :=
  (List.finRange IMPLEMENTATION_MAX_DRAW_BUFFERS).map .color ++ [.depth, .stencil]

def AttachmentPoint.has : AttachmentPoint → Component → Bool
  | color _, .color _ => true
  | depth, .depth => true
  | stencil, .stencil _ => true
  | _, _ => false

structure FramebufferAttachment where
  image : ImageID
  layer : Option Nat

def FramebufferAttachment.covers (attachment : FramebufferAttachment) (layer : Nat) : Bool :=
  attachment.layer.all (· = layer)

structure Framebuffer where
  attachments : AttachmentPoint → Option FramebufferAttachment
  drawBuffers : Fin IMPLEMENTATION_MAX_DRAW_BUFFERS → Bool
  readIndex : Option (Fin IMPLEMENTATION_MAX_DRAW_BUFFERS)
  mResourceNeedsInit : AttachmentPoint → Bool
  /-- The image of a surface that a default framebuffer reads. -/
  mDefaultFramebufferReadAttachment : Option ImageID
  mDefaultFramebufferReadAttachmentInitialized : Bool

namespace Framebuffer

def new (readAttachment : Option ImageID) : Framebuffer :=
  { attachments := fun _ => none
    drawBuffers := (· = 0)
    readIndex := some 0
    mResourceNeedsInit := fun _ => false
    mDefaultFramebufferReadAttachment := readAttachment
    mDefaultFramebufferReadAttachmentInitialized := false }

variable (f : Framebuffer)

def attaches (id : ImageID) : Bool :=
  AttachmentPoint.all.any fun point => (f.attachments point).any (·.image = id)

def hasResourceThatNeedsInit : Bool := AttachmentPoint.all.any f.mResourceNeedsInit

def mEnabledDrawBuffers (index : Fin IMPLEMENTATION_MAX_DRAW_BUFFERS) : Bool :=
  f.drawBuffers index && (f.attachments (.color index)).isSome

end Framebuffer

structure State where
  rasterizerDiscard : Bool
  scissorTest : Bool
  inScissor : Nat → Nat → Bool
  colorMask : Fin 4 → Bool
  depthMask : Bool
  stencilMask : Nat
  stencilWritemask : Nat
  stencilBackMask : Nat
  stencilBackWritemask : Nat

def isColorMaskedOut (s : State) : Bool := ∀ channel, s.colorMask channel = false

def isDepthMaskedOut (s : State) : Bool := !s.depthMask

def isStencilMaskedOut (s : State) : Bool := s.stencilMask &&& s.stencilWritemask = 0

inductive ClearBuffer
  | color (drawbuffer : Fin IMPLEMENTATION_MAX_DRAW_BUFFERS)
  | depth
  | stencil
  | depthStencil

def isClearBufferMaskedOut (s : State) : ClearBuffer → Bool
  | .color _ => isColorMaskedOut s
  | .depth => isDepthMaskedOut s
  | .stencil => isStencilMaskedOut s
  | .depthStencil => isDepthMaskedOut s && isStencilMaskedOut s

def partialClearNeedsInit (s : State) (color _depth stencil : Bool) : Bool :=
  if s.scissorTest then true
  else if color && !decide (∀ channel, s.colorMask channel) then true
  else stencil && (decide (s.stencilMask ≠ s.stencilWritemask) ||
    decide (s.stencilBackMask ≠ s.stencilBackWritemask))

def State.writes (s : State) : Component → Bool
  | .color channel => s.colorMask channel
  | .depth => s.depthMask
  | .stencil bit => s.stencilWritemask.testBit bit

structure Backend where
  initializeContents : ImageID → Bool
  clear : Bool

structure World where
  images : ImageID → Image
  framebuffers : FramebufferID → Framebuffer
  state : State
  mDrawFramebuffer : FramebufferID
  mReadFramebuffer : FramebufferID
  drawAttachmentsDirty : Bool
  readAttachmentsDirty : Bool
  /-- Something that had not been written has been read or drawn to. -/
  sawUninitialized : Bool

namespace World

abbrev Op := Fallible World

open Fallible

def onImage (id : ImageID) (change : Image → Image) : Op :=
  update fun w => { w with images := Function.update w.images id (change (w.images id)) }

def onFramebuffer (id : FramebufferID) (change : Framebuffer → Framebuffer) : Op :=
  update fun w =>
    { w with framebuffers := Function.update w.framebuffers id (change (w.framebuffers id)) }

/-! ## Initialization -/

def setInitState (id : ImageID) (initState : InitState) : Op :=
  onImage id fun i => { i with initState := initState }

def initializeContents (b : Backend) (id : ImageID) : Op :=
  attempt (b.initializeContents id) >>
  onImage id (·.initializeContents) >>
  setInitState id .Initialized

/-- `InitAttachment`. -/
def initImage (b : Backend) (id : ImageID) : Op :=
  ofState fun w => when ((w.images id).initState = .MayNeedInit) (initializeContents b id)

def attachmentAt (w : World) (f : FramebufferID) (point : AttachmentPoint) :
    Option FramebufferAttachment :=
  (w.framebuffers f).attachments point

def initAttachment (b : Backend) (f : FramebufferID) (point : AttachmentPoint) : Op :=
  ofState fun w => (w.attachmentAt f point).elim done fun attachment => initImage b attachment.image

def resetNeedsInit (f : FramebufferID) (point : AttachmentPoint) : Op :=
  onFramebuffer f fun f =>
    { f with mResourceNeedsInit := Function.update f.mResourceNeedsInit point false }

def ensureDrawAttachmentsInitialized (b : Backend) (f : FramebufferID) : Op :=
  ofState fun w =>
    forEach (AttachmentPoint.all.filter (w.framebuffers f).mResourceNeedsInit)
      (initAttachment b f) >>
    onFramebuffer f fun f => { f with mResourceNeedsInit := fun _ => false }

def ensureAttachmentInitialized (b : Backend) (f : FramebufferID) (point : AttachmentPoint) : Op :=
  ofState fun w => when ((w.framebuffers f).mResourceNeedsInit point)
    (initAttachment b f point >> resetNeedsInit f point)

def ClearBuffer.points : ClearBuffer → List AttachmentPoint
  | .color drawbuffer => [.color drawbuffer]
  | .depth => [.depth]
  | .stencil => [.stencil]
  | .depthStencil => [.depth, .stencil]

def ensureBufferInitialized (b : Backend) (f : FramebufferID) (buffer : ClearBuffer) : Op :=
  ofState fun w => when (w.framebuffers f).hasResourceThatNeedsInit
    (forEach (ClearBuffer.points buffer) (ensureAttachmentInitialized b f))

def initDefaultReadAttachment (b : Backend) (f : FramebufferID) (id : ImageID) : Op :=
  ofState fun w => when (!(w.framebuffers f).mDefaultFramebufferReadAttachmentInitialized)
    (initImage b id >>
      onFramebuffer f fun f => { f with mDefaultFramebufferReadAttachmentInitialized := true })

def ensureReadBufferInitialized (b : Backend) (f : FramebufferID) : Op :=
  ofState fun w =>
    match (w.framebuffers f).readIndex, (w.framebuffers f).mDefaultFramebufferReadAttachment with
    | none, _ => done
    | some _, some id => initDefaultReadAttachment b f id
    | some readIndex, none => ensureAttachmentInitialized b f (.color readIndex)

def hasDepth (w : World) (f : FramebufferID) : Bool :=
  (w.attachmentAt f .depth).any fun attachment => (w.images attachment.image).hasComponent .depth

def hasStencil (w : World) (f : FramebufferID) : Bool :=
  (w.attachmentAt f .stencil).any fun attachment =>
    (List.finRange 8).any fun bit => (w.images attachment.image).hasComponent (.stencil bit)

def ensureReadAttachmentsInitialized (b : Backend) (f : FramebufferID) : Op :=
  ofState fun w => when (w.framebuffers f).hasResourceThatNeedsInit
    (ensureReadBufferInitialized b f >>
      when (w.hasDepth f) (ensureAttachmentInitialized b f .depth) >>
      when (w.hasStencil f) (ensureAttachmentInitialized b f .stencil))

/-! ## Marks -/

def markAttachmentInitialized (f : FramebufferID) (point : AttachmentPoint) : Op :=
  ofState fun w => (w.attachmentAt f point).elim done fun attachment =>
    setInitState attachment.image .Initialized >> resetNeedsInit f point

def drawPoints (w : World) (f : FramebufferID) (color depth stencil : Bool) :
    List AttachmentPoint :=
  AttachmentPoint.all.filter fun point =>
    match point with
    | .color index => color && (w.framebuffers f).mEnabledDrawBuffers index
    | .depth => depth
    | .stencil => stencil

def markDrawAttachmentsInitialized (f : FramebufferID) (color depth stencil : Bool) : Op :=
  ofState fun w => forEach (w.drawPoints f color depth stencil) (markAttachmentInitialized f)

def markBufferInitialized (f : FramebufferID) (buffer : ClearBuffer) : Op :=
  forEach (ClearBuffer.points buffer) (markAttachmentInitialized f)

/-! ## Clears -/

def ensureClearAttachmentsInitialized (b : Backend) (f : FramebufferID)
    (color depth stencil : Bool) : Op :=
  ofState fun w =>
    let color := color && !isColorMaskedOut w.state
    let depth := depth && !isDepthMaskedOut w.state
    let stencil := stencil && !isStencilMaskedOut w.state
    when (!w.state.rasterizerDiscard && (color || depth || stencil))
      (when (partialClearNeedsInit w.state color depth stencil)
          (ensureDrawAttachmentsInitialized b f) >>
        markDrawAttachmentsInitialized f color depth stencil)

def partialBufferClearNeedsInit (w : World) (f : FramebufferID) (buffer : ClearBuffer) : Bool :=
  (w.framebuffers f).hasResourceThatNeedsInit &&
    match buffer with
    | .color _ => partialClearNeedsInit w.state true false false
    | .depth => partialClearNeedsInit w.state false true false
    | .stencil => partialClearNeedsInit w.state false false true
    | .depthStencil => partialClearNeedsInit w.state false true true

def ensureClearBufferAttachmentsInitialized (b : Backend) (f : FramebufferID)
    (buffer : ClearBuffer) : Op :=
  ofState fun w => when (!w.state.rasterizerDiscard && !isClearBufferMaskedOut w.state buffer)
    (when (w.partialBufferClearNeedsInit f buffer) (ensureBufferInitialized b f buffer) >>
      markBufferInitialized f buffer)

def getExtents (w : World) (f : FramebufferID) : Nat × Nat :=
  match AttachmentPoint.all.findSome? (w.attachmentAt f) with
  | some attachment => ((w.images attachment.image).width, (w.images attachment.image).height)
  | none => (0, 0)

def clearArea (w : World) (f : FramebufferID) (x y : Nat) : Bool :=
  x < (w.getExtents f).1 ∧ y < (w.getExtents f).2 ∧ (w.state.scissorTest → w.state.inScissor x y)

def clears (w : World) (f : FramebufferID) (points : List AttachmentPoint) (id : ImageID)
    (component : Component) (texel : Texel) : Bool :=
  w.state.writes component && w.clearArea f texel.x texel.y && points.any fun point =>
    point.has component && (w.attachmentAt f point).any fun attachment =>
      attachment.image = id ∧ attachment.covers texel.layer

def clearPoints (b : Backend) (f : FramebufferID) (points : World → List AttachmentPoint) : Op :=
  ofState fun w => when (!w.state.rasterizerDiscard) (attempt b.clear >> update fun w =>
    { w with
      images := fun id =>
        { w.images id with
          written := fun component texel =>
            (w.images id).written component texel ||
              w.clears f (points w) id component texel } })

def clear (b : Backend) (color depth stencil : Bool) : Op :=
  ofState fun w =>
    ensureClearAttachmentsInitialized b w.mDrawFramebuffer color depth stencil >>
    clearPoints b w.mDrawFramebuffer fun w =>
      w.drawPoints w.mDrawFramebuffer color depth stencil

def clearsNothing (w : World) (buffer : ClearBuffer) : Bool :=
  (ClearBuffer.points buffer).all fun point => (w.attachmentAt w.mDrawFramebuffer point).isNone

def bufferPoints (w : World) (buffer : ClearBuffer) : List AttachmentPoint :=
  if isClearBufferMaskedOut w.state buffer then [] else ClearBuffer.points buffer

def clearBuffer (b : Backend) (buffer : ClearBuffer) : Op :=
  ofState fun w => when (!w.clearsNothing buffer)
    (ensureClearBufferAttachmentsInitialized b w.mDrawFramebuffer buffer >>
      clearPoints b w.mDrawFramebuffer fun w => w.bufferPoints buffer)

/-! ## Draws and reads -/

def pointWritten (w : World) (f : FramebufferID) (point : AttachmentPoint) : Bool :=
  (w.attachmentAt f point).all fun attachment => (w.images attachment.image).isWritten

def observe (written : World → Bool) : Op :=
  update fun w => { w with sawUninitialized := w.sawUninitialized || !written w }

def syncDrawAttachments (b : Backend) : Op :=
  ofState fun w => when w.drawAttachmentsDirty
    (ensureDrawAttachmentsInitialized b w.mDrawFramebuffer >>
      update fun w => { w with drawAttachmentsDirty := false })

def draw (b : Backend) (writes : ImageID → Component → Texel → Bool) : Op :=
  syncDrawAttachments b >>
  observe (fun w => AttachmentPoint.all.all (w.pointWritten w.mDrawFramebuffer)) >>
  update fun w =>
    { w with
      images := fun id =>
        { w.images id with
          written := fun component texel =>
            (w.images id).written component texel || writes id component texel } }

def syncReadAttachments (b : Backend) : Op :=
  ofState fun w => when w.readAttachmentsDirty
    (ensureReadAttachmentsInitialized b w.mReadFramebuffer >>
      update fun w => { w with readAttachmentsDirty := false })

def readBufferWritten (w : World) (f : FramebufferID) : Bool :=
  match (w.framebuffers f).readIndex, (w.framebuffers f).mDefaultFramebufferReadAttachment with
  | none, _ => true
  | some _, some id => (w.images id).isWritten
  | some readIndex, none => w.pointWritten f (.color readIndex)

def readWritten (w : World) (f : FramebufferID) (color depth stencil : Bool) : Bool :=
  (!color || w.readBufferWritten f) && (!depth || w.pointWritten f .depth) &&
    (!stencil || w.pointWritten f .stencil)

def read (b : Backend) (color depth stencil : Bool) : Op :=
  syncReadAttachments b >>
  observe fun w => w.readWritten w.mReadFramebuffer color depth stencil

/-! ## Changes -/

def onStateChange (f : FramebufferID) (w : World) : World :=
  { w with
    drawAttachmentsDirty := w.drawAttachmentsDirty || f = w.mDrawFramebuffer
    readAttachmentsDirty := w.readAttachmentsDirty || f = w.mReadFramebuffer }

def updateAttachment (f : FramebufferID) (attachment : Option FramebufferAttachment)
    (point : AttachmentPoint) : Op :=
  (ofState fun w => onFramebuffer f fun f =>
    { f with
      attachments := Function.update f.attachments point attachment
      mResourceNeedsInit :=
        Function.update f.mResourceNeedsInit point
          (attachment.any fun attachment =>
            (w.images attachment.image).initState = .MayNeedInit) }) >>
  update (onStateChange f)

def setAttachment (f : FramebufferID) (points : List AttachmentPoint)
    (attachment : Option FramebufferAttachment) : Op :=
  forEach points (updateAttachment f attachment)

/-- `Framebuffer::onSubjectStateChange` of every framebuffer that has the image. -/
def onSubjectStateChange (id : ImageID) (w : World) : World :=
  { w with
    framebuffers := fun f =>
      { w.framebuffers f with
        mResourceNeedsInit := fun point =>
          if (w.attachmentAt f point).any (·.image = id) then
            (w.images id).initState = .MayNeedInit
          else (w.framebuffers f).mResourceNeedsInit point }
    drawAttachmentsDirty :=
      w.drawAttachmentsDirty || (w.framebuffers w.mDrawFramebuffer).attaches id
    readAttachmentsDirty :=
      w.readAttachmentsDirty || (w.framebuffers w.mReadFramebuffer).attaches id }

/-- An image is defined anew, with its contents if it is initialized, and the change is signalled or
not. -/
def redefine (id : ImageID) (width height layers : Nat) (hasComponent : Component → Bool)
    (initialized signals : Bool) : Op :=
  onImage id (fun _ =>
    { width := width
      height := height
      layers := layers
      hasComponent := hasComponent
      initState := if initialized then .Initialized else .MayNeedInit
      written := fun _ _ => initialized }) >>
  when signals (update (onSubjectStateChange id))

def setDrawFramebufferBinding (f : FramebufferID) (w : World) : World :=
  if w.mDrawFramebuffer = f then w
  else
    { w with
      mDrawFramebuffer := f
      drawAttachmentsDirty :=
        w.drawAttachmentsDirty || (w.framebuffers f).hasResourceThatNeedsInit }

def setReadFramebufferBinding (f : FramebufferID) (w : World) : World :=
  { w with mReadFramebuffer := f }

/-! ## Steps -/

inductive Action
  | setState (state : State)
  | setDrawFramebufferBinding (f : FramebufferID)
  | setReadFramebufferBinding (f : FramebufferID)
  | setAttachment (f : FramebufferID) (points : List AttachmentPoint)
      (attachment : Option FramebufferAttachment)
  | setDrawBuffers (f : FramebufferID) (drawBuffers : Fin IMPLEMENTATION_MAX_DRAW_BUFFERS → Bool)
  | setReadBuffer (f : FramebufferID) (readIndex : Option (Fin IMPLEMENTATION_MAX_DRAW_BUFFERS))
  | redefine (id : ImageID) (width height layers : Nat) (hasComponent : Component → Bool)
      (initialized signals : Bool)
  | clear (color depth stencil : Bool)
  | clearBuffer (buffer : ClearBuffer)
  | draw (writes : ImageID → Component → Texel → Bool)
  | read (color depth stencil : Bool)

def operation (b : Backend) : Action → Op
  | .setState state => update fun w => { w with state := state }
  | .setDrawFramebufferBinding f => update (setDrawFramebufferBinding f)
  | .setReadFramebufferBinding f => update (setReadFramebufferBinding f)
  | .setAttachment f points attachment => setAttachment f points attachment
  | .setDrawBuffers f drawBuffers => onFramebuffer f fun f => { f with drawBuffers := drawBuffers }
  | .setReadBuffer f readIndex => onFramebuffer f fun f => { f with readIndex := readIndex }
  | .redefine id width height layers hasComponent initialized signals =>
      redefine id width height layers hasComponent initialized signals
  | .clear color depth stencil => clear b color depth stencil
  | .clearBuffer buffer => clearBuffer b buffer
  | .draw writes => draw b writes
  | .read color depth stencil => read b color depth stencil

def attachmentComplete (w : World) (point : AttachmentPoint) (attachment : FramebufferAttachment) :
    Bool :=
  let i := w.images attachment.image
  0 < i.width ∧ 0 < i.height ∧ 0 < i.layers ∧ attachment.layer.all (· < i.layers) ∧
    ∃ component ∈ Component.all, point.has component ∧ i.hasComponent component

def checkStatus (w : World) (f : FramebufferID) : Bool :=
  AttachmentPoint.all.all fun point => (w.attachmentAt f point).all (w.attachmentComplete point)

def validates (w : World) : Action → Bool
  | .clear _ _ _ => w.checkStatus w.mDrawFramebuffer
  | .clearBuffer _ => w.checkStatus w.mDrawFramebuffer
  | .draw _ => w.checkStatus w.mDrawFramebuffer
  | .read _ _ _ => w.checkStatus w.mReadFramebuffer
  | _ => true

def step (w : World) (call : Action × Backend) : Option World :=
  if w.validates call.1 then some ((operation call.2 call.1).run w).1 else none

def initial (state : State) (readAttachments : FramebufferID → Option ImageID) : World :=
  { images := fun _ => ⟨0, 0, 0, fun _ => false, .MayNeedInit, fun _ _ => false⟩
    framebuffers := fun f => Framebuffer.new (readAttachments f)
    state := state
    mDrawFramebuffer := 0
    mReadFramebuffer := 0
    drawAttachmentsDirty := true
    readAttachmentsDirty := true
    sawUninitialized := false }

end World

end MetalAngle.Gl.Framebuffers
