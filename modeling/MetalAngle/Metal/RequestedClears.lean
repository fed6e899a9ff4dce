import Mathlib.Algebra.Order.Ring.Rat
import MetalAngle.Lib.LabelledRun
import MetalAngle.Metal.RenderPass

/-!
# Clears that are requested with an encoder

`ContextMtl::getRenderCommandEncoder` is asked for an encoder that draws to a render target, with a
clear of the target or without.  It hands out the current encoder when the pass of it has the same
attachments, whatever their load actions and clear values are.

The contents of colour attachments are tracked; the blit and compute encoders, which only end a
pass, and the dirty bits of the context are not.
-/

namespace MetalAngle.Metal.RequestedClears

open Option
open RenderPasses (kMaxRenderTargets Texel MTLStoreAction correctStoreAction)

abbrev TextureID := Nat

def firstAttachment : Fin kMaxRenderTargets := ⟨0, Nat.succ_pos 3⟩

structure MTLClearColor where
  red : ℚ
  green : ℚ
  blue : ℚ
  alpha : ℚ
deriving DecidableEq

abbrev MTLColorWriteMask := BitVec 4

def MTLColorWriteMask.Alpha : MTLColorWriteMask := 1

def MTLColorWriteMask.All : MTLColorWriteMask := 15

def kEmulatedAlphaValue : ℚ := 1

def emulatedAlphaClearColor (color : MTLClearColor) (colorMask : MTLColorWriteMask) :
    MTLClearColor :=
  if colorMask &&& MTLColorWriteMask.Alpha = 0 then { color with alpha := kEmulatedAlphaValue }
  else color

/-! ## Descriptors -/

/-- `RenderPassAttachmentTextureTargetDesc`, of textures that are alive. -/
structure TextureTargetDesc where
  targetTexture : Option TextureID
  targetImplicitMSTexture : Option TextureID
  targetLevel : Nat
  targetSliceOrDepth : Nat
deriving DecidableEq

inductive MTLLoadAction
  | DontCare
  | Load
  | Clear
deriving DecidableEq

inductive MTLStoreActionOptions
  | None
  | CustomSamplePositions
deriving DecidableEq

structure RenderPassAttachmentDesc extends TextureTargetDesc where
  loadAction : MTLLoadAction
  storeAction : MTLStoreAction
  storeActionOptions : MTLStoreActionOptions
deriving DecidableEq

structure RenderPassColorAttachmentDesc extends RenderPassAttachmentDesc where
  clearColor : MTLClearColor
deriving DecidableEq

structure RenderPassDepthAttachmentDesc extends RenderPassAttachmentDesc where
  clearDepth : ℚ
deriving DecidableEq

structure RenderPassStencilAttachmentDesc extends RenderPassAttachmentDesc where
  clearStencil : BitVec 32
deriving DecidableEq

def RenderPassAttachmentDesc.reset : RenderPassAttachmentDesc where
  targetTexture := none
  targetImplicitMSTexture := none
  targetLevel := 0
  targetSliceOrDepth := 0
  loadAction := .Load
  storeAction := .Store
  storeActionOptions := .None

def RenderPassAttachmentDesc.equalIgnoreLoadStoreOptions (desc other : RenderPassAttachmentDesc) :
    Bool :=
  desc.toTextureTargetDesc = other.toTextureTargetDesc

structure RenderPassDesc where
  colorAttachments : Fin kMaxRenderTargets → RenderPassColorAttachmentDesc
  depthAttachment : RenderPassDepthAttachmentDesc
  stencilAttachment : RenderPassStencilAttachmentDesc
  numColorAttachments : Nat
  sampleCount : Nat

namespace RenderPassDesc

def init : RenderPassDesc where
  colorAttachments _ := { RenderPassAttachmentDesc.reset with clearColor := ⟨0, 0, 0, 0⟩ }
  depthAttachment := { RenderPassAttachmentDesc.reset with clearDepth := 0 }
  stencilAttachment := { RenderPassAttachmentDesc.reset with clearStencil := 0 }
  numColorAttachments := 0
  sampleCount := 1

def equalIgnoreLoadStoreOptions (desc other : RenderPassDesc) : Bool :=
  desc.numColorAttachments = other.numColorAttachments &&
    (∀ i : Fin kMaxRenderTargets, i.val < desc.numColorAttachments →
      (desc.colorAttachments i).equalIgnoreLoadStoreOptions
        (other.colorAttachments i).toRenderPassAttachmentDesc) &&
    desc.depthAttachment.equalIgnoreLoadStoreOptions
      other.depthAttachment.toRenderPassAttachmentDesc &&
    desc.stencilAttachment.equalIgnoreLoadStoreOptions
      other.stencilAttachment.toRenderPassAttachmentDesc

/-- `operator==`. -/
def equal (desc other : RenderPassDesc) : Bool :=
  desc.numColorAttachments = other.numColorAttachments &&
    (∀ i : Fin kMaxRenderTargets, i.val < desc.numColorAttachments →
      desc.colorAttachments i = other.colorAttachments i) &&
    desc.depthAttachment = other.depthAttachment &&
    desc.stencilAttachment = other.stencilAttachment

end RenderPassDesc

/-! ## The native descriptor -/

structure Image where
  texture : TextureID
  level : Nat
  sliceOrDepth : Nat
deriving DecidableEq

abbrev Contents := Texel → Option MTLClearColor

abbrev Memory := Image → Contents

abbrev Writes := Fin kMaxRenderTargets → Contents

def overlay (writes old : Contents) : Contents := fun texel => (writes texel).or (old texel)

structure MTLRenderPassColorAttachmentDescriptor where
  texture : Option Image
  resolveTexture : Option Image
  loadAction : MTLLoadAction
  clearColor : MTLClearColor

namespace MTLRenderPassColorAttachmentDescriptor

def inactive : MTLRenderPassColorAttachmentDescriptor := ⟨none, none, .DontCare, ⟨0, 0, 0, 0⟩⟩

def load (attachment : MTLRenderPassColorAttachmentDescriptor) (memory : Memory) : Contents :=
  match attachment.texture, attachment.loadAction with
  | none, _ => fun _ => none
  | some _, .DontCare => fun _ => none
  | some image, .Load => memory image
  | some _, .Clear => fun _ => some attachment.clearColor

end MTLRenderPassColorAttachmentDescriptor

/-- `ToObjC`: the multisample texture is drawn to and resolved into the texture. -/
def RenderPassColorAttachmentDesc.toObjC (desc : RenderPassColorAttachmentDesc) :
    MTLRenderPassColorAttachmentDescriptor :=
  let target := desc.targetTexture.map fun texture =>
    (⟨texture, desc.targetLevel, desc.targetSliceOrDepth⟩ : Image)
  let texture :=
    match desc.targetImplicitMSTexture with
    | some texture => some ⟨texture, 0, 0⟩
    | none => target
  { texture
    resolveTexture := if desc.targetImplicitMSTexture.isSome then target else none
    loadAction := if texture.isSome then desc.loadAction else .DontCare
    clearColor := desc.clearColor }

def RenderPassDesc.convertToMetalDesc (desc : RenderPassDesc) :
    Fin kMaxRenderTargets → MTLRenderPassColorAttachmentDescriptor := fun i =>
  if i.val < desc.numColorAttachments then (desc.colorAttachments i).toObjC else .inactive

/-! ## The encoder -/

structure RenderCommandEncoder where
  mRenderPassDesc : RenderPassDesc
  mCachedRenderPassDescObjC : Fin kMaxRenderTargets → MTLRenderPassColorAttachmentDescriptor
  /-- What the attachments of the native encoder hold, once there is one. -/
  get : Option (Fin kMaxRenderTargets → Contents)

namespace RenderCommandEncoder

def restart (desc : RenderPassDesc) : RenderCommandEncoder where
  mRenderPassDesc := desc
  mCachedRenderPassDescObjC := desc.convertToMetalDesc
  get := none

variable (e : RenderCommandEncoder)

def canChangeLoadAction : Bool := e.get.isNone

def attachments (memory : Memory) : Fin kMaxRenderTargets → Contents :=
  e.get.getD fun i => (e.mCachedRenderPassDescObjC i).load memory

def ensureMetalEncoderStarted (memory : Memory) : RenderCommandEncoder :=
  { e with get := some (e.attachments memory) }

def draw (memory : Memory) (writes : Writes) : RenderCommandEncoder :=
  let started := e.ensureMetalEncoderStarted memory
  { started with get := some fun i => overlay (writes i) (started.attachments memory i) }

def setColorStoreAction (action : MTLStoreAction) (colorAttachmentIndex : Fin kMaxRenderTargets) :
    RenderCommandEncoder :=
  if e.mRenderPassDesc.numColorAttachments ≤ colorAttachmentIndex.val then e
  else
    { e with
      mRenderPassDesc :=
        { e.mRenderPassDesc with
          colorAttachments := Function.update e.mRenderPassDesc.colorAttachments
            colorAttachmentIndex
            { e.mRenderPassDesc.colorAttachments colorAttachmentIndex with
              storeAction := action } } }

def setColorStoreActions (action : MTLStoreAction) : RenderCommandEncoder :=
  (List.finRange kMaxRenderTargets).foldl (fun e i => e.setColorStoreAction action i) e

def setColorLoadAction (action : MTLLoadAction) (clearValue : MTLClearColor)
    (colorAttachmentIndex : Fin kMaxRenderTargets) : RenderCommandEncoder :=
  let attachment := e.mCachedRenderPassDescObjC colorAttachmentIndex
  if attachment.texture.isSome then
    { e with
      mCachedRenderPassDescObjC := Function.update e.mCachedRenderPassDescObjC
        colorAttachmentIndex { attachment with loadAction := action, clearColor := clearValue } }
  else e

def store (memory : Memory) : Memory := fun image =>
  let drawsTo := fun i =>
    let attachment := e.mCachedRenderPassDescObjC i
    attachment.texture = some image ∨ attachment.resolveTexture = some image
  match (List.finRange kMaxRenderTargets).find? drawsTo with
  | none => memory image
  | some i =>
    let attachment := e.mCachedRenderPassDescObjC i
    let action := correctStoreAction attachment.resolveTexture.isSome
      (e.mRenderPassDesc.colorAttachments i).storeAction
    if attachment.texture = some image then
      if action.stores then e.attachments memory i else fun _ => none
    else if action.resolves then e.attachments memory i else memory image

end RenderCommandEncoder

/-! ## The context -/

structure RenderTargetMtl where
  targetTexture : TextureID
  targetImplicitMSTexture : Option TextureID
  targetLevel : Nat
  targetSliceOrDepth : Nat
  renderSamples : Nat

/-- What `clearWithLoadOp` is given, with no colour where no colour buffer is cleared. -/
structure ClearRectParams where
  clearColor : MTLClearColor
  clearDepth : Option ℚ
  clearStencil : Option (BitVec 32)

structure World where
  memory : Memory
  mRenderEncoder : Option RenderCommandEncoder
  mColorWritableMask : TextureID → MTLColorWriteMask

namespace World

variable (w : World)

def onEncoder (change : RenderCommandEncoder → RenderCommandEncoder) : World :=
  { w with mRenderEncoder := w.mRenderEncoder.map change }

/-- `RenderCommandEncoder::endEncoding` of an encoder that is valid. -/
def endEncoder : World :=
  match w.mRenderEncoder with
  | none => w
  | some encoder =>
    { w with
      memory := encoder.store w.memory
      mRenderEncoder := none }

def endEncoding (forceSaveRenderPassContent : Bool) : World :=
  if forceSaveRenderPassContent then (w.onEncoder (·.setColorStoreActions .Store)).endEncoder
  else w.endEncoder

def hasStartedRenderPass (desc : RenderPassDesc) : Bool :=
  w.mRenderEncoder.any fun encoder => encoder.mRenderPassDesc.equalIgnoreLoadStoreOptions desc

def restart (desc : RenderPassDesc) : World :=
  if w.mRenderEncoder.any fun encoder => encoder.mRenderPassDesc.equal desc then w
  else { w.endEncoder with mRenderEncoder := some (.restart desc) }

def getRenderCommandEncoder (desc : RenderPassDesc) : World :=
  if w.hasStartedRenderPass desc then w else (w.endEncoding false).restart desc

def rpDesc (renderTarget : RenderTargetMtl) (clearColor : Option MTLClearColor) : RenderPassDesc :=
  let attachment : RenderPassColorAttachmentDesc :=
    { RenderPassDesc.init.colorAttachments firstAttachment with
      targetTexture := some renderTarget.targetTexture
      targetImplicitMSTexture := renderTarget.targetImplicitMSTexture
      targetLevel := renderTarget.targetLevel
      targetSliceOrDepth := renderTarget.targetSliceOrDepth }
  { RenderPassDesc.init with
    colorAttachments := Function.update RenderPassDesc.init.colorAttachments firstAttachment <|
      match clearColor with
      | some color =>
        { attachment with
          loadAction := .Clear
          clearColor := emulatedAlphaClearColor color
            (w.mColorWritableMask renderTarget.targetTexture) }
      | none => attachment
    numColorAttachments := 1
    sampleCount := renderTarget.renderSamples }

/-- `getRenderCommandEncoder(renderTarget, clearColor)`. -/
def requestEncoder (renderTarget : RenderTargetMtl) (clearColor : Option MTLClearColor) : World :=
  w.getRenderCommandEncoder (w.rpDesc renderTarget clearColor)

/-! ## Clears of a framebuffer -/

/-- `FramebufferMtl::overrideClearColor`, of a buffer that has a texture. -/
def overrideClearColor (texture : Option TextureID) (color : MTLClearColor) : MTLClearColor :=
  match texture with
  | some texture => emulatedAlphaClearColor color (w.mColorWritableMask texture)
  | none => color

def clearWithLoadOpRenderPassNotStarted (desc : RenderPassDesc)
    (clearColorBuffers : Fin kMaxRenderTargets → Bool) (clearOpts : ClearRectParams) : World :=
  let colorAttachments := fun i =>
    let attachment := desc.colorAttachments i
    if i.val < desc.numColorAttachments ∧ clearColorBuffers i then
      { attachment with
        loadAction := .Clear
        clearColor := w.overrideClearColor attachment.targetTexture clearOpts.clearColor }
    else attachment
  let depthAttachment :=
    match clearOpts.clearDepth with
    | some depth => { desc.depthAttachment with loadAction := .Clear, clearDepth := depth }
    | none => desc.depthAttachment
  let stencilAttachment :=
    match clearOpts.clearStencil with
    | some stencil => { desc.stencilAttachment with loadAction := .Clear, clearStencil := stencil }
    | none => desc.stencilAttachment
  w.getRenderCommandEncoder { desc with colorAttachments, depthAttachment, stencilAttachment }

def clearWithLoadOpRenderPassStarted (desc : RenderPassDesc)
    (clearColorBuffers : Fin kMaxRenderTargets → Bool) (clearOpts : ClearRectParams) : World :=
  let cleared := (List.finRange kMaxRenderTargets).filter fun i =>
    i.val < desc.numColorAttachments && clearColorBuffers i
  cleared.foldl (fun w i => w.onEncoder fun encoder =>
    encoder.setColorLoadAction .Clear
      (w.overrideClearColor (desc.colorAttachments i).targetTexture clearOpts.clearColor) i) w

def draw (writes : Writes) : World := w.onEncoder (·.draw w.memory writes)

def clearWithLoadOp (desc : RenderPassDesc) (clearColorBuffers : Fin kMaxRenderTargets → Bool)
    (clearOpts : ClearRectParams) (writes : Writes) : World :=
  if w.hasStartedRenderPass desc then
    let w := w.getRenderCommandEncoder desc
    if w.mRenderEncoder.all (·.canChangeLoadAction) then
      w.clearWithLoadOpRenderPassStarted desc clearColorBuffers clearOpts
    else (w.getRenderCommandEncoder desc).draw writes
  else w.clearWithLoadOpRenderPassNotStarted desc clearColorBuffers clearOpts

end World

/-! ## Steps -/

/-- A draw of a framebuffer is a draw in the encoder that is requested with its descriptor, and so
is a clear that is cut by the scissor or by a mask.  Blits, dispatches and submissions end the
encoding. -/
inductive Action
  | requestEncoder (renderTarget : RenderTargetMtl) (clearColor : Option MTLClearColor)
  | getRenderCommandEncoder (desc : RenderPassDesc)
  | draw (writes : Writes)
  | clearWithLoadOp (desc : RenderPassDesc) (clearColorBuffers : Fin kMaxRenderTargets → Bool)
      (clearOpts : ClearRectParams) (writes : Writes)
  | setColorStoreAction (action : MTLStoreAction) (colorAttachmentIndex : Fin kMaxRenderTargets)
  | setColorWritableMask (texture : TextureID) (mask : MTLColorWriteMask)
  | endEncoding (forceSaveRenderPassContent : Bool)

def step (w : World) : Action → Option World
  | .requestEncoder renderTarget clearColor => some (w.requestEncoder renderTarget clearColor)
  | .getRenderCommandEncoder desc => some (w.getRenderCommandEncoder desc)
  | .draw writes => if w.mRenderEncoder.isSome then some (w.draw writes) else none
  | .clearWithLoadOp desc clearColorBuffers clearOpts writes =>
      some (w.clearWithLoadOp desc clearColorBuffers clearOpts writes)
  | .setColorStoreAction action i => some (w.onEncoder (·.setColorStoreAction action i))
  | .setColorWritableMask texture mask =>
      some { w with mColorWritableMask := Function.update w.mColorWritableMask texture mask }
  | .endEncoding forceSaveRenderPassContent => some (w.endEncoding forceSaveRenderPassContent)

def initial : World where
  memory _ _ := none
  mRenderEncoder := none
  mColorWritableMask _ := .All

/-! ## Requests that are honoured -/

open LabelledRun

/-- The colour that is found is the one requested, in the channels that the texture has. -/
def HasColor (mask : MTLColorWriteMask) (requested found : MTLClearColor) : Prop :=
  found.red = requested.red ∧ found.green = requested.green ∧ found.blue = requested.blue ∧
    (mask &&& MTLColorWriteMask.Alpha ≠ 0 → found.alpha = requested.alpha)

theorem hasColor_emulatedAlphaClearColor (mask : MTLColorWriteMask) (color : MTLClearColor) :
    HasColor mask color (emulatedAlphaClearColor color mask) := by
  unfold emulatedAlphaClearColor
  split
  case isTrue halpha => exact ⟨rfl, rfl, rfl, fun hne => absurd halpha hne⟩
  case isFalse => exact ⟨rfl, rfl, rfl, fun _ => rfl⟩

/-- The next draw of the current pass finds the colour everywhere in its first attachment. -/
def World.ClearedTo (w : World) (mask : MTLColorWriteMask) (color : MTLClearColor) : Prop :=
  ∃ encoder, w.mRenderEncoder = some encoder ∧
    ∀ texel, ∃ found, encoder.attachments w.memory firstAttachment texel = some found ∧
      HasColor mask color found

/-- The action asks for no clear, draws nothing and leaves the encoder what it is. -/
def KeepsEncoder (w : World) : Action → Prop
  | .requestEncoder renderTarget none => w.hasStartedRenderPass (w.rpDesc renderTarget none)
  | .getRenderCommandEncoder desc => w.hasStartedRenderPass desc
  | .setColorStoreAction _ _ => True
  | .setColorWritableMask _ _ => True
  | _ => False

/-- If the action requests a clear, then the attachment is cleared to the requested colour when the
next draw is recorded in the encoder. -/
def Honoured (w : World) : Action → Prop
  | .requestEncoder renderTarget (some color) =>
      ∀ between next,
        Run step KeepsEncoder (w.requestEncoder renderTarget (some color)) between next →
          next.ClearedTo (w.mColorWritableMask renderTarget.targetTexture) color
  | _ => True

/-- No pass has been started that has the render target for its only attachment, unless it has the
colour everywhere already. -/
def NoneStarted (w : World) : Action → Prop
  | .requestEncoder renderTarget (some color) =>
      w.hasStartedRenderPass (w.rpDesc renderTarget (some color)) →
        w.ClearedTo (w.mColorWritableMask renderTarget.targetTexture) color
  | _ => True

namespace RenderCommandEncoder

@[simp]
theorem attachments_setColorStoreAction (e : RenderCommandEncoder) (memory : Memory)
    (action : MTLStoreAction) (i : Fin kMaxRenderTargets) :
    (e.setColorStoreAction action i).attachments memory = e.attachments memory := by
  unfold setColorStoreAction
  split <;> rfl

/-- A pass that clears its first attachment has the clear colour there before anything is drawn. -/
theorem attachments_restart {desc : RenderPassDesc} (hcount : 0 < desc.numColorAttachments)
    {attachment : RenderPassColorAttachmentDesc}
    (hattachment : desc.colorAttachments firstAttachment = attachment)
    (htexture : attachment.targetTexture.isSome) (hload : attachment.loadAction = .Clear)
    (memory : Memory) (texel : Texel) :
    (restart desc).attachments memory firstAttachment texel = some attachment.clearColor := by
  have hrendered : attachment.toObjC.texture.isSome := by
    unfold RenderPassColorAttachmentDesc.toObjC
    cases attachment.targetImplicitMSTexture with
    | some texture => rfl
    | none => exact isSome_map.trans htexture
  have hclear : attachment.toObjC.loadAction = .Clear := (if_pos hrendered).trans hload
  have hnative : (restart desc).mCachedRenderPassDescObjC firstAttachment = attachment.toObjC := by
    rw [← hattachment]
    exact if_pos hcount
  show ((restart desc).mCachedRenderPassDescObjC firstAttachment).load memory texel = _
  rw [hnative]
  unfold MTLRenderPassColorAttachmentDescriptor.load
  rw [hclear]
  cases htarget : attachment.toObjC.texture with
  | some image => rfl
  | none =>
      rw [htarget] at hrendered
      contradiction

end RenderCommandEncoder

namespace World

variable {w w' : World} {mask : MTLColorWriteMask} {color : MTLClearColor}

theorem getRenderCommandEncoder_of_started {desc : RenderPassDesc}
    (h : w.hasStartedRenderPass desc) : w.getRenderCommandEncoder desc = w := by
  unfold getRenderCommandEncoder
  rw [if_pos h]

theorem mRenderEncoder_endEncoder (w : World) : w.endEncoder.mRenderEncoder = none := by
  unfold endEncoder
  split
  case h_1 hnone => exact hnone
  case h_2 => rfl

theorem mRenderEncoder_getRenderCommandEncoder {desc : RenderPassDesc}
    (h : w.hasStartedRenderPass desc = false) :
    (w.getRenderCommandEncoder desc).mRenderEncoder = some (.restart desc) := by
  have hended : (w.endEncoding false).mRenderEncoder = none := mRenderEncoder_endEncoder w
  unfold getRenderCommandEncoder restart
  rw [if_neg (by rw [h]; exact Bool.false_ne_true), hended, any_none,
    if_neg Bool.false_ne_true]

theorem ClearedTo.step (h : w.ClearedTo mask color) {a : Action} (hkeeps : KeepsEncoder w a)
    (hstep : step w a = some w') : w'.ClearedTo mask color := by
  cases a with
  | requestEncoder renderTarget clearColor =>
    cases clearColor with
    | some color => exact hkeeps.elim
    | none =>
        obtain rfl : w = w' := by
          rw [← getRenderCommandEncoder_of_started hkeeps]
          exact some.inj hstep
        exact h
  | getRenderCommandEncoder desc =>
      obtain rfl : w = w' := by
        rw [← getRenderCommandEncoder_of_started hkeeps]
        exact some.inj hstep
      exact h
  | draw writes => exact hkeeps.elim
  | clearWithLoadOp desc clearColorBuffers clearOpts writes => exact hkeeps.elim
  | setColorStoreAction action i =>
    obtain ⟨encoder, hencoder, hcolor⟩ := h
    cases hstep
    refine ⟨encoder.setColorStoreAction action i, ?_, ?_⟩
    · show w.mRenderEncoder.map _ = _
      rw [hencoder, map_some]
    · rw [encoder.attachments_setColorStoreAction]
      exact hcolor
  | setColorWritableMask texture mask =>
      cases hstep
      exact h
  | endEncoding forceSaveRenderPassContent => exact hkeeps.elim

theorem ClearedTo.run {actions : List Action}
    (hrun : Run RequestedClears.step KeepsEncoder w actions w') (h : w.ClearedTo mask color) : w'.ClearedTo mask color :=
  hrun.invariant (fun _ _ _ hs hkeeps hstep => ClearedTo.step hs hkeeps hstep) h

theorem clearedTo_requestEncoder {renderTarget : RenderTargetMtl}
    (h : w.hasStartedRenderPass (w.rpDesc renderTarget (some color)) = false) :
    (w.requestEncoder renderTarget (some color)).ClearedTo
      (w.mColorWritableMask renderTarget.targetTexture) color := by
  refine ⟨_, mRenderEncoder_getRenderCommandEncoder h, fun texel => ?_⟩
  refine ⟨emulatedAlphaClearColor color (w.mColorWritableMask renderTarget.targetTexture), ?_,
    hasColor_emulatedAlphaClearColor _ _⟩
  exact RenderCommandEncoder.attachments_restart Nat.one_pos rfl rfl rfl _ texel

end World

theorem honoured_iff (w : World) (a : Action) : Honoured w a ↔ NoneStarted w a := by
  cases a with
  | requestEncoder renderTarget clearColor =>
    cases clearColor with
    | none => exact Iff.rfl
    | some color =>
      constructor
      · intro hhonoured hstarted
        have hcleared := hhonoured [] _ (.nil _)
        unfold World.requestEncoder at hcleared
        rwa [World.getRenderCommandEncoder_of_started hstarted] at hcleared
      · intro hnone between next hrun
        refine World.ClearedTo.run hrun ?_
        cases hstarted : w.hasStartedRenderPass (w.rpDesc renderTarget (some color)) with
        | false => exact World.clearedTo_requestEncoder hstarted
        | true =>
            unfold World.requestEncoder
            rw [World.getRenderCommandEncoder_of_started hstarted]
            exact hnone hstarted
  | _ => exact Iff.rfl

/-- The requests of a run are honoured exactly if each is made when no pass with the render target
for its only attachment is started, or one that has the colour already. -/
theorem requests_honoured_iff {s t : World} {actions : List Action} :
    Run step Honoured s actions t ↔ Run step NoneStarted s actions t :=
  Run.guard_congr fun w a _ _ => honoured_iff w a

/-- A pass draws red to a texture, and black is requested for the same texture. -/
theorem not_honoured_drawn :
    let renderTarget : RenderTargetMtl := ⟨1, none, 0, 0, 1⟩
    let actions : List Action :=
      [.requestEncoder renderTarget none, .draw fun _ _ => some ⟨1, 0, 0, 1⟩,
        .requestEncoder renderTarget (some ⟨0, 0, 0, 1⟩)]
    ∃ t, Run step anyStep initial actions t ∧ ¬ Run step Honoured initial actions t := by
  intro renderTarget actions
  have hexecuted : Run step anyStep initial actions _ := Run.of_exec rfl
  refine ⟨_, hexecuted, fun hrun => ?_⟩
  obtain ⟨-, _, hrequest, hrun⟩ := Run.cons_iff.mp hrun
  cases hrequest
  obtain ⟨-, _, hdraw, hrun⟩ := Run.cons_iff.mp hrun
  cases hdraw
  obtain ⟨hhonoured, -⟩ := Run.cons_iff.mp hrun
  obtain ⟨encoder, hencoder, hcolor⟩ := (honoured_iff _ _).mp hhonoured (by decide)
  cases hencoder
  obtain ⟨found, hfound, hred, -⟩ := hcolor 0
  cases hfound
  exact absurd hred (by decide)

end MetalAngle.Metal.RequestedClears
