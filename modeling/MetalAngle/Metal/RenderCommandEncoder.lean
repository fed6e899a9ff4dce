import Mathlib.Tactic

/-!
# `RenderCommandEncoder`: the deferred render encoder and its state cache

The native encoder of a render pass is created at the first command that needs it.
Until then, and at every later setter, `mStateCache` remembers what was set, and a
setter whose value is already cached forwards nothing.

Metal objects are named by numbers, a nil object is `none`, and a `float` is its bits.
-/

namespace MetalAngle.Metal

def kMaxShaderBuffers : Nat := 31
def kMaxShaderSamplers : Nat := 16

abbrev ObjectId := Nat

/-- The two stages of `gl::AllGLES2ShaderTypes`. -/
inductive ShaderType
  | Vertex
  | Fragment
deriving DecidableEq

inductive MTLTriangleFillMode
  | Fill
  | Lines
deriving DecidableEq

inductive MTLWinding
  | Clockwise
  | CounterClockwise
deriving DecidableEq

inductive MTLCullMode
  | None
  | Front
  | Back
deriving DecidableEq

inductive MTLVisibilityResultMode
  | Disabled
  | Boolean
  | Counting
deriving DecidableEq

/-! ## `float` comparison -/

abbrev FloatBits := BitVec 32

namespace FloatBits

def isNaN (x : FloatBits) : Bool := (0x7f800000#32).ult (x &&& 0x7fffffff#32)

def isZero (x : FloatBits) : Bool := x &&& 0x7fffffff#32 == 0

/-- `==` on `float`: false for a NaN, true for zeros of either sign. -/
def eq (x y : FloatBits) : Bool :=
  !x.isNaN && !y.isNaN && (x == y || (x.isZero && y.isZero))

/-- Floats that no computation tells apart by value: the same bits, or zeros. -/
def Same (x y : FloatBits) : Prop := x = y ∨ (x.isZero ∧ y.isZero)

theorem Same.refl (x : FloatBits) : Same x x := .inl rfl

theorem same_of_eq {x y : FloatBits} (h : eq x y) : Same x y := by
  simp only [eq, Bool.and_eq_true, Bool.or_eq_true, beq_iff_eq] at h
  exact h.2

end FloatBits

/-! ## The native encoder -/

/-- Compared with `memcmp`, so by the bits of its six `double`s. -/
structure MTLViewport where
  originX : BitVec 64
  originY : BitVec 64
  width : BitVec 64
  height : BitVec 64
  znear : BitVec 64
  zfar : BitVec 64
deriving DecidableEq

structure MTLScissorRect where
  x : Nat
  y : Nat
  width : Nat
  height : Nat
deriving DecidableEq

inductive BufferBinding
  | unbound
  | buffer (buffer : ObjectId) (offset : Nat)
  | bytes (bytes : List UInt8) (offset : Nat)
deriving DecidableEq

def BufferBinding.ofBuffer (mtlBuffer : Option ObjectId) (offset : Nat) : BufferBinding :=
  match mtlBuffer with
  | some id => .buffer id offset
  | none => .unbound

def BufferBinding.withOffset (binding : BufferBinding) (offset : Nat) : BufferBinding :=
  match binding with
  | .unbound => .unbound
  | .buffer id _ => .buffer id offset
  | .bytes inlineData _ => .bytes inlineData offset

structure MTLRenderCommandEncoder where
  renderPipelineState : Option ObjectId := none
  triangleFillMode : MTLTriangleFillMode := .Fill
  frontFacingWinding : MTLWinding := .Clockwise
  cullMode : MTLCullMode := .None
  depthStencilState : Option ObjectId := none
  depthBias : FloatBits := 0
  depthSlopeScale : FloatBits := 0
  depthBiasClamp : FloatBits := 0
  stencilFrontReferenceValue : Nat := 0
  stencilBackReferenceValue : Nat := 0
  viewport : Option MTLViewport := none
  scissorRect : Option MTLScissorRect := none
  blendColor : Fin 4 → FloatBits := fun _ => 0
  visibilityResultMode : MTLVisibilityResultMode := .Disabled
  visibilityResultOffset : Nat := 0
  buffers : ShaderType → Fin kMaxShaderBuffers → BufferBinding := fun _ _ => .unbound
  /-- A sampler with the lod clamps it was set with, if any. -/
  samplers : ShaderType → Fin kMaxShaderSamplers →
    Option (ObjectId × Option (FloatBits × FloatBits)) := fun _ _ => none
  textures : ShaderType → Fin kMaxShaderSamplers → Option ObjectId := fun _ _ => none

def setSlot {n : Nat} {α : Type} (slots : ShaderType → Fin n → α) (shaderType : ShaderType)
    (index : Fin n) (value : α) : ShaderType → Fin n → α :=
  Function.update slots shaderType (Function.update (slots shaderType) index value)

namespace MTLRenderCommandEncoder

section

variable (n : MTLRenderCommandEncoder)

def setBuffer (shaderType : ShaderType) (buffer : Option ObjectId)
    (offset : Nat) (index : Fin kMaxShaderBuffers) : MTLRenderCommandEncoder :=
  { n with buffers := setSlot n.buffers shaderType index (.ofBuffer buffer offset) }

def setBufferOffset (shaderType : ShaderType) (offset : Nat)
    (index : Fin kMaxShaderBuffers) : MTLRenderCommandEncoder :=
  { n with
    buffers :=
      setSlot n.buffers shaderType index ((n.buffers shaderType index).withOffset offset) }

def setBytes (shaderType : ShaderType) (bytes : List UInt8)
    (index : Fin kMaxShaderBuffers) : MTLRenderCommandEncoder :=
  { n with buffers := setSlot n.buffers shaderType index (.bytes bytes 0) }

def setSamplerState (shaderType : ShaderType)
    (state : Option ObjectId) (lodClamps : Option (FloatBits × FloatBits))
    (index : Fin kMaxShaderSamplers) : MTLRenderCommandEncoder :=
  { n with samplers := setSlot n.samplers shaderType index (state.map (·, lodClamps)) }

def setTexture (shaderType : ShaderType)
    (texture : Option ObjectId) (index : Fin kMaxShaderSamplers) : MTLRenderCommandEncoder :=
  { n with textures := setSlot n.textures shaderType index texture }

end

end MTLRenderCommandEncoder

/-! ## The cache and the deferred encoder -/

structure RenderCommandEncoderShaderStates where
  buffers : Fin kMaxShaderBuffers → Option ObjectId := fun _ => none
  bufferOffsets : Fin kMaxShaderBuffers → Nat := fun _ => 0
  samplers : Fin kMaxShaderSamplers → Option ObjectId := fun _ => none
  samplerLodClamps : Fin kMaxShaderSamplers → Option (FloatBits × FloatBits) := fun _ => none
  textures : Fin kMaxShaderSamplers → Option ObjectId := fun _ => none

/-- The defaults are what `RenderCommandEncoderStates::reset` sets. -/
structure RenderCommandEncoderStates where
  renderPipeline : Option ObjectId := none
  triangleFillMode : MTLTriangleFillMode := .Fill
  winding : MTLWinding := .Clockwise
  cullMode : MTLCullMode := .None
  depthStencilState : Option ObjectId := none
  depthBias : FloatBits := 0
  depthSlopeScale : FloatBits := 0
  depthClamp : FloatBits := 0
  stencilFrontRef : Nat := 0
  stencilBackRef : Nat := 0
  viewport : Option MTLViewport := none
  scissorRect : Option MTLScissorRect := none
  blendColor : Fin 4 → FloatBits := fun _ => 0
  perShaderStates : ShaderType → RenderCommandEncoderShaderStates := fun _ => {}
  visibilityResultMode : MTLVisibilityResultMode := .Disabled
  visibilityResultBufferOffset : Nat := 0

structure RenderPassAttachmentDesc where
  texture : ObjectId
  level : Nat
  width : Nat
  height : Nat
deriving DecidableEq

structure RenderPassDesc where
  attachments : List RenderPassAttachmentDesc := []
deriving DecidableEq

/-- `get()` is the native encoder, nil until it is started. -/
structure RenderCommandEncoder where
  mRecording : Bool := false
  mRenderPassDesc : RenderPassDesc := {}
  mRenderPassMaxScissorRect : MTLScissorRect := ⟨0, 0, 2 ^ 64 - 1, 2 ^ 64 - 1⟩
  mStateCache : RenderCommandEncoderStates := {}
  get : Option MTLRenderCommandEncoder := none

namespace RenderCommandEncoder

/-- The buffer slots that `applyStates` sets for one shader stage: a call for each slot with a
cached buffer. -/
def appliedBuffers (states : RenderCommandEncoderShaderStates) (i : Fin kMaxShaderBuffers) :
    BufferBinding :=
  .ofBuffer (states.buffers i) (states.bufferOffsets i)

/-- The sampler slots that `applyStates` sets, with their lod clamps if these are valid. -/
def appliedSamplers (states : RenderCommandEncoderShaderStates) (i : Fin kMaxShaderSamplers) :
    Option (ObjectId × Option (FloatBits × FloatBits)) :=
  (states.samplers i).map (·, states.samplerLodClamps i)

def applyStates (cache : RenderCommandEncoderStates) : MTLRenderCommandEncoder where
  __ := cache
  frontFacingWinding := cache.winding
  depthBiasClamp := cache.depthClamp
  stencilFrontReferenceValue := cache.stencilFrontRef
  stencilBackReferenceValue := cache.stencilBackRef
  renderPipelineState := cache.renderPipeline
  visibilityResultOffset :=
    if cache.visibilityResultMode ≠ .Disabled then cache.visibilityResultBufferOffset else 0
  buffers := fun shaderType => appliedBuffers (cache.perShaderStates shaderType)
  samplers := fun shaderType => appliedSamplers (cache.perShaderStates shaderType)
  textures := fun shaderType => (cache.perShaderStates shaderType).textures

def ensureMetalEncoderStarted (e : RenderCommandEncoder) : RenderCommandEncoder :=
  match e.get with
  | some _ => e
  | none => { e with get := some (applyStates e.mStateCache) }

def reset (e : RenderCommandEncoder) : RenderCommandEncoder :=
  { e with
    get := none
    mStateCache := if e.mRecording then {} else e.mStateCache
    mRecording := false }

/-- The store actions that `endEncodingImpl` corrects are not part of the encoder state. -/
def endEncoding (e : RenderCommandEncoder) : RenderCommandEncoder :=
  if e.mRecording then { e.ensureMetalEncoderStarted.reset with mRenderPassDesc := {} } else e

/-- `initAttachmentWriteDependencyAndScissorRect` over the attachments. -/
def maxScissorRect (desc : RenderPassDesc) : MTLScissorRect :=
  desc.attachments.foldl
    (fun rect a =>
      { rect with width := min rect.width a.width, height := min rect.height a.height })
    ⟨0, 0, 2 ^ 64 - 1, 2 ^ 64 - 1⟩

section

variable (e : RenderCommandEncoder)

def restart (cmdBufferValid : Bool) (desc : RenderPassDesc) :
    RenderCommandEncoder :=
  if e.mRecording ∧ e.mRenderPassDesc = desc then
    e  -- no change, skip
  else
    let e := if e.mRecording then e.endEncoding else e
    if cmdBufferValid then
      { e with
        mRenderPassDesc := desc
        mRecording := true
        mRenderPassMaxScissorRect := maxScissorRect desc }
    else
      e.reset

/-- What a setter does when its value is not cached yet: update the cache and, if there is a
native encoder, forward the call. -/
def update
    (cache : RenderCommandEncoderStates → RenderCommandEncoderStates)
    (forward : MTLRenderCommandEncoder → MTLRenderCommandEncoder) : RenderCommandEncoder :=
  { e with mStateCache := cache e.mStateCache, get := e.get.map forward }

def setRenderPipelineState (state : Option ObjectId) :
    RenderCommandEncoder :=
  if e.mStateCache.renderPipeline = state then e
  else e.update ({ · with renderPipeline := state }) ({ · with renderPipelineState := state })

def setTriangleFillMode (mode : MTLTriangleFillMode) :
    RenderCommandEncoder :=
  if e.mStateCache.triangleFillMode = mode then e
  else e.update ({ · with triangleFillMode := mode }) ({ · with triangleFillMode := mode })

def setFrontFacingWinding (winding : MTLWinding) :
    RenderCommandEncoder :=
  if e.mStateCache.winding = winding then e
  else e.update ({ · with winding := winding }) ({ · with frontFacingWinding := winding })

def setCullMode (mode : MTLCullMode) : RenderCommandEncoder :=
  if e.mStateCache.cullMode = mode then e
  else e.update ({ · with cullMode := mode }) ({ · with cullMode := mode })

def setDepthStencilState (state : Option ObjectId) :
    RenderCommandEncoder :=
  if e.mStateCache.depthStencilState = state then e
  else e.update ({ · with depthStencilState := state }) ({ · with depthStencilState := state })

def setDepthBias (depthBias slopeScale clamp : FloatBits) :
    RenderCommandEncoder :=
  if e.mStateCache.depthBias.eq depthBias && e.mStateCache.depthSlopeScale.eq slopeScale &&
      e.mStateCache.depthClamp.eq clamp then e
  else
    e.update
      ({ · with depthBias := depthBias, depthSlopeScale := slopeScale, depthClamp := clamp })
      ({ · with depthBias := depthBias, depthSlopeScale := slopeScale, depthBiasClamp := clamp })

def setStencilRefVals (frontRef backRef : Nat) :
    RenderCommandEncoder :=
  if e.mStateCache.stencilFrontRef = frontRef ∧ e.mStateCache.stencilBackRef = backRef then e
  else
    e.update ({ · with stencilFrontRef := frontRef, stencilBackRef := backRef })
      ({ · with stencilFrontReferenceValue := frontRef, stencilBackReferenceValue := backRef })

def setStencilRefVal (ref : Nat) : RenderCommandEncoder :=
  e.setStencilRefVals ref ref

def setViewport (viewport : MTLViewport) : RenderCommandEncoder :=
  if e.mStateCache.viewport = some viewport then e
  else
    e.update ({ · with viewport := some viewport }) ({ · with viewport := some viewport })

end

/-- The sums are of 64-bit `NSUInteger`s. -/
def outOfBound (max rect : MTLScissorRect) : Prop :=
  max.width < (rect.x + rect.width) % 2 ^ 64 ∨ max.height < (rect.y + rect.height) % 2 ^ 64

instance (max rect : MTLScissorRect) : Decidable (outOfBound max rect) :=
  inferInstanceAs (Decidable (_ ∨ _))

def setScissorRect (e : RenderCommandEncoder) (rect : MTLScissorRect) : RenderCommandEncoder :=
  if e.mStateCache.scissorRect = some rect then e
  else if outOfBound e.mRenderPassMaxScissorRect rect then
    e  -- would crash the Metal runtime, ignored
  else
    e.update ({ · with scissorRect := some rect }) ({ · with scissorRect := some rect })

def setBlendColor (e : RenderCommandEncoder) (color : Fin 4 → FloatBits) :
    RenderCommandEncoder :=
  if ∀ i, (e.mStateCache.blendColor i).eq (color i) then e
  else e.update ({ · with blendColor := color }) ({ · with blendColor := color })

def setVisibilityResultMode (e : RenderCommandEncoder) (mode : MTLVisibilityResultMode)
    (offset : Nat) : RenderCommandEncoder :=
  if e.mStateCache.visibilityResultMode = mode ∧
      e.mStateCache.visibilityResultBufferOffset = offset then e
  else
    e.update
      ({ · with visibilityResultMode := mode, visibilityResultBufferOffset := offset })
      ({ · with visibilityResultMode := mode, visibilityResultOffset := offset })

def updateStage (cache : RenderCommandEncoderStates) (shaderType : ShaderType)
    (change : RenderCommandEncoderShaderStates → RenderCommandEncoderShaderStates) :
    RenderCommandEncoderStates :=
  { cache with
    perShaderStates := Function.update cache.perShaderStates shaderType
      (change (cache.perShaderStates shaderType)) }

def commonSetBuffer (e : RenderCommandEncoder) (shaderType : ShaderType)
    (mtlBuffer : Option ObjectId) (offset : Nat) (index : Fin kMaxShaderBuffers) :
    RenderCommandEncoder :=
  let shaderStates := e.mStateCache.perShaderStates shaderType
  if shaderStates.buffers index = mtlBuffer then
    if shaderStates.bufferOffsets index = offset then e
    else
      -- already bound with a different offset: update the offset only
      e.update
        (updateStage · shaderType fun states =>
          { states with bufferOffsets := Function.update states.bufferOffsets index offset })
        (·.setBufferOffset shaderType offset index)
  else
    e.update
      (updateStage · shaderType fun states =>
        { states with
          buffers := Function.update states.buffers index mtlBuffer
          bufferOffsets := Function.update states.bufferOffsets index offset })
      (·.setBuffer shaderType mtlBuffer offset index)

/-- `setBuffer` and `setBufferForWrite`, which differ in the dependency they record on the
command buffer; `buffer` is the native buffer, `none` also for a null reference. -/
def setBuffer (e : RenderCommandEncoder) (shaderType : ShaderType) (buffer : Option ObjectId)
    (offset index : Nat) : RenderCommandEncoder :=
  if h : index < kMaxShaderBuffers then e.commonSetBuffer shaderType buffer offset ⟨index, h⟩
  else e

def setBytes (e : RenderCommandEncoder) (shaderType : ShaderType) (bytes : List UInt8)
    (index : Nat) : RenderCommandEncoder :=
  if h : index < kMaxShaderBuffers then
    e.ensureMetalEncoderStarted.update
      (updateStage · shaderType fun states =>
        { states with
          buffers := Function.update states.buffers ⟨index, h⟩ none
          bufferOffsets := Function.update states.bufferOffsets ⟨index, h⟩ 0 })
      (·.setBytes shaderType bytes ⟨index, h⟩)
  else e

/-- The early-out test of `setSamplerState`. -/
def samplerCached (states : RenderCommandEncoderShaderStates) (state : Option ObjectId)
    (lodMinClamp lodMaxClamp : FloatBits) (index : Fin kMaxShaderSamplers) : Bool :=
  match states.samplerLodClamps index with
  | some clamps =>
      states.samplers index == state && clamps.1.eq lodMinClamp && clamps.2.eq lodMaxClamp
  | none => false

def setSamplerState (e : RenderCommandEncoder) (shaderType : ShaderType)
    (state : Option ObjectId) (lodMinClamp lodMaxClamp : FloatBits) (index : Nat) :
    RenderCommandEncoder :=
  if h : index < kMaxShaderSamplers then
    if samplerCached (e.mStateCache.perShaderStates shaderType) state lodMinClamp lodMaxClamp
        ⟨index, h⟩ then e
    else
      e.update
        (updateStage · shaderType fun states =>
          { states with
            samplers := Function.update states.samplers ⟨index, h⟩ state
            samplerLodClamps := Function.update states.samplerLodClamps ⟨index, h⟩
              (some (lodMinClamp, lodMaxClamp)) })
        (·.setSamplerState shaderType state (some (lodMinClamp, lodMaxClamp)) ⟨index, h⟩)
  else e

def setTexture (e : RenderCommandEncoder) (shaderType : ShaderType) (texture : Option ObjectId)
    (index : Nat) : RenderCommandEncoder :=
  if h : index < kMaxShaderSamplers then
    if (e.mStateCache.perShaderStates shaderType).textures ⟨index, h⟩ = texture then e
    else
      e.update
        (updateStage · shaderType fun states =>
          { states with textures := Function.update states.textures ⟨index, h⟩ texture })
        (·.setTexture shaderType texture ⟨index, h⟩)
  else e

end RenderCommandEncoder

/-! ## Draw calls -/

inductive DrawCall
  | draw (primitiveType vertexStart vertexCount : Nat)
  | drawInstanced (primitiveType vertexStart vertexCount instances : Nat)
  | drawIndexed (primitiveType indexCount indexType : Nat) (indexBuffer : Option ObjectId)
      (bufferOffset : Nat)
  | drawIndexedInstanced (primitiveType indexCount indexType : Nat)
      (indexBuffer : Option ObjectId) (bufferOffset instances : Nat)
  | drawIndexedInstancedBaseVertex (primitiveType indexCount indexType : Nat)
      (indexBuffer : Option ObjectId) (bufferOffset instances baseVertex : Nat)

def DrawCall.isIgnored : DrawCall → Bool
  | .drawIndexed _ _ _ none _ => true
  | .drawIndexedInstanced _ _ _ none _ _ => true
  | .drawIndexedInstancedBaseVertex _ _ _ none _ _ _ => true
  | _ => false

inductive RenderCommand
  | setRenderPipelineState (state : Option ObjectId)
  | setTriangleFillMode (mode : MTLTriangleFillMode)
  | setFrontFacingWinding (winding : MTLWinding)
  | setCullMode (mode : MTLCullMode)
  | setDepthStencilState (state : Option ObjectId)
  | setDepthBias (depthBias slopeScale clamp : FloatBits)
  | setStencilRefVals (frontRef backRef : Nat)
  | setStencilRefVal (ref : Nat)
  | setViewport (viewport : MTLViewport)
  | setScissorRect (rect : MTLScissorRect)
  | setBlendColor (color : Fin 4 → FloatBits)
  | setVisibilityResultMode (mode : MTLVisibilityResultMode) (offset : Nat)
  | setBuffer (shaderType : ShaderType) (buffer : Option ObjectId) (offset index : Nat)
  | setBytes (shaderType : ShaderType) (bytes : List UInt8) (index : Nat)
  | setSamplerState (shaderType : ShaderType) (state : Option ObjectId)
      (lodMinClamp lodMaxClamp : FloatBits) (index : Nat)
  | setTexture (shaderType : ShaderType) (texture : Option ObjectId) (index : Nat)
  | useResource (resource : Option ObjectId)
  | draw (call : DrawCall)

def RenderCommandEncoder.exec (e : RenderCommandEncoder) : RenderCommand → RenderCommandEncoder
  | .setRenderPipelineState state => e.setRenderPipelineState state
  | .setTriangleFillMode mode => e.setTriangleFillMode mode
  | .setFrontFacingWinding winding => e.setFrontFacingWinding winding
  | .setCullMode mode => e.setCullMode mode
  | .setDepthStencilState state => e.setDepthStencilState state
  | .setDepthBias depthBias slopeScale clamp => e.setDepthBias depthBias slopeScale clamp
  | .setStencilRefVals frontRef backRef => e.setStencilRefVals frontRef backRef
  | .setStencilRefVal ref => e.setStencilRefVal ref
  | .setViewport viewport => e.setViewport viewport
  | .setScissorRect rect => e.setScissorRect rect
  | .setBlendColor color => e.setBlendColor color
  | .setVisibilityResultMode mode offset => e.setVisibilityResultMode mode offset
  | .setBuffer shaderType buffer offset index => e.setBuffer shaderType buffer offset index
  | .setBytes shaderType bytes index => e.setBytes shaderType bytes index
  | .setSamplerState shaderType state lodMinClamp lodMaxClamp index =>
      e.setSamplerState shaderType state lodMinClamp lodMaxClamp index
  | .setTexture shaderType texture index => e.setTexture shaderType texture index
  | .useResource resource => if resource.isSome then e.ensureMetalEncoderStarted else e
  | .draw call => if call.isIgnored then e else e.ensureMetalEncoderStarted

def RenderCommandEncoder.drawn (e : RenderCommandEncoder) :
    RenderCommand → Option (DrawCall × MTLRenderCommandEncoder)
  | .draw call =>
      if call.isIgnored then none else e.ensureMetalEncoderStarted.get.map (call, ·)
  | _ => none

def RenderCommandEncoder.draws (e : RenderCommandEncoder) :
    List RenderCommand → List (DrawCall × MTLRenderCommandEncoder)
  | [] => []
  | c :: cs => (e.drawn c).toList ++ draws (e.exec c) cs

end MetalAngle.Metal
