import MetalAngle.Metal.RenderCommandEncoder

/-!
# The deferred encoder against an eager one

The eager encoder forwards every call at once.  At each draw the deferred encoder's
native state is the eager one's, except in buffer slots that were unbound with a null
buffer while they held inline bytes: there the cache already holds nil, and the call is
dropped.
-/

namespace MetalAngle.Metal

open Option

/-- An encoder that forwards every call.  The checks on arguments are the same: a slot out of
range and an out of bound scissor rect are ignored. -/
def MTLRenderCommandEncoder.forward (n : MTLRenderCommandEncoder) (maxRect : MTLScissorRect) :
    RenderCommand → MTLRenderCommandEncoder
  | .setRenderPipelineState state => { n with renderPipelineState := state }
  | .setTriangleFillMode mode => { n with triangleFillMode := mode }
  | .setFrontFacingWinding winding => { n with frontFacingWinding := winding }
  | .setCullMode mode => { n with cullMode := mode }
  | .setDepthStencilState state => { n with depthStencilState := state }
  | .setDepthBias depthBias slopeScale clamp =>
      { n with depthBias := depthBias, depthSlopeScale := slopeScale, depthBiasClamp := clamp }
  | .setStencilRefVals frontRef backRef =>
      { n with stencilFrontReferenceValue := frontRef, stencilBackReferenceValue := backRef }
  | .setStencilRefVal ref =>
      { n with stencilFrontReferenceValue := ref, stencilBackReferenceValue := ref }
  | .setViewport viewport => { n with viewport := some viewport }
  | .setScissorRect rect =>
      if RenderCommandEncoder.outOfBound maxRect rect then n
      else { n with scissorRect := some rect }
  | .setBlendColor color => { n with blendColor := color }
  | .setVisibilityResultMode mode offset =>
      { n with visibilityResultMode := mode, visibilityResultOffset := offset }
  | .setBuffer shaderType buffer offset index =>
      if h : index < kMaxShaderBuffers then n.setBuffer shaderType buffer offset ⟨index, h⟩ else n
  | .setBytes shaderType bytes index =>
      if h : index < kMaxShaderBuffers then n.setBytes shaderType bytes ⟨index, h⟩ else n
  | .setSamplerState shaderType state lodMinClamp lodMaxClamp index =>
      if h : index < kMaxShaderSamplers then
        n.setSamplerState shaderType state (some (lodMinClamp, lodMaxClamp)) ⟨index, h⟩
      else n
  | .setTexture shaderType texture index =>
      if h : index < kMaxShaderSamplers then n.setTexture shaderType texture ⟨index, h⟩ else n
  | .useResource _ => n
  | .draw _ => n

def eagerDraws (maxRect : MTLScissorRect) (n : MTLRenderCommandEncoder) :
    List RenderCommand → List (DrawCall × MTLRenderCommandEncoder)
  | [] => []
  | .draw call :: cs => if call.isIgnored then eagerDraws maxRect n cs
      else (call, n) :: eagerDraws maxRect n cs
  | c :: cs => eagerDraws maxRect (n.forward maxRect c) cs

/-! ## Slots unbound over inline bytes -/

abbrev BufferSlots := ShaderType → Fin kMaxShaderBuffers → Bool

def BufferBinding.isBytes : BufferBinding → Bool
  | .bytes _ _ => true
  | _ => false

/-- Whether a slot is unbound over inline bytes after it is set to `buffer`, `n` being the eager
binding before. -/
def hiddenAfterSet (buffer : Option ObjectId) (isHidden : Bool) (n : BufferBinding) : Bool :=
  match buffer with
  | some _ => false
  | none => isHidden || n.isBytes

/-- The slots that are unbound over inline bytes after a command, `n` being the eager state
before it: set to a null buffer while inline bytes were bound, and not bound again since. -/
def hiddenAfter (n : MTLRenderCommandEncoder) (hidden : BufferSlots) :
    RenderCommand → BufferSlots
  | .setBuffer shaderType buffer _ index =>
      if h : index < kMaxShaderBuffers then
        setSlot hidden shaderType ⟨index, h⟩
          (hiddenAfterSet buffer (hidden shaderType ⟨index, h⟩) (n.buffers shaderType ⟨index, h⟩))
      else hidden
  | .setBytes shaderType _ index =>
      if h : index < kMaxShaderBuffers then setSlot hidden shaderType ⟨index, h⟩ false else hidden
  | _ => hidden

def RenderCommand.isDraw : RenderCommand → Bool
  | .draw call => !call.isIgnored
  | _ => false

def NoDrawOverHidden (maxRect : MTLScissorRect) (n : MTLRenderCommandEncoder)
    (hidden : BufferSlots) : List RenderCommand → Prop
  | [] => True
  | c :: cs =>
      (c.isDraw → ∀ shaderType i, hidden shaderType i = false) ∧
        NoDrawOverHidden maxRect (n.forward maxRect c) (hiddenAfter n hidden c) cs

/-! ## Sameness of native states -/

def SameSampler :
    Option (ObjectId × Option (FloatBits × FloatBits)) →
      Option (ObjectId × Option (FloatBits × FloatBits)) → Prop
  | none, none => True
  | some (s, some c), some (t, some d) => s = t ∧ c.1.Same d.1 ∧ c.2.Same d.2
  | some (s, none), some (t, none) => s = t
  | _, _ => False

theorem SameSampler.refl (s : Option (ObjectId × Option (FloatBits × FloatBits))) :
    SameSampler s s := by
  match s with
  | none => trivial
  | some (_, none) => rfl
  | some (_, some _) => exact ⟨rfl, .refl _, .refl _⟩

/-- The two native states are the same outside the buffer slots: equal, floats by value, and
the offset of a disabled visibility result left aside. -/
structure SameFixed (d n : MTLRenderCommandEncoder) : Prop where
  renderPipelineState : d.renderPipelineState = n.renderPipelineState
  triangleFillMode : d.triangleFillMode = n.triangleFillMode
  frontFacingWinding : d.frontFacingWinding = n.frontFacingWinding
  cullMode : d.cullMode = n.cullMode
  depthStencilState : d.depthStencilState = n.depthStencilState
  depthBias : d.depthBias.Same n.depthBias
  depthSlopeScale : d.depthSlopeScale.Same n.depthSlopeScale
  depthBiasClamp : d.depthBiasClamp.Same n.depthBiasClamp
  stencilFront : d.stencilFrontReferenceValue = n.stencilFrontReferenceValue
  stencilBack : d.stencilBackReferenceValue = n.stencilBackReferenceValue
  viewport : d.viewport = n.viewport
  scissorRect : d.scissorRect = n.scissorRect
  blendColor : ∀ i, (d.blendColor i).Same (n.blendColor i)
  visibilityMode : d.visibilityResultMode = n.visibilityResultMode
  visibilityOffset : n.visibilityResultMode ≠ .Disabled →
    d.visibilityResultOffset = n.visibilityResultOffset
  samplers : ∀ shaderType i, SameSampler (d.samplers shaderType i) (n.samplers shaderType i)
  textures : d.textures = n.textures

/-- The same draw call with the same native state in force. -/
def SameDraw (d n : DrawCall × MTLRenderCommandEncoder) : Prop :=
  d.1 = n.1 ∧ SameFixed d.2 n.2 ∧ d.2.buffers = n.2.buffers

/-! ## The invariant of a pass -/

namespace RenderCommandEncoder

def effective (e : RenderCommandEncoder) : MTLRenderCommandEncoder :=
  e.get.getD (applyStates e.mStateCache)

structure ForwardedFixed (c : RenderCommandEncoderStates) (d : MTLRenderCommandEncoder) :
    Prop where
  renderPipelineState : d.renderPipelineState = c.renderPipeline
  triangleFillMode : d.triangleFillMode = c.triangleFillMode
  frontFacingWinding : d.frontFacingWinding = c.winding
  cullMode : d.cullMode = c.cullMode
  depthStencilState : d.depthStencilState = c.depthStencilState
  depthBias : d.depthBias = c.depthBias
  depthSlopeScale : d.depthSlopeScale = c.depthSlopeScale
  depthBiasClamp : d.depthBiasClamp = c.depthClamp
  stencilFront : d.stencilFrontReferenceValue = c.stencilFrontRef
  stencilBack : d.stencilBackReferenceValue = c.stencilBackRef
  viewport : d.viewport = c.viewport
  scissorRect : d.scissorRect = c.scissorRect
  blendColor : d.blendColor = c.blendColor
  visibilityMode : d.visibilityResultMode = c.visibilityResultMode
  visibilityOffset : c.visibilityResultMode ≠ .Disabled →
    d.visibilityResultOffset = c.visibilityResultBufferOffset
  samplers : ∀ shaderType,
    d.samplers shaderType = appliedSamplers (c.perShaderStates shaderType)
  textures : ∀ shaderType, d.textures shaderType = (c.perShaderStates shaderType).textures

/-- One buffer slot: what is cached for it, whether it is unbound over inline bytes, and the
bindings in the deferred and in the eager native state. -/
def SlotInv (buffer : Option ObjectId) (offset : Nat) (hidden : Bool)
    (d n : BufferBinding) : Prop :=
  match buffer with
  | some buffer => hidden = false ∧ d = .buffer buffer offset ∧ n = .buffer buffer offset
  | none =>
      if hidden then d.isBytes ∧ n = .unbound
      else d = n ∧ ∀ buffer offset, d ≠ .buffer buffer offset

structure PassInv (maxRect : MTLScissorRect) (e : RenderCommandEncoder)
    (n : MTLRenderCommandEncoder) (hidden : BufferSlots) : Prop where
  maxRect : e.mRenderPassMaxScissorRect = maxRect
  forwarded : ForwardedFixed e.mStateCache e.effective
  same : SameFixed e.effective n
  slots : ∀ shaderType i,
    SlotInv ((e.mStateCache.perShaderStates shaderType).buffers i)
      ((e.mStateCache.perShaderStates shaderType).bufferOffsets i) (hidden shaderType i)
      (e.effective.buffers shaderType i) (n.buffers shaderType i)

variable {maxRect : MTLScissorRect} {e : RenderCommandEncoder} {n n' : MTLRenderCommandEncoder}
  {hidden : BufferSlots}

theorem effective_update {cache : RenderCommandEncoderStates → RenderCommandEncoderStates}
    {forward : MTLRenderCommandEncoder → MTLRenderCommandEncoder}
    (happly : applyStates (cache e.mStateCache) = forward (applyStates e.mStateCache)) :
    (e.update cache forward).effective = forward e.effective := by
  unfold effective update
  cases e.get with
  | none => exact happly
  | some d => rfl

theorem effective_ensureMetalEncoderStarted :
    e.ensureMetalEncoderStarted.effective = e.effective := by
  unfold ensureMetalEncoderStarted effective
  cases hget : e.get with
  | none => rfl
  | some d => simp only [hget]

theorem ensureMetalEncoderStarted_mStateCache :
    e.ensureMetalEncoderStarted.mStateCache = e.mStateCache := by
  unfold ensureMetalEncoderStarted
  cases e.get with
  | none => rfl
  | some d => rfl

theorem ensureMetalEncoderStarted_maxRect :
    e.ensureMetalEncoderStarted.mRenderPassMaxScissorRect = e.mRenderPassMaxScissorRect := by
  unfold ensureMetalEncoderStarted
  cases e.get with
  | none => rfl
  | some d => rfl

theorem get_ensureMetalEncoderStarted :
    e.ensureMetalEncoderStarted.get = some e.effective := by
  unfold ensureMetalEncoderStarted effective
  cases hget : e.get with
  | none => rfl
  | some d => simp only [hget, getD_some]

section

variable (h : PassInv maxRect e n hidden)
include h

theorem PassInv.ensureMetalEncoderStarted :
    PassInv maxRect e.ensureMetalEncoderStarted n hidden where
  maxRect := ensureMetalEncoderStarted_maxRect.trans h.maxRect
  forwarded := by
    rw [effective_ensureMetalEncoderStarted, ensureMetalEncoderStarted_mStateCache]
    exact h.forwarded
  same := by
    rw [effective_ensureMetalEncoderStarted]
    exact h.same
  slots := by
    rw [effective_ensureMetalEncoderStarted, ensureMetalEncoderStarted_mStateCache]
    exact h.slots

theorem PassInv.skip (hsame : SameFixed e.effective n')
    (hbuffers : n'.buffers = n.buffers) : PassInv maxRect e n' hidden :=
  { h with same := hsame, slots := hbuffers ▸ h.slots }

/-- A setter that updates the cache and forwards, outside the buffer slots; `d` is the native
state after it. -/
theorem PassInv.update {cache : RenderCommandEncoderStates → RenderCommandEncoderStates}
    {forward : MTLRenderCommandEncoder → MTLRenderCommandEncoder} {d : MTLRenderCommandEncoder} (heffective : (e.update cache forward).effective = d)
    (hforwarded : ForwardedFixed (cache e.mStateCache) d) (hsame : SameFixed d n')
    (hbuffers : d.buffers = e.effective.buffers) (hbuffers' : n'.buffers = n.buffers)
    (hcached : ∀ shaderType, ((cache e.mStateCache).perShaderStates shaderType).buffers =
        (e.mStateCache.perShaderStates shaderType).buffers ∧
      ((cache e.mStateCache).perShaderStates shaderType).bufferOffsets =
        (e.mStateCache.perShaderStates shaderType).bufferOffsets) :
    PassInv maxRect (e.update cache forward) n' hidden where
  __ := h
  forwarded := heffective ▸ hforwarded
  same := heffective ▸ hsame
  slots := by
    intro shaderType i
    change SlotInv (((cache e.mStateCache).perShaderStates shaderType).buffers i)
      (((cache e.mStateCache).perShaderStates shaderType).bufferOffsets i) _ _ _
    rw [(hcached shaderType).1, (hcached shaderType).2, heffective, hbuffers, hbuffers']
    exact h.slots shaderType i

end

/-! ## The setters outside the slots -/

section

variable (h : PassInv maxRect e n hidden)
include h

theorem passInv_setRenderPipelineState (state : Option ObjectId) :
    PassInv maxRect (e.setRenderPipelineState state) { n with renderPipelineState := state }
      hidden := by
  unfold setRenderPipelineState
  split
  · rename_i hcached
    exact h.skip
      { h.same with renderPipelineState := h.forwarded.renderPipelineState.trans hcached } rfl
  · exact h.update (effective_update rfl) { h.forwarded with renderPipelineState := rfl }
      { h.same with renderPipelineState := rfl } rfl rfl fun _ => ⟨rfl, rfl⟩

theorem passInv_setTriangleFillMode (mode : MTLTriangleFillMode) :
    PassInv maxRect (e.setTriangleFillMode mode) { n with triangleFillMode := mode } hidden := by
  unfold setTriangleFillMode
  split
  · rename_i hcached
    exact h.skip { h.same with triangleFillMode := h.forwarded.triangleFillMode.trans hcached } rfl
  · exact h.update (effective_update rfl) { h.forwarded with triangleFillMode := rfl }
      { h.same with triangleFillMode := rfl } rfl rfl fun _ => ⟨rfl, rfl⟩

theorem passInv_setFrontFacingWinding (winding : MTLWinding) :
    PassInv maxRect (e.setFrontFacingWinding winding) { n with frontFacingWinding := winding }
      hidden := by
  unfold setFrontFacingWinding
  split
  · rename_i hcached
    exact h.skip
      { h.same with frontFacingWinding := h.forwarded.frontFacingWinding.trans hcached } rfl
  · exact h.update (effective_update rfl) { h.forwarded with frontFacingWinding := rfl }
      { h.same with frontFacingWinding := rfl } rfl rfl fun _ => ⟨rfl, rfl⟩

theorem passInv_setCullMode (mode : MTLCullMode) :
    PassInv maxRect (e.setCullMode mode) { n with cullMode := mode } hidden := by
  unfold setCullMode
  split
  · rename_i hcached
    exact h.skip { h.same with cullMode := h.forwarded.cullMode.trans hcached } rfl
  · exact h.update (effective_update rfl) { h.forwarded with cullMode := rfl }
      { h.same with cullMode := rfl } rfl rfl fun _ => ⟨rfl, rfl⟩

theorem passInv_setDepthStencilState (state : Option ObjectId) :
    PassInv maxRect (e.setDepthStencilState state) { n with depthStencilState := state }
      hidden := by
  unfold setDepthStencilState
  split
  · rename_i hcached
    exact h.skip
      { h.same with depthStencilState := h.forwarded.depthStencilState.trans hcached } rfl
  · exact h.update (effective_update rfl) { h.forwarded with depthStencilState := rfl }
      { h.same with depthStencilState := rfl } rfl rfl fun _ => ⟨rfl, rfl⟩

theorem passInv_setDepthBias (depthBias slopeScale clamp : FloatBits) :
    PassInv maxRect (e.setDepthBias depthBias slopeScale clamp)
      { n with depthBias := depthBias, depthSlopeScale := slopeScale, depthBiasClamp := clamp }
      hidden := by
  unfold setDepthBias
  split
  · rename_i hcached
    simp only [Bool.and_eq_true] at hcached
    refine h.skip { h.same with depthBias := ?_, depthSlopeScale := ?_, depthBiasClamp := ?_ } rfl
    · exact h.forwarded.depthBias ▸ FloatBits.same_of_eq hcached.1.1
    · exact h.forwarded.depthSlopeScale ▸ FloatBits.same_of_eq hcached.1.2
    · exact h.forwarded.depthBiasClamp ▸ FloatBits.same_of_eq hcached.2
  · refine h.update (effective_update rfl)
      { h.forwarded with depthBias := rfl, depthSlopeScale := rfl, depthBiasClamp := rfl } ?_
      rfl rfl fun _ => ⟨rfl, rfl⟩
    exact { h.same with
      depthBias := .refl _, depthSlopeScale := .refl _, depthBiasClamp := .refl _ }

theorem passInv_setStencilRefVals (frontRef backRef : Nat) :
    PassInv maxRect (e.setStencilRefVals frontRef backRef)
      { n with stencilFrontReferenceValue := frontRef, stencilBackReferenceValue := backRef }
      hidden := by
  unfold setStencilRefVals
  split
  · rename_i hcached
    exact h.skip { h.same with
        stencilFront := h.forwarded.stencilFront.trans hcached.1
        stencilBack := h.forwarded.stencilBack.trans hcached.2 } rfl
  · exact h.update (effective_update rfl)
      { h.forwarded with stencilFront := rfl, stencilBack := rfl }
      { h.same with stencilFront := rfl, stencilBack := rfl } rfl rfl fun _ => ⟨rfl, rfl⟩

theorem passInv_setViewport (viewport : MTLViewport) :
    PassInv maxRect (e.setViewport viewport) { n with viewport := some viewport } hidden := by
  unfold setViewport
  split
  · rename_i hcached
    exact h.skip { h.same with viewport := h.forwarded.viewport.trans hcached } rfl
  · exact h.update (effective_update rfl) { h.forwarded with viewport := rfl }
      { h.same with viewport := rfl } rfl rfl fun _ => ⟨rfl, rfl⟩

/-- An out of bound rect is ignored by both encoders, unless it is the cached one, which the
eager encoder has already been given. -/
theorem passInv_setScissorRect (rect : MTLScissorRect) :
    PassInv maxRect (e.setScissorRect rect)
      (if outOfBound maxRect rect then n else { n with scissorRect := some rect }) hidden := by
  unfold setScissorRect
  rw [h.maxRect]
  by_cases hcached : e.mStateCache.scissorRect = some rect
  · rw [if_pos hcached]
    split
    · exact h
    · exact h.skip { h.same with scissorRect := h.forwarded.scissorRect.trans hcached } rfl
  · rw [if_neg hcached]
    by_cases hout : outOfBound maxRect rect
    · rw [if_pos hout, if_pos hout]
      exact h
    · rw [if_neg hout, if_neg hout]
      exact h.update (effective_update rfl) { h.forwarded with scissorRect := rfl }
        { h.same with scissorRect := rfl } rfl rfl fun _ => ⟨rfl, rfl⟩

theorem passInv_setBlendColor (color : Fin 4 → FloatBits) :
    PassInv maxRect (e.setBlendColor color) { n with blendColor := color } hidden := by
  unfold setBlendColor
  split
  · rename_i hcached
    refine h.skip { h.same with blendColor := fun i => ?_ } rfl
    rw [h.forwarded.blendColor]
    exact FloatBits.same_of_eq (hcached i)
  · exact h.update (effective_update rfl) { h.forwarded with blendColor := rfl }
      { h.same with blendColor := fun _ => .refl _ } rfl rfl fun _ => ⟨rfl, rfl⟩

theorem passInv_setVisibilityResultMode (mode : MTLVisibilityResultMode) (offset : Nat) :
    PassInv maxRect (e.setVisibilityResultMode mode offset)
      { n with visibilityResultMode := mode, visibilityResultOffset := offset } hidden := by
  unfold setVisibilityResultMode
  split
  · rename_i hcached
    obtain ⟨rfl, rfl⟩ := hcached
    exact h.skip { h.same with
        visibilityMode := h.forwarded.visibilityMode
        visibilityOffset := h.forwarded.visibilityOffset } rfl
  · -- a disabled mode is applied without its offset when the native encoder is created
    cases hget : e.get with
    | some d =>
      have heffective : e.effective = d := by rw [effective, hget, getD_some]
      refine h.update (d := { e.effective with
          visibilityResultMode := mode, visibilityResultOffset := offset }) ?_
        { h.forwarded with visibilityMode := rfl, visibilityOffset := fun _ => rfl }
        { h.same with visibilityMode := rfl, visibilityOffset := fun _ => rfl } rfl rfl
        fun _ => ⟨rfl, rfl⟩
      rw [heffective]
      simp only [effective, RenderCommandEncoder.update, hget, map_some, getD_some]
    | none =>
      have heffective : e.effective = applyStates e.mStateCache := by
        rw [effective, hget, getD_none]
      have hforwarded := h.forwarded
      have hsame := h.same
      rw [heffective] at hforwarded hsame
      refine h.update (d := applyStates { e.mStateCache with
          visibilityResultMode := mode, visibilityResultBufferOffset := offset }) ?_
        { hforwarded with visibilityMode := rfl, visibilityOffset := fun hmode => if_pos hmode }
        { hsame with visibilityMode := rfl, visibilityOffset := fun hmode => if_pos hmode }
        (heffective ▸ rfl) rfl fun _ => ⟨rfl, rfl⟩
      simp only [effective, RenderCommandEncoder.update, hget, map_none, getD_none]

end

end RenderCommandEncoder

end MetalAngle.Metal
