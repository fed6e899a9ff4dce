import MetalAngle.Metal.RenderCommandEncoderEager

/-!
# Resource slots, and when every draw sees the eager state

The setters of textures, samplers, buffers and inline bytes keep the invariant of a
pass.  With the setters outside the slots this gives the result on whole passes.
-/

namespace MetalAngle.Metal

open Function MTLRenderCommandEncoder Option

section Slot

variable {k : Nat} {α : Type} {slots : ShaderType → Fin k → α} {shaderType shaderType' : ShaderType}
  {i j : Fin k} {value : α}

@[simp] theorem setSlot_self : setSlot slots shaderType i value shaderType i = value := by
  rw [setSlot, update_self, update_self]

theorem setSlot_of_ne (hne : ¬(shaderType' = shaderType ∧ j = i)) :
    setSlot slots shaderType i value shaderType' j = slots shaderType' j := by
  unfold setSlot
  by_cases hstage : shaderType' = shaderType
  · subst hstage
    rw [update_self, update_of_ne fun hj => hne ⟨rfl, hj⟩]
  · rw [update_of_ne hstage]

end Slot

namespace RenderCommandEncoder

/-! ## Applying an updated cache -/

section Apply

variable (c : RenderCommandEncoderStates) (shaderType : ShaderType)
  (change : RenderCommandEncoderShaderStates → RenderCommandEncoderShaderStates)

theorem updateStage_self :
    (updateStage c shaderType change).perShaderStates shaderType =
      change (c.perShaderStates shaderType) :=
  update_self _ _ _

theorem updateStage_of_ne {shaderType' : ShaderType} (hne : shaderType' ≠ shaderType) :
    (updateStage c shaderType change).perShaderStates shaderType' =
      c.perShaderStates shaderType' :=
  update_of_ne hne _ _

/-- A change of one stage shows in the applied slots of that stage only. -/
theorem applyStates_updateStage
    {buffers : ShaderType → Fin kMaxShaderBuffers → BufferBinding}
    {samplers : ShaderType → Fin kMaxShaderSamplers →
      Option (ObjectId × Option (FloatBits × FloatBits))}
    {textures : ShaderType → Fin kMaxShaderSamplers → Option ObjectId}
    (hbuffers : Function.update (applyStates c).buffers shaderType
      (appliedBuffers (change (c.perShaderStates shaderType))) = buffers)
    (hsamplers : Function.update (applyStates c).samplers shaderType
      (appliedSamplers (change (c.perShaderStates shaderType))) = samplers)
    (htextures : Function.update (applyStates c).textures shaderType
      (change (c.perShaderStates shaderType)).textures = textures) :
    applyStates (updateStage c shaderType change) =
      { applyStates c with buffers, samplers, textures } := by
  have hstage : ∀ {β : Type} (f : RenderCommandEncoderShaderStates → β),
      (fun shaderType' => f ((updateStage c shaderType change).perShaderStates shaderType')) =
        Function.update (fun shaderType' => f (c.perShaderStates shaderType')) shaderType
          (f (change (c.perShaderStates shaderType))) := by
    intro β f
    funext shaderType'
    by_cases hne : shaderType' = shaderType
    · rw [hne, updateStage_self, update_self]
    · rw [updateStage_of_ne _ _ _ hne, update_of_ne hne]
  rw [← hbuffers, ← hsamplers, ← htextures]
  unfold applyStates
  rw [hstage appliedBuffers, hstage appliedSamplers,
    hstage RenderCommandEncoderShaderStates.textures]
  rfl

theorem appliedBuffers_update (states : RenderCommandEncoderShaderStates)
    (i : Fin kMaxShaderBuffers) (buffer : Option ObjectId) (offset : Nat) :
    appliedBuffers { states with
        buffers := Function.update states.buffers i buffer
        bufferOffsets := Function.update states.bufferOffsets i offset } =
      Function.update (appliedBuffers states) i (.ofBuffer buffer offset) := by
  funext j
  by_cases hj : j = i
  · simp [hj, appliedBuffers]
  · simp [appliedBuffers, update_of_ne hj]

theorem appliedSamplers_update (states : RenderCommandEncoderShaderStates)
    (i : Fin kMaxShaderSamplers) (state : Option ObjectId)
    (clamps : Option (FloatBits × FloatBits)) :
    appliedSamplers { states with
        samplers := Function.update states.samplers i state
        samplerLodClamps := Function.update states.samplerLodClamps i clamps } =
      Function.update (appliedSamplers states) i (state.map (·, clamps)) := by
  funext j
  by_cases hj : j = i
  · simp [hj, appliedSamplers]
  · simp [appliedSamplers, update_of_ne hj]

theorem applyStates_setTexture (texture : Option ObjectId) (i : Fin kMaxShaderSamplers) :
    applyStates (updateStage c shaderType fun states =>
        { states with textures := Function.update states.textures i texture }) =
      (applyStates c).setTexture shaderType texture i :=
  applyStates_updateStage _ _ _ (update_eq_self _ _) (update_eq_self _ _) rfl

theorem applyStates_setSamplerState (state : Option ObjectId)
    (clamps : Option (FloatBits × FloatBits)) (i : Fin kMaxShaderSamplers) :
    applyStates (updateStage c shaderType fun states =>
        { states with
          samplers := Function.update states.samplers i state
          samplerLodClamps := Function.update states.samplerLodClamps i clamps }) =
      (applyStates c).setSamplerState shaderType state clamps i := by
  apply applyStates_updateStage
  · exact update_eq_self _ _
  · rw [appliedSamplers_update]
    rfl
  · exact update_eq_self _ _

theorem applyStates_setBuffer (buffer : Option ObjectId) (offset : Nat)
    (i : Fin kMaxShaderBuffers) :
    applyStates (updateStage c shaderType fun states =>
        { states with
          buffers := Function.update states.buffers i buffer
          bufferOffsets := Function.update states.bufferOffsets i offset }) =
      (applyStates c).setBuffer shaderType buffer offset i := by
  apply applyStates_updateStage
  · rw [appliedBuffers_update]
    rfl
  · exact update_eq_self _ _
  · exact update_eq_self _ _

theorem updateStage_offset (offset : Nat) (i : Fin kMaxShaderBuffers) :
    (updateStage c shaderType fun states =>
        { states with bufferOffsets := Function.update states.bufferOffsets i offset }) =
      updateStage c shaderType fun states =>
        { states with
          buffers := Function.update states.buffers i ((c.perShaderStates shaderType).buffers i)
          bufferOffsets := Function.update states.bufferOffsets i offset } := by
  simp [updateStage]

theorem applyStates_setBufferOffset (offset : Nat) (i : Fin kMaxShaderBuffers) :
    applyStates (updateStage c shaderType fun states =>
        { states with bufferOffsets := Function.update states.bufferOffsets i offset }) =
      (applyStates c).setBufferOffset shaderType offset i := by
  rw [updateStage_offset, applyStates_setBuffer]
  unfold MTLRenderCommandEncoder.setBuffer MTLRenderCommandEncoder.setBufferOffset
  have hbinding : BufferBinding.ofBuffer ((c.perShaderStates shaderType).buffers i) offset =
      ((applyStates c).buffers shaderType i).withOffset offset := by
    change _ = (BufferBinding.ofBuffer ((c.perShaderStates shaderType).buffers i)
      ((c.perShaderStates shaderType).bufferOffsets i)).withOffset offset
    cases (c.perShaderStates shaderType).buffers i with
    | none => rfl
    | some buffer => rfl
  rw [hbinding]

end Apply

/-! ## Textures and samplers -/

variable {maxRect : MTLScissorRect} {e : RenderCommandEncoder} {n : MTLRenderCommandEncoder}
  {hidden : BufferSlots}

theorem updateStage_buffers (c : RenderCommandEncoderStates) (shaderType : ShaderType)
    {change : RenderCommandEncoderShaderStates → RenderCommandEncoderShaderStates}
    (hbuffers : ∀ states, (change states).buffers = states.buffers)
    (hoffsets : ∀ states, (change states).bufferOffsets = states.bufferOffsets)
    (shaderType' : ShaderType) :
    ((updateStage c shaderType change).perShaderStates shaderType').buffers =
        (c.perShaderStates shaderType').buffers ∧
      ((updateStage c shaderType change).perShaderStates shaderType').bufferOffsets =
        (c.perShaderStates shaderType').bufferOffsets := by
  by_cases hne : shaderType' = shaderType
  · rw [hne, updateStage_self]
    exact ⟨hbuffers _, hoffsets _⟩
  · rw [updateStage_of_ne _ _ _ hne]
    exact ⟨rfl, rfl⟩

theorem passInv_setTexture (h : PassInv maxRect e n hidden) (shaderType : ShaderType)
    (texture : Option ObjectId) (i : Fin kMaxShaderSamplers) :
    PassInv maxRect (e.setTexture shaderType texture i) (n.setTexture shaderType texture i)
      hidden := by
  unfold setTexture
  rw [dif_pos i.isLt]
  by_cases hcached : (e.mStateCache.perShaderStates shaderType).textures i = texture
  · rw [if_pos hcached]
    refine h.skip { h.same with textures := ?_ } rfl
    -- the eager encoder already has the texture
    have hslot : n.textures shaderType i = texture := by
      rw [← h.same.textures, h.forwarded.textures, hcached]
    change e.effective.textures = setSlot n.textures shaderType i texture
    rw [h.same.textures, setSlot, ← hslot, update_eq_self, update_eq_self]
  · rw [if_neg hcached]
    refine h.update (effective_update (applyStates_setTexture _ _ _ _))
      { h.forwarded with samplers := ?_, textures := ?_ } { h.same with textures := ?_ } rfl rfl
      (updateStage_buffers _ _ (fun _ => rfl) fun _ => rfl)
    · intro shaderType'
      change e.effective.samplers shaderType' = _
      by_cases hne : shaderType' = shaderType
      · rw [hne, updateStage_self, h.forwarded.samplers]
        rfl
      · rw [updateStage_of_ne _ _ _ hne, h.forwarded.samplers]
    · intro shaderType'
      change setSlot e.effective.textures shaderType i texture shaderType' = _
      by_cases hne : shaderType' = shaderType
      · rw [hne, updateStage_self, setSlot, update_self, h.forwarded.textures]
      · rw [updateStage_of_ne _ _ _ hne, setSlot, update_of_ne hne, h.forwarded.textures]
    · change setSlot e.effective.textures shaderType i texture =
        setSlot n.textures shaderType i texture
      rw [h.same.textures]

theorem sameSampler_of_cached {states : RenderCommandEncoderShaderStates}
    {state : Option ObjectId} {lodMinClamp lodMaxClamp : FloatBits} {i : Fin kMaxShaderSamplers}
    (hcached : samplerCached states state lodMinClamp lodMaxClamp i) :
    SameSampler (appliedSamplers states i) (state.map (·, some (lodMinClamp, lodMaxClamp))) := by
  unfold samplerCached at hcached
  cases hclamps : states.samplerLodClamps i with
  | none => simp [hclamps] at hcached
  | some clamps =>
    simp only [hclamps, Bool.and_eq_true, beq_iff_eq] at hcached
    obtain ⟨⟨hstate, hmin⟩, hmax⟩ := hcached
    simp only [appliedSamplers, hstate, hclamps]
    cases state with
    | none => trivial
    | some s => exact ⟨rfl, FloatBits.same_of_eq hmin, FloatBits.same_of_eq hmax⟩

theorem passInv_setSamplerState (h : PassInv maxRect e n hidden) (shaderType : ShaderType)
    (state : Option ObjectId) (lodMinClamp lodMaxClamp : FloatBits) (i : Fin kMaxShaderSamplers) :
    PassInv maxRect (e.setSamplerState shaderType state lodMinClamp lodMaxClamp i)
      (n.setSamplerState shaderType state (some (lodMinClamp, lodMaxClamp)) i) hidden := by
  unfold setSamplerState
  rw [dif_pos i.isLt]
  by_cases hcached : samplerCached (e.mStateCache.perShaderStates shaderType) state lodMinClamp
      lodMaxClamp i
  · rw [if_pos hcached]
    refine h.skip { h.same with samplers := fun shaderType' j => ?_ } rfl
    change SameSampler (e.effective.samplers shaderType' j) (setSlot n.samplers shaderType i _
      shaderType' j)
    by_cases hslot : shaderType' = shaderType ∧ j = i
    · obtain ⟨rfl, rfl⟩ := hslot
      rw [setSlot_self, h.forwarded.samplers]
      exact sameSampler_of_cached hcached
    · rw [setSlot_of_ne hslot]
      exact h.same.samplers shaderType' j
  · rw [if_neg hcached]
    refine h.update (effective_update (applyStates_setSamplerState _ _ _ _ _))
      { h.forwarded with samplers := ?_, textures := ?_ } { h.same with samplers := ?_ } rfl rfl
      (updateStage_buffers _ _ (fun _ => rfl) fun _ => rfl)
    · intro shaderType'
      change setSlot e.effective.samplers shaderType i _ shaderType' = _
      by_cases hne : shaderType' = shaderType
      · rw [hne, updateStage_self, appliedSamplers_update, setSlot, update_self,
          h.forwarded.samplers]
      · rw [updateStage_of_ne _ _ _ hne, setSlot, update_of_ne hne, h.forwarded.samplers]
    · intro shaderType'
      change e.effective.textures shaderType' = _
      by_cases hne : shaderType' = shaderType
      · rw [hne, updateStage_self, h.forwarded.textures]
      · rw [updateStage_of_ne _ _ _ hne, h.forwarded.textures]
    · intro shaderType' j
      change SameSampler (setSlot e.effective.samplers shaderType i _ shaderType' j)
        (setSlot n.samplers shaderType i _ shaderType' j)
      by_cases hslot : shaderType' = shaderType ∧ j = i
      · obtain ⟨rfl, rfl⟩ := hslot
        rw [setSlot_self, setSlot_self]
        exact .refl _
      · rw [setSlot_of_ne hslot, setSlot_of_ne hslot]
        exact h.same.samplers shaderType' j

/-! ## Buffers and inline bytes -/

/-- Change one buffer slot: of the cache, of both native states and of the hidden slots. -/
theorem PassInv.updateBuffer {shaderType : ShaderType} {i : Fin kMaxShaderBuffers}
    {buffer : Option ObjectId} {offset : Nat} {binding binding' : BufferBinding}
    {isHidden : Bool} {forward : MTLRenderCommandEncoder → MTLRenderCommandEncoder}
    (h : PassInv maxRect e n hidden) (heffective : (e.update (updateStage · shaderType fun states =>
        { states with
          buffers := Function.update states.buffers i buffer
          bufferOffsets := Function.update states.bufferOffsets i offset }) forward).effective =
      { e.effective with buffers := setSlot e.effective.buffers shaderType i binding })
    (hslot : SlotInv buffer offset isHidden binding binding') :
    PassInv maxRect (e.update (updateStage · shaderType fun states =>
        { states with
          buffers := Function.update states.buffers i buffer
          bufferOffsets := Function.update states.bufferOffsets i offset }) forward)
      { n with buffers := setSlot n.buffers shaderType i binding' }
      (setSlot hidden shaderType i isHidden) where
  __ := h
  forwarded := by
    rw [heffective]
    refine { h.forwarded with samplers := fun shaderType' => ?_, textures := fun shaderType' => ?_ }
    · by_cases hne : shaderType' = shaderType
      · simp only [RenderCommandEncoder.update, hne, updateStage_self]
        exact h.forwarded.samplers shaderType
      · simp only [RenderCommandEncoder.update, updateStage_of_ne _ _ _ hne]
        exact h.forwarded.samplers shaderType'
    · by_cases hne : shaderType' = shaderType
      · simp only [RenderCommandEncoder.update, hne, updateStage_self]
        exact h.forwarded.textures shaderType
      · simp only [RenderCommandEncoder.update, updateStage_of_ne _ _ _ hne]
        exact h.forwarded.textures shaderType'
  same := by
    rw [heffective]
    exact { h.same with }
  slots := by
    intro shaderType' j
    rw [heffective]
    have hother := h.slots shaderType' j
    by_cases hstage : shaderType' = shaderType
    · subst hstage
      simp only [RenderCommandEncoder.update, updateStage_self]
      by_cases hj : j = i
      · subst hj
        simpa only [update_self, setSlot_self] using hslot
      · simpa only [update_of_ne hj, setSlot_of_ne fun heq => hj heq.2] using hother
    · simp only [RenderCommandEncoder.update, updateStage_of_ne _ _ _ hstage]
      simpa only [setSlot_of_ne fun heq => hstage heq.1] using hother

theorem PassInv.skipBuffer {shaderType : ShaderType} {i : Fin kMaxShaderBuffers}
    {binding' : BufferBinding} {isHidden : Bool} (h : PassInv maxRect e n hidden)
    (hslot : SlotInv ((e.mStateCache.perShaderStates shaderType).buffers i)
      ((e.mStateCache.perShaderStates shaderType).bufferOffsets i) isHidden
      (e.effective.buffers shaderType i) binding') :
    PassInv maxRect e { n with buffers := setSlot n.buffers shaderType i binding' }
      (setSlot hidden shaderType i isHidden) := by
  refine { h with same := { h.same with }, slots := fun shaderType' j => ?_ }
  by_cases heq : shaderType' = shaderType ∧ j = i
  · obtain ⟨rfl, rfl⟩ := heq
    simpa only [setSlot_self] using hslot
  · simpa only [setSlot_of_ne heq] using h.slots shaderType' j

section SlotInv

variable {cached buffer : Option ObjectId} {offset offset' : Nat} {isHidden : Bool}
  {d n' : BufferBinding}

/-- The early out: the cached binding is the given one, so the eager encoder sets what the slot
holds already, except over inline bytes. -/
theorem slotInv_earlyOut (h : SlotInv buffer offset isHidden d n') :
    SlotInv buffer offset (hiddenAfterSet buffer isHidden n') d (.ofBuffer buffer offset) := by
  cases buffer with
  | some id =>
      obtain ⟨-, rfl, -⟩ := h
      exact ⟨rfl, rfl, rfl⟩
  | none =>
    cases isHidden with
    | true => exact ⟨h.1, rfl⟩
    | false =>
        obtain ⟨rfl, hnot⟩ := h
        cases d with
        | bytes inlineData old => exact ⟨rfl, rfl⟩
        | unbound => exact ⟨rfl, fun _ _ => BufferBinding.noConfusion⟩
        | buffer id old => exact absurd rfl (hnot id old)

theorem slotInv_withOffset (h : SlotInv buffer offset isHidden d n') :
    SlotInv buffer offset' (hiddenAfterSet buffer isHidden n') (d.withOffset offset')
      (.ofBuffer buffer offset') := by
  cases buffer with
  | some id =>
      obtain ⟨-, rfl, -⟩ := h
      exact ⟨rfl, rfl, rfl⟩
  | none =>
    have hkind : (d.withOffset offset').isBytes = d.isBytes := by cases d <;> rfl
    cases isHidden with
    | true => exact ⟨hkind.trans h.1, rfl⟩
    | false =>
        obtain ⟨rfl, hnot⟩ := h
        cases d with
        | bytes inlineData old => exact ⟨rfl, rfl⟩
        | unbound => exact ⟨rfl, fun _ _ => BufferBinding.noConfusion⟩
        | buffer id old => exact absurd rfl (hnot id old)

theorem slotInv_forwarded (h : SlotInv cached offset isHidden d n') (hne : cached ≠ buffer) :
    SlotInv buffer offset' (hiddenAfterSet buffer isHidden n') (.ofBuffer buffer offset')
      (.ofBuffer buffer offset') := by
  cases buffer with
  | some id => exact ⟨rfl, rfl, rfl⟩
  | none =>
      cases cached with
      | none => exact absurd rfl hne
      | some id =>
          obtain ⟨rfl, -, rfl⟩ := h
          exact ⟨rfl, fun _ _ => BufferBinding.noConfusion⟩

end SlotInv

theorem passInv_commonSetBuffer (h : PassInv maxRect e n hidden) (shaderType : ShaderType)
    (buffer : Option ObjectId) (offset : Nat) (i : Fin kMaxShaderBuffers) :
    PassInv maxRect (e.commonSetBuffer shaderType buffer offset i)
      (n.setBuffer shaderType buffer offset i) (setSlot hidden shaderType i
        (hiddenAfterSet buffer (hidden shaderType i) (n.buffers shaderType i))) := by
  have hslot := h.slots shaderType i
  unfold commonSetBuffer
  by_cases hbuffer : (e.mStateCache.perShaderStates shaderType).buffers i = buffer
  · by_cases hoffset : (e.mStateCache.perShaderStates shaderType).bufferOffsets i = offset
    · rw [if_pos hbuffer, if_pos hoffset]
      subst hbuffer hoffset
      exact h.skipBuffer (slotInv_earlyOut hslot)
    · rw [if_pos hbuffer, if_neg hoffset]
      have hupdate : e.update (updateStage · shaderType fun states =>
            { states with bufferOffsets := Function.update states.bufferOffsets i offset })
            (·.setBufferOffset shaderType offset i) =
          e.update (updateStage · shaderType fun states =>
            { states with
              buffers := Function.update states.buffers i buffer
              bufferOffsets := Function.update states.bufferOffsets i offset })
            (·.setBufferOffset shaderType offset i) := by
        simp [RenderCommandEncoder.update, updateStage_offset, hbuffer]
      have heffective : (e.update (updateStage · shaderType fun states =>
            { states with bufferOffsets := Function.update states.bufferOffsets i offset })
            (·.setBufferOffset shaderType offset i)).effective =
          e.effective.setBufferOffset shaderType offset i :=
        effective_update (applyStates_setBufferOffset _ _ _ _)
      rw [hupdate] at heffective ⊢
      subst hbuffer
      exact h.updateBuffer heffective (slotInv_withOffset hslot)
  · rw [if_neg hbuffer]
    exact h.updateBuffer (effective_update (applyStates_setBuffer _ _ _ _ _))
      (slotInv_forwarded hslot hbuffer)

theorem passInv_setBytes (h : PassInv maxRect e n hidden) (shaderType : ShaderType)
    (bytes : List UInt8) (i : Fin kMaxShaderBuffers) :
    PassInv maxRect (e.setBytes shaderType bytes i) (n.setBytes shaderType bytes i)
      (setSlot hidden shaderType i false) := by
  have hget := get_ensureMetalEncoderStarted (e := e)
  have hslot : SlotInv none 0 false (.bytes bytes 0) (.bytes bytes 0) :=
    ⟨rfl, fun _ _ => BufferBinding.noConfusion⟩
  unfold setBytes
  rw [dif_pos i.isLt]
  refine h.ensureMetalEncoderStarted.updateBuffer ?_ hslot
  simp only [effective, RenderCommandEncoder.update, hget, map_some, getD_some]
  rfl

/-! ## Whole passes -/

section

variable (h : PassInv maxRect e n hidden)
include h

/-- One command keeps the invariant, with the eager encoder and the hidden slots following. -/
theorem passInv_exec (c : RenderCommand) :
    PassInv maxRect (e.exec c) (n.forward maxRect c) (hiddenAfter n hidden c) := by
  cases c with
  | setRenderPipelineState state => exact passInv_setRenderPipelineState h state
  | setTriangleFillMode mode => exact passInv_setTriangleFillMode h mode
  | setFrontFacingWinding winding => exact passInv_setFrontFacingWinding h winding
  | setCullMode mode => exact passInv_setCullMode h mode
  | setDepthStencilState state => exact passInv_setDepthStencilState h state
  | setDepthBias depthBias slopeScale clamp =>
      exact passInv_setDepthBias h depthBias slopeScale clamp
  | setStencilRefVals frontRef backRef => exact passInv_setStencilRefVals h frontRef backRef
  | setStencilRefVal ref => exact passInv_setStencilRefVals h ref ref
  | setViewport viewport => exact passInv_setViewport h viewport
  | setScissorRect rect => exact passInv_setScissorRect h rect
  | setBlendColor color => exact passInv_setBlendColor h color
  | setVisibilityResultMode mode offset => exact passInv_setVisibilityResultMode h mode offset
  | setBuffer shaderType buffer offset index =>
      by_cases hindex : index < kMaxShaderBuffers
      · simp only [exec, setBuffer, forward, hiddenAfter, dif_pos hindex]
        exact passInv_commonSetBuffer h shaderType buffer offset ⟨index, hindex⟩
      · simp only [exec, setBuffer, forward, hiddenAfter, dif_neg hindex]
        exact h
  | setBytes shaderType bytes index =>
      by_cases hindex : index < kMaxShaderBuffers
      · simp only [exec, forward, hiddenAfter, dif_pos hindex]
        exact passInv_setBytes h shaderType bytes ⟨index, hindex⟩
      · simp only [exec, setBytes, forward, hiddenAfter, dif_neg hindex]
        exact h
  | setSamplerState shaderType state lodMinClamp lodMaxClamp index =>
    by_cases hindex : index < kMaxShaderSamplers
    · simp only [exec, forward, hiddenAfter, dif_pos hindex]
      exact passInv_setSamplerState h shaderType state lodMinClamp lodMaxClamp ⟨index, hindex⟩
    · simp only [exec, setSamplerState, forward, hiddenAfter,
        dif_neg hindex]
      exact h
  | setTexture shaderType texture index =>
      by_cases hindex : index < kMaxShaderSamplers
      · simp only [exec, forward, hiddenAfter, dif_pos hindex]
        exact passInv_setTexture h shaderType texture ⟨index, hindex⟩
      · simp only [exec, setTexture, forward, hiddenAfter, dif_neg hindex]
        exact h
  | useResource resource =>
      simp only [exec, forward, hiddenAfter]
      split
      · exact h.ensureMetalEncoderStarted
      · exact h
  | draw call =>
      simp only [exec, forward, hiddenAfter]
      split
      · exact h
      · exact h.ensureMetalEncoderStarted

/-- A draw sees the eager state exactly when no slot is unbound over inline bytes. -/
theorem sameDraw_iff (call : DrawCall) :
    SameDraw (call, e.effective) (call, n) ↔ ∀ shaderType i, hidden shaderType i = false := by
  constructor
  · rintro ⟨-, -, hbuffers⟩ shaderType i
    have hslot := h.slots shaderType i
    rw [hbuffers] at hslot
    cases hbuffer : (e.mStateCache.perShaderStates shaderType).buffers i with
    | some id =>
        rw [hbuffer] at hslot
        exact hslot.1
    | none =>
      rw [hbuffer] at hslot
      cases hhidden : hidden shaderType i with
      | false => rfl
      | true =>
          rw [hhidden] at hslot
          obtain ⟨hbytes, hunbound⟩ := hslot
          rw [hunbound] at hbytes
          contradiction
  · intro hnone
    refine ⟨rfl, h.same, ?_⟩
    funext shaderType i
    have hslot := h.slots shaderType i
    rw [hnone shaderType i] at hslot
    cases hbuffer : (e.mStateCache.perShaderStates shaderType).buffers i with
    | some id =>
        rw [hbuffer] at hslot
        exact hslot.2.1.trans hslot.2.2.symm
    | none =>
        rw [hbuffer] at hslot
        exact hslot.1

theorem draws_iff_of_passInv (cs : List RenderCommand) :
    List.Forall₂ SameDraw (e.draws cs) (eagerDraws maxRect n cs) ↔
      NoDrawOverHidden maxRect n hidden cs := by
  induction cs generalizing e n hidden with
  | nil => exact ⟨fun _ => trivial, fun _ => .nil⟩
  | cons c cs ih =>
    have hrest := ih (passInv_exec h c)
    cases c with
    | draw call =>
      cases hignored : call.isIgnored with
      | true =>
          simp only [draws, drawn, hignored, if_true, toList_none, List.nil_append,
            eagerDraws, NoDrawOverHidden, RenderCommand.isDraw, Bool.not_true,
            Bool.false_eq_true, false_implies, true_and]
          exact hrest
      | false =>
        simp only [draws, drawn, hignored, get_ensureMetalEncoderStarted, map_some,
          toList_some, List.singleton_append, eagerDraws, NoDrawOverHidden,
          RenderCommand.isDraw, Bool.not_false, forall_const, List.forall₂_cons,
          Bool.false_eq_true, if_false]
        rw [sameDraw_iff h call]
        exact and_congr_right fun _ => hrest
    | _ =>
        simp only [draws, drawn, toList_none, List.nil_append, eagerDraws,
          NoDrawOverHidden, RenderCommand.isDraw, Bool.false_eq_true, false_implies, true_and]
        exact hrest

end

def startPass (desc : RenderPassDesc) : RenderCommandEncoder :=
  ({} : RenderCommandEncoder).restart true desc

theorem passInv_startPass (desc : RenderPassDesc) :
    PassInv (maxScissorRect desc) (startPass desc) {} fun _ _ => false := by
  have heffective : (startPass desc).effective = {} := rfl
  refine ⟨rfl, heffective ▸ ?_, heffective ▸ ?_, ?_⟩
  · exact {
      renderPipelineState := rfl, triangleFillMode := rfl, frontFacingWinding := rfl
      cullMode := rfl, depthStencilState := rfl, depthBias := rfl, depthSlopeScale := rfl
      depthBiasClamp := rfl, stencilFront := rfl, stencilBack := rfl, viewport := rfl
      scissorRect := rfl, blendColor := rfl, visibilityMode := rfl
      visibilityOffset := fun _ => rfl, samplers := fun _ => rfl, textures := fun _ => rfl }
  · exact {
      renderPipelineState := rfl, triangleFillMode := rfl, frontFacingWinding := rfl
      cullMode := rfl, depthStencilState := rfl, depthBias := .refl _, depthSlopeScale := .refl _
      depthBiasClamp := .refl _, stencilFront := rfl, stencilBack := rfl, viewport := rfl
      scissorRect := rfl, blendColor := fun _ => .refl _, visibilityMode := rfl
      visibilityOffset := fun _ => rfl, samplers := fun _ _ => .refl _, textures := rfl }
  · exact fun _ _ => ⟨rfl, fun _ _ => BufferBinding.noConfusion⟩

/-- Over every sequence of calls of one render pass, the deferred encoder issues the draws of
the eager one with the same native state in force at each of them, exactly when no draw is
issued while a buffer slot is set to a null buffer over inline bytes. -/
theorem draws_same_iff (desc : RenderPassDesc) (cs : List RenderCommand) :
    List.Forall₂ SameDraw ((startPass desc).draws cs) (eagerDraws (maxScissorRect desc) {} cs) ↔
      NoDrawOverHidden (maxScissorRect desc) {} (fun _ _ => false) cs :=
  draws_iff_of_passInv (passInv_startPass desc) cs

/-- A vertex slot is given inline bytes, then a null buffer, then a draw is issued: the native
slot still holds the bytes, where the eager encoder has unbound it. -/
theorem not_sameDraws_null_over_bytes :
    ¬ List.Forall₂ SameDraw ((startPass {}).draws
        [.setBytes .Vertex [1, 2, 3, 4] 0, .setBuffer .Vertex none 0 0, .draw (.draw 3 0 3)])
      (eagerDraws (maxScissorRect {}) {}
        [.setBytes .Vertex [1, 2, 3, 4] 0, .setBuffer .Vertex none 0 0, .draw (.draw 3 0 3)]) := by
  rintro (_ | ⟨⟨-, -, hbuffers⟩, -⟩)
  exact absurd (congrFun (congrFun hbuffers .Vertex) ⟨0, by decide⟩) (by decide)

end RenderCommandEncoder

end MetalAngle.Metal
