import MetalAngle.Gl.VertexArray

/-!
# Well-formed vertex arrays

The masks of the bindings partition the attributes, and an attribute is in client memory exactly when
its binding has no buffer.  Calls and messages keep a vertex array so.
-/

namespace MetalAngle.Gl.Bindings

open Observers

/-! ## Buffers -/

/-- The same names, contents, sizes and maps. -/
structure SameStorage (buffers buffers' : Buffers) : Prop where
  id : ∀ p, (buffers' p).id = (buffers p).id
  contents : ∀ p, (buffers' p).contents = (buffers p).contents
  size : ∀ p, (buffers' p).mSize = (buffers p).mSize
  mapped : ∀ p, (buffers' p).mMapped = (buffers p).mMapped

theorem SameStorage.refl (buffers : Buffers) : SameStorage buffers buffers :=
  ⟨fun _ => rfl, fun _ => rfl, fun _ => rfl, fun _ => rfl⟩

theorem SameStorage.trans {buffers buffers' buffers'' : Buffers} (h : SameStorage buffers buffers')
    (h' : SameStorage buffers' buffers'') : SameStorage buffers buffers'' where
  id p := (h'.id p).trans (h.id p)
  contents p := (h'.contents p).trans (h.contents p)
  size p := (h'.size p).trans (h.size p)
  mapped p := (h'.mapped p).trans (h.mapped p)

theorem computeElementLimit_congr {buffers buffers' : Buffers}
    (h : ∀ p, (buffers' p).mSize = (buffers p).mSize) (attrib : VertexAttribute)
    (binding : VertexBinding) :
    computeElementLimit buffers' attrib binding = computeElementLimit buffers attrib binding := by
  unfold computeElementLimit
  cases binding.mBuffer with
  | none => rfl
  | some p =>
      dsimp only
      rw [h p]

theorem VertexArray.updateCachedBufferBindingSize_congr {buffers buffers' : Buffers}
    (h : ∀ p, (buffers' p).mSize = (buffers p).mSize) (vao : VertexArray) (b : AttribIndex) :
    vao.updateCachedBufferBindingSize buffers' b = vao.updateCachedBufferBindingSize buffers b := by
  unfold updateCachedBufferBindingSize updateCachedElementLimits
    VertexAttribute.updateCachedElementLimit
  simp [computeElementLimit_congr h]

/-! ## Messages -/

namespace VertexArray

variable {vao vao' : VertexArray} {buffers : Buffers}

/-- A vertex array after messages: caches apart it is as before. -/
structure Told (vao vao' : VertexArray) : Prop where
  attributes : ∀ i, ∃ limit, vao'.mVertexAttributes i =
    { vao.mVertexAttributes i with mCachedElementLimit := limit }
  elementArrayBuffer : vao'.mElementArrayBuffer = vao.mElementArrayBuffer
  bindings : vao'.mVertexBindings = vao.mVertexBindings
  enabledMask : vao'.mEnabledAttributesMask = vao.mEnabledAttributesMask
  clientMask : vao'.mClientMemoryAttribsMask = vao.mClientMemoryAttribsMask
  validation : vao'.mBufferAccessValidationEnabled = vao.mBufferAccessValidationEnabled

theorem Told.of_attributes_eq (hattributes : vao'.mVertexAttributes = vao.mVertexAttributes)
    (helement : vao'.mElementArrayBuffer = vao.mElementArrayBuffer)
    (hbindings : vao'.mVertexBindings = vao.mVertexBindings)
    (henabled : vao'.mEnabledAttributesMask = vao.mEnabledAttributesMask)
    (hclient : vao'.mClientMemoryAttribsMask = vao.mClientMemoryAttribsMask)
    (hvalidation : vao'.mBufferAccessValidationEnabled = vao.mBufferAccessValidationEnabled) :
    Told vao vao' where
  attributes i := ⟨_, congrFun hattributes i⟩
  elementArrayBuffer := helement
  bindings := hbindings
  enabledMask := henabled
  clientMask := hclient
  validation := hvalidation

theorem Told.refl (vao : VertexArray) : Told vao vao :=
  .of_attributes_eq rfl rfl rfl rfl rfl rfl

theorem Told.trans {vao'' : VertexArray} (h : Told vao vao') (h' : Told vao' vao'') :
    Told vao vao'' where
  attributes i := by
    obtain ⟨limit, hlimit⟩ := h.attributes i
    obtain ⟨limit', hlimit'⟩ := h'.attributes i
    exact ⟨limit', by rw [hlimit', hlimit]⟩
  elementArrayBuffer := h'.elementArrayBuffer.trans h.elementArrayBuffer
  bindings := h'.bindings.trans h.bindings
  enabledMask := h'.enabledMask.trans h.enabledMask
  clientMask := h'.clientMask.trans h.clientMask
  validation := h'.validation.trans h.validation

theorem Told.bindingIndex (h : Told vao vao') (i : AttribIndex) :
    (vao'.mVertexAttributes i).bindingIndex = (vao.mVertexAttributes i).bindingIndex := by
  obtain ⟨limit, hlimit⟩ := h.attributes i
  rw [hlimit]

theorem Told.enabled (h : Told vao vao') (i : AttribIndex) :
    (vao'.mVertexAttributes i).enabled = (vao.mVertexAttributes i).enabled := by
  obtain ⟨limit, hlimit⟩ := h.attributes i
  rw [hlimit]

theorem updateCachedElementLimits_told (b : AttribIndex) :
    Told vao (vao.updateCachedElementLimits buffers b) where
  attributes i := by
    unfold updateCachedElementLimits
    dsimp only
    split
    · exact ⟨_, rfl⟩
    · exact ⟨_, rfl⟩
  elementArrayBuffer := rfl
  bindings := rfl
  enabledMask := rfl
  clientMask := rfl
  validation := rfl

theorem updateCachedBufferBindingSize_told (b : AttribIndex) :
    Told vao (vao.updateCachedBufferBindingSize buffers b) := by
  unfold updateCachedBufferBindingSize
  split
  · exact updateCachedElementLimits_told b
  · exact .refl vao

theorem setDependentDirtyBit_told (index : SubjectIndex) :
    Told vao (vao.setDependentDirtyBit index) := by
  cases index with
  | vertexBuffer b => exact .refl vao
  | elementArrayBuffer => exact .of_attributes_eq rfl rfl rfl rfl rfl rfl

theorem updateCachedMappedArrayBuffersBinding_told (b : AttribIndex) :
    Told vao (vao.updateCachedMappedArrayBuffersBinding buffers b) :=
  .of_attributes_eq rfl rfl rfl rfl rfl rfl

theorem updateCachedTransformFeedbackBindingValidation_told (b : AttribIndex) :
    Told vao (vao.updateCachedTransformFeedbackBindingValidation buffers b) :=
  .of_attributes_eq rfl rfl rfl rfl rfl rfl

theorem onSubjectStateChange_told (index : SubjectIndex) (message : SubjectMessage) :
    Told vao (vao.onSubjectStateChange buffers index message) := by
  cases message with
  | BindingChanged =>
      cases index with
      | vertexBuffer b => exact updateCachedTransformFeedbackBindingValidation_told b
      | elementArrayBuffer => exact .refl vao
  | ContentsChanged => exact setDependentDirtyBit_told index
  | SubjectChanged =>
      cases index with
      | vertexBuffer b => exact updateCachedBufferBindingSize_told b
      | elementArrayBuffer => exact setDependentDirtyBit_told .elementArrayBuffer
  | SubjectMapped =>
      cases index with
      | vertexBuffer b => exact updateCachedMappedArrayBuffersBinding_told b
      | elementArrayBuffer => exact .refl vao
  | SubjectUnmapped =>
      cases index with
      | vertexBuffer b => exact updateCachedMappedArrayBuffersBinding_told b
      | elementArrayBuffer => exact setDependentDirtyBit_told .elementArrayBuffer

/-! ## Well-formed vertex arrays -/

structure WellFormed (vao : VertexArray) : Prop where
  boundAttributes : ∀ b i, (vao.mVertexBindings b).mBoundAttributesMask i ↔
    (vao.mVertexAttributes i).bindingIndex = b
  clientMemory : ∀ i, vao.mClientMemoryAttribsMask i ↔
    (vao.mVertexBindings (vao.mVertexAttributes i).bindingIndex).mBuffer = none
  enabled : ∀ i, (vao.mVertexAttributes i).enabled = vao.mEnabledAttributesMask i
  enabledMapped : ∀ i, vao.mCachedEnabledMappedArrayBuffers i =
    (vao.mCachedMappedArrayBuffers i && vao.mEnabledAttributesMask i)

theorem wellFormed_new (validation : Bool) (cache : RangeCache) : (new validation cache).WellFormed
    where
  boundAttributes b i := by simp [new]
  clientMemory i := by simp [new]
  enabled i := rfl
  enabledMapped i := rfl

section

variable (h : vao.WellFormed)
include h

theorem WellFormed.of_eq (hindex : ∀ i, (vao'.mVertexAttributes i).bindingIndex = (vao.mVertexAttributes i).bindingIndex)
    (henabled : ∀ i, (vao'.mVertexAttributes i).enabled = (vao.mVertexAttributes i).enabled)
    (hbound : ∀ b, (vao'.mVertexBindings b).mBoundAttributesMask =
      (vao.mVertexBindings b).mBoundAttributesMask)
    (hbuffer : ∀ b, (vao'.mVertexBindings b).mBuffer = (vao.mVertexBindings b).mBuffer)
    (henabledMask : vao'.mEnabledAttributesMask = vao.mEnabledAttributesMask)
    (hclient : vao'.mClientMemoryAttribsMask = vao.mClientMemoryAttribsMask)
    (hmapped : ∀ i, vao'.mCachedEnabledMappedArrayBuffers i =
      (vao'.mCachedMappedArrayBuffers i && vao'.mEnabledAttributesMask i)) : vao'.WellFormed where
  boundAttributes b i := by rw [hbound, hindex, h.boundAttributes]
  clientMemory i := by rw [hbuffer, hindex, hclient, h.clientMemory]
  enabled i := by rw [henabled, henabledMask, h.enabled]
  enabledMapped := hmapped

/-- Messages keep a vertex array well formed when they keep the mapped attributes that are
enabled. -/
theorem WellFormed.told (htold : Told vao vao')
    (hmapped : ∀ i, vao'.mCachedEnabledMappedArrayBuffers i =
      (vao'.mCachedMappedArrayBuffers i && vao'.mEnabledAttributesMask i)) : vao'.WellFormed :=
  h.of_eq htold.bindingIndex htold.enabled (fun b => by rw [htold.bindings])
    (fun b => by rw [htold.bindings]) htold.enabledMask htold.clientMask hmapped

theorem WellFormed.updateCachedElementLimits (b : AttribIndex) :
    (vao.updateCachedElementLimits buffers b).WellFormed :=
  h.told (updateCachedElementLimits_told b) h.enabledMapped

theorem WellFormed.updateCachedBufferBindingSize (b : AttribIndex) :
    (vao.updateCachedBufferBindingSize buffers b).WellFormed := by
  unfold VertexArray.updateCachedBufferBindingSize
  split
  · exact h.updateCachedElementLimits b
  · exact h

theorem WellFormed.setDependentDirtyBit (index : SubjectIndex) :
    (vao.setDependentDirtyBit index).WellFormed := by
  cases index with
  | vertexBuffer b => exact h
  | elementArrayBuffer =>
      exact h.told (setDependentDirtyBit_told .elementArrayBuffer) h.enabledMapped

theorem WellFormed.onSubjectStateChange (index : SubjectIndex)
    (message : SubjectMessage) : (vao.onSubjectStateChange buffers index message).WellFormed := by
  have htold : Told vao (vao.onSubjectStateChange buffers index message) :=
    onSubjectStateChange_told index message
  cases message with
  | BindingChanged =>
      cases index with
      | vertexBuffer b => exact h.told htold h.enabledMapped
      | elementArrayBuffer => exact h
  | ContentsChanged => exact h.setDependentDirtyBit index
  | SubjectChanged =>
      cases index with
      | vertexBuffer b => exact h.updateCachedBufferBindingSize b
      | elementArrayBuffer => exact h.setDependentDirtyBit .elementArrayBuffer
  | SubjectMapped =>
      cases index with
      | vertexBuffer b => exact h.told htold fun _ => rfl
      | elementArrayBuffer => exact h
  | SubjectUnmapped =>
      cases index with
      | vertexBuffer b => exact h.told htold fun _ => rfl
      | elementArrayBuffer => exact h.setDependentDirtyBit .elementArrayBuffer

end

/-! ## Calls -/

/-- The same buffers are bound. -/
structure SameBuffers (vao vao' : VertexArray) : Prop where
  elementArrayBuffer : vao'.mElementArrayBuffer = vao.mElementArrayBuffer
  vertexBuffer : ∀ b, (vao'.mVertexBindings b).mBuffer = (vao.mVertexBindings b).mBuffer

theorem SameBuffers.refl (vao : VertexArray) : SameBuffers vao vao := ⟨rfl, fun _ => rfl⟩

theorem SameBuffers.trans {vao'' : VertexArray} (h : SameBuffers vao vao')
    (h' : SameBuffers vao' vao'') : SameBuffers vao vao'' :=
  ⟨h'.elementArrayBuffer.trans h.elementArrayBuffer,
    fun b => (h'.vertexBuffer b).trans (h.vertexBuffer b)⟩

theorem Told.sameBuffers (h : Told vao vao') : SameBuffers vao vao' :=
  ⟨h.elementArrayBuffer, fun b => by rw [h.bindings]⟩

@[simp] theorem setBinding_bindings (b : AttribIndex) (binding : VertexBinding) :
    (vao.setBinding b binding).mVertexBindings = Function.update vao.mVertexBindings b binding :=
  rfl

@[simp] theorem setAttribute_bindings (i : AttribIndex) (attrib : VertexAttribute) :
    (vao.setAttribute i attrib).mVertexBindings = vao.mVertexBindings := rfl

@[simp] theorem setBinding_attributes (b : AttribIndex) (binding : VertexBinding) :
    (vao.setBinding b binding).mVertexAttributes = vao.mVertexAttributes := rfl

@[simp] theorem setAttribute_attributes (i : AttribIndex) (attrib : VertexAttribute) :
    (vao.setAttribute i attrib).mVertexAttributes =
      Function.update vao.mVertexAttributes i attrib := rfl

theorem setBinding_sameBuffers {b : AttribIndex} {binding : VertexBinding}
    (hbinding : binding.mBuffer = (vao.mVertexBindings b).mBuffer) :
    SameBuffers vao (vao.setBinding b binding) := by
  refine ⟨rfl, fun b' => ?_⟩
  by_cases hb : b' = b
  · subst hb
    simpa using hbinding
  · simp [hb]

theorem setAttribBinding_sameBuffers (i b : AttribIndex) :
    SameBuffers vao (vao.setAttribBinding buffers i b) := by
  refine ⟨rfl, fun b' => ?_⟩
  unfold setAttribBinding
  by_cases hb : b' = b
  · subst hb
    simp
  · by_cases hfrom : b' = (vao.mVertexAttributes i).bindingIndex
    · subst hfrom
      simp [hb]
    · simp [hb, hfrom]

theorem setVertexAttribBinding_sameBuffers (i b : AttribIndex) :
    SameBuffers vao (vao.setVertexAttribBinding buffers i b) := by
  unfold setVertexAttribBinding
  split
  · have hset : SameBuffers vao (vao.setAttribBinding buffers i b) :=
      setAttribBinding_sameBuffers i b
    exact ⟨rfl, hset.vertexBuffer⟩
  · exact .refl vao

theorem WellFormed.setVertexAttribBinding (h : vao.WellFormed) (i b : AttribIndex) :
    (vao.setVertexAttribBinding buffers i b).WellFormed := by
  have hsame : SameBuffers vao (vao.setVertexAttribBinding buffers i b) :=
    setVertexAttribBinding_sameBuffers i b
  have hbuffers := hsame.vertexBuffer
  clear hsame
  revert hbuffers
  unfold VertexArray.setVertexAttribBinding
  split
  case isFalse => exact fun _ => h
  case isTrue hne =>
    intro hbuffers
    have hattribute : ∀ j, ((vao.setAttribBinding buffers i b).mVertexAttributes j).bindingIndex =
          (if j = i then b else (vao.mVertexAttributes j).bindingIndex) ∧
        ((vao.setAttribBinding buffers i b).mVertexAttributes j).enabled =
          (vao.mVertexAttributes j).enabled := by
      intro j
      unfold setAttribBinding setAttribute setBinding
      by_cases hj : j = i
      · subst hj
        dsimp only
        rw [Function.update_self]
        split <;> simp [VertexAttribute.updateCachedElementLimit]
      · simp [hj]
    have hclient : (vao.setAttribBinding buffers i b).mClientMemoryAttribsMask =
        vao.mClientMemoryAttribsMask := rfl
    constructor
    case boundAttributes =>
      intro b' j
      dsimp only
      rw [(hattribute j).1]
      have hold := h.boundAttributes b' j
      unfold setAttribBinding setAttribute setBinding
      dsimp only
      by_cases hb : b' = b
      · subst hb
        by_cases hj : j = i <;> simp [hj, hold]
      · by_cases hfrom : b' = (vao.mVertexAttributes i).bindingIndex
        · subst hfrom
          by_cases hj : j = i
          · simp [hb, hj, Ne.symm hb]
          · simp [hb, hj, hold]
        · by_cases hj : j = i
          · subst hj
            simp [hb, hfrom, hold, Ne.symm hb, Ne.symm hfrom]
          · simp [hb, hfrom, hj, hold]
    case clientMemory =>
      intro j
      rw [hbuffers]
      dsimp only
      rw [(hattribute j).1]
      by_cases hj : j = i
      · subst hj
        simp
      · simpa [hj, hclient] using h.clientMemory j
    case enabled =>
      intro j
      exact (hattribute j).2.trans (h.enabled j)
    case enabledMapped =>
      intro j
      unfold setAttribBinding setAttribute setBinding
      by_cases hj : j = i
      · subst hj
        simp [h.enabled j]
      · simpa [hj] using h.enabledMapped j

theorem setDivisor_sameBuffers (b : AttribIndex) (divisor : Nat) :
    SameBuffers vao (vao.setBinding b { vao.mVertexBindings b with mDivisor := divisor }) :=
  setBinding_sameBuffers rfl

theorem setVertexBindingDivisor_sameBuffers (b : AttribIndex) (divisor : Nat) :
    SameBuffers vao (vao.setVertexBindingDivisor buffers b divisor) :=
  (setDivisor_sameBuffers b divisor).trans (updateCachedElementLimits_told b).sameBuffers

theorem WellFormed.setDivisor (h : vao.WellFormed) (b : AttribIndex) (divisor : Nat) :
    (vao.setBinding b { vao.mVertexBindings b with mDivisor := divisor }).WellFormed := by
  refine h.of_eq (fun _ => rfl) (fun _ => rfl) (fun b' => ?_)
    (setDivisor_sameBuffers b divisor).vertexBuffer rfl rfl h.enabledMapped
  by_cases hb : b' = b
  · subst hb
    simp
  · simp [hb]

theorem WellFormed.setVertexBindingDivisor (h : vao.WellFormed) (b : AttribIndex)
    (divisor : Nat) : (vao.setVertexBindingDivisor buffers b divisor).WellFormed :=
  (h.setDivisor b divisor).updateCachedElementLimits b

theorem setAttribute_eq_self (i : AttribIndex) (attrib : VertexAttribute) :
    SameBuffers vao (vao.setAttribute i attrib) := ⟨rfl, fun _ => rfl⟩

theorem WellFormed.setAttribute (h : vao.WellFormed) {i : AttribIndex} {attrib : VertexAttribute}
    (hindex : attrib.bindingIndex = (vao.mVertexAttributes i).bindingIndex)
    (henabled : attrib.enabled = (vao.mVertexAttributes i).enabled) :
    (vao.setAttribute i attrib).WellFormed := by
  refine h.of_eq (fun j => ?_) (fun j => ?_) (fun _ => rfl) (fun _ => rfl) rfl rfl h.enabledMapped
  · by_cases hj : j = i
    · subst hj
      simpa using hindex
    · simp [hj]
  · by_cases hj : j = i
    · subst hj
      simpa using henabled
    · simp [hj]

theorem setVertexAttribFormatImpl_sameBuffers (i : AttribIndex) (format : FormatID)
    (relativeOffset : Nat) :
    SameBuffers vao (vao.setVertexAttribFormatImpl i format relativeOffset) := by
  unfold setVertexAttribFormatImpl
  dsimp only
  split
  · exact setAttribute_eq_self i _
  · exact .refl vao

theorem WellFormed.setVertexAttribFormatImpl (h : vao.WellFormed) (i : AttribIndex)
    (format : FormatID) (relativeOffset : Nat) :
    (vao.setVertexAttribFormatImpl i format relativeOffset).WellFormed := by
  unfold VertexArray.setVertexAttribFormatImpl
  dsimp only
  split
  · exact h.setAttribute rfl rfl
  · exact h

theorem setVertexAttribFormat_sameBuffers (i : AttribIndex) (format : FormatID)
    (relativeOffset : Nat) :
    SameBuffers vao (vao.setVertexAttribFormat buffers i format relativeOffset) :=
  (setVertexAttribFormatImpl_sameBuffers i format relativeOffset).trans (setAttribute_eq_self i _)

theorem WellFormed.setVertexAttribFormat (h : vao.WellFormed) (i : AttribIndex)
    (format : FormatID) (relativeOffset : Nat) :
    (vao.setVertexAttribFormat buffers i format relativeOffset).WellFormed :=
  (h.setVertexAttribFormatImpl i format relativeOffset).setAttribute rfl rfl

theorem enableAttribute_sameBuffers (i : AttribIndex) (enabledState : Bool) :
    SameBuffers vao (vao.enableAttribute i enabledState) := by
  unfold enableAttribute
  split
  · exact .refl vao
  · exact ⟨rfl, fun _ => rfl⟩

theorem WellFormed.enableAttribute (h : vao.WellFormed) (i : AttribIndex) (enabledState : Bool) :
    (vao.enableAttribute i enabledState).WellFormed := by
  unfold VertexArray.enableAttribute VertexArray.setAttribute
  split
  case isTrue => exact h
  case isFalse =>
    constructor
    case boundAttributes =>
      intro b j
      have hold := h.boundAttributes b j
      by_cases hj : j = i
      · subst hj
        simpa using hold
      · simpa [hj] using hold
    case clientMemory =>
      intro j
      have hold := h.clientMemory j
      by_cases hj : j = i
      · subst hj
        simpa using hold
      · simpa [hj] using hold
    case enabled =>
      intro j
      by_cases hj : j = i
      · subst hj
        simp
      · simpa [hj] using h.enabled j
    case enabledMapped => exact fun _ => rfl

def rebindBuffer (vao : VertexArray) (b : AttribIndex) (boundBuffer : Option BufferPtr)
    (offset : Int) (stride : Nat) : VertexArray :=
  vao.setBinding b { vao.mVertexBindings b with
    mBuffer := boundBuffer, mOffset := offset, mStride := stride }

/-- What `bindVertexBufferImpl` does to the vertex array. -/
def bindBuffer (vao : VertexArray) (buffers : Buffers) (b : AttribIndex)
    (boundBuffer : Option BufferPtr) (offset : Int) (stride : Nat) : VertexArray :=
  let boundAttributesMask := (vao.mVertexBindings b).mBoundAttributesMask
  ((((vao.rebindBuffer b boundBuffer offset stride).updateCachedBufferBindingSize buffers
    b).updateCachedTransformFeedbackBindingValidation buffers b).setClientMemory
      boundBuffer.isNone boundAttributesMask).updateCachedMappedArrayBuffers
        (isMapped buffers boundBuffer) boundAttributesMask

variable (buffers) (b : AttribIndex) (boundBuffer : Option BufferPtr) (offset : Int) (stride : Nat)

theorem bindBuffer_told : Told (vao.rebindBuffer b boundBuffer offset stride)
    ((vao.rebindBuffer b boundBuffer offset stride).updateCachedBufferBindingSize buffers b) :=
  updateCachedBufferBindingSize_told b

theorem bindBuffer_bindings :
    (vao.bindBuffer buffers b boundBuffer offset stride).mVertexBindings =
      Function.update vao.mVertexBindings b { vao.mVertexBindings b with
        mBuffer := boundBuffer, mOffset := offset, mStride := stride } :=
  (bindBuffer_told buffers b boundBuffer offset stride).bindings

theorem bindBuffer_attributes (i : AttribIndex) :
    ∃ limit, (vao.bindBuffer buffers b boundBuffer offset stride).mVertexAttributes i =
      { vao.mVertexAttributes i with mCachedElementLimit := limit } :=
  (bindBuffer_told buffers b boundBuffer offset stride).attributes i

theorem bindBuffer_elementArrayBuffer :
    (vao.bindBuffer buffers b boundBuffer offset stride).mElementArrayBuffer =
      vao.mElementArrayBuffer :=
  (bindBuffer_told buffers b boundBuffer offset stride).elementArrayBuffer

theorem bindBuffer_clientMask (i : AttribIndex) :
    (vao.bindBuffer buffers b boundBuffer offset stride).mClientMemoryAttribsMask i =
      if boundBuffer.isNone then
        vao.mClientMemoryAttribsMask i || (vao.mVertexBindings b).mBoundAttributesMask i
      else vao.mClientMemoryAttribsMask i && !(vao.mVertexBindings b).mBoundAttributesMask i := by
  have hclient : ((vao.rebindBuffer b boundBuffer offset stride).updateCachedBufferBindingSize
      buffers b).mClientMemoryAttribsMask = vao.mClientMemoryAttribsMask :=
    (bindBuffer_told buffers b boundBuffer offset stride).clientMask
  rw [← hclient]
  rfl

theorem bindBuffer_enabledMask :
    (vao.bindBuffer buffers b boundBuffer offset stride).mEnabledAttributesMask =
      vao.mEnabledAttributesMask :=
  (bindBuffer_told buffers b boundBuffer offset stride).enabledMask

/-- A binding gets another buffer, and its attributes are in client memory if it is none. -/
theorem WellFormed.of_rebind (h : vao.WellFormed)
    (hbindings : vao'.mVertexBindings = Function.update vao.mVertexBindings b
      { vao.mVertexBindings b with mBuffer := boundBuffer, mOffset := offset, mStride := stride })
    (hattributes : ∀ i, ∃ limit, vao'.mVertexAttributes i =
      { vao.mVertexAttributes i with mCachedElementLimit := limit })
    (hclient : ∀ i, vao'.mClientMemoryAttribsMask i = if boundBuffer.isNone then
        vao.mClientMemoryAttribsMask i || (vao.mVertexBindings b).mBoundAttributesMask i
      else vao.mClientMemoryAttribsMask i && !(vao.mVertexBindings b).mBoundAttributesMask i)
    (henabled : vao'.mEnabledAttributesMask = vao.mEnabledAttributesMask)
    (hmapped : ∀ i, vao'.mCachedEnabledMappedArrayBuffers i =
      (vao'.mCachedMappedArrayBuffers i && vao'.mEnabledAttributesMask i)) : vao'.WellFormed := by
  constructor
  case boundAttributes =>
    intro b' i
    obtain ⟨limit, hlimit⟩ := hattributes i
    have hold := h.boundAttributes b' i
    rw [hbindings, hlimit]
    by_cases hb : b' = b
    · subst hb
      simpa using hold
    · simpa [hb] using hold
  case clientMemory =>
    intro i
    obtain ⟨limit, hlimit⟩ := hattributes i
    have hbound := h.boundAttributes b i
    have hold := h.clientMemory i
    rw [hbindings, hclient, hlimit]
    by_cases hi : (vao.mVertexAttributes i).bindingIndex = b
    · cases boundBuffer <;> simp [hi, hbound.mpr hi]
    · have hno : (vao.mVertexBindings b).mBoundAttributesMask i = false := by
        simpa [hi] using hbound
      simp [hi, hno, hold]
  case enabled =>
    intro i
    obtain ⟨limit, hlimit⟩ := hattributes i
    rw [henabled, hlimit]
    exact h.enabled i
  case enabledMapped => exact hmapped

theorem WellFormed.bindBuffer (h : vao.WellFormed) :
    (vao.bindBuffer buffers b boundBuffer offset stride).WellFormed :=
  h.of_rebind b boundBuffer offset stride (bindBuffer_bindings buffers b boundBuffer offset stride)
    (bindBuffer_attributes buffers b boundBuffer offset stride)
    (bindBuffer_clientMask buffers b boundBuffer offset stride)
    (bindBuffer_enabledMask buffers b boundBuffer offset stride) fun _ => rfl

def detachBuffer (vao : VertexArray) (b : AttribIndex) : VertexArray :=
  (vao.setBinding b { vao.mVertexBindings b with mBuffer := none }).setClientMemory true
    (vao.mVertexBindings b).mBoundAttributesMask

theorem detachBuffer_bindings : (vao.detachBuffer b).mVertexBindings =
    Function.update vao.mVertexBindings b { vao.mVertexBindings b with mBuffer := none } := rfl

theorem detachBuffer_attributes : (vao.detachBuffer b).mVertexAttributes = vao.mVertexAttributes :=
  rfl

theorem WellFormed.detachBuffer (h : vao.WellFormed) : (vao.detachBuffer b).WellFormed :=
  h.of_rebind b none (vao.mVertexBindings b).mOffset (vao.mVertexBindings b).mStride rfl
    (fun _ => ⟨_, rfl⟩) (fun _ => rfl) rfl h.enabledMapped

end VertexArray

end MetalAngle.Gl.Bindings
