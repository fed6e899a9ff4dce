import MetalAngle.Gl.BufferBindingsWellFormed

/-!
# Element limits and mapped attributes

An attribute's cached limit is the one of its current format and binding, and the cached mask of
mapped attributes is the one of the current maps, as long as no `vertexAttribPointer` changes the
format alone and no buffer is deleted that attributes of the current vertex array use.
-/

namespace MetalAngle.Gl.Bindings

open LabelledRun Observers
open Function (update update_self update_of_ne)

namespace VertexArray

variable {vao vao' : VertexArray} {buffers buffers' : Buffers} {i b : AttribIndex}

def bindingOf (vao : VertexArray) (i : AttribIndex) : VertexBinding :=
  vao.mVertexBindings (vao.mVertexAttributes i).bindingIndex

def LimitAt (buffers : Buffers) (vao : VertexArray) (i : AttribIndex) : Prop :=
  (vao.mVertexAttributes i).mCachedElementLimit =
    computeElementLimit buffers (vao.mVertexAttributes i) (vao.bindingOf i)

def MapAt (buffers : Buffers) (vao : VertexArray) (i : AttribIndex) : Prop :=
  vao.mCachedMappedArrayBuffers i = isMapped buffers (vao.bindingOf i).mBuffer

structure Coherent (buffers : Buffers) (vao : VertexArray) : Prop where
  limit : ∀ i, LimitAt buffers vao i
  map : ∀ i, MapAt buffers vao i

theorem coherent_new (validation : Bool) (cache : RangeCache) :
    Coherent buffers (new validation cache) :=
  ⟨fun _ => rfl, fun _ => rfl⟩

/-! ## What limits and maps depend on -/

/-- Two bindings that fetch the same; their attributes can differ. -/
structure SameFetch (binding binding' : VertexBinding) : Prop where
  buffer : binding'.mBuffer = binding.mBuffer
  offset : binding'.mOffset = binding.mOffset
  stride : binding'.mStride = binding.mStride
  divisor : binding'.mDivisor = binding.mDivisor

theorem SameFetch.refl (binding : VertexBinding) : SameFetch binding binding :=
  ⟨rfl, rfl, rfl, rfl⟩

theorem SameFetch.symm {binding binding' : VertexBinding} (h : SameFetch binding binding') :
    SameFetch binding' binding :=
  ⟨h.buffer.symm, h.offset.symm, h.stride.symm, h.divisor.symm⟩

theorem computeElementLimit_eq {attrib attrib' : VertexAttribute} {binding binding' : VertexBinding}
    (hformat : attrib'.format.pixelBytes = attrib.format.pixelBytes)
    (hrelative : attrib'.relativeOffset = attrib.relativeOffset)
    (hfetch : SameFetch binding binding')
    (hsize : ∀ p, binding.mBuffer = some p → (buffers' p).mSize = (buffers p).mSize) :
    computeElementLimit buffers' attrib' binding' =
      computeElementLimit buffers attrib binding := by
  unfold computeElementLimit
  rw [hfetch.buffer, hformat, hrelative, hfetch.offset, hfetch.stride, hfetch.divisor]
  cases hbuffer : binding.mBuffer with
  | none => rfl
  | some p =>
      dsimp only
      rw [hsize p hbuffer]

theorem updateCachedElementLimit_limit (attrib : VertexAttribute) (binding : VertexBinding) :
    (attrib.updateCachedElementLimit buffers binding).mCachedElementLimit =
      computeElementLimit buffers (attrib.updateCachedElementLimit buffers binding) binding :=
  computeElementLimit_eq rfl rfl (.refl _) fun _ _ => rfl

theorem LimitAt.congr (h : LimitAt buffers vao i)
    (hlimit : (vao'.mVertexAttributes i).mCachedElementLimit =
      (vao.mVertexAttributes i).mCachedElementLimit)
    (hformat : (vao'.mVertexAttributes i).format.pixelBytes =
      (vao.mVertexAttributes i).format.pixelBytes)
    (hrelative : (vao'.mVertexAttributes i).relativeOffset =
      (vao.mVertexAttributes i).relativeOffset)
    (hfetch : SameFetch (vao.bindingOf i) (vao'.bindingOf i))
    (hsize : ∀ p, (vao.bindingOf i).mBuffer = some p → (buffers' p).mSize = (buffers p).mSize) :
    LimitAt buffers' vao' i := by
  unfold LimitAt at h ⊢
  rw [hlimit, h]
  exact (computeElementLimit_eq hformat hrelative hfetch hsize).symm

theorem LimitAt.of_attribute_eq (h : LimitAt buffers vao i)
    (hattribute : vao'.mVertexAttributes i = vao.mVertexAttributes i)
    (hfetch : SameFetch (vao.bindingOf i) (vao'.bindingOf i)) : LimitAt buffers vao' i := by
  apply h.congr _ _ _ hfetch fun _ _ => rfl
  all_goals rw [hattribute]

theorem MapAt.congr (h : MapAt buffers vao i)
    (hmapped : vao'.mCachedMappedArrayBuffers i = vao.mCachedMappedArrayBuffers i)
    (hbuffer : (vao'.bindingOf i).mBuffer = (vao.bindingOf i).mBuffer)
    (hstorage : ∀ p, (vao.bindingOf i).mBuffer = some p →
      (buffers' p).mMapped = (buffers p).mMapped) : MapAt buffers' vao' i := by
  unfold MapAt at h ⊢
  rw [hmapped, hbuffer, h]
  cases hbound : (vao.bindingOf i).mBuffer with
  | none => rfl
  | some p => exact (hstorage p hbound).symm

/-! ## Messages -/

theorem Told.bindingOf (h : Told vao vao') (i : AttribIndex) :
    vao'.bindingOf i = vao.bindingOf i := by
  unfold VertexArray.bindingOf
  rw [h.bindings, h.bindingIndex]

theorem LimitAt.updateCachedElementLimits
    (hbound : (vao.mVertexBindings b).mBoundAttributesMask i ↔
      (vao.mVertexAttributes i).bindingIndex = b)
    (h : (vao.mVertexAttributes i).bindingIndex ≠ b → LimitAt buffers vao i) :
    LimitAt buffers (vao.updateCachedElementLimits buffers b) i := by
  have hbinding : (vao.updateCachedElementLimits buffers b).bindingOf i = vao.bindingOf i :=
    (updateCachedElementLimits_told b).bindingOf i
  by_cases hi : (vao.mVertexAttributes i).bindingIndex = b
  · have hattribute : (vao.updateCachedElementLimits buffers b).mVertexAttributes i =
        (vao.mVertexAttributes i).updateCachedElementLimit buffers (vao.bindingOf i) := by
      unfold bindingOf
      rw [hi]
      exact if_pos (hbound.mpr hi)
    unfold LimitAt
    rw [hattribute, hbinding]
    exact updateCachedElementLimit_limit _ _
  · apply (h hi).of_attribute_eq
    · exact if_neg (mt hbound.mp hi)
    · rw [hbinding]
      exact .refl _

theorem LimitAt.updateCachedBufferBindingSize (h : LimitAt buffers vao i) (hwell : vao.WellFormed)
    (b : AttribIndex) : LimitAt buffers (vao.updateCachedBufferBindingSize buffers b) i := by
  unfold VertexArray.updateCachedBufferBindingSize
  split
  · exact .updateCachedElementLimits (hwell.boundAttributes b i) fun _ => h
  · exact h

theorem LimitAt.onSubjectStateChange (h : LimitAt buffers vao i) (hwell : vao.WellFormed)
    (index : SubjectIndex) (message : SubjectMessage) :
    LimitAt buffers (vao.onSubjectStateChange buffers index message) i := by
  cases message with
  | BindingChanged => cases index <;> exact h
  | ContentsChanged => cases index <;> exact h
  | SubjectChanged =>
      cases index with
      | vertexBuffer b => exact h.updateCachedBufferBindingSize hwell b
      | elementArrayBuffer => exact h
  | SubjectMapped => cases index <;> exact h
  | SubjectUnmapped => cases index <;> exact h

theorem limitAt_of_subjectChanged (hwell : vao.WellFormed)
    (hvalidation : vao.mBufferAccessValidationEnabled) (i : AttribIndex) :
    LimitAt buffers (vao.onSubjectStateChange buffers
      (.vertexBuffer (vao.mVertexAttributes i).bindingIndex) .SubjectChanged) i := by
  have hupdate : vao.updateCachedBufferBindingSize buffers (vao.mVertexAttributes i).bindingIndex =
      vao.updateCachedElementLimits buffers (vao.mVertexAttributes i).bindingIndex :=
    if_pos hvalidation
  unfold onSubjectStateChange
  dsimp only
  rw [hupdate]
  exact .updateCachedElementLimits (hwell.boundAttributes _ i) fun hne => absurd rfl hne

theorem updateCachedMappedArrayBuffersBinding_mapAt (hwell : vao.WellFormed)
    (hi : (vao.mVertexAttributes i).bindingIndex = b) :
    MapAt buffers (vao.updateCachedMappedArrayBuffersBinding buffers b) i := by
  have hbound := (hwell.boundAttributes b i).mpr hi
  unfold MapAt updateCachedMappedArrayBuffersBinding updateCachedMappedArrayBuffers bindingOf
  dsimp only
  rw [hi, hbound]
  split <;> simp_all

theorem MapAt.updateCachedMappedArrayBuffersBinding (h : MapAt buffers vao i)
    (hwell : vao.WellFormed) (b : AttribIndex) :
    MapAt buffers (vao.updateCachedMappedArrayBuffersBinding buffers b) i := by
  by_cases hi : (vao.mVertexAttributes i).bindingIndex = b
  · exact updateCachedMappedArrayBuffersBinding_mapAt hwell hi
  · have hbound : (vao.mVertexBindings b).mBoundAttributesMask i = false := by
      simpa [hi] using hwell.boundAttributes b i
    refine h.congr ?_ rfl fun _ _ => rfl
    unfold VertexArray.updateCachedMappedArrayBuffersBinding updateCachedMappedArrayBuffers
    dsimp only
    rw [hbound]
    split <;> simp

/-- No message makes the mask of mapped attributes wrong. -/
theorem MapAt.onSubjectStateChange (h : MapAt buffers vao i) (hwell : vao.WellFormed)
    (index : SubjectIndex) (message : SubjectMessage) :
    MapAt buffers (vao.onSubjectStateChange buffers index message) i := by
  have htold : Told vao (vao.onSubjectStateChange buffers index message) :=
    onSubjectStateChange_told index message
  cases message with
  | BindingChanged => cases index <;> exact h
  | ContentsChanged => cases index <;> exact h
  | SubjectChanged =>
    refine h.congr ?_ (by rw [htold.bindingOf]) fun _ _ => rfl
    cases index with
    | vertexBuffer b =>
        unfold VertexArray.onSubjectStateChange VertexArray.updateCachedBufferBindingSize
        dsimp only
        split <;> rfl
    | elementArrayBuffer => rfl
  | SubjectMapped =>
      cases index with
      | vertexBuffer b => exact h.updateCachedMappedArrayBuffersBinding hwell b
      | elementArrayBuffer => exact h
  | SubjectUnmapped =>
      cases index with
      | vertexBuffer b => exact h.updateCachedMappedArrayBuffersBinding hwell b
      | elementArrayBuffer => exact h

theorem mapAt_of_mapped (hwell : vao.WellFormed) (i : AttribIndex) {message : SubjectMessage}
    (hmessage : message = .SubjectMapped ∨ message = .SubjectUnmapped) :
    MapAt buffers (vao.onSubjectStateChange buffers
      (.vertexBuffer (vao.mVertexAttributes i).bindingIndex) message) i := by
  rcases hmessage with rfl | rfl
  · exact updateCachedMappedArrayBuffersBinding_mapAt hwell rfl
  · exact updateCachedMappedArrayBuffersBinding_mapAt hwell rfl

/-! ## Calls -/

theorem setAttribBinding_sameFetch (i b b' : AttribIndex) :
    SameFetch (vao.mVertexBindings b') ((vao.setAttribBinding buffers i b).mVertexBindings b') := by
  unfold setAttribBinding
  dsimp only [setAttribute]
  by_cases hb : b' = b
  · subst hb
    simpa using ⟨rfl, rfl, rfl, rfl⟩
  · by_cases hfrom : b' = (vao.mVertexAttributes i).bindingIndex
    · subst hfrom
      simpa [hb] using ⟨rfl, rfl, rfl, rfl⟩
    · simpa [hb, hfrom] using SameFetch.refl _

variable {j : AttribIndex}

theorem setAttribBinding_attribute_of_ne (hj : j ≠ i) :
    (vao.setAttribBinding buffers i b).mVertexAttributes j = vao.mVertexAttributes j := by
  unfold setAttribBinding
  simp [hj]

theorem setAttribBinding_attribute (hvalidation : vao.mBufferAccessValidationEnabled) :
    (vao.setAttribBinding buffers i b).mVertexAttributes i =
      { vao.mVertexAttributes i with bindingIndex := b }.updateCachedElementLimit buffers
        (vao.mVertexBindings b) := by
  unfold setAttribBinding
  dsimp only
  rw [if_pos hvalidation]
  simp only [setAttribute_attributes, update_self]
  rfl

theorem setVertexAttribBinding_sameFetch (i b b' : AttribIndex) :
    SameFetch (vao.mVertexBindings b')
      ((vao.setVertexAttribBinding buffers i b).mVertexBindings b') := by
  have hmoved : SameFetch (vao.mVertexBindings b')
      ((vao.setAttribBinding buffers i b).mVertexBindings b') := setAttribBinding_sameFetch i b b'
  unfold setVertexAttribBinding
  split
  · exact hmoved
  · exact .refl _

theorem setVertexAttribBinding_bindingIndex (i b : AttribIndex) :
    ((vao.setVertexAttribBinding buffers i b).mVertexAttributes i).bindingIndex = b := by
  unfold setVertexAttribBinding setAttribBinding
  dsimp only
  split
  case isTrue =>
    rw [setAttribute_attributes, update_self]
    split <;> rfl
  case isFalse hsame => exact not_not.mp hsame

theorem setVertexAttribBinding_validation (i b : AttribIndex) :
    (vao.setVertexAttribBinding buffers i b).mBufferAccessValidationEnabled =
      vao.mBufferAccessValidationEnabled := by
  unfold setVertexAttribBinding
  split <;> rfl

/-- The attribute that moves to another binding gets the limit there. -/
theorem LimitAt.setVertexAttribBinding
    (hvalidation : vao.mBufferAccessValidationEnabled)
    (h : (j = i → (vao.mVertexAttributes i).bindingIndex = b) → LimitAt buffers vao j) :
    LimitAt buffers (vao.setVertexAttribBinding buffers i b) j := by
  unfold VertexArray.setVertexAttribBinding
  split
  case isFalse hsame => exact h fun _ => not_not.mp hsame
  case isTrue hne =>
    have hmoved : LimitAt buffers (vao.setAttribBinding buffers i b) j := by
      by_cases hj : j = i
      · subst hj
        unfold LimitAt bindingOf
        rw [setAttribBinding_attribute hvalidation]
        exact computeElementLimit_eq rfl rfl ((setAttribBinding_sameFetch j b b).symm)
          fun _ _ => rfl
      · apply (h fun hi => absurd hi hj).of_attribute_eq (setAttribBinding_attribute_of_ne hj)
        unfold bindingOf
        rw [setAttribBinding_attribute_of_ne hj]
        exact setAttribBinding_sameFetch i b _
    exact hmoved

theorem MapAt.setVertexAttribBinding (h : MapAt buffers vao j)
    (hvalidation : vao.mBufferAccessValidationEnabled) :
    MapAt buffers (vao.setVertexAttribBinding buffers i b) j := by
  unfold VertexArray.setVertexAttribBinding
  split
  case isFalse => exact h
  case isTrue =>
    have hmoved : MapAt buffers (vao.setAttribBinding buffers i b) j := by
      by_cases hj : j = i
      · subst hj
        unfold MapAt bindingOf
        rw [setAttribBinding_attribute hvalidation]
        change _ = isMapped buffers ((vao.setAttribBinding buffers j b).mVertexBindings b).mBuffer
        rw [(setAttribBinding_sameFetch j b b).buffer]
        exact update_self _ _ _
      · refine h.congr (update_of_ne hj _ _) ?_ fun _ _ => rfl
        unfold bindingOf
        rw [setAttribBinding_attribute_of_ne hj, (setAttribBinding_sameFetch i b _).buffer]
    exact hmoved

theorem LimitAt.setVertexBindingDivisor (h : LimitAt buffers vao j)
    (hwell : vao.WellFormed) (b : AttribIndex) (divisor : Nat) :
    LimitAt buffers (vao.setVertexBindingDivisor buffers b divisor) j := by
  apply LimitAt.updateCachedElementLimits ((hwell.setDivisor b divisor).boundAttributes b j)
  intro hj
  refine h.of_attribute_eq rfl ?_
  unfold bindingOf
  rw [setBinding_bindings, update_of_ne hj]
  exact .refl _

theorem MapAt.setVertexBindingDivisor (h : MapAt buffers vao j) (b : AttribIndex) (divisor : Nat) :
    MapAt buffers (vao.setVertexBindingDivisor buffers b divisor) j := by
  have hsame : SameBuffers vao (vao.setVertexBindingDivisor buffers b divisor) :=
    setVertexBindingDivisor_sameBuffers b divisor
  have htold : Told (vao.setBinding b { vao.mVertexBindings b with mDivisor := divisor })
      (vao.setVertexBindingDivisor buffers b divisor) := updateCachedElementLimits_told b
  refine h.congr rfl ?_ fun _ _ => rfl
  unfold bindingOf
  rw [hsame.vertexBuffer, htold.bindingIndex]
  rfl

theorem setVertexAttribFormatImpl_attribute_of_ne (hj : j ≠ i)
    (format : FormatID) (relativeOffset : Nat) :
    (vao.setVertexAttribFormatImpl i format relativeOffset).mVertexAttributes j =
      vao.mVertexAttributes j := by
  unfold setVertexAttribFormatImpl
  dsimp only
  split
  · exact update_of_ne hj _ _
  · rfl

theorem setVertexAttribFormatImpl_attribute (i : AttribIndex) (format : FormatID)
    (relativeOffset : Nat) :
    (vao.setVertexAttribFormatImpl i format relativeOffset).mVertexAttributes i =
      { vao.mVertexAttributes i with relativeOffset := relativeOffset, format := format } := by
  unfold setVertexAttribFormatImpl
  dsimp only
  split
  case isTrue => exact update_self _ _ _
  case isFalse hsame =>
    obtain ⟨hformat, hrelative⟩ := not_or.mp hsame
    rw [not_not.mp hformat, ← not_not.mp hrelative]

theorem setVertexAttribFormatImpl_bindings (i : AttribIndex) (format : FormatID)
    (relativeOffset : Nat) :
    (vao.setVertexAttribFormatImpl i format relativeOffset).mVertexBindings =
      vao.mVertexBindings := by
  unfold setVertexAttribFormatImpl
  dsimp only
  split <;> rfl

theorem setVertexAttribFormatImpl_bindingOf (i j : AttribIndex) (format : FormatID)
    (relativeOffset : Nat) :
    (vao.setVertexAttribFormatImpl i format relativeOffset).bindingOf j = vao.bindingOf j := by
  unfold bindingOf
  rw [setVertexAttribFormatImpl_bindings]
  by_cases hj : j = i
  · subst hj
    rw [setVertexAttribFormatImpl_attribute]
  · rw [setVertexAttribFormatImpl_attribute_of_ne hj]

theorem setVertexAttribFormatImpl_validation (i : AttribIndex) (format : FormatID)
    (relativeOffset : Nat) :
    (vao.setVertexAttribFormatImpl i format relativeOffset).mBufferAccessValidationEnabled =
      vao.mBufferAccessValidationEnabled := by
  unfold setVertexAttribFormatImpl
  dsimp only
  split <;> rfl

/-- The format of an attribute is changed, its limit is not. -/
theorem LimitAt.setVertexAttribFormatImpl (h : LimitAt buffers vao j)
    {format : FormatID} {relativeOffset : Nat} (hkept : j = i → (vao.bindingOf i).mBuffer = none ∨
      format.pixelBytes = (vao.mVertexAttributes i).format.pixelBytes ∧
        relativeOffset = (vao.mVertexAttributes i).relativeOffset) :
    LimitAt buffers (vao.setVertexAttribFormatImpl i format relativeOffset) j := by
  have hbinding : (vao.setVertexAttribFormatImpl i format relativeOffset).bindingOf j =
      vao.bindingOf j := setVertexAttribFormatImpl_bindingOf i j format relativeOffset
  by_cases hj : j = i
  case neg =>
    apply h.of_attribute_eq (setVertexAttribFormatImpl_attribute_of_ne hj format relativeOffset)
    rw [hbinding]
    exact .refl _
  case pos =>
    subst hj
    unfold LimitAt at h ⊢
    rw [hbinding, setVertexAttribFormatImpl_attribute]
    dsimp only
    rw [h]
    rcases hkept rfl with hnone | ⟨hformat, hrelative⟩
    · unfold computeElementLimit
      rw [hnone]
    · exact (computeElementLimit_eq hformat hrelative (.refl _) fun _ _ => rfl).symm

theorem MapAt.setVertexAttribFormatImpl (h : MapAt buffers vao j)
    (i : AttribIndex) (format : FormatID) (relativeOffset : Nat) :
    MapAt buffers (vao.setVertexAttribFormatImpl i format relativeOffset) j := by
  refine h.congr ?_ (by rw [setVertexAttribFormatImpl_bindingOf]) fun _ _ => rfl
  unfold VertexArray.setVertexAttribFormatImpl
  dsimp only
  split <;> rfl

theorem LimitAt.setVertexAttribFormat (h : LimitAt buffers vao j)
    (i : AttribIndex) (format : FormatID) (relativeOffset : Nat) :
    LimitAt buffers (vao.setVertexAttribFormat buffers i format relativeOffset) j := by
  unfold VertexArray.setVertexAttribFormat
  dsimp only
  by_cases hj : j = i
  · subst hj
    unfold LimitAt bindingOf
    rw [setAttribute_attributes, setAttribute_bindings, update_self]
    exact updateCachedElementLimit_limit _ _
  · have hformat : LimitAt buffers (vao.setVertexAttribFormatImpl i format relativeOffset) j :=
      h.setVertexAttribFormatImpl fun hi => absurd hi hj
    apply hformat.of_attribute_eq (update_of_ne hj _ _)
    unfold bindingOf
    rw [setAttribute_attributes, setAttribute_bindings, update_of_ne hj]
    exact .refl _

theorem MapAt.setVertexAttribFormat (h : MapAt buffers vao j)
    (i : AttribIndex) (format : FormatID) (relativeOffset : Nat) :
    MapAt buffers (vao.setVertexAttribFormat buffers i format relativeOffset) j := by
  have hformat : MapAt buffers (vao.setVertexAttribFormatImpl i format relativeOffset) j :=
    h.setVertexAttribFormatImpl i format relativeOffset
  refine hformat.congr rfl ?_ fun _ _ => rfl
  unfold VertexArray.setVertexAttribFormat bindingOf
  dsimp only
  rw [setAttribute_attributes, setAttribute_bindings]
  by_cases hj : j = i
  · subst hj
    rw [update_self]
    rfl
  · rw [update_of_ne hj]

theorem enableAttribute_bindings (i : AttribIndex) (enabledState : Bool) :
    (vao.enableAttribute i enabledState).mVertexBindings = vao.mVertexBindings := by
  unfold enableAttribute
  split <;> rfl

theorem enableAttribute_attributes (vao : VertexArray) (i j : AttribIndex) (enabledState : Bool) :
    ∃ enabled, (vao.enableAttribute i enabledState).mVertexAttributes j =
      { vao.mVertexAttributes j with enabled := enabled } := by
  unfold enableAttribute setAttribute
  split
  case isTrue => exact ⟨_, rfl⟩
  case isFalse =>
    by_cases hj : j = i
    · subst hj
      exact ⟨enabledState, update_self _ _ _⟩
    · exact ⟨_, update_of_ne hj _ _⟩

theorem LimitAt.enableAttribute (h : LimitAt buffers vao j) (i : AttribIndex)
    (enabledState : Bool) : LimitAt buffers (vao.enableAttribute i enabledState) j := by
  obtain ⟨enabled, henabled⟩ := enableAttribute_attributes vao i j enabledState
  unfold LimitAt bindingOf at h ⊢
  rw [enableAttribute_bindings, henabled]
  exact h

theorem MapAt.enableAttribute (h : MapAt buffers vao j) (i : AttribIndex)
    (enabledState : Bool) : MapAt buffers (vao.enableAttribute i enabledState) j := by
  obtain ⟨enabled, henabled⟩ := enableAttribute_attributes vao i j enabledState
  have hmapped : (vao.enableAttribute i enabledState).mCachedMappedArrayBuffers =
      vao.mCachedMappedArrayBuffers := by
    unfold VertexArray.enableAttribute
    split <;> rfl
  unfold MapAt bindingOf at h ⊢
  rw [enableAttribute_bindings, henabled, hmapped]
  exact h

variable (boundBuffer : Option BufferPtr) (offset : Int) (stride : Nat)

theorem bindBuffer_bindingIndex (i : AttribIndex) :
    ((vao.bindBuffer buffers b boundBuffer offset stride).mVertexAttributes i).bindingIndex =
      (vao.mVertexAttributes i).bindingIndex :=
  (bindBuffer_told buffers b boundBuffer offset stride).bindingIndex i

theorem LimitAt.bindBuffer (hwell : vao.WellFormed)
    (hvalidation : vao.mBufferAccessValidationEnabled)
    (h : (vao.mVertexAttributes j).bindingIndex ≠ b → LimitAt buffers vao j) :
    LimitAt buffers (vao.bindBuffer buffers b boundBuffer offset stride) j := by
  have hupdate : (vao.rebindBuffer b boundBuffer offset stride).updateCachedBufferBindingSize
      buffers b = (vao.rebindBuffer b boundBuffer offset stride).updateCachedElementLimits
        buffers b := if_pos hvalidation
  have hlimit : LimitAt buffers ((vao.rebindBuffer b boundBuffer offset
      stride).updateCachedBufferBindingSize buffers b) j := by
    rw [hupdate]
    apply LimitAt.updateCachedElementLimits
    · unfold VertexArray.rebindBuffer
      rw [setBinding_bindings, update_self]
      exact hwell.boundAttributes b j
    · intro hj
      refine (h hj).of_attribute_eq rfl ?_
      unfold VertexArray.rebindBuffer at hj ⊢
      unfold bindingOf
      rw [setBinding_bindings, update_of_ne hj]
      exact .refl _
  exact hlimit

theorem MapAt.bindBuffer (h : MapAt buffers vao j) (hwell : vao.WellFormed) :
    MapAt buffers (vao.bindBuffer buffers b boundBuffer offset stride) j := by
  have hmapped : (vao.bindBuffer buffers b boundBuffer offset stride).mCachedMappedArrayBuffers j =
      if isMapped buffers boundBuffer then
        vao.mCachedMappedArrayBuffers j || (vao.mVertexBindings b).mBoundAttributesMask j
      else vao.mCachedMappedArrayBuffers j && !(vao.mVertexBindings b).mBoundAttributesMask j := by
    unfold VertexArray.bindBuffer VertexArray.updateCachedBufferBindingSize
    split <;> rfl
  have hbound := hwell.boundAttributes b j
  unfold MapAt bindingOf at h ⊢
  rw [bindBuffer_bindingIndex, bindBuffer_bindings, hmapped]
  by_cases hj : (vao.mVertexAttributes j).bindingIndex = b
  · rw [hj, update_self, hbound.mpr hj]
    split <;> simp_all
  · have hno : (vao.mVertexBindings b).mBoundAttributesMask j = false := by simpa [hj] using hbound
    rw [update_of_ne hj, hno, ← h]
    split <;> simp

theorem Coherent.detachBuffer (h : Coherent buffers vao)
    (hunused : ∀ i, (vao.mVertexAttributes i).bindingIndex = b →
      (vao.mVertexBindings b).mBuffer = none) : Coherent buffers (vao.detachBuffer b) := by
  have hbinding : ∀ i, SameFetch (vao.bindingOf i) ((vao.detachBuffer b).bindingOf i) := by
    intro i
    change SameFetch (vao.bindingOf i)
      (update vao.mVertexBindings b { vao.mVertexBindings b with mBuffer := none }
        (vao.mVertexAttributes i).bindingIndex)
    by_cases hi : (vao.mVertexAttributes i).bindingIndex = b
    · unfold bindingOf
      rw [hi, update_self]
      exact ⟨(hunused i hi).symm, rfl, rfl, rfl⟩
    · rw [update_of_ne hi]
      exact .refl _
  exact ⟨fun i => (h.limit i).of_attribute_eq rfl (hbinding i),
    fun i => (h.map i).congr rfl (hbinding i).buffer fun _ _ => rfl⟩

end VertexArray

end MetalAngle.Gl.Bindings
