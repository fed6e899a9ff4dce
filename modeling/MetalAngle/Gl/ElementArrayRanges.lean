import MetalAngle.Gl.BufferBindingsCaches

/-!
# The cached index range of a vertex array

The range that a vertex array caches is the one of its element array buffer, as long as primitive
restart does not change under a cached range and every draw or read that writes to the buffer tells
it, or leaves the indices as they are.
-/

namespace MetalAngle.Gl.Bindings

open LabelledRun Observers VertexArray Function Option
open MetalAngle.Metal (DrawElementsType)

def SubjectMessage.invalidates : SubjectMessage → Bool
  | .ContentsChanged => true
  | .SubjectChanged => true
  | .SubjectUnmapped => true
  | _ => false

/-! ## What a cached range depends on -/

namespace RangeCache

def key (cache : RangeCache) (type : DrawElementsType) (primitiveRestartEnabled : Bool) :
    IndexRangeKey :=
  ⟨type, cache.mOffsetKey, cache.mIndexCountKey, primitiveRestartEnabled⟩

/-- Other contents have the same bytes where the range was computed; the first index is read even
if there is none. -/
def SameIndices (cache : RangeCache) (contents contents' : Memory) : Prop :=
  ∀ type, cache.mTypeKey = some type → ∀ k < type.size * max 1 cache.mIndexCountKey,
    contents' (cache.mOffsetKey + k) = contents (cache.mOffsetKey + k)

theorem SameIndices.refl (cache : RangeCache) (contents : Memory) :
    cache.SameIndices contents contents :=
  fun _ _ _ _ => rfl

theorem SameIndices.computeIndexRange_eq {cache : RangeCache} {contents contents' : Memory}
    (h : cache.SameIndices contents contents') {type : DrawElementsType}
    (htype : cache.mTypeKey = some type) (enabled : Bool) :
    computeIndexRange contents' (cache.key type enabled) =
      computeIndexRange contents (cache.key type enabled) := by
  have hbytes := h type htype
  rcases Nat.eq_zero_or_pos cache.mIndexCountKey with hzero | hpos
  · rw [hzero] at hbytes
    have hfirst : contents'.readLE type.size (cache.mOffsetKey + type.size * 0) =
        contents.readLE type.size (cache.mOffsetKey + type.size * 0) := by
      apply Memory.readLE_congr
      intro k hk
      simpa using hbytes k (by simpa using hk)
    unfold computeIndexRange computeTypedIndexRange key
    simp only [hzero, hfirst]
    rfl
  · apply computeIndexRange_congr hpos
    intro i hle hlt
    have hcount : max 1 cache.mIndexCountKey = cache.mIndexCountKey := max_eq_right hpos
    obtain ⟨k, rfl⟩ := Nat.exists_eq_add_of_le hle
    apply hbytes k
    rw [hcount]
    exact Nat.lt_of_add_lt_add_left hlt

end RangeCache

namespace VertexArray

variable {vao vao' : VertexArray} {buffers buffers' : Buffers} {enabled : Bool}

/-- The range is the one of the element array buffer while that is not mapped. -/
def FreshRange (buffers : Buffers) (enabled : Bool) (vao : VertexArray) : Prop :=
  ∀ p, vao.mElementArrayBuffer = some p → (buffers p).mMapped = false →
    ∀ type, vao.mIndexRangeCache.mTypeKey = some type →
      vao.mIndexRangeCache.mPayload =
        computeIndexRange (buffers p).contents (vao.mIndexRangeCache.key type enabled)

/-- The element array buffer and the range are as before, or there is no range. -/
def KeepsRange (vao vao' : VertexArray) : Prop :=
  vao'.mElementArrayBuffer = none ∨ vao'.mIndexRangeCache.mTypeKey = none ∨
    vao'.mElementArrayBuffer = vao.mElementArrayBuffer ∧
      vao'.mIndexRangeCache = vao.mIndexRangeCache

theorem KeepsRange.refl (vao : VertexArray) : KeepsRange vao vao := .inr (.inr ⟨rfl, rfl⟩)

theorem KeepsRange.trans {vao'' : VertexArray} (h : KeepsRange vao vao')
    (h' : KeepsRange vao' vao'') : KeepsRange vao vao'' := by
  rcases h' with hnone | hinvalid | ⟨hbuffer, hcache⟩
  · exact .inl hnone
  · exact .inr (.inl hinvalid)
  · unfold KeepsRange at h ⊢
    rwa [hbuffer, hcache]

theorem FreshRange.of_keeps (h : FreshRange buffers enabled vao) (hkeeps : KeepsRange vao vao')
    (hbuffer : ∀ p, vao.mElementArrayBuffer = some p → (buffers' p).mMapped = false →
      vao'.mIndexRangeCache.mTypeKey = none ∨ (buffers p).mMapped = false ∧
        vao.mIndexRangeCache.SameIndices (buffers p).contents (buffers' p).contents) :
    FreshRange buffers' enabled vao' := by
  intro p hp hmapped type htype
  rcases hkeeps with hnone | hinvalid | ⟨hsame, hcache⟩
  · rw [hnone] at hp
    contradiction
  · rw [hinvalid] at htype
    contradiction
  · rw [hsame] at hp
    rcases hbuffer p hp hmapped with hinvalid | ⟨hunmapped, hindices⟩
    · rw [hinvalid] at htype
      contradiction
    · rw [hcache] at htype ⊢
      rw [h p hp hunmapped type htype, hindices.computeIndexRange_eq htype]

theorem updateCachedElementLimits_keepsRange (b : AttribIndex) :
    KeepsRange vao (vao.updateCachedElementLimits buffers b) := .inr (.inr ⟨rfl, rfl⟩)

theorem updateCachedBufferBindingSize_keepsRange (b : AttribIndex) :
    KeepsRange vao (vao.updateCachedBufferBindingSize buffers b) := by
  unfold updateCachedBufferBindingSize
  split
  · exact updateCachedElementLimits_keepsRange b
  · exact .refl vao

theorem updateCachedBufferBindingSize_range (b : AttribIndex) :
    (vao.updateCachedBufferBindingSize buffers b).mIndexRangeCache = vao.mIndexRangeCache := by
  unfold updateCachedBufferBindingSize
  split <;> rfl

theorem onSubjectStateChange_range (index : SubjectIndex) (message : SubjectMessage) :
    (vao.onSubjectStateChange buffers index message).mIndexRangeCache = vao.mIndexRangeCache ∨
      (vao.onSubjectStateChange buffers index message).mIndexRangeCache =
        vao.mIndexRangeCache.invalidate := by
  cases index with
  | vertexBuffer b =>
      left
      cases message with
      | SubjectChanged => exact updateCachedBufferBindingSize_range b
      | _ => rfl
  | elementArrayBuffer =>
      cases message with
      | BindingChanged => exact .inl rfl
      | SubjectMapped => exact .inl rfl
      | _ => exact .inr rfl

theorem onSubjectStateChange_keepsRange (index : SubjectIndex) (message : SubjectMessage) :
    KeepsRange vao (vao.onSubjectStateChange buffers index message) := by
  have htold : Told vao (vao.onSubjectStateChange buffers index message) :=
    onSubjectStateChange_told index message
  have hrange : (vao.onSubjectStateChange buffers index message).mIndexRangeCache =
      vao.mIndexRangeCache ∨ _ := onSubjectStateChange_range index message
  rcases hrange with hsame | hinvalid
  · exact .inr (.inr ⟨htold.elementArrayBuffer, hsame⟩)
  · exact .inr (.inl (hinvalid ▸ rfl))

theorem onSubjectStateChange_invalid (h : vao.mIndexRangeCache.mTypeKey = none)
    (index : SubjectIndex) (message : SubjectMessage) :
    (vao.onSubjectStateChange buffers index message).mIndexRangeCache.mTypeKey = none := by
  have hrange : (vao.onSubjectStateChange buffers index message).mIndexRangeCache =
      vao.mIndexRangeCache ∨ _ := onSubjectStateChange_range index message
  rcases hrange with hsame | hinvalid
  · rwa [hsame]
  · rw [hinvalid]
    rfl

theorem setVertexAttribBinding_keepsRange (i b : AttribIndex) :
    KeepsRange vao (vao.setVertexAttribBinding buffers i b) := by
  unfold setVertexAttribBinding
  split
  · exact .inr (.inr ⟨rfl, rfl⟩)
  · exact .refl vao

theorem setVertexBindingDivisor_keepsRange (b : AttribIndex) (divisor : Nat) :
    KeepsRange vao (vao.setVertexBindingDivisor buffers b divisor) := .inr (.inr ⟨rfl, rfl⟩)

theorem setVertexAttribFormatImpl_keepsRange (i : AttribIndex) (format : FormatID)
    (relativeOffset : Nat) :
    KeepsRange vao (vao.setVertexAttribFormatImpl i format relativeOffset) := by
  unfold setVertexAttribFormatImpl
  dsimp only
  split
  · exact .inr (.inr ⟨rfl, rfl⟩)
  · exact .refl vao

theorem setVertexAttribFormat_keepsRange (i : AttribIndex) (format : FormatID)
    (relativeOffset : Nat) :
    KeepsRange vao (vao.setVertexAttribFormat buffers i format relativeOffset) :=
  (setVertexAttribFormatImpl_keepsRange i format relativeOffset).trans (.inr (.inr ⟨rfl, rfl⟩))

theorem enableAttribute_keepsRange (i : AttribIndex) (enabledState : Bool) :
    KeepsRange vao (vao.enableAttribute i enabledState) := by
  unfold enableAttribute
  split
  · exact .refl vao
  · exact .inr (.inr ⟨rfl, rfl⟩)

theorem bindBuffer_keepsRange (b : AttribIndex) (boundBuffer : Option BufferPtr) (offset : Int)
    (stride : Nat) : KeepsRange vao (vao.bindBuffer buffers b boundBuffer offset stride) := by
  have hsize : KeepsRange vao
      ((vao.rebindBuffer b boundBuffer offset stride).updateCachedBufferBindingSize buffers b) :=
    updateCachedBufferBindingSize_keepsRange b
  exact hsize

end VertexArray

namespace Context

variable {caps : Caps} {c c' : Context caps}

/-! ## Calls that change no contents -/

structure KeepsRanges (c c' : Context caps) : Prop where
  vertexArrays : ∀ v, VertexArray.KeepsRange (c.vertexArrays v) (c'.vertexArrays v)
  storage : SameStorage c.buffers c'.buffers
  restart : c'.mPrimitiveRestart = c.mPrimitiveRestart

theorem KeepsRanges.refl (c : Context caps) : KeepsRanges c c :=
  ⟨fun _ => .refl _, .refl _, rfl⟩

theorem KeepsRanges.trans {c'' : Context caps} (h : KeepsRanges c c') (h' : KeepsRanges c' c'') :
    KeepsRanges c c'' where
  vertexArrays v := (h.vertexArrays v).trans (h'.vertexArrays v)
  storage := h.storage.trans h'.storage
  restart := h'.restart.trans h.restart

theorem KeepsRanges.of_eq (hvertexArrays : c'.vertexArrays = c.vertexArrays)
    (hstorage : SameStorage c.buffers c'.buffers)
    (hrestart : c'.mPrimitiveRestart = c.mPrimitiveRestart) : KeepsRanges c c' where
  vertexArrays _ := hvertexArrays ▸ .refl _
  storage := hstorage
  restart := hrestart

theorem keepsRanges_modifyVertexArray (v : VertexArrayID) {f : VertexArray → VertexArray}
    (hf : VertexArray.KeepsRange (c.vertexArrays v) (f (c.vertexArrays v))) :
    KeepsRanges c (c.modifyVertexArray v f) where
  vertexArrays w := by
    rw [vertexArrays_modifyVertexArray]
    by_cases hw : w = v
    · subst hw
      rwa [update_self]
    · rw [update_of_ne hw]
      exact .refl _
  storage := .refl _
  restart := rfl

section

variable (buffer : Option BufferPtr)

theorem keepsRanges_onStateChange (message : SubjectMessage) :
    KeepsRanges c (c.onStateChange buffer message) where
  vertexArrays _ := onStateChange_preserves buffer
    (fun _ index h => h.trans (onSubjectStateChange_keepsRange index message)) (.refl _)
  storage := .refl _
  restart := rfl

theorem keepsRanges_onNonTFBindingChanged (incr : Int) :
    KeepsRanges c (c.onNonTFBindingChanged buffer incr) :=
  .of_eq rfl (sameStorage_onNonTFBindingChanged buffer incr) rfl

theorem keepsRanges_onTFBindingChanged (bound indexed : Bool) :
    KeepsRanges c (c.onTFBindingChanged buffer bound indexed) := by
  have hstorage : SameStorage c.buffers (c.onTFBindingChanged buffer bound indexed).buffers :=
    sameStorage_onTFBindingChanged buffer bound indexed
  cases indexed with
  | false => exact .of_eq rfl hstorage rfl
  | true =>
      have hcount : KeepsRanges c (c.modifyBuffer buffer fun b => b.onTFBindingChanged bound true) :=
        .of_eq rfl hstorage rfl
      exact hcount.trans (keepsRanges_onStateChange buffer .BindingChanged)

theorem keepsRanges_removeObserver (observer : Observer) :
    KeepsRanges c (c.removeObserver buffer observer) :=
  .of_eq rfl (sameStorage_removeObserver buffer observer) rfl

theorem keepsRanges_setElementArrayBuffer :
    KeepsRanges c (c.setElementArrayBuffer buffer) where
  vertexArrays v := by
    rw [vertexArrays_setElementArrayBuffer]
    by_cases hv : v = c.mVertexArray
    · subst hv
      rw [update_self]
      exact .inr (.inl rfl)
    · rw [update_of_ne hv]
      exact .refl _
  storage := sameStorage_setElementArrayBuffer buffer
  restart := rfl

end

theorem keepsRanges_bindVertexBufferImpl (b : AttribIndex) (boundBuffer : Option BufferPtr)
    (offset : Int) (stride : Nat) :
    KeepsRanges c (c.bindVertexBufferImpl b boundBuffer offset stride) := by
  unfold bindVertexBufferImpl
  dsimp only
  split
  case isTrue => exact .refl c
  case isFalse =>
    constructor
    case vertexArrays =>
      intro v
      rw [vertexArrays_rebindVertexBuffer]
      by_cases hv : v = c.mVertexArray
      · subst hv
        rw [update_self]
        exact bindBuffer_keepsRange b boundBuffer offset stride
      · rw [update_of_ne hv]
        exact .refl _
    case storage => exact sameStorage_rebindVertexBuffer b boundBuffer offset stride
    case restart => rfl

/-! ### Deletion -/

theorem keepsRanges_detachVertexBuffer (bufferID : BufferID) (b : AttribIndex) :
    KeepsRanges c (c.detachVertexBuffer bufferID b) := by
  unfold detachVertexBuffer unbindVertexBuffer
  dsimp only
  split
  case isFalse => exact .refl c
  case isTrue =>
    have hreleased : KeepsRanges c ((c.onNonTFBindingChanged (c.vertexBuffer c.mVertexArray b)
        (-1)).removeObserver (c.vertexBuffer c.mVertexArray b) (c.mVertexArray, .vertexBuffer b)) :=
      (keepsRanges_onNonTFBindingChanged _ (-1)).trans (keepsRanges_removeObserver _ _)
    apply hreleased.trans
    refine KeepsRanges.trans (keepsRanges_modifyVertexArray _ ?_)
      (keepsRanges_modifyVertexArray _ ?_)
    · exact .inr (.inr ⟨rfl, rfl⟩)
    · exact .inr (.inr ⟨rfl, rfl⟩)

theorem keepsRanges_unbindElementArrayBuffer (v : VertexArrayID) :
    KeepsRanges c (c.unbindElementArrayBuffer v) := by
  apply (keepsRanges_removeObserver _ _).trans
  apply keepsRanges_modifyVertexArray
  exact .inl rfl

theorem keepsRanges_detachElementArrayBuffer (bufferID : BufferID) :
    KeepsRanges c (c.detachElementArrayBuffer bufferID) := by
  unfold detachElementArrayBuffer
  dsimp only
  split
  · exact (keepsRanges_onNonTFBindingChanged _ (-1)).trans
      (keepsRanges_unbindElementArrayBuffer c.mVertexArray)
  · exact .refl c

theorem keepsRanges_destroyVertexArray (v : VertexArrayID) (cache : RangeCache) :
    KeepsRanges c (c.destroyVertexArray v cache) := by
  have hunbind : ∀ (c : Context caps) b, KeepsRanges c (c.unbindVertexBuffer v b) := by
    intro c b
    apply (keepsRanges_removeObserver _ _).trans
    apply keepsRanges_modifyVertexArray
    exact .inr (.inr ⟨rfl, rfl⟩)
  unfold destroyVertexArray
  have hemptied : KeepsRanges c ((List.finRange maxVertexAttribs).foldl
      (fun c b => c.unbindVertexBuffer v b) c) :=
    List.foldlRecOn (motive := fun c' : Context caps => KeepsRanges c c') _ _ (.refl c)
      fun c' hc b _ => hc.trans (hunbind c' b)
  apply (hemptied.trans (keepsRanges_unbindElementArrayBuffer v)).trans
  apply keepsRanges_modifyVertexArray
  exact .inl rfl

theorem uncounted_keepsRanges (c₀ : Context caps) : Uncounted (KeepsRanges c₀) where
  onNonTFBindingChanged buffer incr h := h.trans (keepsRanges_onNonTFBindingChanged buffer incr)
  onTFBindingChanged buffer bound indexed h :=
    h.trans (keepsRanges_onTFBindingChanged buffer bound indexed)
  of_eq h hbuffers hvertexArrays hrestart _ :=
    h.trans (.of_eq hvertexArrays (hbuffers ▸ .refl _) hrestart)

theorem Change.keepsRanges {g : Guards caps} (hg : ¬g.contents) (hchange : Change g c c') :
    KeepsRanges c c' := by
  have huncounted := uncounted_keepsRanges c
  cases hchange with
  | updateBufferBinding target buffer => exact huncounted.updateBufferBinding (.refl c) target buffer
  | updateIndexedBufferBinding point buffer =>
    exact huncounted.updateIndexedBufferBinding (.refl c) point buffer
  | setElementArrayBuffer buffer => exact keepsRanges_setElementArrayBuffer buffer
  | bindVertexBufferImpl b buffer offset stride =>
    exact keepsRanges_bindVertexBufferImpl b buffer offset stride
  | setFormatAndBinding _ i format =>
    exact keepsRanges_modifyVertexArray _ ((setVertexAttribFormatImpl_keepsRange i format
      0).trans (setVertexAttribBinding_keepsRange i i))
  | setVertexAttribFormat i format relativeOffset =>
    exact keepsRanges_modifyVertexArray _
      (setVertexAttribFormat_keepsRange i format relativeOffset)
  | setVertexAttribBinding i b =>
    exact keepsRanges_modifyVertexArray _ (setVertexAttribBinding_keepsRange i b)
  | setVertexBindingDivisor b divisor =>
    exact keepsRanges_modifyVertexArray _ (setVertexBindingDivisor_keepsRange b divisor)
  | setVertexAttribDivisor i divisor =>
    exact keepsRanges_modifyVertexArray _ ((setVertexAttribBinding_keepsRange i i).trans
      (setVertexBindingDivisor_keepsRange i divisor))
  | setEnableVertexAttribArray i enabled =>
    exact keepsRanges_modifyVertexArray _ (enableAttribute_keepsRange i enabled)
  | setVertexArrayBinding _ => exact huncounted.setVertexArrayBinding (.refl c) _
  | destroyVertexArray _ cache => exact keepsRanges_destroyVertexArray _ cache
  | bindIndexedBuffer index buffer => exact huncounted.bindIndexedBuffer (.refl c) index buffer
  | setTransformFeedbackBinding t => exact huncounted.setTransformFeedbackBinding (.refl c) t
  | clearTransformFeedback _ => exact .of_eq rfl (.refl _) rfl
  | detachTransformFeedbackBuffer bufferID index =>
    exact huncounted.detachTransformFeedbackBuffer (.refl c) bufferID index
  | detachVertexBuffer _ bufferID b => exact keepsRanges_detachVertexBuffer bufferID b
  | detachElementArrayBuffer bufferID => exact keepsRanges_detachElementArrayBuffer bufferID
  | _ => contradiction

/-! ## Calls that change contents -/

def Fresh (c : Context caps) : Prop :=
  ∀ v, VertexArray.FreshRange c.buffers c.mPrimitiveRestart (c.vertexArrays v)

theorem Fresh.of_told (h : c.Fresh)
    (hkeeps : ∀ v, VertexArray.KeepsRange (c.vertexArrays v) (c'.vertexArrays v))
    (hrestart : c'.mPrimitiveRestart = c.mPrimitiveRestart)
    (hbuffer : ∀ v p, c.elementArrayBuffer v = some p → (c'.buffers p).mMapped = false →
      (c'.vertexArrays v).mIndexRangeCache.mTypeKey = none ∨ (c.buffers p).mMapped = false ∧
        (c.vertexArrays v).mIndexRangeCache.SameIndices (c.buffers p).contents
          (c'.buffers p).contents) : c'.Fresh := by
  intro v
  rw [hrestart]
  exact (h v).of_keeps (hkeeps v) (hbuffer v)

theorem Fresh.of_keeps (h : c.Fresh) (hkeeps : KeepsRanges c c') : c'.Fresh := by
  apply h.of_told hkeeps.vertexArrays hkeeps.restart
  intro v p hp hmapped
  right
  rw [hkeeps.storage.mapped] at hmapped
  rw [hkeeps.storage.contents]
  exact ⟨hmapped, .refl _ _⟩

variable {p : BufferPtr}

theorem invalidated_onStateChange (hregistered : Registered c.bound c.observers)
    {message : SubjectMessage} (hmessage : message.invalidates) {v : VertexArrayID}
    (hp : c.elementArrayBuffer v = some p) :
    ((c.onStateChange (some p) message).vertexArrays v).mIndexRangeCache.mTypeKey = none := by
  apply onStateChange_restores .elementArrayBuffer (I := fun _ => True)
    (R := fun vao => vao.mIndexRangeCache.mTypeKey = none) hregistered
  case hkeep => exact fun _ _ _ => trivial
  case hself =>
    intro vao _
    cases message with
    | BindingChanged => contradiction
    | SubjectMapped => contradiction
    | _ => rfl
  case hother => exact fun vao index _ h => onSubjectStateChange_invalid h index message
  case hI => trivial
  case h => exact .inl hp

theorem modifyBuffer_modifyBuffer (buffer : Option BufferPtr) (f g : Buffer → Buffer) :
    (c.modifyBuffer buffer f).modifyBuffer buffer g = c.modifyBuffer buffer fun b => g (f b) := by
  unfold modifyBuffer
  congr 1
  ext1 p
  dsimp only
  split <;> rfl

section

variable (h : c.Fresh)
include h

theorem Fresh.changeBuffer (hwell : c.WellFormed) (p : BufferPtr)
    {f : Buffer → Buffer} (hobservers : ∀ b, (f b).mObservers = b.mObservers)
    (message : SubjectMessage) (hmessage : message.invalidates) :
    ((c.modifyBuffer (some p) f).onStateChange (some p) message).Fresh := by
  have hregistered : Registered (c.modifyBuffer (some p) f).bound
      (c.modifyBuffer (some p) f).observers :=
    (hwell.modifyBuffer (some p) hobservers).registered
  have hkeeps : KeepsRanges (c.modifyBuffer (some p) f)
      ((c.modifyBuffer (some p) f).onStateChange (some p) message) :=
    keepsRanges_onStateChange (some p) message
  refine h.of_told hkeeps.vertexArrays rfl ?_
  intro v q hq hmapped
  rw [hkeeps.storage.mapped] at hmapped
  rw [hkeeps.storage.contents]
  by_cases hp : q = p
  · subst hp
    exact .inl (invalidated_onStateChange hregistered hmessage hq)
  · rw [modifyBuffer_of_ne hp] at hmapped ⊢
    exact .inr ⟨hmapped, .refl _ _⟩

theorem Fresh.bufferData (hwell : c.WellFormed) (p : BufferPtr) (contents : Memory)
    (size : Int) : (c.bufferData p contents size).Fresh := by
  unfold Context.bufferData Context.setContents
  rw [modifyBuffer_modifyBuffer]
  exact h.changeBuffer (f := fun b => { b with contents := contents, mSize := size }) hwell p
    (fun _ => rfl) .SubjectChanged rfl

theorem Fresh.bufferSubData (hwell : c.WellFormed) (p : BufferPtr)
    (contents : Memory) : (c.bufferSubData p contents).Fresh :=
  h.changeBuffer (f := fun b => { b with contents := contents }) hwell p (fun _ => rfl)
    .ContentsChanged rfl

theorem Fresh.unmap (hwell : c.WellFormed) (p : BufferPtr) : (c.unmap p).Fresh :=
  h.changeBuffer (f := fun b => { b with mMapped := false }) hwell p (fun _ => rfl)
    .SubjectUnmapped rfl

theorem Fresh.map (p : BufferPtr) : (c.map p).Fresh := by
  have hkeeps : KeepsRanges (c.modifyBuffer (some p) fun b => { b with mMapped := true }) (c.map p) :=
    keepsRanges_onStateChange (some p) .SubjectMapped
  refine h.of_told hkeeps.vertexArrays rfl ?_
  intro v q _ hmapped
  rw [hkeeps.storage.mapped] at hmapped
  rw [hkeeps.storage.contents]
  by_cases hq : q = p
  · unfold modifyBuffer at hmapped
    simp [hq] at hmapped
  · rw [modifyBuffer_of_ne hq] at hmapped ⊢
    exact .inr ⟨hmapped, .refl _ _⟩

theorem Fresh.writeMapped (hmapped : (c.buffers p).mMapped)
    (contents : Memory) : (c.setContents (some p) contents).Fresh := by
  refine h.of_told (fun _ => .refl _) rfl ?_
  intro v q _ hunmapped
  unfold setContents at hunmapped ⊢
  by_cases hq : q = p
  · unfold modifyBuffer at hunmapped
    simp [hq, hmapped] at hunmapped
  · rw [modifyBuffer_of_ne hq] at hunmapped ⊢
    exact .inr ⟨hunmapped, .refl _ _⟩

end

/-- No cached range is about bytes that are other ones in `contents`. -/
def KeepsIndices (c : Context caps) (p : BufferPtr) (contents : Memory) : Prop :=
  ∀ v, c.elementArrayBuffer v = some p → (c.buffers p).mMapped = false →
    (c.vertexArrays v).mIndexRangeCache.SameIndices (c.buffers p).contents contents

theorem Fresh.readPixels (h : c.Fresh) (hwell : c.WellFormed) {contents : Memory}
    (hindices : ∀ p, c.mBoundBuffers .PixelPack = some p → c.mBoundBuffers .PixelUnpack ≠ some p →
      c.KeepsIndices p contents) : (c.readPixels contents).Fresh := by
  obtain ⟨written, hwritten⟩ : ∃ written, written =
    c.setContents (c.mBoundBuffers .PixelPack) contents := ⟨_, rfl⟩
  have hregistered : Registered written.bound written.observers :=
    hwritten ▸ (hwell.setContents _ contents).registered
  have hvertexArrays : written.vertexArrays = c.vertexArrays := hwritten ▸ rfl
  have hrestart : written.mPrimitiveRestart = c.mPrimitiveRestart := hwritten ▸ rfl
  have hbuffers : ∀ p, (written.buffers p).mMapped = (c.buffers p).mMapped ∧
      (written.buffers p).contents =
        if c.mBoundBuffers .PixelPack = some p then contents else (c.buffers p).contents := by
    intro p
    rw [hwritten]
    unfold Context.setContents Context.modifyBuffer
    dsimp only
    split <;> exact ⟨rfl, rfl⟩
  have hkeeps : KeepsRanges written (c.readPixels contents) :=
    hwritten ▸ keepsRanges_onStateChange _ .ContentsChanged
  refine h.of_told ?_ (hkeeps.restart.trans hrestart) ?_
  · intro v
    rw [← hvertexArrays]
    exact hkeeps.vertexArrays v
  · intro v p hp hmapped
    rw [hkeeps.storage.mapped, (hbuffers p).1] at hmapped
    rw [hkeeps.storage.contents, (hbuffers p).2]
    split
    case isFalse => exact .inr ⟨hmapped, .refl _ _⟩
    case isTrue hpack =>
      by_cases hunpack : c.mBoundBuffers .PixelUnpack = some p
      · left
        have hread : c.readPixels contents = written.onStateChange (some p) .ContentsChanged := by
          rw [hwritten, ← hunpack]
          rfl
        rw [hread]
        apply invalidated_onStateChange hregistered rfl
        unfold elementArrayBuffer
        rwa [hvertexArrays]
      · exact .inr ⟨hmapped, hindices p hpack hunpack v hp hmapped⟩

/-- Telling several buffers invalidates the ranges of every one of them. -/
theorem invalidated_marks (hwell : c.WellFormed) {marks : List (Option BufferPtr)}
    {v : VertexArrayID} (hp : c.elementArrayBuffer v = some p)
    (hmark : some p ∈ marks) : ((marks.foldl (fun c buffer => c.onStateChange buffer
      .ContentsChanged) c).vertexArrays v).mIndexRangeCache.mTypeKey = none := by
  have hinvalid : some p = some p → ((notify (fun buffer (c : Context caps) =>
      c.onStateChange buffer .ContentsChanged) marks c).vertexArrays v).mIndexRangeCache.mTypeKey =
        none := by
    refine notify_restores
      (I := fun c : Context caps => c.WellFormed ∧ c.elementArrayBuffer v = some p)
      (Q := fun buffer (c : Context caps) => buffer = some p →
        (c.vertexArrays v).mIndexRangeCache.mTypeKey = none) ?_ ?_ ?_ ⟨hwell, hp⟩ (.inl hmark)
    · rintro buffer c ⟨hc, hpc⟩
      refine ⟨hc.onStateChange buffer .ContentsChanged, ?_⟩
      exact (onStateChange_told buffer .ContentsChanged v).elementArrayBuffer.trans hpc
    · rintro buffer c ⟨hc, hpc⟩ rfl
      exact invalidated_onStateChange hc.registered rfl hpc
    · rintro buffer other c ⟨hc, hpc⟩ hinvalid hbuffer
      exact onStateChange_preserves (R := fun vao => vao.mIndexRangeCache.mTypeKey = none) other
        (fun vao index hvao => onSubjectStateChange_invalid hvao index .ContentsChanged)
          (hinvalid hbuffer)
  exact hinvalid rfl

theorem Fresh.draw (h : c.Fresh) (hwell : c.WellFormed) {draw : Draw caps}
    (hindices : ∀ p, c.DrawWrites draw p → some p ∉ c.drawMarks draw →
      c.KeepsIndices p (draw.after p)) : (c.draw draw).Fresh := by
  have hbuffers : ∀ p, ((c.drawContents draw).buffers p).mMapped = (c.buffers p).mMapped ∧
      ((c.drawContents draw).buffers p).contents =
        if c.DrawWrites draw p then draw.after p else (c.buffers p).contents := by
    intro p
    unfold Context.drawContents
    dsimp only
    split <;> exact ⟨rfl, rfl⟩
  have hkeeps : KeepsRanges (c.drawContents draw) (c.draw draw) :=
    List.foldlRecOn (motive := fun c' : Context caps => KeepsRanges (c.drawContents draw) c') _ _
      (.refl _) fun _ hc buffer _ => hc.trans (keepsRanges_onStateChange buffer .ContentsChanged)
  refine h.of_told hkeeps.vertexArrays hkeeps.restart ?_
  intro v p hp hmapped
  rw [hkeeps.storage.mapped, (hbuffers p).1] at hmapped
  rw [hkeeps.storage.contents, (hbuffers p).2]
  split
  case isFalse => exact .inr ⟨hmapped, .refl _ _⟩
  case isTrue hwrites =>
    by_cases hmark : some p ∈ c.drawMarks draw
    · exact .inl (invalidated_marks (hwell.drawContents draw) hp hmark)
    · exact .inr ⟨hmapped, hindices p hwrites hmark v hp hmapped⟩

theorem Fresh.setPrimitiveRestart (h : c.Fresh) {enabled : Bool}
    (hranges : enabled = c.mPrimitiveRestart ∨ ∀ v p, c.elementArrayBuffer v = some p →
      (c.buffers p).mMapped = false → (c.vertexArrays v).mIndexRangeCache.mTypeKey = none) :
    (c.setPrimitiveRestart enabled).Fresh := by
  rcases hranges with rfl | hnone
  · exact h
  · intro v p hp hmapped type htype
    have hinvalid := hnone v p hp hmapped
    change (c.vertexArrays v).mIndexRangeCache.mTypeKey = some type at htype
    rw [hinvalid] at htype
    contradiction

theorem Fresh.getIndexRange (h : c.Fresh) (clientMemory : Memory) (type : DrawElementsType)
    (indexCount indices : Nat) : (c.getIndexRange clientMemory type indexCount indices).2.Fresh := by
  unfold Context.getIndexRange
  dsimp only
  split
  case h_1 => exact h
  case h_2 p hp =>
    split
    case h_1 => exact h
    case h_2 =>
      intro v
      rw [vertexArrays_modifyVertexArray]
      by_cases hv : v = c.mVertexArray
      · subst hv
        rw [update_self]
        intro q hq _ type' htype
        have hqp : p = q := some.inj (hp.symm.trans hq)
        have htypes : type = type' := some.inj htype
        subst hqp htypes
        rfl
      · rw [update_of_ne hv]
        exact h v

/-! ## Runs -/

/-- The steps that leave no range behind: primitive restart is changed only when no vertex array
has a range of its element array buffer, and what a draw or a read writes is told or is not what a
range was computed from. -/
def TellsWrites (c : Context caps) : Action caps → Prop
  | .setPrimitiveRestart enabled => enabled = c.mPrimitiveRestart ∨ ∀ v p,
      c.elementArrayBuffer v = some p → (c.buffers p).mMapped = false →
        (c.vertexArrays v).mIndexRangeCache.mTypeKey = none
  | .draw draw => ∀ p, c.DrawWrites draw p → some p ∉ c.drawMarks draw →
      c.KeepsIndices p (draw.after p)
  | .readPixels contents => ∀ p, c.mBoundBuffers .PixelPack = some p →
      c.mBoundBuffers .PixelUnpack ≠ some p → c.KeepsIndices p contents
  | _ => True

theorem Fresh.step (h : c.Fresh) (hwell : c.WellFormed) {action : Action caps}
    (htells : c.TellsWrites action) (hstep : step c action = some c') : c'.Fresh := by
  cases hcontents : action.changesContents with
  | false =>
    have hchanges : Changes ⟨fun _ _ => True, True, False⟩ c c' :=
      step_changes hstep (fun _ _ => trivial) (fun _ => trivial) fun h => by simp_all
    exact hchanges.keeps (fun hc hchange => hc.of_keeps (hchange.keepsRanges id)) h
  | true =>
    obtain ⟨hvalidates, rfl⟩ := step_eq_some hstep
    cases action with
    | bufferData p contents size => exact h.bufferData hwell p contents size
    | bufferSubData p contents => exact h.bufferSubData hwell p contents
    | map p => exact h.map p
    | writeMapped p contents => exact h.writeMapped hvalidates contents
    | unmap p => exact h.unmap hwell p
    | readPixels contents => exact h.readPixels hwell htells
    | draw draw => exact h.draw hwell htells
    | setPrimitiveRestart enabled => exact h.setPrimitiveRestart htells
    | getIndexRange clientMemory type indexCount indices =>
      exact h.getIndexRange clientMemory type indexCount indices
    | _ => contradiction

theorem fresh_initial (validation : Bool) (ids : BufferPtr → BufferID)
    (caches : VertexArrayID → RangeCache) :
    (initial validation ids caches : Context caps).Fresh := by
  intro v p hp
  contradiction

def indexMemory (c : Context caps) (clientMemory : Memory) : Memory :=
  match c.elementArrayBuffer c.mVertexArray with
  | none => clientMemory
  | some p => (c.buffers p).contents

theorem Fresh.getIndexRange_eq (h : c.Fresh) {clientMemory : Memory} {type : DrawElementsType}
    {indexCount indices : Nat}
    (hvalidates : c.validates (.getIndexRange clientMemory type indexCount indices)) :
    (c.getIndexRange clientMemory type indexCount indices).1 =
      computeIndexRange (c.indexMemory clientMemory)
        ⟨type, indices, indexCount, c.mPrimitiveRestart⟩ := by
  unfold Context.getIndexRange indexMemory
  dsimp only
  cases hbuffer : c.elementArrayBuffer c.mVertexArray with
  | none => rfl
  | some p =>
    cases hget : (c.vertexArrays c.mVertexArray).mIndexRangeCache.get type indexCount indices with
    | none => rfl
    | some range =>
      obtain ⟨⟨htype, hcount, hoffset⟩, hpayload⟩ := ite_none_right_eq_some.mp hget
      have hmapped : (c.buffers p).mMapped = false := by
        simpa [validates, hbuffer, isMapped] using hvalidates
      have hrange := h c.mVertexArray p hbuffer hmapped type htype
      rw [← some.inj hpayload, hrange]
      unfold RangeCache.key
      rw [hcount, hoffset]

/-- Along every run whose writes are told the range of the current vertex array is the one of the
current contents under the current setting. -/
theorem getIndexRange_fresh {validation : Bool} {ids : BufferPtr → BufferID}
    {caches : VertexArrayID → RangeCache} {actions : List (Action caps)}
    (hrun : Run step TellsWrites (initial validation ids caches) actions c)
    (clientMemory : Memory) (type : DrawElementsType) (indexCount indices : Nat)
    (hvalidates : c.validates (.getIndexRange clientMemory type indexCount indices) = true) :
    (c.getIndexRange clientMemory type indexCount indices).1 =
      computeIndexRange (c.indexMemory clientMemory)
        ⟨type, indices, indexCount, c.mPrimitiveRestart⟩ := by
  have hpreserved : ∀ c (action : Action caps) c', c.WellFormed ∧ c.Fresh →
      c.TellsWrites action → step c action = some c' → c'.WellFormed ∧ c'.Fresh :=
    fun _ _ _ hold htells hstep => ⟨hold.1.step hstep, hold.2.step hold.1 htells hstep⟩
  have hinvariant : c.WellFormed ∧ c.Fresh :=
    hrun.invariant hpreserved
      ⟨wellFormed_initial validation ids caches, fresh_initial validation ids caches⟩
  exact hinvariant.2.getIndexRange_eq hvalidates

def restartBytes : Memory := fun i => ([1, 255, 2] : List UInt8).getD i 0

def elementCalls : List (Action ⟨0, 0, 0, 0⟩) :=
  [.setPrimitiveRestart false, .bindBuffer .ElementArray (some 0), .bufferData 0 restartBytes 3,
    .getIndexRange restartBytes .UnsignedByte 3 0, .bufferSubData 0 fun _ => 7]

theorem getIndexRange_fresh_elementCalls :
    ∃ c, Run step TellsWrites emptyContext elementCalls c ∧
      c.validates (.getIndexRange restartBytes .UnsignedByte 3 0) = true ∧
        (c.getIndexRange restartBytes .UnsignedByte 3 0).1 =
          computeIndexRange (c.indexMemory restartBytes) ⟨.UnsignedByte, 0, 3, c.mPrimitiveRestart⟩ := by
  -- No draw or read is in the run, and primitive restart is set to what it is.
  obtain ⟨check, hcheck⟩ : ∃ check : Context ⟨0, 0, 0, 0⟩ → Action ⟨0, 0, 0, 0⟩ → Bool,
      check = fun c action => match action with
        | .setPrimitiveRestart enabled => enabled == c.mPrimitiveRestart
        | .draw _ => false
        | .readPixels _ => false
        | _ => true := ⟨_, rfl⟩
  have hallowed : ∀ c action, check c action = true → c.TellsWrites action := by
    intro c action h
    rw [hcheck] at h
    cases action with
    | setPrimitiveRestart enabled => exact .inl (by simpa using h)
    | draw draw => contradiction
    | readPixels contents => contradiction
    | _ => trivial
  have hexec : ((exec (checked step check) emptyContext elementCalls).map fun c =>
      c.validates (.getIndexRange restartBytes .UnsignedByte 3 0)) = some true := by
    rw [hcheck]
    decide +kernel
  obtain ⟨c, hc, hvalidates⟩ := map_eq_some_iff.mp hexec
  have hrun : Run step TellsWrites emptyContext elementCalls c := .of_exec_checked check hallowed hc
  exact ⟨c, hrun, hvalidates, getIndexRange_fresh hrun restartBytes .UnsignedByte 3 0 hvalidates⟩

/-- A range is asked for with the restart index as an index, and then primitive restart is
enabled. -/
def restartCalls : List (Action ⟨0, 0, 0, 0⟩) :=
  [.bindBuffer .ElementArray (some 0), .bufferData 0 restartBytes 3,
    .getIndexRange restartBytes .UnsignedByte 3 0, .setPrimitiveRestart true]

theorem vertexArrayIndexRange_stale :
    ¬ ∀ (actions : List (Action ⟨0, 0, 0, 0⟩)) (c : Context ⟨0, 0, 0, 0⟩),
      Run step anyStep emptyContext actions c →
        ∀ (clientMemory : Memory) (type : DrawElementsType) (indexCount indices : Nat),
          c.validates (.getIndexRange clientMemory type indexCount indices) = true →
            (c.getIndexRange clientMemory type indexCount indices).1 =
              computeIndexRange (c.indexMemory clientMemory)
                ⟨type, indices, indexCount, c.mPrimitiveRestart⟩ := by
  intro h
  have hexec : ((exec step emptyContext restartCalls).map fun c =>
      (c.validates (.getIndexRange restartBytes .UnsignedByte 3 0),
        (c.getIndexRange restartBytes .UnsignedByte 3 0).1.last,
          (computeIndexRange (c.indexMemory restartBytes)
            ⟨.UnsignedByte, 0, 3, c.mPrimitiveRestart⟩).last)) = some (true, 255, 2) := by
    decide +kernel
  obtain ⟨c, hc, hvalues⟩ := map_eq_some_iff.mp hexec
  obtain ⟨hvalidates, hlast⟩ := Prod.mk.inj hvalues
  obtain ⟨hcached, hcomputed⟩ := Prod.mk.inj hlast
  have heq := h restartCalls c (.of_exec hc) restartBytes .UnsignedByte 3 0 hvalidates
  rw [heq, hcomputed] at hcached
  contradiction

end Context

end MetalAngle.Gl.Bindings
