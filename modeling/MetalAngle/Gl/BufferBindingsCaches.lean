import MetalAngle.Gl.VertexArrayCaches

/-!
# The caches of the vertex arrays of a context

Along every run with validation of buffer accesses, each vertex array has the limits and the mapped
attributes of its current formats, bindings and buffers, as long as no pointer call changes only the
format and no buffer is deleted that attributes of the current vertex array use.
-/

namespace MetalAngle.Gl.Bindings

open LabelledRun Observers VertexArray List
open Function (update update_self update_of_ne)

theorem VertexArray.Coherent.congr {vao : VertexArray} {buffers buffers' : Buffers}
    (h : Coherent buffers vao) (hsize : ∀ p, (buffers' p).mSize = (buffers p).mSize)
    (hmapped : ∀ p, (buffers' p).mMapped = (buffers p).mMapped) : Coherent buffers' vao :=
  ⟨fun i => (h.limit i).congr rfl rfl rfl (.refl _) fun p _ => hsize p,
    fun i => (h.map i).congr rfl rfl fun p _ => hmapped p⟩

namespace Context

variable {caps : Caps} {c c' : Context caps}

structure Coherent (c : Context caps) : Prop where
  wellFormed : c.WellFormed
  validation : c.mBufferAccessValidationEnabled
  validations : ∀ v, (c.vertexArrays v).mBufferAccessValidationEnabled
  vertexArrays : ∀ v, VertexArray.Coherent c.buffers (c.vertexArrays v)

theorem coherent_initial (ids : BufferPtr → BufferID) (caches : VertexArrayID → RangeCache) :
    (initial true ids caches : Context caps).Coherent where
  wellFormed := wellFormed_initial true ids caches
  validation := rfl
  validations _ := rfl
  vertexArrays v := coherent_new true (caches v)

theorem Coherent.of_buffers (h : c.Coherent) (hwell : c'.WellFormed)
    (hvertexArrays : c'.vertexArrays = c.vertexArrays)
    (hsize : ∀ p, (c'.buffers p).mSize = (c.buffers p).mSize)
    (hmapped : ∀ p, (c'.buffers p).mMapped = (c.buffers p).mMapped)
    (hvalidation : c'.mBufferAccessValidationEnabled = c.mBufferAccessValidationEnabled) :
    c'.Coherent where
  wellFormed := hwell
  validation := hvalidation.trans h.validation
  validations v := by
    rw [hvertexArrays]
    exact h.validations v
  vertexArrays v := by
    rw [hvertexArrays]
    exact (h.vertexArrays v).congr hsize hmapped

theorem Coherent.of_eq (h : c.Coherent) (hbuffers : c'.buffers = c.buffers)
    (hvertexArrays : c'.vertexArrays = c.vertexArrays)
    (hvalidation : c'.mBufferAccessValidationEnabled = c.mBufferAccessValidationEnabled) :
    c'.Coherent :=
  h.of_buffers (h.wellFormed.of_eq hbuffers hvertexArrays) hvertexArrays (fun p => by rw [hbuffers])
    (fun p => by rw [hbuffers]) hvalidation

variable {v : VertexArrayID}

/-- One vertex array becomes another one that is coherent. -/
theorem Coherent.of_update (h : c.Coherent) {vao : VertexArray}
    (hwell : c'.WellFormed) (hvertexArrays : c'.vertexArrays = update c.vertexArrays v vao)
    (hstorage : SameStorage c.buffers c'.buffers)
    (hvalidation : c'.mBufferAccessValidationEnabled = c.mBufferAccessValidationEnabled)
    (hvao : vao.mBufferAccessValidationEnabled)
    (hcoherent : VertexArray.Coherent c.buffers vao) : c'.Coherent := by
  have hevery : ∀ w, (c'.vertexArrays w).mBufferAccessValidationEnabled ∧
      VertexArray.Coherent c.buffers (c'.vertexArrays w) := by
    intro w
    rw [hvertexArrays]
    by_cases hw : w = v
    · subst hw
      rw [update_self]
      exact ⟨hvao, hcoherent⟩
    · rw [update_of_ne hw]
      exact ⟨h.validations w, h.vertexArrays w⟩
  constructor
  case wellFormed => exact hwell
  case validation => exact hvalidation.trans h.validation
  case validations => exact fun w => (hevery w).1
  case vertexArrays => exact fun w => (hevery w).2.congr hstorage.size hstorage.mapped

theorem Coherent.modifyVertexArray (h : c.Coherent)
    {f : VertexArray → VertexArray} (hwell : (c.modifyVertexArray v f).WellFormed)
    (hvalidation : (f (c.vertexArrays v)).mBufferAccessValidationEnabled =
      (c.vertexArrays v).mBufferAccessValidationEnabled)
    (hlimit : ∀ i, VertexArray.LimitAt c.buffers (f (c.vertexArrays v)) i)
    (hmap : ∀ i, VertexArray.MapAt c.buffers (f (c.vertexArrays v)) i) :
    (c.modifyVertexArray v f).Coherent :=
  h.of_update hwell rfl (.refl _) rfl (hvalidation.trans (h.validations v)) ⟨hlimit, hmap⟩

theorem Coherent.onStateChange (h : c.Coherent) (buffer : Option BufferPtr)
    (message : SubjectMessage) : (c.onStateChange buffer message).Coherent := by
  have hkept : ∀ v, ((c.onStateChange buffer message).vertexArrays v).WellFormed ∧
      VertexArray.Coherent c.buffers ((c.onStateChange buffer message).vertexArrays v) := by
    intro v
    refine onStateChange_preserves
      (R := fun vao => vao.WellFormed ∧ VertexArray.Coherent c.buffers vao) buffer ?_
      ⟨h.wellFormed.vertexArrays v, h.vertexArrays v⟩
    rintro vao index ⟨hwell, hcoherent⟩
    exact ⟨hwell.onSubjectStateChange index message,
      fun i => (hcoherent.limit i).onSubjectStateChange hwell index message,
      fun i => (hcoherent.map i).onSubjectStateChange hwell index message⟩
  constructor
  case wellFormed => exact h.wellFormed.onStateChange buffer message
  case validation => exact h.validation
  case validations =>
    intro v
    rw [(onStateChange_told buffer message v).validation]
    exact h.validations v
  case vertexArrays => exact fun v => (hkept v).2

/-! ## Bindings of the context -/

theorem Coherent.modifyBuffer (h : c.Coherent) (buffer : Option BufferPtr) {f : Buffer → Buffer}
    (hobservers : ∀ b, (f b).mObservers = b.mObservers) (hsize : ∀ b, (f b).mSize = b.mSize)
    (hmapped : ∀ b, (f b).mMapped = b.mMapped) : (c.modifyBuffer buffer f).Coherent := by
  apply h.of_buffers (h.wellFormed.modifyBuffer buffer hobservers) rfl
  all_goals unfold Context.modifyBuffer
  case hsize =>
    intro p
    dsimp only
    split
    · exact hsize _
    · rfl
  case hmapped =>
    intro p
    dsimp only
    split
    · exact hmapped _
    · rfl
  case hvalidation => rfl

theorem Coherent.onNonTFBindingChanged (h : c.Coherent) (buffer : Option BufferPtr) (incr : Int) :
    (c.onNonTFBindingChanged buffer incr).Coherent :=
  h.modifyBuffer buffer (fun _ => rfl) (fun _ => rfl) fun _ => rfl

theorem Coherent.onTFBindingChanged (h : c.Coherent) (buffer : Option BufferPtr)
    (bound indexed : Bool) : (c.onTFBindingChanged buffer bound indexed).Coherent := by
  cases indexed with
  | false =>
      exact h.modifyBuffer (f := fun b => b.onTFBindingChanged bound false) buffer (fun _ => rfl)
        (fun _ => rfl) fun _ => rfl
  | true =>
      have hcount : (c.modifyBuffer buffer fun b => b.onTFBindingChanged bound true).Coherent :=
        h.modifyBuffer buffer (fun _ => rfl) (fun _ => rfl) fun _ => rfl
      exact hcount.onStateChange buffer .BindingChanged

theorem sameStorage_setElementArrayBuffer (buffer : Option BufferPtr) :
    SameStorage c.buffers (c.setElementArrayBuffer buffer).buffers := by
  have hbuffers : (c.setElementArrayBuffer buffer).buffers =
      ((((c.removeObserver (c.elementArrayBuffer c.mVertexArray) (c.mVertexArray,
        .elementArrayBuffer)).onNonTFBindingChanged (c.elementArrayBuffer c.mVertexArray)
          (-1)).addObserver buffer (c.mVertexArray, .elementArrayBuffer)).onNonTFBindingChanged
            buffer 1).buffers := rfl
  rw [hbuffers]
  exact (((sameStorage_removeObserver _ _).trans (sameStorage_onNonTFBindingChanged _ (-1))).trans
    (sameStorage_addObserver _ _)).trans (sameStorage_onNonTFBindingChanged _ 1)

theorem Coherent.changeElementArrayBuffer (h : c.Coherent)
    {buffer : Option BufferPtr} {cache : RangeCache} (hwell : c'.WellFormed)
    (hvertexArrays : c'.vertexArrays = update c.vertexArrays v
      { c.vertexArrays v with mElementArrayBuffer := buffer, mIndexRangeCache := cache })
    (hstorage : SameStorage c.buffers c'.buffers)
    (hvalidation : c'.mBufferAccessValidationEnabled = c.mBufferAccessValidationEnabled) :
    c'.Coherent :=
  h.of_update hwell hvertexArrays hstorage hvalidation (h.validations v)
    ⟨(h.vertexArrays v).limit, (h.vertexArrays v).map⟩

theorem Coherent.setElementArrayBuffer (h : c.Coherent) (buffer : Option BufferPtr) :
    (c.setElementArrayBuffer buffer).Coherent :=
  h.changeElementArrayBuffer (h.wellFormed.setElementArrayBuffer buffer)
    (vertexArrays_setElementArrayBuffer buffer) (sameStorage_setElementArrayBuffer buffer) rfl

/-! ## Calls on the current vertex array -/

variable (b : AttribIndex) (boundBuffer : Option BufferPtr) (offset : Int) (stride : Nat)

/-- A binding is changed: the limits of its own attributes may have been wrong. -/
theorem coherent_bindVertexBufferImpl (hwell : c.WellFormed)
    (hvalidation : c.mBufferAccessValidationEnabled)
    (hvalidations : ∀ v, (c.vertexArrays v).mBufferAccessValidationEnabled)
    (hlimit : ∀ v i, v ≠ c.mVertexArray ∨
        ((c.vertexArrays v).mVertexAttributes i).bindingIndex ≠ b ∨
          (c.vertexBuffer c.mVertexArray b = boundBuffer ∧
            stride = ((c.vertexArrays c.mVertexArray).mVertexBindings b).mStride ∧
              offset = ((c.vertexArrays c.mVertexArray).mVertexBindings b).mOffset) →
      VertexArray.LimitAt c.buffers (c.vertexArrays v) i)
    (hmap : ∀ v i, VertexArray.MapAt c.buffers (c.vertexArrays v) i) :
    (c.bindVertexBufferImpl b boundBuffer offset stride).Coherent := by
  have hbound : (c.bindVertexBufferImpl b boundBuffer offset stride).WellFormed :=
    hwell.bindVertexBufferImpl b boundBuffer offset stride
  revert hbound
  unfold bindVertexBufferImpl
  dsimp only
  split
  case isTrue hsame =>
    intro hbound
    exact ⟨hbound, hvalidation, hvalidations,
      fun v => ⟨fun i => hlimit v i (.inr (.inr hsame)), hmap v⟩⟩
  case isFalse hchanged =>
    intro hbound
    have hsame : SameStorage c.buffers (c.rebindVertexBuffer b boundBuffer offset stride).buffers :=
      sameStorage_rebindVertexBuffer b boundBuffer offset stride
    have hevery : ∀ w, ((c.rebindVertexBuffer b boundBuffer offset stride).vertexArrays
          w).mBufferAccessValidationEnabled ∧
        VertexArray.Coherent (c.rebindVertexBuffer b boundBuffer offset stride).buffers
          ((c.rebindVertexBuffer b boundBuffer offset stride).vertexArrays w) := by
      intro w
      rw [vertexArrays_rebindVertexBuffer]
      by_cases hw : w = c.mVertexArray
      · subst hw
        rw [update_self]
        refine ⟨?_, fun i => ?_, fun i => ?_⟩
        · rw [← hvalidations c.mVertexArray]
          exact (bindBuffer_told _ b boundBuffer offset stride).validation
        · apply VertexArray.LimitAt.bindBuffer boundBuffer offset stride
            (hwell.vertexArrays c.mVertexArray) (hvalidations c.mVertexArray)
          intro hi
          have hold := hlimit c.mVertexArray i (.inr (.inl hi))
          exact hold.congr rfl rfl rfl (.refl _) fun p _ => hsame.size p
        · have hold : VertexArray.MapAt (c.rebindVertexBuffer b boundBuffer offset stride).buffers
              (c.vertexArrays c.mVertexArray) i :=
            (hmap c.mVertexArray i).congr rfl rfl fun p _ => hsame.mapped p
          exact hold.bindBuffer boundBuffer offset stride (hwell.vertexArrays c.mVertexArray)
      · rw [update_of_ne hw]
        refine ⟨hvalidations w, ?_⟩
        have hold : VertexArray.Coherent c.buffers (c.vertexArrays w) :=
          ⟨fun i => hlimit w i (.inl hw), hmap w⟩
        exact hold.congr hsame.size hsame.mapped
    exact ⟨hbound, hvalidation, fun w => (hevery w).1, fun w => (hevery w).2⟩

theorem Coherent.bindVertexBufferImpl (h : c.Coherent) :
    (c.bindVertexBufferImpl b boundBuffer offset stride).Coherent :=
  coherent_bindVertexBufferImpl b boundBuffer offset stride h.wellFormed h.validation h.validations
    (fun v i _ => (h.vertexArrays v).limit i) fun v => (h.vertexArrays v).map

/-- A pointer call leaves a limit behind when the attribute has its own binding, that binding has
the same buffer, stride and offset already, and only the format is another one. -/
def KeepsFormat (c : Context caps) (i : AttribIndex) (format : FormatID) (stride : Nat)
    (pointer : Int) : Prop :=
  let attrib := (c.vertexArrays c.mVertexArray).mVertexAttributes i
  let binding := (c.vertexArrays c.mVertexArray).mVertexBindings i
  attrib.bindingIndex = i ∧ binding.mBuffer.isSome ∧ binding.mBuffer = c.mBoundBuffers .Array ∧
      (if stride ≠ 0 then stride else format.pixelBytes) = binding.mStride ∧
        pointer = binding.mOffset →
    format.pixelBytes = attrib.format.pixelBytes ∧ attrib.relativeOffset = 0

instance (i : AttribIndex) (format : FormatID) (stride : Nat) (pointer : Int) :
    Decidable (c.KeepsFormat i format stride pointer) :=
  inferInstanceAs (Decidable (_ ∧ _ ∧ _ ∧ _ ∧ _ → _ ∧ _))

section

variable (h : c.Coherent)
include h

theorem Coherent.vertexAttribPointer {i : AttribIndex} {format : FormatID}
    {pointer : Int} (hkeeps : c.KeepsFormat i format stride pointer) :
    (c.vertexAttribPointer i format stride pointer).Coherent := by
  unfold Context.vertexAttribPointer
  dsimp only
  obtain ⟨vao, hvao⟩ : ∃ vao, vao = c.vertexArrays c.mVertexArray := ⟨_, rfl⟩
  obtain ⟨changed, hchanged⟩ : ∃ changed, changed = (vao.setVertexAttribFormatImpl i format
      0).setVertexAttribBinding c.buffers i i := ⟨_, rfl⟩
  have hvalidation : (vao.setVertexAttribFormatImpl i format 0).mBufferAccessValidationEnabled =
      true := by
    rw [setVertexAttribFormatImpl_validation, hvao]
    exact h.validations _
  have hold : VertexArray.Coherent c.buffers vao := hvao ▸ h.vertexArrays c.mVertexArray
  have hwell : (c.modifyVertexArray c.mVertexArray fun vao =>
      (vao.setVertexAttribFormatImpl i format 0).setVertexAttribBinding c.buffers i i).WellFormed :=
    h.wellFormed.setFormatAndBinding i format 0
  apply coherent_bindVertexBufferImpl _ _ _ _ hwell h.validation
  case hvalidations =>
    intro w
    rw [vertexArrays_modifyVertexArray]
    by_cases hw : w = c.mVertexArray
    · subst hw
      rw [update_self, setVertexAttribBinding_validation, ← hvao]
      exact hvalidation
    · rw [update_of_ne hw]
      exact h.validations w
  case hmap =>
    intro w j
    rw [vertexArrays_modifyVertexArray]
    by_cases hw : w = c.mVertexArray
    · subst hw
      rw [update_self, ← hvao]
      exact ((hold.map j).setVertexAttribFormatImpl i format 0).setVertexAttribBinding hvalidation
    · rw [update_of_ne hw]
      exact (h.vertexArrays w).map j
  case hlimit =>
    intro w j
    unfold vertexBuffer
    rw [mVertexArray_modifyVertexArray, buffers_modifyVertexArray, vertexArrays_modifyVertexArray,
      update_self, ← hvao, ← hchanged]
    by_cases hw : w = c.mVertexArray
    case neg =>
      rw [update_of_ne hw]
      exact fun _ => (h.vertexArrays w).limit j
    subst hw
    rw [update_self]
    intro hkept
    have hindex : (changed.mVertexAttributes i).bindingIndex = i := by
      rw [hchanged]
      exact setVertexAttribBinding_bindingIndex i i
    have hfetch : VertexArray.SameFetch (vao.mVertexBindings i) (changed.mVertexBindings i) := by
      rw [hchanged, ← setVertexAttribFormatImpl_bindings i format 0]
      exact setVertexAttribBinding_sameFetch i i i
    rw [hchanged]
    apply VertexArray.LimitAt.setVertexAttribBinding hvalidation
    intro hown
    apply (hold.limit j).setVertexAttribFormatImpl
    intro hj
    subst hj
    -- The attribute was at its own binding, and nothing is bound anew there.
    have hown := hown rfl
    rw [setVertexAttribFormatImpl_attribute] at hown
    obtain ⟨hbuffer, hstride, hoffset⟩ :=
      (hkept.resolve_left (not_not.mpr rfl)).resolve_left (not_not.mpr hindex)
    rw [hfetch.buffer] at hbuffer
    rw [hfetch.stride] at hstride
    rw [hfetch.offset] at hoffset
    cases hbound : (vao.bindingOf j).mBuffer with
    | none => exact .inl rfl
    | some p =>
      unfold bindingOf at hbound
      rw [hown] at hbound
      rw [hbound] at hbuffer
      rw [← hbuffer] at hoffset
      unfold KeepsFormat at hkeeps
      dsimp only at hkeeps
      rw [← hvao, hbound] at hkeeps
      exact .inr ((hkeeps ⟨hown, rfl, hbuffer, hstride, hoffset⟩).imp_right Eq.symm)

theorem Coherent.setVertexAttribFormat (i : AttribIndex) (format : FormatID)
    (relativeOffset : Nat) : (c.setVertexAttribFormat i format relativeOffset).Coherent := by
  apply h.modifyVertexArray (h.wellFormed.setVertexAttribFormat i format relativeOffset)
  · exact setVertexAttribFormatImpl_validation i format relativeOffset
  · exact fun j => ((h.vertexArrays _).limit j).setVertexAttribFormat i format relativeOffset
  · exact fun j => ((h.vertexArrays _).map j).setVertexAttribFormat i format relativeOffset

theorem Coherent.setVertexAttribBinding (i b : AttribIndex) :
    (c.setVertexAttribBinding i b).Coherent := by
  apply h.modifyVertexArray (h.wellFormed.setVertexAttribBinding i b)
  · exact setVertexAttribBinding_validation i b
  · exact fun j => .setVertexAttribBinding (h.validations _) fun _ => (h.vertexArrays _).limit j
  · exact fun j => ((h.vertexArrays _).map j).setVertexAttribBinding (h.validations _)

theorem Coherent.setVertexBindingDivisor (b : AttribIndex) (divisor : Nat) :
    (c.setVertexBindingDivisor b divisor).Coherent := by
  apply h.modifyVertexArray (h.wellFormed.setVertexBindingDivisor b divisor)
  · rfl
  · exact fun j => ((h.vertexArrays _).limit j).setVertexBindingDivisor
      (h.wellFormed.vertexArrays _) b divisor
  · exact fun j => ((h.vertexArrays _).map j).setVertexBindingDivisor b divisor

theorem Coherent.setVertexAttribDivisor (i : AttribIndex) (divisor : Nat) :
    (c.setVertexAttribDivisor i divisor).Coherent := by
  have hvalidation := h.validations c.mVertexArray
  apply h.modifyVertexArray (h.wellFormed.setVertexAttribDivisor i divisor)
  · exact setVertexAttribBinding_validation i i
  · intro j
    apply VertexArray.LimitAt.setVertexBindingDivisor
    · exact .setVertexAttribBinding hvalidation fun _ => (h.vertexArrays _).limit j
    · exact (h.wellFormed.vertexArrays _).setVertexAttribBinding i i
  · intro j
    apply VertexArray.MapAt.setVertexBindingDivisor
    exact ((h.vertexArrays _).map j).setVertexAttribBinding hvalidation

theorem Coherent.setEnableVertexAttribArray (i : AttribIndex) (enabled : Bool) :
    (c.setEnableVertexAttribArray i enabled).Coherent := by
  apply h.modifyVertexArray (h.wellFormed.setEnableVertexAttribArray i enabled)
  · unfold enableAttribute
    split <;> rfl
  · exact fun j => ((h.vertexArrays _).limit j).enableAttribute i enabled
  · exact fun j => ((h.vertexArrays _).map j).enableAttribute i enabled

end

/-! ## Container objects -/

theorem sameStorage_destroyVertexArray (v : VertexArrayID) (cache : RangeCache) :
    SameStorage c.buffers (c.destroyVertexArray v cache).buffers ∧
      (c.destroyVertexArray v cache).mBufferAccessValidationEnabled =
        c.mBufferAccessValidationEnabled := by
  obtain ⟨hstorage, hvalidation⟩ := foldlRecOn (motive := fun c' : Context caps =>
      SameStorage c.buffers c'.buffers ∧
        c'.mBufferAccessValidationEnabled = c.mBufferAccessValidationEnabled)
    (finRange maxVertexAttribs) (fun c b => c.unbindVertexBuffer v b) ⟨.refl _, rfl⟩
    fun _ hc _ _ => ⟨hc.1.trans (sameStorage_removeObserver _ _), hc.2⟩
  unfold destroyVertexArray
  generalize (finRange maxVertexAttribs).foldl (fun c b => c.unbindVertexBuffer v b) c = emptied
    at hstorage hvalidation ⊢
  exact ⟨hstorage.trans (sameStorage_removeObserver _ _), hvalidation⟩

theorem Coherent.destroyVertexArray (h : c.Coherent) (v : VertexArrayID) (cache : RangeCache) :
    (c.destroyVertexArray v cache).Coherent := by
  obtain ⟨hstorage, hvalidation⟩ := sameStorage_destroyVertexArray (c := c) v cache
  exact h.of_update (h.wellFormed.destroyVertexArray v cache)
    (vertexArrays_destroyVertexArray v cache) hstorage hvalidation h.validation
    (coherent_new _ cache)

/-! ## Deletion of buffers -/

/-- No attribute of the current vertex array uses a buffer of the name. -/
def UnusedName (c : Context caps) (bufferID : BufferID) : Prop :=
  ∀ i, ∀ p ∈ c.vertexBuffer c.mVertexArray
    ((c.vertexArrays c.mVertexArray).mVertexAttributes i).bindingIndex,
      (c.buffers p).id ≠ bufferID

instance (bufferID : BufferID) : Decidable (c.UnusedName bufferID) :=
  inferInstanceAs (Decidable (∀ _, _))

variable {bufferID : BufferID}

section

variable (h : c.UnusedName bufferID)
include h

theorem UnusedName.of_told (hid : ∀ p, (c'.buffers p).id = (c.buffers p).id) (hcurrent : c'.mVertexArray = c.mVertexArray)
    (htold : ∀ v, VertexArray.Told (c.vertexArrays v) (c'.vertexArrays v)) :
    c'.UnusedName bufferID := by
  unfold UnusedName vertexBuffer at h ⊢
  intro i p hp
  rw [hcurrent, (htold _).bindings, (htold _).bindingIndex] at hp
  rw [hid p]
  exact h i p hp

theorem UnusedName.onNonTFBindingChanged (buffer : Option BufferPtr) (incr : Int) :
    (c.onNonTFBindingChanged buffer incr).UnusedName bufferID :=
  h.of_told (sameStorage_onNonTFBindingChanged buffer incr).id rfl fun _ => .refl _

theorem UnusedName.onTFBindingChanged (buffer : Option BufferPtr) (bound indexed : Bool) :
    (c.onTFBindingChanged buffer bound indexed).UnusedName bufferID := by
  apply h.of_told (sameStorage_onTFBindingChanged buffer bound indexed).id
  · cases indexed <;> rfl
  · intro v
    cases indexed with
    | false => exact .refl _
    | true =>
        have htold := onStateChange_told (c := c.modifyBuffer buffer fun b =>
          b.onTFBindingChanged bound true) buffer .BindingChanged v
        exact htold

theorem UnusedName.updateBufferBinding (target : BufferBinding) (buffer : Option BufferPtr) :
    (c.updateBufferBinding target buffer).UnusedName bufferID := by
  unfold Context.updateBufferBinding
  split
  · apply onTFBindingChanged
    exact (h.onTFBindingChanged _ false false).of_told (fun _ => rfl) rfl fun _ => .refl _
  · apply onNonTFBindingChanged
    exact (h.onNonTFBindingChanged _ (-1)).of_told (fun _ => rfl) rfl fun _ => .refl _

end

theorem detachVertexBuffer_buffers (b : AttribIndex) (bufferID : BufferID) :
    (c.detachVertexBuffer bufferID b).mVertexArray = c.mVertexArray ∧
      SameStorage c.buffers (c.detachVertexBuffer bufferID b).buffers := by
  unfold detachVertexBuffer
  dsimp only
  split
  · exact ⟨rfl, (sameStorage_onNonTFBindingChanged _ (-1)).trans (sameStorage_removeObserver _ _)⟩
  · exact ⟨rfl, .refl _⟩

theorem detachVertexBuffer_validation (b : AttribIndex) (bufferID : BufferID) :
    (c.detachVertexBuffer bufferID b).mBufferAccessValidationEnabled =
      c.mBufferAccessValidationEnabled := by
  unfold detachVertexBuffer
  dsimp only
  split <;> rfl

theorem UnusedName.detachVertexBuffer (h : c.UnusedName bufferID)
    (b : AttribIndex) : (c.detachVertexBuffer bufferID b).UnusedName bufferID := by
  by_cases hid : c.bufferId (c.vertexBuffer c.mVertexArray b) = bufferID
  case neg =>
    unfold Context.detachVertexBuffer
    dsimp only
    rwa [if_neg hid]
  case pos =>
    have hvertexArrays := vertexArrays_detachVertexBuffer b bufferID hid
    obtain ⟨hcurrent, hstorage⟩ := detachVertexBuffer_buffers (c := c) b bufferID
    unfold UnusedName vertexBuffer at h ⊢
    intro i p hp
    rw [hcurrent, hvertexArrays, update_self, detachBuffer_bindings,
      detachBuffer_attributes] at hp
    rw [hstorage.id p]
    apply h i p
    by_cases hi : ((c.vertexArrays c.mVertexArray).mVertexAttributes i).bindingIndex = b
    · rw [hi, update_self] at hp
      cases hp
    · rwa [update_of_ne hi] at hp

theorem Coherent.detachVertexBuffer (h : c.Coherent)
    (hunused : c.UnusedName bufferID) (b : AttribIndex) :
    (c.detachVertexBuffer bufferID b).Coherent := by
  by_cases hid : c.bufferId (c.vertexBuffer c.mVertexArray b) = bufferID
  case neg =>
    unfold Context.detachVertexBuffer
    dsimp only
    rwa [if_neg hid]
  case pos =>
    apply h.of_update (h.wellFormed.detachVertexBuffer b bufferID)
      (vertexArrays_detachVertexBuffer b bufferID hid) (detachVertexBuffer_buffers b bufferID).2
    · exact detachVertexBuffer_validation b bufferID
    · exact h.validations c.mVertexArray
    · apply (h.vertexArrays c.mVertexArray).detachBuffer
      intro i hi
      cases hbuffer : ((c.vertexArrays c.mVertexArray).mVertexBindings b).mBuffer with
      | none => rfl
      | some p =>
          have hused : c.vertexBuffer c.mVertexArray b = some p := hbuffer
          rw [hused] at hid
          rw [← hi] at hused
          exact absurd hid (hunused i p hused)

theorem Coherent.detachElementArrayBuffer (h : c.Coherent) (bufferID : BufferID) :
    (c.detachElementArrayBuffer bufferID).Coherent := by
  have hwell := h.wellFormed.detachElementArrayBuffer bufferID
  revert hwell
  unfold Context.detachElementArrayBuffer
  dsimp only
  split
  · intro hwell
    refine (h.onNonTFBindingChanged (c.elementArrayBuffer c.mVertexArray)
      (-1)).changeElementArrayBuffer hwell (vertexArrays_unbindElementArrayBuffer c.mVertexArray)
        ?_ rfl
    exact sameStorage_removeObserver _ _
  · exact fun _ => h

theorem UnusedName.detachTransformFeedbackBuffer
    (h : c.UnusedName bufferID) (index : Fin caps.maxTransformFeedbackSeparateAttributes) :
    (c.detachTransformFeedbackBuffer bufferID index).UnusedName bufferID := by
  unfold Context.detachTransformFeedbackBuffer
  dsimp only
  split
  · exact (h.onTFBindingChanged _ false true).of_told (fun _ => rfl) rfl fun _ => .refl _
  · exact h

theorem UnusedName.detachBoundBuffer (h : c.UnusedName bufferID)
    (target : BufferBinding) : (c.detachBoundBuffer bufferID target).UnusedName bufferID := by
  unfold Context.detachBoundBuffer
  split
  · exact h.updateBufferBinding target none
  · exact h

/-! ## Contents -/

theorem Coherent.setContents (h : c.Coherent) (buffer : Option BufferPtr) (contents : Memory) :
    (c.setContents buffer contents).Coherent :=
  h.modifyBuffer buffer (fun _ => rfl) (fun _ => rfl) fun _ => rfl

/-- What holds of an attribute after a notification: that the buffer of its own binding changed
establishes it, or it held before. -/
theorem onStateChange_restores_attribute {R : VertexArray → Prop} {p : BufferPtr}
    {message : SubjectMessage} {i : AttribIndex} (hwell : c.WellFormed)
    (hvalidation : (c.vertexArrays v).mBufferAccessValidationEnabled)
    (hself : ∀ vao : VertexArray, vao.WellFormed → vao.mBufferAccessValidationEnabled →
      R (vao.onSubjectStateChange c.buffers
        (.vertexBuffer (vao.mVertexAttributes i).bindingIndex) message))
    (hkept : ∀ vao : VertexArray, ∀ index, vao.WellFormed → R vao →
      R (vao.onSubjectStateChange c.buffers index message))
    (h : c.vertexBuffer v ((c.vertexArrays v).mVertexAttributes i).bindingIndex = some p ∨
      R (c.vertexArrays v)) : R ((c.onStateChange (some p) message).vertexArrays v) := by
  obtain ⟨b, hb⟩ : ∃ b, ((c.vertexArrays v).mVertexAttributes i).bindingIndex = b := ⟨_, rfl⟩
  rw [hb] at h
  apply onStateChange_restores (.vertexBuffer b) (I := fun vao => vao.WellFormed ∧
    vao.mBufferAccessValidationEnabled ∧ (vao.mVertexAttributes i).bindingIndex = b)
      hwell.registered
  case hkeep =>
    rintro vao index ⟨hvao, hvalidation, hindex⟩
    have htold : VertexArray.Told vao (vao.onSubjectStateChange c.buffers index message) :=
      onSubjectStateChange_told index message
    exact ⟨hvao.onSubjectStateChange index message, htold.validation.trans hvalidation,
      (htold.bindingIndex i).trans hindex⟩
  case hself =>
    rintro vao ⟨hvao, hvalidation, hindex⟩
    rw [← hindex]
    exact hself vao hvao hvalidation
  case hother => exact fun vao index hvao hR => hkept vao index hvao.1 hR
  case hI => exact ⟨hwell.vertexArrays v, hvalidation, hb⟩
  case h => exact h

/-- A buffer gets another size or map, and its observers are told so. -/
theorem Coherent.changeBuffer (h : c.Coherent) (p : BufferPtr) {f : Buffer → Buffer}
    {message : SubjectMessage} (hobservers : ∀ b, (f b).mObservers = b.mObservers)
    (hsize : message = .SubjectChanged ∨ ∀ b, (f b).mSize = b.mSize)
    (hmapped : (message = .SubjectMapped ∨ message = .SubjectUnmapped) ∨
      ∀ b, (f b).mMapped = b.mMapped) :
    ((c.modifyBuffer (some p) f).onStateChange (some p) message).Coherent := by
  obtain ⟨c', hc'⟩ : ∃ c', c' = c.modifyBuffer (some p) f := ⟨_, rfl⟩
  have hwell : c'.WellFormed := hc' ▸ h.wellFormed.modifyBuffer (some p) hobservers
  have hvertexArrays : c'.vertexArrays = c.vertexArrays := hc' ▸ rfl
  have hvalidation : c'.mBufferAccessValidationEnabled = c.mBufferAccessValidationEnabled :=
    hc' ▸ rfl
  have hself : c'.buffers p = f (c.buffers p) := hc' ▸ if_pos rfl
  have hother : ∀ q, q ≠ p → c'.buffers q = c.buffers q := fun q hq =>
    hc' ▸ modifyBuffer_of_ne hq f
  have hvalidations : ∀ v, (c'.vertexArrays v).mBufferAccessValidationEnabled := by
    rw [hvertexArrays]
    exact h.validations
  rw [← hc']
  constructor
  case wellFormed => exact hwell.onStateChange (some p) message
  case validation => exact hvalidation.trans h.validation
  case validations =>
    intro v
    rw [(onStateChange_told (some p) message v).validation]
    exact hvalidations v
  case vertexArrays =>
    intro v
    have hunbound : ∀ {i q}, c'.vertexBuffer v
        ((c'.vertexArrays v).mVertexAttributes i).bindingIndex ≠ some p →
          ((c.vertexArrays v).bindingOf i).mBuffer = some q → c'.buffers q = c.buffers q := by
      intro i q hp hq
      unfold vertexBuffer at hp
      rw [hvertexArrays] at hp
      exact hother q fun hqp => hp (hqp ▸ hq)
    constructor
    case limit =>
      intro i
      have hold := (h.vertexArrays v).limit i
      rcases hsize with rfl | hsame
      · refine onStateChange_restores_attribute (i := i)
          (R := fun vao => VertexArray.LimitAt c'.buffers vao i) hwell (hvalidations v)
            (fun vao hvao hvalidation => limitAt_of_subjectChanged hvao hvalidation i)
              (fun vao index hvao hlimit => hlimit.onSubjectStateChange hvao index .SubjectChanged)
                ?_
        by_cases hp : c'.vertexBuffer v ((c'.vertexArrays v).mVertexAttributes i).bindingIndex =
            some p
        · exact .inl hp
        · right
          have hheld : VertexArray.LimitAt c'.buffers (c.vertexArrays v) i :=
            hold.congr rfl rfl rfl (.refl _) fun q hq => by rw [hunbound hp hq]
          rwa [hvertexArrays]
      · have hevery : ∀ q, (c'.buffers q).mSize = (c.buffers q).mSize := by
          intro q
          by_cases hq : q = p
          · rw [hq, hself, hsame]
          · rw [hother q hq]
        refine (onStateChange_preserves
          (R := fun vao => vao.WellFormed ∧ VertexArray.LimitAt c'.buffers vao i) (some p)
            (fun vao index hvao => ⟨hvao.1.onSubjectStateChange index message,
              hvao.2.onSubjectStateChange hvao.1 index message⟩) ⟨hwell.vertexArrays v, ?_⟩).2
        rw [hvertexArrays]
        exact hold.congr rfl rfl rfl (.refl _) fun q _ => hevery q
    case map =>
      intro i
      have hold := (h.vertexArrays v).map i
      rcases hmapped with hmessage | hsame
      · refine onStateChange_restores_attribute (i := i)
          (R := fun vao => VertexArray.MapAt c'.buffers vao i) hwell (hvalidations v)
            (fun vao hvao _ => mapAt_of_mapped hvao i hmessage)
              (fun vao index hvao hmap => hmap.onSubjectStateChange hvao index message) ?_
        by_cases hp : c'.vertexBuffer v ((c'.vertexArrays v).mVertexAttributes i).bindingIndex =
            some p
        · exact .inl hp
        · right
          have hheld : VertexArray.MapAt c'.buffers (c.vertexArrays v) i :=
            hold.congr rfl rfl fun q hq => by rw [hunbound hp hq]
          rwa [hvertexArrays]
      · have hevery : ∀ q, (c'.buffers q).mMapped = (c.buffers q).mMapped := by
          intro q
          by_cases hq : q = p
          · rw [hq, hself, hsame]
          · rw [hother q hq]
        refine (onStateChange_preserves
          (R := fun vao => vao.WellFormed ∧ VertexArray.MapAt c'.buffers vao i) (some p)
            (fun vao index hvao => ⟨hvao.1.onSubjectStateChange index message,
              hvao.2.onSubjectStateChange hvao.1 index message⟩) ⟨hwell.vertexArrays v, ?_⟩).2
        rw [hvertexArrays]
        exact hold.congr rfl rfl fun q _ => hevery q

theorem Coherent.drawContents (h : c.Coherent) (draw : Draw caps) :
    (c.drawContents draw).Coherent := by
  apply h.of_buffers (h.wellFormed.drawContents draw) rfl
  all_goals unfold Context.drawContents
  case hsize =>
    intro p
    dsimp only
    split <;> rfl
  case hmapped =>
    intro p
    dsimp only
    split <;> rfl
  case hvalidation => rfl

/-! ## Changes -/

theorem uncounted_coherent : Uncounted (@Coherent caps) where
  onNonTFBindingChanged buffer incr h := h.onNonTFBindingChanged buffer incr
  onTFBindingChanged buffer bound indexed h := h.onTFBindingChanged buffer bound indexed
  of_eq h hbuffers hvertexArrays _ hvalidation := h.of_eq hbuffers hvertexArrays hvalidation

theorem Coherent.change {g : Guards caps} (hg : ¬g.stale) (h : c.Coherent)
    (hchange : Change g c c') : c'.Coherent := by
  have hwell := h.wellFormed.change hchange
  cases hchange with
  | updateBufferBinding target buffer =>
    exact uncounted_coherent.updateBufferBinding h target buffer
  | updateIndexedBufferBinding point buffer =>
    exact uncounted_coherent.updateIndexedBufferBinding h point buffer
  | setElementArrayBuffer buffer => exact h.setElementArrayBuffer buffer
  | bindVertexBufferImpl b buffer offset stride => exact h.bindVertexBufferImpl b buffer offset stride
  | setFormatAndBinding hstale => exact absurd hstale hg
  | setVertexAttribFormat i format relativeOffset =>
    exact h.setVertexAttribFormat i format relativeOffset
  | setVertexAttribBinding i b => exact h.setVertexAttribBinding i b
  | setVertexBindingDivisor b divisor => exact h.setVertexBindingDivisor b divisor
  | setVertexAttribDivisor i divisor => exact h.setVertexAttribDivisor i divisor
  | setEnableVertexAttribArray i enabled => exact h.setEnableVertexAttribArray i enabled
  | setVertexArrayBinding _ => exact uncounted_coherent.setVertexArrayBinding h _
  | destroyVertexArray _ cache => exact h.destroyVertexArray _ cache
  | bindIndexedBuffer index buffer => exact uncounted_coherent.bindIndexedBuffer h index buffer
  | setTransformFeedbackBinding t => exact uncounted_coherent.setTransformFeedbackBinding h t
  | clearTransformFeedback _ => exact h.of_eq rfl rfl rfl
  | detachTransformFeedbackBuffer bufferID index =>
    exact uncounted_coherent.detachTransformFeedbackBuffer h bufferID index
  | detachVertexBuffer hstale => exact absurd hstale hg
  | detachElementArrayBuffer bufferID => exact h.detachElementArrayBuffer bufferID
  | setContents _ buffer memory => exact h.setContents buffer memory
  | contentsChanged _ buffer => exact h.onStateChange buffer .ContentsChanged
  | bufferData _ p memory size =>
    exact (h.setContents (some p) memory).changeBuffer p (fun _ => rfl) (.inl rfl)
      (.inr fun _ => rfl)
  | map _ p => exact h.changeBuffer p (fun _ => rfl) (.inr fun _ => rfl) (.inl (.inl rfl))
  | unmap _ p => exact h.changeBuffer p (fun _ => rfl) (.inr fun _ => rfl) (.inl (.inr rfl))
  | drawContents _ draw => exact h.drawContents draw
  | setPrimitiveRestart _ _ => exact h.of_eq rfl rfl rfl
  | cacheIndexRange _ _ =>
    exact h.modifyVertexArray hwell rfl (h.vertexArrays _).limit (h.vertexArrays _).map

theorem Coherent.changes {g : Guards caps} (hg : ¬g.stale) (h : c.Coherent)
    (hchanges : Changes g c c') : c'.Coherent :=
  hchanges.keeps (fun hc hchange => hc.change hg hchange) h

theorem Coherent.detachBuffer (h : c.Coherent) {p : BufferPtr}
    (hunused : (c.buffers p).isBound → c.UnusedName (c.buffers p).id) :
    (c.detachBuffer p).Coherent := by
  have hchanges : ∀ {c c' : Context caps}, Changes ⟨fun _ _ => True, False, True⟩ c c' →
      c.Coherent → c'.Coherent := fun hchanges hc => hc.changes id hchanges
  unfold Context.detachBuffer
  split
  case isFalse => exact h
  case isTrue hbound =>
    refine foldlRecOn _ _ ?_ fun _ hc point _ =>
      hchanges (detachIndexedBuffer_changes _ point) hc
    apply detachElementArrayBuffer
    refine And.left (foldlRecOn (motive := fun c' : Context caps =>
      c'.Coherent ∧ c'.UnusedName (c.buffers p).id) _ _ ?_ fun _ hc b _ =>
        ⟨hc.1.detachVertexBuffer hc.2 b, hc.2.detachVertexBuffer b⟩)
    refine foldlRecOn (motive := fun c' : Context caps =>
      c'.Coherent ∧ c'.UnusedName (c.buffers p).id) _ _ ?_ fun _ hc index _ =>
        ⟨hchanges (.single (.detachTransformFeedbackBuffer _ index)) hc.1,
          hc.2.detachTransformFeedbackBuffer index⟩
    exact foldlRecOn (motive := fun c' : Context caps =>
      c'.Coherent ∧ c'.UnusedName (c.buffers p).id) _ _ ⟨h, hunused hbound⟩ fun _ hc target _ =>
        ⟨hchanges (detachBoundBuffer_changes _ target) hc.1, hc.2.detachBoundBuffer target⟩

/-! ## Runs -/

def KeepsCaches (c : Context caps) : Action caps → Prop
  | .vertexAttribPointer i format stride pointer => c.KeepsFormat i format stride pointer
  | .deleteBuffer p => (c.buffers p).isBound → c.UnusedName (c.buffers p).id
  | _ => True

instance (action : Action caps) : Decidable (c.KeepsCaches action) := by
  cases action with
  | vertexAttribPointer i format stride pointer =>
      exact inferInstanceAs (Decidable (c.KeepsFormat i format stride pointer))
  | deleteBuffer p => exact inferInstanceAs (Decidable (_ → _))
  | _ => exact .isTrue trivial

theorem Coherent.step (h : c.Coherent) {action : Action caps} (hkeeps : c.KeepsCaches action)
    (hstep : step c action = some c') : c'.Coherent := by
  cases hleaves : action.leavesCaches with
  | true =>
    rw [(step_eq_some hstep).2]
    cases action with
    | vertexAttribPointer i format stride pointer => exact h.vertexAttribPointer stride hkeeps
    | deleteBuffer p => exact h.detachBuffer hkeeps
    | _ => contradiction
  | false =>
    refine h.changes (g := ⟨fun _ _ => True, False, True⟩) id
      (step_changes hstep (fun _ _ => trivial) ?_ fun _ => trivial)
    rw [hleaves]
    exact nofun

end Context

structure VertexArray.DerivedState (buffers : Buffers) (vao : VertexArray) (i : AttribIndex) :
    Prop where
  limit : (vao.mVertexAttributes i).mCachedElementLimit =
    computeElementLimit buffers (vao.mVertexAttributes i) (vao.bindingOf i)
  clientMemory : vao.mClientMemoryAttribsMask i ↔ (vao.bindingOf i).mBuffer = none
  mapped : vao.mCachedMappedArrayBuffers i = isMapped buffers (vao.bindingOf i).mBuffer
  enabledMapped : vao.mCachedEnabledMappedArrayBuffers i =
    (isMapped buffers (vao.bindingOf i).mBuffer && (vao.mVertexAttributes i).enabled)
  boundAttributes : ∀ b, (vao.mVertexBindings b).mBoundAttributesMask i ↔
    b = (vao.mVertexAttributes i).bindingIndex

namespace Context

variable {caps : Caps} {c : Context caps}

theorem Coherent.derivedState (h : c.Coherent) (v : VertexArrayID) (i : AttribIndex) :
    (c.vertexArrays v).DerivedState c.buffers i where
  limit := (h.vertexArrays v).limit i
  clientMemory := (h.wellFormed.vertexArrays v).clientMemory i
  mapped := (h.vertexArrays v).map i
  enabledMapped := by
    rw [(h.wellFormed.vertexArrays v).enabledMapped, (h.vertexArrays v).map,
      (h.wellFormed.vertexArrays v).enabled]
  boundAttributes b := ((h.wellFormed.vertexArrays v).boundAttributes b i).trans eq_comm

/-- Along every run that leaves no cache behind the derived state of every vertex array is
coherent. -/
theorem derivedState_coherent {ids : BufferPtr → BufferID} {caches : VertexArrayID → RangeCache}
    {actions : List (Action caps)}
    (hrun : Run step KeepsCaches (initial true ids caches) actions c) (v : VertexArrayID)
    (i : AttribIndex) : (c.vertexArrays v).DerivedState c.buffers i := by
  have hcoherent : c.Coherent :=
    hrun.invariant (fun _ _ _ hold hkeeps hstep => hold.step hkeeps hstep)
      (coherent_initial ids caches)
  exact hcoherent.derivedState v i

def emptyContext : Context ⟨0, 0, 0, 0⟩ := initial true (· + 1) fun _ => ⟨none, 0, 0, ⟨0, 0, 0⟩⟩

def firstAttrib : AttribIndex := ⟨0, by decide⟩

def pointerCalls : List (Action ⟨0, 0, 0, 0⟩) :=
  [.bindBuffer .Array (some 0), .bufferData 0 (fun _ => 0) 16,
    .vertexAttribPointer firstAttrib (getVertexFormatID .Float false 1 false) 4 0, .map 0, .unmap 0,
    .bufferData 0 (fun _ => 0) 32]

theorem derivedState_coherent_pointerCalls :
    ∃ c, Run step KeepsCaches emptyContext pointerCalls c ∧
      (c.vertexArrays 0).DerivedState c.buffers firstAttrib := by
  have hexec : (exec (checked step fun c action => decide (c.KeepsCaches action)) emptyContext
      pointerCalls).isSome := by
    decide +kernel
  obtain ⟨c, hc⟩ := Option.isSome_iff_exists.mp hexec
  have hrun : Run step KeepsCaches emptyContext pointerCalls c :=
    .of_exec_checked _ (fun _ _ => of_decide_eq_true) hc
  exact ⟨c, hrun, derivedState_coherent hrun 0 firstAttrib⟩

/-- The same stride and pointer with a format of 16 bytes instead of 4: a buffer of 16 bytes still
seems to have room for the elements up to the third. -/
def formatCalls : List (Action ⟨0, 0, 0, 0⟩) :=
  [.bindBuffer .Array (some 0), .bufferData 0 (fun _ => 0) 16,
    .vertexAttribPointer firstAttrib (getVertexFormatID .Float false 1 false) 4 0,
    .vertexAttribPointer firstAttrib (getVertexFormatID .Float false 4 false) 4 0]

theorem derivedState_stale : ¬ ∀ (actions : List (Action ⟨0, 0, 0, 0⟩)) (c : Context ⟨0, 0, 0, 0⟩),
    Run step anyStep emptyContext actions c → ∀ v i, (c.vertexArrays v).DerivedState c.buffers i := by
  intro h
  have hexec : (exec step emptyContext formatCalls).map (fun c =>
      (((c.vertexArrays 0).mVertexAttributes firstAttrib).mCachedElementLimit,
        computeElementLimit c.buffers ((c.vertexArrays 0).mVertexAttributes firstAttrib)
          ((c.vertexArrays 0).bindingOf firstAttrib))) = some (3, 0) := by
    decide +kernel
  obtain ⟨c, hc, hlimits⟩ := Option.map_eq_some_iff.mp hexec
  obtain ⟨hcached, hcomputed⟩ := Prod.mk.inj hlimits
  have hlimit := (h formatCalls c (.of_exec hc) 0 firstAttrib).limit
  rw [hcached, hcomputed] at hlimit
  contradiction

end Context

end MetalAngle.Gl.Bindings
