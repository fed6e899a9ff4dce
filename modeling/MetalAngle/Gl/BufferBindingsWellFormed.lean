import MetalAngle.Gl.BindingChanges
import MetalAngle.Gl.VertexArrayWellFormed

/-!
# The bindings of a context stay well formed

In every state a buffer is observed by exactly the bindings that hold it, and every vertex array is
well formed.
-/

namespace MetalAngle.Gl.Bindings

open LabelledRun Observers VertexArray
open Function (update update_self update_of_ne)

namespace Context

variable {caps : Caps} {c c' : Context caps}

/-! ## The observers of a buffer -/

def bound (c : Context caps) (observer : Observer) : Option BufferPtr :=
  match observer.2 with
  | .vertexBuffer b => c.vertexBuffer observer.1 b
  | .elementArrayBuffer => c.elementArrayBuffer observer.1

theorem modifyBuffer_of_ne {p q : BufferPtr} (hq : q ≠ p) (f : Buffer → Buffer) :
    (c.modifyBuffer (some p) f).buffers q = c.buffers q :=
  if_neg fun hp => hq (Option.some.inj hp).symm

variable {f : Buffer → Buffer}

section

variable (buffer : Option BufferPtr)

theorem observers_modifyBuffer
    (hf : ∀ b, (f b).mObservers = b.mObservers) :
    (c.modifyBuffer buffer f).observers = c.observers := by
  ext1 p
  unfold observers modifyBuffer
  dsimp only
  split
  · exact hf _
  · rfl

@[simp] theorem observers_onNonTFBindingChanged (incr : Int) :
    (c.onNonTFBindingChanged buffer incr).observers = c.observers :=
  observers_modifyBuffer buffer fun _ => rfl

@[simp] theorem observers_addObserver (observer : Observer) :
    (c.addObserver buffer observer).observers = addTo c.observers buffer observer := by
  ext1 p
  unfold observers addObserver modifyBuffer addTo
  dsimp only
  split <;> rfl

@[simp] theorem observers_removeObserver (observer : Observer) :
    (c.removeObserver buffer observer).observers = removeFrom c.observers buffer observer := by
  ext1 p
  unfold observers removeObserver modifyBuffer removeFrom
  dsimp only
  split <;> rfl

@[simp] theorem vertexArrays_onNonTFBindingChanged (incr : Int) :
    (c.onNonTFBindingChanged buffer incr).vertexArrays = c.vertexArrays := rfl

@[simp] theorem vertexArrays_addObserver (observer : Observer) :
    (c.addObserver buffer observer).vertexArrays = c.vertexArrays := rfl

@[simp] theorem vertexArrays_removeObserver (observer : Observer) :
    (c.removeObserver buffer observer).vertexArrays = c.vertexArrays := rfl

end

@[simp] theorem vertexArrays_modifyVertexArray (v : VertexArrayID) (f : VertexArray → VertexArray) :
    (c.modifyVertexArray v f).vertexArrays = update c.vertexArrays v (f (c.vertexArrays v)) := rfl

@[simp] theorem buffers_modifyVertexArray (v : VertexArrayID) (f : VertexArray → VertexArray) :
    (c.modifyVertexArray v f).buffers = c.buffers := rfl

@[simp] theorem mVertexArray_modifyVertexArray (v : VertexArrayID) (f : VertexArray → VertexArray) :
    (c.modifyVertexArray v f).mVertexArray = c.mVertexArray := rfl

@[simp] theorem observers_modifyVertexArray (v : VertexArrayID) (f : VertexArray → VertexArray) :
    (c.modifyVertexArray v f).observers = c.observers := rfl

theorem bound_congr (h : ∀ v, VertexArray.SameBuffers (c.vertexArrays v) (c'.vertexArrays v)) :
    c'.bound = c.bound := by
  ext1 observer
  obtain ⟨v, index⟩ := observer
  cases index with
  | vertexBuffer b => exact (h v).vertexBuffer b
  | elementArrayBuffer => exact (h v).elementArrayBuffer

variable {v : VertexArrayID}

theorem bound_update_vertexBuffer {b : AttribIndex}
    (hother : ∀ w, w ≠ v → c'.vertexArrays w = c.vertexArrays w)
    (helement : c'.elementArrayBuffer v = c.elementArrayBuffer v)
    (hbinding : ∀ b', b' ≠ b → c'.vertexBuffer v b' = c.vertexBuffer v b') :
    c'.bound = update c.bound (v, .vertexBuffer b) (c'.vertexBuffer v b) := by
  ext1 observer
  obtain ⟨w, index⟩ := observer
  by_cases hw : w = v
  · subst hw
    cases index with
    | vertexBuffer b' =>
      by_cases hb : b' = b
      · subst hb
        rw [update_self]
        rfl
      · rw [update_of_ne (by simpa using hb)]
        exact hbinding b' hb
    | elementArrayBuffer =>
        rw [update_of_ne (by simp)]
        exact helement
  · rw [update_of_ne (by simp [hw])]
    unfold bound vertexBuffer elementArrayBuffer
    rw [hother w hw]

theorem bound_update_elementArrayBuffer
    (hother : ∀ w, w ≠ v → c'.vertexArrays w = c.vertexArrays w)
    (hbinding : ∀ b, c'.vertexBuffer v b = c.vertexBuffer v b) :
    c'.bound = update c.bound (v, .elementArrayBuffer) (c'.elementArrayBuffer v) := by
  ext1 observer
  obtain ⟨w, index⟩ := observer
  by_cases hw : w = v
  · subst hw
    cases index with
    | vertexBuffer b =>
        rw [update_of_ne (by simp)]
        exact hbinding b
    | elementArrayBuffer =>
        rw [update_self]
        rfl
  · rw [update_of_ne (by simp [hw])]
    unfold bound vertexBuffer elementArrayBuffer
    rw [hother w hw]

/-! ## Messages of a buffer -/

theorem onStateChange_preserves {R : VertexArray → Prop} (buffer : Option BufferPtr)
    {message : SubjectMessage}
    (hmessage : ∀ vao index, R vao → R (vao.onSubjectStateChange c.buffers index message))
    (h : R (c.vertexArrays v)) : R ((c.onStateChange buffer message).vertexArrays v) := by
  have hupdate : ∀ (observer : Observer) (vertexArrays : VertexArrayID → VertexArray),
      R (vertexArrays v) → R (update vertexArrays observer.1
        ((vertexArrays observer.1).onSubjectStateChange c.buffers observer.2 message) v) := by
    intro observer vertexArrays hvao
    by_cases hv : v = observer.1
    · subst hv
      rw [update_self]
      exact hmessage _ _ hvao
    · rwa [update_of_ne hv]
  exact notify_preserves hupdate _ h

/-- What the message to a binding establishes holds after a notification if the buffer is bound
there, and so does what held before and no message breaks. -/
theorem onStateChange_restores (index : SubjectIndex) {I R : VertexArray → Prop} {p : BufferPtr}
    {message : SubjectMessage} (hregistered : Registered c.bound c.observers)
    (hkeep : ∀ vao index, I vao → I (vao.onSubjectStateChange c.buffers index message))
    (hself : ∀ vao, I vao → R (vao.onSubjectStateChange c.buffers index message))
    (hother : ∀ vao index, I vao → R vao → R (vao.onSubjectStateChange c.buffers index message))
    (hI : I (c.vertexArrays v)) (h : c.bound (v, index) = some p ∨ R (c.vertexArrays v)) :
    R ((c.onStateChange (some p) message).vertexArrays v) := by
  have hmember : (v, index) ∈ c.observers p ∨ R (c.vertexArrays v) :=
    h.imp_left (hregistered.mem_iff p (v, index)).mpr
  refine notify_restores (I := fun vertexArrays : VertexArrayID → VertexArray => I (vertexArrays v))
    (Q := fun s vertexArrays => s = (v, index) → R (vertexArrays v)) ?_ ?_ ?_ hI
    (hmember.imp_right fun hR _ => hR) rfl
  · intro s vertexArrays hvao
    by_cases hv : v = s.1
    · subst hv
      rw [update_self]
      exact hkeep _ _ hvao
    · rwa [update_of_ne hv]
  · intro s vertexArrays hvao hs
    subst hs
    rw [update_self]
    exact hself _ hvao
  · intro s t vertexArrays hvao hR hs
    by_cases hv : v = t.1
    · subst hv
      rw [update_self]
      exact hother _ _ hvao (hR hs)
    · rw [update_of_ne hv]
      exact hR hs

theorem onStateChange_told (buffer : Option BufferPtr) (message : SubjectMessage)
    (v : VertexArrayID) :
    VertexArray.Told (c.vertexArrays v) ((c.onStateChange buffer message).vertexArrays v) :=
  onStateChange_preserves buffer
    (fun _ index h => h.trans (onSubjectStateChange_told index message)) (.refl _)

@[simp] theorem bound_onStateChange (buffer : Option BufferPtr) (message : SubjectMessage) :
    (c.onStateChange buffer message).bound = c.bound :=
  bound_congr fun v => (onStateChange_told buffer message v).sameBuffers

@[simp] theorem observers_onStateChange (buffer : Option BufferPtr) (message : SubjectMessage) :
    (c.onStateChange buffer message).observers = c.observers := rfl

/-! ## What bindings leave alone -/

section

variable (buffer : Option BufferPtr)

theorem sameStorage_modifyBuffer
    (hid : ∀ b, (f b).id = b.id) (hcontents : ∀ b, (f b).contents = b.contents)
    (hsize : ∀ b, (f b).mSize = b.mSize) (hmapped : ∀ b, (f b).mMapped = b.mMapped) :
    SameStorage c.buffers (c.modifyBuffer buffer f).buffers := by
  unfold modifyBuffer
  constructor
  all_goals
    intro p
    dsimp only
    split
  · exact hid _
  · rfl
  · exact hcontents _
  · rfl
  · exact hsize _
  · rfl
  · exact hmapped _
  · rfl

theorem sameStorage_onNonTFBindingChanged (incr : Int) :
    SameStorage c.buffers (c.onNonTFBindingChanged buffer incr).buffers :=
  sameStorage_modifyBuffer buffer (fun _ => rfl) (fun _ => rfl) (fun _ => rfl) fun _ => rfl

theorem sameStorage_addObserver (observer : Observer) :
    SameStorage c.buffers (c.addObserver buffer observer).buffers :=
  sameStorage_modifyBuffer buffer (fun _ => rfl) (fun _ => rfl) (fun _ => rfl) fun _ => rfl

theorem sameStorage_removeObserver (observer : Observer) :
    SameStorage c.buffers (c.removeObserver buffer observer).buffers :=
  sameStorage_modifyBuffer buffer (fun _ => rfl) (fun _ => rfl) (fun _ => rfl) fun _ => rfl

theorem sameStorage_onTFBindingChanged (bound indexed : Bool) :
    SameStorage c.buffers (c.onTFBindingChanged buffer bound indexed).buffers := by
  cases indexed with
  | false =>
      exact sameStorage_modifyBuffer (f := fun b => b.onTFBindingChanged bound false) buffer
        (fun _ => rfl) (fun _ => rfl) (fun _ => rfl) fun _ => rfl
  | true =>
      exact sameStorage_modifyBuffer (f := fun b => b.onTFBindingChanged bound true) buffer
        (fun _ => rfl) (fun _ => rfl) (fun _ => rfl) fun _ => rfl

end

/-! ## Well-formed contexts -/

structure WellFormed (c : Context caps) : Prop where
  registered : Registered c.bound c.observers
  vertexArrays : ∀ v, (c.vertexArrays v).WellFormed

theorem wellFormed_initial (validation : Bool) (ids : BufferPtr → BufferID)
    (caches : VertexArrayID → RangeCache) :
    (initial validation ids caches : Context caps).WellFormed where
  registered := by
    have hbound : (initial validation ids caches : Context caps).bound = fun _ => none := by
      ext1 observer
      obtain ⟨v, index⟩ := observer
      cases index <;> rfl
    rw [hbound]
    exact registered_empty
  vertexArrays v := wellFormed_new validation (caches v)

section

variable (h : c.WellFormed)
include h

theorem WellFormed.congr (hvertexArrays : c'.vertexArrays = c.vertexArrays)
    (hobservers : c'.observers = c.observers) : c'.WellFormed where
  registered := by
    have hbound : c'.bound = c.bound := bound_congr fun v => hvertexArrays ▸ .refl _
    rw [hobservers, hbound]
    exact h.registered
  vertexArrays v := hvertexArrays ▸ h.vertexArrays v

theorem WellFormed.of_eq (hbuffers : c'.buffers = c.buffers)
    (hvertexArrays : c'.vertexArrays = c.vertexArrays) : c'.WellFormed :=
  h.congr hvertexArrays (by unfold observers; rw [hbuffers])

theorem WellFormed.modifyBuffer (buffer : Option BufferPtr)
    (hf : ∀ b, (f b).mObservers = b.mObservers) : (c.modifyBuffer buffer f).WellFormed :=
  h.congr rfl (observers_modifyBuffer buffer hf)

theorem WellFormed.modifyVertexArray {f : VertexArray → VertexArray}
    (hbuffers : VertexArray.SameBuffers (c.vertexArrays v) (f (c.vertexArrays v)))
    (hwell : (f (c.vertexArrays v)).WellFormed) : (c.modifyVertexArray v f).WellFormed where
  registered := by
    have hbound : (c.modifyVertexArray v f).bound = c.bound := by
      apply bound_congr
      intro w
      by_cases hw : w = v
      · subst hw
        simpa using hbuffers
      · simpa [hw] using VertexArray.SameBuffers.refl _
    rw [hbound]
    exact h.registered
  vertexArrays w := by
    by_cases hw : w = v
    · subst hw
      simpa using hwell
    · simpa [hw] using h.vertexArrays w

theorem WellFormed.onStateChange (buffer : Option BufferPtr)
    (message : SubjectMessage) : (c.onStateChange buffer message).WellFormed where
  registered := by
    rw [bound_onStateChange]
    exact h.registered
  vertexArrays v :=
    onStateChange_preserves buffer (fun _ index hvao => hvao.onSubjectStateChange index message)
      (h.vertexArrays v)

end

/-! ## Calls of a context -/

theorem WellFormed.onNonTFBindingChanged (h : c.WellFormed) (buffer : Option BufferPtr)
    (incr : Int) : (c.onNonTFBindingChanged buffer incr).WellFormed :=
  h.modifyBuffer buffer fun _ => rfl

theorem WellFormed.onTFBindingChanged (h : c.WellFormed) (buffer : Option BufferPtr)
    (bound indexed : Bool) : (c.onTFBindingChanged buffer bound indexed).WellFormed := by
  have hcount : (c.modifyBuffer buffer fun b => b.onTFBindingChanged bound indexed).WellFormed := by
    apply h.modifyBuffer buffer
    intro b
    cases indexed <;> rfl
  cases indexed with
  | false => exact hcount
  | true => exact hcount.onStateChange buffer .BindingChanged

theorem vertexArrays_setElementArrayBuffer (buffer : Option BufferPtr) :
    (c.setElementArrayBuffer buffer).vertexArrays = update c.vertexArrays c.mVertexArray
      { c.vertexArrays c.mVertexArray with
        mElementArrayBuffer := buffer
        mIndexRangeCache := (c.vertexArrays c.mVertexArray).mIndexRangeCache.invalidate } := by
  ext1 w
  unfold setElementArrayBuffer
  by_cases hw : w = c.mVertexArray
  · simp
  · simp [hw]

theorem WellFormed.changeElementArrayBuffer (h : c.WellFormed)
    {buffer : Option BufferPtr} {cache : RangeCache}
    (hvertexArrays : c'.vertexArrays = update c.vertexArrays v
      { c.vertexArrays v with mElementArrayBuffer := buffer, mIndexRangeCache := cache })
    (hobservers : Registered (update c.bound (v, .elementArrayBuffer) buffer)
      c'.observers) : c'.WellFormed := by
  have hother : ∀ w, w ≠ v → c'.vertexArrays w = c.vertexArrays w := fun w hw => by
    rw [hvertexArrays, update_of_ne hw]
  have hself : c'.vertexArrays v =
      { c.vertexArrays v with mElementArrayBuffer := buffer, mIndexRangeCache := cache } := by
    rw [hvertexArrays, update_self]
  constructor
  case registered =>
    rw [bound_update_elementArrayBuffer hother (v := v)]
    · unfold elementArrayBuffer
      rwa [hself]
    · intro b
      unfold vertexBuffer
      rw [hself]
  case vertexArrays =>
    intro w
    by_cases hw : w = v
    · rw [hw, hself]
      exact (h.vertexArrays v).of_eq (fun _ => rfl) (fun _ => rfl) (fun _ => rfl) (fun _ => rfl) rfl
        rfl (h.vertexArrays v).enabledMapped
    · rw [hother w hw]
      exact h.vertexArrays w

theorem WellFormed.setElementArrayBuffer (h : c.WellFormed) (buffer : Option BufferPtr) :
    (c.setElementArrayBuffer buffer).WellFormed := by
  apply h.changeElementArrayBuffer (vertexArrays_setElementArrayBuffer buffer)
  have hobservers : (c.setElementArrayBuffer buffer).observers =
      addTo (removeFrom c.observers (c.elementArrayBuffer c.mVertexArray)
        (c.mVertexArray, .elementArrayBuffer)) buffer (c.mVertexArray, .elementArrayBuffer) := by
    simp [Context.setElementArrayBuffer]
  rw [hobservers]
  exact h.registered.rebind (c.mVertexArray, .elementArrayBuffer) buffer

variable (b : AttribIndex) (boundBuffer : Option BufferPtr) (offset : Int) (stride : Nat)

theorem buffers_rebindVertexBuffer :
    (c.rebindVertexBuffer b boundBuffer offset stride).buffers =
      ((((c.onNonTFBindingChanged (c.vertexBuffer c.mVertexArray b) (-1)).removeObserver
        (c.vertexBuffer c.mVertexArray b) (c.mVertexArray,
          .vertexBuffer b)).onNonTFBindingChanged boundBuffer 1).addObserver boundBuffer
            (c.mVertexArray, .vertexBuffer b)).buffers := rfl

theorem sameStorage_rebindVertexBuffer :
    SameStorage c.buffers (c.rebindVertexBuffer b boundBuffer offset stride).buffers := by
  exact (((sameStorage_onNonTFBindingChanged _ (-1)).trans
    (sameStorage_removeObserver _ _)).trans (sameStorage_onNonTFBindingChanged _ 1)).trans
      (sameStorage_addObserver _ _)

/-- Another binding in the vertex array, with the buffers as they are in the end. -/
theorem vertexArrays_rebindVertexBuffer :
    (c.rebindVertexBuffer b boundBuffer offset stride).vertexArrays =
      update c.vertexArrays c.mVertexArray ((c.vertexArrays c.mVertexArray).bindBuffer
          (c.rebindVertexBuffer b boundBuffer offset stride).buffers b boundBuffer offset
          stride) := by
  have hsize : ∀ p, ((c.rebindVertexBuffer b boundBuffer offset stride).buffers p).mSize =
      (((c.onNonTFBindingChanged (c.vertexBuffer c.mVertexArray b) (-1)).removeObserver
        (c.vertexBuffer c.mVertexArray b) (c.mVertexArray, .vertexBuffer b)).buffers p).mSize :=
    ((sameStorage_onNonTFBindingChanged boundBuffer 1).trans (sameStorage_addObserver _ _)).size
  unfold bindBuffer
  rw [updateCachedBufferBindingSize_congr hsize]
  ext1 w
  unfold rebindVertexBuffer
  by_cases hw : w = c.mVertexArray
  · subst hw
    simp only [vertexArrays_modifyVertexArray, vertexArrays_onNonTFBindingChanged,
      vertexArrays_addObserver, vertexArrays_removeObserver, update_self]
    rfl
  · simp [update_of_ne hw]

theorem observers_rebindVertexBuffer :
    (c.rebindVertexBuffer b boundBuffer offset stride).observers =
      addTo (removeFrom c.observers (c.vertexBuffer c.mVertexArray b)
        (c.mVertexArray, .vertexBuffer b)) boundBuffer (c.mVertexArray, .vertexBuffer b) := by
  unfold rebindVertexBuffer
  simp only [observers_modifyVertexArray, observers_addObserver, observers_onNonTFBindingChanged,
    observers_removeObserver]
  rfl

/-- The buffer of one binding changes in a vertex array that stays well formed. -/
theorem WellFormed.changeVertexBuffer (h : c.WellFormed) {vao : VertexArray}
    (hvertexArrays : c'.vertexArrays = update c.vertexArrays v vao)
    (helement : vao.mElementArrayBuffer = c.elementArrayBuffer v)
    (hbinding : ∀ b', b' ≠ b → (vao.mVertexBindings b').mBuffer = c.vertexBuffer v b')
    (hobservers : Registered (update c.bound (v, .vertexBuffer b)
      (vao.mVertexBindings b).mBuffer) c'.observers) (hvao : vao.WellFormed) : c'.WellFormed := by
  have hother : ∀ w, w ≠ v → c'.vertexArrays w = c.vertexArrays w := fun w hw => by
    rw [hvertexArrays, update_of_ne hw]
  have hself : c'.vertexArrays v = vao := by
    rw [hvertexArrays, update_self]
  constructor
  case registered =>
    rw [bound_update_vertexBuffer hother (v := v) (b := b)]
    · unfold vertexBuffer
      rwa [hself]
    · unfold elementArrayBuffer
      rw [hself, helement]
      rfl
    · intro b' hb
      unfold vertexBuffer
      rw [hself, hbinding b' hb]
      rfl
  case vertexArrays =>
    intro w
    by_cases hw : w = v
    · rw [hw, hself]
      exact hvao
    · rw [hother w hw]
      exact h.vertexArrays w

theorem WellFormed.bindVertexBufferImpl (h : c.WellFormed) :
    (c.bindVertexBufferImpl b boundBuffer offset stride).WellFormed := by
  unfold Context.bindVertexBufferImpl
  dsimp only
  split
  case isTrue => exact h
  case isFalse =>
    apply h.changeVertexBuffer b (vertexArrays_rebindVertexBuffer b boundBuffer offset stride)
    · exact bindBuffer_elementArrayBuffer _ b boundBuffer offset stride
    · intro b' hb
      rw [bindBuffer_bindings, update_of_ne hb]
      rfl
    · rw [bindBuffer_bindings, update_self, observers_rebindVertexBuffer]
      exact h.registered.rebind (c.mVertexArray, .vertexBuffer b) boundBuffer
    · exact (h.vertexArrays c.mVertexArray).bindBuffer _ b boundBuffer offset stride

theorem WellFormed.setFormatAndBinding (h : c.WellFormed) (i : AttribIndex) (format : FormatID)
    (relativeOffset : Nat) : (c.modifyVertexArray c.mVertexArray fun vao =>
      (vao.setVertexAttribFormatImpl i format relativeOffset).setVertexAttribBinding c.buffers i
        i).WellFormed := by
  apply h.modifyVertexArray
  · exact (setVertexAttribFormatImpl_sameBuffers i format relativeOffset).trans
      (setVertexAttribBinding_sameBuffers i i)
  · exact ((h.vertexArrays _).setVertexAttribFormatImpl i format
      relativeOffset).setVertexAttribBinding i i

/-! ## Calls on the current vertex array -/

section

variable (h : c.WellFormed)
include h

theorem WellFormed.setVertexAttribFormat (i : AttribIndex) (format : FormatID)
    (relativeOffset : Nat) : (c.setVertexAttribFormat i format relativeOffset).WellFormed := by
  apply h.modifyVertexArray
  · exact setVertexAttribFormat_sameBuffers i format relativeOffset
  · exact (h.vertexArrays _).setVertexAttribFormat i format relativeOffset

theorem WellFormed.setVertexAttribBinding (i b : AttribIndex) :
    (c.setVertexAttribBinding i b).WellFormed := by
  apply h.modifyVertexArray
  · exact setVertexAttribBinding_sameBuffers i b
  · exact (h.vertexArrays _).setVertexAttribBinding i b

theorem WellFormed.setVertexBindingDivisor (b : AttribIndex) (divisor : Nat) :
    (c.setVertexBindingDivisor b divisor).WellFormed := by
  apply h.modifyVertexArray
  · exact setVertexBindingDivisor_sameBuffers b divisor
  · exact (h.vertexArrays _).setVertexBindingDivisor b divisor

theorem WellFormed.setVertexAttribDivisor (i : AttribIndex) (divisor : Nat) :
    (c.setVertexAttribDivisor i divisor).WellFormed := by
  apply h.modifyVertexArray
  · exact (setVertexAttribBinding_sameBuffers i i).trans
      (setVertexBindingDivisor_sameBuffers i divisor)
  · exact ((h.vertexArrays _).setVertexAttribBinding i i).setVertexBindingDivisor i divisor

theorem WellFormed.setEnableVertexAttribArray (i : AttribIndex)
    (enabled : Bool) : (c.setEnableVertexAttribArray i enabled).WellFormed := by
  apply h.modifyVertexArray
  · exact enableAttribute_sameBuffers i enabled
  · exact (h.vertexArrays _).enableAttribute i enabled

end

/-! ## Deletion -/

theorem vertexArrays_detachVertexBuffer (bufferID : BufferID)
    (h : c.bufferId (c.vertexBuffer c.mVertexArray b) = bufferID) :
    (c.detachVertexBuffer bufferID b).vertexArrays = update c.vertexArrays c.mVertexArray
      ((c.vertexArrays c.mVertexArray).detachBuffer b) := by
  unfold detachVertexBuffer
  rw [if_pos h]
  ext1 w
  unfold unbindVertexBuffer VertexArray.detachBuffer
  by_cases hw : w = c.mVertexArray
  · simp
  · simp [hw]

theorem observers_detachVertexBuffer (bufferID : BufferID)
    (h : c.bufferId (c.vertexBuffer c.mVertexArray b) = bufferID) :
    (c.detachVertexBuffer bufferID b).observers = removeFrom c.observers
      (c.vertexBuffer c.mVertexArray b) (c.mVertexArray, .vertexBuffer b) := by
  unfold detachVertexBuffer
  rw [if_pos h]
  simp only [unbindVertexBuffer, observers_modifyVertexArray, observers_removeObserver,
    observers_onNonTFBindingChanged]
  rfl

theorem WellFormed.detachVertexBuffer (h : c.WellFormed) (bufferID : BufferID) :
    (c.detachVertexBuffer bufferID b).WellFormed := by
  by_cases hid : c.bufferId (c.vertexBuffer c.mVertexArray b) = bufferID
  case neg =>
    unfold Context.detachVertexBuffer
    rwa [if_neg hid]
  case pos =>
    apply h.changeVertexBuffer b (vertexArrays_detachVertexBuffer b bufferID hid) rfl
    · intro b' hb
      unfold VertexArray.detachBuffer VertexArray.setClientMemory
      rw [setBinding_bindings, update_of_ne hb]
      rfl
    · rw [observers_detachVertexBuffer b bufferID hid]
      unfold VertexArray.detachBuffer VertexArray.setClientMemory
      rw [setBinding_bindings, update_self]
      exact h.registered.remove (c.mVertexArray, .vertexBuffer b)
    · exact (h.vertexArrays c.mVertexArray).detachBuffer b

theorem vertexArrays_unbindElementArrayBuffer (v : VertexArrayID) :
    (c.unbindElementArrayBuffer v).vertexArrays = update c.vertexArrays v
      { c.vertexArrays v with mElementArrayBuffer := none } := rfl

theorem observers_unbindElementArrayBuffer (v : VertexArrayID) :
    (c.unbindElementArrayBuffer v).observers =
      removeFrom c.observers (c.elementArrayBuffer v) (v, .elementArrayBuffer) := by
  unfold unbindElementArrayBuffer
  rw [observers_modifyVertexArray, observers_removeObserver]

theorem WellFormed.unbindElementArrayBuffer (h : c.WellFormed) (v : VertexArrayID) :
    (c.unbindElementArrayBuffer v).WellFormed := by
  apply h.changeElementArrayBuffer (vertexArrays_unbindElementArrayBuffer v)
  rw [observers_unbindElementArrayBuffer]
  exact h.registered.remove (v, .elementArrayBuffer)

theorem WellFormed.detachElementArrayBuffer (h : c.WellFormed) (bufferID : BufferID) :
    (c.detachElementArrayBuffer bufferID).WellFormed := by
  unfold Context.detachElementArrayBuffer
  dsimp only
  split
  · exact (h.onNonTFBindingChanged _ (-1)).unbindElementArrayBuffer c.mVertexArray
  · exact h

/-! ### Vertex arrays -/

theorem vertexArrays_unbindVertexBuffer (v : VertexArrayID) :
    (c.unbindVertexBuffer v b).vertexArrays = update c.vertexArrays v
      ((c.vertexArrays v).setBinding b
        { (c.vertexArrays v).mVertexBindings b with mBuffer := none }) := rfl

theorem bound_unbindVertexBuffer (v : VertexArrayID) :
    (c.unbindVertexBuffer v b).bound = update c.bound (v, .vertexBuffer b) none := by
  have hself : (c.unbindVertexBuffer v b).vertexBuffer v b = none := by
    unfold vertexBuffer
    rw [vertexArrays_unbindVertexBuffer, update_self]
    simp
  rw [bound_update_vertexBuffer (c := c) (v := v) (b := b), hself]
  · intro w hw
    rw [vertexArrays_unbindVertexBuffer, update_of_ne hw]
  · unfold elementArrayBuffer
    rw [vertexArrays_unbindVertexBuffer, update_self]
    rfl
  · intro b' hb
    unfold vertexBuffer
    rw [vertexArrays_unbindVertexBuffer, update_self]
    simp [hb]

theorem observers_unbindVertexBuffer (v : VertexArrayID) :
    (c.unbindVertexBuffer v b).observers =
      removeFrom c.observers (c.vertexBuffer v b) (v, .vertexBuffer b) := by
  unfold unbindVertexBuffer
  rw [observers_modifyVertexArray, observers_removeObserver]

theorem registered_unbindVertexBuffers (h : Registered c.bound c.observers) (v : VertexArrayID)
    (bs : List AttribIndex) :
    Registered (bs.foldl (fun c b => c.unbindVertexBuffer v b) c).bound
      (bs.foldl (fun c b => c.unbindVertexBuffer v b) c).observers := by
  refine List.foldlRecOn (motive := fun c : Context caps => Registered c.bound c.observers) bs _
    h fun c hc b _ => ?_
  rw [bound_unbindVertexBuffer, observers_unbindVertexBuffer]
  exact hc.remove (v, .vertexBuffer b)

theorem vertexArrays_unbindVertexBuffers {w : VertexArrayID} (hw : w ≠ v) (bs : List AttribIndex) :
    (bs.foldl (fun c b => c.unbindVertexBuffer v b) c).vertexArrays w = c.vertexArrays w := by
  refine List.foldlRecOn (motive := fun c' : Context caps =>
    c'.vertexArrays w = c.vertexArrays w) bs _ rfl fun c' hc b _ => ?_
  rw [vertexArrays_unbindVertexBuffer, update_of_ne hw, hc]

theorem vertexBuffer_unbindVertexBuffers (v : VertexArrayID) {bs : List AttribIndex}
    (hb : b ∈ bs) : (bs.foldl (fun c b => c.unbindVertexBuffer v b) c).vertexBuffer v b = none := by
  have hself : ∀ b (c : Context caps), (c.unbindVertexBuffer v b).vertexBuffer v b = none := by
    intro b c
    exact (congrFun (bound_unbindVertexBuffer b v) (v, .vertexBuffer b)).trans (update_self _ _ _)
  have hother : ∀ b b' (c : Context caps), c.vertexBuffer v b = none →
      (c.unbindVertexBuffer v b').vertexBuffer v b = none := by
    intro b b' c hnone
    have hbound : (c.unbindVertexBuffer v b').bound (v, .vertexBuffer b) = none := by
      rw [bound_unbindVertexBuffer]
      by_cases hb : b = b'
      · subst hb
        exact update_self _ _ _
      · rw [update_of_ne (by simpa using hb)]
        exact hnone
    exact hbound
  exact notify_restores (I := fun _ => True) (Q := fun b (c : Context caps) =>
    c.vertexBuffer v b = none) (fun _ _ _ => trivial) (fun b c _ => hself b c)
      (fun b b' c _ => hother b b' c) trivial (.inl hb)

theorem vertexArrays_destroyVertexArray (v : VertexArrayID) (cache : RangeCache) :
    (c.destroyVertexArray v cache).vertexArrays =
      update c.vertexArrays v (.new c.mBufferAccessValidationEnabled cache) := by
  have hvalidation : ((List.finRange maxVertexAttribs).foldl (fun c b => c.unbindVertexBuffer v b)
      c).mBufferAccessValidationEnabled = c.mBufferAccessValidationEnabled :=
    List.foldlRecOn (motive := fun c' : Context caps => c'.mBufferAccessValidationEnabled =
      c.mBufferAccessValidationEnabled) _ _ rfl fun _ hc _ _ => hc
  ext1 w
  unfold destroyVertexArray
  dsimp only
  rw [hvalidation, vertexArrays_modifyVertexArray]
  by_cases hw : w = v
  · subst hw
    rw [update_self, update_self]
  · rw [update_of_ne hw, update_of_ne hw, vertexArrays_unbindElementArrayBuffer, update_of_ne hw,
      vertexArrays_unbindVertexBuffers hw]

theorem WellFormed.destroyVertexArray (h : c.WellFormed) (v : VertexArrayID) (cache : RangeCache) :
    (c.destroyVertexArray v cache).WellFormed := by
  constructor
  case registered =>
    obtain ⟨emptied, hemptied⟩ : ∃ emptied : Context caps, emptied =
      (List.finRange maxVertexAttribs).foldl (fun c b => c.unbindVertexBuffer v b) c := ⟨_, rfl⟩
    have hregistered : Registered emptied.bound emptied.observers :=
      hemptied ▸ registered_unbindVertexBuffers h.registered v _
    have hbound : (c.destroyVertexArray v cache).bound =
        update emptied.bound (v, .elementArrayBuffer) none := by
      rw [bound_update_elementArrayBuffer (c := emptied)]
      · unfold elementArrayBuffer
        rw [vertexArrays_destroyVertexArray, update_self]
        rfl
      · intro w hw
        rw [vertexArrays_destroyVertexArray, update_of_ne hw, hemptied,
          vertexArrays_unbindVertexBuffers hw]
      · intro b
        rw [hemptied, vertexBuffer_unbindVertexBuffers b v (List.mem_finRange b)]
        unfold vertexBuffer
        rw [vertexArrays_destroyVertexArray, update_self]
        rfl
    rw [hbound]
    unfold Context.destroyVertexArray
    rw [← hemptied, observers_modifyVertexArray, observers_unbindElementArrayBuffer]
    exact hregistered.remove (v, .elementArrayBuffer)
  case vertexArrays =>
    intro w
    rw [vertexArrays_destroyVertexArray]
    by_cases hw : w = v
    · subst hw
      rw [update_self]
      exact wellFormed_new _ cache
    · rw [update_of_ne hw]
      exact h.vertexArrays w

/-! ## Contents -/

theorem WellFormed.setContents (h : c.WellFormed) (buffer : Option BufferPtr) (contents : Memory) :
    (c.setContents buffer contents).WellFormed :=
  h.modifyBuffer buffer fun _ => rfl

theorem WellFormed.drawContents (h : c.WellFormed) (draw : Draw caps) :
    (c.drawContents draw).WellFormed := by
  have hobservers : (c.drawContents draw).observers = c.observers := by
    ext1 p
    unfold observers Context.drawContents
    dsimp only
    split <;> rfl
  exact h.congr rfl hobservers

/-! ## Runs -/

theorem uncounted_wellFormed : Uncounted (@WellFormed caps) where
  onNonTFBindingChanged buffer incr h := h.onNonTFBindingChanged buffer incr
  onTFBindingChanged buffer bound indexed h := h.onTFBindingChanged buffer bound indexed
  of_eq h hbuffers hvertexArrays _ _ := h.of_eq hbuffers hvertexArrays

theorem WellFormed.change {g : Guards caps} (h : c.WellFormed) (hchange : Change g c c') :
    c'.WellFormed := by
  cases hchange with
  | updateBufferBinding target buffer =>
    exact uncounted_wellFormed.updateBufferBinding h target buffer
  | updateIndexedBufferBinding point buffer =>
    exact uncounted_wellFormed.updateIndexedBufferBinding h point buffer
  | setElementArrayBuffer buffer => exact h.setElementArrayBuffer buffer
  | bindVertexBufferImpl b buffer offset stride => exact h.bindVertexBufferImpl b buffer offset stride
  | setFormatAndBinding _ i format => exact h.setFormatAndBinding i format 0
  | setVertexAttribFormat i format relativeOffset =>
    exact h.setVertexAttribFormat i format relativeOffset
  | setVertexAttribBinding i b => exact h.setVertexAttribBinding i b
  | setVertexBindingDivisor b divisor => exact h.setVertexBindingDivisor b divisor
  | setVertexAttribDivisor i divisor => exact h.setVertexAttribDivisor i divisor
  | setEnableVertexAttribArray i enabled => exact h.setEnableVertexAttribArray i enabled
  | setVertexArrayBinding _ => exact uncounted_wellFormed.setVertexArrayBinding h _
  | destroyVertexArray _ cache => exact h.destroyVertexArray _ cache
  | bindIndexedBuffer index buffer => exact uncounted_wellFormed.bindIndexedBuffer h index buffer
  | setTransformFeedbackBinding t => exact uncounted_wellFormed.setTransformFeedbackBinding h t
  | clearTransformFeedback _ => exact h.of_eq rfl rfl
  | detachTransformFeedbackBuffer bufferID index =>
    exact uncounted_wellFormed.detachTransformFeedbackBuffer h bufferID index
  | detachVertexBuffer _ bufferID b => exact h.detachVertexBuffer b bufferID
  | detachElementArrayBuffer bufferID => exact h.detachElementArrayBuffer bufferID
  | setContents _ buffer memory => exact h.setContents buffer memory
  | contentsChanged _ buffer => exact h.onStateChange buffer .ContentsChanged
  | bufferData _ p memory size =>
    apply onStateChange
    apply (h.setContents (some p) memory).modifyBuffer
    exact fun _ => rfl
  | map _ p =>
    apply onStateChange
    apply h.modifyBuffer
    exact fun _ => rfl
  | unmap _ p =>
    apply onStateChange
    apply h.modifyBuffer
    exact fun _ => rfl
  | drawContents _ draw => exact h.drawContents draw
  | setPrimitiveRestart _ _ => exact h.of_eq rfl rfl
  | cacheIndexRange _ _ =>
    apply h.modifyVertexArray
    · exact ⟨rfl, fun _ => rfl⟩
    · exact (h.vertexArrays _).of_eq (fun _ => rfl) (fun _ => rfl) (fun _ => rfl) (fun _ => rfl)
        rfl rfl (h.vertexArrays _).enabledMapped

theorem WellFormed.step (h : c.WellFormed) {action : Action caps}
    (hstep : step c action = some c') : c'.WellFormed :=
  (step_changes_all hstep).keeps (fun hc hchange => hc.change hchange) h

end Context

end MetalAngle.Gl.Bindings
