import MetalAngle.Gl.BufferBindingsWellFormed

/-!
# The binding counts of the buffers

A buffer counts the bindings of the context, of the current vertex array and of the current transform
feedback, those for transform feedback apart.  Every call changes the counts by what it changes in
the bindings.
-/

namespace MetalAngle.Gl.Bindings

open LabelledRun Observers VertexArray List
open Function (update update_self update_of_ne)

namespace Buffer

def nonTFBindingCount (b : Buffer) : Int :=
  b.mBindingCount - b.mTransformFeedbackGenericBindingCount -
    b.mTransformFeedbackIndexedBindingCount

theorem onNonTFBindingChanged_nonTF (b : Buffer) (incr : Int) :
    (b.onNonTFBindingChanged incr).nonTFBindingCount = b.nonTFBindingCount + incr := by
  unfold nonTFBindingCount onNonTFBindingChanged
  dsimp only
  omega

theorem onTFBindingChanged_nonTF (b : Buffer) (bound indexed : Bool) :
    (b.onTFBindingChanged bound indexed).nonTFBindingCount = b.nonTFBindingCount := by
  unfold nonTFBindingCount onTFBindingChanged
  dsimp only
  split
  · dsimp only
    omega
  · dsimp only
    omega

end Buffer

namespace Context

variable {caps : Caps} {c c' c'' : Context caps}

/-! ## Uses of a buffer -/

/-- The generic targets other than transform feedback, the indexed binding points, and the current
vertex array. -/
def nonTFUses (c : Context caps) (p : BufferPtr) : Int :=
  (pointing c.mBoundBuffers p - pointsAt (c.mBoundBuffers .TransformFeedback) p) +
    pointing c.mIndexedBuffers p + pointing (c.vertexBuffer c.mVertexArray) p +
      pointsAt (c.elementArrayBuffer c.mVertexArray) p

def indexedTFUses (c : Context caps) (p : BufferPtr) : Int :=
  pointing (c.transformFeedbackBuffer c.mTransformFeedback) p

def genericTFUses (c : Context caps) (p : BufferPtr) : Int :=
  pointsAt (c.mBoundBuffers .TransformFeedback) p

/-- The counts are the numbers of uses. -/
structure Counted (c : Context caps) : Prop where
  nonTF : ∀ p, (c.buffers p).nonTFBindingCount = c.nonTFUses p
  indexed : ∀ p, (c.buffers p).mTransformFeedbackIndexedBindingCount = c.indexedTFUses p
  generic : ∀ p, (c.buffers p).mTransformFeedbackGenericBindingCount = c.genericTFUses p

/-! ## Changes of the counts -/

structure CountsChanged (c c' : Context caps) (nonTF indexed generic : BufferPtr → Int) : Prop where
  nonTF : ∀ p, (c'.buffers p).nonTFBindingCount = (c.buffers p).nonTFBindingCount + nonTF p
  indexed : ∀ p, (c'.buffers p).mTransformFeedbackIndexedBindingCount =
    (c.buffers p).mTransformFeedbackIndexedBindingCount + indexed p
  generic : ∀ p, (c'.buffers p).mTransformFeedbackGenericBindingCount =
    (c.buffers p).mTransformFeedbackGenericBindingCount + generic p

theorem CountsChanged.of_buffers_eq (h : c'.buffers = c.buffers) :
    CountsChanged c c' (fun _ => 0) (fun _ => 0) fun _ => 0 where
  nonTF p := by rw [h, add_zero]
  indexed p := by rw [h, add_zero]
  generic p := by rw [h, add_zero]

variable {nonTF indexed generic : BufferPtr → Int}

theorem CountsChanged.trans {nonTF' indexed' generic' : BufferPtr → Int}
    (h : CountsChanged c c' nonTF indexed generic)
    (h' : CountsChanged c' c'' nonTF' indexed' generic') :
    CountsChanged c c'' (fun p => nonTF p + nonTF' p) (fun p => indexed p + indexed' p)
      fun p => generic p + generic' p where
  nonTF p := by rw [h'.nonTF, h.nonTF, add_assoc]
  indexed p := by rw [h'.indexed, h.indexed, add_assoc]
  generic p := by rw [h'.generic, h.generic, add_assoc]

theorem CountsChanged.of_eq
    (h : CountsChanged c c' nonTF indexed generic) (hbuffers : c''.buffers = c'.buffers) :
    CountsChanged c c'' nonTF indexed generic where
  nonTF p := by rw [hbuffers, h.nonTF]
  indexed p := by rw [hbuffers, h.indexed]
  generic p := by rw [hbuffers, h.generic]

section

variable (buffer : Option BufferPtr)

theorem countsChanged_modifyBuffer {f : Buffer → Buffer}
    {n i g : Int} (hnonTF : ∀ b, (f b).nonTFBindingCount = b.nonTFBindingCount + n)
    (hindexed : ∀ b, (f b).mTransformFeedbackIndexedBindingCount =
      b.mTransformFeedbackIndexedBindingCount + i)
    (hgeneric : ∀ b, (f b).mTransformFeedbackGenericBindingCount =
      b.mTransformFeedbackGenericBindingCount + g) :
    CountsChanged c (c.modifyBuffer buffer f) (fun p => n * pointsAt buffer p)
      (fun p => i * pointsAt buffer p) fun p => g * pointsAt buffer p := by
  unfold modifyBuffer pointsAt
  constructor
  all_goals
    intro p
    dsimp only
    split
  · rw [hnonTF, mul_one]
  · rw [mul_zero, add_zero]
  · rw [hindexed, mul_one]
  · rw [mul_zero, add_zero]
  · rw [hgeneric, mul_one]
  · rw [mul_zero, add_zero]

theorem countsChanged_onNonTFBindingChanged (incr : Int) :
    CountsChanged c (c.onNonTFBindingChanged buffer incr) (fun p => incr * pointsAt buffer p)
      (fun _ => 0) fun _ => 0 := by
  have hmodified : CountsChanged c (c.onNonTFBindingChanged buffer incr) _ _ _ :=
    countsChanged_modifyBuffer buffer (fun b => b.onNonTFBindingChanged_nonTF incr)
      (fun _ => (add_zero _).symm) fun _ => (add_zero _).symm
  simpa using hmodified

theorem countsChanged_onTFBindingChanged (bound : Bool) :
    CountsChanged c (c.onTFBindingChanged buffer bound true) (fun _ => 0)
      (fun p => (if bound then 1 else -1) * pointsAt buffer p) fun _ => 0 := by
  have hmodified : CountsChanged c (c.modifyBuffer buffer fun b => b.onTFBindingChanged bound true)
      _ _ _ :=
    countsChanged_modifyBuffer (i := if bound then 1 else -1) buffer
      (fun b => (b.onTFBindingChanged_nonTF bound true).trans (add_zero _).symm) (fun _ => rfl)
        fun _ => (add_zero _).symm
  have htold : CountsChanged c (c.onTFBindingChanged buffer bound true) _ _ _ := hmodified.of_eq rfl
  simpa only [zero_mul] using htold

theorem countsChanged_onTFBindingChanged_generic (bound : Bool) :
    CountsChanged c (c.onTFBindingChanged buffer bound false) (fun _ => 0) (fun _ => 0)
      fun p => (if bound then 1 else -1) * pointsAt buffer p := by
  have hmodified : CountsChanged c (c.onTFBindingChanged buffer bound false) _ _ _ :=
    countsChanged_modifyBuffer (g := if bound then 1 else -1) buffer
      (fun b => (b.onTFBindingChanged_nonTF bound false).trans (add_zero _).symm)
        (fun _ => (add_zero _).symm) fun _ => rfl
  simpa only [zero_mul] using hmodified

theorem countsChanged_removeObserver (observer : Observer) :
    CountsChanged c (c.removeObserver buffer observer) (fun _ => 0) (fun _ => 0) fun _ => 0 := by
  have hmodified : CountsChanged c (c.removeObserver buffer observer) _ _ _ :=
    countsChanged_modifyBuffer buffer (fun _ => (add_zero _).symm) (fun _ => (add_zero _).symm)
      fun _ => (add_zero _).symm
  simpa only [zero_mul] using hmodified

theorem countsChanged_addObserver (observer : Observer) :
    CountsChanged c (c.addObserver buffer observer) (fun _ => 0) (fun _ => 0) fun _ => 0 := by
  have hmodified : CountsChanged c (c.addObserver buffer observer) _ _ _ :=
    countsChanged_modifyBuffer buffer (fun _ => (add_zero _).symm) (fun _ => (add_zero _).symm)
      fun _ => (add_zero _).symm
  simpa only [zero_mul] using hmodified

end

theorem Counted.of_changed (h : c.Counted) (hchanged : CountsChanged c c' nonTF indexed generic)
    (hnonTF : ∀ p, c'.nonTFUses p = c.nonTFUses p + nonTF p)
    (hindexed : ∀ p, c'.indexedTFUses p = c.indexedTFUses p + indexed p)
    (hgeneric : ∀ p, c'.genericTFUses p = c.genericTFUses p + generic p) : c'.Counted where
  nonTF p := by rw [hchanged.nonTF, h.nonTF, hnonTF]
  indexed p := by rw [hchanged.indexed, h.indexed, hindexed]
  generic p := by rw [hchanged.generic, h.generic, hgeneric]

theorem CountsChanged.congr {nonTF' indexed' generic' : BufferPtr → Int}
    (h : CountsChanged c c' nonTF indexed generic) (hnonTF : ∀ p, nonTF' p = nonTF p)
    (hindexed : ∀ p, indexed' p = indexed p) (hgeneric : ∀ p, generic' p = generic p) :
    CountsChanged c c' nonTF' indexed' generic' where
  nonTF p := by rw [hnonTF, h.nonTF]
  indexed p := by rw [hindexed, h.indexed]
  generic p := by rw [hgeneric, h.generic]

/-! ## The same bindings -/

structure SameSlots (c c' : Context caps) : Prop where
  bound : c'.mBoundBuffers = c.mBoundBuffers
  indexed : c'.mIndexedBuffers = c.mIndexedBuffers
  vertexArray : c'.mVertexArray = c.mVertexArray
  transformFeedback : c'.mTransformFeedback = c.mTransformFeedback
  transformFeedbacks : c'.transformFeedbacks = c.transformFeedbacks
  buffers : ∀ v, VertexArray.SameBuffers (c.vertexArrays v) (c'.vertexArrays v)

theorem SameSlots.refl (c : Context caps) : SameSlots c c :=
  ⟨rfl, rfl, rfl, rfl, rfl, fun _ => .refl _⟩

section

variable (h : SameSlots c c')
include h

theorem SameSlots.trans (h' : SameSlots c' c'') : SameSlots c c'' where
  bound := h'.bound.trans h.bound
  indexed := h'.indexed.trans h.indexed
  vertexArray := h'.vertexArray.trans h.vertexArray
  transformFeedback := h'.transformFeedback.trans h.transformFeedback
  transformFeedbacks := h'.transformFeedbacks.trans h.transformFeedbacks
  buffers v := (h.buffers v).trans (h'.buffers v)

theorem SameSlots.vertexBuffer (v : VertexArrayID) :
    c'.vertexBuffer v = c.vertexBuffer v := by
  ext1 b
  exact (h.buffers v).vertexBuffer b

theorem SameSlots.elementArrayBuffer (v : VertexArrayID) :
    c'.elementArrayBuffer v = c.elementArrayBuffer v :=
  (h.buffers v).elementArrayBuffer

theorem SameSlots.transformFeedbackBuffer (t : TransformFeedbackID) :
    c'.transformFeedbackBuffer t = c.transformFeedbackBuffer t := by
  unfold Context.transformFeedbackBuffer
  rw [h.transformFeedbacks]

theorem SameSlots.nonTFUses (p : BufferPtr) :
    c'.nonTFUses p = c.nonTFUses p := by
  unfold Context.nonTFUses
  rw [h.bound, h.indexed, h.vertexArray, h.vertexBuffer, h.elementArrayBuffer]

theorem SameSlots.indexedTFUses (p : BufferPtr) :
    c'.indexedTFUses p = c.indexedTFUses p := by
  unfold Context.indexedTFUses
  rw [h.transformFeedback, h.transformFeedbackBuffer]

theorem SameSlots.genericTFUses (p : BufferPtr) :
    c'.genericTFUses p = c.genericTFUses p := by
  unfold Context.genericTFUses
  rw [h.bound]

end

theorem Counted.of_same (h : c.Counted) (hslots : SameSlots c c')
    (hcounts : CountsChanged c c' (fun _ => 0) (fun _ => 0) fun _ => 0) : c'.Counted :=
  h.of_changed hcounts (fun p => by rw [hslots.nonTFUses, add_zero])
    (fun p => by rw [hslots.indexedTFUses, add_zero]) fun p => by rw [hslots.genericTFUses, add_zero]

theorem sameSlots_onStateChange (buffer : Option BufferPtr) (message : SubjectMessage) :
    SameSlots c (c.onStateChange buffer message) :=
  ⟨rfl, rfl, rfl, rfl, rfl, fun v => (onStateChange_told buffer message v).sameBuffers⟩

theorem sameSlots_modifyBuffer (buffer : Option BufferPtr) (f : Buffer → Buffer) :
    SameSlots c (c.modifyBuffer buffer f) :=
  ⟨rfl, rfl, rfl, rfl, rfl, fun _ => .refl _⟩

theorem sameSlots_onTFBindingChanged (buffer : Option BufferPtr) (bound indexed : Bool) :
    SameSlots c (c.onTFBindingChanged buffer bound indexed) := by
  cases indexed with
  | false => exact sameSlots_modifyBuffer buffer fun b => b.onTFBindingChanged bound false
  | true =>
      have hcount : SameSlots c (c.modifyBuffer buffer fun b => b.onTFBindingChanged bound true) :=
        sameSlots_modifyBuffer buffer _
      exact hcount.trans (sameSlots_onStateChange buffer .BindingChanged)

theorem sameSlots_modifyVertexArray (v : VertexArrayID) {f : VertexArray → VertexArray}
    (hf : VertexArray.SameBuffers (c.vertexArrays v) (f (c.vertexArrays v))) :
    SameSlots c (c.modifyVertexArray v f) := by
  refine ⟨rfl, rfl, rfl, rfl, rfl, fun w => ?_⟩
  rw [vertexArrays_modifyVertexArray]
  by_cases hw : w = v
  · subst hw
    rwa [update_self]
  · rw [update_of_ne hw]
    exact .refl _

/-! ## Generic and indexed binding points -/

theorem countsChanged_release_bind (released : Context caps) {old : Option BufferPtr}
    (new : Option BufferPtr)
    (hreleased : released.buffers = (c.onNonTFBindingChanged old (-1)).buffers) :
    CountsChanged c (released.onNonTFBindingChanged new 1)
      (fun p => pointsAt new p - pointsAt old p) (fun _ => 0) fun _ => 0 := by
  have hold : CountsChanged c released _ _ _ :=
    (countsChanged_onNonTFBindingChanged old (-1)).of_eq hreleased
  apply (hold.trans (countsChanged_onNonTFBindingChanged new 1)).congr
  · intro p
    omega
  · exact fun _ => rfl
  · exact fun _ => rfl

theorem Counted.updateBufferBinding (h : c.Counted) (target : BufferBinding)
    (buffer : Option BufferPtr) : (c.updateBufferBinding target buffer).Counted := by
  have hpointing : ∀ p, (pointing (update c.mBoundBuffers target buffer) p : Int) =
      pointing c.mBoundBuffers p - pointsAt (c.mBoundBuffers target) p + pointsAt buffer p :=
    pointing_update c.mBoundBuffers target buffer
  unfold Context.updateBufferBinding
  split
  case isTrue htarget =>
    subst htarget
    have hreleased : CountsChanged c ((c.onTFBindingChanged (c.mBoundBuffers .TransformFeedback)
        false false).setBoundBuffer .TransformFeedback buffer) _ _ _ :=
      (countsChanged_onTFBindingChanged_generic _ false).of_eq rfl
    apply h.of_changed (hreleased.trans (countsChanged_onTFBindingChanged_generic buffer true))
    · intro p
      have hp := hpointing p
      change (pointing (update c.mBoundBuffers .TransformFeedback buffer) p -
        pointsAt (update c.mBoundBuffers .TransformFeedback buffer .TransformFeedback) p) +
          pointing c.mIndexedBuffers p + pointing (c.vertexBuffer c.mVertexArray) p +
            pointsAt (c.elementArrayBuffer c.mVertexArray) p = _
      rw [hp, update_self]
      unfold nonTFUses
      omega
    · exact fun p => (add_zero _).symm
    · intro p
      change pointsAt (update c.mBoundBuffers .TransformFeedback buffer .TransformFeedback) p = _
      unfold genericTFUses
      simp
  case isFalse htarget =>
    apply h.of_changed (countsChanged_release_bind ((c.onNonTFBindingChanged
      (c.mBoundBuffers target) (-1)).setBoundBuffer target buffer) buffer rfl)
    · intro p
      have hp := hpointing p
      change (pointing (update c.mBoundBuffers target buffer) p -
        pointsAt (update c.mBoundBuffers target buffer .TransformFeedback) p) +
          pointing c.mIndexedBuffers p + pointing (c.vertexBuffer c.mVertexArray) p +
            pointsAt (c.elementArrayBuffer c.mVertexArray) p = _
      rw [hp, update_of_ne (Ne.symm htarget)]
      unfold nonTFUses
      omega
    · exact fun p => (add_zero _).symm
    · intro p
      change pointsAt (update c.mBoundBuffers target buffer .TransformFeedback) p = _
      rw [update_of_ne (Ne.symm htarget), add_zero]
      rfl

theorem Counted.updateIndexedBufferBinding (h : c.Counted) (point : IndexedPoint caps)
    (buffer : Option BufferPtr) : (c.updateIndexedBufferBinding point buffer).Counted := by
  apply h.of_changed (countsChanged_release_bind ((c.onNonTFBindingChanged
    (c.mIndexedBuffers point) (-1)).setIndexedBuffer point buffer) buffer rfl)
  · intro p
    have hp := pointing_update c.mIndexedBuffers point buffer p
    change (pointing c.mBoundBuffers p - pointsAt (c.mBoundBuffers .TransformFeedback) p) +
      pointing (update c.mIndexedBuffers point buffer) p +
        pointing (c.vertexBuffer c.mVertexArray) p +
          pointsAt (c.elementArrayBuffer c.mVertexArray) p = _
    unfold nonTFUses
    omega
  · exact fun p => (add_zero _).symm
  · exact fun p => (add_zero _).symm

/-! ## Vertex arrays -/

theorem nonTFUses_elementArrayBuffer (c c' : Context caps)
    (hbound : c'.mBoundBuffers = c.mBoundBuffers) (hindexed : c'.mIndexedBuffers = c.mIndexedBuffers)
    (hvertexBuffer : c'.vertexBuffer c'.mVertexArray = c.vertexBuffer c.mVertexArray)
    (p : BufferPtr) : c'.nonTFUses p = c.nonTFUses p +
      (pointsAt (c'.elementArrayBuffer c'.mVertexArray) p -
        pointsAt (c.elementArrayBuffer c.mVertexArray) p) := by
  unfold nonTFUses
  rw [hbound, hindexed, hvertexBuffer]
  omega

theorem nonTFUses_vertexBuffer (c c' : Context caps)
    (hbound : c'.mBoundBuffers = c.mBoundBuffers) (hindexed : c'.mIndexedBuffers = c.mIndexedBuffers)
    {b : AttribIndex} {buffer : Option BufferPtr} (hvertexBuffer : c'.vertexBuffer c'.mVertexArray =
      update (c.vertexBuffer c.mVertexArray) b buffer)
    (helement : c'.elementArrayBuffer c'.mVertexArray = c.elementArrayBuffer c.mVertexArray)
    (p : BufferPtr) : c'.nonTFUses p = c.nonTFUses p +
      (pointsAt buffer p - pointsAt (c.vertexBuffer c.mVertexArray b) p) := by
  have hp := pointing_update (c.vertexBuffer c.mVertexArray) b buffer p
  unfold nonTFUses
  rw [hbound, hindexed, hvertexBuffer, helement, hp]
  omega

theorem vertexBuffer_setElementArrayBuffer (buffer : Option BufferPtr) :
    (c.setElementArrayBuffer buffer).vertexBuffer = c.vertexBuffer := by
  ext1 v
  unfold vertexBuffer
  rw [vertexArrays_setElementArrayBuffer]
  by_cases hv : v = c.mVertexArray
  · subst hv
    rw [update_self]
  · rw [update_of_ne hv]

theorem countsChanged_setElementArrayBuffer (buffer : Option BufferPtr) :
    CountsChanged c (c.setElementArrayBuffer buffer)
      (fun p => pointsAt buffer p - pointsAt (c.elementArrayBuffer c.mVertexArray) p) (fun _ => 0)
        fun _ => 0 := by
  obtain ⟨released, hreleased⟩ : ∃ released : Context caps, released =
    (c.removeObserver (c.elementArrayBuffer c.mVertexArray)
      (c.mVertexArray, .elementArrayBuffer)).onNonTFBindingChanged
        (c.elementArrayBuffer c.mVertexArray) (-1) := ⟨_, rfl⟩
  have hold : CountsChanged c released _ _ _ := hreleased ▸
    (countsChanged_removeObserver _ _).trans (countsChanged_onNonTFBindingChanged _ (-1))
  have hnew : CountsChanged released (c.setElementArrayBuffer buffer) _ _ _ :=
    ((countsChanged_addObserver buffer (c.mVertexArray, .elementArrayBuffer)).trans
      (countsChanged_onNonTFBindingChanged buffer 1)).of_eq (hreleased ▸ rfl)
  apply (hold.trans hnew).congr
  · intro p
    omega
  · exact fun _ => rfl
  · exact fun _ => rfl

theorem Counted.setElementArrayBuffer (h : c.Counted) (buffer : Option BufferPtr) :
    (c.setElementArrayBuffer buffer).Counted := by
  have helement : (c.setElementArrayBuffer buffer).elementArrayBuffer c.mVertexArray = buffer := by
    unfold elementArrayBuffer
    rw [vertexArrays_setElementArrayBuffer, update_self]
  apply h.of_changed (countsChanged_setElementArrayBuffer buffer)
  · intro p
    have huses := nonTFUses_elementArrayBuffer c (c.setElementArrayBuffer buffer) rfl rfl
      (congrFun (vertexBuffer_setElementArrayBuffer buffer) c.mVertexArray) p
    change _ = _ + (pointsAt ((c.setElementArrayBuffer buffer).elementArrayBuffer c.mVertexArray) p -
      _) at huses
    rw [huses, helement]
  · exact fun p => (add_zero _).symm
  · exact fun p => (add_zero _).symm

theorem vertexBuffer_rebindVertexBuffer (b : AttribIndex) (boundBuffer : Option BufferPtr)
    (offset : Int) (stride : Nat) :
    (c.rebindVertexBuffer b boundBuffer offset stride).vertexBuffer c.mVertexArray =
      update (c.vertexBuffer c.mVertexArray) b boundBuffer := by
  ext1 b'
  unfold vertexBuffer
  rw [vertexArrays_rebindVertexBuffer, update_self, bindBuffer_bindings]
  by_cases hb : b' = b
  · subst hb
    rw [update_self, update_self]
  · rw [update_of_ne hb, update_of_ne hb]

theorem elementArrayBuffer_rebindVertexBuffer (b : AttribIndex) (boundBuffer : Option BufferPtr)
    (offset : Int) (stride : Nat) :
    (c.rebindVertexBuffer b boundBuffer offset stride).elementArrayBuffer c.mVertexArray =
      c.elementArrayBuffer c.mVertexArray := by
  unfold elementArrayBuffer
  rw [vertexArrays_rebindVertexBuffer, update_self, bindBuffer_elementArrayBuffer]

theorem countsChanged_rebindVertexBuffer (b : AttribIndex) (boundBuffer : Option BufferPtr)
    (offset : Int) (stride : Nat) :
    CountsChanged c (c.rebindVertexBuffer b boundBuffer offset stride)
      (fun p => pointsAt boundBuffer p - pointsAt (c.vertexBuffer c.mVertexArray b) p) (fun _ => 0)
        fun _ => 0 := by
  obtain ⟨released, hreleased⟩ : ∃ released : Context caps, released =
    (c.onNonTFBindingChanged (c.vertexBuffer c.mVertexArray b) (-1)).removeObserver
      (c.vertexBuffer c.mVertexArray b) (c.mVertexArray, .vertexBuffer b) := ⟨_, rfl⟩
  have hold : CountsChanged c released _ _ _ := hreleased ▸
    (countsChanged_onNonTFBindingChanged _ (-1)).trans (countsChanged_removeObserver _ _)
  have hnew : CountsChanged released (c.rebindVertexBuffer b boundBuffer offset stride) _ _ _ :=
    ((countsChanged_onNonTFBindingChanged boundBuffer 1).trans
      (countsChanged_addObserver boundBuffer (c.mVertexArray, .vertexBuffer b))).of_eq
        (hreleased ▸ buffers_rebindVertexBuffer b boundBuffer offset stride)
  apply (hold.trans hnew).congr
  · intro p
    omega
  · exact fun _ => rfl
  · exact fun _ => rfl

theorem Counted.bindVertexBufferImpl (h : c.Counted) (b : AttribIndex)
    (boundBuffer : Option BufferPtr) (offset : Int) (stride : Nat) :
    (c.bindVertexBufferImpl b boundBuffer offset stride).Counted := by
  unfold Context.bindVertexBufferImpl
  dsimp only
  split
  · exact h
  · apply h.of_changed (countsChanged_rebindVertexBuffer b boundBuffer offset stride)
    · intro p
      exact nonTFUses_vertexBuffer c (c.rebindVertexBuffer b boundBuffer offset stride) rfl rfl
        (vertexBuffer_rebindVertexBuffer b boundBuffer offset stride)
          (elementArrayBuffer_rebindVertexBuffer b boundBuffer offset stride) p
    · exact fun p => (add_zero _).symm
    · exact fun p => (add_zero _).symm

theorem countsChanged_onContainerBindingChanged (v : VertexArrayID) (incr : Int)
    (bs : List AttribIndex) :
    CountsChanged c (bs.foldl (fun c b => c.onNonTFBindingChanged (c.vertexBuffer v b) incr) c)
      (fun p => incr * (bs.map fun b => pointsAt (c.vertexBuffer v b) p).sum) (fun _ => 0)
        fun _ => 0 := by
  induction bs generalizing c with
  | nil => simpa using CountsChanged.of_buffers_eq (c := c) rfl
  | cons b bs ih =>
    have hfirst : CountsChanged c (c.onNonTFBindingChanged (c.vertexBuffer v b) incr) _ _ _ :=
      countsChanged_onNonTFBindingChanged _ incr
    apply (hfirst.trans ih).congr
    · intro p
      rw [map_cons, sum_cons, mul_add]
      rfl
    · exact fun _ => rfl
    · exact fun _ => rfl

theorem pointing_eq_sum_finRange {n : Nat} (slots : Fin n → Option BufferPtr) (p : BufferPtr) :
    ((List.finRange n).map fun i => pointsAt (slots i) p).sum = pointing slots p := by
  rw [pointing_eq_sum, Fin.sum_univ_def]

theorem countsChanged_onVertexArrayBindingChanged (v : VertexArrayID) (incr : Int) :
    CountsChanged c (c.onVertexArrayBindingChanged v incr)
      (fun p => incr * (pointing (c.vertexBuffer v) p + pointsAt (c.elementArrayBuffer v) p))
        (fun _ => 0) fun _ => 0 := by
  have helement : CountsChanged c (c.onNonTFBindingChanged (c.elementArrayBuffer v) incr) _ _ _ :=
    countsChanged_onNonTFBindingChanged _ incr
  apply (helement.trans (countsChanged_onContainerBindingChanged v incr _)).congr
  · intro p
    have hsum := pointing_eq_sum_finRange (c.vertexBuffer v) p
    change _ = _ + incr * ((finRange maxVertexAttribs).map fun b =>
      pointsAt (c.vertexBuffer v b) p).sum
    rw [hsum, mul_add, add_comm]
  · exact fun _ => rfl
  · exact fun _ => rfl

theorem onVertexArrayBindingChanged_slots (v : VertexArrayID) (incr : Int) :
    (c.onVertexArrayBindingChanged v incr).vertexArrays = c.vertexArrays ∧
      SameSlots c (c.onVertexArrayBindingChanged v incr) := by
  have hfold : ∀ bs : List AttribIndex, ∀ c : Context caps,
      (bs.foldl (fun c b => c.onNonTFBindingChanged (c.vertexBuffer v b) incr) c).vertexArrays =
          c.vertexArrays ∧
        SameSlots c
          (bs.foldl (fun c b => c.onNonTFBindingChanged (c.vertexBuffer v b) incr) c) := by
    intro bs
    induction bs with
    | nil => exact fun c => ⟨rfl, .refl c⟩
    | cons b bs ih =>
        intro c
        obtain ⟨hvertexArrays, hslots⟩ :=
          ih (c.onNonTFBindingChanged (c.vertexBuffer v b) incr)
        exact ⟨hvertexArrays, (sameSlots_modifyBuffer _ _).trans hslots⟩
  obtain ⟨hvertexArrays, hslots⟩ :=
    hfold (finRange maxVertexAttribs) (c.onNonTFBindingChanged (c.elementArrayBuffer v) incr)
  exact ⟨hvertexArrays, (sameSlots_modifyBuffer _ _).trans hslots⟩

theorem Counted.setVertexArrayBinding (h : c.Counted) (v : VertexArrayID) :
    (c.setVertexArrayBinding v).Counted := by
  unfold Context.setVertexArrayBinding
  split
  case isTrue => exact h
  case isFalse =>
    obtain ⟨released, hreleased⟩ : ∃ released : Context caps, released =
      c.onVertexArrayBindingChanged c.mVertexArray (-1) := ⟨_, rfl⟩
    have hold : CountsChanged c { released with mVertexArray := v } _ _ _ :=
      (hreleased ▸ countsChanged_onVertexArrayBindingChanged c.mVertexArray (-1) :
        CountsChanged c released _ _ _).of_eq rfl
    have hslots : SameSlots c released :=
      hreleased ▸ (onVertexArrayBindingChanged_slots c.mVertexArray (-1)).2
    have hnew : SameSlots { released with mVertexArray := v } ({ released with
        mVertexArray := v }.onVertexArrayBindingChanged v 1) :=
      (onVertexArrayBindingChanged_slots v 1).2
    rw [← hreleased]
    apply h.of_changed (hold.trans (countsChanged_onVertexArrayBindingChanged v 1))
    · intro p
      unfold nonTFUses
      change (pointing released.mBoundBuffers p -
        pointsAt (released.mBoundBuffers .TransformFeedback) p) +
          pointing released.mIndexedBuffers p + pointing (released.vertexBuffer v) p +
            pointsAt (released.elementArrayBuffer v) p = _ + (_ + 1 *
              (pointing (released.vertexBuffer v) p + pointsAt (released.elementArrayBuffer v) p))
      rw [hslots.bound, hslots.indexed, hslots.vertexBuffer, hslots.elementArrayBuffer]
      omega
    · intro p
      exact hslots.indexedTFUses p
    · intro p
      rw [hnew.genericTFUses, add_zero, add_zero]
      exact hslots.genericTFUses p

/-! ## Transform feedbacks -/

theorem countsChanged_onTransformFeedbackBindingChanged (t : TransformFeedbackID) (bound : Bool) :
    CountsChanged c (c.onTransformFeedbackBindingChanged t bound) (fun _ => 0)
        (fun p => (if bound then 1 else -1) * (pointing (c.transformFeedbackBuffer t) p : Int))
          (fun _ => 0) ∧
      SameSlots c (c.onTransformFeedbackBindingChanged t bound) := by
  have hfold : ∀ indices : List (Fin caps.maxTransformFeedbackSeparateAttributes),
      ∀ c : Context caps,
      CountsChanged c (indices.foldl (fun c index =>
          c.onTFBindingChanged (c.transformFeedbackBuffer t index) bound true) c) (fun _ => 0)
        (fun p => (if bound then 1 else -1) *
          (indices.map fun index => pointsAt (c.transformFeedbackBuffer t index) p).sum)
            (fun _ => 0) ∧
        SameSlots c (indices.foldl (fun c index =>
          c.onTFBindingChanged (c.transformFeedbackBuffer t index) bound true) c) := by
    intro indices
    induction indices with
    | nil =>
        intro c
        exact ⟨by simpa using CountsChanged.of_buffers_eq (c := c) rfl, .refl c⟩
    | cons index indices ih =>
      intro c
      have hfirst : CountsChanged c (c.onTFBindingChanged (c.transformFeedbackBuffer t index)
          bound true) _ _ _ := countsChanged_onTFBindingChanged _ bound
      have hslots : SameSlots c (c.onTFBindingChanged (c.transformFeedbackBuffer t index) bound
          true) := sameSlots_onTFBindingChanged _ bound true
      obtain ⟨hcounts, hrest⟩ :=
        ih (c.onTFBindingChanged (c.transformFeedbackBuffer t index) bound true)
      refine ⟨(hfirst.trans hcounts).congr (fun _ => rfl) (fun p => ?_) fun _ => rfl,
        hslots.trans hrest⟩
      rw [map_cons, sum_cons, mul_add, hslots.transformFeedbackBuffer]
  obtain ⟨hcounts, hslots⟩ := hfold (finRange _) c
  refine ⟨hcounts.congr (fun _ => rfl) (fun p => ?_) fun _ => rfl, hslots⟩
  rw [pointing_eq_sum_finRange (c.transformFeedbackBuffer t) p]

theorem Counted.setTransformFeedbackBinding (h : c.Counted) (t : TransformFeedbackID) :
    (c.setTransformFeedbackBinding t).Counted := by
  unfold Context.setTransformFeedbackBinding
  split
  case isTrue => exact h
  case isFalse =>
    obtain ⟨released, hreleased⟩ : ∃ released : Context caps, released =
      c.onTransformFeedbackBindingChanged c.mTransformFeedback false := ⟨_, rfl⟩
    obtain ⟨hold, hslots⟩ : CountsChanged c released _ _ _ ∧ SameSlots c released :=
      hreleased ▸ countsChanged_onTransformFeedbackBindingChanged c.mTransformFeedback false
    rw [← hreleased]
    have hbound : CountsChanged c { released with mTransformFeedback := t } _ _ _ := hold.of_eq rfl
    obtain ⟨hnew, hnewSlots⟩ : CountsChanged { released with mTransformFeedback := t }
          ({ released with mTransformFeedback := t }.onTransformFeedbackBindingChanged t true)
            _ _ _ ∧ SameSlots { released with mTransformFeedback := t } _ :=
      countsChanged_onTransformFeedbackBindingChanged t true
    apply h.of_changed (hbound.trans hnew)
    · intro p
      rw [hnewSlots.nonTFUses, add_zero, add_zero]
      exact hslots.nonTFUses p
    · intro p
      rw [hnewSlots.indexedTFUses]
      unfold indexedTFUses
      simp
    · intro p
      rw [hnewSlots.genericTFUses, add_zero, add_zero]
      exact hslots.genericTFUses p

/-- A buffer of the current transform feedback is released and another one is bound there. -/
theorem Counted.setTransformFeedbackBuffer (h : c.Counted) {released : Context caps}
    (hslots : SameSlots c released)
    (index : Fin caps.maxTransformFeedbackSeparateAttributes) (buffer : Option BufferPtr)
    (hcounts : CountsChanged c c' (fun _ => 0) (fun p => pointsAt buffer p -
      pointsAt (c.transformFeedbackBuffer c.mTransformFeedback index) p) fun _ => 0)
    (hbound : SameSlots (released.setTransformFeedbackBuffer index buffer) c') : c'.Counted := by
  apply h.of_changed hcounts
  · intro p
    rw [hbound.nonTFUses, add_zero]
    exact hslots.nonTFUses p
  · intro p
    have hupdate : (released.setTransformFeedbackBuffer index buffer).transformFeedbackBuffer
        released.mTransformFeedback = update
          (released.transformFeedbackBuffer released.mTransformFeedback) index buffer := by
      unfold Context.setTransformFeedbackBuffer transformFeedbackBuffer
      dsimp only
      rw [update_self]
    have hp := pointing_update (c.transformFeedbackBuffer c.mTransformFeedback) index buffer p
    rw [hbound.indexedTFUses]
    change (pointing ((released.setTransformFeedbackBuffer index buffer).transformFeedbackBuffer
      released.mTransformFeedback) p : Int) = _
    rw [hupdate, hslots.transformFeedback, hslots.transformFeedbackBuffer, hp]
    unfold indexedTFUses
    omega
  · intro p
    rw [hbound.genericTFUses, add_zero]
    exact hslots.genericTFUses p

theorem Counted.bindIndexedBuffer (h : c.Counted)
    (index : Fin caps.maxTransformFeedbackSeparateAttributes) (buffer : Option BufferPtr) :
    (c.bindIndexedBuffer index buffer).Counted := by
  obtain ⟨released, hreleased⟩ : ∃ released : Context caps, released = c.onTFBindingChanged
    (c.transformFeedbackBuffer c.mTransformFeedback index) false true := ⟨_, rfl⟩
  have hslots : SameSlots c released := hreleased ▸ sameSlots_onTFBindingChanged _ false true
  have hold : CountsChanged c (released.setTransformFeedbackBuffer index buffer) _ _ _ :=
    (hreleased ▸ countsChanged_onTFBindingChanged _ false :
      CountsChanged c released _ _ _).of_eq rfl
  unfold Context.bindIndexedBuffer
  rw [← hreleased]
  apply h.setTransformFeedbackBuffer hslots index buffer
  · apply (hold.trans (countsChanged_onTFBindingChanged buffer true)).congr
    · exact fun _ => rfl
    · intro p
      simp
      omega
    · exact fun _ => rfl
  · exact sameSlots_onTFBindingChanged buffer true true

theorem Counted.clearTransformFeedback (h : c.Counted) {t : TransformFeedbackID}
    (ht : t ≠ c.mTransformFeedback) :
    { c with transformFeedbacks := update c.transformFeedbacks t (.new caps) }.Counted := by
  refine h.of_changed (.of_buffers_eq rfl) ?_ ?_ ?_
  · exact fun p => (add_zero _).symm
  · intro p
    unfold indexedTFUses transformFeedbackBuffer
    dsimp only
    rw [update_of_ne (Ne.symm ht), add_zero]
  · exact fun p => (add_zero _).symm

/-! ## Deletion of buffers -/

theorem Counted.detachTransformFeedbackBuffer (h : c.Counted) (bufferID : BufferID)
    (index : Fin caps.maxTransformFeedbackSeparateAttributes) :
    (c.detachTransformFeedbackBuffer bufferID index).Counted := by
  unfold Context.detachTransformFeedbackBuffer
  dsimp only
  split
  case isFalse => exact h
  case isTrue =>
    have hold : CountsChanged c ((c.onTFBindingChanged (c.transformFeedbackBuffer
        c.mTransformFeedback index) false true).setTransformFeedbackBuffer index none) _ _ _ :=
      (countsChanged_onTFBindingChanged _ false).of_eq rfl
    apply h.setTransformFeedbackBuffer (sameSlots_onTFBindingChanged _ false true) index none
    · apply hold.congr
      · exact fun _ => rfl
      · intro p
        simp
      · exact fun _ => rfl
    · exact .refl _

theorem countsChanged_detachVertexBuffer (bufferID : BufferID) {b : AttribIndex}
    (hid : c.bufferId (c.vertexBuffer c.mVertexArray b) = bufferID) :
    CountsChanged c (c.detachVertexBuffer bufferID b)
        (fun p => -pointsAt (c.vertexBuffer c.mVertexArray b) p) (fun _ => 0) (fun _ => 0) ∧
      (c.detachVertexBuffer bufferID b).mVertexArray = c.mVertexArray ∧
        (c.detachVertexBuffer bufferID b).mBoundBuffers = c.mBoundBuffers ∧
          (c.detachVertexBuffer bufferID b).mIndexedBuffers = c.mIndexedBuffers ∧
            (c.detachVertexBuffer bufferID b).indexedTFUses = c.indexedTFUses := by
  have hcounts := (countsChanged_onNonTFBindingChanged (c := c)
    (c.vertexBuffer c.mVertexArray b) (-1)).trans
      (countsChanged_removeObserver (c.vertexBuffer c.mVertexArray b)
        (c.mVertexArray, .vertexBuffer b))
  unfold Context.detachVertexBuffer
  rw [if_pos hid]
  exact ⟨(hcounts.congr (fun _ => by simp) (fun _ => rfl) fun _ => rfl).of_eq rfl, rfl, rfl, rfl, rfl⟩

theorem Counted.detachVertexBuffer (h : c.Counted) (bufferID : BufferID) (b : AttribIndex) :
    (c.detachVertexBuffer bufferID b).Counted := by
  by_cases hid : c.bufferId (c.vertexBuffer c.mVertexArray b) = bufferID
  case neg =>
    unfold Context.detachVertexBuffer
    rwa [if_neg hid]
  case pos =>
    obtain ⟨hcounts, hcurrent, hbound, hindexed, htf⟩ :=
      countsChanged_detachVertexBuffer (c := c) bufferID hid
    have hself : (c.detachVertexBuffer bufferID b).vertexArrays c.mVertexArray =
        (c.vertexArrays c.mVertexArray).detachBuffer b := by
      rw [vertexArrays_detachVertexBuffer b bufferID hid, update_self]
    have hvertexBuffer : (c.detachVertexBuffer bufferID b).vertexBuffer c.mVertexArray =
        update (c.vertexBuffer c.mVertexArray) b none := by
      ext1 b'
      unfold vertexBuffer
      rw [hself, detachBuffer_bindings]
      by_cases hb : b' = b
      · subst hb
        rw [update_self, update_self]
      · rw [update_of_ne hb, update_of_ne hb]
    have helement : (c.detachVertexBuffer bufferID b).elementArrayBuffer c.mVertexArray =
        c.elementArrayBuffer c.mVertexArray := by
      unfold elementArrayBuffer
      rw [hself]
      rfl
    apply h.of_changed hcounts
    · intro p
      have huses := nonTFUses_vertexBuffer c (c.detachVertexBuffer bufferID b) hbound hindexed
        (by rw [hcurrent, hvertexBuffer]) (by rw [hcurrent, helement]) p
      rw [huses, pointsAt_none]
      omega
    · intro p
      rw [htf]
      exact (add_zero _).symm
    · intro p
      unfold genericTFUses
      rw [hbound]
      exact (add_zero _).symm

theorem Counted.detachElementArrayBuffer (h : c.Counted) (bufferID : BufferID) :
    (c.detachElementArrayBuffer bufferID).Counted := by
  unfold Context.detachElementArrayBuffer
  dsimp only
  split
  case isFalse => exact h
  case isTrue =>
    obtain ⟨detached, hdetached⟩ : ∃ detached : Context caps, detached =
      (c.onNonTFBindingChanged (c.elementArrayBuffer c.mVertexArray)
        (-1)).unbindElementArrayBuffer c.mVertexArray := ⟨_, rfl⟩
    have hreleased : CountsChanged c detached _ _ _ :=
      ((countsChanged_onNonTFBindingChanged (c.elementArrayBuffer c.mVertexArray) (-1)).trans
        (countsChanged_removeObserver (c.elementArrayBuffer c.mVertexArray)
          (c.mVertexArray, .elementArrayBuffer))).of_eq (hdetached ▸ rfl)
    have hself : detached.vertexArrays c.mVertexArray =
        { c.vertexArrays c.mVertexArray with mElementArrayBuffer := none } := by
      rw [hdetached, vertexArrays_unbindElementArrayBuffer, update_self]
      rfl
    have hcurrent : detached.mVertexArray = c.mVertexArray := hdetached ▸ rfl
    rw [← hdetached]
    apply h.of_changed hreleased
    · intro p
      have hvertexBuffer : detached.vertexBuffer detached.mVertexArray =
          c.vertexBuffer c.mVertexArray := by
        unfold vertexBuffer
        rw [hcurrent, hself]
      have helement : detached.elementArrayBuffer c.mVertexArray = none := by
        unfold elementArrayBuffer
        rw [hself]
      have huses := nonTFUses_elementArrayBuffer c detached (hdetached ▸ rfl) (hdetached ▸ rfl)
        hvertexBuffer p
      rw [huses, hcurrent, helement, pointsAt_none]
      omega
    · intro p
      rw [hdetached]
      exact (add_zero _).symm
    · intro p
      rw [hdetached]
      exact (add_zero _).symm

/-! ## Deletion of vertex arrays -/

theorem countsChanged_destroyVertexArray (v : VertexArrayID) (cache : RangeCache) :
    CountsChanged c (c.destroyVertexArray v cache) (fun _ => 0) (fun _ => 0) (fun _ => 0) ∧
      (c.destroyVertexArray v cache).mVertexArray = c.mVertexArray ∧
        (c.destroyVertexArray v cache).mBoundBuffers = c.mBoundBuffers ∧
          (c.destroyVertexArray v cache).mIndexedBuffers = c.mIndexedBuffers ∧
            (c.destroyVertexArray v cache).indexedTFUses = c.indexedTFUses := by
  obtain ⟨hcounts, hslots⟩ := foldlRecOn (motive := fun c' : Context caps =>
      CountsChanged c c' (fun _ => 0) (fun _ => 0) (fun _ => 0) ∧ c'.mVertexArray = c.mVertexArray ∧
        c'.mBoundBuffers = c.mBoundBuffers ∧ c'.mIndexedBuffers = c.mIndexedBuffers ∧
          c'.indexedTFUses = c.indexedTFUses)
    (finRange maxVertexAttribs) (fun c b => c.unbindVertexBuffer v b)
    ⟨.of_buffers_eq rfl, rfl, rfl, rfl, rfl⟩ fun c' hc b _ =>
      ⟨(hc.1.trans (countsChanged_removeObserver (c'.vertexBuffer v b)
        (v, .vertexBuffer b))).of_eq rfl, hc.2⟩
  unfold Context.destroyVertexArray
  generalize (finRange maxVertexAttribs).foldl (fun c b => c.unbindVertexBuffer v b) c = emptied
    at hcounts hslots ⊢
  exact ⟨(hcounts.trans (countsChanged_removeObserver _ (v, .elementArrayBuffer))).of_eq rfl, hslots⟩

theorem Counted.destroyVertexArray (h : c.Counted) {v : VertexArrayID} (hv : v ≠ c.mVertexArray)
    (cache : RangeCache) : (c.destroyVertexArray v cache).Counted := by
  obtain ⟨hcounts, hcurrent, hbound, hindexed, htf⟩ :=
    countsChanged_destroyVertexArray (c := c) v cache
  apply h.of_changed hcounts
  · intro p
    unfold nonTFUses vertexBuffer elementArrayBuffer
    rw [hcurrent, vertexArrays_destroyVertexArray, update_of_ne (Ne.symm hv), hbound, hindexed,
      add_zero]
  · intro p
    rw [htf]
    exact (add_zero _).symm
  · intro p
    unfold genericTFUses
    rw [hbound]
    exact (add_zero _).symm

/-! ## Changes -/

section

variable (h : c.Counted)
include h

theorem Counted.modifyVertexArray (v : VertexArrayID)
    {f : VertexArray → VertexArray}
    (hf : VertexArray.SameBuffers (c.vertexArrays v) (f (c.vertexArrays v))) :
    (c.modifyVertexArray v f).Counted :=
  h.of_same (sameSlots_modifyVertexArray v hf) (.of_buffers_eq rfl)

theorem Counted.onStateChange (buffer : Option BufferPtr)
    (message : SubjectMessage) : (c.onStateChange buffer message).Counted :=
  h.of_same (sameSlots_onStateChange buffer message) (.of_buffers_eq rfl)

theorem Counted.modifyBuffer (buffer : Option BufferPtr) {f : Buffer → Buffer}
    (hcount : ∀ b, (f b).mBindingCount = b.mBindingCount)
    (hindexed : ∀ b, (f b).mTransformFeedbackIndexedBindingCount =
      b.mTransformFeedbackIndexedBindingCount)
    (hgeneric : ∀ b, (f b).mTransformFeedbackGenericBindingCount =
      b.mTransformFeedbackGenericBindingCount) : (c.modifyBuffer buffer f).Counted := by
  have hmodified : CountsChanged c (c.modifyBuffer buffer f) _ _ _ :=
    countsChanged_modifyBuffer (n := 0) (i := 0) (g := 0) buffer
      (fun b => by unfold Buffer.nonTFBindingCount; rw [hcount, hindexed, hgeneric, add_zero])
        (fun b => by rw [hindexed, add_zero]) fun b => by rw [hgeneric, add_zero]
  apply h.of_same (sameSlots_modifyBuffer buffer f)
  simpa only [zero_mul] using hmodified

theorem Counted.setContents (buffer : Option BufferPtr) (contents : Memory) :
    (c.setContents buffer contents).Counted :=
  h.modifyBuffer (f := fun b => { b with contents := contents }) buffer (fun _ => rfl)
    (fun _ => rfl) fun _ => rfl

theorem Counted.drawContents (draw : Draw caps) : (c.drawContents draw).Counted := by
  refine h.of_same ⟨rfl, rfl, rfl, rfl, rfl, fun _ => .refl _⟩ ?_
  unfold Context.drawContents
  constructor
  all_goals
    intro p
    dsimp only
    split <;> exact (add_zero _).symm

theorem Counted.change {g : Guards caps} (hchange : Change g c c') : c'.Counted := by
  cases hchange with
  | updateBufferBinding target buffer => exact h.updateBufferBinding target buffer
  | updateIndexedBufferBinding point buffer => exact h.updateIndexedBufferBinding point buffer
  | setElementArrayBuffer buffer => exact h.setElementArrayBuffer buffer
  | bindVertexBufferImpl b buffer offset stride => exact h.bindVertexBufferImpl b buffer offset stride
  | setFormatAndBinding _ i format =>
    apply h.modifyVertexArray
    exact (setVertexAttribFormatImpl_sameBuffers i format 0).trans
      (setVertexAttribBinding_sameBuffers i i)
  | setVertexAttribFormat i format relativeOffset =>
    exact h.modifyVertexArray _
      (setVertexAttribFormat_sameBuffers i format relativeOffset)
  | setVertexAttribBinding i b =>
    exact h.modifyVertexArray _ (setVertexAttribBinding_sameBuffers i b)
  | setVertexBindingDivisor b divisor =>
    exact h.modifyVertexArray _ (setVertexBindingDivisor_sameBuffers b divisor)
  | setVertexAttribDivisor i divisor =>
    exact h.modifyVertexArray _ ((setVertexAttribBinding_sameBuffers i i).trans
      (setVertexBindingDivisor_sameBuffers i divisor))
  | setEnableVertexAttribArray i enabled =>
    exact h.modifyVertexArray _ (enableAttribute_sameBuffers i enabled)
  | setVertexArrayBinding _ => exact h.setVertexArrayBinding _
  | destroyVertexArray hv cache => exact h.destroyVertexArray hv cache
  | bindIndexedBuffer index buffer => exact h.bindIndexedBuffer index buffer
  | setTransformFeedbackBinding t => exact h.setTransformFeedbackBinding t
  | clearTransformFeedback ht => exact h.clearTransformFeedback ht
  | detachTransformFeedbackBuffer bufferID index =>
    exact h.detachTransformFeedbackBuffer bufferID index
  | detachVertexBuffer _ bufferID b => exact h.detachVertexBuffer bufferID b
  | detachElementArrayBuffer bufferID => exact h.detachElementArrayBuffer bufferID
  | setContents _ buffer memory => exact h.setContents buffer memory
  | contentsChanged _ buffer => exact h.onStateChange buffer .ContentsChanged
  | bufferData _ p memory size =>
    apply Counted.onStateChange
    apply Counted.modifyBuffer
    case h => exact h.setContents (some p) memory
    all_goals exact fun _ => rfl
  | map _ p =>
    apply Counted.onStateChange
    apply h.modifyBuffer
    all_goals exact fun _ => rfl
  | unmap _ p =>
    apply Counted.onStateChange
    apply h.modifyBuffer
    all_goals exact fun _ => rfl
  | drawContents _ draw => exact h.drawContents draw
  | setPrimitiveRestart _ _ =>
    exact h.of_same ⟨rfl, rfl, rfl, rfl, rfl, fun _ => .refl _⟩ (.of_buffers_eq rfl)
  | cacheIndexRange _ _ => exact h.modifyVertexArray _ ⟨rfl, fun _ => rfl⟩

end

theorem counted_initial (validation : Bool) (ids : BufferPtr → BufferID)
    (caches : VertexArrayID → RangeCache) :
    (initial validation ids caches : Context caps).Counted := by
  have hnone : ∀ {Slot : Type} [Fintype Slot] (p : BufferPtr),
      pointing (fun _ : Slot => (none : Option BufferPtr)) p = 0 := by
    intro Slot _ p
    unfold pointing
    simp
  constructor
  all_goals intro p
  · change (0 : Int) = ((pointing (fun _ : BufferBinding => (none : Option BufferPtr)) p : Int) - 0) +
      pointing (fun _ : IndexedPoint caps => (none : Option BufferPtr)) p +
        pointing (fun _ : AttribIndex => (none : Option BufferPtr)) p + 0
    rw [hnone, hnone, hnone]
    rfl
  · change (0 : Int) = pointing (fun _ : Fin caps.maxTransformFeedbackSeparateAttributes =>
      (none : Option BufferPtr)) p
    rw [hnone]
    rfl
  · rfl

end Context

end MetalAngle.Gl.Bindings
