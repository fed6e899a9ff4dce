import MetalAngle.Gl.VertexArray

/-!
# The buffer bindings of a context

A buffer is bound to generic and indexed binding points of the context, to the vertex arrays and to
the transform feedbacks; it counts the bindings of the context and of its current vertex array and
transform feedback.  All buffer objects exist from the start; the calls on a name are calls on the
object that the name stands for.
-/

namespace MetalAngle.Gl.Bindings

open LabelledRun Observers
open MetalAngle.Metal (DrawElementsType)
open Function (update)

/-! ## Binding points -/

abbrev TransformFeedbackID := Nat

inductive BufferBinding
  | Array | AtomicCounter | CopyRead | CopyWrite | DispatchIndirect | DrawIndirect | ElementArray
  | PixelPack | PixelUnpack | ShaderStorage | TransformFeedback | Uniform
deriving DecidableEq

def BufferBinding.all : List BufferBinding :=
  [.Array, .AtomicCounter, .CopyRead, .CopyWrite, .DispatchIndirect, .DrawIndirect, .ElementArray,
    .PixelPack, .PixelUnpack, .ShaderStorage, .TransformFeedback, .Uniform]

instance : Fintype BufferBinding where
  elems := ⟨BufferBinding.all, by decide⟩
  complete target := by cases target <;> decide

inductive IndexedTarget
  | Uniform | AtomicCounter | ShaderStorage
deriving DecidableEq

def IndexedTarget.all : List IndexedTarget := [.Uniform, .AtomicCounter, .ShaderStorage]

instance : Fintype IndexedTarget where
  elems := ⟨IndexedTarget.all, by decide⟩
  complete target := by cases target <;> decide

def IndexedTarget.generic : IndexedTarget → BufferBinding
  | .Uniform => .Uniform
  | .AtomicCounter => .AtomicCounter
  | .ShaderStorage => .ShaderStorage

structure Caps where
  maxUniformBufferBindings : Nat
  maxAtomicCounterBufferBindings : Nat
  maxShaderStorageBufferBindings : Nat
  maxTransformFeedbackSeparateAttributes : Nat

def Caps.maxBindings (caps : Caps) : IndexedTarget → Nat
  | .Uniform => caps.maxUniformBufferBindings
  | .AtomicCounter => caps.maxAtomicCounterBufferBindings
  | .ShaderStorage => caps.maxShaderStorageBufferBindings

abbrev IndexedPoint (caps : Caps) := (target : IndexedTarget) × Fin (caps.maxBindings target)

def indexedPoints (caps : Caps) (target : IndexedTarget) : List (IndexedPoint caps) :=
  (List.finRange (caps.maxBindings target)).map fun index => ⟨target, index⟩

structure TransformFeedback (caps : Caps) where
  mIndexedBuffers : Fin caps.maxTransformFeedbackSeparateAttributes → Option BufferPtr

def TransformFeedback.new (caps : Caps) : TransformFeedback caps := ⟨fun _ => none⟩

structure Context (caps : Caps) where
  buffers : Buffers
  vertexArrays : VertexArrayID → VertexArray
  transformFeedbacks : TransformFeedbackID → TransformFeedback caps
  mVertexArray : VertexArrayID
  mTransformFeedback : TransformFeedbackID
  mBoundBuffers : BufferBinding → Option BufferPtr
  mIndexedBuffers : IndexedPoint caps → Option BufferPtr
  mPrimitiveRestart : Bool
  mBufferAccessValidationEnabled : Bool

variable {caps : Caps}

namespace Context

def initial (bufferAccessValidationEnabled : Bool) (ids : BufferPtr → BufferID)
    (caches : VertexArrayID → RangeCache) : Context caps :=
  { buffers := fun p => .new (ids p)
    vertexArrays := fun v => .new bufferAccessValidationEnabled (caches v)
    transformFeedbacks := fun _ => .new caps
    mVertexArray := 0
    mTransformFeedback := 0
    mBoundBuffers := fun _ => none
    mIndexedBuffers := fun _ => none
    mPrimitiveRestart := false
    mBufferAccessValidationEnabled := bufferAccessValidationEnabled }

variable (c : Context caps)

def modifyBuffer (buffer : Option BufferPtr) (f : Buffer → Buffer) : Context caps :=
  { c with buffers := fun p => if buffer = some p then f (c.buffers p) else c.buffers p }

def modifyVertexArray (v : VertexArrayID) (f : VertexArray → VertexArray) : Context caps :=
  { c with vertexArrays := update c.vertexArrays v (f (c.vertexArrays v)) }

def observers (p : BufferPtr) : List Observer := (c.buffers p).mObservers

section

variable (buffer : Option BufferPtr)

def onStateChange (message : SubjectMessage) : Context caps :=
  { c with
    vertexArrays := notify
      (fun (observer : Observer) vertexArrays =>
        update vertexArrays observer.1
          ((vertexArrays observer.1).onSubjectStateChange c.buffers observer.2 message))
      (buffer.elim [] c.observers) c.vertexArrays }

def onNonTFBindingChanged (incr : Int) : Context caps :=
  c.modifyBuffer buffer fun b => b.onNonTFBindingChanged incr

def onTFBindingChanged (bound indexed : Bool) : Context caps :=
  let c := c.modifyBuffer buffer fun b => b.onTFBindingChanged bound indexed
  if indexed then c.onStateChange buffer .BindingChanged else c

def bufferId : BufferID := buffer.elim 0 fun p => (c.buffers p).id

end

/-! ## Generic and indexed binding points -/

def setBoundBuffer (target : BufferBinding) (buffer : Option BufferPtr) : Context caps :=
  { c with mBoundBuffers := update c.mBoundBuffers target buffer }

def setIndexedBuffer (point : IndexedPoint caps) (buffer : Option BufferPtr) : Context caps :=
  { c with mIndexedBuffers := update c.mIndexedBuffers point buffer }

def updateBufferBinding (target : BufferBinding) (buffer : Option BufferPtr) : Context caps :=
  if target = .TransformFeedback then
    ((c.onTFBindingChanged (c.mBoundBuffers target) false false).setBoundBuffer target
      buffer).onTFBindingChanged buffer true false
  else
    ((c.onNonTFBindingChanged (c.mBoundBuffers target) (-1)).setBoundBuffer target
      buffer).onNonTFBindingChanged buffer 1

def updateIndexedBufferBinding (point : IndexedPoint caps) (buffer : Option BufferPtr) :
    Context caps :=
  ((c.onNonTFBindingChanged (c.mIndexedBuffers point) (-1)).setIndexedBuffer point
    buffer).onNonTFBindingChanged buffer 1

/-! ## Buffers of vertex arrays -/

def addObserver (buffer : Option BufferPtr) (observer : Observer) : Context caps :=
  c.modifyBuffer buffer fun b => b.addObserver observer

def removeObserver (buffer : Option BufferPtr) (observer : Observer) : Context caps :=
  c.modifyBuffer buffer fun b => b.removeObserver observer

def vertexBuffer (v : VertexArrayID) (b : AttribIndex) : Option BufferPtr :=
  ((c.vertexArrays v).mVertexBindings b).mBuffer

def elementArrayBuffer (v : VertexArrayID) : Option BufferPtr :=
  (c.vertexArrays v).mElementArrayBuffer

/-- `State::setGenericBufferBinding<ElementArray>`. -/
def setElementArrayBuffer (buffer : Option BufferPtr) : Context caps :=
  let v := c.mVertexArray
  let oldBuffer := c.elementArrayBuffer v
  let c := (c.removeObserver oldBuffer (v, .elementArrayBuffer)).onNonTFBindingChanged oldBuffer (-1)
  let c := c.modifyVertexArray v fun vao => { vao with mElementArrayBuffer := buffer }
  let c := (c.addObserver buffer (v, .elementArrayBuffer)).onNonTFBindingChanged buffer 1
  c.modifyVertexArray v fun vao => { vao with mIndexRangeCache := vao.mIndexRangeCache.invalidate }

def setBufferBinding (target : BufferBinding) (buffer : Option BufferPtr) : Context caps :=
  if target = .ElementArray then c.setElementArrayBuffer buffer
  else c.updateBufferBinding target buffer

/-- `bindVertexBufferImpl` where something is different. -/
def rebindVertexBuffer (b : AttribIndex) (boundBuffer : Option BufferPtr) (offset : Int)
    (stride : Nat) : Context caps :=
  let v := c.mVertexArray
  let binding := (c.vertexArrays v).mVertexBindings b
  let released := (c.onNonTFBindingChanged binding.mBuffer (-1)).removeObserver binding.mBuffer
    (v, .vertexBuffer b)
  let assigned := released.modifyVertexArray v fun vao =>
    (vao.setBinding b { binding with
      mBuffer := boundBuffer, mOffset := offset, mStride := stride }).updateCachedBufferBindingSize
        released.buffers b
  let observed := (assigned.onNonTFBindingChanged boundBuffer 1).addObserver boundBuffer
    (v, .vertexBuffer b)
  observed.modifyVertexArray v fun vao =>
    ((vao.updateCachedTransformFeedbackBindingValidation observed.buffers b).setClientMemory
      boundBuffer.isNone binding.mBoundAttributesMask).updateCachedMappedArrayBuffers
        (isMapped observed.buffers boundBuffer) binding.mBoundAttributesMask

def bindVertexBufferImpl (b : AttribIndex) (boundBuffer : Option BufferPtr) (offset : Int)
    (stride : Nat) : Context caps :=
  let binding := (c.vertexArrays c.mVertexArray).mVertexBindings b
  if binding.mBuffer = boundBuffer ∧ stride = binding.mStride ∧ offset = binding.mOffset then c
  else c.rebindVertexBuffer b boundBuffer offset stride

/-- `VertexArray::setVertexAttribPointerImpl` with the buffer that is bound for arrays. -/
def vertexAttribPointer (attribIndex : AttribIndex) (format : FormatID) (stride : Nat)
    (pointer : Int) : Context caps :=
  let v := c.mVertexArray
  let boundBuffer := c.mBoundBuffers .Array
  let c := c.modifyVertexArray v fun vao =>
    (vao.setVertexAttribFormatImpl attribIndex format 0).setVertexAttribBinding c.buffers attribIndex
      attribIndex
  let effectiveStride := if stride ≠ 0 then stride else format.pixelBytes
  let offset := if boundBuffer.isSome then pointer else 0
  c.bindVertexBufferImpl attribIndex boundBuffer offset effectiveStride

/-! ## Calls on the current vertex array -/

def setVertexAttribFormat (i : AttribIndex) (format : FormatID) (relativeOffset : Nat) :
    Context caps :=
  c.modifyVertexArray c.mVertexArray fun vao =>
    vao.setVertexAttribFormat c.buffers i format relativeOffset

def setVertexAttribBinding (i b : AttribIndex) : Context caps :=
  c.modifyVertexArray c.mVertexArray fun vao => vao.setVertexAttribBinding c.buffers i b

def setVertexBindingDivisor (b : AttribIndex) (divisor : Nat) : Context caps :=
  c.modifyVertexArray c.mVertexArray fun vao => vao.setVertexBindingDivisor c.buffers b divisor

def setVertexAttribDivisor (i : AttribIndex) (divisor : Nat) : Context caps :=
  c.modifyVertexArray c.mVertexArray fun vao => vao.setVertexAttribDivisor c.buffers i divisor

def setEnableVertexAttribArray (i : AttribIndex) (enabled : Bool) : Context caps :=
  c.modifyVertexArray c.mVertexArray fun vao => vao.enableAttribute i enabled

/-! ## Container objects -/

/-- `VertexArray::onBindingChanged`. -/
def onVertexArrayBindingChanged (v : VertexArrayID) (incr : Int) : Context caps :=
  (List.finRange maxVertexAttribs).foldl
    (fun c b => c.onNonTFBindingChanged (c.vertexBuffer v b) incr)
    (c.onNonTFBindingChanged (c.elementArrayBuffer v) incr)

def setVertexArrayBinding (v : VertexArrayID) : Context caps :=
  if v = c.mVertexArray then c
  else
    { c.onVertexArrayBindingChanged c.mVertexArray (-1) with
      mVertexArray := v }.onVertexArrayBindingChanged v 1

def transformFeedbackBuffer (t : TransformFeedbackID)
    (index : Fin caps.maxTransformFeedbackSeparateAttributes) : Option BufferPtr :=
  (c.transformFeedbacks t).mIndexedBuffers index

/-- `TransformFeedback::onBindingChanged`. -/
def onTransformFeedbackBindingChanged (t : TransformFeedbackID) (bound : Bool) : Context caps :=
  (List.finRange caps.maxTransformFeedbackSeparateAttributes).foldl
    (fun c index => c.onTFBindingChanged (c.transformFeedbackBuffer t index) bound true) c

def setTransformFeedbackBinding (t : TransformFeedbackID) : Context caps :=
  if t = c.mTransformFeedback then c
  else
    { c.onTransformFeedbackBindingChanged c.mTransformFeedback false with
      mTransformFeedback := t }.onTransformFeedbackBindingChanged t true

section

variable (index : Fin caps.maxTransformFeedbackSeparateAttributes)

def setTransformFeedbackBuffer
    (buffer : Option BufferPtr) : Context caps :=
  let t := c.mTransformFeedback
  { c with
    transformFeedbacks := update c.transformFeedbacks t
      ⟨update (c.transformFeedbacks t).mIndexedBuffers index buffer⟩ }

/-- `TransformFeedback::bindIndexedBuffer` of the current transform feedback. -/
def bindIndexedBuffer
    (buffer : Option BufferPtr) : Context caps :=
  ((c.onTFBindingChanged (c.transformFeedbackBuffer c.mTransformFeedback index) false
    true).setTransformFeedbackBuffer index buffer).onTFBindingChanged buffer true true

/-- `State::setIndexedBufferBinding` for transform feedback. -/
def bindTransformFeedbackBuffer
    (buffer : Option BufferPtr) : Context caps :=
  ((c.setBufferBinding .TransformFeedback buffer).bindIndexedBuffer index buffer).setBufferBinding
    .TransformFeedback buffer

end

/-- `State::setIndexedBufferBinding` for the other targets. -/
def bindIndexed (point : IndexedPoint caps) (buffer : Option BufferPtr) : Context caps :=
  (c.setBufferBinding point.1.generic buffer).updateIndexedBufferBinding point buffer

/-! ## Deletion -/

def unbindVertexBuffer (v : VertexArrayID) (b : AttribIndex) : Context caps :=
  (c.removeObserver (c.vertexBuffer v b) (v, .vertexBuffer b)).modifyVertexArray v fun vao =>
    vao.setBinding b { vao.mVertexBindings b with mBuffer := none }

def unbindElementArrayBuffer (v : VertexArrayID) : Context caps :=
  (c.removeObserver (c.elementArrayBuffer v) (v, .elementArrayBuffer)).modifyVertexArray v
    fun vao => { vao with mElementArrayBuffer := none }

section

variable (bufferID : BufferID)

/-- One round of the loop of `VertexArray::detachBuffer`, for the current vertex array. -/
def detachVertexBuffer (b : AttribIndex) : Context caps :=
  let v := c.mVertexArray
  if c.bufferId (c.vertexBuffer v b) = bufferID then
    ((c.onNonTFBindingChanged (c.vertexBuffer v b) (-1)).unbindVertexBuffer v b).modifyVertexArray v
      fun vao => vao.setClientMemory true (vao.mVertexBindings b).mBoundAttributesMask
  else c

def detachElementArrayBuffer : Context caps :=
  let v := c.mVertexArray
  if (c.elementArrayBuffer v).isSome ∧ c.bufferId (c.elementArrayBuffer v) = bufferID then
    (c.onNonTFBindingChanged (c.elementArrayBuffer v) (-1)).unbindElementArrayBuffer v
  else c

/-- One round of the loop of `TransformFeedback::detachBuffer`, for the current transform
feedback. -/
def detachTransformFeedbackBuffer
    (index : Fin caps.maxTransformFeedbackSeparateAttributes) : Context caps :=
  let buffer := c.transformFeedbackBuffer c.mTransformFeedback index
  if c.bufferId buffer = bufferID then
    (c.onTFBindingChanged buffer false true).setTransformFeedbackBuffer index none
  else c

def detachBoundBuffer (target : BufferBinding) : Context caps :=
  if c.bufferId (c.mBoundBuffers target) = bufferID then c.updateBufferBinding target none else c

def detachIndexedBuffer (point : IndexedPoint caps) : Context caps :=
  if c.bufferId (c.mIndexedBuffers point) = bufferID then c.updateIndexedBufferBinding point none
  else c

end

def detachBuffer (p : BufferPtr) : Context caps :=
  if (c.buffers p).isBound then
    let bufferID := (c.buffers p).id
    let c := BufferBinding.all.foldl (fun c target => c.detachBoundBuffer bufferID target) c
    let c := (List.finRange caps.maxTransformFeedbackSeparateAttributes).foldl
      (fun c index => c.detachTransformFeedbackBuffer bufferID index) c
    let c := (List.finRange maxVertexAttribs).foldl
      (fun c b => c.detachVertexBuffer bufferID b) c
    let c := c.detachElementArrayBuffer bufferID
    (IndexedTarget.all.flatMap (indexedPoints caps)).foldl
      (fun c point => c.detachIndexedBuffer bufferID point) c
  else c

/-- `VertexArray::onDestroy`; the next vertex array of the name is a new one. -/
def destroyVertexArray (v : VertexArrayID) (cache : RangeCache) : Context caps :=
  let c := (List.finRange maxVertexAttribs).foldl (fun c b => c.unbindVertexBuffer v b) c
  (c.unbindElementArrayBuffer v).modifyVertexArray v fun _ =>
    .new c.mBufferAccessValidationEnabled cache

def deleteVertexArray (v : VertexArrayID) (cache : RangeCache) : Context caps :=
  (if v = c.mVertexArray then c.setVertexArrayBinding 0 else c).destroyVertexArray v cache

def deleteTransformFeedback (t : TransformFeedbackID) : Context caps :=
  let c := if t = c.mTransformFeedback then c.setTransformFeedbackBinding 0 else c
  { c with transformFeedbacks := update c.transformFeedbacks t (.new caps) }

/-! ## Contents -/

def setContents (buffer : Option BufferPtr) (contents : Memory) : Context caps :=
  c.modifyBuffer buffer fun b => { b with contents := contents }

def bufferData (p : BufferPtr) (contents : Memory) (size : Int) : Context caps :=
  ((c.setContents (some p) contents).modifyBuffer (some p) fun b =>
    { b with mSize := size }).onStateChange (some p) .SubjectChanged

/-- `bufferSubData` and `copyBufferSubData`, with what the buffer holds after the call. -/
def bufferSubData (p : BufferPtr) (contents : Memory) : Context caps :=
  (c.setContents (some p) contents).onStateChange (some p) .ContentsChanged

def map (p : BufferPtr) : Context caps :=
  (c.modifyBuffer (some p) fun b => { b with mMapped := true }).onStateChange (some p) .SubjectMapped

def unmap (p : BufferPtr) : Context caps :=
  (c.modifyBuffer (some p) fun b => { b with mMapped := false }).onStateChange (some p)
    .SubjectUnmapped

/-- `Framebuffer::readPixels` into the buffer that is bound for packing: the buffer that is bound
for unpacking is told. -/
def readPixels (contents : Memory) : Context caps :=
  (c.setContents (c.mBoundBuffers .PixelPack) contents).onStateChange (c.mBoundBuffers .PixelUnpack)
    .ContentsChanged

end Context

inductive DrawCall
  | drawArrays | drawArraysInstanced | drawArraysIndirect | drawArraysInstancedBaseInstance
  | drawElements | drawElementsInstanced | drawElementsIndirect | drawRangeElements
  | drawElementsInstancedBaseVertexBaseInstance
  | multiDrawArrays | multiDrawArraysInstanced | multiDrawArraysInstancedBaseInstance
  | multiDrawElements | multiDrawElementsInstanced
  | multiDrawElementsInstancedBaseVertexBaseInstance
  | dispatchCompute | dispatchComputeIndirect

/-- The calls with `MarkTransformFeedbackBufferUsage`. -/
def DrawCall.marksTransformFeedback : DrawCall → Bool
  | .drawArrays => true
  | .drawArraysInstanced => true
  | .drawArraysInstancedBaseInstance => true
  | .multiDrawArrays => true
  | .multiDrawArraysInstanced => true
  | .multiDrawArraysInstancedBaseInstance => true
  | _ => false

/-- The calls with `MarkShaderStorageBufferUsage`. -/
def DrawCall.marksShaderStorage : DrawCall → Bool
  | .drawArraysInstanced => true
  | .drawArraysIndirect => true
  | .drawElementsInstanced => true
  | .drawElementsIndirect => true
  | .drawRangeElements => true
  | .multiDrawArrays => true
  | .multiDrawArraysInstanced => true
  | .multiDrawElements => true
  | .multiDrawElementsInstanced => true
  | .dispatchCompute => true
  | .dispatchComputeIndirect => true
  | _ => false

/-- What a draw does to buffers: the storage buffers that its shaders use, whether transform feedback
captures it, and what the buffers that it may write hold after it. -/
structure Draw (caps : Caps) where
  call : DrawCall
  activeStorage : List (Fin (caps.maxBindings .ShaderStorage))
  capturing : Bool
  after : BufferPtr → Memory

namespace Context

variable (c : Context caps)

/-- A draw may write to storage buffers, atomic counters and captured vertices. -/
def DrawWrites (draw : Draw caps) (p : BufferPtr) : Prop :=
  (∃ index ∈ draw.activeStorage, c.mIndexedBuffers ⟨.ShaderStorage, index⟩ = some p) ∨
    (∃ index, c.mIndexedBuffers ⟨.AtomicCounter, index⟩ = some p) ∨
      draw.capturing ∧
        ∃ index, c.transformFeedbackBuffer c.mTransformFeedback index = some p

instance (draw : Draw caps) (p : BufferPtr) : Decidable (c.DrawWrites draw p) :=
  inferInstanceAs (Decidable (_ ∨ _ ∨ _ ∧ _))

def drawMarks (draw : Draw caps) : List (Option BufferPtr) :=
  (if draw.capturing ∧ draw.call.marksTransformFeedback then
    (List.finRange caps.maxTransformFeedbackSeparateAttributes).map
      (c.transformFeedbackBuffer c.mTransformFeedback)
  else []) ++
    if draw.call.marksShaderStorage then
      draw.activeStorage.map fun index => c.mIndexedBuffers ⟨.ShaderStorage, index⟩
    else []

def drawContents (draw : Draw caps) : Context caps :=
  { c with
    buffers := fun p =>
      if c.DrawWrites draw p then { c.buffers p with contents := draw.after p } else c.buffers p }

def draw (draw : Draw caps) : Context caps :=
  (c.drawMarks draw).foldl (fun c buffer => c.onStateChange buffer .ContentsChanged)
    (c.drawContents draw)

/-! ## Index ranges -/

def setPrimitiveRestart (enabled : Bool) : Context caps := { c with mPrimitiveRestart := enabled }

/-- `VertexArray::getIndexRange` of the current vertex array, where the range of a buffer is the one
of its contents. -/
def getIndexRange (clientMemory : Memory) (type : DrawElementsType) (indexCount indices : Nat) :
    IndexRange × Context caps :=
  let v := c.mVertexArray
  let key : IndexRangeKey := ⟨type, indices, indexCount, c.mPrimitiveRestart⟩
  match c.elementArrayBuffer v with
  | none => (computeIndexRange clientMemory key, c)
  | some p =>
    match (c.vertexArrays v).mIndexRangeCache.get type indexCount indices with
    | some range => (range, c)
    | none =>
        let range := computeIndexRange (c.buffers p).contents key
        (range, c.modifyVertexArray v fun vao =>
          { vao with mIndexRangeCache := .put type indexCount indices range })

/-! ## Runs -/

inductive Action (caps : Caps)
  | bindBuffer (target : BufferBinding) (buffer : Option BufferPtr)
  | bindIndexed (point : IndexedPoint caps) (buffer : Option BufferPtr)
  | bindTransformFeedbackBuffer (index : Fin caps.maxTransformFeedbackSeparateAttributes)
      (buffer : Option BufferPtr)
  | bindVertexBuffer (b : AttribIndex) (buffer : Option BufferPtr) (offset : Int) (stride : Nat)
  | vertexAttribPointer (i : AttribIndex) (format : FormatID) (stride : Nat) (pointer : Int)
  | vertexAttribFormat (i : AttribIndex) (format : FormatID) (relativeOffset : Nat)
  | vertexAttribBinding (i b : AttribIndex)
  | vertexBindingDivisor (b : AttribIndex) (divisor : Nat)
  | vertexAttribDivisor (i : AttribIndex) (divisor : Nat)
  | enableVertexAttribArray (i : AttribIndex) (enabled : Bool)
  | bindVertexArray (v : VertexArrayID)
  | deleteVertexArray (v : VertexArrayID) (cache : RangeCache)
  | bindTransformFeedback (t : TransformFeedbackID)
  | deleteTransformFeedback (t : TransformFeedbackID)
  | deleteBuffer (p : BufferPtr)
  | bufferData (p : BufferPtr) (contents : Memory) (size : Int)
  | bufferSubData (p : BufferPtr) (contents : Memory)
  | map (p : BufferPtr)
  | writeMapped (p : BufferPtr) (contents : Memory)
  | unmap (p : BufferPtr)
  | readPixels (contents : Memory)
  | draw (draw : Draw caps)
  | setPrimitiveRestart (enabled : Bool)
  | getIndexRange (clientMemory : Memory) (type : DrawElementsType) (indexCount indices : Nat)

/-- What validation asks for: default objects are not deleted, a buffer is mapped once, and no draw
takes indices from a mapped buffer. -/
def validates : Action caps → Bool
  | .deleteVertexArray v _ => v ≠ 0
  | .deleteTransformFeedback t => t ≠ 0
  | .map p => !(c.buffers p).mMapped
  | .writeMapped p _ => (c.buffers p).mMapped
  | .unmap p => (c.buffers p).mMapped
  | .getIndexRange _ _ _ _ => !isMapped c.buffers (c.elementArrayBuffer c.mVertexArray)
  | _ => true

def apply : Action caps → Context caps
  | .bindBuffer target buffer => c.setBufferBinding target buffer
  | .bindIndexed point buffer => c.bindIndexed point buffer
  | .bindTransformFeedbackBuffer index buffer => c.bindTransformFeedbackBuffer index buffer
  | .bindVertexBuffer b buffer offset stride => c.bindVertexBufferImpl b buffer offset stride
  | .vertexAttribPointer i format stride pointer => c.vertexAttribPointer i format stride pointer
  | .vertexAttribFormat i format relativeOffset => c.setVertexAttribFormat i format relativeOffset
  | .vertexAttribBinding i b => c.setVertexAttribBinding i b
  | .vertexBindingDivisor b divisor => c.setVertexBindingDivisor b divisor
  | .vertexAttribDivisor i divisor => c.setVertexAttribDivisor i divisor
  | .enableVertexAttribArray i enabled => c.setEnableVertexAttribArray i enabled
  | .bindVertexArray v => c.setVertexArrayBinding v
  | .deleteVertexArray v cache => c.deleteVertexArray v cache
  | .bindTransformFeedback t => c.setTransformFeedbackBinding t
  | .deleteTransformFeedback t => c.deleteTransformFeedback t
  | .deleteBuffer p => c.detachBuffer p
  | .bufferData p contents size => c.bufferData p contents size
  | .bufferSubData p contents => c.bufferSubData p contents
  | .map p => c.map p
  | .writeMapped p contents => c.setContents (some p) contents
  | .unmap p => c.unmap p
  | .readPixels contents => c.readPixels contents
  | .draw draw => c.draw draw
  | .setPrimitiveRestart enabled => c.setPrimitiveRestart enabled
  | .getIndexRange clientMemory type indexCount indices =>
      (c.getIndexRange clientMemory type indexCount indices).2

def step (c : Context caps) (action : Action caps) : Option (Context caps) :=
  if c.validates action then some (c.apply action) else none

end Context

end MetalAngle.Gl.Bindings
