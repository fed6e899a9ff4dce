import MetalAngle.Gl.IndexRangeCache
import MetalAngle.Gl.VertexAttribute
import MetalAngle.Lib.Observers

/-!
# Vertex arrays and the buffers that they observe

A vertex array caches what it needs of its buffers: the element limit of each attribute, which
attributes have a mapped buffer, which bindings conflict with transform feedback, and an index range.
It is told of changes to a buffer through the buffer's list of observers.
-/

namespace MetalAngle.Gl.Bindings

open Observers
open MetalAngle.Metal (DrawElementsType)
open Function (update)

abbrev BufferID := Nat

abbrev BufferPtr := Nat

abbrev VertexArrayID := Nat

def maxVertexAttribs : Nat := 16

abbrev AttribIndex := Fin maxVertexAttribs

abbrev AttributesMask := AttribIndex → Bool

inductive SubjectIndex
  | vertexBuffer (bindingIndex : AttribIndex)
  | elementArrayBuffer
deriving DecidableEq

inductive SubjectMessage
  | BindingChanged | ContentsChanged | SubjectChanged | SubjectMapped | SubjectUnmapped
deriving DecidableEq

abbrev Observer := VertexArrayID × SubjectIndex

structure Buffer where
  id : BufferID
  contents : Memory
  mSize : Int
  mMapped : Bool
  mBindingCount : Int
  mTransformFeedbackIndexedBindingCount : Int
  mTransformFeedbackGenericBindingCount : Int
  mObservers : List Observer

abbrev Buffers := BufferPtr → Buffer

namespace Buffer

def new (id : BufferID) : Buffer :=
  { id := id, contents := fun _ => 0, mSize := 0, mMapped := false, mBindingCount := 0,
    mTransformFeedbackIndexedBindingCount := 0, mTransformFeedbackGenericBindingCount := 0,
    mObservers := [] }

def isBound (b : Buffer) : Bool := 0 < b.mBindingCount

def isBoundForTransformFeedbackAndOtherUse (b : Buffer) : Bool :=
  0 < b.mTransformFeedbackIndexedBindingCount ∧
    b.mTransformFeedbackIndexedBindingCount ≠
      b.mBindingCount - b.mTransformFeedbackGenericBindingCount

def onNonTFBindingChanged (b : Buffer) (incr : Int) : Buffer :=
  { b with mBindingCount := b.mBindingCount + incr }

def onTFBindingChanged (b : Buffer) (bound indexed : Bool) : Buffer :=
  let incr := if bound then 1 else -1
  let b := { b with mBindingCount := b.mBindingCount + incr }
  if indexed then
    { b with
      mTransformFeedbackIndexedBindingCount := b.mTransformFeedbackIndexedBindingCount + incr }
  else
    { b with
      mTransformFeedbackGenericBindingCount := b.mTransformFeedbackGenericBindingCount + incr }

def addObserver (b : Buffer) (observer : Observer) : Buffer :=
  { b with mObservers := b.mObservers ++ [observer] }

def removeObserver (b : Buffer) (observer : Observer) : Buffer :=
  { b with mObservers := removeAndPermute b.mObservers observer }

end Buffer

structure VertexBinding where
  mStride : Nat
  mDivisor : Nat
  mOffset : Int
  mBuffer : Option BufferPtr
  mBoundAttributesMask : AttributesMask

structure VertexAttribute where
  enabled : Bool
  format : FormatID
  relativeOffset : Nat
  bindingIndex : AttribIndex
  mCachedElementLimit : Int

def isMapped (buffers : Buffers) (buffer : Option BufferPtr) : Bool :=
  buffer.elim false fun p => (buffers p).mMapped

/-- The limit that `updateCachedElementLimit` computes. -/
def computeElementLimit (buffers : Buffers) (attrib : VertexAttribute) (binding : VertexBinding) :
    Int :=
  match binding.mBuffer with
  | none => 0
  | some p =>
      elementLimit (buffers p).mSize binding.mOffset attrib.relativeOffset attrib.format.pixelBytes
        binding.mStride binding.mDivisor

def VertexAttribute.updateCachedElementLimit (attrib : VertexAttribute) (buffers : Buffers)
    (binding : VertexBinding) : VertexAttribute :=
  { attrib with mCachedElementLimit := computeElementLimit buffers attrib binding }

/-- `VertexArray::IndexRangeCache`: there is no type where it is invalid. -/
structure RangeCache where
  mTypeKey : Option DrawElementsType
  mIndexCountKey : Nat
  mOffsetKey : Nat
  mPayload : IndexRange

namespace RangeCache

def invalidate (cache : RangeCache) : RangeCache := { cache with mTypeKey := none }

def get (cache : RangeCache) (type : DrawElementsType) (indexCount offset : Nat) :
    Option IndexRange :=
  if cache.mTypeKey = some type ∧ cache.mIndexCountKey = indexCount ∧ cache.mOffsetKey = offset then
    some cache.mPayload
  else none

def put (type : DrawElementsType) (indexCount offset : Nat) (indexRange : IndexRange) :
    RangeCache :=
  ⟨some type, indexCount, offset, indexRange⟩

end RangeCache

structure VertexArray where
  mVertexAttributes : AttribIndex → VertexAttribute
  mElementArrayBuffer : Option BufferPtr
  mVertexBindings : AttribIndex → VertexBinding
  mEnabledAttributesMask : AttributesMask
  mClientMemoryAttribsMask : AttributesMask
  mCachedMappedArrayBuffers : AttributesMask
  mCachedEnabledMappedArrayBuffers : AttributesMask
  mCachedTransformFeedbackConflictedBindingsMask : AttribIndex → Bool
  mIndexRangeCache : RangeCache
  mBufferAccessValidationEnabled : Bool

namespace VertexArray

def new (bufferAccessValidationEnabled : Bool) (cache : RangeCache) : VertexArray :=
  { mVertexAttributes := fun i =>
      { enabled := false, format := getVertexFormatID .Float false 4 false, relativeOffset := 0,
        bindingIndex := i, mCachedElementLimit := 0 }
    mElementArrayBuffer := none
    mVertexBindings := fun i =>
      { mStride := 16, mDivisor := 0, mOffset := 0, mBuffer := none,
        mBoundAttributesMask := fun j => j = i }
    mEnabledAttributesMask := fun _ => false
    mClientMemoryAttribsMask := fun _ => true
    mCachedMappedArrayBuffers := fun _ => false
    mCachedEnabledMappedArrayBuffers := fun _ => false
    mCachedTransformFeedbackConflictedBindingsMask := fun _ => false
    mIndexRangeCache := cache
    mBufferAccessValidationEnabled := bufferAccessValidationEnabled }

variable (vao : VertexArray) (buffers : Buffers)

def setAttribute (i : AttribIndex) (attrib : VertexAttribute) : VertexArray :=
  { vao with mVertexAttributes := update vao.mVertexAttributes i attrib }

def setBinding (b : AttribIndex) (binding : VertexBinding) : VertexArray :=
  { vao with mVertexBindings := update vao.mVertexBindings b binding }

def updateCachedElementLimits (b : AttribIndex) : VertexArray :=
  let binding := vao.mVertexBindings b
  { vao with
    mVertexAttributes := fun i =>
      if binding.mBoundAttributesMask i then
        (vao.mVertexAttributes i).updateCachedElementLimit buffers binding
      else vao.mVertexAttributes i }

def updateCachedBufferBindingSize (b : AttribIndex) : VertexArray :=
  if vao.mBufferAccessValidationEnabled then vao.updateCachedElementLimits buffers b else vao

def updateCachedMappedArrayBuffers (mapped : Bool) (boundAttributesMask : AttributesMask) :
    VertexArray :=
  let mCachedMappedArrayBuffers : AttributesMask := fun i =>
    if mapped then vao.mCachedMappedArrayBuffers i || boundAttributesMask i
    else vao.mCachedMappedArrayBuffers i && !boundAttributesMask i
  { vao with
    mCachedMappedArrayBuffers := mCachedMappedArrayBuffers
    mCachedEnabledMappedArrayBuffers := fun i =>
      mCachedMappedArrayBuffers i && vao.mEnabledAttributesMask i }

def updateCachedMappedArrayBuffersBinding (b : AttribIndex) : VertexArray :=
  let binding := vao.mVertexBindings b
  vao.updateCachedMappedArrayBuffers (isMapped buffers binding.mBuffer) binding.mBoundAttributesMask

def updateCachedTransformFeedbackBindingValidation (b : AttribIndex) : VertexArray :=
  let hasConflict := (vao.mVertexBindings b).mBuffer.elim false fun p =>
    (buffers p).isBoundForTransformFeedbackAndOtherUse
  { vao with
    mCachedTransformFeedbackConflictedBindingsMask :=
      update vao.mCachedTransformFeedbackConflictedBindingsMask b hasConflict }

def setClientMemory (client : Bool) (boundAttributesMask : AttributesMask) : VertexArray :=
  { vao with
    mClientMemoryAttribsMask := fun i =>
      if client then vao.mClientMemoryAttribsMask i || boundAttributesMask i
      else vao.mClientMemoryAttribsMask i && !boundAttributesMask i }

def setAttribBinding (attribIndex newBindingIndex : AttribIndex) : VertexArray :=
  let attrib := vao.mVertexAttributes attribIndex
  let oldBinding := vao.mVertexBindings attrib.bindingIndex
  let newBinding := vao.mVertexBindings newBindingIndex
  let oldBinding := { oldBinding with
    mBoundAttributesMask := update oldBinding.mBoundAttributesMask attribIndex false }
  let newBinding := { newBinding with
    mBoundAttributesMask := update newBinding.mBoundAttributesMask attribIndex true }
  let attrib' := { attrib with bindingIndex := newBindingIndex }
  let attrib' :=
    if vao.mBufferAccessValidationEnabled then attrib'.updateCachedElementLimit buffers newBinding
    else attrib'
  let mapped := isMapped buffers newBinding.mBuffer
  { ((vao.setBinding attrib.bindingIndex oldBinding).setBinding newBindingIndex
      newBinding).setAttribute attribIndex attrib' with
    mCachedMappedArrayBuffers :=
      update vao.mCachedMappedArrayBuffers attribIndex mapped
    mCachedEnabledMappedArrayBuffers :=
      update vao.mCachedEnabledMappedArrayBuffers attribIndex (mapped && attrib.enabled) }

def setVertexAttribBinding (attribIndex bindingIndex : AttribIndex) : VertexArray :=
  if (vao.mVertexAttributes attribIndex).bindingIndex ≠ bindingIndex then
    let hasBuffer := (vao.mVertexBindings bindingIndex).mBuffer.isSome
    let vao := vao.setAttribBinding buffers attribIndex bindingIndex
    { vao with
      mClientMemoryAttribsMask :=
        update vao.mClientMemoryAttribsMask attribIndex !hasBuffer }
  else vao

def setVertexBindingDivisor (bindingIndex : AttribIndex) (divisor : Nat) : VertexArray :=
  (vao.setBinding bindingIndex
    { vao.mVertexBindings bindingIndex with mDivisor := divisor }).updateCachedElementLimits
      buffers bindingIndex

section

variable (attribIndex : AttribIndex)

def setVertexAttribDivisor (divisor : Nat) : VertexArray :=
  (vao.setVertexAttribBinding buffers attribIndex attribIndex).setVertexBindingDivisor buffers
    attribIndex divisor

def setVertexAttribFormatImpl (format : FormatID)
    (relativeOffset : Nat) : VertexArray :=
  let attrib := vao.mVertexAttributes attribIndex
  if format ≠ attrib.format ∨ attrib.relativeOffset ≠ relativeOffset then
    vao.setAttribute attribIndex { attrib with relativeOffset := relativeOffset, format := format }
  else vao

def setVertexAttribFormat (format : FormatID) (relativeOffset : Nat) :
    VertexArray :=
  let vao := vao.setVertexAttribFormatImpl attribIndex format relativeOffset
  let attrib := vao.mVertexAttributes attribIndex
  vao.setAttribute attribIndex
    (attrib.updateCachedElementLimit buffers (vao.mVertexBindings attrib.bindingIndex))

def enableAttribute (enabledState : Bool) : VertexArray :=
  if vao.mEnabledAttributesMask attribIndex = enabledState then vao
  else
    let mEnabledAttributesMask :=
      update vao.mEnabledAttributesMask attribIndex enabledState
    { vao.setAttribute attribIndex
        { vao.mVertexAttributes attribIndex with enabled := enabledState } with
      mEnabledAttributesMask := mEnabledAttributesMask
      mCachedEnabledMappedArrayBuffers := fun i =>
        vao.mCachedMappedArrayBuffers i && mEnabledAttributesMask i }

end

def setDependentDirtyBit (index : SubjectIndex) : VertexArray :=
  match index with
  | .elementArrayBuffer => { vao with mIndexRangeCache := vao.mIndexRangeCache.invalidate }
  | .vertexBuffer _ => vao

def onSubjectStateChange (index : SubjectIndex) (message : SubjectMessage) : VertexArray :=
  match message, index with
  | .ContentsChanged, index => vao.setDependentDirtyBit index
  | .SubjectChanged, .elementArrayBuffer => vao.setDependentDirtyBit .elementArrayBuffer
  | .SubjectChanged, .vertexBuffer b =>
      (vao.updateCachedBufferBindingSize buffers b).setDependentDirtyBit (.vertexBuffer b)
  | .BindingChanged, .elementArrayBuffer => vao
  | .BindingChanged, .vertexBuffer b => vao.updateCachedTransformFeedbackBindingValidation buffers b
  | .SubjectMapped, .elementArrayBuffer => vao
  | .SubjectMapped, .vertexBuffer b => vao.updateCachedMappedArrayBuffersBinding buffers b
  | .SubjectUnmapped, .elementArrayBuffer => vao.setDependentDirtyBit .elementArrayBuffer
  | .SubjectUnmapped, .vertexBuffer b =>
      (vao.setDependentDirtyBit (.vertexBuffer b)).updateCachedMappedArrayBuffersBinding buffers b

/-- Which attributes draws read from a buffer, where `activeAttribs` are those of the program. -/
def activeBufferedAttribsMask (activeAttribs : AttributesMask) : AttributesMask := fun i =>
  activeAttribs i && vao.mEnabledAttributesMask i && !vao.mClientMemoryAttribsMask i

def hasTransformFeedbackBindingConflict (activeAttribs : AttributesMask) : Bool :=
  ∃ i, vao.activeBufferedAttribsMask activeAttribs i ∧
    vao.mCachedTransformFeedbackConflictedBindingsMask (vao.mVertexAttributes i).bindingIndex

end VertexArray

end MetalAngle.Gl.Bindings
