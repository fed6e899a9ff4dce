import MetalAngle.Gl.IndexRangeCache
import MetalAngle.Gl.VertexAttribute

/-!
# Validation of draws

A draw is refused when its last vertex or its last instance is beyond the element limit of an active
attribute that reads a buffer.  The last vertex of an indexed draw is the largest of its indices.
-/

namespace MetalAngle.Gl

open MetalAngle.Metal (DrawElementsType)

structure BufferedAttrib where
  bufferSize : Nat
  bufferOffset : Int
  relativeOffset : Nat
  size : Nat
  stride : Nat
  divisor : Nat
deriving DecidableEq

namespace BufferedAttrib

variable (a : BufferedAttrib)

def cachedElementLimit : Int :=
  elementLimit a.bufferSize a.bufferOffset a.relativeOffset a.size a.stride a.divisor

def address (element : Nat) : Int :=
  a.bufferOffset + a.relativeOffset + a.stride * element

def element (vertex instanceIndex : Nat) : Nat :=
  if 0 < a.divisor then instanceIndex / a.divisor else vertex

def Fits (element : Nat) : Prop := a.address element + a.size ≤ a.bufferSize

instance (element : Nat) : Decidable (a.Fits element) := inferInstanceAs (Decidable (_ ≤ _))

/-- The bytes of an element are bytes of the buffer. -/
def Inside (element : Nat) : Prop := 0 ≤ a.address element ∧ a.Fits element

instance (element : Nat) : Decidable (a.Inside element) := inferInstanceAs (Decidable (_ ∧ _))

end BufferedAttrib

inductive DrawError
  | NegativeStart | NegativeCount | NegativePrimcount | NegativeOffset | OffsetMustBeMultipleOfType
  | ElementArrayNoBufferOrPointer | DrawStates | DrawElementsStates
  | TransformFeedbackBufferTooSmall | IntegerOverflow | InsufficientVertexBufferSize
  | InsufficientBufferSize | ExceedsMaxElement
deriving DecidableEq

def DrawError.aboutFetches : DrawError → Bool
  | IntegerOverflow => true
  | InsufficientVertexBufferSize => true
  | InsufficientBufferSize => true
  | ExceedsMaxElement => true
  | _ => false

def intMax : Int := 2 ^ 31 - 1

structure ElementArrayBuffer where
  contents : Memory
  size : Nat

/-- What the validation of a draw reads.  The draw states, and the space for transform feedback, are
checked elsewhere. -/
structure DrawState where
  bufferAccessValidationEnabled : Bool
  webglCompatibility : Bool
  validDrawStates : Bool
  validDrawElementsStates : Bool
  transformFeedbackSpace : Int → Int → Bool
  maxElementIndex : Nat
  primitiveRestart : Bool
  elementArrayBuffer : Option ElementArrayBuffer
  clientMemory : Memory
  activeBufferedAttribs : List BufferedAttrib

abbrev GLint := { x : Int // -2 ^ 31 ≤ x ∧ x < 2 ^ 31 }

inductive VertexSource
  | arrays (first : GLint)
  | elements (type : DrawElementsType) (indices : Fin (2 ^ 64))

structure DrawCall where
  source : VertexSource
  count : GLint
  primcount : Option GLint

namespace DrawState

variable (s : DrawState)

def nonInstancedVertexElementLimit : Int :=
  s.activeBufferedAttribs.foldl (fun limit a =>
    if 0 < a.divisor then limit else min limit a.cachedElementLimit) int64Max

def instancedVertexElementLimit : Int :=
  s.activeBufferedAttribs.foldl (fun limit a =>
    if 0 < a.divisor then min limit a.cachedElementLimit else limit) int64Max

/-- `RecordDrawAttribsError`. -/
def drawAttribsError : DrawError :=
  if s.nonInstancedVertexElementLimit = kIntegerOverflow ∨
      s.instancedVertexElementLimit = kIntegerOverflow then .IntegerOverflow
  else .InsufficientVertexBufferSize

def validateDrawAttribs (maxVertex : Int) : Except DrawError Bool :=
  if maxVertex > s.nonInstancedVertexElementLimit then .error s.drawAttribsError else .ok true

def validateDrawArraysAttribs (first count : Int) : Except DrawError Bool :=
  if !s.bufferAccessValidationEnabled then .ok true
  else if first + count - 1 > intMax then .error .IntegerOverflow
  else s.validateDrawAttribs (first + count - 1)

def validateDrawInstancedAttribs (primcount : Int) : Except DrawError Bool :=
  if !s.bufferAccessValidationEnabled then .ok true
  else if primcount - 1 > s.instancedVertexElementLimit then .error s.drawAttribsError
  else .ok true

def validateDrawArraysCommon (first count primcount : Int) : Except DrawError Bool :=
  if first < 0 then .error .NegativeStart
  else if count < 0 then .error .NegativeCount
  else if !s.validDrawStates then .error .DrawStates
  else if count = 0 then .ok true
  else if !s.transformFeedbackSpace count primcount then .error .TransformFeedbackBufferTooSmall
  else s.validateDrawArraysAttribs first count

def indexRangeKey (count : Int) (type : DrawElementsType) (indices : Nat) : IndexRangeKey :=
  ⟨type, indices, count.toNat, s.primitiveRestart⟩

def getIndexRange (count : Int) (type : DrawElementsType) (indices : Nat) : IndexRange :=
  computeIndexRange ((s.elementArrayBuffer.map ElementArrayBuffer.contents).getD s.clientMemory)
    (s.indexRangeKey count type indices)

/-- The last part of `ValidateDrawElementsCommon`.  The range ends in a `size_t`, of which the cast
to `GLint` keeps 32 bits. -/
def validateIndexRange (count : Int) (type : DrawElementsType) (indices : Nat) (primcount : Int) :
    Except DrawError Bool :=
  if s.bufferAccessValidationEnabled ∧ primcount > 0 then
    let indexRange := s.getIndexRange count type indices
    if indexRange.last ≥ s.maxElementIndex then .error .ExceedsMaxElement
    else do
      let _ ← s.validateDrawAttribs (Int.bmod indexRange.last (2 ^ 32))
      -- A no-op if all indices are primitive restart.
      .ok (0 < indexRange.vertexIndexCount)
  else .ok true

def validateDrawElementsCommon (count : Int) (type : DrawElementsType) (indices : Nat)
    (primcount : Int) : Except DrawError Bool :=
  if !s.validDrawElementsStates then .error .DrawElementsStates
  else if s.webglCompatibility ∧ indices % type.size ≠ 0 then .error .OffsetMustBeMultipleOfType
  else if s.webglCompatibility ∧ 2 ^ 63 ≤ indices then .error .NegativeOffset
  else if count < 0 then .error .NegativeCount
  else if !s.validDrawStates then .error .DrawStates
  else if count = 0 then .ok true
  else
    match s.elementArrayBuffer with
    | none =>
        if indices = 0 then .error .ElementArrayNoBufferOrPointer
        else s.validateIndexRange count type indices primcount
    | some buffer =>
        let elementDataSizeNoOffset := type.size * count.toNat
        let elementDataSizeWithOffset := (elementDataSizeNoOffset + indices) % 2 ^ 64
        if elementDataSizeWithOffset < elementDataSizeNoOffset then .error .IntegerOverflow
        else if elementDataSizeWithOffset > buffer.size then .error .InsufficientBufferSize
        else s.validateIndexRange count type indices primcount

/-- `ValidateDrawArraysCommon` or `ValidateDrawElementsCommon`. -/
def validateDrawCommon (source : VertexSource) (count primcount : Int) : Except DrawError Bool :=
  match source with
  | .arrays first => s.validateDrawArraysCommon first count primcount
  | .elements type indices => s.validateDrawElementsCommon count type indices primcount

/-- `ValidateDrawArraysInstancedBase` or `ValidateDrawElementsInstancedBase`. -/
def validateDrawInstancedBase (source : VertexSource) (count primcount : Int) :
    Except DrawError Bool :=
  if primcount < 0 then .error .NegativePrimcount
  else if primcount = 0 then s.validateDrawCommon source count primcount
  else do
    if ← s.validateDrawCommon source count primcount then
      if count = 0 then .ok true else s.validateDrawInstancedAttribs primcount
    else .ok false

def validateDraw (call : DrawCall) : Except DrawError Bool :=
  match call.primcount with
  | none => s.validateDrawCommon call.source call.count 1
  | some primcount => s.validateDrawInstancedBase call.source call.count primcount

end DrawState

end MetalAngle.Gl
