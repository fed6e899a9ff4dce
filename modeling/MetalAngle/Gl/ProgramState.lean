import MetalAngle.Gl.ActiveSamplers
import MetalAngle.Gl.BinaryStream
import MetalAngle.Gl.UniformLocations

/-!
# The state of a program

A link leaves the interface of a program, the bindings of its samplers and images and what is
computed from them.  Of a shader variable and of a linked uniform only the members are kept that
draws and queries read after the link.
-/

namespace MetalAngle.Gl.LinkedProgram

open BinaryStream (Text PackedEnum)
open Linking

abbrev GLenum := UInt32

def nameOf (text : Text) : Name := text.map fun byte => Char.ofNat byte.toNat

def textOf (name : Name) : Text := name.map fun c => UInt8.ofNat c.toNat

inductive PrimitiveMode
  | Points | Lines | LineLoop | LineStrip | Triangles | TriangleStrip | TriangleFan
  | Unused1 | Unused2 | Unused3
  | LinesAdjacency | LineStripAdjacency | TrianglesAdjacency | TriangleStripAdjacency
  | InvalidEnum
deriving DecidableEq

def primitiveModes : List PrimitiveMode :=
  [.Points, .Lines, .LineLoop, .LineStrip, .Triangles, .TriangleStrip, .TriangleFan,
    .Unused1, .Unused2, .Unused3, .LinesAdjacency, .LineStripAdjacency, .TrianglesAdjacency,
    .TriangleStripAdjacency]

instance : PackedEnum PrimitiveMode where
  toUnderlying mode := UInt8.ofNat (primitiveModes.idxOf mode)
  ofUnderlying value := primitiveModes.getD value.toNat .InvalidEnum
  ofUnderlying_toUnderlying mode := by cases mode <;> rfl

def textureTypes : List ActiveSamplers.TextureType :=
  [._2D, ._2DArray, ._2DMultisample, ._2DMultisampleArray, ._3D, .External, .Rectangle, .CubeMap]

instance : PackedEnum ActiveSamplers.TextureType where
  toUnderlying type := UInt8.ofNat (textureTypes.idxOf type)
  ofUnderlying value := textureTypes.getD value.toNat .InvalidEnum
  ofUnderlying_toUnderlying type := by cases type <;> rfl

def samplerFormats : List ActiveSamplers.SamplerFormat :=
  [.Float, .Unsigned, .Signed, .Shadow]

instance : PackedEnum ActiveSamplers.SamplerFormat where
  toUnderlying format := UInt8.ofNat (samplerFormats.idxOf format)
  ofUnderlying value := samplerFormats.getD value.toNat .InvalidEnum
  ofUnderlying_toUnderlying format := by cases format <;> rfl

abbrev ShaderBitSet := ShaderType → Bool

namespace ShaderBitSet

def to_ulong (bits : ShaderBitSet) : Nat :=
  (bits .Vertex).toNat + 2 * (bits .Fragment).toNat + 4 * (bits .Geometry).toNat +
    8 * (bits .Compute).toNat

/-- The constructor of a set from a `uint8_t`. -/
def ofBits (value : Nat) : ShaderBitSet
  | .Vertex => value.testBit 0
  | .Fragment => value.testBit 1
  | .Geometry => value.testBit 2
  | .Compute => value.testBit 3

theorem ofBits_to_ulong (bits : ShaderBitSet) : ofBits bits.to_ulong = bits := by
  funext shaderType
  cases shaderType <;> simp only [ofBits, to_ulong] <;> cases bits .Vertex <;>
    cases bits .Fragment <;> cases bits .Geometry <;> cases bits .Compute <;> rfl

end ShaderBitSet

structure ShaderVariable where
  type : GLenum
  precision : GLenum
  name : Text
  mappedName : Text
  /-- The outermost size is the last one. -/
  arraySizes : List UInt32
  staticUse : Bool
  active : Bool
  structName : Text
  /-- It is -1 where the variable has no parent array. -/
  flattenedOffsetInParentArrays : Int

namespace ShaderVariable

variable (var : ShaderVariable)

def isArray : Bool := !var.arraySizes.isEmpty

def hasParentArrayIndex : Bool := var.flattenedOffsetInParentArrays != -1

def parentArrayIndex : Int :=
  if var.hasParentArrayIndex then var.flattenedOffsetInParentArrays else 0

def setParentArrayIndex (indexIn : Int) : ShaderVariable :=
  { var with flattenedOffsetInParentArrays := indexIn }

def named : NamedVariable := ⟨nameOf var.name, var.isArray⟩

end ShaderVariable

structure ProgramInput extends ShaderVariable where
  location : Int

structure ProgramOutput extends ShaderVariable where
  location : Int
  index : Int

structure BlockMemberInfo where
  arrayStride : Int
  isRowMajorMatrix : Bool
  matrixStride : Int
  offset : Int
  topLevelArrayStride : Int

structure LinkedUniform extends ShaderVariable where
  /-- The interface block or atomic counter buffer that contains the uniform, or -1. -/
  bufferIndex : Int
  blockInfo : BlockMemberInfo
  activeShaders : ShaderBitSet
  outerArraySizes : List UInt32

structure BufferVariable extends ShaderVariable where
  bufferIndex : Int
  blockInfo : BlockMemberInfo
  topLevelArraySize : Int
  activeShaders : ShaderBitSet

structure ShaderVariableBuffer where
  binding : Int
  dataSize : UInt32
  activeShaders : ShaderBitSet
  memberIndexes : List UInt32

abbrev AtomicCounterBuffer := ShaderVariableBuffer

structure InterfaceBlock extends ShaderVariableBuffer where
  name : Text
  mappedName : Text
  isArray : Bool
  arrayElement : UInt32

structure TransformFeedbackVarying where
  arraySizes : List UInt32
  type : GLenum
  name : Text
  arrayIndex : UInt32

def TransformFeedbackVarying.size (varying : TransformFeedbackVarying) : Nat :=
  if !varying.arraySizes.isEmpty && varying.arrayIndex == GL_INVALID_INDEX then
    (varying.arraySizes.getLastD 0).toNat
  else 1

/-- The sizes of the types that a varying can have: of floats, integers, their vectors and
matrices. -/
def variableExternalSizes : List (GLenum × Nat) :=
  [(0x1406, 4), (0x8B50, 8), (0x8B51, 12), (0x8B52, 16), (0x1404, 4), (0x8B53, 8), (0x8B54, 12),
    (0x8B55, 16), (0x1405, 4), (0x8DC6, 8), (0x8DC7, 12), (0x8DC8, 16), (0x8B5A, 16),
    (0x8B5B, 36), (0x8B5C, 64), (0x8B65, 24), (0x8B66, 32), (0x8B67, 24), (0x8B68, 48),
    (0x8B69, 32), (0x8B6A, 48)]

def VariableExternalSize (type : GLenum) : Nat := (variableExternalSizes.lookup type).getD 0

structure ImageBinding where
  boundImageUnits : List UInt32
  unreferenced : Bool

def ImageBinding.ofCount (count : Nat) : ImageBinding := ⟨List.replicate count 0, false⟩

structure RangeUI where
  low : UInt32
  high : UInt32

def RangeUI.contains (range : RangeUI) (value : Nat) : Bool :=
  range.low.toNat ≤ value && value < range.high.toNat

/-- What the stages of a link make of a program that `unlink` has cleared. -/
structure LinkedInterface where
  mComputeShaderLocalSize : Int × Int × Int
  mGeometryShaderInputPrimitiveType : PrimitiveMode
  mGeometryShaderOutputPrimitiveType : PrimitiveMode
  mGeometryShaderInvocations : Int
  mGeometryShaderMaxVertices : Int
  mNumViews : Int
  mProgramInputs : List ProgramInput
  mMaxActiveAttribLocation : UInt32
  mAttributesTypeMask : BitVec 32
  mAttributesMask : BitVec 16
  mActiveAttribLocationsMask : BitVec 16
  mUniforms : List LinkedUniform
  mUniformLocations : List VariableLocation
  mAtomicCounterBuffers : List AtomicCounterBuffer
  mLinkedTransformFeedbackVaryings : List TransformFeedbackVarying
  mOutputVariables : List ProgramOutput
  mOutputLocations : List VariableLocation
  mSecondaryOutputLocations : List VariableLocation
  mOutputVariableTypes : List GLenum
  mDrawBufferTypeMask : BitVec 32
  mActiveOutputVariables : BitVec 8

/-- The values of the constructor, to which `unlink` sets the interface. -/
def LinkedInterface.cleared : LinkedInterface where
  mComputeShaderLocalSize := (1, 1, 1)
  mGeometryShaderInputPrimitiveType := .Triangles
  mGeometryShaderOutputPrimitiveType := .TriangleStrip
  mGeometryShaderInvocations := 1
  mGeometryShaderMaxVertices := 0
  mNumViews := -1
  mProgramInputs := []
  mMaxActiveAttribLocation := 0
  mAttributesTypeMask := 0#32
  mAttributesMask := 0#16
  mActiveAttribLocationsMask := 0#16
  mUniforms := []
  mUniformLocations := []
  mAtomicCounterBuffers := []
  mLinkedTransformFeedbackVaryings := []
  mOutputVariables := []
  mOutputLocations := []
  mSecondaryOutputLocations := []
  mOutputVariableTypes := []
  mDrawBufferTypeMask := 0#32
  mActiveOutputVariables := 0#8

structure ProgramState extends ActiveSamplers.ProgramState, LinkedInterface where
  mUniformBlocks : List InterfaceBlock
  /-- The uniform blocks that are bound to another binding point than 0. -/
  mActiveUniformBlockBindings : Nat → Bool
  mBufferVariables : List BufferVariable
  mShaderStorageBlocks : List InterfaceBlock
  mSamplerUniformRange : RangeUI
  mImageUniformRange : RangeUI
  mAtomicCounterUniformRange : RangeUI
  mImageBindings : List ImageBinding
  mActiveImagesMask : UInt32 → Bool
  mTransformFeedbackBufferMode : GLenum
  mTransformFeedbackStrides : List Nat
  mLinkedShaderStages : ShaderBitSet
  mDrawIDLocation : Int
  mBaseVertexLocation : Int
  mBaseInstanceLocation : Int
  mCachedBaseVertex : Int
  mCachedBaseInstance : Int

abbrev GL_INTERLEAVED_ATTRIBS : GLenum := 0x8C8C

abbrev GL_SEPARATE_ATTRIBS : GLenum := 0x8C8D

structure Context where
  ANGLE_COMMIT_HASH : List UInt8
  clientMajorVersion : Int
  clientMinorVersion : Int
  disableProgramCachingForTransformFeedback : Bool
  multiDraw : Bool
  baseVertexBaseInstance : Bool

namespace ProgramState

/-- Programs are equal where their samplers, interfaces and other fields are. -/
theorem ext_parts {p q : ProgramState} (samplers : p.toProgramState = q.toProgramState)
    (interface : p.toLinkedInterface = q.toLinkedInterface)
    (uniformBlocks : p.mUniformBlocks = q.mUniformBlocks)
    (blockBindings : p.mActiveUniformBlockBindings = q.mActiveUniformBlockBindings)
    (bufferVariables : p.mBufferVariables = q.mBufferVariables)
    (shaderStorageBlocks : p.mShaderStorageBlocks = q.mShaderStorageBlocks)
    (samplerRange : p.mSamplerUniformRange = q.mSamplerUniformRange)
    (imageRange : p.mImageUniformRange = q.mImageUniformRange)
    (atomicCounterRange : p.mAtomicCounterUniformRange = q.mAtomicCounterUniformRange)
    (images : p.mImageBindings = q.mImageBindings)
    (imagesMask : p.mActiveImagesMask = q.mActiveImagesMask)
    (bufferMode : p.mTransformFeedbackBufferMode = q.mTransformFeedbackBufferMode)
    (strides : p.mTransformFeedbackStrides = q.mTransformFeedbackStrides)
    (stages : p.mLinkedShaderStages = q.mLinkedShaderStages)
    (drawID : p.mDrawIDLocation = q.mDrawIDLocation)
    (baseVertex : p.mBaseVertexLocation = q.mBaseVertexLocation)
    (baseInstance : p.mBaseInstanceLocation = q.mBaseInstanceLocation)
    (cachedBaseVertex : p.mCachedBaseVertex = q.mCachedBaseVertex)
    (cachedBaseInstance : p.mCachedBaseInstance = q.mCachedBaseInstance) : p = q := by
  cases p
  cases q
  simp_all only

def init : ProgramState where
  toProgramState := .init
  toLinkedInterface := .cleared
  mUniformBlocks := []
  mActiveUniformBlockBindings _ := false
  mBufferVariables := []
  mShaderStorageBlocks := []
  mSamplerUniformRange := ⟨0, 0⟩
  mImageUniformRange := ⟨0, 0⟩
  mAtomicCounterUniformRange := ⟨0, 0⟩
  mImageBindings := []
  mActiveImagesMask _ := false
  mTransformFeedbackBufferMode := GL_INTERLEAVED_ATTRIBS
  mTransformFeedbackStrides := []
  mLinkedShaderStages _ := false
  mDrawIDLocation := -1
  mBaseVertexLocation := -1
  mBaseInstanceLocation := -1
  mCachedBaseVertex := 0
  mCachedBaseInstance := 0

variable (p : ProgramState)

/-- `unlink`, which keeps the storage blocks and their variables, the ranges, the masks, counts
and types of the samplers, the strides and the stages. -/
def unlink : ProgramState :=
  { p with
    toProgramState := p.toProgramState.unlink
    toLinkedInterface := .cleared
    mUniformBlocks := []
    mActiveUniformBlockBindings := fun _ => false
    mImageBindings := []
    mActiveImagesMask := fun _ => false
    mDrawIDLocation := -1
    mBaseVertexLocation := -1
    mBaseInstanceLocation := -1
    mCachedBaseVertex := 0
    mCachedBaseInstance := 0 }

def strideOf (varying : TransformFeedbackVarying) : Nat :=
  varying.size * VariableExternalSize varying.type

def transformFeedbackStrides (mode : GLenum) (varyings : List TransformFeedbackVarying) :
    List Nat :=
  if mode = GL_INTERLEAVED_ATTRIBS then [(varyings.map strideOf).sum] else varyings.map strideOf

def updateTransformFeedbackStrides : ProgramState :=
  { p with
    mTransformFeedbackStrides :=
      transformFeedbackStrides p.mTransformFeedbackBufferMode p.mLinkedTransformFeedbackVaryings }

def markActiveImages (bindings : List ImageBinding) (mask : UInt32 → Bool) : UInt32 → Bool :=
  bindings.foldl
    (fun mask binding =>
      if binding.unreferenced then mask
      else binding.boundImageUnits.foldl (fun mask unit => Function.update mask unit true) mask)
    mask

def updateActiveImages : ProgramState :=
  { p with mActiveImagesMask := markActiveImages p.mImageBindings p.mActiveImagesMask }

def getUniformLocation (name : Name) : Int :=
  match GetVariableLocation (p.mUniforms.map (·.named)) p.mUniformLocations name with
  | some location => location
  | none => -1

def postResolveLink (context : Context) : ProgramState :=
  let p := { p with toProgramState := p.toProgramState.updateActiveSamplers }.updateActiveImages
  let p :=
    if context.multiDraw then
      { p with mDrawIDLocation := p.getUniformLocation "gl_DrawID".toList }
    else p
  if context.baseVertexBaseInstance then
    { p with
      mBaseVertexLocation := p.getUniformLocation "gl_BaseVertex".toList
      mBaseInstanceLocation := p.getUniformLocation "gl_BaseInstance".toList }
  else p

end ProgramState

end MetalAngle.Gl.LinkedProgram
