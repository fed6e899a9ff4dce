import MetalAngle.Gl.ProgramState

/-!
# Saving and loading of a linked program

A linked program is written to a stream field by field, and another program is loaded from the
stream.  The part of the back end comes after that of the front end and is left out.
-/

namespace MetalAngle.Gl.LinkedProgram

open TokenStream BinaryStream Linking

/-! ## Variables -/

def WriteShaderVar (var : ShaderVariable) : BinaryOutputStream := do
  writeInt var.type.toNat
  writeInt var.precision.toNat
  writeString var.name
  writeString var.mappedName
  writeIntVector var.arraySizes
  writeBool var.staticUse
  writeBool var.active
  writeString var.structName
  writeInt (if var.hasParentArrayIndex then var.parentArrayIndex else -1)

def LoadShaderVar : BinaryInputStream ShaderVariable := do
  let type ← readUnsigned
  let precision ← readUnsigned
  let name ← readString
  let mappedName ← readString
  let arraySizes ← readIntVector
  let staticUse ← readBool
  let active ← readBool
  let structName ← readString
  let parentArrayIndex ← readInt
  pure { type, precision, name, mappedName, arraySizes, staticUse, active, structName,
         flattenedOffsetInParentArrays := parentArrayIndex }

def WriteBlockMemberInfo (var : BlockMemberInfo) : BinaryOutputStream := do
  writeInt var.arrayStride
  writeBool var.isRowMajorMatrix
  writeInt var.matrixStride
  writeInt var.offset
  writeInt var.topLevelArrayStride

def LoadBlockMemberInfo : BinaryInputStream BlockMemberInfo := do
  let arrayStride ← readInt
  let isRowMajorMatrix ← readBool
  let matrixStride ← readInt
  let offset ← readInt
  let topLevelArrayStride ← readInt
  pure { arrayStride, isRowMajorMatrix, matrixStride, offset, topLevelArrayStride }

/-- The loop over the shader types with `isActive`. -/
def writeActiveShaders (activeShaders : ShaderBitSet) : BinaryOutputStream := do
  writeBool (activeShaders .Vertex)
  writeBool (activeShaders .Fragment)
  writeBool (activeShaders .Geometry)
  writeBool (activeShaders .Compute)

def shaderBitSetOf (vertex fragment geometry compute : Bool) : ShaderBitSet
  | .Vertex => vertex
  | .Fragment => fragment
  | .Geometry => geometry
  | .Compute => compute

/-- The loop over the shader types with `setActive`. -/
def readActiveShaders : BinaryInputStream ShaderBitSet := do
  let vertex ← readBool
  let fragment ← readBool
  let geometry ← readBool
  let compute ← readBool
  pure (shaderBitSetOf vertex fragment geometry compute)

def WriteShaderVariableBuffer (var : ShaderVariableBuffer) : BinaryOutputStream := do
  writeInt var.binding
  writeInt var.dataSize.toNat
  writeActiveShaders var.activeShaders
  writeList (fun memberCounterIndex => writeInt (UInt32.toNat memberCounterIndex))
    var.memberIndexes

def LoadShaderVariableBuffer : BinaryInputStream ShaderVariableBuffer := do
  let binding ← readInt
  let dataSize ← readUnsigned
  let activeShaders ← readActiveShaders
  let memberIndexes ← readList readUnsigned
  pure { binding, dataSize, activeShaders, memberIndexes }

def WriteBufferVariable (var : BufferVariable) : BinaryOutputStream := do
  WriteShaderVar var.toShaderVariable
  writeInt var.bufferIndex
  WriteBlockMemberInfo var.blockInfo
  writeInt var.topLevelArraySize
  writeActiveShaders var.activeShaders

def LoadBufferVariable : BinaryInputStream BufferVariable := do
  let toShaderVariable ← LoadShaderVar
  let bufferIndex ← readInt
  let blockInfo ← LoadBlockMemberInfo
  let topLevelArraySize ← readInt
  let activeShaders ← readActiveShaders
  pure { toShaderVariable, bufferIndex, blockInfo, topLevelArraySize, activeShaders }

def WriteInterfaceBlock (block : InterfaceBlock) : BinaryOutputStream := do
  writeString block.name
  writeString block.mappedName
  writeBool block.isArray
  writeInt block.arrayElement.toNat
  WriteShaderVariableBuffer block.toShaderVariableBuffer

def LoadInterfaceBlock : BinaryInputStream InterfaceBlock := do
  let name ← readString
  let mappedName ← readString
  let isArray ← readBool
  let arrayElement ← readUnsigned
  let toShaderVariableBuffer ← LoadShaderVariableBuffer
  pure { toShaderVariableBuffer, name, mappedName, isArray, arrayElement }

def writeVariableLocation (variable_ : VariableLocation) : BinaryOutputStream := do
  writeInt variable_.arrayIndex.toNat
  writeIntOrNegOne variable_.index
  writeBool variable_.ignored

def readVariableLocation : BinaryInputStream VariableLocation := do
  let arrayIndex ← readUnsigned
  let index ← readUnsigned
  let ignored ← readBool
  pure { arrayIndex, index, ignored }

def writeProgramInput (attrib : ProgramInput) : BinaryOutputStream := do
  WriteShaderVar attrib.toShaderVariable
  writeInt attrib.location

def readProgramInput : BinaryInputStream ProgramInput := do
  let toShaderVariable ← LoadShaderVar
  let location ← readInt
  pure { toShaderVariable, location }

def writeProgramOutput (output : ProgramOutput) : BinaryOutputStream := do
  WriteShaderVar output.toShaderVariable
  writeInt output.location
  writeInt output.index

def readProgramOutput : BinaryInputStream ProgramOutput := do
  let toShaderVariable ← LoadShaderVar
  let location ← readInt
  let index ← readInt
  pure { toShaderVariable, location, index }

def writeLinkedUniform (uniform : LinkedUniform) : BinaryOutputStream := do
  WriteShaderVar uniform.toShaderVariable
  writeInt uniform.bufferIndex
  WriteBlockMemberInfo uniform.blockInfo
  writeActiveShaders uniform.activeShaders

def readLinkedUniform : BinaryInputStream LinkedUniform := do
  let toShaderVariable ← LoadShaderVar
  let bufferIndex ← readInt
  let blockInfo ← LoadBlockMemberInfo
  let activeShaders ← readActiveShaders
  pure { toShaderVariable, bufferIndex, blockInfo, activeShaders, outerArraySizes := [] }

def writeTransformFeedbackVarying (var : TransformFeedbackVarying) : BinaryOutputStream := do
  writeIntVector var.arraySizes
  writeInt var.type.toNat
  writeString var.name
  writeIntOrNegOne var.arrayIndex

def readTransformFeedbackVarying : BinaryInputStream TransformFeedbackVarying := do
  let arraySizes ← readIntVector
  let type ← readUnsigned
  let name ← readString
  let arrayIndex ← readUnsigned
  pure { arraySizes, type, name, arrayIndex }

def writeSamplerBinding (samplerBinding : ActiveSamplers.SamplerBinding) :
    BinaryOutputStream := do
  writeEnum samplerBinding.textureType
  writeEnum samplerBinding.format
  writeInt samplerBinding.boundTextureUnits.length
  writeBool samplerBinding.unreferenced

def readSamplerBinding : BinaryInputStream ActiveSamplers.SamplerBinding := do
  let textureType ← readEnum
  let format ← readEnum
  let bindingCount ← readSize
  let unreferenced ← readBool
  pure (.make textureType format bindingCount unreferenced)

def writeImageBinding (imageBinding : ImageBinding) : BinaryOutputStream :=
  writeList (fun unit => writeInt (UInt32.toNat unit)) imageBinding.boundImageUnits

def readImageBinding : BinaryInputStream ImageBinding := do
  let boundImageUnits ← readList readUnsigned
  pure { boundImageUnits, unreferenced := false }

def writeRange (range : RangeUI) : BinaryOutputStream := do
  writeInt range.low.toNat
  writeInt range.high.toNat

def readRange : BinaryInputStream RangeUI := do
  let low ← readUnsigned
  let high ← readUnsigned
  pure { low, high }

/-! ### What is read is what was written -/

theorem writtenParentArrayIndex (var : ShaderVariable) :
    (if var.hasParentArrayIndex then var.parentArrayIndex else -1) =
      var.flattenedOffsetInParentArrays := by
  unfold ShaderVariable.parentArrayIndex
  by_cases h : var.flattenedOffsetInParentArrays = -1
  · simp [ShaderVariable.hasParentArrayIndex, h]
  · simp [ShaderVariable.hasParentArrayIndex, h]

theorem reads_shaderVar (var : ShaderVariable) : Reads (WriteShaderVar var) LoadShaderVar var := by
  unfold WriteShaderVar LoadShaderVar
  rw [writtenParentArrayIndex]
  refine (reads_unsigned var.type).bind ?_
  refine (reads_unsigned var.precision).bind ?_
  refine (reads_string var.name).bind ?_
  refine (reads_string var.mappedName).bind ?_
  refine (reads_intVector var.arraySizes).bind ?_
  refine (reads_bool var.staticUse).bind ?_
  refine (reads_bool var.active).bind ?_
  refine (reads_string var.structName).bind ?_
  exact (reads_int var.flattenedOffsetInParentArrays).last _

theorem reads_blockMemberInfo (var : BlockMemberInfo) :
    Reads (WriteBlockMemberInfo var) LoadBlockMemberInfo var := by
  refine (reads_int var.arrayStride).bind ?_
  refine (reads_bool var.isRowMajorMatrix).bind ?_
  refine (reads_int var.matrixStride).bind ?_
  refine (reads_int var.offset).bind ?_
  exact (reads_int var.topLevelArrayStride).last _

theorem shaderBitSetOf_eq (bits : ShaderBitSet) :
    shaderBitSetOf (bits .Vertex) (bits .Fragment) (bits .Geometry) (bits .Compute) = bits := by
  funext shaderType
  cases shaderType <;> rfl

theorem reads_activeShaders (activeShaders : ShaderBitSet) :
    Reads (writeActiveShaders activeShaders) readActiveShaders activeShaders := by
  conv => arg 3; rw [← shaderBitSetOf_eq activeShaders]
  refine (reads_bool (activeShaders .Vertex)).bind ?_
  refine (reads_bool (activeShaders .Fragment)).bind ?_
  refine (reads_bool (activeShaders .Geometry)).bind ?_
  exact (reads_bool (activeShaders .Compute)).last _

theorem reads_shaderVariableBuffer (var : ShaderVariableBuffer) :
    Reads (WriteShaderVariableBuffer var) LoadShaderVariableBuffer var := by
  refine (reads_int var.binding).bind ?_
  refine (reads_unsigned var.dataSize).bind ?_
  refine (reads_activeShaders var.activeShaders).bind ?_
  exact (reads_list reads_unsigned var.memberIndexes).last _

theorem reads_bufferVariable (var : BufferVariable) :
    Reads (WriteBufferVariable var) LoadBufferVariable var := by
  refine (reads_shaderVar var.toShaderVariable).bind ?_
  refine (reads_int var.bufferIndex).bind ?_
  refine (reads_blockMemberInfo var.blockInfo).bind ?_
  refine (reads_int var.topLevelArraySize).bind ?_
  exact (reads_activeShaders var.activeShaders).last _

theorem reads_interfaceBlock (block : InterfaceBlock) :
    Reads (WriteInterfaceBlock block) LoadInterfaceBlock block := by
  refine (reads_string block.name).bind ?_
  refine (reads_string block.mappedName).bind ?_
  refine (reads_bool block.isArray).bind ?_
  refine (reads_unsigned block.arrayElement).bind ?_
  exact (reads_shaderVariableBuffer block.toShaderVariableBuffer).last _

theorem reads_variableLocation (variable_ : VariableLocation) :
    Reads (writeVariableLocation variable_) readVariableLocation variable_ := by
  refine (reads_unsigned variable_.arrayIndex).bind ?_
  refine (reads_intOrNegOne variable_.index).bind ?_
  exact (reads_bool variable_.ignored).last _

theorem reads_programInput (attrib : ProgramInput) :
    Reads (writeProgramInput attrib) readProgramInput attrib := by
  refine (reads_shaderVar attrib.toShaderVariable).bind ?_
  exact (reads_int attrib.location).last _

theorem reads_programOutput (output : ProgramOutput) :
    Reads (writeProgramOutput output) readProgramOutput output := by
  refine (reads_shaderVar output.toShaderVariable).bind ?_
  refine (reads_int output.location).bind ?_
  exact (reads_int output.index).last _

def LinkedUniform.saved (uniform : LinkedUniform) : LinkedUniform :=
  { uniform with outerArraySizes := [] }

theorem reads_linkedUniform (uniform : LinkedUniform) :
    Reads (writeLinkedUniform uniform) readLinkedUniform uniform.saved := by
  refine (reads_shaderVar uniform.toShaderVariable).bind ?_
  refine (reads_int uniform.bufferIndex).bind ?_
  refine (reads_blockMemberInfo uniform.blockInfo).bind ?_
  exact (reads_activeShaders uniform.activeShaders).last _

theorem reads_transformFeedbackVarying (var : TransformFeedbackVarying) :
    Reads (writeTransformFeedbackVarying var) readTransformFeedbackVarying var := by
  refine (reads_intVector var.arraySizes).bind ?_
  refine (reads_unsigned var.type).bind ?_
  refine (reads_string var.name).bind ?_
  exact (reads_intOrNegOne var.arrayIndex).last _

def savedSampler (binding : ActiveSamplers.SamplerBinding) : ActiveSamplers.SamplerBinding :=
  .make binding.textureType binding.format binding.boundTextureUnits.length binding.unreferenced

theorem reads_samplerBinding (samplerBinding : ActiveSamplers.SamplerBinding) :
    Reads (writeSamplerBinding samplerBinding) readSamplerBinding
      (savedSampler samplerBinding) := by
  refine (reads_enum samplerBinding.textureType).bind ?_
  refine (reads_enum samplerBinding.format).bind ?_
  refine (reads_size samplerBinding.boundTextureUnits.length).bind ?_
  exact (reads_bool samplerBinding.unreferenced).last _

def ImageBinding.saved (binding : ImageBinding) : ImageBinding :=
  { binding with unreferenced := false }

theorem reads_imageBinding (imageBinding : ImageBinding) :
    Reads (writeImageBinding imageBinding) readImageBinding imageBinding.saved :=
  (reads_list reads_unsigned imageBinding.boundImageUnits).last _

theorem reads_range (range : RangeUI) : Reads (writeRange range) readRange range := by
  refine (reads_unsigned range.low).bind ?_
  exact (reads_unsigned range.high).last _

/-! ## Programs -/

section Serialize

variable (p : ProgramState)

def serializeStages : BinaryOutputStream := do
  writeInt p.mComputeShaderLocalSize.1
  writeInt p.mComputeShaderLocalSize.2.1
  writeInt p.mComputeShaderLocalSize.2.2
  require (1 ≤ p.mGeometryShaderInvocations ∧ 0 ≤ p.mGeometryShaderMaxVertices)
  writeEnum p.mGeometryShaderInputPrimitiveType
  writeEnum p.mGeometryShaderOutputPrimitiveType
  writeInt p.mGeometryShaderInvocations
  writeInt p.mGeometryShaderMaxVertices
  writeInt p.mNumViews

def serializeInputs : BinaryOutputStream := do
  writeInt p.mMaxActiveAttribLocation.toNat
  writeBitsAsInt p.mAttributesTypeMask
  writeBits p.mAttributesMask
  writeBits p.mActiveAttribLocationsMask
  writeList writeProgramInput p.mProgramInputs

def serializeUniforms : BinaryOutputStream := do
  writeList writeLinkedUniform p.mUniforms
  writeList writeVariableLocation p.mUniformLocations

def serializeBlocks : BinaryOutputStream := do
  writeList WriteInterfaceBlock p.mUniformBlocks
  writeList WriteBufferVariable p.mBufferVariables
  writeList WriteInterfaceBlock p.mShaderStorageBlocks
  writeList WriteShaderVariableBuffer p.mAtomicCounterBuffers

def serializeVaryings : BinaryOutputStream := do
  writeEach writeTransformFeedbackVarying p.mLinkedTransformFeedbackVaryings
  writeInt p.mTransformFeedbackBufferMode.toNat

def serializeOutputs : BinaryOutputStream := do
  writeList writeProgramOutput p.mOutputVariables
  writeList writeVariableLocation p.mOutputLocations
  writeList writeVariableLocation p.mSecondaryOutputLocations
  writeList (fun outputVariableType => writeInt (UInt32.toNat outputVariableType))
    p.mOutputVariableTypes
  writeBitsAsInt p.mDrawBufferTypeMask
  writeBits p.mActiveOutputVariables

def serializeBindings : BinaryOutputStream := do
  writeRange p.mSamplerUniformRange
  writeList writeSamplerBinding p.mSamplerBindings
  writeRange p.mImageUniformRange
  writeList writeImageBinding p.mImageBindings
  writeRange p.mAtomicCounterUniformRange
  writeInt p.mLinkedShaderStages.to_ulong

def serialize (context : Context) : BinaryOutputStream := do
  writeBytes context.ANGLE_COMMIT_HASH
  writeInt context.clientMajorVersion
  writeInt context.clientMinorVersion
  serializeStages p
  serializeInputs p
  serializeUniforms p
  serializeBlocks p
  writeInt p.mLinkedTransformFeedbackVaryings.length
  serializeVaryings p
  serializeOutputs p
  serializeBindings p

end Serialize

section Deserialize

variable (p : ProgramState)

def deserializeStages : BinaryInputStream ProgramState := do
  let x ← readInt
  let y ← readInt
  let z ← readInt
  let inputPrimitiveType ← readEnum
  let outputPrimitiveType ← readEnum
  let invocations ← readInt
  let maxVertices ← readInt
  let numViews ← readInt
  pure { p with
    mComputeShaderLocalSize := (x, y, z)
    mGeometryShaderInputPrimitiveType := inputPrimitiveType
    mGeometryShaderOutputPrimitiveType := outputPrimitiveType
    mGeometryShaderInvocations := invocations
    mGeometryShaderMaxVertices := maxVertices
    mNumViews := numViews }

def deserializeInputs : BinaryInputStream ProgramState := do
  let maxActiveAttribLocation ← readUnsigned
  let attributesTypeMask ← readBits 32
  let attributesMask ← readBits 16
  let activeAttribLocationsMask ← readBits 16
  let programInputs ← readList readProgramInput
  pure { p with
    mMaxActiveAttribLocation := maxActiveAttribLocation
    mAttributesTypeMask := attributesTypeMask
    mAttributesMask := attributesMask
    mActiveAttribLocationsMask := activeAttribLocationsMask
    mProgramInputs := p.mProgramInputs ++ programInputs }

def deserializeUniforms : BinaryInputStream ProgramState := do
  let uniforms ← readList readLinkedUniform
  let uniformLocations ← readList readVariableLocation
  pure { p with
    mUniforms := p.mUniforms ++ uniforms
    mUniformLocations := p.mUniformLocations ++ uniformLocations }

def setActiveUniformBlockBindings (mask : Nat → Bool) (first : Nat) :
    List InterfaceBlock → Nat → Bool
  | [] => mask
  | block :: blocks =>
    setActiveUniformBlockBindings (Function.update mask first (block.binding != 0)) (first + 1)
      blocks

def deserializeBlocks : BinaryInputStream ProgramState := do
  let uniformBlocks ← readList LoadInterfaceBlock
  let bufferVariables ← readList LoadBufferVariable
  let shaderStorageBlocks ← readList LoadInterfaceBlock
  let atomicCounterBuffers ← readList LoadShaderVariableBuffer
  pure { p with
    mUniformBlocks := p.mUniformBlocks ++ uniformBlocks
    mActiveUniformBlockBindings :=
      setActiveUniformBlockBindings p.mActiveUniformBlockBindings 0 uniformBlocks
    mBufferVariables := p.mBufferVariables ++ bufferVariables
    mShaderStorageBlocks := p.mShaderStorageBlocks ++ shaderStorageBlocks
    mAtomicCounterBuffers := p.mAtomicCounterBuffers ++ atomicCounterBuffers }

def deserializeVaryings (count : Nat) : BinaryInputStream ProgramState := do
  let varyings ← readEach readTransformFeedbackVarying count
  let bufferMode ← readUnsigned
  pure { p with
    mLinkedTransformFeedbackVaryings := p.mLinkedTransformFeedbackVaryings ++ varyings
    mTransformFeedbackBufferMode := bufferMode }

def deserializeOutputs : BinaryInputStream ProgramState := do
  let outputVariables ← readList readProgramOutput
  let outputLocations ← readList readVariableLocation
  let secondaryOutputLocations ← readList readVariableLocation
  let outputVariableTypes ← readList readUnsigned
  let drawBufferTypeMask ← readBits 32
  let activeOutputVariables ← readBits 8
  pure { p with
    mOutputVariables := p.mOutputVariables ++ outputVariables
    mOutputLocations := p.mOutputLocations ++ outputLocations
    mSecondaryOutputLocations := p.mSecondaryOutputLocations ++ secondaryOutputLocations
    mOutputVariableTypes := p.mOutputVariableTypes ++ outputVariableTypes
    mDrawBufferTypeMask := drawBufferTypeMask
    mActiveOutputVariables := activeOutputVariables }

def deserializeBindings : BinaryInputStream ProgramState := do
  let samplerUniformRange ← readRange
  let samplerBindings ← readList readSamplerBinding
  let imageUniformRange ← readRange
  let imageBindings ← readList readImageBinding
  let atomicCounterUniformRange ← readRange
  let linkedShaderStages ← readCount
  pure { p with
    mSamplerUniformRange := samplerUniformRange
    mSamplerBindings := p.mSamplerBindings ++ samplerBindings
    mImageUniformRange := imageUniformRange
    mImageBindings := p.mImageBindings ++ imageBindings
    mAtomicCounterUniformRange := atomicCounterUniformRange
    mLinkedShaderStages := .ofBits linkedShaderStages }

/-- The end of `deserialize`, where a compute shader that is attached keeps the strides. -/
def finishDeserialize (context : Context) (computeAttached : Bool) : ProgramState :=
  let p := if computeAttached then p else p.updateTransformFeedbackStrides
  p.postResolveLink context

def deserialize (context : Context) (computeAttached : Bool) :
    BinaryInputStream (Option ProgramState) := do
  let commitString ← readBytes context.ANGLE_COMMIT_HASH.length
  if commitString ≠ context.ANGLE_COMMIT_HASH then
    pure none
  else
    let majorVersion ← readInt
    let minorVersion ← readInt
    if majorVersion ≠ context.clientMajorVersion ∨ minorVersion ≠ context.clientMinorVersion then
      pure none
    else
      let p ← deserializeStages p
      let p ← deserializeInputs p
      let p ← deserializeUniforms p
      let p ← deserializeBlocks p
      let transformFeedbackVaryingCount ← readCount
      if 0 < transformFeedbackVaryingCount ∧
          context.disableProgramCachingForTransformFeedback then
        pure none
      else
        let p ← deserializeVaryings p transformFeedbackVaryingCount
        let p ← deserializeOutputs p
        let p ← deserializeBindings p
        pure (some (finishDeserialize p context computeAttached))

/-- `loadBinary` up to the part of the back end, which accepts the binary, and the resolution of
the load. -/
def loadBinary (context : Context) (computeAttached : Bool) :
    BinaryInputStream (Option ProgramState) := do
  let loaded ← deserialize p.unlink context computeAttached
  pure (loaded.map fun p => { p with mLinked := true })

end Deserialize

/-! ### The parts of a program -/

section Parts

variable (p q : ProgramState)

theorem reads_stages :
    Reads (serializeStages p) (deserializeStages q) { q with
        mComputeShaderLocalSize := p.mComputeShaderLocalSize
        mGeometryShaderInputPrimitiveType := p.mGeometryShaderInputPrimitiveType
        mGeometryShaderOutputPrimitiveType := p.mGeometryShaderOutputPrimitiveType
        mGeometryShaderInvocations := p.mGeometryShaderInvocations
        mGeometryShaderMaxVertices := p.mGeometryShaderMaxVertices
        mNumViews := p.mNumViews } := by
  refine (reads_int p.mComputeShaderLocalSize.1).bind ?_
  refine (reads_int p.mComputeShaderLocalSize.2.1).bind ?_
  refine (reads_int p.mComputeShaderLocalSize.2.2).bind ?_
  refine .require fun _ => ?_
  refine (reads_enum p.mGeometryShaderInputPrimitiveType).bind ?_
  refine (reads_enum p.mGeometryShaderOutputPrimitiveType).bind ?_
  refine (reads_int p.mGeometryShaderInvocations).bind ?_
  refine (reads_int p.mGeometryShaderMaxVertices).bind ?_
  exact (reads_int p.mNumViews).last _

theorem reads_inputs :
    Reads (serializeInputs p) (deserializeInputs q) { q with
        mMaxActiveAttribLocation := p.mMaxActiveAttribLocation
        mAttributesTypeMask := p.mAttributesTypeMask
        mAttributesMask := p.mAttributesMask
        mActiveAttribLocationsMask := p.mActiveAttribLocationsMask
        mProgramInputs := q.mProgramInputs ++ p.mProgramInputs } := by
  refine (reads_unsigned p.mMaxActiveAttribLocation).bind ?_
  refine (reads_bitsAsInt p.mAttributesTypeMask).bind ?_
  refine (reads_bits p.mAttributesMask).bind ?_
  refine (reads_bits p.mActiveAttribLocationsMask).bind ?_
  exact (reads_list reads_programInput p.mProgramInputs).last _

theorem reads_uniforms :
    Reads (serializeUniforms p) (deserializeUniforms q) { q with
        mUniforms := q.mUniforms ++ p.mUniforms.map .saved
        mUniformLocations := q.mUniformLocations ++ p.mUniformLocations } := by
  refine (reads_listMap reads_linkedUniform p.mUniforms).bind ?_
  exact (reads_list reads_variableLocation p.mUniformLocations).last _

theorem reads_blocks :
    Reads (serializeBlocks p) (deserializeBlocks q) { q with
        mUniformBlocks := q.mUniformBlocks ++ p.mUniformBlocks
        mActiveUniformBlockBindings :=
          setActiveUniformBlockBindings q.mActiveUniformBlockBindings 0 p.mUniformBlocks
        mBufferVariables := q.mBufferVariables ++ p.mBufferVariables
        mShaderStorageBlocks := q.mShaderStorageBlocks ++ p.mShaderStorageBlocks
        mAtomicCounterBuffers := q.mAtomicCounterBuffers ++ p.mAtomicCounterBuffers } := by
  refine (reads_list reads_interfaceBlock p.mUniformBlocks).bind ?_
  refine (reads_list reads_bufferVariable p.mBufferVariables).bind ?_
  refine (reads_list reads_interfaceBlock p.mShaderStorageBlocks).bind ?_
  exact (reads_list reads_shaderVariableBuffer p.mAtomicCounterBuffers).last _

theorem reads_varyings :
    Reads (serializeVaryings p) (deserializeVaryings q p.mLinkedTransformFeedbackVaryings.length)
      { q with
        mLinkedTransformFeedbackVaryings :=
          q.mLinkedTransformFeedbackVaryings ++ p.mLinkedTransformFeedbackVaryings
        mTransformFeedbackBufferMode := p.mTransformFeedbackBufferMode } := by
  have hvaryings := Reads.each id reads_transformFeedbackVarying p.mLinkedTransformFeedbackVaryings
  rw [List.map_id] at hvaryings
  exact hvaryings.bind ((reads_unsigned p.mTransformFeedbackBufferMode).last _)

theorem reads_outputs :
    Reads (serializeOutputs p) (deserializeOutputs q) { q with
        mOutputVariables := q.mOutputVariables ++ p.mOutputVariables
        mOutputLocations := q.mOutputLocations ++ p.mOutputLocations
        mSecondaryOutputLocations := q.mSecondaryOutputLocations ++ p.mSecondaryOutputLocations
        mOutputVariableTypes := q.mOutputVariableTypes ++ p.mOutputVariableTypes
        mDrawBufferTypeMask := p.mDrawBufferTypeMask
        mActiveOutputVariables := p.mActiveOutputVariables } := by
  refine (reads_list reads_programOutput p.mOutputVariables).bind ?_
  refine (reads_list reads_variableLocation p.mOutputLocations).bind ?_
  refine (reads_list reads_variableLocation p.mSecondaryOutputLocations).bind ?_
  refine (reads_list reads_unsigned p.mOutputVariableTypes).bind ?_
  refine (reads_bitsAsInt p.mDrawBufferTypeMask).bind ?_
  exact (reads_bits p.mActiveOutputVariables).last _

theorem reads_bindings :
    Reads (serializeBindings p) (deserializeBindings q) { q with
        mSamplerUniformRange := p.mSamplerUniformRange
        mSamplerBindings := q.mSamplerBindings ++ p.mSamplerBindings.map savedSampler
        mImageUniformRange := p.mImageUniformRange
        mImageBindings := q.mImageBindings ++ p.mImageBindings.map .saved
        mAtomicCounterUniformRange := p.mAtomicCounterUniformRange
        mLinkedShaderStages := p.mLinkedShaderStages } := by
  refine (reads_range p.mSamplerUniformRange).bind ?_
  refine (reads_listMap reads_samplerBinding p.mSamplerBindings).bind ?_
  refine (reads_range p.mImageUniformRange).bind ?_
  refine (reads_listMap reads_imageBinding p.mImageBindings).bind ?_
  refine (reads_range p.mAtomicCounterUniformRange).bind ?_
  conv => arg 3; rw [← ShaderBitSet.ofBits_to_ulong p.mLinkedShaderStages]
  exact (reads_count p.mLinkedShaderStages.to_ulong).last _

end Parts

/-! ### The whole program -/

section Program

variable (p q : ProgramState) (context : Context) (computeAttached : Bool)

def restore : ProgramState :=
  { q with
    mComputeShaderLocalSize := p.mComputeShaderLocalSize
    mGeometryShaderInputPrimitiveType := p.mGeometryShaderInputPrimitiveType
    mGeometryShaderOutputPrimitiveType := p.mGeometryShaderOutputPrimitiveType
    mGeometryShaderInvocations := p.mGeometryShaderInvocations
    mGeometryShaderMaxVertices := p.mGeometryShaderMaxVertices
    mNumViews := p.mNumViews
    mMaxActiveAttribLocation := p.mMaxActiveAttribLocation
    mAttributesTypeMask := p.mAttributesTypeMask
    mAttributesMask := p.mAttributesMask
    mActiveAttribLocationsMask := p.mActiveAttribLocationsMask
    mProgramInputs := q.mProgramInputs ++ p.mProgramInputs
    mUniforms := q.mUniforms ++ p.mUniforms.map .saved
    mUniformLocations := q.mUniformLocations ++ p.mUniformLocations
    mUniformBlocks := q.mUniformBlocks ++ p.mUniformBlocks
    mActiveUniformBlockBindings :=
      setActiveUniformBlockBindings q.mActiveUniformBlockBindings 0 p.mUniformBlocks
    mBufferVariables := q.mBufferVariables ++ p.mBufferVariables
    mShaderStorageBlocks := q.mShaderStorageBlocks ++ p.mShaderStorageBlocks
    mAtomicCounterBuffers := q.mAtomicCounterBuffers ++ p.mAtomicCounterBuffers
    mLinkedTransformFeedbackVaryings :=
      q.mLinkedTransformFeedbackVaryings ++ p.mLinkedTransformFeedbackVaryings
    mTransformFeedbackBufferMode := p.mTransformFeedbackBufferMode
    mOutputVariables := q.mOutputVariables ++ p.mOutputVariables
    mOutputLocations := q.mOutputLocations ++ p.mOutputLocations
    mSecondaryOutputLocations := q.mSecondaryOutputLocations ++ p.mSecondaryOutputLocations
    mOutputVariableTypes := q.mOutputVariableTypes ++ p.mOutputVariableTypes
    mDrawBufferTypeMask := p.mDrawBufferTypeMask
    mActiveOutputVariables := p.mActiveOutputVariables
    mSamplerUniformRange := p.mSamplerUniformRange
    mSamplerBindings := q.mSamplerBindings ++ p.mSamplerBindings.map savedSampler
    mImageUniformRange := p.mImageUniformRange
    mImageBindings := q.mImageBindings ++ p.mImageBindings.map .saved
    mAtomicCounterUniformRange := p.mAtomicCounterUniformRange
    mLinkedShaderStages := p.mLinkedShaderStages }

/-- The driver can load the captured varyings, or there are none. -/
def CanLoadVaryings : Prop :=
  p.mLinkedTransformFeedbackVaryings = [] ∨
    context.disableProgramCachingForTransformFeedback = false

/-- The part of `deserialize` after the versions. -/
theorem reads_deserialize (h : CanLoadVaryings p context) :
    Reads (serialize p context) (deserialize q context computeAttached)
      (some (finishDeserialize (restore p q) context computeAttached)) := by
  refine (reads_bytes context.ANGLE_COMMIT_HASH).bind ?_
  rw [if_neg (by simp)]
  refine (reads_int context.clientMajorVersion).bind ?_
  refine (reads_int context.clientMinorVersion).bind ?_
  rw [if_neg (by simp)]
  refine (reads_stages p q).bind ?_
  refine (reads_inputs p _).bind ?_
  refine (reads_uniforms p _).bind ?_
  refine (reads_blocks p _).bind ?_
  refine (reads_count p.mLinkedTransformFeedbackVaryings.length).bind ?_
  have haccepted : ¬ (0 < p.mLinkedTransformFeedbackVaryings.length ∧
      context.disableProgramCachingForTransformFeedback) := by
    rintro ⟨hpos, hdisabled⟩
    rcases h with hnone | henabled
    · exact Nat.ne_of_gt hpos (List.length_eq_zero_iff.mpr hnone)
    · exact Bool.false_ne_true (henabled.symm.trans hdisabled)
  rw [if_neg haccepted]
  refine (reads_varyings p _).bind ?_
  refine (reads_outputs p _).bind ?_
  exact (reads_bindings p _).last _

/-- A driver that cannot load captured varyings rejects the program. -/
theorem deserialize_rejects (h : ¬ CanLoadVaryings p context) :
    Returns (serialize p context) (deserialize q context computeAttached) none := by
  obtain ⟨hsome, hdisabled⟩ := not_or.mp h
  refine (reads_bytes context.ANGLE_COMMIT_HASH).bind_returns ?_
  rw [if_neg (by simp)]
  refine (reads_int context.clientMajorVersion).bind_returns ?_
  refine (reads_int context.clientMinorVersion).bind_returns ?_
  rw [if_neg (by simp)]
  refine (reads_stages p q).bind_returns ?_
  refine (reads_inputs p _).bind_returns ?_
  refine (reads_uniforms p _).bind_returns ?_
  refine (reads_blocks p _).bind_returns ?_
  refine (reads_count p.mLinkedTransformFeedbackVaryings.length).bind_returns ?_
  have hrejected : 0 < p.mLinkedTransformFeedbackVaryings.length ∧
      context.disableProgramCachingForTransformFeedback :=
    ⟨List.length_pos_iff.mpr hsome, by simpa using hdisabled⟩
  rw [if_pos hrejected]
  have hrest : Reads
      (serializeVaryings p >>= fun _ => serializeOutputs p >>= fun _ => serializeBindings p)
      (deserializeVaryings q p.mLinkedTransformFeedbackVaryings.length >>= fun loaded =>
        deserializeOutputs loaded >>= deserializeBindings) _ :=
    (reads_varyings p q).bind ((reads_outputs p _).bind (reads_bindings p _))
  exact hrest.returns_pure none

end Program

end MetalAngle.Gl.LinkedProgram
