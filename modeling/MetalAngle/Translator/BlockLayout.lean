import MetalAngle.Metal.BufferPoolRegions
import MetalAngle.Translator.ShaderVariable

/-!
# The block layout encoders

The encoders for std140 and std430 share the traversal, the strides and the offsets and differ in
their base alignments.  Offsets count components of four bytes and are `size_t`; the member infos
are in bytes and are `int`.
-/

namespace MetalAngle.Translator

open MetalAngle.Metal (roundUp)

/-- Conversion to `size_t`. -/
def toSize (n : Nat) : Nat := n % 2 ^ 64

/-- Conversion to `int`. -/
def toInt (n : Int) : Int := n.bmod (2 ^ 32)

structure BlockMemberInfo where
  offset : Int := -1
  arrayStride : Int := -1
  matrixStride : Int := -1
  isRowMajorMatrix : Bool := false
  topLevelArrayStride : Int := -1

def componentAlignment (numComponents : Nat) : Nat :=
  if numComponents = 3 then 4 else numComponents

def kBytesPerComponent : Nat := 4

def kComponentsPerRegister : Nat := 4

def arraySizeProduct (arraySizes : List Nat) : Nat :=
  arraySizes.foldl (fun product arraySize => product * arraySize % 2 ^ 32) 1

def getStd430BaseAlignment (variableType : VariableType) (isRowMajor : Bool) : Nat :=
  let flippedType := if isRowMajor then variableType else variableType.transposeMatrixType
  componentAlignment flippedType.variableColumnCount

/-- The state is `mCurrentAlignment`. -/
def baseAlignmentVisitor : ShaderVariableVisitor Nat where
  enterStructAccess _ _ _ _ mCurrentAlignment := mCurrentAlignment
  exitStructAccess _ _ _ mCurrentAlignment := mCurrentAlignment
  enterArrayElement _ _ _ mCurrentAlignment := mCurrentAlignment
  exitArrayElement _ _ mCurrentAlignment := mCurrentAlignment
  visitVariable type _ isRowMajor mCurrentAlignment :=
    max mCurrentAlignment (getStd430BaseAlignment type isRowMajor)

inductive BlockLayoutEncoder
  | Std140BlockEncoder
  | Std430BlockEncoder

namespace BlockLayoutEncoder

variable (encoder : BlockLayoutEncoder)

def getTypeBaseAlignment (type : VariableType) (isRowMajorMatrix : Bool) : Nat :=
  match encoder with
  | Std140BlockEncoder => kComponentsPerRegister
  | Std430BlockEncoder => getStd430BaseAlignment type isRowMajorMatrix

def getBaseAlignment (fields : List ShaderVariable) : Nat :=
  match encoder with
  | Std140BlockEncoder => kComponentsPerRegister
  | Std430BlockEncoder => traverseShaderVariables baseAlignmentVisitor fields false 0

def enterAggregateType (fields : List ShaderVariable) (mCurrentOffset : Nat) : Nat :=
  roundUp 64 mCurrentOffset (encoder.getBaseAlignment fields)

def exitAggregateType (fields : List ShaderVariable) (mCurrentOffset : Nat) : Nat :=
  roundUp 64 mCurrentOffset (encoder.getBaseAlignment fields)

def getBlockLayoutInfo (type : VariableType) (arraySizes : List Nat) (isRowMajorMatrix : Bool) :
    Nat × Nat × Nat :=
  if type.isMatrixType then
    let alignment := encoder.getTypeBaseAlignment type isRowMajorMatrix
    let numRegisters := type.matrixRegisterCount isRowMajorMatrix
    (alignment, if arraySizes ≠ [] then alignment * numRegisters else 0, alignment)
  else if arraySizes ≠ [] then
    (encoder.getTypeBaseAlignment type false, encoder.getTypeBaseAlignment type false, 0)
  else
    (componentAlignment type.variableComponentCount, 0, 0)

/-- The product of a stride and an array size is one of `unsigned int`. -/
def advanceOffset (type : VariableType) (arraySizes : List Nat) (isRowMajorMatrix : Bool)
    (arrayStride matrixStride mCurrentOffset : Nat) : Nat :=
  if arraySizes ≠ [] then
    toSize (mCurrentOffset + arrayStride * arraySizeProduct arraySizes % 2 ^ 32)
  else if type.isMatrixType then
    toSize (mCurrentOffset + matrixStride * type.matrixRegisterCount isRowMajorMatrix)
  else
    toSize (mCurrentOffset + type.variableComponentCount)

def encodeType (type : VariableType) (arraySizes : List Nat) (isRowMajorMatrix : Bool)
    (mCurrentOffset : Nat) : BlockMemberInfo × Nat :=
  let (baseAlignment, arrayStride, matrixStride) :=
    encoder.getBlockLayoutInfo type arraySizes isRowMajorMatrix
  let mCurrentOffset := roundUp 64 mCurrentOffset baseAlignment
  let memberInfo : BlockMemberInfo :=
    { offset := toInt (toSize (mCurrentOffset * kBytesPerComponent))
      arrayStride := toInt (arrayStride * kBytesPerComponent)
      matrixStride := toInt (matrixStride * kBytesPerComponent)
      isRowMajorMatrix := isRowMajorMatrix }
  (memberInfo, advanceOffset type arraySizes isRowMajorMatrix arrayStride matrixStride
    mCurrentOffset)

end BlockLayoutEncoder

def getCurrentOffset (mCurrentOffset : Nat) : Nat := toSize (mCurrentOffset * kBytesPerComponent)

/-- What a callback leaves behind: the member info that a variable is encoded with, and the
encoder's `getCurrentOffset` when the callback returns. -/
structure Placement where
  call : VisitorCall
  memberInfo : Option BlockMemberInfo
  currentOffset : Nat

structure BlockEncoderVisitor where
  mCurrentOffset : Nat
  mTopLevelArrayStride : Int
  mIsTopLevelArrayStrideReady : Bool
  mStructStackSize : Nat
  placements : List Placement

namespace BlockEncoderVisitor

def initial (mCurrentOffset : Nat) : BlockEncoderVisitor :=
  { mCurrentOffset := mCurrentOffset, mTopLevelArrayStride := 0,
    mIsTopLevelArrayStrideReady := true, mStructStackSize := 0, placements := [] }

/-- The size of a struct, by a traversal of its fields with a new visitor on the same encoder from
offset 0, and the encoder's offset afterwards. -/
def getShaderVariableSize (encoder : BlockLayoutEncoder) (fields : List ShaderVariable)
    (traverseFields : BlockEncoderVisitor → BlockEncoderVisitor) (mCurrentOffset : Nat) :
    Nat × Nat :=
  let currentOffset := mCurrentOffset
  let visitor := traverseFields (initial (encoder.enterAggregateType fields 0))
  let structVarSize :=
    getCurrentOffset (encoder.exitAggregateType fields visitor.mCurrentOffset)
  (structVarSize, currentOffset)

variable (encoder : BlockLayoutEncoder) (v : BlockEncoderVisitor)

def readyTopLevelArrayStride (fields : List ShaderVariable)
    (traverseFields : BlockEncoderVisitor → BlockEncoderVisitor) : BlockEncoderVisitor :=
  if v.mIsTopLevelArrayStrideReady then v
  else
    let (structSize, mCurrentOffset) :=
      getShaderVariableSize encoder fields traverseFields v.mCurrentOffset
    { v with
      mCurrentOffset := mCurrentOffset
      mTopLevelArrayStride := toInt (v.mTopLevelArrayStride * structSize)
      mIsTopLevelArrayStrideReady := true }

def enterStructAccess (field : ShaderVariable) (fields : List ShaderVariable) (isRowMajor : Bool)
    (traverseFields : BlockEncoderVisitor → BlockEncoderVisitor) : BlockEncoderVisitor :=
  let v := { v with mStructStackSize := v.mStructStackSize + 1 }
  let v := v.readyTopLevelArrayStride encoder (field :: fields) traverseFields
  let mCurrentOffset := encoder.enterAggregateType (field :: fields) v.mCurrentOffset
  { v with
    mCurrentOffset := mCurrentOffset
    placements := v.placements ++
      [⟨.enterStructAccess field fields isRowMajor, none, getCurrentOffset mCurrentOffset⟩] }

def exitStructAccess (field : ShaderVariable) (fields : List ShaderVariable) (isRowMajor : Bool) :
    BlockEncoderVisitor :=
  let mCurrentOffset := encoder.exitAggregateType (field :: fields) v.mCurrentOffset
  { v with
    mCurrentOffset := mCurrentOffset
    mStructStackSize := v.mStructStackSize - 1
    placements := v.placements ++
      [⟨.exitStructAccess field fields isRowMajor, none, getCurrentOffset mCurrentOffset⟩] }

def enterArrayElement (hasParentArrayIndex : Bool) (innerArraySizeProduct arrayElement : Nat) :
    BlockEncoderVisitor :=
  if v.mStructStackSize = 0 ∧ !hasParentArrayIndex ∧ arrayElement = 0 then
    { v with
      mTopLevelArrayStride := toInt innerArraySizeProduct
      mIsTopLevelArrayStrideReady := false }
  else v

def exitArrayElement (hasParentArrayIndex : Bool) : BlockEncoderVisitor :=
  if v.mStructStackSize = 0 ∧ !hasParentArrayIndex then
    { v with mTopLevelArrayStride := 0, mIsTopLevelArrayStrideReady := true }
  else v

def visitNamedVariable (type : VariableType) (arraySizes : List Nat) (isRowMajor : Bool) :
    BlockEncoderVisitor :=
  let innermostArraySize := arraySizes.take 1
  let (variableInfo, mCurrentOffset) :=
    encoder.encodeType type innermostArraySize isRowMajor v.mCurrentOffset
  let mTopLevelArrayStride :=
    if v.mIsTopLevelArrayStrideReady then v.mTopLevelArrayStride
    else toInt (v.mTopLevelArrayStride * variableInfo.arrayStride)
  let variableInfo := { variableInfo with topLevelArrayStride := mTopLevelArrayStride }
  { v with
    mCurrentOffset := mCurrentOffset
    mTopLevelArrayStride := mTopLevelArrayStride
    mIsTopLevelArrayStrideReady := true
    placements := v.placements ++
      [⟨.visitVariable type arraySizes isRowMajor, some variableInfo,
        getCurrentOffset mCurrentOffset⟩] }

end BlockEncoderVisitor

def blockEncoderVisitor (encoder : BlockLayoutEncoder) :
    ShaderVariableVisitor BlockEncoderVisitor where
  enterStructAccess field fields isRowMajor traverseFields v :=
    v.enterStructAccess encoder field fields isRowMajor traverseFields
  exitStructAccess field fields isRowMajor v := v.exitStructAccess encoder field fields isRowMajor
  enterArrayElement hasParentArrayIndex innerArraySizeProduct arrayElement v :=
    v.enterArrayElement hasParentArrayIndex innerArraySizeProduct arrayElement
  exitArrayElement hasParentArrayIndex _ v := v.exitArrayElement hasParentArrayIndex
  visitVariable type arraySizes isRowMajor v :=
    v.visitNamedVariable encoder type arraySizes isRowMajor

def getInterfaceBlockInfo (encoder : BlockLayoutEncoder) (fields : List ShaderVariable)
    (inRowMajorLayout : Bool) : BlockEncoderVisitor :=
  traverseShaderVariables (blockEncoderVisitor encoder) fields inRowMajorLayout (.initial 0)

end MetalAngle.Translator
