import MetalAngle.Lib.StdSort
import MetalAngle.Translator.ShaderVariable

/-!
# Packing of variables within limits

Variables are packed into rows of four columns: those with four columns first, then three, two and
one.  A value of type `int` is an integer, a sum that leaves the type is a fault; unsigned values
are reduced modulo `2 ^ 32`.  Names are left out, and so is the assertion that there are rows at
all.
-/

namespace MetalAngle.Translator

open MetalAngle.Gl (VaryingType)

inductive ResourceType
  | SAMPLER_2D | SAMPLER_3D | SAMPLER_CUBE | SAMPLER_EXTERNAL_OES | SAMPLER_EXTERNAL_2D_Y2Y_EXT
  | SAMPLER_2D_RECT_ANGLE | SAMPLER_2D_ARRAY | SAMPLER_2D_MULTISAMPLE
  | SAMPLER_2D_MULTISAMPLE_ARRAY | INT_SAMPLER_2D | INT_SAMPLER_3D | INT_SAMPLER_CUBE
  | INT_SAMPLER_2D_ARRAY | INT_SAMPLER_2D_MULTISAMPLE | INT_SAMPLER_2D_MULTISAMPLE_ARRAY
  | UNSIGNED_INT_SAMPLER_2D | UNSIGNED_INT_SAMPLER_3D | UNSIGNED_INT_SAMPLER_CUBE
  | UNSIGNED_INT_SAMPLER_2D_ARRAY | UNSIGNED_INT_SAMPLER_2D_MULTISAMPLE
  | UNSIGNED_INT_SAMPLER_2D_MULTISAMPLE_ARRAY | SAMPLER_2D_SHADOW | SAMPLER_CUBE_SHADOW
  | SAMPLER_2D_ARRAY_SHADOW | IMAGE_2D | INT_IMAGE_2D | UNSIGNED_INT_IMAGE_2D | IMAGE_2D_ARRAY
  | INT_IMAGE_2D_ARRAY | UNSIGNED_INT_IMAGE_2D_ARRAY | IMAGE_3D | INT_IMAGE_3D
  | UNSIGNED_INT_IMAGE_3D | IMAGE_CUBE | INT_IMAGE_CUBE | UNSIGNED_INT_IMAGE_CUBE
  | UNSIGNED_INT_ATOMIC_COUNTER
deriving DecidableEq

inductive UniformType
  | data (type : VariableType)
  | resource (type : ResourceType)
deriving DecidableEq

namespace UniformType

def variableSortOrder : UniformType → Nat
  | data (.numeric .FLOAT_MAT4) | data (.numeric .FLOAT_MAT2x4) | data (.numeric .FLOAT_MAT3x4)
  | data (.numeric .FLOAT_MAT4x2) | data (.numeric .FLOAT_MAT4x3) => 0
  | data (.numeric .FLOAT_MAT2) => 1
  | data (.numeric .FLOAT_VEC4) | data (.numeric .INT_VEC4) | data .BOOL_VEC4
  | data (.numeric .UNSIGNED_INT_VEC4) => 2
  | data (.numeric .FLOAT_MAT3) | data (.numeric .FLOAT_MAT2x3)
  | data (.numeric .FLOAT_MAT3x2) => 3
  | data (.numeric .FLOAT_VEC3) | data (.numeric .INT_VEC3) | data .BOOL_VEC3
  | data (.numeric .UNSIGNED_INT_VEC3) => 4
  | data (.numeric .FLOAT_VEC2) | data (.numeric .INT_VEC2) | data .BOOL_VEC2
  | data (.numeric .UNSIGNED_INT_VEC2) => 5
  | data (.numeric .FLOAT) | data (.numeric .INT) | data .BOOL
  | data (.numeric .UNSIGNED_INT) => 6
  | resource .SAMPLER_EXTERNAL_2D_Y2Y_EXT => 0
  | resource _ => 6

def getTypePackingComponentsPerRow : UniformType → Nat
  | data (.numeric .FLOAT_MAT4) | data (.numeric .FLOAT_MAT2) | data (.numeric .FLOAT_MAT2x4)
  | data (.numeric .FLOAT_MAT3x4) | data (.numeric .FLOAT_MAT4x2) | data (.numeric .FLOAT_MAT4x3)
  | data (.numeric .FLOAT_VEC4) | data (.numeric .INT_VEC4) | data .BOOL_VEC4
  | data (.numeric .UNSIGNED_INT_VEC4) => 4
  | data (.numeric .FLOAT_MAT3) | data (.numeric .FLOAT_MAT2x3) | data (.numeric .FLOAT_MAT3x2)
  | data (.numeric .FLOAT_VEC3) | data (.numeric .INT_VEC3) | data .BOOL_VEC3
  | data (.numeric .UNSIGNED_INT_VEC3) => 3
  | data (.numeric .FLOAT_VEC2) | data (.numeric .INT_VEC2) | data .BOOL_VEC2
  | data (.numeric .UNSIGNED_INT_VEC2) => 2
  | _ => 1

def getTypePackingRows : UniformType → Nat
  | data (.numeric .FLOAT_MAT4) | data (.numeric .FLOAT_MAT2x4) | data (.numeric .FLOAT_MAT3x4)
  | data (.numeric .FLOAT_MAT4x3) | data (.numeric .FLOAT_MAT4x2) => 4
  | data (.numeric .FLOAT_MAT3) | data (.numeric .FLOAT_MAT2x3)
  | data (.numeric .FLOAT_MAT3x2) => 3
  | data (.numeric .FLOAT_MAT2) => 2
  | _ => 1

end UniformType

/-- A variable is a struct when it has fields.  Array sizes are listed from the outermost one on. -/
inductive UniformVariable
  | basic (type : UniformType) (arraySizes : List Nat)
  | struct (field : UniformVariable) (fields : List UniformVariable) (arraySizes : List Nat)

structure ExpandedVariable where
  type : UniformType
  arraySizes : List Nat

def expandStructArrayVariable (expandStructVariable : List ExpandedVariable) :
    List Nat → List ExpandedVariable
  | [] => expandStructVariable
  | currentArraySize :: arraySizes =>
      (List.range currentArraySize).flatMap fun _ =>
        expandStructArrayVariable expandStructVariable arraySizes

mutual

def expandVariable : UniformVariable → List ExpandedVariable
  | .basic type arraySizes => [{ type, arraySizes }]
  | .struct field fields arraySizes =>
      expandStructArrayVariable (expandVariable field ++ expandVariables fields) arraySizes

def expandVariables : List UniformVariable → List ExpandedVariable
  | [] => []
  | var :: vars => expandVariable var ++ expandVariables vars

end

/-- The conversion of an unsigned value to `int`. -/
def VariablePacker.toInt (value : Nat) : Int := Int.bmod value (2 ^ 32)

namespace ExpandedVariable

def getArraySizeProduct (v : ExpandedVariable) : Nat :=
  v.arraySizes.foldl (fun arraySizeProduct arraySize => arraySizeProduct * arraySize % 2 ^ 32) 1

def getVariablePackingRows (v : ExpandedVariable) : Int :=
  VariablePacker.toInt (v.type.getTypePackingRows * v.getArraySizeProduct % 2 ^ 32)

def less (lhs rhs : ExpandedVariable) : Bool :=
  let lhsSortOrder := lhs.type.variableSortOrder
  let rhsSortOrder := rhs.type.variableSortOrder
  if lhsSortOrder ≠ rhsSortOrder then lhsSortOrder < rhsSortOrder
  else rhs.getArraySizeProduct < lhs.getArraySizeProduct

end ExpandedVariable

structure VariablePacker where
  topNonFullRow : Int
  bottomNonFullRow : Int
  maxRows : Int
  rows : List Nat

namespace VariablePacker

structure Search where
  topGoodRow : Int
  smallestGoodTop : Int
  smallestGoodSize : Int
  found : Bool

def Search.next (numRows row : Int) (s : Search) : Bool → Search
  | true => if s.found then s else { s with topGoodRow := row, found := true }
  | false =>
      let size := row - s.topGoodRow
      if s.found ∧ numRows ≤ size ∧ size < s.smallestGoodSize then
        { s with smallestGoodSize := size, smallestGoodTop := s.topGoodRow, found := false }
      else { s with found := false }

end VariablePacker

end MetalAngle.Translator
