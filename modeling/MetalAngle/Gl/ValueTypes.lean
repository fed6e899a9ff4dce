import MetalAngle.Gl.ProgramState

/-!
# The types of uniforms and attributes

Vectors and matrices, the `GLenum` of each and what the tables of `common/utilities` say of it.
-/

namespace MetalAngle.Gl.LinkedProgram

inductive ComponentType
  | float | int | unsignedInt
deriving DecidableEq

inductive VectorSize
  | one | two | three | four
deriving DecidableEq

inductive MatrixSize
  | two | three | four

def VectorSize.toNat : VectorSize → Nat
  | .one => 1
  | .two => 2
  | .three => 3
  | .four => 4

def MatrixSize.toNat : MatrixSize → Nat
  | .two => 2
  | .three => 3
  | .four => 4

/-- `GL_FLOAT` to `GL_UNSIGNED_INT_VEC4`. -/
def vectorType : ComponentType → VectorSize → GLenum
  | .float, .one => 0x1406
  | .float, .two => 0x8B50
  | .float, .three => 0x8B51
  | .float, .four => 0x8B52
  | .int, .one => 0x1404
  | .int, .two => 0x8B53
  | .int, .three => 0x8B54
  | .int, .four => 0x8B55
  | .unsignedInt, .one => 0x1405
  | .unsignedInt, .two => 0x8DC6
  | .unsignedInt, .three => 0x8DC7
  | .unsignedInt, .four => 0x8DC8

/-- `GL_BOOL` to `GL_BOOL_VEC4`. -/
def boolVectorType : VectorSize → GLenum
  | .one => 0x8B56
  | .two => 0x8B57
  | .three => 0x8B58
  | .four => 0x8B59

/-- `GL_FLOAT_MAT2` to `GL_FLOAT_MAT4x3`. -/
def matrixType : MatrixSize → MatrixSize → GLenum
  | .two, .two => 0x8B5A
  | .two, .three => 0x8B65
  | .two, .four => 0x8B66
  | .three, .two => 0x8B67
  | .three, .three => 0x8B5B
  | .three, .four => 0x8B68
  | .four, .two => 0x8B69
  | .four, .three => 0x8B6A
  | .four, .four => 0x8B5C

theorem VectorSize.toNat_bounds (size : VectorSize) : 0 < size.toNat ∧ size.toNat ≤ 4 := by
  cases size <;> decide

theorem MatrixSize.toNat_bounds (size : MatrixSize) : 0 < size.toNat ∧ size.toNat ≤ 4 := by
  cases size <;> decide

/-- `VariableColumnCount` of the matrix types. -/
def matrixColumnCounts : List (GLenum × Nat) :=
  [(0x8B5A, 2), (0x8B65, 2), (0x8B66, 2), (0x8B67, 3), (0x8B5B, 3), (0x8B68, 3), (0x8B69, 4),
    (0x8B6A, 4), (0x8B5C, 4)]

def VariableRegisterCount (type : GLenum) : Nat := (matrixColumnCounts.lookup type).getD 1

theorem VariableRegisterCount_bounds (type : GLenum) :
    0 < VariableRegisterCount type ∧ VariableRegisterCount type ≤ 4 := by
  have hcounts : ∀ entry ∈ matrixColumnCounts, 0 < entry.2 ∧ entry.2 ≤ 4 := by decide
  unfold VariableRegisterCount
  cases hlookup : matrixColumnCounts.lookup type with
  | none => decide
  | some count =>
      obtain ⟨before, after, hsplit, -⟩ := List.lookup_eq_some_iff.mp hlookup
      apply hcounts (type, count)
      rw [hsplit]
      exact List.mem_append_right before List.mem_cons_self

/-- `GLenumToComponentType` of `VariableComponentType`, for the types of attributes. -/
def componentTypes : List (GLenum × ComponentType) :=
  [(0x1406, .float), (0x8B50, .float), (0x8B51, .float), (0x8B52, .float), (0x8B5A, .float),
    (0x8B65, .float), (0x8B66, .float), (0x8B67, .float), (0x8B5B, .float), (0x8B68, .float),
    (0x8B69, .float), (0x8B6A, .float), (0x8B5C, .float), (0x1404, .int), (0x8B53, .int),
    (0x8B54, .int), (0x8B55, .int), (0x1405, .unsignedInt), (0x8DC6, .unsignedInt),
    (0x8DC7, .unsignedInt), (0x8DC8, .unsignedInt)]

def VariableComponentType (type : GLenum) : Option ComponentType := componentTypes.lookup type

end MetalAngle.Gl.LinkedProgram
