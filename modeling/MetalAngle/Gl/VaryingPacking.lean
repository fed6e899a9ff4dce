import Mathlib.Tactic

/-!
# Packing of varyings into registers

Varyings are packed one at a time into rows of four components.  The search for a free place, the
fit test and the insertion compute the extents of a varying each on their own.  Arrays have at most
65536 elements (the parser refuses larger ones), so products of extents are not reduced modulo
`2 ^ 32`; a row that an insertion computes is.
-/

namespace MetalAngle.Gl

inductive VaryingType
  | FLOAT | FLOAT_VEC2 | FLOAT_VEC3 | FLOAT_VEC4
  | INT | INT_VEC2 | INT_VEC3 | INT_VEC4
  | UNSIGNED_INT | UNSIGNED_INT_VEC2 | UNSIGNED_INT_VEC3 | UNSIGNED_INT_VEC4
  | FLOAT_MAT2 | FLOAT_MAT3 | FLOAT_MAT4
  | FLOAT_MAT2x3 | FLOAT_MAT3x2 | FLOAT_MAT2x4 | FLOAT_MAT4x2 | FLOAT_MAT3x4 | FLOAT_MAT4x3
deriving DecidableEq

namespace VaryingType

def variableRowCount : VaryingType → Nat
  | FLOAT_MAT2 | FLOAT_MAT3x2 | FLOAT_MAT4x2 => 2
  | FLOAT_MAT3 | FLOAT_MAT2x3 | FLOAT_MAT4x3 => 3
  | FLOAT_MAT4 | FLOAT_MAT2x4 | FLOAT_MAT3x4 => 4
  | _ => 1

def variableColumnCount : VaryingType → Nat
  | FLOAT | INT | UNSIGNED_INT => 1
  | FLOAT_VEC2 | INT_VEC2 | UNSIGNED_INT_VEC2 | FLOAT_MAT2 | FLOAT_MAT2x3 | FLOAT_MAT2x4 => 2
  | FLOAT_VEC3 | INT_VEC3 | UNSIGNED_INT_VEC3 | FLOAT_MAT3 | FLOAT_MAT3x2 | FLOAT_MAT3x4 => 3
  | FLOAT_VEC4 | INT_VEC4 | UNSIGNED_INT_VEC4 | FLOAT_MAT4 | FLOAT_MAT4x2 | FLOAT_MAT4x3 => 4

def transposeMatrixType : VaryingType → VaryingType
  | FLOAT_MAT2x3 => FLOAT_MAT3x2
  | FLOAT_MAT3x2 => FLOAT_MAT2x3
  | FLOAT_MAT2x4 => FLOAT_MAT4x2
  | FLOAT_MAT4x2 => FLOAT_MAT2x4
  | FLOAT_MAT3x4 => FLOAT_MAT4x3
  | FLOAT_MAT4x3 => FLOAT_MAT3x4
  | type => type

end VaryingType

inductive PackMode
  | WEBGL_STRICT
  | ANGLE_RELAXED
  | ANGLE_NON_CONFORMANT_D3D9

/-- A varying of the list, or the field of a struct; with an array index it is one captured element
of an array. -/
structure PackedVarying where
  type : VaryingType
  basicTypeElementCount : Nat
  arrayIndex : Option Nat
  isBuiltIn : Bool

namespace PackedVarying

variable (v : PackedVarying)

def rows : Nat := v.type.transposeMatrixType.variableRowCount

def columns : Nat := v.type.transposeMatrixType.variableColumnCount

def fitColumns (mode : PackMode) : Nat :=
  match mode with
  | .ANGLE_NON_CONFORMANT_D3D9 => 4
  | .WEBGL_STRICT => if v.type = .FLOAT_MAT2 then 4 else v.columns
  | .ANGLE_RELAXED => v.columns

def fitRows : Nat := v.rows * if v.arrayIndex.isSome then 1 else v.basicTypeElementCount

def elements : List Nat :=
  (List.range v.basicTypeElementCount).filter fun arrayElement =>
    v.arrayIndex.all fun index => arrayElement = index

end PackedVarying

/-- The varying is the one at `index` in the list. -/
structure PackedVaryingRegister where
  index : Nat
  packedVarying : PackedVarying
  varyingArrayIndex : Nat
  varyingRowIndex : Nat
  registerRow : Nat
  registerColumn : Nat

namespace PackedVaryingRegister

def sortOrder (r : PackedVaryingRegister) : Nat := r.registerRow * 4 + r.registerColumn

/-- The cells of the register map that a register occupies. -/
def Covers (r : PackedVaryingRegister) (row column : Nat) : Prop :=
  r.registerRow = row ∧ r.registerColumn ≤ column ∧
    column < r.registerColumn + r.packedVarying.columns

instance (r : PackedVaryingRegister) (row column : Nat) : Decidable (r.Covers row column) :=
  inferInstanceAs (Decidable (_ ∧ _ ∧ _))

def row (r : PackedVaryingRegister) : Nat × Nat × Nat :=
  (r.index, r.varyingArrayIndex, r.varyingRowIndex)

end PackedVaryingRegister

/-- The register map has `size` rows.  The registers of builtins are filled in but not recorded. -/
structure VaryingPacking where
  size : Nat
  mRegisterMap : Nat → Nat → Bool
  mRegisterList : List PackedVaryingRegister
  builtInRegisters : List PackedVaryingRegister

namespace VaryingPacking

def initial (maxVaryingVectors : UInt32) : VaryingPacking :=
  { size := maxVaryingVectors.toNat, mRegisterMap := fun _ _ => false, mRegisterList := [],
    builtInRegisters := [] }

variable (p : VaryingPacking)

def isFree (registerRow registerColumn varyingRows varyingColumns : Nat) : Bool :=
  (List.range varyingRows).all fun row =>
    (List.range varyingColumns).all fun column =>
      !p.mRegisterMap (registerRow + row) (registerColumn + column)

def insertRegister (r : PackedVaryingRegister) : Option VaryingPacking :=
  if r.registerRow < p.size then
    some { p with
      mRegisterMap := fun row column => p.mRegisterMap row column || decide (r.Covers row column)
      mRegisterList :=
        if r.packedVarying.isBuiltIn then p.mRegisterList else p.mRegisterList ++ [r]
      builtInRegisters :=
        if r.packedVarying.isBuiltIn then p.builtInRegisters ++ [r] else p.builtInRegisters }
  else none

/-- The registers that `insert` fills in, one for each row of each array element. -/
def insertedRegisters (registerRow registerColumn index : Nat) (v : PackedVarying) :
    List PackedVaryingRegister :=
  v.elements.flatMap fun arrayElement =>
    (List.range v.rows).map fun varyingRow =>
      { index, packedVarying := v, varyingArrayIndex := arrayElement
        varyingRowIndex := varyingRow
        registerRow := (registerRow + arrayElement * v.rows + varyingRow) % 2 ^ 32
        registerColumn }

def columnRegisters (row bestColumn index : Nat) (v : PackedVarying) :
    List PackedVaryingRegister :=
  (List.range v.fitRows).map fun arrayIndex =>
    { index, packedVarying := v, varyingArrayIndex := v.arrayIndex.getD arrayIndex
      varyingRowIndex := 0, registerRow := row + arrayIndex, registerColumn := bestColumn }

def insert (registers : List PackedVaryingRegister) : Option VaryingPacking :=
  registers.foldlM insertRegister p

def findRow (v : PackedVarying) (fitColumns : Nat) : Option (Nat × Nat) :=
  let rows := List.range (p.size - v.fitRows + 1)
  match rows.find? fun row => p.isFree row 0 v.fitRows fitColumns with
  | some row => some (row, 0)
  | none =>
      if fitColumns = 2 then
        (rows.reverse.find? fun row => p.isFree row 2 v.fitRows 2).map fun row => (row, 2)
      else none

structure Space where
  contiguous : Nat
  bestContiguous : Nat
  total : Nat

def countRow (column : Nat) (space : Space) (row : Nat) : Space :=
  if p.mRegisterMap row column then { space with contiguous := 0 }
  else
    { contiguous := space.contiguous + 1
      bestContiguous :=
        if space.contiguous + 1 > space.bestContiguous then space.contiguous + 1
        else space.bestContiguous
      total := space.total + 1 }

def space (column : Nat) : Space :=
  (List.range p.size).foldl (p.countRow column) { contiguous := 0, bestContiguous := 0, total := 0 }

def bestColumn (varyingRows : Nat) : Nat :=
  [1, 2, 3].foldl (fun bestColumn column =>
    if (p.space column).bestContiguous ≥ varyingRows ∧
        ((p.space bestColumn).bestContiguous < varyingRows ∨
          (p.space column).total < (p.space bestColumn).total) then column
    else bestColumn) 0

def place (mode : PackMode) (v : PackedVarying) : Option (Nat × Nat) :=
  if v.fitRows ≤ p.size ∧ 2 ≤ v.fitColumns mode then p.findRow v (v.fitColumns mode) else none

def packVarying (mode : PackMode) (index : Nat) (v : PackedVarying) :
    Option (Bool × VaryingPacking) :=
  if v.fitRows > p.size then some (false, p)
  else if 2 ≤ v.fitColumns mode ∧ v.fitColumns mode ≤ 4 then
    match p.findRow v (v.fitColumns mode) with
    | some (row, column) => (p.insert (insertedRegisters row column index v)).map (true, ·)
    | none => some (false, p)
  else
    let best := p.bestColumn v.fitRows
    if (p.space best).bestContiguous ≥ v.fitRows then
      match (List.range p.size).find? fun row => p.isFree row best v.fitRows 1 with
      | some row => (p.insert (columnRegisters row best index v)).map (true, ·)
      | none => some (true, p)
    else some (false, p)

/-- The loop over the varyings from `index` on. -/
def packVaryings (mode : PackMode) :
    Nat → List PackedVarying → VaryingPacking → Option (Bool × VaryingPacking)
  | _, [], p => some (true, p)
  | index, v :: packedVaryings, p =>
      match p.packVarying mode index v with
      | none => none
      | some (false, p) => some (false, p)
      | some (true, p) => packVaryings mode (index + 1) packedVaryings p

def sorted : VaryingPacking :=
  { p with mRegisterList := p.mRegisterList.insertionSort fun r s => r.sortOrder ≤ s.sortOrder }

def registers : List PackedVaryingRegister := p.mRegisterList ++ p.builtInRegisters

end VaryingPacking

end MetalAngle.Gl
