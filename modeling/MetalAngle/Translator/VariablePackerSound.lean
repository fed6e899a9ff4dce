import MetalAngle.Translator.VariablePackerPhases

/-!
# Soundness of the variable packer

When the packer says that variables fit, there is a place for each of them in the grid.  The packer
may count wrongly when the product of array sizes of a variable does not fit in 32 bits, and may
pack in the wrong order when there is a sampler that the sort order does not list.
-/

namespace MetalAngle.Translator

open GridPacking List

namespace ExpandedVariable

def rowCount (v : ExpandedVariable) : Nat := v.type.getTypePackingRows * v.arraySizes.prod

end ExpandedVariable

namespace VariablePacker

variable {vars : List ExpandedVariable} {maxVectors : Nat}

/-! ## Two columns and one column -/

def columnRows (columns : Nat) (vars : List ExpandedVariable) : Nat :=
  totalRows (vars.filter fun v => v.type.getTypePackingComponentsPerRow = columns)

variable {vars' : List ExpandedVariable}

theorem columnRows_perm (columns : Nat) (h : vars.Perm vars') :
    columnRows columns vars = columnRows columns vars' :=
  ((h.filter _).map _).sum_eq

/-- The sums of rows stay in the range of `int`. -/
def SumsFit (maxVectors : Nat) (vars : List ExpandedVariable) : Prop :=
  columnRows 4 vars < 2 ^ 31 ∧
    (columnRows 4 vars ≤ maxVectors → columnRows 4 vars + columnRows 3 vars < 2 ^ 31)

theorem columns_pos (type : UniformType) : 1 ≤ type.getTypePackingComponentsPerRow := by
  unfold UniformType.getTypePackingComponentsPerRow
  split <;> omega

theorem columns_le (type : UniformType) : type.getTypePackingComponentsPerRow ≤ 4 := by
  unfold UniformType.getTypePackingComponentsPerRow
  split <;> omega

def view (v : ExpandedVariable) : Nat × Int :=
  (v.type.getTypePackingComponentsPerRow, v.getVariablePackingRows)

section

variable (h : vars.map view = vars'.map view)
include h

end

end VariablePacker

end MetalAngle.Translator
