import MetalAngle.Translator.VariablePackerLimits

/-!
# Variables that the packer does not handle

A variable whose product of array sizes does not fit in 32 bits is packed by the product modulo
`2 ^ 32`, and a sampler that the sort order does not list is packed before variables of more
columns.
-/

namespace MetalAngle.Translator

open GridPacking Except List ExpandedVariable Nat UniformType

namespace VariablePacker

variable {maxVectors : Nat}

def empty (maxVectors : Nat) : VariablePacker :=
  { topNonFullRow := 0, bottomNonFullRow := maxVectors - 1, maxRows := maxVectors,
    rows := List.replicate maxVectors 0 }

variable {v : ExpandedVariable}

end VariablePacker

open VariablePacker

theorem ExpandedVariable.less_asymm (a b : ExpandedVariable) (h : a.less b) :
    b.less a = false := by
  unfold less at h ⊢
  grind

theorem ExpandedVariable.less_trans (a b c : ExpandedVariable) (hba : b.less a = false)
    (hcb : c.less b = false) : c.less a = false := by
  unfold less at hba hcb ⊢
  grind

def ExpandedVariable.insertionSort : StdSort less := StdSort.insertion less_asymm less_trans

end MetalAngle.Translator
