import MetalAngle.Translator.VariablePackerSound

/-!
# Packing limits

The answer of the packer for lists of variables, structs included: which lists it handles soundly,
and lists that it accepts although they do not fit.
-/

namespace MetalAngle.Translator

open GridPacking ExpandedVariable List Nat

namespace VariablePacker

variable {vars : List ExpandedVariable} {maxVectors : Nat}

/-! ## The places of all phases -/

/-- A place at the left, between two rows. -/
structure WidePlace (columns top bottom : Nat) (p : ExpandedVariable × Rect) : Prop where
  shape : HasShape p
  columns : p.1.type.getTypePackingComponentsPerRow = columns
  left : p.2.left = 0
  top_le : top ≤ p.2.top
  bottom_le : p.2.bottom ≤ bottom

theorem WidePlace.right {columns top bottom : Nat} {p : ExpandedVariable × Rect}
    (h : WidePlace columns top bottom p) : p.2.right = columns := by
  unfold Rect.right
  rw [h.left, h.shape.2, h.columns, zero_add]

theorem SumsFit.perm {vars' : List ExpandedVariable} (h : SumsFit maxVectors vars)
    (hperm : vars.Perm vars') : SumsFit maxVectors vars' := by
  unfold SumsFit at h ⊢
  rw [← columnRows_perm 4 hperm, ← columnRows_perm 3 hperm]
  exact h

end VariablePacker

end MetalAngle.Translator
