import MetalAngle.Translator.VariablePackerSearch

/-!
# The phases of the variable packer

Each phase finds places for the variables at the front of the list that have as many columns as it
packs.
-/

namespace MetalAngle.Translator

open GridPacking List List.Pairwise Nat Succeeds

def ExpandedVariable.packingRows (v : ExpandedVariable) : Nat :=
  v.type.getTypePackingRows * v.getArraySizeProduct

/-- A variable and a rectangle of its size. -/
def HasShape (p : ExpandedVariable × Rect) : Prop :=
  p.2.height = p.1.packingRows ∧ p.2.width = p.1.type.getTypePackingComponentsPerRow

namespace VariablePacker

variable {vars : List ExpandedVariable}

variable {v : ExpandedVariable}

def front (columns : Nat) (vars : List ExpandedVariable) : List ExpandedVariable :=
  vars.takeWhile fun v => v.type.getTypePackingComponentsPerRow = columns

def back (columns : Nat) (vars : List ExpandedVariable) : List ExpandedVariable :=
  vars.dropWhile fun v => v.type.getTypePackingComponentsPerRow = columns

variable {columns : Nat}

/-- The variables that are sorted by their columns, most columns first. -/
def Descends (vars : List ExpandedVariable) : Prop :=
  vars.Pairwise fun v w =>
    w.type.getTypePackingComponentsPerRow ≤ v.type.getTypePackingComponentsPerRow

theorem Descends.back (h : Descends vars) : Descends (back columns vars) :=
  h.sublist (dropWhile_sublist _)

def totalRows (vars : List ExpandedVariable) : Nat :=
  (vars.map ExpandedVariable.packingRows).sum

/-- The places of variables of two columns: rows of the columns 0 and 1 from the top on, or rows of
the columns 2 and 3 from the bottom on. -/
structure TwoColumnPlace (top01 bottom01 top23 bottom23 : Nat) (p : ExpandedVariable × Rect) :
    Prop where
  shape : HasShape p
  columns : p.1.type.getTypePackingComponentsPerRow = 2
  place : p.2.left = 0 ∧ top01 ≤ p.2.top ∧ p.2.bottom ≤ bottom01 ∨
    p.2.left = 2 ∧ top23 ≤ p.2.top ∧ p.2.bottom ≤ bottom23

variable {p : ExpandedVariable × Rect}

theorem TwoColumnPlace.mono {top01 bottom01 top23 bottom23 top01' bottom01' top23' bottom23' : Nat}
    (h : TwoColumnPlace top01 bottom01 top23 bottom23 p)
    (htop01 : top01' ≤ top01) (hbottom01 : bottom01 ≤ bottom01') (htop23 : top23' ≤ top23)
    (hbottom23 : bottom23 ≤ bottom23') : TwoColumnPlace top01' bottom01' top23' bottom23' p := by
  refine ⟨h.shape, h.columns, ?_⟩
  rcases h.place with ⟨hleft, htop, hbottom⟩ | ⟨hleft, htop, hbottom⟩
  · exact Or.inl ⟨hleft, by omega, by omega⟩
  · exact Or.inr ⟨hleft, by omega, by omega⟩

theorem TwoColumnPlace.right {top01 bottom01 top23 bottom23 : Nat}
    (h : TwoColumnPlace top01 bottom01 top23 bottom23 p) :
    p.2.right = p.2.left + 2 := by
  unfold Rect.right
  rw [h.shape.2, h.columns]

end VariablePacker

end MetalAngle.Translator
