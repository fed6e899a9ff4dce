import Mathlib.Algebra.Ring.Nat
import Mathlib.Data.List.Basic

/-!
# Rectangles on a grid

Rectangles of cells, and rectangles that are stacked below each other.
-/

namespace GridPacking

/-- The rows from `top` on and the columns from `left` on. -/
structure Rect where
  top : Nat
  height : Nat
  left : Nat
  width : Nat

namespace Rect

def bottom (r : Rect) : Nat := r.top + r.height

def right (r : Rect) : Nat := r.left + r.width

/-- The cell is one of the rectangle. -/
def Covers (r : Rect) (row column : Nat) : Prop :=
  r.top ≤ row ∧ row < r.bottom ∧ r.left ≤ column ∧ column < r.right

/-- No cell is one of both. -/
def Apart (r s : Rect) : Prop := ∀ row column, r.Covers row column → ¬ s.Covers row column

variable {r s : Rect}

theorem Apart.symm (h : Apart r s) : Apart s r :=
  fun row column hs hr => h row column hr hs

end Rect

section Stack

variable {α : Type*} (height : α → Nat) (left width : Nat)

def stack : Nat → List α → List (α × Rect)
  | _, [] => []
  | top, a :: as =>
      (a, { top, height := height a, left, width }) :: stack (top + height a) as

end Stack

end GridPacking
