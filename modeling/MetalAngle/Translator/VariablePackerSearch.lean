import MetalAngle.Lib.CheckedLoop
import MetalAngle.Lib.GridPacking
import MetalAngle.Translator.VariablePacker

/-!
# The grid of the variable packer

Rows are filled only where they are free, and the search of a column finds rows that are free in it.
-/

namespace MetalAngle.Translator.VariablePacker

open GridPacking Succeeds Nat List

section Rows

variable {column numComponentsPerRow : Nat} (hfit : column + numComponentsPerRow ≤ 4)

include hfit

end Rows

variable {row : Int}

/-- The rows from one to before another are free in the columns of the flags. -/
def IsFree (rows : List Nat) (columnFlags : Nat) (first last : Int) : Prop :=
  ∀ row, first ≤ row → row < last → rows.getD row.toNat 0 &&& columnFlags = 0

/-- What the search knows when it comes to a row: the run that it is in, and the smallest run so
far. -/
structure SearchInvariant (rows : List Nat) (columnFlags : Nat) (numRows topRow bottomRow : Int)
    (row : Int) (s : Search) : Prop where
  run : s.found → topRow ≤ s.topGoodRow ∧ s.topGoodRow ≤ row ∧ row ≤ bottomRow ∧
    IsFree rows columnFlags s.topGoodRow row
  smallest : 0 ≤ s.smallestGoodTop → topRow ≤ s.smallestGoodTop ∧
    numRows ≤ s.smallestGoodSize ∧ s.smallestGoodTop + s.smallestGoodSize ≤ bottomRow ∧
    IsFree rows columnFlags s.smallestGoodTop (s.smallestGoodTop + s.smallestGoodSize)

theorem SearchInvariant.next {rows : List Nat} {columnFlags : Nat}
    {numRows topRow bottomRow : Int} {s : Search}
    (h : SearchInvariant rows columnFlags numRows topRow bottomRow row s) (htop : topRow ≤ row)
    {rowEmpty : Bool} (hempty : rowEmpty →
      row < bottomRow ∧ rows.getD row.toNat 0 &&& columnFlags = 0) :
    SearchInvariant rows columnFlags numRows topRow bottomRow (row + 1)
      (s.next numRows row rowEmpty) := by
  unfold Search.next
  cases rowEmpty with
  | true =>
    obtain ⟨hlt, hzero⟩ := hempty rfl
    dsimp only
    split
    case isTrue hfound =>
      obtain ⟨hgood, hle, -, hfree⟩ := h.run hfound
      refine ⟨?_, h.smallest⟩
      intro _
      refine ⟨hgood, by omega, by omega, ?_⟩
      intro i hi hi'
      by_cases heq : i = row
      · subst heq
        exact hzero
      · exact hfree i hi (by omega)
    case isFalse =>
      refine ⟨?_, h.smallest⟩
      intro _
      refine ⟨htop, by dsimp only; omega, by omega, ?_⟩
      intro i hi hi'
      dsimp only at hi
      have heq : i = row := by omega
      subst heq
      exact hzero
  | false =>
    dsimp only
    split
    case isTrue hgood =>
      obtain ⟨hfound, hsize, -⟩ := hgood
      obtain ⟨hgood, hle, hbound, hfree⟩ := h.run hfound
      have hend : s.topGoodRow + (row - s.topGoodRow) = row := by omega
      refine ⟨by simp, ?_⟩
      intro _
      dsimp only
      rw [hend]
      exact ⟨hgood, hsize, hbound, hfree⟩
    case isFalse => exact ⟨by simp, h.smallest⟩

variable {maxRows top : Nat}

end MetalAngle.Translator.VariablePacker
