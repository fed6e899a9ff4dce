import Mathlib.Algebra.BigOperators.Field
import Mathlib.LinearAlgebra.Matrix.Determinant.Basic

/-!
# Folding of matrix built-ins

The components of a constant matrix are in column-major order; the matrix that is computed with has
its elements in row-major order.
-/

namespace MetalAngle.Translator.MatrixFolding

structure AngleMatrix (T : Type*) where
  mElements : List T
  mRows : Nat
  mCols : Nat

namespace AngleMatrix

/-- Two loops that assign every element, row by row. -/
def fill {T : Type*} (rows cols : Nat) (element : Nat → Nat → T) : AngleMatrix T :=
  ⟨(List.range (rows * cols)).map fun k => element (k / cols) (k % cols), rows, cols⟩

section Ring

variable {T : Type*} [CommRing T]

/-- `at`, the element in a row and a column. -/
def element (m : AngleMatrix T) (rowIndex columnIndex : Nat) : T :=
  m.mElements.getD (rowIndex * m.mCols + columnIndex) 0

def compMult (m mat1 : AngleMatrix T) : AngleMatrix T :=
  fill m.mRows m.mCols fun i j => mat1.element i j * m.element i j

def outerProduct (m mat1 : AngleMatrix T) : AngleMatrix T :=
  fill m.mRows mat1.mCols fun i j => m.element i 0 * mat1.element 0 j

def transpose (m : AngleMatrix T) : AngleMatrix T := fill m.mCols m.mRows fun i j => m.element j i

/-- The cases of `determinant`. -/
def determinantOf : Nat → (Nat → Nat → T) → T
  | 2, a => a 0 0 * a 1 1 - a 0 1 * a 1 0
  | 3, a =>
      a 0 0 * a 1 1 * a 2 2 + a 0 1 * a 1 2 * a 2 0 + a 0 2 * a 1 0 * a 2 1 -
        a 0 2 * a 1 1 * a 2 0 - a 0 1 * a 1 0 * a 2 2 - a 0 0 * a 1 2 * a 2 1
  | 4, a =>
      let minorMatrix (p q r : Nat) : AngleMatrix T :=
        ⟨[a 1 p, a 2 p, a 3 p, a 1 q, a 2 q, a 3 q, a 1 r, a 2 r, a 3 r], 3, 3⟩
      a 0 0 * determinantOf 3 (minorMatrix 1 2 3).element -
        a 0 1 * determinantOf 3 (minorMatrix 0 2 3).element +
        a 0 2 * determinantOf 3 (minorMatrix 0 1 3).element -
        a 0 3 * determinantOf 3 (minorMatrix 0 1 2).element
  | _, _ => 0

def determinant (m : AngleMatrix T) : T := determinantOf m.mRows m.element

/-- The six terms that every cofactor of a matrix of size 4 has, of its rows and columns. -/
def cofactorTerms (a : Nat → Nat → T) (r s t c d e : Nat) : T :=
  a r c * a s d * a t e + a s c * a t d * a r e + a t c * a r d * a s e -
    a r c * a t d * a s e - a s c * a r d * a t e - a t c * a s d * a r e

/-- The cases of `inverse`. -/
def cofactorOf : Nat → (Nat → Nat → T) → Nat → Nat → T
  | 2, a, 0, 0 => a 1 1
  | 2, a, 0, 1 => -a 1 0
  | 2, a, 1, 0 => -a 0 1
  | 2, a, 1, 1 => a 0 0
  | 3, a, 0, 0 => a 1 1 * a 2 2 - a 2 1 * a 1 2
  | 3, a, 0, 1 => -(a 1 0 * a 2 2 - a 2 0 * a 1 2)
  | 3, a, 0, 2 => a 1 0 * a 2 1 - a 2 0 * a 1 1
  | 3, a, 1, 0 => -(a 0 1 * a 2 2 - a 2 1 * a 0 2)
  | 3, a, 1, 1 => a 0 0 * a 2 2 - a 2 0 * a 0 2
  | 3, a, 1, 2 => -(a 0 0 * a 2 1 - a 2 0 * a 0 1)
  | 3, a, 2, 0 => a 0 1 * a 1 2 - a 1 1 * a 0 2
  | 3, a, 2, 1 => -(a 0 0 * a 1 2 - a 1 0 * a 0 2)
  | 3, a, 2, 2 => a 0 0 * a 1 1 - a 1 0 * a 0 1
  | 4, a, 0, 0 => cofactorTerms a 1 2 3 1 2 3
  | 4, a, 0, 1 => -cofactorTerms a 1 2 3 0 2 3
  | 4, a, 0, 2 => cofactorTerms a 1 2 3 0 1 3
  | 4, a, 0, 3 => -cofactorTerms a 1 2 3 0 1 2
  | 4, a, 1, 0 => -cofactorTerms a 0 2 3 1 2 3
  | 4, a, 1, 1 => cofactorTerms a 0 2 3 0 2 3
  | 4, a, 1, 2 => -cofactorTerms a 0 2 3 0 1 3
  | 4, a, 1, 3 => cofactorTerms a 0 2 3 0 1 2
  | 4, a, 2, 0 => cofactorTerms a 0 1 3 1 2 3
  | 4, a, 2, 1 => -cofactorTerms a 0 1 3 0 2 3
  | 4, a, 2, 2 => cofactorTerms a 0 1 3 0 1 3
  | 4, a, 2, 3 => -cofactorTerms a 0 1 3 0 1 2
  | 4, a, 3, 0 => -cofactorTerms a 0 1 2 1 2 3
  | 4, a, 3, 1 => cofactorTerms a 0 1 2 0 2 3
  | 4, a, 3, 2 => -cofactorTerms a 0 1 2 0 1 3
  | 4, a, 3, 3 => cofactorTerms a 0 1 2 0 1 2
  | _, _, _, _ => 0

end Ring

variable {T : Type*} [Field T] [DecidableEq T]

def inverse (m : AngleMatrix T) : AngleMatrix T :=
  let cof := fill m.mRows m.mCols (cofactorOf m.mRows m.element)
  let adjugateMatrix := cof.transpose
  let det := m.determinant
  fill m.mRows m.mCols fun i j => if det ≠ 0 then adjugateMatrix.element i j / det else 0

end AngleMatrix

open AngleMatrix

section Ring

variable {T : Type*} [CommRing T]

def GetMatrix (paramArray : List T) (rows cols : Nat) : AngleMatrix T :=
  transpose ⟨paramArray.take (rows * cols), cols, rows⟩

def SetUnionArrayFromMatrix (m : AngleMatrix T) : List T := m.transpose.mElements

def foldTranspose (operandArray : List T) (rows cols : Nat) : List T :=
  SetUnionArrayFromMatrix (GetMatrix operandArray rows cols).transpose

def foldMulMatrixComponentWise (lhs rhs : List T) (rows cols : Nat) : List T :=
  SetUnionArrayFromMatrix ((GetMatrix lhs rows cols).compMult (GetMatrix rhs rows cols))

def foldOuterProduct (column row : List T) : List T :=
  SetUnionArrayFromMatrix
    ((GetMatrix column column.length 1).outerProduct (GetMatrix row 1 row.length))

def foldDeterminant (operandArray : List T) (size : Nat) : T :=
  (GetMatrix operandArray size size).determinant

/-- The component in a row and a column of an array of columns. -/
def component (array : List T) (rows i j : Nat) : T := array.getD (j * rows + i) 0

/-- The square matrix of an array. -/
def squareMatrix (array : List T) (n : Nat) :=
  Matrix.of fun i j : Fin n => component array n i j

/-- The array of the columns of a matrix. -/
def columnMajor (rows cols : Nat) (f : Nat → Nat → T) : List T :=
  (List.range (cols * rows)).map fun k => f (k % rows) (k / rows)

end Ring

def foldInverse {T : Type*} [Field T] [DecidableEq T] (operandArray : List T) (size : Nat) :
    List T :=
  SetUnionArrayFromMatrix (GetMatrix operandArray size size).inverse

section Ring

variable {T : Type*} [CommRing T] {f g : Nat → Nat → T} {rows cols i j : Nat}

theorem index_lt (hi : i < rows) (hj : j < cols) : i * cols + j < rows * cols :=
  calc
    i * cols + j < (i + 1) * cols := by rw [Nat.add_mul]; omega
    _ ≤ rows * cols := Nat.mul_le_mul_right cols hi

theorem element_fill (hi : i < rows) (hj : j < cols) : (fill rows cols f).element i j = f i j := by
  have hlt := index_lt hi hj
  have hdiv : (i * cols + j) / cols = i := by
    rw [Nat.mul_comm, Nat.mul_add_div (by omega), Nat.div_eq_of_lt hj, Nat.add_zero]
  have hmod : (i * cols + j) % cols = j := by
    rw [Nat.mul_comm, Nat.mul_add_mod, Nat.mod_eq_of_lt hj]
  simp [element, fill, hlt, hdiv, hmod]

theorem component_columnMajor (hi : i < rows) (hj : j < cols) :
    component (columnMajor rows cols f) rows i j = f i j :=
  element_fill (f := fun j i => f i j) hj hi

theorem element_GetMatrix (array : List T) (hi : i < rows) (hj : j < cols) :
    (GetMatrix array rows cols).element i j = component array rows i j := by
  have hlt := index_lt hj hi
  rw [Nat.mul_comm cols] at hlt
  refine (element_fill hi hj).trans ?_
  simp [element, component, List.getElem?_take_of_lt hlt]

omit [CommRing T] in
theorem fill_congr (h : ∀ i < rows, ∀ j < cols, f i j = g i j) :
    fill rows cols f = fill rows cols g := by
  refine congrArg (AngleMatrix.mk · rows cols) (List.map_congr_left fun k hk => ?_)
  have hlt := List.mem_range.mp hk
  have hpos : 0 < cols := Nat.pos_of_ne_zero fun h => by simp [h] at hlt
  exact h _ (Nat.div_lt_of_lt_mul (by rwa [Nat.mul_comm])) _ (Nat.mod_lt _ hpos)

/-- What a built-in computes element by element is the array of its columns. -/
theorem setUnionArray_fill (h : ∀ i < rows, ∀ j < cols, f i j = g i j) :
    SetUnionArrayFromMatrix (fill rows cols f) = columnMajor rows cols g :=
  congrArg mElements (fill_congr fun j hj i hi => (element_fill hi hj).trans (h i hi j hj))

theorem foldTranspose_eq (array : List T) (rows cols : Nat) :
    foldTranspose array rows cols = columnMajor cols rows fun i j => component array rows j i :=
  setUnionArray_fill fun _ hi _ hj => element_GetMatrix array hj hi

theorem foldMulMatrixComponentWise_eq (lhs rhs : List T) (rows cols : Nat) :
    foldMulMatrixComponentWise lhs rhs rows cols =
      columnMajor rows cols fun i j => component lhs rows i j * component rhs rows i j :=
  setUnionArray_fill fun i (hi : i < rows) j (hj : j < cols) => by
    rw [element_GetMatrix lhs hi hj, element_GetMatrix rhs hi hj, mul_comm]

theorem foldOuterProduct_eq (column row : List T) :
    foldOuterProduct column row =
      columnMajor column.length row.length fun i j => column.getD i 0 * row.getD j 0 :=
  setUnionArray_fill fun i (hi : i < column.length) j (hj : j < row.length) => by
    rw [element_GetMatrix column hi zero_lt_one, element_GetMatrix row zero_lt_one hj]
    simp [component]

theorem determinantOf_three (a : Nat → Nat → T) :
    determinantOf 3 a = Matrix.det (Matrix.of fun i j : Fin 3 => a i j) := by
  rw [Matrix.det_fin_three]
  simp [determinantOf]
  ring

theorem determinantOf_eq (a : Nat → Nat → T) {n : Nat} (hn : 2 ≤ n ∧ n ≤ 4) :
    determinantOf n a = Matrix.det (Matrix.of fun i j : Fin n => a i j) := by
  obtain rfl | rfl | rfl : n = 2 ∨ n = 3 ∨ n = 4 := by omega
  · simp [determinantOf, Matrix.det_fin_two]
  · exact determinantOf_three a
  · rw [Matrix.det_succ_row_zero, Fin.sum_univ_four]
    simp [determinantOf, element, Matrix.det_fin_three, Fin.succAbove]
    ring

/-- The product with the transposed cofactors. -/
theorem sum_mul_cofactorOf (a : Nat → Nat → T) {n : Nat} (hn : 2 ≤ n ∧ n ≤ 4) (i j : Fin n) :
    ∑ k : Fin n, a i k * cofactorOf n a j k = if i = j then determinantOf n a else 0 := by
  obtain rfl | rfl | rfl : n = 2 ∨ n = 3 ∨ n = 4 := by omega
  · rw [Fin.sum_univ_two]
    fin_cases i <;> fin_cases j <;> simp [cofactorOf, determinantOf] <;> ring
  · rw [Fin.sum_univ_three]
    fin_cases i <;> fin_cases j <;> simp [cofactorOf, determinantOf] <;> ring
  · rw [Fin.sum_univ_four]
    fin_cases i <;> fin_cases j <;>
      simp [cofactorOf, cofactorTerms, determinantOf, element] <;> ring

theorem foldDeterminant_eq (array : List T) {n : Nat} (hn : 2 ≤ n ∧ n ≤ 4) :
    foldDeterminant array n = (squareMatrix array n).det := by
  refine (determinantOf_eq _ hn).trans (congrArg Matrix.det ?_)
  ext i j
  exact element_GetMatrix array i.2 j.2

end Ring

section Field

variable {T : Type*} [Field T] [DecidableEq T] (array : List T) {n : Nat}

theorem foldInverse_eq (n : Nat) :
    foldInverse array n = columnMajor n n fun i j =>
      if foldDeterminant array n ≠ 0 then
        cofactorOf n (GetMatrix array n n).element j i / foldDeterminant array n
      else 0 := by
  refine setUnionArray_fill fun i hi j hj => ?_
  have hadjugate := (element_fill (f := fun i j =>
    (fill n n (cofactorOf n (GetMatrix array n n).element)).element j i) hi hj).trans
    (element_fill hj hi)
  exact congrArg (fun x => if foldDeterminant array n ≠ 0 then x / _ else 0) hadjugate

theorem squareMatrix_mul_foldInverse (hn : 2 ≤ n ∧ n ≤ 4) (hdet : foldDeterminant array n ≠ 0) :
    squareMatrix array n * squareMatrix (foldInverse array n) n = 1 := by
  ext i j
  have hterm (k : Fin n) : component array n i k * component (foldInverse array n) n k j =
      (GetMatrix array n n).element i k * cofactorOf n (GetMatrix array n n).element j k /
        foldDeterminant array n := by
    rw [foldInverse_eq, component_columnMajor k.2 j.2, if_pos hdet, mul_div_assoc,
      element_GetMatrix array i.2 k.2]
  rw [Matrix.mul_apply, Matrix.one_apply]
  refine (Finset.sum_congr rfl fun k _ => hterm k).trans ?_
  rw [← Finset.sum_div, sum_mul_cofactorOf _ hn]
  split
  · exact div_self hdet
  · exact zero_div _

end Field

/-- The built-ins on constant matrices give the columns of what they stand for, one after the
other. -/
theorem folding_matrices {R K : Type*} [CommRing R] [Field K] [DecidableEq K] :
    (∀ (array : List R) (rows cols : Nat), foldTranspose array rows cols =
      columnMajor cols rows fun i j => component array rows j i) ∧
    (∀ column row : List R, foldOuterProduct column row =
      columnMajor column.length row.length fun i j => column.getD i 0 * row.getD j 0) ∧
    (∀ (lhs rhs : List R) (rows cols : Nat), foldMulMatrixComponentWise lhs rhs rows cols =
      columnMajor rows cols fun i j => component lhs rows i j * component rhs rows i j) ∧
    (∀ (array : List R) (n : Nat), 2 ≤ n ∧ n ≤ 4 →
      foldDeterminant array n = (squareMatrix array n).det) ∧
    ∀ (array : List K) (n : Nat), 2 ≤ n ∧ n ≤ 4 →
      ((squareMatrix array n).det ≠ 0 →
        squareMatrix array n * squareMatrix (foldInverse array n) n = 1) ∧
      ((squareMatrix array n).det = 0 → foldInverse array n = columnMajor n n fun _ _ => 0) := by
  refine ⟨foldTranspose_eq, foldOuterProduct_eq, foldMulMatrixComponentWise_eq,
    fun array n hn => foldDeterminant_eq array hn, fun array n hn => ⟨fun hdet => ?_, fun hdet => ?_⟩⟩
  · exact squareMatrix_mul_foldInverse array hn (foldDeterminant_eq array hn ▸ hdet)
  · rw [foldInverse_eq]
    simp [foldDeterminant_eq array hn, hdet]

theorem folding_matrices_shear : foldDeterminant [(1 : ℤ), 0, 5, 1] 2 = 1 := by
  rw [(folding_matrices (R := ℤ) (K := ℚ)).2.2.2.1 _ 2 (by decide), Matrix.det_fin_two]
  rfl

end MetalAngle.Translator.MatrixFolding
