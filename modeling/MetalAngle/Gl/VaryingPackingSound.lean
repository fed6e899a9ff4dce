import MetalAngle.Gl.VaryingPacking

/-!
# When packed varyings do not overlap

The place that the search finds is free for the extents of the fit test.  The registers that an
insertion fills in are in that place, except for those of a captured array element, which stand as
many elements further down as its index says.
-/

namespace MetalAngle.Gl

open PackedVaryingRegister List PackedVarying Nat

/-! ## Extents -/

namespace VaryingType

theorem columns_le (type : VaryingType) : type.transposeMatrixType.variableColumnCount ≤ 4 := by
  cases type <;> decide

theorem columns_pos (type : VaryingType) : 1 ≤ type.transposeMatrixType.variableColumnCount := by
  cases type <;> decide

theorem rows_of_columns (type : VaryingType)
    (h : type.transposeMatrixType.variableColumnCount = 1) :
    type.transposeMatrixType.variableRowCount = 1 := by
  cases type <;> first | rfl | exact absurd h (by decide)

end VaryingType

namespace PackedVarying

variable {v : PackedVarying} {mode : PackMode}

theorem columns_le_fitColumns (v : PackedVarying) (mode : PackMode) :
    v.columns ≤ v.fitColumns mode := by
  have hle : v.columns ≤ 4 := v.type.columns_le
  unfold fitColumns
  cases mode with
  | WEBGL_STRICT =>
      dsimp only
      split
      · exact hle
      · exact le_refl _
  | ANGLE_RELAXED => exact le_refl _
  | ANGLE_NON_CONFORMANT_D3D9 => exact hle

theorem fitColumns_le (v : PackedVarying) (mode : PackMode) : v.fitColumns mode ≤ 4 := by
  have hle : v.columns ≤ 4 := v.type.columns_le
  unfold fitColumns
  cases mode with
  | WEBGL_STRICT =>
      dsimp only
      split
      · exact le_refl 4
      · exact hle
  | ANGLE_RELAXED => exact hle
  | ANGLE_NON_CONFORMANT_D3D9 => exact le_refl 4

theorem columns_of_fitColumns (h : ¬ (2 ≤ v.fitColumns mode ∧ v.fitColumns mode ≤ 4)) :
    v.columns = 1 := by
  have hle := v.columns_le_fitColumns mode
  have hfit := v.fitColumns_le mode
  have hpos : 1 ≤ v.columns := v.type.columns_pos
  omega

theorem rows_of_columns (h : v.columns = 1) : v.rows = 1 := v.type.rows_of_columns h

theorem mem_elements {e : Nat} :
    e ∈ v.elements ↔ e < v.basicTypeElementCount ∧ ∀ k, v.arrayIndex = some k → e = k := by
  unfold elements
  cases v.arrayIndex with
  | none => simp
  | some k => simp

theorem nodup_elements (v : PackedVarying) : v.elements.Nodup :=
  nodup_range.filter _

theorem fitRows_of_none (h : v.arrayIndex = none) :
    v.fitRows = v.rows * v.basicTypeElementCount := by
  simp [fitRows, h]

theorem fitRows_of_some {k : Nat} (h : v.arrayIndex = some k) : v.fitRows = v.rows := by
  simp [fitRows, h]

theorem row_lt_fitRows (h : v.arrayIndex = none) {e varyingRow : Nat}
    (he : e < v.basicTypeElementCount) (hrow : varyingRow < v.rows) :
    e * v.rows + varyingRow < v.fitRows := by
  rw [fitRows_of_none h]
  calc e * v.rows + varyingRow
    _ < e * v.rows + v.rows := Nat.add_lt_add_left hrow _
    _ = v.rows * (e + 1) := by ring
    _ ≤ v.rows * v.basicTypeElementCount := mul_le_mul_left _ he

end PackedVarying

/-! ## Registers of one varying -/

/-- The registers of a varying: one for each row of each of its elements, in four columns. -/
structure Placed (index : Nat) (v : PackedVarying) (rs : List PackedVaryingRegister) : Prop where
  of : ∀ r ∈ rs, r.index = index ∧ r.packedVarying = v
  nodup : (rs.map row).Nodup
  mem : ∀ e ∈ v.elements, ∀ varyingRow < v.rows, (index, e, varyingRow) ∈ rs.map row
  column : ∀ r ∈ rs, r.registerColumn + v.columns ≤ 4

namespace VaryingPacking

variable {p : VaryingPacking} {v : PackedVarying} {rs : List PackedVaryingRegister}
  {index : Nat} {mode : PackMode}

variable {registerRow registerColumn : Nat} {r : PackedVaryingRegister}

theorem mem_insertedRegisters :
    r ∈ insertedRegisters registerRow registerColumn index v ↔
      ∃ e ∈ v.elements, ∃ varyingRow < v.rows,
        r = { index, packedVarying := v, varyingArrayIndex := e, varyingRowIndex := varyingRow
              registerRow := (registerRow + e * v.rows + varyingRow) % 2 ^ 32
              registerColumn } := by
  unfold insertedRegisters
  simp only [mem_flatMap, mem_map, mem_range]
  constructor
  · intro ⟨e, he, varyingRow, hrow, heq⟩
    exact ⟨e, he, varyingRow, hrow, heq.symm⟩
  · intro ⟨e, he, varyingRow, hrow, heq⟩
    exact ⟨e, he, varyingRow, hrow, heq.symm⟩

theorem insertedRegisters_rows (registerRow registerColumn index : Nat) (v : PackedVarying) :
    (insertedRegisters registerRow registerColumn index v).map row =
      v.elements.flatMap fun e => (List.range v.rows).map fun varyingRow =>
        (index, e, varyingRow) := by
  unfold insertedRegisters
  rw [map_flatMap]
  congr 1
  funext e
  rw [map_map]
  rfl

theorem placed_insertedRegisters (registerRow : Nat) (hcolumn : registerColumn + v.columns ≤ 4) :
    Placed index v (insertedRegisters registerRow registerColumn index v) where
  of := fun r hr => by
    obtain ⟨e, -, varyingRow, -, rfl⟩ := mem_insertedRegisters.mp hr
    exact ⟨rfl, rfl⟩
  nodup := by
    rw [insertedRegisters_rows, nodup_flatMap]
    constructor
    · intro e _
      apply nodup_range.map
      intro i j hij
      exact (Prod.mk.inj (Prod.mk.inj hij).2).2
    · apply v.nodup_elements.imp
      intro e e' hne x hx hx'
      obtain ⟨i, -, rfl⟩ := mem_map.mp hx
      obtain ⟨j, -, heq⟩ := mem_map.mp hx'
      exact hne (Prod.mk.inj (Prod.mk.inj heq).2).1.symm
  mem := fun e he varyingRow hrow => by
    rw [insertedRegisters_rows, mem_flatMap]
    exact ⟨e, he, mem_map.mpr ⟨varyingRow, mem_range.mpr hrow, rfl⟩⟩
  column := fun r hr => by
    obtain ⟨e, -, varyingRow, -, rfl⟩ := mem_insertedRegisters.mp hr
    exact hcolumn

variable {bestColumn : Nat}

theorem mem_columnRegisters :
    r ∈ columnRegisters registerRow bestColumn index v ↔ ∃ i < v.fitRows,
      r = { index, packedVarying := v, varyingArrayIndex := v.arrayIndex.getD i
            varyingRowIndex := 0, registerRow := registerRow + i
            registerColumn := bestColumn } := by
  unfold columnRegisters
  simp only [mem_map, mem_range]
  constructor
  · intro ⟨i, hi, heq⟩
    exact ⟨i, hi, heq.symm⟩
  · intro ⟨i, hi, heq⟩
    exact ⟨i, hi, heq.symm⟩

theorem columnRegisters_rows (registerRow bestColumn index : Nat) (v : PackedVarying) :
    (columnRegisters registerRow bestColumn index v).map row =
      (List.range v.fitRows).map fun i => (index, v.arrayIndex.getD i, 0) := by
  unfold columnRegisters
  rw [map_map]
  rfl

theorem placed_columnRegisters (registerRow : Nat) (hcolumns : v.columns = 1)
    (hbest : bestColumn ≤ 3) :
    Placed index v (columnRegisters registerRow bestColumn index v) where
  of := fun r hr => by
    obtain ⟨i, -, rfl⟩ := mem_columnRegisters.mp hr
    exact ⟨rfl, rfl⟩
  nodup := by
    rw [columnRegisters_rows]
    cases hindex : v.arrayIndex with
    | none =>
        apply nodup_range.map
        intro i j hij
        exact (Prod.mk.inj (Prod.mk.inj hij).2).1
    | some k =>
        rw [fitRows_of_some hindex, rows_of_columns hcolumns]
        exact nodup_singleton _
  mem := fun e he varyingRow hrow => by
    rw [mem_elements] at he
    rw [rows_of_columns hcolumns, lt_one_iff] at hrow
    rw [columnRegisters_rows, mem_map, hrow]
    cases hindex : v.arrayIndex with
    | none =>
        refine ⟨e, ?_, rfl⟩
        rw [mem_range, fitRows_of_none hindex,
          rows_of_columns hcolumns, one_mul]
        exact he.1
    | some k =>
      refine ⟨0, ?_, ?_⟩
      · rw [mem_range, fitRows_of_some hindex,
          rows_of_columns hcolumns]
        exact one_pos
      · rw [he.2 k hindex]
        rfl
  column := fun r hr => by
    obtain ⟨i, -, rfl⟩ := mem_columnRegisters.mp hr
    dsimp only
    omega

/-! ## Insertion -/

def inserted (p : VaryingPacking) (rs : List PackedVaryingRegister) : VaryingPacking :=
  { p with
    mRegisterMap := fun row column =>
      p.mRegisterMap row column || rs.any fun r => decide (r.Covers row column)
    mRegisterList := p.mRegisterList ++ rs.filter fun r => !r.packedVarying.isBuiltIn
    builtInRegisters := p.builtInRegisters ++ rs.filter fun r => r.packedVarying.isBuiltIn }

theorem inserted_nil (p : VaryingPacking) : p.inserted [] = p := by
  simp [inserted]

theorem insertRegister_eq (h : r.registerRow < p.size) :
    p.insertRegister r = some (p.inserted [r]) := by
  unfold insertRegister inserted
  rw [if_pos h]
  cases hbuiltIn : r.packedVarying.isBuiltIn with
  | false => simp [hbuiltIn]
  | true => simp [hbuiltIn]

theorem inserted_cons (p : VaryingPacking) (r : PackedVaryingRegister)
    (rs : List PackedVaryingRegister) : (p.inserted [r]).inserted rs = p.inserted (r :: rs) := by
  unfold inserted
  cases hbuiltIn : r.packedVarying.isBuiltIn with
  | false => simp [hbuiltIn, Bool.or_assoc]
  | true => simp [hbuiltIn, Bool.or_assoc]

theorem insert_eq_some (h : ∀ r ∈ rs, r.registerRow < p.size) :
    p.insert rs = some (p.inserted rs) := by
  unfold insert
  induction rs generalizing p with
  | nil => rw [inserted_nil]; rfl
  | cons r rs ih =>
      rw [foldlM_cons, insertRegister_eq (h r mem_cons_self), ← inserted_cons p r rs]
      exact ih fun s hs => h s (mem_cons_of_mem r hs)

theorem insert_eq_none (h : ∃ r ∈ rs, ¬ r.registerRow < p.size) : p.insert rs = none := by
  unfold insert
  induction rs generalizing p with
  | nil => simp at h
  | cons r rs ih =>
    rw [foldlM_cons]
    by_cases hr : r.registerRow < p.size
    · rw [insertRegister_eq hr]
      apply ih
      obtain ⟨s, hs, hout⟩ := h
      rcases mem_cons.mp hs with rfl | hs
      · exact absurd hr hout
      · exact ⟨s, hs, hout⟩
    · unfold insertRegister
      rw [if_neg hr]
      rfl

theorem mem_registers_inserted :
    r ∈ (p.inserted rs).registers ↔ r ∈ p.registers ∨ r ∈ rs := by
  unfold registers inserted
  simp only [mem_append, mem_filter]
  cases hbuiltIn : r.packedVarying.isBuiltIn with
  | false => simp [or_assoc, or_comm]
  | true => simp [or_assoc]

/-! ## Sound packings -/

/-- The registers are inside the register map, those of distinct varyings occupy no cell together,
every row of every varying but the builtins is recorded exactly once, and the register map marks
exactly the cells of the registers. -/
structure Sound (packedVaryings : List PackedVarying) (p : VaryingPacking) : Prop where
  of : ∀ r ∈ p.registers, packedVaryings[r.index]? = some r.packedVarying
  recorded : ∀ r ∈ p.mRegisterList, r.packedVarying.isBuiltIn = false
  inside : ∀ r ∈ p.registers,
    r.registerRow < p.size ∧ r.registerColumn + r.packedVarying.columns ≤ 4
  disjoint : ∀ r ∈ p.registers, ∀ s ∈ p.registers, r.index ≠ s.index →
    ∀ row column, r.Covers row column → ¬ s.Covers row column
  once : ∀ index v, packedVaryings[index]? = some v → v.isBuiltIn = false →
    ∀ e ∈ v.elements, ∀ varyingRow < v.rows,
      (p.mRegisterList.map row).count (index, e, varyingRow) = 1
  map : ∀ row column, p.mRegisterMap row column ↔ ∃ r ∈ p.registers, r.Covers row column

theorem sound_initial (maxVaryingVectors : UInt32) : Sound [] (initial maxVaryingVectors) where
  of := fun r hr => by simp [registers, initial] at hr
  recorded := fun r hr => by simp [initial] at hr
  inside := fun r hr => by simp [registers, initial] at hr
  disjoint := fun r hr => by simp [registers, initial] at hr
  once := fun index v h => by simp at h
  map := fun row column => by simp [registers, initial]

/-- The cells of the registers are in the register map and not marked. -/
def Free (p : VaryingPacking) (rs : List PackedVaryingRegister) : Prop :=
  ∀ r ∈ rs, r.registerRow < p.size ∧
    ∀ row column, r.Covers row column → p.mRegisterMap row column = false

/-- Registers of distinct varyings occupy a cell together. -/
def Overlaps (p : VaryingPacking) : Prop :=
  ∃ r ∈ p.registers, ∃ s ∈ p.registers, r.index ≠ s.index ∧
    ∃ row column, r.Covers row column ∧ s.Covers row column

variable {done : List PackedVarying}

theorem Sound.not_overlaps (h : Sound done p) : ¬ p.Overlaps := by
  intro ⟨r, hr, s, hs, hne, row, column, hcover, hcover'⟩
  exact h.disjoint r hr s hs hne row column hcover hcover'

theorem Overlaps.inserted (h : p.Overlaps) (rs : List PackedVaryingRegister) :
    (p.inserted rs).Overlaps := by
  obtain ⟨r, hr, s, hs, hrest⟩ := h
  exact ⟨r, mem_registers_inserted.mpr (.inl hr), s, mem_registers_inserted.mpr (.inl hs), hrest⟩

theorem Sound.index_lt (h : Sound done p) (hr : r ∈ p.registers) :
    r.index < done.length :=
  (List.getElem?_eq_some_iff.mp (h.of r hr)).1

theorem once_of_lt (hplaced : Placed done.length v rs) {i e varyingRow : Nat}
    (hlt : i < done.length) (honce : (p.mRegisterList.map row).count (i, e, varyingRow) = 1) :
    ((p.inserted rs).mRegisterList.map row).count (i, e, varyingRow) = 1 := by
  unfold inserted
  rw [map_append, count_append, honce, count_eq_zero.mpr]
  intro hmem
  obtain ⟨r, hr, heq⟩ := mem_map.mp hmem
  have hindex := (hplaced.of r (mem_filter.mp hr).1).1
  have hrow : r.index = i := (Prod.mk.inj heq).1
  omega

theorem once_of_eq (h : Sound done p) (hplaced : Placed done.length v rs)
    (hbuiltIn : v.isBuiltIn = false) {e varyingRow : Nat} (he : e ∈ v.elements)
    (hrow : varyingRow < v.rows) :
    ((p.inserted rs).mRegisterList.map row).count (done.length, e, varyingRow) = 1 := by
  have hall : (rs.filter fun r => !r.packedVarying.isBuiltIn) = rs := by
    apply filter_eq_self.mpr
    intro r hr
    rw [(hplaced.of r hr).2, hbuiltIn]
    rfl
  unfold inserted
  rw [hall, map_append, count_append, count_eq_zero.mpr,
    count_eq_one_of_mem hplaced.nodup (hplaced.mem e he varyingRow hrow)]
  intro hmem
  obtain ⟨r, hr, heq⟩ := mem_map.mp hmem
  have hindex : r.index = done.length := (Prod.mk.inj heq).1
  have hlt := h.index_lt (mem_append_left _ hr : r ∈ p.registers)
  omega

theorem Sound.inserted (h : Sound done p) (hplaced : Placed done.length v rs) (hfree : p.Free rs) :
    Sound (done ++ [v]) (p.inserted rs) where
  of := fun r hr => by
    rcases mem_registers_inserted.mp hr with hr | hr
    · rw [getElem?_append_left (h.index_lt hr)]
      exact h.of r hr
    · obtain ⟨hindex, hvarying⟩ := hplaced.of r hr
      rw [hindex, hvarying, getElem?_concat_length]
  recorded := fun r hr => by
    rcases mem_append.mp hr with hr | hr
    · exact h.recorded r hr
    · simpa using (mem_filter.mp hr).2
  inside := fun r hr => by
    rcases mem_registers_inserted.mp hr with hr | hr
    · exact h.inside r hr
    · rw [(hplaced.of r hr).2]
      exact ⟨(hfree r hr).1, hplaced.column r hr⟩
  disjoint := fun r hr s hs hne row column hcover hcover' => by
    have hearlier : ∀ r ∈ p.registers, ∀ s ∈ rs, r.Covers row column → ¬ s.Covers row column := by
      intro r hr s hs hcover hcover'
      have hmarked := (h.map row column).mpr ⟨r, hr, hcover⟩
      rw [(hfree s hs).2 row column hcover'] at hmarked
      contradiction
    rcases mem_registers_inserted.mp hr with hr | hr
    · rcases mem_registers_inserted.mp hs with hs | hs
      · exact h.disjoint r hr s hs hne row column hcover hcover'
      · exact hearlier r hr s hs hcover hcover'
    · rcases mem_registers_inserted.mp hs with hs | hs
      · exact hearlier s hs r hr hcover' hcover
      · exact hne ((hplaced.of r hr).1.trans (hplaced.of s hs).1.symm)
  once := fun i w hw hbuiltIn e he varyingRow hrow => by
    by_cases hlt : i < done.length
    · rw [getElem?_append_left hlt] at hw
      exact once_of_lt hplaced hlt (h.once i w hw hbuiltIn e he varyingRow hrow)
    · have hi : i < (done ++ [v]).length := (List.getElem?_eq_some_iff.mp hw).1
      rw [length_append, length_singleton] at hi
      obtain rfl : i = done.length := by omega
      rw [getElem?_concat_length] at hw
      cases hw
      exact once_of_eq h hplaced hbuiltIn he hrow
  map := fun row column => by
    have hold := h.map row column
    simp only [mem_registers_inserted]
    unfold VaryingPacking.inserted
    simp only [Bool.or_eq_true, any_eq_true, decide_eq_true_eq]
    rw [hold]
    constructor
    · rintro (⟨r, hr, hcover⟩ | ⟨r, hr, hcover⟩)
      · exact ⟨r, .inl hr, hcover⟩
      · exact ⟨r, .inr hr, hcover⟩
    · rintro ⟨r, hr | hr, hcover⟩
      · exact .inl ⟨r, hr, hcover⟩
      · exact .inr ⟨r, hr, hcover⟩

/-! ## The place that the search finds -/

variable {varyingRows : Nat}

theorem isFree_iff {varyingColumns : Nat} :
    p.isFree registerRow registerColumn varyingRows varyingColumns ↔
      ∀ i < varyingRows, ∀ j < varyingColumns,
        p.mRegisterMap (registerRow + i) (registerColumn + j) = false := by
  simp [isFree]

variable {fitColumns : Nat}

theorem findRow_eq_some (hfit : v.fitRows ≤ p.size) (hcolumns : fitColumns ≤ 4)
    (h : p.findRow v fitColumns = some (registerRow, registerColumn)) :
    registerRow + v.fitRows ≤ p.size ∧ registerColumn + fitColumns ≤ 4 ∧
      p.isFree registerRow registerColumn v.fitRows fitColumns := by
  unfold findRow at h
  dsimp only at h
  split at h
  case h_1 row hfind =>
      obtain ⟨rfl, rfl⟩ := Prod.mk.inj (Option.some.inj h)
      have hmem := mem_range.mp (mem_of_find?_eq_some hfind)
      have hfree := find?_some hfind
      exact ⟨by omega, by omega, hfree⟩
  case h_2 =>
      obtain ⟨htwo, h⟩ := Option.ite_none_right_eq_some.mp h
      obtain ⟨row, hfind, heq⟩ := Option.map_eq_some_iff.mp h
      obtain ⟨rfl, rfl⟩ := Prod.mk.inj heq
      have hmem := mem_range.mp (mem_reverse.mp (mem_of_find?_eq_some hfind))
      have hfree := find?_some hfind
      subst htwo
      exact ⟨by omega, by omega, hfree⟩

/-- What is known of a column after the first `n` rows. -/
structure CountedRows (p : VaryingPacking) (column n : Nat) (space : Space) : Prop where
  contiguous_le : space.contiguous ≤ n
  contiguous : ∀ row, n - space.contiguous ≤ row → row < n → p.mRegisterMap row column = false
  best : ∃ first, first + space.bestContiguous ≤ n ∧
    ∀ i < space.bestContiguous, p.mRegisterMap (first + i) column = false

variable {column : Nat}

theorem CountedRows.countRow {n : Nat} {space : Space} (h : CountedRows p column n space) :
    CountedRows p column (n + 1) (p.countRow column space n) := by
  obtain ⟨first, hle, hbest⟩ := h.best
  have hcontiguous := h.contiguous_le
  unfold VaryingPacking.countRow
  split
  case isTrue =>
      refine ⟨zero_le _, ?_, first, by dsimp only; omega, hbest⟩
      intro row hfrom hlt
      dsimp only at hfrom
      omega
  case isFalse hfree =>
      have hrun : ∀ row, n - space.contiguous ≤ row → row < n + 1 →
          p.mRegisterMap row column = false := by
        intro row hfrom hlt
        by_cases hn : row = n
        · rw [hn]
          simpa using hfree
        · exact h.contiguous row hfrom (by omega)
      refine ⟨by dsimp only; omega, ?_, ?_⟩
      · intro row hfrom hlt
        dsimp only at hfrom
        exact hrun row (by omega) hlt
      · dsimp only
        split
        · refine ⟨n - space.contiguous, by omega, ?_⟩
          intro i hi
          exact hrun _ (by omega) (by omega)
        · exact ⟨first, by omega, hbest⟩

theorem countedRows (p : VaryingPacking) (column : Nat) :
    CountedRows p column p.size (p.space column) := by
  have hall : ∀ n, CountedRows p column n ((range n).foldl (p.countRow column)
      { contiguous := 0, bestContiguous := 0, total := 0 }) := by
    intro n
    induction n with
    | zero =>
        refine ⟨le_refl 0, ?_, 0, le_refl 0, ?_⟩
        · intro row _ hlt
          omega
        · intro i hi
          exact absurd hi (not_lt_zero i)
    | succ n ih =>
        rw [range_succ, foldl_append]
        exact ih.countRow
  exact hall p.size

theorem bestColumn_le (p : VaryingPacking) (varyingRows : Nat) : p.bestColumn varyingRows ≤ 3 := by
  have hround : ∀ (c : Prop) [Decidable c] (column best : Nat), column ≤ 3 → best ≤ 3 →
      (if c then column else best) ≤ 3 := by
    intro c _ column best hcolumn hbest
    split
    · exact hcolumn
    · exact hbest
  apply hround
  · omega
  · apply hround
    · omega
    · apply hround
      · omega
      · omega

theorem row_of_find?
    (hbest : (p.space column).bestContiguous ≥ varyingRows)
    (hfind : (List.range p.size).find? (fun row => p.isFree row column varyingRows 1) =
      some registerRow) : registerRow + varyingRows ≤ p.size := by
  obtain ⟨hfree, hmem, hfirst⟩ := find?_range_eq_some.mp hfind
  obtain ⟨first, hle, hrun⟩ := (countedRows p column).best
  by_contra hout
  have hbefore := hfirst first (by omega)
  have hpass : p.isFree first column varyingRows 1 := by
    rw [isFree_iff]
    intro i hi j hj
    obtain rfl : j = 0 := by omega
    exact hrun i (by omega)
  rw [hpass] at hbefore
  contradiction

theorem fitRows_of_find?_none
    (hbest : (p.space column).bestContiguous ≥ varyingRows)
    (hfind : (List.range p.size).find? (fun row => p.isFree row column varyingRows 1) = none) :
    varyingRows = 0 := by
  obtain ⟨first, hle, hrun⟩ := (countedRows p column).best
  by_contra hpos
  have hnot := find?_eq_none.mp hfind first (mem_range.mpr (by omega))
  apply hnot
  rw [isFree_iff]
  intro i hi j hj
  obtain rfl : j = 0 := by omega
  exact hrun i (by omega)

/-! ## Captured array elements -/

/-- The rows that the insertion of a captured element computes are in the register map and free. -/
def ShiftFits (p : VaryingPacking) (v : PackedVarying) (registerRow registerColumn : Nat) : Prop :=
  ∀ k, v.arrayIndex = some k → ∀ varyingRow < v.rows,
    (registerRow + k * v.rows + varyingRow) % 2 ^ 32 < p.size ∧
      ∀ i < v.columns, p.mRegisterMap ((registerRow + k * v.rows + varyingRow) % 2 ^ 32)
        (registerColumn + i) = false

theorem free_insertedRegisters_iff
    (hsize : p.size < 2 ^ 32) (hindex : ∀ k, v.arrayIndex = some k → k < v.basicTypeElementCount)
    (hrows : registerRow + v.fitRows ≤ p.size) (hcolumns : v.columns ≤ fitColumns)
    (hfree : p.isFree registerRow registerColumn v.fitRows fitColumns) :
    p.Free (insertedRegisters registerRow registerColumn index v) ↔
      p.ShiftFits v registerRow registerColumn := by
  rw [isFree_iff] at hfree
  constructor
  · intro h k hk varyingRow hrow
    have he : k ∈ v.elements := by
      rw [mem_elements]
      refine ⟨hindex k hk, ?_⟩
      intro k' hk'
      exact Option.some.inj (hk.symm.trans hk')
    obtain ⟨hin, hcells⟩ := h _ (mem_insertedRegisters.mpr ⟨k, he, varyingRow, hrow, rfl⟩)
    refine ⟨hin, ?_⟩
    intro i hi
    apply hcells
    exact ⟨rfl, Nat.le_add_right _ i, Nat.add_lt_add_left hi _⟩
  · intro h r hr
    obtain ⟨e, he, varyingRow, hrow, rfl⟩ := mem_insertedRegisters.mp hr
    rw [mem_elements] at he
    cases hcaptured : v.arrayIndex with
    | some k =>
      obtain rfl := he.2 k hcaptured
      obtain ⟨hin, hcells⟩ := h e hcaptured varyingRow hrow
      refine ⟨hin, ?_⟩
      rintro row column ⟨rfl, hle, hlt⟩
      obtain ⟨i, rfl⟩ := Nat.exists_eq_add_of_le hle
      exact hcells i (lt_of_add_lt_add_left hlt)
    | none =>
      have hoffset := row_lt_fitRows hcaptured he.1 hrow
      have hmod : (registerRow + e * v.rows + varyingRow) % 2 ^ 32 =
          registerRow + (e * v.rows + varyingRow) := by
        rw [add_assoc, mod_eq_of_lt (by omega)]
      refine ⟨by dsimp only; omega, ?_⟩
      rintro row column ⟨rfl, hle, hlt⟩
      obtain ⟨i, rfl⟩ := Nat.exists_eq_add_of_le hle
      rw [hmod]
      exact hfree _ hoffset i (lt_of_lt_of_le (lt_of_add_lt_add_left hlt) hcolumns)

theorem free_columnRegisters (hone : v.columns = 1) (hrows : registerRow + v.fitRows ≤ p.size)
    (hfree : p.isFree registerRow bestColumn v.fitRows 1) :
    p.Free (columnRegisters registerRow bestColumn index v) := by
  rw [isFree_iff] at hfree
  intro r hr
  obtain ⟨i, hi, rfl⟩ := mem_columnRegisters.mp hr
  refine ⟨by dsimp only; omega, ?_⟩
  rintro row column ⟨rfl, hle, hlt⟩
  dsimp only at hle hlt
  obtain rfl : column = bestColumn := by omega
  exact hfree i hi 0 one_pos

/-- A varying finds no place, or its registers are inserted, and on free cells if and only if the
condition holds. -/
theorem packVarying_cases (hsize : p.size < 2 ^ 32)
    (hindex : ∀ k, v.arrayIndex = some k → k < v.basicTypeElementCount) (mode : PackMode)
    (index : Nat) :
    p.packVarying mode index v = some (false, p) ∨ ∃ rs, Placed index v rs ∧
      p.packVarying mode index v = (p.insert rs).map (true, ·) ∧
      (p.Free rs ↔ ∀ registerRow registerColumn,
        p.place mode v = some (registerRow, registerColumn) →
          p.ShiftFits v registerRow registerColumn) := by
  have hle := v.columns_le_fitColumns mode
  have hfour := v.fitColumns_le mode
  unfold packVarying place
  split
  case isTrue => exact .inl rfl
  case isFalse hfit =>
    split
    case isTrue hmany =>
      rw [if_pos ⟨by omega, hmany.1⟩]
      split
      case h_2 => exact .inl rfl
      case h_1 registerRow registerColumn hfind =>
        obtain ⟨hrows, hcolumns, hfree⟩ := findRow_eq_some (by omega) hfour hfind
        refine .inr ⟨_, placed_insertedRegisters registerRow (by omega), rfl, ?_⟩
        rw [free_insertedRegisters_iff hsize hindex hrows hle hfree, hfind]
        constructor
        · intro h row column heq
          obtain ⟨rfl, rfl⟩ := Prod.mk.inj (Option.some.inj heq)
          exact h
        · intro h
          exact h registerRow registerColumn rfl
    case isFalse hmany =>
      have hone := columns_of_fitColumns hmany
      have hbest := p.bestColumn_le v.fitRows
      have hplace : ¬ (v.fitRows ≤ p.size ∧ 2 ≤ v.fitColumns mode) := by omega
      dsimp only
      split
      case isFalse => exact .inl rfl
      case isTrue hspace =>
        split
        case h_1 registerRow hfind =>
          have hrows := row_of_find? hspace hfind
          have hfree := find?_some hfind
          refine .inr ⟨_, placed_columnRegisters registerRow hone hbest, rfl, ?_⟩
          constructor
          · intro _ row column heq
            contradiction
          · intro _
            exact free_columnRegisters hone hrows hfree
        case h_2 hfind =>
          -- Without rows there is nothing to insert.
          have hzero := fitRows_of_find?_none hspace hfind
          have hnone : columnRegisters 0 (p.bestColumn v.fitRows) index v = [] := by
            unfold columnRegisters
            rw [hzero]
            rfl
          have hplaced : Placed index v (columnRegisters 0 (p.bestColumn v.fitRows) index v) :=
            placed_columnRegisters 0 hone hbest
          rw [hnone] at hplaced
          refine .inr ⟨[], hplaced, rfl, ?_⟩
          constructor
          · intro _ row column heq
            contradiction
          · intro _ r hr
            contradiction

/-! ## All varyings -/

theorem packVarying_cases_inserted (hsize : p.size < 2 ^ 32)
    (hindex : ∀ k, v.arrayIndex = some k → k < v.basicTypeElementCount) {p' : VaryingPacking}
    (h : p.packVarying mode index v = some (true, p')) : ∃ rs, p' = p.inserted rs := by
  rcases packVarying_cases hsize hindex mode index with hfalse | ⟨rs, -, heq, -⟩
  · rw [hfalse] at h
    exact absurd (Prod.mk.inj (Option.some.inj h)).1 (by decide)
  · refine ⟨rs, ?_⟩
    rw [heq] at h
    by_cases hin : ∀ r ∈ rs, r.registerRow < p.size
    · rw [insert_eq_some hin] at h
      exact ((Prod.mk.inj (Option.some.inj h)).2).symm
    · push Not at hin
      rw [insert_eq_none (by simpa using hin)] at h
      contradiction

variable {packedVaryings : List PackedVarying}

theorem Overlaps.packVaryings (h : p.Overlaps) (hsize : p.size < 2 ^ 32)
    (hindex : ∀ v ∈ packedVaryings, ∀ k, v.arrayIndex = some k → k < v.basicTypeElementCount)
    {p' : VaryingPacking} (hpack : p.packVaryings mode index packedVaryings = some (true, p')) :
    p'.Overlaps := by
  induction packedVaryings generalizing p index with
  | nil =>
      obtain rfl := (Prod.mk.inj (Option.some.inj hpack)).2
      exact h
  | cons v packedVaryings ih =>
    unfold VaryingPacking.packVaryings at hpack
    split at hpack
    case h_1 => contradiction
    case h_2 => exact absurd (Prod.mk.inj (Option.some.inj hpack)).1 (by decide)
    case h_3 q hv =>
      obtain ⟨rs, rfl⟩ := packVarying_cases_inserted hsize (hindex v mem_cons_self) hv
      exact ih (h.inserted rs) hsize (fun w hw => hindex w (mem_cons_of_mem v hw)) hpack

theorem Sound.perm (h : Sound packedVaryings p)
    {list : List PackedVaryingRegister} (hperm : p.mRegisterList.Perm list) :
    Sound packedVaryings { p with mRegisterList := list } := by
  have hmem : ∀ r, r ∈ ({ p with mRegisterList := list } : VaryingPacking).registers ↔
      r ∈ p.registers := by
    intro r
    unfold registers
    rw [mem_append, mem_append, hperm.mem_iff]
  constructor
  · intro r hr
    exact h.of r ((hmem r).mp hr)
  · intro r hr
    exact h.recorded r (hperm.mem_iff.mpr hr)
  · intro r hr
    exact h.inside r ((hmem r).mp hr)
  · intro r hr s hs
    exact h.disjoint r ((hmem r).mp hr) s ((hmem s).mp hs)
  · intro index v hv hbuiltIn e he varyingRow hrow
    rw [← (hperm.map row).count_eq]
    exact h.once index v hv hbuiltIn e he varyingRow hrow
  · intro row column
    simp only [hmem]
    exact h.map row column

end VaryingPacking

end MetalAngle.Gl
