import Mathlib.Data.List.Nodup
import Mathlib.Data.List.Range
import Mathlib.Tactic.Linarith
import Mathlib.Tactic.Ring

/-!
# Transfers between two memories

A program that moves data from one memory to another makes a list of transfers: plain copies of
bytes, and conversions of single items.  A byte that a single transfer writes holds afterwards what
that transfer makes of the source, and a byte that none writes is unchanged.  For a grid of items,
with rows a pitch apart, this says when a list of transfers moves every item once and touches
nothing else.
-/

inductive Transfer where
  | copy (dest source : Int) (bytes : Nat)
  | convert (dest : Int) (destBytes : Nat) (source : Int) (sourceBytes : Nat)
      (f : List UInt8 → List UInt8)

namespace Transfer

def dest : Transfer → Int
  | copy d _ _ => d
  | convert d _ _ _ _ => d

def destBytes : Transfer → Nat
  | copy _ _ n => n
  | convert _ n _ _ _ => n

def source : Transfer → Int
  | copy _ s _ => s
  | convert _ _ s _ _ => s

def sourceBytes : Transfer → Nat
  | copy _ _ n => n
  | convert _ _ _ n _ => n

def Writes (t : Transfer) (a : Int) : Prop := t.dest ≤ a ∧ a < t.dest + t.destBytes

def Reads (t : Transfer) (a : Int) : Prop := t.source ≤ a ∧ a < t.source + t.sourceBytes

instance (t : Transfer) (a : Int) : Decidable (t.Writes a) :=
  inferInstanceAs (Decidable (t.dest ≤ a ∧ a < t.dest + t.destBytes))

def bytesAt (memory : Int → UInt8) (address : Int) (count : Nat) : List UInt8 :=
  (List.range count).map fun k : Nat => memory (address + k)

def content (source : Int → UInt8) : Transfer → List UInt8
  | copy _ s n => bytesAt source s n
  | convert _ _ s n f => f (bytesAt source s n)

def apply (source memory : Int → UInt8) (t : Transfer) : Int → UInt8 := fun a =>
  if t.Writes a then ((t.content source)[(a - t.dest).toNat]?).getD (memory a) else memory a

def run (source : Int → UInt8) (transfers : List Transfer) (memory : Int → UInt8) : Int → UInt8 :=
  transfers.foldl (apply source) memory

variable {source memory : Int → UInt8} {transfers : List Transfer} {t : Transfer} {a : Int}

theorem getElem?_bytesAt {address : Int} {count k : Nat} (hk : k < count) :
    (bytesAt memory address count)[k]? = some (memory (address + k)) := by
  unfold bytesAt
  rw [List.getElem?_map, List.getElem?_range hk]
  rfl

theorem length_bytesAt (memory : Int → UInt8) (address : Int) (count : Nat) :
    (bytesAt memory address count).length = count := by
  unfold bytesAt
  rw [List.length_map, List.length_range]

theorem run_of_not_written (h : ∀ t ∈ transfers, ¬ t.Writes a) :
    run source transfers memory a = memory a := by
  induction transfers generalizing memory with
  | nil => rfl
  | cons t transfers ih =>
      have hfirst : apply source memory t a = memory a := if_neg (h t List.mem_cons_self)
      rw [← hfirst]
      exact ih fun later hmem => h later (List.mem_cons_of_mem _ hmem)

/-- A byte that only one transfer writes holds what that transfer stores. -/
theorem run_of_filter_eq (h : transfers.filter (fun t => t.Writes a) = [t]) :
    run source transfers memory a = ((t.content source)[(a - t.dest).toNat]?).getD (memory a) := by
  obtain ⟨before, after, rfl, hbefore, hwrites, hafter⟩ := List.filter_eq_cons_iff.mp h
  rw [List.filter_eq_nil_iff] at hafter
  have hlast : run source after (apply source (run source before memory) t) a =
      apply source (run source before memory) t a :=
    run_of_not_written fun later hmem => by simpa using hafter later hmem
  have hfirst : run source before memory a = memory a :=
    run_of_not_written fun earlier hmem => by simpa using hbefore earlier hmem
  calc run source (before ++ t :: after) memory a
    _ = run source after (apply source (run source before memory) t) a := by
        rw [run, List.foldl_append, List.foldl_cons]
        rfl
    _ = apply source (run source before memory) t a := hlast
    _ = ((t.content source)[(a - t.dest).toNat]?).getD (memory a) := by
        rw [apply, if_pos (of_decide_eq_true hwrites), hfirst]

/-- The item of `size` bytes at `d` is made of the item at `s`. -/
def Carries (size : Nat) (d s : Int) : Transfer → Prop
  | copy dest source bytes => dest ≤ d ∧ d + size ≤ dest + bytes ∧ source + (d - dest) = s
  | convert dest _ source _ _ => dest = d ∧ source = s

end Transfer

/-! ## Grids -/

structure Grid where
  origin : Int
  pitch : Int
  itemBytes : Nat
  width : Nat
  height : Nat

namespace Grid

def item (grid : Grid) (x y : Nat) : Int := grid.origin + y * grid.pitch + x * grid.itemBytes

def Contains (grid : Grid) (a : Int) : Prop :=
  ∃ x < grid.width, ∃ y < grid.height, ∃ k < grid.itemBytes, a = grid.item x y + k

variable {grid : Grid} {x x' y y' : Nat}

/-- The parts of a position in pieces of one length are determined by it. -/
theorem piece_unique (length : Int) {r r' : Int} {n n' : Nat} (hr : 0 ≤ r ∧ r < length)
    (hr' : 0 ≤ r' ∧ r' < length) (h : n * length + r = n' * length + r') : n = n' ∧ r = r' := by
  have hle : ∀ {m m' : Nat}, m < m' → (m * length + length ≤ m' * length) := by
    intro m m' hlt
    calc (m : Int) * length + length
      _ = (m + 1) * length := by ring
      _ ≤ m' * length := Int.mul_le_mul_of_nonneg_right (by omega) (by omega)
  rcases Nat.lt_trichotomy n n' with hlt | rfl | hlt
  · have := hle hlt
    omega
  · exact ⟨rfl, by omega⟩
  · have := hle hlt
    omega

/-- An item and what follows it in the row lie within the row. -/
theorem item_offset_le (hx : x < grid.width) :
    (x * grid.itemBytes : Int) + grid.itemBytes ≤ grid.width * grid.itemBytes :=
  calc (x * grid.itemBytes : Int) + grid.itemBytes
    _ = (x + 1) * grid.itemBytes := by ring
    _ ≤ grid.width * grid.itemBytes := Int.mul_le_mul_of_nonneg_right (by omega) (by omega)

theorem row_unique {r r' : Int} (hpitch : grid.width * grid.itemBytes ≤ grid.pitch)
    (hr : 0 ≤ r ∧ r < grid.width * grid.itemBytes) (hr' : 0 ≤ r' ∧ r' < grid.width * grid.itemBytes)
    (h : grid.origin + y * grid.pitch + r = grid.origin + y' * grid.pitch + r') : y = y' ∧ r = r' :=
  piece_unique grid.pitch (by omega) (by omega) (by omega)

/-- A list of transfers makes every item of a grid once, of the item at the same column of the row
that `row` gives, and neither writes nor reads a byte outside the grids. -/
structure MovedBy (dst src : Grid) (row : Nat → Nat) (f : List UInt8 → List UInt8)
    (transfers : List Transfer) : Prop where
  once : ∀ x < dst.width, ∀ y < dst.height,
    ∃ t ∈ transfers, t.Carries dst.itemBytes (dst.item x y) (src.item x (row y)) ∧
      ∀ k < dst.itemBytes, transfers.filter (fun t => t.Writes (dst.item x y + k)) = [t]
  contents : ∀ source memory, ∀ x < dst.width, ∀ y < dst.height, ∀ k < dst.itemBytes,
    (f (Transfer.bytesAt source (src.item x (row y)) src.itemBytes))[k]? =
      some (Transfer.run source transfers memory (dst.item x y + k))
  writes : ∀ t ∈ transfers, ∀ a, t.Writes a → dst.Contains a
  reads : ∀ t ∈ transfers, ∀ a, t.Reads a → src.Contains a

theorem movedBy_of_empty {dst src : Grid} {row : Nat → Nat} {f : List UInt8 → List UInt8}
    {transfers : List Transfer} (hempty : dst.width = 0 ∨ dst.height = 0)
    (hnone : ∀ t ∈ transfers, t.destBytes = 0 ∧ t.sourceBytes = 0) :
    MovedBy dst src row f transfers where
  once := by omega
  contents := by omega
  writes t ht a ha := by
    have := (hnone t ht).1
    unfold Transfer.Writes at ha
    omega
  reads t ht a ha := by
    have := (hnone t ht).2
    unfold Transfer.Reads at ha
    omega

/-- A filter that only one member of a list without repetitions meets. -/
theorem filter_map_eq_singleton {ι : Type*} [DecidableEq ι] {l : List ι} {g : ι → Transfer}
    {p : Transfer → Bool} {i : ι} (hnodup : l.Nodup) (hmem : i ∈ l)
    (h : ∀ j ∈ l, p (g j) ↔ j = i) : (l.map g).filter p = [g i] := by
  have hfilter : l.filter (p ∘ g) = l.filter (· = i) := by
    apply List.filter_congr
    intro j hj
    rw [Bool.eq_iff_iff, decide_eq_true_iff]
    exact h j hj
  rw [List.filter_map, hfilter, List.filter_eq, List.count_eq_one_of_mem hnodup hmem]
  rfl

section Rows

variable {dst src : Grid} {row : Nat → Nat}

def rowCopy (dst src : Grid) (row : Nat → Nat) (y : Nat) : Transfer :=
  .copy (dst.item 0 y) (src.item 0 (row y)) (dst.width * dst.itemBytes)

theorem item_eq (grid : Grid) (x y : Nat) : grid.item x y = grid.item 0 y + x * grid.itemBytes := by
  unfold item
  rw [Int.natCast_zero, Int.zero_mul, Int.add_zero]

theorem contains_of_row (grid : Grid) {r : Int} (hy : y < grid.height)
    (hr : 0 ≤ r ∧ r < grid.width * grid.itemBytes) : grid.Contains (grid.item 0 y + r) := by
  have hpos : 0 < (grid.itemBytes : Int) := by
    rcases Nat.eq_zero_or_pos grid.itemBytes with hzero | hpos
    · rw [hzero, Int.natCast_zero, Int.mul_zero] at hr
      omega
    · omega
  refine ⟨(r / grid.itemBytes).toNat, ?_, y, hy, (r % grid.itemBytes).toNat, ?_, ?_⟩
  · have hquotient := Int.ediv_nonneg hr.1 hpos.le
    have := Int.ediv_lt_of_lt_mul hpos hr.2
    omega
  · have := Int.emod_lt_of_pos r hpos
    omega
  · have hquotient := Int.ediv_nonneg hr.1 hpos.le
    have hremainder := Int.emod_nonneg r hpos.ne'
    rw [item_eq grid (r / _).toNat, Int.toNat_of_nonneg hquotient,
      Int.toNat_of_nonneg hremainder, Int.add_assoc, Int.mul_comm, Int.mul_ediv_add_emod]

theorem rowCopy_writes_iff {k : Nat} (hpitch : dst.width * dst.itemBytes ≤ dst.pitch)
    (hx : x < dst.width) (hk : k < dst.itemBytes) :
    (rowCopy dst src row y').Writes (dst.item x y + k) ↔ y' = y := by
  have hoffset := item_offset_le hx
  have hstart : (0 : Int) ≤ x * dst.itemBytes := Int.mul_nonneg (by omega) (by omega)
  have hitem : dst.item x y = dst.item 0 y + x * dst.itemBytes := item_eq dst x y
  show (dst.item 0 y' ≤ _ ∧ _ < dst.item 0 y' + ((dst.width * dst.itemBytes : Nat) : Int)) ↔ _
  rw [Int.natCast_mul, hitem]
  constructor
  · intro h
    have hsame : dst.origin + y' * dst.pitch + (dst.item x y + k - dst.item 0 y') =
        dst.origin + y * dst.pitch + (x * dst.itemBytes + k) := by
      simp only [item]
      ring
    exact (row_unique hpitch (by omega) (by omega) hsame).1
  · rintro rfl
    omega

/-- Copies of the rows, each as long as the row, move the grid. -/
theorem movedBy_rows (hwidth : dst.width = src.width) (hbytes : dst.itemBytes = src.itemBytes)
    (hpitch : dst.width * dst.itemBytes ≤ dst.pitch) (hrow : ∀ y < dst.height, row y < src.height) :
    MovedBy dst src row id ((List.range dst.height).map (rowCopy dst src row)) := by
  have honce : ∀ x < dst.width, ∀ y < dst.height, ∀ k < dst.itemBytes,
      ((List.range dst.height).map (rowCopy dst src row)).filter
        (fun t => t.Writes (dst.item x y + k)) = [rowCopy dst src row y] := by
    intro x hx y hy k hk
    apply filter_map_eq_singleton List.nodup_range (List.mem_range.mpr hy)
    intro y' _
    rw [decide_eq_true_iff]
    exact rowCopy_writes_iff hpitch hx hk
  refine ⟨fun x hx y hy => ⟨rowCopy dst src row y, ?_, ?_, honce x hx y hy⟩, ?_, ?_, ?_⟩
  · exact List.mem_map_of_mem (List.mem_range.mpr hy)
  · have hoffset := item_offset_le hx
    have hstart : (0 : Int) ≤ x * dst.itemBytes := Int.mul_nonneg (by omega) (by omega)
    show _ ≤ _ ∧ _ ≤ _ + ((dst.width * dst.itemBytes : Nat) : Int) ∧ _ = _
    rw [Int.natCast_mul, item_eq dst x y, item_eq src x (row y), ← hbytes]
    omega
  · intro source memory x hx y hy k hk
    have hoffset := item_offset_le hx
    have hstart : (0 : Int) ≤ x * dst.itemBytes := Int.mul_nonneg (by omega) (by omega)
    have hitem := item_eq dst x y
    have hindex : (dst.item x y + k - dst.item 0 y).toNat = x * dst.itemBytes + k := by
      have : ((x * dst.itemBytes : Nat) : Int) = x * dst.itemBytes := Int.natCast_mul _ _
      omega
    have hlt : x * dst.itemBytes + k < dst.width * dst.itemBytes := by
      have h : ((x * dst.itemBytes + k : Nat) : Int) < (dst.width * dst.itemBytes : Nat) := by
        push_cast
        omega
      exact Int.ofNat_lt.mp h
    rw [Transfer.run_of_filter_eq (honce x hx y hy k hk), id, Transfer.getElem?_bytesAt (by omega)]
    show _ = some (((Transfer.bytesAt source _ _)[(dst.item x y + k - dst.item 0 y).toNat]?).getD _)
    rw [hindex, Transfer.getElem?_bytesAt hlt, Option.getD_some, item_eq src, ← hbytes]
    push_cast
    rw [Int.add_assoc]
  · intro t ht a ha
    obtain ⟨y, hy, rfl⟩ := List.mem_map.mp ht
    have hrange : dst.item 0 y ≤ a ∧ a < dst.item 0 y + ((dst.width * dst.itemBytes : Nat) : Int) :=
      ha
    rw [Int.natCast_mul] at hrange
    have := contains_of_row dst (r := a - dst.item 0 y) (List.mem_range.mp hy) (by omega)
    rwa [add_sub_cancel] at this
  · intro t ht a ha
    obtain ⟨y, hy, rfl⟩ := List.mem_map.mp ht
    have hrange : src.item 0 (row y) ≤ a ∧
        a < src.item 0 (row y) + ((dst.width * dst.itemBytes : Nat) : Int) := ha
    rw [Int.natCast_mul, hwidth, hbytes] at hrange
    have := contains_of_row src (r := a - src.item 0 (row y))
      (hrow y (List.mem_range.mp hy)) (by omega)
    rwa [add_sub_cancel] at this

end Rows

section Items

variable {dst src : Grid} {row : Nat → Nat} {f : List UInt8 → List UInt8}

def cells (width height : Nat) : List (Nat × Nat) :=
  (List.range height).flatMap fun y => (List.range width).map fun x => (x, y)

theorem mem_cells {width height : Nat} {cell : Nat × Nat} :
    cell ∈ cells width height ↔ cell.1 < width ∧ cell.2 < height := by
  unfold cells
  rw [List.mem_flatMap]
  constructor
  · rintro ⟨y, hy, hcell⟩
    obtain ⟨x, hx, rfl⟩ := List.mem_map.mp hcell
    exact ⟨List.mem_range.mp hx, List.mem_range.mp hy⟩
  · intro h
    exact ⟨cell.2, List.mem_range.mpr h.2, List.mem_map.mpr ⟨cell.1, List.mem_range.mpr h.1, rfl⟩⟩

theorem nodup_cells (width height : Nat) : (cells width height).Nodup := by
  unfold cells
  rw [List.nodup_flatMap]
  constructor
  · intro y _
    exact List.nodup_range.map fun x x' h => congrArg Prod.fst h
  · apply List.nodup_range.imp
    intro y y' hne
    apply List.disjoint_left.mpr
    intro cell hcell hcell'
    obtain ⟨x, -, rfl⟩ := List.mem_map.mp hcell
    obtain ⟨x', -, hsame⟩ := List.mem_map.mp hcell'
    exact hne (congrArg Prod.snd hsame).symm

def itemConvert (dst src : Grid) (row : Nat → Nat) (f : List UInt8 → List UInt8)
    (cell : Nat × Nat) : Transfer :=
  .convert (dst.item cell.1 cell.2) dst.itemBytes (src.item cell.1 (row cell.2)) src.itemBytes f

theorem itemConvert_writes_iff {cell : Nat × Nat} {k : Nat}
    (hpitch : dst.width * dst.itemBytes ≤ dst.pitch) (hcell : cell.1 < dst.width)
    (hx : x < dst.width) (hk : k < dst.itemBytes) :
    (itemConvert dst src row f cell).Writes (dst.item x y + k) ↔ cell = (x, y) := by
  show (dst.item cell.1 cell.2 ≤ _ ∧ _ < dst.item cell.1 cell.2 + (dst.itemBytes : Int)) ↔ _
  constructor
  · intro h
    have hoffset := item_offset_le hx
    have hoffset' := item_offset_le hcell
    have hstart : (0 : Int) ≤ x * dst.itemBytes := Int.mul_nonneg (by omega) (by omega)
    have hstart' : (0 : Int) ≤ cell.1 * dst.itemBytes := Int.mul_nonneg (by omega) (by omega)
    have hitem := item_eq dst x y
    have hitem' := item_eq dst cell.1 cell.2
    have hsame : dst.origin + cell.2 * dst.pitch +
        (cell.1 * dst.itemBytes + (dst.item x y + k - dst.item cell.1 cell.2)) =
          dst.origin + y * dst.pitch + (x * dst.itemBytes + k) := by
      simp only [item]
      ring
    obtain ⟨hy, hoffsets⟩ := row_unique hpitch (by omega) (by omega) hsame
    exact Prod.ext (piece_unique dst.itemBytes (by omega) (by omega) hoffsets).1 hy
  · rintro rfl
    show dst.item x y ≤ _ ∧ _ < dst.item x y + (dst.itemBytes : Int)
    omega

theorem movedBy_items (hwidth : dst.width = src.width)
    (hpitch : dst.width * dst.itemBytes ≤ dst.pitch) (hrow : ∀ y < dst.height, row y < src.height)
    (hlength : ∀ bytes, bytes.length = src.itemBytes → (f bytes).length = dst.itemBytes) :
    MovedBy dst src row f ((cells dst.width dst.height).map (itemConvert dst src row f)) := by
  have honce : ∀ x < dst.width, ∀ y < dst.height, ∀ k < dst.itemBytes,
      ((cells dst.width dst.height).map (itemConvert dst src row f)).filter
        (fun t => t.Writes (dst.item x y + k)) = [itemConvert dst src row f (x, y)] := by
    intro x hx y hy k hk
    apply filter_map_eq_singleton (nodup_cells _ _) (mem_cells.mpr ⟨hx, hy⟩)
    intro cell hcell
    rw [decide_eq_true_iff]
    exact itemConvert_writes_iff hpitch (mem_cells.mp hcell).1 hx hk
  refine ⟨fun x hx y hy => ⟨itemConvert dst src row f (x, y), ?_, ⟨rfl, rfl⟩, honce x hx y hy⟩,
    ?_, ?_, ?_⟩
  · exact List.mem_map_of_mem (mem_cells.mpr ⟨hx, hy⟩)
  · intro source memory x hx y hy k hk
    have hbytes := hlength _ (Transfer.length_bytesAt source (src.item x (row y)) src.itemBytes)
    have hindex : (dst.item x y + k - dst.item x y).toNat = k := by omega
    rw [Transfer.run_of_filter_eq (honce x hx y hy k hk)]
    show _ =
      some (((f (Transfer.bytesAt source _ _))[(dst.item x y + k - dst.item x y).toNat]?).getD _)
    rw [hindex, List.getElem?_eq_getElem (hbytes ▸ hk), Option.getD_some]
  · intro t ht a ha
    obtain ⟨cell, hcell, rfl⟩ := List.mem_map.mp ht
    have hrange : dst.item cell.1 cell.2 ≤ a ∧ a < dst.item cell.1 cell.2 + dst.itemBytes := ha
    refine ⟨cell.1, (mem_cells.mp hcell).1, cell.2, (mem_cells.mp hcell).2,
      (a - dst.item cell.1 cell.2).toNat, by omega, by omega⟩
  · intro t ht a ha
    obtain ⟨cell, hcell, rfl⟩ := List.mem_map.mp ht
    have hrange : src.item cell.1 (row cell.2) ≤ a ∧
        a < src.item cell.1 (row cell.2) + src.itemBytes := ha
    refine ⟨cell.1, hwidth ▸ (mem_cells.mp hcell).1, row cell.2, hrow _ (mem_cells.mp hcell).2,
      (a - src.item cell.1 (row cell.2)).toNat, by omega, by omega⟩

end Items

end Grid
