import MetalAngle.Gl.Rectangle
import MetalAngle.Lib.GridTransfer

/-!
# Packing pixels

`PackPixels` copies a rectangle of pixels between two images in memory.  Pixels of one format are
copied a row at a time, others one by one, through a function for the pair of formats or through a
color.  The offsets of the rows are products of 32-bit numbers: those of the source are signed, and
their overflow is taken to wrap around; those of the destination are unsigned.
-/

namespace MetalAngle.Renderer

open Int Grid List
open Gl (Rectangle)

/-- A `PixelCopyFunction`, as the bytes that it makes of those of a source pixel. -/
abbrev PixelCopyFunction := List UInt8 → List UInt8

/-- The rows of `gFormatInfoTable` that packing uses. -/
structure FormatTable (FormatID Color : Type) where
  pixelBytes : FormatID → UInt32
  fastCopyFunctions : FormatID → List (FormatID × PixelCopyFunction)
  pixelReadFunction : FormatID → List UInt8 → Color
  pixelWriteFunction : FormatID → Color → List UInt8
  length_fastCopy : ∀ source, ∀ entry ∈ fastCopyFunctions source, ∀ bytes : List UInt8,
    bytes.length = (pixelBytes source).toNat →
      (entry.2 bytes).length = (pixelBytes entry.1).toNat
  length_pixelWrite : ∀ dest color, (pixelWriteFunction dest color).length = (pixelBytes dest).toNat

structure PackPixelsParams (FormatID : Type) where
  area : Rectangle
  destFormat : FormatID
  outputPitch : UInt32
  reverseRowOrder : Bool
  offset : Int

variable {FormatID Color : Type}

/-- `FastCopyFunctionMap::get`. -/
def FormatTable.getFastCopy [DecidableEq FormatID] (formats : FormatTable FormatID Color)
    (source dest : FormatID) : Option PixelCopyFunction :=
  ((formats.fastCopyFunctions source).find? fun entry => entry.1 = dest).map Prod.snd

/-- `for (int i = 0; i < end; ++i)`. -/
def counts (last : Int32) : List Nat := List.range last.toInt.toNat

/-- `PackPixels`, as the transfers from the memory at `sourceIn` to that at `destWithoutOffset`. -/
def packPixels [DecidableEq FormatID] (formats : FormatTable FormatID Color)
    (params : PackPixelsParams FormatID) (sourceFormat : FormatID) (inputPitchIn : Int32) :
    List Transfer :=
  let destWithOffset := params.offset
  let area := params.area
  let source : Int :=
    if params.reverseRowOrder then (inputPitchIn * (area.height - 1)).toInt else 0
  let inputPitch := if params.reverseRowOrder then -inputPitchIn else inputPitchIn
  let sourceBytes := formats.pixelBytes sourceFormat
  let destBytes := formats.pixelBytes params.destFormat
  if sourceFormat = params.destFormat then
    (counts area.height).map fun y =>
      .copy (destWithOffset + (UInt32.ofNat y * params.outputPitch).toNat)
        (source + (Int32.ofNat y * inputPitch).toInt)
        (area.width.toUInt32 * sourceBytes).toNat
  else
    let pixels (copyPixel : PixelCopyFunction) :=
      (counts area.height).flatMap fun y => (counts area.width).map fun x =>
        Transfer.convert
          (destWithOffset + (UInt32.ofNat y * params.outputPitch).toNat +
            (UInt32.ofNat x * destBytes).toNat) destBytes.toNat
          (source + (Int32.ofNat y * inputPitch).toInt + (UInt32.ofNat x * sourceBytes).toNat)
          sourceBytes.toNat copyPixel
    match formats.getFastCopy sourceFormat params.destFormat with
    | some fastCopyFunc => pixels fastCopyFunc
    | none => pixels fun src =>
        formats.pixelWriteFunction params.destFormat (formats.pixelReadFunction sourceFormat src)

/-! ## The two images -/

def FormatTable.convertPixel [DecidableEq FormatID] (formats : FormatTable FormatID Color)
    (source dest : FormatID) : PixelCopyFunction :=
  if source = dest then id
  else
    match formats.getFastCopy source dest with
    | some fastCopyFunc => fastCopyFunc
    | none => fun src => formats.pixelWriteFunction dest (formats.pixelReadFunction source src)

theorem FormatTable.length_convertPixel [DecidableEq FormatID]
    (formats : FormatTable FormatID Color) (source dest : FormatID) (bytes : List UInt8)
    (hlength : bytes.length = (formats.pixelBytes source).toNat) :
    (formats.convertPixel source dest bytes).length = (formats.pixelBytes dest).toNat := by
  unfold convertPixel
  split
  · rename_i hsame
    rwa [← hsame]
  · cases hfast : formats.getFastCopy source dest with
    | none => exact formats.length_pixelWrite dest _
    | some fastCopyFunc =>
      obtain ⟨entry, hfind, rfl⟩ := Option.map_eq_some_iff.mp hfast
      have hdest := find?_some hfind
      rw [decide_eq_true_iff] at hdest
      rw [← hdest]
      exact formats.length_fastCopy source entry (mem_of_find?_eq_some hfind) bytes hlength

namespace PackPixelsParams

variable (params : PackPixelsParams FormatID) (formats : FormatTable FormatID Color)
  (sourceFormat : FormatID) (inputPitch : Int32)

def destImage : Grid where
  origin := params.offset
  pitch := params.outputPitch.toNat
  itemBytes := (formats.pixelBytes params.destFormat).toNat
  width := params.area.width.toInt.toNat
  height := params.area.height.toInt.toNat

def sourceImage : Grid where
  origin := 0
  pitch := inputPitch.toInt
  itemBytes := (formats.pixelBytes sourceFormat).toNat
  width := params.area.width.toInt.toNat
  height := params.area.height.toInt.toNat

def sourceRow (y : Nat) : Nat :=
  if params.reverseRowOrder then params.area.height.toInt.toNat - 1 - y else y

/-- Packing writes every destination pixel once, from its source pixel, and stays in the images. -/
def PacksExactly [DecidableEq FormatID] : Prop :=
  Grid.MovedBy (params.destImage formats) (params.sourceImage formats sourceFormat inputPitch)
    params.sourceRow (formats.convertPixel sourceFormat params.destFormat)
    (packPixels formats params sourceFormat inputPitch)

/-- The images that packing is called for: the area is not negative and at most 16384 wide and high,
pixels have at most 16 bytes, and the pitches are at least a row and fit in a signed number. -/
structure Valid : Prop where
  width : 0 ≤ params.area.width.toInt ∧ params.area.width.toInt ≤ 16384
  height : 0 ≤ params.area.height.toInt ∧ params.area.height.toInt ≤ 16384
  sourceBytes : (formats.pixelBytes sourceFormat).toNat ≤ 16
  destBytes : (formats.pixelBytes params.destFormat).toNat ≤ 16
  inputPitch : params.area.width.toInt * (formats.pixelBytes sourceFormat).toNat ≤ inputPitch.toInt
  outputPitch :
    params.area.width.toInt * (formats.pixelBytes params.destFormat).toNat ≤
      params.outputPitch.toNat
  outputPitch_lt : params.outputPitch.toNat < 2 ^ 31

end PackPixelsParams

namespace PackPixelsParams

variable {params : PackPixelsParams FormatID} {formats : FormatTable FormatID Color}
  {sourceFormat : FormatID} {inputPitch : Int32}

/-! ## Products of 32-bit numbers -/

theorem toNat_ofNat_mul (n : Nat) (m : UInt32) :
    (UInt32.ofNat n * m).toNat = n * m.toNat % 2 ^ 32 := by
  rw [UInt32.toNat_mul, UInt32.toNat_ofNat', Nat.mod_mul_mod]

theorem toInt_ofNat_mul (n : Nat) (m : Int32) :
    (Int32.ofNat n * m).toInt = (n * m.toInt).bmod (2 ^ 32) := by
  rw [Int32.toInt_mul, Int32.toInt_ofNat', bmod_mul_bmod]
  rfl

theorem toNat_ofNat_mul_of_le {n : Nat} {m : UInt32} (hle : n ≤ 16384) (hm : m.toNat ≤ 16) :
    (UInt32.ofNat n * m).toNat = n * m.toNat := by
  rw [toNat_ofNat_mul, Nat.mod_eq_of_lt]
  calc n * m.toNat
    _ ≤ 16384 * 16 := Nat.mul_le_mul hle hm
    _ < 2 ^ 32 := by decide

theorem ofNat_toNat {n : Int32} (hle : 0 ≤ n.toInt) : Int32.ofNat n.toInt.toNat = n := by
  have hlt := n.toInt_lt
  apply Int32.toInt.inj
  rw [Int32.toInt_ofNat_of_lt (by omega), toNat_of_nonneg hle]

theorem toNat_toUInt32_mul {n : Int32} {m : UInt32} (hle : 0 ≤ n.toInt ∧ n.toInt ≤ 16384)
    (hm : m.toNat ≤ 16) : (n.toUInt32 * m).toNat = n.toInt.toNat * m.toNat := by
  have hn : n.toUInt32 = UInt32.ofNat n.toInt.toNat := by
    rw [← Int32.toUInt32_ofNat', ofNat_toNat hle.1]
  rw [hn, toNat_ofNat_mul_of_le (by omega) hm]

theorem bmod_bounds (n : Int) :
    ∃ q : Int, n.bmod (2 ^ 32) = n - 2 ^ 32 * q ∧ -2 ^ 31 ≤ n.bmod (2 ^ 32) ∧
      n.bmod (2 ^ 32) < 2 ^ 31 := by
  have hle := le_bmod (x := n) (m := 2 ^ 32) (by decide)
  have hlt := bmod_lt (x := n) (m := 2 ^ 32) (by decide)
  refine ⟨n.bdiv (2 ^ 32), ?_, by omega, by omega⟩
  exact bmod_eq_self_sub_mul_bdiv n (2 ^ 32)

/-! ## The rows -/

section

variable (params : PackPixelsParams FormatID)

def firstRow (inputPitch : Int32) : Int32 :=
  if params.reverseRowOrder then inputPitch * (params.area.height - 1) else 0

def rowStep (inputPitch : Int32) : Int32 :=
  if params.reverseRowOrder then -inputPitch else inputPitch

def sourceOffset (inputPitch : Int32) (y : Nat) : Int :=
  (params.firstRow inputPitch).toInt + (Int32.ofNat y * params.rowStep inputPitch).toInt

def destOffset (y : Nat) : Int :=
  params.offset + (UInt32.ofNat y * params.outputPitch).toNat

end

theorem packPixels_eq [DecidableEq FormatID]
    (hvalid : params.Valid formats sourceFormat inputPitch) :
    packPixels formats params sourceFormat inputPitch = if sourceFormat = params.destFormat then
        (counts params.area.height).map fun y =>
          .copy (params.destOffset y) (params.sourceOffset inputPitch y)
            (params.area.width.toInt.toNat * (formats.pixelBytes sourceFormat).toNat)
      else
        (Grid.cells params.area.width.toInt.toNat params.area.height.toInt.toNat).map fun cell =>
          .convert (params.destOffset cell.2 +
              (cell.1 * (formats.pixelBytes params.destFormat).toNat : Nat))
            (formats.pixelBytes params.destFormat).toNat
            (params.sourceOffset inputPitch cell.2 +
              (cell.1 * (formats.pixelBytes sourceFormat).toNat : Nat))
            (formats.pixelBytes sourceFormat).toNat
            (formats.convertPixel sourceFormat params.destFormat) := by
  have hstart : (if params.reverseRowOrder then (inputPitch * (params.area.height - 1)).toInt
      else 0) = (params.firstRow inputPitch).toInt := by
    unfold firstRow
    split <;> rfl
  have hpixels (f : PixelCopyFunction) :
      ((counts params.area.height).flatMap fun y => (counts params.area.width).map fun x =>
        Transfer.convert (params.offset + (UInt32.ofNat y * params.outputPitch).toNat +
            (UInt32.ofNat x * formats.pixelBytes params.destFormat).toNat)
          (formats.pixelBytes params.destFormat).toNat
          ((params.firstRow inputPitch).toInt + (Int32.ofNat y * params.rowStep inputPitch).toInt +
            (UInt32.ofNat x * formats.pixelBytes sourceFormat).toNat)
          (formats.pixelBytes sourceFormat).toNat f) =
        (cells params.area.width.toInt.toNat params.area.height.toInt.toNat).map fun cell =>
          .convert (params.destOffset cell.2 +
              (cell.1 * (formats.pixelBytes params.destFormat).toNat : Nat))
            (formats.pixelBytes params.destFormat).toNat
            (params.sourceOffset inputPitch cell.2 +
              (cell.1 * (formats.pixelBytes sourceFormat).toNat : Nat))
            (formats.pixelBytes sourceFormat).toNat f := by
    rw [cells, map_flatMap]
    apply flatMap_congr
    intro y _
    rw [map_map]
    apply map_congr_left
    intro x hx
    have hle : x ≤ 16384 := by
      have := mem_range.mp hx
      have := hvalid.width.2
      omega
    rw [toNat_ofNat_mul_of_le hle hvalid.sourceBytes, toNat_ofNat_mul_of_le hle hvalid.destBytes]
    rfl
  unfold packPixels FormatTable.convertPixel
  simp only [hstart]
  split
  · rw [toNat_toUInt32_mul hvalid.width hvalid.sourceBytes]
    rfl
  · split <;> exact hpixels _

/-! ## Exact offsets -/

/-- No product of the offsets of the last row leaves its type. -/
def Fits (params : PackPixelsParams FormatID) (inputPitch : Int32) : Prop :=
  (params.area.height.toInt - 1) * inputPitch.toInt < 2 ^ 31 ∧
    (params.area.height.toInt - 1) * params.outputPitch.toNat < 2 ^ 32

variable (hvalid : params.Valid formats sourceFormat inputPitch)
include hvalid

theorem inputPitch_nonneg : 0 ≤ inputPitch.toInt :=
  (mul_nonneg hvalid.width.1 (natCast_nonneg _)).trans hvalid.inputPitch

theorem toInt_firstRow : (params.firstRow inputPitch).toInt =
    if params.reverseRowOrder then
      ((params.area.height.toInt - 1) * inputPitch.toInt).bmod (2 ^ 32) else 0 := by
  have hheight := hvalid.height
  have hlast : (params.area.height - 1).toInt = params.area.height.toInt - 1 := by
    rw [Int32.toInt_sub]
    exact bmod_eq_of_le (by simp; omega) (by simp; omega)
  unfold firstRow
  split
  · rw [Int32.toInt_mul, hlast, mul_comm]
  · rfl

theorem toInt_rowStep : (params.rowStep inputPitch).toInt =
    if params.reverseRowOrder then -inputPitch.toInt else inputPitch.toInt := by
  have hnonneg := inputPitch_nonneg hvalid
  have hlt := inputPitch.toInt_lt
  unfold rowStep
  split
  · rw [Int32.toInt_neg]
    exact bmod_eq_of_le (by omega) (by omega)
  · rfl

omit hvalid in
theorem rowOffset_le {y : Nat} {pitch : Int} (hpitch : 0 ≤ pitch)
    (hy : y < params.area.height.toInt.toNat) :
    0 ≤ y * pitch ∧ y * pitch ≤ (params.area.height.toInt - 1) * pitch :=
  ⟨mul_nonneg (by omega) hpitch, mul_le_mul_of_nonneg_right (by omega) hpitch⟩

omit hvalid in
theorem destOffset_eq (hfits : params.Fits inputPitch) {y : Nat}
    (hy : y < params.area.height.toInt.toNat) :
    params.destOffset y = params.offset + y * params.outputPitch.toNat := by
  have hle := rowOffset_le (natCast_nonneg params.outputPitch.toNat) hy
  have hlt : y * params.outputPitch.toNat < 2 ^ 32 := by
    have := hfits.2
    omega
  rw [destOffset, toNat_ofNat_mul, Nat.mod_eq_of_lt hlt, natCast_mul]

theorem sourceOffset_eq (hfits : params.Fits inputPitch) {y : Nat}
    (hy : y < params.area.height.toInt.toNat) :
    params.sourceOffset inputPitch y = params.sourceRow y * inputPitch.toInt := by
  have hle := rowOffset_le (inputPitch_nonneg hvalid) hy
  have hlast := hfits.1
  rw [sourceOffset, toInt_ofNat_mul, toInt_firstRow hvalid, toInt_rowStep hvalid, sourceRow]
  split
  · have hrow : ((params.area.height.toInt.toNat - 1 - y : Nat) : Int) =
        params.area.height.toInt - 1 - y := by omega
    rw [mul_neg, bmod_eq_of_le (by omega) (by omega),
      bmod_eq_of_le (by omega) (by omega), hrow, sub_mul _ (y : Int)]
    rfl
  · rw [bmod_eq_of_le (by omega) (by omega), zero_add]

theorem packsExactly_of_fits [DecidableEq FormatID] (hfits : params.Fits inputPitch) :
    params.PacksExactly formats sourceFormat inputPitch := by
  have hrow : ∀ y < params.area.height.toInt.toNat,
      params.sourceRow y < params.area.height.toInt.toNat := by
    intro y hy
    unfold sourceRow
    split <;> omega
  have hpitch : ((params.destImage formats).width * (params.destImage formats).itemBytes : Int) ≤
      (params.destImage formats).pitch := by
    show (params.area.width.toInt.toNat * (formats.pixelBytes params.destFormat).toNat : Int) ≤
      params.outputPitch.toNat
    rw [toNat_of_nonneg hvalid.width.1]
    exact hvalid.outputPitch
  unfold PacksExactly
  rw [packPixels_eq hvalid]
  split
  · rename_i hsame
    have hrows : ((counts params.area.height).map fun y =>
        Transfer.copy (params.destOffset y) (params.sourceOffset inputPitch y)
          (params.area.width.toInt.toNat * (formats.pixelBytes sourceFormat).toNat)) =
        (List.range (params.destImage formats).height).map (rowCopy (params.destImage formats)
            (params.sourceImage formats sourceFormat inputPitch) params.sourceRow) := by
      apply map_congr_left
      intro y hy
      rw [destOffset_eq hfits (mem_range.mp hy),
        sourceOffset_eq hvalid hfits (mem_range.mp hy), hsame]
      simp [rowCopy, item, destImage, sourceImage]
    rw [FormatTable.convertPixel, if_pos hsame, hrows]
    exact movedBy_rows rfl (by rw [hsame]; rfl) hpitch hrow
  · have hitems : ((cells params.area.width.toInt.toNat params.area.height.toInt.toNat).map
        fun cell => Transfer.convert (params.destOffset cell.2 +
            (cell.1 * (formats.pixelBytes params.destFormat).toNat : Nat))
          (formats.pixelBytes params.destFormat).toNat
          (params.sourceOffset inputPitch cell.2 +
            (cell.1 * (formats.pixelBytes sourceFormat).toNat : Nat))
          (formats.pixelBytes sourceFormat).toNat
          (formats.convertPixel sourceFormat params.destFormat)) =
        (cells (params.destImage formats).width (params.destImage formats).height).map
          (itemConvert (params.destImage formats)
            (params.sourceImage formats sourceFormat inputPitch) params.sourceRow
            (formats.convertPixel sourceFormat params.destFormat)) := by
      apply map_congr_left
      intro cell hcell
      have hy := (mem_cells.mp hcell).2
      rw [destOffset_eq hfits hy, sourceOffset_eq hvalid hfits hy]
      simp [itemConvert, item, destImage, sourceImage]
    rw [hitems]
    exact movedBy_items rfl hpitch hrow (formats.length_convertPixel _ _)

/-! ## Offsets that wrap around -/

/-- A transfer that makes a pixel goes by the offsets that the code computes for some row. -/
theorem offsets_of_carries [DecidableEq FormatID] {t : Transfer} {d s : Int}
    (ht : t ∈ packPixels formats params sourceFormat inputPitch)
    (hcarries : t.Carries (formats.pixelBytes params.destFormat).toNat d s)
    (hpixel : 0 < params.area.width.toInt) :
    ∃ y < params.area.height.toInt.toNat, ∃ r r' : Int,
      d = params.destOffset y + r ∧ s = params.sourceOffset inputPitch y + r' ∧ 0 ≤ r ∧ 0 ≤ r' ∧
        r + (formats.pixelBytes params.destFormat).toNat ≤
          params.area.width.toInt * (formats.pixelBytes params.destFormat).toNat ∧
        r' + (formats.pixelBytes sourceFormat).toNat ≤
          params.area.width.toInt * (formats.pixelBytes sourceFormat).toNat := by
  rw [packPixels_eq hvalid] at ht
  split at ht
  · rename_i hsame
    obtain ⟨y, hy, rfl⟩ := mem_map.mp ht
    obtain ⟨hle, hlt, hs⟩ := hcarries
    refine ⟨y, mem_range.mp hy, d - params.destOffset y, d - params.destOffset y, by omega,
      hs.symm, by omega, by omega, ?_⟩
    rw [natCast_mul, toNat_of_nonneg hvalid.width.1] at hlt
    rw [hsame] at hlt ⊢
    omega
  · obtain ⟨cell, hcell, rfl⟩ := mem_map.mp ht
    obtain ⟨hd, hs⟩ := hcarries
    have hx := (mem_cells.mp hcell).1
    have hwithin : ∀ bytes : Nat,
        ((cell.1 * bytes : Nat) : Int) + bytes ≤ params.area.width.toInt * bytes := by
      intro bytes
      calc ((cell.1 * bytes : Nat) : Int) + bytes
        _ = (cell.1 + 1) * bytes := by push_cast; ring
        _ ≤ params.area.width.toInt * bytes := mul_le_mul_of_nonneg_right (by omega) (by omega)
    exact ⟨cell.2, (mem_cells.mp hcell).2, _, _, hd.symm, hs.symm, natCast_nonneg _,
      natCast_nonneg _, hwithin _, hwithin _⟩

omit hvalid in
theorem pitch_le_zero {width bytes pitch r : Int} (hr : 0 ≤ r) (hbytes : 0 ≤ bytes)
    (hpast : pitch ≤ r) (hwithin : r + bytes ≤ width * bytes) (hpitch : width * bytes ≤ pitch) :
    pitch ≤ 0 := by
  have hzero : bytes = 0 := by omega
  rw [hzero, mul_zero] at hwithin
  omega

omit hvalid in
theorem rowBytes_le {width : Int} {bytes : Nat} (hwidth : 0 ≤ width ∧ width ≤ 16384)
    (hbytes : bytes ≤ 16) : width * bytes ≤ 2 ^ 18 :=
  calc width * bytes
    _ ≤ 16384 * 16 :=
        mul_le_mul hwidth.2 (by omega) (natCast_nonneg bytes) (by omega)
    _ = 2 ^ 18 := by norm_num

omit hvalid in
theorem rowEnd_le {y : Nat} (height : Int) {pitch : Int} (hpitch : 0 ≤ pitch)
    (hy : y < height - 1) :
    y * pitch + pitch ≤ (height - 1) * pitch :=
  calc y * pitch + pitch
    _ = (y + 1) * pitch := by ring
    _ ≤ (height - 1) * pitch := mul_le_mul_of_nonneg_right (by omega) hpitch

/-- The last row of the destination is missed when its offset does not fit. -/
theorem not_packsExactly_of_destWraps [DecidableEq FormatID]
    (hpixel : 0 < params.area.width.toInt) (hrow : 0 < params.area.height.toInt)
    (hwraps : 2 ^ 32 ≤ (params.area.height.toInt - 1) * params.outputPitch.toNat) :
    ¬ params.PacksExactly formats sourceFormat inputPitch := by
  intro h
  obtain ⟨t, ht, hcarries, -⟩ := h.once 0 (by show 0 < toNat _; omega)
    (params.area.height.toInt.toNat - 1) (by show _ < toNat _; omega)
  obtain ⟨y, hy, r, r', hd, -, hr, -, hwithin, -⟩ := offsets_of_carries hvalid ht hcarries hpixel
  have hlast : ((params.area.height.toInt.toNat - 1 : Nat) : Int) =
      params.area.height.toInt - 1 := by omega
  simp only [item, destImage, hlast, destOffset, toNat_ofNat_mul, Int.natCast_zero,
    zero_mul, add_zero] at hd
  have hrowBytes := rowBytes_le hvalid.width hvalid.destBytes
  have hbytes : (0 : Int) ≤ (formats.pixelBytes params.destFormat).toNat := natCast_nonneg _
  rcases Nat.lt_or_ge y (params.area.height.toInt.toNat - 1) with hearlier | hsame
  · have hend := rowEnd_le (y := y) params.area.height.toInt
      (natCast_nonneg params.outputPitch.toNat) (by omega)
    have hzero := pitch_le_zero hr hbytes (by omega) hwithin hvalid.outputPitch
    have hnone : params.outputPitch.toNat = 0 := by omega
    rw [hnone, Int.natCast_zero, Int.mul_zero] at hwraps
    omega
  · have hy' : (y : Int) = params.area.height.toInt - 1 := by omega
    rw [← hy', ← natCast_mul] at hwraps hd
    omega

/-- The row of the source at the largest offset is missed when that offset does not fit. -/
theorem not_packsExactly_of_sourceWraps [DecidableEq FormatID]
    (hpixel : 0 < params.area.width.toInt) (hrow : 0 < params.area.height.toInt)
    (hwraps : 2 ^ 31 ≤ (params.area.height.toInt - 1) * inputPitch.toInt) :
    ¬ params.PacksExactly formats sourceFormat inputPitch := by
  intro h
  have hnonneg := inputPitch_nonneg hvalid
  have hrowBytes := rowBytes_le hvalid.width hvalid.sourceBytes
  have hbytes : (0 : Int) ≤ (formats.pixelBytes sourceFormat).toNat := natCast_nonneg _
  have hpitch : ¬ inputPitch.toInt ≤ 0 := by
    intro hle
    have hzero : inputPitch.toInt = 0 := by omega
    rw [hzero, mul_zero] at hwraps
    omega
  obtain ⟨q, hq, hlow, hhigh⟩ := bmod_bounds ((params.area.height.toInt - 1) * inputPitch.toInt)
  have hfirst := toInt_firstRow hvalid
  have hstep := toInt_rowStep hvalid
  cases hreverse : params.reverseRowOrder with
  | false =>
    obtain ⟨t, ht, hcarries, -⟩ := h.once 0 (by show 0 < toNat _; omega)
      (params.area.height.toInt.toNat - 1) (by show _ < toNat _; omega)
    obtain ⟨y, hy, r, r', -, hs, -, hr, -, hwithin⟩ := offsets_of_carries hvalid ht hcarries hpixel
    have hlast : ((params.area.height.toInt.toNat - 1 : Nat) : Int) =
        params.area.height.toInt - 1 := by omega
    obtain ⟨q', hq', hlow', hhigh'⟩ := bmod_bounds (y * inputPitch.toInt)
    have hstart := (rowOffset_le hnonneg hy).1
    simp only [item, sourceImage, sourceRow, hreverse, sourceOffset, toInt_ofNat_mul, hfirst,
      hstep, Bool.false_eq_true, if_false, hlast, Int.natCast_zero, Int.zero_mul, Int.zero_add,
      add_zero] at hs
    rcases Nat.lt_or_ge y (params.area.height.toInt.toNat - 1) with hearlier | hsame
    · have hend := rowEnd_le (y := y) params.area.height.toInt hnonneg (by omega)
      exact hpitch (pitch_le_zero hr hbytes (by omega) hwithin hvalid.inputPitch)
    · have hy' : (y : Int) = params.area.height.toInt - 1 := by omega
      rw [← hy'] at hs hwraps
      omega
  | true =>
    obtain ⟨t, ht, hcarries, -⟩ := h.once 0 (by show 0 < toNat _; omega) 0
      (by show _ < toNat _; omega)
    obtain ⟨y, hy, r, r', -, hs, -, hr, -, hwithin⟩ := offsets_of_carries hvalid ht hcarries hpixel
    have hlast : ((params.area.height.toInt.toNat - 1 : Nat) : Int) =
        params.area.height.toInt - 1 := by omega
    obtain ⟨q', hq', hlow', hhigh'⟩ := bmod_bounds (y * -inputPitch.toInt)
    simp only [item, sourceImage, sourceRow, hreverse, sourceOffset, toInt_ofNat_mul, hfirst,
      hstep, if_true, Nat.sub_zero, hlast, Int.natCast_zero, Int.zero_mul, Int.zero_add,
      add_zero] at hs
    rcases Nat.eq_zero_or_pos y with rfl | hlater
    · omega
    · exact hpitch (pitch_le_zero hr hbytes (by omega) hwithin hvalid.inputPitch)

theorem packsExactly_of_empty [DecidableEq FormatID]
    (hempty : params.area.width.toInt = 0 ∨ params.area.height.toInt = 0) :
    params.PacksExactly formats sourceFormat inputPitch := by
  apply movedBy_of_empty
  · show toNat _ = 0 ∨ toNat _ = 0
    omega
  · intro t ht
    rw [packPixels_eq hvalid] at ht
    split at ht
    · obtain ⟨y, hy, rfl⟩ := mem_map.mp ht
      have hy' := mem_range.mp hy
      have hzero : params.area.width.toInt.toNat = 0 := by omega
      rw [hzero, Nat.zero_mul]
      exact ⟨rfl, rfl⟩
    · obtain ⟨cell, hcell, rfl⟩ := mem_map.mp ht
      have := mem_cells.mp hcell
      omega

/-- Packing is exact when there is no pixel, or when the offsets of the last row fit. -/
theorem packsExactly_iff [DecidableEq FormatID] :
    params.PacksExactly formats sourceFormat inputPitch ↔
      params.area.width.toInt = 0 ∨ params.area.height.toInt = 0 ∨
        (params.area.height.toInt - 1) * inputPitch.toInt < 2 ^ 31 ∧
          (params.area.height.toInt - 1) * params.outputPitch.toNat < 2 ^ 32 := by
  have hwidth := hvalid.width.1
  have hheight := hvalid.height.1
  constructor
  · intro h
    by_contra hnot
    obtain ⟨hpixel, hnot⟩ := not_or.mp hnot
    obtain ⟨hrow, hnot⟩ := not_or.mp hnot
    rcases not_and_or.mp hnot with hwraps | hwraps
    · exact not_packsExactly_of_sourceWraps hvalid (by omega) (by omega) (not_lt.mp hwraps) h
    · exact not_packsExactly_of_destWraps hvalid (by omega) (by omega) (not_lt.mp hwraps) h
  · rintro (hzero | hzero | hfits)
    · exact packsExactly_of_empty hvalid (.inl hzero)
    · exact packsExactly_of_empty hvalid (.inr hzero)
    · exact packsExactly_of_fits hvalid hfits

omit hvalid

/-! ## Two formats -/

inductive SampleFormat where
  | R8G8B8A8_UNORM
  | B8G8R8A8_UNORM
deriving DecidableEq

/-- `CopyBGRA8ToRGBA8`, which is its own inverse. -/
def swapRedBlue : PixelCopyFunction
  | [b, g, r, a] => [r, g, b, a]
  | bytes => bytes

theorem length_swapRedBlue (bytes : List UInt8) : (swapRedBlue bytes).length = bytes.length := by
  unfold swapRedBlue
  split <;> rfl

def sampleFormats : FormatTable SampleFormat (List UInt8) where
  pixelBytes _ := 4
  fastCopyFunctions
    | .R8G8B8A8_UNORM => []
    | .B8G8R8A8_UNORM => [(.R8G8B8A8_UNORM, swapRedBlue)]
  pixelReadFunction _ bytes := bytes
  pixelWriteFunction _ color := (color ++ [0, 0, 0, 0]).take 4
  length_fastCopy := by
    intro source entry hentry bytes hlength
    cases source with
    | R8G8B8A8_UNORM => exact absurd hentry List.not_mem_nil
    | B8G8R8A8_UNORM =>
      rw [List.mem_singleton.mp hentry]
      exact (length_swapRedBlue bytes).trans hlength
  length_pixelWrite := by
    intro dest color
    rw [List.length_take, List.length_append]
    exact Nat.min_eq_left (Nat.le_add_left 4 _)

def twoRows : PackPixelsParams SampleFormat where
  area := { width := 3, height := 2 }
  destFormat := .R8G8B8A8_UNORM
  outputPitch := 16
  reverseRowOrder := true
  offset := 8

theorem valid_twoRows : twoRows.Valid sampleFormats .B8G8R8A8_UNORM 12 := by
  constructor <;> decide

theorem packsExactly_iff_twoRows :
    twoRows.Valid sampleFormats .B8G8R8A8_UNORM 12 ∧
      twoRows.PacksExactly sampleFormats .B8G8R8A8_UNORM 12 :=
  ⟨valid_twoRows, (packsExactly_iff valid_twoRows).mpr (.inr (.inr (by decide)))⟩

def distantRows : PackPixelsParams SampleFormat where
  area := { width := 1, height := 4 }
  destFormat := .R8G8B8A8_UNORM
  outputPitch := 2147483644
  reverseRowOrder := false
  offset := 0

theorem valid_distantRows : distantRows.Valid sampleFormats .R8G8B8A8_UNORM 4 := by
  constructor <;> decide

theorem not_packsExactly_distantRows :
    distantRows.Valid sampleFormats .R8G8B8A8_UNORM 4 ∧
      ¬ distantRows.PacksExactly sampleFormats .R8G8B8A8_UNORM 4 :=
  ⟨valid_distantRows, not_packsExactly_of_destWraps valid_distantRows (by decide) (by decide)
    (by decide)⟩

end PackPixelsParams

end MetalAngle.Renderer
