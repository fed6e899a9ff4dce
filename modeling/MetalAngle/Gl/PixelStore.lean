import Mathlib.Algebra.Ring.Int.Defs
import Mathlib.Algebra.Ring.Nat
import Mathlib.Order.Bounds.Basic
import MetalAngle.Gl.InternalFormats
import MetalAngle.Lib.CheckedNumeric

/-!
# Pixel storage

Images in client memory or in a buffer are laid out as the pixel storage state says.  Before they
are read or written, the end of the last pixel is computed and compared with the size of the memory.
-/

namespace MetalAngle.Gl.PixelStore

open CheckedNumeric Nat
open InternalFormats (GLenum)

/-- `CheckedNumeric<GLuint>`. -/
abbrev Checked := CheckedNumeric (2 ^ 32)

/-- `static_cast<GLuint>`. -/
def toGLuint (n : Int) : Nat := (n % 2 ^ 32).toNat

/-- What a type of pixels is packed in: `Type` without the shift, which is its logarithm. -/
structure TypeInfo where
  bytes : Nat
  specialInterpretation : Bool

def GetTypeInfo : GLenum → TypeInfo
  | .GL_UNSIGNED_BYTE | .GL_BYTE => ⟨1, false⟩
  | .GL_UNSIGNED_SHORT | .GL_SHORT | .GL_HALF_FLOAT | .GL_HALF_FLOAT_OES => ⟨2, false⟩
  | .GL_UNSIGNED_INT | .GL_INT | .GL_FLOAT => ⟨4, false⟩
  | .GL_UNSIGNED_SHORT_5_6_5 | .GL_UNSIGNED_SHORT_4_4_4_4 | .GL_UNSIGNED_SHORT_5_5_5_1
  | .GL_UNSIGNED_SHORT_4_4_4_4_REV_EXT | .GL_UNSIGNED_SHORT_1_5_5_5_REV_EXT => ⟨2, true⟩
  | .GL_UNSIGNED_INT_2_10_10_10_REV | .GL_UNSIGNED_INT_24_8 | .GL_UNSIGNED_INT_10F_11F_11F_REV
  | .GL_UNSIGNED_INT_5_9_9_9_REV => ⟨4, true⟩
  | .GL_FLOAT_32_UNSIGNED_INT_24_8_REV => ⟨8, true⟩
  | _ => ⟨0, false⟩

structure Extents where
  width : Int
  height : Int
  depth : Int
deriving DecidableEq

structure PixelStoreStateBase where
  alignment : Int := 4
  rowLength : Int := 0
  skipRows : Int := 0
  skipPixels : Int := 0
  imageHeight : Int := 0
  skipImages : Int := 0
deriving DecidableEq

structure InternalFormat where
  internalFormat : UInt32
  pixelBytes : Nat
  componentCount : Nat
  compressedBlockWidth : Nat
  compressedBlockHeight : Nat
  compressed : Bool
  componentCount_le : componentCount ≤ 4

def roundUp (value alignment : Checked) : Checked :=
  let temp := value + alignment - .ofInt 1
  temp - temp % alignment

/-- `GL_COMPRESSED_RGB_PVRTC_4BPPV1_IMG` and the others of the list. -/
def pvrtcFormats : List UInt32 :=
  [0x8C00, 0x8C01, 0x8C02, 0x8C03, 0x8A54, 0x8A55, 0x8A56, 0x8A57]

namespace InternalFormat

variable (f : InternalFormat)

def components (formatType : GLenum) : Nat :=
  if (GetTypeInfo formatType).specialInterpretation then 1 else f.componentCount

def computePixelBytes (formatType : GLenum) : Nat :=
  f.components formatType * (GetTypeInfo formatType).bytes % 2 ^ 32

def getCompressedImageMinBlocks : Nat × Nat :=
  if f.internalFormat ∈ pvrtcFormats then (2, 2) else (0, 0)

def computeCompressedImageSize (size : Extents) : Option Nat :=
  let checkedWidth : Checked := .ofInt size.width
  let checkedHeight : Checked := .ofInt size.height
  let checkedDepth : Checked := .ofInt size.depth
  let checkedBlockWidth : Checked := .ofInt f.compressedBlockWidth
  let checkedBlockHeight : Checked := .ofInt f.compressedBlockHeight
  let (minBlockWidth, minBlockHeight) := f.getCompressedImageMinBlocks
  let numBlocksWide := (checkedWidth + checkedBlockWidth - .ofInt 1) / checkedBlockWidth
  let numBlocksHigh := (checkedHeight + checkedBlockHeight - .ofInt 1) / checkedBlockHeight
  let numBlocksWide :=
    if numBlocksWide.value.any (· < minBlockWidth) then .ofInt minBlockWidth else numBlocksWide
  let numBlocksHigh :=
    if numBlocksHigh.value.any (· < minBlockHeight) then .ofInt minBlockHeight else numBlocksHigh
  (numBlocksWide * numBlocksHigh * .ofInt f.pixelBytes * checkedDepth).value

def computeRowPitch (formatType : GLenum) (width alignment rowLength : Int) : Option Nat :=
  if f.compressed then f.computeCompressedImageSize ⟨width, 1, 1⟩
  else
    let checkedWidth : Checked := .ofInt (if rowLength > 0 then rowLength else width)
    let checkedRowBytes := checkedWidth * .ofInt (f.computePixelBytes formatType)
    (roundUp checkedRowBytes (.ofInt alignment)).value

def computeDepthPitch (height imageHeight : Int) (rowPitch : Nat) : Option Nat :=
  let pixelsHeight : Checked :=
    .ofInt (if imageHeight > 0 then toGLuint imageHeight else toGLuint height : Nat)
  let rowCount :=
    if f.compressed then
      (pixelsHeight + .ofInt f.compressedBlockHeight - .ofInt 1) / .ofInt f.compressedBlockHeight
    else pixelsHeight
  (.ofInt rowPitch * rowCount : Checked).value

def computeSkipBytes (formatType : GLenum) (rowPitch depthPitch : Nat)
    (state : PixelStoreStateBase) (is3D : Bool) : Option Nat :=
  let checkedRowPitch : Checked := .ofInt rowPitch
  let checkedDepthPitch : Checked := .ofInt depthPitch
  let checkedSkipImages : Checked := .ofInt (toGLuint state.skipImages)
  let checkedSkipRows : Checked := .ofInt (toGLuint state.skipRows)
  let checkedSkipPixels : Checked := .ofInt (toGLuint state.skipPixels)
  let checkedPixelBytes : Checked := .ofInt (f.computePixelBytes formatType)
  let checkedSkipImagesBytes :=
    if is3D then checkedSkipImages * checkedDepthPitch else .ofInt 0
  (checkedSkipImagesBytes + checkedSkipRows * checkedRowPitch +
    checkedSkipPixels * checkedPixelBytes).value

def computeCopyBytes (formatType : GLenum) (size : Extents) (is3D : Bool)
    (rowPitch depthPitch : Nat) : Checked :=
  if f.compressed then
    match f.computeCompressedImageSize size with
    | none => .invalid
    | some copyBytes => .ofInt copyBytes
  else if size.height ≠ 0 ∧ (!is3D ∨ size.depth ≠ 0) then
    let bytes : Checked := .ofInt (f.computePixelBytes formatType)
    let checkedCopyBytes := .ofInt 0 + .ofInt size.width * bytes
    let heightMinusOne : Checked := .ofInt (size.height - 1)
    let checkedCopyBytes := checkedCopyBytes + heightMinusOne * .ofInt rowPitch
    if is3D then
      let depthMinusOne : Checked := .ofInt (size.depth - 1)
      checkedCopyBytes + depthMinusOne * .ofInt depthPitch
    else checkedCopyBytes
  else .ofInt 0

def computePackUnpackEndByte (formatType : GLenum) (size : Extents) (state : PixelStoreStateBase)
    (is3D : Bool) : Option Nat := do
  let rowPitch ← f.computeRowPitch formatType size.width state.alignment state.rowLength
  let depthPitch ←
    (if is3D then f.computeDepthPitch size.height state.imageHeight rowPitch else some 0 :
      Option Nat)
  let checkedCopyBytes := f.computeCopyBytes formatType size is3D rowPitch depthPitch
  let skipBytes ← f.computeSkipBytes formatType rowPitch depthPitch state is3D
  (checkedCopyBytes + .ofInt skipBytes).value

end InternalFormat

/-! ## The rules of pixel storage -/

/-- Sizes are not negative, and of the type `int`. -/
structure Extents.Valid (size : Extents) : Prop where
  width : 0 ≤ size.width ∧ size.width < 2 ^ 31
  height : 0 ≤ size.height ∧ size.height < 2 ^ 31
  depth : 0 ≤ size.depth ∧ size.depth < 2 ^ 31

/-- What `glPixelStorei` accepts. -/
structure PixelStoreStateBase.Valid (state : PixelStoreStateBase) : Prop where
  alignment : state.alignment ∈ [1, 2, 4, 8]
  rowLength : 0 ≤ state.rowLength ∧ state.rowLength < 2 ^ 31
  skipRows : 0 ≤ state.skipRows ∧ state.skipRows < 2 ^ 31
  skipPixels : 0 ≤ state.skipPixels ∧ state.skipPixels < 2 ^ 31
  imageHeight : 0 ≤ state.imageHeight ∧ state.imageHeight < 2 ^ 31
  skipImages : 0 ≤ state.skipImages ∧ state.skipImages < 2 ^ 31

structure Layout where
  pixelBytes : Nat
  rowPitch : Nat
  depthPitch : Nat
  skipBytes : Nat

/-- The bytes of a row of `groups` pixels of `n` elements with `s` bytes each: `k` elements, where
`k` is `n` for each pixel if `s` is at least the alignment `a`, and `a / s * ⌈s * n * groups / a⌉`
else. -/
def rowBytes (s n groups a : Nat) : Nat :=
  s * if a ≤ s then n * groups else a / s * ((s * n * groups + (a - 1)) / a)

def layout (f : InternalFormat) (formatType : GLenum) (size : Extents)
    (state : PixelStoreStateBase) (is3D : Bool) : Layout :=
  let s := (GetTypeInfo formatType).bytes
  let n := f.components formatType
  let groups := if state.rowLength = 0 then size.width.toNat else state.rowLength.toNat
  let rows := if state.imageHeight = 0 then size.height.toNat else state.imageHeight.toNat
  let rowPitch := rowBytes s n groups state.alignment.toNat
  let depthPitch := rowPitch * rows
  { pixelBytes := s * n
    rowPitch := rowPitch
    depthPitch := depthPitch
    skipBytes :=
      (if is3D then state.skipImages.toNat * depthPitch else 0) +
        state.skipRows.toNat * rowPitch + state.skipPixels.toNat * (s * n) }

def pixelEnds (l : Layout) (size : Extents) (is3D : Bool) : Set Nat :=
  { offset | ∃ x y z : Nat, x < size.width ∧ y < size.height ∧
    (if is3D then z < size.depth else z = 0) ∧
      offset = l.skipBytes + z * l.depthPitch + y * l.rowPitch + (x + 1) * l.pixelBytes }

/-! ## The computations are exact -/

theorem bytes_mem (formatType : GLenum) : (GetTypeInfo formatType).bytes ∈ [0, 1, 2, 4, 8] := by
  cases formatType <;> decide

theorem toGLuint_of_valid {n : Int} (h : 0 ≤ n ∧ n < 2 ^ 31) : toGLuint n = n.toNat := by
  unfold toGLuint
  rw [Int.emod_eq_of_lt h.1 (by omega)]

theorem rowBytes_eq {s a : Nat} (hs : s ∈ [0, 1, 2, 4, 8]) (ha : a ∈ [1, 2, 4, 8])
    (n groups : Nat) :
    rowBytes s n groups a = groups * (s * n) + a - 1 - (groups * (s * n) + a - 1) % a := by
  unfold rowBytes
  rw [mul_assoc s n groups, mul_left_comm groups s n, mul_comm groups n]
  generalize n * groups = m
  simp only [List.mem_cons, List.not_mem_nil, or_false] at hs ha
  rcases hs with rfl | rfl | rfl | rfl | rfl <;> rcases ha with rfl | rfl | rfl | rfl <;>
    simp only [reduceLeDiff, if_true, if_false, reduceDiv] <;> omega

namespace InternalFormat

variable {f : InternalFormat} {formatType : GLenum} {size : Extents} {state : PixelStoreStateBase}
  {is3D : Bool} {rowPitch depthPitch n : Nat}

theorem computePixelBytes_eq (f : InternalFormat) (formatType : GLenum) :
    f.computePixelBytes formatType = (GetTypeInfo formatType).bytes * f.components formatType := by
  have hcount : f.components formatType ≤ 4 := by
    unfold components
    split
    · omega
    · exact f.componentCount_le
  have hbytes : (GetTypeInfo formatType).bytes ≤ 8 := by
    have hmem := bytes_mem formatType
    simp only [List.mem_cons, List.not_mem_nil, or_false] at hmem
    omega
  have hle := Nat.mul_le_mul hcount hbytes
  rw [computePixelBytes, mod_eq_of_lt (by omega), mul_comm]

theorem roundUp_eq_some {x a : Checked} (h : (roundUp x a).value = some n) :
    ∃ v b, x.value = some v ∧ a.value = some b ∧ n = v + b - 1 - (v + b - 1) % b := by
  obtain ⟨t, m, ht, hm, hn, -⟩ := value_sub_eq_some.mp h
  obtain ⟨t', b, ht', hb, -, hmod, -⟩ := value_mod_eq_some.mp hm
  cases ht.symm.trans ht'
  obtain ⟨u, one, hu, hone, ht, -⟩ := value_sub_eq_some.mp ht
  obtain ⟨v, b', hv, hb', huv, -⟩ := value_add_eq_some.mp hu
  cases hb.symm.trans hb'
  obtain ⟨hone, -⟩ := value_ofInt_eq_some.mp hone
  have htv : v + b - 1 = t := by omega
  refine ⟨v, b, hv, hb, ?_⟩
  rw [htv, hmod]
  omega

theorem computeRowPitch_eq (hf : f.compressed = false) (hsize : size.Valid) (hstate : state.Valid)
    (h : f.computeRowPitch formatType size.width state.alignment state.rowLength = some n) :
    n = (layout f formatType size state is3D).rowPitch := by
  unfold computeRowPitch at h
  rw [hf] at h
  obtain ⟨v, a, hv, ha, rfl⟩ := roundUp_eq_some h
  obtain ⟨groups, bytes, hgroups, hbytes, rfl⟩ := eq_of_value_ofInt_mul hv
  obtain ⟨ha, -⟩ := value_ofInt_eq_some.mp ha
  have halign : a ∈ [1, 2, 4, 8] := by
    have hmem := hstate.alignment
    simp only [List.mem_cons, List.not_mem_nil, or_false] at hmem ⊢
    omega
  have hrow : groups = if state.rowLength = 0 then size.width.toNat else state.rowLength.toNat := by
    have hlength := hstate.rowLength
    have hwidth := hsize.width
    split at hgroups <;> split <;> omega
  have hbytes : bytes = (GetTypeInfo formatType).bytes * f.components formatType := by
    rw [← computePixelBytes_eq]
    omega
  have ha : a = state.alignment.toNat := by omega
  show _ = rowBytes _ _ _ state.alignment.toNat
  rw [← ha, ← hrow, rowBytes_eq (bytes_mem formatType) halign, hbytes]

theorem computeDepthPitch_eq (hf : f.compressed = false) (hsize : size.Valid) (hstate : state.Valid)
    (h : f.computeDepthPitch size.height state.imageHeight
      (layout f formatType size state is3D).rowPitch = some n) :
    n = (layout f formatType size state is3D).depthPitch := by
  unfold computeDepthPitch at h
  rw [hf] at h
  obtain ⟨pitch, rows, hpitch, hrows, rfl⟩ := eq_of_value_ofInt_mul h
  have hrows : rows =
      if state.imageHeight = 0 then size.height.toNat else state.imageHeight.toNat := by
    have himage := hstate.imageHeight
    rw [toGLuint_of_valid hsize.height, toGLuint_of_valid himage] at hrows
    split at hrows <;> split <;> omega
  rw [← Int.ofNat_inj.mp hpitch, hrows]
  rfl

theorem computeSkipBytes_eq (hstate : state.Valid)
    (h : f.computeSkipBytes formatType (layout f formatType size state is3D).rowPitch
      depthPitch state is3D = some n)
    (hdepth : is3D → depthPitch = (layout f formatType size state is3D).depthPitch) :
    n = (layout f formatType size state is3D).skipBytes := by
  unfold computeSkipBytes at h
  dsimp only at h
  obtain ⟨skip, pixels, hskip, hpixels, rfl, -⟩ := value_add_eq_some.mp h
  obtain ⟨images, rows, himages, hrows, rfl, -⟩ := value_add_eq_some.mp hskip
  obtain ⟨skipRows, pitch, hskipRows, hpitch, rfl⟩ := eq_of_value_ofInt_mul hrows
  obtain ⟨skipPixels, bytes, hskipPixels, hbytes, rfl⟩ := eq_of_value_ofInt_mul hpixels
  rw [toGLuint_of_valid hstate.skipRows] at hskipRows
  rw [toGLuint_of_valid hstate.skipPixels] at hskipPixels
  have himages : images =
      if is3D then state.skipImages.toNat * (layout f formatType size state is3D).depthPitch
      else 0 := by
    cases is3D with
    | false =>
      rw [if_neg Bool.false_ne_true] at himages
      obtain ⟨hzero, -⟩ := value_ofInt_eq_some.mp himages
      simpa using hzero.symm
    | true =>
      rw [if_pos rfl] at himages
      obtain ⟨skipImages, pitch', hskipImages, hpitch', rfl⟩ := eq_of_value_ofInt_mul himages
      rw [toGLuint_of_valid hstate.skipImages] at hskipImages
      rw [← Int.ofNat_inj.mp hskipImages, ← Int.ofNat_inj.mp hpitch', hdepth rfl]
      rfl
  rw [himages, ← Int.ofNat_inj.mp hskipRows, ← Int.ofNat_inj.mp hpitch,
    ← Int.ofNat_inj.mp hskipPixels, ← Int.ofNat_inj.mp hbytes, computePixelBytes_eq]
  simp only [layout]

theorem computeCopyBytes_eq (hf : f.compressed = false) (hsize : size.Valid)
    (h : (f.computeCopyBytes formatType size is3D rowPitch depthPitch).value = some n)
    (hheight : size.height ≠ 0) (hdepth : is3D → size.depth ≠ 0) :
    n = size.width.toNat * ((GetTypeInfo formatType).bytes * f.components formatType) +
      (size.height.toNat - 1) * rowPitch +
        if is3D then (size.depth.toNat - 1) * depthPitch else 0 := by
  have hregion : size.height ≠ 0 ∧ (!is3D ∨ size.depth ≠ 0) := by
    cases is3D with
    | false => exact ⟨hheight, .inl rfl⟩
    | true => exact ⟨hheight, .inr (hdepth rfl)⟩
  unfold computeCopyBytes at h
  rw [hf, if_neg Bool.false_ne_true, if_pos hregion] at h
  dsimp only at h
  have hrows : ∀ {m : Nat}, ((.ofInt 0 + .ofInt size.width *
      .ofInt (f.computePixelBytes formatType) + .ofInt (size.height - 1) *
        .ofInt rowPitch : Checked).value = some m) →
      m = size.width.toNat * ((GetTypeInfo formatType).bytes * f.components formatType) +
        (size.height.toNat - 1) * rowPitch := by
    intro m hm
    obtain ⟨row, rows, hrow, hrows, rfl, -⟩ := value_add_eq_some.mp hm
    obtain ⟨none, pixels, hnone, hpixels, rfl, -⟩ := value_add_eq_some.mp hrow
    obtain ⟨width, bytes, hwidth, hbytes, rfl⟩ := eq_of_value_ofInt_mul hpixels
    obtain ⟨above, pitch, habove, hpitch, rfl⟩ := eq_of_value_ofInt_mul hrows
    obtain ⟨hnone, -⟩ := value_ofInt_eq_some.mp hnone
    have hnonneg := hsize.height
    have hwidth : width = size.width.toNat := by omega
    have habove : above = size.height.toNat - 1 := by omega
    rw [hwidth, habove, ← Int.ofNat_inj.mp hbytes, ← Int.ofNat_inj.mp hpitch, computePixelBytes_eq]
    omega
  cases is3D with
  | false =>
    rw [if_neg Bool.false_ne_true] at h
    rw [hrows h, if_neg Bool.false_ne_true, add_zero]
  | true =>
    rw [if_pos rfl] at h
    obtain ⟨image, images, himage, himages, rfl, -⟩ := value_add_eq_some.mp h
    obtain ⟨before, pitch, hbefore, hpitch, rfl⟩ := eq_of_value_ofInt_mul himages
    have hnonneg := hsize.depth
    have hvalid := hdepth rfl
    have hbefore : before = size.depth.toNat - 1 := by omega
    rw [hrows himage, hbefore, ← Int.ofNat_inj.mp hpitch, if_pos rfl]

end InternalFormat

/-- The end of the last pixel of a region that is not empty. -/
theorem isGreatest_pixelEnds {l : Layout} {size : Extents} {is3D : Bool} (hwidth : 0 < size.width)
    (hheight : 0 < size.height) (hdepth : is3D → 0 < size.depth) :
    IsGreatest (pixelEnds l size is3D)
      (l.skipBytes + (if is3D then size.depth.toNat - 1 else 0) * l.depthPitch +
        (size.height.toNat - 1) * l.rowPitch + size.width.toNat * l.pixelBytes) := by
  constructor
  · refine ⟨size.width.toNat - 1, size.height.toNat - 1,
      if is3D then size.depth.toNat - 1 else 0, by omega, by omega, ?_, ?_⟩
    · cases is3D with
      | false => rfl
      | true =>
        have hpos := hdepth rfl
        show ((size.depth.toNat - 1 : Nat) : Int) < size.depth
        omega
    · rw [Nat.sub_add_cancel (by omega)]
  · rintro offset ⟨x, y, z, hx, hy, hz, rfl⟩
    have hlayer : z ≤ if is3D then size.depth.toNat - 1 else 0 := by
      cases is3D with
      | false => exact le_of_eq hz
      | true =>
        have hlt : (z : Int) < size.depth := hz
        show z ≤ size.depth.toNat - 1
        omega
    have hlayers := mul_le_mul_right l.depthPitch hlayer
    have hrows : y * l.rowPitch ≤ (size.height.toNat - 1) * l.rowPitch :=
      mul_le_mul_right _ (by omega)
    have hpixels : (x + 1) * l.pixelBytes ≤ size.width.toNat * l.pixelBytes :=
      mul_le_mul_right _ (by omega)
    omega

/-- Where `computePackUnpackEndByte` has a result, the pitches and the skipped bytes are those of
the rules, and the result is the greatest end of a pixel of the region and not in the bytes that are
skipped. -/
theorem computePackUnpackEndByte_exact {f : InternalFormat} {formatType : GLenum} {size : Extents}
    {state : PixelStoreStateBase} {is3D : Bool} {endByte : Nat} (hf : f.compressed = false)
    (hsize : size.Valid) (hstate : state.Valid)
    (h : f.computePackUnpackEndByte formatType size state is3D = some endByte) :
    let l := layout f formatType size state is3D
    f.computeRowPitch formatType size.width state.alignment state.rowLength = some l.rowPitch ∧
      (is3D = true →
        f.computeDepthPitch size.height state.imageHeight l.rowPitch = some l.depthPitch) ∧
      ((pixelEnds l size is3D).Nonempty → IsGreatest (pixelEnds l size is3D) endByte) ∧
      l.skipBytes ≤ endByte := by
  intro l
  obtain ⟨rowPitch, hrow, h⟩ := Option.bind_eq_some_iff.mp h
  obtain ⟨depthPitch, hdepth, h⟩ := Option.bind_eq_some_iff.mp h
  obtain ⟨skipBytes, hskip, h⟩ := Option.bind_eq_some_iff.mp h
  obtain ⟨copyBytes, skip, hcopy, hskip', rfl, -⟩ := value_add_eq_some.mp h
  obtain ⟨hskip', -⟩ := value_ofInt_eq_some.mp hskip'
  obtain rfl := Int.ofNat_inj.mp hskip'
  obtain rfl : rowPitch = l.rowPitch := InternalFormat.computeRowPitch_eq hf hsize hstate hrow
  have hdepthPitch : is3D = true → f.computeDepthPitch size.height state.imageHeight l.rowPitch =
      some depthPitch := by
    rintro rfl
    exact hdepth
  have hlayers : is3D = true → depthPitch = l.depthPitch := fun hthree =>
    InternalFormat.computeDepthPitch_eq hf hsize hstate (hdepthPitch hthree)
  obtain rfl : skipBytes = l.skipBytes :=
    InternalFormat.computeSkipBytes_eq hstate hskip hlayers
  refine ⟨hrow, fun hthree => ?_, ?_, le_add_left _ _⟩
  · rw [← hlayers hthree]
    exact hdepthPitch hthree
  · rintro ⟨-, x, y, z, hx, hy, hz, -⟩
    have hdepthPos : is3D = true → 0 < size.depth := by
      rintro rfl
      have hlt : (z : Int) < size.depth := hz
      omega
    have hend : IsGreatest (pixelEnds l size is3D) _ :=
      isGreatest_pixelEnds (by omega) (by omega) hdepthPos
    have hbytes := InternalFormat.computeCopyBytes_eq hf hsize hcopy (by omega)
      fun hthree => by have := hdepthPos hthree; omega
    convert hend using 1
    rw [hbytes]
    cases is3D with
    | false =>
      simp only [Bool.false_eq_true, if_false, zero_mul]
      show _ + l.skipBytes = l.skipBytes + 0 + _ + size.width.toNat * l.pixelBytes
      have hpixel : l.pixelBytes = (GetTypeInfo formatType).bytes * f.components formatType := rfl
      rw [hpixel]
      omega
    | true =>
      simp only [if_true, hlayers rfl]
      have hpixel : l.pixelBytes = (GetTypeInfo formatType).bytes * f.components formatType := rfl
      rw [hpixel]
      omega

/-- A region of two rows and two layers with an alignment that pads the rows. -/
theorem computePackUnpackEndByte_exact_padded :
    let f : InternalFormat := ⟨0x8051, 3, 3, 0, 0, false, by decide⟩
    let size : Extents := ⟨3, 2, 2⟩
    let state : PixelStoreStateBase := { skipRows := 1, imageHeight := 5 }
    let l := layout f .GL_UNSIGNED_BYTE size state true
    f.computePackUnpackEndByte .GL_UNSIGNED_BYTE size state true = some 93 ∧
      IsGreatest (pixelEnds l size true) 93 := by
  intro f size state l
  have hend : f.computePackUnpackEndByte .GL_UNSIGNED_BYTE size state true = some 93 := by
    decide +kernel
  have hexact := computePackUnpackEndByte_exact (f := f) rfl (by constructor <;> decide)
    (by constructor <;> decide) hend
  exact ⟨hend, hexact.2.2.1 ⟨_, 0, 0, 0, by decide, by decide, by decide, rfl⟩⟩

end MetalAngle.Gl.PixelStore
