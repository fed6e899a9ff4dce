import MetalAngle.Gl.TextureImages

/-!
# Mipmap completeness

`computeMipmapCompleteness` walks through the levels from the base level to the last level of the
mipmaps and compares each image with that of the base level.  Here it reads the array of the
descriptions, where a read past its end has no result, and counts in 32 bits.
-/

namespace MetalAngle.Gl.Textures

open Nat GlTexture Option

def getImageDescIndex : TextureTarget → Nat → Nat
  | .cubeMapFace face, level => level * 6 + face
  | .nonCube _, level => level

/-- The size of `mImageDescs`, which has one level more than an image can have. -/
def TextureType.imageDescCount (type : TextureType) : Nat :=
  (IMPLEMENTATION_MAX_TEXTURE_LEVELS + 1) * if type = .CubeMap then 6 else 1

/-! ## As it is specified -/

namespace GlTexture

variable (t : GlTexture)

/-- `level_base`, which immutable textures clamp to their levels. -/
def mipmapBase : Nat :=
  match t.immutableLevels with
  | none => t.baseLevel
  | some levels => min t.baseLevel (levels - 1)

/-- `level_max`. -/
def mipmapMax : Nat :=
  match t.immutableLevels with
  | none => t.maxLevel
  | some levels => min (max t.maxLevel t.mipmapBase) (levels - 1)

def mipmapImage : GlImage := t.images t.firstTarget t.mipmapBase

def maxSize (type : TextureType) (size : Extents) : Nat :=
  if type = ._3D then max (max size.width size.height) size.depth else max size.width size.height

def mipmapLast : Nat :=
  min (t.mipmapBase + Nat.log2 (maxSize t.type t.mipmapImage.size)) t.mipmapMax

/-- A texture is mipmap complete: its base level is not past its maximum level, and the images from
the base level to `q` have one format and half the size each, on square faces for a cube map. -/
structure MipmapComplete : Prop where
  ordered : t.mipmapBase ≤ t.mipmapMax
  square : t.type = .CubeMap → t.mipmapImage.size.width = t.mipmapImage.size.height
  depth : 0 < t.mipmapImage.size.depth
  sizes : ∀ target ∈ t.type.targets, ∀ level, t.mipmapBase ≤ level → level ≤ t.mipmapLast →
    (t.images target level).size =
      mipmapSize t.type t.mipmapImage.size (level - t.mipmapBase)
  formats : ∀ target ∈ t.type.targets, ∀ level, t.mipmapBase ≤ level → level ≤ t.mipmapLast →
    (t.images target level).sizedInternalFormat = t.mipmapImage.sizedInternalFormat

end GlTexture

namespace Texture

/-! ## As it is computed -/

section Computed

variable (t : Texture)

def getImageDesc? (target : TextureTarget) (level : Nat) : Option ImageDesc :=
  if getImageDescIndex target level < t.mType.imageDescCount then some (t.mImageDescs target level)
  else none

/-- `getMipmapMaxLevel`.  The logarithm of an empty image is infinite; its conversion to a number,
which is undefined, is taken to give 0. -/
def getMipmapMaxLevel? : Option Nat := do
  let baseImageDesc ← t.getImageDesc? t.getBaseImageTarget t.getEffectiveBaseLevel
  let size := baseImageDesc.size
  let expectedMipLevels :=
    if t.mType = ._3D then Nat.log2 (max (max size.width size.height) size.depth)
    else Nat.log2 (max size.width size.height)
  some (min ((t.getEffectiveBaseLevel + expectedMipLevels) % 2 ^ 32) t.getEffectiveMaxLevel)

def computeLevelCompleteness? (target : TextureTarget) (level : Nat) : Option Bool :=
  if t.mImmutableFormat then some true
  else do
    let baseImageDesc ← t.getImageDesc? t.getBaseImageTarget t.getEffectiveBaseLevel
    let base := baseImageDesc.size
    if base.width = 0 ∨ base.height = 0 ∨ base.depth = 0 then some false
    else do
      let levelImageDesc ← t.getImageDesc? target level
      let size := levelImageDesc.size
      let relativeLevel := level - t.getEffectiveBaseLevel
      some (size.width ≠ 0 ∧ size.height ≠ 0 ∧ size.depth ≠ 0 ∧
        levelImageDesc.format.sizedInternalFormat = baseImageDesc.format.sizedInternalFormat ∧
        size.width = max 1 (base.width >>> relativeLevel) ∧
        size.height = max 1 (base.height >>> relativeLevel) ∧
        (t.mType = ._3D → size.depth = max 1 (base.depth >>> relativeLevel)) ∧
        (t.mType = ._2DArray → size.depth = base.depth))

def facesComplete? (level : Nat) : List TextureTarget → Option Bool
  | [] => some true
  | target :: rest => do
    let complete ← t.computeLevelCompleteness? target level
    if complete then facesComplete? level rest else some false

def levelsComplete? (maxLevel : Nat) : Nat → Nat → Option Bool
  | 0, _ => none
  | fuel + 1, level =>
    if level ≤ maxLevel then do
      let complete ← t.facesComplete? level t.mType.targets
      if complete then levelsComplete? maxLevel fuel ((level + 1) % 2 ^ 32) else some false
    else some true

def computeMipmapCompleteness? (fuel : Nat) : Option Bool := do
  let maxLevel ← t.getMipmapMaxLevel?
  t.levelsComplete? maxLevel fuel t.getEffectiveBaseLevel

/-- What validation lets the images of a texture be: no image is larger than the largest size
shifted by its level, those without a depth have one layer, faces are square, and only immutable
textures have multisampled images.  The images of an immutable texture are those of its storage. -/
structure Validated : Prop where
  size : ∀ target level, (t.mImageDescs target level).size.width ≤ 16384 / 2 ^ level ∧
    (t.mImageDescs target level).size.height ≤ 16384 / 2 ^ level ∧
      (t.mType = ._3D → (t.mImageDescs target level).size.depth ≤ 16384 / 2 ^ level)
  flat : t.mType.hasDepth = false → ∀ target level, (t.mImageDescs target level).size.depth ≤ 1
  square : t.mType = .CubeMap → ∀ target level,
    (t.mImageDescs target level).size.width = (t.mImageDescs target level).size.height
  multisampled : t.mType.isMultisampled → t.mImmutableFormat = false →
    ∀ target level, (t.mImageDescs target level).size = ⟨0, 0, 0⟩
  immutable : t.mImmutableFormat → 0 < t.mImmutableLevels ∧
    ∃ size format samples, 0 < size.depth ∧
      ∀ target ∈ t.mType.targets, ∀ level < t.mImmutableLevels,
        (t.mImageDescs target level).gl =
          ⟨GlTexture.mipmapSize t.mType size level, format, samples⟩

def mipmapChain (format : InternalFormat) (initState : InitState) : Texture :=
  t.setImageDescChain t.getEffectiveBaseLevel t.getMipmapMaxLevel t.baseImageDesc.size format
    initState

/-- The loop ends without a read past the descriptions and gives the completeness that is specified,
and a chain of mipmaps is complete. -/
def FollowsGl : Prop :=
  (∃ fuel, ∀ more ≥ fuel, ∃ complete, t.computeMipmapCompleteness? more = some complete ∧
      (complete ↔ t.gl.MipmapComplete)) ∧
    ∀ format initState, ∃ fuel, ∀ more ≥ fuel,
      (t.mipmapChain format initState).computeMipmapCompleteness? more = some true

end Computed

variable {t : Texture}

/-! ## Reads of the descriptions -/

theorem getBaseImageTarget_mem : t.getBaseImageTarget ∈ t.mType.targets := by
  unfold getBaseImageTarget
  cases htype : t.mType <;> decide

variable {target : TextureTarget} {level : Nat}

theorem getImageDesc?_eq (htarget : target ∈ t.mType.targets)
    (hlevel : level ≤ IMPLEMENTATION_MAX_TEXTURE_LEVELS) :
    t.getImageDesc? target level = some (t.mImageDescs target level) := by
  apply if_pos
  unfold IMPLEMENTATION_MAX_TEXTURE_LEVELS at hlevel
  cases htype : t.mType <;> rw [htype] at htarget <;>
    simp only [TextureType.targets, List.mem_singleton, List.mem_map, List.mem_finRange,
      true_and] at htarget
  case CubeMap =>
    obtain ⟨face, rfl⟩ := htarget
    simp [getImageDescIndex, TextureType.imageDescCount, IMPLEMENTATION_MAX_TEXTURE_LEVELS]
    omega
  all_goals
    subst htarget
    simp [getImageDescIndex, TextureType.imageDescCount, IMPLEMENTATION_MAX_TEXTURE_LEVELS]
    omega

theorem computeLevelCompleteness?_eq
    (htarget : target ∈ t.mType.targets) (hlevel : level ≤ IMPLEMENTATION_MAX_TEXTURE_LEVELS)
    (hbase : t.getEffectiveBaseLevel ≤ IMPLEMENTATION_MAX_TEXTURE_LEVELS) :
    t.computeLevelCompleteness? target level = some (t.computeLevelCompleteness target level) := by
  unfold computeLevelCompleteness? computeLevelCompleteness
  by_cases himmutable : t.mImmutableFormat
  · simp [himmutable]
  · rw [if_neg himmutable, getImageDesc?_eq getBaseImageTarget_mem hbase,
      getImageDesc?_eq htarget hlevel]
    simp only [bind_eq_bind, bind_some, baseImageDesc, himmutable]
    split
    · rw [eq_comm, some_inj, decide_eq_false_iff_not]
      tauto
    · rename_i hsize
      push Not at hsize
      simp [hsize]

theorem facesComplete?_eq (hlevel : level ≤ IMPLEMENTATION_MAX_TEXTURE_LEVELS)
    (hbase : t.getEffectiveBaseLevel ≤ IMPLEMENTATION_MAX_TEXTURE_LEVELS)
    (targets : List TextureTarget) (htargets : ∀ target ∈ targets, target ∈ t.mType.targets) :
    t.facesComplete? level targets =
      some (∀ target ∈ targets, t.computeLevelCompleteness target level : Bool) := by
  induction targets with
  | nil => simp [facesComplete?]
  | cons target rest ih =>
      have hrest := ih fun target hmem => htargets target (List.mem_cons_of_mem _ hmem)
      rw [facesComplete?, computeLevelCompleteness?_eq (htargets target List.mem_cons_self) hlevel
        hbase, hrest]
      cases hcomplete : t.computeLevelCompleteness target level <;> simp [hcomplete]

theorem levels_of_lt {first last : Nat} (hlt : last < first) : levels first last = [] := by
  unfold levels
  rw [Nat.sub_eq_zero_of_le hlt]
  rfl

theorem levels_of_le {first last : Nat} (hle : first ≤ last) :
    levels first last = first :: levels (first + 1) last := by
  unfold levels
  have hlength : last + 1 - first = last + 1 - (first + 1) + 1 := by omega
  rw [hlength, List.range'_succ]

theorem levelsComplete?_eq {maxLevel : Nat} (hmax : maxLevel ≤ IMPLEMENTATION_MAX_TEXTURE_LEVELS)
    (hbase : t.getEffectiveBaseLevel ≤ IMPLEMENTATION_MAX_TEXTURE_LEVELS) (fuel level : Nat)
    (hfuel : maxLevel + 1 ≤ level + fuel) :
    t.levelsComplete? maxLevel (fuel + 1) level =
      some (decide (∀ level' ∈ levels level maxLevel, ∀ target ∈ t.mType.targets,
        t.computeLevelCompleteness target level')) := by
  induction fuel generalizing level with
  | zero =>
      rw [levelsComplete?, if_neg (by omega), levels_of_lt (by omega)]
      simp
  | succ fuel ih =>
    rw [levelsComplete?]
    by_cases hlevel : level ≤ maxLevel
    · have hnext : (level + 1) % 2 ^ 32 = level + 1 := by
        apply mod_eq_of_lt
        unfold IMPLEMENTATION_MAX_TEXTURE_LEVELS at hmax
        omega
      rw [if_pos hlevel, facesComplete?_eq (hlevel.trans hmax) hbase _ fun _ hmem => hmem, hnext,
        ih _ (by omega), levels_of_le hlevel]
      simp only [bind_eq_bind, bind_some, decide_eq_true_eq, List.forall_mem_cons]
      by_cases hfaces : ∀ target ∈ t.mType.targets, t.computeLevelCompleteness target level
      · rw [if_pos hfaces, some_inj, decide_eq_decide]
        exact ⟨fun hrest => ⟨hfaces, hrest⟩, And.right⟩
      · rw [if_neg hfaces, some_inj, eq_comm, decide_eq_false_iff_not]
        exact fun h => hfaces h.1
    · rw [if_neg hlevel, levels_of_lt (by omega)]
      simp

def expectedMipLevels (t : Texture) : Nat :=
  Nat.log2 (GlTexture.maxSize t.mType t.baseImageDesc.size)

theorem getMipmapMaxLevel_eq :
    t.getMipmapMaxLevel =
      min (t.getEffectiveBaseLevel + t.expectedMipLevels) t.getEffectiveMaxLevel := by
  unfold getMipmapMaxLevel expectedMipLevels maxSize
  simp only [apply_ite log2]

theorem computeMipmapCompleteness_iff :
    t.computeMipmapCompleteness ↔
      ∀ level, t.getEffectiveBaseLevel ≤ level → level ≤ t.getMipmapMaxLevel →
        ∀ target ∈ t.mType.targets, t.computeLevelCompleteness target level := by
  unfold computeMipmapCompleteness
  rw [decide_eq_true_iff]
  exact ⟨fun h level hle hlast => h level (mem_levels.mpr ⟨hle, hlast⟩),
    fun h level hmem => h level (mem_levels.mp hmem).1 (mem_levels.mp hmem).2⟩

/-- The loop ends within the descriptions where the last level of the mipmaps is one of them. -/
theorem computeMipmapCompleteness?_eq
    (hlast : t.getEffectiveBaseLevel + t.expectedMipLevels ≤ IMPLEMENTATION_MAX_TEXTURE_LEVELS)
    {fuel : Nat} (hfuel : IMPLEMENTATION_MAX_TEXTURE_LEVELS + 2 ≤ fuel) :
    t.computeMipmapCompleteness? fuel = some t.computeMipmapCompleteness := by
  have hbase : t.getEffectiveBaseLevel ≤ IMPLEMENTATION_MAX_TEXTURE_LEVELS :=
    (le_add_right _ _).trans hlast
  have hmax : t.getMipmapMaxLevel? = some t.getMipmapMaxLevel := by
    have hfits : (t.getEffectiveBaseLevel + t.expectedMipLevels) % 2 ^ 32 =
        t.getEffectiveBaseLevel + t.expectedMipLevels := by
      apply mod_eq_of_lt
      unfold IMPLEMENTATION_MAX_TEXTURE_LEVELS at hlast
      omega
    rw [getMipmapMaxLevel?, getImageDesc?_eq getBaseImageTarget_mem hbase, getMipmapMaxLevel_eq,
      ← hfits]
    unfold expectedMipLevels maxSize
    simp [apply_ite log2, baseImageDesc]
  have hle : t.getMipmapMaxLevel ≤ IMPLEMENTATION_MAX_TEXTURE_LEVELS := by
    rw [getMipmapMaxLevel_eq]
    exact (min_le_left _ _).trans hlast
  obtain ⟨fuel, rfl⟩ := Nat.exists_eq_add_of_le' (Nat.one_le_of_lt hfuel)
  rw [computeMipmapCompleteness?, hmax]
  exact levelsComplete?_eq hle hbase fuel _ (by omega)

/-! ## The sizes of the levels -/

theorem log2_add_le {n : Nat} (hn : n ≤ 16384 / 2 ^ level)
    (hlevel : level ≤ IMPLEMENTATION_MAX_TEXTURE_LEVELS) :
    level + Nat.log2 n ≤ IMPLEMENTATION_MAX_TEXTURE_LEVELS := by
  rcases Nat.eq_zero_or_pos n with rfl | hpos
  · exact hlevel
  · have hpow : 2 ^ level * 2 ^ log2 n ≤ 2 ^ 14 :=
      calc 2 ^ level * 2 ^ log2 n
        _ ≤ 2 ^ level * (16384 / 2 ^ level) :=
            mul_le_mul_left _ ((log2_self_le (by omega)).trans hn)
        _ ≤ 2 ^ 14 := mul_div_le _ _
    rw [← pow_add] at hpow
    have := (Nat.pow_le_pow_iff_right (by decide)).mp hpow
    unfold IMPLEMENTATION_MAX_TEXTURE_LEVELS
    omega

theorem Validated.maxSize_le (h : t.Validated) (target : TextureTarget) (level : Nat) :
    GlTexture.maxSize t.mType (t.mImageDescs target level).size ≤ 16384 / 2 ^ level := by
  have hsize := h.size target level
  unfold maxSize
  split
  · rename_i htype
    exact Nat.max_le.mpr ⟨Nat.max_le.mpr ⟨hsize.1, hsize.2.1⟩, hsize.2.2 htype⟩
  · exact Nat.max_le.mpr ⟨hsize.1, hsize.2.1⟩

theorem Validated.immutableLevels_le (h : t.Validated) (himmutable : t.mImmutableFormat) :
    t.mImmutableLevels ≤ IMPLEMENTATION_MAX_TEXTURE_LEVELS := by
  obtain ⟨hlevels, size, format, samples, -, hdescs⟩ := h.immutable himmutable
  have hlast := hdescs _ getBaseImageTarget_mem (t.mImmutableLevels - 1) (by omega)
  have hwidth : (t.mImageDescs t.getBaseImageTarget (t.mImmutableLevels - 1)).size.width =
      max 1 (size.width / 2 ^ (t.mImmutableLevels - 1)) :=
    congrArg (fun image => image.size.width) hlast
  have hpow : 1 ≤ 16384 / 2 ^ (t.mImmutableLevels - 1) :=
    calc 1
      _ ≤ (t.mImageDescs t.getBaseImageTarget (t.mImmutableLevels - 1)).size.width := by
          rw [hwidth]
          exact le_max_left _ _
      _ ≤ _ := (h.size _ _).1
  have hexponent : 2 ^ (t.mImmutableLevels - 1) ≤ 2 ^ 14 :=
    (Nat.one_le_div_iff (Nat.two_pow_pos _)).mp hpow
  have := (Nat.pow_le_pow_iff_right (by decide)).mp hexponent
  unfold IMPLEMENTATION_MAX_TEXTURE_LEVELS
  omega

theorem Validated.getEffectiveBaseLevel_le (h : t.Validated) :
    t.getEffectiveBaseLevel ≤ IMPLEMENTATION_MAX_TEXTURE_LEVELS := by
  unfold getEffectiveBaseLevel
  split
  · rename_i himmutable
    have := h.immutableLevels_le himmutable
    omega
  · exact min_le_right _ _

theorem Validated.expectedMipLevels_le (h : t.Validated) :
    t.getEffectiveBaseLevel + t.expectedMipLevels ≤ IMPLEMENTATION_MAX_TEXTURE_LEVELS :=
  log2_add_le (h.maxSize_le _ _) h.getEffectiveBaseLevel_le

/-! ## Completeness of validated images -/

section Bases

variable (hbase : t.gl.mipmapBase = t.getEffectiveBaseLevel)
include hbase

theorem gl_mipmapImage : t.gl.mipmapImage = t.baseImageDesc.gl := by
  rw [mipmapImage, hbase, gl_firstTarget]
  rfl

theorem gl_mipmapMax : t.gl.mipmapMax = t.getEffectiveMaxLevel := by
  unfold mipmapMax getEffectiveMaxLevel
  rw [hbase]
  simp only [gl]
  cases t.mImmutableFormat <;> rfl

theorem gl_mipmapLast : t.gl.mipmapLast = t.getMipmapMaxLevel := by
  rw [mipmapLast, gl_mipmapImage hbase, gl_mipmapMax hbase, hbase, getMipmapMaxLevel_eq]
  rfl

end Bases

theorem gl_mipmapBase_of_immutable (himmutable : t.mImmutableFormat) :
    t.gl.mipmapBase = t.getEffectiveBaseLevel := by
  unfold mipmapBase getEffectiveBaseLevel gl
  rw [if_pos himmutable, if_pos himmutable]

theorem gl_mipmapBase_of_mutable (hmutable : t.mImmutableFormat = false) :
    t.gl.mipmapBase = t.mBaseLevel := by
  unfold mipmapBase gl
  rw [hmutable]
  rfl

theorem computeLevelCompleteness_of_immutable (himmutable : t.mImmutableFormat)
    (target : TextureTarget) (level : Nat) : t.computeLevelCompleteness target level := by
  unfold computeLevelCompleteness
  simp [himmutable]

theorem computeMipmapCompleteness_of_immutable (himmutable : t.mImmutableFormat) :
    t.computeMipmapCompleteness :=
  computeMipmapCompleteness_iff.mpr fun level _ _ target _ =>
    computeLevelCompleteness_of_immutable himmutable target level

theorem max_one_div (n i j : Nat) :
    max 1 (max 1 (n / 2 ^ i) / 2 ^ j) = max 1 (n / 2 ^ (i + j)) := by
  rw [Nat.pow_add, ← Nat.div_div_eq_div_mul]
  rcases Nat.eq_zero_or_pos (n / 2 ^ i) with hzero | hpos
  · rw [hzero, Nat.zero_div]
    have : max 1 0 / 2 ^ j ≤ 1 := Nat.div_le_self (max 1 0) _
    omega
  · rw [Nat.max_eq_right hpos]

theorem mipmapSize_mipmapSize (type : TextureType) (size : Extents) (i j : Nat) :
    GlTexture.mipmapSize type (GlTexture.mipmapSize type size i) j =
      GlTexture.mipmapSize type size (i + j) := by
  unfold mipmapSize
  by_cases htype : type = ._3D
  · simp [htype, max_one_div]
  · simp [htype, max_one_div]

/-- The storage of an immutable texture is mipmap complete. -/
theorem Validated.mipmapComplete_of_immutable (h : t.Validated)
    (himmutable : t.mImmutableFormat) : t.gl.MipmapComplete := by
  obtain ⟨hlevels, size, format, samples, hdepth, hdescs⟩ := h.immutable himmutable
  have hbase := gl_mipmapBase_of_immutable himmutable
  have hfirst : t.getEffectiveBaseLevel < t.mImmutableLevels := by
    rw [getEffectiveBaseLevel, if_pos himmutable]
    omega
  have hmax : t.getEffectiveMaxLevel < t.mImmutableLevels := by
    rw [getEffectiveMaxLevel, if_pos himmutable]
    omega
  have himage : t.gl.mipmapImage =
      ⟨mipmapSize t.mType size t.getEffectiveBaseLevel, format, samples⟩ := by
    rw [gl_mipmapImage hbase]
    exact hdescs _ getBaseImageTarget_mem _ hfirst
  have hlast : ∀ level ≤ t.gl.mipmapLast, level < t.mImmutableLevels := by
    intro level hle
    rw [gl_mipmapLast hbase, getMipmapMaxLevel_eq] at hle
    omega
  refine ⟨?_, ?_, ?_, ?_, ?_⟩
  · rw [gl_mipmapMax hbase, hbase, getEffectiveMaxLevel, if_pos himmutable]
    omega
  · intro hcube
    exact h.square hcube _ _
  · rw [himage]
    unfold mipmapSize
    split
    · exact Nat.lt_of_lt_of_le Nat.one_pos (Nat.le_max_left _ _)
    · exact hdepth
  · intro target htarget level hle hlevel
    have hsum : t.getEffectiveBaseLevel + (level - t.gl.mipmapBase) = level := by
      omega
    rw [himage, show t.gl.type = t.mType from rfl, mipmapSize_mipmapSize, hsum]
    exact congrArg GlImage.size (hdescs target htarget level (hlast level hlevel))
  · intro target htarget level hle hlevel
    rw [himage]
    show (t.mImageDescs target level).gl.sizedInternalFormat = format
    rw [hdescs target htarget level (hlast level hlevel)]

section Mutable

variable (hmutable : t.mImmutableFormat = false)
include hmutable

theorem getEffectiveMaxLevel_of_mutable : t.getEffectiveMaxLevel = t.mMaxLevel := by
  rw [getEffectiveMaxLevel, hmutable]
  rfl

theorem getEffectiveBaseLevel_of_mutable :
    t.getEffectiveBaseLevel = min t.mBaseLevel IMPLEMENTATION_MAX_TEXTURE_LEVELS := by
  rw [getEffectiveBaseLevel, hmutable]
  rfl

theorem computeLevelCompleteness_iff (target : TextureTarget) (level : Nat) :
    t.computeLevelCompleteness target level ↔
      (t.baseImageDesc.size.width ≠ 0 ∧ t.baseImageDesc.size.height ≠ 0 ∧
        t.baseImageDesc.size.depth ≠ 0) ∧ (t.mImageDescs target level).size.depth ≠ 0 ∧
      (t.mImageDescs target level).format.sizedInternalFormat =
        t.baseImageDesc.format.sizedInternalFormat ∧
      (t.mImageDescs target level).size.width =
        max 1 (t.baseImageDesc.size.width / 2 ^ (level - t.getEffectiveBaseLevel)) ∧
      (t.mImageDescs target level).size.height =
        max 1 (t.baseImageDesc.size.height / 2 ^ (level - t.getEffectiveBaseLevel)) ∧
      (t.mType = ._3D → (t.mImageDescs target level).size.depth =
        max 1 (t.baseImageDesc.size.depth / 2 ^ (level - t.getEffectiveBaseLevel))) ∧
      (t.mType = ._2DArray →
        (t.mImageDescs target level).size.depth = t.baseImageDesc.size.depth) := by
  unfold computeLevelCompleteness
  simp only [hmutable, Bool.false_eq_true, false_or, decide_eq_true_eq, shiftRight_eq_div_pow]
  constructor
  · rintro ⟨hw, hh, hd, -, -, hdepth, hformat, hwidth, hheight, h3d, harray⟩
    exact ⟨⟨hw, hh, hd⟩, hdepth, hformat, hwidth, hheight, h3d, harray⟩
  · rintro ⟨⟨hw, hh, hd⟩, hdepth, hformat, hwidth, hheight, h3d, harray⟩
    exact ⟨hw, hh, hd, by omega, by omega, hdepth, hformat, hwidth, hheight, h3d, harray⟩

theorem computeMipmapCompleteness_of_lt (hlt : t.mMaxLevel < t.getEffectiveBaseLevel) :
    t.computeMipmapCompleteness := by
  rw [computeMipmapCompleteness_iff]
  intro level hle hlevel
  rw [getMipmapMaxLevel_eq, getEffectiveMaxLevel_of_mutable hmutable] at hlevel
  omega

theorem base_le_getMipmapMaxLevel (hle : t.getEffectiveBaseLevel ≤ t.mMaxLevel) :
    t.getEffectiveBaseLevel ≤ t.getMipmapMaxLevel := by
  rw [getMipmapMaxLevel_eq, getEffectiveMaxLevel_of_mutable hmutable]
  omega

theorem Validated.not_complete_of_base_gt (h : t.Validated)
    (hgt : IMPLEMENTATION_MAX_TEXTURE_LEVELS < t.mBaseLevel)
    (hle : t.getEffectiveBaseLevel ≤ t.mMaxLevel) :
    t.computeMipmapCompleteness ≠ true ∧ ¬ t.gl.MipmapComplete := by
  have hempty : ∀ target level, IMPLEMENTATION_MAX_TEXTURE_LEVELS ≤ level →
      (t.mImageDescs target level).size.width = 0 := by
    intro target level hlevel
    have hwidth := (h.size target level).1
    have hpow : 2 ^ 15 ≤ 2 ^ level := Nat.pow_le_pow_right (by decide) hlevel
    rw [div_eq_of_lt (by omega)] at hwidth
    exact le_zero.mp hwidth
  have hbase : t.getEffectiveBaseLevel = IMPLEMENTATION_MAX_TEXTURE_LEVELS := by
    rw [getEffectiveBaseLevel_of_mutable hmutable]
    omega
  constructor
  · intro hcomplete
    have hlevel := computeMipmapCompleteness_iff.mp hcomplete _ (le_refl _)
      (base_le_getMipmapMaxLevel hmutable hle) _ getBaseImageTarget_mem
    exact ((computeLevelCompleteness_iff hmutable _ _).mp hlevel).1.1 (hempty _ _ hbase.ge)
  · intro hcomplete
    have hfirst : t.gl.mipmapBase ≤ t.gl.mipmapLast := by
      have := hcomplete.ordered
      unfold mipmapLast
      omega
    have hsize := hcomplete.sizes _ (gl_firstTarget ▸ getBaseImageTarget_mem) _ (le_refl _)
      hfirst
    have hwidth : (t.mImageDescs t.gl.firstTarget t.gl.mipmapBase).size.width =
        max 1 (t.gl.mipmapImage.size.width / 2 ^ (t.gl.mipmapBase - t.gl.mipmapBase)) :=
      congrArg Extents.width hsize
    rw [gl_mipmapBase_of_mutable hmutable, hempty _ _ hgt.le] at hwidth
    omega

/-- Images other than those of three dimensions have as many layers as the base image. -/
theorem Validated.depth_eq (h : t.Validated) (htype : t.mType ≠ ._3D)
    (harray : t.mType = ._2DArray →
      (t.mImageDescs target level).size.depth = t.baseImageDesc.size.depth)
    (hdepth : (t.mImageDescs target level).size.depth ≠ 0)
    (hbase : t.baseImageDesc.size.depth ≠ 0) :
    (t.mImageDescs target level).size.depth = t.baseImageDesc.size.depth := by
  cases hlayers : t.mType.hasDepth with
  | false =>
      have hlevelDepth := h.flat hlayers target level
      have hbaseDepth : t.baseImageDesc.size.depth ≤ 1 := h.flat hlayers _ _
      omega
  | true =>
    cases hmultisampled : t.mType.isMultisampled with
    | false =>
        apply harray
        revert htype hlayers hmultisampled
        cases t.mType <;> decide
    | true =>
        have hsize := h.multisampled hmultisampled hmutable target level
        exact absurd (congrArg Extents.depth hsize) hdepth

/-- Where the loop reaches the base level, it decides completeness. -/
theorem Validated.computeMipmapCompleteness_iff_of_le (h : t.Validated)
    (hle : t.getEffectiveBaseLevel ≤ t.mMaxLevel) :
    t.computeMipmapCompleteness ↔ t.gl.MipmapComplete := by
  rcases lt_or_ge IMPLEMENTATION_MAX_TEXTURE_LEVELS t.mBaseLevel with hgt | hwithin
  · have hneither := h.not_complete_of_base_gt hmutable hgt hle
    exact ⟨fun hcomplete => absurd hcomplete hneither.1,
      fun hcomplete => absurd hcomplete hneither.2⟩
  have hbase : t.gl.mipmapBase = t.getEffectiveBaseLevel := by
    rw [gl_mipmapBase_of_mutable hmutable, getEffectiveBaseLevel_of_mutable hmutable,
      min_eq_left hwithin]
  have himage : t.gl.mipmapImage.size = t.baseImageDesc.size :=
    congrArg GlImage.size (gl_mipmapImage hbase)
  have hformat :
      t.gl.mipmapImage.sizedInternalFormat = t.baseImageDesc.format.sizedInternalFormat :=
    congrArg GlImage.sizedInternalFormat (gl_mipmapImage hbase)
  have hfirst := base_le_getMipmapMaxLevel hmutable hle
  rw [computeMipmapCompleteness_iff]
  constructor
  · intro hlevels
    have hlevel : ∀ target ∈ t.mType.targets, ∀ level, t.getEffectiveBaseLevel ≤ level →
        level ≤ t.getMipmapMaxLevel → _ := fun target htarget level hle hlast =>
      (computeLevelCompleteness_iff hmutable target level).mp
        (hlevels level hle hlast target htarget)
    have hbaseLevel := hlevel _ getBaseImageTarget_mem _ (le_refl _) hfirst
    refine ⟨?_, ?_, ?_, ?_, ?_⟩
    · rwa [gl_mipmapMax hbase, hbase, getEffectiveMaxLevel_of_mutable hmutable]
    · intro hcube
      exact h.square hcube _ _
    · rw [himage]
      exact Nat.pos_of_ne_zero hbaseLevel.1.2.2
    · intro target htarget level hge hlast
      rw [hbase] at hge
      rw [gl_mipmapLast hbase] at hlast
      obtain ⟨⟨-, -, hbaseDepth⟩, hdepth, -, hwidth, hheight, h3d, harray⟩ :=
        hlevel target htarget level hge hlast
      rw [himage, hbase]
      apply Extents.ext
      · exact hwidth
      · exact hheight
      · show (t.mImageDescs target level).size.depth = if t.mType = ._3D then _ else _
        split
        · rename_i htype
          exact h3d htype
        · rename_i htype
          exact h.depth_eq hmutable htype harray hdepth hbaseDepth
    · intro target htarget level hge hlast
      rw [hbase] at hge
      rw [gl_mipmapLast hbase] at hlast
      rw [hformat]
      exact (hlevel target htarget level hge hlast).2.2.1
  · intro hcomplete level hge hlast target htarget
    have hsizes : ∀ target ∈ t.mType.targets, ∀ level, t.getEffectiveBaseLevel ≤ level →
        level ≤ t.getMipmapMaxLevel → (t.mImageDescs target level).size =
          mipmapSize t.mType t.baseImageDesc.size (level - t.getEffectiveBaseLevel) := by
      have := hcomplete.sizes
      rwa [hbase, gl_mipmapLast hbase, himage] at this
    have hbaseSize : t.baseImageDesc.size = mipmapSize t.mType t.baseImageDesc.size
        (t.getEffectiveBaseLevel - t.getEffectiveBaseLevel) :=
      hsizes _ getBaseImageTarget_mem _ (le_refl _) hfirst
    have hsize := hsizes target htarget level hge hlast
    have hdepth : 0 < t.baseImageDesc.size.depth := himage ▸ hcomplete.depth
    have hformats := hcomplete.formats target htarget level (hbase ▸ hge)
      (gl_mipmapLast hbase ▸ hlast)
    have hwidth := congrArg Extents.width hbaseSize
    have hheight := congrArg Extents.height hbaseSize
    simp only [mipmapSize] at hwidth hheight
    rw [computeLevelCompleteness_iff hmutable, hsize]
    refine ⟨⟨by omega, by omega, by omega⟩, ?_, hformats.trans hformat, rfl, rfl, fun htype => ?_,
      fun htype => ?_⟩
    · simp only [mipmapSize]
      split <;> omega
    · simp [mipmapSize, if_pos htype]
    · simp [mipmapSize, htype]

end Mutable

/-! ## Chains of mipmaps -/

section Chain

variable (format : InternalFormat) (initState : InitState)

theorem mipmapChain_getEffectiveBaseLevel :
    (t.mipmapChain format initState).getEffectiveBaseLevel = t.getEffectiveBaseLevel := by
  rw [mipmapChain, setImageDescChain_eq]
  rfl

theorem mipmapChain_getEffectiveMaxLevel :
    (t.mipmapChain format initState).getEffectiveMaxLevel = t.getEffectiveMaxLevel := by
  rw [mipmapChain, setImageDescChain_eq]
  rfl

theorem mipmapChain_mType : (t.mipmapChain format initState).mType = t.mType := by
  rw [mipmapChain, setImageDescChain_eq]

theorem mipmapChain_mImmutableFormat :
    (t.mipmapChain format initState).mImmutableFormat = t.mImmutableFormat := by
  rw [mipmapChain, setImageDescChain_eq]

theorem mipmapChain_mImageDescs
    (htarget : target ∈ t.mType.targets) (hge : t.getEffectiveBaseLevel ≤ level)
    (hle : level ≤ t.getMipmapMaxLevel) :
    (t.mipmapChain format initState).mImageDescs target level =
      .new (levelSize t.mType t.baseImageDesc.size (level - t.getEffectiveBaseLevel)) format
        initState := by
  rw [mipmapChain, setImageDescChain_eq]
  exact if_pos ⟨htarget, hge, hle⟩

theorem mipmapChain_baseImageDesc (hle : t.getEffectiveBaseLevel ≤ t.getMipmapMaxLevel) :
    (t.mipmapChain format initState).baseImageDesc =
      .new (levelSize t.mType t.baseImageDesc.size 0) format initState := by
  have htarget : (t.mipmapChain format initState).getBaseImageTarget = t.getBaseImageTarget := by
    unfold getBaseImageTarget
    rw [mipmapChain_mType]
  rw [baseImageDesc, htarget, mipmapChain_getEffectiveBaseLevel,
    mipmapChain_mImageDescs format initState getBaseImageTarget_mem (le_refl _) hle,
    Nat.sub_self]

theorem log2_max_one (n : Nat) : Nat.log2 (max n 1) = Nat.log2 n := by
  rcases Nat.eq_zero_or_pos n with rfl | hpos
  · rfl
  · rw [max_eq_left hpos]

theorem log2_maxSize_levelSize (type : TextureType) (size : Extents) :
    Nat.log2 (GlTexture.maxSize type (levelSize type size 0)) =
      Nat.log2 (GlTexture.maxSize type size) := by
  rw [← log2_max_one (maxSize type size)]
  congr 1
  unfold maxSize levelSize
  by_cases htype : type = ._3D
  · simp only [htype, if_true, reduceCtorEq, if_false]
    omega
  · simp only [htype, if_false]
    omega

theorem mipmapChain_expectedMipLevels (hle : t.getEffectiveBaseLevel ≤ t.getMipmapMaxLevel) :
    (t.mipmapChain format initState).expectedMipLevels = t.expectedMipLevels := by
  rw [expectedMipLevels, mipmapChain_baseImageDesc format initState hle, mipmapChain_mType]
  exact log2_maxSize_levelSize _ _

theorem mipmapChain_getMipmapMaxLevel (hle : t.getEffectiveBaseLevel ≤ t.getMipmapMaxLevel) :
    (t.mipmapChain format initState).getMipmapMaxLevel = t.getMipmapMaxLevel := by
  rw [getMipmapMaxLevel_eq, getMipmapMaxLevel_eq, mipmapChain_getEffectiveBaseLevel,
    mipmapChain_getEffectiveMaxLevel, mipmapChain_expectedMipLevels format initState hle]

theorem mipmapChain_mImageDescs_of_lt (hlt : t.getMipmapMaxLevel < t.getEffectiveBaseLevel) :
    (t.mipmapChain format initState).mImageDescs = t.mImageDescs := by
  rw [mipmapChain, setImageDescChain_eq]
  funext target level
  exact if_neg (by omega)

theorem Validated.mipmapChain_expectedMipLevels_le (h : t.Validated) :
    (t.mipmapChain format initState).getEffectiveBaseLevel +
        (t.mipmapChain format initState).expectedMipLevels ≤
      IMPLEMENTATION_MAX_TEXTURE_LEVELS := by
  have hlevels : (t.mipmapChain format initState).expectedMipLevels = t.expectedMipLevels := by
    rcases lt_or_ge t.getMipmapMaxLevel t.getEffectiveBaseLevel with hlt | hle
    · unfold expectedMipLevels baseImageDesc getBaseImageTarget
      rw [mipmapChain_mImageDescs_of_lt format initState hlt, mipmapChain_mType,
        mipmapChain_getEffectiveBaseLevel]
    · exact mipmapChain_expectedMipLevels format initState hle
  rw [mipmapChain_getEffectiveBaseLevel, hlevels]
  exact h.expectedMipLevels_le

theorem max_shiftRight (n i : Nat) : max (n >>> i) 1 = max 1 (max (n >>> 0) 1 / 2 ^ i) := by
  rw [shiftRight_zero, shiftRight_eq_div_pow]
  rcases Nat.eq_zero_or_pos n with rfl | hpos
  · have : max 0 1 / 2 ^ i ≤ 1 := div_le_self (max 0 1) _
    rw [Nat.zero_div]
    omega
  · rw [Nat.max_eq_left (b := 1) hpos, Nat.max_comm]

/-- A chain of mipmaps is complete, except for arrays without layers. -/
theorem mipmapChain_computeMipmapCompleteness_iff (hmutable : t.mImmutableFormat = false)
    (hbase : t.getEffectiveBaseLevel ≤ t.mMaxLevel) :
    (t.mipmapChain format initState).computeMipmapCompleteness ↔
      ¬ (t.mType = ._2DArray ∧ t.baseImageDesc.size.depth = 0) := by
  have hle := base_le_getMipmapMaxLevel hmutable hbase
  have hchain : (t.mipmapChain format initState).mImmutableFormat = false := by
    rw [mipmapChain_mImmutableFormat, hmutable]
  rw [computeMipmapCompleteness_iff, mipmapChain_getEffectiveBaseLevel,
    mipmapChain_getMipmapMaxLevel format initState hle, mipmapChain_mType]
  constructor
  · rintro h ⟨htype, hdepth⟩
    have hlevel := h _ (le_refl _) hle _ getBaseImageTarget_mem
    have hnonempty := ((computeLevelCompleteness_iff hchain _ _).mp hlevel).1.2.2
    rw [mipmapChain_baseImageDesc format initState hle] at hnonempty
    exact hnonempty ((if_pos htype).trans hdepth)
  · intro hlayers level hge hlast target htarget
    have hdepth (i : Nat) : (levelSize t.mType t.baseImageDesc.size i).depth ≠ 0 := by
      show (if t.mType = ._2DArray then _ else _) ≠ 0
      split
      · rename_i htype
        exact fun hzero => hlayers ⟨htype, hzero⟩
      · omega
    rw [computeLevelCompleteness_iff hchain, mipmapChain_baseImageDesc format initState hle,
      mipmapChain_mImageDescs format initState htarget hge hlast, mipmapChain_mType,
      mipmapChain_getEffectiveBaseLevel]
    refine ⟨⟨?_, ?_, hdepth 0⟩, hdepth _, rfl, max_shiftRight _ _, max_shiftRight _ _,
      fun htype => ?_, fun htype => ?_⟩
    · exact Nat.ne_of_gt (Nat.lt_of_lt_of_le Nat.one_pos (Nat.le_max_right _ _))
    · exact Nat.ne_of_gt (Nat.lt_of_lt_of_le Nat.one_pos (Nat.le_max_right _ _))
    · simp only [ImageDesc.new, levelSize, htype, reduceCtorEq, if_false]
      exact max_shiftRight _ _
    · simp [ImageDesc.new, levelSize, htype]

end Chain

/-! ## Mipmap completeness is as it is specified -/

/-- The completeness that is computed is the specified one, and chains of mipmaps are complete, when
the texture is immutable, or when the base level that is looked at is at most the maximum level and
the texture is no array without layers. -/
theorem followsGl_iff (h : t.Validated) :
    t.FollowsGl ↔ t.mImmutableFormat = true ∨
      min t.mBaseLevel IMPLEMENTATION_MAX_TEXTURE_LEVELS ≤ t.mMaxLevel ∧
        ¬ (t.mType = ._2DArray ∧ t.baseImageDesc.size.depth = 0) := by
  have hcomputed : ∀ {fuel : Nat}, IMPLEMENTATION_MAX_TEXTURE_LEVELS + 2 ≤ fuel →
      t.computeMipmapCompleteness? fuel = some t.computeMipmapCompleteness :=
    computeMipmapCompleteness?_eq h.expectedMipLevels_le
  have hchain : ∀ {fuel : Nat}, IMPLEMENTATION_MAX_TEXTURE_LEVELS + 2 ≤ fuel →
      ∀ format initState, (t.mipmapChain format initState).computeMipmapCompleteness? fuel =
        some (t.mipmapChain format initState).computeMipmapCompleteness :=
    fun hfuel format initState =>
      computeMipmapCompleteness?_eq (h.mipmapChain_expectedMipLevels_le format initState) hfuel
  have hiff : t.FollowsGl ↔ (t.computeMipmapCompleteness = true ↔ t.gl.MipmapComplete) ∧
      ∀ format initState, (t.mipmapChain format initState).computeMipmapCompleteness = true := by
    constructor
    · rintro ⟨⟨fuel, hfuel⟩, hchains⟩
      refine ⟨?_, fun format initState => ?_⟩
      · obtain ⟨complete, hsome, hcomplete⟩ := hfuel _ (le_max_left _ _)
        rw [hcomputed (le_max_right fuel _), some_inj] at hsome
        rwa [hsome]
      · obtain ⟨fuel, hfuel⟩ := hchains format initState
        have hsome := hfuel _ (le_max_left _ (IMPLEMENTATION_MAX_TEXTURE_LEVELS + 2))
        rwa [hchain (le_max_right _ _), some_inj] at hsome
    · rintro ⟨hcomplete, hchains⟩
      refine ⟨⟨_, fun more hmore => ⟨_, hcomputed hmore, hcomplete⟩⟩, fun format initState => ?_⟩
      exact ⟨_, fun more hmore => by rw [hchain hmore, hchains format initState]⟩
  rw [hiff]
  cases himmutable : t.mImmutableFormat with
  | true =>
      refine ⟨fun _ => .inl rfl, fun _ => ⟨?_, fun format initState => ?_⟩⟩
      · exact ⟨fun _ => h.mipmapComplete_of_immutable himmutable,
          fun _ => computeMipmapCompleteness_of_immutable himmutable⟩
      · apply computeMipmapCompleteness_of_immutable
        rw [mipmapChain_mImmutableFormat, himmutable]
  | false =>
    have hbase := getEffectiveBaseLevel_of_mutable himmutable
    rw [← hbase]
    constructor
    · rintro ⟨hcomplete, hchains⟩
      right
      have hle : t.getEffectiveBaseLevel ≤ t.mMaxLevel := by
        by_contra hlt
        have hordered := (hcomplete.mp
          (computeMipmapCompleteness_of_lt himmutable (Nat.lt_of_not_le hlt))).ordered
        have hmax : t.gl.mipmapMax = t.mMaxLevel := by
          unfold mipmapMax gl
          rw [himmutable]
          rfl
        rw [hmax, gl_mipmapBase_of_mutable himmutable] at hordered
        omega
      exact ⟨hle, (mipmapChain_computeMipmapCompleteness_iff .invalid .Initialized himmutable
        hle).mp (hchains _ _)⟩
    · rintro (hfalse | ⟨hle, hlayers⟩)
      · exact absurd hfalse Bool.false_ne_true
      · exact ⟨h.computeMipmapCompleteness_iff_of_le himmutable hle, fun format initState =>
          (mipmapChain_computeMipmapCompleteness_iff format initState himmutable hle).mpr hlayers⟩

def oneImage : Texture :=
  (new ._2D).setImageDesc (.nonCube ._2D) 0 (.new ⟨4, 2, 1⟩ .invalid .Initialized)

theorem validated_oneImage : oneImage.Validated where
  size target level := by
    rw [oneImage, setImageDesc_mImageDescs]
    split
    · rename_i h
      rw [h.2]
      decide
    · simp [new, ImageDesc.none]
  flat _ target level := by
    rw [oneImage, setImageDesc_mImageDescs]
    split
    · decide
    · exact zero_le _
  square hcube := absurd hcube (by decide)
  multisampled hmultisampled := absurd hmultisampled (by decide)
  immutable himmutable := absurd himmutable (by decide)

theorem followsGl_iff_oneImage : oneImage.Validated ∧ oneImage.FollowsGl :=
  ⟨validated_oneImage, (followsGl_iff validated_oneImage).mpr (.inr (by decide))⟩

def crossedLevels : Texture := { new ._2D with mBaseLevel := 2, mMaxLevel := 1 }

theorem validated_crossedLevels : crossedLevels.Validated where
  size _ _ := ⟨zero_le _, zero_le _, fun _ => zero_le _⟩
  flat _ _ _ := zero_le _
  square _ _ _ := rfl
  multisampled _ _ _ _ := rfl
  immutable himmutable := absurd himmutable (by decide)

theorem not_followsGl_crossedLevels : crossedLevels.Validated ∧ ¬ crossedLevels.FollowsGl := by
  refine ⟨validated_crossedLevels, ?_⟩
  rintro ⟨⟨fuel, hfuel⟩, -⟩
  obtain ⟨complete, hsome, hcomplete⟩ :=
    hfuel (max fuel (IMPLEMENTATION_MAX_TEXTURE_LEVELS + 2)) (le_max_left _ _)
  rw [computeMipmapCompleteness?_eq validated_crossedLevels.expectedMipLevels_le
    (le_max_right _ _), some_inj,
    computeMipmapCompleteness_of_lt rfl (by decide)] at hsome
  exact absurd (hcomplete.mp hsome.symm).ordered (by decide)

end Texture

end MetalAngle.Gl.Textures
