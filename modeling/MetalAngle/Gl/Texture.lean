import Mathlib.Data.Fin.Basic
import MetalAngle.Gl.SamplerState
import MetalAngle.Lib.Fallible
import MetalAngle.Lib.LabelledRun

/-!
# Textures

A texture describes each of its images, keeps a summary of whether any of them has to be initialized
before it is read, and caches what is computed of the images for samplers.
-/

namespace MetalAngle.Gl.Textures

open List

abbrev TextureID := Nat
abbrev ContextID := Nat
abbrev SamplerID := Nat

def IMPLEMENTATION_MAX_TEXTURE_LEVELS : Nat := 15

inductive InitState
  | MayNeedInit | Initialized
deriving DecidableEq

inductive TextureTarget
  | nonCube (type : TextureType)
  | cubeMapFace (face : Fin 6)
deriving DecidableEq

def TextureType.targets : TextureType → List TextureTarget
  | CubeMap => (List.finRange 6).map .cubeMapFace
  | type => [.nonCube type]

def TextureType.isMultisampled (type : TextureType) : Bool :=
  type = _2DMultisample ∨ type = _2DMultisampleArray

def TextureType.hasDepth (type : TextureType) : Bool :=
  type = _3D ∨ type = _2DArray ∨ type = _2DMultisampleArray

@[ext] structure Extents where
  width : Nat
  height : Nat
  depth : Nat
deriving DecidableEq

structure Box where
  x : Int
  y : Int
  z : Int
  width : Nat
  height : Nat
  depth : Nat

/-! ## Formats -/

structure ContextState where
  clientMajorVersion : Nat
  textureNPOT : Bool
  extensions : Nat → Bool

inductive BaseFormat
  | DepthComponent | DepthStencil | Other
deriving DecidableEq

inductive ComponentType
  | UnsignedNormalized | SignedNormalized | Float | Int | UnsignedInt | None

/-- An entry of the format table.  The sized format 0 is `GL_NONE`. -/
structure InternalFormat where
  sizedInternalFormat : Nat
  format : BaseFormat
  componentType : ComponentType
  depthBits : Nat
  sized : Bool
  filterSupport : ContextState → Bool

def InternalFormat.invalid : InternalFormat :=
  ⟨0, .Other, .None, 0, false, fun _ => false⟩

inductive SamplerFormat
  | Float | Unsigned | Signed | Shadow | InvalidEnum
deriving DecidableEq

/-! ## Images -/

structure ImageDesc where
  size : Extents
  format : InternalFormat
  samples : Nat
  fixedSampleLocations : Bool
  initState : InitState

def ImageDesc.none : ImageDesc := ⟨⟨0, 0, 0⟩, .invalid, 0, true, .Initialized⟩

def ImageDesc.new (size : Extents) (format : InternalFormat) (initState : InitState) : ImageDesc :=
  ⟨size, format, 0, true, initState⟩

structure ImageIndex where
  target : Option TextureTarget
  level : Nat

structure SamplerCompletenessCache where
  context : ContextID
  samplerState : SamplerState
  samplerComplete : Bool

/-- A texture.  `mWritten` tells the images that have been written since they were defined, and
`mErased` whether one of them has been initialized after that. -/
structure Texture where
  mType : TextureType
  mSamplerState : SamplerState
  mBaseLevel : Nat
  mMaxLevel : Nat
  mDepthStencilTextureModeStencil : Bool
  mImmutableFormat : Bool
  mImmutableLevels : Nat
  mImageDescs : TextureTarget → Nat → ImageDesc
  mGenerateMipmapHint : Bool
  mInitState : InitState
  mCachedSamplerFormat : SamplerFormat
  mCachedSamplerCompareMode : CompareMode
  mCachedSamplerFormatValid : Bool
  mCompletenessCache : SamplerCompletenessCache
  mBoundSurface : Bool
  mTargetOf : Bool
  mWritten : TextureTarget → Nat → Bool
  mErased : Bool

structure Backend where
  releaseTexImage : Bool
  orphanImages : Bool
  initializeContents : TextureTarget → Nat → Bool
  syncState : Bool
  generateMipmap : Bool
  call : Bool

namespace Texture

variable (t : Texture)

def new (type : TextureType) : Texture :=
  { mType := type
    mSamplerState := .createDefaultForTarget type
    mBaseLevel := 0
    mMaxLevel := 1000
    mDepthStencilTextureModeStencil := false
    mImmutableFormat := false
    mImmutableLevels := 0
    mImageDescs := fun _ _ => .none
    mGenerateMipmapHint := false
    mInitState := .MayNeedInit
    mCachedSamplerFormat := .InvalidEnum
    mCachedSamplerCompareMode := .None
    mCachedSamplerFormatValid := false
    mCompletenessCache := ⟨0, .default, false⟩
    mBoundSurface := false
    mTargetOf := false
    mWritten := fun _ _ => false
    mErased := false }

/-! ## Levels -/

def getEffectiveBaseLevel : Nat :=
  if t.mImmutableFormat then min t.mBaseLevel (t.mImmutableLevels - 1)
  else min t.mBaseLevel IMPLEMENTATION_MAX_TEXTURE_LEVELS

def getEffectiveMaxLevel : Nat :=
  if t.mImmutableFormat then min (max t.mMaxLevel t.getEffectiveBaseLevel) (t.mImmutableLevels - 1)
  else t.mMaxLevel

def getBaseImageTarget : TextureTarget :=
  if t.mType = .CubeMap then .cubeMapFace 0 else .nonCube t.mType

def baseImageDesc : ImageDesc := t.mImageDescs t.getBaseImageTarget t.getEffectiveBaseLevel

def getMipmapMaxLevel : Nat :=
  let size := t.baseImageDesc.size
  let expectedMipLevels :=
    if t.mType = ._3D then Nat.log2 (max (max size.width size.height) size.depth)
    else Nat.log2 (max size.width size.height)
  min (t.getEffectiveBaseLevel + expectedMipLevels) t.getEffectiveMaxLevel

/-! ## Completeness -/

def isCubeComplete : Bool :=
  let base := t.baseImageDesc
  base.size.width ≠ 0 ∧ base.size.width = base.size.height ∧ ∀ target ∈ t.mType.targets,
    let face := t.mImageDescs target t.getEffectiveBaseLevel
    face.size.width = base.size.width ∧ face.size.height = base.size.height ∧
      face.format.sizedInternalFormat = base.format.sizedInternalFormat

def computeLevelCompleteness (target : TextureTarget) (level : Nat) : Bool :=
  let base := t.baseImageDesc
  let desc := t.mImageDescs target level
  let relativeLevel := level - t.getEffectiveBaseLevel
  t.mImmutableFormat ∨
    (base.size.width ≠ 0 ∧ base.size.height ≠ 0 ∧ base.size.depth ≠ 0 ∧
      desc.size.width ≠ 0 ∧ desc.size.height ≠ 0 ∧ desc.size.depth ≠ 0 ∧
      desc.format.sizedInternalFormat = base.format.sizedInternalFormat ∧
      desc.size.width = max 1 (base.size.width >>> relativeLevel) ∧
      desc.size.height = max 1 (base.size.height >>> relativeLevel) ∧
      (t.mType = ._3D → desc.size.depth = max 1 (base.size.depth >>> relativeLevel)) ∧
      (t.mType = ._2DArray → desc.size.depth = base.size.depth))

/-- The levels from `first` to `last`. -/
def levels (first last : Nat) : List Nat := List.range' first (last + 1 - first)

def computeMipmapCompleteness : Bool :=
  ∀ level ∈ levels t.getEffectiveBaseLevel t.getMipmapMaxLevel, ∀ target ∈ t.mType.targets,
    t.computeLevelCompleteness target level

def isPow2 (x : Nat) : Bool := x &&& (x - 1) = 0 ∧ x ≠ 0

def wraps (mode : WrapMode) : Bool := mode ≠ .ClampToEdge ∧ mode ≠ .ClampToBorder

section

variable (samplerState : SamplerState)

def nearest : Bool :=
  (samplerState.mMinFilter = .Nearest ∨ samplerState.mMinFilter = .NearestMipmapNearest) ∧
    samplerState.mMagFilter = .Nearest

def filteredCompleteness (npotSupport : Bool) : Bool :=
  let base := t.baseImageDesc
  if t.mType ≠ ._2DMultisample ∧ samplerState.isMipmapFiltered then
    (npotSupport ∨ isPow2 base.size.width ∧ isPow2 base.size.height) ∧ t.computeMipmapCompleteness
  else t.mType = .CubeMap → t.isCubeComplete

def computeSamplerCompleteness (data : ContextState) : Bool :=
  let base := t.baseImageDesc
  let npotSupport : Bool := data.textureNPOT ∨ 3 ≤ data.clientMajorVersion
  if t.mMaxLevel < t.mBaseLevel then false
  else if base.size.width = 0 ∨ base.size.height = 0 ∨ base.size.depth = 0 then false
  else if t.mType = .CubeMap ∧ base.size.width ≠ base.size.height then false
  else if ¬ t.mType.isMultisampled ∧ ¬ base.format.filterSupport data ∧
      ¬ samplerState.isPointSampled then false
  else if ¬ npotSupport ∧ (wraps samplerState.mWrapS ∧ ¬ isPow2 base.size.width ∨
      wraps samplerState.mWrapT ∧ ¬ isPow2 base.size.height) then false
  else if ¬ t.filteredCompleteness samplerState npotSupport then false
  else if t.mType = .External ∧
      (samplerState.mWrapS ≠ .ClampToEdge ∨ samplerState.mWrapT ≠ .ClampToEdge) then false
  else if t.mType = .External ∧ samplerState.mMinFilter ≠ .Linear ∧
      samplerState.mMinFilter ≠ .Nearest then false
  else if ¬ t.mType.isMultisampled ∧ 0 < base.format.depthBits ∧ 3 ≤ data.clientMajorVersion ∧
      samplerState.mCompareMode = .None ∧ base.format.sized ∧ ¬ nearest samplerState then false
  else if ¬ t.mType.isMultisampled ∧ 0 < base.format.depthBits ∧
      t.mDepthStencilTextureModeStencil ∧ ¬ nearest samplerState then false
  else true

def computeRequiredSamplerFormat : SamplerFormat :=
  let format := t.baseImageDesc.format
  if (format.format = .DepthComponent ∨ format.format = .DepthStencil) ∧
      samplerState.mCompareMode ≠ .None then .Shadow
  else
    match format.componentType with
    | .UnsignedNormalized => .Float
    | .SignedNormalized => .Float
    | .Float => .Float
    | .Int => .Signed
    | .UnsignedInt => .Unsigned
    | .None => .InvalidEnum

end

/-! ## Caches -/

def invalidateCompletenessCache : Texture :=
  { t with mCompletenessCache := { t.mCompletenessCache with context := 0 } }

/-- `Texture::isSamplerComplete`: the cache that it leaves, in which the answer is. -/
def isSamplerComplete (context : ContextID) (data : ContextState) (samplerState : SamplerState) :
    Texture :=
  if context ≠ t.mCompletenessCache.context ∨
      ¬ t.mCompletenessCache.samplerState.sameCompleteness samplerState then
    { t with
      mCompletenessCache :=
        ⟨context, samplerState, t.computeSamplerCompleteness samplerState data⟩ }
  else t

/-- `TextureState::compatibleWithSamplerFormat`: the cache that it leaves. -/
def requireSamplerFormat (samplerState : SamplerState) : Texture :=
  if ¬ t.mCachedSamplerFormatValid ∨ t.mCachedSamplerCompareMode ≠ samplerState.mCompareMode then
    { t with
      mCachedSamplerFormat := t.computeRequiredSamplerFormat samplerState
      mCachedSamplerCompareMode := samplerState.mCompareMode
      mCachedSamplerFormatValid := true }
  else t

def compatibleWithSamplerFormat (format : SamplerFormat) (samplerState : SamplerState) : Bool :=
  let cached := (t.requireSamplerFormat samplerState).mCachedSamplerFormat
  cached = .InvalidEnum ∨ format = cached

def signalDirtyStorage (initState : InitState) : Texture :=
  { { t with mInitState := initState }.invalidateCompletenessCache with
    mCachedSamplerFormatValid := false }

def signalDirtyState : Texture :=
  { t.invalidateCompletenessCache with mCachedSamplerFormatValid := false }

/-! ## Parameters -/

def setSamplerParameter (parameter : SamplerParameter) : Texture :=
  { t with mSamplerState := t.mSamplerState.set parameter }.signalDirtyState

def setMaxLevel (maxLevel : Nat) : Texture :=
  if t.mMaxLevel ≠ maxLevel then { t with mMaxLevel := maxLevel }.signalDirtyState else t

def setDepthStencilTextureMode (stencil : Bool) : Texture :=
  if t.mDepthStencilTextureModeStencil ≠ stencil then
    { t with mDepthStencilTextureModeStencil := stencil }.signalDirtyState
  else t

/-! ## Descriptions -/

def setImageDesc (target : TextureTarget) (level : Nat) (desc : ImageDesc) : Texture :=
  { t with
    mImageDescs := Function.update t.mImageDescs target
      (Function.update (t.mImageDescs target) level desc)
    mInitState := if desc.initState = .MayNeedInit then .MayNeedInit else t.mInitState }

def clearImageDesc (target : TextureTarget) (level : Nat) : Texture :=
  t.setImageDesc target level .none

def clearImageDescs : Texture := { t with mImageDescs := fun _ _ => .none }

/-- The size of a level of a chain that starts at `baseLevel`. -/
def levelSize (type : TextureType) (baseSize : Extents) (relativeLevel : Nat) : Extents :=
  { width := max (baseSize.width >>> relativeLevel) 1
    height := max (baseSize.height >>> relativeLevel) 1
    depth :=
      if type = ._2DArray then baseSize.depth else max (baseSize.depth >>> relativeLevel) 1 }

def setImageDescLevel (level : Nat) (desc : ImageDesc) : Texture :=
  t.mType.targets.foldl (fun t target => t.setImageDesc target level desc) t

def setImageDescChain (baseLevel maxLevel : Nat) (baseSize : Extents) (format : InternalFormat)
    (initState : InitState) : Texture :=
  (levels baseLevel maxLevel).foldl
    (fun t level => t.setImageDescLevel level
      (.new (levelSize t.mType baseSize (level - baseLevel)) format initState)) t

def setInitState (index : ImageIndex) (initState : InitState) : Texture :=
  (index.target.elim t.mType.targets fun target => [target]).foldl
    (fun t target =>
      t.setImageDesc target index.level
        { t.mImageDescs target index.level with initState := initState }) t

def initState (index : ImageIndex) : InitState :=
  if (index.target.elim t.mType.targets fun target => [target]).any fun target =>
      (t.mImageDescs target index.level).initState = .MayNeedInit then .MayNeedInit
  else .Initialized

/-- An image that is defined has been written if `written`. -/
def markWritten (target : TextureTarget) (level : Nat) (written : Bool) : Texture :=
  { t with
    mWritten := Function.update t.mWritten target
      (Function.update (t.mWritten target) level written) }

def markLevels (first last : Nat) (written : Bool) : Texture :=
  { t with
    mWritten := fun target level =>
      if first ≤ level ∧ level ≤ last then written else t.mWritten target level }

def erase (target : TextureTarget) (level : Nat) : Texture :=
  { t with mErased := t.mErased || t.mWritten target level }

/-! ## The images that are described -/

variable {t}

theorem mem_levels {first last level : Nat} :
    level ∈ levels first last ↔ first ≤ level ∧ level ≤ last := by
  rw [levels, mem_range'_1]
  omega

theorem targets_ne_nil (type : TextureType) : type.targets ≠ [] := by
  cases type <;> decide

theorem nonCube_mem_targets (hcube : t.mType ≠ .CubeMap) : .nonCube t.mType ∈ t.mType.targets := by
  cases htype : t.mType <;> simp_all [TextureType.targets]

theorem setImageDesc_mImageDescs (target : TextureTarget) (level : Nat) (desc : ImageDesc)
    (target' : TextureTarget) (level' : Nat) :
    (t.setImageDesc target level desc).mImageDescs target' level' =
      if target' = target ∧ level' = level then desc else t.mImageDescs target' level' := by
  simp only [setImageDesc]
  by_cases htarget : target' = target
  · subst htarget
    by_cases hlevel : level' = level
    · simp [hlevel]
    · simp [hlevel]
  · simp [htarget]

/-- The images of some targets at a level, all with one description. -/
theorem foldl_setImageDesc (targets : List TextureTarget) (level : Nat) (desc : ImageDesc)
    (t : Texture) :
    targets.foldl (fun t target => t.setImageDesc target level desc) t = { t with
        mImageDescs := fun target' level' =>
          if target' ∈ targets ∧ level' = level then desc else t.mImageDescs target' level'
        mInitState :=
          if targets ≠ [] ∧ desc.initState = .MayNeedInit then .MayNeedInit else t.mInitState } := by
  induction targets generalizing t with
  | nil => simp
  | cons target targets ih =>
    rw [foldl_cons, ih]
    have hdescs : (fun target' level' =>
          if target' ∈ targets ∧ level' = level then desc
          else (t.setImageDesc target level desc).mImageDescs target' level') =
        fun target' level' =>
          if target' ∈ target :: targets ∧ level' = level then desc
          else t.mImageDescs target' level' := by
      funext target' level'
      rw [setImageDesc_mImageDescs]
      simp only [mem_cons]
      split_ifs <;> first | rfl | tauto
    rw [hdescs]
    simp only [setImageDesc]
    grind

theorem setImageDescLevel_eq (level : Nat) (desc : ImageDesc) :
    t.setImageDescLevel level desc = { t with
        mImageDescs := fun target' level' =>
          if target' ∈ t.mType.targets ∧ level' = level then desc else t.mImageDescs target' level'
        mInitState := if desc.initState = .MayNeedInit then .MayNeedInit else t.mInitState } := by
  rw [setImageDescLevel, foldl_setImageDesc]
  simp [targets_ne_nil]

/-- A chain of images describes its levels, and has to be initialized if they have. -/
theorem foldl_setImageDescLevel (levels : List Nat) (size : Nat → Extents) (format : InternalFormat)
    (initState : InitState) (t : Texture) :
    levels.foldl (fun t level => t.setImageDescLevel level (.new (size level) format initState)) t =
      { t with
        mImageDescs := fun target' level' =>
          if target' ∈ t.mType.targets ∧ level' ∈ levels then .new (size level') format initState
          else t.mImageDescs target' level'
        mInitState :=
          if levels ≠ [] ∧ initState = .MayNeedInit then .MayNeedInit else t.mInitState } := by
  induction levels generalizing t with
  | nil => simp
  | cons level levels ih =>
    rw [foldl_cons, ih, setImageDescLevel_eq]
    have hdescs : (fun target' level' =>
          if target' ∈ t.mType.targets ∧ level' ∈ levels then
            ImageDesc.new (size level') format initState
          else if target' ∈ t.mType.targets ∧ level' = level then
            ImageDesc.new (size level) format initState
          else t.mImageDescs target' level') =
        fun target' level' =>
          if target' ∈ t.mType.targets ∧ level' ∈ level :: levels then
            .new (size level') format initState
          else t.mImageDescs target' level' := by
      funext target' level'
      simp only [mem_cons]
      grind
    simp only [hdescs]
    simp only [ImageDesc.new]
    grind

theorem setImageDescChain_eq (baseLevel maxLevel : Nat) (baseSize : Extents)
    (format : InternalFormat) (initState : InitState) :
    t.setImageDescChain baseLevel maxLevel baseSize format initState = { t with
        mImageDescs := fun target' level' =>
          if target' ∈ t.mType.targets ∧ baseLevel ≤ level' ∧ level' ≤ maxLevel then
            .new (levelSize t.mType baseSize (level' - baseLevel)) format initState
          else t.mImageDescs target' level'
        mInitState :=
          if baseLevel ≤ maxLevel ∧ initState = .MayNeedInit then .MayNeedInit
          else t.mInitState } := by
  have hne : levels baseLevel maxLevel ≠ [] ↔ baseLevel ≤ maxLevel := by
    rw [levels, Ne, range'_eq_nil_iff]
    omega
  have htype : ∀ (ls : List Nat) (t : Texture), ls.foldl (fun t level => t.setImageDescLevel level
        (.new (levelSize t.mType baseSize (level - baseLevel)) format initState)) t =
      ls.foldl (fun u level => u.setImageDescLevel level
        (.new (levelSize t.mType baseSize (level - baseLevel)) format initState)) t := by
    intro ls
    induction ls with
    | nil => exact fun _ => rfl
    | cons level ls ih =>
        intro t
        rw [foldl_cons, foldl_cons, ih]
        simp only [setImageDescLevel_eq]
  rw [setImageDescChain, htype,
    foldl_setImageDescLevel _ fun level => levelSize t.mType baseSize (level - baseLevel)]
  simp only [mem_levels, hne]

end Texture

end MetalAngle.Gl.Textures
