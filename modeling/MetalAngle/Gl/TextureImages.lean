import Mathlib.Algebra.Group.Nat.Defs
import MetalAngle.Gl.TextureOperations

/-!
# The images of textures

The images that a sequence of calls gives a texture, as the calls are specified, and that the
descriptions of a texture are those of its images.
-/

namespace MetalAngle.Gl.Textures

open Fallible Triple
open Function (update update_self update_of_ne)

structure GlImage where
  size : Extents
  sizedInternalFormat : Nat
  samples : Nat
deriving DecidableEq

def GlImage.none : GlImage := ⟨⟨0, 0, 0⟩, 0, 0⟩

def GlImage.new (size : Extents) (format : InternalFormat) : GlImage :=
  ⟨size, format.sizedInternalFormat, 0⟩

structure GlTexture where
  type : TextureType
  baseLevel : Nat
  maxLevel : Nat
  immutableLevels : Option Nat
  generateMipmapHint : Bool
  boundSurface : Bool
  images : TextureTarget → Nat → GlImage

namespace GlTexture

variable (t : GlTexture)

def new (type : TextureType) : GlTexture :=
  ⟨type, 0, 1000, none, false, false, fun _ _ => .none⟩

def levelBase : Nat :=
  match t.immutableLevels with
  | none => min t.baseLevel IMPLEMENTATION_MAX_TEXTURE_LEVELS
  | some levels => min t.baseLevel (levels - 1)

def levelMax : Nat :=
  match t.immutableLevels with
  | none => t.maxLevel
  | some levels => min (max t.maxLevel t.levelBase) (levels - 1)

def firstTarget : TextureTarget := t.type.targets.headD (.nonCube t.type)

def lastLevel : Nat :=
  let size := (t.images t.firstTarget t.levelBase).size
  let maxSize :=
    if t.type = ._3D then max (max size.width size.height) size.depth
    else max size.width size.height
  min (t.levelBase + Nat.log2 maxSize) t.levelMax

def mipmapSize (type : TextureType) (size : Extents) (k : Nat) : Extents :=
  ⟨max 1 (size.width / 2 ^ k), max 1 (size.height / 2 ^ k),
    if type = ._3D then max 1 (size.depth / 2 ^ k) else size.depth⟩

def define (target : TextureTarget) (level : Nat) (image : GlImage) : GlTexture :=
  { t with
    images := fun target' level' =>
      if target' = target ∧ level' = level then image else t.images target' level' }

def generateMipmap : GlTexture :=
  { t with
    images := fun target level =>
      let image := t.images target t.levelBase
      if target ∈ t.type.targets ∧ t.levelBase < level ∧ level ≤ t.lastLevel then
        { image with size := mipmapSize t.type image.size (level - t.levelBase) }
      else t.images target level }

def release : GlTexture :=
  if t.boundSurface then
    { t with boundSurface := false }.define (.nonCube t.type) 0 .none
  else t

def mipmapped (automatic : Bool) : GlTexture :=
  if automatic then t.release.generateMipmap else t

def redefine (target : TextureTarget) (level : Nat) (image : GlImage) (hint : Bool) : GlTexture :=
  (t.release.define target level image).mipmapped (hint && t.generateMipmapHint && level = 0)

def storage (levels : Nat) (size : Extents) (format : InternalFormat) (samples : Nat) : GlTexture :=
  { t.release with
    immutableLevels := some levels
    images := fun target level =>
      if target ∈ t.type.targets ∧ level < levels then
        ⟨mipmapSize t.type size level, format.sizedInternalFormat, samples⟩
      else .none }

def eglImage (size : Extents) (format : InternalFormat) : GlTexture :=
  { t.release with
    images := fun target level =>
      if target ∈ t.type.targets ∧ level = 0 then .new ⟨size.width, size.height, 1⟩ format
      else .none }

end GlTexture

abbrev GlWorld := TextureID → GlTexture

namespace GlWorld

/-- The image that is copied into `id`, after the release of a surface of it. -/
def copySource (g : GlWorld) (id source : TextureID) (level : Nat) : GlImage :=
  let released := update g id (g id).release source
  released.images (.nonCube released.type) level

def step (g : GlWorld) (action : World.Action) : GlWorld :=
  match action with
  | .setImage id target level size format _ =>
      update g id ((g id).redefine target level (.new size format) true)
  | .setSubImage id _ level _ =>
      update g id ((g id).mipmapped ((g id).generateMipmapHint && level = 0))
  | .setCompressedImage id target level size format _ =>
      update g id ((g id).redefine target level (.new size format) false)
  | .setImageExternal id target level size format =>
      update g id ((g id).redefine target level (.new size format) true)
  | .copyImage id target level width height format =>
      update g id ((g id).redefine target level (.new ⟨width, height, 1⟩ format) true)
  | .copySubImage id _ level _ =>
      update g id ((g id).mipmapped ((g id).generateMipmapHint && level = 0))
  | .copyTexture id target level format source sourceLevel =>
      update g id ((g id).redefine target level
        (.new (g.copySource id source sourceLevel).size format) false)
  | .copyCompressedTexture id source =>
      update g id ((g id).redefine (.nonCube (g id).type) 0 (g.copySource id source 0) false)
  | .setStorage id levels size format =>
      update g id ((g id).storage levels size format 0)
  | .setStorageExternalMemory id levels size format =>
      update g id ((g id).storage levels size format 0)
  | .setStorageMultisample id samples size format _ =>
      update g id ((g id).storage 1 size format samples)
  | .generateMipmap id => update g id ((g id).mipmapped true)
  | .bindTexImageFromSurface id size format =>
      update g id
        { (g id).redefine (.nonCube (g id).type) 0 (.new ⟨size.width, size.height, 1⟩ format) false
          with boundSurface := true }
  | .releaseTexImageFromSurface id => update g id (g id).release
  | .acquireImageFromStream id size format =>
      update g id
        ((g id).define (.nonCube (g id).type) 0 (.new ⟨size.width, size.height, 1⟩ format))
  | .releaseImageFromStream id =>
      update g id ((g id).define (.nonCube (g id).type) 0 .none)
  | .setEGLImageTarget id size format _ => update g id ((g id).eglImage size format)
  | .setBaseLevel id baseLevel => update g id { g id with baseLevel := baseLevel }
  | .setMaxLevel id maxLevel => update g id { g id with maxLevel := maxLevel }
  | .setGenerateMipmapHint id hint =>
      update g id { g id with generateMipmapHint := hint }
  | _ => g

end GlWorld

theorem GlTexture.images_congr (t : GlTexture) {images images' : TextureTarget → Nat → GlImage}
    (h : ∀ target level, images target level = images' target level) :
    ({ t with images := images } : GlTexture) = { t with images := images' } := by
  rw [show images = images' from funext fun target => funext (h target)]

/-! ## The images that are described -/

def ImageDesc.gl (desc : ImageDesc) : GlImage :=
  ⟨desc.size, desc.format.sizedInternalFormat, desc.samples⟩

def Texture.gl (t : Texture) : GlTexture :=
  { type := t.mType
    baseLevel := t.mBaseLevel
    maxLevel := t.mMaxLevel
    immutableLevels := if t.mImmutableFormat then some t.mImmutableLevels else none
    generateMipmapHint := t.mGenerateMipmapHint
    boundSurface := t.mBoundSurface
    images := fun target level => (t.mImageDescs target level).gl }

def World.gl (w : World) : GlWorld := fun id => (w.textures id).gl

namespace Texture

variable {t : Texture}

theorem gl_levelBase : t.gl.levelBase = t.getEffectiveBaseLevel := by
  simp only [GlTexture.levelBase, gl, getEffectiveBaseLevel]
  cases t.mImmutableFormat <;> rfl

theorem gl_firstTarget : t.gl.firstTarget = t.getBaseImageTarget := by
  unfold GlTexture.firstTarget getBaseImageTarget
  rw [show t.gl.type = t.mType from rfl]
  cases t.mType <;> rfl

theorem gl_setImageDesc (target : TextureTarget) (level : Nat) (desc : ImageDesc) :
    (t.setImageDesc target level desc).gl = t.gl.define target level desc.gl := by
  apply GlTexture.images_congr t.gl
  intro target' level'
  rw [setImageDesc_mImageDescs]
  split <;> rfl

theorem gl_setImageDesc_initState (target : TextureTarget) (level : Nat) (initState : InitState) :
    (t.setImageDesc target level
      { t.mImageDescs target level with initState := initState }).gl = t.gl := by
  rw [gl_setImageDesc]
  apply GlTexture.images_congr t.gl
  intro target' level'
  split
  · next h =>
      obtain ⟨rfl, rfl⟩ := h
      rfl
  · rfl

theorem gl_foldl {α : Type} {f : Texture → α → Texture} (hf : ∀ t x, (f t x).gl = t.gl)
    (xs : List α) : (xs.foldl f t).gl = t.gl := by
  induction xs generalizing t with
  | nil => rfl
  | cons x xs ih => exact ih.trans (hf t x)

@[simp] theorem gl_setInitState (index : ImageIndex) (initState : InitState) :
    (t.setInitState index initState).gl = t.gl :=
  gl_foldl (fun _ target => gl_setImageDesc_initState target index.level initState) _

end Texture

/-! ## What the images keep -/

namespace GlImage

/-- The image has one layer unless its type has a depth, and no samples unless its type has. -/
structure Fits (type : TextureType) (image : GlImage) : Prop where
  depth : type.hasDepth = false → image.size.width ≠ 0 → image.size.depth = 1
  samples : type.isMultisampled = false → image.samples = 0

theorem none_fits (type : TextureType) : Fits type .none where
  depth _ hwidth := absurd rfl hwidth
  samples _ := rfl

theorem new_fits {type : TextureType} {size : Extents} (format : InternalFormat)
    (hdepth : size.depth = 1 ∨ type.hasDepth) : Fits type (.new size format) where
  depth hflat _ := by
    rcases hdepth with hone | hhas
    · exact hone
    · rw [hflat] at hhas
      cases hhas
  samples _ := rfl

end GlImage

namespace GlTexture

variable {t : GlTexture}

/-- A texture that has the image of a surface is no cube map, and its images fit its type. -/
structure WellFormed (t : GlTexture) : Prop where
  surface : t.boundSurface → t.type ≠ .CubeMap
  image : ∀ target level, (t.images target level).Fits t.type

theorem WellFormed.define (ht : t.WellFormed) (target : TextureTarget) (level : Nat)
    {image : GlImage} (himage : image.Fits t.type) : (t.define target level image).WellFormed where
  __ := ht
  image target' level' := by
    by_cases heq : target' = target ∧ level' = level
    · simpa only [GlTexture.define, if_pos heq] using himage
    · simpa only [GlTexture.define, if_neg heq] using ht.image target' level'

@[simp] theorem release_type : t.release.type = t.type := by
  unfold release
  split <;> rfl

@[simp] theorem release_boundSurface : t.release.boundSurface = false := by
  by_cases hbound : t.boundSurface
  · rw [release, if_pos hbound]
    rfl
  · rw [release, if_neg hbound]
    exact Bool.eq_false_of_not_eq_true hbound

theorem WellFormed.release (ht : t.WellFormed) : t.release.WellFormed := by
  by_cases hbound : t.boundSurface
  · have hunbound : WellFormed { t with boundSurface := false } :=
      ⟨fun h => (by cases h), ht.image⟩
    rw [GlTexture.release, if_pos hbound]
    exact hunbound.define (.nonCube t.type) 0 (GlImage.none_fits _)
  · rwa [GlTexture.release, if_neg hbound]

theorem WellFormed.release_cubeMap (ht : t.WellFormed) (htype : t.type = .CubeMap) :
    t.release = t := by
  have hunbound : t.boundSurface ≠ true := fun hbound => ht.surface hbound htype
  rw [GlTexture.release, if_neg hunbound]

/-- Where mipmaps have levels, their first has no dimension of zero. -/
def RegularBase (t : GlTexture) : Prop :=
  t.levelBase < t.lastLevel →
    let size := (t.images t.firstTarget t.levelBase).size
    size.width ≠ 0 ∧ size.height ≠ 0 ∧ (t.type = ._3D → size.depth ≠ 0)

/-- And the first level has the same image for every face. -/
def Mipmappable (t : GlTexture) : Prop :=
  t.RegularBase ∧ (t.levelBase < t.lastLevel →
    ∀ target ∈ t.type.targets,
      t.images target t.levelBase = t.images t.firstTarget t.levelBase)

instance : Decidable t.RegularBase :=
  inferInstanceAs (Decidable (_ → _))

instance : Decidable t.Mipmappable :=
  inferInstanceAs (Decidable (_ ∧ (_ → _)))

/-- The mipmaps that are generated, if they are, can be. -/
def MipmapsFollow (t : GlTexture) (automatic : Bool) : Prop :=
  automatic → t.release.Mipmappable

instance (automatic : Bool) : Decidable (t.MipmapsFollow automatic) :=
  inferInstanceAs (Decidable (_ → _))

theorem WellFormed.generateMipmap (ht : t.WellFormed) (hmip : t.Mipmappable) :
    t.generateMipmap.WellFormed where
  __ := ht
  image target level := by
    by_cases hlevel : target ∈ t.type.targets ∧ t.levelBase < level ∧ level ≤ t.lastLevel
    · have hlevels := lt_of_lt_of_le hlevel.2.1 hlevel.2.2
      obtain ⟨hwidth, _, _⟩ := hmip.1 hlevels
      have hface := hmip.2 hlevels
      have hbase := ht.image target t.levelBase
      rw [hface target hlevel.1] at hbase
      simp only [GlTexture.generateMipmap, if_pos hlevel, hface target hlevel.1]
      refine ⟨fun hflat _ => ?_, hbase.samples⟩
      have hnot3D : t.type ≠ ._3D := by
        rintro h3D
        rw [h3D] at hflat
        cases hflat
      simp only [mipmapSize, if_neg hnot3D]
      exact hbase.depth hflat hwidth
    · simpa only [GlTexture.generateMipmap, if_neg hlevel] using ht.image target level

theorem WellFormed.mipmapped (ht : t.WellFormed) {automatic : Bool}
    (hmip : t.MipmapsFollow automatic) : (t.mipmapped automatic).WellFormed := by
  cases automatic with
  | true => exact ht.release.generateMipmap (hmip rfl)
  | false => exact ht

end GlTexture

namespace Texture

variable {t : Texture}

end Texture

namespace World

open Texture

variable {w : World} {g : GlWorld} {id : TextureID} {r r' r'' : GlTexture}

theorem gl_modify (f : Texture → Texture) :
    (modify id f w).gl = update w.gl id (f (w.textures id)).gl := by
  funext id'
  by_cases heq : id' = id
  · subst heq
    simp [gl, modify]
  · simp [gl, modify, heq]

/-- The faces of a complete cube map have the same image. -/
theorem mipmappable_of_isCubeComplete {t : Texture} (ht : t.gl.WellFormed)
    (hsingle : t.mType.isMultisampled = false)
    (hcube : t.mType = .CubeMap → t.isCubeComplete) (hregular : t.gl.release.RegularBase) :
    t.gl.release.Mipmappable := by
  refine ⟨hregular, fun _ target htarget => ?_⟩
  by_cases htype : t.mType = .CubeMap
  · rw [ht.release_cubeMap htype] at htarget ⊢
    have hcomplete := hcube htype
    simp only [isCubeComplete, decide_eq_true_eq] at hcomplete
    obtain ⟨hwidth, -, hfaces⟩ := hcomplete
    obtain ⟨hfaceWidth, hfaceHeight, hformat⟩ := hfaces target htarget
    have hflat : t.mType.hasDepth = false := htype ▸ rfl
    have hfits := ht.image target t.getEffectiveBaseLevel
    have hbaseFits := ht.image t.getBaseImageTarget t.getEffectiveBaseLevel
    have hdepth : (t.mImageDescs target t.getEffectiveBaseLevel).size.depth =
        t.baseImageDesc.size.depth :=
      (hfits.depth hflat (hfaceWidth ▸ hwidth)).trans (hbaseFits.depth hflat hwidth).symm
    have hsamples : (t.mImageDescs target t.getEffectiveBaseLevel).samples =
        t.baseImageDesc.samples :=
      (hfits.samples hsingle).trans (hbaseFits.samples hsingle).symm
    have hsize : (t.mImageDescs target t.getEffectiveBaseLevel).size = t.baseImageDesc.size :=
      Extents.ext hfaceWidth hfaceHeight hdepth
    rw [gl_levelBase, gl_firstTarget]
    change ImageDesc.gl _ = t.baseImageDesc.gl
    rw [ImageDesc.gl, hsize, hformat, hsamples]
    rfl
  · have hfirst : target = t.gl.release.firstTarget := by
      have htargets : t.mType.targets = [.nonCube t.mType] := by
        cases h : t.mType <;> first | rfl | exact absurd h htype
      rw [GlTexture.release_type, show t.gl.type = t.mType from rfl, htargets,
        List.mem_singleton] at htarget
      rw [GlTexture.firstTarget, GlTexture.release_type, show t.gl.type = t.mType from rfl, htargets,
        htarget]
      rfl
    rw [hfirst]

/-! ## Operations that leave the images as they are -/

def KeepsGl (op : Op) : Prop :=
  ∀ g : GlWorld, Triple (fun w => w.gl = g) op (fun w => w.gl = g) fun _ => False

namespace KeepsGl

variable {first second op : Op}

theorem onTexture {f : Texture → Texture} (hf : ∀ t, (f t).gl = t.gl) :
    KeepsGl (onTexture id f) := by
  intro g
  refine update fun w hw => ?_
  rw [gl_modify, hf]
  exact (Function.update_eq_self id w.gl).trans hw

theorem attempt : KeepsGl (attempt true) :=
  fun _ => Triple.attempt (fun _ _ h => h) fun h => by cases h

theorem andThen (hfirst : KeepsGl first) (hsecond : KeepsGl second) : KeepsGl (first >> second) :=
  fun g => (hfirst g).andThen (hsecond g)

theorem when {condition : Bool} (h : KeepsGl op) : KeepsGl (when condition op) :=
  fun g => Triple.when (fun _ => h g) fun _ _ hs => hs

theorem ofState {op : World → Op} (h : ∀ w, KeepsGl (op w)) : KeepsGl (ofState op) :=
  fun g => reads fun w _ => h w g

theorem forEach {α : Type} {op : α → Op} (xs : List α) (h : ∀ x, KeepsGl (op x)) :
    KeepsGl (forEach xs op) :=
  fun g => Triple.forEach fun x _ => h x g

end KeepsGl

/-- The operation turns the texture `r` into `r'`, and no other texture into another. -/
def Turns (g : GlWorld) (id : TextureID) (r r' : GlTexture) (op : Op) : Prop :=
  Triple (fun w => w.gl = update g id r) op (fun w => w.gl = update g id r')
    fun _ => False

theorem Turns.andThen {first second : Op} (hfirst : Turns g id r r' first)
    (hsecond : Turns g id r' r'' second) : Turns g id r r'' (first >> second) :=
  Triple.andThen hfirst hsecond

variable {level : Nat}

variable {target : TextureTarget}

variable {format : InternalFormat}

variable {source : TextureID}

/-- A size in which no dimension is zero, and a flat image has one layer. -/
structure StorageSize (type : TextureType) (size : Extents) : Prop where
  width : size.width ≠ 0
  height : size.height ≠ 0
  depth : size.depth ≠ 0
  flat : size.depth = 1 ∨ type.hasDepth

variable {levels : Nat}

theorem validStorage_size {size : Extents} (hvalid : w.validStorage id size) :
    StorageSize (w.gl id).type size := by
  simp only [validStorage, decide_eq_true_eq] at hvalid
  obtain ⟨-, hwidth, hheight, hdepth, hflat⟩ := hvalid
  exact ⟨hwidth.ne', hheight.ne', hdepth.ne', hflat⟩

/-! ### Surfaces, streams and EGL images -/

/-- The description of a copied level is its size, and mipmaps have a first level to follow. -/
def FollowsGl (w : World) : Action → Prop
  | .setImage id target level size format _ =>
      ((w.gl id).release.define target level (.new size format)).MipmapsFollow
        ((w.gl id).generateMipmapHint && level = 0)
  | .setSubImage id _ level _ =>
      (w.gl id).MipmapsFollow ((w.gl id).generateMipmapHint && level = 0)
  | .setImageExternal id target level size format =>
      ((w.gl id).release.define target level (.new size format)).MipmapsFollow
        ((w.gl id).generateMipmapHint && level = 0)
  | .copyImage id target level width height format =>
      ((w.gl id).release.define target level (.new ⟨width, height, 1⟩ format)).MipmapsFollow
        ((w.gl id).generateMipmapHint && level = 0)
  | .copySubImage id _ level _ =>
      (w.gl id).MipmapsFollow ((w.gl id).generateMipmapHint && level = 0)
  | .copyTexture id _ _ _ source sourceLevel =>
      (w.gl.copySource id source sourceLevel).size = (w.gl.copySource id source 0).size
  | .generateMipmap id => (w.gl id).release.RegularBase
  | _ => True

theorem Turns.triple {op : Op} (h : Turns g id (g id) r' op) :
    Triple (fun w => w.gl = g) op (fun w => w.gl = update g id r') fun _ => False := by
  unfold Turns at h
  rwa [Function.update_eq_self] at h

variable {action : Action}

theorem redefine_wellFormed {image : GlImage} {hint : Bool}
    (hr : r.WellFormed) (hfits : image.Fits r.type)
    (hmip : (r.release.define target level image).MipmapsFollow
      (hint && r.generateMipmapHint && level = 0)) :
    (r.redefine target level image hint).WellFormed := by
  have hdefined : (r.release.define target level image).WellFormed :=
    hr.release.define target level (by rwa [GlTexture.release_type])
  exact hdefined.mipmapped hmip

theorem storage_wellFormed {samples : Nat} {size : Extents} (hsize : StorageSize r.type size)
    (hsamples : r.type.isMultisampled = false → samples = 0) :
    (r.storage levels size format samples).WellFormed where
  surface hbound := by
    rw [show (r.storage levels size format samples).boundSurface = r.release.boundSurface from rfl,
      GlTexture.release_boundSurface] at hbound
    cases hbound
  image target level := by
    rw [show (r.storage levels size format samples).type = r.type from GlTexture.release_type]
    simp only [GlTexture.storage]
    split
    · refine ⟨fun hflat _ => ?_, hsamples⟩
      have hnot3D : r.type ≠ ._3D := by
        intro h3D
        rw [h3D] at hflat
        cases hflat
      simp only [GlTexture.mipmapSize, if_neg hnot3D]
      rcases hsize.flat with hone | hhas
      · exact hone
      · rw [hflat] at hhas
        cases hhas
    · exact GlImage.none_fits _

theorem eglImage_wellFormed {size : Extents} (hr : r.WellFormed) :
    (r.eglImage size format).WellFormed where
  __ := hr.release
  image target level := by
    simp only [GlTexture.eglImage]
    split
    · exact GlImage.new_fits format (.inl rfl)
    · exact GlImage.none_fits _

theorem wellFormed_update (hg : ∀ id, (g id).WellFormed) (hr : r.WellFormed) :
    ∀ id', (update g id r id').WellFormed := by
  intro id'
  by_cases heq : id' = id
  · subst heq
    rwa [update_self]
  · rw [update_of_ne heq]
    exact hg id'

theorem copySource_fits {type : TextureType}
    (hg : ∀ id, (g id).WellFormed) (hdepth : (g source).type.hasDepth = false)
    (hsingle : (g source).type.isMultisampled = false) :
    (g.copySource id source level).Fits type := by
  have hreleased : ∀ id', (update g id (g id).release id').WellFormed :=
    wellFormed_update hg (hg id).release
  have htype : (update g id (g id).release source).type = (g source).type := by
    by_cases heq : source = id
    · subst heq
      rw [update_self, GlTexture.release_type]
    · rw [update_of_ne heq]
  have hfits := (hreleased source).image (.nonCube (update g id (g id).release source).type) level
  exact ⟨fun _ => hfits.depth (htype ▸ hdepth), fun _ => hfits.samples (htype ▸ hsingle)⟩


theorem isCopySource_flat (hsource : w.isCopySource id) :
    (w.gl id).type.hasDepth = false ∧ (w.gl id).type.isMultisampled = false := by
  change (w.textures id).mType.hasDepth = false ∧ (w.textures id).mType.isMultisampled = false
  simp only [isCopySource, decide_eq_true_eq] at hsource
  rcases hsource with htype | htype | htype <;> exact htype ▸ ⟨rfl, rfl⟩

theorem step_wellFormed (hw : ∀ id, (w.gl id).WellFormed)
    (hfollows : w.FollowsGl action) (hvalid : w.validates action) :
    ∀ id, (GlWorld.step w.gl action id).WellFormed := by
  cases action with
  | setImage id target level size format hasPixels =>
      simp only [validates, validRedefinition, decide_eq_true_eq] at hvalid
      exact wellFormed_update hw
        (redefine_wellFormed (hw id) (GlImage.new_fits format hvalid.2.2) hfollows)
  | setSubImage id target level area => exact wellFormed_update hw ((hw id).mipmapped hfollows)
  | setCompressedImage id target level size format hasPixels =>
      simp only [validates, validRedefinition, decide_eq_true_eq] at hvalid
      exact wellFormed_update hw
        (redefine_wellFormed (hw id) (GlImage.new_fits format hvalid.2.2) fun h => by cases h)
  | setImageExternal id target level size format =>
      simp only [validates, validRedefinition, decide_eq_true_eq] at hvalid
      exact wellFormed_update hw
        (redefine_wellFormed (hw id) (GlImage.new_fits format hvalid.2.2) hfollows)
  | copyImage id target level width height format =>
      exact wellFormed_update hw
        (redefine_wellFormed (hw id) (GlImage.new_fits format (.inl rfl)) hfollows)
  | copySubImage id target level area => exact wellFormed_update hw ((hw id).mipmapped hfollows)
  | copyTexture id target level format source sourceLevel =>
    simp only [validates, decide_eq_true_eq] at hvalid
    obtain ⟨hflat, hsingle⟩ := isCopySource_flat hvalid.2.1
    have hfits : (w.gl.copySource id source sourceLevel).Fits (w.gl id).type :=
      copySource_fits hw hflat hsingle
    exact wellFormed_update hw
      (redefine_wellFormed (hw id) ⟨hfits.depth, fun _ => rfl⟩ fun h => by cases h)
  | copyCompressedTexture id source =>
      simp only [validates, decide_eq_true_eq] at hvalid
      have htype : (w.gl source).type = ._2D := hvalid.2.1
      have hfits : (w.gl.copySource id source 0).Fits (w.gl id).type :=
        copySource_fits hw (htype ▸ rfl) (htype ▸ rfl)
      exact wellFormed_update hw (redefine_wellFormed (hw id) hfits fun h => by cases h)
  | setStorage id levels size format =>
      simp only [validates, decide_eq_true_eq] at hvalid
      exact wellFormed_update hw (storage_wellFormed (validStorage_size hvalid.1) fun _ => rfl)
  | setStorageExternalMemory id levels size format =>
      simp only [validates, decide_eq_true_eq] at hvalid
      exact wellFormed_update hw (storage_wellFormed (validStorage_size hvalid.1) fun _ => rfl)
  | setStorageMultisample id samples size format fixedSampleLocations =>
    simp only [validates, Bool.and_eq_true] at hvalid
    have hmultisampled : (w.gl id).type.isMultisampled := hvalid.2
    refine wellFormed_update hw (storage_wellFormed (validStorage_size hvalid.1) fun hsingle => ?_)
    rw [hmultisampled] at hsingle
    cases hsingle
  | generateMipmap id =>
      simp only [validates, decide_eq_true_eq] at hvalid
      have hmip := mipmappable_of_isCubeComplete (hw id) hvalid.1 hvalid.2 hfollows
      exact wellFormed_update hw ((hw id).mipmapped fun _ => hmip)
  | bindTexImageFromSurface id size format =>
    have hflat : (w.gl id).type ≠ .CubeMap := of_decide_eq_true hvalid
    have hdefined : ((w.gl id).redefine (.nonCube (w.gl id).type) 0
        (.new ⟨size.width, size.height, 1⟩ format) false).WellFormed :=
      redefine_wellFormed (hw id) (GlImage.new_fits format (.inl rfl)) fun h => by cases h
    have htype : ((w.gl id).redefine (.nonCube (w.gl id).type) 0
        (.new ⟨size.width, size.height, 1⟩ format) false).type = (w.gl id).type :=
      GlTexture.release_type
    exact wellFormed_update hw ⟨fun _ => htype ▸ hflat, hdefined.image⟩
  | releaseTexImageFromSurface id => exact wellFormed_update hw (hw id).release
  | acquireImageFromStream id size format =>
      exact wellFormed_update hw ((hw id).define _ 0 (GlImage.new_fits format (.inl rfl)))
  | releaseImageFromStream id =>
      exact wellFormed_update hw ((hw id).define _ 0 (GlImage.none_fits _))
  | setEGLImageTarget id size format initState =>
      exact wellFormed_update hw (eglImage_wellFormed (hw id))
  | setBaseLevel id baseLevel => exact wellFormed_update hw ⟨(hw id).surface, (hw id).image⟩
  | setMaxLevel id maxLevel => exact wellFormed_update hw ⟨(hw id).surface, (hw id).image⟩
  | setGenerateMipmapHint id hint => exact wellFormed_update hw ⟨(hw id).surface, (hw id).image⟩
  | _ => exact hw

instance (action : Action) : Decidable (w.FollowsGl action) := by
  unfold FollowsGl
  split <;> infer_instance

end World

end MetalAngle.Gl.Textures
