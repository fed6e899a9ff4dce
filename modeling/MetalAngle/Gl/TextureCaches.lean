import MetalAngle.Gl.TextureOperations

/-!
# The caches of textures

The completeness of a texture is cached for one context and one sampler state, and its sampler format
for one compare mode.  The caches answer for the images as they are as long as every operation that
changes the images comes to the end at which it empties them.
-/

namespace MetalAngle.Gl.Textures

namespace Texture

variable {t t' u : Texture}

/-- The same images, but for their state, and the same levels of them. -/
structure SameImages (t t' : Texture) : Prop where
  type : t'.mType = t.mType
  baseLevel : t'.mBaseLevel = t.mBaseLevel
  maxLevel : t'.mMaxLevel = t.mMaxLevel
  stencil : t'.mDepthStencilTextureModeStencil = t.mDepthStencilTextureModeStencil
  immutableFormat : t'.mImmutableFormat = t.mImmutableFormat
  immutableLevels : t'.mImmutableLevels = t.mImmutableLevels
  size : ∀ target level, (t'.mImageDescs target level).size = (t.mImageDescs target level).size
  format : ∀ target level, (t'.mImageDescs target level).format = (t.mImageDescs target level).format

namespace SameImages

theorem refl (t : Texture) : SameImages t t :=
  ⟨rfl, rfl, rfl, rfl, rfl, rfl, fun _ _ => rfl, fun _ _ => rfl⟩

section

variable (h : SameImages t t')
include h

theorem trans (h' : SameImages t' u) : SameImages t u where
  type := h'.type.trans h.type
  baseLevel := h'.baseLevel.trans h.baseLevel
  maxLevel := h'.maxLevel.trans h.maxLevel
  stencil := h'.stencil.trans h.stencil
  immutableFormat := h'.immutableFormat.trans h.immutableFormat
  immutableLevels := h'.immutableLevels.trans h.immutableLevels
  size target level := (h'.size target level).trans (h.size target level)
  format target level := (h'.format target level).trans (h.format target level)

theorem getEffectiveBaseLevel :
    t'.getEffectiveBaseLevel = t.getEffectiveBaseLevel := by
  simp [Texture.getEffectiveBaseLevel, h.immutableFormat, h.immutableLevels, h.baseLevel]

theorem getEffectiveMaxLevel :
    t'.getEffectiveMaxLevel = t.getEffectiveMaxLevel := by
  simp [Texture.getEffectiveMaxLevel, h.immutableFormat, h.immutableLevels, h.maxLevel,
    h.getEffectiveBaseLevel]

theorem baseImageDesc_size :
    t'.baseImageDesc.size = t.baseImageDesc.size := by
  simp [baseImageDesc, getBaseImageTarget, h.getEffectiveBaseLevel, h.type, h.size]

theorem baseImageDesc_format :
    t'.baseImageDesc.format = t.baseImageDesc.format := by
  simp [baseImageDesc, getBaseImageTarget, h.getEffectiveBaseLevel, h.type, h.format]

theorem getMipmapMaxLevel : t'.getMipmapMaxLevel = t.getMipmapMaxLevel := by
  simp [Texture.getMipmapMaxLevel, h.getEffectiveBaseLevel, h.getEffectiveMaxLevel, h.type,
    h.baseImageDesc_size]

theorem isCubeComplete : t'.isCubeComplete = t.isCubeComplete := by
  simp [Texture.isCubeComplete, h.getEffectiveBaseLevel, h.type, h.baseImageDesc_size,
    h.baseImageDesc_format, h.size, h.format]

theorem computeLevelCompleteness (target : TextureTarget) (level : Nat) :
    t'.computeLevelCompleteness target level = t.computeLevelCompleteness target level := by
  rw [Bool.eq_iff_iff]
  simp [Texture.computeLevelCompleteness, h.getEffectiveBaseLevel, h.type, h.immutableFormat,
    h.baseImageDesc_size, h.baseImageDesc_format, h.size, h.format]

theorem computeMipmapCompleteness :
    t'.computeMipmapCompleteness = t.computeMipmapCompleteness := by
  simp [Texture.computeMipmapCompleteness, h.computeLevelCompleteness, h.getEffectiveBaseLevel,
    h.getMipmapMaxLevel, h.type]

theorem computeSamplerCompleteness (samplerState : SamplerState)
    (data : ContextState) :
    t'.computeSamplerCompleteness samplerState data =
      t.computeSamplerCompleteness samplerState data := by
  simp only [Texture.computeSamplerCompleteness, filteredCompleteness, h.type, h.baseLevel,
    h.maxLevel, h.stencil, h.baseImageDesc_size, h.baseImageDesc_format, h.isCubeComplete,
    h.computeMipmapCompleteness]
  congr!

theorem computeRequiredSamplerFormat (samplerState : SamplerState) :
    t'.computeRequiredSamplerFormat samplerState = t.computeRequiredSamplerFormat samplerState := by
  simp [Texture.computeRequiredSamplerFormat, h.baseImageDesc_format]

end

end SameImages

theorem computeSamplerCompleteness_congr {a b : SamplerState} (ha : a.Packed) (hb : b.Packed)
    (hsame : a.sameCompleteness b) (t : Texture) (data : ContextState) :
    t.computeSamplerCompleteness a data = t.computeSamplerCompleteness b data := by
  obtain ⟨hmin, hmag, hwrapS, hwrapT, hcompare⟩ := SamplerState.eq_of_sameCompleteness ha hb hsame
  simp only [Texture.computeSamplerCompleteness, filteredCompleteness, nearest,
    SamplerState.isPointSampled, SamplerState.isMipmapFiltered, hmin, hmag, hwrapS, hwrapT, hcompare]
  congr!

theorem computeRequiredSamplerFormat_congr {a b : SamplerState}
    (hcompare : a.mCompareMode = b.mCompareMode) (t : Texture) :
    t.computeRequiredSamplerFormat a = t.computeRequiredSamplerFormat b := by
  simp [Texture.computeRequiredSamplerFormat, hcompare]

/-- What is cached is what is computed. -/
structure Coherent (contexts : ContextID → ContextState) (t : Texture) : Prop where
  completeness : t.mCompletenessCache.context ≠ 0 →
    t.mCompletenessCache.samplerState.Packed ∧
      t.mCompletenessCache.samplerComplete =
        t.computeSamplerCompleteness t.mCompletenessCache.samplerState
          (contexts t.mCompletenessCache.context)
  format : t.mCachedSamplerFormatValid → ∀ samplerState : SamplerState,
    samplerState.mCompareMode = t.mCachedSamplerCompareMode →
      t.mCachedSamplerFormat = t.computeRequiredSamplerFormat samplerState

/-- The caches of a texture. -/
structure SameCaches (t t' : Texture) : Prop where
  completeness : t'.mCompletenessCache = t.mCompletenessCache
  format : t'.mCachedSamplerFormat = t.mCachedSamplerFormat
  compareMode : t'.mCachedSamplerCompareMode = t.mCachedSamplerCompareMode
  valid : t'.mCachedSamplerFormatValid = t.mCachedSamplerFormatValid

/-- Nothing is cached. -/
def CachesEmpty (t : Texture) : Prop :=
  t.mCompletenessCache.context = 0 ∧ t.mCachedSamplerFormatValid = false

variable {contexts : ContextID → ContextState}

theorem CachesEmpty.coherent (h : t.CachesEmpty) : t.Coherent contexts where
  completeness hcontext := absurd h.1 hcontext
  format hvalid := by
    rw [h.2] at hvalid
    cases hvalid

theorem Coherent.congr (h : t.Coherent contexts) (himages : SameImages t t')
    (hcaches : SameCaches t t') : t'.Coherent contexts where
  completeness hcontext := by
    rw [hcaches.completeness] at hcontext ⊢
    rw [himages.computeSamplerCompleteness]
    exact h.completeness hcontext
  format hvalid samplerState hcompare := by
    rw [hcaches.valid] at hvalid
    rw [hcaches.compareMode] at hcompare
    rw [hcaches.format, himages.computeRequiredSamplerFormat]
    exact h.format hvalid samplerState hcompare

theorem signalDirtyStorage_cachesEmpty (t : Texture) (initState : InitState) :
    (t.signalDirtyStorage initState).CachesEmpty := ⟨rfl, rfl⟩

theorem signalDirtyState_cachesEmpty (t : Texture) : t.signalDirtyState.CachesEmpty := ⟨rfl, rfl⟩

section

variable (h : t.Coherent contexts)
include h

theorem Coherent.samplerComplete_eq {context : ContextID}
    (hcontext : context ≠ 0) {samplerState : SamplerState} (hpacked : samplerState.Packed) :
    (t.isSamplerComplete context (contexts context) samplerState).mCompletenessCache.samplerComplete =
      t.computeSamplerCompleteness samplerState (contexts context) := by
  unfold isSamplerComplete
  split
  · rfl
  · next hhit =>
      rw [not_or, not_not, not_not] at hhit
      obtain ⟨rfl, hsame⟩ := hhit
      obtain ⟨hcached, heq⟩ := h.completeness hcontext
      rw [heq]
      exact computeSamplerCompleteness_congr hcached hpacked hsame t _

theorem Coherent.isSamplerComplete (context : ContextID)
    {samplerState : SamplerState} (hpacked : samplerState.Packed) :
    (t.isSamplerComplete context (contexts context) samplerState).Coherent contexts := by
  unfold Texture.isSamplerComplete
  split
  · exact ⟨fun _ => ⟨hpacked, rfl⟩, h.format⟩
  · exact h

theorem Coherent.requireSamplerFormat (samplerState : SamplerState) :
    (t.requireSamplerFormat samplerState).Coherent contexts := by
  unfold Texture.requireSamplerFormat
  split
  · refine ⟨h.completeness, fun _ other hcompare => ?_⟩
    exact computeRequiredSamplerFormat_congr hcompare.symm t
  · exact h

theorem Coherent.cachedSamplerFormat_eq (samplerState : SamplerState) :
    (t.requireSamplerFormat samplerState).mCachedSamplerFormat =
      t.computeRequiredSamplerFormat samplerState := by
  unfold Texture.requireSamplerFormat
  split
  · rfl
  · next hhit =>
      rw [not_or, not_not, not_not] at hhit
      exact h.format hhit.1 samplerState hhit.2.symm

end

end Texture

end MetalAngle.Gl.Textures
