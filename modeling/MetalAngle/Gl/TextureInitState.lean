import MetalAngle.Gl.TextureOperations

/-!
# The initialization of textures

The summary of a texture says that all of its images are initialized when they are, no image that
has been written is initialized after that, and what is sampled has been initialized before.
-/

namespace MetalAngle.Gl.Textures

open Fallible Triple World List

def ImageDesc.initialized (desc : ImageDesc) : ImageDesc := { desc with initState := .Initialized }

variable {desc : ImageDesc}

theorem ImageDesc.initialized_of_initialized
    (h : desc.initState = .Initialized) : desc.initialized = desc := by
  unfold initialized
  rw [← h]

namespace Texture

variable {t u : Texture}

/-- The image has to be initialized. -/
def Pending (t : Texture) (target : TextureTarget) (level : Nat) : Prop :=
  (t.mImageDescs target level).initState = .MayNeedInit

instance (target : TextureTarget) (level : Nat) : Decidable (t.Pending target level) :=
  inferInstanceAs (Decidable (_ = _))

/-- What holds of a texture even while its summary is behind its images. -/
structure Safe (t : Texture) : Prop where
  unwritten : ∀ target level, t.Pending target level → t.mWritten target level = false
  notErased : t.mErased = false
  bound : t.mBoundSurface → ∀ target level, ¬ t.Pending target level
  covered : ∀ target level, t.Pending target level → (target, level) ∈ World.images t.mType

/-- What a texture is between operations. -/
structure Sound (t : Texture) : Prop extends Safe t where
  summary : t.mInitState = .Initialized → ∀ target level, ¬ t.Pending target level

variable {target : TextureTarget} {level : Nat}

theorem mem_images {type : TextureType} :
    (target, level) ∈ World.images type ↔
      target ∈ type.targets ∧ level ≤ IMPLEMENTATION_MAX_TEXTURE_LEVELS := by
  simp only [images, mem_flatMap, mem_range, mem_map, Prod.mk.injEq]
  constructor
  · rintro ⟨level', hlevel, target', htarget, rfl, rfl⟩
    exact ⟨htarget, Nat.lt_succ_iff.mp hlevel⟩
  · rintro ⟨htarget, hlevel⟩
    exact ⟨level, Nat.lt_succ_iff.mpr hlevel, target, htarget, rfl, rfl⟩

theorem Safe.mono (ht : t.Safe) (hpending : ∀ target level, u.Pending target level →
      t.Pending target level ∧ u.mWritten target level = t.mWritten target level)
    (herased : u.mErased = t.mErased) (hbound : u.mBoundSurface → t.mBoundSurface)
    (htype : u.mType = t.mType) : u.Safe where
  unwritten target level h := by
    obtain ⟨hpendingBefore, hwritten⟩ := hpending target level h
    exact hwritten.trans (ht.unwritten target level hpendingBefore)
  notErased := herased.trans ht.notErased
  bound h target level hu := ht.bound (hbound h) target level (hpending target level hu).1
  covered target level h := htype ▸ ht.covered target level (hpending target level h).1

theorem sound_of_none (herased : t.mErased = false)
    (hnone : ∀ target level, ¬ t.Pending target level) : t.Sound where
  unwritten target level h := absurd h (hnone target level)
  notErased := herased
  bound _ := hnone
  covered target level h := absurd h (hnone target level)
  summary _ := hnone

theorem Sound.mono (ht : t.Sound) (hpending : ∀ target level, u.Pending target level →
      t.Pending target level ∧ u.mWritten target level = t.mWritten target level)
    (herased : u.mErased = t.mErased) (hbound : u.mBoundSurface → t.mBoundSurface)
    (htype : u.mType = t.mType) (hsummary : u.mInitState = t.mInitState) : u.Sound where
  toSafe := ht.toSafe.mono hpending herased hbound htype
  summary h target level hu := ht.summary (hsummary ▸ h) target level (hpending target level hu).1

theorem Sound.congr (ht : t.Sound) (hdescs : u.mImageDescs = t.mImageDescs)
    (hwritten : u.mWritten = t.mWritten) (herased : u.mErased = t.mErased)
    (hbound : u.mBoundSurface → t.mBoundSurface) (htype : u.mType = t.mType)
    (hsummary : u.mInitState = t.mInitState) : u.Sound := by
  refine ht.mono (fun target level h => ⟨?_, congrFun (congrFun hwritten target) level⟩) herased
    hbound htype hsummary
  rwa [Pending, ← hdescs]

theorem Safe.signal (ht : t.Safe) (initState : InitState) :
    (t.signalDirtyStorage initState).Safe :=
  ht.mono (fun _ _ h => ⟨h, rfl⟩) rfl id rfl

theorem Safe.signal_mayNeedInit (ht : t.Safe) : (t.signalDirtyStorage .MayNeedInit).Sound :=
  ⟨ht.signal _, fun h => by cases h⟩

theorem signal_sound_of_none (herased : t.mErased = false)
    (hnone : ∀ target level, ¬ t.Pending target level) (initState : InitState) :
    (t.signalDirtyStorage initState).Sound :=
  sound_of_none herased hnone

/-! ## Definitions of images -/

theorem pending_setImageDesc
    {target' : TextureTarget} {level' : Nat} :
    (t.setImageDesc target level desc).Pending target' level' ↔
      if target' = target ∧ level' = level then desc.initState = .MayNeedInit
      else t.Pending target' level' := by
  unfold Pending
  rw [setImageDesc_mImageDescs]
  split <;> rfl

/-- The image is defined as one that has to be initialized only if it has not been written. -/
theorem Sound.define (ht : t.Sound) (hbound : t.mBoundSurface = false) {written : Bool}
    (hdesc : desc.initState = .MayNeedInit →
      written = false ∧ (target, level) ∈ World.images t.mType) :
    ((t.setImageDesc target level desc).markWritten target level written).Sound where
  __ := ht
  unwritten target' level' h := by
    have hpending := pending_setImageDesc.mp h
    by_cases heq : target' = target ∧ level' = level
    · rw [if_pos heq] at hpending
      obtain ⟨rfl, rfl⟩ := heq
      simpa [markWritten] using (hdesc hpending).1
    · rw [if_neg heq] at hpending
      have hunwritten := ht.unwritten target' level' hpending
      by_cases htarget : target' = target
      · subst htarget
        have hlevel : level' ≠ level := fun hlevel => heq ⟨rfl, hlevel⟩
        simpa [markWritten, setImageDesc, hlevel] using hunwritten
      · simpa [markWritten, setImageDesc, htarget] using hunwritten
  bound h := by
    have hfalse : (true : Bool) = false := h.symm.trans hbound
    cases hfalse
  covered target' level' h := by
    have hpending := pending_setImageDesc.mp h
    by_cases heq : target' = target ∧ level' = level
    · rw [if_pos heq] at hpending
      obtain ⟨rfl, rfl⟩ := heq
      exact (hdesc hpending).2
    · rw [if_neg heq] at hpending
      exact ht.covered target' level' hpending
  summary h target' level' hpending := by
    have hinitialized : desc.initState ≠ .MayNeedInit := by
      intro hmay
      rw [show ((t.setImageDesc target level desc).markWritten target level written).mInitState =
        .MayNeedInit from if_pos hmay] at h
      cases h
    have hsummary : t.mInitState = .Initialized := by
      rw [← h]
      exact (if_neg hinitialized).symm
    have hbefore := pending_setImageDesc.mp hpending
    by_cases heq : target' = target ∧ level' = level
    · rw [if_pos heq] at hbefore
      exact hinitialized hbefore
    · rw [if_neg heq] at hbefore
      exact ht.summary hsummary target' level' hbefore

theorem foldl_initialize (targets : List TextureTarget) (level : Nat) (t : Texture) :
    targets.foldl (fun t target =>
        t.setImageDesc target level { t.mImageDescs target level with initState := .Initialized })
      t =
      { t with
        mImageDescs := fun target' level' =>
          if target' ∈ targets ∧ level' = level then (t.mImageDescs target' level').initialized
          else t.mImageDescs target' level' } := by
  induction targets generalizing t with
  | nil => simp
  | cons target targets ih =>
    rw [foldl_cons, ih]
    have hdescs : (fun target' level' =>
          if target' ∈ targets ∧ level' = level then
            ((t.setImageDesc target level (t.mImageDescs target level).initialized).mImageDescs
              target' level').initialized
          else (t.setImageDesc target level (t.mImageDescs target level).initialized).mImageDescs
            target' level') =
        fun target' level' =>
          if target' ∈ target :: targets ∧ level' = level then
            (t.mImageDescs target' level').initialized
          else t.mImageDescs target' level' := by
      funext target' level'
      rw [setImageDesc_mImageDescs]
      by_cases hfirst : target' = target ∧ level' = level
      · have hmember : target' ∈ target :: targets ∧ level' = level :=
          ⟨hfirst.1 ▸ mem_cons_self, hfirst.2⟩
        rw [if_pos hmember]
        simp only [hfirst.1, hfirst.2]
        split <;> rfl
      · have hrest : target' ∈ target :: targets ∧ level' = level ↔
            target' ∈ targets ∧ level' = level := by
          rw [mem_cons]
          tauto
        simp only [if_neg hfirst, hrest]
    refine Eq.trans (congrArg (fun descs => ({ t.setImageDesc target level
      (t.mImageDescs target level).initialized with mImageDescs := descs } : Texture)) hdescs) ?_
    simp [setImageDesc, ImageDesc.initialized]

theorem setInitState_initialized (index : ImageIndex) :
    t.setInitState index .Initialized = { t with
        mImageDescs := fun target level =>
          if target ∈ World.targetsOf t index ∧ level = index.level then
            (t.mImageDescs target level).initialized
          else t.mImageDescs target level } :=
  foldl_initialize _ _ _

theorem setInitState_mImageDescs (index : ImageIndex) (target : TextureTarget) (level : Nat) :
    (t.setInitState index .Initialized).mImageDescs target level =
      if target ∈ World.targetsOf t index ∧ level = index.level then
        (t.mImageDescs target level).initialized
      else t.mImageDescs target level := by
  rw [setInitState_initialized]

theorem pending_setInitState {index : ImageIndex} :
    (t.setInitState index .Initialized).Pending target level ↔
      t.Pending target level ∧ ¬ (target ∈ World.targetsOf t index ∧ level = index.level) := by
  rw [Pending, setInitState_mImageDescs]
  by_cases hindex : target ∈ targetsOf t index ∧ level = index.level
  · simp [hindex, ImageDesc.initialized]
  · simp [hindex, Pending]

theorem Sound.setInitState (ht : t.Sound) (index : ImageIndex) :
    (t.setInitState index .Initialized).Sound := by
  have heq := setInitState_initialized (t := t) index
  refine ht.mono (fun target level h => ⟨(pending_setInitState.mp h).1, ?_⟩) ?_ ?_ ?_ ?_
  · rw [heq]
  · rw [heq]
  · rw [heq]
    exact id
  · rw [heq]
  · rw [heq]

theorem Sound.erase (ht : t.Sound)
    (hwritten : t.mWritten target level = false) : (t.erase target level).Sound :=
  ht.mono (fun _ _ h => ⟨h, rfl⟩) (by simp [Texture.erase, hwritten]) id rfl rfl

theorem Sound.markWritten (ht : t.Sound)
    (hpending : ¬ t.Pending target level) : (t.markWritten target level true).Sound := by
  refine ht.mono (fun target' level' h => ⟨h, ?_⟩) rfl id rfl rfl
  by_cases htarget : target' = target
  · subst htarget
    have hlevel : level' ≠ level := by
      rintro rfl
      exact hpending h
    simp [Texture.markWritten, hlevel]
  · simp [Texture.markWritten, htarget]

/-! ## Mipmaps -/

/-- The images that are described when mipmaps are generated. -/
def Generates (t : Texture) (target : TextureTarget) (level : Nat) : Prop :=
  t.getEffectiveBaseLevel < t.getMipmapMaxLevel ∧ target ∈ t.mType.targets ∧
    t.getEffectiveBaseLevel ≤ level ∧ level ≤ t.getMipmapMaxLevel

/-- Every image that has to be initialized is one that is described, if mipmaps are generated. -/
def Settles (t : Texture) (automatic : Bool) : Prop :=
  ∀ target level, t.Pending target level → automatic ∧ t.Generates target level

/-- No image but one has to be initialized. -/
def OnlyPending (t : Texture) (target : TextureTarget) (level : Nat) : Prop :=
  ∀ target' level', t.Pending target' level' → target' = target ∧ level' = level

/-- The descriptions are the same, and what the levels of mipmaps depend on. -/
structure SameDescs (t u : Texture) : Prop where
  type : t.mType = u.mType
  baseLevel : t.mBaseLevel = u.mBaseLevel
  maxLevel : t.mMaxLevel = u.mMaxLevel
  immutableFormat : t.mImmutableFormat = u.mImmutableFormat
  immutableLevels : t.mImmutableLevels = u.mImmutableLevels
  hint : t.mGenerateMipmapHint = u.mGenerateMipmapHint
  descs : t.mImageDescs = u.mImageDescs

namespace SameDescs

theorem refl (t : Texture) : SameDescs t t := ⟨rfl, rfl, rfl, rfl, rfl, rfl, rfl⟩

theorem trans {t u v : Texture} (h : SameDescs t u) (h' : SameDescs u v) : SameDescs t v :=
  ⟨h.type.trans h'.type, h.baseLevel.trans h'.baseLevel, h.maxLevel.trans h'.maxLevel,
    h.immutableFormat.trans h'.immutableFormat, h.immutableLevels.trans h'.immutableLevels,
    h.hint.trans h'.hint, h.descs.trans h'.descs⟩

theorem after {t u v : Texture} (h : SameDescs u v) (h' : SameDescs t u) : SameDescs t v :=
  h'.trans h

variable (h : SameDescs t u)
include h

theorem pending (target : TextureTarget) (level : Nat) :
    t.Pending target level ↔ u.Pending target level := by
  rw [Pending, Pending, h.descs]

theorem effectiveBaseLevel : t.getEffectiveBaseLevel = u.getEffectiveBaseLevel := by
  simp [getEffectiveBaseLevel, h.baseLevel, h.immutableFormat, h.immutableLevels]

theorem mipmapMaxLevel : t.getMipmapMaxLevel = u.getMipmapMaxLevel := by
  simp [getMipmapMaxLevel, getEffectiveMaxLevel, baseImageDesc, getBaseImageTarget,
    h.effectiveBaseLevel, h.maxLevel, h.immutableFormat, h.immutableLevels, h.type, h.descs]

theorem generates (target : TextureTarget) (level : Nat) :
    t.Generates target level ↔ u.Generates target level := by
  rw [Generates, Generates, h.effectiveBaseLevel, h.mipmapMaxLevel, h.type]

theorem define (target : TextureTarget) (level : Nat) (desc : ImageDesc) :
    SameDescs (t.setImageDesc target level desc) (u.setImageDesc target level desc) := by
  refine { h with descs := ?_ }
  funext target' level'
  rw [setImageDesc_mImageDescs, setImageDesc_mImageDescs, h.descs]

theorem setInitState (index : ImageIndex) :
    SameDescs (t.setInitState index .Initialized) (u.setInitState index .Initialized) := by
  rw [setInitState_initialized, setInitState_initialized]
  refine { h with descs := ?_ }
  funext target level
  have htargets : targetsOf t index = targetsOf u index := by
    rw [targetsOf, targetsOf, h.type]
  simp only [htargets, h.descs]

end SameDescs

theorem Settles.congr {automatic : Bool} (h : SameDescs t u) (hu : u.Settles automatic) :
    t.Settles automatic := by
  intro target level hpending
  obtain ⟨hautomatic, hgenerates⟩ := hu target level ((h.pending target level).mp hpending)
  exact ⟨hautomatic, (h.generates target level).mpr hgenerates⟩

theorem sameDescs_setImageDesc_setInitState (target : TextureTarget) (level : Nat)
    (desc : ImageDesc) :
    SameDescs ((t.setInitState ⟨some target, level⟩ .Initialized).setImageDesc target level desc)
      (t.setImageDesc target level desc) := by
  rw [setInitState_initialized]
  refine ⟨rfl, rfl, rfl, rfl, rfl, rfl, ?_⟩
  funext target' level'
  rw [setImageDesc_mImageDescs, setImageDesc_mImageDescs]
  by_cases heq : target' = target ∧ level' = level
  · rw [if_pos heq, if_pos heq]
  · rw [if_neg heq, if_neg heq]
    exact if_neg fun h => heq ⟨mem_singleton.mp h.1, h.2⟩

theorem sameDescs_setInitState
    (hpending : ¬ t.Pending target level) :
    SameDescs t (t.setInitState ⟨some target, level⟩ .Initialized) := by
  rw [setInitState_initialized]
  refine ⟨rfl, rfl, rfl, rfl, rfl, rfl, ?_⟩
  funext target' level'
  by_cases heq : target' ∈ targetsOf t ⟨some target, level⟩ ∧ level' = level
  · have htarget : target' = target := mem_singleton.mp heq.1
    have hinitialized : (t.mImageDescs target' level').initState = .Initialized := by
      rw [htarget, heq.2]
      cases hstate : (t.mImageDescs target level).initState with
      | MayNeedInit => exact absurd hstate hpending
      | Initialized => rfl
    simp only [if_pos heq, ImageDesc.initialized_of_initialized hinitialized]
  · simp only [if_neg heq]

def releasedIf (t : Texture) (bound : Bool) : Texture :=
  if bound then t.clearImageDesc (.nonCube t.mType) 0 else t

/-- The images that are described by mipmaps do not have to be initialized. -/
theorem Sound.describeMipmap (ht : t.Sound)
    (hlevels : t.getEffectiveBaseLevel < t.getMipmapMaxLevel) :
    (World.describeMipmap t).Safe ∧ ∀ target level, (World.describeMipmap t).Pending target level →
      t.Pending target level ∧ ¬ t.Generates target level := by
  have hpending : ∀ target level, (World.describeMipmap t).Pending target level →
      t.Pending target level ∧ ¬ t.Generates target level := by
    intro target level h
    rw [Pending, show (World.describeMipmap t).mImageDescs =
      (t.setImageDescChain t.getEffectiveBaseLevel t.getMipmapMaxLevel t.baseImageDesc.size
        t.baseImageDesc.format .Initialized).mImageDescs from rfl, setImageDescChain_eq] at h
    by_cases hmember : target ∈ t.mType.targets ∧ t.getEffectiveBaseLevel ≤ level ∧
        level ≤ t.getMipmapMaxLevel
    · simp only [if_pos hmember] at h
      cases h
    · simp only [if_neg hmember] at h
      exact ⟨h, fun hgenerates => hmember hgenerates.2⟩
  have hfields : (World.describeMipmap t).mErased = t.mErased ∧
      (World.describeMipmap t).mBoundSurface = t.mBoundSurface ∧
      (World.describeMipmap t).mType = t.mType ∧
      (World.describeMipmap t).mWritten = fun target level =>
        if t.getEffectiveBaseLevel + 1 ≤ level ∧ level ≤ t.getMipmapMaxLevel then true
        else t.mWritten target level := by
    simp only [World.describeMipmap, setImageDescChain_eq]
    exact ⟨rfl, rfl, rfl, rfl⟩
  obtain ⟨herased, hbound, htype, hwritten⟩ := hfields
  refine ⟨ht.toSafe.mono (fun target level h => ⟨(hpending target level h).1, ?_⟩) herased
    (fun h => hbound ▸ h) htype, hpending⟩
  have hnot := (hpending target level h).2
  have htarget := (mem_images.mp (ht.covered target level (hpending target level h).1)).1
  rw [hwritten]
  exact if_neg fun hlevel => hnot ⟨hlevels, htarget, by omega, hlevel.2⟩

end Texture

namespace World

open Texture

/-- Something of one texture, in a context with robust initialization, and of the others. -/
structure At (others : TextureID → Texture → Prop) (id : TextureID) (p : Texture → Prop)
    (w : World) : Prop where
  robust : w.isRobustResourceInitEnabled
  others : ∀ id', id' ≠ id → others id' (w.textures id')
  this : p (w.textures id)

/-- An operation on one texture, which is sound where the operation fails. -/
def Spec (others : TextureID → Texture → Prop) (id : TextureID) (p : Texture → Prop) (op : Op)
    (q : Texture → Prop) : Prop :=
  Triple (At others id p) op (At others id q) (At others id Sound)

variable {w : World} {b : Backend} {id : TextureID} {others : TextureID → Texture → Prop}
  {p q r : Texture → Prop} {u v : Texture} {bound : Bool}

namespace Spec

theorem onTexture {f : Texture → Texture} (h : ∀ t, p t → q (f t)) :
    Spec others id p (onTexture id f) q := by
  refine update fun w hw => ⟨hw.robust, fun id' hid' => ?_, ?_⟩
  · simpa [modify, hid'] using hw.others id' hid'
  · simpa [modify] using h _ hw.this

theorem attempt (h : ∀ t, p t → t.Sound) (ok : Bool) : Spec others id p (attempt ok) p :=
  Triple.attempt (fun _ _ hw => hw) fun _ _ hw => ⟨hw.robust, hw.others, h _ hw.this⟩

theorem andThen {first second : Op} (hfirst : Spec others id p first q)
    (hsecond : Spec others id q second r) : Spec others id p (first >> second) r :=
  Triple.andThen hfirst hsecond

theorem mono {p' q' : Texture → Prop} {op : Op} (h : Spec others id p op q)
    (hpre : ∀ t, p' t → p t) (hpost : ∀ t, q t → q' t) : Spec others id p' op q' :=
  Triple.mono h (fun _ hw => ⟨hw.robust, hw.others, hpre _ hw.this⟩)
    (fun _ hw => ⟨hw.robust, hw.others, hpost _ hw.this⟩) fun _ hw => hw

theorem ofState {op : World → Op}
    (h : ∀ w, At others id p w → Spec others id (fun t => t = w.textures id) (op w) q) :
    Spec others id p (ofState op) q := by
  refine Triple.ofState fun w hw => ?_
  refine Triple.mono (h w hw) (fun s hs => ?_) (fun _ hs => hs) fun _ hs => hs
  subst hs
  exact ⟨hw.robust, hw.others, rfl⟩

theorem when {condition : Bool} {op : Op} (hyes : condition → Spec others id p op q)
    (hno : condition = false → ∀ t, p t → q t) : Spec others id p (when condition op) q :=
  Triple.when hyes fun hcondition _ hw => ⟨hw.robust, hw.others, hno hcondition _ hw.this⟩

theorem forEach {α : Type} {op : α → Op} {xs : List α} (h : ∀ x ∈ xs, Spec others id p (op x) p) :
    Spec others id p (forEach xs op) p :=
  Triple.forEach h

theorem initializeContents (target : TextureTarget) (level : Nat) (hsound : ∀ t, p t → t.Sound)
    (herase : ∀ t, p t → p (t.erase target level)) :
    Spec others id p (initializeContents b id target level) p :=
  (onTexture herase).andThen (attempt hsound _)

end Spec

/-! ## What comes before an image is defined -/

/-- A sound texture with the descriptions of `v`. -/
structure Like (v : Texture) (bound : Bool) (t : Texture) : Prop where
  sound : t.Sound
  bound : t.mBoundSurface = bound
  same : SameDescs t v

theorem Like.none_pending {t : Texture} (h : Like v true t) (target : TextureTarget) (level : Nat) :
    ¬ t.Pending target level :=
  h.sound.bound h.bound target level

theorem Like.clear {t : Texture} (h : Like v false t)
    (hnone : ∀ target level, ¬ t.Pending target level) :
    Like (v.releasedIf true) false
      (((t.clearImageDesc (.nonCube t.mType) 0).markWritten (.nonCube t.mType) 0
        false).signalDirtyStorage .Initialized) where
  __ := h
  sound := by
    have hdefined : ((t.clearImageDesc (.nonCube t.mType) 0).markWritten (.nonCube t.mType) 0
        false).Sound := h.sound.define h.bound fun hmay => by cases hmay
    refine signal_sound_of_none hdefined.notErased (fun target level hpending => ?_) _
    have hbefore := pending_setImageDesc.mp hpending
    split at hbefore
    · cases hbefore
    · exact hnone target level hbefore
  same := by
    have hsame := h.same.define (.nonCube t.mType) 0 .none
    rw [h.same.type] at hsame
    rw [h.same.type]
    exact hsame.after ⟨rfl, rfl, rfl, rfl, rfl, rfl, rfl⟩

theorem spec_releaseTexImageFromSurface :
    Spec others id (Like v true) (releaseTexImageFromSurface b id)
      (Like (v.releasedIf true) false) := by
  have hunbind : Spec others id (Like v true)
      (onTexture id fun t => { t with mBoundSurface := false })
      (fun t => Like v false t ∧ ∀ target level, ¬ t.Pending target level) := by
    refine Spec.onTexture fun t ht => ⟨⟨?_, rfl, ?_⟩, ht.none_pending⟩
    · exact ht.sound.congr rfl rfl rfl (fun h => by cases h) rfl rfl
    · exact ht.same.after ⟨rfl, rfl, rfl, rfl, rfl, rfl, rfl⟩
  exact hunbind.andThen ((Spec.attempt (fun t ht => ht.1.sound) _).andThen
    (Spec.onTexture fun t ht => ht.1.clear ht.2))

theorem spec_releaseTexImageInternal :
    Spec others id (Like v bound) (releaseTexImageInternal b id)
      (Like (v.releasedIf bound) false) := by
  refine Spec.ofState fun w hw => ?_
  rw [hw.this.bound]
  refine Spec.when (fun hbound => ?_) fun hbound t ht => ?_
  · obtain rfl : bound := hbound
    exact spec_releaseTexImageFromSurface.mono (fun t ht => ht ▸ hw.this) fun _ ht => ht
  · obtain rfl : bound = false := hbound
    exact ht ▸ hw.this

theorem spec_orphanImages :
    Spec others id (Like v bound) (orphanImages b id) (Like v bound) := by
  refine (Spec.attempt (fun t ht => ht.sound) _).andThen (Spec.onTexture fun t ht => ?_)
  exact ⟨ht.sound.congr rfl rfl rfl (fun h => h) rfl rfl, ht.bound,
    ht.same.after ⟨rfl, rfl, rfl, rfl, rfl, rfl, rfl⟩⟩

theorem spec_releaseAndOrphan :
    Spec others id (Like v bound) (releaseAndOrphan b id) (Like (v.releasedIf bound) false) :=
  spec_releaseTexImageInternal.andThen spec_orphanImages

/-! ## Initialization -/

theorem mayNeedInit_of_pending (hrobust : w.isRobustResourceInitEnabled)
    (hsound : (w.textures id).Sound) {target : TextureTarget} {level : Nat}
    (hpending : (w.textures id).Pending target level) : w.mayNeedInit id := by
  refine decide_eq_true ⟨hrobust, fun hsummary => ?_⟩
  exact hsound.summary hsummary target level hpending

theorem Like.erase {t : Texture} (h : Like v bound t) {target : TextureTarget} {level : Nat}
    (hwritten : t.mWritten target level = false) : Like v bound (t.erase target level) where
  __ := h
  sound := h.sound.erase hwritten
  same := h.same.after ⟨rfl, rfl, rfl, rfl, rfl, rfl, rfl⟩

theorem Like.setInitState {t : Texture} (h : Like v bound t) (index : ImageIndex) :
    Like (v.setInitState index .Initialized) bound (t.setInitState index .Initialized) where
  sound := h.sound.setInitState index
  bound := by
    rw [setInitState_initialized]
    exact h.bound
  same := h.same.setInitState index

/-- An image that has been written in part is initialized, and one that is written whole need not
be. -/
theorem spec_ensureSubImageInitialized (target : TextureTarget) (level : Nat) (area : Box) :
    Spec others id (Like v bound) (ensureSubImageInitialized b id target level area)
      (Like (v.setInitState ⟨some target, level⟩ .Initialized) bound) := by
  refine Spec.ofState fun w hw => Spec.when (fun hneeds => ?_) fun hneeds t ht => ?_
  · simp only [Bool.and_eq_true, needsInit, decide_eq_true_eq] at hneeds
    have hpending : (w.textures id).Pending target level := hneeds.2
    have hcontents : Spec others id (fun t => Like v bound t ∧ t.mWritten target level = false)
        (initializeContents b id target level)
        (fun t => Like v bound t ∧ t.mWritten target level = false) :=
      Spec.initializeContents target level (fun t ht => ht.1.sound)
        fun t ht => ⟨ht.1.erase ht.2, ht.2⟩
    have hmaybe : Spec others id (fun t => t = w.textures id)
        (when (!coversWholeImage ((w.textures id).mImageDescs target level).size area)
          (initializeContents b id target level)) (Like v bound) := by
      refine Spec.mono (Spec.when (fun _ => hcontents) fun _ _ ht => ht) (fun t ht => ?_)
        fun _ ht => ht.1
      subst ht
      exact ⟨hw.this, hw.this.sound.unwritten target level hpending⟩
    exact hmaybe.andThen (Spec.onTexture fun t ht => ht.setInitState _)
  · subst ht
    have hpending : ¬ (w.textures id).Pending target level := by
      intro hpending
      rw [mayNeedInit_of_pending hw.robust hw.this.sound hpending, Bool.true_and, needsInit,
        decide_eq_false_iff_not] at hneeds
      exact hneeds hpending
    have hsame := sameDescs_setInitState hpending
    exact ⟨hw.this.sound, hw.this.bound, hsame.trans (hw.this.same.setInitState _)⟩

/-! ## Mipmaps -/

/-- A texture whose mipmaps have been generated if `automatic`, in which some images of `v` have to
be initialized.  Its summary is behind its images only where levels have been generated. -/
structure Mipmapped (v : Texture) (automatic : Bool) (t : Texture) : Prop where
  safe : t.Safe
  pending : ∀ target level, t.Pending target level →
    v.Pending target level ∧ ¬ (automatic ∧ v.Generates target level)
  sound : ¬ (automatic ∧ v.getEffectiveBaseLevel < v.getMipmapMaxLevel) → t.Sound

theorem Like.mipmapped {t : Texture} (h : Like v bound t) {automatic : Bool}
    (hnone : ¬ (automatic ∧ v.getEffectiveBaseLevel < v.getMipmapMaxLevel)) :
    Mipmapped v automatic t where
  safe := h.sound.toSafe
  pending target level hpending :=
    ⟨(h.same.pending target level).mp hpending, fun hgenerates => hnone ⟨hgenerates.1, hgenerates.2.1⟩⟩
  sound _ := h.sound

theorem Mipmapped.none_pending {t : Texture} {automatic : Bool} (h : Mipmapped v automatic t)
    (hsettles : v.Settles automatic) (target : TextureTarget) (level : Nat) :
    ¬ t.Pending target level := by
  intro hpending
  obtain ⟨hbefore, hnot⟩ := h.pending target level hpending
  exact hnot (hsettles target level hbefore)

theorem Mipmapped.sound_of_settles {t : Texture} {automatic : Bool} (h : Mipmapped v automatic t)
    (hsettles : automatic → v.getEffectiveBaseLevel < v.getMipmapMaxLevel →
      v.Settles true) : t.Sound := by
  by_cases hgenerates : automatic ∧ v.getEffectiveBaseLevel < v.getMipmapMaxLevel
  · obtain ⟨rfl, hlevels⟩ := hgenerates
    exact sound_of_none h.safe.notErased (h.none_pending (hsettles rfl hlevels))
  · exact h.sound hgenerates

theorem spec_initializeBase (level : Nat) (target : TextureTarget) :
    Spec others id (Like v false) (initializeBase b id level target) (Like v false) := by
  refine Spec.ofState fun w hw => Spec.when (fun hneeds => ?_) fun _ t ht => ht ▸ hw.this
  have hpending : (w.textures id).Pending target level := of_decide_eq_true hneeds
  have hcontents : Spec others id (fun t => Like v false t ∧ t.mWritten target level = false)
      (initializeContents b id target level)
      (fun t => Like v false t ∧ t.mWritten target level = false) :=
    Spec.initializeContents target level (fun t ht => ht.1.sound)
      fun t ht => ⟨ht.1.erase ht.2, ht.2⟩
  refine hcontents.mono (fun t ht => ?_) fun _ ht => ht.1
  subst ht
  exact ⟨hw.this, hw.this.sound.unwritten target level hpending⟩

theorem spec_generateMipmap :
    Spec others id (Like v bound) (generateMipmap b id) (Mipmapped (v.releasedIf bound) true) := by
  have horphan : Spec others id (Like (v.releasedIf bound) false)
      (ofState fun w => when (!(w.textures id).computeMipmapCompleteness) (orphanImages b id))
      (Like (v.releasedIf bound) false) := by
    refine Spec.ofState fun w hw => Spec.when (fun _ => ?_) fun _ t ht => ht ▸ hw.this
    exact spec_orphanImages.mono (fun t ht => ht ▸ hw.this) fun _ ht => ht
  refine spec_releaseTexImageInternal.andThen (horphan.andThen (Spec.ofState fun w hw =>
    Spec.when (fun hlevels => ?_) fun hlevels t ht => ?_))
  · have hbases : (w.textures id).getEffectiveBaseLevel < (w.textures id).getMipmapMaxLevel :=
      of_decide_eq_true hlevels
    have hattempt : ∀ ok, Spec others id (Like (v.releasedIf bound) false) (attempt ok)
        (Like (v.releasedIf bound) false) := fun ok => Spec.attempt (fun t ht => ht.sound) ok
    have hinit : Spec others id (Like (v.releasedIf bound) false)
        (when w.isRobustResourceInitEnabled (forEach (w.textures id).mType.targets
          (initializeBase b id (w.textures id).getEffectiveBaseLevel)))
        (Like (v.releasedIf bound) false) :=
      Spec.when (fun _ => Spec.forEach fun target _ => spec_initializeBase _ target)
        fun _ _ ht => ht
    have hdescribe : Spec others id (Like (v.releasedIf bound) false) (onTexture id describeMipmap)
        (Mipmapped (v.releasedIf bound) true) := by
      refine Spec.onTexture fun t ht => ?_
      have hsame := ht.same
      have htexture := hw.this.same
      have hthese : t.getEffectiveBaseLevel < t.getMipmapMaxLevel := by
        rw [hsame.effectiveBaseLevel, hsame.mipmapMaxLevel, ← htexture.effectiveBaseLevel,
          ← htexture.mipmapMaxLevel]
        exact hbases
      obtain ⟨hsafe, hpending⟩ := ht.sound.describeMipmap hthese
      refine ⟨hsafe, fun target level h => ?_, fun hnot => ?_⟩
      · obtain ⟨hbefore, hnot⟩ := hpending target level h
        exact ⟨(hsame.pending target level).mp hbefore,
          fun hgenerates => hnot ((hsame.generates target level).mpr hgenerates.2)⟩
      · refine absurd ⟨rfl, ?_⟩ hnot
        rw [← hsame.effectiveBaseLevel, ← hsame.mipmapMaxLevel]
        exact hthese
    exact ((hattempt b.syncState).andThen (hinit.andThen ((hattempt b.generateMipmap).andThen
      hdescribe))).mono (fun t ht => ht ▸ hw.this) fun _ ht => ht
  · subst ht
    refine hw.this.mipmapped fun hgenerates => ?_
    rw [← hw.this.same.effectiveBaseLevel, ← hw.this.same.mipmapMaxLevel] at hgenerates
    exact of_decide_eq_false hlevels hgenerates.2

theorem spec_handleMipmapGenerationHint {automatic : Bool} {level : Nat}
    (hautomatic : (v.mGenerateMipmapHint && level = 0) = automatic) :
    Spec others id (Like v false) (handleMipmapGenerationHint b id level)
      (Mipmapped v automatic) := by
  refine Spec.ofState fun w hw => ?_
  rw [hw.this.same.hint, hautomatic]
  refine Spec.when (fun hyes => ?_) fun hno t ht => ?_
  · obtain rfl : automatic := hyes
    have hgenerate : Spec others id (Like v false) (generateMipmap b id)
        (Mipmapped (v.releasedIf false) true) := spec_generateMipmap
    exact hgenerate.mono (fun t ht => ht ▸ hw.this) fun _ ht => ht
  · subst ht
    exact hw.this.mipmapped fun h => by simp [hno] at h

/-! ## Images -/

theorem spec_defineImage {target : TextureTarget} {level : Nat} {written : Bool}
    (hdesc : desc.initState = .MayNeedInit → written = false ∧ (target, level) ∈ images v.mType) :
    Spec others id (Like v false) (defineImage id target level desc written)
      (Like (v.setImageDesc target level desc) false) := by
  refine Spec.onTexture fun t ht => ⟨?_, ht.bound, (ht.same.define target level desc).after
    ⟨rfl, rfl, rfl, rfl, rfl, rfl, rfl⟩⟩
  refine ht.sound.define ht.bound fun hmay => ?_
  rw [ht.same.type]
  exact hdesc hmay

theorem spec_signal (hp : ∀ t, p t → t.Safe) (initState : InitState)
    (hnone : initState = .Initialized → ∀ t, p t → ∀ target level, ¬ t.Pending target level) :
    Spec others id p (signalDirtyStorage id initState) Sound := by
  refine Spec.onTexture fun t ht => ?_
  cases initState with
  | MayNeedInit => exact (hp t ht).signal_mayNeedInit
  | Initialized => exact signal_sound_of_none (hp t ht).notErased (hnone rfl t ht) _

theorem spec_attempt_call {op : Op} (hp : ∀ t, p t → t.Sound)
    (hop : b.call → Spec others id p op q) : Spec others id p (attempt b.call >> op) q := by
  cases hcall : b.call with
  | true => exact (Spec.attempt hp true).andThen (hop hcall)
  | false => exact attempt_false fun w hw => ⟨hw.robust, hw.others, hp _ hw.this⟩

def stateOf (hasPixels : Bool) : InitState := if hasPixels then .Initialized else .MayNeedInit

theorem determineInitState_eq (hw : w.isRobustResourceInitEnabled) (hasPixels : Bool) :
    w.determineInitState hasPixels = stateOf hasPixels := by
  cases hasPixels <;> simp [determineInitState, stateOf, hw]

variable {size : Extents} {format : InternalFormat} {hasPixels : Bool}

/-- An image is defined, gets its mipmaps, and the change is signalled. -/
theorem spec_define_mipmap {target : TextureTarget} {level : Nat}
    (hvalid : (target, level) ∈ images v.mType) (hsettles : hasPixels →
      (v.setImageDesc target level (.new size format .Initialized)).Settles
        (v.mGenerateMipmapHint && level = 0)) :
    Spec others id (Like v false) ((ofState fun w => defineImage id target level
          (.new size format (w.determineInitState hasPixels)) hasPixels) >>
        handleMipmapGenerationHint b id level >>
        ofState fun w => signalDirtyStorage id (w.determineInitState hasPixels)) Sound := by
  have hdefine : Spec others id (Like v false) (ofState fun w => defineImage id target level
        (.new size format (w.determineInitState hasPixels)) hasPixels)
      (Like (v.setImageDesc target level (.new size format (stateOf hasPixels))) false) := by
    refine Spec.ofState fun w hw => ?_
    rw [determineInitState_eq hw.robust]
    refine (spec_defineImage fun hmay => ⟨?_, hvalid⟩).mono (fun t ht => ht ▸ hw.this) fun _ ht => ht
    cases hasPixels with
    | false => rfl
    | true => cases hmay
  refine hdefine.andThen ((spec_handleMipmapGenerationHint rfl).andThen
    (Spec.ofState fun w hw => ?_))
  rw [determineInitState_eq hw.robust]
  refine Spec.mono (spec_signal (fun t ht => ht.safe) _ fun hinitialized t ht => ?_)
    (fun t ht => ht ▸ hw.this) fun _ ht => ht
  cases hasPixels with
  | false => cases hinitialized
  | true => exact ht.none_pending (hsettles rfl)

theorem releasedIf_mType (v : Texture) (bound : Bool) : (v.releasedIf bound).mType = v.mType := by
  cases bound <;> rfl

theorem releasedIf_hint (v : Texture) (bound : Bool) :
    (v.releasedIf bound).mGenerateMipmapHint = v.mGenerateMipmapHint := by
  cases bound <;> rfl

/-- A texture without a surface, in which only images of `v` have to be initialized. -/
structure Within (v : Texture) (t : Texture) : Prop where
  sound : t.Sound
  unbound : t.mBoundSurface = false
  type : t.mType = v.mType
  pending : ∀ target level, t.Pending target level → v.Pending target level

theorem Like.within {t : Texture} (h : Like v false t) : Within v t :=
  ⟨h.sound, h.bound, h.same.type, fun target level => (h.same.pending target level).mp⟩

/-- An initialized image is defined, and no other image has to be initialized. -/
theorem spec_define_signal {target : World → TextureTarget} {level : Nat}
    {desc : World → ImageDesc} {written : Bool} (herased : ∀ t, p t → t.mErased = false)
    (hinitialized : ∀ w, (desc w).initState = .Initialized)
    (hothers : ∀ w, At others id p w → (w.textures id).OnlyPending (target w) level) :
    Spec others id p ((ofState fun w => defineImage id (target w) level (desc w) written) >>
        signalDirtyStorage id .Initialized) Sound := by
  have hdefine : Spec others id p
      (ofState fun w => defineImage id (target w) level (desc w) written)
      (fun t => t.mErased = false ∧ ∀ target level, ¬ t.Pending target level) := by
    refine Spec.ofState fun w hw => Spec.onTexture fun t ht => ⟨?_, fun target' level' hpending => ?_⟩
    · exact herased t (ht ▸ hw.this)
    · subst ht
      have hbefore := pending_setImageDesc.mp hpending
      by_cases heq : target' = target w ∧ level' = level
      · rw [if_pos heq, hinitialized w] at hbefore
        cases hbefore
      · rw [if_neg heq] at hbefore
        exact heq (hothers w hw target' level' hbefore)
  exact hdefine.andThen (Spec.onTexture fun t ht => signal_sound_of_none ht.1 ht.2 _)

section

variable {target : TextureTarget}

theorem spec_setImage {level : Nat}
    (hvalid : (target, level) ∈ images v.mType) (hsettles : b.call → hasPixels →
      ((v.releasedIf bound).setImageDesc target level (.new size format .Initialized)).Settles
        (v.mGenerateMipmapHint && level = 0)) :
    Spec others id (Like v bound) (setImage b id target level size format hasPixels) Sound := by
  refine spec_releaseAndOrphan.andThen (spec_attempt_call (fun t ht => ht.sound) fun hcall => ?_)
  refine spec_define_mipmap (by rwa [releasedIf_mType]) fun hpixels => ?_
  rw [releasedIf_hint]
  exact hsettles hcall hpixels

theorem spec_define_mipmap_initialized {level : Nat}
    (hsettles : (v.setImageDesc target level (.new size format .Initialized)).Settles
      (v.mGenerateMipmapHint && level = 0)) :
    Spec others id (Like v false)
      (defineImage id target level (.new size format .Initialized) true >>
        handleMipmapGenerationHint b id level >> signalDirtyStorage id .Initialized) Sound :=
  (spec_defineImage fun hmay => by cases hmay).andThen
    ((spec_handleMipmapGenerationHint rfl).andThen
      (spec_signal (fun _ ht => ht.safe) _ fun _ _ ht => ht.none_pending hsettles))

theorem spec_setImageExternal {level : Nat} (hsettles : b.call →
      ((v.releasedIf bound).setImageDesc target level (.new size format .Initialized)).Settles
        (v.mGenerateMipmapHint && level = 0)) :
    Spec others id (Like v bound) (setImageExternal b id target level size format) Sound := by
  refine spec_releaseAndOrphan.andThen (spec_attempt_call (fun t ht => ht.sound) fun hcall => ?_)
  apply spec_define_mipmap_initialized
  rw [releasedIf_hint]
  exact hsettles hcall

theorem spec_copyImage {level width height : Nat}
    (hsettles : b.call → ((v.releasedIf bound).setImageDesc target level
        (.new ⟨width, height, 1⟩ format .Initialized)).Settles
        (v.mGenerateMipmapHint && level = 0)) :
    Spec others id (Like v bound) (copyImage b id target level width height format) Sound := by
  refine spec_releaseAndOrphan.andThen ((spec_ensureSubImageInitialized target level _).andThen
    (spec_attempt_call (fun t ht => ht.sound) fun hcall => ?_))
  apply spec_define_mipmap_initialized
  have hhint : ((v.releasedIf bound).setInitState ⟨some target, level⟩
      .Initialized).mGenerateMipmapHint = v.mGenerateMipmapHint := by
    exact releasedIf_hint v bound
  rw [hhint]
  exact (hsettles hcall).congr (sameDescs_setImageDesc_setInitState target level _)

theorem spec_setCompressedImage {level : Nat}
    (hvalid : (target, level) ∈ images v.mType)
    (hothers : b.call → hasPixels → (v.releasedIf bound).OnlyPending target level) :
    Spec others id (Like v bound) (setCompressedImage b id target level size format hasPixels)
      Sound := by
  refine spec_releaseAndOrphan.andThen (spec_attempt_call (fun t ht => ht.sound) fun hcall => ?_)
  have hdefine : Spec others id (Like (v.releasedIf bound) false)
      (ofState fun w => defineImage id target level
        (.new size format (w.determineInitState hasPixels)) hasPixels)
      (Like ((v.releasedIf bound).setImageDesc target level
        (.new size format (stateOf hasPixels))) false) := by
    refine Spec.ofState fun w hw => ?_
    rw [determineInitState_eq hw.robust]
    refine (spec_defineImage fun hmay => ⟨?_, by rwa [releasedIf_mType]⟩).mono
      (fun t ht => ht ▸ hw.this) fun _ ht => ht
    cases hasPixels with
    | false => rfl
    | true => cases hmay
  refine hdefine.andThen (Spec.ofState fun w hw => ?_)
  rw [determineInitState_eq hw.robust]
  refine Spec.mono (spec_signal (fun t ht => ht.sound.toSafe) _ fun hinitialized t ht => ?_)
    (fun t ht => ht ▸ hw.this) fun _ ht => ht
  cases hasPixels with
  | false => cases hinitialized
  | true =>
    intro target' level' hpending
    have hbefore := pending_setImageDesc.mp ((ht.same.pending target' level').mp hpending)
    by_cases heq : target' = target ∧ level' = level
    · rw [if_pos heq] at hbefore
      cases hbefore
    · rw [if_neg heq] at hbefore
      exact heq (hothers hcall rfl target' level' hbefore)

end

/-! ## Initialization of all images -/

/-- What a texture has while its images are initialized, one after another. -/
structure Closed (p : Texture → Prop) : Prop where
  sound : ∀ t, p t → t.Sound
  erase : ∀ t target level, p t → t.mWritten target level = false → p (t.erase target level)
  setInitState : ∀ t index, p t → p (t.setInitState index .Initialized)
  finish : ∀ t (anyDirty : Bool), p t → (∀ target level, ¬ t.Pending target level) →
    p { (if anyDirty then t.signalDirtyStorage .Initialized else t) with
        mInitState := .Initialized }

theorem Sound.finish {t : Texture} (ht : t.Sound) (anyDirty : Bool)
    (hnone : ∀ target level, ¬ t.Pending target level) :
    ({ (if anyDirty then t.signalDirtyStorage .Initialized else t) with
        mInitState := .Initialized } : Texture).Sound := by
  refine sound_of_none ?_ fun target level h => ?_
  · cases anyDirty <;> exact ht.notErased
  · cases anyDirty <;> exact hnone target level h

theorem closed_sound : Closed Sound where
  sound _ ht := ht
  erase _ _ _ ht hwritten := ht.erase hwritten
  setInitState _ index ht := ht.setInitState index
  finish _ anyDirty ht hnone := Sound.finish ht anyDirty hnone

theorem closed_within (v : Texture) : Closed (Within v) where
  sound _ ht := ht.sound
  erase _ _ _ ht hwritten := { ht with sound := ht.sound.erase hwritten }
  setInitState t index ht := by
    have hpending : ∀ target level, (t.setInitState index .Initialized).Pending target level →
        v.Pending target level :=
      fun target level h => ht.pending target level (pending_setInitState.mp h).1
    have hunbound : (t.setInitState index .Initialized).mBoundSurface = false := by
      rw [setInitState_initialized]
      exact ht.unbound
    have htype : (t.setInitState index .Initialized).mType = v.mType := by
      rw [setInitState_initialized]
      exact ht.type
    exact ⟨ht.sound.setInitState index, hunbound, htype, hpending⟩
  finish t anyDirty ht hnone := by
    refine ⟨Sound.finish ht.sound anyDirty hnone, ?_, ?_, ?_⟩
    · cases anyDirty <;> exact ht.unbound
    · cases anyDirty <;> exact ht.type
    · intro target level h
      cases anyDirty <;> exact absurd h (hnone target level)

theorem spec_ensureImageInitialized (hp : Closed p) (image : TextureTarget × Nat) :
    Spec others id p (ensureImageInitialized b id image)
      (fun t => p t ∧ ¬ t.Pending image.1 image.2) := by
  refine Spec.ofState fun w hw => Spec.when (fun hneeds => ?_) fun hneeds t ht => ?_
  · have hpending : (w.textures id).Pending image.1 image.2 := of_decide_eq_true hneeds
    have hcontents : Spec others id (fun t => p t ∧ t.mWritten image.1 image.2 = false)
        (initializeContents b id image.1 image.2)
        (fun t => p t ∧ t.mWritten image.1 image.2 = false) :=
      Spec.initializeContents _ _ (fun t ht => hp.sound t ht.1)
        fun t ht => ⟨hp.erase t _ _ ht.1 ht.2, ht.2⟩
    have hset : Spec others id (fun t => p t ∧ t.mWritten image.1 image.2 = false)
        (onTexture id (·.setInitState ⟨some image.1, image.2⟩ .Initialized))
        (fun t => p t ∧ ¬ t.Pending image.1 image.2) := by
      refine Spec.onTexture fun t ht => ⟨hp.setInitState t _ ht.1, fun h => ?_⟩
      exact (pending_setInitState.mp h).2 ⟨mem_singleton_self image.1, rfl⟩
    refine (hcontents.andThen hset).mono (fun t ht => ?_) fun _ ht => ht
    subst ht
    exact ⟨hw.this, (hp.sound _ hw.this).unwritten _ _ hpending⟩
  · subst ht
    exact ⟨hw.this, of_decide_eq_false hneeds⟩

theorem spec_ensureImagesInitialized (hp : Closed p) (images : List (TextureTarget × Nat)) :
    Spec others id p (forEach images (ensureImageInitialized b id))
      (fun t => p t ∧ ∀ image ∈ images, ¬ t.Pending image.1 image.2) := by
  induction images generalizing p with
  | nil => exact done fun w hw => ⟨hw.robust, hw.others, hw.this, fun _ h => by cases h⟩
  | cons image images ih =>
    have hafter : Closed fun t => p t ∧ ¬ t.Pending image.1 image.2 :=
      { sound := fun t ht => hp.sound t ht.1
        erase := fun t target level ht hwritten => ⟨hp.erase t target level ht.1 hwritten, ht.2⟩
        setInitState := fun t index ht =>
          ⟨hp.setInitState t index ht.1, fun h => ht.2 (pending_setInitState.mp h).1⟩
        finish := fun t anyDirty ht hnone => by
          refine ⟨hp.finish t anyDirty ht.1 hnone, fun h => ?_⟩
          cases anyDirty <;> exact hnone _ _ h }
    refine ((spec_ensureImageInitialized hp image).andThen (ih hafter)).mono (fun _ ht => ht)
      fun t ht => ⟨ht.1.1, fun other hother => ?_⟩
    rcases mem_cons.mp hother with rfl | hother
    · exact ht.1.2
    · exact ht.2 other hother

theorem spec_ensureInitialized (hp : Closed p) :
    Spec others id p (ensureInitialized b id)
      (fun t => p t ∧ ∀ target level, ¬ t.Pending target level) := by
  refine Spec.ofState fun w hw => Spec.when (fun _ => ?_) fun hno t ht => ?_
  · have htyped : Closed fun t => p t ∧ t.mType = (w.textures id).mType :=
      { sound := fun t ht => hp.sound t ht.1
        erase := fun t target level ht hwritten => ⟨hp.erase t target level ht.1 hwritten, ht.2⟩
        setInitState := fun t index ht => by
          refine ⟨hp.setInitState t index ht.1, ?_⟩
          rw [setInitState_initialized]
          exact ht.2
        finish := fun t anyDirty ht hnone => by
          refine ⟨hp.finish t anyDirty ht.1 hnone, ?_⟩
          cases anyDirty <;> exact ht.2 }
    refine ((spec_ensureImagesInitialized htyped _).andThen (Spec.onTexture fun t ht => ?_)).mono
      (fun t ht => ?_) fun _ ht => ht
    · obtain ⟨⟨hpt, htype⟩, himages⟩ := ht
      have hnone : ∀ target level, ¬ t.Pending target level := by
        intro target level h
        refine himages (target, level) ?_ h
        rw [← htype]
        exact (hp.sound t hpt).covered target level h
      refine ⟨hp.finish t _ hpt hnone, fun target level h => ?_⟩
      split at h <;> exact hnone target level h
    · subst ht
      exact ⟨hw.this, rfl⟩
  · subst ht
    refine ⟨hw.this, fun target level hpending => ?_⟩
    have hyes := mayNeedInit_of_pending hw.robust (hp.sound _ hw.this) hpending
    rw [hyes] at hno
    cases hno

/-! ## Copies -/

variable {source : TextureID}

/-- The source of a copy is initialized, be it the texture that is defined or another. -/
theorem spec_ensureInitialized_source :
    Spec (fun _ => Sound) id (Within v) (ensureInitialized b source)
      (fun t => Within v t ∧ (source = id → ∀ target level, ¬ t.Pending target level)) := by
  by_cases hsource : source = id
  · subst hsource
    exact (spec_ensureInitialized (closed_within v)).mono (fun _ ht => ht)
      fun t ht => ⟨ht.1, fun _ => ht.2⟩
  · have hother : Spec (fun id' t => if id' = id then Within v t else t.Sound) source Sound
        (ensureInitialized b source) _ := spec_ensureInitialized closed_sound
    refine mono hother (fun w hw => ?_) (fun w hw => ?_) fun w hw => ?_
    · refine ⟨hw.robust, fun id' _ => ?_, hw.others source hsource⟩
      by_cases hid : id' = id
      · rw [if_pos hid, hid]
        exact hw.this
      · rw [if_neg hid]
        exact hw.others id' hid
    · have hthis := hw.others id fun h => hsource h.symm
      rw [if_pos rfl] at hthis
      refine ⟨hw.robust, fun id' hid => ?_, hthis, fun h => absurd h hsource⟩
      by_cases hid' : id' = source
      · exact hid' ▸ hw.this.1
      · have hthat := hw.others id' hid'
        rwa [if_neg hid] at hthat
    · have hthis := hw.others id fun h => hsource h.symm
      rw [if_pos rfl] at hthis
      refine ⟨hw.robust, fun id' hid => ?_, hthis.sound⟩
      by_cases hid' : id' = source
      · exact hid' ▸ hw.this
      · have hthat := hw.others id' hid'
        rwa [if_neg hid] at hthat

theorem spec_copyTexture {target : TextureTarget} {level : Nat} (sourceLevel : Nat)
    (hothers : b.call → source ≠ id → (v.releasedIf bound).OnlyPending target level) :
    Spec (fun _ => Sound) id (Like v bound)
      (copyTexture b id target level format source sourceLevel) Sound := by
  refine spec_releaseAndOrphan.andThen (Spec.andThen (spec_ensureInitialized_source.mono
    (fun t ht => Like.within ht) fun _ ht => ht) (spec_attempt_call (fun t ht => ht.1.sound)
      fun hcall => ?_))
  refine spec_define_signal (fun t ht => ht.1.sound.notErased) (fun _ => rfl)
    fun w hw target' level' hpending => ?_
  by_cases hsource : source = id
  · exact absurd hpending (hw.this.2 hsource target' level')
  · exact hothers hcall hsource target' level' (hw.this.1.pending target' level' hpending)

theorem spec_copyCompressedTexture (htype : v.mType ≠ .CubeMap) :
    Spec others id (Like v bound) (copyCompressedTexture b id source) Sound := by
  refine spec_releaseAndOrphan.andThen ((Spec.attempt (fun t ht => ht.sound) _).andThen
    (Spec.ofState fun w hw => Spec.onTexture fun t ht => ?_))
  subst ht
  have hthis : (w.textures id).mType = v.mType := hw.this.same.type.trans (releasedIf_mType v bound)
  refine hw.this.sound.define hw.this.bound fun hmay => ⟨?_, ?_⟩
  · refine decide_eq_false fun hinitialized => ?_
    rw [hmay] at hinitialized
    cases hinitialized
  · refine mem_images.mpr ⟨nonCube_mem_targets ?_, Nat.zero_le _⟩
    rwa [hthis]

/-! ## Parts of images -/

theorem spec_writePart {target : TextureTarget} {level : Nat} :
    Spec others id (Like (v.setInitState ⟨some target, level⟩ .Initialized) bound)
      (onTexture id (·.markWritten target level true))
      (Like (v.setInitState ⟨some target, level⟩ .Initialized) bound) := by
  refine Spec.onTexture fun t ht => ⟨ht.sound.markWritten fun hpending => ?_, ht.bound,
    ht.same.after ⟨rfl, rfl, rfl, rfl, rfl, rfl, rfl⟩⟩
  have hinitialized := pending_setInitState.mp ((ht.same.pending target level).mp hpending)
  exact hinitialized.2 ⟨mem_singleton_self target, rfl⟩

theorem spec_setCompressedSubImage (target : TextureTarget) (level : Nat) (area : Box) :
    Spec others id (Like v bound) (setCompressedSubImage b id target level area)
      (Like (v.setInitState ⟨some target, level⟩ .Initialized) bound) :=
  (spec_ensureSubImageInitialized target level area).andThen
    ((Spec.attempt (fun _ ht => ht.sound) _).andThen spec_writePart)

theorem spec_handle_sound {level : Nat} (hsettles : (v.mGenerateMipmapHint && level = 0) →
      (v.releasedIf bound).getEffectiveBaseLevel < (v.releasedIf bound).getMipmapMaxLevel →
      (v.releasedIf bound).Settles true) :
    Spec others id (Like v bound) (handleMipmapGenerationHint b id level) Sound := by
  refine Spec.ofState fun w hw => ?_
  rw [hw.this.same.hint]
  refine Spec.when (fun hyes => ?_) fun _ t ht => ht ▸ hw.this.sound
  exact spec_generateMipmap.mono (fun t ht => ht ▸ hw.this)
    fun t ht => ht.sound_of_settles fun _ => hsettles hyes

theorem spec_setSubImage {target : TextureTarget} {level : Nat} {area : Box}
    (hsettles : (v.mGenerateMipmapHint && level = 0) →
      let u := (v.setInitState ⟨some target, level⟩ .Initialized).releasedIf bound
      u.getEffectiveBaseLevel < u.getMipmapMaxLevel → u.Settles true) :
    Spec others id (Like v bound) (setSubImage b id target level area) Sound := by
  refine (spec_ensureSubImageInitialized target level area).andThen
    ((Spec.attempt (fun t ht => ht.sound) _).andThen (spec_writePart.andThen
      (spec_handle_sound fun hautomatic => hsettles ?_)))
  rwa [setInitState_initialized] at hautomatic

theorem spec_copySubTexture {target : TextureTarget} {level : Nat} {area : Box}
    :
    Spec (fun _ => Sound) id Sound (copySubTexture b id target level area source) Sound := by
  have hsource : Spec (fun _ => Sound) id Sound (ensureInitialized b source) Sound := by
    have hspec : Spec (fun _ => Sound) source Sound (ensureInitialized b source)
        (fun t => t.Sound ∧ ∀ target level, ¬ t.Pending target level) :=
      spec_ensureInitialized closed_sound
    have hall : ∀ {id id' : TextureID} {w : World}, At (fun _ => Sound) id Sound w →
        At (fun _ => Sound) id' Sound w := by
      intro id id' w hw
      have hsound : ∀ id'', (w.textures id'').Sound := by
        intro id''
        by_cases h : id'' = id
        · exact h ▸ hw.this
        · exact hw.others id'' h
      exact ⟨hw.robust, fun id'' _ => hsound id'', hsound id'⟩
    exact mono hspec (fun _ hw => hall hw)
      (fun w hw => hall ⟨hw.robust, hw.others, hw.this.1⟩) fun _ hw => hall hw
  refine hsource.andThen ?_
  have hwrite : ∀ t : Texture, t.Sound → Spec (fun _ => Sound) id (fun u => u = t)
      (setCompressedSubImage b id target level area) Sound := by
    intro t ht
    have hlike : Like t t.mBoundSurface t := ⟨ht, rfl, SameDescs.refl t⟩
    have hspec : Spec (fun _ => Sound) id (Like t t.mBoundSurface)
        (setCompressedSubImage b id target level area) _ :=
      spec_setCompressedSubImage target level area
    refine hspec.mono (fun u hu => ?_) fun u hu => hu.sound
    rw [hu]
    exact hlike
  intro w hw
  exact hwrite (w.textures id) hw.this w ⟨hw.robust, hw.others, rfl⟩

/-! ## Storage -/

theorem Like.makeImmutable {t : Texture} (h : Like v false t) (levels : Nat) :
    Like (makeImmutable levels v) false (makeImmutable levels t) where
  __ := h
  sound := h.sound.congr rfl rfl rfl (fun h => h) rfl rfl
  same := { h.same with immutableFormat := rfl, immutableLevels := rfl }

variable {levels : Nat}

theorem describeStorage_safe {t : Texture} (ht : t.Sound) (hunbound : t.mBoundSurface = false)
    (hlevels : levels ≤ IMPLEMENTATION_MAX_TEXTURE_LEVELS) :
    (describeStorage levels size format t).Safe := by
  have hfields : (describeStorage levels size format t).mErased = t.mErased ∧
      (describeStorage levels size format t).mBoundSurface = t.mBoundSurface ∧
      (describeStorage levels size format t).mType = t.mType := by
    simp only [describeStorage, setImageDescChain_eq]
    exact ⟨rfl, rfl, rfl⟩
  obtain ⟨herased, hbound, htype⟩ := hfields
  refine ⟨fun _ _ _ => rfl, herased.trans ht.notErased, fun h => ?_, fun target level h => ?_⟩
  · rw [hbound, hunbound] at h
    cases h
  · simp only [Pending, describeStorage, setImageDescChain_eq] at h
    rw [htype, mem_images]
    split at h
    · next hmember => exact ⟨hmember.1, by omega⟩
    · cases h

theorem spec_setStorage
    (hlevels : levels ≤ IMPLEMENTATION_MAX_TEXTURE_LEVELS) :
    Spec others id (Like v bound) (setStorage b id levels size format) Sound :=
  spec_releaseAndOrphan.andThen ((Spec.onTexture fun _ ht => ht.makeImmutable levels).andThen
    ((Spec.attempt (fun _ ht => ht.sound) _).andThen ((Spec.onTexture fun _ ht =>
      describeStorage_safe ht.sound ht.bound hlevels).andThen
        (spec_signal (fun _ ht => ht) .MayNeedInit fun h => by cases h))))

theorem spec_setStorageExternalMemory
    (hcall : b.call = false) :
    Spec others id (Like v bound) (setStorageExternalMemory b id levels size format) Sound := by
  refine spec_releaseAndOrphan.andThen (spec_attempt_call (fun _ ht => ht.sound) fun h => ?_)
  rw [hcall] at h
  cases h

theorem spec_setStorageMultisample {samples : Nat}
    {fixedSampleLocations : Bool} (htype : v.mType ≠ .CubeMap) :
    Spec others id (Like v bound)
      (setStorageMultisample b id samples size format fixedSampleLocations) Sound := by
  refine spec_releaseAndOrphan.andThen ((Spec.attempt (fun _ ht => ht.sound) _).andThen
    ((Spec.onTexture fun _ ht => ht.makeImmutable 1).andThen (Spec.andThen (q := Safe)
      (Spec.onTexture fun t ht => ⟨fun _ _ _ => rfl, ht.sound.notErased, fun h => ?_,
        fun target level h => ?_⟩) (spec_signal (fun _ ht => ht) .MayNeedInit fun h => by cases h))))
  · have hfalse : (true : Bool) = false := h.symm.trans ht.bound
    cases hfalse
  · have hbefore := pending_setImageDesc.mp h
    have hthis : t.mType = v.mType := ht.same.type.trans (releasedIf_mType v bound)
    split at hbefore
    · next heq =>
        rw [heq.1, heq.2]
        exact mem_images.mpr ⟨nonCube_mem_targets (hthis ▸ htype), Nat.zero_le _⟩
    · cases hbefore

/-! ## Surfaces, streams and EGL images -/

theorem spec_bindTexImageFromSurface
    (hothers : b.call → (v.releasedIf bound).OnlyPending (.nonCube v.mType) 0) :
    Spec others id (Like v bound) (bindTexImageFromSurface b id size format) Sound := by
  have hbind : Spec others id (Like (v.releasedIf bound) false)
      (onTexture id fun t => { t with mBoundSurface := true })
      (fun t => t.mErased = false ∧ SameDescs t (v.releasedIf bound)) :=
    Spec.onTexture fun t ht => ⟨ht.sound.notErased, ht.same.after ⟨rfl, rfl, rfl, rfl, rfl, rfl, rfl⟩⟩
  refine spec_releaseTexImageInternal.andThen (spec_attempt_call (fun _ ht => ht.sound) fun hcall =>
    hbind.andThen (spec_define_signal (fun _ ht => ht.1) (fun _ => rfl)
      fun w hw target level hpending => ?_))
  have hthis := hothers hcall target level ((hw.this.2.pending target level).mp hpending)
  rwa [hw.this.2.type, releasedIf_mType]

theorem spec_defineFirst {written : Bool} (hinitialized : desc.initState = .Initialized)
    (hothers : b.call → v.OnlyPending (.nonCube v.mType) 0) :
    Spec others id (Like v bound) (attempt b.call >>
        (ofState fun w => defineImage id (.nonCube (w.textures id).mType) 0 desc written) >>
        signalDirtyStorage id .Initialized) Sound := by
  refine spec_attempt_call (fun _ ht => ht.sound) fun hcall =>
    spec_define_signal (fun _ ht => ht.sound.notErased) (fun _ => hinitialized)
      fun w hw target level hpending => ?_
  have hthis := hothers hcall target level ((hw.this.same.pending target level).mp hpending)
  rwa [hw.this.same.type]

theorem spec_setEGLImageTarget {initState : InitState} :
    Spec others id (Like v bound) (setEGLImageTarget b id size format initState) Sound := by
  have hdescribe : Spec others id (Like (v.releasedIf bound) false)
      (onTexture id (describeEGLImage size format initState))
      (fun t => t.Safe ∧ (initState = .Initialized → ∀ target level, ¬ t.Pending target level)) := by
    refine Spec.onTexture fun t ht => ?_
    have hpending : ∀ target level,
        (describeEGLImage size format initState t).Pending target level →
          target ∈ t.mType.targets ∧ level = 0 ∧ initState = .MayNeedInit := by
      intro target level h
      simp only [Pending, describeEGLImage, setImageDescLevel_eq] at h
      split at h
      · next hmember => exact ⟨hmember.1, hmember.2, h⟩
      · cases h
    have hfields : (describeEGLImage size format initState t).mErased = t.mErased ∧
        (describeEGLImage size format initState t).mBoundSurface = t.mBoundSurface ∧
        (describeEGLImage size format initState t).mType = t.mType := by
      simp only [describeEGLImage, setImageDescLevel_eq]
      exact ⟨rfl, rfl, rfl⟩
    obtain ⟨herased, hbound, htype⟩ := hfields
    refine ⟨⟨fun target level h => ?_, herased.trans ht.sound.notErased, fun h => ?_,
      fun target level h => ?_⟩, fun hinitialized target level h => ?_⟩
    · have hmay := (hpending target level h).2.2
      simp [describeEGLImage, hmay]
    · rw [hbound, ht.bound] at h
      cases h
    · rw [htype]
      obtain ⟨htarget, hlevel, -⟩ := hpending target level h
      exact mem_images.mpr ⟨htarget, hlevel ▸ Nat.zero_le _⟩
    · have hmay := (hpending target level h).2.2
      rw [hinitialized] at hmay
      cases hmay
  exact spec_releaseAndOrphan.andThen ((Spec.attempt (fun _ ht => ht.sound) _).andThen
    (hdescribe.andThen (spec_signal (fun _ ht => ht.1) _ fun hinitialized _ ht => ht.2 hinitialized)))

/-! ## Attachments -/

theorem spec_initAttachment {t : Texture} (ht : t.Sound) (index : ImageIndex)
    (hunwritten : t.initState index = .MayNeedInit →
      ∀ target ∈ targetsOf t index, t.mWritten target index.level = false) :
    Spec others id (fun u => u = t) (initAttachment b id index) Sound := by
  refine Spec.ofState fun w hw => Spec.when (fun hneeds => ?_) fun _ u hu => hu ▸ hw.this ▸ ht
  have hthis : w.textures id = t := hw.this
  rw [hthis] at hneeds ⊢
  have hwritten := hunwritten (of_decide_eq_true hneeds)
  have hcontents : Spec others id
      (fun u => u.Sound ∧ ∀ target ∈ targetsOf t index, u.mWritten target index.level = false)
      (forEach (targetsOf t index) fun target => initializeContents b id target index.level)
      (fun u => u.Sound ∧ ∀ target ∈ targetsOf t index, u.mWritten target index.level = false) :=
    Spec.forEach fun target htarget =>
      Spec.initializeContents target index.level (fun _ hu => hu.1)
        fun u hu => ⟨hu.1.erase (hu.2 target htarget), hu.2⟩
  refine (hcontents.andThen (Spec.onTexture fun u hu => hu.1.setInitState index)).mono
    (fun u hu => ?_) fun _ hu => hu
  subst hu
  exact ⟨ht, hwritten⟩

theorem spec_markAttachmentInitialized (index : ImageIndex) :
    Spec others id Sound (markAttachmentInitialized id index) Sound := by
  refine Spec.onTexture fun t ht => ?_
  have hfold : ∀ (targets : List TextureTarget) (u : Texture), u.Sound →
      (∀ target ∈ targets, ¬ u.Pending target index.level) →
      (targets.foldl (fun u target => u.markWritten target index.level true) u).Sound := by
    intro targets
    induction targets with
    | nil => exact fun u hu _ => hu
    | cons target targets ih =>
        intro u hu hpending
        refine ih _ (hu.markWritten (hpending target mem_cons_self)) fun other hother => ?_
        exact hpending other (mem_cons_of_mem _ hother)
  refine hfold _ _ (ht.setInitState index) fun target htarget hpending => ?_
  exact (pending_setInitState.mp hpending).2 ⟨htarget, rfl⟩

/-! ## Runs -/

def released (w : World) (id : TextureID) : Texture :=
  (w.textures id).releasedIf (w.textures id).mBoundSurface

/-- Where a call signals that a texture is initialized, the images that are not are those that the
call defines, or none; and nothing is initialized that has been written. -/
def KeepsSummary (w : World) (call : Action × Backend) : Prop :=
  match call.1 with
  | .setImage id target level size format hasPixels =>
      call.2.call → hasPixels →
        ((w.released id).setImageDesc target level (.new size format .Initialized)).Settles
          ((w.textures id).mGenerateMipmapHint && level = 0)
  | .setImageExternal id target level size format =>
      call.2.call →
        ((w.released id).setImageDesc target level (.new size format .Initialized)).Settles
          ((w.textures id).mGenerateMipmapHint && level = 0)
  | .copyImage id target level width height format =>
      call.2.call →
        ((w.released id).setImageDesc target level
          (.new ⟨width, height, 1⟩ format .Initialized)).Settles
          ((w.textures id).mGenerateMipmapHint && level = 0)
  | .setCompressedImage id target level _ _ hasPixels =>
      call.2.call → hasPixels → (w.released id).OnlyPending target level
  | .copyTexture id target level _ source _ =>
      call.2.call → source ≠ id → (w.released id).OnlyPending target level
  | .setSubImage id target level _ =>
      ((w.textures id).mGenerateMipmapHint && level = 0) →
        let t := ((w.textures id).setInitState ⟨some target, level⟩ .Initialized).releasedIf
          (w.textures id).mBoundSurface
        t.getEffectiveBaseLevel < t.getMipmapMaxLevel → t.Settles true
  | .copySubImage id target level _ =>
      ((w.textures id).mGenerateMipmapHint && level = 0) →
        let t := ((w.textures id).setInitState ⟨some target, level⟩ .Initialized).releasedIf
          (w.textures id).mBoundSurface
        t.getEffectiveBaseLevel < t.getMipmapMaxLevel → t.Settles true
  | .generateMipmap id =>
      (w.released id).getEffectiveBaseLevel < (w.released id).getMipmapMaxLevel →
        (w.released id).Settles true
  | .setStorageExternalMemory _ _ _ _ => call.2.call = false
  | .bindTexImageFromSurface id _ _ =>
      call.2.call → (w.released id).OnlyPending (.nonCube (w.textures id).mType) 0
  | .acquireImageFromStream id _ _ =>
      call.2.call → (w.textures id).OnlyPending (.nonCube (w.textures id).mType) 0
  | .releaseImageFromStream id =>
      call.2.call → (w.textures id).OnlyPending (.nonCube (w.textures id).mType) 0
  | .initAttachment id index =>
      (w.textures id).initState index = .MayNeedInit →
        ∀ target ∈ targetsOf (w.textures id) index,
          (w.textures id).mWritten target index.level = false
  | .onContentsChanged id => ∀ target level, ¬ (w.textures id).Pending target level
  | .writeSibling id => ∀ target, ¬ (w.textures id).Pending target 0
  | _ => True

/-- Every texture of a robust context is sound. -/
def Sound (w : World) : Prop :=
  w.isRobustResourceInitEnabled ∧ ∀ id, (w.textures id).Sound

theorem Sound.at (hw : w.Sound) (id : TextureID) :
    At (fun _ => Texture.Sound) id (Like (w.textures id) (w.textures id).mBoundSurface) w :=
  ⟨hw.1, fun id' _ => hw.2 id', hw.2 id, rfl, SameDescs.refl _⟩

theorem At.sound (hw : At (fun _ => Texture.Sound) id Texture.Sound w) : w.Sound := by
  refine ⟨hw.robust, fun id' => ?_⟩
  by_cases hid : id' = id
  · exact hid ▸ hw.this
  · exact hw.others id' hid

theorem Sound.run {op : Op} (hw : w.Sound) (hop : Spec (fun _ => Texture.Sound) id
      (Like (w.textures id) (w.textures id).mBoundSurface) op Texture.Sound) :
    (op.run w).1.Sound :=
  At.sound (result (hop.mono (fun _ ht => ht) fun _ ht => ht) (hw.at id))

theorem Sound.run_onTexture (hw : w.Sound) {f : Texture → Texture}
    (hf : (w.textures id).Sound → (f (w.textures id)).Sound) :
    ((onTexture id f).run w).1.Sound := by
  refine ⟨hw.1, fun id' => ?_⟩
  by_cases hid : id' = id
  · subst hid
    simpa [onTexture, modify] using hf (hw.2 id')
  · simpa [onTexture, modify, hid] using hw.2 id'

theorem mem_images_of_validImage {target : TextureTarget} {level : Nat}
    (hvalid : w.validImage id target level) :
    (target, level) ∈ images (w.textures id).mType := by
  simp only [validImage, decide_eq_true_eq] at hvalid
  exact mem_images.mpr ⟨hvalid.1, hvalid.2.1.le⟩

theorem validImage_of_validRedefinition {target : TextureTarget} {level : Nat}
    (hvalid : w.validRedefinition id target level size) :
    w.validImage id target level := by
  simp only [validRedefinition, decide_eq_true_eq] at hvalid
  exact hvalid.1

theorem Sound.run_congr (hw : w.Sound) {f : Texture → Texture}
    (hf : ∀ t, (f t).mImageDescs = t.mImageDescs ∧ (f t).mWritten = t.mWritten ∧
      (f t).mErased = t.mErased ∧ (f t).mBoundSurface = t.mBoundSurface ∧
      (f t).mType = t.mType ∧ (f t).mInitState = t.mInitState) :
    ((onTexture id f).run w).1.Sound := by
  refine hw.run_onTexture fun ht => ?_
  obtain ⟨hdescs, hwritten, herased, hbound, htype, hsummary⟩ := hf (w.textures id)
  exact ht.congr hdescs hwritten herased (fun h => hbound ▸ h) htype hsummary

theorem step_sound {call : Action × Backend} (hw : w.Sound) (hkeeps : w.KeepsSummary call)
    {u : World} (hstep : w.step call = some u) : u.Sound := by
  obtain ⟨hvalid, ⟨⟩⟩ := Option.ite_none_right_eq_some.mp hstep
  obtain ⟨action, b⟩ := call
  cases action with
  | setImage id target level size format hasPixels =>
      have himage := mem_images_of_validImage (validImage_of_validRedefinition hvalid)
      exact hw.run (spec_setImage himage hkeeps)
  | setSubImage id target level area => exact hw.run (spec_setSubImage hkeeps)
  | setCompressedImage id target level size format hasPixels =>
      have himage := mem_images_of_validImage (validImage_of_validRedefinition hvalid)
      exact hw.run (spec_setCompressedImage himage hkeeps)
  | setCompressedSubImage id target level area =>
      exact hw.run ((spec_setCompressedSubImage target level area).mono (fun _ ht => ht)
        fun _ ht => ht.sound)
  | setImageExternal id target level size format => exact hw.run (spec_setImageExternal hkeeps)
  | copyImage id target level width height format => exact hw.run (spec_copyImage hkeeps)
  | copySubImage id target level area => exact hw.run (spec_setSubImage hkeeps)
  | copyTexture id target level format source sourceLevel =>
      exact hw.run (spec_copyTexture sourceLevel hkeeps)
  | copySubTexture id target level area source =>
      exact hw.run (spec_copySubTexture.mono (fun _ ht => ht.sound) fun _ ht => ht)
  | copyCompressedTexture id source =>
      simp only [validates, decide_eq_true_eq] at hvalid
      exact hw.run (spec_copyCompressedTexture (by simp [hvalid.1]))
  | setStorage id levels size format =>
      simp only [validates, decide_eq_true_eq] at hvalid
      exact hw.run (spec_setStorage hvalid.2.2.1)
  | setStorageExternalMemory id levels size format =>
      exact hw.run (spec_setStorageExternalMemory hkeeps)
  | setStorageMultisample id samples size format fixedSampleLocations =>
      simp only [validates, Bool.and_eq_true] at hvalid
      refine hw.run (spec_setStorageMultisample fun htype => ?_)
      rw [htype] at hvalid
      cases hvalid.2
  | generateMipmap id =>
      exact hw.run (spec_generateMipmap.mono (fun _ ht => ht)
        fun _ ht => ht.sound_of_settles fun _ => hkeeps)
  | bindTexImageFromSurface id size format => exact hw.run (spec_bindTexImageFromSurface hkeeps)
  | releaseTexImageFromSurface id =>
      simp only [validates, Bool.and_eq_true] at hvalid
      have hspec : Spec (fun _ => Texture.Sound) id (Like (w.textures id) true)
          (releaseTexImageFromSurface b id) _ := spec_releaseTexImageFromSurface
      refine hw.run (hspec.mono (fun _ ht => ?_) fun _ ht => ht.sound)
      rwa [hvalid.2] at ht
  | acquireImageFromStream id size format => exact hw.run (spec_defineFirst rfl hkeeps)
  | releaseImageFromStream id => exact hw.run (spec_defineFirst rfl hkeeps)
  | setEGLImageTarget id size format initState => exact hw.run spec_setEGLImageTarget
  | initAttachment id index =>
      have hspec : Spec (fun _ => Texture.Sound) id (fun t => t = w.textures id)
          (initAttachment b id index) Texture.Sound := spec_initAttachment (hw.2 id) index hkeeps
      exact At.sound (result hspec ⟨hw.1, fun id' _ => hw.2 id', rfl⟩)
  | markAttachmentInitialized id index =>
      exact hw.run ((spec_markAttachmentInitialized index).mono (fun _ ht => ht.sound) fun _ ht => ht)
  | ensureInitialized id =>
      exact hw.run ((spec_ensureInitialized closed_sound).mono (fun _ ht => ht.sound)
        fun _ ht => ht.1)
  | onContentsChanged id =>
      exact hw.run_onTexture fun ht => signal_sound_of_none ht.notErased hkeeps _
  | onSubjectChanged id => exact hw.run_congr fun t => ⟨rfl, rfl, rfl, rfl, rfl, rfl⟩
  | writeSibling id =>
    refine hw.run_onTexture fun ht => ht.mono (fun target level h => ⟨h, ?_⟩) rfl (fun h => h)
      rfl rfl
    have hlevel : ¬ (0 ≤ level ∧ level ≤ 0) := by
      rintro ⟨-, hzero⟩
      obtain rfl := Nat.le_zero.mp hzero
      exact hkeeps target h
    exact if_neg hlevel
  | samplerParameter id parameter => exact hw.run_congr fun t => ⟨rfl, rfl, rfl, rfl, rfl, rfl⟩
  | setBaseLevel id baseLevel =>
    have hspec : Spec (fun _ => Texture.Sound) id Texture.Sound (setBaseLevel b id baseLevel)
        Texture.Sound := by
      refine Spec.ofState fun w' hw' => Spec.when (fun _ => ?_) fun _ t ht => ht ▸ hw'.this
      have hset : Spec (fun _ => Texture.Sound) id (fun t => t = w'.textures id)
          (onTexture id fun t => { t with mBaseLevel := baseLevel }) Texture.Sound :=
        Spec.onTexture fun t ht => by
          subst ht
          exact hw'.this.congr rfl rfl rfl (fun h => h) rfl rfl
      exact hset.andThen ((Spec.attempt (fun _ ht => ht) _).andThen (Spec.onTexture fun t ht =>
        ht.congr rfl rfl rfl (fun h => h) rfl rfl))
    exact hw.run (hspec.mono (fun _ ht => ht.sound) fun _ ht => ht)
  | setMaxLevel id maxLevel =>
      refine hw.run_congr fun t => ?_
      unfold setMaxLevel
      split <;> exact ⟨rfl, rfl, rfl, rfl, rfl, rfl⟩
  | setDepthStencilTextureMode id stencil =>
      refine hw.run_congr fun t => ?_
      unfold setDepthStencilTextureMode
      split <;> exact ⟨rfl, rfl, rfl, rfl, rfl, rfl⟩
  | setGenerateMipmapHint id hint => exact hw.run_congr fun t => ⟨rfl, rfl, rfl, rfl, rfl, rfl⟩
  | setSamplerObject sampler parameter => exact hw
  | requestExtension context extended =>
      exact ⟨hw.1, fun id => (hw.2 id).toSafe.signal_mayNeedInit⟩
  | newContext context created => exact hw
  | isSamplerComplete id context sampler =>
      refine hw.run_congr fun t => ?_
      unfold isSamplerComplete
      split <;> exact ⟨rfl, rfl, rfl, rfl, rfl, rfl⟩
  | compatibleWithSamplerFormat id sampler =>
      refine hw.run_congr fun t => ?_
      unfold requireSamplerFormat
      split <;> exact ⟨rfl, rfl, rfl, rfl, rfl, rfl⟩

end World

end MetalAngle.Gl.Textures
