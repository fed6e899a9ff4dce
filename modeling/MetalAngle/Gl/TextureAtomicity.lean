import MetalAngle.Gl.TextureCacheRuns
import MetalAngle.Gl.TextureImages

/-!
# Failures of texture definitions

Every operation that defines images calls the back end, which may fail.  Up to that call an
operation only releases a surface, orphans EGL images and initializes contents, so that a failure
leaves the texture defined as it was, unless the operation has changed its definition too early.
-/

namespace MetalAngle.Gl.Textures

open Fallible Function

namespace Texture

variable {t t' u : Texture}

/-- The same definition of a texture, and so the same verdicts on its completeness. -/
structure KeepsDefinition (t t' : Texture) : Prop where
  immutableFormat : t'.mImmutableFormat = t.mImmutableFormat
  immutableLevels : t'.mImmutableLevels = t.mImmutableLevels
  size : ∀ target level, (t'.mImageDescs target level).size = (t.mImageDescs target level).size
  format : ∀ target level,
    (t'.mImageDescs target level).format = (t.mImageDescs target level).format
  samples : ∀ target level,
    (t'.mImageDescs target level).samples = (t.mImageDescs target level).samples
  cubeComplete : t'.isCubeComplete = t.isCubeComplete
  mipmapComplete : t'.computeMipmapCompleteness = t.computeMipmapCompleteness
  samplerComplete : ∀ samplerState data, t'.computeSamplerCompleteness samplerState data =
    t.computeSamplerCompleteness samplerState data

/-- The same images, with the same samples. -/
structure SameDefinition (t t' : Texture) : Prop extends SameImages t t' where
  samples : ∀ target level,
    (t'.mImageDescs target level).samples = (t.mImageDescs target level).samples

namespace SameDefinition

theorem refl (t : Texture) : SameDefinition t t := ⟨.refl t, fun _ _ => rfl⟩

theorem trans (h : SameDefinition t t') (h' : SameDefinition t' u) : SameDefinition t u :=
  ⟨h.toSameImages.trans h'.toSameImages,
    fun target level => (h'.samples target level).trans (h.samples target level)⟩

theorem keepsDefinition (h : SameDefinition t t') : KeepsDefinition t t' where
  __ := h
  cubeComplete := h.isCubeComplete
  mipmapComplete := h.computeMipmapCompleteness
  samplerComplete := h.computeSamplerCompleteness

theorem of_gl (himages : SameImages t t') (hgl : t'.gl = t.gl) : SameDefinition t t' where
  toSameImages := himages
  samples target level := by
    have himage := congrArg (fun g : GlTexture => (g.images target level).samples) hgl
    exact himage

theorem erase (t : Texture) (target : TextureTarget) (level : Nat) :
    SameDefinition t (t.erase target level) :=
  ⟨⟨rfl, rfl, rfl, rfl, rfl, rfl, fun _ _ => rfl, fun _ _ => rfl⟩, fun _ _ => rfl⟩

theorem setInitState (t : Texture) (index : ImageIndex) (initState : InitState) :
    SameDefinition t (t.setInitState index initState) :=
  of_gl (keepsImages_setInitState index initState t).1 (gl_setInitState index initState)

end SameDefinition

def withoutSurface (t : Texture) : Texture :=
  if t.mBoundSurface then t.clearImageDesc (.nonCube t.mType) 0 else t

end Texture

namespace World

open Texture

def Action.defines : Action → Option TextureID
  | .setImage id .. => some id
  | .setCompressedImage id .. => some id
  | .setImageExternal id .. => some id
  | .copyImage id .. => some id
  | .copyTexture id .. => some id
  | .copyCompressedTexture id _ => some id
  | .setStorage id .. => some id
  | .setStorageExternalMemory id .. => some id
  | .setStorageMultisample id .. => some id
  | .generateMipmap id => some id
  | .setEGLImageTarget id .. => some id
  | _ => none

def callFails (b : Backend) : Action → Bool
  | .generateMipmap _ => !b.generateMipmap
  | _ => !b.call

/-- Where the call into the back end fails, the texture is defined as before the operation, apart
from a surface that has been released. -/
def Atomic (b : Backend) (w : World) (action : Action) : Prop :=
  ∀ id, action.defines = some id → callFails b action →
    let after := ((operation b action).run w).1.textures id
    KeepsDefinition (w.textures id) after ∨ KeepsDefinition (w.textures id).withoutSurface after

/-! ## What keeps a definition -/

section Keeps

variable {b : Backend} {id : TextureID} {v r : Texture}

/-- The texture is defined as one of two textures. -/
def DefinedAs (id : TextureID) (v r : Texture) (w : World) : Prop :=
  SameDefinition v (w.textures id) ∨ SameDefinition r (w.textures id)

/-- The operation leaves the definition as it is, whether it fails or not. -/
def KeepsDefined (id : TextureID) (v r : Texture) (op : Op) : Prop :=
  Triple (DefinedAs id v r) op (DefinedAs id v r) (DefinedAs id v r)

namespace KeepsDefined

theorem onTexture (id' : TextureID) {f : Texture → Texture} (hf : ∀ t, SameDefinition t (f t)) :
    KeepsDefined id v r (onTexture id' f) := by
  apply Triple.update
  intro w hw
  by_cases heq : id = id'
  · subst heq
    have htexture : (modify id f w).textures id = f (w.textures id) := update_self ..
    rw [DefinedAs, htexture]
    exact hw.imp (·.trans (hf _)) (·.trans (hf _))
  · have htexture : (modify id' f w).textures id = w.textures id := update_of_ne heq ..
    rwa [DefinedAs, htexture]

theorem attempt (ok : Bool) : KeepsDefined id v r (attempt ok) :=
  Triple.attempt (fun _ _ h => h) fun _ _ h => h

theorem andThen {first second : Op} (hfirst : KeepsDefined id v r first)
    (hsecond : KeepsDefined id v r second) : KeepsDefined id v r (first >> second) :=
  Triple.andThen hfirst hsecond

theorem attempt_false (op : Op) : KeepsDefined id v r (Fallible.attempt false >> op) :=
  Triple.attempt_false fun _ h => h

theorem when {condition : Bool} {op : Op} (h : KeepsDefined id v r op) :
    KeepsDefined id v r (when condition op) :=
  Triple.when (fun _ => h) fun _ _ hs => hs

theorem ofState {op : World → Op} (h : ∀ w, KeepsDefined id v r (op w)) :
    KeepsDefined id v r (ofState op) :=
  Triple.reads fun w _ => h w

theorem forEach {α : Type} {op : α → Op} (xs : List α) (h : ∀ x, KeepsDefined id v r (op x)) :
    KeepsDefined id v r (forEach xs op) :=
  Triple.forEach fun x _ => h x

theorem initializeContents (id' : TextureID) (target : TextureTarget) (level : Nat) :
    KeepsDefined id v r (initializeContents b id' target level) :=
  (onTexture id' fun t => .erase t target level).andThen (attempt _)

theorem setInitState (id' : TextureID) (index : ImageIndex) (initState : InitState) :
    KeepsDefined id v r (World.onTexture id' (·.setInitState index initState)) :=
  onTexture id' fun t => .setInitState t index initState

theorem orphanImages (id' : TextureID) : KeepsDefined id v r (orphanImages b id') := by
  apply (attempt _).andThen
  apply onTexture
  exact fun t => ⟨⟨rfl, rfl, rfl, rfl, rfl, rfl, fun _ _ => rfl, fun _ _ => rfl⟩, fun _ _ => rfl⟩

theorem ensureInitialized (id' : TextureID) : KeepsDefined id v r (ensureInitialized b id') := by
  apply ofState
  intro w
  apply when
  apply andThen
  · apply forEach
    intro image
    apply ofState
    intro w
    exact ((initializeContents id' image.1 image.2).andThen (setInitState id' _ _)).when
  · apply onTexture
    intro t
    split <;>
      exact ⟨⟨rfl, rfl, rfl, rfl, rfl, rfl, fun _ _ => rfl, fun _ _ => rfl⟩, fun _ _ => rfl⟩

theorem ensureSubImageInitialized (id' : TextureID) (target : TextureTarget) (level : Nat)
    (area : Box) : KeepsDefined id v r (ensureSubImageInitialized b id' target level area) := by
  apply ofState
  intro w
  exact ((initializeContents id' target level).when.andThen (setInitState id' _ _)).when

end KeepsDefined

end Keeps

/-! ## The operations -/

section Operations

variable {b : Backend} {w : World} {id : TextureID}

/-- The texture is as before an operation, but for a surface that has been released. -/
abbrev Unchanged (w : World) (id : TextureID) : World → Prop :=
  DefinedAs id (w.textures id) (w.textures id).withoutSurface

theorem unchanged_releaseTexImageInternal :
    Triple (fun w' => w' = w) (releaseTexImageInternal b id) (Unchanged w id) (Unchanged w id) := by
  apply Triple.ofState
  intro w' hw'
  rw [hw']
  cases hbound : (w.textures id).mBoundSurface with
  | false =>
      apply Triple.done
      intro w' heq
      rw [heq]
      exact .inl (.refl _)
  | true =>
    have hrelease : Triple (fun w' => w' = w)
        (onTexture id fun t => { t with mBoundSurface := false })
        (fun w' => w'.textures id = { w.textures id with mBoundSurface := false })
        (Unchanged w id) := by
      apply Triple.update
      rintro _ rfl
      exact update_self ..
    have hsame : SameDefinition (w.textures id) { w.textures id with mBoundSurface := false } :=
      ⟨⟨rfl, rfl, rfl, rfl, rfl, rfl, fun _ _ => rfl, fun _ _ => rfl⟩, fun _ _ => rfl⟩
    apply hrelease.andThen
    apply Triple.andThen (Triple.attempt (fun _ _ h => h) fun _ _ h => .inl (h ▸ hsame))
    apply Triple.update
    intro w' hw'
    right
    have htexture : (modify id (fun t =>
        ((t.clearImageDesc (.nonCube t.mType) 0).markWritten (.nonCube t.mType) 0 false)
          |>.signalDirtyStorage .Initialized) w').textures id =
        ((w'.textures id).clearImageDesc (.nonCube (w'.textures id).mType) 0
          |>.markWritten (.nonCube (w'.textures id).mType) 0 false
          |>.signalDirtyStorage .Initialized) := update_self ..
    rw [htexture, hw', withoutSurface, if_pos hbound]
    exact ⟨⟨rfl, rfl, rfl, rfl, rfl, rfl, fun _ _ => rfl, fun _ _ => rfl⟩, fun _ _ => rfl⟩

theorem unchanged_releaseAndOrphan :
    Triple (fun w' => w' = w) (releaseAndOrphan b id) (Unchanged w id) (Unchanged w id) :=
  unchanged_releaseTexImageInternal.andThen (KeepsDefined.orphanImages id)

/-- An operation whose call into the back end comes after nothing but the release of a surface and
what initializes contents. -/
theorem unchanged_define {op : Op} (h : KeepsDefined id (w.textures id)
      (w.textures id).withoutSurface op) :
    Unchanged w id ((releaseAndOrphan b id >> op).run w).1 :=
  (unchanged_releaseAndOrphan.andThen h).result rfl

theorem unchanged_generateMipmap (hfails : b.generateMipmap = false) :
    Unchanged w id ((generateMipmap b id).run w).1 := by
  have hmipmap : KeepsDefined id (w.textures id) (w.textures id).withoutSurface (ofState fun w =>
        let t := w.textures id
        when (t.getEffectiveBaseLevel < t.getMipmapMaxLevel) (attempt b.syncState >>
           when w.isRobustResourceInitEnabled
             (forEach t.mType.targets (initializeBase b id t.getEffectiveBaseLevel)) >>
           attempt b.generateMipmap >>
           onTexture id describeMipmap)) := by
    apply KeepsDefined.ofState
    intro w'
    apply KeepsDefined.when
    apply (KeepsDefined.attempt _).andThen
    apply KeepsDefined.andThen
    · apply KeepsDefined.when
      apply KeepsDefined.forEach
      intro target
      exact .ofState fun _ => (KeepsDefined.initializeContents id target _).when
    · rw [hfails]
      exact .attempt_false _
  exact (unchanged_releaseTexImageInternal.andThen
    ((KeepsDefined.ofState fun _ => (KeepsDefined.orphanImages id).when).andThen
      hmipmap)).result rfl

def reachesCall (b : Backend) (t : Texture) : Bool :=
  (!t.mBoundSurface || b.releaseTexImage) && b.orphanImages

theorem releaseAndOrphan_succeeds_iff :
    ((releaseAndOrphan b id).run w).2 = reachesCall b (w.textures id) := by
  cases hbound : (w.textures id).mBoundSurface <;> cases hrelease : b.releaseTexImage <;>
    cases horphan : b.orphanImages <;>
    simp [releaseAndOrphan, releaseTexImageInternal, releaseTexImageFromSurface, orphanImages,
      onTexture, run_andThen, Fallible.when, reachesCall, hbound, hrelease, horphan]

theorem run_setStorage_of_fails (hfails : b.call = false) (hreaches : reachesCall b (w.textures id))
    (levels : Nat) (size : Extents) (format : InternalFormat) :
    ((setStorage b id levels size format).run w).1.textures id =
      makeImmutable levels (((releaseAndOrphan b id).run w).1.textures id) := by
  have hrun : ((setStorage b id levels size format).run w).1 =
      modify id (makeImmutable levels) ((releaseAndOrphan b id).run w).1 := by
    rw [setStorage, run_andThen, releaseAndOrphan_succeeds_iff, if_pos hreaches, hfails]
    rfl
  rw [hrun]
  exact update_self ..

theorem run_setStorage_of_not_reached (hreaches : reachesCall b (w.textures id) = false)
    (levels : Nat) (size : Extents) (format : InternalFormat) :
    (setStorage b id levels size format).run w = (releaseAndOrphan b id).run w := by
  rw [setStorage, run_andThen, releaseAndOrphan_succeeds_iff, hreaches]
  rfl

theorem withoutSurface_mImmutableFormat (t : Texture) :
    t.withoutSurface.mImmutableFormat = t.mImmutableFormat := by
  unfold withoutSurface
  split <;> rfl

theorem withoutSurface_mImmutableLevels (t : Texture) :
    t.withoutSurface.mImmutableLevels = t.mImmutableLevels := by
  unfold withoutSurface
  split <;> rfl

theorem makeImmutable_of_immutable {t : Texture} (himmutable : t.mImmutableFormat) :
    makeImmutable t.mImmutableLevels t = t := by
  unfold makeImmutable
  rw [← himmutable]

/-- A storage that fails leaves the definition only if the texture has been immutable before. -/
theorem setStorage_atomic_iff (hfails : b.call = false) (levels : Nat) (size : Extents)
    (format : InternalFormat) :
    Atomic b w (.setStorage id levels size format) ↔ (reachesCall b (w.textures id) →
        (w.textures id).mImmutableFormat ∧ (w.textures id).mImmutableLevels = levels) := by
  have hunchanged : Triple (fun w' => w' = w) (releaseAndOrphan b id) (Unchanged w id)
      (Unchanged w id) := unchanged_releaseAndOrphan
  have hresult := hunchanged.result (Eq.refl w)
  constructor
  · intro h hreaches
    have hatomic := h id rfl (by simp [callFails, hfails])
    rw [operation, run_setStorage_of_fails hfails hreaches] at hatomic
    rcases hatomic with hkeeps | hkeeps
    · exact ⟨hkeeps.immutableFormat.symm, hkeeps.immutableLevels.symm⟩
    · rw [← withoutSurface_mImmutableFormat, ← withoutSurface_mImmutableLevels]
      exact ⟨hkeeps.immutableFormat.symm, hkeeps.immutableLevels.symm⟩
  · rintro h _ ⟨⟩ -
    rw [operation]
    cases hreaches : reachesCall b (w.textures id) with
    | false =>
        rw [run_setStorage_of_not_reached hreaches]
        exact hresult.imp SameDefinition.keepsDefinition SameDefinition.keepsDefinition
    | true =>
      obtain ⟨himmutable, rfl⟩ := h hreaches
      rw [run_setStorage_of_fails hfails hreaches]
      have hflags : (((releaseAndOrphan b id).run w).1.textures id).mImmutableFormat ∧
          (((releaseAndOrphan b id).run w).1.textures id).mImmutableLevels =
            (w.textures id).mImmutableLevels := by
        rcases hresult with hsame | hsame
        · exact ⟨hsame.immutableFormat.trans himmutable, hsame.immutableLevels⟩
        · rw [hsame.immutableFormat, hsame.immutableLevels, withoutSurface_mImmutableFormat,
            withoutSurface_mImmutableLevels]
          exact ⟨himmutable, rfl⟩
      rw [← hflags.2, makeImmutable_of_immutable hflags.1]
      exact hresult.imp SameDefinition.keepsDefinition SameDefinition.keepsDefinition

/-- Every operation but one leaves the definition as it was when its call into the back end
fails. -/
theorem atomic_of_ne {action : Action}
    (hother : ∀ id levels size format, action ≠ .setStorage id levels size format) :
    Atomic b w action := by
  intro id hid hfails
  suffices hsuffices : Unchanged w id ((operation b action).run w).1 from
    hsuffices.imp SameDefinition.keepsDefinition SameDefinition.keepsDefinition
  have hcall (hdefine : callFails b action = !b.call) (op : Op) :
      KeepsDefined id (w.textures id) (w.textures id).withoutSurface (attempt b.call >> op) := by
    have hfalse : b.call = false := by simpa [hfails] using hdefine
    rw [hfalse]
    exact .attempt_false op
  cases action <;> cases hid
  case setImage => exact unchanged_define (hcall rfl _)
  case setCompressedImage => exact unchanged_define (hcall rfl _)
  case setImageExternal => exact unchanged_define (hcall rfl _)
  case copyImage target level width height format =>
    exact unchanged_define ((KeepsDefined.ensureSubImageInitialized id target level _).andThen
      (hcall rfl _))
  case copyTexture source _ =>
    exact unchanged_define ((KeepsDefined.ensureInitialized source).andThen (hcall rfl _))
  case copyCompressedTexture => exact unchanged_define (hcall rfl _)
  case setStorage => exact absurd rfl (hother _ _ _ _)
  case setStorageExternalMemory => exact unchanged_define (hcall rfl _)
  case setStorageMultisample => exact unchanged_define (hcall rfl _)
  case generateMipmap => exact unchanged_generateMipmap (by simpa [callFails] using hfails)
  case setEGLImageTarget => exact unchanged_define (hcall rfl _)

/-- Operations are atomic, except for the making of storage, which fails with the texture immutable
unless it has been so before. -/
theorem atomic_iff (b : Backend) (w : World) (action : Action) :
    Atomic b w action ↔ ∀ id levels size format, action = .setStorage id levels size format →
      b.call = false → reachesCall b (w.textures id) = true →
        (w.textures id).mImmutableFormat = true ∧ (w.textures id).mImmutableLevels = levels := by
  by_cases hstorage : ∃ id levels size format, action = .setStorage id levels size format
  · obtain ⟨id, levels, size, format, rfl⟩ := hstorage
    constructor
    · rintro h _ _ _ _ ⟨⟩ hfails
      exact (setStorage_atomic_iff hfails levels size format).mp h
    · intro h
      cases hcall : b.call with
      | false =>
          exact (setStorage_atomic_iff hcall levels size format).mpr (h _ _ _ _ rfl hcall)
      | true =>
          intro _ _ hfails
          simp [callFails, hcall] at hfails
  · push Not at hstorage
    exact ⟨fun _ id levels size format heq => absurd heq (hstorage id levels size format),
      fun _ => atomic_of_ne hstorage⟩

def outOfMemory : Backend := { allSucceed with call := false }

/-- A new texture is immutable, and complete without an image, after its storage was not made. -/
theorem not_atomic_setStorage :
    textures2D.validates (.setStorage 0 1 ⟨4, 4, 1⟩ filterable) = true ∧
      ¬ Atomic outOfMemory textures2D (.setStorage 0 1 ⟨4, 4, 1⟩ filterable) := by
  refine ⟨by decide, fun h => ?_⟩
  rcases h 0 rfl rfl with hkeeps | hkeeps <;> exact absurd hkeeps.immutableFormat (by decide)

end Operations

end World

end MetalAngle.Gl.Textures
