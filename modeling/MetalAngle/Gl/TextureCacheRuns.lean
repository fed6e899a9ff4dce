import MetalAngle.Gl.TextureCaches

/-!
# Runs with texture caches

An operation that changes the images of a texture leaves its caches behind until it signals the
change.  In a run in which no operation fails between the two, every cache answers for the images as
they are.
-/

namespace MetalAngle.Gl.Textures

open Fallible Triple Succeeds

namespace Texture

/-- The function changes neither the images nor the caches. -/
def KeepsImages (f : Texture → Texture) : Prop := ∀ t, SameImages t (f t) ∧ SameCaches t (f t)

theorem keepsImages_setImageDesc_initState (target : TextureTarget) (level : Nat)
    (initState : InitState) :
    KeepsImages fun t =>
      t.setImageDesc target level { t.mImageDescs target level with initState := initState } := by
  intro t
  have hupdate : ∀ {α : Type} (f : ImageDesc → α),
      f { t.mImageDescs target level with initState := initState } =
        f (t.mImageDescs target level) →
      ∀ target' level', f ((t.setImageDesc target level
        { t.mImageDescs target level with initState := initState }).mImageDescs target' level') =
        f (t.mImageDescs target' level') := by
    intro α f hf target' level'
    simp only [setImageDesc]
    by_cases htarget : target' = target
    · subst htarget
      by_cases hlevel : level' = level
      · subst hlevel
        simpa using hf
      · simp [hlevel]
    · simp [htarget]
  exact ⟨⟨rfl, rfl, rfl, rfl, rfl, rfl, hupdate ImageDesc.size rfl, hupdate ImageDesc.format rfl⟩,
    rfl, rfl, rfl, rfl⟩

theorem keepsImages_foldl {α : Type} {f : Texture → α → Texture} (hf : ∀ x, KeepsImages (f · x))
    (xs : List α) : KeepsImages fun t => xs.foldl f t := by
  intro t
  induction xs generalizing t with
  | nil => exact ⟨SameImages.refl t, rfl, rfl, rfl, rfl⟩
  | cons x xs ih =>
      obtain ⟨himages, hcaches⟩ := hf x t
      obtain ⟨himages', hcaches'⟩ := ih (f t x)
      exact ⟨himages.trans himages', hcaches'.completeness.trans hcaches.completeness,
        hcaches'.format.trans hcaches.format, hcaches'.compareMode.trans hcaches.compareMode,
        hcaches'.valid.trans hcaches.valid⟩

theorem keepsImages_setInitState (index : ImageIndex) (initState : InitState) :
    KeepsImages fun t => t.setInitState index initState := by
  intro t
  exact keepsImages_foldl
    (fun target => keepsImages_setImageDesc_initState target index.level initState) _ t

/-- The function leaves coherent caches coherent. -/
def KeepsCoherent (f : Texture → Texture) : Prop :=
  ∀ contexts t, t.Coherent contexts → (f t).Coherent contexts

theorem KeepsImages.keepsCoherent {f : Texture → Texture} (hf : KeepsImages f) : KeepsCoherent f :=
  fun _ t h => h.congr (hf t).1 (hf t).2

theorem keepsCoherent_of_empty {f : Texture → Texture} (hf : ∀ t, (f t).CachesEmpty) :
    KeepsCoherent f :=
  fun _ t _ => (hf t).coherent

theorem keepsImages_markLevels {first last : Nat} {written : Bool} :
    KeepsImages fun t => t.markLevels first last written :=
  fun _ => ⟨⟨rfl, rfl, rfl, rfl, rfl, rfl, fun _ _ => rfl, fun _ _ => rfl⟩, rfl, rfl, rfl, rfl⟩

theorem keepsImages_generateMipmapHint (hint : Bool) :
    KeepsImages fun t => { t with mGenerateMipmapHint := hint } :=
  fun _ => ⟨⟨rfl, rfl, rfl, rfl, rfl, rfl, fun _ _ => rfl, fun _ _ => rfl⟩, rfl, rfl, rfl, rfl⟩

theorem keepsCoherent_setMaxLevel (maxLevel : Nat) : KeepsCoherent (·.setMaxLevel maxLevel) := by
  intro contexts t h
  change (t.setMaxLevel maxLevel).Coherent contexts
  unfold setMaxLevel
  split
  · exact (signalDirtyState_cachesEmpty _).coherent
  · exact h

theorem keepsCoherent_setDepthStencilTextureMode (stencil : Bool) :
    KeepsCoherent (·.setDepthStencilTextureMode stencil) := by
  intro contexts t h
  change (t.setDepthStencilTextureMode stencil).Coherent contexts
  unfold setDepthStencilTextureMode
  split
  · exact (signalDirtyState_cachesEmpty _).coherent
  · exact h

end Texture

/-- None of the calls that generate mipmaps fails. -/
structure Backend.GeneratesMipmap (b : Backend) : Prop where
  releaseTexImage : b.releaseTexImage
  orphanImages : b.orphanImages
  syncState : b.syncState
  initializeContents : ∀ target level, b.initializeContents target level
  generateMipmap : b.generateMipmap

namespace World


open Texture

variable {w : World} {b : Backend} {id : TextureID}

/-- The caches are coherent but for those of the textures that are being changed. -/
def CoherentBut (changing : TextureID → Prop) (w : World) : Prop :=
  ∀ id, ¬ changing id → (w.textures id).Coherent w.contexts

def Coherent (w : World) : Prop := ∀ id, (w.textures id).Coherent w.contexts

/-- The operation keeps what is coherent, whether it fails or not. -/
def Keeps (op : Op) : Prop :=
  ∀ changing, Triple (CoherentBut changing) op (CoherentBut changing) (CoherentBut changing)

theorem keeps_onTexture {f : Texture → Texture} (hf : KeepsCoherent f) : Keeps (onTexture id f) := by
  intro changing
  refine update fun w h id' hid' => ?_
  by_cases heq : id' = id
  · subst heq
    simpa [modify] using hf _ _ (h id' hid')
  · simpa [modify, heq] using h id' hid'

theorem keeps_attempt (ok : Bool) : Keeps (attempt ok) :=
  fun _ => attempt (fun _ _ h => h) fun _ _ h => h

theorem Keeps.andThen {first second : Op} (hfirst : Keeps first) (hsecond : Keeps second) :
    Keeps (first >> second) :=
  fun changing => (hfirst changing).andThen (hsecond changing)

variable {op : Op}

theorem Keeps.when {condition : Bool} (h : Keeps op) : Keeps (when condition op) :=
  fun changing => Triple.when (fun _ => h changing) fun _ _ hs => hs

theorem keeps_ofState {op : World → Op} (h : ∀ w, Keeps (op w)) : Keeps (ofState op) :=
  fun changing => reads fun w _ => h w changing

theorem keeps_forEach {α : Type} {op : α → Op} (xs : List α) (h : ∀ x, Keeps (op x)) :
    Keeps (forEach xs op) :=
  fun changing => forEach fun x _ => h x changing

/-! ## Operations that change no image, or signal that they do -/

theorem keeps_initializeContents (target : TextureTarget) (level : Nat) :
    Keeps (initializeContents b id target level) := by
  refine Keeps.andThen (keeps_onTexture (KeepsImages.keepsCoherent ?_)) (keeps_attempt _)
  exact fun t => ⟨⟨rfl, rfl, rfl, rfl, rfl, rfl, fun _ _ => rfl, fun _ _ => rfl⟩, rfl, rfl, rfl, rfl⟩

theorem keeps_releaseTexImageFromSurface : Keeps (releaseTexImageFromSurface b id) := by
  refine (keeps_onTexture (KeepsImages.keepsCoherent ?_)).andThen ((keeps_attempt _).andThen
    (keeps_onTexture (keepsCoherent_of_empty fun t => signalDirtyStorage_cachesEmpty _ _)))
  exact fun t => ⟨⟨rfl, rfl, rfl, rfl, rfl, rfl, fun _ _ => rfl, fun _ _ => rfl⟩, rfl, rfl, rfl, rfl⟩

theorem keeps_releaseTexImageInternal : Keeps (releaseTexImageInternal b id) :=
  keeps_ofState fun _ => keeps_releaseTexImageFromSurface.when

theorem keeps_orphanImages : Keeps (orphanImages b id) := by
  refine (keeps_attempt _).andThen (keeps_onTexture (KeepsImages.keepsCoherent ?_))
  exact fun t => ⟨⟨rfl, rfl, rfl, rfl, rfl, rfl, fun _ _ => rfl, fun _ _ => rfl⟩, rfl, rfl, rfl, rfl⟩

theorem keeps_releaseAndOrphan : Keeps (releaseAndOrphan b id) :=
  keeps_releaseTexImageInternal.andThen keeps_orphanImages

theorem keeps_setInitState (index : ImageIndex) (initState : InitState) :
    Keeps (onTexture id (·.setInitState index initState)) :=
  keeps_onTexture (keepsImages_setInitState index initState).keepsCoherent

theorem keeps_ensureInitialized : Keeps (ensureInitialized b id) := by
  refine keeps_ofState fun w => Keeps.when (Keeps.andThen ?_ ?_)
  · refine keeps_forEach _ fun image => keeps_ofState fun w => Keeps.when ?_
    exact (keeps_initializeContents image.1 image.2).andThen (keeps_setInitState _ _)
  · refine keeps_onTexture fun contexts t h => ?_
    split
    · exact (signalDirtyStorage_cachesEmpty t .Initialized).coherent
    · exact h.congr ⟨rfl, rfl, rfl, rfl, rfl, rfl, fun _ _ => rfl, fun _ _ => rfl⟩
        ⟨rfl, rfl, rfl, rfl⟩

theorem keeps_ensureSubImageInitialized (target : TextureTarget) (level : Nat) (area : Box) :
    Keeps (ensureSubImageInitialized b id target level area) :=
  keeps_ofState fun _ => Keeps.when
    ((keeps_initializeContents target level).when.andThen (keeps_setInitState _ _))

theorem keeps_generateMipmap : Keeps (generateMipmap b id) := by
  refine keeps_releaseTexImageInternal.andThen
    ((keeps_ofState fun _ => keeps_orphanImages.when).andThen (keeps_ofState fun w => Keeps.when ?_))
  refine (keeps_attempt _).andThen (Keeps.andThen (Keeps.when (keeps_forEach _ fun target => ?_))
    ((keeps_attempt _).andThen
      (keeps_onTexture (keepsCoherent_of_empty fun t => signalDirtyStorage_cachesEmpty _ _))))
  exact keeps_ofState fun w => (keeps_initializeContents target _).when

theorem keeps_handleMipmapGenerationHint (level : Nat) :
    Keeps (handleMipmapGenerationHint b id level) :=
  keeps_ofState fun _ => keeps_generateMipmap.when

section

variable (target : TextureTarget)

theorem keeps_markWritten (level : Nat) (written : Bool) :
    Keeps (onTexture id (·.markWritten target level written)) := by
  refine keeps_onTexture (KeepsImages.keepsCoherent ?_)
  exact fun t => ⟨⟨rfl, rfl, rfl, rfl, rfl, rfl, fun _ _ => rfl, fun _ _ => rfl⟩, rfl, rfl, rfl, rfl⟩

theorem keeps_setCompressedSubImage (level : Nat) (area : Box) :
    Keeps (setCompressedSubImage b id target level area) :=
  (keeps_ensureSubImageInitialized target level area).andThen
    ((keeps_attempt _).andThen (keeps_markWritten target level true))

theorem keeps_setSubImage (level : Nat) (area : Box) :
    Keeps (setSubImage b id target level area) :=
  (keeps_ensureSubImageInitialized target level area).andThen ((keeps_attempt _).andThen
      ((keeps_markWritten target level true).andThen (keeps_handleMipmapGenerationHint level)))

theorem keeps_copySubTexture (level : Nat) (area : Box)
    (source : TextureID) : Keeps (copySubTexture b id target level area source) :=
  keeps_ensureInitialized.andThen (keeps_setCompressedSubImage target level area)

end

theorem keeps_initAttachment (index : ImageIndex) : Keeps (initAttachment b id index) := by
  refine keeps_ofState fun w => Keeps.when (Keeps.andThen ?_ (keeps_setInitState _ _))
  exact keeps_forEach _ fun target => keeps_initializeContents target index.level

theorem keeps_markAttachmentInitialized (index : ImageIndex) :
    Keeps (markAttachmentInitialized id index) := by
  refine keeps_onTexture fun contexts t h => ?_
  have hinit := (keepsImages_setInitState index .Initialized).keepsCoherent contexts t h
  refine (keepsImages_foldl (fun target => ?_) (targetsOf t index)).keepsCoherent _ _ hinit
  exact fun t => ⟨⟨rfl, rfl, rfl, rfl, rfl, rfl, fun _ _ => rfl, fun _ _ => rfl⟩, rfl, rfl, rfl, rfl⟩

/-! ## Operations that change images -/

/-- Coherent caches stay coherent, whether the operation fails or not. -/
def Preserves (op : Op) : Prop := Triple Coherent op Coherent Coherent

/-- Coherent caches stay coherent but for those of `id`. -/
def Changes (id : TextureID) (op : Op) : Prop :=
  Triple Coherent op (CoherentBut (· = id)) Coherent

theorem coherentBut_false : CoherentBut (fun _ => False) w ↔ w.Coherent := by
  simp [CoherentBut, Coherent]

theorem Keeps.preserves (h : Keeps op) : Preserves op :=
  (h fun _ => False).mono (fun _ => coherentBut_false.mpr) (fun _ => coherentBut_false.mp)
    fun _ => coherentBut_false.mp

variable {E : World → Prop}

theorem coherentBut_onTexture (f : Texture → Texture) :
    Triple (CoherentBut (· = id)) (onTexture id f) (CoherentBut (· = id)) E := by
  refine update fun w h id' hid' => ?_
  simpa [modify, hid'] using h id' hid'

theorem changes_onTexture (f : Texture → Texture) :
    Triple Coherent (onTexture id f) (CoherentBut (· = id)) E :=
  (coherentBut_onTexture f).mono (fun _ h id' _ => h id') (fun _ h => h) fun _ h => h

theorem coherent_signalDirtyStorage (initState : InitState) :
    Triple (CoherentBut (· = id)) (signalDirtyStorage id initState) Coherent E := by
  refine update fun w h id' => ?_
  by_cases heq : id' = id
  · subst heq
    simpa [modify] using (signalDirtyStorage_cachesEmpty _ initState).coherent
  · simpa [modify, heq] using h id' heq

theorem coherent_ofState_signal (initState : World → InitState) :
    Triple (CoherentBut (· = id)) (ofState fun w => signalDirtyStorage id (initState w)) Coherent
      E :=
  reads fun _ _ => coherent_signalDirtyStorage _

theorem changes_ofState (f : World → Texture → Texture) :
    Triple Coherent (ofState fun w => onTexture id (f w)) (CoherentBut (· = id)) E :=
  reads fun w _ => changes_onTexture (f w)

theorem preserves_attempt (ok : Bool) : Preserves (attempt ok) := (keeps_attempt ok).preserves

theorem preserves_define (ok : Bool) (f : World → Texture → Texture)
    (initState : World → InitState) :
    Preserves (attempt ok >> (ofState fun w => onTexture id (f w)) >>
      ofState fun w => signalDirtyStorage id (initState w)) :=
  (preserves_attempt ok).andThen ((changes_ofState f).andThen (coherent_ofState_signal initState))

/-! ### Automatic mipmaps -/

theorem succeeds_generateMipmap (h : b.GeneratesMipmap) : (generateMipmap b id).Succeeds := by
  have hrelease : (releaseTexImageInternal b id).Succeeds :=
    Succeeds.ofState fun _ => Succeeds.when fun _ =>
      (Succeeds.update _).andThen ((Succeeds.attempt h.releaseTexImage).andThen (Succeeds.update _))
  have horphan : (orphanImages b id).Succeeds :=
    (Succeeds.attempt h.orphanImages).andThen (Succeeds.update _)
  refine hrelease.andThen ((Succeeds.ofState fun _ => Succeeds.when fun _ => horphan).andThen
    (Succeeds.ofState fun w => Succeeds.when fun _ => ?_))
  refine (attempt h.syncState).andThen (andThen (when fun _ =>
    forEach _ fun target _ => ofState fun _ => when fun _ => ?_)
    ((attempt h.generateMipmap).andThen (update _)))
  exact (Succeeds.update _).andThen (Succeeds.attempt (h.initializeContents target _))

/-- What holds of one texture. -/
def Has (id : TextureID) (p : Texture → Prop) (w : World) : Prop := p (w.textures id)

variable {p : Texture → Prop}

theorem has_onTexture {id' : TextureID} {f : Texture → Texture} (hf : ∀ t, p t → p (f t)) :
    Triple (Has id p) (onTexture id' f) (Has id p) E := by
  refine update fun w h => ?_
  unfold Has at h ⊢
  by_cases heq : id = id'
  · subst heq
    simpa [modify] using hf _ h
  · simpa [modify, heq] using h

theorem has_attempt (ok : Bool) :
    Triple (Has id p) (attempt ok) (Has id p) fun _ => True :=
  attempt (fun _ _ h => h) fun _ _ _ => trivial

theorem has_releaseAndOrphan (id' : TextureID)
    (hbound : ∀ t bound, p t → p { t with mBoundSurface := bound })
    (htarget : ∀ t bound, p t → p { t with mTargetOf := bound })
    (hrelease : ∀ t : Texture, p t →
      p (((t.clearImageDesc (.nonCube t.mType) 0).markWritten (.nonCube t.mType) 0
        false).signalDirtyStorage .Initialized)) :
    Triple (Has id p) (releaseAndOrphan b id') (Has id p) fun _ => True := by
  have hsurface : Triple (Has id p) (releaseTexImageInternal b id') (Has id p) fun _ => True := by
    refine reads fun w _ => when (fun _ => ?_) fun _ _ hs => hs
    exact (has_onTexture fun t ht => hbound t false ht).andThen ((has_attempt _).andThen
      (has_onTexture hrelease))
  exact hsurface.andThen ((has_attempt _).andThen (has_onTexture fun t ht => htarget t false ht))

/-- Whether the images of a texture get their mipmaps with every definition of the first level. -/
def Hint (hint : Bool) (t : Texture) : Prop := t.mGenerateMipmapHint = hint

variable {hint : Bool} {level : Nat}

/-- Automatic mipmaps that are not generated, or whose generation does not fail, leave no caches
behind but those of the texture. -/
theorem coherentBut_handleMipmapGenerationHint
    (hmipmap : hint → level = 0 → b.GeneratesMipmap) :
    Triple (fun w => CoherentBut (· = id) w ∧ Has id (Hint hint) w)
      (handleMipmapGenerationHint b id level) (CoherentBut (· = id)) E := by
  refine ofState fun w h => ?_
  by_cases hgenerates : (w.textures id).mGenerateMipmapHint && level = 0
  · rw [Fallible.when, if_pos hgenerates]
    simp only [Bool.and_eq_true, decide_eq_true_eq] at hgenerates
    have hsucceeds : (generateMipmap b id).Succeeds :=
      succeeds_generateMipmap (hmipmap (h.2.symm.trans hgenerates.1) hgenerates.2)
    have hkeeps : Keeps (generateMipmap b id) := keeps_generateMipmap
    exact hsucceeds.triple ((hkeeps (· = id)).mono (fun s hs => hs ▸ h.1) (fun _ hs => hs)
      fun _ hs => hs)
  · rw [Fallible.when, if_neg hgenerates]
    exact done fun s hs => hs ▸ h.1

theorem coherent_define_mipmap (target : TextureTarget)
    (desc : World → ImageDesc) (written : Bool) (initState : World → InitState)
    (hmipmap : b.call → hint → level = 0 → b.GeneratesMipmap) :
    Triple (fun w => w.Coherent ∧ Has id (Hint hint) w)
      (attempt b.call >> (ofState fun w => defineImage id target level (desc w) written) >>
        handleMipmapGenerationHint b id level >>
        ofState fun w => signalDirtyStorage id (initState w)) Coherent Coherent := by
  cases hcall : b.call with
  | false => exact attempt_false fun _ h => h.1
  | true =>
    refine andThen (attempt (fun _ _ h => h) fun h => by cases h) (andThen ?_
      ((coherentBut_handleMipmapGenerationHint (hmipmap hcall)).andThen
        (coherent_ofState_signal initState)))
    refine reads fun w _ => ?_
    have hchange : Triple (fun w => w.Coherent ∧ Has id (Hint hint) w)
        (defineImage id target level (desc w) written)
        (fun w => CoherentBut (· = id) w ∧ Has id (Hint hint) w) fun w => w.Coherent ∧ w.Coherent :=
      (changes_onTexture _).and (has_onTexture fun _ ht => ht)
    exact hchange.fails fun _ hs => hs.1

theorem coherent_define_mipmap_const (id : TextureID) (target : TextureTarget)
    (desc : ImageDesc) (initState : InitState)
    (hmipmap : b.call → hint → level = 0 → b.GeneratesMipmap) :
    Triple (fun w => w.Coherent ∧ Has id (Hint hint) w)
      (attempt b.call >> defineImage id target level desc true >>
        handleMipmapGenerationHint b id level >> signalDirtyStorage id initState)
      Coherent Coherent := by
  have hdefine : Triple (fun w => w.Coherent ∧ Has id (Hint hint) w) _ Coherent Coherent :=
    coherent_define_mipmap target (fun _ => desc) true (fun _ => initState) hmipmap
  exact hdefine

theorem coherent_and_hint (hop : Preserves op)
    (hhint : Triple (Has id (Hint hint)) op (Has id (Hint hint)) fun _ => True) :
    Triple (fun w => w.Coherent ∧ Has id (Hint hint) w) op
      (fun w => w.Coherent ∧ Has id (Hint hint) w) Coherent :=
  (hop.and hhint).mono (fun _ h => h) (fun _ h => h) fun _ h => h.1

theorem hint_releaseAndOrphan :
    Triple (Has id (Hint hint)) (releaseAndOrphan b id) (Has id (Hint hint)) fun _ => True :=
  has_releaseAndOrphan id (fun _ _ ht => ht) (fun _ _ ht => ht) fun _ ht => ht

section

variable (target : TextureTarget)

theorem coherent_setImage (level : Nat) (size : Extents)
    (format : InternalFormat) (hasPixels : Bool)
    (hmipmap : b.call → hint → level = 0 → b.GeneratesMipmap) :
    Triple (fun w => w.Coherent ∧ Has id (Hint hint) w)
      (setImage b id target level size format hasPixels) Coherent Coherent :=
  (coherent_and_hint keeps_releaseAndOrphan.preserves hint_releaseAndOrphan).andThen
    (coherent_define_mipmap target _ hasPixels _ hmipmap)

theorem coherent_setImageExternal (level : Nat)
    (size : Extents) (format : InternalFormat)
    (hmipmap : b.call → hint → level = 0 → b.GeneratesMipmap) :
    Triple (fun w => w.Coherent ∧ Has id (Hint hint) w)
      (setImageExternal b id target level size format) Coherent Coherent := by
  have hdefine := coherent_define_mipmap_const id target (.new size format .Initialized) .Initialized
    hmipmap
  exact (coherent_and_hint keeps_releaseAndOrphan.preserves hint_releaseAndOrphan).andThen hdefine

theorem hint_ensureSubImageInitialized (level : Nat) (area : Box) :
    Triple (Has id (Hint hint)) (ensureSubImageInitialized b id target level area)
      (Has id (Hint hint)) fun _ => True := by
  have herase : Triple (Has id (Hint hint)) (initializeContents b id target level)
      (Has id (Hint hint)) fun _ => True :=
    andThen (has_onTexture fun _ ht => ht) (has_attempt _)
  have hinit : Triple (Has id (Hint hint))
      (onTexture id (·.setInitState ⟨some target, level⟩ .Initialized)) (Has id (Hint hint))
      fun _ => True :=
    has_onTexture fun t ht => by simpa [Hint, setInitState, setImageDesc] using ht
  refine reads fun w _ => when (fun _ => ?_) fun _ _ hs => hs
  exact (when (fun _ => herase) fun _ _ hs => hs).andThen hinit

theorem coherent_copyImage (level width height : Nat)
    (format : InternalFormat) (hmipmap : b.call → hint → level = 0 → b.GeneratesMipmap) :
    Triple (fun w => w.Coherent ∧ Has id (Hint hint) w)
      (copyImage b id target level width height format) Coherent Coherent := by
  have hensure : Triple (fun w => w.Coherent ∧ Has id (Hint hint) w)
      (ensureSubImageInitialized b id target level ⟨0, 0, 0, width, height, 1⟩)
      (fun w => w.Coherent ∧ Has id (Hint hint) w) Coherent :=
    coherent_and_hint (keeps_ensureSubImageInitialized target level _).preserves
      (hint_ensureSubImageInitialized target level _)
  have hdefine := coherent_define_mipmap_const id target (.new ⟨width, height, 1⟩ format .Initialized)
    .Initialized hmipmap
  exact (coherent_and_hint keeps_releaseAndOrphan.preserves hint_releaseAndOrphan).andThen
    (hensure.andThen hdefine)

theorem preserves_setCompressedImage (level : Nat) (size : Extents)
    (format : InternalFormat) (hasPixels : Bool) :
    Preserves (setCompressedImage b id target level size format hasPixels) :=
  keeps_releaseAndOrphan.preserves.andThen (preserves_define _ _ _)

theorem preserves_copyTexture (level : Nat) (format : InternalFormat)
    (source : TextureID) (sourceLevel : Nat) :
    Preserves (copyTexture b id target level format source sourceLevel) :=
  keeps_releaseAndOrphan.preserves.andThen
    (keeps_ensureInitialized.preserves.andThen (preserves_define _ _ fun _ => .Initialized))

end

/-- Caches that are empty stay empty while the description of the source is taken. -/
theorem coherent_copyCompressedTexture {source : TextureID} {empty : Bool}
    (hempty : b.call → empty) :
    Triple (fun w => w.Coherent ∧ Has id (fun t => empty → t.CachesEmpty) w)
      (copyCompressedTexture b id source) Coherent Coherent := by
  have hrelease : Triple (fun w => w.Coherent ∧ Has id (fun t => empty → t.CachesEmpty) w)
      (releaseAndOrphan b id) (fun w => w.Coherent ∧ Has id (fun t => empty → t.CachesEmpty) w)
      Coherent := by
    refine (and keeps_releaseAndOrphan.preserves
      (has_releaseAndOrphan id (fun _ _ ht => ht) (fun _ _ ht => ht) fun t _ _ => ?_)).mono
        (fun _ h => h) (fun _ h => h) fun _ h => h.1
    exact signalDirtyStorage_cachesEmpty _ _
  refine hrelease.andThen ?_
  cases hcall : b.call with
  | false => exact attempt_false fun _ h => h.1
  | true =>
    refine andThen (attempt (fun _ _ h => h) fun h => by cases h)
      (ofState fun w h => update fun s hs id' => ?_)
    subst hs
    by_cases heq : id' = id
    · subst heq
      have hcaches := h.2 (hempty hcall)
      simp only [modify, Function.update_self]
      exact CachesEmpty.coherent hcaches
    · simpa [modify, heq] using h.1 id'

theorem preserves_setStorage (levels : Nat) (size : Extents) (format : InternalFormat)
    (hcall : b.call) : Preserves (setStorage b id levels size format) := by
  refine keeps_releaseAndOrphan.preserves.andThen ((changes_onTexture _).andThen (andThen
    (attempt (fun _ _ h => h) fun h => ?_) ((coherentBut_onTexture _).andThen
      (coherent_signalDirtyStorage _))))
  rw [hcall] at h
  cases h

theorem preserves_setStorageExternalMemory (levels : Nat) (size : Extents)
    (format : InternalFormat) : Preserves (setStorageExternalMemory b id levels size format) :=
  keeps_releaseAndOrphan.preserves.andThen ((preserves_attempt _).andThen
    ((changes_onTexture _).andThen ((coherentBut_onTexture _).andThen
      (coherent_signalDirtyStorage _))))

theorem preserves_setStorageMultisample (samples : Nat) (size : Extents) (format : InternalFormat)
    (fixedSampleLocations : Bool) :
    Preserves (setStorageMultisample b id samples size format fixedSampleLocations) :=
  keeps_releaseAndOrphan.preserves.andThen ((preserves_attempt _).andThen
    ((changes_onTexture _).andThen ((coherentBut_onTexture _).andThen
      (coherent_signalDirtyStorage _))))

theorem preserves_bindTexImageFromSurface (size : Extents) (format : InternalFormat) :
    Preserves (bindTexImageFromSurface b id size format) := by
  refine keeps_releaseTexImageInternal.preserves.andThen ((preserves_attempt _).andThen
    ((changes_onTexture _).andThen (andThen (reads fun w _ => ?_)
      (coherent_signalDirtyStorage _))))
  exact coherentBut_onTexture _

theorem preserves_setEGLImageTarget (size : Extents) (format : InternalFormat)
    (initState : InitState) : Preserves (setEGLImageTarget b id size format initState) :=
  keeps_releaseAndOrphan.preserves.andThen ((preserves_attempt _).andThen
    ((changes_onTexture _).andThen (coherent_signalDirtyStorage _)))

theorem preserves_setBaseLevel {baseLevel : Nat} (hcall : b.call) :
    Preserves (setBaseLevel b id baseLevel) := by
  refine reads fun w _ => when (fun _ => ?_) fun _ _ hs => hs
  refine (changes_onTexture _).andThen (andThen (attempt (fun _ _ h => h) fun h => ?_)
    (update fun s hs id' => ?_))
  · rw [hcall] at h
    cases h
  · by_cases heq : id' = id
    · subst heq
      simpa [modify] using (signalDirtyState_cachesEmpty _).coherent
    · simpa [modify, heq] using hs id' heq

theorem preserves_acquireImageFromStream (size : Extents) (format : InternalFormat) :
    Preserves (acquireImageFromStream b id size format) :=
  preserves_define _ _ fun _ => .Initialized

theorem preserves_releaseImageFromStream : Preserves (releaseImageFromStream b id) :=
  preserves_define _ _ fun _ => .Initialized

/-! ## Runs -/

/-- What is asked of textures is answered for their images as they are. -/
structure Answers (asked : SamplerState → Prop) (w : World) : Prop where
  samplerComplete : ∀ id context, context ≠ 0 → ∀ sampler, asked (w.samplerState id sampler) →
    ((w.textures id).isSamplerComplete context (w.contexts context)
      (w.samplerState id sampler)).mCompletenessCache.samplerComplete =
        (w.textures id).computeSamplerCompleteness (w.samplerState id sampler) (w.contexts context)
  samplerFormat : ∀ id samplerState format,
    (w.textures id).compatibleWithSamplerFormat format samplerState ↔
      (w.textures id).computeRequiredSamplerFormat samplerState = .InvalidEnum ∨
        format = (w.textures id).computeRequiredSamplerFormat samplerState
  sameCompleteness : ∀ id sampler other, asked (w.samplerState id sampler) → asked other →
    (w.samplerState id sampler).sameCompleteness other → ∀ (t : Texture) (data : ContextState),
      t.computeSamplerCompleteness (w.samplerState id sampler) data =
        t.computeSamplerCompleteness other data

/-- The calls after which no cache is left behind. -/
def KeepsCaches (w : World) (call : Action × Backend) : Prop :=
  let mipmap (id : TextureID) (level : Nat) : Prop :=
    call.2.call → (w.textures id).mGenerateMipmapHint → level = 0 → call.2.GeneratesMipmap
  match call.1 with
  -- What fails after the image has been defined leaves the caches as they were.
  | .setImage id _ level _ _ _ => mipmap id level
  | .setImageExternal id _ level _ _ => mipmap id level
  | .copyImage id _ level _ _ _ => mipmap id level
  | .setStorage _ _ _ _ => call.2.call
  | .setBaseLevel _ _ => call.2.call
  -- The copy does not empty the caches.
  | .copyCompressedTexture id _ => call.2.call → (w.textures id).CachesEmpty
  -- The bytes of the sampler are compared in place of its parameters.
  | .isSamplerComplete id _ sampler => (w.samplerState id sampler).Packed
  -- A context is known by where it is.
  | .newContext context _ => ∀ id, (w.textures id).mCompletenessCache.context ≠ context
  | _ => True

theorem coherent_of_hint (hw : w.Coherent)
    (h : Triple (fun w' => w'.Coherent ∧ Has id (Hint (w.textures id).mGenerateMipmapHint) w') op
      Coherent Coherent) : (op.run w).1.Coherent :=
  h.result ⟨hw, rfl⟩

theorem newContext_coherent (hw : w.Coherent) {context : ContextID} (created : ContextState)
    (hfree : ∀ id, (w.textures id).mCompletenessCache.context ≠ context) :
    { w with contexts := Function.update w.contexts context created }.Coherent := by
  intro id
  refine ⟨fun hcontext => ?_, (hw id).format⟩
  dsimp only at hcontext ⊢
  rw [Function.update_of_ne (hfree id)]
  exact (hw id).completeness hcontext

theorem step_coherent (hw : w.Coherent) {call : Action × Backend} (hkeeps : w.KeepsCaches call)
    {w' : World} (hstep : step w call = some w') : w'.Coherent := by
  obtain ⟨_, hw'⟩ := Option.ite_none_right_eq_some.mp hstep
  cases hw'
  obtain ⟨action, b⟩ := call
  cases action with
  | setImage id target level size format hasPixels =>
      exact coherent_of_hint hw (coherent_setImage target level size format hasPixels hkeeps)
  | setSubImage id target level area =>
      exact (keeps_setSubImage target level area).preserves.result hw
  | setCompressedImage id target level size format hasPixels =>
      exact (preserves_setCompressedImage target level size format hasPixels).result hw
  | setCompressedSubImage id target level area =>
      exact (keeps_setCompressedSubImage target level area).preserves.result hw
  | setImageExternal id target level size format =>
      exact coherent_of_hint hw (coherent_setImageExternal target level size format hkeeps)
  | copyImage id target level width height format =>
      exact coherent_of_hint hw (coherent_copyImage target level width height format hkeeps)
  | copySubImage id target level area =>
      exact (keeps_setSubImage target level area).preserves.result hw
  | copyTexture id target level format source sourceLevel =>
      exact (preserves_copyTexture target level format source sourceLevel).result hw
  | copySubTexture id target level area source =>
      exact (keeps_copySubTexture target level area source).preserves.result hw
  | copyCompressedTexture id source =>
      have htriple : Triple (fun w => w.Coherent ∧ Has id (fun t => b.call → t.CachesEmpty) w)
          (copyCompressedTexture b id source) Coherent Coherent :=
        coherent_copyCompressedTexture fun hcall => hcall
      exact htriple.result ⟨hw, hkeeps⟩
  | setStorage id levels size format =>
      exact (preserves_setStorage levels size format hkeeps).result hw
  | setStorageExternalMemory id levels size format =>
      exact (preserves_setStorageExternalMemory levels size format).result hw
  | setStorageMultisample id samples size format fixedSampleLocations =>
      exact (preserves_setStorageMultisample samples size format fixedSampleLocations).result hw
  | generateMipmap id => exact keeps_generateMipmap.preserves.result hw
  | bindTexImageFromSurface id size format =>
      exact (preserves_bindTexImageFromSurface size format).result hw
  | releaseTexImageFromSurface id =>
      exact keeps_releaseTexImageFromSurface.preserves.result hw
  | acquireImageFromStream id size format =>
      exact (preserves_acquireImageFromStream size format).result hw
  | releaseImageFromStream id => exact preserves_releaseImageFromStream.result hw
  | setEGLImageTarget id size format initState =>
      exact (preserves_setEGLImageTarget size format initState).result hw
  | initAttachment id index => exact (keeps_initAttachment index).preserves.result hw
  | markAttachmentInitialized id index =>
      exact (keeps_markAttachmentInitialized index).preserves.result hw
  | ensureInitialized id => exact keeps_ensureInitialized.preserves.result hw
  | onContentsChanged id =>
      have hkeeps : Keeps (onTexture id (·.signalDirtyStorage .Initialized)) :=
        keeps_onTexture (keepsCoherent_of_empty fun t => signalDirtyStorage_cachesEmpty t _)
      exact hkeeps.preserves.result hw
  | onSubjectChanged id =>
      have hkeeps : Keeps (onTexture id (·.signalDirtyState)) :=
        keeps_onTexture (keepsCoherent_of_empty signalDirtyState_cachesEmpty)
      exact hkeeps.preserves.result hw
  | writeSibling id =>
      have hkeeps : Keeps (onTexture id (·.markLevels 0 0 true)) :=
        keeps_onTexture (KeepsImages.keepsCoherent keepsImages_markLevels)
      exact hkeeps.preserves.result hw
  | samplerParameter id parameter =>
      have hkeeps : Keeps (onTexture id (·.setSamplerParameter parameter)) :=
        keeps_onTexture (keepsCoherent_of_empty fun t => signalDirtyState_cachesEmpty _)
      exact hkeeps.preserves.result hw
  | setBaseLevel id baseLevel => exact (preserves_setBaseLevel hkeeps).result hw
  | setMaxLevel id maxLevel =>
      exact (keeps_onTexture (keepsCoherent_setMaxLevel maxLevel)).preserves.result hw
  | setDepthStencilTextureMode id stencil =>
      exact (keeps_onTexture (keepsCoherent_setDepthStencilTextureMode stencil)).preserves.result hw
  | setGenerateMipmapHint id hint =>
      exact (keeps_onTexture (KeepsImages.keepsCoherent
        (keepsImages_generateMipmapHint hint))).preserves.result hw
  | setSamplerObject sampler parameter => exact hw
  | requestExtension context extended =>
      exact fun id => (signalDirtyStorage_cachesEmpty _ _).coherent
  | newContext context created => exact newContext_coherent hw created hkeeps
  | isSamplerComplete id context sampler =>
      intro id'
      by_cases heq : id' = id
      · subst heq
        simpa [operation, onTexture, modify] using (hw id').isSamplerComplete context hkeeps
      · simpa [operation, onTexture, modify, heq] using hw id'
  | compatibleWithSamplerFormat id sampler =>
      intro id'
      by_cases heq : id' = id
      · subst heq
        simpa [operation, onTexture, modify] using (hw id').requireSamplerFormat _
      · simpa [operation, onTexture, modify, heq] using hw id'

theorem initial_coherent (isRobustResourceInitEnabled : Bool)
    (contexts : ContextID → ContextState) (types : TextureID → TextureType) :
    (initial isRobustResourceInitEnabled contexts types).Coherent :=
  fun _ => CachesEmpty.coherent ⟨rfl, rfl⟩

theorem Coherent.answers (hw : w.Coherent) : w.Answers SamplerState.Packed where
  samplerComplete id _ hcontext sampler hpacked := (hw id).samplerComplete_eq hcontext hpacked
  samplerFormat id samplerState format := by
    rw [Texture.compatibleWithSamplerFormat, (hw id).cachedSamplerFormat_eq, decide_eq_true_eq]
  sameCompleteness _ _ _ hpacked hother hsame t data :=
    computeSamplerCompleteness_congr hpacked hother hsame t data

/-- In every run whose calls leave no cache behind, what is asked of textures with samplers whose
bytes are those of their parameters is answered for the images as they are. -/
theorem run_answers {isRobustResourceInitEnabled : Bool} {contexts : ContextID → ContextState}
    {types : TextureID → TextureType} {calls : List (Action × Backend)}
    (hrun : LabelledRun.Run step KeepsCaches (initial isRobustResourceInitEnabled contexts types)
      calls w) : w.Answers SamplerState.Packed :=
  (hrun.invariant (fun _ _ _ hw hkeeps hstep => step_coherent hw hkeeps hstep)
    (initial_coherent _ _ _)).answers

def streamCalls (samplers : List (Option SamplerID)) : List (Action × Backend) :=
  (.acquireImageFromStream 0 ⟨4, 4, 1⟩ filterable, allSucceed) ::
    samplers.map fun sampler => (.isSamplerComplete 0 1 sampler, allSucceed)

def externalTextures : World :=
  initial true (fun _ => ⟨3, true, fun _ => true⟩) fun _ => .External

def checkKeepsCaches (w : World) (call : Action × Backend) : Bool :=
  match call.1 with
  | .acquireImageFromStream _ _ _ => true
  | .isSamplerComplete id _ sampler => (w.samplerState id sampler).Packed
  | _ => false

theorem keepsCaches_of_check (w : World) (call : Action × Backend)
    (hcheck : w.checkKeepsCaches call) : w.KeepsCaches call := by
  obtain ⟨action, b⟩ := call
  cases action with
  | acquireImageFromStream id size format => trivial
  | isSamplerComplete id context sampler =>
      have hpacked : (w.samplerState id sampler).Packed := of_decide_eq_true hcheck
      exact hpacked
  | _ => cases hcheck

theorem run_answers_streamCalls :
    ∃ w, LabelledRun.Run step KeepsCaches externalTextures (streamCalls [some 0]) w ∧
      w.Answers SamplerState.Packed := by
  have hexec : (LabelledRun.exec (LabelledRun.checked step checkKeepsCaches) externalTextures
      (streamCalls [some 0])).isSome := by
    decide +kernel
  obtain ⟨w, hw⟩ := Option.isSome_iff_exists.mp hexec
  have hrun := LabelledRun.Run.of_exec_checked _ keepsCaches_of_check hw
  exact ⟨w, hrun, run_answers hrun⟩

/-- The defaults of an external texture have the bytes of a sampler object: what is cached for the
texture answers for the sampler, for which an external texture is not complete. -/
theorem externalTexture_answersForSampler :
    ¬ ∀ (isRobustResourceInitEnabled : Bool) (contexts : ContextID → ContextState)
      (types : TextureID → TextureType) (calls : List (Action × Backend)) (w : World),
      LabelledRun.Run step LabelledRun.anyStep
        (initial isRobustResourceInitEnabled contexts types) calls w →
      w.Answers fun _ => True := by
  intro hall
  have hexec : (LabelledRun.exec step externalTextures (streamCalls [none])).map (fun w =>
      (((w.textures 0).isSamplerComplete 1 (w.contexts 1)
        (w.samplerState 0 (some 0))).mCompletenessCache.samplerComplete,
        (w.textures 0).computeSamplerCompleteness (w.samplerState 0 (some 0)) (w.contexts 1))) =
      some (true, false) := by
    decide +kernel
  obtain ⟨w, hw, hvalues⟩ := Option.map_eq_some_iff.mp hexec
  obtain ⟨hcached, hcomputed⟩ := Prod.mk.inj hvalues
  have hanswers := hall _ _ _ _ w (.of_exec hw)
  have heq := hanswers.samplerComplete 0 1 (by decide) (some 0) trivial
  rw [hcached, hcomputed] at heq
  cases heq

end World

end MetalAngle.Gl.Textures
