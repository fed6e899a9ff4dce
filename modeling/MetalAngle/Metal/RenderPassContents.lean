import MetalAngle.Lib.LabelledRun
import MetalAngle.Metal.RenderPass

/-!
# What render passes keep

Every texel that has been written since its attachment was last invalidated is held by the pass that
has the attachment, or else by the texture, in every run whose passes load and store what they draw
to.
-/

namespace MetalAngle.Metal.RenderPasses

open AttachmentPoint Function
open Option RenderPassAttachmentDesc RenderCommandEncoder TextureTarget RenderPassDesc

theorem AttachmentPoint.mem_all (point : AttachmentPoint) : point ∈ AttachmentPoint.all := by
  cases point <;> simp [all]

/-! ## Contents -/

/-- What has been written is there. -/
def Contents.Holds (contents written : Contents) : Prop :=
  ∀ texel value, written texel = some value → contents texel = some value

def Contents.blank : Contents := fun _ => none

namespace Contents

theorem holds_blank (contents : Contents) : contents.Holds blank := by
  intro texel value h
  cases h

theorem Holds.overlay {contents written : Contents} (h : contents.Holds written)
    (writes : Contents) : (RenderPasses.overlay writes contents).Holds
      (RenderPasses.overlay writes written) := by
  intro texel value hvalue
  simp only [RenderPasses.overlay] at hvalue ⊢
  cases hwrites : writes texel with
  | some value' => rwa [hwrites] at hvalue
  | none =>
      rw [hwrites] at hvalue
      exact h texel value hvalue

end Contents

/-! ## Descriptors -/

namespace RenderPassDesc

theorem equalIgnoreLoadStoreOptions_iff {desc other : RenderPassDesc} :
    desc.equalIgnoreLoadStoreOptions other ↔
      ∀ point, (desc point).target = (other point).target := by
  simp only [equalIgnoreLoadStoreOptions, decide_eq_true_eq]
  exact ⟨fun h point => h point point.mem_all, fun h point _ => h point⟩

end RenderPassDesc

namespace RenderPassAttachmentDesc

def keeps (attachment : RenderPassAttachmentDesc) (target : TextureTarget) : Bool :=
  let action := correctStoreAction target.hasImplicitMSTexture attachment.storeAction
  if target.hasImplicitMSTexture then action.resolves else action.stores

theorem keeps_of_store {attachment : RenderPassAttachmentDesc} (target : TextureTarget)
    (h : attachment.storeAction = .Store) : attachment.keeps target := by
  cases hms : target.hasImplicitMSTexture <;>
    simp [keeps, h, hms, correctStoreAction, MTLStoreAction.stores, MTLStoreAction.resolves]

end RenderPassAttachmentDesc

namespace RenderCommandEncoder

variable (e : RenderCommandEncoder) (memory : Storage → Contents)

theorem storeAt_of_keeps {point : AttachmentPoint} {target : TextureTarget} (old : Contents)
    (h : (e.mRenderPassDesc point).keeps target) :
    e.storeAt point target (.texture target.targetTexture) old = e.contents point := by
  obtain ⟨id, ms⟩ := target
  cases ms with
  | none =>
      simp only [keeps, hasImplicitMSTexture,
        isSome_none, Bool.false_eq_true, if_false] at h
      simp [storeAt, rendered, hasImplicitMSTexture, h]
  | some ms =>
      simp only [keeps, hasImplicitMSTexture,
        isSome_some, if_true] at h
      simp [storeAt, rendered, hasImplicitMSTexture, h]

/-- At the end of a pass a texture is left alone, or is what one of its attachments makes of it. -/
theorem store_texture (id : ImageID) :
    ((∀ point target, (e.mRenderPassDesc point).target = some target →
        target.targetTexture ≠ id) ∧ e.store memory (.texture id) = memory (.texture id)) ∨
      ∃ point target, (e.mRenderPassDesc point).target = some target ∧ target.targetTexture = id ∧
          e.store memory (.texture id) =
            e.storeAt point target (.texture id) (memory (.texture id)) := by
  have hrendered (target : TextureTarget) (h : Storage.texture id = target.rendered) :
      target.targetTexture = id := by
    obtain ⟨id', ms⟩ := target
    cases ms with
    | none => exact (Storage.texture.inj h).symm
    | some ms => cases h
  unfold store
  cases hpoint : e.pointOf (.texture id) with
  | none =>
      refine .inl ⟨fun point target htarget hid => ?_, rfl⟩
      have hnone := List.find?_eq_none.mp hpoint point point.mem_all
      simp [htarget, hid] at hnone
  | some point =>
    have hsome := List.find?_some hpoint
    cases htarget : (e.mRenderPassDesc point).target with
    | none => simp [htarget] at hsome
    | some target =>
        simp only [htarget, any_some, decide_eq_true_eq] at hsome
        refine .inr ⟨point, target, htarget, ?_, by simp only [htarget]⟩
        cases hsome with
        | inl h => exact (Storage.texture.inj h).symm
        | inr h => exact hrendered target h

theorem store_holds {written : ImageID → Contents}
    (hloaded : ∀ point target, (e.mRenderPassDesc point).target = some target →
      (e.contents point).Holds (written target.targetTexture))
    (hkept : ∀ point target, (e.mRenderPassDesc point).target = some target →
      (e.mRenderPassDesc point).keeps target = false → written target.targetTexture = .blank)
    (hstored : ∀ id, (∀ point target, (e.mRenderPassDesc point).target = some target →
      target.targetTexture ≠ id) → (memory (.texture id)).Holds (written id)) (id : ImageID) :
    (e.store memory (.texture id)).Holds (written id) := by
  rcases e.store_texture memory id with ⟨hnone, hstore⟩ | ⟨point, target, htarget, hid, hstore⟩
  · rw [hstore]
    exact hstored id hnone
  · subst hid
    cases hkeeps : (e.mRenderPassDesc point).keeps target with
    | true =>
        rw [hstore, e.storeAt_of_keeps _ hkeeps]
        exact hloaded point target htarget
    | false =>
        rw [hkept point target htarget hkeeps]
        exact Contents.holds_blank _

@[simp] theorem setStoreAction_target (action : MTLStoreAction) (points : AttachmentPoint → Bool)
    (point : AttachmentPoint) :
    ((e.setStoreAction action points).mRenderPassDesc point).target =
      (e.mRenderPassDesc point).target := by
  unfold setStoreAction
  dsimp only
  split <;> rfl

end RenderCommandEncoder

namespace World

/-! ## The invariant -/

/-- No attachment of the pass that is open is of the texture. -/
def NotInPass (w : World) (id : ImageID) : Prop :=
  ∀ e, w.mRenderEncoder = some e → ∀ point target, (e.mRenderPassDesc point).target = some target →
    target.targetTexture ≠ id

/-- The pass or else the texture holds what has been written, and the pass keeps it. -/
structure Held (w : World) : Prop where
  loaded : ∀ e, w.mRenderEncoder = some e → ∀ point target,
    (e.mRenderPassDesc point).target = some target →
      (e.contents point).Holds (w.written target.targetTexture)
  stored : ∀ id, w.NotInPass id → (w.memory (.texture id)).Holds (w.written id)
  kept : ∀ e, w.mRenderEncoder = some e → ∀ point target,
    (e.mRenderPassDesc point).target = some target →
      (e.mRenderPassDesc point).keeps target = false → w.written target.targetTexture = .blank

/-- No load action is a clear. -/
def ClearsNothing (desc : RenderPassDesc) : Prop :=
  ∀ point value, (desc point).loadAction ≠ .Clear value

/-- What holds between the operations; the next draw is to the right pass. -/
structure Inv (w : World) : Prop extends Held w where
  bound : w.bindingDirty = false → w.mDrawFramebuffer = w.drawFramebuffer
  current : w.bindingDirty = false → w.drawFramebufferDirty = false →
    ∀ e, w.mRenderEncoder = some e → ∀ point,
      (e.mRenderPassDesc point).target = (w.desc w.mDrawFramebuffer point).target
  clearsNothing : ∀ f, ClearsNothing (w.desc f)

variable {w : World}

theorem Held.congr (hw : Held w) {w' : World} (hencoder : w'.mRenderEncoder = w.mRenderEncoder)
    (hmemory : w'.memory = w.memory) (hwritten : w'.written = w.written) : Held w' where
  loaded e he := by
    rw [hencoder] at he
    rw [hwritten]
    exact hw.loaded e he
  stored id hid := by
    rw [hmemory, hwritten]
    refine hw.stored id fun e he => hid e ?_
    rw [hencoder, he]
  kept e he := by
    rw [hencoder] at he
    rw [hwritten]
    exact hw.kept e he

/-- The end of a pass, whether or not its contents are saved. -/
theorem held_endEncoding (hw : Held w) (force : Bool) : Held (w.endEncoding force) := by
  unfold endEncoding
  cases hencoder : w.mRenderEncoder with
  | none => exact hw
  | some encoder =>
    have hstored (id : ImageID) (h : ∀ point target,
        (encoder.mRenderPassDesc point).target = some target → target.targetTexture ≠ id) :
        (w.memory (.texture id)).Holds (w.written id) := by
      refine hw.stored id fun e he => ?_
      rw [hencoder] at he
      cases he
      exact h
    refine ⟨fun _ he => (by cases he), fun id _ => ?_, fun _ he => (by cases he)⟩
    cases force with
    | false =>
        exact encoder.store_holds w.memory (hw.loaded encoder hencoder)
          (hw.kept encoder hencoder) hstored id
    | true =>
      refine (encoder.setStoreAction .Store fun _ => true).store_holds w.memory
        (fun point target htarget => ?_) (fun point target _ hkeeps => ?_)
        (fun id h => hstored id fun point target htarget => h point target ?_) id
      · exact hw.loaded encoder hencoder point target htarget
      · rw [keeps_of_store target rfl] at hkeeps
        cases hkeeps
      · rwa [setStoreAction_target]

theorem endEncoding_eq (force : Bool) : w.endEncoding force =
    { w with
      memory := (w.endEncoding force).memory
      mRenderEncoder := none } := by
  cases hencoder : w.mRenderEncoder with
  | none =>
      have hsame : w.endEncoding force = w := by
        unfold endEncoding
        rw [hencoder]
      rw [hsame, ← hencoder]
  | some e =>
      unfold endEncoding
      rw [hencoder]

theorem endEncoding_none (force : Bool) : (w.endEncoding force).mRenderEncoder = none := by
  rw [endEncoding_eq]

theorem inv_endEncoding (hw : Inv w) (force : Bool) : Inv (w.endEncoding force) where
  toHeld := held_endEncoding hw.toHeld force
  bound := by
    rw [endEncoding_eq]
    exact hw.bound
  current _ _ e he := by
    rw [endEncoding_none] at he
    cases he
  clearsNothing := by
    rw [endEncoding_eq]
    exact hw.clearsNothing

/-! ## The start of a pass -/

/-- The load action of an attachment gives the pass what has been written: it clears or it loads,
and the multisample texture that it loads has what the texture has. -/
def LoadsWhole (w : World) (target : TextureTarget) : MTLLoadAction → Prop
  | .Clear _ => True
  | .DontCare => False
  | .Load => ∀ id, target.targetImplicitMSTexture = some id → ∀ texel,
      (w.written target.targetTexture texel).isSome →
        w.memory (.implicitMSTexture id) texel = w.memory (.texture target.targetTexture) texel

/-- An attachment that has been written is loaded by the pass that is started and kept by it. -/
def StartsWhole (w : World) (desc : RenderPassDesc) : Prop :=
  ∀ point target, (desc point).target = some target →
    w.written target.targetTexture = .blank ∨
      (desc point).keeps target ∧ w.LoadsWhole target (desc point).loadAction

/-- The pass that has just been started, when what its clears write has been noted. -/
theorem inv_restart (hw : Inv w) (hencoder : w.mRenderEncoder = none) {desc : RenderPassDesc}
    {written : ImageID → Contents}
    (hother : ∀ id, (∀ point target, (desc point).target = some target →
      target.targetTexture ≠ id) → written id = w.written id)
    (hload : ∀ point target, (desc point).target = some target →
      written target.targetTexture = .blank ∨ (desc point).keeps target ∧
          ((desc point).load w.memory).Holds (written target.targetTexture)) :
    Inv { w with
      mRenderEncoder := some (RenderCommandEncoder.restart w.memory desc)
      drawFramebufferDirty := true
      written := written } where
  __ := hw
  loaded e he point target htarget := by
    cases he
    rcases hload point target htarget with hblank | ⟨-, hload⟩
    · show Contents.Holds _ (written target.targetTexture)
      rw [hblank]
      exact Contents.holds_blank _
    · exact hload
  stored id hid := by
    have hnone (point : AttachmentPoint) (target : TextureTarget)
        (htarget : (desc point).target = some target) : target.targetTexture ≠ id :=
      hid _ rfl point target htarget
    show (w.memory (.texture id)).Holds (written id)
    rw [hother id hnone]
    refine hw.stored id fun e he => ?_
    rw [hencoder] at he
    cases he
  kept e he point target htarget hkeeps := by
    cases he
    refine (hload point target htarget).resolve_right fun h => ?_
    have hkeeps' : (desc point).keeps target = false := hkeeps
    rw [h.1] at hkeeps'
    cases hkeeps'
  current _ hdirty := by cases hdirty

theorem holds_load (hw : Inv w) (hencoder : w.mRenderEncoder = none)
    {attachment : RenderPassAttachmentDesc} {target : TextureTarget}
    (htarget : attachment.target = some target)
    (hclear : ∀ value, attachment.loadAction ≠ .Clear value)
    (hload : w.LoadsWhole target attachment.loadAction) :
    (attachment.load w.memory).Holds (w.written target.targetTexture) := by
  have hstored : (w.memory (.texture target.targetTexture)).Holds
      (w.written target.targetTexture) := by
    refine hw.stored _ fun e he => ?_
    rw [hencoder] at he
    cases he
  cases haction : attachment.loadAction with
  | Clear value => exact absurd haction (hclear value)
  | DontCare =>
      rw [haction] at hload
      exact hload.elim
  | Load =>
    rw [haction] at hload
    simp only [load, htarget, haction]
    intro texel value hvalue
    cases hms : target.targetImplicitMSTexture with
    | none =>
        simp only [rendered, hms]
        exact hstored texel value hvalue
    | some id =>
        simp only [rendered, hms]
        rw [hload id hms texel (by rw [hvalue]; rfl)]
        exact hstored texel value hvalue

/-- The pass of a descriptor is open, or is started as it should be. -/
def OpensWhole (w : World) (desc : RenderPassDesc) : Prop :=
  w.hasStartedRenderPass desc ∨ (w.endEncoding false).StartsWhole desc

theorem inv_getRenderCommandEncoder (hw : Inv w) {desc : RenderPassDesc}
    (hclear : ClearsNothing desc) (hopens : w.OpensWhole desc) :
    Inv (w.getRenderCommandEncoder desc) := by
  unfold getRenderCommandEncoder
  split
  · exact hw
  next hstarted =>
    have hstarts := hopens.resolve_left hstarted
    have hend := inv_endEncoding hw false
    refine inv_restart hend (endEncoding_none false) (fun _ _ => rfl) fun point target htarget => ?_
    exact (hstarts point target htarget).imp_right fun h =>
      ⟨h.1, holds_load hend (endEncoding_none false) htarget (hclear point) h.2⟩

variable {writes : Writes}

variable {change : FramebufferMtl → FramebufferMtl} {f : FramebufferID}

theorem clearsNothing_onFramebuffer (hw : ∀ f, ClearsNothing (w.desc f))
    (hclear : ClearsNothing (change (w.framebuffers f)).mRenderPassDesc) (f' : FramebufferID) :
    ClearsNothing ((w.onFramebuffer f change).desc f') := by
  by_cases hf : f' = f
  · subst hf
    simpa [desc, onFramebuffer] using hclear
  · simpa [desc, onFramebuffer, hf] using hw f'

theorem inv_onFramebuffer (hw : Inv w)
    (htarget : ∀ point, ((change (w.framebuffers f)).mRenderPassDesc point).target =
      (w.desc f point).target)
    (hclear : ClearsNothing (change (w.framebuffers f)).mRenderPassDesc) :
    Inv (w.onFramebuffer f change) := by
  refine ⟨hw.toHeld.congr rfl rfl rfl, hw.bound, fun hbinding hdirty e he point => ?_,
    clearsNothing_onFramebuffer hw.clearsNothing hclear⟩
  rw [hw.current hbinding hdirty e he point]
  show _ = ((update w.framebuffers f (change (w.framebuffers f))
    w.mDrawFramebuffer).mRenderPassDesc point).target
  by_cases hf : w.mDrawFramebuffer = f
  · rw [hf, update_self, htarget]
  · rw [update_of_ne hf]
    rfl

theorem inv_onRenderPassChanged (hw : Held w)
    (hbound : w.bindingDirty = false → w.mDrawFramebuffer = w.drawFramebuffer)
    (hclear : ∀ f, ClearsNothing (w.desc f)) : Inv w.onRenderPassChanged where
  toHeld := (held_endEncoding hw false).congr rfl rfl rfl
  bound := by
    unfold onRenderPassChanged
    rw [endEncoding_eq]
    exact hbound
  current _ hdirty := by cases hdirty
  clearsNothing := by
    unfold onRenderPassChanged
    rw [endEncoding_eq]
    exact hclear

theorem updateRenderTarget_loadAction (point : AttachmentPoint) (old : RenderPassAttachmentDesc)
    (changed : Bool) (target : Option TextureTarget) :
    (updateRenderTarget point old changed target).loadAction = .Load ∨
      (updateRenderTarget point old changed target).loadAction = old.loadAction := by
  unfold updateRenderTarget
  split
  · exact .inl rfl
  · cases changed with
    | true => exact .inl rfl
    | false => exact .inr rfl

theorem updateRenderTarget_clearsNothing {desc : RenderPassDesc} (h : ClearsNothing desc)
    (changed : AttachmentPoint → Bool) (targets : AttachmentPoint → Option TextureTarget) :
    ClearsNothing fun point =>
      updateRenderTarget point (desc point) (changed point) (targets point) := by
  intro point value hclear
  rcases updateRenderTarget_loadAction point (desc point) (changed point) (targets point) with
    hload | hload
  · rw [hload] at hclear
    cases hclear
  · rw [hload] at hclear
    exact h point value hclear

/-- A framebuffer whose attachments change ends the pass that has the old ones. -/
theorem inv_syncState (hw : Inv w) (f : FramebufferID) (changed : AttachmentPoint → Bool)
    (targets : AttachmentPoint → Option TextureTarget) (sameColorType : Bool) :
    Inv (w.syncState f changed targets sameColorType) := by
  have hclear := updateRenderTarget_clearsNothing (hw.clearsNothing f) changed targets
  unfold syncState
  dsimp only
  split
  · exact inv_onRenderPassChanged (hw.toHeld.congr rfl rfl rfl) hw.bound
      (clearsNothing_onFramebuffer hw.clearsNothing hclear)
  next hsame =>
    simp only [Bool.and_eq_true, Bool.not_eq_true', decide_eq_true_eq, not_and_or,
      Bool.not_eq_false] at hsame
    rcases hsame with hequal | hother
    · refine inv_onFramebuffer hw (fun point => ?_) hclear
      rw [equalIgnoreLoadStoreOptions_iff.mp hequal point]
      simp [desc, onFramebuffer]
    · refine ⟨hw.toHeld.congr rfl rfl rfl, hw.bound, fun hbinding hdirty e he point => ?_,
        clearsNothing_onFramebuffer hw.clearsNothing hclear⟩
      have hother' : w.mDrawFramebuffer ≠ f := by
        rw [hw.bound hbinding]
        exact hother
      rw [hw.current hbinding hdirty e he point]
      simp [desc, onFramebuffer, hother']

/-! ## Draws -/

variable {params : ClearRectParams}

variable {points : AttachmentPoint → Bool}

/-- The end of a frame leaves the attachments, and what has been written. -/
structure SameTargets (w w' : World) : Prop where
  written : w'.written = w.written
  surface : w'.surface = w.surface
  target : ∀ f point, (w'.desc f point).target = (w.desc f point).target

namespace SameTargets

variable {w' w'' : World}

theorem refl (w : World) : SameTargets w w := ⟨rfl, rfl, fun _ _ => rfl⟩

theorem trans (h : SameTargets w w') (h' : SameTargets w' w'') : SameTargets w w'' :=
  ⟨h'.written.trans h.written, h'.surface.trans h.surface,
    fun f point => (h'.target f point).trans (h.target f point)⟩

theorem onFramebuffer
    (htarget : ∀ point, ((change (w.framebuffers f)).mRenderPassDesc point).target =
      (w.desc f point).target) :
    SameTargets w (w.onFramebuffer f change) := by
  refine ⟨rfl, rfl, fun f' point => ?_⟩
  by_cases hf : f' = f
  · subst hf
    simpa [desc, World.onFramebuffer] using htarget point
  · simp [desc, World.onFramebuffer, hf]

theorem onEncoder (w : World) (change : RenderCommandEncoder → RenderCommandEncoder) :
    SameTargets w (w.onEncoder change) :=
  ⟨rfl, rfl, fun _ _ => rfl⟩

theorem endEncoding (w : World) (force : Bool) : SameTargets w (w.endEncoding force) := by
  rw [endEncoding_eq]
  exact ⟨rfl, rfl, fun _ _ => rfl⟩

theorem invalidateImpl (w : World) (f : FramebufferID) (points : AttachmentPoint → Bool) :
    SameTargets w (w.invalidateImpl f points) := by
  have hframebuffer : SameTargets w (w.onFramebuffer f fun framebuffer =>
      { framebuffer with
        mRenderPassDesc := fun point =>
          if points point && (w.desc f point).target.isSome then
            { framebuffer.mRenderPassDesc point with storeAction := .DontCare }
          else framebuffer.mRenderPassDesc point }) := by
    refine onFramebuffer fun point => ?_
    dsimp only
    split <;> rfl
  unfold World.invalidateImpl
  dsimp only
  split
  · exact ⟨rfl, rfl, hframebuffer.target⟩
  · exact hframebuffer

end SameTargets

def isPlain (desc : RenderPassDesc) : Bool :=
  AttachmentPoint.all.all fun point => (desc point).target.all fun target =>
    (desc point).loadAction = .Load ∧ (desc point).storeAction = .Store ∧
      target.targetImplicitMSTexture = none ∧ ∀ point' ∈ AttachmentPoint.all,
        (desc point').target.all fun target' =>
          target'.targetTexture = target.targetTexture → point' = point

end World

end MetalAngle.Metal.RenderPasses
