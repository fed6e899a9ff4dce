import MetalAngle.Gl.Framebuffer

/-!
# Robust initialization of attachments

What is marked as initialized has been written in full, and so has what is attached at a point whose
bit is reset, in every run whose clears write all of what they mark.  The marks are made before the
clear itself, so that the invariant is kept up to what the clear is still to write.
-/

namespace MetalAngle.Gl.Framebuffers

open Framebuffer Function Option AttachmentPoint Image
open Textures (InitState)

namespace Image

variable {i : Image}

theorem isWritten_of_forall
    (h : ∀ component, i.hasComponent component → ∀ texel, i.contains texel →
      i.written component texel) :
    i.isWritten := by
  simp only [isWritten, componentWritten, decide_eq_true_eq]
  intro component _ hcomponent layer hlayer x hx y hy
  exact h component hcomponent ⟨layer, x, y⟩ (by simp [contains, hlayer, hx, hy])

def shape (i : Image) : Image :=
  { i with
    initState := .MayNeedInit
    written := fun _ _ => false }

theorem contains_congr {i' : Image} (h : i'.shape = i.shape) (texel : Texel) :
    i'.contains texel = i.contains texel := by
  have hwidth : i'.width = i.width := (congrArg width h :)
  have hheight : i'.height = i.height := (congrArg height h :)
  have hlayers : i'.layers = i.layers := (congrArg layers h :)
  simp [contains, hwidth, hheight, hlayers]

end Image

theorem Component.mem_all (component : Component) : component ∈ Component.all := by
  cases component <;> simp [Component.all]

theorem AttachmentPoint.mem_all (point : AttachmentPoint) : point ∈ AttachmentPoint.all := by
  cases point <;> simp [all]

namespace Framebuffer

def setup (f : Framebuffer) : Framebuffer :=
  { f with
    mResourceNeedsInit := fun _ => false
    mDefaultFramebufferReadAttachmentInitialized := false }

variable {f : Framebuffer}

end Framebuffer

namespace World

open Fallible

abbrev Pending := ImageID → Component → Texel → Prop

def nothingPending : Pending := fun _ _ _ => False

/-- What holds between the calls, up to what is still to be written. -/
structure Inv (pending : Pending) (w : World) : Prop where
  written : ∀ id, (w.images id).initState = .Initialized → ∀ component,
    (w.images id).hasComponent component → ∀ texel, (w.images id).contains texel →
      (w.images id).written component texel ∨ pending id component texel
  initialized : ∀ f point attachment, w.attachmentAt f point = some attachment →
    (w.framebuffers f).mResourceNeedsInit point = false →
      (w.images attachment.image).initState = .Initialized
  dirty : (w.framebuffers w.mDrawFramebuffer).hasResourceThatNeedsInit → w.drawAttachmentsDirty
  seen : w.sawUninitialized = false

/-- What initialization leaves of a world: the images only gain, and the bits are only reset. -/
structure Like (w w' : World) : Prop where
  state : w'.state = w.state
  drawFramebuffer : w'.mDrawFramebuffer = w.mDrawFramebuffer
  readFramebuffer : w'.mReadFramebuffer = w.mReadFramebuffer
  setup : ∀ f, (w'.framebuffers f).setup = (w.framebuffers f).setup
  shape : ∀ id, (w'.images id).shape = (w.images id).shape
  initialized : ∀ id, (w.images id).initState = .Initialized →
    (w'.images id).initState = .Initialized
  written : ∀ id component texel, (w.images id).written component texel →
    (w'.images id).written component texel
  needsInit : ∀ f point, (w'.framebuffers f).mResourceNeedsInit point →
    (w.framebuffers f).mResourceNeedsInit point

variable {w w' w'' : World} {pending : Pending} {b : Backend} {f : FramebufferID}

namespace Like

theorem refl (w : World) : Like w w where
  state := rfl
  drawFramebuffer := rfl
  readFramebuffer := rfl
  setup _ := rfl
  shape _ := rfl
  initialized _ h := h
  written _ _ _ h := h
  needsInit _ _ h := h

section

variable (h : Like w w')
include h

theorem trans (h' : Like w' w'') : Like w w'' where
  state := h'.state.trans h.state
  drawFramebuffer := h'.drawFramebuffer.trans h.drawFramebuffer
  readFramebuffer := h'.readFramebuffer.trans h.readFramebuffer
  setup f := (h'.setup f).trans (h.setup f)
  shape id := (h'.shape id).trans (h.shape id)
  initialized id hid := h'.initialized id (h.initialized id hid)
  written id component texel hwritten :=
    h'.written id component texel (h.written id component texel hwritten)
  needsInit f point hbit := h.needsInit f point (h'.needsInit f point hbit)

theorem attachmentAt (f : FramebufferID) : w'.attachmentAt f = w.attachmentAt f :=
  (congrArg attachments (h.setup f) :)

theorem contains (id : ImageID) (texel : Texel) :
    (w'.images id).contains texel = (w.images id).contains texel :=
  contains_congr (h.shape id) texel

theorem hasComponent (id : ImageID) :
    (w'.images id).hasComponent = (w.images id).hasComponent :=
  (congrArg Image.hasComponent (h.shape id) :)

theorem getExtents (f : FramebufferID) : w'.getExtents f = w.getExtents f := by
  have hwidth (id : ImageID) : (w'.images id).width = (w.images id).width :=
    (congrArg width (h.shape id) :)
  have hheight (id : ImageID) : (w'.images id).height = (w.images id).height :=
    (congrArg height (h.shape id) :)
  simp [World.getExtents, h.attachmentAt, hwidth, hheight]

theorem clears (f : FramebufferID) (points : List AttachmentPoint) :
    w'.clears f points = w.clears f points := by
  funext id component texel
  simp [World.clears, World.clearArea, h.state, h.getExtents, h.attachmentAt]

theorem drawPoints (f : FramebufferID) (color depth stencil : Bool) :
    w'.drawPoints f color depth stencil = w.drawPoints f color depth stencil := by
  have hdrawBuffers : (w'.framebuffers f).drawBuffers = (w.framebuffers f).drawBuffers :=
    (congrArg drawBuffers (h.setup f) :)
  have hattachments : (w'.framebuffers f).attachments = (w.framebuffers f).attachments :=
    h.attachmentAt f
  simp [World.drawPoints, mEnabledDrawBuffers, hdrawBuffers, hattachments]

end

end Like

/-! ## Initialization -/

namespace Inv

theorem mono {pending' : Pending} (h : Inv pending w)
    (hpending : ∀ id component texel, pending id component texel → pending' id component texel) :
    Inv pending' w where
  __ := h
  written id hid component hcomponent texel htexel :=
    (h.written id hid component hcomponent texel htexel).imp_right (hpending id component texel)

theorem isWritten (h : Inv nothingPending w) {id : ImageID}
    (hid : (w.images id).initState = .Initialized) : (w.images id).isWritten :=
  isWritten_of_forall fun component hcomponent texel htexel =>
    (h.written id hid component hcomponent texel htexel).resolve_right fun h => h

theorem pointWritten (h : Inv nothingPending w) {point : AttachmentPoint}
    (hpoint : ∀ attachment, w.attachmentAt f point = some attachment →
      (w.images attachment.image).initState = .Initialized) :
    w.pointWritten f point := by
  rw [World.pointWritten, all_eq_true]
  intro attachment hattachment
  exact h.isWritten (hpoint attachment hattachment)

end Inv

/-- An operation of initialization keeps what holds between the calls, and leaves `Q` if it gets to
its end. -/
def Ensures (pending : Pending) (w : World) (op : Op) (Q : World → Prop) : Prop :=
  Inv pending (op.run w).1 ∧ Like w (op.run w).1 ∧ ((op.run w).2 → Q (op.run w).1)

namespace Ensures

variable {Q R : World → Prop} {first second op : Op}

theorem update {change : World → World} (hinv : Inv pending (change w))
    (hlike : Like w (change w)) (hQ : Q (change w)) : Ensures pending w (update change) Q :=
  ⟨hinv, hlike, fun _ => hQ⟩

theorem done (hw : Inv pending w) (hQ : Q w) : Ensures pending w done Q :=
  ⟨hw, Like.refl w, fun _ => hQ⟩

theorem attempt (hw : Inv pending w) {ok : Bool} (hQ : ok → Q w) :
    Ensures pending w (attempt ok) Q :=
  ⟨hw, Like.refl w, hQ⟩

theorem ofState {op : World → Op} (h : Ensures pending w (op w) Q) :
    Ensures pending w (ofState op) Q :=
  h

theorem andThen (hfirst : Ensures pending w first Q)
    (hsecond : ∀ m, Inv pending m → Like w m → Q m → Ensures pending m second R) :
    Ensures pending w (first >> second) R := by
  obtain ⟨hinv, hlike, hQ⟩ := hfirst
  rw [Ensures, run_andThen]
  cases hok : (first.run w).2 with
  | true =>
      obtain ⟨hinv', hlike', hR⟩ := hsecond _ hinv hlike (hQ hok)
      exact ⟨hinv', hlike.trans hlike', hR⟩
  | false =>
      refine ⟨hinv, hlike, fun h => ?_⟩
      rw [if_neg (by simp), hok] at h
      cases h

theorem when {condition : Bool} (hw : Inv pending w)
    (hyes : condition → Ensures pending w op Q) (hno : condition = false → Q w) :
    Ensures pending w (when condition op) Q := by
  cases condition with
  | true => exact hyes rfl
  | false => exact done hw (hno rfl)

theorem mono (h : Ensures pending w op Q) (hQ : ∀ m, Like w m → Q m → R m) :
    Ensures pending w op R :=
  ⟨h.1, h.2.1, fun hok => hQ _ h.2.1 (h.2.2 hok)⟩

theorem forEach {α : Type} {xs : List α} {op : α → Op} {Q : α → World → Prop} (hw : Inv pending w)
    (hop : ∀ x ∈ xs, ∀ m, Inv pending m → Like w m → Ensures pending m (op x) (Q x))
    (hstays : ∀ x m m', Like m m' → Q x m → Q x m') :
    Ensures pending w (forEach xs op) fun m => ∀ x ∈ xs, Q x m := by
  induction xs generalizing w with
  | nil => exact done hw (by simp)
  | cons x xs ih =>
    refine (hop x (by simp) w hw (Like.refl w)).andThen fun m hm hlike hx => ?_
    have hrest := ih hm fun y hy m' hm' hlike' =>
      hop y (by simp [hy]) m' hm' (hlike.trans hlike')
    refine hrest.mono fun m' hlike' hxs y hy => ?_
    cases List.mem_cons.mp hy with
    | inl heq => exact heq ▸ hstays x m m' hlike' hx
    | inr hmem => exact hxs y hmem

end Ensures

/-- What is attached at a point is initialized. -/
def InitializedAt (f : FramebufferID) (point : AttachmentPoint) (w : World) : Prop :=
  ∀ attachment, w.attachmentAt f point = some attachment →
    (w.images attachment.image).initState = .Initialized

theorem InitializedAt.like {point : AttachmentPoint} (hlike : Like w w')
    (h : InitializedAt f point w) : InitializedAt f point w' := by
  intro attachment hattachment
  rw [hlike.attachmentAt] at hattachment
  exact hlike.initialized _ (h attachment hattachment)

section

variable (hw : Inv pending w)
include hw

end

/-- What is read as color is initialized. -/
def ReadBufferInitialized (f : FramebufferID) (w : World) : Prop :=
  match (w.framebuffers f).readIndex, (w.framebuffers f).mDefaultFramebufferReadAttachment with
  | none, _ => True
  | some _, some id => (w.images id).initState = .Initialized
  | some readIndex, none => InitializedAt f (.color readIndex) w

theorem ReadBufferInitialized.like (hlike : Like w w') (h : ReadBufferInitialized f w) :
    ReadBufferInitialized f w' := by
  have hreadIndex : (w'.framebuffers f).readIndex = (w.framebuffers f).readIndex :=
    (congrArg readIndex (hlike.setup f) :)
  have hdefault : (w'.framebuffers f).mDefaultFramebufferReadAttachment =
      (w.framebuffers f).mDefaultFramebufferReadAttachment :=
    (congrArg mDefaultFramebufferReadAttachment (hlike.setup f) :)
  unfold ReadBufferInitialized at h ⊢
  rw [hreadIndex, hdefault]
  split at h
  · trivial
  · exact hlike.initialized _ h
  · exact h.like hlike

/-- What an image that is initialized would have is written or pending. -/
def Covered (pending : Pending) (id : ImageID) (w : World) : Prop :=
  (w.images id).initState = .Initialized ∨ ∀ component, (w.images id).hasComponent component →
    ∀ texel, (w.images id).contains texel →
      (w.images id).written component texel ∨ pending id component texel

theorem Covered.like {id : ImageID} (hlike : Like w w') (h : Covered pending id w) :
    Covered pending id w' := by
  refine h.imp (hlike.initialized id) fun h component hcomponent texel htexel => ?_
  rw [hlike.hasComponent] at hcomponent
  rw [hlike.contains] at htexel
  exact (h component hcomponent texel htexel).imp_left (hlike.written id component texel)

theorem Covered.written {id : ImageID} (hw : Inv pending w) (h : Covered pending id w) :
    ∀ component, (w.images id).hasComponent component → ∀ texel, (w.images id).contains texel →
      (w.images id).written component texel ∨ pending id component texel :=
  h.elim (hw.written id) fun h => h

def CoveredAt (pending : Pending) (f : FramebufferID) (point : AttachmentPoint) (w : World) :
    Prop :=
  ∀ attachment, w.attachmentAt f point = some attachment → Covered pending attachment.image w

theorem CoveredAt.like {point : AttachmentPoint} (hlike : Like w w')
    (h : CoveredAt pending f point w) : CoveredAt pending f point w' := by
  intro attachment hattachment
  rw [hlike.attachmentAt] at hattachment
  exact (h attachment hattachment).like hlike

variable {points : List AttachmentPoint}

variable {color depth stencil : Bool}

variable {buffer : ClearBuffer}

section

variable (hw : Inv nothingPending w)
include hw

end

/-! ## Runs -/

def allSucceed : Backend := ⟨fun _ => true, true⟩

end World

end MetalAngle.Gl.Framebuffers
