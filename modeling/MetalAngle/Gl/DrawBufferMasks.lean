import MetalAngle.Gl.FramebufferAttachments

/-!
# Masks of the draw buffers

The masks that a framebuffer keeps of its draw buffers and colour attachments, through calls that set
the draw buffers, attach and detach, and through new definitions of the images that are attached.
The mask of the types misses the last.
-/

namespace MetalAngle.Gl.FramebufferAttachments

open InternalFormats Linking LinkedProgram LabelledRun Option List
open Function (update update_apply)

namespace Framebuffer

def drawnAttachment (f : Framebuffer) (index : Nat) : Option Attachment :=
  if f.mDrawBufferStates index = none then none else f.mColorAttachments index

/-- The masks tell the truth about one index. -/
structure ExactAt (formats : Formats) (f : Framebuffer) (index : Nat) : Prop where
  enabled : f.mEnabledDrawBuffers.getLsbD index = (f.drawnAttachment index).isSome
  type : GetComponentTypeMask f.mDrawBufferTypeMask index =
    (f.drawnAttachment index).map fun attachment => writeType (attachment.getFormat formats)
  attached : f.mColorAttachmentBits.getLsbD index = (f.mColorAttachments index).isSome
  float32 : f.mFloat32ColorAttachmentBits.getLsbD index ↔
    ∃ attachment, f.mColorAttachments index = some attachment ∧
      (attachment.getFormat formats).HasFloat32Components

/-- The masks tell the truth about every index. -/
def MasksExact (formats : Formats) (f : Framebuffer) : Prop :=
  ∀ index < IMPLEMENTATION_MAX_DRAW_BUFFERS, f.ExactAt formats index

end Framebuffer

/-- What is attached, if anything, is not bound as a colour. -/
def Elsewhere (attachment : Option Attachment) : Prop :=
  ∀ attached, attachment = some attached →
    ∀ colorIndex, attached.mBinding ≠ .GL_COLOR_ATTACHMENT colorIndex

namespace Framebuffer

/-- No attachment that is not a colour is bound as one. -/
structure OthersElsewhere (f : Framebuffer) : Prop where
  depth : Elsewhere f.mDepthAttachment
  stencil : Elsewhere f.mStencilAttachment
  webGLDepthStencil : Elsewhere f.mWebGLDepthStencilAttachment
  webGLDepth : Elsewhere f.mWebGLDepthAttachment
  webGLStencil : Elsewhere f.mWebGLStencilAttachment

/-- Draw buffers name their own attachment, and attachments and what observes them are where they
are bound. -/
structure WellFormed (caps : Caps) (f : Framebuffer) : Prop where
  drawn : ∀ index colorIndex, f.mDrawBufferStates index = some colorIndex →
    colorIndex = index ∧ index < caps.maxColorAttachments
  limited : ∀ index attachment, f.mColorAttachments index = some attachment →
    index < caps.maxColorAttachments ∧ attachment.mBinding = .GL_COLOR_ATTACHMENT index
  observed : ∀ index,
    f.mDirtyColorAttachmentBindings index = (f.mColorAttachments index).map (·.mResource)
  others : f.OthersElsewhere

end Framebuffer

structure State where
  formats : Formats
  framebuffer : Framebuffer

inductive Action
  | setDrawBuffers (buffers : List (Option Nat))
  | setAttachment (binding : Binding) (textureIndex : ImageIndex) (resource : Resource)
  | resetAttachment (binding : Binding)
  | detachResourceById (resourceType : AttachmentType) (resourceId : Nat)
  | redefine (resource : Resource) (formats : ImageIndex → Format)

def Binding.valid (caps : Caps) : Binding → Bool
  | .GL_COLOR_ATTACHMENT colorIndex => colorIndex < caps.maxColorAttachments
  | _ => true

/-- `ValidateDrawBuffersBase`. -/
def validDrawBuffers (caps : Caps) (buffers : List (Option Nat)) : Bool :=
  buffers.length ≤ caps.maxDrawBuffers &&
    (List.range buffers.length).all fun index =>
      (buffers.getD index none).all fun colorIndex =>
        colorIndex = index ∧ index < caps.maxColorAttachments

def step (isWebGL1 : Bool) (caps : Caps) (s : State) : Action → Option State
  | .setDrawBuffers buffers =>
    if validDrawBuffers caps buffers then
      some { s with framebuffer := s.framebuffer.setDrawBuffers s.formats buffers }
    else none
  | .setAttachment binding textureIndex resource =>
    if binding.valid caps ∧ resource.type ≠ .GL_NONE then
      some { s with
        framebuffer := s.framebuffer.setAttachment isWebGL1 s.formats resource.type binding
          textureIndex (some resource) }
    else none
  | .resetAttachment binding =>
    if binding.valid caps then
      some { s with framebuffer := s.framebuffer.resetAttachment isWebGL1 s.formats binding }
    else none
  | .detachResourceById resourceType resourceId =>
    some { s with
      framebuffer :=
        (s.framebuffer.detachResourceById isWebGL1 caps s.formats resourceType resourceId).1 }
  | .redefine resource formats =>
    let formats := update s.formats resource formats
    some { formats := formats, framebuffer := s.framebuffer.notify caps formats resource }

def initial (formats : Formats) : State := ⟨formats, {}⟩

def State.MasksExact (s : State) : Prop := s.framebuffer.MasksExact s.formats

/-- A new definition of an image that is drawn to keeps the type of its components. -/
def keepsTypes (s : State) : Action → Prop
  | .redefine resource formats =>
    ∀ index < IMPLEMENTATION_MAX_DRAW_BUFFERS, ∀ attachment,
      s.framebuffer.drawnAttachment index = some attachment → attachment.mResource = resource →
        writeType (formats attachment.mTextureIndex).info =
          writeType (s.formats resource attachment.mTextureIndex).info
  | _ => True

/-- The step leads to masks that tell the truth. -/
def leavesExact (isWebGL1 : Bool) (caps : Caps) (s : State) (a : Action) : Prop :=
  ∀ t, step isWebGL1 caps s a = some t → t.MasksExact

namespace Framebuffer

variable {isWebGL1 : Bool} {caps : Caps} {formats : Formats} {f g : Framebuffer} {index : Nat}

theorem ExactAt.of_eq (h : f.ExactAt formats index)
    (hattachment : g.mColorAttachments index = f.mColorAttachments index)
    (hdrawn : g.mDrawBufferStates index = f.mDrawBufferStates index)
    (henabled : g.mEnabledDrawBuffers.getLsbD index = f.mEnabledDrawBuffers.getLsbD index)
    (htype : GetComponentTypeMask g.mDrawBufferTypeMask index =
      GetComponentTypeMask f.mDrawBufferTypeMask index)
    (hattached : g.mColorAttachmentBits.getLsbD index = f.mColorAttachmentBits.getLsbD index)
    (hfloat : g.mFloat32ColorAttachmentBits.getLsbD index =
      f.mFloat32ColorAttachmentBits.getLsbD index) : g.ExactAt formats index := by
  have hsame : g.drawnAttachment index = f.drawnAttachment index := by
    rw [drawnAttachment, drawnAttachment, hattachment, hdrawn]
  constructor
  · rw [henabled, hsame, h.enabled]
  · rw [htype, hsame, h.type]
  · rw [hattached, hattachment, h.attached]
  · rw [hfloat, hattachment, h.float32]

theorem WellFormed.getDrawBuffer_eq (h : f.WellFormed caps) (index : Nat) :
    f.getDrawBuffer index = f.drawnAttachment index := by
  unfold getDrawBuffer drawnAttachment
  cases hstate : f.mDrawBufferStates index with
  | none => rfl
  | some colorIndex =>
    obtain ⟨rfl, -⟩ := h.drawn index colorIndex hstate
    rfl

theorem float32_iff (format : Format) :
    decide (format.info.type = .GL_FLOAT) = true ↔ format.info.HasFloat32Components := by
  rw [decide_eq_true_eq]
  exact format.type_eq_float_iff

/-! ## Depth and stencil -/

/-- The operation leaves the colours and the draw buffers alone. -/
structure KeepsColors (f g : Framebuffer) : Prop where
  mColorAttachments : g.mColorAttachments = f.mColorAttachments
  mDrawBufferStates : g.mDrawBufferStates = f.mDrawBufferStates
  mEnabledDrawBuffers : g.mEnabledDrawBuffers = f.mEnabledDrawBuffers
  mDrawBufferTypeMask : g.mDrawBufferTypeMask = f.mDrawBufferTypeMask
  mColorAttachmentBits : g.mColorAttachmentBits = f.mColorAttachmentBits
  mFloat32ColorAttachmentBits : g.mFloat32ColorAttachmentBits = f.mFloat32ColorAttachmentBits
  bindings : g.mDirtyColorAttachmentBindings = f.mDirtyColorAttachmentBindings
  others : f.OthersElsewhere → g.OthersElsewhere

namespace KeepsColors

theorem trans {h : Framebuffer} (hfirst : KeepsColors f g) (hsecond : KeepsColors g h) :
    KeepsColors f h where
  mColorAttachments := hsecond.mColorAttachments.trans hfirst.mColorAttachments
  mDrawBufferStates := hsecond.mDrawBufferStates.trans hfirst.mDrawBufferStates
  mEnabledDrawBuffers := hsecond.mEnabledDrawBuffers.trans hfirst.mEnabledDrawBuffers
  mDrawBufferTypeMask := hsecond.mDrawBufferTypeMask.trans hfirst.mDrawBufferTypeMask
  mColorAttachmentBits := hsecond.mColorAttachmentBits.trans hfirst.mColorAttachmentBits
  mFloat32ColorAttachmentBits :=
    hsecond.mFloat32ColorAttachmentBits.trans hfirst.mFloat32ColorAttachmentBits
  bindings := hsecond.bindings.trans hfirst.bindings
  others := fun hothers => hsecond.others (hfirst.others hothers)

theorem exactAt (h : KeepsColors f g) (hexact : f.ExactAt formats index) :
    g.ExactAt formats index :=
  hexact.of_eq (by rw [h.mColorAttachments]) (by rw [h.mDrawBufferStates])
    (by rw [h.mEnabledDrawBuffers]) (by rw [h.mDrawBufferTypeMask])
    (by rw [h.mColorAttachmentBits]) (by rw [h.mFloat32ColorAttachmentBits])

theorem wellFormed (h : KeepsColors f g) (hf : f.WellFormed caps) : g.WellFormed caps where
  drawn := by rw [h.mDrawBufferStates]; exact hf.drawn
  limited := by rw [h.mColorAttachments]; exact hf.limited
  observed := by rw [h.bindings, h.mColorAttachments]; exact hf.observed
  others := h.others hf.others

end KeepsColors

variable {binding : Binding}

theorem elsewhere_attach (type : AttachmentType)
    (hbinding : ∀ colorIndex, binding ≠ .GL_COLOR_ATTACHMENT colorIndex)
    (textureIndex : ImageIndex) (resource : Option Resource) :
    Elsewhere (attach type binding textureIndex resource) := by
  intro attached hattached
  obtain ⟨_, -, rfl⟩ := map_eq_some_iff.mp hattached
  exact hbinding

theorem keepsColors_setAttachmentImpl (f : Framebuffer) (formats : Formats) (type : AttachmentType)
    (hbinding : ∀ colorIndex, binding ≠ .GL_COLOR_ATTACHMENT colorIndex)
    (textureIndex : ImageIndex) (resource : Option Resource) :
    KeepsColors f (f.setAttachmentImpl formats type binding textureIndex resource) := by
  have hattach := elsewhere_attach type hbinding textureIndex resource
  cases binding with
  | GL_COLOR_ATTACHMENT colorIndex => exact absurd rfl (hbinding colorIndex)
  | GL_DEPTH_ATTACHMENT =>
    exact ⟨rfl, rfl, rfl, rfl, rfl, rfl, rfl, fun hothers => { hothers with depth := hattach }⟩
  | GL_STENCIL_ATTACHMENT =>
    exact ⟨rfl, rfl, rfl, rfl, rfl, rfl, rfl, fun hothers => { hothers with stencil := hattach }⟩
  | GL_DEPTH_STENCIL_ATTACHMENT =>
    exact ⟨rfl, rfl, rfl, rfl, rfl, rfl, rfl,
      fun hothers => { hothers with depth := hattach, stencil := hattach }⟩

theorem keepsColors_setAttachmentFrom (f : Framebuffer) (formats : Formats)
    (hbinding : ∀ colorIndex, binding ≠ .GL_COLOR_ATTACHMENT colorIndex)
    (attachment : Option Attachment) :
    KeepsColors f (f.setAttachmentFrom formats binding attachment) := by
  cases attachment with
  | none => exact f.keepsColors_setAttachmentImpl formats _ hbinding _ _
  | some attachment => exact f.keepsColors_setAttachmentImpl formats _ hbinding _ _

theorem keepsColors_commit (f : Framebuffer) (formats : Formats) :
    KeepsColors f (f.commitWebGL1DepthStencilIfConsistent formats) := by
  have hdepth : ∀ colorIndex, Binding.GL_DEPTH_ATTACHMENT ≠ .GL_COLOR_ATTACHMENT colorIndex :=
    fun _ => Binding.noConfusion
  have hstencil : ∀ colorIndex, Binding.GL_STENCIL_ATTACHMENT ≠ .GL_COLOR_ATTACHMENT colorIndex :=
    fun _ => Binding.noConfusion
  have hboth : ∀ (g : Framebuffer) (depth stencil : Option Attachment), KeepsColors f g →
      KeepsColors f ((g.setAttachmentFrom formats .GL_DEPTH_ATTACHMENT depth).setAttachmentFrom
        formats .GL_STENCIL_ATTACHMENT stencil) := fun g depth stencil hg =>
    (hg.trans (g.keepsColors_setAttachmentFrom formats hdepth depth)).trans
      (keepsColors_setAttachmentFrom _ formats hstencil stencil)
  have hstart : ∀ consistent, KeepsColors f { f with mWebGLDepthStencilConsistent := consistent } :=
    fun _ => ⟨rfl, rfl, rfl, rfl, rfl, rfl, rfl, fun h => ⟨h.1, h.2, h.3, h.4, h.5⟩⟩
  unfold commitWebGL1DepthStencilIfConsistent
  dsimp only
  split
  · exact hstart _
  · split
    · exact hboth _ _ _ (hstart _)
    · split
      · exact hboth _ _ _ (hstart _)
      · exact hboth _ _ _ (hstart _)

theorem keepsColors_setAttachment (f : Framebuffer) (isWebGL1 : Bool) (formats : Formats)
    (type : AttachmentType) (hbinding : ∀ colorIndex, binding ≠ .GL_COLOR_ATTACHMENT colorIndex)
    (textureIndex : ImageIndex) (resource : Option Resource) :
    KeepsColors f (f.setAttachment isWebGL1 formats type binding textureIndex resource) := by
  have hattach := elsewhere_attach type hbinding textureIndex resource
  unfold setAttachment
  split
  · exact f.keepsColors_setAttachmentImpl formats type hbinding textureIndex resource
  · cases binding with
    | GL_COLOR_ATTACHMENT colorIndex => exact absurd rfl (hbinding colorIndex)
    | GL_DEPTH_ATTACHMENT =>
      refine KeepsColors.trans ?_ (keepsColors_commit _ formats)
      exact ⟨rfl, rfl, rfl, rfl, rfl, rfl, rfl, fun h => { h with webGLDepth := hattach }⟩
    | GL_STENCIL_ATTACHMENT =>
      refine KeepsColors.trans ?_ (keepsColors_commit _ formats)
      exact ⟨rfl, rfl, rfl, rfl, rfl, rfl, rfl, fun h => { h with webGLStencil := hattach }⟩
    | GL_DEPTH_STENCIL_ATTACHMENT =>
      refine KeepsColors.trans ?_ (keepsColors_commit _ formats)
      exact ⟨rfl, rfl, rfl, rfl, rfl, rfl, rfl, fun h => { h with webGLDepthStencil := hattach }⟩

/-! ## Attaching and detaching -/

theorem mColorAttachments_updateColorAttachment (f : Framebuffer) (type : AttachmentType)
    (colorIndex : Nat) (textureIndex : ImageIndex) (resource : Option Resource) (index : Nat) :
    (f.updateColorAttachment type colorIndex textureIndex resource).mColorAttachments index =
      if index = colorIndex then
        attach type (.GL_COLOR_ATTACHMENT colorIndex) textureIndex resource
      else f.mColorAttachments index :=
  update_apply f.mColorAttachments colorIndex _ index

theorem bindings_updateColorAttachment (f : Framebuffer) (type : AttachmentType)
    (colorIndex : Nat) (textureIndex : ImageIndex) (resource : Option Resource) (index : Nat) :
    (f.updateColorAttachment type colorIndex textureIndex resource).mDirtyColorAttachmentBindings
        index =
      if index = colorIndex then resource else f.mDirtyColorAttachmentBindings index :=
  update_apply f.mDirtyColorAttachmentBindings colorIndex _ index

theorem WellFormed.updateColorAttachment (h : f.WellFormed caps) (type : AttachmentType)
    {colorIndex : Nat} (hcolor : colorIndex < caps.maxColorAttachments)
    (textureIndex : ImageIndex) (resource : Option Resource) :
    (f.updateColorAttachment type colorIndex textureIndex resource).WellFormed caps where
  __ := h
  limited := fun index attachment hattachment => by
    rw [mColorAttachments_updateColorAttachment] at hattachment
    split at hattachment
    case isTrue hsame =>
      subst hsame
      obtain ⟨_, -, rfl⟩ := map_eq_some_iff.mp hattachment
      exact ⟨hcolor, rfl⟩
    case isFalse => exact h.limited index attachment hattachment
  observed := fun index => by
    rw [mColorAttachments_updateColorAttachment, bindings_updateColorAttachment]
    split
    · cases resource with
      | none => rfl
      | some resource => rfl
    · exact h.observed index
  others := ⟨h.others.1, h.others.2, h.others.3, h.others.4, h.others.5⟩

/-- What is left of the colours after attaching or detaching at one of them. -/
structure SetsColor (formats : Formats) (f g : Framebuffer) (type : AttachmentType)
    (colorIndex : Nat) (textureIndex : ImageIndex) (resource : Option Resource) : Prop where
  wellFormed : ∀ caps : Caps, f.WellFormed caps → colorIndex < caps.maxColorAttachments →
    g.WellFormed caps
  mColorAttachments : ∀ index, g.mColorAttachments index =
    if index = colorIndex then
      attach type (.GL_COLOR_ATTACHMENT colorIndex) textureIndex resource
    else f.mColorAttachments index
  mDrawBufferStates : g.mDrawBufferStates = f.mDrawBufferStates
  mEnabledDrawBuffers : g.mEnabledDrawBuffers = BitRange.setBit f.mEnabledDrawBuffers colorIndex
    (type ≠ .GL_NONE ∧ f.mDrawBufferStates colorIndex ≠ none)
  mDrawBufferTypeMask : g.mDrawBufferTypeMask =
    SetComponentTypeMask (g.getDrawbufferWriteType formats colorIndex) colorIndex
      f.mDrawBufferTypeMask
  mColorAttachmentBits : g.mColorAttachmentBits =
    BitRange.setBit f.mColorAttachmentBits colorIndex resource.isSome
  mFloat32ColorAttachmentBits : g.mFloat32ColorAttachmentBits =
    BitRange.setBit f.mFloat32ColorAttachmentBits colorIndex
      (resource.any fun resource => (formats resource textureIndex).info.type = .GL_FLOAT)

theorem setsColor_setAttachmentImpl (f : Framebuffer) (formats : Formats) (type : AttachmentType)
    (colorIndex : Nat) (textureIndex : ImageIndex) (resource : Option Resource) :
    SetsColor formats f
      (f.setAttachmentImpl formats type (.GL_COLOR_ATTACHMENT colorIndex) textureIndex resource)
      type colorIndex textureIndex resource where
  wellFormed := fun caps h hcolor => by
    have hupdated := h.updateColorAttachment type hcolor textureIndex resource
    cases resource with
    | none => exact { hupdated with others := { hupdated.others with } }
    | some resource => exact { hupdated with others := { hupdated.others with } }
  mColorAttachments := fun index => by
    rw [← mColorAttachments_updateColorAttachment f type colorIndex textureIndex resource index]
    cases resource with
    | none => rfl
    | some resource => rfl
  mDrawBufferStates := by
    cases resource with
    | none => rfl
    | some resource => rfl
  mEnabledDrawBuffers := by
    cases resource with
    | none => rfl
    | some resource => rfl
  mDrawBufferTypeMask := by
    cases resource with
    | none => rfl
    | some resource => rfl
  mColorAttachmentBits := by
    cases resource with
    | none => rfl
    | some resource => rfl
  mFloat32ColorAttachmentBits := by
    cases resource with
    | none => rfl
    | some resource => rfl

variable {type : AttachmentType} {resource : Option Resource}

/-- The masks are exact about the colour itself, and about the others if they were before. -/
theorem SetsColor.exactAt {colorIndex : Nat} {textureIndex : ImageIndex}
    (h : SetsColor formats f g type colorIndex textureIndex resource)
    (hf : f.WellFormed caps) (hcolor : colorIndex < caps.maxColorAttachments)
    (htype : type = .GL_NONE ↔ resource = none) (hindex : index < IMPLEMENTATION_MAX_DRAW_BUFFERS)
    (hexact : index ≠ colorIndex → f.ExactAt formats index) : g.ExactAt formats index := by
  have hmasked : caps.maxDrawBuffers ≤ 8 := caps.masked
  have hdrawn := caps.drawn
  have hword : index < 8 := hindex
  have htypes : GetComponentTypeMask g.mDrawBufferTypeMask index =
      if index = colorIndex then g.getDrawbufferWriteType formats colorIndex
      else GetComponentTypeMask f.mDrawBufferTypeMask index := by
    rw [h.mDrawBufferTypeMask]
    exact getComponentTypeMask_set (by omega) (by omega) _ _
  have henabled := congrArg (BitVec.getLsbD · index) h.mEnabledDrawBuffers
  have hattached := congrArg (BitVec.getLsbD · index) h.mColorAttachmentBits
  have hfloat := congrArg (BitVec.getLsbD · index) h.mFloat32ColorAttachmentBits
  have hattachment := h.mColorAttachments index
  simp only [BitRange.getLsbD_setBit _ _ hindex] at henabled hattached hfloat
  by_cases hsame : index = colorIndex
  · subst hsame
    rw [if_pos rfl] at htypes henabled hattached hfloat hattachment
    constructor
    · rw [henabled, drawnAttachment, h.mDrawBufferStates, hattachment]
      cases f.mDrawBufferStates index with
      | none => simp
      | some state =>
        cases resource with
        | none => simp [htype, attach]
        | some resource => simp [htype, attach]
    · rw [htypes, getDrawbufferWriteType, (h.wellFormed caps hf hcolor).getDrawBuffer_eq]
    · rw [hattached, hattachment]
      exact isSome_map.symm
    · rw [hfloat, hattachment]
      cases resource with
      | none => simp [attach]
      | some resource =>
        rw [any_some, float32_iff]
        simp [attach, Attachment.getFormat]
  · rw [if_neg hsame] at htypes henabled hattached hfloat hattachment
    exact (hexact hsame).of_eq hattachment (by rw [h.mDrawBufferStates]) henabled htypes hattached
      hfloat

theorem WellFormed.setAttachment (h : f.WellFormed caps) (isWebGL1 : Bool) (formats : Formats)
    (type : AttachmentType) (hbinding : binding.valid caps)
    (textureIndex : ImageIndex) (resource : Option Resource) :
    (f.setAttachment isWebGL1 formats type binding textureIndex resource).WellFormed caps := by
  by_cases hcolor : ∃ colorIndex, binding = .GL_COLOR_ATTACHMENT colorIndex
  · obtain ⟨colorIndex, rfl⟩ := hcolor
    have hset := f.setsColor_setAttachmentImpl formats type colorIndex textureIndex resource
    have himpl := hset.wellFormed caps h (of_decide_eq_true hbinding)
    cases isWebGL1 with
    | false => exact himpl
    | true => exact himpl
  · exact (f.keepsColors_setAttachment isWebGL1 formats type (not_exists.mp hcolor) textureIndex
      resource).wellFormed h

theorem MasksExact.setAttachment (h : f.MasksExact formats) (hf : f.WellFormed caps)
    (isWebGL1 : Bool) (hbinding : binding.valid caps) (textureIndex : ImageIndex)
    (htype : type = .GL_NONE ↔ resource = none) :
    (f.setAttachment isWebGL1 formats type binding textureIndex resource).MasksExact formats := by
  intro index hindex
  by_cases hcolor : ∃ colorIndex, binding = .GL_COLOR_ATTACHMENT colorIndex
  · obtain ⟨colorIndex, rfl⟩ := hcolor
    have hset := f.setsColor_setAttachmentImpl formats type colorIndex textureIndex resource
    have himpl := hset.exactAt hf (of_decide_eq_true hbinding) htype hindex fun _ => h index hindex
    cases isWebGL1 with
    | false => exact himpl
    | true => exact himpl
  · exact (f.keepsColors_setAttachment isWebGL1 formats type (not_exists.mp hcolor) textureIndex
      resource).exactAt (h index hindex)

/-- The framebuffer is well formed and its masks tell the truth. -/
structure Sound (caps : Caps) (formats : Formats) (f : Framebuffer) : Prop where
  wellFormed : f.WellFormed caps
  masks : f.MasksExact formats

theorem Sound.setAttachment (h : f.Sound caps formats) (isWebGL1 : Bool)
    (hbinding : binding.valid caps) (textureIndex : ImageIndex)
    (htype : type = .GL_NONE ↔ resource = none) :
    (f.setAttachment isWebGL1 formats type binding textureIndex resource).Sound caps formats where
  wellFormed := h.wellFormed.setAttachment isWebGL1 formats type hbinding textureIndex resource
  masks := h.masks.setAttachment h.wellFormed isWebGL1 hbinding textureIndex htype

theorem Elsewhere.valid {attachment : Attachment} (h : Elsewhere (some attachment)) :
    attachment.mBinding.valid caps := by
  have hbinding := h attachment rfl
  cases hcase : attachment.mBinding with
  | GL_COLOR_ATTACHMENT colorIndex => exact absurd hcase (hbinding colorIndex)
  | GL_DEPTH_ATTACHMENT => rfl
  | GL_STENCIL_ATTACHMENT => rfl
  | GL_DEPTH_STENCIL_ATTACHMENT => rfl

theorem WellFormed.detachable_valid (h : f.WellFormed caps)
    {attachment : Framebuffer → Option Attachment} {attached : Attachment}
    (hmem : attachment ∈ detachableAttachments isWebGL1 caps.maxColorAttachments)
    (hattached : attachment f = some attached) : attached.mBinding.valid caps := by
  have helsewhere : Elsewhere (attachment f) → attached.mBinding.valid caps := fun hother =>
    Elsewhere.valid (hattached ▸ hother)
  rcases mem_append.mp hmem with hcolor | hother
  · obtain ⟨colorIndex, hlt, rfl⟩ := mem_map.mp hcolor
    rw [(h.limited colorIndex attached hattached).2]
    exact decide_eq_true (mem_range.mp hlt)
  · apply helsewhere
    cases isWebGL1 with
    | false =>
      rcases mem_pair.mp hother with rfl | rfl
      · exact h.others.depth
      · exact h.others.stencil
    | true =>
      rcases mem_cons.mp hother with rfl | hrest
      · exact h.others.webGLDepthStencil
      · rcases mem_pair.mp hrest with rfl | rfl
        · exact h.others.webGLDepth
        · exact h.others.webGLStencil

theorem Sound.detachMatchingAttachment (h : f.Sound caps formats) (isWebGL1 : Bool)
    {attachment : Option Attachment}
    (hvalid : ∀ attached, attachment = some attached → attached.mBinding.valid caps)
    (matchType : AttachmentType) (matchId : Nat) :
    (f.detachMatchingAttachment isWebGL1 formats attachment matchType matchId).1.Sound caps
      formats := by
  cases attachment with
  | none => exact h
  | some attached =>
    unfold Framebuffer.detachMatchingAttachment
    dsimp only
    split
    · exact h.setAttachment isWebGL1 (hvalid attached rfl) 0 (iff_of_true rfl rfl)
    · exact h

theorem Sound.detachResourceById (h : f.Sound caps formats) (isWebGL1 : Bool)
    (resourceType : AttachmentType) (resourceId : Nat) :
    (f.detachResourceById isWebGL1 caps formats resourceType resourceId).1.Sound caps formats := by
  apply foldlRecOn (motive := fun found : Framebuffer × Bool => found.1.Sound caps formats)
  · exact h
  · intro found hf attachment hmem
    have hvalid : ∀ attached, attachment found.1 = some attached →
        attached.mBinding.valid caps :=
      fun _ => hf.wellFormed.detachable_valid hmem
    exact hf.detachMatchingAttachment isWebGL1 hvalid resourceType resourceId

/-! ## Setting the draw buffers -/

/-- The loop of `setDrawBuffers` leaves this. -/
structure UpdatesDrawBuffers (formats : Formats) (indices : List Nat) (f g : Framebuffer) :
    Prop where
  mColorAttachments : g.mColorAttachments = f.mColorAttachments
  mDrawBufferStates : g.mDrawBufferStates = f.mDrawBufferStates
  mColorAttachmentBits : g.mColorAttachmentBits = f.mColorAttachmentBits
  mFloat32ColorAttachmentBits : g.mFloat32ColorAttachmentBits = f.mFloat32ColorAttachmentBits
  bindings : g.mDirtyColorAttachmentBindings = f.mDirtyColorAttachmentBindings
  others : f.OthersElsewhere → g.OthersElsewhere
  enabled : ∀ index < IMPLEMENTATION_MAX_DRAW_BUFFERS, g.mEnabledDrawBuffers.getLsbD index =
    (f.mEnabledDrawBuffers.getLsbD index ||
      decide (index ∈ indices) && (f.drawnAttachment index).isSome)
  type : ∀ index < IMPLEMENTATION_MAX_DRAW_BUFFERS,
    GetComponentTypeMask g.mDrawBufferTypeMask index =
      if index ∈ indices then f.getDrawbufferWriteType formats index
      else GetComponentTypeMask f.mDrawBufferTypeMask index

theorem isSome_drawnAttachment (f : Framebuffer) (index : Nat) :
    (f.drawnAttachment index).isSome = decide (f.mDrawBufferStates index ≠ none ∧
      (f.mColorAttachments index).isSome) := by
  unfold drawnAttachment
  cases f.mDrawBufferStates index with
  | none => simp
  | some state => simp

theorem updatesDrawBuffers_step (formats : Formats) (f : Framebuffer) {index : Nat}
    (hindex : index < IMPLEMENTATION_MAX_DRAW_BUFFERS) :
    UpdatesDrawBuffers formats [index] f (f.updateDrawBuffer formats index) where
  mColorAttachments := rfl
  mDrawBufferStates := rfl
  mColorAttachmentBits := rfl
  mFloat32ColorAttachmentBits := rfl
  bindings := rfl
  others := fun h => { h with }
  enabled := fun i hi => by
    unfold updateDrawBuffer
    by_cases hdrawn : f.mDrawBufferStates index ≠ none ∧ (f.mColorAttachments index).isSome
    · rw [if_pos hdrawn, BitRange.getLsbD_setBit _ _ hi]
      by_cases hsame : i = index
      · subst hsame
        rw [if_pos rfl, isSome_drawnAttachment, decide_eq_true hdrawn]
        simp
      · simp [hsame]
    · rw [if_neg hdrawn]
      by_cases hsame : i = index
      · subst hsame
        rw [isSome_drawnAttachment, decide_eq_false hdrawn, Bool.and_false, Bool.or_false]
      · simp [hsame]
  type := fun i hi => by
    have hword : index < 8 := hindex
    have hbit : i < 8 := hi
    have hset := getComponentTypeMask_set (show index < 16 by omega) (show i < 16 by omega)
      (f.getDrawbufferWriteType formats index) f.mDrawBufferTypeMask
    refine hset.trans ?_
    by_cases hsame : i = index
    · simp [hsame]
    · simp [hsame]

theorem updatesDrawBuffers_loop (formats : Formats) (indices : List Nat) (f : Framebuffer)
    (hindices : ∀ index ∈ indices, index < IMPLEMENTATION_MAX_DRAW_BUFFERS) :
    UpdatesDrawBuffers formats indices f
      (indices.foldl (fun f index => f.updateDrawBuffer formats index) f) := by
  induction indices generalizing f with
  | nil => exact ⟨rfl, rfl, rfl, rfl, rfl, id, fun _ _ => by simp, fun _ _ => by simp⟩
  | cons index rest ih =>
    have hstep := updatesDrawBuffers_step formats f (hindices index mem_cons_self)
    have hrest := ih (f.updateDrawBuffer formats index)
      fun i hmem => hindices i (mem_cons_of_mem _ hmem)
    rw [foldl_cons]
    exact {
      mColorAttachments := hrest.mColorAttachments.trans hstep.mColorAttachments
      mDrawBufferStates := hrest.mDrawBufferStates.trans hstep.mDrawBufferStates
      mColorAttachmentBits := hrest.mColorAttachmentBits.trans hstep.mColorAttachmentBits
      mFloat32ColorAttachmentBits :=
        hrest.mFloat32ColorAttachmentBits.trans hstep.mFloat32ColorAttachmentBits
      bindings := hrest.bindings.trans hstep.bindings
      others := fun h => hrest.others (hstep.others h)
      enabled := fun i hi => by
        have hdrawn : (f.updateDrawBuffer formats index).drawnAttachment i =
          f.drawnAttachment i := rfl
        rw [hrest.enabled i hi, hstep.enabled i hi, hdrawn, Bool.or_assoc,
          ← Bool.and_or_distrib_right]
        simp
      type := fun i hi => by
        have hwrite : (f.updateDrawBuffer formats index).getDrawbufferWriteType formats i =
          f.getDrawbufferWriteType formats i := rfl
        rw [hrest.type i hi, hstep.type i hi, hwrite]
        by_cases hfirst : i = index
        · simp [hfirst]
        · simp [hfirst] }

variable {buffers : List (Option Nat)}

theorem updatesDrawBuffers_setDrawBuffers (formats : Formats) (f : Framebuffer)
    (hlength : buffers.length ≤ caps.maxDrawBuffers) :
    UpdatesDrawBuffers formats (List.range buffers.length) (f.copyDrawBuffers buffers)
      (f.setDrawBuffers formats buffers) := by
  have hmasked := caps.masked
  apply updatesDrawBuffers_loop
  intro index hmem
  exact Nat.lt_of_lt_of_le (mem_range.mp hmem) (hlength.trans hmasked)

theorem WellFormed.copyDrawBuffers (h : f.WellFormed caps)
    (hvalid : validDrawBuffers caps buffers) : (f.copyDrawBuffers buffers).WellFormed caps where
  __ := h
  drawn := fun index colorIndex hstate => by
    have hnamed := (Bool.and_eq_true_iff.mp hvalid).2
    have hentry : buffers.getD index none = some colorIndex := hstate
    have hlt : index < buffers.length := by
      by_contra hge
      rw [getD_eq_getElem?_getD, getElem?_eq_none (Nat.le_of_not_lt hge)] at hentry
      contradiction
    have hallowed := all_eq_true.mp hnamed index (mem_range.mpr hlt)
    rw [hentry, all_some, decide_eq_true_eq] at hallowed
    exact hallowed
  others := { h.others with }

theorem getComponentTypeMask_zero (index : Nat) : GetComponentTypeMask 0#32 index = none := by
  unfold GetComponentTypeMask
  rw [BitVec.getLsbD_zero, BitVec.getLsbD_zero]

/-- A draw buffer that is not in the list is `GL_NONE`. -/
theorem drawnAttachment_copyDrawBuffers_of_ge
    (h : index ∉ List.range buffers.length) :
    (f.copyDrawBuffers buffers).drawnAttachment index = none := by
  have hlong : buffers.length ≤ index := Nat.le_of_not_lt fun hlt => h (mem_range.mpr hlt)
  apply if_pos
  show buffers.getD index none = none
  rw [getD_eq_getElem?_getD, getElem?_eq_none hlong, getD_none]

/-- Setting the draw buffers makes the masks of the draw buffers exact, whatever they were. -/
theorem Sound.setDrawBuffers (h : f.WellFormed caps)
    (hattached : ∀ index < IMPLEMENTATION_MAX_DRAW_BUFFERS,
      f.mColorAttachmentBits.getLsbD index = (f.mColorAttachments index).isSome)
    (hfloat : ∀ index < IMPLEMENTATION_MAX_DRAW_BUFFERS,
      f.mFloat32ColorAttachmentBits.getLsbD index ↔
        ∃ attachment, f.mColorAttachments index = some attachment ∧
          (attachment.getFormat formats).HasFloat32Components)
    (hvalid : validDrawBuffers caps buffers) :
    (f.setDrawBuffers formats buffers).Sound caps formats := by
  have hlength := of_decide_eq_true (Bool.and_eq_true_iff.mp hvalid).1
  have hcopied := h.copyDrawBuffers hvalid
  have hset := updatesDrawBuffers_setDrawBuffers formats f hlength
  generalize f.setDrawBuffers formats buffers = g at hset ⊢
  refine ⟨{
    drawn := by rw [hset.mDrawBufferStates]; exact hcopied.drawn
    limited := by rw [hset.mColorAttachments]; exact hcopied.limited
    observed := by rw [hset.bindings, hset.mColorAttachments]; exact hcopied.observed
    others := hset.others hcopied.others }, fun index hindex => ?_⟩
  have hdrawn : g.drawnAttachment index = (f.copyDrawBuffers buffers).drawnAttachment index := by
    rw [drawnAttachment, drawnAttachment, hset.mColorAttachments, hset.mDrawBufferStates]
  have hcleared : (f.copyDrawBuffers buffers).mEnabledDrawBuffers.getLsbD index = false :=
    BitVec.getLsbD_zero
  have huntyped : GetComponentTypeMask (f.copyDrawBuffers buffers).mDrawBufferTypeMask index =
      none := getComponentTypeMask_zero index
  constructor
  · rw [hset.enabled index hindex, hdrawn, hcleared, Bool.false_or]
    by_cases hmem : index ∈ range buffers.length
    · rw [decide_eq_true hmem, Bool.true_and]
    · rw [drawnAttachment_copyDrawBuffers_of_ge hmem, isSome_none, Bool.and_false]
  · rw [hset.type index hindex, hdrawn, getDrawbufferWriteType, hcopied.getDrawBuffer_eq]
    split
    · rfl
    case isFalse hmem =>
      rw [drawnAttachment_copyDrawBuffers_of_ge hmem, huntyped, map_none]
  · rw [hset.mColorAttachmentBits, hset.mColorAttachments]
    exact hattached index hindex
  · rw [hset.mFloat32ColorAttachmentBits, hset.mColorAttachments]
    exact hfloat index hindex

/-! ## New definitions of images -/

/-- Some colours have heard that their images have changed. -/
structure Notified (formats : Formats) (indices : List Nat) (f g : Framebuffer) : Prop where
  same : ∃ bits, g = { f with mFloat32ColorAttachmentBits := bits }
  float32 : ∀ index < IMPLEMENTATION_MAX_DRAW_BUFFERS,
    g.mFloat32ColorAttachmentBits.getLsbD index =
      match f.mColorAttachments index with
      | none => f.mFloat32ColorAttachmentBits.getLsbD index
      | some attachment =>
        if index ∈ indices then (attachment.getFormat formats).type = .GL_FLOAT
        else f.mFloat32ColorAttachmentBits.getLsbD index

theorem notified_step (formats : Formats) (f : Framebuffer) (colorIndex : Nat) :
    Notified formats [colorIndex] f (f.onSubjectStateChange formats colorIndex) := by
  unfold onSubjectStateChange
  split
  case h_1 hnone =>
    refine ⟨⟨_, rfl⟩, fun index _ => ?_⟩
    cases hattachment : f.mColorAttachments index with
    | none => rfl
    | some attachment =>
      have hother : index ≠ colorIndex := fun hsame =>
        absurd (hattachment.symm.trans (hsame ▸ hnone)) (some_ne_none attachment)
      simp [hother]
  case h_2 attachment hattachment =>
    refine ⟨⟨_, rfl⟩, fun index hindex => ?_⟩
    unfold updateFloat32ColorAttachmentBits
    rw [BitRange.getLsbD_setBit _ _ hindex]
    by_cases hsame : index = colorIndex
    · rw [hsame, hattachment]
      simp
    · cases f.mColorAttachments index with
      | none => simp [hsame]
      | some _ => simp [hsame]

theorem notified_loop (formats : Formats) (indices : List Nat) (f : Framebuffer) :
    Notified formats indices f
      (indices.foldl (fun f colorIndex => f.onSubjectStateChange formats colorIndex) f) := by
  induction indices generalizing f with
  | nil =>
    refine ⟨⟨_, rfl⟩, fun index _ => ?_⟩
    cases hattachment : f.mColorAttachments index with
    | none => rfl
    | some attachment => simp
  | cons colorIndex rest ih =>
    obtain ⟨⟨bits, hbits⟩, hstep⟩ := notified_step formats f colorIndex
    have hrest := ih (f.onSubjectStateChange formats colorIndex)
    rw [foldl_cons]
    generalize f.onSubjectStateChange formats colorIndex = mid at hbits hstep hrest ⊢
    obtain ⟨⟨bits', hbits'⟩, hlater⟩ := hrest
    refine ⟨⟨bits', hbits'.trans (by rw [hbits])⟩, fun index hindex => ?_⟩
    have hsame : mid.mColorAttachments = f.mColorAttachments := by rw [hbits]
    rw [hlater index hindex, hstep index hindex, hsame]
    cases hattachment : f.mColorAttachments index with
    | none => rfl
    | some attachment =>
      by_cases hfirst : index = colorIndex
      · simp [hfirst]
      · simp [hfirst]

theorem notified_notify (caps : Caps) (formats : Formats) (f : Framebuffer) (resource : Resource) :
    Notified formats ((List.range caps.maxColorAttachments).filter
      (fun colorIndex => f.mDirtyColorAttachmentBindings colorIndex = some resource)) f
      (f.notify caps formats resource) :=
  notified_loop formats _ f

theorem WellFormed.observes_iff (h : f.WellFormed caps) {attachment : Attachment}
    (hattachment : f.mColorAttachments index = some attachment) (resource : Resource) :
    index ∈ (List.range caps.maxColorAttachments).filter
        (fun colorIndex => f.mDirtyColorAttachmentBindings colorIndex = some resource) ↔
      attachment.mResource = resource := by
  have hlt := (h.limited index attachment hattachment).1
  rw [mem_filter, mem_range, decide_eq_true_eq, h.observed, hattachment, map_some,
    some_inj]
  exact and_iff_right hlt

theorem WellFormed.notify (h : f.WellFormed caps) (formats : Formats) (resource : Resource) :
    (f.notify caps formats resource).WellFormed caps := by
  obtain ⟨⟨bits, hbits⟩, -⟩ := notified_notify caps formats f resource
  rw [hbits]
  exact { h with others := { h.others with } }

theorem getFormat_update (attachment : Attachment) (formats : Formats) (resource : Resource)
    (images : ImageIndex → Format) :
    attachment.getFormat (update formats resource images) =
      if attachment.mResource = resource then (images attachment.mTextureIndex).info
      else attachment.getFormat formats := by
  unfold Attachment.getFormat
  rw [update_apply]
  split
  · rfl
  · rfl

theorem float32_getFormat (attachment : Attachment) (formats : Formats) :
    decide ((attachment.getFormat formats).type = .GL_FLOAT) = true ↔
      (attachment.getFormat formats).HasFloat32Components :=
  float32_iff (formats attachment.mResource attachment.mTextureIndex)

/-- The colours that a new definition concerns hear of it, so the mask of the floats is exact. -/
theorem ExactAt.notify_float32 (h : f.ExactAt formats index) (hf : f.WellFormed caps)
    (resource : Resource) (images : ImageIndex → Format)
    (hindex : index < IMPLEMENTATION_MAX_DRAW_BUFFERS) :
    (f.notify caps (update formats resource images)
        resource).mFloat32ColorAttachmentBits.getLsbD index ↔
      ∃ attachment, f.mColorAttachments index = some attachment ∧
        (attachment.getFormat (update formats resource images)).HasFloat32Components := by
  rw [(notified_notify caps _ f resource).float32 index hindex]
  have hbefore := h.float32
  cases hattachment : f.mColorAttachments index with
  | none =>
    rw [hattachment] at hbefore
    rw [hbefore]
    simp
  | some attachment =>
    rw [hattachment] at hbefore
    simp only [some_inj, exists_eq_left'] at hbefore ⊢
    by_cases hresource : attachment.mResource = resource
    · rw [if_pos ((hf.observes_iff hattachment resource).mpr hresource)]
      exact float32_getFormat attachment _
    · rw [if_neg (mt (hf.observes_iff hattachment resource).mp hresource), getFormat_update,
        if_neg hresource]
      exact hbefore

/-- After a new definition of its images every mask tells the truth about a colour but the mask of
the types, which tells it if the type of what is drawn to is the same as before. -/
theorem ExactAt.notify_iff (h : f.ExactAt formats index) (hf : f.WellFormed caps)
    (resource : Resource) (images : ImageIndex → Format)
    (hindex : index < IMPLEMENTATION_MAX_DRAW_BUFFERS) :
    (f.notify caps (update formats resource images) resource).ExactAt
        (update formats resource images) index ↔
      ∀ attachment, f.drawnAttachment index = some attachment → attachment.mResource = resource →
          writeType (images attachment.mTextureIndex).info =
            writeType (formats resource attachment.mTextureIndex).info := by
  obtain ⟨bits, hbits⟩ :=
    (notified_notify caps (update formats resource images) f resource).same
  have hfloat := h.notify_float32 hf resource images hindex
  generalize f.notify caps (update formats resource images) resource = g at hbits hfloat ⊢
  have hdrawn : g.drawnAttachment index = f.drawnAttachment index := by rw [hbits]; rfl
  have htype : GetComponentTypeMask g.mDrawBufferTypeMask index =
      (f.drawnAttachment index).map fun attachment => writeType (attachment.getFormat formats) := by
    rw [hbits]
    exact h.type
  constructor
  · intro hexact attachment hattachment hresource
    have hsame := htype.symm.trans hexact.type
    rw [hdrawn, hattachment, map_some, map_some, getFormat_update, if_pos hresource,
      some_inj] at hsame
    rw [← hsame, Attachment.getFormat, hresource]
  · intro hkeeps
    constructor
    · rw [hdrawn, ← h.enabled, hbits]
    · rw [htype, hdrawn]
      cases hattachment : f.drawnAttachment index with
      | none => rfl
      | some attachment =>
        rw [map_some, map_some, getFormat_update]
        split
        case isTrue hresource =>
          rw [hkeeps attachment hattachment hresource, Attachment.getFormat, hresource]
        case isFalse => rfl
    · rw [hbits]
      exact h.attached
    · have hcolors : g.mColorAttachments = f.mColorAttachments := by rw [hbits]
      rw [hcolors]
      exact hfloat

end Framebuffer

/-! ## Runs -/

variable {isWebGL1 : Bool} {caps : Caps} {s t : State} {a : Action}

def State.Sound (caps : Caps) (s : State) : Prop := s.framebuffer.Sound caps s.formats

theorem sound_initial (caps : Caps) (formats : Formats) : (initial formats).Sound caps where
  wellFormed := {
    drawn := fun index colorIndex hstate => by
      obtain ⟨hindex, hcolor⟩ := ite_none_right_eq_some.mp hstate
      subst hindex
      exact ⟨(some.inj hcolor).symm, caps.some⟩
    limited := fun _ _ hattachment => by contradiction
    observed := fun _ => rfl
    others := by
      have hnone : Elsewhere none := fun _ hattached => by contradiction
      exact ⟨hnone, hnone, hnone, hnone, hnone⟩ }
  masks := fun index _ => by
    have hdrawn : (initial formats).framebuffer.drawnAttachment index = none := by
      unfold Framebuffer.drawnAttachment
      split
      · rfl
      · rfl
    have hfloat : (initial formats).framebuffer.mFloat32ColorAttachmentBits.getLsbD index = false :=
      BitVec.getLsbD_zero
    constructor
    · rw [hdrawn]
      exact BitVec.getLsbD_zero
    · rw [hdrawn]
      exact Framebuffer.getComponentTypeMask_zero index
    · exact BitVec.getLsbD_zero
    · rw [hfloat]
      exact iff_of_false Bool.false_ne_true fun ⟨_, hattachment, _⟩ => by contradiction

/-- Every step but a new definition keeps the masks exact. -/
theorem step_sound (h : s.Sound caps) (hstep : step isWebGL1 caps s a = some t)
    (hother : ∀ resource images, a ≠ .redefine resource images) : t.Sound caps := by
  cases a with
  | setDrawBuffers buffers =>
    obtain ⟨hvalid, ⟨⟩⟩ := ite_none_right_eq_some.mp hstep
    exact Framebuffer.Sound.setDrawBuffers h.wellFormed (fun i hi => (h.masks i hi).attached)
      (fun i hi => (h.masks i hi).float32) hvalid
  | setAttachment binding textureIndex resource =>
    obtain ⟨⟨hbinding, htype⟩, ⟨⟩⟩ := ite_none_right_eq_some.mp hstep
    exact Framebuffer.Sound.setAttachment h isWebGL1 hbinding textureIndex
      (iff_of_false htype (some_ne_none resource))
  | resetAttachment binding =>
    obtain ⟨hbinding, ⟨⟩⟩ := ite_none_right_eq_some.mp hstep
    exact Framebuffer.Sound.setAttachment h isWebGL1 hbinding 0 (iff_of_true rfl rfl)
  | detachResourceById resourceType resourceId =>
    cases hstep
    exact Framebuffer.Sound.detachResourceById h isWebGL1 resourceType resourceId
  | redefine resource images => exact absurd rfl (hother resource images)

/-- From masks that tell the truth a step leads to masks that do exactly when it keeps the types of
what is drawn to. -/
theorem step_masksExact_iff (h : s.Sound caps) (hstep : step isWebGL1 caps s a = some t) :
    t.framebuffer.WellFormed caps ∧ (t.MasksExact ↔ keepsTypes s a) := by
  have hkept : t.Sound caps → keepsTypes s a →
      t.framebuffer.WellFormed caps ∧ (t.MasksExact ↔ keepsTypes s a) :=
    fun ht hkeeps => ⟨ht.wellFormed, iff_of_true ht.masks hkeeps⟩
  cases a with
  | setDrawBuffers buffers => exact hkept (step_sound h hstep fun _ _ => Action.noConfusion) trivial
  | setAttachment binding textureIndex resource =>
    exact hkept (step_sound h hstep fun _ _ => Action.noConfusion) trivial
  | resetAttachment binding =>
    exact hkept (step_sound h hstep fun _ _ => Action.noConfusion) trivial
  | detachResourceById resourceType resourceId =>
    exact hkept (step_sound h hstep fun _ _ => Action.noConfusion) trivial
  | redefine resource images =>
    cases hstep
    refine ⟨h.wellFormed.notify _ resource, ?_⟩
    exact forall₂_congr fun index hindex =>
      (h.masks index hindex).notify_iff h.wellFormed resource images hindex

theorem leavesExact_iff (h : s.Sound caps) (hstep : step isWebGL1 caps s a = some t) :
    leavesExact isWebGL1 caps s a ↔ keepsTypes s a := by
  rw [← (step_masksExact_iff h hstep).2]
  constructor
  · exact fun hleaves => hleaves t hstep
  · intro ht u hu
    rwa [← some.inj (hstep.symm.trans hu)]

/-- The masks of a new framebuffer tell the truth, and they do so after every step of a run exactly
when every new definition in it keeps the types of what is drawn to. -/
theorem run_masksExact_iff (isWebGL1 : Bool) (caps : Caps) (formats : Formats)
    (actions : List Action) (s : State) :
    (initial formats).MasksExact ∧
      (Run (step isWebGL1 caps) (leavesExact isWebGL1 caps) (initial formats) actions s ↔
        Run (step isWebGL1 caps) keepsTypes (initial formats) actions s) := by
  have hpres : ∀ s a t, s.Sound caps → keepsTypes s a → step isWebGL1 caps s a = some t →
      t.Sound caps := by
    intro s a t h hkeeps hstep
    obtain ⟨hwellFormed, hexact⟩ := step_masksExact_iff h hstep
    exact ⟨hwellFormed, hexact.mpr hkeeps⟩
  have hinit := sound_initial caps formats
  refine ⟨hinit.masks, Run.guard_congr_of_invariant ?_ hpres hinit⟩
  exact fun s a t h hstep => leavesExact_iff h hstep

/-! ## A texture that gets a format of integers -/

def exampleCaps : Caps := ⟨8, 8, by decide, by decide, by decide⟩

def rgba8 : Format := ⟨AddRGBAFormat 8 8 8 8 0 .GL_UNSIGNED_BYTE .GL_UNSIGNED_NORMALIZED, by decide⟩

def rgba8i : Format := ⟨AddRGBAFormat 8 8 8 8 0 .GL_BYTE .GL_INT, by decide⟩

def texture : Resource := ⟨0, .GL_TEXTURE, 1⟩

/-- A texture is attached to the first colour, and is then defined anew with a format of integers:
the mask of the types still has a float. -/
theorem not_masksExact_redefined :
    ∃ s, Run (step false exampleCaps) anyStep (initial fun _ _ => rgba8)
        [.setAttachment (.GL_COLOR_ATTACHMENT 0) 0 texture, .redefine texture fun _ => rgba8i] s ∧
      ¬ s.MasksExact := by
  refine ⟨_, Run.of_exec rfl, fun hexact => ?_⟩
  have htype := (hexact 0 (by decide)).type
  revert htype
  decide

end MetalAngle.Gl.FramebufferAttachments
