import MetalAngle.Gl.AttributeMasks
import MetalAngle.Gl.InternalFormats

/-!
# Attachments of framebuffers

The attachments of a framebuffer that is not the default one, its draw buffers and the masks that
are kept of them.
-/

namespace MetalAngle.Gl.FramebufferAttachments

open InternalFormats Linking LinkedProgram

abbrev IMPLEMENTATION_MAX_DRAW_BUFFERS : Nat := 8

abbrev DrawBufferMask := BitVec IMPLEMENTATION_MAX_DRAW_BUFFERS

abbrev ImageIndex := Nat

structure Caps where
  maxColorAttachments : Nat
  maxDrawBuffers : Nat
  some : 0 < maxColorAttachments
  drawn : maxColorAttachments ≤ maxDrawBuffers
  masked : maxDrawBuffers ≤ IMPLEMENTATION_MAX_DRAW_BUFFERS

inductive AttachmentType
  | GL_NONE | GL_TEXTURE | GL_RENDERBUFFER
deriving DecidableEq

structure Resource where
  object : Nat
  type : AttachmentType
  id : Nat
deriving DecidableEq

inductive Binding
  | GL_COLOR_ATTACHMENT (colorIndex : Nat)
  | GL_DEPTH_ATTACHMENT
  | GL_STENCIL_ATTACHMENT
  | GL_DEPTH_STENCIL_ATTACHMENT

abbrev Formats := Resource → ImageIndex → Format

structure Attachment where
  mType : AttachmentType
  mBinding : Binding
  mTextureIndex : ImageIndex
  mResource : Resource

def Attachment.getFormat (attachment : Attachment) (formats : Formats) : InternalFormat :=
  (formats attachment.mResource attachment.mTextureIndex).info

def attach (type : AttachmentType) (binding : Binding) (textureIndex : ImageIndex)
    (resource : Option Resource) : Option Attachment :=
  resource.map fun resource => ⟨type, binding, textureIndex, resource⟩

/-- A draw buffer is `GL_NONE` or the index of a colour attachment. -/
structure Framebuffer where
  mColorAttachments : Nat → Option Attachment := fun _ => none
  mDepthAttachment : Option Attachment := none
  mStencilAttachment : Option Attachment := none
  mWebGLDepthStencilAttachment : Option Attachment := none
  mWebGLDepthAttachment : Option Attachment := none
  mWebGLStencilAttachment : Option Attachment := none
  mWebGLDepthStencilConsistent : Bool := true
  mDrawBufferStates : Nat → Option Nat := fun index => if index = 0 then some 0 else none
  mEnabledDrawBuffers : DrawBufferMask := 0#8
  mDrawBufferTypeMask : BitVec 32 := 0#32
  mColorAttachmentBits : DrawBufferMask := 0#8
  mFloat32ColorAttachmentBits : DrawBufferMask := 0#8
  mDirtyColorAttachmentBindings : Nat → Option Resource := fun _ => none

def writeType (format : InternalFormat) : ComponentType :=
  match format.componentType with
  | .GL_INT => .int
  | .GL_UNSIGNED_INT => .unsignedInt
  | _ => .float

namespace Framebuffer

variable (f : Framebuffer)

def getDrawBuffer (drawBufferIdx : Nat) : Option Attachment :=
  (f.mDrawBufferStates drawBufferIdx).bind f.mColorAttachments

def getDrawbufferWriteType (formats : Formats) (drawBuffer : Nat) : Option ComponentType :=
  (f.getDrawBuffer drawBuffer).map fun attachment => writeType (attachment.getFormat formats)

/-- One step of the loop of `setDrawBuffers`. -/
def updateDrawBuffer (formats : Formats) (index : Nat) : Framebuffer :=
  { f with
    mDrawBufferTypeMask :=
      SetComponentTypeMask (f.getDrawbufferWriteType formats index) index f.mDrawBufferTypeMask
    mEnabledDrawBuffers :=
      if f.mDrawBufferStates index ≠ none ∧ (f.mColorAttachments index).isSome then
        BitRange.setBit f.mEnabledDrawBuffers index true
      else f.mEnabledDrawBuffers }

/-- What `setDrawBuffers` does before its loop. -/
def copyDrawBuffers (buffers : List (Option Nat)) : Framebuffer :=
  { f with
    mDrawBufferStates := fun index => buffers.getD index none
    mEnabledDrawBuffers := 0#8
    mDrawBufferTypeMask := 0#32 }

def setDrawBuffers (formats : Formats) (buffers : List (Option Nat)) : Framebuffer :=
  (List.range buffers.length).foldl (fun f index => f.updateDrawBuffer formats index)
    (f.copyDrawBuffers buffers)

def updateFloat32ColorAttachmentBits (index : Nat) (format : InternalFormat) : Framebuffer :=
  { f with
    mFloat32ColorAttachmentBits :=
      BitRange.setBit f.mFloat32ColorAttachmentBits index (format.type = .GL_FLOAT) }

/-- `updateAttachment` for a colour attachment. -/
def updateColorAttachment (type : AttachmentType) (colorIndex : Nat) (textureIndex : ImageIndex)
    (resource : Option Resource) : Framebuffer :=
  { f with
    mColorAttachments := Function.update f.mColorAttachments colorIndex
      (attach type (.GL_COLOR_ATTACHMENT colorIndex) textureIndex resource)
    mDirtyColorAttachmentBindings :=
      Function.update f.mDirtyColorAttachmentBindings colorIndex resource }

section

variable (formats : Formats)

def updateColorBits (colorIndex : Nat) (textureIndex : ImageIndex) :
    Option Resource → Framebuffer
  | none =>
    { f with
      mColorAttachmentBits := BitRange.setBit f.mColorAttachmentBits colorIndex false
      mFloat32ColorAttachmentBits :=
        BitRange.setBit f.mFloat32ColorAttachmentBits colorIndex false }
  | some resource =>
    { f with
      mColorAttachmentBits := BitRange.setBit f.mColorAttachmentBits colorIndex true
      }.updateFloat32ColorAttachmentBits colorIndex (formats resource textureIndex).info

def updateDrawBufferBits (type : AttachmentType) (colorIndex : Nat) :
    Framebuffer :=
  { f with
    mEnabledDrawBuffers := BitRange.setBit f.mEnabledDrawBuffers colorIndex
      (type ≠ .GL_NONE ∧ f.mDrawBufferStates colorIndex ≠ none)
    mDrawBufferTypeMask :=
      SetComponentTypeMask (f.getDrawbufferWriteType formats colorIndex) colorIndex
        f.mDrawBufferTypeMask }

def setAttachmentImpl (type : AttachmentType) (binding : Binding)
    (textureIndex : ImageIndex) (resource : Option Resource) : Framebuffer :=
  match binding with
  | .GL_DEPTH_STENCIL_ATTACHMENT =>
    { f with
      mDepthAttachment := attach type binding textureIndex resource
      mStencilAttachment := attach type binding textureIndex resource }
  | .GL_DEPTH_ATTACHMENT =>
    { f with mDepthAttachment := attach type binding textureIndex resource }
  | .GL_STENCIL_ATTACHMENT =>
    { f with mStencilAttachment := attach type binding textureIndex resource }
  | .GL_COLOR_ATTACHMENT colorIndex =>
    ((f.updateColorAttachment type colorIndex textureIndex resource).updateColorBits formats
      colorIndex textureIndex resource).updateDrawBufferBits formats type colorIndex

/-- `setAttachmentImpl` for what is attached at another point, detached where nothing is. -/
def setAttachmentFrom (binding : Binding) (attachment : Option Attachment) :
    Framebuffer :=
  match attachment with
  | none => f.setAttachmentImpl formats .GL_NONE binding 0 none
  | some attachment =>
    let textureIndex := if attachment.mType = .GL_TEXTURE then attachment.mTextureIndex else 0
    f.setAttachmentImpl formats attachment.mType binding textureIndex (some attachment.mResource)

def commitWebGL1DepthStencilIfConsistent : Framebuffer :=
  let attachments :=
    [f.mWebGLDepthStencilAttachment, f.mWebGLDepthAttachment, f.mWebGLStencilAttachment]
  let f := { f with
    mWebGLDepthStencilConsistent := (attachments.countP (·.isSome)) ≤ 1 }
  if !f.mWebGLDepthStencilConsistent then f
  else if f.mWebGLDepthAttachment.isSome then
    (f.setAttachmentFrom formats .GL_DEPTH_ATTACHMENT f.mWebGLDepthAttachment).setAttachmentFrom
      formats .GL_STENCIL_ATTACHMENT none
  else if f.mWebGLStencilAttachment.isSome then
    (f.setAttachmentFrom formats .GL_DEPTH_ATTACHMENT none).setAttachmentFrom
      formats .GL_STENCIL_ATTACHMENT f.mWebGLStencilAttachment
  else
    (f.setAttachmentFrom formats .GL_DEPTH_ATTACHMENT
      f.mWebGLDepthStencilAttachment).setAttachmentFrom
      formats .GL_STENCIL_ATTACHMENT f.mWebGLDepthStencilAttachment

end

section

variable (isWebGL1 : Bool)

def setAttachment (formats : Formats) (type : AttachmentType)
    (binding : Binding) (textureIndex : ImageIndex) (resource : Option Resource) : Framebuffer :=
  if !isWebGL1 then f.setAttachmentImpl formats type binding textureIndex resource
  else
    match binding with
    | .GL_DEPTH_STENCIL_ATTACHMENT =>
      { f with
        mWebGLDepthStencilAttachment := attach type binding textureIndex resource
        }.commitWebGL1DepthStencilIfConsistent formats
    | .GL_DEPTH_ATTACHMENT =>
      { f with
        mWebGLDepthAttachment := attach type binding textureIndex resource
        }.commitWebGL1DepthStencilIfConsistent formats
    | .GL_STENCIL_ATTACHMENT =>
      { f with
        mWebGLStencilAttachment := attach type binding textureIndex resource
        }.commitWebGL1DepthStencilIfConsistent formats
    | .GL_COLOR_ATTACHMENT _ => f.setAttachmentImpl formats type binding textureIndex resource

def resetAttachment (formats : Formats) (binding : Binding) : Framebuffer :=
  f.setAttachment isWebGL1 formats .GL_NONE binding 0 none

def detachMatchingAttachment (formats : Formats) (attachment : Option Attachment)
    (matchType : AttachmentType) (matchId : Nat) : Framebuffer × Bool :=
  match attachment with
  | none => (f, false)
  | some attachment =>
    if attachment.mType = matchType ∧ attachment.mResource.id = matchId then
      (f.resetAttachment isWebGL1 formats attachment.mBinding, true)
    else (f, false)

/-- The attachments besides the colours that `detachResourceById` looks at. -/
def otherAttachments : List (Framebuffer → Option Attachment) :=
  if isWebGL1 then [mWebGLDepthStencilAttachment, mWebGLDepthAttachment, mWebGLStencilAttachment]
  else [mDepthAttachment, mStencilAttachment]

/-- The attachments that `detachResourceById` looks at, one after the other. -/
def detachableAttachments (maxColorAttachments : Nat) :
    List (Framebuffer → Option Attachment) :=
  (List.range maxColorAttachments).map (fun colorIndex f => f.mColorAttachments colorIndex) ++
    otherAttachments isWebGL1

def detachResourceById (caps : Caps) (formats : Formats)
    (resourceType : AttachmentType) (resourceId : Nat) : Framebuffer × Bool :=
  (detachableAttachments isWebGL1 caps.maxColorAttachments).foldl
    (fun (f, found) attachment =>
      let (f, detached) :=
        f.detachMatchingAttachment isWebGL1 formats (attachment f) resourceType resourceId
      (f, found || detached))
    (f, false)

end

/-- `onSubjectStateChange` for `SubjectChanged` of a colour attachment. -/
def onSubjectStateChange (formats : Formats) (colorIndex : Nat) : Framebuffer :=
  match f.mColorAttachments colorIndex with
  | none => f
  | some attachment =>
    f.updateFloat32ColorAttachmentBits colorIndex (attachment.getFormat formats)

def notify (caps : Caps) (formats : Formats) (resource : Resource) : Framebuffer :=
  ((List.range caps.maxColorAttachments).filter
    (fun colorIndex => f.mDirtyColorAttachmentBindings colorIndex = some resource)).foldl
    (fun f colorIndex => f.onSubjectStateChange formats colorIndex) f

end Framebuffer

end MetalAngle.Gl.FramebufferAttachments
