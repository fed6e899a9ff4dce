import MetalAngle.Gl.Texture

/-!
# Operations of textures

The operations that define, write and read the images of textures, each with the calls of it that
may fail, and the steps of a context that are made of them.
-/

namespace MetalAngle.Gl.Textures

structure World where
  isRobustResourceInitEnabled : Bool
  contexts : ContextID → ContextState
  samplers : SamplerID → SamplerState
  textures : TextureID → Texture

namespace World

abbrev Op := Fallible World

open Fallible

def modify (id : TextureID) (f : Texture → Texture) (w : World) : World :=
  { w with textures := Function.update w.textures id (f (w.textures id)) }

def onTexture (id : TextureID) (f : Texture → Texture) : Op := update (modify id f)

/-! ## Initialization and release -/

def initializeContents (b : Backend) (id : TextureID) (target : TextureTarget) (level : Nat) : Op :=
  onTexture id (·.erase target level) >> attempt (b.initializeContents target level)

def releaseTexImageFromSurface (b : Backend) (id : TextureID) : Op :=
  onTexture id (fun t => { t with mBoundSurface := false }) >>
  attempt b.releaseTexImage >>
  onTexture id fun t =>
    ((t.clearImageDesc (.nonCube t.mType) 0).markWritten (.nonCube t.mType) 0 false)
      |>.signalDirtyStorage .Initialized

def releaseTexImageInternal (b : Backend) (id : TextureID) : Op :=
  ofState fun w => when (w.textures id).mBoundSurface (releaseTexImageFromSurface b id)

def orphanImages (b : Backend) (id : TextureID) : Op :=
  attempt b.orphanImages >> onTexture id fun t => { t with mTargetOf := false }

def images (type : TextureType) : List (TextureTarget × Nat) :=
  (List.range (IMPLEMENTATION_MAX_TEXTURE_LEVELS + 1)).flatMap fun level =>
    type.targets.map fun target => (target, level)

def needsInit (t : Texture) (target : TextureTarget) (level : Nat) : Bool :=
  (t.mImageDescs target level).initState = .MayNeedInit

def ensureImageInitialized (b : Backend) (id : TextureID) (image : TextureTarget × Nat) : Op :=
  ofState fun w => when (needsInit (w.textures id) image.1 image.2)
    (initializeContents b id image.1 image.2 >>
      onTexture id (·.setInitState ⟨some image.1, image.2⟩ .Initialized))

def mayNeedInit (w : World) (id : TextureID) : Bool :=
  w.isRobustResourceInitEnabled ∧ (w.textures id).mInitState ≠ .Initialized

def ensureInitialized (b : Backend) (id : TextureID) : Op :=
  ofState fun w => when (w.mayNeedInit id)
    (let type := (w.textures id).mType
     let anyDirty := (images type).any fun image => needsInit (w.textures id) image.1 image.2
     forEach (images type) (ensureImageInitialized b id) >>
     onTexture id fun t =>
       { (if anyDirty then t.signalDirtyStorage .Initialized else t) with
         mInitState := .Initialized })

def coversWholeImage (size : Extents) (area : Box) : Bool :=
  area.x = 0 ∧ area.y = 0 ∧ area.z = 0 ∧ area.width = size.width ∧ area.height = size.height ∧
    area.depth = size.depth

def ensureSubImageInitialized (b : Backend) (id : TextureID) (target : TextureTarget) (level : Nat)
    (area : Box) : Op :=
  ofState fun w =>
    let desc := (w.textures id).mImageDescs target level
    when (w.mayNeedInit id && needsInit (w.textures id) target level)
      (when (!coversWholeImage desc.size area) (initializeContents b id target level) >>
        onTexture id (·.setInitState ⟨some target, level⟩ .Initialized))

/-! ## Mipmaps -/

def initializeBase (b : Backend) (id : TextureID) (level : Nat) (target : TextureTarget) : Op :=
  ofState fun w => when (needsInit (w.textures id) target level)
    (initializeContents b id target level)

def describeMipmap (t : Texture) : Texture :=
  let base := t.baseImageDesc
  let baseLevel := t.getEffectiveBaseLevel
  let maxLevel := t.getMipmapMaxLevel
  ((t.setImageDescChain baseLevel maxLevel base.size base.format .Initialized).markLevels
    (baseLevel + 1) maxLevel true).signalDirtyStorage .Initialized

def generateMipmap (b : Backend) (id : TextureID) : Op :=
  releaseTexImageInternal b id >>
  ofState (fun w => when (!(w.textures id).computeMipmapCompleteness) (orphanImages b id)) >>
  ofState fun w =>
    let t := w.textures id
    when (t.getEffectiveBaseLevel < t.getMipmapMaxLevel)
      (attempt b.syncState >>
       when w.isRobustResourceInitEnabled
         (forEach t.mType.targets (initializeBase b id t.getEffectiveBaseLevel)) >>
       attempt b.generateMipmap >>
       onTexture id describeMipmap)

def handleMipmapGenerationHint (b : Backend) (id : TextureID) (level : Nat) : Op :=
  ofState fun w => when ((w.textures id).mGenerateMipmapHint && level = 0) (generateMipmap b id)

/-! ## Images -/

def determineInitState (w : World) (hasPixels : Bool) : InitState :=
  if w.isRobustResourceInitEnabled ∧ ¬ hasPixels then .MayNeedInit else .Initialized

def defineImage (id : TextureID) (target : TextureTarget) (level : Nat) (desc : ImageDesc)
    (written : Bool) : Op :=
  onTexture id fun t => (t.setImageDesc target level desc).markWritten target level written

def signalDirtyStorage (id : TextureID) (initState : InitState) : Op :=
  onTexture id (·.signalDirtyStorage initState)

section

variable (b : Backend)

def releaseAndOrphan (id : TextureID) : Op :=
  releaseTexImageInternal b id >> orphanImages b id

def setImage (id : TextureID) (target : TextureTarget) (level : Nat) (size : Extents)
    (format : InternalFormat) (hasPixels : Bool) : Op :=
  releaseAndOrphan b id >>
  attempt b.call >>
  ofState (fun w => defineImage id target level (.new size format (w.determineInitState hasPixels))
    hasPixels) >>
  handleMipmapGenerationHint b id level >>
  ofState fun w => signalDirtyStorage id (w.determineInitState hasPixels)

def setCompressedImage (id : TextureID) (target : TextureTarget) (level : Nat)
    (size : Extents) (format : InternalFormat) (hasPixels : Bool) : Op :=
  releaseAndOrphan b id >>
  attempt b.call >>
  ofState (fun w => defineImage id target level (.new size format (w.determineInitState hasPixels))
    hasPixels) >>
  ofState fun w => signalDirtyStorage id (w.determineInitState hasPixels)

def setImageExternal (id : TextureID) (target : TextureTarget) (level : Nat)
    (size : Extents) (format : InternalFormat) : Op :=
  releaseAndOrphan b id >>
  attempt b.call >>
  defineImage id target level (.new size format .Initialized) true >>
  handleMipmapGenerationHint b id level >>
  signalDirtyStorage id .Initialized

def setSubImage (id : TextureID) (target : TextureTarget) (level : Nat) (area : Box) :
    Op :=
  ensureSubImageInitialized b id target level area >>
  attempt b.call >>
  onTexture id (·.markWritten target level true) >>
  handleMipmapGenerationHint b id level

def setCompressedSubImage (id : TextureID) (target : TextureTarget) (level : Nat)
    (area : Box) : Op :=
  ensureSubImageInitialized b id target level area >>
  attempt b.call >>
  onTexture id (·.markWritten target level true)

def copyImage (id : TextureID) (target : TextureTarget) (level width height : Nat)
    (format : InternalFormat) : Op :=
  releaseAndOrphan b id >>
  ensureSubImageInitialized b id target level ⟨0, 0, 0, width, height, 1⟩ >>
  attempt b.call >>
  defineImage id target level (.new ⟨width, height, 1⟩ format .Initialized) true >>
  handleMipmapGenerationHint b id level >>
  signalDirtyStorage id .Initialized

def copySubImage (id : TextureID) (target : TextureTarget) (level : Nat)
    (area : Box) : Op :=
  setSubImage b id target level area

def copyTexture (id : TextureID) (target : TextureTarget) (level : Nat)
    (format : InternalFormat) (source : TextureID) (_sourceLevel : Nat) : Op :=
  releaseAndOrphan b id >>
  ensureInitialized b source >>
  attempt b.call >>
  ofState (fun w =>
    let sourceDesc := (w.textures source).mImageDescs (.nonCube (w.textures source).mType) 0
    defineImage id target level (.new sourceDesc.size format .Initialized) true) >>
  signalDirtyStorage id .Initialized

def copySubTexture (id : TextureID) (target : TextureTarget) (level : Nat) (area : Box)
    (source : TextureID) : Op :=
  ensureInitialized b source >>
  setCompressedSubImage b id target level area

/-- The description of the source is taken with its state, and no cache is invalidated.  Nothing is
written by the copy of an image that has to be initialized. -/
def copyCompressedTexture (id source : TextureID) : Op :=
  releaseAndOrphan b id >>
  attempt b.call >>
  ofState fun w =>
    let sourceDesc := (w.textures source).mImageDescs (.nonCube (w.textures source).mType) 0
    defineImage id (.nonCube (w.textures id).mType) 0 sourceDesc
      (sourceDesc.initState = .Initialized)

end

/-! ## Storage -/

def makeImmutable (levels : Nat) (t : Texture) : Texture :=
  { t with mImmutableFormat := true, mImmutableLevels := levels }

def describeStorage (levels : Nat) (size : Extents) (format : InternalFormat) (t : Texture) :
    Texture :=
  { t.clearImageDescs.setImageDescChain 0 (levels - 1) size format .MayNeedInit with
    mWritten := fun _ _ => false }

section

variable (b : Backend)

def setStorage (id : TextureID) (levels : Nat) (size : Extents)
    (format : InternalFormat) : Op :=
  releaseAndOrphan b id >>
  onTexture id (makeImmutable levels) >>
  attempt b.call >>
  onTexture id (describeStorage levels size format) >>
  signalDirtyStorage id .MayNeedInit

def setStorageExternalMemory (id : TextureID) (levels : Nat) (size : Extents)
    (format : InternalFormat) : Op :=
  releaseAndOrphan b id >>
  attempt b.call >>
  onTexture id (makeImmutable levels) >>
  onTexture id (describeStorage levels size format) >>
  signalDirtyStorage id .Initialized

def setStorageMultisample (id : TextureID) (samples : Nat) (size : Extents)
    (format : InternalFormat) (fixedSampleLocations : Bool) : Op :=
  releaseAndOrphan b id >>
  attempt b.call >>
  onTexture id (makeImmutable 1) >>
  onTexture id (fun t =>
    { t.clearImageDescs.setImageDesc (.nonCube t.mType) 0
        ⟨size, format, samples, fixedSampleLocations, .MayNeedInit⟩ with
      mWritten := fun _ _ => false }) >>
  signalDirtyStorage id .MayNeedInit

def bindTexImageFromSurface (id : TextureID) (size : Extents)
    (format : InternalFormat) : Op :=
  releaseTexImageInternal b id >>
  attempt b.call >>
  onTexture id (fun t => { t with mBoundSurface := true }) >>
  ofState (fun w => defineImage id (.nonCube (w.textures id).mType) 0
    (.new ⟨size.width, size.height, 1⟩ format .Initialized) true) >>
  signalDirtyStorage id .Initialized

def acquireImageFromStream (id : TextureID) (size : Extents)
    (format : InternalFormat) : Op :=
  attempt b.call >>
  ofState (fun w => defineImage id (.nonCube (w.textures id).mType) 0
    (.new ⟨size.width, size.height, 1⟩ format .Initialized) true) >>
  signalDirtyStorage id .Initialized

def releaseImageFromStream (id : TextureID) : Op :=
  attempt b.call >>
  ofState (fun w => defineImage id (.nonCube (w.textures id).mType) 0 .none false) >>
  signalDirtyStorage id .Initialized

end

def describeEGLImage (size : Extents) (format : InternalFormat) (initState : InitState)
    (t : Texture) : Texture :=
  { t.clearImageDescs.setImageDescLevel 0 (.new ⟨size.width, size.height, 1⟩ format initState) with
    mWritten := fun _ level => level = 0 ∧ initState = .Initialized
    mTargetOf := true }

def setEGLImageTarget (b : Backend) (id : TextureID) (size : Extents) (format : InternalFormat)
    (initState : InitState) : Op :=
  releaseAndOrphan b id >>
  attempt b.call >>
  onTexture id (describeEGLImage size format initState) >>
  signalDirtyStorage id initState

/-! ## Attachments -/

def targetsOf (t : Texture) (index : ImageIndex) : List TextureTarget :=
  index.target.elim t.mType.targets fun target => [target]

def initAttachment (b : Backend) (id : TextureID) (index : ImageIndex) : Op :=
  ofState fun w => when ((w.textures id).initState index = .MayNeedInit)
    (forEach (targetsOf (w.textures id) index)
        (fun target => initializeContents b id target index.level) >>
      onTexture id (·.setInitState index .Initialized))

def markAttachmentInitialized (id : TextureID) (index : ImageIndex) : Op :=
  onTexture id fun t =>
    (targetsOf t index).foldl (fun t target => t.markWritten target index.level true)
      (t.setInitState index .Initialized)

/-! ## Steps -/

inductive Action
  | setImage (id : TextureID) (target : TextureTarget) (level : Nat) (size : Extents)
      (format : InternalFormat) (hasPixels : Bool)
  | setSubImage (id : TextureID) (target : TextureTarget) (level : Nat) (area : Box)
  | setCompressedImage (id : TextureID) (target : TextureTarget) (level : Nat) (size : Extents)
      (format : InternalFormat) (hasPixels : Bool)
  | setCompressedSubImage (id : TextureID) (target : TextureTarget) (level : Nat) (area : Box)
  | setImageExternal (id : TextureID) (target : TextureTarget) (level : Nat) (size : Extents)
      (format : InternalFormat)
  | copyImage (id : TextureID) (target : TextureTarget) (level width height : Nat)
      (format : InternalFormat)
  | copySubImage (id : TextureID) (target : TextureTarget) (level : Nat) (area : Box)
  | copyTexture (id : TextureID) (target : TextureTarget) (level : Nat) (format : InternalFormat)
      (source : TextureID) (sourceLevel : Nat)
  | copySubTexture (id : TextureID) (target : TextureTarget) (level : Nat) (area : Box)
      (source : TextureID)
  | copyCompressedTexture (id source : TextureID)
  | setStorage (id : TextureID) (levels : Nat) (size : Extents) (format : InternalFormat)
  | setStorageExternalMemory (id : TextureID) (levels : Nat) (size : Extents)
      (format : InternalFormat)
  | setStorageMultisample (id : TextureID) (samples : Nat) (size : Extents)
      (format : InternalFormat) (fixedSampleLocations : Bool)
  | generateMipmap (id : TextureID)
  | bindTexImageFromSurface (id : TextureID) (size : Extents) (format : InternalFormat)
  | releaseTexImageFromSurface (id : TextureID)
  | acquireImageFromStream (id : TextureID) (size : Extents) (format : InternalFormat)
  | releaseImageFromStream (id : TextureID)
  | setEGLImageTarget (id : TextureID) (size : Extents) (format : InternalFormat)
      (initState : InitState)
  | initAttachment (id : TextureID) (index : ImageIndex)
  | markAttachmentInitialized (id : TextureID) (index : ImageIndex)
  | ensureInitialized (id : TextureID)
  -- The back end resolves a texture, or tells of another change.
  | onContentsChanged (id : TextureID)
  | onSubjectChanged (id : TextureID)
  -- Another sibling of the EGL image is written.
  | writeSibling (id : TextureID)
  | samplerParameter (id : TextureID) (parameter : SamplerParameter)
  | setBaseLevel (id : TextureID) (baseLevel : Nat)
  | setMaxLevel (id : TextureID) (maxLevel : Nat)
  | setDepthStencilTextureMode (id : TextureID) (stencil : Bool)
  | setGenerateMipmapHint (id : TextureID) (hint : Bool)
  | setSamplerObject (sampler : SamplerID) (parameter : SamplerParameter)
  | requestExtension (context : ContextID) (extended : ContextState)
  -- A context takes the place of one that is gone.
  | newContext (context : ContextID) (created : ContextState)
  | isSamplerComplete (id : TextureID) (context : ContextID) (sampler : Option SamplerID)
  | compatibleWithSamplerFormat (id : TextureID) (sampler : Option SamplerID)

def samplerState (w : World) (id : TextureID) (sampler : Option SamplerID) : SamplerState :=
  sampler.elim (w.textures id).mSamplerState w.samplers

def setBaseLevel (b : Backend) (id : TextureID) (baseLevel : Nat) : Op :=
  ofState fun w => when ((w.textures id).mBaseLevel ≠ baseLevel)
    (onTexture id (fun t => { t with mBaseLevel := baseLevel }) >>
      attempt b.call >>
      onTexture id (·.signalDirtyState))

def operation (b : Backend) : Action → Op
  | .setImage id target level size format hasPixels =>
      setImage b id target level size format hasPixels
  | .setSubImage id target level area => setSubImage b id target level area
  | .setCompressedImage id target level size format hasPixels =>
      setCompressedImage b id target level size format hasPixels
  | .setCompressedSubImage id target level area => setCompressedSubImage b id target level area
  | .setImageExternal id target level size format => setImageExternal b id target level size format
  | .copyImage id target level width height format => copyImage b id target level width height format
  | .copySubImage id target level area => copySubImage b id target level area
  | .copyTexture id target level format source sourceLevel =>
      copyTexture b id target level format source sourceLevel
  | .copySubTexture id target level area source => copySubTexture b id target level area source
  | .copyCompressedTexture id source => copyCompressedTexture b id source
  | .setStorage id levels size format => setStorage b id levels size format
  | .setStorageExternalMemory id levels size format =>
      setStorageExternalMemory b id levels size format
  | .setStorageMultisample id samples size format fixedSampleLocations =>
      setStorageMultisample b id samples size format fixedSampleLocations
  | .generateMipmap id => generateMipmap b id
  | .bindTexImageFromSurface id size format => bindTexImageFromSurface b id size format
  | .releaseTexImageFromSurface id => releaseTexImageFromSurface b id
  | .acquireImageFromStream id size format => acquireImageFromStream b id size format
  | .releaseImageFromStream id => releaseImageFromStream b id
  | .setEGLImageTarget id size format initState => setEGLImageTarget b id size format initState
  | .initAttachment id index => initAttachment b id index
  | .markAttachmentInitialized id index => markAttachmentInitialized id index
  | .ensureInitialized id => ensureInitialized b id
  | .setBaseLevel id baseLevel => setBaseLevel b id baseLevel
  | .setSamplerObject sampler parameter =>
      update fun w =>
        { w with
          samplers :=
            Function.update w.samplers sampler ((w.samplers sampler).set parameter) }
  | .newContext context created =>
      update fun w => { w with contexts := Function.update w.contexts context created }
  | .requestExtension context extended =>
      update fun w =>
        { w with
          contexts := Function.update w.contexts context extended
          textures := fun id => (w.textures id).signalDirtyStorage .MayNeedInit }
  | .isSamplerComplete id context sampler =>
      ofState fun w => onTexture id
        (·.isSamplerComplete context (w.contexts context) (w.samplerState id sampler))
  | .compatibleWithSamplerFormat id sampler =>
      ofState fun w => onTexture id (·.requireSamplerFormat (w.samplerState id sampler))
  | .onContentsChanged id => signalDirtyStorage id .Initialized
  | .onSubjectChanged id => onTexture id (·.signalDirtyState)
  | .writeSibling id => onTexture id (·.markLevels 0 0 true)
  | .samplerParameter id parameter => onTexture id (·.setSamplerParameter parameter)
  | .setMaxLevel id maxLevel => onTexture id (·.setMaxLevel maxLevel)
  | .setDepthStencilTextureMode id stencil => onTexture id (·.setDepthStencilTextureMode stencil)
  | .setGenerateMipmapHint id hint => onTexture id fun t => { t with mGenerateMipmapHint := hint }

section

variable (w : World)

def validImage (id : TextureID) (target : TextureTarget) (level : Nat) : Bool :=
  target ∈ (w.textures id).mType.targets ∧ level < IMPLEMENTATION_MAX_TEXTURE_LEVELS ∧
    (w.textures id).mType.isMultisampled = false

def validRedefinition (id : TextureID) (target : TextureTarget) (level : Nat)
    (size : Extents) : Bool :=
  w.validImage id target level ∧ (w.textures id).mImmutableFormat = false ∧
    (size.depth = 1 ∨ (w.textures id).mType.hasDepth)

def validStorage (id : TextureID) (size : Extents) : Bool :=
  (w.textures id).mImmutableFormat = false ∧ 0 < size.width ∧ 0 < size.height ∧ 0 < size.depth ∧
    (size.depth = 1 ∨ (w.textures id).mType.hasDepth)

def isCopySource (id : TextureID) : Bool :=
  (w.textures id).mType = ._2D ∨ (w.textures id).mType = .Rectangle ∨
    (w.textures id).mType = .External

def notCubeMap (id : TextureID) : Bool := (w.textures id).mType ≠ .CubeMap

def validates : Action → Bool
  | .setImage id target level size _ _ => w.validRedefinition id target level size
  | .setSubImage id target level _ => w.validImage id target level
  | .setCompressedImage id target level size _ _ => w.validRedefinition id target level size
  | .setCompressedSubImage id target level _ => w.validImage id target level
  | .setImageExternal id target level size _ => w.validRedefinition id target level size
  | .copyImage id target level width height _ =>
      w.validRedefinition id target level ⟨width, height, 1⟩
  | .copySubImage id target level _ => w.validImage id target level
  | .copyTexture id target level _ source sourceLevel =>
      let sourceDesc := (w.textures source).mImageDescs (.nonCube (w.textures source).mType) sourceLevel
      w.validRedefinition id target level sourceDesc.size ∧ w.isCopySource source ∧
        sourceLevel < IMPLEMENTATION_MAX_TEXTURE_LEVELS ∧ sourceDesc.size.width ≠ 0 ∧
        sourceDesc.size.height ≠ 0
  | .copySubTexture id target level _ source => w.validImage id target level && w.isCopySource source
  | .copyCompressedTexture id source =>
      (w.textures id).mType = ._2D ∧ (w.textures source).mType = ._2D ∧
        (w.textures id).mImmutableFormat = false
  | .setStorage id levels size _ =>
      w.validStorage id size ∧ 0 < levels ∧ levels ≤ IMPLEMENTATION_MAX_TEXTURE_LEVELS ∧
        (w.textures id).mType.isMultisampled = false
  | .setStorageExternalMemory id levels size _ =>
      w.validStorage id size ∧ 0 < levels ∧ levels ≤ IMPLEMENTATION_MAX_TEXTURE_LEVELS ∧
        (w.textures id).mType.isMultisampled = false
  | .setStorageMultisample id _ size _ _ =>
      w.validStorage id size && (w.textures id).mType.isMultisampled
  | .generateMipmap id =>
      (w.textures id).mType.isMultisampled = false ∧
        ((w.textures id).mType = .CubeMap → (w.textures id).isCubeComplete)
  | .bindTexImageFromSurface id _ _ => w.notCubeMap id
  | .releaseTexImageFromSurface id => w.notCubeMap id && (w.textures id).mBoundSurface
  | .acquireImageFromStream id _ _ => w.notCubeMap id
  | .releaseImageFromStream id => w.notCubeMap id
  | .initAttachment id index =>
      w.isRobustResourceInitEnabled ∧ index.level < IMPLEMENTATION_MAX_TEXTURE_LEVELS ∧
        ∀ target ∈ index.target, target ∈ (w.textures id).mType.targets
  | .markAttachmentInitialized id index =>
      index.level < IMPLEMENTATION_MAX_TEXTURE_LEVELS ∧
        ∀ target ∈ index.target, target ∈ (w.textures id).mType.targets
  | .writeSibling id => (w.textures id).mTargetOf
  | .isSamplerComplete _ context _ => context ≠ 0
  | _ => true

def step (call : Action × Backend) : Option World :=
  if w.validates call.1 then some ((operation call.2 call.1).run w).1 else none

end

def initial (isRobustResourceInitEnabled : Bool) (contexts : ContextID → ContextState)
    (types : TextureID → TextureType) : World :=
  { isRobustResourceInitEnabled := isRobustResourceInitEnabled
    contexts := contexts
    samplers := fun _ => .default
    textures := fun id => .new (types id) }

def allSucceed : Backend := ⟨true, true, fun _ _ => true, true, true, true⟩

def filterable : InternalFormat := ⟨1, .Other, .UnsignedNormalized, 0, true, fun _ => true⟩

def textures2D : World := initial true (fun _ => ⟨3, true, fun _ => true⟩) fun _ => ._2D

end World

end MetalAngle.Gl.Textures
