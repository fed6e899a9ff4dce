import MetalAngle.Gl.ActiveSamplers

/-!
# Active textures

The context caches for each texture unit the texture that the current program samples there, if it
is complete.  The cache is refreshed at a unit when something changes that it depends on.

A unit always has a texture of each type: where the application has bound none it is the zero
texture of the type, so the branch of `updateActiveTexture` for a null texture is left out.
-/

namespace MetalAngle.Gl.ActiveTextures

open ActiveSamplers
open Function (update)

abbrev Texture := Nat

abbrev Sampler := Nat

/-- `AllEnums<TextureType>`. -/
def allTextureTypes : List TextureType :=
  [._2D, ._2DArray, ._2DMultisample, ._2DMultisampleArray, ._3D, .External, .Rectangle, .CubeMap]

def allTextureUnits : List TextureUnit := List.finRange IMPLEMENTATION_MAX_ACTIVE_TEXTURES

structure TextureObjects where
  textureType : Texture → TextureType
  zeroTextures : TextureType → Texture
  textureType_zeroTextures : ∀ type, textureType (zeroTextures type) = type

structure Bindings where
  programs : Nat → ProgramState
  mProgram : Option Nat
  mActiveSampler : TextureUnit
  mSamplerTextures : TextureType → ActiveTextureArray Texture
  mSamplers : ActiveTextureArray (Option Sampler)
  mSamplerObserverBindings : ActiveTextureArray (Option Sampler)
  isSamplerComplete : Texture → Option Sampler → Bool
  hasAnyDirtyBit : Texture → Bool
  deleted : Texture → Bool

structure State extends Bindings where
  mActiveTexturesCache : ActiveTextureArray (Option Texture)
  mCompleteTextureBindings : ActiveTextureArray (Option Texture)
  mDirtyTextures : ActiveTextureArray Bool

namespace State

variable (s : State)

def init (objects : TextureObjects) (isSamplerComplete : Texture → Option Sampler → Bool)
    (hasAnyDirtyBit : Texture → Bool) : State where
  programs _ := .init
  mProgram := none
  mActiveSampler := firstUnit
  mSamplerTextures type _ := objects.zeroTextures type
  mSamplers _ := none
  mSamplerObserverBindings _ := none
  isSamplerComplete := isSamplerComplete
  hasAnyDirtyBit := hasAnyDirtyBit
  deleted _ := false
  mActiveTexturesCache _ := none
  mCompleteTextureBindings _ := none
  mDirtyTextures _ := false

/-! ## Refreshing the cache -/

def setTextureDirty (textureUnitIndex : TextureUnit) : State :=
  { s with mDirtyTextures := update s.mDirtyTextures textureUnitIndex true }

def updateActiveTextureState (textureIndex : TextureUnit) (sampler : Option Sampler)
    (texture : Texture) : State :=
  if !s.isSamplerComplete texture sampler then
    { s with mActiveTexturesCache := update s.mActiveTexturesCache textureIndex none }
  else
    let s := { s with
      mActiveTexturesCache := update s.mActiveTexturesCache textureIndex (some texture) }
    if s.hasAnyDirtyBit texture then s.setTextureDirty textureIndex else s

def updateActiveTexture (textureIndex : TextureUnit) (texture : Texture) : State :=
  let sampler := s.mSamplers textureIndex
  let s := { s with
    mCompleteTextureBindings :=
      update s.mCompleteTextureBindings textureIndex (some texture) }
  s.updateActiveTextureState textureIndex sampler texture

def unsetActiveTextures (program : Nat) : State :=
  (allTextureUnits.filter (s.programs program).mActiveSamplersMask).foldl
    (fun s textureIndex =>
      { s with
        mActiveTexturesCache := update s.mActiveTexturesCache textureIndex none
        mCompleteTextureBindings :=
          update s.mCompleteTextureBindings textureIndex none })
    s

def onProgramExecutableChange (program : Nat) : State :=
  (allTextureUnits.filter (s.programs program).mActiveSamplersMask).foldl
    (fun s textureIndex =>
      let type := (s.programs program).mActiveSamplerTypes textureIndex
      if type = .InvalidEnum then s
      else s.updateActiveTexture textureIndex (s.mSamplerTextures type textureIndex))
    s

def onActiveTextureChange (textureUnit : TextureUnit) : State :=
  match s.mProgram with
  | none => s
  | some program =>
    let type := (s.programs program).mActiveSamplerTypes textureUnit
    if type = .InvalidEnum then s
    else s.updateActiveTexture textureUnit (s.mSamplerTextures type textureUnit)

def onActiveTextureStateChange (textureUnit : TextureUnit) : State :=
  match s.mProgram with
  | none => s
  | some program =>
    let type := (s.programs program).mActiveSamplerTypes textureUnit
    if type = .InvalidEnum then s
    else
      s.updateActiveTextureState textureUnit (s.mSamplers textureUnit)
        (s.mSamplerTextures type textureUnit)

/-! ## Programs -/

def setProgram (newProgram : Option Nat) : State :=
  if s.mProgram = newProgram then s
  else
    let s := match s.mProgram with
      | none => s
      | some program => s.unsetActiveTextures program
    let s := { s with mProgram := newProgram }
    match newProgram with
    | none => s
    | some program => s.onProgramExecutableChange program

def setProgramState (program : Nat) (p : ProgramState) : State :=
  { s with programs := update s.programs program p }

/-- A link or a load of a program, with `onProgramLink`. -/
def relink (program : Nat) (p : ProgramState) : State :=
  let s := s.setProgramState program p
  if s.mProgram = some program ∧ p.mLinked then s.onProgramExecutableChange program else s

end State

/-- The values that `setUniform1iv` does not clamp off and that `updateSamplerUniform` looks at. -/
def clampedValues (p : ProgramState) (samplerIndex arrayIndex : Nat) (v : List TextureUnit) :
    List TextureUnit :=
  match p.mSamplerBindings[samplerIndex]? with
  | none => []
  | some binding =>
    if binding.unreferenced then []
    else v.take (min v.length (binding.boundTextureUnits.length - arrayIndex))

namespace State

variable (s : State)

/-- One round of `updateSamplerUniform`, which notifies the context. -/
def rebindElement (program samplerIndex arrayIndex : Nat) (newTextureUnit : TextureUnit) : State :=
  let p := s.programs program
  match p.mSamplerBindings[samplerIndex]? with
  | none => s
  | some binding =>
    match binding.boundTextureUnits[arrayIndex]? with
    | none => s
    | some oldTextureUnit =>
      if oldTextureUnit = newTextureUnit then s
      else
        let s := s.setProgramState program (p.rebindElement samplerIndex arrayIndex newTextureUnit)
        (s.onActiveTextureChange newTextureUnit).onActiveTextureChange oldTextureUnit

def rebindElements (program samplerIndex : Nat) : State → Nat → List TextureUnit → State
  | s, _, [] => s
  | s, arrayIndex, unit :: units =>
    rebindElements program samplerIndex (s.rebindElement program samplerIndex arrayIndex unit)
      (arrayIndex + 1) units

def updateSamplerUniform (program samplerIndex arrayIndex : Nat) (v : List TextureUnit) : State :=
  s.rebindElements program samplerIndex arrayIndex
    (clampedValues (s.programs program) samplerIndex arrayIndex v)

/-! ## Textures and samplers -/

def setSamplerBindingTexture (type : TextureType) (unit : TextureUnit) (texture : Texture) :
    State :=
  { s with
    mSamplerTextures := update s.mSamplerTextures type
      (update (s.mSamplerTextures type) unit texture) }

def setSamplerTexture (type : TextureType) (texture : Texture) : State :=
  let unit := s.mActiveSampler
  let s := s.setSamplerBindingTexture type unit texture
  match s.mProgram with
  | none => s
  | some program =>
    let p := s.programs program
    if p.mActiveSamplersMask unit ∧ p.mActiveSamplerTypes unit = type then
      s.updateActiveTexture unit texture
    else s

def setSamplerBinding (textureUnit : TextureUnit) (sampler : Option Sampler) : State :=
  let s := { s with mSamplers := update s.mSamplers textureUnit sampler }
  (s.onActiveTextureChange textureUnit).onActiveTextureStateChange textureUnit

def bindSampler (textureUnit : TextureUnit) (sampler : Option Sampler) : State :=
  let s := s.setSamplerBinding textureUnit sampler
  { s with
    mSamplerObserverBindings := update s.mSamplerObserverBindings textureUnit sampler }

/-- A texture changes, with a message other than `ContentsChanged` to the bindings that observe
it. -/
def changeTexture (texture : Texture) (isSamplerComplete : Option Sampler → Bool)
    (hasAnyDirtyBit : Bool) : State :=
  let s := { s with
    isSamplerComplete := update s.isSamplerComplete texture isSamplerComplete
    hasAnyDirtyBit := update s.hasAnyDirtyBit texture hasAnyDirtyBit }
  (allTextureUnits.filter (s.mCompleteTextureBindings · = some texture)).foldl
    (fun s unit => s.onActiveTextureStateChange unit) s

def changeSampler (sampler : Sampler) (isSamplerComplete : Texture → Bool) : State :=
  let s := { s with
    isSamplerComplete := fun texture other =>
      if other = some sampler then isSamplerComplete texture
      else s.isSamplerComplete texture other }
  (allTextureUnits.filter (s.mSamplerObserverBindings · = some sampler)).foldl
    (fun s unit => s.onActiveTextureStateChange unit) s

/-- One round of the loops of `detachTexture`. -/
def detachBinding (objects : TextureObjects) (texture : Texture) (type : TextureType)
    (bindingIndex : TextureUnit) : State :=
  if s.mSamplerTextures type bindingIndex = texture then
    let zeroTexture := objects.zeroTextures type
    let s :=
      if s.mCompleteTextureBindings bindingIndex = some texture then
        s.updateActiveTexture bindingIndex zeroTexture
      else s
    s.setSamplerBindingTexture type bindingIndex zeroTexture
  else s

def detachTexture (objects : TextureObjects) (texture : Texture) : State :=
  (allTextureTypes.flatMap fun type => allTextureUnits.map fun unit => (type, unit)).foldl
    (fun s (type, bindingIndex) => s.detachBinding objects texture type bindingIndex) s

def deleteTexture (objects : TextureObjects) (texture : Texture) : State :=
  let s := s.detachTexture objects texture
  { s with deleted := update s.deleted texture true }

def destroyTexture (texture : Texture) : State :=
  { s with
    mCompleteTextureBindings := fun unit =>
      if s.mCompleteTextureBindings unit = some texture then none
      else s.mCompleteTextureBindings unit }

def detachSampler (sampler : Sampler) : State :=
  allTextureUnits.foldl
    (fun s i => if s.mSamplers i = some sampler then s.setSamplerBinding i none else s) s

def deleteSampler (sampler : Sampler) : State :=
  let s := s.detachSampler sampler
  { s with
    mSamplerObserverBindings := fun unit =>
      if s.mSamplerObserverBindings unit = some sampler then none
      else s.mSamplerObserverBindings unit }

/-- One round of `syncTextures`: it fails where a pointer to a deleted texture is followed. -/
def syncTexture (hasAnyDirtyBit : Texture → Bool) (textureIndex : TextureUnit) :
    Option (Texture → Bool) :=
  match s.mActiveTexturesCache textureIndex with
  | none => some hasAnyDirtyBit
  | some texture =>
    if s.deleted texture then none
    else if hasAnyDirtyBit texture then some (update hasAnyDirtyBit texture false)
    else some hasAnyDirtyBit

def syncTextures : Option State :=
  ((allTextureUnits.filter s.mDirtyTextures).foldlM s.syncTexture s.hasAnyDirtyBit).map
    fun hasAnyDirtyBit =>
      { s with hasAnyDirtyBit := hasAnyDirtyBit, mDirtyTextures := fun _ => false }

end State

/-! ## Runs -/

inductive Action
  | useProgram (program : Option Nat)
  | linkProgram (program : Nat) (result : ProgramState.LinkResult)
  | programBinary (program : Nat) (result : ProgramState.LoadResult)
  | uniform1iv (program samplerIndex arrayIndex : Nat) (v : List TextureUnit)
  | activeTexture (unit : TextureUnit)
  | bindTexture (type : TextureType) (texture : Texture)
  | bindSampler (textureUnit : TextureUnit) (sampler : Option Sampler)
  | changeTexture (texture : Texture) (isSamplerComplete : Option Sampler → Bool)
      (hasAnyDirtyBit : Bool)
  | changeSampler (sampler : Sampler) (isSamplerComplete : Texture → Bool)
  | deleteTexture (texture : Texture)
  | destroyTexture (texture : Texture)
  | deleteSampler (sampler : Sampler)
  | syncTextures

def State.relinks (s : State) (program : Nat) (p : ProgramState) : Option State :=
  if s.mProgram = some program → p.mLinked then some (s.relink program p) else none

/-- One call; a program is linked when it is put to use, a location is one of a linked program and
an element of a sampler, and a name that is bound or deleted is that of a texture. -/
def step (objects : TextureObjects) (s : State) : Action → Option State
  | .useProgram program =>
    if ∀ p ∈ program, (s.programs p).mLinked then some (s.setProgram program) else none
  | .linkProgram program result => s.relinks program ((s.programs program).link result)
  | .programBinary program result => s.relinks program ((s.programs program).loadBinary result)
  | .uniform1iv program samplerIndex arrayIndex v =>
    if (s.programs program).mLinked ∧
        ∃ binding ∈ (s.programs program).mSamplerBindings[samplerIndex]?,
          arrayIndex < binding.boundTextureUnits.length then
      some (s.updateSamplerUniform program samplerIndex arrayIndex v)
    else none
  | .activeTexture unit => some { s with mActiveSampler := unit }
  | .bindTexture type texture =>
    if type ≠ .InvalidEnum ∧ objects.textureType texture = type ∧ s.deleted texture = false then
      some (s.setSamplerTexture type texture)
    else none
  | .bindSampler textureUnit sampler => some (s.bindSampler textureUnit sampler)
  | .changeTexture texture isSamplerComplete hasAnyDirtyBit =>
    some (s.changeTexture texture isSamplerComplete hasAnyDirtyBit)
  | .changeSampler sampler isSamplerComplete => some (s.changeSampler sampler isSamplerComplete)
  | .deleteTexture texture =>
    if objects.textureType texture ≠ .InvalidEnum ∧
        objects.zeroTextures (objects.textureType texture) ≠ texture ∧
        s.deleted texture = false then
      some (s.deleteTexture objects texture)
    else none
  | .destroyTexture texture => if s.deleted texture then some (s.destroyTexture texture) else none
  | .deleteSampler sampler => some (s.deleteSampler sampler)
  | .syncTextures => s.syncTextures

/-! ## What the cache should hold -/

namespace Bindings

variable (b : Bindings)

def textureFor (type : TextureType) (unit : TextureUnit) : Option Texture :=
  if type ≠ .InvalidEnum ∧ b.isSamplerComplete (b.mSamplerTextures type unit) (b.mSamplers unit)
  then some (b.mSamplerTextures type unit)
  else none

def samplerType (unit : TextureUnit) : TextureType :=
  match b.mProgram with
  | none => .InvalidEnum
  | some program => (b.programs program).mActiveSamplerTypes unit

def activeTexture (unit : TextureUnit) : Option Texture :=
  match b.mProgram with
  | none => none
  | some program =>
    if (b.programs program).mActiveSamplersMask unit then
      b.textureFor ((b.programs program).mActiveSamplerTypes unit) unit
    else none

end Bindings

/-- The cache holds the active textures, none of which is deleted, so that `syncTextures` follows
no pointer to a deleted texture. -/
structure State.ActiveTexturesExact (s : State) : Prop where
  cache : ∀ unit, s.mActiveTexturesCache unit = s.activeTexture unit
  live : ∀ unit texture, s.mActiveTexturesCache unit = some texture → s.deleted texture = false
  syncs : s.syncTextures.isSome

def leavesExact (objects : TextureObjects) (s : State) (a : Action) : Prop :=
  ∀ t, step objects s a = some t → t.ActiveTexturesExact

/-! ## Where the cache stays exact -/

def keepTypes (last : ActiveTextureArray TextureType) (p : ProgramState) :
    ActiveTextureArray TextureType :=
  fun unit =>
    if p.mActiveSamplerTypes unit = .InvalidEnum then last unit else p.mActiveSamplerTypes unit

def lastTypes (samplerIndex : Nat) :
    ProgramState → Nat → List TextureUnit → ActiveTextureArray TextureType →
      ActiveTextureArray TextureType
  | _, _, [], last => last
  | p, arrayIndex, unit :: units, last =>
    let p := p.rebindElement samplerIndex arrayIndex unit
    lastTypes samplerIndex p (arrayIndex + 1) units (keepTypes last p)

/-- A unit that is left without a type has no complete texture of the last one it had. -/
def Bindings.LeavesIncomplete (b : Bindings) (last : ActiveTextureArray TextureType)
    (p : ProgramState) : Prop :=
  ∀ unit, p.mActiveSamplerTypes unit = .InvalidEnum → b.textureFor (last unit) unit = none

/-- The units of the current program that lose their type have no complete texture of it; and where
a deleted texture is still observed at a unit without type, the zero texture is not complete. -/
def leavesIncomplete (objects : TextureObjects) (s : State) : Action → Prop
  | .linkProgram program result =>
    s.mProgram = some program →
      s.LeavesIncomplete (s.programs program).mActiveSamplerTypes
        ((s.programs program).link result)
  | .programBinary program result =>
    s.mProgram = some program →
      s.LeavesIncomplete (s.programs program).mActiveSamplerTypes
        ((s.programs program).loadBinary result)
  | .uniform1iv program samplerIndex arrayIndex v =>
    s.mProgram = some program →
      let p := s.programs program
      s.LeavesIncomplete
        (lastTypes samplerIndex p arrayIndex (clampedValues p samplerIndex arrayIndex v)
          p.mActiveSamplerTypes)
        (p.updateSamplerUniform samplerIndex arrayIndex v)
  | .deleteTexture texture =>
    ∀ unit, s.samplerType unit = .InvalidEnum →
      s.mCompleteTextureBindings unit = some texture →
        s.mSamplerTextures (objects.textureType texture) unit = texture →
          s.isSamplerComplete (objects.zeroTextures (objects.textureType texture))
            (s.mSamplers unit) = false
  | _ => True

end MetalAngle.Gl.ActiveTextures
