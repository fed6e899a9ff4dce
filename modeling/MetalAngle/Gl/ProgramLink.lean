import MetalAngle.Gl.ProgramSerialization

/-!
# Links of a program

A link clears the program, runs its stages, gathers the interface blocks from the shaders and
computes what depends on the units of samplers and images.
-/

namespace MetalAngle.Gl.LinkedProgram

open BinaryStream (Text)
open Linking

/-! ## Interface blocks -/

/-- A member of an interface block, as the traversal of the block visits it: with its name in the
block, and without the elements of a top-level array that are skipped. -/
structure BlockMember where
  type : GLenum
  precision : GLenum
  name : Text
  mappedName : Text
  arraySizes : List UInt32
  active : Bool
  topLevelArraySize : Int

/-- `sh::InterfaceBlock`. -/
structure ShaderInterfaceBlock where
  name : Text
  mappedName : Text
  /-- It is 0 where the block is not an array. -/
  arraySize : UInt32
  binding : Int
  active : Bool
  isPacked : Bool
  members : List BlockMember

namespace ShaderInterfaceBlock

variable (block : ShaderInterfaceBlock)

def isArray : Bool := 0 < block.arraySize

def elementCount : Nat := max 1 block.arraySize.toNat

end ShaderInterfaceBlock

/-- What the back end knows of the interface blocks: the sizes and the layouts of their members. -/
structure BlockLayouts where
  getBlockSize : Text → Text → Option UInt32
  getMemberInfo : Text → Text → Option BlockMemberInfo

def IsActiveInterfaceBlock (interfaceBlock : ShaderInterfaceBlock) : Bool :=
  interfaceBlock.active || !interfaceBlock.isPacked

def ArrayString (i : Nat) : Text := textOf ("[".toList ++ (toString i).toList ++ "]".toList)

/-- The variables that the members of a kind of blocks become. -/
class BlockVariable (Var : Type) where
  name : Var → Text
  setActive : Var → ShaderType → Bool → Var
  make : BlockMember → ShaderType → Int → BlockMemberInfo → Var

def BlockMember.variable (member : BlockMember) : ShaderVariable :=
  let subscript := if member.arraySizes.isEmpty then [] else ArrayString 0
  { type := member.type
    precision := member.precision
    name := member.name ++ subscript
    mappedName := member.mappedName ++ subscript
    arraySizes := member.arraySizes
    staticUse := false
    active := false
    structName := []
    flattenedOffsetInParentArrays := -1 }

def noShaders : ShaderBitSet := fun _ => false

instance : BlockVariable LinkedUniform where
  name uniform := uniform.name
  setActive uniform shaderType used :=
    { uniform with activeShaders := Function.update uniform.activeShaders shaderType used }
  make member shaderType blockIndex variableInfo :=
    { toShaderVariable := member.variable
      bufferIndex := blockIndex
      blockInfo := variableInfo
      activeShaders := Function.update noShaders shaderType member.active
      outerArraySizes := [] }

instance : BlockVariable BufferVariable where
  name bufferVariable := bufferVariable.name
  setActive bufferVariable shaderType used :=
    { bufferVariable with
      activeShaders := Function.update bufferVariable.activeShaders shaderType used }
  make member shaderType blockIndex variableInfo :=
    { toShaderVariable := member.variable
      bufferIndex := blockIndex
      blockInfo := variableInfo
      topLevelArraySize := member.topLevelArraySize
      activeShaders := Function.update noShaders shaderType member.active }

section BlockVariable

variable {Var : Type} [BlockVariable Var]

def SetActive (name : Text) (shaderType : ShaderType) (active : Bool) : List Var → List Var
  | [] => []
  | variable_ :: list =>
    if BlockVariable.name variable_ = name then
      BlockVariable.setActive variable_ shaderType active :: list
    else variable_ :: SetActive name shaderType active list

/-- `visitNamedVariable`; an index of -1 is that of a block that has been defined before. -/
def visitNamedVariable (layouts : BlockLayouts) (shaderType : ShaderType) (blockIndex : Int)
    (vars : List Var) (member : BlockMember) : List Var :=
  match layouts.getMemberInfo member.name member.mappedName with
  | none => vars
  | some variableInfo =>
    if blockIndex = -1 then
      SetActive member.variable.name shaderType member.active vars
    else vars ++ [BlockVariable.make member shaderType blockIndex variableInfo]

structure GatheredBlocks (Var : Type) where
  blocks : List InterfaceBlock
  vars : List Var
  visitedList : List Text

section

variable (layouts : BlockLayouts)

def defineBlockElement (interfaceBlock : ShaderInterfaceBlock)
    (shaderType : ShaderType) (blockIndexes : List UInt32) (blocks : List InterfaceBlock)
    (arrayElement : Nat) : List InterfaceBlock :=
  let subscript := if interfaceBlock.isArray then ArrayString arrayElement else []
  match layouts.getBlockSize (interfaceBlock.name ++ subscript)
      (interfaceBlock.mappedName ++ subscript) with
  | none => blocks
  | some blockSize =>
    blocks ++ [{
      binding := if interfaceBlock.binding = -1 then 0 else interfaceBlock.binding + arrayElement
      dataSize := blockSize
      activeShaders := Function.update noShaders shaderType interfaceBlock.active
      memberIndexes := blockIndexes
      name := interfaceBlock.name
      mappedName := interfaceBlock.mappedName
      isArray := interfaceBlock.isArray
      arrayElement := UInt32.ofNat arrayElement }]

def defineInterfaceBlock (interfaceBlock : ShaderInterfaceBlock)
    (shaderType : ShaderType) (gathered : GatheredBlocks Var) : GatheredBlocks Var :=
  let blockIndex := gathered.blocks.length
  let firstBlockMemberIndex := gathered.vars.length
  let vars := interfaceBlock.members.foldl (visitNamedVariable layouts shaderType blockIndex)
    gathered.vars
  let blockIndexes := (List.range' firstBlockMemberIndex
    (vars.length - firstBlockMemberIndex)).map UInt32.ofNat
  { gathered with
    blocks := (List.range interfaceBlock.elementCount).foldl
      (defineBlockElement layouts interfaceBlock shaderType blockIndexes) gathered.blocks
    vars := vars }

def mergeInterfaceBlock (block : ShaderInterfaceBlock)
    (shaderType : ShaderType) (gathered : GatheredBlocks Var) : GatheredBlocks Var :=
  { gathered with
    blocks := gathered.blocks.map fun priorBlock =>
      if block.name = priorBlock.name then
        { priorBlock with
          activeShaders := Function.update priorBlock.activeShaders shaderType true }
      else priorBlock
    vars := gathered.blocks.foldl
      (fun vars priorBlock =>
        if block.name = priorBlock.name then
          block.members.foldl (visitNamedVariable layouts shaderType (-1)) vars
        else vars)
      gathered.vars }

/-- One round of the loop of `linkBlocks`. -/
def linkBlock (shaderType : ShaderType) (gathered : GatheredBlocks Var)
    (block : ShaderInterfaceBlock) : GatheredBlocks Var :=
  if !IsActiveInterfaceBlock block then gathered
  else if block.name ∉ gathered.visitedList then
    { defineInterfaceBlock layouts block shaderType gathered with
      visitedList := block.name :: gathered.visitedList }
  else if !block.active then gathered
  else mergeInterfaceBlock layouts block shaderType gathered

def linkBlocks
    (shaderBlocks : ShaderType → List ShaderInterfaceBlock) (blocksOut : List InterfaceBlock)
    (variablesOut : List Var) : GatheredBlocks Var :=
  AllShaderTypes.foldl
    (fun gathered shaderType =>
      (shaderBlocks shaderType).foldl (linkBlock layouts shaderType) gathered)
    ⟨blocksOut, variablesOut, []⟩

end

end BlockVariable

/-! ## Links -/

structure ShaderVarying extends ShaderVariable where
  location : Int
  fields : List ShaderVariable

structure AttachedShader where
  inputVaryings : List ShaderVarying
  outputVaryings : List ShaderVarying
  uniformBlocks : List ShaderInterfaceBlock
  shaderStorageBlocks : List ShaderInterfaceBlock

structure ImageUniform where
  /-- The `layout(binding)`, where the image has one. -/
  binding : Option UInt32
  elementCount : Nat
  /-- The back end finds no use of it: `markUnusedUniformLocations`. -/
  unreferenced : Bool

def ImageUniform.imageBinding (imageUniform : ImageUniform) : ImageBinding :=
  match imageUniform.binding with
  | none => .ofCount imageUniform.elementCount
  | some imageUnit =>
    ⟨(List.range imageUniform.elementCount).map fun index => imageUnit + UInt32.ofNat index, false⟩

/-- What a link works on: the attached shaders, the settings of the application and the back
end. -/
structure Link where
  attachedShaders : ShaderType → Option AttachedShader
  /-- The buffer mode that the application has set for captured varyings. -/
  transformFeedbackBufferMode : GLenum
  /-- The stages that make the interface from the shaders and settings, with the buffer mode of
  the program; `none` is an error of the link. -/
  stages : GLenum → LinkedInterface → Option LinkedInterface
  samplerUniformRange : RangeUI
  imageUniformRange : RangeUI
  atomicCounterUniformRange : RangeUI
  /-- The sampler and image uniforms that the stages make. -/
  samplerUniforms : List ActiveSamplers.SamplerUniform
  imageUniforms : List ImageUniform
  uniformBlockLayouts : BlockLayouts
  shaderStorageBlockLayouts : BlockLayouts
  atomicCounterBufferSizes : Int → UInt32
  /-- The locations of uniforms that the back end finds unused. -/
  isUnusedLocation : Nat → Bool
  backEndLinks : Bool

namespace Link

variable (link : Link)

def isCompute : Bool := (link.attachedShaders .Compute).isSome

def shaderBlocks (blocks : AttachedShader → List ShaderInterfaceBlock) (shaderType : ShaderType) :
    List ShaderInterfaceBlock :=
  match link.attachedShaders shaderType with
  | none => []
  | some shader => blocks shader

end Link

namespace ProgramState

variable (p : ProgramState)

/-- The end of `linkUniforms`. -/
def linkSamplerAndImageBindings (link : Link) : ProgramState :=
  { p with
    toProgramState := p.toProgramState.linkSamplerBindings link.samplerUniforms
    mAtomicCounterUniformRange := link.atomicCounterUniformRange
    mImageUniformRange := link.imageUniformRange
    mImageBindings := p.mImageBindings ++ link.imageUniforms.map (·.imageBinding)
    mSamplerUniformRange := link.samplerUniformRange }

def updateLinkedShaderStages (link : Link) : ProgramState :=
  { p with mLinkedShaderStages := fun shaderType => (link.attachedShaders shaderType).isSome }

def linkResources (link : Link) : ProgramState :=
  let uniformBlocks := linkBlocks link.uniformBlockLayouts
    (link.shaderBlocks (·.uniformBlocks)) p.mUniformBlocks p.mUniforms
  let shaderStorageBlocks := linkBlocks link.shaderStorageBlockLayouts
    (link.shaderBlocks (·.shaderStorageBlocks)) p.mShaderStorageBlocks p.mBufferVariables
  { p with
    mUniformBlocks := uniformBlocks.blocks
    mUniforms := uniformBlocks.vars
    mShaderStorageBlocks := shaderStorageBlocks.blocks
    mBufferVariables := shaderStorageBlocks.vars
    mAtomicCounterBuffers := p.mAtomicCounterBuffers.map fun atomicCounterBuffer =>
      { atomicCounterBuffer with
        dataSize := link.atomicCounterBufferSizes atomicCounterBuffer.binding } }

def getFirstAttachedShaderStageType : Option ShaderType :=
  [.Vertex, .Geometry, .Fragment, .Compute].find? p.mLinkedShaderStages

def getLastAttachedShaderStageType : Option ShaderType :=
  [.Fragment, .Geometry, .Vertex, .Compute].find? p.mLinkedShaderStages

def interfaceVariables (varyings : List ShaderVarying) : List (ShaderVariable × Int) :=
  varyings.flatMap fun varying =>
    if varying.fields.isEmpty then [(varying.toShaderVariable, varying.location)]
    else varying.fields.map fun field =>
      ({ field with name := varying.name ++ textOf ".".toList ++ field.name }, varying.location)

def updateProgramInterfaceInputs (link : Link) : ProgramState :=
  match p.getFirstAttachedShaderStageType with
  | none | some .Vertex => p
  | some shaderType =>
    match link.attachedShaders shaderType with
    | none => p
    | some shader =>
      { p with
        mProgramInputs := p.mProgramInputs ++
          (interfaceVariables shader.inputVaryings).map fun (var, location) => ⟨var, location⟩ }

def updateProgramInterfaceOutputs (link : Link) : ProgramState :=
  match p.getLastAttachedShaderStageType with
  | none | some .Fragment | some .Compute => p
  | some shaderType =>
    match link.attachedShaders shaderType with
    | none => p
    | some shader =>
      { p with
        mOutputVariables := p.mOutputVariables ++
          (interfaceVariables shader.outputVaryings).map fun (var, location) =>
            ⟨var, location, -1⟩ }

/-- `initInterfaceBlockBindings`, which binds each block to the point that it has already. -/
def initInterfaceBlockBindings : ProgramState :=
  { p with
    mActiveUniformBlockBindings :=
      setActiveUniformBlockBindings p.mActiveUniformBlockBindings 0 p.mUniformBlocks }

def markUnusedUniformLocations (link : Link) : ProgramState :=
  { p with
    toProgramState := p.toProgramState.markUnusedUniformLocations link.samplerUniforms
    mImageBindings := List.zipWith
      (fun binding imageUniform =>
        { binding with unreferenced := binding.unreferenced || imageUniform.unreferenced })
      p.mImageBindings link.imageUniforms
    mUniformLocations := p.mUniformLocations.mapIdx fun location locationRef =>
      if link.isUnusedLocation location then locationRef.markUnused else locationRef }

def setUniformValuesFromBindingQualifiers (link : Link) : ProgramState :=
  { p with
    toProgramState := p.toProgramState.setUniformValuesFromBindingQualifiers 0
      link.samplerUniforms }

/-- `resolveLinkImpl` of a link that the back end accepts, up to the program cache. -/
def resolveLink (context : Context) (link : Link) : ProgramState :=
  let p := { p with mLinked := true }.initInterfaceBlockBindings
  let p := (p.markUnusedUniformLocations link).postResolveLink context
  p.setUniformValuesFromBindingQualifiers link

def gatherLink (link : Link) (interface : LinkedInterface) : ProgramState :=
  let p := { p with toLinkedInterface := interface }.linkSamplerAndImageBindings link
  let p := if link.isCompute then p else p.updateTransformFeedbackStrides
  let p := (p.updateLinkedShaderStages link).linkResources link
  (p.updateProgramInterfaceInputs link).updateProgramInterfaceOutputs link

/-- `link` of a program that the program cache does not have, with its resolution; `none` is a
link that fails. -/
def link (context : Context) (link : Link) : Option ProgramState :=
  match link.stages p.mTransformFeedbackBufferMode p.unlink.toLinkedInterface with
  | none => none
  | some interface =>
    if link.backEndLinks then
      some ((p.unlink.gatherLink link interface).resolveLink context link)
    else none

/-! ### What the steps of a link leave -/

theorem postResolveLink_eq (context : Context) :
    p.postResolveLink context = { p with
        toProgramState := p.toProgramState.updateActiveSamplers
        mActiveImagesMask := markActiveImages p.mImageBindings p.mActiveImagesMask
        mDrawIDLocation :=
          if context.multiDraw then p.getUniformLocation "gl_DrawID".toList
          else p.mDrawIDLocation
        mBaseVertexLocation :=
          if context.baseVertexBaseInstance then p.getUniformLocation "gl_BaseVertex".toList
          else p.mBaseVertexLocation
        mBaseInstanceLocation :=
          if context.baseVertexBaseInstance then p.getUniformLocation "gl_BaseInstance".toList
          else p.mBaseInstanceLocation } := by
  unfold postResolveLink
  cases context.multiDraw <;> cases context.baseVertexBaseInstance <;> rfl

theorem updateProgramInterfaceInputs_eq (link : Link) :
    ∃ inputs, p.updateProgramInterfaceInputs link = { p with mProgramInputs := inputs } := by
  unfold updateProgramInterfaceInputs
  split
  · exact ⟨_, rfl⟩
  · exact ⟨_, rfl⟩
  · split
    · exact ⟨_, rfl⟩
    · exact ⟨_, rfl⟩

theorem updateProgramInterfaceOutputs_eq (link : Link) :
    ∃ outputs, p.updateProgramInterfaceOutputs link = { p with mOutputVariables := outputs } := by
  unfold updateProgramInterfaceOutputs
  split
  · exact ⟨_, rfl⟩
  · exact ⟨_, rfl⟩
  · exact ⟨_, rfl⟩
  · split
    · exact ⟨_, rfl⟩
    · exact ⟨_, rfl⟩

theorem updateProgramInterface_eq (link : Link) :
    ∃ inputs outputs, (p.updateProgramInterfaceInputs link).updateProgramInterfaceOutputs link =
        { p with
          mProgramInputs := inputs
          mOutputVariables := outputs } := by
  obtain ⟨inputs, hinputs⟩ := p.updateProgramInterfaceInputs_eq link
  obtain ⟨outputs, houtputs⟩ := { p with mProgramInputs := inputs }.updateProgramInterfaceOutputs_eq
    link
  exact ⟨inputs, outputs, by rw [hinputs, houtputs]⟩

def linkedStrides (link : Link) (varyings : List TransformFeedbackVarying) : List Nat :=
  if link.isCompute then p.mTransformFeedbackStrides
  else transformFeedbackStrides p.mTransformFeedbackBufferMode varyings

/-- What is gathered, but for the variables of the first and last stage. -/
theorem gatherLink_eq (link : Link) (interface : LinkedInterface) :
    ∃ inputs outputs, p.gatherLink link interface = { ({ p with
            toProgramState := p.toProgramState.linkSamplerBindings link.samplerUniforms
            toLinkedInterface := interface
            mAtomicCounterUniformRange := link.atomicCounterUniformRange
            mImageUniformRange := link.imageUniformRange
            mImageBindings := p.mImageBindings ++ link.imageUniforms.map (·.imageBinding)
            mSamplerUniformRange := link.samplerUniformRange
            mTransformFeedbackStrides :=
              p.linkedStrides link interface.mLinkedTransformFeedbackVaryings
            mLinkedShaderStages := fun shaderType =>
              (link.attachedShaders shaderType).isSome } : ProgramState).linkResources link with
        mProgramInputs := inputs
        mOutputVariables := outputs } := by
  unfold gatherLink linkedStrides
  dsimp only
  obtain ⟨inputs, outputs, heq⟩ := updateProgramInterface_eq
    (((if link.isCompute then { p with toLinkedInterface := interface }.linkSamplerAndImageBindings
        link
      else ({ p with toLinkedInterface := interface }.linkSamplerAndImageBindings
        link).updateTransformFeedbackStrides).updateLinkedShaderStages link).linkResources link)
    link
  refine ⟨inputs, outputs, heq.trans ?_⟩
  cases link.isCompute <;> rfl

end ProgramState

end MetalAngle.Gl.LinkedProgram
