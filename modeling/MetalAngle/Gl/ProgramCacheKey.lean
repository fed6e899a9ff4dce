import MetalAngle.Gl.ProgramBindings

/-!
# The key of a program in the program cache

A program that is linked is looked up in a cache by a hash of its shaders and of what the
application has set before the link.  The text that is hashed has each item with a separator
behind it.
-/

namespace MetalAngle.Gl.Linking

structure HashedShader where
  sourceString : Name
  compilerResourcesString : Name

inductive ShaderType
  | Vertex
  | Fragment
  | Geometry
  | Compute
deriving DecidableEq

def AllShaderTypes : List ShaderType := [.Vertex, .Fragment, .Geometry, .Compute]

structure VariableLocation where
  arrayIndex : UInt32
  index : UInt32
  ignored : Bool

/-- A program before its link: what is attached to it and set for it, and the output tables of
the last link. -/
structure UnlinkedProgram where
  attachedShaders : ShaderType → Option HashedShader
  mAttributeBindings : ProgramBindings
  mUniformLocationBindings : ProgramAliasedBindings
  mFragmentInputBindings : ProgramBindings
  mFragmentOutputLocations : ProgramAliasedBindings
  mFragmentOutputIndexes : ProgramAliasedBindings
  mTransformFeedbackVaryingNames : List Name
  mTransformFeedbackBufferMode : UInt32
  mSeparable : Bool
  mOutputLocations : List VariableLocation
  mSecondaryOutputLocations : List VariableLocation

structure HashContext where
  ANGLE_COMMIT_HASH : Name
  clientMajorVersion : Nat
  clientMinorVersion : Nat
  rendererString : Name

def UnlinkedProgram.unlink (program : UnlinkedProgram) : UnlinkedProgram :=
  { program with mOutputLocations := [], mSecondaryOutputLocations := [] }

/-- An item of the stream with `kSeparator`. -/
def hashText (item : Name) : Name := item ++ [':']

def hashNumber (number : Nat) : Name := hashText (toString number).toList

def c_str (string : Name) : Name := string.takeWhile (· ≠ '\x00')

def hashShader : Option HashedShader → Name
  | none => []
  | some shader =>
    hashText (c_str shader.sourceString) ++ hashNumber shader.sourceString.length ++
      hashText (c_str shader.compilerResourcesString)

def hashBindings (bindings : ProgramBindings) : Name :=
  bindings.mBindings.flatMap fun (name, location) => hashText name ++ hashNumber location.toNat

def hashAliasedBindings (bindings : ProgramAliasedBindings) : Name :=
  bindings.mBindings.flatMap fun (name, binding) =>
    hashText name ++ hashNumber binding.location.toNat

def hashLocations (locations : List VariableLocation) : Name :=
  locations.flatMap fun location =>
    hashNumber location.index.toNat ++ hashNumber location.arrayIndex.toNat ++
      hashNumber location.ignored.toNat

/-- The text that `ComputeHash` hashes. -/
def programKey (context : HashContext) (program : UnlinkedProgram) : Name :=
  AllShaderTypes.flatMap (fun shaderType => hashShader (program.attachedShaders shaderType)) ++
    hashText context.ANGLE_COMMIT_HASH ++ hashNumber context.clientMajorVersion ++
    hashNumber context.clientMinorVersion ++ hashText context.rendererString ++
    hashBindings program.mAttributeBindings ++
    hashAliasedBindings program.mUniformLocationBindings ++
    hashBindings program.mFragmentInputBindings ++
    program.mTransformFeedbackVaryingNames.flatMap hashText ++
    hashNumber program.mTransformFeedbackBufferMode.toNat ++
    hashLocations program.mOutputLocations ++ hashLocations program.mSecondaryOutputLocations

def ComputeHash {Key : Type} (sha1 : Name → Key) (context : HashContext)
    (program : UnlinkedProgram) : Key :=
  sha1 (programKey context program)

structure LinkInputs where
  attachedShaders : ShaderType → Option HashedShader
  mAttributeBindings : ProgramBindings
  mUniformLocationBindings : ProgramAliasedBindings
  mFragmentInputBindings : ProgramBindings
  mFragmentOutputLocations : ProgramAliasedBindings
  mFragmentOutputIndexes : ProgramAliasedBindings
  mTransformFeedbackVaryingNames : List Name
  mTransformFeedbackBufferMode : UInt32
  mSeparable : Bool

namespace UnlinkedProgram

variable (program : UnlinkedProgram)

def linkInputs : LinkInputs where
  __ := program

def keyAtLink {Key : Type} (sha1 : Name → Key) (context : HashContext) : Key :=
  ComputeHash sha1 context program.unlink

/-- The key of a program determines its link inputs: no other inputs have the key. -/
def KeyDeterminesInputs {Key : Type} (sha1 : Name → Key) (context : HashContext) : Prop :=
  ∀ other : UnlinkedProgram,
    other.keyAtLink sha1 context = program.keyAtLink sha1 context →
      other.linkInputs = program.linkInputs

def withOutputs (locations indexes : ProgramAliasedBindings) (separable : Bool) :
    UnlinkedProgram :=
  { program with
    mFragmentOutputLocations := locations
    mFragmentOutputIndexes := indexes
    mSeparable := separable }

/-- The key knows nothing of the bindings of fragment outputs and of the separable flag: the
output tables that it has instead are empty at that time. -/
theorem keyAtLink_withOutputs {Key : Type} (sha1 : Name → Key) (context : HashContext)
    (locations indexes : ProgramAliasedBindings) (separable : Bool) :
    (program.withOutputs locations indexes separable).keyAtLink sha1 context =
      program.keyAtLink sha1 context :=
  rfl

def bindFragmentOutputLocation (index : UInt32) (name : Name) : UnlinkedProgram :=
  program.withOutputs (program.mFragmentOutputLocations.bindLocation index name)
    program.mFragmentOutputIndexes program.mSeparable

theorem keyAtLink_bindFragmentOutputLocation {Key : Type} (sha1 : Name → Key)
    (context : HashContext) (index : UInt32) (name : Name) :
    (program.bindFragmentOutputLocation index name).keyAtLink sha1 context =
      program.keyAtLink sha1 context :=
  program.keyAtLink_withOutputs sha1 context _ _ _

theorem not_keyDeterminesInputs {Key : Type} (sha1 : Name → Key) (context : HashContext) :
    ¬program.KeyDeterminesInputs sha1 context := by
  intro hdetermines
  have hkey := program.keyAtLink_withOutputs sha1 context program.mFragmentOutputLocations
    program.mFragmentOutputIndexes (!program.mSeparable)
  have hinputs := hdetermines _ hkey
  have hseparable : (!program.mSeparable) = program.mSeparable :=
    congrArg LinkInputs.mSeparable hinputs
  cases hflag : program.mSeparable <;> simp [hflag] at hseparable

end UnlinkedProgram

/-- A program whose fragment shader has an output `c`, before anything is bound. -/
def colorProgram : UnlinkedProgram where
  attachedShaders
    | .Vertex => some ⟨['v'], []⟩
    | .Fragment => some ⟨['f'], []⟩
    | _ => none
  mAttributeBindings := .empty
  mUniformLocationBindings := .empty
  mFragmentInputBindings := .empty
  mFragmentOutputLocations := .empty
  mFragmentOutputIndexes := .empty
  mTransformFeedbackVaryingNames := []
  mTransformFeedbackBufferMode := 0x8C8C
  mSeparable := false
  mOutputLocations := []
  mSecondaryOutputLocations := []

/-- Two programs that bind the output `c` to the first and to the second draw buffer have one
key, though the link reads another location for `c` in each. -/
theorem keyAtLink_collides :
    ¬ ∀ (context : HashContext) (program other : UnlinkedProgram),
      other.keyAtLink id context = program.keyAtLink id context →
        other.linkInputs = program.linkInputs := by
  intro hall
  have hkey : (colorProgram.bindFragmentOutputLocation 1 ['c']).keyAtLink id ⟨[], 3, 0, []⟩ =
      (colorProgram.bindFragmentOutputLocation 0 ['c']).keyAtLink id ⟨[], 3, 0, []⟩ := by
    rw [UnlinkedProgram.keyAtLink_bindFragmentOutputLocation,
      UnlinkedProgram.keyAtLink_bindFragmentOutputLocation]
  have hlocations := congrArg LinkInputs.mFragmentOutputLocations (hall _ _ _ hkey)
  have hfirst : (colorProgram.bindFragmentOutputLocation
      0 ['c']).linkInputs.mFragmentOutputLocations.getBinding ⟨['c'], false⟩ = some 0 := by
    decide +kernel
  have hsecond : (colorProgram.bindFragmentOutputLocation
      1 ['c']).linkInputs.mFragmentOutputLocations.getBinding ⟨['c'], false⟩ = some 1 := by
    decide +kernel
  rw [hlocations, hfirst] at hsecond
  exact absurd hsecond (by decide)

end MetalAngle.Gl.Linking
