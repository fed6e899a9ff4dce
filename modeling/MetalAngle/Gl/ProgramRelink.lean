import MetalAngle.Gl.ProgramReload
import MetalAngle.Gl.SamplerRelinks

/-!
# Relinks of a program

What a link leaves depends on the program before it in the storage blocks, the samplers and the
strides, which `unlink` does not clear, and in the buffer mode, which a load replaces.
-/

namespace MetalAngle.Gl.LinkedProgram

open BinaryStream (Text)
open LabelledRun ActiveSamplers.ProgramState List
open Linking

/-! ## Blocks that are gathered after others -/

section BlockVariable

variable {Var : Type} [BlockVariable Var]

/-- The blocks have the same names, and one has a number of variables more than the other. -/
structure SameButVariables (count : Nat) (gathered gathered' : GatheredBlocks Var) : Prop where
  names : gathered.blocks.map (·.name) = gathered'.blocks.map (·.name)
  visitedList : gathered.visitedList = gathered'.visitedList
  length : gathered.vars.length = gathered'.vars.length + count

@[simp]
theorem length_SetActive (name : Text) (shaderType : ShaderType) (active : Bool)
    (list : List Var) : (SetActive name shaderType active list).length = list.length := by
  induction list with
  | nil => rfl
  | cons variable_ list ih =>
      unfold SetActive
      split
      · rfl
      · simp [ih]

variable {count : Nat}

theorem length_visitNamedVariable (layouts : BlockLayouts) (shaderType : ShaderType)
    (blockIndex : Int) {vars vars' : List Var}
    (h : vars.length = vars'.length + count) (blockIndex' : Int)
    (hindex : blockIndex = -1 ↔ blockIndex' = -1) (member : BlockMember) :
    (visitNamedVariable layouts shaderType blockIndex vars member).length =
      (visitNamedVariable layouts shaderType blockIndex' vars' member).length + count := by
  unfold visitNamedVariable
  split
  · exact h
  · by_cases hnew : blockIndex = -1
    · simp [hnew, hindex.mp hnew, h]
    · have hnew' : blockIndex' ≠ -1 := fun heq => hnew (hindex.mpr heq)
      simp only [if_neg hnew, if_neg hnew', length_append, length_singleton]
      omega

theorem length_foldl_visitNamedVariable (layouts : BlockLayouts) (shaderType : ShaderType)
    {blockIndex blockIndex' : Int} (hindex : blockIndex = -1 ↔ blockIndex' = -1)
    (members : List BlockMember) {vars vars' : List Var} (h : vars.length = vars'.length + count) :
    (members.foldl (visitNamedVariable layouts shaderType blockIndex) vars).length =
      (members.foldl (visitNamedVariable layouts shaderType blockIndex') vars').length + count := by
  refine foldl_rel (r := fun vars vars' : List Var => vars.length = vars'.length + count) h ?_
  intro member _ vars vars' hvars
  exact length_visitNamedVariable layouts shaderType blockIndex hvars blockIndex' hindex member

theorem names_defineBlockElements (layouts : BlockLayouts) (block : ShaderInterfaceBlock)
    (shaderType : ShaderType) (blockIndexes blockIndexes' : List UInt32) (elements : List Nat)
    {blocks blocks' : List InterfaceBlock} (h : blocks.map (·.name) = blocks'.map (·.name)) :
    (elements.foldl (defineBlockElement layouts block shaderType blockIndexes) blocks).map
        (·.name) =
      (elements.foldl (defineBlockElement layouts block shaderType blockIndexes') blocks').map
        (·.name) := by
  refine foldl_rel
    (r := fun blocks blocks' : List InterfaceBlock => blocks.map (·.name) = blocks'.map (·.name)) h ?_
  intro arrayElement _ blocks blocks' hblocks
  unfold defineBlockElement
  dsimp only
  split
  · exact hblocks
  · simp [hblocks]

variable {gathered gathered' : GatheredBlocks Var}

theorem SameButVariables.defineInterfaceBlock
    (h : SameButVariables count gathered gathered')
    (layouts : BlockLayouts) (shaderType : ShaderType) (block : ShaderInterfaceBlock) :
    SameButVariables count (LinkedProgram.defineInterfaceBlock layouts block shaderType gathered)
      (LinkedProgram.defineInterfaceBlock layouts block shaderType gathered') where
  __ := h
  names := names_defineBlockElements layouts block shaderType _ _ _ h.names
  length := by
    refine length_foldl_visitNamedVariable layouts shaderType ?_ block.members h.length
    constructor
    · intro hneg
      omega
    · intro hneg
      omega

theorem mergeInterfaceBlock_vars (layouts : BlockLayouts) (block : ShaderInterfaceBlock)
    (shaderType : ShaderType) (gathered : GatheredBlocks Var) :
    (mergeInterfaceBlock layouts block shaderType gathered).vars =
      (gathered.blocks.map (·.name)).foldl (fun vars name =>
          if block.name = name then
            block.members.foldl (visitNamedVariable layouts shaderType (-1)) vars
          else vars)
        gathered.vars := by
  rw [mergeInterfaceBlock, foldl_map]

theorem SameButVariables.mergeInterfaceBlock
    (h : SameButVariables count gathered gathered')
    (layouts : BlockLayouts) (shaderType : ShaderType) (block : ShaderInterfaceBlock) :
    SameButVariables count (LinkedProgram.mergeInterfaceBlock layouts block shaderType gathered)
      (LinkedProgram.mergeInterfaceBlock layouts block shaderType gathered') where
  __ := h
  names := by
    have hkept (blocks : List InterfaceBlock) :
        (blocks.map fun priorBlock =>
          if block.name = priorBlock.name then
            { priorBlock with
              activeShaders := Function.update priorBlock.activeShaders shaderType true }
          else priorBlock).map (·.name) = blocks.map (·.name) := by
      rw [map_map]
      refine map_congr_left fun priorBlock _ => ?_
      simp only [Function.comp_apply]
      split <;> rfl
    rw [LinkedProgram.mergeInterfaceBlock, LinkedProgram.mergeInterfaceBlock, hkept, hkept, h.names]
  length := by
    rw [mergeInterfaceBlock_vars, mergeInterfaceBlock_vars, ← h.names]
    refine foldl_rel (r := fun vars vars' : List Var => vars.length = vars'.length + count) h.length ?_
    intro name _ vars vars' hvars
    split
    · exact length_foldl_visitNamedVariable layouts shaderType Iff.rfl block.members hvars
    · exact hvars

theorem SameButVariables.linkBlock
    (h : SameButVariables count gathered gathered') (layouts : BlockLayouts)
    (shaderType : ShaderType) (block : ShaderInterfaceBlock) :
    SameButVariables count (LinkedProgram.linkBlock layouts shaderType gathered block)
      (LinkedProgram.linkBlock layouts shaderType gathered' block) := by
  unfold LinkedProgram.linkBlock
  rw [← h.visitedList]
  split
  · exact h
  · split
    · have hdefined := h.defineInterfaceBlock layouts shaderType block
      exact ⟨hdefined.names, rfl, hdefined.length⟩
    · split
      · exact h
      · exact h.mergeInterfaceBlock layouts shaderType block

theorem length_linkBlocks_vars (layouts : BlockLayouts)
    (shaderBlocks : ShaderType → List ShaderInterfaceBlock) (variablesOut : List Var) :
    (linkBlocks layouts shaderBlocks [] variablesOut).vars.length =
      (linkBlocks layouts shaderBlocks [] ([] : List Var)).vars.length +
        variablesOut.length := by
  have hlinked : SameButVariables variablesOut.length
      (linkBlocks layouts shaderBlocks [] variablesOut)
      (linkBlocks layouts shaderBlocks [] ([] : List Var)) := by
    refine foldl_rel (r := SameButVariables variablesOut.length) ⟨rfl, rfl, by simp⟩ ?_
    intro shaderType _ gathered gathered' hstage
    refine foldl_rel (r := SameButVariables variablesOut.length) hstage ?_
    intro block _ gathered gathered' hblock
    exact hblock.linkBlock layouts shaderType block
  exact hlinked.length

end BlockVariable

/-! ## What a link leaves of the program before it -/

namespace ProgramState

/-- The formats of the units that are not marked are forgotten: they have no value at first, and
draws do not read them. -/
def forgetIdleFormats (p : ProgramState) : ProgramState :=
  { p with toProgramState := p.toProgramState.forgetIdleFormats }

def withSamplers (p : ProgramState) (samplers : ActiveSamplers.ProgramState) : ProgramState :=
  { p with toProgramState := samplers }

variable (p : ProgramState) (link : Link)

theorem updateProgramInterface_withSamplers (samplers : ActiveSamplers.ProgramState) :
    ((p.withSamplers samplers).updateProgramInterfaceInputs link).updateProgramInterfaceOutputs
        link =
      ((p.updateProgramInterfaceInputs link).updateProgramInterfaceOutputs link).withSamplers
        samplers := by
  have hinputs : (p.withSamplers samplers).updateProgramInterfaceInputs link =
      (p.updateProgramInterfaceInputs link).withSamplers samplers := by
    have hstage : (p.withSamplers samplers).getFirstAttachedShaderStageType =
        p.getFirstAttachedShaderStageType := rfl
    unfold updateProgramInterfaceInputs
    rw [hstage]
    cases p.getFirstAttachedShaderStageType with
    | none => rfl
    | some shaderType => cases shaderType <;> dsimp only <;> cases link.attachedShaders _ <;> rfl
  have houtputs (q : ProgramState) : (q.withSamplers samplers).updateProgramInterfaceOutputs link =
      (q.updateProgramInterfaceOutputs link).withSamplers samplers := by
    have hstage : (q.withSamplers samplers).getLastAttachedShaderStageType =
        q.getLastAttachedShaderStageType := rfl
    unfold updateProgramInterfaceOutputs
    rw [hstage]
    cases q.getLastAttachedShaderStageType with
    | none => rfl
    | some shaderType => cases shaderType <;> dsimp only <;> cases link.attachedShaders _ <;> rfl
  rw [hinputs, houtputs]

/-- What a link finds that `unlink` has not cleared, but for the samplers, is as in a new
program. -/
structure Cleared : Prop where
  shaderStorageBlocks : p.mShaderStorageBlocks = []
  bufferVariables : p.mBufferVariables = []
  strides : link.isCompute → p.mTransformFeedbackStrides = []
  bufferMode : p.mTransformFeedbackBufferMode = link.transformFeedbackBufferMode

theorem gatherLink_of_cleared (h : p.Cleared link) (interface : LinkedInterface) :
    p.unlink.gatherLink link interface =
      ((newProgram link).unlink.gatherLink link interface).withSamplers
        (p.toProgramState.unlink.linkSamplerBindings link.samplerUniforms) := by
  unfold gatherLink
  dsimp only
  rw [← updateProgramInterface_withSamplers]
  congr 2
  unfold linkResources updateLinkedShaderStages withSamplers
  obtain ⟨hblocks, hvariables, hstrides, hmode⟩ := h
  cases hcompute : link.isCompute with
  | false =>
      simp [unlink, linkSamplerAndImageBindings, updateTransformFeedbackStrides, newProgram, init,
        hblocks, hvariables, hmode]
  | true =>
      simp [unlink, linkSamplerAndImageBindings, newProgram, init, hblocks, hvariables, hmode,
        hstrides hcompute]

variable {p' : ProgramState}

/-- What a link leaves in the fields of a program that `unlink` does not clear. -/
theorem link_uncleared {p : ProgramState} {context : Context} {link : Link}
    (h : p.link context link = some p') :
    p'.toProgramState = p.toProgramState.link (.succeeds link.samplerUniforms) ∧
      p'.mBufferVariables =
        (linkBlocks link.shaderStorageBlockLayouts (link.shaderBlocks (·.shaderStorageBlocks))
          p.mShaderStorageBlocks p.mBufferVariables).vars ∧
      (link.isCompute → p'.mTransformFeedbackStrides = p.mTransformFeedbackStrides) ∧
      p'.mTransformFeedbackBufferMode = p.mTransformFeedbackBufferMode := by
  unfold ProgramState.link at h
  split at h
  · cases h
  · rename_i interface hinterface
    obtain ⟨-, h⟩ := Option.ite_none_right_eq_some.mp h
    obtain ⟨inputs, outputs, hgather⟩ := p.unlink.gatherLink_eq link interface
    rw [hgather, resolveLink, postResolveLink_eq] at h
    cases h
    exact ⟨rfl, rfl, fun hcompute => if_pos hcompute, rfl⟩

theorem resolveLink_withSamplers (p : ProgramState) (samplers : ActiveSamplers.ProgramState)
    (context : Context) (link : Link) :
    (p.withSamplers samplers).resolveLink context link = (p.resolveLink context link).withSamplers
        (samplers.resolveLink link.samplerUniforms) := by
  simp only [resolveLink, postResolveLink_eq]
  rfl

/-- `linkBlocks` asserts that there are no blocks before. -/
structure LinkAsserts (p : ProgramState) : Prop where
  uniformBlocks : p.mUniformBlocks = []
  shaderStorageBlocks : p.mShaderStorageBlocks = []

/-- `deserialize` asserts that the lists that it appends to are empty. -/
structure LoadAsserts (p : ProgramState) : Prop where
  programInputs : p.mProgramInputs = []
  uniforms : p.mUniforms = []
  uniformLocations : p.mUniformLocations = []
  uniformBlocks : p.mUniformBlocks = []
  bufferVariables : p.mBufferVariables = []
  shaderStorageBlocks : p.mShaderStorageBlocks = []
  atomicCounterBuffers : p.mAtomicCounterBuffers = []
  linkedTransformFeedbackVaryings : p.mLinkedTransformFeedbackVaryings = []
  outputVariables : p.mOutputVariables = []
  outputLocations : p.mOutputLocations = []
  secondaryOutputLocations : p.mSecondaryOutputLocations = []

/-- A link leaves what the link of a new program with the same shaders and settings leaves. -/
def LinksAsNew (p : ProgramState) (context : Context) (link : Link) : Prop :=
  ∀ p', p.link context link = some p' →
    ∃ fresh, (newProgram link).link context link = some fresh ∧
      p'.forgetIdleFormats = fresh.forgetIdleFormats

/-- The condition under which a link forgets the past. -/
structure Relinkable (p : ProgramState) (link : Link) : Prop extends p.Cleared link where
  samplers : ∀ unit, (∀ uniform ∈ link.samplerUniforms, ¬ uniform.Touches unit) →
    p.mActiveSamplersMask unit = false ∧ p.mActiveSamplerTypes unit = .InvalidEnum

theorem linksAsNew_of_relinkable {p : ProgramState} {link : Link} (h : p.Relinkable link)
    (context : Context) : p.LinksAsNew context link := by
  intro p' hlink
  have hsamplers := (link_forgets_iff p.toProgramState
    link.samplerUniforms).mpr h.samplers
  unfold ProgramState.link at hlink
  rw [h.bufferMode] at hlink
  split at hlink
  · cases hlink
  · rename_i interface hinterface
    obtain ⟨hbackEnd, hlink⟩ := Option.ite_none_right_eq_some.mp hlink
    rw [p.gatherLink_of_cleared link h.toCleared, resolveLink_withSamplers] at hlink
    cases hlink
    have hnew : (newProgram link).link context link =
        some (((newProgram link).unlink.gatherLink link interface).resolveLink context link) := by
      unfold ProgramState.link
      rw [show link.stages (newProgram link).mTransformFeedbackBufferMode
        (newProgram link).unlink.toLinkedInterface = some interface from hinterface]
      exact if_pos hbackEnd
    have hfresh := congrArg ActiveSamplers.ProgramState.forgetIdleFormats (link_uncleared hnew).1
    exact ⟨_, hnew, congrArg (withSamplers _) (hsamplers.trans hfresh.symm)⟩

theorem relinkable_of_linksAsNew {p : ProgramState} {link : Link} {context : Context}
    (hlink : p.link context link = some p') (hasserts : p.unlink.LinkAsserts)
    (h : p.LinksAsNew context link) : p.Relinkable link := by
  obtain ⟨fresh, hfresh, heq⟩ := h p' hlink
  obtain ⟨hsamplers, hvariables, hstrides, hmode⟩ := link_uncleared hlink
  obtain ⟨hsamplers', hvariables', hstrides', hmode'⟩ := link_uncleared hfresh
  have hblocks : p.mShaderStorageBlocks = [] := hasserts.shaderStorageBlocks
  exact {
    shaderStorageBlocks := hblocks
    bufferVariables := by
      have hlength := congrArg (fun p : ProgramState => p.mBufferVariables.length) heq
      change p'.mBufferVariables.length = fresh.mBufferVariables.length at hlength
      rw [hvariables, hvariables', hblocks, length_linkBlocks_vars] at hlength
      exact length_eq_zero_iff.mp (Nat.add_eq_left.mp hlength)
    strides := fun hcompute => by
      have h := congrArg (fun p : ProgramState => p.mTransformFeedbackStrides) heq
      exact (hstrides hcompute).symm.trans (h.trans (hstrides' hcompute))
    bufferMode := by
      have h := congrArg (fun p : ProgramState => p.mTransformFeedbackBufferMode) heq
      exact hmode.symm.trans (h.trans hmode')
    samplers := by
      have h := congrArg (fun p : ProgramState => p.toProgramState) heq
      change p'.toProgramState.forgetIdleFormats = fresh.toProgramState.forgetIdleFormats at h
      rw [hsamplers, hsamplers'] at h
      exact (link_forgets_iff _ _).mp h }

/-! ## Runs -/

inductive Operation
  | setTransformFeedbackBufferMode (bufferMode : GLenum)
  | link (context : Context) (link : Link)
  | loadBinary (context : Context) (computeAttached : Bool) (binary : List UInt8)
  /-- A link or a load that fails, with what it has made of the program until then. -/
  | fails (left : ProgramState)

def step : ProgramState → Operation → Option ProgramState
  | p, .setTransformFeedbackBufferMode bufferMode =>
    some { p with mTransformFeedbackBufferMode := bufferMode }
  | p, .link context link => p.link context link
  | p, .loadBinary context computeAttached binary =>
    ((LinkedProgram.loadBinary p context computeAttached).run ⟨binary, false⟩).1
  | _, .fails left => some { left with mLinked := false }

/-- The asserts of an operation hold, and what a link leaves does not depend on the past. -/
def ForgetsPast (p : ProgramState) : Operation → Prop
  | .link context link => p.unlink.LinkAsserts ∧ p.LinksAsNew context link
  | .loadBinary .. => p.unlink.LoadAsserts
  | .setTransformFeedbackBufferMode _ | .fails _ => True

/-- The storage blocks and their variables, the samplers, the strides and the buffer mode are as
in a new program, as far as the operation does not replace them. -/
def IsRelinkable (p : ProgramState) : Operation → Prop
  | .link _ link => p.Relinkable link
  | .loadBinary .. => p.mShaderStorageBlocks = [] ∧ p.mBufferVariables = []
  | .setTransformFeedbackBufferMode _ | .fails _ => True

theorem loadAsserts_iff (p : ProgramState) :
    p.unlink.LoadAsserts ↔ p.mShaderStorageBlocks = [] ∧ p.mBufferVariables = [] := by
  constructor
  · intro h
    exact ⟨h.shaderStorageBlocks, h.bufferVariables⟩
  · rintro ⟨hblocks, hvariables⟩
    exact ⟨rfl, rfl, rfl, rfl, hvariables, hblocks, rfl, rfl, rfl, rfl, rfl⟩

theorem forgetsPast_iff {p : ProgramState} {operation : Operation}
    (hstep : step p operation = some p') :
    p.ForgetsPast operation ↔ p.IsRelinkable operation := by
  cases operation with
  | setTransformFeedbackBufferMode bufferMode => exact Iff.rfl
  | link context link =>
      constructor
      · rintro ⟨hasserts, hnew⟩
        exact relinkable_of_linksAsNew hstep hasserts hnew
      · intro h
        exact ⟨⟨rfl, h.shaderStorageBlocks⟩, linksAsNew_of_relinkable h context⟩
  | loadBinary context computeAttached binary => exact p.loadAsserts_iff
  | fails left => exact Iff.rfl

/-- The steps of a run all forget the past if and only if each finds the program as a new one in
what `unlink` does not clear. -/
theorem run_forgetsPast_iff {p p' : ProgramState} {operations : List Operation} :
    Run step ForgetsPast p operations p' ↔ Run step IsRelinkable p operations p' :=
  Run.guard_congr fun _ _ _ hstep => forgetsPast_iff hstep

/-! ### A storage block -/

/-- The link of a vertex shader and a fragment shader that uses the storage block `B`. -/
def storageLink : Link :=
  { samplerLink none with
    attachedShaders
      | .Vertex => some ⟨[], [], [], []⟩
      | .Fragment =>
        some ⟨[], [], [], [⟨textOf "B".toList, textOf "_uB".toList, 0, 0, true, false, []⟩]⟩
      | .Geometry | .Compute => none
    shaderStorageBlockLayouts := ⟨fun _ _ => some 16, fun _ _ => none⟩ }

/-- A second link adds the storage block to that of the first one. -/
theorem relink_keepsStorageBlock :
    ¬ ∀ (operations : List Operation) (p : ProgramState),
      Run step anyStep init operations p → Run step ForgetsPast init operations p := by
  intro hall
  have hfirst : ∃ p, step init (.link plainContext storageLink) = some p := ⟨_, rfl⟩
  obtain ⟨p, hp⟩ := hfirst
  have hsecond : ∃ q, step p (.link plainContext storageLink) = some q := by
    cases hp
    exact ⟨_, rfl⟩
  obtain ⟨q, hq⟩ := hsecond
  have hrun := hall [.link plainContext storageLink, .link plainContext storageLink] q
    (.cons trivial hp (.cons trivial hq (.nil q)))
  cases hrun with
  | cons _ hp' hrest =>
    cases hp.symm.trans hp'
    cases hrest with
    | cons hforgets _ _ =>
        have hblocks := congrArg length hforgets.1.shaderStorageBlocks
        cases hp
        cases hblocks

end ProgramState

end MetalAngle.Gl.LinkedProgram
