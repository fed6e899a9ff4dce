import MetalAngle.Gl.ProgramLink
import MetalAngle.Gl.SamplerLinks

/-!
# Loads of linked programs

A program is linked, saved and loaded into a new program.  The load leaves what the link has left
but for the fields that are not saved and that the load computes in another way.
-/

namespace MetalAngle.Gl.LinkedProgram

open TokenStream BinaryStream Linking ProgramState List

def newProgram (link : Link) : ProgramState :=
  { ProgramState.init with mTransformFeedbackBufferMode := link.transformFeedbackBufferMode }

def ImageUniform.linked (imageUniform : ImageUniform) : ImageBinding :=
  { imageUniform.imageBinding with unreferenced := imageUniform.unreferenced }

theorem ImageUniform.imageBinding_unreferenced (imageUniform : ImageUniform) :
    imageUniform.imageBinding.unreferenced = false := by
  unfold imageBinding
  split <;> rfl

theorem markUnreferenced_imageBindings (imageUniforms : List ImageUniform) :
    List.zipWith (fun binding imageUniform =>
        { binding with
          unreferenced := binding.unreferenced || ImageUniform.unreferenced imageUniform })
      (imageUniforms.map (·.imageBinding)) imageUniforms = imageUniforms.map (·.linked) := by
  rw [zipWith_map_left, zipWith_self]
  simp [ImageUniform.linked, ImageUniform.imageBinding_unreferenced]

/-- What the link of a new program leaves in the fields that depend on others. -/
structure LinkedFrom (context : Context) (link : Link) (p : ProgramState) : Prop where
  samplers : p.toProgramState =
    ActiveSamplers.ProgramState.init.link (.succeeds link.samplerUniforms)
  images : p.mImageBindings = link.imageUniforms.map (·.linked)
  imagesMask : p.mActiveImagesMask =
    ProgramState.markActiveImages p.mImageBindings (fun _ => false)
  blockBindings : p.mActiveUniformBlockBindings =
    setActiveUniformBlockBindings (fun _ => false) 0 p.mUniformBlocks
  strides : p.mTransformFeedbackStrides =
    if link.isCompute then []
    else ProgramState.transformFeedbackStrides p.mTransformFeedbackBufferMode
      p.mLinkedTransformFeedbackVaryings
  drawID : p.mDrawIDLocation =
    if context.multiDraw then p.getUniformLocation "gl_DrawID".toList else -1
  baseVertex : p.mBaseVertexLocation =
    if context.baseVertexBaseInstance then p.getUniformLocation "gl_BaseVertex".toList else -1
  baseInstance : p.mBaseInstanceLocation =
    if context.baseVertexBaseInstance then p.getUniformLocation "gl_BaseInstance".toList else -1
  cachedBaseVertex : p.mCachedBaseVertex = 0
  cachedBaseInstance : p.mCachedBaseInstance = 0

theorem linkedFrom_of_link {context : Context} {link : Link} {p : ProgramState}
    (h : (newProgram link).link context link = some p) : LinkedFrom context link p := by
  unfold ProgramState.link at h
  split at h
  · cases h
  · rename_i interface hinterface
    obtain ⟨-, h⟩ := Option.ite_none_right_eq_some.mp h
    obtain ⟨inputs, outputs, hgather⟩ :=
      (newProgram link).unlink.gatherLink_eq link interface
    rw [hgather, resolveLink, postResolveLink_eq] at h
    cases h
    exact {
      samplers := rfl
      images := markUnreferenced_imageBindings link.imageUniforms
      imagesMask := rfl
      blockBindings := rfl
      strides := rfl
      drawID := rfl
      baseVertex := rfl
      baseInstance := rfl
      cachedBaseVertex := rfl
      cachedBaseInstance := rfl }

/-! ## What a load leaves -/

theorem finishDeserialize_eq (p : ProgramState) (context : Context) (computeAttached : Bool) :
    finishDeserialize p context computeAttached = ({ p with
        mTransformFeedbackStrides :=
          if computeAttached then p.mTransformFeedbackStrides
          else ProgramState.transformFeedbackStrides p.mTransformFeedbackBufferMode
            p.mLinkedTransformFeedbackVaryings } : ProgramState).postResolveLink context := by
  unfold finishDeserialize
  cases computeAttached <;> rfl

theorem getUniformLocation_saved (p : ProgramState) (name : Name) :
    ({ p with mUniforms := p.mUniforms.map .saved } : ProgramState).getUniformLocation name =
      p.getUniformLocation name := by
  unfold getUniformLocation
  rw [map_map]
  rfl

def reloaded (context : Context) (computeAttached : Bool) (p : ProgramState) : ProgramState :=
  { p with
    toProgramState :=
      { ActiveSamplers.ProgramState.init with
        mSamplerBindings := p.mSamplerBindings.map savedSampler
        mLinked := true }.updateActiveSamplers
    mUniforms := p.mUniforms.map .saved
    mActiveUniformBlockBindings :=
      setActiveUniformBlockBindings (fun _ => false) 0 p.mUniformBlocks
    mImageBindings := p.mImageBindings.map .saved
    mActiveImagesMask :=
      ProgramState.markActiveImages (p.mImageBindings.map .saved) (fun _ => false)
    mTransformFeedbackStrides :=
      if computeAttached then []
      else ProgramState.transformFeedbackStrides p.mTransformFeedbackBufferMode
        p.mLinkedTransformFeedbackVaryings
    mDrawIDLocation :=
      if context.multiDraw then p.getUniformLocation "gl_DrawID".toList else -1
    mBaseVertexLocation :=
      if context.baseVertexBaseInstance then p.getUniformLocation "gl_BaseVertex".toList else -1
    mBaseInstanceLocation :=
      if context.baseVertexBaseInstance then p.getUniformLocation "gl_BaseInstance".toList
      else -1
    mCachedBaseVertex := 0
    mCachedBaseInstance := 0 }

theorem finishDeserialize_restore (p : ProgramState) (context : Context) (computeAttached : Bool) :
    ({ finishDeserialize (restore p ProgramState.init.unlink) context computeAttached with
      mLinked := true } : ProgramState) = reloaded context computeAttached p := by
  have hsamplers := ActiveSamplers.ProgramState.updateActiveSamplers_linked
    { ActiveSamplers.ProgramState.init with
      mSamplerBindings := p.mSamplerBindings.map savedSampler } true
  rw [finishDeserialize_eq, postResolveLink_eq, reloaded, hsamplers]
  simp only [← getUniformLocation_saved p]
  rfl

variable {bytes : List UInt8}

theorem loadBinary_serialize {context : Context} {p : ProgramState}
    (hbytes : (serialize p context).run [] = some ((), bytes)) (computeAttached : Bool)
    (h : CanLoadVaryings p context) (rest : List UInt8) :
    (loadBinary .init context computeAttached).run ⟨bytes ++ rest, false⟩ =
      (some (reloaded context computeAttached p), ⟨rest, false⟩) := by
  have hreads := (reads_deserialize p init.unlink context computeAttached h).last
    (Option.map fun p : ProgramState => { p with mLinked := true })
  obtain ⟨tokens, hafter, hread⟩ := hreads [] bytes hbytes
  rw [nil_append] at hafter
  subst hafter
  rw [← finishDeserialize_restore p context computeAttached]
  exact hread rest

theorem loadBinary_rejects {context : Context} {p : ProgramState}
    (hbytes : (serialize p context).run [] = some ((), bytes)) (computeAttached : Bool)
    (h : ¬ CanLoadVaryings p context) (rest : List UInt8) :
    ((loadBinary .init context computeAttached).run ⟨bytes ++ rest, false⟩).1 = none := by
  obtain ⟨tokens, hafter, hread⟩ :=
    deserialize_rejects p init.unlink context computeAttached h [] bytes hbytes
  rw [nil_append] at hafter
  subst hafter
  show Option.map _ ((deserialize _ context computeAttached).run _).1 = none
  rw [hread rest]
  rfl

/-! ## Loads that leave what the link has left -/

def ProgramState.forDraws (p : ProgramState) : ProgramState :=
  { p with
    mUniforms := p.mUniforms.mapIdx fun i uniform =>
      if p.mSamplerUniformRange.contains i then uniform else uniform.saved }

section Parts

variable {context : Context} {link : Link} {p : ProgramState}

theorem reloaded_samplers_iff (h : LinkedFrom context link p) (computeAttached : Bool) :
    (reloaded context computeAttached p).toProgramState = p.toProgramState ↔
      ∀ uniform ∈ link.samplerUniforms, uniform.KeepsFirstUnit := by
  have hbindings : p.mSamplerBindings = link.samplerUniforms.map (·.linked) := by
    rw [h.samplers, ActiveSamplers.ProgramState.link_bindings]
  have hsaved : p.mSamplerBindings.map savedSampler =
      link.samplerUniforms.map ActiveSamplers.SamplerUniform.made := by
    rw [hbindings, map_map]
    exact map_congr_left fun uniform _ => uniform.make_linked
  constructor
  · intro heq uniform hmem
    have hunits := congrArg ActiveSamplers.ProgramState.mSamplerBindings heq
    rw [reloaded, ActiveSamplers.ProgramState.updateActiveSamplers_bindings] at hunits
    rw [hsaved, hbindings] at hunits
    exact uniform.linked_eq_made_iff.mp (map_inj_left.mp hunits uniform hmem).symm
  · intro hkeeps
    rw [h.samplers, ActiveSamplers.ProgramState.link_keepsFirstUnit _ hkeeps, reloaded, hsaved]

theorem reloaded_images_iff (h : LinkedFrom context link p) (computeAttached : Bool) :
    (reloaded context computeAttached p).mImageBindings = p.mImageBindings ↔
      ∀ imageUniform ∈ link.imageUniforms, imageUniform.unreferenced = false := by
  show p.mImageBindings.map .saved = p.mImageBindings ↔ _
  rw [h.images, map_map, map_inj_left]
  refine forall₂_congr fun imageUniform _ => ?_
  simp only [Function.comp_apply, ImageUniform.linked, ImageBinding.saved, ImageBinding.mk.injEq,
    true_and]
  exact eq_comm

theorem transformFeedbackStrides_eq_nil_iff (mode : GLenum)
    (varyings : List TransformFeedbackVarying) :
    ProgramState.transformFeedbackStrides mode varyings = [] ↔
      mode ≠ GL_INTERLEAVED_ATTRIBS ∧ varyings = [] := by
  unfold transformFeedbackStrides
  split
  · simp [*]
  · simp [*]

theorem reloaded_strides_iff (h : LinkedFrom context link p) (computeAttached : Bool) :
    (reloaded context computeAttached p).mTransformFeedbackStrides = p.mTransformFeedbackStrides ↔
      computeAttached = link.isCompute ∨ (p.mTransformFeedbackBufferMode ≠ GL_INTERLEAVED_ATTRIBS ∧
          p.mLinkedTransformFeedbackVaryings = []) := by
  rw [h.strides, reloaded, ← transformFeedbackStrides_eq_nil_iff]
  cases computeAttached <;> cases link.isCompute <;>
    simp [eq_comm (a := ([] : List Nat))]

theorem reloaded_uniforms_iff (computeAttached : Bool) :
    (reloaded context computeAttached p).forDraws.mUniforms = p.forDraws.mUniforms ↔
      ∀ (i : Nat) (uniform : LinkedUniform), p.mUniforms[i]? = some uniform →
        p.mSamplerUniformRange.contains i → uniform.outerArraySizes = [] := by
  have hsaved (uniform : LinkedUniform) :
      uniform.saved = uniform ↔ uniform.outerArraySizes = [] := by
    constructor
    · intro heq
      rw [← heq]
      rfl
    · intro hnil
      rw [LinkedUniform.saved, ← hnil]
  have hread : (reloaded context computeAttached p).forDraws.mUniforms =
      p.mUniforms.map .saved := by
    simp only [forDraws, reloaded]
    apply ext_getElem?
    intro i
    simp only [getElem?_mapIdx, getElem?_map, Option.map_map]
    congr 1
    funext uniform
    exact ite_self uniform.saved
  rw [hread]
  constructor
  · intro heq i uniform huniform hsampler
    have hi := congrArg (·[i]?) heq
    simpa [forDraws, huniform, hsampler, hsaved] using hi
  · intro hall
    apply ext_getElem?
    intro i
    simp only [forDraws, getElem?_mapIdx, getElem?_map]
    cases huniform : p.mUniforms[i]? with
    | none => rfl
    | some uniform =>
        by_cases hsampler : p.mSamplerUniformRange.contains i
        · simp [hsampler, (hsaved uniform).mpr (hall i uniform huniform hsampler)]
        · simp [hsampler]

/-- The condition under which a load leaves what the link has left. -/
structure Reloadable (context : Context) (computeAttached : Bool) (link : Link)
    (p : ProgramState) : Prop where
  varyings : CanLoadVaryings p context
  samplers : ∀ uniform ∈ link.samplerUniforms, uniform.KeepsFirstUnit
  images : ∀ imageUniform ∈ link.imageUniforms, imageUniform.unreferenced = false
  outerArraySizes : ∀ (i : Nat) (uniform : LinkedUniform), p.mUniforms[i]? = some uniform →
    p.mSamplerUniformRange.contains i → uniform.outerArraySizes = []
  strides : computeAttached = link.isCompute ∨
    (p.mTransformFeedbackBufferMode ≠ GL_INTERLEAVED_ATTRIBS ∧
      p.mLinkedTransformFeedbackVaryings = [])

theorem forDraws_reloaded_iff (h : LinkedFrom context link p) (computeAttached : Bool)
    (hvaryings : CanLoadVaryings p context) :
    (reloaded context computeAttached p).forDraws = p.forDraws ↔
      Reloadable context computeAttached link p := by
  constructor
  · intro heq
    have hsamplers := congrArg toProgramState heq
    have himages := congrArg mImageBindings heq
    have huniforms := congrArg (fun p : ProgramState => p.mUniforms) heq
    have hstrides := congrArg mTransformFeedbackStrides heq
    exact {
      varyings := hvaryings
      samplers := (reloaded_samplers_iff h computeAttached).mp hsamplers
      images := (reloaded_images_iff h computeAttached).mp himages
      outerArraySizes := (reloaded_uniforms_iff computeAttached).mp huniforms
      strides := (reloaded_strides_iff h computeAttached).mp hstrides }
  · intro hreloadable
    have hsamplers := (reloaded_samplers_iff h computeAttached).mpr hreloadable.samplers
    have himages := (reloaded_images_iff h computeAttached).mpr hreloadable.images
    have hstrides := (reloaded_strides_iff h computeAttached).mpr hreloadable.strides
    have huniforms : (reloaded context computeAttached p).forDraws.mUniforms =
        p.forDraws.mUniforms :=
      (reloaded_uniforms_iff computeAttached).mpr hreloadable.outerArraySizes
    have hmask : (reloaded context computeAttached p).mActiveImagesMask =
        p.mActiveImagesMask := by
      rw [h.imagesMask, ← himages]
      rfl
    have hinterface : (reloaded context computeAttached p).forDraws.toLinkedInterface =
        p.forDraws.toLinkedInterface :=
      congrArg (fun uniforms => { p.toLinkedInterface with mUniforms := uniforms }) huniforms
    exact ext_parts hsamplers hinterface rfl h.blockBindings.symm rfl rfl rfl rfl rfl himages
      hmask rfl hstrides rfl h.drawID.symm h.baseVertex.symm h.baseInstance.symm
      h.cachedBaseVertex.symm h.cachedBaseInstance.symm

end Parts

/-- A program is loaded that agrees with the one that was saved, and the load takes just the bytes
that were written for the front end. -/
def ReloadsAsLinked (context : Context) (computeAttached : Bool) (p : ProgramState)
    (bytes : List UInt8) : Prop :=
  ∀ rest, ∃ loaded, (loadBinary .init context computeAttached).run ⟨bytes ++ rest, false⟩ =
      (some loaded, ⟨rest, false⟩) ∧ loaded.forDraws = p.forDraws

theorem reloadsAsLinked_iff_forDraws {context : Context} {p : ProgramState}
    (hbytes : (serialize p context).run [] = some ((), bytes)) (computeAttached : Bool)
    (hvaryings : CanLoadVaryings p context) :
    ReloadsAsLinked context computeAttached p bytes ↔
      (reloaded context computeAttached p).forDraws = p.forDraws := by
  have hload := loadBinary_serialize hbytes computeAttached hvaryings
  constructor
  · intro hreloads
    obtain ⟨loaded, hrun, heq⟩ := hreloads []
    rw [hload []] at hrun
    cases congrArg Prod.fst hrun
    exact heq
  · intro heq rest
    exact ⟨_, hload rest, heq⟩

/-- A load of a linked program leaves what the link has left if and only if the driver can load
the captured varyings, no sampler in use is bound to another unit than the first one by its
layout, no image is unreferenced, no sampler has outer array sizes, and the stages that are
attached agree with those that were linked or have no strides. -/
theorem reloadsAsLinked_iff {context : Context} {link : Link} {p : ProgramState}
    (hlink : (newProgram link).link context link = some p) {bytes : List UInt8}
    (hbytes : (serialize p context).run [] = some ((), bytes)) (computeAttached : Bool) :
    ReloadsAsLinked context computeAttached p bytes ↔
      Reloadable context computeAttached link p := by
  have hfrom := linkedFrom_of_link hlink
  by_cases hvaryings : CanLoadVaryings p context
  · rw [reloadsAsLinked_iff_forDraws hbytes computeAttached hvaryings]
    exact forDraws_reloaded_iff hfrom computeAttached hvaryings
  · constructor
    · intro hreloads
      obtain ⟨loaded, hrun, -⟩ := hreloads []
      have hnone := loadBinary_rejects hbytes computeAttached hvaryings []
      rw [hrun] at hnone
      cases hnone
    · intro hreloadable
      exact absurd hreloadable.varyings hvaryings

/-! ### A sampler with a layout -/

def plainContext : Context where
  ANGLE_COMMIT_HASH := [1, 2]
  clientMajorVersion := 3
  clientMinorVersion := 1
  disableProgramCachingForTransformFeedback := false
  multiDraw := false
  baseVertexBaseInstance := false

def noLayouts : BlockLayouts := ⟨fun _ _ => none, fun _ _ => none⟩

/-- The uniform `s` of type `sampler2D` that a fragment shader uses. -/
def samplerVariable : LinkedUniform where
  type := 0x8B5E
  precision := 0
  name := textOf "s".toList
  mappedName := textOf "_us".toList
  arraySizes := []
  staticUse := true
  active := true
  structName := []
  flattenedOffsetInParentArrays := -1
  bufferIndex := -1
  blockInfo := ⟨-1, false, -1, -1, -1⟩
  activeShaders shaderType := shaderType = .Fragment
  outerArraySizes := []

/-- The link of a vertex and a fragment shader with the sampler `s`, with or without a layout. -/
def samplerLink (binding : Option (List ActiveSamplers.TextureUnit)) : Link where
  attachedShaders
    | .Vertex | .Fragment => some ⟨[], [], [], []⟩
    | .Geometry | .Compute => none
  transformFeedbackBufferMode := GL_INTERLEAVED_ATTRIBS
  stages _ interface := some { interface with
    mUniforms := [samplerVariable]
    mUniformLocations := [⟨0, 0, false⟩] }
  samplerUniformRange := ⟨0, 1⟩
  imageUniformRange := ⟨1, 1⟩
  atomicCounterUniformRange := ⟨1, 1⟩
  samplerUniforms := [⟨._2D, .Float, 1, binding, false⟩]
  imageUniforms := []
  uniformBlockLayouts := noLayouts
  shaderStorageBlockLayouts := noLayouts
  atomicCounterBufferSizes _ := 0
  isUnusedLocation _ := false
  backEndLinks := true

def samplerProgram (binding : Option (List ActiveSamplers.TextureUnit)) : ProgramState :=
  ((newProgram (samplerLink binding)).unlink.gatherLink (samplerLink binding)
    { LinkedInterface.cleared with
      mUniforms := [samplerVariable]
      mUniformLocations := [⟨0, 0, false⟩] }).resolveLink plainContext (samplerLink binding)

theorem samplerProgram_link (binding : Option (List ActiveSamplers.TextureUnit)) :
    (newProgram (samplerLink binding)).link plainContext (samplerLink binding) =
      some (samplerProgram binding) := rfl

theorem samplerProgram_serialize (binding : Option (List ActiveSamplers.TextureUnit))
    (h : ((serialize (samplerProgram binding) plainContext).run []).isSome) :
    ∃ bytes, (serialize (samplerProgram binding) plainContext).run [] = some ((), bytes) := by
  obtain ⟨⟨⟨⟩, bytes⟩, hbytes⟩ := Option.isSome_iff_exists.mp h
  exact ⟨bytes, hbytes⟩

theorem reloadsAsLinked_iff_sampler :
    ∃ bytes, (serialize (samplerProgram none) plainContext).run [] = some ((), bytes) ∧
      ReloadsAsLinked plainContext false (samplerProgram none) bytes := by
  obtain ⟨bytes, hbytes⟩ := samplerProgram_serialize none (by decide +kernel)
  refine ⟨bytes, hbytes, (reloadsAsLinked_iff (samplerProgram_link none) hbytes false).mpr ?_⟩
  have huniforms : (samplerProgram none).mUniforms = [samplerVariable] := rfl
  exact {
    varyings := .inl rfl
    samplers := by simp [samplerLink, ActiveSamplers.SamplerUniform.KeepsFirstUnit]
    images := by simp [samplerLink]
    outerArraySizes := by
      intro i uniform huniform _
      rw [huniforms] at huniform
      obtain rfl := mem_singleton.mp (mem_of_getElem? huniform)
      rfl
    strides := .inl rfl }

/-- A sampler with `layout(binding = 1)` is at the first unit after a load. -/
theorem reload_losesSamplerUnit :
    ¬ ∀ (context : Context) (link : Link) (p : ProgramState) (bytes : List UInt8),
      (newProgram link).link context link = some p →
        (serialize p context).run [] = some ((), bytes) →
          ReloadsAsLinked context link.isCompute p bytes := by
  intro hall
  let units : List ActiveSamplers.TextureUnit := [⟨1, by decide⟩]
  obtain ⟨bytes, hbytes⟩ := samplerProgram_serialize (some units) (by decide +kernel)
  have hlink := samplerProgram_link (some units)
  have hvaryings : CanLoadVaryings (samplerProgram (some units)) plainContext := .inl rfl
  have hreloads := hall plainContext (samplerLink (some units)) _ bytes hlink hbytes
  have heq := (reloadsAsLinked_iff_forDraws hbytes false hvaryings).mp hreloads
  have hreloadable := (forDraws_reloaded_iff (linkedFrom_of_link hlink) false hvaryings).mp heq
  have hkeeps := hreloadable.samplers ⟨._2D, .Float, 1, some units, false⟩ mem_cons_self
  have hunit := hkeeps rfl units rfl ⟨1, by decide⟩ mem_cons_self
  exact absurd hunit (by decide)

end MetalAngle.Gl.LinkedProgram
