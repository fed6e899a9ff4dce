import MetalAngle.Lib.DirtyBits
import MetalAngle.Lib.LabelledRun
import MetalAngle.Metal.DepthStencilDesc

/-!
# Synchronization of the depth and stencil state

Each dirty bit brings some aspects of the depth and stencil state of `ContextMtl` up to date: what
the descriptor has to be when a test is disabled, and the parts of it that matter when the test is
enabled.  When all dirty bits have been dealt with, in whatever order and in however many groups,
the native state tests and writes as that of a descriptor that is built anew.
-/

namespace MetalAngle.Metal.DepthStencil

open DirtyBits DepthStencilDesc StencilDesc

/-- The depth and stencil state of `ContextMtl`. -/
structure ContextState where
  mDepthStencilDesc : DepthStencilDesc
  mStencilRefFront : Nat
  mStencilRefBack : Nat

def ContextState.init : ContextState := ⟨.reset, 0, 0⟩

/-- `gl::clamp` to the range from 0 to `kStencilMaskAll`. -/
def clampStencilRef (stencilRef : Int) : Nat := (max 0 (min stencilRef 0xff)).toNat

/-- `syncState` for one dirty bit. -/
def syncDirtyBit (bit : DirtyBit) (glState : GLState) (c : ContextState) : ContextState :=
  let desc := c.mDepthStencilDesc
  let dsState := glState.depthStencil
  match bit with
  | .depthTestEnabled => { c with mDepthStencilDesc := desc.updateDepthTestEnabled dsState }
  | .depthFunc => { c with mDepthStencilDesc := desc.updateDepthCompareFunc dsState }
  | .depthMask => { c with mDepthStencilDesc := desc.updateDepthWriteEnabled dsState }
  | .stencilTestEnabled => { c with mDepthStencilDesc := desc.updateStencilTestEnabled dsState }
  | .stencilFuncsFront =>
      { c with
        mDepthStencilDesc := desc.updateStencilFrontFuncs dsState
        mStencilRefFront := clampStencilRef glState.stencilRef }
  | .stencilFuncsBack =>
      { c with
        mDepthStencilDesc := desc.updateStencilBackFuncs dsState
        mStencilRefBack := clampStencilRef glState.stencilBackRef }
  | .stencilOpsFront => { c with mDepthStencilDesc := desc.updateStencilFrontOps dsState }
  | .stencilOpsBack => { c with mDepthStencilDesc := desc.updateStencilBackOps dsState }
  | .stencilWritemaskFront =>
      { c with mDepthStencilDesc := desc.updateStencilFrontWriteMask dsState }
  | .stencilWritemaskBack =>
      { c with mDepthStencilDesc := desc.updateStencilBackWriteMask dsState }

inductive Face
  | front
  | back

def Face.state (face : Face) (dsState : DepthStencilState) : StencilState :=
  match face with
  | .front => dsState.stencil
  | .back => dsState.stencilBack

def Face.desc (face : Face) (c : ContextState) : StencilDesc :=
  match face with
  | .front => c.mDepthStencilDesc.frontFaceStencil
  | .back => c.mDepthStencilDesc.backFaceStencil

def Face.glRef (face : Face) (glState : GLState) : Int :=
  match face with
  | .front => glState.stencilRef
  | .back => glState.stencilBackRef

def Face.ref (face : Face) (c : ContextState) : Nat :=
  match face with
  | .front => c.mStencilRefFront
  | .back => c.mStencilRefBack

def Face.funcs : Face → DirtyBit
  | .front => .stencilFuncsFront
  | .back => .stencilFuncsBack

def Face.ops : Face → DirtyBit
  | .front => .stencilOpsFront
  | .back => .stencilOpsBack

def Face.writemask : Face → DirtyBit
  | .front => .stencilWritemaskFront
  | .back => .stencilWritemaskBack

section

variable (bit : DirtyBit) (glState : GLState) (c : ContextState)

theorem depthCompareFunction_syncDirtyBit :
    (syncDirtyBit bit glState c).mDepthStencilDesc.depthCompareFunction =
      match bit with
      | .depthTestEnabled =>
          if glState.depthStencil.depthTest then getCompareFunc glState.depthStencil.depthFunc
          else .Always
      | .depthFunc =>
          if glState.depthStencil.depthTest then getCompareFunc glState.depthStencil.depthFunc
          else c.mDepthStencilDesc.depthCompareFunction
      | _ => c.mDepthStencilDesc.depthCompareFunction := by
  cases bit with
  | depthTestEnabled => rw [syncDirtyBit, updateDepthTestEnabled_eq]
  | depthFunc => rw [syncDirtyBit, updateDepthCompareFunc_eq]
  | stencilTestEnabled => rw [syncDirtyBit, updateStencilTestEnabled_eq]
  | _ => rfl

theorem depthWriteEnabled_syncDirtyBit :
    (syncDirtyBit bit glState c).mDepthStencilDesc.depthWriteEnabled =
      match bit with
      | .depthTestEnabled | .depthMask =>
          glState.depthStencil.depthTest && glState.depthStencil.depthMask
      | _ => c.mDepthStencilDesc.depthWriteEnabled := by
  cases bit with
  | depthTestEnabled => rw [syncDirtyBit, updateDepthTestEnabled_eq]
  | depthFunc => rw [syncDirtyBit, updateDepthCompareFunc_eq]
  | stencilTestEnabled => rw [syncDirtyBit, updateStencilTestEnabled_eq]
  | _ => rfl

theorem desc_syncDirtyBit (face : Face) :
    face.desc (syncDirtyBit bit glState c) =
      let desc := face.desc c
      let state := face.state glState.depthStencil
      let stencilTest := glState.depthStencil.stencilTest
      if bit = .stencilTestEnabled then desc.updateTestEnabled state stencilTest
      else if bit = face.funcs then desc.updateFuncs stencilTest state
      else if bit = face.ops then desc.updateOps stencilTest state
      else if bit = face.writemask then desc.updateWriteMask stencilTest state
      else desc := by
  cases bit with
  | depthTestEnabled =>
      rw [syncDirtyBit, updateDepthTestEnabled_eq]
      cases face <;> rfl
  | depthFunc =>
      rw [syncDirtyBit, updateDepthCompareFunc_eq]
      cases face <;> rfl
  | stencilTestEnabled =>
      rw [syncDirtyBit, updateStencilTestEnabled_eq]
      cases face <;> rfl
  | _ => cases face <;> rfl

theorem ref_syncDirtyBit (face : Face) :
    face.ref (syncDirtyBit bit glState c) =
      if bit = face.funcs then clampStencilRef (face.glRef glState) else face.ref c := by
  cases face <;> cases bit <;> rfl

end

inductive Aspect
  | depthDisabled
  | depthFunc
  | depthMask
  | stencilDisabled (face : Face)
  | stencilFuncs (face : Face)
  | stencilOps (face : Face)
  | stencilWritemask (face : Face)
  | stencilRef (face : Face)

/-- The bits that bring an aspect up to date. -/
def Aspect.refreshedBy (aspect : Aspect) (bit : DirtyBit) : Prop :=
  match aspect with
  | .depthDisabled => bit = .depthTestEnabled
  | .depthFunc => bit = .depthTestEnabled ∨ bit = .depthFunc
  | .depthMask => bit = .depthTestEnabled ∨ bit = .depthMask
  | .stencilDisabled _ => bit = .stencilTestEnabled
  | .stencilFuncs face => bit = .stencilTestEnabled ∨ bit = face.funcs
  | .stencilOps face => bit = .stencilTestEnabled ∨ bit = face.ops
  | .stencilWritemask face => bit = .stencilTestEnabled ∨ bit = face.writemask
  | .stencilRef face => bit = face.funcs

/-- A part of a face is up to date when its update changes nothing. -/
def Fresh (aspect : Aspect) (glState : GLState) (c : ContextState) : Prop :=
  let desc := c.mDepthStencilDesc
  let dsState := glState.depthStencil
  match aspect with
  | .depthDisabled =>
      dsState.depthTest = false →
        desc.depthCompareFunction = .Always ∧ desc.depthWriteEnabled = false
  | .depthFunc =>
      dsState.depthTest → desc.depthCompareFunction = getCompareFunc dsState.depthFunc
  | .depthMask => dsState.depthTest → desc.depthWriteEnabled = dsState.depthMask
  | .stencilDisabled face => dsState.stencilTest = false → (face.desc c).disable = face.desc c
  | .stencilFuncs face =>
      dsState.stencilTest →
        (face.desc c).updateFuncs true (face.state dsState) = face.desc c
  | .stencilOps face =>
      dsState.stencilTest →
        (face.desc c).updateOps true (face.state dsState) = face.desc c
  | .stencilWritemask face =>
      dsState.stencilTest →
        (face.desc c).updateWriteMask true (face.state dsState) = face.desc c
  | .stencilRef face => face.ref c = clampStencilRef (face.glRef glState)

section

variable {aspect : Aspect} {bit : DirtyBit} {glState : GLState} {c : ContextState}

theorem fresh_syncDirtyBit (glState : GLState) (c : ContextState) (hbit : aspect.refreshedBy bit) :
    Fresh aspect glState (syncDirtyBit bit glState c) := by
  cases aspect with
  | depthDisabled =>
      intro htest
      rw [depthCompareFunction_syncDirtyBit, depthWriteEnabled_syncDirtyBit, htest, hbit]
      exact ⟨rfl, rfl⟩
  | depthFunc =>
      intro htest
      rw [depthCompareFunction_syncDirtyBit, htest]
      rcases hbit with rfl | rfl <;> rfl
  | depthMask =>
      intro htest
      rw [depthWriteEnabled_syncDirtyBit, htest]
      rcases hbit with rfl | rfl <;> rfl
  | stencilDisabled face =>
      intro htest
      rw [show bit = .stencilTestEnabled from hbit, desc_syncDirtyBit, htest]
      rfl
  | stencilFuncs face =>
      intro htest
      rw [desc_syncDirtyBit, htest]
      rcases hbit with rfl | rfl <;> cases face <;> rfl
  | stencilOps face =>
      intro htest
      rw [desc_syncDirtyBit, htest]
      rcases hbit with rfl | rfl <;> cases face <;> rfl
  | stencilWritemask face =>
      intro htest
      rw [desc_syncDirtyBit, htest]
      rcases hbit with rfl | rfl <;> cases face <;> rfl
  | stencilRef face =>
      exact (ref_syncDirtyBit bit glState c face).trans (if_pos hbit)

theorem desc_syncDirtyBit_disabled (face : Face) (htest : glState.depthStencil.stencilTest = false)
    (hbit : bit ≠ .stencilTestEnabled) :
    face.desc (syncDirtyBit bit glState c) = face.desc c := by
  rw [desc_syncDirtyBit, htest, if_neg hbit]
  split_ifs <;> rfl

theorem fresh_syncDirtyBit_frame (hbit : ¬ aspect.refreshedBy bit) (h : Fresh aspect glState c) :
    Fresh aspect glState (syncDirtyBit bit glState c) := by
  cases aspect with
  | depthDisabled =>
    intro htest
    obtain ⟨hcompare, hwrite⟩ := h htest
    rw [depthCompareFunction_syncDirtyBit, depthWriteEnabled_syncDirtyBit, htest]
    cases bit with
    | depthTestEnabled => exact absurd rfl hbit
    | depthMask => exact ⟨hcompare, rfl⟩
    | _ => exact ⟨hcompare, hwrite⟩
  | depthFunc =>
    intro htest
    rw [depthCompareFunction_syncDirtyBit]
    cases bit with
    | depthTestEnabled => exact absurd (.inl rfl) hbit
    | depthFunc => exact absurd (.inr rfl) hbit
    | _ => exact h htest
  | depthMask =>
    intro htest
    rw [depthWriteEnabled_syncDirtyBit]
    cases bit with
    | depthTestEnabled => exact absurd (.inl rfl) hbit
    | depthMask => exact absurd (.inr rfl) hbit
    | _ => exact h htest
  | stencilDisabled face =>
      intro htest
      rw [desc_syncDirtyBit_disabled face htest hbit]
      exact h htest
  | stencilFuncs face =>
    intro htest
    obtain ⟨hne, hne'⟩ := not_or.mp hbit
    have hfresh := h htest
    rw [desc_syncDirtyBit, htest, if_neg hne, if_neg hne']
    split
    · rw [updateOps_updateFuncs, hfresh]
    · split
      · rw [updateWriteMask_updateFuncs, hfresh]
      · exact hfresh
  | stencilOps face =>
    intro htest
    obtain ⟨hne, hne'⟩ := not_or.mp hbit
    have hfresh := h htest
    rw [desc_syncDirtyBit, htest, if_neg hne, if_neg hne']
    split
    · rw [← updateOps_updateFuncs, hfresh]
    · split
      · rw [updateWriteMask_updateOps, hfresh]
      · exact hfresh
  | stencilWritemask face =>
    intro htest
    obtain ⟨hne, hne'⟩ := not_or.mp hbit
    have hfresh := h htest
    rw [desc_syncDirtyBit, htest, if_neg hne, if_neg hne']
    split
    · rw [← updateWriteMask_updateFuncs, hfresh]
    · split
      · rw [← updateWriteMask_updateOps, hfresh]
      · exact hfresh
  | stencilRef face =>
      exact ((ref_syncDirtyBit bit glState c face).trans (if_neg hbit)).trans h

end

def tracker : Tracker GLState ContextState DirtyBit Aspect where
  update := syncDirtyBit
  Fresh := Fresh
  refreshedBy := Aspect.refreshedBy
  refreshed aspect := by
    cases aspect <;> first | exact ⟨_, rfl⟩ | exact ⟨_, .inl rfl⟩
  fresh_update := fresh_syncDirtyBit
  fresh_frame := fresh_syncDirtyBit_frame

section

variable {glState : GLState} {c c' : ContextState}

section

variable (h : ∀ aspect, Fresh aspect glState c)
include h

theorem depth_of_fresh :
    c.mDepthStencilDesc.depthCompareFunction =
        (if glState.depthStencil.depthTest then getCompareFunc glState.depthStencil.depthFunc
          else .Always) ∧
      c.mDepthStencilDesc.depthWriteEnabled =
        (glState.depthStencil.depthTest && glState.depthStencil.depthMask) := by
  cases htest : glState.depthStencil.depthTest with
  | false => exact h .depthDisabled htest
  | true => exact ⟨h .depthFunc htest, h .depthMask htest⟩

theorem desc_of_fresh (face : Face)
    (htest : glState.depthStencil.stencilTest) :
    face.desc c = (StencilDesc.reset.updateTestEnabled (face.state glState.depthStencil) true) := by
  have hfuncs := h (.stencilFuncs face) htest
  have hops := h (.stencilOps face) htest
  have hwritemask := h (.stencilWritemask face) htest
  calc face.desc c = (face.desc c).updateTestEnabled (face.state glState.depthStencil) true := by
        show _ = (((face.desc c).updateFuncs true _).updateOps true _).updateWriteMask true _
        rw [hfuncs, hops, hwritemask]
    _ = reset.updateTestEnabled (face.state glState.depthStencil) true := rfl

theorem testsAlike_of_fresh (h' : ∀ aspect, Fresh aspect glState c') (face : Face) :
    (face.desc c).TestsAlike (face.desc c') := by
  cases htest : glState.depthStencil.stencilTest with
  | true =>
      rw [desc_of_fresh h face htest, desc_of_fresh h' face htest]
      exact .refl _
  | false =>
      rw [← h (.stencilDisabled face) htest, ← h' (.stencilDisabled face) htest]
      exact testsAlike_disable _ _

theorem test_of_fresh (h' : ∀ aspect, Fresh aspect glState c') {Depth : Type} [Ord Depth] (pass : RenderPassDesc)
    (reference : Bool → BitVec 8) (fragment : Fragment Depth) (sample : Sample Depth) :
    (c.mDepthStencilDesc.forRenderPass pass).test pass reference fragment sample =
      (c'.mDepthStencilDesc.forRenderPass pass).test pass reference fragment sample := by
  obtain ⟨hcompare, hwrite⟩ := depth_of_fresh h
  obtain ⟨hcompare', hwrite'⟩ := depth_of_fresh h'
  rw [test_forRenderPass, test_forRenderPass]
  exact test_congr (hcompare.trans hcompare'.symm) (hwrite.trans hwrite'.symm)
    (testsAlike_of_fresh h h' .front) (testsAlike_of_fresh h h' .back) pass reference fragment
    sample

end

end

end MetalAngle.Metal.DepthStencil
