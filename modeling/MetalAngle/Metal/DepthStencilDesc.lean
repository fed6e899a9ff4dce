import Mathlib.Tactic.Common

/-!
# The depth and stencil state of `ContextMtl`

`syncState` handles the dirty bits of the GL state by updates of `mDepthStencilDesc`, each of which
writes a part of the descriptor and reads the current GL state.  A draw applies the descriptor to
the encoder of the render pass, without the tests that the pass has no attachment for.
-/

namespace MetalAngle.Metal.DepthStencil

inductive CompareFunc
  | GL_NEVER
  | GL_ALWAYS
  | GL_LESS
  | GL_LEQUAL
  | GL_EQUAL
  | GL_GREATER
  | GL_GEQUAL
  | GL_NOTEQUAL
deriving DecidableEq

inductive StencilOp
  | GL_KEEP
  | GL_ZERO
  | GL_REPLACE
  | GL_INCR
  | GL_DECR
  | GL_INCR_WRAP
  | GL_DECR_WRAP
  | GL_INVERT
deriving DecidableEq

structure StencilState where
  func : CompareFunc
  mask : BitVec 32
  fail : StencilOp
  passDepthFail : StencilOp
  passDepthPass : StencilOp
  writemask : BitVec 32
deriving DecidableEq

structure DepthStencilState where
  depthTest : Bool
  depthFunc : CompareFunc
  depthMask : Bool
  stencilTest : Bool
  stencil : StencilState
  stencilBack : StencilState
deriving DecidableEq

def StencilState.init : StencilState where
  func := .GL_ALWAYS
  mask := BitVec.allOnes 32
  fail := .GL_KEEP
  passDepthFail := .GL_KEEP
  passDepthPass := .GL_KEEP
  writemask := BitVec.allOnes 32

def DepthStencilState.init : DepthStencilState where
  depthTest := false
  depthFunc := .GL_LESS
  depthMask := true
  stencilTest := false
  stencil := .init
  stencilBack := .init

inductive DirtyBit
  | depthTestEnabled
  | depthFunc
  | depthMask
  | stencilTestEnabled
  | stencilFuncsFront
  | stencilFuncsBack
  | stencilOpsFront
  | stencilOpsBack
  | stencilWritemaskFront
  | stencilWritemaskBack
deriving DecidableEq

def DirtyBit.all : List DirtyBit :=
  [.depthTestEnabled, .depthFunc, .depthMask, .stencilTestEnabled, .stencilFuncsFront,
    .stencilFuncsBack, .stencilOpsFront, .stencilOpsBack, .stencilWritemaskFront,
    .stencilWritemaskBack]

theorem DirtyBit.mem_all (bit : DirtyBit) : bit ∈ DirtyBit.all := by
  cases bit <;> decide

structure GLState where
  depthStencil : DepthStencilState
  stencilRef : Int
  stencilBackRef : Int
deriving DecidableEq

inductive MTLCompareFunction
  | Never
  | Less
  | Equal
  | LessEqual
  | Greater
  | NotEqual
  | GreaterEqual
  | Always

inductive MTLStencilOperation
  | Keep
  | Zero
  | Replace
  | IncrementClamp
  | DecrementClamp
  | Invert
  | IncrementWrap
  | DecrementWrap

def getCompareFunc : CompareFunc → MTLCompareFunction
  | .GL_NEVER => .Never
  | .GL_ALWAYS => .Always
  | .GL_LESS => .Less
  | .GL_LEQUAL => .LessEqual
  | .GL_EQUAL => .Equal
  | .GL_GREATER => .Greater
  | .GL_GEQUAL => .GreaterEqual
  | .GL_NOTEQUAL => .NotEqual

def getStencilOp : StencilOp → MTLStencilOperation
  | .GL_KEEP => .Keep
  | .GL_ZERO => .Zero
  | .GL_REPLACE => .Replace
  | .GL_INCR => .IncrementClamp
  | .GL_DECR => .DecrementClamp
  | .GL_INCR_WRAP => .IncrementWrap
  | .GL_DECR_WRAP => .DecrementWrap
  | .GL_INVERT => .Invert

/-- `mask & mtl::kStencilMaskAll`, in the bit field of a descriptor. -/
def stencilBits (mask : BitVec 32) : BitVec 8 := (mask &&& 0xff#32).setWidth 8

structure StencilDesc where
  stencilFailureOperation : MTLStencilOperation
  depthFailureOperation : MTLStencilOperation
  depthStencilPassOperation : MTLStencilOperation
  stencilCompareFunction : MTLCompareFunction
  readMask : BitVec 8
  writeMask : BitVec 8

namespace StencilDesc

def reset : StencilDesc where
  stencilFailureOperation := .Keep
  depthFailureOperation := .Keep
  depthStencilPassOperation := .Keep
  stencilCompareFunction := .Always
  readMask := stencilBits (BitVec.allOnes 32)
  writeMask := stencilBits (BitVec.allOnes 32)

variable (desc : StencilDesc) (stencilTest : Bool) (state : StencilState)

/-- What `updateStencilTestEnabled` makes of a face when the test is disabled. -/
def disable : StencilDesc :=
  { desc with
    stencilCompareFunction := .Always
    depthFailureOperation := .Keep
    depthStencilPassOperation := .Keep
    writeMask := 0 }

def updateOps : StencilDesc :=
  if !stencilTest then desc
  else
    { desc with
      stencilFailureOperation := getStencilOp state.fail
      depthFailureOperation := getStencilOp state.passDepthFail
      depthStencilPassOperation := getStencilOp state.passDepthPass }

def updateFuncs : StencilDesc :=
  if !stencilTest then desc
  else
    { desc with
      stencilCompareFunction := getCompareFunc state.func
      readMask := stencilBits state.mask }

def updateWriteMask : StencilDesc :=
  if !stencilTest then desc else { desc with writeMask := stencilBits state.writemask }

end StencilDesc

structure DepthStencilDesc where
  backFaceStencil : StencilDesc
  frontFaceStencil : StencilDesc
  depthCompareFunction : MTLCompareFunction
  depthWriteEnabled : Bool

namespace DepthStencilDesc

def reset : DepthStencilDesc where
  backFaceStencil := .reset
  frontFaceStencil := .reset
  depthCompareFunction := .Always
  depthWriteEnabled := true

variable (desc : DepthStencilDesc) (dsState : DepthStencilState)

def updateDepthWriteEnabled : DepthStencilDesc :=
  { desc with depthWriteEnabled := dsState.depthTest && dsState.depthMask }

def updateDepthCompareFunc : DepthStencilDesc :=
  if !dsState.depthTest then desc
  else { desc with depthCompareFunction := getCompareFunc dsState.depthFunc }

def updateDepthTestEnabled : DepthStencilDesc :=
  if !dsState.depthTest then
    { desc with
      depthCompareFunction := .Always
      depthWriteEnabled := false }
  else (desc.updateDepthCompareFunc dsState).updateDepthWriteEnabled dsState

def updateStencilFrontOps : DepthStencilDesc :=
  { desc with
    frontFaceStencil := desc.frontFaceStencil.updateOps dsState.stencilTest dsState.stencil }

def updateStencilBackOps : DepthStencilDesc :=
  { desc with
    backFaceStencil := desc.backFaceStencil.updateOps dsState.stencilTest dsState.stencilBack }

def updateStencilFrontFuncs : DepthStencilDesc :=
  { desc with
    frontFaceStencil := desc.frontFaceStencil.updateFuncs dsState.stencilTest dsState.stencil }

def updateStencilBackFuncs : DepthStencilDesc :=
  { desc with
    backFaceStencil := desc.backFaceStencil.updateFuncs dsState.stencilTest dsState.stencilBack }

def updateStencilFrontWriteMask : DepthStencilDesc :=
  { desc with
    frontFaceStencil :=
      desc.frontFaceStencil.updateWriteMask dsState.stencilTest dsState.stencil }

def updateStencilBackWriteMask : DepthStencilDesc :=
  { desc with
    backFaceStencil :=
      desc.backFaceStencil.updateWriteMask dsState.stencilTest dsState.stencilBack }

def updateStencilTestEnabled : DepthStencilDesc :=
  if !dsState.stencilTest then
    { desc with
      frontFaceStencil := desc.frontFaceStencil.disable
      backFaceStencil := desc.backFaceStencil.disable }
  else
    (((((desc.updateStencilFrontFuncs dsState).updateStencilFrontOps dsState
      ).updateStencilFrontWriteMask dsState).updateStencilBackFuncs dsState
      ).updateStencilBackOps dsState).updateStencilBackWriteMask dsState

end DepthStencilDesc

namespace StencilDesc

variable (desc : StencilDesc) (state : StencilState)

/-- The part of `updateStencilTestEnabled` that is about one face. -/
def updateTestEnabled (stencilTest : Bool) : StencilDesc :=
  if !stencilTest then desc.disable
  else ((desc.updateFuncs stencilTest state).updateOps stencilTest state).updateWriteMask
    stencilTest state

theorem updateOps_updateFuncs (stencilTest : Bool) :
    (desc.updateOps stencilTest state).updateFuncs stencilTest state =
      (desc.updateFuncs stencilTest state).updateOps stencilTest state := by
  cases stencilTest <;> rfl

theorem updateWriteMask_updateFuncs (stencilTest : Bool) :
    (desc.updateWriteMask stencilTest state).updateFuncs stencilTest state =
      (desc.updateFuncs stencilTest state).updateWriteMask stencilTest state := by
  cases stencilTest <;> rfl

theorem updateWriteMask_updateOps (stencilTest : Bool) :
    (desc.updateWriteMask stencilTest state).updateOps stencilTest state =
      (desc.updateOps stencilTest state).updateWriteMask stencilTest state := by
  cases stencilTest <;> rfl

end StencilDesc

namespace DepthStencilDesc

variable (desc : DepthStencilDesc) (dsState : DepthStencilState)

theorem updateDepthTestEnabled_eq :
    desc.updateDepthTestEnabled dsState = { desc with
        depthCompareFunction :=
          if dsState.depthTest then getCompareFunc dsState.depthFunc else .Always
        depthWriteEnabled := dsState.depthTest && dsState.depthMask } := by
  unfold updateDepthTestEnabled updateDepthCompareFunc updateDepthWriteEnabled
  cases dsState.depthTest <;> rfl

theorem updateDepthCompareFunc_eq :
    desc.updateDepthCompareFunc dsState = { desc with
        depthCompareFunction :=
          if dsState.depthTest then getCompareFunc dsState.depthFunc
          else desc.depthCompareFunction } := by
  unfold updateDepthCompareFunc
  cases dsState.depthTest <;> rfl

theorem updateStencilTestEnabled_eq :
    desc.updateStencilTestEnabled dsState = { desc with
        frontFaceStencil :=
          desc.frontFaceStencil.updateTestEnabled dsState.stencil dsState.stencilTest
        backFaceStencil :=
          desc.backFaceStencil.updateTestEnabled dsState.stencilBack dsState.stencilTest } := by
  obtain ⟨_, _, _, stencilTest, _, _⟩ := dsState
  cases stencilTest <;> rfl

end DepthStencilDesc

structure RenderPassDesc where
  colorAttachments : List (Option Nat)
  depthAttachment : Option Nat
  stencilAttachment : Option Nat
deriving DecidableEq

def MTLCompareFunction.passes : MTLCompareFunction → Ordering → Bool
  | .Never, _ => false
  | .Less, order => order.isLT
  | .Equal, order => order.isEq
  | .LessEqual, order => order.isLE
  | .Greater, order => order.isGT
  | .NotEqual, order => order.isNe
  | .GreaterEqual, order => order.isGE
  | .Always, _ => true

def MTLStencilOperation.apply (reference value : BitVec 8) : MTLStencilOperation → BitVec 8
  | .Keep => value
  | .Zero => 0
  | .Replace => reference
  | .IncrementClamp => if value = 255 then value else value + 1
  | .DecrementClamp => if value = 0 then value else value - 1
  | .Invert => ~~~value
  | .IncrementWrap => value + 1
  | .DecrementWrap => value - 1

structure Fragment (Depth : Type) where
  frontFacing : Bool
  depth : Depth

structure Sample (Depth : Type) where
  depth : Depth
  stencil : BitVec 8

namespace StencilDesc

variable (desc : StencilDesc) (reference : BitVec 8)

def passes (value : BitVec 8) : Bool :=
  desc.stencilCompareFunction.passes
    (compare (reference &&& desc.readMask).toNat (value &&& desc.readMask).toNat)

def operation (stencilPasses depthPasses : Bool) : MTLStencilOperation :=
  if !stencilPasses then desc.stencilFailureOperation
  else if !depthPasses then desc.depthFailureOperation
  else desc.depthStencilPassOperation

def write (stencilPasses depthPasses : Bool) (value : BitVec 8) : BitVec 8 :=
  (value &&& ~~~desc.writeMask) |||
    ((desc.operation stencilPasses depthPasses).apply reference value &&& desc.writeMask)

end StencilDesc

namespace DepthStencilDesc

variable {Depth : Type} [Ord Depth]

/-- Whether a fragment passes, and what its sample holds then; a test without an attachment passes
and writes nothing. -/
def test (desc : DepthStencilDesc) (pass : RenderPassDesc) (reference : Bool → BitVec 8)
    (fragment : Fragment Depth) (sample : Sample Depth) : Bool × Sample Depth :=
  let face := if fragment.frontFacing then desc.frontFaceStencil else desc.backFaceStencil
  let reference := reference fragment.frontFacing
  let stencilPasses := pass.stencilAttachment.isNone || face.passes reference sample.stencil
  let depthPasses := pass.depthAttachment.isNone ||
    desc.depthCompareFunction.passes (compare fragment.depth sample.depth)
  let passes := stencilPasses && depthPasses
  (passes,
    { depth :=
        if passes && pass.depthAttachment.isSome && desc.depthWriteEnabled then fragment.depth
        else sample.depth
      stencil :=
        if pass.stencilAttachment.isSome then
          face.write reference stencilPasses depthPasses sample.stencil
        else sample.stencil })

/-- The descriptor that `handleDirtyDepthStencilState` applies. -/
def forRenderPass (desc : DepthStencilDesc) (pass : RenderPassDesc) : DepthStencilDesc :=
  let desc :=
    if pass.depthAttachment.isNone then
      { desc with
        depthWriteEnabled := false
        depthCompareFunction := .Always }
    else desc
  if pass.stencilAttachment.isNone then
    { desc with
      frontFaceStencil := .reset
      backFaceStencil := .reset }
  else desc

theorem test_forRenderPass (desc : DepthStencilDesc) (pass : RenderPassDesc)
    (reference : Bool → BitVec 8) (fragment : Fragment Depth) (sample : Sample Depth) :
    (desc.forRenderPass pass).test pass reference fragment sample =
      desc.test pass reference fragment sample := by
  obtain ⟨_, depthAttachment, stencilAttachment⟩ := pass
  cases depthAttachment <;> cases stencilAttachment <;> simp [test, forRenderPass]

end DepthStencilDesc

namespace StencilDesc

/-- The faces let the same values pass and write the same ones. -/
def TestsAlike (desc other : StencilDesc) : Prop :=
  ∀ reference value, desc.passes reference value = other.passes reference value ∧
    ∀ depthPasses, desc.write reference (desc.passes reference value) depthPasses value =
      other.write reference (other.passes reference value) depthPasses value

theorem TestsAlike.refl (desc : StencilDesc) : desc.TestsAlike desc :=
  fun _ _ => ⟨rfl, fun _ => rfl⟩

theorem passes_disable (desc : StencilDesc) (reference value : BitVec 8) :
    desc.disable.passes reference value := rfl

theorem write_disable (desc : StencilDesc) (reference value : BitVec 8) (depthPasses : Bool) :
    desc.disable.write reference true depthPasses value = value := by
  have hkeep : (desc.disable.operation true depthPasses).apply reference value = value := by
    cases depthPasses <;> rfl
  have hmask : desc.disable.writeMask = 0#8 := rfl
  rw [write, hkeep, hmask, BitVec.and_zero, BitVec.or_zero, BitVec.not_zero, BitVec.and_allOnes]

theorem testsAlike_disable (desc other : StencilDesc) : desc.disable.TestsAlike other.disable := by
  intro reference value
  rw [passes_disable, passes_disable]
  refine ⟨rfl, fun depthPasses => ?_⟩
  rw [write_disable, write_disable]

end StencilDesc

namespace DepthStencilDesc

variable {Depth : Type} [Ord Depth]

theorem test_congr {desc other : DepthStencilDesc}
    (hcompare : desc.depthCompareFunction = other.depthCompareFunction)
    (hwrite : desc.depthWriteEnabled = other.depthWriteEnabled)
    (hfront : desc.frontFaceStencil.TestsAlike other.frontFaceStencil)
    (hback : desc.backFaceStencil.TestsAlike other.backFaceStencil) (pass : RenderPassDesc)
    (reference : Bool → BitVec 8) (fragment : Fragment Depth) (sample : Sample Depth) :
    desc.test pass reference fragment sample = other.test pass reference fragment sample := by
  have hface :
      (if fragment.frontFacing then desc.frontFaceStencil else desc.backFaceStencil).TestsAlike
        (if fragment.frontFacing then other.frontFaceStencil else other.backFaceStencil) := by
    split
    · exact hfront
    · exact hback
  obtain ⟨hpasses, hstencil⟩ := hface (reference fragment.frontFacing) sample.stencil
  unfold test
  dsimp only
  rw [hcompare, hwrite]
  cases hattachment : pass.stencilAttachment with
  | none => rfl
  | some texture =>
      rw [Option.isNone_some, Bool.false_or, Bool.false_or, hstencil, hpasses]

end DepthStencilDesc

end MetalAngle.Metal.DepthStencil
