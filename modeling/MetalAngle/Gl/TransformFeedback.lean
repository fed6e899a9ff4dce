import MetalAngle.Gl.VertexAttribute
import MetalAngle.Lib.LabelledRun

/-!
# Transform feedback

A transform feedback object that is active counts the vertices that draws have captured.  The number
of vertices that its buffers have room for is computed once, when it begins, and draws are validated
against it.
-/

namespace MetalAngle.Gl.Capture

abbrev BufferPtr := Nat
abbrev TransformFeedbackID := Nat

inductive PrimitiveMode
  | Points | Lines | LineLoop | LineStrip | Triangles | TriangleStrip | TriangleFan
  | LinesAdjacency | LineStripAdjacency | TrianglesAdjacency | TriangleStripAdjacency
deriving DecidableEq

namespace PrimitiveMode

/-- `kMinimumPrimitiveCounts`. -/
def minimumCount : PrimitiveMode → Int
  | Points => 1
  | Lines => 2
  | LineLoop => 2
  | LineStrip => 2
  | Triangles => 3
  | TriangleStrip => 3
  | TriangleFan => 3
  | LinesAdjacency => 2
  | LineStripAdjacency => 2
  | TrianglesAdjacency => 3
  | TriangleStripAdjacency => 3

/-- The modes of `beginTransformFeedback`. -/
def capturable : PrimitiveMode → Bool
  | Points => true
  | Lines => true
  | Triangles => true
  | _ => false

def assembled (mode : PrimitiveMode) (count : Int) : Int :=
  match mode with
  | Points => count
  | Lines => count - count % 2
  | LineLoop => if 2 ≤ count then 2 * count else 0
  | LineStrip => if 2 ≤ count then 2 * (count - 1) else 0
  | Triangles => count - count % 3
  | TriangleStrip => if 3 ≤ count then 3 * (count - 2) else 0
  | TriangleFan => if 3 ≤ count then 3 * (count - 2) else 0
  | _ => 0

end PrimitiveMode

def getVerticesNeededForDraw (primitiveMode : PrimitiveMode) (count primcount : Int) : Int :=
  if count < 0 ∨ primcount < 0 then 0
  else
    match primitiveMode with
    | .Triangles => primcount * (count - count % 3)
    | .Lines => primcount * (count - count % 2)
    | _ => primcount * count

/-- `OffsetBindingPointer<Buffer>` with a buffer. A call without a range binds with size 0. -/
structure Binding where
  buffer : BufferPtr
  offset : Int
  size : Int

structure Program where
  strides : List Nat
  nonempty : strides ≠ []
  positive : ∀ stride ∈ strides, 0 < stride

structure TransformFeedback where
  mActive : Bool
  mPrimitiveMode : Option PrimitiveMode
  mPaused : Bool
  mVerticesDrawn : Int
  mVertexCapacity : Int
  mProgram : Option Program
  mIndexedBuffers : Nat → Option Binding

def TransformFeedback.new : TransformFeedback :=
  { mActive := false, mPrimitiveMode := none, mPaused := false, mVerticesDrawn := 0,
    mVertexCapacity := 0, mProgram := none, mIndexedBuffers := fun _ => none }

/-- `GetBoundBufferAvailableSize` of a binding with a buffer of the given size. -/
def getBoundBufferAvailableSize (bufferSize : Int) (binding : Binding) : Int :=
  if binding.size = 0 then bufferSize
  else
    let difference : Option Int := do
      let last ← checkedInt64 (binding.offset + binding.size)
      checkedInt64 (last - bufferSize)
    match difference with
    | none => 0
    | some difference =>
        if difference > 0 then (checkedInt64 (binding.size - difference)).getD 0
        else binding.size

/-- A context, of which `captured` is what the draws have captured for each object since it began. -/
structure Context where
  geometryShader : Bool
  maxTransformFeedbackSeparateAttributes : Nat
  mSize : BufferPtr → Int
  program : Option Program
  mTransformFeedback : TransformFeedbackID
  transformFeedbacks : TransformFeedbackID → TransformFeedback
  mCachedTransformFeedbackActiveUnpaused : Bool
  captured : TransformFeedbackID → Int

inductive DrawCall
  | drawArrays | drawArraysInstanced | drawArraysInstancedBaseInstance
  | multiDrawArrays | multiDrawArraysInstanced | multiDrawArraysInstancedBaseInstance
  | drawElements
deriving DecidableEq

/-- One draw of a call.  `emitted` is what is captured of an instance when the number of vertices
does not tell it: with indices, or when the program has a geometry shader. -/
structure SubDraw where
  count : Int
  instanceCount : Int
  emitted : Nat

structure Draw where
  call : DrawCall
  mode : PrimitiveMode
  geometryStage : Bool
  draws : List SubDraw

namespace DrawCall

def instances (call : DrawCall) (draw : SubDraw) : Int :=
  match call with
  | drawArrays => 1
  | multiDrawArrays => 1
  | _ => draw.instanceCount

/-- The instances that the call passes to `MarkTransformFeedbackBufferUsage`. -/
def markedInstances (call : DrawCall) (draw : SubDraw) : Int :=
  match call with
  | drawArrays => 1
  | multiDrawArrays => 1
  | drawArraysInstancedBaseInstance => 1
  | _ => draw.instanceCount

/-- `noopDraw` and `noopDrawInstanced`. -/
def noop (call : DrawCall) (mode : PrimitiveMode) (draw : SubDraw) : Bool :=
  match call with
  | drawArraysInstanced => draw.instanceCount = 0 ∨ draw.count < mode.minimumCount
  | multiDrawArraysInstanced => draw.instanceCount = 0 ∨ draw.count < mode.minimumCount
  | multiDrawArraysInstancedBaseInstance =>
      draw.instanceCount = 0 ∨ draw.count < mode.minimumCount
  | _ => draw.count < mode.minimumCount

def multi : DrawCall → Bool
  | multiDrawArrays => true
  | multiDrawArraysInstanced => true
  | multiDrawArraysInstancedBaseInstance => true
  | drawElements => true
  | _ => false

end DrawCall

def Draw.captures (draw : Draw) (d : SubDraw) : Int :=
  if draw.call.noop draw.mode d ∨ draw.call.instances d ≤ 0 then 0
  else if draw.call = .drawElements ∨ draw.geometryStage then draw.call.instances d * d.emitted
  else draw.call.instances d * draw.mode.assembled d.count

def Draw.counts (draw : Draw) (primitiveMode : PrimitiveMode) (d : SubDraw) : Int :=
  if draw.call = .drawElements ∨ draw.call.noop draw.mode d then 0
  else getVerticesNeededForDraw primitiveMode d.count (draw.call.markedInstances d)

inductive Action
  | beginTransformFeedback (primitiveMode : PrimitiveMode)
  | pauseTransformFeedback
  | resumeTransformFeedback
  | endTransformFeedback
  | bindTransformFeedback (t : TransformFeedbackID)
  | deleteTransformFeedback (t : TransformFeedbackID)
  | bindIndexedBuffer (index : Nat) (binding : Option Binding)
  | useProgram (program : Option Program)
  | bufferData (p : BufferPtr) (size : Int)
  | deleteBuffer (p : BufferPtr)
  | draw (draw : Draw)

namespace Context

variable (c : Context)

def current : TransformFeedback := c.transformFeedbacks c.mTransformFeedback

def isTransformFeedbackActiveUnpaused : Bool := c.current.mActive && !c.current.mPaused

def modifyCurrent (f : TransformFeedback → TransformFeedback) : Context :=
  { c with
    transformFeedbacks :=
      Function.update c.transformFeedbacks c.mTransformFeedback (f c.current) }

def onActiveTransformFeedbackChange : Context :=
  { c with mCachedTransformFeedbackActiveUnpaused := c.isTransformFeedbackActiveUnpaused }

def availableSize (tf : TransformFeedback) (index : Nat) : Int :=
  match tf.mIndexedBuffers index with
  | none => 0
  | some binding => getBoundBufferAvailableSize (c.mSize binding.buffer) binding

def vertexCapacity (tf : TransformFeedback) (program : Program) : Int :=
  program.strides.zipIdx.foldl
    (fun minCapacity (stride, index) => min minCapacity ((c.availableSize tf index).tdiv stride))
    int64Max

/-- `TransformFeedback::begin`. -/
def beginTransformFeedback (primitiveMode : PrimitiveMode) : Context :=
  let begun := c.modifyCurrent fun tf =>
    { tf with
      mActive := true, mPrimitiveMode := some primitiveMode, mPaused := false
      mVerticesDrawn := 0, mProgram := c.program
      mVertexCapacity := c.program.elim 0 (c.vertexCapacity tf) }
  let begun := { begun with captured := Function.update c.captured c.mTransformFeedback 0 }
  begun.onActiveTransformFeedbackChange

def endTransformFeedback : Context :=
  (c.modifyCurrent fun tf =>
    { tf with
      mActive := false, mPrimitiveMode := none, mPaused := false, mVerticesDrawn := 0
      mVertexCapacity := 0, mProgram := none }).onActiveTransformFeedbackChange

def pauseTransformFeedback : Context :=
  (c.modifyCurrent fun tf => { tf with mPaused := true }).onActiveTransformFeedbackChange

def resumeTransformFeedback : Context :=
  (c.modifyCurrent fun tf => { tf with mPaused := false }).onActiveTransformFeedbackChange

def bindTransformFeedback (t : TransformFeedbackID) : Context := { c with mTransformFeedback := t }

def deleteTransformFeedback (t : TransformFeedbackID) : Context :=
  let c := if t = c.mTransformFeedback then c.bindTransformFeedback 0 else c
  { c with transformFeedbacks := Function.update c.transformFeedbacks t .new }

def bindIndexedBuffer (index : Nat) (binding : Option Binding) : Context :=
  c.modifyCurrent fun tf =>
    { tf with mIndexedBuffers := Function.update tf.mIndexedBuffers index binding }

def detachBuffer (p : BufferPtr) : Context :=
  c.modifyCurrent fun tf =>
    { tf with mIndexedBuffers := fun index =>
        (tf.mIndexedBuffers index).filter fun binding => binding.buffer ≠ p }

def bufferData (p : BufferPtr) (size : Int) : Context :=
  { c with mSize := Function.update c.mSize p size }

def checkBufferSpaceForDraw (count primcount : Int) : Bool :=
  match checkedInt64 (c.current.mVerticesDrawn +
    getVerticesNeededForDraw (c.current.mPrimitiveMode.getD .Points) count primcount) with
  | none => false
  | some vertices => vertices ≤ c.current.mVertexCapacity

/-- `StateCache::updateValidDrawModes` while transform feedback is active. -/
def validDrawMode (mode : PrimitiveMode) : Bool :=
  if c.geometryShader then
    match mode with
    | .Points => c.current.mPrimitiveMode = some .Points
    | .Lines => c.current.mPrimitiveMode = some .Lines
    | .LineStrip => c.current.mPrimitiveMode = some .Lines
    | .LineLoop => c.current.mPrimitiveMode = some .Lines
    | .Triangles => c.current.mPrimitiveMode = some .Triangles
    | .TriangleStrip => c.current.mPrimitiveMode = some .Triangles
    | .TriangleFan => c.current.mPrimitiveMode = some .Triangles
    | _ => false
  else c.current.mPrimitiveMode = some mode

def validateSubDraw (call : DrawCall) (d : SubDraw) : Bool :=
  0 ≤ d.count ∧ 0 ≤ call.instances d ∧
    (call ≠ .drawElements → 0 < d.count → c.mCachedTransformFeedbackActiveUnpaused →
      c.checkBufferSpaceForDraw d.count (call.instances d))

def validateDraw (draw : Draw) : Bool :=
  c.program.isSome ∧ (draw.call.multi ∨ draw.draws.length = 1) ∧
    (draw.geometryStage → c.geometryShader) ∧
    (c.mCachedTransformFeedbackActiveUnpaused → c.validDrawMode draw.mode) ∧
    (draw.call = .drawElements → c.mCachedTransformFeedbackActiveUnpaused → c.geometryShader) ∧
    ∀ d ∈ draw.draws, c.validateSubDraw draw.call d

def onVerticesDrawn (vertices : Int) : Option Context :=
  (checkedInt64 (c.current.mVerticesDrawn + vertices)).map fun drawn =>
    c.modifyCurrent fun tf => { tf with mVerticesDrawn := drawn }

def capture (vertices : Int) : Context :=
  if c.isTransformFeedbackActiveUnpaused then
    { c with
      captured :=
        Function.update c.captured c.mTransformFeedback
          (c.captured c.mTransformFeedback + vertices) }
  else c

def drawOne (draw : Draw) (d : SubDraw) : Option Context :=
  let c := c.capture (draw.captures d)
  if c.mCachedTransformFeedbackActiveUnpaused then
    c.onVerticesDrawn (draw.counts (c.current.mPrimitiveMode.getD .Points) d)
  else some c

def draw (draw : Draw) : Option Context := draw.draws.foldlM (fun c d => c.drawOne draw d) c

def validates : Action → Bool
  | .beginTransformFeedback primitiveMode =>
      primitiveMode.capturable && !c.current.mActive && c.program.isSome
  | .pauseTransformFeedback => c.current.mActive && !c.current.mPaused
  | .resumeTransformFeedback => c.current.mActive && c.current.mPaused
  | .endTransformFeedback => c.current.mActive
  | .bindTransformFeedback _ => !c.isTransformFeedbackActiveUnpaused
  | .deleteTransformFeedback t => t ≠ 0 ∧ (c.transformFeedbacks t).mActive = false
  | .bindIndexedBuffer index binding =>
      index < c.maxTransformFeedbackSeparateAttributes ∧ c.current.mActive = false ∧
        ∀ b ∈ binding, 0 ≤ b.offset ∧ 0 ≤ b.size ∧ b.offset % 4 = 0 ∧ b.size % 4 = 0
  | .useProgram _ => !c.isTransformFeedbackActiveUnpaused
  | .bufferData _ size => 0 ≤ size
  | .deleteBuffer _ => true
  | .draw draw => c.validateDraw draw

def apply : Action → Option Context
  | .beginTransformFeedback primitiveMode => some (c.beginTransformFeedback primitiveMode)
  | .pauseTransformFeedback => some c.pauseTransformFeedback
  | .resumeTransformFeedback => some c.resumeTransformFeedback
  | .endTransformFeedback => some c.endTransformFeedback
  | .bindTransformFeedback t => some (c.bindTransformFeedback t)
  | .deleteTransformFeedback t => some (c.deleteTransformFeedback t)
  | .bindIndexedBuffer index binding => some (c.bindIndexedBuffer index binding)
  | .useProgram program => some { c with program := program }
  | .bufferData p size => some (c.bufferData p size)
  | .deleteBuffer p => some (c.detachBuffer p)
  | .draw draw => c.draw draw

def step (c : Context) (action : Action) : Option Context :=
  if c.validates action then c.apply action else none

def initial (geometryShader : Bool) (maxTransformFeedbackSeparateAttributes : Nat) : Context :=
  { geometryShader := geometryShader
    maxTransformFeedbackSeparateAttributes := maxTransformFeedbackSeparateAttributes
    mSize := fun _ => 0
    program := none
    mTransformFeedback := 0
    transformFeedbacks := fun _ => .new
    mCachedTransformFeedbackActiveUnpaused := false
    captured := fun _ => 0 }

end Context

end MetalAngle.Gl.Capture
