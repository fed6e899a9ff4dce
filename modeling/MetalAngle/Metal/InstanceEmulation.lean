import MetalAngle.Gl.TransformFeedback
import MetalAngle.Lib.Fallible

/-!
# Emulated instancing

On a device that cannot draw instances from a base, `ContextMtl` draws an instanced call as one draw
for each instance.  Between the draws it writes the number of the instance to the driver uniforms
and binds the vertex buffers with a divisor again, at the element of the next instance.  This module
is about such devices: the feature `hasBaseVertexInstancedDraw` is off.

`GetPrimitiveTopologyClass` is a constant, so the topology never changes the pipeline.
-/

namespace MetalAngle.Metal.InstanceEmulation

open MetalAngle.Gl.Capture (PrimitiveMode)
open Fallible

abbrev kMaxVertexAttribs : Nat := 16

abbrev kVertexAttribBufferStrideAlignment : Nat := 4

abbrev kInlineConstDataMaxSize : Nat := 4 * 1024

abbrev BufferID := Nat

abbrev Pointer := Nat

def uint32 (n : Nat) : Nat := n % 2 ^ 32

def UnsignedCeilDivide (value divisor : Nat) : Nat :=
  value / divisor + if value % divisor = 0 then 0 else 1

/-! ## The render command encoder -/

/-- What a vertex buffer index of the encoder is bound to: a buffer from an offset on, or a copy of
some bytes. -/
inductive Bound
  | buffer (buffer : BufferID) (offset : Nat)
  | bytes (data : Pointer) (size : Nat)
deriving DecidableEq

/-- `mRenderEncoder`, with the vertex buffers from `kVboBindingIndexStart` on and the emulated
instance ID in the data that is bound at `kDriverUniformsBindingIndex`. -/
structure Encoder where
  valid : Bool
  vertexBuffers : Nat → Option Bound
  instanceID : Option Nat

namespace Encoder

def ended : Encoder := ⟨false, fun _ => none, none⟩

def started : Encoder := ⟨true, fun _ => none, none⟩

def setVertexBuffer (e : Encoder) (index : Nat) (bound : Bound) : Encoder :=
  { e with vertexBuffers := Function.update e.vertexBuffers index (some bound) }

end Encoder

/-! ## The vertex array -/

/-- A vertex attribute with its binding and its format: whether Metal has no such format, the size
of an element, and the size of an element after the conversion. -/
structure VertexAttribute where
  enabled : Bool
  buffer : Option BufferID
  offset : Nat
  pointer : Pointer
  stride : Nat
  divisor : Nat
  converts : Bool
  pixelBytes : Nat
  convertedBytes : Nat

namespace VertexAttribute

def disabled : VertexAttribute :=
  { enabled := false, buffer := none, offset := 0, pointer := 0, stride := 0, divisor := 0,
    converts := false, pixelBytes := 16, convertedBytes := 16 }

/-- Whether the elements of the buffer have to be converted, `needConversion`. -/
def needConversion (a : VertexAttribute) : Bool :=
  a.converts || a.offset % a.pixelBytes != 0 || a.offset % 4 != 0 ||
    decide (a.stride < a.pixelBytes) || a.stride % kVertexAttribBufferStrideAlignment != 0

def bytesIntendedToUse (a : VertexAttribute) (startElement elementCount : Nat) : Nat :=
  (startElement + elementCount - 1) * a.stride + a.pixelBytes

/-- Whether elements of client memory have to be copied, `needStreaming`. -/
def needStreaming (a : VertexAttribute) (mInlineDataMaxSize startElement elementCount : Nat) :
    Bool :=
  a.converts || a.stride % kVertexAttribBufferStrideAlignment != 0 ||
    decide (a.stride < a.pixelBytes) ||
    decide (a.bytesIntendedToUse startElement elementCount > mInlineDataMaxSize)

def elements (a : VertexAttribute) (startVertex vertexCount instanceCount : Nat) : Nat × Nat :=
  if a.divisor = 0 then (startVertex, vertexCount)
  else (0, UnsignedCeilDivide instanceCount a.divisor)

end VertexAttribute

/-- The entries of the `mCurrentArray...` tables of an attribute: where its elements are. -/
structure CurrentArray where
  buffer : Option BufferID
  offset : Nat
  stride : Nat
  inlineDataPointer : Option Pointer
  inlineDataSize : Nat

namespace CurrentArray

def reset : CurrentArray := ⟨none, 0, 0, none, 0⟩

def element (c : CurrentArray) (index : Nat) : Bound :=
  match c.buffer with
  | some buffer => .buffer buffer (c.offset + index * c.stride)
  | none => .bytes (c.inlineDataPointer.getD 0 + index * c.stride)
      (c.inlineDataSize - index * c.stride)

/-- What `setupDraw` binds. -/
def base (c : CurrentArray) : Bound :=
  match c.buffer with
  | some buffer => .buffer buffer (uint32 c.offset)
  | none => .bytes (c.inlineDataPointer.getD 0) c.inlineDataSize

/-- What `emulateInstanceDrawStep` binds. -/
def step (c : CurrentArray) (instanceId divisor : Nat) : Bound :=
  let offset := uint32 (instanceId / divisor * c.stride)
  match c.buffer with
  | some buffer => .buffer buffer (uint32 (offset + uint32 c.offset))
  | none =>
      let offset := if offset > c.inlineDataSize then uint32 c.inlineDataSize else offset
      .bytes (c.inlineDataPointer.getD 0 + offset) (c.inlineDataSize - offset)

end CurrentArray

/-- The memory that a draw gets for an attribute: a range of a buffer of `mDynamicVertexData`, and
the small array of the attribute. -/
structure Allocation where
  stream : Option (BufferID × Nat)
  smallArray : Option Pointer

structure VertexArray where
  attribs : Nat → VertexAttribute
  current : Nat → CurrentArray
  mEmulatedInstanceAttribs : List Nat
  mVertexArrayDirty : Bool
  mInlineDataMaxSize : Nat

namespace VertexArray

def reset (allowInlineConstVertexData : Bool) : VertexArray :=
  { attribs := fun _ => .disabled, current := fun _ => .reset, mEmulatedInstanceAttribs := [],
    mVertexArrayDirty := true,
    mInlineDataMaxSize := if allowInlineConstVertexData then kInlineConstDataMaxSize else 0 }

section

variable (va : VertexArray)

def setCurrent (v : Nat) (c : CurrentArray) : VertexArray :=
  { va with current := Function.update va.current v c }

def isClient (v : Nat) : Bool :=
  (va.attribs v).enabled && (va.attribs v).buffer.isNone

def usable (v : Nat) : Bool :=
  (va.attribs v).enabled &&
    ((va.current v).buffer.isSome || (va.current v).inlineDataPointer.isSome)

/-- `syncDirtyAttrib` of an attribute that the front end has changed.  Of a buffer that has to be
converted, `converted` is the buffer with the result and its offset, or nothing if the buffer has no
vertex. -/
def syncDirtyAttrib (v : Nat) (attrib : VertexAttribute)
    (converted : Option (BufferID × Nat)) : VertexArray :=
  let c := va.current v
  let c := match attrib.enabled, attrib.buffer with
    | false, _ => { c with buffer := none, offset := 0, stride := 0 }
    | true, none => c
    | true, some buffer =>
      if attrib.needConversion then
        match converted with
        | none => { c with buffer := some buffer, offset := 0, stride := 16 }
        | some (buffer, offset) =>
            { c with buffer := some buffer, offset := offset, stride := attrib.convertedBytes }
      else { c with buffer := some buffer, offset := attrib.offset, stride := attrib.stride }
  { va.setCurrent v c with
    attribs := Function.update va.attribs v attrib
    mVertexArrayDirty := true }

/-- The body of the loop of `updateClientAttribs`, and whether it continues. -/
def updateClientAttrib (v : Nat) (memory : Allocation)
    (startElement elementCount : Nat) : VertexArray × Bool :=
  let a := va.attribs v
  let c := va.current v
  if a.needStreaming va.mInlineDataMaxSize startElement elementCount then
    let c := { c with stride := a.convertedBytes }
    let bytesToAllocate := (startElement + elementCount) * a.convertedBytes
    if bytesToAllocate ≤ va.mInlineDataMaxSize then
      match memory.smallArray with
      | none => (va.setCurrent v c, false)
      | some array =>
          (va.setCurrent v { c with
            buffer := none, inlineDataPointer := some array, inlineDataSize := bytesToAllocate,
            offset := 0 }, true)
    else
      match memory.stream with
      | none => (va.setCurrent v c, false)
      | some (buffer, offset) =>
          (va.setCurrent v { c with buffer := some buffer, offset := offset }, true)
  else
    (va.setCurrent v
      { buffer := none, inlineDataPointer := some a.pointer,
        inlineDataSize := a.bytesIntendedToUse startElement elementCount, offset := 0,
        stride := a.stride }, true)

end

/-- The body of the loop of `setupDraw`, of which only the vertex buffers are kept. -/
def setupAttrib (active : Nat → Bool) (state : VertexArray × Encoder) (v : Nat) :
    VertexArray × Encoder :=
  let (va, e) := state
  if active v && va.usable v then
    let va :=
      if (va.attribs v).divisor = 0 then va
      else { va with mEmulatedInstanceAttribs := va.mEmulatedInstanceAttribs ++ [v] }
    (va, e.setVertexBuffer v (va.current v).base)
  else (va, e)

def setupDraw (va : VertexArray) (active : Nat → Bool) (e : Encoder) (vertexDescChanged : Bool) :
    VertexArray × Encoder :=
  if va.mVertexArrayDirty || vertexDescChanged then
    let va := { va with mVertexArrayDirty := false, mEmulatedInstanceAttribs := [] }
    (List.range kMaxVertexAttribs).foldl (setupAttrib active) (va, e)
  else (va, e)

def emulateInstanceDrawStep (va : VertexArray) (e : Encoder) (instanceId : Nat) : Encoder :=
  va.mEmulatedInstanceAttribs.foldl
    (fun e v => e.setVertexBuffer v ((va.current v).step instanceId (va.attribs v).divisor)) e

end VertexArray

/-! ## The context -/

/-- A transform feedback object that is active and not paused: the offset and the stride of each of
its buffers. -/
structure TransformFeedback where
  verticesDrawn : Int
  buffers : List (Int × Int)

/-- Whether `getBufferOffsets` finds every offset in the range of `int32_t`. -/
def TransformFeedback.getBufferOffsets (xfb : TransformFeedback) (drawCallFirstVertex : Int)
    (skippedVertices : Nat) : Bool :=
  xfb.buffers.all fun buffer =>
    let drawCallVertexOffset := xfb.verticesDrawn + skippedVertices - drawCallFirstVertex
    let writeOffset := (buffer.1 + drawCallVertexOffset * buffer.2).tdiv 4
    decide (-2 ^ 31 ≤ writeOffset ∧ writeOffset < 2 ^ 31)

structure DirtyBits where
  driverUniforms : Bool
  drawFramebuffer : Bool
  renderPipeline : Bool
  rasterizerDiscard : Bool

namespace DirtyBits

def all : DirtyBits := ⟨true, true, true, true⟩

def none : DirtyBits := ⟨false, false, false, false⟩

end DirtyBits

/-- A draw of the render encoder, with the instance that it stands for and what it runs with. -/
structure SubDraw where
  inst : Nat
  instanceID : Option Nat
  vertexBuffers : Nat → Option Bound
  vertexArray : VertexArray
  activeAttribs : Nat → Bool

/-- `ContextMtl` with the parts of the front end that its draws read.  The emulated instance ID is
the one of `mDriverUniforms`. -/
structure Context where
  vertexArrays : Nat → VertexArray
  mVertexArray : Nat
  activeAttribs : Nat → Bool
  transformFeedback : Option TransformFeedback
  rasterizerDiscard : Bool
  mCullAllPolygons : Bool
  primitiveRestart : Bool
  emulatedInstanceID : Nat
  mDirtyBits : DirtyBits
  mRenderEncoder : Encoder
  drawn : List SubDraw

/-- What the rest of the program does while a draw is set up: the range of the indices, the memory
for client attributes, whether a new render pass is started if one is needed, and whether textures,
an occlusion query and the program are set up without an error. -/
structure Environment where
  indexRange : Option (Nat × Nat)
  memory : Nat → Allocation
  texturesReady : Bool
  newRenderPass : Option Bool
  queryStarts : Bool
  programReady : Bool

namespace Context

def initial (allowInlineConstVertexData : Bool) : Context :=
  { vertexArrays := fun _ => .reset allowInlineConstVertexData
    mVertexArray := 0
    activeAttribs := fun _ => false
    transformFeedback := none
    rasterizerDiscard := false
    mCullAllPolygons := false
    primitiveRestart := false
    emulatedInstanceID := 0
    mDirtyBits := .all
    mRenderEncoder := .ended
    drawn := [] }

section

variable (s : Context)

def vertexArray : VertexArray := s.vertexArrays s.mVertexArray

def setVertexArray (va : VertexArray) : Context :=
  { s with vertexArrays := Function.update s.vertexArrays s.mVertexArray va }

/-- `getActiveClientAttribsMask`. -/
def activeClientAttribs : List Nat :=
  (List.range kMaxVertexAttribs).filter fun v => s.activeAttribs v && s.vertexArray.isClient v

def invalidateState : Context := { s with mDirtyBits := .all }

def invalidateRenderPipeline : Context :=
  { s with mDirtyBits.renderPipeline := true }

def invalidateDriverUniforms : Context :=
  { s with mDirtyBits.driverUniforms := true }

end

def getVertexRangeInfo (env : Environment) (firstVertex vertexOrIndexCount : Nat)
    (indexed : Bool) : Option (Nat × Nat) :=
  if indexed then env.indexRange else some (firstVertex, vertexOrIndexCount)

def updateClientAttrib (env : Environment) (startVertex vertexCount instanceCount v : Nat) :
    Fallible Context where
  run s :=
    let e := (s.vertexArray.attribs v).elements startVertex vertexCount instanceCount
    let result := s.vertexArray.updateClientAttrib v (env.memory v) e.1 e.2
    (s.setVertexArray result.1, result.2)

def updateClientAttribs (env : Environment) (firstVertex vertexOrIndexCount instanceCount : Nat)
    (indexed : Bool) : Fallible Context :=
  match getVertexRangeInfo env firstVertex vertexOrIndexCount indexed with
  | none => attempt false
  | some range =>
      (ofState fun s => forEach s.activeClientAttribs
        (updateClientAttrib env range.1 range.2 instanceCount)) >>
      update fun s => s.setVertexArray { s.vertexArray with mVertexArrayDirty := true }

/-- What `setupDraw` does where `DIRTY_BIT_RASTERIZER_DISCARD` is set. -/
def handleDirtyRasterizerDiscard (s : Context) : Context :=
  if s.mDirtyBits.rasterizerDiscard then
    if s.transformFeedback.isSome then s.invalidateState else s.invalidateRenderPipeline
  else s

def handleDirtyRenderPass (env : Environment) : Fallible Context :=
  match env.newRenderPass with
  | none => attempt false
  | some newRenderPass =>
      update fun s =>
        let encoder :=
          if newRenderPass || !s.mRenderEncoder.valid then .started else s.mRenderEncoder
        { s with mRenderEncoder := encoder }.invalidateState

def checkIfPipelineChanged (s : Context) : Context :=
  let result := s.vertexArray.setupDraw s.activeAttribs s.mRenderEncoder s.mDirtyBits.renderPipeline
  { s.setVertexArray result.1 with mRenderEncoder := result.2 }

/-- `fillDriverXFBUniforms`, which fails if an offset of a buffer is out of range. -/
def fillDriverXFBUniforms (drawCallFirstVertex verticesPerInstance skippedInstances : Nat) :
    Fallible Context :=
  ofState fun s => attempt <|
    s.transformFeedback.all fun xfb =>
      xfb.getBufferOffsets drawCallFirstVertex (uint32 (verticesPerInstance * skippedInstances))

/-- `setVertexData(mDriverUniforms, kDriverUniformsBindingIndex)`. -/
def sendDriverUniforms (s : Context) : Context :=
  { s with mRenderEncoder.instanceID := some s.emulatedInstanceID }

def handleDirtyDriverUniforms (drawCallFirstVertex verticesPerInstance : Nat) : Fallible Context :=
  update (fun s => { s with emulatedInstanceID := 0 }) >>
  fillDriverXFBUniforms drawCallFirstVertex verticesPerInstance 0 >>
  update sendDriverUniforms

def setupDraw (env : Environment) (firstVertex vertexOrIndexCount instances : Nat)
    (indexed xfbPass : Bool) : Fallible Context :=
  let instanceCount := if instances = 0 then 1 else instances
  (ofState fun s => when (!s.activeClientAttribs.isEmpty)
    (updateClientAttribs env firstVertex vertexOrIndexCount instanceCount indexed)) >>
  attempt env.texturesReady >>
  update handleDirtyRasterizerDiscard >>
  update (fun s => if s.mRenderEncoder.valid then s else s.invalidateState) >>
  (ofState fun s => when s.mDirtyBits.drawFramebuffer (handleDirtyRenderPass env)) >>
  attempt env.queryStarts >>
  update checkIfPipelineChanged >>
  (ofState fun s =>
    if s.mDirtyBits.driverUniforms then handleDirtyDriverUniforms firstVertex vertexOrIndexCount
    -- The bit is not reset yet, so a transform feedback pass does not send the uniforms twice.
    else when xfbPass
      (fillDriverXFBUniforms firstVertex vertexOrIndexCount 0 >> update sendDriverUniforms)) >>
  update (fun s => { s with mDirtyBits := .none }) >>
  attempt env.programReady

def emulateInstanceDrawStep (instanceId : Nat) (s : Context) : Context :=
  { s with mRenderEncoder := s.vertexArray.emulateInstanceDrawStep s.mRenderEncoder instanceId }

def draw (inst : Nat) (s : Context) : Context :=
  { s with
    drawn := s.drawn ++ [⟨inst, s.mRenderEncoder.instanceID, s.mRenderEncoder.vertexBuffers,
      s.vertexArray, s.activeAttribs⟩] }

def execDrawInstanced (vertexStart vertexCount instances : Nat) : Fallible Context :=
  update (draw 0) >>
  forEach (List.range' 1 (instances - 1)) (fun inst =>
    update (fun s => { s with emulatedInstanceID := inst }) >>
    fillDriverXFBUniforms vertexStart vertexCount inst >>
    update sendDriverUniforms >>
    update (emulateInstanceDrawStep inst) >>
    update (draw inst)) >>
  update (emulateInstanceDrawStep 0)

def execDrawIndexedInstanced (instances : Nat) : Fallible Context :=
  update (draw 0) >>
  forEach (List.range' 1 (instances - 1)) (fun inst =>
    update (fun s => { s with emulatedInstanceID := inst }) >>
    update sendDriverUniforms >>
    update (emulateInstanceDrawStep inst) >>
    update (draw inst)) >>
  update (emulateInstanceDrawStep 0)

/-! ### Draw calls -/

/-- What `LineLoopLastSegmentHelper::begin` does: it may fail before or after it has a buffer for
the indices. -/
inductive LastSegment
  | notAllocated | notGenerated | ready

/-- The surroundings of a draw call: those of its passes, whether the index buffer that it needs is
there, and the last segment of a line loop. -/
structure Circumstances where
  environment : Nat → Environment
  indexBuffer : Bool
  lastSegment : LastSegment

/-- `ANGLE_MTL_XFB_DRAW`, where the passes have numbers. -/
def xfbDraw (drawProc : Nat → Bool → Fallible Context) : Fallible Context :=
  ofState fun s =>
    if s.transformFeedback.isNone then drawProc 0 false
    else
      drawProc 0 true >>
      when (!s.rasterizerDiscard) (update invalidateRenderPipeline >> drawProc 1 false)

section

variable (c : Circumstances)

/-- `DRAW_GENERIC_ARRAY`. -/
def drawGenericArray (first count instances pass : Nat) (xfbPass : Bool) :
    Fallible Context :=
  setupDraw (c.environment pass) first count instances false xfbPass >>
  if instances = 0 then update (draw 0) else execDrawInstanced first count instances

/-- A draw with an index buffer that the context has generated or that it has got from the vertex
array. -/
def drawIndexBuffer (first count instances : Nat) (indexed : Bool) :
    Fallible Context :=
  attempt c.indexBuffer >>
  setupDraw (c.environment 0) first count instances indexed false >>
  if instances = 0 then update (draw 0) else execDrawIndexedInstanced instances

/-- The last segment of a line loop is drawn when the helper is destroyed, at the end of a draw that
may have failed. -/
def withLastSegment (op : Fallible Context) : Fallible Context :=
  match c.lastSegment with
  | .notAllocated => attempt false
  | .notGenerated => update (draw 0) >> attempt false
  | .ready => ⟨fun s => ((op.run s).1.draw 0, (op.run s).2)⟩

def drawTriFanArrays (first count instances : Nat) : Fallible Context :=
  if count ≤ 3 then xfbDraw (drawGenericArray c first count instances)
  else drawIndexBuffer c first count instances false

def drawLineLoopArrays (first count instances : Nat) : Fallible Context :=
  if instances ≤ 1 then withLastSegment c (xfbDraw (drawGenericArray c first count 0))
  else drawIndexBuffer c first count instances false

end

def IsPolygonMode : PrimitiveMode → Bool
  | .Points | .Lines | .LineStrip | .LineLoop | .LinesAdjacency | .LineStripAdjacency => false
  | _ => true

def drawArraysImpl (c : Circumstances) (mode : PrimitiveMode) (first count instances : Nat) :
    Fallible Context :=
  let instanceCount := if instances = 0 then 1 else instances
  ofState fun s =>
    if s.mCullAllPolygons && IsPolygonMode mode then done
    else
      match mode with
      | .TriangleFan => drawTriFanArrays c first count instanceCount
      | .LineLoop => drawLineLoopArrays c first count instanceCount
      | _ => xfbDraw (drawGenericArray c first count instances)

def drawTriFanElements (c : Circumstances) (count instances : Nat) : Fallible Context :=
  drawIndexBuffer c 0 count instances true

def drawLineLoopElements (c : Circumstances) (count instances : Nat) : Fallible Context :=
  ofState fun s =>
    if count ≥ 2 ∧ instances ≤ 1 ∧ s.primitiveRestart = false then
      withLastSegment c (drawIndexBuffer c 0 count 0 true)
    else drawIndexBuffer c 0 count instances true

def drawElementsImpl (c : Circumstances) (mode : PrimitiveMode) (count instances : Nat) :
    Fallible Context :=
  let instanceCount := if instances = 0 then 1 else instances
  ofState fun s =>
    if s.mCullAllPolygons && IsPolygonMode mode then done
    else
      match mode with
      | .TriangleFan => drawTriFanElements c count instanceCount
      | .LineLoop => drawLineLoopElements c count instanceCount
      | _ => drawIndexBuffer c 0 count instances true

end Context

/-! ## Runs -/

/-- A call into the context.  `syncState` hands over the changes of the front end one by one. -/
inductive Action
  | drawArrays (mode : PrimitiveMode) (first count : Nat) (c : Context.Circumstances)
  | drawArraysInstanced (mode : PrimitiveMode) (first count instances : Nat)
      (c : Context.Circumstances)
  | drawElements (mode : PrimitiveMode) (count : Nat) (c : Context.Circumstances)
  | drawElementsInstanced (mode : PrimitiveMode) (count instances : Nat)
      (c : Context.Circumstances)
  | syncDirtyAttrib (v : Nat) (attrib : VertexAttribute) (converted : Option (BufferID × Nat))
  | updateVertexArray (vertexArray : Nat)
  | updateProgramExecutable (activeAttribs : Nat → Bool)
  | setRasterizerDiscard (enabled : Bool)
  | setTransformFeedback (transformFeedback : Option TransformFeedback)
  | updateCullMode (cullAllPolygons : Bool)
  | updatePrimitiveRestart (enabled : Bool)
  | invalidateState
  | invalidateDriverUniforms
  | invalidateRenderPipeline
  | endEncoding

namespace Context

def operation : Action → Fallible Context
  | .drawArrays mode first count c => drawArraysImpl c mode first count 0
  | .drawArraysInstanced mode first count instances c =>
      if instances = 0 then done else drawArraysImpl c mode first count instances
  | .drawElements mode count c => drawElementsImpl c mode count 0
  | .drawElementsInstanced mode count instances c =>
      if instances = 0 then done else drawElementsImpl c mode count instances
  | .syncDirtyAttrib v attrib converted =>
      update fun s => s.setVertexArray (s.vertexArray.syncDirtyAttrib v attrib converted)
  | .updateVertexArray vertexArray =>
      update fun s => { s with mVertexArray := vertexArray }.invalidateRenderPipeline
  | .updateProgramExecutable activeAttribs =>
      update fun s => { s with activeAttribs := activeAttribs }.invalidateRenderPipeline
  | .setRasterizerDiscard enabled =>
      update fun s => { s with rasterizerDiscard := enabled, mDirtyBits.rasterizerDiscard := true }
  | .setTransformFeedback transformFeedback =>
      update fun s => { s with transformFeedback := transformFeedback }
  | .updateCullMode cullAllPolygons =>
      update fun s => { s with mCullAllPolygons := cullAllPolygons }
  | .updatePrimitiveRestart enabled => update fun s => { s with primitiveRestart := enabled }
  | .invalidateState => update invalidateState
  | .invalidateDriverUniforms => update invalidateDriverUniforms
  | .invalidateRenderPipeline => update invalidateRenderPipeline
  | .endEncoding => update fun s => { s with mRenderEncoder := .ended }

def step (s : Context) (a : Action) : Option Context := some ((operation a).run s).1

end Context

end MetalAngle.Metal.InstanceEmulation
