import MetalAngle.Metal.BufferPoolRegions

/-!
# `ContextMtl::drawTriFanArrays`: the cached indices of triangle fans

A triangle fan without indices is drawn with a generated index buffer that later draws may
use again.  Devices with base-vertex drawing share one buffer whose first index is zero;
the legacy path keeps the region that its last generation got from a pool.
-/

namespace MetalAngle.Metal

def kIndexBufferOffsetAlignment : Nat := 4

/-- The members of `ContextMtl` that the draws use, with the Metal buffers in the heap of the
pool.  The ghost `generatedCount` is the vertex count that the cached indices were made for. -/
structure TriFanContext where
  device : Device
  hasBaseVertexInstancedDraw : Bool
  mTriFanIndexBufferPool : BufferPool
  mTriFanArraysIndexBuffer : Option Nat := none
  mTriFanArraysIndexBufferFirstVertex : Nat := 0
  mTriFanArraysIndexBufferOffset : Nat := 0
  generatedCount : Nat := 0

structure IndexedDraw where
  indexBuffer : Nat
  offset : Nat
  indexCount : Nat
  baseVertex : Nat

def genTriFanIndicesFromArray (firstVertex dstOffset : Nat) (output : Memory) (idx : Nat) :
    Memory :=
  let vertexIdx := (firstVertex + 2 + idx) % 2 ^ 32
  let output := output.writeLE 4 (dstOffset + 4 * (3 * idx % 2 ^ 32)) firstVertex
  let output := output.writeLE 4 (dstOffset + 4 * ((3 * idx + 1) % 2 ^ 32))
    ((vertexIdx + (2 ^ 32 - 1)) % 2 ^ 32)
  output.writeLE 4 (dstOffset + 4 * ((3 * idx + 2) % 2 ^ 32)) vertexIdx

def dispatchTriFan (serial firstVertex vertexCount dstOffset : Nat) (dstBuffer : Buffer) : Buffer :=
  let written := dstBuffer.setUsedByCommandBufferWithQueueSerial serial true
  if dstBuffer.hasBuffer then
    { written with
      gpuContents := (List.range (vertexCount - 2)).foldl
        (genTriFanIndicesFromArray firstVertex dstOffset) dstBuffer.gpuContents }
  else written

namespace TriFanContext

section

variable (s : TriFanContext)

def updateBuffer (buffer : Nat) (f : Buffer → Buffer) : TriFanContext :=
  { s with mTriFanIndexBufferPool := s.mTriFanIndexBufferPool.updateBuffer buffer f }

def generateTriFanBufferFromArrays
    (firstVertex vertexCount dstBuffer dstOffset : Nat) : TriFanContext :=
  s.updateBuffer dstBuffer
    (dispatchTriFan s.device.recordingSerial firstVertex vertexCount dstOffset)

/-- `Buffer::MakeBuffer` into `mTriFanArraysIndexBuffer`. -/
def makeIndexBuffer (size : Nat) (newMemory : Option Memory) :
    Except PoolFault Unit × TriFanContext :=
  let pool := s.mTriFanIndexBufferPool
  let b := ({} : Buffer).reset s.device false size newMemory
  let s := { s with
    mTriFanIndexBufferPool := { pool with
      heap := Function.update pool.heap pool.buffersMade b
      buffersMade := pool.buffersMade + 1 }
    mTriFanArraysIndexBuffer := some pool.buffersMade
    generatedCount := 0 }
  if b.hasBuffer then (.ok (), s) else (.error outOfMemory, s)

def cachedSize : Option Nat :=
  s.mTriFanArraysIndexBuffer.map fun buffer => (s.mTriFanIndexBufferPool.heap buffer).size

def drawIndexed (offset indexCount baseVertex : Nat) :
    Except PoolFault (Option IndexedDraw) × TriFanContext :=
  match s.mTriFanArraysIndexBuffer with
  | none => (.ok none, s)
  | some indexBuffer =>
      (.ok (some { indexBuffer, offset, indexCount, baseVertex }),
        s.updateBuffer indexBuffer fun b =>
          b.setUsedByCommandBufferWithQueueSerial s.device.recordingSerial false)

def drawTriFanArraysWithBaseVertex (first count : Nat)
    (newMemory : Option Memory) : Except PoolFault (Option IndexedDraw) × TriFanContext :=
  match getTriangleFanIndicesCount count with
  | .error error => (.error (.stop error), s)
  | .ok genIndicesCount =>
    let indexBufferSize := genIndicesCount * 4
    if s.cachedSize.all (· < indexBufferSize) then
      match s.makeIndexBuffer indexBufferSize newMemory with
      | (.error fault, s) => (.error fault, s)
      | (.ok (), s) =>
          let s := s.generateTriFanBufferFromArrays 0 count
            (s.mTriFanArraysIndexBuffer.getD 0) 0
          { s with generatedCount := count }.drawIndexed 0 genIndicesCount first
    else s.drawIndexed 0 genIndicesCount first

def mustGenerate (first genIndicesCount : Nat) : Bool :=
  s.cachedSize.all (· < genIndicesCount * 4) ||
    s.mTriFanArraysIndexBufferFirstVertex != first

def generateInto (first count : Nat) (allocation : BufferPool.Allocation) :
    TriFanContext :=
  let s := { s with
    mTriFanArraysIndexBuffer := some allocation.buffer
    mTriFanArraysIndexBufferOffset := allocation.offset % 2 ^ 32 }
  let s := s.generateTriFanBufferFromArrays first count allocation.buffer
    s.mTriFanArraysIndexBufferOffset
  { s with
    mTriFanIndexBufferPool := s.mTriFanIndexBufferPool.commit
    mTriFanArraysIndexBufferFirstVertex := first
    generatedCount := count }

def drawTriFanArraysLegacy (first count : Nat) (newMemory : Option Memory) :
    Except PoolFault (Option IndexedDraw) × TriFanContext :=
  match getTriangleFanIndicesCount count with
  | .error error => (.error (.stop error), s)
  | .ok genIndicesCount =>
    if s.mustGenerate first genIndicesCount then
      match s.mTriFanIndexBufferPool.allocate s.device (genIndicesCount * 4) false newMemory with
      | (.error fault, device, pool) =>
          (.error fault, { s with device, mTriFanIndexBufferPool := pool })
      | (.ok allocation, device, pool) =>
          let s := { s with device, mTriFanIndexBufferPool := pool }.generateInto first count
            allocation
          s.drawIndexed s.mTriFanArraysIndexBufferOffset genIndicesCount 0
    else s.drawIndexed s.mTriFanArraysIndexBufferOffset genIndicesCount 0

/-- `drawTriFanArrays`; up to three vertices are drawn as triangles, without indices. -/
def drawTriFanArrays (first count : Nat) (newMemory : Option Memory) :
    Except PoolFault (Option IndexedDraw) × TriFanContext :=
  if count ≤ 3 then (.ok none, s)
  else if s.hasBaseVertexInstancedDraw then s.drawTriFanArraysWithBaseVertex first count newMemory
  else s.drawTriFanArraysLegacy first count newMemory

end

inductive Action
  /-- With the memory that a new Metal buffer gets, if there is any. -/
  | drawTriFanArrays (first count : Nat) (newMemory : Option Memory)
  /-- The command buffer is committed. -/
  | flushCommandBufer
  | completeCommandBuffer (serial : Nat)
  /-- The end of a frame. -/
  | releaseInFlightBuffers

def step (s : TriFanContext) : Action → Option TriFanContext
  | .drawTriFanArrays first count newMemory =>
      if first < 2 ^ 31 ∧ count < 2 ^ 31 then some (s.drawTriFanArrays first count newMemory).2
      else none
  | .flushCommandBufer => some { s with device := s.device.flushCommandBufer }
  | .completeCommandBuffer serial =>
      some { s with device := { s.device with
        cmdQueue := s.device.cmdQueue.onCommandBufferCompleted serial } }
  | .releaseInFlightBuffers =>
      some { s with
        mTriFanIndexBufferPool := s.mTriFanIndexBufferPool.releaseInFlightBuffers s.device }

def initial (d : Device) (hasBaseVertexInstancedDraw : Bool) : TriFanContext where
  device := d
  hasBaseVertexInstancedDraw
  mTriFanIndexBufferPool :=
    BufferPool.initializePool {} 0 kIndexBufferOffsetAlignment 0

end TriFanContext

end MetalAngle.Metal
