import MetalAngle.Lib.MruCache
import MetalAngle.Metal.BufferPoolFresh
import MetalAngle.Metal.ClientIndexArrayKey

/-!
# `ContextMtl::drawTriFanElements`: the cached indices of client arrays

The indices that are generated for a triangle fan of client memory are kept for later draws with
the same bytes, until the buffers of the pool are released or primitive restart may have changed.
-/

namespace MetalAngle.Metal

open LabelledRun BufferPool ClientIndexArrayKey

def kMaxTriFanClientBuffersCachedPerFrame : Nat := 10

structure ClientArrayBufferCachePayload where
  buffer : Nat
  offset : Nat

structure ClientFan where
  indices : List UInt8
  type : DrawElementsType
  count : Nat
  primitiveRestart : Bool

/-- A call of the index generator, with the region it writes.  There is no fan when the indices
are in a buffer object. -/
structure GeneratedFan where
  buffer : Nat
  offset : Nat
  sizeInBytes : Nat
  fan : Option ClientFan

def GeneratedFan.overlaps (g : GeneratedFan) (buffer offset size : Nat) : Bool :=
  decide (g.buffer = buffer ∧ g.offset < offset + size ∧ offset < g.offset + g.sizeInBytes)

/-- The members of `ContextMtl` and of the GL state that the draws use.  The ghost `generated` has
the calls of the index generator, the last one first. -/
structure ClientFanContext where
  device : Device
  /-- The memory of the client. -/
  memory : Memory := fun _ => 0
  mPrimitiveRestart : Bool := false
  /-- `DIRTY_BIT_PRIMITIVE_RESTART_ENABLED`. -/
  dirtyPrimitiveRestart : Bool := true
  /-- Whether `mCmdBuffer` is valid. -/
  mCmdBufferValid : Bool := false
  mTriFanClientIndexBufferPool : BufferPool
  mTriFanClientIndexBufferCache : MruCache ClientIndexArrayKey ClientArrayBufferCachePayload := {}
  generated : List GeneratedFan := []

/-- Where the indices of a draw are; of a buffer object, whether the GPU generates from them. -/
inductive IndexSource
  | client (indices : Nat)
  | elementBuffer (onGPU : Bool)

structure SetupDraw where
  flushes : Bool := false
  fails : Option StopError := none

structure FanDraw where
  indexBuffer : Nat
  offset : Nat
  indexCount : Nat

namespace ClientFanContext

section

variable (s : ClientFanContext)

def updateBuffer (buffer : Nat) (f : Buffer → Buffer) : ClientFanContext :=
  { s with mTriFanClientIndexBufferPool := s.mTriFanClientIndexBufferPool.updateBuffer buffer f }

def releaseInFlightBuffers : ClientFanContext :=
  { s with
    mTriFanClientIndexBufferPool :=
      s.mTriFanClientIndexBufferPool.releaseInFlightBuffers s.device
    mTriFanClientIndexBufferCache := s.mTriFanClientIndexBufferCache.clear }

def flushCommandBufer : ClientFanContext :=
  if s.mCmdBufferValid then
    { s with
      device := s.device.flushCommandBufer
      mCmdBufferValid := false }.releaseInFlightBuffers
  else s

def syncState : ClientFanContext :=
  if s.dirtyPrimitiveRestart then
    { s with
      mTriFanClientIndexBufferCache := s.mTriFanClientIndexBufferCache.clear
      dirtyPrimitiveRestart := false }
  else s

def map (buffer : Nat) : ClientFanContext :=
  let b := s.mTriFanClientIndexBufferPool.heap buffer
  let synced := { b with mMapReadOnly := false }.ensureContentSynced s.device
  let s := { s.updateBuffer buffer fun _ => synced with
    -- the blit command that syncs the contents needs a command buffer
    mCmdBufferValid := s.mCmdBufferValid ||
      decide (b.storageMode = MTLStorageMode.Managed ∧ b.cpuReadMemNeedSync = true) }
  let s := if s.device.isBeingUsedByGPU synced then s.flushCommandBufer else s
  { s with device := s.device.ensureResourceReadyForCPU synced }

/-- `generateTriFanBufferFromElementsArray` into a region of the pool. -/
def generate (onGPU : Bool) (g : GeneratedFan) : ClientFanContext :=
  let s :=
    if onGPU then
      { s.updateBuffer g.buffer fun b =>
          b.setUsedByCommandBufferWithQueueSerial s.device.recordingSerial true with
        mCmdBufferValid := true }
    else (s.map g.buffer).updateBuffer g.buffer (·.unmapRange g.offset g.sizeInBytes)
  { s with generated := g :: s.generated }

def finishDraw (draw : FanDraw) (setup : SetupDraw) :
    Except PoolFault (Option FanDraw) × ClientFanContext :=
  let s := if setup.flushes then s.flushCommandBufer else s
  match setup.fails with
  | some error => (.error (.stop error), s)
  | none =>
      (.ok (some draw), { s.updateBuffer draw.indexBuffer fun b =>
          b.setUsedByCommandBufferWithQueueSerial s.device.recordingSerial false with
        mCmdBufferValid := true })

end

section Draws

variable (computeGenericHash : List UInt8 → BitVec 64)

/-- `clientIndicesKey`, which stays as it was made without client indices. -/
def clientIndicesKey (source : IndexSource) (type : DrawElementsType) (count : Nat) :
    ClientIndexArrayKey :=
  match source with
  | .client indices => ClientIndexArrayKey.wrap {} indices (some type) count
  | .elementBuffer _ => {}

section

variable (s : ClientFanContext)

def peek (source : IndexSource) (key : ClientIndexArrayKey) :
    Option ClientArrayBufferCachePayload × ClientIndexArrayKey :=
  match source with
  | .client _ =>
      (s.mTriFanClientIndexBufferCache.peek (tableEquiv computeGenericHash s.memory) key,
        (key.hash computeGenericHash s.memory).2)
  | .elementBuffer _ => (none, key)

def generation (source : IndexSource) (type : DrawElementsType)
    (count : Nat) : Option ClientFan × Bool :=
  match source with
  | .client indices =>
      (some {
        indices := bytesAt s.memory indices (count * getDrawElementsTypeSize (some type))
        type, count, primitiveRestart := s.mPrimitiveRestart }, false)
  | .elementBuffer onGPU => (none, onGPU)

/-- The branch of `drawTriFanElements` that generates the indices, and keeps them under a valid
key. -/
def generateAndKeep (source : IndexSource) (type : DrawElementsType)
    (count : Nat) (key : ClientIndexArrayKey) (buffer offset sizeInBytes : Nat) :
    ClientFanContext :=
  let (fan, onGPU) := s.generation source type count
  let s := s.generate onGPU { buffer, offset, sizeInBytes, fan }
  let s := { s with mTriFanClientIndexBufferPool := s.mTriFanClientIndexBufferPool.commit }
  if key.valid then
    { s with
      mTriFanClientIndexBufferCache := s.mTriFanClientIndexBufferCache.put
        (tableEquiv computeGenericHash s.memory) (copy s.memory)
        kMaxTriFanClientBuffersCachedPerFrame key { buffer, offset } }
  else s

def drawTriFanElements (source : IndexSource) (type : DrawElementsType)
    (count : Nat) (newMemory : Option Memory) (setup : SetupDraw) :
    Except PoolFault (Option FanDraw) × ClientFanContext :=
  if count ≤ 3 then (.ok none, s)
  else
    let (cached, key) := s.peek computeGenericHash source (clientIndicesKey source type count)
    match getTriangleFanIndicesCount count with
    | .error error => (.error (.stop error), s)
    | .ok genIndicesCount =>
      match cached with
      | some payload =>
          s.finishDraw ⟨payload.buffer, payload.offset, genIndicesCount⟩ setup
      | none =>
        match s.mTriFanClientIndexBufferPool.allocate s.device (genIndicesCount * 4) false
          newMemory with
        | (.error fault, device, pool) =>
            (.error fault, { s with device, mTriFanClientIndexBufferPool := pool })
        | (.ok allocation, device, pool) =>
            let offset := allocation.offset % 2 ^ 32
            let s := { s with device, mTriFanClientIndexBufferPool := pool }
            let s := s.generateAndKeep computeGenericHash source type count key
              allocation.buffer offset (genIndicesCount * 4)
            s.finishDraw ⟨allocation.buffer, offset, genIndicesCount⟩ setup

end

inductive Action
  /-- `glDrawElements` of a triangle fan, which syncs the state first. -/
  | drawElements (source : IndexSource) (type : DrawElementsType) (count : Nat)
      (newMemory : Option Memory) (setup : SetupDraw)
  | setPrimitiveRestart (enabled : Bool)
  /-- Another command that syncs all of the state. -/
  | syncState
  /-- The client writes its memory. -/
  | writeMemory (memory : Memory)
  /-- Another command is encoded. -/
  | ensureCommandBufferValid
  | flushCommandBufer
  | present
  | completeCommandBuffer (serial : Nat)

def step (s : ClientFanContext) : Action → Option ClientFanContext
  | .drawElements source type count newMemory setup =>
      if count < 2 ^ 31 then
        some (s.syncState.drawTriFanElements computeGenericHash source type count newMemory
          setup).2
      else none
  | .setPrimitiveRestart enabled =>
      some { s with mPrimitiveRestart := enabled, dirtyPrimitiveRestart := true }
  | .syncState => some s.syncState
  | .writeMemory memory => some { s with memory }
  | .ensureCommandBufferValid => some { s with mCmdBufferValid := true }
  | .flushCommandBufer => some s.flushCommandBufer
  | .present => some { s with mCmdBufferValid := true }.flushCommandBufer
  | .completeCommandBuffer serial =>
      some { s with device := { s.device with
        cmdQueue := s.device.cmdQueue.onCommandBufferCompleted serial } }

end Draws

def initial (d : Device) : ClientFanContext where
  device := d
  mTriFanClientIndexBufferPool :=
    BufferPool.initializePool {} 0 kIndexBufferOffsetAlignment 0

def lastGenerated (s : ClientFanContext) (buffer offset size : Nat) : Option GeneratedFan :=
  s.generated.find? fun g => g.overlaps buffer offset size

end ClientFanContext

end MetalAngle.Metal
