import MetalAngle.Metal.TriFanArrays
import MetalAngle.Metal.TriFanElements

/-!
# `VertexArrayMtl::getIndexBuffer`: the index buffer of a draw

Metal has no 8-bit indices and wants index buffers at offsets that are multiples of four.
Other indices are converted by the CPU or by a kernel, into a pool that belongs to the index
type, the offset modulo four and the primitive restart state, or are streamed from client
memory.
-/

namespace MetalAngle.Metal

/-- `GetDrawElementsTypeSize`. -/
def DrawElementsType.size : DrawElementsType → Nat
  | .UnsignedByte => 1
  | .UnsignedShort => 2
  | .UnsignedInt => 4

/-- The type that `getIndexBuffer` returns. -/
def DrawElementsType.converted : DrawElementsType → DrawElementsType
  | .UnsignedByte => .UnsignedShort
  | type => type

def getIndexConvertedBufferSize (indexType : DrawElementsType) (indexCount : Nat) : Nat :=
  indexType.converted.size * indexCount

def getIndexCount (size offset : Nat) (indexType : DrawElementsType) : Nat :=
  (size - offset) / indexType.size

def getIndexAligned (n : Nat) (inputAligned : Memory) (offset idx : Nat) : Nat :=
  inputAligned.readLE n (n * ((offset / n + idx) % 2 ^ 32))

def getIndexUnalignedU16 (input : Memory) (offset idx : Nat) : Nat :=
  let inputLo := (input ((offset + 2 * idx) % 2 ^ 32)).toNat
  let inputHi := (input ((offset + 2 * idx + 1) % 2 ^ 32)).toNat
  inputLo ||| (inputHi <<< 8)

def getIndexUnalignedU32 (input : Memory) (offset idx : Nat) : Nat :=
  let input0 := (input ((offset + 4 * idx) % 2 ^ 32)).toNat
  let input1 := (input ((offset + 4 * idx + 1) % 2 ^ 32)).toNat
  let input2 := (input ((offset + 4 * idx + 2) % 2 ^ 32)).toNat
  let input3 := (input ((offset + 4 * idx + 3) % 2 ^ 32)).toNat
  input0 ||| (input1 <<< 8) ||| (input2 <<< 16) ||| (input3 <<< 24)

/-- One thread of `convertIndexU8ToU16`; the output array begins at `dstOffset`. -/
def convertIndexU8ToU16 (primitiveRestartEnabled : Bool) (input : Memory)
    (srcOffset dstOffset : Nat) (output : Memory) (idx : Nat) : Memory :=
  let value := getIndexAligned 1 input srcOffset idx
  if primitiveRestartEnabled ∧ value = 0xff then output.writeLE 2 (dstOffset + 2 * idx) 0xffff
  else output.writeLE 2 (dstOffset + 2 * idx) value

def convertIndexU16 (input : Memory) (srcOffset dstOffset : Nat) (output : Memory) (idx : Nat) :
    Memory :=
  let value := if srcOffset % 2 = 0 then getIndexAligned 2 input srcOffset idx
    else getIndexUnalignedU16 input srcOffset idx
  output.writeLE 2 (dstOffset + 2 * idx) value

def convertIndexU32 (input : Memory) (srcOffset dstOffset : Nat) (output : Memory) (idx : Nat) :
    Memory :=
  let value := if srcOffset % 4 = 0 then getIndexAligned 4 input srcOffset idx
    else getIndexUnalignedU32 input srcOffset idx
  output.writeLE 4 (dstOffset + 4 * idx) value

/-- The kernel that `getIndexConversionPipeline` chooses. -/
def indexConversionKernel (srcType : DrawElementsType) (primitiveRestartEnabled : Bool)
    (input : Memory) (srcOffset dstOffset : Nat) : Memory → Nat → Memory :=
  match srcType with
  | .UnsignedByte => convertIndexU8ToU16 primitiveRestartEnabled input srcOffset dstOffset
  | .UnsignedShort => convertIndexU16 input srcOffset dstOffset
  | .UnsignedInt => convertIndexU32 input srcOffset dstOffset

/-- `RenderUtils::convertIndexBufferGPU` on its destination buffer; a nil buffer takes no
writes. -/
def dispatchIndexConversion (serial : Nat) (srcType : DrawElementsType)
    (primitiveRestartEnabled : Bool) (input : Memory) (indexCount srcOffset dstOffset : Nat)
    (dstBuffer : Buffer) : Buffer :=
  let written := dstBuffer.setUsedByCommandBufferWithQueueSerial serial true
  if dstBuffer.hasBuffer then
    { written with
      gpuContents := (List.range indexCount).foldl
        (indexConversionKernel srcType primitiveRestartEnabled input srcOffset dstOffset)
        dstBuffer.gpuContents }
  else written

/-- One round of the loops of `StreamIndexData` over 8-bit indices. -/
def expandIndex (primitiveRestartEnabled : Bool) (source : Memory) (start dstOffset : Nat)
    (dst : Memory) (index : Nat) : Memory :=
  if primitiveRestartEnabled ∧ source (start + index) = 0xff then
    dst.writeLE 2 (dstOffset + 2 * index) 0xffff
  else dst.writeLE 2 (dstOffset + 2 * index) (source (start + index)).toNat

/-- What `StreamIndexData` writes from `dstOffset` on. -/
def writeIndexData (indexType : DrawElementsType) (primitiveRestartEnabled : Bool)
    (source : Memory) (start indexCount dstOffset : Nat) (dst : Memory) : Memory :=
  match indexType with
  | .UnsignedByte =>
      (List.range indexCount).foldl (expandIndex primitiveRestartEnabled source start dstOffset)
        dst
  | _ => dst.copyIn dstOffset (getIndexConvertedBufferSize indexType indexCount)
      fun i => source (start + i)

def streamIndexData (d : Device) (dynamicBuffer : BufferPool) (source : Memory) (start : Nat)
    (indexType : DrawElementsType) (indexCount : Nat) (primitiveRestartEnabled : Bool)
    (newMemory : Option Memory) : Except PoolFault BufferPool.Allocation × Device × BufferPool :=
  let amount := getIndexConvertedBufferSize indexType indexCount
  match dynamicBuffer.allocate d amount true newMemory with
  | (.error fault, d, pool) => (.error fault, d, pool)
  | (.ok allocation, d, pool) =>
      let pool := pool.updateBuffer allocation.buffer fun b =>
        b.setContents (writeIndexData indexType primitiveRestartEnabled source start indexCount
          allocation.offset b.contents)
      (.ok allocation, d, pool.commit)

def kConvertedElementArrayBufferInitialSize : Nat := 1024 * 8

/-- An `IndexConversionBufferMtl`. -/
structure IndexConversionBuffer where
  elemType : DrawElementsType
  offset : Nat
  primitiveRestartEnabled : Bool
  dirty : Bool := true
  convertedBuffer : Option Nat := none
  convertedOffset : Nat := 0
  data : BufferPool :=
    BufferPool.initializePool {} kConvertedElementArrayBufferInitialSize
      kIndexBufferOffsetAlignment 0

structure IndexConversionKey where
  elemType : DrawElementsType
  primitiveRestartEnabled : Bool
  offset : Nat
deriving DecidableEq

namespace IndexConversionBuffer

def key (conversion : IndexConversionBuffer) : IndexConversionKey where
  __ := conversion

def new (k : IndexConversionKey) : IndexConversionBuffer where
  __ := k

def markDirty (conversion : IndexConversionBuffer) : IndexConversionBuffer :=
  { conversion with
    dirty := true
    convertedBuffer := none
    convertedOffset := 0 }

end IndexConversionBuffer

/-- `getIndexConversionBuffer`: the first conversion buffer with the key, or a new one. -/
def getIndexConversionBuffer (k : IndexConversionKey) (buffers : List IndexConversionBuffer) :
    IndexConversionBuffer :=
  (buffers.find? fun buffer => buffer.key = k).getD (.new k)

def putIndexConversionBuffer (k : IndexConversionKey) (conversion : IndexConversionBuffer) :
    List IndexConversionBuffer → List IndexConversionBuffer
  | [] => [conversion]
  | buffer :: rest =>
      if buffer.key = k then conversion :: rest
      else buffer :: putIndexConversionBuffer k conversion rest

/-- `convertIndexBufferGPU` from the index buffer's contents.  The kernel runs when its command
buffer is committed, which is after the pool's commit. -/
def convertIndexBufferGPU (d : Device) (idxBuffer : Memory) (indexCount : Nat)
    (conversion : IndexConversionBuffer) (newMemory : Option Memory) :
    Except PoolFault Unit × Device × IndexConversionBuffer :=
  let amount := getIndexConvertedBufferSize conversion.elemType indexCount
  match (conversion.data.releaseInFlightBuffers d).allocate d amount false newMemory with
  | (.error fault, d, pool) => (.error fault, d, { conversion with data := pool })
  | (.ok allocation, d, pool) =>
    let pool := pool.commit.updateBuffer allocation.buffer
      (dispatchIndexConversion d.recordingSerial conversion.elemType
        conversion.primitiveRestartEnabled idxBuffer (indexCount % 2 ^ 32) conversion.offset
        (allocation.offset % 2 ^ 32))
    (.ok (), d, { conversion with
      data := pool
      convertedBuffer := some allocation.buffer
      convertedOffset := allocation.offset
      dirty := false })

def convertIndexBufferCPU (d : Device) (idxBuffer : Memory) (indexCount : Nat)
    (conversion : IndexConversionBuffer) (newMemory : Option Memory) :
    Except PoolFault Unit × Device × IndexConversionBuffer :=
  match streamIndexData d (conversion.data.releaseInFlightBuffers d) idxBuffer conversion.offset
      conversion.elemType indexCount conversion.primitiveRestartEnabled newMemory with
  | (.error fault, d, pool) => (.error fault, d, { conversion with data := pool })
  | (.ok allocation, d, pool) =>
      (.ok (), d, { conversion with
        data := pool
        convertedBuffer := some allocation.buffer
        convertedOffset := allocation.offset })

structure IndexBinding where
  contents : Memory
  size : Nat
  offset : Nat
  indexType : DrawElementsType

/-- The device, the element array buffer with its conversion buffers, and the pool that client
indices are streamed to. -/
structure IndexState where
  device : Device
  elementArrayBuffer : Memory := fun _ => 0
  elementArrayBufferSize : Nat := 0
  mIndexConversionBuffers : List IndexConversionBuffer := []
  mClientIndexBufferPool : BufferPool :=
    BufferPool.initializePool {} 0 kIndexBufferOffsetAlignment 0

namespace IndexState

def bind (pool : BufferPool) (buffer : Option Nat) (offset : Nat) (indexType : DrawElementsType) :
    Option IndexBinding :=
  buffer.map fun buffer => {
    contents := (pool.heap buffer).gpuContents
    size := (pool.heap buffer).size
    offset
    indexType }

def alignedOffset (indexType : DrawElementsType) (offset : Nat) : Nat :=
  let alignedOffset := offset - offset % kIndexBufferOffsetAlignment
  if indexType = .UnsignedByte then alignedOffset <<< 1 else alignedOffset

/-- `convertIndexBuffer`; `useCPU` is whether a render pass is open that is not cheap to break. -/
def convertIndexBuffer (s : IndexState) (indexType : DrawElementsType) (offset : Nat)
    (primitiveRestartEnabled useCPU : Bool) (newMemory : Option Memory) :
    Except PoolFault (Option IndexBinding) × IndexState :=
  let k : IndexConversionKey := {
    elemType := indexType
    primitiveRestartEnabled
    offset := offset % kIndexBufferOffsetAlignment }
  let conversion := getIndexConversionBuffer k s.mIndexConversionBuffers
  let (result, d, conversion) :=
    if conversion.dirty = false then (.ok (), s.device, conversion)
    else
      let indexCount := getIndexCount s.elementArrayBufferSize conversion.offset indexType
      if useCPU then
        convertIndexBufferCPU s.device s.elementArrayBuffer indexCount conversion newMemory
      else convertIndexBufferGPU s.device s.elementArrayBuffer indexCount conversion newMemory
  let s := { s with
    device := d
    mIndexConversionBuffers := putIndexConversionBuffer k conversion s.mIndexConversionBuffers }
  match result with
  | .error fault => (.error fault, s)
  | .ok () =>
      (.ok (bind conversion.data conversion.convertedBuffer
        (conversion.convertedOffset + alignedOffset indexType offset) indexType.converted), s)

def getIndexBuffer (s : IndexState) (type : DrawElementsType) (indices : Nat)
    (primitiveRestartEnabled useCPU : Bool) (newMemory : Option Memory) :
    Except PoolFault (Option IndexBinding) × IndexState :=
  if type = .UnsignedByte ∨ indices % kIndexBufferOffsetAlignment ≠ 0 then
    s.convertIndexBuffer type indices primitiveRestartEnabled useCPU newMemory
  else
    (.ok (some {
      contents := s.elementArrayBuffer
      size := s.elementArrayBufferSize
      offset := indices
      indexType := type }), s)

/-- `getIndexBuffer` without an element array buffer, from client memory. -/
def streamIndexBufferFromClient (s : IndexState) (indexType : DrawElementsType)
    (indexCount : Nat) (source : Memory) (primitiveRestartEnabled : Bool)
    (newMemory : Option Memory) : Except PoolFault (Option IndexBinding) × IndexState :=
  match streamIndexData s.device s.mClientIndexBufferPool source 0 indexType indexCount
      primitiveRestartEnabled newMemory with
  | (.error fault, device, pool) =>
      (.error fault, { s with device, mClientIndexBufferPool := pool })
  | (.ok allocation, device, pool) =>
      (.ok (bind pool (some allocation.buffer) allocation.offset indexType.converted),
        { s with device, mClientIndexBufferPool := pool })

inductive Action
  /-- A draw with the element array buffer. -/
  | drawElements (type : DrawElementsType) (indices count : Nat)
      (primitiveRestartEnabled useCPU : Bool) (newMemory : Option Memory)
  /-- A draw with client indices. -/
  | drawClientElements (type : DrawElementsType) (indices : Memory) (count : Nat)
      (primitiveRestartEnabled : Bool) (newMemory : Option Memory)
  /-- The element array buffer gets a new store. -/
  | setData (contents : Memory) (size : Nat)
  /-- Part of it gets new contents. -/
  | setSubData (contents : Memory) (offset size : Nat)
  | flushCommandBufer
  | completeCommandBuffer (serial : Nat)
  /-- The end of a frame. -/
  | releaseInFlightBuffers

/-- One action.  A draw has a positive 32-bit count and stays inside the element array buffer. -/
def step (s : IndexState) : Action → Option IndexState
  | .drawElements type indices count primitiveRestartEnabled useCPU newMemory =>
      if 0 < count ∧ count < 2 ^ 31 ∧ indices + type.size * count ≤ s.elementArrayBufferSize then
        some (s.getIndexBuffer type indices primitiveRestartEnabled useCPU newMemory).2
      else none
  | .drawClientElements type indices count primitiveRestartEnabled newMemory =>
      if 0 < count ∧ count < 2 ^ 31 then
        some (s.streamIndexBufferFromClient type count indices primitiveRestartEnabled
          newMemory).2
      else none
  | .setData contents size =>
      some { s with
        elementArrayBuffer := contents
        elementArrayBufferSize := size
        mIndexConversionBuffers := [] }
  | .setSubData contents offset size =>
      some { s with
        elementArrayBuffer := s.elementArrayBuffer.copyIn offset size contents
        mIndexConversionBuffers := s.mIndexConversionBuffers.map (·.markDirty) }
  | .flushCommandBufer => some { s with device := s.device.flushCommandBufer }
  | .completeCommandBuffer serial =>
      some { s with device := { s.device with
        cmdQueue := s.device.cmdQueue.onCommandBufferCompleted serial } }
  | .releaseInFlightBuffers =>
      some { s with
        mClientIndexBufferPool := s.mClientIndexBufferPool.releaseInFlightBuffers s.device }

end IndexState

end MetalAngle.Metal
