import MetalAngle.Lib.ByteMemory
import MetalAngle.Metal.CommandQueue

/-!
# `mtl::Resource` and `mtl::Buffer`

A Metal buffer in managed storage has a copy for the GPU and a copy for the CPU; one in
shared storage has one copy for both.  A GPU command takes effect when it is encoded.
-/

namespace MetalAngle.Metal

inductive MTLStorageMode
  | Shared
  | Managed
deriving DecidableEq

structure Device where
  /-- `TARGET_OS_OSX || TARGET_OS_MACCATALYST`. -/
  isMacOS : Bool
  forceBufferGPUStorage : Bool
  hasUnifiedMemory : Bool
  /-- No larger Metal buffer can be made. -/
  maxBufferLength : Nat
  cmdQueue : CommandQueue := {}

structure Buffer where
  hasBuffer : Bool := false
  size : Nat := 0
  storageMode : MTLStorageMode := .Shared
  gpuContents : Memory := fun _ => 0
  /-- The copy of the CPU, of a buffer in managed storage. -/
  cpuContents : Memory := fun _ => 0
  cmdBufferQueueSerial : Nat := 0
  cpuReadMemNeedSync : Bool := false
  cpuReadMemDirty : Bool := false
  mMapReadOnly : Bool := true

namespace Device

def isBeingUsedByGPU (d : Device) (b : Buffer) : Bool :=
  d.cmdQueue.isResourceBeingUsedByGPU b.cmdBufferQueueSerial

def recordingSerial (d : Device) : Nat := d.cmdQueue.mQueueSerialCounter

/-- `ContextMtl::flushCommandBufer`: the recorded command buffer is committed. -/
def flushCommandBufer (d : Device) : Device :=
  let (serial, cmdQueue) := d.cmdQueue.makeMetalCommandBuffer
  { d with cmdQueue := cmdQueue.onCommandBufferCommitted serial }

/-- `CommandQueue::ensureResourceReadyForCPU` for its only caller, which waits until the command
buffers up to the resource's serial have completed. -/
def ensureResourceReadyForCPU (d : Device) (b : Buffer) : Device :=
  { d with cmdQueue := d.cmdQueue.onCommandBufferCompleted b.cmdBufferQueueSerial }

theorem not_isBeingUsedByGPU_of_ensure (d : Device) (b : Buffer) :
    (d.ensureResourceReadyForCPU b).isBeingUsedByGPU b = false := by
  unfold ensureResourceReadyForCPU isBeingUsedByGPU CommandQueue.isResourceBeingUsedByGPU
    CommandQueue.onCommandBufferCompleted
  rw [decide_eq_false_iff_not]
  split
  case isTrue hcompleted => exact Nat.not_lt.mpr hcompleted
  case isFalse => exact Nat.not_lt.mpr (Nat.le_max_right _ _)

end Device

namespace Buffer

/-- The storage that `Buffer::reset` chooses. -/
def chooseStorageMode (d : Device) (useSharedMem : Bool) : MTLStorageMode :=
  if d.isMacOS && (!useSharedMem || d.forceBufferGPUStorage) then
    if d.hasUnifiedMemory then .Shared else .Managed
  else .Shared

/-- `Buffer::reset`, with what the new memory holds, if there is any; a failed allocation leaves
a nil buffer. -/
def reset (b : Buffer) (d : Device) (useSharedMem : Bool) (size : Nat)
    (newMemory : Option Memory) : Buffer :=
  match newMemory with
  | some contents =>
    if size ≤ d.maxBufferLength then
      { hasBuffer := true
        size
        storageMode := chooseStorageMode d useSharedMem
        gpuContents := contents
        cpuContents := contents
        mMapReadOnly := b.mMapReadOnly }
    else { mMapReadOnly := b.mMapReadOnly }
  | none => { mMapReadOnly := b.mMapReadOnly }

theorem reset_spec (b : Buffer) (d : Device) (useSharedMem : Bool) (size : Nat)
    (newMemory : Option Memory) :
    (b.reset d useSharedMem size newMemory).hasBuffer ∧
        (b.reset d useSharedMem size newMemory).size = size ∧ size ≤ d.maxBufferLength ∨
      (b.reset d useSharedMem size newMemory).hasBuffer = false ∧
        (b.reset d useSharedMem size newMemory).size = 0 := by
  cases newMemory with
  | none => exact .inr ⟨rfl, rfl⟩
  | some contents =>
    by_cases hle : size ≤ d.maxBufferLength
    · have hmade : b.reset d useSharedMem size (some contents) = _ := if_pos hle
      rw [hmade]
      exact .inl ⟨rfl, rfl, hle⟩
    · have hfailed : b.reset d useSharedMem size (some contents) = _ := if_neg hle
      rw [hfailed]
      exact .inr ⟨rfl, rfl⟩

section

variable (b : Buffer)

def useSharedMem : Bool := b.storageMode == .Shared

def setUsedByCommandBufferWithQueueSerial (serial : Nat) (writing : Bool) : Buffer :=
  { b with
    cpuReadMemNeedSync := b.cpuReadMemNeedSync || writing
    cpuReadMemDirty := b.cpuReadMemDirty || writing
    cmdBufferQueueSerial := max b.cmdBufferQueueSerial serial }

/-- What the pointer of `[get() contents]` points at. -/
def contents : Memory :=
  match b.storageMode with
  | .Shared => b.gpuContents
  | .Managed => b.cpuContents

def setContents (contents : Memory) : Buffer :=
  match b.storageMode with
  | .Shared => { b with gpuContents := contents }
  | .Managed => { b with cpuContents := contents }

/-- `EnsureContentSynced`: the blit command copies the memory of the GPU to the CPU. -/
def ensureContentSynced (d : Device) : Buffer :=
  if b.storageMode = .Managed ∧ b.cpuReadMemNeedSync then
    { b.setUsedByCommandBufferWithQueueSerial d.recordingSerial false with
      cpuContents := b.gpuContents
      cpuReadMemNeedSync := false }
  else b

def map (d : Device) (readonly noSync : Bool) : Device × Buffer :=
  let b := { b with mMapReadOnly := readonly }
  if noSync then (d, b)
  else
    let b := b.ensureContentSynced d
    let d := if d.isBeingUsedByGPU b then d.flushCommandBufer else d
    (d.ensureResourceReadyForCPU b, b)

/-- `Buffer::flush`: tell the GPU that the CPU has modified a range, clamped to the buffer. -/
def flush (offsetWritten sizeWritten : Nat) : Buffer :=
  if b.mMapReadOnly = false ∧ b.storageMode = .Managed then
    let startOffset := min offsetWritten b.size
    let endOffset := min (offsetWritten + sizeWritten) b.size
    { b with
      gpuContents := b.gpuContents.copyIn startOffset (endOffset - startOffset)
        fun i => b.cpuContents (startOffset + i) }
  else b

def unmapNoFlush : Buffer := { b with mMapReadOnly := true }

def unmap : Buffer := (b.flush 0 b.size).unmapNoFlush

/-- `unmap` of a written range; outside macOS it does not flush, but then no storage is managed. -/
def unmapRange (offsetWritten sizeWritten : Nat) : Buffer :=
  (b.flush offsetWritten sizeWritten).unmapNoFlush

end

end Buffer

end MetalAngle.Metal
