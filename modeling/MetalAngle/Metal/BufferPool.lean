import MetalAngle.Metal.Resources
import MetalAngle.Metal.Utils

/-!
# `BufferPool`

The pool hands out regions of its current buffer and replaces the buffer when it is full.
The buffers that the pool has made are named by numbers.  The ghost members `tenure` and
`past` say what happened to each buffer while it was the current one.
-/

namespace MetalAngle.Metal

def roundUp (bits value alignment : Nat) : Nat :=
  let temp := (value + alignment - 1) % 2 ^ bits
  temp - temp % alignment

inductive BufferPoolMemPolicy
  | AlwaysSharedMem
  | AlwaysGPUMem
  | Auto

def kSharedMemBufferMaxBufSizeHint : Nat := 128 * 1024

/-- A region that `allocate` has returned, with the alignment in force and whether a pointer was
returned with it. -/
structure Region where
  offset : Nat
  sizeInBytes : Nat
  alignment : Nat
  mapped : Bool
deriving Repr

/-- A range passed to `Buffer::flush`, clamped as there, and whether the buffer was mapped for
writing. -/
structure FlushedRange where
  startOffset : Nat
  endOffset : Nat
  forWrite : Bool
deriving Repr

structure Tenure where
  bufferSize : Nat := 0
  fromFreeList : Bool := false
  usedByGPU : Bool := false
  regions : List Region := []
  flushes : List FlushedRange := []

structure BufferPool where
  heap : Nat → Buffer := fun _ => {}
  buffersMade : Nat := 0
  mInitialSize : Nat := 0
  mBuffer : Option Nat := none
  mNextAllocationOffset : Nat := 0
  mLastFlushOffset : Nat := 0
  mSize : Nat := 0
  mAlignment : Nat := 1
  mInFlightBuffers : List Nat := []
  mBufferFreeList : List Nat := []
  mBuffersAllocated : Nat := 0
  mMaxBuffers : Nat := 0
  mMemPolicy : BufferPoolMemPolicy := .Auto
  mAlwaysAllocateNewBuffer : Bool := false
  tenure : Tenure := {}
  past : List Tenure := []

inductive PoolFault
  | stop (error : StopError)
  /-- `front()` of an empty free list. -/
  | emptyFreeList
deriving DecidableEq

/-- `ANGLE_MTL_CHECK(context, false, GL_OUT_OF_MEMORY)`; the message is that of the Metal error. -/
def outOfMemory : PoolFault := .stop { code := .outOfMemory, message := "" }

namespace BufferPool

def shouldAllocateInSharedMem (pool : BufferPool) (d : Device) : Bool :=
  if d.forceBufferGPUStorage then false
  else
    match pool.mMemPolicy with
    | .AlwaysSharedMem => true
    | .AlwaysGPUMem => false
    | .Auto => decide (pool.mSize ≤ kSharedMemBufferMaxBufSizeHint)

def updateBuffer (pool : BufferPool) (buffer : Nat) (f : Buffer → Buffer) : BufferPool :=
  { pool with heap := Function.update pool.heap buffer (f (pool.heap buffer)) }

theorem updateBuffer_heap_self (pool : BufferPool) (buffer : Nat) (f : Buffer → Buffer) :
    (pool.updateBuffer buffer f).heap buffer = f (pool.heap buffer) :=
  Function.update_self buffer _ pool.heap

theorem updateBuffer_heap_of_ne (pool : BufferPool) {buffer b : Nat} (f : Buffer → Buffer)
    (hne : b ≠ buffer) : (pool.updateBuffer buffer f).heap b = pool.heap b :=
  Function.update_of_ne hne _ pool.heap

def updateAlignment (pool : BufferPool) (alignment : Nat) : BufferPool :=
  if alignment ≠ pool.mAlignment then
    { pool with
      mNextAllocationOffset := roundUp 32 pool.mNextAllocationOffset (alignment % 2 ^ 32)
      mAlignment := alignment }
  else pool

/-- `initialize`, which is an invalid call while the pool has buffers. -/
def initializePool (pool : BufferPool) (initialSize alignment maxBuffers : Nat) : BufferPool :=
  { pool with mInitialSize := initialSize, mMaxBuffers := maxBuffers }.updateAlignment alignment

def commit (pool : BufferPool) : BufferPool :=
  match pool.mBuffer with
  | none => pool
  | some buffer =>
    if pool.mNextAllocationOffset > pool.mLastFlushOffset then
      let size := (pool.heap buffer).size
      let flushed : FlushedRange := {
        startOffset := min pool.mLastFlushOffset size
        endOffset := min pool.mNextAllocationOffset size
        forWrite := !(pool.heap buffer).mMapReadOnly }
      { pool.updateBuffer buffer (·.flush pool.mLastFlushOffset
          (pool.mNextAllocationOffset - pool.mLastFlushOffset)) with
        mLastFlushOffset := pool.mNextAllocationOffset
        tenure := { pool.tenure with flushes := flushed :: pool.tenure.flushes } }
    else pool

def finalizePendingBuffer (pool : BufferPool) : BufferPool :=
  let pool := match pool.mBuffer with
    | none => pool
    | some buffer =>
      let pool := pool.commit
      { pool.updateBuffer buffer (·.unmapNoFlush) with
        mInFlightBuffers := pool.mInFlightBuffers ++ [buffer]
        mBuffer := none
        past := pool.tenure :: pool.past
        tenure := {} }
  { pool with mNextAllocationOffset := 0, mLastFlushOffset := 0 }

/-- One round of the loop of `releaseInFlightBuffers`. -/
def releaseInFlightBuffer (d : Device) (pool : BufferPool) (toRelease : Nat) : BufferPool :=
  let b := pool.heap toRelease
  if b.size < pool.mSize ∨
      (d.isMacOS ∧ b.useSharedMem ≠ pool.shouldAllocateInSharedMem d) then
    { pool with mBuffersAllocated := (pool.mBuffersAllocated + (2 ^ 64 - 1)) % 2 ^ 64 }
  else { pool with mBufferFreeList := pool.mBufferFreeList ++ [toRelease] }

section

variable (pool : BufferPool)

def releaseInFlightBuffers (d : Device) : BufferPool :=
  { pool.mInFlightBuffers.foldl (releaseInFlightBuffer d) pool with mInFlightBuffers := [] }

/-- `destroyBufferList` of the free list. -/
def destroyFreeList : BufferPool :=
  { pool with
    mBuffersAllocated :=
      (pool.mBuffersAllocated + (2 ^ 64 - pool.mBufferFreeList.length % 2 ^ 64)) % 2 ^ 64
    mBufferFreeList := [] }

def takeFront (d : Device) (front : Nat) (rest : List Nat) : BufferPool :=
  { pool with
    mBuffer := some front
    mBufferFreeList := rest
    tenure := {
      bufferSize := (pool.heap front).size
      fromFreeList := true
      usedByGPU := d.isBeingUsedByGPU (pool.heap front) } }

/-- `Buffer::MakeBuffer` into `mBuffer`, which is left with a nil buffer when it fails. -/
def makeBuffer (d : Device) (newMemory : Option Memory) :
    Except PoolFault Unit × BufferPool :=
  let b := ({} : Buffer).reset d (pool.shouldAllocateInSharedMem d) pool.mSize newMemory
  let pool := { pool with
    heap := Function.update pool.heap pool.buffersMade b
    buffersMade := pool.buffersMade + 1
    mBuffer := some pool.buffersMade
    tenure := { bufferSize := b.size } }
  if b.hasBuffer then
    (.ok (), { pool with mBuffersAllocated := (pool.mBuffersAllocated + 1) % 2 ^ 64 })
  else (.error outOfMemory, pool)

def reachedMaxBuffers : Bool :=
  decide (0 < pool.mMaxBuffers ∧ pool.mMaxBuffers ≤ pool.mBuffersAllocated)

def allocateNewBuffer (d : Device) (newMemory : Option Memory) :
    Except PoolFault Unit × Device × BufferPool :=
  let pool := if pool.reachedMaxBuffers then pool.releaseInFlightBuffers d else pool
  if pool.reachedMaxBuffers then
    match pool.mBufferFreeList with
    | [] => (.error .emptyFreeList, d, pool)
    | front :: rest =>
        let b := pool.heap front
        let d :=
          if d.isBeingUsedByGPU b then d.flushCommandBufer.ensureResourceReadyForCPU b else d
        (.ok (), d, pool.takeFront d front rest)
  else
    let (result, pool) := pool.makeBuffer d newMemory
    (result, d, pool)

def nextBuffer (d : Device) (newMemory : Option Memory) :
    Except PoolFault Unit × Device × BufferPool :=
  match pool.mBufferFreeList with
  | [] => pool.allocateNewBuffer d newMemory
  | front :: rest =>
      if d.isBeingUsedByGPU (pool.heap front) then pool.allocateNewBuffer d newMemory
      else (.ok (), d, pool.takeFront d front rest)

/-- The branch of `allocate` that replaces the current buffer. -/
def switchBuffer (d : Device) (sizeToAllocate : Nat)
    (newMemory : Option Memory) : Except PoolFault Unit × Device × BufferPool :=
  let pool := if pool.mBuffer.isSome then pool.finalizePendingBuffer else pool
  let pool :=
    if sizeToAllocate > pool.mSize then
      -- the free buffers are now too small
      { pool with mSize := max pool.mInitialSize sizeToAllocate }.destroyFreeList
    else pool
  match pool.nextBuffer d newMemory with
  | (.ok (), d, pool) =>
      (.ok (), d, { pool with mNextAllocationOffset := 0, mLastFlushOffset := 0 })
  | (.error fault, d, pool) => (.error fault, d, pool)

/-- Whether `allocate` replaces the current buffer. -/
def needsNewBuffer (sizeToAllocate : Nat) : Bool :=
  match pool.mBuffer with
  | none => true
  | some buffer =>
      decide (2 ^ 64 ≤ pool.mNextAllocationOffset + sizeToAllocate) ||
        decide (pool.mSize ≤ pool.mNextAllocationOffset + sizeToAllocate) ||
        (pool.heap buffer).cpuReadMemNeedSync || pool.mAlwaysAllocateNewBuffer

/-- The region at the next offset of the current buffer, mapped without synchronisation if a
pointer is wanted. -/
def handOut (buffer sizeInBytes sizeToAllocate : Nat) (wantPtr : Bool) :
    BufferPool :=
  let region : Region := {
    offset := pool.mNextAllocationOffset
    sizeInBytes
    alignment := pool.mAlignment
    mapped := wantPtr }
  { pool.updateBuffer buffer fun b => if wantPtr then { b with mMapReadOnly := false } else b with
    mNextAllocationOffset := (pool.mNextAllocationOffset + sizeToAllocate % 2 ^ 32) % 2 ^ 32
    tenure := { pool.tenure with regions := region :: pool.tenure.regions } }

end

/-- What `allocate` returns. -/
structure Allocation where
  buffer : Nat
  offset : Nat
  newBufferAllocated : Bool
deriving DecidableEq

def allocate (pool : BufferPool) (d : Device) (sizeInBytes : Nat) (wantPtr : Bool)
    (newMemory : Option Memory) : Except PoolFault Allocation × Device × BufferPool :=
  let sizeToAllocate := roundUp 64 sizeInBytes pool.mAlignment
  let newBufferAllocated := pool.needsNewBuffer sizeToAllocate
  let (result, d, pool) :=
    if newBufferAllocated then pool.switchBuffer d sizeToAllocate newMemory
    else (.ok (), d, pool)
  match result, pool.mBuffer with
  | .error fault, _ => (.error fault, d, pool)
  | .ok (), none => (.error .emptyFreeList, d, pool)  -- not reached: a switch sets the buffer
  | .ok (), some buffer =>
      (.ok { buffer, offset := pool.mNextAllocationOffset, newBufferAllocated }, d,
        pool.handOut buffer sizeInBytes sizeToAllocate wantPtr)

end BufferPool

structure PoolSystem where
  device : Device
  pool : BufferPool

namespace PoolSystem

inductive Action
  | initializePool (initialSize alignment maxBuffers : Nat)
  /-- With the memory that a new Metal buffer gets, if there is any. -/
  | allocate (sizeInBytes : Nat) (wantPtr : Bool) (newMemory : Option Memory)
  | commit
  | releaseInFlightBuffers
  | updateAlignment (alignment : Nat)
  /-- A command buffer with this serial uses a buffer of the pool. -/
  | useByGPU (buffer serial : Nat) (writing : Bool)
  | completeCommandBuffer (serial : Nat)

/-- One action.  Alignments are positive, `initialize` is called only without buffers, and a
rounded size is below 2^32. -/
def step (s : PoolSystem) : Action → Option PoolSystem
  | .initializePool initialSize alignment maxBuffers =>
      if s.pool.mBuffersAllocated = 0 ∧ 0 < alignment then
        some { s with pool := s.pool.initializePool initialSize alignment maxBuffers }
      else none
  | .allocate sizeInBytes wantPtr newMemory =>
      if (sizeInBytes + s.pool.mAlignment - 1) / s.pool.mAlignment * s.pool.mAlignment < 2 ^ 32
      then
        let (_, device, pool) := s.pool.allocate s.device sizeInBytes wantPtr newMemory
        some { device, pool }
      else none
  | .commit => some { s with pool := s.pool.commit }
  | .releaseInFlightBuffers => some { s with pool := s.pool.releaseInFlightBuffers s.device }
  | .updateAlignment alignment =>
      if 0 < alignment then some { s with pool := s.pool.updateAlignment alignment } else none
  | .useByGPU buffer serial writing =>
      some { s with
        pool := s.pool.updateBuffer buffer fun b =>
          b.setUsedByCommandBufferWithQueueSerial serial writing }
  | .completeCommandBuffer serial =>
      some { s with device := { s.device with
        cmdQueue := s.device.cmdQueue.onCommandBufferCompleted serial } }

end PoolSystem

end MetalAngle.Metal
